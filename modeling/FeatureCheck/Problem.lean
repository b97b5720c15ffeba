/-!
# Problems with a context

An operation may say what it was about when it failed. Of several contexts the last one counts.
-/

namespace FeatureCheck

set_option autoImplicit false

structure Problem (ε : Type) where
  cause : ε
  context : Option String := none
  deriving DecidableEq, Repr

namespace Problem

variable {ε : Type}

def inContext (problem : Problem ε) (context : String) : Problem ε :=
  { problem with context := some context }

/-- The context in brackets, behind what goes wrong. -/
def contextNote (problem : Problem ε) : String :=
  problem.context.elim "" fun context => " (" ++ context ++ ")"

def describe (label : ε → String) (details : ε → String) (problem : Problem ε) : String :=
  label problem.cause ++ problem.contextNote ++ ": " ++ details problem.cause

end Problem

theorem toOption_eq_some_iff {ε α : Type} {outcome : Except ε α} {value : α} :
    outcome.toOption = some value ↔ outcome = .ok value := by
  cases outcome <;> simp [Except.toOption]

end FeatureCheck
