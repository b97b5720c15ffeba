import FeatureCheck.Text.Ascii
import FeatureCheck.Text.Space
import Std.Data.ExtTreeMap

/-!
# Runtime identities

A catalog is published for a kind of server runtime and a version of it. Identities are ordered by
kind, then by version.
-/

namespace FeatureCheck

set_option autoImplicit false

inductive RuntimeKind where
  | ol
  | wlp
  deriving DecidableEq, Repr, Inhabited

/-- A word that names no runtime kind, in lower case. -/
structure UnknownRuntimeKind where
  word : String
  deriving DecidableEq, Repr

def UnknownRuntimeKind.message (error : UnknownRuntimeKind) : String :=
  "Unknown runtime kind '" ++ error.word ++ "'"

namespace RuntimeKind

def word : RuntimeKind → String
  | .ol => "ol"
  | .wlp => "wlp"

def rank : RuntimeKind → Nat
  | .ol => 0
  | .wlp => 1

/-- The kind that a word names in stored data: the short or the long word, exactly. -/
def ofWord? (word : String) : Option RuntimeKind :=
  if word = "ol" ∨ word = "openliberty" then some .ol
  else if word = "wlp" ∨ word = "websphereliberty" then some .wlp
  else none

@[simp] theorem ofWord?_word (kind : RuntimeKind) : ofWord? kind.word = some kind := by
  cases kind <;> decide

def parse (text : String) : Except UnknownRuntimeKind RuntimeKind :=
  let word := (Text.trim text).map Char.toLower
  match ofWord? word with
  | some kind => .ok kind
  | none => .error ⟨word⟩

end RuntimeKind

structure RuntimeIdentity where
  kind : RuntimeKind
  version : String
  deriving DecidableEq, Repr, Inhabited

instance : Ord RuntimeIdentity :=
  ⟨compareLex (compareOn (·.kind.rank)) (compareOn (·.version))⟩

instance : Std.TransOrd RuntimeIdentity :=
  inferInstanceAs (Std.TransCmp
    (compareLex (compareOn fun identity : RuntimeIdentity => identity.kind.rank)
      (compareOn (·.version))))

instance : Std.LawfulEqOrd RuntimeIdentity where
  eq_of_compare {left right} h := by
    have h : compareLex (compareOn fun identity : RuntimeIdentity => identity.kind.rank)
        (compareOn (·.version)) left right = .eq := h
    rw [compareLex_eq_eq] at h
    obtain ⟨hkind, hversion⟩ := h
    simp only [compareOn, Std.compare_eq_iff_eq] at hkind hversion
    rcases left with ⟨kind, version⟩
    rcases right with ⟨kind', version'⟩
    cases kind <;> cases kind' <;> simp_all [RuntimeKind.rank]

namespace RuntimeIdentity

def of (kind : RuntimeKind) (version : String) : RuntimeIdentity :=
  ⟨kind, Text.trim version⟩

/-- Betas never publish a remote catalog. -/
def isBeta (identity : RuntimeIdentity) : Bool :=
  "-beta".toList.isSuffixOf (identity.version.toList.map Char.toLower)

def display (identity : RuntimeIdentity) : String :=
  identity.kind.word ++ "@" ++ identity.version

def sort (identities : List RuntimeIdentity) : List RuntimeIdentity :=
  identities.mergeSort fun left right => (compare left right).isLE

end RuntimeIdentity

end FeatureCheck
