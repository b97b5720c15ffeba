import FeatureCheck.Tables
import Mathlib.Data.List.Nodup
import Mathlib.Data.List.Pairwise

/-!
# Reading a table in both directions

If no name stands twice in a table, `counterpart?` gives the other side of the entry that has the
name, whichever side that is: `counterpart?_eq_some_iff`. Then each entry is found both ways. Both
standard tables are of this kind.
-/

namespace FeatureCheck

set_option autoImplicit false

/-- Two names are the sides of one entry, in lower case. -/
def Counterparts (table : NameMap String) (name other : String) : Prop :=
  ∃ entry ∈ table.toList,
    name = Text.lowercase entry.1 ∧ other = Text.lowercase entry.2 ∨
      name = Text.lowercase entry.2 ∧ other = Text.lowercase entry.1

def sides (table : NameMap String) : List String :=
  table.toList.flatMap fun entry => [Text.lowercase entry.1, Text.lowercase entry.2]

def isAscii (text : String) : Bool :=
  text.toList.all fun c => c.toNat < 0x80

/-- No name stands twice in the table, and lower case is a matter of ASCII letters. -/
structure Unambiguous (table : NameMap String) : Prop where
  ascii : ∀ entry ∈ table.toList, isAscii entry.1 ∧ isAscii entry.2
  nodup : (sides table).Nodup

variable {table : NameMap String} {name other : String} {entry : String × String}

theorem Text.map_toLower_lowercase (text : String) :
    (Text.lowercase text).toList.map Char.toLower = (Text.lowercase text).toList := by
  rw [Text.lowercase, String.toList_ofList, Text.lowerChars, List.map_congr_left fun c hc =>
    Text.toLower_of_mem_lowerFrom hc, List.map_id']

theorem Counterparts.symm (h : Counterparts table name other) : Counterparts table other name := by
  obtain ⟨entry, hentry, ⟨hname, hother⟩ | ⟨hname, hother⟩⟩ := h
  · exact ⟨entry, hentry, Or.inr ⟨hother, hname⟩⟩
  · exact ⟨entry, hentry, Or.inl ⟨hother, hname⟩⟩

theorem equalsIgnoringCase_iff {side : String} (hside : isAscii side)
    (hname : name.toList.map Char.toLower = name.toList) :
    Text.equalsIgnoringCase side name ↔ name = Text.lowercase side := by
  have hascii : ∀ c ∈ side.toList, c.toNat < 0x80 := by simpa [isAscii] using hside
  have hlower : Text.lowercase side = String.ofList (side.toList.map Char.toLower) := by
    rw [Text.lowercase, Text.lowerChars, Text.lowerFrom_ascii hascii]
  rw [Text.equalsIgnoringCase, hname, beq_iff_eq, hlower]
  constructor
  · intro heq
    rw [heq, String.ofList_toList]
  · intro heq
    rw [heq, String.toList_ofList]

namespace Unambiguous

theorem ne_of_mem (h : Unambiguous table) (hentry : entry ∈ table.toList) :
    Text.lowercase entry.1 ≠ Text.lowercase entry.2 := by
  have hpair := (List.nodup_flatMap.mp h.nodup).1 entry hentry
  simpa using hpair

/-- An entry is known by either of its sides. -/
theorem eq_of_mem (h : Unambiguous table) {second : String × String}
    (hentry : entry ∈ table.toList) (hsecond : second ∈ table.toList)
    (hname : name = Text.lowercase entry.1 ∨ name = Text.lowercase entry.2)
    (hname' : name = Text.lowercase second.1 ∨ name = Text.lowercase second.2) :
    entry = second := by
  have hsymm : Std.Symm (Function.onFun List.Disjoint
      fun entry : String × String => [Text.lowercase entry.1, Text.lowercase entry.2]) :=
    ⟨fun _ _ hdisjoint _ hname hname' => hdisjoint hname' hname⟩
  by_contra hne
  have hdisjoint := (List.nodup_flatMap.mp h.nodup).2.forall hentry hsecond hne
  have hfirst : name ∈ [Text.lowercase entry.1, Text.lowercase entry.2] := by simpa using hname
  exact hdisjoint hfirst (by simpa using hname')

/-- The sides of an entry differ, so the order in which they are tried does not matter. -/
theorem otherSide?_eq_some_iff (h : Unambiguous table) (hentry : entry ∈ table.toList)
    (hname : name.toList.map Char.toLower = name.toList) :
    otherSide? name entry = some other ↔
      name = Text.lowercase entry.1 ∧ other = Text.lowercase entry.2 ∨
        name = Text.lowercase entry.2 ∧ other = Text.lowercase entry.1 := by
  have hleft : Text.equalsIgnoringCase entry.1 name ↔ name = Text.lowercase entry.1 :=
    equalsIgnoringCase_iff (h.ascii entry hentry).1 hname
  have hright : Text.equalsIgnoringCase entry.2 name ↔ name = Text.lowercase entry.2 :=
    equalsIgnoringCase_iff (h.ascii entry hentry).2 hname
  have hne := h.ne_of_mem hentry
  simp only [otherSide?, hleft, hright]
  split
  · rename_i heq
    simp [heq, hne, eq_comm]
  · rename_i hleft_ne
    simp [hleft_ne, eq_comm]

end Unambiguous

theorem counterpart?_eq_some_iff (h : Unambiguous table)
    (hname : name.toList.map Char.toLower = name.toList) :
    counterpart? table name = some other ↔ Counterparts table name other := by
  constructor
  · intro hfound
    obtain ⟨entry, hentry, hother⟩ := List.exists_of_findSome?_eq_some hfound
    exact ⟨entry, hentry, (h.otherSide?_eq_some_iff hentry hname).mp hother⟩
  · intro hexists
    obtain ⟨entry, hentry, hsides⟩ := hexists
    have hother := (h.otherSide?_eq_some_iff hentry hname).mpr hsides
    -- Some entry answers; the name stands on one of its sides, so it is this one.
    have hsome : (counterpart? table name).isSome :=
      List.findSome?_isSome_iff.mpr ⟨entry, hentry, by rw [hother]; rfl⟩
    obtain ⟨found, hfound⟩ := Option.isSome_iff_exists.mp hsome
    obtain ⟨second, hsecond, hanswer⟩ := List.exists_of_findSome?_eq_some hfound
    have hsecond_sides := (h.otherSide?_eq_some_iff hsecond hname).mp hanswer
    have heq : entry = second := h.eq_of_mem hentry hsecond
      (hsides.imp And.left And.left) (hsecond_sides.imp And.left And.left)
    rw [heq, hanswer] at hother
    rw [hfound, hother]

/-- Each side of the entry is looked up as the other. -/
structure FoundBothWays (table : NameMap String) (entry : String × String) : Prop where
  forth : counterpart? table (Text.lowercase entry.1) = some (Text.lowercase entry.2)
  back : counterpart? table (Text.lowercase entry.2) = some (Text.lowercase entry.1)

theorem Unambiguous.foundBothWays (h : Unambiguous table) (hentry : entry ∈ table.toList) :
    FoundBothWays table entry where
  forth := (counterpart?_eq_some_iff h (Text.map_toLower_lowercase entry.1)).mpr
    ⟨entry, hentry, .inl ⟨rfl, rfl⟩⟩
  back := (counterpart?_eq_some_iff h (Text.map_toLower_lowercase entry.2)).mpr
    ⟨entry, hentry, .inr ⟨rfl, rfl⟩⟩

namespace CompatibilityTables

theorem unambiguous_renamedFeatures : Unambiguous standard.renamedFeatures :=
  ⟨by decide +kernel, by decide +kernel⟩

theorem unambiguous_conflictingPlatforms : Unambiguous standard.conflictingPlatforms :=
  ⟨by decide +kernel, by decide +kernel⟩

theorem counterparts_conflictingPlatforms_iff :
    Counterparts standard.conflictingPlatforms name other ↔
      name = "javaee" ∧ other = "jakartaee" ∨ name = "jakartaee" ∧ other = "javaee" := by
  have htable : standard.conflictingPlatforms.toList = [("javaee", "jakartaee")] := by
    decide +kernel
  have hsides : Text.lowercase "javaee" = "javaee" ∧ Text.lowercase "jakartaee" = "jakartaee" := by
    decide +kernel
  simp [Counterparts, htable, hsides]

end CompatibilityTables

end FeatureCheck
