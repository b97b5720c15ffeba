import FeatureCheck.Configuration.Environment
import Mathlib.Data.List.Basic

/-!
# Laying values over settings

A key starts with a name (`KeyPath.exists_name_of_ofKey`), and two names with a dot between them are
what leads to a member of a member (`KeyPath.eq_of_ofKey`). A value that is put at a path changes the
first member on its way and no other: `Json.lookup_change`.
-/

namespace FeatureCheck

set_option autoImplicit false

namespace Text.Reader

variable {α β : Type} {text rest : List Char}

/-- What a reader gets, and another one behind it. -/
theorem exists_of_run_bind {reader : Reader α} {next : α → Reader β} {outcome : β × List Char}
    (h : (reader >>= next).run text = some outcome) : ∃ value middle,
      reader.run text = some (value, middle) ∧ (next value).run middle = some outcome := by
  cases hread : reader.run text with
  | none =>
    change (reader.run text).bind (fun first => (next first.1).run first.2) = some outcome at h
    rw [hread] at h
    cases h
  | some first =>
    change (reader.run text).bind (fun first => (next first.1).run first.2) = some outcome at h
    rw [hread] at h
    exact ⟨first.1, first.2, rfl, h⟩

theorem of_run_accept {word : String} (h : (accept word).run text = some (true, rest)) :
    text = word.toList ++ rest := by
  obtain ⟨value, middle, hget, h⟩ := exists_of_run_bind h
  obtain ⟨rfl, rfl⟩ := Prod.mk.inj (Option.some.inj hget)
  split at h
  · rename_i found hfound
    obtain ⟨-, rfl⟩ := Prod.mk.inj (Option.some.inj h)
    have hparted := List.isPrefixOf?_eq_some_iff_append_eq.mp hfound
    exact hparted.symm
  · cases h

end Text.Reader

namespace KeyPath

open Text

variable {text rest : List Char} {key : String} {path : KeyPath} {step : KeyStep} {fuel : Nat}

theorem of_name_run (h : name.run text = some (step, rest)) :
    ∃ front, text = front ++ rest ∧ step = .name (String.ofList front) := by
  obtain ⟨front, middle, hfront, h⟩ := Reader.exists_of_run_bind h
  obtain ⟨rfl, rfl⟩ := Prod.mk.inj (Option.some.inj hfront)
  split at h
  · cases h
  · obtain ⟨rfl, rfl⟩ := Prod.mk.inj (Option.some.inj h)
    exact ⟨text.takeWhile isNamePart, List.takeWhile_append_dropWhile.symm, rfl⟩

theorem of_place_run (h : place.run text = some (step, rest)) : ∃ index, step = .place index := by
  obtain ⟨_, _, -, h⟩ := Reader.exists_of_run_bind h
  obtain ⟨_, _, -, h⟩ := Reader.exists_of_run_bind h
  obtain ⟨digits, _, -, h⟩ := Reader.exists_of_run_bind h
  by_cases hempty : digits.isEmpty = true
  · simp only [hempty, if_true] at h
    cases h
  · simp only [hempty] at h
    obtain ⟨_, _, -, h⟩ := Reader.exists_of_run_bind h
    obtain ⟨_, _, -, h⟩ := Reader.exists_of_run_bind h
    split at h
    · rename_i index _
      obtain ⟨rfl, -⟩ := Prod.mk.inj (Option.some.inj h)
      exact ⟨index, rfl⟩
    · cases h

/-- A step is a name behind a dot or a place. -/
theorem of_steps_run (h : (steps fuel).run text = some (path, rest)) :
    (path = [] ∧ text = [] ∧ rest = []) ∨
    ∃ step further less middle, path = step :: further ∧
      ((∃ front, text = '.' :: (front ++ middle) ∧ step = .name (String.ofList front)) ∨
        ∃ index, step = .place index) ∧
      (steps less).run middle = some (further, rest) := by
  cases fuel with
  | zero => cases h
  | succ fuel =>
    obtain ⟨hasEnded, middle, hended, h⟩ := Reader.exists_of_run_bind h
    obtain ⟨rfl, rfl⟩ := Prod.mk.inj (Option.some.inj hended)
    split at h
    · rename_i hempty
      obtain ⟨rfl, rfl⟩ := Prod.mk.inj (Option.some.inj h)
      rw [List.isEmpty_iff] at hempty
      exact .inl ⟨rfl, hempty, hempty⟩
    · obtain ⟨isDot, behind, haccept, h⟩ := Reader.exists_of_run_bind h
      split at h
      · rename_i hdot
        rw [hdot] at haccept
        obtain ⟨step, middle, hname, h⟩ := Reader.exists_of_run_bind h
        obtain ⟨further, last, hsteps, h⟩ := Reader.exists_of_run_bind h
        obtain ⟨rfl, rfl⟩ := Prod.mk.inj (Option.some.inj h)
        obtain ⟨front, rfl, rfl⟩ := of_name_run hname
        have htext := Reader.of_run_accept haccept
        exact .inr ⟨_, further, fuel, middle, rfl, .inl ⟨front, htext, rfl⟩, hsteps⟩
      · obtain ⟨_, _, -, h⟩ := Reader.exists_of_run_bind h
        obtain ⟨step, middle, hplace, h⟩ := Reader.exists_of_run_bind h
        obtain ⟨further, last, hsteps, h⟩ := Reader.exists_of_run_bind h
        obtain ⟨rfl, rfl⟩ := Prod.mk.inj (Option.some.inj h)
        exact .inr ⟨step, further, fuel, middle, rfl, .inr (of_place_run hplace), hsteps⟩

/-- What a key leads along: it is read in full, or is a name as it is. -/
theorem ofKey_cases (key : String) : ofKey key = [.name key] ∨
    ∃ front middle further, key.toList = front ++ middle ∧
      ofKey key = .name (String.ofList front) :: further ∧
      ∃ fuel, (steps fuel).run middle = some (further, []) := by
  cases hread : (read (key.length + 1)).all? key.toList with
  | none =>
    left
    rw [ofKey, hread, Option.getD_none]
  | some path =>
    right
    have hrun : (read (key.length + 1)).run key.toList = some (path, []) := by
      unfold Reader.all? at hread
      split at hread
      · rename_i value hvalue
        rw [hvalue, Option.some.inj hread]
      · cases hread
    obtain ⟨step, middle, hname, hrest⟩ := Reader.exists_of_run_bind hrun
    obtain ⟨further, last, hsteps, hpath⟩ := Reader.exists_of_run_bind hrest
    obtain ⟨rfl, rfl⟩ := Prod.mk.inj (Option.some.inj hpath)
    obtain ⟨front, hkey, rfl⟩ := of_name_run hname
    exact ⟨front, middle, further, hkey, by rw [ofKey, hread, Option.getD_some], _, hsteps⟩

theorem exists_name_of_ofKey (key : String) :
    ∃ first further, ofKey key = .name first :: further := by
  rcases ofKey_cases key with hkey | ⟨front, -, further, -, hkey, -⟩
  · exact ⟨key, [], hkey⟩
  · exact ⟨String.ofList front, further, hkey⟩

/-- Only one key leads to a member. -/
theorem eq_of_ofKey_singleton {name : String} (h : ofKey key = [.name name]) : key = name := by
  rcases ofKey_cases key with hkey | ⟨front, middle, further, htext, hkey, fuel, hsteps⟩
  · rw [hkey] at h
    exact KeyStep.name.inj (List.singleton_inj.mp h)
  · rw [hkey] at h
    obtain ⟨hfirst, rfl⟩ := List.cons.inj h
    rcases of_steps_run hsteps with ⟨-, rfl, -⟩ | ⟨_, _, _, _, hnil, -⟩
    · rw [KeyStep.name.injEq] at hfirst
      rw [← hfirst, ← String.toList_inj, htext, List.append_nil, String.toList_ofList]
    · cases hnil

/-- Only one key leads to a member of a member. -/
theorem eq_of_ofKey {first second : String} (h : ofKey key = [.name first, .name second]) :
    key = first ++ "." ++ second := by
  rcases ofKey_cases key with hkey | ⟨front, middle, further, htext, hkey, fuel, hsteps⟩
  · rw [hkey] at h
    cases h
  · rw [hkey] at h
    obtain ⟨hfirst, rfl⟩ := List.cons.inj h
    rcases of_steps_run hsteps with ⟨hnil, -⟩ | ⟨step, further, less, last, hpath, hstep, hrest⟩
    · cases hnil
    · obtain ⟨rfl, rfl⟩ := List.cons.inj hpath
      rcases hstep with ⟨back, hmiddle, hsecond⟩ | ⟨index, hplace⟩
      · rcases of_steps_run hrest with ⟨-, rfl, -⟩ | ⟨_, _, _, _, hnil, -⟩
        · rw [KeyStep.name.injEq] at hfirst hsecond
          rw [← String.toList_inj, ← hfirst, hsecond, htext, hmiddle]
          simp
        · cases hnil
      · cases hplace

end KeyPath

namespace Json

/-- An array or an object. -/
def isCompound : Json → Bool
  | .array _ | .object _ => true
  | _ => false

def isArray : Json → Bool
  | .array _ => true
  | _ => false

theorem isCompound_change {path : KeyPath} (h : path ≠ []) (leaf : Json → Json) (old : Json) :
    (change leaf path old).isCompound = true := by
  cases path with
  | nil => exact absurd rfl h
  | cons step path => cases step <;> rfl

theorem lookup_eq_none {members : List (String × Json)} {key : String}
    (h : key ∉ members.map Prod.fst) : members.lookup key = none := by
  rw [List.lookup_eq_none_iff]
  intro member hmember
  rw [bne_iff_ne]
  rintro rfl
  exact h (List.mem_map_of_mem hmember)

theorem lookup_updateMember (change : Json → Json) (key name : String)
    (members : List (String × Json)) : (updateMember change key members).lookup name =
      if name = key then some (change ((members.lookup key).getD .null))
      else members.lookup name := by
  induction members with
  | nil =>
    by_cases hname : name = key
    · rw [if_pos hname, hname, updateMember, List.lookup_cons_self]
      rfl
    · rw [if_neg hname, updateMember, List.lookup_cons, beq_false_of_ne hname]
  | cons member members ih =>
    obtain ⟨other, value⟩ := member
    by_cases hkey : other = key
    · rw [updateMember, if_pos hkey, hkey, List.lookup_cons_self, Option.getD_some]
      by_cases hname : name = key
      · rw [if_pos hname, hname, List.lookup_cons_self]
      · rw [if_neg hname, List.lookup_cons, List.lookup_cons, beq_false_of_ne hname]
    · rw [updateMember, if_neg hkey, List.lookup_cons, List.lookup_cons, List.lookup_cons, ih,
        beq_false_of_ne (Ne.symm hkey)]
      by_cases hother : name = other
      · have hname : name ≠ key := by
          rintro rfl
          exact hkey hother.symm
        simp [hother, if_neg (hother ▸ hname)]
      · rw [beq_false_of_ne hother]

/-- Only the first member on the way of a path is another one. -/
theorem lookup_change (leaf : Json → Json) (first name : String) (path : KeyPath)
    (settings : Json) : (settings.change leaf (.name first :: path)).members.lookup name =
      if name = first then some (change leaf path ((settings.members.lookup first).getD .null))
      else settings.members.lookup name :=
  lookup_updateMember _ _ _ _

/-! ## Objects over objects -/

theorem lookup_overlayMembers {new : List (String × Json)} (h : (new.map Prod.fst).Nodup)
    (old : List (String × Json)) (name : String) :
    (overlayMembers new old).lookup name =
      ((new.lookup name).map fun value => value.overlay ((old.lookup name).getD .null)).or
        (old.lookup name) := by
  induction new generalizing old with
  | nil => rfl
  | cons member new ih =>
    obtain ⟨key, value⟩ := member
    obtain ⟨hkey, hnew⟩ := List.nodup_cons.mp h
    rw [overlayMembers, ih hnew, lookup_updateMember]
    by_cases hname : name = key
    · subst hname
      rw [lookup_eq_none hkey, if_pos rfl, List.lookup_cons_self]
      rfl
    · rw [if_neg hname, List.lookup_cons, beq_false_of_ne hname]

end Json

namespace Layer

/-- The members of a file, laid over settings: none of them leads into the member by a dot or a
bracket. -/
theorem lookup_onto_ofObject {members : List (String × Json)} {name : String}
    (hname : KeyPath.ofKey name = [.name name]) (hdistinct : (members.map Prod.fst).Nodup)
    (hwhole : ∀ member ∈ members, ∀ path, KeyPath.ofKey member.1 = .name name :: path → path = [])
    (settings : Json) :
    ((ofObject (.object members)).onto settings).members.lookup name =
      ((members.lookup name).map fun value =>
        value.overlay ((settings.members.lookup name).getD .null)).or
          (settings.members.lookup name) := by
  induction members generalizing settings with
  | nil => rfl
  | cons member members ih =>
    obtain ⟨key, value⟩ := member
    obtain ⟨hkey, hothers⟩ := List.nodup_cons.mp hdistinct
    obtain ⟨hfirst, hrest⟩ := List.forall_mem_cons.mp hwhole
    have honto : (ofObject (.object ((key, value) :: members))).onto settings =
        (ofObject (.object members)).onto (settings.change value.overlay (KeyPath.ofKey key)) := rfl
    obtain ⟨first, path, hpath⟩ := KeyPath.exists_name_of_ofKey key
    rw [honto, ih hothers hrest, hpath, Json.lookup_change]
    by_cases heq : name = first
    · subst heq
      obtain rfl := hfirst path hpath
      obtain rfl := KeyPath.eq_of_ofKey_singleton hpath
      rw [Json.lookup_eq_none hkey, if_pos rfl, List.lookup_cons_self]
      rfl
    · have hne : name ≠ key := by
        rintro rfl
        rw [hname] at hpath
        exact heq (KeyStep.name.inj (List.cons.inj hpath).1)
      rw [if_neg heq, List.lookup_cons, beq_false_of_ne hne]

end Layer

end FeatureCheck
