import FeatureCheck.FileTree
import FeatureCheck.Path
import Mathlib.Data.List.Basic
import Mathlib.Data.List.Induction
import Mathlib.Logic.Function.Iterate
import Mathlib.Tactic.SplitIfs
import Mathlib.Tactic.Tauto

/-!
# Where paths lead

A path is resolved by its text alone: an empty part and a dot stay, two dots go up, any other part
leads down. What is left says how many directories the path goes up from where it starts, and along
which names it then goes down. Joined paths are walked one after the other (`resolve_join`), and a
walk comes back below its start just when it goes down again by the names that it went up
(`below_iff`).
-/

namespace FeatureCheck

set_option autoImplicit false

/-- A part that leads down. -/
def FileTree.isName (part : String) : Bool :=
  !isStill part

namespace Path

structure Location where
  isAbsolute : Bool
  ups : Nat
  names : List String
  deriving DecidableEq, Repr

namespace Location

def here : Location :=
  ⟨false, 0, []⟩

/-- The directory around a location; there is none around the top of everything. -/
def climb (location : Location) : Location :=
  if location.names = [] then
    if location.isAbsolute then location else { location with ups := location.ups + 1 }
  else { location with names := location.names.dropLast }

def rise (location : Location) (levels : Nat) : Location :=
  climb^[levels] location

def descend (location : Location) (names : List String) : Location :=
  { location with names := location.names ++ names }

def step (location : Location) (part : String) : Location :=
  if part = "" ∨ part = "." then location
  else if part = ".." then location.climb
  else location.descend [part]

def walk (location : Location) (parts : List String) : Location :=
  parts.foldl step location

/-- The location is further down from the base. -/
def Below (location base : Location) : Prop :=
  ∃ names, names ≠ [] ∧ location = base.descend names

end Location

def resolve (path : String) : Location :=
  Location.walk ⟨isAbsolute path, 0, []⟩ (FileTree.parts path)

namespace Location

variable {location base : Location} {part : String} {parts names : List String} {levels : Nat}

theorem isName_iff : FileTree.isName part = true ↔ part ≠ "" ∧ part ≠ "." ∧ part ≠ ".." := by
  simp [FileTree.isName, FileTree.isStill]

/-- A part stays, goes up or leads down. -/
theorem part_cases (part : String) :
    (part = "" ∨ part = ".") ∨ part = ".." ∨ FileTree.isName part = true := by
  rw [isName_iff]
  tauto

/-! ## Going up and down -/

theorem step_still (h : part = "" ∨ part = ".") : location.step part = location :=
  if_pos h

theorem step_up : location.step ".." = location.climb := by
  simp [step]

theorem step_name (h : FileTree.isName part = true) :
    location.step part = location.descend [part] := by
  obtain ⟨hempty, hdot, hup⟩ := isName_iff.mp h
  rw [step, if_neg (not_or.mpr ⟨hempty, hdot⟩), if_neg hup]

@[simp] theorem descend_nil : location.descend [] = location := by
  simp [descend]

@[simp] theorem descend_descend {more : List String} :
    (location.descend names).descend more = location.descend (names ++ more) := by
  simp [descend]

theorem descend_inj {more : List String} :
    location.descend names = location.descend more ↔ names = more := by
  simp [descend]

@[simp] theorem rise_zero : location.rise 0 = location :=
  rfl

theorem climb_rise : (location.rise levels).climb = location.rise (levels + 1) :=
  (Function.iterate_succ_apply' climb levels location).symm

theorem climb_descend (h : names ≠ []) :
    (location.descend names).climb = location.descend names.dropLast := by
  simp [climb, descend, h, List.dropLast_append_of_ne_nil]

/-- Within its names a location is shortened by going up. -/
theorem rise_of_le (h : levels ≤ location.names.length) : location.rise levels =
    { location with names := location.names.take (location.names.length - levels) } := by
  induction levels with
  | zero => simp
  | succ levels ih =>
    rw [← climb_rise, ih (Nat.le_of_succ_le h), climb]
    have hne : location.names.take (location.names.length - levels) ≠ [] := by
      rw [← List.length_pos_iff, List.length_take]
      omega
    have hlength : min (location.names.length - levels) location.names.length - 1 =
        location.names.length - (levels + 1) := by
      omega
    rw [if_neg hne, List.dropLast_eq_take, List.take_take, List.length_take, hlength,
      Nat.min_eq_left (by omega)]

/-- Above its names an absolute location stays at the top, and another one goes on. -/
theorem rise_of_lt (h : location.names.length < levels) : location.rise levels =
    { location with
      names := []
      ups := if location.isAbsolute then location.ups
        else location.ups + (levels - location.names.length) } := by
  obtain ⟨more, rfl⟩ := Nat.exists_eq_add_of_lt h
  clear h
  induction more with
  | zero =>
    rw [← climb_rise, Nat.add_zero, rise_of_le (Nat.le_refl _)]
    cases habsolute : location.isAbsolute <;> simp [climb]
  | succ more ih =>
    rw [← climb_rise, ← Nat.add_assoc, ih]
    cases habsolute : location.isAbsolute
    · simp only [climb, Bool.false_eq_true, if_false, if_true]
      congr 1
      omega
    · simp [climb]

/-- Going down again by the names that it went up leads back to a location, unless it went on
above the place that it starts from. -/
theorem descend_rise (h : location.isAbsolute = true ∨ levels ≤ location.names.length) :
    (location.rise levels).descend (location.names.drop (location.names.length - levels)) =
      location := by
  by_cases hle : levels ≤ location.names.length
  · rw [rise_of_le hle, descend, List.take_append_drop]
  · have habsolute := h.resolve_right hle
    have hnone : location.names.length - levels = 0 := by omega
    simp only [rise_of_lt (Nat.lt_of_not_le hle), hnone, descend, habsolute, if_true,
      List.drop_zero, List.nil_append]
    rw [← habsolute]

theorem ups_rise_of_lt (hrelative : location.isAbsolute = false)
    (h : location.names.length < levels) : location.ups < (location.rise levels).ups := by
  rw [rise_of_lt h]
  simp only [hrelative, Bool.false_eq_true, if_false]
  omega

theorem ups_rise_eq_zero_iff (hrelative : location.isAbsolute = false)
    (hups : location.ups = 0) : (location.rise levels).ups = 0 ↔ levels ≤ location.names.length := by
  by_cases h : levels ≤ location.names.length
  · rw [rise_of_le h]
    exact iff_of_true hups h
  · have hlt := ups_rise_of_lt hrelative (Nat.lt_of_not_le h)
    exact iff_of_false (by omega) h

/-! ## Walks -/

@[simp] theorem walk_nil : location.walk [] = location :=
  rfl

theorem walk_append {more : List String} :
    location.walk (parts ++ more) = (location.walk parts).walk more :=
  List.foldl_append

theorem walk_concat : location.walk (parts ++ [part]) = (location.walk parts).step part := by
  rw [walk_append]
  rfl

/-- From any location a walk goes up and then down as it does from here. -/
theorem walk_eq (location : Location) (parts : List String) :
    location.walk parts =
      (location.rise (here.walk parts).ups).descend (here.walk parts).names ∧
    (here.walk parts).isAbsolute = false := by
  induction parts using List.reverseRecOn with
  | nil => exact ⟨by simp [here], rfl⟩
  | append_singleton parts part ih =>
    obtain ⟨hwalk, hrelative⟩ := ih
    rw [walk_concat, walk_concat, hwalk]
    rcases part_cases part with hstill | rfl | hname
    · rw [step_still hstill, step_still hstill]
      exact ⟨rfl, hrelative⟩
    · rw [step_up, step_up]
      by_cases hnames : (here.walk parts).names = []
      · rw [climb.eq_1 (here.walk parts), if_pos hnames, hrelative]
        simp only [hnames, descend_nil, Bool.false_eq_true, if_false]
        exact ⟨climb_rise, trivial⟩
      · rw [climb_descend hnames, climb.eq_1 (here.walk parts), if_neg hnames]
        exact ⟨rfl, hrelative⟩
    · rw [step_name hname, step_name hname, descend_descend]
      exact ⟨rfl, hrelative⟩

/-- Parts that do not go up lead down along their names. -/
theorem walk_of_not_up (h : ".." ∉ parts) :
    location.walk parts = location.descend (parts.filter FileTree.isName) := by
  induction parts using List.reverseRecOn with
  | nil => simp
  | append_singleton parts part ih =>
    rw [List.mem_append, not_or, List.mem_singleton] at h
    rw [walk_concat, ih h.1, List.filter_append]
    rcases part_cases part with hstill | rfl | hname
    · have hnot : FileTree.isName part = false := by
        rcases hstill with rfl | rfl <;> rfl
      simp [step_still hstill, hnot]
    · exact absurd rfl h.2
    · simp [step_name hname, hname]

@[simp] theorem isAbsolute_step : (location.step part).isAbsolute = location.isAbsolute := by
  unfold step climb descend
  split_ifs <;> rfl

@[simp] theorem isAbsolute_walk : (location.walk parts).isAbsolute = location.isAbsolute := by
  induction parts generalizing location with
  | nil => rfl
  | cons part parts ih => exact ih.trans isAbsolute_step

theorem length_names_step_here (part : String) : (here.step part).names.length ≤ 1 := by
  unfold step climb descend here
  split_ifs <;> simp

theorem ups_le_ups_step : location.ups ≤ (location.step part).ups := by
  unfold step climb descend
  split_ifs <;> simp

theorem ups_le_ups_walk : location.ups ≤ (location.walk parts).ups := by
  induction parts generalizing location with
  | nil => exact Nat.le_refl _
  | cons part parts ih => exact Nat.le_trans ups_le_ups_step ih

/-- A walk keeps to what is below where it starts if it does so from fewer names. -/
theorem ups_walk_eq_zero_of_le {other : Location} (hrelative : location.isAbsolute = false)
    (hother : other.isAbsolute = false) (hups : location.ups = 0) (hups' : other.ups = 0)
    (hle : location.names.length ≤ other.names.length) (h : (location.walk parts).ups = 0) :
    (other.walk parts).ups = 0 := by
  rw [(walk_eq _ _).1] at h ⊢
  exact (ups_rise_eq_zero_iff hother hups').mpr
    (Nat.le_trans ((ups_rise_eq_zero_iff hrelative hups).mp h) hle)

/-- What goes up from a location and down again is below it just when it goes down first by the
names that it went up. -/
theorem below_iff : ((location.rise levels).descend names).Below location ↔
    (location.isAbsolute = true ∨ levels ≤ location.names.length) ∧ ∃ more, more ≠ [] ∧
      names = location.names.drop (location.names.length - levels) ++ more := by
  by_cases hback : location.isAbsolute = true ∨ levels ≤ location.names.length
  · rw [and_iff_right hback]
    refine exists_congr fun more => and_congr_right fun _ => ?_
    rw [← @descend_inj (location.rise levels), ← descend_descend, descend_rise hback]
  · obtain ⟨habsolute, hle⟩ := not_or.mp hback
    have hlt := ups_rise_of_lt (Bool.eq_false_iff.mpr habsolute) (Nat.lt_of_not_le hle)
    refine iff_of_false ?_ fun h => hback h.1
    rintro ⟨more, -, heq⟩
    have hups := congrArg Location.ups heq
    simp only [descend] at hups
    omega

theorem below_iff_prefix : location.Below base ↔
    location.isAbsolute = base.isAbsolute ∧ location.ups = base.ups ∧
      base.names <+: location.names ∧ base.names ≠ location.names := by
  constructor
  · rintro ⟨names, hne, rfl⟩
    exact ⟨rfl, rfl, List.prefix_append _ _, by simp [descend, hne]⟩
  · obtain ⟨isAbsolute, ups, names⟩ := location
    rintro ⟨rfl, rfl, ⟨more, rfl⟩, hne⟩
    exact ⟨more, by rintro rfl; exact hne (List.append_nil _).symm, rfl⟩

instance : Decidable (location.Below base) :=
  decidable_of_iff _ below_iff_prefix.symm

end Location

/-! ## Joined paths -/

variable {path part : String}

theorem parts_append_slash (path rest : String) :
    FileTree.parts (path ++ "/" ++ rest) = FileTree.parts path ++ FileTree.parts rest := by
  have hlist : (path ++ "/" ++ rest).toList = path.toList ++ '/' :: rest.toList := by
    simp
  rw [FileTree.parts, hlist, List.splitOn, List.splitOnP_append_cons _ _ (by rfl), List.map_append]
  rfl

theorem isAbsolute_append (h : path ≠ "") (rest : String) :
    isAbsolute (path ++ rest) = isAbsolute path := by
  have hne : path.toList ≠ [] := by simpa using h
  simp only [isAbsolute, String.toList_append, List.head?_append_of_ne_nil _ hne]

theorem parts_slash (path : String) : FileTree.parts (path ++ "/") = FileTree.parts path ++ [""] := by
  have hparts := parts_append_slash path ""
  rwa [String.append_empty] at hparts

theorem resolve_slash (h : path ≠ "") : resolve (path ++ "/") = resolve path := by
  rw [resolve, parts_slash, isAbsolute_append h, Location.walk_concat,
    Location.step_still (.inl rfl), resolve]

theorem resolve_append_slash (path rest : String) :
    resolve (path ++ "/" ++ rest) = (resolve (path ++ "/")).walk (FileTree.parts rest) := by
  have hne : path ++ "/" ≠ "" := by simp
  rw [resolve, parts_append_slash, isAbsolute_append hne, Location.walk_append, resolve,
    parts_slash, Location.walk_concat, Location.step_still (.inl rfl)]

/-- A joined path leads from where the first one leads along the parts of the second. -/
theorem resolve_join (h : isAbsolute part = false) :
    resolve (join path part) = (resolve path).walk (FileTree.parts part) := by
  rw [join, if_neg (by simp [h])]
  by_cases hempty : path = ""
  · subst hempty
    rw [if_pos (by decide), String.empty_append, resolve, h]
    rfl
  · by_cases hslash : path.toList.getLast? = some '/'
    · obtain ⟨front, hfront⟩ := List.getLast?_eq_some_iff.mp hslash
      have hpath : path = String.ofList front ++ "/" := String.ext (by simp [hfront])
      rw [if_pos (by simp [hslash]), hpath, resolve_append_slash]
    · rw [if_neg (by simp [hempty, hslash]), resolve_append_slash, resolve_slash hempty]

end Path

end FeatureCheck
