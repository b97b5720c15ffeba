import FeatureCheck.Logging.Filter
import FeatureCheck.Proofs.Names
import FeatureCheck.Text.Ascii
import Mathlib.Data.List.Basic
import Mathlib.Data.List.Induction

/-!
# Which directive counts

A target, an equals sign and a level are read as the directive that they are written for
(`Filter.parse_of_spells`). Of the directives that cover a target the last one of the longest target
governs it (`Filter.directive?_eq_some_iff`). The threshold that a filter falls back to is that of
all targets if there are no directives, and of none if there are any
(`Filter.allows_orDefault_iff`).
-/

namespace FeatureCheck

set_option autoImplicit false

namespace Directive

variable {directive : Directive} {text : String} {offset start : Nat} {cs rest : List Char}

/-! ## Cutting parts out of a text -/

/-- The octets of a text. -/
def width : List Char → Nat
  | [] => 0
  | c :: cs => c.utf8Size + width cs

theorem width_cons (c : Char) (cs : List Char) : width (c :: cs) = c.utf8Size + width cs :=
  rfl

theorem width_append (front back : List Char) :
    width (front ++ back) = width front + width back := by
  induction front with
  | nil => rw [List.nil_append, width, Nat.zero_add]
  | cons c front ih => rw [List.cons_append, width_cons, ih, width_cons, Nat.add_assoc]

theorem utf8ByteSize_ofList (cs : List Char) : (String.ofList cs).utf8ByteSize = width cs := by
  induction cs with
  | nil => rfl
  | cons c cs ih =>
    have hsplit : String.ofList (c :: cs) = String.singleton c ++ String.ofList cs := by
      rw [String.singleton_eq_ofList, ← String.ofList_append, List.singleton_append]
    rw [hsplit, String.utf8ByteSize_append, String.utf8ByteSize_singleton, ih, width_cons]

theorem slice_go_append (start stop offset : Nat) (front back : List Char) :
    slice.go start stop offset (front ++ back) =
      slice.go start stop offset front ++ slice.go start stop (offset + width front) back := by
  induction front generalizing offset with
  | nil => simp [slice.go, width]
  | cons c front ih =>
    rw [List.cons_append, slice.go, slice.go, ih, width_cons, Nat.add_assoc]
    split <;> rfl

theorem slice_go_inside {start stop offset : Nat} (hstart : start ≤ offset)
    (hstop : offset + width cs ≤ stop) : slice.go start stop offset cs = cs := by
  induction cs generalizing offset with
  | nil => rfl
  | cons c cs ih =>
    have hsize := c.utf8Size_pos
    rw [width_cons] at hstop
    rw [slice.go, ih (by omega) (by omega), if_pos ⟨hstart, by omega⟩]

theorem slice_go_outside {start stop offset : Nat}
    (h : offset + width cs ≤ start ∨ stop ≤ offset) : slice.go start stop offset cs = [] := by
  induction cs generalizing offset with
  | nil => rfl
  | cons c cs ih =>
    have hsize := c.utf8Size_pos
    rw [width_cons] at h
    rw [slice.go, ih (by omega), if_neg (by omega)]

theorem slice_front (front back : List Char) : slice 0 (width front) (front ++ back) = front := by
  rw [slice, slice_go_append, slice_go_inside (Nat.zero_le 0) (by omega),
    slice_go_outside (.inr (by omega)), List.append_nil]

theorem slice_back (front back : List Char) :
    slice (width front) (width (front ++ back)) (front ++ back) = back := by
  rw [slice, slice_go_append, slice_go_outside (.inl (by omega)),
    slice_go_inside (by omega) (by rw [width_append]; omega), List.nil_append]

/-! ## Reading a target and a level -/

theorem isTargetStart_ascii : ∀ code < 0x80,
    isTargetStart (Char.ofNat code) = true → Text.isSpace (Char.ofNat code) = false := by
  decide +kernel

theorem isSpace_of_isTargetStart {c : Char} (h : isTargetStart c = true) :
    Text.isSpace c = false := by
  by_cases hascii : c.toNat < 0x80
  · have hspace := isTargetStart_ascii c.toNat hascii
    rw [Char.ofNat_toNat] at hspace
    exact hspace h
  · rw [Bool.eq_false_iff]
    intro hspace
    have hletter : Text.letterRanges.contains c.toNat = false :=
      Text.not_contains_of_isSpace (by decide +kernel) hspace
    have hsign : Text.signRanges.contains c.toNat = false :=
      Text.not_contains_of_isSpace (by decide +kernel) hspace
    simp only [isTargetStart, Text.isAlphanumeric, hascii, hletter, hsign, if_false, Bool.or_false,
      Bool.false_or, Bool.or_eq_true, beq_iff_eq] at h
    rcases h with (rfl | rfl) | rfl
    all_goals exact absurd (by decide) hascii

theorem isSpace_of_equalsIgnoringCase {word other : String}
    (h : Text.equalsIgnoringCase word other = true)
    (hother : ∀ c ∈ other.toList, Text.isSpace c = false) :
    ∀ c ∈ word.toList, Text.isSpace c = false := by
  intro c hc
  have hlower : c.toLower ∈ other.toList.map Char.toLower := by
    rw [← Text.equalsIgnoringCase_eq_true.mp h]
    exact List.mem_map_of_mem hc
  obtain ⟨d, hd, hequal⟩ := List.mem_map.mp hlower
  rw [← (Text.toLower_kept c).2.1, ← hequal, (Text.toLower_kept d).2.1]
  exact hother d hd

theorem isSpace_of_mem_word (level : Level) : ∀ c ∈ level.word.toList, Text.isSpace c = false := by
  cases level <;> simp [Level.word, Text.isSpace]

theorem isSpace_of_isDigit {c : Char} (h : c.isDigit = true) : Text.isSpace c = false := by
  rw [Bool.eq_false_iff]
  intro hspace
  simp only [Char.isDigit, Bool.and_eq_true, decide_eq_true_eq, UInt32.le_iff_toNat_le] at h
  simp only [Text.isSpace, Bool.or_eq_true, Bool.and_eq_true, decide_eq_true_eq, beq_iff_eq]
    at hspace
  have hlow : 48 ≤ c.toNat := h.1
  have hhigh : c.toNat ≤ 57 := h.2
  omega

/-- No level is written with white space. -/
theorem isSpace_of_ofText? {word : String} {threshold : Threshold}
    (h : Threshold.ofText? word = some threshold) : ∀ c ∈ word.toList, Text.isSpace c = false := by
  unfold Threshold.ofText? at h
  dsimp only at h
  split at h
  · rename_i hdigits
    intro c hc
    rw [Bool.and_eq_true, List.all_eq_true] at hdigits
    by_cases hplus : c = '+'
    · rw [hplus]
      decide
    · apply isSpace_of_isDigit
      apply hdigits.2
      cases hsign : ['+'].isPrefixOf? word.toList with
      | none => exact hc
      | some digits =>
        have hparted := List.isPrefixOf?_eq_some_iff_append_eq.mp hsign
        rw [← hparted] at hc
        rcases List.mem_cons.mp hc with heq | hmem
        · exact absurd heq hplus
        · exact hmem
  · unfold Threshold.ofWord? at h
    split at h
    · rename_i hoff
      exact isSpace_of_equalsIgnoringCase hoff (by simp [Text.isSpace])
    · obtain ⟨level, hlevel, -⟩ := Option.map_eq_some_iff.mp h
      have hword := List.find?_some hlevel
      exact isSpace_of_equalsIgnoringCase hword (isSpace_of_mem_word level)

/-- The text is the target of the directive, an equals sign and the directive's threshold. -/
structure Spells (text : String) (directive : Directive) : Prop where
  span : directive.span = none
  field : directive.field = none
  start : ∃ c ∈ directive.target.toList.head?, isTargetStart c = true
  target : ∀ c ∈ directive.target.toList, c ≠ '=' ∧ c ≠ '['
  level : ∃ word, text = directive.target ++ "=" ++ word ∧
    Threshold.ofText? word = some directive.threshold

theorem run_head (h : ∀ c ∈ cs, c ≠ '=' ∧ c ≠ '[') :
    run text.toList offset (.head, directive) (cs ++ rest) =
      run text.toList (offset + width cs) (.head, directive) rest := by
  induction cs generalizing offset with
  | nil => simp [width]
  | cons c cs ih =>
    obtain ⟨hequals, hbracket⟩ := h c List.mem_cons_self
    have hstep : step text.toList offset c (.head, directive) = some (.head, directive) := by
      simp [step, hequals, hbracket]
    rw [List.cons_append, run, hstep, Option.bind_eq_bind, Option.bind_some,
      ih fun d hd => h d (List.mem_cons_of_mem c hd), width_cons, Nat.add_assoc]

theorem run_level : run text.toList offset (.level start, directive) cs =
    some (.level start, directive) := by
  induction cs generalizing offset with
  | nil => rfl
  | cons c cs ih => rw [run, step, Option.bind_eq_bind, Option.bind_some, ih]

theorem parse_of_spells (h : Spells text directive) : parse text = .ok directive := by
  obtain ⟨word, htext, hlevel⟩ := h.level
  obtain ⟨first, hfirst, hstart⟩ := h.start
  obtain ⟨others, htarget⟩ : ∃ others, directive.target.toList = first :: others := by
    rw [Option.mem_def, List.head?_eq_some_iff] at hfirst
    exact hfirst
  have hchars : text.toList = directive.target.toList ++ '=' :: word.toList := by
    rw [htext]
    simp
  have hword : word ≠ "" := by
    rintro rfl
    have hnone : Threshold.ofText? "" = none := by decide
    rw [hnone] at hlevel
    cases hlevel
  have htrimmed : Text.trimChars text.toList = text.toList := by
    apply Text.trimChars_eq_self
    constructor
    · intro c hc
      rw [hchars, htarget, List.cons_append, List.head?_cons, Option.mem_some_iff] at hc
      rw [← hc]
      exact isSpace_of_isTargetStart hstart
    · intro c hc
      rw [hchars, List.getLast?_append, List.getLast?_cons, Option.some_or,
        ← List.getLast?_cons] at hc
      rcases List.mem_cons.mp (List.mem_of_getLast? hc) with rfl | hmem
      · decide
      · exact isSpace_of_ofText? hlevel c hmem
  have hfirst : step text.toList 0 first (.start, {}) = some (.head, {}) := by
    have hbracket : first ≠ '[' := (h.target first (by simp [htarget])).2
    simp [step, hbracket, hstart]
  have hequals : step text.toList (width directive.target.toList) '=' (.head, {}) =
      some (.level (width directive.target.toList + 1), { target := directive.target }) := by
    simp only [step, if_true, Option.some.injEq, Prod.mk.injEq, true_and]
    rw [hchars, slice_front, String.ofList_toList]
  have hrun : run text.toList 0 (.start, {}) text.toList =
      some (.level (width directive.target.toList + 1), { target := directive.target }) := by
    have hothers : ∀ c ∈ others, c ≠ '=' ∧ c ≠ '[' := by
      intro c hc
      apply h.target
      rw [htarget]
      exact List.mem_cons_of_mem first hc
    calc run text.toList 0 (.start, {}) text.toList
        = run text.toList 0 (.start, {}) (first :: (others ++ '=' :: word.toList)) := by
          rw [← List.cons_append, ← htarget, ← hchars]
      _ = run text.toList (0 + first.utf8Size) (.head, {}) (others ++ '=' :: word.toList) := by
          rw [run, hfirst, Option.bind_eq_bind, Option.bind_some]
      _ = run text.toList (width directive.target.toList) (.head, {}) ('=' :: word.toList) := by
          rw [run_head hothers, htarget, width_cons, Nat.zero_add]
      _ = some (.level (width directive.target.toList + 1), { target := directive.target }) := by
          rw [run, hequals, Option.bind_eq_bind, Option.bind_some, run_level]
  have hslice : slice (width directive.target.toList + 1) text.utf8ByteSize text.toList =
      word.toList := by
    have hfront : width (directive.target.toList ++ ['=']) = width directive.target.toList + 1 := by
      rw [width_append]
      rfl
    have hlength : text.utf8ByteSize = width text.toList := by
      rw [← utf8ByteSize_ofList, String.ofList_toList]
    have hparted : text.toList = (directive.target.toList ++ ['=']) ++ word.toList := by
      rw [hchars, List.append_assoc, List.singleton_append]
    rw [hlength, hparted, ← hfront, slice_back]
  have hdirective : ({ target := directive.target, threshold := directive.threshold } : Directive) =
      directive := by
    rw [← h.span, ← h.field]
  rw [parse, htrimmed, hrun]
  simp only [hslice, String.ofList_toList, String.isEmpty_iff, hword, if_false, hlevel, hdirective]

/-! ## Covering a target -/

variable {target : String}

/-- The directive asks for nothing but a target. -/
def IsPlain (directive : Directive) : Prop :=
  directive.span = none ∧ directive.field = none

def Covers (directive : Directive) (target : String) : Prop :=
  directive.target.toList <+: target.toList

theorem IsPlain.isAbout_iff (h : directive.IsPlain) :
    directive.isAbout target = true ↔ directive.Covers target := by
  simp [isAbout, isStatic, h.1, h.2, Covers]

theorem IsPlain.specificity (h : directive.IsPlain) :
    directive.specificity = 2 * directive.target.length := by
  simp [Directive.specificity, h.2]

end Directive

namespace Filter

variable {filter : Filter} {directive other : Directive} {target : String} {level : Level}
  {least : Threshold}

/-- Each directive is plain, and is spelled by the text in its place between the commas. -/
def Spells (text : String) (filter : Filter) : Prop :=
  List.Forall₂ Directive.Spells (parts text) filter

def IsPlain (filter : Filter) : Prop :=
  ∀ directive ∈ filter, directive.IsPlain

def Covers (filter : Filter) (target : String) : Prop :=
  ∃ directive ∈ filter, directive.Covers target

/-- Of the directives that cover the target, none has a longer target, and none behind it has one as
long. -/
structure Governs (filter : Filter) (target : String) (directive : Directive) : Prop where
  covers : directive.Covers target
  place : ∃ before after, filter = before ++ directive :: after ∧
    (∀ other ∈ before, other.Covers target → other.target.length ≤ directive.target.length) ∧
    ∀ other ∈ after, other.Covers target → other.target.length < directive.target.length

theorem mapM_parse {texts : List String} (h : List.Forall₂ Directive.Spells texts filter) :
    texts.mapM Directive.parse = .ok filter := by
  induction h with
  | nil => rfl
  | cons hspells _ ih =>
    rw [List.mapM_cons, Directive.parse_of_spells hspells, ih]
    rfl

theorem parse_of_spells {text : String} (h : Spells text filter) :
    Filter.parse text = .ok filter :=
  mapM_parse h

theorem Spells.isPlain {text : String} (h : Spells text filter) : filter.IsPlain := by
  intro directive hdirective
  unfold Spells at h
  generalize parts text = texts at h
  induction h with
  | nil => cases hdirective
  | cons hspells _ ih =>
    rcases List.mem_cons.mp hdirective with rfl | hmem
    · exact ⟨hspells.span, hspells.field⟩
    · exact ih hmem

/-! ## The directive that governs -/

theorem Governs.mem (h : filter.Governs target directive) : directive ∈ filter := by
  obtain ⟨before, after, rfl, -, -⟩ := h.place
  exact List.mem_append_right before List.mem_cons_self

theorem Governs.length_le (h : filter.Governs target directive) (hother : other ∈ filter)
    (hcovers : other.Covers target) : other.target.length ≤ directive.target.length := by
  obtain ⟨before, after, rfl, hbefore, hafter⟩ := h.place
  rcases List.mem_append.mp hother with hmem | hmem
  · exact hbefore other hmem hcovers
  · rcases List.mem_cons.mp hmem with rfl | hmem
    · exact Nat.le_refl _
    · exact Nat.le_of_lt (hafter other hmem hcovers)

/-- One more directive governs if no longer target covers; or else it leaves things as they are. -/
theorem governs_concat_iff : (filter ++ [other]).Governs target directive ↔
    (directive = other ∧ other.Covers target ∧
      ∀ earlier ∈ filter, earlier.Covers target → earlier.target.length ≤ other.target.length) ∨
    (filter.Governs target directive ∧
      (other.Covers target → other.target.length < directive.target.length)) := by
  constructor
  · rintro ⟨hcovers, before, after, hfilter, hbefore, hafter⟩
    induction after using List.reverseRecOn with
    | nil =>
      obtain ⟨rfl, hlast⟩ := List.append_inj' hfilter rfl
      obtain rfl : other = directive := List.singleton_inj.mp hlast
      exact .inl ⟨rfl, hcovers, hbefore⟩
    | append_singleton after last _ =>
      rw [← List.cons_append, ← List.append_assoc] at hfilter
      obtain ⟨rfl, hlast⟩ := List.append_inj' hfilter rfl
      obtain rfl : other = last := List.singleton_inj.mp hlast
      refine .inr ⟨⟨hcovers, before, after, rfl, hbefore, ?_⟩, ?_⟩
      · intro later hlater
        exact hafter later (List.mem_append_left _ hlater)
      · exact hafter other (List.mem_append_right _ List.mem_cons_self)
  · rintro (⟨rfl, hcovers, hearlier⟩ | ⟨⟨hcovers, before, after, rfl, hbefore, hafter⟩, hother⟩)
    · exact ⟨hcovers, filter, [], rfl, hearlier, nofun⟩
    · refine ⟨hcovers, before, after ++ [other], by simp, hbefore, ?_⟩
      intro later hlater
      rcases List.mem_append.mp hlater with hmem | hmem
      · exact hafter later hmem
      · rw [List.mem_singleton.mp hmem]
        exact hother

theorem Governs.unique (h : filter.Governs target directive) (h' : filter.Governs target other) :
    directive = other := by
  induction filter using List.reverseRecOn with
  | nil => cases h.mem
  | append_singleton filter last ih =>
    rcases governs_concat_iff.mp h with ⟨rfl, hlast, hearlier⟩ | ⟨hgoverns, hlonger⟩ <;>
      rcases governs_concat_iff.mp h' with ⟨rfl, hlast', hearlier'⟩ | ⟨hgoverns', hlonger'⟩
    · rfl
    · have hle := hearlier other hgoverns'.mem hgoverns'.covers
      exact absurd (hlonger' hlast) (Nat.not_lt_of_le hle)
    · have hle := hearlier' directive hgoverns.mem hgoverns.covers
      exact absurd (hlonger hlast') (Nat.not_lt_of_le hle)
    · exact ih hgoverns hgoverns'

theorem governs_concat_of_not_covers (h : ¬ filter.Covers target) (hother : other.Covers target) :
    (filter ++ [other]).Governs target directive ↔ directive = other := by
  rw [governs_concat_iff]
  constructor
  · rintro (⟨rfl, -, -⟩ | ⟨hgoverns, -⟩)
    · rfl
    · exact absurd ⟨directive, hgoverns.mem, hgoverns.covers⟩ h
  · rintro rfl
    exact .inl ⟨rfl, hother, fun earlier hmem hcovers => absurd ⟨earlier, hmem, hcovers⟩ h⟩

/-- The later one of two directives governs unless its target is shorter. -/
theorem governs_concat_of_governs {best : Directive} (h : filter.Governs target best)
    (hother : other.Covers target) : (filter ++ [other]).Governs target directive ↔
      directive = if best.target.length ≤ other.target.length then other else best := by
  rw [governs_concat_iff]
  split
  · rename_i hle
    constructor
    · rintro (⟨rfl, -, -⟩ | ⟨hgoverns, hlonger⟩)
      · rfl
      · obtain rfl := hgoverns.unique h
        exact absurd (hlonger hother) (Nat.not_lt_of_le hle)
    · rintro rfl
      refine .inl ⟨rfl, hother, fun earlier hmem hcovers => ?_⟩
      exact Nat.le_trans (h.length_le hmem hcovers) hle
  · rename_i hlonger
    constructor
    · rintro (⟨rfl, -, hlongest⟩ | ⟨hgoverns, -⟩)
      · exact absurd (hlongest best h.mem h.covers) hlonger
      · exact hgoverns.unique h
    · rintro rfl
      exact .inr ⟨h, fun _ => Nat.lt_of_not_le hlonger⟩

theorem covers_concat_iff :
    (filter ++ [other]).Covers target ↔ filter.Covers target ∨ other.Covers target := by
  simp [Covers, or_and_right, exists_or]

theorem isPlain_concat_iff : (filter ++ [other]).IsPlain ↔ filter.IsPlain ∧ other.IsPlain := by
  simp [IsPlain, or_imp, forall_and]

theorem directive?_concat (filter : Filter) (other : Directive) (target : String) :
    directive? (filter ++ [other]) target =
      if other.isAbout target then
        if (filter.directive? target).all fun best => best.specificity ≤ other.specificity then
          some other
        else filter.directive? target
      else filter.directive? target := by
  rw [directive?, List.filter_append, List.foldl_append]
  by_cases habout : other.isAbout target = true
  · have hlast : [other].filter (·.isAbout target) = [other] := by simp [habout]
    rw [hlast, if_pos habout]
    rfl
  · have hlast : [other].filter (·.isAbout target) = [] := by simp [habout]
    rw [hlast, if_neg habout]
    rfl

theorem isSome_directive?_iff (h : filter.IsPlain) :
    (filter.directive? target).isSome = true ↔ filter.Covers target := by
  induction filter using List.reverseRecOn with
  | nil => simp [directive?, Covers]
  | append_singleton filter other ih =>
    obtain ⟨hfilter, hother⟩ := isPlain_concat_iff.mp h
    rw [directive?_concat, covers_concat_iff, ← ih hfilter, ← hother.isAbout_iff]
    cases hbest : directive? filter target with
    | none => by_cases habout : other.isAbout target = true <;> simp [habout]
    | some best => by_cases habout : other.isAbout target = true <;> simp [habout, apply_ite]

/-- What the search through the directives finds is the one that governs. -/
theorem directive?_eq_some_iff (h : filter.IsPlain) :
    filter.directive? target = some directive ↔ filter.Governs target directive := by
  induction filter using List.reverseRecOn generalizing directive with
  | nil =>
    constructor
    · intro hsome
      cases hsome
    · intro hgoverns
      cases hgoverns.mem
  | append_singleton filter other ih =>
    obtain ⟨hfilter, hother⟩ := isPlain_concat_iff.mp h
    rw [directive?_concat]
    by_cases hcovers : other.Covers target
    · rw [if_pos (hother.isAbout_iff.mpr hcovers)]
      cases hbest : directive? filter target with
      | none =>
        have huncovered : ¬ Covers filter target := by
          rw [← isSome_directive?_iff hfilter, hbest]
          exact Bool.false_ne_true
        rw [governs_concat_of_not_covers huncovered hcovers, Option.all_none, if_pos rfl,
          Option.some_inj, eq_comm]
      | some best =>
        have hgoverns : Governs filter target best := (ih hfilter).mp hbest
        have hspecific : best.specificity ≤ other.specificity ↔
            best.target.length ≤ other.target.length := by
          rw [(hfilter best hgoverns.mem).specificity, hother.specificity]
          omega
        simp only [governs_concat_of_governs hgoverns hcovers, Option.all_some, decide_eq_true_eq,
          hspecific]
        rw [← apply_ite some, Option.some_inj, eq_comm]
    · rw [if_neg (mt hother.isAbout_iff.mp hcovers), governs_concat_iff, ih hfilter]
      simp [hcovers]

theorem allows_iff (h : filter.IsPlain) : filter.allows target level = true ↔
    ∃ directive, filter.Governs target directive ∧ directive.threshold.allows level = true := by
  rw [allows, Option.any_eq_true]
  simp only [directive?_eq_some_iff h]

theorem exists_governs_iff (h : filter.IsPlain) :
    (∃ directive, filter.Governs target directive) ↔ filter.Covers target := by
  rw [← isSome_directive?_iff h, Option.isSome_iff_exists]
  simp only [directive?_eq_some_iff h]

/-! ## The threshold that a filter falls back to -/

/-- The event passes if the threshold were that of all targets that no directive covers. -/
def Wants (filter : Filter) (least : Threshold) (target : String) (level : Level) : Prop :=
  (∃ directive, filter.Governs target directive ∧ directive.threshold.allows level = true) ∨
    (¬ filter.Covers target ∧ least.allows level = true)

theorem allows_default : allows [{ threshold := least }] target level = least.allows level := by
  simp [allows, directive?, Directive.isAbout, Directive.isStatic]

theorem allows_orDefault_iff (h : filter.IsPlain) :
    (filter.orDefault least).allows target level = true ↔
      filter.Wants least target level ∧ (filter = [] ∨ filter.Covers target) := by
  cases filter with
  | nil =>
    have hcovers : ¬ Covers [] target := by
      rintro ⟨directive, hdirective, -⟩
      cases hdirective
    have hgoverns : ∀ directive, ¬ Governs [] target directive := by
      intro directive hgoverns
      cases hgoverns.mem
    rw [orDefault, List.isEmpty_nil, if_pos rfl, allows_default]
    simp [Wants, hcovers, hgoverns]
  | cons first others =>
    rw [orDefault, List.isEmpty_cons, if_neg (by decide), allows_iff h, Wants]
    constructor
    · rintro ⟨directive, hgoverns, hallows⟩
      exact ⟨.inl ⟨directive, hgoverns, hallows⟩, .inr ⟨directive, hgoverns.mem, hgoverns.covers⟩⟩
    · rintro ⟨hgoverned | ⟨hnone, -⟩, hempty | hcovers⟩
      · cases hempty
      · exact hgoverned
      · cases hempty
      · exact absurd hcovers hnone

/-- That directives cover what is wanted comes down to the targets that none of them covers. -/
theorem wants_covered_iff :
    (filter.Wants least target level ∧ (filter = [] ∨ filter.Covers target) ↔
      filter.Wants least target level) ↔
    filter = [] ∨ (least.allows level = true → filter.Covers target) := by
  rw [and_iff_left_iff_imp]
  constructor
  · intro hreached
    by_cases hnone : filter = []
    · exact .inl hnone
    · refine .inr fun hallows => ?_
      by_contra huncovered
      rcases hreached (.inr ⟨huncovered, hallows⟩) with hempty | hcovers
      · exact hnone hempty
      · exact huncovered hcovers
  · rintro (hnone | hcovered) hwants
    · exact .inl hnone
    · rcases hwants with ⟨directive, hgoverns, -⟩ | ⟨-, hallows⟩
      · exact .inr ⟨directive, hgoverns.mem, hgoverns.covers⟩
      · exact .inr (hcovered hallows)

end Filter

end FeatureCheck
