import FeatureCheck.Name
import Mathlib.Data.List.Induction

/-!
# Lower case, versions and leads

Lowering a text leaves its hyphens and its white space where they are, and no letter looks past them
for its neighbours (`lowerChars_append_divides`). So it is all one whether a name is lowered before
or after it is trimmed or its version is taken off: `trim_lowercase`, `base_lowercase`. It is a
user's name just when its normal form is (`isUser_normalize`), since no character beyond ASCII is
lowered to one of the lead.
-/

namespace FeatureCheck

set_option autoImplicit false

namespace Text

theorem lowerLetter_hyphen : lowerLetter '-' = ['-'] := by decide +kernel

/-! ## Characters of ASCII -/

/-- A character of ASCII in lower case to which none beyond ASCII is lowered. -/
def isPlain (a : Char) : Bool :=
  a.toNat < 0x80 && a.toLower == a && a != 'i' && caseRuns.all fun run =>
    a.toNat < run.target || run.lower run.last < a.toNat

variable {a c : Char}

theorem toLower_of_mem_lowerLetter (ha : isPlain a = true) (h : a ∈ lowerLetter c) :
    c.toLower = a := by
  simp only [isPlain, Bool.and_eq_true, decide_eq_true_eq, beq_iff_eq, bne_iff_ne,
    List.all_eq_true, Bool.or_eq_true] at ha
  obtain ⟨⟨⟨hsmall, -⟩, hdotless⟩, hruns⟩ := ha
  rcases lowerLetter_eq c with ⟨-, heq⟩ | ⟨-, heq⟩ | ⟨hlarge, heq⟩ | ⟨run, hmem, hcontains, heq⟩
  · rw [heq, List.mem_singleton] at h
    exact h.symm
  · have hmark : a ≠ '\u0307' := by
      rintro rfl
      revert hsmall
      decide
    rw [heq] at h
    simp [hdotless, hmark] at h
  · rw [heq, List.mem_singleton] at h
    rw [h] at hsmall
    exact absurd hsmall hlarge
  · -- the lower case of a run is between its target and that of its last letter
    obtain ⟨-, -, -, hnat, -, -⟩ := caseRuns_lower hmem hcontains
    rw [heq, List.mem_singleton] at h
    rw [← h] at hnat
    have hlast := (CaseRun.contains_iff.mp hcontains).2.1
    have houtside := hruns run hmem
    simp only [CaseRun.lower] at hnat houtside
    omega

theorem toNat_lt_of_isPlain (ha : isPlain a = true) : a.toNat < 0x80 := by
  simp only [isPlain, Bool.and_eq_true, decide_eq_true_eq] at ha
  exact ha.1.1.1

theorem toLower_of_isPlain (ha : isPlain a = true) : a.toLower = a := by
  simp only [isPlain, Bool.and_eq_true, beq_iff_eq] at ha
  exact ha.1.1.2

theorem lowerSigma_not_ascii (before after : List Char) :
    ¬ (lowerSigma before after).toNat < 0x80 := by
  unfold lowerSigma
  split <;> decide

theorem sigma_not_ascii : ¬ sigma.toNat < 0x80 := by decide

/-- What lowering makes of `c`, wherever it stands. -/
theorem mem_lowered_iff (ha : isPlain a = true) (before after : List Char) :
    a ∈ (if c = sigma then [lowerSigma before after] else lowerLetter c) ↔ c.toLower = a := by
  have hsmall := toNat_lt_of_isPlain ha
  split
  · rename_i hsigma
    rw [hsigma, List.mem_singleton, toLower_of_not_ascii sigma_not_ascii]
    constructor
    · rintro rfl
      exact absurd hsmall (lowerSigma_not_ascii before after)
    · rintro rfl
      exact absurd hsmall sigma_not_ascii
  · refine ⟨toLower_of_mem_lowerLetter ha, ?_⟩
    intro heq
    by_cases hascii : c.toNat < 0x80
    · simp [lowerLetter, hascii, heq]
    · rw [toLower_of_not_ascii hascii] at heq
      rw [heq] at hascii
      exact absurd hsmall hascii

theorem mem_lowerFrom_iff (ha : isPlain a = true) {before cs : List Char} :
    a ∈ lowerFrom before cs ↔ ∃ c ∈ cs, c.toLower = a := by
  induction cs generalizing before with
  | nil => simp [lowerFrom]
  | cons c cs ih =>
    rw [lowerFrom, List.mem_append, mem_lowered_iff ha before cs, ih]
    simp

theorem hyphen_not_lower_ascii : ∀ code < 0x80,
    (Char.ofNat code).toLower = '-' → Char.ofNat code = '-' := by
  decide +kernel

theorem isPlain_hyphen : isPlain '-' = true := by decide +kernel

theorem toLower_eq_hyphen_iff : c.toLower = '-' ↔ c = '-' := by
  constructor
  · intro h
    by_cases hascii : c.toNat < 0x80
    · have hcode := hyphen_not_lower_ascii c.toNat hascii
      rw [Char.ofNat_toNat] at hcode
      exact hcode h
    · rwa [toLower_of_not_ascii hascii] at h
  · rintro rfl
    rfl

theorem hyphen_mem_lowerFrom_iff {before cs : List Char} :
    '-' ∈ lowerFrom before cs ↔ '-' ∈ cs := by
  simp [mem_lowerFrom_iff isPlain_hyphen, toLower_eq_hyphen_iff]

/-! ## Leads -/

theorem lowerFrom_cons_of_toLower (ha : isPlain a = true) (h : c.toLower = a)
    (before cs : List Char) : lowerFrom before (c :: cs) = a :: lowerFrom (c :: before) cs := by
  have hsmall := toNat_lt_of_isPlain ha
  have hascii : c.toNat < 0x80 := by
    by_contra hlarge
    rw [toLower_of_not_ascii hlarge] at h
    exact hlarge (h ▸ hsmall)
  have hsigma : c ≠ sigma := by
    rintro rfl
    exact sigma_not_ascii hascii
  rw [lowerFrom, if_neg hsigma]
  simp [lowerLetter, hascii, h]

theorem lowerLetter_ne_nil (c : Char) : lowerLetter c ≠ [] := by
  rcases lowerLetter_cases c with hsame | ⟨-, hne, -⟩
  · simp [hsame]
  · exact hne

theorem exists_lowerFrom_cons (ha : isPlain a = true) (h : c.toLower ≠ a)
    (before cs : List Char) :
    ∃ d rest, lowerFrom before (c :: cs) = d :: rest ∧ d.toLower ≠ a := by
  cases hlow : (if c = sigma then [lowerSigma before cs] else lowerLetter c) with
  | nil =>
    split at hlow
    · simp at hlow
    · exact absurd hlow (lowerLetter_ne_nil c)
  | cons d low =>
    have heq : lowerFrom before (c :: cs) = d :: (low ++ lowerFrom (c :: before) cs) := by
      rw [lowerFrom, hlow, List.cons_append]
    refine ⟨d, _, heq, ?_⟩
    have hd : d.toLower = d := toLower_of_mem_lowerFrom (heq ▸ List.mem_cons_self)
    rw [hd]
    rintro rfl
    have hmem : d ∈ (if c = sigma then [lowerSigma before cs] else lowerLetter c) := by simp [hlow]
    exact h ((mem_lowered_iff ha before cs).mp hmem)

theorem isSome_dropLead?_lowerFrom {lead : List Char} (hlead : ∀ a ∈ lead, isPlain a = true)
    (before cs : List Char) :
    (dropLead? lead (lowerFrom before cs)).isSome = (dropLead? lead cs).isSome := by
  induction lead generalizing before cs with
  | nil => rfl
  | cons a lead ih =>
    obtain ⟨ha, hlead⟩ := List.forall_mem_cons.mp hlead
    have hlow := toLower_of_isPlain ha
    cases cs with
    | nil => rfl
    | cons c cs =>
      by_cases hc : c.toLower = a
      · rw [lowerFrom_cons_of_toLower ha hc, dropLead?, if_pos rfl, dropLead?, hlow, hc,
          if_pos rfl]
        exact ih hlead _ _
      · obtain ⟨d, rest, heq, hd⟩ := exists_lowerFrom_cons ha hc before cs
        rw [heq, dropLead?, dropLead?, hlow, if_neg (Ne.symm hd), if_neg (Ne.symm hc)]

/-! ## Characters that divide -/

/-- Lowering leaves the character as it is, and no letter looks past it for its neighbours. -/
structure Divides (c : Char) : Prop where
  ne_sigma : c ≠ sigma
  lowered : lowerLetter c = [c]
  not_ignored : caseIgnorableRanges.contains c.toNat = false
  not_cased : casedRanges.contains c.toNat = false

theorem divides_hyphen : Divides '-' where
  ne_sigma := by decide
  lowered := lowerLetter_hyphen
  not_ignored := by decide +kernel
  not_cased := by decide +kernel

theorem exists_blankRange {c : Char} (h : isSpace c = true) :
    ∃ range ∈ blankRanges, range.1 ≤ c.toNat ∧ c.toNat ≤ range.2 := by
  simp only [isSpace, Bool.or_eq_true, Bool.and_eq_true, decide_eq_true_eq, beq_iff_eq] at h
  simp only [blankRanges, List.mem_cons, List.not_mem_nil, or_false, exists_eq_or_imp,
    exists_eq_left]
  omega

theorem CodeRanges.contains_of_avoid {ranges : CodeRanges} {first last code : Nat}
    (h : ranges.avoid first last = true) (hfirst : first ≤ code) (hlast : code ≤ last) :
    ranges.contains code = false := by
  have houtside := outside_of_avoid h hfirst hlast
  rw [contains, List.any_eq_false]
  intro range hrange hin
  have hout := houtside range hrange
  simp only [Bool.and_eq_true, decide_eq_true_eq] at hin
  omega

/-- No blank is in a table that avoids the ranges of the blanks. -/
theorem not_contains_of_isSpace {ranges : CodeRanges} {c : Char}
    (h : ∀ range ∈ blankRanges, ranges.avoid range.1 range.2 = true) (hspace : isSpace c = true) :
    ranges.contains c.toNat = false := by
  obtain ⟨range, hrange, hlow, hhigh⟩ := exists_blankRange hspace
  exact CodeRanges.contains_of_avoid (h range hrange) hlow hhigh

theorem divides_of_isSpace {c : Char} (h : isSpace c = true) : Divides c := by
  have hlowered : lowerLetter c = [c] := by
    rcases lowerLetter_cases c with hsame | ⟨hspace, -, -⟩
    · exact hsame
    · simp [h] at hspace
  refine ⟨?_, hlowered, not_contains_of_isSpace (by decide +kernel) h,
    not_contains_of_isSpace (by decide +kernel) h⟩
  rintro rfl
  revert h
  decide

theorem meetsCased_append_divides (h : Divides c) (cs rest : List Char) :
    meetsCased (cs ++ c :: rest) = meetsCased cs := by
  induction cs with
  | nil => simp [meetsCased, h.not_ignored, h.not_cased]
  | cons d cs ih =>
    unfold meetsCased at ih ⊢
    by_cases hd : caseIgnorableRanges.contains d.toNat = true
    · simpa [hd] using ih
    · simp [hd]

theorem lowerFrom_behind_divides (h : Divides c) (near far cs : List Char) :
    lowerFrom (near ++ c :: far) cs = lowerFrom near cs := by
  induction cs generalizing near with
  | nil => rfl
  | cons d cs ih =>
    rw [lowerFrom, lowerFrom, ← List.cons_append, ih, lowerSigma, lowerSigma,
      meetsCased_append_divides h]

/-- What stands on one side of a dividing character is lowered without a look at the other. -/
theorem lowerFrom_append_divides (h : Divides c) (before front back : List Char) :
    lowerFrom before (front ++ c :: back) = lowerFrom before front ++ c :: lowerChars back := by
  induction front generalizing before with
  | nil =>
    have hback := lowerFrom_behind_divides h [] before back
    rw [List.nil_append] at hback
    simp only [List.nil_append, lowerFrom, if_neg h.ne_sigma, h.lowered, hback, lowerChars,
      List.singleton_append]
  | cons d front ih =>
    have hsigma : lowerSigma before (front ++ c :: back) = lowerSigma before front := by
      rw [lowerSigma, meetsCased_append_divides h, lowerSigma]
    rw [List.cons_append, lowerFrom, ih, hsigma, lowerFrom, List.append_assoc]

theorem lowerChars_append_divides (h : Divides c) (front back : List Char) :
    lowerChars (front ++ c :: back) = lowerChars front ++ c :: lowerChars back :=
  lowerFrom_append_divides h [] front back

/-! ## White space -/

theorem dropWhile_lowerChars (cs : List Char) :
    (lowerChars cs).dropWhile isSpace = lowerChars (cs.dropWhile isSpace) := by
  induction cs with
  | nil => rfl
  | cons c cs ih =>
    cases hspace : isSpace c with
    | true =>
      have hlowered := lowerChars_append_divides (divides_of_isSpace hspace) [] cs
      rw [List.nil_append] at hlowered
      rw [hlowered, List.dropWhile_cons_of_pos hspace, ← ih]
      simp [lowerChars, lowerFrom, hspace]
    | false =>
      obtain ⟨low, heq, hne, hlow⟩ := lowered_cases [] cs c
      rw [List.dropWhile_cons_of_neg (by simp [hspace]), lowerChars, heq]
      cases low with
      | nil => exact absurd rfl hne
      | cons d low =>
        have hd : isSpace d = false := (hlow d List.mem_cons_self).2.2.trans hspace
        rw [List.cons_append, List.dropWhile_cons_of_neg (by simp [hd])]

theorem dropTail_eq_self {cs : List Char} (h : ∀ c ∈ cs.getLast?, isSpace c = false) :
    dropTail isSpace cs = cs := by
  induction cs using List.reverseRecOn with
  | nil => rfl
  | append_singleton cs c _ => simp [dropTail, h c (by simp)]

theorem dropTail_lowerChars (cs : List Char) :
    dropTail isSpace (lowerChars cs) = lowerChars (dropTail isSpace cs) := by
  induction cs using List.reverseRecOn with
  | nil => rfl
  | append_singleton cs c ih =>
    cases hspace : isSpace c with
    | true =>
      have hdropped : ∀ cs, dropTail isSpace (cs ++ [c]) = dropTail isSpace cs := by
        intro cs
        simp [dropTail, hspace]
      have hlowered := lowerChars_append_divides (divides_of_isSpace hspace) cs []
      rw [hlowered, hdropped, ← ih]
      exact hdropped (lowerChars cs)
    | false =>
      have hlast : ∀ d ∈ (lowerChars (cs ++ [c])).getLast?, isSpace d = false := by
        intro d hd
        obtain ⟨last, hlast, heq⟩ := getLast?_lowerFrom hd
        rw [List.getLast?_concat, Option.mem_some] at hlast
        rw [heq, ← hlast, hspace]
      have hlast' : ∀ d ∈ (cs ++ [c]).getLast?, isSpace d = false := by simp [hspace]
      rw [dropTail_eq_self hlast, dropTail_eq_self hlast']

theorem trimChars_lowerChars (cs : List Char) :
    trimChars (lowerChars cs) = lowerChars (trimChars cs) := by
  rw [trimChars, dropWhile_lowerChars, dropTail_lowerChars, trimChars]

/-! ## Texts -/

theorem hyphen_mem_lowercase_iff {text : String} :
    '-' ∈ (lowercase text).toList ↔ '-' ∈ text.toList := by
  rw [lowercase, String.toList_ofList]
  exact hyphen_mem_lowerFrom_iff

theorem lowercase_append_hyphen (front back : String) :
    lowercase (front ++ "-" ++ back) = lowercase front ++ "-" ++ lowercase back := by
  apply String.toList_injective
  simp only [lowercase, String.toList_append, String.toList_ofList, List.append_assoc]
  exact lowerChars_append_divides divides_hyphen _ _

theorem lowercase_lowercase (text : String) : lowercase (lowercase text) = lowercase text := by
  simp [lowercase]

theorem trim_lowercase (text : String) : trim (lowercase text) = lowercase (trim text) := by
  rw [trim, lowercase, String.toList_ofList, trimChars_lowerChars, lowercase, trim,
    String.toList_ofList]

end Text

namespace Name

theorem splitVersion?_lowercase (name : String) :
    splitVersion? (Text.lowercase name) =
      (splitVersion? name).map (Prod.map Text.lowercase Text.lowercase) := by
  cases hsplit : splitVersion? name with
  | none =>
    rw [Option.map_none, splitVersion?_eq_none_iff, Text.hyphen_mem_lowercase_iff]
    exact splitVersion?_eq_none_iff.mp hsplit
  | some parts =>
    obtain ⟨front, back⟩ := parts
    obtain ⟨hname, hback⟩ := splitVersion?_eq_some_iff.mp hsplit
    rw [Option.map_some, Prod.map_apply, splitVersion?_eq_some_iff, Text.hyphen_mem_lowercase_iff]
    exact ⟨by rw [hname, Text.lowercase_append_hyphen], hback⟩

theorem base_lowercase (name : String) :
    base (Text.lowercase name) = Text.lowercase (base name) := by
  rw [base, splitVersion?_lowercase, base]
  cases splitVersion? name <;> rfl

theorem version?_lowercase (name : String) :
    version? (Text.lowercase name) = (version? name).map Text.lowercase := by
  rw [version?, splitVersion?_lowercase, version?]
  cases splitVersion? name <;> rfl

theorem base_normalize (name : String) :
    base (normalize name) = Text.lowercase (base (Text.trim name)) := by
  rw [normalize, base_lowercase]

@[simp] theorem trim_normalize (name : String) : Text.trim (normalize name) = normalize name := by
  rw [normalize, Text.trim_lowercase, Text.trim_trim]

@[simp] theorem normalize_lowercase (text : String) :
    normalize (Text.lowercase text) = normalize text := by
  rw [normalize, Text.trim_lowercase, Text.lowercase_lowercase, ← normalize]

theorem normalize_append_lowercase (front back : String) :
    normalize (Text.lowercase front ++ "-" ++ Text.lowercase back) =
      normalize (front ++ "-" ++ back) := by
  rw [← Text.lowercase_append_hyphen, normalize_lowercase]

/-- The case of a base or of a version does not count in a name that they are put together to. -/
theorem normalize_append_congr {front front' back back' : String}
    (hfront : Text.lowercase front = Text.lowercase front')
    (hback : Text.lowercase back = Text.lowercase back') :
    normalize (front ++ "-" ++ back) = normalize (front' ++ "-" ++ back') := by
  rw [← normalize_append_lowercase, hfront, hback, normalize_append_lowercase]

/-- The base of a name in whatever spelling has one key. -/
theorem normalize_base_normalize (name : String) :
    normalize (base (normalize name)) = normalize (base (Text.trim name)) := by
  rw [base_normalize, normalize_lowercase]

theorem isPlain_userLead : userLead.toList.all Text.isPlain = true := by decide +kernel

theorem isUser_normalize (name : String) : isUser (normalize name) = isUser (Text.trim name) := by
  rw [isUser, Text.startsIgnoringCase, normalize, Text.lowercase, String.toList_ofList]
  exact Text.isSome_dropLead?_lowerFrom (List.all_eq_true.mp isPlain_userLead) _ _

end Name

end FeatureCheck
