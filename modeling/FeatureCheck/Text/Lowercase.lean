import FeatureCheck.Text.CaseTable
import FeatureCheck.Text.Space

/-!
# Lower case

Full Unicode lower case of a text. One letter depends on its neighbours: a capital sigma that ends
a word becomes `ς`, any other `σ`. Lowering twice is lowering once (`lowerChars_lowerChars`), and
it moves no white space (`trimmed_lowerChars`).
-/

namespace FeatureCheck.Text

set_option autoImplicit false

def sigma : Char := 'Σ'

/-- Lower case of a letter that does not depend on its neighbours. -/
def lowerLetter (c : Char) : List Char :=
  let code := c.toNat
  if code < 0x80 then [c.toLower]
  else if code = 0x130 then ['i', '\u0307']
  else match caseRuns.find? (·.contains code) with
    | some run => [Char.ofNat (run.lower code)]
    | none => [c]

/-- A cased letter comes first once case-ignorable characters are passed over. -/
def meetsCased (cs : List Char) : Bool :=
  match cs.dropWhile fun c => caseIgnorableRanges.contains c.toNat with
  | [] => false
  | c :: _ => casedRanges.contains c.toNat

/-- Lower case of a capital sigma with `before` (nearest first) and `after` around it. -/
def lowerSigma (before after : List Char) : Char :=
  if meetsCased before && !meetsCased after then 'ς' else 'σ'

/-- Lowers a text whose earlier part, nearest first, is `before`. -/
def lowerFrom (before : List Char) : List Char → List Char
  | [] => []
  | c :: rest =>
      (if c = sigma then [lowerSigma before rest] else lowerLetter c) ++
        lowerFrom (c :: before) rest

def lowerChars (cs : List Char) : List Char :=
  lowerFrom [] cs

def lowercase (text : String) : String :=
  String.ofList (lowerChars text.toList)

/-- A character that lowering leaves as it is, and which is not white space. -/
def settled (c : Char) : Bool :=
  c != sigma && lowerLetter c == [c] && !isSpace c

theorem settled_ascii : ∀ code < 0x80,
    isSpace (Char.ofNat code) = true ∨ settled (Char.ofNat code).toLower = true := by
  decide +kernel

theorem toLower_of_not_capital {c : Char} (h : c.toNat < 0x41 ∨ 0x5A < c.toNat) :
    c.toLower = c := by
  unfold Char.toLower
  split
  · rename_i hupper
    have hlow : 65 ≤ c.toNat := UInt32.le_iff_toNat_le.mp hupper.1
    have hhigh : c.toNat ≤ 90 := UInt32.le_iff_toNat_le.mp hupper.2
    omega
  · rfl

theorem toLower_of_isSpace {c : Char} (h : isSpace c = true) : c.toLower = c := by
  apply toLower_of_not_capital
  simp only [isSpace, Bool.or_eq_true, Bool.and_eq_true, decide_eq_true_eq, beq_iff_eq] at h
  omega

/-- No letter of `other` is the lower case of a letter of `run`. -/
def CaseRun.misses (run other : CaseRun) : Bool :=
  Nat.blt (run.lower run.last) other.first || Nat.blt other.last run.target ||
    (run.step == 2 && other.step == 2 && (run.target + other.first) % 2 == 1) ||
    (run.first == run.last && !other.contains run.target)

/-- The lower case of the run is below `low` or above `high`. -/
def CaseRun.isFar (run : CaseRun) (low high : Nat) : Bool :=
  Nat.blt (run.lower run.last) low || Nat.blt high run.target

theorem CaseRun.misses_of_isFar {run other : CaseRun} {low high : Nat}
    (h : run.isFar low high = true) (hlow : low ≤ other.first) (hhigh : other.last ≤ high) :
    run.misses other = true := by
  simp only [isFar, Bool.or_eq_true, Nat.blt_eq] at h
  simp only [misses, Bool.or_eq_true, Nat.blt_eq]
  omega

/-- A part of the table. Most runs are far from all of it, so that few pairs are compared. -/
def runsOf (part : Nat) : List CaseRun :=
  (caseRuns.drop (8 * part)).take 8

def lowOf (part : Nat) : Nat :=
  (runsOf part).head?.elim 0 (·.first)

def highOf (part : Nat) : Nat :=
  (runsOf part).getLast?.elim 0 (·.last)

theorem exists_mem_runsOf {run : CaseRun} (h : run ∈ caseRuns) :
    ∃ part < 23, run ∈ runsOf part := by
  obtain ⟨place, hplace, rfl⟩ := List.mem_iff_getElem.mp h
  have hlength : caseRuns.length = 184 := rfl
  refine ⟨place / 8, by omega, List.mem_iff_getElem.mpr ⟨place % 8, ?_, ?_⟩⟩
  · simp only [runsOf, List.length_take, List.length_drop]
    omega
  · simp only [runsOf, List.getElem_take, List.getElem_drop, Nat.div_add_mod]

/-- The part is between its bounds, and each run is far from them or misses all of the part. -/
def missed (part : Nat) : Bool :=
  ((runsOf part).all fun run => Nat.ble (lowOf part) run.first && Nat.ble run.last (highOf part)) &&
    caseRuns.all fun run =>
      run.isFar (lowOf part) (highOf part) || (runsOf part).all run.misses

theorem all_missed : (List.range 23).all missed = true := by
  decide +kernel

theorem caseRuns_misses {run other : CaseRun} (hrun : run ∈ caseRuns) (hother : other ∈ caseRuns) :
    run.misses other = true := by
  obtain ⟨part, hpart, hmem⟩ := exists_mem_runsOf hother
  have hmissed := List.all_eq_true.mp all_missed part (List.mem_range.mpr hpart)
  obtain ⟨hbounds, hruns⟩ := (Bool.and_eq_true _ _).mp hmissed
  have hbetween := List.all_eq_true.mp hbounds other hmem
  simp only [Bool.and_eq_true, Nat.ble_eq] at hbetween
  rcases (Bool.or_eq_true _ _).mp (List.all_eq_true.mp hruns run hrun) with hfar | hnear
  · exact CaseRun.misses_of_isFar hfar hbetween.1 hbetween.2
  · exact List.all_eq_true.mp hnear other hmem

theorem CaseRun.contains_iff {run : CaseRun} {code : Nat} : run.contains code = true ↔
    run.first ≤ code ∧ code ≤ run.last ∧ (code - run.first) % run.step = 0 := by
  simp [contains, and_assoc]

theorem CaseRun.not_contains_lower {run other : CaseRun} {code : Nat}
    (h : run.misses other = true) (hcode : run.contains code = true) :
    other.contains (run.lower code) = false := by
  rw [Bool.eq_false_iff]
  intro hother
  obtain ⟨hlow, hhigh, hstep⟩ := contains_iff.mp hcode
  obtain ⟨hlow', hhigh', hstep'⟩ := contains_iff.mp hother
  simp only [lower] at hlow' hhigh' hstep'
  simp only [misses, lower, Bool.or_eq_true, Bool.and_eq_true, Nat.blt_eq, beq_iff_eq] at h
  rcases h with ((h | h) | ⟨⟨htwo, htwo'⟩, hodd⟩) | ⟨hone, h⟩
  · omega
  · omega
  · rw [htwo] at hstep
    rw [htwo'] at hstep'
    omega
  · have hzero : code - run.first = 0 := by omega
    rw [lower, hzero, Nat.add_zero] at hother
    simp [hother] at h

/-- No code from `first` to `last` is in one of the ranges. -/
def CodeRanges.avoid (ranges : CodeRanges) (first last : Nat) : Bool :=
  ranges.all fun range => Nat.blt last range.1 || Nat.blt range.2 first

theorem CodeRanges.outside_of_avoid {ranges : CodeRanges} {first last code : Nat}
    (h : ranges.avoid first last = true) (hfirst : first ≤ code) (hlast : code ≤ last) :
    ∀ range ∈ ranges, code < range.1 ∨ range.2 < code := by
  intro range hrange
  have hrange := List.all_eq_true.mp h range hrange
  simp only [Bool.or_eq_true, Nat.blt_eq] at hrange
  omega

/-- White space, and the codes of no character. -/
def blankRanges : CodeRanges := [
  (0xD800, 0xDFFF), (0x9, 0xD), (0x20, 0x20), (0x85, 0x85), (0xA0, 0xA0), (0x1680, 0x1680),
  (0x2000, 0x200A), (0x2028, 0x2029), (0x202F, 0x202F), (0x205F, 0x205F), (0x3000, 0x3000)]

/-- The capitals of ASCII, the capital I with a dot and the capital sigma. -/
def capitalRanges : CodeRanges := [(0x41, 0x5A), (0x130, 0x130), (0x3A3, 0x3A3)]

theorem toNat_ofNat_of_outside {code : Nat} (hcode : code < 0x110000)
    (h : ∀ range ∈ blankRanges, code < range.1 ∨ range.2 < code) :
    (Char.ofNat code).toNat = code := by
  have hsurrogate := h (0xD800, 0xDFFF) (by simp [blankRanges])
  have hvalid : code.isValidChar := by
    rcases hsurrogate with hlow | hhigh
    · exact .inl hlow
    · exact .inr ⟨hhigh, hcode⟩
  rw [Char.ofNat, dif_pos hvalid]
  rfl

theorem isSpace_of_outside {code : Nat} (hcode : code < 0x110000)
    (h : ∀ range ∈ blankRanges, code < range.1 ∨ range.2 < code) :
    isSpace (Char.ofNat code) = false := by
  have hnat := toNat_ofNat_of_outside hcode h
  simp only [blankRanges, List.forall_mem_cons] at h
  rw [Bool.eq_false_iff]
  intro hspace
  simp only [isSpace, hnat, Bool.or_eq_true, Bool.and_eq_true, decide_eq_true_eq, beq_iff_eq]
    at hspace
  omega

theorem caseRuns_avoid : ∀ run ∈ caseRuns,
    0 < run.step ∧ run.first ≤ run.last ∧ run.last < 0x110000 ∧ run.lower run.last < 0x110000 ∧
      blankRanges.avoid run.first run.last = true ∧
      blankRanges.avoid run.target (run.lower run.last) = true ∧
      capitalRanges.avoid run.target (run.lower run.last) = true := by
  decide +kernel

/-- What the letters of the runs and their lower case have in common. -/
theorem caseRuns_letters : ∀ run ∈ caseRuns, 0 < run.step ∧
    ∀ i < (run.last - run.first) / run.step + 1,
      let letter := Char.ofNat (run.first + run.step * i)
      let image := Char.ofNat (run.target + run.step * i)
      isSpace letter = false ∧ isSpace image = false ∧ image ≠ sigma ∧
        image.toNat = run.target + run.step * i ∧ image.toNat ≠ 0x130 ∧
        (image.toNat < 0x80 → image.toLower = image) := by
  intro run hrun
  obtain ⟨hstep, hfilled, hlast, hlower, hletters, himages, hcapitals⟩ := caseRuns_avoid run hrun
  refine ⟨hstep, fun i hi => ?_⟩
  have hoffset : run.step * i ≤ run.last - run.first := by
    rw [Nat.mul_comm]
    exact Nat.mul_le_of_le_div _ _ _ (Nat.le_of_lt_succ hi)
  rw [CaseRun.lower] at hlower himages hcapitals
  have hletter := CodeRanges.outside_of_avoid hletters
    (Nat.le_add_right run.first (run.step * i)) (by omega)
  have himage := CodeRanges.outside_of_avoid himages
    (Nat.le_add_right run.target (run.step * i)) (by omega)
  have hcapital := CodeRanges.outside_of_avoid hcapitals
    (Nat.le_add_right run.target (run.step * i)) (by omega)
  simp only [capitalRanges, List.forall_mem_cons] at hcapital
  obtain ⟨hascii, hdot, hsigma, -⟩ := hcapital
  have hnat := toNat_ofNat_of_outside (by omega) himage
  refine ⟨isSpace_of_outside (by omega) hletter, isSpace_of_outside (by omega) himage, ?_, hnat,
    by omega, fun _ => toLower_of_not_capital (by omega)⟩
  intro heq
  have hcode : (0x3A3 : Nat) = run.target + run.step * i := by
    rw [← hnat, heq]
    rfl
  omega

theorem settled_dottedI : settled 'i' = true ∧ settled '\u0307' = true := by decide

theorem settled_sigmas : settled 'ς' = true ∧ settled 'σ' = true := by decide

theorem CaseRun.exists_index {run : CaseRun} {code : Nat} (h : run.contains code = true) :
    ∃ i < (run.last - run.first) / run.step + 1, code = run.first + run.step * i := by
  simp only [CaseRun.contains, Bool.and_eq_true, decide_eq_true_eq, beq_iff_eq] at h
  obtain ⟨⟨hlow, hhigh⟩, hstep⟩ := h
  refine ⟨(code - run.first) / run.step, ?_, ?_⟩
  · exact Nat.lt_succ_of_le (Nat.div_le_div_right (by omega))
  · have := Nat.div_add_mod (code - run.first) run.step
    omega

/-- A letter of a run and its lower case. -/
theorem caseRuns_lower {run : CaseRun} {code : Nat} (hrun : run ∈ caseRuns)
    (hcode : run.contains code = true) :
    let image := Char.ofNat (run.lower code)
    isSpace (Char.ofNat code) = false ∧ isSpace image = false ∧ image ≠ sigma ∧
      image.toNat = run.lower code ∧ image.toNat ≠ 0x130 ∧
      (image.toNat < 0x80 → image.toLower = image) := by
  obtain ⟨i, hi, heq⟩ := CaseRun.exists_index hcode
  have himage : run.lower code = run.target + run.step * i := by
    rw [heq, CaseRun.lower]
    omega
  have hletter := (caseRuns_letters run hrun).2 i hi
  simpa only [← heq, ← himage] using hletter

/-- A letter is lowered as one of ASCII, as the capital I with a dot, by a run, or not at all. -/
theorem lowerLetter_eq (c : Char) :
    (c.toNat < 0x80 ∧ lowerLetter c = [c.toLower]) ∨
      (c.toNat = 0x130 ∧ lowerLetter c = ['i', '\u0307']) ∨
      (¬ c.toNat < 0x80 ∧ lowerLetter c = [c]) ∨
      ∃ run ∈ caseRuns, run.contains c.toNat = true ∧
        lowerLetter c = [Char.ofNat (run.lower c.toNat)] := by
  by_cases hascii : c.toNat < 0x80
  · exact .inl ⟨hascii, by simp [lowerLetter, hascii]⟩
  by_cases hdot : c.toNat = 0x130
  · exact .inr (.inl ⟨hdot, by simp [lowerLetter, hdot]⟩)
  cases hrun : caseRuns.find? (·.contains c.toNat) with
  | none => exact .inr (.inr (.inl ⟨hascii, by simp [lowerLetter, hascii, hdot, hrun]⟩))
  | some run =>
    have hcontains : run.contains c.toNat = true := by simpa using List.find?_some hrun
    refine .inr (.inr (.inr ⟨run, List.mem_of_find?_eq_some hrun, hcontains, ?_⟩))
    simp [lowerLetter, hascii, hdot, hrun]

/-- Lowering a letter either keeps white space or gives settled characters. -/
theorem lowerLetter_cases (c : Char) :
    (lowerLetter c = [c]) ∨
      (isSpace c = false ∧ lowerLetter c ≠ [] ∧ ∀ d ∈ lowerLetter c, settled d = true) := by
  rcases lowerLetter_eq c with ⟨hascii, heq⟩ | ⟨hdot, heq⟩ | ⟨-, heq⟩ | ⟨run, hmem, hcontains, heq⟩
  · by_cases hspace : isSpace c = true
    · exact .inl (by rw [heq, toLower_of_isSpace hspace])
    · have := settled_ascii c.toNat hascii
      simp only [Char.ofNat_toNat, hspace] at this
      exact .inr ⟨by simpa using hspace, by simp [heq], by simpa [heq] using this⟩
  · have hc : isSpace c = false := by simp [isSpace, hdot]
    exact .inr ⟨hc, by simp [heq], by simpa [heq] using settled_dottedI⟩
  · exact .inl heq
  · obtain ⟨hc, hspace, hsigma, hnat, hdotless, hlow⟩ := caseRuns_lower hmem hcontains
    rw [Char.ofNat_toNat] at hc
    have hnone : caseRuns.find? (·.contains (run.lower c.toNat)) = none := by
      simpa using fun other hother =>
        CaseRun.not_contains_lower (caseRuns_misses hmem hother) hcontains
    have hfix : lowerLetter (Char.ofNat (run.lower c.toNat)) =
        [Char.ofNat (run.lower c.toNat)] := by
      by_cases hsmall : (Char.ofNat (run.lower c.toNat)).toNat < 0x80
      · simp [lowerLetter, hsmall, hlow hsmall]
      · rw [lowerLetter]
        simp only [if_neg hsmall, if_neg hdotless]
        rw [hnat, hnone]
    exact .inr ⟨hc, by simp [heq], by simp [heq, settled, hsigma, hfix, hspace]⟩

/-- What lowering makes of one character, wherever it stands. -/
theorem lowered_cases (before rest : List Char) (c : Char) :
    ∃ low, lowerFrom before (c :: rest) = low ++ lowerFrom (c :: before) rest ∧
      low ≠ [] ∧ (∀ d ∈ low, d ≠ sigma ∧ lowerLetter d = [d] ∧ isSpace d = isSpace c) := by
  refine ⟨_, rfl, ?_⟩
  by_cases hs : c = sigma
  · subst hs
    have hspace : isSpace sigma = false := by decide
    have hlow : settled (lowerSigma before rest) = true := by
      unfold lowerSigma; split
      · exact settled_sigmas.1
      · exact settled_sigmas.2
    refine ⟨by simp, ?_⟩
    simp only [if_true, List.mem_singleton, forall_eq]
    simp only [settled, Bool.and_eq_true, bne_iff_ne, beq_iff_eq, Bool.not_eq_true'] at hlow
    exact ⟨hlow.1.1, hlow.1.2, by rw [hlow.2, hspace]⟩
  · simp only [hs, if_false]
    rcases lowerLetter_cases c with h | ⟨hspace, hne, h⟩
    · refine ⟨by simp [h], ?_⟩
      intro d hd
      rw [h, List.mem_singleton] at hd
      subst hd
      exact ⟨hs, h, rfl⟩
    · refine ⟨hne, fun d hd => ?_⟩
      have := h d hd
      simp only [settled, Bool.and_eq_true, bne_iff_ne, beq_iff_eq, Bool.not_eq_true'] at this
      exact ⟨this.1.1, this.1.2, by rw [this.2, hspace]⟩

theorem lowerFrom_eq_self {before cs : List Char}
    (h : ∀ c ∈ cs, c ≠ sigma ∧ lowerLetter c = [c]) : lowerFrom before cs = cs := by
  induction cs generalizing before with
  | nil => rfl
  | cons c cs ih =>
    have hc := h c (by simp)
    simp [lowerFrom, hc.1, hc.2, ih fun d hd => h d (by simp [hd])]

theorem mem_lowerFrom {before cs : List Char} {d : Char} (h : d ∈ lowerFrom before cs) :
    d ≠ sigma ∧ lowerLetter d = [d] := by
  induction cs generalizing before with
  | nil => simp [lowerFrom] at h
  | cons c cs ih =>
    obtain ⟨low, heq, _, hlow⟩ := lowered_cases before cs c
    rw [heq, List.mem_append] at h
    rcases h with h | h
    · exact ⟨(hlow d h).1, (hlow d h).2.1⟩
    · exact ih h

@[simp] theorem lowerChars_lowerChars (cs : List Char) :
    lowerChars (lowerChars cs) = lowerChars cs :=
  lowerFrom_eq_self fun _ hc => mem_lowerFrom hc

theorem lowerFrom_eq_nil_iff {before cs : List Char} : lowerFrom before cs = [] ↔ cs = [] := by
  cases cs with
  | nil => simp [lowerFrom]
  | cons c cs =>
    obtain ⟨low, heq, hne, -⟩ := lowered_cases before cs c
    simp [heq, hne]

theorem toLower_of_not_ascii {c : Char} (h : ¬ c.toNat < 0x80) : c.toLower = c :=
  toLower_of_not_capital (by omega)

theorem lowerFrom_ascii {before cs : List Char} (h : ∀ c ∈ cs, c.toNat < 0x80) :
    lowerFrom before cs = cs.map Char.toLower := by
  induction cs generalizing before with
  | nil => rfl
  | cons c cs ih =>
    have hc : c.toNat < 0x80 := h c List.mem_cons_self
    have hsigma : c ≠ sigma := by
      rintro rfl
      revert hc
      decide
    rw [lowerFrom, if_neg hsigma, ih fun d hd => h d (List.mem_cons_of_mem c hd)]
    simp [lowerLetter, hc]

theorem toLower_of_mem_lowerFrom {before cs : List Char} {c : Char} (h : c ∈ lowerFrom before cs) :
    c.toLower = c := by
  by_cases hascii : c.toNat < 0x80
  · have hlow := (mem_lowerFrom h).2
    simpa [lowerLetter, hascii] using hlow
  · exact toLower_of_not_ascii hascii

theorem head?_lowerFrom {before cs : List Char} {d : Char}
    (h : d ∈ (lowerFrom before cs).head?) : ∃ c ∈ cs.head?, isSpace d = isSpace c := by
  cases cs with
  | nil => simp [lowerFrom] at h
  | cons c cs =>
    obtain ⟨low, heq, hne, hlow⟩ := lowered_cases before cs c
    cases low with
    | nil => exact absurd rfl hne
    | cons a low =>
      rw [heq] at h
      simp only [List.cons_append, List.head?_cons, Option.mem_def, Option.some.injEq] at h
      subst h
      exact ⟨c, by simp, (hlow a (by simp)).2.2⟩

theorem getLast?_lowerFrom {before cs : List Char} {d : Char}
    (h : d ∈ (lowerFrom before cs).getLast?) : ∃ c ∈ cs.getLast?, isSpace d = isSpace c := by
  induction cs generalizing before with
  | nil => simp [lowerFrom] at h
  | cons c cs ih =>
    obtain ⟨low, heq, hne, hlow⟩ := lowered_cases before cs c
    rw [heq, List.getLast?_append] at h
    cases hrest : (lowerFrom (c :: before) cs).getLast? with
    | some e =>
      simp only [hrest, Option.some_or, Option.mem_def, Option.some.injEq] at h
      subst h
      obtain ⟨b, hb, hspace⟩ := @ih (c :: before) (by simp [hrest])
      refine ⟨b, ?_, hspace⟩
      rw [Option.mem_def] at hb ⊢
      rw [List.getLast?_cons, hb]; rfl
    | none =>
      rw [List.getLast?_eq_none_iff] at hrest
      have hnil : cs = [] := by
        cases cs with
        | nil => rfl
        | cons b t =>
          obtain ⟨low', heq', hne', _⟩ := lowered_cases (c :: before) t b
          rw [heq', List.append_eq_nil_iff] at hrest
          exact absurd hrest.1 hne'
      subst hnil
      simp only [lowerFrom, List.getLast?_nil, Option.none_or] at h
      exact ⟨c, by simp, (hlow d (List.mem_of_getLast? h)).2.2⟩

theorem trimmed_lowerChars {cs : List Char} (h : Trimmed cs) : Trimmed (lowerChars cs) := by
  constructor
  · intro d hd
    obtain ⟨c, hc, hspace⟩ := head?_lowerFrom hd
    rw [hspace]; exact h.1 c hc
  · intro d hd
    obtain ⟨c, hc, hspace⟩ := getLast?_lowerFrom hd
    rw [hspace]; exact h.2 c hc

end FeatureCheck.Text
