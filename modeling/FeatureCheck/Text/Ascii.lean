import FeatureCheck.Text.Lowercase

/-!
# Comparison up to ASCII case

Only the letters `A` to `Z` are folded here; other letters are equal to themselves alone. Whether one
of these letters is a capital makes no difference to what lowering and trimming do with it or with
the text around it: `lowerFrom_map_toLower`, `trimChars_map_toLower`.
-/

namespace FeatureCheck.Text

set_option autoImplicit false

def equalsIgnoringCase (left right : String) : Bool :=
  left.toList.map Char.toLower == right.toList.map Char.toLower

theorem equalsIgnoringCase_eq_true {left right : String} :
    equalsIgnoringCase left right = true ↔
      left.toList.map Char.toLower = right.toList.map Char.toLower := by
  rw [equalsIgnoringCase, beq_iff_eq]

/-- What follows a lead, if the text starts with it up to case. -/
def dropLead? : List Char → List Char → Option (List Char)
  | [], cs => some cs
  | _ :: _, [] => none
  | a :: lead, c :: cs => if a.toLower = c.toLower then dropLead? lead cs else none

def startsIgnoringCase (text lead : String) : Bool :=
  (dropLead? lead.toList text.toList).isSome

theorem toLower_capital_kept : ∀ place < 26,
    lowerLetter (Char.ofNat (0x41 + place)).toLower = lowerLetter (Char.ofNat (0x41 + place)) ∧
      isSpace (Char.ofNat (0x41 + place)).toLower = isSpace (Char.ofNat (0x41 + place)) ∧
      caseIgnorableRanges.contains (Char.ofNat (0x41 + place)).toLower.toNat =
        caseIgnorableRanges.contains (0x41 + place) ∧
      casedRanges.contains (Char.ofNat (0x41 + place)).toLower.toNat =
        casedRanges.contains (0x41 + place) ∧
      (Char.ofNat (0x41 + place)).toLower ≠ sigma ∧ Char.ofNat (0x41 + place) ≠ sigma := by
  decide +kernel

/-- A letter and its lower case in ASCII count alike in all that lowering and trimming look at. -/
theorem toLower_kept (c : Char) : lowerLetter c.toLower = lowerLetter c ∧
    isSpace c.toLower = isSpace c ∧
    caseIgnorableRanges.contains c.toLower.toNat = caseIgnorableRanges.contains c.toNat ∧
    casedRanges.contains c.toLower.toNat = casedRanges.contains c.toNat ∧
    (c.toLower = sigma ↔ c = sigma) := by
  by_cases hcapital : c.toNat < 0x41 ∨ 0x5A < c.toNat
  · rw [toLower_of_not_capital hcapital]
    simp
  · have hplace : 0x41 + (c.toNat - 0x41) = c.toNat := by omega
    have hkept := toLower_capital_kept (c.toNat - 0x41) (by omega)
    rw [hplace, Char.ofNat_toNat] at hkept
    obtain ⟨hletter, hspace, hignored, hcased, hlower, hne⟩ := hkept
    exact ⟨hletter, hspace, hignored, hcased, iff_of_false hlower hne⟩

theorem meetsCased_map_toLower (cs : List Char) :
    meetsCased (cs.map Char.toLower) = meetsCased cs := by
  induction cs with
  | nil => rfl
  | cons c cs ih =>
    obtain ⟨-, -, hignored, hcased, -⟩ := toLower_kept c
    cases hcontains : caseIgnorableRanges.contains c.toNat with
    | true =>
      rw [hcontains] at hignored
      simpa [meetsCased, List.dropWhile_cons, hignored, hcontains] using ih
    | false =>
      rw [hcontains] at hignored
      simp [meetsCased, hignored, hcontains, hcased]

theorem lowerFrom_map_toLower (before cs : List Char) :
    lowerFrom (before.map Char.toLower) (cs.map Char.toLower) = lowerFrom before cs := by
  induction cs generalizing before with
  | nil => rfl
  | cons c cs ih =>
    obtain ⟨hletter, -, -, -, hsigma⟩ := toLower_kept c
    have hrest := ih (c :: before)
    rw [List.map_cons] at hrest
    rw [List.map_cons, lowerFrom, lowerFrom, hrest, hletter]
    simp only [hsigma, lowerSigma, meetsCased_map_toLower]

theorem trimChars_map_toLower (cs : List Char) :
    trimChars (cs.map Char.toLower) = (trimChars cs).map Char.toLower := by
  have hspace : isSpace ∘ Char.toLower = isSpace := by
    funext c
    exact (toLower_kept c).2.1
  simp only [trimChars, dropTail, List.dropWhile_map, hspace, ← List.map_reverse]

end FeatureCheck.Text
