/-!
# Splitting at a separator
-/

namespace FeatureCheck.Text

set_option autoImplicit false

/-- The parts before and after the last separator. -/
def splitLast? (sep : Char) : List Char → Option (List Char × List Char)
  | [] => none
  | c :: cs =>
      match splitLast? sep cs with
      | some (front, back) => some (c :: front, back)
      | none => if c = sep then some ([], cs) else none

theorem splitLast?_eq_none_iff {sep : Char} {cs : List Char} :
    splitLast? sep cs = none ↔ sep ∉ cs := by
  induction cs with
  | nil => simp [splitLast?]
  | cons c cs ih =>
    cases h : splitLast? sep cs with
    | some parts =>
      have : ¬ sep ∉ cs := fun hmem => by simp [ih.mpr hmem] at h
      simp [splitLast?, h, Classical.not_not.mp this]
    | none =>
      by_cases hc : c = sep
      · simp [splitLast?, h, hc]
      · simp [splitLast?, h, hc, ih.mp h, Ne.symm hc]

theorem splitLast?_eq_some_iff {sep : Char} {cs front back : List Char} :
    splitLast? sep cs = some (front, back) ↔ cs = front ++ sep :: back ∧ sep ∉ back := by
  induction cs generalizing front back with
  | nil => simp [splitLast?]
  | cons c cs ih =>
    cases h : splitLast? sep cs with
    | some parts =>
      obtain ⟨before, after⟩ := parts
      obtain ⟨hsplit, hafter⟩ := ih.mp h
      simp only [splitLast?, h, Option.some.injEq, Prod.mk.injEq]
      constructor
      · rintro ⟨rfl, rfl⟩
        exact ⟨by simp [hsplit], hafter⟩
      · rintro ⟨heq, hback⟩
        cases front with
        | nil =>
          simp only [List.nil_append, List.cons.injEq] at heq
          rw [heq.2] at hsplit
          exact absurd (by simp [hsplit]) hback
        | cons a front =>
          simp only [List.cons_append, List.cons.injEq] at heq
          have := (@ih front back).mpr ⟨heq.2, hback⟩
          rw [h] at this
          simp only [Option.some.injEq, Prod.mk.injEq] at this
          simp [heq.1, this]
    | none =>
      have hnone := splitLast?_eq_none_iff.mp h
      simp only [splitLast?, h]
      by_cases hc : c = sep
      · subst hc
        simp only [if_true, Option.some.injEq, Prod.mk.injEq]
        constructor
        · rintro ⟨rfl, rfl⟩
          exact ⟨rfl, hnone⟩
        · rintro ⟨heq, hback⟩
          cases front with
          | nil => simpa using heq
          | cons a front =>
            simp only [List.cons_append, List.cons.injEq] at heq
            exact absurd (by simp [heq.2]) hnone
      · simp only [hc, if_false]
        constructor
        · intro hfalse; simp at hfalse
        · rintro ⟨heq, -⟩
          cases front with
          | nil => simp only [List.nil_append, List.cons.injEq] at heq; exact absurd heq.1 hc
          | cons a front =>
            simp only [List.cons_append, List.cons.injEq] at heq
            exact absurd (by simp [heq.2]) hnone

end FeatureCheck.Text
