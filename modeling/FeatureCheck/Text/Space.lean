/-!
# White space

`isSpace` is the Unicode property White_Space. Trimming removes it from both ends, and a trimmed
text has none left there: `trimChars_trimChars`.
-/

namespace FeatureCheck.Text

set_option autoImplicit false

/-- The Unicode property White_Space. -/
def isSpace (c : Char) : Bool :=
  let code := c.toNat
  (0x9 ≤ code && code ≤ 0xD) || code == 0x20 || code == 0x85 || code == 0xA0 || code == 0x1680 ||
    (0x2000 ≤ code && code ≤ 0x200A) || code == 0x2028 || code == 0x2029 || code == 0x202F ||
    code == 0x205F || code == 0x3000

/-- Drops the longest tail whose characters all satisfy `p`. -/
def dropTail (p : Char → Bool) (cs : List Char) : List Char :=
  (cs.reverse.dropWhile p).reverse

def trimChars (cs : List Char) : List Char :=
  dropTail isSpace (cs.dropWhile isSpace)

def trim (text : String) : String :=
  String.ofList (trimChars text.toList)

def isBlank (text : String) : Bool :=
  text.toList.all isSpace

/-- No white space at either end. -/
def Trimmed (cs : List Char) : Prop :=
  (∀ c ∈ cs.head?, isSpace c = false) ∧ ∀ c ∈ cs.getLast?, isSpace c = false

theorem head?_dropWhile {p : Char → Bool} {cs : List Char} :
    ∀ c ∈ (cs.dropWhile p).head?, p c = false := by
  induction cs with
  | nil => simp
  | cons a cs ih =>
    by_cases h : p a
    · simpa [h] using ih
    · simp [h]

theorem getLast?_dropTail {p : Char → Bool} {cs : List Char} :
    ∀ c ∈ (dropTail p cs).getLast?, p c = false := by
  simpa [dropTail] using @head?_dropWhile p cs.reverse

theorem dropTail_append_dropped (p : Char → Bool) (cs : List Char) :
    dropTail p cs ++ (cs.reverse.takeWhile p).reverse = cs := by
  rw [dropTail, ← List.reverse_append, List.takeWhile_append_dropWhile, List.reverse_reverse]

theorem head?_dropTail {p : Char → Bool} {cs : List Char} (h : dropTail p cs ≠ []) :
    (dropTail p cs).head? = cs.head? := by
  have hsplit := dropTail_append_dropped p cs
  cases hd : dropTail p cs with
  | nil => exact absurd hd h
  | cons a t =>
    rw [hd] at hsplit
    rw [← hsplit]; rfl

theorem trimmed_trimChars (cs : List Char) : Trimmed (trimChars cs) := by
  refine ⟨?_, getLast?_dropTail⟩
  intro c hc
  by_cases h : trimChars cs = []
  · simp [h] at hc
  · rw [trimChars, head?_dropTail h] at hc
    exact head?_dropWhile c hc

theorem trimChars_eq_self {cs : List Char} (h : Trimmed cs) : trimChars cs = cs := by
  have hfront : cs.dropWhile isSpace = cs := by
    cases cs with
    | nil => rfl
    | cons a t => simp [h.1 a (by simp)]
  have hback : cs.reverse.dropWhile isSpace = cs.reverse := by
    cases hr : cs.reverse with
    | nil => rfl
    | cons a t =>
      have ha : a ∈ cs.getLast? := by
        rw [List.getLast?_eq_head?_reverse, hr]; simp
      simp [h.2 a ha]
  simp [trimChars, dropTail, hfront, hback]

@[simp] theorem trimChars_trimChars (cs : List Char) :
    trimChars (trimChars cs) = trimChars cs :=
  trimChars_eq_self (trimmed_trimChars cs)

@[simp] theorem trim_trim (text : String) : trim (trim text) = trim text := by
  simp [trim]

end FeatureCheck.Text
