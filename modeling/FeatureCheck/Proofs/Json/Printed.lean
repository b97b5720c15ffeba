import FeatureCheck.Json.Printer
import FeatureCheck.Proofs.Json.Grammar

/-!
# Printed JSON

What is printed for a value, on one line or on many, says this value: `isText_print`. Only of the
numbers one has to know that they are written as literals.
-/

namespace FeatureCheck.Json

set_option autoImplicit false

/-! ## Quoted texts -/

theorem hexNumber?_control : ∀ code < 0x20,
    Text.hexNumber? ['0', '0', hexDigit (code / 16), hexDigit (code % 16)] = some code := by
  decide

theorem Spelled.short_of_eq {c mark other : Char} (heq : c = other)
    (h : (mark, other) ∈ shortEscapes) : Spelled c ['\\', mark] := by
  subst heq
  exact .short h

theorem spelled_escape (c : Char) : Spelled c (escape c) := by
  unfold escape
  split_ifs with hquote hbackslash hback hfeed hline hreturn htab hcontrol
  · exact .short_of_eq hquote (by decide)
  · exact .short_of_eq hbackslash (by decide)
  · exact .short_of_eq hback (by decide)
  · exact .short_of_eq hfeed (by decide)
  · exact .short_of_eq hline (by decide)
  · exact .short_of_eq hreturn (by decide)
  · exact .short_of_eq htab (by decide)
  · have hcodes : codeUnits c = [c.toNat] := if_pos (Nat.lt_trans hcontrol (by decide))
    have hunit : IsUnit ['0', '0', hexDigit (c.toNat / 16), hexDigit (c.toNat % 16)] c.toNat :=
      ⟨rfl, hexNumber?_control c.toNat hcontrol⟩
    have hunits : List.Forall₂ IsUnit
        [['0', '0', hexDigit (c.toNat / 16), hexDigit (c.toNat % 16)]] (codeUnits c) := by
      rw [hcodes]
      exact .cons hunit .nil
    exact .units hunits
  · exact .plain hquote hbackslash (Nat.le_of_not_lt hcontrol)

theorem quoted_escape (chars rest : List Char) :
    Quoted chars (chars.flatMap escape ++ '"' :: rest) rest := by
  induction chars with
  | nil => exact .close
  | cons c chars ih =>
    rw [List.flatMap_cons, List.append_assoc]
    exact .cons (spelled_escape c) ih

/-! ## Layouts -/

theorem blanks_newline (layout : Layout) (rest : List Char) :
    Blanks (layout.newline ++ rest) rest := by
  cases layout with
  | none => exact .none
  | some depth =>
    refine .cons (by simp) ?_
    induction 2 * depth with
    | zero => exact .none
    | succ width ih => exact .cons (by simp) ih

theorem writtenKey_quote (layout : Layout) (key : String) (rest : List Char) :
    WrittenKey key (layout.newline ++ (quote key ++ (layout.colon ++ rest))) rest := by
  have hquote : quote key ++ (layout.colon ++ rest) =
      '"' :: (key.toList.flatMap escape ++ '"' :: (layout.colon ++ rest)) := by
    simp [quote]
  rw [hquote]
  refine .of (blanks_newline layout _) (quoted_escape _ _) ?_
    (?_ : Blanks (layout.colon.tail ++ rest) rest)
  · cases layout <;> exact .none
  · cases layout with
    | none => exact .none
    | some depth => exact .cons (by simp) .none

/-! ## Values -/

mutual

def numbers : Json → List JsonNumber
  | .null | .bool _ | .text _ => []
  | .number value => [value]
  | .array items => numbersOfItems items
  | .object members => numbersOfMembers members

def numbersOfItems : List Json → List JsonNumber
  | [] => []
  | item :: items => numbers item ++ numbersOfItems items

def numbersOfMembers : List (String × Json) → List JsonNumber
  | [] => []
  | (_, value) :: members => numbers value ++ numbersOfMembers members

end

theorem numbersOfItems_eq_nil {items : List Json} (h : ∀ item ∈ items, numbers item = []) :
    numbersOfItems items = [] := by
  induction items with
  | nil => rfl
  | cons item items ih =>
    obtain ⟨hitem, hitems⟩ := List.forall_mem_cons.mp h
    rw [numbersOfItems, hitem, ih hitems, List.append_nil]

theorem numbers_texts (values : List String) : numbers (texts values) = [] := by
  refine numbersOfItems_eq_nil fun item hitem => ?_
  obtain ⟨value, -, rfl⟩ := List.mem_map.mp hitem
  rfl

/-- The number is printed as a literal of its own. -/
def IsPrinted (value : JsonNumber) : Prop :=
  Literal (printNumber value) ∧ numberOf (printNumber value) = value

mutual

theorem written_print (layout : Layout) (value : Json)
    (h : ∀ number ∈ numbers value, IsPrinted number) (rest : List Char) :
    Written value (print layout value ++ rest) rest := by
  cases value with
  | null => exact .null
  | bool value =>
    cases value with
    | true => exact .yes
    | false => exact .no
  | number value =>
    obtain ⟨hliteral, hnumber⟩ := h value (by simp [numbers])
    have hwritten : Written (.number (numberOf (printNumber value))) (printNumber value ++ rest)
        rest := .number hliteral
    rw [hnumber] at hwritten
    exact hwritten
  | text value =>
    have hquote : print layout (.text value) ++ rest =
        '"' :: (value.toList.flatMap escape ++ '"' :: rest) := by
      simp [print, quote]
    rw [hquote]
    exact .text (quoted_escape _ _)
  | array items =>
    cases items with
    | nil => exact .noItems .none
    | cons item items =>
      have hprint : print layout (.array (item :: items)) ++ rest =
          '[' :: (layout.deeper.newline ++ (print layout.deeper item ++
            (printItems layout.deeper items ++ (layout.newline ++ ']' :: rest)))) := by
        simp [print]
      obtain ⟨hitem, hitems⟩ := List.forall_mem_append.mp h
      rw [hprint]
      exact .array (writtenItems_print layout layout.deeper items hitems rest
        (written_print layout.deeper item hitem))
  | object members =>
    cases members with
    | nil => exact .noMembers .none
    | cons member members =>
      obtain ⟨key, value⟩ := member
      have hprint : print layout (.object ((key, value) :: members)) ++ rest =
          '\x7b' :: (layout.deeper.newline ++ (quote key ++ (layout.deeper.colon ++
            (print layout.deeper value ++ (printMembers layout.deeper members ++
              (layout.newline ++ '\x7d' :: rest)))))) := by
        simp [print]
      obtain ⟨hvalue, hmembers⟩ := List.forall_mem_append.mp h
      rw [hprint]
      exact .object (writtenMembers_print layout layout.deeper members hmembers rest
        (written_print layout.deeper value hvalue))

/-- The items behind a first one, and the end of the array. -/
theorem writtenItems_print (outer layout : Layout) (items : List Json)
    (h : ∀ number ∈ numbersOfItems items, IsPrinted number) (rest : List Char) {first : Json}
    {text : List Char} (hfirst : ∀ rest, Written first (text ++ rest) rest) :
    WrittenItems (first :: items) (layout.newline ++ (text ++
      (printItems layout items ++ (outer.newline ++ ']' :: rest)))) rest := by
  cases items with
  | nil => exact .last (blanks_newline layout _) (hfirst _) (blanks_newline outer _)
  | cons item items =>
    have hprint : printItems layout (item :: items) ++ (outer.newline ++ ']' :: rest) =
        ',' :: (layout.newline ++ (print layout item ++
          (printItems layout items ++ (outer.newline ++ ']' :: rest)))) := by
      simp [printItems]
    obtain ⟨hitem, hitems⟩ := List.forall_mem_append.mp h
    rw [hprint]
    exact .cons (blanks_newline layout _) (hfirst _) .none
      (writtenItems_print outer layout items hitems rest (written_print layout item hitem))

theorem writtenMembers_print (outer layout : Layout) (members : List (String × Json))
    (h : ∀ number ∈ numbersOfMembers members, IsPrinted number) (rest : List Char) {key : String}
    {first : Json} {text : List Char} (hfirst : ∀ rest, Written first (text ++ rest) rest) :
    WrittenMembers ((key, first) :: members) (layout.newline ++ (quote key ++ (layout.colon ++
      (text ++ (printMembers layout members ++ (outer.newline ++ '\x7d' :: rest)))))) rest := by
  cases members with
  | nil => exact .last (writtenKey_quote layout key _) (hfirst _) (blanks_newline outer _)
  | cons member members =>
    obtain ⟨other, value⟩ := member
    have hprint : printMembers layout ((other, value) :: members) ++
        (outer.newline ++ '\x7d' :: rest) =
          ',' :: (layout.newline ++ (quote other ++ (layout.colon ++ (print layout value ++
            (printMembers layout members ++ (outer.newline ++ '\x7d' :: rest)))))) := by
      simp [printMembers]
    obtain ⟨hvalue, hmembers⟩ := List.forall_mem_append.mp h
    rw [hprint]
    exact .cons (writtenKey_quote layout key _) (hfirst _) .none
      (writtenMembers_print outer layout members hmembers rest (written_print layout value hvalue))

end

theorem isText_print (layout : Layout) (value : Json)
    (h : ∀ number ∈ numbers value, IsPrinted number) : IsText value (print layout value) := by
  refine ⟨print layout value, [], .none, ?_, .none⟩
  have hwritten := written_print layout value h []
  rwa [List.append_nil] at hwritten

end FeatureCheck.Json
