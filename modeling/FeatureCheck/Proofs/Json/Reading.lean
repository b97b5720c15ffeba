import FeatureCheck.Json.Draft
import FeatureCheck.Proofs.Json.Grammar

/-!
# Reading JSON texts

A text that says a value is read as the draft of this value, with nothing behind it:
`ofGlyphs_of_isText`. A number that no double holds is still read, as a leaf that has no value. The
proof goes through a text token by token; `resume` is what is read of the rest.
-/

namespace FeatureCheck.Json

set_option autoImplicit false

/-! ## What is read -/

def lexemeOf : JsonNumber → Lexeme JsonNumber
  | .whole value => ⟨.ok (.whole value), none⟩
  | .other literal => ⟨(readNumber? literal.toList).elim (.error .malformed) .ok, none⟩

mutual

/-- The draft that is read from a text for the value. -/
def asRead : Json → Draft
  | .null => .leaf .null
  | .bool value => .leaf (.bool value)
  | .number value => .leaf (.number (lexemeOf value))
  | .text value => .leaf (.text ⟨.ok value, none⟩)
  | .array items => .array (asReadItems items) none
  | .object members => .object (asReadMembers members) none

def asReadItems : List Json → List Draft
  | [] => []
  | item :: items => asRead item :: asReadItems items

def asReadMembers : List (String × Json) → List (Lexeme String × Draft)
  | [] => []
  | (key, value) :: members => (⟨.ok key, none⟩, asRead value) :: asReadMembers members

end

theorem asReadItems_eq_map (items : List Json) : asReadItems items = items.map asRead := by
  induction items with
  | nil => rfl
  | cons item items ih => rw [asReadItems, ih, List.map_cons]

/-- What is written in full can be passed over. -/
theorem blocked_asRead (value : Json) : (asRead value).blocked = none := by
  cases value with
  | number value => cases value <;> rfl
  | null | bool | text | array | object => rfl

/-! ## Token by token -/

variable {expected following : Expected} {state next : LexState} {c : Char}
  {text rest start stop : List Char} {token : Token} {frames : List Frame}

/-- What is read of the rest of a text. -/
def resume (expected : Expected) (state : LexState) (rest : List Char) : Document :=
  expected.run (lexer.run state (rest.map some))

theorem resume_silent (hstep : state.step (some c) = ([], next)) :
    resume expected state (c :: rest) = resume expected next rest := by
  simp only [resume, List.map_cons, Text.Transducer.run, lexer, hstep, List.nil_append]

theorem resume_token (hstep : state.step (some c) = ([token], next))
    (hread : expected.read token = .inl following) :
    resume expected state (c :: rest) = resume following next rest := by
  simp only [resume, List.map_cons, Text.Transducer.run, lexer, hstep, List.singleton_append,
    Expected.run, hread]

theorem Blanks.resume (h : Blanks text rest) :
    resume expected .between text = Json.resume expected .between rest := by
  induction h with
  | none => rfl
  | @cons c text rest hblank _ ih =>
    have hstep : LexState.step .between (some c) = ([], .between) := by
      simp only [List.mem_cons, List.not_mem_nil, or_false] at hblank
      rcases hblank with rfl | rfl | rfl | rfl <;> rfl
    rw [resume_silent hstep, ih]

/-! ## Numbers -/

/-- Where the characters of a literal lead. -/
def NumberPlace.walk (place : NumberPlace) (literal : List Char) : Option NumberPlace :=
  literal.foldlM NumberPlace.next? place

theorem NumberPlace.walk_append {place : NumberPlace} {front back : List Char} :
    place.walk (front ++ back) = (place.walk front).bind (·.walk back) :=
  List.foldlM_append

theorem ne_of_isDigit {digit other : Char} (h : digit.isDigit = true)
    (hother : other.isDigit = false) : digit ≠ other := by
  rintro rfl
  rw [h] at hother
  cases hother

theorem walk_of_all_isDigit {place : NumberPlace} {digits : List Char}
    (hnext : ∀ digit : Char, digit.isDigit = true → place.next? digit = some place)
    (h : ∀ digit ∈ digits, digit.isDigit = true) : place.walk digits = some place := by
  induction digits with
  | nil => rfl
  | cons digit digits ih =>
    obtain ⟨hdigit, hdigits⟩ := List.forall_mem_cons.mp h
    rw [NumberPlace.walk, List.foldlM_cons, hnext digit hdigit]
    exact ih hdigits

theorem Digits.walk {place last : NumberPlace} {digits : List Char} (h : Digits digits)
    (hfirst : ∀ digit : Char, digit.isDigit = true → place.next? digit = some last)
    (hnext : ∀ digit : Char, digit.isDigit = true → last.next? digit = some last) :
    place.walk digits = some last := by
  obtain ⟨hfilled, hall⟩ := h
  cases digits with
  | nil => exact absurd rfl hfilled
  | cons digit digits =>
    obtain ⟨hdigit, hdigits⟩ := List.forall_mem_cons.mp hall
    rw [NumberPlace.walk, List.foldlM_cons, hfirst digit hdigit]
    exact walk_of_all_isDigit hnext hdigits

theorem next?_whole (digit : Char) (h : digit.isDigit = true) :
    NumberPlace.whole.next? digit = some .whole := by
  simp [NumberPlace.next?, h]

theorem next?_fraction (digit : Char) (h : digit.isDigit = true) :
    NumberPlace.fraction.next? digit = some .fraction := by
  simp [NumberPlace.next?, h]

theorem next?_exponent (digit : Char) (h : digit.isDigit = true) :
    NumberPlace.exponent.next? digit = some .exponent := by
  simp [NumberPlace.next?, h]

/-- The places that only further digits, a point or an exponent lead on from. -/
def NumberPlace.isWhole : NumberPlace → Bool
  | .zero | .whole => true
  | .sign | .point | .fraction | .mark | .markSign | .exponent => false

theorem Whole.walk {digits : List Char} (h : Whole digits) :
    ∃ place, NumberPlace.sign.walk digits = some place ∧ place.isWhole = true := by
  rcases h with rfl | ⟨⟨hfilled, hall⟩, hzero⟩
  · exact ⟨.zero, rfl, rfl⟩
  · cases digits with
    | nil => exact absurd rfl hfilled
    | cons digit digits =>
      obtain ⟨hdigit, hdigits⟩ := List.forall_mem_cons.mp hall
      have hne : digit ≠ '0' := fun heq => hzero (congrArg some heq)
      have hfirst : NumberPlace.sign.next? digit = some .whole := by
        simp [NumberPlace.next?, hdigit, hne]
      refine ⟨.whole, ?_, rfl⟩
      rw [NumberPlace.walk, List.foldlM_cons, hfirst]
      exact walk_of_all_isDigit next?_whole hdigits

theorem Fraction.walk {fraction : List Char} (h : Fraction fraction) {place : NumberPlace}
    (hplace : place.isWhole = true) :
    ∃ last, place.walk fraction = some last ∧ (last.isWhole = true ∨ last = .fraction) := by
  cases h with
  | none => exact ⟨place, rfl, .inl hplace⟩
  | @digits digits hdigits =>
    have hpoint : place.next? '.' = some .point := by
      cases place with
      | zero | whole => rfl
      | sign | point | fraction | mark | markSign | exponent => cases hplace
    refine ⟨.fraction, ?_, .inr rfl⟩
    rw [NumberPlace.walk, List.foldlM_cons, hpoint]
    refine hdigits.walk (fun digit hdigit => ?_) next?_fraction
    simp [NumberPlace.next?, hdigit]

theorem Power.walk {power : List Char} (h : Power power) {place : NumberPlace}
    (hplace : place.isWhole = true ∨ place = .fraction) :
    ∃ last, place.walk power = some last ∧ last.isComplete = true := by
  cases h with
  | none =>
    refine ⟨place, rfl, ?_⟩
    rcases hplace with hwhole | rfl
    · cases place with
      | zero | whole => rfl
      | sign | point | fraction | mark | markSign | exponent => cases hwhole
    · rfl
  | @digits mark sign digits hmark hsign hdigits =>
    have hnext : place.next? mark = some .mark := by
      simp only [List.mem_cons, List.not_mem_nil, or_false] at hmark
      rcases hplace with hwhole | rfl
      · cases place with
        | zero | whole => rcases hmark with rfl | rfl <;> rfl
        | sign | point | fraction | mark | markSign | exponent => cases hwhole
      · rcases hmark with rfl | rfl <;> rfl
    refine ⟨.exponent, ?_, rfl⟩
    rw [NumberPlace.walk, List.foldlM_cons, hnext]
    simp only [List.mem_cons, List.not_mem_nil, or_false] at hsign
    rcases hsign with rfl | hsign
    · refine hdigits.walk (fun digit hdigit => ?_) next?_exponent
      have hplus : digit ≠ '+' := ne_of_isDigit hdigit rfl
      have hminus : digit ≠ '-' := ne_of_isDigit hdigit rfl
      simp [NumberPlace.next?, hdigit, hplus, hminus]
    · have hsigned : ∀ digit : Char, digit.isDigit = true →
          NumberPlace.markSign.next? digit = some .exponent := by
        intro digit hdigit
        simp [NumberPlace.next?, hdigit]
      rcases hsign with rfl | rfl
      · exact hdigits.walk hsigned next?_exponent
      · exact hdigits.walk hsigned next?_exponent

theorem Magnitude.walk {literal : List Char} (h : Magnitude literal) :
    ∃ place, NumberPlace.sign.walk literal = some place ∧ place.isComplete = true := by
  cases h with
  | of hwhole hfraction hpower =>
    obtain ⟨place, hplace, hsteps⟩ := hwhole.walk
    obtain ⟨middle, hmiddle, hsteps⟩ := hfraction.walk hsteps
    obtain ⟨last, hlast, hcomplete⟩ := hpower.walk hsteps
    refine ⟨last, ?_, hcomplete⟩
    rw [NumberPlace.walk_append, hplace, Option.bind_some, NumberPlace.walk_append, hmiddle,
      Option.bind_some, hlast]

theorem resume_walk {place last : NumberPlace} {literal chars : List Char}
    (h : place.walk chars = some last) :
    resume expected (.number place literal) (chars ++ rest) =
      resume expected (.number last (chars.reverse ++ literal)) rest := by
  induction chars generalizing place literal with
  | nil =>
    obtain rfl := Option.some.inj h
    rfl
  | cons c chars ih =>
    rw [NumberPlace.walk, List.foldlM_cons] at h
    obtain ⟨middle, hmiddle, hwalk⟩ := Option.bind_eq_some_iff.mp h
    have hstep : LexState.step (.number place literal) (some c) =
        ([], .number middle (c :: literal)) := by
      simp [LexState.step, hmiddle]
    rw [List.cons_append, resume_silent hstep, ih hwalk]
    simp

theorem start_of_sign {place : NumberPlace} (h : NumberPlace.sign.next? c = some place) :
    LexState.start (some c) = ([], .number place [c]) := by
  by_cases hzero : c = '0'
  · subst hzero
    obtain rfl : .zero = place := Option.some.inj h
    rfl
  · by_cases hdigit : c.isDigit = true
    · have hne : ∀ other : Char, other.isDigit = false → c ≠ other :=
        fun other => ne_of_isDigit hdigit
      have hplace : NumberPlace.sign.next? c = some .whole := by
        simp [NumberPlace.next?, hzero, hdigit]
      obtain rfl : .whole = place := Option.some.inj (hplace.symm.trans h)
      simp [LexState.start, hzero, hdigit, hne ' ' rfl, hne '\n' rfl, hne '\t' rfl, hne '\r' rfl,
        hne '[' rfl, hne ']' rfl, hne '\x7b' rfl, hne '\x7d' rfl, hne ',' rfl, hne ':' rfl,
        hne '"' rfl, hne 'n' rfl, hne 't' rfl, hne 'f' rfl, hne '-' rfl]
    · simp [NumberPlace.next?, hzero, hdigit] at h

/-- What ends a number: the end of the text, a blank, or a mark that may follow a value. -/
def Ends (rest : List Char) : Prop :=
  ∀ c ∈ rest.head?, c ∈ [' ', '\n', '\t', '\r', ',', ']', '\x7d']

theorem resume_ended {place : NumberPlace} {literal : List Char}
    (hcomplete : place.isComplete = true) (hends : Ends rest)
    (hread : expected.read (LexState.numberToken literal) = .inl following) :
    resume expected (.number place literal) rest = resume following .between rest := by
  cases rest with
  | nil =>
    simp [resume, Text.Transducer.run, lexer, LexState.finish, hcomplete, Expected.run, hread]
  | cons c rest =>
    have hmark := hends c rfl
    have hnone : place.next? c = none := by
      simp only [List.mem_cons, List.not_mem_nil, or_false] at hmark
      cases place with
      | zero | whole | fraction | exponent =>
        rcases hmark with rfl | rfl | rfl | rfl | rfl | rfl | rfl <;> rfl
      | sign | point | mark | markSign => cases hcomplete
    have hdigit : c.isDigit = false := by
      simp only [List.mem_cons, List.not_mem_nil, or_false] at hmark
      rcases hmark with rfl | rfl | rfl | rfl | rfl | rfl | rfl <;> rfl
    have hstep : LexState.step (.number place literal) (some c) =
        (LexState.numberToken literal :: (LexState.start (some c)).1,
          (LexState.start (some c)).2) := by
      simp [LexState.step, hnone, LexState.leaveNumber, hcomplete, hdigit]
    simp only [resume, List.map_cons, Text.Transducer.run, lexer, hstep, List.cons_append,
      Expected.run, hread]
    rfl

theorem readNumber?_cases {literal : List Char} {value : JsonNumber}
    (h : readNumber? literal = some value) :
    (∃ whole, value = .whole whole) ∨ value = .other (String.ofList literal) := by
  unfold readNumber? at h
  extract_lets parts magnitude whole at h
  split at h
  · exact .inl ⟨_, (Option.some.inj h).symm⟩
  · split at h
    · cases h
    · exact .inr (Option.some.inj h).symm

theorem numberToken_eq (literal : List Char) :
    LexState.numberToken literal.reverse = .leaf (.number (lexemeOf (numberOf literal))) := by
  rw [LexState.numberToken, List.reverse_reverse, numberOf]
  cases hread : readNumber? literal with
  | none => simp [lexemeOf, hread]
  | some value =>
    rcases readNumber?_cases hread with ⟨whole, rfl⟩ | rfl
    · rfl
    · simp [lexemeOf, hread]

theorem Literal.resume {literal : List Char} (h : Literal literal) (hends : Ends rest)
    (hread : expected.read (.leaf (.number (lexemeOf (numberOf literal)))) = .inl following) :
    Json.resume expected .between (literal ++ rest) = Json.resume following .between rest := by
  have hall : ∃ place : NumberPlace, place.isComplete = true ∧
      Json.resume expected .between (literal ++ rest) =
        Json.resume expected (.number place literal.reverse) rest := by
    cases h with
    | negative hmagnitude =>
      obtain ⟨place, hwalk, hcomplete⟩ := hmagnitude.walk
      have hstep : LexState.step .between (some '-') = ([], .number .sign ['-']) := rfl
      refine ⟨place, hcomplete, ?_⟩
      rw [List.cons_append, resume_silent hstep, resume_walk hwalk, List.reverse_cons]
    | positive hmagnitude =>
      obtain ⟨place, hwalk, hcomplete⟩ := hmagnitude.walk
      refine ⟨place, hcomplete, ?_⟩
      cases literal with
      | nil =>
        obtain rfl : .sign = place := Option.some.inj hwalk
        cases hcomplete
      | cons c chars =>
        rw [NumberPlace.walk, List.foldlM_cons] at hwalk
        obtain ⟨first, hfirst, hwalk⟩ := Option.bind_eq_some_iff.mp hwalk
        have hstep : LexState.step .between (some c) = ([], .number first [c]) :=
          start_of_sign hfirst
        rw [List.cons_append, resume_silent hstep, resume_walk hwalk, List.reverse_cons]
  obtain ⟨place, hcomplete, heq⟩ := hall
  rw [heq]
  rw [← numberToken_eq] at hread
  exact resume_ended hcomplete hends hread

/-! ## Quoted texts -/

/-- A text of which so much has been read, latest first. -/
def TextReading.after (chars : List Char) : TextReading :=
  ⟨.ok chars, false, none, .plain⟩

theorem size_of_hexValue? {digit : Char} {value : Nat} (h : Text.hexValue? digit = some value) :
    Text.Glyph.size (some digit) = 1 := by
  have hle : digit.toNat ≤ 127 := by
    unfold Text.hexValue? at h
    split at h
    · rename_i hdigit
      exact Nat.le_trans hdigit.2 (by decide)
    · split at h
      · rename_i hletter
        exact Nat.le_trans hletter.2 (by decide)
      · split at h
        · rename_i hletter
          exact Nat.le_trans hletter.2 (by decide)
        · cases h
  exact Char.utf8Size_eq_one_iff.mpr hle

theorem exists_of_isUnit {digits : List Char} {code : Nat} (h : IsUnit digits code) :
    ∃ a b c d values, digits = [a, b, c, d] ∧ code = Text.valueInBase 16 values ∧
      [a, b, c, d].mapM Text.hexValue? = some values ∧
      ∀ digit ∈ [a, b, c, d], Text.Glyph.size (some digit) = 1 := by
  obtain ⟨hlength, hcode⟩ := h
  obtain ⟨a, b, c, d, rfl⟩ : ∃ a b c d, digits = [a, b, c, d] := List.length_eq_four.mp hlength
  obtain ⟨values, hvalues, hcode⟩ := Option.bind_eq_some_iff.mp hcode
  refine ⟨a, b, c, d, values, rfl, (Option.some.inj hcode).symm, hvalues, ?_⟩
  simp only [List.mapM_cons, List.mapM_nil, Option.bind_eq_bind, Option.pure_def,
    Option.bind_eq_some_iff] at hvalues
  obtain ⟨_, ha, _, ⟨_, hb, _, ⟨_, hc, _, ⟨_, hd, -⟩, -⟩, -⟩, -⟩ := hvalues
  simp only [List.forall_mem_cons]
  exact ⟨size_of_hexValue? ha, size_of_hexValue? hb, size_of_hexValue? hc, size_of_hexValue? hd,
    nofun⟩

theorem IsUnit.resume {digits : List Char} {code : Nat} (h : IsUnit digits code)
    {reading : TextReading} (hplain : reading.place = .plain) :
    Json.resume expected (.text reading) ('\\' :: 'u' :: (digits ++ rest)) =
      Json.resume expected (.text (reading.pushUnit code)) rest := by
  obtain ⟨a, b, c, d, values, rfl, rfl, hvalues, hsizes⟩ := exists_of_isUnit h
  simp only [List.forall_mem_cons] at hsizes
  obtain ⟨ha, hb, hc, hd, -⟩ := hsizes
  have hescape : LexState.step (.text reading) (some '\\') =
      ([], .text { reading with place := .escape }) := by
    simp [LexState.step, TextReading.step, hplain, TextReading.stepPlain]
  have hunit : LexState.step (.text { reading with place := .escape }) (some 'u') =
      ([], .text { reading with place := .unit [] }) := rfl
  have hfirst : LexState.step (.text { reading with place := .unit [] }) (some a) =
      ([], .text { reading with place := .unit [some a] }) := by
    simp [LexState.step, TextReading.step, TextReading.stepUnit, ha]
  have hsecond : LexState.step (.text { reading with place := .unit [some a] }) (some b) =
      ([], .text { reading with place := .unit [some b, some a] }) := by
    simp [LexState.step, TextReading.step, TextReading.stepUnit, ha, hb]
  have hthird : LexState.step (.text { reading with place := .unit [some b, some a] }) (some c) =
      ([], .text { reading with place := .unit [some c, some b, some a] }) := by
    simp [LexState.step, TextReading.step, TextReading.stepUnit, ha, hb, hc]
  have hread : [some a, some b, some c, some d].mapM (fun digit : Text.Glyph =>
      digit.bind Text.hexValue?) = some values := by
    simpa [List.mapM_cons] using hvalues
  have hlast : LexState.step (.text { reading with place := .unit [some c, some b, some a] })
      (some d) = ([], .text (reading.pushUnit (Text.valueInBase 16 values))) := by
    simp only [LexState.step, TextReading.step, TextReading.stepUnit]
    rw [if_neg (by simp [ha, hb, hc, hd])]
    simp only [List.reverse_cons, List.reverse_nil, List.nil_append, List.cons_append, hread]
    rfl
  rw [resume_silent hescape, resume_silent hunit, List.cons_append, resume_silent hfirst,
    List.cons_append, resume_silent hsecond, List.cons_append, resume_silent hthird,
    List.cons_append, resume_silent hlast, List.nil_append]

theorem place_pushUnit (reading : TextReading) (code : Nat) :
    (reading.pushUnit code).place = .plain := by
  simp only [TextReading.pushUnit]
  split
  · split <;> rfl
  · split
    · rfl
    · split <;> rfl

theorem pushUnit_of_scalar (chars : List Char) (hsmall : c.toNat < 0x10000) :
    (TextReading.after chars).pushUnit c.toNat = .after (c :: chars) := by
  have hvalid : c.toNat < 0xD800 ∨ 0xDFFF < c.toNat ∧ c.toNat < 0x110000 := c.valid
  simp only [TextReading.pushUnit, TextReading.after]
  rw [if_neg (by omega), if_neg (by omega), Char.ofNat_toNat]
  rfl

theorem pushUnit_of_pair (chars : List Char) (hlarge : ¬ c.toNat < 0x10000) :
    ((TextReading.after chars).pushUnit (0xD800 + (c.toNat - 0x10000) / 0x400)).pushUnit
      (0xDC00 + (c.toNat - 0x10000) % 0x400) = .after (c :: chars) := by
  have hvalid : c.toNat < 0xD800 ∨ 0xDFFF < c.toNat ∧ c.toNat < 0x110000 := c.valid
  have hhigh : (TextReading.after chars).pushUnit (0xD800 + (c.toNat - 0x10000) / 0x400) =
      { TextReading.after chars with high := some (0xD800 + (c.toNat - 0x10000) / 0x400) } := by
    simp only [TextReading.pushUnit, TextReading.after]
    rw [if_neg (by omega), if_pos (by omega)]
  have hchar : 0x10000 + (0xD800 + (c.toNat - 0x10000) / 0x400 - 0xD800) * 0x400 +
      (0xDC00 + (c.toNat - 0x10000) % 0x400 - 0xDC00) = c.toNat := by omega
  rw [hhigh]
  simp only [TextReading.pushUnit, TextReading.after]
  rw [if_pos (by omega), hchar, Char.ofNat_toNat]
  rfl

theorem Spelled.resume {spelling : List Char} (h : Spelled c spelling) (chars : List Char) :
    Json.resume expected (.text (.after chars)) (spelling ++ rest) =
      Json.resume expected (.text (.after (c :: chars))) rest := by
  cases h with
  | plain hquote hbackslash hcontrol =>
    have hstep : LexState.step (.text (.after chars)) (some c) =
        ([], .text (.after (c :: chars))) := by
      have hprinted : ¬ c.toNat < 0x20 := Nat.not_lt.mpr hcontrol
      simp [LexState.step, TextReading.step, TextReading.after, TextReading.stepPlain, hprinted,
        TextReading.dropHigh, TextReading.push, Except.map]
    rw [List.singleton_append, resume_silent hstep]
  | @short mark _ hshort =>
    have hescape : LexState.step (.text (.after chars)) (some '\\') =
        ([], .text { TextReading.after chars with place := .escape }) := rfl
    have hmark : LexState.step (.text { TextReading.after chars with place := .escape })
        (some mark) = ([], .text (.after (c :: chars))) := by
      simp only [shortEscapes, List.mem_cons, Prod.mk.injEq, List.not_mem_nil, or_false] at hshort
      rcases hshort with ⟨rfl, rfl⟩ | ⟨rfl, rfl⟩ | ⟨rfl, rfl⟩ | ⟨rfl, rfl⟩ | ⟨rfl, rfl⟩ |
        ⟨rfl, rfl⟩ | ⟨rfl, rfl⟩ | ⟨rfl, rfl⟩ <;> rfl
    rw [List.cons_append, resume_silent hescape, List.singleton_append, resume_silent hmark]
  | units hunits =>
    unfold codeUnits at hunits
    split at hunits
    · rename_i hsmall
      obtain ⟨digits, _, hunit, hnone, rfl⟩ := List.forall₂_cons_right_iff.mp hunits
      obtain rfl := List.forall₂_nil_right_iff.mp hnone
      rw [List.flatMap_singleton, List.cons_append, List.cons_append, hunit.resume rfl,
        pushUnit_of_scalar chars hsmall]
    · rename_i hlarge
      obtain ⟨first, _, hfirst, hrest, rfl⟩ := List.forall₂_cons_right_iff.mp hunits
      obtain ⟨second, _, hsecond, hnone, rfl⟩ := List.forall₂_cons_right_iff.mp hrest
      obtain rfl := List.forall₂_nil_right_iff.mp hnone
      rw [List.flatMap_cons, List.flatMap_singleton, List.append_assoc, List.cons_append,
        List.cons_append, hfirst.resume rfl, List.cons_append, List.cons_append,
        hsecond.resume (place_pushUnit _ _), pushUnit_of_pair chars hlarge]

theorem Quoted.resume {value : List Char} (h : Quoted value text rest) {chars : List Char}
    (hread : expected.read
      (.leaf (.text ⟨.ok (String.ofList (chars.reverse ++ value)), none⟩)) = .inl following) :
    Json.resume expected (.text (.after chars)) text = Json.resume following .between rest := by
  induction h generalizing chars with
  | close =>
    rw [List.append_nil] at hread
    exact resume_token rfl hread
  | @cons c value spelling text rest hc _ ih =>
    rw [hc.resume]
    apply ih
    rwa [List.reverse_cons, List.append_assoc]

/-! ## Values -/

/-- A value may begin. -/
def Opens (expected : Expected) (frames : List Frame) : Prop :=
  ∀ token, token ≠ .arrayEnd → expected.read token = Expected.readValue frames token

theorem opens_value (frames : List Frame) : Opens (.value frames) frames :=
  fun _ _ => rfl

theorem opens_item (frames : List Frame) : Opens (.item frames) (.array [] :: frames) := by
  intro token htoken
  cases token with
  | arrayEnd => exact absurd rfl htoken
  | arrayStart | objectStart | objectEnd | comma | colon | leaf | stray => rfl

theorem Opens.read_leaf (h : Opens expected frames) {leaf : Leaf} (hblocked : leaf.blocked = none) :
    expected.read (.leaf leaf) = .inl (.next (.leaf leaf) frames) := by
  rw [h (.leaf leaf) nofun, Expected.readValue, hblocked]

theorem Blanks.ends (h : Blanks text rest) (hends : Ends rest) : Ends text := by
  cases h with
  | none => exact hends
  | cons hblank =>
    intro c hc
    obtain rfl := Option.some.inj hc
    simp only [List.mem_cons, List.not_mem_nil, or_false] at hblank ⊢
    tauto

theorem read_key {members : List (Lexeme String × Draft)} {key : String} :
    Expected.read (.key members frames) (.leaf (.text ⟨.ok key, none⟩)) =
      .inl (.colon members ⟨.ok key, none⟩ frames) := by
  cases members <;> rfl

theorem WrittenKey.resume {key : String} (h : WrittenKey key text rest)
    {members : List (Lexeme String × Draft)} :
    Json.resume (.key members frames) .between text =
      Json.resume (.value (.object members ⟨.ok key, none⟩ :: frames)) .between rest := by
  cases h with
  | of hbefore hkey hafter hcolon =>
    have hquote : LexState.step .between (some '"') = ([], .text (.after [])) := rfl
    have hname : Expected.read (.key members frames)
        (.leaf (.text ⟨.ok (String.ofList ([].reverse ++ key.toList)), none⟩)) =
          .inl (.colon members ⟨.ok key, none⟩ frames) := by
      rw [List.reverse_nil, List.nil_append, String.ofList_toList, read_key]
    have hmark : LexState.step .between (some ':') = ([.colon], .between) := rfl
    have hread : Expected.read (.colon members ⟨.ok key, none⟩ frames) .colon =
        .inl (.value (.object members ⟨.ok key, none⟩ :: frames)) := rfl
    rw [hbefore.resume, resume_silent hquote, hkey.resume hname, hafter.resume,
      resume_token hmark hread, hcolon.resume]

theorem resume_word {leaf : Leaf} {letters : List Char} (hletters : letters ≠ [])
    (hread : expected.read (.leaf leaf) = .inl following) :
    resume expected (.word letters leaf) (letters ++ rest) = resume following .between rest := by
  induction letters with
  | nil => exact absurd rfl hletters
  | cons letter letters ih =>
    cases letters with
    | nil =>
      have hstep : LexState.step (.word [letter] leaf) (some letter) =
          ([.leaf leaf], .between) := by
        simp [LexState.step]
      exact resume_token hstep hread
    | cons second letters =>
      have hstep : LexState.step (.word (letter :: second :: letters) leaf) (some letter) =
          ([], .word (second :: letters) leaf) := by
        simp [LexState.step]
      rw [List.cons_append, resume_silent hstep]
      exact ih nofun

theorem ends_of_mark (rest : List Char) (hmark : c ∈ [',', ']', '\x7d']) : Ends (c :: rest) := by
  intro mark hc
  obtain rfl := Option.some.inj hc
  simp only [List.mem_cons, List.not_mem_nil, or_false] at hmark ⊢
  tauto

mutual

theorem Written.resume {value : Json} {text rest : List Char} (h : Written value text rest)
    (hends : Ends rest) {expected : Expected} {frames : List Frame}
    (hopens : Opens expected frames) :
    Json.resume expected .between text =
      Json.resume (.next (asRead value) frames) .between rest := by
  have hbracket : expected.read .arrayStart = .inl (.item frames) := hopens .arrayStart nofun
  have hbrace : expected.read .objectStart = .inl (.key [] frames) := hopens .objectStart nofun
  cases h with
  | null =>
    have hstep : LexState.step .between (some 'n') = ([], .word ['u', 'l', 'l'] .null) := rfl
    rw [resume_silent hstep]
    exact resume_word nofun (hopens.read_leaf rfl)
  | yes =>
    have hstep : LexState.step .between (some 't') = ([], .word ['r', 'u', 'e'] (.bool true)) := rfl
    rw [resume_silent hstep]
    exact resume_word nofun (hopens.read_leaf rfl)
  | no =>
    have hstep : LexState.step .between (some 'f') =
        ([], .word ['a', 'l', 's', 'e'] (.bool false)) := rfl
    rw [resume_silent hstep]
    exact resume_word nofun (hopens.read_leaf rfl)
  | @number literal _ hliteral =>
    exact hliteral.resume hends (hopens.read_leaf (blocked_asRead (.number (numberOf literal))))
  | @text value quoted _ hquoted =>
    have hstep : LexState.step .between (some '"') = ([], .text (.after [])) := rfl
    have hread : expected.read
        (.leaf (.text ⟨.ok (String.ofList ([].reverse ++ value.toList)), none⟩)) =
          .inl (.next (asRead (.text value)) frames) := by
      rw [List.reverse_nil, List.nil_append, String.ofList_toList]
      exact hopens.read_leaf rfl
    rw [resume_silent hstep, hquoted.resume hread]
  | noItems hblanks =>
    have hread : Expected.read (.item frames) .arrayEnd =
        .inl (.next (.array [] none) frames) := rfl
    rw [resume_token rfl hbracket, hblanks.resume, resume_token rfl hread]
    rfl
  | array hitems =>
    rw [resume_token rfl hbracket, hitems.resume (opens_item frames)]
    rfl
  | noMembers hblanks =>
    have hread : Expected.read (.key [] frames) .objectEnd =
        .inl (.next (.object [] none) frames) := rfl
    rw [resume_token rfl hbrace, hblanks.resume, resume_token rfl hread]
    rfl
  | object hmembers =>
    rw [resume_token rfl hbrace, hmembers.resume]
    rfl

theorem WrittenItems.resume {items : List Json} {text rest : List Char}
    (h : WrittenItems items text rest) {expected : Expected} {done : List Draft}
    {frames : List Frame} (hopens : Opens expected (.array done :: frames)) :
    Json.resume expected .between text =
      Json.resume (.next (.array (done.reverse ++ asReadItems items) none) frames) .between
        rest := by
  cases h with
  | @last item _ _ _ _ hbefore hitem hafter =>
    have hclose : Expected.read (.next (asRead item) (.array done :: frames)) .arrayEnd =
        .inl (.next (.array (asRead item :: done).reverse none) frames) := rfl
    rw [hbefore.resume, hitem.resume (hafter.ends (ends_of_mark _ (by simp))) hopens, hafter.resume,
      resume_token rfl hclose, List.reverse_cons]
    rfl
  | @cons item items _ _ _ _ _ hbefore hitem hafter hitems =>
    have hmore : Expected.read (.next (asRead item) (.array done :: frames)) .comma =
        .inl (.value (.array (asRead item :: done) :: frames)) := rfl
    rw [hbefore.resume, hitem.resume (hafter.ends (ends_of_mark _ (by simp))) hopens, hafter.resume,
      resume_token rfl hmore, hitems.resume (opens_value _), List.reverse_cons, List.append_assoc]
    rfl

theorem WrittenMembers.resume {members : List (String × Json)} {text rest : List Char}
    (h : WrittenMembers members text rest) {done : List (Lexeme String × Draft)}
    {frames : List Frame} :
    Json.resume (.key done frames) .between text =
      Json.resume (.next (.object (done.reverse ++ asReadMembers members) none) frames) .between
        rest := by
  cases h with
  | @last key value _ _ _ _ hkey hvalue hafter =>
    have hclose : Expected.read
        (.next (asRead value) (.object done ⟨.ok key, none⟩ :: frames)) .objectEnd =
          .inl (.next (.object ((⟨.ok key, none⟩, asRead value) :: done).reverse none)
            frames) := rfl
    rw [hkey.resume, hvalue.resume (hafter.ends (ends_of_mark _ (by simp))) (opens_value _),
      hafter.resume, resume_token rfl hclose, List.reverse_cons]
    rfl
  | @cons key value members _ _ _ _ _ hkey hvalue hafter hmembers =>
    have hmore : Expected.read
        (.next (asRead value) (.object done ⟨.ok key, none⟩ :: frames)) .comma =
          .inl (.key ((⟨.ok key, none⟩, asRead value) :: done) frames) := rfl
    rw [hkey.resume, hvalue.resume (hafter.ends (ends_of_mark _ (by simp))) (opens_value _),
      hafter.resume, resume_token rfl hmore, hmembers.resume, List.reverse_cons, List.append_assoc]
    rfl

end

/-- A text that says a value is read as this value, and nothing is left over. -/
theorem ofGlyphs_of_isText {value : Json} {text : List Char} (h : IsText value text) :
    Document.ofGlyphs (text.map some) = ⟨asRead value, false⟩ := by
  obtain ⟨start, stop, hbefore, hvalue, hafter⟩ := h
  have hends : Ends stop := hafter.ends nofun
  calc Document.ofGlyphs (text.map some)
      = resume (.value []) .between text := rfl
    _ = resume (.value []) .between start := hbefore.resume
    _ = resume (.next (asRead value) []) .between stop := hvalue.resume hends (opens_value [])
    _ = resume (.next (asRead value) []) .between [] := hafter.resume
    _ = ⟨asRead value, false⟩ := rfl

end FeatureCheck.Json
