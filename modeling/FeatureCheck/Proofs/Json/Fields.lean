import FeatureCheck.Json.Decoder

/-!
# What a decoded record holds

A record is read from an object by the names of its fields, or from an array by their places. Each
part of what is read was read from the value of the one field that sets it, or is the default where
there is no such value: `Decoder.told_of_record`.
-/

namespace FeatureCheck.Json

set_option autoImplicit false

/-- The member with the name, or the item at the place. -/
def part? (value : Json) (name : String) (place : Nat) : Option Json :=
  match value with
  | .object members => members.lookup name
  | .array items => items[place]?
  | _ => none

namespace Decoder

variable {α β σ : Type} {name : String} {place : Nat} {decoder : Decoder α} {part : σ → α}
  {fields : List (Field σ)} {record filled : σ}

/-- The result is read from the value, if there is one, and is the default otherwise. -/
def Told (decoder : Decoder α) (default result : α) : Option Json → Prop
  | none => result = default
  | some value => decoder (draft value) = .ok result

/-- Filling the field in leaves the part as it is. -/
def Field.Keeps (field : Field σ) (part : σ → α) : Prop :=
  ∀ record draft filled, field.fill record draft = .ok filled → part filled = part record

/-- Filling the field in sets the part to what is read. -/
def Field.Sets (field : Field σ) (decoder : Decoder α) (part : σ → α) : Prop :=
  ∀ record draft filled, field.fill record draft = .ok filled → decoder draft = .ok (part filled)

/-- The field has another name and leaves the part as it is. -/
structure Field.Apart (field : Field σ) (name : String) (part : σ → α) : Prop where
  name_ne : field.name ≠ name
  keeps : field.Keeps part

theorem Field.exists_of_fill_of {isRequired : Bool} {set : α → σ → σ} {draft : Draft}
    (h : (Field.of name isRequired decoder set).fill record draft = .ok filled) :
    ∃ value, decoder draft = .ok value ∧ filled = set value record := by
  simp only [Field.of] at h
  cases hread : decoder draft with
  | error fault =>
    rw [hread] at h
    cases h
  | ok value =>
    rw [hread] at h
    exact ⟨value, rfl, (Except.ok.inj h).symm⟩

theorem Field.sets_of {isRequired : Bool} {set : α → σ → σ}
    (h : ∀ value record, part (set value record) = value) :
    (Field.of name isRequired decoder set).Sets decoder part := by
  intro record draft filled hfill
  obtain ⟨value, hread, rfl⟩ := exists_of_fill_of hfill
  rw [hread, h]

@[simp] theorem Field.apart_of {other : String} {isRequired : Bool} {decoder : Decoder β}
    {set : β → σ → σ} (hname : other ≠ name)
    (h : ∀ value record, part (set value record) = part record) :
    (Field.of other isRequired decoder set).Apart name part where
  name_ne := hname
  keeps := by
    intro record draft filled hfill
    obtain ⟨value, -, rfl⟩ := exists_of_fill_of hfill
    rw [h]

/-- What is read is what is written. -/
theorem Told.eq_getD {write : α → Json} {default result : α} {told : Option Json}
    (hread : ∀ value result, decoder (draft value) = .ok result → value = write result)
    (h : decoder.Told default result told) : write result = told.getD (write default) := by
  cases told with
  | none => rw [Option.getD_none, h]
  | some value => rw [Option.getD_some, hread value result h]

/-- A part of a part is read from the part of it. -/
theorem Told.bind {outer : Decoder σ} {default result : σ} {told : Option Json}
    (h : outer.Told default result told)
    (hpart : ∀ value result, outer (draft value) = .ok result →
      decoder.Told (part default) (part result) (value.part? name place)) :
    decoder.Told (part default) (part result) (told.bind (·.part? name place)) := by
  cases told with
  | none => rw [Option.bind_none, Told, h]
  | some value => exact hpart value result h

/-- Of the fields, the one at the place sets the part. It has the name, and no other one has. -/
structure Owns (fields : List (Field σ)) (name : String) (place : Nat) (decoder : Decoder α)
    (part : σ → α) : Prop where
  own : ∃ field, fields[place]? = some field ∧ field.name = name ∧ field.Sets decoder part
  others : ∀ index field, fields[index]? = some field → index ≠ place → field.Apart name part

theorem owns_of {isRequired : Bool} {set : α → σ → σ}
    (hown : fields[place]? = some (Field.of name isRequired decoder set))
    (hset : ∀ value record, part (set value record) = value)
    (hothers : ∀ other ∈ fields.eraseIdx place, other.Apart name part) :
    Owns fields name place decoder part where
  own := ⟨Field.of name isRequired decoder set, hown, rfl, Field.sets_of hset⟩
  others := by
    intro index other hindex hne
    exact hothers other (List.mem_eraseIdx_iff_getElem?.mpr ⟨index, hne, hindex⟩)

/-- The field that a member is read by sets the part if the member has the name, and keeps it
otherwise. -/
theorem Owns.of_find? (h : Owns fields name place decoder part) {key : String} {field : Field σ}
    (hfind : (fields.find? fun field => field.name = key) = some field) :
    (key = name → field.Sets decoder part) ∧ (key ≠ name → field.Keeps part) := by
  have hkey : field.name = key := by simpa using List.find?_some hfind
  obtain ⟨index, hindex⟩ := List.mem_iff_getElem?.mp (List.mem_of_find?_eq_some hfind)
  obtain ⟨own, hown, hname, hsets⟩ := h.own
  by_cases hplace : index = place
  · obtain rfl : own = field := by
      rw [hplace, hown] at hindex
      exact Option.some.inj hindex
    exact ⟨fun _ => hsets, fun hne => absurd (hkey.symm.trans hname) hne⟩
  · have hapart := h.others index field hindex hplace
    exact ⟨fun heq => absurd (hkey.trans heq) hapart.name_ne, fun _ => hapart.keeps⟩

theorem Owns.isSome_find? (h : Owns fields name place decoder part) :
    (fields.find? fun field => field.name = name).isSome = true := by
  obtain ⟨own, hown, hname, -⟩ := h.own
  rw [List.find?_isSome]
  exact ⟨own, List.mem_of_getElem? hown, decide_eq_true hname⟩

/-- One member: it belongs to no field, or to one that was not filled in before. -/
theorem fillMembers_cons {seen last : List String} {key : String} {value : Json}
    {members : List (String × Json)}
    (h : fillMembers fields seen record (draftMembers ((key, value) :: members)) =
      .ok (last, filled)) :
    ((fields.find? fun field => field.name = key) = none ∧
      fillMembers fields seen record (draftMembers members) = .ok (last, filled)) ∨
    ∃ field next, (fields.find? fun field => field.name = key) = some field ∧ key ∉ seen ∧
      field.fill record (draft value) = .ok next ∧
      fillMembers fields (key :: seen) next (draftMembers members) = .ok (last, filled) := by
  rw [draftMembers, fillMembers] at h
  simp only [bind, Except.bind] at h
  split at h
  · rename_i field hfind
    split at h
    · cases h
    · rename_i hseen
      split at h
      · cases h
      · rename_i next hfill
        exact .inr ⟨field, next, hfind, hseen, hfill, h⟩
  · rename_i hfind
    split at h
    · cases h
    · exact .inl ⟨hfind, h⟩

theorem fillMembers_of_seen (h : Owns fields name place decoder part) {seen last : List String}
    {members : List (String × Json)} (hseen : name ∈ seen)
    (hfill : fillMembers fields seen record (draftMembers members) = .ok (last, filled)) :
    part filled = part record := by
  induction members generalizing seen record with
  | nil =>
    obtain ⟨-, rfl⟩ := Prod.mk.inj (Except.ok.inj hfill)
    rfl
  | cons member members ih =>
    obtain ⟨key, value⟩ := member
    rcases fillMembers_cons hfill with ⟨-, hrest⟩ | ⟨field, next, hfind, hfresh, hnext, hrest⟩
    · exact ih hseen hrest
    · have hne : key ≠ name := by
        rintro rfl
        exact hfresh hseen
      rw [ih (List.mem_cons_of_mem key hseen) hrest]
      exact (h.of_find? hfind).2 hne record (draft value) next hnext

theorem told_of_fillMembers (h : Owns fields name place decoder part) {seen last : List String}
    {members : List (String × Json)} (hseen : name ∉ seen)
    (hfill : fillMembers fields seen record (draftMembers members) = .ok (last, filled)) :
    decoder.Told (part record) (part filled) (members.lookup name) := by
  induction members generalizing seen record with
  | nil =>
    obtain ⟨-, rfl⟩ := Prod.mk.inj (Except.ok.inj hfill)
    rfl
  | cons member members ih =>
    obtain ⟨key, value⟩ := member
    by_cases hkey : key = name
    · subst hkey
      rw [List.lookup_cons_self]
      rcases fillMembers_cons hfill with ⟨hnone, -⟩ | ⟨field, next, hfind, -, hnext, hrest⟩
      · have hsome := h.isSome_find?
        rw [hnone] at hsome
        cases hsome
      · rw [Told, fillMembers_of_seen h List.mem_cons_self hrest]
        exact (h.of_find? hfind).1 rfl record (draft value) next hnext
    · have hlookup : List.lookup name ((key, value) :: members) = members.lookup name := by
        rw [List.lookup_cons, beq_false_of_ne (Ne.symm hkey)]
      rw [hlookup]
      rcases fillMembers_cons hfill with ⟨-, hrest⟩ | ⟨field, next, hfind, -, hnext, hrest⟩
      · exact ih hseen hrest
      · have hfresh : name ∉ key :: seen := by
          intro hmem
          rcases List.mem_cons.mp hmem with heq | hmem
          · exact hkey heq.symm
          · exact hseen hmem
        have hkept := (h.of_find? hfind).2 hkey record (draft value) next hnext
        rw [← hkept]
        exact ih hfresh hrest

/-- One item: it fills the first field in. -/
theorem fillItems_cons {field : Field σ} {item : Json} {items : List Json}
    (h : fillItems (field :: fields) record (draftItems (item :: items)) none = .ok filled) :
    ∃ next, field.fill record (draft item) = .ok next ∧
      fillItems fields next (draftItems items) none = .ok filled := by
  rw [draftItems, fillItems] at h
  simp only [bind, Except.bind] at h
  split at h
  · cases h
  · rename_i next hnext
    exact ⟨next, hnext, h⟩

theorem fillItems_nil (h : fillItems fields record [] none = .ok filled) : filled = record := by
  unfold fillItems at h
  cases fields with
  | nil => exact (Except.ok.inj h).symm
  | cons field fields =>
    dsimp only at h
    split at h
    · cases h
    · exact (Except.ok.inj h).symm

theorem fillItems_keeps (h : ∀ field ∈ fields, field.Keeps part) {items : List Json}
    (hfill : fillItems fields record (draftItems items) none = .ok filled) :
    part filled = part record := by
  induction fields generalizing record items with
  | nil =>
    cases items with
    | nil => rw [fillItems_nil hfill]
    | cons item items => cases hfill
  | cons field fields ih =>
    cases items with
    | nil => rw [fillItems_nil hfill]
    | cons item items =>
      obtain ⟨hfield, hfields⟩ := List.forall_mem_cons.mp h
      obtain ⟨next, hnext, hrest⟩ := fillItems_cons hfill
      rw [ih hfields hrest, hfield record (draft item) next hnext]

theorem told_of_fillItems (h : Owns fields name place decoder part) {items : List Json}
    (hfill : fillItems fields record (draftItems items) none = .ok filled) :
    decoder.Told (part record) (part filled) items[place]? := by
  obtain ⟨own, hown, hname, hsets⟩ := h.own
  induction fields generalizing place record items with
  | nil => simp at hown
  | cons field fields ih =>
    cases items with
    | nil => rw [fillItems_nil hfill, List.getElem?_nil, Told]
    | cons item items =>
      obtain ⟨next, hnext, hrest⟩ := fillItems_cons hfill
      cases place with
      | zero =>
        obtain rfl : field = own := by simpa using hown
        have hkeeps : ∀ other ∈ fields, other.Keeps part := by
          intro other hother
          obtain ⟨index, hindex⟩ := List.mem_iff_getElem?.mp hother
          exact (h.others (index + 1) other (by simpa using hindex) (Nat.succ_ne_zero index)).keeps
        rw [List.getElem?_cons_zero, Told, fillItems_keeps hkeeps hrest]
        exact hsets record (draft item) next hnext
      | succ place =>
        have hkept : part next = part record :=
          (h.others 0 field rfl (Nat.succ_ne_zero place).symm).keeps record (draft item) next hnext
        rw [List.getElem?_cons_succ, ← hkept]
        have hlater : Owns fields name place decoder part := by
          refine ⟨⟨own, by simpa using hown, hname, hsets⟩, ?_⟩
          intro index other hindex hne
          exact h.others (index + 1) other (by simpa using hindex) (by omega)
        exact ih hlater hrest (by simpa using hown)

/-- What is read as a record is an object or an array, and each part of the record was read from the
part of it that belongs to its field. -/
theorem told_of_record (h : Owns fields name place decoder part) {value : Json}
    (hread : Decoder.record fields record (draft value) = .ok filled) :
    decoder.Told (part record) (part filled) (value.part? name place) := by
  cases value with
  | object members =>
    rw [draft, Decoder.record] at hread
    simp only [bind, Except.bind, endWith] at hread
    split at hread
    · cases hread
    · rename_i outcome hfill
      split at hread
      · rw [← Except.ok.inj hread]
        exact told_of_fillMembers h List.not_mem_nil hfill
      · cases hread
  | array items => exact told_of_fillItems h hread
  | null => cases hread
  | bool value => cases hread
  | number value => cases hread
  | text value => cases hread

end Decoder

end FeatureCheck.Json
