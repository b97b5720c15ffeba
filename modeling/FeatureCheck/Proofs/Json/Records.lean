import FeatureCheck.Json.Decoder
import FeatureCheck.Proofs.Json.Reading
import Mathlib.Data.List.Nodup

/-!
# Decoding what is written

A decoder gets from a text what it gets from the value that the text says (`decode_of_isText`). A
record comes out the same in whatever order its members stand and whatever other members are with
them: `record_asRead`.
-/

namespace FeatureCheck.Json

set_option autoImplicit false

variable {α σ : Type}

/-- The keys of the members that have one of the names. -/
def keysAmong (names : List String) (members : List (String × Json)) : List String :=
  (members.map (·.1)).filter (· ∈ names)

/-- Of the members with one of the names, each is a known one and none comes twice; any others may
stand among them. Known members are there unless they are empty lists. -/
structure Holds (names : List String) (known members : List (String × Json)) : Prop where
  known_of_mem : ∀ member ∈ members, member.1 ∈ names → member ∈ known
  mem_or_empty : ∀ member ∈ known, member ∈ members ∨ member.2 = .array []
  nodup : (keysAmong names members).Nodup

namespace Decoder

theorem decode_of_isText {decoder : Decoder α} {value : Json} {text : List Char}
    (h : IsText value text) : decode decoder (text.map some) = decoder (asRead value) := by
  rw [decode, ofGlyphs_of_isText h]
  cases decoder (asRead value) <;> rfl

theorem mapM_asRead {decoder : Decoder α} {items : List Json} {values : List α}
    (h : List.Forall₂ (fun item value => decoder (asRead item) = .ok value) items values) :
    (items.map asRead).mapM decoder = .ok values := by
  induction h with
  | nil => rfl
  | cons hitem _ ih =>
    rw [List.map_cons, List.mapM_cons, hitem, ih]
    rfl

theorem list_asRead {decoder : Decoder α} {items : List Json} {values : List α}
    (h : List.Forall₂ (fun item value => decoder (asRead item) = .ok value) items values) :
    list decoder (asRead (.array items)) = .ok values := by
  rw [asRead, asReadItems_eq_map, list, mapM_asRead h]
  rfl

theorem text_asRead (value : String) : text (asRead (.text value)) = .ok value :=
  rfl

theorem optional_text_asRead (value : String) :
    optional text (asRead (.text value)) = .ok (some value) :=
  rfl

theorem variant_asRead {ofName? : String → Option α} {word : String} {value : α}
    (h : ofName? word = some value) : variant ofName? (asRead (.text word)) = .ok value := by
  simp only [asRead, variant, bind, Except.bind, h, Option.elim_some]

theorem list_text_asRead (values : List String) :
    list text (asRead (texts values)) = .ok values := by
  refine list_asRead (List.forall₂_map_left_iff.mpr ?_)
  exact List.forall₂_same.mpr fun value _ => rfl

/-! ## Records -/

/-- The field takes its known member to the record that has seen its name as well. -/
def Field.Fills (field : Field σ) (known : List (String × Json)) (reached : List String → σ) :
    Prop :=
  ∀ value, (field.name, value) ∈ known → ∀ seen, field.name ∉ seen →
    field.fill (reached seen) (asRead value) = .ok (reached (field.name :: seen))

variable {fields : List (Field σ)} {known members : List (String × Json)}
  {reached : List String → σ}

theorem fill_of {decoder : Decoder α} {name : String} {isRequired : Bool} {set : α → σ → σ}
    {draft : Draft} {value : α} {record : σ} (h : decoder draft = .ok value) :
    (Field.of name isRequired decoder set).fill record draft = .ok (set value record) := by
  simp only [Field.of, h, Except.map]

theorem fills_of {decoder : Decoder α} {name : String} {isRequired : Bool} {set : α → σ → σ}
    {written : Json} {value : α} (hknown : ∀ other, (name, other) ∈ known → other = written)
    (hdecode : decoder (asRead written) = .ok value)
    (hset : ∀ seen, set value (reached seen) = reached (name :: seen)) :
    (Field.of name isRequired decoder set).Fills known reached := by
  intro other hother seen _
  obtain rfl := hknown other hother
  rw [fill_of hdecode, hset]
  rfl

/-- The names that a record knows. -/
def names (fields : List (Field σ)) : List String :=
  fields.map (·.name)

theorem fillMembers_asRead (hfills : ∀ field ∈ fields, field.Fills known reached)
    (hknown : ∀ member ∈ members, member.1 ∈ names fields → member ∈ known)
    (hnodup : (keysAmong (names fields) members).Nodup) (seen : List String)
    (hseen : ∀ key ∈ keysAmong (names fields) members, key ∉ seen) :
    ∃ last, fillMembers fields seen (reached seen) (asReadMembers members) =
        .ok (last, reached last) ∧
      ∀ key, key ∈ last ↔ key ∈ seen ∨ key ∈ keysAmong (names fields) members := by
  induction members generalizing seen with
  | nil => exact ⟨seen, rfl, by simp [keysAmong]⟩
  | cons member members ih =>
    obtain ⟨key, value⟩ := member
    obtain ⟨hmember, hmembers⟩ := List.forall_mem_cons.mp hknown
    by_cases hkey : key ∈ names fields
    · have hkeys : keysAmong (names fields) ((key, value) :: members) =
          key :: keysAmong (names fields) members := by
        simp [keysAmong, hkey]
      rw [hkeys] at hnodup hseen ⊢
      obtain ⟨hfresh, hothers⟩ := List.forall_mem_cons.mp hseen
      obtain ⟨hfirst, hrest⟩ := List.nodup_cons.mp hnodup
      -- the field of the name, which takes the member
      obtain ⟨field, hfield⟩ : ∃ field, fields.find? (·.name = key) = some field := by
        obtain ⟨field, hmem, hname⟩ := List.mem_map.mp hkey
        exact Option.isSome_iff_exists.mp
          (List.find?_isSome.mpr ⟨field, hmem, decide_eq_true hname⟩)
      have hname : field.name = key := by simpa using List.find?_some hfield
      have hfill := hfills field (List.mem_of_find?_eq_some hfield) value
        (hname ▸ hmember hkey) seen (hname ▸ hfresh)
      obtain ⟨last, hlast, hmem⟩ := ih hmembers hrest (key :: seen) fun other hother => by
        rw [List.mem_cons, not_or]
        exact ⟨fun heq => hfirst (heq ▸ hother), hothers other hother⟩
      refine ⟨last, ?_, fun other => ?_⟩
      · rw [asReadMembers, fillMembers]
        simp only [bind, Except.bind, hfield, if_neg hfresh, hfill, hname]
        exact hlast
      · rw [hmem other, List.mem_cons, List.mem_cons]
        tauto
    · have hkeys : keysAmong (names fields) ((key, value) :: members) =
          keysAmong (names fields) members := by
        simp [keysAmong, hkey]
      rw [hkeys] at hnodup hseen ⊢
      have hnone : fields.find? (·.name = key) = none := by
        rw [List.find?_eq_none]
        intro field hmem hname
        exact hkey (List.mem_map.mpr ⟨field, hmem, of_decide_eq_true hname⟩)
      obtain ⟨last, hlast, hmem⟩ := ih hmembers hnodup seen hseen
      refine ⟨last, ?_, hmem⟩
      rw [asReadMembers, fillMembers]
      simp only [bind, Except.bind, hnone, blocked_asRead]
      exact hlast

/-- An object that holds the known members is read as the record that has seen them all. -/
theorem record_asRead (reached : List String → σ) {default result : σ}
    (hstart : reached [] = default) (hholds : Holds (names fields) known members)
    (hnames : ∀ member ∈ known, member.1 ∈ names fields)
    (hfills : ∀ field ∈ fields, field.Fills known reached)
    (hrequired : ∀ field ∈ fields, field.isRequired = true →
      ∃ value, (field.name, value) ∈ known ∧ value ≠ .array [])
    (hresult : ∀ seen, (∀ member ∈ known, member.1 ∈ seen ∨ member.2 = .array []) →
      reached seen = result) :
    record fields default (asRead (.object members)) = .ok result := by
  obtain ⟨last, hlast, hmem⟩ :=
    fillMembers_asRead hfills hholds.known_of_mem hholds.nodup [] (fun _ _ => List.not_mem_nil)
  have hseen : ∀ member ∈ known, member.1 ∈ last ∨ member.2 = .array [] := by
    intro member hmember
    rcases hholds.mem_or_empty member hmember with hthere | hempty
    · left
      rw [hmem]
      right
      exact List.mem_filter.mpr ⟨List.mem_map.mpr ⟨member, hthere, rfl⟩,
        decide_eq_true (hnames member hmember)⟩
    · exact .inr hempty
  have hall : fields.all (fun field => !field.isRequired || last.contains field.name) = true := by
    refine List.all_eq_true.mpr fun field hfield => ?_
    cases hneeds : field.isRequired with
    | false => rfl
    | true =>
      obtain ⟨value, hknown, hfilled⟩ := hrequired field hfield hneeds
      have hthere : field.name ∈ last := (hseen _ hknown).resolve_right hfilled
      simpa using hthere
  rw [asRead, record, ← hstart, ← hresult last hseen]
  simp only [bind, Except.bind, hlast, endWith, hall, if_true]

/-! ## Fields in order -/

/-- Each field takes the member of its name, one after another, from a first record to a last. -/
inductive Filled : List (Field σ) → List (String × Json) → σ → σ → Prop where
  | nil {record : σ} : Filled [] [] record record
  | cons {field : Field σ} {fields : List (Field σ)} {value : Json}
      {members : List (String × Json)} {record next last : σ}
      (hfill : field.fill record (asRead value) = .ok next) (h : Filled fields members next last) :
      Filled (field :: fields) ((field.name, value) :: members) record last

theorem find?_name {field : Field σ} (hnodup : (names fields).Nodup) (h : field ∈ fields) :
    fields.find? (·.name = field.name) = some field := by
  obtain ⟨found, hfound⟩ : ∃ found, fields.find? (·.name = field.name) = some found :=
    Option.isSome_iff_exists.mp (List.find?_isSome.mpr ⟨field, h, decide_eq_true rfl⟩)
  have hname : found.name = field.name := by simpa using List.find?_some hfound
  have hmem := List.mem_of_find?_eq_some hfound
  rw [hfound, List.inj_on_of_nodup_map hnodup hmem h hname]

/-- The fields that are left are filled, among all the fields of the record. -/
theorem fillMembers_of_filled {all : List (Field σ)} {record last : σ}
    (h : Filled fields members record last)
    (hfind : ∀ field ∈ fields, all.find? (·.name = field.name) = some field)
    (hnodup : (names fields).Nodup) (seen : List String)
    (hseen : ∀ name ∈ names fields, name ∉ seen) :
    fillMembers all seen record (asReadMembers members) =
      .ok ((names fields).reverse ++ seen, last) := by
  induction h generalizing seen with
  | nil => rfl
  | @cons field fields value members record next last hfill _ ih =>
    obtain ⟨hfield, hfields⟩ := List.forall_mem_cons.mp hfind
    obtain ⟨hfirst, hrest⟩ := List.nodup_cons.mp hnodup
    obtain ⟨hfresh, hothers⟩ := List.forall_mem_cons.mp hseen
    have hseen' : ∀ name ∈ names fields, name ∉ field.name :: seen := by
      intro name hname hmem
      rcases List.mem_cons.mp hmem with rfl | hmem
      · exact hfirst hname
      · exact hothers name hname hmem
    rw [asReadMembers, fillMembers]
    simp only [bind, Except.bind, hfield, if_neg hfresh, hfill]
    rw [ih hfields hrest (field.name :: seen) hseen']
    simp [names]

/-- An object whose members are the fields in order is read as the record that they fill. -/
theorem record_of_filled {default result : σ} (hnodup : (names fields).Nodup)
    (h : Filled fields members default result) :
    record fields default (asRead (.object members)) = .ok result := by
  have hfill := fillMembers_of_filled h (fun _ => find?_name hnodup) hnodup []
    fun _ _ => List.not_mem_nil
  have hall : fields.all (fun field =>
      !field.isRequired || ((names fields).reverse ++ []).contains field.name) = true := by
    refine List.all_eq_true.mpr fun field hfield => ?_
    have hname : field.name ∈ names fields := List.mem_map_of_mem hfield
    simp [hname]
  rw [asRead, record]
  simp only [bind, Except.bind, hfill, endWith, hall, if_true]

end Decoder

end FeatureCheck.Json
