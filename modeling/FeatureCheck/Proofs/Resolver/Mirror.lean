import FeatureCheck.Proofs.Path.Resolution
import FeatureCheck.Resolver.Sources
import Mathlib.Data.List.ModifyLast

/-!
# Places in a mirror

A mirror holds the catalog of an identity in the directory of its kind, under its version. The
version is a text, and its parts are parts of the path, once as they are and once more in the name
of the file. So a version that is absolute or goes up leaves the directory of its kind
(`mirrorPath_kept_iff`), and versions that differ in parts that lead nowhere share a file.
-/

namespace FeatureCheck

set_option autoImplicit false

open FeatureCheck.Path FeatureCheck.Path.Location

/-! ## Parts of the name of a file -/

namespace FileTree

theorem parts_of_not_mem {text : String} (h : '/' ∉ text.toList) : parts text = [text] := by
  rw [parts, List.splitOn_eq_singleton h, List.map_singleton, String.ofList_toList]

theorem exists_first {text : String} (h : '/' ∈ text.toList) :
    ∃ first rest : String, text = first ++ "/" ++ rest ∧ '/' ∉ first.toList := by
  obtain ⟨first, rest, heq, hfirst⟩ := List.eq_append_cons_of_mem h
  exact ⟨String.ofList first, String.ofList rest, String.ext (by simp [heq]), by simpa⟩

theorem exists_last {text : String} (h : '/' ∈ text.toList) :
    ∃ front last : String, text = front ++ "/" ++ last ∧ '/' ∉ last.toList := by
  obtain ⟨last, front, heq, hlast⟩ := List.eq_append_cons_of_mem (List.mem_reverse.mpr h)
  refine ⟨String.ofList front.reverse, String.ofList last.reverse, String.ext ?_, by simpa⟩
  rw [← List.reverse_inj, heq]
  simp

theorem parts_prepend {lead : String} (hlead : '/' ∉ lead.toList) (text : String) :
    parts (lead ++ text) = (parts text).modifyHead (lead ++ ·) := by
  by_cases h : '/' ∈ text.toList
  · obtain ⟨first, rest, rfl, hfirst⟩ := exists_first h
    rw [← String.append_assoc, ← String.append_assoc, parts_append_slash, parts_append_slash,
      parts_of_not_mem hfirst, parts_of_not_mem (by simp [hlead, hfirst])]
    rfl
  · rw [parts_of_not_mem h, parts_of_not_mem (by simp [hlead, h])]
    rfl

theorem parts_append {tail : String} (htail : '/' ∉ tail.toList) (text : String) :
    parts (text ++ tail) = (parts text).modifyLast (· ++ tail) := by
  by_cases h : '/' ∈ text.toList
  · obtain ⟨front, last, rfl, hlast⟩ := exists_last h
    have hboth : '/' ∉ (last ++ tail).toList := by simp [hlast, htail]
    rw [String.append_assoc, parts_append_slash, parts_append_slash, parts_of_not_mem hlast,
      parts_of_not_mem hboth, List.modifyLast_concat]
  · rw [parts_of_not_mem h, parts_of_not_mem (by simp [h, htail])]
    exact (List.modifyLast_concat (· ++ tail) text []).symm

theorem parts_ne_nil (text : String) : parts text ≠ [] := by
  rw [parts, ne_eq, List.map_eq_nil_iff]
  exact List.splitOnP_ne_nil _ _

/-- A part that is longer than two dots leads down. -/
theorem isName_of_length {part : String} (h : 2 < part.length) : isName part = true := by
  refine isName_iff.mpr ⟨?_, ?_, ?_⟩ <;>
  · rintro rfl
    revert h
    decide

end FileTree

open FileTree

theorem RuntimeKind.word_injective : Function.Injective RuntimeKind.word := by
  intro kind kind' h
  rw [← Option.some_inj, ← RuntimeKind.ofWord?_word kind, h, RuntimeKind.ofWord?_word]

namespace Sources

variable {parts others inner : List String} {part first last : String}

/-- The parts of the name of a file for a version with these parts. -/
def fileParts (parts : List String) : List String :=
  (parts.modifyHead ("features-" ++ ·)).modifyLast (· ++ ".json")

theorem parts_fileName (version : String) :
    FileTree.parts ("features-" ++ version ++ ".json") = fileParts (FileTree.parts version) := by
  rw [parts_append (by decide), parts_prepend (by decide), fileParts]

@[simp] theorem fileParts_single : fileParts [part] = ["features-" ++ part ++ ".json"] :=
  List.modifyLast_concat (· ++ ".json") ("features-" ++ part) []

@[simp] theorem fileParts_cons_concat : fileParts (first :: (inner ++ [last])) =
    ("features-" ++ first) :: (inner ++ [last ++ ".json"]) :=
  List.modifyLast_concat (· ++ ".json") last (("features-" ++ first) :: inner)

/-- There is one part, or a first and a last one. -/
theorem single_or_cons_concat (h : parts ≠ []) :
    (∃ part, parts = [part]) ∨ ∃ first inner last, parts = first :: (inner ++ [last]) := by
  obtain ⟨first, rest, rfl⟩ := List.exists_cons_of_ne_nil h
  rcases List.eq_nil_or_concat rest with rfl | ⟨inner, last, rfl⟩
  · exact .inl ⟨first, rfl⟩
  · exact .inr ⟨first, inner, last, by rw [List.concat_eq_append]⟩

theorem length_fileParts (h : parts ≠ []) : (fileParts parts).length = parts.length := by
  rcases single_or_cons_concat h with ⟨part, rfl⟩ | ⟨first, inner, last, rfl⟩ <;> simp

theorem isName_prepended (part : String) : isName ("features-" ++ part) = true :=
  isName_of_length (by rw [String.length_append]; exact Nat.lt_add_right _ (by decide))

theorem isName_appended (part : String) : isName (part ++ ".json") = true :=
  isName_of_length (by rw [String.length_append]; exact Nat.lt_add_left _ (by decide))

theorem not_up_fileParts (hne : parts ≠ []) (h : ".." ∉ parts) : ".." ∉ fileParts parts := by
  have hname : ∀ {part}, isName part = true → ".." ≠ part := fun hpart heq =>
    (isName_iff.mp hpart).2.2 heq.symm
  rcases single_or_cons_concat hne with ⟨part, rfl⟩ | ⟨first, inner, last, rfl⟩
  · simpa using hname (isName_appended ("features-" ++ part))
  · have hinner : ".." ∉ inner := fun hmem => h (by simp [hmem])
    simpa [hinner] using ⟨hname (isName_prepended first), hname (isName_appended last)⟩

/-! ## Keeping below the directory of a kind -/

/-- Where the version and the name of its file lead, from the directory of a kind. -/
def trail (version : String) : Location :=
  resolve (join version ("features-" ++ version ++ ".json"))

/-- The catalog of the identity is looked for below the directory of its kind. -/
def Kept (root : String) (identity : RuntimeIdentity) : Prop :=
  (resolve (mirrorPath root identity)).Below (resolve (join root identity.kind.word))

instance (root : String) (identity : RuntimeIdentity) : Decidable (Kept root identity) :=
  inferInstanceAs (Decidable (Below _ _))

/-- A version that is no absolute path, and no part of which goes up. -/
def GoesDown (version : String) : Prop :=
  isAbsolute version = false ∧ ".." ∉ FileTree.parts version

instance (version : String) : Decidable (GoesDown version) :=
  inferInstanceAs (Decidable (_ ∧ _))

theorem isAbsolute_fileName (version : String) :
    isAbsolute ("features-" ++ version ++ ".json") = false := by
  rw [String.append_assoc, isAbsolute_append (by decide)]
  decide

theorem trail_eq (version : String) :
    trail version = (resolve version).walk (fileParts (FileTree.parts version)) := by
  rw [trail, resolve_join (isAbsolute_fileName version), parts_fileName]

/-- The name of the file leads down in the end. -/
theorem exists_names_trail (version : String) :
    ∃ names last, (trail version).names = names ++ [last] := by
  rw [trail_eq]
  rcases single_or_cons_concat (parts_ne_nil version) with ⟨part, h⟩ | ⟨first, inner, last, h⟩
  · rw [h, fileParts_single, String.append_assoc, ← List.nil_append [_], walk_concat,
      step_name (isName_prepended _)]
    exact ⟨_, _, rfl⟩
  · rw [h, fileParts_cons_concat, ← List.cons_append, walk_concat, step_name (isName_appended _)]
    exact ⟨_, _, rfl⟩

theorem resolve_of_relative {path : String} (h : isAbsolute path = false) :
    resolve path = here.walk (FileTree.parts path) := by
  rw [resolve, h]
  rfl

/-- If a version does not go up from where it starts, the name of its file behind it does not either:
the first part of that leads down, and the others go up no further than they did before. -/
theorem ups_trail_eq_zero_iff {version : String} (h : isAbsolute version = false) :
    (trail version).ups = 0 ↔ (resolve version).ups = 0 := by
  rw [trail_eq]
  constructor
  · intro hups
    have hle := @ups_le_ups_walk (resolve version) (fileParts (FileTree.parts version))
    omega
  · intro hups
    have hrelative : (resolve version).isAbsolute = false := by
      rw [resolve, isAbsolute_walk, h]
    rcases single_or_cons_concat (parts_ne_nil version) with ⟨part, hparts⟩ |
      ⟨first, inner, last, hparts⟩
    · rw [hparts, fileParts_single, String.append_assoc, ← List.nil_append [_], walk_concat,
        step_name (isName_prepended _)]
      exact hups
    · have hwalk : ((here.step first).walk inner).ups = 0 := by
        have hle := @ups_le_ups_step (here.walk (first :: inner)) last
        rw [← walk_concat, List.cons_append, ← hparts, ← resolve_of_relative h, hups] at hle
        exact Nat.le_zero.mp hle
      have hfirst : (here.step first).ups = 0 := by
        have hle := @ups_le_ups_walk (here.step first) inner
        omega
      have hlength : (here.step first).names.length ≤
          ((resolve version).descend ["features-" ++ first]).names.length := by
        have hle := length_names_step_here first
        simp only [descend, List.length_append, List.length_singleton]
        omega
      rw [hparts, fileParts_cons_concat, ← List.cons_append, walk_concat,
        step_name (isName_appended _)]
      change (((resolve version).step ("features-" ++ first)).walk inner).ups = 0
      rw [step_name (isName_prepended first)]
      exact ups_walk_eq_zero_of_le isAbsolute_step hrelative hfirst hups hlength hwalk

theorem mirrorPath_eq (root : String) (identity : RuntimeIdentity) :
    resolve (mirrorPath root identity) =
      if isAbsolute identity.version then trail identity.version
      else ((resolve (join root identity.kind.word)).rise (trail identity.version).ups).descend
        (trail identity.version).names := by
  rw [mirrorPath, resolve_join (isAbsolute_fileName _), parts_fileName, trail_eq]
  cases habsolute : isAbsolute identity.version
  · rw [resolve_join habsolute, ← walk_append, resolve_of_relative habsolute, ← walk_append]
    exact (walk_eq _ _).1
  · simp [join, habsolute]

theorem resolve_kind (root : String) (kind : RuntimeKind) :
    resolve (join root kind.word) = (resolve root).descend [kind.word] := by
  have hrelative : isAbsolute kind.word = false := by cases kind <;> decide
  have hup : ".." ∉ FileTree.parts kind.word := by cases kind <;> decide
  have hparts : (FileTree.parts kind.word).filter isName = [kind.word] := by cases kind <;> decide
  rw [resolve_join hrelative, walk_of_not_up hup, hparts]

/-- Where a path leads from a place, it comes back below the place: it goes down first by the names
that it went up. -/
def ComesBack (path place : Location) : Prop :=
  (place.isAbsolute = true ∨ path.ups ≤ place.names.length) ∧ ∃ more, more ≠ [] ∧
    path.names = place.names.drop (place.names.length - path.ups) ++ more

theorem kept_iff (root : String) (identity : RuntimeIdentity) : Kept root identity ↔
    if isAbsolute identity.version then
      (trail identity.version).Below (resolve (join root identity.kind.word))
    else ComesBack (trail identity.version) (resolve (join root identity.kind.word)) := by
  rw [Kept, mirrorPath_eq]
  split
  · exact Iff.rfl
  · exact below_iff

theorem comesBack_of_ups_eq_zero {version : String} {place : Location}
    (h : (trail version).ups = 0) : ComesBack (trail version) place := by
  obtain ⟨names, last, hnames⟩ := exists_names_trail version
  refine ⟨.inr (by omega), (trail version).names, by simp [hnames], ?_⟩
  rw [h, Nat.sub_zero, List.drop_length, List.nil_append]

theorem kept_everywhere_iff (identity : RuntimeIdentity) :
    (∀ root, Kept root identity) ↔ isAbsolute identity.version = false ∧
      ((resolve identity.version).ups = 0 ∨ (trail identity.version).ups = 1 ∧
        ∃ more, more ≠ [] ∧ (trail identity.version).names = identity.kind.word :: more) := by
  simp only [kept_iff, resolve_kind]
  cases habsolute : isAbsolute identity.version
  · simp only [Bool.false_eq_true, if_false, true_and, ← ups_trail_eq_zero_iff habsolute]
    constructor
    · intro hall
      obtain ⟨hups, more, hmore, hnames⟩ := hall ""
      have hle : (trail identity.version).ups ≤ 1 := hups.resolve_left Bool.false_ne_true
      rcases Nat.le_one_iff_eq_zero_or_eq_one.mp hle with hzero | hone
      · exact .inl hzero
      · rw [hone] at hnames
        exact .inr ⟨hone, more, hmore, hnames⟩
    · rintro (hzero | ⟨hone, more, hmore, hnames⟩) root
      · exact comesBack_of_ups_eq_zero hzero
      · refine ⟨.inr ?_, more, hmore, ?_⟩
        · simp [descend, hone]
        · simp [descend, hone, hnames]
  · simp only [if_true, Bool.true_eq_false, false_and, iff_false, not_forall]
    refine ⟨"", ?_⟩
    rintro ⟨names, -, heq⟩
    have hkind := congrArg Location.isAbsolute heq
    rw [trail_eq, isAbsolute_walk, resolve, isAbsolute_walk, habsolute] at hkind
    exact Bool.noConfusion (show true = false from hkind)

/-! ## Versions that share a file -/

/-- The parts of a version without those between the first and the last that lead nowhere. -/
def squeezed : List String → List String
  | [] => []
  | first :: rest => first :: (rest.dropLast.filter isName ++ rest.getLast?.toList)

/-- The names along which a version that does not go up and the name of its file lead. -/
def stored (parts : List String) : List String :=
  parts.filter isName ++ fileParts parts

@[simp] theorem squeezed_single : squeezed [part] = [part] :=
  rfl

@[simp] theorem squeezed_cons_concat :
    squeezed (first :: (inner ++ [last])) = first :: (inner.filter isName ++ [last]) := by
  simp [squeezed]

theorem trail_eq_stored {version : String} (h : GoesDown version) :
    trail version = here.descend (stored (squeezed (FileTree.parts version))) := by
  obtain ⟨hrelative, hup⟩ := h
  have hne := parts_ne_nil version
  rw [trail_eq, resolve_of_relative hrelative, walk_of_not_up hup,
    walk_of_not_up (not_up_fileParts hne hup), descend_descend, stored]
  congr 1
  rcases single_or_cons_concat hne with ⟨part, h⟩ | ⟨first, inner, last, h⟩
  · simp [h, String.append_assoc, isName_prepended]
  · simp [h, isName_prepended, isName_appended, List.filter_cons]

/-- A single part, or a first and a last one with names between them. -/
def Squeezed (parts : List String) : Prop :=
  (∃ part, parts = [part]) ∨
    ∃ first inner last, parts = first :: (inner ++ [last]) ∧ ∀ part ∈ inner, isName part = true

theorem squeezed_squeezed (h : parts ≠ []) : Squeezed (squeezed parts) := by
  rcases single_or_cons_concat h with ⟨part, rfl⟩ | ⟨first, inner, last, rfl⟩
  · exact .inl ⟨part, rfl⟩
  · exact .inr ⟨first, inner.filter isName, last, squeezed_cons_concat,
      fun part hpart => (List.mem_filter.mp hpart).2⟩

theorem Squeezed.ne_nil (h : Squeezed parts) : parts ≠ [] := by
  rcases h with ⟨part, rfl⟩ | ⟨first, inner, last, rfl, -⟩ <;> simp

/-- At most the first and the last part are no names. -/
theorem Squeezed.length_le (h : Squeezed parts) :
    parts.length ≤ (parts.filter isName).length + 2 := by
  rcases h with ⟨part, rfl⟩ | ⟨first, inner, last, rfl, hinner⟩
  · simp
  · have hnames := List.filter_eq_self.mpr hinner
    simp only [List.filter_cons, List.filter_append, hnames]
    split <;> simp only [List.length_cons, List.length_append, List.length_nil] <;> omega

theorem fileParts_inj (h : Squeezed parts) (h' : Squeezed others)
    (heq : fileParts parts = fileParts others) : parts = others := by
  have hlength := congrArg List.length heq
  rw [length_fileParts h.ne_nil, length_fileParts h'.ne_nil] at hlength
  rcases h with ⟨part, rfl⟩ | ⟨first, inner, last, rfl, -⟩
  · obtain ⟨other, rfl⟩ := List.length_eq_one_iff.mp hlength.symm
    simpa [String.append_left_inj, String.append_right_inj] using heq
  · rcases h' with ⟨part, rfl⟩ | ⟨first', inner', last', rfl, -⟩
    · simp at hlength
    · rw [fileParts_cons_concat, fileParts_cons_concat, List.cons.injEq,
        String.append_right_inj] at heq
      obtain ⟨rfl, hrest⟩ := heq
      obtain ⟨rfl, hlast⟩ := List.append_inj' hrest rfl
      simpa [String.append_left_inj] using hlast

/-- The last part of the name of a file tells the last part of a version, if it has more than one,
and is made of that part otherwise. -/
theorem getLast?_stored (h : Squeezed parts) : ∃ last, (stored parts).getLast? =
    some (last ++ ".json") ∧ ((∃ part, parts = [part] ∧ last = "features-" ++ part) ∨
      ∃ first inner, parts = first :: (inner ++ [last]) ∧ ∀ part ∈ inner, isName part = true) := by
  rcases h with ⟨part, rfl⟩ | ⟨first, inner, last, rfl, hinner⟩
  · exact ⟨"features-" ++ part, by simp [stored], .inl ⟨part, rfl, rfl⟩⟩
  · refine ⟨last, ?_, .inr ⟨first, inner, rfl, hinner⟩⟩
    rw [stored, fileParts_cons_concat, ← List.cons_append, ← List.cons_append,
      ← List.append_assoc, List.getLast?_concat]

/-- Of two versions with one trail none has more parts. If one had, it had just one more, neither
its first nor its last part were a name, and all parts of the other were; but both end alike. -/
theorem length_le_of_stored_eq (h : Squeezed parts) (h' : Squeezed others)
    (heq : stored parts = stored others) : parts.length ≤ others.length := by
  by_contra hlt
  have hlength := congrArg List.length heq
  simp only [stored, List.length_append, length_fileParts h.ne_nil,
    length_fileParts h'.ne_nil] at hlength
  have hfew := h.length_le
  have hmany := List.length_filter_le isName others
  have hall : ∀ part ∈ others, isName part = true :=
    List.length_filter_eq_length_iff.mp (by omega)
  obtain ⟨last, hlast, hends⟩ := getLast?_stored h
  obtain ⟨last', hlast', hends'⟩ := getLast?_stored h'
  rw [heq, hlast', Option.some_inj, String.append_left_inj] at hlast
  subst hlast
  have hname : isName last' = true := by
    rcases hends' with ⟨part, -, rfl⟩ | ⟨first, inner, rfl, -⟩
    · exact isName_prepended part
    · exact hall last' (by simp)
  rcases hends with ⟨part, rfl, -⟩ | ⟨first, inner, rfl, hinner⟩
  · have hpos := List.length_pos_iff.mpr h'.ne_nil
    rw [List.length_singleton] at hlt
    omega
  · have hkept : inner.length + 1 ≤ ((first :: (inner ++ [last'])).filter isName).length := by
      rw [List.filter_cons, List.filter_append, List.filter_eq_self.mpr hinner]
      split <;> simp [hname]
    simp only [List.length_cons, List.length_append, List.length_nil] at hlt hlength
    omega

/-- Two versions with one trail are the same but for parts that lead nowhere. -/
theorem eq_of_stored_eq (h : Squeezed parts) (h' : Squeezed others)
    (heq : stored parts = stored others) : parts = others := by
  have hlength := Nat.le_antisymm (length_le_of_stored_eq h h' heq)
    (length_le_of_stored_eq h' h heq.symm)
  rw [stored, stored] at heq
  refine fileParts_inj h h' (List.append_inj_right' heq ?_)
  rw [length_fileParts h.ne_nil, length_fileParts h'.ne_nil, hlength]

theorem resolve_mirrorPath (root : String) {identity : RuntimeIdentity}
    (h : GoesDown identity.version) : resolve (mirrorPath root identity) =
      (resolve root).descend
        (identity.kind.word :: stored (squeezed (FileTree.parts identity.version))) := by
  rw [mirrorPath_eq, h.1, trail_eq_stored h, resolve_kind]
  simp [here, descend]

theorem kept_of_goesDown {identity : RuntimeIdentity} (h : GoesDown identity.version)
    (root : String) : Kept root identity := by
  refine (kept_everywhere_iff identity).mpr ⟨h.1, .inl ?_⟩ root
  rw [resolve_of_relative h.1, walk_of_not_up h.2]
  rfl

theorem resolve_mirrorPath_eq_iff (root : String) {identity other : RuntimeIdentity}
    (h : GoesDown identity.version) (h' : GoesDown other.version) :
    resolve (mirrorPath root identity) = resolve (mirrorPath root other) ↔
      identity.kind = other.kind ∧
        squeezed (FileTree.parts identity.version) = squeezed (FileTree.parts other.version) := by
  rw [resolve_mirrorPath root h, resolve_mirrorPath root h', descend_inj, List.cons.injEq]
  refine and_congr RuntimeKind.word_injective.eq_iff ⟨fun heq => ?_, congrArg stored⟩
  exact eq_of_stored_eq (squeezed_squeezed (parts_ne_nil _)) (squeezed_squeezed (parts_ne_nil _))
    heq

/-- A version is kept below the directory of its kind in every mirror if it is not absolute and does
not go up from where it starts, or goes up once and comes back by the name of the kind; in a given
mirror just when it comes back by all the names that it went up. Two versions no part of which goes
up share a file just when they are of one kind and have the same parts, except those between the
first and the last that lead nowhere. -/
theorem mirrorPath_kept_iff (identity other : RuntimeIdentity) :
    ((∀ root, Kept root identity) ↔ isAbsolute identity.version = false ∧
      ((resolve identity.version).ups = 0 ∨ (trail identity.version).ups = 1 ∧
        ∃ more, more ≠ [] ∧ (trail identity.version).names = identity.kind.word :: more)) ∧
    (∀ root, Kept root identity ↔
      if isAbsolute identity.version then
        (trail identity.version).Below (resolve (join root identity.kind.word))
      else ComesBack (trail identity.version) (resolve (join root identity.kind.word))) ∧
    (GoesDown identity.version → (∀ root, Kept root identity) ∧
      (GoesDown other.version →
        ∀ root, resolve (mirrorPath root identity) = resolve (mirrorPath root other) ↔
          identity.kind = other.kind ∧ squeezed (FileTree.parts identity.version) =
            squeezed (FileTree.parts other.version))) := by
  refine ⟨kept_everywhere_iff identity, fun root => kept_iff root identity, fun h => ?_⟩
  exact ⟨kept_of_goesDown h, fun h' root => resolve_mirrorPath_eq_iff root h h'⟩

/-- An empty part and a dot make no difference between two other parts. -/
theorem mirrorPath_kept_parts :
    GoesDown "25.0//0.3" ∧ GoesDown "25.0/./0.3" ∧ (∀ root, Kept root ⟨.ol, "25.0//0.3"⟩) ∧
    ∀ root, resolve (mirrorPath root ⟨.ol, "25.0//0.3"⟩) =
      resolve (mirrorPath root ⟨.ol, "25.0/./0.3"⟩) := by
  have hdown : GoesDown "25.0//0.3" ∧ GoesDown "25.0/./0.3" := by decide +kernel
  obtain ⟨-, -, hall⟩ := mirrorPath_kept_iff ⟨.ol, "25.0//0.3"⟩ ⟨.ol, "25.0/./0.3"⟩
  obtain ⟨hkept, hshared⟩ := hall hdown.1
  refine ⟨hdown.1, hdown.2, hkept, fun root => ?_⟩
  exact (hshared hdown.2 root).mpr ⟨rfl, by decide +kernel⟩

/-- An absolute version leaves the mirror, and two kinds share its file; two dots leave the directory
of the kind. -/
theorem mirrorPath_leaves :
    mirrorPath "/srv/catalogs" ⟨.ol, "/etc"⟩ = "/etc/features-/etc.json" ∧
    ¬ Kept "/srv/catalogs" ⟨.ol, "/etc"⟩ ∧
    resolve (mirrorPath "/srv/catalogs" ⟨.ol, "/etc"⟩) =
      resolve (mirrorPath "/srv/catalogs" ⟨.wlp, "/etc"⟩) ∧
    ¬ Kept "/srv/catalogs" ⟨.ol, ".."⟩ := by
  decide +kernel

end Sources

end FeatureCheck
