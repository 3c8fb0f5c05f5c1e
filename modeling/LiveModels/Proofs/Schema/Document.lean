import LiveModels.Proofs.Json.RoundTrip
import LiveModels.Proofs.Result
import LiveModels.Proofs.Schema.RuntimeType
import LiveModels.Schema.Document
import Mathlib.Tactic.SplitIfs

/-!
# Documents are read back

A document is what its text denotes, if its ids have 32 bits and its editors, in the order of their
aliases, give types that can be read from texts. Whatever a text leaves out, repeats or writes in
another form, a document that is read from it is such a document, and so the text that is written
for it is read as the same document again.
-/

namespace LiveModels

/-! ### Values -/

namespace Json

/-- A list is what the array of the trees of its members denotes. -/
theorem asList_map {α : Type} {tree : α → Json} {item : Json → Except Fault α} {xs : List α}
    (h : ∀ x ∈ xs, item (tree x) = .ok x) :
  (Json.array (xs.map tree)).asList item = .ok xs
  := by
  rw [asList, Result.mapM_eq_ok_iff, List.forall₂_map_left_iff]
  apply List.forall₂_same.mpr h

/-- Every member of a list that is read comes from an item of the array. -/
theorem exists_of_mem_asList {α : Type} {item : Json → Except Fault α} {j : Json} {xs : List α}
    (h : j.asList item = .ok xs) {x : α} (hx : x ∈ xs) :
  ∃ j', item j' = .ok x
  := by
  unfold asList at h
  split at h
  case h_1 items =>
    obtain ⟨j', -, hj'⟩ := Result.exists_of_mem_mapM h hx
    exact ⟨j', hj'⟩
  case h_2 => cases h

/-- A field that has been filled in has the value that was read for it. -/
theorem eq_ok_of_fill {α : Type} {place : Option α} {value : Except Fault α} {a : α}
    (h : fill place value = .ok (some a)) :
  value = .ok a
  := by
  unfold fill at h
  split at h
  · cases h
  · cases value with
    | error fault => cases h
    | ok a' =>
      cases h
      rfl

theorem eq_some_of_required {α : Type} {place : Option α} {a : α} (h : required place = .ok a) :
  place = some a
  := by
  cases place with
  | none => cases h
  | some a' =>
    cases h
    rfl

/-- Whether an integer has 32 bits. -/
def IsInt32 (n : Int) : Prop :=
  -0x80000000 ≤ n ∧ n ≤ 0x7fffffff

theorem asInt32_int {n : Int} (h : IsInt32 n) :
  (int n).asInt32 = .ok n
  := if_pos h

theorem isInt32_of_asInt32 {j : Json} {n : Int} (h : j.asInt32 = .ok n) :
  IsInt32 n
  := by
  unfold asInt32 asInteger at h
  split at h
  case h_1 m =>
    split at h
    case isTrue hbounds =>
      cases h
      exact hbounds
    case isFalse => cases h
  case h_2 => cases h

/-- An integer of 32 bits has no more than 64. -/
theorem IsInt32.isPlain {n : Int} (h : IsInt32 n) :
  (int n).IsPlain
  := by
  obtain ⟨hleast, hmost⟩ := h
  constructor
  · omega
  · simp only [Text.largestWord]
    omega

end Json

open Json (IsInt32 IsPlain ItemsPlain MembersPlain itemsPlain_iff)

/-! ### Properties -/

namespace PropertyRecord

/-- A property is what its tree denotes. -/
theorem ofJson_toJson (p : PropertyRecord) :
  ofJson p.toJson = .ok p
  := by
  obtain ⟨aliasName, name, description, editorAlias⟩ := p
  cases description <;> rfl

theorem isPlain_toJson (p : PropertyRecord) :
  p.toJson.IsPlain
  := by
  obtain ⟨aliasName, name, description, editorAlias⟩ := p
  cases description <;> simp [toJson, IsPlain, MembersPlain]

end PropertyRecord

/-! ### Records -/

namespace TypeRecord

/-- Whether the ids of a record have 32 bits. -/
structure IsProper (r : TypeRecord) : Prop where
  id : IsInt32 r.id
  parentId : IsInt32 r.parentId
  compositionIds : ∀ id ∈ r.compositionIds, IsInt32 id

variable {r : TypeRecord}

/-- A record is what its tree denotes. -/
theorem ofJson_toJson (h : r.IsProper) :
  ofJson r.toJson = .ok r
  := by
  obtain ⟨id, aliasName, name, description, parentId, isElement, compositionIds, properties⟩ := r
  have hid := Json.asInt32_int h.id
  have hparent := Json.asInt32_int h.parentId
  have hcompositions : (Json.array (compositionIds.map Json.int)).asList Json.asInt32 =
      .ok compositionIds :=
    Json.asList_map fun id hid => Json.asInt32_int (h.compositionIds id hid)
  have hproperties : (Json.array (properties.map PropertyRecord.toJson)).asList
      PropertyRecord.ofJson = .ok properties :=
    Json.asList_map fun p _ => p.ofJson_toJson
  cases description <;>
    simp [ofJson, toJson, Json.asRecord, Fields.read, Json.asText, Json.asOptionalText, Json.asBool,
      Json.fill, Json.required, Except.map, hid, hparent, hcompositions, hproperties]

theorem isPlain_toJson (h : r.IsProper) :
  r.toJson.IsPlain
  := by
  obtain ⟨id, aliasName, name, description, parentId, isElement, compositionIds, properties⟩ := r
  have hid := h.id.isPlain
  have hparent := h.parentId.isPlain
  have hcompositions : ItemsPlain (compositionIds.map Json.int) := by
    rw [itemsPlain_iff, List.forall_mem_map]
    intro id hid
    apply (h.compositionIds id hid).isPlain
  have hproperties : ItemsPlain (properties.map PropertyRecord.toJson) := by
    rw [itemsPlain_iff, List.forall_mem_map]
    intro p _
    apply p.isPlain_toJson
  cases description <;>
    simp [toJson, IsPlain, MembersPlain, hid, hparent, hcompositions, hproperties]

/-- Whether the ids that have been read so far have 32 bits. -/
structure Fields.AreProper (f : Fields) : Prop where
  id : ∀ id ∈ f.id, IsInt32 id
  parentId : ∀ id ∈ f.parentId, IsInt32 id
  compositionIds : ∀ ids ∈ f.compositionIds, ∀ id ∈ ids, IsInt32 id

theorem Fields.AreProper.read {f f' : Fields} {member : String × Json} (h : f.AreProper)
    (hread : f.read member = .ok f') :
  f'.AreProper
  := by
  unfold Fields.read at hread
  simp only at hread
  split_ifs at hread <;>
    obtain ⟨place, hplace, hread⟩ := Result.bind_eq_ok_iff.mp hread <;>
    cases hread
  -- the fields in the order in which they are told apart, and a member that is skipped at the end
  · refine ⟨?_, h.parentId, h.compositionIds⟩
    rintro id ⟨⟩
    apply Json.isInt32_of_asInt32 (Json.eq_ok_of_fill hplace)
  · exact ⟨h.id, h.parentId, h.compositionIds⟩
  · exact ⟨h.id, h.parentId, h.compositionIds⟩
  · exact ⟨h.id, h.parentId, h.compositionIds⟩
  · refine ⟨h.id, ?_, h.compositionIds⟩
    rintro id ⟨⟩
    apply Json.isInt32_of_asInt32 (Json.eq_ok_of_fill hplace)
  · exact ⟨h.id, h.parentId, h.compositionIds⟩
  · refine ⟨h.id, h.parentId, ?_⟩
    rintro ids ⟨⟩ id hid
    obtain ⟨j, hj⟩ := Json.exists_of_mem_asList (Json.eq_ok_of_fill hplace) hid
    apply Json.isInt32_of_asInt32 hj
  · exact ⟨h.id, h.parentId, h.compositionIds⟩
  · exact h

/-- The ids of a record that is read have 32 bits, those that are left out as well. -/
theorem isProper_of_ofJson {j : Json} (h : ofJson j = .ok r) :
  r.IsProper
  := by
  obtain ⟨members, -, h⟩ := Result.bind_eq_ok_iff.mp h
  obtain ⟨f, hf, h⟩ := Result.bind_eq_ok_iff.mp h
  obtain ⟨id, hid, h⟩ := Result.bind_eq_ok_iff.mp h
  obtain ⟨aliasName, -, h⟩ := Result.bind_eq_ok_iff.mp h
  obtain ⟨name, -, h⟩ := Result.bind_eq_ok_iff.mp h
  cases h
  have hproper : f.AreProper := by
    apply Result.foldlM_induction (p := Fields.AreProper) Fields.AreProper.read _ hf
    exact ⟨nofun, nofun, nofun⟩
  constructor
  · apply hproper.id id (Json.eq_some_of_required hid)
  · cases hparent : f.parentId with
    | none =>
      have hroot : IsInt32 (-1) := ⟨by decide, by decide⟩
      exact hroot
    | some parentId => apply hproper.parentId parentId hparent
  · cases hcompositions : f.compositionIds with
    | none => exact nofun
    | some ids => apply hproper.compositionIds ids hcompositions

end TypeRecord

/-! ### Editors -/

namespace Document

/-- Whether a table of editors is one that can be read: its aliases ascend, and its types can be
read from texts. -/
structure IsTable (editors : List (String × RuntimeType)) : Prop where
  ascending : editors.Pairwise fun e e' => e.1 < e'.1
  read : ∀ editor ∈ editors, editor.2.IsRead

variable {editors : List (String × RuntimeType)} {aliasName : String} {type : RuntimeType}

theorem mem_insertEditor {editor : String × RuntimeType}
    (h : editor ∈ insertEditor aliasName type editors) :
  editor = (aliasName, type) ∨ editor ∈ editors
  := by
  induction editors with
  | nil => exact .inl (List.mem_singleton.mp h)
  | cons first others ih =>
    rw [insertEditor] at h
    split_ifs at h
    · rcases List.mem_cons.mp h with rfl | h
      · exact .inl rfl
      · exact .inr (List.mem_cons_of_mem _ h)
    · exact List.mem_cons.mp h
    · rcases List.mem_cons.mp h with rfl | h
      · exact .inr List.mem_cons_self
      · exact (ih h).imp_right (List.mem_cons_of_mem _)

/-- Setting the type of an editor keeps the aliases ascending. -/
theorem ascending_insertEditor (h : editors.Pairwise fun e e' => e.1 < e'.1) :
  (insertEditor aliasName type editors).Pairwise fun e e' => e.1 < e'.1
  := by
  induction editors with
  | nil => exact List.pairwise_singleton _ _
  | cons first others ih =>
    obtain ⟨hfirst, hothers⟩ := List.pairwise_cons.mp h
    rw [insertEditor]
    split_ifs with heq hlt
    · subst heq
      exact .cons hfirst hothers
    · refine .cons ?_ h
      rintro editor (_ | ⟨_, heditor⟩)
      · exact hlt
      · exact String.lt_trans hlt (hfirst editor heditor)
    · refine .cons ?_ (ih hothers)
      intro editor heditor
      rcases mem_insertEditor heditor with rfl | heditor
      · by_contra hge
        apply heq (String.le_antisymm (String.not_lt.mp hge) (String.not_lt.mp hlt))
      · exact hfirst editor heditor

theorem IsTable.insertEditor (h : IsTable editors) (htype : type.IsRead) :
  IsTable (insertEditor aliasName type editors)
  := by
  refine ⟨ascending_insertEditor h.ascending, ?_⟩
  intro editor heditor
  rcases mem_insertEditor heditor with rfl | heditor
  · exact htype
  · exact h.read editor heditor

theorem isRead_of_typeOfJson {j : Json} (h : typeOfJson j = .ok type) :
  type.IsRead
  := by
  obtain ⟨text, -, h⟩ := Result.bind_eq_ok_iff.mp h
  split at h
  case h_1 t ht =>
    cases h
    exact ⟨text, ht⟩
  case h_2 => cases h

theorem isTable_of_editorsOfJson {j : Json} (h : editorsOfJson j = .ok editors) :
  IsTable editors
  := by
  obtain ⟨members, -, h⟩ := Result.bind_eq_ok_iff.mp h
  apply Result.foldlM_induction (p := IsTable) _ _ h
  · intro table member table' htable hstep
    obtain ⟨type, htype, hstep⟩ := Result.bind_eq_ok_iff.mp hstep
    cases hstep
    apply htable.insertEditor (isRead_of_typeOfJson htype)
  · exact ⟨.nil, nofun⟩

/-- The last editor is set at the end of the table. -/
theorem insertEditor_of_lt (h : ∀ editor ∈ editors, editor.1 < aliasName) :
  insertEditor aliasName type editors = editors ++ [(aliasName, type)]
  := by
  induction editors with
  | nil => rfl
  | cons first others ih =>
    rw [List.forall_mem_cons] at h
    have hne : aliasName ≠ first.1 := fun heq => String.lt_irrefl _ (heq ▸ h.1)
    rw [insertEditor, if_neg hne, if_neg (String.lt_asymm h.1), ih h.2, List.cons_append]

/-- The tree of an editor. -/
def editorToJson (editor : String × RuntimeType) : String × Json :=
  (editor.1, .string editor.2.text)

theorem typeOfJson_text (h : type.IsRead) :
  typeOfJson (.string type.text) = .ok type
  := by
  have htext := RuntimeType.ofText_text h.isLegible
  simp [typeOfJson, Json.asText, htext]

/-- Editors are added to a table one after the other, each at its end. -/
theorem foldlM_insertEditor {table : List (String × RuntimeType)} (h : IsTable (table ++ editors)) :
  (editors.map editorToJson).foldlM
      (fun table m => do return Document.insertEditor m.1 (← typeOfJson m.2) table) table =
    Except.ok (table ++ editors)
  := by
  induction editors generalizing table with
  | nil => simp
  | cons editor others ih =>
    have hlt : ∀ e ∈ table, e.1 < editor.1 := fun e he =>
      (List.pairwise_append.mp h.ascending).2.2 e he editor List.mem_cons_self
    have hread := h.read editor (List.mem_append_right _ List.mem_cons_self)
    rw [List.append_cons] at h ⊢
    simp only [List.map_cons, List.foldlM_cons, editorToJson, typeOfJson_text hread]
    rw [← ih h, ← insertEditor_of_lt hlt]
    rfl

/-- A table of editors is what its tree denotes. -/
theorem editorsOfJson_editorToJson (h : IsTable editors) :
  editorsOfJson (.object (editors.map editorToJson)) = .ok editors
  := by
  rw [← List.nil_append editors] at h
  apply foldlM_insertEditor h

/-! ### Documents -/

/-- Whether a document is one that can be read. -/
structure IsProper (d : Document) : Prop where
  contentTypes : ∀ r ∈ d.contentTypes, r.IsProper
  mediaTypes : ∀ r ∈ d.mediaTypes, r.IsProper
  memberTypes : ∀ r ∈ d.memberTypes, r.IsProper
  editors : IsTable d.editors

variable {d : Document}

theorem toJson_eq :
  d.toJson = .object [
    ("contentTypes", .array (d.contentTypes.map TypeRecord.toJson)),
    ("mediaTypes", .array (d.mediaTypes.map TypeRecord.toJson)),
    ("memberTypes", .array (d.memberTypes.map TypeRecord.toJson)),
    ("editors", .object (d.editors.map editorToJson))]
  := rfl

/-- A document is what its tree denotes. -/
theorem ofJson_toJson (h : d.IsProper) :
  ofJson d.toJson = .ok d
  := by
  have hrecords {records : List TypeRecord} (hproper : ∀ r ∈ records, r.IsProper) :
      (Json.array (records.map TypeRecord.toJson)).asList TypeRecord.ofJson = .ok records :=
    Json.asList_map fun r hr => TypeRecord.ofJson_toJson (hproper r hr)
  have hcontent := hrecords h.contentTypes
  have hmedia := hrecords h.mediaTypes
  have hmember := hrecords h.memberTypes
  have heditors := editorsOfJson_editorToJson h.editors
  simp [ofJson, toJson_eq, Json.asRecord, Fields.read, Json.fill, Except.map, hcontent, hmedia,
    hmember, heditors]

theorem isPlain_toJson (h : d.IsProper) :
  d.toJson.IsPlain
  := by
  have hrecords {records : List TypeRecord} (hproper : ∀ r ∈ records, r.IsProper) :
      ItemsPlain (records.map TypeRecord.toJson) := by
    rw [itemsPlain_iff, List.forall_mem_map]
    intro r hr
    apply TypeRecord.isPlain_toJson (hproper r hr)
  have heditors : MembersPlain (d.editors.map editorToJson) := by
    induction d.editors with
    | nil => trivial
    | cons editor others ih => exact ⟨trivial, ih⟩
  have hcontent := hrecords h.contentTypes
  have hmedia := hrecords h.mediaTypes
  have hmember := hrecords h.memberTypes
  exact ⟨hcontent, hmedia, hmember, heditors, trivial⟩

/-- Whether what has been read so far of a document is part of one that can be read. -/
structure Fields.AreProper (f : Fields) : Prop where
  contentTypes : ∀ records ∈ f.contentTypes, ∀ r ∈ records, r.IsProper
  mediaTypes : ∀ records ∈ f.mediaTypes, ∀ r ∈ records, r.IsProper
  memberTypes : ∀ records ∈ f.memberTypes, ∀ r ∈ records, r.IsProper
  editors : ∀ editors ∈ f.editors, IsTable editors

theorem Fields.AreProper.read {f f' : Fields} {member : String × Json} (h : f.AreProper)
    (hread : f.read member = .ok f') :
  f'.AreProper
  := by
  have hrecords {place place' : Option (List TypeRecord)} {j : Json}
      (hplace : Json.fill place (j.asList TypeRecord.ofJson) = .ok place') :
      ∀ records ∈ place', ∀ r ∈ records, r.IsProper := by
    rintro records ⟨⟩ r hr
    obtain ⟨j', hj'⟩ := Json.exists_of_mem_asList (Json.eq_ok_of_fill hplace) hr
    apply TypeRecord.isProper_of_ofJson hj'
  unfold Fields.read at hread
  simp only at hread
  split_ifs at hread <;>
    obtain ⟨place, hplace, hread⟩ := Result.bind_eq_ok_iff.mp hread <;>
    cases hread
  · exact ⟨hrecords hplace, h.mediaTypes, h.memberTypes, h.editors⟩
  · exact ⟨h.contentTypes, hrecords hplace, h.memberTypes, h.editors⟩
  · exact ⟨h.contentTypes, h.mediaTypes, hrecords hplace, h.editors⟩
  · refine ⟨h.contentTypes, h.mediaTypes, h.memberTypes, ?_⟩
    rintro editors ⟨⟩
    apply isTable_of_editorsOfJson (Json.eq_ok_of_fill hplace)
  · exact h

theorem isProper_of_ofJson {j : Json} (h : ofJson j = .ok d) :
  d.IsProper
  := by
  obtain ⟨members, -, h⟩ := Result.bind_eq_ok_iff.mp h
  obtain ⟨f, hf, h⟩ := Result.bind_eq_ok_iff.mp h
  cases h
  have hproper : f.AreProper := by
    apply Result.foldlM_induction (p := Fields.AreProper) Fields.AreProper.read _ hf
    exact ⟨nofun, nofun, nofun, nofun⟩
  have hrecords {place : Option (List TypeRecord)}
      (hplace : ∀ records ∈ place, ∀ r ∈ records, r.IsProper) :
      ∀ r ∈ place.getD [], r.IsProper := by
    cases place with
    | none => exact nofun
    | some records => exact hplace records rfl
  constructor
  · apply hrecords hproper.contentTypes
  · apply hrecords hproper.mediaTypes
  · apply hrecords hproper.memberTypes
  · cases heditors : f.editors with
    | none => exact ⟨.nil, nofun⟩
    | some editors => exact hproper.editors editors heditors

/-- The document that is read from a text can be read. -/
theorem isProper_of_parse {text : String} (h : parse text = .ok d) :
  d.IsProper
  := by
  unfold parse Json.decode at h
  simp only at h
  split at h
  case h_1 d' hd' =>
    split_ifs at h
    cases h
    exact isProper_of_ofJson hd'
  case h_2 => cases h

/-- The text that is written for a document is read as this document. -/
theorem parse_print (h : d.IsProper) :
  parse d.print = .ok d
  := by
  simp [parse, print, Json.decode, Json.read_compact (isPlain_toJson h), ofJson_toJson h]

/-- A document whose ids have 32 bits and whose editors, in the order of their aliases, give types
that can be read from texts is the document that is read from its text. And whatever the text leaves
out, adds, repeats or writes in another form, a document that is read from a text is the document
that is read from the text that is written for it. -/
theorem survives_json :
  (∀ d : Document, d.IsProper → parse d.print = .ok d) ∧
    ∀ text d, parse text = .ok d → parse d.print = .ok d
  := by
  refine ⟨fun _ h => parse_print h, ?_⟩
  intro text d h
  apply parse_print (isProper_of_parse h)

/-- A document with a text of two lines, a quotation mark, a description and an editor of lists. -/
def quotes : Document where
  contentTypes := [{
    id := 7
    aliasName := "quote"
    name := "Quote \"é\"\n(short)"
    description := some "What somebody said."
    parentId := -1
    isElement := true
    compositionIds := [-0x80000000, 0x7fffffff]
    properties := [{
      aliasName := "related"
      name := "Related"
      description := none
      editorAlias := "picker" }] }]
  editors := [("picker", .list (.model "quote")), ("picture", .named "Image")]

theorem quotes_survives_json :
  quotes.IsProper ∧ parse quotes.print = .ok quotes
  := by
  have hproper : quotes.IsProper := by
    refine ⟨?_, nofun, nofun, ⟨by decide, ?_⟩⟩
    · rw [quotes, List.forall_mem_singleton]
      exact ⟨⟨by decide, by decide⟩, ⟨by decide, by decide⟩, by simp [IsInt32]⟩
    · rw [quotes, List.forall_mem_cons, List.forall_mem_singleton]
      exact ⟨⟨"List<@quote>", by decide +kernel⟩, ⟨"Image", by decide +kernel⟩⟩
  exact ⟨hproper, survives_json.1 quotes hproper⟩

end Document

end LiveModels
