import LiveModels.Proofs.Snapshot.Builder
import LiveModels.Proofs.Text.Order
import Mathlib.Data.List.Sort

/-!
# Outcomes of builds

Which schema documents give a snapshot, what the types of the snapshot are, and which fault is
reported about a document that gives none. A document passes five checks, one after the other; the
first that it does not pass decides about the fault, and a fault about names that are not unique
lists all of them.
-/

namespace LiveModels

open Result (IsFirst isFirst_of_find?)

namespace Document

/-- The records of a document in the order in which they are read, each with the kind under which it
is stored. -/
def stored (d : Document) : List (ItemKind × TypeRecord) :=
  d.contentTypes.map (Prod.mk .content)
    ++ d.mediaTypes.map (Prod.mk .media)
    ++ d.memberTypes.map (Prod.mk .member)

/-- Whether a document has a record with an id. -/
def HasRecord (d : Document) (id : Int) : Prop :=
  ∃ e ∈ d.stored, e.2.id = id

/-! ### Checks of a document -/

/-- Whether a record is not flagged as an element, unless it is content. -/
def FitsKind (e : ItemKind × TypeRecord) : Prop :=
  e.2.isElement = true → e.1 = .content

/-- Whether an id of a composition is neither that of the record nor that of its parent. -/
def IsComposed (r : TypeRecord) (id : Int) : Prop :=
  id ∈ r.compositionIds ∧ id ≠ r.id ∧ id ≠ r.parentId

/-- Whether a record is composed of records only. -/
def Composes (d : Document) (e : ItemKind × TypeRecord) : Prop :=
  ∀ id, IsComposed e.2 id → d.HasRecord id

/-- Whether the editor of a property has a type. -/
def IsTyped (d : Document) (p : PropertyRecord) : Prop :=
  ∃ type, d.editorType? p.editorAlias = some type

/-- The lower-case forms of the aliases of the records. -/
def aliasKeys (d : Document) : List String :=
  d.stored.map fun e => Text.lower e.2.aliasName

/-- The kind of item that a stored record describes. -/
def kindOf (e : ItemKind × TypeRecord) : ItemKind :=
  if e.2.isElement then .element else e.1

/-- What is reported about a record whose alias is not unique. -/
def aliasLabel (e : ItemKind × TypeRecord) : String :=
  e.2.aliasName ++ " (id " ++ Text.signedDecimal e.2.id ++ ", " ++ (kindOf e).label ++ ")"

/-- What is reported about a record whose binding name is not unique. -/
def bindingLabel (policy : NamingPolicy) (e : ItemKind × TypeRecord) : String :=
  e.2.aliasName ++ " -> " ++ policy.bindingName e.2.aliasName e.2.name ++ " (id "
    ++ Text.signedDecimal e.2.id ++ ")"

/-- The binding names of the records. -/
def bindingNames (d : Document) (policy : NamingPolicy) : List String :=
  d.stored.map fun e => policy.bindingName e.2.aliasName e.2.name

end Document

/-- The lower-case forms of the aliases of the properties. -/
def TypeRecord.aliasKeys (r : TypeRecord) : List String :=
  r.properties.map fun p => Text.lower p.aliasName

/-- The binding names of the properties. -/
def TypeRecord.bindingNames (r : TypeRecord) (policy : NamingPolicy) : List String :=
  r.properties.map fun p => policy.bindingName p.aliasName p.name

namespace Document

/-- The properties of a record have types and are unique. -/
structure HasProperties (d : Document) (policy : NamingPolicy) (e : ItemKind × TypeRecord) :
    Prop where
  typed : ∀ p ∈ e.2.properties, d.IsTyped p
  aliases : e.2.aliasKeys.Nodup
  names : (e.2.bindingNames policy).Nodup

/-- A document whose records pass the check of their kinds. -/
structure FitsKinds (d : Document) : Prop where
  kinds : ∀ e ∈ d.stored, FitsKind e

/-- A document that passes the checks up to that of the aliases. -/
structure HasAliases (d : Document) : Prop extends d.FitsKinds where
  aliases : d.aliasKeys.Nodup

/-- A document that passes the checks up to that of the binding names. -/
structure HasNames (d : Document) (policy : NamingPolicy) : Prop extends d.HasAliases where
  names : (d.bindingNames policy).Nodup

/-- A document that passes the checks up to that of the compositions. -/
structure HasLinks (d : Document) (policy : NamingPolicy) : Prop extends d.HasNames policy where
  compositions : ∀ e ∈ d.stored, d.Composes e

/-- A document that passes all checks. -/
structure IsConsistent (d : Document) (policy : NamingPolicy) : Prop extends
    d.HasLinks policy where
  properties : ∀ e ∈ d.stored, d.HasProperties policy e

/-! ### Types of a consistent document -/

/-- What the descriptor of a property says about its record. -/
structure DescribesProperty (d : Document) (policy : NamingPolicy) (r : PropertyRecord)
    (p : PropertyDescriptor) : Prop where
  aliasName : p.aliasName = r.aliasName
  bindingName : p.bindingName = policy.bindingName r.aliasName r.name
  displayName : p.displayName = r.name
  description : p.description = r.description
  type : d.editorType? r.editorAlias = some p.type

/-- What the descriptor of a type says about its record. -/
structure Describes (d : Document) (policy : NamingPolicy) (e : ItemKind × TypeRecord)
    (t : TypeDescriptor) : Prop where
  id : t.id = e.2.id
  aliasName : t.aliasName = e.2.aliasName
  bindingName : t.bindingName = policy.bindingName e.2.aliasName e.2.name
  parentId : t.parentId = e.2.parentId
  displayName : t.displayName = e.2.name
  description : t.description = e.2.description
  kind : t.kind = kindOf e
  base : ∀ id, t.base = some id ↔ id = e.2.parentId ∧ e.2.parentId ≠ e.2.id ∧ d.HasRecord id
  mixins : ∀ id, id ∈ t.mixins ↔ IsComposed e.2 id
  ordered : t.mixins.Pairwise (· < ·)
  properties : List.Forall₂ (d.DescribesProperty policy) e.2.properties t.properties

/-! ### Faults of an inconsistent document -/

/-- The labels of those members of a list that share their key with another member. -/
def sharing {α : Type} (key label : α → String) (xs : List α) : List String :=
  (xs.filter fun x => 1 < (xs.map key).count (key x)).map label

/-- What is wrong with a document: the fault that the first check reports which the document does
not pass. -/
inductive Fault (d : Document) (policy : NamingPolicy) : SchemaError → Prop
  | kind (e : ItemKind × TypeRecord) (first : IsFirst (fun e => ¬ FitsKind e) d.stored e) :
    Fault d policy (.unsupportedItemKind e.2.aliasName (e.1.label ++ " element"))
  | aliasName (passed : d.FitsKinds) (fails : ¬ d.aliasKeys.Nodup) (labels : List String)
      (all : labels.Perm (sharing (fun e => Text.lower e.2.aliasName) aliasLabel d.stored))
      (sorted : labels.Pairwise fun l l' => Text.lower l ≤ Text.lower l') :
    Fault d policy (.duplicateAlias labels)
  | bindingName (passed : d.HasAliases) (fails : ¬ (d.bindingNames policy).Nodup)
      (labels : List String)
      (all : labels.Perm (sharing (fun e => policy.bindingName e.2.aliasName e.2.name)
        (bindingLabel policy) d.stored))
      (sorted : labels.Pairwise (· ≤ ·)) :
    Fault d policy (.duplicateBindingName labels)
  | composition (passed : d.HasNames policy) (e : ItemKind × TypeRecord)
      (first : IsFirst (fun e => ¬ d.Composes e) d.stored e) (id : Int)
      (missing : IsFirst (fun id => IsComposed e.2 id ∧ ¬ d.HasRecord id) e.2.compositionIds id) :
    Fault d policy (.unknownComposition e.2.aliasName id)
  | property (passed : d.HasLinks policy) (e : ItemKind × TypeRecord)
      (first : IsFirst (fun e => ¬ d.HasProperties policy e) d.stored e) (p : PropertyRecord)
      (missing : IsFirst (fun p => ¬ d.IsTyped p) e.2.properties p) :
    Fault d policy (.unresolvedPropertyType e.2.aliasName p.aliasName
      ("no runtime type for editor '" ++ p.editorAlias ++ "'"))
  | properties (passed : d.HasLinks policy) (e : ItemKind × TypeRecord)
      (first : IsFirst (fun e => ¬ d.HasProperties policy e) d.stored e)
      (typed : ∀ p ∈ e.2.properties, d.IsTyped p) (aliases names : List String)
      (allAliases : aliases.Perm (sharing (fun p => Text.lower p.aliasName)
        (fun p => "alias " ++ p.aliasName) e.2.properties))
      (sortedAliases : aliases.Pairwise (· ≤ ·))
      (allNames : names.Perm (sharing (fun p => policy.bindingName p.aliasName p.name)
        (fun p => p.aliasName ++ " -> " ++ policy.bindingName p.aliasName p.name) e.2.properties))
      (sortedNames : names.Pairwise (· ≤ ·)) :
    Fault d policy (.duplicateProperty e.2.aliasName (aliases ++ names))

end Document

namespace Snapshot

variable {d : Document} {policy : NamingPolicy}

/-! ### Unique names -/

/-- The entries that share their keys are the members that share theirs. -/
theorem shared_map {α : Type} (key label : α → String) (xs : List α) :
  shared (xs.map fun x => (key x, label x)) = Document.sharing key label xs
  := by
  rw [shared, Document.sharing, List.filter_map, List.map_map]
  have hcount : ∀ x, (xs.map fun x => (key x, label x)).countP (fun other => other.1 == key x) =
      (xs.map key).count (key x) := by
    intro x
    rw [List.count, List.countP_map, List.countP_map]
    rfl
  simp only [Function.comp_def, hcount]

/-- No labels are shared if and only if the keys are different. -/
theorem sharing_eq_nil_iff {α : Type} {key label : α → String} {xs : List α} :
  Document.sharing key label xs = [] ↔ (xs.map key).Nodup
  := by
  rw [← shared_map, shared_eq_nil_iff, List.map_map]
  rfl

theorem pairwise_sortedTexts (texts : List String) :
  (sortedTexts texts).Pairwise (· ≤ ·)
  := Text.pairwise_le_mergeSort id texts

theorem pairwise_sortedByCase (texts : List String) :
  (texts.mergeSort fun a b => decide (Text.lower a ≤ Text.lower b)).Pairwise
    fun a b => Text.lower a ≤ Text.lower b
  := Text.pairwise_le_mergeSort Text.lower texts

/-! ### Entries -/

/-- The entry of a record that fits its kind. -/
def entryOf (e : ItemKind × TypeRecord) : Entry where
  stored := e.1
  kind := Document.kindOf e
  record := e.2

/-- Elements are not stored as such. -/
theorem stored_ne_element {e : ItemKind × TypeRecord} (h : e ∈ d.stored) :
  e.1 ≠ .element
  := by
  simp only [Document.stored, List.mem_append, List.mem_map] at h
  rcases h with (⟨r, -, rfl⟩ | ⟨r, -, rfl⟩) | ⟨r, -, rfl⟩ <;> nofun

/-- A record that is stored becomes its entry if it fits its kind; else that is reported. -/
theorem itemKind_eq {e : ItemKind × TypeRecord} (h : e.1 ≠ .element) :
  itemKind e.1 e.2 =
    if e.2.isElement = true ∧ e.1 ≠ .content then
      .error (.unsupportedItemKind e.2.aliasName (e.1.label ++ " element"))
    else .ok (entryOf e).kind
  := by
  obtain ⟨kind, r⟩ := e
  unfold itemKind entryOf Document.kindOf
  cases helement : r.isElement <;> cases kind <;> simp_all

/-- Reading one record after the other. -/
theorem entries_view (d : Document) :
  entries d.view = d.stored.mapM fun e => do return ⟨e.1, ← itemKind e.1 e.2, e.2⟩
  := by
  simp only [entries, ItemKind.stored, entriesOf, Document.view, Document.records, Document.stored,
    List.mapM_cons, List.mapM_nil, List.mapM_append, List.mapM_map, Function.comp_def,
    Result.ok_bind, bind_assoc, pure_bind, List.flatten_cons, List.flatten_nil, List.append_nil,
    List.append_assoc]

/-- Records that fit their kinds become entries. -/
theorem entries_of_fitsKinds (h : d.FitsKinds) :
  entries d.view = .ok (d.stored.map entryOf)
  := by
  rw [entries_view, Result.mapM_eq_ok_iff, List.forall₂_map_right_iff, List.forall₂_same]
  intro e he
  rw [itemKind_eq (stored_ne_element he), if_neg]
  · rfl
  · rintro ⟨helement, hcontent⟩
    apply hcontent (h.kinds e he helement)

/-- If records do not become entries, then one of them does not fit its kind. -/
theorem exists_of_entries_eq_error {err : SchemaError} (h : entries d.view = .error err) :
  ∃ e, err = .unsupportedItemKind e.2.aliasName (e.1.label ++ " element") ∧
    IsFirst (fun e => ¬ Document.FitsKind e) d.stored e
  := by
  rw [entries_view] at h
  obtain ⟨e, he, hfirst⟩ := Result.exists_of_mapM_eq_error h
  have herror : ∀ e' ∈ d.stored, ∀ err', (do return ⟨e'.1, ← itemKind e'.1 e'.2, e'.2⟩ :
      Except SchemaError Entry) = .error err' ↔ ¬ Document.FitsKind e' ∧
        err' = .unsupportedItemKind e'.2.aliasName (e'.1.label ++ " element") := by
    intro e' he' err'
    rw [itemKind_eq (stored_ne_element he'), Document.FitsKind, Classical.not_imp]
    split
    case isTrue hfails =>
      simp [hfails, eq_comm]
    case isFalse hfits =>
      simp [hfits]
  obtain ⟨-, herr⟩ := (herror e hfirst.mem err).mp he
  use e, herr
  apply hfirst.congr
  intro e' he'
  simp only [herror e' he', exists_eq_right]

/-- If records become entries, then all of them fit their kinds. -/
theorem fitsKinds_of_entries {es : List Entry} (h : entries d.view = .ok es) :
  d.FitsKinds
  := by
  rw [entries_view] at h
  constructor
  intro e he helement
  obtain ⟨entry, -, hentry⟩ := Result.exists_of_mapM_of_mem h he
  by_contra hcontent
  rw [itemKind_eq (stored_ne_element he), if_pos ⟨helement, hcontent⟩] at hentry
  cases hentry

/-! ### Records -/

/-- The types that records describe, apart from their links and properties. -/
def described (d : Document) (policy : NamingPolicy) : List TypeDescriptor :=
  (d.stored.map entryOf).map (describe policy)

theorem described_eq (d : Document) (policy : NamingPolicy) :
  described d policy = d.stored.map fun e => describe policy (entryOf e)
  := by
  rw [described, List.map_map]
  rfl

theorem any_described_iff {id : Int} :
  (described d policy).any (fun t => t.id == id) = true ↔ d.HasRecord id
  := by
  rw [described_eq, List.any_map, List.any_eq_true, Document.HasRecord]
  simp only [Function.comp_apply, beq_iff_eq]
  rfl

theorem aliasCollisions_perm (d : Document) (policy : NamingPolicy) :
  (aliasCollisions (described d policy)).Perm
    (Document.sharing (fun e => Text.lower e.2.aliasName) Document.aliasLabel d.stored)
  := by
  apply (List.mergeSort_perm _ _).trans
  rw [← shared_map, described_eq, List.map_map]
  rfl

theorem bindingCollisions_perm (d : Document) (policy : NamingPolicy) :
  (bindingCollisions (described d policy)).Perm
    (Document.sharing (fun e => policy.bindingName e.2.aliasName e.2.name)
      (Document.bindingLabel policy) d.stored)
  := by
  apply (List.mergeSort_perm _ _).trans
  rw [← shared_map, described_eq, List.map_map]
  rfl

theorem mem_composed_iff {r : TypeRecord} {id : Int} :
  id ∈ composed r ↔ Document.IsComposed r id
  := by
  rw [composed, List.mem_filter, decide_eq_true_eq, Document.IsComposed, and_comm (a := id ≠ r.id)]

/-- A record passes the check of its compositions if and only if it is composed of records. -/
theorem unknownComposition?_eq_none_iff (policy : NamingPolicy) {e : ItemKind × TypeRecord} :
  unknownComposition? (described d policy) e.2 = none ↔ d.Composes e
  := by
  simp only [unknownComposition?, List.find?_eq_none, mem_composed_iff, Bool.not_eq_true',
    Bool.not_eq_false, any_described_iff, Document.Composes]

theorem isFirst_of_unknownComposition? {e : ItemKind × TypeRecord} {id : Int}
    (h : unknownComposition? (described d policy) e.2 = some id) :
  IsFirst (fun id => Document.IsComposed e.2 id ∧ ¬ d.HasRecord id) e.2.compositionIds id
  := by
  rw [unknownComposition?, composed, List.find?_filter] at h
  apply (isFirst_of_find? h).congr
  intro id' hid'
  rw [decide_eq_true_eq, decide_eq_true_eq, Bool.not_eq_true', ← Bool.not_eq_true, any_described_iff,
    Document.IsComposed, and_comm (a := id' ≠ e.2.id), and_iff_right hid']

/-! ### Properties -/

theorem describeProperty_view (e : Entry) (r : PropertyRecord) :
  describeProperty d.view policy e r =
    match d.editorType? r.editorAlias with
    | some type => .ok
        ⟨r.aliasName, policy.bindingName r.aliasName r.name, r.name, r.description, type⟩
    | none => .error (.unresolvedPropertyType e.record.aliasName r.aliasName
        ("no runtime type for editor '" ++ r.editorAlias ++ "'"))
  := by
  simp only [describeProperty, Document.view]
  cases d.editorType? r.editorAlias <;> rfl

theorem describesProperty_of_eq_ok {e : Entry} {r : PropertyRecord} {p : PropertyDescriptor}
    (h : describeProperty d.view policy e r = .ok p) :
  d.DescribesProperty policy r p
  := by
  rw [describeProperty_view] at h
  split at h
  case h_1 type htype =>
    cases h
    exact ⟨rfl, rfl, rfl, rfl, htype⟩
  case h_2 => cases h

theorem describeProperty_eq_error_iff {e : Entry} {r : PropertyRecord} {err : SchemaError} :
  describeProperty d.view policy e r = .error err ↔ ¬ d.IsTyped r ∧
    err = .unresolvedPropertyType e.record.aliasName r.aliasName
      ("no runtime type for editor '" ++ r.editorAlias ++ "'")
  := by
  rw [describeProperty_view, Document.IsTyped]
  cases d.editorType? r.editorAlias with
  | none => simp [eq_comm]
  | some type => simp

/-- What is made of the members of two lists alike is the same for both lists. -/
theorem map_eq_of_forall₂ {α β γ : Type} {f : α → γ} {g : β → γ} {R : α → β → Prop} {xs : List α}
    {ys : List β} (h : List.Forall₂ R xs ys) (hR : ∀ x y, R x y → f x = g y) :
  xs.map f = ys.map g
  := by
  rw [← List.forall₂_eq_eq_eq, List.forall₂_map_left_iff, List.forall₂_map_right_iff]
  apply h.imp hR

variable {rs : List PropertyRecord} {ps : List PropertyDescriptor}

theorem forall₂_describesProperty {e : Entry}
    (h : rs.mapM (describeProperty d.view policy e) = .ok ps) :
  List.Forall₂ (d.DescribesProperty policy) rs ps
  := by
  apply (Result.mapM_eq_ok_iff.mp h).imp
  intro r p hp
  apply describesProperty_of_eq_ok hp

theorem shared_map_eq (h : List.Forall₂ (d.DescribesProperty policy) rs ps)
    {entry : PropertyDescriptor → String × String} {key label : PropertyRecord → String}
    (hentry : ∀ r p, d.DescribesProperty policy r p → (key r, label r) = entry p) :
  shared (ps.map entry) = Document.sharing key label rs
  := by
  rw [← shared_map, map_eq_of_forall₂ h hentry]

theorem sharing_aliases_eq (h : List.Forall₂ (d.DescribesProperty policy) rs ps) :
  shared (ps.map fun p => (Text.lower p.aliasName, "alias " ++ p.aliasName)) =
    Document.sharing (fun r => Text.lower r.aliasName) (fun r => "alias " ++ r.aliasName) rs
  := by
  apply shared_map_eq h
  intro r p hp
  rw [hp.aliasName]

theorem sharing_names_eq (h : List.Forall₂ (d.DescribesProperty policy) rs ps) :
  shared (ps.map fun p => (p.bindingName, p.aliasName ++ " -> " ++ p.bindingName)) =
    Document.sharing (fun r => policy.bindingName r.aliasName r.name)
      (fun r => r.aliasName ++ " -> " ++ policy.bindingName r.aliasName r.name) rs
  := by
  apply shared_map_eq h
  intro r p hp
  rw [hp.aliasName, hp.bindingName]

/-- Described properties do not collide if and only if their names are unique. -/
theorem propertyCollisions_eq_nil_iff (h : List.Forall₂ (d.DescribesProperty policy) rs ps) :
  propertyCollisions ps = [] ↔ (rs.map fun r => Text.lower r.aliasName).Nodup ∧
    (rs.map fun r => policy.bindingName r.aliasName r.name).Nodup
  := by
  rw [propertyCollisions, List.append_eq_nil_iff, sharing_aliases_eq h, sharing_names_eq h,
    sortedTexts, sortedTexts, eq_nil_iff_of_perm (List.mergeSort_perm _ _),
    eq_nil_iff_of_perm (List.mergeSort_perm _ _), sharing_eq_nil_iff, sharing_eq_nil_iff]

/-- The properties of a record that are described are typed and unique. -/
theorem hasProperties_of_eq_ok {e : ItemKind × TypeRecord}
    (h : describeProperties d.view policy (entryOf e) = .ok ps) :
  d.HasProperties policy e ∧ List.Forall₂ (d.DescribesProperty policy) e.2.properties ps
  := by
  obtain ⟨ps', hps, h⟩ := Result.bind_eq_ok_iff.mp h
  have hdescribes := forall₂_describesProperty hps
  split at h
  case h_1 hcollisions =>
    cases h
    refine ⟨?_, hdescribes⟩
    obtain ⟨haliases, hnames⟩ := (propertyCollisions_eq_nil_iff hdescribes).mp hcollisions
    refine ⟨?_, haliases, hnames⟩
    intro r hr
    obtain ⟨p, -, hp⟩ := Result.exists_of_mapM_of_mem hps hr
    exact ⟨p.type, (describesProperty_of_eq_ok hp).type⟩
  case h_2 => cases h

/-- The properties of a record that are not described have no type or are not unique. -/
theorem not_hasProperties_of_eq_error {e : ItemKind × TypeRecord} {err : SchemaError}
    (h : describeProperties d.view policy (entryOf e) = .error err) :
  ¬ d.HasProperties policy e
  := by
  intro hproperties
  rcases Result.bind_eq_error_iff.mp h with hps | ⟨ps, hps, h⟩
  · obtain ⟨r, hr, hfirst⟩ := Result.exists_of_mapM_eq_error hps
    apply (describeProperty_eq_error_iff.mp hr).1 (hproperties.typed r hfirst.mem)
  · have hdescribes := forall₂_describesProperty hps
    rw [(propertyCollisions_eq_nil_iff hdescribes).mpr ⟨hproperties.aliases, hproperties.names⟩] at h
    cases h

/-- What is reported about properties that are not described is the fault of their record, if it is
the first record with such properties. -/
theorem fault_of_eq_error (hpassed : d.HasLinks policy) {e : ItemKind × TypeRecord}
    (hfirst : IsFirst (fun e => ¬ d.HasProperties policy e) d.stored e) {err : SchemaError}
    (h : describeProperties d.view policy (entryOf e) = .error err) :
  d.Fault policy err
  := by
  rcases Result.bind_eq_error_iff.mp h with hps | ⟨ps, hps, h⟩
  · obtain ⟨r, hr, hmissing⟩ := Result.exists_of_mapM_eq_error hps
    obtain ⟨-, rfl⟩ := describeProperty_eq_error_iff.mp hr
    apply Document.Fault.property hpassed e hfirst r
    apply hmissing.congr
    intro r' _
    simp only [describeProperty_eq_error_iff, exists_eq_right]
  · have hdescribes := forall₂_describesProperty hps
    split at h
    · cases h
    · cases h
      rw [propertyCollisions, sharing_aliases_eq hdescribes, sharing_names_eq hdescribes]
      apply Document.Fault.properties hpassed e hfirst
      · intro r hr
        obtain ⟨p, -, hp⟩ := Result.exists_of_mapM_of_mem hps hr
        exact ⟨p.type, (describesProperty_of_eq_ok hp).type⟩
      · apply List.mergeSort_perm
      · apply pairwise_sortedTexts
      · apply List.mergeSort_perm
      · apply pairwise_sortedTexts

/-! ### Links -/

theorem mem_insertAscending {n m : Int} {ns : List Int} :
  m ∈ insertAscending n ns ↔ m = n ∨ m ∈ ns
  := by
  induction ns with
  | nil => rw [insertAscending, List.mem_singleton, List.mem_nil_iff, or_false]
  | cons k rest ih =>
    rw [insertAscending]
    split
    case isTrue heq => rw [heq, List.mem_cons, or_self_left]
    case isFalse =>
      split
      · rw [List.mem_cons]
      · rw [List.mem_cons, ih, List.mem_cons, or_left_comm]

theorem pairwise_insertAscending (n : Int) {ns : List Int} (h : ns.Pairwise (· < ·)) :
  (insertAscending n ns).Pairwise (· < ·)
  := by
  induction ns with
  | nil => apply List.pairwise_singleton
  | cons k rest ih =>
    obtain ⟨hk, hrest⟩ := List.pairwise_cons.mp h
    rw [insertAscending]
    split
    · apply h
    · split
      case isTrue hlt =>
        apply List.pairwise_cons.mpr ⟨_, h⟩
        apply List.forall_mem_cons.mpr ⟨hlt, _⟩
        intro m hm
        apply Int.lt_trans hlt (hk m hm)
      case isFalse hne hlt =>
        apply List.pairwise_cons.mpr ⟨_, ih hrest⟩
        intro m hm
        rcases mem_insertAscending.mp hm with rfl | hm
        · omega
        · apply hk m hm

/-- An ascending list has the members from which it was made. -/
theorem ascending_spec (ns : List Int) :
  (ascending ns).Pairwise (· < ·) ∧ ∀ m, m ∈ ascending ns ↔ m ∈ ns
  := by
  have hfold : ∀ (ns acc : List Int), acc.Pairwise (· < ·) →
      (ns.foldl (fun acc n => insertAscending n acc) acc).Pairwise (· < ·) ∧
      ∀ m, m ∈ ns.foldl (fun acc n => insertAscending n acc) acc ↔ m ∈ acc ∨ m ∈ ns := by
    intro ns
    induction ns with
    | nil =>
      intro acc hacc
      exact ⟨hacc, fun m => by simp⟩
    | cons n rest ih =>
      intro acc hacc
      obtain ⟨hordered, hmem⟩ := ih _ (pairwise_insertAscending n hacc)
      refine ⟨hordered, ?_⟩
      intro m
      rw [List.foldl_cons, hmem m, mem_insertAscending, List.mem_cons, or_assoc, or_left_comm]
  obtain ⟨hordered, hmem⟩ := hfold ns [] List.Pairwise.nil
  refine ⟨hordered, ?_⟩
  intro m
  rw [ascending, hmem m, List.mem_nil_iff, false_or]

/-- The type that a record describes, apart from its mark and its properties. -/
def linkedOf (d : Document) (policy : NamingPolicy) (e : ItemKind × TypeRecord) : TypeDescriptor :=
  let t := describe policy (entryOf e)
  { t with base := baseIn (described d policy) t, mixins := ascending (composed e.2) }

theorem base_linkedOf_iff {e : ItemKind × TypeRecord} {id : Int} :
  (linkedOf d policy e).base = some id ↔
    id = e.2.parentId ∧ e.2.parentId ≠ e.2.id ∧ d.HasRecord id
  := by
  have hbase : (linkedOf d policy e).base =
      if e.2.parentId ≠ e.2.id ∧ (described d policy).any (fun t => t.id == e.2.parentId) then
        some e.2.parentId
      else none := rfl
  rw [hbase]
  split
  case isTrue h =>
    rw [any_described_iff] at h
    rw [Option.some.injEq]
    constructor
    · rintro rfl
      exact ⟨rfl, h⟩
    · rintro ⟨rfl, -⟩
      rfl
  case isFalse h =>
    rw [any_described_iff] at h
    constructor
    · intro hnone
      cases hnone
    · rintro ⟨rfl, hlink⟩
      exact absurd hlink h

/-- Marking mixins changes nothing but marks. -/
theorem forall₂_markMixins (ids : List Int) (ts : List TypeDescriptor) :
  List.Forall₂ (fun t t' => ∃ marked, t' = { t with isMixin := marked }) ts (markMixins ids ts)
  := by
  induction ts with
  | nil => apply List.Forall₂.nil
  | cons t rest ih =>
    rw [markMixins]
    apply List.Forall₂.cons _ ih
    split
    · exact ⟨true, rfl⟩
    · exact ⟨t.isMixin, rfl⟩

theorem forall₂_zipWith {α β γ δ : Type} {R : α → β → Prop} {S : α → γ → Prop} {T : α → δ → Prop}
    {f : β → γ → δ} (hT : ∀ a b c, R a b → S a c → T a (f b c)) {as : List α} {bs : List β}
    {cs : List γ} (hR : List.Forall₂ R as bs) (hS : List.Forall₂ S as cs) :
  List.Forall₂ T as (List.zipWith f bs cs)
  := by
  induction hR generalizing cs with
  | nil =>
    cases hS
    apply List.Forall₂.nil
  | cons hab _ ih =>
    cases hS with
    | cons hac hrest => exact .cons (hT _ _ _ hab hac) (ih hrest)

/-- A linked type describes its record once it has got its properties. -/
theorem describes_linkedOf (e : ItemKind × TypeRecord) (marked : Bool)
    {ps : List PropertyDescriptor}
    (h : List.Forall₂ (d.DescribesProperty policy) e.2.properties ps) :
  d.Describes policy e { linkedOf d policy e with isMixin := marked, properties := ps }
  where
  id := rfl
  aliasName := rfl
  bindingName := rfl
  parentId := rfl
  displayName := rfl
  description := rfl
  kind := rfl
  base _ := base_linkedOf_iff
  mixins id := ((ascending_spec _).2 id).trans mem_composed_iff
  ordered := (ascending_spec _).1
  properties := h

/-! ### Builds -/

/-- The check of the compositions of a record. -/
def checkLinks (d : Document) (policy : NamingPolicy) (e : ItemKind × TypeRecord) :
    Except SchemaError Unit :=
  match unknownComposition? (described d policy) e.2 with
  | some id => .error (.unknownComposition e.2.aliasName id)
  | none => .ok ()

/-- The linked types of a document with their marks. -/
def marked (d : Document) (policy : NamingPolicy) : List TypeDescriptor :=
  markMixins
    (mixinIds ⟨d.stored.map (linkedOf d policy)⟩ (d.stored.flatMap fun e => composed e.2))
    (d.stored.map (linkedOf d policy))

/-- What is left of a build if the aliases and the binding names are unique. -/
def complete (d : Document) (policy : NamingPolicy) : Except SchemaError Snapshot := do
  d.stored.forM (checkLinks d policy)
  let properties ← d.stored.mapM fun e => describeProperties d.view policy (entryOf e)
  return ⟨List.zipWith (fun t ps => { t with properties := ps }) (marked d policy) properties⟩

/-- How a document whose records fit their kinds is built. -/
theorem ofView_eq (h : d.FitsKinds) :
  ofView d.view policy =
    if ¬ d.aliasKeys.Nodup then .error (.duplicateAlias (aliasCollisions (described d policy)))
    else if ¬ (d.bindingNames policy).Nodup then
      .error (.duplicateBindingName (bindingCollisions (described d policy)))
    else complete d policy
  := by
  have haliases : (aliasCollisions (described d policy)).isEmpty = true ↔ d.aliasKeys.Nodup := by
    rw [List.isEmpty_iff, aliasCollisions_eq_nil_iff, described_eq, List.map_map]
    rfl
  have hnames : (bindingCollisions (described d policy)).isEmpty = true ↔
      (d.bindingNames policy).Nodup := by
    rw [List.isEmpty_iff, bindingCollisions_eq_nil_iff, described_eq, List.map_map]
    rfl
  have hdescribed : (d.stored.map entryOf).map (describe policy) = described d policy := rfl
  have hchecks : d.stored.forM (checkLinks d policy) = (d.stored.map entryOf).forM fun e =>
      match unknownComposition? (described d policy) e.record with
      | some id => throw (.unknownComposition e.record.aliasName id)
      | none => return () := by
    rw [Result.forM_eq_mapM, Result.forM_eq_mapM, List.mapM_map]
    rfl
  rw [ofView, entries_of_fitsKinds h, Result.ok_bind]
  simp only [hdescribed]
  by_cases hunique : d.aliasKeys.Nodup
  · rw [if_pos (haliases.mpr hunique), if_neg (not_not_intro hunique)]
    by_cases hbound : (d.bindingNames policy).Nodup
    · rw [if_pos (hnames.mpr hbound), if_neg (not_not_intro hbound), complete, hchecks,
        List.mapM_map, List.map_map, List.flatMap_map]
      rfl
    · rw [if_neg (mt hnames.mp hbound), if_pos hbound]
      rfl
  · rw [if_neg (mt haliases.mp hunique), if_pos hunique]
    rfl

theorem checkLinks_eq_ok_iff (policy : NamingPolicy) {e : ItemKind × TypeRecord} :
  checkLinks d policy e = .ok () ↔ d.Composes e
  := by
  rw [← unknownComposition?_eq_none_iff policy, checkLinks]
  split
  case h_1 id hid => simp [hid]
  case h_2 hnone => simp [hnone]

/-- A document that is completed is consistent, and its types describe its records. -/
theorem isConsistent_of_complete (hnames : d.HasNames policy) {s : Snapshot}
    (h : complete d policy = .ok s) :
  d.IsConsistent policy ∧ List.Forall₂ (d.Describes policy) d.stored s.types
  := by
  obtain ⟨⟨⟩, hchecks, h⟩ := Result.bind_eq_ok_iff.mp h
  obtain ⟨properties, hproperties, h⟩ := Result.bind_eq_ok_iff.mp h
  cases h
  constructor
  · refine ⟨⟨hnames, ?_⟩, ?_⟩
    · intro e he
      apply (checkLinks_eq_ok_iff policy).mp (Result.eq_ok_of_forM hchecks he)
    · intro e he
      obtain ⟨ps, -, hps⟩ := Result.exists_of_mapM_of_mem hproperties he
      apply (hasProperties_of_eq_ok hps).1
  · have hmarked : List.Forall₂
        (fun e t => ∃ isMixin, t = { linkedOf d policy e with isMixin := isMixin }) d.stored
        (marked d policy) :=
      List.forall₂_map_left_iff.mp (forall₂_markMixins _ _)
    apply forall₂_zipWith _ hmarked (Result.mapM_eq_ok_iff.mp hproperties)
    rintro e t ps ⟨isMixin, rfl⟩ hps
    apply describes_linkedOf e isMixin (hasProperties_of_eq_ok hps).2

/-- What is reported about a document that is not completed is its fault. -/
theorem fault_of_complete (hnames : d.HasNames policy) {err : SchemaError}
    (h : complete d policy = .error err) :
  d.Fault policy err
  := by
  rcases Result.bind_eq_error_iff.mp h with hchecks | ⟨⟨⟩, hchecks, h⟩
  · obtain ⟨e, he, hfirst⟩ := Result.exists_of_forM_eq_error hchecks
    rw [checkLinks] at he
    split at he
    case h_1 id hid =>
      cases he
      apply Document.Fault.composition hnames e _ id (isFirst_of_unknownComposition? hid)
      apply hfirst.congr
      intro e' _
      rw [← checkLinks_eq_ok_iff policy]
      cases checkLinks d policy e' <;> simp
    case h_2 => cases he
  · have hlinks : d.HasLinks policy := by
      refine ⟨hnames, ?_⟩
      intro e he
      apply (checkLinks_eq_ok_iff policy).mp (Result.eq_ok_of_forM hchecks he)
    rcases Result.bind_eq_error_iff.mp h with hproperties | ⟨properties, -, h⟩
    · obtain ⟨e, he, hfirst⟩ := Result.exists_of_mapM_eq_error hproperties
      apply fault_of_eq_error hlinks _ he
      apply hfirst.congr
      intro e' _
      constructor
      · rintro ⟨err', herr'⟩
        apply not_hasProperties_of_eq_error herr'
      · intro hfails
        cases hps : describeProperties d.view policy (entryOf e') with
        | error err' => exact ⟨err', rfl⟩
        | ok ps => exact absurd (hasProperties_of_eq_ok hps).1 hfails
    · cases h

/-- A snapshot comes of a consistent document only, and its types describe the records. -/
theorem isConsistent_of_ofView {s : Snapshot} (h : ofView d.view policy = .ok s) :
  d.IsConsistent policy ∧ List.Forall₂ (d.Describes policy) d.stored s.types
  := by
  obtain ⟨es, hes, -⟩ := Result.bind_eq_ok_iff.mp h
  have hkinds := fitsKinds_of_entries hes
  rw [ofView_eq hkinds] at h
  split at h
  · cases h
  case isFalse hunique =>
    split at h
    · cases h
    case isFalse hbound =>
      apply isConsistent_of_complete ⟨⟨hkinds, not_not.mp hunique⟩, not_not.mp hbound⟩ h

/-- The first check that a document does not pass decides about what is reported. -/
theorem fault_of_ofView {err : SchemaError} (h : ofView d.view policy = .error err) :
  d.Fault policy err
  := by
  cases hentries : entries d.view with
  | error err' =>
    rw [ofView, hentries] at h
    cases h
    obtain ⟨e, rfl, hfirst⟩ := exists_of_entries_eq_error hentries
    apply Document.Fault.kind e hfirst
  | ok es =>
    have hkinds := fitsKinds_of_entries hentries
    rw [ofView_eq hkinds] at h
    split at h
    case isTrue hshared =>
      cases h
      exact .aliasName hkinds hshared _ (aliasCollisions_perm d policy) (pairwise_sortedByCase _)
    case isFalse hunique =>
      have haliases : d.HasAliases := ⟨hkinds, not_not.mp hunique⟩
      split at h
      case isTrue hshared =>
        cases h
        exact .bindingName haliases hshared _ (bindingCollisions_perm d policy)
          (pairwise_sortedTexts _)
      case isFalse hbound =>
        apply fault_of_complete ⟨haliases, not_not.mp hbound⟩ h

end Snapshot

/-- A document that has a fault is not consistent. -/
theorem Document.Fault.not_isConsistent {d : Document} {policy : NamingPolicy} {err : SchemaError}
    (h : d.Fault policy err) :
  ¬ d.IsConsistent policy
  := by
  intro hconsistent
  cases h with
  | kind e first => apply first.1 (hconsistent.kinds e first.mem)
  | aliasName _ fails => apply fails hconsistent.aliases
  | bindingName _ fails => apply fails hconsistent.names
  | composition _ e first => apply first.1 (hconsistent.compositions e first.mem)
  | property _ e first => apply first.1 (hconsistent.properties e first.mem)
  | properties _ e first => apply first.1 (hconsistent.properties e first.mem)

/-- A consistent document gives a snapshot whose types describe the records. -/
theorem Document.IsConsistent.exists_snapshot {d : Document} {policy : NamingPolicy}
    (h : d.IsConsistent policy) :
  ∃ s, Snapshot.ofView d.view policy = .ok s ∧ List.Forall₂ (d.Describes policy) d.stored s.types
  := by
  cases hbuild : Snapshot.ofView d.view policy with
  | ok s => exact ⟨s, rfl, (Snapshot.isConsistent_of_ofView hbuild).2⟩
  | error err => exact absurd h (Snapshot.fault_of_ofView hbuild).not_isConsistent

/-- A build of a document gives a snapshot if and only if the document is consistent. The types of
the snapshot describe the records one by one, and what is reported otherwise is the fault of the
document. -/
theorem Snapshot.build_outcome {tree : Tree} {store : Store} {d : Document}
    (h : store.buildView tree = .ok d.view) (policy : NamingPolicy) :
  ((∃ s, build tree store policy = .ok s) ↔ d.IsConsistent policy) ∧
    (∀ s, build tree store policy = .ok s → List.Forall₂ (d.Describes policy) d.stored s.types) ∧
    ∀ err, build tree store policy = .error err → d.Fault policy err
  := by
  rw [build, h, Result.ok_bind]
  refine ⟨⟨?_, ?_⟩, ?_, ?_⟩
  · rintro ⟨s, hs⟩
    apply (isConsistent_of_ofView hs).1
  · intro hconsistent
    obtain ⟨s, hs, -⟩ := hconsistent.exists_snapshot
    use s
  · intro s hs
    apply (isConsistent_of_ofView hs).2
  · intro err herr
    apply fault_of_ofView herr

namespace Document

/-- A document with a page that is composed of an element. -/
def journal : Document where
  contentTypes := [
    ⟨1, "page", "Page", none, -1, false, [2], [⟨"title", "Title", none, "Textbox"⟩]⟩,
    ⟨2, "seo", "Seo", none, -1, true, [], []⟩]
  editors := [("Textbox", .named "String")]

theorem isConsistent_journal :
  journal.IsConsistent .rawAlias
  := by
  have hstored : ∀ {p : ItemKind × TypeRecord → Prop},
      (∀ r ∈ journal.contentTypes, p (.content, r)) → ∀ e ∈ journal.stored, p e := by
    intro p hp e he
    simp only [stored, List.mem_append, List.mem_map] at he
    rcases he with (⟨r, hr, rfl⟩ | ⟨r, hr, -⟩) | ⟨r, hr, -⟩
    · apply hp r hr
    · cases hr
    · cases hr
  refine ⟨⟨⟨⟨⟨?_⟩, ?_⟩, ?_⟩, ?_⟩, ?_⟩
  · apply hstored
    intro r _ _
    rfl
  · decide +kernel
  · decide +kernel
  · apply hstored
    intro r hr id hid
    use (.content, ⟨2, "seo", "Seo", none, -1, true, [], []⟩), by decide +kernel
    have hmem := hid.1
    rcases List.mem_cons.mp hr with rfl | hr
    · rw [List.mem_singleton.mp hmem]
    · rw [List.mem_singleton.mp hr] at hmem
      cases hmem
  · apply hstored
    intro r hr
    rcases List.mem_cons.mp hr with rfl | hr
    · refine ⟨?_, by decide +kernel, by decide +kernel⟩
      intro p hp
      rw [List.mem_singleton.mp hp]
      exact ⟨_, rfl⟩
    · rw [List.mem_singleton.mp hr]
      exact ⟨nofun, List.nodup_nil, List.nodup_nil⟩

theorem build_journal :
  Store.buildView ⟨[]⟩ (.memory journal) = .ok journal.view ∧
    ∃ s, Snapshot.build ⟨[]⟩ (.memory journal) .rawAlias = .ok s ∧
      List.Forall₂ (journal.Describes .rawAlias) journal.stored s.types
  := by
  use rfl
  obtain ⟨hiff, hdescribes, -⟩ :=
    @Snapshot.build_outcome ⟨[]⟩ (.memory journal) journal rfl .rawAlias
  obtain ⟨s, hs⟩ := hiff.mpr isConsistent_journal
  exact ⟨s, hs, hdescribes s hs⟩

end Document

end LiveModels
