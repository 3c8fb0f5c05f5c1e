import LiveModels.Proofs.Result
import LiveModels.Proofs.Source.Emission
import LiveModels.Snapshot.Builder

/-!
# Snapshots that are built

A snapshot that is built from a schema has the names that its emission relies on: its binding names
are made of identifier characters, and no two of its aliases agree up to letter case.
-/

namespace LiveModels

namespace Snapshot

/-! ### Uniqueness -/

/-- There are labels in one order if and only if there are labels in another. -/
theorem eq_nil_iff_of_perm {labels labels' : List String} (h : labels.Perm labels') :
  labels = [] ↔ labels' = []
  := by
  rw [← List.length_eq_zero_iff, ← List.length_eq_zero_iff, h.length_eq]

/-- No keys are shared if and only if they are different. -/
theorem shared_eq_nil_iff {keyed : List (String × String)} :
  shared keyed = [] ↔ (keyed.map (·.1)).Nodup
  := by
  have hcount : ∀ key, (keyed.map (·.1)).count key = keyed.countP fun e => e.1 == key := by
    intro key
    rw [List.count, List.countP_map]
    rfl
  rw [shared, List.map_eq_nil_iff, List.filter_eq_nil_iff, List.nodup_iff_count_le_one]
  constructor
  · intro h key
    by_cases hkey : key ∈ keyed.map (·.1)
    · obtain ⟨e, he, rfl⟩ := List.mem_map.mp hkey
      have hone := h e he
      rwa [decide_eq_true_eq, Nat.not_lt, ← hcount] at hone
    · rw [List.count_eq_zero_of_not_mem hkey]
      apply Nat.zero_le
  · intro h e _
    rw [decide_eq_true_eq, Nat.not_lt, ← hcount]
    apply h

/-- No aliases collide if and only if they are different, whatever their letter case. -/
theorem aliasCollisions_eq_nil_iff {ts : List TypeDescriptor} :
  aliasCollisions ts = [] ↔ (ts.map fun t => Text.lower t.aliasName).Nodup
  := by
  rw [aliasCollisions, eq_nil_iff_of_perm (List.mergeSort_perm _ _), shared_eq_nil_iff,
    List.map_map]
  rfl

/-- No binding names collide if and only if they are different. -/
theorem bindingCollisions_eq_nil_iff {ts : List TypeDescriptor} :
  bindingCollisions ts = [] ↔ (ts.map (·.bindingName)).Nodup
  := by
  rw [bindingCollisions, sortedTexts, eq_nil_iff_of_perm (List.mergeSort_perm _ _),
    shared_eq_nil_iff, List.map_map]
  rfl

/-! ### Names -/

/-- The alias and the binding name of a type. -/
def naming (t : TypeDescriptor) : String × String :=
  (t.aliasName, t.bindingName)

theorem map_naming_markMixins (ids : List Int) (ts : List TypeDescriptor) :
  (markMixins ids ts).map naming = ts.map naming
  := by
  induction ts with
  | nil => rfl
  | cons t rest ih =>
    rw [markMixins, List.map_cons, List.map_cons, ih]
    congr 1
    split <;> rfl

/-- Types keep their names when they get their properties. -/
theorem map_naming_zipWith (ts : List TypeDescriptor) (properties : List (List PropertyDescriptor)) :
  ((List.zipWith (fun t ps => { t with properties := ps }) ts properties).map naming).Sublist
    (ts.map naming)
  := by
  induction ts generalizing properties with
  | nil => simp
  | cons t rest ih =>
    cases properties with
    | nil => simp
    | cons ps others => exact (ih others).cons_cons _

/-! ### Building -/

/-- What is read of a schema for a property becomes its descriptor. -/
theorem describeProperty_eq_ok {view : SchemaView} {policy : NamingPolicy} {e : Entry}
    {r : PropertyRecord} {p : PropertyDescriptor} (h : describeProperty view policy e r = .ok p) :
  p.bindingName = policy.bindingName r.aliasName r.name ∧
    view.propertyType e.stored r = .ok (some p.type)
  := by
  unfold describeProperty at h
  split at h
  case h_1 type htype =>
    cases h
    exact ⟨rfl, htype⟩
  · cases h
  · cases h

/-- The properties of a record are described one by one. -/
theorem exists_describeProperty {view : SchemaView} {policy : NamingPolicy} {e : Entry}
    {ps : List PropertyDescriptor} (h : describeProperties view policy e = .ok ps) :
  ∀ p ∈ ps, ∃ r, describeProperty view policy e r = .ok p
  := by
  obtain ⟨described, hdescribed, h⟩ := Result.bind_eq_ok_iff.mp h
  split at h
  · cases h
    intro p hp
    obtain ⟨r, -, hr⟩ := Result.exists_of_mem_mapM hdescribed hp
    use r
  · cases h

/-- A snapshot that is built keeps the names under which its records were described, which do not
collide, and describes their properties. -/
theorem exists_entries_of_ofView {view : SchemaView} {policy : NamingPolicy} {s : Snapshot}
    (h : ofView view policy = .ok s) :
  ∃ es : List Entry, aliasCollisions (es.map (describe policy)) = [] ∧
    bindingCollisions (es.map (describe policy)) = [] ∧
    (s.types.map naming).Sublist ((es.map (describe policy)).map naming) ∧
    ∀ t ∈ s.types, ∃ e, describeProperties view policy e = .ok t.properties
  := by
  obtain ⟨es, -, h⟩ := Result.bind_eq_ok_iff.mp h
  simp only at h
  split at h
  case isFalse => cases h
  case isTrue haliases =>
    split at h
    case isFalse => cases h
    case isTrue hnames =>
      obtain ⟨-, -, h⟩ := Result.bind_eq_ok_iff.mp h
      obtain ⟨properties, hproperties, h⟩ := Result.bind_eq_ok_iff.mp h
      cases h
      refine ⟨es, List.isEmpty_iff.mp haliases, List.isEmpty_iff.mp hnames, ?_, ?_⟩
      · apply (map_naming_zipWith _ _).trans
        rw [map_naming_markMixins, List.map_map, List.map_map]
        rfl
      · intro t ht
        obtain ⟨i, hi, rfl⟩ := List.mem_iff_getElem.mp ht
        rw [List.length_zipWith] at hi
        have hmem : properties[i] ∈ properties := List.getElem_mem _
        obtain ⟨e, -, he⟩ := Result.exists_of_mem_mapM hproperties hmem
        use e
        rw [he, List.getElem_zipWith]

/-- The binding names of a snapshot that is built are made by the policy. -/
theorem exists_bindingName_of_ofView {view : SchemaView} {policy : NamingPolicy} {s : Snapshot}
    (h : ofView view policy = .ok s) {t : TypeDescriptor} (ht : t ∈ s.types) :
  ∃ aliasName displayName, t.bindingName = policy.bindingName aliasName displayName
  := by
  obtain ⟨es, -, -, hnames, -⟩ := exists_entries_of_ofView h
  have hmem := hnames.subset (List.mem_map_of_mem ht)
  rw [List.map_map, List.mem_map] at hmem
  obtain ⟨e, -, he⟩ := hmem
  exact ⟨e.record.aliasName, e.record.name, (Prod.mk.inj he).2.symm⟩

/-- The names of a snapshot that is built are fit for emission. -/
theorem isNamed_of_ofView {view : SchemaView} {policy : NamingPolicy} {s : Snapshot}
    (h : ofView view policy = .ok s) :
  s.IsNamed
  := by
  obtain ⟨es, haliases, -, hnames, hproperties⟩ := exists_entries_of_ofView h
  constructor
  · intro t ht
    obtain ⟨aliasName, displayName, hname⟩ := exists_bindingName_of_ofView h ht
    rw [hname]
    apply policy.isPlain_bindingName
  · intro t ht p hp
    obtain ⟨e, he⟩ := hproperties t ht
    obtain ⟨r, hr⟩ := exists_describeProperty he p hp
    rw [(describeProperty_eq_ok hr).1]
    apply policy.isPlain_bindingName
  · have hnodup := aliasCollisions_eq_nil_iff.mp haliases
    have hkeys : ∀ ts : List TypeDescriptor, (ts.map fun t => Text.lower t.aliasName) =
        (ts.map naming).map fun name => Text.lower name.1 := by
      intro ts
      rw [List.map_map]
      rfl
    rw [hkeys] at hnodup ⊢
    apply hnodup.sublist (hnames.map _)

/-- The binding names of a snapshot that is built are different. -/
theorem nodup_bindingName_of_ofView {view : SchemaView} {policy : NamingPolicy} {s : Snapshot}
    (h : ofView view policy = .ok s) :
  (s.types.map (·.bindingName)).Nodup
  := by
  obtain ⟨es, -, hbinding, hnames, -⟩ := exists_entries_of_ofView h
  have hnodup := bindingCollisions_eq_nil_iff.mp hbinding
  have hkeys : ∀ ts : List TypeDescriptor, ts.map (·.bindingName) = (ts.map naming).map (·.2) := by
    intro ts
    rw [List.map_map]
    rfl
  rw [hkeys] at hnodup ⊢
  apply hnodup.sublist (hnames.map _)

end Snapshot

end LiveModels
