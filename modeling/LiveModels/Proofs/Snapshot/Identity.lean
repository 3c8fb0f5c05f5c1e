import LiveModels.Proofs.Snapshot.Mixins

/-!
# Ids

The types of a snapshot refer to each other by their ids, and nothing that a build checks is about
ids. So the ids of a snapshot that is built are different if and only if those of the records are.

Main statement: a build never makes a link that leads nowhere, and if the ids of the records are
different, then every type answers for its own id and every link leads to one type only.
-/

namespace LiveModels

/-- Whether the ids of all records are different, whatever their kinds. -/
def Document.HasDistinctIds (d : Document) : Prop :=
  (d.stored.map fun e => e.2.id).Nodup

/-- Whether a type has an id as that of its base or of a mixin. -/
def TypeDescriptor.RefersTo (t : TypeDescriptor) (id : Int) : Prop :=
  t.base = some id ∨ id ∈ t.mixins

namespace Snapshot

variable {s : Snapshot} {d : Document} {policy : NamingPolicy}

/-- If ids are different, the type that answers for an id is the one that has it. -/
theorem get?_eq_some_iff (h : (s.types.map (·.id)).Nodup) {id : Int} {t : TypeDescriptor} :
  s.get? id = some t ↔ t ∈ s.types ∧ t.id = id
  := by
  have hnodup : (s.types.reverse.map (·.id)).Nodup := by
    rwa [List.map_reverse, List.nodup_reverse]
  rw [get?, Keys.find?_eq_some_iff hnodup, List.mem_reverse]

/-- Ids are different if different types answer for themselves. -/
theorem nodup_of_forall_get? (h : s.types.Nodup) (hget : ∀ t ∈ s.types, s.get? t.id = some t) :
  (s.types.map (·.id)).Nodup
  := by
  apply List.Nodup.map_on _ h
  intro t ht u hu hid
  apply Option.some.inj
  rw [← hget t ht, hid, hget u hu]

/-! ### Types that describe records -/

theorem map_id_eq {ts : List TypeDescriptor} (h : List.Forall₂ (d.Describes policy) d.stored ts) :
  ts.map (·.id) = d.stored.map fun e => e.2.id
  := by
  symm
  apply map_eq_of_forall₂ h
  intro e t ht
  exact ht.id.symm

theorem map_aliasName_eq {ts : List TypeDescriptor}
    (h : List.Forall₂ (d.Describes policy) d.stored ts) :
  (ts.map fun t => Text.lower t.aliasName) = d.aliasKeys
  := by
  symm
  apply map_eq_of_forall₂ h
  intro e t ht
  rw [ht.aliasName]

/-- The ids that a type refers to are those of records. -/
theorem hasRecord_of_refersTo (hd : d.IsConsistent policy)
    (h : List.Forall₂ (d.Describes policy) d.stored s.types) {t : TypeDescriptor} (ht : t ∈ s.types)
    {id : Int} (hid : t.RefersTo id) :
  d.HasRecord id
  := by
  obtain ⟨e, he, hdescribes⟩ := Result.exists_of_forall₂ h.flip ht
  rcases hid with hbase | hmixin
  · exact ((hdescribes.base id).mp hbase).2.2
  · apply hd.compositions e he id ((hdescribes.mixins id).mp hmixin)

/-- In a snapshot that is built, what a type refers to is there. The ids of the types are different
if and only if those of the records are, and this is so if and only if each type answers for its id.
Then what a type refers to is one type only. -/
theorem ids_identify {tree : Tree} {store : Store} (hview : store.buildView tree = .ok d.view)
    (h : build tree store policy = .ok s) :
  ((s.types.map (·.id)).Nodup ↔ d.HasDistinctIds) ∧
    ((∀ t ∈ s.types, s.get? t.id = some t) ↔ d.HasDistinctIds) ∧
    ∀ t ∈ s.types, ∀ id, t.RefersTo id →
      ∃ u, s.get? id = some u ∧ (d.HasDistinctIds → ∀ v ∈ s.types, v.id = id → v = u)
  := by
  rw [build, hview, Result.ok_bind] at h
  obtain ⟨hd, hdescribes⟩ := isConsistent_of_ofView h
  have hids : (s.types.map (·.id)).Nodup ↔ d.HasDistinctIds := by
    rw [map_id_eq hdescribes]
    rfl
  refine ⟨hids, ⟨?_, ?_⟩, ?_⟩
  · intro hget
    apply hids.mp
    apply nodup_of_forall_get? _ hget
    apply List.Nodup.of_map fun t : TypeDescriptor => Text.lower t.aliasName
    rw [map_aliasName_eq hdescribes]
    apply hd.aliases
  · intro hdistinct t ht
    apply (get?_eq_some_iff (hids.mpr hdistinct)).mpr ⟨ht, rfl⟩
  · intro t ht id hid
    obtain ⟨e, he, rfl⟩ := hasRecord_of_refersTo hd hdescribes ht hid
    obtain ⟨u, hu, hdescribed⟩ := Result.exists_of_forall₂ hdescribes he
    obtain ⟨v, hget⟩ := exists_get? hu
    rw [hdescribed.id] at hget
    use v, hget
    intro hdistinct w hw hwid
    apply Option.some.inj
    rw [← hget, (get?_eq_some_iff (hids.mpr hdistinct)).mpr ⟨hw, hwid⟩]

end Snapshot

/-- A document with records of all kinds: the article has the page as its base and is composed of
it, of the image and of the asset, which is the base of the image. -/
def Document.gallery : Document where
  contentTypes := [
    ⟨1, "page", "Page", none, -1, false, [], [⟨"title", "Title", none, "Textbox"⟩]⟩,
    ⟨2, "article", "Article", some "News", 1, false, [4, 1, 3], []⟩]
  mediaTypes := [
    ⟨3, "image", "Image", none, 4, false, [4], []⟩,
    ⟨4, "asset", "Asset", none, 9, false, [], []⟩]
  memberTypes := [⟨5, "author", "Author", none, -1, false, [], []⟩]
  editors := [("Textbox", .named "String")]

namespace Snapshot

/-- The snapshot of the document. -/
def gallery : Snapshot where
  types := [
    { id := 1, aliasName := "page", bindingName := "Page", parentId := -1, displayName := "Page",
      description := none, kind := .content,
      properties := [⟨"title", "Title", "Title", none, .named "String"⟩] },
    { id := 2, aliasName := "article", bindingName := "Article", parentId := 1,
      displayName := "Article", description := some "News", kind := .content, base := some 1,
      mixins := [3, 4] },
    { id := 3, aliasName := "image", bindingName := "Image", parentId := 4, displayName := "Image",
      description := none, kind := .media, base := some 4, isMixin := true },
    { id := 4, aliasName := "asset", bindingName := "Asset", parentId := 9, displayName := "Asset",
      description := none, kind := .media, isMixin := true },
    { id := 5, aliasName := "author", bindingName := "Author", parentId := -1,
      displayName := "Author", description := none, kind := .member }]

theorem gallery_ids_identify :
  Store.buildView ⟨[]⟩ (.memory Document.gallery) = .ok Document.gallery.view ∧
    build ⟨[]⟩ (.memory Document.gallery) .pascalAlias = .ok gallery ∧
    Document.gallery.HasDistinctIds ∧
    (∀ t ∈ gallery.types, gallery.get? t.id = some t) ∧
    ∃ u, gallery.get? 4 = some u ∧ ∀ v ∈ gallery.types, v.id = 4 → v = u
  := by
  have hview : Store.buildView ⟨[]⟩ (.memory Document.gallery) = .ok Document.gallery.view := rfl
  have hbuilt : build ⟨[]⟩ (.memory Document.gallery) .pascalAlias = .ok gallery := by
    decide +kernel
  obtain ⟨hids, hget, hlinks⟩ := ids_identify hview hbuilt
  have hdistinct : Document.gallery.HasDistinctIds := hids.mp (by decide)
  refine ⟨hview, hbuilt, hdistinct, hget.mpr hdistinct, ?_⟩
  obtain ⟨u, hu, hunique⟩ := hlinks gallery.types[2] (List.getElem_mem _) 4 (.inl rfl)
  exact ⟨u, hu, hunique hdistinct⟩

end Snapshot

/-- A document with two records of one id, which is that of the parent of a third. -/
def Document.twins : Document where
  contentTypes := [⟨1, "page", "Page", none, -1, false, [], []⟩]
  mediaTypes := [⟨1, "image", "Image", none, -1, false, [], []⟩]
  memberTypes := [⟨2, "author", "Author", none, 1, false, [], []⟩]

/-- The image answers for the page, and is the base of the author. -/
example : (Snapshot.ofView Document.twins.view .rawAlias).toOption.map (fun s =>
      s.types.map fun t => ((s.get? t.id).map (·.aliasName), (s.baseOf? t).map (·.aliasName))) =
    some [(some "image", none), (some "image", none), (some "author", some "image")] := by
  decide +kernel

end LiveModels
