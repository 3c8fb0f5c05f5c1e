import LiveModels.Proofs.Snapshot.Identity
import LiveModels.Proofs.Source.Agreement
import Mathlib.Data.List.Perm.Basic
import Mathlib.Data.List.Sort

/-!
# Orders of records

Records may stand in any order within their kinds, and the ids of which a record is composed in any
order within the record. A document passes its checks in every order. If ids are different, then the
types of its snapshot are the same but for their order; if two types have the same id, then the
order decides which of them answers for it.

Main statement: the order of records and of compositions shows neither in the fingerprint of a
snapshot nor in the source that is emitted for it.
-/

namespace LiveModels

/-! ### Documents in another order -/

/-- Whether a record is another one with the ids of its compositions in another order, or repeated
more or less often. -/
def TypeRecord.Recomposes (r r' : TypeRecord) : Prop :=
  ∃ ids, (∀ id, id ∈ ids ↔ id ∈ r.compositionIds) ∧ r' = { r with compositionIds := ids }

/-- Whether records are others in another order, with their compositions in other orders. -/
def TypeRecord.Reordered (rs rs' : List TypeRecord) : Prop :=
  ∃ recomposed, List.Forall₂ Recomposes rs recomposed ∧ recomposed.Perm rs'

/-- Whether a document is another one with the records of each kind and the compositions of each
record in another order. -/
structure Document.Reorders (d d' : Document) : Prop where
  contentTypes : TypeRecord.Reordered d.contentTypes d'.contentTypes
  mediaTypes : TypeRecord.Reordered d.mediaTypes d'.mediaTypes
  memberTypes : TypeRecord.Reordered d.memberTypes d'.memberTypes
  editors : d'.editors = d.editors

theorem TypeRecord.Recomposes.refl (r : TypeRecord) :
  r.Recomposes r
  := ⟨r.compositionIds, fun _ => .rfl, rfl⟩

theorem TypeRecord.Recomposes.symm {r r' : TypeRecord} (h : r.Recomposes r') :
  r'.Recomposes r
  := by
  obtain ⟨ids, hids, rfl⟩ := h
  exact ⟨r.compositionIds, fun id => (hids id).symm, rfl⟩

/-- Records are in another order if their compositions are as they were. -/
theorem TypeRecord.Reordered.of_perm {rs rs' : List TypeRecord} (h : rs.Perm rs') :
  Reordered rs rs'
  := ⟨rs, List.forall₂_same.mpr fun r _ => .refl r, h⟩

theorem TypeRecord.Reordered.symm {rs rs' : List TypeRecord} (h : Reordered rs rs') :
  Reordered rs' rs
  := by
  obtain ⟨recomposed, hforall, hperm⟩ := h
  have hflip : List.Forall₂ Recomposes recomposed rs := (hforall.imp fun _ _ h => h.symm).flip
  apply List.perm_comp_forall₂ hperm.symm hflip

theorem forall₂_comp {α β γ : Type} {R : α → β → Prop} {S : β → γ → Prop} {T : α → γ → Prop}
    (hT : ∀ a b c, R a b → S b c → T a c) {as : List α} {bs : List β} {cs : List γ}
    (hR : List.Forall₂ R as bs) (hS : List.Forall₂ S bs cs) :
  List.Forall₂ T as cs
  := by
  induction hR generalizing cs with
  | nil =>
    cases hS
    apply List.Forall₂.nil
  | cons hab _ ih =>
    cases hS with
    | cons hbc hrest => exact .cons (hT _ _ _ hab hbc) (ih hrest)

namespace Document

variable {d d' : Document} {policy : NamingPolicy}

/-- Whether a stored record is another one of the same kind, with its compositions in another
order. -/
def Recomposes (e e' : ItemKind × TypeRecord) : Prop :=
  ∃ r, e.2.Recomposes r ∧ e' = (e.1, r)

theorem Reorders.symm (h : d.Reorders d') :
  d'.Reorders d
  := ⟨h.contentTypes.symm, h.mediaTypes.symm, h.memberTypes.symm, h.editors.symm⟩

/-- The records of all kinds are in another order. -/
theorem Reorders.stored (h : d.Reorders d') :
  ∃ es, List.Forall₂ Recomposes d.stored es ∧ es.Perm d'.stored
  := by
  have hkind : ∀ (kind : ItemKind) {rs rs' : List TypeRecord},
      List.Forall₂ TypeRecord.Recomposes rs rs' →
        List.Forall₂ Recomposes (rs.map (Prod.mk kind)) (rs'.map (Prod.mk kind)) := by
    intro kind rs rs' hrs
    rw [List.forall₂_map_left_iff, List.forall₂_map_right_iff]
    apply hrs.imp
    intro r r' hr
    exact ⟨r', hr, rfl⟩
  obtain ⟨contents, hcontents, hcontents'⟩ := h.contentTypes
  obtain ⟨media, hmedia, hmedia'⟩ := h.mediaTypes
  obtain ⟨members, hmembers, hmembers'⟩ := h.memberTypes
  refine ⟨_, List.rel_append (List.rel_append (hkind .content hcontents) (hkind .media hmedia))
    (hkind .member hmembers), ?_⟩
  apply List.Perm.append
  · apply List.Perm.append
    · apply hcontents'.map
    · apply hmedia'.map
  · apply hmembers'.map

/-- Each record of a document in another order is one of the document. -/
theorem Reorders.exists_of_mem (h : d.Reorders d') {e' : ItemKind × TypeRecord}
    (he' : e' ∈ d'.stored) :
  ∃ e ∈ d.stored, Recomposes e e'
  := by
  obtain ⟨es, hforall, hperm⟩ := h.stored
  apply Result.exists_of_forall₂ hforall.flip (hperm.mem_iff.mpr he')

/-- What does not depend on compositions is the same for the records in another order. -/
theorem Reorders.perm_map (h : d.Reorders d') {α : Type} {f : ItemKind × TypeRecord → α}
    (hf : ∀ e e', Recomposes e e' → f e = f e') :
  (d.stored.map f).Perm (d'.stored.map f)
  := by
  obtain ⟨es, hforall, hperm⟩ := h.stored
  rw [Snapshot.map_eq_of_forall₂ hforall hf]
  apply hperm.map

theorem Reorders.hasRecord_iff (h : d.Reorders d') (id : Int) :
  d.HasRecord id ↔ d'.HasRecord id
  := by
  have hids : (d.stored.map fun e => e.2.id).Perm (d'.stored.map fun e => e.2.id) := by
    apply h.perm_map
    rintro e _ ⟨_, ⟨ids, -, rfl⟩, rfl⟩
    rfl
  have hmem : ∀ d : Document, d.HasRecord id ↔ id ∈ d.stored.map fun e => e.2.id := by
    intro d
    rw [List.mem_map]
    rfl
  rw [hmem, hmem, hids.mem_iff]

theorem isComposed_iff {r r' : TypeRecord} (h : r.Recomposes r') (id : Int) :
  IsComposed r' id ↔ IsComposed r id
  := by
  obtain ⟨ids, hids, rfl⟩ := h
  rw [IsComposed, IsComposed, hids]

theorem Reorders.editorType?_eq (h : d.Reorders d') :
  d'.editorType? = d.editorType?
  := by
  funext editorAlias
  rw [editorType?, editorType?, h.editors]

/-- A document passes its checks in every order. -/
theorem Reorders.isConsistent (h : d.Reorders d') (hd : d.IsConsistent policy) :
  d'.IsConsistent policy
  := by
  refine ⟨⟨⟨⟨⟨?_⟩, ?_⟩, ?_⟩, ?_⟩, ?_⟩
  · intro e' he'
    obtain ⟨e, he, _, ⟨ids, -, rfl⟩, rfl⟩ := h.exists_of_mem he'
    apply hd.kinds e he
  · apply (h.perm_map _).nodup hd.aliases
    rintro e _ ⟨_, ⟨ids, -, rfl⟩, rfl⟩
    rfl
  · apply (h.perm_map _).nodup hd.names
    rintro e _ ⟨_, ⟨ids, -, rfl⟩, rfl⟩
    rfl
  · intro e' he' id hid
    obtain ⟨e, he, r', hr, rfl⟩ := h.exists_of_mem he'
    apply (h.hasRecord_iff id).mp
    apply hd.compositions e he id ((isComposed_iff hr id).mp hid)
  · intro e' he'
    obtain ⟨e, he, _, ⟨ids, -, rfl⟩, rfl⟩ := h.exists_of_mem he'
    obtain ⟨htyped, haliases, hnames⟩ := hd.properties e he
    refine ⟨?_, haliases, hnames⟩
    intro p hp
    rw [IsTyped, h.editorType?_eq]
    apply htyped p hp

end Document

/-! ### Types in another order -/

/-- A type without the mark of a mixin. -/
def TypeDescriptor.unmarked (t : TypeDescriptor) : TypeDescriptor :=
  { t with isMixin := false }

namespace Snapshot

variable {s s' : Snapshot} {d d' : Document} {policy : NamingPolicy}

/-- A property is described in one way only. -/
theorem describesProperty_unique {r : PropertyRecord} {p p' : PropertyDescriptor}
    (h : d.DescribesProperty policy r p) (h' : d.DescribesProperty policy r p') :
  p = p'
  := by
  have htype : p.type = p'.type := Option.some.inj (h.type.symm.trans h'.type)
  cases p
  cases p'
  simp only [PropertyDescriptor.mk.injEq]
  exact ⟨h.aliasName.trans h'.aliasName.symm, h.bindingName.trans h'.bindingName.symm,
    h.displayName.trans h'.displayName.symm, h.description.trans h'.description.symm, htype⟩

/-- The types of two records that differ in the order of their compositions differ in their marks
only. -/
theorem unmarked_eq (h : d.Reorders d') {e e' : ItemKind × TypeRecord}
    (he : Document.Recomposes e e') {t t' : TypeDescriptor} (ht : d.Describes policy e t)
    (ht' : d'.Describes policy e' t') :
  t.unmarked = t'.unmarked
  := by
  obtain ⟨r, hr, rfl⟩ := he
  have hmixins : t.mixins = t'.mixins := by
    apply ht.ordered.eq_of_mem_iff ht'.ordered
    intro id
    rw [ht.mixins, ht'.mixins, Document.isComposed_iff hr]
  obtain ⟨ids, -, rfl⟩ := hr
  have hbase : t.base = t'.base := by
    ext id
    rw [ht.base, ht'.base, h.hasRecord_iff]
  have hproperties : t.properties = t'.properties := by
    have hunique : Relator.RightUnique (d.DescribesProperty policy) :=
      fun _ _ _ => describesProperty_unique
    apply List.right_unique_forall₂' hunique ht.properties
    apply ht'.properties.imp
    intro r p hp
    exact { hp with type := h.editorType?_eq ▸ hp.type }
  have hid := ht.id.trans ht'.id.symm
  have haliasName := ht.aliasName.trans ht'.aliasName.symm
  have hbindingName := ht.bindingName.trans ht'.bindingName.symm
  have hparentId := ht.parentId.trans ht'.parentId.symm
  have hdisplayName := ht.displayName.trans ht'.displayName.symm
  have hdescription := ht.description.trans ht'.description.symm
  have hkind := ht.kind.trans ht'.kind.symm
  simp only [TypeDescriptor.unmarked, hid, haliasName, hbindingName, hparentId, hdisplayName,
    hdescription, hkind, hbase, hmixins, hproperties]

/-- Up to their marks, the types of a document in another order are in another order. -/
theorem perm_unmarked (h : d.Reorders d') (hs : List.Forall₂ (d.Describes policy) d.stored s.types)
    (hs' : List.Forall₂ (d'.Describes policy) d'.stored s'.types) :
  (s.types.map (·.unmarked)).Perm (s'.types.map (·.unmarked))
  := by
  obtain ⟨es, hforall, hperm⟩ := h.stored
  obtain ⟨ts, hts, hperm⟩ := List.perm_comp_forall₂ hperm hs'
  -- The types in between describe the recomposed records in the order of the document.
  have hsame : List.Forall₂ (fun t t' => t.unmarked = t'.unmarked) s.types ts := by
    have hbetween : List.Forall₂ (fun e t' => ∀ t, d.Describes policy e t →
        t.unmarked = t'.unmarked) d.stored ts := by
      apply forall₂_comp _ hforall hts
      intro e e' t' he ht' t ht
      apply unmarked_eq h he ht ht'
    apply forall₂_comp _ hs.flip hbetween
    intro t e t' ht ht'
    apply ht' t ht
  rw [map_eq_of_forall₂ hsame fun _ _ => id]
  apply hperm.map

/-! ### Marks in another order -/

/-- If ids are different, the order of the types does not decide which of them answers for an id. -/
theorem get?_eq_of_perm (h : s.types.Perm s'.types) (hids : (s.types.map (·.id)).Nodup) :
  s.get? = s'.get?
  := by
  have hids' : (s'.types.map (·.id)).Nodup := (h.map _).nodup hids
  funext id
  ext t
  rw [get?_eq_some_iff hids, get?_eq_some_iff hids', h.mem_iff]

/-- If ids are different, the types with an id have the same links in every order. -/
theorem map_links_get?_of_perm (h : (s.types.map (·.links)).Perm (s'.types.map (·.links)))
    (hids : (s.types.map (·.id)).Nodup) (id : Int) :
  (s.get? id).map (·.links) = (s'.get? id).map (·.links)
  := by
  have hpairs : ∀ s : Snapshot, (s.types.map (·.links)).map (·.1) = s.types.map (·.id) := by
    intro s
    rw [List.map_map]
    rfl
  have hids' : (s'.types.map (·.id)).Nodup := by
    rw [← hpairs] at hids ⊢
    apply (h.map _).nodup hids
  have hget : ∀ {s : Snapshot}, (s.types.map (·.id)).Nodup → ∀ l,
      (s.get? id).map (·.links) = some l ↔ l ∈ s.types.map (·.links) ∧ l.1 = id := by
    intro s hids l
    simp only [Option.map_eq_some_iff, get?_eq_some_iff hids, List.mem_map]
    constructor
    · rintro ⟨t, ⟨ht, rfl⟩, rfl⟩
      exact ⟨⟨t, ht, rfl⟩, rfl⟩
    · rintro ⟨⟨t, ht, rfl⟩, rfl⟩
      exact ⟨t, ⟨ht, rfl⟩, rfl⟩
  ext l
  rw [hget hids, hget hids', h.mem_iff]

/-- What does not depend on marks can be asked about the types without them. -/
theorem map_unmarked {α : Type} {f : TypeDescriptor → α} (hf : ∀ t, f t.unmarked = f t)
    (ts : List TypeDescriptor) :
  (ts.map (·.unmarked)).map f = ts.map f
  := by
  rw [List.map_map]
  apply List.map_congr_left
  intro t _
  apply hf

/-- If ids are different, the marks of mixins follow from the rest. -/
theorem MarksMixins.types_eq (h : s.MarksMixins) (hids : (s.types.map (·.id)).Nodup)
    {mixed : Int → Bool}
    (hmixed : ∀ id, mixed id = true ↔ ∃ u ∈ s.types, ∃ m ∈ u.mixins, s.Reaches m id) :
  s.types = (s.types.map (·.unmarked)).map fun t => { t with isMixin := mixed t.id }
  := by
  rw [List.map_map]
  trans s.types.map id
  · rw [List.map_id]
  · apply List.map_congr_left
    intro t ht
    have hget : s.get? t.id = some t := (get?_eq_some_iff hids).mpr ⟨ht, rfl⟩
    have hmark : mixed t.id = t.isMixin := by
      rw [Bool.eq_iff_iff, hmixed, h t.id t hget]
    simp [TypeDescriptor.unmarked, hmark]

/-- If ids are different, types that are in another order up to their marks are in another order. -/
theorem perm_of_marksMixins (h : (s.types.map (·.unmarked)).Perm (s'.types.map (·.unmarked)))
    (hids : (s.types.map (·.id)).Nodup) (hmarks : s.MarksMixins) (hmarks' : s'.MarksMixins) :
  s.types.Perm s'.types
  := by
  classical
  have hunmarked : ∀ {α : Type} (f : TypeDescriptor → α), (∀ t, f t.unmarked = f t) →
      (s.types.map f).Perm (s'.types.map f) := by
    intro α f hf
    rw [← map_unmarked hf s.types, ← map_unmarked hf s'.types]
    apply h.map
  have hlinks := hunmarked (·.links) fun _ => rfl
  have hids' : (s'.types.map (·.id)).Nodup := (hunmarked (·.id) fun _ => rfl).nodup hids
  have hmixed : ∀ id, decide (∃ u ∈ s.types, ∃ m ∈ u.mixins, s.Reaches m id) = true ↔
      ∃ u ∈ s.types, ∃ m ∈ u.mixins, s.Reaches m id := fun _ => decide_eq_true_iff
  have hmixed' : ∀ id, decide (∃ u ∈ s.types, ∃ m ∈ u.mixins, s.Reaches m id) = true ↔
      ∃ u ∈ s'.types, ∃ m ∈ u.mixins, s'.Reaches m id := by
    intro id
    rw [hmixed, exists_mem_mixins_iff_of_links fun _ => hlinks.mem_iff,
      reaches_eq_of_links (map_links_get?_of_perm hlinks hids)]
  rw [hmarks.types_eq hids hmixed, hmarks'.types_eq hids' hmixed']
  apply h.map

/-! ### Generated source -/

/-- The types in the order of their aliases do not depend on the order in which they are given. -/
theorem byAlias_eq_of_perm (h : s.types.Perm s'.types) (hs : s.IsNamed) :
  s.byAlias = s'.byAlias
  := by
  apply Text.mergeSort_eq_of_perm _ h
  intro t ht u hu halias
  apply List.inj_on_of_nodup_map hs.nodup ht hu
  rw [halias]

theorem Agrees.refl (s : Snapshot) :
  s.Agrees s
  := List.forall₂_same.mpr fun _ _ => ⟨rfl, rfl, rfl, rfl, .refl _⟩

/-- The emitted source does not depend on the order of the types, if their ids are different. -/
theorem emit_eq_of_perm (h : s.types.Perm s'.types) (hids : (s.types.map (·.id)).Nodup)
    (hs : s.IsNamed) (hs' : s'.IsNamed) (files : UserFiles) :
  Emission.emit s files = Emission.emit s' files
  := by
  have hget := get?_eq_of_perm h hids
  have hbyAlias := byAlias_eq_of_perm h hs
  have hagrees : s.Agrees s' := by
    rw [Agrees, ← hbyAlias]
    apply Agrees.refl
  have hnote : Emission.propertyNote s = Emission.propertyNote s' := by
    funext p
    rw [Emission.propertyNote, Emission.propertyNote, Emission.resolve_eq_of_agrees hagrees hs hs']
  have hlines : Emission.typeLines s = Emission.typeLines s' := by
    funext t
    rw [Emission.typeLines, Emission.typeLines, Emission.notes, Emission.notes, baseOf?, baseOf?,
      mixinsOf, mixinsOf, hget, hnote]
  rw [Emission.emit, Emission.emit, Emission.emittedLines, Emission.emittedLines,
    Emission.emittedTypes, Emission.emittedTypes, hbyAlias, hlines]

/-- The fingerprint does not depend on the order of the types. -/
theorem fingerprint_eq_of_perm (h : s.types.Perm s'.types) (hs : s.IsNamed) (files : UserFiles) :
  Fingerprint.compute files s.types = Fingerprint.compute files s'.types
  := by
  have hbyAlias : (Snapshot.mk s.types).byAlias = (Snapshot.mk s'.types).byAlias :=
    byAlias_eq_of_perm h hs
  rw [Fingerprint.compute, Fingerprint.compute, Fingerprint.tokens, Fingerprint.tokens, hbyAlias]

/-- A document gives a snapshot if it does so in another order. -/
theorem exists_ok_of_reorders (h : d.Reorders d') (hs : ofView d.view policy = .ok s) :
  ∃ s', ofView d'.view policy = .ok s'
  := by
  obtain ⟨s', hs', -⟩ := (h.isConsistent (isConsistent_of_ofView hs).1).exists_snapshot
  use s'

/-- If the ids of the records are different, the snapshots of a document in two orders have the same
types, in another order. -/
theorem perm_of_reorders (h : d.Reorders d') (hids : d.HasDistinctIds)
    (hs : ofView d.view policy = .ok s) (hs' : ofView d'.view policy = .ok s') :
  s.types.Perm s'.types
  := by
  obtain ⟨-, hdescribes⟩ := isConsistent_of_ofView hs
  obtain ⟨-, hdescribes'⟩ := isConsistent_of_ofView hs'
  apply perm_of_marksMixins (perm_unmarked h hdescribes hdescribes') _ (marksMixins_of_ofView hs)
    (marksMixins_of_ofView hs')
  rw [map_id_eq hdescribes]
  apply hids

end Snapshot

/-- The order of the records of each kind and of the compositions of each record does not decide
whether a document gives a snapshot. If the ids of the records are different, it does not show in
what is generated either: the snapshots have the same types, the same fingerprint with whatever
files, and the same emitted source beside whatever files. -/
theorem Document.Reorders.generates_alike {d d' : Document} (h : d.Reorders d') {tree tree' : Tree}
    {store store' : Store} (hview : store.buildView tree = .ok d.view)
    (hview' : store'.buildView tree' = .ok d'.view) (policy : NamingPolicy) :
  ((∃ s, Snapshot.build tree store policy = .ok s) ↔
      ∃ s, Snapshot.build tree' store' policy = .ok s) ∧
    (d.HasDistinctIds → ∀ s s', Snapshot.build tree store policy = .ok s →
      Snapshot.build tree' store' policy = .ok s' →
        s.types.Perm s'.types ∧
        ∀ files : UserFiles,
          Fingerprint.compute files s.types = Fingerprint.compute files s'.types ∧
          Emission.emit s files = Emission.emit s' files)
  := by
  rw [Snapshot.build, Snapshot.build, hview, hview', Result.ok_bind, Result.ok_bind]
  refine ⟨⟨?_, ?_⟩, ?_⟩
  · rintro ⟨s, hs⟩
    apply Snapshot.exists_ok_of_reorders h hs
  · rintro ⟨s', hs'⟩
    apply Snapshot.exists_ok_of_reorders h.symm hs'
  · intro hids s s' hs hs'
    have hperm := Snapshot.perm_of_reorders h hids hs hs'
    have hnamed := Snapshot.isNamed_of_ofView hs
    have hnamed' := Snapshot.isNamed_of_ofView hs'
    have hidsTypes : (s.types.map (·.id)).Nodup := by
      rw [Snapshot.map_id_eq (Snapshot.isConsistent_of_ofView hs).2]
      apply hids
    use hperm
    intro files
    exact ⟨Snapshot.fingerprint_eq_of_perm hperm hnamed files,
      Snapshot.emit_eq_of_perm hperm hidsTypes hnamed hnamed' files⟩

namespace Document

/-- The gallery with its records in another order, and with an article that is composed of the same
types in another order, of some of them twice. -/
def rehung : Document where
  contentTypes := [
    ⟨2, "article", "Article", some "News", 1, false, [3, 4, 4, 1, 3], []⟩,
    ⟨1, "page", "Page", none, -1, false, [], [⟨"title", "Title", none, "Textbox"⟩]⟩]
  mediaTypes := [
    ⟨4, "asset", "Asset", none, 9, false, [], []⟩,
    ⟨3, "image", "Image", none, 4, false, [4], []⟩]
  memberTypes := [⟨5, "author", "Author", none, -1, false, [], []⟩]
  editors := [("Textbox", .named "String")]

theorem reorders_rehung :
  gallery.Reorders rehung
  := by
  refine ⟨?_, .of_perm (.swap _ _ _), .of_perm (.refl _), rfl⟩
  refine ⟨rehung.contentTypes.reverse, ?_, List.reverse_perm _⟩
  apply List.Forall₂.cons (.refl _)
  apply List.Forall₂.cons _ .nil
  refine ⟨[3, 4, 4, 1, 3], ?_, rfl⟩
  intro id
  simp only [List.mem_cons]
  tauto

theorem gallery_generates_alike :
  gallery.HasDistinctIds ∧
    ∃ s', Snapshot.build ⟨[]⟩ (.memory rehung) .pascalAlias = .ok s' ∧
      Snapshot.gallery.types.Perm s'.types ∧
      Emission.emit Snapshot.gallery [] = Emission.emit s' []
  := by
  have hids : gallery.HasDistinctIds := by
    rw [HasDistinctIds]
    decide
  have hbuilt : Snapshot.build ⟨[]⟩ (.memory gallery) .pascalAlias = .ok Snapshot.gallery := by
    decide +kernel
  have hview : Store.buildView ⟨[]⟩ (.memory gallery) = .ok gallery.view := rfl
  have hview' : Store.buildView ⟨[]⟩ (.memory rehung) = .ok rehung.view := rfl
  obtain ⟨hiff, hsame⟩ := reorders_rehung.generates_alike hview hview' .pascalAlias
  obtain ⟨s', hs'⟩ := hiff.mp ⟨_, hbuilt⟩
  obtain ⟨hperm, hfiles⟩ := hsame hids _ s' hbuilt hs'
  exact ⟨hids, s', hs', hperm, (hfiles []).2⟩

end Document

end LiveModels
