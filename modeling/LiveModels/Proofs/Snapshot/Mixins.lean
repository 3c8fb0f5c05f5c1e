import LiveModels.Proofs.Snapshot.Ancestors
import LiveModels.Proofs.Snapshot.Outcome
import Mathlib.Logic.Relation

/-!
# Mixins

The compositions are walked through one after the other, each from base to base up to an id that is
marked. Such a walk leaves out nothing: the marks that were there before it are closed under bases,
so what would follow is marked.

Main statement: in a snapshot that is built, the types that are marked as mixins are those that
others are composed of, and the bases of these.
-/

namespace LiveModels

/-- The id of a type and the ids that it refers to. -/
def TypeDescriptor.links (t : TypeDescriptor) : Int × Option Int × List Int :=
  (t.id, t.base, t.mixins)

namespace Snapshot

variable {s s' : Snapshot} {seen : List Int} {start : Option Int} {chain : List TypeDescriptor}

/-! ### Bases by ids -/

/-- The id of the base of the type with an id. -/
def baseId? (s : Snapshot) (id : Int) : Option Int :=
  (s.get? id).bind (·.base)

/-- Whether an id is met on following the bases from another one. -/
def Reaches (s : Snapshot) : Int → Int → Prop :=
  Relation.ReflTransGen fun id base => s.baseId? id = some base

/-- The last of several types with one id answers for it. -/
theorem get?_cons (t : TypeDescriptor) (ts : List TypeDescriptor) (id : Int) :
  (Snapshot.mk (t :: ts)).get? id =
    ((Snapshot.mk ts).get? id).or (if t.id = id then some t else none)
  := by
  simp only [get?, List.reverse_cons, List.find?_append, List.find?_cons, List.find?_nil]
  split <;> simp_all

/-- A type answers for its id if no later type has the same one. -/
theorem get?_eq_some_of_split {before after : List TypeDescriptor} {t : TypeDescriptor}
    (h : s.types = before ++ t :: after) (hafter : ∀ u ∈ after, u.id ≠ t.id) :
  s.get? t.id = some t
  := by
  have hnone : after.reverse.find? (fun u => u.id == t.id) = none := by
    simpa using hafter
  rw [get?, h, List.reverse_append, List.reverse_cons, List.append_assoc, List.find?_append, hnone]
  simp

/-- What is asked about the type with an id can be asked about all types before. -/
theorem map_get? {α : Type} (s : Snapshot) (f : TypeDescriptor → α) (id : Int) :
  (s.get? id).map f =
    ((s.types.map fun t => (t.id, f t)).reverse.find? fun e => e.1 == id).map (·.2)
  := by
  rw [get?, ← List.map_reverse, List.find?_map, Option.map_map]
  rfl

/-- In snapshots with the same links the types with an id have the same links. -/
theorem map_links_get? (h : s.types.map (·.links) = s'.types.map (·.links)) (id : Int) :
  (s.get? id).map (·.links) = (s'.get? id).map (·.links)
  := by
  have hpairs : ∀ s : Snapshot, (s.types.map fun t => (t.id, t.links)) =
      (s.types.map (·.links)).map fun l => (l.1, l) := by
    intro s
    rw [List.map_map]
    rfl
  rw [map_get?, map_get?, hpairs, hpairs, h]

/-- Snapshots whose types with an id have the same links have the same bases. -/
theorem reaches_eq_of_links (h : ∀ id, (s.get? id).map (·.links) = (s'.get? id).map (·.links)) :
  s.Reaches = s'.Reaches
  := by
  have hbase : ∀ (s : Snapshot) (id : Int),
      s.baseId? id = ((s.get? id).map (·.links)).bind (·.2.1) := by
    intro s id
    rw [baseId?]
    cases s.get? id <;> rfl
  have hsame : s.baseId? = s'.baseId? := by
    funext id
    rw [hbase, hbase, h]
  rw [Reaches, Reaches, hsame]

/-- Snapshots with the same links are composed of the same types. -/
theorem exists_mem_mixins_iff_of_links
    (h : ∀ l, l ∈ s.types.map (·.links) ↔ l ∈ s'.types.map (·.links)) {p : Int → Prop} :
  (∃ u ∈ s.types, ∃ m ∈ u.mixins, p m) ↔ ∃ u ∈ s'.types, ∃ m ∈ u.mixins, p m
  := by
  have hlinks : ∀ s : Snapshot, (∃ u ∈ s.types, ∃ m ∈ u.mixins, p m) ↔
      ∃ l ∈ s.types.map (·.links), ∃ m ∈ l.2.2, p m := by
    intro s
    simp only [List.mem_map, exists_exists_and_eq_and]
    rfl
  simp only [hlinks, h]

/-! ### Walks -/

/-- What is met answers for its id. -/
theorem Climbs.get?_eq (h : s.Climbs seen start chain) :
  ∀ t ∈ chain, s.get? t.id = some t
  := by
  induction h with
  | root => nofun
  | seen _ => nofun
  | missing _ _ => nofun
  | step _ ht _ ih =>
    rw [List.forall_mem_cons]
    refine ⟨?_, ih⟩
    rw [id_of_get? ht, ht]

/-- What is met can be reached from wherever the start can be reached. -/
theorem Climbs.reaches (h : s.Climbs seen start chain) {origin : Int}
    (hstart : ∀ id, start = some id → s.Reaches origin id) :
  ∀ t ∈ chain, s.Reaches origin t.id
  := by
  induction h with
  | root => nofun
  | seen _ => nofun
  | missing _ _ => nofun
  | step _ ht _ ih =>
    have hreached := hstart _ rfl
    rw [List.forall_mem_cons]
    constructor
    · rw [id_of_get? ht]
      apply hreached
    · apply ih
      intro base hbase
      apply hreached.tail
      rw [baseId?, ht, Option.bind_some, hbase]

/-- Where a walk starts and where it could go on, there is nothing, or it has been seen or met. -/
theorem Climbs.covers (h : s.Climbs seen start chain) {id : Int}
    (hid : start = some id ∨ ∃ t ∈ chain, t.base = some id) (ht : s.get? id ≠ none) :
  id ∈ seen ++ chain.map (·.id)
  := by
  induction h with
  | root =>
    rcases hid with hid | ⟨t, hmem, -⟩
    · cases hid
    · cases hmem
  | seen hseen =>
    rcases hid with hid | ⟨t, hmem, -⟩
    · cases hid
      apply List.mem_append_left _ hseen
    · cases hmem
  | missing _ hmissing =>
    rcases hid with hid | ⟨t, hmem, -⟩
    · cases hid
      exact absurd hmissing ht
    · cases hmem
  | step _ hget _ ih =>
    rcases hid with hid | ⟨t, hmem, hbase⟩
    · cases hid
      simp [id_of_get? hget]
    · have hmet := ih (by
        rcases List.mem_cons.mp hmem with rfl | hmem
        · exact .inl hbase
        · exact .inr ⟨t, hmem, hbase⟩)
      simpa [id_of_get? hget, or_left_comm] using hmet

/-! ### Marks -/

/-- Whether ids are closed under bases: with the id of a type that of its base is among them, unless
there is no such type. -/
def IsClosed (s : Snapshot) (ids : List Int) : Prop :=
  ∀ id ∈ ids, ∀ base, s.baseId? id = some base → s.get? base ≠ none → base ∈ ids

/-- A walk that stops at ids which are closed under bases leaves them closed. -/
theorem Climbs.isClosed (h : s.Climbs seen start chain) (hseen : s.IsClosed seen) :
  s.IsClosed (seen ++ chain.map (·.id))
  := by
  intro id hid base hbase hget
  rcases List.mem_append.mp hid with hid | hid
  · apply List.mem_append_left _ (hseen id hid base hbase hget)
  · obtain ⟨t, ht, rfl⟩ := List.mem_map.mp hid
    rw [baseId?, h.get?_eq t ht, Option.bind_some] at hbase
    apply h.covers (.inr ⟨t, ht, hbase⟩) hget

/-- Ids that are closed under bases have all ids that can be reached from one of them. -/
theorem IsClosed.mem_of_reaches {ids : List Int} (h : s.IsClosed ids) {m id : Int}
    (hm : s.get? m ≠ none → m ∈ ids) (hreaches : s.Reaches m id) :
  s.get? id ≠ none → id ∈ ids
  := by
  induction hreaches with
  | refl => exact hm
  | tail _ hbase ih =>
    apply h _ (ih _) _ hbase
    intro hnone
    rw [baseId?, hnone] at hbase
    cases hbase

/-- The mixins of one more composition are marked by a walk that starts at it. -/
theorem exists_climbs_mixinIds (s : Snapshot) (composedIds : List Int) (m : Int) :
  ∃ chain, s.Climbs (mixinIds s composedIds) (some m) chain ∧
    mixinIds s (composedIds ++ [m]) = mixinIds s composedIds ++ chain.map (·.id)
  := by
  refine ⟨_, climbs_follow (s.length_unseen_lt_succ _), ?_⟩
  rw [mixinIds, List.foldl_append]
  rfl

variable {composedIds : List Int}

theorem isClosed_mixinIds (s : Snapshot) (composedIds : List Int) :
  s.IsClosed (mixinIds s composedIds)
  := by
  induction composedIds using List.reverseRecOn with
  | nil => nofun
  | append_singleton composedIds m ih =>
    obtain ⟨chain, hclimbs, hmarked⟩ := s.exists_climbs_mixinIds composedIds m
    rw [hmarked]
    apply hclimbs.isClosed ih

/-- The types that others are composed of are marked. -/
theorem mem_mixinIds_of_mem {m : Int} (hm : m ∈ composedIds) (hget : s.get? m ≠ none) :
  m ∈ mixinIds s composedIds
  := by
  induction composedIds using List.reverseRecOn with
  | nil => cases hm
  | append_singleton composedIds m' ih =>
    obtain ⟨chain, hclimbs, hmarked⟩ := s.exists_climbs_mixinIds composedIds m'
    rw [hmarked]
    rcases List.mem_append.mp hm with hm | hm
    · apply List.mem_append_left _ (ih hm)
    · rw [List.mem_singleton.mp hm] at hget ⊢
      apply hclimbs.covers (.inl rfl) hget

/-- What is marked is a type, and can be reached from one that others are composed of. -/
theorem reaches_of_mem_mixinIds {id : Int} (h : id ∈ mixinIds s composedIds) :
  s.get? id ≠ none ∧ ∃ m ∈ composedIds, s.Reaches m id
  := by
  induction composedIds using List.reverseRecOn with
  | nil => cases h
  | append_singleton composedIds m ih =>
    obtain ⟨chain, hclimbs, hmarked⟩ := s.exists_climbs_mixinIds composedIds m
    rw [hmarked] at h
    rcases List.mem_append.mp h with h | h
    · obtain ⟨hget, m', hm', hreaches⟩ := ih h
      exact ⟨hget, m', List.mem_append_left _ hm', hreaches⟩
    · obtain ⟨t, ht, rfl⟩ := List.mem_map.mp h
      constructor
      · rw [hclimbs.get?_eq t ht]
        nofun
      · use m, List.mem_append_right _ (List.mem_singleton_self m)
        apply hclimbs.reaches _ t ht
        rintro _ ⟨⟩
        apply Relation.ReflTransGen.refl

/-- The ids that are marked are those of types that can be reached from the given ones. -/
theorem mem_mixinIds_iff {id : Int} :
  id ∈ mixinIds s composedIds ↔ s.get? id ≠ none ∧ ∃ m ∈ composedIds, s.Reaches m id
  := by
  constructor
  · apply reaches_of_mem_mixinIds
  · rintro ⟨hget, m, hm, hreaches⟩
    apply (s.isClosed_mixinIds composedIds).mem_of_reaches (mem_mixinIds_of_mem hm) hreaches hget

/-- The type with an id is marked if the id is. -/
theorem get?_markMixins (ids : List Int) (ts : List TypeDescriptor) (id : Int) :
  (Snapshot.mk (markMixins ids ts)).get? id =
    ((Snapshot.mk ts).get? id).map fun t => if id ∈ ids then { t with isMixin := true } else t
  := by
  induction ts with
  | nil => rfl
  | cons t ts ih =>
    have hhead : ∀ p : Prop, [Decidable p] →
        (if p then { t with isMixin := true } else t).id = t.id := by
      intro p _
      split <;> rfl
    rw [markMixins, get?_cons, get?_cons, ih, hhead]
    cases hget : (Snapshot.mk ts).get? id with
    | some u => rfl
    | none =>
      by_cases hid : t.id = id
      · have hlater : ts.all (fun u => u.id != t.id) = true := by
          simpa [hid] using get?_eq_none_iff.mp hget
        simp [hid ▸ hlater, hid]
      · simp [hid]

/-- What does not depend on marks is the same for the types that are marked. -/
theorem map_markMixins {α : Type} {f : TypeDescriptor → α} {ids : List Int}
    {ts : List TypeDescriptor} (hf : ∀ t marked, f { t with isMixin := marked } = f t) :
  (markMixins ids ts).map f = ts.map f
  := by
  symm
  apply map_eq_of_forall₂ (forall₂_markMixins ids ts)
  rintro t _ ⟨marked, rfl⟩
  apply (hf t marked).symm

/-- A type that is marked is the last one with its id. -/
theorem pairwise_markMixins (ids : List Int) {ts : List TypeDescriptor}
    (h : ∀ t ∈ ts, t.isMixin = false) :
  (markMixins ids ts).Pairwise fun t u => t.isMixin = true → u.id ≠ t.id
  := by
  induction ts with
  | nil => apply List.Pairwise.nil
  | cons t ts ih =>
    rw [List.forall_mem_cons] at h
    rw [markMixins, List.pairwise_cons]
    refine ⟨?_, ih h.2⟩
    intro u hu
    have hid : u.id ∈ ts.map (·.id) := by
      rw [← map_markMixins fun _ _ => rfl]
      apply List.mem_map_of_mem hu
    split
    case isTrue hmarked =>
      obtain ⟨v, hv, hvid⟩ := List.mem_map.mp hid
      have hne := List.all_eq_true.mp hmarked.2 v hv
      intro _
      rw [← hvid]
      simpa using hne
    case isFalse =>
      intro hmarked
      rw [h.1] at hmarked
      cases hmarked

/-! ### Builds -/

theorem forall₂_zipWith_left {α β γ : Type} {f : α → β → γ} {as : List α} {bs : List β}
    (h : as.length = bs.length) :
  List.Forall₂ (fun a c => ∃ b, c = f a b) as (List.zipWith f as bs)
  := by
  apply forall₂_zipWith (R := Eq) (S := fun _ _ => True)
  · rintro a _ b rfl -
    exact ⟨b, rfl⟩
  · apply List.forall₂_refl
  · apply List.forall₂_iff_zip.mpr ⟨h, fun _ => trivial⟩

/-- Whether types are the given ones once the mixins among these have been marked and all have got
their properties. -/
def AreMarked (ids : List Int) (linked types : List TypeDescriptor) : Prop :=
  List.Forall₂ (fun t t' => ∃ ps, t' = { t with properties := ps }) (markMixins ids linked) types

/-- Types keep their links when mixins are marked and properties described. -/
theorem AreMarked.links_eq {ids : List Int} {linked types : List TypeDescriptor}
    (h : AreMarked ids linked types) :
  types.map (·.links) = linked.map (·.links)
  := by
  trans (markMixins ids linked).map (·.links)
  · symm
    apply map_eq_of_forall₂ h
    rintro t _ ⟨ps, rfl⟩
    rfl
  · apply map_markMixins fun _ _ => rfl

/-- Types are marked if their ids are. -/
theorem AreMarked.isMixin_iff {ids : List Int} {linked : List TypeDescriptor}
    (h : AreMarked ids linked s.types) (hplain : ∀ t ∈ linked, t.isMixin = false) {id : Int}
    {t : TypeDescriptor} (hget : s.get? id = some t) :
  t.isMixin = true ↔ id ∈ ids
  := by
  have htypes : (s.types.map fun t => (t.id, t.isMixin)) =
      (markMixins ids linked).map fun t => (t.id, t.isMixin) := by
    symm
    apply map_eq_of_forall₂ h
    rintro t _ ⟨ps, rfl⟩
    rfl
  have hmark := map_get? s (·.isMixin) id
  rw [htypes, ← map_get? ⟨markMixins ids linked⟩, get?_markMixins, Option.map_map, hget] at hmark
  obtain ⟨u, hu, hmark⟩ := Option.map_eq_some_iff.mp hmark.symm
  have hfalse := hplain u (mem_of_get? hu)
  simp only [Function.comp_apply] at hmark
  rw [← hmark]
  split <;> simp_all

/-- No type is marked that does not answer for its id. -/
theorem AreMarked.get?_eq {ids : List Int} {linked : List TypeDescriptor}
    (h : AreMarked ids linked s.types) (hplain : ∀ t ∈ linked, t.isMixin = false)
    {t : TypeDescriptor} (ht : t ∈ s.types) (hmixin : t.isMixin = true) :
  s.get? t.id = some t
  := by
  have htypes : (markMixins ids linked).map (fun t => (t.id, t.isMixin)) =
      s.types.map fun t => (t.id, t.isMixin) := by
    apply map_eq_of_forall₂ h
    rintro t _ ⟨ps, rfl⟩
    rfl
  have hlast : s.types.Pairwise fun t u => t.isMixin = true → u.id ≠ t.id := by
    have hpairs : ∀ ts : List TypeDescriptor,
        (ts.map fun t => (t.id, t.isMixin)).Pairwise (fun e e' => e.2 = true → e'.1 ≠ e.1) ↔
          ts.Pairwise fun t u => t.isMixin = true → u.id ≠ t.id := fun _ => List.pairwise_map
    rw [← hpairs, ← htypes, hpairs]
    apply pairwise_markMixins ids hplain
  obtain ⟨before, after, hsplit⟩ := List.append_of_mem ht
  apply get?_eq_some_of_split hsplit
  rw [hsplit, List.pairwise_append, List.pairwise_cons] at hlast
  intro u hu
  apply hlast.2.1.1 u hu hmixin

/-- In a snapshot that is built the mixins are marked in the linked types, and then these get their
properties. -/
theorem exists_areMarked_of_ofView {view : SchemaView} {policy : NamingPolicy}
    (h : ofView view policy = .ok s) :
  ∃ (linked : List TypeDescriptor) (composedIds : List Int),
    AreMarked (mixinIds ⟨linked⟩ composedIds) linked s.types ∧
    (∀ t ∈ linked, t.isMixin = false) ∧
    ∀ m, m ∈ composedIds ↔ ∃ t ∈ linked, m ∈ t.mixins
  := by
  obtain ⟨es, -, h⟩ := Result.bind_eq_ok_iff.mp h
  simp only at h
  split at h
  case isFalse => cases h
  case isTrue =>
    split at h
    case isFalse => cases h
    case isTrue =>
      obtain ⟨-, -, h⟩ := Result.bind_eq_ok_iff.mp h
      obtain ⟨properties, hproperties, h⟩ := Result.bind_eq_ok_iff.mp h
      cases h
      refine ⟨_, _, forall₂_zipWith_left ?_, ?_, ?_⟩
      · rw [← (forall₂_markMixins _ _).length_eq, List.length_map]
        apply (Result.mapM_eq_ok_iff.mp hproperties).length_eq
      · intro t ht
        obtain ⟨e, -, rfl⟩ := List.mem_map.mp ht
        rfl
      · intro m
        rw [List.mem_flatMap]
        simp only [List.mem_map, exists_exists_and_eq_and, (ascending_spec _).2]

/-- Whether the types that answer for their ids are marked if and only if they can be reached from a
type that another one is composed of. -/
def MarksMixins (s : Snapshot) : Prop :=
  ∀ id t, s.get? id = some t →
    (t.isMixin = true ↔ ∃ u ∈ s.types, ∃ m ∈ u.mixins, s.Reaches m id)

theorem marksMixins_of_ofView {view : SchemaView} {policy : NamingPolicy}
    (h : ofView view policy = .ok s) :
  s.MarksMixins
  := by
  obtain ⟨linked, composedIds, hmarked, hplain, hcomposed⟩ := exists_areMarked_of_ofView h
  have hlinks : s.types.map (·.links) = (Snapshot.mk linked).types.map (·.links) := hmarked.links_eq
  have hmem : ∀ l, l ∈ s.types.map (·.links) ↔ l ∈ (Snapshot.mk linked).types.map (·.links) := by
    intro l
    rw [hlinks]
  intro id t hget
  have hid : (Snapshot.mk linked).get? id ≠ none := by
    intro hnone
    have hsame := map_links_get? hlinks id
    rw [hget, hnone] at hsame
    cases hsame
  rw [hmarked.isMixin_iff hplain hget, mem_mixinIds_iff, and_iff_right hid,
    reaches_eq_of_links (map_links_get? hlinks),
    exists_mem_mixins_iff_of_links hmem]
  constructor
  · rintro ⟨m, hm, hreaches⟩
    obtain ⟨u, hu, hm⟩ := (hcomposed m).mp hm
    exact ⟨u, hu, m, hm, hreaches⟩
  · rintro ⟨u, hu, m, hm, hreaches⟩
    exact ⟨m, (hcomposed m).mpr ⟨u, hu, hm⟩, hreaches⟩

/-- In a snapshot that is built, a type that answers for an id is marked as a mixin if and only if
the id is that of a type which some type is composed of, or is met on following the bases from one.
So the bases of a mixin are mixins, and no other type is marked. -/
theorem marks_exactly_mixins {view : SchemaView} {policy : NamingPolicy}
    (h : ofView view policy = .ok s) :
  (∀ u ∈ s.types, ∃ t, s.get? u.id = some t ∧
      (t.isMixin = true ↔ ∃ v ∈ s.types, ∃ m ∈ v.mixins, s.Reaches m u.id)) ∧
    ∀ t ∈ s.types, t.isMixin = true →
      s.get? t.id = some t ∧ ∀ base ∈ s.ancestors t.id, base.isMixin = true
  := by
  have hmarks := marksMixins_of_ofView h
  constructor
  · intro u hu
    obtain ⟨t, hget⟩ := exists_get? hu
    exact ⟨t, hget, hmarks u.id t hget⟩
  · intro t ht hmixin
    obtain ⟨linked, composedIds, hmarked, hplain, -⟩ := exists_areMarked_of_ofView h
    have hget := hmarked.get?_eq hplain ht hmixin
    use hget
    intro base hbase
    obtain ⟨v, hv, m, hm, hreaches⟩ := (hmarks t.id t hget).mp hmixin
    have hclimbs := s.climbs_ancestors t.id
    apply (hmarks base.id base (hclimbs.get?_eq base hbase)).mpr
    refine ⟨v, hv, m, hm, hreaches.trans ?_⟩
    apply hclimbs.reaches _ base hbase
    intro id hid
    apply Relation.ReflTransGen.single
    apply hid

end Snapshot

/-- A document in which two types are bases of each other, a type is its own parent, two records of
different kinds have the same id, and a type is composed of one of these through a base. -/
def Document.tangle : Document where
  contentTypes := [
    ⟨1, "page", "Page", none, 2, false, [2], []⟩,
    ⟨2, "post", "Post", none, 1, false, [], []⟩,
    ⟨3, "note", "Note", none, 3, false, [3], []⟩,
    ⟨4, "feed", "Feed", none, 9, false, [1, 5, 1], []⟩]
  mediaTypes := [⟨4, "photo", "Photo", none, -1, false, [], []⟩]
  memberTypes := [⟨5, "author", "Author", none, 4, false, [], []⟩]

namespace Snapshot

/-- The snapshot of the document. -/
def tangle : Snapshot where
  types := [
    { id := 1, aliasName := "page", bindingName := "page", parentId := 2, displayName := "Page",
      description := none, kind := .content, base := some 2, isMixin := true },
    { id := 2, aliasName := "post", bindingName := "post", parentId := 1, displayName := "Post",
      description := none, kind := .content, base := some 1, isMixin := true },
    { id := 3, aliasName := "note", bindingName := "note", parentId := 3, displayName := "Note",
      description := none, kind := .content },
    { id := 4, aliasName := "feed", bindingName := "feed", parentId := 9, displayName := "Feed",
      description := none, kind := .content, mixins := [1, 5] },
    { id := 4, aliasName := "photo", bindingName := "photo", parentId := -1, displayName := "Photo",
      description := none, kind := .media, isMixin := true },
    { id := 5, aliasName := "author", bindingName := "author", parentId := 4,
      displayName := "Author", description := none, kind := .member, base := some 4,
      isMixin := true }]

/-- The author and, as its base, the photo are mixins, and so are the page and the post; the note is
none. -/
theorem tangle_marks_mixins :
  ofView Document.tangle.view .rawAlias = .ok tangle ∧
    (∃ v ∈ tangle.types, ∃ m ∈ v.mixins, tangle.Reaches m 4) ∧
    (¬ ∃ v ∈ tangle.types, ∃ m ∈ v.mixins, tangle.Reaches m 3) ∧
    ∀ base ∈ tangle.ancestors 1, base.isMixin = true
  := by
  have hbuilt : ofView Document.tangle.view .rawAlias = .ok tangle := by decide +kernel
  obtain ⟨hmarks, hclosed⟩ := marks_exactly_mixins hbuilt
  refine ⟨hbuilt, ?_, ?_, ?_⟩
  · obtain ⟨t, hget, hiff⟩ := hmarks tangle.types[4] (List.getElem_mem _)
    apply hiff.mp
    cases hget
    rfl
  · obtain ⟨t, hget, hiff⟩ := hmarks tangle.types[2] (List.getElem_mem _)
    intro hreached
    have hmixin := hiff.mpr hreached
    cases hget
    cases hmixin
  · apply (hclosed tangle.types[0] (List.getElem_mem _) rfl).2

end Snapshot

end LiveModels
