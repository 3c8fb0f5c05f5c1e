import LiveModels.Proofs.Keys
import LiveModels.Snapshot.Basic

/-!
# Chains of bases

Climbing from base to base stops where a type has no base, where its base is not in the snapshot,
and where its base has been met before. So every chain of bases ends, cycles or not: each type that
is met is met once, and there are no more ids to meet than types.

Main statement: the ancestors of a type are the one path from base to base which repeats no id and
which cannot be continued.
-/

namespace LiveModels.Snapshot

variable {s : Snapshot} {seen : List Int} {start : Option Int} {chain : List TypeDescriptor}

/-! ### Types by their ids -/

theorem mem_of_get? {id : Int} {t : TypeDescriptor} (h : s.get? id = some t) :
  t ∈ s.types
  := List.mem_reverse.mp (Keys.of_find? h).1

theorem id_of_get? {id : Int} {t : TypeDescriptor} (h : s.get? id = some t) :
  t.id = id
  := (Keys.of_find? h).2

theorem get?_eq_none_iff {id : Int} :
  s.get? id = none ↔ ∀ t ∈ s.types, t.id ≠ id
  := by
  simp [get?]

/-- A type of the snapshot answers for every id of one. -/
theorem exists_get? {t : TypeDescriptor} (h : t ∈ s.types) :
  ∃ u, s.get? t.id = some u
  := by
  rw [← Option.ne_none_iff_exists']
  intro hnone
  apply get?_eq_none_iff.mp hnone t h rfl

/-! ### Climbing -/

/-- Climbing from an id to the base of its type, and on from there, past ids that have not been
seen: the types that are met on the way. -/
inductive Climbs (s : Snapshot) : List Int → Option Int → List TypeDescriptor → Prop
  | root {seen : List Int} : Climbs s seen none []
  | seen {seen : List Int} {id : Int} (hseen : id ∈ seen) : Climbs s seen (some id) []
  | missing {seen : List Int} {id : Int} (hseen : id ∉ seen) (hmissing : s.get? id = none) :
    Climbs s seen (some id) []
  | step {seen : List Int} {id : Int} {t : TypeDescriptor} {chain : List TypeDescriptor}
      (hseen : id ∉ seen) (ht : s.get? id = some t) (hchain : Climbs s (id :: seen) t.base chain) :
    Climbs s seen (some id) (t :: chain)

/-- The types whose ids have not been seen. -/
def unseen (s : Snapshot) (seen : List Int) : List TypeDescriptor :=
  s.types.filter fun t => decide (t.id ∉ seen)

/-- There are fewer types to see after one has been met. -/
theorem length_unseen_lt {id : Int} (hseen : id ∉ seen) {t : TypeDescriptor}
    (ht : s.get? id = some t) :
  (s.unseen (id :: seen)).length < (s.unseen seen).length
  := by
  have hcons : s.unseen (id :: seen) = (s.unseen seen).filter fun u => decide (u.id ≠ id) := by
    rw [unseen, unseen, List.filter_filter]
    congr 1
    funext u
    simp
  rw [hcons, List.length_filter_lt_length_iff_exists]
  obtain rfl := id_of_get? ht
  use t
  simp [unseen, mem_of_get? ht, hseen]

theorem length_unseen_lt_succ (s : Snapshot) (seen : List Int) :
  (s.unseen seen).length < s.types.length + 1
  := Nat.lt_succ_of_le (List.length_filter_le _ _)

/-- Following the bases climbs to the end if it may meet more types than have not been seen. -/
theorem climbs_follow {fuel : Nat} (h : (s.unseen seen).length < fuel) :
  s.Climbs seen start (s.follow fuel seen start)
  := by
  induction fuel generalizing seen start with
  | zero => omega
  | succ fuel ih =>
    cases start with
    | none => apply Climbs.root
    | some id =>
      rw [follow]
      split
      case isTrue hseen => apply Climbs.seen hseen
      case isFalse hseen =>
        split
        case h_1 hmissing => apply Climbs.missing hseen hmissing
        case h_2 t ht =>
          apply Climbs.step hseen ht
          apply ih
          have hlt := length_unseen_lt hseen ht
          omega

theorem climbs_nil_iff :
  s.Climbs seen start [] ↔ ∀ id, start = some id → s.get? id = none ∨ id ∈ seen
  := by
  constructor
  · rintro (_ | hseen | ⟨-, hmissing⟩) id hid
    · cases hid
    · cases hid
      exact .inr hseen
    · cases hid
      exact .inl hmissing
  · intro h
    cases start with
    | none => apply Climbs.root
    | some id =>
      by_cases hseen : id ∈ seen
      · apply Climbs.seen hseen
      · apply Climbs.missing hseen ((h id rfl).resolve_right hseen)

theorem climbs_cons_iff {t : TypeDescriptor} :
  s.Climbs seen start (t :: chain) ↔
    t.id ∉ seen ∧ start.bind s.get? = some t ∧ s.Climbs (t.id :: seen) t.base chain
  := by
  constructor
  · rintro (_ | _ | _ | ⟨hseen, ht, hchain⟩)
    obtain rfl := id_of_get? ht
    exact ⟨hseen, ht, hchain⟩
  · rintro ⟨hseen, ht, hchain⟩
    obtain ⟨id, rfl, ht⟩ := Option.bind_eq_some_iff.mp ht
    obtain rfl := id_of_get? ht
    apply Climbs.step hseen ht hchain

/-- Climbing can go in one way only. -/
theorem Climbs.eq {chain' : List TypeDescriptor} (h : s.Climbs seen start chain)
    (h' : s.Climbs seen start chain') :
  chain = chain'
  := by
  induction h generalizing chain' with
  | root =>
    cases h'
    rfl
  | seen hseen =>
    cases h' with
    | seen _ => rfl
    | missing hnot _ => exact absurd hseen hnot
    | step hnot _ _ => exact absurd hseen hnot
  | missing hseen hmissing =>
    cases h' with
    | seen hmem => exact absurd hmem hseen
    | missing _ _ => rfl
    | step _ ht _ => simp [hmissing] at ht
  | step hseen ht _ ih =>
    cases h' with
    | seen hmem => exact absurd hmem hseen
    | missing _ hmissing => simp [hmissing] at ht
    | step _ ht' hchain' =>
      cases ht.symm.trans ht'
      rw [ih hchain']

/-! ### Paths of bases -/

/-- Whether a list of types leads from a type to its base and so on, meets no id that has been seen
and none twice, and ends only where there is no other base to go on to. -/
structure IsBasePath (s : Snapshot) (seen : List Int) (origin : Option TypeDescriptor)
    (chain : List TypeDescriptor) : Prop where
  nodup : (chain.map (·.id)).Nodup
  unseen : ∀ t ∈ chain, t.id ∉ seen
  leads : List.IsChain (fun t base => t.bind s.baseOf? = base) (origin :: chain.map some)
  ends : ∀ t, chain.getLast?.or origin = some t →
    ∀ id, t.base = some id → s.get? id = none ∨ id ∈ seen ∨ id ∈ chain.map (·.id)

theorem isBasePath_nil_iff {origin : Option TypeDescriptor} :
  s.IsBasePath seen origin [] ↔ s.Climbs seen (origin.bind (·.base)) []
  := by
  rw [climbs_nil_iff]
  constructor
  · intro h id hid
    obtain ⟨t, rfl, hbase⟩ := Option.bind_eq_some_iff.mp hid
    simpa using h.ends t rfl id hbase
  · intro h
    refine ⟨List.nodup_nil, nofun, List.IsChain.singleton _, ?_⟩
    rintro t rfl id hbase
    simpa using h id hbase

theorem isBasePath_cons_iff {origin : Option TypeDescriptor} {t : TypeDescriptor} :
  s.IsBasePath seen origin (t :: chain) ↔
    t.id ∉ seen ∧ origin.bind s.baseOf? = some t ∧ s.IsBasePath (t.id :: seen) (some t) chain
  := by
  have hlast : (t :: chain).getLast?.or origin = chain.getLast?.or (some t) := by
    rw [List.getLast?_cons]
    cases chain.getLast? <;> rfl
  constructor
  · rintro ⟨hnodup, hunseen, hleads, hends⟩
    rw [List.map_cons, List.nodup_cons] at hnodup
    rw [List.map_cons, List.isChain_cons_cons] at hleads
    refine ⟨hunseen t List.mem_cons_self, hleads.1, hnodup.2, ?_, hleads.2, ?_⟩
    · intro u hu
      rw [List.mem_cons, not_or]
      constructor
      · intro hid
        apply hnodup.1
        rw [← hid]
        apply List.mem_map_of_mem hu
      · apply hunseen u (List.mem_cons_of_mem _ hu)
    · intro u hu id hbase
      rw [hlast] at hends
      have hstop := hends u hu id hbase
      rw [List.map_cons, List.mem_cons] at hstop
      rw [List.mem_cons]
      tauto
  · rintro ⟨hseen, hbase, hnodup, hunseen, hleads, hends⟩
    refine ⟨?_, ?_, ?_, ?_⟩
    · rw [List.map_cons, List.nodup_cons]
      refine ⟨?_, hnodup⟩
      intro hmem
      obtain ⟨u, hu, hid⟩ := List.mem_map.mp hmem
      apply hunseen u hu
      rw [hid]
      apply List.mem_cons_self
    · rw [List.forall_mem_cons]
      refine ⟨hseen, ?_⟩
      intro u hu hmem
      apply hunseen u hu (List.mem_cons_of_mem _ hmem)
    · rw [List.map_cons, List.isChain_cons_cons]
      exact ⟨hbase, hleads⟩
    · intro u hu id hid
      rw [hlast] at hu
      have hstop := hends u hu id hid
      rw [List.mem_cons] at hstop
      rw [List.map_cons, List.mem_cons]
      tauto

/-- What is met on climbing is the path of bases. -/
theorem climbs_iff_isBasePath {origin : Option TypeDescriptor} :
  s.Climbs seen (origin.bind (·.base)) chain ↔ s.IsBasePath seen origin chain
  := by
  induction chain generalizing seen origin with
  | nil => rw [isBasePath_nil_iff]
  | cons t chain ih =>
    rw [climbs_cons_iff, isBasePath_cons_iff, ← ih, Option.bind_assoc]
    rfl

/-- The ancestors of a type are what is met on climbing from it. -/
theorem climbs_ancestors (s : Snapshot) (id : Int) :
  s.Climbs [id] ((s.get? id).bind (·.base)) (s.ancestors id)
  := climbs_follow (s.length_unseen_lt_succ [id])

/-- Climbing from a type ends, and the ancestors are what is met. They are the only path from base
to base that neither comes back to the type nor repeats an id, and that goes on as far as such a
path can. -/
theorem ancestors_maximal (s : Snapshot) (id : Int) :
  s.Climbs [id] ((s.get? id).bind (·.base)) (s.ancestors id) ∧
    s.IsBasePath [id] (s.get? id) (s.ancestors id) ∧
    ∀ chain, s.IsBasePath [id] (s.get? id) chain → chain = s.ancestors id
  := by
  have hclimbs := s.climbs_ancestors id
  refine ⟨hclimbs, climbs_iff_isBasePath.mp hclimbs, ?_⟩
  intro chain hchain
  apply (climbs_iff_isBasePath.mpr hchain).eq hclimbs

end LiveModels.Snapshot
