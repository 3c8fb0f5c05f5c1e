import LiveModels.Proofs.Files.Path
import LiveModels.Proofs.Keys
import LiveModels.Proofs.Text.Order
import Mathlib.Data.List.Sort

/-!
# Sound trees

A tree is sound if every place holds one node, every node lies in a directory, and names are names.
All operations keep trees sound. In a sound tree a node is set or erased without an effect on any
other place, the entries of a directory are the nodes one name below it, and a walk from directory
to directory leads to the same place as long as those directories stay.
-/

namespace LiveModels.Tree

/-- Whether a tree is one that operations can have made. -/
structure Sound (t : Tree) : Prop where
  nodup : (t.entries.map (·.1)).Nodup
  names : ∀ e ∈ t.entries, ∀ name ∈ e.1, IsName name
  ne_nil : ∀ e ∈ t.entries, e.1 ≠ []
  parents : ∀ e ∈ t.entries, t.get? e.1.dropLast = some .directory

instance (t : Tree) : Decidable t.Sound :=
  decidable_of_iff
    ((t.entries.map (·.1)).Nodup ∧ (∀ e ∈ t.entries, ∀ name ∈ e.1, IsName name) ∧
      (∀ e ∈ t.entries, e.1 ≠ []) ∧ ∀ e ∈ t.entries, t.get? e.1.dropLast = some .directory)
    ⟨fun ⟨hnodup, hnames, hnil, hparents⟩ => ⟨hnodup, hnames, hnil, hparents⟩,
      fun h => ⟨h.nodup, h.names, h.ne_nil, h.parents⟩⟩

variable {t t' : Tree} {p q : Place} {n : Node}

/-! ### Nodes -/

theorem get?_nil (t : Tree) :
  t.get? [] = some .directory
  := rfl

theorem get?_eq_some_iff_mem (h : (t.entries.map (·.1)).Nodup) (hp : p ≠ []) :
  t.get? p = some n ↔ (p, n) ∈ t.entries
  := by
  rw [get?, if_neg hp, Option.map_eq_some_iff]
  simp only [Keys.find?_eq_some_iff h]
  constructor
  · rintro ⟨e, ⟨hmem, rfl⟩, rfl⟩
    exact hmem
  · intro hmem
    exact ⟨(p, n), ⟨hmem, rfl⟩, rfl⟩

/-- The node at a place is that of the entry of the place. -/
theorem Sound.get?_eq_some_iff (h : t.Sound) (hp : p ≠ []) :
  t.get? p = some n ↔ (p, n) ∈ t.entries
  := get?_eq_some_iff_mem h.nodup hp

/-- The tree with nothing but its root. -/
theorem sound_nil :
  (Tree.mk []).Sound
  := by
  constructor <;> simp

/-- All that leads to an entry is a directory. -/
theorem Sound.get?_of_prefix (h : t.Sound) (hq : (q, n) ∈ t.entries) (hpq : p <+: q)
    (hne : p ≠ q) :
  t.get? p = some .directory
  := by
  induction hlen : q.length generalizing q n with
  | zero =>
    obtain rfl := List.length_eq_zero_iff.mp hlen
    exact absurd rfl (h.ne_nil _ hq)
  | succ length ih =>
    have hparent := h.parents _ hq
    have hq' : q ≠ [] := h.ne_nil _ hq
    obtain ⟨front, last, rfl⟩ : ∃ front last, q = front ++ [last] :=
      ⟨q.dropLast, q.getLast hq', (List.dropLast_append_getLast hq').symm⟩
    rw [List.dropLast_concat] at hparent
    rcases List.prefix_concat_iff.mp hpq with heq | hfront
    · exact absurd heq hne
    · by_cases hpf : p = front
      · rw [hpf, hparent]
      · have hfront' : front ≠ [] := by
          rintro rfl
          exact hpf (List.prefix_nil.mp hfront)
        apply ih ((h.get?_eq_some_iff hfront').mp hparent) hfront hpf
        simpa using hlen

/-- What has a node is named by names. -/
theorem Sound.isName_of_get? (h : t.Sound) {name : String} (hget : t.get? (p ++ [name]) = some n) :
  IsName name
  := h.names _ ((h.get?_eq_some_iff (by simp)).mp hget) name (by simp)

/-- What has a node lies in a directory. -/
theorem Sound.get?_parent (h : t.Sound) {name : String} (hget : t.get? (p ++ [name]) = some n) :
  t.get? p = some .directory
  := by
  have hparent := h.parents _ ((h.get?_eq_some_iff (by simp)).mp hget)
  rwa [List.dropLast_concat] at hparent

/-! ### Setting -/

/-- Setting a node at a free place loses no directory. -/
theorem get?_set_of_free (h : t.get? p = none) (hq : t.get? q = some .directory) :
  (t.set p n).get? q = some .directory
  := by
  rw [get?_set_of_ne, hq]
  rintro rfl
  rw [h] at hq
  cases hq

/-- A node can be set in a directory, unless a file would take the place of a directory. -/
theorem Sound.set (h : t.Sound) {name : String} (hp : t.get? p = some .directory)
    (hname : IsName name) (hn : n = .directory ∨ t.get? (p ++ [name]) ≠ some .directory) :
  (t.set (p ++ [name]) n).Sound
  := by
  have hkeep : ∀ q, t.get? q = some .directory → (t.set (p ++ [name]) n).get? q = some .directory := by
    intro q hq
    by_cases heq : q = p ++ [name]
    · subst heq
      rcases hn with rfl | hn
      · apply get?_set_self _ (by simp)
      · exact absurd hq hn
    · rw [get?_set_of_ne _ heq, hq]
  have hold : ∀ e ∈ (t.set (p ++ [name]) n).entries, e = (p ++ [name], n) ∨ e ∈ t.entries := by
    intro e he
    simp only [Tree.set, List.mem_cons, List.mem_filter] at he
    rcases he with he | he
    · exact .inl he
    · exact .inr he.1
  constructor
  · simp only [Tree.set, List.map_cons, List.nodup_cons]
    constructor
    · simp
    · apply List.Nodup.sublist _ h.nodup
      apply List.Sublist.map _ List.filter_sublist
  · intro e he name' hname'
    rcases hold e he with rfl | he
    · simp only [List.mem_append, List.mem_singleton] at hname'
      rcases hname' with hname' | rfl
      · have hne : p ≠ [] := List.ne_nil_of_mem hname'
        apply h.names _ ((h.get?_eq_some_iff hne).mp hp) _ hname'
      · apply hname
    · apply h.names e he _ hname'
  · intro e he
    rcases hold e he with rfl | he
    · simp
    · apply h.ne_nil e he
  · intro e he
    rcases hold e he with rfl | he
    · rw [List.dropLast_concat]
      apply hkeep _ hp
    · apply hkeep _ (h.parents e he)

/-! ### Erasing -/

theorem mem_erase {e : Place × Node} :
  e ∈ (t.erase p).entries ↔ e ∈ t.entries ∧ ¬ p <+: e.1
  := by
  simp [Tree.erase, ← List.isPrefixOf_iff_prefix]

theorem Sound.nodup_erase (h : t.Sound) (p : Place) :
  ((t.erase p).entries.map (·.1)).Nodup
  := by
  apply List.Nodup.sublist _ h.nodup
  apply List.Sublist.map _ List.filter_sublist

theorem Sound.get?_erase_self (h : t.Sound) (hp : p ≠ []) :
  (t.erase p).get? p = none
  := by
  rw [Option.eq_none_iff_forall_ne_some]
  intro n hn
  have hmem := (get?_eq_some_iff_mem (h.nodup_erase p) hp).mp hn
  apply (mem_erase.mp hmem).2
  apply List.prefix_refl

/-- Erasing a file leaves every other place as it is. -/
theorem Sound.get?_erase_of_ne (h : t.Sound) {content : Content}
    (hp : t.get? p = some (.file content)) (hq : q ≠ p) :
  (t.erase p).get? q = t.get? q
  := by
  by_cases hnil : q = []
  · simp [get?, hnil]
  · ext n
    rw [get?_eq_some_iff_mem (h.nodup_erase p) hnil, h.get?_eq_some_iff hnil, mem_erase]
    apply and_iff_left_of_imp
    intro hmem hprefix
    have hdirectory := h.get?_of_prefix hmem hprefix (Ne.symm hq)
    rw [hp] at hdirectory
    cases hdirectory

/-- A file can be erased. -/
theorem Sound.erase (h : t.Sound) {content : Content} (hp : t.get? p = some (.file content)) :
  (t.erase p).Sound
  := by
  constructor
  · apply h.nodup_erase
  · intro e he
    apply h.names e (mem_erase.mp he).1
  · intro e he
    apply h.ne_nil e (mem_erase.mp he).1
  · intro e he
    have hparent := h.parents e (mem_erase.mp he).1
    rw [h.get?_erase_of_ne hp, hparent]
    intro heq
    rw [heq, hp] at hparent
    cases hparent

/-! ### Entries of a directory -/

/-- The entries of a directory are the nodes one name below it. -/
theorem Sound.mem_children (h : t.Sound) {name : String} :
  (name, n) ∈ t.children p ↔ t.get? (p ++ [name]) = some n
  := by
  rw [h.get?_eq_some_iff (by simp), children]
  simp only [List.mem_mergeSort, List.mem_filterMap]
  constructor
  · rintro ⟨⟨place, node⟩, hmem, hentry⟩
    split at hentry
    case h_1 last hlast =>
      split at hentry
      · simp only [Option.some.injEq, Prod.mk.injEq] at hentry
        obtain ⟨rfl, rfl⟩ := hentry
        obtain ⟨front, rfl⟩ := List.getLast?_eq_some_iff.mp hlast
        simp_all
      · cases hentry
    case h_2 =>
      cases hentry
  · intro hmem
    use (p ++ [name], n), hmem
    simp

/-- The names in a directory are different. -/
theorem Sound.nodup_children (h : t.Sound) (p : Place) :
  ((t.children p).map (·.1)).Nodup
  := by
  rw [children, ((List.mergeSort_perm _ _).map _).nodup_iff, List.nodup_iff_pairwise_ne,
    List.pairwise_map]
  apply List.Pairwise.filterMap (R := fun e e' => e.1 ≠ e'.1)
  · rintro ⟨q, m⟩ ⟨q', m'⟩ hne ⟨name, node⟩ hentry ⟨name', node'⟩ hentry' heq
    apply hne
    simp only at heq hentry hentry' ⊢
    split at hentry
    case h_2 => cases hentry
    case h_1 last hlast =>
      split at hentry'
      case h_2 => cases hentry'
      case h_1 last' hlast' =>
        simp only [Option.ite_none_right_eq_some, Option.some.injEq, Prod.mk.injEq] at hentry hentry'
        rw [← List.dropLast_append_getLast? _ hlast, ← List.dropLast_append_getLast? _ hlast',
          hentry.1, hentry'.1, hentry.2.1, hentry'.2.1, heq]
  · have hnodup := h.nodup
    rwa [List.nodup_iff_pairwise_ne, List.pairwise_map] at hnodup

/-- The names in a directory are in ascending order. -/
theorem pairwise_children (t : Tree) (p : Place) :
  (t.children p).Pairwise (fun a b => a.1 ≤ b.1)
  := Text.pairwise_le_mergeSort Prod.fst _

/-- The selected entries of a directory are the same in trees that have the same selected nodes
there. -/
theorem Sound.filter_children_eq (h : t.Sound) (h' : t'.Sound) {select : String × Node → Bool}
    (hsame : ∀ name n, select (name, n) = true →
      (t.get? (p ++ [name]) = some n ↔ t'.get? (p ++ [name]) = some n)) :
  (t.children p).filter select = (t'.children p).filter select
  := by
  have hmem : ∀ e, e ∈ (t.children p).filter select ↔ e ∈ (t'.children p).filter select := by
    rintro ⟨name, n⟩
    rw [List.mem_filter, List.mem_filter, h.mem_children, h'.mem_children]
    apply and_congr_left
    apply hsame
  have hnodup := (h.nodup_children p).of_map
  have hnodup' := (h'.nodup_children p).of_map
  apply List.Perm.eq_of_pairwise _ ((pairwise_children t p).filter _) ((pairwise_children t' p).filter _)
  · rw [List.perm_ext_iff_of_nodup (hnodup.filter _) (hnodup'.filter _)]
    apply hmem
  · intro e e' he he' hle hle'
    apply List.inj_on_of_nodup_map (h.nodup_children p) (List.mem_filter.mp he).1
    · apply (List.mem_filter.mp ((hmem e').mpr he')).1
    · apply String.le_antisymm hle hle'

/-! ### Walking -/

/-- Walking along steps and then along others. -/
theorem walk_append (t : Tree) (here : Place) (steps others : List String) :
  t.walk here (steps ++ others) = (t.walk here steps).bind fun there => t.walk there others
  := by
  induction steps generalizing here with
  | nil => rfl
  | cons step rest ih =>
    simp only [List.cons_append, walk]
    split
    · split
      · rfl
      · apply ih
    · rfl
    · rfl

/-- One step by a name from a directory. -/
theorem walk_name {name : String} (hp : t.get? p = some .directory) (hname : IsName name) :
  t.walk p [name] = .ok (p ++ [name])
  := by
  have hsize := hname.size_le
  simp [walk, hp, after, hname.ne_dot, hname.ne_dots, Nat.not_lt.mpr hsize]

/-- Steps that lead nowhere lead from a directory to itself. -/
theorem walk_idle_iff {steps : List String} (hidle : ∀ step ∈ steps, step = ".")
    (hp : t.get? p = some .directory) :
  t.walk p steps = .ok q ↔ q = p
  := by
  induction steps with
  | nil => simp [walk, eq_comm]
  | cons step rest ih =>
    rw [List.forall_mem_cons] at hidle
    obtain ⟨rfl, hrest⟩ := hidle
    have hsize : ¬ mostNameOctets < ".".utf8ByteSize := by decide
    simp only [walk, hp, hsize, if_false, after, if_true]
    apply ih hrest

/-- A walk leads to the same place if no directory is lost. -/
theorem walk_mono (hkeep : ∀ q, t.get? q = some .directory → t'.get? q = some .directory)
    {here there : Place} {steps : List String} (hwalk : t.walk here steps = .ok there) :
  t'.walk here steps = .ok there
  := by
  induction steps generalizing here with
  | nil => apply hwalk
  | cons step rest ih =>
    simp only [walk] at hwalk ⊢
    split at hwalk
    case h_1 hdirectory =>
      rw [hkeep _ hdirectory]
      split at hwalk
      · cases hwalk
      case isFalse hsize =>
        simp only [hsize, if_false]
        apply ih hwalk
    · cases hwalk
    · cases hwalk

/-- Where steps lead that never lead back. -/
theorem walk_eq {here there : Place} {steps : List String} (hwalk : t.walk here steps = .ok there)
    (hforward : ".." ∉ steps) :
  there = here ++ steps.filter (· ≠ ".")
  := by
  induction steps generalizing here with
  | nil =>
    cases hwalk
    simp
  | cons step rest ih =>
    rw [List.mem_cons, not_or] at hforward
    simp only [walk] at hwalk
    split at hwalk
    case h_1 =>
      split at hwalk
      · cases hwalk
      · rw [ih hwalk hforward.2, after, if_neg (Ne.symm hforward.1)]
        by_cases hdot : step = "." <;> simp [hdot]
    · cases hwalk
    · cases hwalk

theorem walk_eq_names {path : Path} (hforward : ".." ∉ path.steps)
    (hwalk : t.walk [] path.steps = .ok p) :
  p = path.names
  := by
  rw [Path.names_eq, walk_eq hwalk hforward, List.nil_append]

/-- Steps that never lead back lead through directories on the way to their end only. -/
theorem walk_of_prefix {here there : Place} {steps : List String}
    (hwalk : t.walk here steps = .ok there) (hforward : ".." ∉ steps)
    (hway : ∀ q, q <+: there → t'.get? q = some .directory) :
  t'.walk here steps = .ok there
  := by
  induction steps generalizing here with
  | nil => apply hwalk
  | cons step rest ih =>
    have hhere : here <+: there := by
      rw [walk_eq hwalk hforward]
      apply List.prefix_append
    rw [List.mem_cons, not_or] at hforward
    simp only [walk, hway here hhere] at hwalk ⊢
    split at hwalk
    case h_1 =>
      split at hwalk
      · cases hwalk
      case isFalse hsize =>
        simp only [hsize, if_false]
        apply ih hwalk hforward.2
    · cases hwalk
    · cases hwalk

end LiveModels.Tree
