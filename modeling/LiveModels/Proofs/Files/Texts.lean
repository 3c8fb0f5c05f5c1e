import LiveModels.Cache.Lock
import LiveModels.Cache.Store
import LiveModels.Proofs.Files.Directory

/-!
# Texts of files

Which texts there are in the files of a tree after an operation on the models directory: those that
were there before, and those that the operation writes. Nothing is assumed of the tree or of the
path of the directory.
-/

namespace LiveModels

namespace Tree

variable {kind kind' : String → Prop} {t t' t'' : Tree} {path : Path} {text : String}

/-- Whether some file of a tree holds a text. -/
def Holds (t : Tree) (text : String) : Prop :=
  ∃ q, t.get? q = some (.file (.text text))

/-- Whether all texts of a tree are those of another, or of one kind. -/
def Writes (kind : String → Prop) (t t' : Tree) : Prop :=
  ∀ text, t'.Holds text → t.Holds text ∨ kind text

namespace Writes

theorem refl (kind : String → Prop) (t : Tree) :
  Writes kind t t
  := fun _ h => .inl h

theorem trans (h : Writes kind t t') (h' : Writes kind t' t'') :
  Writes kind t t''
  := by
  intro text htext
  rcases h' text htext with hold | hkind
  · apply h text hold
  · apply Or.inr hkind

theorem mono (h : Writes kind t t') (hkind : ∀ text, kind text → kind' text) :
  Writes kind' t t'
  := fun text htext => (h text htext).imp_right (hkind text)

end Writes

/-! ### Operations on files -/

/-- Setting a node writes its text, if it has one. -/
theorem writes_set (t : Tree) (p : Place) {n : Node}
    (hn : ∀ text, n = .file (.text text) → kind text) :
  Writes kind t (t.set p n)
  := by
  rintro text ⟨q, hq⟩
  by_cases hqp : q = p
  · subst hqp
    by_cases hroot : q = []
    · rw [hroot] at hq
      cases hq
    · rw [get?_set_self t hroot] at hq
      apply Or.inr (hn text (Option.some.inj hq))
  · rw [get?_set_of_ne t hqp] at hq
    exact .inl ⟨q, hq⟩

/-- What is erased is gone, and all else is where it was. -/
theorem get?_of_get?_erase {p q : Place} {n : Node} (h : (t.erase p).get? q = some n) :
  t.get? q = some n
  := by
  unfold get? erase at h
  unfold get?
  split at h
  case isTrue hroot =>
    rw [if_pos hroot]
    apply h
  case isFalse hroot =>
    rw [if_neg hroot, ← h, List.find?_filter]
    rw [List.find?_filter] at h
    obtain ⟨e, he, -⟩ := Option.map_eq_some_iff.mp h
    have hkept := List.find?_some he
    simp only [decide_eq_true_eq, beq_iff_eq] at hkept
    congr 2
    funext e'
    by_cases he' : e'.1 = q
    · rw [he', ← hkept.2]
      simp only [hkept.1, BEq.rfl, and_self, decide_true]
    · simp [he']

theorem writes_erase (kind : String → Prop) (t : Tree) (p : Place) :
  Writes kind t (t.erase p)
  := fun _ ⟨q, hq⟩ => .inl ⟨q, get?_of_get?_erase hq⟩

theorem writes_makeDirectory (h : t.makeDirectory path = .ok t') :
  Writes kind t t'
  := by
  obtain ⟨p, -, h⟩ := Result.bind_eq_ok_iff.mp h
  split at h
  · cases h
  · cases h
    apply writes_set
    intro text hn
    cases hn

theorem writes_makeFirst (kind : String → Prop) (t : Tree) (paths : List Path) :
  Writes kind t (t.makeFirst paths).1
  := by
  induction paths generalizing t with
  | nil => apply Writes.refl
  | cons path above ih =>
    unfold makeFirst
    dsimp only
    split
    case h_1 made hmade => apply writes_makeDirectory hmade
    case h_2 =>
      have habove := ih t
      split
      case h_1 t₁ fault ht₁ =>
        rw [ht₁] at habove
        apply habove
      case h_2 t₁ done ht₁ =>
        rw [ht₁] at habove
        split
        case h_1 made hmade => apply habove.trans (writes_makeDirectory hmade)
        case h_2 => apply habove
    case h_3 => apply Writes.refl

theorem writes_makeDirectories (kind : String → Prop) (t : Tree) (path : Path) :
  Writes kind t (t.makeDirectories path).1
  := writes_makeFirst kind t _

/-- A file is written under a name in a directory, where no directory is. -/
theorem exists_of_write {content : Content} (h : t.write path content = .ok t') :
  ∃ p, t.place path path.steps = .ok p ∧ path.endsInDots = false ∧ t.get? p ≠ some .directory ∧
    t' = t.set p (.file content)
  := by
  obtain ⟨p, hp, h⟩ := Result.bind_eq_ok_iff.mp h
  cases hslash : path.endsInSlash
  case true =>
    simp [hslash] at h
  case false =>
    simp only [hslash, Bool.or_false, Bool.false_eq_true, if_false] at hp h
    cases hdots : path.endsInDots
    case true =>
      simp [hdots] at h
    case false =>
      simp only [hdots, Bool.false_eq_true, if_false] at h
      cases hget : t.get? p with
      | none =>
        simp only [hget] at h
        cases h
        exact ⟨p, hp, rfl, by simp [hget], rfl⟩
      | some node =>
        simp only [hget] at h
        cases node with
        | directory => cases h
        | file old =>
          cases h
          exact ⟨p, hp, rfl, by simp [hget], rfl⟩

/-- What is removed is a file under a name in a directory. -/
theorem exists_of_removeFile (h : t.removeFile path = .ok t') :
  ∃ p content, t.place path path.steps = .ok p ∧ path.endsInDots = false ∧
    t.get? p = some (.file content) ∧ t' = t.erase p
  := by
  obtain ⟨p, hp, h⟩ := Result.bind_eq_ok_iff.mp h
  cases hdots : path.endsInDots
  case true =>
    simp [hdots] at h
  case false =>
    simp only [hdots, Bool.false_eq_true, if_false] at h
    cases hget : t.get? p with
    | none =>
      simp only [hget] at h
      cases h
    | some node =>
      simp only [hget] at h
      cases node with
      | directory => cases h
      | file content =>
        dsimp only at h
        split at h
        · cases h
        · cases h
          exact ⟨p, content, hp, rfl, hget, rfl⟩

theorem writes_write (h : t.write path (.text text) = .ok t') (hkind : kind text) :
  Writes kind t t'
  := by
  obtain ⟨p, -, -, -, rfl⟩ := exists_of_write h
  apply writes_set
  intro text' hn
  cases hn
  apply hkind

theorem writes_removeFile (kind : String → Prop) (h : t.removeFile path = .ok t') :
  Writes kind t t'
  := by
  obtain ⟨p, content, -, -, -, rfl⟩ := exists_of_removeFile h
  apply writes_erase

/-- A text that is read is held. -/
theorem holds_of_readText (h : t.readText path = .ok text) :
  t.Holds text
  := by
  have hnode := readText_eq_ok_iff.mp h
  obtain ⟨q, -, hq⟩ := Result.bind_eq_ok_iff.mp hnode
  use q
  split at hq
  · cases hq
    assumption
  · cases hq

end Tree

/-! ### Operations on the models directory -/

open LiveModels.Tree

namespace Cache

variable {kind : String → Prop} {t t' : Tree} {text : String}

theorem writes_replace (c : Cache) (t : Tree) (a : Artifact) (hkind : kind text) :
  Writes kind t (c.replace t a text).1
  := by
  have hmade := writes_makeDirectories kind t (c.parent a)
  unfold replace
  split
  case h_1 t₁ fault ht₁ =>
    rw [ht₁] at hmade
    apply hmade
  case h_2 t₁ done ht₁ =>
    rw [ht₁] at hmade
    split
    case h_1 => apply hmade
    case h_2 t₂ hwrite => apply hmade.trans (writes_write hwrite hkind)

theorem Step.writes_run {c : Cache} {step : Step} {result : Except ModelsError Unit}
    (h : step.run c t = (t', result)) (hkind : kind step.text) :
  Writes kind t t'
  := by
  have hwrites := writes_replace c t step.artifact hkind
  rw [Step.run] at h
  rw [h] at hwrites
  apply hwrites

theorem writes_discard (kind : String → Prop) (c : Cache) (t : Tree) (a : Artifact) :
  Writes kind t (c.discard t a).1
  := by
  unfold discard
  split
  case h_1 t₁ hremove => apply writes_removeFile kind hremove
  case h_2 => apply Writes.refl
  case h_3 => apply Writes.refl

theorem writes_acquireLock (c : Cache) (t : Tree) (held : Bool) (timeout : Nat) (hkind : kind "") :
  Writes kind t (c.acquireLock t held timeout).1
  := by
  have hmade := writes_makeDirectories kind t c.directory
  unfold acquireLock
  split
  case h_1 t₁ fault ht₁ =>
    rw [ht₁] at hmade
    apply hmade
  case h_2 t₁ done ht₁ =>
    rw [ht₁] at hmade
    split
    case h_1 => apply hmade
    case h_2 => apply hmade
    case h_3 =>
      split
      case h_1 t₂ hwrite => apply hmade.trans (writes_write hwrite hkind)
      case h_2 => apply hmade

theorem writes_pruneEntry (c : Cache) (t : Tree) (name : String) (hkind : kind "") :
  Writes kind t (c.pruneEntry t name)
  := by
  have hremove : Writes kind t ((t.removeFile (c.compiledPath.join name)).toOption.getD t) := by
    cases hresult : t.removeFile (c.compiledPath.join name) with
    | error fault => apply Writes.refl
    | ok t₁ => apply writes_removeFile kind hresult
  unfold pruneEntry
  dsimp only
  split
  · split
    · apply Writes.refl
    · apply hremove
  · split
    case h_1 t₁ ht₁ => apply writes_removeFile kind ht₁
    case h_2 =>
      cases hresult : t.write ((c.compiledPath.join name).withEnding removalEnding) (.text "") with
      | error fault => apply Writes.refl
      | ok t₁ => apply writes_write hresult hkind

theorem writes_pruneEntries (c : Cache) (t : Tree) (names : List String) (hkind : kind "") :
  Writes kind t (names.foldl c.pruneEntry t)
  := by
  induction names generalizing t with
  | nil => apply Writes.refl
  | cons name rest ih => apply (writes_pruneEntry c t name hkind).trans (ih _)

end Cache

/-- Compiling writes the manifest of the source, if it writes anything but directories. -/
theorem Manifest.writes_compile {kind : String → Prop} {t t' : Tree} {moduleName source : String}
    {output : Path} {result : Except CompileError Module}
    (h : compile t moduleName source output = (t', result))
    (hkind : ∀ m, ofSource moduleName source = .ok m → result = .ok (m.toModule output) →
      kind m.print) :
  Writes kind t t'
  := by
  have hwrite : ∀ {m : Manifest} {t : Tree}, ofSource moduleName source = .ok m →
      m.write t output = (t', result) → Writes kind t t' := by
    intro m t hm h
    unfold write at h
    split at h
    case h_1 t₁ ht₁ =>
      cases h
      apply writes_write ht₁ (hkind m hm rfl)
    case h_2 =>
      cases h
      apply Writes.refl
  unfold compile at h
  split at h
  case h_1 =>
    cases h
    apply Writes.refl
  case h_2 m hm =>
    unfold save at h
    split at h
    case h_1 => apply hwrite hm h
    case h_2 directory _ =>
      have hmade := writes_makeDirectories kind t directory
      split at h
      case h_1 t₁ done ht₁ =>
        rw [ht₁] at hmade
        apply hmade.trans (hwrite hm h)
      case h_2 t₁ fault ht₁ =>
        cases h
        rw [ht₁] at hmade
        apply hmade

end LiveModels
