import LiveModels.Cache.Lock
import LiveModels.Proofs.Files.Change

/-!
# Artifacts

What happens to the files of a models directory when artifacts are read, replaced and removed. The
directory is the place to which its path leads; an operation on an artifact changes one file in it,
or fails and changes nothing.
-/

namespace LiveModels

open LiveModels.Tree

/-! ### Names -/

theorem Artifact.isName (a : Artifact) :
  IsName a.fileName
  := by
  cases a <;> decide

theorem isName_compiledName :
  IsName compiledName
  := by
  decide

theorem Artifact.fileName_inj {a b : Artifact} :
  a.fileName = b.fileName ↔ a = b
  := by
  cases a <;> cases b <;> decide

theorem Artifact.fileName_ne_compiledName (a : Artifact) :
  a.fileName ≠ compiledName
  := by
  cases a <;> decide

namespace Cache

variable {c : Cache} {t t' : Tree} {p : Place} {a : Artifact} {text : String}
variable {kind : Place → Option Node → Prop}

/-! ### Reading -/

/-- The text of an artifact. -/
theorem read?_eq_some_iff (h : t.Leads c.directory p) :
  c.read? t a = some text ↔
    faultOf? (c.path a) = none ∧ t.get? (p ++ [a.fileName]) = some (.file (.text text))
  := by
  rw [path, ← h.readText_eq_ok_iff a.isName, read?, path]
  cases t.readText (c.directory.join a.fileName) with
  | error fault => simp [Except.toOption]
  | ok text' => simp [Except.toOption]

/-- An artifact that can be read is a file of the models directory. -/
theorem exists_leads_of_read? (h : c.read? t a = some text) :
  ∃ p, t.Leads c.directory p ∧ t.get? (p ++ [a.fileName]) = some (.file (.text text))
  := by
  have hread : t.readText (c.path a) = .ok text := by
    rw [read?] at h
    cases hread : t.readText (c.path a) with
    | error fault => simp [hread, Except.toOption] at h
    | ok text' => simpa [hread, Except.toOption] using h
  obtain ⟨-, -, p, hleads, hget⟩ :=
    exists_leads_of_node a.isName.toIsStep (readText_eq_ok_iff.mp hread)
  use p, hleads

/-- An artifact is read as before if its place is spared. -/
theorem read?_eq_of_becomes (h : t.Leads c.directory p) (hbecomes : Becomes kind t t')
    (hkind : ∀ n, ¬ kind (p ++ [a.fileName]) n) :
  c.read? t' a = c.read? t a
  := by
  ext text
  rw [← Option.mem_def, ← Option.mem_def, Option.mem_def, Option.mem_def, read?_eq_some_iff h,
    read?_eq_some_iff (h.mono hbecomes.keeps), hbecomes.get?_eq (hkind _)]

/-! ### Replacing -/

/-- The directory in which an artifact lies is the models directory. -/
theorem leads_parent_iff (c : Cache) (a : Artifact) :
  t.Leads (c.parent a) p ↔ t.Leads c.directory p
  := by
  rw [parent, path, leads_parent_join_iff c.directory a.isName.toIsStep]

/-- All artifacts lie in the same directory. -/
theorem parent_eq (c : Cache) (a b : Artifact) :
  c.parent a = c.parent b
  := by
  rw [parent, parent, path, path, Path.parent_join_eq _ a.isName.toIsStep b.isName.toIsStep]

theorem steps_parent_isPrefix (c : Cache) (a : Artifact) :
  (c.parent a).steps <+: c.directory.steps
  := by
  obtain ⟨idle, hsteps, -⟩ := Path.steps_parent_join c.directory a.isName.toIsStep
  rw [parent, path, hsteps]
  apply List.prefix_append

theorem names_parent (c : Cache) (a : Artifact) :
  (c.parent a).names = c.directory.names
  := by
  rw [parent, path, Path.names_parent_join _ a.isName.toIsStep]

theorem forward_parent (a : Artifact) (h : ".." ∉ c.directory.steps) :
  ".." ∉ (c.parent a).steps
  := by
  rwa [← Path.dots_mem_names_iff, names_parent, Path.dots_mem_names_iff]

theorem faultOf?_parent {a : Artifact} (h : faultOf? (c.path a) = none) :
  faultOf? (c.parent a) = none
  := by
  rw [parent]
  apply Path.faultOf?_parent h

/-- Replacing an artifact sets its file, or fails and changes nothing. -/
theorem replace_cases (h : t.Leads c.directory p) (a : Artifact) (text : String) :
  (∃ e, c.replace t a text = (t, .error e)) ∨
    t.get? (p ++ [a.fileName]) ≠ some .directory ∧
      c.replace t a text = (t.set (p ++ [a.fileName]) (.file (.text text)), .ok ())
  := by
  have hmake := ((leads_parent_iff c a).mpr h).makeDirectories
  unfold replace
  split
  case h_1 t₁ fault ht₁ =>
    rw [ht₁] at hmake
    subst hmake
    apply Or.inl ⟨_, rfl⟩
  case h_2 t₁ done ht₁ =>
    rw [ht₁] at hmake
    subst hmake
    split
    case h_1 fault _ =>
      apply Or.inl ⟨_, rfl⟩
    case h_2 t₂ hwrite =>
      obtain ⟨-, -, q, hleads, hfree, rfl⟩ := exists_leads_of_write a.isName.toIsStep hwrite
      rw [h.eq hleads] at hfree ⊢
      exact .inr ⟨hfree, rfl⟩

theorem becomes_replace (hs : t.Sound) (h : t.Leads c.directory p)
    (hkind : kind (p ++ [a.fileName]) (some (.file (.text text)))) :
  Becomes kind t (c.replace t a text).1
  := by
  rcases replace_cases h a text with ⟨e, heq⟩ | ⟨hfree, heq⟩
  · rw [heq]
    apply Becomes.refl hs
  · rw [heq]
    apply hs.becomes_set h.directory a.isName (.inr hfree) hkind

/-! ### Removing -/

/-- Discarding an artifact erases its file, or changes nothing. -/
theorem discard_cases (h : t.Leads c.directory p) (a : Artifact) :
  (c.discard t a).1 = t ∨
    (∃ content, t.get? (p ++ [a.fileName]) = some (.file content)) ∧
      c.discard t a = (t.erase (p ++ [a.fileName]), .ok ())
  := by
  unfold discard
  split
  case h_1 t₁ hremove =>
    obtain ⟨q, content, hleads, hfile, rfl⟩ := exists_leads_of_removeFile a.isName.toIsStep hremove
    rw [h.eq hleads] at hfile ⊢
    exact .inr ⟨⟨content, hfile⟩, rfl⟩
  · apply Or.inl rfl
  · apply Or.inl rfl

theorem becomes_discard (hs : t.Sound) (h : t.Leads c.directory p)
    (hkind : kind (p ++ [a.fileName]) none) :
  Becomes kind t (c.discard t a).1
  := by
  rcases discard_cases h a with heq | ⟨⟨content, hfile⟩, heq⟩
  · rw [heq]
    apply Becomes.refl hs
  · rw [heq]
    apply hs.becomes_erase hfile hkind

/-- An artifact that has been discarded without a failure cannot be read. -/
theorem read?_discard (hs : t.Sound) (h : (c.discard t a).2 = .ok ()) :
  c.read? (c.discard t a).1 a = none
  := by
  rw [Option.eq_none_iff_forall_ne_some]
  intro text hread
  obtain ⟨p, hleads, hget⟩ := exists_leads_of_read? hread
  unfold discard at h hget hleads hread
  split at h
  case h_1 t₁ hremove =>
    simp only [hremove] at hget hleads
    obtain ⟨q, content, hleads', hfile, rfl⟩ := exists_leads_of_removeFile a.isName.toIsStep hremove
    have hkept : (t.erase (q ++ [a.fileName])).Leads c.directory q := by
      have hbecomes : Becomes (fun _ _ => True) t (t.erase (q ++ [a.fileName])) :=
        hs.becomes_erase hfile trivial
      apply hleads'.mono hbecomes.keeps
    rw [hkept.eq hleads, hs.get?_erase_self (by simp)] at hget
    cases hget
  case h_2 hmissing =>
    simp only [hmissing] at hget hleads hread
    obtain ⟨hfault, -⟩ := (read?_eq_some_iff hleads).mp hread
    rw [path, hleads.removeFile_join a.isName hfault, hget] at hmissing
    cases hmissing
  case h_3 =>
    cases h

/-! ### Files of users -/

/-- The nodes one name below a place, in the order in which they stand in the tree. -/
def inside (t : Tree) (p : Place) : List (String × Node) :=
  t.entries.filterMap fun e =>
    match e.1.getLast? with
    | some name => if e.1.dropLast = p then some (name, e.2) else none
    | none => none

theorem perm_inside (t : Tree) (p : Place) :
  (t.children p).Perm (inside t p)
  := List.mergeSort_perm _ _

/-- What the files of users are, if there is at most one. -/
theorem userFiles_eq {files : UserFiles} (h : t.Leads c.directory p)
    (hfault : faultOf? c.directory = none) (hlength : files.length ≤ 1)
    (hinside : (inside t p).filter (fun e => isUserFile e.1 e.2) =
      files.map fun f => (f.1, .file (.text f.2))) :
  c.userFiles t = .ok files
  := by
  have hperm := (perm_inside t p).filter fun e => isUserFile e.1 e.2
  rw [hinside] at hperm
  rw [userFiles, h.list hfault]
  cases files with
  | nil =>
    simp only [List.perm_nil.mp hperm]
    rfl
  | cons f others =>
    obtain rfl : others = [] := List.length_eq_zero_iff.mp (by simpa using hlength)
    simp only [List.perm_singleton.mp hperm]
    rfl

/-- The files of users are the same in trees that have the same nodes for them. -/
theorem userFiles_congr (hs : t.Sound) (hs' : t'.Sound) (h : t.Leads c.directory p)
    (h' : t'.Leads c.directory p)
    (hsame : ∀ name n, isUserFile name n = true →
      (t.get? (p ++ [name]) = some n ↔ t'.get? (p ++ [name]) = some n)) :
  c.userFiles t = c.userFiles t'
  := by
  cases hfault : faultOf? c.directory with
  | some fault => simp only [userFiles, Tree.list, Tree.place, hfault, Result.error_bind]
  | none =>
    have hfilter : (t.children p).filter (fun e => isUserFile e.1 e.2) =
        (t'.children p).filter (fun e => isUserFile e.1 e.2) :=
      hs.filter_children_eq hs' hsame
    simp only [userFiles, h.list hfault, h'.list hfault, hfilter]

/-- Whether a place is that of an artifact or of the compiled modules, or below one. -/
def IsOwn (p q : Place) : Prop :=
  ∃ name rest, isArtifactName name = true ∧ q = p ++ name :: rest

theorem isOwn_artifact (a : Artifact) :
  IsOwn p (p ++ [a.fileName])
  := ⟨a.fileName, [], by cases a <;> decide, rfl⟩

theorem isOwn_compiled (rest : List String) :
  IsOwn p (p ++ compiledName :: rest)
  := ⟨compiledName, rest, by decide, rfl⟩

theorem isArtifactName_of_isUserFile {name : String} {n : Node} (h : isUserFile name n = true) :
  isArtifactName name = false
  := by
  simp only [isUserFile, Bool.and_eq_true, Bool.not_eq_eq_eq_not, Bool.not_true] at h
  apply h.1.2

theorem not_isOwn_of_isUserFile {name : String} {n : Node} (h : isUserFile name n = true) :
  ¬ IsOwn p (p ++ [name])
  := by
  rintro ⟨name', rest, hartifact, heq⟩
  obtain ⟨rfl, -⟩ := List.cons.inj (List.append_cancel_left heq)
  rw [isArtifactName_of_isUserFile h] at hartifact
  cases hartifact

/-- The files of users are the same when nothing else has changed than artifacts. -/
theorem userFiles_eq_of_becomes (hs : t.Sound) (h : t.Leads c.directory p)
    (hbecomes : Becomes kind t t') (hkind : ∀ q n, kind q n → IsOwn p q) :
  c.userFiles t' = c.userFiles t
  := by
  apply userFiles_congr hbecomes.sound hs (h.mono hbecomes.keeps) h
  intro name n huser
  rw [hbecomes.get?_eq]
  intro hown
  apply not_isOwn_of_isUserFile huser (hkind _ _ hown)

/-! ### Locking -/

/-- Taking the lock makes its file, or changes nothing. -/
theorem becomes_acquireLock (hs : t.Sound) (h : t.Leads c.directory p) (held : Bool) (timeout : Nat)
    (hkind : kind (p ++ [Artifact.lock.fileName]) (some (.file (.text "")))) :
  Becomes kind t (c.acquireLock t held timeout).1
  := by
  have hmake := h.makeDirectories
  rw [acquireLock]
  split
  case h_1 t₁ fault ht₁ =>
    rw [ht₁] at hmake
    subst hmake
    apply Becomes.refl hs
  case h_2 t₁ done ht₁ =>
    rw [ht₁] at hmake
    subst hmake
    split
    · apply Becomes.refl hs
    · apply Becomes.refl hs
    · split
      case h_1 t₂ hwrite =>
        obtain ⟨-, -, q, hleads, hfree, rfl⟩ :=
          exists_leads_of_write Artifact.lock.isName.toIsStep hwrite
        rw [h.eq hleads] at hfree ⊢
        apply hs.becomes_set h.directory Artifact.lock.isName (.inr hfree) hkind
      case h_2 fault _ =>
        apply Becomes.refl hs

/-- Taking the lock keeps a tree sound, even if the models directory does not exist before. -/
theorem sound_acquireLock (hs : t.Sound) (held : Bool) (timeout : Nat) :
  (c.acquireLock t held timeout).1.Sound
  := by
  have hmake := (hs.becomes_makeDirectories c.directory).sound
  unfold acquireLock
  split
  case h_1 t₁ fault ht₁ =>
    rw [ht₁] at hmake
    apply hmake
  case h_2 t₁ done ht₁ =>
    rw [ht₁] at hmake
    split
    · apply hmake
    · apply hmake
    · split
      case h_1 t₂ hwrite =>
        apply sound_write hmake Artifact.lock.isName.toIsStep hwrite
      case h_2 fault _ =>
        apply hmake

/-- Whoever has taken the lock has found or made the models directory. -/
theorem exists_leads_of_acquireLock {held : Bool} {timeout : Nat} {u : Unit}
    (h : c.acquireLock t held timeout = (t', .ok u)) :
  ∃ p, t'.Leads c.directory p
  := by
  unfold acquireLock at h
  split at h
  · cases h
  case h_2 t₁ done ht₁ =>
    obtain ⟨p, hp⟩ := exists_leads_of_makeDirectories ht₁
    split at h
    · obtain ⟨rfl, -⟩ := Prod.mk.inj h
      use p
    · cases h
    · split at h
      case h_1 t₂ hwrite =>
        cases h
        obtain ⟨-, -, q, -, hfree, rfl⟩ :=
          exists_leads_of_write Artifact.lock.isName.toIsStep hwrite
        use p
        apply hp.mono
        intro r hr
        rw [get?_set_of_ne, hr]
        rintro rfl
        exact absurd hr hfree
      · cases h

/-- Whoever has taken the lock leaves its file behind. -/
theorem exists_node_lock_of_acquireLock {held : Bool} {timeout : Nat} {u : Unit} (hs : t.Sound)
    (h : c.acquireLock t held timeout = (t', .ok u)) :
  ∃ content, t'.node (c.path .lock) = .ok (.file content)
  := by
  have hmake := (hs.becomes_makeDirectories c.directory).sound
  unfold acquireLock at h
  split at h
  · cases h
  case h_2 t₁ _ ht₁ =>
    rw [ht₁] at hmake
    split at h
    case h_1 content hcontent =>
      obtain ⟨rfl, -⟩ := Prod.mk.inj h
      exact ⟨content, hcontent⟩
    · cases h
    · split at h
      case h_1 t₂ hwrite =>
        cases h
        have hread := readText_of_write hmake Artifact.lock.isName.toIsStep hwrite
        exact ⟨_, readText_eq_ok_iff.mp hread⟩
      · cases h

/-- Where the file of the lock is, taking the lock changes nothing. -/
theorem acquireLock_of_node {content : Content} {timeout : Nat} (hp : t.Leads c.directory p)
    (h : t.node (c.path .lock) = .ok (.file content)) :
  c.acquireLock t false timeout = (t, .ok ())
  := by
  obtain ⟨hfault, -⟩ := exists_leads_of_node Artifact.lock.isName.toIsStep h
  have hmake := hp.makeDirectories_eq_ok (Path.faultOf?_of_join Artifact.lock.isName.toIsStep hfault)
  simp [acquireLock, hmake, h]

/-- Replacing an artifact keeps a tree sound, even if the models directory does not exist before. -/
theorem sound_replace (hs : t.Sound) (a : Artifact) (text : String) :
  (c.replace t a text).1.Sound
  := by
  have hmake := (hs.becomes_makeDirectories (c.parent a)).sound
  unfold replace
  split
  case h_1 t₁ fault ht₁ =>
    rw [ht₁] at hmake
    apply hmake
  case h_2 t₁ done ht₁ =>
    rw [ht₁] at hmake
    split
    case h_1 fault _ =>
      apply hmake
    case h_2 t₂ hwrite =>
      apply sound_write hmake a.isName.toIsStep hwrite

/-- Discarding an artifact keeps a tree sound. -/
theorem sound_discard (hs : t.Sound) (a : Artifact) :
  (c.discard t a).1.Sound
  := by
  unfold discard
  split
  case h_1 t₁ hremove =>
    obtain ⟨q, content, -, hfile, rfl⟩ := exists_leads_of_removeFile a.isName.toIsStep hremove
    apply hs.erase hfile
  · apply hs
  · apply hs

end Cache

end LiveModels
