import LiveModels.Proofs.Files.Tree
import LiveModels.Proofs.Result

/-!
# Directories that paths lead to

A path leads to a directory if its steps do. What a name joined to such a path stands for is the
node one name below the directory, so that every operation on the joined path is one on that place,
or fails and changes nothing.
-/

namespace LiveModels.Tree

/-- Whether the steps of a path lead to a directory. -/
structure Leads (t : Tree) (d : Path) (p : Place) : Prop where
  walk : t.walk [] d.steps = .ok p
  directory : t.get? p = some .directory

variable {t t' : Tree} {d : Path} {p q : Place} {name : String} {n : Node}

theorem Leads.eq (h : t.Leads d p) (hq : t.Leads d q) :
  q = p
  := by
  have hwalk := hq.walk
  rw [h.walk] at hwalk
  injection hwalk with heq
  apply heq.symm

/-- A path still leads to its directory if no directory is lost. -/
theorem Leads.mono (h : t.Leads d p)
    (hkeep : ∀ q, t.get? q = some .directory → t'.get? q = some .directory) :
  t'.Leads d p
  := ⟨walk_mono hkeep h.walk, hkeep p h.directory⟩

/-- A directory one name further. -/
theorem Leads.join (h : t.Leads d p) (hname : IsName name)
    (hdirectory : t.get? (p ++ [name]) = some .directory) :
  t.Leads (d.join name) (p ++ [name])
  := by
  constructor
  · rw [Path.steps_join_name d hname.toIsStep, walk_append, h.walk]
    apply walk_name h.directory hname
  · apply hdirectory

/-- A path one name further leads one name further. -/
theorem Leads.eq_of_join (h : t.Leads d p) (hname : IsStep name) (hq : t.Leads (d.join name) q) :
  q = p ++ [name] ∧ IsName name
  := by
  have hwalk := hq.walk
  rw [Path.steps_join_name d hname, walk_append, h.walk] at hwalk
  simp only [Except.bind, Tree.walk, h.directory] at hwalk
  split at hwalk
  · cases hwalk
  case isFalse hsize =>
    simp only [after, hname.ne_dot, hname.ne_dots, if_false, Except.ok.injEq] at hwalk
    use hwalk.symm, hname, Nat.not_lt.mp hsize

/-- The directory in which a joined name lies is the one to which the name is joined. -/
theorem leads_parent_join_iff (d : Path) (hname : IsStep name) :
  t.Leads (d.join name).parent p ↔ t.Leads d p
  := by
  obtain ⟨idle, hsteps, hidle⟩ := Path.steps_parent_join d hname
  constructor
  · rintro ⟨hwalk, hdirectory⟩
    refine ⟨?_, hdirectory⟩
    rw [hsteps, walk_append, hwalk]
    apply (walk_idle_iff hidle hdirectory).mpr rfl
  · rintro ⟨hwalk, hdirectory⟩
    refine ⟨?_, hdirectory⟩
    rw [hsteps, walk_append] at hwalk
    cases hfront : t.walk [] (d.join name).parent.steps with
    | error fault => simp [hfront, Except.bind] at hwalk
    | ok q =>
      rw [hfront] at hwalk
      simp only [Except.bind] at hwalk
      cases idle with
      | nil => exact hwalk
      | cons step rest =>
        have hq : t.get? q = some .directory := by
          simp only [walk] at hwalk
          split at hwalk
          case h_1 hq => exact hq
          · cases hwalk
          · cases hwalk
        rw [(walk_idle_iff hidle hq).mp hwalk]

/-! ### Places -/

/-- No path is unfit for being looked at because nothing is found. -/
theorem faultOf?_ne_notFound (path : Path) :
  faultOf? path ≠ some .notFound
  := by
  unfold faultOf?
  split
  · simp
  · split <;> simp

theorem Leads.place_join (h : t.Leads d p) (hname : IsName name)
    (hfault : faultOf? (d.join name) = none) :
  t.place (d.join name) (d.steps ++ [name]) = .ok (p ++ [name])
  := by
  simp only [place, hfault, walk_append, h.walk]
  apply walk_name h.directory hname

/-- What a joined name stands for lies in a directory. -/
theorem exists_leads_of_place (hname : IsStep name)
    (h : t.place (d.join name) (d.steps ++ [name]) = .ok q) :
  faultOf? (d.join name) = none ∧ IsName name ∧ ∃ p, t.Leads d p ∧ q = p ++ [name]
  := by
  rw [place] at h
  split at h
  · cases h
  case h_2 hfault =>
    use hfault
    rw [walk_append] at h
    cases hwalk : t.walk [] d.steps with
    | error fault => simp [hwalk, Except.bind] at h
    | ok p =>
      simp only [hwalk, Except.bind, walk] at h
      split at h
      case h_1 hdirectory =>
        split at h
        · cases h
        case isFalse hsize =>
          use ⟨hname, Nat.not_lt.mp hsize⟩, p, ⟨hwalk, hdirectory⟩
          simpa [after, hname.ne_dot, hname.ne_dots] using h.symm
      · cases h
      · cases h

/-! ### Looking -/

theorem Leads.node_join (h : t.Leads d p) (hname : IsName name)
    (hfault : faultOf? (d.join name) = none) :
  t.node (d.join name) = (t.get? (p ++ [name])).elim (.error .notFound) .ok
  := by
  simp only [node, Path.route_join d hname.toIsStep, h.place_join hname hfault, Result.ok_bind]
  cases t.get? (p ++ [name]) with
  | none => rfl
  | some n => rfl

/-- What is found under a joined name is a node one name below a directory. -/
theorem exists_leads_of_node (hname : IsStep name) (h : t.node (d.join name) = .ok n) :
  faultOf? (d.join name) = none ∧ IsName name ∧
    ∃ p, t.Leads d p ∧ t.get? (p ++ [name]) = some n
  := by
  rw [node, Path.route_join d hname] at h
  cases hplace : t.place (d.join name) (d.steps ++ [name]) with
  | error fault => simp [hplace] at h
  | ok q =>
    obtain ⟨hfault, hsize, p, hleads, rfl⟩ := exists_leads_of_place hname hplace
    use hfault, hsize, p, hleads
    rw [hplace] at h
    simp only [Result.ok_bind] at h
    split at h
    case h_1 n' hn' =>
      cases h
      apply hn'
    · cases h

theorem has_eq_true_iff {path : Path} :
  t.has path = true ↔ ∃ n, t.node path = .ok n
  := by
  rw [has]
  cases t.node path with
  | error fault => simp
  | ok n => simp

theorem readText_eq_ok_iff {path : Path} {s : String} :
  t.readText path = .ok s ↔ t.node path = .ok (.file (.text s))
  := by
  rw [readText]
  cases t.node path with
  | error fault => simp
  | ok node =>
    cases node with
    | directory => simp
    | file content =>
      cases content with
      | octets values => simp
      | text value => simp

/-- The text under a joined name. -/
theorem Leads.readText_eq_ok_iff (h : t.Leads d p) (hname : IsName name) {s : String} :
  t.readText (d.join name) = .ok s ↔
    faultOf? (d.join name) = none ∧ t.get? (p ++ [name]) = some (.file (.text s))
  := by
  rw [Tree.readText_eq_ok_iff]
  constructor
  · intro hnode
    obtain ⟨hfault, -, q, hleads, hq⟩ := exists_leads_of_node hname.toIsStep hnode
    rw [h.eq hleads] at hq
    use hfault
  · rintro ⟨hfault, hget⟩
    simp [h.node_join hname hfault, hget]

/-- The place of a directory. -/
theorem Leads.place_route (h : t.Leads d p) (hfault : faultOf? d = none) :
  t.place d d.route = .ok p
  := by
  simp only [place, hfault, Path.route, walk_append, h.walk]
  split
  · simp only [Except.bind, Tree.walk, h.directory]
    rfl
  · rfl

/-- The names in a directory. -/
theorem Leads.list (h : t.Leads d p) (hfault : faultOf? d = none) :
  t.list d = .ok (t.children p)
  := by
  simp [Tree.list, h.place_route hfault, h.directory]

theorem Leads.hasDirectory (h : t.Leads d p) (hfault : faultOf? d = none) :
  t.hasDirectory d = true
  := by
  simp [Tree.hasDirectory, node, h.place_route hfault, h.directory]

/-! ### Changing -/

theorem Leads.write_join (h : t.Leads d p) (hname : IsName name)
    (hfault : faultOf? (d.join name) = none) (hn : t.get? (p ++ [name]) ≠ some .directory)
    (content : Content) :
  t.write (d.join name) content = .ok (t.set (p ++ [name]) (.file content))
  := by
  simp only [write, Path.endsInSlash_join d hname.toIsStep, Path.endsInDots_join d hname.toIsStep,
    Path.steps_join_name d hname.toIsStep, Bool.or_self, Bool.false_eq_true, if_false,
    h.place_join hname hfault, Result.ok_bind, Result.pure_eq]

/-- Writing under a joined name sets a file one name below a directory. -/
theorem exists_leads_of_write (hname : IsStep name) {content : Content}
    (h : t.write (d.join name) content = .ok t') :
  faultOf? (d.join name) = none ∧ IsName name ∧
    ∃ p, t.Leads d p ∧ t.get? (p ++ [name]) ≠ some .directory ∧
      t' = t.set (p ++ [name]) (.file content)
  := by
  simp only [write, Path.endsInSlash_join d hname, Path.endsInDots_join d hname,
    Path.steps_join_name d hname, Bool.or_self, Bool.false_eq_true, if_false] at h
  cases hplace : t.place (d.join name) (d.steps ++ [name]) with
  | error fault => simp [hplace] at h
  | ok q =>
    obtain ⟨hfault, hsize, p, hleads, rfl⟩ := exists_leads_of_place hname hplace
    simp only [hplace, Result.ok_bind] at h
    split at h
    · cases h
    case h_2 hn =>
      cases h
      exact ⟨hfault, hsize, p, hleads, hn, rfl⟩

/-- Writing under a joined name keeps a tree sound. -/
theorem sound_write (hs : t.Sound) (hname : IsStep name) {content : Content}
    (h : t.write (d.join name) content = .ok t') :
  t'.Sound
  := by
  obtain ⟨-, hname', p, hleads, hfree, rfl⟩ := exists_leads_of_write hname h
  apply hs.set hleads.directory hname' (.inr hfree)

theorem Leads.removeFile_join (h : t.Leads d p) (hname : IsName name)
    (hfault : faultOf? (d.join name) = none) :
  t.removeFile (d.join name) =
    match t.get? (p ++ [name]) with
    | some (.file _) => .ok (t.erase (p ++ [name]))
    | some .directory => .error .isDirectory
    | none => .error .notFound
  := by
  simp only [removeFile, Path.endsInSlash_join d hname.toIsStep, Path.endsInDots_join d hname.toIsStep,
    Path.steps_join_name d hname.toIsStep, h.place_join hname hfault, Result.ok_bind]
  rfl

/-- Removing under a joined name erases a file one name below a directory. -/
theorem exists_leads_of_removeFile (hname : IsStep name)
    (h : t.removeFile (d.join name) = .ok t') :
  ∃ p content, t.Leads d p ∧ t.get? (p ++ [name]) = some (.file content) ∧
    t' = t.erase (p ++ [name])
  := by
  cases hplace : t.place (d.join name) (d.steps ++ [name]) with
  | error fault =>
    simp [removeFile, Path.steps_join_name d hname, hplace] at h
  | ok q =>
    obtain ⟨hfault, hsize, p, hleads, rfl⟩ := exists_leads_of_place hname hplace
    rw [hleads.removeFile_join hsize hfault] at h
    split at h
    case h_1 content hcontent =>
      cases h
      exact ⟨p, content, hleads, hcontent, rfl⟩
    · cases h
    · cases h

end LiveModels.Tree
