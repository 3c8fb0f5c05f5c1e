import LiveModels.Proofs.Files.Directory

/-!
# Changes of trees

What operations do to a tree, whether they succeed or stop half-way: the tree stays sound, no
directory is lost, and every place holds what it held before unless the change is of a given kind.
-/

namespace LiveModels.Tree

/-- Whether a tree comes from another by changes of one kind. -/
structure Becomes (kind : Place → Option Node → Prop) (t t' : Tree) : Prop where
  sound : t'.Sound
  keeps : ∀ q, t.get? q = some .directory → t'.get? q = some .directory
  gives : ∀ q, t'.get? q = t.get? q ∨ kind q (t'.get? q)

variable {kind kind' : Place → Option Node → Prop} {t t' t'' : Tree} {p : Place} {n : Node}

namespace Becomes

theorem refl (h : t.Sound) :
  Becomes kind t t
  := ⟨h, fun _ hq => hq, fun _ => .inl rfl⟩

theorem trans (h : Becomes kind t t') (h' : Becomes kind t' t'') :
  Becomes kind t t''
  := by
  constructor
  · apply h'.sound
  · intro q hq
    apply h'.keeps q (h.keeps q hq)
  · intro q
    rcases h'.gives q with heq | hkind
    · rw [heq]
      apply h.gives
    · apply Or.inr hkind

/-- Changes of one kind are changes of a wider one. -/
theorem mono (h : Becomes kind t t') (hkind : ∀ q n, kind q n → kind' q n) :
  Becomes kind' t t'
  := by
  constructor
  · apply h.sound
  · apply h.keeps
  · intro q
    apply (h.gives q).imp_right (hkind q _)

/-- A place that is not changed. -/
theorem get?_eq (h : Becomes kind t t') {q : Place} (hq : ¬ kind q (t'.get? q)) :
  t'.get? q = t.get? q
  := (h.gives q).resolve_right hq

end Becomes

/-- Setting a node is a change of its place. -/
theorem Sound.becomes_set (h : t.Sound) {name : String} (hp : t.get? p = some .directory)
    (hname : IsName name) (hn : n = .directory ∨ t.get? (p ++ [name]) ≠ some .directory)
    (hkind : kind (p ++ [name]) (some n)) :
  Becomes kind t (t.set (p ++ [name]) n)
  := by
  constructor
  · apply h.set hp hname hn
  · intro q hq
    by_cases heq : q = p ++ [name]
    · subst heq
      rw [get?_set_self _ (by simp)]
      simp_all
    · rw [get?_set_of_ne _ heq, hq]
  · intro q
    by_cases heq : q = p ++ [name]
    · subst heq
      rw [get?_set_self _ (by simp)]
      apply Or.inr hkind
    · rw [get?_set_of_ne _ heq]
      apply Or.inl rfl

/-- Erasing a file is a change of its place. -/
theorem Sound.becomes_erase (h : t.Sound) {content : Content}
    (hp : t.get? p = some (.file content)) (hkind : kind p none) :
  Becomes kind t (t.erase p)
  := by
  have hnil : p ≠ [] := by
    rintro rfl
    simp [get?] at hp
  constructor
  · apply h.erase hp
  · intro q hq
    rw [h.get?_erase_of_ne hp, hq]
    rintro rfl
    rw [hp] at hq
    cases hq
  · intro q
    by_cases heq : q = p
    · rw [heq, h.get?_erase_self hnil]
      apply Or.inr hkind
    · rw [h.get?_erase_of_ne hp heq]
      apply Or.inl rfl

/-! ### Making directories -/

/-- The kind of changes that make directories. -/
def MadeDirectory (_ : Place) (n : Option Node) : Prop :=
  n = some .directory

/-- The last step of a path is a name in a directory, unless it is a dot or two. -/
theorem exists_name_of_place {path : Path} {q : Place} (hdots : path.endsInDots = false)
    (h : t.place path path.steps = .ok q) :
  ∃ p name, t.walk [] path.steps = .ok q ∧ q = p ++ [name] ∧ t.get? p = some .directory ∧
    IsName name ∧ path.steps.getLast? = some name
  := by
  rw [place] at h
  split at h
  · cases h
  case h_2 hfault =>
    rw [Path.endsInDots] at hdots
    split at hdots
    case h_2 =>
      cases hdots
    case h_1 name hlast =>
      simp only [Bool.or_eq_false_iff, beq_eq_false_iff_ne] at hdots
      obtain ⟨front, hsteps⟩ := List.getLast?_eq_some_iff.mp hlast
      have hwalk := h
      rw [hsteps, walk_append] at hwalk
      cases hfront : t.walk [] front with
      | error fault => simp [hfront, Except.bind] at hwalk
      | ok p =>
        simp only [hfront, Except.bind, walk] at hwalk
        split at hwalk
        case h_1 hdirectory =>
          split at hwalk
          · cases hwalk
          case isFalse hsize =>
            simp only [after, hdots.1, hdots.2, if_false, Except.ok.injEq] at hwalk
            subst hwalk
            have hnull : '\x00' ∉ path.text.toList := by
              intro hmem
              simp [faultOf?, hmem] at hfault
            have hmem : name ∈ path.steps := by simp [hsteps]
            have hstep := Path.isStep_of_mem_steps hmem hnull hdots.1 hdots.2
            exact ⟨p, name, h, rfl, hdirectory, ⟨hstep, Nat.not_lt.mp hsize⟩, hlast⟩
        · cases hwalk
        · cases hwalk

/-- A directory is made in another one, under a name that is free. -/
theorem makeDirectory_eq_ok {path : Path} (h : t.makeDirectory path = .ok t') :
  ∃ p name, t.walk [] path.steps = .ok (p ++ [name]) ∧ t.get? p = some .directory ∧ IsName name ∧
    t.get? (p ++ [name]) = none ∧ t' = t.set (p ++ [name]) .directory
  := by
  obtain ⟨q, hplace, h⟩ := Result.bind_eq_ok_iff.mp h
  split at h
  · cases h
  case isFalse hends =>
    simp only [Bool.or_eq_true, not_or, Bool.not_eq_true, Option.isSome_eq_false_iff,
      Option.isNone_iff_eq_none] at hends
    obtain ⟨hdots, hfree⟩ := hends
    obtain ⟨p, name, hwalk, rfl, hp, hname, -⟩ := exists_name_of_place hdots hplace
    cases h
    exact ⟨p, name, hwalk, hp, hname, hfree, rfl⟩

theorem Sound.becomes_makeDirectory {path : Path} (h : t.Sound)
    (hmake : t.makeDirectory path = .ok t')
    (hkind : ∀ q, t.walk [] path.steps = .ok q → kind q (some .directory)) :
  Becomes kind t t'
  := by
  obtain ⟨p, name, hwalk, hp, hname, -, rfl⟩ := makeDirectory_eq_ok hmake
  apply h.becomes_set hp hname (.inl rfl) (hkind _ hwalk)

/-- Making directories changes nothing but the places to which they lead, even if not all can be
made. -/
theorem Sound.becomes_makeFirst (h : t.Sound) {paths : List Path}
    (hkind : ∀ path ∈ paths, ∀ (t : Tree) q, t.walk [] path.steps = .ok q →
      kind q (some .directory)) :
  Becomes kind t (t.makeFirst paths).1
  := by
  induction paths generalizing t with
  | nil => apply Becomes.refl h
  | cons path above ih =>
    rw [List.forall_mem_cons] at hkind
    simp only [makeFirst]
    split
    case h_1 made hmade =>
      apply h.becomes_makeDirectory hmade (hkind.1 t)
    case h_2 =>
      split
      case h_1 around fault haround =>
        have hbecomes := ih h hkind.2
        rwa [haround] at hbecomes
      case h_2 around done haround =>
        have hbecomes := ih h hkind.2
        rw [haround] at hbecomes
        split
        case h_1 made hmade =>
          apply hbecomes.trans (hbecomes.sound.becomes_makeDirectory hmade (hkind.1 around))
        case h_2 =>
          apply hbecomes
    case h_3 =>
      apply Becomes.refl h

theorem Sound.becomes_makeDirectories (h : t.Sound) (path : Path) :
  Becomes MadeDirectory t (t.makeDirectories path).1
  := h.becomes_makeFirst fun _ _ _ _ _ => rfl

/-- A path that never leads back makes no directories but those on its way. -/
theorem Sound.becomes_makeDirectories_of_forward (h : t.Sound) {path : Path}
    (hforward : ".." ∉ path.steps) :
  Becomes (fun q n => n = some .directory ∧ q <+: path.names) t (t.makeDirectories path).1
  := by
  apply h.becomes_makeFirst
  intro d hd t q hwalk
  have hnames : d.names <+: path.names := by
    rcases List.mem_cons.mp hd with rfl | hd
    · apply List.prefix_rfl
    · apply Path.names_of_mem_parents hd
  rw [walk_eq_names _ hwalk]
  · exact ⟨rfl, hnames⟩
  · rw [← Path.dots_mem_names_iff] at hforward ⊢
    intro hdots
    apply hforward (hnames.subset hdots)

/-- A directory that exists is found again. -/
theorem exists_leads_of_hasDirectory {path : Path} (h : t.hasDirectory path = true) :
  ∃ p, t.Leads path p
  := by
  rw [hasDirectory] at h
  split at h
  case h_2 =>
    cases h
  case h_1 hnode =>
    obtain ⟨p, hplace, hget⟩ := Result.bind_eq_ok_iff.mp hnode
    split at hget
    case h_2 =>
      cases hget
    case h_1 n hn =>
      cases hget
      rw [place] at hplace
      split at hplace
      · cases hplace
      · rw [Path.route, walk_append] at hplace
        cases hwalk : t.walk [] path.steps with
        | error fault => simp [hwalk, Except.bind] at hplace
        | ok q =>
          simp only [hwalk, Except.bind] at hplace
          split at hplace
          · simp only [walk] at hplace
            split at hplace
            case h_1 hq =>
              split at hplace
              · cases hplace
              · use q, hwalk, hq
            · cases hplace
            · cases hplace
          · cases hplace
            use p, hwalk, hn

/-- If directories can be made, a path leads to the last one. -/
theorem exists_leads_of_makeDirectories {path : Path} {u : Unit}
    (h : t.makeDirectories path = (t', .ok u)) :
  ∃ p, t'.Leads path p
  := by
  have hmade : ∀ {t t' : Tree}, t.makeDirectory path = .ok t' → ∃ p, t'.Leads path p := by
    intro t t' hmake
    obtain ⟨p, name, hwalk, hp, -, hfree, rfl⟩ := makeDirectory_eq_ok hmake
    use p ++ [name]
    constructor
    · apply walk_mono _ hwalk
      intro q hq
      apply get?_set_of_free hfree hq
    · apply get?_set_self _ (by simp)
  have hsettle : ∀ {t t' : Tree} {fault : FileFault},
      (t, if t.hasDirectory path then Except.ok () else .error fault) = (t', .ok u) →
      ∃ p, t'.Leads path p := by
    intro t t' fault heq
    simp only [Prod.mk.injEq] at heq
    obtain ⟨rfl, heq⟩ := heq
    split at heq
    case isTrue hhas =>
      apply exists_leads_of_hasDirectory hhas
    · cases heq
  simp only [makeDirectories, makeFirst] at h
  split at h
  case h_1 made hmake =>
    cases h
    apply hmade hmake
  case h_2 =>
    split at h
    · cases h
    · split at h
      case h_1 made hmake =>
        cases h
        apply hmade hmake
      · apply hsettle h
  case h_3 =>
    apply hsettle h

/-- Nothing is made where a path leads to a directory already. -/
theorem Leads.makeDirectories {d : Path} (h : t.Leads d p) :
  (t.makeDirectories d).1 = t
  := by
  have hexists : t.makeDirectory d ≠ .error .notFound ∧ ∀ t', t.makeDirectory d ≠ .ok t' := by
    simp only [makeDirectory, place, h.walk]
    cases hfault : faultOf? d with
    | none => simp [h.directory]
    | some fault =>
      have hfault' := faultOf?_ne_notFound d
      rw [hfault] at hfault'
      simpa using hfault'
  simp only [Tree.makeDirectories, makeFirst]
  split
  case h_1 made hmade =>
    exact absurd hmade (hexists.2 made)
  case h_2 hmissing =>
    exact absurd hmissing hexists.1
  case h_3 => rfl

/-- Where a path leads to a directory already, nothing fails. -/
theorem Leads.makeDirectories_eq_ok {d : Path} (h : t.Leads d p) (hfault : faultOf? d = none) :
  t.makeDirectories d = (t, .ok ())
  := by
  have hmake : t.makeDirectory d = .error .alreadyExists := by
    simp [makeDirectory, place, hfault, h.walk, h.directory]
  simp [Tree.makeDirectories, makeFirst, hmake, h.hasDirectory hfault]

/-- Where a path leads to a directory, at most one directory is made for a joined name. -/
theorem Leads.makeDirectories_join {d : Path} {name : String} (h : t.Leads d p)
    (hname : IsName name) :
  (t.makeDirectories (d.join name)).1 = t ∨
    t.get? (p ++ [name]) = none ∧
      t.makeDirectories (d.join name) = (t.set (p ++ [name]) .directory, .ok ())
  := by
  have hmissing : t.makeDirectory (d.join name) ≠ .error .notFound := by
    simp only [makeDirectory, Path.steps_join_name d hname.toIsStep,
      Path.endsInDots_join d hname.toIsStep]
    cases hfault : faultOf? (d.join name) with
    | none =>
      simp only [h.place_join hname hfault, Result.ok_bind]
      split <;> simp
    | some fault =>
      have hfault' := faultOf?_ne_notFound (d.join name)
      rw [hfault] at hfault'
      simpa [place, hfault] using hfault'
  simp only [Tree.makeDirectories, makeFirst]
  split
  case h_1 made hmade =>
    obtain ⟨q, last, hwalk, hq, hlast, hfree, rfl⟩ := makeDirectory_eq_ok hmade
    have hleads : (t.set (q ++ [last]) .directory).Leads (d.join name) (q ++ [last]) := by
      constructor
      · apply walk_mono _ hwalk
        intro r hr
        apply get?_set_of_free hfree hr
      · apply get?_set_self _ (by simp)
    have hkept : (t.set (q ++ [last]) .directory).Leads d p := by
      apply h.mono
      intro r hr
      apply get?_set_of_free hfree hr
    obtain ⟨heq, -⟩ := hkept.eq_of_join hname.toIsStep hleads
    rw [heq] at hfree ⊢
    exact .inr ⟨hfree, rfl⟩
  case h_2 hnone =>
    exact absurd hnone hmissing
  case h_3 =>
    apply Or.inl rfl

/-- Where a path leads to a directory, one can be made for a joined name unless a file is there. -/
theorem Leads.exists_makeDirectories_join {d : Path} {name : String} (h : t.Leads d p)
    (hname : IsName name) (hfault : faultOf? (d.join name) = none)
    (hfile : ∀ content, t.get? (p ++ [name]) ≠ some (.file content)) :
  ∃ t', t.makeDirectories (d.join name) = (t', .ok ())
  := by
  cases hget : t.get? (p ++ [name]) with
  | some n =>
    cases n with
    | directory => exact ⟨t, (h.join hname hget).makeDirectories_eq_ok hfault⟩
    | file content => exact absurd hget (hfile content)
  | none =>
    have hmake : t.makeDirectory (d.join name) = .ok (t.set (p ++ [name]) .directory) := by
      simp [makeDirectory, Path.steps_join_name d hname.toIsStep,
        Path.endsInDots_join d hname.toIsStep, h.place_join hname hfault, hget]
    use t.set (p ++ [name]) .directory
    simp [Tree.makeDirectories, makeFirst, hmake]

/-- A directory that can be listed is one that a path leads to. -/
theorem exists_leads_of_list {path : Path} {entries : List (String × Node)}
    (h : t.list path = .ok entries) :
  ∃ p, t.Leads path p ∧ entries = t.children p
  := by
  obtain ⟨p, hplace, hentries⟩ := Result.bind_eq_ok_iff.mp h
  split at hentries
  case h_1 hdirectory =>
    have hhas : t.hasDirectory path = true := by
      simp [hasDirectory, node, hplace, hdirectory]
    have hfault : faultOf? path = none := by
      rw [place] at hplace
      split at hplace
      · cases hplace
      case h_2 hnone =>
        apply hnone
    obtain ⟨q, hleads⟩ := exists_leads_of_hasDirectory hhas
    have hlist := hleads.list hfault
    rw [h] at hlist
    injection hlist with hlist
    use q, hleads
  · cases hentries
  · cases hentries

/-! ### Files -/

variable {d path : Path} {name s : String} {q : Place}

/-- A text that has been written is read. -/
theorem readText_of_write (hs : t.Sound) (hname : IsStep name)
    (h : t.write (d.join name) (.text s) = .ok t') :
  t'.readText (d.join name) = .ok s
  := by
  obtain ⟨hfault, hname', p, hleads, hfree, rfl⟩ := exists_leads_of_write hname h
  have hset : Becomes (fun _ _ => True) t (t.set (p ++ [name]) (.file (.text s))) :=
    hs.becomes_set hleads.directory hname' (.inr hfree) trivial
  apply ((hleads.mono hset.keeps).readText_eq_ok_iff hname').mpr
  exact ⟨hfault, get?_set_self t (by simp) _⟩

/-- A text is read as before if its place is spared. -/
theorem readText_of_becomes (hname : IsStep name) (h : t.readText (d.join name) = .ok s)
    (hbecomes : Becomes kind t t') (hkind : ∀ p n, t.Leads d p → ¬ kind (p ++ [name]) n) :
  t'.readText (d.join name) = .ok s
  := by
  obtain ⟨hfault, hname', p, hleads, hget⟩ :=
    exists_leads_of_node hname (readText_eq_ok_iff.mp h)
  apply ((hleads.mono hbecomes.keeps).readText_eq_ok_iff hname').mpr
  rw [hbecomes.get?_eq (hkind p _ hleads)]
  exact ⟨hfault, hget⟩

/-! ### Changes of files -/

/-- Changes of files lose and make no directory. -/
theorem Becomes.directory_iff (h : Becomes kind t t') (hfile : ∀ q, ¬ kind q (some .directory)) :
  t'.get? q = some .directory ↔ t.get? q = some .directory
  := by
  constructor
  · intro hq
    rcases h.gives q with heq | hkind
    · rw [← heq, hq]
    · rw [hq] at hkind
      exact absurd hkind (hfile q)
  · apply h.keeps

/-- Where only files change, steps lead to the same places. -/
theorem Becomes.place_eq_ok_iff (h : Becomes kind t t') (hfile : ∀ q, ¬ kind q (some .directory))
    {steps : List String} :
  t'.place path steps = .ok q ↔ t.place path steps = .ok q
  := by
  unfold place
  split
  · simp
  · constructor
    · apply walk_mono
      intro r
      apply (h.directory_iff hfile).mp
    · apply walk_mono
      intro r
      apply (h.directory_iff hfile).mpr

/-- Where only files change, the same is found at a path to another place. -/
theorem Becomes.node_eq_ok_iff (h : Becomes kind t t') (hfile : ∀ q, ¬ kind q (some .directory))
    (hplace : ∀ q, t.place path path.route = .ok q → ∀ n, ¬ kind q n) :
  t'.node path = .ok n ↔ t.node path = .ok n
  := by
  have hnode : ∀ t : Tree, t.node path = .ok n ↔
      ∃ q, t.place path path.route = .ok q ∧ t.get? q = some n := by
    intro t
    rw [node, Result.bind_eq_ok_iff]
    apply exists_congr
    intro q
    apply and_congr_right
    intro _
    cases t.get? q with
    | none => simp
    | some n' => simp
  rw [hnode, hnode]
  apply exists_congr
  intro q
  rw [h.place_eq_ok_iff hfile]
  apply and_congr_right
  intro hq
  rw [h.get?_eq (hplace q hq _)]

theorem Becomes.has_eq (h : Becomes kind t t') (hfile : ∀ q, ¬ kind q (some .directory))
    (hplace : ∀ q, t.place path path.route = .ok q → ∀ n, ¬ kind q n) :
  t'.has path = t.has path
  := by
  rw [Bool.eq_iff_iff, has_eq_true_iff, has_eq_true_iff]
  apply exists_congr
  intro n
  apply h.node_eq_ok_iff hfile hplace

theorem Becomes.hasFile_eq (h : Becomes kind t t') (hfile : ∀ q, ¬ kind q (some .directory))
    (hplace : ∀ q, t.place path path.route = .ok q → ∀ n, ¬ kind q n) :
  t'.hasFile path = t.hasFile path
  := by
  have hhas : ∀ t : Tree, t.hasFile path = true ↔
      ∃ content, t.node path = .ok (.file content) := by
    intro t
    rw [hasFile]
    split
    case h_1 content hcontent => simp [hcontent]
    case h_2 hnone => simpa using hnone
  rw [Bool.eq_iff_iff, hhas, hhas]
  apply exists_congr
  intro content
  apply h.node_eq_ok_iff hfile hplace

end LiveModels.Tree
