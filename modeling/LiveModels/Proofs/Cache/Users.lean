import LiveModels.Proofs.Cache.Calls

/-!
# What operations leave to users

An operation on a models directory leaves the files of users as they are, and touches nothing in the
directory but what is named like an artifact, whether it succeeds or fails. This holds of every call
that it makes. The calls make directories on the way to the models directory and to its compiled
modules, replace and remove artifacts, and write and remove what lies among the compiled modules.

There are exceptions to both. A path that leads back may lead to a directory with files of users once
another directory has been made, and a fingerprint that leads back has its module written somewhere
else than among the compiled modules.
-/

namespace LiveModels.Cache

open LiveModels.Tree

variable {c : Cache} {t t' : Tree} {p q r : Place} {name text : String} {path : Path} {call : Call}
  {calls : List Call} {forward : Prop} {j : Job} {temporary : Artifact → String}

/-! ### Directories -/

/-- Whether a models directory exists, or can come into being without others: its path leads never
back and has no name that is too long. -/
def IsSteady (c : Cache) (t : Tree) : Prop :=
  (∃ p, t.Leads c.directory p) ∨
    ".." ∉ c.directory.steps ∧ ∀ step ∈ c.directory.steps, step.utf8ByteSize ≤ mostNameOctets

theorem userFiles_eq_nil (h : t.list c.directory = .error .notFound ∨ t.list c.directory = .ok []) :
  c.userFiles t = .ok []
  := by
  rcases h with h | h
  · simp [userFiles, h]
  · simp [userFiles, h]

theorem userFiles_of_free (hplace : t.place c.directory c.directory.route = .ok q)
    (hfree : t.get? q = none) :
  c.userFiles t = .ok []
  := by
  apply userFiles_eq_nil (.inl _)
  rw [list_eq_of_place hplace, hfree]

section

variable (hs : t.Sound) (hs' : (t.set r .directory).Sound) (hfree : t.get? r = none)

include hs hs' hfree

/-- A models directory that has just been made is empty. -/
theorem userFiles_of_made
    (hplace : (t.set r .directory).place c.directory c.directory.route = .ok r) :
  c.userFiles (t.set r .directory) = .ok []
  := by
  have hr : r ≠ [] := by
    rintro rfl
    cases hfree
  apply userFiles_eq_nil (.inr _)
  rw [list_eq_of_place hplace, get?_set_self t hr]
  exact congrArg Except.ok (children_made hs hs' hfree)

/-- A directory that is made in a models directory is no file of users. -/
theorem userFiles_set_directory_of_leads (hp : t.Leads c.directory p) :
  c.userFiles (t.set r .directory) = c.userFiles t
  := by
  have hr : r ≠ [] := by
    rintro rfl
    cases hfree
  have hp' : (t.set r .directory).Leads c.directory p :=
    hp.mono fun q hq => get?_set_of_free hfree hq
  apply userFiles_congr hs' hs hp' hp
  intro name n huser
  by_cases heq : p ++ [name] = r
  · rw [heq, get?_set_self t hr, hfree]
    constructor
    · rintro h
      cases h
      simp [isUserFile] at huser
    · intro h
      cases h
  · rw [get?_set_of_ne t heq]

/-- When a path that does not lead anywhere leads to the same place as before, there are no files of
users at it, whether or not it is the directory that was made. -/
theorem userFiles_set_directory_of_place_eq (hleads : ¬ ∃ p, t.Leads c.directory p)
    (hsame : (t.set r .directory).place c.directory c.directory.route =
      t.place c.directory c.directory.route) :
  c.userFiles (t.set r .directory) = c.userFiles t
  := by
  cases hbefore : t.place c.directory c.directory.route with
  | error fault =>
    rw [hbefore] at hsame
    rw [userFiles, userFiles, list_eq_of_place_error hsame, list_eq_of_place_error hbefore]
  | ok q =>
    rw [hbefore] at hsame
    by_cases hqr : q = r
    · rw [hqr] at hsame hbefore
      rw [userFiles_of_made hs hs' hfree hsame, userFiles_of_free hbefore hfree]
    · have hlist : (t.set r .directory).list c.directory = t.list c.directory := by
        rw [list_eq_of_place hsame, list_eq_of_place hbefore, get?_set_of_ne t hqr]
        cases hget : t.get? q with
        | none => rfl
        | some n =>
          cases n with
          | file content => rfl
          | directory =>
            have hlisted := list_eq_of_place hbefore
            rw [hget] at hlisted
            obtain ⟨p, hp, -⟩ := exists_leads_of_list hlisted
            exact absurd ⟨p, hp⟩ hleads
      rw [userFiles, userFiles, hlist]

/-- A directory that is made is no file of users, and brings none to light. -/
theorem userFiles_set_directory (hsteady : c.IsSteady t) :
  c.userFiles (t.set r .directory) = c.userFiles t
  := by
  by_cases hleads : ∃ p, t.Leads c.directory p
  case pos =>
    obtain ⟨p, hp⟩ := hleads
    apply userFiles_set_directory_of_leads hs hs' hfree hp
  case neg =>
    cases hfault : faultOf? c.directory with
    | some fault =>
      apply userFiles_set_directory_of_place_eq hs hs' hfree hleads
      rw [place, place, hfault]
    | none =>
      have hplace : ∀ t : Tree, t.place c.directory c.directory.route =
          t.walk [] c.directory.route := by
        intro t
        rw [place, hfault]
      obtain ⟨hforward, hsize⟩ := hsteady.resolve_left hleads
      obtain ⟨hroute, hsizes⟩ := forward_route hforward hsize
      rcases walk_made hs hfree [] hroute hsizes with hsame | ⟨hnone, q, hq, hor⟩
      · rw [← hplace, ← hplace] at hsame
        apply userFiles_set_directory_of_place_eq hs hs' hfree hleads hsame
      · -- the path leads further than before, to the new directory or to nothing
        rw [← hplace] at hnone hq
        rw [userFiles_eq_nil (.inl (list_eq_of_place_error hnone))]
        rcases hor with rfl | hget
        · apply userFiles_of_made hs hs' hfree hq
        · apply userFiles_of_free hq hget

end

/-- The files of users stay as they are when any directory is made. -/
theorem userFiles_makeDirectory (hs : t.Sound) (hsteady : c.IsSteady t) (path : Path) :
  c.userFiles (Call.run t (.makeDirectory path)) = c.userFiles t
  := by
  have hbecomes := Call.becomes_makeDirectory hs path
  rw [Call.run] at hbecomes ⊢
  cases hmake : t.makeDirectory path with
  | error fault => rfl
  | ok made =>
    rw [hmake] at hbecomes
    obtain ⟨q, name, -, -, -, hfree, rfl⟩ := makeDirectory_eq_ok hmake
    apply userFiles_set_directory hs hbecomes.sound hfree hsteady

/-! ### Own calls -/

/-- Whether a path leads through the models directory to the compiled modules, from where it leads
back only if it is not to lead forward. -/
def InCompiled (c : Cache) (forward : Prop) (path : Path) : Prop :=
  ∃ rest, path.steps = c.directory.steps ++ compiledName :: rest ∧ (forward → ".." ∉ rest)

/-- Whether a name is one of a file that is being written. -/
structure IsTemporary (name : String) : Prop extends IsStep name where
  tmp : ".tmp".toList.isPrefixOf name.toList = true

/-- Whether a call is one of those that operations on a models directory make. -/
inductive IsOwnCall (c : Cache) (forward : Prop) : Call → Prop
  /-- Makes the models directory, or one that leads to it. -/
  | enter {path : Path} (h : path.steps <+: c.directory.steps) :
    IsOwnCall c forward (.makeDirectory path)
  | makeInside {path : Path} (h : c.InCompiled forward path) :
    IsOwnCall c forward (.makeDirectory path)
  | replace {name : String} (h : IsTemporary name) (a : Artifact) (text : String) :
    IsOwnCall c forward (.replace (c.directory.join name) (c.path a) text)
  | lock : IsOwnCall c forward (.write (c.path .lock) "")
  /-- Writes a module. -/
  | module {path : Path} {front : List String} {last : String} (h : c.InCompiled forward path)
      (hlast : path.steps = front ++ [last ++ ".module"]) (text : String) :
    IsOwnCall c forward (.write path text)
  /-- Marks an entry of the directory of compiled modules for removal. -/
  | mark {path : Path} (h : c.InCompiled True path) : IsOwnCall c forward (.write path "")
  | discard (a : Artifact) : IsOwnCall c forward (.remove (c.path a))
  | prune {path : Path} (h : c.InCompiled True path) : IsOwnCall c forward (.remove path)

/-- A path into the directory of compiled modules leads through the models directory. -/
theorem InCompiled.exists_leads (h : c.InCompiled forward path)
    (hplace : t.place path path.steps = .ok q) :
  ∃ p, t.Leads c.directory p ∧ (forward → ∃ rest, q = p ++ compiledName :: rest)
  := by
  obtain ⟨rest, hsteps, hforward⟩ := h
  rw [place] at hplace
  split at hplace
  · cases hplace
  · rw [hsteps, walk_append] at hplace
    obtain ⟨p, hp, hwalk⟩ := Result.bind_eq_ok_iff.mp hplace
    refine ⟨p, ⟨hp, ?_⟩, ?_⟩
    · rw [walk] at hwalk
      split at hwalk
      case h_1 hdirectory => apply hdirectory
      · cases hwalk
      · cases hwalk
    · intro hf
      have hback : ".." ∉ compiledName :: rest := by
        rw [List.mem_cons, not_or]
        exact ⟨by decide, hforward hf⟩
      rw [walk_eq hwalk hback, List.filter_cons_of_pos (by decide)]
      exact ⟨_, rfl⟩

/-- Under a name in the models directory something is touched only if the directory exists. -/
theorem exists_leads_of_mem_spot (hname : IsStep name) (h : q ∈ t.spot (c.directory.join name)) :
  ∃ p, t.Leads c.directory p ∧ q = p ++ [name]
  := by
  have hplace := mem_spot.mp h
  rw [Path.steps_join_name _ hname] at hplace
  obtain ⟨-, -, p, hp, hq⟩ := exists_leads_of_place hname hplace
  exact ⟨p, hp, hq⟩

/-- Whether a name in the models directory is not one of users. -/
structure IsOwnName (name : String) : Prop extends IsStep name where
  artifact : isArtifactName name = true

theorem isOwnName_artifact (a : Artifact) :
  IsOwnName a.fileName
  := ⟨a.isName.toIsStep, by cases a <;> decide⟩

theorem isOwnName_compiled :
  IsOwnName compiledName
  := ⟨isName_compiledName.toIsStep, by decide⟩

theorem IsTemporary.isOwnName (h : IsTemporary name) :
  IsOwnName name
  := by
  use h.toIsStep
  simp only [isArtifactName, h.tmp, Bool.or_true, Bool.true_or]

theorem IsOwnName.isUserFile_eq (h : IsOwnName name) (n : Node) :
  isUserFile name n = false
  := by
  simp [isUserFile, h.artifact]

/-- What ends like a module is no file of users. -/
theorem isUserFile_module (last : String) (n : Node) :
  isUserFile (last ++ ".module") n = false
  := by
  have hends : endsWith (last ++ ".module") ".rs" = false := by
    rw [endsWith, Bool.eq_false_iff, Ne, List.isSuffixOf_iff_suffix, ← List.reverse_prefix]
    simp
  simp [isUserFile, hends]

/-- Whether a place is in the models directory or below it, and has no name of users. -/
def IsApart (c : Cache) (forward : Prop) (t : Tree) (q : Place) : Prop :=
  ∃ p, t.Leads c.directory p ∧ (forward → ∀ name, q = p ++ [name] → IsOwnName name)
    ∧ ∀ name n, q = p ++ [name] → isUserFile name n = false

theorem isApart_of_isOwnName (hp : t.Leads c.directory p)
    (h : ∀ name, q = p ++ [name] → IsOwnName name) :
  c.IsApart forward t q
  := by
  refine ⟨p, hp, fun _ => h, ?_⟩
  intro name n heq
  apply (h name heq).isUserFile_eq

theorem IsOwnName.isApart (hname : IsOwnName name) (h : q ∈ t.spot (c.directory.join name)) :
  c.IsApart forward t q
  := by
  obtain ⟨p, hp, rfl⟩ := exists_leads_of_mem_spot hname.toIsStep h
  apply isApart_of_isOwnName hp
  intro name' heq
  cases List.append_cancel_left heq
  apply hname

/-- The only name in the models directory that leads to the compiled modules is their own. -/
theorem isOwnName_of_compiled {rest : List String} (h : p ++ [name] = p ++ compiledName :: rest) :
  IsOwnName name
  := by
  cases List.append_cancel_left h
  apply isOwnName_compiled

theorem InCompiled.isApart (h : c.InCompiled True path) (hq : q ∈ t.spot path) :
  c.IsApart forward t q
  := by
  obtain ⟨p, hp, hrest⟩ := h.exists_leads (mem_spot.mp hq)
  obtain ⟨rest, rfl⟩ := hrest trivial
  apply isApart_of_isOwnName hp
  intro name heq
  apply isOwnName_of_compiled heq.symm

/-- Wherever the path of a module leads, what is there ends like a module. -/
theorem InCompiled.isApart_module {front : List String} {last : String}
    (h : c.InCompiled forward path) (hlast : path.steps = front ++ [last ++ ".module"])
    (hq : q ∈ t.spot path) :
  c.IsApart forward t q
  := by
  have hplace := mem_spot.mp hq
  obtain ⟨p, hp, hrest⟩ := h.exists_leads hplace
  refine ⟨p, hp, ?_, ?_⟩
  · intro hforward name heq
    obtain ⟨rest, rfl⟩ := hrest hforward
    apply isOwnName_of_compiled heq.symm
  · intro name n heq
    have hlong : 7 ≤ (last ++ ".module").toList.length := by
      rw [String.toList_append, List.length_append]
      apply Nat.le_add_left
    have hdots : path.endsInDots = false := by
      rw [Path.endsInDots, hlast, List.getLast?_concat]
      simp only [Bool.or_eq_false_iff, beq_eq_false_iff_ne]
      constructor
      · intro hdot
        simp [hdot] at hlong
      · intro hdot
        simp [hdot] at hlong
    obtain ⟨p', name', -, rfl, -, -, hname'⟩ := exists_name_of_place hdots hplace
    rw [hlast, List.getLast?_concat, Option.some.injEq] at hname'
    have hsame := (List.append_inj' heq rfl).2
    rw [List.singleton_inj] at hsame
    rw [← hsame, ← hname']
    apply isUserFile_module

/-- The calls on files touch something only if the models directory exists: what has a name that is
not one of users, or the module of a job, wherever it lies. -/
theorem IsOwnCall.isApart (h : c.IsOwnCall forward call)
    (hfile : ∀ path, call ≠ .makeDirectory path) (hq : q ∈ call.touched t) :
  c.IsApart forward t q
  := by
  cases h with
  | enter => exact absurd rfl (hfile _)
  | makeInside => exact absurd rfl (hfile _)
  | replace htemporary a text =>
    rcases List.mem_append.mp hq with hspot | hspot
    · apply htemporary.isOwnName.isApart hspot
    · apply (isOwnName_artifact a).isApart hspot
  | lock => apply (isOwnName_artifact .lock).isApart hq
  | module hpath hlast text => apply hpath.isApart_module hlast hq
  | mark hpath => apply hpath.isApart hq
  | discard a => apply (isOwnName_artifact a).isApart hq
  | prune hpath => apply hpath.isApart hq

/-! ### Files of users -/

/-- An own call leaves the files of users as they are. -/
theorem IsOwnCall.userFiles_eq (h : c.IsOwnCall forward call) (hs : t.Sound)
    (hsteady : c.IsSteady t) :
  c.userFiles (call.run t) = c.userFiles t
  := by
  by_cases hmake : ∃ path, call = .makeDirectory path
  · obtain ⟨path, rfl⟩ := hmake
    apply userFiles_makeDirectory hs hsteady
  · rw [not_exists] at hmake
    have hbecomes := Call.becomes_run hs call
    by_cases hleads : ∃ p, t.Leads c.directory p
    · obtain ⟨p, hp⟩ := hleads
      apply userFiles_congr hbecomes.sound hs (hp.mono hbecomes.keeps) hp
      intro name n huser
      rw [hbecomes.get?_eq]
      intro htouched
      obtain ⟨p', hp', -, hnone⟩ := h.isApart hmake htouched
      rw [hnone name n (by rw [hp.eq hp'])] at huser
      cases huser
    · rw [Call.run_eq_self]
      rw [List.eq_nil_iff_forall_not_mem]
      intro q hq
      obtain ⟨p, hp, -⟩ := h.isApart hmake hq
      exact hleads ⟨p, hp⟩

theorem IsSteady.mono (h : c.IsSteady t)
    (hkeep : ∀ q, t.get? q = some .directory → t'.get? q = some .directory) :
  c.IsSteady t'
  := by
  apply h.imp_left
  rintro ⟨p, hp⟩
  exact ⟨p, hp.mono hkeep⟩

/-- Own calls leave the files of users as they are. -/
theorem userFiles_runAll (hcalls : ∀ call ∈ calls, c.IsOwnCall forward call) (hs : t.Sound)
    (hsteady : c.IsSteady t) :
  c.userFiles (Call.runAll t calls) = c.userFiles t
  := by
  induction calls generalizing t with
  | nil => rfl
  | cons call rest ih =>
    rw [List.forall_mem_cons] at hcalls
    have hbecomes := Call.becomes_run hs call
    rw [Call.runAll_cons, ih hcalls.2 hbecomes.sound (hsteady.mono hbecomes.keeps),
      hcalls.1.userFiles_eq hs hsteady]

/-! ### Names in the models directory -/

/-- Whether a path leads to a place, or will lead there when it leads anywhere. -/
def Lies (t : Tree) (d : Path) (p : Place) : Prop :=
  t.Leads d p ∨ ".." ∉ d.steps ∧ p = d.names

theorem Lies.eq {d : Path} (h : Lies t d p) (hq : t.Leads d q) :
  q = p
  := by
  rcases h with hp | ⟨hforward, rfl⟩
  · apply hp.eq hq
  · apply walk_eq_names hforward hq.walk

theorem Lies.mono {d : Path} (h : Lies t d p)
    (hkeep : ∀ q, t.get? q = some .directory → t'.get? q = some .directory) :
  Lies t' d p
  := h.imp_left fun hp => hp.mono hkeep

/-- Steps on the way to a directory that exists lead to directories. -/
theorem get?_of_leads {d : Path} (hp : t.Leads d p) (h : path.steps <+: d.steps)
    (hwalk : t.walk [] path.steps = .ok q) :
  t.get? q = some .directory
  := by
  obtain ⟨rest, hrest⟩ := h
  have hsteps := hp.walk
  rw [← hrest, walk_append, hwalk] at hsteps
  cases rest with
  | nil =>
    cases hsteps
    apply hp.directory
  | cons step others =>
    change t.walk q (step :: others) = _ at hsteps
    rw [walk] at hsteps
    split at hsteps
    case h_1 hdirectory => apply hdirectory
    · cases hsteps
    · cases hsteps

/-- What an own call touches in the models directory has no name of users. -/
theorem IsOwnCall.isOwnName (h : c.IsOwnCall forward call) (hforward : forward)
    (hlies : Lies t c.directory p) (hq : p ++ [name] ∈ call.touched t) :
  IsOwnName name
  := by
  by_cases hmake : ∃ path, call = .makeDirectory path
  · obtain ⟨path, rfl⟩ := hmake
    rw [Call.touched] at hq
    split at hq
    case h_2 => cases hq
    case h_1 made hmade =>
      have hplace := mem_spot.mp hq
      cases h with
      | enter hpath =>
        obtain ⟨q, name', hwalk, -, -, hfree, -⟩ := makeDirectory_eq_ok hmade
        have hq' : q ++ [name'] = p ++ [name] := by
          rw [place] at hplace
          split at hplace
          · cases hplace
          · rw [hwalk] at hplace
            apply Except.ok.inj hplace
        rw [hq'] at hwalk hfree
        rcases hlies with hp | ⟨hback, rfl⟩
        · rw [get?_of_leads hp hpath hwalk] at hfree
          cases hfree
        · -- a place on the way to the directory is not in it
          have hlength : (c.directory.names ++ [name]).length ≤ c.directory.names.length := by
            rw [walk_eq_names (fun hdots => hback (hpath.subset hdots)) hwalk, Path.names_eq,
              Path.names_eq]
            apply (hpath.filter _).length_le
          simp at hlength
      | makeInside hpath =>
        obtain ⟨q, hq', hrest⟩ := hpath.exists_leads hplace
        obtain ⟨rest, hrest⟩ := hrest hforward
        rw [hlies.eq hq'] at hrest
        cases List.append_cancel_left hrest
        apply isOwnName_compiled
  · rw [not_exists] at hmake
    obtain ⟨q, hq', hown, -⟩ := h.isApart hmake hq
    apply hown hforward name
    rw [hlies.eq hq']

/-- What own calls touch in the models directory has no names of users. -/
theorem isOwnName_of_mem_allTouched (hcalls : ∀ call ∈ calls, c.IsOwnCall forward call)
    (hforward : forward) (hs : t.Sound) (hlies : Lies t c.directory p)
    (hq : p ++ [name] ∈ Call.allTouched t calls) :
  IsOwnName name
  := by
  induction calls generalizing t with
  | nil => cases hq
  | cons call rest ih =>
    rw [List.forall_mem_cons] at hcalls
    have hbecomes := Call.becomes_run hs call
    rcases List.mem_append.mp hq with hq | hq
    · apply hcalls.1.isOwnName hforward hlies hq
    · apply ih hcalls.2 hbecomes.sound (hlies.mono hbecomes.keeps) hq

/-! ### The calls of operations -/

/-- Whether the path of the module of a job never leads back. -/
def Job.IsForward (j : Job) : Prop :=
  ".." ∉ (Path.mk j.relativePath).steps

section

variable (htemporary : ∀ a, IsTemporary (temporary a))

include htemporary

theorem isOwnCall_replaceCalls {a : Artifact} (h : call ∈ c.replaceCalls temporary t a text) :
  c.IsOwnCall forward call
  := by
  rcases List.mem_append.mp h with h | h
  · obtain ⟨d, hd, rfl⟩ := mem_making h
    apply IsOwnCall.enter
    rcases List.mem_cons.mp hd with rfl | hd
    · apply steps_parent_isPrefix
    · apply (Path.steps_of_mem_parents hd).trans (steps_parent_isPrefix c a)
  · split at h
    · obtain rfl := List.mem_singleton.mp h
      apply IsOwnCall.replace (htemporary a)
    · cases h

theorem isOwnCall_stepCalls {steps : List Step} (h : call ∈ c.stepCalls temporary steps t) :
  c.IsOwnCall forward call
  := by
  induction steps generalizing t with
  | nil => cases h
  | cons s rest ih =>
    rcases List.mem_append.mp h with h | h
    · apply isOwnCall_replaceCalls htemporary h
    · split at h
      · apply ih h
      · cases h

end

theorem isOwnCall_lockCalls (h : call ∈ c.lockCalls t) :
  c.IsOwnCall forward call
  := by
  rcases List.mem_append.mp h with h | h
  · obtain ⟨d, hd, rfl⟩ := mem_making h
    apply IsOwnCall.enter
    rcases List.mem_cons.mp hd with rfl | hd
    · apply List.prefix_rfl
    · apply Path.steps_of_mem_parents hd
  · split at h
    · cases h
    · split at h
      · cases h
      · obtain rfl := List.mem_singleton.mp h
        apply IsOwnCall.lock

/-- The path of a module leads through the directory of compiled modules. -/
theorem inCompiled_output (c : Cache) (j : Job) :
  c.InCompiled j.IsForward (c.output j)
  := by
  have hname : (Path.mk j.moduleName).isAbsolute = false := by
    simp [Path.isAbsolute, Job.toList_moduleName]
  have hrelative : (Path.mk j.relativePath).isAbsolute = false := by
    simp [Path.isAbsolute, Job.relativePath, compiledName]
  have hjoin : (Path.mk compiledName).join j.moduleName = ⟨j.relativePath⟩ := by
    rw [Path.join, if_neg (by simp [hname])]
    rfl
  have hsteps : (Path.mk j.relativePath).steps = compiledName :: (Path.mk j.moduleName).steps := by
    rw [← hjoin, Path.steps_join _ hname, isName_compiledName.toIsStep.steps_eq]
    rfl
  refine ⟨(Path.mk j.moduleName).steps, ?_, ?_⟩
  · rw [output, Path.steps_join _ hrelative, hsteps]
  · intro hforward hdots
    apply hforward
    rw [hsteps]
    apply List.mem_cons_of_mem _ hdots

/-- The last step of the path of a module ends like one. -/
theorem exists_last_output (c : Cache) (j : Job) :
  ∃ front last, (c.output j).steps = front ++ [last ++ ".module"]
  := by
  obtain ⟨text, htext⟩ : ∃ text, c.output j = (Path.mk text).withEnding ".module" := by
    have hrelative : (Path.mk j.relativePath).isAbsolute = false := by
      simp [Path.isAbsolute, Job.relativePath, compiledName]
    rw [output, Path.join, if_neg (by simp [hrelative]), Job.relativePath, Job.moduleName,
      ← String.append_assoc, ← String.append_assoc]
    exact ⟨_, rfl⟩
  obtain ⟨front, last, hroute⟩ := Path.exists_route_withEnding ⟨text⟩
    (by decide : ".module" ≠ "") (by decide)
  have hslash : (c.output j).endsInSlash = false := by
    rw [htext, Path.endsInSlash, Path.withEnding]
    simp
  refine ⟨front, last, ?_⟩
  rw [← hroute, ← htext, Path.route, hslash]
  simp

/-- What leads to a path among the compiled modules leads to the models directory or is among them
itself. -/
theorem InCompiled.of_steps {d : Path} (h : c.InCompiled forward path)
    (hd : d.steps <+: path.steps) :
  d.steps <+: c.directory.steps ∨ c.InCompiled forward d
  := by
  obtain ⟨rest, hsteps, hforward⟩ := h
  rw [hsteps] at hd
  rcases List.prefix_or_prefix_of_prefix hd (List.prefix_append _ _) with hshort | ⟨others, hlong⟩
  · exact .inl hshort
  · rw [← hlong, List.prefix_append_right_inj] at hd
    cases others with
    | nil =>
      left
      rw [← hlong, List.append_nil]
    | cons name others =>
      obtain ⟨rfl, hrest⟩ := List.cons_prefix_cons.mp hd
      exact .inr ⟨others, hlong.symm, fun hf hdots => hforward hf (hrest.subset hdots)⟩

theorem isOwnCall_compileCalls {moduleName source : String}
    (h : call ∈ compileCalls t moduleName source (c.output j)) :
  c.IsOwnCall j.IsForward call
  := by
  have hmodule : ∀ text, c.IsOwnCall j.IsForward (.write (c.output j) text) := by
    intro text
    obtain ⟨front, last, hlast⟩ := exists_last_output c j
    apply IsOwnCall.module (inCompiled_output c j) hlast
  have hdirectory : ∀ d, d.steps <+: (c.output j).steps →
      c.IsOwnCall j.IsForward (.makeDirectory d) := by
    intro d hd
    rcases (inCompiled_output c j).of_steps hd with henter | hinside
    · apply IsOwnCall.enter henter
    · apply IsOwnCall.makeInside hinside
  unfold compileCalls at h
  split at h
  · cases h
  · split at h
    · obtain rfl := List.mem_singleton.mp h
      apply hmodule
    case h_2 directory hparent =>
      have hsteps := Path.steps_of_mem_parents (List.mem_of_mem_head? hparent)
      rcases List.mem_append.mp h with h | h
      · obtain ⟨d, hd, rfl⟩ := mem_making h
        apply hdirectory
        rcases List.mem_cons.mp hd with rfl | hd
        · apply hsteps
        · apply (Path.steps_of_mem_parents hd).trans hsteps
      · split at h
        · obtain rfl := List.mem_singleton.mp h
          apply hmodule
        · cases h

theorem isOwnCall_pruneEntryCalls (hname : IsStep name) (h : call ∈ c.pruneEntryCalls t name) :
  c.IsOwnCall forward call
  := by
  have hinside : ∀ {name}, IsStep name → c.InCompiled True (c.compiledPath.join name) := by
    intro name hname
    refine ⟨[name], ?_, fun _ => ?_⟩
    · rw [Path.steps_join_name _ hname, compiledPath,
        Path.steps_join_name _ isName_compiledName.toIsStep]
      simp
    · rw [List.mem_singleton]
      exact hname.ne_dots.symm
  unfold pruneEntryCalls at h
  dsimp only at h
  split at h
  · split at h
    · cases h
    · obtain rfl := List.mem_singleton.mp h
      apply IsOwnCall.prune (hinside hname)
  · rcases List.mem_cons.mp h with rfl | h
    · apply IsOwnCall.prune (hinside hname)
    · split at h
      · cases h
      · obtain rfl := List.mem_singleton.mp h
        rw [withEnding_join hname]
        apply IsOwnCall.mark (hinside (isStep_withEnding hname))

theorem isOwnCall_pruneCalls {names : List String} (hnames : ∀ name ∈ names, IsStep name)
    (h : call ∈ c.pruneCalls names t) :
  c.IsOwnCall forward call
  := by
  induction names generalizing t with
  | nil => cases h
  | cons name rest ih =>
    rw [List.forall_mem_cons] at hnames
    rcases List.mem_append.mp h with h | h
    · apply isOwnCall_pruneEntryCalls hnames.1 h
    · apply ih hnames.2 h

/-- What is to be removed has a name. -/
theorem isName_of_mem_outdated {keep : Path} (hs : t.Sound) (h : name ∈ c.outdated t keep) :
  IsName name
  := by
  rw [outdated] at h
  split at h
  · cases h
  case h_2 entries hlist =>
    obtain ⟨⟨name', n⟩, hentry, rfl⟩ := List.mem_map.mp h
    obtain ⟨q, -, rfl⟩ := exists_leads_of_list hlist
    apply hs.isName_of_get? (hs.mem_children.mp (List.mem_filter.mp hentry).1)

theorem isOwnCall_jobCalls {moduleName : String} (htemporary : ∀ a, IsTemporary (temporary a))
    (hs : t.Sound) (h : call ∈ c.jobCalls temporary t j moduleName) :
  c.IsOwnCall j.IsForward call
  := by
  have hstage := (Call.becomes_runAll hs (c.stepCalls temporary j.stage t)).sound
  rw [runAll_stepCalls] at hstage
  rcases List.mem_append.mp h with h | h
  · apply isOwnCall_stepCalls htemporary h
  · split at h
    · cases h
    case h_2 t₁ done ht₁ =>
      change (c.stage t j).1.Sound at hstage
      rw [ht₁] at hstage
      have hcompile := (Call.becomes_runAll hstage
        (compileCalls t₁ moduleName j.source (c.output j))).sound
      rw [runAll_compileCalls] at hcompile
      rcases List.mem_append.mp h with h | h
      · apply isOwnCall_compileCalls h
      · split at h
        · cases h
        case h_2 t₂ module ht₂ =>
          rw [ht₂] at hcompile
          have hcommit := (Call.becomes_runAll hcompile (c.stepCalls temporary j.commit t₂)).sound
          rw [runAll_stepCalls] at hcommit
          rcases List.mem_append.mp h with h | h
          · apply isOwnCall_stepCalls htemporary h
          · split at h
            · cases h
            case h_2 t₃ done ht₃ =>
              rw [ht₃] at hcommit
              apply isOwnCall_pruneCalls _ h
              intro name hname
              apply (isName_of_mem_outdated hcommit hname).toIsStep

namespace Operation

/-- Whether the path of the module that an operation stores, if any, never leads back. -/
def IsForward : Operation → Prop
  | .store b _ => (Job.ofBundle b).IsForward
  | .storeSource fingerprint text _ =>
    match Job.ofSource fingerprint text with
    | .ok j => j.IsForward
    | .error _ => True
  | _ => True

variable {operation : Operation}

theorem isOwnCall (htemporary : ∀ a, IsTemporary (temporary a)) (hs : t.Sound)
    (h : call ∈ operation.calls c temporary t) :
  c.IsOwnCall operation.IsForward call
  := by
  cases operation with
  | store b moduleName => apply isOwnCall_jobCalls htemporary hs h
  | storeSource fingerprint text moduleName =>
    rw [calls] at h
    split at h
    case h_1 j hj =>
      rw [IsForward, hj]
      apply isOwnCall_jobCalls htemporary hs h
    case h_2 => cases h
  | flagOutOfDate now => apply isOwnCall_replaceCalls htemporary h
  | clearOutOfDate =>
    obtain rfl := List.mem_singleton.mp h
    apply IsOwnCall.discard
  | recordError message => apply isOwnCall_replaceCalls htemporary h
  | clearError =>
    obtain rfl := List.mem_singleton.mp h
    apply IsOwnCall.discard
  | acquireLock held timeout => apply isOwnCall_lockCalls h

end Operation

end LiveModels.Cache
