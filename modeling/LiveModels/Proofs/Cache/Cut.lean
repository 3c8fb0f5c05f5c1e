import LiveModels.Proofs.Cache.Stored

/-!
# Attempts that are cut off

Generations are stored one after the other in one models directory, where any attempt may be cut off
after any of its steps, or while its module is written, or may fail. The marker, the pointer, the
bundle and the modules can each be left by another attempt. Yet what is found for a fingerprint has
been written as a whole, from a source for this fingerprint, and an attempt for the fingerprint has
come to its marker.
-/

namespace LiveModels.Cache

open LiveModels.Tree

/-- An attempt to store a job. -/
structure Attempt where
  job : Job
  moduleName : String
  deriving DecidableEq, Repr

/-- A step in which an attempt reads or changes files. -/
inductive FileStep
  /-- Replaces an artifact. -/
  | replace (step : Step)
  /-- Compiles the source and writes the module. -/
  | compile
  /-- Finds out which compiled modules are to be removed. -/
  | look
  /-- Removes a compiled module. -/
  | remove (name : String)
  deriving DecidableEq, Repr

namespace Attempt

/-- The attempts that are made at storing a bundle or a text that was stored before. -/
inductive IsProper : Attempt → Prop
  | ofBundle (b : Bundle) (moduleName : String)
      (h : ∀ d ∈ b.fingerprint.toList, Text.isLowerHex d = true) :
    IsProper ⟨.ofBundle b, moduleName⟩
  | ofSource {j : Job} (fingerprint text moduleName : String)
      (h : ∀ d ∈ fingerprint.toList, Text.isLowerHex d = true)
      (hj : Job.ofSource fingerprint text = .ok j) :
    IsProper ⟨j, moduleName⟩

/-- The steps of an attempt that are known before it begins. -/
def steps (a : Attempt) : List FileStep :=
  a.job.stage.map .replace ++ .compile :: a.job.commit.map .replace ++ [.look]

/-- Makes one step. What follows from it alone are the steps that are to come next. -/
def make (c : Cache) (a : Attempt) (tree : Tree) :
    FileStep → Tree × Except ModelsError (List FileStep)
  | .replace step =>
    match step.run c tree with
    | (tree, .ok _) => (tree, .ok [])
    | (tree, .error e) => (tree, .error e)
  | .compile =>
    match Manifest.compile tree a.moduleName a.job.source (c.output a.job) with
    | (tree, .ok _) => (tree, .ok [])
    | (tree, .error e) => (tree, .error (.compile e))
  | .look => (tree, .ok ((c.outdated tree (c.output a.job)).map .remove))
  | .remove name => (c.pruneEntry tree name, .ok [])

variable {a : Attempt}

theorem IsProper.isLowerHex (h : a.IsProper) :
  ∀ d ∈ a.job.fingerprint.toList, Text.isLowerHex d = true
  := by
  cases h with
  | ofBundle b moduleName h => apply h
  | ofSource fingerprint text moduleName h hj =>
    unfold Job.ofSource at hj
    split at hj
    · cases hj
      apply h
    · cases hj

/-- The module of a proper attempt lies in the directory of compiled modules. -/
theorem IsProper.isStep_moduleName (h : a.IsProper) :
  IsStep a.job.moduleName
  := Job.isStep_moduleName h.isLowerHex

/-- The texts of the artifacts that an attempt writes. -/
theorem text_of_mem_steps {x : Artifact} {text : String}
    (h : FileStep.replace ⟨x, text⟩ ∈ a.steps) :
  (x = .marker → text = a.job.fingerprint) ∧ (x = .bundle → text = a.job.source) ∧
    (x = .pointer → text = a.job.relativePath)
  := by
  simp only [Attempt.steps, Job.stage, Job.commit, List.mem_append, List.mem_cons, List.mem_map,
    FileStep.replace.injEq, reduceCtorEq, List.not_mem_nil, or_false, false_or,
    exists_eq_right, Step.mk.injEq, Option.mem_toList, Option.map_eq_some_iff] at h
  rcases h with (⟨generated, -, rfl, -⟩ | ⟨rfl, rfl⟩) | ⟨rfl, rfl⟩ | ⟨rfl, rfl⟩ <;> simp

end Attempt

/-- Whether a module cannot be loaded from what a file holds. -/
def IsTorn (content : Content) : Prop :=
  ∀ text m, content = .text text → Manifest.parse text ≠ .ok m

/-- A models directory in which generations are stored. -/
structure Storing where
  tree : Tree
  /-- The attempt under way with the steps that it has yet to make. -/
  underWay : Option (Attempt × List FileStep)
  /-- The steps that have been made without a failure, the last one first. -/
  made : List (Attempt × FileStep)

namespace Storing

/-- What happens while generations are stored. -/
inductive Move (c : Cache) : Storing → Storing → Prop
  /-- An attempt begins. One that is under way has been cut off. -/
  | begin (s : Storing) {a : Attempt} (ha : a.IsProper) :
    Move c s { s with underWay := some (a, a.steps) }
  /-- A step is made. What follows from it comes in any order, as a directory may be listed in any. -/
  | make {s : Storing} {a : Attempt} {step : FileStep} {todo more next : List FileStep} {tree : Tree}
      (h : s.underWay = some (a, step :: todo)) (hmake : a.make c s.tree step = (tree, .ok more))
      (horder : next.Perm more) :
    Move c s ⟨tree, some (a, next ++ todo), (a, step) :: s.made⟩
  | fail {s : Storing} {a : Attempt} {step : FileStep} {todo : List FileStep} {tree : Tree}
      {e : ModelsError} (h : s.underWay = some (a, step :: todo))
      (hmake : a.make c s.tree step = (tree, .error e)) :
    Move c s ⟨tree, none, s.made⟩
  /-- The attempt is cut off before anything of the module is written. -/
  | miss {s : Storing} {a : Attempt} {todo : List FileStep}
      (h : s.underWay = some (a, .compile :: todo)) :
    Move c s ⟨(s.tree.makeDirectories c.compiledPath).1, none, s.made⟩
  /-- The attempt is cut off while the module is written. -/
  | tear {s : Storing} {a : Attempt} {todo : List FileStep} {content : Content} {tree : Tree}
      (h : s.underWay = some (a, .compile :: todo)) (htorn : IsTorn content)
      (hwrite : (s.tree.makeDirectories c.compiledPath).1.write (c.output a.job) content =
        .ok tree) :
    Move c s ⟨tree, none, s.made⟩

/-- The states that are reached from an empty models directory. -/
inductive Reached (c : Cache) : Storing → Prop
  | start {tree : Tree} {p : Place} (hs : tree.Sound) (h : tree.Leads c.directory p)
      (hempty : tree.children p = []) :
    Reached c ⟨tree, none, []⟩
  | move {s s' : Storing} (h : Reached c s) (hmove : Move c s s') : Reached c s'

/-! ### Whole attempts -/

/-- What is done in any number of moves, from one point of an attempt to another. -/
def Goes (c : Cache) (underWay : Option (Attempt × List FileStep)) (tree : Tree)
    (underWay' : Option (Attempt × List FileStep)) (tree' : Tree) : Prop :=
  ∀ made, ∃ news,
    Relation.ReflTransGen (Move c) ⟨tree, underWay, made⟩ ⟨tree', underWay', news ++ made⟩

variable {c : Cache} {a : Attempt} {t t' t'' : Tree} {p : Place}
variable {u u' u'' : Option (Attempt × List FileStep)} {todo more : List FileStep} {step : FileStep}

theorem Goes.refl (c : Cache) (u : Option (Attempt × List FileStep)) (t : Tree) :
  Goes c u t u t
  := by
  intro made
  use []
  apply Relation.ReflTransGen.refl

theorem Goes.trans (h : Goes c u t u' t') (h' : Goes c u' t' u'' t'') :
  Goes c u t u'' t''
  := by
  intro made
  obtain ⟨news, hnews⟩ := h made
  obtain ⟨news', hnews'⟩ := h' (news ++ made)
  use news' ++ news
  rw [List.append_assoc]
  apply hnews.trans hnews'

theorem goes_of_make (hmake : a.make c t step = (t', .ok more)) (todo : List FileStep) :
  Goes c (some (a, step :: todo)) t (some (a, more ++ todo)) t'
  := by
  intro made
  use [(a, step)]
  have hmove : Move c ⟨t, some (a, step :: todo), made⟩
      ⟨t', some (a, more ++ todo), (a, step) :: made⟩ := .make rfl hmake (.refl _)
  apply Relation.ReflTransGen.single hmove

theorem goes_of_fail {e : ModelsError} (hmake : a.make c t step = (t', .error e)) :
  Goes c (some (a, step :: todo)) t none t'
  := by
  intro made
  use []
  have hmove : Move c ⟨t, some (a, step :: todo), made⟩ ⟨t', none, made⟩ := .fail rfl hmake
  apply Relation.ReflTransGen.single hmove

/-- Artifacts are replaced one by one up to the first that fails. -/
theorem goes_runSteps (c : Cache) (a : Attempt) (steps : List Step) (todo : List FileStep)
    (t : Tree) :
  Goes c (some (a, steps.map .replace ++ todo)) t
    ((c.runSteps steps t).2.toOption.map fun _ => (a, todo)) (c.runSteps steps t).1
  := by
  induction steps generalizing t with
  | nil => apply Goes.refl
  | cons step rest ih =>
    simp only [List.map_cons, List.cons_append, runSteps]
    split
    case h_1 t₁ done ht₁ =>
      have hmake : a.make c t (.replace step) = (t₁, .ok []) := by simp [Attempt.make, ht₁]
      apply (goes_of_make hmake _).trans
      apply ih
    case h_2 t₁ e ht₁ =>
      have hmake : a.make c t (.replace step) = (t₁, .error e) := by simp [Attempt.make, ht₁]
      apply goes_of_fail hmake

/-- Compiled modules are removed one by one. -/
theorem goes_pruneEntries (c : Cache) (a : Attempt) (names : List String) (t : Tree) :
  Goes c (some (a, names.map .remove)) t (some (a, [])) (names.foldl c.pruneEntry t)
  := by
  induction names generalizing t with
  | nil => apply Goes.refl
  | cons name rest ih =>
    have hmake : a.make c t (.remove name) = (c.pruneEntry t name, .ok []) := rfl
    apply (goes_of_make hmake _).trans
    apply ih

/-- After its job has been staged, an attempt completes it. -/
theorem goes_complete (c : Cache) (a : Attempt) (t : Tree) :
  Goes c (some (a, .compile :: (a.job.commit.map .replace ++ [.look]))) t
    ((c.complete t a.job a.moduleName).2.toOption.map fun _ => (a, []))
    (c.complete t a.job a.moduleName).1
  := by
  cases hcompile : Manifest.compile t a.moduleName a.job.source (c.output a.job) with
  | mk t₁ result =>
    cases result with
    | error e =>
      have hmake : a.make c t .compile = (t₁, .error (.compile e)) := by
        simp [Attempt.make, hcompile]
      simp only [complete, hcompile]
      apply goes_of_fail hmake
    | ok module =>
      have hmake : a.make c t .compile = (t₁, .ok []) := by simp [Attempt.make, hcompile]
      have hcompiled := goes_of_make hmake (a.job.commit.map .replace ++ [.look])
      have hcommit := goes_runSteps c a a.job.commit [.look] t₁
      cases hsteps : c.runSteps a.job.commit t₁ with
      | mk t₂ result =>
        rw [hsteps] at hcommit
        simp only [complete, hcompile]
        rw [hsteps]
        cases result with
        | error e => apply hcompiled.trans hcommit
        | ok done =>
          have hlook : a.make c t₂ .look =
              (t₂, .ok ((c.outdated t₂ (c.output a.job)).map .remove)) := rfl
          have hlooked := goes_of_make hlook []
          rw [List.append_nil] at hlooked
          simp only [prune_eq]
          apply (hcompiled.trans hcommit).trans (hlooked.trans _)
          apply goes_pruneEntries

/-- An attempt that is not cut off does what storing its job does in one go. -/
theorem goes_run (c : Cache) (a : Attempt) (t : Tree) :
  Goes c (some (a, a.steps)) t
    ((c.run t a.job a.moduleName).2.toOption.map fun _ => (a, []))
    (c.run t a.job a.moduleName).1
  := by
  have hstage := goes_runSteps c a a.job.stage
    (.compile :: (a.job.commit.map .replace ++ [.look])) t
  rw [Attempt.steps, List.append_assoc]
  cases hsteps : c.runSteps a.job.stage t with
  | mk t₁ result =>
    rw [hsteps] at hstage
    simp only [run, stage, hsteps]
    cases result with
    | error e => apply hstage
    | ok done =>
      apply hstage.trans
      apply goes_complete

/-- What is reached by more moves is reached. -/
theorem Reached.trans {s s' : Storing} (h : Reached c s) (hmoves : Relation.ReflTransGen (Move c) s s') :
  Reached c s'
  := by
  induction hmoves with
  | refl => apply h
  | tail _ hmove ih => apply ih.move hmove

/-! ### Where files come from -/

/-- Whether steps that have been made explain the node at a place: an artifact has been written by
one of them, and so has a module, unless it is torn. -/
structure Explains (p : Place) (made : List (Attempt × FileStep)) (q : Place) (n : Option Node) :
    Prop where
  artifact : ∀ x text, q = p ++ [Artifact.fileName x] → n = some (.file (.text text)) →
    ∃ a, (a, FileStep.replace ⟨x, text⟩) ∈ made
  module : ∀ name text m, q = p ++ [compiledName] ++ [name] → n = some (.file (.text text)) →
    Manifest.parse text = .ok m →
    ∃ a, (a, FileStep.compile) ∈ made ∧ name = a.job.moduleName ∧
      Manifest.ofSource a.moduleName a.job.source = .ok m ∧ text = m.print

namespace Explains

variable {made : List (Attempt × FileStep)} {q : Place} {n : Option Node}

/-- What has been explained stays so when another step is made. -/
theorem cons (h : Explains p made q n) (e : Attempt × FileStep) :
  Explains p (e :: made) q n
  := by
  constructor
  · intro x text hq hn
    obtain ⟨a, ha⟩ := h.artifact x text hq hn
    use a
    apply List.mem_cons_of_mem _ ha
  · intro name text m hq hn hm
    obtain ⟨a, ha, hname⟩ := h.module name text m hq hn hm
    use a
    exact ⟨List.mem_cons_of_mem _ ha, hname⟩

/-- What holds no text needs no explanation. -/
theorem of_not_text (h : ∀ text, n ≠ some (.file (.text text))) :
  Explains p made q n
  := by
  constructor
  · intro x text _ hn
    exact absurd hn (h text)
  · intro name text m _ hn
    exact absurd hn (h text)

/-- An artifact is explained by the step that has written it. -/
theorem of_replace (step : Step) (h : (a, FileStep.replace step) ∈ made) :
  Explains p made (p ++ [step.artifact.fileName]) (some (.file (.text step.text)))
  := by
  constructor
  · intro x text hq hn
    rw [List.append_cancel_left_eq, List.singleton_inj, Artifact.fileName_inj] at hq
    cases hn
    use a
    rwa [← hq]
  · intro name text m hq
    have hlength := congrArg List.length hq
    simp at hlength

/-- A module is explained by the step that has written it, and a torn one needs no explanation. -/
theorem of_compiled {name : String} {content : Content}
    (h : ∀ text m, content = .text text → Manifest.parse text = .ok m →
      ∃ a, (a, FileStep.compile) ∈ made ∧ name = a.job.moduleName ∧
        Manifest.ofSource a.moduleName a.job.source = .ok m ∧ text = m.print) :
  Explains p made (p ++ [compiledName] ++ [name]) (some (.file content))
  := by
  constructor
  · intro x text hq
    have hlength := congrArg List.length hq
    simp at hlength
  · intro name' text m hq hn hm
    rw [List.append_cancel_left_eq, List.singleton_inj] at hq
    cases hn
    rw [← hq]
    apply h text m rfl hm

end Explains

theorem isTorn_empty :
  IsTorn (.text "")
  := by
  intro text m htext
  cases htext
  intro hm
  cases hm

/-! ### The invariant -/

/-- Whether an attempt may come to a step. -/
def IsPlanned (c : Cache) (p : Place) (t : Tree) (a : Attempt) (step : FileStep) : Prop :=
  step ∈ a.steps ∨
    ∃ name, step = .remove name ∧ IsStep name ∧ t.Leads c.compiledPath (p ++ [compiledName])

/-- What is known at any time of a models directory in which generations are stored. -/
structure Kept (c : Cache) (p : Place) (s : Storing) : Prop where
  sound : s.tree.Sound
  leads : s.tree.Leads c.directory p
  underWay : ∀ a todo, s.underWay = some (a, todo) →
    a.IsProper ∧ ∀ step ∈ todo, IsPlanned c p s.tree a step
  made : ∀ e ∈ s.made, e.1.IsProper ∧ (e.2 ∈ e.1.steps ∨ ∃ name, e.2 = .remove name)
  explained : ∀ q, Explains p s.made q (s.tree.get? q)

variable {s s' : Storing} {made : List (Attempt × FileStep)}

/-- What an attempt may come to stays so as long as no directory is lost. -/
theorem IsPlanned.mono (h : IsPlanned c p t a step)
    (hkeep : ∀ q, t.get? q = some .directory → t'.get? q = some .directory) :
  IsPlanned c p t' a step
  := by
  rcases h with hstep | ⟨name, heq, hname, hleads⟩
  · apply Or.inl hstep
  · exact .inr ⟨name, heq, hname, hleads.mono hkeep⟩

/-- A change that is explained keeps what is known, once no more than is planned is to be done. -/
theorem Kept.of_becomes (h : Kept c p s) (hbecomes : Becomes (Explains p s'.made) s.tree s'.tree)
    (hunderWay : ∀ a todo, s'.underWay = some (a, todo) →
      a.IsProper ∧ ∀ step ∈ todo, IsPlanned c p s.tree a step)
    (hmade : s'.made = s.made ∨ ∃ a step, s'.made = (a, step) :: s.made ∧ a.IsProper ∧
      IsPlanned c p s.tree a step) :
  Kept c p s'
  := by
  constructor
  · apply hbecomes.sound
  · apply h.leads.mono hbecomes.keeps
  · intro a todo htodo
    obtain ⟨ha, hplanned⟩ := hunderWay a todo htodo
    use ha
    intro step hstep
    apply (hplanned step hstep).mono hbecomes.keeps
  · rcases hmade with heq | ⟨a, step, heq, ha, hplanned⟩
    · rw [heq]
      apply h.made
    · rw [heq]
      intro e he
      rcases List.mem_cons.mp he with rfl | he
      · use ha
        rcases hplanned with hstep | ⟨name, rfl, -⟩
        · apply Or.inl hstep
        · apply Or.inr ⟨name, rfl⟩
      · apply h.made e he
  · intro q
    rcases hbecomes.gives q with heq | hexplained
    · rw [heq]
      rcases hmade with heq' | ⟨a, step, heq', -⟩
      · rw [heq']
        apply h.explained
      · rw [heq']
        apply (h.explained q).cons
    · apply hexplained

/-- A step that is made changes only what it explains. -/
theorem becomes_of_make (hs : t.Sound) (h : t.Leads c.directory p) (ha : a.IsProper)
    (hplanned : IsPlanned c p t a step) (hmake : a.make c t step = (t', .ok more)) :
  Becomes (Explains p ((a, step) :: made)) t t'
  := by
  have hj := ha.isStep_moduleName
  cases step with
  | replace step =>
    have hreplace : Becomes (Explains p ((a, .replace step) :: made)) t
        (c.replace t step.artifact step.text).1 :=
      becomes_replace hs h (.of_replace step List.mem_cons_self)
    simp only [Attempt.make, Step.run] at hmake
    cases hresult : c.replace t step.artifact step.text with
    | mk t₁ result =>
      rw [hresult] at hmake hreplace
      cases result <;> cases hmake
      apply hreplace
  | compile =>
    have hcompile : Becomes (Explains p ((a, .compile) :: made)) t
        (Manifest.compile t a.moduleName a.job.source (c.output a.job)).1 := by
      apply becomes_compile a.moduleName hj hs h
      · apply Explains.of_not_text
        simp
      · intro m hm
        apply Explains.of_compiled
        intro text m' htext hm'
        cases htext
        rw [Manifest.parse_print] at hm'
        cases hm'
        exact ⟨a, List.mem_cons_self, rfl, hm, rfl⟩
    simp only [Attempt.make] at hmake
    cases hresult : Manifest.compile t a.moduleName a.job.source (c.output a.job) with
    | mk t₁ result =>
      rw [hresult] at hmake hcompile
      cases result <;> cases hmake
      apply hcompile
  | look =>
    cases hmake
    apply Becomes.refl hs
  | remove name =>
    cases hmake
    rcases hplanned with hstep | ⟨name', heq, hname, hleads⟩
    · simp [Attempt.steps] at hstep
    · cases heq
      apply becomes_pruneEntry hs hleads hname
      · apply Explains.of_not_text
        simp
      · apply Explains.of_compiled
        intro text m htext hm
        exact absurd hm (isTorn_empty text m htext)

/-- A step that fails changes nothing that needs an explanation. -/
theorem becomes_of_fail {e : ModelsError} (hs : t.Sound) (h : t.Leads c.directory p)
    (ha : a.IsProper) (hmake : a.make c t step = (t', .error e)) :
  Becomes (Explains p made) t t'
  := by
  cases step with
  | replace step =>
    simp only [Attempt.make, Step.run] at hmake
    rcases replace_cases h step.artifact step.text with ⟨e', heq⟩ | ⟨-, heq⟩
    · rw [heq] at hmake
      cases hmake
      apply Becomes.refl hs
    · rw [heq] at hmake
      cases hmake
  | compile =>
    simp only [Attempt.make] at hmake
    rcases compile_cases a.moduleName ha.isStep_moduleName h with
      ⟨e', heq⟩ | ⟨e', heq⟩ | ⟨m, -, -, -, -, heq⟩
    · rw [heq] at hmake
      cases hmake
      apply Becomes.refl hs
    · rw [heq] at hmake
      cases hmake
      apply becomes_makeCompiled hs h
      apply Explains.of_not_text
      simp
    · rw [heq] at hmake
      cases hmake
  | look => cases hmake
  | remove name => cases hmake

/-- What follows from a step alone is planned. -/
theorem isPlanned_of_make (hs : t.Sound) (h : t.Leads c.directory p)
    (hmake : a.make c t step = (t', .ok more)) {next : FileStep} (hnext : next ∈ more) :
  IsPlanned c p t a next
  := by
  cases step with
  | replace step =>
    simp only [Attempt.make] at hmake
    split at hmake
    · cases hmake
      cases hnext
    · cases hmake
  | compile =>
    simp only [Attempt.make] at hmake
    split at hmake
    · cases hmake
      cases hnext
    · cases hmake
  | look =>
    cases hmake
    obtain ⟨name, hname, rfl⟩ := List.mem_map.mp hnext
    obtain ⟨hisName, hleads, -⟩ := mem_outdated hs h hname
    exact .inr ⟨name, rfl, hisName.toIsStep, hleads⟩
  | remove name =>
    cases hmake
    cases hnext

/-- Every move keeps what is known. -/
theorem Kept.move (h : Kept c p s) (hmove : Move c s s') :
  Kept c p s'
  := by
  cases hmove with
  | @begin a ha =>
    apply h.of_becomes
    · apply Becomes.refl h.sound
    · intro a' todo htodo
      cases htodo
      use ha
      intro step hstep
      apply Or.inl hstep
    · apply Or.inl rfl
  | @make a step todo more next tree hunderWay hmake horder =>
    obtain ⟨ha, hplanned⟩ := h.underWay a _ hunderWay
    have hstep := hplanned step List.mem_cons_self
    apply h.of_becomes
    · apply becomes_of_make h.sound h.leads ha hstep hmake
    · intro a' todo' htodo'
      cases htodo'
      use ha
      intro step' hstep'
      rcases List.mem_append.mp hstep' with hstep' | hstep'
      · apply isPlanned_of_make h.sound h.leads hmake (horder.mem_iff.mp hstep')
      · apply hplanned step' (List.mem_cons_of_mem _ hstep')
    · exact .inr ⟨a, step, rfl, ha, hstep⟩
  | @fail a step todo tree e hunderWay hmake =>
    obtain ⟨ha, -⟩ := h.underWay a _ hunderWay
    apply h.of_becomes
    · apply becomes_of_fail h.sound h.leads ha hmake
    · intro a' todo' htodo'
      cases htodo'
    · apply Or.inl rfl
  | miss hunderWay =>
    apply h.of_becomes
    · apply becomes_makeCompiled h.sound h.leads
      apply Explains.of_not_text
      simp
    · intro a todo htodo
      cases htodo
    · apply Or.inl rfl
  | @tear a todo content tree hunderWay htorn hwrite =>
    obtain ⟨ha, -⟩ := h.underWay a _ hunderWay
    have hj := ha.isStep_moduleName
    have hmade : Becomes (Explains p s.made) s.tree (s.tree.makeDirectories c.compiledPath).1 := by
      apply becomes_makeCompiled h.sound h.leads
      apply Explains.of_not_text
      simp
    rw [output_eq hj] at hwrite
    obtain ⟨-, hname, q, hleads, hfree, rfl⟩ := exists_leads_of_write hj hwrite
    obtain ⟨rfl, -⟩ := (h.leads.mono hmade.keeps).eq_of_join isName_compiledName.toIsStep hleads
    apply h.of_becomes
    · apply hmade.trans
      apply hmade.sound.becomes_set hleads.directory hname (.inr hfree)
      apply Explains.of_compiled
      intro text m htext hm
      exact absurd hm (htorn text m htext)
    · intro a' todo' htodo'
      cases htodo'
    · apply Or.inl rfl

/-- What is known holds at any time. -/
theorem Reached.exists_kept (h : Reached c s) :
  ∃ p, Kept c p s
  := by
  induction h with
  | @start tree p hs h hempty =>
    have hfree : ∀ name, tree.get? (p ++ [name]) = none := by
      intro name
      rw [Option.eq_none_iff_forall_ne_some]
      intro n hn
      have hmem := hs.mem_children.mpr hn
      simp [hempty] at hmem
    use p
    constructor
    · apply hs
    · apply h
    · intro a todo htodo
      cases htodo
    · intro e he
      cases he
    · intro q
      constructor
      · intro x text hq hn
        rw [hq, hfree] at hn
        cases hn
      · intro name text m hq hn
        rw [hq] at hn
        have hcompiled := hs.get?_parent hn
        rw [hfree] at hcompiled
        cases hcompiled
  | move h hmove ih =>
    obtain ⟨p, hkept⟩ := ih
    use p
    apply hkept.move hmove

/-! ### What is found -/

/-- Whether an attempt for a fingerprint has come to its marker. -/
def HasMarked (s : Storing) (fingerprint : String) : Prop :=
  ∃ a, (a, FileStep.replace ⟨.marker, fingerprint⟩) ∈ s.made ∧ a.job.fingerprint = fingerprint

/-- Whether a text has been written by an attempt, as a bundle with a fingerprint in its header. -/
def HasWritten (s : Storing) (fingerprint text : String) : Prop :=
  ∃ a header, (a, FileStep.replace ⟨.bundle, text⟩) ∈ s.made ∧ a.job.source = text ∧
    Bundle.header? text = some header ∧ header.fingerprint = fingerprint

/-- Whether a module has been compiled by an attempt from a source with a fingerprint in its header,
and its manifest is there as a whole. -/
def HasCompiled (c : Cache) (s : Storing) (fingerprint : String) (module : Module) : Prop :=
  ∃ a m header, (a, FileStep.compile) ∈ s.made ∧ Bundle.header? a.job.source = some header ∧
    header.fingerprint = fingerprint ∧ Manifest.ofSource a.moduleName a.job.source = .ok m ∧
    s.tree.readText (c.output a.job) = .ok m.print ∧ module = m.toModule (c.output a.job) ∧
    module.types = (Declaration.declared a.job.source).map Declaration.exported

/-- What has been marked is the fingerprint of an attempt that has come to its marker. -/
theorem Kept.hasMarked {fingerprint : String} (h : Kept c p s)
    (hmarked : c.isMarked s.tree fingerprint = true) :
  s.HasMarked fingerprint
  := by
  rw [isMarked, beq_iff_eq, Option.map_eq_some_iff] at hmarked
  obtain ⟨text, hread, htrimmed⟩ := hmarked
  obtain ⟨-, hget⟩ := (read?_eq_some_iff h.leads).mp hread
  obtain ⟨a, ha⟩ := (h.explained _).artifact .marker text rfl hget
  obtain ⟨hproper, hsteps | ⟨name, hname⟩⟩ := h.made _ ha
  · have htext : text = a.job.fingerprint := (Attempt.text_of_mem_steps hsteps).1 rfl
    have hsame : Text.trimmed text = text := by
      apply Text.trimmed_eq_self
      intro d hd
      rw [htext] at hd
      apply Text.isBlank_of_isLowerHex (hproper.isLowerHex d hd)
    rw [← htrimmed, hsame]
    use a, ha
    rw [htext]
  · cases hname

/-- The bundle that is found for a fingerprint has been written as a whole. -/
theorem Kept.hasWritten {fingerprint text : String} (h : Kept c p s)
    (hbundle : c.bundleFor? s.tree fingerprint = some text) :
  s.HasWritten fingerprint text
  := by
  rw [bundleFor?, Option.filter_eq_some_iff, beq_iff_eq, Option.map_eq_some_iff] at hbundle
  obtain ⟨hread, header, hheader, hfingerprint⟩ := hbundle
  obtain ⟨-, hget⟩ := (read?_eq_some_iff h.leads).mp hread
  obtain ⟨a, ha⟩ := (h.explained _).artifact .bundle text rfl hget
  obtain ⟨-, hsteps | ⟨name, hname⟩⟩ := h.made _ ha
  · have htext : text = a.job.source := (Attempt.text_of_mem_steps hsteps).2.1 rfl
    exact ⟨a, header, ha, htext.symm, hheader, hfingerprint⟩
  · cases hname

/-- The pointer leads to the module of an attempt, though not always of the one that has come to
the marker. -/
theorem Kept.exists_output {location : Path} (h : Kept c p s)
    (hlocation : c.modulePath? s.tree = some location) :
  ∃ b : Attempt, b.IsProper ∧ location = c.output b.job
  := by
  obtain ⟨text, hread, rfl, -, -⟩ := modulePath?_eq_some_iff.mp hlocation
  obtain ⟨-, hget⟩ := (read?_eq_some_iff h.leads).mp hread
  obtain ⟨b, hmade⟩ := (h.explained _).artifact .pointer text rfl hget
  obtain ⟨hb, hsteps | ⟨name, hname⟩⟩ := h.made _ hmade
  · have htext : text = b.job.relativePath := (Attempt.text_of_mem_steps hsteps).2.2 rfl
    use b, hb
    rw [htext, Job.trimmed_relativePath hb.isLowerHex, output]
  · cases hname

/-- The module that is found for a fingerprint has been written as a whole. -/
theorem Kept.hasCompiled {fingerprint : String} {module : Module} (h : Kept c p s)
    (hmodule : (c.modulePath? s.tree).bind (moduleFor? s.tree fingerprint) = some module) :
  s.HasCompiled c fingerprint module
  := by
  obtain ⟨location, hlocation, hfor⟩ := Option.bind_eq_some_iff.mp hmodule
  obtain ⟨b, hb, rfl⟩ := h.exists_output hlocation
  obtain ⟨text, m, hread, hm, rfl, hfingerprint⟩ := moduleFor?_eq_some hfor
  have hj := hb.isStep_moduleName
  have hnode := readText_eq_ok_iff.mp hread
  rw [output_eq hj] at hnode
  obtain ⟨-, -, q, hleads, hget⟩ := exists_leads_of_node hj hnode
  obtain ⟨rfl, -⟩ := h.leads.eq_of_join isName_compiledName.toIsStep hleads
  obtain ⟨a, ha, hname, hsource, rfl⟩ := (h.explained _).module _ text m rfl hget hm
  obtain ⟨header, hheader, rfl⟩ := Manifest.ofSource_eq_ok hsource
  have houtput : c.output b.job = c.output a.job := by
    rw [output_eq hj, hname, output_eq (hname ▸ hj)]
  rw [houtput] at hread ⊢
  exact ⟨a, _, header, ha, hheader, hfingerprint, hsource, hread, rfl, rfl⟩

/-- Whatever attempts are cut off or fail, what is found for a fingerprint belongs to it: an attempt
for it has come to its marker, and the module or the bundle has been written as a whole, with the
fingerprint in its header. -/
theorem Reached.withstands_cuts (h : Reached c s) (fingerprint : String) :
  (∀ module source, c.tryLoad s.tree fingerprint = .module module source →
      s.HasMarked fingerprint ∧ s.HasCompiled c fingerprint module) ∧
    ∀ text, c.tryLoad s.tree fingerprint = .source text →
      s.HasMarked fingerprint ∧ s.HasWritten fingerprint text
  := by
  obtain ⟨p, hkept⟩ := h.exists_kept
  constructor
  · intro module source hload
    unfold tryLoad choose at hload
    split at hload
    case isFalse => cases hload
    case isTrue hmarked =>
      use hkept.hasMarked hmarked
      split at hload
      case h_1 module' bundle hmodule =>
        cases hload
        apply hkept.hasCompiled hmodule
      · cases hload
      · cases hload
  · intro text hload
    unfold tryLoad choose at hload
    split at hload
    case isFalse => cases hload
    case isTrue hmarked =>
      use hkept.hasMarked hmarked
      split at hload
      · cases hload
      case h_2 text' _ hbundle =>
        cases hload
        apply hkept.hasWritten hbundle
      · cases hload

/-- A cache in a directory of its own. -/
def shelf : Cache :=
  ⟨⟨"m"⟩⟩

/-- An attempt to store one declaration. -/
def pages : Attempt :=
  ⟨.ofBundle ⟨"ab", 1, [], "pub struct Page;"⟩, "pages"⟩

/-- The files once the attempt has been made in an empty directory, and then its job has been staged
again. -/
def staged : Tree × Except ModelsError Unit :=
  shelf.runSteps pages.job.stage
    (shelf.run (Tree.set ⟨[]⟩ ["m"] .directory) pages.job pages.moduleName).1

/-- The files when this attempt has then been cut off before it has written anything to its
module. -/
def torn : Except FileFault Tree :=
  (staged.1.makeDirectories shelf.compiledPath).1.write (shelf.output pages.job) (.text "")

/-- What is found, if it is a bundle. -/
def bundle? : Lookup → Option String
  | .source text => some text
  | _ => none

theorem eq_source_of_bundle? {found : Lookup} {text : String} (h : bundle? found = some text) :
  found = .source text
  := by
  cases found with
  | source text' => rw [Option.some.inj h]
  | module module source => cases h
  | miss => cases h

/-- What is found in the end is the bundle. -/
theorem source_torn :
  staged.2.toOption = some () ∧ ∃ tree text, torn = .ok tree ∧ shelf.tryLoad tree "ab" = .source text
  := by
  have hfound : staged.2.toOption = some () ∧
      (torn.toOption.bind fun tree => bundle? (shelf.tryLoad tree "ab")).isSome = true := by
    decide +kernel
  obtain ⟨hstaged, hsource⟩ := hfound
  use hstaged
  obtain ⟨text, htext⟩ := Option.isSome_iff_exists.mp hsource
  obtain ⟨tree, htree, hbundle⟩ := Option.bind_eq_some_iff.mp htext
  cases htorn : torn with
  | error fault =>
    rw [htorn] at htree
    cases htree
  | ok tree' =>
    rw [htorn] at htree
    cases htree
    exact ⟨tree, text, rfl, eq_source_of_bundle? hbundle⟩

theorem exists_reached_torn {tree : Tree} (htorn : torn = .ok tree) :
  ∃ made, Reached shelf ⟨tree, none, made⟩
  := by
  have hname : IsName "m" := by decide
  have hproper : pages.IsProper := by
    apply Attempt.IsProper.ofBundle
    rw [← List.all_eq_true]
    decide +kernel
  have hsound : (Tree.set ⟨[]⟩ ["m"] .directory).Sound := sound_nil.set (get?_nil _) hname (.inl rfl)
  have hleads : (Tree.set ⟨[]⟩ ["m"] .directory).Leads shelf.directory ["m"] := by
    constructor <;> decide +kernel
  have hstart : Reached shelf ⟨Tree.set ⟨[]⟩ ["m"] .directory, none, []⟩ :=
    .start hsound hleads (by decide +kernel)
  obtain ⟨news, hnews⟩ := goes_run shelf pages (Tree.set ⟨[]⟩ ["m"] .directory) []
  have hstored := (hstart.move (.begin _ hproper)).trans hnews
  obtain ⟨news', hnews'⟩ := goes_runSteps shelf pages pages.job.stage
    (.compile :: (pages.job.commit.map .replace ++ [.look])) _ (news ++ [])
  rw [← staged, source_torn.1] at hnews'
  have hstaged := (hstored.move (.begin _ hproper)).trans hnews'
  exact ⟨_, hstaged.move (.tear rfl isTorn_empty htorn)⟩

/-- When an attempt is made again and cut off in its module, which the first one had written to the
same file, its bundle is still found. -/
theorem torn_withstands_cuts :
  ∃ s text, Reached shelf s ∧ shelf.tryLoad s.tree "ab" = .source text ∧ s.HasMarked "ab" ∧
    s.HasWritten "ab" text
  := by
  obtain ⟨-, tree, text, htorn, hsource⟩ := source_torn
  obtain ⟨made, hreached⟩ := exists_reached_torn htorn
  refine ⟨_, text, hreached, hsource, ?_⟩
  apply (hreached.withstands_cuts "ab").2 text hsource

end Storing

end LiveModels.Cache
