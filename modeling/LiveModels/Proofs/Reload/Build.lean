import LiveModels.Proofs.Cache.Stored
import LiveModels.Proofs.Digest.Combiner
import LiveModels.Reload.Coordinator

/-!
# What a build changes

Until its result is known, a build takes versions, counts the calls of tools, notes what
interruptions find, and writes artifacts other than the noted error; only an invalidation makes the
models stale again. All else stays as it was, whether the build succeeds or fails.
-/

namespace LiveModels

open LiveModels.Tree

/-- Changes of artifacts that spare the noted error and do not remove the out-of-date flag. -/
structure Spares (p : Place) (q : Place) (n : Option Node) : Prop where
  own : Cache.IsOwn p q
  error : q ≠ p ++ [Artifact.error.fileName]
  flag : q = p ++ [Artifact.outOfDate.fileName] → n ≠ none

/-- A coordinator without what a build works on. -/
def Coordinator.apart (c : Coordinator) : Coordinator :=
  { c with stale := false, nextVersion := 0, journal := [], compiles := 0, loads := 0 }

namespace Service

/-- Whether a service comes from another by what a build does until its result is known. -/
structure Builds (s s' : Service) : Prop where
  apart : s'.coordinator.apart = s.coordinator.apart
  lockHeld : s'.lockHeld = s.lockHeld
  now : s'.now = s.now
  stale : ∃ news, s'.coordinator.journal = s.coordinator.journal ++ news ∧
    (s'.coordinator.stale = true ↔
      s.coordinator.stale = true ∨ ∃ e ∈ news, e.2 = Response.invalidated)
  spares : s.tree.Sound → ∀ p, s.tree.Leads s.coordinator.cache.directory p →
    Becomes (Spares p) s.tree s'.tree

variable {p : Place} {s s' s'' : Service}

namespace Builds

theorem cache (h : Builds s s') :
  s'.coordinator.cache = s.coordinator.cache
  := by
  have hapart : s'.coordinator.apart.cache = s.coordinator.apart.cache := by rw [h.apart]
  apply hapart

theorem current (h : Builds s s') :
  s'.coordinator.current = s.coordinator.current
  := by
  have hapart : s'.coordinator.apart.current = s.coordinator.apart.current := by rw [h.apart]
  apply hapart

theorem script (h : Builds s s') :
  s'.coordinator.script = s.coordinator.script
  := by
  have hapart : s'.coordinator.apart.script = s.coordinator.apart.script := by rw [h.apart]
  apply hapart

theorem announced (h : Builds s s') :
  s'.coordinator.announced = s.coordinator.announced
  := by
  have hapart : s'.coordinator.apart.announced = s.coordinator.apart.announced := by rw [h.apart]
  apply hapart

/-- The models directory stays where it is. -/
theorem leads (h : Builds s s') (hs : s.tree.Sound)
    (hp : s.tree.Leads s.coordinator.cache.directory p) :
  s'.tree.Leads s'.coordinator.cache.directory p
  := by
  rw [h.cache]
  apply hp.mono (h.spares hs p hp).keeps

/-- A step that leaves the journal, the flag of staleness and the files alone. -/
theorem of_eq (hapart : s'.coordinator.apart = s.coordinator.apart)
    (hlock : s'.lockHeld = s.lockHeld) (hnow : s'.now = s.now)
    (hjournal : s'.coordinator.journal = s.coordinator.journal)
    (hstale : s'.coordinator.stale = s.coordinator.stale) (htree : s'.tree = s.tree) :
  Builds s s'
  := by
  constructor
  · apply hapart
  · apply hlock
  · apply hnow
  · use []
    simp [hjournal, hstale]
  · intro hs p _
    rw [htree]
    apply Becomes.refl hs

theorem refl (s : Service) :
  Builds s s
  := of_eq rfl rfl rfl rfl rfl rfl

theorem trans (h : Builds s s') (h' : Builds s' s'') :
  Builds s s''
  := by
  obtain ⟨news, hjournal, hstale⟩ := h.stale
  obtain ⟨news', hjournal', hstale'⟩ := h'.stale
  constructor
  · rw [h'.apart, h.apart]
  · rw [h'.lockHeld, h.lockHeld]
  · rw [h'.now, h.now]
  · use news ++ news'
    constructor
    · rw [hjournal', hjournal, List.append_assoc]
    · rw [hstale', hstale, or_assoc]
      apply or_congr_right
      simp only [List.mem_append, or_and_right, exists_or]
  · intro hs p hp
    have hspares := h.spares hs p hp
    apply hspares.trans (h'.spares hspares.sound p (h.leads hs hp))

/-- A step that changes files only. -/
theorem of_tree {tree : Tree} (h : s.tree.Sound →
    ∀ p, s.tree.Leads s.coordinator.cache.directory p → Becomes (Spares p) s.tree tree) :
  Builds s { s with tree := tree }
  := by
  constructor
  · rfl
  · rfl
  · rfl
  · use []
    simp
  · apply h

end Builds

/-! ### Artifacts that are written -/

theorem spares_artifact {a : Artifact} {n : Node} (ha : a ≠ .error) :
  Spares p (p ++ [a.fileName]) (some n)
  := by
  constructor
  · apply Cache.isOwn_artifact
  · simpa [Artifact.fileName_inj] using ha
  · simp

theorem spares_compiled (rest : List String) (n : Option Node) :
  Spares p (p ++ compiledName :: rest) n
  := by
  constructor
  · apply Cache.isOwn_compiled
  · simp [(Artifact.fileName_ne_compiledName .error).symm]
  · intro heq
    simp [(Artifact.fileName_ne_compiledName .outOfDate).symm] at heq

/-! ### Interruptions -/

theorem builds_note (tool : Tool) (r : Response) (hr : r ≠ .invalidated) :
  Builds s (s.note tool r)
  := by
  constructor
  · rfl
  · rfl
  · rfl
  · use [(tool, r)]
    constructor
    · rfl
    · simp [note, hr]
  · intro hs p _
    apply Becomes.refl hs

theorem builds_invalidate (tool : Tool) :
  Builds s (s.invalidate.note tool .invalidated)
  := by
  constructor
  · unfold invalidate
    simp only
    split <;> rfl
  · unfold invalidate
    simp only
    split <;> rfl
  · unfold invalidate
    simp only
    split <;> rfl
  · use [(tool, .invalidated)]
    unfold invalidate
    simp only
    split
    case isTrue hstale =>
      simp [note, hstale]
    case isFalse =>
      simp [note]
  · intro hs p h
    unfold invalidate
    simp only
    split
    · apply Becomes.refl hs
    · simp only [note]
      split
      · apply Cache.becomes_replace hs h
        apply spares_artifact (by simp)
      · apply Becomes.refl hs

theorem builds_interrupt (tool : Tool) (events : List Interruption) (s : Service) :
  Builds s (interrupt tool events s).1
  := by
  induction events generalizing s with
  | nil => apply Builds.refl
  | cons event rest ih =>
    cases event with
    | invalidate => apply (builds_invalidate tool).trans (ih _)
    | status => apply (builds_note tool _ (by simp)).trans (ih _)
    | current => apply (builds_note tool _ (by simp)).trans (ih _)
    | fail message => apply Builds.refl

theorem builds_call (tool : Tool) (s : Service) :
  Builds s (s.call tool).1
  := by
  have hcounted : ∀ counted : Coordinator, counted.apart = s.coordinator.apart →
      counted.journal = s.coordinator.journal → counted.stale = s.coordinator.stale →
      Builds s (interrupt tool (s.coordinator.script.at tool) { s with coordinator := counted }).1 := by
    intro counted hapart hjournal hstale
    have hbuilds : Builds s { s with coordinator := counted } :=
      Builds.of_eq hapart rfl rfl hjournal hstale rfl
    apply hbuilds.trans
    apply builds_interrupt tool _ { s with coordinator := counted }
  cases tool with
  | emit => apply hcounted s.coordinator rfl rfl rfl
  | compile =>
    apply hcounted { s.coordinator with compiles := s.coordinator.compiles + 1 } rfl rfl rfl
  | load =>
    apply hcounted { s.coordinator with loads := s.coordinator.loads + 1 } rfl rfl rfl

/-! ### Parts of a build -/

theorem builds_reserveVersion (s : Service) :
  Builds s s.reserveVersion.2
  := Builds.of_eq rfl rfl rfl rfl rfl rfl

theorem builds_reuseModule (module : Module) (source : String) :
  Builds s (s.reuseModule module source).1
  := by
  have hskipped : Builds s { s with coordinator := s.coordinator.skipVersion module.revision } :=
    Builds.of_eq rfl rfl rfl rfl rfl rfl
  apply hskipped.trans (builds_reserveVersion _)

/-- A lookup finds nothing without the marker. With the marker it finds the bundle, and the module if
the loader does not fail. -/
theorem lookUp_cases (s : Service) (fingerprint : String) :
  (s.coordinator.cache.isMarked s.tree fingerprint = false ∧ s.lookUp fingerprint = (s, .miss)) ∨
    s.coordinator.cache.isMarked s.tree fingerprint = true ∧ ∃ s₁ found,
      (s₁ = s ∨ s₁ = (s.call .load).1) ∧
      s.lookUp fingerprint =
        (s₁, Cache.choose found (s.coordinator.cache.bundleFor? s.tree fingerprint)) ∧
      ∀ m, found = some m → ∃ location, s.coordinator.cache.modulePath? s.tree = some location ∧
        s.call .load = (s₁, none) ∧ Cache.moduleFor? s₁.tree fingerprint location = some m
  := by
  cases hmarked : s.coordinator.cache.isMarked s.tree fingerprint with
  | false =>
    left
    simp [lookUp, hmarked]
  | true =>
    refine .inr ⟨rfl, ?_⟩
    cases hpath : s.coordinator.cache.modulePath? s.tree with
    | none =>
      refine ⟨s, none, .inl rfl, ?_, nofun⟩
      simp only [lookUp, hmarked, if_true, hpath]
    | some location =>
      cases hload : s.call .load with
      | mk s₁ failure =>
        cases failure with
        | some message =>
          refine ⟨s₁, none, .inr rfl, ?_, nofun⟩
          simp only [lookUp, hmarked, if_true, hpath, hload]
        | none =>
          refine ⟨s₁, Cache.moduleFor? s₁.tree fingerprint location, .inr rfl, ?_, ?_⟩
          · simp only [lookUp, hmarked, if_true, hpath, hload]
          · intro m hm
            use location

/-- A lookup does nothing, or calls the loader. -/
theorem lookUp_fst (s : Service) (fingerprint : String) :
  (s.lookUp fingerprint).1 = s ∨ (s.lookUp fingerprint).1 = (s.call .load).1
  := by
  rcases s.lookUp_cases fingerprint with ⟨-, heq⟩ | ⟨-, s₁, found, hs₁, heq, -⟩
  · rw [heq]
    exact .inl rfl
  · rw [heq]
    apply hs₁

theorem builds_lookUp (fingerprint : String) :
  Builds s (s.lookUp fingerprint).1
  := by
  rcases s.lookUp_fst fingerprint with heq | heq
  · rw [heq]
    apply Builds.refl
  · rw [heq]
    apply builds_call

/-- Jobs spare the noted error, and do not remove the out-of-date flag. -/
theorem isWithin_spares (j : Cache.Job) :
  j.IsWithin p (Spares p)
  := by
  apply Cache.Job.IsWithin.of_compiled _ spares_compiled
  intro a ha n
  apply spares_artifact
  rintro rfl
  simp at ha

theorem builds_runJob {j : Cache.Job} (hj : IsStep j.moduleName) :
  Builds s (s.runJob j).1
  := by
  have hstaged : Builds s { s with tree := (s.coordinator.cache.stage s.tree j).1 } := by
    apply Builds.of_tree
    intro hs p h
    apply Cache.becomes_stage hs h (isWithin_spares j)
  unfold runJob
  simp only
  split
  case h_1 t₁ e ht₁ =>
    rw [ht₁] at hstaged
    apply hstaged
  case h_2 t₁ done ht₁ =>
    rw [ht₁] at hstaged
    have hcall := builds_call .compile { s with tree := t₁ }
    split
    case h_1 s₁ message hs₁ =>
      rw [hs₁] at hcall
      apply hstaged.trans hcall
    case h_2 s₁ hs₁ =>
      rw [hs₁] at hcall
      apply (hstaged.trans hcall).trans
      apply Builds.of_tree
      intro hs p h
      rw [hcall.cache] at h
      apply Cache.becomes_complete hs h (isWithin_spares j) _ hj

variable {fingerprint : String} (hhex : ∀ d ∈ fingerprint.toList, Text.isLowerHex d = true)

include hhex

theorem builds_reuseSource (text : String) :
  Builds s (s.reuseSource fingerprint text).1
  := by
  simp only [reuseSource]
  split
  · apply builds_reserveVersion
  case h_2 j hj =>
    have hfingerprint : j.fingerprint = fingerprint := by
      unfold Cache.Job.ofSource at hj
      split at hj
      · cases hj
        rfl
      · cases hj
    have hname : IsStep j.moduleName := by
      apply Cache.Job.isStep_moduleName
      rwa [hfingerprint]
    apply (builds_reserveVersion s).trans
    apply builds_runJob (s := s.reserveVersion.2) hname

theorem builds_emitAndCompile (snapshot : Snapshot) (files : UserFiles) :
  Builds s (s.emitAndCompile snapshot files fingerprint).1
  := by
  have hcall := builds_call .emit s.reserveVersion.2
  simp only [emitAndCompile]
  split
  case h_1 s₁ message hs₁ =>
    rw [hs₁] at hcall
    apply (builds_reserveVersion s).trans hcall
  case h_2 s₁ hs₁ =>
    rw [hs₁] at hcall
    apply ((builds_reserveVersion s).trans hcall).trans
    apply builds_runJob
    apply Cache.Job.isStep_moduleName
    apply hhex

theorem builds_produce (snapshot : Snapshot) (files : UserFiles) :
  Builds s (s.produce snapshot files fingerprint).1
  := by
  have hlookUp := builds_lookUp (s := s) fingerprint
  unfold produce
  split
  case h_1 s₁ module source hs₁ =>
    rw [hs₁] at hlookUp
    apply hlookUp.trans
    apply builds_reuseModule module source
  case h_2 s₁ text hs₁ =>
    rw [hs₁] at hlookUp
    apply hlookUp.trans
    apply builds_reuseSource hhex
  case h_3 s₁ hs₁ =>
    rw [hs₁] at hlookUp
    apply hlookUp.trans
    apply builds_emitAndCompile hhex

omit hhex

theorem builds_generationOf {captured : Capture}
    (hhex : ∀ d ∈ captured.fingerprint.toList, Text.isLowerHex d = true) :
  Builds s (s.generationOf captured).1
  := by
  have hproduce := builds_produce (s := s) hhex captured.snapshot captured.files
  unfold generationOf
  split
  case h_1 s₁ e hs₁ =>
    rw [hs₁] at hproduce
    apply hproduce
  case h_2 s₁ product hs₁ =>
    rw [hs₁] at hproduce
    split
    · apply hproduce
    · apply hproduce

/-- A generation is made of what was captured and of a product that has its registry. -/
theorem exists_of_generationOf_eq_ok {captured : Capture} {g : Generation}
    (h : s.generationOf captured = (s', .ok g)) :
  ∃ product, s.produce captured.snapshot captured.files captured.fingerprint = (s', .ok product) ∧
    Registry.build product.module = .ok g.registry ∧ g.module = some product.module ∧
    g.fingerprint = some captured.fingerprint ∧ g.snapshot = some captured.snapshot ∧
    g.isDegraded = false
  := by
  unfold generationOf at h
  split at h
  · cases h
  case h_2 s₁ product hproduce =>
    split at h
    · cases h
    case h_2 registry hregistry =>
      cases h
      exact ⟨product, hproduce, hregistry, rfl, rfl, rfl, rfl⟩

/-- The fingerprint of what is captured is a hash. -/
theorem isLowerHex_of_capture {captured : Capture} (h : s.capture = .ok captured) :
  ∀ d ∈ captured.fingerprint.toList, Text.isLowerHex d = true
  := by
  unfold capture at h
  simp only at h
  split at h
  · cases h
  · split at h
    · cases h
    · cases h
      apply Combiner.isLowerHex_of_mem_text

theorem builds_rebuild (s : Service) :
  Builds s s.rebuild.1
  := by
  have hlocked : Builds s { s with tree :=
      (s.coordinator.cache.acquireLock s.tree s.lockHeld s.coordinator.options.lockTimeout).1 } := by
    apply Builds.of_tree
    intro hs p h
    apply Cache.becomes_acquireLock hs h
    apply spares_artifact (by simp)
  simp only [rebuild]
  split
  case h_1 t₁ e ht₁ =>
    rw [ht₁] at hlocked
    apply hlocked
  case h_2 t₁ done ht₁ =>
    rw [ht₁] at hlocked
    split
    case h_1 e _ =>
      apply hlocked
    case h_2 captured hcaptured =>
      apply hlocked.trans
      apply builds_generationOf (isLowerHex_of_capture hcaptured)

/-- A build keeps a tree sound, and finds or makes the models directory if it succeeds. -/
theorem sound_rebuild {result : Except ModelsError Generation} (hs : s.tree.Sound)
    (h : s.rebuild = (s', result)) :
  s'.tree.Sound ∧
    ((∃ g, result = .ok g) → ∃ p, s'.tree.Leads s'.coordinator.cache.directory p)
  := by
  have hsound := Cache.sound_acquireLock (c := s.coordinator.cache) hs s.lockHeld
    s.coordinator.options.lockTimeout
  simp only [rebuild] at h
  split at h
  case h_1 t₁ e ht₁ =>
    rw [ht₁] at hsound
    cases h
    use hsound
    rintro ⟨g, hg⟩
    cases hg
  case h_2 t₁ done ht₁ =>
    rw [ht₁] at hsound
    obtain ⟨p, hp⟩ := Cache.exists_leads_of_acquireLock ht₁
    split at h
    case h_1 e _ =>
      cases h
      use hsound
      intro _
      use p
    case h_2 captured hcaptured =>
      have hbuilds := builds_generationOf (s := { s with tree := t₁ })
        (isLowerHex_of_capture hcaptured)
      rw [h] at hbuilds
      use (hbuilds.spares hsound p hp).sound
      intro _
      use p
      apply hbuilds.leads hsound hp

end Service

end LiveModels
