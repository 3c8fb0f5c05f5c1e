import LiveModels.Proofs.Cache.RoundTrip
import LiveModels.Proofs.Cache.Spared
import LiveModels.Proofs.Reload.Capture
import LiveModels.Proofs.Reload.Failure

/-!
# What a request leaves

A request writes artifacts and nothing else, and leaves the files of users alone. What a build has
stored is there when the build is done: the marker and the bundle, and with them the module, which is
found unless it is marked for removal. What is noted afterwards, the error of a build and the
out-of-date flag, has no effect on what is found.
-/

namespace LiveModels

open LiveModels.Tree

namespace Cache

variable {c : Cache} {t t' : Tree} {p : Place} {m : Module} {location : Path} {fingerprint : String}

/-! ### What is noted -/

/-- Changes of the noted error and the out-of-date flag. -/
def IsNote (p q : Place) (n : Option Node) : Prop :=
  n ≠ some .directory ∧ ∃ a ∈ [Artifact.error, .outOfDate], q = p ++ [a.fileName]

theorem not_isNote {a : Artifact} (ha : a ∉ [Artifact.error, .outOfDate]) (n : Option Node) :
  ¬ IsNote p (p ++ [a.fileName]) n
  := not_touches ha n

/-- Other artifacts are read as before when something is noted. -/
theorem read?_eq_of_notes (hp : t.Leads c.directory p) (hnotes : Becomes (IsNote p) t t')
    {a : Artifact} (ha : a ∉ [Artifact.error, .outOfDate]) :
  c.read? t' a = c.read? t a
  := read?_eq_of_touches hp hnotes ha

/-- A bundle stays stored when something is noted. -/
theorem IsStored.of_notes (h : IsStored c t fingerprint) (hp : t.Leads c.directory p)
    (hnotes : Becomes (IsNote p) t t') :
  IsStored c t' fingerprint
  := by
  apply h.of_becomes hp hnotes
  intro a ha
  apply not_isNote
  intro hnote
  simp only [List.mem_cons, List.not_mem_nil, or_false] at ha hnote
  rcases ha with rfl | rfl <;> simp at hnote

/-- What is noted does not keep a module from being found, unless the module is itself in the place
of a note. -/
theorem exists_tryLoad_of_notes (hp : t.Leads c.directory p) (hnotes : Becomes (IsNote p) t t')
    (hfound : ∃ source, c.tryLoad t fingerprint = .module m source)
    (hplace : ∀ a ∈ [Artifact.error, .outOfDate],
      t.place m.location m.location.route ≠ .ok (p ++ [a.fileName])) :
  ∃ source, c.tryLoad t' fingerprint = .module m source
  := by
  rw [exists_tryLoad_eq_module?_iff] at hfound ⊢
  obtain ⟨hmarked, hmodule⟩ := hfound
  rw [isMarked_eq_of_touches hp hnotes (by simp), module?_eq_of_touches hp hnotes (by simp)]
  · exact ⟨hmarked, hmodule⟩
  · intro a ha hpoints
    obtain ⟨q, hq, hnode⟩ := location_of_pointsTo hpoints hmodule
    rw [hp.eq hq] at hnode
    exact hplace a ha hnode

end Cache

namespace Service

variable {p : Place} {s s' : Service} {m : Module} {g : Generation}
variable {fingerprint source : String} {j : Cache.Job}

/-- Changes of artifacts apart from the lock. -/
def IsWork (p q : Place) (_ : Option Node) : Prop :=
  (∃ a, a ≠ Artifact.lock ∧ q = p ++ [a.fileName]) ∨ ∃ rest, q = p ++ compiledName :: rest

theorem isWork_artifact {a : Artifact} (ha : a ≠ .lock) (n : Option Node) :
  IsWork p (p ++ [a.fileName]) n
  := .inl ⟨a, ha, rfl⟩

theorem isWork_of_isNote {q : Place} {n : Option Node} (h : Cache.IsNote p q n) :
  IsWork p q n
  := by
  obtain ⟨-, a, ha, rfl⟩ := h
  apply isWork_artifact
  rintro rfl
  simp at ha

/-- What is noted, and what is worked on, are artifacts. -/
theorem isOwn_of_isWork {q : Place} {n : Option Node} (h : IsWork p q n) :
  Cache.IsOwn p q
  := by
  rcases h with ⟨a, -, rfl⟩ | ⟨rest, rfl⟩
  · apply Cache.isOwn_artifact
  · apply Cache.isOwn_compiled

theorem isOwn_of_isNote {q : Place} {n : Option Node} (h : Cache.IsNote p q n) :
  Cache.IsOwn p q
  := isOwn_of_isWork (isWork_of_isNote h)

/-! ### Notes -/

section

variable (hs : s.tree.Sound) (hp : s.tree.Leads s.coordinator.cache.directory p)

include hs hp

theorem notes_invalidate :
  Becomes (Cache.IsNote p) s.tree s.invalidate.tree
  := by
  unfold invalidate
  simp only
  split
  · apply Becomes.refl hs
  · split
    · apply Cache.becomes_replace hs hp
      exact ⟨by simp, .outOfDate, by simp, rfl⟩
    · apply Becomes.refl hs

/-- Interruptions leave notes only. -/
theorem notes_interrupt (tool : Tool) (events : List Interruption) :
  Becomes (Cache.IsNote p) s.tree (interrupt tool events s).1.tree
  := by
  induction events generalizing s with
  | nil => apply Becomes.refl hs
  | cons event rest ih =>
    cases event with
    | invalidate =>
      have hnotes := notes_invalidate hs hp
      apply hnotes.trans
      apply ih (s := s.invalidate.note tool .invalidated) hnotes.sound
      rw [(builds_invalidate tool).cache]
      apply hp.mono hnotes.keeps
    | status => apply ih (s := s.note tool (.status s.status)) hs hp
    | current =>
      apply ih (s := s.note tool (.current (s.coordinator.current.map (·.version)))) hs hp
    | fail message => apply Becomes.refl hs

theorem notes_call (tool : Tool) :
  Becomes (Cache.IsNote p) s.tree (s.call tool).1.tree
  := by
  cases tool with
  | emit => apply notes_interrupt (s := s) hs hp
  | compile =>
    apply notes_interrupt (s := { s with
      coordinator := { s.coordinator with compiles := s.coordinator.compiles + 1 } }) hs hp
  | load =>
    apply notes_interrupt (s := { s with
      coordinator := { s.coordinator with loads := s.coordinator.loads + 1 } }) hs hp

theorem notes_lookUp (fingerprint : String) :
  Becomes (Cache.IsNote p) s.tree (s.lookUp fingerprint).1.tree
  := by
  rcases s.lookUp_fst fingerprint with heq | heq
  · rw [heq]
    apply Becomes.refl hs
  · rw [heq]
    apply notes_call hs hp

end

theorem compiles_invalidate (s : Service) :
  s.invalidate.coordinator.compiles = s.coordinator.compiles
  := by
  rw [coordinator_invalidate]

theorem compiles_interrupt (tool : Tool) (events : List Interruption) (s : Service) :
  (interrupt tool events s).1.coordinator.compiles = s.coordinator.compiles
  := by
  induction events generalizing s with
  | nil => rfl
  | cons event rest ih =>
    cases event with
    | invalidate => apply (ih (s.invalidate.note tool .invalidated)).trans (compiles_invalidate s)
    | status => apply ih
    | current => apply ih
    | fail message => rfl

theorem compiles_load (s : Service) :
  (s.call .load).1.coordinator.compiles = s.coordinator.compiles
  := compiles_interrupt .load _ { s with
    coordinator := { s.coordinator with loads := s.coordinator.loads + 1 } }

theorem compiles_lookUp (s : Service) (fingerprint : String) :
  (s.lookUp fingerprint).1.coordinator.compiles = s.coordinator.compiles
  := by
  rcases s.lookUp_fst fingerprint with heq | heq
  · rw [heq]
  · rw [heq, compiles_load]

/-- A tool that is not made to fail does not fail. -/
theorem call_eq_none {tool : Tool}
    (h : ∀ message, .fail message ∉ s.coordinator.script.at tool) :
  (s.call tool).2 = none
  := by
  have hinterrupt : ∀ events, (∀ message, Interruption.fail message ∉ events) →
      ∀ s, (interrupt tool events s).2 = none := by
    intro events
    induction events with
    | nil =>
      intro _ s
      rfl
    | cons event rest ih =>
      intro hevents s
      simp only [List.mem_cons, not_or] at hevents
      cases event with
      | invalidate => apply ih fun message => (hevents message).2
      | status => apply ih fun message => (hevents message).2
      | current => apply ih fun message => (hevents message).2
      | fail message => exact absurd rfl (hevents message).1
  apply hinterrupt _ h

/-! ### Storing -/

theorem isWithin_isWork (j : Cache.Job) :
  j.IsWithin p (IsWork p)
  := by
  apply Cache.Job.IsWithin.of_compiled _ fun rest n => .inr ⟨rest, rfl⟩
  intro a ha n
  apply isWork_artifact
  rintro rfl
  simp at ha

/-- A job makes changes of its kind, besides what its tools note. -/
theorem becomes_runJob {kind : Place → Option Node → Prop} (hs : s.tree.Sound)
    (hp : s.tree.Leads s.coordinator.cache.directory p) (hj : IsStep j.moduleName)
    (hkind : j.IsWithin p kind) (hnote : ∀ q n, Cache.IsNote p q n → kind q n) :
  Becomes kind s.tree (s.runJob j).1.tree
  := by
  have hstage := Cache.becomes_stage hs hp hkind
  unfold runJob
  simp only
  split
  case h_1 t₁ e ht₁ =>
    rw [ht₁] at hstage
    apply hstage
  case h_2 t₁ _ ht₁ =>
    rw [ht₁] at hstage
    have hp₁ := hp.mono hstage.keeps
    have hcall := (notes_call (s := { s with tree := t₁ }) hstage.sound hp₁ .compile).mono hnote
    split
    case h_1 s₂ message hs₂ =>
      rw [hs₂] at hcall
      apply hstage.trans hcall
    case h_2 s₂ hs₂ =>
      rw [hs₂] at hcall
      apply (hstage.trans hcall).trans
      apply Cache.becomes_complete hcall.sound (hp₁.mono hcall.keeps) hkind _ hj

/-- What a job has stored is there when the job is done. -/
theorem holds_of_runJob (hs : s.tree.Sound) (hp : s.tree.Leads s.coordinator.cache.directory p)
    (hj : IsStep j.moduleName) (h : s.runJob j = (s', .ok m)) :
  ∃ manifest, Manifest.ofSource s.coordinator.options.moduleName j.source = .ok manifest ∧
    m = manifest.toModule (s.coordinator.cache.output j) ∧
    Cache.Holds s.coordinator.cache j manifest s'.tree
  := by
  have hstage := Cache.becomes_stage hs hp (isWithin_isWork j)
  unfold runJob at h
  simp only at h
  split at h
  · cases h
  case h_2 t₁ _ ht₁ =>
    rw [ht₁] at hstage
    obtain ⟨hbundle, hs₁⟩ := Cache.read?_stage hs ht₁
    have hp₁ := hp.mono hstage.keeps
    have hcall := notes_call (s := { s with tree := t₁ }) hs₁ hp₁ .compile
    split at h
    · cases h
    case h_2 s₂ hs₂ =>
      rw [hs₂] at hcall
      have hbundle₂ : s.coordinator.cache.read? s₂.tree .bundle = some j.source := by
        rw [Cache.read?_eq_of_notes hp₁ hcall (by simp), hbundle]
      cases hresult : s.coordinator.cache.complete s₂.tree j s.coordinator.options.moduleName with
      | mk t₃ result =>
        rw [hresult] at h
        cases h
        obtain ⟨manifest, hmanifest, hm, hholds, -⟩ :=
          Cache.holds_of_complete hcall.sound hj hbundle₂ hresult
        exact ⟨manifest, hmanifest, hm, hholds⟩

/-! ### What a build leaves -/

/-- Whether a module is found for a fingerprint. -/
def Finds (s : Service) (fingerprint : String) (m : Module) : Prop :=
  ∃ source, s.coordinator.cache.tryLoad s.tree fingerprint = .module m source

/-- Whether a module is marked for removal. -/
def marks (s : Service) (m : Module) : Bool :=
  s.tree.has (m.location.withEnding Cache.removalEnding)

/-- How a module is looked up. -/
theorem exists_of_lookUp_eq_module (h : s.lookUp fingerprint = (s', .module m source)) :
  s.coordinator.cache.isMarked s.tree fingerprint = true ∧
    ∃ location, s.coordinator.cache.modulePath? s.tree = some location ∧
      s.call .load = (s', none) ∧ Cache.moduleFor? s'.tree fingerprint location = some m
  := by
  rcases s.lookUp_cases fingerprint with ⟨-, heq⟩ | ⟨hmarked, s₁, found, -, heq, hfound⟩
  · rw [heq] at h
    cases h
  · rw [heq] at h
    obtain ⟨rfl, hchoose⟩ := Prod.mk.inj h
    use hmarked
    apply hfound m (Cache.choose_eq_module_iff.mp hchoose).1

/-- What is stored is not missed. -/
theorem lookUp_ne_miss (h : s.coordinator.cache.IsStored s.tree fingerprint) :
  (s.lookUp fingerprint).2 ≠ .miss
  := by
  obtain ⟨hmarked, text, hbundle⟩ := h
  rcases s.lookUp_cases fingerprint with ⟨hunmarked, -⟩ | ⟨-, s₁, found, -, heq, -⟩
  · rw [hmarked] at hunmarked
    cases hunmarked
  · rw [heq, hbundle]
    cases found <;> simp [Cache.choose]

/-- A module that has been looked up is found again, unless it is marked for removal. -/
theorem finds_of_lookUp (hs : s.tree.Sound) (hp : s.tree.Leads s.coordinator.cache.directory p)
    (h : s.lookUp fingerprint = (s', .module m source)) (hmark : s'.marks m = false) :
  s'.Finds fingerprint m
  := by
  have hnotes := notes_lookUp hs hp fingerprint
  have hcache := (builds_lookUp (s := s) fingerprint).cache
  rw [h] at hnotes hcache
  obtain ⟨hmarked, location, hpath, -, hmodule⟩ := exists_of_lookUp_eq_module h
  obtain ⟨text, manifest, htext, -, rfl, -⟩ := Cache.moduleFor?_eq_some hmodule
  obtain ⟨pointer, hpointer, hlocation, -, -⟩ := Cache.modulePath?_eq_some_iff.mp hpath
  rw [Finds, hcache, Cache.exists_tryLoad_eq_module_iff, Cache.isMarked,
    Cache.read?_eq_of_notes hp hnotes (by simp)]
  refine ⟨hmarked, location, ?_, hmodule⟩
  rw [Cache.modulePath?_eq_some_iff, Cache.read?_eq_of_notes hp hnotes (by simp)]
  refine ⟨pointer, hpointer, hlocation, ?_, hmark⟩
  rw [hasFile, readText_eq_ok_iff.mp htext]

/-- Nothing is marked for removal by a note. -/
theorem marks_of_notes (hnotes : Becomes (Cache.IsNote p) s.tree s'.tree) (m : Module) :
  s'.marks m = s.marks m
  := by
  apply hnotes.has_eq fun q h => h.1 rfl
  rintro q hq n ⟨-, a, -, rfl⟩
  exact Cache.place_mark_ne a hq

/-- Changes that do not mark a module for removal. -/
def SparesMark (p : Place) (name : String) (q : Place) (n : Option Node) : Prop :=
  q = p ++ [compiledName] ++ [name ++ Cache.removalEnding] → n = none

/-- Jobs do not mark their own modules. -/
theorem isWithin_sparesMark (j : Cache.Job) :
  j.IsWithin p (SparesMark p j.moduleName)
  := by
  constructor
  · intro a _ n heq
    have hlength := congrArg List.length heq
    simp at hlength
  · intro heq
    have hlength := congrArg List.length heq
    simp at hlength
  · intro n heq
    have hname : j.moduleName = j.moduleName ++ Cache.removalEnding := by simpa using heq
    have hlength := congrArg String.length hname
    rw [String.length_append] at hlength
    have hending : Cache.removalEnding.length = 7 := by decide
    omega
  · intro name _ _
    rfl
  · intro name hne heq
    have hboth : name ++ Cache.removalEnding = j.moduleName ++ Cache.removalEnding := by
      simpa using heq
    rw [String.append_left_inj] at hboth
    exact absurd hboth hne

theorem sparesMark_of_isNote {name : String} {q : Place} {n : Option Node} (h : Cache.IsNote p q n) :
  SparesMark p name q n
  := by
  obtain ⟨-, a, -, rfl⟩ := h
  intro heq
  have hlength := congrArg List.length heq
  simp at hlength

section

variable (hs : s.tree.Sound) (hp : s.tree.Leads s.coordinator.cache.directory p)

include hs hp

/-- The module of a job is marked for removal when the job is done only if a mark was there before. -/
theorem marks_of_runJob (hj : IsStep j.moduleName) (h : s.runJob j = (s', .ok m))
    (hmark : s.marks m = false) :
  s'.marks m = false
  := by
  obtain ⟨manifest, -, rfl, -⟩ := holds_of_runJob hs hp hj h
  have hspares := becomes_runJob hs hp hj (isWithin_sparesMark j) fun _ _ => sparesMark_of_isNote
  rw [h] at hspares
  have hmarked : (s.coordinator.cache.output j).withEnding Cache.removalEnding =
      s.coordinator.cache.compiledPath.join (j.moduleName ++ Cache.removalEnding) := by
    rw [Cache.output_eq hj, Cache.withEnding_join hj]
  simp only [marks, Manifest.toModule, hmarked] at hmark ⊢
  rw [← Bool.not_eq_true, has_eq_true_iff] at hmark ⊢
  rintro ⟨n, hnode⟩
  obtain ⟨hfault, hname, q, hq, hget⟩ := exists_leads_of_node (Cache.isStep_withEnding hj) hnode
  obtain ⟨rfl, -⟩ :=
    (hp.mono hspares.keeps).eq_of_join isName_compiledName.toIsStep hq
  have hbefore : s.tree.get? (p ++ [compiledName] ++ [j.moduleName ++ Cache.removalEnding]) =
      some n := by
    rcases hspares.gives _ with heq | hgone
    · rw [← heq, hget]
    · rw [hgone rfl] at hget
      cases hget
  have hcompiled := hp.join isName_compiledName (hs.get?_parent hbefore)
  apply hmark
  use n
  rw [Cache.compiledPath, hcompiled.node_join hname hfault, hbefore]
  rfl

/-- When a job is done, its bundle is stored, and its module is found unless it is marked for
removal. -/
theorem finds_of_runJob {header : Header}
    (hhex : ∀ d ∈ j.fingerprint.toList, Text.isLowerHex d = true)
    (hheader : Bundle.header? j.source = some header) (hj : header.fingerprint = j.fingerprint)
    (h : s.runJob j = (s', .ok m)) :
  Becomes (IsWork p) s.tree s'.tree ∧ s'.coordinator.cache.IsStored s'.tree j.fingerprint ∧
    (s'.marks m = false → s'.Finds j.fingerprint m)
  := by
  have hstep := Cache.Job.isStep_moduleName hhex
  have hwork := becomes_runJob hs hp hstep (isWithin_isWork j) fun _ _ => isWork_of_isNote
  obtain ⟨manifest, hm, rfl, hholds⟩ := holds_of_runJob hs hp hstep h
  have hcache := (builds_runJob (s := s) hstep).cache
  rw [h] at hwork hcache
  use hwork
  rw [hcache]
  use hholds.isStored hhex hheader hj
  intro hmark
  rw [Finds, hcache]
  use j.source
  apply (hholds.tryLoad_eq hhex hheader hj hm hmark).1

end

/-- The header of a bundle that is looked up. -/
theorem exists_header_of_lookUp {text : String} (h : s.lookUp fingerprint = (s', .source text)) :
  ∃ revision, Bundle.header? text = some ⟨fingerprint, revision⟩
  := by
  have hchoose : ∀ module, Cache.choose module (s.coordinator.cache.bundleFor? s.tree fingerprint) =
      .source text → s.coordinator.cache.bundleFor? s.tree fingerprint = some text := by
    intro module hsource
    cases module with
    | some m => cases hsource
    | none =>
      cases hbundle : s.coordinator.cache.bundleFor? s.tree fingerprint with
      | none =>
        rw [hbundle] at hsource
        cases hsource
      | some text' =>
        rw [hbundle] at hsource
        cases hsource
        rfl
  have hbundle : s.coordinator.cache.bundleFor? s.tree fingerprint = some text := by
    rcases s.lookUp_cases fingerprint with ⟨-, heq⟩ | ⟨-, s₁, found, -, heq, -⟩
    · rw [heq] at h
      cases h
    · rw [heq] at h
      apply hchoose _ (Prod.mk.inj h).2
  have hheader := (Option.filter_eq_some_iff.mp hbundle).2
  rw [beq_iff_eq, Option.map_eq_some_iff] at hheader
  obtain ⟨⟨_, revision⟩, hheader, rfl⟩ := hheader
  exact ⟨revision, hheader⟩

/-- Whether a service comes to a module for a fingerprint by a job, after what tools note. -/
def Compiles (p : Place) (s : Service) (fingerprint : String) (s' : Service) (m : Module) : Prop :=
  ∃ (s₁ : Service) (j : Cache.Job) (header : Header), Becomes (Cache.IsNote p) s.tree s₁.tree ∧
    s₁.coordinator.cache = s.coordinator.cache ∧ j.fingerprint = fingerprint ∧
    Bundle.header? j.source = some header ∧ header.fingerprint = fingerprint ∧
    s₁.runJob j = (s', .ok m)

section

variable (hs : s.tree.Sound) (hp : s.tree.Leads s.coordinator.cache.directory p)

include hs

theorem compiles_of_reuseSource {text : String} {revision : UInt64} {product : Product}
    (hheader : Bundle.header? text = some ⟨fingerprint, revision⟩)
    (h : s.reuseSource fingerprint text = (s', .ok product)) :
  Compiles p s fingerprint s' product.module
  := by
  have hrestamped := Bundle.header?_restamp hheader s.coordinator.nextVersion
  have hversion : s.reserveVersion.1 = s.coordinator.nextVersion := rfl
  simp only [reuseSource, hversion, Cache.Job.ofSource, hrestamped] at h
  obtain ⟨hs', hproduct⟩ := Prod.mk.inj h
  obtain ⟨module, hmodule, rfl⟩ := Result.map_eq_ok_iff.mp hproduct
  exact ⟨s.reserveVersion.2,
    ⟨fingerprint, s.coordinator.nextVersion, Bundle.restamp text s.coordinator.nextVersion, none⟩,
    ⟨fingerprint, s.coordinator.nextVersion⟩, Becomes.refl hs, rfl, rfl, hrestamped, rfl,
    Prod.ext hs' hmodule⟩

include hp

theorem compiles_of_emitAndCompile {snapshot : Snapshot} {files : UserFiles} {product : Product}
    (hhex : ∀ d ∈ fingerprint.toList, Text.isLowerHex d = true) (hne : fingerprint ≠ "")
    (h : s.emitAndCompile snapshot files fingerprint = (s', .ok product)) :
  Compiles p s fingerprint s' product.module
  := by
  have hcall := notes_call (s := s.reserveVersion.2) hs hp .emit
  have hcache := (builds_call .emit s.reserveVersion.2).cache
  simp only [emitAndCompile] at h
  split at h
  · cases h
  case h_2 s₁ hs₁ =>
    rw [hs₁] at hcall hcache
    obtain ⟨hs', hproduct⟩ := Prod.mk.inj h
    obtain ⟨module, hmodule, rfl⟩ := Result.map_eq_ok_iff.mp hproduct
    have hheader := Bundle.header?_render
      (b := ⟨fingerprint, s.coordinator.nextVersion, files, Emission.emit snapshot files⟩) hne hhex
    exact ⟨s₁,
      .ofBundle ⟨fingerprint, s.coordinator.nextVersion, files, Emission.emit snapshot files⟩,
      ⟨fingerprint, s.coordinator.nextVersion⟩, hcall, hcache, rfl, hheader, rfl,
      Prod.ext hs' hmodule⟩

/-- A module that has been produced is found without a change, or compiled. -/
theorem produce_cases {snapshot : Snapshot} {files : UserFiles} {product : Product}
    (hhex : ∀ d ∈ fingerprint.toList, Text.isLowerHex d = true) (hne : fingerprint ≠ "")
    (h : s.produce snapshot files fingerprint = (s', .ok product)) :
  (∃ s₁ source, s.lookUp fingerprint = (s₁, .module product.module source) ∧
      s' = (s₁.reuseModule product.module source).1) ∨
    Compiles p s fingerprint s' product.module
  := by
  have hnotes := notes_lookUp hs hp fingerprint
  have hcache := (builds_lookUp (s := s) fingerprint).cache
  -- What a lookup notes comes before what the job notes.
  have hafter : ∀ s₁ : Service, Becomes (Cache.IsNote p) s.tree s₁.tree →
      s₁.coordinator.cache = s.coordinator.cache →
      Compiles p s₁ fingerprint s' product.module → Compiles p s fingerprint s' product.module := by
    rintro s₁ hnotes₁ hcache₁ ⟨s₂, j, header, hnotes₂, hcache₂, hjob⟩
    exact ⟨s₂, j, header, hnotes₁.trans hnotes₂, hcache₂.trans hcache₁, hjob⟩
  unfold produce at h
  split at h
  case h_1 s₁ module source hs₁ =>
    cases h
    exact .inl ⟨s₁, source, hs₁, rfl⟩
  case h_2 s₁ text hs₁ =>
    rw [hs₁] at hnotes hcache
    obtain ⟨revision, hheader⟩ := exists_header_of_lookUp hs₁
    apply Or.inr
    apply hafter s₁ hnotes hcache (compiles_of_reuseSource hnotes.sound hheader h)
  case h_3 s₁ hs₁ =>
    rw [hs₁] at hnotes hcache
    have hp₁ := hp.mono hnotes.keeps
    rw [← hcache] at hp₁
    apply Or.inr
    apply hafter s₁ hnotes hcache (compiles_of_emitAndCompile hnotes.sound hp₁ hhex hne h)

omit hs

/-- When a module has been compiled, its bundle is stored, and the module is found unless it is marked
for removal. -/
theorem Compiles.finds (hhex : ∀ d ∈ fingerprint.toList, Text.isLowerHex d = true)
    (h : Compiles p s fingerprint s' m) :
  Becomes (IsWork p) s.tree s'.tree ∧ s'.coordinator.cache.IsStored s'.tree fingerprint ∧
    (s'.marks m = false → s'.Finds fingerprint m)
  := by
  obtain ⟨s₁, j, header, hnotes, hcache, rfl, hheader, hj, hjob⟩ := h
  have hp₁ := hp.mono hnotes.keeps
  rw [← hcache] at hp₁
  obtain ⟨hwork, hfound⟩ := finds_of_runJob hnotes.sound hp₁ hhex hheader hj hjob
  exact ⟨(hnotes.mono fun _ _ => isWork_of_isNote).trans hwork, hfound⟩

/-- A module that has been compiled is marked for removal only if a mark was there before, and it is
stored apart from what is noted. -/
theorem Compiles.unmarked (hhex : ∀ d ∈ fingerprint.toList, Text.isLowerHex d = true)
    (h : Compiles p s fingerprint s' m) :
  (s.marks m = false → s'.marks m = false) ∧
    ∀ {t : Tree}, t.Leads s.coordinator.cache.directory p →
      ∀ a : Artifact, t.place m.location m.location.route ≠ .ok (p ++ [a.fileName])
  := by
  obtain ⟨s₁, j, header, hnotes, hcache, rfl, -, -, hjob⟩ := h
  have hstep := Cache.Job.isStep_moduleName hhex
  have hp₁ := hp.mono hnotes.keeps
  rw [← hcache] at hp₁
  constructor
  · intro hmark
    apply marks_of_runJob hnotes.sound hp₁ hstep hjob
    rw [marks_of_notes hnotes, hmark]
  · intro t ht a hplace
    obtain ⟨manifest, -, rfl, -⟩ := holds_of_runJob hnotes.sound hp₁ hstep hjob
    simp only [Manifest.toModule, hcache, Cache.output_eq hstep, Path.route_join _ hstep] at hplace
    obtain ⟨-, -, q, hq, heq⟩ := exists_leads_of_place hstep hplace
    obtain ⟨rfl, -⟩ := ht.eq_of_join isName_compiledName.toIsStep hq
    have hlength := congrArg List.length heq
    simp at hlength

include hs

/-- A module that has been produced is found, unless it is marked for removal. -/
theorem finds_of_produce {snapshot : Snapshot} {files : UserFiles} {product : Product}
    (hhex : ∀ d ∈ fingerprint.toList, Text.isLowerHex d = true) (hne : fingerprint ≠ "")
    (h : s.produce snapshot files fingerprint = (s', .ok product)) :
  Becomes (IsWork p) s.tree s'.tree ∧
    (s'.marks product.module = false → s'.Finds fingerprint product.module)
  := by
  rcases produce_cases hs hp hhex hne h with ⟨s₁, source, hs₁, rfl⟩ | hcompiles
  · have hnotes := notes_lookUp hs hp fingerprint
    rw [hs₁] at hnotes
    use hnotes.mono fun _ _ => isWork_of_isNote
    apply finds_of_lookUp hs hp hs₁
  · obtain ⟨hwork, -, hfound⟩ := hcompiles.finds hp hhex
    exact ⟨hwork, hfound⟩

end

/-! ### Requests -/

/-- A build that takes the lock without a change makes a generation of what it captures. -/
theorem rebuild_of_acquireLock
    (h : s.coordinator.cache.acquireLock s.tree s.lockHeld s.coordinator.options.lockTimeout =
      (s.tree, .ok ())) :
  s.rebuild =
    match s.capture with
    | .error e => (s, .error e)
    | .ok c => s.generationOf c
  := by
  cases hc : s.capture with
  | error e => simp only [rebuild, h, hc]
  | ok c => simp only [rebuild, h, hc]

/-- What a build has done that succeeds. -/
theorem exists_of_rebuild_eq_ok (h : s.rebuild = (s', .ok g)) :
  s.coordinator.cache.acquireLock s.tree s.lockHeld s.coordinator.options.lockTimeout =
      (s.entered.tree, .ok ()) ∧
    ∃ c product, s.input = .ok c ∧
      s.entered.produce c.snapshot c.files c.fingerprint = (s', .ok product) ∧
      Registry.build product.module = .ok g.registry ∧ g.module = some product.module ∧
      g.fingerprint = some c.fingerprint
  := by
  simp only [rebuild] at h
  cases hlock : s.coordinator.cache.acquireLock s.tree s.lockHeld
      s.coordinator.options.lockTimeout with
  | mk t₁ result =>
    have hentered : s.entered = { s with tree := t₁ } := by
      simp only [entered, hlock]
    rw [hlock] at h
    cases result with
    | error e => cases h
    | ok u =>
      simp only at h
      rw [hentered]
      use rfl
      split at h
      · cases h
      case h_2 c hc =>
        rw [← hentered] at hc
        obtain ⟨product, hproduce, hregistry, hmodule, hfingerprint, -⟩ :=
          exists_of_generationOf_eq_ok h
        exact ⟨c, product, hc, hproduce, hregistry, hmodule, hfingerprint⟩

/-- A build that succeeds removes notes. -/
theorem notes_succeed (hs : s.tree.Sound) (hp : s.tree.Leads s.coordinator.cache.directory p)
    (g : Generation) :
  Becomes (Cache.IsNote p) s.tree (s.succeed g).tree
  := by
  have hcleared : Becomes (Cache.IsNote p) s.tree (s.coordinator.cache.clearError s.tree).1 :=
    Cache.becomes_discard hs hp ⟨by simp, .error, by simp, rfl⟩
  simp only [succeed, clearOutOfDate_eq]
  split
  · apply hcleared
  · apply hcleared.trans
    apply Cache.becomes_discard hcleared.sound (hp.mono hcleared.keeps)
    exact ⟨by simp, .outOfDate, by simp, rfl⟩

/-- An invalidation changes artifacts alone. -/
theorem own_invalidate (hs : s.tree.Sound) (hp : s.tree.Leads s.coordinator.cache.directory p) :
  Becomes (fun q _ => Cache.IsOwn p q) s.tree s.invalidate.tree
  := (notes_invalidate hs hp).mono fun _ _ => isOwn_of_isNote

/-- Taking the lock changes artifacts alone. -/
theorem own_entered (hs : s.tree.Sound) (hp : s.tree.Leads s.coordinator.cache.directory p) :
  Becomes (fun q _ => Cache.IsOwn p q) s.tree s.entered.tree
  := Cache.becomes_acquireLock hs hp _ _ (Cache.isOwn_artifact .lock)

theorem userFiles_entered (hs : s.tree.Sound)
    (hp : s.tree.Leads s.coordinator.cache.directory p) :
  s.coordinator.cache.userFiles s.entered.tree = s.coordinator.cache.userFiles s.tree
  := Cache.userFiles_eq_of_becomes hs hp (own_entered hs hp) fun _ _ h => h

/-- A request changes artifacts alone, whether it builds or not, and whether its build succeeds or
fails. -/
theorem own_ensureReady (hs : s.tree.Sound) (hp : s.tree.Leads s.coordinator.cache.directory p) :
  Becomes (fun q _ => Cache.IsOwn p q) s.tree s.ensureReady.1.tree
  := by
  have hbuilds := builds_rebuild s.beginBuild
  have hbuilt := (hbuilds.spares hs p hp).mono fun _ _ => Spares.own
  have hp₁ := hbuilds.leads hs hp
  rcases s.ensureReady_cases with
    ⟨g, -, heq⟩ | ⟨-, ⟨built, g, hbuild, heq⟩ | ⟨built, e, hbuild, heq⟩⟩
  · rw [heq]
    apply Becomes.refl hs
  · rw [hbuild] at hbuilt hp₁
    rw [heq]
    apply hbuilt.trans
    apply (notes_succeed hbuilt.sound hp₁ g).mono fun _ _ => isOwn_of_isNote
  · rw [hbuild] at hbuilt hp₁
    rw [heq]
    apply hbuilt.trans
    simp only [endBuild, (fail_eq built e).1]
    apply Cache.becomes_replace hbuilt.sound hp₁ (Cache.isOwn_artifact .error)

/-- A request whose build leaves no error has published what was built. -/
theorem exists_of_lastError_eq_none (hbuilds : s.coordinator.fresh? = none)
    (hok : s.ensureReady.1.coordinator.lastError = none) :
  ∃ built g, s.beginBuild.rebuild = (built, .ok g) ∧
    s.ensureReady = ((built.succeed g).endBuild, g)
  := by
  rcases s.ensureReady_cases with ⟨g, hfresh, -⟩ | ⟨-, hsucceeds | ⟨built, e, -, heq⟩⟩
  · rw [hbuilds] at hfresh
    cases hfresh
  · apply hsucceeds
  · simp only [heq, endBuild, (fail_eq built e).2.2.2.2.2] at hok
    cases hok

/-! ### Builds that succeed -/

/-- What a build makes that succeeds: the service when the result is known and the generation, what
was captured and the product made of it, and the place of the models directory. -/
structure Makes (s built : Service) (g : Generation) (c : Capture) (product : Product) (p : Place) :
    Prop where
  ready : s.ensureReady = ((built.succeed g).endBuild, g)
  builds : Builds s.beginBuild built
  lock : s.coordinator.cache.acquireLock s.tree s.lockHeld s.coordinator.options.lockTimeout =
    (s.entered.tree, .ok ())
  input : s.input = .ok c
  produce : s.beginBuild.entered.produce c.snapshot c.files c.fingerprint = (built, .ok product)
  registry : Registry.build product.module = .ok g.registry
  module : g.module = some product.module
  fingerprint : g.fingerprint = some c.fingerprint
  sound : s.entered.tree.Sound
  leads : s.entered.tree.Leads s.coordinator.cache.directory p

/-- A first build that succeeds makes something. -/
theorem exists_makes (hs : s.tree.Sound) (hbuilds : s.coordinator.fresh? = none)
    (hok : s.ensureReady.1.coordinator.lastError = none) :
  ∃ built g c product p, Makes s built g c product p
  := by
  obtain ⟨built, g, hbuild, hready⟩ := exists_of_lastError_eq_none hbuilds hok
  obtain ⟨hlock, c, product, hinput, hproduce, hregistry, hmodule, hfingerprint⟩ :=
    exists_of_rebuild_eq_ok hbuild
  obtain ⟨p, hp⟩ := Cache.exists_leads_of_acquireLock hlock
  have hbuilt := builds_rebuild s.beginBuild
  rw [hbuild] at hbuilt
  exact ⟨built, g, c, product, p, hready, hbuilt, hlock, hinput, hproduce, hregistry, hmodule,
    hfingerprint, Cache.sound_acquireLock hs _ _, hp⟩

namespace Makes

variable {built : Service} {product : Product}

theorem isSound (h : Makes s built g c product p) :
  c.IsSound
  := Capture.isSound_of_capture h.input

/-- Only artifacts and modules change, and the module that is made is found if there is no mark for
it. -/
theorem finds (h : Makes s built g c product p) :
  Becomes (IsWork p) s.entered.tree built.tree ∧
    (built.marks product.module = false → built.Finds c.fingerprint product.module)
  := finds_of_produce (s := s.beginBuild.entered) h.sound h.leads h.isSound.isLowerHex
    h.isSound.fingerprint_ne_empty h.produce

theorem leads_built (h : Makes s built g c product p) :
  built.tree.Leads built.coordinator.cache.directory p
  := by
  rw [h.builds.cache]
  apply h.leads.mono h.finds.1.keeps

/-- The publication notes only that there is no error and that the models are up to date. -/
theorem notes (h : Makes s built g c product p) :
  Becomes (Cache.IsNote p) built.tree (built.succeed g).endBuild.tree
  := notes_succeed h.finds.1.sound h.leads_built g

/-- The publication changes neither the cache nor the number of compilations. -/
theorem ensureReady_eq (h : Makes s built g c product p) :
  s.ensureReady.1.coordinator.cache = built.coordinator.cache ∧
    s.ensureReady.1.coordinator.compiles = built.coordinator.compiles
  := by
  have hcoordinator := coordinator_succeed built g
  rw [h.ready]
  constructor
  · simp only [endBuild, hcoordinator]
  · simp only [endBuild, hcoordinator]

end Makes

end Service

end LiveModels
