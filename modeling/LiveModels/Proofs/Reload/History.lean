import LiveModels.Proofs.Cache.Accounted
import LiveModels.Proofs.Reload.Remains

/-!
# History is of no account

What a build gives depends on the schema and the files of users alone, and not on what earlier builds
have left in the models directory: a coordinator that has built any number of times, has failed, was
restarted or has lost modules gives the same registry as a new one in a directory without artifacts.

What carries this is that the models directory stays accounted for by captures that were made in the
course of the history: a bundle that is found was emitted for one of them, and a module was compiled
from such a bundle. As only what has the right fingerprint is reused, and captures with one
fingerprint have sources that declare the same, it is of no account which way a build takes.
-/

namespace LiveModels

/-- A new coordinator with the settings of another. -/
def Coordinator.renew (c : Coordinator) : Coordinator where
  store := c.store
  policy := c.policy
  options := c.options
  cache := c.cache

theorem Coordinator.renew_inj {c c' : Coordinator} :
  c.renew = c'.renew ↔
    c.store = c'.store ∧ c.policy = c'.policy ∧ c.options = c'.options ∧ c.cache = c'.cache
  := by
  simp [renew]

namespace Service

open LiveModels.Tree

variable {p : Place} {s s' f : Service} {c : Capture} {met met' : List Capture}

/-! ### Histories -/

/-- A service with a new coordinator in place of its own, with the same settings. -/
def renew (s : Service) : Service :=
  { s with coordinator := s.coordinator.renew }

/-- Changes that users may make: to the schema and to files outside the models directory, to their
own files in it, and the removal of compiled modules. -/
def IsEdit (p q : Place) (n : Option Node) : Prop :=
  ¬ Cache.IsOwn p q ∨ n = none ∧ ∃ name, q = p ++ [compiledName] ++ [name]

/-- A service after an edit of its schema and files, when some time has passed. -/
def edit (s : Service) (store : Store) (tree : Tree) (now : String) : Service :=
  { s with coordinator := { s.coordinator with store := store }, tree := tree, now := now }

/-- Whether a coordinator is new, in a models directory that is there but holds no artifacts. -/
structure IsNew (p : Place) (s : Service) : Prop where
  renew_eq : s.renew = s
  lockHeld : s.lockHeld = false
  sound : s.tree.Sound
  leads : s.tree.Leads s.coordinator.cache.directory p
  fits : s.coordinator.cache.directory.Fits 64
  bare : ∀ name, isArtifactName name = true → s.tree.get? (p ++ [name]) = none

/-- What a request captures, if it builds. -/
def captures (s : Service) : List Capture :=
  match s.coordinator.fresh? with
  | some _ => []
  | none => s.input.toOption.toList

/-- Whether a service has come to its state from a new one, with what its builds have captured. -/
inductive History (p : Place) : List Capture → Service → Prop
  | start {s : Service} (h : IsNew p s) : History p [] s
  /-- The schema and files are edited, and time goes on. -/
  | edit {met : List Capture} {s : Service} (h : History p met s) (store : Store) {tree : Tree}
      (hedit : Becomes (IsEdit p) s.tree tree) (now : String) :
    History p met (s.edit store tree now)
  | invalidate {met : List Capture} {s : Service} (h : History p met s) :
    History p met s.invalidate
  | restart {met : List Capture} {s : Service} (h : History p met s) : History p met s.renew
  | request {met : List Capture} {s : Service} (h : History p met s) :
    History p (met ++ s.captures) s.ensureReady.1

/-- Whether a service has the models directory, the schema and the files of users that another one
has. -/
structure Resembles (p : Place) (f s : Service) : Prop where
  cache : f.coordinator.cache = s.coordinator.cache
  schema : f.schema = s.schema
  files : ∀ name n, Cache.isUserFile name n = true →
    (f.tree.get? (p ++ [name]) = some n ↔ s.tree.get? (p ++ [name]) = some n)

/-- What comes of a request: the fingerprint and the registry of the generation that is in use
afterwards, unless the build has failed. -/
def outcome (s : Service) : Option (Option String × Registry) :=
  match s.ensureReady with
  | (s, g) => if s.coordinator.lastError = none then some (g.fingerprint, g.registry) else none

/-! ### What is kept -/

/-- Whether a text is the source of a capture that has been made. -/
def IsMade (met : List Capture) (text : String) : Prop :=
  ∃ c ∈ met, ∃ revision, text = c.source revision

theorem IsMade.mono {text : String} (h : IsMade met text) (hmet : ∀ c ∈ met, c ∈ met') :
  IsMade met' text
  := by
  obtain ⟨c, hc, hsource⟩ := h
  exact ⟨c, hmet c hc, hsource⟩

/-- What is kept in the course of a history. -/
structure Kept (met : List Capture) (p : Place) (s : Service) : Prop where
  files : Cache.Accounted (IsMade met) s.coordinator.cache p s.tree
  sound : ∀ c ∈ met, c.IsSound
  script : s.coordinator.script = {}
  lockHeld : s.lockHeld = false

/-- What is kept stays so when files change that can be accounted for, and of the coordinator nothing
but what a build works on. -/
theorem Kept.of_apart (h : Kept met p s) (hapart : s'.coordinator.apart = s.coordinator.apart)
    (hlock : s'.lockHeld = s.lockHeld)
    (hfiles : Cache.Accounted (IsMade met) s.coordinator.cache p s'.tree) :
  Kept met p s'
  := by
  have hcache : s'.coordinator.apart.cache = s.coordinator.apart.cache := by rw [hapart]
  have hscript : s'.coordinator.apart.script = s.coordinator.apart.script := by rw [hapart]
  change s'.coordinator.cache = s.coordinator.cache at hcache
  change s'.coordinator.script = s.coordinator.script at hscript
  constructor
  · rw [hcache]
    apply hfiles
  · apply h.sound
  · rw [hscript]
    apply h.script
  · rw [hlock]
    apply h.lockHeld

/-- What is kept stays so when another capture is made. -/
theorem Kept.append (h : Kept met p s) (hc : c.IsSound) :
  Kept (met ++ [c]) p s
  := by
  constructor
  · apply h.files.mono
    intro text htext
    apply htext.mono
    intro c' hc'
    apply List.mem_append_left _ hc'
  · intro c' hc'
    rcases List.mem_append.mp hc' with hc' | hc'
    · apply h.sound c' hc'
    · rw [List.mem_singleton.mp hc']
      apply hc
  · apply h.script
  · apply h.lockHeld

/-! ### Tools -/

/-- A tool does not fail by itself. -/
theorem Kept.call (h : Kept met p s) (tool : Tool) :
  ∃ counted : Coordinator, counted.apart = s.coordinator.apart ∧
    s.call tool = ({ s with coordinator := counted }, none)
  := by
  cases tool with
  | emit => exact ⟨s.coordinator, rfl, by simp [Service.call, Script.at, h.script, interrupt]⟩
  | compile =>
    exact ⟨{ s.coordinator with compiles := s.coordinator.compiles + 1 }, rfl,
      by simp [Service.call, Script.at, h.script, interrupt]⟩
  | load =>
    exact ⟨{ s.coordinator with loads := s.coordinator.loads + 1 }, rfl,
      by simp [Service.call, Script.at, h.script, interrupt]⟩

/-! ### Looking up -/

/-- Whether a text is the source of a capture with a fingerprint that has been made. -/
def IsMadeFor (met : List Capture) (fingerprint text : String) : Prop :=
  ∃ c ∈ met, c.fingerprint = fingerprint ∧ ∃ revision, text = c.source revision

/-- Whether what is found for a fingerprint comes from a source with this fingerprint. -/
def Explains (met : List Capture) (fingerprint : String) : Lookup → Prop
  | .module module _ =>
    ∃ text, IsMadeFor met fingerprint text ∧ exports? text = some module.types
  | .source text => IsMadeFor met fingerprint text
  | .miss => True

/-- The header tells for which capture a source was made. -/
theorem Kept.isMadeFor (h : Kept met p s) {text fingerprint : String} (hmade : IsMade met text)
    (hheader : (Bundle.header? text).map (·.fingerprint) = some fingerprint) :
  IsMadeFor met fingerprint text
  := by
  obtain ⟨c, hc, revision, rfl⟩ := hmade
  rw [(h.sound c hc).header?_source] at hheader
  exact ⟨c, hc, Option.some.inj hheader, revision, rfl⟩

theorem Kept.isMadeFor_of_bundleFor? (h : Kept met p s) {fingerprint text : String}
    (hbundle : s.coordinator.cache.bundleFor? s.tree fingerprint = some text) :
  IsMadeFor met fingerprint text
  := by
  apply h.isMadeFor (h.files.made_of_bundleFor? hbundle)
  simpa using (Option.filter_eq_some_iff.mp hbundle).2

theorem Kept.exists_isMadeFor_of_moduleFor? (h : Kept met p s) {fingerprint : String}
    {location : Path} {module : Module}
    (hlocation : s.coordinator.cache.modulePath? s.tree = some location)
    (hmodule : Cache.moduleFor? s.tree fingerprint location = some module) :
  ∃ text, IsMadeFor met fingerprint text ∧ exports? text = some module.types
  := by
  obtain ⟨moduleName, text, m, hmade, hof, rfl, rfl⟩ :=
    h.files.exists_source_of_moduleFor? hlocation hmodule
  obtain ⟨header, hheader, hm⟩ := Manifest.ofSource_eq_ok hof
  have htypes := Manifest.types_ofSource hheader moduleName
  rw [hof] at htypes
  refine ⟨text, h.isMadeFor hmade ?_, htypes.symm⟩
  rw [hheader, hm]
  rfl

theorem explains_choose {fingerprint : String} {module : Option Module} {bundle : Option String}
    (hmodule : ∀ m, module = some m →
      ∃ text, IsMadeFor met fingerprint text ∧ exports? text = some m.types)
    (hbundle : ∀ text, bundle = some text → IsMadeFor met fingerprint text) :
  Explains met fingerprint (Cache.choose module bundle)
  := by
  cases module with
  | some m => apply hmodule m rfl
  | none =>
    cases bundle with
    | some text => apply hbundle text rfl
    | none => trivial

theorem Kept.lookUp (h : Kept met p s) (fingerprint : String) :
  Kept met p (s.lookUp fingerprint).1 ∧ Explains met fingerprint (s.lookUp fingerprint).2
  := by
  have hbundle : ∀ text, s.coordinator.cache.bundleFor? s.tree fingerprint = some text →
      IsMadeFor met fingerprint text := by
    intro text
    apply h.isMadeFor_of_bundleFor?
  simp only [Service.lookUp]
  split
  case isFalse => exact ⟨h, trivial⟩
  case isTrue =>
    split
    case h_1 => exact ⟨h, explains_choose (by simp) hbundle⟩
    case h_2 location hlocation =>
      obtain ⟨counted, hapart, hcall⟩ := h.call .load
      simp only [hcall]
      refine ⟨h.of_apart hapart rfl h.files, explains_choose ?_ hbundle⟩
      intro module
      apply h.exists_isMadeFor_of_moduleFor? hlocation

/-! ### Compiling -/

/-- A source that has been made is compiled unless it asks for a compile error. -/
theorem Kept.runJob (h : Kept met p s) (hc : c ∈ met) {j : Cache.Job} {revision : UInt64}
    (hfingerprint : j.fingerprint = c.fingerprint) (hsource : j.source = c.source revision) :
  Kept met p (s.runJob j).1 ∧ (s.runJob j).2.toOption.map (·.types) = exports? (c.source revision)
  := by
  have hsound := h.sound c hc
  have hj : j.IsHashed := by
    constructor
    · rw [hfingerprint]
      apply hsound.length_fingerprint
    · rw [hfingerprint]
      apply hsound.isLowerHex
  have hmade : IsMade met j.source := ⟨c, hc, revision, hsource⟩
  obtain ⟨t₁, hstage, hfiles₁⟩ := h.files.stage hmade
  have h₁ : Kept met p { s with tree := t₁ } := h.of_apart rfl rfl hfiles₁
  obtain ⟨counted, hapart, hcall⟩ := h₁.call .compile
  obtain ⟨t₂, hcomplete, hfiles₂⟩ := hfiles₁.complete hj hmade s.coordinator.options.moduleName
  simp only [Service.runJob, hstage, hcall, hcomplete]
  constructor
  · exact h.of_apart hapart rfl hfiles₂
  · rw [← Manifest.types_ofSource (hsound.header?_source revision), ← hsource]
    cases Manifest.ofSource s.coordinator.options.moduleName j.source with
    | error e => rfl
    | ok m => rfl

/-- The sources of captures with one fingerprint export the same types. -/
theorem exports?_eq_of_isMadeFor (h : Kept met p s) (hclear : Capture.AreClear met) (hc : c ∈ met)
    {text : String} (htext : IsMadeFor met c.fingerprint text) (revision : UInt64) :
  exports? text = exports? (c.source revision)
  := by
  obtain ⟨c', hc', hfingerprint, revision', rfl⟩ := htext
  apply Declaration.Alike.exports?_eq
  apply hclear.alike_source hc' hc (h.sound c' hc') (h.sound c hc) hfingerprint

theorem Kept.reserveVersion (h : Kept met p s) :
  Kept met p s.reserveVersion.2
  := h.of_apart rfl rfl h.files

theorem Kept.reuseModule (h : Kept met p s) (module : Module) (source : String) :
  Kept met p (s.reuseModule module source).1
  := by
  obtain ⟨version, heq⟩ : ∃ version, (s.reuseModule module source).1 =
      { s with coordinator := { s.coordinator with nextVersion := version } } := ⟨_, rfl⟩
  rw [heq]
  exact h.of_apart rfl rfl h.files

theorem Kept.reuseSource (h : Kept met p s) {fingerprint text : String}
    (htext : IsMadeFor met fingerprint text) :
  Kept met p (s.reuseSource fingerprint text).1 ∧
    (s.reuseSource fingerprint text).2.toOption.map (·.module.types) = exports? text
  := by
  obtain ⟨c, hc, rfl, revision, rfl⟩ := htext
  have hsound := h.sound c hc
  have hversion : s.reserveVersion.1 = s.coordinator.nextVersion := rfl
  have hjob : Cache.Job.ofSource c.fingerprint (c.source s.coordinator.nextVersion) =
      .ok ⟨c.fingerprint, s.coordinator.nextVersion, c.source s.coordinator.nextVersion, none⟩ := by
    rw [Cache.Job.ofSource, hsound.header?_source]
  obtain ⟨hkept, hresult⟩ := h.reserveVersion.runJob hc (j := ⟨c.fingerprint,
    s.coordinator.nextVersion, c.source s.coordinator.nextVersion, none⟩) rfl rfl
  simp only [Service.reuseSource, hversion, hsound.restamp_source, hjob]
  use hkept
  rw [(hsound.alike_source revision s.coordinator.nextVersion).exports?_eq, ← hresult,
    Result.toOption_map, Option.map_map]
  rfl

theorem Kept.emitAndCompile (h : Kept met p s) (hc : c ∈ met) :
  Kept met p (s.emitAndCompile c.snapshot c.files c.fingerprint).1 ∧
    (s.emitAndCompile c.snapshot c.files c.fingerprint).2.toOption.map (·.module.types) =
      exports? (c.source s.coordinator.nextVersion)
  := by
  have hversion : s.reserveVersion.1 = s.coordinator.nextVersion := rfl
  obtain ⟨counted, hapart, hcall⟩ := h.reserveVersion.call .emit
  have hcounted : Kept met p { s.reserveVersion.2 with coordinator := counted } :=
    h.reserveVersion.of_apart hapart rfl h.reserveVersion.files
  obtain ⟨hkept, hresult⟩ := hcounted.runJob hc
    (j := .ofBundle (Staged.bundle c s.coordinator.nextVersion)) rfl rfl
  simp only [Service.emitAndCompile, hversion, hcall]
  use hkept
  rw [← hresult, Result.toOption_map, Option.map_map]
  rfl

/-! ### Building -/

/-- Whichever way a build takes, its module exports what is emitted for the capture. -/
theorem Kept.produce (h : Kept met p s) (hc : c ∈ met) :
  Kept met p (s.produce c.snapshot c.files c.fingerprint).1 ∧ (Capture.AreClear met →
    (s.produce c.snapshot c.files c.fingerprint).2.toOption.map (·.module.types) =
      exports? (c.source 0))
  := by
  obtain ⟨h₁, hfound⟩ := h.lookUp c.fingerprint
  unfold Service.produce
  split
  case h_1 s₁ module source hs₁ =>
    rw [hs₁] at h₁ hfound
    obtain ⟨text, htext, hexports⟩ := hfound
    use h₁.reuseModule module source
    intro hclear
    rw [← exports?_eq_of_isMadeFor h hclear hc htext, hexports]
    rfl
  case h_2 s₁ text hs₁ =>
    rw [hs₁] at h₁ hfound
    obtain ⟨hkept, hresult⟩ := h₁.reuseSource hfound
    use hkept
    intro hclear
    rw [← exports?_eq_of_isMadeFor h hclear hc hfound, hresult]
  case h_3 s₁ hs₁ =>
    rw [hs₁] at h₁
    obtain ⟨hkept, hresult⟩ := h₁.emitAndCompile hc
    use hkept
    intro _
    rw [hresult]
    apply ((h.sound c hc).alike_source _ _).exports?_eq

/-- What a generation shows of its models. -/
def content (result : Except ModelsError Generation) : Option (Option String × Registry) :=
  result.toOption.map fun g => (g.fingerprint, g.registry)

theorem Kept.generationOf (h : Kept met p s) (hc : c ∈ met) :
  Kept met p (s.generationOf c).1 ∧ (Capture.AreClear met →
    content (s.generationOf c).2 = c.registered?.map fun r => (some c.fingerprint, r))
  := by
  obtain ⟨hkept, hexports⟩ := h.produce hc
  unfold Service.generationOf Capture.registered?
  split
  case h_1 s₁ e hs₁ =>
    rw [hs₁] at hkept hexports
    use hkept
    intro hclear
    rw [← hexports hclear]
    rfl
  case h_2 s₁ product hs₁ =>
    rw [hs₁] at hkept hexports
    split
    case h_1 e he =>
      use hkept
      intro hclear
      rw [Registry.build] at he
      rw [← hexports hclear]
      simp [content, Except.toOption, he]
    case h_2 registry hregistry =>
      use hkept
      intro hclear
      rw [Registry.build] at hregistry
      rw [← hexports hclear]
      simp [content, Except.toOption, hregistry]

/-- The lock is taken without a failure. -/
theorem Kept.entered (h : Kept met p s) :
  Kept met p s.entered ∧
    s.coordinator.cache.acquireLock s.tree s.lockHeld s.coordinator.options.lockTimeout =
      (s.entered.tree, .ok ())
  := by
  obtain ⟨t₁, hlock, hfiles⟩ := h.files.acquireLock s.coordinator.options.lockTimeout
  rw [← h.lockHeld] at hlock
  have hentered : s.entered = { s with tree := t₁ } := by simp only [Service.entered, hlock]
  rw [hentered]
  exact ⟨h.of_apart rfl rfl hfiles, hlock⟩

/-- A build works on what it captures once it has the lock. -/
theorem Kept.rebuild_eq (h : Kept met p s) :
  s.rebuild =
    match s.input with
    | .error e => (s.entered, .error e)
    | .ok c => s.entered.generationOf c
  := by
  unfold Service.rebuild
  simp only [h.entered.2]
  rfl

/-- What a build gives depends on what it captures alone. -/
theorem Kept.rebuild (h : Kept met p s) :
  Kept (met ++ s.input.toOption.toList) p s.rebuild.1 ∧
    (Capture.AreClear (met ++ s.input.toOption.toList) →
      content s.rebuild.2 =
        s.input.toOption.bind fun c => c.registered?.map fun r => (some c.fingerprint, r))
  := by
  have hentered := h.entered.1
  rw [h.rebuild_eq]
  cases hinput : s.input with
  | error e =>
    simp only [Except.toOption, Option.toList_none, List.append_nil]
    use hentered
    intro _
    rfl
  | ok c =>
    apply (hentered.append (Capture.isSound_of_capture hinput)).generationOf
    simp

/-! ### Steps of a history -/

/-- A new coordinator builds when it is asked. -/
theorem IsNew.fresh?_eq (h : IsNew p s) :
  s.coordinator.fresh? = none
  := by
  rw [← h.renew_eq]
  rfl

/-- A new coordinator has nothing to account for. -/
theorem IsNew.kept (h : IsNew p s) :
  Kept [] p s
  := by
  constructor
  · refine ⟨h.sound, h.leads, h.fits, ?_⟩
    intro q
    cases hget : s.tree.get? q with
    | none => apply Cache.Accounts.none
    | some n =>
      have hbare : ∀ name, isArtifactName name = true → q ≠ p ++ [name] := by
        rintro name hname rfl
        rw [h.bare name hname] at hget
        cases hget
      apply Cache.Accounts.of_ne
      · intro a
        apply hbare
        cases a <;> decide
      · apply hbare
        decide
      · rintro name rfl
        have hcompiled := h.sound.get?_parent hget
        rw [h.bare compiledName (by decide)] at hcompiled
        cases hcompiled
  · simp
  · rw [← h.renew_eq]
    rfl
  · apply h.lockHeld

/-- What users edit needs no account. -/
theorem IsEdit.accounts {made : String → Prop} {q : Place} {n : Option Node} (h : IsEdit p q n) :
  Cache.Accounts made p q n
  := by
  rcases h with hown | ⟨rfl, -⟩
  · apply Cache.Accounts.of_ne
    · rintro a rfl
      apply hown (Cache.isOwn_artifact a)
    · rintro rfl
      apply hown (Cache.isOwn_compiled [])
    · rintro name rfl
      rw [List.append_assoc] at hown
      apply hown (Cache.isOwn_compiled [name])
  · apply Cache.Accounts.none

theorem Kept.edit (h : Kept met p s) (store : Store) {tree : Tree}
    (hedit : Becomes (IsEdit p) s.tree tree) (now : String) :
  Kept met p (s.edit store tree now)
  := by
  constructor
  · apply h.files.of_becomes
    apply hedit.mono
    intro q n
    apply IsEdit.accounts
  · apply h.sound
  · apply h.script
  · apply h.lockHeld

theorem Kept.invalidate (h : Kept met p s) :
  Kept met p s.invalidate
  := by
  have hflagged : Cache.Accounted (IsMade met) s.coordinator.cache p
      (s.coordinator.cache.flagOutOfDate s.tree s.now).1 := by
    have haccounts : Cache.Accounts (IsMade met) p (p ++ [Artifact.outOfDate.fileName])
        (some (.file (.text s.now))) := .of_artifact (by simp) (by simp)
    obtain ⟨t₁, hreplace, hfiles⟩ := h.files.replace haccounts
    rw [Cache.flagOutOfDate, hreplace]
    apply hfiles
  unfold Service.invalidate
  simp only
  split
  · apply h
  · refine ⟨?_, h.sound, h.script, h.lockHeld⟩
    simp only
    split
    · apply hflagged
    · apply h.files

theorem Kept.beginBuild (h : Kept met p s) :
  Kept met p s.beginBuild
  := ⟨h.files, h.sound, h.script, h.lockHeld⟩

theorem Kept.clearOutOfDate (h : Kept met p s) :
  Kept met p s.clearOutOfDate
  := by
  unfold Service.clearOutOfDate
  split
  · apply h
  · exact ⟨h.files.discard .outOfDate, h.sound, h.script, h.lockHeld⟩

theorem Kept.succeed (h : Kept met p s) (g : Generation) :
  Kept met p (s.succeed g)
  := by
  have hpublished : Kept met p
      (Service.clearError { s with coordinator := { s.coordinator with current := some g } }) :=
    ⟨h.files.discard .error, h.sound, h.script, h.lockHeld⟩
  have hcleared := hpublished.clearOutOfDate
  exact ⟨hcleared.files, h.sound, hcleared.script, hcleared.lockHeld⟩

theorem Kept.fail (h : Kept met p s) (e : ModelsError) :
  Kept met p (s.fail e).1
  := by
  have hrecorded : Kept met p (s.recordError e) := by
    have haccounts : Cache.Accounts (IsMade met) p (p ++ [Artifact.error.fileName])
        (some (.file (.text e.record))) := .of_artifact (by simp) (by simp)
    obtain ⟨t₁, hreplace, hfiles⟩ := h.files.replace haccounts
    refine ⟨?_, h.sound, h.script, h.lockHeld⟩
    simp only [recordError, Cache.recordError, hreplace]
    apply hfiles
  cases hcurrent : s.coordinator.current with
  | some g =>
    rw [fail_of_some hcurrent]
    apply hrecorded
  | none =>
    rw [fail_of_none hcurrent]
    exact ⟨hrecorded.files, h.sound, h.script, h.lockHeld⟩

/-- What is kept stays so when a request captures and builds. -/
theorem Kept.ensureReady (h : Kept met p s) :
  Kept (met ++ s.captures) p s.ensureReady.1
  := by
  unfold captures
  split
  case h_1 g hfresh =>
    rw [ensureReady_of_fresh hfresh, List.append_nil]
    apply h
  case h_2 hfresh =>
    have hinput : s.beginBuild.input = s.input := rfl
    have hbuilt := h.beginBuild.rebuild.1
    rw [hinput] at hbuilt
    cases hbuild : s.beginBuild.rebuild with
    | mk s₁ result =>
      rw [hbuild] at hbuilt
      cases result with
      | ok g =>
        have hended := hbuilt.succeed g
        rw [ensureReady_of_ok hfresh hbuild]
        exact ⟨hended.files, hended.sound, hended.script, hended.lockHeld⟩
      | error e =>
        have hended := hbuilt.fail e
        rw [ensureReady_of_error hfresh hbuild]
        exact ⟨hended.files, hended.sound, hended.script, hended.lockHeld⟩

theorem History.kept (h : History p met s) :
  Kept met p s
  := by
  induction h with
  | start hnew => apply hnew.kept
  | edit h store hedit now ih => apply ih.edit store hedit
  | invalidate h ih => apply ih.invalidate
  | restart h ih => exact ⟨ih.files, ih.sound, rfl, ih.lockHeld⟩
  | request h ih => apply ih.ensureReady

/-! ### First builds -/

/-- The settings of a coordinator stay as they are. -/
theorem renew_invalidate (s : Service) :
  s.invalidate.coordinator.renew = s.coordinator.renew
  := by
  rw [coordinator_invalidate]
  rfl

theorem renew_ensureReady (s : Service) :
  s.ensureReady.1.coordinator.renew = s.coordinator.renew
  := by
  have hrenew : s.beginBuild.rebuild.1.coordinator.apart.renew =
      s.beginBuild.coordinator.apart.renew := by
    rw [(builds_rebuild s.beginBuild).apart]
  rcases s.ensureReady_cases with
    ⟨g, -, heq⟩ | ⟨-, ⟨built, g, hbuild, heq⟩ | ⟨built, e, hbuild, heq⟩⟩
  · rw [heq]
  · rw [hbuild] at hrenew
    simp only [heq, endBuild, coordinator_succeed]
    apply hrenew
  · rw [hbuild] at hrenew
    rw [heq]
    unfold fail
    simp only
    split <;> apply hrenew

/-- An invalidated service builds when it is asked. -/
theorem fresh?_invalidate (s : Service) :
  s.invalidate.coordinator.fresh? = none
  := by
  simp [Coordinator.fresh?, coordinator_invalidate]

theorem mem_captures (h : c ∈ s.captures) :
  s.input = .ok c
  := by
  unfold captures at h
  split at h
  · cases h
  · cases hinput : s.input with
    | error e =>
      rw [hinput] at h
      cases h
    | ok c' =>
      rw [hinput] at h
      rw [List.mem_singleton.mp h]

/-- A schema that is held in memory does not depend on files. -/
theorem schema_of_memory {d : Document} (h : s.coordinator.store = .memory d) :
  s.schema = Snapshot.build ⟨[]⟩ (.memory d) s.coordinator.policy
  := by
  rw [schema, h]
  rfl

/-- A service whose schema and files have been edited after its first build, up to those that
another one has. -/
theorem IsNew.resembles_edit (h : IsNew p s) (hcache : f.coordinator.cache = s.coordinator.cache)
    (hpolicy : f.coordinator.policy = s.coordinator.policy) {d : Document}
    (hstore : f.coordinator.store = .memory d) {tree : Tree}
    (hedit : Becomes (IsEdit p) s.ensureReady.1.tree tree)
    (hfiles : ∀ name n, Cache.isUserFile name n = true →
      (f.tree.get? (p ++ [name]) = some n ↔ tree.get? (p ++ [name]) = some n)) (now : String) :
  f.Resembles p (s.ensureReady.1.edit f.coordinator.store tree now).invalidate
  := by
  obtain ⟨-, hpolicy₁, -, hcache₁⟩ := Coordinator.renew_inj.mp (renew_ensureReady s)
  obtain ⟨hstore₂, hpolicy₂, -, hcache₂⟩ :=
    Coordinator.renew_inj.mp (renew_invalidate (s.ensureReady.1.edit f.coordinator.store tree now))
  have hown := own_ensureReady h.sound h.leads
  have hleads : tree.Leads s.ensureReady.1.coordinator.cache.directory p := by
    rw [hcache₁]
    apply (h.leads.mono hown.keeps).mono hedit.keeps
  have hflagged := own_invalidate (s := s.ensureReady.1.edit f.coordinator.store tree now) hedit.sound
    hleads
  constructor
  · rw [hcache, ← hcache₁]
    apply hcache₂.symm
  · rw [schema_of_memory hstore, schema_of_memory (hstore₂.trans hstore), hpolicy₂, hpolicy,
      ← hpolicy₁]
    rfl
  · intro name n huser
    rw [hfiles name n huser, hflagged.get?_eq]
    · rfl
    · apply Cache.not_isOwn_of_isUserFile huser

/-! ### Outcomes -/

theorem lastError_eq_none_of_outcome {o : Option String × Registry} (h : s.outcome = some o) :
  s.ensureReady.1.coordinator.lastError = none
  := by
  unfold outcome at h
  split at h
  case h_1 s₁ g hready =>
    rw [hready]
    split at h
    case isTrue hnone => apply hnone
    case isFalse => cases h

/-- What comes of a request that builds is what the build gives. -/
theorem outcome_eq (h : s.coordinator.fresh? = none) :
  s.outcome = content s.beginBuild.rebuild.2
  := by
  unfold outcome
  cases hbuild : s.beginBuild.rebuild with
  | mk s₁ result =>
    cases result with
    | ok g =>
      have hnoted : (s₁.succeed g).endBuild.coordinator.lastError = none := by
        simp only [endBuild, coordinator_succeed]
      rw [ensureReady_of_ok h hbuild]
      simp only [hnoted, if_true]
      rfl
    | error e =>
      have hnoted : (s₁.fail e).1.endBuild.coordinator.lastError = some e.record :=
        (fail_eq s₁ e).2.2.2.2.2
      rw [ensureReady_of_error h hbuild]
      simp only [hnoted, reduceCtorEq, if_false]
      rfl

/-- What comes of a request depends on what it captures alone. -/
theorem Kept.outcome_eq (h : Kept met p s) (hbuilds : s.coordinator.fresh? = none)
    (hclear : Capture.AreClear (met ++ s.captures)) :
  s.outcome = s.input.toOption.bind fun c => c.registered?.map fun r => (some c.fingerprint, r)
  := by
  have hinput : s.beginBuild.input = s.input := rfl
  have hcontent := h.beginBuild.rebuild.2
  rw [hinput] at hcontent
  rw [Service.outcome_eq hbuilds]
  apply hcontent
  rwa [captures, hbuilds] at hclear

/-- A new coordinator succeeds in building what can be registered. -/
theorem IsNew.outcome_eq (h : IsNew p s) (hinput : s.input = .ok c) :
  s.outcome = c.registered?.map fun r => (some c.fingerprint, r)
  := by
  rw [h.kept.outcome_eq h.fresh?_eq, hinput]
  · rfl
  · apply Capture.areClear_of_eq
    intro c₁ hc₁ c₂ hc₂
    have heq := (mem_captures hc₁).symm.trans (mem_captures hc₂)
    apply Except.ok.inj heq

/-- Services with one schema and one set of files capture the same, whatever artifacts there are. -/
theorem Kept.input_eq (h : Kept met p s) (hf : Kept met' p f) (hsame : f.Resembles p s) :
  f.input = s.input
  := by
  have hfiles : f.coordinator.cache.userFiles f.entered.tree =
      s.coordinator.cache.userFiles s.entered.tree := by
    rw [userFiles_entered h.files.sound h.files.leads, userFiles_entered hf.files.sound hf.files.leads,
      hsame.cache]
    apply Cache.userFiles_congr hf.files.sound h.files.sound _ h.files.leads hsame.files
    rw [← hsame.cache]
    apply hf.files.leads
  rw [input_def f, input_def s, hsame.schema, hfiles]

/-- Whatever has happened before, a request that builds has the outcome that it has for a new
coordinator in a directory with the same files of users and no artifacts: both builds fail, or both
give the same registry for the same fingerprint. -/
theorem History.has_no_effect (h : History p met s) (hbuilds : s.coordinator.fresh? = none)
    (hclear : Capture.AreClear (met ++ s.captures)) (hnew : IsNew p f) (hsame : f.Resembles p s) :
  s.outcome = f.outcome
  := by
  have hinput : f.input = s.input := h.kept.input_eq hnew.kept hsame
  have hcaptures : f.captures = s.captures := by
    simp only [captures, hnew.fresh?_eq, hbuilds, hinput]
  rw [h.kept.outcome_eq hbuilds hclear, hnew.kept.outcome_eq hnew.fresh?_eq, hinput]
  apply hclear.mono
  rw [hcaptures]
  intro c hc
  apply List.mem_append_right _ hc

/-- A new service with a schema in memory and one file of users. -/
def started (d : Document) (file : String × String) : Service where
  coordinator := { store := .memory d, policy := .rawAlias, options := {}, cache := ⟨⟨"models"⟩⟩ }
  tree := (Tree.mk [(["models"], .directory)]).set (["models"] ++ [file.1]) (.file (.text file.2))
  lockHeld := false
  now := "noon"

theorem isNew_started {d : Document} {file : String × String} (hname : IsName file.1)
    (hfile : isArtifactName file.1 = false) :
  IsNew ["models"] (started d file)
  := by
  have hmodels : IsName "models" := by decide
  have hfits : (Path.mk "models").Fits 64 := ⟨by decide, by decide⟩
  have hsound : (Tree.mk [(["models"], .directory)]).Sound :=
    sound_nil.set (p := []) rfl hmodels (.inl rfl)
  have hget : ∀ q, (Tree.mk [(["models"], .directory)]).get? q =
      if q = [] ∨ q = ["models"] then some .directory else none := by
    intro q
    by_cases hq : q = []
    · simp [Tree.get?, hq]
    · by_cases hq' : q = ["models"]
      · simp [Tree.get?, hq']
      · simp [Tree.get?, hq, hq', Ne.symm hq']
  have hfree : (Tree.mk [(["models"], .directory)]).get? (["models"] ++ [file.1]) = none := by
    simp [hget]
  constructor
  · rfl
  · rfl
  · apply hsound.set rfl hname
    rw [hfree]
    simp
  · constructor
    · have hsteps : (Path.mk "models").steps = ["models"] := hmodels.steps_eq
      change (started d file).tree.walk [] (Path.mk "models").steps = .ok ["models"]
      rw [hsteps]
      apply walk_name (get?_nil _) hmodels
    · apply get?_set_of_free hfree rfl
  · apply hfits
  · intro name hartifact
    rw [started, get?_set_of_ne, hget]
    · simp
    · intro heq
      obtain ⟨rfl, -⟩ := List.cons.inj (List.append_cancel_left heq)
      rw [hfile] at hartifact
      cases hartifact

theorem inside_started (d : Document) (file : String × String) :
  Cache.inside (started d file).tree ["models"] = [(file.1, .file (.text file.2))]
  := by
  simp [Cache.inside, started, Tree.set]

/-- A second build where nothing but the time has changed has the outcome of the first. -/
theorem started_has_no_effect :
  let f := started {} ("notes.rs", "#[model]\npub struct Note;")
  let s := (f.ensureReady.1.edit f.coordinator.store f.ensureReady.1.tree "later").invalidate
  History ["models"] f.captures s ∧ s.coordinator.fresh? = none ∧
    Capture.AreClear (f.captures ++ s.captures) ∧ IsNew ["models"] f ∧ f.Resembles ["models"] s ∧
    s.outcome = f.outcome
  := by
  intro f s
  have hnew : IsNew ["models"] f :=
    isNew_started (by decide) (by decide)
  have hown := own_ensureReady hnew.sound hnew.leads
  have hedit : Becomes (IsEdit ["models"]) f.ensureReady.1.tree f.ensureReady.1.tree :=
    .refl hown.sound
  have hhistory : History ["models"] f.captures s := by
    have hstart : History ["models"] ([] ++ f.captures) f.ensureReady.1 := (History.start hnew).request
    exact (hstart.edit f.coordinator.store hedit "later").invalidate
  have hsame : f.Resembles ["models"] s := by
    apply hnew.resembles_edit rfl rfl rfl hedit
    intro name n huser
    rw [hown.get?_eq (Cache.not_isOwn_of_isUserFile huser)]
  have hinput : f.input = s.input := hhistory.kept.input_eq hnew.kept hsame
  have hclear : Capture.AreClear (f.captures ++ s.captures) := by
    apply Capture.areClear_of_eq
    have hinputs : ∀ c ∈ f.captures ++ s.captures, f.input = .ok c := by
      intro c hc
      rcases List.mem_append.mp hc with hc | hc
      · apply mem_captures hc
      · rw [hinput]
        apply mem_captures hc
    intro c hc c' hc'
    have heq := (hinputs c hc).symm.trans (hinputs c' hc')
    apply Except.ok.inj heq
  have hbuilds := fresh?_invalidate (f.ensureReady.1.edit f.coordinator.store f.ensureReady.1.tree "later")
  exact ⟨hhistory, hbuilds, hclear, hnew, hsame, hhistory.has_no_effect hbuilds hclear hnew hsame⟩

end Service

end LiveModels
