import LiveModels.Proofs.Reload.Build

/-!
# Builds that fail

A build that fails keeps the generation in use, or publishes one without models if there is none. It
leaves the service ready, so that nothing is built again before the next invalidation, it reports
the failure, and it does not remove the out-of-date flag. The noted error tells at any time whether
the last build has failed.
-/

namespace LiveModels.Service

open LiveModels.Tree

variable {p : Place} {s s' s'' : Service} {e : ModelsError} {g : Generation}

/-! ### Runs -/

/-- How a build ended. -/
structure Attempt where
  /-- Why the build failed, if it did. -/
  failure : Option ModelsError
  /-- Whether the noted error was removed after a build that did not fail. -/
  cleared : Bool
  deriving DecidableEq

/-- The build that a request makes, unless the generation in use is fresh. -/
def attempt? (s : Service) : Option Attempt :=
  match s.coordinator.fresh? with
  | some _ => none
  | none =>
    match s.beginBuild.rebuild with
    | (_, .error e) => some ⟨some e, false⟩
    | (built, .ok _) => some ⟨none, (built.coordinator.cache.clearError built.tree).2.toBool⟩

/-- Whether a service comes from another by what others do: they change the schema and files, hold
or free the lock, and prepare interruptions, but leave the noted error as it is, and the models
directory in existence. -/
structure Elsewhere (s s' : Service) : Prop where
  coordinator : s'.coordinator =
    { s.coordinator with store := s'.coordinator.store, script := s'.coordinator.script }
  sound : s'.tree.Sound
  lastError : s.coordinator.cache.lastError? s'.tree = s.coordinator.cache.lastError? s.tree
  directory : (∃ p, s.tree.Leads s.coordinator.cache.directory p) →
    ∃ p, s'.tree.Leads s.coordinator.cache.directory p

/-- The services that are reached from a new one, with the builds on the way, the last one first. -/
inductive Run : Service → List Attempt → Prop
  | start (store : Store) (policy : NamingPolicy) (options : CoordinatorOptions) (cache : Cache)
      (script : Script) {tree : Tree} (lockHeld : Bool) (now : String) (hs : tree.Sound) :
    Run ⟨{ store, policy, options, cache, script }, tree, lockHeld, now⟩ []
  | request {s : Service} {past : List Attempt} (h : Run s past) :
    Run s.ensureReady.1 (s.attempt?.toList ++ past)
  | invalidate {s : Service} {past : List Attempt} (h : Run s past) :
    Run s.invalidate past
  | elsewhere {s s' : Service} {past : List Attempt} (h : Run s past) (hs : Elsewhere s s') :
    Run s' past

theorem ensureReady_of_fresh (h : s.coordinator.fresh? = some g) :
  s.ensureReady = (s, g)
  := by
  unfold ensureReady
  rw [h]

theorem ensureReady_of_error (h : s.coordinator.fresh? = none)
    (hbuild : s.beginBuild.rebuild = (s', .error e)) :
  s.ensureReady = ((s'.fail e).1.endBuild, (s'.fail e).2)
  := by
  unfold ensureReady buildGeneration
  rw [h, hbuild]

theorem ensureReady_of_ok (h : s.coordinator.fresh? = none)
    (hbuild : s.beginBuild.rebuild = (s', .ok g)) :
  s.ensureReady = ((s'.succeed g).endBuild, g)
  := by
  unfold ensureReady buildGeneration
  rw [h, hbuild]

/-- A request returns the generation in use, or it builds, which succeeds or fails. -/
theorem ensureReady_cases (s : Service) :
  (∃ g, s.coordinator.fresh? = some g ∧ s.ensureReady = (s, g)) ∨
    s.coordinator.fresh? = none ∧
      ((∃ built g, s.beginBuild.rebuild = (built, .ok g) ∧
          s.ensureReady = ((built.succeed g).endBuild, g)) ∨
        ∃ built e, s.beginBuild.rebuild = (built, .error e) ∧
          s.ensureReady = ((built.fail e).1.endBuild, (built.fail e).2))
  := by
  cases hfresh : s.coordinator.fresh? with
  | some g => exact .inl ⟨g, rfl, ensureReady_of_fresh hfresh⟩
  | none =>
    cases hbuild : s.beginBuild.rebuild with
    | mk built result =>
      cases result with
      | ok g => exact .inr ⟨rfl, .inl ⟨built, g, rfl, ensureReady_of_ok hfresh hbuild⟩⟩
      | error e => exact .inr ⟨rfl, .inr ⟨built, e, rfl, ensureReady_of_error hfresh hbuild⟩⟩

/-- An invalidation changes nothing of a coordinator but that it is stale. -/
theorem coordinator_invalidate (s : Service) :
  s.invalidate.coordinator = { s.coordinator with stale := true }
  := by
  unfold invalidate
  dsimp only
  split
  case isTrue hstale => rw [← hstale]
  case isFalse => rfl

theorem lockHeld_invalidate (s : Service) :
  s.invalidate.lockHeld = s.lockHeld
  := by
  unfold invalidate
  dsimp only
  split <;> rfl

theorem now_invalidate (s : Service) :
  s.invalidate.now = s.now
  := by
  unfold invalidate
  dsimp only
  split <;> rfl

/-- Nothing but files is changed when the out-of-date flag is removed. -/
theorem clearOutOfDate_eq (s : Service) :
  s.clearOutOfDate = { s with tree :=
    if s.coordinator.stale then s.tree else (s.coordinator.cache.clearOutOfDate s.tree).1 }
  := by
  unfold clearOutOfDate
  split <;> rfl

/-- What is published when a build has succeeded. -/
theorem coordinator_succeed (s : Service) (g : Generation) :
  (s.succeed g).coordinator = { s.coordinator with
    current := some g
    lastError := none
    announced := s.coordinator.announced ++ [g.version] }
  := by
  rw [succeed, clearOutOfDate_eq]
  rfl

/-- What can be made out about a request that makes a build. -/
theorem attempt?_cases {last : Attempt} (h : s.attempt? = some last) :
  s.coordinator.fresh? = none ∧
    ((∃ s' e, s.beginBuild.rebuild = (s', .error e) ∧ last = ⟨some e, false⟩) ∨
      ∃ s' g, s.beginBuild.rebuild = (s', .ok g) ∧
        last = ⟨none, (s'.coordinator.cache.clearError s'.tree).2.toBool⟩)
  := by
  unfold attempt? at h
  split at h
  · cases h
  case h_2 hfresh =>
    use hfresh
    split at h
    case h_1 s' e hbuild =>
      exact .inl ⟨s', e, hbuild, (Option.some.inj h).symm⟩
    case h_2 s' g hbuild =>
      exact .inr ⟨s', g, hbuild, (Option.some.inj h).symm⟩

/-! ### Sound trees -/

theorem sound_invalidate (hs : s.tree.Sound) :
  s.invalidate.tree.Sound
  := by
  unfold invalidate
  simp only
  split
  · apply hs
  · split
    · apply Cache.sound_replace hs
    · apply hs

theorem sound_ensureReady (hs : s.tree.Sound) :
  s.ensureReady.1.tree.Sound
  := by
  rcases s.ensureReady_cases with
    ⟨g, -, heq⟩ | ⟨-, ⟨built, g, hbuild, heq⟩ | ⟨built, e, hbuild, heq⟩⟩
  · rwa [heq]
  · have hbuilt := (sound_rebuild (s := s.beginBuild) hs hbuild).1
    have hclear : (built.coordinator.cache.clearError built.tree).1.Sound :=
      Cache.sound_discard hbuilt _
    rw [heq]
    simp only [endBuild, succeed, clearOutOfDate_eq]
    split
    · apply hclear
    · apply Cache.sound_discard hclear
  · have hbuilt := (sound_rebuild (s := s.beginBuild) hs hbuild).1
    have hrecord : (built.recordError e).tree.Sound := Cache.sound_replace hbuilt _ _
    rw [heq]
    unfold fail
    simp only
    split
    · apply hrecord
    · apply hrecord

theorem Run.sound {past : List Attempt} (h : Run s past) :
  s.tree.Sound
  := by
  induction h with
  | start store policy options cache script lockHeld now hs => apply hs
  | request h ih => apply sound_ensureReady ih
  | invalidate h ih => apply sound_invalidate ih
  | elsewhere h hs ih => apply hs.sound

/-! ### Failures -/

theorem fail_of_some {previous : Generation} (h : s.coordinator.current = some previous) :
  s.fail e = (s.recordError e, previous)
  := by
  simp [fail, recordError, h]

theorem fail_of_none (h : s.coordinator.current = none) :
  s.fail e =
    let g := Generation.degraded s.coordinator.nextVersion s.now e.message
    let next := (s.recordError e).reserveVersion.2
    ({ next with coordinator := next.coordinator.publish g }, g)
  := by
  simp [fail, recordError, reserveVersion, Coordinator.reserveVersion, h]

/-- What a failure leaves, whether or not there is a generation in use. -/
theorem fail_eq (s : Service) (e : ModelsError) :
  (s.fail e).1.tree = (s.recordError e).tree ∧
    (s.fail e).1.coordinator.cache = s.coordinator.cache ∧
    (s.fail e).1.coordinator.current = some (s.fail e).2 ∧
    (s.fail e).1.coordinator.stale = s.coordinator.stale ∧
    (s.fail e).1.coordinator.journal = s.coordinator.journal ∧
    (s.fail e).1.coordinator.lastError = some e.record
  := by
  cases h : s.coordinator.current with
  | none =>
    rw [fail_of_none h]
    exact ⟨rfl, rfl, rfl, rfl, rfl, rfl⟩
  | some previous =>
    rw [fail_of_some h]
    exact ⟨rfl, rfl, h, rfl, rfl, rfl⟩

/-- The out-of-date flag is a node of the models directory. -/
theorem isOutOfDate_iff {c : Cache} {t : Tree} :
  c.isOutOfDate t = true ↔
    faultOf? (c.path .outOfDate) = none ∧
      ∃ p, t.Leads c.directory p ∧ t.get? (p ++ [Artifact.outOfDate.fileName]) ≠ none
  := by
  rw [Cache.isOutOfDate, has]
  constructor
  · intro h
    split at h
    case h_1 n hnode =>
      obtain ⟨hfault, -, p, hleads, hget⟩ :=
        exists_leads_of_node Artifact.outOfDate.isName.toIsStep hnode
      use hfault, p, hleads
      simp [hget]
    · cases h
  · rintro ⟨hfault, p, hleads, hget⟩
    obtain ⟨n, hn⟩ := Option.ne_none_iff_exists'.mp hget
    rw [Cache.path, hleads.node_join Artifact.outOfDate.isName hfault, hn]
    rfl

/-- Whether a service knows how the last build ended: an error is kept if it failed, and there is no
error, neither kept nor noted, if it did not and the noted one was removed. -/
def Remembers (s : Service) : List Attempt → Prop
  | [] => True
  | last :: _ =>
    (last.failure ≠ none → s.coordinator.lastError ≠ none) ∧
      (last.failure = none → last.cleared = true →
        s.coordinator.lastError = none ∧ s.coordinator.cache.lastError? s.tree = none ∧
          ∃ p, s.tree.Leads s.coordinator.cache.directory p)

/-- After a build that succeeds and removes the noted error there is none. -/
theorem lastError?_succeed (hs : s.tree.Sound) (hp : s.tree.Leads s.coordinator.cache.directory p)
    (hclear : (s.coordinator.cache.clearError s.tree).2 = .ok ()) :
  s.coordinator.cache.lastError? (s.succeed g).tree = none ∧
    (s.succeed g).tree.Leads s.coordinator.cache.directory p
  := by
  have hbecomes : Becomes (fun _ _ => True) s.tree (s.coordinator.cache.clearError s.tree).1 :=
    Cache.becomes_discard hs hp trivial
  have hcleared := Cache.read?_discard hs hclear
  have hleads := hp.mono hbecomes.keeps
  simp only [succeed, clearOutOfDate_eq]
  split
  · use hcleared
    apply hleads
  · have hflag : Becomes (fun q _ => q = p ++ [Artifact.outOfDate.fileName])
        (s.coordinator.cache.clearError s.tree).1
        (s.coordinator.cache.clearOutOfDate (s.coordinator.cache.clearError s.tree).1).1 :=
      Cache.becomes_discard hbecomes.sound hleads rfl
    constructor
    · apply (Cache.read?_eq_of_becomes hleads hflag _).trans hcleared
      simp [Artifact.fileName]
    · apply hleads.mono hflag.keeps

theorem Remembers.invalidate {past : List Attempt} (hs : s.tree.Sound) (h : s.Remembers past) :
  s.invalidate.Remembers past
  := by
  unfold Service.invalidate
  simp only
  split
  · apply h
  · cases past with
    | nil => trivial
    | cons last earlier =>
      use h.1
      intro hfailure hcleared
      obtain ⟨hlast, hnoted, p, hp⟩ := h.2 hfailure hcleared
      split
      · have hflag : Becomes (fun q _ => q = p ++ [Artifact.outOfDate.fileName]) s.tree
            (s.coordinator.cache.flagOutOfDate s.tree s.now).1 :=
          Cache.becomes_replace hs hp rfl
        refine ⟨hlast, ?_, p, hp.mono hflag.keeps⟩
        apply (Cache.read?_eq_of_becomes hp hflag _).trans hnoted
        simp [Artifact.fileName]
      · exact ⟨hlast, hnoted, p, hp⟩

theorem Remembers.ensureReady {past : List Attempt} (hs : s.tree.Sound) (h : s.Remembers past) :
  s.ensureReady.1.Remembers (s.attempt?.toList ++ past)
  := by
  cases hattempt : s.attempt? with
  | none =>
    unfold attempt? at hattempt
    split at hattempt
    case h_1 g hfresh =>
      rw [ensureReady_of_fresh hfresh]
      apply h
    case h_2 =>
      split at hattempt <;> cases hattempt
  | some last =>
    obtain ⟨hfresh, ⟨s', e, hbuild, rfl⟩ | ⟨s', g, hbuild, rfl⟩⟩ := attempt?_cases hattempt
    · rw [ensureReady_of_error hfresh hbuild]
      constructor
      · intro _
        simp [endBuild, (fail_eq s' e).2.2.2.2.2]
      · intro hfailure
        cases hfailure
    · obtain ⟨hsound, hmade⟩ := sound_rebuild (s := s.beginBuild) hs hbuild
      obtain ⟨p, hp⟩ := hmade ⟨g, rfl⟩
      rw [ensureReady_of_ok hfresh hbuild]
      constructor
      · intro hfailure
        exact absurd rfl hfailure
      · intro _ hcleared
        have hclear : (s'.coordinator.cache.clearError s'.tree).2 = .ok () := by
          cases hresult : (s'.coordinator.cache.clearError s'.tree).2 with
          | error e => simp [hresult, Except.toBool] at hcleared
          | ok u => rfl
        obtain ⟨hnoted, hleads⟩ := lastError?_succeed (g := g) hsound hp hclear
        simp only [endBuild, coordinator_succeed]
        exact ⟨trivial, hnoted, p, hleads⟩

/-- A new service on a models directory whose lock is held by another. -/
def locked : Service where
  coordinator := { store := .memory {}, policy := .pascalAlias, options := {}, cache := ⟨⟨"models"⟩⟩ }
  tree := ⟨[(["models", "models.lock"], .file (.text "")), (["models"], .directory)]⟩
  lockHeld := true
  now := "noon"

end LiveModels.Service
