import LiveModels.Proofs.Reload.Versions

/-!
# Stored bundles that are compiled again

A stored bundle is compiled again as the next version of the coordinator. The coordinator looks at
the fingerprint in the header of the bundle, but not at the revision, which it does not skip as it
does the revision of a stored module. The new revision is therefore greater than the old one only if
the coordinator counts beyond the old one anyway. It does if it has stamped or met the old one
itself; a new coordinator gives the revision 1, whatever the old one is.
-/

namespace LiveModels.Staged

variable {l news : List Sight} {c : Service.Capture} {text : String} {v : UInt64} {module : Module}
  {stage stage' : Stage} {s s' s₀ : Service} {r : Cache → Tree → Tree → Prop}

/-! ### The counter of a new coordinator -/

theorem Move.nextVersion_eq {sight : Option Sight} (h : Move stage s sight stage' s')
    (hstamp : ∀ e ∈ sight, e.stamp? = none) :
  s'.coordinator.nextVersion = s.coordinator.nextVersion
  := by
  cases h with
  | work hwork =>
    cases hwork with
    | skip => cases hstamp _ rfl
    | reserveReuse | reserveSource | failSource | reserveEmission => cases hstamp _ rfl
    | _ => rfl
  | degrade => cases hstamp _ rfl
  | unflag => rw [Service.clearOutOfDate_eq]
  | _ => rfl

theorem nextVersion_invalidate (s : Service) :
  s.invalidate.coordinator.nextVersion = s.coordinator.nextVersion
  := by
  rw [Service.coordinator_invalidate]

/-- A coordinator that has taken and met no version yet begins with the first one. -/
theorem Reached.nextVersion_eq_one {m : Staged} (h : Reached r s₀ m)
    (hstamp : ∀ e ∈ m.log, e.stamp? = none) :
  m.service.coordinator.nextVersion = 1
  := by
  induction h with
  | start hnew =>
    obtain ⟨store, policy, options, cache, script, hnew⟩ := hnew
    rw [hnew]
  | step h hstep ih =>
    have hbefore := ih fun e he => hstamp e (hstep.mem_log he)
    cases hstep with
    | move hmove =>
      rw [← hbefore]
      apply hmove.nextVersion_eq
      intro e he
      apply hstamp e (List.mem_append_right _ (Option.mem_toList.mpr he))
    | invalidate => exact (nextVersion_invalidate _).trans hbefore
    | elsewhere => exact hbefore

/-! ### A build that has found a bundle -/

/-- Whether a build that has found a bundle, when the counter was at `v`, can be in a stage: it has
not taken a version yet, it stores the bundle with this version, or its module is compiled or it has
failed. Another build has not cleared the flag of staleness yet. -/
def Restamps (c : Service.Capture) (text : String) (v : UInt64) (s : Service) : Stage → Prop
  | .found c' lookup => c' = c ∧ lookup = .source text ∧ s.coordinator.nextVersion = v
  | .storing _ _ job _ => Bundle.header? job.source = some ⟨c.fingerprint, v⟩
  | .cleared | .locked | .viewed _ | .captured _ | .pointed _ _ _ | .skipped _ _ _
  | .emitting _ _ => False
  | _ => True

/-- Only the counter of the service matters. -/
theorem Restamps.of_nextVersion_eq (h : Restamps c text v s stage)
    (hcounter : s'.coordinator.nextVersion = s.coordinator.nextVersion) :
  Restamps c text v s' stage
  := by
  cases stage with
  | found c' lookup => exact ⟨h.1, h.2.1, hcounter.trans h.2.2⟩
  | _ => exact h

/-- A build goes on with the version that it takes, and compiles as this version. -/
theorem Work.restamps {sight : Option Sight} (hwork : Work stage s sight stage' s')
    (h : Restamps c text v s stage) (htext : IsFor text c.fingerprint) :
  Restamps c text v s' stage' ∧ ∀ module, sight = some (.compiled module) → module.revision = v
  := by
  cases hwork with
  | view | failView | read | failRead | lackMarker | lackModule | point | load | failLoad
  | reserveReuse | emit | failEmit => exact h.elim
  | skip => cases h.2.1
  | reserveEmission => cases h.2.1
  | reserveSource hjob =>
    obtain ⟨rfl, hlookup, rfl⟩ := h
    cases hlookup
    exact ⟨(header?_ofSource htext hjob).2, by simp⟩
  | store => exact ⟨h, by simp⟩
  | compile hcompile =>
    use trivial
    intro module hsight
    cases hsight
    exact (isCompiled_of_compile h hcompile).revision
  | failSource | failStore | reject | failCompile | commit | failCommit | prune | register
  | misshape => exact ⟨trivial, by simp⟩

theorem Move.restamps {sight : Option Sight} (hmove : Move stage s sight stage' s')
    (h : Restamps c text v s stage) (htext : IsFor text c.fingerprint)
    (hbuild : sight ≠ some .cleared) :
  Restamps c text v s' stage' ∧ ∀ module, sight = some (.compiled module) → module.revision = v
  := by
  cases hmove with
  | clear => exact absurd rfl hbuild
  | lock | failLock => exact h.elim
  | work hwork => exact hwork.restamps h htext
  | call => exact ⟨h.of_nextVersion_eq rfl, by simp⟩
  | begin | publish | tidy | unflag | note | keep | degrade | standIn | announce | finish =>
    exact ⟨trivial, by simp⟩

/-- Until another build clears the flag of staleness, all that is compiled is the bundle. -/
theorem restamps_of_steps {m m' : Staged} (htext : IsFor text c.fingerprint)
    (h : Restamps c text v m.service m.stage)
    (hsteps : Relation.ReflTransGen (Step r) m m') :
  ∃ news, m'.log = m.log ++ news ∧ (.cleared ∉ news →
    Restamps c text v m'.service m'.stage ∧ ∀ module, .compiled module ∈ news → module.revision = v)
  := by
  induction hsteps with
  | refl =>
    use [], (List.append_nil _).symm
    intro _
    use h
    simp
  | @tail m₁ m₂ _ hstep ih =>
    obtain ⟨news, hlog, hnews⟩ := ih
    cases hstep with
    | @move sight stage s hmove =>
      use news ++ sight.toList
      rw [hlog, List.append_assoc]
      use rfl
      intro hbuild
      rw [List.mem_append, not_or] at hbuild
      obtain ⟨hrestamps, hcompiled⟩ := hnews hbuild.1
      obtain ⟨hnext, hmodule⟩ := hmove.restamps hrestamps htext
        fun hsight => hbuild.2 (Option.mem_toList.mpr hsight)
      use hnext
      intro module hmem
      rcases List.mem_append.mp hmem with hold | hnew
      · apply hcompiled module hold
      · apply hmodule module (Option.mem_toList.mp hnew)
    | invalidate =>
      use news ++ [.invalidated m₁.service.coordinator.stale (flagging m₁.service)]
      dsimp only
      rw [hlog, List.append_assoc]
      use rfl
      intro hbuild
      obtain ⟨hrestamps, hcompiled⟩ := hnews fun hcleared => hbuild (List.mem_append_left _ hcleared)
      use hrestamps.of_nextVersion_eq (nextVersion_invalidate _)
      intro module hmem
      apply hcompiled module
      simpa using hmem
    | elsewhere =>
      use news, hlog
      intro hbuild
      obtain ⟨hrestamps, hcompiled⟩ := hnews hbuild
      use hrestamps.of_nextVersion_eq rfl, hcompiled

/-! ### Revisions -/

/-- A bundle that is found and compiled again gets the version at which the counter stands as its
revision. This is greater than every version and revision that the coordinator has stamped or met,
unless the counter reaches its end, and greater than the revision of the bundle exactly if the
counter is; for a new coordinator, exactly if the revision of the bundle is 0. -/
theorem Reached.restamps_as_next (h : Reached r s₀ ⟨s, .found c (.source text), l⟩)
    (hsteps : Relation.ReflTransGen (Step r) ⟨s, .found c (.source text), l⟩
      ⟨s', stage', l ++ news⟩)
    (hbuild : .cleared ∉ news) (hcompiled : .compiled module ∈ news)
    (hlast : ∀ v, .reserved v ∈ l ++ news → v ≠ lastVersion) :
  ∃ header, Bundle.header? text = some header ∧ header.fingerprint = c.fingerprint
    ∧ module.revision = s.coordinator.nextVersion
    ∧ (∀ e ∈ l, ∀ w ∈ e.stamp?, w < module.revision)
    ∧ (header.revision < module.revision ↔ header.revision < s.coordinator.nextVersion)
    ∧ ((∀ e ∈ l, e.stamp? = none) → (header.revision < module.revision ↔ header.revision = 0))
  := by
  have htext : IsFor text c.fingerprint := h.coherent.knows.2
  obtain ⟨header, hheader, hfingerprint⟩ := Option.map_eq_some_iff.mp htext
  have hfound : Restamps c text s.coordinator.nextVersion s (.found c (.source text)) :=
    ⟨rfl, rfl, rfl⟩
  obtain ⟨news', hlog, hnews⟩ := restamps_of_steps htext hfound hsteps
  obtain rfl : news = news' := List.append_cancel_left hlog
  have hrevision := (hnews hbuild).2 module hcompiled
  have hordered := h.ordered fun v hv => hlast v (List.mem_append_left _ hv)
  -- the version that was taken has been reserved, so that it is not the last one
  have hmost : module.revision ≠ lastVersion := by
    obtain ⟨i, hi⟩ := List.mem_iff_getElem?.mp (List.mem_append_right l hcompiled)
    obtain ⟨k, hk, -⟩ := ((h.trans hsteps).ordered hlast).stamped i module hi
    apply hlast module.revision (List.mem_of_getElem? (at_take_iff.mp hk).2)
  have hbelow : ∀ e ∈ l, ∀ w ∈ e.stamp?, w < module.revision := by
    intro e he w hw
    have hw' := hordered.below e he w hw
    rw [← hrevision] at hw'
    apply hw'.lt hmost
  refine ⟨header, hheader, hfingerprint, hrevision, hbelow, ?_, ?_⟩
  · rw [hrevision]
  · intro hstamp
    have hone := h.nextVersion_eq_one hstamp
    rw [hrevision, hone, UInt64.lt_iff_toNat_lt, ← UInt64.toNat_inj]
    exact Nat.lt_one_iff

/-! ### A bundle from before -/

/-- A bundle of the revision 5. -/
def heirloom : String :=
  "// fingerprint: 00001505\n// revision: 5\n"

/-- A new service on a models directory that holds the bundle, but no module. -/
def inheriting : Service :=
  { shelved with tree := ⟨[
    (["models"], .directory),
    (["models", "models.hash"], .file (.text "00001505")),
    (["models", "all.generated.rs"], .file (.text heirloom))]⟩ }

/-- The service with the lock of the models directory, in its first build. -/
def inheritingEntered : Service :=
  { inheriting.beginBuild with
    tree := (inheriting.coordinator.cache.acquireLock inheriting.tree false
      inheriting.coordinator.options.lockTimeout).1 }

/-- The job of compiling the bundle again. -/
def inheritingJob : Cache.Job :=
  ⟨"00001505", 1, "// fingerprint: 00001505\n// revision: 1\n", none⟩

/-- The service that has taken the version and replaced the bundle. -/
def inheritingStaged : Service :=
  { inheritingEntered.reserveVersion.2 with
    tree := (inheritingEntered.coordinator.cache.replace inheritingEntered.tree .bundle
      inheritingJob.source).1 }

/-- The module that is compiled from the bundle. -/
def inheritingModule : Module :=
  { shelf with revision := 1 }.toModule ⟨"models/Compiled/generated.00001505.1.module"⟩

/-- What is observed before the bundle is found. -/
def inheritingLog : List Sight :=
  [.cleared, .entered (.ok ()), .read shelvedCapture]

theorem inheriting_found :
  Reached r inheriting
    ⟨inheritingEntered, .found shelvedCapture (.source heirloom), inheritingLog⟩
  := by
  have hlock : inheriting.coordinator.cache.acquireLock inheriting.tree inheriting.lockHeld
      inheriting.coordinator.options.lockTimeout = (inheritingEntered.tree, .ok ()) := by
    apply Prod.ext
    · rfl
    · decide +kernel
  have hfiles : inheritingEntered.coordinator.cache.userFiles inheritingEntered.tree = .ok [] := by
    have hleads : inheritingEntered.tree.Leads ⟨"models"⟩ ["models"] := by
      constructor
      · decide +kernel
      · decide +kernel
    apply Cache.userFiles_eq hleads (by decide) (by decide)
    decide +kernel
  have hbundle : Cache.choose none (inheritingEntered.coordinator.cache.bundleFor?
      inheritingEntered.tree shelvedCapture.fingerprint) = .source heirloom := by
    have hfound : inheritingEntered.coordinator.cache.bundleFor? inheritingEntered.tree
        shelvedCapture.fingerprint = some heirloom := by
      decide +kernel
    rw [hfound]
    rfl
  have hstart : Reached r inheriting ⟨inheriting, .idle, []⟩ := .start ⟨_, _, _, _, _, rfl⟩
  have hread : Reached r inheriting
      ⟨inheritingEntered, .captured shelvedCapture, inheritingLog⟩ :=
    hstart.capture (by decide +kernel) hlock (build_memory_nil _) hfiles rfl
  have hfound := hread.work (.lackModule (by decide +kernel) (by decide +kernel))
  rw [hbundle] at hfound
  exact hfound

theorem steps_work {m : Staged} {sight : Option Sight}
    (h : Relation.ReflTransGen (Step r) m ⟨s, stage, l⟩) (hwork : Work stage s sight stage' s') :
  Relation.ReflTransGen (Step r) m ⟨s', stage', l ++ sight.toList⟩
  := h.tail (.move (.work hwork))

theorem inheriting_steps :
  ∃ s', Relation.ReflTransGen (Step r)
    ⟨inheritingEntered, .found shelvedCapture (.source heirloom), inheritingLog⟩
    ⟨s', .committing shelvedCapture 1 inheritingJob inheritingModule inheritingJob.commit,
      inheritingLog ++ [.reserved 1, .compiled inheritingModule]⟩
  := by
  have hjob : Cache.Job.ofSource shelvedCapture.fingerprint
      (Bundle.restamp heirloom inheritingEntered.coordinator.nextVersion) = .ok inheritingJob := by
    decide +kernel
  have hstore : Cache.Step.run inheritingEntered.coordinator.cache inheritingEntered.tree
      ⟨.bundle, inheritingJob.source⟩ = (inheritingStaged.tree, .ok ()) := by
    apply Prod.ext
    · rfl
    · decide +kernel
  have hcompile : Manifest.compile inheritingStaged.tree
      inheritingStaged.coordinator.options.moduleName inheritingJob.source
      (inheritingStaged.coordinator.cache.output inheritingJob) =
      ((Manifest.compile inheritingStaged.tree inheritingStaged.coordinator.options.moduleName
        inheritingJob.source (inheritingStaged.coordinator.cache.output inheritingJob)).1,
        .ok inheritingModule) := by
    have hmanifest : Manifest.ofSource inheritingStaged.coordinator.options.moduleName
        inheritingJob.source = .ok { shelf with revision := 1 } := by
      decide +kernel
    have houtput : inheritingStaged.coordinator.cache.output inheritingJob =
        ⟨"models/Compiled/generated.00001505.1.module"⟩ := by
      decide +kernel
    rw [inheritingModule, ← houtput]
    apply Manifest.compile_eq_of_ofSource hmanifest
    decide +kernel
  have hreserved := steps_work (r := r) (l := inheritingLog) .refl (.reserveSource hjob)
  have hstored := steps_work hreserved (.store hstore)
  exact ⟨_, steps_work hstored (.compile hcompile)⟩

/-- The new coordinator compiles the bundle of the revision 5 as the revision 1. -/
theorem inheriting_restamps :
  Bundle.header? heirloom = some ⟨"00001505", 5⟩
    ∧ Reached (fun _ _ _ => True) inheriting
      ⟨inheritingEntered, .found shelvedCapture (.source heirloom), inheritingLog⟩
    ∧ inheritingModule.revision = inheritingEntered.coordinator.nextVersion
    ∧ ¬ 5 < inheritingModule.revision
  := by
  have hheader : Bundle.header? heirloom = some ⟨"00001505", 5⟩ := by
    decide +kernel
  have hlast : ∀ v, .reserved v ∈ inheritingLog ++ [.reserved 1, .compiled inheritingModule] →
      v ≠ lastVersion := by
    intro v hv
    have hone : v = 1 := by
      simpa [inheritingLog] using hv
    rw [hone]
    decide
  obtain ⟨s', hsteps⟩ := inheriting_steps (r := fun _ _ _ => True)
  have hcompiled : .compiled inheritingModule ∈ [Sight.reserved 1, .compiled inheritingModule] := by
    simp
  obtain ⟨header, hsame, -, hrevision, -, -, hnew⟩ :=
    inheriting_found.restamps_as_next hsteps (by simp) hcompiled hlast
  rw [hheader, Option.some.injEq] at hsame
  subst hsame
  refine ⟨hheader, inheriting_found, hrevision, ?_⟩
  rw [hnew (by simp [inheritingLog, Sight.stamp?])]
  decide

end LiveModels.Staged
