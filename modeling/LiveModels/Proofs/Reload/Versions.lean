import LiveModels.Proofs.Reload.Coherence

/-!
# Versions increase

As long as the counter of versions does not overflow, the generations that are published have
increasing versions, each of which is announced once and in this order. A module that is compiled has
the version that was reserved for its build as its revision, which is greater than the revision of
every module that was compiled or reused before. A generation that reuses a stored module has a
version greater than the revision of the module.

What carries this is that the counter is greater than everything that was ever stamped or met, and
that a build which has taken a version meets nothing new before it publishes.
-/

namespace LiveModels

namespace Sight

/-- The version or revision that is observed, if any. -/
def stamp? : Sight → Option UInt64
  | .reserved version => some version
  | .reused module | .compiled module => some module.revision
  | .published _ g => some g.version
  | _ => none

/-- Whether an observation is an invalidation. -/
def isInvalidation : Sight → Bool
  | .invalidated _ _ => true
  | _ => false

/-- Whether something may be observed between the reservation of a version and its publication. -/
def isBetween : Sight → Bool
  | .invalidated _ _ | .compiled _ => true
  | _ => false

theorem isBetween_of_isInvalidation (e : Sight) (h : e.isInvalidation = true) :
  e.isBetween = true
  := by
  cases e <;> first | rfl | cases h

end Sight

namespace Staged

variable {l : List Sight} {i j k : Nat} {e : Sight} {v w n n' : UInt64} {c : Service.Capture}
  {origin : Origin} {g : Generation} {stage stage' : Stage} {s s' : Service}

/-! ### The counter -/

/-- The greatest version, after which the counter would begin anew. -/
def lastVersion : UInt64 :=
  0xffffffffffffffff

/-- Whether a version is below a counter, unless the counter cannot count any further. -/
def IsBelow (w n : UInt64) : Prop :=
  w < n ∨ n = lastVersion

theorem toNat_lastVersion :
  lastVersion.toNat = 2 ^ 64 - 1
  := rfl

theorem lt_add_one (h : v ≠ lastVersion) :
  v < v + 1
  := by
  have hlast : v.toNat ≠ lastVersion.toNat := fun heq => h (UInt64.toNat_inj.mp heq)
  rw [toNat_lastVersion] at hlast
  have hlt := v.toNat_lt
  rw [UInt64.lt_iff_toNat_lt, UInt64.toNat_add, UInt64.toNat_one]
  omega

theorem IsBelow.lt (h : IsBelow w n) (hn : n ≠ lastVersion) :
  w < n
  := h.resolve_right hn

theorem IsBelow.trans (h : IsBelow w n) (hle : n ≤ n') :
  IsBelow w n'
  := by
  rcases h with hlt | rfl
  · exact .inl (UInt64.lt_of_lt_of_le hlt hle)
  · right
    apply UInt64.le_antisymm _ hle
    rw [UInt64.le_iff_toNat_le, toNat_lastVersion]
    have hlt := n'.toNat_lt
    omega

/-- A revision is below its successor. -/
theorem isBelow_successor (revision : UInt64) :
  IsBelow revision (Coordinator.successor revision)
  := by
  unfold Coordinator.successor
  split
  case isTrue hlast => exact .inr hlast
  case isFalse hlast => exact .inl (lt_add_one hlast)

theorem le_skipVersion (c : Coordinator) (revision : UInt64) :
  c.nextVersion ≤ (c.skipVersion revision).nextVersion
  := by
  unfold Coordinator.skipVersion
  split
  case isTrue hlt => apply UInt64.le_of_lt hlt
  case isFalse => apply UInt64.le_refl

/-- A revision that has been skipped is below the counter. -/
theorem isBelow_skipVersion (c : Coordinator) (revision : UInt64) :
  IsBelow revision (c.skipVersion revision).nextVersion
  := by
  apply (isBelow_successor revision).trans
  unfold Coordinator.skipVersion
  split
  case isTrue => apply UInt64.le_refl
  case isFalse hle => apply UInt64.not_lt.mp hle

/-! ### Versions that are taken -/

/-- The versions of the generations that have been published, in the order of publication. -/
def publishedVersions (l : List Sight) : List UInt64 :=
  l.filterMap fun
    | .published _ g => some g.version
    | _ => none

/-- Whether a version has been reserved that is greater than all that was observed before, and since
then nothing was observed but what `later` allows. -/
def IsTaken (l : List Sight) (v : UInt64) (later : Sight → Bool) : Prop :=
  ∃ k, At l k (.reserved v) ∧ (∀ j e, At l j e → j < k → ∀ w ∈ e.stamp?, w < v) ∧
    ∀ j e, At l j e → k < j → later e = true

section

variable {later later' : Sight → Bool}

theorem IsTaken.append (h : IsTaken l v later) (he : later e = true) :
  IsTaken (l ++ [e]) v later
  := by
  obtain ⟨k, hk, hbefore, hafter⟩ := h
  refine ⟨k, hk.append e, ?_, ?_⟩
  · intro j e' hj hlt
    apply hbefore j e' (hj.of_lt_length (hlt.trans hk.lt)) hlt
  · intro j e' hj hlt
    rcases at_append_iff.mp hj with hold | ⟨-, rfl⟩
    · apply hafter j e' hold hlt
    · apply he

theorem IsTaken.mono (h : IsTaken l v later) (hlater : ∀ e, later e = true → later' e = true) :
  IsTaken l v later'
  := by
  obtain ⟨k, hk, hbefore, hafter⟩ := h
  refine ⟨k, hk, hbefore, ?_⟩
  intro j e hj hlt
  apply hlater e (hafter j e hj hlt)

/-- A version that is reserved is greater than all that was observed before. -/
theorem isTaken_append_reserved (h : ∀ e ∈ l, ∀ w ∈ e.stamp?, IsBelow w v)
    (hv : v ≠ lastVersion) :
  IsTaken (l ++ [.reserved v]) v later
  := by
  refine ⟨l.length, at_length l _, ?_, ?_⟩
  · intro j e hj hlt w hw
    have hold := hj.of_lt_length hlt
    apply (h e (List.mem_of_getElem? hold) w hw).lt hv
  · intro j e hj hlt
    have hle := hj.lt
    rw [List.length_append, List.length_singleton] at hle
    omega

/-- Whatever was published before a version was taken has a smaller one. -/
theorem IsTaken.lt_of_mem_publishedVersions (h : IsTaken l v Sight.isBetween)
    (hw : w ∈ publishedVersions l) :
  w < v
  := by
  obtain ⟨k, hk, hbefore, hafter⟩ := h
  obtain ⟨e, he, hversion⟩ := List.mem_filterMap.mp hw
  obtain ⟨j, hj⟩ := List.mem_iff_getElem?.mp he
  split at hversion
  case h_2 => cases hversion
  case h_1 origin g =>
    rcases Nat.lt_trichotomy j k with hlt | rfl | hlt
    · apply hbefore j _ hj hlt
      apply hversion
    · cases hj.symm.trans hk
    · cases hafter j _ hj hlt

end

/-- A log up to a position is not changed by what comes after. -/
theorem take_append_of_at (h : At l i e) (e' : Sight) :
  (l ++ [e']).take i = l.take i
  := List.take_append_of_le_length h.lt.le

theorem at_take_iff :
  At (l.take i) j e ↔ j < i ∧ At l j e
  := by
  rw [At, At, List.getElem?_take]
  split
  case isTrue hlt => simp [hlt]
  case isFalse hle => simp [hle]

/-- What is carried by a build that has taken a version. -/
def Carries (l : List Sight) : Stage → Prop
  | .skipped _ module _ => .reused module ∈ l
  | .emitting _ version | .storing _ version _ _ => IsTaken l version Sight.isInvalidation
  | .committing _ version _ _ _ => IsTaken l version Sight.isBetween
  | .produced _ origin p => IsTaken l p.version Sight.isBetween ∧
    (origin = .reused → p.module.revision < p.version)
  | .built origin g => IsTaken l g.version Sight.isBetween ∧
    (origin = .reused → ∃ module, g.module = some module ∧ module.revision < g.version)
  | .standing g => IsTaken l g.version Sight.isBetween
  | _ => True

/-- The version that has been published but not announced yet. -/
def unannounced : Stage → List UInt64
  | .published g | .tidied g | .announcing g => [g.version]
  | _ => []

/-- What a build carries is not changed by an invalidation. -/
theorem Carries.append (h : Carries l stage) (he : e.isInvalidation = true) :
  Carries (l ++ [e]) stage
  := by
  have hbetween := e.isBetween_of_isInvalidation he
  cases stage with
  | skipped => exact List.mem_append_left _ h
  | emitting => exact IsTaken.append h he
  | storing => exact IsTaken.append h he
  | committing => exact IsTaken.append h hbetween
  | produced => exact ⟨h.1.append hbetween, h.2⟩
  | built => exact ⟨h.1.append hbetween, h.2⟩
  | standing => exact IsTaken.append h hbetween
  | idle | begun | cleared | locked | viewed | captured | pointed | found | published | tidied
  | failed | noted | announcing | settled => trivial

/-- A build carries what it has to in the next stage. -/
theorem Work.carries {sight : Option Sight} (h : Work stage s sight stage' s')
    (hc : Carries l stage)
    (hbelow : ∀ e ∈ l, ∀ w ∈ e.stamp?, IsBelow w s.coordinator.nextVersion)
    (hlast : ∀ v, sight = some (.reserved v) → v ≠ lastVersion) :
  Carries (l ++ sight.toList) stage'
  := by
  cases h with
  | skip => exact List.mem_append_right _ (List.mem_singleton.mpr rfl)
  | reserveReuse _ c module source =>
    have hfresh := hlast _ rfl
    use isTaken_append_reserved hbelow hfresh
    intro _
    apply (hbelow (.reused module) hc _ rfl).lt hfresh
  | reserveSource => exact isTaken_append_reserved hbelow (hlast _ rfl)
  | reserveEmission => exact isTaken_append_reserved hbelow (hlast _ rfl)
  | emit | store | commit =>
    rw [Option.toList_none, List.append_nil]
    exact hc
  | compile => exact (IsTaken.mono hc Sight.isBetween_of_isInvalidation).append rfl
  | prune =>
    rw [Option.toList_none, List.append_nil]
    use hc
    intro horigin
    cases horigin
  | register =>
    rw [Option.toList_none, List.append_nil]
    use hc.1
    intro horigin
    exact ⟨_, rfl, hc.2 horigin⟩
  | _ => trivial

/-! ### The invariant -/

/-- What is kept in the course of builds: the counter is above all that was observed, the build under
way carries what it has to, and versions increase. -/
structure Ordered (m : Staged) : Prop where
  below : ∀ e ∈ m.log, ∀ w ∈ e.stamp?, IsBelow w m.service.coordinator.nextVersion
  carries : Carries m.log m.stage
  increasing : (publishedVersions m.log).Pairwise (· < ·)
  announced : m.service.coordinator.announced ++ unannounced m.stage = publishedVersions m.log
  stamped : ∀ i module, At m.log i (.compiled module) →
    IsTaken (m.log.take i) module.revision Sight.isInvalidation
  reused : ∀ i g, At m.log i (.published .reused g) →
    ∃ module, g.module = some module ∧ module.revision < g.version

namespace Ordered

/-- A change of the stage with nothing published. -/
theorem observe (h : Ordered ⟨s, stage, l⟩) (sight : Option Sight)
    (hcarries : Carries (l ++ sight.toList) stage')
    (hcounter : s.coordinator.nextVersion ≤ s'.coordinator.nextVersion)
    (hbelow : ∀ e ∈ sight, ∀ w ∈ e.stamp?, IsBelow w s'.coordinator.nextVersion)
    (hannounced : s'.coordinator.announced ++ unannounced stage' =
      s.coordinator.announced ++ unannounced stage)
    (hpublished : ∀ origin g, sight ≠ some (.published origin g))
    (hcompiled : ∀ module, sight = some (.compiled module) →
      IsTaken l module.revision Sight.isInvalidation) :
  Ordered ⟨s', stage', l ++ sight.toList⟩
  := by
  have hsame : publishedVersions (l ++ sight.toList) = publishedVersions l := by
    cases sight with
    | none => rw [Option.toList_none, List.append_nil]
    | some e =>
      cases e with
      | published origin g => exact absurd rfl (hpublished origin g)
      | _ => simp [publishedVersions]
  constructor
  · intro e he w hw
    rcases List.mem_append.mp he with hold | hnew
    · apply (h.below e hold w hw).trans hcounter
    · apply hbelow e (Option.mem_toList.mp hnew) w hw
  · apply hcarries
  · rw [hsame]
    apply h.increasing
  · rw [hsame]
    apply hannounced.trans h.announced
  · intro i module hi
    cases sight with
    | none =>
      rw [Option.toList_none, List.append_nil] at hi ⊢
      apply h.stamped i module hi
    | some e =>
      rcases at_append_iff.mp hi with hold | ⟨rfl, rfl⟩
      · rw [Option.toList_some, take_append_of_at hold]
        apply h.stamped i module hold
      · rw [Option.toList_some, List.take_left]
        apply hcompiled module rfl
  · intro i g hi
    cases sight with
    | none =>
      rw [Option.toList_none, List.append_nil] at hi
      apply h.reused i g hi
    | some e =>
      apply h.reused i g
      apply hi.of_append
      rintro rfl
      apply hpublished _ _ rfl

/-- A generation is published with a version that was taken for it. -/
theorem publish (h : Ordered ⟨s, stage, l⟩) (hstage : unannounced stage = [])
    (hstage' : unannounced stage' = [g.version])
    (hcarries : Carries (l ++ [.published origin g]) stage')
    (hcounter : s'.coordinator.nextVersion = s.coordinator.nextVersion)
    (hannounced : s'.coordinator.announced = s.coordinator.announced)
    (htaken : IsTaken l g.version Sight.isBetween)
    (hreused : origin = .reused → ∃ module, g.module = some module ∧ module.revision < g.version) :
  Ordered ⟨s', stage', l ++ [.published origin g]⟩
  := by
  have hversions : publishedVersions (l ++ [.published origin g]) =
      publishedVersions l ++ [g.version] := by
    simp [publishedVersions]
  constructor
  · intro e he w hw
    rw [hcounter]
    rcases List.mem_append.mp he with hold | hnew
    · apply h.below e hold w hw
    · obtain rfl := List.mem_singleton.mp hnew
      cases hw
      obtain ⟨k, hk, -⟩ := htaken
      apply h.below _ (List.mem_of_getElem? hk) _ rfl
  · apply hcarries
  · rw [hversions, List.pairwise_append]
    refine ⟨h.increasing, List.pairwise_singleton _ _, ?_⟩
    intro w hw v hv
    rw [List.mem_singleton.mp hv]
    apply htaken.lt_of_mem_publishedVersions hw
  · rw [hversions, hannounced, hstage', ← h.announced, hstage, List.append_nil]
  · intro i module hi
    have hold := hi.of_append (by simp)
    rw [take_append_of_at hold]
    apply h.stamped i module hold
  · intro i g' hi
    rcases at_append_iff.mp hi with hold | ⟨-, heq⟩
    · apply h.reused i g' hold
    · cases heq
      apply hreused rfl

/-- A module is stamped with the version that the build has taken. -/
theorem isTaken_of_compile {c : Service.Capture} {version : UInt64} {job : Cache.Job} {tree : Tree}
    {module : Module} (h : Ordered ⟨s, .storing c version job [], l⟩)
    (hknows : Knows l (.storing c version job []))
    (hcompile : Manifest.compile s.tree s.coordinator.options.moduleName job.source
      (s.coordinator.cache.output job) = (tree, .ok module)) :
  IsTaken l module.revision Sight.isInvalidation
  := by
  have hcompiled := isCompiled_of_compile hknows.2.2 hcompile
  rw [hcompiled.revision]
  exact h.carries

/-- A step of a build up to its result. -/
theorem work {sight : Option Sight} (h : Ordered ⟨s, stage, l⟩) (hknows : Knows l stage)
    (hwork : Work stage s sight stage' s')
    (hlast : ∀ v, sight = some (.reserved v) → v ≠ lastVersion) :
  Ordered ⟨s', stage', l ++ sight.toList⟩
  := by
  apply h.observe sight (hwork.carries h.carries h.below hlast)
  · cases hwork with
    | skip => apply le_skipVersion
    | reserveReuse | reserveSource | failSource | reserveEmission =>
      exact UInt64.le_of_lt (lt_add_one (hlast _ rfl))
    | _ => exact UInt64.le_refl _
  · intro e he w hw
    cases hwork with
    | skip =>
      cases he
      cases hw
      apply isBelow_skipVersion
    | reserveReuse | reserveSource | failSource | reserveEmission =>
      cases he
      cases hw
      exact .inl (lt_add_one (hlast _ rfl))
    | compile hcompile =>
      cases he
      cases hw
      obtain ⟨k, hk, -⟩ := h.isTaken_of_compile hknows hcompile
      apply h.below _ (List.mem_of_getElem? hk) _ rfl
    | read =>
      cases he
      cases hw
    | _ => cases he
  · cases hwork <;> rfl
  · intro origin g hsight
    cases hwork <;> cases hsight
  · intro module hsight
    cases hwork with
    | compile hcompile =>
      cases hsight
      apply h.isTaken_of_compile hknows hcompile
    | _ => cases hsight

/-- A change of the stage in which nothing with a version is observed, and none is taken or
announced. -/
theorem rest (h : Ordered ⟨s, stage, l⟩) (sight : Option Sight)
    (hcarries : Carries (l ++ sight.toList) stage')
    (hcounter : s'.coordinator.nextVersion = s.coordinator.nextVersion)
    (hannounced : s'.coordinator.announced ++ unannounced stage' =
      s.coordinator.announced ++ unannounced stage)
    (hstamp : ∀ e ∈ sight, e.stamp? = none) :
  Ordered ⟨s', stage', l ++ sight.toList⟩
  := by
  have hle : s.coordinator.nextVersion ≤ s'.coordinator.nextVersion := by
    rw [hcounter]
    apply UInt64.le_refl
  apply h.observe sight hcarries hle _ hannounced
  · rintro origin g rfl
    cases hstamp _ rfl
  · rintro module rfl
    cases hstamp _ rfl
  · intro e he w hw
    rw [hstamp e he] at hw
    cases hw

theorem move {sight : Option Sight} (h : Ordered ⟨s, stage, l⟩) (hknows : Knows l stage)
    (hmove : Move stage s sight stage' s')
    (hlast : ∀ v, sight = some (.reserved v) → v ≠ lastVersion) :
  Ordered ⟨s', stage', l ++ sight.toList⟩
  := by
  cases hmove with
  | begin => exact h.rest none trivial rfl rfl (by simp)
  | clear => exact h.rest (some _) trivial rfl rfl (by simp [Sight.stamp?])
  | lock => exact h.rest (some _) trivial rfl rfl (by simp [Sight.stamp?])
  | failLock => exact h.rest (some _) trivial rfl rfl (by simp [Sight.stamp?])
  | work hwork => exact h.work hknows hwork hlast
  | call =>
    have hcarries : Carries (l ++ []) stage := by
      rw [List.append_nil]
      apply h.carries
    exact h.rest none hcarries rfl rfl (by simp)
  | publish =>
    exact h.publish rfl rfl trivial rfl rfl h.carries.1 h.carries.2
  | tidy => exact h.rest none trivial rfl rfl (by simp)
  | unflag g =>
    refine h.rest (some _) trivial ?_ ?_ ?_
    · rw [Service.clearOutOfDate_eq]
    · rw [Service.clearOutOfDate_eq]
      rfl
    · simp [Sight.stamp?]
  | note => exact h.rest none trivial rfl rfl (by simp)
  | keep => exact h.rest none trivial rfl rfl (by simp)
  | degrade =>
    have hnext := lt_add_one (hlast _ rfl)
    apply h.observe (some (.reserved _))
    · exact isTaken_append_reserved h.below (hlast _ rfl)
    · exact UInt64.le_of_lt hnext
    · intro e he w hw
      cases he
      cases hw
      exact .inl hnext
    · rfl
    · simp
    · simp
  | standIn =>
    refine h.publish rfl rfl trivial rfl rfl h.carries ?_
    intro horigin
    cases horigin
  | announce g =>
    refine h.rest none trivial rfl ?_ (by simp)
    simp [unannounced]
  | finish => exact h.rest none trivial rfl rfl (by simp)

theorem step {r : Cache → Tree → Tree → Prop} {m m' : Staged} (h : Ordered m)
    (hknows : Knows m.log m.stage) (hstep : Step r m m')
    (hlast : ∀ v, .reserved v ∈ m'.log → v ≠ lastVersion) :
  Ordered m'
  := by
  cases hstep with
  | move hmove =>
    apply h.move hknows hmove
    rintro v rfl
    apply hlast v (List.mem_append_right _ (List.mem_singleton.mpr rfl))
  | invalidate =>
    apply h.rest (some (.invalidated _ _))
    · apply h.carries.append rfl
    · rw [Service.coordinator_invalidate]
    · rw [Service.coordinator_invalidate]
    · simp [Sight.stamp?]
  | elsewhere => exact ⟨h.below, h.carries, h.increasing, h.announced, h.stamped, h.reused⟩

end Ordered

theorem Reached.ordered {r : Cache → Tree → Tree → Prop} {m : Staged} (h : Reached r s m)
    (hlast : ∀ v, .reserved v ∈ m.log → v ≠ lastVersion) :
  Ordered m
  := by
  induction h with
  | start hnew =>
    obtain ⟨store, policy, options, cache, script, hnew⟩ := hnew
    constructor
    · simp
    · trivial
    · apply List.Pairwise.nil
    · rw [hnew]
      rfl
    · intro i module hi
      cases hi
    · intro i g hi
      cases hi
  | step h hstep ih =>
    apply (ih _).step h.coherent.knows hstep hlast
    intro v hv
    apply hlast v (hstep.mem_log hv)

/-! ### Versions and revisions -/

/-- Unless the counter reaches its end: the versions of published generations increase, and all but
the last one have been announced in this order, the last one too when no build is under way; a module
that is compiled has the version that its build has taken as its revision, which is greater than the
revisions of all modules compiled or reused before; and a generation that reuses a module has a
version greater than the revision of the module. -/
theorem Reached.versions_increase {r : Cache → Tree → Tree → Prop} {m : Staged}
    (h : Reached r s m) (hlast : ∀ v, .reserved v ∈ m.log → v ≠ lastVersion) :
  (publishedVersions m.log).Pairwise (· < ·) ∧
    m.service.coordinator.announced ++ unannounced m.stage = publishedVersions m.log ∧
    (∀ i module, At m.log i (.compiled module) →
      (∃ k, k < i ∧ At m.log k (.reserved module.revision) ∧
        ∀ j, k < j → j < i → ¬ At m.log j .cleared ∧ ∀ v, ¬ At m.log j (.reserved v)) ∧
      ∀ j module', j < i → (At m.log j (.compiled module') ∨ At m.log j (.reused module')) →
        module'.revision < module.revision) ∧
    (∀ i g, At m.log i (.published .reused g) →
      ∃ module, g.module = some module ∧ module.revision < g.version)
  := by
  have hordered := h.ordered hlast
  refine ⟨hordered.increasing, hordered.announced, ?_, hordered.reused⟩
  intro i module hi
  obtain ⟨k, hk, hbefore, hafter⟩ := hordered.stamped i module hi
  rw [at_take_iff] at hk
  have hearlier : ∀ j e, At m.log j e → j < i → e.isInvalidation = false →
      e ≠ .reserved module.revision → j < k := by
    intro j e hj hji hkind hne
    rcases Nat.lt_trichotomy j k with hlt | rfl | hlt
    · apply hlt
    · exact absurd (Option.some.inj (hj.symm.trans hk.2)) hne
    · have hlater := hafter j e (at_take_iff.mpr ⟨hji, hj⟩) hlt
      rw [hkind] at hlater
      cases hlater
  constructor
  · refine ⟨k, hk.1, hk.2, ?_⟩
    intro j hkj hji
    constructor
    · intro hj
      cases hafter j _ (at_take_iff.mpr ⟨hji, hj⟩) hkj
    · intro v hj
      cases hafter j _ (at_take_iff.mpr ⟨hji, hj⟩) hkj
  · intro j module' hji hj
    rcases hj with hj | hj
    · have hjk := hearlier j _ hj hji rfl (by simp)
      apply hbefore j _ (at_take_iff.mpr ⟨hji, hj⟩) hjk _ rfl
    · have hjk := hearlier j _ hj hji rfl (by simp)
      apply hbefore j _ (at_take_iff.mpr ⟨hji, hj⟩) hjk _ rfl

/-- The generation of a second build, which reuses the module again. -/
def shelvedSuccessor : Generation :=
  generation shelvedCapture ⟨shelvedModule, "", 8⟩ .empty "noon"

/-- The service after its second build. -/
def shelvedTwice : Service :=
  ((shelvedSettled.invalidate.beginBuild.reuseModule shelvedModule "").1.succeed
    shelvedSuccessor).endBuild

/-- What is observed of two builds, with an invalidation between them. -/
def shelvedTwiceLog : List Sight :=
  renewal ++ [.cleared, .entered (.ok ()), .read shelvedCapture, .reused shelvedModule, .reserved 8,
    .published .reused shelvedSuccessor, .succeeded (.ok ())]

theorem reached_shelvedTwice {r : Cache → Tree → Tree → Prop} :
  Reached r shelved ⟨shelvedTwice, .idle, shelvedTwiceLog⟩
  := by
  have hleads : shelvedSettled.invalidate.tree.Leads ⟨"models"⟩ ["models"] := by
    constructor
    · decide +kernel
    · decide +kernel
  have hnode : shelvedSettled.invalidate.tree.node
      (shelvedSettled.invalidate.coordinator.cache.path .lock) = .ok (.file (.text "")) := by
    decide +kernel
  have hfiles : shelvedSettled.invalidate.coordinator.cache.userFiles
      shelvedSettled.invalidate.tree = .ok [] := by
    apply Cache.userFiles_eq hleads (by decide) (by decide)
    decide +kernel
  have hread : Reached r shelved ⟨shelvedSettled.invalidate.beginBuild, .captured shelvedCapture,
      renewal ++ [.cleared, .entered (.ok ()), .read shelvedCapture]⟩ :=
    reached_invalidate_shelvedSettled.capture (by decide +kernel)
      (Cache.acquireLock_of_node hleads hnode) (build_memory_nil _) hfiles rfl
  have hpath : shelvedSettled.invalidate.beginBuild.coordinator.cache.modulePath?
      shelvedSettled.invalidate.beginBuild.tree = some ⟨"models/old.module"⟩ := by
    decide +kernel
  have hbundle : shelvedSettled.invalidate.beginBuild.coordinator.cache.bundleFor?
      shelvedSettled.invalidate.beginBuild.tree shelvedCapture.fingerprint = none := by
    decide +kernel
  have hregistry : Registry.build shelvedModule = .ok .empty := rfl
  have hversion : (shelvedSettled.invalidate.beginBuild.coordinator.skipVersion
      shelvedModule.revision).nextVersion = 8 := by
    decide +kernel
  have hbuilt := hread.reuse (by decide +kernel) hpath hbundle (moduleFor?_shelved (by decide +kernel))
    hregistry hversion
  rw [List.append_assoc] at hbuilt
  have hremoved : unflagging (Service.clearError
      { (shelvedSettled.invalidate.beginBuild.reuseModule shelvedModule "").1 with coordinator :=
        { (shelvedSettled.invalidate.beginBuild.reuseModule shelvedModule "").1.coordinator with
          current := some shelvedSuccessor } }) = .ok () := by
    decide +kernel
  exact hbuilt.succeed hremoved

/-- Two builds that reuse a module of the revision 6 publish the versions 7 and 8, and announce them
in this order. -/
theorem shelvedTwice_versions_increase :
  Reached (fun _ _ _ => True) shelved ⟨shelvedTwice, .idle, shelvedTwiceLog⟩ ∧
    (∀ v, .reserved v ∈ shelvedTwiceLog → v ≠ lastVersion) ∧
    publishedVersions shelvedTwiceLog = [7, 8] ∧
    (publishedVersions shelvedTwiceLog).Pairwise (· < ·) ∧
    shelvedTwice.coordinator.announced = [7, 8] ∧
    ∀ g ∈ [shelvedGeneration, shelvedSuccessor],
      ∃ module, g.module = some module ∧ module.revision < g.version
  := by
  have hlast : ∀ v, .reserved v ∈ shelvedTwiceLog → v ≠ lastVersion := by
    intro v hv
    obtain rfl | rfl : v = 7 ∨ v = 8 := by
      simpa [shelvedTwiceLog, renewal, shelvedLog] using hv
    · decide
    · decide
  obtain ⟨hincreasing, hannounced, -, hreused⟩ :=
    (reached_shelvedTwice (r := fun _ _ _ => True)).versions_increase hlast
  have hpublished : publishedVersions shelvedTwiceLog = [7, 8] := rfl
  refine ⟨reached_shelvedTwice, hlast, hpublished, hincreasing, ?_, ?_⟩
  · rw [← hpublished, ← hannounced]
    apply (List.append_nil _).symm
  · intro g hg
    simp only [List.mem_cons, List.not_mem_nil, or_false] at hg
    rcases hg with rfl | rfl
    · apply hreused 5 shelvedGeneration rfl
    · apply hreused 13 shelvedSuccessor rfl

end Staged

end LiveModels
