import LiveModels.Proofs.Reload.Coherence
import Mathlib.Tactic.IntervalCases

/-!
# The out-of-date flag tells the truth

As long as artifacts can be written, the out-of-date flag exists if and only if an invalidation that
found the models not stale came after the last build that succeeded had cleared the flag of
staleness. So between builds, if the last one succeeded, the models are noted to be out of date
exactly when they are stale.

What carries this is that after the first clearing the models are stale if and only if such an
invalidation came after the last clearing, whether or not that build has ended. A build that succeeds
makes its own clearing the last successful one, and removes the flag exactly if the models are not
stale. A build counts as one that succeeded once it is through with the flag.
-/

namespace LiveModels

open LiveModels.Tree

namespace Cache

variable {c : Cache} {t t' : Tree} {p : Place}

/-! ### The flag among the artifacts -/

/-- The flag stays as it is if its place is spared. -/
theorem isOutOfDate_eq_of_becomes (hp : t.Leads c.directory p)
    (h : Becomes (fun q _ => q ≠ p ++ [Artifact.outOfDate.fileName]) t t') :
  c.isOutOfDate t' = c.isOutOfDate t
  := by
  have hsame : t'.get? (p ++ [Artifact.outOfDate.fileName]) =
      t.get? (p ++ [Artifact.outOfDate.fileName]) := by
    apply h.get?_eq
    simp
  have hp' : t'.Leads c.directory p := hp.mono h.keeps
  rw [Bool.eq_iff_iff, Service.isOutOfDate_iff, Service.isOutOfDate_iff]
  constructor
  · rintro ⟨hfault, q, hq, hget⟩
    rw [hp'.eq hq, hsame] at hget
    exact ⟨hfault, p, hp, hget⟩
  · rintro ⟨hfault, q, hq, hget⟩
    rw [hp.eq hq, ← hsame] at hget
    exact ⟨hfault, p, hp', hget⟩

/-- A flag that could be set is there. -/
theorem isOutOfDate_flagOutOfDate {now : String} (h : (c.flagOutOfDate t now).2 = .ok ()) :
  c.isOutOfDate (c.flagOutOfDate t now).1 = true
  := by
  rw [flagOutOfDate] at h ⊢
  unfold replace at h ⊢
  split at h
  · cases h
  case h_2 =>
    split at h
    · cases h
    case h_2 t' hwrite =>
      obtain ⟨hfault, -, q, hq, hfree, rfl⟩ :=
        exists_leads_of_write Artifact.outOfDate.isName.toIsStep hwrite
      apply Service.isOutOfDate_iff.mpr
      use hfault, q
      constructor
      · apply hq.mono
        intro r hr
        rw [get?_set_of_ne _ (by rintro rfl; exact hfree hr), hr]
      · rw [get?_set_self _ (by simp)]
        simp

/-- A flag that could be removed is not there. -/
theorem isOutOfDate_clearOutOfDate (hs : t.Sound) (hp : t.Leads c.directory p)
    (h : (c.clearOutOfDate t).2 = .ok ()) :
  c.isOutOfDate (c.clearOutOfDate t).1 = false
  := by
  rw [Bool.eq_false_iff, Ne, Service.isOutOfDate_iff]
  rintro ⟨hfault, q, hq, hget⟩
  rw [clearOutOfDate] at h hq hget
  have hbecomes : Becomes (fun _ _ => True) t (c.discard t .outOfDate).1 :=
    becomes_discard hs hp trivial
  rw [(hp.mono hbecomes.keeps).eq hq] at hget
  unfold discard at h hget
  split at h
  case h_1 t' hremove =>
    simp only [hremove] at hget
    obtain ⟨r, content, hr, hfile, rfl⟩ :=
      exists_leads_of_removeFile Artifact.outOfDate.isName.toIsStep hremove
    rw [hp.eq hr, hs.get?_erase_self (by simp)] at hget
    exact hget rfl
  case h_2 hmissing =>
    simp only [hmissing] at hget
    rw [path, hp.removeFile_join Artifact.outOfDate.isName hfault] at hmissing
    split at hmissing
    · cases hmissing
    · cases hmissing
    case h_3 hnone =>
      exact hget hnone
  case h_3 =>
    cases h

end Cache

/-- Whether nothing went wrong with the artifacts in what was observed. -/
def Sight.IsFaultless : Sight → Prop
  | .invalidated _ written => written = .ok ()
  | .entered made => made = .ok ()
  | .succeeded removed => removed = .ok ()
  | _ => True

namespace Staged

variable {l : List Sight} {i j k : Nat} {e : Sight}

/-! ### Logs -/

/-- Whether the last build that succeeded had cleared the flag of staleness at a position. -/
structure LastSuccess (l : List Sight) (k : Nat) : Prop where
  cleared : At l k .cleared
  ended : ∃ j removed, k < j ∧ At l j (.succeeded removed) ∧
    (∀ i, At l i .cleared → k < i → j < i) ∧ ∀ i removed', At l i (.succeeded removed') → i ≤ j

/-- Whether an invalidation found the models not stale, after the last build that succeeded had
cleared the flag of staleness, or ever if none has succeeded. -/
def IsFlagDue (l : List Sight) : Prop :=
  ∃ i written, At l i (.invalidated false written) ∧ ∀ k, LastSuccess l k → k < i

/-- Whether an invalidation found the models not stale after the flag of staleness was cleared for
the last time. -/
def IsPending (l : List Sight) : Prop :=
  ∃ i written, At l i (.invalidated false written) ∧ ∀ k, At l k .cleared → k < i

/-- If the flag of staleness was ever cleared, then once for the last time. -/
theorem exists_last_cleared (h : At l k .cleared) :
  ∃ c, At l c .cleared ∧ ∀ i, At l i .cleared → i ≤ c
  := by
  induction l using List.reverseRecOn generalizing k with
  | nil => cases h
  | append_singleton l e ih =>
    by_cases he : e = .cleared
    · use l.length, at_append_iff.mpr (.inr ⟨rfl, he⟩)
      intro i hi
      have hlt := hi.lt
      rw [List.length_append, List.length_singleton] at hlt
      omega
    · obtain ⟨c, hc, hlast⟩ := ih (h.of_append he)
      use c, hc.append e
      intro i hi
      apply hlast i (hi.of_append he)

theorem lastSuccess_append_iff (h : ∀ removed, e ≠ .succeeded removed) :
  LastSuccess (l ++ [e]) k ↔ LastSuccess l k
  := by
  constructor
  · rintro ⟨hcleared, j, removed, hlt, hj, halone, hlast⟩
    have hj' := hj.of_append (h removed)
    have hcleared' := hcleared.of_lt_length (hlt.trans hj'.lt)
    refine ⟨hcleared', j, removed, hlt, hj', ?_, ?_⟩
    · intro i hi
      apply halone i (hi.append e)
    · intro i removed' hi
      apply hlast i removed' (hi.append e)
  · rintro ⟨hcleared, j, removed, hlt, hj, halone, hlast⟩
    refine ⟨hcleared.append e, j, removed, hlt, hj.append e, ?_, ?_⟩
    · intro i hi hki
      rcases at_append_iff.mp hi with hold | ⟨rfl, -⟩
      · apply halone i hold hki
      · apply hj.lt
    · intro i removed' hi
      apply hlast i removed' (hi.of_append (h removed'))

/-- A build that succeeds is the one that has cleared the flag of staleness last. -/
theorem lastSuccess_append_succeeded_iff {removed : Except ModelsError Unit} :
  LastSuccess (l ++ [.succeeded removed]) k ↔
    At l k .cleared ∧ ∀ i, At l i .cleared → i ≤ k
  := by
  have hnew : At (l ++ [.succeeded removed]) l.length (.succeeded removed) :=
    at_length _ _
  constructor
  · rintro ⟨hcleared, j, removed', hlt, hj, halone, hlast⟩
    have hle := hlast _ _ hnew
    use hcleared.of_append (by simp)
    intro i hi
    by_contra hgt
    have hji := halone i (hi.append _) (Nat.lt_of_not_le hgt)
    have hlt' := hi.lt
    omega
  · rintro ⟨hcleared, hlast⟩
    refine ⟨hcleared.append _, l.length, removed, hcleared.lt, hnew, ?_, ?_⟩
    · intro i hi hki
      exact absurd (hlast i (hi.of_append (by simp))) (Nat.not_le_of_lt hki)
    · intro i removed' hi
      have hlt := hi.lt
      rw [List.length_append, List.length_singleton] at hlt
      omega

theorem isFlagDue_append_invalidated (l : List Sight) (written : Except ModelsError Unit) :
  IsFlagDue (l ++ [.invalidated false written])
  := by
  use l.length, written, at_length _ _
  intro k hk
  apply ((lastSuccess_append_iff (by simp)).mp hk).cleared.lt

theorem isPending_append_invalidated (l : List Sight) (written : Except ModelsError Unit) :
  IsPending (l ++ [.invalidated false written])
  := by
  use l.length, written, at_length _ _
  intro k hk
  apply (hk.of_append (by simp)).lt

theorem not_isPending_append_cleared (l : List Sight) :
  ¬ IsPending (l ++ [.cleared])
  := by
  rintro ⟨i, written, hi, hafter⟩
  have hlt := hafter l.length (at_length _ _)
  have hlt' := (hi.of_append (by simp)).lt
  omega

theorem isFlagDue_append_succeeded_iff (l : List Sight) (removed : Except ModelsError Unit) :
  IsFlagDue (l ++ [.succeeded removed]) ↔ IsPending l
  := by
  constructor
  · rintro ⟨i, written, hi, hafter⟩
    use i, written, hi.of_append (by simp)
    intro k hk
    obtain ⟨c, hc, hlast⟩ := exists_last_cleared hk
    have hci := hafter c (lastSuccess_append_succeeded_iff.mpr ⟨hc, hlast⟩)
    have hkc := hlast k hk
    omega
  · rintro ⟨i, written, hi, hafter⟩
    use i, written, hi.append _
    intro k hk
    apply hafter k (lastSuccess_append_succeeded_iff.mp hk).1

theorem isFlagDue_append_iff (h : ∀ written, e ≠ .invalidated false written)
    (h' : ∀ removed, e ≠ .succeeded removed) :
  IsFlagDue (l ++ [e]) ↔ IsFlagDue l
  := by
  constructor
  · rintro ⟨i, written, hi, hafter⟩
    use i, written, hi.of_append (h written)
    intro k hk
    apply hafter k ((lastSuccess_append_iff h').mpr hk)
  · rintro ⟨i, written, hi, hafter⟩
    use i, written, hi.append e
    intro k hk
    apply hafter k ((lastSuccess_append_iff h').mp hk)

theorem isPending_append_iff (h : ∀ written, e ≠ .invalidated false written) (h' : e ≠ .cleared) :
  IsPending (l ++ [e]) ↔ IsPending l
  := by
  constructor
  · rintro ⟨i, written, hi, hafter⟩
    use i, written, hi.of_append (h written)
    intro k hk
    apply hafter k (hk.append e)
  · rintro ⟨i, written, hi, hafter⟩
    use i, written, hi.append e
    intro k hk
    apply hafter k (hk.of_append h')

/-- What comes after the last clearing comes after the last one of a build that succeeded. -/
theorem IsPending.isFlagDue (h : IsPending l) :
  IsFlagDue l
  := by
  obtain ⟨i, written, hi, hafter⟩ := h
  use i, written, hi
  intro k hk
  apply hafter k hk.cleared

/-- If the last build succeeded, then both are the same. -/
theorem isFlagDue_iff_of_lastSuccess (h : LastSuccess l k) (hlast : ∀ i, At l i .cleared → i ≤ k) :
  IsFlagDue l ↔ IsPending l
  := by
  constructor
  · rintro ⟨i, written, hi, hafter⟩
    use i, written, hi
    intro c hc
    apply Nat.lt_of_le_of_lt (hlast c hc) (hafter k h)
  · apply IsPending.isFlagDue

/-! ### Steps -/

variable {p : Place} {s s' : Service} {stage stage' : Stage} {m m' : Staged}

/-- Whether a change of the tree around a models directory, whoever makes it, leaves the directory
and its out-of-date flag as they are. -/
structure Spares (c : Cache) (t t' : Tree) : Prop where
  sound : t'.Sound
  keeps : ∀ p, t.Leads c.directory p → t'.Leads c.directory p
  flag : c.isOutOfDate (t'.makeDirectories c.directory).1 =
    c.isOutOfDate (t.makeDirectories c.directory).1

/-- Whether a service comes from another without a change of the flag of staleness or of the
out-of-date flag. -/
structure Quiet (s s' : Service) : Prop extends
    Spares s.coordinator.cache s.tree s'.tree where
  cache : s'.coordinator.cache = s.coordinator.cache
  options : s'.coordinator.options = s.coordinator.options
  stale : s'.coordinator.stale = s.coordinator.stale

/-- Where the models directory exists, changes beside the out-of-date flag spare it. -/
theorem spares_of_becomes {c : Cache} {t t' : Tree} (hp : t.Leads c.directory p)
    (h : Becomes (fun q _ => q ≠ p ++ [Artifact.outOfDate.fileName]) t t') :
  Spares c t t'
  := by
  constructor
  · apply h.sound
  · intro q hq
    apply hq.mono h.keeps
  · rw [hp.makeDirectories, (hp.mono h.keeps).makeDirectories]
    apply Cache.isOutOfDate_eq_of_becomes hp h

theorem Spares.refl {c : Cache} {t : Tree} (hs : t.Sound) :
  Spares c t t
  := ⟨hs, fun _ hp => hp, rfl⟩

theorem quiet_of_tree {tree : Tree} (hp : s.tree.Leads s.coordinator.cache.directory p)
    (h : Becomes (fun q _ => q ≠ p ++ [Artifact.outOfDate.fileName]) s.tree tree) :
  Quiet s { s with tree := tree }
  := by
  constructor
  · apply spares_of_becomes hp h
  · rfl
  · rfl
  · rfl

theorem quiet_of_eq (hs : s.tree.Sound) (htree : s'.tree = s.tree)
    (hcache : s'.coordinator.cache = s.coordinator.cache)
    (hoptions : s'.coordinator.options = s.coordinator.options)
    (hstale : s'.coordinator.stale = s.coordinator.stale) :
  Quiet s s'
  := by
  constructor
  · rw [htree]
    apply Spares.refl hs
  · apply hcache
  · apply hoptions
  · apply hstale

/-- The steps of storing that a build still has to make, if it has got there. -/
def remaining : Stage → List Cache.Step
  | .storing _ _ _ steps | .committing _ _ _ _ steps => steps
  | _ => []

/-- Whether a build sets no out-of-date flag in the steps of storing. -/
def KeepsOff (stage : Stage) : Prop :=
  ∀ step ∈ remaining stage, step.artifact ≠ .outOfDate

theorem keepsOff_stage (c : Service.Capture) (version : UInt64) (job : Cache.Job) :
  KeepsOff (.storing c version job job.stage)
  := by
  intro step hstep
  simp only [remaining, Cache.Job.stage, List.mem_append, Option.mem_toList, Option.map_eq_some_iff,
    List.mem_singleton] at hstep
  rcases hstep with ⟨text, -, rfl⟩ | rfl <;> simp

theorem keepsOff_commit (c : Service.Capture) (version : UInt64) (job : Cache.Job) (module : Module) :
  KeepsOff (.committing c version job module job.commit)
  := by
  intro step hstep
  simp only [remaining, Cache.Job.commit, List.mem_cons, List.not_mem_nil, or_false] at hstep
  rcases hstep with rfl | rfl <;> simp

theorem keepsOff_of_nil (h : remaining stage = []) :
  KeepsOff stage
  := by
  intro step hstep
  rw [h] at hstep
  cases hstep

theorem Work.keepsOff {sight : Option Sight} (h : Work stage s sight stage' s')
    (hoff : KeepsOff stage) :
  KeepsOff stage'
  := by
  cases h with
  | reserveSource => apply keepsOff_stage
  | emit => apply keepsOff_stage
  | compile => apply keepsOff_commit
  | store =>
    intro step hstep
    apply hoff step (List.mem_cons_of_mem _ hstep)
  | commit =>
    intro step hstep
    apply hoff step (List.mem_cons_of_mem _ hstep)
  | _ => exact keepsOff_of_nil rfl

theorem Move.keepsOff {sight : Option Sight} (h : Move stage s sight stage' s')
    (hoff : KeepsOff stage) :
  KeepsOff stage'
  := by
  cases h with
  | work hwork => apply hwork.keepsOff hoff
  | call => apply hoff
  | _ => exact keepsOff_of_nil rfl

theorem Reached.keepsOff {r : Cache → Tree → Tree → Prop} (h : Reached r s m) :
  KeepsOff m.stage
  := by
  induction h with
  | start => exact keepsOff_of_nil rfl
  | step h hstep ih =>
    cases hstep with
    | move hmove => apply hmove.keepsOff ih
    | invalidate => apply ih
    | elsewhere => apply ih

/-- A step of storing is quiet if it does not set the flag. -/
theorem quiet_run {step : Cache.Step} {tree : Tree} {result : Except ModelsError Unit}
    (hs : s.tree.Sound) (hp : s.tree.Leads s.coordinator.cache.directory p)
    (hoff : step.artifact ≠ .outOfDate)
    (h : step.run s.coordinator.cache s.tree = (tree, result)) :
  Quiet s { s with tree := tree }
  := by
  obtain rfl : (step.run s.coordinator.cache s.tree).1 = tree := by rw [h]
  apply quiet_of_tree hp
  apply Cache.becomes_replace hs hp
  simpa [Artifact.fileName_inj] using hoff

theorem quiet_compile {c : Service.Capture} {version : UInt64} {job : Cache.Job} {tree : Tree}
    {result : Except CompileError Module} (hs : s.tree.Sound)
    (hp : s.tree.Leads s.coordinator.cache.directory p) (hk : Knows l (.storing c version job []))
    (h : Manifest.compile s.tree s.coordinator.options.moduleName job.source
      (s.coordinator.cache.output job) = (tree, result)) :
  Quiet s { s with tree := tree }
  := by
  obtain ⟨hread, hfingerprint, -⟩ := hk
  have hname : IsStep job.moduleName := by
    apply Cache.Job.isStep_moduleName
    rw [hfingerprint, hread.fingerprint]
    apply Combiner.isLowerHex_of_mem_text
  obtain rfl : (Manifest.compile s.tree s.coordinator.options.moduleName job.source
      (s.coordinator.cache.output job)).1 = tree := by rw [h]
  apply quiet_of_tree hp
  apply Cache.becomes_compile _ hname hs hp
  · simpa using (Artifact.fileName_ne_compiledName .outOfDate).symm
  · intro manifest _
    simp

/-- What a build does under the lock of the models directory is quiet. -/
theorem Work.quiet {sight : Option Sight} (h : Work stage s sight stage' s') (hk : Knows l stage)
    (hoff : KeepsOff stage) (hs : s.tree.Sound)
    (hp : s.tree.Leads s.coordinator.cache.directory p) :
  Quiet s s'
  := by
  cases h with
  | store hrun => apply quiet_run hs hp (hoff _ List.mem_cons_self) hrun
  | failStore hrun => apply quiet_run hs hp (hoff _ List.mem_cons_self) hrun
  | commit hrun => apply quiet_run hs hp (hoff _ List.mem_cons_self) hrun
  | failCommit hrun => apply quiet_run hs hp (hoff _ List.mem_cons_self) hrun
  | compile hcompile => apply quiet_compile hs hp hk hcompile
  | reject hcompile => apply quiet_compile hs hp hk hcompile
  | prune horder =>
    apply quiet_of_tree hp
    apply Cache.becomes_pruneOutdated hs hp (fun _ => horder.mem_iff.mp)
    · intro name _
      simp
    · intro name _
      simp
  | _ => exact quiet_of_eq hs rfl rfl rfl rfl

theorem quiet_clearError (hs : s.tree.Sound) (hp : s.tree.Leads s.coordinator.cache.directory p) :
  Quiet s s.clearError
  := by
  constructor
  · apply spares_of_becomes hp
    apply Cache.becomes_discard hs hp
    simp [Artifact.fileName_inj]
  · rfl
  · rfl
  · rfl

theorem quiet_recordError (hs : s.tree.Sound) (hp : s.tree.Leads s.coordinator.cache.directory p)
    (e : ModelsError) :
  Quiet s (s.recordError e)
  := by
  constructor
  · apply spares_of_becomes hp
    apply Cache.becomes_replace hs hp
    simp [Artifact.fileName_inj]
  · rfl
  · rfl
  · rfl

/-- Whoever tries to take the lock has made the models directory, if it could be made, and left the
out-of-date flag as it was. -/
theorem spares_acquireLock {c : Cache} {t tree : Tree} {held : Bool} {timeout : Nat}
    {result : Except ModelsError Unit} (hs : t.Sound)
    (hmade : (t.makeDirectories c.directory).2 = .ok ())
    (h : c.acquireLock t held timeout = (tree, result)) :
  Spares c t tree ∧ ∃ p, tree.Leads c.directory p
  := by
  cases hmake : t.makeDirectories c.directory with
  | mk made done =>
    rw [hmake] at hmade
    subst hmade
    obtain ⟨p, hp⟩ := exists_leads_of_makeDirectories hmake
    have hmakes := hs.becomes_makeDirectories c.directory
    rw [hmake] at hmakes
    have hlocks : Becomes (fun q _ => q ≠ p ++ [Artifact.outOfDate.fileName]) made tree := by
      rw [Cache.acquireLock, hmake] at h
      simp only at h
      split at h
      · cases h
        apply Becomes.refl hmakes.sound
      · cases h
        apply Becomes.refl hmakes.sound
      · split at h
        case h_1 hwrite =>
          cases h
          obtain ⟨-, -, q, hq, hfree, rfl⟩ :=
            exists_leads_of_write Artifact.lock.isName.toIsStep hwrite
          rw [hp.eq hq] at hfree ⊢
          apply hmakes.sound.becomes_set hp.directory Artifact.lock.isName (.inr hfree)
          simp [Artifact.fileName_inj]
        · cases h
          apply Becomes.refl hmakes.sound
    have hspares := spares_of_becomes hp hlocks
    refine ⟨⟨hspares.sound, ?_, ?_⟩, p, hp.mono hlocks.keeps⟩
    · intro q hq
      apply hspares.keeps q (hq.mono hmakes.keeps)
    · rw [hspares.flag, hp.makeDirectories, hmake]

/-! ### The invariant -/

/-- Whether the flag of staleness has been cleared in the build under way. -/
def hasCleared : Stage → Bool
  | .idle | .begun => false
  | _ => true

/-- Whether the models directory has been made in the build under way. -/
def hasEntered : Stage → Bool
  | .idle | .begun | .cleared => false
  | _ => true

/-- What is kept in the course of builds and invalidations. -/
structure Invariant (m : Staged) : Prop where
  sound : m.service.tree.Sound
  option : m.service.coordinator.options.flagOutOfDate = true
  uncleared : (∀ k, ¬ At m.log k .cleared) → m.service.coordinator.stale = true
  cleared : hasCleared m.stage = true → ∃ k, At m.log k .cleared
  pending : ∀ k, At m.log k .cleared → (m.service.coordinator.stale = true ↔ IsPending m.log)
  flag : m.service.coordinator.cache.isOutOfDate
    (m.service.tree.makeDirectories m.service.coordinator.cache.directory).1 = true ↔
      IsFlagDue m.log
  leads : hasEntered m.stage = true ∨ IsFlagDue m.log →
    ∃ p, m.service.tree.Leads m.service.coordinator.cache.directory p
  ready : m.stage = .idle → ∀ k, At m.log k .cleared → m.service.coordinator.status = .ready

namespace Invariant

/-- Quiet changes keep the invariant. -/
theorem quiet (hi : Invariant ⟨s, stage, l⟩) (h : Quiet s s')
    (hcleared : hasCleared stage' = true → hasCleared stage = true)
    (hentered : hasEntered stage' = true →
      ∃ p, s'.tree.Leads s'.coordinator.cache.directory p)
    (hready : stage' = .idle → s'.coordinator.status = .ready ∨
      stage = .idle ∧ s'.coordinator.status = s.coordinator.status) :
  Invariant ⟨s', stage', l⟩
  := by
  constructor
  · apply h.sound
  · rw [h.options]
    apply hi.option
  · rw [h.stale]
    apply hi.uncleared
  · intro hstage
    apply hi.cleared (hcleared hstage)
  · rw [h.stale]
    apply hi.pending
  · rw [h.cache]
    rw [h.flag]
    apply hi.flag
  · rintro (hstage | hdue)
    · apply hentered hstage
    · obtain ⟨p, hp⟩ := hi.leads (.inr hdue)
      use p
      rw [h.cache]
      apply h.keeps p hp
  · intro hstage k hk
    rcases hready hstage with hnow | ⟨hidle, hsame⟩
    · apply hnow
    · rw [hsame]
      apply hi.ready hidle k hk

/-- The invariant is kept if what is observed is neither a clearing, nor a success, nor an
invalidation that finds the models not stale. -/
theorem observe (hi : Invariant ⟨s, stage, l⟩) (sight : Option Sight)
    (h : ∀ written, sight ≠ some (.invalidated false written)) (hcleared : sight ≠ some .cleared)
    (hsucceeded : ∀ removed, sight ≠ some (.succeeded removed)) :
  Invariant ⟨s, stage, l ++ sight.toList⟩
  := by
  cases sight with
  | none =>
    rw [Option.toList_none, List.append_nil]
    apply hi
  | some e =>
    simp only [ne_eq, Option.some.injEq] at h hcleared hsucceeded
    rw [Option.toList_some]
    constructor
    · apply hi.sound
    · apply hi.option
    · intro hnever
      apply hi.uncleared
      intro k hk
      apply hnever k (hk.append e)
    · intro hstage
      obtain ⟨k, hk⟩ := hi.cleared hstage
      use k, hk.append e
    · intro k hk
      rw [isPending_append_iff h hcleared]
      apply hi.pending k (hk.of_append hcleared)
    · rw [isFlagDue_append_iff h hsucceeded]
      apply hi.flag
    · rw [isFlagDue_append_iff h hsucceeded]
      apply hi.leads
    · intro hstage k hk
      apply hi.ready hstage k (hk.of_append hcleared)

/-- When the flag of staleness is cleared, no invalidation is pending. -/
theorem clear (hi : Invariant ⟨s, .begun, l⟩) :
  Invariant ⟨{ s with coordinator := { s.coordinator with stale := false } }, .cleared,
    l ++ [.cleared]⟩
  := by
  have hnew : At (l ++ [.cleared]) l.length .cleared := at_length _ _
  have hdue : IsFlagDue (l ++ [.cleared]) ↔ IsFlagDue l :=
    isFlagDue_append_iff (by simp) (by simp)
  constructor
  · apply hi.sound
  · apply hi.option
  · intro hnever
    exact absurd hnew (hnever _)
  · intro _
    use l.length
  · intro k _
    simp [not_isPending_append_cleared]
  · rw [hdue]
    apply hi.flag
  · rw [hdue]
    rintro (hstage | hdue)
    · cases hstage
    · apply hi.leads (.inr hdue)
  · intro hstage
    cases hstage

/-- A build that succeeds removes the out-of-date flag unless an invalidation is pending. -/
theorem unflag {g : Generation} (hi : Invariant ⟨s, .tidied g, l⟩) (h : unflagging s = .ok ()) :
  Invariant ⟨s.clearOutOfDate, .announcing g, l ++ [.succeeded (unflagging s)]⟩
  := by
  obtain ⟨p, hp⟩ := hi.leads (.inl rfl)
  obtain ⟨k, hk⟩ := hi.cleared rfl
  have hpending := hi.pending k hk
  have hkept : IsPending (l ++ [.succeeded (unflagging s)]) ↔ IsPending l :=
    isPending_append_iff (by simp) (by simp)
  have hspares : s.clearOutOfDate.tree.Sound ∧
      s.clearOutOfDate.tree.Leads s.clearOutOfDate.coordinator.cache.directory p := by
    have hbecomes : Becomes (fun _ _ => True) s.tree
        (s.coordinator.cache.clearOutOfDate s.tree).1 := Cache.becomes_discard hi.sound hp trivial
    unfold Service.clearOutOfDate
    split
    · exact ⟨hi.sound, hp⟩
    · exact ⟨hbecomes.sound, hp.mono hbecomes.keeps⟩
  have hcoordinator : s.clearOutOfDate.coordinator = s.coordinator := by
    rw [Service.clearOutOfDate_eq]
  constructor
  · apply hspares.1
  · simp only [hcoordinator]
    apply hi.option
  · intro hnever
    exact absurd (hk.append _) (hnever k)
  · intro _
    use k, hk.append _
  · intro k' hk'
    rw [hkept, hcoordinator]
    apply hpending
  · simp only [hspares.2.makeDirectories]
    rw [isFlagDue_append_succeeded_iff, ← hpending, hcoordinator]
    unfold Service.clearOutOfDate
    split
    case isTrue hstale =>
      simp only [hstale, iff_true]
      rw [← hp.makeDirectories]
      apply hi.flag.mpr
      apply (hpending.mp hstale).isFlagDue
    case isFalse hstale =>
      have hremoved : (s.coordinator.cache.clearOutOfDate s.tree).2 = .ok () := by
        simpa [unflagging, hstale] using h
      simp [hstale, Cache.isOutOfDate_clearOutOfDate hi.sound hp hremoved]
  · intro _
    exact ⟨p, hspares.2⟩
  · intro hstage
    cases hstage

/-- An invalidation sets the out-of-date flag unless the models are stale. -/
theorem invalidate (hi : Invariant ⟨s, stage, l⟩) (h : flagging s = .ok ()) :
  Invariant ⟨s.invalidate, stage, l ++ [.invalidated s.coordinator.stale (flagging s)]⟩
  := by
  cases hstale : s.coordinator.stale with
  | true =>
    have hsame : s.invalidate = s := if_pos hstale
    rw [hsame]
    apply hi.observe (some (.invalidated true _))
    · simp
    · simp
    · simp
  | false =>
    have hflagged : (s.coordinator.cache.flagOutOfDate s.tree s.now).2 = .ok () := by
      have hoption : s.coordinator.options.flagOutOfDate = true := hi.option
      simpa [flagging, hstale, hoption] using h
    have hsame : s.invalidate = { s with
        coordinator := { s.coordinator with stale := true }
        tree := (s.coordinator.cache.flagOutOfDate s.tree s.now).1 } := by
      have hoption : s.coordinator.options.flagOutOfDate = true := hi.option
      simp [Service.invalidate, hstale, hoption]
    obtain ⟨p, hp⟩ : ∃ p, (s.coordinator.cache.flagOutOfDate s.tree s.now).1.Leads
        s.coordinator.cache.directory p := by
      obtain ⟨-, p, hp, -⟩ := Service.isOutOfDate_iff.mp (Cache.isOutOfDate_flagOutOfDate hflagged)
      use p
    rw [hsame]
    constructor
    · apply Cache.sound_replace hi.sound
    · apply hi.option
    · intro _
      rfl
    · intro hstage
      obtain ⟨k, hk⟩ := hi.cleared hstage
      use k, hk.append _
    · intro k _
      simp [isPending_append_invalidated]
    · simp only [hp.makeDirectories, Cache.isOutOfDate_flagOutOfDate hflagged,
        isFlagDue_append_invalidated]
    · intro _
      use p
    · intro hstage k hk
      apply hi.ready hstage k (hk.of_append (by simp))

/-- In a build that has made the models directory, quiet changes keep the invariant with what is
observed of them, unless it is one of the three things that `observe` excludes. -/
theorem inside (hi : Invariant ⟨s, stage, l⟩) (h : Quiet s s') (hstage : hasEntered stage = true)
    (hstage' : stage' ≠ .idle) (sight : Option Sight)
    (hsight : (∀ written, sight ≠ some (.invalidated false written)) ∧ sight ≠ some .cleared ∧
      ∀ removed, sight ≠ some (.succeeded removed)) :
  Invariant ⟨s', stage', l ++ sight.toList⟩
  := by
  have hquiet : Invariant ⟨s', stage', l⟩ := by
    apply hi.quiet h
    · intro _
      cases stage <;> first | rfl | cases hstage
    · intro _
      obtain ⟨p, hp⟩ := hi.leads (.inl hstage)
      use p
      rw [h.cache]
      apply h.keeps p hp
    · intro hidle
      exact absurd hidle hstage'
  apply hquiet.observe sight hsight.1 hsight.2.1 hsight.2.2

/-- Whoever tries to take the lock keeps the invariant, if the models directory could be made. -/
theorem enter {tree : Tree} {result : Except ModelsError Unit} (hi : Invariant ⟨s, .cleared, l⟩)
    (hmade : (s.tree.makeDirectories s.coordinator.cache.directory).2 = .ok ())
    (h : s.coordinator.cache.acquireLock s.tree s.lockHeld s.coordinator.options.lockTimeout =
      (tree, result)) (hstage : stage ≠ .idle) :
  Invariant ⟨{ s with tree := tree }, stage,
    l ++ [.entered (s.tree.makeDirectories s.coordinator.cache.directory).2]⟩
  := by
  obtain ⟨hspares, hp⟩ := spares_acquireLock hi.sound hmade h
  have hquiet : Quiet s { s with tree := tree } := ⟨hspares, rfl, rfl, rfl⟩
  have hentered : Invariant ⟨{ s with tree := tree }, stage, l⟩ := by
    apply hi.quiet hquiet
    · intro _
      rfl
    · intro _
      apply hp
    · intro hidle
      exact absurd hidle hstage
  apply hentered.observe (some (.entered _))
  · simp
  · simp
  · simp

/-- A step of a build up to its result keeps the invariant. -/
theorem work {sight : Option Sight} (hi : Invariant ⟨s, stage, l⟩) (hk : Knows l stage)
    (hoff : KeepsOff stage) (h : Work stage s sight stage' s') :
  Invariant ⟨s', stage', l ++ sight.toList⟩
  := by
  have hentered : hasEntered stage = true := by
    cases h <;> rfl
  have hbusy : stage' ≠ .idle := by
    cases h <;> simp
  obtain ⟨p, hp⟩ := hi.leads (.inl hentered)
  apply hi.inside (h.quiet hk hoff hi.sound hp) hentered hbusy
  cases h <;> simp

/-- Every step of a build keeps the invariant, if nothing goes wrong with the artifacts. -/
theorem move {sight : Option Sight} (hi : Invariant ⟨s, stage, l⟩) (hk : Knows l stage)
    (hoff : KeepsOff stage) (h : Move stage s sight stage' s')
    (hio : ∀ e ∈ sight, e.IsFaultless) :
  Invariant ⟨s', stage', l ++ sight.toList⟩
  := by
  have hsame : ∀ {s' : Service}, s'.tree = s.tree → s'.coordinator.cache = s.coordinator.cache →
      s'.coordinator.options = s.coordinator.options → s'.coordinator.stale = s.coordinator.stale →
      Quiet s s' := quiet_of_eq hi.sound
  cases h with
  | begin =>
    rw [Option.toList_none, List.append_nil]
    apply hi.quiet
    · exact hsame rfl rfl rfl rfl
    · intro hstage
      cases hstage
    · intro hstage
      cases hstage
    · intro hidle
      cases hidle
  | clear => apply hi.clear
  | lock hlock =>
    apply hi.enter (hio _ rfl) hlock
    simp
  | failLock hlock =>
    apply hi.enter (hio _ rfl) hlock
    simp
  | work hwork => apply hi.work hk hoff hwork
  | call =>
    rw [Option.toList_none, List.append_nil]
    apply hi.quiet
    · exact hsame rfl rfl rfl rfl
    · intro hstage
      apply hstage
    · intro hstage
      apply hi.leads (.inl hstage)
    · intro hstage
      exact .inr ⟨hstage, rfl⟩
  | publish =>
    apply hi.inside _ rfl
    · simp
    · simp
    · exact hsame rfl rfl rfl rfl
  | tidy =>
    obtain ⟨p, hp⟩ := hi.leads (.inl rfl)
    exact hi.inside (quiet_clearError hi.sound hp) rfl (by simp) none (by simp)
  | unflag g => apply hi.unflag (hio _ rfl)
  | note =>
    obtain ⟨p, hp⟩ := hi.leads (.inl rfl)
    exact hi.inside (quiet_recordError hi.sound hp _) rfl (by simp) none (by simp)
  | keep => exact hi.inside (hsame rfl rfl rfl rfl) rfl (by simp) none (by simp)
  | degrade =>
    apply hi.inside _ rfl
    · simp
    · simp
    · exact hsame rfl rfl rfl rfl
  | standIn =>
    apply hi.inside _ rfl
    · simp
    · simp
    · exact hsame rfl rfl rfl rfl
  | announce =>
    apply hi.inside _ rfl
    · simp
    · simp
    · exact hsame rfl rfl rfl rfl
  | finish =>
    rw [Option.toList_none, List.append_nil]
    apply hi.quiet
    · exact hsame rfl rfl rfl rfl
    · intro hstage
      cases hstage
    · intro hstage
      cases hstage
    · intro _
      apply Or.inl rfl

theorem step (hi : Invariant m) (hk : Knows m.log m.stage) (hoff : KeepsOff m.stage)
    (h : Step Spares m m') (hio : ∀ e ∈ m'.log, e.IsFaultless) :
  Invariant m'
  := by
  cases h with
  | move h =>
    apply hi.move hk hoff h
    intro e he
    apply hio e
    apply List.mem_append_right
    simpa using he
  | invalidate =>
    apply hi.invalidate
    apply hio (.invalidated m.service.coordinator.stale (flagging m.service))
    simp
  | elsewhere store script lockHeld now h =>
    apply hi.quiet
    · exact ⟨h, rfl, rfl, rfl⟩
    · intro hstage
      apply hstage
    · intro hstage
      obtain ⟨p, hp⟩ := hi.leads (.inl hstage)
      use p
      apply h.keeps p hp
    · intro hstage
      exact .inr ⟨hstage, rfl⟩

end Invariant

/-- The invariant holds from a new coordinator on, if the flag is asked for and is not there. -/
theorem Reached.invariant (h : Reached Spares s m)
    (hoption : s.coordinator.options.flagOutOfDate = true) (hs : s.tree.Sound)
    (hflag : s.coordinator.cache.isOutOfDate
      (s.tree.makeDirectories s.coordinator.cache.directory).1 = false)
    (hio : ∀ e ∈ m.log, e.IsFaultless) :
  Invariant m
  := by
  induction h with
  | start hnew =>
    constructor
    · apply hs
    · apply hoption
    · intro _
      obtain ⟨store, policy, options, cache, script, hnew⟩ := hnew
      simp only [hnew]
    · intro hstage
      cases hstage
    · intro k hk
      cases hk
    · simp only [hflag]
      constructor
      · intro hset
        cases hset
      · rintro ⟨i, written, hi, -⟩
        cases hi
    · rintro (hstage | ⟨i, written, hi, -⟩)
      · cases hstage
      · cases hi
    · intro _ k hk
      cases hk
  | step h hstep ih =>
    apply (ih _).step h.coherent.knows h.keepsOff hstep hio
    intro e he
    apply hio e (hstep.mem_log he)

/-! ### New generations -/

/-- Whether a generation is in use that has been published by the build under way, which is not yet
through with the flag. -/
def IsInUse (s : Service) (stage : Stage) : Prop :=
  ∀ g, stage = .published g ∨ stage = .tidied g → s.coordinator.current = some g

theorem Move.isInUse {sight : Option Sight} (h : Move stage s sight stage' s')
    (hs : IsInUse s stage) :
  IsInUse s' stage'
  := by
  intro g hg
  cases h with
  | work hwork => cases hwork <;> simp at hg
  | call => exact hs g hg
  | publish =>
    obtain rfl : _ = g := by simpa using hg
    rfl
  | tidy _ g' =>
    obtain rfl : g' = g := by simpa using hg
    exact hs g' (.inl rfl)
  | _ => simp at hg

/-- A generation is in use as soon as it has been published. -/
theorem Reached.isInUse {r : Cache → Tree → Tree → Prop} (h : Reached r s m) :
  IsInUse m.service m.stage
  := by
  induction h with
  | start => rintro g (hg | hg) <;> cases hg
  | step h hstep ih =>
    cases hstep with
    | move hmove => exact hmove.isInUse ih
    | invalidate =>
      intro g hg
      rw [Service.coordinator_invalidate]
      exact ih g hg
    | elsewhere => exact ih

/-! ### The truth about the flag -/

/-- As long as nothing goes wrong with the artifacts, the out-of-date flag exists exactly if an
invalidation found the models not stale after the last build that succeeded had cleared the flag of
staleness. A build has succeeded when it is through with the flag, which is what `Sight.succeeded`
tells. Between its publication and this point, a generation is in use whose flag may be that of the
one before: the flag exists exactly if the models are stale, or if it was due when the build cleared
the flag of staleness. If no build is under way and the last one succeeded, the models are reported
to be out of date exactly if they are reported to be stale. -/
theorem Reached.flag_tells_truth (h : Reached Spares s m)
    (hoption : s.coordinator.options.flagOutOfDate = true) (hs : s.tree.Sound)
    (hflag : s.coordinator.cache.isOutOfDate
      (s.tree.makeDirectories s.coordinator.cache.directory).1 = false)
    (hio : ∀ e ∈ m.log, e.IsFaultless) :
  (m.service.coordinator.cache.isOutOfDate m.service.tree = true ↔
      ∃ i written, At m.log i (.invalidated false written) ∧
        ∀ k, LastSuccess m.log k → k < i) ∧
    (∀ g, m.stage = .published g ∨ m.stage = .tidied g →
      m.service.coordinator.current = some g ∧
        ∀ k, At m.log k .cleared → (∀ i, At m.log i .cleared → i ≤ k) →
          (m.service.coordinator.cache.isOutOfDate m.service.tree = true ↔
            m.service.coordinator.stale = true ∨
              ∃ i written, i < k ∧ At m.log i (.invalidated false written) ∧
                ∀ j, LastSuccess m.log j → j < i)) ∧
    (m.stage = .idle → ∀ k, LastSuccess m.log k → (∀ i, At m.log i .cleared → i ≤ k) →
      (m.service.status.outOfDate = true ↔ m.service.status.state = .stale))
  := by
  have hi := h.invariant hoption hs hflag hio
  have hflag : m.service.coordinator.cache.isOutOfDate m.service.tree = true ↔
      IsFlagDue m.log := by
    constructor
    · intro hset
      obtain ⟨-, p, hp, -⟩ := Service.isOutOfDate_iff.mp hset
      rw [← hi.flag, hp.makeDirectories]
      apply hset
    · intro hdue
      obtain ⟨p, hp⟩ := hi.leads (.inr hdue)
      have hset := hi.flag.mpr hdue
      rwa [hp.makeDirectories] at hset
  refine ⟨hflag, ?_, ?_⟩
  · intro g hg
    use h.isInUse g hg
    intro k hk hlast
    rw [hflag, hi.pending k hk]
    constructor
    · rintro ⟨i, written, hinvalidated, hafter⟩
      rcases Nat.lt_trichotomy i k with hlt | rfl | hlt
      · exact .inr ⟨i, written, hlt, hinvalidated, hafter⟩
      · cases hinvalidated.symm.trans hk
      · left
        refine ⟨i, written, hinvalidated, ?_⟩
        intro j hj
        exact (hlast j hj).trans_lt hlt
    · rintro (hpending | ⟨i, written, -, hinvalidated, hafter⟩)
      · exact hpending.isFlagDue
      · exact ⟨i, written, hinvalidated, hafter⟩
  · intro hidle k hk hlast
    have hready := hi.ready hidle k hk.cleared
    have hstale : m.service.status.state = .stale ↔ m.service.coordinator.stale = true := by
      simp [Service.status, hready]
    rw [hstale, hi.pending k hk.cleared, ← isFlagDue_iff_of_lastSuccess hk hlast]
    apply hflag

theorem sound_shelved :
  shelved.tree.Sound
  := by
  decide +kernel

/-- After the first build an invalidation sets the flag, and the models are stale. -/
theorem shelvedSettled_tells_truth :
  Reached Spares shelved ⟨shelvedSettled.invalidate, .idle, renewal⟩ ∧
    shelved.coordinator.options.flagOutOfDate = true ∧ shelved.tree.Sound ∧
    shelved.coordinator.cache.isOutOfDate
      (shelved.tree.makeDirectories shelved.coordinator.cache.directory).1 = false ∧
    (∀ e ∈ renewal, e.IsFaultless) ∧
    shelvedSettled.invalidate.status.outOfDate = true ∧
    shelvedSettled.invalidate.status.state = .stale
  := by
  have hflag : shelved.coordinator.cache.isOutOfDate
      (shelved.tree.makeDirectories shelved.coordinator.cache.directory).1 = false := by
    decide +kernel
  have hio : ∀ e ∈ renewal, e.IsFaultless := by
    simp [renewal, shelvedLog, Sight.IsFaultless]
  have hcleared : ∀ i, At renewal i .cleared → i = 0 := by
    intro i hi
    have hlt : i < 8 := hi.lt
    interval_cases i <;> cases hi
    rfl
  have hsucceeded : ∀ i removed, At renewal i (.succeeded removed) → i = 6 := by
    intro i removed hi
    have hlt : i < 8 := hi.lt
    interval_cases i <;> cases hi
    rfl
  have hfirst : LastSuccess renewal 0 := by
    refine ⟨rfl, 6, .ok (), by omega, rfl, ?_, ?_⟩
    · intro i hi hlt
      have hzero := hcleared i hi
      omega
    · intro i removed hi
      apply (hsucceeded i removed hi).le
  obtain ⟨htruth, -, hstale⟩ :=
    reached_invalidate_shelvedSettled.flag_tells_truth rfl sound_shelved hflag hio
  have hset : shelvedSettled.invalidate.status.outOfDate = true := by
    apply htruth.mpr
    refine ⟨7, .ok (), rfl, ?_⟩
    intro k hk
    have hzero := hcleared k hk.cleared
    omega
  use reached_invalidate_shelvedSettled, rfl, sound_shelved, hflag, hio, hset
  apply (hstale rfl 0 hfirst _).mp hset
  intro i hi
  apply (hcleared i hi).le

end Staged

end LiveModels
