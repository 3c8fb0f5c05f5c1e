import LiveModels.Proofs.Log
import LiveModels.Proofs.Reload.Failure
import LiveModels.Proofs.Reload.Threads

/-!
# No invalidation is lost

Whatever the order in which threads do their steps, a request that begins after an invalidation is
answered with what a build has settled that cleared the flag of staleness after the invalidation,
and has therefore captured the schema and the files of users after it. An invalidation in the middle
of a build leaves the models stale when the build ends, and then the next request builds again.

What carries this is that the flag is cleared by the one thread that holds the lock alone: the models
are not stale only as long as no invalidation has come after the last clearing, and while they are
ready the generation in use is the one that was settled after the last clearing.
-/

namespace LiveModels.Threads

variable {T : Type} {l l' : List (Event T)} {i j k c f : Nat} {t u v w : T} {e : Event T}
  {g : Generation} {failure : Option ModelsError}

/-! ### Logs -/

/-- Whether an event is the one at a position of a log. -/
def At (l : List (Event T)) (i : Nat) (e : Event T) : Prop :=
  l[i]? = some e

theorem At.lt (h : At l i e) :
  i < l.length
  := (List.getElem?_eq_some_iff.mp h).1

theorem at_append_iff {o : Option (Event T)} :
  At (l ++ o.toList) i e ↔ At l i e ∨ i = l.length ∧ o = some e
  := Log.getElem?_append_eq_some_iff

theorem At.append (h : At l i e) (o : Option (Event T)) :
  At (l ++ o.toList) i e
  := at_append_iff.mpr (.inl h)

theorem at_length (l : List (Event T)) (e : Event T) :
  At (l ++ (some e).toList) l.length e
  := at_append_iff.mpr (.inr ⟨rfl, rfl⟩)

/-- An event is an old one if it is not the new one. -/
theorem At.of_append {o : Option (Event T)} (h : At (l ++ o.toList) i e) (ho : o ≠ some e) :
  At l i e
  := (at_append_iff.mp h).resolve_right fun hnew => ho hnew.2

/-- An event is an old one if it is not at the end. -/
theorem At.of_lt_length {o : Option (Event T)} (h : At (l ++ o.toList) i e) (hi : i < l.length) :
  At l i e
  := (at_append_iff.mp h).resolve_right fun hnew => Nat.ne_of_lt hi hnew.1

/-! ### Builds in a log -/

/-- Whether a thread was the last one to clear the flag of staleness, at a position. -/
structure Last (l : List (Event T)) (c : Nat) (w : T) : Prop where
  cleared : At l c (.cleared w)
  last : ∀ k v, At l k (.cleared v) → k ≤ c

/-- Whether a thread captured the schema and the files of users after a position. -/
def Reads (l : List (Event T)) (c d : Nat) (w : T) (snapshot : Snapshot) (files : UserFiles) : Prop :=
  ∃ i j, c < i ∧ i < j ∧ j < d ∧ At l i (.captured w snapshot) ∧ At l j (.loaded w files)

/-- Whether a build cleared the flag of staleness at a position and settled on a generation at
another: on that of what was captured in between, or, after a failure, on one that was settled on
before, or on one without models. -/
structure Settles (l : List (Event T)) (c d : Nat) (w : T) (failure : Option ModelsError)
    (g : Generation) : Prop where
  cleared : At l c (.cleared w)
  settled : At l d (.settled w failure g)
  lt : c < d
  alone : ∀ k v, At l k (.cleared v) → c < k → d < k
  reads : failure = none → ∃ snapshot files, Reads l c d w snapshot files ∧
    g.snapshot = some snapshot ∧ g.fingerprint = some (Fingerprint.compute files snapshot.types)
  kept : ∀ e, failure = some e → g.error = some e.message ∨
    ∃ k v failure', k < d ∧ At l k (.settled v failure' g)

theorem Last.append {o : Option (Event T)} (h : Last l c w) (ho : ∀ v, o ≠ some (.cleared v)) :
  Last (l ++ o.toList) c w
  := by
  constructor
  · apply h.cleared.append
  · intro k v hk
    apply h.last k v (hk.of_append (ho v))

theorem last_length (l : List (Event T)) (w : T) :
  Last (l ++ (some (.cleared w)).toList) l.length w
  := by
  constructor
  · apply at_length
  · intro k v hk
    have hlt := hk.lt
    simp only [Option.toList_some, List.length_append, List.length_cons, List.length_nil] at hlt
    omega

theorem Reads.append {d : Nat} {snapshot : Snapshot} {files : UserFiles}
    (h : Reads l c d w snapshot files) (o : Option (Event T)) :
  Reads (l ++ o.toList) c d w snapshot files
  := by
  obtain ⟨i, j, hi, hij, hj, hcaptured, hloaded⟩ := h
  exact ⟨i, j, hi, hij, hj, hcaptured.append o, hloaded.append o⟩

theorem Settles.append {d : Nat} (h : Settles l c d w failure g) (o : Option (Event T)) :
  Settles (l ++ o.toList) c d w failure g
  := by
  constructor
  · apply h.cleared.append
  · apply h.settled.append
  · apply h.lt
  · intro k v hk hlt
    rcases at_append_iff.mp hk with hold | ⟨rfl, -⟩
    · apply h.alone k v hold hlt
    · apply h.settled.lt
  · intro hfailure
    obtain ⟨snapshot, files, hreads, hg⟩ := h.reads hfailure
    use snapshot, files, hreads.append o
  · intro e hfailure
    rcases h.kept e hfailure with herror | ⟨k, v, failure', hk, hsettled⟩
    · exact .inl herror
    · exact .inr ⟨k, v, failure', hk, hsettled.append o⟩

/-! ### What threads know -/

/-- Whether every invalidation before a request of a thread has been followed by a clearing. -/
def Covered (l : List (Event T)) (t : T) : Prop :=
  ∀ i j u, At l i (.invalidated u) → At l j (.asked t) → i < j → ∃ c w, i < c ∧ At l c (.cleared w)

/-- Whether a generation was settled after every invalidation before a request of a thread. -/
def Vouches (l : List (Event T)) (t : T) (g : Generation) : Prop :=
  ∀ i j u, At l i (.invalidated u) → At l j (.asked t) → i < j →
    ∃ c d w failure, i < c ∧ Settles l c d w failure g

/-- Whether a thread has cleared the flag at a position in its request, and none after it. -/
structure Working (l : List (Event T)) (t : T) (c : Nat) : Prop extends Last l c t where
  asked : ∀ j, At l j (.asked t) → j < c

/-- What a thread knows in a phase. -/
def Knows (s : Service) (l : List (Event T)) (t : T) : Phase → Prop
  | .seen | .confirmed => s.coordinator.status = .ready ∧ Covered l t
  | .cleared | .locked | .made (.error _) => ∃ c, Working l t c
  | .captured snapshot => ∃ c i, Working l t c ∧ c < i ∧ At l i (.captured t snapshot)
  | .loaded capture => ∃ c, Working l t c ∧
    Reads l c l.length t capture.snapshot capture.files ∧
    capture.fingerprint = Fingerprint.compute capture.files capture.snapshot.types
  | .made (.ok g) => ∃ c snapshot files, Working l t c ∧ Reads l c l.length t snapshot files ∧
    g.snapshot = some snapshot ∧ g.fingerprint = some (Fingerprint.compute files snapshot.types)
  | .settled g => ∃ c d failure, Working l t c ∧ Settles l c d t failure g ∧
    s.coordinator.current = some g
  | .answering g => Vouches l t g
  | _ => True

theorem Covered.append {o : Option (Event T)} (h : Covered l t) (ho : o ≠ some (.asked t)) :
  Covered (l ++ o.toList) t
  := by
  intro i j u hi hj hlt
  have hj' := hj.of_append ho
  rcases at_append_iff.mp hi with hold | ⟨rfl, -⟩
  · obtain ⟨c, w, hic, hc⟩ := h i j u hold hj' hlt
    use c, w, hic, hc.append o
  · exact absurd hj'.lt (Nat.lt_asymm hlt)

theorem Vouches.append {o : Option (Event T)} (h : Vouches l t g) (ho : o ≠ some (.asked t)) :
  Vouches (l ++ o.toList) t g
  := by
  intro i j u hi hj hlt
  have hj' := hj.of_append ho
  rcases at_append_iff.mp hi with hold | ⟨rfl, -⟩
  · obtain ⟨c, d, w, failure, hic, hsettles⟩ := h i j u hold hj' hlt
    exact ⟨c, d, w, failure, hic, hsettles.append o⟩
  · exact absurd hj'.lt (Nat.lt_asymm hlt)

theorem Working.append {o : Option (Event T)} (h : Working l t c) (ho : o ≠ some (.asked t))
    (hcleared : ∀ v, o ≠ some (.cleared v)) :
  Working (l ++ o.toList) t c
  := by
  constructor
  · apply h.toLast.append hcleared
  · intro j hj
    apply h.asked j (hj.of_append ho)

/-- A build that settles is the one that was the last to clear the flag. -/
theorem Working.settles (h : Working l t c)
    (hreads : failure = none → ∃ snapshot files, Reads l c l.length t snapshot files ∧
      g.snapshot = some snapshot ∧ g.fingerprint = some (Fingerprint.compute files snapshot.types))
    (hkept : ∀ e, failure = some e → g.error = some e.message ∨
      ∃ k v failure', At l k (.settled v failure' g)) :
  Settles (l ++ (some (.settled t failure g)).toList) c l.length t failure g
  := by
  constructor
  · apply h.cleared.append
  · apply at_length
  · apply h.cleared.lt
  · intro k v hk hlt
    have hle := h.last k v (hk.of_append (by simp))
    omega
  · intro hfailure
    obtain ⟨snapshot, files, hread, hg⟩ := hreads hfailure
    use snapshot, files, hread.append _
  · intro e hfailure
    apply (hkept e hfailure).imp_right
    rintro ⟨k, v, failure', hk⟩
    exact ⟨k, v, failure', hk.lt, hk.append _⟩

theorem Reads.append_length {snapshot : Snapshot} {files : UserFiles}
    (h : Reads l c l.length w snapshot files) (o : Option (Event T)) :
  Reads (l ++ o.toList) c (l ++ o.toList).length w snapshot files
  := by
  obtain ⟨i, j, hi, hij, hj, hcaptured, hloaded⟩ := h.append o
  use i, j, hi, hij
  rw [List.length_append]
  exact ⟨by omega, hcaptured, hloaded⟩

/-- A thread knows what it knew as long as others do nothing that its hold of the lock forbids. -/
theorem Knows.append {s s' : Service} {phase : Phase} {o : Option (Event T)}
    (h : Knows s l t phase) (ho : o ≠ some (.asked t))
    (hhold : phase.hold ≠ .none → s'.coordinator.status = s.coordinator.status ∧
      s'.coordinator.current = s.coordinator.current ∧ ∀ v, o ≠ some (.cleared v)) :
  Knows s' (l ++ o.toList) t phase
  := by
  cases phase with
  | idle | asked | looking | waiting | checking | upgrading | begun => trivial
  | seen | confirmed =>
    rw [Knows, (hhold (by simp [Phase.hold])).1]
    use h.1, h.2.append ho
  | cleared | locked =>
    obtain ⟨c, hc⟩ := h
    exact ⟨c, hc.append ho (hhold (by simp [Phase.hold])).2.2⟩
  | captured snapshot =>
    obtain ⟨c, i, hc, hci, hi⟩ := h
    exact ⟨c, i, hc.append ho (hhold (by simp [Phase.hold])).2.2, hci, hi.append o⟩
  | loaded capture =>
    obtain ⟨c, hc, hreads, hfingerprint⟩ := h
    exact ⟨c, hc.append ho (hhold (by simp [Phase.hold])).2.2, hreads.append_length o, hfingerprint⟩
  | made result =>
    cases result with
    | error e =>
      obtain ⟨c, hc⟩ := h
      exact ⟨c, hc.append ho (hhold (by simp [Phase.hold])).2.2⟩
    | ok g =>
      obtain ⟨c, snapshot, files, hc, hreads, hg⟩ := h
      exact ⟨c, snapshot, files, hc.append ho (hhold (by simp [Phase.hold])).2.2,
        hreads.append_length o, hg⟩
  | settled g =>
    obtain ⟨c, d, failure, hc, hsettles, hcurrent⟩ := h
    obtain ⟨-, hsame, hcleared⟩ := hhold (by simp [Phase.hold])
    exact ⟨c, d, failure, hc.append ho hcleared, hsettles.append o, hsame.trans hcurrent⟩
  | answering g =>
    exact Vouches.append h ho

/-! ### Moves -/

variable {s s' : Service} {phase phase' other : Phase} {event : Option (Event T)}

/-- Whoever holds the lock in some way agrees with no exclusive hold. -/
theorem ne_exclusive_of_agrees {a b : Hold} (h : a.agrees b = true) (ha : a ≠ .none) :
  b ≠ .exclusive
  := by
  rintro rfl
  rw [Hold.agrees_comm] at h
  exact ha (Hold.exclusive_agrees_iff.mp h)

/-- Without an exclusive hold nothing is changed, and no flag is cleared. -/
theorem Move.eq_of_ne_exclusive (h : Move t phase s event phase' s') (hold : phase.hold ≠ .exclusive)
    (hold' : phase'.hold ≠ .exclusive) :
  s' = s ∧ ∀ v, event ≠ some (.cleared v)
  := by
  cases h <;> simp_all [Phase.hold]

/-- What others know is not disturbed by a move. -/
theorem Move.spares_others (h : Move t phase s event phase' s')
    (hagrees : other.hold.agrees phase.hold = true) (hagrees' : other.hold.agrees phase'.hold = true)
    (hother : other.hold ≠ .none) :
  s' = s ∧ ∀ v, event ≠ some (.cleared v)
  := by
  apply h.eq_of_ne_exclusive
  · apply ne_exclusive_of_agrees hagrees hother
  · apply ne_exclusive_of_agrees hagrees' hother

/-- The events of a move are those of its thread. -/
theorem Move.thread_eq (h : Move t phase s event phase' s') :
  event ≠ some (.invalidated u) ∧ (event = some (.asked u) → u = t) ∧
    (event = some (.cleared u) → u = t) ∧ (event = some (.finished u) → u = t) ∧
    (event = some (.answered u g) → u = t)
  := by
  cases h <;> simp_all

theorem stale_succeed (s : Service) (g : Generation) :
  (s.succeed g).coordinator.stale = s.coordinator.stale ∧
    (s.succeed g).coordinator.current = some g
  := by
  rw [Service.coordinator_succeed]
  exact ⟨rfl, rfl⟩

theorem stale_fail (s : Service) (e : ModelsError) :
  (s.fail e).1.coordinator.stale = s.coordinator.stale ∧
    (s.fail e).1.coordinator.current = some (s.fail e).2 ∧
    ((s.fail e).2.error = some e.message ∨ s.coordinator.current = some (s.fail e).2)
  := by
  cases h : s.coordinator.current with
  | none =>
    rw [Service.fail_of_none h]
    exact ⟨rfl, rfl, .inl rfl⟩
  | some g =>
    rw [Service.fail_of_some h]
    exact ⟨rfl, h, .inr rfl⟩

/-- Making a generation does not clear the flag of staleness, and uses none yet. -/
theorem stale_generationOf {capture : Service.Capture}
    (hcapture : capture.fingerprint = Fingerprint.compute capture.files capture.snapshot.types) :
  ((s.generationOf capture).1.coordinator.stale = false → s.coordinator.stale = false) ∧
    (s.generationOf capture).1.coordinator.current = s.coordinator.current
  := by
  have hbuilds : Service.Builds s (s.generationOf capture).1 := by
    apply Service.builds_generationOf
    rw [hcapture]
    apply Combiner.isLowerHex_of_mem_text
  refine ⟨?_, hbuilds.current⟩
  obtain ⟨news, -, hstale⟩ := hbuilds.stale
  intro h
  rw [Bool.eq_false_iff] at h ⊢
  intro hold
  apply h (hstale.mpr (.inl hold))

/-- Only clearing makes the models not stale. -/
theorem Move.not_stale (h : Move t phase s event phase' s') (hknows : Knows s l t phase)
    (hstale : s'.coordinator.stale = false) :
  s.coordinator.stale = false ∨ event = some (.cleared t)
  := by
  cases h with
  | clear => exact .inr rfl
  | make _ capture =>
    obtain ⟨c, -, -, hcapture⟩ := hknows
    exact .inl ((stale_generationOf hcapture).1 hstale)
  | publish _ g => exact .inl ((stale_succeed s g).1.symm.trans hstale)
  | keep _ e => exact .inl ((stale_fail s e).1.symm.trans hstale)
  | _ => exact .inl hstale

/-- What is in use after a move was in use before, or has been settled on. -/
theorem Move.current_eq (h : Move t phase s event phase' s') (hknows : Knows s l t phase)
    (hcurrent : s'.coordinator.current = some g) :
  s.coordinator.current = some g ∨ ∃ failure, event = some (.settled t failure g)
  := by
  cases h with
  | make _ capture =>
    obtain ⟨c, -, -, hcapture⟩ := hknows
    exact .inl ((stale_generationOf hcapture).2.symm.trans hcurrent)
  | publish _ g' =>
    obtain rfl := Option.some.inj ((stale_succeed s g').2.symm.trans hcurrent)
    exact .inr ⟨none, rfl⟩
  | keep _ e =>
    have heq := Option.some.inj ((stale_fail s e).2.1.symm.trans hcurrent)
    exact .inr ⟨some e, by rw [heq]⟩
  | _ => exact .inl hcurrent

/-- A thread knows after a move what it should. -/
theorem Move.knows (h : Move t phase s event phase' s') (hknows : Knows s l t phase)
    (hserved : s.coordinator.stale = false →
      ∀ i u, At l i (.invalidated u) → ∃ c w, i < c ∧ At l c (.cleared w))
    (hready : phase.hold ≠ .exclusive → phase.hold ≠ .none → s.coordinator.status = .ready →
      ∀ g, s.coordinator.current = some g →
        ∃ c d w failure, Last l c w ∧ Settles l c d w failure g)
    (hused : ∀ g, s.coordinator.current = some g →
      ∃ k v failure, At l k (.settled v failure g)) :
  Knows s' (l ++ event.toList) t phase'
  := by
  have hcovered : IsFresh s → Covered l t := by
    intro hfresh i j u hi _ _
    apply hserved hfresh.2 i u hi
  have hvouches : ∀ g, phase.hold ≠ .exclusive → phase.hold ≠ .none →
      s.coordinator.status = .ready → Covered l t → s.coordinator.current = some g →
      Vouches l t g := by
    intro g hexclusive hnone hstatus hcovered hcurrent i j u hi hj hlt
    obtain ⟨c, d, w, failure, hlast, hsettles⟩ := hready hexclusive hnone hstatus g hcurrent
    obtain ⟨c', w', hic', hc'⟩ := hcovered i j u hi hj hlt
    exact ⟨c, d, w, failure, Nat.lt_of_lt_of_le hic' (hlast.last c' w' hc'), hsettles⟩
  cases h with
  | ask | look | miss h | lack h | check | refute h | relack h | begin | answer => trivial
  | see h | confirm h =>
    simp only [Option.toList_none, List.append_nil]
    exact ⟨h.1, hcovered h⟩
  | take h | retake h =>
    simp only [Option.toList_none, List.append_nil]
    exact hvouches _ (by simp [Phase.hold]) (by simp [Phase.hold]) hknows.1 hknows.2 h
  | clear =>
    use l.length, last_length l t
    intro j hj
    exact (hj.of_append (by simp)).lt
  | lock h | failLock h | failCapture h =>
    simp only [Option.toList_none, List.append_nil]
    exact hknows
  | @capture _ snapshot h =>
    obtain ⟨c, hc⟩ := hknows
    exact ⟨c, l.length, hc.append (by simp) (by simp), hc.cleared.lt, at_length l _⟩
  | @load _ snapshot files h =>
    obtain ⟨c, i, hc, hci, hi⟩ := hknows
    refine ⟨c, hc.append (by simp) (by simp), ?_, rfl⟩
    use i, l.length, hci, hi.lt, by simp, hi.append _, at_length l _
  | failLoad h =>
    simp only [Option.toList_none, List.append_nil]
    obtain ⟨c, i, hc, -, -⟩ := hknows
    exact ⟨c, hc⟩
  | make _ capture =>
    simp only [Option.toList_none, List.append_nil]
    obtain ⟨c, hc, hreads, hfingerprint⟩ := hknows
    cases hresult : (s.generationOf capture).2 with
    | error e => exact ⟨c, hc⟩
    | ok g =>
      obtain ⟨-, -, -, -, hg, hsnapshot, -⟩ :=
        Service.exists_of_generationOf_eq_ok (Prod.ext rfl hresult)
      exact ⟨c, capture.snapshot, capture.files, hc, hreads, hsnapshot, by rw [hg, hfingerprint]⟩
  | publish _ g =>
    obtain ⟨c, snapshot, files, hc, hreads, hg⟩ := hknows
    refine ⟨c, l.length, none, hc.append (by simp) (by simp), ?_, (stale_succeed s g).2⟩
    apply hc.settles
    · intro _
      use snapshot, files
    · intro e hfailure
      cases hfailure
  | keep _ e =>
    obtain ⟨c, hc⟩ := hknows
    obtain ⟨-, hcurrent, hkept⟩ := stale_fail s e
    refine ⟨c, l.length, some e, hc.append (by simp) (by simp), ?_, hcurrent⟩
    apply hc.settles
    · intro hfailure
      cases hfailure
    · intro e' hfailure
      cases hfailure
      apply hkept.imp_right (hused _)
  | finish _ g =>
    obtain ⟨c, d, failure, hc, hsettles, -⟩ := hknows
    intro i j u hi hj hlt
    have hj' := hj.of_append (by simp)
    have hjc := hc.asked j hj'
    exact ⟨c, d, t, failure, by omega, hsettles.append _⟩

/-! ### The invariant -/

/-- Whether a thread in a phase has cleared the flag in a build that it has not finished. -/
def HasCleared : Phase → Prop
  | .cleared | .locked | .captured _ | .loaded _ | .made _ | .settled _ => True
  | _ => False

theorem hold_of_hasCleared (h : HasCleared phase) :
  phase.hold = .exclusive
  := by
  cases phase <;> first | rfl | cases h

/-- Clearing the flag begins what is to be finished. -/
theorem Move.hasCleared_of_cleared (h : Move t phase s event phase' s')
    (hevent : event = some (.cleared u)) :
  HasCleared phase'
  := by
  cases h <;> simp_all [HasCleared]

/-- A build that has cleared the flag goes on without clearing it again, or finishes. -/
theorem Move.hasCleared_or_finished (h : Move t phase s event phase' s') (hphase : HasCleared phase) :
  (HasCleared phase' ∧ ∀ v, event ≠ some (.cleared v)) ∨ event = some (.finished t)
  := by
  cases h <;> simp_all [HasCleared]

/-- The lock is given back when a build finishes. -/
theorem Move.eq_finish (h : Move t phase s event phase' s') (hold : phase.hold = .exclusive)
    (hold' : phase'.hold ≠ .exclusive) :
  ∃ g, phase = .settled g ∧ event = some (.finished t) ∧ s' = s.endBuild
  := by
  cases h <;> simp_all [Phase.hold]

theorem Move.eq_answer (h : Move t phase s event phase' s')
    (hevent : event = some (.answered u g)) :
  u = t ∧ phase = .answering g
  := by
  cases h <;> simp_all

/-- What holds of the threads at any time. -/
structure Invariant (m : Threads T) : Prop where
  locks : ∀ t u, t ≠ u → (m.phase t).hold.agrees (m.phase u).hold = true
  knows : ∀ t, Knows m.service m.log t (m.phase t)
  /-- While the models are not stale, no invalidation has come after the last clearing. -/
  served : m.service.coordinator.stale = false →
    ∀ i u, At m.log i (.invalidated u) → ∃ c w, i < c ∧ At m.log c (.cleared w)
  /-- While the models are ready, what is in use was settled after the last clearing. -/
  ready : (∀ t, (m.phase t).hold ≠ .exclusive) → m.service.coordinator.status = .ready →
    ∀ g, m.service.coordinator.current = some g →
      ∃ c d w failure, Last m.log c w ∧ Settles m.log c d w failure g
  used : ∀ g, m.service.coordinator.current = some g →
    ∃ k v failure, At m.log k (.settled v failure g)
  /-- The last clearing is the only one whose build may not have finished. -/
  ends : ∀ c w, At m.log c (.cleared w) →
    (∃ f, c < f ∧ At m.log f (.finished w)) ∨ HasCleared (m.phase w) ∧ Last m.log c w
  /-- No other build clears the flag before the one that cleared it has finished. -/
  alone : ∀ c f w, At m.log c (.cleared w) → At m.log f (.finished w) → c < f →
    (∀ k, c < k → k < f → ¬ At m.log k (.finished w)) →
    ∀ k v, c < k → k < f → ¬ At m.log k (.cleared v)
  answers : ∀ k t g, At m.log k (.answered t g) → ∀ i j u, At m.log i (.invalidated u) →
    At m.log j (.asked t) → i < j → j < k →
      ∃ c d w failure, i < c ∧ d < k ∧ Settles m.log c d w failure g

/-- What has been observed is not changed by what neither clears nor finishes nor answers. -/
theorem Invariant.append {m : Threads T} {s' : Service} {o : Option (Event T)} (h : Invariant m)
    (hstatus : s'.coordinator.status = m.service.coordinator.status)
    (hcurrent : s'.coordinator.current = m.service.coordinator.current)
    (hstale : s'.coordinator.stale = false → m.service.coordinator.stale = false ∧
      ∀ u, o ≠ some (.invalidated u))
    (hevent : ∀ v, o ≠ some (.asked v) ∧ o ≠ some (.cleared v) ∧ o ≠ some (.finished v) ∧
      ∀ g, o ≠ some (.answered v g)) :
  Invariant ⟨s', m.phase, m.log ++ o.toList⟩
  := by
  constructor
  · apply h.locks
  · intro t
    apply (h.knows t).append (hevent t).1
    intro _
    exact ⟨hstatus, hcurrent, fun v => (hevent v).2.1⟩
  · intro hfalse i u hi
    obtain ⟨hold, hnone⟩ := hstale hfalse
    obtain ⟨c, w, hic, hc⟩ := h.served hold i u (hi.of_append (hnone u))
    exact ⟨c, w, hic, hc.append o⟩
  · intro hshared hready g hg
    obtain ⟨c, d, w, failure, hlast, hsettles⟩ :=
      h.ready hshared (hstatus.symm.trans hready) g (hcurrent.symm.trans hg)
    exact ⟨c, d, w, failure, hlast.append fun v => (hevent v).2.1, hsettles.append o⟩
  · intro g hg
    obtain ⟨k, v, failure, hk⟩ := h.used g (hcurrent.symm.trans hg)
    exact ⟨k, v, failure, hk.append o⟩
  · intro c w hc
    rcases h.ends c w (hc.of_append (hevent w).2.1) with ⟨f, hf, hfinished⟩ | ⟨hphase, hlast⟩
    · exact .inl ⟨f, hf, hfinished.append o⟩
    · exact .inr ⟨hphase, hlast.append fun v => (hevent v).2.1⟩
  · intro c f w hc hf hlt hnone k v hck hkf hk
    apply h.alone c f w (hc.of_append (hevent w).2.1) (hf.of_append (hevent w).2.2.1) hlt _ k v hck
      hkf (hk.of_append (hevent v).2.1)
    intro k' hk' hkf' hfinished
    apply hnone k' hk' hkf' (hfinished.append o)
  · intro k t g hk i j u hi hj hij hjk
    have hk' := hk.of_append ((hevent t).2.2.2 g)
    have hj' := hj.of_append (hevent t).1
    rcases at_append_iff.mp hi with hi' | ⟨rfl, -⟩
    · obtain ⟨c, d, w, failure, hic, hdk, hsettles⟩ := h.answers k t g hk' i j u hi' hj' hij hjk
      exact ⟨c, d, w, failure, hic, hdk, hsettles.append o⟩
    · exact absurd hj'.lt (Nat.lt_asymm hij)

/-! ### Moves of a thread to which the others leave the lock -/

section Moves

variable {m : Threads T}

/-- While another thread holds the lock in some way, a move changes nothing. -/
theorem Invariant.spared (h : Invariant m) (hmove : Move t (m.phase t) m.service event phase s)
    (hlock : ∀ u, u ≠ t → (m.phase u).hold.agrees phase.hold = true) (hu : u ≠ t)
    (hhold : (m.phase u).hold ≠ .none) :
  s = m.service ∧ ∀ v, event ≠ some (.cleared v)
  := by
  apply hmove.spares_others (h.locks u t hu) (hlock u hu) hhold

/-- A thread that shares the lock finds what the last clearing has led to. -/
theorem Invariant.ready_of_shares (h : Invariant m) (hexclusive : (m.phase t).hold ≠ .exclusive)
    (hnone : (m.phase t).hold ≠ .none) (hstatus : m.service.coordinator.status = .ready)
    (hg : m.service.coordinator.current = some g) :
  ∃ c d w failure, Last m.log c w ∧ Settles m.log c d w failure g
  := by
  apply h.ready _ hstatus g hg
  intro u
  by_cases hu : u = t
  · rwa [hu]
  · apply ne_exclusive_of_agrees (h.locks t u (Ne.symm hu)) hnone

theorem Invariant.served_move (h : Invariant m)
    (hmove : Move t (m.phase t) m.service event phase s) (hstale : s.coordinator.stale = false)
    (hi : At (m.log ++ event.toList) i (.invalidated u)) :
  ∃ c w, i < c ∧ At (m.log ++ event.toList) c (.cleared w)
  := by
  have hi' := hi.of_append (hmove.thread_eq (g := default)).1
  rcases hmove.not_stale (h.knows t) hstale with hold | rfl
  · obtain ⟨c, w, hic, hc⟩ := h.served hold i u hi'
    exact ⟨c, w, hic, hc.append event⟩
  · exact ⟨m.log.length, t, hi'.lt, at_length m.log _⟩

theorem Invariant.used_move (h : Invariant m)
    (hmove : Move t (m.phase t) m.service event phase s) (hg : s.coordinator.current = some g) :
  ∃ k v failure, At (m.log ++ event.toList) k (.settled v failure g)
  := by
  rcases hmove.current_eq (h.knows t) hg with hold | ⟨failure, rfl⟩
  · obtain ⟨k, v, failure, hk⟩ := h.used g hold
    exact ⟨k, v, failure, hk.append event⟩
  · exact ⟨m.log.length, t, failure, at_length m.log _⟩

/-- A build that finishes is the one that was the last to clear the flag, and no other has cleared it
since. -/
theorem Invariant.alone_move (h : Invariant m)
    (hc : At (m.log ++ event.toList) c (.cleared w))
    (hf : At (m.log ++ event.toList) f (.finished w)) (hcf : c < f)
    (hnone : ∀ k, c < k → k < f → ¬ At (m.log ++ event.toList) k (.finished w)) (hck : c < k)
    (hkf : k < f) :
  ¬ At (m.log ++ event.toList) k (.cleared v)
  := by
  intro hk
  rcases at_append_iff.mp hf with hold | ⟨rfl, -⟩
  · have hlt := hold.lt
    have hc' := hc.of_lt_length (by omega)
    have hk' := hk.of_lt_length (by omega)
    apply h.alone c f w hc' hold hcf _ k v hck hkf hk'
    intro i hi hif hfinished
    exact hnone i hi hif (hfinished.append event)
  · rcases h.ends c w (hc.of_lt_length hcf) with ⟨i, hi, hfinished⟩ | ⟨-, hlast⟩
    · exact hnone i hi hfinished.lt (hfinished.append event)
    · exact absurd (hlast.last k v (hk.of_lt_length hkf)) (by omega)

/-- What is answered was vouched for when it was looked up. -/
theorem Invariant.answers_move (h : Invariant m)
    (hmove : Move t (m.phase t) m.service event phase s)
    (hk : At (m.log ++ event.toList) k (.answered u g))
    (hi : At (m.log ++ event.toList) i (.invalidated v))
    (hj : At (m.log ++ event.toList) j (.asked u)) (hij : i < j) (hjk : j < k) :
  ∃ c d w failure, i < c ∧ d < k ∧ Settles (m.log ++ event.toList) c d w failure g
  := by
  rcases at_append_iff.mp hk with hold | ⟨rfl, hevent⟩
  · have hlt := hold.lt
    have hi' := hi.of_lt_length (by omega)
    have hj' := hj.of_lt_length (by omega)
    obtain ⟨c, d, w, failure, hic, hdk, hsettles⟩ := h.answers k u g hold i j v hi' hj' hij hjk
    exact ⟨c, d, w, failure, hic, hdk, hsettles.append event⟩
  · obtain ⟨rfl, hphase⟩ := hmove.eq_answer hevent
    have hvouches := h.knows u
    rw [hphase] at hvouches
    have hi' := hi.of_lt_length (by omega)
    obtain ⟨c, d, w, failure, hic, hsettles⟩ := hvouches i j v hi' (hj.of_lt_length hjk) hij
    exact ⟨c, d, w, failure, hic, hsettles.settled.lt, hsettles.append event⟩

variable [DecidableEq T]

theorem Invariant.locks_move (h : Invariant m)
    (hlock : ∀ u, u ≠ t → (m.phase u).hold.agrees phase.hold = true) (huv : u ≠ v) :
  (Function.update m.phase t phase u).hold.agrees (Function.update m.phase t phase v).hold = true
  := by
  by_cases hu : u = t
  · subst hu
    simp only [Function.update_self, Function.update_of_ne (Ne.symm huv)]
    rw [Hold.agrees_comm]
    apply hlock v (Ne.symm huv)
  · by_cases hv : v = t
    · subst hv
      simp only [Function.update_self, Function.update_of_ne hu]
      apply hlock u hu
    · simp only [Function.update_of_ne hu, Function.update_of_ne hv]
      apply h.locks u v huv

theorem Invariant.knows_move (h : Invariant m)
    (hmove : Move t (m.phase t) m.service event phase s)
    (hlock : ∀ u, u ≠ t → (m.phase u).hold.agrees phase.hold = true) (u : T) :
  Knows s (m.log ++ event.toList) u (Function.update m.phase t phase u)
  := by
  by_cases hu : u = t
  · subst hu
    have hown := hmove.knows (h.knows u) h.served
      (fun hexclusive hnone hstatus _ hg => h.ready_of_shares hexclusive hnone hstatus hg) h.used
    simpa using hown
  · simp only [Function.update_of_ne hu]
    apply (h.knows u).append
    · intro hasked
      apply hu (hmove.thread_eq (g := default).2.1 hasked)
    · intro hhold
      obtain ⟨rfl, hcleared⟩ := h.spared hmove hlock hu hhold
      exact ⟨rfl, rfl, hcleared⟩

/-- The lock is free for requests again after the build that was the last to clear the flag. -/
theorem Invariant.ready_move (h : Invariant m)
    (hmove : Move t (m.phase t) m.service event phase s)
    (hshared : ∀ u, (Function.update m.phase t phase u).hold ≠ .exclusive)
    (hstatus : s.coordinator.status = .ready) (hg : s.coordinator.current = some g) :
  ∃ c d w failure, Last (m.log ++ event.toList) c w ∧
    Settles (m.log ++ event.toList) c d w failure g
  := by
  have hphase : phase.hold ≠ .exclusive := by simpa using hshared t
  by_cases hold : (m.phase t).hold = .exclusive
  · obtain ⟨g', hsettled, rfl, rfl⟩ := hmove.eq_finish hold hphase
    have hknows := h.knows t
    rw [hsettled] at hknows
    obtain ⟨c, d, failure, hc, hsettles, hcurrent⟩ := hknows
    obtain rfl : g' = g := Option.some.inj (hcurrent.symm.trans hg)
    exact ⟨c, d, t, failure, hc.toLast.append (by simp), hsettles.append _⟩
  · obtain ⟨rfl, hcleared⟩ := hmove.eq_of_ne_exclusive hold hphase
    have hshared' : ∀ u, (m.phase u).hold ≠ .exclusive := by
      intro u
      by_cases hu : u = t
      · rwa [hu]
      · simpa [Function.update_of_ne hu] using hshared u
    obtain ⟨c, d, w, failure, hlast, hsettles⟩ := h.ready hshared' hstatus g hg
    exact ⟨c, d, w, failure, hlast.append hcleared, hsettles.append event⟩

theorem Invariant.ends_move (h : Invariant m)
    (hmove : Move t (m.phase t) m.service event phase s)
    (hlock : ∀ u, u ≠ t → (m.phase u).hold.agrees phase.hold = true)
    (hc : At (m.log ++ event.toList) c (.cleared w)) :
  (∃ f, c < f ∧ At (m.log ++ event.toList) f (.finished w)) ∨
    HasCleared (Function.update m.phase t phase w) ∧ Last (m.log ++ event.toList) c w
  := by
  rcases at_append_iff.mp hc with hc' | ⟨rfl, hevent⟩
  · rcases h.ends c w hc' with ⟨f, hf, hfinished⟩ | ⟨hphase, hlast⟩
    · exact .inl ⟨f, hf, hfinished.append event⟩
    · by_cases hw : w = t
      · subst hw
        rcases hmove.hasCleared_or_finished hphase with ⟨hphase', hcleared⟩ | rfl
        · refine .inr ⟨?_, hlast.append hcleared⟩
          simpa using hphase'
        · exact .inl ⟨m.log.length, hc'.lt, at_length m.log _⟩
      · obtain ⟨-, hcleared⟩ := h.spared hmove hlock hw (by simp [hold_of_hasCleared hphase])
        refine .inr ⟨?_, hlast.append hcleared⟩
        simpa [Function.update_of_ne hw] using hphase
  · obtain rfl := hmove.thread_eq (g := default).2.2.1 hevent
    subst hevent
    refine .inr ⟨?_, last_length m.log w⟩
    simpa using hmove.hasCleared_of_cleared rfl

theorem Invariant.move (h : Invariant m) (hmove : Move t (m.phase t) m.service event phase s)
    (hlock : ∀ u, u ≠ t → (m.phase u).hold.agrees phase.hold = true) :
  Invariant ⟨s, Function.update m.phase t phase, m.log ++ event.toList⟩
  := by
  constructor
  · intro u v huv
    apply h.locks_move hlock huv
  · apply h.knows_move hmove hlock
  · intro hstale i u hi
    apply h.served_move hmove hstale hi
  · intro hshared hstatus g hg
    apply h.ready_move hmove hshared hstatus hg
  · intro g hg
    apply h.used_move hmove hg
  · intro c w hc
    apply h.ends_move hmove hlock hc
  · intro c f w hc hf hcf hnone k v hck hkf
    apply h.alone_move hc hf hcf hnone hck hkf
  · intro k u g hk i j v hi hj hij hjk
    apply h.answers_move hmove hk hi hj hij hjk

end Moves

/-- The invariant holds of all that is reached. -/
theorem Reached.invariant [DecidableEq T] {m : Threads T} (h : Reached m) :
  Invariant m
  := by
  induction h with
  | start store policy options cache script tree lockHeld now =>
    constructor
    · intro t u _
      rfl
    · intro t
      trivial
    · intro hfalse
      cases hfalse
    · intro _ hready
      cases hready
    · intro g hg
      cases hg
    · intro c w hc
      cases hc
    · intro c f w hc
      cases hc
    · intro k t g hk
      cases hk
  | @step before _ h hstep ih =>
    cases hstep with
    | move t hmove hlock => apply ih.move hmove hlock
    | invalidate t =>
      apply ih.append (o := some (.invalidated t))
      · rw [Service.coordinator_invalidate]
      · rw [Service.coordinator_invalidate]
      · intro hfalse
        rw [Service.coordinator_invalidate] at hfalse
        cases hfalse
      · simp
    | elsewhere store script tree lockHeld now =>
      let next : Service :=
        ⟨{ before.service.coordinator with store, script }, tree, lockHeld, now⟩
      have hsame : Invariant ⟨next, before.phase, before.log ++ none.toList⟩ :=
        ih.append rfl rfl (by simp [next]) (by simp)
      simpa using hsame

/-! ### Invalidations -/

/-- A request that begins after an invalidation is answered with what a build has settled that
cleared the flag after the invalidation, and captured schema and files after that. A build in the
middle of which an invalidation arrives leaves the models stale, and a request that begins after the
invalidation is answered only after another build has begun. -/
theorem Reached.no_invalidation_lost [DecidableEq T] {m : Threads T} (h : Reached m) :
  (∀ i j k u t g, At m.log i (.invalidated u) → i < j → At m.log j (.asked t) → j < k →
      At m.log k (.answered t g) →
      ∃ c d w failure, i < c ∧ d < k ∧ Settles m.log c d w failure g) ∧
    ∀ c i f w u, At m.log c (.cleared w) → c < i → At m.log i (.invalidated u) → i < f →
      At m.log f (.finished w) → (∀ k, c < k → k < f → ¬ At m.log k (.finished w)) →
      (m.log.length = f + 1 → m.service.coordinator.stale = true) ∧
        ∀ j k t g, i < j → At m.log j (.asked t) → j < k → At m.log k (.answered t g) →
          ∃ c' w', f < c' ∧ c' < k ∧ At m.log c' (.cleared w')
  := by
  have hinvariant := h.invariant
  have hanswers : ∀ i j k u t g, At m.log i (.invalidated u) → i < j → At m.log j (.asked t) →
      j < k → At m.log k (.answered t g) →
      ∃ c d w failure, i < c ∧ d < k ∧ Settles m.log c d w failure g := by
    intro i j k u t g hi hij hj hjk hk
    apply hinvariant.answers k t g hk i j u hi hj hij hjk
  use hanswers
  intro c i f w u hc hci hi hif hf hnone
  have halone := hinvariant.alone c f w hc hf (by omega) hnone
  constructor
  · intro hlength
    by_contra hstale
    obtain ⟨c', w', hic', hc'⟩ := hinvariant.served (by simpa using hstale) i u hi
    have hlt := hc'.lt
    rcases Nat.lt_or_eq_of_le (show c' ≤ f by omega) with hc'f | rfl
    · exact halone c' w' (by omega) hc'f hc'
    · cases hf.symm.trans hc'
  · intro j k t g hij hj hjk hk
    obtain ⟨c', d, w', failure, hic', hdk, hsettles⟩ := hanswers i j k u t g hi hij hj hjk hk
    refine ⟨c', w', ?_, ?_, hsettles.cleared⟩
    · by_contra hle
      rcases Nat.lt_or_eq_of_le (Nat.not_lt.mp hle) with hc'f | rfl
      · exact halone c' w' (by omega) hc'f hsettles.cleared
      · cases hf.symm.trans hsettles.cleared
    · have hlt := hsettles.lt
      omega

/-- One thread asks while another one invalidates twice, before and in the middle of a build that
fails for want of the lock. -/
theorem locked_loses_no_invalidation :
  ∃ m m' : Threads Bool, Reached m ∧ At m.log 2 (.cleared false) ∧ At m.log 3 (.invalidated true) ∧
    At m.log 5 (.finished false) ∧ m.log.length = 6 ∧ m.service.coordinator.stale = true ∧
    Step m m' ∧ ∃ g c d w failure, At m'.log 6 (.answered false g) ∧ 0 < c ∧ d < 6 ∧
      Settles m'.log c d w failure g
  := by
  let s := Service.locked
  let begun := { s.beginBuild with coordinator := { s.beginBuild.coordinator with stale := true } }
  let cleared := s.beginBuild.invalidate
  let e := ModelsError.lockTimeout ⟨"models/models.lock"⟩ 120000
  let tree := (cleared.coordinator.cache.acquireLock cleared.tree true 120000).1
  let failed := { cleared with tree := tree }
  have hresult : (cleared.coordinator.cache.acquireLock cleared.tree true 120000).2 = .error e := by
    decide +kernel
  have hlocked : cleared.coordinator.cache.acquireLock cleared.tree true 120000 = (tree, .error e) := by
    rw [← hresult]
  have hidle : lone false .idle s [] = ⟨s, fun _ => .idle, []⟩ := by
    simp [lone]
  have hstart : Reached (lone false .idle s []) := by
    rw [hidle]
    apply Reached.start
  have hinvalidated : Reached (lone false .idle s [.invalidated true]) :=
    hstart.step (.invalidate _ true)
  have hasked := hinvalidated.step ((Move.ask s).step_lone _)
  have hlooking := hasked.step ((Move.look s).step_lone _)
  have hwaiting := hlooking.step ((Move.miss (by decide)).step_lone _)
  have hchecking := hwaiting.step ((Move.check s).step_lone _)
  have hupgrading := hchecking.step ((Move.refute (by decide)).step_lone _)
  have hbegun : Reached (lone false .begun begun _) :=
    hupgrading.step ((Move.begin s).step_lone _)
  have hcleared : Reached (lone false .cleared s.beginBuild _) :=
    hbegun.step ((Move.clear begun).step_lone _)
  have hagain : Reached (lone false .cleared cleared _) := hcleared.step (.invalidate _ true)
  have hmade := hagain.step ((Move.failLock hlocked).step_lone _)
  have hsettled := hmade.step ((Move.keep failed e).step_lone _)
  have hfinished := hsettled.step ((Move.finish _ _).step_lone _)
  have hanswered := (Move.answer (failed.fail e).1.endBuild (failed.fail e).2).step_lone (t := false)
    [.invalidated true, .asked false, .cleared false, .invalidated true,
      .settled false (some e) (failed.fail e).2, .finished false]
  refine ⟨_, _, hfinished, rfl, rfl, rfl, rfl, ?_, hanswered, (failed.fail e).2, ?_⟩
  · apply ((hfinished.no_invalidation_lost).2 2 3 5 false true rfl _ rfl _ rfl _).1 rfl
    · decide
    · decide
    · intro k hk hk' hfinish
      interval_cases k <;> cases hfinish
  · obtain ⟨c, d, w, failure, hc, hd, hsettles⟩ :=
      (hfinished.step hanswered).no_invalidation_lost.1 0 1 6 true false _ rfl (by decide) rfl
        (by decide) rfl
    exact ⟨c, d, w, failure, rfl, hc, hd, hsettles⟩

end LiveModels.Threads
