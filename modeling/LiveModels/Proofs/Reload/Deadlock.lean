import LiveModels.Proofs.Reload.Callers
import Mathlib.Data.Fintype.Fin
import Mathlib.Tactic.FinCases

/-!
# Threads do not wait for each other in a circle

The locks are ranked: the compilation lock comes first, then the state, which is looked at or set
apart before it is written, and then the out-of-date flag and the noted error. Whoever is waited for
is not waiting itself, or waits for a lock of higher rank than the one that it keeps. A thread that
has the state may call the compiler, and then has the compilation lock already; since no other
thread can have it, such a call does not wait.

Two things are kept by every step, and this follows from them: the calls of one thread stand on each
other in few ways only, and what two threads hold agrees.
-/

namespace LiveModels

/-- The order in which locks are taken; a state that is read may still be written. -/
def Lock.rank : Lock × Hold → ℕ
  | (.host, _) => 0
  | (.state, .exclusive) => 2
  | (.state, _) => 1
  | (.flag, _) | (.error, _) => 3

theorem Lock.rank_le (w : Lock × Hold) :
  Lock.rank w ≤ 3
  := by
  obtain ⟨l, h⟩ := w
  cases l <;> cases h <;> decide

/-- Both the compilation lock and the state come before the other locks. -/
theorem Lock.rank_lt {w : Lock × Hold} (h : w.1 = .host ∨ w.1 = .state) :
  Lock.rank w < 3
  := by
  obtain ⟨l, k⟩ := w
  rcases h with rfl | rfl <;> cases k <;> decide

namespace Frame

variable {f g : Frame} {x : Section} {stage : Stage} {l : Lock} {w w' : Lock × Hold}

/-! ### Calls on top of each other -/

/-- Whether a call is an invalidation, or a report of the status. -/
inductive IsLight : Frame → Prop
  | invalidate : IsLight (.before .invalidate)
  | invalidating : IsLight (.inside .invalidate)
  | glancing : IsLight .glancing
  | glanced : IsLight .glanced
  | report : IsLight (.before .report)
  | reporting : IsLight (.inside .report)

/-- What an innermost call may be, and what it has been called from. -/
inductive Over : Frame → Frame → Prop
  | before {stage : Stage} {x : Section} (h : stage.section? = some x) :
    Over (.before x) (.building stage)
  | inside {stage : Stage} {x : Section} (h : stage.section? = some x) :
    Over (.inside x) (.building stage)
  | light {f : Frame} (h : f.IsLight) (stage : Stage) : Over f (.building stage)
  | asking : Over (.before .observe) (.inside .dependent)
  | asked : Over (.inside .observe) (.inside .dependent)
  | observing : Over .observing (.inside .dependent)
  | leaving : Over .leaving (.inside .dependent)

/-- How the calls of one thread may stand on each other. -/
inductive IsProper : List Frame → Prop
  | nil : IsProper []
  | one (f : Frame) : IsProper [f]
  | two {f g : Frame} (h : f.Over g) : IsProper [f, g]

/-- The sections that a build calls. -/
theorem mem_section (h : stage.section? = some x) :
  x = .compile ∨ x = .note ∨ x = .unflag
  := by
  unfold Stage.section? at h
  split at h <;> cases h <;> simp

theorem Calls.over (h : f.Calls g) :
  g.Over f
  := by
  cases h with
  | work h => exact .before h
  | invalidate stage => exact .light .invalidate stage
  | status stage => exact .light .glancing stage
  | observe => exact .asking

/-! ### What is held, and what is waited for -/

theorem keepsOff_before (x : Section) (w : Lock × Hold) :
  (before x).keepsOff w = false
  := by
  unfold keepsOff reserves hold
  rw [Hold.none_agrees]
  rfl

/-- A section keeps others from its lock only. -/
theorem lock_eq_of_keepsOff (h : (inside x).keepsOff w = true) :
  w.1 = x.lock
  := by
  by_contra hne
  simp [keepsOff, reserves, hold, hne, Hold.none_agrees] at h

theorem host_or_state_of_keepsOff (h : (building stage).keepsOff w = true) :
  w.1 = .host ∨ w.1 = .state
  := by
  by_contra hne
  rw [not_or] at hne
  rw [keepsOff_building hne.1 hne.2] at h
  cases h

/-- What is promised is more than what is held. -/
theorem hold_agrees_of_reserves {h : Hold} (hagrees : (f.reserves l).agrees h = true) :
  (f.hold l).agrees h = true
  := by
  unfold reserves at hagrees
  split at hagrees
  · rw [Hold.exclusive_agrees_iff.mp hagrees]
    apply Hold.agrees_none
  · exact hagrees

/-- Only the state is promised. -/
theorem reserves_host (f : Frame) :
  f.reserves .host = f.hold .host
  := by
  cases f <;> rfl

theorem eq_upgrading (h : f.want = some (.state, .exclusive)) :
  f = .upgrading
  := by
  cases f with
  | before x => cases x <;> cases h
  | inside x => cases x <;> cases h
  | upgrading => rfl
  | asked | looking | checking | building | observing | leaving | glancing | glanced => cases h

/-- An invalidation or a report waits for neither the compilation lock nor the state. -/
theorem IsLight.want (h : f.IsLight) (hw : f.want = some w) :
  w.1 = .flag ∨ w.1 = .error
  := by
  cases h <;> cases hw
  case invalidate => exact .inl rfl
  case report => exact .inr rfl

/-- Calls are made out of others with the compilation lock only. -/
theorem Over.hold_host (h : f.Over g) :
  g.hold .host = .exclusive
  := by
  cases h <;> rfl

/-- Who wants the compilation lock in a call holds nothing by it yet. -/
theorem hold_eq_none (hw : f.want = some w) (hhost : w.1 = .host) (l : Lock) :
  f.hold l = .none
  := by
  cases f with
  | before => rfl
  | inside x => cases x <;> cases hw <;> cases hhost
  | asked => rfl
  | upgrading =>
    cases hw
    cases hhost
  | looking | checking | building | observing | leaving | glancing | glanced => cases hw

/-- A call that keeps others from a lock waits for one of higher rank, unless both are about to
write. -/
theorem rank_lt (hw' : f.want = some w') (hkeeps : f.keepsOff w = true) :
  Lock.rank w < Lock.rank w' ∨ f = .upgrading ∧ w = (.state, .exclusive)
  := by
  obtain ⟨l, h⟩ := w
  cases f with
  | before x =>
    rw [keepsOff_before] at hkeeps
    cases hkeeps
  | inside x =>
    have hlock := lock_eq_of_keepsOff hkeeps
    cases x <;> cases hw' <;> cases hlock <;> simp [Lock.rank]
  | asked => cases hkeeps
  | upgrading =>
    cases hw'
    cases l with
    | host => simp [Lock.rank]
    | state => cases h <;> simp [Lock.rank]
    | flag | error => cases hkeeps
  | looking | checking | building | observing | leaving | glancing | glanced => cases hw'

/-- A call from which another one has been made keeps others from locks of lower rank only. -/
theorem Over.rank_lt (h : f.Over g) (hw' : f.want = some w') (hhost : w'.1 ≠ .host)
    (hkeeps : g.keepsOff w = true) :
  Lock.rank w < Lock.rank w'
  := by
  cases h with
  | before hx =>
    have hlt := Lock.rank_lt (host_or_state_of_keepsOff hkeeps)
    cases hw'
    rcases mem_section hx with rfl | rfl | rfl
    · exact absurd rfl hhost
    · exact hlt
    · exact hlt
  | inside hx => rcases mem_section hx with rfl | rfl | rfl <;> cases hw'
  | light hlight =>
    have hlt := Lock.rank_lt (host_or_state_of_keepsOff hkeeps)
    obtain ⟨l, h⟩ := w'
    rcases hlight.want hw' with rfl | rfl
    · exact hlt
    · exact hlt
  | asking =>
    cases hw'
    exact absurd rfl hhost
  | asked =>
    obtain ⟨l, h⟩ := w
    cases hw'
    cases lock_eq_of_keepsOff hkeeps
    exact Nat.zero_lt_one
  | observing | leaving => cases hw'

end Frame

namespace Callers

open LiveModels.Frame

variable {T : Type} {t u v : T} {calls calls' rest : List Frame} {f g : Frame} {s s' : Service}
variable {w w' : Lock × Hold} {l : Lock}

/-! ### The calls of one thread -/

/-- A thread that is waited for and waits itself has the compilation lock and wants it again, or
wants a lock of higher rank, or is about to write. -/
theorem rank_lt_of_isProper (h : IsProper calls) (hw' : calls.head?.bind Frame.want = some w')
    (hg : g ∈ calls) (hkeeps : g.keepsOff w = true) :
  (w'.1 = .host ∧ ∃ k ∈ calls, k.hold .host = .exclusive) ∨ Lock.rank w < Lock.rank w' ∨
    .upgrading ∈ calls ∧ w = (.state, .exclusive)
  := by
  have hhead : ∀ {f}, f.want = some w' → f.keepsOff w = true → f ∈ calls →
      Lock.rank w < Lock.rank w' ∨ .upgrading ∈ calls ∧ w = (.state, .exclusive) := by
    intro f hf hkeeps hmem
    rcases Frame.rank_lt hf hkeeps with hlt | ⟨rfl, hw⟩
    · exact .inl hlt
    · exact .inr ⟨hmem, hw⟩
  cases h with
  | nil => cases hg
  | one f =>
    cases List.mem_singleton.mp hg
    exact .inr (hhead hw' hkeeps hg)
  | two hover =>
    rcases List.mem_pair.mp hg with rfl | rfl
    · exact .inr (hhead hw' hkeeps hg)
    · by_cases hhost : w'.1 = .host
      · exact .inl ⟨hhost, g, hg, hover.hold_host⟩
      · exact .inr (.inl (hover.rank_lt hw' hhost hkeeps))

/-- A thread that wants the compilation lock has it already, or holds nothing. -/
theorem hold_host_of_isProper (h : IsProper calls) (hw : calls.head?.bind Frame.want = some w)
    (hhost : w.1 = .host) :
  (∃ f ∈ calls, f.hold .host = .exclusive) ∨ ∀ f ∈ calls, ∀ l, f.hold l = .none
  := by
  cases h with
  | nil => cases hw
  | one f =>
    right
    intro g hg
    cases List.mem_singleton.mp hg
    exact hold_eq_none hw hhost
  | @two f g hover => exact .inl ⟨g, by simp, hover.hold_host⟩

/-- Nothing is called from an invalidation or a report. -/
theorem head_of_isLight (h : IsProper calls) (hf : f ∈ calls) (hlight : f.IsLight) :
  calls.head? = some f
  := by
  cases h with
  | nil => cases hf
  | one => rw [List.mem_singleton.mp hf]; rfl
  | two hover =>
    rcases List.mem_pair.mp hf with rfl | rfl
    · rfl
    · cases hover <;> cases hlight

/-- An invalidation or a report from within a build goes on or comes to its end. -/
theorem Move.isProper_of_isLight {stage : Stage} (h : Move [f, .building stage] s calls' s')
    (hlight : f.IsLight) :
  IsProper calls'
  := by
  cases hlight with
  | invalidate =>
    cases h with
    | call hcalls => cases hcalls
    | enter => exact .two (.light .invalidating stage)
  | invalidating =>
    cases h with
    | call hcalls => cases hcalls
    | inner | invalidate => exact .one _
  | glancing =>
    cases h with
    | call hcalls => cases hcalls
  | glanced =>
    cases h with
    | call hcalls => cases hcalls
    | unglance => exact .two (.light .report stage)
  | report =>
    cases h with
    | call hcalls => cases hcalls
    | enter => exact .two (.light .reporting stage)
  | reporting =>
    cases h with
    | call hcalls => cases hcalls
    | inner | report => exact .one _

/-- A call that has been made from another one goes on or comes to its end. -/
theorem Move.isProper_of_over (h : Move [f, g] s calls' s') (hover : f.Over g) :
  IsProper calls'
  := by
  cases hover with
  | before hx =>
    cases h with
    | call hcalls => cases hcalls
    | enter => exact .two (.inside hx)
  | inside hx =>
    rcases mem_section hx with rfl | rfl | rfl <;> cases h
    case inl.call hcalls | inr.inl.call hcalls | inr.inr.call hcalls => cases hcalls
    all_goals exact .one _
  | light hlight => exact h.isProper_of_isLight hlight
  | asking =>
    cases h with
    | call hcalls => cases hcalls
    | enter => exact .two .asked
  | asked =>
    cases h with
    | call hcalls => cases hcalls
    | share => exact .two .observing
  | observing =>
    cases h with
    | call hcalls => cases hcalls
    | unshare => exact .two .leaving
  | leaving =>
    cases h with
    | call hcalls => cases hcalls
    | leave => exact .one _

/-- One step of a thread keeps the way its calls stand on each other. -/
theorem Move.isProper (h : Move calls s calls' s') (hproper : IsProper calls) :
  IsProper calls'
  := by
  cases hproper with
  | nil =>
    cases h
    exact .one _
  | one f =>
    cases h with
    | call hcalls => exact .two hcalls.over
    | take | leave | depend | compile | invalidate | report => exact .nil
    | enter | look | miss | check | retake | refute | upgrade | work | built | share | unshare
    | unglance => exact .one _
  | two hover => exact h.isProper_of_over hover

/-- An invalidation or a report may go on wherever it has been called. -/
theorem isProper_of_isLight (h : IsProper (f :: rest)) (hf : f.IsLight) (hg : g.IsLight) :
  IsProper (g :: rest)
  := by
  cases h with
  | one => exact .one g
  | two hover =>
    cases hover with
    | before | inside | light => exact .two (.light hg _)
    | asking | asked | observing | leaving => cases hf

/-- What a thread holds after one of its steps, it has held before or wanted. -/
theorem Move.hold (h : Move calls s calls' s') (hf : f ∈ calls') (l : Lock) :
  f.hold l = .none ∨ (∃ g ∈ calls, g.hold l = f.hold l) ∨
    calls.head?.bind Frame.want = some (l, f.hold l)
  := by
  -- only the innermost call changes
  have hhead : ∀ {f₀ f₁ rest}, calls = f₀ :: rest → f ∈ f₁ :: rest →
      f₁.hold l = .none ∨ f₁.hold l = f₀.hold l ∨ f₀.want = some (l, f₁.hold l) →
      f.hold l = .none ∨ (∃ g ∈ calls, g.hold l = f.hold l) ∨
        calls.head?.bind Frame.want = some (l, f.hold l) := by
    intro f₀ f₁ rest hcalls hmem hnew
    subst hcalls
    rcases List.mem_cons.mp hmem with rfl | hmem
    · rcases hnew with hnone | hsame | hwant
      · exact .inl hnone
      · exact .inr (.inl ⟨f₀, List.mem_cons_self, hsame.symm⟩)
      · exact .inr (.inr hwant)
    · exact .inr (.inl ⟨f, List.mem_cons_of_mem _ hmem, rfl⟩)
  have hrest : f ∈ calls → ∃ g ∈ calls, g.hold l = f.hold l := by
    intro hmem
    exact ⟨f, hmem, rfl⟩
  cases h with
  | start hentry =>
    cases List.mem_singleton.mp hf
    cases hentry <;> exact .inl rfl
  | call hcalls =>
    rcases List.mem_cons.mp hf with rfl | hf
    · cases hcalls <;> exact .inl rfl
    · exact .inr (.inl (hrest hf))
  | enter x =>
    apply hhead rfl hf
    by_cases hl : l = x.lock
    · subst hl
      right; right
      simp [Frame.hold, Frame.want]
    · left
      simp [Frame.hold, hl]
  | inner =>
    rcases List.mem_cons.mp hf with rfl | hf
    · right; left
      refine ⟨_, List.mem_cons_of_mem _ List.mem_cons_self, ?_⟩
      cases l <;> rfl
    · exact .inr (.inl (hrest (List.mem_cons_of_mem _ (List.mem_cons_of_mem _ hf))))
  | look | miss | check | retake | refute | upgrade | work | built | share | unshare | unglance =>
    apply hhead rfl hf
    cases l <;> simp [Frame.hold, Frame.want, Section.lock, Section.next?]
  | take | leave | depend | invalidate | report =>
    exact .inr (.inl (hrest (List.mem_cons_of_mem _ hf)))
  | compile => cases hf

/-! ### All threads -/

variable [DecidableEq T]

/-- The calls of every thread stand on each other as they may, and what two threads hold agrees. -/
structure Orderly (m : Callers T) : Prop where
  proper : ∀ t, IsProper (m.calls t)
  agrees : ∀ {t u : T}, t ≠ u → ∀ {f g : Frame}, f ∈ m.calls t → g ∈ m.calls u →
    ∀ l, (f.hold l).agrees (g.hold l) = true

variable {m m' : Callers T}

/-- What a thread may take agrees with all that others hold. -/
theorem agrees_of_not_blocks (hne : u ≠ t) (h : ¬ m.Blocks t w u) (hg : g ∈ m.calls u) :
  (g.hold w.1).agrees w.2 = true
  := by
  rw [Blocks, if_neg hne] at h
  apply hold_agrees_of_reserves
  by_contra hkeeps
  exact h ⟨g, hg, by simpa [keepsOff] using hkeeps⟩

namespace Orderly

/-- Threads stay in order when one of them holds nothing else than before, or what is free. -/
theorem update (ho : m.Orderly) (hproper : IsProper calls)
    (hhold : ∀ f ∈ calls, ∀ l, f.hold l = .none ∨ (∃ g ∈ m.calls t, g.hold l = f.hold l) ∨
      ∀ u, ¬ m.Blocks t (l, f.hold l) u) (s : Service) :
  Orderly ⟨s, Function.update m.calls t calls⟩
  := by
  have hnew : ∀ {u}, u ≠ t → ∀ {f g}, f ∈ calls → g ∈ m.calls u → ∀ l,
      (g.hold l).agrees (f.hold l) = true := by
    intro u hne f g hf hg l
    rcases hhold f hf l with hnone | ⟨k, hk, hsame⟩ | hfree
    · rw [hnone]
      apply Hold.agrees_none
    · rw [← hsame]
      apply ho.agrees hne hg hk
    · exact agrees_of_not_blocks hne (hfree u) hg
  constructor
  case proper =>
    intro u
    by_cases hu : u = t
    · subst hu
      simpa using hproper
    · simpa [hu] using ho.proper u
  case agrees =>
    intro u v hne f g hf hg l
    by_cases hu : u = t
    · subst hu
      have hv : v ≠ u := hne.symm
      rw [Hold.agrees_comm]
      apply hnew hv (by simpa using hf) (by simpa [hv] using hg)
    · by_cases hv : v = t
      · subst hv
        apply hnew hu (by simpa using hg) (by simpa [hu] using hf)
      · apply ho.agrees hne (by simpa [hu] using hf) (by simpa [hv] using hg)

/-- Every step keeps the threads in order. -/
theorem step (ho : m.Orderly) (h : Step m m') :
  m'.Orderly
  := by
  cases h with
  | move t h hfree =>
    apply ho.update (h.isProper (ho.proper t))
    intro f hf l
    rcases h.hold hf l with hnone | hheld | hwant
    · exact .inl hnone
    · exact .inr (.inl hheld)
    · right; right
      intro u hblocks
      exact hfree u ⟨_, hwant, hblocks⟩
  | @glance t rest h hfree =>
    have hproper := ho.proper t
    rw [h] at hproper
    apply ho.update (isProper_of_isLight hproper .glancing .glanced)
    intro f hf l
    rw [h]
    rcases List.mem_cons.mp hf with rfl | hf
    · cases l with
      | state => exact .inr (.inr hfree)
      | host | flag | error => exact .inl rfl
    · exact .inr (.inl ⟨f, List.mem_cons_of_mem _ hf, rfl⟩)
  | @pass t rest u h hbusy =>
    have hproper := ho.proper t
    rw [h] at hproper
    apply ho.update (isProper_of_isLight hproper .glancing .report)
    intro f hf l
    rw [h]
    rcases List.mem_cons.mp hf with rfl | hf
    · exact .inl rfl
    · exact .inr (.inl ⟨f, List.mem_cons_of_mem _ hf, rfl⟩)
  | elsewhere => exact ⟨ho.proper, ho.agrees⟩

end Orderly

/-- Threads are always in order. -/
theorem Reached.orderly (h : Reached m) :
  m.Orderly
  := by
  induction h with
  | start =>
    constructor
    case proper =>
      intro t
      exact .nil
    case agrees =>
      intro t u _ f g hf
      cases hf
  | step _ hstep ih => exact ih.step hstep

/-! ### Waiting -/

/-- The rank of the lock for which a thread waits. -/
def rank (m : Callers T) (t : T) : ℕ :=
  (m.want t).elim 0 Lock.rank

theorem Waits.calls_ne_nil (h : m.Waits t u) :
  m.calls t ≠ [] ∧ m.calls u ≠ []
  := by
  obtain ⟨w, hw, hblocks⟩ := h
  constructor
  · intro hnil
    rw [want, hnil] at hw
    cases hw
  · intro hnil
    unfold Blocks at hblocks
    split at hblocks
    case isTrue hu =>
      obtain ⟨-, f, hf, -⟩ := hblocks
      rw [← hu, hnil] at hf
      cases hf
    case isFalse hu =>
      obtain ⟨f, hf, -⟩ := hblocks
      rw [hnil] at hf
      cases hf

namespace Orderly

/-- No thread waits for itself. -/
theorem not_waits_self (ho : m.Orderly) (t : T) :
  ¬ m.Waits t t
  := by
  rintro ⟨w, hw, hblocks⟩
  rw [Blocks, if_pos rfl] at hblocks
  obtain ⟨hhost, g, hg, hkeeps⟩ := hblocks
  have hproper := ho.proper t
  unfold want at hw
  generalize m.calls t = calls at hproper hw hg
  cases hproper with
  | nil | one => cases hg
  | two hover =>
    cases List.mem_singleton.mp hg
    exact (hover.rank_lt hw hhost hkeeps).false

/-- The calls of a thread for which another one waits. -/
theorem exists_keepsOff (ho : m.Orderly) (h : m.Waits t u) :
  u ≠ t ∧ ∃ w, m.want t = some w ∧ ∃ f ∈ m.calls u, f.keepsOff w = true
  := by
  have hne : u ≠ t := by
    rintro rfl
    exact ho.not_waits_self u h
  obtain ⟨w, hw, hblocks⟩ := h
  rw [Blocks, if_neg hne] at hblocks
  exact ⟨hne, w, hw, hblocks⟩

/-- A thread that waits and is waited for wants a lock of higher rank than the one that it keeps. -/
theorem rank_lt (ho : m.Orderly) (h : m.Waits t u) (h' : m.Waits u v) :
  m.rank t < m.rank u
  := by
  obtain ⟨hut, w, hw, f, hf, hkeeps⟩ := ho.exists_keepsOff h
  obtain ⟨hvu, w', hw', g, hg, hkeeps'⟩ := ho.exists_keepsOff h'
  rcases rank_lt_of_isProper (ho.proper u) hw' hf hkeeps with
    ⟨hhost, k, hk, hexclusive⟩ | hlt | ⟨hup, rfl⟩
  · -- two threads would have the compilation lock
    have hagrees := ho.agrees hvu.symm hk hg .host
    rw [hexclusive, Hold.exclusive_agrees_iff, ← reserves_host] at hagrees
    rw [keepsOff, hhost, hagrees, Hold.none_agrees] at hkeeps'
    cases hkeeps'
  · simpa [rank, hw, hw'] using hlt
  · -- two threads would be about to write
    obtain ⟨g', hhead, hg'⟩ := Option.bind_eq_some_iff.mp hw
    have hmem := List.mem_of_head? hhead
    rw [eq_upgrading hg'] at hmem
    cases ho.agrees hut.symm hmem hup .state

/-- A thread in a chain of threads that wait wants a lock of lower rank than those after it. -/
theorem rank_lt_of_transGen (ho : m.Orderly) (h : Relation.TransGen m.Waits t u)
    (h' : m.Waits u v) :
  m.rank t < m.rank u
  := by
  induction h generalizing v with
  | single h => exact ho.rank_lt h h'
  | tail _ hlast ih => exact (ih hlast).trans (ho.rank_lt hlast h')

end Orderly

/-- Whether every thread of a set waits for one of the set. -/
def IsStuck (m : Callers T) (S : Set T) : Prop :=
  S.Nonempty ∧ ∀ t ∈ S, ∃ u ∈ S, m.Waits t u

/-- Among threads of a set, one with the highest rank does not wait for another. -/
theorem Orderly.not_isStuck (ho : m.Orderly) (S : Set T) :
  ¬ m.IsStuck S
  := by
  rintro ⟨⟨t₀, ht₀⟩, hstuck⟩
  -- every thread of the set leads to one of higher rank, beyond every bound
  have hclimb : ∀ n, ∃ t ∈ S, n ≤ m.rank t := by
    intro n
    induction n with
    | zero => exact ⟨t₀, ht₀, Nat.zero_le _⟩
    | succ n ih =>
      obtain ⟨t, ht, hn⟩ := ih
      obtain ⟨u, hu, htu⟩ := hstuck t ht
      obtain ⟨v, hv, huv⟩ := hstuck u hu
      exact ⟨u, hu, hn.trans_lt (ho.rank_lt htu huv)⟩
  obtain ⟨t, ht, hfour⟩ := hclimb 4
  obtain ⟨u, hu, w, hw, -⟩ := hstuck t ht
  have hle := Lock.rank_le w
  simp only [rank, hw, Option.elim_some] at hfour
  omega

/-- Whether a thread holds a lock in some way. -/
def Holds (m : Callers T) (t : T) (l : Lock) : Prop :=
  ∃ f ∈ m.calls t, f.hold l ≠ .none

/-- Whether a thread is invalidating the models or asks for the status. -/
def IsLight (m : Callers T) (t : T) : Prop :=
  ∃ f ∈ m.calls t, f.IsLight

/-- Threads never wait for each other in a circle: in every set of threads there is one that waits
for none of them, and as long as calls are under way, one thread waits for nobody. Who wants the
compilation lock while having the state has the compilation lock already; invalidations and reports
wait for neither of the two. -/
theorem Reached.never_deadlocks (h : Reached m) :
  (∀ S : Set T, ¬ m.IsStuck S) ∧ (∀ t, ¬ Relation.TransGen m.Waits t t) ∧
    ((∃ t, m.calls t ≠ []) → ∃ t, m.calls t ≠ [] ∧ ∀ u, ¬ m.Waits t u) ∧
    (∀ t w, m.want t = some w → w.1 = .host → m.Holds t .state → m.Holds t .host) ∧
    (∀ t w, m.IsLight t → m.want t = some w → w.1 ≠ .host ∧ w.1 ≠ .state)
  := by
  have ho := h.orderly
  refine ⟨ho.not_isStuck, ?_, ?_, ?_, ?_⟩
  · intro t hcycle
    obtain ⟨u, htu, -⟩ := Relation.TransGen.head'_iff.mp hcycle
    exact (ho.rank_lt_of_transGen hcycle htu).false
  · rintro ⟨t₀, ht₀⟩
    by_contra hnone
    push Not at hnone
    apply ho.not_isStuck {t | m.calls t ≠ []}
    use ⟨t₀, ht₀⟩
    intro t ht
    obtain ⟨u, hwaits⟩ := hnone t ht
    exact ⟨u, hwaits.calls_ne_nil.2, hwaits⟩
  · rintro t w hw hhost ⟨f, hf, hheld⟩
    rcases hold_host_of_isProper (ho.proper t) hw hhost with ⟨g, hg, hexclusive⟩ | hnone
    · use g, hg
      rw [hexclusive]
      decide
    · exact absurd (hnone f hf .state) hheld
  · rintro t ⟨l, k⟩ ⟨f, hf, hlight⟩ hw
    rw [want, head_of_isLight (ho.proper t) hf hlight] at hw
    rcases hlight.want hw with rfl | rfl <;> simp

/-! ### A build that waits -/

/-- A tool of a build is about to invalidate the models while another thread does so; meanwhile the
host is about to compile something else, and the models are asked for. -/
def crowd : Callers (Fin 4) where
  service := Staged.shelved
  calls
    | 0 => [.before .invalidate, .building .idle]
    | 1 => [.inside .invalidate]
    | 2 => [.before .compile]
    | 3 => [.asked]

theorem reached_crowd :
  Reached crowd
  := by
  have hgo : ∀ {c : Fin 4 → List Frame} (t : Fin 4) {calls : List Frame},
      Reached ⟨Staged.shelved, c⟩ → Move (c t) Staged.shelved calls Staged.shelved →
      (∀ u, ¬ Waits ⟨Staged.shelved, c⟩ t u) →
      Reached ⟨Staged.shelved, Function.update c t calls⟩ := by
    intro c t calls h hmove hfree
    exact h.step (.move t hmove hfree)
  have hidle : Reached (⟨Staged.shelved, fun _ => []⟩ : Callers (Fin 4)) :=
    .start ⟨_, _, _, _, _, rfl⟩
  have hasked := hgo 0 hidle (.start .request _) (by decide)
  have hlooking := hgo 0 hasked (.look _ _) (by decide)
  have hmissed := hgo 0 hlooking (.miss rfl) (by decide)
  have hentered := hgo 0 hmissed (.enter _ _ _) (by decide)
  have hchecking := hgo 0 hentered (.check _ _) (by decide)
  have hupgrading := hgo 0 hchecking (.refute rfl) (by decide)
  have hbuilding := hgo 0 hupgrading (.upgrade _ _) (by decide)
  have hcalling := hgo 0 hbuilding (.call (.invalidate _) _) (by decide)
  have hinvalidating := hgo 1 hcalling (.start .invalidate _) (by decide)
  have hflagging := hgo 1 hinvalidating (.enter _ _ _) (by decide)
  have hcompiling := hgo 2 hflagging (.start .compile _) (by decide)
  have hdone := hgo 3 hcompiling (.start .request _) (by decide)
  convert hdone using 1
  unfold crowd
  congr 1
  funext t
  fin_cases t <;> rfl

/-- The second thread waits for none, the first one for the second, and the others for the first. -/
theorem crowd_never_deadlocks :
  Reached crowd ∧ (crowd.Waits 0 1 ∧ crowd.Waits 2 0 ∧ crowd.Waits 3 0) ∧
    (∀ S : Set (Fin 4), ¬ crowd.IsStuck S) ∧ (∀ t, ¬ Relation.TransGen crowd.Waits t t) ∧
    (∃ t, crowd.calls t ≠ [] ∧ ∀ u, ¬ crowd.Waits t u)
  := by
  obtain ⟨hstuck, hcircle, hfree, -, -⟩ := reached_crowd.never_deadlocks
  exact ⟨reached_crowd, by decide, hstuck, hcircle, hfree ⟨3, by simp [crowd]⟩⟩

end Callers

end LiveModels
