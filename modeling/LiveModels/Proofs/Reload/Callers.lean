import LiveModels.Proofs.Reload.Stages
import LiveModels.Proofs.Reload.Threads

/-!
# Locks

Any number of threads call into one coordinator and the compiler that it shares with its host. Four
locks are taken on the way: the compilation lock of the host, which a thread that has it may take
again, the lock of the state of the coordinator, the lock of the out-of-date flag, and that of the
noted error. What a call does is cut into steps at every lock that it takes or releases. A build
calls the compiler while it has the state to itself, and the tools that it calls may invalidate the
models or ask for the status.

The state is shared by those that look at it. One thread at a time may read it as one that is going
to write, and when this thread asks to write, nobody else is let in to read before it has written.

A request without any other thread does what `Service.ensureReady` does.
-/

namespace LiveModels

/-- The locks of a coordinator and of the compiler that it calls. -/
inductive Lock
  /-- The compilation lock. -/
  | host
  /-- The lock of the state of the coordinator. -/
  | state
  /-- The lock of the out-of-date flag. -/
  | flag
  /-- The lock of the noted error. -/
  | error
  deriving DecidableEq, Repr

/-- A part of a call for which one lock is taken. -/
inductive Section
  /-- A request that has not found fresh models. -/
  | request
  /-- The host asks for the module to compile against. -/
  | observe
  | compile
  /-- The host compiles something that depends on the models. -/
  | dependent
  | invalidate
  /-- A build that has published a generation removes the out-of-date flag. -/
  | unflag
  /-- A build notes its error, or removes the one that is noted. -/
  | note
  /-- A report reads the noted error. -/
  | report
  deriving DecidableEq, Repr

/-- The lock that is taken. -/
def Section.lock : Section → Lock
  | .request | .observe | .compile | .dependent => .host
  | .invalidate | .unflag => .flag
  | .note | .report => .error

/-- How the lock of the state is taken next. -/
def Section.next? : Section → Option (Lock × Hold)
  | .request => some (.state, .upgradable)
  | .observe => some (.state, .shared)
  | _ => none

/-- The part of a build that is about to be done, if a lock is taken for it. -/
def Stage.section? : Stage → Option Section
  | .storing _ _ _ [] => some .compile
  | .published _ | .failed _ => some .note
  | .tidied _ => some .unflag
  | _ => none

/-- Where a thread is in one of its calls. -/
inductive Frame
  /-- About to take the lock of a section. -/
  | before (x : Section)
  | inside (x : Section)
  /-- A request is about to look whether the models are fresh. -/
  | asked
  | looking
  /-- Looks once more, now that no other thread can build. -/
  | checking
  | upgrading
  /-- Has the state to itself. -/
  | building (stage : Stage)
  /-- Reads the generation in use for the host. -/
  | observing
  /-- Has released the state, and is about to release the compilation lock. -/
  | leaving
  /-- A report is about to look at the state, unless it cannot at once. -/
  | glancing
  | glanced

namespace Frame

/-- How a lock is held. -/
def hold : Frame → Lock → Hold
  | .inside x, l => if l = x.lock then .exclusive else .none
  | .looking, .state | .observing, .state | .glanced, .state => .shared
  | .checking, .state | .upgrading, .state => .upgradable
  | .building _, .state => .exclusive
  | .checking, .host | .upgrading, .host | .building _, .host | .observing, .host
  | .leaving, .host => .exclusive
  | _, _ => .none

/-- How a lock is held, or promised, as others find it that want it. -/
def reserves : Frame → Lock → Hold
  | .upgrading, .state => .exclusive
  | f, l => f.hold l

/-- Whether a lock cannot be taken in a way because of what is held or promised. -/
def keepsOff (f : Frame) (w : Lock × Hold) : Bool :=
  !(f.reserves w.1).agrees w.2

/-- The lock that is waited for, and how it is going to be held. -/
def want : Frame → Option (Lock × Hold)
  | .before x => some (x.lock, .exclusive)
  | .inside x => x.next?
  | .asked => some (.state, .shared)
  | .upgrading => some (.state, .exclusive)
  | _ => none

/-- A build keeps nobody from the flag and the noted error. -/
theorem keepsOff_building {stage : Stage} {w : Lock × Hold} (hhost : w.1 ≠ .host)
    (hstate : w.1 ≠ .state) :
  (building stage).keepsOff w = false
  := by
  obtain ⟨l, h⟩ := w
  cases l with
  | host => exact absurd rfl hhost
  | state => exact absurd rfl hstate
  | flag => rfl
  | error => rfl

/-- Where the calls begin that a thread may make when it has none under way. -/
inductive IsEntry : Frame → Prop
  | request : IsEntry .asked
  | observe : IsEntry (.before .observe)
  | compile : IsEntry (.before .compile)
  | dependent : IsEntry (.before .dependent)
  | invalidate : IsEntry (.before .invalidate)
  | status : IsEntry .glancing

/-- The calls that are made out of others. -/
inductive Calls : Frame → Frame → Prop
  | work {stage : Stage} {x : Section} (h : stage.section? = some x) :
    Calls (.building stage) (.before x)
  | invalidate (stage : Stage) : Calls (.building stage) (.before .invalidate)
  | status (stage : Stage) : Calls (.building stage) .glancing
  | observe : Calls (.inside .dependent) (.before .observe)

end Frame

open LiveModels.Frame

/-- Threads at work on one coordinator, each with the calls that it has under way, the innermost
first. -/
structure Callers (T : Type) where
  service : Service
  calls : T → List Frame

namespace Callers

variable {T : Type}

/-- What one thread does next, as far as the locks allow it. -/
inductive Move : List Frame → Service → List Frame → Service → Prop
  | start {f : Frame} (h : f.IsEntry) (s : Service) : Move [] s [f] s
  | call {f g : Frame} {rest : List Frame} (h : f.Calls g) (s : Service) :
    Move (f :: rest) s (g :: f :: rest) s
  | enter (x : Section) (rest : List Frame) (s : Service) :
    Move (.before x :: rest) s (.inside x :: rest) s
  | look (rest : List Frame) (s : Service) : Move (.asked :: rest) s (.looking :: rest) s
  | take {rest : List Frame} {s : Service} {g : Generation}
      (h : s.coordinator.fresh? = some g) :
    Move (.looking :: rest) s rest s
  | miss {rest : List Frame} {s : Service} (h : s.coordinator.fresh? = none) :
    Move (.looking :: rest) s (.before .request :: rest) s
  | check (rest : List Frame) (s : Service) :
    Move (.inside .request :: rest) s (.checking :: rest) s
  | retake {rest : List Frame} {s : Service} {g : Generation}
      (h : s.coordinator.fresh? = some g) :
    Move (.checking :: rest) s (.leaving :: rest) s
  | refute {rest : List Frame} {s : Service} (h : s.coordinator.fresh? = none) :
    Move (.checking :: rest) s (.upgrading :: rest) s
  | upgrade (rest : List Frame) (s : Service) :
    Move (.upgrading :: rest) s (.building .idle :: rest) s
  /-- A build goes on by itself. -/
  | work {stage stage' : Stage} {rest : List Frame} {s s' : Service} {sight : Option Sight}
      (h : Staged.Move stage s sight stage' s') (hopen : stage.section? = none) :
    Move (.building stage :: rest) s (.building stage' :: rest) s'
  /-- A build goes on inside of the section that it has called. -/
  | inner {stage stage' : Stage} {x : Section} {rest : List Frame} {s s' : Service}
      {sight : Option Sight} (h : Staged.Move stage s sight stage' s')
      (hx : stage.section? = some x) :
    Move (.inside x :: .building stage :: rest) s (.building stage' :: rest) s'
  | built (rest : List Frame) (s : Service) :
    Move (.building .idle :: rest) s (.leaving :: rest) s
  | share (rest : List Frame) (s : Service) :
    Move (.inside .observe :: rest) s (.observing :: rest) s
  | unshare (rest : List Frame) (s : Service) :
    Move (.observing :: rest) s (.leaving :: rest) s
  | leave (rest : List Frame) (s : Service) : Move (.leaving :: rest) s rest s
  | depend (rest : List Frame) (s : Service) : Move (.inside .dependent :: rest) s rest s
  | compile (name source : String) (output : Path) (s : Service) :
    Move [.inside .compile] s []
      { s with tree := (Manifest.compile s.tree name source output).1 }
  | invalidate (rest : List Frame) (s : Service) :
    Move (.inside .invalidate :: rest) s rest s.invalidate
  | unglance (rest : List Frame) (s : Service) :
    Move (.glanced :: rest) s (.before .report :: rest) s
  | report (rest : List Frame) (s : Service) : Move (.inside .report :: rest) s rest s

variable [DecidableEq T]

/-- Whether a thread is kept from a lock by another one, or by one of its own calls. The compilation
lock may be taken again. -/
def Blocks (m : Callers T) (t : T) (w : Lock × Hold) (u : T) : Prop :=
  if u = t then w.1 ≠ .host ∧ ∃ f ∈ (m.calls t).tail, f.keepsOff w = true
  else ∃ f ∈ m.calls u, f.keepsOff w = true

/-- The lock for which a thread waits. -/
def want (m : Callers T) (t : T) : Option (Lock × Hold) :=
  (m.calls t).head?.bind Frame.want

/-- Whether a thread waits for a lock that is held by another one or promised to it. -/
def Waits (m : Callers T) (t u : T) : Prop :=
  ∃ w, m.want t = some w ∧ m.Blocks t w u

instance (m : Callers T) (t u : T) (w : Lock × Hold) : Decidable (m.Blocks t w u) :=
  inferInstanceAs (Decidable (ite _ _ _))

instance (m : Callers T) (t u : T) : Decidable (m.Waits t u) :=
  decidable_of_iff (∃ w ∈ m.want t, m.Blocks t w u) Iff.rfl

/-- One step of the threads, or of what happens around them. -/
inductive Step : Callers T → Callers T → Prop
  /-- A thread goes on that waits for none. -/
  | move {m : Callers T} (t : T) {calls : List Frame} {s : Service}
      (h : Move (m.calls t) m.service calls s) (hfree : ∀ u, ¬ m.Waits t u) :
    Step m ⟨s, Function.update m.calls t calls⟩
  /-- A report looks at the state. -/
  | glance {m : Callers T} (t : T) {rest : List Frame} (h : m.calls t = .glancing :: rest)
      (hfree : ∀ u, ¬ m.Blocks t (.state, .shared) u) :
    Step m ⟨m.service, Function.update m.calls t (.glanced :: rest)⟩
  /-- A report does without the state, which is held or promised. -/
  | pass {m : Callers T} (t : T) {rest : List Frame} {u : T} (h : m.calls t = .glancing :: rest)
      (hbusy : m.Blocks t (.state, .shared) u) :
    Step m ⟨m.service, Function.update m.calls t (.before .report :: rest)⟩
  /-- The schema or files are edited, the lock of the directory changes hands, or time goes on. -/
  | elsewhere (m : Callers T) (store : Store) (script : Script) (tree : Tree) (lockHeld : Bool)
      (now : String) :
    Step m ⟨⟨{ m.service.coordinator with store, script }, tree, lockHeld, now⟩, m.calls⟩

/-- The states that are reached from threads which have called nothing yet. -/
inductive Reached : Callers T → Prop
  | start {s : Service} (h : Staged.IsNew s) : Reached ⟨s, fun _ => []⟩
  | step {m m' : Callers T} (h : Reached m) (hstep : Step m m') : Reached m'

/-! ### One thread alone -/

/-- One thread with calls under way, and the others without. -/
def lone (t : T) (calls : List Frame) (s : Service) : Callers T :=
  ⟨s, Function.update (fun _ => []) t calls⟩

/-- What one thread does alone in any number of steps. -/
def Goes (t : T) (calls : List Frame) (s : Service) (calls' : List Frame) (s' : Service) : Prop :=
  Relation.ReflTransGen Step (lone t calls s) (lone t calls' s')

variable {t : T} {f : Frame} {calls calls' rest : List Frame} {stage stage' : Stage}
variable {s s' : Service}

/-- A lone thread goes on unless it waits for itself. -/
theorem Move.goes (h : Move (f :: rest) s calls' s')
    (hself : ∀ w, f.want = some w → w.1 = .host ∨ ∀ g ∈ rest, g.keepsOff w = false) :
  Goes t (f :: rest) s calls' s'
  := by
  have hmove : Move ((lone t (f :: rest) s).calls t) (lone t (f :: rest) s).service calls' s' := by
    simpa [lone] using h
  have hstep := Step.move t hmove (by
    rintro u ⟨w, hwant, hblocks⟩
    have hw : f.want = some w := by simpa [want, lone] using hwant
    unfold Blocks at hblocks
    split at hblocks
    case isTrue hu =>
      obtain ⟨hhost, g, hg, hkeeps⟩ := hblocks
      have hg' : g ∈ rest := by simpa [lone] using hg
      rcases hself w hw with heq | hfree
      · exact hhost heq
      · rw [hfree g hg'] at hkeeps
        cases hkeeps
    case isFalse hu =>
      obtain ⟨g, hg, -⟩ := hblocks
      simp [lone, hu] at hg)
  have heq : (⟨s', Function.update (lone t (f :: rest) s).calls t calls'⟩ : Callers T) =
      lone t calls' s' := by
    simp [lone, Function.update_idem]
  rw [heq] at hstep
  exact .single hstep

/-- A thread with one call waits for nothing when it is alone. -/
theorem Move.goes_single (h : Move [f] s calls' s') :
  Goes t [f] s calls' s'
  := by
  apply h.goes
  intro w _
  right
  intro g hg
  cases hg

/-- Every step of a build can be made by a lone thread, inside of the section that it takes. -/
theorem goes_building {sight : Option Sight} (h : Staged.Move stage s sight stage' s') :
  Goes t [.building stage] s [.building stage'] s'
  := by
  cases hx : stage.section? with
  | none => exact (Move.work h hx).goes_single
  | some x =>
    have hcall : Goes t [.building stage] s [.before x, .building stage] s :=
      (Move.call (.work hx) s).goes_single
    have hlock : x.lock ≠ .state := by
      cases x <;> decide
    have henter : Goes t [.before x, .building stage] s [.inside x, .building stage] s := by
      apply (Move.enter x [.building stage] s).goes
      intro w hw
      cases hw
      by_cases hhost : x.lock = .host
      · exact .inl hhost
      · right
        intro g hg
        rw [List.mem_singleton.mp hg]
        apply keepsOff_building hhost hlock
    have hinner : Goes t [.inside x, .building stage] s [.building stage'] s' := by
      apply (Move.inner h hx).goes
      intro w hw
      unfold Stage.section? at hx
      split at hx <;> cases hx <;> cases hw
    exact (hcall.trans henter).trans hinner

/-- The tools of a lone build invalidate the models. -/
theorem goes_invalidate (stage : Stage) (s : Service) :
  Goes t [.building stage] s [.building stage] s.invalidate
  := by
  have hcall : Goes t [.building stage] s [.before .invalidate, .building stage] s :=
    (Move.call (.invalidate stage) s).goes_single
  have henter : Goes t [.before .invalidate, .building stage] s
      [.inside .invalidate, .building stage] s := by
    apply (Move.enter .invalidate [.building stage] s).goes
    intro w hw
    cases hw
    right
    intro g hg
    rw [List.mem_singleton.mp hg]
    rfl
  have hdone : Goes t [.inside .invalidate, .building stage] s [.building stage] s.invalidate := by
    apply (Move.invalidate [.building stage] s).goes
    exact nofun
  exact (hcall.trans henter).trans hdone

/-- What a build does step by step, a lone thread does. -/
theorem goes_of_steps {m m' : Staged}
    (h : Relation.ReflTransGen (Staged.Step fun _ _ _ => False) m m') :
  Goes t [.building m.stage] m.service [.building m'.stage] m'.service
  := by
  induction h with
  | refl => exact .refl
  | tail _ hstep ih =>
    apply ih.trans
    cases hstep with
    | move hmove => apply goes_building hmove
    | invalidate => apply goes_invalidate
    | elsewhere store script lockHeld now hothers => exact hothers.elim

/-- A request without any other thread does what the coordinator does in one go. -/
theorem goes_ensureReady (t : T) (s : Service) :
  Goes t [.asked] s [] s.ensureReady.1
  := by
  have hlook : Goes t [.asked] s [.looking] s := (Move.look [] s).goes_single
  cases hfresh : s.coordinator.fresh? with
  | some g =>
    have hsame : s.ensureReady.1 = s := by
      unfold Service.ensureReady
      rw [hfresh]
    rw [hsame]
    exact hlook.trans (Move.take hfresh).goes_single
  | none =>
    have hentered : Goes t [.asked] s [.inside .request] s :=
      (hlook.trans (Move.miss hfresh).goes_single).trans (Move.enter .request [] s).goes_single
    have hupgraded : Goes t [.asked] s [.building .idle] s :=
      ((hentered.trans (Move.check [] s).goes_single).trans
        (Move.refute hfresh).goes_single).trans (Move.upgrade [] s).goes_single
    obtain ⟨news, hnews⟩ := Staged.goes_ensureReady (r := fun _ _ _ => False) hfresh []
    exact ((hupgraded.trans (goes_of_steps hnews)).trans (Move.built [] _).goes_single).trans
      (Move.leave [] _).goes_single

end Callers

end LiveModels
