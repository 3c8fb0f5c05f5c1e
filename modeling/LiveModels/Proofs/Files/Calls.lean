import LiveModels.Proofs.Files.Change
import LiveModels.Proofs.Files.Texts

/-!
# Calls to the file system

What an operation does to a tree it does in single calls, of which each makes a directory, replaces,
writes or removes a file. A call that fails changes nothing, and one that succeeds changes no place
but those that it touches. A file that is replaced is first written under a temporary name, of which
nothing is left in the end; its place is touched all the same.
-/

namespace LiveModels.Tree

/-- A call to the file system. -/
inductive Call
  | makeDirectory (path : Path)
  /-- Writes a text under a temporary name, and gives this file the name of the one it replaces. If
  that fails, it is removed. -/
  | replace (temporary target : Path) (text : String)
  | write (path : Path) (text : String)
  | remove (path : Path)
  deriving DecidableEq, Repr

/-- The place to which the steps of a path lead, if they do. -/
def spot (t : Tree) (path : Path) : List Place :=
  (t.place path path.steps).toOption.toList

namespace Call

/-- The tree after a call. -/
def run (t : Tree) : Call → Tree
  | .makeDirectory path => (t.makeDirectory path).toOption.getD t
  | .replace _ target text => (t.write target (.text text)).toOption.getD t
  | .write path text => (t.write path (.text text)).toOption.getD t
  | .remove path => (t.removeFile path).toOption.getD t

/-- The places where a call creates, replaces, renames or removes something. That a directory cannot
be made touches nothing; of files, every attempt counts. -/
def touched (t : Tree) : Call → List Place
  | .makeDirectory path =>
    match t.makeDirectory path with
    | .ok _ => t.spot path
    | .error _ => []
  | .replace temporary target _ => t.spot temporary ++ t.spot target
  | .write path _ | .remove path => t.spot path

/-- The tree after some calls. -/
def runAll (t : Tree) (calls : List Call) : Tree :=
  calls.foldl run t

/-- The places that some calls touch, one after another. -/
def allTouched : Tree → List Call → List Place
  | _, [] => []
  | t, call :: rest => call.touched t ++ allTouched (call.run t) rest

end Call

variable {t t' : Tree} {d path : Path} {p q r : Place} {call : Call} {calls : List Call}

theorem mem_spot :
  q ∈ t.spot path ↔ t.place path path.steps = .ok q
  := by
  rw [spot, Option.mem_toList]
  cases t.place path path.steps <;> simp [Except.toOption]

namespace Call

@[simp] theorem runAll_nil (t : Tree) :
  runAll t [] = t
  := rfl

@[simp] theorem runAll_cons (t : Tree) (call : Call) (calls : List Call) :
  runAll t (call :: calls) = runAll (call.run t) calls
  := rfl

@[simp] theorem runAll_append (t : Tree) (calls others : List Call) :
  runAll t (calls ++ others) = runAll (runAll t calls) others
  := List.foldl_append

/-! ### What changes -/

theorem becomes_makeDirectory (hs : t.Sound) (path : Path) :
  Becomes (fun q _ => q ∈ touched t (.makeDirectory path)) t (run t (.makeDirectory path))
  := by
  cases hmake : t.makeDirectory path with
  | error fault =>
    have hrun : run t (.makeDirectory path) = t := by
      rw [run, hmake]
      rfl
    rw [hrun]
    apply Becomes.refl hs
  | ok t' =>
    have hrun : run t (.makeDirectory path) = t' := by
      rw [run, hmake]
      rfl
    have htouched : touched t (.makeDirectory path) = t.spot path := by
      rw [touched, hmake]
    rw [hrun, htouched]
    apply hs.becomes_makeDirectory hmake
    intro q hwalk
    obtain ⟨q', hplace, -⟩ := Result.bind_eq_ok_iff.mp hmake
    have hplace' := hplace
    rw [place] at hplace'
    split at hplace'
    · cases hplace'
    · rw [hwalk] at hplace'
      cases hplace'
      apply mem_spot.mpr hplace

theorem becomes_write (hs : t.Sound) (path : Path) (text : String) :
  Becomes (fun q _ => q ∈ t.spot path) t ((t.write path (.text text)).toOption.getD t)
  := by
  cases hwrite : t.write path (.text text) with
  | error fault => apply Becomes.refl hs
  | ok t' =>
    obtain ⟨q, hplace, hdots, hfree, rfl⟩ := exists_of_write hwrite
    have hspot := mem_spot.mpr hplace
    obtain ⟨p, name, -, rfl, hp, hname, -⟩ := exists_name_of_place hdots hplace
    apply hs.becomes_set hp hname (.inr hfree) hspot

theorem becomes_remove (hs : t.Sound) (path : Path) :
  Becomes (fun q _ => q ∈ t.spot path) t ((t.removeFile path).toOption.getD t)
  := by
  cases hremove : t.removeFile path with
  | error fault => apply Becomes.refl hs
  | ok t' =>
    obtain ⟨q, content, hplace, -, hfile, rfl⟩ := exists_of_removeFile hremove
    apply hs.becomes_erase hfile (mem_spot.mpr hplace)

/-- A call changes nothing but what it touches. -/
theorem becomes_run (hs : t.Sound) (call : Call) :
  Becomes (fun q _ => q ∈ call.touched t) t (call.run t)
  := by
  cases call with
  | makeDirectory path => apply becomes_makeDirectory hs path
  | replace temporary target text =>
    apply (becomes_write hs target text).mono
    intro q _ hq
    apply List.mem_append_right _ hq
  | write path text => apply becomes_write hs path text
  | remove path => apply becomes_remove hs path

/-- A call that touches nothing changes nothing. -/
theorem run_eq_self (h : call.touched t = []) :
  call.run t = t
  := by
  have hwrite : ∀ (path : Path) (text : String), t.spot path = [] →
      (t.write path (.text text)).toOption.getD t = t := by
    intro path text hspot
    cases hwrite : t.write path (.text text) with
    | error fault => rfl
    | ok t' =>
      obtain ⟨q, hplace, -⟩ := exists_of_write hwrite
      have hq := mem_spot.mpr hplace
      rw [hspot] at hq
      cases hq
  cases call with
  | makeDirectory path =>
    rw [touched] at h
    rw [run]
    cases hmake : t.makeDirectory path with
    | error fault => rfl
    | ok t' =>
      obtain ⟨q, hplace, -⟩ := Result.bind_eq_ok_iff.mp hmake
      have hq := mem_spot.mpr hplace
      rw [hmake] at h
      change t.spot path = [] at h
      rw [h] at hq
      cases hq
  | replace temporary target text => apply hwrite target text (List.append_eq_nil_iff.mp h).2
  | write path text => apply hwrite path text h
  | remove path =>
    rw [run]
    cases hremove : t.removeFile path with
    | error fault => rfl
    | ok t' =>
      obtain ⟨q, content, hplace, -⟩ := exists_of_removeFile hremove
      have hq := mem_spot.mpr hplace
      rw [touched] at h
      rw [h] at hq
      cases hq

/-- Calls change nothing but what they touch. -/
theorem becomes_runAll (hs : t.Sound) (calls : List Call) :
  Becomes (fun q _ => q ∈ allTouched t calls) t (runAll t calls)
  := by
  induction calls generalizing t with
  | nil => apply Becomes.refl hs
  | cons call rest ih =>
    have hcall := becomes_run hs call
    have hbefore : Becomes (fun q _ => q ∈ allTouched t (call :: rest)) t (call.run t) :=
      hcall.mono fun _ _ hq => List.mem_append_left _ hq
    apply hbefore.trans
    exact (ih hcall.sound).mono fun _ _ hq => List.mem_append_right _ hq

end Call

/-! ### Making directories -/

/-- The calls by which the first of some directories is made. -/
def making (t : Tree) : List Path → List Call
  | [] => []
  | path :: above =>
    .makeDirectory path :: match t.makeDirectory path with
      | .error .notFound =>
        making t above ++ match t.makeFirst above with
          | (_, .ok _) => [.makeDirectory path]
          | (_, .error _) => []
      | _ => []

theorem mem_making {paths : List Path} (h : call ∈ t.making paths) :
  ∃ path ∈ paths, call = .makeDirectory path
  := by
  induction paths with
  | nil => cases h
  | cons path above ih =>
    unfold making at h
    rcases List.mem_cons.mp h with rfl | h
    · exact ⟨path, List.mem_cons_self, rfl⟩
    · split at h
      · rcases List.mem_append.mp h with h | h
        · obtain ⟨d, hd, hcall⟩ := ih h
          exact ⟨d, List.mem_cons_of_mem _ hd, hcall⟩
        · split at h
          · exact ⟨path, List.mem_cons_self, List.mem_singleton.mp h⟩
          · cases h
      · cases h

/-- The first of some directories is made by its calls. -/
theorem runAll_making (t : Tree) (paths : List Path) :
  Call.runAll t (t.making paths) = (t.makeFirst paths).1
  := by
  induction paths with
  | nil => rfl
  | cons path above ih =>
    rw [making, makeFirst, Call.runAll_cons, Call.run]
    dsimp only
    cases hmake : t.makeDirectory path with
    | ok made => rfl
    | error fault =>
      cases fault with
      | notFound =>
        simp only [Except.toOption, Option.getD_none, Call.runAll_append, ih]
        cases habove : t.makeFirst above with
        | mk around result =>
          cases result with
          | error fault => rfl
          | ok done =>
            simp only [Call.runAll_cons, Call.runAll_nil, Call.run]
            cases around.makeDirectory path <;> rfl
      | _ => rfl

/-! ### What a new directory brings to light -/

/-- Nothing is below a place where nothing is, even if a directory is made there. -/
theorem get?_made (hs : t.Sound) (hfree : t.get? r = none) (name : String) :
  (t.set r .directory).get? (r ++ [name]) = none
  := by
  rw [get?_set_of_ne t (by simp)]
  cases hget : t.get? (r ++ [name]) with
  | none => rfl
  | some n =>
    have hparent := hs.get?_parent hget
    rw [hfree] at hparent
    cases hparent

/-- Steps from a directory that has just been made lead no further than to what is not there. -/
theorem walk_from_made (hs : t.Sound) (hfree : t.get? r = none) {steps : List String}
    (hforward : ".." ∉ steps) (hsize : ∀ step ∈ steps, step.utf8ByteSize ≤ mostNameOctets) :
  (t.set r .directory).walk r steps = .error .notFound ∨
    ∃ q, (t.set r .directory).walk r steps = .ok q ∧
      (q = r ∨ (t.set r .directory).get? q = none)
  := by
  have hr : r ≠ [] := by
    rintro rfl
    cases hfree
  induction steps with
  | nil => exact .inr ⟨r, rfl, .inl rfl⟩
  | cons step rest ih =>
    rw [List.mem_cons, not_or] at hforward
    rw [List.forall_mem_cons] at hsize
    simp only [walk, get?_set_self t hr, Nat.not_lt.mpr hsize.1, if_false]
    by_cases hdot : step = "."
    · rw [after, if_pos hdot]
      apply ih hforward.2 hsize.2
    · rw [after, if_neg hdot, if_neg (Ne.symm hforward.1)]
      cases rest with
      | nil => exact .inr ⟨r ++ [step], rfl, .inr (get?_made hs hfree step)⟩
      | cons next others =>
        left
        simp only [walk, get?_made hs hfree step]

/-- Steps that lead nowhere lead no further when a directory is made on their way. -/
theorem walk_made (hs : t.Sound) (hfree : t.get? r = none) (here : Place) {steps : List String}
    (hforward : ".." ∉ steps) (hsize : ∀ step ∈ steps, step.utf8ByteSize ≤ mostNameOctets) :
  (t.set r .directory).walk here steps = t.walk here steps ∨
    t.walk here steps = .error .notFound ∧ ∃ q, (t.set r .directory).walk here steps = .ok q ∧
      (q = r ∨ (t.set r .directory).get? q = none)
  := by
  induction steps generalizing here with
  | nil => exact .inl rfl
  | cons step rest ih =>
    by_cases hhere : here = r
    · have hmissing : t.walk here (step :: rest) = .error .notFound := by
        simp only [walk, hhere, hfree]
      rw [hmissing]
      rcases walk_from_made hs hfree hforward hsize with hnone | ⟨q, hq, hor⟩
      · rw [hhere]
        exact .inl hnone
      · rw [hhere]
        exact .inr ⟨rfl, q, hq, hor⟩
    · rw [List.mem_cons, not_or] at hforward
      rw [List.forall_mem_cons] at hsize
      simp only [walk, get?_set_of_ne t hhere]
      split
      · split
        · exact .inl rfl
        · apply ih _ hforward.2 hsize.2
      · exact .inl rfl
      · exact .inl rfl

/-- What is listed depends on what stands at the place of a path. -/
theorem list_eq_of_place (hplace : t.place d d.route = .ok q) :
  t.list d = match t.get? q with
    | some .directory => .ok (t.children q)
    | some (.file _) => .error .notDirectory
    | none => .error .notFound
  := by
  rw [Tree.list, hplace, Result.ok_bind]
  rfl

theorem list_eq_of_place_error {fault : FileFault}
    (hplace : t.place d d.route = .error fault) :
  t.list d = .error fault
  := by
  rw [Tree.list, hplace, Result.error_bind]

/-- There is nothing in a directory that has just been made. -/
theorem children_made (hs : t.Sound) (hs' : (t.set r .directory).Sound) (hfree : t.get? r = none) :
  (t.set r .directory).children r = []
  := by
  rw [List.eq_nil_iff_forall_not_mem]
  rintro ⟨name, n⟩ hmem
  have hget := hs'.mem_children.mp hmem
  rw [get?_made hs hfree] at hget
  cases hget

theorem forward_route (hforward : ".." ∉ d.steps)
    (hsize : ∀ step ∈ d.steps, step.utf8ByteSize ≤ mostNameOctets) :
  ".." ∉ d.route ∧ ∀ step ∈ d.route, step.utf8ByteSize ≤ mostNameOctets
  := by
  unfold Path.route
  split
  · constructor
    · simpa using hforward
    · intro step hstep
      rcases List.mem_append.mp hstep with hstep | hstep
      · apply hsize step hstep
      · rw [List.mem_singleton.mp hstep]
        decide
  · rw [List.append_nil]
    exact ⟨hforward, hsize⟩

end LiveModels.Tree
