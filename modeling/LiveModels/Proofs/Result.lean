import Mathlib.Data.List.Forall2

/-!
# Results

Computations that can fail: a failure ends a sequence of them, and a sequence succeeds if and only
if all of them do.
-/

namespace LiveModels.Result

variable {ε α β : Type}

@[simp]
theorem ok_bind (a : α) (f : α → Except ε β) :
  (Except.ok a >>= f) = f a
  := rfl

@[simp]
theorem error_bind (e : ε) (f : α → Except ε β) :
  (Except.error e >>= f) = .error e
  := rfl

@[simp]
theorem pure_eq (a : α) :
  (pure a : Except ε α) = .ok a
  := rfl

@[simp]
theorem throw_eq (e : ε) :
  (throw e : Except ε α) = .error e
  := rfl

/-- A sequence succeeds if and only if both parts do. -/
theorem bind_eq_ok_iff {x : Except ε α} {f : α → Except ε β} {b : β} :
  x >>= f = .ok b ↔ ∃ a, x = .ok a ∧ f a = .ok b
  := by
  cases x with
  | error e => simp
  | ok a => simp

/-- A sequence fails if and only if its first part does, or its second part after it. -/
theorem bind_eq_error_iff {x : Except ε α} {f : α → Except ε β} {e : ε} :
  x >>= f = .error e ↔ x = .error e ∨ ∃ a, x = .ok a ∧ f a = .error e
  := by
  cases x with
  | error e' => simp
  | ok a => simp

theorem map_eq_ok_iff {x : Except ε α} {f : α → β} {b : β} :
  x.map f = .ok b ↔ ∃ a, x = .ok a ∧ f a = b
  := by
  cases x with
  | error e => simp [Except.map]
  | ok a => simp [Except.map]

/-- What is made of a result is there if the result is. -/
theorem toOption_map (x : Except ε α) (f : α → β) :
  (x.map f).toOption = x.toOption.map f
  := by
  cases x <;> rfl

/-- Each result of a computation over a list comes from a member. -/
theorem exists_of_mem_mapM {f : α → Except ε β} {xs : List α} {ys : List β} (h : xs.mapM f = .ok ys)
    {y : β} (hy : y ∈ ys) :
  ∃ x ∈ xs, f x = .ok y
  := by
  induction xs generalizing ys with
  | nil =>
    cases h
    cases hy
  | cons x xs ih =>
    rw [List.mapM_cons] at h
    obtain ⟨first, hfirst, h⟩ := bind_eq_ok_iff.mp h
    obtain ⟨others, hothers, h⟩ := bind_eq_ok_iff.mp h
    cases h
    rcases List.mem_cons.mp hy with rfl | hy
    · exact ⟨x, List.mem_cons_self, hfirst⟩
    · obtain ⟨x', hx', hy⟩ := ih hothers hy
      exact ⟨x', List.mem_cons_of_mem _ hx', hy⟩

/-! ### Lists -/

/-- A computation over a list succeeds if and only if it does so for all members. -/
theorem mapM_eq_ok_iff {f : α → Except ε β} {xs : List α} {ys : List β} :
  xs.mapM f = .ok ys ↔ List.Forall₂ (fun x y => f x = .ok y) xs ys
  := by
  induction xs generalizing ys with
  | nil =>
    rw [List.mapM_nil, List.forall₂_nil_left_iff, pure_eq, Except.ok.injEq]
    exact eq_comm
  | cons x xs ih =>
    rw [List.mapM_cons, List.forall₂_cons_left_iff]
    constructor
    · intro h
      obtain ⟨y, hy, h⟩ := bind_eq_ok_iff.mp h
      obtain ⟨rest, hrest, h⟩ := bind_eq_ok_iff.mp h
      cases h
      exact ⟨y, rest, hy, ih.mp hrest, rfl⟩
    · rintro ⟨y, rest, hy, hrest, rfl⟩
      rw [hy, ok_bind, ih.mpr hrest, ok_bind, pure_eq]

/-- Of lists that correspond member by member, each member of the first has one in the second. -/
theorem exists_of_forall₂ {r : α → β → Prop} {xs : List α} {ys : List β} (h : List.Forall₂ r xs ys)
    {x : α} (hx : x ∈ xs) :
  ∃ y ∈ ys, r x y
  := by
  induction h with
  | nil => cases hx
  | cons hxy hrest ih =>
    rcases List.mem_cons.mp hx with rfl | hx
    · exact ⟨_, List.mem_cons_self, hxy⟩
    · obtain ⟨y, hy, hxy⟩ := ih hx
      exact ⟨y, List.mem_cons_of_mem _ hy, hxy⟩

/-- Each member of a list has its result among those of a computation over the list. -/
theorem exists_of_mapM_of_mem {f : α → Except ε β} {xs : List α} {ys : List β}
    (h : xs.mapM f = .ok ys) {x : α} (hx : x ∈ xs) :
  ∃ y ∈ ys, f x = .ok y
  := exists_of_forall₂ (mapM_eq_ok_iff.mp h) hx

/-- Whether a member of a list is the first one with a property. -/
def IsFirst (p : α → Prop) (xs : List α) (x : α) : Prop :=
  p x ∧ ∃ before after, xs = before ++ x :: after ∧ ∀ y ∈ before, ¬ p y

theorem IsFirst.mem {p : α → Prop} {xs : List α} {x : α} (h : IsFirst p xs x) :
  x ∈ xs
  := by
  obtain ⟨-, before, after, rfl, -⟩ := h
  apply List.mem_append_right
  apply List.mem_cons_self

theorem IsFirst.cons {p : α → Prop} {xs : List α} {x x' : α} (h : IsFirst p xs x) (hx : ¬ p x') :
  IsFirst p (x' :: xs) x
  := by
  obtain ⟨hp, before, after, rfl, hbefore⟩ := h
  exact ⟨hp, x' :: before, after, rfl, List.forall_mem_cons.mpr ⟨hx, hbefore⟩⟩

/-- The properties of members decide which of them is the first. -/
theorem IsFirst.congr {p q : α → Prop} {xs : List α} {x : α} (h : IsFirst p xs x)
    (hiff : ∀ y ∈ xs, p y ↔ q y) :
  IsFirst q xs x
  := by
  refine ⟨(hiff x h.mem).mp h.1, ?_⟩
  obtain ⟨-, before, after, rfl, hbefore⟩ := h
  refine ⟨before, after, rfl, ?_⟩
  intro y hy hq
  apply hbefore y hy ((hiff y (List.mem_append_left _ hy)).mpr hq)

/-- What is found in a list is the first member that passes the test. -/
theorem isFirst_of_find? {p : α → Bool} {xs : List α} {x : α} (h : xs.find? p = some x) :
  IsFirst (fun y => p y = true) xs x
  := by
  obtain ⟨hp, before, after, rfl, hbefore⟩ := List.find?_eq_some_iff_append.mp h
  refine ⟨hp, before, after, rfl, ?_⟩
  intro y hy hpy
  have hnot := hbefore y hy
  rw [hpy] at hnot
  cases hnot

/-- The error of a computation over a list is that of the first member for which it fails. -/
theorem exists_of_mapM_eq_error {f : α → Except ε β} {xs : List α} {e : ε}
    (h : xs.mapM f = .error e) :
  ∃ x, f x = .error e ∧ IsFirst (fun y => ∃ e', f y = .error e') xs x
  := by
  induction xs with
  | nil => cases h
  | cons x xs ih =>
    rw [List.mapM_cons] at h
    rcases bind_eq_error_iff.mp h with hx | ⟨y, hy, h⟩
    · exact ⟨x, hx, ⟨e, hx⟩, [], xs, rfl, fun y hy => nomatch hy⟩
    · rcases bind_eq_error_iff.mp h with hxs | ⟨ys, -, h⟩
      · obtain ⟨x', hx', hfirst⟩ := ih hxs
        use x', hx'
        apply hfirst.cons
        rintro ⟨e', he'⟩
        rw [hy] at he'
        cases he'
      · cases h

/-- A check of every member of a list is a computation without results. -/
theorem forM_eq_mapM (f : α → Except ε Unit) (xs : List α) :
  xs.forM f = (xs.mapM f).map fun _ => ()
  := by
  induction xs with
  | nil => rfl
  | cons x xs ih =>
    have hcons : (x :: xs).forM f = f x >>= fun _ => xs.forM f := rfl
    rw [hcons, List.mapM_cons, ih]
    cases f x with
    | error e => rfl
    | ok y =>
      cases xs.mapM f <;> rfl

/-- A check of a list that succeeds does so for every member. -/
theorem eq_ok_of_forM {f : α → Except ε Unit} {xs : List α} (h : xs.forM f = .ok ()) {x : α}
    (hx : x ∈ xs) :
  f x = .ok ()
  := by
  rw [forM_eq_mapM] at h
  cases hxs : xs.mapM f with
  | error e =>
    rw [hxs] at h
    cases h
  | ok ys =>
    obtain ⟨⟨⟩, -, hxy⟩ := exists_of_mapM_of_mem hxs hx
    apply hxy

/-- The error of a check of a list is that of the first member for which it fails. -/
theorem exists_of_forM_eq_error {f : α → Except ε Unit} {xs : List α} {e : ε}
    (h : xs.forM f = .error e) :
  ∃ x, f x = .error e ∧ IsFirst (fun y => ∃ e', f y = .error e') xs x
  := by
  rw [forM_eq_mapM] at h
  cases hxs : xs.mapM f with
  | error e' =>
    rw [hxs] at h
    cases h
    apply exists_of_mapM_eq_error hxs
  | ok ys =>
    rw [hxs] at h
    cases h

/-- What holds at first and is kept by every step holds after all of them. -/
theorem foldlM_induction {f : β → α → Except ε β} {p : β → Prop}
    (hstep : ∀ {b a b'}, p b → f b a = .ok b' → p b') {xs : List α} {b b' : β} (hb : p b)
    (h : xs.foldlM f b = .ok b') :
  p b'
  := by
  induction xs generalizing b with
  | nil =>
    cases h
    apply hb
  | cons x xs ih =>
    obtain ⟨next, hnext, hrest⟩ := bind_eq_ok_iff.mp h
    apply ih (hstep hb hnext) hrest

/-- In a loop that succeeds, each step does. -/
theorem exists_of_foldlM {f : β → α → Except ε β} {xs : List α} {b b' : β}
    (h : xs.foldlM f b = .ok b') {a : α} (ha : a ∈ xs) :
  ∃ c c', f c a = .ok c'
  := by
  induction xs generalizing b with
  | nil => cases ha
  | cons x rest ih =>
    rw [List.foldlM_cons] at h
    obtain ⟨c, hc, hrest⟩ := bind_eq_ok_iff.mp h
    rcases List.mem_cons.mp ha with rfl | ha
    · exact ⟨b, c, hc⟩
    · apply ih hrest ha

end LiveModels.Result
