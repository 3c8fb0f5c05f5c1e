import Mathlib.Data.List.Nodup

/-!
# Lookups by keys

Members of a list are looked up by a key, the first one with the key being found. If no two members
have the same key, then the member with a key is the one that is found.
-/

namespace LiveModels.Keys

variable {α κ : Type} [BEq κ] [LawfulBEq κ] {key : α → κ} {k : κ} {xs : List α} {x : α}

/-- What is found is a member with the key. -/
theorem of_find? (h : xs.find? (fun y => key y == k) = some x) :
  x ∈ xs ∧ key x = k
  := by
  have hfound := List.find?_some h
  exact ⟨List.mem_of_find?_eq_some h, beq_iff_eq.mp hfound⟩

/-- A member is found by the key of a member. -/
theorem exists_find? (hx : x ∈ xs) :
  ∃ y, xs.find? (fun y => key y == key x) = some y
  := by
  rw [← Option.isSome_iff_exists, List.find?_isSome]
  use x, hx
  rw [beq_self_eq_true]

/-- If keys are different, the member with a key is the one that is found. -/
theorem find?_eq_some_iff (h : (xs.map key).Nodup) :
  xs.find? (fun y => key y == k) = some x ↔ x ∈ xs ∧ key x = k
  := by
  constructor
  · apply of_find?
  · rintro ⟨hx, rfl⟩
    obtain ⟨y, hy⟩ : ∃ y, xs.find? (fun y => key y == key x) = some y := exists_find? hx
    obtain ⟨hmem, hkey⟩ := of_find? hy
    rw [hy, List.inj_on_of_nodup_map h hmem hx hkey]

end LiveModels.Keys
