import Mathlib.Data.List.Basic

/-!
# Logs

A log is written at its end, by at most one entry at a time. An entry of the longer log is an old
one at its old position, or the new one at the end.
-/

namespace LiveModels.Log

variable {α : Type} {l : List α} {o : Option α} {e : α} {i : Nat}

theorem getElem?_append_eq_some_iff :
  (l ++ o.toList)[i]? = some e ↔ l[i]? = some e ∨ i = l.length ∧ o = some e
  := by
  rcases Nat.lt_trichotomy i l.length with hi | rfl | hi
  · rw [List.getElem?_append_left hi]
    simp [Nat.ne_of_lt hi]
  · rw [List.getElem?_append_right (Nat.le_refl _)]
    cases o <;> simp
  · rw [List.getElem?_append_right (Nat.le_of_lt hi), List.getElem?_eq_none (Nat.le_of_lt hi)]
    cases o with
    | none => simp
    | some e' => simp [Nat.ne_of_gt hi, Nat.sub_ne_zero_of_lt hi]

end LiveModels.Log
