/-!
# Sets of code points

A set of code points is given by its boundaries: the ascending list of the code points at which
membership changes, the first one being the least member.
-/

namespace LiveModels.Text

/-- Whether `n` lies in the set with the boundaries `bounds`: it has reached the first boundary and
is not in the set that the remaining ones bound, which begins where the first run ends. -/
def inside : List Nat → Nat → Bool
  | [], _ => false
  | b :: bounds, n => decide (b ≤ n) && !inside bounds n

@[simp]
theorem inside_nil (n : Nat) :
  inside [] n = false
  := rfl

end LiveModels.Text
