import Mathlib.Data.List.Basic
import Mathlib.Data.Nat.ModEq

/-!
# Weighted check sums

A check sum weighs each value by its position and is taken modulo a number.
Where the weight of a position is coprime to the modulus, no other value at
that position has the same check sum. Nothing here names a particular program.
-/

namespace Voyagent.WeightedChecks

variable {w : ℕ → ℕ} {N : ℕ}

/-- The values weighed by their positions, the first of them at position `k`. -/
def weightedSum (w : ℕ → ℕ) : ℕ → List ℕ → ℕ
  | _,[] => 0
  | k,v::vs => v*w k+weightedSum w (k+1) vs

/-- Exchanging one value exchanges its weighed share. -/
theorem weightedSum_set (w : ℕ → ℕ) (k : ℕ) {vs : List ℕ} {i : ℕ} (hi : i < vs.length) (b : ℕ) :
    weightedSum w k (vs.set i b)+vs[i]*w (k+i)=weightedSum w k vs+b*w (k+i) := by
  induction vs generalizing k i with
  | nil => exact absurd hi (Nat.not_lt_zero i)
  | cons v vs ih =>
    cases i with
    | zero =>
      simp only [List.set_cons_zero,weightedSum,List.getElem_cons_zero,Nat.add_zero]
      omega
    | succ i =>
      have ih := ih (k+1) (Nat.lt_of_succ_lt_succ hi)
      have hk : k+1+i=k+(i+1) := by omega
      rw [hk] at ih
      simp only [List.set_cons_succ,weightedSum,List.getElem_cons_succ]
      omega

/-- Another value at a position of a coprime weight shows in the check sum. -/
theorem weightedSum_set_ne (k : ℕ) {vs : List ℕ} {i : ℕ} (hi : i < vs.length) {b : ℕ}
    (hw : Nat.Coprime (w (k+i)) N) (hne : b%N≠vs[i]%N) :
    weightedSum w k (vs.set i b)%N≠weightedSum w k vs%N := by
  intro hsame
  have hsum := weightedSum_set w k hi b
  have hshares : b*w (k+i)≡vs[i]*w (k+i) [MOD N] := by
    have hleft : weightedSum w k vs+b*w (k+i)≡weightedSum w k vs+vs[i]*w (k+i) [MOD N] := by
      rw [← hsum]
      exact Nat.ModEq.add_right _ hsame
    exact Nat.ModEq.add_left_cancel' _ hleft
  exact hne (Nat.ModEq.cancel_right_of_coprime (Nat.Coprime.symm hw) hshares)

end Voyagent.WeightedChecks
