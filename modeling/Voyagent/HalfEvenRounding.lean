import Mathlib.Algebra.Order.Round
import Mathlib.Tactic.Linarith
import Mathlib.Tactic.Ring

/-!
# Rounding ties to even

The nearest integer, ties to the even one, and a running sum that is rounded
after every summand. Each summand is a whole number and a part over it; the
running sum counts the parts that are rounded up one by one, and the sum
rounded once counts them together.
-/

namespace Voyagent.HalfEvenRounding

def isOdd (n : ℤ) : Bool := decide (n%2=1)

theorem isOdd_add (m n : ℤ) : isOdd (m+n)=xor (isOdd m) (isOdd n) := by
  unfold isOdd
  rcases Int.emod_two_eq m with hm|hm <;> rcases Int.emod_two_eq n with hn|hn <;>
    simp [hm,hn,Int.add_emod]

theorem isOdd_toNat (b : Bool) : isOdd (b.toNat : ℤ)=b := by
  cases b <;> rfl

variable {α : Type} [Field α] [LinearOrder α] [IsStrictOrderedRing α] [FloorRing α]

/-- Whether a part over a whole number is rounded up: more than half, or half
over an odd number. -/
def roundedUp (odd : Bool) (part : α) : Bool :=
  decide (1/2<part) || (decide (part=1/2) && odd)

/-- What a number adds to a whole number, odd or not, when the sum is rounded. -/
def added (odd : Bool) (x : α) : ℤ :=
  ⌊x⌋+(roundedUp (xor odd (isOdd ⌊x⌋)) (Int.fract x)).toNat

/-- The nearest integer, ties to the even one. -/
def roundHalfEven (x : α) : ℤ := added false x

variable (n : ℤ) (x : α) (xs : List α)

theorem roundHalfEven_int_add :
    roundHalfEven ((n : α)+x)=n+added (isOdd n) x := by
  unfold roundHalfEven added
  rw [Int.floor_intCast_add,Int.fract_intCast_add,isOdd_add,Bool.false_xor,Int.add_assoc]

theorem roundHalfEven_int : roundHalfEven (n : α)=n := by
  have hzero : added (isOdd n) (0 : α)=0 := by
    simp [added,roundedUp]
  have h := roundHalfEven_int_add (α:=α) n 0
  rwa [add_zero,hzero,Int.add_zero] at h

/-- The integer is at most half away, and even where it is half away. -/
def Nearest (x : α) (n : ℤ) : Prop := |x-n|<1/2 ∨ |x-n|=1/2 ∧ isOdd n=false

theorem roundHalfEven_nearest : Nearest x (roundHalfEven x) := by
  have hx : x=(⌊x⌋ : α)+Int.fract x := (Int.floor_add_fract x).symm
  have hlow := Int.fract_nonneg x
  have hhigh := Int.fract_lt_one x
  unfold Nearest roundHalfEven added
  generalize ⌊x⌋=k at hx ⊢
  generalize Int.fract x=f at hx hlow hhigh ⊢
  rw [Bool.false_xor]
  cases hup : roundedUp (isOdd k) f with
  | true =>
    have hdist : |x-((k+(true.toNat : ℤ) : ℤ) : α)|=1-f := by
      have hdiff : x-((k+(true.toNat : ℤ) : ℤ) : α)= -(1-f) := by
        rw [hx]
        push_cast [Bool.toNat_true]
        ring
      rw [hdiff,abs_neg,abs_of_nonneg (by linarith)]
    rw [hdist]
    simp only [roundedUp,Bool.or_eq_true,Bool.and_eq_true,decide_eq_true_eq] at hup
    rcases hup with hmore|⟨hhalf,hodd⟩
    · exact .inl (by linarith)
    · refine .inr ⟨by linarith,?_⟩
      rw [isOdd_add,hodd]
      rfl
  | false =>
    have hdist : |x-((k+(false.toNat : ℤ) : ℤ) : α)|=f := by
      have hdiff : x-((k+(false.toNat : ℤ) : ℤ) : α)=f := by
        rw [hx]
        push_cast [Bool.toNat_false]
        ring
      rw [hdiff,abs_of_nonneg hlow]
    rw [hdist]
    simp only [roundedUp,Bool.or_eq_false_iff,Bool.and_eq_false_iff,decide_eq_false_iff_not] at hup
    obtain ⟨hnot,hhalf⟩ := hup
    rcases lt_or_eq_of_le (not_lt.mp hnot) with hless|hsame
    · exact .inl hless
    · have heven := hhalf.resolve_left (not_not.mpr hsame)
      refine .inr ⟨hsame,?_⟩
      rw [isOdd_add,heven]
      rfl

/-- No two integers are nearest to a number. -/
theorem Nearest.unique {x : α} {m n : ℤ} (hm : Nearest x m) (hn : Nearest x n) : m=n := by
  have hdist : |((m-n : ℤ) : α)|≤|x-m|+|x-n| := by
    have hsplit : ((m-n : ℤ) : α)=(x-n)-(x-m) := by
      push_cast
      ring
    rw [hsplit,add_comm]
    exact abs_sub _ _
  have hhalf : |x-m|≤1/2 := hm.elim le_of_lt fun h => h.1.le
  have hhalf' : |x-n|≤1/2 := hn.elim le_of_lt fun h => h.1.le
  have hone : |m-n|≤1 := by
    have hcast : ((|m-n| : ℤ) : α)≤((1 : ℤ) : α) := by
      rw [Int.cast_abs,Int.cast_one]
      linarith
    exact Int.cast_le.mp hcast
  by_contra hne
  have hpos : 1≤|m-n| := Int.one_le_abs (sub_ne_zero.mpr hne)
  have hcast : ((|m-n| : ℤ) : α)=1 := by
    rw [le_antisymm hone hpos,Int.cast_one]
  rw [Int.cast_abs] at hcast
  -- both are half away, so both are even and cannot be neighbours
  have hm' : isOdd m=false := by
    rcases hm with h|h
    · linarith
    · exact h.2
  have hn' : isOdd n=false := by
    rcases hn with h|h
    · linarith
    · exact h.2
  have hgap : m-n=1 ∨ m-n= -1 := (abs_eq (by decide)).mp (le_antisymm hone hpos)
  simp only [isOdd,decide_eq_false_iff_not] at hm' hn'
  omega

theorem roundHalfEven_eq_iff {x : α} {n : ℤ} : roundHalfEven x=n ↔ Nearest x n := by
  constructor
  · rintro rfl
    exact roundHalfEven_nearest x
  · exact fun h => (roundHalfEven_nearest x).unique h

theorem roundHalfEven_neg : roundHalfEven (-x)= -roundHalfEven x := by
  have hodd : ∀ n : ℤ,isOdd (-n)=isOdd n := by
    intro n
    unfold isOdd
    exact decide_eq_decide.mpr (by omega)
  have hdist : |-x-((-roundHalfEven x : ℤ) : α)|=|x-roundHalfEven x| := by
    rw [Int.cast_neg,← abs_neg]
    congr 1
    ring
  refine roundHalfEven_eq_iff.mpr ?_
  unfold Nearest
  rw [hdist,hodd]
  exact roundHalfEven_nearest x

/-- The result is at most half away. -/
theorem abs_roundHalfEven_le : |((roundHalfEven x : ℤ) : α)|≤|x|+1/2 := by
  have hnear : |x-roundHalfEven x|≤1/2 := (roundHalfEven_nearest x).elim le_of_lt fun h => h.1.le
  have hsplit : ((roundHalfEven x : ℤ) : α)=x-(x-roundHalfEven x) := by ring
  calc |((roundHalfEven x : ℤ) : α)|=|x-(x-roundHalfEven x)| := by rw [← hsplit]
    _ ≤ |x|+|x-roundHalfEven x| := abs_sub _ _
    _ ≤ |x|+1/2 := by linarith

/-! ## Running sums -/

/-- The sum that is rounded after every summand. -/
def runningSum (n : ℤ) (xs : List α) : ℤ := xs.foldl (fun m x => roundHalfEven ((m : α)+x)) n

/-- How many parts are rounded up one by one, over a whole number that is odd or not. -/
def roundUps : Bool → List α → ℕ
  | _,[] => 0
  | odd,x::xs =>
    let odd := xor odd (isOdd ⌊x⌋)
    let up := roundedUp odd (Int.fract x)
    up.toNat+roundUps (xor odd up) xs

/-- The whole numbers of the summands, added up. -/
def wholes (xs : List α) : ℤ := (xs.map fun x => ⌊x⌋).sum

/-- The parts of the summands over their whole numbers, added up. -/
def parts (xs : List α) : α := (xs.map Int.fract).sum

/-- As many parts are rounded up one by one as the parts add when they are
rounded together. -/
def RoundsTogether (xs : List α) : Prop :=
  (roundUps false xs : ℤ)=added (isOdd (wholes xs)) (parts xs)

instance (xs : List α) : Decidable (RoundsTogether xs) := by
  unfold RoundsTogether
  infer_instance

theorem wholes_add_parts : ((wholes xs : ℤ) : α)+parts xs=xs.sum := by
  induction xs with
  | nil => simp [wholes,parts]
  | cons x xs ih =>
    unfold wholes parts at ih ⊢
    rw [List.map_cons,List.map_cons,List.sum_cons,List.sum_cons,List.sum_cons,← ih]
    push_cast
    linarith [Int.floor_add_fract x]

theorem runningSum_eq :
    runningSum n xs=n+wholes xs+roundUps (isOdd n) xs := by
  induction xs generalizing n with
  | nil => simp [runningSum,wholes,roundUps]
  | cons x xs ih =>
    have hstep : runningSum n (x::xs)=runningSum (n+added (isOdd n) x) xs := by
      rw [runningSum,List.foldl_cons,roundHalfEven_int_add]
      rfl
    rw [hstep,ih]
    unfold added wholes
    rw [isOdd_add,isOdd_add,isOdd_toNat,← Bool.xor_assoc,List.map_cons,List.sum_cons,roundUps]
    push_cast
    ring

/-- Rounding the sum once. -/
theorem roundHalfEven_sum :
    roundHalfEven xs.sum=wholes xs+added (isOdd (wholes xs)) (parts xs) := by
  rw [← wholes_add_parts,roundHalfEven_int_add]

/-- Rounding after every summand comes to rounding once if and only if the
parts round together. -/
theorem runningSum_eq_iff :
    runningSum 0 xs=roundHalfEven xs.sum ↔ RoundsTogether xs := by
  rw [runningSum_eq,roundHalfEven_sum,Int.zero_add]
  exact Int.add_right_inj _

end Voyagent.HalfEvenRounding
