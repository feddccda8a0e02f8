import Mathlib.Data.List.Forall2
import Voyagent.GroupedSums

/-!
# Decimal numbers

Python's finite decimals: a coefficient and a power of ten, added in the default
context of twenty-eight digits with ties rounded to the even neighbour. The sign
of a zero and the limits of the exponent are left out.
-/

namespace Voyagent.Decimals

open GroupedSums (sum_nonneg)

structure Decimal where
  coefficient : Int
  exponent : Int
  deriving DecidableEq

/-- Digits of the default context. -/
def precision : Nat := 28

/-- A natural number without its last digits, ties to the even neighbour. -/
def divHalfEven (n k : Nat) : Nat :=
  if 10^k<2*(n%10^k) ∨ (2*(n%10^k)=10^k ∧ n/10^k%2=1) then n/10^k+1 else n/10^k

/-- An integer without its last digits. -/
def roundedAt (c : Int) (k : Nat) : Int := c.sign*(divHalfEven c.natAbs k : Int)

/-- The result of an operation in the context. -/
def Decimal.rounded (d : Decimal) : Decimal :=
  if d.coefficient.natAbs<10^precision then d
  else
    let k := (Nat.toDigits 10 d.coefficient.natAbs).length-precision
    let c := roundedAt d.coefficient k
    -- rounding up may open one more digit
    if c.natAbs=10^precision then ⟨c/10,d.exponent+k+1⟩ else ⟨c,d.exponent+k⟩

/-- The coefficient with respect to a lower exponent. -/
def Decimal.coefficientAt (d : Decimal) (e : Int) : Int := d.coefficient*10^(d.exponent-e).toNat

def Decimal.add (a b : Decimal) : Decimal :=
  let e := min a.exponent b.exponent
  Decimal.rounded ⟨a.coefficientAt e+b.coefficientAt e,e⟩

def Decimal.neg (a : Decimal) : Decimal := ⟨-a.coefficient,a.exponent⟩

def Decimal.sub (a b : Decimal) : Decimal := a.add b.neg

def Decimal.mul (a b : Decimal) : Decimal :=
  Decimal.rounded ⟨a.coefficient*b.coefficient,a.exponent+b.exponent⟩

/-- `Decimal.copy_abs`. -/
def Decimal.copyAbs (a : Decimal) : Decimal := ⟨a.coefficient.natAbs,a.exponent⟩

/-- Decimals are compared by value. -/
def Decimal.le (a b : Decimal) : Bool :=
  let e := min a.exponent b.exponent
  decide (a.coefficientAt e≤b.coefficientAt e)

def Decimal.beq (a b : Decimal) : Bool :=
  let e := min a.exponent b.exponent
  decide (a.coefficientAt e=b.coefficientAt e)

def zero : Decimal := ⟨0,0⟩

/-- `Decimal.quantize` to a power of ten; nothing where the digits do not fit. -/
def Decimal.quantize (d : Decimal) (e : Int) : Option Decimal :=
  let c := if e≤d.exponent then d.coefficientAt e else roundedAt d.coefficient (e-d.exponent).toNat
  if c.natAbs<10^precision then some ⟨c,e⟩ else none

/-- `str` of a decimal. -/
def Decimal.text (d : Decimal) : String :=
  let digits := Nat.toDigits 10 d.coefficient.natAbs
  let left := d.exponent+digits.length
  let point := if d.exponent≤0 ∧ -6<left then left else 1
  let shown : List Char :=
    if point≤0 then '0':: '.'::(List.replicate (-point).toNat '0'++digits)
    else if digits.length≤point then digits++List.replicate (point-digits.length).toNat '0'
    else digits.take point.toNat++ '.'::digits.drop point.toNat
  let power : List Char :=
    if left=point then []
    else 'E'::(if left<point then '-' else '+')::Nat.toDigits 10 (left-point).natAbs
  String.ofList ((if d.coefficient<0 then ['-'] else [])++shown++power)

/-! ## Numbers of one scale -/

/-- The decimal stands for the integer at a scale: written there, or a plain zero. -/
def Scaled (e : Int) (d : Decimal) (c : Int) : Prop := d=⟨c,e⟩ ∨ c=0 ∧ d=zero

variable {e : Int} {a b : Decimal} {m n : Int}

@[simp] theorem coefficientAt_self (c e : Int) : (⟨c,e⟩ : Decimal).coefficientAt e=c := by
  simp [Decimal.coefficientAt]

@[simp] theorem coefficientAt_zero (e : Int) : zero.coefficientAt e=0 := Int.zero_mul _

theorem fits_of_bounds {c : Int} (h : c<10^precision) (h' : -10^precision<c) :
    c.natAbs<10^precision := by
  unfold precision at *
  omega

theorem rounded_of_fits (h : m.natAbs<10^precision) : Decimal.rounded ⟨m,e⟩=⟨m,e⟩ := if_pos h

theorem scaled_self (d : Decimal) : Scaled d.exponent d d.coefficient := .inl rfl

theorem scaled_zero (e : Int) : Scaled e zero 0 := .inr ⟨rfl,rfl⟩

/-- At scales of zero or below, numbers of one scale have it in common. -/
theorem Scaled.common (he : e≤0) (ha : Scaled e a m) (hb : Scaled e b n) :
    a.coefficientAt (min a.exponent b.exponent)=m ∧
    b.coefficientAt (min a.exponent b.exponent)=n ∧
    (min a.exponent b.exponent=e ∨ m=0 ∧ n=0 ∧ min a.exponent b.exponent=0) := by
  rcases ha with rfl|⟨rfl,rfl⟩
  · rcases hb with rfl|⟨rfl,rfl⟩
    · rw [Int.min_self]
      exact ⟨coefficientAt_self m e,coefficientAt_self n e,.inl rfl⟩
    · have hmin : min e zero.exponent=e := Int.min_eq_left he
      rw [hmin]
      exact ⟨coefficientAt_self m e,coefficientAt_zero e,.inl rfl⟩
  · rcases hb with rfl|⟨rfl,rfl⟩
    · have hmin : min zero.exponent e=e := Int.min_eq_right he
      rw [hmin]
      exact ⟨coefficientAt_zero e,coefficientAt_self n e,.inl rfl⟩
    · exact ⟨rfl,rfl,.inr ⟨rfl,rfl,rfl⟩⟩

/-- Adding at one scale is adding integers, while the digits fit. -/
theorem Scaled.add (he : e≤0) (ha : Scaled e a m) (hb : Scaled e b n)
    (hfit : (m+n).natAbs<10^precision) : Scaled e (a.add b) (m+n) := by
  obtain ⟨hm,hn,hmin|⟨rfl,rfl,hmin⟩⟩ := ha.common he hb
  · refine .inl ?_
    unfold Decimal.add
    dsimp only
    rw [hm,hn,hmin,rounded_of_fits hfit]
  · refine .inr ⟨rfl,?_⟩
    unfold Decimal.add
    dsimp only
    rw [hm,hn,hmin]
    rfl

theorem Scaled.neg (ha : Scaled e a m) : Scaled e a.neg (-m) := by
  rcases ha with rfl|⟨rfl,rfl⟩
  · exact .inl rfl
  · exact .inr ⟨rfl,rfl⟩

theorem Scaled.sub (he : e≤0) (ha : Scaled e a m) (hb : Scaled e b n)
    (hfit : (m-n).natAbs<10^precision) : Scaled e (a.sub b) (m-n) := ha.add he hb.neg hfit

theorem Scaled.beq (he : e≤0) (ha : Scaled e a m) (hb : Scaled e b n) :
    a.beq b=decide (m=n) := by
  obtain ⟨hm,hn,-⟩ := ha.common he hb
  unfold Decimal.beq
  dsimp only
  rw [hm,hn]

theorem Scaled.le (he : e≤0) (ha : Scaled e a m) (hb : Scaled e b n) :
    a.le b=decide (m≤n) := by
  obtain ⟨hm,hn,-⟩ := ha.common he hb
  unfold Decimal.le
  dsimp only
  rw [hm,hn]

/-- Quantizing at the scale writes the number there. -/
theorem Scaled.quantize (he : e≤0) (ha : Scaled e a m) (hfit : m.natAbs<10^precision) :
    a.quantize e=some ⟨m,e⟩ := by
  unfold Decimal.quantize
  dsimp only
  rcases ha with rfl|⟨rfl,rfl⟩
  · rw [if_pos (Int.le_refl e),coefficientAt_self,if_pos hfit]
  · have hle : e≤zero.exponent := he
    rw [if_pos hle,coefficientAt_zero,if_pos hfit]

/-- What quantizing answers is written at the scale. -/
theorem quantize_scaled {d : Decimal} (h : a.quantize e=some d) : d.exponent=e := by
  unfold Decimal.quantize at h
  dsimp only at h
  generalize (if e≤a.exponent then a.coefficientAt e
    else roundedAt a.coefficient (e-a.exponent).toNat)=c at h
  by_cases hfit : c.natAbs<10^precision
  · rw [if_pos hfit] at h
    exact Option.some.inj h ▸ rfl
  · rw [if_neg hfit] at h
    contradiction

/-- Adding up amounts that are not negative is exact while the total fits. -/
theorem Scaled.foldl_add (he : e≤0) {ds : List Decimal} {cs : List Int}
    (hds : List.Forall₂ (Scaled e) ds cs) (hcs : ∀ c∈cs,0≤c) (hm : 0≤ m) (ha : Scaled e a m)
    (hfit : (m+cs.sum).natAbs<10^precision) : Scaled e (ds.foldl Decimal.add a) (m+cs.sum) := by
  induction hds generalizing a m with
  | nil => rwa [List.sum_nil,Int.add_zero]
  | @cons d c ds cs hd hrest ih =>
    have hc : 0≤c := hcs c List.mem_cons_self
    have hcs' : ∀ x∈cs,0≤x := fun x hx => hcs x (List.mem_cons_of_mem _ hx)
    have hsum : 0≤cs.sum := sum_nonneg hcs'
    rw [List.sum_cons,← Int.add_assoc] at hfit ⊢
    have hstep : Scaled e (a.add d) (m+c) := ha.add he hd (by omega)
    exact ih hcs' (Int.add_nonneg hm hc) hstep hfit

example : (Decimal.add ⟨105,-2⟩ ⟨3,-1⟩).text="1.35" := by decide +kernel

end Voyagent.Decimals
