import Mathlib.Algebra.BigOperators.Ring.Finset
import Mathlib.Algebra.BigOperators.Ring.List
import Mathlib.Data.List.Induction
import Mathlib.Data.Rat.Floor
import Mathlib.Tactic.FieldSimp
import Voyagent.Decimals
import Voyagent.HalfEvenRounding

/-!
# What decimals stand for

The rational value of a decimal. While the digits of the context suffice, sums
and products have the value they should, and quantizing rounds the value to the
nearest multiple of the unit, ties to the even one. A difference is exact exactly
if its digits suffice.
-/

namespace Voyagent.DecimalValues

open Decimals HalfEvenRounding

/-- The value of a decimal. -/
def value (d : Decimal) : ℚ := d.coefficient*(10 : ℚ)^d.exponent

variable {a b d : Decimal} {e : ℤ}

theorem ten_zpow_pos (e : ℤ) : (0 : ℚ)<10^e := zpow_pos (by norm_num) e

/-- The value, read at a lower exponent. -/
theorem value_coefficientAt (h : e≤d.exponent) : (d.coefficientAt e : ℚ)*(10 : ℚ)^e=value d := by
  have hpower : (10 : ℚ)^(d.exponent-e).toNat*(10 : ℚ)^e=(10 : ℚ)^d.exponent := by
    rw [← zpow_natCast,Int.toNat_of_nonneg (sub_nonneg.mpr h),← zpow_add₀ (by norm_num)]
    congr 1
    ring
  unfold Decimal.coefficientAt value
  push_cast
  rw [mul_assoc,hpower]

/-- A coefficient fits where the value is small for its exponent. -/
theorem fits_of_value {c : ℤ} (h : |(c : ℚ)*(10 : ℚ)^e|<10^((precision : ℤ)+e)) :
    c.natAbs<10^precision := by
  rw [zpow_add₀ (by norm_num),abs_mul,abs_of_pos (ten_zpow_pos e),zpow_natCast] at h
  have hcast : ((c.natAbs : ℕ) : ℚ)<((10^precision : ℕ) : ℚ) := by
    rw [Nat.cast_natAbs,Int.cast_abs]
    push_cast
    exact lt_of_mul_lt_mul_right h (ten_zpow_pos e).le
  exact Nat.cast_lt.mp hcast

/-- A sum that keeps its digits is exact. -/
theorem value_add (h : |value a+value b|<10^((precision : ℤ)+min a.exponent b.exponent)) :
    (a.add b).exponent=min a.exponent b.exponent ∧ value (a.add b)=value a+value b := by
  have ha := value_coefficientAt (min_le_left a.exponent b.exponent)
  have hb := value_coefficientAt (min_le_right a.exponent b.exponent)
  have hsum : ((a.coefficientAt (min a.exponent b.exponent)+
      b.coefficientAt (min a.exponent b.exponent) : ℤ) : ℚ)*(10 : ℚ)^(min a.exponent b.exponent)=
        value a+value b := by
    push_cast
    rw [add_mul,ha,hb]
  have hfit := fits_of_value (hsum.symm ▸ h)
  unfold Decimal.add
  dsimp only
  rw [rounded_of_fits hfit]
  exact ⟨rfl,hsum⟩

/-- A product that keeps its digits is exact. -/
theorem value_mul (h : |value a*value b|<10^((precision : ℤ)+(a.exponent+b.exponent))) :
    (a.mul b).exponent=a.exponent+b.exponent ∧ value (a.mul b)=value a*value b := by
  have hproduct : ((a.coefficient*b.coefficient : ℤ) : ℚ)*(10 : ℚ)^(a.exponent+b.exponent)=
      value a*value b := by
    unfold value
    rw [zpow_add₀ (by norm_num)]
    push_cast
    ring
  have hfit := fits_of_value (hproduct.symm ▸ h)
  unfold Decimal.mul
  rw [rounded_of_fits hfit]
  exact ⟨rfl,hproduct⟩

/-! ## Quantizing -/

/-- Dropping digits of a natural number rounds the quotient. -/
theorem divHalfEven_eq (n k : ℕ) : roundHalfEven ((n : ℚ)/(10^k : ℕ))=divHalfEven n k := by
  have hpos : (0 : ℚ)<((10^k : ℕ) : ℚ) := Nat.cast_pos.mpr (by positivity)
  have hfloor : ⌊(n : ℚ)/((10^k : ℕ) : ℚ)⌋=((n/10^k : ℕ) : ℤ) := Rat.floor_natCast_div_natCast n (10^k)
  have hfract : Int.fract ((n : ℚ)/((10^k : ℕ) : ℚ))=((n%10^k : ℕ) : ℚ)/((10^k : ℕ) : ℚ) := by
    rw [Int.fract,hfloor,div_sub' hpos.ne',Int.cast_natCast]
    congr 1
    rw [sub_eq_iff_eq_add]
    exact_mod_cast (Nat.mod_add_div n (10^k)).symm
  have hodd : isOdd ((n/10^k : ℕ) : ℤ)=decide (n/10^k%2=1) := by
    unfold isOdd
    exact decide_eq_decide.mpr (by omega)
  have hmore : (1/2<((n%10^k : ℕ) : ℚ)/((10^k : ℕ) : ℚ)) ↔ 10^k<2*(n%10^k) := by
    rw [lt_div_iff₀ hpos,← Nat.cast_lt (α:=ℚ)]
    push_cast
    constructor <;> intro h <;> linarith
  have hhalf : (((n%10^k : ℕ) : ℚ)/((10^k : ℕ) : ℚ)=1/2) ↔ 2*(n%10^k)=10^k := by
    rw [div_eq_iff hpos.ne',← Nat.cast_inj (R:=ℚ)]
    push_cast
    constructor <;> intro h <;> linarith
  unfold roundHalfEven added roundedUp divHalfEven
  rw [hfloor,hfract,Bool.false_xor,hodd]
  simp only [hmore,hhalf]
  split
  · rename_i hup
    have htrue : (decide (10^k<2*(n%10^k)) || (decide (2*(n%10^k)=10^k) && decide (n/10^k%2=1)))=true := by
      simpa using hup
    rw [htrue]
    rfl
  · rename_i hdown
    have hfalse : (decide (10^k<2*(n%10^k)) || (decide (2*(n%10^k)=10^k) && decide (n/10^k%2=1)))=false := by
      simpa using hdown
    rw [hfalse]
    simp

/-- Dropping digits of an integer rounds the quotient. -/
theorem roundedAt_eq (c : ℤ) (k : ℕ) : roundHalfEven ((c : ℚ)/(10^k : ℕ))=roundedAt c k := by
  have habs := divHalfEven_eq c.natAbs k
  unfold roundedAt
  rcases lt_trichotomy c 0 with hneg|rfl|hpos
  · have hc : (c : ℚ)= -((c.natAbs : ℕ) : ℚ) := by
      rw [Nat.cast_natAbs,Int.cast_abs,abs_of_neg (by exact_mod_cast hneg),neg_neg]
    rw [hc,neg_div,roundHalfEven_neg,habs,Int.sign_eq_neg_one_of_neg hneg]
    ring
  · simpa using roundHalfEven_int (α:=ℚ) 0
  · have hc : (c : ℚ)=((c.natAbs : ℕ) : ℚ) := by
      rw [Nat.cast_natAbs,Int.cast_abs,abs_of_pos (by exact_mod_cast hpos)]
    rw [hc,habs,Int.sign_eq_one_of_pos hpos,one_mul]

/-- The coefficient at a unit is the value rounded to it. -/
theorem coefficient_at_eq (d : Decimal) (e : ℤ) :
    (if e≤d.exponent then d.coefficientAt e else roundedAt d.coefficient (e-d.exponent).toNat)=
      roundHalfEven (value d*(10 : ℚ)^(-e)) := by
  split
  · rename_i hle
    rw [← value_coefficientAt hle,mul_assoc,← zpow_add₀ (by norm_num),add_neg_cancel,zpow_zero,
      mul_one,roundHalfEven_int]
  · rename_i hlt
    have hpower : (10 : ℚ)^d.exponent*(10 : ℚ)^(-e)=(((10^(e-d.exponent).toNat : ℕ) : ℚ))⁻¹ := by
      push_cast
      rw [← zpow_natCast,Int.toNat_of_nonneg (by omega),← zpow_neg,← zpow_add₀ (by norm_num)]
      congr 1
      ring
    rw [value,mul_assoc,hpower,← div_eq_mul_inv,roundedAt_eq]

/-- Quantizing rounds the value to the unit, if the digits fit. -/
theorem quantize_eq (d : Decimal) (e : ℤ) :
    d.quantize e=
      (let c := roundHalfEven (value d*(10 : ℚ)^(-e))
       if c.natAbs<10^precision then some ⟨c,e⟩ else none) := by
  unfold Decimal.quantize
  dsimp only
  rw [coefficient_at_eq]

/-! ## Exact results -/

theorem value_neg (d : Decimal) : value d.neg= -value d := by
  unfold value Decimal.neg
  push_cast
  ring

theorem value_copyAbs (d : Decimal) : value d.copyAbs=|value d| := by
  unfold value Decimal.copyAbs
  rw [abs_mul,abs_of_pos (ten_zpow_pos _),Int.cast_natCast,Nat.cast_natAbs,Int.cast_abs]

/-- Decimals are compared by value. -/
theorem le_eq (a b : Decimal) : a.le b=decide (value a≤value b) := by
  have ha := value_coefficientAt (min_le_left a.exponent b.exponent)
  have hb := value_coefficientAt (min_le_right a.exponent b.exponent)
  unfold Decimal.le
  dsimp only
  rw [← ha,← hb]
  refine decide_eq_decide.mpr ?_
  rw [mul_le_mul_iff_of_pos_right (ten_zpow_pos _),Int.cast_le]

theorem beq_eq (a b : Decimal) : a.beq b=decide (value a=value b) := by
  have ha := value_coefficientAt (min_le_left a.exponent b.exponent)
  have hb := value_coefficientAt (min_le_right a.exponent b.exponent)
  unfold Decimal.beq
  dsimp only
  rw [← ha,← hb]
  refine decide_eq_decide.mpr ?_
  rw [mul_left_inj' (ten_zpow_pos _).ne',Int.cast_inj]

/-- A number with no more digits than the context has. -/
def FitsContext (x : ℚ) : Prop := ∃ c e : ℤ,c.natAbs<10^precision ∧ x=c*(10 : ℚ)^e

/-- What is too long for the context, and how many of its digits are dropped. -/
theorem dropped_digits {n : ℕ} (h : 10^precision≤n) :
    ∃ k,(Nat.toDigits 10 n).length-precision=k ∧ 10^(precision+k-1)≤n ∧ n<10^(precision+k) := by
  have hpos : 0<(Nat.toDigits 10 n).length := Nat.length_toDigits_pos
  have hlow : ∀ j,0<j → (n<10^j ↔ (Nat.toDigits 10 n).length≤j) := fun j hj =>
    (Nat.length_toDigits_le_iff (by decide) hj).symm
  have hlong : precision<(Nat.toDigits 10 n).length := by
    by_contra hshort
    exact absurd ((hlow precision (by decide)).mpr (Nat.le_of_not_lt hshort)) (Nat.not_lt.mpr h)
  have hprecision : 0<precision := by decide
  refine ⟨_,rfl,?_,?_⟩
  · rw [← Nat.not_lt,hlow _ (by omega)]
    omega
  · rw [hlow _ (by omega)]
    omega

theorem divHalfEven_le (n k : ℕ) : divHalfEven n k≤n/10^k+1 := by
  unfold divHalfEven
  split <;> omega

theorem divHalfEven_of_dvd {n k : ℕ} (h : 10^k ∣ n) : divHalfEven n k=n/10^k := by
  unfold divHalfEven
  rw [Nat.mod_eq_zero_of_dvd h,if_neg]
  have hpos : 0<10^k := Nat.pow_pos (by decide)
  rintro (hmore|⟨hhalf,-⟩) <;> omega

theorem natAbs_roundedAt {c : ℤ} (hc : c≠0) (k : ℕ) : (roundedAt c k).natAbs=divHalfEven c.natAbs k := by
  unfold roundedAt
  rw [Int.natAbs_mul,Int.natAbs_sign_of_ne_zero hc,Nat.one_mul,Int.natAbs_natCast]

/-- What an operation returns fits the context. -/
theorem natAbs_rounded_lt (d : Decimal) : d.rounded.coefficient.natAbs<10^precision := by
  unfold Decimal.rounded
  split
  · assumption
  · rename_i hlarge
    have hn : 10^precision≤d.coefficient.natAbs := Nat.le_of_not_lt hlarge
    obtain ⟨k,hk,-,hhigh⟩ := dropped_digits hn
    have hc : d.coefficient≠0 := by
      intro hzero
      rw [hzero] at hn
      exact absurd hn (by decide)
    have hquotient : d.coefficient.natAbs/10^k<10^precision := by
      rw [Nat.div_lt_iff_lt_mul (Nat.pow_pos (by decide)),← Nat.pow_add]
      exact hhigh
    have hle := divHalfEven_le d.coefficient.natAbs k
    have habs := natAbs_roundedAt hc k
    dsimp only
    rw [hk]
    split
    · rename_i hfull
      change (roundedAt d.coefficient k/10).natAbs<_
      unfold precision at *
      omega
    · rename_i hnot
      change (roundedAt d.coefficient k).natAbs<_
      omega

/-- Rounding keeps a value exactly if the value fits the context. -/
theorem value_rounded_iff (d : Decimal) : value d.rounded=value d ↔ FitsContext (value d) := by
  constructor
  · intro h
    exact ⟨d.rounded.coefficient,d.rounded.exponent,natAbs_rounded_lt d,h.symm⟩
  · rintro ⟨c,e,hc,hvalue⟩
    by_cases hsmall : d.coefficient.natAbs<10^precision
    · rw [Decimal.rounded,if_pos hsmall]
    have hn : 10^precision≤d.coefficient.natAbs := Nat.le_of_not_lt hsmall
    obtain ⟨k,hk,hlow,hhigh⟩ := dropped_digits hn
    have hmagnitude : (d.coefficient.natAbs : ℚ)*10^d.exponent=(c.natAbs : ℚ)*10^e := by
      have habs := congrArg abs hvalue
      rw [value,abs_mul,abs_mul,abs_of_pos (ten_zpow_pos _),abs_of_pos (ten_zpow_pos _)] at habs
      rw [Nat.cast_natAbs,Nat.cast_natAbs,Int.cast_abs,Int.cast_abs]
      exact habs
    have hexponent : d.exponent+k≤e := by
      have hchain : (10 : ℚ)^(((precision+k-1 : ℕ) : ℤ)+d.exponent)<10^((precision : ℤ)+e) := by
        rw [zpow_add₀ (by norm_num),zpow_add₀ (by norm_num),zpow_natCast,zpow_natCast]
        calc (10 : ℚ)^(precision+k-1)*10^d.exponent ≤ (d.coefficient.natAbs : ℚ)*10^d.exponent := by
              refine mul_le_mul_of_nonneg_right ?_ (ten_zpow_pos _).le
              exact_mod_cast hlow
          _ = (c.natAbs : ℚ)*10^e := hmagnitude
          _ < (10 : ℚ)^precision*10^e := by
              refine mul_lt_mul_of_pos_right ?_ (ten_zpow_pos _)
              exact_mod_cast hc
      have hless := (zpow_lt_zpow_iff_right₀ (by norm_num : (1 : ℚ)<10)).mp hchain
      have hprecision : 0<precision := by decide
      omega
    have hsame : d.coefficient.natAbs=c.natAbs*10^(e-d.exponent).toNat := by
      have hpower : (10 : ℚ)^e=10^(e-d.exponent).toNat*10^d.exponent := by
        rw [← zpow_natCast,Int.toNat_of_nonneg (by omega),← zpow_add₀ (by norm_num)]
        congr 1
        ring
      rw [hpower,← mul_assoc] at hmagnitude
      exact_mod_cast mul_right_cancel₀ (ten_zpow_pos d.exponent).ne' hmagnitude
    have hdvd : 10^k ∣ d.coefficient.natAbs := by
      rw [hsame]
      exact (Nat.pow_dvd_pow 10 (by omega)).mul_left _
    have hquotient : d.coefficient.natAbs/10^k<10^precision := by
      rw [Nat.div_lt_iff_lt_mul (Nat.pow_pos (by decide)),← Nat.pow_add]
      exact hhigh
    have hc' : d.coefficient≠0 := by
      intro hzero
      rw [hzero] at hn
      exact absurd hn (by decide)
    have hdiv : roundedAt d.coefficient k*10^k=d.coefficient := by
      rw [roundedAt,divHalfEven_of_dvd hdvd,mul_assoc]
      have hwhole : ((d.coefficient.natAbs/10^k : ℕ) : ℤ)*10^k=(d.coefficient.natAbs : ℤ) := by
        exact_mod_cast Nat.div_mul_cancel hdvd
      rw [hwhole,Int.sign_mul_natAbs]
    have hnot : (roundedAt d.coefficient k).natAbs≠10^precision := by
      rw [natAbs_roundedAt hc',divHalfEven_of_dvd hdvd]
      exact hquotient.ne
    rw [Decimal.rounded,if_neg hsmall]
    dsimp only
    rw [hk,if_neg hnot]
    unfold value
    rw [zpow_add₀ (by norm_num),zpow_natCast]
    conv_rhs => rw [← hdiv]
    push_cast
    ring

/-- The exact sum, before it is rounded. -/
theorem add_eq_rounded (a b : Decimal) : ∃ d,a.add b=d.rounded ∧ value d=value a+value b := by
  have ha := value_coefficientAt (min_le_left a.exponent b.exponent)
  have hb := value_coefficientAt (min_le_right a.exponent b.exponent)
  refine ⟨⟨_,_⟩,rfl,?_⟩
  unfold value
  push_cast
  rw [add_mul,ha,hb]
  rfl

/-- A difference is exact exactly if it fits the context. -/
theorem value_sub_iff (a b : Decimal) :
    value (a.sub b)=value a-value b ↔ FitsContext (value a-value b) := by
  obtain ⟨d,hd,hvalue⟩ := add_eq_rounded a b.neg
  rw [value_neg,← sub_eq_add_neg] at hvalue
  rw [Decimal.sub,hd,← hvalue]
  exact value_rounded_iff d

theorem rounded_neg (d : Decimal) : d.neg.rounded=d.rounded.neg := by
  have hround : ∀ k,roundedAt (-d.coefficient) k= -roundedAt d.coefficient k := by
    intro k
    unfold roundedAt
    rw [Int.sign_neg,Int.natAbs_neg]
    ring
  unfold Decimal.rounded Decimal.neg
  dsimp only
  rw [Int.natAbs_neg,hround,Int.natAbs_neg]
  split
  · rfl
  · split
    · rename_i hfull
      have hten : -roundedAt d.coefficient ((Nat.toDigits 10 d.coefficient.natAbs).length-precision)/10=
          -(roundedAt d.coefficient ((Nat.toDigits 10 d.coefficient.natAbs).length-precision)/10) := by
        unfold precision at *
        omega
      rw [hten]
    · rfl

/-- The difference the other way round. -/
theorem value_sub_comm (a b : Decimal) : value (a.sub b)= -value (b.sub a) := by
  have hneg : a.sub b=(b.sub a).neg := by
    have hexponent : min a.exponent b.exponent=min b.exponent a.exponent := min_comm _ _
    unfold Decimal.sub Decimal.add
    dsimp only
    rw [← rounded_neg]
    unfold Decimal.neg
    dsimp only
    congr 2
    · rw [hexponent]
      unfold Decimal.coefficientAt
      ring
  rw [hneg,value_neg]

/-! ## Running sums -/

/-- A sum is exact exactly if it fits the context. -/
theorem value_add_iff (a b : Decimal) :
    value (a.add b)=value a+value b ↔ FitsContext (value a+value b) := by
  obtain ⟨d,hd,hvalue⟩ := add_eq_rounded a b
  rw [hd,← hvalue]
  exact value_rounded_iff d

/-- A product is exact exactly if it fits the context. -/
theorem value_mul_iff (a b : Decimal) :
    value (a.mul b)=value a*value b ↔ FitsContext (value a*value b) := by
  have hvalue : value ⟨a.coefficient*b.coefficient,a.exponent+b.exponent⟩=value a*value b := by
    unfold value
    rw [zpow_add₀ (by norm_num)]
    push_cast
    ring
  rw [Decimal.mul,← hvalue]
  exact value_rounded_iff _

theorem value_zero : value zero=0 := by
  simp [value,zero]

/-- The sum of the first numbers fits the context, however many they are. -/
def SumsFit (xs : List ℚ) : Prop := ∀ n,FitsContext (xs.take n).sum

theorem SumsFit.init {xs : List ℚ} {x : ℚ} (h : SumsFit (xs++[x])) : SumsFit xs := by
  intro n
  rcases Nat.lt_or_ge n xs.length with hlt|hge
  · have hn := h n
    rwa [List.take_append_of_le_length hlt.le] at hn
  · have hn := h xs.length
    rw [List.take_append_of_le_length (le_refl _),List.take_length] at hn
    rwa [List.take_of_length_le hge]

theorem SumsFit.total {xs : List ℚ} (h : SumsFit xs) : FitsContext xs.sum := by
  have hall := h xs.length
  rwa [List.take_length] at hall

/-- Adding up is exact while every partial sum fits. -/
theorem value_foldl_add (ds : List Decimal) (h : SumsFit (ds.map value)) :
    value (ds.foldl Decimal.add zero)=(ds.map value).sum := by
  induction ds using List.reverseRecOn with
  | nil => exact value_zero
  | append_singleton ds d ih =>
    rw [List.map_append] at h
    have hbefore := ih h.init
    have htotal := h.total
    rw [List.sum_append,List.map_singleton,List.sum_singleton,← hbefore] at htotal
    rw [List.foldl_append,List.map_append,List.sum_append,List.map_singleton,List.sum_singleton,
      ← hbefore]
    exact (value_add_iff _ d).mpr htotal

theorem natAbs_sum_le (cs : List ℤ) : cs.sum.natAbs≤(cs.map Int.natAbs).sum := by
  induction cs with
  | nil => exact Nat.le_refl 0
  | cons c cs ih =>
    have hsum := Int.natAbs_add_le c cs.sum
    rw [List.sum_cons,List.map_cons,List.sum_cons]
    omega

/-- Amounts of a common unit fit while all of them together, whatever their
signs, have no more digits than the context. -/
theorem sumsFit_of_total {cs : List ℤ} (u : ℤ) (h : (cs.map Int.natAbs).sum<10^precision) :
    SumsFit (cs.map fun c : ℤ => (c : ℚ)*(10 : ℚ)^u) := by
  intro n
  refine ⟨(cs.take n).sum,u,?_,?_⟩
  · have hsplit := congrArg (fun l => (l.map Int.natAbs).sum) (List.take_append_drop n cs)
    simp only [List.map_append,List.sum_append] at hsplit
    have hle := natAbs_sum_le (cs.take n)
    omega
  · rw [← List.map_take,List.sum_map_mul_right,Int.cast_list_sum]

end Voyagent.DecimalValues
