import Voyagent.Decimals

/-!
# Amount columns

Amounts in hundredths, as a `Numeric(14,2)` column keeps them, and the exactness of
their running sums.
-/

namespace Voyagent.AmountColumns

open Decimals GroupedSums

/-- Exponent of an amount in hundredths. -/
def hundredths : Int := -2

/-- `Decimal("0.00")`. -/
def noAmount : Decimal := ⟨0,hundredths⟩

/-- What a `Numeric(14,2)` column accepts. -/
def fitsAmount (d : Decimal) : Prop := (d.coefficientAt hundredths).natAbs<10^14

instance (d : Decimal) : Decidable (fitsAmount d) := Nat.decLt _ _

/-- Rows a table holds at most: 2^32-1 pages of 291 rows. -/
def tableRows : Nat := 4294967295*291

/-- The value of an amount column. -/
structure Amount where
  value : Decimal
  exponent : value.exponent=hundredths
  fits : value.coefficient.natAbs<10^14
  deriving DecidableEq

/-- The amount in hundredths. -/
def Amount.cents (a : Amount) : Int := a.value.coefficient

theorem hundredths_nonpos : hundredths≤0 := by decide

theorem scaled_of_exponent {d : Decimal} (h : d.exponent=hundredths) :
    Scaled hundredths d d.coefficient := h ▸ scaled_self d

theorem coefficientAt_of_exponent {d : Decimal} (h : d.exponent=hundredths) :
    d.coefficientAt hundredths=d.coefficient := h ▸ coefficientAt_self d.coefficient d.exponent

theorem scaled_noAmount : Scaled hundredths noAmount 0 := .inl rfl

/-- A difference of two columns is exact. -/
theorem Amount.sub_scaled (a b : Amount) :
    Scaled hundredths (a.value.sub b.value) (a.cents-b.cents) := by
  refine (scaled_of_exponent a.exponent).sub hundredths_nonpos (scaled_of_exponent b.exponent) ?_
  have ha := a.fits
  have hb := b.fits
  unfold precision Amount.cents
  omega

/-- A running sum of amounts that are not negative is exact while it fits. -/
theorem running_sum {ds : List Decimal}
    (hds : ∀ d∈ds,d.exponent=hundredths ∧ 0≤d.coefficient)
    (hfit : (ds.map Decimal.coefficient).sum<10^precision) :
    Scaled hundredths (ds.foldl Decimal.add noAmount) (ds.map Decimal.coefficient).sum := by
  have hrel : List.Forall₂ (Scaled hundredths) ds (ds.map Decimal.coefficient) := by
    rw [List.forall₂_map_right_iff,List.forall₂_same]
    exact fun d hd => scaled_of_exponent (hds d hd).1
  have hnonneg : ∀ c∈ds.map Decimal.coefficient,0≤c := by
    intro c hc
    obtain ⟨d,hd,rfl⟩ := List.mem_map.mp hc
    exact (hds d hd).2
  have hpos := sum_nonneg hnonneg
  have hstart : (0+(ds.map Decimal.coefficient).sum).natAbs<10^precision := by
    rw [Int.zero_add]
    exact fits_of_bounds hfit (by omega)
  have htotal := Scaled.foldl_add hundredths_nonpos hrel hnonneg (Int.le_refl 0) scaled_noAmount hstart
  rwa [Int.zero_add] at htotal

/-- The amounts of a table add up within the digits of the context. -/
theorem sum_fits {cs : List Int} (hcs : ∀ c∈cs,c≤2*10^14) (hlen : cs.length≤tableRows) :
    cs.sum<10^precision := by
  have hsum := sum_le hcs
  unfold tableRows at hlen
  unfold precision
  omega

end Voyagent.AmountColumns
