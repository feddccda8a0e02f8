import Mathlib.Algebra.Order.BigOperators.Group.List
import Voyagent.DecimalValues
import Voyagent.InvoiceDrafts

/-!
# The total of a drafted invoice

The loop over the line items rounds the running total to cents after every
line. The total is the sum of the amounts rounded once where the parts of cents
round together, as long as every price is a finite number and the context keeps
its digits.
-/

namespace Voyagent.DraftTotals

open Decimals DecimalTexts DecimalValues HalfEvenRounding AmountColumns InvoiceDrafts
open FallibleResults (bind_ok)

/-! ## The exact total -/

/-- The price of a line, if it is a finite number. -/
def finitePrice (li : LineItem) : Option Decimal :=
  match decimalOfText li.unitPrice with
  | some (.finite d) => some d
  | _ => none

/-- The price, where it is finite. -/
def priceOf (li : LineItem) : Decimal := (finitePrice li).getD zero

/-- Quantity times unit price. -/
def amount (li : LineItem) : ℚ := li.quantity*value (priceOf li)

/-- The amount of a line in cents. -/
def lineCents (li : LineItem) : ℚ := 100*amount li

def AllFinite (items : List LineItem) : Prop := ∀ li∈items,(finitePrice li).isSome=true

instance (items : List LineItem) : Decidable (AllFinite items) := by
  unfold AllFinite
  infer_instance

/-- The sum of the amounts, rounded once to two places. -/
def exactTotal (items : List LineItem) : ℚ := roundHalfEven (items.map lineCents).sum/100

/-- The total is a finite amount, and the exact one. -/
def Exact (items : List LineItem) (total : PyDecimal) : Prop :=
  AllFinite items ∧ ∃ d,total=.finite d ∧ value d=exactTotal items

/-- The finest place of the prices, at least that of cents. -/
def finestPlace (items : List LineItem) : ℤ :=
  (items.map fun li => (priceOf li).exponent).foldr min hundredths

/-- Written to the finest place, the amounts and a cent for each of them stay
within the digits of the context. -/
def KeepsDigits (items : List LineItem) : Prop :=
  (items.map fun li => |amount li|+1/100).sum<(10 : ℚ)^((precision : ℤ)+finestPlace items)

instance (items : List LineItem) : Decidable (KeepsDigits items) := by
  unfold KeepsDigits
  infer_instance

/-! ## One line -/

theorem orInvalid_ok {α : Type} {result : Option α} {a : α} :
    orInvalid result=.ok a ↔ result=some a := by
  cases result <;> simp [orInvalid]

variable {li : LineItem} {items : List LineItem} {t t' : PyDecimal} {d : Decimal}

theorem priceOf_some (h : finitePrice li=some d) :
    priceOf li=d ∧ decimalOfText li.unitPrice=some (.finite d) := by
  refine ⟨by rw [priceOf,h]; rfl,?_⟩
  unfold finitePrice at h
  split at h
  · rename_i hprice
    cases h
    exact hprice
  · cases h

theorem value_cents (c : ℤ) : value ⟨c,hundredths⟩=(c : ℚ)/100 := by
  unfold value hundredths
  norm_num [div_eq_mul_inv]

theorem value_count (n : ℤ) : value ⟨n,0⟩=(n : ℚ) := by
  unfold value
  rw [zpow_zero,mul_one]

/-- The digits of the context, at a place or at a coarser one. -/
theorem digits_mono {e e' : ℤ} (h : e≤e') : (10 : ℚ)^((precision : ℤ)+e)≤10^((precision : ℤ)+e') :=
  zpow_le_zpow_right₀ (by norm_num) (by omega)

/-- While the digits suffice, a line adds its cents and the result is rounded. -/
theorem addLineItem_cents {c e : ℤ} (hprice : (finitePrice li).isSome=true)
    (he : e≤hundredths) (hplace : e≤(priceOf li).exponent)
    (hfit : |(c : ℚ)|/100+(|amount li|+1/100)<10^((precision : ℤ)+e)) :
    addLineItem (.finite ⟨c,hundredths⟩) li=
      .ok (.finite ⟨roundHalfEven ((c : ℚ)+lineCents li),hundredths⟩) := by
  obtain ⟨d,hd⟩ := Option.isSome_iff_exists.mp hprice
  obtain ⟨hpriceOf,htext⟩ := priceOf_some hd
  rw [hpriceOf] at hplace
  have hnonneg : 0≤|(c : ℚ)|/100 := by positivity
  have hcoarse : (10 : ℚ)^((precision : ℤ)+e)≤10^((precision : ℤ)+hundredths) := digits_mono he
  have hamount : value ⟨li.quantity,0⟩*value d=amount li := by
    rw [value_count,amount,hpriceOf]
  have hcents : value ⟨c,hundredths⟩=(c : ℚ)/100 := value_cents c
  -- the product
  have hproduct : |value ⟨li.quantity,0⟩*value d|<10^((precision : ℤ)+(0+d.exponent)) := by
    rw [hamount,zero_add]
    have hmono := digits_mono hplace
    linarith
  obtain ⟨hplaceP,hvalueP⟩ := value_mul hproduct
  rw [hamount] at hvalueP
  -- the sum
  have hsum : |value ⟨c,hundredths⟩+value (Decimal.mul ⟨li.quantity,0⟩ d)|<
      10^((precision : ℤ)+min hundredths (Decimal.mul ⟨li.quantity,0⟩ d).exponent) := by
    have hmin : e≤ min hundredths (Decimal.mul ⟨li.quantity,0⟩ d).exponent := by
      rw [hplaceP]
      exact le_min he (by simpa using hplace)
    have hmono := digits_mono hmin
    have habs := abs_add_le ((c : ℚ)/100) (amount li)
    rw [hcents,hvalueP]
    rw [abs_div,abs_of_pos (by norm_num : (0 : ℚ)<100)] at habs
    linarith
  obtain ⟨-,hvalueS⟩ := value_add hsum
  rw [hcents,hvalueP] at hvalueS
  -- the rounding
  have hscaled : value (Decimal.add ⟨c,hundredths⟩ (Decimal.mul ⟨li.quantity,0⟩ d))*(10 : ℚ)^(-hundredths)=
      (c : ℚ)+lineCents li := by
    rw [hvalueS]
    unfold lineCents hundredths
    norm_num
    ring
  have hdigits : (roundHalfEven ((c : ℚ)+lineCents li)).natAbs<10^precision := by
    have hround := abs_roundHalfEven_le ((c : ℚ)+lineCents li)
    have habs := abs_add_le (c : ℚ) (lineCents li)
    have hline : |lineCents li|=100*|amount li| := by
      rw [lineCents,abs_mul,abs_of_pos (by norm_num : (0 : ℚ)<100)]
    have hpower : (10 : ℚ)^((precision : ℤ)+hundredths)=10^precision/100 := by
      rw [zpow_add₀ (by norm_num),zpow_natCast]
      unfold hundredths
      norm_num [div_eq_mul_inv]
    have hcast : (((roundHalfEven ((c : ℚ)+lineCents li)).natAbs : ℕ) : ℚ)<((10^precision : ℕ) : ℚ) := by
      rw [Nat.cast_natAbs,Int.cast_abs]
      push_cast
      linarith
    exact Nat.cast_lt.mp hcast
  unfold addLineItem
  refine bind_ok.mpr ⟨_,orInvalid_ok.mpr htext,bind_ok.mpr ⟨_,orInvalid_ok.mpr rfl,
    bind_ok.mpr ⟨_,orInvalid_ok.mpr rfl,orInvalid_ok.mpr ?_⟩⟩⟩
  change (Decimal.quantize _ hundredths).map PyDecimal.finite=_
  rw [quantize_eq,hscaled]
  dsimp only
  rw [if_pos hdigits,Option.map_some]

/-! ## The loop -/

theorem finestPlace_le_hundredths (items : List LineItem) : finestPlace items≤hundredths := by
  induction items with
  | nil => exact le_refl _
  | cons li items ih => exact (min_le_right _ _).trans ih

theorem finestPlace_le (h : li∈items) : finestPlace items≤(priceOf li).exponent := by
  induction items with
  | nil => cases h
  | cons li' items ih =>
    rcases List.mem_cons.mp h with rfl|hrest
    · exact min_le_left _ _
    · exact (min_le_right _ _).trans (ih hrest)

/-- While the digits suffice, the loop computes the running sum of the cents. -/
theorem loop_cents {c e : ℤ} (hprices : AllFinite items) (he : e≤hundredths)
    (hplaces : ∀ li∈items,e≤(priceOf li).exponent)
    (hfit : |(c : ℚ)|/100+(items.map fun li => |amount li|+1/100).sum<10^((precision : ℤ)+e)) :
    items.foldlM addLineItem (.finite ⟨c,hundredths⟩)=
      .ok (.finite ⟨runningSum c (items.map lineCents),hundredths⟩) := by
  induction items generalizing c with
  | nil => rfl
  | cons li items ih =>
    rw [List.map_cons,List.sum_cons] at hfit
    obtain ⟨hprice,hprices'⟩ := List.forall_mem_cons.mp hprices
    obtain ⟨hplace,hplaces'⟩ := List.forall_mem_cons.mp hplaces
    have hrest : 0≤(items.map fun li => |amount li|+1/100).sum := by
      refine List.sum_nonneg fun x hx => ?_
      obtain ⟨li',-,rfl⟩ := List.mem_map.mp hx
      positivity
    have hline := addLineItem_cents (c:=c) hprice he hplace (by linarith)
    have hnext : |((roundHalfEven ((c : ℚ)+lineCents li) : ℤ) : ℚ)|/100≤
        |(c : ℚ)|/100+(|amount li|+1/100) := by
      have hround := abs_roundHalfEven_le ((c : ℚ)+lineCents li)
      have habs := abs_add_le (c : ℚ) (lineCents li)
      have hcents : |lineCents li|=100*|amount li| := by
        rw [lineCents,abs_mul,abs_of_pos (by norm_num : (0 : ℚ)<100)]
      linarith
    rw [List.foldlM_cons,hline]
    exact ih hprices' hplaces' (by linarith)

theorem loop_total (hprices : AllFinite items) (hdigits : KeepsDigits items) :
    items.foldlM addLineItem (.finite noAmount)=
      .ok (.finite ⟨runningSum 0 (items.map lineCents),hundredths⟩) := by
  refine loop_cents hprices (finestPlace_le_hundredths items) (fun li h => finestPlace_le h) ?_
  rw [Int.cast_zero,abs_zero,zero_div,zero_add]
  exact hdigits

/-- The running total is exact if and only if the cents round together. -/
theorem exact_iff (hprices : AllFinite items) :
    Exact items (.finite ⟨runningSum 0 (items.map lineCents),hundredths⟩) ↔
      RoundsTogether (items.map lineCents) := by
  rw [← runningSum_eq_iff]
  have hvalue : value ⟨runningSum 0 (items.map lineCents),hundredths⟩=exactTotal items ↔
      runningSum 0 (items.map lineCents)=roundHalfEven (items.map lineCents).sum := by
    rw [value_cents,exactTotal,div_left_inj' (by norm_num),Int.cast_inj]
  constructor
  · rintro ⟨-,d,hd,h⟩
    cases hd
    exact hvalue.mp h
  · exact fun h => ⟨hprices,_,rfl,hvalue.mpr h⟩

/-! ## Drafts -/

section Drafts

variable {υ : Type} [DecidableEq υ] (lib : DraftLibrary υ) (call : DraftCall)

/-- The call drafts an invoice of this total: it chose its number from some rows
and its row was inserted into some, maybe others. -/
def Drafts (total : PyDecimal) : Prop :=
  ∃ rows id row rows' rows'',draftRow lib rows call id=.ok row ∧
    insertInvoice rows' row=.ok rows'' ∧ row.totalAmount=total

/-- Whatever total is drafted is the exact one; a call that is rejected drafts none. -/
def DraftsExactly : Prop := ∀ total,Drafts lib call total → Exact call.input.lineItems total

variable {lib call}

/-- The total of a row is what the loop computes. -/
theorem Drafts.total {total : PyDecimal} (h : Drafts lib call total) :
    call.input.lineItems.foldlM addLineItem (.finite noAmount)=.ok total := by
  obtain ⟨rows,id,row,rows',rows'',hrow,-,rfl⟩ := h
  unfold draftRow at hrow
  obtain ⟨draft,hdraft,hrow⟩ := bind_ok.mp hrow
  obtain ⟨number,-,hrow⟩ := bind_ok.mp hrow
  cases hrow
  unfold checkInput at hdraft
  obtain ⟨currency,-,hdraft⟩ := bind_ok.mp hdraft
  obtain ⟨total,htotal,hdraft⟩ := bind_ok.mp hdraft
  obtain ⟨issueDate,-,hdraft⟩ := bind_ok.mp hdraft
  obtain ⟨dueDate,-,hdraft⟩ := bind_ok.mp hdraft
  split at hdraft <;> cases hdraft
  exact htotal

/-- A draft has the exact total where the prices are finite, the digits suffice
and the parts of cents round together, or it is rejected; and wherever the
digits suffice, on no other input. -/
theorem draft_total_exact_iff (lib : DraftLibrary υ) (call : DraftCall) :
    ((∀ total,¬Drafts lib call total) ∨ AllFinite call.input.lineItems ∧
        KeepsDigits call.input.lineItems ∧ RoundsTogether (call.input.lineItems.map lineCents) →
      DraftsExactly lib call) ∧
    (DraftsExactly lib call →
      (∀ total,¬Drafts lib call total) ∨ AllFinite call.input.lineItems ∧
        (KeepsDigits call.input.lineItems → RoundsTogether (call.input.lineItems.map lineCents))) := by
  constructor
  · rintro (hrejected|⟨hprices,hdigits,htogether⟩) total htotal
    · exact absurd htotal (hrejected total)
    · have hloop := htotal.total
      rw [loop_total hprices hdigits] at hloop
      cases hloop
      exact (exact_iff hprices).mpr htogether
  · intro hexact
    by_cases hdrafted : ∃ total,Drafts lib call total
    · obtain ⟨total,htotal⟩ := hdrafted
      have hright := hexact total htotal
      refine .inr ⟨hright.1,fun hdigits => ?_⟩
      have hloop := htotal.total
      rw [loop_total hright.1 hdigits] at hloop
      cases hloop
      exact (exact_iff hright.1).mp hright
    · exact .inl (not_exists.mp hdrafted)

end Drafts

/-- A call of the desk with one line for each price. -/
def pricedCall (prices : List String) : DraftCall where
  tenantId := "ab12cd34-0000"
  input := {
    customerName := "Ravi"
    issueDate := "2026-09-01"
    dueDate := "2026-09-01"
    lineItems := prices.map fun price => ⟨1,price,"INR"⟩ }

theorem draft_total_exact_iff_desk :
    DraftsExactly deskLibrary (pricedCall ["12500.00","99.995"]) :=
  (draft_total_exact_iff deskLibrary (pricedCall ["12500.00","99.995"])).1
    (.inr ⟨by decide +kernel,by decide +kernel,by decide +kernel⟩)

/-- Two lines of half a cent are each rounded away. -/
theorem half_cents_lost :
    Drafts deskLibrary (pricedCall ["0.005","0.005"]) (.finite ⟨0,hundredths⟩) ∧
      exactTotal (pricedCall ["0.005","0.005"]).input.lineItems=1/100 ∧
      ¬DraftsExactly deskLibrary (pricedCall ["0.005","0.005"]) := by
  have hdrafts : Drafts deskLibrary (pricedCall ["0.005","0.005"]) (.finite ⟨0,hundredths⟩) :=
    ⟨[],"first",_,[],_,rfl,rfl,rfl⟩
  have hexact : exactTotal (pricedCall ["0.005","0.005"]).input.lineItems=1/100 := by
    decide +kernel
  refine ⟨hdrafts,hexact,fun h => ?_⟩
  obtain ⟨-,d,hd,hvalue⟩ := h _ hdrafts
  cases hd
  rw [hexact,value_cents] at hvalue
  norm_num at hvalue

/-- A price that is no number is drafted as it is. -/
example : Drafts deskLibrary (pricedCall ["NaN"]) .nan := ⟨[],"first",_,[],_,rfl,rfl,rfl⟩

end Voyagent.DraftTotals
