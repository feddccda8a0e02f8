import Mathlib.Algebra.Order.BigOperators.Group.List
import Voyagent.JournalVouchers

/-!
# Sales vouchers

An invoice is posted as one entry for the party and one for every subtotal and
every tax, all by magnitude. Where the grand total is the sum of what is charged,
in whole hundredths, the voucher has the amounts of the invoice and balances
exactly when nothing charged is negative and the total has no more digits than
the decimal context.
-/

namespace Voyagent.SalesVouchers

open Decimals DecimalValues HalfEvenRounding TallyVouchers VoucherAmounts JournalVouchers
open JournalSummary (shownCents shownCents_eq)

/-- The amounts an invoice charges: each line's subtotal, then its taxes. -/
def charged (invoice : Invoice) : List Decimal :=
  invoice.lines.flatMap fun line => line.subtotal.amount::line.taxes.map fun tax => tax.amount

/-- The amount is a whole number of hundredths. -/
def TwoPlaces (d : Decimal) : Prop := ∃ c : ℤ,value d=(c : ℚ)*(10 : ℚ)^(-2 : ℤ)

/-- All amounts have two places, and the total is what is charged. -/
structure AddsUp (invoice : Invoice) : Prop where
  total : TwoPlaces invoice.grandTotal.amount
  places : ∀ d∈charged invoice,TwoPlaces d
  sum : value invoice.grandTotal.amount=((charged invoice).map value).sum

/-- The voucher has the negated total, then every amount charged, and balances. -/
structure Balanced (invoice : Invoice) (root : Element) : Prop where
  amounts : (ledgerEntries root).map printed=
    some (-shownCents invoice.grandTotal.amount)::(charged invoice).map fun d => some (shownCents d)
  balanced : ((ledgerEntries root).filterMap printed).sum=0

variable {invoice : Invoice} {root : Element} {company : String}
  {resolver : Option (String → Resolved)} {d : Decimal}

/-! ## What is printed -/

/-- The entries of a line carry the magnitudes of its amounts. -/
theorem lineEntries_amounts {line : InvoiceLine} {entries : List TallyLedgerEntry}
    (h : invoiceLineEntries resolver line=.ok entries) :
    entries.map (fun e => e.amount)=
      (line.subtotal.amount::line.taxes.map fun tax => tax.amount).map Decimal.copyAbs := by
  have hentries : ∃ ledger,entries=⟨ledger,line.subtotal.amount.copyAbs,false⟩::
      line.taxes.map fun tax => ⟨"Duties & Taxes",tax.amount.copyAbs,false⟩ := by
    unfold invoiceLineEntries at h
    dsimp only at h
    split at h
    · obtain ⟨ledger,-,h⟩ := FallibleResults.bind_ok.mp h
      exact ⟨ledger,(Except.ok.inj h).symm⟩
    · exact ⟨"Sales",(Except.ok.inj h).symm⟩
  obtain ⟨ledger,rfl⟩ := hentries
  rw [List.map_cons,List.map_cons,List.map_map,List.map_map]
  rfl

theorem linesEntries_amounts {lines : List InvoiceLine} {entries : List (List TallyLedgerEntry)}
    (h : lines.mapM (invoiceLineEntries resolver)=.ok entries) :
    entries.flatten.map (fun e => e.amount)=
      (lines.flatMap fun line => line.subtotal.amount::line.taxes.map fun tax => tax.amount).map
        Decimal.copyAbs := by
  have hall := FallibleResults.mapM_ok.mp h
  clear h
  induction hall with
  | nil => rfl
  | cons hhead _ ih =>
    rw [List.flatten_cons,List.map_append,lineEntries_amounts hhead,ih,List.flatMap_cons,
      List.map_append]

/-- A sales voucher prints the total and everything charged by magnitude. -/
theorem body_printed (h : invoiceToTallySalesVoucher invoice company resolver=.ok root) :
    (ledgerEntries root).map printed=
      some (shownCents (negatedAbs invoice.grandTotal.amount))::
        (charged invoice).map fun d => some |shownCents d| := by
  unfold invoiceToTallySalesVoucher at h
  obtain ⟨party,-,h⟩ := FallibleResults.bind_ok.mp h
  obtain ⟨entries,hentries,h⟩ := FallibleResults.bind_ok.mp h
  cases h
  rw [printed_importEnvelope,List.map_cons]
  have hamounts := congrArg (List.map fun d => some (shownCents d)) (linesEntries_amounts hentries)
  rw [List.map_map,List.map_map] at hamounts
  refine congrArg (_::·) (hamounts.trans ?_)
  exact List.map_congr_left fun d _ => congrArg some (shownCents_copyAbs d)

/-! ## Two places -/

/-- An amount with two places is what is shown of it. -/
theorem value_of_twoPlaces (h : TwoPlaces d) : value d=(shownCents d : ℚ)*(10 : ℚ)^(-2 : ℤ) := by
  obtain ⟨c,hc⟩ := h
  rw [shownCents_whole hc,hc]

theorem twoPlaces_of_exponent (h : -2≤d.exponent) : TwoPlaces d :=
  ⟨d.coefficientAt (-2),(value_coefficientAt h).symm⟩

theorem value_nonneg_iff (h : TwoPlaces d) : 0≤value d ↔ 0 ≤ shownCents d := by
  rw [value_of_twoPlaces h,mul_nonneg_iff_of_pos_right (ten_zpow_pos _),Int.cast_nonneg_iff]

/-- Rounding drops digits from the right. -/
theorem exponent_rounded (h : 10^precision≤d.coefficient.natAbs) :
    ∃ k : ℕ,d.coefficient.natAbs<10^(precision+k) ∧ d.exponent+k≤d.rounded.exponent := by
  obtain ⟨k,hk,-,hhigh⟩ := dropped_digits h
  refine ⟨k,hhigh,?_⟩
  unfold Decimal.rounded
  rw [if_neg (Nat.not_lt.mpr h)]
  dsimp only
  rw [hk]
  split <;> dsimp only <;> omega

/-- Two places that are shown alike after rounding lost nothing in it. -/
theorem fits_of_shownCents (h : TwoPlaces d) (hshown : shownCents d.rounded=shownCents d) :
    FitsContext (value d) := by
  have hvalue := value_of_twoPlaces h
  by_cases hsmall : (shownCents d).natAbs<10^precision
  · exact ⟨shownCents d,-2,hsmall,hvalue⟩
  by_cases hfew : d.coefficient.natAbs<10^precision
  · exact ⟨d.coefficient,d.exponent,hfew,rfl⟩
  -- So many hundredths leave no place behind the second when digits are dropped.
  obtain ⟨k,hhigh,hexponent⟩ := exponent_rounded (Nat.le_of_not_lt hfew)
  have hmagnitude : (d.coefficient.natAbs : ℚ)*10^d.exponent=
      ((shownCents d).natAbs : ℚ)*10^(-2 : ℤ) := by
    have habs := congrArg abs hvalue
    rw [value,abs_mul,abs_mul,abs_of_pos (ten_zpow_pos _),abs_of_pos (ten_zpow_pos _)] at habs
    rw [Nat.cast_natAbs,Nat.cast_natAbs,Int.cast_abs,Int.cast_abs]
    exact habs
  have hchain : (10 : ℚ)^((precision : ℤ)+(-2))<10^(((precision+k : ℕ) : ℤ)+d.exponent) := by
    rw [zpow_add₀ (by norm_num),zpow_add₀ (by norm_num),zpow_natCast,zpow_natCast]
    calc (10 : ℚ)^precision*10^(-2 : ℤ) ≤ ((shownCents d).natAbs : ℚ)*10^(-2 : ℤ) := by
          refine mul_le_mul_of_nonneg_right ?_ (ten_zpow_pos _).le
          exact_mod_cast Nat.le_of_not_lt hsmall
      _ = (d.coefficient.natAbs : ℚ)*10^d.exponent := hmagnitude.symm
      _ < (10 : ℚ)^(precision+k)*10^d.exponent := by
          refine mul_lt_mul_of_pos_right ?_ (ten_zpow_pos _)
          exact_mod_cast hhigh
  have hless := (zpow_lt_zpow_iff_right₀ (by norm_num : (1 : ℚ)<10)).mp hchain
  have hplaces : TwoPlaces d.rounded := twoPlaces_of_exponent (by push_cast at hless; omega)
  refine (value_rounded_iff d).mp ?_
  rw [value_of_twoPlaces hplaces,hshown,← hvalue]

/-! ## Balance -/

/-- Amounts with two places add up as their hundredths do. -/
theorem sum_shownCents {ds : List Decimal} (h : ∀ d∈ds,TwoPlaces d) :
    (ds.map value).sum=((ds.map shownCents).sum : ℚ)*(10 : ℚ)^(-2 : ℤ) := by
  induction ds with
  | nil => simp
  | cons d ds ih =>
    rw [List.map_cons,List.map_cons,List.sum_cons,List.sum_cons,
      ih fun d' hd => h d' (List.mem_cons_of_mem _ hd),value_of_twoPlaces (h d List.mem_cons_self)]
    push_cast
    ring

/-- The hundredths of the total are those of what is charged. -/
theorem shownCents_total (h : AddsUp invoice) :
    shownCents invoice.grandTotal.amount=((charged invoice).map shownCents).sum := by
  have hsum := h.sum
  rw [value_of_twoPlaces h.total,sum_shownCents h.places] at hsum
  have hcast := mul_right_cancel₀ (ten_zpow_pos (-2)).ne' hsum
  exact_mod_cast hcast

/-- What is printed, without its marks. -/
theorem filterMap_body (h : invoiceToTallySalesVoucher invoice company resolver=.ok root) :
    (ledgerEntries root).filterMap printed=
      shownCents (negatedAbs invoice.grandTotal.amount)::
        (charged invoice).map fun d => |shownCents d| := by
  have hprinted := body_printed h
  have hall : (ledgerEntries root).map printed=
      (shownCents (negatedAbs invoice.grandTotal.amount)::
        (charged invoice).map fun d => |shownCents d|).map fun c => some (id c) := by
    rw [hprinted,List.map_cons,List.map_map]
    rfl
  rw [filterMap_printed hall,List.map_id]

/-- A total of amounts that are not negative is not negative. -/
theorem total_nonneg (hadds : AddsUp invoice) (hnonneg : ∀ d∈charged invoice,0≤value d) :
    0≤value invoice.grandTotal.amount := by
  rw [hadds.sum]
  refine List.sum_nonneg fun x hx => ?_
  obtain ⟨d,hd,rfl⟩ := List.mem_map.mp hx
  exact hnonneg d hd

/-- The voucher of an invoice that adds up has the invoice's amounts and
balances exactly when nothing charged is negative and the total has no more
digits than the decimal context. -/
theorem sales_voucher_balanced_iff (hadds : AddsUp invoice)
    (h : invoiceToTallySalesVoucher invoice company resolver=.ok root) :
    Balanced invoice root ↔
      FitsContext (value invoice.grandTotal.amount) ∧ ∀ d∈charged invoice,0≤value d := by
  constructor
  · intro hbalanced
    obtain ⟨htotal,hcharged⟩ := List.cons.inj ((body_printed h).symm.trans hbalanced.amounts)
    have hnonneg : ∀ d∈charged invoice,0≤value d := by
      intro d hd
      have hsame := Option.some.inj (List.map_inj_left.mp hcharged d hd)
      exact (value_nonneg_iff (hadds.places d hd)).mpr (hsame ▸ abs_nonneg _)
    have hgrand := total_nonneg hadds hnonneg
    refine ⟨?_,hnonneg⟩
    -- The total is its own magnitude; only the digits of the context could change it.
    have habs : value invoice.grandTotal.amount.copyAbs=value invoice.grandTotal.amount :=
      (value_copyAbs _).trans (abs_of_nonneg hgrand)
    have hplaces : TwoPlaces invoice.grandTotal.amount.copyAbs := by
      obtain ⟨c,hc⟩ := hadds.total
      exact ⟨c,habs.trans hc⟩
    have hshown : shownCents invoice.grandTotal.amount.copyAbs.rounded=
        shownCents invoice.grandTotal.amount.copyAbs := by
      have hneg := Option.some.inj htotal
      rw [shownCents_negatedAbs] at hneg
      rw [neg_inj.mp hneg,shownCents_eq,shownCents_eq,habs]
    exact habs ▸ fits_of_shownCents hplaces hshown
  · rintro ⟨hfits,hnonneg⟩
    have hgrand := total_nonneg hadds hnonneg
    have htotal := shownCents_negatedAbs_of_fits hgrand hfits
    have habs : ∀ d∈charged invoice,|shownCents d|=shownCents d := fun d hd =>
      abs_of_nonneg ((value_nonneg_iff (hadds.places d hd)).mp (hnonneg d hd))
    refine ⟨?_,?_⟩
    · rw [body_printed h,htotal]
      exact congrArg (_::·) (List.map_congr_left fun d hd => congrArg some (habs d hd))
    · rw [filterMap_body h,List.sum_cons,htotal,List.map_congr_left habs,shownCents_total hadds]
      exact neg_add_cancel _

/-- An invoice of a desk, over the lines charged. -/
def bill (lines : List InvoiceLine) (total : Int) : Invoice where
  invoiceNumber := "INV-1"
  clientId := "client"
  issueDate := ⟨2026,5,1,JournalSummary.firstOfMay⟩
  lines := lines
  grandTotal := paise total

/-- A ticket with its tax. -/
def ticketLines : List InvoiceLine := [{subtotal := paise 1000050,taxes := [paise 180000]}]

/-- A ticket and a discount. -/
def discountLines : List InvoiceLine := [{subtotal := paise 10000},{subtotal := paise (-2000)}]

/-- Amounts in paise have two places. -/
theorem twoPlaces_paise (amount : Int) : TwoPlaces (paise amount).amount :=
  twoPlaces_of_exponent (Int.le_refl _)

theorem ticket_addsUp : AddsUp (bill ticketLines 1180050) where
  total := twoPlaces_paise _
  places := by
    change ∀ d∈[(paise 1000050).amount,(paise 180000).amount],TwoPlaces d
    simp only [List.forall_mem_cons]
    exact ⟨twoPlaces_paise _,twoPlaces_paise _,List.forall_mem_nil _⟩
  sum := by
    change value (paise 1180050).amount=[value (paise 1000050).amount,value (paise 180000).amount].sum
    norm_num [value,paise]

theorem discount_addsUp : AddsUp (bill discountLines 8000) where
  total := twoPlaces_paise _
  places := by
    change ∀ d∈[(paise 10000).amount,(paise (-2000)).amount],TwoPlaces d
    simp only [List.forall_mem_cons]
    exact ⟨twoPlaces_paise _,twoPlaces_paise _,List.forall_mem_nil _⟩
  sum := by
    change value (paise 8000).amount=[value (paise 10000).amount,value (paise (-2000)).amount].sum
    norm_num [value,paise]

/-- A ticket with its tax balances. -/
theorem sales_voucher_ticket :
    ∃ root,invoiceToTallySalesVoucher (bill ticketLines 1180050) "Desk" ownNames=.ok root ∧
      Balanced (bill ticketLines 1180050) root := by
  cases h : invoiceToTallySalesVoucher (bill ticketLines 1180050) "Desk" ownNames with
  | error f =>
    have hok : (invoiceToTallySalesVoucher (bill ticketLines 1180050) "Desk" ownNames).isOk=true := by
      decide +kernel
    rw [h] at hok
    cases hok
  | ok root =>
    refine ⟨root,rfl,(sales_voucher_balanced_iff ticket_addsUp h).mpr ⟨⟨1180050,-2,by decide,rfl⟩,?_⟩⟩
    change ∀ d∈[(paise 1000050).amount,(paise 180000).amount],0≤value d
    simp only [List.forall_mem_cons]
    refine ⟨?_,?_,List.forall_mem_nil _⟩ <;> norm_num [value,paise]

/-- A discount is posted as one more charge: the voucher does not balance. -/
theorem discount_unbalanced :
    ¬∀ (invoice : Invoice) (company : String) (resolver : Option (String → Resolved)) (root : Element),
      AddsUp invoice → invoiceToTallySalesVoucher invoice company resolver=.ok root →
        Balanced invoice root := by
  intro hall
  cases h : invoiceToTallySalesVoucher (bill discountLines 8000) "Desk" ownNames with
  | error f =>
    have hok : (invoiceToTallySalesVoucher (bill discountLines 8000) "Desk" ownNames).isOk=true := by
      decide +kernel
    rw [h] at hok
    cases hok
  | ok root =>
    have hbalanced := (hall _ _ _ root discount_addsUp h).balanced
    rw [filterMap_body h] at hbalanced
    exact absurd hbalanced (by decide +kernel)

end Voyagent.SalesVouchers
