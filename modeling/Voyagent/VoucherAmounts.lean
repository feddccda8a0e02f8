import Voyagent.JournalSummary
import Voyagent.TallyVouchers

/-!
# The amounts of a voucher as they are read

What a reader of an import finds: the ledger entries of the envelope in order,
and the hundredths each amount stands for. An amount is printed as its value
rounded to hundredths, ties to the even one, and an entry that is negated first
is also rounded to the digits of the decimal context.
-/

namespace Voyagent.VoucherAmounts

open Decimals DecimalValues HalfEvenRounding FixedColumns TallyVouchers
open JournalSummary (shownCents shownCents_eq)

/-- Digits, a point and two more digits, read as hundredths. -/
def readPlaces (cs : List Char) : Option Nat :=
  match cs.reverse with
  | d::d':: '.'::ds =>
    if !ds.isEmpty && (d::d'::ds).all Char.isDigit then
      some (Nat.ofDigitChars 10 (ds.reverse++[d',d]) 0)
    else none
  | _ => none

/-- The hundredths a printed amount stands for. -/
def readHundredths (text : String) : Option Int :=
  match text.toList with
  | '-'::cs => (readPlaces cs).map fun (n : Nat) => -(n : Int)
  | cs => (readPlaces cs).map Int.ofNat

mutual

/-- The ledger entries of an envelope, in document order. -/
def ledgerEntries : Element → List Element
  | .mk tag attributes text children =>
    if tag="ALLLEDGERENTRIES.LIST" then [.mk tag attributes text children] else entriesAmong children

def entriesAmong : List Element → List Element
  | [] => []
  | element::rest => ledgerEntries element++entriesAmong rest

end

/-- The text of the first child of a tag. -/
def childText (tag : String) : Element → Option String
  | .mk _ _ _ children => (children.find? fun child => child.tag==tag).bind Element.text

/-- The amount of an entry, in hundredths. -/
def printed (element : Element) : Option Int := (childText "AMOUNT" element).bind readHundredths

/-! ## Reading what was printed -/

/-- Two digits behind a point are read with those before it. -/
theorem readPlaces_digits (h : Nat) :
    readPlaces (Nat.toDigits 10 (h/100)++ '.'::zeroPadded 2 h)=some h := by
  have hplaces : zeroPadded 2 h=[Nat.digitChar (h/10%10),Nat.digitChar (h%10)] := rfl
  have hten : h/10%10<10 := Nat.mod_lt _ (by decide)
  have hone : h%10<10 := Nat.mod_lt _ (by decide)
  have hdigits : ∀ c∈Nat.toDigits 10 (h/100),c.isDigit=true := fun c hc =>
    Nat.isDigit_of_mem_toDigits (by decide) (by decide) hc
  have hplace : ∀ d,d<10 → (Nat.digitChar d).isDigit=true := by decide
  have hreverse : (Nat.toDigits 10 (h/100)++ '.'::zeroPadded 2 h).reverse=
      Nat.digitChar (h%10)::Nat.digitChar (h/10%10):: '.'::(Nat.toDigits 10 (h/100)).reverse := by
    rw [hplaces,List.reverse_append]
    rfl
  have hall : (Nat.digitChar (h%10)::Nat.digitChar (h/10%10)::
      (Nat.toDigits 10 (h/100)).reverse).all Char.isDigit=true := by
    rw [List.all_cons,List.all_cons,hplace _ hone,hplace _ hten,List.all_reverse]
    exact List.all_eq_true.mpr hdigits
  have hsome : (Nat.toDigits 10 (h/100)).reverse.isEmpty=false := by
    rw [List.isEmpty_reverse,List.isEmpty_eq_false_iff]
    exact Nat.toDigits_ne_nil
  unfold readPlaces
  rw [hreverse]
  change (if (!(Nat.toDigits 10 (h/100)).reverse.isEmpty && (Nat.digitChar (h%10)::
    Nat.digitChar (h/10%10)::(Nat.toDigits 10 (h/100)).reverse).all Char.isDigit)=true then
      some (Nat.ofDigitChars 10 ((Nat.toDigits 10 (h/100)).reverse.reverse++
        [Nat.digitChar (h/10%10),Nat.digitChar (h%10)]) 0) else none)=some h
  rw [hsome,hall,Bool.not_false,Bool.and_self,if_pos rfl,List.reverse_reverse,
    Nat.ofDigitChars_append,Nat.ofDigitChars_ten_toDigits,
    Nat.ofDigitChars_cons_digitChar_of_lt_ten hten,Nat.ofDigitChars_cons_digitChar_of_lt_ten hone,
    Nat.ofDigitChars_nil]
  congr 1
  omega

/-- A text that starts with a digit has no sign. -/
theorem readHundredths_digits (h : Nat) :
    readHundredths (String.ofList (Nat.toDigits 10 (h/100)++ '.'::zeroPadded 2 h))=some (h : Int) := by
  have hread := readPlaces_digits h
  unfold readHundredths
  rw [String.toList_ofList]
  cases hcs : Nat.toDigits 10 (h/100) with
  | nil => exact absurd hcs Nat.toDigits_ne_nil
  | cons c cs =>
    have hc : c.isDigit=true :=
      Nat.isDigit_of_mem_toDigits (by decide) (by decide) (hcs ▸ List.mem_cons_self)
    rw [hcs] at hread
    rw [List.cons_append] at hread ⊢
    split
    · rename_i heq
      rw [(List.cons.inj heq).1] at hc
      exact absurd hc (by decide)
    · rw [hread]
      rfl

/-- The hundredths of an amount have its sign. -/
theorem shownCents_neg (d : Decimal) : shownCents d.neg= -shownCents d := by
  rw [shownCents_eq,shownCents_eq,value_neg,mul_neg,roundHalfEven_neg]

theorem shownCents_nonneg {d : Decimal} (h : 0≤d.coefficient) : 0 ≤ shownCents d := by
  unfold shownCents
  split
  · exact Int.mul_nonneg h (Int.pow_nonneg (by decide))
  · exact Int.mul_nonneg (Int.sign_nonneg_iff.mpr h) (Int.natCast_nonneg _)

theorem shownCents_nonpos {d : Decimal} (h : d.coefficient≤0) : shownCents d≤0 := by
  have hneg : 0 ≤ shownCents d.neg := shownCents_nonneg (Int.neg_nonneg_of_nonpos h)
  rw [shownCents_neg] at hneg
  omega

/-- The hundredths that are printed, without their sign. -/
theorem natAbs_shownCents (d : Decimal) :
    (if -2≤d.exponent then d.coefficient.natAbs*10^(d.exponent+2).toNat
      else divHalfEven d.coefficient.natAbs (-2-d.exponent).toNat)=(shownCents d).natAbs := by
  unfold shownCents
  by_cases hle : -2≤d.exponent
  · have hshift : d.exponent+2=d.exponent-(-2) := by omega
    rw [if_pos hle,if_pos hle,Decimal.coefficientAt,Int.natAbs_mul,Int.natAbs_pow,hshift]
    rfl
  · rw [if_neg hle,if_neg hle]
    by_cases hzero : d.coefficient=0
    · rw [hzero,roundedAt,Int.sign_zero,Int.zero_mul]
      exact (divHalfEven_of_dvd (Nat.dvd_zero _)).trans (Nat.zero_div _)
    · exact (natAbs_roundedAt hzero _).symm

/-- A printed amount is read as its value rounded to hundredths. -/
theorem readHundredths_formatAmount (d : Decimal) :
    readHundredths (formatAmount d)=some (shownCents d) := by
  have habs := natAbs_shownCents d
  unfold formatAmount
  dsimp only
  rw [habs]
  by_cases hneg : d.coefficient<0
  · have hle := shownCents_nonpos hneg.le
    rw [if_pos hneg]
    unfold readHundredths
    rw [String.toList_ofList,List.singleton_append,List.cons_append]
    change (readPlaces (Nat.toDigits 10 ((shownCents d).natAbs/100)++
      '.'::zeroPadded 2 (shownCents d).natAbs)).map (fun (n : Nat) => -(n : Int))=_
    rw [readPlaces_digits,Option.map_some]
    congr 1
    omega
  · have hge := shownCents_nonneg (not_lt.mp hneg)
    rw [if_neg hneg,List.nil_append,readHundredths_digits]
    congr 1
    omega

/-- The amount of an entry is read as it was printed. -/
theorem printed_entryElement (entry : TallyLedgerEntry) :
    printed (entryElement entry)=some (shownCents entry.amount) := by
  have hchild : childText "AMOUNT" (entryElement entry)=some (formatAmount entry.amount) := by
    simp [entryElement,childText,holding,leaf,Element.tag,Element.text]
  unfold printed
  rw [hchild,Option.bind_some,readHundredths_formatAmount]

/-! ## The entries of an envelope -/

theorem entriesAmong_append (es fs : List Element) :
    entriesAmong (es++fs)=entriesAmong es++entriesAmong fs := by
  induction es with
  | nil => rfl
  | cons e es ih => rw [List.cons_append,entriesAmong,entriesAmong,ih,List.append_assoc]

theorem entriesAmong_entries (entries : List TallyLedgerEntry) :
    entriesAmong (entries.map entryElement)=entries.map entryElement := by
  induction entries with
  | nil => rfl
  | cons entry entries ih =>
    rw [List.map_cons,entriesAmong,ih]
    rfl

theorem entriesAmong_optional (tag : String) (htag : tag≠"ALLLEDGERENTRIES.LIST")
    (text : Option String) : entriesAmong (text.map (leaf tag)).toList=[] := by
  cases text with
  | none => rfl
  | some text =>
    change (if tag="ALLLEDGERENTRIES.LIST" then _ else entriesAmong [])++[]=_
    rw [if_neg htag]
    rfl

section

variable (vchType : String) (entryDate : CalendarDates.CalendarDate) (narration : String)
variable (entries : List TallyLedgerEntry) (voucherNumber reference : Option String)
variable (company : String)

include vchType entryDate narration entries voucherNumber reference company

/-- An import holds the entries of its voucher. -/
theorem ledgerEntries_importEnvelope :
    ledgerEntries (importEnvelope (voucherElement vchType entryDate narration entries voucherNumber
      reference) company)=entries.map entryElement := by
  have hvoucher : ledgerEntries (voucherElement vchType entryDate narration entries voucherNumber
      reference)=entries.map entryElement := by
    unfold voucherElement
    rw [ledgerEntries,if_neg (by decide),entriesAmong_append,entriesAmong_append,entriesAmong_append,
      entriesAmong_entries,entriesAmong_optional "VOUCHERNUMBER" (by decide),
      entriesAmong_optional "REFERENCE" (by decide),List.append_nil,List.append_nil]
    simp [leaf,ledgerEntries,entriesAmong]
  simp [importEnvelope,holding,leaf,ledgerEntries,entriesAmong,hvoucher]

/-- What is read out of an import are the amounts of its entries. -/
theorem printed_importEnvelope :
    (ledgerEntries (importEnvelope (voucherElement vchType entryDate narration entries voucherNumber
      reference) company)).map printed=entries.map fun entry => some (shownCents entry.amount) := by
  rw [ledgerEntries_importEnvelope,List.map_map]
  exact List.map_congr_left fun entry _ => printed_entryElement entry

end

/-! ## Magnitudes -/

/-- A magnitude is printed without a sign. -/
theorem shownCents_copyAbs (d : Decimal) : shownCents d.copyAbs=|shownCents d| := by
  have hsign : d.copyAbs=d ∨ d.copyAbs=d.neg := by
    unfold Decimal.copyAbs Decimal.neg
    rcases Int.natAbs_eq d.coefficient with h|h
    · exact .inl (by rw [← h])
    · exact .inr (by rw [h,Int.natAbs_neg,Int.natAbs_natCast,neg_neg])
  have hge : 0 ≤ shownCents d.copyAbs := shownCents_nonneg (Int.natCast_nonneg _)
  rcases hsign with h|h
  · rw [h] at hge ⊢
    exact (abs_of_nonneg hge).symm
  · rw [h,shownCents_neg] at hge ⊢
    exact (abs_of_nonpos (by omega)).symm

/-- An amount whose value is not negative is shown without a sign. -/
theorem shownCents_nonneg_of_value {d : Decimal} (h : 0≤value d) : 0 ≤ shownCents d := by
  refine shownCents_nonneg ?_
  have hcoefficient : (0 : ℚ)≤d.coefficient := nonneg_of_mul_nonneg_left h (ten_zpow_pos _)
  exact_mod_cast hcoefficient

/-- What is printed of a negated magnitude: the digits of the context come
first, then the hundredths. -/
theorem shownCents_negatedAbs (d : Decimal) :
    shownCents (negatedAbs d)= -shownCents d.copyAbs.rounded := by
  unfold negatedAbs
  rw [rounded_neg,shownCents_neg]

/-- An amount that fits the context and is not negative is printed negated. -/
theorem shownCents_negatedAbs_of_fits {d : Decimal} (hnonneg : 0≤value d)
    (hfits : FitsContext (value d)) : shownCents (negatedAbs d)= -shownCents d := by
  have hsame : value d.copyAbs.rounded=value d := by
    have habs : value d.copyAbs=value d := (value_copyAbs d).trans (abs_of_nonneg hnonneg)
    rw [← habs]
    exact (value_rounded_iff _).mpr (habs ▸ hfits)
  rw [shownCents_negatedAbs,shownCents_eq,hsame,shownCents_eq]

end Voyagent.VoucherAmounts
