import Voyagent.VoucherAmounts

/-!
# Journal vouchers

A journal entry is posted line by line: the magnitude of every debit with a
minus, that of every credit without one, each rounded to hundredths on its own.
The voucher tells the entry as the canonical model balanced it when all amounts
are whole hundredths that are not negative and together stay within the digits
of the decimal context.
-/

namespace Voyagent.JournalVouchers

open KeyedMap Decimals DecimalValues HalfEvenRounding TallyVouchers VoucherAmounts
open TicketReconciliation (Money)
open CanonicalFinance (netByCurrency signedSide)
open JournalSummary (shownCents shownCents_eq signedAmounts runningTotals under totalOf
  netByCurrency_eq totalOf_runningTotals value_signed build_lines)

/-! ## Entries -/

/-- The money of a line. -/
def money (l : JournalLine) : Money :=
  match l.side with
  | .debit m => m
  | .credit m => m

/-- A line as the canonical model holds it. -/
def canonicalLine (l : JournalLine) : CanonicalFinance.JournalLine :=
  match l.side with
  | .debit m => ⟨l.accountId,some ⟨m.amount,m.currency.1⟩,none,none⟩
  | .credit m => ⟨l.accountId,none,some ⟨m.amount,m.currency.1⟩,none⟩

/-- What the canonical model accepts: two lines or more, and a zero net in every
currency. -/
structure Accepted (entry : JournalEntry) : Prop where
  lines : 2≤entry.lines.length
  balanced : ∀ net∈netByCurrency (entry.lines.map canonicalLine),net.2.beq zero=true

/-- All lines have one currency. -/
def InOneCurrency (entry : JournalEntry) : Prop := ∃ ccy,∀ l∈entry.lines,(money l).currency.1=ccy

/-- The negated debit or the credit of a line. -/
def signedAmount (l : JournalLine) : Decimal :=
  match l.side with
  | .debit m => m.amount.neg
  | .credit m => m.amount

/-- The voucher tells every line in order, and balances. -/
structure Faithful (entry : JournalEntry) (root : Element) : Prop where
  lines : (ledgerEntries root).map printed=entry.lines.map fun l => some (shownCents (signedAmount l))
  balanced : ((ledgerEntries root).filterMap printed).sum=0

/-- The hundredths of a line's magnitude; a debit has the digits of the context. -/
def magnitude (l : JournalLine) : Int :=
  match l.side with
  | .debit m => shownCents m.amount.copyAbs.rounded
  | .credit m => shownCents m.amount.copyAbs

/-- What is printed of a line. -/
def printedSide (l : JournalLine) : Int :=
  match l.side with
  | .debit _ => -magnitude l
  | .credit _ => magnitude l

def isDebit (l : JournalLine) : Bool :=
  match l.side with
  | .debit _ => true
  | .credit _ => false

/-- The magnitudes of one side of an entry. -/
def sideTotal (debits : Bool) (entry : JournalEntry) : Int :=
  ((entry.lines.filter fun l => isDebit l==debits).map magnitude).sum

/-- The amount is not negative and has no more digits than the context. -/
def Plain (l : JournalLine) : Prop := 0≤value (money l).amount ∧ FitsContext (value (money l).amount)

/-- The amounts are whole hundredths, none negative, and all together they have
no more digits than the context. -/
def WholeHundredths (entry : JournalEntry) : Prop :=
  ∃ cents : List ℕ,List.Forall₂
    (fun (l : JournalLine) (c : ℕ) => value (money l).amount=((c : ℤ) : ℚ)*(10 : ℚ)^(-2 : ℤ))
    entry.lines cents ∧ cents.sum<10^precision

variable {entry : JournalEntry} {root : Element} {l : JournalLine} {company : String}
  {resolver : Option (String → Resolved)}

/-! ## What is printed -/

/-- A line becomes one entry with its amount. -/
theorem lineEntry_ok {posted : TallyLedgerEntry}
    (h : journalLineToTallyEntry resolver l=.ok posted) : shownCents posted.amount=printedSide l := by
  unfold journalLineToTallyEntry at h
  obtain ⟨name,-,h⟩ := FallibleResults.bind_ok.mp h
  unfold printedSide magnitude
  cases hside : l.side with
  | debit m =>
    rw [hside] at h
    cases h
    exact shownCents_negatedAbs m.amount
  | credit m =>
    rw [hside] at h
    cases h
    rfl

theorem lineEntries_ok {lines : List JournalLine} {entries : List TallyLedgerEntry}
    (h : lines.mapM (journalLineToTallyEntry resolver)=.ok entries) :
    entries.map (fun e => some (shownCents e.amount))=lines.map fun l => some (printedSide l) := by
  have hall := FallibleResults.mapM_ok.mp h
  clear h
  induction hall with
  | nil => rfl
  | cons hhead _ ih => rw [List.map_cons,List.map_cons,lineEntry_ok hhead,ih]

/-- A voucher prints every line in order. -/
theorem body_printed (h : journalEntryToTallyXmlBody entry company resolver=.ok root) :
    (ledgerEntries root).map printed=entry.lines.map fun l => some (printedSide l) := by
  unfold journalEntryToTallyXmlBody at h
  obtain ⟨entries,hentries,h⟩ := FallibleResults.bind_ok.mp h
  cases h
  rw [printed_importEnvelope]
  exact lineEntries_ok hentries

/-- Amounts read one by one. -/
theorem filterMap_printed {els : List Element} {α : Type} {xs : List α} {f : α → Int}
    (h : els.map printed=xs.map fun x => some (f x)) : els.filterMap printed=xs.map f := by
  have hread := congrArg (List.filterMap id) h
  rw [List.filterMap_map,List.filterMap_map] at hread
  have hsome : xs.filterMap (id∘fun x => some (f x))=xs.map f :=
    congrFun (List.filterMap_eq_map (f := f)) xs
  rw [hsome] at hread
  exact hread

/-- The printed amounts are the credits without the debits. -/
theorem sum_printedSide (lines : List JournalLine) :
    (lines.map printedSide).sum=((lines.filter fun l => isDebit l==false).map magnitude).sum-
      ((lines.filter fun l => isDebit l==true).map magnitude).sum := by
  induction lines with
  | nil => rfl
  | cons l lines ih =>
    rw [List.map_cons,List.sum_cons,ih,List.filter_cons,List.filter_cons]
    cases hside : l.side with
    | debit m =>
      have hdebit : isDebit l=true := by rw [isDebit,hside]
      have hprinted : printedSide l= -magnitude l := by rw [printedSide,hside]
      rw [hdebit,hprinted,if_neg (by decide),if_pos (by decide),List.map_cons,List.sum_cons]
      ring
    | credit m =>
      have hcredit : isDebit l=false := by rw [isDebit,hside]
      have hprinted : printedSide l=magnitude l := by rw [printedSide,hside]
      rw [hcredit,hprinted,if_pos (by decide),if_neg (by decide),List.map_cons,List.sum_cons]
      ring

/-- A plain amount is printed with the sign of its side. -/
theorem printedSide_of_plain (h : Plain l) : printedSide l=shownCents (signedAmount l) := by
  obtain ⟨hnonneg,hfits⟩ := h
  unfold printedSide magnitude signedAmount
  unfold money at hnonneg hfits
  cases hside : l.side with
  | debit m =>
    rw [hside] at hnonneg hfits
    dsimp only at hnonneg hfits ⊢
    rw [← shownCents_negatedAbs,shownCents_negatedAbs_of_fits hnonneg hfits,shownCents_neg]
  | credit m =>
    rw [hside] at hnonneg
    dsimp only at hnonneg ⊢
    rw [shownCents_copyAbs,abs_of_nonneg]
    exact shownCents_nonneg_of_value hnonneg

/-! ## Whole hundredths -/

/-- The sign of a line's side. -/
def sideSign (l : JournalLine) : ℤ := if isDebit l then 1 else -1

/-- The signed sides that the canonical model adds up. -/
def nets (entry : JournalEntry) : List Decimal :=
  entry.lines.map fun l => Decimal.mul ⟨sideSign l,0⟩ (money l).amount

theorem signedAmounts_canonical (lines : List JournalLine) :
    signedAmounts (lines.map canonicalLine)=
      lines.map fun l => ((money l).currency.1,Decimal.mul ⟨sideSign l,0⟩ (money l).amount) := by
  have hside : ∀ l,signedSide (canonicalLine l)=
      some ⟨Decimal.mul ⟨sideSign l,0⟩ (money l).amount,(money l).currency.1⟩ := by
    intro l
    unfold canonicalLine sideSign isDebit money
    cases l.side <;> rfl
  unfold signedAmounts
  rw [List.filterMap_map]
  have hsome : lines.filterMap (signedSide∘canonicalLine)=
      lines.map fun l => (⟨Decimal.mul ⟨sideSign l,0⟩ (money l).amount,(money l).currency.1⟩ :
        CanonicalFinance.Money) := by
    rw [← List.filterMap_eq_map]
    exact List.filterMap_congr fun l _ => hside l
  rw [hsome,List.map_map]
  rfl

/-- An accepted entry in one currency has a zero net. -/
theorem value_nets (haccepted : Accepted entry) (hone : InOneCurrency entry) :
    value ((nets entry).foldl Decimal.add zero)=0 := by
  obtain ⟨ccy,hccy⟩ := hone
  have hunder : under ccy (signedAmounts (entry.lines.map canonicalLine))=nets entry := by
    rw [signedAmounts_canonical]
    unfold under nets
    rw [List.filter_eq_self.mpr,List.map_map]
    · rfl
    · intro e he
      obtain ⟨l,hl,rfl⟩ := List.mem_map.mp he
      exact decide_eq_true (hccy l hl)
  have htotal := totalOf_runningTotals (signedAmounts (entry.lines.map canonicalLine)) ccy
  rw [hunder,← netByCurrency_eq] at htotal
  rw [← htotal]
  unfold totalOf
  cases hget : get (netByCurrency (entry.lines.map canonicalLine)) ccy with
  | none => exact value_zero
  | some d =>
    have hbeq := haccepted.balanced (ccy,d) (mem_of_get hget)
    rw [beq_eq] at hbeq
    exact (of_decide_eq_true hbeq).trans value_zero

theorem sideSign_cases (l : JournalLine) : sideSign l=1 ∨ sideSign l= -1 := by
  unfold sideSign
  split
  · exact .inl rfl
  · exact .inr rfl

/-- The signed amount of a line is the negated net of the model. -/
theorem value_signedAmount (l : JournalLine) :
    value (signedAmount l)= -(sideSign l*value (money l).amount) := by
  unfold signedAmount sideSign isDebit money
  cases l.side with
  | debit m => simp [value_neg]
  | credit m => simp

/-- Whole hundredths are shown as they are. -/
theorem shownCents_whole {d : Decimal} {c : ℤ} (h : value d=(c : ℚ)*(10 : ℚ)^(-2 : ℤ)) :
    shownCents d=c := by
  have hunit : 100*((c : ℚ)*(10 : ℚ)^(-2 : ℤ))=c := by
    norm_num
    ring
  rw [shownCents_eq,h,hunit,roundHalfEven_int]

/-- What the model adds up and what is printed are the same hundredths, with
opposite signs. -/
theorem whole_lines {lines : List JournalLine} {cents : List ℕ}
    (h : List.Forall₂
      (fun (l : JournalLine) (c : ℕ) => value (money l).amount=((c : ℤ) : ℚ)*(10 : ℚ)^(-2 : ℤ))
      lines cents)
    (hfew : cents.sum<10^precision) :
    ∃ cs : List ℤ,(cs.map Int.natAbs).sum=cents.sum ∧
      lines.map (fun l => value (Decimal.mul ⟨sideSign l,0⟩ (money l).amount))=
        cs.map (fun c : ℤ => (c : ℚ)*(10 : ℚ)^(-2 : ℤ)) ∧
      lines.map printedSide=cs.map (fun c => -c) ∧ ∀ l∈lines,Plain l := by
  induction h with
  | nil => exact ⟨[],rfl,rfl,rfl,List.forall_mem_nil _⟩
  | @cons l c lines cents hvalue _ ih =>
    rw [List.sum_cons] at hfew
    obtain ⟨cs,htotal,hnets,hprinted,hplain⟩ := ih (by omega)
    have hfits : FitsContext (value (money l).amount) := by
      refine ⟨c,-2,?_,hvalue⟩
      rw [Int.natAbs_natCast]
      omega
    have hl : Plain l := by
      refine ⟨?_,hfits⟩
      rw [hvalue]
      positivity
    have hnet : value (Decimal.mul ⟨sideSign l,0⟩ (money l).amount)=
        ((sideSign l*c : ℤ) : ℚ)*(10 : ℚ)^(-2 : ℤ) := by
      rw [value_signed (sideSign_cases l) hfits,hvalue]
      push_cast
      ring
    have hside : printedSide l= -(sideSign l*c) := by
      rw [printedSide_of_plain hl]
      refine shownCents_whole ?_
      rw [value_signedAmount,hvalue]
      push_cast
      ring
    refine ⟨(sideSign l*c)::cs,?_,?_,?_,List.forall_mem_cons.mpr ⟨hl,hplain⟩⟩
    · have habs : (sideSign l*c).natAbs=c := by
        rcases sideSign_cases l with hs|hs <;> rw [hs] <;> simp
      rw [List.map_cons,List.sum_cons,List.sum_cons,habs,htotal]
    · rw [List.map_cons,List.map_cons,hnet,hnets]
    · rw [List.map_cons,List.map_cons,hside,hprinted]

theorem sum_map_neg (cs : List ℤ) : (cs.map fun c => -c).sum= -cs.sum := by
  induction cs with
  | nil => rfl
  | cons c cs ih =>
    rw [List.map_cons,List.sum_cons,List.sum_cons,ih]
    ring

/-- A voucher of whole hundredths is faithful. -/
theorem body_faithful (haccepted : Accepted entry) (hone : InOneCurrency entry)
    (hwhole : WholeHundredths entry)
    (h : journalEntryToTallyXmlBody entry company resolver=.ok root) : Faithful entry root := by
  obtain ⟨cents,hcents,hfew⟩ := hwhole
  obtain ⟨cs,htotal,hnets,hprinted,hplain⟩ := whole_lines hcents hfew
  have hlines := body_printed h
  refine ⟨hlines.trans ?_,?_⟩
  · exact List.map_congr_left fun l hl => congrArg some (printedSide_of_plain (hplain l hl))
  · have hvalues : (nets entry).map value=cs.map fun c : ℤ => (c : ℚ)*(10 : ℚ)^(-2 : ℤ) := by
      unfold nets
      rw [List.map_map]
      exact hnets
    have hfits : SumsFit ((nets entry).map value) := by
      rw [hvalues]
      exact sumsFit_of_total (-2) (htotal ▸ hfew)
    have hzero := value_nets haccepted hone
    rw [value_foldl_add _ hfits,hvalues,List.sum_map_mul_right,← Int.cast_list_sum] at hzero
    have hsum : cs.sum=0 := by
      have hcast := (mul_eq_zero.mp hzero).resolve_right (ten_zpow_pos (-2)).ne'
      exact_mod_cast hcast
    rw [filterMap_printed hlines,hprinted,sum_map_neg,hsum]
    rfl

/-- A journal voucher prints the magnitudes of the sides, and is faithful where
they are whole hundredths. -/
theorem journal_voucher_magnitudes (haccepted : Accepted entry) (hone : InOneCurrency entry)
    (company : String) (resolver : Option (String → Resolved)) :
    (∃ f,journalEntryToTallyXmlBody entry company resolver=.error f) ∨
    ∃ root,journalEntryToTallyXmlBody entry company resolver=.ok root ∧
      (ledgerEntries root).map printed=entry.lines.map (fun l => some (printedSide l)) ∧
      (∀ l∈entry.lines,Plain l → printedSide l=shownCents (signedAmount l)) ∧
      (((ledgerEntries root).filterMap printed).sum=0 ↔
        sideTotal true entry=sideTotal false entry) ∧
      (WholeHundredths entry → Faithful entry root) := by
  cases h : journalEntryToTallyXmlBody entry company resolver with
  | error f => exact .inl ⟨f,rfl⟩
  | ok root =>
    have hlines := body_printed h
    refine .inr ⟨root,rfl,hlines,fun l _ => printedSide_of_plain,?_,fun hwhole =>
      body_faithful haccepted hone hwhole h⟩
    rw [filterMap_printed hlines,sum_printedSide]
    unfold sideTotal
    exact sub_eq_zero.trans eq_comm

/-- Amounts in rupees and paise. -/
def paise (amount : Int) : Money := ⟨⟨amount,-2⟩,TicketReconciliation.inr⟩

def bookLines (lines : List JournalLine) : JournalEntry where
  entryDate := ⟨2026,5,1,JournalSummary.firstOfMay⟩
  narration := "Ticket sale"
  lines := lines

/-- A ticket sold for cash. -/
def cashLines : List JournalLine :=
  [⟨"cash",.debit (paise 1180050)⟩,⟨"sales",.credit (paise 1000050)⟩,⟨"tax",.credit (paise 180000)⟩]

/-- A sale with a rebate on the debit side. -/
def rebateLines : List JournalLine :=
  [⟨"cash",.debit (paise 10000)⟩,⟨"rebate",.debit (paise (-2000))⟩,⟨"sales",.credit (paise 8000)⟩]

/-- A book in which accounts are their ledgers. -/
def ownNames : Option (String → Resolved) := some Resolved.name

/-- A sale for cash is posted as it was balanced. -/
theorem journal_voucher_cash :
    (∃ f,journalEntryToTallyXmlBody (bookLines cashLines) "Desk" ownNames=.error f) ∨
    ∃ root,journalEntryToTallyXmlBody (bookLines cashLines) "Desk" ownNames=.ok root ∧
      (ledgerEntries root).map printed=cashLines.map (fun l => some (printedSide l)) ∧
      (∀ l∈cashLines,Plain l → printedSide l=shownCents (signedAmount l)) ∧
      (((ledgerEntries root).filterMap printed).sum=0 ↔
        sideTotal true (bookLines cashLines)=sideTotal false (bookLines cashLines)) ∧
      (WholeHundredths (bookLines cashLines) → Faithful (bookLines cashLines) root) :=
  journal_voucher_magnitudes ⟨by decide,by decide +kernel⟩ ⟨"INR",by decide +kernel⟩ "Desk" ownNames

/-- A rebate is posted as one more debit: the voucher does not balance. -/
theorem rebate_unbalanced :
    ¬∀ (entry : JournalEntry) (company : String) (resolver : Option (String → Resolved)),
      Accepted entry → InOneCurrency entry →
      (∃ f,journalEntryToTallyXmlBody entry company resolver=.error f) ∨
      ∃ root,journalEntryToTallyXmlBody entry company resolver=.ok root ∧ Faithful entry root := by
  intro hall
  rcases hall (bookLines rebateLines) "Desk" ownNames ⟨by decide,by decide +kernel⟩
    ⟨"INR",by decide +kernel⟩ with ⟨f,hf⟩|⟨root,hroot,hfaithful⟩
  · have hok : (journalEntryToTallyXmlBody (bookLines rebateLines) "Desk" ownNames).isOk=true := by
      decide +kernel
    rw [hf] at hok
    cases hok
  · have hbalanced := hfaithful.balanced
    rw [filterMap_printed (body_printed hroot)] at hbalanced
    exact absurd hbalanced (by decide +kernel)

end Voyagent.JournalVouchers
