import Mathlib.Algebra.Ring.Int.Defs
import Voyagent.FallibleResults
import Voyagent.HafRecords

/-!
# From a file to the canonical report

The settlement report of a parsed file. The canonical models check their
fields when they are built; money carries the check of its currency and a
period that it does not end before it starts.
-/

namespace Voyagent.HafMapping

open RuntimeValues CalendarDates HafRecords FallibleResults

/-! ## Canonical models -/

/-- An upper-case ASCII letter. -/
def isCapital (c : Char) : Bool := 'A'.toNat ≤ c.toNat && c.toNat ≤ 'Z'.toNat

/-- Pattern of `CurrencyCode`. -/
def isCurrencyCode (s : String) : Bool := decide (s.toList.length=3) && s.toList.all isCapital

/-- Pattern of `CountryCode`. -/
def isCountryCode (s : String) : Bool := decide (s.toList.length=2) && s.toList.all isCapital

/-- Pattern of `IATACode`. -/
def isIataCode (s : String) : Bool :=
  (decide (s.toList.length=2) || decide (s.toList.length=3)) &&
    s.toList.all fun c => isCapital c || ('0'.toNat ≤ c.toNat && c.toNat ≤ '9'.toNat)

/-- An exception other than the driver's: a canonical model refuses one of its
fields, or the day after the period is past the calendar. -/
inductive MappingError where
  | invalid (model field : String)
  | dateOverflow
  deriving DecidableEq

/-- A monetary amount, in hundredths, with its currency. -/
structure Money where
  amount : Int
  currency : String
  valid : isCurrencyCode currency=true
  deriving DecidableEq

inductive TaxRegime where
  | gstIndia | vatUk | vatEu | vatUae | gstSingapore | sstMalaysia | salesTaxUs | none
  deriving DecidableEq

/-- One tax component. -/
structure TaxLine where
  regime : TaxRegime
  code : String
  rateBps : Nat
  taxableAmount : Money
  taxAmount : Money
  jurisdiction : Option String
  sameCurrency : taxableAmount.currency=taxAmount.currency
  deriving DecidableEq

inductive BSPTransactionKind where
  | sale | refund | exchange | adm | acm | commission | taxAdjustment
  deriving DecidableEq

structure BSPTransaction where
  kind : BSPTransactionKind
  documentNumber : String
  issueDate : CalendarDate
  airline : String
  gross : Money
  commission : Option Money
  taxes : List TaxLine
  net : Money
  internalTicketId : Option EntityId
  deriving DecidableEq

/-- Half-open: from the start of one day to the start of a later one. -/
structure Period where
  start : CalendarDate
  stop : CalendarDate
  ordered : start.ordinal<stop.ordinal
  deriving DecidableEq

structure BSPReport where
  id : EntityId
  tenantId : EntityId
  country : String
  period : Period
  airline : Option String
  salesTotal : Money
  refundTotal : Money
  commissionTotal : Money
  netRemittance : Money
  transactions : List BSPTransaction
  sourceRef : String
  createdAt : Time
  updatedAt : Time
  deriving DecidableEq

/-! ## Records -/

/-- `_haf_transaction_kind`. -/
def hafTransactionKind : HAFTransactionRecord → BSPTransactionKind
  | .bks24 _ => .sale
  | .bks39 _ => .refund
  | .bks45 _ => .exchange
  | .bks46 _ => .adm
  | .bks47 _ => .acm

/-- `_haf_transaction_document_number`. -/
def hafTransactionDocumentNumber : HAFTransactionRecord → String
  | .bks24 r => r.ticketNumber
  | .bks39 r => r.documentNumber
  | .bks45 r => r.newTicketNumber
  | .bks46 r => r.memoNumber
  | .bks47 r => r.memoNumber

/-- `_haf_transaction_net`. -/
def hafTransactionNet : HAFTransactionRecord → Int
  | .bks24 r => r.netAmount
  | .bks39 r => r.netAmount
  | .bks45 r => r.netAmount
  | .bks46 r => r.amount
  | .bks47 r => r.amount

def issueDate : HAFTransactionRecord → CalendarDate
  | .bks24 r => r.issueDate
  | .bks39 r => r.issueDate
  | .bks45 r => r.issueDate
  | .bks46 r => r.issueDate
  | .bks47 r => r.issueDate

def airlineCode : HAFTransactionRecord → String
  | .bks24 r => r.airlineCode
  | .bks39 r => r.airlineCode
  | .bks45 r => r.airlineCode
  | .bks46 r => r.airlineCode
  | .bks47 r => r.airlineCode

section Mapping

variable (upper : String → String)

/-- `_money`. -/
def money (amount : Int) (currency : String) : Except MappingError Money :=
  if h : isCurrencyCode (stripWhitespace (upper currency))=true then
    .ok ⟨amount,stripWhitespace (upper currency),h⟩
  else .error (.invalid "Money" "currency")

/-- The gross amount, the net one for records without a gross component. -/
def grossOf : HAFTransactionRecord → Int
  | .bks24 r => r.grossFare
  | record => hafTransactionNet record

/-- The commission of a ticket, if it is not zero. -/
def commissionOf (currency : String) : HAFTransactionRecord → Except MappingError (Option Money)
  | .bks24 r => if r.commission≠0 then some <$> money upper r.commission currency else .ok none
  | _ => .ok none

/-- `_haf_record_to_bsp_transaction`. -/
def hafRecordToBspTransaction (currency : String) (record : HAFTransactionRecord) :
    Except MappingError BSPTransaction := do
  let commission ← commissionOf upper currency record
  let gross ← money upper (grossOf record) currency
  let net ← money upper (hafTransactionNet record) currency
  let airline := stripWhitespace (upper (airlineCode record))
  if isIataCode airline then
    return {
      kind := hafTransactionKind record
      documentNumber := stripWhitespace (hafTransactionDocumentNumber record)
      issueDate := issueDate record
      airline
      gross
      commission
      taxes := []
      net
      internalTicketId := none}
  else .error (.invalid "BSPTransaction" "airline")

/-- `_period_from_header`. -/
def periodFromHeader (h : BFH01FileHeader) : Except MappingError Period :=
  match h.periodEnd.next with
  | none => .error .dateOverflow
  | some stop =>
    if ho : h.periodStart.ordinal<stop.ordinal then .ok ⟨h.periodStart,stop,ho⟩
    else .error (.invalid "Period" "end")

/-- A statement of a day or more has a period, unless the day after it is past
the calendar. -/
theorem periodFromHeader_ordered {h : BFH01FileHeader}
    (horder : h.periodStart.ordinal≤h.periodEnd.ordinal) :
    (∃ period,periodFromHeader h=.ok period) ∨ periodFromHeader h=.error .dateOverflow := by
  unfold periodFromHeader
  cases hnext : h.periodEnd.next with
  | none => exact .inr rfl
  | some stop =>
    have hlt : h.periodStart.ordinal<stop.ordinal := horder.trans_lt (ordinal_lt_of_next hnext)
    exact .inl ⟨_,dif_pos hlt⟩

/-- The running totals of the report. -/
structure Totals where
  sales : Int := 0
  refund : Int := 0
  commission : Int := 0
  net : Int := 0

/-- One turn of the loop over the records and their transactions. -/
def Totals.add (t : Totals) (pair : HAFTransactionRecord × BSPTransaction) : Totals :=
  let t := {t with net := t.net+pair.2.net.amount}
  match pair.1 with
  | .bks24 r => {t with sales := t.sales+r.grossFare,commission := t.commission+r.commission}
  | .bks39 r => {t with refund := t.refund+r.netAmount}
  | .bks45 r => {t with refund := t.refund+r.netAmount}
  | _ => t

/-- `haf_file_to_bsp_report`, with the fresh id and the clock. -/
def hafFileToBspReport (haf : HAFFile) (tenantId id : EntityId) (now : Time) :
    Except MappingError BSPReport := do
  let currency := upper haf.header.bspCurrency
  let country := upper haf.header.country
  let transactions ← haf.transactions.mapM (hafRecordToBspTransaction upper currency)
  let totals := (haf.transactions.zip transactions).foldl Totals.add {}
  let period ← periodFromHeader haf.header
  let salesTotal ← money upper totals.sales currency
  let refundTotal ← money upper totals.refund currency
  let commissionTotal ← money upper totals.commission currency
  let netRemittance ← money upper totals.net currency
  if isCountryCode (stripWhitespace country) then
    return {
      id
      tenantId
      country := stripWhitespace country
      period
      airline := none
      salesTotal
      refundTotal
      commissionTotal
      netRemittance
      transactions
      sourceRef := stripWhitespace haf.sourceRef
      createdAt := now
      updatedAt := now}
  else .error (.invalid "BSPReport" "country")

end Mapping

/-! ## What the report adds up -/

variable {upper : String → String} {currency : String} {records : List HAFTransactionRecord}
  {transactions : List BSPTransaction}

theorem money_amount {amount : Int} {m : Money} (h : money upper amount currency=.ok m) :
    m.amount=amount := by
  unfold money at h
  split at h
  · cases h
    rfl
  · cases h

/-- A transaction carries the net of its record. -/
theorem net_of_record {record : HAFTransactionRecord} {t : BSPTransaction}
    (h : hafRecordToBspTransaction upper currency record=.ok t) :
    t.net.amount=hafTransactionNet record := by
  unfold hafRecordToBspTransaction at h
  obtain ⟨commission,-,h⟩ := bind_ok.mp h
  obtain ⟨gross,-,h⟩ := bind_ok.mp h
  obtain ⟨net,hnet,h⟩ := bind_ok.mp h
  dsimp only at h
  split at h
  · cases h
    exact money_amount hnet
  · cases h

theorem totals_add_net (t : Totals) (pair : HAFTransactionRecord × BSPTransaction) :
    (t.add pair).net=t.net+pair.2.net.amount := by
  unfold Totals.add
  dsimp only
  split <;> rfl

/-- The net total of the loop is the sum of the records' nets. -/
theorem totals_net
    (h : List.Forall₂ (fun r t => hafRecordToBspTransaction upper currency r=.ok t) records transactions)
    (t : Totals) : ((records.zip transactions).foldl Totals.add t).net=
      t.net+(records.map hafTransactionNet).sum := by
  induction h generalizing t with
  | nil => exact (Int.add_zero _).symm
  | cons hrecord _ ih =>
    rw [List.zip_cons_cons,List.foldl_cons,ih,totals_add_net,net_of_record hrecord,List.map_cons,
      List.sum_cons,Int.add_assoc]

/-- What the parts of a report are made of. -/
structure MadeOf (upper : String → String) (haf : HAFFile) (totals : Totals) (report : BSPReport) :
    Prop where
  transactions : haf.transactions.mapM
    (hafRecordToBspTransaction upper (upper haf.header.bspCurrency))=.ok report.transactions
  summed : (haf.transactions.zip report.transactions).foldl Totals.add {}=totals
  period : periodFromHeader haf.header=.ok report.period
  sales : money upper totals.sales (upper haf.header.bspCurrency)=.ok report.salesTotal
  refund : money upper totals.refund (upper haf.header.bspCurrency)=.ok report.refundTotal
  commission : money upper totals.commission (upper haf.header.bspCurrency)=.ok report.commissionTotal
  net : money upper totals.net (upper haf.header.bspCurrency)=.ok report.netRemittance
  country : isCountryCode (stripWhitespace (upper haf.header.country))=true

section Reports

variable {haf : HAFFile} {tenantId id : EntityId} {now : Time} {report : BSPReport}

theorem madeOf_report (h : hafFileToBspReport upper haf tenantId id now=.ok report) :
    ∃ totals,MadeOf upper haf totals report := by
  unfold hafFileToBspReport at h
  obtain ⟨transactions,htransactions,h⟩ := bind_ok.mp h
  obtain ⟨period,hperiod,h⟩ := bind_ok.mp h
  obtain ⟨sales,hsales,h⟩ := bind_ok.mp h
  obtain ⟨refund,hrefund,h⟩ := bind_ok.mp h
  obtain ⟨commission,hcommission,h⟩ := bind_ok.mp h
  obtain ⟨net,hnet,h⟩ := bind_ok.mp h
  split at h
  · rename_i hcountry
    cases h
    exact ⟨(haf.transactions.zip transactions).foldl Totals.add {},
      {transactions := htransactions
       summed := rfl
       period := hperiod
       sales := hsales
       refund := hrefund
       commission := hcommission
       net := hnet
       country := hcountry}⟩
  · cases h

/-- The net remittance of a report is the sum of the nets of the file. -/
theorem netRemittance_eq (h : hafFileToBspReport upper haf tenantId id now=.ok report) :
    report.netRemittance.amount=(haf.transactions.map hafTransactionNet).sum := by
  obtain ⟨totals,hmade⟩ := madeOf_report h
  rw [money_amount hmade.net,← hmade.summed,totals_net (mapM_ok.mp hmade.transactions)]
  exact Int.zero_add _

end Reports

end Voyagent.HafMapping
