import Voyagent.FallibleResults
import Voyagent.FixedColumns
import Voyagent.TicketReconciliation

/-!
# Tally vouchers

The import envelopes of journals and sales, the errors of the gateway and the
acknowledgement of an import. Writing and reading XML is left to a library; a
body is given as the text it decodes to.
-/

namespace Voyagent.TallyVouchers

open TrimmedText RuntimeValues PythonNumbers CalendarDates Decimals FixedColumns
open TicketReconciliation (Money)

/-! ## Errors -/

/-- The classes of `DriverError` the driver raises. -/
inductive DriverErrorKind where
  | authentication | authorization | transient | permanent | validationFailed | conflict
  | upstreamTimeout
  deriving DecidableEq

/-- A `DriverError` of the driver `tally`. -/
structure DriverError where
  kind : DriverErrorKind
  message : String
  vendorRef : Option String := none
  deriving DecidableEq

/-- What a call of the driver raises. -/
inductive Failure where
  | driver (error : DriverError)
  /-- An exception of another class. -/
  | other (message : String)
  deriving DecidableEq

def Failure.of (kind : DriverErrorKind) (message : String) : Failure :=
  .driver {kind := kind,message := message}

/-! ## The voucher -/

/-- One side of an entry; exactly one of debit and credit is set. -/
inductive JournalSide where
  | debit (amount : Money)
  | credit (amount : Money)

structure JournalLine where
  accountId : String
  side : JournalSide

structure JournalEntry where
  entryDate : CalendarDate
  narration : String
  lines : List JournalLine

/-- A line of an invoice, with the amounts of its taxes. -/
structure InvoiceLine where
  subtotal : Money
  taxes : List Money := []
  references : List (String × String) := []

structure Invoice where
  invoiceNumber : String
  clientId : String
  issueDate : CalendarDate
  lines : List InvoiceLine
  grandTotal : Money
  notes : Option String := none

/-- One ledger posting inside a voucher. -/
structure TallyLedgerEntry where
  ledgerName : String
  amount : Decimal
  isDeemedPositive : Bool
  deriving DecidableEq

/-- What the resolver of ledger names does with an account. -/
inductive Resolved where
  | name (text : String)
  /-- A value that is no text. -/
  | noText
  | keyError
  | raised (message : String)

/-- `_resolve_ledger_name`. -/
def resolveLedgerName (resolver : Option (String → Resolved)) (account : String) :
    Except Failure String :=
  match resolver with
  | none =>
    .error (.of .permanent
      "Tally mapping requires a ledger_name_resolver; none was configured on the driver.")
  | some resolver =>
    let empty := Failure.of .validationFailed
      ("Tally mapping: resolver returned an empty name for account '"++account++"'.")
    match resolver account with
    | .keyError =>
      .error (.of .validationFailed
        ("Tally mapping: no ledger name known for account id '"++account++"'."))
    | .raised message => .error (.other message)
    | .noText => .error empty
    | .name text => if pyStrip text="" then .error empty else .ok text

/-- `-value.copy_abs()`, rounded to the context as every negation is. -/
def negatedAbs (d : Decimal) : Decimal := d.copyAbs.neg.rounded

/-- `_journal_line_to_tally_entry`. -/
def journalLineToTallyEntry (resolver : Option (String → Resolved)) (line : JournalLine) :
    Except Failure TallyLedgerEntry := do
  let name ← resolveLedgerName resolver line.accountId
  match line.side with
  | .debit money => return ⟨name,negatedAbs money.amount,true⟩
  | .credit money => return ⟨name,money.amount.copyAbs,false⟩

/-- The entries of an invoice line: its subtotal and its taxes. -/
def invoiceLineEntries (resolver : Option (String → Resolved)) (line : InvoiceLine) :
    Except Failure (List TallyLedgerEntry) := do
  let ledger ←
    match line.references.lookup "sales_ledger_id" with
    | some account => resolveLedgerName resolver account
    | none => pure "Sales"
  return ⟨ledger,line.subtotal.amount.copyAbs,false⟩::
    line.taxes.map fun tax => ⟨"Duties & Taxes",tax.amount.copyAbs,false⟩

/-! ## The envelope -/

/-- An XML element. -/
inductive Element where
  | mk (tag : String) (attributes : List (String × String)) (text : Option String)
    (children : List Element)

def Element.text : Element → Option String
  | .mk _ _ text _ => text

def Element.tag : Element → String
  | .mk tag _ _ _ => tag

/-- An element with a text and nothing else. -/
def leaf (tag text : String) : Element := .mk tag [] (some text) []

/-- An element that only holds others. -/
def holding (tag : String) (children : List Element) : Element := .mk tag [] none children

/-- `_format_tally_date`. -/
def formatTallyDate (d : CalendarDate) : String :=
  String.ofList (zeroPadded 4 d.year++zeroPadded 2 d.month++zeroPadded 2 d.day)

/-- `_format_amount`: two places, ties to the even neighbour. -/
def formatAmount (d : Decimal) : String :=
  let n := d.coefficient.natAbs
  let hundredths :=
    if -2≤d.exponent then n*10^(d.exponent+2).toNat else divHalfEven n (-2-d.exponent).toNat
  String.ofList ((if d.coefficient<0 then ['-'] else [])++Nat.toDigits 10 (hundredths/100)++
    '.'::zeroPadded 2 hundredths)

def entryElement (entry : TallyLedgerEntry) : Element :=
  holding "ALLLEDGERENTRIES.LIST"
    [leaf "LEDGERNAME" entry.ledgerName,
     leaf "ISDEEMEDPOSITIVE" (if entry.isDeemedPositive then "Yes" else "No"),
     leaf "AMOUNT" (formatAmount entry.amount)]

/-- `_voucher_element`. -/
def voucherElement (vchType : String) (entryDate : CalendarDate) (narration : String)
    (entries : List TallyLedgerEntry) (voucherNumber reference : Option String) : Element :=
  .mk "VOUCHER" [("VCHTYPE",vchType),("ACTION","Create")] none
    ([leaf "DATE" (formatTallyDate entryDate),leaf "NARRATION" narration,
      leaf "VOUCHERTYPENAME" vchType]++
      (voucherNumber.map (leaf "VOUCHERNUMBER")).toList++(reference.map (leaf "REFERENCE")).toList++
      entries.map entryElement)

/-- `_import_envelope`. -/
def importEnvelope (voucher : Element) (companyName : String) : Element :=
  holding "ENVELOPE"
    [holding "HEADER" [leaf "TALLYREQUEST" "Import Data"],
     holding "BODY"
      [holding "IMPORTDATA"
        [holding "REQUESTDESC"
          [leaf "REPORTNAME" "Vouchers",
           holding "STATICVARIABLES" [leaf "SVCurrentCompany" companyName]],
         holding "REQUESTDATA"
          [.mk "TALLYMESSAGE" [("{http://www.w3.org/2000/xmlns/}UDF","TallyUDF")] none
            [voucher]]]]]

/-- `journal_entry_to_tally_xml_body`, before it is written; the voucher carries no number. -/
def journalEntryToTallyXmlBody (entry : JournalEntry) (companyName : String)
    (resolver : Option (String → Resolved)) : Except Failure Element := do
  let entries ← entry.lines.mapM (journalLineToTallyEntry resolver)
  return importEnvelope
    (voucherElement "Journal" entry.entryDate entry.narration entries none none) companyName

/-- `invoice_to_tally_sales_voucher`, before it is written. -/
def invoiceToTallySalesVoucher (invoice : Invoice) (companyName : String)
    (resolver : Option (String → Resolved)) : Except Failure Element := do
  let party ← resolveLedgerName resolver invoice.clientId
  let lines ← invoice.lines.mapM (invoiceLineEntries resolver)
  let entries : List TallyLedgerEntry :=
    ⟨party,negatedAbs invoice.grandTotal.amount,true⟩::lines.flatten
  return importEnvelope
    (voucherElement "Sales" invoice.issueDate
      (invoice.notes.getD ("Invoice "++invoice.invoiceNumber)) entries
      (some invoice.invoiceNumber) (some invoice.invoiceNumber)) companyName

mutual

/-- The vouchers an import of the element creates. -/
def Element.creates : Element → Nat
  | .mk tag attributes _ children =>
    (if tag="VOUCHER" ∧ attributes.lookup "ACTION"=some "Create" then 1 else 0)+createsAll children

def createsAll : List Element → Nat
  | [] => 0
  | element::rest => element.creates+createsAll rest

end

theorem createsAll_append (es fs : List Element) :
    createsAll (es++fs)=createsAll es+createsAll fs := by
  induction es with
  | nil => exact (Nat.zero_add _).symm
  | cons e es ih => rw [List.cons_append,createsAll,createsAll,ih,Nat.add_assoc]

theorem createsAll_entries (entries : List TallyLedgerEntry) :
    createsAll (entries.map entryElement)=0 := by
  induction entries with
  | nil => rfl
  | cons entry entries ih =>
    rw [List.map_cons,createsAll,ih]
    rfl

theorem createsAll_optional (tag : String) (htag : tag≠"VOUCHER") (text : Option String) :
    createsAll (text.map (leaf tag)).toList=0 := by
  cases text with
  | none => rfl
  | some text =>
    change (if tag="VOUCHER" ∧ _ then 1 else 0)+0+0=0
    rw [if_neg fun h => htag h.1]

/-- An envelope creates one voucher. -/
theorem creates_importEnvelope (vchType : String) (entryDate : CalendarDate) (narration : String)
    (entries : List TallyLedgerEntry) (voucherNumber reference : Option String) (company : String) :
    (importEnvelope (voucherElement vchType entryDate narration entries voucherNumber reference)
      company).creates=1 := by
  have hvoucher : (voucherElement vchType entryDate narration entries voucherNumber
      reference).creates=1 := by
    change 1+createsAll _=1
    rw [createsAll_append,createsAll_append,createsAll_append,createsAll_entries,
      createsAll_optional "VOUCHERNUMBER" (by decide),createsAll_optional "REFERENCE" (by decide)]
    rfl
  simp only [importEnvelope,holding,leaf,Element.creates,createsAll,hvoucher,String.reduceEq,
    false_and,if_false]

end Voyagent.TallyVouchers
