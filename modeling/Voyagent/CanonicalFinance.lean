import Voyagent.CanonicalFields

/-!
# Canonical finance records

The invoice and the journal entry an accounting driver takes, and the
validation that builds them. An invoice is validated from a dictionary, a
journal entry from its arguments. How the validation library reads numbers and
dates stays a parameter.
-/

namespace Voyagent.CanonicalFinance

open RuntimeValues KeyedMap CalendarDates Decimals CanonicalFields

/-- What `Decimal` makes of a text. -/
inductive DecimalReading where
  | finite (value : Decimal)
  /-- An infinity or not a number. -/
  | special
  | malformed

def DecimalReading.finite? : DecimalReading → Option Decimal
  | .finite d => some d
  | _ => none

/-- What the models use of Python and of the validation library. -/
structure FinanceLibrary where
  /-- `Decimal` of a text. -/
  decimal : String → DecimalReading
  /-- A field of type `Decimal`. -/
  decimalField : Json → Option Decimal
  /-- A field of type `int`. -/
  intField : Json → Option Int
  /-- A field of type `date`. -/
  dateField : Json → Option CalendarDate
  /-- A field of type `datetime`. -/
  datetimeField : Json → Option Time
  /-- `date.fromisoformat`, or the text of its `ValueError`. -/
  fromIsoFormat : String → Except String CalendarDate

/-! ## The models -/

structure Money where
  amount : Decimal
  currency : String
  deriving DecidableEq

/-- `TaxRegime`. -/
def taxRegimes : List String :=
  ["gst_india","vat_uk","vat_eu","vat_uae","gst_sg","sst_my","sales_tax_us","none"]

structure TaxLine where
  regime : String
  code : String
  rateBps : Int
  taxableAmount : Money
  taxAmount : Money
  jurisdiction : Option String
  deriving DecidableEq

structure InvoiceLine where
  description : String
  quantity : Decimal
  unitPrice : Money
  subtotal : Money
  taxes : List TaxLine
  total : Money
  references : Table String EntityId
  deriving DecidableEq

structure Address where
  country : String
  line1 : String
  line2 : Option String
  city : String
  region : Option String
  postalCode : Option String
  attention : Option String
  deriving DecidableEq

structure LocalizedText where
  default : String
  translations : Table String String := []
  deriving DecidableEq

/-- `InvoiceStatus`. -/
def invoiceStatuses : List String :=
  ["draft","issued","partially_paid","paid","cancelled","refunded"]

structure Invoice where
  id : EntityId
  tenantId : EntityId
  invoiceNumber : String
  series : Option String
  clientId : EntityId
  bookingIds : List EntityId
  issueDate : CalendarDate
  dueDate : Option CalendarDate
  currency : String
  lines : List InvoiceLine
  subtotal : Money
  taxTotal : Money
  grandTotal : Money
  status : String
  billingAddress : Address
  notes : Option LocalizedText
  createdAt : Time
  updatedAt : Time
  deriving DecidableEq

/-- Exactly one of debit and credit is set. -/
structure JournalLine where
  accountId : EntityId
  debit : Option Money
  credit : Option Money
  narration : Option String
  deriving DecidableEq

structure JournalEntry where
  id : EntityId
  tenantId : EntityId
  entryDate : CalendarDate
  narration : LocalizedText
  lines : List JournalLine
  sourceEvent : String
  createdAt : Time
  updatedAt : Time
  deriving DecidableEq

/-! ## Validation of an invoice -/

/-- A value of the dictionary an invoice is validated from. -/
inductive RawValue where
  | json (value : Json)
  /-- A `datetime` object. -/
  | moment (time : Time)

abbrev RawRecord : Type := Table String RawValue

def RawValue.json? : RawValue → Option Json
  | .json value => some value
  | .moment _ => none

section Invoices

variable (lib : FinanceLibrary)

/-- `_coerce_amount` and the check that the amount is finite. -/
def amount : Json → Option Decimal
  | .str s => (lib.decimal s).finite?
  | .int n => some ⟨n,0⟩
  | .bool b => some ⟨if b then 1 else 0,0⟩
  | _ => none

def money (value : Json) : Option Money := do
  let fields ← model ["amount","currency"] value
  let amount ← (get fields "amount").bind (amount lib)
  let currency ← (get fields "currency").bind (patterned isCurrencyCode)
  return ⟨amount,currency⟩

/-- A member of an enumeration of texts. -/
def oneOf (values : List String) : Json → Option String
  | .str s => if s∈values then some s else none
  | _ => none

def taxLine (value : Json) : Option TaxLine := do
  let fields ← model
    ["regime","code","rate_bps","taxable_amount","tax_amount","jurisdiction"] value
  let regime ← (get fields "regime").bind (oneOf taxRegimes)
  let code ← (get fields "code").bind text
  let rate ← (get fields "rate_bps").bind lib.intField
  let taxable ← (get fields "taxable_amount").bind (money lib)
  let tax ← (get fields "tax_amount").bind (money lib)
  let jurisdiction ← nullable (patterned isCountryCode) (get fields "jurisdiction")
  if 0≤rate ∧ rate≤100000 ∧ taxable.currency=tax.currency then
    some ⟨regime,code,rate,taxable,tax,jurisdiction⟩
  else none

def invoiceLine (value : Json) : Option InvoiceLine := do
  let fields ← model
    ["description","quantity","unit_price","subtotal","taxes","total","references"] value
  let description ← (get fields "description").bind text
  let quantity ← defaulted lib.decimalField ⟨1,0⟩ (get fields "quantity")
  let unitPrice ← (get fields "unit_price").bind (money lib)
  let subtotal ← (get fields "subtotal").bind (money lib)
  let taxes ← defaulted (items (taxLine lib)) [] (get fields "taxes")
  let total ← (get fields "total").bind (money lib)
  let references ← defaulted (members (fun k => text (.str k)) entityId) [] (get fields "references")
  if zero.le quantity=true ∧ subtotal.currency=unitPrice.currency ∧
      total.currency=unitPrice.currency ∧
      ∀ t∈taxes,t.taxAmount.currency=unitPrice.currency then
    some ⟨description,quantity,unitPrice,subtotal,taxes,total,references⟩
  else none

def address (value : Json) : Option Address := do
  let fields ← model
    ["country","line1","line2","city","region","postal_code","attention"] value
  let country ← (get fields "country").bind (patterned isCountryCode)
  let line1 ← (get fields "line1").bind text
  let line2 ← nullable text (get fields "line2")
  let city ← (get fields "city").bind text
  let region ← nullable text (get fields "region")
  let postalCode ← nullable text (get fields "postal_code")
  let attention ← nullable text (get fields "attention")
  return ⟨country,line1,line2,city,region,postalCode,attention⟩

def localizedText (value : Json) : Option LocalizedText := do
  let fields ← model ["default","translations"] value
  let default ← (get fields "default").bind text
  let translations ←
    defaulted (members (fun k => patterned isLanguageCode (.str k)) text) []
      (get fields "translations")
  return ⟨default,translations⟩

/-- A timestamp, given as an object or as a value to read. -/
def timestamp : RawValue → Option Time
  | .json value => lib.datetimeField value
  | .moment time => some time

/-- The fields `Invoice` declares. -/
def invoiceFields : List String :=
  ["created_at","updated_at","id","tenant_id","invoice_number","series","client_id","booking_ids",
   "issue_date","due_date","currency","lines","subtotal","tax_total","grand_total","status",
   "billing_address","notes"]

/-- The validator `_currency_consistency`. -/
def currencyConsistency (invoice : Invoice) : Option Invoice :=
  if (∀ m∈[invoice.subtotal,invoice.taxTotal,invoice.grandTotal],m.currency=invoice.currency) ∧
      ∀ line∈invoice.lines,line.total.currency=invoice.currency then
    some invoice
  else none

/-- `Invoice.model_validate`; nothing where it raises. -/
def Invoice.modelValidate (raw : RawRecord) : Option Invoice := do
  let value := fun key => (get raw key).bind RawValue.json?
  guard (raw.all fun e => invoiceFields.contains e.1)
  let tenantId ← (value "tenant_id").bind entityId
  let id ← (value "id").bind entityId
  let invoiceNumber ← (value "invoice_number").bind text
  let series ← nullable text (value "series")
  let clientId ← (value "client_id").bind entityId
  let bookingIds ← defaulted (items entityId) [] (value "booking_ids")
  let issueDate ← (value "issue_date").bind lib.dateField
  let dueDate ← nullable lib.dateField (value "due_date")
  let currency ← (value "currency").bind (patterned isCurrencyCode)
  let lines ← ((value "lines").bind (items (invoiceLine lib))).filter fun ls => !ls.isEmpty
  let subtotal ← (value "subtotal").bind (money lib)
  let taxTotal ← (value "tax_total").bind (money lib)
  let grandTotal ← (value "grand_total").bind (money lib)
  let status ← defaulted (oneOf invoiceStatuses) "draft" (value "status")
  let billingAddress ← (value "billing_address").bind address
  let notes ← nullable localizedText (value "notes")
  let createdAt ← (get raw "created_at").bind (timestamp lib)
  let updatedAt ← (get raw "updated_at").bind (timestamp lib)
  currencyConsistency ⟨id,tenantId,invoiceNumber,series,clientId,bookingIds,issueDate,dueDate,
    currency,lines,subtotal,taxTotal,grandTotal,status,billingAddress,notes,createdAt,updatedAt⟩

/-- The tenant of a validated invoice is the one its dictionary names. -/
theorem Invoice.tenantId_of_modelValidate {raw : RawRecord} {invoice : Invoice}
    (h : Invoice.modelValidate lib raw=some invoice) :
    ∃ value,get raw "tenant_id"=some (.json value) ∧ entityId value=some invoice.tenantId := by
  unfold Invoice.modelValidate at h
  obtain ⟨_,-,h⟩ := Option.bind_eq_some_iff.mp h
  obtain ⟨tenantId,hvalue,h⟩ := Option.bind_eq_some_iff.mp h
  obtain ⟨value,hraw,htenant⟩ := Option.bind_eq_some_iff.mp hvalue
  obtain ⟨field,hfield,hjson⟩ := Option.bind_eq_some_iff.mp hraw
  iterate 17 obtain ⟨_,-,h⟩ := Option.bind_eq_some_iff.mp h
  have hinvoice : invoice.tenantId=tenantId := by
    unfold currencyConsistency at h
    split at h
    · rw [← Option.some.inj h]
    · cases h
  have hfound : field=.json value := by
    cases field with
    | json v => rw [Option.some.inj hjson]
    | moment t => cases hjson
  exact ⟨value,by rw [hfield,hfound],by rw [hinvoice]; exact htenant⟩

end Invoices

/-! ## Validation of a journal entry -/

/-- `Money(amount=..., currency=...)`; nothing where it raises. -/
def moneyOf (reading : DecimalReading) (currency : String) : Option Money := do
  let amount ← reading.finite?
  let currency ← patterned isCurrencyCode (.str currency)
  return ⟨amount,currency⟩

/-- `JournalLine(...)`; nothing where it raises. -/
def journalLine (accountId : Json) (debit credit : Option Money) (narration : Option Json) :
    Option JournalLine := do
  let account ← entityId accountId
  let narration ← nullable text narration
  if debit.isNone=credit.isNone then none else some ⟨account,debit,credit,narration⟩

/-- The side of a line, signed. -/
def signedSide (line : JournalLine) : Option Money :=
  match line.debit with
  | some m => some ⟨Decimal.mul ⟨1,0⟩ m.amount,m.currency⟩
  | none => line.credit.map fun m => ⟨Decimal.mul ⟨-1,0⟩ m.amount,m.currency⟩

/-- The sums of the validator's loop. -/
def netByCurrency (lines : List JournalLine) : Table String Decimal :=
  (lines.filterMap signedSide).foldl
    (fun nets m => set nets m.currency (((get nets m.currency).getD zero).add m.amount)) []

/-- The validator `_balanced_per_currency`. -/
def balancedPerCurrency (entry : JournalEntry) : Option JournalEntry :=
  if (netByCurrency entry.lines).all fun e => e.2.beq zero then some entry else none

/-- The arguments of `JournalEntry(...)`. -/
structure JournalArguments where
  id : String
  tenantId : String
  entryDate : CalendarDate
  narration : String
  lines : List JournalLine
  sourceEvent : String
  createdAt : Time
  updatedAt : Time

/-- `JournalEntry(...)`; nothing where it raises. -/
def JournalEntry.build (a : JournalArguments) : Option JournalEntry := do
  let id ← entityId (.str a.id)
  let tenantId ← entityId (.str a.tenantId)
  let narration ← text (.str a.narration)
  let sourceEvent ← text (.str a.sourceEvent)
  if a.lines.length<2 then none
  else balancedPerCurrency ⟨id,tenantId,a.entryDate,{default := narration},a.lines,sourceEvent,
    a.createdAt,a.updatedAt⟩

theorem moneyOf_eq_some {reading : DecimalReading} {currency : String} {m : Money} :
    moneyOf reading currency=some m ↔
      reading=.finite m.amount ∧ patterned isCurrencyCode (.str currency)=some m.currency := by
  unfold moneyOf
  simp only [Option.bind_eq_bind,Option.bind_eq_some_iff]
  constructor
  · rintro ⟨amount,hamount,code,hcode,h⟩
    cases h
    refine ⟨?_,hcode⟩
    cases reading with
    | finite d => rw [Option.some.inj hamount]
    | special => cases hamount
    | malformed => cases hamount
  · rintro ⟨rfl,hcode⟩
    exact ⟨_,rfl,_,hcode,rfl⟩

/-- The tenant of a journal entry is the one it was built with. -/
theorem JournalEntry.tenantId_of_build {a : JournalArguments} {entry : JournalEntry}
    (h : JournalEntry.build a=some entry) : entityId (.str a.tenantId)=some entry.tenantId := by
  unfold JournalEntry.build at h
  simp only [Option.bind_eq_bind,Option.bind_eq_some_iff] at h
  obtain ⟨_,-,tenantId,htenant,_,-,_,-,h⟩ := h
  have hentry : entry.tenantId=tenantId := by
    unfold balancedPerCurrency at h
    split at h
    · cases h
    · split at h
      · rw [← Option.some.inj h]
      · cases h
  rw [hentry]
  exact htenant

end Voyagent.CanonicalFinance
