import Voyagent.CanonicalFinance
import Voyagent.InvoiceDrafts

/-!
# Tenants of the accounting records

The handlers of `post_journal_entry` and `create_invoice`, from an input its
schema has admitted to the record the accounting driver is given. A journal
entry is built field by field and carries the tenant of the context. An
invoice is a free-form dictionary whose missing members are filled in, so the
tenant of the context counts only where the input names none.
-/

namespace Voyagent.RecordTenants

open RuntimeValues KeyedMap CalendarDates CanonicalFields CanonicalFinance ToolInvocation
open InvoiceDrafts (upper)

/-! ## The input schemas -/

/-- A property that, where it is present, passes a check. -/
def property (fields : Dict) (key : String) (check : Json → Bool) : Bool :=
  (get fields key).all check

def required (fields : Dict) (keys : List String) : Bool := keys.all fun k => (get fields k).isSome

def noOthers (fields : Dict) (keys : List String) : Bool := fields.all fun e => keys.contains e.1

def isText : Json → Bool
  | .str _ => true
  | _ => false

def isNonEmptyText : Json → Bool
  | .str s => s≠""
  | _ => false

def isObject : Json → Bool
  | .obj _ => true
  | _ => false

/-- `^[A-Z]{3}$`, whose end also matches before a last line feed. -/
def isCurrencyText : Json → Bool
  | .str s => isCurrencyCode s || (s.endsWith "\n" && isCurrencyCode (s.dropEnd 1).toString)
  | _ => false

def isArray (least : Nat) (item : Json → Bool) : Json → Bool
  | .arr values => least≤values.length && values.all item
  | _ => false

/-- The items of `lines` in `POST_JOURNAL_SCHEMA`. -/
def journalLineSchema : Json → Bool
  | .obj line =>
    required line ["account_id","currency"] && property line "account_id" isNonEmptyText &&
      property line "account_code" isText && property line "debit_amount" isText &&
      property line "credit_amount" isText && property line "currency" isCurrencyText &&
      property line "narration" isText &&
      noOthers line ["account_id","account_code","debit_amount","credit_amount","currency",
        "narration"]
  | _ => false

def entrySchema : Json → Bool
  | .obj entry =>
    required entry ["narration","lines"] && property entry "narration" isNonEmptyText &&
      property entry "entry_date" isText && property entry "source_event" isText &&
      property entry "lines" (isArray 2 journalLineSchema) &&
      noOthers entry ["narration","entry_date","source_event","lines"]
  | _ => false

/-- `POST_JOURNAL_SCHEMA`. -/
def postJournalSchema (input : Dict) : Bool :=
  required input ["entry"] && property input "entry" entrySchema && noOthers input ["entry"]

/-- The invoice in `CREATE_INVOICE_SCHEMA`, which admits further members. -/
def invoiceSchema : Json → Bool
  | .obj invoice =>
    required invoice ["invoice_number","client_id","issue_date","currency","lines",
        "billing_address"] &&
      property invoice "invoice_number" isNonEmptyText && property invoice "series" isText &&
      property invoice "client_id" isNonEmptyText && property invoice "issue_date" isText &&
      property invoice "due_date" isText && property invoice "currency" isCurrencyText &&
      property invoice "lines" (isArray 1 isObject) &&
      property invoice "billing_address" isObject && property invoice "notes" isText
  | _ => false

/-- `CREATE_INVOICE_SCHEMA`. -/
def createInvoiceSchema (input : Dict) : Bool :=
  required input ["invoice"] && property input "invoice" invoiceSchema && noOthers input ["invoice"]

/-- An input the schema of its tool admits. -/
structure SchemaInput (schema : Dict → Bool) where
  input : Dict
  valid : schema input=true

/-- A call of one of the two tools that hand a record to the accounting driver. -/
inductive RecordCall where
  | postJournalEntry (i : SchemaInput postJournalSchema)
  | createInvoice (i : SchemaInput createInvoiceSchema)

/-- A context as its model admits it: the tenant is an `EntityId`. -/
structure TenantContext extends ToolContext where
  tenant_entity : isEntityId tenantId=true

/-! ## The handlers -/

/-- How a call of the accounting driver ends. -/
inductive DriverAnswer where
  | returned (id : String)
  | raised (e : Exn)
  | cancelled

/-- What the world does during a call. -/
structure World where
  /-- The registry of the tenant and its accounting driver, or what resolving them raises. -/
  driver : Except Exn Unit := .ok ()
  uuid7 : EntityId
  now : Time
  today : CalendarDate
  /-- The text of a validation error. -/
  errorText : String
  answer : DriverAnswer

inductive CanonicalRecord where
  | journalEntry (entry : JournalEntry)
  | invoice (invoice : Invoice)
  deriving DecidableEq

def CanonicalRecord.tenantId : CanonicalRecord → EntityId
  | .journalEntry e => e.tenantId
  | .invoice i => i.tenantId

/-- What a handler hands to the driver, and how it ends. -/
structure HandlerRun where
  handedOver : Option CanonicalRecord := none
  answer : HandlerAnswer
  deriving DecidableEq

def keyError (key : String) : Exn := ⟨"KeyError",["LookupError"],"'"++key++"'",none⟩

def typeError : Exn := ⟨"TypeError",[],"",none⟩

/-- `fields[key]`. -/
def item (fields : Dict) (key : String) : Except HandlerAnswer Json :=
  match get fields key with
  | some value => .ok value
  | none => .error (.raised (keyError key))

/-- `str` of a value; the schemas admit texts only. -/
def textOf : Json → Except HandlerAnswer String
  | .str s => .ok s
  | _ => .error (.raised typeError)

/-- A mapping; the schemas admit objects only. -/
def objectOf : Json → Except HandlerAnswer Dict
  | .obj fields => .ok fields
  | _ => .error (.raised typeError)

/-- The record was given to the driver, whose answer `result` words. -/
def handOver (record : CanonicalRecord) (w : World) (result : String → Dict) : HandlerRun :=
  { handedOver := some record
    answer :=
      match w.answer with
      | .returned id => .returned (.dict (result id))
      | .raised e => .raised e
      | .cancelled => .cancelled }

/-- A record that does not validate. -/
def refused (flag : String) (w : World) : HandlerRun :=
  { answer := .returned (.dict
      [(flag,.bool false),("reason",.str "validation_failed"),("detail",.str w.errorText)]) }

section Handlers

variable (lib : FinanceLibrary)

/-- `ln.get(key)`, read as an amount; nothing where it is `None`. -/
def sideOf (w : World) (line : Dict) (key currency : String) : Except HandlerAnswer (Option Money) :=
  match get line key with
  | none | some .null => .ok none
  | some value => do
    let reading := lib.decimal (← textOf value)
    match reading with
    | .malformed => .error (.raised ⟨"InvalidOperation",["ArithmeticError"],"",none⟩)
    | _ =>
      match moneyOf reading currency with
      | some m => .ok (some m)
      | none => .error (.raised (validationError w.errorText))

/-- `ln.get(key) is None`. -/
def isAbsent (line : Dict) (key : String) : Bool :=
  match get line key with
  | none | some .null => true
  | _ => false

/-- One turn of the loop over the lines of the input. -/
def canonicalLine (w : World) (value : Json) : Except HandlerAnswer JournalLine := do
  let line ← objectOf value
  let currency := upper (← textOf (← item line "currency"))
  if isAbsent line "debit_amount"=isAbsent line "credit_amount" then
    .error (.returned (.dict [("posted",.bool false),("reason",.str "invalid_line"),
      ("detail",.str "Each line must set exactly one of debit_amount / credit_amount.")]))
  else
    let account ← item line "account_id"
    let debit ← sideOf lib w line "debit_amount" currency
    let credit ← sideOf lib w line "credit_amount" currency
    match journalLine account debit credit (get line "narration") with
    | some l => return l
    | none => .error (.raised (validationError w.errorText))

/-- The date of the entry: the one given, or today. -/
def entryDate (w : World) (entry : Dict) : Except HandlerAnswer CalendarDate :=
  match given entry "entry_date" with
  | none => .ok w.today
  | some value => do
    match lib.fromIsoFormat (← textOf value) with
    | .ok d => .ok d
    | .error detail => .error (.raised ⟨"ValueError",[],detail,none⟩)

/-- The loop over the lines of the input. -/
def canonicalLines (w : World) (entry : Dict) : Except HandlerAnswer (List JournalLine) :=
  match given entry "lines" with
  | some (.arr lines) => lines.mapM (canonicalLine lib w)
  | some _ => .error (.raised typeError)
  | none => .ok []

/-- The arguments `post_journal_entry` builds the entry from. -/
def journalArguments (toolInput : Dict) (ctx : ToolContext) (w : World) :
    Except HandlerAnswer JournalArguments := do
  let entry ← objectOf (← item toolInput "entry")
  let lines ← canonicalLines lib w entry
  let date ← entryDate lib w entry
  let narration ← textOf (← item entry "narration")
  let sourceEvent ← textOf ((given entry "source_event").getD (.str "manual.journal"))
  return ⟨w.uuid7,ctx.tenantId,date,narration,lines,sourceEvent,w.now,w.now⟩

/-- `post_journal_entry`. -/
def postJournalEntry (toolInput : Dict) (ctx : ToolContext) (w : World) : HandlerRun :=
  match w.driver with
  | .error e => {answer := .raised e}
  | .ok () =>
    match journalArguments lib toolInput ctx w with
    | .error answer => {answer := answer}
    | .ok arguments =>
      match JournalEntry.build arguments with
      | none => refused "posted" w
      | some entry =>
        handOver (.journalEntry entry) w fun id =>
          [("posted",.bool true),("journal_id",.str id)]

/-- `dict.setdefault`. -/
def setdefault (raw : RawRecord) (key : String) (value : RawValue) : RawRecord :=
  match get raw key with
  | some _ => raw
  | none => set raw key value

/-- The dictionary of an invoice with its missing members filled in. -/
def filled (invoice : Dict) (tenantId : EntityId) (w : World) : RawRecord :=
  let raw := mapValues (fun _ value => RawValue.json value) invoice
  let raw := setdefault raw "id" (.json (.str w.uuid7))
  let raw := setdefault raw "tenant_id" (.json (.str tenantId))
  let raw := setdefault raw "created_at" (.moment w.now)
  setdefault raw "updated_at" (.moment w.now)

/-- The invoice of an input. -/
def invoiceOf (toolInput : Dict) : Except HandlerAnswer Dict := do
  objectOf (← item toolInput "invoice")

/-- `create_invoice`. -/
def createInvoice (toolInput : Dict) (ctx : ToolContext) (w : World) : HandlerRun :=
  match w.driver with
  | .error e => {answer := .raised e}
  | .ok () =>
    match invoiceOf toolInput with
    | .error answer => {answer := answer}
    | .ok invoice =>
      match Invoice.modelValidate lib (filled invoice ctx.tenantId w) with
      | none => refused "created" w
      | some record =>
        handOver (.invoice record) w fun id =>
          [("created",.bool true),("invoice_id",.str id),
           ("invoice_number",.str record.invoiceNumber)]

def runCall (call : RecordCall) (ctx : ToolContext) (w : World) : HandlerRun :=
  match call with
  | .postJournalEntry i => postJournalEntry lib i.input ctx w
  | .createInvoice i => createInvoice lib i.input ctx w

/-! ## The tenant of what is handed over -/

/-- The records of an input carry the tenant of the context. -/
structure TenantBound (call : RecordCall) : Prop where
  own : ∀ (ctx : TenantContext) (w : World),∀ record∈(runCall lib call ctx.toToolContext w).handedOver,
    record.tenantId=ctx.tenantId
  apart : ∀ (ctx ctx' : TenantContext) (w w' : World),ctx.tenantId≠ctx'.tenantId →
    ∀ record∈(runCall lib call ctx.toToolContext w).handedOver,
    ∀ record'∈(runCall lib call ctx'.toToolContext w').handedOver,record.tenantId≠record'.tenantId

/-- The invoice of an input names no tenant, or does not validate whatever is filled in. -/
def KeepsTenant : RecordCall → Prop
  | .postJournalEntry _ => True
  | .createInvoice i =>
    ∀ invoice,invoiceOf i.input=.ok invoice → get invoice "tenant_id"=none ∨
      ∀ tenantId w,Invoice.modelValidate lib (filled invoice tenantId w)=none

variable {lib}

theorem handedOver_handOver (record : CanonicalRecord) (w : World) (result : String → Dict) :
    (handOver record w result).handedOver=some record := rfl

variable {toolInput : Dict} {w : World}

theorem journalArguments_tenantId {ctx : ToolContext} {a : JournalArguments}
    (h : journalArguments lib toolInput ctx w=.ok a) : a.tenantId=ctx.tenantId := by
  unfold journalArguments at h
  simp only [FallibleResults.bind_ok] at h
  obtain ⟨_,-,_,-,_,-,_,-,_,-,_,-,_,-,h⟩ := h
  rw [← Except.ok.inj h]

/-- What `post_journal_entry` hands over is the entry built from its arguments. -/
theorem postJournalEntry_handedOver {ctx : ToolContext} {record : CanonicalRecord}
    (h : record∈(postJournalEntry lib toolInput ctx w).handedOver) :
    ∃ a entry,journalArguments lib toolInput ctx w=.ok a ∧ JournalEntry.build a=some entry ∧
      record=.journalEntry entry := by
  unfold postJournalEntry at h
  split at h
  · cases h
  · split at h
    · cases h
    · rename_i a ha
      split at h
      · cases h
      · rename_i entry hentry
        rw [handedOver_handOver] at h
        exact ⟨a,entry,ha,hentry,(Option.some.inj h).symm⟩

/-- What `create_invoice` hands over is the validated invoice. -/
theorem createInvoice_handedOver {ctx : ToolContext} {record : CanonicalRecord}
    (h : record∈(createInvoice lib toolInput ctx w).handedOver) :
    ∃ fields invoice,invoiceOf toolInput=.ok fields ∧
      Invoice.modelValidate lib (filled fields ctx.tenantId w)=some invoice ∧
      record=.invoice invoice := by
  unfold createInvoice at h
  split at h
  · cases h
  · split at h
    · cases h
    · rename_i fields hfields
      split at h
      · cases h
      · rename_i invoice hinvoice
        rw [handedOver_handOver] at h
        exact ⟨fields,invoice,hfields,hinvoice,(Option.some.inj h).symm⟩

theorem get_setdefault (raw : RawRecord) (key k : String) (value : RawValue) :
    get (setdefault raw key value) k=
      if k=key then some ((get raw key).getD value) else get raw k := by
  unfold setdefault
  split
  · rename_i v hv
    split
    · rename_i hk
      rw [hk,hv]
      rfl
    · rfl
  · rename_i hnone
    rw [get_set,hnone]
    by_cases hk : k=key
    · rw [if_pos hk,if_pos hk.symm]
      rfl
    · rw [if_neg hk,if_neg fun h => hk h.symm]

/-- The tenant filled in is the one of the context, unless the invoice names one. -/
theorem get_filled_tenantId (invoice : Dict) (tenantId : EntityId) (w : World) :
    get (filled invoice tenantId w) "tenant_id"=
      some (.json ((get invoice "tenant_id").getD (.str tenantId))) := by
  unfold filled
  simp only [get_setdefault,get_mapValues]
  cases get invoice "tenant_id" <;> simp

/-- Where the invoice names a tenant, the context leaves no trace in what is validated. -/
theorem filled_of_given {invoice : Dict} {value : Json} (h : get invoice "tenant_id"=some value)
    (tenantId tenantId' : EntityId) (w : World) :
    filled invoice tenantId w=filled invoice tenantId' w := by
  have hkept : ∀ t : EntityId,setdefault
      (setdefault (mapValues (fun _ value => RawValue.json value) invoice) "id"
        (.json (.str w.uuid7))) "tenant_id" (.json (.str t))=
      setdefault (mapValues (fun _ value => RawValue.json value) invoice) "id"
        (.json (.str w.uuid7)) := by
    intro t
    have hget : get (setdefault (mapValues (fun _ value => RawValue.json value) invoice) "id"
        (.json (.str w.uuid7))) "tenant_id"=some (.json value) := by
      rw [get_setdefault,if_neg (by decide),get_mapValues,h]
      rfl
    rw [setdefault,hget]
  unfold filled
  simp only [hkept]

/-- An entry carries the tenant of the context. -/
theorem postJournalEntry_tenantId {ctx : TenantContext} {record : CanonicalRecord}
    (h : record∈(postJournalEntry lib toolInput ctx.toToolContext w).handedOver) :
    record.tenantId=ctx.tenantId := by
  obtain ⟨a,entry,ha,hentry,rfl⟩ := postJournalEntry_handedOver h
  have htenant := JournalEntry.tenantId_of_build hentry
  rw [journalArguments_tenantId ha,entityId_of_valid ctx.tenant_entity] at htenant
  exact (Option.some.inj htenant).symm

variable {fields : Dict}

/-- So does an invoice whose input names no tenant. -/
theorem createInvoice_tenantId {ctx : TenantContext} {record : CanonicalRecord}
    (hfields : invoiceOf toolInput=.ok fields) (hnone : get fields "tenant_id"=none)
    (h : record∈(createInvoice lib toolInput ctx.toToolContext w).handedOver) :
    record.tenantId=ctx.tenantId := by
  obtain ⟨fields',invoice,hfields',hvalid,rfl⟩ := createInvoice_handedOver h
  have hsame : fields=fields' := Except.ok.inj (hfields.symm.trans hfields')
  obtain ⟨value,hvalue,htenant⟩ := Invoice.tenantId_of_modelValidate lib hvalid
  rw [get_filled_tenantId,← hsame,hnone] at hvalue
  have hgiven : value=.str ctx.tenantId := by
    simpa using hvalue.symm
  rw [hgiven,entityId_of_valid ctx.tenant_entity] at htenant
  exact (Option.some.inj htenant).symm

theorem handed_of_valid {i : SchemaInput createInvoiceSchema} {invoice : Invoice}
    {tenantId : EntityId} (ctx : ToolContext) (hfields : invoiceOf i.input=.ok fields)
    (hgiven : get fields "tenant_id"≠none)
    (hvalid : Invoice.modelValidate lib (filled fields tenantId w)=some invoice) :
    .invoice invoice∈(runCall lib (.createInvoice i) ctx {w with driver := .ok ()}).handedOver := by
  obtain ⟨value,hvalue⟩ := Option.ne_none_iff_exists'.mp hgiven
  have hfilled : filled fields ctx.tenantId {w with driver := .ok ()}=filled fields tenantId w :=
    filled_of_given hvalue _ _ _
  simp only [runCall,createInvoice,hfields,hfilled,hvalid,handedOver_handOver]
  rfl

end Handlers

/-- Two tenants. -/
def acme : EntityId := "11111111-1111-7111-8111-111111111111"

def globex : EntityId := "22222222-2222-7222-8222-222222222222"

/-- The context of a tenant's accountant. -/
def deskContext (tenantId : EntityId) (h : isEntityId tenantId=true) : TenantContext where
  tenantId := tenantId
  actorId := "33333333-3333-7333-8333-333333333333"
  actorKind := .human
  sessionId := "44444444-4444-7444-8444-444444444444"
  turnId := "t-000000000001"
  actorRole := "accountant"
  tenant_entity := h

def acmeContext : TenantContext := deskContext acme (by decide)

def globexContext : TenantContext := deskContext globex (by decide)

/-- The records of an input carry the tenant of the context exactly when the input is a journal
entry, or an invoice that names no tenant or never validates. -/
theorem tenantBound_iff (lib : FinanceLibrary) (call : RecordCall) :
    TenantBound lib call ↔ KeepsTenant lib call := by
  constructor
  · intro hbound
    cases call with
    | postJournalEntry i => trivial
    | createInvoice i =>
      intro fields hfields
      by_contra hcon
      rw [not_or] at hcon
      obtain ⟨hgiven,hsome⟩ := hcon
      push Not at hsome
      obtain ⟨tenantId,w,hw⟩ := hsome
      obtain ⟨invoice,hvalid⟩ := Option.ne_none_iff_exists'.mp hw
      -- one and the same record is handed over for both tenants
      have hacme := hbound.own acmeContext _ _
        (handed_of_valid acmeContext.toToolContext hfields hgiven hvalid)
      have hglobex := hbound.own globexContext _ _
        (handed_of_valid globexContext.toToolContext hfields hgiven hvalid)
      have hsame : acmeContext.tenantId=globexContext.tenantId := hacme.symm.trans hglobex
      exact absurd hsame (by decide)
  · intro hkeeps
    have hown : ∀ (ctx : TenantContext) (w : World),
        ∀ record∈(runCall lib call ctx.toToolContext w).handedOver,
        record.tenantId=ctx.tenantId := by
      intro ctx w record hrecord
      cases call with
      | postJournalEntry i => exact postJournalEntry_tenantId hrecord
      | createInvoice i =>
        obtain ⟨fields,_,hfields,hvalid,-⟩ := createInvoice_handedOver hrecord
        rcases hkeeps fields hfields with hnone|hnever
        · exact createInvoice_tenantId hfields hnone hrecord
        · rw [hnever] at hvalid
          cases hvalid
    refine ⟨hown,fun ctx ctx' w w' hne record hr record' hr' heq => hne ?_⟩
    rw [← hown ctx w record hr,heq,hown ctx' w' record' hr']

theorem firstOfMay : IsDate 2026 5 1 := by decide

/-- The readings of one amount and one date. -/
def deskLibrary : FinanceLibrary where
  decimal := fun text => if text="100.00" then .finite ⟨10000,-2⟩ else .malformed
  decimalField := fun _ => none
  intField := fun _ => none
  dateField := fun value => if value=.str "2026-05-01" then some ⟨2026,5,1,firstOfMay⟩ else none
  datetimeField := fun _ => none
  fromIsoFormat := fun text =>
    if text="2026-05-01" then .ok ⟨2026,5,1,firstOfMay⟩ else .error text

/-- An amount of the sample. -/
def hundredRupees : Json := .obj [("amount",.str "100.00"),("currency",.str "INR")]

/-- An invoice that names another tenant. -/
def smuggledFields : Dict :=
  [("invoice_number",.str "INV-1"),("client_id",.str "55555555-5555-7555-8555-555555555555"),
   ("issue_date",.str "2026-05-01"),("currency",.str "INR"),
   ("lines",.arr [.obj [("description",.str "fare"),("unit_price",hundredRupees),
     ("subtotal",hundredRupees),("total",hundredRupees)]]),
   ("subtotal",hundredRupees),("tax_total",hundredRupees),("grand_total",hundredRupees),
   ("billing_address",.obj [("country",.str "IN"),("line1",.str "MG Road"),("city",.str "Pune")]),
   ("tenant_id",.str globex)]

def smuggledInvoice : SchemaInput createInvoiceSchema where
  input := [("invoice",.obj smuggledFields)]
  valid := by decide +kernel

def deskWorld : World where
  uuid7 := "66666666-6666-7666-8666-666666666666"
  now := 0
  today := ⟨2026,5,1,firstOfMay⟩
  errorText := ""
  answer := .returned "ledger-1"

/-- For a context of one tenant the driver is handed an invoice of another. -/
theorem smuggled_invoice_handed_over :
    (runCall deskLibrary (.createInvoice smuggledInvoice) acmeContext.toToolContext
      deskWorld).handedOver.map CanonicalRecord.tenantId=some globex ∧
    acmeContext.tenantId≠globex ∧
    ¬TenantBound deskLibrary (.createInvoice smuggledInvoice) := by
  have hrun : (runCall deskLibrary (.createInvoice smuggledInvoice) acmeContext.toToolContext
      deskWorld).handedOver.map CanonicalRecord.tenantId=some globex := by decide +kernel
  have hne : acmeContext.tenantId≠globex := by decide
  refine ⟨hrun,hne,fun hbound => ?_⟩
  obtain ⟨record,hrecord,htenant⟩ := Option.map_eq_some_iff.mp hrun
  exact hne ((hbound.own acmeContext deskWorld record hrecord).symm.trans htenant)

end Voyagent.RecordTenants
