import Voyagent.AgingReport
import Voyagent.DecimalTexts
import Voyagent.TransitionRuns

/-!
# Drafting invoices

The `draft_invoice` tool: the checks of its input, the number it chooses from
the numbers it reads, and the insert it commits. Calls read and commit in any
order; the database keeps numbers of a tenant distinct, so a number that was
taken in between is reported and not stored.
-/

namespace Voyagent.InvoiceDrafts

open RuntimeValues CalendarDates Decimals DecimalTexts AmountColumns AgingReport PythonNumbers
open TransitionRuns

/-! ## The input and the table -/

structure LineItem where
  quantity : Int
  unitPrice : String
  currency : String
  deriving DecidableEq

/-- The input, which its schema has validated. -/
structure DraftInput where
  customerName : String
  partyReference : Option String := none
  issueDate : String
  dueDate : String
  lineItems : List LineItem
  number : Option String := none

/-- A call: the tenant of its context and the input. -/
structure DraftCall where
  tenantId : String
  input : DraftInput

structure InvoiceRow (υ : Type) where
  id : υ
  tenantId : υ
  number : String
  partyName : String
  partyReference : Option String
  issueDate : CalendarDate
  dueDate : CalendarDate
  totalAmount : PyDecimal
  currency : String
  amountPaid : Decimal := noAmount
  status : InvoiceStatus := .draft
  deriving DecidableEq

/-- What the database keeps distinct. -/
def InvoiceRow.key {υ : Type} (row : InvoiceRow υ) : υ × String := (row.tenantId,row.number)

/-- What the tool uses of Python. -/
structure DraftLibrary (υ : Type) where
  /-- `uuid.UUID`. -/
  uuid : String → Option υ
  /-- `date.fromisoformat`, or the text of its `ValueError`. -/
  fromIsoFormat : String → Except String CalendarDate
  repr : String → String

/-! ## The result -/

/-- How a call ends that drafts nothing. -/
inductive Failure where
  /-- `drafted: False`. -/
  | refused (errorCode detail : String)
  /-- An exception leaves the handler. -/
  | raised (typeName : String)
  deriving DecidableEq

inductive DraftResult (υ : Type) where
  | drafted (invoiceId : υ) (number totalAmount currency : String)
  | failed (f : Failure)
  deriving DecidableEq

section Checks

variable {υ : Type} [DecidableEq υ] (lib : DraftLibrary υ)

/-- `str.upper` of an ASCII text, which currencies and identifiers are. -/
def upper (s : String) : String := String.ofList (s.toList.map Char.toUpper)

/-- The set of currencies. -/
def currencies (items : List LineItem) : List String :=
  (items.map fun li => upper li.currency).dedup

/-- The result of an operation on decimals, or its exception. -/
def orInvalid {α : Type} (result : Option α) : Except Failure α :=
  result.elim (.error (.raised "InvalidOperation")) .ok

/-- One turn of the loop over the line items. -/
def addLineItem (total : PyDecimal) (li : LineItem) : Except Failure PyDecimal := do
  let price ← orInvalid (decimalOfText li.unitPrice)
  let amount ← orInvalid (PyDecimal.mul (.finite ⟨li.quantity,0⟩) price)
  let sum ← orInvalid (total.add amount)
  orInvalid (sum.quantize hundredths)

/-- The one currency of the items. -/
def oneCurrency (items : List LineItem) : Except Failure String :=
  match currencies items with
  | [] => .error (.raised "KeyError")
  | [c] => .ok c
  | cs => .error (.refused "mixed_currency" ("All line items must share one currency; got ["++
      joinWith ", " ((cs.mergeSort fun a b => decide (a≤b)).map lib.repr)++"]."))

def isoDate (text : String) : Except Failure CalendarDate :=
  match lib.fromIsoFormat text with
  | .ok d => .ok d
  | .error detail => .error (.refused "invalid_date" detail)

/-- What the checks before the database make of a call. -/
structure Draft (υ : Type) where
  tenant : υ
  total : PyDecimal
  currency : String
  issueDate : CalendarDate
  dueDate : CalendarDate

def checkInput (call : DraftCall) : Except Failure (Draft υ) := do
  let currency ← oneCurrency lib call.input.lineItems
  let total ← call.input.lineItems.foldlM addLineItem (.finite noAmount)
  let issueDate ← isoDate lib call.input.issueDate
  let dueDate ← isoDate lib call.input.dueDate
  match lib.uuid call.tenantId with
  | some tenant => return ⟨tenant,total,currency,issueDate,dueDate⟩
  | none => .error (.raised "ValueError")

/-! ## The number -/

/-- `INV-<TENANT8>-`. -/
def autoStem (tenantId : String) : List Char :=
  "INV-".toList++((tenantId.toList.filter (· ≠ '-')).take 8).map Char.toUpper++['-']

/-- The sequence of an automatic number: digits to the end, before which one
newline may stand. -/
def sequenceOf (stem : List Char) (number : String) : Option Nat :=
  if stem.isPrefixOf number.toList=true then
    let rest := number.toList.drop stem.length
    let digits := if rest.getLast? = some '\n' then rest.dropLast else rest
    if digits≠[] ∧ digits.all (fun c => (decimalValue c).isSome)=true then natOfDigits digits else none
  else none

/-- `f"{prefix}{n:04d}"`. -/
def numberText (stem : List Char) (n : Nat) : String :=
  let digits := Nat.toDigits 10 n
  String.ofList (stem++List.replicate (4-digits.length) '0'++digits)

/-- The numbers of a tenant. -/
def numbersOf (rows : List (InvoiceRow υ)) (tenant : υ) : List String :=
  (rows.filter fun row => decide (row.tenantId=tenant)).map InvoiceRow.number

/-- The number after the largest the tenant has of the automatic shape. -/
def nextNumber (tenantId : String) (numbers : List String) : String :=
  let stem := autoStem tenantId
  numberText stem ((numbers.filterMap (sequenceOf stem)).foldl max 0+1)

def conflict (detail : String) : Failure := .refused "invoice_number_conflict" detail

/-- The number of a call, from what it reads; an empty one counts as none. -/
def chooseNumber (rows : List (InvoiceRow υ)) (call : DraftCall) (tenant : υ) :
    Except Failure String :=
  match call.input.number.filter fun n => decide (n≠"") with
  | some number =>
    if number∈numbersOf rows tenant then
      .error (conflict ("Invoice number "++lib.repr number++" already exists for this tenant."))
    else .ok number
  | none => .ok (nextNumber call.tenantId (numbersOf rows tenant))

/-- The row a call adds under the identifier its flush draws. -/
def draftRow (rows : List (InvoiceRow υ)) (call : DraftCall) (id : υ) :
    Except Failure (InvoiceRow υ) := do
  let draft ← checkInput lib call
  let number ← chooseNumber lib rows call draft.tenant
  return {
    id := id
    tenantId := draft.tenant
    number := number
    partyName := call.input.customerName
    partyReference := call.input.partyReference
    issueDate := draft.issueDate
    dueDate := draft.dueDate
    totalAmount := draft.total
    currency := draft.currency }

/-! ## The insert -/

inductive InsertError where
  /-- `IntegrityError`. -/
  | integrity
  | other (typeName : String)
  deriving DecidableEq

/-- What the amount column keeps of a total: a NaN as well, but no infinity. -/
def fitsTotal : PyDecimal → Prop
  | .finite d => fitsAmount d
  | .nan => True
  | _ => False

instance (total : PyDecimal) : Decidable (fitsTotal total) := by
  unfold fitsTotal
  cases total <;> infer_instance

/-- The column types. -/
def fitsColumns (row : InvoiceRow υ) : Prop :=
  row.number.length≤64 ∧ row.partyName.length≤255 ∧
    (∀ reference∈row.partyReference,reference.length≤128) ∧ fitsTotal row.totalAmount ∧
    row.currency.length≤3

instance (row : InvoiceRow υ) : Decidable (fitsColumns row) := by
  unfold fitsColumns
  infer_instance

/-- A row is inserted unless its key or its number is taken, or a column does not fit. -/
def insertInvoice (rows : List (InvoiceRow υ)) (row : InvoiceRow υ) :
    Except InsertError (List (InvoiceRow υ)) :=
  if ¬fitsColumns row then .error (.other "DBAPIError")
  else if rows.any (fun r => decide (r.id=row.id) || decide (r.key=row.key))=true then .error .integrity
  else .ok (rows++[row])

/-- What a commit that failed is reported as. -/
def failedInsert (number : String) : InsertError → Failure
  | .integrity => conflict ("Concurrent write — invoice number "++lib.repr number++
      " was taken before this insert committed.")
  | .other typeName => .raised typeName

/-! ## Calls that interleave -/

inductive Stage (υ : Type) where
  | idle
  /-- Chose its number. -/
  | adding (row : InvoiceRow υ)
  | ended (result : DraftResult υ)

/-- The table, the calls, and which call committed which row. -/
structure World (υ : Type) where
  invoices : List (InvoiceRow υ)
  stages : Nat → Stage υ := fun _ => .idle
  commits : List (Nat × InvoiceRow υ) := []

inductive Act (υ : Type) where
  /-- Check the input and read the numbers. -/
  | read (r : Nat) (id : υ)
  /-- Commit, unless the database fails for another reason. -/
  | commit (r : Nat) (fault : Option InsertError)

def World.set (w : World υ) (r : Nat) (st : Stage υ) : World υ :=
  {w with stages := Function.update w.stages r st}

/-- The insert of a call and what it returns. -/
def commitRow (w : World υ) (r : Nat) (row : InvoiceRow υ) (fault : Option InsertError) : World υ :=
  match fault with
  | some e => w.set r (.ended (.failed (failedInsert lib row.number e)))
  | none =>
    match insertInvoice w.invoices row with
    | .error e => w.set r (.ended (.failed (failedInsert lib row.number e)))
    | .ok rows =>
      {w.set r (.ended (.drafted row.id row.number row.totalAmount.text row.currency)) with
        invoices := rows
        commits := w.commits++[(r,row)]}

/-- One step of the calls. -/
def step (calls : Nat → DraftCall) (w : World υ) : Act υ → Option (World υ)
  | .read r id =>
    match w.stages r with
    | .idle =>
      match draftRow lib w.invoices (calls r) id with
      | .ok row => some (w.set r (.adding row))
      | .error f => some (w.set r (.ended (.failed f)))
    | _ => none
  | .commit r fault =>
    match w.stages r with
    | .adding row => some (commitRow lib w r row fault)
    | _ => none

def Step (calls : Nat → DraftCall) : World υ → Act υ → World υ → Prop := ofPartial (step lib calls)

/-- The rows a call committed. -/
def committedBy (w : World υ) (r : Nat) : List (InvoiceRow υ) :=
  (w.commits.filter fun c => decide (c.1=r)).map Prod.snd

end Checks

/-! ## What is reported and what is stored -/

section Facts

set_option linter.unusedSectionVars false

variable {υ : Type} [DecidableEq υ] {lib : DraftLibrary υ} {calls : Nat → DraftCall}
  {rows rows' rows₀ : List (InvoiceRow υ)} {row : InvoiceRow υ} {w w' : World υ} {a : Act υ}
  {r : Nat} {st : Stage υ}

/-- The call reported that it drafted an invoice. -/
def Stage.reportsDraft : Stage υ → Bool
  | .ended (.drafted _ _ _ _) => true
  | _ => false

/-- The report and the table agree: numbers are distinct, a call that reports a
draft has committed one invoice of its tenant with the number it reports, and no
other call has committed any. -/
structure Agreement (lib : DraftLibrary υ) (calls : Nat → DraftCall) (rows₀ : List (InvoiceRow υ))
    (w : World υ) : Prop where
  distinct : (w.invoices.map InvoiceRow.key).Nodup
  stored : w.invoices=rows₀++w.commits.map Prod.snd
  drafted : ∀ r id number total currency,w.stages r=.ended (.drafted id number total currency) →
    ∃ row,committedBy w r=[row] ∧ row.id=id ∧ row.number=number ∧
      lib.uuid (calls r).tenantId=some row.tenantId
  otherwise : ∀ r,(w.stages r).reportsDraft=false → committedBy w r=[]

/-- What a call has committed, by its stage. -/
def StageFact (lib : DraftLibrary υ) (call : DraftCall) (committed : List (InvoiceRow υ)) :
    Stage υ → Prop
  | .idle => committed=[]
  | .adding row => committed=[] ∧ lib.uuid call.tenantId=some row.tenantId
  | .ended (.drafted id number _ _) => ∃ row,committed=[row] ∧ row.id=id ∧ row.number=number ∧
      lib.uuid call.tenantId=some row.tenantId
  | .ended _ => committed=[]

/-- Known in every state reached. -/
structure Facts (lib : DraftLibrary υ) (calls : Nat → DraftCall) (rows₀ : List (InvoiceRow υ))
    (w : World υ) : Prop where
  distinct : (w.invoices.map InvoiceRow.key).Nodup
  stored : w.invoices=rows₀++w.commits.map Prod.snd
  stages : ∀ r,StageFact lib (calls r) (committedBy w r) (w.stages r)

/-- The row of a call belongs to its tenant. -/
theorem draftRow_tenant {call : DraftCall} {id : υ} (h : draftRow lib rows call id=.ok row) :
    lib.uuid call.tenantId=some row.tenantId := by
  unfold draftRow at h
  obtain ⟨draft,hdraft,h⟩ := FallibleResults.bind_ok.mp h
  obtain ⟨number,-,h⟩ := FallibleResults.bind_ok.mp h
  cases h
  unfold checkInput at hdraft
  obtain ⟨currency,-,hdraft⟩ := FallibleResults.bind_ok.mp hdraft
  obtain ⟨total,-,hdraft⟩ := FallibleResults.bind_ok.mp hdraft
  obtain ⟨issueDate,-,hdraft⟩ := FallibleResults.bind_ok.mp hdraft
  obtain ⟨dueDate,-,hdraft⟩ := FallibleResults.bind_ok.mp hdraft
  split at hdraft
  · rename_i tenant htenant
    cases hdraft
    exact htenant
  · cases hdraft

/-- A row that is inserted is added at the end, and its number is new. -/
theorem insertInvoice_ok (h : insertInvoice rows row=.ok rows') :
    rows'=rows++[row] ∧ row.key∉rows.map InvoiceRow.key := by
  unfold insertInvoice at h
  split at h
  · cases h
  · split at h
    · cases h
    · rename_i hfree
      cases h
      refine ⟨rfl,fun hmem => hfree ?_⟩
      obtain ⟨r,hr,hkey⟩ := List.mem_map.mp hmem
      exact List.any_eq_true.mpr ⟨r,hr,by simp [hkey]⟩

theorem facts_start (h : (rows.map InvoiceRow.key).Nodup) :
    Facts lib calls rows {invoices := rows} :=
  ⟨h,(List.append_nil rows).symm,fun _ => rfl⟩

/-- What has been committed by calls when one commits a row. -/
theorem committedBy_commit (i : Nat) :
    committedBy {w.set r st with invoices := rows,commits := w.commits++[(r,row)]} i=
      committedBy w i++(if r=i then [row] else []) := by
  unfold committedBy
  rw [List.filter_append,List.map_append]
  by_cases h : r=i <;> simp [h]

/-- A call moves on without a commit. -/
theorem Facts.set (h : Facts lib calls rows₀ w) (st : Stage υ)
    (hst : StageFact lib (calls r) (committedBy w r) st) : Facts lib calls rows₀ (w.set r st) := by
  refine ⟨h.distinct,h.stored,fun i => ?_⟩
  change StageFact lib (calls i) (committedBy w i) (Function.update w.stages r st i)
  by_cases hi : i=r
  · subst hi
    rw [Function.update_self]
    exact hst
  · rw [Function.update_of_ne hi]
    exact h.stages i

/-- The commit of a call. -/
theorem Facts.commitRow (h : Facts lib calls rows₀ w) (hst : w.stages r=.adding row)
    (fault : Option InsertError) : Facts lib calls rows₀ (commitRow lib w r row fault) := by
  obtain ⟨hnone,htenant⟩ : StageFact lib (calls r) (committedBy w r) (.adding row) :=
    hst ▸ h.stages r
  have hfailed : ∀ e,Facts lib calls rows₀ (w.set r (.ended (.failed (failedInsert lib row.number e)))) := by
    exact fun e => h.set (.ended (.failed (failedInsert lib row.number e))) hnone
  unfold InvoiceDrafts.commitRow
  split
  · exact hfailed _
  · split
    · exact hfailed _
    · rename_i rows' hinsert
      obtain ⟨rfl,hfree⟩ := insertInvoice_ok hinsert
      refine ⟨?_,?_,fun i => ?_⟩
      · rw [List.map_append]
        refine List.nodup_append.mpr ⟨h.distinct,List.pairwise_singleton _ _,?_⟩
        rintro k hk _ hmem rfl
        rw [List.mem_singleton.mp hmem] at hk
        exact hfree hk
      · change w.invoices++[row]=rows₀++(w.commits++[(r,row)]).map Prod.snd
        rw [h.stored,List.map_append,List.append_assoc]
        rfl
      · rw [committedBy_commit]
        change StageFact lib (calls i) _ (Function.update w.stages r _ i)
        by_cases hi : i=r
        · subst hi
          rw [Function.update_self,if_pos rfl,hnone]
          exact ⟨row,rfl,rfl,rfl,htenant⟩
        · rw [Function.update_of_ne hi,if_neg (Ne.symm hi),List.append_nil]
          exact h.stages i

theorem facts_step (h : Facts lib calls rows₀ w) (hs : Step lib calls w a w') :
    Facts lib calls rows₀ w' := by
  unfold Step ofPartial step at hs
  cases a with
  | read r id =>
    dsimp only at hs
    split at hs
    · rename_i hst
      have hnone : StageFact lib (calls r) (committedBy w r) .idle := hst ▸ h.stages r
      split at hs
      · rename_i row hrow
        cases hs
        exact h.set _ ⟨hnone,draftRow_tenant hrow⟩
      · rename_i f _
        cases hs
        exact h.set (.ended (.failed f)) hnone
    · cases hs
  | commit r fault =>
    dsimp only at hs
    split at hs
    · rename_i row hst
      cases hs
      exact h.commitRow hst fault
    · cases hs

/-- For every interleaving of calls, with whatever numbers they start from, the
numbers of a tenant stay distinct, and what is stored is what is reported. -/
theorem drafts_agree (lib : DraftLibrary υ) (calls : Nat → DraftCall) (rows : List (InvoiceRow υ))
    (hrows : (rows.map InvoiceRow.key).Nodup) (as : List (Act υ)) (w : World υ)
    (hrun : Run (Step lib calls) {invoices := rows} as w) : Agreement lib calls rows w := by
  have hfacts : Facts lib calls rows w := hrun.invariant (facts_start hrows) fun _ _ _ => facts_step
  refine ⟨hfacts.distinct,hfacts.stored,fun r id number total currency hst => ?_,fun r hst => ?_⟩
  · have hr := hfacts.stages r
    rw [hst] at hr
    exact hr
  · have hr := hfacts.stages r
    cases hs : w.stages r with
    | idle => rw [hs] at hr; exact hr
    | adding row => rw [hs] at hr; exact hr.1
    | ended result =>
      rw [hs] at hr hst
      cases result with
      | drafted id number total currency => cases hst
      | failed f => exact hr

/-- The reading of one date. -/
def deskLibrary : DraftLibrary String where
  uuid := some
  fromIsoFormat := fun text =>
    if text="2026-09-01" then .ok ⟨2026,9,1,by decide⟩ else .error ("Invalid isoformat string: "++text)
  repr := fun text => "'"++text++"'"

/-- A call that leaves the number to the tool. -/
def deskCall : DraftCall where
  tenantId := "ab12cd34-0000"
  input := {
    customerName := "Ravi"
    issueDate := "2026-09-01"
    dueDate := "2026-09-01"
    lineItems := [⟨1,"12500.00","INR"⟩] }

/-- Two calls choose the same number; the second one stores nothing and says so. -/
theorem drafts_agree_racing :
    ∃ w,Run (Step deskLibrary fun _ => deskCall) {invoices := []}
        [.read 0 "first",.read 1 "second",.commit 0 none,.commit 1 none] w ∧
      w.invoices.map InvoiceRow.number=["INV-AB12CD34-0001"] ∧
      Agreement deskLibrary (fun _ => deskCall) [] w := by
  have hrun : Run (Step deskLibrary fun _ => deskCall) {invoices := []}
      [.read 0 "first",.read 1 "second",.commit 0 none,.commit 1 none] _ := run_of_foldlM rfl
  exact ⟨_,hrun,rfl,drafts_agree deskLibrary _ [] .nil _ _ hrun⟩

end Facts

end Voyagent.InvoiceDrafts
