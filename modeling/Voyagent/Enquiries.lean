import Voyagent.ApprovalResolution
import Voyagent.AuthEndpoints
import Voyagent.JournalPosting

/-!
# Customer enquiries

The rows of `enquiries`, the bodies that create and patch them, and the checks
of the endpoints. Bodies have passed their request models; a PATCH field is
absent, an explicit null or a value.
-/

namespace Voyagent.Enquiries

open RuntimeValues ToolInvocation CalendarDates Decimals AmountColumns FallibleResults
open JournalPosting (maxInteger)
open ApprovalResolution (changed)
open AuthEndpoints (HttpError)

/-! ## The tables -/

/-- `EnquiryStatusEnum`. -/
inductive EnquiryStatus where
  | new | quoted | booked | cancelled
  deriving DecidableEq

def EnquiryStatus.value : EnquiryStatus → String
  | .new => "new"
  | .quoted => "quoted"
  | .booked => "booked"
  | .cancelled => "cancelled"

/-- `_TERMINAL_STATUSES`. -/
def EnquiryStatus.isTerminal : EnquiryStatus → Bool
  | .booked | .cancelled => true
  | .new | .quoted => false

/-- `_OPEN_STATUSES`. -/
def EnquiryStatus.isOpen : EnquiryStatus → Bool
  | .new | .quoted => true
  | .booked | .cancelled => false

theorem EnquiryStatus.isOpen_eq_not (st : EnquiryStatus) : st.isOpen=!st.isTerminal := by
  cases st <;> rfl

structure EnquiryRow (υ : Type) where
  id : υ
  tenantId : υ
  createdByUserId : υ
  customerName : String
  customerEmail : Option String := none
  customerPhone : Option String := none
  origin : Option String := none
  destination : Option String := none
  departDate : Option CalendarDate := none
  returnDate : Option CalendarDate := none
  paxCount : Int := 1
  budgetAmount : Option Decimal := none
  budgetCurrency : Option String := none
  status : EnquiryStatus := .new
  notes : Option String := none
  /-- Soft link to a chat session, without a foreign key. -/
  sessionId : Option υ := none
  createdAt : Time
  updatedAt : Time
  deriving DecidableEq

/-- A row of `sessions`, with the columns a promotion sets. -/
structure SessionRow (υ : Type) where
  id : υ
  tenantId : υ
  actorId : Option υ
  actorKind : ActorKind
  deriving DecidableEq

/-! ## The requests -/

/-- The verified caller. -/
structure Principal where
  userId : String
  tenantId : String
  deriving DecidableEq

structure EnquiryCreateRequest where
  customerName : String
  customerEmail : Option String := none
  customerPhone : Option String := none
  origin : Option String := none
  destination : Option String := none
  departDate : Option CalendarDate := none
  returnDate : Option CalendarDate := none
  paxCount : Int := 1
  budgetAmount : Option Decimal := none
  budgetCurrency : Option String := none
  status : EnquiryStatus := .new
  notes : Option String := none
  sessionId : Option String := none

/-- A field of a dump without unset fields: omitted, null or a value. -/
abbrev Field (α : Type) : Type := Option (Option α)

/-- The body of a PATCH; omitted fields leave their columns alone. -/
structure EnquiryPatchRequest where
  customerName : Field String := none
  customerEmail : Field String := none
  customerPhone : Field String := none
  origin : Field String := none
  destination : Field String := none
  departDate : Field CalendarDate := none
  returnDate : Field CalendarDate := none
  paxCount : Field Int := none
  budgetAmount : Field Decimal := none
  budgetCurrency : Field String := none
  status : Field EnquiryStatus := none
  notes : Field String := none
  sessionId : Field String := none

/-! ## The checks -/

/-- Three uppercase ASCII letters. -/
def validateCurrency (code : Option String) : Except HttpError Unit :=
  match code with
  | none => .ok ()
  | some code =>
    if code.length=3 ∧ code.toList.all Char.isUpper=true then .ok ()
    else .error ⟨400,"invalid_currency"⟩

def validateDateRange (depart return_ : Option CalendarDate) : Except HttpError Unit :=
  match depart,return_ with
  | some d,some r => if r.ordinal<d.ordinal then .error ⟨400,"invalid_date_range"⟩ else .ok ()
  | _,_ => .ok ()

def validatePax (pax : Option Int) : Except HttpError Unit :=
  match pax with
  | none => .ok ()
  | some n => if n<1 then .error ⟨400,"invalid_pax_count"⟩ else .ok ()

/-- Block re-opening a terminal enquiry. -/
def validateStatusTransition (existing next : EnquiryStatus) : Except HttpError Unit :=
  if existing.isTerminal=true ∧ next.isOpen=true then .error ⟨400,"invalid_status_transition"⟩
  else .ok ()

section Reading

variable {υ : Type} [DecidableEq υ] (parse : String → Option υ)

def tenantUuid (p : Principal) : Except HttpError υ :=
  match parse p.tenantId with
  | some t => .ok t
  | none => .error ⟨401,"unauthorized"⟩

def userUuid (p : Principal) : Except HttpError υ :=
  match parse p.userId with
  | some u => .ok u
  | none => .error ⟨401,"unauthorized"⟩

def parseEnquiryId (raw : String) : Except HttpError υ :=
  match parse raw with
  | some e => .ok e
  | none => .error ⟨404,"enquiry_not_found"⟩

def parseSessionIdOrNone (raw : Option String) : Except HttpError (Option υ) :=
  match raw with
  | none => .ok none
  | some raw =>
    match parse raw with
    | some s => .ok (some s)
    | none => .error ⟨422,"invalid_session_id"⟩

/-- The row with a primary key. -/
def findEnquiry (rows : List (EnquiryRow υ)) (id : υ) : Option (EnquiryRow υ) :=
  rows.find? fun row => decide (row.id=id)

def loadOwnedEnquiry (rows : List (EnquiryRow υ)) (enquiry tenant : υ) :
    Except HttpError (EnquiryRow υ) :=
  match findEnquiry rows enquiry with
  | some row => if row.tenantId=tenant then .ok row else .error ⟨404,"enquiry_not_found"⟩
  | none => .error ⟨404,"enquiry_not_found"⟩

/-! ## Creating and patching -/

/-- The row `create_enquiry` adds, under the identifier its flush draws. -/
def createRow (p : Principal) (body : EnquiryCreateRequest) (id : υ) (now : Time) :
    Except HttpError (EnquiryRow υ) := do
  let tenant ← tenantUuid parse p
  let user ← userUuid parse p
  validateCurrency body.budgetCurrency
  validateDateRange body.departDate body.returnDate
  validatePax (some body.paxCount)
  let session ← parseSessionIdOrNone parse body.sessionId
  return {
    id := id
    tenantId := tenant
    createdByUserId := user
    customerName := body.customerName
    customerEmail := body.customerEmail
    customerPhone := body.customerPhone
    origin := body.origin
    destination := body.destination
    departDate := body.departDate
    returnDate := body.returnDate
    paxCount := body.paxCount
    budgetAmount := body.budgetAmount
    budgetCurrency := body.budgetCurrency
    status := body.status
    notes := body.notes
    sessionId := session
    createdAt := now
    updatedAt := now }

/-- The value a field gives a column that is not null. -/
def required {α : Type} (name : String) (old : α) : Field α → Except HttpError α
  | none => .ok old
  | some none => .error ⟨422,name++"_cannot_be_null"⟩
  | some (some value) => .ok value

/-- The status after a PATCH, checked against the loaded one. -/
def patchedStatus (old : EnquiryStatus) (field : Field EnquiryStatus) :
    Except HttpError EnquiryStatus :=
  match field with
  | some (some next) => do
    validateStatusTransition old next
    return next
  | field => required "status" old field

/-- The link after a PATCH; an explicit null clears it. -/
def patchedSession (old : Option υ) (field : Field String) : Except HttpError (Option υ) :=
  match field with
  | none => .ok old
  | some raw => parseSessionIdOrNone parse raw

/-- The copy `patch_enquiry` commits, from the row it loaded. -/
def patchRow (row : EnquiryRow υ) (body : EnquiryPatchRequest) : Except HttpError (EnquiryRow υ) := do
  -- final values for cross-field validation
  validateCurrency (body.budgetCurrency.getD row.budgetCurrency)
  validateDateRange (body.departDate.getD row.departDate) (body.returnDate.getD row.returnDate)
  validatePax (body.paxCount.getD (some row.paxCount))
  let status ← patchedStatus row.status body.status
  let customerName ← required "customer_name" row.customerName body.customerName
  let paxCount ← required "pax_count" row.paxCount body.paxCount
  let sessionId ← patchedSession parse row.sessionId body.sessionId
  return {row with
    customerName := customerName
    customerEmail := body.customerEmail.getD row.customerEmail
    customerPhone := body.customerPhone.getD row.customerPhone
    origin := body.origin.getD row.origin
    destination := body.destination.getD row.destination
    departDate := body.departDate.getD row.departDate
    returnDate := body.returnDate.getD row.returnDate
    paxCount := paxCount
    budgetAmount := body.budgetAmount.getD row.budgetAmount
    budgetCurrency := body.budgetCurrency.getD row.budgetCurrency
    status := status
    notes := body.notes.getD row.notes
    sessionId := sessionId }

/-! ## What the database stores -/

/-- A number as a `Numeric(14,2)` column stores it: two places, ties away from zero. -/
def storedAmount (d : Decimal) : Option Decimal :=
  let k := (hundredths-d.exponent).toNat
  let c := if hundredths≤d.exponent then d.coefficientAt hundredths
    else d.coefficient.sign*((2*d.coefficient.natAbs+10^k)/(2*10^k) : Nat)
  if c.natAbs<10^14 then some ⟨c,hundredths⟩ else none

/-- The columns of a row as they are stored, unless a number does not fit. -/
def storedRow (row : EnquiryRow υ) : Option (EnquiryRow υ) :=
  if row.paxCount.natAbs≤ maxInteger then
    match row.budgetAmount with
    | none => some row
    | some d => (storedAmount d).map fun d' => {row with budgetAmount := some d'}
  else none

/-- Budgets compare by value. -/
def changedBudget (loaded target old : Option Decimal) : Option Decimal :=
  match loaded,target with
  | some a,some b => if a.beq b then old else target
  | none,none => old
  | _,_ => target

/-- The committed row after the update of a loaded copy: only the columns that
were changed in the copy are written. -/
def updatedRow (loaded target row : EnquiryRow υ) : Option (EnquiryRow υ) :=
  storedRow {row with
    customerName := changed loaded.customerName target.customerName row.customerName
    customerEmail := changed loaded.customerEmail target.customerEmail row.customerEmail
    customerPhone := changed loaded.customerPhone target.customerPhone row.customerPhone
    origin := changed loaded.origin target.origin row.origin
    destination := changed loaded.destination target.destination row.destination
    departDate := changed loaded.departDate target.departDate row.departDate
    returnDate := changed loaded.returnDate target.returnDate row.returnDate
    paxCount := changed loaded.paxCount target.paxCount row.paxCount
    budgetAmount := changedBudget loaded.budgetAmount target.budgetAmount row.budgetAmount
    budgetCurrency := changed loaded.budgetCurrency target.budgetCurrency row.budgetCurrency
    status := changed loaded.status target.status row.status
    notes := changed loaded.notes target.notes row.notes
    sessionId := changed loaded.sessionId target.sessionId row.sessionId }

/-- The table with a row in place of the one with its key. -/
def replaceRow (rows : List (EnquiryRow υ)) (row : EnquiryRow υ) : List (EnquiryRow υ) :=
  rows.map fun r => if r.id=row.id then row else r

end Reading

/-! ## What the checks let through -/

/-- Neither date is set without the other being absent or in order with it. -/
def InOrder (depart return_ : Option CalendarDate) : Prop :=
  ∀ d∈depart,∀ r∈return_,d.ordinal≤r.ordinal

def EnquiryRow.Ordered {υ : Type} (row : EnquiryRow υ) : Prop := InOrder row.departDate row.returnDate

theorem validateDateRange_ok {depart return_ : Option CalendarDate} {u : Unit} :
    validateDateRange depart return_=.ok u ↔ InOrder depart return_ := by
  unfold InOrder
  cases depart with
  | none => exact iff_of_true rfl fun d hd => (by cases hd)
  | some d =>
    cases return_ with
    | none => exact iff_of_true rfl fun _ _ r hr => (by cases hr)
    | some r =>
      unfold validateDateRange
      dsimp only
      constructor
      · intro h d' hd r' hr
        cases hd
        cases hr
        split at h
        · cases h
        · rename_i hlt
          exact Nat.not_lt.mp hlt
      · intro h
        exact if_neg (Nat.not_lt.mpr (h d rfl r rfl))

theorem validateStatusTransition_ok {existing next : EnquiryStatus} :
    validateStatusTransition existing next=.ok () ↔ ¬(existing.isTerminal=true ∧ next.isOpen=true) := by
  unfold validateStatusTransition
  split
  · rename_i h
    exact iff_of_false (fun hok => (by cases hok)) (not_not.mpr h)
  · rename_i h
    exact iff_of_true rfl h

section Facts

set_option linter.unusedSectionVars false

variable {υ : Type} [DecidableEq υ] {parse : String → Option υ} {p : Principal} {id : υ}
  {row row' loaded target : EnquiryRow υ} {rows : List (EnquiryRow υ)}

theorem tenantUuid_ok {tenant : υ} : tenantUuid parse p=.ok tenant ↔ parse p.tenantId=some tenant := by
  unfold tenantUuid
  cases parse p.tenantId with
  | none => exact iff_of_false (fun h => (by cases h)) fun h => (by cases h)
  | some t => exact ⟨fun h => congrArg some (Except.ok.inj h),fun h => congrArg _ (Option.some.inj h)⟩

theorem findEnquiry_facts (h : findEnquiry rows id=some row) : row∈rows ∧ row.id=id :=
  ⟨List.mem_of_find?_eq_some h,by simpa using List.find?_some h⟩

theorem loadOwnedEnquiry_ok {enquiry tenant : υ}
    (h : loadOwnedEnquiry rows enquiry tenant=.ok row) :
    findEnquiry rows enquiry=some row ∧ row.tenantId=tenant := by
  unfold loadOwnedEnquiry at h
  split at h
  · rename_i row' hfind
    split at h
    · rename_i htenant
      cases h
      exact ⟨hfind,htenant⟩
    · cases h
  · cases h

/-- What is known of a row that is added. -/
structure Created (parse : String → Option υ) (p : Principal) (body : EnquiryCreateRequest) (id : υ)
    (row : EnquiryRow υ) : Prop where
  id : row.id=id
  tenant : parse p.tenantId=some row.tenantId
  ordered : row.Ordered
  session : parseSessionIdOrNone parse body.sessionId=.ok row.sessionId

theorem createRow_ok {body : EnquiryCreateRequest} {now : Time}
    (h : createRow parse p body id now=.ok row) : Created parse p body id row := by
  unfold createRow at h
  obtain ⟨tenant,htenant,h⟩ := bind_ok.mp h
  obtain ⟨user,-,h⟩ := bind_ok.mp h
  obtain ⟨_,-,h⟩ := bind_ok.mp h
  obtain ⟨_,hdates,h⟩ := bind_ok.mp h
  obtain ⟨_,-,h⟩ := bind_ok.mp h
  obtain ⟨session,hsession,h⟩ := bind_ok.mp h
  cases h
  exact ⟨rfl,tenantUuid_ok.mp htenant,validateDateRange_ok.mp hdates,hsession⟩

/-- What is known of the copy a PATCH commits. -/
structure Patched (parse : String → Option υ) (row : EnquiryRow υ) (body : EnquiryPatchRequest)
    (target : EnquiryRow υ) : Prop where
  id : target.id=row.id
  tenant : target.tenantId=row.tenantId
  ordered : target.Ordered
  session : patchedSession parse row.sessionId body.sessionId=.ok target.sessionId

theorem patchRow_ok {body : EnquiryPatchRequest} (h : patchRow parse row body=.ok target) :
    Patched parse row body target := by
  unfold patchRow at h
  obtain ⟨_,-,h⟩ := bind_ok.mp h
  obtain ⟨_,hdates,h⟩ := bind_ok.mp h
  obtain ⟨_,-,h⟩ := bind_ok.mp h
  obtain ⟨status,-,h⟩ := bind_ok.mp h
  obtain ⟨customerName,-,h⟩ := bind_ok.mp h
  obtain ⟨paxCount,-,h⟩ := bind_ok.mp h
  obtain ⟨session,hsession,h⟩ := bind_ok.mp h
  cases h
  exact ⟨rfl,rfl,validateDateRange_ok.mp hdates,hsession⟩

/-- What storing a row leaves alone. -/
structure Stored (row row' : EnquiryRow υ) : Prop where
  id : row'.id=row.id
  tenant : row'.tenantId=row.tenantId
  status : row'.status=row.status
  departDate : row'.departDate=row.departDate
  returnDate : row'.returnDate=row.returnDate
  session : row'.sessionId=row.sessionId

theorem storedRow_some (h : storedRow row=some row') : Stored row row' := by
  unfold storedRow at h
  split at h
  · split at h
    · cases h
      exact ⟨rfl,rfl,rfl,rfl,rfl,rfl⟩
    · obtain ⟨d',-,rfl⟩ := Option.map_eq_some_iff.mp h
      exact ⟨rfl,rfl,rfl,rfl,rfl,rfl⟩
  · cases h

/-- What the update of a copy makes of a row. -/
structure Updated (loaded target row row' : EnquiryRow υ) : Prop where
  id : row'.id=row.id
  tenant : row'.tenantId=row.tenantId
  status : row'.status=changed loaded.status target.status row.status
  departDate : row'.departDate=changed loaded.departDate target.departDate row.departDate
  returnDate : row'.returnDate=changed loaded.returnDate target.returnDate row.returnDate
  session : row'.sessionId=changed loaded.sessionId target.sessionId row.sessionId

theorem updatedRow_some (h : updatedRow loaded target row=some row') :
    Updated loaded target row row' := by
  have hstored := storedRow_some h
  exact ⟨hstored.id,hstored.tenant,hstored.status,hstored.departDate,hstored.returnDate,
    hstored.session⟩

theorem mem_replaceRow (h : row'∈replaceRow rows row) : row'=row ∨ row'∈rows := by
  obtain ⟨r,hr,rfl⟩ := List.mem_map.mp h
  split
  · exact .inl rfl
  · exact .inr hr

/-- A row put in place is the one found under its key. -/
theorem findEnquiry_replaceRow (h : (findEnquiry rows row.id).isSome=true) :
    findEnquiry (replaceRow rows row) row.id=some row := by
  induction rows with
  | nil => cases h
  | cons r rows ih =>
    unfold findEnquiry replaceRow at *
    rw [List.map_cons,List.find?_cons]
    by_cases hr : r.id=row.id
    · rw [if_pos hr,decide_eq_true rfl]
    · rw [List.find?_cons,decide_eq_false hr] at h
      rw [if_neg hr,decide_eq_false hr]
      exact ih h

/-- The rows under other keys are as before. -/
theorem findEnquiry_replaceRow_other (h : row.id≠id) :
    findEnquiry (replaceRow rows row) id=findEnquiry rows id := by
  induction rows with
  | nil => rfl
  | cons r rows ih =>
    unfold findEnquiry replaceRow at *
    rw [List.map_cons,List.find?_cons,List.find?_cons,ih]
    by_cases hr : r.id=row.id
    · rw [if_pos hr,hr,decide_eq_false h]
    · rw [if_neg hr]

/-- A row added under a key that is not in the table. -/
theorem findEnquiry_append (h : findEnquiry rows row.id=none) :
    findEnquiry (rows++[row]) id=if row.id=id then some row else findEnquiry rows id := by
  unfold findEnquiry at *
  rw [List.find?_append]
  by_cases hid : row.id=id
  · subst hid
    rw [h,if_pos rfl]
    simp
  · rw [if_neg hid]
    simp [hid]

end Facts

end Voyagent.Enquiries
