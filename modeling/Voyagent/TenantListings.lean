import Voyagent.Enquiries
import Voyagent.Sessions

/-!
# Listing a tenant's approvals and enquiries

The list and detail endpoints. Approvals carry no tenant: they are joined with
the sessions of the caller's. A table lists its rows in the order the database
returns them, so rows an `ORDER BY` leaves equal keep that order.
-/

namespace Voyagent.TenantListings

open RuntimeValues CalendarDates Sessions Enquiries
open AuthEndpoints (HttpError)

/-- A page of a listing. -/
structure Listing (α : Type) where
  items : List α
  total : Nat
  limit : Nat
  offset : Nat
  deriving DecidableEq

/-- Order, count and cut the selected rows. -/
def page {α β : Type} (before : α → α → Bool) (item : α → β) (limit offset : Nat) (rows : List α) :
    Listing β where
  items := (((rows.mergeSort before).drop offset).take limit).map item
  total := rows.length
  limit := limit
  offset := offset

section

variable {υ : Type} [DecidableEq υ] (parse : String → Option υ)

/-! ## Approvals -/

structure PendingApprovalRow (υ : Type) where
  id : String
  sessionId : υ
  toolName : String
  summary : String
  requestedAt : Time
  expiresAt : Option Time := none
  status : ApprovalStatus := .pending
  payload : Json := .obj []
  resolvedAt : Option Time := none
  resolvedByUserId : Option υ := none
  deriving DecidableEq

structure ApprovalItem (υ : Type) where
  id : String
  sessionId : υ
  toolName : String
  summary : String
  requestedAt : Time
  expiresAt : Option Time
  status : ApprovalStatus
  payload : Dict
  resolvedAt : Option Time
  resolvedByUserId : Option υ
  deriving DecidableEq

/-- `_row_to_item`; a payload that is no object is shown as an empty one. -/
def rowToItem (row : PendingApprovalRow υ) : ApprovalItem υ where
  id := row.id
  sessionId := row.sessionId
  toolName := row.toolName
  summary := row.summary
  requestedAt := row.requestedAt
  expiresAt := row.expiresAt
  status := row.status
  payload := match row.payload with
    | .obj fields => fields
    | _ => []
  resolvedAt := row.resolvedAt
  resolvedByUserId := row.resolvedByUserId

/-- The session is one of the tenant's. -/
def ownsSession (sessions : List (SessionRow υ)) (tenant id : υ) : Bool :=
  sessions.any fun s => decide (s.tenantId=tenant) && decide (s.id=id)

/-- The deadline is set and has passed. -/
def overdue (row : PendingApprovalRow υ) (now : Time) : Bool :=
  row.expiresAt.any fun deadline => decide (deadline≤now)

/-- `_sweep_expired`. -/
def sweepExpired (sessions : List (SessionRow υ)) (tenant : υ) (now : Time)
    (rows : List (PendingApprovalRow υ)) : List (PendingApprovalRow υ) :=
  rows.map fun row =>
    if row.status=.pending ∧ overdue row now=true ∧ ownsSession sessions tenant row.sessionId=true then
      {row with status := .expired}
    else row

structure ApprovalQuery where
  /-- Absent for `all`. -/
  status : Option ApprovalStatus := some .pending
  sessionId : Option String := none
  limit : Nat := 50
  offset : Nat := 0

/-- The `WHERE` clauses beside the tenant's. -/
def approvalSelected (q : ApprovalQuery) (sid : Option υ) (row : PendingApprovalRow υ) : Bool :=
  q.status.all (fun st => decide (row.status=st)) && sid.all fun s => decide (row.sessionId=s)

/-- The rows the statements of the list select, after its sweep. -/
def approvalRows (sessions : List (SessionRow υ)) (approvals : List (PendingApprovalRow υ))
    (tenant : υ) (now : Time) (q : ApprovalQuery) (sid : Option υ) : List (PendingApprovalRow υ) :=
  (sweepExpired sessions tenant now approvals).filter fun row =>
    ownsSession sessions tenant row.sessionId && approvalSelected q sid row

/-- The row the statement of the detail selects. -/
def findApproval (sessions : List (SessionRow υ)) (approvals : List (PendingApprovalRow υ))
    (tenant : υ) (approvalId : String) : Option (PendingApprovalRow υ) :=
  approvals.find? fun row =>
    ownsSession sessions tenant row.sessionId && decide (row.id=approvalId)

/-- `list_approvals`. -/
def listApprovals (sessions : List (SessionRow υ)) (approvals : List (PendingApprovalRow υ))
    (now : Time) (p : Principal) (q : ApprovalQuery) :
    Except HttpError (Listing (ApprovalItem υ)) := do
  let tenant ← tenantUuid parse p
  let sid ← parseSessionIdOrNone parse q.sessionId
  return page (fun a b => decide (b.requestedAt≤a.requestedAt)) rowToItem q.limit q.offset
    (approvalRows sessions approvals tenant now q sid)

/-- `get_approval`. -/
def getApproval (sessions : List (SessionRow υ)) (approvals : List (PendingApprovalRow υ))
    (p : Principal) (approvalId : String) : Except HttpError (ApprovalItem υ) := do
  let tenant ← tenantUuid parse p
  match findApproval sessions approvals tenant approvalId with
  | some row => return rowToItem row
  | none => .error ⟨404,"approval_not_found"⟩

/-! ## Enquiries -/

structure EnquiryQuery where
  /-- Absent for `all`. -/
  status : Option EnquiryStatus := none
  limit : Nat := 50
  offset : Nat := 0
  q : Option String := none
  customerEmail : Option String := none
  destination : Option String := none
  origin : Option String := none
  departFrom : Option CalendarDate := none
  departTo : Option CalendarDate := none
  createdFrom : Option CalendarDate := none
  createdTo : Option CalendarDate := none

/-- `ILIKE` of the database: a column's text and the term between the `%`s. -/
abbrev Ilike : Type := String → String → Bool

/-- A column matches a term; a null one matches none. -/
def like (ilike : Ilike) (term : String) (column : Option String) : Bool :=
  column.any fun text => ilike text term

/-- A filter that is given and is not empty. -/
def givenTerm (term : Option String) : Option String := term.filter fun t => decide (t≠"")

/-- The first second of a day, counted from 1970. -/
def dayStart (d : CalendarDate) : Time := ((d.toordinal : Int)-719163)*86400

/-- A period given upside down. -/
def inverted (from_ to_ : Option CalendarDate) : Bool :=
  from_.any fun f => to_.any fun t => decide (t.ordinal<f.ordinal)

/-- The `WHERE` clauses beside the tenant's. -/
def enquirySelected (ilike : Ilike) (query : EnquiryQuery) (row : EnquiryRow υ) : Bool :=
  query.status.all (fun st => decide (row.status=st)) &&
  (givenTerm query.customerEmail).all (fun t => like ilike t row.customerEmail) &&
  (givenTerm query.destination).all (fun t => like ilike t row.destination) &&
  (givenTerm query.origin).all (fun t => like ilike t row.origin) &&
  query.departFrom.all (fun d => row.departDate.any fun d' => decide (d.ordinal≤d'.ordinal)) &&
  query.departTo.all (fun d => row.departDate.any fun d' => decide (d'.ordinal≤d.ordinal)) &&
  query.createdFrom.all (fun d => decide (dayStart d≤row.createdAt)) &&
  query.createdTo.all (fun d => decide (row.createdAt<dayStart d+86400)) &&
  (givenTerm query.q).all fun t => like ilike t (some row.customerName) ||
    like ilike t row.customerEmail || like ilike t row.customerPhone || like ilike t row.origin ||
    like ilike t row.destination

/-- The rows the statements of the list select. -/
def enquiryRows (ilike : Ilike) (enquiries : List (EnquiryRow υ)) (tenant : υ)
    (query : EnquiryQuery) : List (EnquiryRow υ) :=
  enquiries.filter fun row => decide (row.tenantId=tenant) && enquirySelected ilike query row

/-- `list_enquiries`; a row is answered column by column. -/
def listEnquiries (ilike : Ilike) (enquiries : List (EnquiryRow υ)) (p : Principal)
    (query : EnquiryQuery) : Except HttpError (Listing (EnquiryRow υ)) := do
  let tenant ← tenantUuid parse p
  if inverted query.departFrom query.departTo=true then .error ⟨422,"invalid_depart_range"⟩
  else if inverted query.createdFrom query.createdTo=true then .error ⟨422,"invalid_created_range"⟩
  else
    return page (fun a b => decide (b.createdAt≤a.createdAt)) id query.limit query.offset
      (enquiryRows ilike enquiries tenant query)

/-- `get_enquiry`. -/
def getEnquiry (enquiries : List (EnquiryRow υ)) (p : Principal) (enquiryId : String) :
    Except HttpError (EnquiryRow υ) := do
  let tenant ← tenantUuid parse p
  let enquiry ← parseEnquiryId parse enquiryId
  loadOwnedEnquiry enquiries enquiry tenant

end

/-! ## What the listings read -/

section Own

set_option linter.unusedSectionVars false

variable {υ : Type} [DecidableEq υ] {parse : String → Option υ} {tenant : υ} {p : Principal}

/-- The rows of a tenant. -/
def ownSessions (tenant : υ) (sessions : List (SessionRow υ)) : List (SessionRow υ) :=
  sessions.filter fun s => decide (s.tenantId=tenant)

def ownEnquiries (tenant : υ) (enquiries : List (EnquiryRow υ)) : List (EnquiryRow υ) :=
  enquiries.filter fun row => decide (row.tenantId=tenant)

/-- The approvals of a tenant's sessions. -/
def ownApprovals (tenant : υ) (sessions : List (SessionRow υ))
    (approvals : List (PendingApprovalRow υ)) : List (PendingApprovalRow υ) :=
  approvals.filter fun row => ownsSession sessions tenant row.sessionId

variable (ilike : Ilike) (sessions : List (SessionRow υ)) (now : Time)
  (approvals : List (PendingApprovalRow υ)) (approvalId : String)

@[simp] theorem ownsSession_own (id : υ) :
    ownsSession (ownSessions tenant sessions) tenant id=ownsSession sessions tenant id := by
  unfold ownsSession ownSessions
  rw [List.any_filter]
  simp only [← Bool.and_assoc,Bool.and_self]

/-- A filter behind a weaker one. -/
theorem filter_of_filter {α : Type} {keep select : α → Bool} (rows : List α)
    (h : ∀ a,select a=true → keep a=true) : (rows.filter keep).filter select=rows.filter select := by
  rw [List.filter_filter]
  refine List.filter_congr fun a _ => ?_
  cases hs : select a with
  | false => rfl
  | true => rw [h a hs]; rfl

/-- The sweep of the tenant's approvals alone. -/
theorem sweepExpired_own :
    sweepExpired sessions tenant now (ownApprovals tenant sessions approvals)=
      ownApprovals tenant sessions (sweepExpired sessions tenant now approvals) := by
  unfold ownApprovals sweepExpired
  rw [List.filter_map]
  refine congrArg _ (List.filter_congr fun row _ => ?_)
  rw [Function.comp_apply]
  split <;> rfl

theorem approvalRows_own (now : Time) (q : ApprovalQuery) (sid : Option υ) :
    approvalRows (ownSessions tenant sessions) (ownApprovals tenant sessions approvals) tenant now q sid=
      approvalRows sessions approvals tenant now q sid := by
  have hsweep : sweepExpired (ownSessions tenant sessions) tenant now=
      sweepExpired sessions tenant now := by
    unfold sweepExpired
    simp only [ownsSession_own]
  unfold approvalRows
  rw [hsweep,sweepExpired_own]
  simp only [ownsSession_own]
  refine filter_of_filter _ fun row hrow => ?_
  exact (Bool.and_eq_true_iff.mp hrow).1

theorem findApproval_own :
    findApproval (ownSessions tenant sessions) (ownApprovals tenant sessions approvals) tenant approvalId=
      findApproval sessions approvals tenant approvalId := by
  unfold findApproval ownApprovals
  rw [List.find?_filter]
  refine congrArg (fun select => approvals.find? select) (funext fun row => ?_)
  rw [ownsSession_own]
  cases ownsSession sessions tenant row.sessionId <;> simp

theorem enquiryRows_own (enquiries : List (EnquiryRow υ)) (query : EnquiryQuery) :
    enquiryRows ilike (ownEnquiries tenant enquiries) tenant query=
      enquiryRows ilike enquiries tenant query :=
  filter_of_filter _ fun _ hrow => (Bool.and_eq_true_iff.mp hrow).1

variable {enquiries : List (EnquiryRow υ)}

/-- The row of a key among the tenant's: keys differ, so no row of another one hides it. -/
theorem findEnquiry_own (hkeys : (enquiries.map EnquiryRow.id).Nodup) (enquiry : υ) :
    findEnquiry (ownEnquiries tenant enquiries) enquiry=
      (findEnquiry enquiries enquiry).filter fun row => decide (row.tenantId=tenant) := by
  induction enquiries with
  | nil => rfl
  | cons row rows ih =>
    obtain ⟨hhead,htail⟩ := List.nodup_cons.mp hkeys
    have ih := ih htail
    unfold findEnquiry ownEnquiries at *
    rw [List.filter_cons,List.find?_cons]
    by_cases hid : row.id=enquiry
    · have hnone : rows.find? (fun r => decide (r.id=enquiry))=none := by
        refine List.find?_eq_none.mpr fun r hr hrid => hhead ?_
        rw [hid,← of_decide_eq_true hrid]
        exact List.mem_map_of_mem hr
      rw [hnone] at ih
      rw [decide_eq_true hid]
      by_cases ht : row.tenantId=tenant
      · rw [if_pos (decide_eq_true ht),List.find?_cons,decide_eq_true hid,Option.filter_some,
          if_pos (decide_eq_true ht)]
      · rw [if_neg (by rwa [decide_eq_true_eq]),ih,Option.filter_some,
          if_neg (by rwa [decide_eq_true_eq])]
        rfl
    · by_cases ht : row.tenantId=tenant
      · simpa [ht,hid] using ih
      · simpa [ht,hid] using ih

theorem loadOwnedEnquiry_own (hkeys : (enquiries.map EnquiryRow.id).Nodup) (enquiry : υ) :
    loadOwnedEnquiry (ownEnquiries tenant enquiries) enquiry tenant=
      loadOwnedEnquiry enquiries enquiry tenant := by
  unfold loadOwnedEnquiry
  rw [findEnquiry_own hkeys]
  cases findEnquiry enquiries enquiry with
  | none => rfl
  | some row =>
    rw [Option.filter_some]
    by_cases ht : row.tenantId=tenant <;> simp [ht]

/-- What follows the parse of the caller's tenant. -/
theorem tenantUuid_bind {α : Type} {f : υ → Except HttpError α} (ht : parse p.tenantId=some tenant) :
    (tenantUuid parse p >>= f)=f tenant := by
  rw [tenantUuid_ok.mpr ht]
  rfl

theorem listApprovals_own (now : Time) (q : ApprovalQuery) (ht : parse p.tenantId=some tenant) :
    listApprovals parse (ownSessions tenant sessions) (ownApprovals tenant sessions approvals) now p q=
      listApprovals parse sessions approvals now p q := by
  unfold listApprovals
  rw [tenantUuid_bind ht,tenantUuid_bind ht]
  simp only [approvalRows_own]

theorem getApproval_own (ht : parse p.tenantId=some tenant) :
    getApproval parse (ownSessions tenant sessions) (ownApprovals tenant sessions approvals) p approvalId=
      getApproval parse sessions approvals p approvalId := by
  unfold getApproval
  rw [tenantUuid_bind ht,tenantUuid_bind ht,findApproval_own]

theorem listEnquiries_own (enquiries : List (EnquiryRow υ)) (query : EnquiryQuery)
    (ht : parse p.tenantId=some tenant) :
    listEnquiries parse ilike (ownEnquiries tenant enquiries) p query=
      listEnquiries parse ilike enquiries p query := by
  unfold listEnquiries
  rw [tenantUuid_bind ht,tenantUuid_bind ht,enquiryRows_own]

theorem getEnquiry_own (hkeys : (enquiries.map EnquiryRow.id).Nodup) (enquiryId : String)
    (ht : parse p.tenantId=some tenant) :
    getEnquiry parse (ownEnquiries tenant enquiries) p enquiryId=getEnquiry parse enquiries p enquiryId := by
  unfold getEnquiry
  rw [tenantUuid_bind ht,tenantUuid_bind ht]
  simp only [loadOwnedEnquiry_own hkeys]

end Own

end Voyagent.TenantListings
