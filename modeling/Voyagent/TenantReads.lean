import Voyagent.AgingReport
import Voyagent.TenantListings
import Voyagent.TrialBalance

/-!
# The read endpoints of a tenant

The itinerary of a session, and all read endpoints over one database. What each
answers to a principal is computed from the rows of the principal's tenant, so
no row of another tenant shows in it.
-/

namespace Voyagent.TenantReads

open RuntimeValues KeyedMap CalendarDates AmountColumns AgingReport JournalPosting TrialBalance
  Enquiries TenantListings
open AuthEndpoints (HttpError)

/-! ## The itinerary -/

structure MessageRow (υ : Type) where
  sessionId : υ
  content : Json
  sequence : Int
  deriving DecidableEq

structure PassengerItem where
  fullName : String
  passportNumber : Option String
  deriving DecidableEq

structure FlightItem where
  pnr : Option String
  origin : Option String
  dest : Option String
  depart : Option String
  carrier : Option String
  deriving DecidableEq

structure HotelItem where
  name : Option String
  city : Option String
  checkIn : Option String
  checkOut : Option String
  deriving DecidableEq

structure VisaItem where
  country : Option String
  status : Option String
  deriving DecidableEq

/-- The lists `_extract_itinerary_blocks` fills. -/
structure ItineraryParts where
  passengers : List PassengerItem := []
  flights : List FlightItem := []
  hotels : List HotelItem := []
  visas : List VisaItem := []
  deriving DecidableEq

structure ItineraryResponse where
  tenantId : String
  sessionId : String
  parts : ItineraryParts
  totalCost : MoneyResponse
  deriving DecidableEq

/-- The members of a model that forbids others. -/
def modelFields (keys : List String) : Json → Option Dict
  | .obj fields => if fields.all (fun e => keys.contains e.1) then some fields else none
  | _ => none

/-- A field of type `str | None`; nothing where it does not validate. -/
def optionalText (fields : Dict) (key : String) : Option (Option String) :=
  match get fields key with
  | none => some none
  | some .null => some none
  | some (.str s) => some (some s)
  | some _ => none

def validatePassenger (value : Json) : Option PassengerItem := do
  let fields ← modelFields ["full_name","passport_number"] value
  let fullName ← (← optionalText fields "full_name")
  let passportNumber ← optionalText fields "passport_number"
  return ⟨fullName,passportNumber⟩

def validateFlight (value : Json) : Option FlightItem := do
  let fields ← modelFields ["pnr","origin","dest","depart","carrier"] value
  let pnr ← optionalText fields "pnr"
  let origin ← optionalText fields "origin"
  let dest ← optionalText fields "dest"
  let depart ← optionalText fields "depart"
  let carrier ← optionalText fields "carrier"
  return ⟨pnr,origin,dest,depart,carrier⟩

def validateHotel (value : Json) : Option HotelItem := do
  let fields ← modelFields ["name","city","check_in","check_out"] value
  let name ← optionalText fields "name"
  let city ← optionalText fields "city"
  let checkIn ← optionalText fields "check_in"
  let checkOut ← optionalText fields "check_out"
  return ⟨name,city,checkIn,checkOut⟩

def validateVisa (value : Json) : Option VisaItem := do
  let fields ← modelFields ["country","status"] value
  let country ← optionalText fields "country"
  let status ← optionalText fields "status"
  return ⟨country,status⟩

/-- A block with structured data adds its item, if it validates. -/
def addBlock (parts : ItineraryParts) : Json → ItineraryParts
  | .obj block =>
    match get block "data" with
    | some (.obj data) =>
      let kind := (given data "kind").orElse fun _ => get block "kind"
      let value := (get data "value").getD (.obj [])
      if kind=some (.str "passenger") then
        {parts with passengers := parts.passengers++(validatePassenger value).toList}
      else if kind=some (.str "flight") then
        {parts with flights := parts.flights++(validateFlight value).toList}
      else if kind=some (.str "hotel") then
        {parts with hotels := parts.hotels++(validateHotel value).toList}
      else if kind=some (.str "visa") then
        {parts with visas := parts.visas++(validateVisa value).toList}
      else parts
    | _ => parts
  | _ => parts

section

variable {υ : Type} [DecidableEq υ]

def addMessage (parts : ItineraryParts) (message : MessageRow υ) : ItineraryParts :=
  match message.content with
  | .arr blocks => blocks.foldl addBlock parts
  | _ => parts

/-- `_extract_itinerary_blocks`. -/
def extractItineraryBlocks (messages : List (MessageRow υ)) : ItineraryParts :=
  messages.foldl addMessage {}

/-- The messages of a session, if the tenant has it. -/
def sessionMessages (sessions : List (SessionRow υ)) (messages : List (MessageRow υ))
    (tenant session : υ) : Option (List (MessageRow υ)) :=
  if ownsSession sessions tenant session=true then
    some ((messages.filter fun m => decide (m.sessionId=session)).mergeSort
      fun a b => decide (a.sequence≤b.sequence))
  else none

/-- `itinerary_report`. -/
def itineraryReport (parse : String → Option υ) (sessions : List (SessionRow υ))
    (messages : List (MessageRow υ)) (p : Principal) (sessionId : String) :
    Except HttpError ItineraryResponse := do
  let tenant ← tenantUuid parse p
  match parse sessionId with
  | none => .error ⟨404,"session_not_found"⟩
  | some session =>
    match sessionMessages sessions messages tenant session with
    | none => .error ⟨404,"session_not_found"⟩
    | some own =>
      return ⟨p.tenantId,sessionId,extractItineraryBlocks own,⟨noAmount,defaultCurrency⟩⟩

/-! ## One database and its reads -/

/-- The tables the read endpoints select from, with their primary keys. -/
structure Database (υ : Type) where
  sessions : List (SessionRow υ)
  approvals : List (PendingApprovalRow υ)
  messages : List (MessageRow υ)
  enquiries : List (EnquiryRow υ)
  invoices : DocumentTable υ InvoiceStatus
  bills : DocumentTable υ BillStatus
  ledger : Ledger υ
  sessionKeys : (sessions.map SessionRow.id).Nodup
  approvalKeys : (approvals.map PendingApprovalRow.id).Nodup
  enquiryKeys : (enquiries.map EnquiryRow.id).Nodup

/-- A read with its query parameters. -/
inductive Read where
  | listApprovals (q : ApprovalQuery)
  | getApproval (approvalId : String)
  | listEnquiries (query : EnquiryQuery)
  | getEnquiry (enquiryId : String)
  | receivables (dateFrom dateTo : CalendarDate)
  | payables (dateFrom dateTo : CalendarDate)
  | itinerary (sessionId : String)
  | trialBalance (asOf : Option CalendarDate) (includeZero : Bool)

inductive Response (υ : Type) where
  | approvals (listing : Listing (ApprovalItem υ))
  | approval (item : ApprovalItem υ)
  | enquiries (listing : Listing (EnquiryRow υ))
  | enquiry (row : EnquiryRow υ)
  | aging (report : AgingReportResponse υ)
  | itinerary (report : ItineraryResponse)
  | trialBalance (report : TrialBalanceResponse υ)

/-- `uuid.UUID` of a text, and the comparisons of the database. -/
structure ReadLibrary (υ : Type) where
  parse : String → Option υ
  ilike : Ilike
  collation : String → String → Bool

/-- The status a report's error is answered with. -/
def reportError : ReportError → HttpError
  | .unprocessable detail => ⟨422,detail⟩
  | .invalidOperation => ⟨500,"InvalidOperation"⟩

/-- The period is checked before the caller's tenant is read. -/
def validatePeriod (dateFrom dateTo : CalendarDate) : Except HttpError Unit :=
  if dateTo.ordinal<dateFrom.ordinal then .error ⟨422,"from must be on or before to"⟩ else .ok ()

/-- The answer of a read endpoint at a moment of a day. -/
def respond (lib : ReadLibrary υ) (db : Database υ) (now : Time) (today : CalendarDate)
    (p : Principal) : Read → Except HttpError (Response υ)
  | .listApprovals q =>
    (listApprovals lib.parse db.sessions db.approvals now p q).map .approvals
  | .getApproval approvalId =>
    (getApproval lib.parse db.sessions db.approvals p approvalId).map .approval
  | .listEnquiries query => (listEnquiries lib.parse lib.ilike db.enquiries p query).map .enquiries
  | .getEnquiry enquiryId => (getEnquiry lib.parse db.enquiries p enquiryId).map .enquiry
  | .receivables dateFrom dateTo => do
    validatePeriod dateFrom dateTo
    let tenant ← tenantUuid lib.parse p
    ((receivablesReport db.invoices today tenant dateFrom dateTo).map .aging).mapError reportError
  | .payables dateFrom dateTo => do
    validatePeriod dateFrom dateTo
    let tenant ← tenantUuid lib.parse p
    ((payablesReport db.bills today tenant dateFrom dateTo).map .aging).mapError reportError
  | .itinerary sessionId =>
    (itineraryReport lib.parse db.sessions db.messages p sessionId).map .itinerary
  | .trialBalance asOf includeZero => do
    let tenant ← tenantUuid lib.parse p
    match trialBalanceReport lib.collation db.ledger tenant (asOf.getD today) includeZero with
    | some report => return .trialBalance report
    | none => .error ⟨500,"InvalidOperation"⟩

end

/-! ## The rows of a tenant -/

section Own

set_option linter.unusedSectionVars false

variable {υ σ : Type} [DecidableEq υ] [DecidableEq σ] {parse : String → Option υ} {tenant : υ}
  {p : Principal}

def ownMessages (tenant : υ) (sessions : List (SessionRow υ)) (messages : List (MessageRow υ)) :
    List (MessageRow υ) :=
  messages.filter fun m => ownsSession sessions tenant m.sessionId

def ownDocuments (tenant : υ) (table : DocumentTable υ σ) : DocumentTable υ σ :=
  ⟨table.rows.filter fun r => decide (r.tenantId=tenant),
    (List.length_filter_le _ _).trans table.capacity⟩

def ownLedger (tenant : υ) (db : Ledger υ) : Ledger υ where
  accounts := db.accounts.filter fun a => decide (a.tenantId=tenant)
  entries := db.entries.filter fun r => decide (r.tenantId=tenant)

/-- The rows of one tenant; approvals and messages are those of its sessions. -/
def Database.ofTenant (db : Database υ) (tenant : υ) : Database υ where
  sessions := ownSessions tenant db.sessions
  approvals := ownApprovals tenant db.sessions db.approvals
  messages := ownMessages tenant db.sessions db.messages
  enquiries := ownEnquiries tenant db.enquiries
  invoices := ownDocuments tenant db.invoices
  bills := ownDocuments tenant db.bills
  ledger := ownLedger tenant db.ledger
  sessionKeys := db.sessionKeys.sublist (List.filter_sublist.map _)
  approvalKeys := db.approvalKeys.sublist (List.filter_sublist.map _)
  enquiryKeys := db.enquiryKeys.sublist (List.filter_sublist.map _)

variable (openStatuses : List σ) (sessions : List (SessionRow υ)) (messages : List (MessageRow υ))

theorem sessionMessages_own (session : υ) :
    sessionMessages (ownSessions tenant sessions) (ownMessages tenant sessions messages) tenant session=
      sessionMessages sessions messages tenant session := by
  unfold sessionMessages
  rw [ownsSession_own]
  split
  · rename_i howns
    unfold ownMessages
    rw [filter_of_filter _ fun m hm => by rw [of_decide_eq_true hm]; exact howns]
  · rfl

theorem itineraryReport_own (sessionId : String) (ht : parse p.tenantId=some tenant) :
    itineraryReport parse (ownSessions tenant sessions) (ownMessages tenant sessions messages) p sessionId=
      itineraryReport parse sessions messages p sessionId := by
  unfold itineraryReport
  rw [tenantUuid_bind ht,tenantUuid_bind ht]
  simp only [sessionMessages_own]

theorem openRows_own (table : DocumentTable υ σ) (dateFrom dateTo : CalendarDate) :
    openRows openStatuses (ownDocuments tenant table) tenant dateFrom dateTo=
      openRows openStatuses table tenant dateFrom dateTo := by
  unfold openRows ownDocuments
  refine congrArg _ (filter_of_filter _ fun r hr => ?_)
  simp only [Bool.and_eq_true] at hr
  exact hr.1.1.1

theorem documentsReport_own (kind : ReportKind) (table : DocumentTable υ σ)
    (today dateFrom dateTo : CalendarDate) :
    documentsReport openStatuses kind (ownDocuments tenant table) today tenant dateFrom dateTo=
      documentsReport openStatuses kind table today tenant dateFrom dateTo := by
  unfold documentsReport
  rw [openRows_own]

theorem trialBalanceReport_own (collation : String → String → Bool) (db : Ledger υ)
    (asOf : CalendarDate) (includeZero : Bool) :
    trialBalanceReport collation (ownLedger tenant db) tenant asOf includeZero=
      trialBalanceReport collation db tenant asOf includeZero := by
  have haccounts : accountsByCode collation (ownLedger tenant db) tenant=
      accountsByCode collation db tenant := by
    unfold accountsByCode ownLedger
    rw [filter_of_filter _ fun _ ha => ha]
  have hsums : accountSums (ownLedger tenant db) tenant (endOfDay asOf)=
      accountSums db tenant (endOfDay asOf) := by
    funext a
    have hjoined : joined (ownLedger tenant db) tenant (endOfDay asOf) a=
        joined db tenant (endOfDay asOf) a := by
      unfold joined ownLedger
      refine filter_of_filter _ fun r hr => ?_
      unfold visible at hr
      simp only [Bool.and_eq_true] at hr
      exact hr.2.1
    unfold accountSums
    rw [hjoined]
  unfold trialBalanceReport
  rw [haccounts,hsums]

/-- What a read answers is read off the rows of the caller's tenant. -/
theorem respond_ofTenant (lib : ReadLibrary υ) (db : Database υ) (now : Time) (today : CalendarDate)
    (ht : lib.parse p.tenantId=some tenant) (q : Read) :
    respond lib (db.ofTenant tenant) now today p q=respond lib db now today p q := by
  cases q with
  | listApprovals q =>
    exact congrArg (Except.map Response.approvals) (listApprovals_own _ _ now q ht)
  | getApproval approvalId =>
    exact congrArg (Except.map Response.approval) (getApproval_own _ _ approvalId ht)
  | listEnquiries query =>
    exact congrArg (Except.map Response.enquiries) (listEnquiries_own _ _ query ht)
  | getEnquiry enquiryId =>
    exact congrArg (Except.map Response.enquiry) (getEnquiry_own db.enquiryKeys enquiryId ht)
  | receivables dateFrom dateTo =>
    dsimp only [respond,Database.ofTenant,receivablesReport]
    rw [tenantUuid_bind ht,tenantUuid_bind ht,documentsReport_own]
  | payables dateFrom dateTo =>
    dsimp only [respond,Database.ofTenant,payablesReport]
    rw [tenantUuid_bind ht,tenantUuid_bind ht,documentsReport_own]
  | itinerary sessionId =>
    exact congrArg (Except.map Response.itinerary) (itineraryReport_own _ _ sessionId ht)
  | trialBalance asOf includeZero =>
    dsimp only [respond,Database.ofTenant]
    rw [tenantUuid_bind ht,tenantUuid_bind ht,trialBalanceReport_own]

/-- Two databases that agree on the rows of a tenant answer its principals alike,
whatever they read. -/
theorem reads_noninterference (lib : ReadLibrary υ) (db db' : Database υ) (tenant : υ)
    (hsame : db.ofTenant tenant=db'.ofTenant tenant) (p : Principal)
    (ht : lib.parse p.tenantId=some tenant) (now : Time) (today : CalendarDate) (q : Read) :
    respond lib db now today p q=respond lib db' now today p q :=
  calc respond lib db now today p q
      = respond lib (db.ofTenant tenant) now today p q := (respond_ofTenant lib db now today ht q).symm
    _ = respond lib (db'.ofTenant tenant) now today p q := by rw [hsame]
    _ = respond lib db' now today p q := respond_ofTenant lib db' now today ht q

/-- The sessions and enquiries of agencies, each with its own identifier. -/
def agencies (sessions : List (SessionRow String)) (enquiries : List (EnquiryRow String))
    (hsessions : (sessions.map SessionRow.id).Nodup) (henquiries : (enquiries.map EnquiryRow.id).Nodup) :
    Database String where
  sessions := sessions
  approvals := []
  messages := []
  enquiries := enquiries
  invoices := ⟨[],Nat.zero_le _⟩
  bills := ⟨[],Nat.zero_le _⟩
  ledger := {}
  sessionKeys := hsessions
  approvalKeys := .nil
  enquiryKeys := henquiries

/-- An enquiry of an agency. -/
def enquiryOf (tenant id : String) : EnquiryRow String where
  id := id
  tenantId := tenant
  createdByUserId := "agent"
  customerName := "Ravi"
  createdAt := 0
  updatedAt := 0

def plainReads : ReadLibrary String := ⟨some,fun text term => text==term,fun a b => decide (a≤b)⟩

theorem reads_noninterference_twoAgencies :
    let today : CalendarDate := ⟨2026,8,1,by decide⟩
    let alone := agencies [] [enquiryOf "acme" "lead"] (by decide) (by decide)
    let shared := agencies [⟨"chat","other",none,.human⟩]
      [enquiryOf "other" "theirs",enquiryOf "acme" "lead"] (by decide) (by decide)
    respond plainReads alone 0 today ⟨"agent","acme"⟩ (.listEnquiries {})=
      respond plainReads shared 0 today ⟨"agent","acme"⟩ (.listEnquiries {}) := by
  intro today alone shared
  exact reads_noninterference plainReads alone shared "acme" rfl _ rfl 0 today _

end Own

end Voyagent.TenantReads
