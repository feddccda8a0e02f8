import Voyagent.TenantListings

/-!
# The audit log of a tenant

The rows of `audit_events` as `GET /audit` answers them: the filters of its
statements, the summary, the payload and the wire names of a row. Identifiers
and timestamps are rendered by the caller's choice of text.
-/

namespace Voyagent.AuditLog

open RuntimeValues ToolInvocation CalendarDates Sessions Enquiries TenantListings
open AuthEndpoints (HttpError)

structure AuditEventRow (υ : Type) where
  id : υ
  tenantId : υ
  /-- Absent for the events of the system. -/
  actorId : Option υ := none
  actorKind : ActorKind
  tool : String
  driver : Option String := none
  entityRefs : Json := .obj []
  inputs : Json := .obj []
  outputs : Json := .obj []
  error : Option String := none
  approvalRequired : Bool := false
  approvedBy : Option υ := none
  approvedAt : Option Time := none
  startedAt : Time
  completedAt : Option Time := none
  status : AuditStatus := .started
  deriving DecidableEq

/-- The columns of `users` the e-mail lookup reads. -/
structure UserEmail (υ : Type) where
  id : υ
  email : String
  deriving DecidableEq

structure AuditEventResponse where
  id : String
  tenantId : String
  actorKind : String
  actorId : Option String
  actorEmail : Option String
  kind : String
  summary : String
  payload : Dict
  status : String
  createdAt : Time
  deriving DecidableEq

/-! ## One row on the wire -/

def statusValue : AuditStatus → String
  | .started => "started"
  | .succeeded => "succeeded"
  | .failed => "failed"
  | .rejected => "rejected"
  | .cancelled => "cancelled"

/-- `_wire_status`. -/
def wireStatus : AuditStatus → String
  | .failed | .rejected => "error"
  | .started | .succeeded | .cancelled => "ok"

/-- `_actor_kind_wire`; storage says `human` where the wire says `user`. -/
def actorKindWire : ActorKind → String
  | .human => "user"
  | .agent => "agent"
  | .system => "system"

/-- `_parse_kinds`; a parameter may hold several kinds, and empty means no filter. -/
def parseKinds (raw : Option (List String)) : Option (List String) :=
  let out := (raw.getD []).flatMap fun item =>
    ((item.toList.splitOn ',').map fun piece => pyStrip (String.ofList piece)).filter fun piece =>
      decide (piece≠"")
  if out=[] then none else some out

section

variable {υ : Type} [DecidableEq υ]

/-- `_row_summary`. -/
def rowSummary (row : AuditEventRow υ) : String :=
  match givenTerm row.error,givenTerm row.driver with
  | some error,_ => row.tool++": "++error
  | none,some driver => row.tool++" via "++driver++" ("++statusValue row.status++")"
  | none,none => row.tool++" ("++statusValue row.status++")"

/-- `value or {}`. -/
def orEmpty (value : Json) : Json := if isTruthy value=true then value else .obj []

variable (render : υ → String) (isoformat : Time → String)

/-- The payload of `_row_to_response`. -/
def rowPayload (row : AuditEventRow υ) : Dict :=
  [("inputs",orEmpty row.inputs),("outputs",orEmpty row.outputs),
    ("entity_refs",orEmpty row.entityRefs)]++
  ((givenTerm row.driver).map fun driver => ("driver",Json.str driver)).toList++
  ((givenTerm row.error).map fun error => ("error",Json.str error)).toList++
  (if row.approvalRequired=true then [("approval_required",Json.bool true)] else [])++
  (row.approvedBy.map fun user => ("approved_by",Json.str (render user))).toList++
  (row.approvedAt.map fun t => ("approved_at",Json.str (isoformat t))).toList++
  (row.completedAt.map fun t => ("completed_at",Json.str (isoformat t))).toList

/-- `_row_to_response`. -/
def rowToResponse (row : AuditEventRow υ) (actorEmail : Option String) : AuditEventResponse where
  id := render row.id
  tenantId := render row.tenantId
  actorKind := actorKindWire row.actorKind
  actorId := row.actorId.map render
  actorEmail := actorEmail
  kind := row.tool
  summary := rowSummary row
  payload := rowPayload render isoformat row
  status := wireStatus row.status
  createdAt := row.startedAt

/-! ## The e-mails of the actors -/

/-- `email_by_id`, queried for the actors of some rows. -/
def emailById (users : List (UserEmail υ)) (rows : List (AuditEventRow υ)) : List (UserEmail υ) :=
  users.filter fun user => rows.any fun row => decide (row.actorId=some user.id)

/-- The lookup of one actor. -/
def actorEmail (emails : List (UserEmail υ)) (actorId : Option υ) : Option String :=
  actorId.bind fun actor => (emails.find? fun user => decide (user.id=actor)).map UserEmail.email

/-- The rows are answered with the e-mails of their actors. -/
def responses (users : List (UserEmail υ)) (rows : List (AuditEventRow υ)) : List AuditEventResponse :=
  rows.map fun row =>
    rowToResponse render isoformat row (actorEmail (emailById users rows) row.actorId)

/-- A row with the e-mail of its actor. -/
def respond (users : List (UserEmail υ)) (row : AuditEventRow υ) : AuditEventResponse :=
  rowToResponse render isoformat row (actorEmail users row.actorId)

/-! ## The list -/

structure AuditQuery where
  actorId : Option String := none
  kind : Option (List String) := none
  dateFrom : Option CalendarDate := none
  dateTo : Option CalendarDate := none

variable (parse : String → Option υ)

/-- The actor filter of a query. -/
def parseActorId (raw : Option String) : Except HttpError (Option υ) :=
  match raw with
  | none => .ok none
  | some raw =>
    match parse raw with
    | some actor => .ok (some actor)
    | none => .error ⟨422,"invalid_actor_id"⟩

/-- The `WHERE` clauses of `list_audit_events`; the last day ends with its last microsecond. -/
def auditSelected (tenant : υ) (actor : Option υ) (query : AuditQuery) (row : AuditEventRow υ) : Bool :=
  decide (row.tenantId=tenant) && actor.all (fun a => decide (row.actorId=some a)) &&
  (parseKinds query.kind).all (fun kinds => kinds.contains row.tool) &&
  query.dateFrom.all (fun d => decide (dayStart d≤row.startedAt)) &&
  query.dateTo.all fun d => decide (row.startedAt<dayStart d+86400)

/-- The rows the statements of the list select. -/
def auditRows (events : List (AuditEventRow υ)) (tenant : υ) (actor : Option υ) (query : AuditQuery) :
    List (AuditEventRow υ) := events.filter (auditSelected tenant actor query)

/-- The most recent event first. -/
def startedLater (a b : AuditEventRow υ) : Bool := decide (b.startedAt≤a.startedAt)

/-- `list_audit_events`. -/
def listAuditEvents (users : List (UserEmail υ)) (events : List (AuditEventRow υ)) (p : Principal)
    (query : AuditQuery) (limit offset : Nat) : Except HttpError (Listing AuditEventResponse) := do
  let tenant ← tenantUuid parse p
  let actor ← parseActorId parse query.actorId
  let matching := auditRows events tenant actor query
  let rows := ((matching.mergeSort startedLater).drop offset).take limit
  return ⟨responses render isoformat users rows,matching.length,limit,offset⟩

end

/-! ## What a row answers -/

section

variable {υ : Type} [DecidableEq υ] {render : υ → String} {isoformat : Time → String}

/-- The batched lookup finds what a lookup of its own would. -/
theorem actorEmail_emailById (users : List (UserEmail υ)) {rows : List (AuditEventRow υ)}
    {row : AuditEventRow υ} (hrow : row∈rows) :
    actorEmail (emailById users rows) row.actorId=actorEmail users row.actorId := by
  unfold actorEmail emailById
  refine Option.bind_congr fun actor hactor => congrArg (Option.map UserEmail.email) ?_
  rw [List.find?_filter]
  refine congrArg (fun select => users.find? select) (funext fun user => ?_)
  by_cases hid : user.id=actor
  · have hany : rows.any (fun row => decide (row.actorId=some user.id))=true :=
      List.any_eq_true.mpr ⟨row,hrow,decide_eq_true (hid ▸ hactor)⟩
    rw [hany,decide_eq_true hid]
    rfl
  · rw [decide_eq_false hid]
    exact decide_eq_false fun h => Bool.noConfusion h.2

theorem responses_eq (users : List (UserEmail υ)) (rows : List (AuditEventRow υ)) :
    responses render isoformat users rows=rows.map (respond render isoformat users) :=
  List.map_congr_left fun row hrow => by
    unfold respond
    rw [actorEmail_emailById users hrow]

end

end Voyagent.AuditLog
