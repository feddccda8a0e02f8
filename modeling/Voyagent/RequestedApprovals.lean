import Voyagent.ApprovalResume
import Voyagent.ChatSends
import Voyagent.TransitionRuns

/-!
# Approvals a turn asks for

The endpoints that create, list, resolve and delete, beside the one that runs
turns. None of them stores an approval, so what a turn asks for is in no store
afterwards, and a turn is resolvable when it asks for nothing.
-/

namespace Voyagent.RequestedApprovals

open RuntimeValues KeyedMap ToolInvocation AgentEvents AgentLoop Sessions OrchestratorTurn
open TurnRequests TurnTermination ApprovalResume ApprovalStores ChatSends TransitionRuns
open SseReconnect (StoreKind)

variable {υ : Type} [DecidableEq υ]

/-! ## The endpoints -/

/-- Requests to the API that reach the sessions or the approvals. -/
inductive ChatAction (υ : Type) where
  | createSession (sessionId tenantId actorId : EntityId)
  /-- A session row minted for an enquiry. -/
  | promoteEnquiry (id tenantId : υ) (actorId : Option υ)
  | sendMessage (sessionId : EntityId) (r : SendRequest)
  | listApprovals (tenantId : υ) (now : Time)
  | resolveApproval (approvalId : String) (granted : Bool) (tenantId : υ) (now : Time)
  | deleteSession (id tenantId : υ)

variable (parse : EntityId → Option υ) (render : υ → EntityId) (org : Orchestrator)

/-- `session_store.put` of a new session; ids that are no uuids are refused by Postgres. -/
def createSession (w : ChatWorld υ) (sessionId tenantId actorId : EntityId) :
    Option (ChatWorld υ) :=
  match w.kind with
  | .inMemory =>
    let session : Session := {id := sessionId,tenantId,actorId}
    some {w with memory := set w.memory sessionId session}
  | .postgres => do
    let sid ← parse sessionId
    let tid ← parse tenantId
    let row : SessionRow υ := ⟨tid,parse actorId,.human⟩
    some {w with tables := {w.tables with sessions := set w.tables.sessions sid row}}

/-- The tenant of the session an approval is on. -/
def ownerOf (t : ChatTables υ) (row : PendingApprovalRow υ) : Option υ :=
  (get t.sessions row.sessionId).map SessionRow.tenantId

/-- `_sweep_expired`. -/
def sweepExpired (t : ChatTables υ) (tenantId : υ) (now : Time) : ChatTables υ :=
  {t with pendingApprovals := mapValues (fun _ row =>
    if ownerOf t row=some tenantId then {row with approval := expiredCopy row.approval now}
    else row) t.pendingApprovals}

/-- `resolve_approval_endpoint`, as far as it writes. -/
def resolveApproval (t : ChatTables υ) (approvalId : String) (granted : Bool) (tenantId : υ)
    (now : Time) : ChatTables υ :=
  match get t.pendingApprovals approvalId with
  | none => t
  | some row =>
    if ownerOf t row≠some tenantId ∨ row.approval.status.resolved=true then t
    else
      let approval := if row.approval.Overdue now then {row.approval with status := .expired}
        else resolvedCopy row.approval granted now
      {t with pendingApprovals := set t.pendingApprovals approvalId {row with approval}}

/-- `delete_session`: the rows of the session and below it. -/
def deleteSession (t : ChatTables υ) (id tenantId : υ) : ChatTables υ :=
  match get t.sessions id with
  | none => t
  | some row =>
    if row.tenantId≠tenantId then t
    else
      {sessions := t.sessions.filter fun e => decide (e.1≠id)
       messages := t.messages.filter fun m => decide (m.sessionId≠id)
       pendingApprovals := t.pendingApprovals.filter fun e => decide (e.2.sessionId≠id)}

/-- One request. -/
def chatStep (w : ChatWorld υ) : ChatAction υ → Option (ChatWorld υ)
  | .createSession sessionId tenantId actorId => createSession parse w sessionId tenantId actorId
  | .promoteEnquiry id tenantId actorId =>
    let row : SessionRow υ := ⟨tenantId,actorId,.human⟩
    some {w with tables := {w.tables with sessions := set w.tables.sessions id row}}
  | .sendMessage sessionId r => (ChatSends.sendMessage parse render org w sessionId r).map Prod.snd
  | .listApprovals tenantId now => some {w with tables := sweepExpired w.tables tenantId now}
  | .resolveApproval approvalId granted tenantId now =>
    some {w with tables := resolveApproval w.tables approvalId granted tenantId now}
  | .deleteSession id tenantId => some {w with tables := deleteSession w.tables id tenantId}

/-- The store has a pending approval of that id for the session and tenant. -/
def HasPending (w : ChatWorld υ) (sessionId tenantId : EntityId) (approvalId : String) : Prop :=
  ∃ session∈w.getSession parse render sessionId,session.tenantId=tenantId ∧
    ∃ ap∈get session.pendingApprovals approvalId,ap.status=.pending

/-! ## Nothing is ever stored -/

/-- No store has an approval. -/
structure NoApprovals (w : ChatWorld υ) : Prop where
  memory : ∀ sessionId,∀ session∈get w.memory sessionId,session.pendingApprovals=[]
  tables : w.tables.pendingApprovals=[]

variable {parse render org} {w w' : ChatWorld υ} {sessionId tenantId : EntityId}

theorem NoApprovals.getSession (h : NoApprovals w) {session : Session}
    (hget : w.getSession parse render sessionId=some session) : session.pendingApprovals=[] := by
  unfold ChatWorld.getSession at hget
  cases hkind : w.kind with
  | inMemory =>
    rw [hkind] at hget
    exact h.memory sessionId session hget
  | postgres =>
    rw [hkind] at hget
    obtain ⟨sid,-,hsid⟩ := Option.bind_eq_some_iff.mp hget
    obtain ⟨row,-,rfl⟩ := Option.map_eq_some_iff.mp hsid
    change ChatTables.approvalsOf w.tables sid=[]
    unfold ChatTables.approvalsOf
    rw [h.tables]
    rfl

theorem NoApprovals.not_pending (h : NoApprovals w) (approvalId : String) :
    ¬HasPending parse render w sessionId tenantId approvalId := by
  rintro ⟨session,hget,-,ap,hap,-⟩
  rw [h.getSession hget] at hap
  cases hap

theorem noApprovals_set {memory : InMemoryStore} {session : Session}
    (h : ∀ sid,∀ s∈get memory sid,s.pendingApprovals=[]) (hs : session.pendingApprovals=[]) :
    ∀ sid,∀ s∈get (set memory sessionId session) sid,s.pendingApprovals=[] := by
  intro sid s hget
  rw [get_set] at hget
  split at hget
  · cases hget
    exact hs
  · exact h sid s hget

/-- A turn stores no approval, whatever it asks for. -/
theorem NoApprovals.sendMessage (h : NoApprovals w) {r : SendRequest} {t : Turn}
    (hsend : ChatSends.sendMessage parse render org w sessionId r=some (t,w')) : NoApprovals w' := by
  obtain ⟨hget,-,-,rfl⟩ := sendMessage_some hsend
  have hnone := h.getSession hget
  unfold ChatWorld.afterTurn
  cases w.kind with
  | inMemory => exact ⟨noApprovals_set h.memory hnone,h.tables⟩
  | postgres => exact h

/-- No request stores an approval. -/
theorem NoApprovals.step (h : NoApprovals w) {action : ChatAction υ}
    (hstep : chatStep parse render org w action=some w') : NoApprovals w' := by
  cases action with
  | createSession sessionId tenantId actorId =>
    unfold chatStep createSession at hstep
    dsimp only at hstep
    cases hkind : w.kind with
    | inMemory =>
      rw [hkind] at hstep
      cases hstep
      exact ⟨noApprovals_set h.memory rfl,h.tables⟩
    | postgres =>
      rw [hkind] at hstep
      obtain ⟨sid,-,hsid⟩ := Option.bind_eq_some_iff.mp hstep
      obtain ⟨tid,-,htid⟩ := Option.bind_eq_some_iff.mp hsid
      cases htid
      exact ⟨h.memory,h.tables⟩
  | promoteEnquiry id tenantId actorId =>
    cases hstep
    exact ⟨h.memory,h.tables⟩
  | sendMessage sessionId r =>
    obtain ⟨⟨t,w''⟩,hsend,rfl⟩ := Option.map_eq_some_iff.mp hstep
    exact h.sendMessage hsend
  | listApprovals tenantId now =>
    cases hstep
    refine ⟨h.memory,?_⟩
    unfold sweepExpired
    rw [h.tables]
    rfl
  | resolveApproval approvalId granted tenantId now =>
    cases hstep
    refine ⟨h.memory,?_⟩
    unfold resolveApproval
    rw [h.tables]
    exact h.tables
  | deleteSession id tenantId =>
    cases hstep
    refine ⟨h.memory,?_⟩
    unfold deleteSession
    split
    · exact h.tables
    · split
      · exact h.tables
      · rw [h.tables]
        rfl

theorem noApprovals_of_run {kind : StoreKind} {actions : List (ChatAction υ)}
    (hrun : Run (ofPartial (chatStep parse render org)) {kind} actions w) : NoApprovals w :=
  hrun.invariant ⟨fun _ _ hget => (by cases hget),rfl⟩ fun _ _ _ h hstep => h.step hstep

/-- After any run of requests on either store, what a turn asks for can be
resolved if and only if no call of the turn asks. -/
theorem requests_resolvable_iff {kind : StoreKind} {actions : List (ChatAction υ)} {r : SendRequest}
    {t : Turn} (hrun : Run (ofPartial (chatStep parse render org)) {kind} actions w)
    (hsend : ChatSends.sendMessage parse render org w sessionId r=some (t,w')) :
    (∀ ev∈t.events,ev.kind=.approvalRequest → ∀ a,ev.fields.approvalId=some a →
        HasPending parse render w' sessionId r.tenantId a) ↔
      ∀ i∈t.state.invocations,
        ¬Asks org.rt (turnContext t.session (newTurnId r.env.seed) r.body.approvals r.actorRole)
          i.name i.input := by
  have hnone : NoApprovals w' := (noApprovals_of_run hrun).sendMessage hsend
  obtain ⟨-,-,hturn,-⟩ := sendMessage_some hsend
  have hasks := requests_iff_asks org t.session r.body.message r.body.approvals r.actorRole r.env r.stop
  have hevents : t.events=(turnTaken org t.session r.body.message r.body.approvals r.actorRole r.env
      r.stop).1 := congrArg Turn.events hturn
  have hstate : t.state=(turnTaken org t.session r.body.message r.body.approvals r.actorRole r.env
      r.stop).2 := congrArg Turn.state hturn
  rw [← hevents,← hstate] at hasks
  constructor
  · intro h i hi hasksCall
    obtain ⟨ev,hev,hkind⟩ := hasks.mpr ⟨i,hi,hasksCall⟩
    obtain ⟨a,-,ha⟩ := requestedId_isSome hkind
    exact hnone.not_pending a (h ev hev hkind a ha)
  · intro h ev hev hkind
    obtain ⟨i,hi,hasksCall⟩ := hasks.mp ⟨ev,hev,hkind⟩
    exact absurd hasksCall (h i hi)

/-! ## A ticketing lead's first turn -/

/-- Creating the lead's session in the in-memory store. -/
def leadWorld : ChatWorld Nat :=
  {kind := .inMemory,memory := [(deskSession.id,deskSession)]}

/-- The lead asks to issue a ticket. -/
def leadRequest : SendRequest :=
  {tenantId := deskSession.tenantId
   actorRole := "ticketing_lead"
   body := {message := "Issue PNR-1"}
   env := ticketingTurn deskSeed}

theorem leadWorld_run :
    Run (ofPartial (chatStep (fun _ => none) (fun _ : Nat => "") deskOrchestrator)) {kind := .inMemory}
      [.createSession deskSession.id deskSession.tenantId deskSession.actorId] leadWorld :=
  Run.start.next rfl

theorem leadWorld_send :
    sendMessage (fun _ => none) (fun _ : Nat => "") deskOrchestrator leadWorld deskSession.id
      leadRequest=some (turnOn deskOrchestrator deskSession leadRequest,
        leadWorld.afterTurn deskSession.id (turnOn deskOrchestrator deskSession leadRequest)) := rfl

theorem requests_resolvable_iff_lead :
    (∀ ev∈(turnOn deskOrchestrator deskSession leadRequest).events,ev.kind=.approvalRequest →
        ∀ a,ev.fields.approvalId=some a →
          HasPending (fun _ => none) (fun _ : Nat => "")
            (leadWorld.afterTurn deskSession.id (turnOn deskOrchestrator deskSession leadRequest))
            deskSession.id deskSession.tenantId a) ↔
      ∀ i∈(turnOn deskOrchestrator deskSession leadRequest).state.invocations,
        ¬Asks deskOrchestrator.rt (turnContext deskSession (newTurnId deskSeed) none "ticketing_lead")
          i.name i.input :=
  requests_resolvable_iff leadWorld_run leadWorld_send

/-- The request for the ticket is shown, and no store has it. -/
theorem leadRequest_notStored :
    ∃ (w' : ChatWorld Nat) (t : Turn),
      Run (ofPartial (chatStep (fun _ => none) (fun _ : Nat => "") deskOrchestrator))
        {kind := .inMemory} [.createSession deskSession.id deskSession.tenantId deskSession.actorId]
        leadWorld ∧
      sendMessage (fun _ => none) (fun _ : Nat => "") deskOrchestrator leadWorld deskSession.id
        leadRequest=some (t,w') ∧
      ∃ ev∈t.events,ev.kind=.approvalRequest ∧
        ev.fields.approvalId=some "ap-t-0123456789ab-issue_ticket" ∧
        ¬HasPending (fun _ => none) (fun _ : Nat => "") w' deskSession.id leadRequest.tenantId
          "ap-t-0123456789ab-issue_ticket" := by
  have hnone := (noApprovals_of_run leadWorld_run).sendMessage leadWorld_send
  have hevents : (turnOn deskOrchestrator deskSession leadRequest).events=pausedTurn.events := by
    rw [turnOn_events rfl]
    rfl
  obtain ⟨ev,hev,hkind,hid,-⟩ := pausedTurn_requests
  rw [← hevents] at hev
  exact ⟨_,_,leadWorld_run,leadWorld_send,ev,hev,hkind,hid,hnone.not_pending _⟩

end Voyagent.RequestedApprovals
