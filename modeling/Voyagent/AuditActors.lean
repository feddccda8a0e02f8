import Voyagent.AuditTrail
import Voyagent.AuthAccounts
import Voyagent.RequestedApprovals

/-!
# Actors of the audit trail

Requests by the users of a tenant on its sessions, and the audit events their
turns write. The context of a turn takes its actor from the session, which has
the user who created it, and its role from the request. So an event names the
user whose request wrote it where a session is used by its creator alone.
-/

namespace Voyagent.AuditActors

open RuntimeValues KeyedMap TrimmedText ToolInvocation AuditTrail AgentLoop Sessions
open OrchestratorTurn TurnRequests TurnTermination ApprovalResume ChatSends RequestedApprovals
open GeneratorRelations TransitionRuns
open AuthAccounts (UserRole)
open SseReconnect (StoreKind SendMessageRequest)

/-! ## What an audit event names -/

section Events

variable {rt : Runtime} {env : InvokeEnv} {ctx : ToolContext} {name : String} {input : Dict}
variable {spec : ToolSpec} {event : AuditEvent}

/-- The actor of the context wrote the event, and approved it only with a grant on record. -/
structure NamesContext (ctx : ToolContext) (name : String) (event : AuditEvent) : Prop where
  actor : event.actorId=ctx.actorId
  approver : ∀ u,event.approvedBy=some u →
    u=ctx.actorId ∧ get ctx.approvals (approvalIdFor ctx.turnId name)=some true

/-- What closing an open event adds says nothing about who acted. -/
theorem closeAudit_names {audit : AuditEvent} {status : AuditStatus} {error : Option String}
    {outputs : Dict} {rest : InvokeReport} (haudit : NamesContext ctx name audit)
    (hrest : rest.effects=[])
    (h : event∈writes (closeAudit env (some audit) status error outputs rest)) :
    NamesContext ctx name event := by
  rcases mem_writeAudit (mem_writes.mp h) with heq|hmem
  · cases heq
    exact ⟨haudit.actor,haudit.approver⟩
  · rw [hrest] at hmem
    cases hmem

theorem finishCall_names {audit : AuditEvent} {result : ExecResult}
    (haudit : NamesContext ctx name audit)
    (h : event∈writes (finishCall rt env spec name (some audit) result)) :
    NamesContext ctx name event := by
  unfold finishCall at h
  split at h
  · cases h
  · exact closeAudit_names haudit rfl h
  · exact closeAudit_names haudit rfl h
  · exact closeAudit_names haudit rfl h
  · exact closeAudit_names haudit rfl h
  · exact closeAudit_names haudit rfl h

/-- Without an open event nothing is written. -/
theorem finishCall_silent {result : ExecResult} :
    writes (finishCall rt env spec name none result)=[] := by
  unfold finishCall
  split <;> rfl

/-- Calling the handler writes nothing. -/
theorem runHandler_writes {audit : Option AuditEvent}
    (h : event∈writes (runHandler rt env spec name input audit)) :
    event∈writes (finishCall rt env spec name audit
      (executeHandler spec.outputSchema env.handler (maxValidationAttempts spec-1) 1).result) := by
  rcases List.mem_append.mp (mem_writes.mp h) with hcall|hmem
  · cases (List.mem_replicate.mp hcall).2
  · exact mem_writes.mpr hmem

/-- The event opened behind the gate. -/
theorem runWithAudit_names (hgate : approvalGate spec ctx name=.passed)
    (h : event∈writes (runWithAudit rt env ctx spec name input)) :
    NamesContext ctx name event := by
  unfold runWithAudit at h
  by_cases hside : spec.sideEffect=true
  · rw [if_pos hside] at h
    have hopened : NamesContext ctx name {auditBase rt env ctx name input with
        approvalRequired := spec.approvalRequired
        approvedBy := if spec.approvalRequired then some ctx.actorId else none
        approvedAt := if spec.approvalRequired then some env.startedAt else none
        status := .started} := by
      refine ⟨rfl,fun u hu => ?_⟩
      by_cases hrequired : spec.approvalRequired=true
      · have happroved : some ctx.actorId=some u := by simpa [hrequired] using hu
        refine ⟨(Option.some.inj happroved).symm,?_⟩
        unfold approvalGate at hgate
        rw [hside,hrequired] at hgate
        cases hdecision : get ctx.approvals (approvalIdFor ctx.turnId name) with
        | none => simp [hdecision] at hgate
        | some granted =>
          cases granted with
          | false => simp [hdecision] at hgate
          | true => rfl
      · simp [hrequired] at hu
    rcases mem_writeAudit (mem_writes.mp h) with heq|hmem
    · cases heq
      exact hopened
    · exact finishCall_names hopened (runHandler_writes (mem_writes.mpr hmem))
  · rw [if_neg hside] at h
    have hwritten := runHandler_writes h
    rw [finishCall_silent] at hwritten
    cases hwritten

/-- Every event a call writes names the actor of its context. -/
theorem invokeTool_names (h : event∈writes (invokeTool rt env ctx name input)) :
    NamesContext ctx name event := by
  unfold invokeTool at h
  split at h
  · cases h
  · split at h
    · cases h
    · cases h
    · split at h
      · rcases mem_writeAudit (mem_writes.mp h) with heq|hmem
        · cases heq
          exact ⟨rfl,fun u hu => by cases hu⟩
        · cases hmem
      · split at h
        · cases h
        · rcases mem_writeAudit (mem_writes.mp h) with heq|hmem
          · cases heq
            exact ⟨rfl,fun u hu => by cases hu⟩
          · cases hmem
        · rename_i hgate
          exact runWithAudit_names hgate h

end Events

/-! ## Requests of a team -/

/-- The user a request is authenticated as. -/
structure Principal where
  userId : EntityId
  tenantId : EntityId
  role : UserRole

/-- An audit event beside the request whose turn wrote it. -/
structure AuditEntry where
  principal : Principal
  /-- The decisions the request carries. -/
  approvals : Option (Table String Bool)
  /-- The role of the context, which the permission check looked at. -/
  checkedRole : String
  event : AuditEvent

/-- The user whose decisions are in force: the one whose request carries them. Without any, the
turn falls back to decisions of the session's store, and no store ever has one. -/
def AuditEntry.granter (e : AuditEntry) : Option EntityId :=
  if (e.approvals.getD []).isEmpty then none else some e.principal.userId

/-- The event names the user whose request wrote it, under this user's role, and the user who
granted the approval. -/
structure Attributed (e : AuditEntry) : Prop where
  actor : e.event.actorId=e.principal.userId
  role : e.checkedRole=e.principal.role.value
  approver : ∀ u,e.event.approvedBy=some u → e.granter=some u

/-- The world of the chat endpoints, and everything that was audited. -/
structure TeamWorld (υ : Type) where
  world : ChatWorld υ
  audits : List AuditEntry := []

/-- A request that runs a turn, with who sends it; or another request. -/
inductive TeamAction (υ : Type) where
  | api (a : ChatAction υ)
  | send (p : Principal) (sessionId : EntityId) (body : SendMessageRequest) (env : TurnEnv)
      (stop : Option Nat)

/-- The request as the endpoint hands it on. -/
def sendRequest (p : Principal) (body : SendMessageRequest) (env : TurnEnv) (stop : Option Nat) :
    SendRequest where
  tenantId := p.tenantId
  actorRole := p.role.value
  body
  env
  stop

/-- The context of a turn. -/
def Turn.ctx (t : Turn) : ToolContext :=
  turnContext t.session (newTurnId t.request.env.seed) t.request.body.approvals t.request.actorRole

/-- What a turn audits. -/
def entriesOf (p : Principal) (t : Turn) : List AuditEntry :=
  t.state.invocations.flatMap fun i =>
    (writes i.report).map fun event => ⟨p,t.request.body.approvals,(Turn.ctx t).actorRole,event⟩

section Runs

variable {υ : Type} [DecidableEq υ] (parse : EntityId → Option υ) (render : υ → EntityId)
variable (org : Orchestrator)

def teamStep (s : TeamWorld υ) : TeamAction υ → Option (TeamWorld υ)
  -- turns are run by `send` alone
  | .api (.sendMessage _ _) => none
  | .api a => (chatStep parse render org s.world a).map fun w => {s with world := w}
  | .send p sessionId body env stop =>
    (sendMessage parse render org s.world sessionId (sendRequest p body env stop)).map fun r =>
      ⟨r.2,s.audits++entriesOf p r.1⟩

/-- The session was created by the user who sends to it. -/
def OwnSession (s : TeamWorld υ) : TeamAction υ → Prop
  | .api _ => True
  | .send p sessionId _ _ _ =>
    ∀ session,s.world.getSession parse render sessionId=some session → session.actorId=p.userId

variable {parse render org} {s s' : TeamWorld υ} {p : Principal}

/-- Every logged call was made under the context of its turn. -/
theorem taken_calls (org : Orchestrator) (session : Session) (r : SendRequest) {i : Invocation}
    (hi : i∈(turnOn org session r).state.invocations) :
    i.report=invokeTool org.rt i.env (Turn.ctx (turnOn org session r)) i.name i.input := by
  have halong : Along (Recorded org.rt (Turn.ctx (turnOn org session r)))
      (turnGen org session r.body.message r.body.approvals r.actorRole r.env) fun _ => True :=
    turnGen_along r.body.approvals r.actorRole
  obtain ⟨is,his,hgenuine,-⟩ := ((halong {history := session.messageHistory}).1.taken r.stop).calls
  rw [List.nil_append] at his
  have hmem : i∈is := his ▸ hi
  exact hgenuine i hmem

theorem role_bare (role : UserRole) : stripWhitespace role.value=role.value := by
  cases role <;> decide

/-- A turn without decisions, in a session that waits for none, has no approvals. -/
theorem turnContext_approvals {session : Session} {turnId actorRole : String}
    {approvals : Option (Table String Bool)} (hnone : session.pendingApprovals=[])
    (hempty : (approvals.getD []).isEmpty=true) :
    (turnContext session turnId approvals actorRole).approvals=[] := by
  unfold turnContext ToolContext.stripped
  cases approvals with
  | none =>
    simp only [Session.approvalsMap,hnone]
    rfl
  | some d =>
    rw [Option.getD_some,List.isEmpty_iff] at hempty
    simp only [hempty,Session.approvalsMap,hnone]
    rfl


/-- A turn without stored approvals is attributed exactly when it audits nothing or its user
created the session. -/
theorem entries_attributed_iff (org : Orchestrator) (session : Session) (p : Principal)
    (body : SendMessageRequest) (env : TurnEnv) (stop : Option Nat)
    (hnone : session.pendingApprovals=[]) :
    (∀ e∈entriesOf p (turnOn org session (sendRequest p body env stop)),Attributed e) ↔
      entriesOf p (turnOn org session (sendRequest p body env stop))=[] ∨
        session.actorId=p.userId := by
  have hentry : ∀ e∈entriesOf p (turnOn org session (sendRequest p body env stop)),
      e.event.actorId=session.actorId ∧ e.principal=p ∧ e.checkedRole=p.role.value ∧
        ∀ u,e.event.approvedBy=some u → u=session.actorId ∧ e.granter=some p.userId := by
    intro e he
    obtain ⟨i,hi,hwritten⟩ := List.mem_flatMap.mp he
    obtain ⟨event,hevent,rfl⟩ := List.mem_map.mp hwritten
    rw [taken_calls org session _ hi] at hevent
    have hnames := invokeTool_names hevent
    refine ⟨hnames.actor,rfl,role_bare p.role,fun u hu => ?_⟩
    obtain ⟨hactor,hgranted⟩ := hnames.approver u hu
    refine ⟨hactor,if_neg fun hempty => ?_⟩
    have happrovals : (Turn.ctx (turnOn org session (sendRequest p body env stop))).approvals=[] :=
      turnContext_approvals hnone hempty
    rw [happrovals] at hgranted
    cases hgranted
  constructor
  · intro h
    cases hentries : entriesOf p (turnOn org session (sendRequest p body env stop)) with
    | nil => exact .inl rfl
    | cons e es =>
      have he : e∈entriesOf p (turnOn org session (sendRequest p body env stop)) :=
        hentries ▸ List.mem_cons_self
      obtain ⟨hactor,hprincipal,-,-⟩ := hentry e he
      refine .inr ?_
      rw [← hactor,(h e he).actor,hprincipal]
  · rintro (hempty|hcreator) e he
    · rw [hempty] at he
      cases he
    · obtain ⟨hactor,hprincipal,hrole,happroved⟩ := hentry e he
      refine ⟨?_,?_,fun u hu => ?_⟩
      · rw [hactor,hcreator,hprincipal]
      · rw [hrole,hprincipal]
      · obtain ⟨hu,hgranter⟩ := happroved u hu
        rw [hgranter,hu,hcreator]

/-- No store has an approval, and everything audited is attributed. -/
structure TeamFacts (s : TeamWorld υ) : Prop where
  noApprovals : NoApprovals s.world
  attributed : ∀ e∈s.audits,Attributed e

/-- A request on an own session keeps the trail attributed. -/
theorem TeamFacts.step (h : TeamFacts s) {a : TeamAction υ} (hstep : teamStep parse render org s a=some s')
    (hown : OwnSession parse render s a) : TeamFacts s' := by
  cases a with
  | api a =>
    have hchat : (chatStep parse render org s.world a).map (fun w => {s with world := w})=some s' := by
      cases a with
      | sendMessage sessionId r => cases hstep
      | _ => exact hstep
    obtain ⟨w,hw,rfl⟩ := Option.map_eq_some_iff.mp hchat
    exact ⟨h.noApprovals.step hw,h.attributed⟩
  | send p sessionId body env stop =>
    obtain ⟨⟨t,w⟩,hsend,rfl⟩ := Option.map_eq_some_iff.mp hstep
    obtain ⟨hget,-,hturn,-⟩ := sendMessage_some hsend
    have hcreator : t.session.actorId=p.userId := hown t.session hget
    have hnone : t.session.pendingApprovals=[] := h.noApprovals.getSession hget
    refine ⟨h.noApprovals.sendMessage hsend,fun e he => ?_⟩
    rcases List.mem_append.mp he with he|he
    · exact h.attributed e he
    · have he' : e∈entriesOf p (turnOn org t.session (sendRequest p body env stop)) := hturn ▸ he
      exact (entries_attributed_iff org t.session p body env stop hnone).mpr (.inr hcreator) e he'

end Runs

/-- Along every run whose requests are sent to sessions of their own users, every audit event
names the user whose request wrote it. -/
theorem audits_attributed {υ : Type} [DecidableEq υ] (parse : EntityId → Option υ)
    (render : υ → EntityId) (org : Orchestrator) (kind : StoreKind) (actions : List (TeamAction υ))
    (s : TeamWorld υ)
    (hrun : Run (guarded (ofPartial (teamStep parse render org)) (OwnSession parse render))
      {world := {kind}} actions s) : ∀ e∈s.audits,Attributed e := by
  have hfacts : TeamFacts s :=
    hrun.guarded_invariant ⟨⟨fun _ _ hget => (by cases hget),rfl⟩,fun _ he => absurd he List.not_mem_nil⟩
      fun _ _ _ h hstep hown => h.step hstep hown
  exact hfacts.attributed

/-- The lead who created the desk's session, and a colleague. -/
def lead : Principal := ⟨deskSession.actorId,deskSession.tenantId,.ticketingLead⟩

def colleague : Principal :=
  ⟨"01900000-0000-7000-8000-000000000009",deskSession.tenantId,.ticketingLead⟩

/-- The model hands over, has a ticket issued and says so. -/
def issueTurn : TurnEnv :=
  { ticketingTurn deskSeed with
    domainCalls := fun n =>
      if n=0 then callsTool "issue_ticket" [("pnr_id",.str "PNR-1")]
      else
        {attempts := fun _ => ⟨[.messageStop (some ⟨some "end_turn",[.text "Issued"]⟩)],none⟩
         tools := fun _ => {auditId := "",handler := fun _ => .returned .none}} }

/-- The request for the ticket, with its grant. -/
def issueBody : SendMessageRequest :=
  {message := "Issue PNR-1",approvals := some [("ap-t-0123456789ab-issue_ticket",true)]}

/-- The turn of the request on the lead's session. -/
def issueTaken (p : Principal) : Turn :=
  turnOn deskOrchestrator deskSession (sendRequest p issueBody issueTurn none)

/-- The lead creates the session, and someone has a ticket issued in it. -/
def deskRequests (p : Principal) : List (TeamAction Nat) :=
  [.api (.createSession deskSession.id lead.tenantId lead.userId),
   .send p deskSession.id issueBody issueTurn none]

/-- The world the requests lead to, on the in-memory store. -/
def deskTeam (p : Principal) : TeamWorld Nat :=
  ⟨leadWorld.afterTurn deskSession.id (issueTaken p),entriesOf p (issueTaken p)⟩

/-- The lead's own request is attributed: the event that opens and the one that closes. -/
theorem audits_attributed_lead :
    (deskTeam lead).audits.length=2 ∧ ∀ e∈(deskTeam lead).audits,Attributed e := by
  refine ⟨by decide +kernel,audits_attributed (fun _ => none) (fun _ : Nat => "") deskOrchestrator
    .inMemory (deskRequests lead) (deskTeam lead) ?_⟩
  have hcreated : Run (guarded (ofPartial (teamStep (fun _ => none) (fun _ : Nat => "")
        deskOrchestrator)) (OwnSession (fun _ => none) fun _ : Nat => ""))
      {world := {kind := .inMemory}} [.api (.createSession deskSession.id lead.tenantId lead.userId)]
      {world := leadWorld} := Run.start.next ⟨rfl,trivial⟩
  refine hcreated.next ⟨rfl,fun session hsession => ?_⟩
  cases hsession
  rfl

/-- A colleague's request in the same session: the trail says the lead acted and approved. -/
theorem colleague_named_lead :
    Run (ofPartial (teamStep (fun _ => none) (fun _ : Nat => "") deskOrchestrator))
        {world := {kind := .inMemory}} (deskRequests colleague) (deskTeam colleague) ∧
      ∃ e∈(deskTeam colleague).audits,e.principal.userId=colleague.userId ∧
        e.event.actorId=lead.userId ∧ e.event.approvedBy=some lead.userId ∧ ¬Attributed e := by
  have hcreated : Run (ofPartial (teamStep (fun _ => none) (fun _ : Nat => "") deskOrchestrator))
      {world := {kind := .inMemory}} [.api (.createSession deskSession.id lead.tenantId lead.userId)]
      {world := leadWorld} := Run.start.next rfl
  refine ⟨hcreated.next rfl,?_⟩
  have hnamed : ∃ e∈(deskTeam colleague).audits,e.principal.userId=colleague.userId ∧
      e.event.actorId=lead.userId ∧ e.event.approvedBy=some lead.userId := by
    decide +kernel
  obtain ⟨e,he,hprincipal,hactor,happroved⟩ := hnamed
  refine ⟨e,he,hprincipal,hactor,happroved,fun hattributed => ?_⟩
  have hsame : lead.userId=colleague.userId :=
    hactor.symm.trans (hattributed.actor.trans hprincipal)
  exact absurd hsame (by decide)

end Voyagent.AuditActors
