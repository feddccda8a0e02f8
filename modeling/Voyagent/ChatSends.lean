import Mathlib.Data.List.Chain
import Voyagent.ApprovalStores
import Voyagent.SseReconnect
import Voyagent.TurnRequests

/-!
# Sending messages to a stored session

The in-memory store hands every request the live session; the Postgres store
builds a session from its rows. A turn changes the session it was handed, and
nothing writes messages to the rows, so what a turn adds is remembered by the
first store alone.
-/

namespace Voyagent.ChatSends

open RuntimeValues KeyedMap SessionTranscript ToolInvocation AgentEvents AgentLoop Sessions
open OrchestratorTurn TurnRequests ApprovalStores
open SseReconnect (StoreKind SendMessageRequest)

variable {υ : Type} [DecidableEq υ]

/-! ## The stores -/

/-- A row of `sessions`. -/
structure SessionRow (υ : Type) where
  tenantId : υ
  actorId : Option υ
  actorKind : ActorKind

/-- A row of `messages`. -/
structure MessageRow (υ : Type) where
  sessionId : υ
  sequence : Nat
  message : Message

/-- The tables a session is read from. -/
structure ChatTables (υ : Type) where
  sessions : Table υ (SessionRow υ) := []
  messages : List (MessageRow υ) := []
  pendingApprovals : Table String (PendingApprovalRow υ) := []

/-- The stores of a process, one of them configured. -/
structure ChatWorld (υ : Type) where
  kind : StoreKind
  memory : InMemoryStore := []
  tables : ChatTables υ := {}

/-! Identifiers are read and shown by the `uuid` library. -/

variable (parse : EntityId → Option υ) (render : υ → EntityId)

/-- The messages of a session in sequence. -/
def ChatTables.messagesOf (t : ChatTables υ) (sid : υ) : List Message :=
  ((t.messages.filter fun m => decide (m.sessionId=sid)).mergeSort
    fun m m' => decide (m.sequence≤ m'.sequence)).map MessageRow.message

def ChatTables.approvalsOf (t : ChatTables υ) (sid : υ) : Table String PendingApproval :=
  (t.pendingApprovals.filter fun e => decide (e.2.sessionId=sid)).map fun e => (e.1,e.2.approval)

/-- `PostgresSessionStore.get` on a parsed id. -/
def ChatTables.getSession (t : ChatTables υ) (sid : υ) : Option Session :=
  (get t.sessions sid).map fun row =>
    {id := render sid
     tenantId := render row.tenantId
     actorId := (row.actorId.map render).getD (render sid)
     actorKind := row.actorKind
     messageHistory := t.messagesOf sid
     pendingApprovals := t.approvalsOf sid}

/-- `session_store.get`; nothing too where it raises. -/
def ChatWorld.getSession (w : ChatWorld υ) (sessionId : EntityId) : Option Session :=
  match w.kind with
  | .inMemory => get w.memory sessionId
  | .postgres => (parse sessionId).bind (ChatTables.getSession render w.tables)

/-! ## The endpoint -/

/-- A request whose live path runs a turn. -/
structure SendRequest where
  tenantId : EntityId
  actorRole : String
  body : SendMessageRequest
  /-- What the world does during the turn. -/
  env : TurnEnv
  /-- The yield at which the endpoint leaves the turn, if it does. -/
  stop : Option Nat := none

/-- An execution of `run_turn`: the session it was called with, and the events
and the state it was left with. -/
structure Turn where
  request : SendRequest
  session : Session
  events : List AgentEvent
  state : TurnState

def Turn.started (t : Turn) : List Message := t.session.messageHistory

def Turn.ended (t : Turn) : List Message := t.state.history

/-- The turn of a request on a session. -/
def turnOn (org : Orchestrator) (session : Session) (r : SendRequest) : Turn :=
  let taken := turnTaken org session r.body.message r.body.approvals r.actorRole r.env r.stop
  ⟨r,session,taken.1,taken.2⟩

/-- A turn nobody leaves early is a whole run. -/
theorem turnOn_events {org : Orchestrator} {session : Session} {r : SendRequest}
    (h : r.stop=none) :
    (turnOn org session r).events=
      (runTurn org session r.body.message r.body.approvals r.actorRole r.env).events := by
  unfold turnOn turnTaken
  rw [h]
  rfl

/-- What a turn leaves in the store: the live session is the one it changed. -/
def ChatWorld.afterTurn (w : ChatWorld υ) (sessionId : EntityId) (t : Turn) : ChatWorld υ :=
  match w.kind with
  | .inMemory =>
    {w with memory := set w.memory sessionId {t.session with messageHistory := t.ended}}
  | .postgres => w

variable (org : Orchestrator)

/-- `send_message`; an unknown session and one of another tenant are not found. -/
def sendMessage (w : ChatWorld υ) (sessionId : EntityId) (r : SendRequest) :
    Option (Turn × ChatWorld υ) :=
  match w.getSession parse render sessionId with
  | none => none
  | some session =>
    if session.tenantId≠r.tenantId then none
    else some (turnOn org session r,w.afterTurn sessionId (turnOn org session r))

/-- The turns of requests to one session, each sent when the one before is done. -/
def turnsOf (w : ChatWorld υ) (sessionId : EntityId) : List SendRequest → List Turn
  | [] => []
  | r::rs =>
    match sendMessage parse render org w sessionId r with
    | none => turnsOf w sessionId rs
    | some (t,w') => t::turnsOf w' sessionId rs

/-- Every turn starts from the history the one before ended with. -/
def Remembered (turns : List Turn) : Prop := turns.IsChain fun t t' => t'.started=t.ended

/-! ## What is remembered -/

variable {parse render org} {w w' : ChatWorld υ} {sessionId : EntityId} {r : SendRequest} {t : Turn}

/-- What a request finds and leaves. -/
theorem sendMessage_some (h : sendMessage parse render org w sessionId r=some (t,w')) :
    w.getSession parse render sessionId=some t.session ∧ t.session.tenantId=r.tenantId ∧
      t=turnOn org t.session r ∧ w'=w.afterTurn sessionId t := by
  unfold sendMessage at h
  split at h
  · cases h
  · rename_i session hsession
    split at h
    · cases h
    · rename_i htenant
      cases h
      exact ⟨hsession,Decidable.not_not.mp htenant,rfl,rfl⟩

/-- The history a request would start from. -/
def storedHistory (parse : EntityId → Option υ) (render : υ → EntityId) (w : ChatWorld υ)
    (sessionId : EntityId) : Option (List Message) :=
  (w.getSession parse render sessionId).map Session.messageHistory

/-- The first turn starts from what is stored. -/
theorem started_of_head (rs : List SendRequest) :
    ∀ t∈(turnsOf parse render org w sessionId rs).head?,
      storedHistory parse render w sessionId=some t.started := by
  induction rs with
  | nil => exact fun t ht => (by cases ht)
  | cons r rs ih =>
    intro t ht
    unfold turnsOf at ht
    cases hsend : sendMessage parse render org w sessionId r with
    | none =>
      rw [hsend] at ht
      exact ih t ht
    | some result =>
      rw [hsend] at ht
      cases ht
      rw [storedHistory,(sendMessage_some hsend).1]
      rfl

theorem afterTurn_kind (t : Turn) : (w.afterTurn sessionId t).kind=w.kind := by
  unfold ChatWorld.afterTurn
  cases hkind : w.kind <;> simp [hkind]

/-- In memory, what is stored is what the turn ended with. -/
theorem stored_of_inMemory (hkind : w.kind=.inMemory) (t : Turn) :
    storedHistory parse render (w.afterTurn sessionId t) sessionId=some t.ended := by
  unfold storedHistory ChatWorld.getSession
  rw [afterTurn_kind,hkind]
  simp [ChatWorld.afterTurn,hkind]

/-- In Postgres, a turn changes nothing stored. -/
theorem afterTurn_of_postgres (hkind : w.kind=.postgres) (t : Turn) :
    w.afterTurn sessionId t=w := by
  unfold ChatWorld.afterTurn
  rw [hkind]

theorem remembered_of_inMemory (hkind : w.kind=.inMemory) (rs : List SendRequest) :
    Remembered (turnsOf parse render org w sessionId rs) := by
  induction rs generalizing w with
  | nil => exact .nil
  | cons r rs ih =>
    unfold turnsOf
    cases hsend : sendMessage parse render org w sessionId r with
    | none => exact ih hkind
    | some result =>
      obtain ⟨t,w'⟩ := result
      obtain ⟨-,-,-,rfl⟩ := sendMessage_some hsend
      refine List.isChain_cons.mpr ⟨fun t' ht' => ?_,ih ((afterTurn_kind t).trans hkind)⟩
      have hstored := started_of_head rs t' ht'
      rw [stored_of_inMemory hkind] at hstored
      exact (Option.some.inj hstored).symm

/-- In Postgres, every turn starts from the same rows. -/
theorem started_of_postgres (hkind : w.kind=.postgres) (rs : List SendRequest) :
    ∀ t∈turnsOf parse render org w sessionId rs,t=turnOn org t.session t.request ∧
      storedHistory parse render w sessionId=some t.started := by
  induction rs with
  | nil => exact fun t ht => (by cases ht)
  | cons r rs ih =>
    unfold turnsOf
    cases hsend : sendMessage parse render org w sessionId r with
    | none => exact ih
    | some result =>
      obtain ⟨t,w'⟩ := result
      obtain ⟨hsession,-,hturn,rfl⟩ := sendMessage_some hsend
      dsimp only
      rw [afterTurn_of_postgres hkind]
      refine List.forall_mem_cons.mpr ⟨⟨?_,?_⟩,ih⟩
      · rw [hturn]
        rfl
      · rw [storedHistory,hsession]
        rfl

/-- A turn ends with the history it started from exactly when a gate stops it. -/
theorem ended_eq_started_iff (h : t=turnOn org t.session t.request) :
    t.ended=t.started ↔ ¬GatesPassed t.request.env := by
  have hended : t.ended=(turnTaken org t.session t.request.body.message t.request.body.approvals
      t.request.actorRole t.request.env t.request.stop).2.history := congrArg Turn.ended h
  constructor
  · intro heq hpassed
    have hprefix := history_of_passed org t.session t.request.body.message t.request.body.approvals
      t.request.actorRole t.request.stop hpassed
    rw [← hended,heq] at hprefix
    have hlength := hprefix.length_le
    rw [List.length_append] at hlength
    exact absurd hlength (Nat.not_succ_le_self _)
  · intro hstopped
    rw [hended,history_of_stopped org _ _ _ _ _ hstopped]
    rfl

/-- Turns that all start alike are a chain when all but the last end alike. -/
theorem remembered_iff_dropLast {turns : List Turn} {history : List Message}
    (h : ∀ t∈turns,t.started=history) :
    Remembered turns ↔ ∀ t∈turns.dropLast,t.ended=t.started := by
  induction turns with
  | nil => exact ⟨fun _ t ht => (by cases ht),fun _ => .nil⟩
  | cons t turns ih =>
    have hrest : ∀ t∈turns,t.started=history := fun t' ht' => h t' (List.mem_cons_of_mem _ ht')
    have ht : t.started=history := h t List.mem_cons_self
    cases turns with
    | nil => exact ⟨fun _ t ht => (by cases ht),fun _ => .singleton _⟩
    | cons t' turns =>
      have ht' : t'.started=history := hrest t' List.mem_cons_self
      unfold Remembered at ih ⊢
      rw [List.isChain_cons_cons,ih hrest,List.dropLast_cons_cons,List.forall_mem_cons,ht',ht]
      exact and_congr_left' eq_comm

/-- For every store, session and sequence of requests, each turn starts from
what the turn before ended with if and only if the store is the in-memory one
or every turn but the last is stopped at a gate. -/
theorem history_remembered_iff (parse : EntityId → Option υ) (render : υ → EntityId)
    (org : Orchestrator) (w : ChatWorld υ) (sessionId : EntityId) (rs : List SendRequest) :
    Remembered (turnsOf parse render org w sessionId rs) ↔
      w.kind=.inMemory ∨
        ∀ t∈(turnsOf parse render org w sessionId rs).dropLast,¬GatesPassed t.request.env := by
  cases hkind : w.kind with
  | inMemory => exact ⟨fun _ => .inl rfl,fun _ => remembered_of_inMemory hkind rs⟩
  | postgres =>
    have hturns : ∀ t∈turnsOf parse render org w sessionId rs,t=turnOn org t.session t.request ∧
        storedHistory parse render w sessionId=some t.started := started_of_postgres hkind rs
    have halike : ∀ t∈turnsOf parse render org w sessionId rs,
        t.started=(storedHistory parse render w sessionId).getD [] := by
      intro t ht
      rw [(hturns t ht).2]
      rfl
    rw [remembered_iff_dropLast halike]
    constructor
    · exact fun h => .inr fun t ht =>
        (ended_eq_started_iff (hturns t (List.dropLast_subset _ ht)).1).mp (h t ht)
    · rintro (hno|h) t ht
      · cases hno
      · exact (ended_eq_started_iff (hturns t (List.dropLast_subset _ ht)).1).mpr (h t ht)

/-- A session in Postgres, two messages: the second turn starts without the first. -/
theorem postgresTurns_forget :
    let w : ChatWorld Nat := {kind := .postgres,tables := {sessions := [(1,⟨7,none,.human⟩)]}}
    let env : TurnEnv :=
      {seed := ⟨"0123456789ab",by decide⟩
       orchestratorCalls := fun _ => {attempts := fun _ => ⟨[],none⟩,tools := fun _ =>
         {auditId := "01900000-0000-7000-8000-0000000000aa",handler := fun _ => .cancelled}}
       resolve := fun _ => .ok ticketingVisaAgent
       domainCalls := fun _ => {attempts := fun _ => ⟨[],none⟩,tools := fun _ =>
         {auditId := "01900000-0000-7000-8000-0000000000aa",handler := fun _ => .cancelled}}}
    let ask : String → SendRequest := fun message =>
      {tenantId := "7",actorRole := "agent",body := {message},env}
    ¬Remembered (turnsOf (fun s => if s="1" then some 1 else none) toString
      ⟨ticketDesk,["ticketing_visa"]⟩ w "1" [ask "My name is Asha",ask "What is my name?"]) := by
  unfold Remembered
  decide +kernel

end Voyagent.ChatSends
