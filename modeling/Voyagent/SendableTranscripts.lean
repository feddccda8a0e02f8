import Voyagent.ApprovalResume
import Voyagent.TransitionRuns
import Voyagent.TurnRelations

/-!
# Sendable transcripts

The provider refuses a request with a message that has no content or an empty
text block. What a session's turns send is checked against this over any
sequence of turns, each left by its consumer wherever it likes. User turns and
replies are appended as they come, so the transcript stays sendable as long as
both have something in them.
-/

namespace Voyagent.SendableTranscripts

open RuntimeValues KeyedMap AgentEvents SessionTranscript ToolInvocation TransitionRuns
open GeneratorTraces GeneratorRelations AgentLoop Sessions OrchestratorTurn TurnRequests
open TurnRelations

/-- A message the provider accepts: it has content, and no text of it is empty. -/
structure Sendable (m : Message) : Prop where
  content : m.content≠[]
  texts : Block.text ""∉m.content

instance (m : Message) : Decidable (Sendable m) :=
  decidable_of_iff (m.content≠[] ∧ Block.text ""∉m.content) ⟨fun h => ⟨h.1,h.2⟩,fun h => ⟨h.1,h.2⟩⟩

/-- Every message of a request is sendable. -/
def SendableRequest (r : ModelRequest) : Prop := ∀ m∈r.messages,Sendable m

instance (r : ModelRequest) : Decidable (SendableRequest r) :=
  inferInstanceAs (Decidable (∀ m∈r.messages,Sendable m))

/-! ## The messages of a turn -/

theorem sendable_user {text : String} (h : text≠"") : Sendable (userTurn text) := by
  refine ⟨List.cons_ne_nil _ _,fun hmem => h ?_⟩
  have hblock := List.mem_singleton.mp hmem
  exact (Block.text.inj hblock).symm

/-- Tool results are no texts. -/
theorem sendable_results {rs : List Block} (hne : rs≠[])
    (hrs : ∀ b∈rs,Block.IsToolResult b) : Sendable ⟨.user,rs⟩ := by
  refine ⟨hne,fun hmem => ?_⟩
  obtain ⟨_,_,_,heq⟩ := hrs _ hmem
  cases heq

/-- The seed of a domain agent says who it is from. -/
theorem sendable_seed (goal userMessage : String) : Sendable (seedMessage goal userMessage) := by
  refine sendable_user fun hempty => ?_
  have hchars := congrArg String.toList hempty
  simp [String.toList_append] at hchars

/-- Everything a turn keeps is sendable. -/
structure Clean (s : TurnState) : Prop where
  history : ∀ m∈s.history,Sendable m
  messages : ∀ m∈s.messages,Sendable m
  requests : ∀ r∈s.requests,SendableRequest r

/-- What is clean stays clean. -/
def StaysClean (s : TurnState) (_ : List AgentEvent) (t : TurnState) : Prop := Clean s → Clean t

theorem sendable_append {ms ms' : List Message} (h : ∀ m∈ms,Sendable m)
    (h' : ∀ m∈ms',Sendable m) : ∀ m∈ms++ms',Sendable m :=
  fun m hm => (List.mem_append.mp hm).elim (h m) (h' m)

theorem sendable_drop {ms : List Message} (h : ∀ m∈ms,Sendable m) (n : Nat) :
    ∀ m∈ms.drop n,Sendable m := fun m hm => h m (List.mem_of_mem_drop hm)

theorem sendable_singleton {m : Message} (h : Sendable m) : ∀ m'∈[m],Sendable m' :=
  fun _ hm => List.mem_singleton.mp hm ▸ h

/-- Every instruction keeps a turn clean, as long as it appends sendable messages. -/
theorem staysClean_kept : Kept StaysClean Sendable where
  composable := ⟨fun _ h => h,fun h h' hs => h' (h hs)⟩
  event _ _ h := h
  call _ _ h := ⟨h.history,h.messages,h.requests⟩
  request s tools h := by
    refine ⟨h.history,h.messages,fun r hr => ?_⟩
    rcases List.mem_append.mp hr with hr|hr
    · exact h.requests r hr
    · rw [List.mem_singleton.mp hr]
      exact h.messages
  handoff _ _ h := ⟨h.history,h.messages,h.requests⟩
  message _ _ hm h := ⟨h.history,sendable_append h.messages (sendable_singleton hm),h.requests⟩
  results _ hne hrs := sendable_results hne hrs
  sync _ h := ⟨sendable_append h.history (sendable_drop h.messages _),h.messages,h.requests⟩
  splice _ h := ⟨sendable_append h.history (sendable_drop h.messages _),h.messages,h.requests⟩
  seed _ goal userMessage h :=
    ⟨h.history,sendable_append h.history (sendable_singleton (sendable_seed goal userMessage)),
      h.requests⟩

/-! ## Turns on a session -/

/-- A call of `run_turn` on the session, and the yield its consumer leaves it at, if it does. -/
structure SessionTurn where
  /-- The approvals of the session when the turn starts. -/
  pendingApprovals : Table String PendingApproval := []
  userMessage : String
  approvals : Option (Table String Bool) := none
  actorRole : String := "agent"
  env : TurnEnv
  stop : Option Nat := none

/-- The session and every request its turns have passed to the model. -/
structure Conversation where
  session : Session
  sent : List ModelRequest := []

/-- The session a turn runs on. -/
def Conversation.facing (c : Conversation) (t : SessionTurn) : Session :=
  {c.session with pendingApprovals := t.pendingApprovals}

/-- The state a turn is left in. -/
def Conversation.turnState (org : Orchestrator) (c : Conversation) (t : SessionTurn) : TurnState :=
  (turnTaken org (c.facing t) t.userMessage t.approvals t.actorRole t.env t.stop).2

def Conversation.turn (org : Orchestrator) (c : Conversation) (t : SessionTurn) : Conversation :=
  let s := c.turnState org t
  ⟨{c.facing t with messageHistory := s.history},c.sent++s.requests⟩

def TurnStep (org : Orchestrator) (c : Conversation) (t : SessionTurn) (c' : Conversation) : Prop :=
  c'=c.turn org t

/-- A turn that passes its gates has a message, and every reply of the model has content. -/
structure Substantial (c : Conversation) (t : SessionTurn) : Prop where
  message : t.userMessage≠""
  own : RepliesIn Sendable c.session.id (newTurnId t.env.seed) t.env.orchestratorCalls
  domain : RepliesIn Sendable c.session.id (newTurnId t.env.seed) t.env.domainCalls

def TurnCondition (c : Conversation) (t : SessionTurn) : Prop :=
  GatesPassed t.env → Substantial c t

/-- The history and everything sent are sendable. -/
structure ConversationClean (c : Conversation) : Prop where
  history : ∀ m∈c.session.messageHistory,Sendable m
  sent : ∀ r∈c.sent,SendableRequest r

variable {org : Orchestrator} {c c' : Conversation} {t : SessionTurn}

/-- A turn that meets the condition is clean wherever it is left. -/
theorem turnState_clean (hcondition : TurnCondition c t)
    (hhistory : ∀ m∈c.session.messageHistory,Sendable m) : Clean (c.turnState org t) := by
  have hstart : Clean {history := c.session.messageHistory} :=
    ⟨hhistory,fun _ hm => absurd hm List.not_mem_nil,fun _ hr => absurd hr List.not_mem_nil⟩
  by_cases hpassed : GatesPassed t.env
  · have hsubstantial := hcondition hpassed
    have hC := staysClean_kept.composable
    have hbegin : ∀ s,StaysClean s [] (TurnState.beginTurn s t.userMessage) := by
      intro s hs
      have hmore := sendable_append hs.history
        (sendable_singleton (sendable_user hsubstantial.message))
      exact ⟨hmore,hmore,hs.requests⟩
    have hturn := turnContext_turnId (c.facing t) t.env.seed t.approvals t.actorRole
    have hphases : Along StaysClean
        (turnPhases org (c.facing t) t.userMessage
          (turnContext (c.facing t) (newTurnId t.env.seed) t.approvals t.actorRole) t.env)
        fun _ => True :=
      Along.bind hC (Along.update hbegin) fun _ _ =>
        agentPhases_kept staysClean_kept hturn hsubstantial.own hsubstantial.domain
    have hall := Along.bind hC hphases fun _ _ =>
      emitBuilt_kept staysClean_kept (finalFields (c.facing t).id (newTurnId t.env.seed))
    unfold Conversation.turnState turnTaken
    rw [runTurn_of_passed org (c.facing t) t.userMessage t.approvals t.actorRole hpassed]
    exact (hall {history := c.session.messageHistory}).1.taken t.stop hstart
  · have hstopped : c.turnState org t={history := c.session.messageHistory} :=
      state_of_stopped org (c.facing t) t.userMessage t.approvals t.actorRole t.stop hpassed
    rw [hstopped]
    exact hstart

/-- One turn keeps the conversation clean. -/
theorem turn_clean (h : ConversationClean c) (hcondition : TurnCondition c t) :
    ConversationClean (c.turn org t) := by
  have hstate : Clean (c.turnState org t) := turnState_clean hcondition h.history
  refine ⟨hstate.history,fun r hr => ?_⟩
  rcases List.mem_append.mp hr with hr|hr
  · exact h.sent r hr
  · exact hstate.requests r hr

/-- A new session. -/
def newConversation (id tenantId actorId : EntityId) : Conversation :=
  {session := {id,tenantId,actorId}}

/-- Along every sequence of turns that, where their gates let them pass, have a message and get
replies with content, every request is sendable. -/
theorem requests_sendable (org : Orchestrator) (id tenantId actorId : EntityId)
    (turns : List SessionTurn) (c : Conversation)
    (hrun : Run (guarded (TurnStep org) TurnCondition) (newConversation id tenantId actorId) turns c) :
    ∀ r∈c.sent,SendableRequest r := by
  have hclean : ConversationClean c := by
    refine hrun.guarded_invariant ⟨?_,?_⟩ fun a t b ha hstep hcondition => ?_
    · exact fun _ hm => absurd hm List.not_mem_nil
    · exact fun _ hr => absurd hr List.not_mem_nil
    · rw [hstep]
      exact turn_clean ha hcondition
  exact hclean.sent

/-- A new session of the desk. -/
def deskConversation : Conversation :=
  newConversation TurnTermination.deskSession.id TurnTermination.deskSession.tenantId
    TurnTermination.deskSession.actorId

/-- A greeting, answered with a word. -/
def helloTurn : SessionTurn where
  userMessage := "Hi"
  env := TurnTermination.gatedTurn (fun _ _ => .accepted) (.used 0)

/-- A grant, sent with the default message. -/
def resumeTurn : SessionTurn where
  userMessage := ""
  approvals := some [("ap-t-0123456789ab-issue_ticket",true)]
  env := TurnTermination.gatedTurn (fun _ _ => .accepted) (.used 0)

theorem helloTurn_condition : TurnCondition deskConversation helloTurn := by
  intro _
  refine ⟨by decide,fun n m hm => ?_,fun n m hm => ?_⟩
  · have hreply : receivedReply deskConversation.session.id (newTurnId helloTurn.env.seed)
        (helloTurn.env.orchestratorCalls n)=some ⟨some "end_turn",[.text "Hello"]⟩ := by rfl
    rw [hreply] at hm
    rw [← Option.some.inj hm]
    decide
  · have hnone : receivedReply deskConversation.session.id (newTurnId helloTurn.env.seed)
        (helloTurn.env.domainCalls n)=none := by rfl
    rw [hnone] at hm
    cases hm

theorem requests_sendable_hello :
    (deskConversation.turn TurnTermination.deskOrchestrator helloTurn).sent.length=1 ∧
      ∀ r∈(deskConversation.turn TurnTermination.deskOrchestrator helloTurn).sent,
        SendableRequest r := by
  have hrun : Run (guarded (TurnStep TurnTermination.deskOrchestrator) TurnCondition)
      deskConversation [helloTurn] _ := Run.start.next ⟨rfl,helloTurn_condition⟩
  exact ⟨by rfl,requests_sendable TurnTermination.deskOrchestrator TurnTermination.deskSession.id
    TurnTermination.deskSession.tenantId TurnTermination.deskSession.actorId [helloTurn] _ hrun⟩

/-- After a grant is sent as the chat page sends it, the model is sent an empty text. -/
theorem empty_resume_sent :
    ∃ c,Run (TurnStep TurnTermination.deskOrchestrator) deskConversation [helloTurn,resumeTurn] c ∧
      ¬∀ r∈c.sent,SendableRequest r := by
  refine ⟨_,(Run.start.next rfl).next rfl,?_⟩
  decide +kernel

end Voyagent.SendableTranscripts
