import Voyagent.TurnTermination

/-!
# Resuming a paused turn

An approval request carries an id made of the turn id and the tool name. A
later turn draws a turn id of its own, so the decision it is called with
answers to an id its gate never looks up, unless the same digits are drawn
again.
-/

namespace Voyagent.ApprovalResume

open RuntimeValues KeyedMap TrimmedText AgentEvents ToolInvocation GeneratorTraces AgentLoop
open Sessions OrchestratorTurn TurnTermination

variable {org : Orchestrator} {session : Session} {env : TurnEnv} {userMessage actorRole : String}
variable {approvals : Option (Table String Bool)} {spec : ToolSpec}

/-- A request names its tool and the id the turn gives to that tool. -/
theorem approvalRequest_fields {ctx : ToolContext} {turnId : String} {ev : AgentEvent}
    (h : TurnEvent org ctx session turnId ev ∨ ev.kind=.final) (hkind : ev.kind=.approvalRequest) :
    ∃ name input spec,Reached org.rt name input spec ∧ ev.fields.toolName=some name ∧
      ev.fields.approvalId=some (approvalIdFor ctx.turnId name) := by
  have hbuilt : ∀ {f : AgentEventFields},AgentEvent.build f=.ok ev → f.kind=.approvalRequest :=
    fun hb => (build_kind hb).symm.trans hkind
  rcases h with (h|h|h)|h
  · cases h with
    | textDelta text h | toolUse name input id h | toolResult name output id h | error message h =>
      cases hbuilt h
    | approvalRequest name input id env o hasks h =>
      obtain ⟨⟨spec,hcleared,_⟩,rfl⟩ := invokeTool_asks_iff.mp hasks
      refine ⟨name,input,spec,hcleared.toReached,?_,?_⟩
      · rw [(build_ok_iff.mp h).2]
        exact congrArg some hcleared.toReached.name_bare.1
      · rw [(build_ok_iff.mp h).2]
        have hbare : stripWhitespace (stripWhitespace (approvalIdFor ctx.turnId name))=
            approvalIdFor ctx.turnId name := by
          rw [stripWhitespace_idem,hcleared.toReached.approvalIdFor_bare]
        exact congrArg some hbare
  · rw [hkind] at h
    cases h
  · rw [hkind] at h
    cases h
  · rw [hkind] at h
    cases h

/-- A turn called with one decision looks it up under the id as given, once
that id has no blanks to strip. -/
theorem turnContext_approvals {turnId a : String} (ha : stripWhitespace a=a) :
    (turnContext session turnId (some [(a,true)]) actorRole).approvals=[(a,true)] := by
  change stripKeys [(a,true)]=_
  simp only [stripKeys,List.map_cons,List.map_nil,ofPairs_singleton,ha]

/-- The gate of a turn called with one grant passes exactly for the tool and
the turn the grant's id names. -/
theorem gate_of_single_grant {turnId a name : String} (ha : stripWhitespace a=a)
    (hgated : Gated spec) :
    approvalGate spec (turnContext session turnId (some [(a,true)]) actorRole) name=.passed ↔
      a=approvalIdFor (stripWhitespace turnId) name := by
  simp only [approvalGate,hgated.1,hgated.2,Bool.and_self,if_true,turnContext_approvals ha,get_cons,
    get_nil]
  by_cases h : a=approvalIdFor (stripWhitespace turnId) name
  · simp [turnContext,ToolContext.stripped,h]
  · simp [turnContext,ToolContext.stripped,h]

/-- Between a turn that asked for approval and a later turn called with the
grant, a permitted call of the tool runs exactly when the later turn drew
the digits of the first one and the sink accepts the opening write. -/
theorem resumed_call_runs_iff (org : Orchestrator) (session session' : Session)
    (userMessage userMessage' : String) (approvals : Option (Table String Bool))
    (actorRole actorRole' : String) (env env' : TurnEnv) (ev : AgentEvent) (a tool : String)
    (spec : ToolSpec) (call : Invocation)
    (hev : ev∈(runTurn org session userMessage approvals actorRole env).events)
    (hkind : ev.kind=.approvalRequest) (hid : ev.fields.approvalId=some a)
    (htool : ev.fields.toolName=some tool)
    (hcall : call∈(runTurn org session' userMessage' (some [(a,true)]) actorRole'
      env').state.invocations)
    (hname : call.name=tool) (hgated : Gated spec)
    (hcleared : Cleared org.rt
      (turnContext session' (newTurnId env'.seed) (some [(a,true)]) actorRole') tool call.input
      spec) :
    call.report.handlerRan ↔ env'.seed=env.seed ∧ call.env.sinkRaises .started=none := by
  obtain ⟨name,input,spec',hreached,htool',hid'⟩ := approvalRequest_fields (runTurn_events hev) hkind
  have hn : name=tool := Option.some.inj (htool'.symm.trans htool)
  have ha : a=approvalIdFor (newTurnId env.seed) name := by
    rw [turnContext_turnId] at hid'
    exact Option.some.inj (hid.symm.trans hid')
  subst hn
  have hbare : stripWhitespace a=a := by rw [ha,hreached.approvalIdFor_bare]
  rw [runTurn_calls hcall,hname,handlerRan_iff]
  have hgate : approvalGate spec
      (turnContext session' (newTurnId env'.seed) (some [(a,true)]) actorRole') name=.passed ↔
      env'.seed=env.seed := by
    rw [gate_of_single_grant hbare hgated,(newTurnId_bare env'.seed).1,ha]
    constructor
    · intro h
      exact (newTurnId_inj (approvalIdFor_turn_inj h)).symm
    · intro h
      rw [h]
  constructor
  · rintro ⟨spec'',hcleared'',hpassed,hsink⟩
    rw [hcleared''.toReached.unique hcleared.toReached] at hpassed hsink
    exact ⟨hgate.mp hpassed,hsink hgated.1⟩
  · rintro ⟨hseed,hsink⟩
    exact ⟨spec,hcleared,hgate.mpr hseed,fun _ => hsink⟩

/-- One tool call streamed as the whole reply. -/
def callsTool (name : String) (input : Dict) : ModelCall :=
  {attempts := fun _ =>
     ⟨[.messageStop (some ⟨some "tool_use",[.toolUse "toolu_01" name input]⟩)],none⟩
   tools := fun _ =>
     {auditId := "01900000-0000-7000-8000-0000000000aa"
      handler := fun _ => .returned (.dict [("issued",.bool true)])}}

/-- A turn that hands over to ticketing, which asks to issue a ticket. -/
def ticketingTurn (seed : TurnSeed) : TurnEnv :=
  {seed
   orchestratorCalls := fun _ =>
     callsTool "handoff" [("domain",.str "ticketing_visa"),("goal",.str "issue PNR-1")]
   resolve := fun _ => .ok ticketingVisaAgent
   domainCalls := fun _ => callsTool "issue_ticket" [("pnr_id",.str "PNR-1")]}

/-- The turn that pauses. -/
def pausedTurn : Trace TurnState AgentEvent Halt Unit :=
  runTurn deskOrchestrator deskSession "Issue PNR-1" none "ticketing_lead"
    (ticketingTurn deskSeed)

/-- The turn called with the grant of the id the paused turn showed. -/
def resumedTurn (seed : TurnSeed) : Trace TurnState AgentEvent Halt Unit :=
  runTurn deskOrchestrator {deskSession with messageHistory := pausedTurn.state.history} ""
    (some [("ap-t-0123456789ab-issue_ticket",true)]) "ticketing_lead" (ticketingTurn seed)

/-- The request both theorems below start from. -/
theorem pausedTurn_requests :
    ∃ ev∈pausedTurn.events,ev.kind=.approvalRequest ∧
      ev.fields.approvalId=some "ap-t-0123456789ab-issue_ticket" ∧
      ev.fields.toolName=some "issue_ticket" := by decide +kernel

/-- The later turn calls the tool on the same input, with a sink that writes. -/
theorem resumedTurn_calls :
    ∃ call∈(resumedTurn deskSeed).state.invocations,call.name="issue_ticket" ∧
      call.input=[("pnr_id",.str "PNR-1")] ∧ call.env.sinkRaises .started=none := by
  decide +kernel

theorem resumedTurn_cleared (seed : TurnSeed) (approvals : Option (Table String Bool)) :
    Cleared deskOrchestrator.rt
      (turnContext {deskSession with messageHistory := pausedTurn.state.history} (newTurnId seed)
        approvals "ticketing_lead") "issue_ticket" [("pnr_id",.str "PNR-1")] issueTicket := by
  have hrole : stripWhitespace "ticketing_lead"="ticketing_lead" := by decide
  exact ⟨⟨rfl,rfl⟩,by simp [roleDenied,turnContext,ToolContext.stripped,hrole,issueTicket]⟩

/-- Had the later turn drawn the same digits, the ticket would be issued. -/
theorem resumed_call_runs_iff_same_digits :
    ∃ call∈(resumedTurn deskSeed).state.invocations,
      call.report.handlerRan := by
  obtain ⟨ev,hev,hkind,hid,htool⟩ := pausedTurn_requests
  obtain ⟨call,hcall,hname,hinput,hsink⟩ := resumedTurn_calls
  refine ⟨call,hcall,(resumed_call_runs_iff _ _ _ _ _ _ _ _ _ _ ev _ _ issueTicket call hev hkind
    hid htool hcall hname ⟨rfl,rfl⟩ ?_).mpr ⟨rfl,hsink⟩⟩
  rw [hinput]
  exact resumedTurn_cleared _ _

/-- A granted call that a later turn repeats on the same input is not run: it
is asked for approval again. -/
theorem granted_call_asked_again :
    (∃ ev∈pausedTurn.events,ev.kind=.approvalRequest ∧
      ev.fields.approvalId=some "ap-t-0123456789ab-issue_ticket" ∧
      ev.fields.toolName=some "issue_ticket") ∧
    Gated issueTicket ∧
    Cleared deskOrchestrator.rt
      (turnContext {deskSession with messageHistory := pausedTurn.state.history}
        (newTurnId ⟨"ba9876543210",by decide⟩) (some [("ap-t-0123456789ab-issue_ticket",true)])
        "ticketing_lead") "issue_ticket" [("pnr_id",.str "PNR-1")] issueTicket ∧
    ∃ call∈(resumedTurn ⟨"ba9876543210",by decide⟩).state.invocations,
      call.name="issue_ticket" ∧ call.input=[("pnr_id",.str "PNR-1")] ∧ ¬call.report.handlerRan ∧
        call.report.result.map ToolInvocationOutcome.kind=.ok .approvalNeeded :=
  ⟨pausedTurn_requests,⟨rfl,rfl⟩,resumedTurn_cleared _ _,by decide +kernel⟩

end Voyagent.ApprovalResume
