import Voyagent.GeneratorRelations
import Voyagent.OrchestratorTurn

/-!
# What a turn records

However early a turn is left, the history has only grown, every logged call
is genuine, and the approval requests shown are, in order, those of the
logged calls that stand undecided at the gate.
-/

namespace Voyagent.TurnRequests

open RuntimeValues KeyedMap TrimmedText AgentEvents SessionTranscript ToolInvocation
open GeneratorTraces GeneratorRelations AgentLoop Sessions OrchestratorTurn

/-- The id of an approval request. -/
def requestedId (ev : AgentEvent) : Option String :=
  if ev.kind=.approvalRequest then ev.fields.approvalId else none

/-- The id an answered call is shown for approval under. -/
def askedId (i : Invocation) : Option String :=
  match i.report.result with
  | .ok o => if o.kind=.approvalNeeded ∧ truthy o.approvalSummary=true then o.approvalId else none
  | .error _ => none

/-- A call stands undecided at the gate, with a sentence to show. -/
def Asks (rt : Runtime) (ctx : ToolContext) (name : String) (input : Dict) : Prop :=
  (∃ spec,Cleared rt ctx name input spec ∧ approvalGate spec ctx name=.undecided) ∧
    stripWhitespace (summaryFor rt name input)≠""

/-- What was done between two states, with the events in between. -/
structure Recorded (rt : Runtime) (ctx : ToolContext) (s : TurnState) (evs : List AgentEvent)
    (t : TurnState) : Prop where
  history : s.history <+: t.history
  calls : ∃ is : List Invocation,t.invocations=s.invocations++is ∧
    (∀ i∈is,i.report=invokeTool rt i.env ctx i.name i.input) ∧
    evs.filterMap requestedId=is.filterMap askedId

variable {rt : Runtime} {ctx : ToolContext} {s t : TurnState} {cfg : LoopConfig}

theorem recorded_composable (rt : Runtime) (ctx : ToolContext) : Composable (Recorded rt ctx) where
  refl s := ⟨List.prefix_refl _,[],by simp,by simp,rfl⟩
  trans h h' := by
    obtain ⟨is,his,hgenuine,hids⟩ := h.calls
    obtain ⟨is',his',hgenuine',hids'⟩ := h'.calls
    refine ⟨h.history.trans h'.history,is++is',?_,?_,?_⟩
    · rw [his',his,List.append_assoc]
    · exact fun i hi => (List.mem_append.mp hi).elim (hgenuine i) (hgenuine' i)
    · rw [List.filterMap_append,List.filterMap_append,hids,hids']

/-- Steps that touch neither history nor log. -/
theorem recorded_aside (hhistory : t.history=s.history) (hcalls : t.invocations=s.invocations) :
    Recorded rt ctx s [] t :=
  ⟨hhistory ▸ List.prefix_refl _,[],by rw [hcalls,List.append_nil],by simp,rfl⟩

theorem recorded_history {history : List Message} (h : s.history <+: history) :
    Recorded rt ctx s [] {s with history := history} := ⟨h,[],by simp,by simp,rfl⟩

theorem recorded_event {ev : AgentEvent} (h : ev.kind≠.approvalRequest) (s : TurnState) :
    Recorded rt ctx s [ev] s := by
  have hid : requestedId ev=none := if_neg h
  exact ⟨List.prefix_refl _,[],by simp,by simp,by simp [hid]⟩

/-- An event of another kind, if it can be built. -/
theorem emitBuilt_along {f : AgentEventFields} (hf : f.kind≠.approvalRequest) :
    Along (Recorded rt ctx) (emitBuilt f) fun _ => True := by
  refine Along.bind (recorded_composable rt ctx) (Q:=fun ev => AgentEvent.build f=.ok ev)
    (Along.ofExcept (recorded_composable rt ctx) fun ev h => h) fun ev hb => ?_
  exact Along.emit fun s => recorded_event (by rw [build_kind hb]; exact hf) s

/-! ## A tool call and its event -/

/-- At most one event is yielded, in the state the body ends in. -/
def YieldsOne {α : Type} (t : Trace TurnState AgentEvent Halt α) (s : TurnState)
    (id : Option String) : Prop :=
  t.state=s ∧ ∃ ev : Option AgentEvent,t.yields=ev.toList.map (·,s) ∧ ev.bind requestedId=id

theorem YieldsOne.andPure {α β : Type} {g : TurnGen α} {id : Option String}
    (h : YieldsOne (g s) s id) (f : α → β) : YieldsOne ((g >>= fun a => pure (f a)) s) s id := by
  obtain ⟨hstate,ev,hyields,hid⟩ := h
  rw [bind_apply,Trace.andThen]
  cases (g s).exit with
  | error k => exact ⟨hstate,ev,hyields,hid⟩
  | ok a => exact ⟨hstate,ev,(List.append_nil _).trans hyields,hid⟩

theorem YieldsOne.traced {α : Type} {g : Trace TurnState AgentEvent Halt α} {id : Option String}
    (h : YieldsOne g t id)
    (hlogged : ∀ evs,evs.filterMap requestedId=id.toList → Recorded rt ctx s evs t) :
    Traced (Recorded rt ctx) s g := by
  obtain ⟨rfl,ev,hyields,hid⟩ := h
  cases ev with
  | none =>
    obtain rfl : none=id := hid
    exact .silent hyields (hlogged [] rfl)
  | some ev =>
    have hone : Recorded rt ctx s [ev] g.state := hlogged [ev] (by
      rw [← hid,Option.bind_some]
      cases h : requestedId ev <;> simp [h])
    have hlist : g.yields=[(ev,g.state)] := hyields
    constructor
    · intro pre y post hsplit
      rw [hlist] at hsplit
      obtain ⟨rfl,hy⟩ := List.append_eq_singleton_iff.mp hsplit.symm |>.resolve_right
        (fun hright => absurd hright.2 (List.cons_ne_nil _ _))
      obtain ⟨rfl,-⟩ := List.cons.inj hy
      exact hone
    · rw [Trace.events,hlist]
      exact hone

theorem emitBuilt_other {f : AgentEventFields} (hf : f.kind≠.approvalRequest) (s : TurnState) :
    YieldsOne (emitBuilt f s) s none := by
  unfold emitBuilt
  cases hb : AgentEvent.build f with
  | error k => exact ⟨rfl,none,rfl,rfl⟩
  | ok ev => exact ⟨rfl,some ev,rfl,if_neg (by rw [build_kind hb]; exact hf)⟩

/-- The request of an asking call is shown when there is a sentence to show. -/
theorem emitBuilt_request (sessionId name id summary : String) {turnId approvalId : String}
    (hturn : stripWhitespace turnId≠"") (hid : stripWhitespace approvalId=approvalId)
    (hne : approvalId≠"") (s : TurnState) :
    YieldsOne (emitBuilt (approvalRequestFields sessionId turnId name id (some approvalId)
      (some (stripWhitespace summary))) s) s
      (if stripWhitespace summary≠"" then some approvalId else none) := by
  unfold emitBuilt
  cases hb : AgentEvent.build (approvalRequestFields sessionId turnId name id (some approvalId)
      (some (stripWhitespace summary))) with
  | error k =>
    have hblank : stripWhitespace summary="" := by
      by_contra hsummary
      obtain ⟨text,htext,-⟩ := build_error hb
      simp [eventError,AgentEventFields.stripped,approvalRequestFields,payloadError,truthy,hturn,hid,
        hne,hsummary] at htext
    rw [if_neg (by simpa using hblank)]
    exact ⟨rfl,none,rfl,rfl⟩
  | ok ev =>
    obtain ⟨hvalid,hfields⟩ := build_ok_iff.mp hb
    have hsummary : stripWhitespace summary≠"" := by
      intro hblank
      simp [eventError,AgentEventFields.stripped,approvalRequestFields,payloadError,truthy,hturn,hid,
        hblank] at hvalid
      exact hvalid.2 (by decide)
    rw [if_pos hsummary]
    refine ⟨rfl,some ev,rfl,?_⟩
    have hkind : ev.kind=.approvalRequest := build_kind hb
    have happroval : ev.fields.approvalId=some (stripWhitespace approvalId) := by
      rw [hfields]
      rfl
    rw [Option.bind_some,requestedId,if_pos hkind,happroval,hid]

/-- Settling an answer shows at most one event and touches nothing. -/
theorem settleOutcome_one {env : InvokeEnv} {name : String} {input : Dict}
    {o : ToolInvocationOutcome} (id : String) (hturn : stripWhitespace cfg.turnId≠"")
    (ho : (invokeTool cfg.rt env cfg.ctx name input).result=.ok o) (d : Dispatch) (s : TurnState) :
    YieldsOne (settleOutcome cfg id name o d s) s
      (if o.kind=.approvalNeeded ∧ truthy o.approvalSummary=true then o.approvalId else none) := by
  unfold settleOutcome
  cases hkind : o.kind with
  | approvalNeeded =>
    obtain ⟨⟨spec,hcleared,-⟩,rfl⟩ := invokeTool_asks_iff.mp ⟨ho,hkind⟩
    have hbare : stripWhitespace (approvalIdFor cfg.ctx.turnId name)=
        approvalIdFor cfg.ctx.turnId name := hcleared.toReached.approvalIdFor_bare _
    have hne : approvalIdFor cfg.ctx.turnId name≠"" := by
      intro h
      have hl := congrArg String.toList h
      simp [approvalIdFor] at hl
    have hone := emitBuilt_request cfg.sessionId name id (summaryFor cfg.rt name input) hturn hbare
      hne s
    have hasks : (if OutcomeKind.approvalNeeded=.approvalNeeded ∧
        truthy (approvalNeeded cfg.rt cfg.ctx name input).stripped.approvalSummary=true then
          (approvalNeeded cfg.rt cfg.ctx name input).stripped.approvalId else none)=
        if stripWhitespace (summaryFor cfg.rt name input)≠"" then
          some (approvalIdFor cfg.ctx.turnId name) else none := by
      simp [approvalNeeded,ToolInvocationOutcome.stripped,truthy,hbare]
    rw [hasks]
    refine YieldsOne.andPure ?_ _
    simpa [approvalNeeded,ToolInvocationOutcome.stripped,hbare] using hone
  | permissionDenied | success | error =>
    rw [if_neg (by simp)]
    exact (emitBuilt_other (by simp [toolResultFields]) s).andPure _

/-- A call and its settlement: the log and the request go together. -/
theorem callAndSettle_along (hturn : stripWhitespace cfg.turnId≠"") (env : InvokeEnv)
    (name id : String) (input : Dict) (d : Dispatch) :
    Along (Recorded cfg.rt cfg.ctx)
      (do let o ← callTool cfg env name input
          let d' ← settleOutcome cfg id name o d
          pure (some d') : TurnGen (Option Dispatch)) fun _ => True := by
  refine fun s => ⟨?_,fun _ _ => trivial⟩
  let i : Invocation := ⟨name,input,env,invokeTool cfg.rt env cfg.ctx name input⟩
  have hlogged : ∀ evs : List AgentEvent,evs.filterMap requestedId=(askedId i).toList →
      Recorded cfg.rt cfg.ctx s evs (s.logCall i) := by
    intro evs hevs
    refine ⟨List.prefix_refl _,[i],rfl,fun i' hi' => List.mem_singleton.mp hi' ▸ rfl,?_⟩
    rw [hevs]
    cases h : askedId i <;> simp [h]
  have hcall : callTool cfg env name input s=
      GeneratorTraces.ofExcept (invokeTool cfg.rt env cfg.ctx name input).result (s.logCall i) := rfl
  rw [bind_apply,hcall]
  cases hresult : (invokeTool cfg.rt env cfg.ctx name input).result with
  | error k =>
    have hnone : askedId i=none := by simp [askedId,i,hresult]
    exact .silent rfl (hlogged [] (by rw [hnone]; rfl))
  | ok o =>
    have hasked : askedId i=
        if o.kind=.approvalNeeded ∧ truthy o.approvalSummary=true then o.approvalId else none := by
      simp only [askedId,i,hresult]
    have hone := (settleOutcome_one id hturn hresult d (s.logCall i)).andPure some
    rw [← hasked] at hone
    exact hone.traced hlogged

/-! ## The loop -/

/-- The callback records, and what it answers with is no request. -/
def HookAlong (cfg : LoopConfig) : Prop :=
  ∀ name input,Along (Recorded cfg.rt cfg.ctx) (cfg.onToolUse name input)
    fun o => ∀ evs,o=some evs → ∀ ev∈evs,ev.kind≠.approvalRequest

section Loop

variable (hturn : stripWhitespace cfg.turnId≠"") (hhook : HookAlong cfg)
include hturn hhook

theorem dispatchBlock_along (env : InvokeEnv) (id name : String) (input : Dict) (d : Dispatch) :
    Along (Recorded cfg.rt cfg.ctx) (dispatchBlock cfg env id name input d) fun _ => True := by
  have hJ := recorded_composable cfg.rt cfg.ctx
  refine Along.bind hJ (emitBuilt_along (by simp [toolUseFields])) fun _ _ => ?_
  refine Along.bind hJ (hhook name input) fun o ho => ?_
  cases o with
  | none => exact callAndSettle_along hturn env name id input d
  | some evs =>
    refine Along.bind hJ (Along.emitAll hJ fun ev hev => recorded_event (ho evs rfl ev hev))
      fun _ _ => ?_
    exact Along.bind hJ (Along.update fun s => recorded_aside rfl rfl) fun _ _ => Along.pure hJ trivial

/-- Blocks are dispatched in order. -/
theorem dispatchBlocks_along (tools : Nat → InvokeEnv) (blocks : List SdkBlock) (n : Nat)
    (d : Dispatch) :
    Along (Recorded cfg.rt cfg.ctx) (dispatchBlocks cfg tools blocks n d) fun _ => True := by
  have hJ := recorded_composable cfg.rt cfg.ctx
  induction blocks generalizing n d with
  | nil => exact Along.pure hJ trivial
  | cons block blocks ih =>
    cases block with
    | toolUse id name input =>
      refine Along.bind hJ (dispatchBlock_along hturn hhook (tools n) id name input d) fun o _ => ?_
      cases o with
      | none => exact Along.pure hJ trivial
      | some d' => exact ih (n+1) d'
    | _ => exact ih (n+1) d

theorem recordReply_along (tools : Nat → InvokeEnv) (m : FinalMessage) :
    Along (Recorded cfg.rt cfg.ctx) (recordReply cfg tools m) fun _ => True := by
  have hJ := recorded_composable cfg.rt cfg.ctx
  refine Along.bind hJ (Along.update fun s => recorded_aside rfl rfl) fun _ _ => ?_
  split
  · refine Along.bind hJ (dispatchBlocks_along hturn hhook tools m.content 0 {}) fun o _ => ?_
    cases o with
    | none => exact Along.pure hJ trivial
    | some d =>
      refine Along.bind hJ (Q:=fun _ => True) ?_ fun _ _ => Along.pure hJ trivial
      unfold appendResults
      split
      · exact Along.pure hJ trivial
      · exact Along.update fun s => recorded_aside rfl rfl
  · exact Along.pure hJ trivial

omit hturn hhook in
theorem streamPhase_along (call : ModelCall) :
    Along (Recorded cfg.rt cfg.ctx) (streamPhase cfg call) fun _ => True := by
  have hJ := recorded_composable cfg.rt cfg.ctx
  unfold streamPhase
  cases hstream : streamCall cfg.sessionId cfg.turnId call.attempts with
  | cancelled => exact Along.fail hJ
  | failed e =>
    exact Along.bind hJ (emitBuilt_along (by simp [errorFields])) fun _ _ => Along.pure hJ trivial
  | streamed st =>
    refine Along.bind hJ (Along.emitAll hJ fun ev hev => ?_) fun _ _ => Along.pure hJ trivial
    obtain ⟨text,hb⟩ := streamCall_textDelta hstream ev hev
    exact recorded_event (by rw [build_kind hb]; simp [textDeltaFields])

/-- The whole loop records. -/
theorem agentLoop_along (calls : Nat → ModelCall) (left n : Nat) :
    Along (Recorded cfg.rt cfg.ctx) (agentLoop cfg calls left n) fun _ => True := by
  have hJ := recorded_composable cfg.rt cfg.ctx
  induction left generalizing n with
  | zero => exact Along.pure hJ trivial
  | succ left ih =>
    refine Along.bind hJ (Q:=fun _ => True) ?_ fun again _ => ?_
    · refine Along.bind hJ (Along.update fun s => recorded_aside rfl rfl) fun _ _ => ?_
      refine Along.bind hJ (streamPhase_along (calls n)) fun o _ => ?_
      cases o with
      | none => exact Along.pure hJ trivial
      | some m => exact recordReply_along hturn hhook (calls n).tools m
    · cases again with
      | false => exact Along.pure hJ trivial
      | true => exact ih (n+1)

end Loop

/-! ## The turn -/

variable {org : Orchestrator} {session : Session} {env : TurnEnv} {turnId userMessage : String}

theorem onToolUse_hookAlong : HookAlong (orchestratorLoop org ctx session turnId) := by
  have hJ := recorded_composable org.rt ctx
  have hbuilt : ∀ f : AgentEventFields,f.kind≠.approvalRequest →
      Along (Recorded org.rt ctx) (answerWith f)
        fun o => ∀ evs,o=some evs → ∀ ev∈evs,ev.kind≠.approvalRequest := by
    intro f hf
    refine Along.bind hJ (Q:=fun ev => AgentEvent.build f=.ok ev)
      (Along.ofExcept hJ fun ev h => h) fun ev hb => Along.pure hJ fun evs hevs ev' hev' => ?_
    cases hevs
    rw [List.mem_singleton.mp hev',build_kind hb]
    exact hf
  intro name input
  change Along (Recorded org.rt ctx) (onToolUse org session.id turnId name input) _
  unfold onToolUse
  split
  · dsimp only
    split
    · refine Along.bind hJ (Along.update fun s => recorded_aside rfl rfl) fun _ _ =>
        Along.pure hJ fun evs hevs ev hev => ?_
      cases hevs
      exact (List.not_mem_nil hev).elim
    · exact hbuilt _ (by simp [errorFields])
  · split
    · exact hbuilt _ (by simp [textDeltaFields])
    · exact Along.pure hJ fun evs hevs => (by cases hevs)

theorem domain_hookAlong (agent : DomainAgent) : HookAlong (domainLoop org agent ctx session) :=
  fun _ _ => Along.pure (recorded_composable org.rt ctx) fun evs hevs => (by cases hevs)

theorem forwardAgent_along {g : TurnGen Unit} (hg : Along (Recorded org.rt ctx) g fun _ => True) :
    Along (Recorded org.rt ctx) (forwardAgent g) fun _ => True :=
  Along.bind (recorded_composable org.rt ctx) (Along.forwardUntil hg) fun _ _ =>
    Along.pure (recorded_composable org.rt ctx) trivial

theorem reportingErrors_along {g : TurnGen PhaseEnd} (sessionId : EntityId)
    (hg : Along (Recorded org.rt ctx) g fun _ => True) :
    Along (Recorded org.rt ctx) (reportingErrors sessionId turnId g) fun _ => True := by
  have hJ := recorded_composable org.rt ctx
  refine Along.recover hJ hg fun k h hk => ?_
  cases k with
  | cancelled => cases hk
  | raised e =>
    cases hk
    exact Along.bind hJ (emitBuilt_along (by simp [errorFields])) fun _ _ => Along.pure hJ trivial

theorem orchestratorPhase_along (hid : stripWhitespace turnId≠"") :
    Along (Recorded org.rt ctx) (orchestratorPhase org ctx session turnId env) fun _ => True := by
  have hJ := recorded_composable org.rt ctx
  have hid' : stripWhitespace (orchestratorLoop org ctx session turnId).turnId≠"" := hid
  have hloop : Along (Recorded org.rt ctx)
      (runAgentTurn (orchestratorLoop org ctx session turnId) env.orchestratorCalls) fun _ => True :=
    agentLoop_along hid' onToolUse_hookAlong env.orchestratorCalls maxToolLoops 0
  refine Along.bind hJ (reportingErrors_along session.id (forwardAgent_along hloop)) fun o _ => ?_
  exact Along.bind hJ (Along.update fun s => recorded_history (List.prefix_append _ _)) fun _ _ =>
    Along.pure hJ trivial

theorem domainRun_along (hid : stripWhitespace ctx.turnId≠"") (agent : DomainAgent)
    (goal userMessage : String) (calls : Nat → ModelCall) :
    Along (Recorded org.rt ctx) (DomainAgent.run org agent ctx session goal userMessage calls)
      fun _ => True := by
  have hJ := recorded_composable org.rt ctx
  have hid' : stripWhitespace (domainLoop org agent ctx session).turnId≠"" := hid
  have hloop : Along (Recorded org.rt ctx)
      (runAgentTurn (domainLoop org agent ctx session) calls) fun _ => True :=
    agentLoop_along hid' (domain_hookAlong agent) calls maxToolLoops 0
  refine Along.bind hJ (Along.update fun s => recorded_aside rfl rfl) fun _ _ => ?_
  refine Along.bind hJ (Along.forwardUntil hloop) fun c _ => ?_
  cases c.result with
  | none => exact Along.pure hJ trivial
  | some a => exact Along.update fun s => recorded_history (List.prefix_append _ _)

theorem domainPhase_along (hid : stripWhitespace ctx.turnId≠"") (o : PhaseEnd) :
    Along (Recorded org.rt ctx) (domainPhase org ctx session turnId userMessage env o)
      fun _ => True := by
  have hJ := recorded_composable org.rt ctx
  refine Along.bind hJ (Along.read hJ) fun target _ => ?_
  cases target with
  | none => exact Along.pure hJ trivial
  | some target =>
    dsimp only
    split
    · exact Along.pure hJ trivial
    · refine Along.bind hJ (reportingErrors_along session.id ?_) fun _ _ => Along.pure hJ trivial
      unfold runHandoff
      cases env.resolve target.domain with
      | error e => exact Along.fail hJ
      | ok agent =>
        dsimp only
        split
        · exact Along.fail hJ
        · exact forwardAgent_along (domainRun_along hid agent _ _ _)

/-- Behind the user's message and before the closing event. -/
def agentPhases (org : Orchestrator) (session : Session) (userMessage : String) (ctx : ToolContext)
    (env : TurnEnv) : TurnGen Unit := do
  let o ← orchestratorPhase org ctx session (newTurnId env.seed) env
  domainPhase org ctx session (newTurnId env.seed) userMessage env o
  recordCost env

theorem agentPhases_along (hturn : ctx.turnId=newTurnId env.seed) :
    Along (Recorded org.rt ctx) (agentPhases org session userMessage ctx env) fun _ => True := by
  have hJ := recorded_composable org.rt ctx
  have hid : stripWhitespace ctx.turnId≠"" := hturn ▸ newTurnId_nonblank _
  refine Along.bind hJ (orchestratorPhase_along (newTurnId_nonblank _)) fun o _ => ?_
  refine Along.bind hJ (domainPhase_along hid o) fun _ _ => ?_
  unfold recordCost
  split
  · exact Along.fail hJ
  · exact Along.pure hJ trivial

/-- Between the gates and the closing event. -/
theorem turnPhases_along (hturn : ctx.turnId=newTurnId env.seed) :
    Along (Recorded org.rt ctx) (turnPhases org session userMessage ctx env) fun _ => True := by
  refine Along.bind (recorded_composable org.rt ctx) (Along.update fun s => ?_) fun _ _ =>
    agentPhases_along hturn
  exact ⟨List.prefix_append _ _,[],by simp [TurnState.beginTurn],by simp,rfl⟩

theorem refuseTurn_along (sessionId message : String) :
    Along (Recorded org.rt ctx) (refuseTurn sessionId turnId message) fun _ => True :=
  Along.bind (recorded_composable org.rt ctx) (emitBuilt_along (by simp [errorFields])) fun _ _ =>
    emitBuilt_along (by simp [finalFields])

/-- A turn records from its first instruction to its last. -/
theorem turnGen_along (approvals : Option (Table String Bool)) (actorRole : String) :
    Along (Recorded org.rt (turnContext session (newTurnId env.seed) approvals actorRole))
      (turnGen org session userMessage approvals actorRole env) fun _ => True := by
  have hJ := recorded_composable org.rt
    (turnContext session (newTurnId env.seed) approvals actorRole)
  refine Along.bind hJ (Along.ofExcept hJ (Q:=fun _ => True) fun _ _ => trivial) fun refusal _ => ?_
  cases refusal with
  | some message => exact refuseTurn_along session.id message
  | none =>
    refine Along.bind hJ (Along.ofExcept hJ (Q:=fun _ => True) fun _ _ => trivial) fun refusal _ => ?_
    cases refusal with
    | some message => exact refuseTurn_along session.id message
    | none =>
      exact Along.bind hJ (turnPhases_along (turnContext_turnId session env.seed approvals actorRole))
        fun _ _ => emitBuilt_along (by simp [finalFields])

/-! ## What a consumer of the turn finds -/

/-- A turn as its consumer leaves it. -/
def turnTaken (org : Orchestrator) (session : Session) (userMessage : String)
    (approvals : Option (Table String Bool)) (actorRole : String) (env : TurnEnv)
    (stop : Option Nat) : List AgentEvent × TurnState :=
  taken (runTurn org session userMessage approvals actorRole env) stop

/-- A genuine call is shown for approval if and only if it asks. -/
theorem askedId_isSome_iff {i : Invocation} (h : i.report=invokeTool rt i.env ctx i.name i.input) :
    (askedId i).isSome=true ↔ Asks rt ctx i.name i.input := by
  unfold askedId Asks
  cases hresult : i.report.result with
  | error k =>
    constructor
    · intro hnone
      cases hnone
    · rintro ⟨⟨spec,hcleared,hgate⟩,-⟩
      rw [h,invokeTool_undecided hcleared hgate] at hresult
      cases hresult
  | ok o =>
    rw [h] at hresult
    dsimp only
    constructor
    · intro hsome
      split at hsome
      · rename_i hasks
        obtain ⟨hundecided,rfl⟩ := invokeTool_asks_iff.mp ⟨hresult,hasks.1⟩
        refine ⟨hundecided,fun hblank => ?_⟩
        have hshown := hasks.2
        simp [approvalNeeded,ToolInvocationOutcome.stripped,truthy,hblank] at hshown
      · cases hsome
    · rintro ⟨hundecided,hsummary⟩
      obtain ⟨spec,hcleared,hgate⟩ := hundecided
      rw [invokeTool_undecided hcleared hgate] at hresult
      cases hresult
      rw [if_pos ⟨rfl,by simp [approvalNeeded,ToolInvocationOutcome.stripped,truthy,hsummary]⟩]
      rfl

/-- A request always carries an id. -/
theorem requestedId_isSome {ev : AgentEvent} (h : ev.kind=.approvalRequest) :
    ∃ a,requestedId ev=some a ∧ ev.fields.approvalId=some a := by
  have hvalid := ev.valid
  unfold requestedId
  rw [if_pos h]
  cases hid : ev.fields.approvalId with
  | some a => exact ⟨a,rfl,rfl⟩
  | none =>
    unfold eventError at hvalid
    split at hvalid
    · cases hvalid
    · have hkind : ev.fields.kind=.approvalRequest := h
      simp [payloadError,hkind,hid,truthy] at hvalid

/-- Wherever the consumer leaves a turn, it has seen a request if and only if
a logged call asked. -/
theorem requests_iff_asks (org : Orchestrator) (session : Session) (userMessage : String)
    (approvals : Option (Table String Bool)) (actorRole : String) (env : TurnEnv)
    (stop : Option Nat) :
    (∃ ev∈(turnTaken org session userMessage approvals actorRole env stop).1,
        ev.kind=.approvalRequest) ↔
      ∃ i∈(turnTaken org session userMessage approvals actorRole env stop).2.invocations,
        Asks org.rt (turnContext session (newTurnId env.seed) approvals actorRole) i.name i.input := by
  have halong : Along (Recorded org.rt (turnContext session (newTurnId env.seed) approvals actorRole))
      (turnGen org session userMessage approvals actorRole env) fun _ => True :=
    turnGen_along approvals actorRole
  have hrecorded := (halong {history := session.messageHistory}).1.taken stop
  obtain ⟨is,his,hgenuine,hids⟩ := hrecorded.calls
  rw [List.nil_append] at his
  unfold turnTaken runTurn
  constructor
  · rintro ⟨ev,hev,hkind⟩
    obtain ⟨a,ha,-⟩ := requestedId_isSome hkind
    have hmem := List.mem_filterMap.mpr ⟨ev,hev,ha⟩
    rw [hids] at hmem
    obtain ⟨i,hi,hasked⟩ := List.mem_filterMap.mp hmem
    exact ⟨i,his ▸ hi,(askedId_isSome_iff (hgenuine i hi)).mp (by rw [hasked]; rfl)⟩
  · rintro ⟨i,hi,hasks⟩
    rw [his] at hi
    obtain ⟨a,ha⟩ := Option.isSome_iff_exists.mp ((askedId_isSome_iff (hgenuine i hi)).mpr hasks)
    have hmem := List.mem_filterMap.mpr ⟨i,hi,ha⟩
    rw [← hids] at hmem
    obtain ⟨ev,hev,hrequested⟩ := List.mem_filterMap.mp hmem
    unfold requestedId at hrequested
    split at hrequested
    · rename_i hkind
      exact ⟨ev,hev,hkind⟩
    · cases hrequested

/-- Both gates let the turn pass. -/
def GatesPassed (env : TurnEnv) : Prop := rateGate env=.ok none ∧ budgetGate env=.ok none

/-- A turn that passes the gates has the user's message in its history from
the first yield on. -/
theorem history_of_passed (org : Orchestrator) (session : Session) (userMessage : String)
    (approvals : Option (Table String Bool)) (actorRole : String) (stop : Option Nat)
    (h : GatesPassed env) :
    session.messageHistory++[userTurn userMessage] <+:
      (turnTaken org session userMessage approvals actorRole env stop).2.history := by
  have hJ := recorded_composable org.rt
    (turnContext session (newTurnId env.seed) approvals actorRole)
  have hphases : Along (Recorded org.rt (turnContext session (newTurnId env.seed) approvals actorRole))
      (agentPhases org session userMessage
        (turnContext session (newTurnId env.seed) approvals actorRole) env) fun _ => True :=
    agentPhases_along (turnContext_turnId session env.seed approvals actorRole)
  have halong := Along.bind hJ hphases fun _ _ =>
    emitBuilt_along (f:=finalFields session.id (newTurnId env.seed)) (by simp [finalFields])
  have hrun : runTurn org session userMessage approvals actorRole env=
      (agentPhases org session userMessage
        (turnContext session (newTurnId env.seed) approvals actorRole) env >>= fun _ =>
          emitBuilt (finalFields session.id (newTurnId env.seed)))
        (TurnState.beginTurn {history := session.messageHistory} userMessage) := by
    unfold runTurn turnGen
    simp only [h.1,h.2,ofExcept_ok]
    rfl
  have htaken := (halong (TurnState.beginTurn {history := session.messageHistory} userMessage)).1.taken
    stop
  unfold turnTaken
  rw [hrun]
  exact htaken.history

/-- Bodies that leave the state as it is. -/
def Still (s : TurnState) (_ : List AgentEvent) (t : TurnState) : Prop := t=s

theorem still_composable : Composable Still := ⟨fun _ => rfl,fun h h' => h'.trans h⟩

theorem refuseTurn_still (sessionId turnId message : String) :
    Along Still (refuseTurn sessionId turnId message) fun _ => True := by
  have hbuilt : ∀ f : AgentEventFields,Along Still (emitBuilt f) fun _ => True := fun f =>
    Along.bind still_composable (Along.ofExcept still_composable (Q:=fun _ => True)
      fun _ _ => trivial) fun _ _ => Along.emit fun _ => rfl
  exact Along.bind still_composable (hbuilt _) fun _ _ => hbuilt _

/-- A turn that a gate stops is left in the state it started in. -/
theorem state_of_stopped (org : Orchestrator) (session : Session) (userMessage : String)
    (approvals : Option (Table String Bool)) (actorRole : String) (stop : Option Nat)
    (h : ¬GatesPassed env) :
    (turnTaken org session userMessage approvals actorRole env stop).2=
      {history := session.messageHistory} := by
  have hstill : Along Still (turnGen org session userMessage approvals actorRole env)
      fun _ => True := by
    refine Along.bind still_composable (Q:=fun refusal => rateGate env=.ok refusal)
      (Along.ofExcept still_composable fun _ h => h) fun refusal hrate => ?_
    cases refusal with
    | some message => exact refuseTurn_still _ _ message
    | none =>
      refine Along.bind still_composable (Q:=fun refusal => budgetGate env=.ok refusal)
        (Along.ofExcept still_composable fun _ h => h) fun refusal hbudget => ?_
      cases refusal with
      | some message => exact refuseTurn_still _ _ message
      | none => exact absurd ⟨hrate,hbudget⟩ h
  exact (hstill _).1.taken stop

/-- A turn that a gate stops leaves the history as it is. -/
theorem history_of_stopped (org : Orchestrator) (session : Session) (userMessage : String)
    (approvals : Option (Table String Bool)) (actorRole : String) (stop : Option Nat)
    (h : ¬GatesPassed env) :
    (turnTaken org session userMessage approvals actorRole env stop).2.history=
      session.messageHistory := by
  rw [state_of_stopped org session userMessage approvals actorRole stop h]

end Voyagent.TurnRequests
