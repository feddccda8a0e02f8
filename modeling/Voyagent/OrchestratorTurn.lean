import Voyagent.AgentLoop
import Voyagent.Sessions

/-!
# One turn of the orchestrator

Gates, the orchestrator's own loop with its callback, the splice of the new
messages into the session history, the domain agent after a handoff, the
cost record and the closing event. Everything awaited is an argument of the
turn, so its behaviours range over all answers and all exceptions.
-/

namespace Voyagent.OrchestratorTurn

open RuntimeValues KeyedMap TrimmedText AgentEvents SessionTranscript ToolInvocation
open GeneratorTraces AgentLoop Sessions

/-- Lower-case hexadecimal digits. -/
def isHexDigit (c : Char) : Bool :=
  (48≤c.toNat && c.toNat≤57) || (97≤c.toNat && c.toNat≤102)

/-- The first twelve digits of `uuid4().hex`. -/
structure TurnSeed where
  hex : String
  hex_digits : hex.toList.length=12 ∧ hex.toList.all isHexDigit=true
  deriving DecidableEq

/-- `_new_turn_id`. -/
def newTurnId (seed : TurnSeed) : String := "t-"++seed.hex

/-- The runtime overrides of a tenant that a turn reads. -/
structure TenantSettings where
  rateLimitPerMinute : Int := 60
  rateLimitPerHour : Int := 1000
  dailyTokenBudget : Option Int := none

/-- Answer of `RateLimiter.check`. -/
inductive LimiterAnswer where
  | accepted
  | exceeded (scope : String)
  /-- An exception other than `RateLimitExceededError`. -/
  | raised (e : Exn)

/-- Answer of `tokens_for_tenant_today`. -/
inductive TokensAnswer where
  | used (n : Int)
  /-- An exception other than `DailyBudgetExceededError`. -/
  | raised (e : Exn)

/-- The cost tracker of a turn. -/
structure TrackerEnv where
  tokensForTenantToday : TokensAnswer
  /-- Signal that reading the usage or recording the cost ends with, if any. -/
  record : Option Halt := none

/-- The domain agents a handoff can be resolved to. -/
structure DomainAgent where
  name : String
  tools : List String

def ticketingVisaAgent : DomainAgent :=
  ⟨"ticketing_visa",["search_flights","read_pnr","issue_ticket"]⟩

def hotelsHolidaysAgent : DomainAgent :=
  ⟨"hotels_holidays",["search_hotels","check_hotel_rate","book_hotel","cancel_hotel_booking",
    "read_hotel_booking"]⟩

def accountingAgent : DomainAgent :=
  ⟨"accounting",["list_ledger_accounts","post_journal_entry","create_invoice","draft_invoice",
    "fetch_bsp_statement","reconcile_bsp","read_account_balance"]⟩

/-- Everything the world does during one turn. -/
structure TurnEnv where
  seed : TurnSeed
  /-- Answer of the settings resolver, when one is configured. -/
  settings : Option (Except Exn TenantSettings) := none
  /-- Answer of the rate limiter to the limits asked for, when one is configured. -/
  limiter : Option (Int → Int → LimiterAnswer) := none
  tracker : Option TrackerEnv := none
  orchestratorCalls : Nat → ModelCall
  /-- `handoff_resolver`. -/
  resolve : String → Except Exn DomainAgent
  domainCalls : Nat → ModelCall

/-- The orchestrator of a process. -/
structure Orchestrator where
  rt : Runtime
  availableDomains : List String

/-- `ORCHESTRATOR_TOOL_NAMES`. -/
def orchestratorToolNames : List String := ["handoff","clarify"]

/-- The settings a turn works with; a failed lookup counts as none. -/
def tenantSettings (env : TurnEnv) : Option TenantSettings :=
  match env.settings with
  | some (.ok settings) => some settings
  | _ => none

/-- The rate-limit gate: a refusal to report, or an exception to raise. -/
def rateGate (env : TurnEnv) : Except Halt (Option String) :=
  match env.limiter with
  | none => .ok none
  | some check =>
    let perMinute := ((tenantSettings env).map TenantSettings.rateLimitPerMinute).getD 60
    let perHour := ((tenantSettings env).map TenantSettings.rateLimitPerHour).getD 1000
    match check perMinute perHour with
    | .accepted => .ok none
    | .exceeded scope => .ok (some ("rate_limited: "++scope))
    | .raised e => .error (.raised e)

/-- `enforce_daily_budget`, with the refusal as a text. -/
def enforceDailyBudget (tracker : TrackerEnv) (budget : Int) : Except Halt (Option String) :=
  if budget≤0 then .ok none
  else
    match tracker.tokensForTenantToday with
    | .raised e => .error (.raised e)
    | .used n =>
      if budget≤n then
        .ok (some ("daily_budget_exceeded: limit="++toString budget++" used="++toString n))
      else .ok none

/-- The budget gate, passed when nothing is configured. -/
def budgetGate (env : TurnEnv) : Except Halt (Option String) :=
  match env.tracker,(tenantSettings env).bind TenantSettings.dailyTokenBudget with
  | some tracker,some budget => enforceDailyBudget tracker budget
  | _,_ => .ok none

/-- The context every tool call of the turn receives. An empty map of
decisions falls back to the resolved approvals of the session. -/
def turnContext (session : Session) (turnId : String) (approvals : Option (Table String Bool))
    (actorRole : String) : ToolContext :=
  ToolContext.stripped
    {tenantId := session.tenantId
     actorId := session.actorId
     actorKind := session.actorKind
     sessionId := session.id
     turnId
     actorRole
     approvals := match approvals with
       | some (e::d) => e::d
       | _ => session.approvalsMap}

/-- Python's `str` on a JSON value. -/
def pyStr (rt : Runtime) : Json → String
  | .str s => s
  | v => rt.repr v

/-- `str(tool_input.get(key, "")).strip()`. -/
def argumentText (rt : Runtime) (input : Dict) (key : String) : String :=
  pyStrip (pyStr rt ((get input key).getD (.str "")))

/-- Answer a call with one event in its place. -/
def answerWith (f : AgentEventFields) : TurnGen (Option (List AgentEvent)) := do
  let ev ← ofExcept (AgentEvent.build f)
  pure (some [ev])

/-- `_on_tool_use`: handoffs are remembered, clarifying questions are shown. -/
def onToolUse (org : Orchestrator) (sessionId turnId : String) : Hook := fun name input =>
  if name="handoff" then
    let domain := argumentText org.rt input "domain"
    let goal := argumentText org.rt input "goal"
    if org.availableDomains.contains domain then do
      update fun s => {s with handoffTarget := some ⟨domain,goal⟩}
      pure (some [])
    else answerWith (errorFields sessionId turnId
      ("Handoff to unknown domain "++org.rt.reprStr domain++"."))
  else if name="clarify" then
    answerWith (textDeltaFields sessionId turnId (argumentText org.rt input "question"))
  else pure none

/-- `_sync_history`, on any kind of entry. -/
def syncHistory {α : Type} (history working : List α) : List α :=
  history++working.drop history.length

/-- How a forwarding phase ended. -/
structure PhaseEnd where
  approvalPaused : Bool
  errored : Bool

def isApprovalRequest (ev : AgentEvent) : Bool := decide (ev.kind=.approvalRequest)

/-- Forward an agent's events up to an approval request. -/
def forwardAgent (g : TurnGen Unit) : TurnGen PhaseEnd := do
  let c ← forwardUntil isApprovalRequest g
  pure ⟨c.result.isNone,c.events.any fun ev => decide (ev.kind=.error)⟩

/-- `except Exception`: report the exception and mark the turn as errored. -/
def reportingErrors (sessionId turnId : String) (g : TurnGen PhaseEnd) : TurnGen PhaseEnd :=
  recover g fun
    | .cancelled => none
    | .raised e => some do
      emitBuilt (errorFields sessionId turnId e.describe)
      pure ⟨false,true⟩

/-- The orchestrator's arguments to the loop. -/
def orchestratorLoop (org : Orchestrator) (ctx : ToolContext) (session : Session)
    (turnId : String) : LoopConfig :=
  {rt := org.rt
   sessionId := session.id
   turnId
   toolNames := orchestratorToolNames
   ctx
   onToolUse := onToolUse org session.id turnId}

/-- A domain agent's arguments to the loop. -/
def domainLoop (org : Orchestrator) (agent : DomainAgent) (ctx : ToolContext)
    (session : Session) : LoopConfig :=
  {rt := org.rt
   sessionId := session.id
   turnId := ctx.turnId
   toolNames := agent.tools
   ctx}

/-- The message a domain agent starts from. -/
def seedMessage (goal userMessage : String) : Message :=
  ⟨.user,[.text ("[handoff from orchestrator]\nGoal: "++goal++"\nUser said: "++userMessage)]⟩

/-- What a domain agent adds to the history: its transcript after the history
it started from and the seed. -/
def spliceDomain {α : Type} (history working : List α) : List α :=
  history++working.drop (history.length+1)

/-- `run` of the three domain agents: nothing is kept of a run that asks for
approval, since the generator returns at the request. -/
def DomainAgent.run (org : Orchestrator) (agent : DomainAgent) (ctx : ToolContext)
    (session : Session) (goal userMessage : String) (calls : Nat → ModelCall) : TurnGen Unit := do
  update fun s => {s with messages := s.history++[seedMessage goal userMessage]}
  let c ← forwardUntil isApprovalRequest (runAgentTurn (domainLoop org agent ctx session) calls)
  match c.result with
  | none => pure ()
  | some () => update fun s => {s with history := spliceDomain s.history s.messages}

/-- Resolve a handoff and run its agent. The request strips its strings and
refuses an empty goal. -/
def runHandoff (org : Orchestrator) (ctx : ToolContext) (session : Session) (userMessage : String)
    (env : TurnEnv) (target : Handoff) : TurnGen PhaseEnd :=
  match env.resolve target.domain with
  | .error e => fail (.raised e)
  | .ok agent =>
    if stripWhitespace target.goal="" then
      fail (.raised (validationError "goal: String should have at least 1 character"))
    else forwardAgent (DomainAgent.run org agent ctx session (stripWhitespace target.goal)
      (stripWhitespace userMessage) env.domainCalls)

/-- The orchestrator's own stream, and the splice of what it added. -/
def orchestratorPhase (org : Orchestrator) (ctx : ToolContext) (session : Session)
    (turnId : String) (env : TurnEnv) : TurnGen PhaseEnd := do
  let o ← reportingErrors session.id turnId
    (forwardAgent (runAgentTurn (orchestratorLoop org ctx session turnId) env.orchestratorCalls))
  update fun s => {s with history := syncHistory s.history s.messages}
  pure o

/-- The domain agent's stream, after a handoff that nothing interrupted. -/
def domainPhase (org : Orchestrator) (ctx : ToolContext) (session : Session)
    (turnId userMessage : String) (env : TurnEnv) (o : PhaseEnd) : TurnGen Unit := do
  match ← read TurnState.handoffTarget with
  | none => pure ()
  | some target =>
    if o.approvalPaused || o.errored then pure ()
    else do
      let _ ← reportingErrors session.id turnId
        (runHandoff org ctx session userMessage env target)
      pure ()

/-- The cost record, whose exceptions are swallowed. -/
def recordCost (env : TurnEnv) : TurnGen Unit :=
  match env.tracker.bind TrackerEnv.record with
  | some .cancelled => fail .cancelled
  | _ => pure ()

/-- The transcript entry of the user's message. -/
def userTurn (userMessage : String) : Message := ⟨.user,[.text userMessage]⟩

/-- Append the user's message and copy the history into a fresh transcript. -/
def TurnState.beginTurn (s : TurnState) (userMessage : String) : TurnState :=
  {s with
    history := s.history++[userTurn userMessage]
    messages := s.history++[userTurn userMessage]
    handoffTarget := none}

/-- Everything between the gates and the closing event. -/
def turnPhases (org : Orchestrator) (session : Session) (userMessage : String)
    (ctx : ToolContext) (env : TurnEnv) : TurnGen Unit := do
  update fun s => TurnState.beginTurn s userMessage
  let o ← orchestratorPhase org ctx session (newTurnId env.seed) env
  domainPhase org ctx session (newTurnId env.seed) userMessage env o
  recordCost env

/-- Report a refusal and close the turn. -/
def refuseTurn (sessionId turnId message : String) : TurnGen Unit := do
  emitBuilt (errorFields sessionId turnId message)
  emitBuilt (finalFields sessionId turnId)

/-- `Orchestrator.run_turn` as a body over the shared state. -/
def turnGen (org : Orchestrator) (session : Session) (userMessage : String)
    (approvals : Option (Table String Bool)) (actorRole : String) (env : TurnEnv) :
    TurnGen Unit := do
  let turnId := newTurnId env.seed
  match ← ofExcept (rateGate env) with
  | some message => refuseTurn session.id turnId message
  | none => do
    match ← ofExcept (budgetGate env) with
    | some message => refuseTurn session.id turnId message
    | none => do
      turnPhases org session userMessage (turnContext session turnId approvals actorRole) env
      emitBuilt (finalFields session.id turnId)

/-- One run of `Orchestrator.run_turn` on a session. -/
def runTurn (org : Orchestrator) (session : Session) (userMessage : String)
    (approvals : Option (Table String Bool)) (actorRole : String) (env : TurnEnv) :
    Trace TurnState AgentEvent Halt Unit :=
  turnGen org session userMessage approvals actorRole env {history := session.messageHistory}

/-! ## What a turn can do -/

variable {org : Orchestrator} {session : Session} {ctx : ToolContext} {env : TurnEnv}
variable {turnId userMessage : String} {s t : TurnState}

theorem hexDigit_not_whiteSpace {c : Char} (h : isHexDigit c=true) : isWhiteSpace c=false := by
  simp only [isHexDigit,Bool.or_eq_true,Bool.and_eq_true,decide_eq_true_eq] at h
  simp only [isWhiteSpace,Bool.or_eq_false_iff,Bool.and_eq_false_iff,decide_eq_false_iff_not,
    beq_eq_false_iff_ne]
  omega

/-- A turn id has no blanks to strip and is not empty. -/
theorem newTurnId_bare (seed : TurnSeed) :
    stripWhitespace (newTurnId seed)=newTurnId seed ∧ newTurnId seed≠"" := by
  have hne : seed.hex.toList≠[] := by
    intro hn
    have hlen := seed.hex_digits.1
    rw [hn] at hlen
    cases hlen
  constructor
  · refine trimBy_eq_self_iff.mpr fun c hc => ?_
    simp only [newTurnId,String.toList_append,List.getLast?_append_of_ne_nil _ hne] at hc
    rcases hc with hc|hc
    · have hhead : c = 't' := by simpa using hc.symm
      rw [hhead]
      decide
    · exact hexDigit_not_whiteSpace
        (List.all_eq_true.mp seed.hex_digits.2 c (List.mem_of_getLast? hc))
  · intro h
    have hl := congrArg String.toList h
    simp [newTurnId] at hl

theorem newTurnId_nonblank (seed : TurnSeed) : stripWhitespace (newTurnId seed)≠"" := by
  rw [(newTurnId_bare seed).1]
  exact (newTurnId_bare seed).2

/-- Turn ids differ exactly when the drawn digits do. -/
theorem newTurnId_inj {seed seed' : TurnSeed} (h : newTurnId seed=newTurnId seed') : seed=seed' := by
  have hl := congrArg String.toList h
  simp only [newTurnId,String.toList_append,List.append_cancel_left_eq] at hl
  cases seed
  cases seed'
  cases String.toList_inj.mp hl
  rfl

theorem turnContext_turnId (session : Session) (seed : TurnSeed)
    (approvals : Option (Table String Bool)) (actorRole : String) :
    (turnContext session (newTurnId seed) approvals actorRole).turnId=newTurnId seed :=
  (newTurnId_bare seed).1

/-- Every logged call was made under the context of the turn. -/
def GenuineCalls (org : Orchestrator) (ctx : ToolContext) (s : TurnState) : Prop :=
  ∀ i∈s.invocations,i.report=invokeTool org.rt i.env ctx i.name i.input

/-- The events of a turn before its closing one: those of a loop under the
turn's context, and the texts and errors the orchestrator adds. -/
def TurnEvent (org : Orchestrator) (ctx : ToolContext) (session : Session) (turnId : String)
    (ev : AgentEvent) : Prop :=
  LoopEvent (orchestratorLoop org ctx session turnId) ev ∨ ev.kind=.textDelta ∨ ev.kind=.error

/-- Nothing awaited during the turn is cancelled. -/
structure TurnEnv.Uncancelled (env : TurnEnv) : Prop where
  orchestrator : ∀ n,(env.orchestratorCalls n).Uncancelled
  domain : ∀ n,(env.domainCalls n).Uncancelled
  record : env.tracker.bind TrackerEnv.record≠some .cancelled

/-- A loop rule holds for every invariant the loop's growth keeps. -/
theorem sat_of_grows {α : Type} (cfg : LoopConfig) {H : AgentEvent → Prop} {cause : Prop}
    {I : TurnState → Prop} {g : TurnGen α} (hI : ∀ s t,I s → Grows cfg s t → I t)
    (h : ∀ s,Sat (Grows cfg s) g (Emits cfg H s) (fun _ t => Grows cfg s t) (Stops cfg cause s)) :
    Sat I g (fun ev t => (LoopEvent cfg ev ∨ H ev) ∧ I t) (fun _ t => I t)
      (fun k t => I t ∧ (k=.cancelled → cause)) := by
  intro s hs
  obtain ⟨hy,hx⟩ := h s s (Grows.refl cfg s)
  refine ⟨fun y hm => ⟨(hy y hm).1,hI s _ hs (hy y hm).2⟩,?_⟩
  cases hexit : (g s).exit with
  | ok a => rw [hexit] at hx; exact hI s _ hs hx
  | error k => rw [hexit] at hx; exact ⟨hI s _ hs hx.1,hx.2⟩

theorem GenuineCalls.grows {cfg : LoopConfig} (hrt : cfg.rt=org.rt) (hctx : cfg.ctx=ctx)
    (h : GenuineCalls org ctx s) (hg : Grows cfg s t) : GenuineCalls org ctx t := by
  obtain ⟨is,his,hall⟩ := hg.invocations
  intro i hm
  rw [his] at hm
  rcases List.mem_append.mp hm with hm|hm
  · exact h i hm
  · rw [hall i hm,hrt,hctx]

/-- The orchestrator's callback answers with texts and errors. -/
theorem onToolUse_hookSat :
    HookSat (orchestratorLoop org ctx session turnId)
      (fun ev => ev.kind=.textDelta ∨ ev.kind=.error) := by
  have hbuilt : ∀ f : AgentEventFields,(f.kind=.textDelta ∨ f.kind=.error) → ∀ s₀,
      Sat (Grows (orchestratorLoop org ctx session turnId) s₀) (answerWith f) (fun _ _ => False)
        (fun o s => Grows (orchestratorLoop org ctx session turnId) s₀ s ∧
          ∀ evs,o=some evs → ∀ ev∈evs,ev.kind=.textDelta ∨ ev.kind=.error)
        (fun k s => Grows (orchestratorLoop org ctx session turnId) s₀ s ∧ ∃ e,k=.raised e) := by
    intro f hf s₀
    refine Sat.bind (Q:=fun ev s => AgentEvent.build f=.ok ev ∧ Grows _ s₀ s)
      (Sat.ofExcept (fun ev s hb hs => ⟨hb,hs⟩) fun k s hb hs => ?_) fun ev => ?_
    · obtain ⟨_,_,rfl⟩ := build_error hb
      exact ⟨hs,_,rfl⟩
    · refine Sat.pure fun s hs => ⟨hs.2,fun evs he ev' hm => ?_⟩
      cases he
      rw [List.mem_singleton.mp hm,build_kind hs.1]
      exact hf
  intro name input s₀
  change Sat _ (onToolUse org session.id turnId name input) _ _ _
  unfold onToolUse
  split
  · dsimp only
    split
    · exact Sat.bind (Q:=fun _ s => Grows _ s₀ s) (Sat.update fun s hs => hs.handoff _) fun _ =>
        Sat.pure fun s hs => ⟨hs,fun evs he ev hm => by cases he; exact absurd hm List.not_mem_nil⟩
    · exact hbuilt _ (.inr rfl) s₀
  · split
    · exact hbuilt _ (.inl rfl) s₀
    · exact Sat.pure fun s hs => ⟨hs,fun evs he => by cases he⟩

/-- A domain agent's loop has no callback. -/
theorem domain_hookSat (agent : DomainAgent) :
    HookSat (domainLoop org agent ctx session) (fun _ => False) :=
  fun _ _ _ => Sat.pure fun s hs => ⟨hs,fun evs he => by cases he⟩

variable {ev : AgentEvent}

/-- A loop event depends on the turn's identity and context alone. -/
theorem loopEvent_domain {agent : DomainAgent} (hturn : ctx.turnId=turnId)
    (h : LoopEvent (domainLoop org agent ctx session) ev) :
    LoopEvent (orchestratorLoop org ctx session turnId) ev := by
  subst hturn
  cases h with
  | textDelta text h => exact .textDelta text h
  | toolUse name input id h => exact .toolUse name input id h
  | toolResult name output id h => exact .toolResult name output id h
  | error message h => exact .error message h
  | approvalRequest name input id env o hasks h => exact .approvalRequest name input id env o hasks h

section Phases

/-! The rules of the phases share the invariant, the admitted events and the
cause of a cancellation. -/

/-- Yields of a phase. -/
def PhaseEmits (org : Orchestrator) (ctx : ToolContext) (session : Session) (turnId : String)
    (ev : AgentEvent) (t : TurnState) : Prop :=
  TurnEvent org ctx session turnId ev ∧ GenuineCalls org ctx t

/-- Signals of a phase that may still raise. -/
def PhaseStops (org : Orchestrator) (ctx : ToolContext) (env : TurnEnv) (k : Halt)
    (t : TurnState) : Prop :=
  GenuineCalls org ctx t ∧ (k=.cancelled → ¬env.Uncancelled)

variable {E : Halt → TurnState → Prop} {f : AgentEventFields}

theorem emitBuilt_phase (hf : f.kind=.textDelta ∨ f.kind=.error)
    (hE : ∀ e t,AgentEvent.build f=.error (.raised e) →
      GenuineCalls org ctx t → E (.raised e) t) :
    Sat (GenuineCalls org ctx) (emitBuilt f) (PhaseEmits org ctx session turnId)
      (fun _ t => GenuineCalls org ctx t) E := by
  refine Sat.bind (Q:=fun ev t => AgentEvent.build f=.ok ev ∧ GenuineCalls org ctx t)
    (Sat.ofExcept (fun ev t hb ht => ⟨hb,ht⟩) fun k t hb ht => ?_) fun ev => ?_
  · obtain ⟨_,_,rfl⟩ := build_error hb
    exact hE _ _ hb ht
  · exact Sat.emit (fun t ht => ⟨.inr (build_kind ht.1 ▸ hf),ht.2⟩) fun t ht => ht.2

theorem forwardAgent_sat {g : TurnGen Unit}
    (hg : Sat (GenuineCalls org ctx) g (PhaseEmits org ctx session turnId)
      (fun _ t => GenuineCalls org ctx t) E) :
    Sat (GenuineCalls org ctx) (forwardAgent g) (PhaseEmits org ctx session turnId)
      (fun _ t => GenuineCalls org ctx t) E := by
  refine Sat.bind (Q:=fun _ t => GenuineCalls org ctx t) ?_ fun c => Sat.pure fun t ht => ht
  refine Sat.conseq (Sat.forwardUntil hg) (fun _ ht => ht) (fun _ _ h => h) (fun c t h => ?_)
    fun _ _ h => h
  cases hres : c.result with
  | none =>
    obtain ⟨ev,_,_,hev⟩ := h.2 hres
    exact hev.2
  | some a => exact (h.1 a hres).1

variable {g : TurnGen PhaseEnd}

/-- `except Exception` leaves cancellation alone. -/
theorem reportingErrors_sat (hid : stripWhitespace turnId≠"")
    (hg : Sat (GenuineCalls org ctx) g (PhaseEmits org ctx session turnId)
      (fun _ t => GenuineCalls org ctx t) (PhaseStops org ctx env)) :
    Sat (GenuineCalls org ctx) (reportingErrors session.id turnId g)
      (PhaseEmits org ctx session turnId) (fun _ t => GenuineCalls org ctx t)
      (fun k t => GenuineCalls org ctx t ∧ k=.cancelled ∧ ¬env.Uncancelled) := by
  refine Sat.recover hg (fun k h hk => ?_) fun k t hk ht => ?_
  · cases k with
    | cancelled => cases hk
    | raised e =>
      cases hk
      refine Sat.conseq ?_ (fun t ht => ht.1) (fun _ _ h => h)
        (fun _ _ h => h) fun _ _ h => h
      refine Sat.bind (emitBuilt_phase (.inr rfl) fun e' t hb _ => ?_) fun _ => Sat.pure fun t ht => ht
      rw [build_of_valid (error_valid hid (describe_strip_ne_empty e))] at hb
      cases hb
  · cases k with
    | raised e => cases hk
    | cancelled => exact ⟨ht.1,rfl,ht.2 rfl⟩

theorem orchestratorPhase_sat (hid : stripWhitespace turnId≠"") :
    Sat (GenuineCalls org ctx) (orchestratorPhase org ctx session turnId env)
      (PhaseEmits org ctx session turnId) (fun _ t => GenuineCalls org ctx t)
      (fun k t => GenuineCalls org ctx t ∧ k=.cancelled ∧ ¬env.Uncancelled) := by
  refine Sat.bind (reportingErrors_sat hid (forwardAgent_sat ?_)) fun o => ?_
  · have hloop := sat_of_grows (orchestratorLoop org ctx session turnId)
      (I:=GenuineCalls org ctx) (fun s t hs => hs.grows rfl rfl)
      (fun s => agentLoop_sat (s:=s) onToolUse_hookSat env.orchestratorCalls maxToolLoops 0)
    refine Sat.conseq hloop (fun _ ht => ht) (fun ev t h => h) (fun _ _ h => h) fun k t h => ?_
    refine ⟨h.1,fun hk hun => ?_⟩
    obtain ⟨n,hn⟩ := h.2 hk
    exact hn (hun.orchestrator n)
  · exact Sat.bind (Q:=fun _ t => GenuineCalls org ctx t) (Sat.update fun t ht => ht) fun _ =>
      Sat.pure fun t ht => ht

theorem domainRun_sat (agent : DomainAgent) (hturn : ctx.turnId=turnId) (goal : String) :
    Sat (GenuineCalls org ctx)
      (DomainAgent.run org agent ctx session goal userMessage env.domainCalls)
      (PhaseEmits org ctx session turnId) (fun _ t => GenuineCalls org ctx t)
      (PhaseStops org ctx env) := by
  have hloop := sat_of_grows (domainLoop org agent ctx session)
    (I:=GenuineCalls org ctx) (fun s t hs => hs.grows rfl rfl)
    (fun s => agentLoop_sat (s:=s) (domain_hookSat agent) env.domainCalls maxToolLoops 0)
  refine Sat.bind (Q:=fun _ t => GenuineCalls org ctx t) (Sat.update fun t ht => ht) fun _ => ?_
  refine Sat.bind (Q:=fun _ t => GenuineCalls org ctx t) ?_ fun c => ?_
  · refine Sat.conseq (Sat.forwardUntil hloop) (fun _ ht => ht) (fun ev t h => ?_) (fun c t h => ?_)
      fun k t h => ?_
    · exact ⟨.inl (loopEvent_domain hturn (h.1.resolve_right id)),h.2⟩
    · cases hres : c.result with
      | none =>
        obtain ⟨ev,_,_,hev⟩ := h.2 hres
        exact hev.2
      | some a => exact (h.1 a hres).1
    · refine ⟨h.1,fun hk hun => ?_⟩
      obtain ⟨n,hn⟩ := h.2 hk
      exact hn (hun.domain n)
  · cases c.result with
    | none => exact Sat.pure fun t ht => ht
    | some a => exact Sat.update fun t ht => ht

theorem domainPhase_sat (hid : stripWhitespace turnId≠"") (hturn : ctx.turnId=turnId)
    (o : PhaseEnd) :
    Sat (GenuineCalls org ctx) (domainPhase org ctx session turnId userMessage env o)
      (PhaseEmits org ctx session turnId) (fun _ t => GenuineCalls org ctx t)
      (fun k t => GenuineCalls org ctx t ∧ k=.cancelled ∧ ¬env.Uncancelled) := by
  refine Sat.bind (Q:=fun _ t => GenuineCalls org ctx t) (Sat.read fun t ht => ht) fun target => ?_
  cases target with
  | none => exact Sat.pure fun t ht => ht
  | some target =>
    dsimp only
    split
    · exact Sat.pure fun t ht => ht
    · refine Sat.bind (reportingErrors_sat hid ?_) fun _ => Sat.pure fun t ht => ht
      unfold runHandoff
      cases env.resolve target.domain with
      | error e => exact Sat.fail fun t ht => ⟨ht,fun hk => by cases hk⟩
      | ok agent =>
        dsimp only
        split
        · exact Sat.fail fun t ht => ⟨ht,fun hk => by cases hk⟩
        · exact forwardAgent_sat (domainRun_sat agent hturn _)

theorem recordCost_sat :
    Sat (GenuineCalls org ctx) (recordCost env) (PhaseEmits org ctx session turnId)
      (fun _ t => GenuineCalls org ctx t)
      (fun k t => GenuineCalls org ctx t ∧ k=.cancelled ∧ ¬env.Uncancelled) := by
  unfold recordCost
  split
  · rename_i hrec
    exact Sat.fail fun t ht => ⟨ht,rfl,fun hun => hun.record hrec⟩
  · exact Sat.pure fun t ht => ht

/-- Between the gates and the closing event: only events of the turn, only
genuine calls, and no exception but a cancellation. -/
theorem turnPhases_sat (hturn : ctx.turnId=newTurnId env.seed) :
    Sat (GenuineCalls org ctx) (turnPhases org session userMessage ctx env)
      (PhaseEmits org ctx session (newTurnId env.seed)) (fun _ t => GenuineCalls org ctx t)
      (fun k t => GenuineCalls org ctx t ∧ k=.cancelled ∧ ¬env.Uncancelled) := by
  refine Sat.bind (Q:=fun _ t => GenuineCalls org ctx t) (Sat.update fun t ht => ht) fun _ => ?_
  refine Sat.bind (orchestratorPhase_sat (newTurnId_nonblank _)) fun o => ?_
  refine Sat.bind (domainPhase_sat (newTurnId_nonblank _) hturn o) fun _ => ?_
  exact recordCost_sat

theorem emitBuilt_turn (hf : f.kind=.error ∨ f.kind=.final) :
    Sat (GenuineCalls org ctx) (emitBuilt f)
      (fun ev _ => TurnEvent org ctx session turnId ev ∨ ev.kind=.final)
      (fun _ t => GenuineCalls org ctx t) (fun _ t => GenuineCalls org ctx t) := by
  refine emitBuilt_sat (fun ev t hb _ => ?_) fun _ _ ht => ht
  rcases hf with hf|hf
  · exact .inl (.inr (.inr ((build_kind hb).trans hf)))
  · exact .inr ((build_kind hb).trans hf)

/-- A whole turn, gates included. -/
theorem turnGen_sat (approvals : Option (Table String Bool)) (actorRole : String)
    (hctx : ctx=turnContext session (newTurnId env.seed) approvals actorRole) :
    Sat (GenuineCalls org ctx) (turnGen org session userMessage approvals actorRole env)
      (fun ev _ => TurnEvent org ctx session (newTurnId env.seed) ev ∨ ev.kind=.final)
      (fun _ t => GenuineCalls org ctx t) (fun _ t => GenuineCalls org ctx t) := by
  have hrefuse : ∀ message,Sat (GenuineCalls org ctx)
      (refuseTurn session.id (newTurnId env.seed) message)
      (fun ev _ => TurnEvent org ctx session (newTurnId env.seed) ev ∨ ev.kind=.final)
      (fun _ t => GenuineCalls org ctx t) (fun _ t => GenuineCalls org ctx t) := fun message =>
    Sat.bind (emitBuilt_turn (.inl rfl)) fun _ => emitBuilt_turn (.inr rfl)
  refine Sat.bind (Q:=fun _ t => GenuineCalls org ctx t)
    (Sat.ofExcept (fun _ _ _ ht => ht) fun _ _ _ ht => ht) fun refusal => ?_
  cases refusal with
  | some message => exact hrefuse message
  | none =>
    refine Sat.bind (Q:=fun _ t => GenuineCalls org ctx t)
      (Sat.ofExcept (fun _ _ _ ht => ht) fun _ _ _ ht => ht) fun refusal => ?_
    cases refusal with
    | some message => exact hrefuse message
    | none =>
      subst hctx
      refine Sat.bind (Q:=fun _ t => GenuineCalls org _ t) ?_ fun _ => emitBuilt_turn (.inr rfl)
      exact Sat.conseq (turnPhases_sat (turnContext_turnId session env.seed approvals actorRole))
        (fun _ ht => ht) (fun _ _ h => .inl h.1) (fun _ _ h => h) fun _ _ h => h.1

end Phases

variable {actorRole : String} {approvals : Option (Table String Bool)}

/-- Every event of a run is one of its turn's events or a closing one. -/
theorem runTurn_events (h : ev∈(runTurn org session userMessage approvals actorRole env).events) :
    TurnEvent org (turnContext session (newTurnId env.seed) approvals actorRole) session
      (newTurnId env.seed) ev ∨ ev.kind=.final := by
  obtain ⟨y,hy,rfl⟩ := List.mem_map.mp h
  exact (turnGen_sat approvals actorRole rfl {history := session.messageHistory}
    fun _ hm => absurd hm List.not_mem_nil).1 y hy

/-- Every tool call of a run was made under the turn's context. -/
theorem runTurn_calls {call : Invocation}
    (h : call∈(runTurn org session userMessage approvals actorRole env).state.invocations) :
    call.report=invokeTool org.rt call.env
      (turnContext session (newTurnId env.seed) approvals actorRole) call.name call.input := by
  have hsat : Sat _ (turnGen org session userMessage approvals actorRole env) _ _ _ :=
    turnGen_sat approvals actorRole rfl
  have hx := (hsat {history := session.messageHistory} fun _ hm => absurd hm List.not_mem_nil).2
  unfold runTurn at h
  cases hexit : (turnGen org session userMessage approvals actorRole env
      {history := session.messageHistory}).exit with
  | ok a => rw [hexit] at hx; exact hx call h
  | error k => rw [hexit] at hx; exact hx call h

end Voyagent.OrchestratorTurn
