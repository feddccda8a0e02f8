import Voyagent.GeneratorTraces
import Voyagent.SessionTranscript
import Voyagent.ToolInvocation

/-!
# The shared agent loop

One agent turn: stream the model's reply with buffered retries, record it,
dispatch its tool calls in order, answer them in one user message, repeat.
Each model call carries what the provider streams on every attempt and what
the world does during every tool call of the reply. Suspension at a yield is
visible to the caller, since the working transcript is shared.
-/

namespace Voyagent.AgentLoop

open RuntimeValues KeyedMap AgentEvents SessionTranscript ToolInvocation GeneratorTraces

/-- A content block as the provider's library delivers it. -/
inductive SdkBlock where
  | text (text : String)
  | toolUse (id name : String) (input : Dict)
  | other (type : String)
  /-- A plain dictionary: recorded as it is, without attributes to dispatch on. -/
  | dict (block : Block)

/-- `_block_to_dict`. -/
def blockToDict : SdkBlock → Block
  | .text text => .text text
  | .toolUse id name input => .toolUse id name input
  | .other type => .other type
  | .dict block => block

/-- The assembled reply of one model call. -/
structure FinalMessage where
  stopReason : Option String
  content : List SdkBlock

/-- One event of a provider stream, as far as the loop looks into it. -/
inductive StreamItem where
  | textDelta (text : String)
  | messageStop (message : Option FinalMessage)
  | ignored

/-- One streaming attempt: what arrives, and the failure that cuts it off. -/
structure StreamAttempt where
  items : List StreamItem
  failure : Option Halt := none

/-- Everything the world does for one model call. -/
structure ModelCall where
  /-- The n-th streaming attempt. -/
  attempts : Nat → StreamAttempt
  /-- The client's `_last_final_message` attribute after the stream. -/
  lastFinalMessage : Option FinalMessage := none
  /-- The surroundings of the n-th content block's tool call. -/
  tools : Nat → InvokeEnv

/-- What an attempt leaves behind when it ends by itself. -/
structure Streamed where
  /-- Buffered text events, in stream order. -/
  bufferedDeltas : List AgentEvent := []
  finalMessage : Option FinalMessage := none

/-- Buffer the non-empty deltas of an attempt and keep its last final message. -/
def consumeItems (sessionId turnId : String) : List StreamItem → Streamed → Except Halt Streamed
  | [],st => .ok st
  | .textDelta text::items,st =>
    if text="" then consumeItems sessionId turnId items st
    else
      match AgentEvent.build (textDeltaFields sessionId turnId text) with
      | .error k => .error k
      | .ok ev =>
        consumeItems sessionId turnId items {st with bufferedDeltas := st.bufferedDeltas++[ev]}
  | .messageStop message::items,st =>
    consumeItems sessionId turnId items {st with finalMessage := message.or st.finalMessage}
  | .ignored::items,st => consumeItems sessionId turnId items st

/-- One attempt as the `try` block sees it. -/
def consumeAttempt (sessionId turnId : String) (a : StreamAttempt) : Except Halt Streamed :=
  match consumeItems sessionId turnId a.items {} with
  | .error k => .error k
  | .ok st =>
    match a.failure with
    | some k => .error k
    | none => .ok st

/-- `len(RATE_LIMIT_BACKOFF_SECONDS)`. -/
def rateLimitBackoffs : Nat := 2

/-- `len(CONNECTION_BACKOFF_SECONDS)`. -/
def connectionBackoffs : Nat := 1

def isRateLimitError (e : Exn) : Bool := e.isInstance "RateLimitError"

def isConnectionError (e : Exn) : Bool := e.isInstance "APIConnectionError"

def isPermanentAnthropicError (e : Exn) : Bool :=
  e.isInstance "AuthenticationError" || e.isInstance "BadRequestError"

/-- How the retry loop ends. -/
inductive StreamEnd where
  | streamed (st : Streamed)
  | failed (e : Exn)
  | cancelled

/-- The retry loop. `left` counts the retries neither schedule has used. -/
def attemptLoop (sessionId turnId : String) (attempts : Nat → StreamAttempt)
    (left n rate connection : Nat) : StreamEnd :=
  match consumeAttempt sessionId turnId (attempts n) with
  | .ok st => .streamed st
  | .error .cancelled => .cancelled
  | .error (.raised e) =>
    if isPermanentAnthropicError e then .failed e
    else
      match left with
      | 0 => .failed e
      | left+1 =>
        if isRateLimitError e && decide (rate<rateLimitBackoffs) then
          attemptLoop sessionId turnId attempts left (n+1) (rate+1) connection
        else if isConnectionError e && decide (connection<connectionBackoffs) then
          attemptLoop sessionId turnId attempts left (n+1) rate (connection+1)
        else .failed e

/-- The stream phase of a model call, both schedules unused. -/
def streamCall (sessionId turnId : String) (attempts : Nat → StreamAttempt) : StreamEnd :=
  attemptLoop sessionId turnId attempts (rateLimitBackoffs+connectionBackoffs) 0 0 0

/-- The message of the error event that ends a turn without a reply. -/
def streamErrorText (e : Exn) : String :=
  if isRateLimitError e then
    "model is rate-limited, please try again in a moment ("++e.describe++")"
  else e.describe

/-- A tool call the loop made: its arguments, surroundings and report. -/
structure Invocation where
  name : String
  input : Dict
  env : InvokeEnv
  report : InvokeReport

/-- One request to the provider. -/
structure ModelRequest where
  tools : List (String × Json)
  messages : List Message

/-- A handoff the orchestrator decided on. -/
structure Handoff where
  domain : String
  goal : String
  deriving DecidableEq

/-- State the generators of a turn share, with its observable log. -/
structure TurnState where
  /-- `session.message_history`. -/
  history : List Message := []
  /-- The transcript of the running loop. -/
  messages : List Message := []
  handoffTarget : Option Handoff := none
  invocations : List Invocation := []
  requests : List ModelRequest := []

def TurnState.append (s : TurnState) (m : Message) : TurnState :=
  {s with messages := s.messages++[m]}

def TurnState.logCall (s : TurnState) (i : Invocation) : TurnState :=
  {s with invocations := s.invocations++[i]}

def TurnState.logRequest (s : TurnState) (tools : List (String × Json)) : TurnState :=
  {s with requests := s.requests++[⟨tools,s.messages⟩]}

/-- A body of the turn. -/
abbrev TurnGen (α : Type) : Type := Gen TurnState AgentEvent Halt α

/-- The `on_tool_use` callback: events to emit in place of the call, or `None`. -/
abbrev Hook : Type := String → Dict → TurnGen (Option (List AgentEvent))

/-- The arguments of `run_agent_turn` that stay fixed during the loop. -/
structure LoopConfig where
  rt : Runtime
  sessionId : EntityId
  turnId : String
  toolNames : List String
  ctx : ToolContext
  onToolUse : Hook := fun _ _ => pure none

/-- `anthropic_tool_defs(names=...)`: name and schema of the registered ones. -/
def anthropicToolDefs (rt : Runtime) (names : List String) : List (String × Json) :=
  (ofPairs (names.filterMap fun n => (get rt.registry.tools n).map fun spec => (n,spec))).map
    fun e => (e.2.name,e.2.inputSchema)

/-- Construct an event and yield it. -/
def emitBuilt (f : AgentEventFields) : TurnGen Unit := do
  let ev ← ofExcept (AgentEvent.build f)
  emit ev

/-- Invoke a tool through the default router, logging the call. -/
def callTool (cfg : LoopConfig) (env : InvokeEnv) (name : String) (input : Dict) :
    TurnGen ToolInvocationOutcome := do
  let report := invokeTool cfg.rt env cfg.ctx name input
  update fun s => s.logCall ⟨name,input,env,report⟩
  ofExcept report.result

/-- `_compact_json`. -/
def compactPayload (rt : Runtime) (payload : Dict) : String :=
  compactJson (fun q => rt.repr (.float q)) (.obj payload)

/-- `a or b` on optional strings. -/
def orText (a b : Option String) : Option String := if truthy a then a else b

/-- The payload of a role denial. -/
def deniedPayload (o : ToolInvocationOutcome) : Dict :=
  [("error",.str "permission_denied"),
    ("detail",.str ((orText (orText o.message o.errorMessage) (some "role not permitted")).getD ""))]

/-- The payload of any other answer; an empty output counts as missing. -/
def resultPayload (o : ToolInvocationOutcome) : Dict :=
  match o.output with
  | some (e::d) => e::d
  | _ => [("error",.str ((orText o.errorMessage (some "unknown tool error")).getD ""))]

/-- Results collected while a reply is dispatched. -/
structure Dispatch where
  toolResults : List Block := []
  approvalPending : Bool := false

/-- Turn the outcome of a call into its event and its tool result. -/
def settleOutcome (cfg : LoopConfig) (id name : String) (o : ToolInvocationOutcome)
    (d : Dispatch) : TurnGen Dispatch :=
  match o.kind with
  | .approvalNeeded => do
    emitBuilt (approvalRequestFields cfg.sessionId cfg.turnId name id o.approvalId
      o.approvalSummary)
    pure
      ⟨d.toolResults++[.toolResult id ("approval_pending:"++o.approvalId.getD "None") none],true⟩
  | .permissionDenied => do
    emitBuilt (toolResultFields cfg.sessionId cfg.turnId name (deniedPayload o) id)
    pure {d with toolResults :=
      d.toolResults++[.toolResult id (compactPayload cfg.rt (deniedPayload o)) (some true)]}
  | kind => do
    emitBuilt (toolResultFields cfg.sessionId cfg.turnId name (resultPayload o) id)
    pure {d with toolResults := d.toolResults++
      [.toolResult id (compactPayload cfg.rt (resultPayload o)) (some (decide (kind=.error)))]}

/-- Dispatch one tool-use block. `none` when the callback took the call over:
the results so far and its own are recorded and the turn ends. -/
def dispatchBlock (cfg : LoopConfig) (env : InvokeEnv) (id name : String) (input : Dict)
    (d : Dispatch) : TurnGen (Option Dispatch) := do
  emitBuilt (toolUseFields cfg.sessionId cfg.turnId name input id)
  match ← cfg.onToolUse name input with
  | some override => do
    emitAll override
    update fun s => s.append ⟨.user,d.toolResults++[.toolResult id "handled" none]⟩
    pure none
  | none => do
    let outcome ← callTool cfg env name input
    let d' ← settleOutcome cfg id name outcome d
    pure (some d')

/-- Dispatch the tool-use blocks of a reply in order. -/
def dispatchBlocks (cfg : LoopConfig) (tools : Nat → InvokeEnv) :
    List SdkBlock → Nat → Dispatch → TurnGen (Option Dispatch)
  | [],_,d => pure (some d)
  | .toolUse id name input::blocks,n,d => do
    match ← dispatchBlock cfg (tools n) id name input d with
    | none => pure none
    | some d' => dispatchBlocks cfg tools blocks (n+1) d'
  | _::blocks,n,d => dispatchBlocks cfg tools blocks (n+1) d

/-- The user message with the collected results, when there are any. -/
def appendResults (d : Dispatch) : TurnGen Unit :=
  if d.toolResults=[] then pure () else update fun s => s.append ⟨.user,d.toolResults⟩

/-- A reply as the transcript keeps it. -/
def assistantMessage (m : FinalMessage) : Message := ⟨.assistant,m.content.map blockToDict⟩

/-- Record a reply and dispatch it; `true` asks for another model call. -/
def recordReply (cfg : LoopConfig) (tools : Nat → InvokeEnv) (m : FinalMessage) :
    TurnGen Bool := do
  update fun s => s.append (assistantMessage m)
  if m.stopReason=some "tool_use" then do
    match ← dispatchBlocks cfg tools m.content 0 {} with
    | none => pure false
    | some d => do
      appendResults d
      pure (!d.approvalPending)
  else pure false

/-- Stream a reply: its buffered text, or the error event of a failed stream. -/
def streamPhase (cfg : LoopConfig) (call : ModelCall) : TurnGen (Option FinalMessage) :=
  match streamCall cfg.sessionId cfg.turnId call.attempts with
  | .cancelled => fail .cancelled
  | .failed e => do
    emitBuilt (errorFields cfg.sessionId cfg.turnId (streamErrorText e))
    pure none
  | .streamed st => do
    emitAll st.bufferedDeltas
    pure (st.finalMessage.or call.lastFinalMessage)

/-- One round: stream a reply, record and dispatch it. -/
def agentRound (cfg : LoopConfig) (call : ModelCall) : TurnGen Bool := do
  update fun s => s.logRequest (anthropicToolDefs cfg.rt cfg.toolNames)
  match ← streamPhase cfg call with
  | none => pure false
  | some m => recordReply cfg call.tools m

/-- `MAX_TOOL_LOOPS`. -/
def maxToolLoops : Nat := 8

/-- Rounds until one ends the turn or none is left. -/
def agentLoop (cfg : LoopConfig) (calls : Nat → ModelCall) : Nat → Nat → TurnGen Unit
  | 0,_ => pure ()
  | left+1,n => do
    if ← agentRound cfg (calls n) then agentLoop cfg calls left (n+1) else pure ()

/-- `run_agent_turn`. -/
def runAgentTurn (cfg : LoopConfig) (calls : Nat → ModelCall) : TurnGen Unit :=
  agentLoop cfg calls maxToolLoops 0

/-! ## What a turn of the loop can do -/

/-- The events the loop builds by itself. -/
inductive LoopEvent (cfg : LoopConfig) (ev : AgentEvent) : Prop
  | textDelta (text : String)
      (h : AgentEvent.build (textDeltaFields cfg.sessionId cfg.turnId text)=.ok ev)
  | toolUse (name : String) (input : Dict) (id : String)
      (h : AgentEvent.build (toolUseFields cfg.sessionId cfg.turnId name input id)=.ok ev)
  | toolResult (name : String) (output : Dict) (id : String)
      (h : AgentEvent.build (toolResultFields cfg.sessionId cfg.turnId name output id)=.ok ev)
  | error (message : String)
      (h : AgentEvent.build (errorFields cfg.sessionId cfg.turnId message)=.ok ev)
  /-- An approval request repeats what the call was answered with. -/
  | approvalRequest (name : String) (input : Dict) (id : String) (env : InvokeEnv)
      (o : ToolInvocationOutcome)
      (hasks : (invokeTool cfg.rt env cfg.ctx name input).result=.ok o ∧ o.kind=.approvalNeeded)
      (h : AgentEvent.build (approvalRequestFields cfg.sessionId cfg.turnId name id o.approvalId
        o.approvalSummary)=.ok ev)

/-- The loop only appends to its transcript and its log, and logs genuine calls. -/
structure Grows (cfg : LoopConfig) (s t : TurnState) : Prop where
  history : t.history=s.history
  messages : ∃ ms,t.messages=s.messages++ms
  invocations : ∃ is,t.invocations=s.invocations++is ∧
    ∀ i∈is,i.report=invokeTool cfg.rt i.env cfg.ctx i.name i.input

/-- Nothing that happens during the call is cancelled. -/
structure ModelCall.Uncancelled (call : ModelCall) : Prop where
  stream : ∀ n,(call.attempts n).failure≠some .cancelled
  tools : ∀ n k,(call.tools n).handler k≠.cancelled

variable {cfg : LoopConfig} {s t u : TurnState} {calls : Nat → ModelCall} {call : ModelCall}

theorem Grows.refl (cfg : LoopConfig) (s : TurnState) : Grows cfg s s :=
  ⟨rfl,⟨[],by simp⟩,⟨[],by simp,fun _ h => absurd h List.not_mem_nil⟩⟩

theorem Grows.append (h : Grows cfg s t) (m : Message) : Grows cfg s (t.append m) := by
  obtain ⟨ms,hms⟩ := h.messages
  exact ⟨h.history,⟨ms++[m],by simp [TurnState.append,hms]⟩,h.invocations⟩

theorem Grows.logRequest (h : Grows cfg s t) (tools : List (String × Json)) :
    Grows cfg s (t.logRequest tools) := ⟨h.history,h.messages,h.invocations⟩

theorem Grows.handoff (h : Grows cfg s t) (target : Option Handoff) :
    Grows cfg s {t with handoffTarget := target} := ⟨h.history,h.messages,h.invocations⟩

theorem Grows.logCall (h : Grows cfg s t) (name : String) (input : Dict) (env : InvokeEnv) :
    Grows cfg s (t.logCall ⟨name,input,env,invokeTool cfg.rt env cfg.ctx name input⟩) := by
  obtain ⟨is,his,hall⟩ := h.invocations
  refine ⟨h.history,h.messages,is++[⟨name,input,env,invokeTool cfg.rt env cfg.ctx name input⟩],
    by simp [TurnState.logCall,his],fun i hm => ?_⟩
  rcases List.mem_append.mp hm with hm|hm
  · exact hall i hm
  · rw [List.mem_singleton.mp hm]

/-- Construction fails with a raised error or yields the constructed event. -/
theorem emitBuilt_sat {P : TurnState → Prop} {Y : AgentEvent → TurnState → Prop}
    {E : Halt → TurnState → Prop} {f : AgentEventFields}
    (hY : ∀ ev s,AgentEvent.build f=.ok ev → P s → Y ev s) (hE : ∀ e s,P s → E (.raised e) s) :
    Sat P (emitBuilt f) Y (fun _ s => P s) E := by
  refine Sat.bind (Q:=fun ev s => AgentEvent.build f=.ok ev ∧ P s) (Sat.ofExcept ?_ ?_) fun ev => ?_
  · exact fun ev s hb hs => ⟨hb,hs⟩
  · intro k s hb hs
    obtain ⟨text,_,rfl⟩ := build_error hb
    exact hE _ _ hs
  · exact Sat.emit (fun s hs => hY ev s hs.1 hs.2) fun s hs => hs.2

section Surroundings

/-! One hypothesis about the callback serves every rule: it keeps the state
growing, yields nothing itself, and returns events of a known kind. -/

variable {H : AgentEvent → Prop}

/-- The callback's contract. -/
def HookSat (cfg : LoopConfig) (H : AgentEvent → Prop) : Prop :=
  ∀ name input s₀,Sat (Grows cfg s₀) (cfg.onToolUse name input) (fun _ _ => False)
    (fun o s => Grows cfg s₀ s ∧ ∀ evs,o=some evs → ∀ ev∈evs,H ev)
    (fun k s => Grows cfg s₀ s ∧ ∃ e,k=.raised e)

/-- Yields of the loop: its own events or the callback's, in a grown state. -/
def Emits (cfg : LoopConfig) (H : AgentEvent → Prop) (s : TurnState) (ev : AgentEvent)
    (t : TurnState) : Prop := (LoopEvent cfg ev ∨ H ev) ∧ Grows cfg s t

/-- Signals of the loop: a cancellation needs a cause. -/
def Stops (cfg : LoopConfig) (cause : Prop) (s : TurnState) (k : Halt) (t : TurnState) : Prop :=
  Grows cfg s t ∧ (k=.cancelled → cause)

variable {cause : Prop}

theorem emitBuilt_grows {f : AgentEventFields}
    (h : ∀ ev,AgentEvent.build f=.ok ev → LoopEvent cfg ev) :
    Sat (Grows cfg s) (emitBuilt f) (Emits cfg H s) (fun _ t => Grows cfg s t)
      (Stops cfg cause s) :=
  emitBuilt_sat (fun ev _ hb ht => ⟨.inl (h ev hb),ht⟩) fun _ _ ht => ⟨ht,fun hk => by cases hk⟩

theorem callTool_sat (env : InvokeEnv) (name : String) (input : Dict) :
    Sat (Grows cfg s) (callTool cfg env name input) (Emits cfg H s)
      (fun o t => (invokeTool cfg.rt env cfg.ctx name input).result=.ok o ∧ Grows cfg s t)
      (Stops cfg (∃ n,env.handler n=.cancelled) s) := by
  refine Sat.bind (Q:=fun _ t => Grows cfg s t)
    (Sat.update fun t ht => ht.logCall name input env) fun _ => ?_
  refine Sat.ofExcept (fun o t ho ht => ⟨ho,ht⟩) fun k t hk ht => ⟨ht,fun hc => ?_⟩
  rw [hc] at hk
  exact invokeTool_cancelled hk

theorem settleOutcome_sat {env : InvokeEnv} {name : String} {input : Dict}
    {o : ToolInvocationOutcome} (ho : (invokeTool cfg.rt env cfg.ctx name input).result=.ok o)
    (id : String) (d : Dispatch) :
    Sat (Grows cfg s) (settleOutcome cfg id name o d) (Emits cfg H s) (fun _ t => Grows cfg s t)
      (Stops cfg cause s) := by
  unfold settleOutcome
  split
  · rename_i hkind
    exact Sat.bind (emitBuilt_grows fun ev hb => .approvalRequest name input id env o ⟨ho,hkind⟩ hb)
      fun _ => Sat.pure fun _ ht => ht
  · exact Sat.bind (emitBuilt_grows fun ev hb => .toolResult _ _ _ hb) fun _ => Sat.pure fun _ ht => ht
  · exact Sat.bind (emitBuilt_grows fun ev hb => .toolResult _ _ _ hb) fun _ => Sat.pure fun _ ht => ht

theorem dispatchBlock_sat (hhook : HookSat cfg H) (env : InvokeEnv) (id name : String)
    (input : Dict) (d : Dispatch) :
    Sat (Grows cfg s) (dispatchBlock cfg env id name input d) (Emits cfg H s)
      (fun _ t => Grows cfg s t) (Stops cfg (∃ n,env.handler n=.cancelled) s) := by
  refine Sat.bind (emitBuilt_grows fun ev hb => .toolUse _ _ _ hb) fun _ => ?_
  refine Sat.bind (Sat.conseq (hhook name input s) (fun _ ht => ht) (fun _ _ h => h.elim)
    (fun _ _ h => h) fun k t h => ⟨h.1,fun hk => ?_⟩) fun o => ?_
  · obtain ⟨e,he⟩ := h.2
    rw [hk] at he
    cases he
  · cases o with
    | some override =>
      refine Sat.bind (Q:=fun _ t => Grows cfg s t)
        (Sat.emitAll (fun ev hm t ht => ⟨.inr (ht.2 _ rfl ev hm),ht.1⟩) fun _ ht => ht.1) fun _ => ?_
      exact Sat.bind (Sat.update fun t ht => ht.append _) fun _ => Sat.pure fun _ ht => ht
    | none =>
      refine Sat.conseq ?_ (fun _ ht => ht.1) (fun _ _ h => h) (fun _ _ h => h)
        fun _ _ h => h
      refine Sat.bind (callTool_sat env name input) fun o => ?_
      by_cases ho : (invokeTool cfg.rt env cfg.ctx name input).result=.ok o
      · refine Sat.conseq ?_ (fun _ ht => ht.2) (fun _ _ h => h) (fun _ _ h => h)
          fun _ _ h => h
        exact Sat.bind (settleOutcome_sat ho id d) fun _ => Sat.pure fun _ ht => ht
      · exact fun t ht => absurd ht.1 ho

theorem dispatchBlocks_sat (hhook : HookSat cfg H) (tools : Nat → InvokeEnv)
    (blocks : List SdkBlock) (n : Nat) (d : Dispatch) :
    Sat (Grows cfg s) (dispatchBlocks cfg tools blocks n d) (Emits cfg H s)
      (fun _ t => Grows cfg s t) (Stops cfg (∃ n k,(tools n).handler k=.cancelled) s) := by
  induction blocks generalizing n d with
  | nil => exact Sat.pure fun _ ht => ht
  | cons b blocks ih =>
    cases b with
    | text text => exact ih (n+1) d
    | other type => exact ih (n+1) d
    | dict block => exact ih (n+1) d
    | toolUse id name input =>
      refine Sat.bind (Sat.conseq (dispatchBlock_sat hhook (tools n) id name input d)
        (fun _ ht => ht) (fun _ _ h => h) (fun _ _ h => h)
        fun k t h => ⟨h.1,fun hk => ⟨n,h.2 hk⟩⟩) fun o => ?_
      cases o with
      | none => exact Sat.pure fun _ ht => ht
      | some d' => exact ih (n+1) d'

theorem recordReply_sat (hhook : HookSat cfg H) (tools : Nat → InvokeEnv) (m : FinalMessage) :
    Sat (Grows cfg s) (recordReply cfg tools m) (Emits cfg H s) (fun _ t => Grows cfg s t)
      (Stops cfg (∃ n k,(tools n).handler k=.cancelled) s) := by
  refine Sat.bind (Q:=fun _ t => Grows cfg s t) (Sat.update fun t ht => ht.append _) fun _ => ?_
  by_cases hstop : m.stopReason=some "tool_use"
  · rw [if_pos hstop]
    refine Sat.bind (dispatchBlocks_sat hhook tools m.content 0 {}) fun o => ?_
    cases o with
    | none => exact Sat.pure fun _ ht => ht
    | some d =>
      refine Sat.bind (Q:=fun _ t => Grows cfg s t) ?_ fun _ => Sat.pure fun _ ht => ht
      unfold appendResults
      split
      · exact Sat.pure fun _ ht => ht
      · exact Sat.update fun t ht => ht.append _
  · rw [if_neg hstop]
    exact Sat.pure fun _ ht => ht

variable {sessionId : String} {st : Streamed} {turnId : String}

/-- What an attempt buffers are text events of the loop. -/
theorem consumeItems_textDelta {items : List StreamItem} {st' : Streamed}
    (h : consumeItems sessionId turnId items st=.ok st') :
    ∃ evs,st'.bufferedDeltas=st.bufferedDeltas++evs ∧ ∀ ev∈evs,∃ text,
      AgentEvent.build (textDeltaFields sessionId turnId text)=.ok ev := by
  induction items generalizing st with
  | nil =>
    cases h
    exact ⟨[],by simp,fun _ hm => absurd hm List.not_mem_nil⟩
  | cons item items ih =>
    cases item with
    | messageStop message =>
      have hrest := ih h
      exact hrest
    | ignored => exact ih h
    | textDelta text =>
      unfold consumeItems at h
      split at h
      · exact ih h
      · split at h
        · cases h
        · rename_i ev hev
          obtain ⟨evs,hst,hall⟩ := ih h
          refine ⟨ev::evs,by simpa using hst,fun ev' hm => ?_⟩
          rcases List.mem_cons.mp hm with rfl|hm
          · exact ⟨text,hev⟩
          · exact hall ev' hm

/-- Consuming the items raises at worst. -/
theorem consumeItems_error {items : List StreamItem} {k : Halt}
    (h : consumeItems sessionId turnId items st=.error k) : ∃ e,k=.raised e := by
  induction items generalizing st with
  | nil => cases h
  | cons item items ih =>
    cases item with
    | messageStop message => exact ih h
    | ignored => exact ih h
    | textDelta text =>
      unfold consumeItems at h
      split at h
      · exact ih h
      · split at h
        · rename_i k' hk
          obtain ⟨_,_,rfl⟩ := build_error hk
          cases h
          exact ⟨_,rfl⟩
        · exact ih h

variable {attempts : Nat → StreamAttempt} {connection : Nat}

/-- The attempt the retry loop ends with, and the failed ones before it. -/
theorem attemptLoop_streamed {left n rate : Nat}
    (h : attemptLoop sessionId turnId attempts left n rate connection=.streamed st) :
    ∃ m,n ≤ m ∧ m ≤ n+left ∧ consumeAttempt sessionId turnId (attempts m)=.ok st ∧
      ∀ j,n≤j → j < m → ∃ e,consumeAttempt sessionId turnId (attempts j)=.error (.raised e) := by
  induction left generalizing n rate connection with
  | zero =>
    unfold attemptLoop at h
    split at h
    · rename_i st' hst
      cases h
      exact ⟨n,le_refl n,le_refl n,hst,fun j hj hl => absurd hl (by omega)⟩
    · cases h
    · split at h <;> cases h
  | succ left ih =>
    unfold attemptLoop at h
    split at h
    · rename_i st' hst
      cases h
      exact ⟨n,le_refl n,by omega,hst,fun j hj hl => absurd hl (by omega)⟩
    · cases h
    · rename_i e he
      have hrest : ∀ {rate connection},
          attemptLoop sessionId turnId attempts left (n+1) rate connection=.streamed st →
          ∃ m,n ≤ m ∧ m ≤ n+(left+1) ∧ consumeAttempt sessionId turnId (attempts m)=.ok st ∧
            ∀ j,n≤j → j < m → ∃ e,
              consumeAttempt sessionId turnId (attempts j)=.error (.raised e) := by
        intro rate connection hr
        obtain ⟨m,hm,hm',hst,hfail⟩ := ih hr
        refine ⟨m,by omega,by omega,hst,fun j hj hl => ?_⟩
        rcases Nat.eq_or_lt_of_le hj with rfl|hj
        · exact ⟨e,he⟩
        · exact hfail j hj hl
      split at h
      · cases h
      · dsimp only at h
        split at h
        · exact hrest h
        · split at h
          · exact hrest h
          · cases h

/-- Only a cancelled attempt cancels the stream phase. -/
theorem attemptLoop_cancelled {left n rate : Nat}
    (h : attemptLoop sessionId turnId attempts left n rate connection=.cancelled) :
    ∃ m,(attempts m).failure=some .cancelled := by
  have hone : ∀ m,consumeAttempt sessionId turnId (attempts m)=.error .cancelled →
      (attempts m).failure=some .cancelled := by
    intro m hm
    unfold consumeAttempt at hm
    split at hm
    · rename_i k hk
      cases hm
      obtain ⟨e,he⟩ := consumeItems_error hk
      cases he
    · split at hm
      · rename_i k hk
        cases hm
        exact hk
      · cases hm
  induction left generalizing n rate connection with
  | zero =>
    unfold attemptLoop at h
    split at h
    · cases h
    · rename_i hc
      exact ⟨n,hone n hc⟩
    · split at h <;> cases h
  | succ left ih =>
    unfold attemptLoop at h
    split at h
    · cases h
    · rename_i hc
      exact ⟨n,hone n hc⟩
    · split at h
      · cases h
      · dsimp only at h
        split at h
        · exact ih h
        · split at h
          · exact ih h
          · cases h

/-- What a stream delivers are text events of the loop. -/
theorem streamCall_textDelta (h : streamCall sessionId turnId attempts=.streamed st) :
    ∀ ev∈st.bufferedDeltas,∃ text,
      AgentEvent.build (textDeltaFields sessionId turnId text)=.ok ev := by
  obtain ⟨m,_,_,hm,_⟩ := attemptLoop_streamed h
  unfold consumeAttempt at hm
  split at hm
  · cases hm
  · rename_i st' hitems
    split at hm
    · cases hm
    · cases hm
      obtain ⟨evs,hevs,hall⟩ := consumeItems_textDelta hitems
      intro ev hev
      rw [hevs] at hev
      exact hall ev (by simpa using hev)

theorem streamPhase_sat (call : ModelCall) :
    Sat (Grows cfg s) (streamPhase cfg call) (Emits cfg H s) (fun _ t => Grows cfg s t)
      (Stops cfg (¬call.Uncancelled) s) := by
  unfold streamPhase
  cases hstream : streamCall cfg.sessionId cfg.turnId call.attempts with
  | cancelled =>
    refine Sat.fail fun t ht => ⟨ht,fun _ hun => ?_⟩
    obtain ⟨m,hm⟩ := attemptLoop_cancelled hstream
    exact hun.stream m hm
  | failed e =>
    exact Sat.bind (emitBuilt_grows fun ev hb => .error _ hb) fun _ => Sat.pure fun _ ht => ht
  | streamed st =>
    refine Sat.bind (Q:=fun _ t => Grows cfg s t) (Sat.emitAll ?_ fun _ ht => ht)
      fun _ => Sat.pure fun _ ht => ht
    intro ev hm t ht
    obtain ⟨text,hb⟩ := streamCall_textDelta hstream ev hm
    exact ⟨.inl (.textDelta text hb),ht⟩

theorem agentRound_sat (hhook : HookSat cfg H) (call : ModelCall) :
    Sat (Grows cfg s) (agentRound cfg call) (Emits cfg H s) (fun _ t => Grows cfg s t)
      (Stops cfg (¬call.Uncancelled) s) := by
  refine Sat.bind (Q:=fun _ t => Grows cfg s t) (Sat.update fun t ht => ht.logRequest _) fun _ => ?_
  refine Sat.bind (streamPhase_sat call) fun o => ?_
  cases o with
  | none => exact Sat.pure fun _ ht => ht
  | some m =>
    refine Sat.conseq (recordReply_sat hhook call.tools m) (fun _ ht => ht) (fun _ _ h => h)
      (fun _ _ h => h) fun k t h => ⟨h.1,fun hk hun => ?_⟩
    obtain ⟨n,j,hj⟩ := h.2 hk
    exact hun.tools n j hj

/-- The whole loop: it emits its own events, it only grows the state, and it
is only cancelled by a cancelled collaborator. -/
theorem agentLoop_sat (hhook : HookSat cfg H) (calls : Nat → ModelCall) (left n : Nat) :
    Sat (Grows cfg s) (agentLoop cfg calls left n) (Emits cfg H s) (fun _ t => Grows cfg s t)
      (Stops cfg (∃ n,¬(calls n).Uncancelled) s) := by
  induction left generalizing n with
  | zero => exact Sat.pure fun _ ht => ht
  | succ left ih =>
    refine Sat.bind (Sat.conseq (agentRound_sat hhook (calls n)) (fun _ ht => ht) (fun _ _ h => h)
      (fun _ _ h => h) fun k t h => ⟨h.1,fun hk => ⟨n,h.2 hk⟩⟩) fun again => ?_
    cases again with
    | false => exact Sat.pure fun _ ht => ht
    | true => exact ih (n+1)

end Surroundings

end Voyagent.AgentLoop
