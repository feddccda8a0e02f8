import Voyagent.TurnTermination

/-!
# How the replies of a turn end

The fate of every tool-use block is read off the inputs of a turn: whether
its event can be built, whether the callback takes it over, and what the tool
answers. From the fates follows which ids of a reply get a result before the
loop moves on, is left or is cut off.
-/

namespace Voyagent.TranscriptPairing

open RuntimeValues KeyedMap AgentEvents SessionTranscript ToolInvocation GeneratorTraces AgentLoop
open Sessions OrchestratorTurn TurnTermination

/-- How a block, a reply or a whole loop ends. -/
inductive Fate where
  /-- A result was collected; the loop goes on, or ran to its end. -/
  | answered
  /-- The callback took this call over and ended the loop. -/
  | overridden (name : String) (input : Dict)
  | raised
  /-- The consumer stops at the approval request. -/
  | paused
  | cancelled

/-- Fate of a call with an outcome: a request that can be built pauses. -/
def outcomeFate (cfg : LoopConfig) (id name : String) (o : ToolInvocationOutcome) : Fate :=
  if o.kind=.approvalNeeded then
    match eventError (approvalRequestFields cfg.sessionId cfg.turnId name id o.approvalId
        o.approvalSummary).stripped with
    | none => .paused
    | some _ => .raised
  else .answered

/-- Fate of one tool-use block. -/
def blockFate (cfg : LoopConfig) (overrides : String → Bool) (env : InvokeEnv) (id name : String)
    (input : Dict) : Fate :=
  if stripWhitespace name="" ∨ stripWhitespace id="" then .raised
  else if overrides name then .overridden name input
  else
    match (invokeTool cfg.rt env cfg.ctx name input).result with
    | .error .cancelled => .cancelled
    | .error (.raised _) => .raised
    | .ok o => outcomeFate cfg id name o

/-- Fate of the blocks of a reply, dispatched in order. -/
def dispatchFate (cfg : LoopConfig) (overrides : String → Bool) (tools : Nat → InvokeEnv) :
    List SdkBlock → Nat → Fate
  | [],_ => .answered
  | .toolUse id name input::blocks,n =>
    match blockFate cfg overrides (tools n) id name input with
    | .answered => dispatchFate cfg overrides tools blocks (n+1)
    | fate => fate
  | _::blocks,n => dispatchFate cfg overrides tools blocks (n+1)

/-- Ids of a reply that get a result: those dispatched up to the first block
that ends the loop, which gets one only from the callback. -/
def answeredIds (cfg : LoopConfig) (overrides : String → Bool) (tools : Nat → InvokeEnv) :
    List SdkBlock → Nat → List String
  | [],_ => []
  | .toolUse id name input::blocks,n =>
    match blockFate cfg overrides (tools n) id name input with
    | .answered => id::answeredIds cfg overrides tools blocks (n+1)
    | .overridden _ _ => [id]
    | _ => []
  | _::blocks,n => answeredIds cfg overrides tools blocks (n+1)

/-- What a round has to work with. -/
inductive RoundInput where
  | cancelled
  /-- The stream failed or delivered no message. -/
  | nothing
  | reply (m : FinalMessage)

def roundInput (cfg : LoopConfig) (call : ModelCall) : RoundInput :=
  match streamCall cfg.sessionId cfg.turnId call.attempts with
  | .cancelled => .cancelled
  | .failed _ => .nothing
  | .streamed st =>
    match st.finalMessage.or call.lastFinalMessage with
    | none => .nothing
    | some m => .reply m

/-- Fate of a reply: only one that stopped for its tools is dispatched. -/
def replyFate (cfg : LoopConfig) (overrides : String → Bool) (call : ModelCall)
    (m : FinalMessage) : Fate :=
  dispatchFate cfg overrides call.tools m.content 0

/-- The reply and what the loop records after it are well formed. -/
def ReplyClean (cfg : LoopConfig) (overrides : String → Bool) (call : ModelCall)
    (m : FinalMessage) : Prop :=
  (assistantMessage m).toolResultIds=[] ∧
    if m.stopReason=some "tool_use" then
      match replyFate cfg overrides call m with
      | .answered | .overridden _ _ => ∀ id∈(assistantMessage m).toolUseIds,
          (answeredIds cfg overrides call.tools m.content 0).count id=1
      | _ => False
    else (assistantMessage m).toolUseIds=[]

/-- Fate of a loop: that of the first reply that ends it. -/
def loopFate (cfg : LoopConfig) (overrides : String → Bool) (calls : Nat → ModelCall) :
    Nat → Nat → Fate
  | 0,_ => .answered
  | left+1,n =>
    match roundInput cfg (calls n) with
    | .cancelled => .cancelled
    | .nothing => .answered
    | .reply m =>
      if m.stopReason=some "tool_use" then
        match replyFate cfg overrides (calls n) m with
        | .answered => loopFate cfg overrides calls left (n+1)
        | fate => fate
      else .answered

/-- Every reply a loop records is clean. -/
def LoopClean (cfg : LoopConfig) (overrides : String → Bool) (calls : Nat → ModelCall) :
    Nat → Nat → Prop
  | 0,_ => True
  | left+1,n =>
    match roundInput cfg (calls n) with
    | .reply m =>
      ReplyClean cfg overrides (calls n) m ∧
        (m.stopReason=some "tool_use" →
          match replyFate cfg overrides (calls n) m with
          | .answered => LoopClean cfg overrides calls left (n+1)
          | _ => True)
    | _ => True

/-- The calls the orchestrator's callback takes over. -/
def orchestratorOverrides (name : String) : Bool := name=="handoff" || name=="clarify"

/-- The handoff a taken call leads to, if it does. -/
def handoffOf (org : Orchestrator) (name : String) (input : Dict) : Option Handoff :=
  if name="handoff" ∧ org.availableDomains.contains (argumentText org.rt input "domain") then
    some ⟨argumentText org.rt input "domain",argumentText org.rt input "goal"⟩
  else none

/-- The handoff a fate leads to. -/
def Fate.target (target : String → Dict → Option Handoff) : Fate → Option Handoff
  | .overridden name input => target name input
  | _ => none

/-- The callback's behaviour: it takes over exactly the calls it overrides,
changes nothing but the handoff, and reports an error only without one. -/
structure HookKeeps (cfg : LoopConfig) (overrides : String → Bool)
    (target : String → Dict → Option Handoff) : Prop where
  passed : ∀ name input s,overrides name=false → cfg.onToolUse name input s=⟨[],.ok none,s⟩
  taken : ∀ name input s,overrides name=true → ∃ evs,
    cfg.onToolUse name input s=
      ⟨[],.ok (some evs),{s with handoffTarget := (target name input).or s.handoffTarget}⟩ ∧
    ∀ ev∈evs,ev.kind≠.approvalRequest ∧ (ev.kind=.error → target name input=none)

/-- The state a loop reaches from `s₀` after recording `ms`. -/
structure At (s₀ : TurnState) (ms : List Message) (target : Option Handoff) (t : TurnState) :
    Prop where
  history : t.history=s₀.history
  messages : t.messages=s₀.messages++ms
  handoff : t.handoffTarget=target.or s₀.handoffTarget

variable {cfg : LoopConfig} {overrides : String → Bool} {target : String → Dict → Option Handoff}
variable {s₀ t : TurnState} {ms : List Message} {org : Orchestrator} {session : Session}
variable {ctx : ToolContext} {turnId : String}

theorem At.append {o : Option Handoff} (h : At s₀ ms o t) (m : Message) :
    At s₀ (ms++[m]) o (t.append m) :=
  ⟨h.history,by simp [TurnState.append,h.messages],h.handoff⟩

variable {f : AgentEventFields}

/-- A block of a cut body whose event cannot be built raises. -/
theorem cut_emitBuilt_invalid {text : String} (h : eventError f.stripped=some text) :
    cut isApprovalRequest (emitBuilt f)=fail (some (.raised (validationError text))) := by
  have hb : AgentEvent.build f=.error (.raised (validationError text)) := by
    unfold AgentEvent.build
    split
    · rename_i hn
      rw [h] at hn
      cases hn
    · rename_i text' hs
      rw [h] at hs
      cases hs
      rfl
  unfold emitBuilt
  rw [hb]
  rfl

variable (left : Nat) (tools : Nat → InvokeEnv) (blocks : List SdkBlock) (n : Nat)
  (h : eventError f.stripped=none)

/-- Any event but an approval request passes the consumer. -/
theorem cut_emitBuilt_passed (hk : f.kind≠.approvalRequest) :
    cut isApprovalRequest (emitBuilt f)=emit ⟨f.stripped,h⟩ := by
  have hstop : isApprovalRequest ⟨f.stripped,h⟩=false := decide_eq_false hk
  unfold emitBuilt
  rw [build_of_valid h]
  exact cut_emit hstop

/-- An approval request stops the consumer. -/
theorem cut_emitBuilt_request (hk : f.kind=.approvalRequest) (s : TurnState) :
    cut isApprovalRequest (emitBuilt f) s=⟨[(⟨f.stripped,h⟩,s)],.error none,s⟩ := by
  have hstop : isApprovalRequest ⟨f.stripped,h⟩=true := decide_eq_true hk
  unfold emitBuilt
  rw [build_of_valid h]
  exact cut_emit_stop hstop s

/-- The orchestrator's callback. -/
theorem onToolUse_keeps (hid : stripWhitespace turnId≠"") :
    HookKeeps (orchestratorLoop org ctx session turnId) orchestratorOverrides (handoffOf org) := by
  have hanswer : ∀ {f : AgentEventFields} (h : eventError f.stripped=none) (s : TurnState),
      answerWith f s=⟨[],.ok (some [⟨f.stripped,h⟩]),s⟩ := by
    intro f h s
    unfold answerWith
    rw [build_of_valid h]
    rfl
  have hunknown : ∀ domain,eventError (errorFields session.id turnId
      ("Handoff to unknown domain "++org.rt.reprStr domain++".")).stripped=none := fun domain =>
    error_valid hid (refusal_nonblank (c := 'H') (by simp) (by decide))
  refine ⟨fun name input s ho => ?_,fun name input s ho => ?_⟩
  · simp only [orchestratorOverrides,Bool.or_eq_false_iff,beq_eq_false_iff_ne] at ho
    change onToolUse org session.id turnId name input s=_
    unfold onToolUse
    rw [if_neg ho.1,if_neg ho.2]
    rfl
  · change ∃ evs,onToolUse org session.id turnId name input s=_ ∧ _
    unfold onToolUse
    by_cases hh : name="handoff"
    · rw [if_pos hh]
      by_cases hd : org.availableDomains.contains (argumentText org.rt input "domain")=true
      · have htarget : handoffOf org name input=some ⟨_,_⟩ := if_pos ⟨hh,hd⟩
        rw [if_pos hd,htarget]
        exact ⟨[],rfl,fun ev hm => absurd hm List.not_mem_nil⟩
      · have htarget : handoffOf org name input=none := if_neg fun h => hd h.2
        rw [if_neg hd,hanswer (hunknown _),htarget]
        refine ⟨_,rfl,fun ev hm => ?_⟩
        rw [List.mem_singleton.mp hm]
        exact ⟨fun h => (by cases h),fun _ => rfl⟩
    · have hc : name="clarify" := by
        simp only [orchestratorOverrides,Bool.or_eq_true,beq_iff_eq] at ho
        exact ho.resolve_left hh
      have htarget : handoffOf org name input=none := if_neg fun h => hh h.1
      rw [if_neg hh,if_pos hc,hanswer (textDelta_valid hid _),htarget]
      refine ⟨_,rfl,fun ev hm => ?_⟩
      rw [List.mem_singleton.mp hm]
      exact ⟨fun h => (by cases h),fun h => by cases h⟩

/-- A domain agent has no callback. -/
theorem domain_keeps (agent : DomainAgent) :
    HookKeeps (domainLoop org agent ctx session) (fun _ => false) (fun _ _ => none) :=
  ⟨fun _ _ _ _ => rfl,fun _ _ _ h => by cases h⟩

/-- The fate a signal of a cut body reports. -/
def stopFate : Option Halt → Fate
  | none => .paused
  | some (.raised _) => .raised
  | some .cancelled => .cancelled

theorem stopFate_ne_answered (k : Option Halt) : stopFate k≠.answered := by
  cases k with
  | none => exact nofun
  | some k => cases k <;> exact nofun

/-- Error events come from a callback that found no handoff. -/
def ErrorOnly (target : String → Dict → Option Handoff) (fate : Fate) (ev : AgentEvent)
    (_ : TurnState) : Prop :=
  ev.kind=.error → ∃ name input,fate=.overridden name input ∧ target name input=none

/-- Ids the results among some blocks answer. -/
def resultIds (blocks : List Block) : List String := blocks.filterMap Block.toolResultId?

/-- Only ids of the reply are answered. -/
theorem answeredIds_subset :
    ∀ id∈answeredIds cfg overrides tools blocks n,
      id∈(blocks.map blockToDict).filterMap Block.toolUseId? := by
  induction blocks generalizing n with
  | nil => exact fun _ h => h
  | cons b blocks ih =>
    intro id hm
    cases b with
    | text text | other type => simpa [blockToDict,Block.toolUseId?] using ih (n+1) id hm
    | dict block =>
      have hi := ih (n+1) id hm
      rw [List.map_cons,List.filterMap_cons]
      split
      · exact hi
      · exact List.mem_cons_of_mem _ hi
    | toolUse id' name input =>
      rw [List.map_cons,List.filterMap_cons]
      simp only [blockToDict,Block.toolUseId?]
      unfold answeredIds at hm
      split at hm
      · rcases List.mem_cons.mp hm with rfl|hm
        · exact List.mem_cons_self
        · exact List.mem_cons_of_mem _ (ih (n+1) id hm)
      · rw [List.mem_singleton.mp hm]
        exact List.mem_cons_self
      · exact absurd hm List.not_mem_nil

/-- A reply whose dispatch does not run through has a call to answer. -/
theorem toolUseIds_of_fate (h : dispatchFate cfg overrides tools blocks n≠.answered) :
    (blocks.map blockToDict).filterMap Block.toolUseId?≠[] := by
  induction blocks generalizing n with
  | nil => exact absurd rfl h
  | cons b blocks ih =>
    rw [List.map_cons,List.filterMap_cons]
    cases b with
    | text text => exact ih (n+1) h
    | other type => exact ih (n+1) h
    | toolUse id name input => exact List.cons_ne_nil _ _
    | dict block =>
      split
      · exact ih (n+1) h
      · exact List.cons_ne_nil _ _

/-- What a body recorded is one separable list, well formed under `C`. -/
def Recorded (s₀ : TurnState) (ms : List Message) (o : Option Handoff) (C : Prop)
    (t : TurnState) : Prop :=
  ∃ new,At s₀ (ms++new) o t ∧ Fresh new ∧ Separable new ∧ (WellFormed new ↔ C)

/-- Recordings compose. -/
theorem Recorded.append {new : List Message} {o : Option Handoff} {C D : Prop}
    (hf : Fresh new) (hs : Separable new) (hc : WellFormed new ↔ C)
    (h : Recorded s₀ (ms++new) o D t) : Recorded s₀ ms o (C ∧ D) t := by
  obtain ⟨more,hat,hf',hs',hd⟩ := h
  refine ⟨new++more,by rwa [← List.append_assoc],hf.append hf',hs.append hs' hf',?_⟩
  rw [hs more hf',hc,hd]

variable {m : FinalMessage}

/-- The two messages of an answered reply. -/
theorem recorded_answer {tools : Nat → InvokeEnv} {content : List Block}
    (hids : resultIds content=answeredIds cfg overrides tools m.content 0) :
    WellFormed [assistantMessage m,⟨.user,content⟩] ↔
      (assistantMessage m).toolResultIds=[] ∧ ∀ id∈(assistantMessage m).toolUseIds,
        (answeredIds cfg overrides tools m.content 0).count id=1 := by
  have hopens : (assistantMessage m).opens=(assistantMessage m).toolUseIds := rfl
  have hresults : (⟨.user,content⟩ : Message).toolResultIds=
      answeredIds cfg overrides tools m.content 0 := hids
  rw [wellFormed_answered rfl,hopens,answers_user_iff rfl,hresults]
  rw [hresults]
  exact answeredIds_subset tools m.content 0

/-- A reply nobody answered. -/
theorem recorded_reply (m : FinalMessage) :
    WellFormed [assistantMessage m] ↔
      (assistantMessage m).toolResultIds=[] ∧ (assistantMessage m).toolUseIds=[] :=
  wellFormed_single _

theorem streamErrorText_nonblank (e : Exn) : stripWhitespace (streamErrorText e)≠"" := by
  unfold streamErrorText
  split
  · exact refusal_nonblank (c := 'm') (by simp) (by decide)
  · exact describe_strip_ne_empty e

variable {calls : Nat → ModelCall}

/-- A round that delivers no reply records nothing and ends the loop. -/
theorem loop_of_nothing {n : Nat} (h : roundInput cfg (calls n)=.nothing) :
    loopFate cfg overrides calls (left+1) n=.answered ∧
      (LoopClean cfg overrides calls (left+1) n ↔ True) := by
  rw [loopFate,LoopClean,h]
  exact ⟨rfl,Iff.rfl⟩

/-- A loop is judged by its first reply, and by the rest after an answered one. -/
theorem loop_of_reply {n : Nat} (h : roundInput cfg (calls n)=.reply m) :
    (m.stopReason≠some "tool_use" → loopFate cfg overrides calls (left+1) n=.answered) ∧
      (m.stopReason=some "tool_use" →
        (replyFate cfg overrides (calls n) m=.answered →
          loopFate cfg overrides calls (left+1) n=loopFate cfg overrides calls left (n+1) ∧
            (LoopClean cfg overrides calls (left+1) n ↔
              ReplyClean cfg overrides (calls n) m ∧ LoopClean cfg overrides calls left (n+1))) ∧
        (replyFate cfg overrides (calls n) m≠.answered →
          loopFate cfg overrides calls (left+1) n=replyFate cfg overrides (calls n) m)) ∧
      (m.stopReason≠some "tool_use" ∨ replyFate cfg overrides (calls n) m≠.answered →
        (LoopClean cfg overrides calls (left+1) n ↔ ReplyClean cfg overrides (calls n) m)) := by
  rw [loopFate,LoopClean,h]
  dsimp only
  by_cases hstop : m.stopReason=some "tool_use"
  · cases hf : replyFate cfg overrides (calls n) m <;> simp [hstop]
  · simp [hstop]

/-- The loop came to its end; the others left it midway. -/
def Fate.finished : Fate → Bool
  | .answered | .overridden _ _ => true
  | _ => false

/-- Fate of the orchestrator's loop in a turn. -/
def orchestratorFate (org : Orchestrator) (ctx : ToolContext) (session : Session) (turnId : String)
    (env : TurnEnv) : Fate :=
  loopFate (orchestratorLoop org ctx session turnId) orchestratorOverrides env.orchestratorCalls
    maxToolLoops 0

/-- What a handoff adds to the history is clean. A domain agent's transcript
is kept only when its loop came to its end. -/
def HandoffKept (org : Orchestrator) (ctx : ToolContext) (session : Session) (env : TurnEnv)
    (target : Handoff) : Prop :=
  ∀ agent,env.resolve target.domain=.ok agent → stripWhitespace target.goal≠"" →
    (loopFate (domainLoop org agent ctx session) (fun _ => false) env.domainCalls maxToolLoops
      0).finished=true →
    LoopClean (domainLoop org agent ctx session) (fun _ => false) env.domainCalls maxToolLoops 0

/-- What the phases add to the history is clean. A cancelled orchestrator
loop is never spliced back. -/
def PhasesKept (org : Orchestrator) (ctx : ToolContext) (session : Session) (turnId : String)
    (env : TurnEnv) : Prop :=
  match orchestratorFate org ctx session turnId env with
  | .cancelled => True
  | fate =>
    LoopClean (orchestratorLoop org ctx session turnId) orchestratorOverrides
        env.orchestratorCalls maxToolLoops 0 ∧
      ∀ target,fate.target (handoffOf org)=some target → HandoffKept org ctx session env target

/-- Every reply the turn keeps is clean; a refused turn keeps none. -/
def TranscriptKept (org : Orchestrator) (session : Session)
    (approvals : Option (Table String Bool)) (actorRole : String) (env : TurnEnv) : Prop :=
  rateGate env=.ok none → budgetGate env=.ok none →
    PhasesKept org (turnContext session (newTurnId env.seed) approvals actorRole) session
      (newTurnId env.seed) env

/-- The history grew by one separable list, well formed under `C`. -/
def Kept (before : List Message) (C : Prop) (t : TurnState) : Prop :=
  ∃ new,t.history=before++new ∧ Fresh new ∧ Separable new ∧ (WellFormed new ↔ C)

end Voyagent.TranscriptPairing
