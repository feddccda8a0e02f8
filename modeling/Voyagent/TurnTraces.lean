import Voyagent.TurnFates
import Voyagent.TurnRequests

/-!
# Runs of a turn as its consumers execute them

Everything a dispatched block can do is listed once, with the events it
yields and the state each is yielded in; the same for a streamed reply and
for a phase of the turn. A body is read as it is executed up to the approval
request that its consumer stops at.
-/

namespace Voyagent.TurnTraces

open RuntimeValues KeyedMap AgentEvents SessionTranscript ToolInvocation GeneratorTraces AgentLoop
open Sessions OrchestratorTurn TurnTermination TranscriptPairing

/-- What the answer to a call reports, as event and as tool result. -/
def reportedPayload (o : ToolInvocationOutcome) : Dict :=
  if o.kind=.permissionDenied then deniedPayload o else resultPayload o

/-- The log entry of a block that went to the router. -/
def blockCall (cfg : LoopConfig) (env : InvokeEnv) (name : String) (input : Dict) : Invocation :=
  ⟨name,input,env,invokeTool cfg.rt env cfg.ctx name input⟩

/-- The block's own event cannot be built. -/
abbrev Unnamed (id name : String) : Prop := stripWhitespace name="" ∨ stripWhitespace id=""

/-- The event that announces a call. -/
def Announces (id : String) (ev : AgentEvent) : Prop :=
  ev.kind=.toolUse ∧ ev.fields.toolCallId=some (stripWhitespace id)

/-- The event that reports the answer to a call. -/
def Reports (id name : String) (payload : Dict) (ev : AgentEvent) : Prop :=
  ev.kind=.toolResult ∧ ev.fields.toolName=some (stripWhitespace name) ∧
    ev.fields.toolCallId=some (stripWhitespace id) ∧
    ev.fields.toolOutput=some (stripKeys payload)

/-- The event that asks for a decision on a call. -/
def Requests (id name : String) (ev : AgentEvent) : Prop :=
  ev.kind=.approvalRequest ∧ ev.fields.toolName=some (stripWhitespace name) ∧
    ev.fields.toolCallId=some (stripWhitespace id)

/-- The callback as an observer sees it: it passes a call on untouched, or it
answers with a known number of texts and errors. -/
structure HookShows (cfg : LoopConfig) (overrides : String → Bool) (shown : String → Dict → Nat) :
    Prop where
  passed : ∀ name input s,overrides name=false → cfg.onToolUse name input s=⟨[],.ok none,s⟩
  taken : ∀ name input s,overrides name=true → ∃ evs target,
    cfg.onToolUse name input s=⟨[],.ok (some evs),{s with handoffTarget := target}⟩ ∧
      evs.length=shown name input ∧ ∀ ev∈evs,ev.kind=.textDelta ∨ ev.kind=.error

section Blocks

variable (cfg : LoopConfig) (overrides : String → Bool) (shown : String → Dict → Nat)
variable (env : InvokeEnv) (id name : String) (input : Dict) (d : Dispatch) (s : TurnState)

/-- The runs of one block, each with what decides for it. -/
inductive BlockRun : Trace TurnState AgentEvent (Option Halt) (Option Dispatch) → Prop
  /-- No event can be built without a name and an id. -/
  | unnamed (e : Exn) (hunnamed : Unnamed id name) :
      BlockRun ⟨[],.error (some (.raised e)),s⟩
  /-- The callback answers in place of the router. -/
  | taken (use : AgentEvent) (evs : List AgentEvent) (target : Option Handoff)
      (hnamed : ¬Unnamed id name) (hover : overrides name=true) (huse : Announces id use)
      (hlength : evs.length=shown name input)
      (hkinds : ∀ ev∈evs,ev.kind=.textDelta ∨ ev.kind=.error) :
      BlockRun ⟨(use,s)::evs.map (·,{s with handoffTarget := target}),.ok none,
        TurnState.append {s with handoffTarget := target}
          ⟨.user,d.toolResults++[.toolResult id "handled" none]⟩⟩
  /-- The router raises, or the call is cancelled. -/
  | halted (use : AgentEvent) (k : Halt) (hnamed : ¬Unnamed id name) (hover : overrides name=false)
      (huse : Announces id use) (hresult : (blockCall cfg env name input).report.result=.error k) :
      BlockRun ⟨[(use,s)],.error (some k),s.logCall (blockCall cfg env name input)⟩
  /-- A request without a sentence to show cannot be built. -/
  | unshown (use : AgentEvent) (e : Exn) (o : ToolInvocationOutcome) (hnamed : ¬Unnamed id name)
      (hover : overrides name=false) (huse : Announces id use)
      (hresult : (blockCall cfg env name input).report.result=.ok o)
      (hkind : o.kind=.approvalNeeded) (hfate : outcomeFate cfg id name o=.raised) :
      BlockRun ⟨[(use,s)],.error (some (.raised e)),s.logCall (blockCall cfg env name input)⟩
  /-- The consumer stops at the request. -/
  | asked (use request : AgentEvent) (o : ToolInvocationOutcome) (hnamed : ¬Unnamed id name)
      (hover : overrides name=false) (huse : Announces id use) (hrequest : Requests id name request)
      (hresult : (blockCall cfg env name input).report.result=.ok o)
      (hkind : o.kind=.approvalNeeded) (hfate : outcomeFate cfg id name o=.paused) :
      BlockRun ⟨[(use,s),(request,s.logCall (blockCall cfg env name input))],.error none,
        s.logCall (blockCall cfg env name input)⟩
  /-- The answer is reported and collected. -/
  | answered (use report : AgentEvent) (o : ToolInvocationOutcome) (isError : Bool)
      (hnamed : ¬Unnamed id name) (hover : overrides name=false) (huse : Announces id use)
      (hreport : Reports id name (reportedPayload o) report)
      (hresult : (blockCall cfg env name input).report.result=.ok o)
      (hkind : o.kind≠.approvalNeeded) :
      BlockRun ⟨[(use,s),(report,s.logCall (blockCall cfg env name input))],
        .ok (some {d with toolResults := d.toolResults++
          [.toolResult id (compactPayload cfg.rt (reportedPayload o)) (some isError)]}),
        s.logCall (blockCall cfg env name input)⟩

end Blocks

variable {cfg : LoopConfig} {overrides : String → Bool} {shown : String → Dict → Nat}

variable {id : String}

/-- The fate of a block that goes to the router is that of its call. -/
theorem blockFate_routed {env : InvokeEnv} {name : String} {input : Dict}
    (hnamed : ¬Unnamed id name) (hover : overrides name=false) :
    blockFate cfg overrides env id name input=
      match (blockCall cfg env name input).report.result with
      | .error .cancelled => .cancelled
      | .error (.raised _) => .raised
      | .ok o => outcomeFate cfg id name o := by
  unfold blockFate
  rw [if_neg hnamed,hover,if_neg Bool.false_ne_true]
  rfl

variable {s : TurnState}

/-- How a run ends is the fate of its block. -/
theorem BlockRun.fate {env : InvokeEnv} {name : String} {input : Dict} {d : Dispatch}
    {tr : Trace TurnState AgentEvent (Option Halt) (Option Dispatch)}
    (h : BlockRun cfg overrides shown env id name input d s tr) :
    match tr.exit with
    | .ok (some _) => blockFate cfg overrides env id name input=.answered
    | .ok none => blockFate cfg overrides env id name input=.overridden name input
    | .error k => blockFate cfg overrides env id name input=stopFate k := by
  cases h with
  | unnamed e hunnamed => exact if_pos hunnamed
  | taken use evs target hnamed hover =>
    dsimp only
    unfold blockFate
    rw [if_neg hnamed,if_pos hover]
  | halted use k hnamed hover huse hresult =>
    dsimp only
    rw [blockFate_routed hnamed hover,hresult]
    cases k <;> rfl
  | unshown use e o hnamed hover huse hresult hkind hfate
  | asked use request o hnamed hover huse hrequest hresult hkind hfate =>
    dsimp only
    rw [blockFate_routed hnamed hover,hresult]
    exact hfate
  | answered use report o isError hnamed hover huse hreport hresult hkind =>
    dsimp only
    rw [blockFate_routed hnamed hover,hresult]
    exact if_neg hkind

variable {o : ToolInvocationOutcome}

/-- Settling an answered outcome yields its report and collects its result. -/
theorem settleOutcome_tells (hid : stripWhitespace cfg.turnId≠"") {name : String}
    (hnamed : ¬Unnamed id name) (hkind : o.kind≠.approvalNeeded) (d : Dispatch) (s : TurnState) :
    ∃ report,Reports id name (reportedPayload o) report ∧
      settleOutcome cfg id name o d s=⟨[(report,s)],.ok {d with toolResults := d.toolResults++
        [.toolResult id (compactPayload cfg.rt (reportedPayload o))
          (some (decide (o.kind≠.success)))]},s⟩ := by
  have hvalid : ∀ output,eventError (toolResultFields cfg.sessionId cfg.turnId name output
      id).stripped=none := fun output => (toolResult_valid_iff hid name output id).mpr (not_or.mp hnamed)
  have hemit : ∀ output (d' : Dispatch),(do
      emitBuilt (toolResultFields cfg.sessionId cfg.turnId name output id)
      pure d' : TurnGen Dispatch) s=⟨[(⟨_,hvalid output⟩,s)],.ok d',s⟩ := fun output d' => by
    unfold emitBuilt
    rw [build_of_valid (hvalid output)]
    rfl
  refine ⟨⟨_,hvalid (reportedPayload o)⟩,⟨rfl,rfl,rfl,rfl⟩,?_⟩
  cases ho : o.kind with
  | approvalNeeded => exact absurd ho hkind
  | permissionDenied =>
    have hpayload : reportedPayload o=deniedPayload o := if_pos ho
    unfold settleOutcome
    rw [ho,hpayload]
    exact hemit _ _
  | success | error =>
    have hpayload : reportedPayload o=resultPayload o := if_neg (by rw [ho]; decide)
    unfold settleOutcome
    rw [ho,hpayload]
    exact hemit _ _

/-- Settling a request ends the run: the consumer stops, or nothing can be
shown. -/
theorem settleOutcome_asked {name : String} (hkind : o.kind=.approvalNeeded) (d : Dispatch)
    (s : TurnState) :
    (outcomeFate cfg id name o=.paused ∧ ∃ request,Requests id name request ∧
      cut isApprovalRequest (settleOutcome cfg id name o d) s=⟨[(request,s)],.error none,s⟩) ∨
    (outcomeFate cfg id name o=.raised ∧ ∃ e,
      cut isApprovalRequest (settleOutcome cfg id name o d) s=
        ⟨[],.error (some (.raised e)),s⟩) := by
  unfold settleOutcome outcomeFate
  rw [if_pos hkind,hkind]
  cases herr : eventError (approvalRequestFields cfg.sessionId cfg.turnId name id o.approvalId
      o.approvalSummary).stripped with
  | none =>
    refine .inl ⟨rfl,⟨_,herr⟩,⟨rfl,rfl,rfl⟩,?_⟩
    dsimp only
    rw [cut_bind_apply,cut_emitBuilt_request herr rfl]
    rfl
  | some text =>
    refine .inr ⟨rfl,validationError text,?_⟩
    dsimp only
    rw [cut_bind_apply,cut_emitBuilt_invalid herr]
    rfl

/-- A call logs itself and returns or raises. -/
theorem callTool_run (env : InvokeEnv) (name : String) (input : Dict) (s : TurnState) :
    cut isApprovalRequest (callTool cfg env name input) s=
      ⟨[],(blockCall cfg env name input).report.result.mapError some,
        s.logCall (blockCall cfg env name input)⟩ := by
  unfold callTool
  rw [cut_bind_apply,cut_update,cut_ofExcept]
  change GeneratorTraces.ofExcept (Except.mapError some (blockCall cfg env name input).report.result)
    (s.logCall (blockCall cfg env name input))=_
  cases (blockCall cfg env name input).report.result <;> rfl

/-- A call the callback takes over: its event, the callback's events, and the
result in place of an answer. -/
theorem dispatchBlock_taken (hid : stripWhitespace cfg.turnId≠"") (env : InvokeEnv) {name : String}
    {input : Dict} (d : Dispatch) {evs : List AgentEvent} {handoff : Option Handoff}
    (hnamed : ¬Unnamed id name)
    (heq : cfg.onToolUse name input s=⟨[],.ok (some evs),{s with handoffTarget := handoff}⟩)
    (hpass : ∀ ev∈evs,isApprovalRequest ev=false) :
    ∃ use,Announces id use ∧ cut isApprovalRequest (dispatchBlock cfg env id name input d) s=
      ⟨(use,s)::evs.map (·,{s with handoffTarget := handoff}),.ok none,
        TurnState.append {s with handoffTarget := handoff}
          ⟨.user,d.toolResults++[.toolResult id "handled" none]⟩⟩ := by
  have hvalid : eventError (toolUseFields cfg.sessionId cfg.turnId name input id).stripped=none :=
    (toolUse_valid_iff hid name input id).mpr (not_or.mp hnamed)
  refine ⟨⟨_,hvalid⟩,⟨rfl,rfl⟩,?_⟩
  unfold dispatchBlock
  rw [cut_bind_apply,cut_emitBuilt_passed hvalid (fun h => by cases h),emit_apply,andThen_ok]
  rw [cut_bind_apply,cut_silent heq,andThen_ok]
  rw [cut_bind_apply,cut_emitAll hpass,emitAll_apply,andThen_ok]
  rw [cut_update_pure,List.append_nil]
  rfl

/-- A block runs in one of the listed ways. -/
theorem dispatchBlock_run (hid : stripWhitespace cfg.turnId≠"")
    (hook : HookShows cfg overrides shown) (env : InvokeEnv) (id name : String) (input : Dict)
    (d : Dispatch) (s : TurnState) :
    BlockRun cfg overrides shown env id name input d s
      (cut isApprovalRequest (dispatchBlock cfg env id name input d) s) := by
  by_cases hunnamed : Unnamed id name
  · cases herr : eventError (toolUseFields cfg.sessionId cfg.turnId name input id).stripped with
    | none =>
      obtain ⟨hn,hi⟩ := (toolUse_valid_iff hid name input id).mp herr
      exact absurd hunnamed (not_or.mpr ⟨hn,hi⟩)
    | some text =>
      unfold dispatchBlock
      rw [cut_bind_apply,cut_emitBuilt_invalid herr]
      exact .unnamed _ hunnamed
  cases hover : overrides name with
  | true =>
    obtain ⟨evs,target,heq,hlength,hkinds⟩ := hook.taken name input s hover
    obtain ⟨use,huse,hrun⟩ := dispatchBlock_taken hid env d hunnamed heq fun ev hm =>
      decide_eq_false (by rcases hkinds ev hm with h|h <;> rw [h] <;> exact nofun)
    rw [hrun]
    exact .taken use evs target hunnamed hover huse hlength hkinds
  | false =>
    have hvalid : eventError (toolUseFields cfg.sessionId cfg.turnId name input id).stripped=none :=
      (toolUse_valid_iff hid name input id).mpr (not_or.mp hunnamed)
    unfold dispatchBlock
    rw [cut_bind_apply,cut_emitBuilt_passed hvalid (fun h => by cases h),emit_apply,andThen_ok]
    rw [cut_bind_apply,cut_silent (hook.passed name input s hover),andThen_ok]
    rw [cut_bind_apply,callTool_run]
    cases hresult : (blockCall cfg env name input).report.result with
    | error k => exact .halted ⟨_,hvalid⟩ k hunnamed hover ⟨rfl,rfl⟩ hresult
    | ok o =>
      dsimp only [Except.mapError]
      rw [andThen_ok]
      rw [cut_bind_apply]
      by_cases hkind : o.kind=.approvalNeeded
      · rcases settleOutcome_asked hkind d (s.logCall (blockCall cfg env name input)) with
          ⟨hfate,request,hrequest,hrun⟩|⟨hfate,e,hrun⟩
        · rw [hrun]
          exact .asked ⟨_,hvalid⟩ request o hunnamed hover ⟨rfl,rfl⟩ hrequest hresult hkind hfate
        · rw [hrun]
          exact .unshown ⟨_,hvalid⟩ e o hunnamed hover ⟨rfl,rfl⟩ hresult hkind hfate
      · obtain ⟨report,hreport,hrun⟩ :=
          settleOutcome_tells hid hunnamed hkind d (s.logCall (blockCall cfg env name input))
        rw [cut_single hrun (decide_eq_false (by rw [hreport.1]; exact nofun))]
        exact .answered ⟨_,hvalid⟩ report o _ hunnamed hover ⟨rfl,rfl⟩ hreport hresult hkind

variable {target : String → Dict → Option Handoff} {s₀ : TurnState} {ms : List Message}

/-! ## Replies -/

/-- How many events a reply is streamed with. -/
def streamShown (cfg : LoopConfig) (call : ModelCall) : Nat :=
  match streamCall cfg.sessionId cfg.turnId call.attempts with
  | .cancelled => 0
  | .failed _ => 1
  | .streamed st => st.bufferedDeltas.length

/-- What the stream phase returns for the input of the round. -/
def streamExit : RoundInput → Except (Option Halt) (Option FinalMessage)
  | .cancelled => .error (some .cancelled)
  | .nothing => .ok none
  | .reply m => .ok (some m)

/-- A stream yields texts, or one error where it delivers nothing, in an
unchanged state. -/
theorem streamPhase_run (hid : stripWhitespace cfg.turnId≠"") (call : ModelCall) (s : TurnState) :
    ∃ evs : List AgentEvent,evs.length=streamShown cfg call ∧
      (∀ ev∈evs,ev.kind=.textDelta ∨ (ev.kind=.error ∧ roundInput cfg call=.nothing)) ∧
      cut isApprovalRequest (streamPhase cfg call) s=
        ⟨evs.map (·,s),streamExit (roundInput cfg call),s⟩ := by
  unfold streamPhase roundInput streamShown
  cases hstream : streamCall cfg.sessionId cfg.turnId call.attempts with
  | cancelled => exact ⟨[],rfl,fun _ hm => absurd hm List.not_mem_nil,rfl⟩
  | failed e =>
    have hvalid : eventError (errorFields cfg.sessionId cfg.turnId (streamErrorText e)).stripped=none :=
      error_valid hid (streamErrorText_nonblank e)
    refine ⟨[⟨_,hvalid⟩],rfl,fun ev hm => .inr ⟨by rw [List.mem_singleton.mp hm]; rfl,rfl⟩,?_⟩
    dsimp only
    rw [cut_bind_apply,cut_emitBuilt_passed hvalid (fun h => by cases h)]
    rfl
  | streamed st =>
    have hkind : ∀ ev∈st.bufferedDeltas,ev.kind=.textDelta := by
      intro ev hm
      obtain ⟨text,hb⟩ := streamCall_textDelta hstream ev hm
      exact build_kind hb
    have hpass : ∀ ev∈st.bufferedDeltas,isApprovalRequest ev=false := fun ev hm => by
      simp [isApprovalRequest,hkind ev hm]
    refine ⟨st.bufferedDeltas,rfl,fun ev hm => .inl (hkind ev hm),?_⟩
    dsimp only
    rw [cut_bind_apply,cut_emitAll hpass,emitAll_apply,andThen_ok]
    cases st.finalMessage.or call.lastFinalMessage <;>
      exact congrArg (Trace.mk · _ _) (List.append_nil _)

/-- Recording a reply: its dispatch, and the results it collected. -/
theorem recordReply_run (tools : Nat → InvokeEnv) (m : FinalMessage) (s : TurnState) :
    cut isApprovalRequest (recordReply cfg tools m) s=
      if m.stopReason=some "tool_use" then
        (cut isApprovalRequest (dispatchBlocks cfg tools m.content 0 {})
          (s.append (assistantMessage m))).andThen fun
            | none => pure false
            | some d => do
              update fun t => if d.toolResults=[] then t else t.append ⟨.user,d.toolResults⟩
              pure (!d.approvalPending)
      else ⟨[],.ok false,s.append (assistantMessage m)⟩ := by
  unfold recordReply
  rw [cut_bind_apply,cut_update]
  change cut isApprovalRequest _ (s.append (assistantMessage m))=_
  split
  · rw [cut_bind_apply]
    congr 1
    funext o
    cases o with
    | none => rfl
    | some d =>
      funext t
      unfold appendResults
      by_cases hnone : d.toolResults=[]
      · simp only [hnone,if_true]
        rfl
      · simp only [hnone,if_false]
        rfl
  · rfl

/-- A round: the request is logged, the reply streamed and recorded. -/
theorem agentRound_run (hid : stripWhitespace cfg.turnId≠"") (call : ModelCall) (s : TurnState) :
    ∃ evs : List AgentEvent,evs.length=streamShown cfg call ∧
      (∀ ev∈evs,ev.kind=.textDelta ∨ (ev.kind=.error ∧ roundInput cfg call=.nothing)) ∧
      ∃ s',s'=s.logRequest (anthropicToolDefs cfg.rt cfg.toolNames) ∧
        cut isApprovalRequest (agentRound cfg call) s=
          (⟨evs.map (·,s'),streamExit (roundInput cfg call),s'⟩ : Trace _ _ _ _).andThen fun
            | none => pure false
            | some m => cut isApprovalRequest (recordReply cfg call.tools m) := by
  obtain ⟨evs,hlength,hkinds,hrun⟩ := streamPhase_run hid call
    (s.logRequest (anthropicToolDefs cfg.rt cfg.toolNames))
  refine ⟨evs,hlength,hkinds,_,rfl,?_⟩
  unfold agentRound
  rw [cut_bind_apply,cut_update]
  change cut isApprovalRequest _ (s.logRequest (anthropicToolDefs cfg.rt cfg.toolNames))=_
  rw [cut_bind_apply,hrun]
  congr 1
  funext o
  cases o <;> rfl

variable {calls : Nat → ModelCall}

/-- Another round follows: the reply stopped for its tools and was answered
whole. -/
def goesOn (cfg : LoopConfig) (overrides : String → Bool) (call : ModelCall) : Bool :=
  match roundInput cfg call with
  | .reply m => decide (m.stopReason=some "tool_use") &&
      match replyFate cfg overrides call m with
      | .answered => true
      | _ => false
  | _ => false

/-- Fate of one round. -/
def roundFate (cfg : LoopConfig) (overrides : String → Bool) (call : ModelCall) : Fate :=
  match roundInput cfg call with
  | .cancelled => .cancelled
  | .nothing => .answered
  | .reply m => if m.stopReason=some "tool_use" then replyFate cfg overrides call m else .answered

theorem goesOn_iff {call : ModelCall} : goesOn cfg overrides call=true ↔
    ∃ m,roundInput cfg call=.reply m ∧ m.stopReason=some "tool_use" ∧
      replyFate cfg overrides call m=.answered := by
  unfold goesOn
  cases hround : roundInput cfg call with
  | cancelled | nothing => exact iff_of_false Bool.false_ne_true fun ⟨m,h,_⟩ => (by cases h)
  | reply m =>
    dsimp only
    rw [Bool.and_eq_true,decide_eq_true_iff]
    constructor
    · rintro ⟨hstop,hfate⟩
      refine ⟨m,rfl,hstop,?_⟩
      split at hfate
      · assumption
      · cases hfate
    · rintro ⟨m',h,hstop,hfate⟩
      cases h
      rw [hfate]
      exact ⟨hstop,rfl⟩

/-- A loop ends as the first round that is not followed by another. -/
theorem loopFate_succ (calls : Nat → ModelCall) (left n : Nat) :
    loopFate cfg overrides calls (left+1) n=
      if goesOn cfg overrides (calls n) then loopFate cfg overrides calls left (n+1)
      else roundFate cfg overrides (calls n) := by
  by_cases hon : goesOn cfg overrides (calls n)=true
  · obtain ⟨m,hround,hstop,hfate⟩ := goesOn_iff.mp hon
    rw [if_pos hon]
    exact (((loop_of_reply left hround).2.1 hstop).1 hfate).1
  · rw [if_neg hon]
    unfold roundFate
    cases hround : roundInput cfg (calls n) with
    | cancelled => rw [loopFate,hround]
    | nothing => exact (loop_of_nothing left hround).1
    | reply m =>
      obtain ⟨hother,htools,-⟩ := loop_of_reply left hround
      dsimp only
      split
      · rename_i hstop
        exact (htools hstop).2 fun hfate => hon (goesOn_iff.mpr ⟨m,hround,hstop,hfate⟩)
      · rename_i hstop
        exact hother hstop

/-- A loop at its start has recorded nothing. -/
theorem at_refl (s : TurnState) : At s [] none s := ⟨rfl,by simp,by simp⟩

section Fates

variable (hid : stripWhitespace cfg.turnId≠"") (hook : HookShows cfg overrides shown)
variable (hkeeps : HookKeeps cfg overrides target)

include hid hook hkeeps

/-- One block ends as its fate says: with a result collected, with the
callback's answer recorded, or cut off with nothing recorded. -/
theorem dispatchBlock_fate (env : InvokeEnv) (id name : String) (input : Dict) (d : Dispatch) :
    Sat (At s₀ ms none) (cut isApprovalRequest (dispatchBlock cfg env id name input d))
      (ErrorOnly target (blockFate cfg overrides env id name input))
      (fun o t => match o with
        | some d' => blockFate cfg overrides env id name input=.answered ∧ At s₀ ms none t ∧
            ∃ content isError,
              d'={d with toolResults := d.toolResults++[.toolResult id content isError]}
        | none => blockFate cfg overrides env id name input=.overridden name input ∧
            At s₀ (ms++[⟨.user,d.toolResults++[.toolResult id "handled" none]⟩])
              (target name input) t)
      (fun k t => At s₀ ms none t ∧ blockFate cfg overrides env id name input=stopFate k) := by
  intro s hs
  have hrun := dispatchBlock_run hid hook env id name input d s
  have hfate := hrun.fate
  by_cases htaken : ¬Unnamed id name ∧ overrides name=true
  · -- The callback's own run says which handoff it leaves.
    have hover : blockFate cfg overrides env id name input=.overridden name input := by
      unfold blockFate
      rw [if_neg htaken.1,if_pos htaken.2]
    obtain ⟨evs,heq,hevs⟩ := hkeeps.taken name input s htaken.2
    obtain ⟨use,huse,hrun⟩ := dispatchBlock_taken hid env d htaken.1 heq fun ev hm =>
      decide_eq_false (hevs ev hm).1
    have hleft : At s₀ ms (target name input)
        {s with handoffTarget := (target name input).or s.handoffTarget} :=
      ⟨hs.history,hs.messages,by simp [hs.handoff]⟩
    rw [hrun]
    refine ⟨List.forall_mem_cons.mpr ⟨fun he => ?_,fun y hy he => ?_⟩,hover,hleft.append _⟩
    · cases huse.1.symm.trans he
    · obtain ⟨ev,hev,rfl⟩ := List.mem_map.mp hy
      exact ⟨name,input,hover,(hevs ev hev).2 he⟩
  have hlogged : At s₀ ms none (s.logCall (blockCall cfg env name input)) :=
    ⟨hs.history,hs.messages,hs.handoff⟩
  generalize cut isApprovalRequest (dispatchBlock cfg env id name input d) s=tr at hrun hfate
  have hshown : ∀ {ev : AgentEvent} {kind : AgentEventKind} {t : TurnState},ev.kind=kind →
      kind≠.error → ErrorOnly target (blockFate cfg overrides env id name input) ev t :=
    fun h hne he => absurd (h.symm.trans he) hne
  cases hrun with
  | unnamed e hunnamed => exact ⟨List.forall_mem_nil _,hs,hfate⟩
  | taken use evs handoff hnamed hover => exact absurd ⟨hnamed,hover⟩ htaken
  | halted use k hnamed hover huse | unshown use e o hnamed hover huse =>
    exact ⟨List.forall_mem_singleton.mpr (hshown huse.1 nofun),hlogged,hfate⟩
  | asked use request o hnamed hover huse hrequest =>
    exact ⟨List.forall_mem_cons.mpr ⟨hshown huse.1 nofun,
      List.forall_mem_singleton.mpr (hshown hrequest.1 nofun)⟩,hlogged,hfate⟩
  | answered use report o isError hnamed hover huse hreport =>
    exact ⟨List.forall_mem_cons.mpr ⟨hshown huse.1 nofun,
      List.forall_mem_singleton.mpr (hshown hreport.1 nofun)⟩,hfate,hlogged,_,_,rfl⟩

variable (tools : Nat → InvokeEnv) (blocks : List SdkBlock) (n : Nat) (call : ModelCall)
  (m : FinalMessage)

/-- The blocks of a reply end as their fates say; what they collect answers
`answeredIds`. -/
theorem dispatchBlocks_fate (d : Dispatch) :
    Sat (At s₀ ms none) (cut isApprovalRequest (dispatchBlocks cfg tools blocks n d))
      (ErrorOnly target (dispatchFate cfg overrides tools blocks n))
      (fun o t => match o with
        | some d' => dispatchFate cfg overrides tools blocks n=.answered ∧ At s₀ ms none t ∧
            d'.approvalPending=d.approvalPending ∧
            resultIds d'.toolResults=
              resultIds d.toolResults++answeredIds cfg overrides tools blocks n
        | none => ∃ name input content,
            dispatchFate cfg overrides tools blocks n=.overridden name input ∧
            resultIds content=resultIds d.toolResults++answeredIds cfg overrides tools blocks n ∧
            At s₀ (ms++[⟨.user,content⟩]) (target name input) t)
      (fun k t => At s₀ ms none t ∧ dispatchFate cfg overrides tools blocks n=stopFate k) := by
  induction blocks generalizing n d with
  | nil => exact Sat.pure fun t ht => ⟨rfl,ht,rfl,by simp [answeredIds]⟩
  | cons b blocks ih =>
    cases b with
    | text text => exact ih (n+1) d
    | other type => exact ih (n+1) d
    | dict block => exact ih (n+1) d
    | toolUse id name input =>
      have hb : Sat (At s₀ ms none) (cut isApprovalRequest
          (dispatchBlock cfg (tools n) id name input d)) _ _ _ :=
        dispatchBlock_fate hid hook hkeeps (tools n) id name input d
      refine Sat.cut_bind (Sat.conseq hb (fun _ h => h) (fun ev _ h he => ?_) (fun _ _ h => h)
        fun k t h => ⟨h.1,?_⟩) fun o => ?_
      · obtain ⟨nm,inp,hf,ht⟩ := h he
        exact ⟨nm,inp,by rw [dispatchFate,hf],ht⟩
      · rw [dispatchFate,h.2]
        cases k with
        | none => rfl
        | some k => cases k <;> rfl
      · cases o with
        | none =>
          refine Sat.pure fun t ht => ⟨name,input,_,?_,?_,ht.2⟩
          · rw [dispatchFate,ht.1]
          · simp [resultIds,answeredIds,ht.1,Block.toolResultId?]
        | some d' =>
          refine Sat.of_fact fun hf => Sat.of_fact_right fun hd => ?_
          obtain ⟨content,isError,rfl⟩ := hd
          have hrest : dispatchFate cfg overrides tools (.toolUse id name input::blocks) n=
              dispatchFate cfg overrides tools blocks (n+1) := by rw [dispatchFate,hf]
          have hids : answeredIds cfg overrides tools (.toolUse id name input::blocks) n=
              id::answeredIds cfg overrides tools blocks (n+1) := by rw [answeredIds,hf]
          rw [hrest,hids]
          refine Sat.conseq (ih (n+1) {d with toolResults :=
            d.toolResults++[.toolResult id content isError]}) (fun _ h => h) (fun _ _ h => h)
            (fun o t h => ?_) fun _ _ h => h
          have hcollect : resultIds (d.toolResults++[.toolResult id content isError])=
              resultIds d.toolResults++[id] := by simp [resultIds,Block.toolResultId?]
          cases o with
          | some d'' =>
            obtain ⟨hf',ht,hp,hr⟩ := h
            refine ⟨hf',ht,hp,?_⟩
            rw [hr,hcollect,List.append_assoc,List.singleton_append]
          | none =>
            obtain ⟨nm,inp,c,hf',hr,ht⟩ := h
            refine ⟨nm,inp,c,hf',?_,ht⟩
            rw [hr,hcollect,List.append_assoc,List.singleton_append]

/-- Recording and dispatching a reply: clean records for clean replies,
whether the loop goes on, is left through the callback or is cut off. -/
theorem recordReply_fate :
    Sat (At s₀ ms none) (cut isApprovalRequest (recordReply cfg call.tools m))
      (fun ev t => m.stopReason=some "tool_use" ∧
        ErrorOnly target (replyFate cfg overrides call m) ev t)
      (fun again t => if again then
          (m.stopReason=some "tool_use" ∧ replyFate cfg overrides call m=.answered) ∧
            Recorded s₀ ms none (ReplyClean cfg overrides call m) t
        else ∃ o,((m.stopReason≠some "tool_use" ∧ o=none) ∨ (m.stopReason=some "tool_use" ∧
          ∃ name input,replyFate cfg overrides call m=.overridden name input ∧
            o=target name input)) ∧ Recorded s₀ ms o (ReplyClean cfg overrides call m) t)
      (fun k t => (m.stopReason=some "tool_use" ∧ replyFate cfg overrides call m=stopFate k) ∧
        Recorded s₀ ms none (ReplyClean cfg overrides call m) t) := by
  have hfresh : ∀ rest,Fresh (assistantMessage m::rest) := fresh_cons rfl
  intro s hs
  have hreply := hs.append (assistantMessage m)
  rw [recordReply_run]
  by_cases hstop : m.stopReason=some "tool_use"
  swap
  · rw [if_neg hstop]
    refine ⟨List.forall_mem_nil _,none,.inl ⟨hstop,rfl⟩,[assistantMessage m],hreply,hfresh [],
      separable_reply _,?_⟩
    rw [recorded_reply,ReplyClean,if_neg hstop]
  have hdispatch := dispatchBlocks_fate hid hook hkeeps call.tools m.content 0 {} _ hreply
  rw [if_pos hstop]
  generalize cut isApprovalRequest (dispatchBlocks cfg call.tools m.content 0 {})
    (s.append (assistantMessage m))=tr at hdispatch
  obtain ⟨ys,exit,t⟩ := tr
  obtain ⟨hevents,hends⟩ := hdispatch
  have hshown : ∀ y∈ys,m.stopReason=some "tool_use" ∧
      ErrorOnly target (replyFate cfg overrides call m) y.1 y.2 := fun y hy => ⟨hstop,hevents y hy⟩
  cases exit with
  | error k =>
    -- Cut off: the calls of the reply stay open.
    obtain ⟨hat,hfate⟩ := hends
    refine ⟨hshown,⟨hstop,hfate⟩,[assistantMessage m],hat,hfresh [],separable_reply _,?_⟩
    rw [recorded_reply]
    refine iff_of_false (fun hw => toolUseIds_of_fate _ _ _ (hfate ▸ stopFate_ne_answered k) hw.2)
      fun hc => ?_
    have hnone := hc.2
    rw [if_pos hstop,replyFate,hfate] at hnone
    rcases k with _|_|_ <;> exact hnone
  | ok o =>
    simp only [andThen_ok]
    cases o with
    | none =>
      obtain ⟨name,input,content,hfate,hids,hat⟩ := hends
      simp only [pure_apply,List.append_nil]
      refine ⟨hshown,target name input,.inr ⟨hstop,name,input,hfate,rfl⟩,
        [assistantMessage m,⟨.user,content⟩],by simpa using hat,hfresh _,separable_answered rfl,?_⟩
      rw [recorded_answer (by simpa [resultIds] using hids),ReplyClean,if_pos hstop,replyFate,hfate]
    | some d =>
      obtain ⟨hfate,hat,hpending,hids⟩ := hends
      change resultIds d.toolResults=answeredIds cfg overrides call.tools m.content 0 at hids
      have hclean : ReplyClean cfg overrides call m ↔ (assistantMessage m).toolResultIds=[] ∧
          ∀ id∈(assistantMessage m).toolUseIds,
            (answeredIds cfg overrides call.tools m.content 0).count id=1 := by
        rw [ReplyClean,if_pos hstop,replyFate,hfate]
      simp only [bind_apply,update_apply,andThen_ok,pure_apply,List.append_nil,hpending,
        Bool.not_false,if_true]
      refine ⟨hshown,⟨hstop,hfate⟩,?_⟩
      by_cases hnone : d.toolResults=[]
      · rw [if_pos hnone]
        refine ⟨[assistantMessage m],hat,hfresh [],separable_reply _,?_⟩
        have hempty : answeredIds cfg overrides call.tools m.content 0=[] := by
          simpa [resultIds,hnone] using hids.symm
        rw [recorded_reply,hclean,hempty]
        refine and_congr_right fun _ => ⟨fun he id hm => ?_,fun hall => ?_⟩
        · rw [he] at hm
          exact absurd hm List.not_mem_nil
        · exact List.eq_nil_iff_forall_not_mem.mpr fun id hm => by cases hall id hm
      · rw [if_neg hnone]
        refine ⟨[assistantMessage m,⟨.user,d.toolResults⟩],?_,hfresh _,separable_answered rfl,?_⟩
        · simpa using hat.append ⟨.user,d.toolResults⟩
        · rw [recorded_answer hids,hclean]

/-- One round: it ends the loop as the loop's fate says, or records a piece
the rest is judged after. -/
theorem agentRound_fate (calls : Nat → ModelCall) (left n : Nat) (ms : List Message) :
    Sat (At s₀ ms none) (cut isApprovalRequest (agentRound cfg (calls n)))
      (fun ev _ => ev.kind=.error → (loopFate cfg overrides calls (left+1) n).target target=none)
      (fun again t => if again then
          ∃ new,(loopFate cfg overrides calls (left+1) n=loopFate cfg overrides calls left (n+1) ∧
            Fresh new ∧ Separable new ∧ (LoopClean cfg overrides calls (left+1) n ↔
              WellFormed new ∧ LoopClean cfg overrides calls left (n+1))) ∧ At s₀ (ms++new) none t
        else (loopFate cfg overrides calls (left+1) n=.answered ∨ ∃ name input,
            loopFate cfg overrides calls (left+1) n=.overridden name input) ∧
          Recorded s₀ ms ((loopFate cfg overrides calls (left+1) n).target target)
            (LoopClean cfg overrides calls (left+1) n) t)
      (fun k t => loopFate cfg overrides calls (left+1) n=stopFate k ∧
        Recorded s₀ ms none (LoopClean cfg overrides calls (left+1) n) t) := by
  have hnil : ∀ {C t},(C ↔ True) → At s₀ ms none t → Recorded s₀ ms none C t := fun hC ht =>
    ⟨[],by simpa using ht,fresh_nil,separable_nil,by simp [hC]⟩
  intro s hs
  obtain ⟨evs,-,hkinds,s',rfl,hrun⟩ := agentRound_run hid (calls n) s
  have hs' : At s₀ ms none (s.logRequest (anthropicToolDefs cfg.rt cfg.toolNames)) :=
    ⟨hs.history,hs.messages,hs.handoff⟩
  have hshown : ∀ y∈evs.map (·,s.logRequest (anthropicToolDefs cfg.rt cfg.toolNames)),
      y.1.kind=.error → (loopFate cfg overrides calls (left+1) n).target target=none := by
    intro y hy he
    obtain ⟨ev,hev,rfl⟩ := List.mem_map.mp hy
    rcases hkinds ev hev with hk|⟨-,hin⟩
    · cases hk.symm.trans he
    · rw [(loop_of_nothing left hin).1]
      rfl
  rw [hrun]
  cases hin : roundInput cfg (calls n) with
  | cancelled =>
    have hfate : loopFate cfg overrides calls (left+1) n=.cancelled := by rw [loopFate,hin]
    exact ⟨hshown,hfate,hnil (by rw [LoopClean,hin]) hs'⟩
  | nothing =>
    obtain ⟨hfate,hclean⟩ := loop_of_nothing left hin
    simp only [streamExit,andThen_ok,pure_apply,List.append_nil]
    refine ⟨hshown,.inl hfate,?_⟩
    rw [hfate]
    exact hnil hclean hs'
  | reply m =>
    obtain ⟨hother,htools,hends⟩ := loop_of_reply left hin
    obtain ⟨hevents,hexit⟩ := recordReply_fate hid hook hkeeps (calls n) m _ hs'
    simp only [streamExit,andThen_ok]
    refine ⟨fun y hy he => ?_,?_⟩
    · rcases List.mem_append.mp hy with hy|hy
      · exact hshown y hy he
      · obtain ⟨hstop,herror⟩ := hevents y hy
        obtain ⟨name,input,hf,ht⟩ := herror he
        rw [(htools hstop).2 (by simp [hf]),hf]
        exact ht
    generalize cut isApprovalRequest (recordReply cfg (calls n).tools m)
      (s.logRequest (anthropicToolDefs cfg.rt cfg.toolNames))=tr at hexit
    obtain ⟨ys,exit,t⟩ := tr
    cases exit with
    | error k =>
      obtain ⟨⟨hstop,hf⟩,hrec⟩ := hexit
      have hne : replyFate cfg overrides (calls n) m≠.answered := by
        rw [hf]
        exact stopFate_ne_answered k
      dsimp only
      rw [(htools hstop).2 hne,Recorded]
      simp only [hends (.inr hne)]
      exact ⟨hf,hrec⟩
    | ok again =>
      cases again with
      | true =>
        obtain ⟨⟨hstop,hf⟩,new,hat,hfresh,hsep,hw⟩ := hexit
        obtain ⟨hfate,hclean⟩ := (htools hstop).1 hf
        exact ⟨new,⟨hfate,hfresh,hsep,by rw [hclean,hw]⟩,hat⟩
      | false =>
        obtain ⟨o,ho,new,hat,hfresh,hsep,hw⟩ := hexit
        dsimp only
        rcases ho with ⟨hstop,rfl⟩|⟨hstop,name,input,hf,rfl⟩
        · rw [if_neg Bool.false_ne_true,hother hstop,hends (.inl hstop)]
          exact ⟨.inl rfl,new,hat,hfresh,hsep,hw⟩
        · have hne : replyFate cfg overrides (calls n) m≠.answered := by simp [hf]
          rw [if_neg Bool.false_ne_true,(htools hstop).2 hne,hends (.inr hne),hf]
          exact ⟨.inr ⟨name,input,rfl⟩,new,hat,hfresh,hsep,hw⟩

/-- How the dispatch of a reply ends is its fate. -/
theorem dispatchBlocks_ends (d : Dispatch) (s : TurnState) :
    match (cut isApprovalRequest (dispatchBlocks cfg tools blocks n d) s).exit with
    | .ok (some _) => dispatchFate cfg overrides tools blocks n=.answered
    | .ok none => ∃ name input,dispatchFate cfg overrides tools blocks n=.overridden name input
    | .error k => dispatchFate cfg overrides tools blocks n=stopFate k := by
  have hfate := (dispatchBlocks_fate hid hook hkeeps tools blocks n d s (at_refl s)).2
  cases hexit : (cut isApprovalRequest (dispatchBlocks cfg tools blocks n d) s).exit with
  | error k =>
    rw [hexit] at hfate
    exact hfate.2
  | ok o =>
    rw [hexit] at hfate
    cases o with
    | none =>
      obtain ⟨name,input,-,hover,-⟩ := hfate
      exact ⟨name,input,hover⟩
    | some d' => exact hfate.1

/-- A reply is followed by another round exactly when it was answered whole. -/
theorem recordReply_again (s : TurnState) :
    (cut isApprovalRequest (recordReply cfg call.tools m) s).exit=.ok true ↔
      m.stopReason=some "tool_use" ∧ replyFate cfg overrides call m=.answered := by
  have hfate := (recordReply_fate hid hook hkeeps call m s (at_refl s)).2
  cases hexit : (cut isApprovalRequest (recordReply cfg call.tools m) s).exit with
  | error k =>
    rw [hexit] at hfate
    refine iff_of_false nofun fun h => stopFate_ne_answered k ?_
    rw [← hfate.1.2,h.2]
  | ok again =>
    rw [hexit] at hfate
    cases again with
    | true => exact iff_of_true rfl hfate.1
    | false =>
      obtain ⟨o,hends,-⟩ := hfate
      refine iff_of_false (fun h => by cases h) fun h => ?_
      rcases hends with ⟨hother,-⟩|⟨-,name,input,hover,-⟩
      · exact hother h.1
      · rw [h.2] at hover
        cases hover

/-- The code goes on exactly when the inputs say so. -/
theorem agentRound_again (s : TurnState) :
    (cut isApprovalRequest (agentRound cfg call) s).exit=.ok true ↔
      goesOn cfg overrides call=true := by
  obtain ⟨evs,-,-,s',-,hrun⟩ := agentRound_run hid call s
  rw [hrun,goesOn_iff]
  cases hround : roundInput cfg call with
  | cancelled => exact iff_of_false nofun fun ⟨m,h,_⟩ => (by cases h)
  | nothing => exact iff_of_false (fun h => by cases h) fun ⟨m,h,_⟩ => (by cases h)
  | reply m =>
    change (cut isApprovalRequest (recordReply cfg call.tools m) s').exit=.ok true ↔ _
    rw [recordReply_again hid hook hkeeps call m s']
    exact ⟨fun h => ⟨m,rfl,h⟩,fun ⟨_,h,h'⟩ => by cases h; exact h'⟩

end Fates

/-- A loop records clean messages exactly for clean replies, and it ends as
its fate says. -/
theorem agentLoop_fate (cfg : LoopConfig) (s₀ : TurnState) (hid : stripWhitespace cfg.turnId≠"")
    (hook : HookShows cfg overrides shown) (hkeeps : HookKeeps cfg overrides target)
    (calls : Nat → ModelCall) (left n : Nat) (ms : List Message) :
    Sat (At s₀ ms none) (cut isApprovalRequest (agentLoop cfg calls left n))
      (fun ev _ => ev.kind=.error → (loopFate cfg overrides calls left n).target target=none)
      (fun _ t => (loopFate cfg overrides calls left n=.answered ∨ ∃ name input,
          loopFate cfg overrides calls left n=.overridden name input) ∧
        Recorded s₀ ms ((loopFate cfg overrides calls left n).target target)
          (LoopClean cfg overrides calls left n) t)
      (fun k t => loopFate cfg overrides calls left n=stopFate k ∧
        Recorded s₀ ms none (LoopClean cfg overrides calls left n) t) := by
  induction left generalizing n ms with
  | zero =>
    refine Sat.pure fun t ht => ⟨.inl rfl,[],?_,fresh_nil,separable_nil,by simp [LoopClean]⟩
    rw [List.append_nil]
    exact ht
  | succ left ih =>
    refine Sat.cut_bind (agentRound_fate hid hook hkeeps calls left n ms) fun again => ?_
    cases again with
    | false => exact Sat.pure fun t ht => ht
    | true =>
      refine Sat.of_exists fun new => Sat.of_fact fun hnew => ?_
      obtain ⟨hfate,hfresh,hsep,hclean⟩ := hnew
      rw [hfate]
      refine Sat.conseq (ih (n+1) (ms++new)) (fun _ h => h) (fun _ _ h => h) (fun _ t h => ?_)
        fun k t h => ?_
      · refine ⟨h.1,?_⟩
        have hrec := Recorded.append hfresh hsep Iff.rfl h.2
        rwa [← hclean] at hrec
      · refine ⟨h.1,?_⟩
        have hrec := Recorded.append hfresh hsep Iff.rfl h.2
        rwa [← hclean] at hrec

/-- What a loop known by name recorded, and how it ended. -/
theorem recorded_of_agentLoop (cfg : LoopConfig) {tr : Trace TurnState AgentEvent (Option Halt) Unit}
    (hid : stripWhitespace cfg.turnId≠"") (hook : HookShows cfg overrides shown)
    (hkeeps : HookKeeps cfg overrides target) (calls : Nat → ModelCall) (left n : Nat)
    (htr : tr=cut isApprovalRequest (agentLoop cfg calls left n) s) :
    match tr.exit with
    | .ok _ => (loopFate cfg overrides calls left n=.answered ∨
          ∃ name input,loopFate cfg overrides calls left n=.overridden name input) ∧
        Recorded s [] ((loopFate cfg overrides calls left n).target target)
          (LoopClean cfg overrides calls left n) tr.state
    | .error k => loopFate cfg overrides calls left n=stopFate k ∧
        Recorded s [] none (LoopClean cfg overrides calls left n) tr.state := by
  have hends := (agentLoop_fate cfg s hid hook hkeeps calls left n [] s (at_refl s)).2
  rw [← htr] at hends
  cases hexit : tr.exit <;> rw [hexit] at hends <;> exact hends

/-- How a loop ends is its fate. -/
theorem ends_of_agentLoop (cfg : LoopConfig) {tr : Trace TurnState AgentEvent (Option Halt) Unit}
    (hid : stripWhitespace cfg.turnId≠"") (hook : HookShows cfg overrides shown)
    (hkeeps : HookKeeps cfg overrides target) (calls : Nat → ModelCall) (left n : Nat)
    (htr : tr=cut isApprovalRequest (agentLoop cfg calls left n) s) :
    match tr.exit with
    | .ok _ => loopFate cfg overrides calls left n=.answered ∨
        ∃ name input,loopFate cfg overrides calls left n=.overridden name input
    | .error k => loopFate cfg overrides calls left n=stopFate k := by
  have hends := recorded_of_agentLoop cfg hid hook hkeeps calls left n htr
  cases hexit : tr.exit <;> rw [hexit] at hends <;> exact hends.1

/-! ## Phases -/

/-- One error is reported after a body that raised. -/
def reportCount : Except (Option Halt) Unit → Nat
  | .error (some (.raised _)) => 1
  | _ => 0

/-- A phase around a body: an exception is reported, only a cancellation gets
through, and the state is the one the body was left in. -/
structure PhaseRun (body : Trace TurnState AgentEvent (Option Halt) Unit)
    (t : Trace TurnState AgentEvent Halt PhaseEnd) : Prop where
  yields : ∃ evs : List AgentEvent,evs.length=reportCount body.exit ∧
    (∀ ev∈evs,ev.kind=.error) ∧ t.yields=body.yields++evs.map (·,body.state)
  exit : (body.exit=.error (some .cancelled) ∧ t.exit=.error .cancelled) ∨
    (body.exit≠.error (some .cancelled) ∧ ∃ o,t.exit=.ok o)
  state : t.state=body.state

variable {g : TurnGen PhaseEnd}

/-- `except Exception` around a body that raises. -/
theorem reportingErrors_raised {turnId : String} (hid : stripWhitespace turnId≠"")
    (sessionId : EntityId) {t : TurnState} {ys : List (AgentEvent × TurnState)} {e : Exn}
    (h : g s=⟨ys,.error (.raised e),t⟩) : ∃ ev : AgentEvent,ev.kind=.error ∧
      reportingErrors sessionId turnId g s=⟨ys++[(ev,t)],.ok ⟨false,true⟩,t⟩ := by
  have hvalid : eventError (errorFields sessionId turnId e.describe).stripped=none :=
    error_valid hid (describe_strip_ne_empty e)
  refine ⟨⟨_,hvalid⟩,rfl,?_⟩
  unfold reportingErrors recover
  rw [h]
  dsimp only
  rw [emitBuilt,build_of_valid hvalid]
  rfl

/-- `except Exception` around a body that ends otherwise. -/
theorem reportingErrors_passed {turnId : String} (sessionId : EntityId)
    (h : ∀ e,(g s).exit≠.error (.raised e)) : reportingErrors sessionId turnId g s=g s := by
  unfold reportingErrors recover
  cases hexit : (g s).exit with
  | ok o => rfl
  | error k =>
    cases k with
    | cancelled => rfl
    | raised e => exact absurd hexit (h e)

/-- The phase around a forwarded agent. -/
theorem forwardPhase_run {turnId : String} (hid : stripWhitespace turnId≠"") (sessionId : EntityId)
    (g : TurnGen Unit) (s : TurnState) :
    PhaseRun (cut isApprovalRequest g s) (reportingErrors sessionId turnId (forwardAgent g) s) := by
  have hforward : forwardAgent g s=(forwardUntil isApprovalRequest g s).andThen fun c => pure
    ⟨c.result.isNone,c.events.any fun ev => decide (ev.kind=.error)⟩ := rfl
  rw [forwardUntil_of_cut] at hforward
  cases hexit : (cut isApprovalRequest g s).exit with
  | ok a =>
    rw [hexit] at hforward
    rw [reportingErrors_passed sessionId (by rw [hforward]; exact nofun),hforward]
    exact ⟨⟨[],by rw [hexit]; rfl,fun _ h => absurd h List.not_mem_nil,rfl⟩,
      .inr ⟨by rw [hexit]; exact nofun,_,rfl⟩,rfl⟩
  | error k =>
    rw [hexit] at hforward
    rcases k with _|e|_
    · rw [reportingErrors_passed sessionId (by rw [hforward]; exact nofun),hforward]
      exact ⟨⟨[],by rw [hexit]; rfl,fun _ h => absurd h List.not_mem_nil,rfl⟩,
        .inr ⟨by rw [hexit]; exact nofun,_,rfl⟩,rfl⟩
    · obtain ⟨ev,hkind,hrun⟩ := reportingErrors_raised hid sessionId hforward
      rw [hrun]
      exact ⟨⟨[ev],by rw [hexit]; rfl,fun ev' hm => by rwa [List.mem_singleton.mp hm],rfl⟩,
        .inr ⟨by rw [hexit]; exact nofun,_,rfl⟩,rfl⟩
    · rw [reportingErrors_passed sessionId (by rw [hforward]; exact nofun),hforward]
      exact ⟨⟨[],by rw [hexit]; rfl,fun _ h => absurd h List.not_mem_nil,
        (List.append_nil _).symm⟩,.inl ⟨hexit,rfl⟩,rfl⟩

/-- The phase around an agent that ended by itself without an error. -/
theorem forwardPhase_quiet (sessionId : EntityId) (turnId : String) {g : TurnGen Unit}
    (hexit : (cut isApprovalRequest g s).exit=.ok ())
    (hquiet : ∀ y∈(cut isApprovalRequest g s).yields,y.1.kind≠.error) :
    (reportingErrors sessionId turnId (forwardAgent g) s).exit=.ok ⟨false,false⟩ := by
  have hforward : forwardAgent g s=(forwardUntil isApprovalRequest g s).andThen fun c => pure
    ⟨c.result.isNone,c.events.any fun ev => decide (ev.kind=.error)⟩ := rfl
  rw [forwardUntil_of_cut,hexit] at hforward
  rw [reportingErrors_passed sessionId (by rw [hforward]; exact nofun),hforward]
  refine congrArg (fun errored => Except.ok (PhaseEnd.mk false errored))
    (List.any_eq_false.mpr fun ev hm => ?_)
  obtain ⟨y,hy,rfl⟩ := List.mem_map.mp hm
  rw [decide_eq_true_iff]
  exact hquiet y hy

variable {org : Orchestrator} {session : Session} {ctx : ToolContext} {env : TurnEnv}
variable {turnId userMessage : String}

/-- How many events the orchestrator's callback answers with: none to a
handoff it accepts, else one. -/
def orchestratorShown (org : Orchestrator) (name : String) (input : Dict) : Nat :=
  if (handoffOf org name input).isSome then 0 else 1

/-- The orchestrator's loop as its consumer executes it. -/
def orchestratorRun (org : Orchestrator) (ctx : ToolContext) (session : Session) (turnId : String)
    (env : TurnEnv) (s : TurnState) : Trace TurnState AgentEvent (Option Halt) Unit :=
  cut isApprovalRequest
    (runAgentTurn (orchestratorLoop org ctx session turnId) env.orchestratorCalls) s

/-- A domain agent's loop as its consumer executes it, from its own copy of
the history. -/
def domainRun (org : Orchestrator) (agent : DomainAgent) (ctx : ToolContext) (session : Session)
    (goal userMessage : String) (env : TurnEnv) (s : TurnState) :
    Trace TurnState AgentEvent (Option Halt) Unit :=
  cut isApprovalRequest (runAgentTurn (domainLoop org agent ctx session) env.domainCalls)
    {s with messages := s.history++[seedMessage goal userMessage]}

/-- The state after the copy-back that ends the orchestrator's phase. -/
def synced (s : TurnState) : TurnState := {s with history := syncHistory s.history s.messages}

/-- The state after a domain agent's run: only a loop that ended by itself is
copied back. -/
def spliced (body : Trace TurnState AgentEvent (Option Halt) Unit) : TurnState :=
  match body.exit with
  | .ok () => {body.state with history := spliceDomain body.state.history body.state.messages}
  | .error _ => body.state

/-- A transcript read back by its length is the transcript that was recorded. -/
@[simp] theorem syncHistory_append (history new : List Message) :
    syncHistory history (history++new)=history++new := by
  simp [syncHistory]

@[simp] theorem spliceDomain_append (history new : List Message) (seed : Message) :
    spliceDomain history (history++[seed]++new)=history++new := by
  simp [spliceDomain,List.drop_append]

/-- The agent a handoff reaches, when its domain resolves and it has a goal. -/
def handoffAgent (env : TurnEnv) (target : Handoff) : Option DomainAgent :=
  match env.resolve target.domain with
  | .error _ => none
  | .ok agent => if stripWhitespace target.goal="" then none else some agent

theorem answerWith_length {f : AgentEventFields} {evs : List AgentEvent}
    (h : (answerWith f s).exit=.ok (some evs)) : evs.length=1 := by
  unfold answerWith at h
  cases hb : AgentEvent.build f with
  | error k =>
    rw [hb] at h
    cases h
  | ok ev =>
    rw [hb] at h
    cases h
    rfl

/-- The orchestrator's callback shows at most one event. -/
theorem onToolUse_shows (hid : stripWhitespace turnId≠"") :
    HookShows (orchestratorLoop org ctx session turnId) orchestratorOverrides
      (orchestratorShown org) := by
  have hkeeps : HookKeeps (orchestratorLoop org ctx session turnId) _ _ := onToolUse_keeps hid
  refine ⟨hkeeps.passed,fun name input s hover => ?_⟩
  obtain ⟨evs,heq,-⟩ := hkeeps.taken name input s hover
  have hexit : (onToolUse org session.id turnId name input s).exit=.ok (some evs) :=
    congrArg Trace.exit heq
  refine ⟨evs,_,heq,?_,?_⟩
  · unfold onToolUse at hexit
    by_cases hhandoff : name="handoff"
    · rw [if_pos hhandoff] at hexit
      by_cases hknown : org.availableDomains.contains (argumentText org.rt input "domain")=true
      · have hsome : handoffOf org name input=some ⟨_,_⟩ := if_pos ⟨hhandoff,hknown⟩
        rw [if_pos hknown] at hexit
        cases hexit
        rw [orchestratorShown,hsome]
        rfl
      · have hnone : handoffOf org name input=none := if_neg fun h => hknown h.2
        rw [if_neg hknown] at hexit
        rw [orchestratorShown,hnone,answerWith_length hexit]
        rfl
    · have hnone : handoffOf org name input=none := if_neg fun h => hhandoff h.1
      rw [if_neg hhandoff] at hexit
      split at hexit
      · rw [orchestratorShown,hnone,answerWith_length hexit]
        rfl
      · cases hexit
  · have hhook : HookSat (orchestratorLoop org ctx session turnId) _ := onToolUse_hookSat
    have hsat := (hhook name input s s (Grows.refl _ s)).2
    rw [heq] at hsat
    exact hsat.2 evs rfl

/-- A domain agent's loop has no callback. -/
theorem domain_shows (agent : DomainAgent) :
    HookShows (domainLoop org agent ctx session) (fun _ => false) (fun _ _ => 0) :=
  ⟨fun _ _ _ _ => rfl,fun _ _ _ h => by cases h⟩

/-- The orchestrator's phase: its loop, then the copy-back unless cancelled. -/
theorem orchestratorPhase_run (hid : stripWhitespace turnId≠"") (s : TurnState) :
    ∃ phase,PhaseRun (orchestratorRun org ctx session turnId env s) phase ∧
      ((orchestratorRun org ctx session turnId env s).exit=.ok () →
        (∀ y∈(orchestratorRun org ctx session turnId env s).yields,y.1.kind≠.error) →
        phase.exit=.ok ⟨false,false⟩) ∧
      orchestratorPhase org ctx session turnId env s=
        phase.andThen (fun o => do
          update synced
          pure o) :=
  ⟨_,forwardPhase_run hid session.id _ s,forwardPhase_quiet session.id turnId,rfl⟩

/-- A domain agent's run: its loop on a copy, then the copy-back. -/
theorem domainAgentRun_run (agent : DomainAgent) (goal : String) (s : TurnState) :
    cut isApprovalRequest
        (DomainAgent.run org agent ctx session goal userMessage env.domainCalls) s=
      ⟨(domainRun org agent ctx session goal userMessage env s).yields,
        (domainRun org agent ctx session goal userMessage env s).exit,
        spliced (domainRun org agent ctx session goal userMessage env s)⟩ := by
  unfold DomainAgent.run domainRun spliced
  rw [cut_bind_apply,cut_update]
  change cut isApprovalRequest _ {s with messages := s.history++[seedMessage goal userMessage]}=_
  rw [cut_bind_apply,cut_forwardUntil_of_cut]
  generalize cut isApprovalRequest (runAgentTurn (domainLoop org agent ctx session)
    env.domainCalls) {s with messages := s.history++[seedMessage goal userMessage]}=body
  obtain ⟨ys,exit,t⟩ := body
  cases exit with
  | ok a => exact congrArg (Trace.mk · _ _) (List.append_nil ys)
  | error k => rfl

/-- The phase of a handoff that reaches an agent. -/
theorem handoffPhase_run (hid : stripWhitespace turnId≠"") {target : Handoff} {agent : DomainAgent}
    (hagent : handoffAgent env target=some agent) (s : TurnState) :
    ∃ phase body,body=domainRun org agent ctx session (stripWhitespace target.goal)
        (stripWhitespace userMessage) env s ∧
      PhaseRun ⟨body.yields,body.exit,spliced body⟩ phase ∧
      reportingErrors session.id turnId (runHandoff org ctx session userMessage env target) s=phase := by
  refine ⟨_,_,rfl,?_,rfl⟩
  unfold handoffAgent at hagent
  unfold runHandoff
  cases hres : env.resolve target.domain with
  | error e => rw [hres] at hagent; cases hagent
  | ok found =>
    rw [hres] at hagent
    dsimp only at hagent ⊢
    by_cases hgoal : stripWhitespace target.goal=""
    · rw [if_pos hgoal] at hagent
      cases hagent
    · rw [if_neg hgoal] at hagent ⊢
      cases hagent
      rw [← domainAgentRun_run]
      exact forwardPhase_run hid session.id _ s

/-- The phase of a handoff that reaches nobody: one error is reported. -/
theorem lostHandoff_run (hid : stripWhitespace turnId≠"") {target : Handoff}
    (hagent : handoffAgent env target=none) (s : TurnState) : ∃ ev : AgentEvent,ev.kind=.error ∧
      reportingErrors session.id turnId (runHandoff org ctx session userMessage env target) s=
        ⟨[(ev,s)],.ok ⟨false,true⟩,s⟩ := by
  unfold handoffAgent at hagent
  have hraised : ∃ e,runHandoff org ctx session userMessage env target s=⟨[],.error (.raised e),s⟩ := by
    unfold runHandoff
    cases hres : env.resolve target.domain with
    | error e => exact ⟨e,rfl⟩
    | ok found =>
      rw [hres] at hagent
      dsimp only at hagent ⊢
      by_cases hgoal : stripWhitespace target.goal=""
      · rw [if_pos hgoal]
        exact ⟨_,rfl⟩
      · rw [if_neg hgoal] at hagent
        cases hagent
  obtain ⟨e,hraised⟩ := hraised
  exact reportingErrors_raised hid session.id hraised

/-- The handoff the orchestrator's loop ends with, if any. -/
def handoffTarget (org : Orchestrator) (ctx : ToolContext) (session : Session) (turnId : String)
    (env : TurnEnv) : Option Handoff :=
  (orchestratorFate org ctx session turnId env).target (handoffOf org)

/-- What a loop leaves is the handoff of its fate, and one only where it ended
by itself without an error. -/
theorem orchestratorRun_target (hid : stripWhitespace turnId≠"") (hs : s.handoffTarget=none) :
    (orchestratorRun org ctx session turnId env s).state.handoffTarget=
        handoffTarget org ctx session turnId env ∧
      (handoffTarget org ctx session turnId env≠none →
        (orchestratorRun org ctx session turnId env s).exit=.ok () ∧
          ∀ y∈(orchestratorRun org ctx session turnId env s).yields,y.1.kind≠.error) := by
  obtain ⟨hevents,hends⟩ := agentLoop_fate (orchestratorLoop org ctx session turnId) s hid
    (onToolUse_shows hid) (onToolUse_keeps hid) env.orchestratorCalls maxToolLoops 0 [] s (at_refl s)
  unfold handoffTarget orchestratorFate orchestratorRun runAgentTurn
  cases hexit : (cut isApprovalRequest (agentLoop (orchestratorLoop org ctx session turnId)
      env.orchestratorCalls maxToolLoops 0) s).exit with
  | ok a =>
    rw [hexit] at hends
    obtain ⟨-,_,hat,-⟩ := hends
    exact ⟨by rw [hat.handoff,hs,Option.or_none],fun hne => ⟨rfl,fun y hy he => hne (hevents y hy he)⟩⟩
  | error k =>
    rw [hexit] at hends
    obtain ⟨hfate,_,hat,-⟩ := hends
    have hnone : (stopFate k).target (handoffOf org)=none := by rcases k with _|_|_ <;> rfl
    rw [hfate,hnone]
    exact ⟨by rw [hat.handoff,hs]; rfl,fun hne => absurd rfl hne⟩

section Phases

variable (org : Orchestrator) (session : Session) (ctx : ToolContext) (turnId userMessage : String)
variable (env : TurnEnv) (body : Trace TurnState AgentEvent (Option Halt) Unit)

/-- The runs of the phases behind the user's message, around the body of the
orchestrator's loop. -/
inductive PhasesRun : Trace TurnState AgentEvent Halt Unit → Prop
  /-- Nothing is copied back from a cancelled loop. -/
  | cancelled (hexit : body.exit=.error (some .cancelled))
      (htarget : handoffTarget org ctx session turnId env=none) :
      PhasesRun ⟨body.yields,.error .cancelled,body.state⟩
  /-- No handoff. -/
  | alone (evs : List AgentEvent) (x : Except Halt Unit)
      (hexit : body.exit≠.error (some .cancelled)) (hlength : evs.length=reportCount body.exit)
      (hkinds : ∀ ev∈evs,ev.kind=.error) (htarget : handoffTarget org ctx session turnId env=none) :
      PhasesRun ⟨body.yields++evs.map (·,body.state),x,synced body.state⟩
  /-- A handoff that reaches nobody. -/
  | lost (evs : List AgentEvent) (report : AgentEvent) (x : Except Halt Unit) (target : Handoff)
      (hexit : body.exit≠.error (some .cancelled)) (hlength : evs.length=reportCount body.exit)
      (hkinds : ∀ ev∈evs,ev.kind=.error) (hreport : report.kind=.error)
      (htarget : handoffTarget org ctx session turnId env=some target)
      (hagent : handoffAgent env target=none) :
      PhasesRun ⟨body.yields++evs.map (·,body.state)++[(report,synced body.state)],x,
        synced body.state⟩
  /-- A domain agent takes over. -/
  | handed (evs reports : List AgentEvent) (x : Except Halt Unit) (target : Handoff)
      (agent : DomainAgent) (domain : Trace TurnState AgentEvent (Option Halt) Unit)
      (hexit : body.exit≠.error (some .cancelled)) (hlength : evs.length=reportCount body.exit)
      (hkinds : ∀ ev∈evs,ev.kind=.error)
      (htarget : handoffTarget org ctx session turnId env=some target)
      (hagent : handoffAgent env target=some agent)
      (hdomain : domain=domainRun org agent ctx session (stripWhitespace target.goal)
        (stripWhitespace userMessage) env (synced body.state))
      (hreports : reports.length=reportCount domain.exit)
      (hkinds' : ∀ ev∈reports,ev.kind=.error) :
      PhasesRun ⟨body.yields++evs.map (·,body.state)++
        (domain.yields++reports.map (·,spliced domain)),x,spliced domain⟩

end Phases

/-- Recording the cost shows nothing and changes nothing. -/
theorem recordCost_run (env : TurnEnv) (s : TurnState) :
    ∃ x,recordCost env s=⟨[],x,s⟩ := by
  unfold recordCost
  rcases env.tracker.bind TrackerEnv.record with _|_|_ <;> exact ⟨_,rfl⟩

/-- The domain phase after a loop without a handoff. -/
theorem domainPhase_none (o : PhaseEnd) (h : s.handoffTarget=none) :
    domainPhase org ctx session turnId userMessage env o s=⟨[],.ok (),s⟩ := by
  unfold domainPhase
  rw [bind_apply,read_apply,andThen_ok,h]
  rfl

/-- The domain phase after a handoff that nothing interrupted. -/
theorem domainPhase_some {o : PhaseEnd} {target : Handoff} (h : s.handoffTarget=some target)
    (ho : (o.approvalPaused || o.errored)=false) :
    domainPhase org ctx session turnId userMessage env o s=
      (reportingErrors session.id turnId (runHandoff org ctx session userMessage env target)
        s).andThen fun _ => pure () := by
  unfold domainPhase
  rw [bind_apply,read_apply,andThen_ok,h]
  dsimp only
  rw [ho]
  rfl

/-- The phases behind the user's message run in one of the listed ways. -/
theorem turnPhases_run (s : TurnState) :
    PhasesRun org session ctx (newTurnId env.seed) userMessage env
      (orchestratorRun org ctx session (newTurnId env.seed) env
        (TurnState.beginTurn s userMessage))
      (turnPhases org session userMessage ctx env s) := by
  have hid := newTurnId_nonblank env.seed
  have hphase : ∃ phase,PhaseRun (orchestratorRun org ctx session (newTurnId env.seed) env
      (TurnState.beginTurn s userMessage)) phase ∧ _ ∧ _=_ := orchestratorPhase_run hid _
  obtain ⟨phase,hphase,hflags,hrun⟩ := hphase
  have htarget : (orchestratorRun org ctx session (newTurnId env.seed) env
      (TurnState.beginTurn s userMessage)).state.handoffTarget=_ ∧ _ := orchestratorRun_target hid rfl
  obtain ⟨htarget,hended⟩ := htarget
  have hphases : turnPhases org session userMessage ctx env s=
      (orchestratorPhase org ctx session (newTurnId env.seed) env
        (TurnState.beginTurn s userMessage)).andThen (fun o => do
          domainPhase org ctx session (newTurnId env.seed) userMessage env o
          recordCost env) := rfl
  rw [hphases,hrun]
  generalize orchestratorRun org ctx session (newTurnId env.seed) env
    (TurnState.beginTurn s userMessage)=body at hphase hflags htarget hended
  obtain ⟨ys,x,t⟩ := phase
  obtain ⟨⟨evs,hlength,hkinds,hyields⟩,hexit,hstate⟩ := hphase
  dsimp only at hyields hstate hexit
  subst hyields hstate
  rcases hexit with ⟨hcancelled,rfl⟩|⟨hexit,o,rfl⟩
  · have hnone : evs=[] := by
      rw [hcancelled] at hlength
      exact List.length_eq_zero_iff.mp hlength
    subst hnone
    rw [andThen_error,andThen_error,List.map_nil,List.append_nil]
    exact .cancelled hcancelled (by_contra fun hne => by cases hcancelled.symm.trans (hended hne).1)
  · rw [andThen_ok,bind_apply,update_apply,andThen_ok,pure_apply,List.append_nil,List.append_nil,
      andThen_ok,bind_apply]
    change (synced body.state).handoffTarget=_ at htarget
    cases htgt : handoffTarget org ctx session (newTurnId env.seed) env with
    | none =>
      obtain ⟨x,hcost⟩ := recordCost_run env (synced body.state)
      rw [domainPhase_none o (htarget.trans htgt),andThen_ok,hcost]
      simpa using PhasesRun.alone evs x hexit hlength hkinds htgt
    | some target =>
      obtain ⟨hok,hquiet⟩ := hended (htgt ▸ Option.some_ne_none target)
      cases hflags hok hquiet
      rw [domainPhase_some (htarget.trans htgt) rfl]
      cases hagent : handoffAgent env target with
      | none =>
        obtain ⟨report,hreport,hlost⟩ := lostHandoff_run hid hagent (synced body.state)
        obtain ⟨x,hcost⟩ := recordCost_run env (synced body.state)
        rw [hlost,andThen_ok,pure_apply,andThen_ok,hcost]
        simpa using PhasesRun.lost evs report x target hexit hlength hkinds hreport htgt hagent
      | some agent =>
        obtain ⟨phase,domain,hdomain,hphase,hhanded⟩ := handoffPhase_run hid hagent
          (synced body.state)
        obtain ⟨ys,x,t⟩ := phase
        obtain ⟨⟨reports,hreports,hkinds',hyields⟩,hexit',hstate⟩ := hphase
        dsimp only at hyields hstate hexit'
        subst hyields hstate
        rw [hhanded]
        rcases hexit' with ⟨-,rfl⟩|⟨-,o',rfl⟩
        · rw [andThen_error,andThen_error]
          exact .handed evs reports _ target agent domain hexit hlength hkinds htgt hagent hdomain
            hreports hkinds'
        · obtain ⟨x,hcost⟩ := recordCost_run env (spliced domain)
          rw [andThen_ok,pure_apply,andThen_ok,hcost]
          simpa using PhasesRun.handed evs reports x target agent domain hexit hlength hkinds htgt
            hagent hdomain hreports hkinds'

/-- A turn that passes the gates: its phases, then the closing event. -/
theorem runTurn_run (org : Orchestrator) (session : Session) (userMessage : String)
    (approvals : Option (Table String Bool)) (actorRole : String) (h : TurnRequests.GatesPassed env) :
    ∃ closing : AgentEvent,closing.kind=.final ∧
      runTurn org session userMessage approvals actorRole env=
        (turnPhases org session userMessage
          (turnContext session (newTurnId env.seed) approvals actorRole) env
          {history := session.messageHistory}).andThen fun _ => emit closing := by
  have hvalid : eventError (finalFields session.id (newTurnId env.seed)).stripped=none :=
    final_valid (newTurnId_nonblank env.seed)
  refine ⟨⟨_,hvalid⟩,rfl,?_⟩
  unfold runTurn turnGen
  simp only [h.1,h.2,ofExcept_ok]
  unfold emitBuilt
  rw [build_of_valid hvalid]
  rfl

/-- The closing event leaves the state of the phases. -/
theorem runTurn_state (org : Orchestrator) (session : Session) (userMessage : String)
    (approvals : Option (Table String Bool)) (actorRole : String) (h : TurnRequests.GatesPassed env) :
    (runTurn org session userMessage approvals actorRole env).state=
      (turnPhases org session userMessage (turnContext session (newTurnId env.seed) approvals actorRole)
        env {history := session.messageHistory}).state := by
  obtain ⟨closing,-,hrun⟩ := runTurn_run org session userMessage approvals actorRole h
  rw [hrun]
  unfold Trace.andThen
  split <;> rfl

end Voyagent.TurnTraces
