import Mathlib.Data.List.Forall2
import Voyagent.TranscriptPairing

/-!
# Accounting for the calls of a turn that pauses

The events that answer a turn's calls are, in order, those of the calls its
loops reach. A consumer leaves a loop at the first request, so what stands
behind it in the same reply is never reached.
-/

namespace Voyagent.PausedReplies

open RuntimeValues KeyedMap AgentEvents SessionTranscript ToolInvocation GeneratorTraces AgentLoop
open Sessions OrchestratorTurn TurnTermination TranscriptPairing TurnTraces

/-- A call of a reply that no callback takes over. -/
structure RoutedCall where
  id : String
  name : String
  input : Dict
  deriving DecidableEq

/-- The calls of a reply that go to the router, in order. -/
def routedCalls (overrides : String → Bool) : List SdkBlock → List RoutedCall
  | [] => []
  | .toolUse id name input::blocks =>
    if overrides name then routedCalls overrides blocks
    else ⟨id,name,input⟩::routedCalls overrides blocks
  | _::blocks => routedCalls overrides blocks

/-- The call is gated and nobody has decided on it. -/
def Undecided (rt : Runtime) (ctx : ToolContext) (c : RoutedCall) : Prop :=
  ∃ spec,Cleared rt ctx c.name c.input spec ∧ approvalGate spec ctx c.name=.undecided

/-- An event accounts for a call: it asks for an undecided one, and reports
any other. -/
structure Accounts (rt : Runtime) (ctx : ToolContext) (c : RoutedCall) (ev : AgentEvent) : Prop where
  named : ev.fields.toolName=some (stripWhitespace c.name)
  called : ev.fields.toolCallId=some (stripWhitespace c.id)
  told : (Undecided rt ctx c ∧ ev.kind=.approvalRequest) ∨
    (¬Undecided rt ctx c ∧ ev.kind=.toolResult)

/-- An event of one of the two kinds that answer a call. -/
def answers (ev : AgentEvent) : Bool :=
  decide (ev.kind=.approvalRequest ∨ ev.kind=.toolResult)

/-! ## The calls of a reply and of a loop -/

section Calls

variable (cfg : LoopConfig) (overrides : String → Bool)

/-- The calls of a reply that are reached and answered. -/
def answeredCalls (tools : Nat → InvokeEnv) : List SdkBlock → Nat → List RoutedCall
  | [],_ => []
  | .toolUse id name input::blocks,n =>
    match blockFate cfg overrides (tools n) id name input with
    | .answered => ⟨id,name,input⟩::answeredCalls tools blocks (n+1)
    | .paused => [⟨id,name,input⟩]
    | _ => []
  | _::blocks,n => answeredCalls tools blocks (n+1)

/-- The calls of a reply behind the block its dispatch ends with. -/
def droppedCalls (tools : Nat → InvokeEnv) : List SdkBlock → Nat → List RoutedCall
  | [],_ => []
  | .toolUse id name input::blocks,n =>
    match blockFate cfg overrides (tools n) id name input with
    | .answered => droppedCalls tools blocks (n+1)
    | _ => routedCalls overrides blocks
  | _::blocks,n => droppedCalls tools blocks (n+1)

/-- The calls of the reply of a round. -/
def roundCalls (call : ModelCall) : List RoutedCall :=
  match roundInput cfg call with
  | .reply m => routedCalls overrides m.content
  | _ => []

/-- Those that are reached and answered. -/
def roundAnswered (call : ModelCall) : List RoutedCall :=
  match roundInput cfg call with
  | .reply m =>
    if m.stopReason=some "tool_use" then answeredCalls cfg overrides call.tools m.content 0 else []
  | _ => []

/-- Those that are not reached. A reply that did not stop for its tools is
not dispatched at all. -/
def roundDropped (call : ModelCall) : List RoutedCall :=
  match roundInput cfg call with
  | .reply m =>
    if m.stopReason=some "tool_use" then droppedCalls cfg overrides call.tools m.content 0
    else routedCalls overrides m.content
  | _ => []

/-- The calls of every reply a loop records. -/
def loopCalls (calls : Nat → ModelCall) : Nat → Nat → List RoutedCall
  | 0,_ => []
  | left+1,n => roundCalls cfg overrides (calls n)++
      if goesOn cfg overrides (calls n) then loopCalls calls left (n+1) else []

/-- The calls a loop reaches and answers. -/
def loopAnswered (calls : Nat → ModelCall) : Nat → Nat → List RoutedCall
  | 0,_ => []
  | left+1,n => roundAnswered cfg overrides (calls n)++
      if goesOn cfg overrides (calls n) then loopAnswered calls left (n+1) else []

/-- The calls of a loop's last reply behind the block that ended the loop. -/
def loopDropped (calls : Nat → ModelCall) : Nat → Nat → List RoutedCall
  | 0,_ => []
  | left+1,n =>
    if goesOn cfg overrides (calls n) then loopDropped calls left (n+1)
    else roundDropped cfg overrides (calls n)

end Calls

variable {cfg : LoopConfig} {overrides : String → Bool} {shown : String → Dict → Nat}

/-- A fate that is no accident. -/
def orderly : Fate → Bool
  | .answered | .overridden _ _ | .paused => true
  | .raised | .cancelled => false

/-- The callback takes the call over. -/
def takenOver : Fate → Bool
  | .overridden _ _ => true
  | _ => false

variable {id : String}

/-- Without an accident a block is taken over exactly when its name is
overridden. -/
theorem overrides_of_fate {env : InvokeEnv} {name : String} {input : Dict}
    (h : blockFate cfg overrides env id name input≠.raised) :
    overrides name=takenOver (blockFate cfg overrides env id name input) := by
  unfold blockFate at h ⊢
  by_cases hunnamed : stripWhitespace name="" ∨ stripWhitespace id=""
  · rw [if_pos hunnamed] at h
    exact absurd rfl h
  · rw [if_neg hunnamed]
    cases hover : overrides name with
    | true => rfl
    | false =>
      rw [if_neg Bool.false_ne_true]
      rcases (invokeTool cfg.rt env cfg.ctx name input).result with (_|_)|o
      · rfl
      · rfl
      · dsimp only
        unfold outcomeFate
        split
        · split <;> rfl
        · rfl

/-- What is answered and what is dropped make up the reply. -/
theorem routedCalls_split (tools : Nat → InvokeEnv) (blocks : List SdkBlock) (n : Nat)
    (h : orderly (dispatchFate cfg overrides tools blocks n)=true) :
    routedCalls overrides blocks=
      answeredCalls cfg overrides tools blocks n++droppedCalls cfg overrides tools blocks n := by
  induction blocks generalizing n with
  | nil => rfl
  | cons b blocks ih =>
    cases b with
    | text text => exact ih (n+1) h
    | other type => exact ih (n+1) h
    | dict block => exact ih (n+1) h
    | toolUse id name input =>
      have hover : blockFate cfg overrides (tools n) id name input≠.raised → _ := overrides_of_fate
      unfold dispatchFate at h
      unfold routedCalls answeredCalls droppedCalls
      cases hfate : blockFate cfg overrides (tools n) id name input with
      | raised => rw [hfate] at h; cases h
      | cancelled => rw [hfate] at h; cases h
      | overridden nm inp | paused =>
        rw [hfate] at hover
        rw [hover fun hr => by cases hr]
        rfl
      | answered =>
        rw [hfate] at h hover
        rw [hover (fun hr => by cases hr),ih (n+1) h]
        rfl

/-- A reply that is answered whole drops nothing. -/
theorem droppedCalls_of_answered (tools : Nat → InvokeEnv) (blocks : List SdkBlock) (n : Nat)
    (h : dispatchFate cfg overrides tools blocks n=.answered) :
    droppedCalls cfg overrides tools blocks n=[] := by
  induction blocks generalizing n with
  | nil => rfl
  | cons b blocks ih =>
    cases b with
    | text text => exact ih (n+1) h
    | other type => exact ih (n+1) h
    | dict block => exact ih (n+1) h
    | toolUse id name input =>
      rw [dispatchFate] at h
      rw [droppedCalls]
      cases hfate : blockFate cfg overrides (tools n) id name input <;> rw [hfate] at h
      case answered => exact ih (n+1) h
      all_goals cases h

/-- The same for the reply of a round. -/
theorem roundCalls_split (call : ModelCall)
    (h : orderly (roundFate cfg overrides call)=true) :
    roundCalls cfg overrides call=
      roundAnswered cfg overrides call++roundDropped cfg overrides call := by
  unfold roundFate at h
  unfold roundCalls roundAnswered roundDropped
  cases hround : roundInput cfg call with
  | cancelled => rfl
  | nothing => rfl
  | reply m =>
    rw [hround] at h
    dsimp only at h ⊢
    split at h
    · rename_i hstop
      rw [if_pos hstop,if_pos hstop]
      exact routedCalls_split call.tools m.content 0 h
    · rename_i hstop
      rw [if_neg hstop,if_neg hstop,List.nil_append]

/-- The same for a whole loop: only the reply it ends with drops a call. -/
theorem loopCalls_split (calls : Nat → ModelCall) (left n : Nat)
    (h : orderly (loopFate cfg overrides calls left n)=true) :
    loopCalls cfg overrides calls left n=
      loopAnswered cfg overrides calls left n++loopDropped cfg overrides calls left n := by
  induction left generalizing n with
  | zero => rfl
  | succ left ih =>
    rw [loopFate_succ] at h
    unfold loopCalls loopAnswered loopDropped
    cases hon : goesOn cfg overrides (calls n) with
    | false =>
      simp only [hon,Bool.false_eq_true,if_false,List.append_nil] at h ⊢
      exact roundCalls_split (calls n) h
    | true =>
      simp only [hon,if_true] at h ⊢
      obtain ⟨m,hround,hstop,hfate⟩ := goesOn_iff.mp hon
      have horderly : orderly (roundFate cfg overrides (calls n))=true := by
        rw [roundFate,hround]
        dsimp only
        rw [if_pos hstop,hfate]
        rfl
      have hwhole : roundDropped cfg overrides (calls n)=[] := by
        rw [roundDropped,hround]
        dsimp only
        rw [if_pos hstop]
        exact droppedCalls_of_answered _ _ _ hfate
      rw [roundCalls_split (calls n) horderly,hwhole,List.append_nil,ih (n+1) h,List.append_assoc]

/-! ## The events that answer -/

/-- A body's answers account for a list of calls, in order. -/
def AnswersFor (rt : Runtime) (ctx : ToolContext) (cs : List RoutedCall) (evs : List AgentEvent) :
    Prop := List.Forall₂ (Accounts rt ctx) cs (evs.filter answers)

variable {rt : Runtime} {ctx : ToolContext}

variable {cs : List RoutedCall} {evs : List AgentEvent}

theorem AnswersFor.append {ds : List RoutedCall} {fvs : List AgentEvent}
    (h : AnswersFor rt ctx cs evs) (h' : AnswersFor rt ctx ds fvs) :
    AnswersFor rt ctx (cs++ds) (evs++fvs) := by
  unfold AnswersFor
  rw [List.filter_append]
  exact List.rel_append h h'

/-- Texts, errors and announcements answer nothing. -/
theorem answersFor_quiet (h : ∀ ev∈evs,answers ev=false) : AnswersFor rt ctx [] evs := by
  unfold AnswersFor
  rw [List.filter_eq_nil_iff.mpr fun ev hm => by rw [h ev hm]; exact Bool.false_ne_true]
  exact List.Forall₂.nil

variable {ev : AgentEvent}

theorem answers_quiet (h : ev.kind=.textDelta ∨ ev.kind=.error) : answers ev=false := by
  unfold answers
  rcases h with h|h <;> rw [h] <;> rfl

/-- An announcement answers nothing. -/
theorem answers_announces (h : Announces id ev) : answers ev=false := by
  unfold answers
  rw [h.1]
  rfl

theorem answersFor_announced {use : AgentEvent} (h : Announces id use) :
    AnswersFor rt ctx [] [use] := by
  refine answersFor_quiet fun ev hm => ?_
  rw [List.mem_singleton.mp hm]
  exact answers_announces h

variable {c : RoutedCall}

/-- A call asks for a decision exactly when it is undecided. -/
theorem undecided_iff {env : InvokeEnv} {o : ToolInvocationOutcome}
    (h : (blockCall cfg env c.name c.input).report.result=.ok o) :
    Undecided cfg.rt cfg.ctx c ↔ o.kind=.approvalNeeded := by
  constructor
  · rintro ⟨spec,hcleared,hgate⟩
    have hcall : (blockCall cfg env c.name c.input).report=_ := invokeTool_undecided hcleared hgate
    rw [hcall] at h
    cases h
    rfl
  · intro hkind
    exact (invokeTool_asks_iff.mp ⟨h,hkind⟩).1

variable {s : TurnState}

/-- The answers of one block, from the way it ran. -/
theorem blockRun_accounted {env : InvokeEnv} {name : String} {input : Dict} {d : Dispatch}
    {tr : Trace TurnState AgentEvent (Option Halt) (Option Dispatch)}
    (h : BlockRun cfg overrides shown env id name input d s tr) :
    AnswersFor cfg.rt cfg.ctx (match blockFate cfg overrides env id name input with
      | .answered | .paused => [⟨id,name,input⟩]
      | _ => []) tr.events := by
  have hfate := h.fate
  have hone : ∀ {use ev : AgentEvent} {t t' : TurnState},Announces id use → answers ev=true →
      Accounts cfg.rt cfg.ctx ⟨id,name,input⟩ ev →
      AnswersFor cfg.rt cfg.ctx [⟨id,name,input⟩] (([(use,t),(ev,t')] : List _).map Prod.fst) := by
    intro use ev t t' huse hev hacc
    unfold AnswersFor
    simp only [List.map_cons,List.map_nil,List.filter_cons,answers_announces huse,hev,if_true,
      Bool.false_eq_true,if_false,List.filter_nil]
    exact .cons hacc .nil
  cases h with
  | unnamed e hunnamed =>
    rw [show blockFate cfg overrides env id name input=.raised from hfate]
    exact answersFor_quiet fun _ hm => absurd hm List.not_mem_nil
  | taken use evs target hnamed hover huse hlength hkinds =>
    rw [show blockFate cfg overrides env id name input=.overridden name input from hfate]
    refine answersFor_quiet fun ev hm => ?_
    rcases List.mem_cons.mp hm with rfl|hm
    · exact answers_announces huse
    · rw [fst_yields] at hm
      exact answers_quiet (hkinds ev hm)
  | halted use k hnamed hover huse hresult =>
    rw [show blockFate cfg overrides env id name input=stopFate (some k) from hfate]
    cases k <;> exact answersFor_announced huse
  | unshown use e o hnamed hover huse hresult hkind hfate' =>
    rw [show blockFate cfg overrides env id name input=.raised from hfate]
    exact answersFor_announced huse
  | asked use request o hnamed hover huse hrequest hresult hkind hfate' =>
    rw [show blockFate cfg overrides env id name input=.paused from hfate]
    have hundecided : Undecided cfg.rt cfg.ctx ⟨id,name,input⟩ := (undecided_iff hresult).mpr hkind
    refine hone huse ?_ ⟨hrequest.2.1,hrequest.2.2,.inl ⟨hundecided,hrequest.1⟩⟩
    unfold answers
    rw [hrequest.1]
    rfl
  | answered use report o isError hnamed hover huse hreport hresult hkind =>
    rw [show blockFate cfg overrides env id name input=.answered from hfate]
    have hdecided : ¬Undecided cfg.rt cfg.ctx ⟨id,name,input⟩ :=
      fun h => hkind ((undecided_iff hresult).mp h)
    refine hone huse ?_ ⟨hreport.2.1,hreport.2.2.1,.inr ⟨hdecided,hreport.1⟩⟩
    unfold answers
    rw [hreport.1]
    rfl

/-- Where a body stands after a run, as far as the answers are concerned. -/
theorem AnswersFor.andThen {α β κ : Type} {cs ds : List RoutedCall}
    {tr : Trace TurnState AgentEvent κ α} {rest : α → Gen TurnState AgentEvent κ β} (h : AnswersFor rt ctx cs tr.events)
    (hrest : ∀ a,tr.exit=.ok a → AnswersFor rt ctx ds (rest a tr.state).events)
    (hstop : ∀ k,tr.exit=.error k → ds=[]) :
    AnswersFor rt ctx (cs++ds) (tr.andThen rest).events := by
  unfold Trace.andThen
  cases hexit : tr.exit with
  | error k =>
    rw [hstop k hexit,List.append_nil]
    exact h
  | ok a =>
    have hboth := h.append (hrest a hexit)
    rwa [Trace.events,Trace.events,← List.map_append] at hboth

section

variable (hid : stripWhitespace cfg.turnId≠"") (hook : HookShows cfg overrides shown)

include hid hook

/-- The answers of a reply. -/
theorem dispatchBlocks_accounted (tools : Nat → InvokeEnv) (blocks : List SdkBlock)
    (n : Nat) (d : Dispatch) (s : TurnState) :
    AnswersFor cfg.rt cfg.ctx (answeredCalls cfg overrides tools blocks n)
      (cut isApprovalRequest (dispatchBlocks cfg tools blocks n d) s).events := by
  induction blocks generalizing n d s with
  | nil => exact answersFor_quiet fun _ hm => absurd hm List.not_mem_nil
  | cons b blocks ih =>
    cases b with
    | text text => exact ih (n+1) d s
    | other type => exact ih (n+1) d s
    | dict block => exact ih (n+1) d s
    | toolUse id name input =>
      have hrun := dispatchBlock_run hid hook (tools n) id name input d s
      have hdispatch : cut isApprovalRequest
          (dispatchBlocks cfg tools (.toolUse id name input::blocks) n d) s=
          (cut isApprovalRequest (dispatchBlock cfg (tools n) id name input d) s).andThen _ :=
        cut_bind_apply _ _ s
      have hcalls : answeredCalls cfg overrides tools (.toolUse id name input::blocks) n=
          (match blockFate cfg overrides (tools n) id name input with
            | .answered | .paused => [⟨id,name,input⟩]
            | _ => [])++
          (match blockFate cfg overrides (tools n) id name input with
            | .answered => answeredCalls cfg overrides tools blocks (n+1)
            | _ => []) := by
        rw [answeredCalls]
        cases blockFate cfg overrides (tools n) id name input <;> rfl
      rw [hdispatch,hcalls]
      generalize cut isApprovalRequest (dispatchBlock cfg (tools n) id name input d) s=tr at hrun
      have hfate := hrun.fate
      refine (blockRun_accounted hrun).andThen (fun o ho => ?_) fun k hk => ?_
      · rw [ho] at hfate
        cases o with
        | none =>
          rw [show blockFate cfg overrides (tools n) id name input=.overridden name input from hfate]
          exact answersFor_quiet fun _ hm => absurd hm List.not_mem_nil
        | some d' =>
          rw [show blockFate cfg overrides (tools n) id name input=.answered from hfate]
          exact ih (n+1) d' _
      · rw [hk] at hfate
        rw [show blockFate cfg overrides (tools n) id name input=stopFate k from hfate]
        rcases k with _|_|_ <;> rfl

/-- The answers of a recorded reply. -/
theorem recordReply_accounted (call : ModelCall) (m : FinalMessage) (s : TurnState) :
    AnswersFor cfg.rt cfg.ctx (if m.stopReason=some "tool_use" then
        answeredCalls cfg overrides call.tools m.content 0 else [])
      (cut isApprovalRequest (recordReply cfg call.tools m) s).events := by
  rw [recordReply_run]
  have hnone : AnswersFor cfg.rt cfg.ctx [] [] := .nil
  split
  · have hdispatch := (dispatchBlocks_accounted hid hook call.tools m.content 0 {}
      (s.append (assistantMessage m)))
    rw [← List.append_nil (answeredCalls _ _ _ _ _)]
    refine hdispatch.andThen (fun o ho => ?_) fun _ _ => rfl
    cases o <;> exact hnone
  · exact hnone

/-- The answers of a round. -/
theorem agentRound_accounted (call : ModelCall) (s : TurnState) :
    AnswersFor cfg.rt cfg.ctx (roundAnswered cfg overrides call)
      (cut isApprovalRequest (agentRound cfg call) s).events := by
  obtain ⟨evs,-,hkinds,s',-,hrun⟩ := agentRound_run hid call s
  have hstream : AnswersFor cfg.rt cfg.ctx []
      (⟨evs.map (·,s'),streamExit (roundInput cfg call),s'⟩ : Trace _ _ (Option Halt) _).events := by
    refine answersFor_quiet fun ev hm => answers_quiet ((hkinds ev ?_).imp_right And.left)
    rwa [Trace.events,fst_yields] at hm
  rw [hrun,← List.nil_append (roundAnswered cfg overrides call)]
  unfold roundAnswered
  refine hstream.andThen (fun o ho => ?_) fun k hk => ?_
  · cases hround : roundInput cfg call with
    | cancelled => rw [hround] at ho; cases ho
    | nothing =>
      rw [hround] at ho
      cases ho
      exact List.Forall₂.nil
    | reply m =>
      rw [hround] at ho
      cases ho
      exact recordReply_accounted hid hook call m s'
  · cases hround : roundInput cfg call with
    | cancelled => rfl
    | nothing => rfl
    | reply m => rw [hround] at hk; cases hk

end

/-- The answers of a loop, in order, account for the calls it reaches. -/
theorem agentLoop_accounted (cfg : LoopConfig) {target : String → Dict → Option Handoff}
    (hid : stripWhitespace cfg.turnId≠"") (hook : HookShows cfg overrides shown)
    (hkeeps : HookKeeps cfg overrides target) (calls : Nat → ModelCall) (left n : Nat)
    (s : TurnState) :
    AnswersFor cfg.rt cfg.ctx (loopAnswered cfg overrides calls left n)
      (cut isApprovalRequest (agentLoop cfg calls left n) s).events := by
  induction left generalizing n s with
  | zero => exact List.Forall₂.nil
  | succ left ih =>
    have hloop : cut isApprovalRequest (agentLoop cfg calls (left+1) n) s=
        (cut isApprovalRequest (agentRound cfg (calls n)) s).andThen _ := cut_bind_apply _ _ s
    have hagain := agentRound_again hid hook hkeeps (calls n) s
    rw [hloop,loopAnswered]
    refine (agentRound_accounted hid hook (calls n) s).andThen (fun again ha => ?_) fun k hk => ?_
    · rw [ha] at hagain
      cases again with
      | true =>
        rw [if_pos (hagain.mp rfl)]
        exact ih (n+1) _
      | false =>
        rw [if_neg fun h => by cases hagain.mpr h]
        exact List.Forall₂.nil
    · rw [hk] at hagain
      exact if_neg fun h => by cases hagain.mpr h

/-! ## The turn -/

section Turn

variable (org : Orchestrator) (ctx : ToolContext) (session : Session) (turnId : String)
variable (env : TurnEnv)

/-- The agent the turn hands over to, if any. -/
def turnAgent : Option DomainAgent :=
  (handoffTarget org ctx session turnId env).bind (handoffAgent env)

/-- What the two loops of a turn contribute, the orchestrator's first. -/
def acrossLoops (f : LoopConfig → (String → Bool) → (Nat → ModelCall) → List RoutedCall) :
    List RoutedCall :=
  f (orchestratorLoop org ctx session turnId) orchestratorOverrides env.orchestratorCalls++
    match turnAgent org ctx session turnId env with
    | none => []
    | some agent => f (domainLoop org agent ctx session) (fun _ => false) env.domainCalls

/-- The calls of every reply of the turn. -/
def turnCalls : List RoutedCall :=
  acrossLoops org ctx session turnId env fun cfg overrides calls =>
    loopCalls cfg overrides calls maxToolLoops 0

/-- The calls of the turn that are reached and answered. -/
def turnAnswered : List RoutedCall :=
  acrossLoops org ctx session turnId env fun cfg overrides calls =>
    loopAnswered cfg overrides calls maxToolLoops 0

/-- The calls of the turn behind the block that ended their loop. -/
def turnDropped : List RoutedCall :=
  acrossLoops org ctx session turnId env fun cfg overrides calls =>
    loopDropped cfg overrides calls maxToolLoops 0

end Turn

variable {org : Orchestrator} {session : Session} {turnId userMessage : String} {env : TurnEnv}

theorem orchestratorRun_accounted (hid : stripWhitespace turnId≠"") (s : TurnState) :
    AnswersFor org.rt ctx (loopAnswered (orchestratorLoop org ctx session turnId)
        orchestratorOverrides env.orchestratorCalls maxToolLoops 0)
      (orchestratorRun org ctx session turnId env s).events :=
  agentLoop_accounted (orchestratorLoop org ctx session turnId) hid (onToolUse_shows hid)
    (onToolUse_keeps hid) env.orchestratorCalls maxToolLoops 0 s

theorem domainRun_accounted (hid : stripWhitespace ctx.turnId≠"") (agent : DomainAgent)
    (goal : String) (s : TurnState) :
    AnswersFor org.rt ctx (loopAnswered (domainLoop org agent ctx session) (fun _ => false)
        env.domainCalls maxToolLoops 0)
      (domainRun org agent ctx session goal userMessage env s).events :=
  agentLoop_accounted (domainLoop org agent ctx session) hid (domain_shows agent)
    (domain_keeps agent) env.domainCalls maxToolLoops 0 _

/-- Reports of errors answer nothing. -/
theorem answersFor_errors (h : ∀ ev∈evs,ev.kind=.error) (s : TurnState) :
    AnswersFor rt ctx [] ((evs.map (·,s)).map Prod.fst) := by
  rw [fst_yields]
  exact answersFor_quiet fun ev hm => answers_quiet (.inr (h ev hm))

/-- The answers of a turn account for the calls its loops reach. -/
theorem turnPhases_accounted (hturn : ctx.turnId=newTurnId env.seed) (s : TurnState) :
    AnswersFor org.rt ctx (turnAnswered org ctx session (newTurnId env.seed) env)
      (turnPhases org session userMessage ctx env s).events := by
  have hid := newTurnId_nonblank env.seed
  have hctx : stripWhitespace ctx.turnId≠"" := by
    rw [hturn]
    exact hid
  have horchestrator : AnswersFor org.rt ctx _ (orchestratorRun org ctx session
      (newTurnId env.seed) env (TurnState.beginTurn s userMessage)).events :=
    orchestratorRun_accounted hid _
  have hrun : PhasesRun org session ctx (newTurnId env.seed) userMessage env _
    (turnPhases org session userMessage ctx env s) := turnPhases_run s
  unfold turnAnswered acrossLoops turnAgent
  generalize orchestratorRun org ctx session (newTurnId env.seed) env
    (TurnState.beginTurn s userMessage)=body at hrun horchestrator
  generalize turnPhases org session userMessage ctx env s=tr at hrun
  have hmore : ∀ {evs : List AgentEvent} {t : TurnState},(∀ ev∈evs,ev.kind=.error) →
      AnswersFor org.rt ctx (loopAnswered (orchestratorLoop org ctx session (newTurnId env.seed))
        orchestratorOverrides env.orchestratorCalls maxToolLoops 0++[])
        ((body.yields++evs.map (·,t)).map Prod.fst) := fun hkinds => by
    rw [List.map_append]
    exact horchestrator.append (answersFor_errors hkinds _)
  cases hrun with
  | cancelled hexit htarget =>
    rw [htarget]
    dsimp only [Option.bind_none]
    rw [List.append_nil]
    exact horchestrator
  | alone evs x hexit hlength hkinds htarget =>
    rw [htarget]
    exact hmore hkinds
  | lost evs report x target hexit hlength hkinds hreport htarget hagent =>
    rw [htarget,Option.bind_some,hagent]
    have hall := hmore (t:=body.state) hkinds
    have hreport' : ∀ ev∈[report],ev.kind=.error := fun ev hm => by
      rwa [List.mem_singleton.mp hm]
    have hboth := hall.append (answersFor_errors hreport' (synced body.state))
    rw [List.append_nil,← List.map_append] at hboth
    exact hboth
  | handed evs reports x target agent domain hexit hlength hkinds htarget hagent hdomain hreports
      hkinds' =>
    rw [htarget,Option.bind_some,hagent]
    have hall := hmore (t:=body.state) hkinds
    have hdomain' : AnswersFor org.rt ctx _ domain.events :=
      hdomain ▸ domainRun_accounted hctx agent (stripWhitespace target.goal) (synced body.state)
    have hboth := hall.append (hdomain'.append (answersFor_errors hkinds' (spliced domain)))
    rw [List.append_nil,List.append_nil,Trace.events,← List.map_append,← List.map_append] at hboth
    exact hboth

/-- Reports are no requests. -/
theorem no_request_of_errors (h : ∀ ev∈evs,ev.kind=.error) (s : TurnState)
    (hm : ev∈(evs.map (·,s)).map Prod.fst) : ev.kind≠.approvalRequest := by
  rw [fst_yields] at hm
  rw [h ev hm]
  exact nofun

/-- A loop whose consumer took a request was paused by it. -/
theorem paused_of_request (cfg : LoopConfig) {target : String → Dict → Option Handoff}
    (hid : stripWhitespace cfg.turnId≠"") (hook : HookShows cfg overrides shown)
    (hkeeps : HookKeeps cfg overrides target) (calls : Nat → ModelCall) (left n : Nat) (s : TurnState)
    (hm : ev∈(cut isApprovalRequest (agentLoop cfg calls left n) s).events)
    (hkind : ev.kind=.approvalRequest) : loopFate cfg overrides calls left n=.paused := by
  have hends := ends_of_agentLoop cfg hid hook hkeeps calls left n rfl (s:=s)
  rw [(cut_stopped_iff _ _ s).mpr ⟨ev,hm,decide_eq_true hkind⟩] at hends
  exact hends

section

variable (hturn : ctx.turnId=newTurnId env.seed)
variable (hm : ev∈(turnPhases org session userMessage ctx env s).events)
variable (hkind : ev.kind=.approvalRequest)

include hturn hm hkind

/-- Where a turn pauses, no loop of it met an accident. -/
theorem orderly_of_paused :
    orderly (orchestratorFate org ctx session (newTurnId env.seed) env)=true ∧
      ∀ agent,turnAgent org ctx session (newTurnId env.seed) env=some agent →
        orderly (loopFate (domainLoop org agent ctx session) (fun _ => false) env.domainCalls
          maxToolLoops 0)=true := by
  have hid := newTurnId_nonblank env.seed
  have hctx : stripWhitespace ctx.turnId≠"" := by
    rw [hturn]
    exact hid
  have hbody : ev∈(orchestratorRun org ctx session (newTurnId env.seed) env
      (TurnState.beginTurn s userMessage)).events →
      orchestratorFate org ctx session (newTurnId env.seed) env=.paused := fun hm =>
    paused_of_request (orchestratorLoop org ctx session (newTurnId env.seed)) hid
      (onToolUse_shows hid) (onToolUse_keeps hid) env.orchestratorCalls maxToolLoops 0 _ hm hkind
  have hrun : PhasesRun org session ctx (newTurnId env.seed) userMessage env _
    (turnPhases org session userMessage ctx env s) := turnPhases_run s
  generalize orchestratorRun org ctx session (newTurnId env.seed) env
    (TurnState.beginTurn s userMessage)=body at hrun hbody
  generalize turnPhases org session userMessage ctx env s=tr at hrun hm
  have hpaused : ev∈body.events →
      orderly (orchestratorFate org ctx session (newTurnId env.seed) env)=true ∧
        handoffTarget org ctx session (newTurnId env.seed) env=none := fun hm => by
    rw [handoffTarget,hbody hm]
    exact ⟨rfl,rfl⟩
  have hreports : ∀ {evs : List AgentEvent} {t : TurnState},(∀ ev∈evs,ev.kind=.error) →
      ev∉(evs.map (·,t)).map Prod.fst := fun h hm => no_request_of_errors h _ hm hkind
  have hnobody : turnAgent org ctx session (newTurnId env.seed) env=none → ∀ agent,
      turnAgent org ctx session (newTurnId env.seed) env=some agent →
        orderly (loopFate (domainLoop org agent ctx session) (fun _ => false) env.domainCalls
          maxToolLoops 0)=true := fun hnone agent ha => by
    rw [hnone] at ha
    cases ha
  cases hrun with
  | cancelled hexit htarget =>
    exact ⟨(hpaused hm).1,hnobody (by rw [turnAgent,htarget]; rfl)⟩
  | alone evs x hexit hlength hkinds htarget =>
    refine ⟨?_,hnobody (by rw [turnAgent,htarget]; rfl)⟩
    rw [Trace.events,List.map_append,List.mem_append] at hm
    exact (hpaused (hm.resolve_right (hreports hkinds))).1
  | lost evs report x target hexit hlength hkinds hreport htarget hagent =>
    refine ⟨?_,hnobody (by rw [turnAgent,htarget]; exact hagent)⟩
    rw [Trace.events,List.map_append,List.map_append,List.mem_append,List.mem_append] at hm
    rcases hm with (hm|hm)|hm
    · exact (hpaused hm).1
    · exact absurd hm (hreports hkinds)
    · rw [List.mem_singleton.mp hm,hreport] at hkind
      cases hkind
  | handed evs reports x target agent domain hexit hlength hkinds htarget hagent hdomain hreports'
      hkinds' =>
    rw [Trace.events,List.map_append,List.map_append,List.map_append,List.mem_append,
      List.mem_append,List.mem_append] at hm
    rcases hm with (hm|hm)|hm|hm
    · rw [(hpaused hm).2] at htarget
      cases htarget
    · exact absurd hm (hreports hkinds)
    · -- The domain agent asked; the orchestrator had handed over.
      refine ⟨?_,fun agent' ha => ?_⟩
      · unfold handoffTarget at htarget
        cases hfate : orchestratorFate org ctx session (newTurnId env.seed) env with
        | overridden name input => rfl
        | answered | raised | paused | cancelled => rw [hfate] at htarget; cases htarget
      · rw [turnAgent,htarget,Option.bind_some,hagent] at ha
        cases ha
        have hpaused : loopFate (domainLoop org agent ctx session) (fun _ => false) env.domainCalls
            maxToolLoops 0=.paused :=
          paused_of_request (domainLoop org agent ctx session) hctx (domain_shows agent)
            (domain_keeps agent) env.domainCalls maxToolLoops 0 _ (hdomain ▸ hm) hkind
        rw [hpaused]
        rfl
    · exact absurd hm (hreports hkinds')

/-- Reached and dropped calls make up those of a turn that pauses. -/
theorem length_turnCalls :
    (turnCalls org ctx session (newTurnId env.seed) env).length=
      (turnAnswered org ctx session (newTurnId env.seed) env).length+
        (turnDropped org ctx session (newTurnId env.seed) env).length ∧
    (turnDropped org ctx session (newTurnId env.seed) env=[] →
      turnCalls org ctx session (newTurnId env.seed) env=
        turnAnswered org ctx session (newTurnId env.seed) env) := by
  obtain ⟨hfirst,hsecond⟩ := orderly_of_paused hturn hm hkind
  have horchestrator := loopCalls_split env.orchestratorCalls maxToolLoops 0 hfirst
  unfold turnCalls turnAnswered turnDropped acrossLoops
  dsimp only
  rw [horchestrator]
  cases hagent : turnAgent org ctx session (newTurnId env.seed) env with
  | none =>
    dsimp only
    refine ⟨by simp,fun hnone => ?_⟩
    rw [List.append_nil] at hnone
    rw [hnone,List.append_nil]
  | some agent =>
    have hdomain := loopCalls_split env.domainCalls maxToolLoops 0 (hsecond agent hagent)
    dsimp only
    rw [hdomain]
    refine ⟨by simp only [List.length_append]; omega,fun hnone => ?_⟩
    obtain ⟨hleft,hright⟩ := List.append_eq_nil_iff.mp hnone
    rw [hleft,hright,List.append_nil,List.append_nil]

end

/-! ## Every call accounted for -/

/-- Answers in order account for every call. -/
theorem accounted_of_answersFor (h : AnswersFor rt ctx cs evs) :
    List.SublistForall₂ (Accounts rt ctx) cs evs :=
  List.sublistForall₂_iff.mpr ⟨_,h,List.filter_sublist⟩

theorem answers_of_accounts (h : Accounts rt ctx c ev) : answers ev=true := by
  unfold answers
  rcases h.told with ⟨-,hkind⟩|⟨-,hkind⟩ <;> rw [hkind] <;> rfl

/-- Only answers account for a call. -/
theorem length_le_of_accounted (h : List.SublistForall₂ (Accounts rt ctx) cs evs) :
    cs.length ≤ (evs.filter answers).length := by
  induction h with
  | nil => exact Nat.zero_le _
  | cons hacc _ ih =>
    have hev := answers_of_accounts hacc
    rw [List.filter_cons_of_pos hev]
    exact Nat.succ_le_succ ih
  | @cons_right ev cs evs _ ih =>
    refine ih.trans ?_
    exact ((List.sublist_cons_self ev evs).filter answers).length_le

/-- Wherever a turn pauses, every call of its messages has an answer of its
own among the events if and only if nothing stands behind the block that
ended a loop. -/
theorem every_call_answered_iff (org : Orchestrator) (session : Session) (userMessage : String)
    (approvals : Option (Table String Bool)) (actorRole : String) (env : TurnEnv)
    (hpaused : ∃ ev∈(runTurn org session userMessage approvals actorRole env).events,
      ev.kind=.approvalRequest) :
    List.SublistForall₂
        (Accounts org.rt (turnContext session (newTurnId env.seed) approvals actorRole))
        (turnCalls org (turnContext session (newTurnId env.seed) approvals actorRole) session
          (newTurnId env.seed) env)
        (runTurn org session userMessage approvals actorRole env).events ↔
      turnDropped org (turnContext session (newTurnId env.seed) approvals actorRole) session
        (newTurnId env.seed) env=[] := by
  have hturn := turnContext_turnId session env.seed approvals actorRole
  -- A turn that pauses has passed the gates.
  have hgates : TurnRequests.GatesPassed env := by
    by_contra hstopped
    have hstate := TurnRequests.state_of_stopped org session userMessage approvals actorRole none
      hstopped
    obtain ⟨i,hi,-⟩ := (TurnRequests.requests_iff_asks org session userMessage approvals actorRole env
      none).mp hpaused
    rw [hstate] at hi
    exact List.not_mem_nil hi
  obtain ⟨closing,hclosing,hrun⟩ := runTurn_run org session userMessage approvals actorRole hgates
  generalize turnContext session (newTurnId env.seed) approvals actorRole=ctx at hturn hrun ⊢
  have hquiet : answers closing=false := by
    unfold answers
    rw [hclosing]
    rfl
  have hphases : AnswersFor org.rt ctx (turnAnswered org ctx session (newTurnId env.seed) env)
      (turnPhases org session userMessage ctx env {history := session.messageHistory}).events :=
    turnPhases_accounted hturn _
  have hanswers : AnswersFor org.rt ctx (turnAnswered org ctx session (newTurnId env.seed) env)
      (runTurn org session userMessage approvals actorRole env).events := by
    rw [hrun,← List.append_nil (turnAnswered _ _ _ _ _)]
    refine hphases.andThen (fun _ _ => answersFor_quiet fun ev hm => ?_) fun _ _ => rfl
    rwa [List.mem_singleton.mp hm]
  obtain ⟨ev,hm,hkind⟩ := hpaused
  have hrequest : ev∈(turnPhases org session userMessage ctx env
      {history := session.messageHistory}).events := by
    rw [hrun,Trace.andThen] at hm
    split at hm
    · rw [Trace.events,List.map_append,List.mem_append] at hm
      refine hm.resolve_right fun hclosed => ?_
      rw [List.mem_singleton.mp hclosed] at hkind
      rw [hclosing] at hkind
      cases hkind
    · exact hm
  obtain ⟨hlength,hwhole⟩ := length_turnCalls hturn hrequest hkind
  constructor
  · intro hall
    have hle := length_le_of_accounted hall
    rw [← List.Forall₂.length_eq hanswers,hlength] at hle
    exact List.length_eq_zero_iff.mp (by omega)
  · intro hnone
    rw [hwhole hnone]
    exact accounted_of_answersFor hanswers

/-- A turn handed to ticketing, whose agent makes the given calls in one reply. -/
def ticketingTurn (calls : List SdkBlock) : TurnEnv :=
  {routedTurn [ticketingHandoff "toolu_01"] with
    domainCalls := fun _ => repliesWith ⟨some "tool_use",calls⟩}

/-- A ticket to issue, which needs approval. -/
def ticketCall (id pnr : String) : SdkBlock := .toolUse id "issue_ticket" [("pnr_id",.str pnr)]

/-- A lone request accounts for all the calls of its turn. -/
theorem every_call_answered_iff_alone :
    List.SublistForall₂
      (Accounts deskOrchestrator.rt (turnContext deskSession (newTurnId deskSeed) none
        "ticketing_lead"))
      (turnCalls deskOrchestrator (turnContext deskSession (newTurnId deskSeed) none
        "ticketing_lead") deskSession (newTurnId deskSeed)
        (ticketingTurn [ticketCall "toolu_02" "PNR-1"]))
      (runTurn deskOrchestrator deskSession "Issue PNR-1" none "ticketing_lead"
        (ticketingTurn [ticketCall "toolu_02" "PNR-1"])).events :=
  (every_call_answered_iff deskOrchestrator deskSession "Issue PNR-1" none "ticketing_lead"
    (ticketingTurn [ticketCall "toolu_02" "PNR-1"]) (by decide +kernel)).mpr (by decide +kernel)

/-- Two tickets in one reply: the turn pauses at the first, and nobody hears
of the second. -/
theorem second_ticket_swallowed :
    (∃ ev∈(runTurn deskOrchestrator deskSession "Issue PNR-1 and PNR-2" none "ticketing_lead"
        (ticketingTurn [ticketCall "toolu_02" "PNR-1",ticketCall "toolu_03" "PNR-2"])).events,
      ev.kind=.approvalRequest) ∧
    ¬List.SublistForall₂
      (Accounts deskOrchestrator.rt (turnContext deskSession (newTurnId deskSeed) none
        "ticketing_lead"))
      (turnCalls deskOrchestrator (turnContext deskSession (newTurnId deskSeed) none
        "ticketing_lead") deskSession (newTurnId deskSeed)
        (ticketingTurn [ticketCall "toolu_02" "PNR-1",ticketCall "toolu_03" "PNR-2"]))
      (runTurn deskOrchestrator deskSession "Issue PNR-1 and PNR-2" none "ticketing_lead"
        (ticketingTurn [ticketCall "toolu_02" "PNR-1",ticketCall "toolu_03" "PNR-2"])).events :=
  ⟨by decide +kernel,fun h => absurd (length_le_of_accounted h) (by decide +kernel)⟩

end Voyagent.PausedReplies
