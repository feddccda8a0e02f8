import Voyagent.TranscriptPairing
import Voyagent.WriteBack

/-!
# What a turn remembers of the calls it executed

A loop works on a private copy of the history: the results of a reply are
noted in it once the whole reply is dispatched, and the copy is written back
when the loop has ended. An executed call whose result is noted and written
back before the turn is left stands in the history, with the outcome its
event reported.
-/

namespace Voyagent.ExecutedCalls

open RuntimeValues KeyedMap AgentEvents SessionTranscript ToolInvocation GeneratorTraces
open GeneratorRelations AgentLoop Sessions OrchestratorTurn TurnTermination TranscriptPairing
open TurnRequests TurnTraces WriteBack

/-- What remains of an executed call: the id it was made under, the event
that reported its outcome, and what that outcome was. -/
structure Memory where
  id : String
  call : Invocation
  event : AgentEvent
  outcome : ToolInvocationOutcome
  isError : Bool
  /-- The outcome is that of the call. -/
  returned : call.report.result=.ok outcome
  /-- The event reports that outcome. -/
  reported : Reports id call.name (reportedPayload outcome) event

/-- The call's block in the assistant's message. -/
def Memory.use (m : Memory) : Block := .toolUse m.id m.call.name m.call.input

/-- The call's result in the message after it. -/
def Memory.result (rt : Runtime) (m : Memory) : Block :=
  .toolResult m.id (compactPayload rt (reportedPayload m.outcome)) (some m.isError)

/-- The calls whose handler was executed. -/
def executed (is : List Invocation) : List Invocation :=
  is.filter fun i => decide i.report.handlerRan

/-- Every executed call was reported, and is among the blocks with its result;
each has its own event and its own two blocks. -/
def Backed (rt : Runtime) (is : List Invocation) (evs : List AgentEvent)
    (uses results : List Block) : Prop :=
  ∃ ms : List Memory,ms.map Memory.call=executed is ∧ (ms.map Memory.event).Sublist evs ∧
    (ms.map Memory.use).Sublist uses ∧ (ms.map (Memory.result rt)).Sublist results

/-- The blocks of one role's messages. -/
def blocksOf (role : Role) (ms : List Message) : List Block :=
  (ms.filter fun m => decide (m.role=role)).flatMap Message.content

/-- The turn's part of the history backs every executed call of the turn. -/
def Remembered (rt : Runtime) (before : List Message) (evs : List AgentEvent) (t : TurnState) :
    Prop :=
  ∃ new,t.history=before++new ∧
    Backed rt t.invocations evs (blocksOf .assistant new) (blocksOf .user new)

/-! ## The beats of a turn -/

section Beats

variable (cfg : LoopConfig) (overrides : String → Bool) (shown : String → Dict → Nat)

/-- A block shows its announcement, may execute its handler, and shows the
answer; an answer of the callback is noted at once. -/
def blockBeats (env : InvokeEnv) (id name : String) (input : Dict) : List Beat :=
  if Unnamed id name then []
  else if overrides name then .shown::(.replicate (shown name input) .shown++[.noted])
  else
    .shown::((if (blockCall cfg env name input).report.handlerRan then [.done] else [])++
      match blockFate cfg overrides env id name input with
      | .answered | .paused => [.shown]
      | _ => [])

/-- The blocks of a reply, up to the one its dispatch ends with. -/
def dispatchBeats (tools : Nat → InvokeEnv) : List SdkBlock → Nat → List Beat
  | [],_ => []
  | .toolUse id name input::blocks,n =>
    blockBeats cfg overrides shown (tools n) id name input++
      match blockFate cfg overrides (tools n) id name input with
      | .answered => dispatchBeats tools blocks (n+1)
      | _ => []
  | _::blocks,n => dispatchBeats tools blocks (n+1)

/-- A reply's results are noted when it was answered whole. -/
def replyBeats (call : ModelCall) (m : FinalMessage) : List Beat :=
  if m.stopReason=some "tool_use" then
    dispatchBeats cfg overrides shown call.tools m.content 0++
      match replyFate cfg overrides call m with
      | .answered => [.noted]
      | _ => []
  else []

/-- A round: the stream, then the reply. -/
def roundBeats (call : ModelCall) : List Beat :=
  .replicate (streamShown cfg call) .shown++
    match roundInput cfg call with
    | .reply m => replyBeats cfg overrides shown call m
    | _ => []

def loopBeats (calls : Nat → ModelCall) : Nat → Nat → List Beat
  | 0,_ => []
  | left+1,n => roundBeats cfg overrides shown (calls n)++
      if goesOn cfg overrides (calls n) then loopBeats calls left (n+1) else []

end Beats

/-- An exception of a loop is reported before anything else. -/
def reportBeats : Fate → List Beat
  | .raised => [.shown]
  | _ => []

section Turn

variable (org : Orchestrator) (ctx : ToolContext) (session : Session) (turnId : String)
variable (env : TurnEnv)

/-- The orchestrator's loop is written back however it ends, unless cancelled. -/
def orchestratorBeats : List Beat :=
  loopBeats (orchestratorLoop org ctx session turnId) orchestratorOverrides (orchestratorShown org)
      env.orchestratorCalls maxToolLoops 0++
    reportBeats (orchestratorFate org ctx session turnId env)++
    match orchestratorFate org ctx session turnId env with
    | .cancelled => []
    | _ => [.kept]

/-- A domain agent's loop is written back only when it ended by itself. -/
def domainBeats (agent : DomainAgent) : List Beat :=
  loopBeats (domainLoop org agent ctx session) (fun _ => false) (fun _ _ => 0) env.domainCalls
      maxToolLoops 0++
    reportBeats (loopFate (domainLoop org agent ctx session) (fun _ => false) env.domainCalls
      maxToolLoops 0)++
    if (loopFate (domainLoop org agent ctx session) (fun _ => false) env.domainCalls
      maxToolLoops 0).finished then [.kept] else []

/-- The orchestrator's phase, then that of the agent it hands over to. -/
def phaseBeats : List Beat :=
  orchestratorBeats org ctx session turnId env++
    match handoffTarget org ctx session turnId env with
    | none => []
    | some target =>
      match handoffAgent env target with
      | none => [.shown]
      | some agent => domainBeats org ctx session env agent

/-- The beats of a turn up to its closing event. A turn a gate stops has none. -/
def turnBeats : List Beat :=
  match rateGate env,budgetGate env with
  | .ok none,.ok none => phaseBeats org ctx session turnId env
  | _,_ => []

end Turn

variable {cfg : LoopConfig} {overrides : String → Bool} {shown : String → Dict → Nat}
variable {rt : Runtime} {s t : TurnState}

/-! ## What backs a list of calls -/

theorem executed_append (is js : List Invocation) :
    executed (is++js)=executed is++executed js := List.filter_append is js

variable {is : List Invocation}

theorem executed_eq_nil_iff : executed is=[] ↔ ∀ i∈is,¬i.report.handlerRan := by
  simp [executed,List.filter_eq_nil_iff]

theorem Backed.append {is js : List Invocation} {evs fvs : List AgentEvent}
    {uses uses' results results' : List Block} (h : Backed rt is evs uses results)
    (h' : Backed rt js fvs uses' results') :
    Backed rt (is++js) (evs++fvs) (uses++uses') (results++results') := by
  obtain ⟨ms,hcalls,hevents,huses,hresults⟩ := h
  obtain ⟨ns,hcalls',hevents',huses',hresults'⟩ := h'
  refine ⟨ms++ns,?_,?_,?_,?_⟩ <;> rw [List.map_append]
  · rw [hcalls,hcalls',executed_append]
  · exact hevents.append hevents'
  · exact huses.append huses'
  · exact hresults.append hresults'

variable {uses' : List Block}

/-- More events and more blocks do no harm. -/
theorem Backed.mono {evs fvs : List AgentEvent} {uses results results' : List Block}
    (h : Backed rt is evs uses results) (hevs : evs.Sublist fvs) (huses : uses.Sublist uses')
    (hresults : results.Sublist results') : Backed rt is fvs uses' results' := by
  obtain ⟨ms,hcalls,he,hu,hr⟩ := h
  exact ⟨ms,hcalls,he.trans hevs,hu.trans huses,hr.trans hresults⟩

/-- Calls that were not executed need nothing. -/
theorem backed_idle (h : ∀ i∈is,¬i.report.handlerRan) (evs : List AgentEvent)
    (uses results : List Block) : Backed rt is evs uses results :=
  ⟨[],(executed_eq_nil_iff.mpr h).symm,List.nil_sublist _,List.nil_sublist _,List.nil_sublist _⟩

theorem backed_nil (evs : List AgentEvent) (uses results : List Block) :
    Backed rt [] evs uses results := backed_idle (fun _ h => absurd h List.not_mem_nil) evs uses results

variable {i : Invocation} {id : String}

/-- An answered call has its event and its blocks. -/
theorem backed_answered {event : AgentEvent} {o : ToolInvocationOutcome} (isError : Bool)
    (hresult : i.report.result=.ok o) (hreport : Reports id i.name (reportedPayload o) event) :
    Backed rt [i] [event] [.toolUse id i.name i.input]
      [.toolResult id (compactPayload rt (reportedPayload o)) (some isError)] := by
  by_cases hran : i.report.handlerRan
  · have hone : executed [i]=[i] := by simp [executed,hran]
    exact ⟨[⟨id,i,event,o,isError,hresult,hreport⟩],hone.symm,List.Sublist.refl _,
      List.Sublist.refl _,List.Sublist.refl _⟩
  · exact backed_idle (fun j hj => by rwa [List.mem_singleton.mp hj]) _ _ _

theorem blocksOf_append (role : Role) (ms ns : List Message) :
    blocksOf role (ms++ns)=blocksOf role ms++blocksOf role ns := by
  unfold blocksOf
  rw [List.filter_append,List.flatMap_append]

/-! ## The ledger of a run -/

/-- A handler was executed by a call logged behind the first `k`. -/
def RanSince (k : Nat) (t : TurnState) : Prop := ∃ i∈t.invocations.drop k,i.report.handlerRan

theorem ranSince_logCall {k : Nat} (h : RanSince k (s.logCall i)) :
    RanSince k s ∨ i.report.handlerRan := by
  obtain ⟨j,hj,hran⟩ := h
  rw [TurnState.logCall,List.drop_append] at hj
  rcases List.mem_append.mp hj with hj|hj
  · exact .inl ⟨j,hj,hran⟩
  · rw [List.mem_singleton.mp (List.mem_of_mem_drop hj)] at hran
    exact .inr hran

/-- A run and its beats: at every value shown and at the end, the history is
as before, the log has grown, and what was executed is pending. -/
structure Scored {α : Type} (k : Nat) (l : Ledger) (bs : List Beat) (s : TurnState)
    (tr : Trace TurnState AgentEvent (Option Halt) α) : Prop where
  yields : List.Forall₂ (fun y m => y.2.history=s.history ∧ s.invocations <+: y.2.invocations ∧
    (RanSince k y.2 → m.pending=true)) tr.yields (marks l bs)
  history : tr.state.history=s.history
  log : s.invocations <+: tr.state.invocations
  ended : RanSince k tr.state → (settle l bs).pending=true

variable {k : Nat} {l : Ledger} {bs cs : List Beat}

/-- A run followed by a run. -/
theorem Scored.andThen {α β : Type} {tr : Trace TurnState AgentEvent (Option Halt) α}
    {rest : α → Gen TurnState AgentEvent (Option Halt) β} (h : Scored k l bs s tr)
    (hrest : ∀ a,tr.exit=.ok a → Scored k (settle l bs) cs tr.state (rest a tr.state))
    (hstop : ∀ e,tr.exit=.error e → cs=[]) : Scored k l (bs++cs) s (tr.andThen rest) := by
  unfold Trace.andThen
  cases hexit : tr.exit with
  | error e =>
    rw [hstop e hexit,List.append_nil]
    exact ⟨h.yields,h.history,h.log,h.ended⟩
  | ok a =>
    have hr := hrest a hexit
    refine ⟨?_,hr.history.trans h.history,h.log.trans hr.log,?_⟩
    · rw [marks_append]
      refine List.rel_append h.yields (hr.yields.imp fun y m hy => ?_)
      exact ⟨hy.1.trans h.history,h.log.trans hy.2.1,hy.2.2⟩
    · rw [settle_append]
      exact hr.ended

variable {α : Type} {x : Except (Option Halt) α}

/-- A silent run without beats. -/
theorem scored_silent (hhistory : t.history=s.history) (hlog : t.invocations=s.invocations)
    (hran : RanSince k s → l.pending=true) :
    Scored k l [] s (⟨[],x,t⟩ : Trace TurnState AgentEvent (Option Halt) α) :=
  ⟨.nil,hhistory,hlog ▸ List.prefix_refl _,by rw [RanSince,hlog]; exact hran⟩

theorem pending_done (l : Ledger) : (l.step .done).pending=true := by simp [Ledger.step,Ledger.pending]

theorem pending_noted (l : Ledger) : (l.step .noted).pending=l.pending := by
  simp [Ledger.step,Ledger.pending]

/-- Noting what was done shows nothing. -/
theorem scored_noted (hhistory : t.history=s.history) (hlog : t.invocations=s.invocations)
    (hran : RanSince k s → l.pending=true) :
    Scored k l [.noted] s (⟨[],x,t⟩ : Trace TurnState AgentEvent (Option Halt) α) :=
  ⟨.nil,hhistory,hlog ▸ List.prefix_refl _,by
    rw [RanSince,hlog]
    exact fun h => (pending_noted l).trans (hran h)⟩

/-- A list of values shown in one state. -/
theorem forall₂_shown (evs : List AgentEvent) (hhistory : t.history=s.history)
    (hlog : s.invocations <+: t.invocations) (hran : RanSince k t → l.pending=true) :
    List.Forall₂ (fun y m => y.2.history=s.history ∧ s.invocations <+: y.2.invocations ∧
      (RanSince k y.2 → m.pending=true)) (evs.map (·,t)) (.replicate evs.length l) := by
  induction evs with
  | nil => exact .nil
  | cons ev evs ih => exact .cons ⟨hhistory,hlog,hran⟩ ih

/-- A routed block: its announcement, its call, and what is shown of it. -/
theorem scored_routed (use : AgentEvent) (i : Invocation) (evs : List AgentEvent)
    (x : Except (Option Halt) α) (hran : RanSince k s → l.pending=true) :
    Scored k l (.shown::((if i.report.handlerRan then [.done] else [])++
        .replicate evs.length .shown)) s
      (⟨(use,s)::evs.map (·,s.logCall i),x,s.logCall i⟩ :
        Trace TurnState AgentEvent (Option Halt) α) := by
  have hafter : RanSince k (s.logCall i) →
      (settle l (if i.report.handlerRan then [.done] else [])).pending=true := by
    intro h
    split
    · exact pending_done l
    · rename_i hnot
      exact hran ((ranSince_logCall h).resolve_right hnot)
  have hquiet : marks l (if i.report.handlerRan then [.done] else [])=[] := by
    split <;> rfl
  refine ⟨?_,rfl,List.prefix_append _ _,fun h => ?_⟩
  · refine .cons ⟨rfl,List.prefix_refl _,hran⟩ ?_
    rw [marks_append,hquiet,marks_shown,List.nil_append]
    exact forall₂_shown evs rfl (List.prefix_append _ _) hafter
  · rw [settle_cons,settle_append,step_shown,settle_shown]
    exact hafter h

variable {d : Dispatch}

/-- One block and its beats. -/
theorem blockRun_scored {env : InvokeEnv} {name : String} {input : Dict}
    {tr : Trace TurnState AgentEvent (Option Halt) (Option Dispatch)}
    (h : BlockRun cfg overrides shown env id name input d s tr)
    (hran : RanSince k s → l.pending=true) :
    Scored k l (blockBeats cfg overrides shown env id name input) s tr := by
  have hfate := h.fate
  have hrouted : ¬Unnamed id name → overrides name=false →
      blockBeats cfg overrides shown env id name input=
        .shown::((if (blockCall cfg env name input).report.handlerRan then [.done] else [])++
          match blockFate cfg overrides env id name input with
          | .answered | .paused => [.shown]
          | _ => []) := fun hnamed hover => by
    rw [blockBeats,if_neg hnamed,hover,if_neg Bool.false_ne_true]
  cases h with
  | unnamed e hunnamed =>
    rw [blockBeats,if_pos hunnamed]
    exact scored_silent rfl rfl hran
  | taken use evs target hnamed hover huse hlength hkinds =>
    rw [blockBeats,if_neg hnamed,if_pos hover,← hlength]
    refine ⟨.cons ⟨rfl,List.prefix_refl _,hran⟩ ?_,rfl,List.prefix_refl _,fun hr => ?_⟩
    · have hmarks : marks l (.replicate evs.length .shown++[.noted])=.replicate evs.length l := by
        rw [marks_append,marks_shown]
        exact List.append_nil _
      rw [hmarks]
      exact forall₂_shown evs rfl (List.prefix_refl _) hran
    · rw [settle_cons,settle_append,step_shown,settle_shown]
      exact (pending_noted l).trans (hran hr)
  | halted use e hnamed hover huse hresult =>
    have hstop : blockFate cfg overrides env id name input=stopFate (some e) := hfate
    rw [hrouted hnamed hover,hstop]
    cases e <;> exact scored_routed use _ [] _ hran
  | unshown use e o hnamed hover huse hresult hkind hfate' =>
    have hstop : blockFate cfg overrides env id name input=.raised := hfate
    rw [hrouted hnamed hover,hstop]
    exact scored_routed use _ [] _ hran
  | asked use request o hnamed hover huse hrequest hresult hkind hfate' =>
    have hstop : blockFate cfg overrides env id name input=.paused := hfate
    rw [hrouted hnamed hover,hstop]
    exact scored_routed use _ [request] _ hran
  | answered use report o isError hnamed hover huse hreport hresult hkind =>
    have hgoes : blockFate cfg overrides env id name input=.answered := hfate
    rw [hrouted hnamed hover,hgoes]
    exact scored_routed use _ [report] _ hran

variable {tr : Trace TurnState AgentEvent (Option Halt) α}

/-- Only history and log of the start state count. -/
theorem Scored.of_start {s' : TurnState} (h : Scored k l bs s' tr) (hhistory : s'.history=s.history)
    (hlog : s'.invocations=s.invocations) : Scored k l bs s tr := by
  refine ⟨h.yields.imp fun y m hy => ⟨hy.1.trans hhistory,hlog ▸ hy.2.1,hy.2.2⟩,
    h.history.trans hhistory,hlog ▸ h.log,h.ended⟩

/-! ## What a loop notes in its copy -/

/-- The dispatch of some blocks: what it collects, or records itself, backs
the calls it made. -/
structure Gathers (rt : Runtime) (s : TurnState) (d : Dispatch) (uses : List Block)
    (tr : Trace TurnState AgentEvent (Option Halt) (Option Dispatch)) : Prop where
  collected : ∀ d',tr.exit=.ok (some d') → ∃ is results,tr.state.invocations=s.invocations++is ∧
    tr.state.messages=s.messages ∧ d'.toolResults=d.toolResults++results ∧
    Backed rt is tr.events uses results
  taken : tr.exit=.ok none → ∃ is results,tr.state.invocations=s.invocations++is ∧
    tr.state.messages=s.messages++[⟨.user,d.toolResults++results⟩] ∧
    Backed rt is tr.events uses results
  halted : ∀ e,tr.exit=.error e → tr.state.messages=s.messages

theorem Gathers.mono {d : Dispatch} {uses uses' : List Block}
    {tr : Trace TurnState AgentEvent (Option Halt) (Option Dispatch)}
    (h : Gathers rt s d uses tr) (huses : uses.Sublist uses') : Gathers rt s d uses' tr := by
  refine ⟨fun d' hd => ?_,fun ho => ?_,h.halted⟩
  · obtain ⟨is,results,hlog,hmessages,hresults,hbacked⟩ := h.collected d' hd
    exact ⟨is,results,hlog,hmessages,hresults,
      hbacked.mono (List.Sublist.refl _) huses (List.Sublist.refl _)⟩
  · obtain ⟨is,results,hlog,hmessages,hbacked⟩ := h.taken ho
    exact ⟨is,results,hlog,hmessages,
      hbacked.mono (List.Sublist.refl _) huses (List.Sublist.refl _)⟩

/-- Nothing dispatched. -/
theorem gathers_nil (d : Dispatch) (uses : List Block) :
    Gathers rt s d uses ⟨[],.ok (some d),s⟩ :=
  ⟨fun d' hd => ⟨[],[],by simp,rfl,by cases hd; simp,backed_nil _ _ _⟩,
    fun h => (by cases h),fun e h => (by cases h)⟩

/-- One block, then those behind it. -/
theorem Gathers.step {uses : List Block}
    {tr : Trace TurnState AgentEvent (Option Halt) (Option Dispatch)}
    {rest : Option Dispatch → Gen TurnState AgentEvent (Option Halt) (Option Dispatch)}
    (h : Gathers rt s d uses tr) (hnone : rest none tr.state=⟨[],.ok none,tr.state⟩)
    (hrest : ∀ d',tr.exit=.ok (some d') → Gathers rt tr.state d' uses' (rest (some d') tr.state)) :
    Gathers rt s d (uses++uses') (tr.andThen rest) := by
  obtain ⟨ys,exit,t⟩ := tr
  cases exit with
  | error e => exact ⟨fun d' hd => (by cases hd),fun ho => (by cases ho),fun _ _ => h.halted e rfl⟩
  | ok o =>
    rw [andThen_ok]
    cases o with
    | none =>
      dsimp only at hnone
      rw [hnone]
      refine ⟨fun d' hd => (by cases hd),fun _ => ?_,fun e he => (by cases he)⟩
      obtain ⟨is,results,hlog,hmessages,hbacked⟩ := h.taken rfl
      refine ⟨is,results,hlog,hmessages,hbacked.mono ?_ (List.sublist_append_left _ _)
        (List.Sublist.refl _)⟩
      rw [Trace.events,Trace.events,List.append_nil]
    | some d' =>
      obtain ⟨is,results,hlog,hmessages,hresults,hbacked⟩ := h.collected d' rfl
      have hr := hrest d' rfl
      have hevents : ∀ zs : List (AgentEvent × TurnState),
          (ys++zs).map Prod.fst=ys.map Prod.fst++zs.map Prod.fst := fun zs => List.map_append
      refine ⟨fun d'' hd => ?_,fun ho => ?_,fun e he => (hr.halted e he).trans hmessages⟩
      · obtain ⟨js,more,hlog',hmessages',hresults',hbacked'⟩ := hr.collected d'' hd
        refine ⟨is++js,results++more,?_,hmessages'.trans hmessages,?_,?_⟩
        · rw [hlog',hlog,List.append_assoc]
        · rw [hresults',hresults,List.append_assoc]
        · rw [Trace.events,hevents]
          exact hbacked.append hbacked'
      · obtain ⟨js,more,hlog',hmessages',hbacked'⟩ := hr.taken ho
        refine ⟨is++js,results++more,?_,?_,?_⟩
        · rw [hlog',hlog,List.append_assoc]
        · rw [hmessages',hmessages,hresults,List.append_assoc]
        · rw [Trace.events,hevents]
          exact hbacked.append hbacked'

/-- One block collects its answer, or records that of the callback. -/
theorem blockRun_gathers {env : InvokeEnv} {name : String} {input : Dict}
    {tr : Trace TurnState AgentEvent (Option Halt) (Option Dispatch)}
    (h : BlockRun cfg overrides shown env id name input d s tr) :
    Gathers cfg.rt s d [.toolUse id name input] tr := by
  cases h with
  | unnamed e hunnamed | halted use e hnamed hover huse hresult
  | unshown use e o hnamed hover huse hresult hkind hfate =>
    exact ⟨nofun,nofun,fun _ _ => rfl⟩
  | asked use request o hnamed hover huse hrequest hresult hkind hfate =>
    exact ⟨nofun,nofun,fun _ _ => rfl⟩
  | taken use evs target hnamed hover huse hlength hkinds =>
    exact ⟨nofun,fun _ => ⟨[],[.toolResult id "handled" none],(List.append_nil _).symm,rfl,
      backed_nil _ _ _⟩,nofun⟩
  | answered use report o isError hnamed hover huse hreport hresult hkind =>
    refine ⟨fun d' hd => ?_,nofun,nofun⟩
    cases hd
    have hbacked : Backed cfg.rt [blockCall cfg env name input] [report] [.toolUse id name input]
        [.toolResult id (compactPayload cfg.rt (reportedPayload o)) (some isError)] :=
      backed_answered isError hresult hreport
    exact ⟨[blockCall cfg env name input],_,rfl,rfl,rfl,
      hbacked.mono (List.sublist_cons_self _ _) (List.Sublist.refl _) (List.Sublist.refl _)⟩

/-- The copy has grown by messages that back every call made. -/
def Notes (rt : Runtime) (s : TurnState) (evs : List AgentEvent) (t : TurnState) : Prop :=
  ∃ is new,t.invocations=s.invocations++is ∧ t.messages=s.messages++new ∧
    Backed rt is evs (blocksOf .assistant new) (blocksOf .user new)

theorem Notes.trans {u : TurnState} {evs fvs : List AgentEvent} (h : Notes rt s evs t)
    (h' : Notes rt t fvs u) : Notes rt s (evs++fvs) u := by
  obtain ⟨is,new,hlog,hmessages,hbacked⟩ := h
  obtain ⟨js,more,hlog',hmessages',hbacked'⟩ := h'
  refine ⟨is++js,new++more,?_,?_,?_⟩
  · rw [hlog',hlog,List.append_assoc]
  · rw [hmessages',hmessages,List.append_assoc]
  · rw [blocksOf_append,blocksOf_append]
    exact hbacked.append hbacked'

/-- Nothing was called. -/
theorem notes_still (hlog : t.invocations=s.invocations)
    (hmessages : ∃ new,t.messages=s.messages++new) (evs : List AgentEvent) : Notes rt s evs t := by
  obtain ⟨new,hnew⟩ := hmessages
  exact ⟨[],new,hlog.trans (List.append_nil _).symm,hnew,backed_nil _ _ _⟩

/-- No handler was executed: there is nothing to note. -/
theorem notes_idle (hlog : s.invocations <+: t.invocations)
    (hmessages : ∃ new,t.messages=s.messages++new) (h : ¬RanSince s.invocations.length t)
    (evs : List AgentEvent) : Notes rt s evs t := by
  obtain ⟨is,his⟩ := hlog
  obtain ⟨new,hnew⟩ := hmessages
  refine ⟨is,new,his.symm,hnew,backed_idle (fun i hi hran => h ⟨i,?_,hran⟩) _ _ _⟩
  rw [← his,List.drop_left]
  exact hi

/-- A run notes its calls in the copy unless something is left loose, and a
run that returns leaves nothing loose. -/
structure Settles {α : Type} (rt : Runtime) (l : Ledger) (bs : List Beat) (s : TurnState)
    (tr : Trace TurnState AgentEvent (Option Halt) α) : Prop where
  grown : ∃ new,tr.state.messages=s.messages++new
  notes : (settle l bs).loose=false → Notes rt s tr.events tr.state
  returned : ∀ a,tr.exit=.ok a → (settle l bs).loose=false

theorem Settles.andThen {β : Type} {rest : α → Gen TurnState AgentEvent (Option Halt) β}
    (h : Settles rt l bs s tr)
    (hrest : ∀ a,tr.exit=.ok a → Settles rt (settle l bs) cs tr.state (rest a tr.state))
    (hstop : ∀ e,tr.exit=.error e → cs=[]) : Settles rt l (bs++cs) s (tr.andThen rest) := by
  obtain ⟨ys,exit,t⟩ := tr
  cases exit with
  | error e =>
    rw [andThen_error,hstop e rfl,List.append_nil]
    exact ⟨h.grown,h.notes,fun a ha => (by cases ha)⟩
  | ok a =>
    have hr := hrest a rfl
    obtain ⟨new,hnew⟩ := h.grown
    obtain ⟨more,hmore⟩ := hr.grown
    rw [andThen_ok]
    refine ⟨⟨new++more,?_⟩,fun hloose => ?_,fun b hb => ?_⟩
    · rw [hmore,hnew,List.append_assoc]
    · rw [settle_append] at hloose
      rw [Trace.events,List.map_append]
      exact (h.notes (h.returned a rfl)).trans (hr.notes hloose)
    · rw [settle_append]
      exact hr.returned b hb

/-- A run that notes nothing and leaves nothing loose has executed nothing. -/
theorem Scored.idle (h : Scored s.invocations.length {} bs s tr) (hnoted : .noted∉bs)
    (hl : l.loose=false) (hloose : (settle l bs).loose=false) :
    ¬RanSince s.invocations.length tr.state := by
  intro hran
  have hpending := h.ended hran
  have hunnoted : (settle {} bs).noted=false := settle_unnoted rfl hnoted
  have hunloose : (settle {} bs).loose=false :=
    (settle_loose_congr (m:=l) hl.symm bs).trans hloose
  rw [Ledger.pending,hunnoted,hunloose] at hpending
  cases hpending

variable {input' : Dict} {name' : String}

/-- Only a named call of the callback's is taken over. -/
theorem taken_of_fate {env : InvokeEnv} {name : String} {input : Dict}
    (h : blockFate cfg overrides env id name input=.overridden name' input') :
    ¬Unnamed id name ∧ overrides name=true := by
  by_cases hunnamed : Unnamed id name
  · rw [blockFate,if_pos hunnamed] at h
    cases h
  · refine ⟨hunnamed,?_⟩
    cases hover : overrides name with
    | true => rfl
    | false =>
      rw [blockFate_routed hunnamed hover] at h
      unfold outcomeFate at h
      repeat' split at h
      all_goals cases h

theorem blockBeats_unnoted {env : InvokeEnv} {name : String} {input : Dict}
    (h : ∀ name' input',blockFate cfg overrides env id name input≠.overridden name' input') :
    .noted∉blockBeats cfg overrides shown env id name input := by
  unfold blockBeats
  by_cases hunnamed : Unnamed id name
  · rw [if_pos hunnamed]
    exact List.not_mem_nil
  · cases hover : overrides name with
    | true => exact absurd (by rw [blockFate,if_neg hunnamed,if_pos hover]) (h name input)
    | false =>
      rw [if_neg hunnamed,if_neg Bool.false_ne_true]
      intro hm
      rcases List.mem_cons.mp hm with hm|hm
      · cases hm
      · rcases List.mem_append.mp hm with hm|hm
        · split at hm
          · cases List.mem_singleton.mp hm
          · exact List.not_mem_nil hm
        · split at hm
          · cases List.mem_singleton.mp hm
          · cases List.mem_singleton.mp hm
          · exact List.not_mem_nil hm

/-- A dispatch that the callback does not end notes nothing by itself. -/
theorem dispatchBeats_unnoted (tools : Nat → InvokeEnv) (blocks : List SdkBlock) (n : Nat)
    (h : ∀ name input,dispatchFate cfg overrides tools blocks n≠.overridden name input) :
    .noted∉dispatchBeats cfg overrides shown tools blocks n := by
  induction blocks generalizing n with
  | nil => exact List.not_mem_nil
  | cons b blocks ih =>
    cases b with
    | text text => exact ih (n+1) h
    | other type => exact ih (n+1) h
    | dict block => exact ih (n+1) h
    | toolUse id name input =>
      rw [dispatchBeats]
      rw [dispatchFate] at h
      have hblock : ∀ name' input',
          blockFate cfg overrides (tools n) id name input≠.overridden name' input' :=
        fun name' input' hfate => by
          rw [hfate] at h
          exact h name' input' rfl
      refine fun hm => (List.mem_append.mp hm).elim (blockBeats_unnoted hblock) fun hrest => ?_
      cases hfate : blockFate cfg overrides (tools n) id name input <;> rw [hfate] at h hrest
      case answered => exact ih (n+1) h hrest
      all_goals exact List.not_mem_nil hrest

/-- A dispatch that the callback ends leaves nothing loose. -/
theorem dispatchBeats_taken (tools : Nat → InvokeEnv) (blocks : List SdkBlock) (n : Nat)
    (l : Ledger) (h : dispatchFate cfg overrides tools blocks n=.overridden name' input') :
    (settle l (dispatchBeats cfg overrides shown tools blocks n)).loose=false := by
  induction blocks generalizing n l with
  | nil => cases h
  | cons b blocks ih =>
    cases b with
    | text text => exact ih (n+1) l h
    | other type => exact ih (n+1) l h
    | dict block => exact ih (n+1) l h
    | toolUse id name input =>
      rw [dispatchBeats,settle_append]
      rw [dispatchFate] at h
      cases hfate : blockFate cfg overrides (tools n) id name input <;> rw [hfate] at h
      case answered => exact ih (n+1) _ h
      case overridden name'' input'' =>
        obtain ⟨hnamed,hover⟩ := taken_of_fate hfate
        rw [blockBeats,if_neg hnamed,if_pos hover,settle_cons,settle_append]
        rfl
      all_goals cases h

theorem not_ranSince_self (s : TurnState) : ¬RanSince s.invocations.length s := by
  rintro ⟨i,hi,-⟩
  rw [List.drop_length] at hi
  exact List.not_mem_nil hi

theorem assistantBlocks_reply (m : FinalMessage) (results : List Block) :
    blocksOf .assistant [assistantMessage m,⟨.user,results⟩]=m.content.map blockToDict := by
  simp [blocksOf,assistantMessage]

theorem userBlocks_reply (m : FinalMessage) (results : List Block) :
    blocksOf .user [assistantMessage m,⟨.user,results⟩]=results := by
  simp [blocksOf,assistantMessage]

/-- The results a reply collected, noted when there are any. -/
theorem notes_reply (m : FinalMessage) {evs : List AgentEvent} {results : List Block}
    (hlog : t.invocations=s.invocations++is)
    (hmessages : t.messages=s.messages++[assistantMessage m])
    (h : Backed rt is evs (m.content.map blockToDict) results) :
    Notes rt s evs (if results=[] then t else t.append ⟨.user,results⟩) := by
  by_cases hnone : results=[]
  · rw [if_pos hnone]
    have huses : blocksOf .assistant [assistantMessage m]=m.content.map blockToDict := by
      simp [blocksOf,assistantMessage]
    refine ⟨is,[assistantMessage m],hlog,hmessages,?_⟩
    rw [huses]
    exact h.mono (List.Sublist.refl _) (List.Sublist.refl _) (hnone ▸ List.nil_sublist _)
  · rw [if_neg hnone]
    refine ⟨is,[assistantMessage m,⟨.user,results⟩],hlog,?_,?_⟩
    · change t.messages++_=_
      rw [hmessages]
      exact List.append_assoc _ _ _
    · rw [assistantBlocks_reply,userBlocks_reply]
      exact h

/-- A run that makes no call and keeps the copy. -/
theorem settles_quiet (ys : List (AgentEvent × TurnState)) (x : Except (Option Halt) α)
    (hlog : t.invocations=s.invocations) (hmessages : t.messages=s.messages)
    (hl : (settle l bs).loose=false) :
    Settles rt l bs s (⟨ys,x,t⟩ : Trace TurnState AgentEvent (Option Halt) α) :=
  have hgrown : t.messages=s.messages++[] := hmessages.trans (List.append_nil _).symm
  ⟨⟨[],hgrown⟩,fun _ => notes_still hlog ⟨[],hgrown⟩ _,fun _ _ => hl⟩

section Replies

variable {target : String → Dict → Option Handoff} (hid : stripWhitespace cfg.turnId≠"")
variable (hook : HookShows cfg overrides shown)

include hid hook

/-- The blocks of a reply and their beats. -/
theorem dispatchBlocks_scored (tools : Nat → InvokeEnv) (blocks : List SdkBlock)
    (n : Nat) (d : Dispatch) (s : TurnState) (l : Ledger) (hran : RanSince k s → l.pending=true) :
    Scored k l (dispatchBeats cfg overrides shown tools blocks n) s
      (cut isApprovalRequest (dispatchBlocks cfg tools blocks n d) s) := by
  induction blocks generalizing n d s l with
  | nil => exact scored_silent rfl rfl hran
  | cons b blocks ih =>
    cases b with
    | text text | other type | dict block => exact ih (n+1) d s l hran
    | toolUse id name input =>
      have hrun := dispatchBlock_run hid hook (tools n) id name input d s
      have hdispatch : cut isApprovalRequest
          (dispatchBlocks cfg tools (.toolUse id name input::blocks) n d) s=
          (cut isApprovalRequest (dispatchBlock cfg (tools n) id name input d) s).andThen _ :=
        cut_bind_apply _ _ s
      rw [hdispatch,dispatchBeats]
      generalize cut isApprovalRequest (dispatchBlock cfg (tools n) id name input d) s=tr at hrun
      have hfate := hrun.fate
      have hblock := blockRun_scored hrun hran
      refine hblock.andThen (fun o ho => ?_) fun e he => ?_
      · rw [ho] at hfate
        cases o with
        | none =>
          rw [show blockFate cfg overrides (tools n) id name input=.overridden name input from hfate]
          exact scored_silent rfl rfl hblock.ended
        | some d' =>
          rw [show blockFate cfg overrides (tools n) id name input=.answered from hfate]
          exact ih (n+1) d' _ _ hblock.ended
      · rw [he] at hfate
        rw [show blockFate cfg overrides (tools n) id name input=stopFate e from hfate]
        rcases e with _|_|_ <;> rfl

/-- The blocks of a reply. -/
theorem dispatchBlocks_gathers (tools : Nat → InvokeEnv) (blocks : List SdkBlock)
    (n : Nat) (d : Dispatch) (s : TurnState) :
    Gathers cfg.rt s d (blocks.map blockToDict)
      (cut isApprovalRequest (dispatchBlocks cfg tools blocks n d) s) := by
  induction blocks generalizing n d s with
  | nil => exact gathers_nil d _
  | cons b blocks ih =>
    cases b with
    | text text | other type | dict block => exact (ih (n+1) d s).mono (List.sublist_cons_self _ _)
    | toolUse id name input =>
      have hrun := dispatchBlock_run hid hook (tools n) id name input d s
      have hdispatch : cut isApprovalRequest
          (dispatchBlocks cfg tools (.toolUse id name input::blocks) n d) s=
          (cut isApprovalRequest (dispatchBlock cfg (tools n) id name input d) s).andThen _ :=
        cut_bind_apply _ _ s
      rw [hdispatch]
      generalize cut isApprovalRequest (dispatchBlock cfg (tools n) id name input d) s=tr at hrun
      exact (blockRun_gathers hrun).step rfl fun d' _ => ih (n+1) d' _

variable (hkeeps : HookKeeps cfg overrides target)

include hkeeps

/-- A recorded reply and its beats. -/
theorem recordReply_scored (call : ModelCall) (m : FinalMessage)
    (s : TurnState) (l : Ledger) (hran : RanSince k s → l.pending=true) :
    Scored k l (replyBeats cfg overrides shown call m) s
      (cut isApprovalRequest (recordReply cfg call.tools m) s) := by
  rw [recordReply_run]
  unfold replyBeats
  split
  · have hdispatch : Scored k l (dispatchBeats cfg overrides shown call.tools m.content 0) _ _ :=
      dispatchBlocks_scored hid hook call.tools m.content 0 {} (s.append (assistantMessage m)) l hran
    have hends := dispatchBlocks_ends hid hook hkeeps call.tools m.content 0 {}
      (s.append (assistantMessage m))
    refine Scored.of_start (hdispatch.andThen (fun o ho => ?_) fun e he => ?_) rfl rfl
    · rw [ho] at hends
      cases o with
      | none =>
        obtain ⟨name,input,hover⟩ := hends
        rw [replyFate,hover]
        exact scored_silent rfl rfl hdispatch.ended
      | some d =>
        rw [replyFate,show dispatchFate cfg overrides call.tools m.content 0=.answered from hends]
        refine scored_noted ?_ ?_ hdispatch.ended
        · change (if d.toolResults=[] then _ else _ : TurnState).history=_
          split <;> rfl
        · change (if d.toolResults=[] then _ else _ : TurnState).invocations=_
          split <;> rfl
    · rw [he] at hends
      rw [replyFate,show dispatchFate cfg overrides call.tools m.content 0=stopFate e from hends]
      rcases e with _|_|_ <;> rfl
  · exact scored_silent rfl rfl hran

/-- A round and its beats. -/
theorem agentRound_scored (call : ModelCall) (s : TurnState) (l : Ledger)
    (hran : RanSince k s → l.pending=true) :
    Scored k l (roundBeats cfg overrides shown call) s
      (cut isApprovalRequest (agentRound cfg call) s) := by
  obtain ⟨evs,hlength,-,s',rfl,hrun⟩ := agentRound_run hid call s
  rw [hrun,roundBeats,← hlength]
  have hstream : Scored k l (.replicate evs.length .shown) s
      (⟨evs.map (·,s.logRequest (anthropicToolDefs cfg.rt cfg.toolNames)),
        streamExit (roundInput cfg call),s.logRequest (anthropicToolDefs cfg.rt cfg.toolNames)⟩ :
        Trace TurnState AgentEvent (Option Halt) _) :=
    ⟨by rw [marks_shown]; exact forall₂_shown evs rfl (List.prefix_refl _) hran,rfl,
      List.prefix_refl _,by rw [settle_shown]; exact hran⟩
  refine hstream.andThen (fun o ho => ?_) fun e he => ?_
  · cases hround : roundInput cfg call with
    | cancelled => rw [hround] at ho; cases ho
    | nothing =>
      rw [hround] at ho
      cases ho
      exact scored_silent rfl rfl hstream.ended
    | reply m =>
      rw [hround] at ho
      cases ho
      exact recordReply_scored hid hook hkeeps call m _ _ hstream.ended
  · cases hround : roundInput cfg call with
    | cancelled => rfl
    | nothing => rfl
    | reply m => rw [hround] at he; cases he

/-- A recorded reply notes its calls, or the dispatch was left midway. -/
theorem recordReply_settles (call : ModelCall) (m : FinalMessage)
    (s : TurnState) (hl : l.loose=false) :
    Settles cfg.rt l (replyBeats cfg overrides shown call m) s
      (cut isApprovalRequest (recordReply cfg call.tools m) s) := by
  have hscored : Scored s.invocations.length {} (replyBeats cfg overrides shown call m) s _ :=
    recordReply_scored hid hook hkeeps call m s {} fun h => absurd h (not_ranSince_self s)
  rw [recordReply_run] at hscored ⊢
  unfold replyBeats at hscored ⊢
  split at hscored
  · rename_i hstop
    rw [if_pos hstop,if_pos hstop]
    have hends := dispatchBlocks_ends hid hook hkeeps call.tools m.content 0 {}
      (s.append (assistantMessage m))
    have hgathers := dispatchBlocks_gathers hid hook call.tools m.content 0 {}
      (s.append (assistantMessage m))
    generalize cut isApprovalRequest (dispatchBlocks cfg call.tools m.content 0 {})
      (s.append (assistantMessage m))=tr at hscored hends hgathers
    obtain ⟨ys,exit,t⟩ := tr
    cases exit with
    | error e =>
      have hfate : replyFate cfg overrides call m=stopFate e := hends
      have hmessages : t.messages=s.messages++[assistantMessage m] := hgathers.halted e rfl
      have hquiet : .noted∉dispatchBeats cfg overrides shown call.tools m.content 0 :=
        dispatchBeats_unnoted call.tools m.content 0 fun name input hover => by
          rw [show dispatchFate cfg overrides call.tools m.content 0=stopFate e from hends] at hover
          rcases e with _|_|_ <;> cases hover
      have hnone : (match replyFate cfg overrides call m with
          | .answered => [Beat.noted]
          | _ => [])=[] := by
        rw [hfate]
        rcases e with _|_|_ <;> rfl
      rw [hnone,List.append_nil] at hscored ⊢
      exact ⟨⟨_,hmessages⟩,fun hloose => notes_idle hscored.log ⟨_,hmessages⟩
        (hscored.idle hquiet hl hloose) _,fun a ha => (by cases ha)⟩
    | ok o =>
      cases o with
      | none =>
        obtain ⟨name,input,hover⟩ := hends
        obtain ⟨is,results,hlog,hmessages,hbacked⟩ := hgathers.taken rfl
        have hmessages' : t.messages=s.messages++[assistantMessage m,⟨.user,results⟩] :=
          hmessages.trans (List.append_assoc _ _ _)
        have hclean : ∀ bs : List Beat,bs=[] → (settle l
            (dispatchBeats cfg overrides shown call.tools m.content 0++bs)).loose=false := by
          rintro _ rfl
          rw [List.append_nil]
          exact dispatchBeats_taken call.tools m.content 0 l hover
        refine ⟨⟨_,hmessages'⟩,fun _ => ⟨is,_,hlog,hmessages',?_⟩,fun _ _ => hclean _ ?_⟩
        · rw [assistantBlocks_reply,userBlocks_reply]
          change Backed cfg.rt is ((ys++[]).map Prod.fst) _ _
          rw [List.append_nil]
          exact hbacked
        · rw [replyFate,hover]
      | some d =>
        have hfate : replyFate cfg overrides call m=.answered := hends
        obtain ⟨is,results,hlog,hmessages,hresults,hbacked⟩ := hgathers.collected d rfl
        have hresults' : d.toolResults=results := hresults
        have hnoted : Notes cfg.rt s (ys.map Prod.fst)
            (if d.toolResults=[] then t else t.append ⟨.user,d.toolResults⟩) :=
          notes_reply m hlog hmessages (hresults' ▸ hbacked)
        rw [hfate,andThen_ok]
        refine ⟨?_,fun _ => ?_,fun _ _ => ?_⟩
        · obtain ⟨-,new,-,hnew,-⟩ := hnoted
          exact ⟨new,hnew⟩
        · change Notes cfg.rt s ((ys++[]).map Prod.fst) _
          rw [List.append_nil]
          exact hnoted
        · rw [settle_append]
          rfl
  · rename_i hstop
    rw [if_neg hstop,if_neg hstop]
    have hnotes : Notes cfg.rt s [] (s.append (assistantMessage m)) := 
      notes_still (s:=s) (t:=s.append (assistantMessage m)) rfl ⟨_,rfl⟩ []
    exact ⟨⟨_,rfl⟩,fun _ => hnotes,fun _ _ => hl⟩

/-- A round notes its calls, or its dispatch was left midway. -/
theorem agentRound_settles (call : ModelCall) (s : TurnState)
    (hl : l.loose=false) :
    Settles cfg.rt l (roundBeats cfg overrides shown call) s
      (cut isApprovalRequest (agentRound cfg call) s) := by
  obtain ⟨evs,-,-,s',rfl,hrun⟩ := agentRound_run hid call s
  rw [hrun,roundBeats]
  have hafter : (settle l (.replicate (streamShown cfg call) .shown)).loose=false := by
    rw [settle_shown]
    exact hl
  have hstream : Settles cfg.rt l (.replicate (streamShown cfg call) .shown) s
      (⟨evs.map (·,s.logRequest (anthropicToolDefs cfg.rt cfg.toolNames)),
        streamExit (roundInput cfg call),s.logRequest (anthropicToolDefs cfg.rt cfg.toolNames)⟩ :
        Trace TurnState AgentEvent (Option Halt) _) := settles_quiet _ _ rfl rfl hafter
  refine hstream.andThen (fun o ho => ?_) fun e he => ?_
  · cases hround : roundInput cfg call with
    | cancelled => rw [hround] at ho; cases ho
    | nothing =>
      rw [hround] at ho
      cases ho
      exact settles_quiet _ _ rfl rfl hafter
    | reply m =>
      rw [hround] at ho
      cases ho
      exact recordReply_settles hid hook hkeeps call m _ hafter
  · cases hround : roundInput cfg call with
    | cancelled => rfl
    | nothing => rfl
    | reply m => rw [hround] at he; cases he

end Replies

/-- A loop and its beats. -/
theorem agentLoop_scored (cfg : LoopConfig) {target : String → Dict → Option Handoff}
    (hid : stripWhitespace cfg.turnId≠"") (hook : HookShows cfg overrides shown)
    (hkeeps : HookKeeps cfg overrides target) (calls : Nat → ModelCall) (left n : Nat)
    (s : TurnState) (l : Ledger) (hran : RanSince k s → l.pending=true) :
    Scored k l (loopBeats cfg overrides shown calls left n) s
      (cut isApprovalRequest (agentLoop cfg calls left n) s) := by
  induction left generalizing n s l with
  | zero => exact scored_silent rfl rfl hran
  | succ left ih =>
    have hloop : cut isApprovalRequest (agentLoop cfg calls (left+1) n) s=
        (cut isApprovalRequest (agentRound cfg (calls n)) s).andThen _ := cut_bind_apply _ _ s
    have hagain := agentRound_again hid hook hkeeps (calls n) s
    have hround := agentRound_scored hid hook hkeeps (calls n) s l hran
    rw [hloop,loopBeats]
    refine hround.andThen (fun again ha => ?_) fun e he => ?_
    · rw [ha] at hagain
      cases again with
      | true =>
        rw [if_pos (hagain.mp rfl)]
        exact ih (n+1) _ _ hround.ended
      | false =>
        rw [if_neg fun h => by cases hagain.mpr h]
        exact scored_silent rfl rfl hround.ended
    · rw [he] at hagain
      exact if_neg fun h => by cases hagain.mpr h

/-- A loop notes its calls, or its last dispatch was left midway. -/
theorem agentLoop_settles (cfg : LoopConfig) {target : String → Dict → Option Handoff}
    (hid : stripWhitespace cfg.turnId≠"") (hook : HookShows cfg overrides shown)
    (hkeeps : HookKeeps cfg overrides target) (calls : Nat → ModelCall) (left n : Nat)
    (s : TurnState) (hl : l.loose=false) :
    Settles cfg.rt l (loopBeats cfg overrides shown calls left n) s
      (cut isApprovalRequest (agentLoop cfg calls left n) s) := by
  induction left generalizing n s l with
  | zero => exact settles_quiet _ _ rfl rfl hl
  | succ left ih =>
    have hloop : cut isApprovalRequest (agentLoop cfg calls (left+1) n) s=
        (cut isApprovalRequest (agentRound cfg (calls n)) s).andThen _ := cut_bind_apply _ _ s
    have hagain := agentRound_again hid hook hkeeps (calls n) s
    have hround := agentRound_settles hid hook hkeeps (calls n) s hl
    rw [hloop,loopBeats]
    refine hround.andThen (fun again ha => ?_) fun e he => ?_
    · have hclean := hround.returned again ha
      rw [ha] at hagain
      cases again with
      | true =>
        rw [if_pos (hagain.mp rfl)]
        exact ih (n+1) _ hclean
      | false =>
        rw [if_neg fun h => by cases hagain.mpr h]
        exact settles_quiet _ _ rfl rfl hclean
    · rw [he] at hagain
      exact if_neg fun h => by cases hagain.mpr h

/-! ## Writing the copies back -/

/-- Leaving here forgets nothing, when nothing is pending. -/
def Safe (rt : Runtime) (before : List Message) (evs : List AgentEvent) (t : TurnState)
    (m : Ledger) : Prop := m.pending=false → Remembered rt before evs t

variable {before : List Message} {evs fvs : List AgentEvent} {u : TurnState}

/-- What was remembered stays so while no further handler is executed. -/
theorem Remembered.later (h : Remembered rt before evs s) (hhistory : t.history=s.history)
    (hlog : s.invocations <+: t.invocations) (hidle : ¬RanSince s.invocations.length t)
    (hevs : evs.Sublist fvs) : Remembered rt before fvs t := by
  obtain ⟨new,hnew,hbacked⟩ := h
  obtain ⟨is,his⟩ := hlog
  have hrest : ∀ i∈is,¬i.report.handlerRan := fun i hi hran => hidle ⟨i,by
    rw [← his,List.drop_left]
    exact hi,hran⟩
  refine ⟨new,hhistory.trans hnew,?_⟩
  rw [← his]
  have hboth := hbacked.append (backed_idle hrest [] [] [])
  rw [List.append_nil,List.append_nil,List.append_nil] at hboth
  exact hboth.mono hevs (List.Sublist.refl _) (List.Sublist.refl _)

/-- A copy that notes its calls is written back. -/
theorem Remembered.keep (h : Remembered rt before evs s) (hnotes : Notes rt s fvs t)
    (hlog : u.invocations=t.invocations)
    (hkept : ∀ new,t.messages=s.messages++new → u.history=s.history++new) :
    Remembered rt before (evs++fvs) u := by
  obtain ⟨new,hnew,hbacked⟩ := h
  obtain ⟨is,more,his,hmore,hbacked'⟩ := hnotes
  refine ⟨new++more,?_,?_⟩
  · rw [hkept more hmore,hnew,List.append_assoc]
  · rw [hlog,his,blocksOf_append,blocksOf_append]
    exact hbacked.append hbacked'

theorem Remembered.mono (h : Remembered rt before evs s) (hevs : evs.Sublist fvs) :
    Remembered rt before fvs s := by
  obtain ⟨new,hnew,hbacked⟩ := h
  exact ⟨new,hnew,hbacked.mono hevs (List.Sublist.refl _) (List.Sublist.refl _)⟩

theorem Safe.mono {m : Ledger} (h : Safe rt before evs t m) (hevs : evs.Sublist fvs) :
    Safe rt before fvs t m := fun hpending => (h hpending).mono hevs

/-- Leaving a loop midway is safe where nothing is pending. -/
theorem Scored.watched (h : Scored s.invocations.length l bs s tr) (hr : Remembered rt before evs s) :
    Watched (Safe rt before) evs tr.yields (marks l bs) := by
  refine watched_of_forall₂ h.yields fun fs y m hfs hy hpending => ?_
  refine hr.later hy.1 hy.2.1 (fun hran => ?_) hfs.sublist
  rw [hy.2.2 hran] at hpending
  cases hpending

/-- So is leaving it where it ended. -/
theorem Scored.safe (h : Scored s.invocations.length l bs s tr) (hr : Remembered rt before evs s)
    (hevs : evs.Sublist fvs) : Safe rt before fvs tr.state (settle l bs) := by
  intro hpending
  refine hr.later h.history h.log (fun hran => ?_) hevs
  rw [h.ended hran] at hpending
  cases hpending

/-- Once the copy is written back, only what was left loose is pending. -/
theorem loose_of_kept {m : Ledger} (h : (m.step .kept).pending=false) : m.loose=false := by
  rw [Ledger.step,Ledger.pending,Bool.or_false] at h
  exact h

/-! ## The turn -/

section Turn

variable {org : Orchestrator} {session : Session} {ctx : ToolContext} {env : TurnEnv}
variable {turnId userMessage : String}

/-- How a body ended says what its loop's fate was. -/
def Ended (body : Trace TurnState AgentEvent (Option Halt) Unit) (fate : Fate) : Prop :=
  match body.exit with
  | .ok _ => fate=.answered ∨ ∃ name input,fate=.overridden name input
  | .error k => fate=stopFate k

variable {body : Trace TurnState AgentEvent (Option Halt) Unit} {fate : Fate}

theorem Ended.of_ok (h : Ended body fate) (hexit : body.exit=.ok ()) :
    fate=.answered ∨ ∃ name input,fate=.overridden name input := by
  unfold Ended at h
  rw [hexit] at h
  exact h

theorem Ended.of_error (h : Ended body fate) {k : Option Halt} (hexit : body.exit=.error k) :
    fate=stopFate k := by
  unfold Ended at h
  rw [hexit] at h
  exact h

/-- An exception is shown once, and nothing else is. -/
theorem Ended.reportBeats (h : Ended body fate) :
    reportBeats fate=.replicate (reportCount body.exit) .shown := by
  cases hexit : body.exit with
  | error k =>
    rw [h.of_error hexit]
    rcases k with _|_|_ <;> rfl
  | ok a => rcases h.of_ok hexit with rfl|⟨name,input,rfl⟩ <;> rfl

theorem Ended.cancelled_iff (h : Ended body fate) :
    body.exit=.error (some .cancelled) ↔ fate=.cancelled := by
  cases hexit : body.exit with
  | error k =>
    rw [h.of_error hexit]
    rcases k with _|_|_ <;> simp [stopFate]
  | ok a => rcases h.of_ok hexit with rfl|⟨name,input,rfl⟩ <;> simp

theorem Ended.finished_iff (h : Ended body fate) : body.exit=.ok () ↔ fate.finished=true := by
  cases hexit : body.exit with
  | error k =>
    rw [h.of_error hexit]
    rcases k with _|_|_ <;> simp [stopFate,Fate.finished]
  | ok a => rcases h.of_ok hexit with rfl|⟨name,input,rfl⟩ <;> simp [Fate.finished]

variable {reports : List AgentEvent}

/-- The orchestrator's phase is left safely wherever nothing is pending, and
a handoff leaves nothing pending at all. -/
theorem orchestratorRun_safe (hid : stripWhitespace turnId≠"") (hr : Remembered org.rt before [] s)
    (hmessages : s.messages=s.history) (hbody : body=orchestratorRun org ctx session turnId env s)
    (hlength : reports.length=reportCount body.exit) :
    Watched (Safe org.rt before) [] (body.yields++reports.map (·,body.state))
        (marks {} (orchestratorBeats org ctx session turnId env)) ∧
      (body.exit=.error (some .cancelled) → Safe org.rt before body.events body.state
        (settle {} (orchestratorBeats org ctx session turnId env))) ∧
      (body.exit≠.error (some .cancelled) → ∀ fs,body.events <+: fs →
        Safe org.rt before fs (synced body.state)
          (settle {} (orchestratorBeats org ctx session turnId env))) ∧
      (handoffTarget org ctx session turnId env≠none →
        (settle {} (orchestratorBeats org ctx session turnId env)).pending=false) := by
  have hscored : Scored s.invocations.length {} _ s (orchestratorRun org ctx session turnId env s) :=
    agentLoop_scored (orchestratorLoop org ctx session turnId) hid (onToolUse_shows hid)
      (onToolUse_keeps hid) env.orchestratorCalls maxToolLoops 0 s {}
      fun h => absurd h (not_ranSince_self s)
  have hsettles : Settles org.rt {} _ s (orchestratorRun org ctx session turnId env s) :=
    agentLoop_settles (orchestratorLoop org ctx session turnId) hid (onToolUse_shows hid)
      (onToolUse_keeps hid) env.orchestratorCalls maxToolLoops 0 s rfl
  rw [← hbody] at hscored hsettles
  have hends := ends_of_agentLoop (orchestratorLoop org ctx session turnId) hid
    (onToolUse_shows hid) (onToolUse_keeps hid) env.orchestratorCalls maxToolLoops 0 hbody
  rw [show loopFate (orchestratorLoop org ctx session turnId) orchestratorOverrides
    env.orchestratorCalls maxToolLoops 0=orchestratorFate org ctx session turnId env from rfl] at hends
  have hfate : Ended body (orchestratorFate org ctx session turnId env) := hends
  unfold orchestratorBeats
  generalize loopBeats (orchestratorLoop org ctx session turnId) orchestratorOverrides
    (orchestratorShown org) env.orchestratorCalls maxToolLoops 0=bs at hscored hsettles
  rw [hfate.reportBeats,← hlength]
  have hcopied : body.exit≠.error (some .cancelled) →
      (match orchestratorFate org ctx session turnId env with
        | .cancelled => []
        | _ => [Beat.kept])=[.kept] := fun hexit => by
    have hnot := hfate.cancelled_iff.not.mp hexit
    cases h : orchestratorFate org ctx session turnId env with
    | cancelled => exact absurd h hnot
    | answered => rfl
    | overridden name input => rfl
    | raised => rfl
    | paused => rfl
  have hunmarked : ∀ l : Ledger,marks l (match orchestratorFate org ctx session turnId env with
      | .cancelled => []
      | _ => [Beat.kept])=[] := fun l => by
    split <;> rfl
  refine ⟨?_,fun hexit => ?_,fun hexit fs hfs => ?_,fun htarget => ?_⟩
  · rw [marks_append,marks_append,marks_shown,hunmarked,List.append_nil]
    exact (hscored.watched hr).append (watched_shown reports fun fs hfs =>
      hscored.safe hr (List.nil_sublist _))
  · rw [hfate.cancelled_iff.mp hexit,settle_append,settle_append,settle_shown]
    exact hscored.safe hr (List.nil_sublist _)
  · rw [hcopied hexit,settle_append,settle_append,settle_shown]
    intro hpending
    have hnotes := hsettles.notes (loose_of_kept hpending)
    have hkept := hr.keep (u:=synced body.state) hnotes rfl fun new hnew => by
      change syncHistory body.state.history body.state.messages=_
      rw [hscored.history,hnew,hmessages,syncHistory_append]
    exact hkept.mono hfs.sublist
  · -- A handoff ends a loop that returned: every reply of it was noted.
    have hfinished : (orchestratorFate org ctx session turnId env).finished=true := by
      unfold handoffTarget at htarget
      cases h : orchestratorFate org ctx session turnId env with
      | overridden name input => rfl
      | answered => rfl
      | raised | paused | cancelled => rw [h] at htarget; exact absurd rfl htarget
    have hexit := hfate.finished_iff.mpr hfinished
    rw [hcopied (by rw [hexit]; exact nofun),settle_append,settle_append,settle_shown]
    change ((settle {} bs).loose || false)=false
    rw [hsettles.returned () hexit]
    rfl

/-- A domain agent's phase is left safely wherever nothing is pending. -/
theorem domainRun_safe (hid : stripWhitespace ctx.turnId≠"") {agent : DomainAgent} {goal : String}
    {es : List AgentEvent} (hr : Remembered org.rt before es s) (hl : l.pending=false)
    (hbody : body=domainRun org agent ctx session goal userMessage env s)
    (hlength : reports.length=reportCount body.exit) :
    Watched (Safe org.rt before) es (body.yields++reports.map (·,spliced body))
        (marks l (domainBeats org ctx session env agent)) ∧
      Safe org.rt before (es++(body.yields++reports.map (·,spliced body)).map Prod.fst)
        (spliced body) (settle l (domainBeats org ctx session env agent)) := by
  -- The agent works on a copy with its seed; what counts of the start is unchanged.
  generalize hstart : ({s with messages := s.history++[seedMessage goal userMessage]} : TurnState)=
    start
  have hrstart : Remembered org.rt before es start := hstart ▸ hr
  have hmessages : start.messages=start.history++[seedMessage goal userMessage] := hstart ▸ rfl
  have hloose : l.loose=false := (Bool.or_eq_false_iff.mp hl).1
  have hrun : body=cut isApprovalRequest
      (agentLoop (domainLoop org agent ctx session) env.domainCalls maxToolLoops 0) start :=
    hstart ▸ hbody
  have hscored := agentLoop_scored (domainLoop org agent ctx session) hid (domain_shows agent)
    (domain_keeps agent) env.domainCalls maxToolLoops 0 start l
    fun h => absurd h (not_ranSince_self start)
  have hsettles := agentLoop_settles (domainLoop org agent ctx session) hid (domain_shows agent)
    (domain_keeps agent) env.domainCalls maxToolLoops 0 start hloose
  have hends := ends_of_agentLoop (domainLoop org agent ctx session) hid (domain_shows agent)
    (domain_keeps agent) env.domainCalls maxToolLoops 0 hrun
  rw [← hrun] at hscored hsettles
  have hfate : Ended body (loopFate (domainLoop org agent ctx session) (fun _ => false)
    env.domainCalls maxToolLoops 0) := hends
  unfold domainBeats
  generalize loopBeats (domainLoop org agent ctx session) (fun _ => false) (fun _ _ => 0)
    env.domainCalls maxToolLoops 0=bs at hscored hsettles
  generalize loopFate (domainLoop org agent ctx session) (fun _ => false) env.domainCalls
    maxToolLoops 0=fate at hfate
  rw [hfate.reportBeats,← hlength]
  cases hexit : body.exit with
  | ok a =>
    have hnone : reports=[] := by
      rw [hexit] at hlength
      exact List.length_eq_zero_iff.mp hlength
    have hspliced : spliced body={body.state with
        history := spliceDomain body.state.history body.state.messages} := by
      rw [spliced,hexit]
    subst hnone
    rw [if_pos (hfate.finished_iff.mp hexit),List.map_nil,List.append_nil,List.length_nil,
      List.replicate_zero,List.append_nil]
    refine ⟨?_,?_⟩
    · rw [marks_append]
      change Watched _ _ _ (_++[])
      rw [List.append_nil]
      exact hscored.watched hrstart
    · rw [settle_append,hspliced]
      intro hpending
      refine hrstart.keep (hsettles.notes (loose_of_kept hpending)) rfl fun new hnew => ?_
      change spliceDomain body.state.history body.state.messages=_
      rw [hscored.history,hnew,hmessages,spliceDomain_append]
  | error k =>
    have hspliced : spliced body=body.state := by rw [spliced,hexit]
    have hnot : ¬fate.finished=true := fun h => by
      rw [hfate.finished_iff.mpr h] at hexit
      cases hexit
    rw [if_neg hnot,List.append_nil,hspliced]
    refine ⟨?_,?_⟩
    · rw [marks_append,marks_shown]
      refine (hscored.watched hrstart).append (watched_shown reports fun fs hfs => ?_)
      exact hscored.safe hrstart ((List.prefix_append _ _).trans hfs).sublist
    · rw [settle_append,settle_shown]
      exact hscored.safe hrstart (List.sublist_append_left _ _)

/-- What is shown after a body leaves what the body showed in front. -/
theorem events_initial {κ α : Type} (body : Trace TurnState AgentEvent κ α)
    (ys : List (AgentEvent × TurnState)) : body.events <+: (body.yields++ys).map Prod.fst := by
  rw [Trace.events,List.map_append]
  exact List.prefix_append _ _

/-- What a turn shows and leaves behind its gates is safe wherever nothing is
pending. -/
theorem turnPhases_safe (org : Orchestrator) (session : Session) (userMessage : String)
    (hturn : ctx.turnId=newTurnId env.seed) :
    Watched (Safe org.rt session.messageHistory) []
        (turnPhases org session userMessage ctx env {history := session.messageHistory}).yields
        (marks {} (phaseBeats org ctx session (newTurnId env.seed) env)) ∧
      ∀ fs,(turnPhases org session userMessage ctx env
          {history := session.messageHistory}).events <+: fs →
        Safe org.rt session.messageHistory fs (turnPhases org session userMessage ctx env
          {history := session.messageHistory}).state
          (settle {} (phaseBeats org ctx session (newTurnId env.seed) env)) := by
  have hid := newTurnId_nonblank env.seed
  have hctx : stripWhitespace ctx.turnId≠"" := by
    rw [hturn]
    exact hid
  have hrun : PhasesRun org session ctx (newTurnId env.seed) userMessage env _
    (turnPhases org session userMessage ctx env {history := session.messageHistory}) :=
      turnPhases_run _
  generalize turnPhases org session userMessage ctx env {history := session.messageHistory}=tr at hrun
  generalize hbegun : TurnState.beginTurn {history := session.messageHistory} userMessage=s at hrun
  generalize hbody : orchestratorRun org ctx session (newTurnId env.seed) env s=body at hrun
  have hr : Remembered org.rt session.messageHistory [] s :=
    ⟨[userTurn userMessage],hbegun ▸ rfl,hbegun ▸ backed_nil _ _ _⟩
  have hmessages : s.messages=s.history := hbegun ▸ rfl
  unfold phaseBeats
  cases hrun with
  | cancelled hexit htarget =>
    have hnone : ([] : List AgentEvent).length=reportCount body.exit := by rw [hexit]; rfl
    obtain ⟨hwatched,hsafe,-,-⟩ := orchestratorRun_safe hid hr hmessages hbody.symm hnone
    rw [htarget,List.append_nil]
    rw [List.map_nil,List.append_nil] at hwatched
    exact ⟨hwatched,fun fs hfs => (hsafe hexit).mono hfs.sublist⟩
  | alone evs x hexit hlength hkinds htarget =>
    obtain ⟨hwatched,-,hsafe,-⟩ := orchestratorRun_safe hid hr hmessages hbody.symm hlength
    rw [htarget,List.append_nil]
    exact ⟨hwatched,fun fs hfs => hsafe hexit fs ((events_initial body _).trans hfs)⟩
  | lost evs report x target hexit hlength hkinds hreport htarget hagent =>
    obtain ⟨hwatched,-,hsafe,-⟩ := orchestratorRun_safe hid hr hmessages hbody.symm hlength
    rw [htarget]
    dsimp only
    rw [hagent]
    have hreported := watched_shown (m:=settle {} (orchestratorBeats org ctx session
      (newTurnId env.seed) env)) [report] fun fs hfs =>
        hsafe hexit fs ((events_initial body (evs.map (·,body.state))).trans hfs)
    refine ⟨?_,fun fs hfs => ?_⟩
    · rw [marks_append]
      exact hwatched.append hreported
    · rw [settle_append]
      refine hsafe hexit fs (List.IsPrefix.trans ?_ hfs)
      rw [Trace.events,List.append_assoc]
      exact events_initial body _
  | handed evs reports x target agent domain hexit hlength hkinds htarget hagent hdomain hreports
      hkinds' =>
    obtain ⟨hwatched,-,hsafe,hhandoff⟩ := orchestratorRun_safe hid hr hmessages hbody.symm hlength
    have hclean := hhandoff (by rw [htarget]; exact Option.some_ne_none _)
    have hkept := hsafe hexit _ (events_initial body (evs.map (·,body.state))) hclean
    obtain ⟨hwatched',hsafe'⟩ := domainRun_safe hctx hkept hclean hdomain hreports
    rw [htarget]
    dsimp only
    rw [hagent]
    refine ⟨?_,fun fs hfs => ?_⟩
    · rw [marks_append]
      exact hwatched.append hwatched'
    · rw [settle_append]
      rw [Trace.events,List.map_append] at hfs
      exact hsafe'.mono hfs.sublist

/-- Wherever a turn is left with nothing pending, its part of the history
holds every executed call and the outcome reported for it. -/
theorem executed_remembered (org : Orchestrator) (session : Session) (userMessage : String)
    (approvals : Option (Table String Bool)) (actorRole : String) (env : TurnEnv)
    (stop : Option Nat)
    (h : (leftAt (turnBeats org (turnContext session (newTurnId env.seed) approvals actorRole)
      session (newTurnId env.seed) env) stop).pending=false) :
    Remembered org.rt session.messageHistory
      (turnTaken org session userMessage approvals actorRole env stop).1
      (turnTaken org session userMessage approvals actorRole env stop).2 := by
  by_cases hgates : GatesPassed env
  · have hturn := turnContext_turnId session env.seed approvals actorRole
    obtain ⟨closing,-,hrun⟩ := runTurn_run org session userMessage approvals actorRole hgates
    generalize turnContext session (newTurnId env.seed) approvals actorRole=ctx at hturn hrun h
    have hbeats : turnBeats org ctx session (newTurnId env.seed) env=
        phaseBeats org ctx session (newTurnId env.seed) env := by
      rw [turnBeats,hgates.1,hgates.2]
    rw [hbeats] at h
    obtain ⟨hwatched,hsafe⟩ := turnPhases_safe org session userMessage hturn
    unfold turnTaken
    rw [hrun]
    generalize turnPhases org session userMessage ctx env {history := session.messageHistory}=tr
      at hwatched hsafe
    obtain ⟨ys,exit,t⟩ := tr
    cases exit with
    | ok a =>
      have hend := hsafe _ (events_initial ⟨ys,.ok a,t⟩ [(closing,t)])
      refine taken_of_watched (J:=Safe org.rt session.messageHistory)
        (t:=⟨ys++[(closing,t)],.ok (),t⟩) rfl hwatched (fun fs z hz hfs => ?_) hend stop h
      rw [List.mem_singleton.mp hz]
      exact hsafe fs hfs
    | error k =>
      have hsplit : ys=ys++[] := (List.append_nil ys).symm
      exact taken_of_watched (J:=Safe org.rt session.messageHistory) (t:=⟨ys,.error k,t⟩) hsplit
        hwatched (fun _ _ hz => absurd hz List.not_mem_nil) (hsafe _ (List.prefix_refl _)) stop h
  · -- A turn a gate stops leaves the session as it was.
    rw [state_of_stopped org session userMessage approvals actorRole stop hgates]
    exact ⟨[],(List.append_nil _).symm,backed_nil _ _ _⟩

end Turn

/-! ## A reservation read before a ticket is asked for -/

/-- Input schema of `read_pnr`. -/
def readPnrSchema : Json :=
  .obj [("$schema",.str "https://json-schema.org/draft/2020-12/schema"),("type",.str "object"),
    ("required",.arr [.str "locator"]),
    ("properties",.obj [("locator",.obj [("type",.str "string"),("minLength",.int 1)])]),
    ("additionalProperties",.bool false)]

/-- The `read_pnr` tool: it needs no approval. -/
def readPnr : ToolSpec :=
  {name := "read_pnr"
   inputSchema := readPnrSchema
   name_bare := by decide}

/-- What the schema validator answers on `readPnrSchema`. -/
def readPnrCheck : Dict → SchemaVerdict
  | [("locator",.str s)] => if s="" then .invalid "'' should be non-empty" else .valid
  | _ => .invalid "'locator' is a required property"

/-- The ticket desk with both tools. -/
def lookupDesk : Runtime :=
  {ticketDesk with
    registry := ⟨[("read_pnr",readPnr),("issue_ticket",issueTicket)],fun k spec h => by
      simp only [get_cons,get_nil] at h
      split at h
      · rename_i hk
        cases h
        exact hk
      · split at h
        · rename_i hk
          cases h
          exact hk
        · cases h⟩
    validate := fun input schema =>
      if schema=readPnrSchema then readPnrCheck input else issueTicketCheck input}

def lookupOrchestrator : Orchestrator := ⟨lookupDesk,["ticketing_visa"]⟩

/-- A model call that delivers one reply, with a reservation system behind it. -/
def lookupCall (m : FinalMessage) : ModelCall :=
  {attempts := fun _ => ⟨[.messageStop (some m)],none⟩
   tools := fun _ =>
     {auditId := "01900000-0000-7000-8000-0000000000aa"
      handler := fun _ => .returned (.dict [("pnr_id",.str "PNR-1")])}}

/-- A reservation looked up by its locator. -/
def lookupBlock : SdkBlock := .toolUse "toolu_02" "read_pnr" [("locator",.str "ABC123")]

/-- A ticket asked for. -/
def ticketBlock : SdkBlock := .toolUse "toolu_03" "issue_ticket" [("pnr_id",.str "PNR-1")]

/-- A turn handed to ticketing, whose agent sends the given reply and then
says it is done. -/
def lookupTurn (blocks : List SdkBlock) : TurnEnv :=
  {routedTurn [ticketingHandoff "toolu_01"] with
    domainCalls := fun n =>
      if n=0 then lookupCall ⟨some "tool_use",blocks⟩
      else lookupCall ⟨some "end_turn",[.text "Done"]⟩}

/-- The turn as its consumer finds it at its end. -/
def lookupTaken (blocks : List SdkBlock) : List AgentEvent × TurnState :=
  turnTaken lookupOrchestrator deskSession "Issue PNR-1" none "ticketing_lead" (lookupTurn blocks)
    none

/-- A lookup on its own is remembered. -/
theorem executed_remembered_lookup :
    (∃ i∈(lookupTaken [lookupBlock]).2.invocations,i.report.handlerRan) ∧
      Remembered lookupOrchestrator.rt deskSession.messageHistory (lookupTaken [lookupBlock]).1
        (lookupTaken [lookupBlock]).2 :=
  ⟨by decide +kernel,executed_remembered lookupOrchestrator deskSession "Issue PNR-1" none
    "ticketing_lead" (lookupTurn [lookupBlock]) none (by decide +kernel)⟩

/-- The tool a block calls. -/
def calledTool? : Block → Option String
  | .toolUse _ name _ => some name
  | _ => none

/-- Remembered calls are found by name, in order. -/
theorem Backed.names {uses results : List Block} (h : Backed rt is evs uses results) :
    ((executed is).map Invocation.name).Sublist (uses.filterMap calledTool?) := by
  obtain ⟨ms,hcalls,-,huses,-⟩ := h
  have hnames : (ms.map Memory.use).filterMap calledTool?=(executed is).map Invocation.name := by
    rw [List.filterMap_map,← hcalls,List.map_map,← List.filterMap_eq_map]
    rfl
  rw [← hnames]
  exact huses.filterMap calledTool?

/-- The reservation was read and reported, but the ticket asked for in the
same reply paused the turn: the history knows of neither. -/
theorem lookup_forgotten :
    (∃ i∈(lookupTaken [lookupBlock,ticketBlock]).2.invocations,i.name="read_pnr" ∧
      i.report.handlerRan) ∧
    ¬Remembered lookupOrchestrator.rt deskSession.messageHistory
      (lookupTaken [lookupBlock,ticketBlock]).1 (lookupTaken [lookupBlock,ticketBlock]).2 := by
  refine ⟨by decide +kernel,fun ⟨new,hnew,hbacked⟩ => ?_⟩
  have hall : (lookupTaken [lookupBlock,ticketBlock]).2.history=new := hnew
  have hnames := hbacked.names
  rw [← hall] at hnames
  exact absurd hnames (by decide +kernel)

end Voyagent.ExecutedCalls
