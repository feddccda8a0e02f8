import Voyagent.TurnRequests

/-!
# Relations a turn keeps

A composable relation that holds of every instruction of a turn holds along
the whole turn. The instructions that append a message are asked of the
messages of a class only, so the class has to contain the user's message, the
tool results and the replies the model gives.
-/

namespace Voyagent.TurnRelations

open RuntimeValues KeyedMap AgentEvents SessionTranscript ToolInvocation
open GeneratorTraces GeneratorRelations AgentLoop Sessions OrchestratorTurn TurnRequests

def Block.IsToolResult (b : Block) : Prop := ∃ id content err,b=.toolResult id content err

/-- The relation holds of every instruction of a turn, with messages of a class. -/
structure Kept (J : TurnState → List AgentEvent → TurnState → Prop) (M : Message → Prop) :
    Prop where
  composable : Composable J
  event : ∀ s ev,J s [ev] s
  call : ∀ s i,J s [] (s.logCall i)
  request : ∀ s tools,J s [] (s.logRequest tools)
  handoff : ∀ s target,J s [] {s with handoffTarget := some target}
  message : ∀ s m,M m → J s [] (s.append m)
  results : ∀ rs : List Block,rs≠[] → (∀ b∈rs,Block.IsToolResult b) → M ⟨.user,rs⟩
  /-- The splices of the transcripts into the history. -/
  sync : ∀ s,J s [] {s with history := syncHistory s.history s.messages}
  splice : ∀ s,J s [] {s with history := spliceDomain s.history s.messages}
  seed : ∀ s goal userMessage,
    J s [] {s with messages := s.history++[seedMessage goal userMessage]}

/-- The reply a model call ends with, if any. -/
def receivedReply (sessionId turnId : String) (call : ModelCall) : Option FinalMessage :=
  match streamCall sessionId turnId call.attempts with
  | .streamed st => st.finalMessage.or call.lastFinalMessage
  | _ => none

/-- Every reply among the calls is of the class. -/
def RepliesIn (M : Message → Prop) (sessionId turnId : String) (calls : Nat → ModelCall) : Prop :=
  ∀ n m,receivedReply sessionId turnId (calls n)=some m → M (assistantMessage m)

variable {J : TurnState → List AgentEvent → TurnState → Prop} {M : Message → Prop}
variable {cfg : LoopConfig} {org : Orchestrator} {session : Session} {env : TurnEnv}
variable {ctx : ToolContext} {turnId userMessage : String}

variable {P : TurnState → Prop} {α : Type} {Q : α → Prop} {g : TurnGen α}

/-- What a relation preserves is an invariant of the body. -/
theorem sat_of_along (hg : Along J g Q) (hP : ∀ s evs t,J s evs t → P s → P t) :
    Sat P g (fun _ => P) (fun _ => P) fun _ => P := by
  intro s hs
  obtain ⟨htraced,-⟩ := hg s
  have hend : P (g s).state := hP _ _ _ htraced.ended hs
  refine ⟨fun y hy => ?_,?_⟩
  · obtain ⟨pre,post,hsplit⟩ := List.append_of_mem hy
    exact hP _ _ _ (htraced.yields pre y post hsplit) hs
  · cases (g s).exit with
    | ok a => exact hend
    | error k => exact hend

section Turn

variable (hJ : Kept J M)
include hJ

theorem emitBuilt_kept (f : AgentEventFields) : Along J (emitBuilt f) fun _ => True :=
  Along.bind hJ.composable (Along.ofExcept hJ.composable (Q:=fun _ => True) fun _ _ => trivial)
    fun ev _ => Along.emit fun s => hJ.event s ev

/-! ## The loop -/

variable {d : Dispatch}

/-- Settling an answer adds one tool result. -/
theorem settleOutcome_kept (id name : String) (o : ToolInvocationOutcome)
    (hd : ∀ b∈d.toolResults,Block.IsToolResult b) :
    Along J (settleOutcome cfg id name o d) fun d' => ∀ b∈d'.toolResults,Block.IsToolResult b := by
  have hadd : ∀ content err,∀ b∈d.toolResults++[Block.toolResult id content err],
      Block.IsToolResult b := by
    intro content err b hb
    rcases List.mem_append.mp hb with hb|hb
    · exact hd b hb
    · exact ⟨id,content,err,List.mem_singleton.mp hb⟩
  unfold settleOutcome
  split <;> exact Along.bind hJ.composable (emitBuilt_kept hJ _) fun _ _ =>
    Along.pure hJ.composable (hadd _ _)

variable (hhook : ∀ name input,Along J (cfg.onToolUse name input) fun _ => True)
include hhook

theorem dispatchBlock_kept (env : InvokeEnv) (id name : String) (input : Dict)
    (hd : ∀ b∈d.toolResults,Block.IsToolResult b) :
    Along J (dispatchBlock cfg env id name input d)
      fun o => ∀ d',o=some d' → ∀ b∈d'.toolResults,Block.IsToolResult b := by
  have hC := hJ.composable
  refine Along.bind hC (emitBuilt_kept hJ _) fun _ _ => ?_
  refine Along.bind hC (hhook name input) fun o _ => ?_
  cases o with
  | some evs =>
    refine Along.bind hC (Along.emitAll hC fun ev _ s => hJ.event s ev) fun _ _ => ?_
    refine Along.bind hC (Along.update fun s => hJ.message s _ (hJ.results _ ?_ ?_)) fun _ _ =>
      Along.pure hC fun d' hd' => (by cases hd')
    · exact List.append_ne_nil_of_right_ne_nil _ (List.cons_ne_nil _ _)
    · intro b hb
      rcases List.mem_append.mp hb with hb|hb
      · exact hd b hb
      · exact ⟨id,"handled",none,List.mem_singleton.mp hb⟩
  | none =>
    have hcall : Along J (callTool cfg env name input) fun _ => True :=
      Along.bind hC (Along.update fun s => hJ.call s _) fun _ _ =>
        Along.ofExcept hC fun _ _ => trivial
    refine Along.bind hC hcall fun outcome _ => ?_
    refine Along.bind hC (settleOutcome_kept hJ id name outcome hd) fun d' hd' =>
      Along.pure hC fun d'' h => ?_
    rw [← Option.some.inj h]
    exact hd'

theorem dispatchBlocks_kept (tools : Nat → InvokeEnv) (blocks : List SdkBlock) (n : Nat)
    (hd : ∀ b∈d.toolResults,Block.IsToolResult b) :
    Along J (dispatchBlocks cfg tools blocks n d)
      fun o => ∀ d',o=some d' → ∀ b∈d'.toolResults,Block.IsToolResult b := by
  have hC := hJ.composable
  induction blocks generalizing n d with
  | nil =>
    refine Along.pure hC fun d' h => ?_
    rw [← Option.some.inj h]
    exact hd
  | cons block blocks ih =>
    cases block with
    | toolUse id name input =>
      refine Along.bind hC (dispatchBlock_kept hJ hhook (tools n) id name input hd) fun o ho => ?_
      cases o with
      | none => exact Along.pure hC fun d' h => (by cases h)
      | some d' => exact ih (n+1) (ho d' rfl)
    | _ => exact ih (n+1) hd

/-- A reply of the class is recorded and answered. -/
theorem recordReply_kept (tools : Nat → InvokeEnv) {m : FinalMessage} (hm : M (assistantMessage m)) :
    Along J (recordReply cfg tools m) fun _ => True := by
  have hC := hJ.composable
  refine Along.bind hC (Along.update fun s => hJ.message s _ hm) fun _ _ => ?_
  split
  · have hblocks := dispatchBlocks_kept hJ hhook tools m.content 0 (d:={})
      fun b hb => absurd hb List.not_mem_nil
    refine Along.bind hC hblocks fun o ho => ?_
    cases o with
    | none => exact Along.pure hC trivial
    | some d =>
      refine Along.bind hC (Q:=fun _ => True) ?_ fun _ _ => Along.pure hC trivial
      unfold appendResults
      split
      · exact Along.pure hC trivial
      · rename_i hne
        exact Along.update fun s => hJ.message s _ (hJ.results _ hne (ho d rfl))
  · exact Along.pure hC trivial

omit hhook in
theorem streamPhase_kept (call : ModelCall) :
    Along J (streamPhase cfg call) fun o => o=receivedReply cfg.sessionId cfg.turnId call ∨ o=none := by
  have hC := hJ.composable
  unfold streamPhase receivedReply
  cases streamCall cfg.sessionId cfg.turnId call.attempts with
  | cancelled => exact Along.fail hC
  | failed e =>
    exact Along.bind hC (emitBuilt_kept hJ _) fun _ _ => Along.pure hC (.inr rfl)
  | streamed st =>
    exact Along.bind hC (Along.emitAll hC fun ev _ s => hJ.event s ev) fun _ _ =>
      Along.pure hC (.inl rfl)

/-- A round behind its request. -/
theorem answerRound_kept {call : ModelCall}
    (hreply : ∀ m,receivedReply cfg.sessionId cfg.turnId call=some m → M (assistantMessage m)) :
    Along J (do
      match ← streamPhase cfg call with
      | none => pure false
      | some m => recordReply cfg call.tools m : TurnGen Bool) fun _ => True := by
  refine Along.bind hJ.composable (streamPhase_kept hJ call) fun o ho => ?_
  cases o with
  | none => exact Along.pure hJ.composable trivial
  | some m =>
    refine recordReply_kept hJ hhook call.tools (hreply m ?_)
    rcases ho with ho|ho
    · exact ho.symm
    · cases ho

variable {calls : Nat → ModelCall}

theorem agentLoop_kept (hreplies : RepliesIn M cfg.sessionId cfg.turnId calls) (left n : Nat) :
    Along J (agentLoop cfg calls left n) fun _ => True := by
  have hC := hJ.composable
  induction left generalizing n with
  | zero => exact Along.pure hC trivial
  | succ left ih =>
    refine Along.bind hC (Q:=fun _ => True) ?_ fun again _ => ?_
    · exact Along.bind hC (Along.update fun s => hJ.request s _) fun _ _ =>
        answerRound_kept hJ hhook (hreplies n)
    · cases again with
      | false => exact Along.pure hC trivial
      | true => exact ih (n+1)

omit hhook

/-! ## The phases -/

theorem onToolUse_kept (sessionId turnId name : String) (input : Dict) :
    Along J (onToolUse org sessionId turnId name input) fun _ => True := by
  have hC := hJ.composable
  have hanswer : ∀ f,Along J (answerWith f) fun _ => True := fun f =>
    Along.bind hC (Along.ofExcept hC (Q:=fun _ => True) fun _ _ => trivial) fun _ _ =>
      Along.pure hC trivial
  unfold onToolUse
  split
  · dsimp only
    split
    · exact Along.bind hC (Along.update fun s => hJ.handoff s _) fun _ _ => Along.pure hC trivial
    · exact hanswer _
  · split
    · exact hanswer _
    · exact Along.pure hC trivial

theorem forwardAgent_kept {g : TurnGen Unit} (hg : Along J g fun _ => True) :
    Along J (forwardAgent g) fun _ => True :=
  Along.bind hJ.composable (Along.forwardUntil hg) fun _ _ => Along.pure hJ.composable trivial

theorem reportingErrors_kept {g : TurnGen PhaseEnd} (sessionId : EntityId)
    (hg : Along J g fun _ => True) : Along J (reportingErrors sessionId turnId g) fun _ => True := by
  refine Along.recover hJ.composable hg fun k h hk => ?_
  cases k with
  | cancelled => cases hk
  | raised e =>
    cases hk
    exact Along.bind hJ.composable (emitBuilt_kept hJ _) fun _ _ => Along.pure hJ.composable trivial

theorem orchestratorLoop_kept (hreplies : RepliesIn M session.id turnId env.orchestratorCalls) :
    Along J (runAgentTurn (orchestratorLoop org ctx session turnId) env.orchestratorCalls)
      fun _ => True := by
  have hloop : Along J
      (agentLoop (orchestratorLoop org ctx session turnId) env.orchestratorCalls maxToolLoops 0)
      fun _ => True :=
    agentLoop_kept hJ (fun _ _ => onToolUse_kept hJ _ _ _ _) hreplies maxToolLoops 0
  exact hloop

theorem orchestratorPhase_kept (hreplies : RepliesIn M session.id turnId env.orchestratorCalls) :
    Along J (orchestratorPhase org ctx session turnId env) fun _ => True := by
  refine Along.bind hJ.composable
    (reportingErrors_kept hJ session.id (forwardAgent_kept hJ (orchestratorLoop_kept hJ hreplies)))
    fun _ _ => ?_
  exact Along.bind hJ.composable (Along.update hJ.sync) fun _ _ => Along.pure hJ.composable trivial

theorem domainRun_kept (agent : DomainAgent) (goal userMessage : String)
    (hreplies : RepliesIn M session.id ctx.turnId calls) :
    Along J (DomainAgent.run org agent ctx session goal userMessage calls) fun _ => True := by
  have hC := hJ.composable
  have hloop : Along J (agentLoop (domainLoop org agent ctx session) calls maxToolLoops 0)
      fun _ => True :=
    agentLoop_kept hJ (fun _ _ => Along.pure hC trivial) hreplies maxToolLoops 0
  refine Along.bind hC (Along.update fun s => hJ.seed s goal userMessage) fun _ _ => ?_
  refine Along.bind hC (Along.forwardUntil hloop) fun c _ => ?_
  cases c.result with
  | none => exact Along.pure hC trivial
  | some a => exact Along.update hJ.splice

theorem domainPhase_kept (hreplies : RepliesIn M session.id ctx.turnId env.domainCalls)
    (o : PhaseEnd) :
    Along J (domainPhase org ctx session turnId userMessage env o) fun _ => True := by
  have hC := hJ.composable
  refine Along.bind hC (Along.read hC) fun target _ => ?_
  cases target with
  | none => exact Along.pure hC trivial
  | some target =>
    dsimp only
    split
    · exact Along.pure hC trivial
    · refine Along.bind hC (reportingErrors_kept hJ session.id ?_) fun _ _ => Along.pure hC trivial
      unfold runHandoff
      cases env.resolve target.domain with
      | error e => exact Along.fail hC
      | ok agent =>
        dsimp only
        split
        · exact Along.fail hC
        · exact forwardAgent_kept hJ (domainRun_kept hJ agent _ _ hreplies)

theorem recordCost_kept : Along J (recordCost env) fun _ => True := by
  unfold recordCost
  split
  · exact Along.fail hJ.composable
  · exact Along.pure hJ.composable trivial

/-- Behind the user's message and before the closing event. -/
theorem agentPhases_kept (hturn : ctx.turnId=newTurnId env.seed)
    (hown : RepliesIn M session.id (newTurnId env.seed) env.orchestratorCalls)
    (hdomain : RepliesIn M session.id (newTurnId env.seed) env.domainCalls) :
    Along J (agentPhases org session userMessage ctx env) fun _ => True := by
  refine Along.bind hJ.composable (orchestratorPhase_kept hJ hown) fun o _ => ?_
  exact Along.bind hJ.composable (domainPhase_kept hJ (hturn ▸ hdomain) o) fun _ _ =>
    recordCost_kept hJ

end Turn

/-! ## The first request -/

/-- Requests are only added. -/
def Grown (s : TurnState) (_ : List AgentEvent) (t : TurnState) : Prop := s.requests <+: t.requests

theorem grown_kept : Kept Grown fun _ => True where
  composable := ⟨fun _ => List.prefix_refl _,fun h h' => List.IsPrefix.trans h h'⟩
  event _ _ := List.prefix_refl _
  call _ _ := List.prefix_refl _
  request _ _ := List.prefix_append _ _
  handoff _ _ := List.prefix_refl _
  message _ _ _ := List.prefix_refl _
  results _ _ _ := trivial
  sync _ := List.prefix_refl _
  splice _ := List.prefix_refl _
  seed _ _ _ := List.prefix_refl _

theorem repliesIn_any (sessionId turnId : String) (calls : Nat → ModelCall) :
    RepliesIn (fun _ => True) sessionId turnId calls := fun _ _ _ => trivial

/-- A transcript was sent to the model. -/
def Sent (ms : List Message) (s : TurnState) : Prop := ∃ r∈s.requests,r.messages=ms

/-- What only adds requests leaves it sent. -/
theorem sent_along (ms : List Message) (hg : Along Grown g Q) :
    Sat (Sent ms) g (fun _ => Sent ms) (fun _ => Sent ms) fun _ => Sent ms :=
  sat_of_along hg fun _ _ _ hgrown ⟨r,hr,hms⟩ => ⟨r,hgrown.subset hr,hms⟩

/-- The first instruction of the loop sends its transcript. -/
theorem runAgentTurn_sends (ms : List Message)
    (hhook : ∀ name input,Along Grown (cfg.onToolUse name input) fun _ => True)
    (calls : Nat → ModelCall) :
    Sat (fun s => s.messages=ms) (runAgentTurn cfg calls) (fun _ => Sent ms) (fun _ => Sent ms)
      fun _ => Sent ms := by
  have hreplies := repliesIn_any cfg.sessionId cfg.turnId calls
  have hlogged : ∀ s : TurnState,s.messages=ms →
      Sent ms (s.logRequest (anthropicToolDefs cfg.rt cfg.toolNames)) := fun s hs =>
    ⟨_,List.mem_append_right _ List.mem_cons_self,hs⟩
  have hround : Sat (fun s => s.messages=ms) (agentRound cfg (calls 0)) (fun _ => Sent ms)
      (fun _ => Sent ms) fun _ => Sent ms :=
    Sat.bind (Q:=fun _ => Sent ms) (Sat.update hlogged) fun _ =>
      sent_along ms (answerRound_kept grown_kept hhook (hreplies 0))
  refine Sat.bind hround fun again => ?_
  cases again with
  | false => exact Sat.pure fun _ h => h
  | true => exact sent_along ms (agentLoop_kept grown_kept hhook hreplies 7 1)

/-- So does the orchestrator's stream, whose failure is reported. -/
theorem orchestratorPhase_sends (ms : List Message) :
    Sat (fun s => s.messages=ms) (orchestratorPhase org ctx session turnId env) (fun _ => Sent ms)
      (fun _ => Sent ms) fun _ => Sent ms := by
  have hhook : ∀ name input,
      Along Grown ((orchestratorLoop org ctx session turnId).onToolUse name input) fun _ => True :=
    fun _ _ => onToolUse_kept grown_kept _ _ _ _
  have hloop := runAgentTurn_sends ms hhook env.orchestratorCalls
  have hforward : Sat (fun s => s.messages=ms)
      (forwardAgent (runAgentTurn (orchestratorLoop org ctx session turnId) env.orchestratorCalls))
      (fun _ => Sent ms) (fun _ => Sent ms) fun _ => Sent ms := by
    refine Sat.bind (Sat.forwardUntil hloop) fun c => Sat.pure fun s hs => ?_
    cases hc : c.result with
    | some a => exact (hs.1 a hc).1
    | none =>
      obtain ⟨_,-,-,hsent⟩ := hs.2 hc
      exact hsent
  refine Sat.bind (Q:=fun _ => Sent ms) (Sat.recover (R:=fun _ => Sent ms) hforward ?_
    fun _ _ _ h => h) fun o => Sat.bind (Q:=fun _ => Sent ms) (Sat.update fun s h => h) fun _ =>
      Sat.pure fun _ h => h
  intro k h hk
  cases k with
  | cancelled => cases hk
  | raised e =>
    cases hk
    exact sent_along ms (Along.bind grown_kept.composable (emitBuilt_kept grown_kept _) fun _ _ =>
      Along.pure grown_kept.composable (Q:=fun _ => True) trivial)

/-- A turn sends the history it starts from and the user's message. -/
theorem turnPhases_sends (ms : List Message) :
    Sat (fun s => s.history++[userTurn userMessage]=ms) (turnPhases org session userMessage ctx env)
      (fun _ => Sent ms) (fun _ => Sent ms) fun _ => Sent ms := by
  refine Sat.bind (Q:=fun _ s => s.messages=ms) (Sat.update fun _ h => h) fun _ => ?_
  refine Sat.bind (orchestratorPhase_sends ms) fun o => ?_
  refine Sat.bind (sent_along ms (domainPhase_kept grown_kept (repliesIn_any _ _ _) o)) fun _ => ?_
  exact sent_along ms (recordCost_kept grown_kept)

/-- What holds at every yield and at the end holds of the state a consumer leaves. -/
theorem taken_of_sat {R : TurnState → Prop} (hg : Sat P g (fun _ => R) (fun _ => R) fun _ => R)
    {s : TurnState} (hs : P s) (stop : Option Nat) : R (taken (g s) stop).2 := by
  obtain ⟨hyields,hexit⟩ := hg s hs
  have hend : R (g s).state := by
    cases he : (g s).exit with
    | ok a => rw [he] at hexit; exact hexit
    | error k => rw [he] at hexit; exact hexit
  cases stop with
  | none => exact hend
  | some n =>
    unfold taken
    dsimp only
    cases hdrop : (g s).yields.drop n with
    | nil => exact hend
    | cons y post =>
      have hmem : y∈(g s).yields := List.mem_of_mem_drop (hdrop ▸ List.mem_cons_self)
      exact hyields y hmem

/-- A turn its gates let pass, behind the gates. -/
theorem runTurn_of_passed (org : Orchestrator) (session : Session) (userMessage : String)
    (approvals : Option (Table String Bool)) (actorRole : String) (h : GatesPassed env) :
    runTurn org session userMessage approvals actorRole env=
      (turnPhases org session userMessage
        (turnContext session (newTurnId env.seed) approvals actorRole) env >>= fun _ =>
          emitBuilt (finalFields session.id (newTurnId env.seed)))
        {history := session.messageHistory} := by
  unfold runTurn turnGen
  simp only [h.1,h.2,ofExcept_ok]
  rfl

/-- Wherever its consumer leaves it, a turn that its gates let pass has sent the history and the
user's message. -/
theorem turn_sends (org : Orchestrator) (session : Session) (userMessage : String)
    (approvals : Option (Table String Bool)) (actorRole : String) (h : GatesPassed env)
    (stop : Option Nat) :
    Sent (session.messageHistory++[userTurn userMessage])
      (turnTaken org session userMessage approvals actorRole env stop).2 := by
  unfold turnTaken
  rw [runTurn_of_passed org session userMessage approvals actorRole h]
  refine taken_of_sat (Sat.bind (turnPhases_sends _) fun _ =>
    sent_along _ (emitBuilt_kept grown_kept _)) ?_ stop
  rfl

/-- A turn reaches the model exactly when its gates let it pass. -/
theorem requests_iff_passed (org : Orchestrator) (session : Session) (userMessage : String)
    (approvals : Option (Table String Bool)) (actorRole : String) (env : TurnEnv) :
    (runTurn org session userMessage approvals actorRole env).state.requests≠[] ↔
      GatesPassed env := by
  constructor
  · intro hasked
    by_contra hstopped
    have hstate := state_of_stopped org session userMessage approvals actorRole none hstopped
    exact hasked (congrArg TurnState.requests hstate)
  · intro hpassed
    obtain ⟨r,hr,-⟩ := turn_sends org session userMessage approvals actorRole hpassed none
    exact List.ne_nil_of_mem hr

end Voyagent.TurnRelations
