import Voyagent.ExecutedCalls

/-!
# What the model is told about its calls

Every call that was answered shows one event to the client and leaves one
flagged block for the model. The two carry the same payload whatever the
outcome. A failure or a denial is always named; a success is told as what the
handler gave back exactly when that is a dictionary with something in it and
with keys that trimming leaves alone.
-/

namespace Voyagent.ToolReports

open RuntimeValues KeyedMap TrimmedText AgentEvents SessionTranscript ToolInvocation
open GeneratorTraces AgentLoop Sessions OrchestratorTurn TurnTermination TranscriptPairing
open TurnTraces ExecutedCalls

/-- The output a call's handler is left with: that of its accepted answer. -/
def acceptedOutput (rt : Runtime) (env : InvokeEnv) (name : String) : Option HandlerOutput :=
  match getTool rt name with
  | .error _ => none
  | .ok spec =>
    match (executeHandler spec.outputSchema env.handler (maxValidationAttempts spec-1) 1).result with
    | .output o none _ => some o
    | _ => none

/-- The texts Python shows for strings are never blank: they have quotes. -/
def QuotesTexts (rt : Runtime) : Prop := ∀ s,stripWhitespace (rt.reprStr s)≠""

/-- What an outcome of each kind says about its call. -/
def Outcome (rt : Runtime) (env : InvokeEnv) (name : String) (o : ToolInvocationOutcome) : Prop :=
  match o.kind with
  | .success => ∃ out,acceptedOutput rt env name=some out ∧
      (∀ d,out=.dict d → o.output=some (stripKeys d)) ∧ ((∀ d,out≠.dict d) → o.output=none)
  | .error => o.output=none ∧ ∃ text,o.errorMessage=some text ∧ text≠""
  | .permissionDenied => ∃ why,o.message=some why ∧ why≠""
  | .approvalNeeded => True

variable {rt : Runtime} {env : InvokeEnv} {ctx : ToolContext} {name : String} {input : Dict}
variable {o : ToolInvocationOutcome} {spec : ToolSpec}

/-- An error whose message shows a letter. -/
theorem outcome_error {message : String} {auditId : Option EntityId}
    (h : stripWhitespace message≠"") :
    Outcome rt env name ({kind := .error,errorMessage := some message,auditId} :
      ToolInvocationOutcome).stripped := ⟨rfl,stripWhitespace message,rfl,h⟩

/-- The text of a failed handler has a colon. -/
theorem failureText_nonblank (e : Exn) : stripWhitespace (failureText e)≠"" := by
  unfold failureText
  split
  · exact refusal_nonblank (c := ':') (by simp) (by decide)
  · exact describe_strip_ne_empty e

variable {audit : Option AuditEvent}

/-- Closing the audit row passes on the outcome of the rest. -/
theorem closeAudit_ok {status : AuditStatus} {error : Option String} {outputs : Dict}
    {rest : InvokeReport} (h : (closeAudit env audit status error outputs rest).result=.ok o) :
    rest.result=.ok o := by
  unfold closeAudit at h
  cases audit with
  | none => exact h
  | some opened => exact writeAudit_ok h

/-- Behind the gate an outcome tells how the handler ended. -/
theorem runHandler_outcome (hget : getTool rt name=.ok spec)
    (h : (runHandler rt env spec name input audit).result=.ok o) : Outcome rt env name o := by
  have haccepted : ∀ {out attempts},
      (executeHandler spec.outputSchema env.handler (maxValidationAttempts spec-1) 1).result=
        .output out none attempts → acceptedOutput rt env name=some out := by
    intro out attempts he
    unfold acceptedOutput
    rw [hget]
    dsimp only
    rw [he]
  change (finishCall rt env spec name audit (executeHandler spec.outputSchema env.handler
    (maxValidationAttempts spec-1) 1).result).result=.ok o at h
  unfold finishCall at h
  split at h
  · cases h
  · cases closeAudit_ok h
    exact outcome_error (failureText_nonblank _)
  · cases closeAudit_ok h
    exact outcome_error (refusal_nonblank (c := ':') (by simp) (by decide))
  · rename_i d attempts he
    cases closeAudit_ok h
    refine ⟨.dict d,haccepted he,fun d' hd => ?_,fun hd => absurd rfl (hd d)⟩
    cases hd
    rfl
  · rename_i attempts he
    cases closeAudit_ok h
    exact ⟨.none,haccepted he,fun d hd => (by cases hd),fun _ => rfl⟩
  · cases closeAudit_ok h

/-- Every outcome says about its call what its kind promises. -/
theorem invokeTool_outcome (hquotes : QuotesTexts rt)
    (h : (invokeTool rt env ctx name input).result=.ok o) : Outcome rt env name o := by
  unfold invokeTool at h
  cases hget : getTool rt name with
  | error e =>
    rw [hget] at h
    cases h
    refine outcome_error ?_
    unfold getTool at hget
    split at hget
    · cases hget
    · cases hget
      exact hquotes _
  | ok spec =>
    rw [hget] at h
    dsimp only at h
    split at h
    · cases h
    · cases h
      exact outcome_error (refusal_nonblank (c := 'I') (by simp) (by decide))
    · split at h
      · cases writeAudit_ok h
        exact ⟨_,rfl,refusal_nonblank (c := 'r') (by simp) (by decide)⟩
      · split at h
        · cases h
          exact True.intro
        · cases writeAudit_ok h
          exact outcome_error (refusal_nonblank (c := 'A') (by simp) (by decide))
        · unfold runWithAudit at h
          split at h
          · exact runHandler_outcome hget (writeAudit_ok h)
          · exact runHandler_outcome hget h

/-! ## Tellings -/

/-- A call as it was told: its event for the client, its block for the model. -/
structure Telling where
  id : String
  call : Invocation
  event : AgentEvent
  content : String
  isError : Option Bool

/-- The block in the message to the model. -/
def Telling.block (m : Telling) : Block := .toolResult m.id m.content m.isError

/-- A payload and its flag say how a call ended: its output, its error, or why
it was not permitted. -/
def Says (rt : Runtime) (i : Invocation) (payload : Dict) (isError : Option Bool) : Prop :=
  ∃ o,i.report.result=.ok o ∧
    match o.kind with
    | .success => isError=some false ∧ acceptedOutput rt i.env i.name=some (.dict payload)
    | .error => isError=some true ∧ ∃ text,o.errorMessage=some text ∧ text≠"" ∧
        payload=[("error",.str text)]
    | .permissionDenied => isError=some true ∧ ∃ why,o.message=some why ∧ why≠"" ∧
        payload=[("error",.str "permission_denied"),("detail",.str why)]
    | .approvalNeeded => False

/-- Event and block carry one payload, and it says what happened. -/
def Truthful (rt : Runtime) (m : Telling) : Prop :=
  ∃ payload,m.event.fields.toolOutput=some payload ∧ m.content=compactPayload rt payload ∧
    Says rt m.call payload m.isError

/-- The call either did not succeed, or its handler gave back a dictionary
that is not empty and whose keys are trimmed. -/
def speaks (rt : Runtime) (i : Invocation) : Bool :=
  match i.report.result with
  | .error _ => true
  | .ok o =>
    match o.kind with
    | .success =>
      match acceptedOutput rt i.env i.name with
      | some (.dict d) => !d.isEmpty && decide (stripKeys d=d)
      | _ => false
    | _ => true

/-- The calls that were answered: not raised, not put off for an approval. -/
def answered (is : List Invocation) : List Invocation :=
  is.filter fun i =>
    match i.report.result with
    | .ok o => decide (o.kind≠.approvalNeeded)
    | .error _ => false

/-- The event reports the answer to a call. -/
def isReport (ev : AgentEvent) : Bool := decide (ev.kind=.toolResult)

/-- The block answers a call; the loop's placeholders have no flag. -/
def isAnswer : Block → Bool
  | .toolResult _ _ (some _) => true
  | _ => false

/-- The calls a run has made. -/
def newCalls (s t : TurnState) : List Invocation := t.invocations.drop s.invocations.length

/-- The answers a run has put into the transcript. -/
def newAnswers (s t : TurnState) : List Block :=
  (blocksOf .user (t.messages.drop s.messages.length)).filter isAnswer

/-- A run's answered calls, events and answers are its tellings, in order.
Only a run that was cut off has `dropped` the last answers, those of the reply
it was dispatching. -/
structure Tells {α : Type} (s : TurnState) (tr : Trace TurnState AgentEvent Halt α)
    (noted dropped : List Telling) : Prop where
  calls : answered (newCalls s tr.state)=(noted++dropped).map Telling.call
  events : tr.events.filter isReport=(noted++dropped).map Telling.event
  answers : newAnswers s tr.state=noted.map Telling.block
  finished : ∀ a,tr.exit=.ok a → dropped=[]
  /-- Event and block are those of the call's id. -/
  ids : ∀ m∈noted++dropped,m.event.fields.toolCallId=some (stripWhitespace m.id)

/-- What a callback must leave alone: it yields and answers without reporting
on calls, and touches neither the log nor the transcript. -/
structure HookDiscreet (cfg : LoopConfig) : Prop where
  quiet : ∀ name input s,∀ y∈(cfg.onToolUse name input s).yields,isReport y.1=false
  answers : ∀ name input s evs,(cfg.onToolUse name input s).exit=.ok (some evs) →
    ∀ ev∈evs,isReport ev=false
  log : ∀ name input s,(cfg.onToolUse name input s).state.invocations=s.invocations
  transcript : ∀ name input s,(cfg.onToolUse name input s).state.messages=s.messages

/-- A telling as the loop produces it. -/
structure Told (cfg : LoopConfig) (m : Telling) (o : ToolInvocationOutcome) : Prop where
  returned : m.call.report.result=.ok o
  made : m.call.report=invokeTool cfg.rt m.call.env cfg.ctx m.call.name m.call.input
  settled : o.kind≠.approvalNeeded
  event : m.event.fields.toolOutput=some (stripKeys (reportedPayload o))
  content : m.content=compactPayload cfg.rt (reportedPayload o)
  flag : m.isError=some (decide (o.kind≠.success))
  id : m.event.fields.toolCallId=some (stripWhitespace m.id)

variable {cfg : LoopConfig} {m : Telling} {s t : TurnState}

/-- A failure is told under its own name. -/
theorem reportedPayload_error {text : String} (hkind : o.kind=.error) (hnone : o.output=none)
    (htext : o.errorMessage=some text) (hne : text≠"") :
    reportedPayload o=[("error",.str text)] := by
  have hpayload : reportedPayload o=resultPayload o := if_neg (by rw [hkind]; decide)
  have htruthy : truthy (some text)=true := bne_iff_ne.mpr hne
  rw [hpayload,resultPayload,hnone,orText,htext,if_pos htruthy]
  rfl

/-- A denial is told with its reason. -/
theorem reportedPayload_denied {why : String} (hkind : o.kind=.permissionDenied)
    (hwhy : o.message=some why) (hne : why≠"") :
    reportedPayload o=[("error",.str "permission_denied"),("detail",.str why)] := by
  have hpayload : reportedPayload o=deniedPayload o := if_pos hkind
  have htruthy : truthy (some why)=true := bne_iff_ne.mpr hne
  rw [hpayload,deniedPayload,hwhy]
  simp only [orText,if_pos htruthy,Option.getD_some]

/-- The keys of an error and of a denial are trimmed. -/
theorem stripKeys_error (text : String) :
    stripKeys [("error",Json.str text)]=[("error",.str text)] :=
  stripKeys_of_bare (by simp only [List.forall_mem_singleton]; decide) (List.nodup_singleton _)

theorem stripKeys_denied (why : String) :
    stripKeys [("error",.str "permission_denied"),("detail",Json.str why)]=
      [("error",.str "permission_denied"),("detail",.str why)] :=
  stripKeys_of_bare (by simp only [List.forall_mem_cons]; decide)
    (by simp only [List.map_cons,List.map_nil]; decide)

/-- What the loop reports has trimmed keys already, so that event and block
never differ. -/
theorem stripKeys_reportedPayload (h : Outcome rt env name o) (hkind : o.kind≠.approvalNeeded) :
    stripKeys (reportedPayload o)=reportedPayload o := by
  cases ho : o.kind with
  | approvalNeeded => exact absurd ho hkind
  | error =>
    rw [Outcome,ho] at h
    obtain ⟨hnone,text,htext,hne⟩ := h
    rw [reportedPayload_error ho hnone htext hne]
    exact stripKeys_error text
  | permissionDenied =>
    rw [Outcome,ho] at h
    obtain ⟨why,hwhy,hne⟩ := h
    rw [reportedPayload_denied ho hwhy hne]
    exact stripKeys_denied why
  | success =>
    rw [Outcome,ho] at h
    obtain ⟨out,-,hdict,hother⟩ := h
    have hpayload : reportedPayload o=resultPayload o := if_neg (by rw [ho]; decide)
    rw [hpayload,resultPayload]
    split
    · rename_i e d hout
      cases out with
      | dict d' =>
        have he := (hdict d' rfl).symm.trans hout
        rw [← Option.some.inj he,stripKeys_idem]
      | none | other =>
        rw [hother fun d' hd => by cases hd] at hout
        cases hout
    · exact stripKeys_error _

/-- A call that succeeded hands on its handler's dictionary or nothing. -/
theorem reportedPayload_success (h : Outcome rt env name o) (hkind : o.kind=.success) :
    reportedPayload o=resultPayload o ∧ ∃ out,acceptedOutput rt env name=some out ∧
      (∀ d,out=.dict d → o.output=some (stripKeys d)) ∧ ((∀ d,out≠.dict d) → o.output=none) := by
  have hpayload : reportedPayload o=resultPayload o := if_neg (by rw [hkind]; decide)
  rw [Outcome,hkind] at h
  exact ⟨hpayload,h⟩

/-- A dictionary with something in it is told as it is. -/
theorem resultPayload_of_output {d : Dict} (hout : o.output=some d) (hne : d≠[]) :
    resultPayload o=d := by
  unfold resultPayload
  rw [hout]
  cases d with
  | nil => exact absurd rfl hne
  | cons e d => rfl

/-- An empty dictionary is told as an error. -/
theorem resultPayload_of_empty (hout : o.output=some []) :
    resultPayload o=[("error",.str ((orText o.errorMessage (some "unknown tool error")).getD ""))] := by
  unfold resultPayload
  rw [hout]

/-- The calls that speak for themselves are told truthfully. -/
theorem Told.truthful (hquotes : QuotesTexts cfg.rt) (h : Told cfg m o)
    (hspeaks : speaks cfg.rt m.call=true) : Truthful cfg.rt m := by
  have houtcome : Outcome cfg.rt m.call.env m.call.name o :=
    invokeTool_outcome hquotes (h.made ▸ h.returned)
  have hevent : m.event.fields.toolOutput=some (reportedPayload o) := by
    rw [h.event,stripKeys_reportedPayload houtcome h.settled]
  refine ⟨reportedPayload o,hevent,h.content,o,h.returned,?_⟩
  have hflag := h.flag
  cases ho : o.kind with
  | approvalNeeded => exact absurd ho h.settled
  | error =>
    rw [Outcome,ho] at houtcome
    obtain ⟨hnone,text,htext,hne⟩ := houtcome
    rw [ho] at hflag
    exact ⟨hflag,text,htext,hne,reportedPayload_error ho hnone htext hne⟩
  | permissionDenied =>
    rw [Outcome,ho] at houtcome
    obtain ⟨why,hwhy,hne⟩ := houtcome
    rw [ho] at hflag
    exact ⟨hflag,why,hwhy,hne,reportedPayload_denied ho hwhy hne⟩
  | success =>
    obtain ⟨hpayload,out,haccepted,hdict,-⟩ := reportedPayload_success houtcome ho
    rw [speaks,h.returned] at hspeaks
    dsimp only at hspeaks
    rw [ho,haccepted] at hspeaks
    rw [ho] at hflag
    cases out with
    | none => cases hspeaks
    | other => cases hspeaks
    | dict d =>
      obtain ⟨hne,hbare⟩ := Bool.and_eq_true_iff.mp hspeaks
      have hd : d≠[] := fun hd => by rw [hd] at hne; cases hne
      have hout : o.output=some d := (hdict d rfl).trans (congrArg some (of_decide_eq_true hbare))
      rw [hpayload,resultPayload_of_output hout hd]
      exact ⟨hflag,haccepted⟩

/-- A call whose event says what happened speaks for itself. -/
theorem Told.speaks (hquotes : QuotesTexts cfg.rt) (h : Told cfg m o) {payload : Dict}
    {isError : Option Bool} (hevent : m.event.fields.toolOutput=some payload)
    (hmeans : Says cfg.rt m.call payload isError) : speaks cfg.rt m.call=true := by
  have houtcome : Outcome cfg.rt m.call.env m.call.name o :=
    invokeTool_outcome hquotes (h.made ▸ h.returned)
  obtain ⟨o',ho',hmeans⟩ := hmeans
  cases Except.ok.inj (ho'.symm.trans h.returned)
  rw [ToolReports.speaks,h.returned]
  dsimp only
  cases ho : o.kind with
  | approvalNeeded => rfl
  | error => rfl
  | permissionDenied => rfl
  | success =>
    obtain ⟨hpayload,out,haccepted,hdict,-⟩ := reportedPayload_success houtcome ho
    rw [ho] at hmeans
    obtain ⟨-,hd⟩ := hmeans
    cases Option.some.inj (haccepted.symm.trans hd)
    have hsame : payload=reportedPayload o := by
      have hs := hevent.symm.trans h.event
      rw [stripKeys_reportedPayload houtcome h.settled] at hs
      exact Option.some.inj hs
    have hout := hdict payload rfl
    rw [hpayload] at hsame
    have hne : stripKeys payload≠[] := by
      intro hempty
      rw [hempty] at hout
      rw [hsame,resultPayload_of_empty hout,stripKeys_error] at hempty
      cases hempty
    have hbare : stripKeys payload=payload :=
      (hsame.trans (resultPayload_of_output hout hne)).symm
    dsimp only
    rw [hd]
    dsimp only
    rw [hbare] at hne
    rw [Bool.and_eq_true_iff,decide_eq_true_iff,Bool.not_eq_true',List.isEmpty_eq_false_iff]
    exact ⟨hne,hbare⟩

/-! ## Runs -/

theorem answered_append (is js : List Invocation) :
    answered (is++js)=answered is++answered js := List.filter_append is js

/-- An outcome that asks for approval reports nothing and leaves a placeholder. -/
theorem settleOutcome_asks (cfg : LoopConfig) (id name : String) (hkind : o.kind=.approvalNeeded) (d : Dispatch)
    (s : TurnState) : ∃ ys : List (AgentEvent × TurnState),(∀ y∈ys,isReport y.1=false) ∧
      ∃ exit,settleOutcome cfg id name o d s=⟨ys,exit,s⟩ ∧
        ∀ d',exit=.ok d' → ∃ content,d'.toolResults=d.toolResults++[.toolResult id content none] := by
  unfold settleOutcome
  rw [hkind]
  dsimp only
  rw [bind_apply]
  unfold emitBuilt
  cases hb : AgentEvent.build (approvalRequestFields cfg.sessionId cfg.turnId name id o.approvalId
      o.approvalSummary) with
  | error k => exact ⟨[],List.forall_mem_nil _,.error k,rfl,fun d' hd => by cases hd⟩
  | ok ev =>
    have hk : ev.kind=.approvalRequest := build_kind hb
    refine ⟨[(ev,s)],?_,_,rfl,fun d' hd => ?_⟩
    · rw [List.forall_mem_singleton,isReport,hk]
      rfl
    · cases hd
      exact ⟨_,rfl⟩

/-- What dispatching some blocks did: the tellings of the calls it made, and
the results it collected or recorded for them. -/
structure Dispatched (cfg : LoopConfig) (s : TurnState) (d : Dispatch)
    (tr : Trace TurnState AgentEvent Halt (Option Dispatch)) (ms : List Telling)
    (results : List Block) : Prop where
  calls : ∃ is,tr.state.invocations=s.invocations++is ∧ answered is=ms.map Telling.call
  events : tr.events.filter isReport=ms.map Telling.event
  answers : results.filter isAnswer=ms.map Telling.block
  told : ∀ m∈ms,∃ o,Told cfg m o
  collected : ∀ d',tr.exit=.ok (some d') → d'.toolResults=d.toolResults++results ∧
    tr.state.messages=s.messages
  taken : tr.exit=.ok none → tr.state.messages=s.messages++[⟨.user,d.toolResults++results⟩]
  halted : ∀ k,tr.exit=.error k → tr.state.messages=s.messages

/-- Events that report on no call. -/
theorem no_reports {evs : List AgentEvent} (h : ∀ ev∈evs,isReport ev=false) :
    evs.filter isReport=[] := by
  refine List.filter_eq_nil_iff.mpr fun ev hev => ?_
  rw [h ev hev]
  exact Bool.false_ne_true

variable {ys : List (AgentEvent × TurnState)}

theorem no_reports_yielded (h : ∀ y∈ys,isReport y.1=false) :
    (ys.map Prod.fst).filter isReport=[] := no_reports (List.forall_mem_map.mpr h)

variable {d : Dispatch} {is : List Invocation}

/-- No call was answered, and the run raised. -/
theorem dispatched_halted (hquiet : ∀ y∈ys,isReport y.1=false)
    (hlog : t.invocations=s.invocations++is) (hnone : answered is=[])
    (hmessages : t.messages=s.messages) (k : Halt) : Dispatched cfg s d ⟨ys,.error k,t⟩ [] [] := by
  exact ⟨⟨is,hlog,hnone⟩,no_reports_yielded hquiet,rfl,fun m hm => absurd hm List.not_mem_nil,
    fun d' hd => (by cases hd),fun ho => (by cases ho),fun _ _ => hmessages⟩

/-- An event that could be built has a turn. -/
theorem turnId_of_valid {f : AgentEventFields} (h : eventError f.stripped=none) :
    stripWhitespace f.turnId≠"" := by
  intro hblank
  unfold eventError at h
  rw [if_pos (show f.stripped.turnId="" from hblank)] at h
  cases h

/-- What a block does once its callback has spoken. -/
def afterHook (cfg : LoopConfig) (env : InvokeEnv) (id name : String) (input : Dict)
    (d : Dispatch) : Option (List AgentEvent) → TurnGen (Option Dispatch)
  | some override => do
    emitAll override
    update fun s => s.append ⟨.user,d.toolResults++[.toolResult id "handled" none]⟩
    pure none
  | none => do
    let outcome ← callTool cfg env name input
    let d' ← settleOutcome cfg id name outcome d
    pure (some d')

/-- A block announces itself, asks its callback, and goes on from there. -/
theorem dispatchBlock_eq (cfg : LoopConfig) (env : InvokeEnv) (id name : String) (input : Dict)
    (d : Dispatch) : dispatchBlock cfg env id name input d=(do
      emitBuilt (toolUseFields cfg.sessionId cfg.turnId name input id)
      let answer ← cfg.onToolUse name input
      afterHook cfg env id name input d answer) := by
  unfold dispatchBlock afterHook
  rfl

/-- The callback's events are shown and a placeholder is recorded. -/
theorem afterHook_taken (env : InvokeEnv) (id name : String) (input : Dict) (d : Dispatch)
    (evs : List AgentEvent) (t : TurnState) :
    afterHook cfg env id name input d (some evs) t=⟨evs.map (·,t),.ok none,
      t.append ⟨.user,d.toolResults++[.toolResult id "handled" none]⟩⟩ := by
  rw [afterHook,bind_apply,emitAll_apply,andThen_ok,bind_apply,update_apply,andThen_ok,pure_apply]
  simp only [List.append_nil]

/-- The call is logged; its outcome, if it has one, is settled. -/
theorem afterHook_routed (env : InvokeEnv) (id name : String) (input : Dict) (d : Dispatch)
    (t : TurnState) :
    afterHook cfg env id name input d none t=
      match (blockCall cfg env name input).report.result with
      | .error k => ⟨[],.error k,t.logCall (blockCall cfg env name input)⟩
      | .ok o => (settleOutcome cfg id name o d
          (t.logCall (blockCall cfg env name input))).andThen fun d' => pure (some d') := by
  have hcall : callTool cfg env name input t=
      ((ofExcept (blockCall cfg env name input).report.result : TurnGen _)
        (t.logCall (blockCall cfg env name input))) := rfl
  rw [afterHook,bind_apply,hcall]
  cases (blockCall cfg env name input).report.result with
  | error k => rfl
  | ok o =>
    rw [ofExcept_ok,pure_apply,andThen_ok,bind_apply,List.nil_append]

/-- Calls logged by a block are answered when they have an outcome that asks
for nothing. -/
theorem answered_blockCall {env : InvokeEnv} {name : String} {input : Dict}
    (hresult : (blockCall cfg env name input).report.result=.ok o) :
    answered [blockCall cfg env name input]=
      if o.kind=.approvalNeeded then [] else [blockCall cfg env name input] := by
  unfold answered
  rw [List.filter_cons,hresult]
  dsimp only
  by_cases hkind : o.kind=.approvalNeeded
  · rw [if_pos hkind,if_neg (by rw [decide_eq_true_iff]; exact fun h => h hkind)]
    rfl
  · rw [if_neg hkind,if_pos (decide_eq_true hkind)]
    rfl

/-- What follows the callback has at most one telling: the call's. -/
theorem afterHook_dispatched (hid : stripWhitespace cfg.turnId≠"") {id name : String}
    (hname : stripWhitespace name≠"") (hcall : stripWhitespace id≠"") (env : InvokeEnv)
    (input : Dict) (d : Dispatch) (answer : Option (List AgentEvent))
    (hquiet : ∀ evs,answer=some evs → ∀ ev∈evs,isReport ev=false) (t : TurnState) :
    ∃ ms results,Dispatched cfg t d (afterHook cfg env id name input d answer t) ms results := by
  cases answer with
  | some evs =>
    rw [afterHook_taken]
    refine ⟨[],[.toolResult id "handled" none],⟨[],(List.append_nil _).symm,rfl⟩,?_,rfl,
      List.forall_mem_nil _,fun d' hd => (by cases hd),fun _ => rfl,fun k hk => (by cases hk)⟩
    rw [Trace.events,fst_yields]
    exact no_reports (hquiet evs rfl)
  | none =>
    rw [afterHook_routed]
    cases hresult : (blockCall cfg env name input).report.result with
    | error k =>
      have hnone : answered [blockCall cfg env name input]=[] := by
        unfold answered
        rw [List.filter_cons,hresult]
        rfl
      exact ⟨[],[],dispatched_halted (t := t.logCall (blockCall cfg env name input))
        (List.forall_mem_nil _) rfl hnone rfl k⟩
    | ok o =>
      have hone := answered_blockCall hresult
      dsimp only
      by_cases hkind : o.kind=.approvalNeeded
      · rw [if_pos hkind] at hone
        obtain ⟨ys,hys,exit,hrun,hplaceholder⟩ :=
          settleOutcome_asks cfg id name hkind d (t.logCall (blockCall cfg env name input))
        rw [hrun]
        cases exit with
        | error k =>
          rw [andThen_error]
          exact ⟨[],[],dispatched_halted (t := t.logCall (blockCall cfg env name input)) hys rfl hone
            rfl k⟩
        | ok d' =>
          obtain ⟨content,hd'⟩ := hplaceholder d' rfl
          rw [andThen_ok,pure_apply,List.append_nil]
          refine ⟨[],[.toolResult id content none],⟨_,rfl,hone⟩,no_reports_yielded hys,rfl,
            List.forall_mem_nil _,fun d'' hd => ?_,fun ho => (by cases ho),fun k hk => (by cases hk)⟩
          cases hd
          exact ⟨hd',rfl⟩
      · rw [if_neg hkind] at hone
        obtain ⟨ev,⟨hreport,-,hcallId,hpayload⟩,hrun⟩ := settleOutcome_tells hid
          (not_or.mpr ⟨hname,hcall⟩) hkind d (t.logCall (blockCall cfg env name input))
        rw [hrun,andThen_ok,pure_apply,List.append_nil]
        let m : Telling := ⟨id,blockCall cfg env name input,ev,
          compactPayload cfg.rt (reportedPayload o),some (decide (o.kind≠.success))⟩
        refine ⟨[m],[m.block],⟨_,rfl,hone⟩,?_,rfl,?_,fun d' hd => ?_,fun ho => (by cases ho),
          fun k hk => (by cases hk)⟩
        · exact (List.filter_cons_of_pos (p:=isReport) (decide_eq_true hreport)).trans rfl
        · rw [List.forall_mem_singleton]
          exact ⟨o,hresult,rfl,hkind,hpayload,rfl,rfl,hcallId⟩
        · cases hd
          exact ⟨rfl,rfl⟩

variable {ms : List Telling}

/-- A quiet start changes neither the log nor the transcript. -/
theorem Dispatched.after {tr : Trace TurnState AgentEvent Halt (Option Dispatch)}
    {results : List Block} (h : Dispatched cfg t d tr ms results)
    (hquiet : ∀ y∈ys,isReport y.1=false) (hlog : t.invocations=s.invocations)
    (hmessages : t.messages=s.messages) :
    Dispatched cfg s d ⟨ys++tr.yields,tr.exit,tr.state⟩ ms results := by
  obtain ⟨is,his,hcalls⟩ := h.calls
  refine ⟨⟨is,hlog ▸ his,hcalls⟩,?_,h.answers,h.told,fun d' hd => ?_,fun ho => ?_,fun k hk => ?_⟩
  · rw [Trace.events,List.map_append,List.filter_append,no_reports_yielded hquiet,List.nil_append]
    exact h.events
  · obtain ⟨hresults,hsame⟩ := h.collected d' hd
    exact ⟨hresults,hsame.trans hmessages⟩
  · rw [← hmessages]
    exact h.taken ho
  · exact (h.halted k hk).trans hmessages

/-- A block is dispatched with at most one telling. -/
theorem dispatchBlock_dispatched (hook : HookDiscreet cfg) (env : InvokeEnv) (id name : String)
    (input : Dict) (d : Dispatch) (s : TurnState) :
    ∃ ms results,Dispatched cfg s d (dispatchBlock cfg env id name input d s) ms results := by
  rw [dispatchBlock_eq,bind_apply]
  unfold emitBuilt
  cases hb : AgentEvent.build (toolUseFields cfg.sessionId cfg.turnId name input id) with
  | error k =>
    exact ⟨[],[],dispatched_halted (t := s) (List.forall_mem_nil _) (List.append_nil _).symm rfl rfl k⟩
  | ok use =>
    have hvalid := (build_ok_iff.mp hb).1
    have hid : stripWhitespace cfg.turnId≠"" :=
      turnId_of_valid (f := toolUseFields cfg.sessionId cfg.turnId name input id) hvalid
    obtain ⟨hname,hcall⟩ := (toolUse_valid_iff hid name input id).mp hvalid
    have huse : isReport use=false := by
      unfold isReport
      rw [build_kind hb]
      rfl
    have hquiet := hook.quiet name input s
    have hanswers := hook.answers name input s
    have hlog := hook.log name input s
    have hmessages := hook.transcript name input s
    change ∃ ms results,Dispatched cfg s d ((⟨[(use,s)],.ok (),s⟩ : Trace TurnState AgentEvent Halt
      Unit).andThen _) ms results
    rw [andThen_ok,bind_apply]
    generalize cfg.onToolUse name input s=tr at hquiet hanswers hlog hmessages
    obtain ⟨ys,exit,t⟩ := tr
    dsimp only at hquiet hanswers hlog hmessages
    have hbefore : ∀ y∈(use,s)::ys,isReport y.1=false := List.forall_mem_cons.mpr ⟨huse,hquiet⟩
    cases exit with
    | error k =>
      rw [andThen_error]
      exact ⟨[],[],dispatched_halted (t := t) hbefore (by rw [hlog,List.append_nil]) rfl hmessages k⟩
    | ok answer =>
      rw [andThen_ok,List.singleton_append,← List.cons_append]
      obtain ⟨ms,results,hrest⟩ := afterHook_dispatched hid hname hcall env input d
        answer (fun evs he => hanswers evs (congrArg Except.ok he)) t
      exact ⟨ms,results,hrest.after hbefore hlog hmessages⟩

/-- One block, then those behind it. -/
theorem Dispatched.andThen {tr : Trace TurnState AgentEvent Halt (Option Dispatch)}
    {results : List Block} {rest : Option Dispatch → TurnGen (Option Dispatch)}
    (h : Dispatched cfg s d tr ms results) (hnone : rest none tr.state=⟨[],.ok none,tr.state⟩)
    (hrest : ∀ d',tr.exit=.ok (some d') →
      ∃ ms' results',Dispatched cfg tr.state d' (rest (some d') tr.state) ms' results') :
    ∃ ms' results',Dispatched cfg s d (tr.andThen rest) ms' results' := by
  obtain ⟨ys,exit,t⟩ := tr
  cases exit with
  | error k => exact ⟨ms,results,h⟩
  | ok answer =>
    rw [andThen_ok]
    cases answer with
    | none =>
      dsimp only at hnone
      rw [hnone,List.append_nil]
      exact ⟨ms,results,h⟩
    | some d' =>
      obtain ⟨hresults,hmessages⟩ := h.collected d' rfl
      obtain ⟨ms',results',h'⟩ := hrest d' rfl
      obtain ⟨is,his,hcalls⟩ := h.calls
      obtain ⟨js,hjs,hcalls'⟩ := h'.calls
      refine ⟨ms++ms',results++results',⟨is++js,?_,?_⟩,?_,?_,?_,fun d'' hd => ?_,fun ho => ?_,
        fun k hk => (h'.halted k hk).trans hmessages⟩
      · rw [hjs,his,List.append_assoc]
      · rw [answered_append,hcalls,hcalls',List.map_append]
      · rw [Trace.events,List.map_append,List.filter_append,List.map_append,← h.events,← h'.events]
        rfl
      · rw [List.filter_append,h.answers,h'.answers,List.map_append]
      · intro m hm
        exact (List.mem_append.mp hm).elim (h.told m) (h'.told m)
      · obtain ⟨hresults',hmessages'⟩ := h'.collected d'' hd
        exact ⟨by rw [hresults',hresults,List.append_assoc],hmessages'.trans hmessages⟩
      · rw [h'.taken ho,hresults,List.append_assoc]
        exact congrArg (·++_) hmessages

/-- The blocks of a reply. -/
theorem dispatchBlocks_dispatched (hook : HookDiscreet cfg) (tools : Nat → InvokeEnv)
    (blocks : List SdkBlock) (n : Nat) (d : Dispatch) (s : TurnState) :
    ∃ ms results,Dispatched cfg s d (dispatchBlocks cfg tools blocks n d s) ms results := by
  induction blocks generalizing n d s with
  | nil =>
    exact ⟨[],[],⟨[],(List.append_nil _).symm,rfl⟩,rfl,rfl,List.forall_mem_nil _,
      fun d' hd => by cases hd; exact ⟨(List.append_nil _).symm,rfl⟩,fun ho => (by cases ho),
      fun k hk => (by cases hk)⟩
  | cons b blocks ih =>
    cases b with
    | text text => exact ih (n+1) d s
    | other type => exact ih (n+1) d s
    | dict block => exact ih (n+1) d s
    | toolUse id name input =>
      obtain ⟨ms,results,hblock⟩ := dispatchBlock_dispatched hook (tools n) id name input d s
      exact hblock.andThen rfl fun d' _ => ih (n+1) d' _

/-- The tellings of a part of the loop, relative to the state it started in. -/
structure Recounts {α : Type} (cfg : LoopConfig) (s : TurnState)
    (tr : Trace TurnState AgentEvent Halt α) (noted dropped : List Telling) : Prop where
  calls : ∃ is,tr.state.invocations=s.invocations++is ∧
    answered is=(noted++dropped).map Telling.call
  events : tr.events.filter isReport=(noted++dropped).map Telling.event
  answers : ∃ ms,tr.state.messages=s.messages++ms ∧
    (blocksOf .user ms).filter isAnswer=noted.map Telling.block
  finished : ∀ a,tr.exit=.ok a → dropped=[]
  told : ∀ m∈noted++dropped,∃ o,Told cfg m o

variable {noted dropped : List Telling}

variable {α : Type} {tr : Trace TurnState AgentEvent Halt α}

theorem Recounts.tells (h : Recounts cfg s tr noted dropped) : Tells s tr noted dropped := by
  obtain ⟨is,his,hcalls⟩ := h.calls
  obtain ⟨ms,hms,hanswers⟩ := h.answers
  refine ⟨?_,h.events,?_,h.finished,fun m hm => ?_⟩
  · rw [newCalls,his,List.drop_left]
    exact hcalls
  · rw [newAnswers,hms,List.drop_left]
    exact hanswers
  · obtain ⟨o,ho⟩ := h.told m hm
    exact ho.id

/-- A part that reports on no call. -/
theorem recounts_quiet {ms : List Message} (hquiet : ∀ ev∈tr.events,isReport ev=false)
    (hlog : tr.state.invocations=s.invocations) (hmessages : tr.state.messages=s.messages++ms)
    (hms : (blocksOf .user ms).filter isAnswer=[]) : Recounts cfg s tr [] [] := by
  exact ⟨⟨[],hlog.trans (List.append_nil _).symm,rfl⟩,no_reports hquiet,⟨ms,hmessages,hms⟩,
    fun _ _ => rfl,List.forall_mem_nil _⟩

/-- One part, then the next: a part that returned dropped nothing. -/
theorem Recounts.andThen {β : Type} {rest : α → TurnGen β} (h : Recounts cfg s tr noted dropped)
    (hrest : ∀ a,tr.exit=.ok a →
      ∃ noted' dropped',Recounts cfg tr.state (rest a tr.state) noted' dropped') :
    ∃ noted' dropped',Recounts cfg s (tr.andThen rest) noted' dropped' := by
  obtain ⟨ys,exit,t⟩ := tr
  cases exit with
  | error k =>
    rw [andThen_error]
    exact ⟨noted,dropped,h.calls,h.events,h.answers,fun a ha => (by cases ha),h.told⟩
  | ok a =>
    rw [andThen_ok]
    obtain ⟨noted',dropped',h'⟩ := hrest a rfl
    obtain ⟨is,his,hcalls⟩ := h.calls
    obtain ⟨js,hjs,hcalls'⟩ := h'.calls
    obtain ⟨ms,hms,hanswers⟩ := h.answers
    obtain ⟨ns,hns,hanswers'⟩ := h'.answers
    have hevents := h.events
    have htold := h.told
    rw [h.finished a rfl,List.append_nil] at hcalls hevents htold
    refine ⟨noted++noted',dropped',⟨is++js,?_,?_⟩,?_,⟨ms++ns,?_,?_⟩,h'.finished,fun m hm => ?_⟩
    · rw [hjs,his,List.append_assoc]
    · rw [answered_append,hcalls,hcalls',List.append_assoc,← List.map_append]
    · rw [Trace.events,List.map_append,List.filter_append,List.append_assoc,List.map_append,
        ← hevents,← h'.events]
      rfl
    · rw [hns,hms,List.append_assoc]
    · rw [blocksOf_append,List.filter_append,hanswers,hanswers',List.map_append]
    · rw [List.append_assoc] at hm
      exact (List.mem_append.mp hm).elim (htold m) (h'.told m)

/-- The answers in one user message. -/
theorem blocksOf_results (results : List Block) : blocksOf .user [⟨.user,results⟩]=results := by
  simp [blocksOf]

/-- A dispatch that ran through is recounted by what notes its results. -/
theorem Dispatched.recounts {tr : Trace TurnState AgentEvent Halt (Option Dispatch)}
    {results : List Block} (h : Dispatched cfg s d tr ms results)
    {tr' : Trace TurnState AgentEvent Halt α} {ns : List Message} (hevents : tr'.events=tr.events)
    (hlog : tr'.state.invocations=tr.state.invocations)
    (hmessages : tr'.state.messages=s.messages++ns) (hns : blocksOf .user ns=results) :
    Recounts cfg s tr' ms [] := by
  obtain ⟨is,his,hcalls⟩ := h.calls
  refine ⟨⟨is,hlog.trans his,?_⟩,?_,⟨ns,hmessages,hns ▸ h.answers⟩,fun _ _ => rfl,?_⟩
  · rw [List.append_nil]
    exact hcalls
  · rw [List.append_nil,hevents]
    exact h.events
  · rw [List.append_nil]
    exact h.told

/-- The dispatch of a reply recounts its calls; they are noted once the reply
is through. -/
theorem recordReply_recounts (hook : HookDiscreet cfg) (tools : Nat → InvokeEnv)
    (m : FinalMessage) (s : TurnState) :
    ∃ noted dropped,Recounts cfg s (recordReply cfg tools m s) noted dropped := by
  unfold recordReply
  rw [bind_apply,update_apply]
  have hreply : Recounts cfg s
      (⟨[],.ok (),s.append (assistantMessage m)⟩ : Trace TurnState AgentEvent Halt Unit) [] [] :=
    recounts_quiet (List.forall_mem_nil _) rfl rfl rfl
  refine hreply.andThen fun _ _ => ?_
  split
  · rw [bind_apply]
    obtain ⟨ms,results,h⟩ :=
      dispatchBlocks_dispatched hook tools m.content 0 {} (s.append (assistantMessage m))
    generalize dispatchBlocks cfg tools m.content 0 {} (s.append (assistantMessage m))=tr at h
    obtain ⟨ys,exit,t⟩ := tr
    cases exit with
    | error k =>
      rw [andThen_error]
      exact ⟨[],ms,h.calls,h.events,⟨[],(h.halted k rfl).trans (List.append_nil _).symm,rfl⟩,
        fun a ha => (by cases ha),h.told⟩
    | ok answer =>
      rw [andThen_ok]
      cases answer with
      | none =>
        have hevents : (ys++[]).map Prod.fst=ys.map Prod.fst := by rw [List.append_nil]
        exact ⟨ms,[],h.recounts hevents rfl (h.taken rfl) (blocksOf_results _)⟩
      | some d' =>
        obtain ⟨hresults,hmessages⟩ := h.collected d' rfl
        have hcollected : d'.toolResults=results := hresults.trans (List.nil_append _)
        have hevents : (ys++[]).map Prod.fst=ys.map Prod.fst := by rw [List.append_nil]
        dsimp only
        rw [bind_apply,appendResults]
        by_cases hnone : d'.toolResults=[]
        · rw [if_pos hnone,pure_apply,andThen_ok,pure_apply]
          have hnothing : blocksOf .user []=results := by
            rw [← hcollected,hnone]
            rfl
          exact ⟨ms,[],h.recounts hevents rfl (hmessages.trans (List.append_nil _).symm) hnothing⟩
        · rw [if_neg hnone,update_apply,andThen_ok,pure_apply]
          have hnoted : (t.append ⟨.user,d'.toolResults⟩).messages=
              (s.append (assistantMessage m)).messages++[⟨.user,d'.toolResults⟩] :=
            congrArg (·++[(⟨.user,d'.toolResults⟩ : Message)]) hmessages
          exact ⟨ms,[],h.recounts hevents rfl hnoted ((blocksOf_results _).trans hcollected)⟩
  · exact ⟨[],[],recounts_quiet (List.forall_mem_nil _) rfl (List.append_nil _).symm rfl⟩

/-- A stream shows texts, or one error, and calls nothing. -/
theorem streamPhase_recounts (call : ModelCall) (s : TurnState) :
    Recounts cfg s (streamPhase cfg call s) [] [] := by
  unfold streamPhase
  cases hstream : streamCall cfg.sessionId cfg.turnId call.attempts with
  | cancelled => exact recounts_quiet (List.forall_mem_nil _) rfl (List.append_nil _).symm rfl
  | failed e =>
    dsimp only
    rw [bind_apply]
    unfold emitBuilt
    cases hb : AgentEvent.build (errorFields cfg.sessionId cfg.turnId (streamErrorText e)) with
    | error k => exact recounts_quiet (List.forall_mem_nil _) rfl (List.append_nil _).symm rfl
    | ok ev =>
      have hquiet : isReport ev=false := by
        unfold isReport
        rw [build_kind hb]
        rfl
      exact recounts_quiet (List.forall_mem_singleton.mpr hquiet) rfl (List.append_nil _).symm rfl
  | streamed st =>
    dsimp only
    rw [bind_apply,emitAll_apply,andThen_ok,pure_apply]
    refine recounts_quiet (fun ev hev => ?_) rfl (List.append_nil _).symm rfl
    rw [Trace.events,List.append_nil,fst_yields] at hev
    obtain ⟨text,hb⟩ := streamCall_textDelta hstream ev hev
    unfold isReport
    rw [build_kind hb]
    rfl

/-- One round. -/
theorem agentRound_recounts (hook : HookDiscreet cfg) (call : ModelCall) (s : TurnState) :
    ∃ noted dropped,Recounts cfg s (agentRound cfg call s) noted dropped := by
  unfold agentRound
  rw [bind_apply,update_apply]
  have hrequest : Recounts cfg s (⟨[],.ok (),s.logRequest (anthropicToolDefs cfg.rt cfg.toolNames)⟩ :
      Trace TurnState AgentEvent Halt Unit) [] [] :=
    recounts_quiet (List.forall_mem_nil _) rfl (List.append_nil _).symm rfl
  refine hrequest.andThen fun _ _ => ?_
  rw [bind_apply]
  refine (streamPhase_recounts call _).andThen fun o _ => ?_
  cases o with
  | none => exact ⟨[],[],recounts_quiet (List.forall_mem_nil _) rfl (List.append_nil _).symm rfl⟩
  | some m => exact recordReply_recounts hook call.tools m _

/-- The rounds of a loop. -/
theorem agentLoop_recounts (hook : HookDiscreet cfg) (calls : Nat → ModelCall) (left n : Nat)
    (s : TurnState) : ∃ noted dropped,Recounts cfg s (agentLoop cfg calls left n s) noted dropped := by
  induction left generalizing n s with
  | zero => exact ⟨[],[],recounts_quiet (List.forall_mem_nil _) rfl (List.append_nil _).symm rfl⟩
  | succ left ih =>
    unfold agentLoop
    rw [bind_apply]
    obtain ⟨noted,dropped,hround⟩ := agentRound_recounts hook (calls n) s
    refine hround.andThen fun again _ => ?_
    cases again with
    | true => exact ih (n+1) _
    | false => exact ⟨[],[],recounts_quiet (List.forall_mem_nil _) rfl (List.append_nil _).symm rfl⟩

/-! ## Callbacks -/

/-- Agents without a callback. -/
theorem discreet_of_none (h : cfg.onToolUse=fun _ _ => pure none) : HookDiscreet cfg := by
  have hrun : ∀ name input s,cfg.onToolUse name input s=⟨[],.ok none,s⟩ := fun name input s => by
    rw [h]
    rfl
  refine ⟨fun name input s => ?_,fun name input s evs => ?_,fun name input s => ?_,
    fun name input s => ?_⟩
  all_goals rw [hrun]
  · exact List.forall_mem_nil _
  · exact fun he => by cases he

/-! ## Truthful runs -/

/-- Tellings of the same calls and events have counterparts. -/
theorem exists_counterpart {ms' : List Telling} (hcalls : ms.map Telling.call=ms'.map Telling.call)
    (hevents : ms.map Telling.event=ms'.map Telling.event) :
    ∀ m'∈ms',∃ m∈ms,m.call=m'.call ∧ m.event=m'.event := by
  induction ms generalizing ms' with
  | nil =>
    intro m' hm'
    rw [List.map_eq_nil_iff.mp hcalls.symm] at hm'
    exact absurd hm' List.not_mem_nil
  | cons m ms ih =>
    cases ms' with
    | nil => cases hcalls
    | cons n ns =>
      obtain ⟨hcall,hcalls⟩ := List.cons.inj hcalls
      obtain ⟨hevent,hevents⟩ := List.cons.inj hevents
      intro m' hm'
      rcases List.mem_cons.mp hm' with he|hm'
      · rw [he]
        exact ⟨m,List.mem_cons_self,hcall,hevent⟩
      · obtain ⟨k,hk,hsame⟩ := ih hcalls hevents m' hm'
        exact ⟨k,List.mem_cons_of_mem _ hk,hsame⟩

/-- A call that does not speak for itself was answered. -/
theorem mem_answered {i : Invocation} (hi : i∈is) (h : speaks cfg.rt i≠true) : i∈answered is := by
  refine List.mem_filter.mpr ⟨hi,?_⟩
  unfold speaks at h
  cases hresult : i.report.result with
  | error k =>
    rw [hresult] at h
    exact absurd rfl h
  | ok o =>
    rw [hresult] at h
    dsimp only at h ⊢
    refine decide_eq_true fun hkind => ?_
    rw [hkind] at h
    exact absurd rfl h

/-- In a run told truthfully every call speaks for itself. -/
theorem speaks_of_truthful (hquotes : QuotesTexts cfg.rt) {noted' dropped' : List Telling}
    (hactual : Recounts cfg s tr noted' dropped') (htells : Tells s tr noted dropped)
    (htrue : ∀ m∈noted++dropped,Truthful cfg.rt m) :
    ∀ i∈newCalls s tr.state,speaks cfg.rt i=true := by
  intro i hi
  by_contra hmute
  have hcalls := htells.calls.symm.trans hactual.tells.calls
  have hevents := htells.events.symm.trans hactual.tells.events
  have hanswered : i∈(noted'++dropped').map Telling.call := by
    rw [← hactual.tells.calls]
    exact mem_answered hi hmute
  obtain ⟨m',hm',rfl⟩ := List.mem_map.mp hanswered
  obtain ⟨m,hm,hcall,hevent⟩ := exists_counterpart hcalls hevents m' hm'
  obtain ⟨payload,hpayload,-,hmeans⟩ := htrue m hm
  obtain ⟨o,htold⟩ := hactual.told m' hm'
  rw [hcall] at hmeans
  rw [hevent] at hpayload
  exact hmute (htold.speaks hquotes hpayload hmeans)

/-- What the model and the client are told of the calls of a run is what
happened exactly when every call that succeeded was left by its handler with a
dictionary that is not empty and has trimmed keys. -/
theorem calls_told_iff (hquotes : QuotesTexts cfg.rt) (hook : HookDiscreet cfg)
    (calls : Nat → ModelCall) (s : TurnState) :
    (∃ noted dropped,Tells s (runAgentTurn cfg calls s) noted dropped ∧
      ∀ m∈noted++dropped,Truthful cfg.rt m) ↔
      ∀ i∈newCalls s (runAgentTurn cfg calls s).state,speaks cfg.rt i=true := by
  obtain ⟨noted',dropped',hactual⟩ := agentLoop_recounts hook calls maxToolLoops 0 s
  constructor
  · rintro ⟨noted,dropped,htells,htrue⟩
    exact speaks_of_truthful hquotes hactual htells htrue
  · intro hspeaks
    refine ⟨noted',dropped',hactual.tells,fun m hm => ?_⟩
    obtain ⟨o,htold⟩ := hactual.told m hm
    refine htold.truthful hquotes (hspeaks m.call ?_)
    have hanswered : m.call∈answered (newCalls s (runAgentTurn cfg calls s).state) := by
      have hcalls : answered (newCalls s (runAgentTurn cfg calls s).state)=_ := hactual.tells.calls
      rw [hcalls]
      exact List.mem_map_of_mem hm
    exact (List.mem_filter.mp hanswered).1

/-- An agent at the lookup desk. -/
def lookupLoop : LoopConfig :=
  {rt := lookupDesk
   sessionId := "01900000-0000-7000-8000-000000000003"
   turnId := "t-0123456789ab"
   toolNames := ["read_pnr"]
   ctx := deskContext []}

/-- A reservation is looked up and found to hold these fields; then the agent
is done. -/
def lookupCalls (found : Dict) (n : Nat) : ModelCall :=
  if n=0 then
    {lookupCall ⟨some "tool_use",[lookupBlock]⟩ with
      tools := fun _ =>
        {auditId := "01900000-0000-7000-8000-0000000000aa",handler := fun _ => .returned (.dict found)}}
  else lookupCall ⟨some "end_turn",[.text "Done"]⟩

/-- The desk's quotes are never blank. -/
theorem lookupLoop_quotes : QuotesTexts lookupLoop.rt := fun s => by
  have hrepr : lookupLoop.rt.reprStr s="'"++s++"'" := rfl
  rw [hrepr]
  exact refusal_nonblank (c := Char.ofNat 39) (by simp) (by decide)

theorem lookupLoop_discreet : HookDiscreet lookupLoop := discreet_of_none rfl

/-- A reservation with a locator is told as it was found. -/
theorem calls_told_lookup :
    (newCalls {} (runAgentTurn lookupLoop (lookupCalls [("locator",.str "ABC123")]) {}).state).length=1 ∧
    ∃ noted dropped,Tells {} (runAgentTurn lookupLoop (lookupCalls [("locator",.str "ABC123")]) {})
      noted dropped ∧ ∀ m∈noted++dropped,Truthful lookupLoop.rt m :=
  ⟨by decide +kernel,(calls_told_iff lookupLoop_quotes lookupLoop_discreet
    (lookupCalls [("locator",.str "ABC123")]) {}).mpr (by decide +kernel)⟩

/-- A lookup that found nothing to report succeeded, and the model reads of an
unknown error. -/
theorem lookup_told_as_error :
    newAnswers {} (runAgentTurn lookupLoop (lookupCalls []) {}).state=
      [.toolResult "toolu_02" "\x7b\"error\":\"unknown tool error\"\x7d" (some false)] ∧
    ¬∃ noted dropped,Tells {} (runAgentTurn lookupLoop (lookupCalls []) {}) noted dropped ∧
      ∀ m∈noted++dropped,Truthful lookupLoop.rt m := by
  refine ⟨by decide +kernel,?_⟩
  rintro ⟨noted,dropped,htells,htrue⟩
  obtain ⟨noted',dropped',hactual⟩ :=
    agentLoop_recounts lookupLoop_discreet (lookupCalls []) maxToolLoops 0 {}
  have hspeaks := speaks_of_truthful lookupLoop_quotes hactual htells htrue
  exact absurd hspeaks (by decide +kernel)

end Voyagent.ToolReports
