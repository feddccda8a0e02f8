import Voyagent.AgentEvents

/-!
# One tool call: validation, role check, approval gate, handler, audit

The registry, the gate and the audited execution of a tool. What the world
does during one call (handler answers, minted id, clock, sink failures) is
an argument of the call, so every behaviour of handlers and sinks is some
value of it. The JSON-schema validator, the registered summary functions and
Python's `repr` stay parameters of the runtime.
-/

namespace Voyagent.ToolInvocation

open RuntimeValues KeyedMap TrimmedText AgentEvents

/-- Kinds of acting principals. -/
inductive ActorKind where
  | human | agent | system
  deriving DecidableEq

/-- Status of an audit row. -/
inductive AuditStatus where
  | started | succeeded | failed | rejected | cancelled
  deriving DecidableEq

/-- One write to the audit sink. -/
structure AuditEvent where
  id : EntityId
  tenantId : EntityId
  actorId : EntityId
  actorKind : ActorKind
  tool : String
  inputs : Dict
  outputs : Dict := []
  error : Option String := none
  approvalRequired : Bool := false
  approvedBy : Option EntityId := none
  approvedAt : Option Time := none
  startedAt : Time
  completedAt : Option Time := none
  status : AuditStatus := .started
  deriving DecidableEq

/-- What a handler hands back: a dictionary as its type says, `None`, or a
value that is neither. -/
inductive HandlerOutput where
  | dict (d : Dict)
  | none
  | other
  deriving DecidableEq

/-- How one call of a handler ends. -/
inductive HandlerAnswer where
  | returned (output : HandlerOutput)
  | raised (e : Exn)
  /-- The task was cancelled while the handler ran. -/
  | cancelled
  deriving DecidableEq

/-- Result of `output_schema.model_validate`. -/
inductive OutputVerdict where
  | valid
  | invalid (text : String)
  | raised (e : Exn)
  deriving DecidableEq

/-- A model class used to check handler output. -/
structure OutputSchema where
  name : String
  modelValidate : HandlerOutput → OutputVerdict

/-- Static metadata about a tool. -/
structure ToolSpec where
  name : String
  inputSchema : Json
  outputSchema : Option OutputSchema := none
  sideEffect : Bool := false
  approvalRequired : Bool := false
  approvalRoles : List String := []
  /-- Field validation strips the name and rejects an empty one. -/
  name_bare : stripWhitespace name=name ∧ name≠""

/-- Tools by name. -/
structure Registry where
  tools : Table String ToolSpec
  /-- A tool is stored under its own name. -/
  keyed : ∀ k spec,get tools k=some spec → spec.name=k

/-- The registry of a fresh process. -/
def Registry.empty : Registry := ⟨[],fun _ _ h => by cases h⟩

/-- Result of `jsonschema.validate(tool_input, input_schema)`. -/
inductive SchemaVerdict where
  | valid
  | invalid (message : String)
  /-- An error other than `jsonschema.ValidationError`. -/
  | raised (e : Exn)
  deriving DecidableEq

/-- Process-wide surroundings of a call. -/
structure Runtime where
  registry : Registry
  /-- The third-party schema validator. -/
  validate : Dict → Json → SchemaVerdict
  /-- Functions registered by `register_approval_summary`. -/
  summaryFns : Table String (Dict → Except Exn String) := []
  /-- Python's `repr`, which is also `str` on floats. -/
  repr : Json → String

/-- `f"{s!r}"`. -/
def Runtime.reprStr (rt : Runtime) (s : String) : String := rt.repr (.str s)

/-- `f"{list(names)}"`. -/
def Runtime.reprList (rt : Runtime) (names : List String) : String :=
  rt.repr (.arr (names.map Json.str))

/-- Register a tool; a taken name raises. -/
def registerTool (rt : Runtime) (spec : ToolSpec) : Except Exn Registry :=
  match get rt.registry.tools spec.name with
  | some _ => .error ⟨"ValueError",[],"Tool "++rt.reprStr spec.name++" is already registered.",none⟩
  | none => .ok ⟨set rt.registry.tools spec.name spec,fun k s h => by
      rw [get_set] at h
      split at h
      · rename_i hk; cases h; exact hk
      · exact rt.registry.keyed k s h⟩

/-- The registered tool, or a `KeyError` whose text is the quoted message. -/
def getTool (rt : Runtime) (name : String) : Except Exn ToolSpec :=
  match get rt.registry.tools name with
  | some spec => .ok spec
  | none => .error ⟨"KeyError",["LookupError"],
      rt.reprStr ("No tool registered as "++rt.reprStr name++"."),none⟩

/-- Per-turn context passed to every call. -/
structure ToolContext where
  tenantId : EntityId
  actorId : EntityId
  actorKind : ActorKind
  sessionId : EntityId
  turnId : String
  actorRole : String := "agent"
  approvals : Table String Bool := []

/-- `ToolContext(...)`: declared strings and approval keys are stripped. -/
def ToolContext.stripped (c : ToolContext) : ToolContext :=
  {c with
   turnId := stripWhitespace c.turnId
   actorRole := stripWhitespace c.actorRole
   approvals := stripKeys c.approvals}

/-- Outcome kinds of a call. -/
inductive OutcomeKind where
  | success | error | approvalNeeded | permissionDenied
  deriving DecidableEq

/-- Result of one call. -/
structure ToolInvocationOutcome where
  kind : OutcomeKind
  output : Option Dict := none
  errorMessage : Option String := none
  message : Option String := none
  approvalId : Option String := none
  approvalSummary : Option String := none
  auditId : Option EntityId := none
  deriving DecidableEq

/-- Construction of an outcome strips its strings and output keys. -/
def ToolInvocationOutcome.stripped (o : ToolInvocationOutcome) : ToolInvocationOutcome :=
  {kind := o.kind
   output := o.output.map stripKeys
   errorMessage := o.errorMessage.map stripWhitespace
   message := o.message.map stripWhitespace
   approvalId := o.approvalId.map stripWhitespace
   approvalSummary := o.approvalSummary.map stripWhitespace
   auditId := o.auditId}

/-- The approval id of a tool within a turn. -/
def approvalIdFor (turnId toolName : String) : String := "ap-"++turnId++"-"++toolName

/-- The default sentence, built from the first three arguments. -/
def defaultSummary (rt : Runtime) (name : String) (input : Dict) : String :=
  let brief := joinWith ", " ((input.take 3).map fun e => e.1++"="++rt.repr e.2)
  "Approve tool `"++name++"` with "++brief++"?"

/-- The sentence shown to the approver; a raising renderer falls back. -/
def summaryFor (rt : Runtime) (name : String) (input : Dict) : String :=
  match get rt.summaryFns name with
  | some specific =>
    match specific input with
    | .ok s => s
    | .error _ => defaultSummary rt name input
  | none => defaultSummary rt name input

/-- `_jsonable` on one member: floats are the only JSON values shown as text. -/
def jsonableValue (rt : Runtime) : Json → Json
  | .float q => .str (rt.repr (.float q))
  | v => v

/-- `_jsonable` on a dictionary. -/
def jsonable (rt : Runtime) (d : Dict) : Dict := d.map fun e => (e.1,jsonableValue rt e.2)

/-- What the world does during one call. -/
structure InvokeEnv where
  /-- The id `_uuid7_like` mints for this call's audit event. -/
  auditId : EntityId
  /-- Clock when the event is opened. -/
  startedAt : Time := 0
  /-- Clock when it is closed. -/
  completedAt : Time := 0
  /-- Exception the sink raises on a write of this status, if any. -/
  sinkRaises : AuditStatus → Option Exn := fun _ => none
  /-- The handler's answer on its n-th call, counted from one. -/
  handler : Nat → HandlerAnswer

/-- Observable effects of a call, in order. -/
inductive Effect where
  /-- A write received by the audit sink. -/
  | audit (event : AuditEvent)
  /-- The handler was started. -/
  | handler (tool : String) (input : Dict)
  deriving DecidableEq

/-- What one call did and how it ended. -/
structure InvokeReport where
  effects : List Effect
  result : Except Halt ToolInvocationOutcome
  deriving DecidableEq

/-- Write to the sink and continue, unless the sink raises. -/
def writeAudit (env : InvokeEnv) (event : AuditEvent) (rest : InvokeReport) : InvokeReport :=
  match env.sinkRaises event.status with
  | some e => ⟨[.audit event],.error (.raised e)⟩
  | none => ⟨.audit event::rest.effects,rest.result⟩

/-- A call that returns without touching handler or sink. -/
def answer (o : ToolInvocationOutcome) : InvokeReport := ⟨[],.ok o.stripped⟩

/-- The role check made before the approval gate. -/
def roleDenied (spec : ToolSpec) (ctx : ToolContext) : Bool :=
  spec.approvalRequired && !spec.approvalRoles.isEmpty &&
    !spec.approvalRoles.contains ctx.actorRole

/-- What the approval gate says. -/
inductive GateVerdict where
  | undecided | denied | passed
  deriving DecidableEq

/-- The gate: side-effect tools that need approval look their id up. -/
def approvalGate (spec : ToolSpec) (ctx : ToolContext) (name : String) : GateVerdict :=
  if spec.sideEffect && spec.approvalRequired then
    match get ctx.approvals (approvalIdFor ctx.turnId name) with
    | none => .undecided
    | some false => .denied
    | some true => .passed
  else .passed

/-- The tool is gated by approval. -/
def Gated (spec : ToolSpec) : Prop := spec.sideEffect=true ∧ spec.approvalRequired=true

/-- Every audit event starts from the same call data. -/
def auditBase (rt : Runtime) (env : InvokeEnv) (ctx : ToolContext) (name : String)
    (input : Dict) : AuditEvent :=
  {id := env.auditId
   tenantId := ctx.tenantId
   actorId := ctx.actorId
   actorKind := ctx.actorKind
   tool := stripWhitespace name
   inputs := stripKeys (jsonable rt input)
   startedAt := env.startedAt}

/-- How the handler phase ended. -/
inductive ExecResult where
  /-- Last output, the validation complaint about it, and the attempts made. -/
  | output (o : HandlerOutput) (lastError : Option String) (attempts : Nat)
  | raised (e : Exn)
  | cancelled

/-- Handler phase: how often the handler was called and how it ended. -/
structure ExecReport where
  calls : Nat
  result : ExecResult

/-- One handler call and the validation of what it returned. -/
def handlerOnce (schema : Option OutputSchema) (answered : HandlerAnswer) (attempt : Nat) :
    ExecResult :=
  match answered with
  | .cancelled => .cancelled
  | .raised e => .raised e
  | .returned o =>
    match schema with
    | none => .output o none attempt
    | some model =>
      match model.modelValidate o with
      | .valid => .output o none attempt
      | .raised e => .raised e
      | .invalid text => .output o (some text) attempt

/-- Call the handler; a rejected output is retried while retries are left. -/
def executeHandler (schema : Option OutputSchema) (handler : Nat → HandlerAnswer) :
    Nat → Nat → ExecReport
  | 0,attempt => ⟨1,handlerOnce schema (handler attempt) attempt⟩
  | left+1,attempt =>
    match handlerOnce schema (handler attempt) attempt with
    | .output _ (some _) _ =>
      let again := executeHandler schema handler left (attempt+1)
      ⟨again.calls+1,again.result⟩
    | result => ⟨1,result⟩

/-- Attempts allowed: one retry when the output has a schema. -/
def maxValidationAttempts (spec : ToolSpec) : Nat := if spec.outputSchema.isSome then 2 else 1

/-- The error text of a failed handler; driver errors show their message. -/
def failureText (e : Exn) : String :=
  match e.driverMessage with
  | some m => e.typeName++": "++m
  | none => e.describe

/-- Close the audit event, if one is open, and continue. -/
def closeAudit (env : InvokeEnv) (audit : Option AuditEvent) (status : AuditStatus)
    (error : Option String) (outputs : Dict) (rest : InvokeReport) : InvokeReport :=
  match audit with
  | none => rest
  | some event =>
    writeAudit env {event with
      status
      error := error.map stripWhitespace
      outputs := stripKeys outputs
      completedAt := some env.completedAt} rest

/-- From the handler's end to the outcome. A success whose output is neither
a dictionary nor `None` fails outcome validation after the success write. -/
def finishCall (rt : Runtime) (env : InvokeEnv) (spec : ToolSpec) (name : String)
    (audit : Option AuditEvent) (result : ExecResult) : InvokeReport :=
  let auditId := audit.map AuditEvent.id
  match result with
  | .cancelled => ⟨[],.error .cancelled⟩
  | .raised e =>
    closeAudit env audit .failed (some (failureText e)) []
      (answer {kind := .error,errorMessage := some (failureText e),auditId})
  | .output _ (some complaint) attempts =>
    let model := (spec.outputSchema.map OutputSchema.name).getD ""
    let text := "tool_output_invalid: "++rt.reprStr name++" returned a payload that did not match "++
      rt.reprStr model++" after "++toString attempts++" attempt(s): "++complaint
    closeAudit env audit .failed (some ("tool_output_invalid: "++complaint)) []
      (answer {kind := .error,errorMessage := some text,auditId})
  | .output (.dict d) none _ =>
    closeAudit env audit .succeeded none (jsonable rt d)
      (answer {kind := .success,output := some d,auditId})
  | .output .none none _ =>
    closeAudit env audit .succeeded none [] (answer {kind := .success,auditId})
  | .output .other none _ =>
    closeAudit env audit .succeeded none []
      ⟨[],.error (.raised (validationError "output: Input should be a valid dictionary"))⟩

/-- Run the handler and finish, logging each handler start. -/
def runHandler (rt : Runtime) (env : InvokeEnv) (spec : ToolSpec) (name : String) (input : Dict)
    (audit : Option AuditEvent) : InvokeReport :=
  let exec := executeHandler spec.outputSchema env.handler (maxValidationAttempts spec-1) 1
  let rest := finishCall rt env spec name audit exec.result
  ⟨List.replicate exec.calls (.handler name input)++rest.effects,rest.result⟩

/-- The audited execution behind the gate. -/
def runWithAudit (rt : Runtime) (env : InvokeEnv) (ctx : ToolContext) (spec : ToolSpec)
    (name : String) (input : Dict) : InvokeReport :=
  if spec.sideEffect then
    let audit := {auditBase rt env ctx name input with
      approvalRequired := spec.approvalRequired
      approvedBy := if spec.approvalRequired then some ctx.actorId else none
      approvedAt := if spec.approvalRequired then some env.startedAt else none
      status := .started}
    writeAudit env audit (runHandler rt env spec name input (some audit))
  else runHandler rt env spec name input none

/-- `invoke_tool`: validate, check the role, gate, execute, audit. -/
def invokeTool (rt : Runtime) (env : InvokeEnv) (ctx : ToolContext) (name : String)
    (input : Dict) : InvokeReport :=
  match getTool rt name with
  | .error e => answer {kind := .error,errorMessage := some e.text}
  | .ok spec =>
    match rt.validate input spec.inputSchema with
    | .raised e => ⟨[],.error (.raised e)⟩
    | .invalid message =>
      let text := "Input validation failed for "++rt.reprStr name++": "++message
      answer {kind := .error,errorMessage := some text}
    | .valid =>
      if roleDenied spec ctx then
        let why := "role "++rt.reprStr ctx.actorRole++" not in approval_roles="++
          rt.reprList spec.approvalRoles
        let text := "Role "++rt.reprStr ctx.actorRole++" is not permitted to invoke tool "++
          rt.reprStr name++"."
        writeAudit env {auditBase rt env ctx name input with
            approvalRequired := true
            completedAt := some env.startedAt
            status := .rejected
            error := some (stripWhitespace ("permission_denied: "++why))}
          (answer
            {kind := .permissionDenied
             message := some why
             errorMessage := some text
             auditId := some env.auditId})
      else
        match approvalGate spec ctx name with
        | .undecided =>
          answer
            {kind := .approvalNeeded
             approvalId := some (approvalIdFor ctx.turnId name)
             approvalSummary := some (summaryFor rt name input)}
        | .denied =>
          writeAudit env {auditBase rt env ctx name input with
              approvalRequired := true
              completedAt := some env.startedAt
              status := .rejected}
            (answer
              {kind := .error
               errorMessage := some ("Approval denied for tool "++rt.reprStr name++".")
               auditId := some env.auditId})
        | .passed => runWithAudit rt env ctx spec name input

/-- Input schema of `issue_ticket`. -/
def issueTicketSchema : Json :=
  .obj [("$schema",.str "https://json-schema.org/draft/2020-12/schema"),("type",.str "object"),
    ("required",.arr [.str "pnr_id"]),
    ("properties",.obj [("pnr_id",.obj [("type",.str "string"),("minLength",.int 1)])]),
    ("additionalProperties",.bool false)]

/-- The `issue_ticket` tool: irreversible, approved by two roles only. -/
def issueTicket : ToolSpec :=
  {name := "issue_ticket"
   inputSchema := issueTicketSchema
   sideEffect := true
   approvalRequired := true
   approvalRoles := ["agency_admin","ticketing_lead"]
   name_bare := by decide}

/-- What the schema validator answers on `issueTicketSchema`. -/
def issueTicketCheck : Dict → SchemaVerdict
  | [("pnr_id",.str s)] => if s="" then .invalid "'' should be non-empty" else .valid
  | _ => .invalid "'pnr_id' is a required property"

/-- A process with that tool alone; `repr` is exact on plain texts. -/
def ticketDesk : Runtime :=
  {registry := ⟨[("issue_ticket",issueTicket)],fun k spec h => by
     simp only [get_cons,get_nil] at h
     split at h
     · rename_i hk
       cases h
       exact hk
     · cases h⟩
   validate := fun input _ => issueTicketCheck input
   repr := fun
     | .str s => "'"++s++"'"
     | _ => ""}

/-- A ticketing lead's turn at that desk, with the decisions on record. -/
def deskContext (approvals : Table String Bool) : ToolContext :=
  {tenantId := "01900000-0000-7000-8000-000000000001"
   actorId := "01900000-0000-7000-8000-000000000002"
   actorKind := .human
   sessionId := "01900000-0000-7000-8000-000000000003"
   turnId := "t-0123456789ab"
   actorRole := "ticketing_lead"
   approvals}

/-- The call found its tool and passed input validation. -/
structure Reached (rt : Runtime) (name : String) (input : Dict) (spec : ToolSpec) : Prop where
  /-- The registry lookup. -/
  registered : getTool rt name=.ok spec
  /-- The schema check. -/
  accepted : rt.validate input spec.inputSchema=.valid

/-- The call passed the role check as well and stands at the gate. -/
structure Cleared (rt : Runtime) (ctx : ToolContext) (name : String) (input : Dict)
    (spec : ToolSpec) : Prop extends Reached rt name input spec where
  /-- The role check. -/
  permitted : roleDenied spec ctx=false

/-- The gate's answer when no decision is on record. -/
def approvalNeeded (rt : Runtime) (ctx : ToolContext) (name : String) (input : Dict) :
    ToolInvocationOutcome :=
  {kind := .approvalNeeded
   approvalId := some (approvalIdFor ctx.turnId name)
   approvalSummary := some (summaryFor rt name input)}

/-- The exits of a call, each with what was established on the way. -/
inductive CallExit (rt : Runtime) (env : InvokeEnv) (ctx : ToolContext) (name : String)
    (input : Dict) : InvokeReport → Prop
  /-- Unknown tool or rejected input. -/
  | unreached (o : ToolInvocationOutcome) (hkind : o.kind=.error)
      (hnone : ∀ spec,¬Reached rt name input spec) : CallExit rt env ctx name input (answer o)
  /-- The schema itself is broken. -/
  | schemaRaised (e : Exn) (hnone : ∀ spec,¬Reached rt name input spec) :
      CallExit rt env ctx name input ⟨[],.error (.raised e)⟩
  /-- The role may not call the tool. -/
  | roleDenied (spec : ToolSpec) (event : AuditEvent) (o : ToolInvocationOutcome)
      (hreached : Reached rt name input spec) (hrole : ToolInvocation.roleDenied spec ctx=true)
      (hevent : event.status=.rejected ∧ event.id=env.auditId) (hkind : o.kind=.permissionDenied) :
      CallExit rt env ctx name input (writeAudit env event (answer o))
  /-- No decision yet. -/
  | undecided (spec : ToolSpec) (hcleared : Cleared rt ctx name input spec)
      (hgate : approvalGate spec ctx name=.undecided) :
      CallExit rt env ctx name input (answer (approvalNeeded rt ctx name input))
  /-- A human said no. -/
  | denied (spec : ToolSpec) (event : AuditEvent) (o : ToolInvocationOutcome)
      (hcleared : Cleared rt ctx name input spec) (hgate : approvalGate spec ctx name=.denied)
      (hevent : event.status=.rejected ∧ event.id=env.auditId) (hkind : o.kind=.error) :
      CallExit rt env ctx name input (writeAudit env event (answer o))
  /-- The handler phase. -/
  | passed (spec : ToolSpec) (hcleared : Cleared rt ctx name input spec)
      (hgate : approvalGate spec ctx name=.passed) :
      CallExit rt env ctx name input (runWithAudit rt env ctx spec name input)

variable {rt : Runtime} {env : InvokeEnv} {ctx : ToolContext} {name : String} {input : Dict}
variable {spec : ToolSpec}

/-- A call reaches at most one specification. -/
theorem Reached.unique {spec' : ToolSpec} (h : Reached rt name input spec)
    (h' : Reached rt name input spec') : spec=spec' := by
  have he := h.registered.symm.trans h'.registered
  cases he
  rfl

/-- A registered name is the tool's own name, hence bare. -/
theorem Reached.name_bare (h : Reached rt name input spec) :
    stripWhitespace name=name ∧ name≠"" := by
  have hr := h.registered
  unfold getTool at hr
  split at hr
  · rename_i s hs
    cases hr
    exact rt.registry.keyed _ _ hs ▸ spec.name_bare
  · cases hr

/-- Every call takes one of the exits. -/
theorem invokeTool_exit (rt : Runtime) (env : InvokeEnv) (ctx : ToolContext) (name : String)
    (input : Dict) : CallExit rt env ctx name input (invokeTool rt env ctx name input) := by
  unfold invokeTool
  cases hget : getTool rt name with
  | error e =>
    exact .unreached _ rfl fun spec h => by have he := hget.symm.trans h.registered; cases he
  | ok spec =>
    have hspec : ∀ spec',Reached rt name input spec' → spec'=spec := fun spec' h => by
      have he := hget.symm.trans h.registered
      cases he
      rfl
    dsimp only
    cases hval : rt.validate input spec.inputSchema with
    | raised e =>
      refine .schemaRaised e fun spec' h => ?_
      have ha := h.accepted
      rw [hspec spec' h,hval] at ha
      cases ha
    | invalid message =>
      refine .unreached _ rfl fun spec' h => ?_
      have ha := h.accepted
      rw [hspec spec' h,hval] at ha
      cases ha
    | valid =>
      dsimp only
      cases hrole : ToolInvocation.roleDenied spec ctx with
      | true =>
        rw [if_pos rfl]
        exact .roleDenied spec _ _ ⟨hget,hval⟩ hrole ⟨rfl,rfl⟩ rfl
      | false =>
        rw [if_neg Bool.false_ne_true]
        cases hgate : approvalGate spec ctx name with
        | undecided => exact .undecided spec ⟨⟨hget,hval⟩,hrole⟩ hgate
        | denied => exact .denied spec _ _ ⟨⟨hget,hval⟩,hrole⟩ hgate ⟨rfl,rfl⟩ rfl
        | passed => exact .passed spec ⟨⟨hget,hval⟩,hrole⟩ hgate

/-- A cleared call is decided by the gate alone. -/
theorem invokeTool_undecided (h : Cleared rt ctx name input spec)
    (hgate : approvalGate spec ctx name=.undecided) :
    invokeTool rt env ctx name input=answer (approvalNeeded rt ctx name input) := by
  unfold invokeTool
  simp only [h.registered,h.accepted,h.permitted,hgate,Bool.false_eq_true,if_false,approvalNeeded]

theorem invokeTool_passed (h : Cleared rt ctx name input spec)
    (hgate : approvalGate spec ctx name=.passed) :
    invokeTool rt env ctx name input=runWithAudit rt env ctx spec name input := by
  unfold invokeTool
  simp only [h.registered,h.accepted,h.permitted,hgate,Bool.false_eq_true,if_false]

/-- The handler was started by this call. -/
def InvokeReport.handlerRan (r : InvokeReport) : Prop :=
  ∃ tool input,Effect.handler tool input∈r.effects

instance (r : InvokeReport) : Decidable r.handlerRan :=
  decidable_of_iff (r.effects.any fun | .handler _ _ => true | .audit _ => false) (by
    simp only [List.any_eq_true,InvokeReport.handlerRan]
    constructor
    · rintro ⟨e,hm,he⟩
      cases e with
      | audit _ => cases he
      | handler t i => exact ⟨t,i,hm⟩
    · rintro ⟨t,i,hm⟩
      exact ⟨_,hm,rfl⟩)

@[simp] theorem answer_effects (o : ToolInvocationOutcome) : (answer o).effects=[] := rfl

@[simp] theorem stripped_kind (o : ToolInvocationOutcome) : o.stripped.kind=o.kind := rfl

/-- Effects of a write: the event, then the rest unless the sink raised. -/
theorem writeAudit_effects (event : AuditEvent) (rest : InvokeReport) :
    (writeAudit env event rest).effects=
      .audit event::if (env.sinkRaises event.status).isNone then rest.effects else [] := by
  unfold writeAudit
  cases env.sinkRaises event.status <;> rfl

variable {event : AuditEvent}

/-- An effect of a write is that write or one of the rest. -/
theorem mem_writeAudit {rest : InvokeReport} {e : Effect}
    (h : e∈(writeAudit env event rest).effects) : e=.audit event ∨ e∈rest.effects := by
  rw [writeAudit_effects] at h
  rcases List.mem_cons.mp h with he|hm
  · exact .inl he
  · split at hm
    · exact .inr hm
    · exact absurd hm List.not_mem_nil

/-- With a sink that accepts the write the call continues. -/
theorem writeAudit_accepted (h : env.sinkRaises event.status=none) (rest : InvokeReport) :
    writeAudit env event rest=⟨.audit event::rest.effects,rest.result⟩ := by
  unfold writeAudit
  rw [h]

/-- The handler is called at least once and at most once per attempt left. -/
theorem executeHandler_calls (schema : Option OutputSchema) (handler : Nat → HandlerAnswer)
    (left attempt : Nat) :
    1≤(executeHandler schema handler left attempt).calls ∧
      (executeHandler schema handler left attempt).calls≤left+1 := by
  induction left generalizing attempt with
  | zero => exact ⟨Nat.le_refl 1,Nat.le_refl 1⟩
  | succ left ih =>
    have hi := ih (attempt+1)
    unfold executeHandler
    split <;> dsimp only <;> omega

/-- The handler phase starts the handler on the call's own name and input. -/
theorem runHandler_ran (audit : Option AuditEvent) :
    .handler name input∈(runHandler rt env spec name input audit).effects := by
  have hc := (executeHandler_calls spec.outputSchema env.handler (maxValidationAttempts spec-1) 1).1
  refine List.mem_append_left _ (List.mem_replicate.mpr ⟨?_,rfl⟩)
  omega

/-- Behind the gate the handler runs unless the sink refuses the first write. -/
theorem runWithAudit_ran_iff :
    (runWithAudit rt env ctx spec name input).handlerRan ↔
      (spec.sideEffect=true → env.sinkRaises .started=none) := by
  unfold runWithAudit
  cases hs : spec.sideEffect with
  | false =>
    rw [if_neg Bool.false_ne_true]
    exact ⟨fun _ h => (by cases h),fun _ => ⟨_,_,runHandler_ran none⟩⟩
  | true =>
    simp only [if_true,forall_const]
    unfold writeAudit
    cases hr : env.sinkRaises .started with
    | none => exact ⟨fun _ => rfl,fun _ => ⟨_,_,List.mem_cons_of_mem _ (runHandler_ran _)⟩⟩
    | some e =>
      constructor
      · rintro ⟨t,i,hm⟩
        simp at hm
      · intro h
        cases h

/-- The handler runs exactly for cleared calls that pass the gate and whose
first write, if there is one, is accepted. -/
theorem handlerRan_iff :
    (invokeTool rt env ctx name input).handlerRan ↔
      ∃ spec,Cleared rt ctx name input spec ∧ approvalGate spec ctx name=.passed ∧
        (spec.sideEffect=true → env.sinkRaises .started=none) := by
  have hexit := invokeTool_exit rt env ctx name input
  constructor
  · rintro ⟨t,i,hm⟩
    generalize invokeTool rt env ctx name input=r at hexit hm
    cases hexit with
    | unreached o hkind hnone | schemaRaised e hnone | undecided spec hcleared hgate =>
      exact absurd hm List.not_mem_nil
    | roleDenied spec event o hreached hrole hevent hkind
    | denied spec event o hcleared hgate hevent hkind =>
      rw [writeAudit_effects] at hm
      simp at hm
    | passed spec hcleared hgate => exact ⟨spec,hcleared,hgate,runWithAudit_ran_iff.mp ⟨t,i,hm⟩⟩
  · rintro ⟨spec,hcleared,hgate,hsink⟩
    rw [invokeTool_passed hcleared hgate]
    exact runWithAudit_ran_iff.mpr hsink

variable {o : ToolInvocationOutcome}

/-- A write passes on the outcome of the rest. -/
theorem writeAudit_ok {rest : InvokeReport} (h : (writeAudit env event rest).result=.ok o) :
    rest.result=.ok o := by
  unfold writeAudit at h
  split at h
  · cases h
  · exact h

/-- Behind the gate a call succeeds or fails; it asks for nothing. -/
theorem runWithAudit_kind (h : (runWithAudit rt env ctx spec name input).result=.ok o) :
    o.kind=.success ∨ o.kind=.error := by
  have hclose : ∀ {audit status error outputs} {rest : InvokeReport},
      (closeAudit env audit status error outputs rest).result=.ok o → rest.result=.ok o := by
    intro audit status error outputs rest hr
    unfold closeAudit at hr
    cases audit with
    | none => exact hr
    | some opened => exact writeAudit_ok hr
  have hfinish : ∀ {audit result},(finishCall rt env spec name audit result).result=.ok o →
      o.kind=.success ∨ o.kind=.error := by
    intro audit result hr
    unfold finishCall at hr
    split at hr
    · cases hr
    · cases hclose hr
      exact .inr rfl
    · cases hclose hr
      exact .inr rfl
    · cases hclose hr
      exact .inl rfl
    · cases hclose hr
      exact .inl rfl
    · cases hclose hr
  have hrun : ∀ {audit},(runHandler rt env spec name input audit).result=.ok o →
      o.kind=.success ∨ o.kind=.error := fun hr => hfinish hr
  unfold runWithAudit at h
  by_cases hside : spec.sideEffect=true
  · rw [if_pos hside] at h
    exact hrun (writeAudit_ok h)
  · rw [if_neg hside] at h
    exact hrun h

/-- A call asks for approval exactly when it stands undecided at the gate,
and then it returns the id and the summary of this call. -/
theorem invokeTool_asks_iff :
    ((invokeTool rt env ctx name input).result=.ok o ∧ o.kind=.approvalNeeded) ↔
      (∃ spec,Cleared rt ctx name input spec ∧ approvalGate spec ctx name=.undecided) ∧
        o=(approvalNeeded rt ctx name input).stripped := by
  constructor
  · rintro ⟨hres,hkind⟩
    have hexit := invokeTool_exit rt env ctx name input
    generalize invokeTool rt env ctx name input=r at hexit hres
    cases hexit with
    | unreached o' hk hnone =>
      cases hres
      rw [stripped_kind,hk] at hkind
      cases hkind
    | schemaRaised e hnone => cases hres
    | roleDenied spec event o' hreached hrole hevent hk
    | denied spec event o' hcleared hgate hevent hk =>
      cases writeAudit_ok hres
      rw [stripped_kind,hk] at hkind
      cases hkind
    | undecided spec hcleared hgate =>
      cases hres
      exact ⟨⟨spec,hcleared,hgate⟩,rfl⟩
    | passed spec hcleared hgate =>
      rcases runWithAudit_kind hres with hk|hk <;> rw [hk] at hkind <;> cases hkind
  · rintro ⟨⟨spec,hcleared,hgate⟩,rfl⟩
    rw [invokeTool_undecided hcleared hgate]
    exact ⟨rfl,rfl⟩

/-- Only a cancelled handler cancels the call. -/
theorem invokeTool_cancelled (h : (invokeTool rt env ctx name input).result=.error .cancelled) :
    ∃ n,env.handler n=.cancelled := by
  have hexec : ∀ schema left n,(executeHandler schema env.handler left n).result=.cancelled →
      ∃ n,env.handler n=.cancelled := by
    have honce : ∀ schema n,handlerOnce schema (env.handler n) n=.cancelled →
        env.handler n=.cancelled := by
      intro schema n hn
      cases ha : env.handler n with
      | cancelled => rfl
      | raised e => rw [ha] at hn; cases hn
      | returned o =>
        rw [ha] at hn
        simp only [handlerOnce] at hn
        split at hn
        · cases hn
        · split at hn <;> cases hn
    intro schema left
    induction left with
    | zero => exact fun n hn => ⟨n,honce schema n hn⟩
    | succ left ih =>
      intro n hn
      unfold executeHandler at hn
      split at hn
      · exact ih (n+1) hn
      · exact ⟨n,honce schema n hn⟩
  have hwrite : ∀ {event : AuditEvent} {rest : InvokeReport},
      (writeAudit env event rest).result=.error .cancelled → rest.result=.error .cancelled := by
    intro event rest hr
    unfold writeAudit at hr
    split at hr
    · cases hr
    · exact hr
  have hclose : ∀ {audit status error outputs} {rest : InvokeReport},
      (closeAudit env audit status error outputs rest).result=.error .cancelled →
      rest.result=.error .cancelled := by
    intro audit status error outputs rest hr
    unfold closeAudit at hr
    cases audit with
    | none => exact hr
    | some opened => exact hwrite hr
  have hfinish : ∀ {spec audit result},
      (finishCall rt env spec name audit result).result=.error .cancelled → result=.cancelled := by
    intro spec audit result hr
    unfold finishCall at hr
    split at hr
    · rfl
    · cases hclose hr
    · cases hclose hr
    · cases hclose hr
    · cases hclose hr
    · cases hclose hr
  have hrun : ∀ {spec audit},(runHandler rt env spec name input audit).result=.error .cancelled →
      ∃ n,env.handler n=.cancelled := fun hr => hexec _ _ _ (hfinish hr)
  have hexit := invokeTool_exit rt env ctx name input
  generalize invokeTool rt env ctx name input=r at hexit h
  cases hexit with
  | unreached o hkind hnone => cases h
  | schemaRaised e hnone => cases h
  | roleDenied spec event o hreached hrole hevent hkind => cases hwrite h
  | undecided spec hcleared hgate => cases h
  | denied spec event o hcleared hgate hevent hkind => cases hwrite h
  | passed spec hcleared hgate =>
    unfold runWithAudit at h
    by_cases hside : spec.sideEffect=true
    · rw [if_pos hside] at h
      exact hrun (hwrite h)
    · rw [if_neg hside] at h
      exact hrun h

/-- An id of a registered tool has no blanks to strip. -/
theorem Reached.approvalIdFor_bare (h : Reached rt name input spec) (turnId : String) :
    stripWhitespace (approvalIdFor turnId name)=approvalIdFor turnId name := by
  have hname := trimBy_eq_self_iff.mp h.name_bare.1
  refine trimBy_eq_self_iff.mpr fun c hc => ?_
  have hne : name.toList≠[] := fun hn => h.name_bare.2 (String.toList_inj.mp hn)
  simp only [approvalIdFor,String.toList_append,List.getLast?_append_of_ne_nil _ hne] at hc
  rcases hc with hc|hc
  · have hhead : c = 'a' := by simpa using hc.symm
    rw [hhead]
    decide
  · exact hname c (.inr hc)

/-- Ids of one tool differ when the turns do. -/
theorem approvalIdFor_turn_inj {turnId turnId' : String}
    (h : approvalIdFor turnId name=approvalIdFor turnId' name) : turnId=turnId' := by
  have hl := congrArg String.toList h
  simp only [approvalIdFor,String.toList_append,List.append_assoc,List.append_cancel_left_eq,
    List.append_cancel_right_eq] at hl
  exact String.toList_inj.mp hl

end Voyagent.ToolInvocation
