import Voyagent.RuntimeValues

/-!
# The runtime's public event stream

One record per event, discriminated by kind. Construction strips every
string field and every dictionary key and then checks that the payload
matches the kind, so an event of this type always carries its payload.
-/

namespace Voyagent.AgentEvents

open RuntimeValues KeyedMap TrimmedText

/-- Discriminator of an event. -/
inductive AgentEventKind where
  | textDelta | toolUse | toolResult | approvalRequest | approvalGranted | approvalDenied
  | error | final
  deriving DecidableEq

/-- The value of the enumeration member. -/
def AgentEventKind.value : AgentEventKind → String
  | .textDelta => "text_delta"
  | .toolUse => "tool_use"
  | .toolResult => "tool_result"
  | .approvalRequest => "approval_request"
  | .approvalGranted => "approval_granted"
  | .approvalDenied => "approval_denied"
  | .error => "error"
  | .final => "final"

/-- The arguments an event is constructed from. -/
structure AgentEventFields where
  kind : AgentEventKind
  sessionId : EntityId
  turnId : String
  text : Option String := none
  toolName : Option String := none
  toolInput : Option Dict := none
  toolOutput : Option Dict := none
  toolCallId : Option String := none
  approvalId : Option String := none
  approvalSummary : Option String := none
  errorMessage : Option String := none
  deriving DecidableEq

/-- `str_strip_whitespace` over all declared string types, dictionary keys
included; values of type `Any` are left alone. -/
def AgentEventFields.stripped (f : AgentEventFields) : AgentEventFields :=
  {kind := f.kind
   sessionId := stripWhitespace f.sessionId
   turnId := stripWhitespace f.turnId
   text := f.text.map stripWhitespace
   toolName := f.toolName.map stripWhitespace
   toolInput := f.toolInput.map stripKeys
   toolOutput := f.toolOutput.map stripKeys
   toolCallId := f.toolCallId.map stripWhitespace
   approvalId := f.approvalId.map stripWhitespace
   approvalSummary := f.approvalSummary.map stripWhitespace
   errorMessage := f.errorMessage.map stripWhitespace}

/-- Python truth of an optional string. -/
def truthy : Option String → Bool
  | none => false
  | some s => s != ""

/-- The complaint of `_payload_matches_kind`, if it has one. -/
def payloadError (f : AgentEventFields) : Option String :=
  match f.kind with
  | .textDelta => if f.text.isNone then some "TEXT_DELTA events require `text`." else none
  | .toolUse =>
    if truthy f.toolName && truthy f.toolCallId && f.toolInput.isSome then none
    else some "TOOL_USE events require `tool_name`, `tool_call_id`, `tool_input`."
  | .toolResult =>
    if truthy f.toolName && truthy f.toolCallId && f.toolOutput.isSome then none
    else some "TOOL_RESULT events require `tool_name`, `tool_call_id`, `tool_output`."
  | .approvalRequest =>
    if truthy f.approvalId && truthy f.approvalSummary then none
    else some "APPROVAL_REQUEST events require `approval_id` and `approval_summary`."
  | .approvalGranted =>
    if truthy f.approvalId then none else some "approval_granted events require `approval_id`."
  | .approvalDenied =>
    if truthy f.approvalId then none else some "approval_denied events require `approval_id`."
  | .error => if truthy f.errorMessage then none else some "ERROR events require `error_message`."
  | .final => none

/-- Field constraints and the payload check together: the first complaint. -/
def eventError (f : AgentEventFields) : Option String :=
  if f.turnId="" then some "turn_id: String should have at least 1 character" else payloadError f

/-- A constructed event. -/
structure AgentEvent where
  /-- Its stripped fields. -/
  fields : AgentEventFields
  /-- The payload its kind requires is present. -/
  valid : eventError fields=none
  deriving DecidableEq

/-- `AgentEvent(...)`: strip, check, and either the event or a
`ValidationError`. -/
def AgentEvent.build (f : AgentEventFields) : Except Halt AgentEvent :=
  match h : eventError f.stripped with
  | none => .ok ⟨f.stripped,h⟩
  | some text => .error (.raised (validationError text))

/-- The discriminator of a constructed event. -/
abbrev AgentEvent.kind (ev : AgentEvent) : AgentEventKind := ev.fields.kind

variable {ev : AgentEvent} {f : AgentEventFields}

/-- Construction succeeds exactly on complaint-free fields. -/
theorem build_ok_iff :
    AgentEvent.build f=.ok ev ↔ eventError f.stripped=none ∧ ev.fields=f.stripped := by
  unfold AgentEvent.build
  split
  · rename_i h
    constructor
    · intro he
      cases he
      exact ⟨h,rfl⟩
    · rintro ⟨_,hf⟩
      obtain ⟨fields,valid⟩ := ev
      cases hf
      rfl
  · rename_i text h
    constructor
    · intro he
      cases he
    · rintro ⟨hn,_⟩
      rw [h] at hn
      cases hn

/-- A rejected construction raises an `Exception`, never a cancellation. -/
theorem build_error {k : Halt} (h : AgentEvent.build f=.error k) :
    ∃ text,eventError f.stripped=some text ∧ k=.raised (validationError text) := by
  unfold AgentEvent.build at h
  split at h
  · cases h
  · rename_i text ht
    cases h
    exact ⟨text,ht,rfl⟩

/-- Construction succeeds when the stripped fields have no complaint. -/
theorem build_of_valid (h : eventError f.stripped=none) :
    AgentEvent.build f=.ok ⟨f.stripped,h⟩ := build_ok_iff.mpr ⟨h,rfl⟩

/-- Construction never changes the kind. -/
theorem build_kind (h : AgentEvent.build f=.ok ev) : ev.kind=f.kind := by
  rw [AgentEvent.kind,(build_ok_iff.mp h).2]
  rfl

section Emitters

/-! The constructor calls of the runtime, one per kind it emits. -/

variable (sessionId turnId : String)

def textDeltaFields (text : String) : AgentEventFields :=
  {kind := .textDelta,sessionId,turnId,text := some text}

def toolUseFields (name : String) (input : Dict) (callId : String) : AgentEventFields :=
  {kind := .toolUse,sessionId,turnId,toolName := some name,toolInput := some input,
   toolCallId := some callId}

def toolResultFields (name : String) (output : Dict) (callId : String) : AgentEventFields :=
  {kind := .toolResult,sessionId,turnId,toolName := some name,toolOutput := some output,
   toolCallId := some callId}

def approvalRequestFields (name callId : String) (approvalId summary : Option String) :
    AgentEventFields :=
  {kind := .approvalRequest,sessionId,turnId,toolName := some name,toolCallId := some callId,
   approvalId,approvalSummary := summary}

def errorFields (message : String) : AgentEventFields :=
  {kind := .error,sessionId,turnId,errorMessage := some message}

def finalFields : AgentEventFields := {kind := .final,sessionId,turnId}

end Emitters

variable {sessionId turnId : String}

section

variable (hid : stripWhitespace turnId≠"")

include hid

/-- A text delta is constructed for every text, the empty one included. -/
theorem textDelta_valid (text : String) :
    eventError (textDeltaFields sessionId turnId text).stripped=none := by
  simp [eventError,AgentEventFields.stripped,textDeltaFields,payloadError,hid]

/-- A final event has no payload to miss. -/
theorem final_valid :
    eventError (finalFields sessionId turnId).stripped=none := by
  simp [eventError,AgentEventFields.stripped,finalFields,payloadError,hid]

/-- An error event needs a message that is not blank. -/
theorem error_valid {message : String}
    (hm : stripWhitespace message≠"") :
    eventError (errorFields sessionId turnId message).stripped=none := by
  simp [eventError,AgentEventFields.stripped,errorFields,payloadError,truthy,hid,hm]

/-- A tool-use event needs a name and a call id that are not blank. -/
theorem toolUse_valid_iff (name : String) (input : Dict)
    (callId : String) :
    eventError (toolUseFields sessionId turnId name input callId).stripped=none ↔
      stripWhitespace name≠"" ∧ stripWhitespace callId≠"" := by
  simp [eventError,AgentEventFields.stripped,toolUseFields,payloadError,truthy,hid]

/-- A tool-result event needs the same two. -/
theorem toolResult_valid_iff (name : String) (output : Dict)
    (callId : String) :
    eventError (toolResultFields sessionId turnId name output callId).stripped=none ↔
      stripWhitespace name≠"" ∧ stripWhitespace callId≠"" := by
  simp [eventError,AgentEventFields.stripped,toolResultFields,payloadError,truthy,hid]

end

end Voyagent.AgentEvents
