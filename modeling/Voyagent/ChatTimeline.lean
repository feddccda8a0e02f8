import Voyagent.AgentEvents

/-!
# The client's message timeline

The chat client folds the event stream into a list of bubbles. Every event of
a turn lands in that turn's assistant bubble, which is created on first use.
The text of a bubble is therefore the plain concatenation of what its turn's
events carry, whatever else the timeline holds.
-/

namespace Voyagent.ChatTimeline

open RuntimeValues TrimmedText AgentEvents

/-- One tool call observed inside a turn. -/
structure ToolCallEntry where
  toolCallId : String
  toolName : String
  toolInput : Dict
  toolOutput : Option Dict := none
  done : Bool := false
  deriving DecidableEq

/-- An assistant bubble; its id is the turn id. -/
structure Bubble where
  id : String
  text : String := ""
  toolCalls : List ToolCallEntry := []
  complete : Bool := false
  error : Option String := none
  deriving DecidableEq

/-- One entry of the timeline. -/
inductive ChatMessage where
  | user (id text : String)
  | assistant (bubble : Bubble)
  deriving DecidableEq

/-- Rewrite the bubble of a turn, creating it at the end when it is missing. -/
def updateBubble (turnId : String) (f : Bubble → Bubble) : List ChatMessage → List ChatMessage
  | [] => [.assistant (f {id := turnId})]
  | .user id text::ms => .user id text::updateBubble turnId f ms
  | .assistant b::ms =>
    if b.id=turnId then .assistant (f b)::ms else .assistant b::updateBubble turnId f ms

/-- The call a result belongs to is marked done with its output. -/
def markDone (ev : AgentEventFields) (c : ToolCallEntry) : ToolCallEntry :=
  if ev.toolCallId=some c.toolCallId then {c with toolOutput := ev.toolOutput,done := true} else c

/-- What one event does to its bubble. -/
def eventUpdate (ev : AgentEventFields) (b : Bubble) : Bubble :=
  match ev.kind with
  | .textDelta => {b with text := b.text++ev.text.getD ""}
  | .toolUse => {b with toolCalls := b.toolCalls++
      [{toolCallId := ev.toolCallId.getD ("call-"++toString b.toolCalls.length)
        toolName := ev.toolName.getD "tool"
        toolInput := ev.toolInput.getD []}]}
  | .toolResult => {b with toolCalls := b.toolCalls.map (markDone ev)}
  | .final => {b with text := b.text++ev.text.getD "",complete := true}
  | .error => {b with error := some (ev.errorMessage.getD "Agent error"),complete := true}
  | _ => b

/-- `reduceEvent`: approval events leave the timeline alone. -/
def reduceEvent (ms : List ChatMessage) (ev : AgentEvent) : List ChatMessage :=
  match ev.kind with
  | .approvalRequest | .approvalGranted | .approvalDenied => ms
  | _ => updateBubble ev.fields.turnId (eventUpdate ev.fields) ms

/-- The text shown for a turn. -/
def bubbleText (turnId : String) : List ChatMessage → String
  | [] => ""
  | .user _ _::ms => bubbleText turnId ms
  | .assistant b::ms => if b.id=turnId then b.text else bubbleText turnId ms

/-- The text an event adds to its turn's bubble. -/
def addedText (turnId : String) (ev : AgentEvent) : String :=
  if ev.fields.turnId=turnId ∧ (ev.kind=.textDelta ∨ ev.kind=.final) then ev.fields.text.getD ""
  else ""

/-- An update that keeps the id and appends to the text appends to that
turn's text and to no other. -/
theorem bubbleText_updateBubble {f : Bubble → Bubble} {added : String}
    (hid : ∀ b,(f b).id=b.id) (htext : ∀ b,(f b).text=b.text++added) (turnId turnId' : String)
    (ms : List ChatMessage) :
    bubbleText turnId (updateBubble turnId' f ms)=
      bubbleText turnId ms++if turnId'=turnId then added else "" := by
  induction ms with
  | nil =>
    by_cases h : turnId'=turnId <;> simp [updateBubble,bubbleText,hid,htext,h]
  | cons m ms ih =>
    cases m with
    | user id text => exact ih
    | assistant b =>
      by_cases hb : b.id=turnId'
      · by_cases h : turnId'=turnId
        · simp [updateBubble,bubbleText,hid,htext,hb,h]
        · simp [updateBubble,bubbleText,hid,hb,h]
      · by_cases h : b.id=turnId
        · have hn : ¬turnId'=turnId := fun he => hb (h.trans he.symm)
          rw [updateBubble,if_neg hb,bubbleText,if_pos h,bubbleText,if_pos h,if_neg hn,
            String.append_empty]
        · simp only [updateBubble,bubbleText,hb,h,if_false]
          exact ih

variable (turnId : String) (ms : List ChatMessage) (ev : AgentEventFields) (b : Bubble)

theorem eventUpdate_id : (eventUpdate ev b).id=b.id := by
  unfold eventUpdate
  split <;> rfl

theorem eventUpdate_text :
    (eventUpdate ev b).text=
      b.text++if ev.kind=.textDelta ∨ ev.kind=.final then ev.text.getD "" else "" := by
  unfold eventUpdate
  cases hk : ev.kind <;> simp

/-- One event adds its text to the bubble of its own turn. -/
theorem bubbleText_reduceEvent (ev : AgentEvent) :
    bubbleText turnId (reduceEvent ms ev)=bubbleText turnId ms++addedText turnId ev := by
  have hupdate := bubbleText_updateBubble (eventUpdate_id ev.fields) (eventUpdate_text ev.fields)
    turnId ev.fields.turnId ms
  unfold reduceEvent addedText
  by_cases ht : ev.fields.turnId=turnId
  · rw [if_pos ht] at hupdate
    cases hk : ev.kind <;> simp only [hk] at hupdate ⊢ <;> simp_all
  · rw [if_neg ht] at hupdate
    cases hk : ev.kind <;> simp_all

/-- The shown text of a turn is the concatenation of what its events add. -/
theorem bubbleText_foldl (evs : List AgentEvent) :
    bubbleText turnId (evs.foldl reduceEvent ms)=
      bubbleText turnId ms++concatText (evs.map (addedText turnId)) := by
  induction evs generalizing ms with
  | nil => simp [concatText]
  | cons ev evs ih =>
    rw [List.foldl_cons,ih,bubbleText_reduceEvent,List.map_cons,concatText,String.append_assoc]

end Voyagent.ChatTimeline
