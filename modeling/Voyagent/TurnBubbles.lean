import Voyagent.ChatTimeline

/-!
# One bubble a turn

The client's reducer finds or creates the bubble of each event's turn. Seen
from one turn the events of the others are not there: its bubble is the fold
of its own events, and it is the only bubble under that id.
-/

namespace Voyagent.TurnBubbles

open RuntimeValues TrimmedText AgentEvents ChatTimeline

/-- `reduceEvent` on an event as the client receives it, unchecked. -/
def reduceFields (ms : List ChatMessage) (ev : AgentEventFields) : List ChatMessage :=
  match ev.kind with
  | .approvalRequest | .approvalGranted | .approvalDenied => ms
  | _ => updateBubble ev.turnId (eventUpdate ev) ms

/-- Text, tool, final and error events show in the timeline. -/
def shown : AgentEventKind → Bool
  | .approvalRequest | .approvalGranted | .approvalDenied => false
  | _ => true

/-- The assistant messages of a timeline under one turn id. -/
def bubblesOf (turnId : String) : List ChatMessage → List Bubble
  | [] => []
  | .user _ _::ms => bubblesOf turnId ms
  | .assistant b::ms => if b.id=turnId then b::bubblesOf turnId ms else bubblesOf turnId ms

/-- The events of one turn, in order. -/
def turnEvents (turnId : String) (evs : List AgentEventFields) : List AgentEventFields :=
  evs.filter (fun ev => ev.turnId=turnId)

/-- The text deltas and final texts of a turn's events, concatenated. -/
def turnText (evs : List AgentEventFields) : String :=
  concatText ((evs.filter (fun ev => ev.kind=.textDelta ∨ ev.kind=.final)).map
    (fun ev => ev.text.getD ""))

/-- The last result among the events that carries a call id. -/
def lastResult (callId : String) (evs : List AgentEventFields) : Option AgentEventFields :=
  (evs.filter (fun ev => ev.kind=.toolResult ∧ ev.toolCallId=some callId)).getLast?

/-- A call with the last of its results among later events. -/
def answeredBy (later : List AgentEventFields) (c : ToolCallEntry) : ToolCallEntry :=
  match lastResult c.toolCallId later with
  | none => c
  | some r => {c with toolOutput := r.toolOutput,done := true}

/-- A turn's calls: one for each tool use in order, answered by what follows it. -/
def turnCalls : List AgentEventFields → List ToolCallEntry
  | [] => []
  | ev::evs =>
    if ev.kind=.toolUse then
      answeredBy evs
        {toolCallId := ev.toolCallId.getD ""
         toolName := ev.toolName.getD "tool"
         toolInput := ev.toolInput.getD []}::turnCalls evs
    else turnCalls evs

/-- The tool uses among some events. -/
def toolUses (evs : List AgentEventFields) : List AgentEventFields :=
  evs.filter (fun ev => ev.kind=.toolUse)

/-- Tool uses and tool results carry a call id. -/
def CallsNamed (evs : List AgentEventFields) : Prop :=
  ∀ ev ∈ evs,ev.kind=.toolUse ∨ ev.kind=.toolResult → ev.toolCallId.isSome

/-- No two tool uses of one turn share their call id. -/
def CallsDistinct (evs : List AgentEventFields) : Prop :=
  ∀ turnId,((toolUses (turnEvents turnId evs)).map (·.toolCallId)).Nodup

/-- An event of the turn seen by the bubbles of that turn. -/
def bubblesAfter (turnId : String) (bs : List Bubble) (ev : AgentEventFields) : List Bubble :=
  if shown ev.kind then
    match bs with
    | [] => [eventUpdate ev {id := turnId}]
    | b::bs => eventUpdate ev b::bs
  else bs

/-- Updating a turn rewrites the first of its bubbles or opens one. -/
theorem bubblesOf_updateBubble_self {f : Bubble → Bubble} (hid : ∀ b,(f b).id=b.id)
    (turnId : String) (ms : List ChatMessage) :
    bubblesOf turnId (updateBubble turnId f ms)=
      match bubblesOf turnId ms with
      | [] => [f {id := turnId}]
      | b::bs => f b::bs := by
  induction ms with
  | nil => simp [updateBubble,bubblesOf,hid]
  | cons m ms ih =>
    cases m with
    | user id text => exact ih
    | assistant b =>
      by_cases hb : b.id=turnId
      · simp [updateBubble,bubblesOf,hid,hb]
      · simp only [updateBubble,bubblesOf,hb,if_false]
        exact ih

/-- Updating one turn leaves the bubbles of every other turn alone. -/
theorem bubblesOf_updateBubble_ne {f : Bubble → Bubble} (hid : ∀ b,(f b).id=b.id)
    {turnId turnId' : String} (hne : turnId'≠turnId) (ms : List ChatMessage) :
    bubblesOf turnId (updateBubble turnId' f ms)=bubblesOf turnId ms := by
  induction ms with
  | nil => simp [updateBubble,bubblesOf,hid,hne]
  | cons m ms ih =>
    cases m with
    | user id text => exact ih
    | assistant b =>
      by_cases hb : b.id=turnId'
      · have hn : ¬b.id=turnId := fun he => hne (hb.symm.trans he)
        simp only [updateBubble,hb,if_true,bubblesOf,hid,hne,if_false]
      · simp only [updateBubble,hb,if_false,bubblesOf,ih]

variable (turnId : String) (ms : List ChatMessage) (ev : AgentEventFields)
  (evs : List AgentEventFields) (b : Bubble)

/-- One event, seen from one turn. -/
theorem bubblesOf_reduceFields :
    bubblesOf turnId (reduceFields ms ev)=
      if ev.turnId=turnId then bubblesAfter turnId (bubblesOf turnId ms) ev
      else bubblesOf turnId ms := by
  by_cases ht : ev.turnId=turnId
  · have hself := bubblesOf_updateBubble_self (eventUpdate_id ev) turnId ms
    rw [if_pos ht]
    unfold reduceFields bubblesAfter
    cases hk : ev.kind <;> simp only [shown,ht,hself,if_true,Bool.false_eq_true,if_false]
  · have hne := bubblesOf_updateBubble_ne (eventUpdate_id ev) ht ms
    rw [if_neg ht]
    unfold reduceFields
    cases hk : ev.kind <;> simp only [hne]

/-- The bubbles of a turn are what that turn's own events make of them. -/
theorem bubblesOf_foldl :
    bubblesOf turnId (evs.foldl reduceFields ms)=
      (turnEvents turnId evs).foldl (bubblesAfter turnId) (bubblesOf turnId ms) := by
  induction evs generalizing ms with
  | nil => rfl
  | cons ev evs ih =>
    rw [List.foldl_cons,ih,bubblesOf_reduceFields]
    by_cases ht : ev.turnId=turnId <;> simp [turnEvents,ht]

/-- An event that does not show leaves its bubble alone. -/
theorem eventUpdate_hidden {ev : AgentEventFields} (h : shown ev.kind=false) (b : Bubble) :
    eventUpdate ev b=b := by
  unfold eventUpdate
  cases hk : ev.kind <;> simp_all [shown]

/-- A turn that has its bubble keeps exactly that one. -/
theorem foldl_bubblesAfter_single :
    evs.foldl (bubblesAfter turnId) [b]=[evs.foldl (fun b ev => eventUpdate ev b) b] := by
  induction evs generalizing b with
  | nil => rfl
  | cons ev evs ih =>
    cases hs : shown ev.kind with
    | true => rw [List.foldl_cons,List.foldl_cons,bubblesAfter,if_pos hs,ih]
    | false =>
      have hn : ¬shown ev.kind=true := by simp [hs]
      rw [List.foldl_cons,List.foldl_cons,bubblesAfter,if_neg hn,ih,eventUpdate_hidden hs]

/-- A turn opens one bubble as soon as one of its events shows. -/
theorem foldl_bubblesAfter_nil :
    evs.foldl (bubblesAfter turnId) []=
      if evs.any (fun ev => shown ev.kind) then
        [evs.foldl (fun b ev => eventUpdate ev b) {id := turnId}]
      else [] := by
  induction evs with
  | nil => rfl
  | cons ev evs ih =>
    cases hs : shown ev.kind with
    | true =>
      rw [List.foldl_cons,bubblesAfter,if_pos hs]
      simp only [foldl_bubblesAfter_single,List.any_cons,hs,Bool.true_or,if_true,List.foldl_cons]
    | false =>
      have hn : ¬shown ev.kind=true := by simp [hs]
      rw [List.foldl_cons,bubblesAfter,if_neg hn,ih]
      simp only [List.any_cons,hs,Bool.false_or,List.foldl_cons,eventUpdate_hidden hs]

/-- The text of a bubble grows by what its events carry. -/
theorem foldl_text :
    (evs.foldl (fun b ev => eventUpdate ev b) b).text=b.text++turnText evs := by
  induction evs generalizing b with
  | nil => simp [turnText,concatText]
  | cons ev evs ih =>
    rw [List.foldl_cons,ih,eventUpdate_text,String.append_assoc]
    by_cases hk : ev.kind=.textDelta ∨ ev.kind=.final
    · simp [turnText,hk,concatText]
    · simp [turnText,hk]

/-- One more event in front answers a call unless a later one does. -/
theorem answeredBy_cons (c : ToolCallEntry) :
    answeredBy (ev::evs) c=
      answeredBy evs (if ev.kind=.toolResult then markDone ev c else c) := by
  unfold answeredBy markDone lastResult
  by_cases hk : ev.kind=.toolResult
  · by_cases hc : ev.toolCallId=some c.toolCallId
    · simp only [hk,hc,if_true,List.filter_cons,and_self,decide_true,List.getLast?_cons]
      cases hl : (evs.filter
        (fun e => e.kind=.toolResult ∧ e.toolCallId=some c.toolCallId)).getLast? <;> simp
    · simp [hk,hc]
  · simp [hk]

/-- With nothing later a call stays open. -/
theorem answeredBy_nil : answeredBy []=id := rfl

/-- What a turn's events make of the calls of its bubble. -/
theorem foldl_toolCalls {evs : List AgentEventFields} (hnamed : CallsNamed evs) (b : Bubble) :
    (evs.foldl (fun b ev => eventUpdate ev b) b).toolCalls=
      b.toolCalls.map (answeredBy evs)++turnCalls evs := by
  induction evs generalizing b with
  | nil => rw [answeredBy_nil,List.map_id,turnCalls,List.append_nil,List.foldl_nil]
  | cons ev evs ih =>
    have htail : CallsNamed evs := fun e he => hnamed e (List.mem_cons_of_mem ev he)
    have hfun : answeredBy (ev::evs)=
        fun c => answeredBy evs (if ev.kind=.toolResult then markDone ev c else c) :=
      funext (answeredBy_cons ev evs)
    rw [List.foldl_cons,ih htail,hfun]
    cases hk : ev.kind with
    | toolUse =>
      have hsome := hnamed ev List.mem_cons_self (.inl hk)
      obtain ⟨callId,hid⟩ := Option.isSome_iff_exists.mp hsome
      simp [eventUpdate,turnCalls,hk,hid]
    | toolResult => simp [eventUpdate,turnCalls,hk,Function.comp_def]
    | _ => simp [eventUpdate,turnCalls,hk]

/-- Answering a call keeps its id. -/
theorem answeredBy_toolCallId (later : List AgentEventFields) (c : ToolCallEntry) :
    (answeredBy later c).toolCallId=c.toolCallId := by
  unfold answeredBy
  split <;> rfl

/-- The calls of a turn carry the ids of its tool uses, in order. -/
theorem turnCalls_ids {evs : List AgentEventFields} (hnamed : CallsNamed evs) :
    (turnCalls evs).map (fun c => some c.toolCallId)=(toolUses evs).map (·.toolCallId) := by
  induction evs with
  | nil => rfl
  | cons ev evs ih =>
    have htail := ih (fun e he => hnamed e (List.mem_cons_of_mem ev he))
    by_cases hk : ev.kind=.toolUse
    · have hsome := hnamed ev List.mem_cons_self (.inl hk)
      obtain ⟨callId,hid⟩ := Option.isSome_iff_exists.mp hsome
      simpa [turnCalls,toolUses,hk,hid,answeredBy_toolCallId] using htail
    · simpa [turnCalls,toolUses,hk] using htail

/-- The assistant messages of a turn after any events. -/
theorem bubblesOf_run :
    bubblesOf turnId (evs.foldl reduceFields [])=
      if (turnEvents turnId evs).any (fun ev => shown ev.kind) then
        [(turnEvents turnId evs).foldl (fun b ev => eventUpdate ev b) {id := turnId}]
      else [] :=
  (bubblesOf_foldl turnId [] evs).trans (foldl_bubblesAfter_nil turnId _)

/-- However the events of several turns interleave, a turn with an event that
shows has exactly one assistant message. Its text is the concatenation of the
turn's texts, its calls are the turn's tool uses in order under pairwise
distinct ids, each with the last result that came for it later, and the
message is the same after any events that agree on this turn. -/
theorem reduce_per_turn (evs : List AgentEventFields) (hnamed : CallsNamed evs)
    (hdistinct : CallsDistinct evs) (turnId : String)
    (hturn : ∃ ev ∈ evs,ev.turnId=turnId ∧ shown ev.kind) :
    ∃ b,bubblesOf turnId (evs.foldl reduceFields [])=[b] ∧
      b.text=turnText (turnEvents turnId evs) ∧
      b.toolCalls=turnCalls (turnEvents turnId evs) ∧
      b.toolCalls.map (fun c => some c.toolCallId)=
        (toolUses (turnEvents turnId evs)).map (·.toolCallId) ∧
      (b.toolCalls.map (·.toolCallId)).Nodup ∧
      ∀ evs',turnEvents turnId evs'=turnEvents turnId evs →
        bubblesOf turnId (evs'.foldl reduceFields [])=[b] := by
  have hown : CallsNamed (turnEvents turnId evs) := fun ev hev => hnamed ev (List.mem_of_mem_filter hev)
  have hany : (turnEvents turnId evs).any (fun ev => shown ev.kind)=true := by
    obtain ⟨ev,hev,ht,hs⟩ := hturn
    exact List.any_eq_true.mpr ⟨ev,List.mem_filter.mpr ⟨hev,decide_eq_true ht⟩,hs⟩
  have hrun : ∀ evs',turnEvents turnId evs'=turnEvents turnId evs →
      bubblesOf turnId (evs'.foldl reduceFields [])=
        [(turnEvents turnId evs).foldl (fun b ev => eventUpdate ev b) {id := turnId}] := by
    intro evs' hsame
    rw [bubblesOf_run,hsame,if_pos hany]
  have htext := foldl_text (turnEvents turnId evs) {id := turnId}
  have hcalls := foldl_toolCalls hown {id := turnId}
  rw [String.empty_append] at htext
  rw [List.map_nil,List.nil_append] at hcalls
  have hids := turnCalls_ids hown
  have hnodup : ((turnCalls (turnEvents turnId evs)).map (·.toolCallId)).Nodup := by
    apply List.Nodup.of_map some
    rw [List.map_map]
    exact hids ▸ hdistinct turnId
  rw [←hcalls] at hids hnodup
  exact ⟨_,hrun evs rfl,htext,hcalls,hids,hnodup,hrun⟩

/-- A tool event of a turn. -/
def toolEvent (kind : AgentEventKind) (turnId callId : String) : AgentEventFields :=
  {kind := kind,sessionId := "s-1",turnId := turnId,toolCallId := some callId
   toolName := some "search_hotels",toolInput := some [],toolOutput := some []}

/-- Two turns interleaved: one tool called twice under reused ids, with the
results out of order. -/
def crossedTurns : List AgentEventFields :=
  [toolEvent .toolUse "t-1" "a",toolEvent .toolUse "t-2" "a",toolEvent .toolUse "t-1" "b",
    toolEvent .toolResult "t-1" "b",
    {kind := .textDelta,sessionId := "s-1",turnId := "t-1",text := some "Two "},
    toolEvent .toolResult "t-2" "a",toolEvent .toolResult "t-1" "a",
    {kind := .final,sessionId := "s-1",turnId := "t-1",text := some "hotels."}]

/-- The tool uses of the crossed turns have distinct ids turn by turn. -/
theorem crossedTurns_distinct : CallsDistinct crossedTurns := by
  intro turnId
  by_cases h1 : "t-1"=turnId
  · subst h1
    decide
  · by_cases h2 : "t-2"=turnId
    · subst h2
      decide
    · simp [turnEvents,crossedTurns,toolEvent,toolUses,h1,h2]

/-- The first of the crossed turns ends in one bubble with its text. -/
theorem reduce_per_turn_crossed :
    ∃ b,bubblesOf "t-1" (crossedTurns.foldl reduceFields [])=[b] ∧ b.text="Two hotels." := by
  obtain ⟨b,hb,htext,_⟩ := reduce_per_turn crossedTurns (by unfold CallsNamed; decide)
    crossedTurns_distinct "t-1" (by decide)
  exact ⟨b,hb,htext.trans (by decide)⟩

end Voyagent.TurnBubbles
