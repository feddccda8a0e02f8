import Voyagent.AgentLoop
import Voyagent.ChatTimeline

/-!
# From stream deltas to the text on screen

Deltas are buffered per attempt and emitted once, so retries neither lose nor
repeat text. Each delta becomes an event of its own, and constructing an
event strips its text. What the client concatenates therefore equals what the
model said exactly when no delta begins or ends in white space.
-/

namespace Voyagent.StreamedText

open RuntimeValues TrimmedText AgentEvents SessionTranscript GeneratorTraces AgentLoop ChatTimeline

/-- The text an item carries; an empty delta carries none. -/
def deltaOf : StreamItem → Option String
  | .textDelta text => if text="" then none else some text
  | _ => none

/-- The text deltas of an attempt, in order. -/
def deltaTexts (a : StreamAttempt) : List String := a.items.filterMap deltaOf

/-- What the model said during an attempt. -/
def attemptText (a : StreamAttempt) : String := concatText (deltaTexts a)

/-- The last final message an attempt delivers. -/
def lastStop : List StreamItem → Option FinalMessage
  | [] => none
  | .messageStop m::items => (lastStop items).or m
  | _::items => lastStop items

/-- Failures the two back-off schedules retry, given what is used up. -/
def Retried : Nat → Nat → List Exn → Prop
  | _,_,[] => True
  | rate,connection,e::es =>
    isPermanentAnthropicError e=false ∧
      if isRateLimitError e && decide (rate<rateLimitBackoffs) then Retried (rate+1) connection es
      else isConnectionError e=true ∧ connection<connectionBackoffs ∧ Retried rate (connection+1) es

/-- The text of the text events among some events. -/
def emittedText (evs : List AgentEvent) : String :=
  concatText (evs.map fun ev => if ev.kind=.textDelta then ev.fields.text.getD "" else "")

/-- The text a message shows. -/
def messageText (m : Message) : String :=
  concatText (m.content.filterMap fun | .text text => some text | _ => none)

variable {sessionId turnId : String} {cfg : LoopConfig} {call : ModelCall} {s : TurnState}

/-- The event of one delta. -/
def deltaEvent (sessionId : String) (hid : stripWhitespace turnId≠"") (text : String) :
    AgentEvent :=
  ⟨(textDeltaFields sessionId turnId text).stripped,textDelta_valid hid text⟩

/-- Consuming an attempt buffers one event for each delta. -/
theorem consumeItems_eq (hid : stripWhitespace turnId≠"") (items : List StreamItem)
    (st : Streamed) :
    consumeItems sessionId turnId items st=
      .ok ⟨st.bufferedDeltas++(items.filterMap deltaOf).map (deltaEvent sessionId hid),
        (lastStop items).or st.finalMessage⟩ := by
  induction items generalizing st with
  | nil => simp [consumeItems,lastStop]
  | cons item items ih =>
    cases item with
    | ignored => exact ih st
    | messageStop m =>
      rw [consumeItems,ih]
      simp only [lastStop,Option.or_assoc]
      rfl
    | textDelta text =>
      by_cases ht : text=""
      · rw [consumeItems,if_pos ht,ih]
        simp [deltaOf,ht,lastStop]
      · rw [consumeItems,if_neg ht,build_of_valid (textDelta_valid hid text)]
        dsimp only
        rw [ih]
        simp [deltaOf,ht,lastStop,deltaEvent]

theorem consumeAttempt_done (hid : stripWhitespace turnId≠"") {a : StreamAttempt}
    (hdone : a.failure=none) :
    consumeAttempt sessionId turnId a=
      .ok ⟨(deltaTexts a).map (deltaEvent sessionId hid),lastStop a.items⟩ := by
  rw [consumeAttempt,consumeItems_eq hid]
  dsimp only
  rw [hdone]
  simp [deltaTexts]

theorem consumeAttempt_failed (hid : stripWhitespace turnId≠"") {a : StreamAttempt} {e : Exn}
    (hfail : a.failure=some (.raised e)) : consumeAttempt sessionId turnId a=.error (.raised e) := by
  rw [consumeAttempt,consumeItems_eq hid]
  dsimp only
  rw [hfail]

/-- A retried failure uses up one back-off of one schedule. -/
theorem retried_length {rate connection : Nat} {es : List Exn} (h : Retried rate connection es) :
    rate≤rateLimitBackoffs → connection≤connectionBackoffs →
      es.length+rate+connection≤rateLimitBackoffs+connectionBackoffs := by
  induction es generalizing rate connection with
  | nil =>
    intro hr hc
    simp only [List.length_nil]
    omega
  | cons e es ih =>
    intro hr hc
    have hstep := h.2
    split at hstep
    · rename_i hrate
      have hlt := of_decide_eq_true (Bool.and_eq_true_iff.mp hrate).2
      have hi := ih hstep (by omega) hc
      rw [List.length_cons]
      omega
    · have hi := ih hstep.2.2 hr (by have hlt := hstep.2.1; omega)
      rw [List.length_cons]
      omega

/-- Retried failures and then an attempt that ends by itself: the loop
returns that attempt. -/
theorem attemptLoop_retried (sessionId : String) (hid : stripWhitespace turnId≠"")
    (attempts : Nat → StreamAttempt) (es : List Exn) {left n rate connection : Nat}
    (hleft : es.length≤left)
    (hfail : ∀ j (hj : j<es.length),(attempts (n+j)).failure=some (.raised es[j]))
    (hretry : Retried rate connection es) (hdone : (attempts (n+es.length)).failure=none) :
    attemptLoop sessionId turnId attempts left n rate connection=
      .streamed ⟨(deltaTexts (attempts (n+es.length))).map (deltaEvent sessionId hid),
        lastStop (attempts (n+es.length)).items⟩ := by
  induction es generalizing left n rate connection with
  | nil =>
    unfold attemptLoop
    rw [show attempts n=attempts (n+([] : List Exn).length) from rfl,consumeAttempt_done hid hdone]
  | cons e es ih =>
    cases left with
    | zero => exact absurd hleft (by simp)
    | succ left =>
      have hlen : es.length≤left := by
        rw [List.length_cons] at hleft
        omega
      have hshift : n+(e::es).length=n+1+es.length := by
        rw [List.length_cons]
        omega
      have hfail' : ∀ j (hj : j<es.length),(attempts (n+1+j)).failure=some (.raised es[j]) := by
        intro j hj
        have h := hfail (j+1) (by rw [List.length_cons]; omega)
        rw [show n+(j+1)=n+1+j by omega] at h
        simpa using h
      rw [hshift] at hdone ⊢
      obtain ⟨hperm,hstep⟩ := hretry
      have hfirst : consumeAttempt sessionId turnId (attempts n)=.error (.raised e) :=
        consumeAttempt_failed hid (hfail 0 (by simp))
      unfold attemptLoop
      rw [hfirst]
      simp only [hperm,Bool.false_eq_true,if_false]
      by_cases hrate : (isRateLimitError e && decide (rate<rateLimitBackoffs))=true
      · rw [if_pos hrate] at hstep ⊢
        exact ih hlen hfail' hstep hdone
      · rw [if_neg hrate] at hstep ⊢
        obtain ⟨hconn,hlt,hrest⟩ := hstep
        rw [if_pos (by simp [hconn,hlt])]
        exact ih hlen hfail' hrest hdone

/-- The stream phase after retried failures: the deltas of the attempt that
succeeded, each once and in order, and nothing else. -/
theorem streamPhase_retried (hid : stripWhitespace cfg.turnId≠"") (es : List Exn)
    (hfail : ∀ j (hj : j<es.length),(call.attempts j).failure=some (.raised es[j]))
    (hretry : Retried 0 0 es) (hdone : (call.attempts es.length).failure=none) :
    (streamPhase cfg call s).events=
        (deltaTexts (call.attempts es.length)).map (deltaEvent cfg.sessionId hid) ∧
      (streamPhase cfg call s).exit=
        .ok ((lastStop (call.attempts es.length).items).or call.lastFinalMessage) := by
  have hlen := retried_length hretry (Nat.zero_le _) (Nat.zero_le _)
  have hstream := attemptLoop_retried cfg.sessionId hid call.attempts es
    (n:=0) (show es.length≤rateLimitBackoffs+connectionBackoffs by omega)
    (by simpa using hfail) hretry (by simpa using hdone)
  rw [Nat.zero_add] at hstream
  rw [streamPhase,streamCall,hstream]
  simp [Trace.events]

theorem emittedText_deltas (hid : stripWhitespace turnId≠"") (texts : List String) :
    emittedText (texts.map (deltaEvent sessionId hid))=concatText (texts.map stripWhitespace) := by
  rw [emittedText,List.map_map]
  rfl

/-- The event of a delta adds the stripped delta to its turn's bubble. -/
theorem addedText_deltaEvent (hid : stripWhitespace turnId≠"") (text : String) :
    addedText (stripWhitespace turnId) (deltaEvent sessionId hid text)=stripWhitespace text := by
  have hturn : (deltaEvent sessionId hid text).fields.turnId=stripWhitespace turnId := rfl
  have hkind : (deltaEvent sessionId hid text).kind=.textDelta := rfl
  have htext : (deltaEvent sessionId hid text).fields.text=some (stripWhitespace text) := rfl
  rw [addedText,hturn,hkind,htext,if_pos ⟨rfl,.inl rfl⟩,Option.getD_some]

/-- The client's bubble for the turn grows by the stripped deltas. -/
theorem bubbleText_deltas (hid : stripWhitespace turnId≠"") (texts : List String)
    (timeline : List ChatMessage) :
    bubbleText (stripWhitespace turnId) ((texts.map (deltaEvent sessionId hid)).foldl reduceEvent
      timeline)=
      bubbleText (stripWhitespace turnId) timeline++concatText (texts.map stripWhitespace) := by
  have hadded : texts.map (addedText (stripWhitespace turnId) ∘ deltaEvent sessionId hid)=
      texts.map stripWhitespace :=
    List.map_congr_left fun text _ => by rw [Function.comp_apply,addedText_deltaEvent]
  rw [bubbleText_foldl,List.map_map,hadded]

/-- What faithful streaming of an attempt means for one model call. -/
structure TextFaithful (cfg : LoopConfig) (call : ModelCall) (s : TurnState)
    (timeline : List ChatMessage) (a : StreamAttempt) : Prop where
  /-- The emitted text is the text of the attempt. -/
  emitted : emittedText (streamPhase cfg call s).events=attemptText a
  /-- The client's bubble grows by the text of the message that is stored. -/
  shown : ∀ reply,(streamPhase cfg call s).exit=.ok (some reply) →
    bubbleText (stripWhitespace cfg.turnId) ((streamPhase cfg call s).events.foldl reduceEvent
      timeline)=
      bubbleText (stripWhitespace cfg.turnId) timeline++messageText (assistantMessage reply)

/-- For retried failures followed by a complete attempt, whose final message
the provider assembles from its deltas, the text arrives unaltered exactly
when no delta of that attempt begins or ends in white space. -/
theorem textFaithful_iff (cfg : LoopConfig) (call : ModelCall) (s : TurnState)
    (timeline : List ChatMessage) (es : List Exn) (hid : stripWhitespace cfg.turnId≠"")
    (hfail : ∀ j (hj : j<es.length),(call.attempts j).failure=some (.raised es[j]))
    (hretry : Retried 0 0 es) (hdone : (call.attempts es.length).failure=none)
    (hassembled : ∀ reply,
      (lastStop (call.attempts es.length).items).or call.lastFinalMessage=some reply →
      messageText (assistantMessage reply)=attemptText (call.attempts es.length)) :
    TextFaithful cfg call s timeline (call.attempts es.length) ↔
      ∀ text∈deltaTexts (call.attempts es.length),Bare isWhiteSpace text := by
  obtain ⟨hevents,hexit⟩ := streamPhase_retried (s:=s) hid es hfail hretry hdone
  have hiff : concatText ((deltaTexts (call.attempts es.length)).map stripWhitespace)=
      attemptText (call.attempts es.length) ↔
      ∀ text∈deltaTexts (call.attempts es.length),Bare isWhiteSpace text :=
    concatText_trim_iff.trans
      ⟨fun h text hm => trimBy_eq_self_iff.mp (h text hm),
        fun h text hm => trimBy_eq_self_iff.mpr (h text hm)⟩
  constructor
  · intro h
    have hemit := h.emitted
    rw [hevents,emittedText_deltas] at hemit
    exact hiff.mp hemit
  · intro h
    refine ⟨?_,fun reply hreply => ?_⟩
    · rw [hevents,emittedText_deltas]
      exact hiff.mpr h
    · rw [hexit] at hreply
      rw [hevents,bubbleText_deltas,hiff.mpr h,hassembled reply (Except.ok.inj hreply)]

/-- A loop at the ticketing desk. -/
def deskLoop : LoopConfig :=
  {rt := ToolInvocation.ticketDesk
   sessionId := "01900000-0000-7000-8000-000000000003"
   turnId := "t-0123456789ab"
   toolNames := ["issue_ticket"]
   ctx := ToolInvocation.deskContext []}

/-- The provider's rate-limit error. -/
def rateLimited : Exn := ⟨"RateLimitError",["APIStatusError","APIError"],"429",none⟩

/-- A model call that is rate limited after one delta and then streams two
deltas and their message. -/
def twoDeltas (first second : String) : ModelCall :=
  {attempts := fun n =>
     if n=0 then ⟨[.textDelta first],some (.raised rateLimited)⟩
     else ⟨[.textDelta first,.textDelta second,
       .messageStop (some ⟨some "end_turn",[.text (first++second)]⟩)],none⟩
   tools := fun _ => {auditId := "",handler := fun _ => .cancelled}}

/-- Deltas without outer white space arrive once, in order and unaltered. -/
theorem textFaithful_iff_bare :
    TextFaithful deskLoop (twoDeltas "Hello" ", traveller") {} []
      ((twoDeltas "Hello" ", traveller").attempts 1) := by
  refine (textFaithful_iff deskLoop (twoDeltas "Hello" ", traveller") {} [] [rateLimited] (by decide)
    (fun j hj => ?_) ⟨rfl,trivial⟩ rfl fun reply h => ?_).mpr ?_
  · have h0 : j=0 := by simpa using hj
    subst h0
    rfl
  · cases h
    rfl
  · decide

/-- A delta that begins with a blank loses it. -/
theorem leading_blank_lost :
    ¬TextFaithful deskLoop (twoDeltas "Hello" " traveller") {} []
      ((twoDeltas "Hello" " traveller").attempts 1) := by
  intro h
  have hemit : emittedText (streamPhase deskLoop (twoDeltas "Hello" " traveller") {}).events=
      "Hellotraveller" := by decide
  have hsaid : attemptText ((twoDeltas "Hello" " traveller").attempts 1)="Hello traveller" := by
    decide
  exact absurd (hemit.symm.trans (h.emitted.trans hsaid)) (by decide)

end Voyagent.StreamedText
