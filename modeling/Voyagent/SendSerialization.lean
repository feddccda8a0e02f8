import Voyagent.ChatTimeline
import Voyagent.KeyedMap
import Voyagent.TransitionRuns

/-!
# Sends of one chat hook

Every call chains its stream on the promise of the latest call and then is the
latest itself; whoever ends as the latest clears the reference. A call for an
older message first looks its text up in a state updater, which the view
library may run at once or only when it renders.
-/

namespace Voyagent.SendSerialization

open KeyedMap ChatTimeline TransitionRuns

/-- A call of `send`, `respondToApproval` or `regenerate`. -/
inductive HookCall where
  | send (text : String) (approvals : Option (Table String Bool))
  | respondToApproval (approvalId : String) (granted : Bool)
  /-- With the messages the updater is given, and whether it runs before
  `setMessages` returns. -/
  | regenerate (userMessageId : String) (messages : List ChatMessage) (atOnce : Bool)

/-- The arguments of `client.sendMessage` that differ between calls. -/
structure SendMessageOptions where
  message : String
  approvals : Option (Table String Bool)
  deriving DecidableEq

def isUserMessage (id : String) : ChatMessage → Bool
  | .user id' _ => id'=id
  | .assistant _ => false

/-- What the updater of `regenerate` leaves in `targetText`. -/
def targetText (messages : List ChatMessage) (userMessageId : String) : String :=
  match messages.find? (isUserMessage userMessageId) with
  | some (.user _ text) => text
  | _ => ""

/-- The text and the approvals of a call. -/
def HookCall.options : HookCall → SendMessageOptions
  | .send text approvals => ⟨text,approvals⟩
  | .respondToApproval approvalId granted => ⟨"",some [(approvalId,granted)]⟩
  | .regenerate userMessageId messages _ => ⟨targetText messages userMessageId,none⟩

/-- The updater of a `regenerate` has run when `setMessages` returns. -/
def HookCall.atOnce : HookCall → Bool
  | .regenerate _ _ atOnce => atOnce
  | _ => true

/-- The call gets past its early return. -/
def HookCall.proceeds : HookCall → Bool
  | .regenerate userMessageId messages atOnce =>
    (if atOnce then targetText messages userMessageId else "")≠""
  | _ => true

/-- How a stream ends. -/
inductive StreamOutcome where
  | succeeded
  | failed
  | stopped

/-- Where a call that proceeded stands. -/
inductive Stage where
  | absent
  /-- At `await prior`, for the promise of that turn. -/
  | awaiting (prior : Nat)
  /-- Its stream is open. -/
  | streaming
  /-- Its promise is settled. -/
  | ended (outcome : StreamOutcome)
  /-- Its `finally` has run. -/
  | cleared

structure Hook where
  /-- Every call made. -/
  calls : List HookCall := []
  /-- The calls that proceeded, in order. -/
  turns : List HookCall := []
  stages : Nat → Stage := fun _ => .absent
  /-- `inFlightRef.current`. -/
  inFlight : Option Nat := none
  /-- The streams opened so far. -/
  opened : List SendMessageOptions := []

inductive Act where
  | call (c : HookCall)
  /-- The awaited promise is settled and the turn goes on to its stream. -/
  | resume (i : Nat)
  | finish (i : Nat) (outcome : StreamOutcome)
  /-- The `finally` behind `await next`. -/
  | clear (i : Nat)

/-- The promise of the turn is settled. -/
def Stage.settled : Stage → Bool
  | .ended _ | .cleared => true
  | _ => false

/-- The stream of the turn has been opened. -/
def Stage.started : Stage → Bool
  | .streaming | .ended _ | .cleared => true
  | _ => false

/-- One step; a call runs up to its first suspension. -/
def step (w : Hook) : Act → Option Hook
  | .call c =>
    let w' := {w with calls := w.calls++[c]}
    if c.proceeds then
      let i := w.turns.length
      let w' := {w' with turns := w.turns++[c],inFlight := some i}
      match w.inFlight with
      | none => some {w' with
          stages := Function.update w.stages i .streaming
          opened := w.opened++[c.options]}
      | some prior => some {w' with stages := Function.update w.stages i (.awaiting prior)}
    else some w'
  | .resume i =>
    match w.stages i,w.turns[i]? with
    | .awaiting prior,some c =>
      if (w.stages prior).settled then
        some {w with
          stages := Function.update w.stages i .streaming
          opened := w.opened++[c.options]}
      else none
    | _,_ => none
  | .finish i outcome =>
    match w.stages i with
    | .streaming => some {w with stages := Function.update w.stages i (.ended outcome)}
    | _ => none
  | .clear i =>
    match w.stages i with
    | .ended _ => some {w with
        stages := Function.update w.stages i .cleared
        inFlight := if w.inFlight=some i then none else w.inFlight}
    | _ => none

/-- Calls at any time, and streams that take any time and end in any way. -/
def Step : Hook → Act → Hook → Prop := ofPartial step

/-- A `regenerate` is of an existing message that is not empty. -/
def Existing (_ : Hook) : Act → Prop
  | .call (.regenerate userMessageId messages _) => targetText messages userMessageId≠""
  | _ => True

/-- No turn waits and no stream is open. -/
def Hook.Settled (w : Hook) : Prop := ∀ i<w.turns.length,(w.stages i).settled=true

/-- At most one stream is open; streams were opened in the order of the calls, each
with its call's text and approvals; and once all have ended, one for every call. -/
structure Serialized (w : Hook) : Prop where
  single : ∀ i j,w.stages i=.streaming → w.stages j=.streaming → i=j
  ordered : w.opened <+: w.calls.map HookCall.options
  complete : w.Settled → w.opened=w.calls.map HookCall.options

/-- Every call ran its updater at once. -/
def Hook.AtOnce (w : Hook) : Prop := ∀ c∈w.calls,c.atOnce=true

/-! ## The chain -/

/-- The first `k` turns have started, all of them but the last have ended, each
later one waits for the turn before it, and the reference is to the last turn
until all have ended. -/
structure Chained (w : Hook) (k : Nat) : Prop where
  turns : w.turns=w.calls.filter HookCall.proceeds
  started_le : k ≤ w.turns.length
  started : ∀ i,(w.stages i).started=true ↔ i<k
  before : ∀ i,i+1<k → (w.stages i).settled=true
  waiting : ∀ i,k ≤ i → i<w.turns.length → ∃ prior,w.stages i=.awaiting prior ∧ prior+1=i
  absent : ∀ i,w.turns.length ≤ i → w.stages i=.absent
  latest : ∀ i,w.inFlight=some i → i+1=w.turns.length
  none_left : w.inFlight=none → w.Settled
  opened : w.opened=(w.turns.take k).map HookCall.options

variable {w w' : Hook} {a : Act} {acts : List Act} {c : HookCall} {i j k prior : Nat}
  {outcome : StreamOutcome}

theorem Stage.started_of_settled {s : Stage} (h : s.settled=true) : s.started=true := by
  cases s <;> first | rfl | cases h

theorem chained_start : Chained {} 0 where
  turns := rfl
  started_le := Nat.le_refl 0
  started i := by simp [Stage.started]
  before i hi := by omega
  waiting i _ hi := absurd hi (Nat.not_lt_zero i)
  absent _ _ := rfl
  latest i hi := by cases hi
  none_left _ i hi := absurd hi (Nat.not_lt_zero i)
  opened := rfl

/-- Every turn has started once all have ended. -/
theorem Chained.started_all (h : Chained w k) (hsettled : w.Settled) : k=w.turns.length := by
  refine Nat.le_antisymm h.started_le (Nat.le_of_not_lt fun hlt => ?_)
  exact absurd ((h.started k).mp (Stage.started_of_settled (hsettled k hlt))) (Nat.lt_irrefl k)

/-- A turn that waits is the next to start when the one before has ended. -/
theorem Chained.next_turn (h : Chained w k) (hi : w.stages i=.awaiting prior)
    (hprior : (w.stages prior).settled=true) : i=k ∧ k<w.turns.length := by
  have hlt : i<w.turns.length := by
    by_contra hge
    have habsent := h.absent i (by omega)
    rw [hi] at habsent
    cases habsent
  have hge : k ≤ i := by
    by_contra hlt'
    have hstarted := (h.started i).mpr (by omega)
    rw [hi] at hstarted
    cases hstarted
  obtain ⟨p,hp,hpi⟩ := h.waiting i hge hlt
  rw [hi] at hp
  obtain rfl : prior=p := by injection hp
  have hpk := (h.started prior).mp (Stage.started_of_settled hprior)
  omega

/-- A call that returns early leaves the chain as it is. -/
theorem Chained.call_skipped (h : Chained w k) (hc : c.proceeds=false) :
    Chained {w with calls := w.calls++[c]} k :=
  {h with turns := by simp [h.turns,hc]}

/-- The first call after all turns have ended starts at once. -/
theorem Chained.call_free (h : Chained w k) (hc : c.proceeds=true) (hfree : w.inFlight=none) :
    Chained {w with
      calls := w.calls++[c]
      turns := w.turns++[c]
      stages := Function.update w.stages w.turns.length .streaming
      inFlight := some w.turns.length
      opened := w.opened++[c.options]} (k+1) := by
  have hsettled := h.none_left hfree
  obtain rfl := h.started_all hsettled
  constructor
  · simp [h.turns,hc]
  · simp
  · intro i
    by_cases hi : i=w.turns.length
    · subst hi
      simp [Stage.started]
    · simp only [Function.update_of_ne hi,h.started]
      omega
  · intro i hi
    simp only [Function.update_of_ne (show i≠w.turns.length by omega)]
    exact hsettled i (by omega)
  · intro i hge hlt
    simp only [List.length_append,List.length_singleton] at hlt
    omega
  · intro i hi
    simp only [List.length_append,List.length_singleton] at hi
    simp only [Function.update_of_ne (show i≠w.turns.length by omega)]
    exact h.absent i (by omega)
  · intro i hi
    cases hi
    simp
  · intro hnone
    cases hnone
  · simp [h.opened,List.take_of_length_le]

/-- A call while a turn is left waits for the latest. -/
theorem Chained.call_behind (h : Chained w k) (hc : c.proceeds=true)
    (hlatest : w.inFlight=some prior) :
    Chained {w with
      calls := w.calls++[c]
      turns := w.turns++[c]
      stages := Function.update w.stages w.turns.length (.awaiting prior)
      inFlight := some w.turns.length} k := by
  have hlast := h.latest prior hlatest
  have hle := h.started_le
  constructor
  · simp [h.turns,hc]
  · simp only [List.length_append,List.length_singleton]
    omega
  · intro i
    by_cases hi : i=w.turns.length
    · subst hi
      simp only [Function.update_self,Stage.started]
      exact iff_of_false Bool.false_ne_true (by omega)
    · simp only [Function.update_of_ne hi,h.started]
  · intro i hi
    simp only [Function.update_of_ne (show i≠w.turns.length by omega)]
    exact h.before i hi
  · intro i hge hlt
    simp only [List.length_append,List.length_singleton] at hlt
    by_cases hi : i=w.turns.length
    · exact ⟨prior,by simp [hi],by omega⟩
    · simp only [Function.update_of_ne hi]
      exact h.waiting i hge (by omega)
  · intro i hi
    simp only [List.length_append,List.length_singleton] at hi
    simp only [Function.update_of_ne (show i≠w.turns.length by omega)]
    exact h.absent i (by omega)
  · intro i hi
    cases hi
    simp
  · intro hnone
    cases hnone
  · rw [List.take_append_of_le_length hle]
    exact h.opened

/-- The next turn starts. -/
theorem Chained.resume (h : Chained w k) (hi : w.stages i=.awaiting prior)
    (hprior : (w.stages prior).settled=true) (hc : w.turns[i]?=some c) :
    Chained {w with
      stages := Function.update w.stages i .streaming
      opened := w.opened++[c.options]} (k+1) := by
  obtain ⟨rfl,hlt⟩ := h.next_turn hi hprior
  obtain ⟨p,hp,hpi⟩ := h.waiting i (Nat.le_refl i) hlt
  rw [hi] at hp
  obtain rfl : prior=p := by injection hp
  constructor
  · exact h.turns
  · exact hlt
  · intro j
    by_cases hj : j=i
    · subst hj
      simp [Stage.started]
    · simp only [Function.update_of_ne hj,h.started]
      omega
  · intro j hj
    simp only [Function.update_of_ne (show j≠i by omega)]
    by_cases hlast : j=prior
    · rwa [hlast]
    · exact h.before j (by omega)
  · intro j hge hjlt
    simp only [Function.update_of_ne (show j≠i by omega)]
    exact h.waiting j (by omega) hjlt
  · intro j hj
    have hne : j≠i := by
      have hj' : w.turns.length≤j := hj
      omega
    simp only [Function.update_of_ne hne]
    exact h.absent j hj
  · exact h.latest
  · intro hnone
    have hall := h.started_all (h.none_left hnone)
    omega
  · simp [h.opened,List.take_add_one,hc]

/-- A step of a started turn towards its end leaves the chain as it is. -/
theorem Chained.settle {s : Stage} (h : Chained w k) (hi : (w.stages i).started=true)
    (hs : s.settled=true) :
    Chained {w with stages := Function.update w.stages i s} k := by
  have hik := (h.started i).mp hi
  have hle := h.started_le
  have hkept : ∀ j,(w.stages j).settled=true →
      (Function.update w.stages i s j).settled=true := by
    intro j hj
    by_cases hji : j=i
    · rw [hji,Function.update_self]
      exact hs
    · rwa [Function.update_of_ne hji]
  constructor
  · exact h.turns
  · exact hle
  · intro j
    by_cases hji : j=i
    · subst hji
      simp only [Function.update_self]
      exact iff_of_true (Stage.started_of_settled hs) hik
    · simp only [Function.update_of_ne hji,h.started]
  · exact fun j hj => hkept j (h.before j hj)
  · intro j hge hjlt
    simp only [Function.update_of_ne (show j≠i by omega)]
    exact h.waiting j hge hjlt
  · intro j hj
    have hne : j≠i := by
      have hj' : w.turns.length≤j := hj
      omega
    simp only [Function.update_of_ne hne]
    exact h.absent j hj
  · exact h.latest
  · exact fun hnone j hj => hkept j (h.none_left hnone j hj)
  · exact h.opened

/-- The last turn drops the reference only when all have ended. -/
theorem Chained.drop (h : Chained w k) (hi : (w.stages i).settled=true) :
    Chained {w with inFlight := if w.inFlight=some i then none else w.inFlight} k := by
  have hik := (h.started i).mp (Stage.started_of_settled hi)
  have hle := h.started_le
  refine {h with latest := ?_,none_left := ?_}
  · intro j hj
    simp only at hj
    split at hj
    · cases hj
    · exact h.latest j hj
  · intro hnone
    simp only at hnone
    split at hnone
    · rename_i hlast
      have hlen := h.latest i hlast
      intro j hj
      by_cases hji : j=i
      · simpa [hji] using hi
      · have hj' : j<w.turns.length := hj
        exact h.before j (by omega)
    · exact h.none_left hnone

/-- Every step keeps the chain. -/
theorem Chained.step (h : Chained w k) (hs : Step w a w') : ∃ k',Chained w' k' := by
  unfold Step ofPartial at hs
  cases a with
  | call c =>
    simp only [SendSerialization.step] at hs
    cases hc : c.proceeds with
    | false =>
      simp only [hc,Bool.false_eq_true,if_false,Option.some.injEq] at hs
      exact hs ▸ ⟨k,h.call_skipped hc⟩
    | true =>
      simp only [hc,if_true] at hs
      split at hs
      · rename_i hfree
        cases hs
        exact ⟨k+1,h.call_free hc hfree⟩
      · rename_i prior hlatest
        cases hs
        exact ⟨k,h.call_behind hc hlatest⟩
  | resume i =>
    simp only [SendSerialization.step] at hs
    split at hs
    · rename_i prior c hi hc
      split at hs
      · rename_i hprior
        cases hs
        exact ⟨k+1,h.resume hi hprior hc⟩
      · cases hs
    · cases hs
  | finish i outcome =>
    simp only [SendSerialization.step] at hs
    split at hs
    · rename_i hi
      cases hs
      exact ⟨k,h.settle (by rw [hi]; rfl) rfl⟩
    · cases hs
  | clear i =>
    simp only [SendSerialization.step] at hs
    split at hs
    · rename_i outcome hi
      cases hs
      have hsettled := h.settle (i:=i) (s:=.cleared) (by rw [hi]; rfl) rfl
      exact ⟨k,hsettled.drop (by simp [Stage.settled])⟩
    · cases hs

/-- Every state reached has its turns in a chain. -/
theorem chained_of_run {C : Hook → Act → Prop} (hrun : Run (guarded Step C) {} acts w) :
    ∃ k,Chained w k :=
  hrun.guarded_invariant (I:=fun w => ∃ k,Chained w k) ⟨0,chained_start⟩
    fun _ _ _ ⟨_,h⟩ hs _ => h.step hs

/-! ## Calls and streams -/

/-- A turn that streams is the last that started. -/
theorem Chained.last_of_streaming (h : Chained w k) (hi : w.stages i=.streaming) : i+1=k := by
  have hik := (h.started i).mp (by rw [hi]; rfl)
  by_contra hne
  have hsettled := h.before i (by omega)
  rw [hi] at hsettled
  cases hsettled

/-- At most one stream is open. -/
theorem Chained.single (h : Chained w k) (hi : w.stages i=.streaming)
    (hj : w.stages j=.streaming) : i=j := by
  have hik := h.last_of_streaming hi
  have hjk := h.last_of_streaming hj
  omega

/-- The streams opened are those of the first calls that proceeded. -/
theorem Chained.opened_prefix (h : Chained w k) :
    w.opened <+: (w.calls.filter HookCall.proceeds).map HookCall.options := by
  rw [h.opened,← h.turns]
  exact (List.take_prefix k w.turns).map HookCall.options

/-- Once all have ended every call that proceeded has opened its stream. -/
theorem Chained.opened_all (h : Chained w k) (hsettled : w.Settled) :
    w.opened=(w.calls.filter HookCall.proceeds).map HookCall.options := by
  rw [h.opened,← h.turns,h.started_all hsettled,List.take_length]

theorem Stage.streaming_of_started {s : Stage} (h : s.started=true) (hopen : s.settled≠true) :
    s=.streaming := by
  cases s with
  | streaming => rfl
  | absent => cases h
  | awaiting => cases h
  | ended => exact absurd rfl hopen
  | cleared => exact absurd rfl hopen

/-- An open stream may end in any way. -/
theorem finish_enabled (hi : w.stages i=.streaming) (outcome : StreamOutcome) :
    ∃ w',Step w (.finish i outcome) w' :=
  ⟨{w with stages := Function.update w.stages i (.ended outcome)},
    by simp [Step,ofPartial,step,hi]⟩

/-- Until all turns have ended one of them can go on. -/
theorem Chained.progress (h : Chained w k) (hopen : ¬w.Settled) :
    ∃ i,(∃ w',Step w (.resume i) w') ∨ ∀ outcome,∃ w',Step w (.finish i outcome) w' := by
  unfold Hook.Settled at hopen
  push Not at hopen
  obtain ⟨i,hi,hunsettled⟩ := hopen
  by_cases hik : i<k
  · have hstream := Stage.streaming_of_started ((h.started i).mpr hik) hunsettled
    exact ⟨i,.inr (finish_enabled hstream)⟩
  · -- The first turn that waits is behind the last that started.
    have hk : k<w.turns.length := by omega
    obtain ⟨prior,hk',hprior⟩ := h.waiting k (Nat.le_refl k) hk
    have hstarted := (h.started prior).mpr (by omega)
    by_cases hsettled : (w.stages prior).settled=true
    · refine ⟨k,.inl ⟨{w with
        stages := Function.update w.stages k .streaming
        opened := w.opened++[w.turns[k].options]},?_⟩⟩
      simp [Step,ofPartial,SendSerialization.step,hk',List.getElem?_eq_getElem hk,hsettled]
    · exact ⟨prior,.inr (finish_enabled (Stage.streaming_of_started hstarted hsettled))⟩

/-- A call of an existing message that is not empty proceeds if its updater has run. -/
theorem HookCall.proceeds_eq_atOnce (h : Existing w (.call c)) : c.proceeds=c.atOnce := by
  cases c with
  | regenerate userMessageId messages atOnce =>
    have hne : targetText messages userMessageId≠"" := h
    cases atOnce <;> simp [HookCall.proceeds,HookCall.atOnce,hne]
  | _ => rfl

/-- Only a call is recorded as one. -/
theorem step_calls (hs : Step w a w') :
    w'.calls=w.calls ∨ ∃ c,a=.call c ∧ w'.calls=w.calls++[c] := by
  unfold Step ofPartial at hs
  cases a with
  | call c =>
    refine .inr ⟨c,rfl,?_⟩
    simp only [step] at hs
    split at hs
    · split at hs <;> · cases hs; rfl
    · cases hs
      rfl
  | resume i =>
    simp only [step] at hs
    split at hs
    · split at hs
      · cases hs
        exact .inl rfl
      · cases hs
    · cases hs
  | finish i outcome | clear i =>
    simp only [step] at hs
    split at hs
    · cases hs
      exact .inl rfl
    · cases hs

/-- Every call recorded met the condition on calls. -/
theorem existing_of_run (hrun : Run (guarded Step Existing) {} acts w) :
    ∀ c∈w.calls,Existing {} (.call c) := by
  refine hrun.guarded_invariant (I:=fun w => ∀ c∈w.calls,Existing {} (.call c)) ?_ ?_
  · exact fun c hc => absurd hc List.not_mem_nil
  · intro w a w' hcalls hs hexisting c hc
    rcases step_calls hs with heq|⟨c',rfl,heq⟩
    · exact hcalls c (heq ▸ hc)
    · rw [heq,List.mem_append,List.mem_singleton] at hc
      rcases hc with hc|rfl
      · exact hcalls c hc
      · exact hexisting

/-- If every updater ran at once, at most one stream is open at any time, the
streams are those of the calls in their order, and all calls have theirs once
all have ended. Where an updater did not, some call has none. Whatever the
updaters do, a turn that has not ended can go on. -/
theorem sends_serialized (hrun : Run (guarded Step Existing) {} acts w) :
    (w.AtOnce → Serialized w) ∧ (w.Settled → Serialized w → w.AtOnce) ∧
      (¬w.Settled →
        ∃ i,(∃ w',Step w (.resume i) w') ∨ ∀ outcome,∃ w',Step w (.finish i outcome) w') := by
  obtain ⟨k,h⟩ := chained_of_run hrun
  have hproceeds : ∀ c∈w.calls,c.proceeds=c.atOnce :=
    fun c hc => HookCall.proceeds_eq_atOnce (existing_of_run hrun c hc)
  refine ⟨fun hall => ?_,fun hsettled hserial c hc => ?_,h.progress⟩
  · have hfilter : w.calls.filter HookCall.proceeds=w.calls :=
      List.filter_eq_self.mpr fun c hc => (hproceeds c hc).trans (hall c hc)
    exact {
      single := fun i j hi hj => h.single hi hj
      ordered := hfilter ▸ h.opened_prefix
      complete := fun hsettled => hfilter ▸ h.opened_all hsettled }
  · have hlengths := congrArg List.length ((h.opened_all hsettled).symm.trans (hserial.complete hsettled))
    rw [List.length_map,List.length_map] at hlengths
    exact (hproceeds c hc).symm.trans (List.length_filter_eq_length_iff.mp hlengths c hc)

/-- Three calls one after the other; the first stream fails and the second is stopped. -/
def overlappingActs : List Act :=
  [.call (.send "Book it" none),.call (.respondToApproval "ap" true),
    .call (.regenerate "u" [.user "u" "Hello"] true),.finish 0 .failed,.resume 1,.clear 0,
    .finish 1 .stopped,.resume 2,.clear 1,.finish 2 .succeeded,.clear 2]

theorem sends_serialized_overlapping :
    ∃ w,Run Step {} overlappingActs w ∧ Serialized w ∧
      w.opened=[⟨"Book it",none⟩,⟨"",some [("ap",true)]⟩,⟨"Hello",none⟩] := by
  have heval : (overlappingActs.foldlM step {}).map
      (fun w => (w.opened,w.calls.all HookCall.atOnce))=
        some ([⟨"Book it",none⟩,⟨"",some [("ap",true)]⟩,⟨"Hello",none⟩],true) := by
    decide +kernel
  obtain ⟨w,hw,hfields⟩ := Option.map_eq_some_iff.mp heval
  obtain ⟨hopened,hatOnce⟩ := Prod.mk.inj hfields
  have hrun : Run Step {} overlappingActs w := run_of_foldlM hw
  have hexisting : ∀ a∈overlappingActs,∀ w,Existing w a := by
    simp [overlappingActs,Existing,targetText,isUserMessage]
  exact ⟨w,hrun,(sends_serialized (hrun.guard hexisting)).1 (List.all_eq_true.mp hatOnce),hopened⟩

/-- A message is sent and answered, and then sent again while React has an update
of the messages left. -/
def deferredActs : List Act :=
  [.call (.send "Hello" none),.finish 0 .succeeded,.clear 0,
    .call (.regenerate "u" [.user "u" "Hello"] false)]

/-- The last call returns early and opens no stream. -/
theorem deferred_regenerate_skipped :
    ¬∀ acts w,Run (guarded Step Existing) {} acts w → Serialized w := by
  intro hall
  have heval : (deferredActs.foldlM step {}).map
      (fun w => (w.turns.length,(w.stages 0).settled,w.opened,w.calls.map HookCall.options))=
        some (1,true,[⟨"Hello",none⟩],[⟨"Hello",none⟩,⟨"Hello",none⟩]) := by
    decide +kernel
  obtain ⟨w,hw,hfields⟩ := Option.map_eq_some_iff.mp heval
  simp only [Prod.mk.injEq] at hfields
  obtain ⟨hlength,hended,hopened,hcalls⟩ := hfields
  have hrun : Run Step {} deferredActs w := run_of_foldlM hw
  have hexisting : ∀ a∈deferredActs,∀ w,Existing w a := by
    simp [deferredActs,Existing,targetText,isUserMessage]
  have hsettled : w.Settled := by
    intro i hi
    obtain rfl : i=0 := by omega
    exact hended
  have hcomplete := (hall deferredActs w (hrun.guard hexisting)).complete hsettled
  rw [hopened,hcalls] at hcomplete
  exact absurd hcomplete (by decide)

end Voyagent.SendSerialization
