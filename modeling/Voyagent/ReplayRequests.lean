import Voyagent.PythonNumbers
import Voyagent.SseReconnect

/-!
# Requests that resume an event stream

A request may carry the id of the last frame its client has seen. An id up to
the session's counter is answered from the session's buffer, any other one
with an error frame. The buffer forgets, the counter does not: an id that lies
further back than the buffer is answered with the frames that are left.
-/

namespace Voyagent.ReplayRequests

open RuntimeValues AgentEvents Sessions ReplayBuffers PythonNumbers SseReconnect

/-- The frames of a session's connections, in order: who sent it, and what. -/
abbrev Emissions : Type := List (Nat × AgentEvent)

/-- Number emissions as the session they are recorded in counts them. -/
def numberBy (sessionOf : Nat → Nat) (counters : Nat → Nat) : Emissions → List Frame
  | [] => []
  | e::es => (counters (sessionOf e.1)+1,e.2)::
      numberBy sessionOf
        (fun j => if j=sessionOf e.1 then counters j+1 else counters j) es

/-- The frames clients of the session were sent. -/
def framesSent (store : StoreKind) (es : Emissions) : List Frame :=
  numberBy store.sessionOf (fun _ => 0) es

/-- The replay buffer of the session object a request is handed. A stored
session carries none. -/
def sessionBuffer (store : StoreKind) (es : Emissions) : ReplayBuffer AgentEvent :=
  match store with
  | .inMemory => .recordAll sseReplayBufferCap (es.map Prod.snd)
  | .postgres => .empty

/-- `replay_requested`. -/
def replayRequested (rawLastId : Option String) : Bool := rawLastId.any (· != "")

/-- `last_event_id`: the header's number, if it has one. -/
def lastEventId (rawLastId : Option String) : Option Int :=
  if replayRequested rawLastId then rawLastId.bind intOfText else none

/-- `replay_valid`, by the session's counter. -/
def replayValid (counter : Nat) (lastId : Option Int) : Bool :=
  lastId.any fun n => decide (n≤(counter : Int))

/-- Buffered frames with a higher id. -/
def framesAfter (b : ReplayBuffer AgentEvent) (n : Int) : List Frame :=
  b.frames.filter fun f => decide (n<(f.1 : Int))

/-- How a request is answered before its live path. -/
inductive Answer where
  /-- No replay was asked for. -/
  | live
  | replayed (fs : List Frame)
  /-- The error frame, under the next id. -/
  | failed (f : Frame)

/-- What is sent before the live path. -/
def Answer.sent : Answer → List Frame
  | .live => []
  | .replayed fs => fs
  | .failed f => [f]

/-- The replay path of `event_source` over the session's buffer. -/
def replayAnswer (sessionId : EntityId) (requested valid : Bool) (lastId : Option Int)
    (b : ReplayBuffer AgentEvent) : Answer :=
  if requested then
    if valid then .replayed (lastId.elim [] (framesAfter b))
    else .failed (b.counter+1,replayFailed sessionId)
  else .live

/-- A request to `send_message`. Other connections may send frames between
its arrival and its replay. -/
def answerRequest (store : StoreKind) (sessionId : EntityId) (before meanwhile : Emissions)
    (rawLastId : Option String) : Answer :=
  replayAnswer sessionId (replayRequested rawLastId)
    (replayValid (sessionBuffer store before).counter (lastEventId rawLastId))
    (lastEventId rawLastId) (sessionBuffer store (before++meanwhile))

/-- A client that names frame `n` gets every frame after it, or is told that
the replay failed. -/
def NoGap (frames : List Frame) (rawLastId : Option String) (ans : Answer) : Prop :=
  ∀ n∈lastEventId rawLastId,
    (∃ f,ans=.failed f) ∨ ans.sent=frames.filter fun f => decide (n<(f.1 : Int))

/-- The named frame is one the session has not counted yet, or the buffer
reaches back to it. A stored session has counted none and holds none. -/
def Reaches (store : StoreKind) (before meanwhile : Emissions) (n : Int) : Prop :=
  match store with
  | .inMemory => (before.length : Int)<n ∨ (before++meanwhile).length≤n.toNat+sseReplayBufferCap
  | .postgres => 0<n ∨ before++meanwhile=[]

variable {store : StoreKind} {sessionId : EntityId} {before meanwhile es : Emissions}
  {rawLastId : Option String} {n : Int} {b : ReplayBuffer AgentEvent}

/-! ## The buffer and the stream it serves -/

/-- One counter numbers emissions one by one. -/
theorem numberBy_const (counters : Nat → Nat) (es : Emissions) :
    numberBy (fun _ => 0) counters es=numberFrom (counters 0) (es.map Prod.snd) := by
  induction es generalizing counters with
  | nil => rfl
  | cons e es ih =>
    rw [numberBy,ih,List.map_cons,numberFrom,if_pos rfl]

theorem framesSent_inMemory (es : Emissions) :
    framesSent .inMemory es=numberFrom 0 (es.map Prod.snd) :=
  numberBy_const _ es

/-- Ids start at one. -/
theorem numberBy_pos (sessionOf counters : Nat → Nat) (es : Emissions) :
    ∀ f∈numberBy sessionOf counters es,0<f.1 := by
  induction es generalizing counters with
  | nil => simp [numberBy]
  | cons e es ih =>
    intro f hf
    rcases List.mem_cons.mp hf with rfl|hf
    · exact Nat.succ_pos _
    · exact ih _ f hf

theorem numberBy_eq_nil (sessionOf counters : Nat → Nat) (es : Emissions) :
    numberBy sessionOf counters es=[] ↔ es=[] := by
  cases es <;> simp [numberBy]

@[simp] theorem sessionBuffer_counter (es : Emissions) :
    (sessionBuffer .inMemory es).counter=es.length := by
  rw [sessionBuffer,recordAll_counter,List.length_map]

/-- Ids are natural numbers: a smaller integer stands before all of them. -/
theorem filter_toNat (fs : List Frame) (hpos : ∀ f∈fs,0<f.1) (n : Int) :
    fs.filter (fun f => decide (n<(f.1 : Int)))=fs.filter fun f => decide (n.toNat<f.1) := by
  refine List.filter_congr fun f hf => ?_
  have hf0 := hpos f hf
  rw [decide_eq_decide]
  omega

/-- The session in memory replays everything after a frame exactly when at
most a buffer's length was sent since. -/
theorem framesAfter_inMemory_iff (es : Emissions) (n : Int) :
    framesAfter (sessionBuffer .inMemory es) n=
        (framesSent .inMemory es).filter (fun f => decide (n<(f.1 : Int))) ↔
      es.length≤n.toNat+sseReplayBufferCap := by
  have hpos : ∀ f∈framesSent .inMemory es,0<f.1 := numberBy_pos _ _ es
  have hnum : Numbered 0 (framesSent .inMemory es) := by
    rw [framesSent_inMemory]
    exact numbered_numberFrom 0 _
  have hlen : (framesSent .inMemory es).length=es.length := by
    rw [framesSent_inMemory,length_numberFrom,List.length_map]
  have hbuf : (sessionBuffer .inMemory es).frames=
      (framesSent .inMemory es).drop (es.length-sseReplayBufferCap) := by
    rw [sessionBuffer,recordAll_frames,framesSent_inMemory,List.length_map]
  rw [framesAfter,hbuf,filter_toNat _ (fun f hf => hpos f (List.mem_of_mem_drop hf)) n,
    filter_toNat _ hpos n,hnum.filter_drop_iff _ _ (by rw [hlen]; exact Nat.sub_le _ _)]
  exact Nat.sub_le_iff_le_add

/-! ## When nothing is missing -/

/-- Only a request that names a frame is replayed. -/
theorem replayRequested_of_lastEventId (h : n∈lastEventId rawLastId) :
    replayRequested rawLastId=true := by
  unfold lastEventId at h
  split at h
  · assumption
  · cases h

/-- How a request is answered that names frame `n`. -/
theorem answerRequest_of_lastEventId (h : n∈lastEventId rawLastId) :
    answerRequest store sessionId before meanwhile rawLastId=
      if n≤((sessionBuffer store before).counter : Int) then
        .replayed (framesAfter (sessionBuffer store (before++meanwhile)) n)
      else .failed ((sessionBuffer store (before++meanwhile)).counter+1,replayFailed sessionId) := by
  have hid : lastEventId rawLastId=some n := h
  rw [answerRequest,replayAnswer,if_pos (replayRequested_of_lastEventId h),hid]
  simp [replayValid]

theorem noGap_inMemory_iff (h : n∈lastEventId rawLastId) :
    NoGap (framesSent .inMemory (before++meanwhile)) rawLastId
        (answerRequest .inMemory sessionId before meanwhile rawLastId) ↔
      Reaches .inMemory before meanwhile n := by
  have hid : lastEventId rawLastId=some n := h
  unfold NoGap Reaches
  rw [answerRequest_of_lastEventId h,sessionBuffer_counter,hid]
  by_cases hn : n≤(before.length : Int)
  · rw [if_pos hn]
    have hlt : ¬(before.length : Int)<n := Int.not_lt.mpr hn
    simp only [Option.mem_some_iff,forall_eq',Answer.sent,framesAfter_inMemory_iff,reduceCtorEq,
      exists_false,false_or,hlt]
  · rw [if_neg hn]
    simp [Int.not_le.mp hn]

theorem noGap_postgres_iff (h : n∈lastEventId rawLastId) :
    NoGap (framesSent .postgres (before++meanwhile)) rawLastId
        (answerRequest .postgres sessionId before meanwhile rawLastId) ↔
      Reaches .postgres before meanwhile n := by
  have hid : lastEventId rawLastId=some n := h
  unfold NoGap Reaches
  rw [answerRequest_of_lastEventId h,hid]
  by_cases hn : n≤0
  · have hall : (framesSent .postgres (before++meanwhile)).filter (fun f => decide (n<(f.1 : Int)))=
        framesSent .postgres (before++meanwhile) := by
      refine List.filter_eq_self.mpr fun f hf => ?_
      have := numberBy_pos _ _ _ f hf
      rw [decide_eq_true_eq]
      omega
    rw [if_pos (by exact hn)]
    have hlt : ¬0<n := Int.not_lt.mpr hn
    have hnone : framesAfter (sessionBuffer .postgres (before++meanwhile)) n=[] := rfl
    simp only [Option.mem_some_iff,forall_eq',hall,Answer.sent,reduceCtorEq,exists_false,false_or,
      hlt,hnone]
    rw [eq_comm]
    exact numberBy_eq_nil _ _ _
  · rw [if_neg (by exact hn)]
    simp [Int.not_le.mp hn]

/-- A request is answered without a gap exactly when the frame it names, if
any, is unknown to the session or not further back than its buffer. -/
theorem noGap_iff (store : StoreKind) (sessionId : EntityId) (before meanwhile : Emissions)
    (rawLastId : Option String) :
    NoGap (framesSent store (before++meanwhile)) rawLastId
        (answerRequest store sessionId before meanwhile rawLastId) ↔
      ∀ n∈lastEventId rawLastId,Reaches store before meanwhile n := by
  cases hid : lastEventId rawLastId with
  | none => simp [NoGap,hid]
  | some n =>
    have h : n∈lastEventId rawLastId := hid
    simp only [Option.mem_some_iff,forall_eq']
    cases store with
    | inMemory => exact noGap_inMemory_iff h
    | postgres => exact noGap_postgres_iff h

/-- Frame 1 was seen and three hundred were sent: the buffer starts at frame
101, and its frames are replayed as if nothing lay between. -/
theorem oldest_frames_skipped :
    ¬NoGap (framesSent .inMemory (List.replicate 300 (0,answerPart)++[])) (some "1")
      (answerRequest .inMemory "s" (List.replicate 300 (0,answerPart)) [] (some "1")) := by
  have hid : (1 : Int)∈lastEventId (some "1") := by decide
  rw [noGap_inMemory_iff hid,Reaches,List.append_nil,List.length_replicate]
  simp [sseReplayBufferCap]

end Voyagent.ReplayRequests
