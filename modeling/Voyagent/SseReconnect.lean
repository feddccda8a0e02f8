import Voyagent.ReplayBuffers
import Voyagent.Sessions
import Voyagent.AgentEvents
import Voyagent.TransitionRuns

/-!
# Sending a message over a stream that reconnects

One logical send of the client may take several connections: when a stream
ends before its terminal event, the same request is posted again with the
last event id. Each connection has a task on the server that decides between
replaying the session's buffer and running the turn, and queues frames for
its connection. A task outlives its connection until it notices. The
in-memory store hands every task one session; the Postgres store a fresh one.
-/

namespace Voyagent.SseReconnect

open RuntimeValues KeyedMap AgentEvents Sessions TransitionRuns ReplayBuffers

/-- The session store behind the endpoint. -/
inductive StoreKind where
  | inMemory | postgres
  deriving DecidableEq

/-- The session object a connection's task works on. -/
def StoreKind.sessionOf : StoreKind → Nat → Nat
  | .inMemory,_ => 0
  | .postgres,k => k

/-- A frame of the stream: its id and its event. -/
abbrev Frame : Type := Nat × AgentEvent

/-- `SendMessageRequest`. -/
structure SendMessageRequest where
  message : String := ""
  approvals : Option (Table String Bool) := none

/-- `body.message or body.approvals`. -/
def SendMessageRequest.workIntended (body : SendMessageRequest) : Bool :=
  body.message != "" || !(body.approvals.getD []).isEmpty

/-- `DEFAULT_MAX_RETRIES`. -/
def defaultMaxRetries : Nat := 5

/-- One logical send. -/
structure Send where
  store : StoreKind
  sessionId : EntityId
  body : SendMessageRequest
  maxRetries : Nat := defaultMaxRetries

/-- The server's side of a connection. -/
inductive Task where
  | absent
  /-- The request is accepted with its `Last-Event-ID`; nothing is sent yet. -/
  | arrived (lastEventId : Option Nat) (replayValid : Bool)
  /-- Has sent its replay or the error frame, and has the live path before it. -/
  | replayed
  /-- Runs the turn. -/
  | live
  | done
  deriving DecidableEq

/-- What the client is doing. -/
inductive Phase where
  | connecting
  | streaming (k : Nat)
  | finished
  deriving DecidableEq

/-- The variables of `streamSSE`, and what it has yielded. -/
structure Client where
  phase : Phase := .connecting
  attempt : Nat := 0
  lastEventId : Option Nat := none
  sawTerminal : Bool := false
  yielded : List Frame := []

/-- Server and client during one logical send. -/
structure World where
  sessions : Nat → ReplayBuffer AgentEvent
  tasks : Nat → Task := fun _ => .absent
  queues : Nat → List Frame := fun _ => []
  /-- Connections that reached the server. -/
  opened : Nat := 0
  /-- Executions of `run_turn` for this send. -/
  runs : Nat := 0
  /-- Frames these executions produced, in order. -/
  emitted : List Frame := []
  client : Client := {}

inductive Act where
  /-- The request reaches the endpoint and is accepted. -/
  | connect
  /-- The request is lost on the way. -/
  | unreachable
  /-- The endpoint answers with an error status. -/
  | refuse
  /-- A task starts: with the turn, or with a replay. -/
  | start (k : Nat)
  /-- The live path is reached after a replay. -/
  | goLive (k : Nat)
  /-- The turn yields an event. -/
  | emit (k : Nat) (ev : AgentEvent)
  /-- The turn raises; the text is reported in a frame. -/
  | crash (k : Nat) (text : String)
  /-- A task ends without a frame: cancelled, disconnected, or out of events. -/
  | stop (k : Nat)
  /-- The client receives the next frame. -/
  | deliver
  /-- The stream ends after everything was delivered. -/
  | close
  /-- The connection is lost. -/
  | drop

/-- The terminal event of a turn. -/
def isTerminal (ev : AgentEvent) : Bool := decide (ev.kind=.final)

/-- The stream of an attempt is over. -/
def Client.ended (maxRetries : Nat) (c : Client) : Client :=
  if c.sawTerminal then {c with phase := .finished}
  else if maxRetries<c.attempt+1 then
    {c with
      phase := .finished
      attempt := c.attempt+1}
  else
    {c with
      phase := .connecting
      attempt := c.attempt+1}

/-- A frame is taken from the stream and yielded. -/
def Client.take (c : Client) (f : Frame) : Client :=
  {c with
    lastEventId := some f.1
    sawTerminal := c.sawTerminal || isTerminal f.2
    yielded := c.yielded++[f]}

/-- The frame that reports an unusable `Last-Event-ID`. -/
def replayFailed (sessionId : EntityId) : AgentEvent :=
  ⟨(errorFields sessionId "replay" "replay_failed: Last-Event-ID outside server buffer").stripped,
    error_valid (by decide) (by decide)⟩

section Steps

variable (s : Send)

/-- The session of a connection. -/
def World.session (w : World) (k : Nat) : ReplayBuffer AgentEvent :=
  w.sessions (s.store.sessionOf k)

def World.setTask (w : World) (k : Nat) (t : Task) : World :=
  {w with tasks := fun j => if j=k then t else w.tasks j}

/-- Queue frames for a connection. -/
def World.enqueue (w : World) (k : Nat) (fs : List Frame) : World :=
  {w with queues := fun j => if j=k then w.queues j++fs else w.queues j}

/-- Number an event, buffer it and queue its frame. -/
def World.record (w : World) (k : Nat) (ev : AgentEvent) : World :=
  {w.enqueue k [((w.session s k).counter+1,ev)] with
    sessions := fun j =>
      if j=s.store.sessionOf k then (w.session s k).record sseReplayBufferCap ev
      else w.sessions j}

/-- A request reaches the endpoint and is accepted. -/
def World.connected (w : World) : World :=
  let valid := w.client.lastEventId.any fun n => decide (n≤(w.session s w.opened).counter)
  {w.setTask w.opened (.arrived w.client.lastEventId valid) with
    opened := w.opened+1
    client := {w.client with phase := .streaming w.opened}}

/-- Call `run_turn`. -/
def World.runTurn (w : World) (k : Nat) : World := {w.setTask k .live with runs := w.runs+1}

/-- The replay closes the stream: it ends in the terminal event, or nothing
was asked for. -/
def replayEnds (replayed : List Frame) : Bool :=
  (replayed.getLast?.any fun f => isTerminal f.2) || !s.body.workIntended

/-- `event_source` up to its live path, which follows at once where nothing is
sent before it. -/
def startTask (w : World) (k : Nat) : Option Nat → Bool → World
  | none,_ => w.runTurn k
  | some n,true =>
    let replayed := (w.session s k).replay n
    (w.enqueue k replayed).setTask k (if replayEnds s replayed then .done else .replayed)
  | some _,false => (w.record s k (replayFailed s.sessionId)).setTask k .replayed

/-- A frame of the turn. -/
def emitFrame (w : World) (k : Nat) (ev : AgentEvent) : World :=
  {w.record s k ev with emitted := w.emitted++[((w.session s k).counter+1,ev)]}

/-- One step, when it can be taken. -/
def step (w : World) : Act → Option World
  | .connect =>
    match w.client.phase with
    | .connecting => some (w.connected s)
    | _ => none
  | .unreachable =>
    match w.client.phase with
    | .connecting => some {w with client := w.client.ended s.maxRetries}
    | _ => none
  | .refuse =>
    match w.client.phase with
    | .connecting => some {w with client := {w.client with phase := .finished}}
    | _ => none
  | .start k =>
    match w.tasks k with
    | .arrived lastEventId valid => some (startTask s w k lastEventId valid)
    | _ => none
  | .goLive k =>
    match w.tasks k with
    | .replayed => some (w.runTurn k)
    | _ => none
  | .emit k ev =>
    match w.tasks k with
    | .live => some ((emitFrame s w k ev).setTask k (if isTerminal ev then .done else .live))
    | _ => none
  | .crash k text =>
    match w.tasks k,AgentEvent.build (errorFields s.sessionId "error" text) with
    | .live,.ok ev => some ((emitFrame s w k ev).setTask k .done)
    | _,_ => none
  | .stop k =>
    match w.tasks k with
    | .absent => none
    | .done => none
    | _ => some (w.setTask k .done)
  | .deliver =>
    match w.client.phase with
    | .streaming k =>
      match w.queues k with
      | f::rest => some {w with
          queues := fun j => if j=k then rest else w.queues j
          client := w.client.take f}
      | [] => none
    | _ => none
  | .close =>
    match w.client.phase with
    | .streaming k =>
      if w.tasks k=.done ∧ w.queues k=[] then
        some {w with client := w.client.ended s.maxRetries}
      else none
    | _ => none
  | .drop =>
    match w.client.phase with
    | .streaming _ => some {w with client := w.client.ended s.maxRetries}
    | _ => none

def Step : World → Act → World → Prop := ofPartial (step s)

/-- Before the send: the in-memory session has whatever earlier turns left. -/
def init (session : ReplayBuffer AgentEvent) : World :=
  {sessions := fun _ => match s.store with
    | .inMemory => session
    | .postgres => .empty}

/-- The turn ran at most once, and what the client yielded is the beginning
of what it produced, under increasing ids. -/
def ExactlyOnce (w : World) : Prop :=
  w.runs≤1 ∧ (w.client.yielded.map Prod.fst).Pairwise (·<·) ∧ w.client.yielded<+:w.emitted

/-- A task that starts after the turn has run finds the session of that run,
is told where to resume, and misses no frame the client is waiting for. None
passes its replay after the turn has run. -/
def Resumable (w : World) : Act → Prop
  | .start k => w.runs=0 ∨ (s.store=.inMemory ∧ ∃ n,w.tasks k=.arrived (some n) true ∧
      (w.client.phase=.streaming k →
        ((w.session s k).replay n).length=(w.session s k).counter-n))
  | .goLive _ => w.runs=0
  | _ => True

/-! ## What the steps keep -/

variable {s : Send} {w w' : World} {a : Act} {as : List Act} {r base k : Nat}

/-- Connections the server has not seen have no task and no frames. -/
def Unused (w : World) : Prop := ∀ k,w.opened≤k → w.tasks k=.absent ∧ w.queues k=[]

/-- Before the turn has run. -/
structure Idle (w : World) : Prop where
  runs : w.runs=0
  emitted : w.emitted=[]
  yielded : w.client.yielded=[]
  lastEventId : w.client.lastEventId=none
  tasks : ∀ k,w.tasks k≠.live ∧ w.tasks k≠.replayed
  arrived : ∀ k id valid,w.tasks k=.arrived id valid → id=none
  queues : ∀ k,w.queues k=[]

/-- After task `r` has called `run_turn`, with ids above `base`. -/
structure Running (s : Send) (w : World) (r base : Nat) : Prop where
  runs : w.runs=1
  retains : Retains base w.emitted (w.session s r)
  numbered : Numbered base w.emitted
  started : w.tasks r≠.absent ∧ ∀ id valid,w.tasks r≠.arrived id valid
  live : ∀ k,w.tasks k=.live → k=r
  yielded : w.client.yielded<+:w.emitted
  last : w.client.lastEventId=w.client.yielded.getLast?.map Prod.fst
  /-- What is queued for the client continues what it has, and for the turn's
  own connection up to the last frame. -/
  ahead : ∀ k,w.client.phase=.streaming k → w.client.yielded++w.queues k<+:w.emitted ∧
    (k=r → w.client.yielded++w.queues k=w.emitted)
  waiting : ∀ k id valid,w.client.phase=.streaming k → w.tasks k=.arrived id valid →
    w.queues k=[] ∧ id=w.client.lastEventId

@[simp] theorem setTask_self (w : World) (k : Nat) (t : Task) : (w.setTask k t).tasks k=t := by
  simp [World.setTask]

theorem setTask_other (w : World) (t : Task) {j k : Nat} (h : j≠k) :
    (w.setTask k t).tasks j=w.tasks j := by
  simp [World.setTask,h]

@[simp] theorem enqueue_self (w : World) (k : Nat) (fs : List Frame) :
    (w.enqueue k fs).queues k=w.queues k++fs := by
  simp [World.enqueue]

/-- Setting a task to what it is. -/
theorem setTask_of_eq {t : Task} (h : w.tasks k=t) : w.setTask k t=w := by
  have htasks : (fun j => if j=k then t else w.tasks j)=w.tasks := by
    funext j
    split
    · rename_i hj
      rw [hj,h]
    · rfl
  rw [World.setTask,htasks]

theorem enqueue_other (w : World) (fs : List Frame) {j k : Nat} (h : j≠k) :
    (w.enqueue k fs).queues j=w.queues j := by
  simp [World.enqueue,h]

@[simp] theorem record_session (w : World) (k : Nat) (ev : AgentEvent) :
    (w.record s k ev).session s k=(w.session s k).record sseReplayBufferCap ev := by
  simp [World.record,World.session]

@[simp] theorem ended_yielded (n : Nat) (c : Client) : (c.ended n).yielded=c.yielded := by
  unfold Client.ended
  split
  · rfl
  · split <;> rfl

@[simp] theorem ended_lastEventId (n : Nat) (c : Client) :
    (c.ended n).lastEventId=c.lastEventId := by
  unfold Client.ended
  split
  · rfl
  · split <;> rfl

theorem ended_phase (n : Nat) (c : Client) (k : Nat) : (c.ended n).phase≠.streaming k := by
  unfold Client.ended
  split
  · exact nofun
  · split <;> exact nofun

section

variable (h : Unused w) (hk : w.tasks k≠.absent)

include h hk

theorem Unused.lt : k<w.opened :=
  Nat.lt_of_not_le fun hle => hk (h k hle).1

theorem Unused.setTask (t : Task) :
    Unused (w.setTask k t) := fun j hj => by
  have hjk : j≠k := (Nat.lt_of_lt_of_le (h.lt hk) hj).ne'
  rw [setTask_other w t hjk]
  exact h j hj

theorem Unused.enqueue (fs : List Frame) :
    Unused (w.enqueue k fs) := fun j hj => by
  have hjk : j≠k := (Nat.lt_of_lt_of_le (h.lt hk) hj).ne'
  rw [enqueue_other w fs hjk]
  exact h j hj

theorem Unused.record (ev : AgentEvent) :
    Unused (w.record s k ev) := fun j hj => h.enqueue hk _ j hj

end

theorem Unused.connected (h : Unused w) : Unused (w.connected s) := fun j hj => by
  change (w.setTask w.opened _).tasks j=_ ∧ w.queues j=[]
  have hlt : w.opened<j := hj
  rw [setTask_other w _ hlt.ne']
  exact h j hlt.le

/-- A client between connections, with what it has yielded. -/
theorem Running.between (h : Running s w r base) {c : Client} (hy : c.yielded=w.client.yielded)
    (hl : c.lastEventId=w.client.lastEventId) (hp : ∀ k,c.phase≠.streaming k) :
    Running s {w with client := c} r base where
  runs := h.runs
  retains := h.retains
  numbered := h.numbered
  started := h.started
  live := h.live
  yielded := by
    rw [show ({w with client := c} : World).client.yielded=w.client.yielded from hy]
    exact h.yielded
  last := by
    change c.lastEventId=c.yielded.getLast?.map Prod.fst
    rw [hl,hy]
    exact h.last
  ahead := fun k hk => absurd hk (hp k)
  waiting := fun k _ _ hk => absurd hk (hp k)

theorem Idle.between (h : Idle w) {c : Client} (hy : c.yielded=w.client.yielded)
    (hl : c.lastEventId=w.client.lastEventId) : Idle {w with client := c} where
  runs := h.runs
  emitted := h.emitted
  yielded := hy.trans h.yielded
  lastEventId := hl.trans h.lastEventId
  tasks := h.tasks
  arrived := h.arrived
  queues := h.queues

/-- A task ends. -/
theorem Running.stopped (h : Running s w r base) (k : Nat) :
    Running s (w.setTask k .done) r base where
  runs := h.runs
  retains := h.retains
  numbered := h.numbered
  started := by
    by_cases hk : r=k
    · subst hk
      rw [setTask_self]
      exact ⟨nofun,nofun⟩
    · rw [setTask_other w _ hk]
      exact h.started
  live := fun j hj => by
    by_cases hk : j=k
    · subst hk
      rw [setTask_self] at hj
      cases hj
    · rw [setTask_other w _ hk] at hj
      exact h.live j hj
  yielded := h.yielded
  last := h.last
  ahead := h.ahead
  waiting := fun j id valid hp hj => by
    by_cases hk : j=k
    · subst hk
      rw [setTask_self] at hj
      cases hj
    · rw [setTask_other w _ hk] at hj
      exact h.waiting j id valid hp hj

theorem Idle.stopped (h : Idle w) (k : Nat) : Idle (w.setTask k .done) where
  runs := h.runs
  emitted := h.emitted
  yielded := h.yielded
  lastEventId := h.lastEventId
  tasks := fun j => by
    by_cases hk : j=k
    · subst hk
      rw [setTask_self]
      exact ⟨nofun,nofun⟩
    · rw [setTask_other w _ hk]
      exact h.tasks j
  arrived := fun j id valid hj => by
    by_cases hk : j=k
    · subst hk
      rw [setTask_self] at hj
      cases hj
    · rw [setTask_other w _ hk] at hj
      exact h.arrived j id valid hj
  queues := h.queues

/-- The first call of `run_turn`. -/
theorem Idle.run (h : Idle w) (k : Nat) :
    Running s (w.runTurn k) k (w.session s k).counter where
  runs := congrArg (·+1) h.runs
  retains := by
    change Retains _ w.emitted (w.session s k)
    rw [h.emitted]
    exact retains_start _
  numbered := by
    change Numbered _ w.emitted
    rw [h.emitted]
    exact numbered_nil
  started := by
    change (w.setTask k .live).tasks k≠_ ∧ ∀ _ _,(w.setTask k .live).tasks k≠_
    rw [setTask_self]
    exact ⟨nofun,nofun⟩
  live := fun j hj => by
    by_contra hk
    change (w.setTask k .live).tasks j=_ at hj
    rw [setTask_other w _ hk] at hj
    exact (h.tasks j).1 hj
  yielded := by
    change w.client.yielded<+:_
    rw [h.yielded]
    exact List.nil_prefix
  last := by
    change w.client.lastEventId=w.client.yielded.getLast?.map Prod.fst
    rw [h.lastEventId,h.yielded]
    rfl
  ahead := fun j _ => by
    change w.client.yielded++w.queues j<+:w.emitted ∧ (_ → w.client.yielded++w.queues j=w.emitted)
    rw [h.yielded,h.queues j,h.emitted]
    exact ⟨List.prefix_refl _,fun _ => rfl⟩
  waiting := fun j id valid _ hj => by
    change w.queues j=[] ∧ id=w.client.lastEventId
    refine ⟨h.queues j,?_⟩
    by_cases hk : j=k
    · subst hk
      change (w.setTask j .live).tasks j=_ at hj
      rw [setTask_self] at hj
      cases hj
    · change (w.setTask k .live).tasks j=_ at hj
      rw [setTask_other w _ hk] at hj
      rw [h.arrived j id valid hj,h.lastEventId]

/-- The turn produces a frame on its own connection. -/
theorem Running.emitted (h : Running s w r base) (ev : AgentEvent) :
    Running s (emitFrame s w r ev) r base where
  runs := h.runs
  retains := by
    change Retains base _ ((w.record s r ev).session s r)
    rw [record_session]
    exact h.retains.record sseReplayBufferCap ev
  numbered := by
    change Numbered base (w.emitted++[((w.session s r).counter+1,ev)])
    rw [h.retains.1]
    exact h.numbered.snoc ev
  started := h.started
  live := h.live
  yielded := h.yielded.trans (List.prefix_append _ _)
  last := h.last
  ahead := fun k hk => by
    obtain ⟨hfront,hown⟩ := h.ahead k hk
    change w.client.yielded++(w.enqueue r _).queues k<+:_ ∧ _
    by_cases hkr : k=r
    · subst hkr
      have heq : w.client.yielded++(w.enqueue k [((w.session s k).counter+1,ev)]).queues k=
          w.emitted++[((w.session s k).counter+1,ev)] := by
        rw [enqueue_self,← List.append_assoc,hown rfl]
      exact ⟨heq ▸ List.prefix_refl _,fun _ => heq⟩
    · rw [enqueue_other w _ hkr]
      exact ⟨hfront.trans (List.prefix_append _ _),fun he => absurd he hkr⟩
  waiting := fun k id valid hp hk => by
    have hkr : k≠r := fun he => h.started.2 id valid (he ▸ hk)
    change (w.enqueue r _).queues k=[] ∧ _
    rw [enqueue_other w _ hkr]
    exact h.waiting k id valid hp hk

/-- What was yielded and a replay that misses nothing make up the turn's frames. -/
theorem Running.resumes (h : Running s w r base) (hsame : w.session s k=w.session s r) {n : Nat}
    (hn : w.client.lastEventId=some n)
    (hlen : ((w.session s k).replay n).length=(w.session s k).counter-n) :
    w.client.yielded++(w.session s k).replay n=w.emitted := by
  obtain ⟨f,hf,hfn⟩ := Option.map_eq_some_iff.mp (h.last.symm.trans hn)
  have hcount : n=base+w.client.yielded.length :=
    hfn.symm.trans ((h.numbered.initial h.yielded).length_of_last hf)
  rw [hsame] at hlen ⊢
  rw [h.retains.replay_exact h.numbered (by omega) hlen,hcount,Nat.add_sub_cancel_left]
  exact List.prefix_iff_eq_append.mp h.yielded

/-- A task starts with its replay. -/
theorem Running.replayed (h : Running s w r base) (hsame : w.session s k=w.session s r) {n : Nat}
    {valid : Bool} (htask : w.tasks k=.arrived (some n) valid)
    (hlen : w.client.phase=.streaming k →
      ((w.session s k).replay n).length=(w.session s k).counter-n)
    {t : Task} (ht : t=.done ∨ t=.replayed) :
    Running s ((w.enqueue k ((w.session s k).replay n)).setTask k t) r base where
  runs := h.runs
  retains := h.retains
  numbered := h.numbered
  started := by
    have hr : r≠k := fun he => h.started.2 _ _ (he ▸ htask)
    rw [setTask_other _ _ hr]
    exact h.started
  live := fun j hj => by
    by_cases hk : j=k
    · subst hk
      rw [setTask_self] at hj
      subst hj
      rcases ht with ht|ht <;> cases ht
    · rw [setTask_other _ _ hk] at hj
      exact h.live j hj
  yielded := h.yielded
  last := h.last
  ahead := fun j hj => by
    change w.client.yielded++(w.enqueue k _).queues j<+:w.emitted ∧
      (j=r → w.client.yielded++(w.enqueue k _).queues j=w.emitted)
    by_cases hk : j=k
    · subst hk
      obtain ⟨hempty,hid⟩ := h.waiting j _ _ hj htask
      have heq : w.client.yielded++(w.enqueue j ((w.session s j).replay n)).queues j=w.emitted := by
        rw [enqueue_self,hempty,List.nil_append]
        exact h.resumes hsame hid.symm (hlen hj)
      exact ⟨heq ▸ List.prefix_refl _,fun _ => heq⟩
    · rw [enqueue_other w _ hk]
      exact h.ahead j hj
  waiting := fun j id valid' hp hj => by
    by_cases hk : j=k
    · subst hk
      rw [setTask_self] at hj
      subst hj
      rcases ht with ht|ht <;> cases ht
    · rw [setTask_other _ _ hk] at hj
      change (w.enqueue k _).queues j=[] ∧ _
      rw [enqueue_other w _ hk]
      exact h.waiting j id valid' hp hj

/-- The client takes the next frame of its connection. -/
theorem Running.delivered (h : Running s w r base) {f : Frame} {rest : List Frame}
    (hp : w.client.phase=.streaming k) (hq : w.queues k=f::rest) :
    Running s {w with
      queues := fun j => if j=k then rest else w.queues j
      client := w.client.take f} r base where
  runs := h.runs
  retains := h.retains
  numbered := h.numbered
  started := h.started
  live := h.live
  yielded := by
    have hahead := (h.ahead k hp).1
    rw [hq,List.append_cons] at hahead
    exact (List.prefix_append _ _).trans hahead
  last := by
    change some f.1=(w.client.yielded++[f]).getLast?.map Prod.fst
    rw [List.getLast?_concat]
    rfl
  ahead := fun j hj => by
    obtain rfl : k=j := Phase.streaming.inj (hp.symm.trans hj)
    have hahead := h.ahead k hp
    rw [hq,List.append_cons] at hahead
    change (w.client.yielded++[f])++(if k=k then rest else w.queues k)<+:w.emitted ∧
      (k=r → (w.client.yielded++[f])++(if k=k then rest else w.queues k)=w.emitted)
    rw [if_pos rfl]
    exact hahead
  waiting := fun j id valid hj ht => by
    obtain rfl : k=j := Phase.streaming.inj (hp.symm.trans hj)
    have hempty := (h.waiting k id valid hp ht).1
    rw [hq] at hempty
    cases hempty

/-- A new connection reaches the server. -/
theorem Running.connected (h : Running s w r base) (hu : Unused w) :
    Running s (w.connected s) r base where
  runs := h.runs
  retains := h.retains
  numbered := h.numbered
  started := by
    change (w.setTask _ _).tasks r≠_ ∧ ∀ _ _,(w.setTask _ _).tasks r≠_
    rw [setTask_other w _ (Nat.ne_of_lt (hu.lt h.started.1))]
    exact h.started
  live := fun j hj => by
    change (w.setTask w.opened _).tasks j=_ at hj
    by_cases hk : j=w.opened
    · subst hk
      rw [setTask_self] at hj
      cases hj
    · rw [setTask_other w _ hk] at hj
      exact h.live j hj
  yielded := h.yielded
  last := h.last
  ahead := fun j hj => by
    obtain rfl : w.opened=j := Phase.streaming.inj hj
    change w.client.yielded++w.queues w.opened<+:w.emitted ∧
      (w.opened=r → w.client.yielded++w.queues w.opened=w.emitted)
    rw [(hu _ (Nat.le_refl _)).2,List.append_nil]
    exact ⟨h.yielded,fun he => absurd he (Nat.ne_of_gt (hu.lt h.started.1))⟩
  waiting := fun j id valid' hj ht => by
    obtain rfl : w.opened=j := Phase.streaming.inj hj
    change (w.setTask w.opened _).tasks w.opened=_ at ht
    rw [setTask_self] at ht
    cases ht
    exact ⟨(hu _ (Nat.le_refl _)).2,rfl⟩

theorem Idle.connected (h : Idle w) : Idle (w.connected s) where
  runs := h.runs
  emitted := h.emitted
  yielded := h.yielded
  lastEventId := h.lastEventId
  tasks := fun j => by
    change (w.setTask w.opened _).tasks j≠_ ∧ (w.setTask w.opened _).tasks j≠_
    by_cases hk : j=w.opened
    · subst hk
      rw [setTask_self]
      exact ⟨nofun,nofun⟩
    · rw [setTask_other w _ hk]
      exact h.tasks j
  arrived := fun j id valid' hj => by
    change (w.setTask w.opened _).tasks j=_ at hj
    by_cases hk : j=w.opened
    · subst hk
      rw [setTask_self] at hj
      cases hj
      exact h.lastEventId
    · rw [setTask_other w _ hk] at hj
      exact h.arrived j id valid' hj
  queues := h.queues

/-- What every step of a resumable send keeps. -/
def Inv (s : Send) (w : World) : Prop := Unused w ∧ (Idle w ∨ ∃ r base,Running s w r base)

theorem Inv.between (h : Inv s w) {c : Client} (hy : c.yielded=w.client.yielded)
    (hl : c.lastEventId=w.client.lastEventId) (hp : ∀ k,c.phase≠.streaming k) :
    Inv s {w with client := c} := by
  obtain ⟨hu,hi|⟨r,base,hr⟩⟩ := h
  · exact ⟨hu,.inl (hi.between hy hl)⟩
  · exact ⟨hu,.inr ⟨r,base,hr.between hy hl hp⟩⟩

theorem Inv.ended (h : Inv s w) : Inv s {w with client := w.client.ended s.maxRetries} :=
  h.between (ended_yielded _ _) (ended_lastEventId _ _) (ended_phase _ _)

theorem Inv.connected (h : Inv s w) : Inv s (w.connected s) := by
  obtain ⟨hu,hi|⟨r,base,hr⟩⟩ := h
  · exact ⟨hu.connected,.inl hi.connected⟩
  · exact ⟨hu.connected,.inr ⟨r,base,hr.connected hu⟩⟩

theorem Inv.stopped (h : Inv s w) (hk : w.tasks k≠.absent) : Inv s (w.setTask k .done) := by
  obtain ⟨hu,hi|⟨r,base,hr⟩⟩ := h
  · exact ⟨hu.setTask hk _,.inl (hi.stopped k)⟩
  · exact ⟨hu.setTask hk _,.inr ⟨r,base,hr.stopped k⟩⟩

theorem Inv.started (h : Inv s w) {id : Option Nat} {valid : Bool}
    (htask : w.tasks k=.arrived id valid) (hc : Resumable s w (.start k)) :
    Inv s (startTask s w k id valid) := by
  have hk : w.tasks k≠.absent := by
    rw [htask]
    exact nofun
  obtain ⟨hu,hi|⟨r,base,hr⟩⟩ := h
  · -- No frame was seen yet, so the request carries no id and the turn runs.
    obtain rfl := hi.arrived k id valid htask
    exact ⟨hu.setTask hk _,.inr ⟨k,_,hi.run k⟩⟩
  · rcases hc with hzero|⟨hstore,n,hn,hlen⟩
    · rw [hr.runs] at hzero
      cases hzero
    · obtain ⟨rfl,rfl⟩ := Task.arrived.inj (htask.symm.trans hn)
      have hsame : w.session s k=w.session s r := by
        simp only [World.session,hstore,StoreKind.sessionOf]
      exact ⟨(hu.enqueue hk _).setTask hk _,.inr ⟨r,base,
        hr.replayed hsame htask hlen (by split <;> simp)⟩⟩

/-- Only the one turn emits, and only from its own task. -/
theorem Inv.live (h : Inv s w) (hk : w.tasks k=.live) : ∃ base,Running s w k base := by
  obtain ⟨-,hi|⟨r,base,hr⟩⟩ := h
  · exact absurd hk (hi.tasks k).1
  · obtain rfl := hr.live k hk
    exact ⟨base,hr⟩

theorem Inv.emitted (h : Inv s w) (hk : w.tasks k=.live) (ev : AgentEvent) :
    Inv s (emitFrame s w k ev) := by
  obtain ⟨base,hr⟩ := h.live hk
  have hpresent : w.tasks k≠.absent := by
    rw [hk]
    exact nofun
  exact ⟨h.1.record hpresent ev,.inr ⟨k,base,hr.emitted ev⟩⟩

theorem Inv.delivered (h : Inv s w) {f : Frame} {rest : List Frame}
    (hp : w.client.phase=.streaming k) (hq : w.queues k=f::rest) :
    Inv s {w with
      queues := fun j => if j=k then rest else w.queues j
      client := w.client.take f} := by
  obtain ⟨hu,hi|⟨r,base,hr⟩⟩ := h
  · rw [hi.queues k] at hq
    cases hq
  · refine ⟨fun j hj => ⟨(hu j hj).1,?_⟩,.inr ⟨r,base,hr.delivered hp hq⟩⟩
    have hjk : j≠k := fun he => by
      have hnone := (hu j hj).2
      rw [he,hq] at hnone
      cases hnone
    exact (if_neg hjk).trans (hu j hj).2

/-- A resumable step keeps the invariant. -/
theorem inv_step (h : Inv s w) (hs : Step s w a w') (hc : Resumable s w a) : Inv s w' := by
  unfold Step ofPartial step at hs
  cases a with
  | connect =>
    dsimp only at hs
    split at hs <;> cases hs
    exact h.connected
  | unreachable | drop =>
    dsimp only at hs
    split at hs <;> cases hs
    exact h.ended
  | refuse =>
    dsimp only at hs
    split at hs <;> cases hs
    exact h.between rfl rfl nofun
  | start k =>
    dsimp only at hs
    split at hs <;> cases hs
    rename_i htask
    exact h.started htask hc
  | goLive k =>
    dsimp only at hs
    split at hs <;> cases hs
    rename_i htask
    obtain ⟨-,hi|⟨r,base,hr⟩⟩ := h
    · exact absurd htask (hi.tasks k).2
    · cases hr.runs.symm.trans hc
  | emit k ev =>
    dsimp only at hs
    split at hs <;> cases hs
    rename_i htask
    have hnext := h.emitted htask ev
    have hlive : (emitFrame s w k ev).tasks k=.live := htask
    split
    · exact hnext.stopped (hlive ▸ nofun)
    · rw [setTask_of_eq hlive]
      exact hnext
  | crash k text =>
    dsimp only at hs
    split at hs <;> cases hs
    rename_i ev htask _
    have hlive : (emitFrame s w k ev).tasks k=.live := htask
    exact (h.emitted htask ev).stopped (hlive ▸ nofun)
  | stop k =>
    dsimp only at hs
    split at hs <;> cases hs
    rename_i habsent _
    exact h.stopped habsent
  | deliver =>
    dsimp only at hs
    split at hs
    · rename_i k hp
      split at hs <;> cases hs
      rename_i hq
      exact h.delivered hp hq
    · cases hs
  | close =>
    dsimp only at hs
    split at hs
    · split at hs <;> cases hs
      exact h.ended
    · cases hs

theorem inv_init (s : Send) (session : ReplayBuffer AgentEvent) : Inv s (init s session) :=
  ⟨fun _ _ => ⟨rfl,rfl⟩,.inl {
    runs := rfl
    emitted := rfl
    yielded := rfl
    lastEventId := rfl
    tasks := fun _ => ⟨nofun,nofun⟩
    arrived := nofun
    queues := fun _ => rfl}⟩

theorem Inv.exactlyOnce (h : Inv s w) : ExactlyOnce w := by
  obtain ⟨-,hi|⟨r,base,hr⟩⟩ := h
  · unfold ExactlyOnce
    rw [hi.runs,hi.yielded]
    exact ⟨Nat.zero_le _,.nil,List.nil_prefix⟩
  · exact ⟨hr.runs.le,(hr.numbered.initial hr.yielded).increasing,hr.yielded⟩

/-- In a run whose every task resumes, a send is executed and received once. -/
theorem sent_exactly_once (s : Send) (session : ReplayBuffer AgentEvent) (as : List Act)
    (w : World) (hrun : Run (guarded (Step s) (Resumable s)) (init s session) as w) :
    ExactlyOnce w :=
  (hrun.guarded_invariant (inv_init s session) fun _ _ _ => inv_step).exactlyOnce

end Steps

/-- A question sent over a store. -/
def question (store : StoreKind) : Send where
  store := store
  sessionId := "s"
  body := {message := "price"}

/-- A part of the answer. -/
def answerPart : AgentEvent :=
  ⟨(textDeltaFields "s" "t-1" "12 500").stripped,textDelta_valid (by decide) _⟩

/-- The end of the turn. -/
def answerEnd : AgentEvent := ⟨(finalFields "s" "t-1").stripped,final_valid (by decide)⟩

/-- The connection is lost after the first frame and the turn runs on to its
end; the second connection gets the rest from the replay. -/
theorem sent_exactly_once_resumed :
    ∃ w,Run (guarded (Step (question .inMemory)) (Resumable (question .inMemory)))
      (init (question .inMemory) .empty)
      [.connect,.start 0,.emit 0 answerPart,.deliver,.drop,.emit 0 answerEnd,.connect,.start 1,
        .deliver,.close] w ∧
      w.client.yielded=[(1,answerPart),(2,answerEnd)] ∧ ExactlyOnce w := by
  have hopen : Run (guarded (Step (question .inMemory)) (Resumable (question .inMemory)))
      (init (question .inMemory) .empty) [.connect] _ := Run.start.next ⟨rfl,trivial⟩
  have hturn := hopen.next (l:=Act.start 0) ⟨rfl,.inl rfl⟩
  have hpart := hturn.next (l:=Act.emit 0 answerPart) ⟨rfl,trivial⟩
  have hseen := hpart.next (l:=Act.deliver) ⟨rfl,trivial⟩
  have hlost := hseen.next (l:=Act.drop) ⟨rfl,trivial⟩
  have hend := hlost.next (l:=Act.emit 0 answerEnd) ⟨rfl,trivial⟩
  have hagain := hend.next (l:=Act.connect) ⟨rfl,trivial⟩
  have hreplay := hagain.next (l:=Act.start 1) ⟨rfl,.inr ⟨rfl,1,rfl,fun _ => rfl⟩⟩
  have hrest := hreplay.next (l:=Act.deliver) ⟨rfl,trivial⟩
  have hrun := hrest.next (l:=Act.close) ⟨rfl,trivial⟩
  exact ⟨_,hrun,rfl,sent_exactly_once _ _ _ _ hrun⟩

/-- The connection is lost in the middle of the turn: with the in-memory store
the turn runs a second time behind the replay, with the Postgres store it does
so behind an error frame whose id was used before. -/
theorem reconnect_runs_turn_again :
    (∃ w,Run (Step (question .inMemory)) (init (question .inMemory) .empty)
      [.connect,.start 0,.emit 0 answerPart,.deliver,.drop,.connect,.start 1,.goLive 1] w ∧
      w.runs=2 ∧ ¬ExactlyOnce w) ∧
    ∃ w,Run (Step (question .postgres)) (init (question .postgres) .empty)
      [.connect,.start 0,.emit 0 answerPart,.deliver,.drop,.connect,.start 1,.deliver,.goLive 1] w ∧
      w.runs=2 ∧ w.client.yielded=[(1,answerPart),(1,replayFailed "s")] ∧ ¬ExactlyOnce w := by
  refine ⟨⟨_,run_of_foldlM rfl,rfl,?_⟩,⟨_,run_of_foldlM rfl,rfl,rfl,?_⟩⟩
  · rintro ⟨hruns,-⟩
    exact absurd hruns (by decide)
  · rintro ⟨hruns,-⟩
    exact absurd hruns (by decide)

end Voyagent.SseReconnect
