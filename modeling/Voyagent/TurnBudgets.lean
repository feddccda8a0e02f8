import Voyagent.AgentLoop
import Voyagent.TransitionRuns

/-!
# The budgets of one agent turn

The two loops of a turn, one instruction at a time and without fuel: the head
of the outer loop, one pass through the retry loop, the handling of a reply.
The inner loop goes on for as long as its own counters let it. Every request
to the model is logged, and every event carries the place it was emitted at.
-/

namespace Voyagent.TurnBudgets

open RuntimeValues AgentEvents SessionTranscript ToolInvocation GeneratorTraces AgentLoop TransitionRuns

/-- Where `run_agent_turn` stands. -/
inductive LoopStage where
  /-- The head of `for loop_idx in range(MAX_TOOL_LOOPS)`. -/
  | head (loopIdx : Nat)
  /-- The head of `while True`, with both attempt counters. -/
  | attempting (loopIdx n rate connection : Nat)
  /-- Behind the retry loop, with the message of a stream that ended by itself. -/
  | received (loopIdx : Nat) (finalMessage : Option FinalMessage)
  /-- Behind the retry loop, with the exception that ended it. -/
  | gaveUp (loopIdx : Nat) (streamExc : Exn)
  | ended (exit : Except Halt Unit)

/-- The instruction an event was emitted by. -/
inductive Origin where
  /-- The buffered deltas of the n-th attempt of a round. -/
  | attempt (loopIdx n : Nat)
  | reply (loopIdx : Nat)
  deriving DecidableEq

/-- An event with its origin and the state it is suspended in. -/
structure Emitted where
  origin : Origin
  event : AgentEvent
  state : TurnState

/-- A turn in progress. -/
structure LoopMachine where
  stage : LoopStage
  state : TurnState
  yields : List Emitted := []
  /-- Every call of `client.stream_messages`: its round and its attempt. -/
  streamCalls : List (Nat × Nat) := []

/-- Execute a part of the body that emits at one origin. -/
def LoopMachine.execute {α : Type} (m : LoopMachine) (o : Origin) (g : TurnGen α)
    (next : α → LoopStage) : LoopMachine :=
  {m with
    stage := match (g m.state).exit with
      | .ok a => next a
      | .error k => .ended (.error k)
    state := (g m.state).state
    yields := m.yields++(g m.state).yields.map fun y => ⟨o,y.1,y.2⟩}

/-- Ask the model once more. -/
def LoopMachine.request (m : LoopMachine) (loopIdx n : Nat) : LoopMachine :=
  {m with streamCalls := m.streamCalls++[(loopIdx,n)]}

/-- Model requests one round can make: the first and every retry. -/
def attemptsPerRound : Nat := 1+rateLimitBackoffs+connectionBackoffs

/-- What the counters of a stage say about the requests made so far. -/
def LoopStage.allows : LoopStage → Nat → Prop
  | .head i,k => i ≤ maxToolLoops ∧ k ≤ i*attemptsPerRound
  | .attempting i n rate connection,k => i < maxToolLoops ∧ n=rate+connection ∧
    rate≤rateLimitBackoffs ∧ connection≤connectionBackoffs ∧ k ≤ i*attemptsPerRound+n
  | .received i _,k => i < maxToolLoops ∧ k ≤ (i+1)*attemptsPerRound
  | .gaveUp i _,k => i < maxToolLoops ∧ k ≤ (i+1)*attemptsPerRound
  | .ended _,k => k ≤ maxToolLoops*attemptsPerRound

variable {cfg : LoopConfig} {calls : Nat → ModelCall} {m m' : LoopMachine} {s : TurnState}

variable {α : Type}

/-- What an instruction does to the stage and to the log of requests. -/
inductive Moves : LoopStage → List (Nat × Nat) → LoopStage → List (Nat × Nat) → Prop
  | enter {i : Nat} {log : List (Nat × Nat)} (h : i < maxToolLoops) :
    Moves (.head i) log (.attempting i 0 0 0) log
  | exhausted {i : Nat} {log : List (Nat × Nat)} (h : ¬i < maxToolLoops) :
    Moves (.head i) log (.ended (.ok ())) log
  | retryRate {i n rate connection : Nat} {log : List (Nat × Nat)} (h : rate<rateLimitBackoffs) :
    Moves (.attempting i n rate connection) log (.attempting i (n+1) (rate+1) connection)
      (log++[(i,n)])
  | retryConnection {i n rate connection : Nat} {log : List (Nat × Nat)}
    (h : connection<connectionBackoffs) :
    Moves (.attempting i n rate connection) log (.attempting i (n+1) rate (connection+1))
      (log++[(i,n)])
  | giveUp {i n rate connection : Nat} {log : List (Nat × Nat)} (e : Exn) :
    Moves (.attempting i n rate connection) log (.gaveUp i e) (log++[(i,n)])
  | receive {i n rate connection : Nat} {log : List (Nat × Nat)} (message : Option FinalMessage) :
    Moves (.attempting i n rate connection) log (.received i message) (log++[(i,n)])
  | cancel {i n rate connection : Nat} {log : List (Nat × Nat)} (exit : Except Halt Unit) :
    Moves (.attempting i n rate connection) log (.ended exit) (log++[(i,n)])
  | again {i : Nat} {log : List (Nat × Nat)} (message : Option FinalMessage) :
    Moves (.received i message) log (.head (i+1)) log
  | finish {i : Nat} {log : List (Nat × Nat)} (message : Option FinalMessage)
    (exit : Except Halt Unit) : Moves (.received i message) log (.ended exit) log
  | report {i : Nat} {log : List (Nat × Nat)} (e : Exn) (exit : Except Halt Unit) :
    Moves (.gaveUp i e) log (.ended exit) log

variable {a b : LoopStage} {log log' : List (Nat × Nat)}

theorem Moves.keeps (h : Moves a log b log') (ha : a.allows log.length) : b.allows log'.length := by
  cases h <;>
    simp only [LoopStage.allows,attemptsPerRound,maxToolLoops,rateLimitBackoffs,connectionBackoffs,
      List.length_append,List.length_singleton,true_and] at * <;> omega

/-- Events emitted for an attempt are the deltas of one that was asked for
and ended by itself. -/
def FromSuccess (cfg : LoopConfig) (calls : Nat → ModelCall) (m : LoopMachine) : Prop :=
  ∀ y∈m.yields,∀ i n,y.origin=.attempt i n →
    (i,n)∈m.streamCalls ∧ ∃ st,
      consumeAttempt cfg.sessionId cfg.turnId ((calls i).attempts n)=.ok st ∧
        y.event∈st.bufferedDeltas

/-- Emitting at the reply of a round adds no deltas of an attempt. -/
theorem FromSuccess.reply (h : FromSuccess cfg calls m) (i : Nat) (g : TurnGen α)
    (next : α → LoopStage) : FromSuccess cfg calls (m.execute (.reply i) g next) := by
  intro y hy j n horigin
  rcases List.mem_append.mp hy with hy|hy
  · exact h y hy j n horigin
  · obtain ⟨_,_,rfl⟩ := List.mem_map.mp hy
    cases horigin

/-- One more request in the log loses no provenance. -/
theorem FromSuccess.request (h : FromSuccess cfg calls m) (i n : Nat) (stage : LoopStage) :
    FromSuccess cfg calls {m.request i n with stage := stage} := by
  intro y hy j k horigin
  obtain ⟨hlog,hst⟩ := h y hy j k horigin
  exact ⟨List.mem_append_left _ hlog,hst⟩

/-- The stream phase behind the retry loop. -/
def finishStream (cfg : LoopConfig) (call : ModelCall) : StreamEnd → TurnGen (Option FinalMessage)
  | .cancelled => fail .cancelled
  | .failed e => do
    emitBuilt (errorFields cfg.sessionId cfg.turnId (streamErrorText e))
    pure none
  | .streamed st => do
    emitAll st.bufferedDeltas
    pure (st.finalMessage.or call.lastFinalMessage)

/-- The body of a round behind its stream, and the rounds after it. -/
def afterStream (cfg : LoopConfig) (calls : Nat → ModelCall) (i : Nat) :
    Option FinalMessage → TurnGen Unit
  | none => pure ()
  | some message => do
    if ← recordReply cfg (calls i).tools message then
      agentLoop cfg calls (maxToolLoops-(i+1)) (i+1)
    else pure ()

/-- What remains to be executed at a stage. -/
def LoopStage.rest (cfg : LoopConfig) (calls : Nat → ModelCall) : LoopStage → TurnGen Unit
  | .head i => agentLoop cfg calls (maxToolLoops-i) i
  | .attempting i n rate connection => do
    let message ← finishStream cfg (calls i) (attemptLoop cfg.sessionId cfg.turnId
      (calls i).attempts ((rateLimitBackoffs-rate)+(connectionBackoffs-connection)) n rate
      connection)
    afterStream cfg calls i message
  | .received i message => afterStream cfg calls i message
  | .gaveUp _ e => do
    emitBuilt (errorFields cfg.sessionId cfg.turnId (streamErrorText e))
    pure ()
  | .ended exit => ofExcept exit

variable {ls : List Unit}

end Voyagent.TurnBudgets
