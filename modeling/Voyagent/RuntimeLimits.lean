import Mathlib.Algebra.Order.Ring.Rat
import Mathlib.Tactic.Linarith
import Voyagent.TokenAccounting
import Voyagent.TurnRelations

/-!
# The limits of the default runtime

The runtime as its builder wires it, with its rate limiter, its cost tracker
and its settings resolver. A turn consults those of them its orchestrator was
given. The builder gives the orchestrator none, so every turn reaches the
model whatever the tenant's limits are.
-/

namespace Voyagent.RuntimeLimits

open RuntimeValues KeyedMap AgentEvents ToolInvocation GeneratorTraces GeneratorRelations
open AgentLoop Sessions OrchestratorTurn TurnRequests TurnRelations TokenAccounting

/-! ## The rate limiter -/

/-- Seconds of the two windows. -/
def minute : Rat := 60

def hour : Rat := 3600

/-- `InMemoryRateLimiter`: the accepted instants of every tenant. -/
structure InMemoryRateLimiter where
  events : Table EntityId (List Rat) := []

/-- The deque without the entries older than the wide window. -/
def prune (now : Rat) (q : List Rat) : List Rat := q.dropWhile fun ts => ts<now-hour

/-- The entries of the narrow window, counted from the newest. -/
def minuteCount (now : Rat) (q : List Rat) : Nat :=
  (q.reverse.takeWhile fun ts => now-minute≤ts).length

/-- `InMemoryRateLimiter.check`: the limiter after the call, and its answer. -/
def InMemoryRateLimiter.check (limiter : InMemoryRateLimiter) (tenantId : EntityId)
    (perMinute perHour : Int) (now : Rat) : InMemoryRateLimiter × LimiterAnswer :=
  let q := prune now ((get limiter.events tenantId).getD [])
  let kept := {limiter with events := set limiter.events tenantId q}
  if perHour<(q.length : Int)+1 then (kept,.exceeded "hour")
  else if perMinute<(minuteCount now q : Int)+1 then (kept,.exceeded "minute")
  else ({limiter with events := set limiter.events tenantId (q++[now])},.accepted)

/-! ## The runtime -/

/-- Which of the runtime's collaborators its orchestrator was given. -/
structure Attached where
  tenantSettings : Bool := false
  rateLimiter : Bool := false
  costTracker : Bool := false

/-- `DefaultRuntime`, as far as turns use it. -/
structure DefaultRuntime where
  orchestrator : Orchestrator
  attached : Attached
  client : ClientSurface
  rateLimiter : InMemoryRateLimiter
  trackerKind : TrackerKind
  /-- The rows of the cost tracker. -/
  books : Books

/-- What the builder finds: the tools and domains, the model, and the rows stored behind the
database engine when there is one. -/
structure Surroundings where
  orchestrator : Orchestrator
  agentModel : String
  engine : Option (List TurnCost)

/-- `build_default_runtime`. -/
def buildDefaultRuntime (s : Surroundings) : DefaultRuntime where
  orchestrator := s.orchestrator
  -- the orchestrator is constructed before the collaborators and gets none of them
  attached := {}
  client := anthropicClient s.agentModel
  rateLimiter := {}
  trackerKind := if s.engine.isSome then .storage else .inMemory
  books := {ledger := s.engine.getD []}

/-! ## Turns -/

/-- A turn as it arrives, and when its gates look at the clocks. -/
structure Arrival where
  session : Session
  userMessage : String
  approvals : Option (Table String Bool) := none
  actorRole : String := "agent"
  seed : TurnSeed
  orchestratorCalls : Nat → MeteredCall
  resolve : String → Except Exn DomainAgent
  domainCalls : Nat → MeteredCall
  /-- `time.monotonic()`. -/
  monotonic : Rat
  checkedAt : Time
  recordedAt : Time

def Arrival.tenantId (a : Arrival) : EntityId := a.session.tenantId

section Turns

/-! The settings row of every tenant stays as it is. -/

variable (rows : EntityId → TenantSettings)

/-- The limits the rate gate asks for. -/
def DefaultRuntime.checkLimits (r : DefaultRuntime) (a : Arrival) : Int → Int → LimiterAnswer :=
  fun perMinute perHour => (r.rateLimiter.check a.tenantId perMinute perHour a.monotonic).2

/-- The turn with what its orchestrator was given. -/
def DefaultRuntime.input (r : DefaultRuntime) (a : Arrival) : TurnInput where
  session := a.session
  userMessage := a.userMessage
  approvals := a.approvals
  actorRole := a.actorRole
  seed := a.seed
  settings := if r.attached.tenantSettings then some (.ok (rows a.tenantId)) else none
  limiter := if r.attached.rateLimiter then some (r.checkLimits a) else none
  orchestratorCalls := a.orchestratorCalls
  resolve := a.resolve
  domainCalls := a.domainCalls
  checkedAt := a.checkedAt
  recordedAt := a.recordedAt

/-- The tracker the orchestrator was given. -/
def DefaultRuntime.tracker (r : DefaultRuntime) : Option TrackerKind :=
  if r.attached.costTracker then some r.trackerKind else none

/-- The surroundings of the turn. -/
def DefaultRuntime.env (r : DefaultRuntime) (a : Arrival) : TurnEnv :=
  (r.input rows a).env r.tracker r.books

/-- The turn passes a request to the model. -/
def DefaultRuntime.reachesModel (r : DefaultRuntime) (a : Arrival) : Bool :=
  !(runTurn r.orchestrator a.session a.userMessage a.approvals a.actorRole
    (r.env rows a)).state.requests.isEmpty

/-- The limits a turn is checked against. -/
def DefaultRuntime.limits (r : DefaultRuntime) (a : Arrival) : Int × Int :=
  let settings := tenantSettings (r.env rows a)
  ((settings.map TenantSettings.rateLimitPerMinute).getD 60,
    (settings.map TenantSettings.rateLimitPerHour).getD 1000)

/-- The runtime after a turn. -/
def DefaultRuntime.after (r : DefaultRuntime) (a : Arrival) : DefaultRuntime :=
  { r with
    rateLimiter :=
      if r.attached.rateLimiter then
        let limits := r.limits rows a
        (r.rateLimiter.check a.tenantId limits.1 limits.2 a.monotonic).1
      else r.rateLimiter
    books := r.books.after r.tracker r.client r.orchestrator (r.input rows a) }

/-- The turns that reach the model, each with the rows the tracker held then. -/
def modelTurns : DefaultRuntime → List Arrival → List (List TurnCost × Arrival)
  | _,[] => []
  | r,a::as =>
    (if r.reachesModel rows a then [(r.books.ledger,a)] else [])++modelTurns (r.after rows a) as

/-- The turns of a tenant within a window. -/
def within (tenantId : EntityId) (start width : Rat) (turns : List (List TurnCost × Arrival)) :
    List (List TurnCost × Arrival) :=
  turns.filter fun t => t.2.tenantId=tenantId ∧ start≤t.2.monotonic ∧ t.2.monotonic≤ start+width

/-- The turns of a tenant keep to its limits. -/
structure KeepsLimits (kind : TrackerKind) (tenantId : EntityId)
    (turns : List (List TurnCost × Arrival)) : Prop where
  perMinute : ∀ start,
    ((within tenantId start minute turns).length : Int)≤(rows tenantId).rateLimitPerMinute
  perHour : ∀ start,
    ((within tenantId start hour turns).length : Int)≤(rows tenantId).rateLimitPerHour
  budget : ∀ t∈turns,t.2.tenantId=tenantId → ∀ budget,
    (rows tenantId).dailyTokenBudget=some budget → 0<budget →
      (tokensForTenantToday kind t.1 tenantId t.2.checkedAt : Int)<budget

/-! ## The default runtime -/

variable {rows} {r : DefaultRuntime} {a : Arrival}

theorem reachesModel_iff : r.reachesModel rows a=true ↔ GatesPassed (r.env rows a) := by
  rw [← requests_iff_passed r.orchestrator a.session a.userMessage a.approvals a.actorRole]
  simp only [DefaultRuntime.reachesModel,Bool.not_eq_true',List.isEmpty_eq_false_iff]

/-- An orchestrator without collaborators has open gates. -/
theorem passed_of_detached (h : r.attached={}) : GatesPassed (r.env rows a) := by
  have hlimiter : (r.env rows a).limiter=none := by
    simp [DefaultRuntime.env,TurnInput.env,DefaultRuntime.input,h]
  have htracker : (r.env rows a).tracker=none := by
    simp [DefaultRuntime.env,TurnInput.env,DefaultRuntime.tracker,h]
  constructor
  · simp only [rateGate,hlimiter]
  · simp only [budgetGate,htracker]

/-- It records nothing either. -/
theorem ledger_of_detached (h : r.attached={}) :
    (r.after rows a).books.ledger=r.books.ledger := by
  have hnone : r.tracker=none := by simp [DefaultRuntime.tracker,h]
  simp [DefaultRuntime.after,Books.after,recordedRow,hnone]

/-- Every turn of such an orchestrator reaches the model, over the rows there were. -/
theorem modelTurns_of_detached (h : r.attached={}) (as : List Arrival) :
    modelTurns rows r as=as.map fun a => (r.books.ledger,a) := by
  induction as generalizing r with
  | nil => rfl
  | cons a as ih =>
    have hreaches : r.reachesModel rows a=true := reachesModel_iff.mpr (passed_of_detached h)
    have hrest := ih (r:=r.after rows a) h
    rw [modelTurns,hrest,if_pos hreaches,ledger_of_detached h]
    rfl

end Turns

/-- The turns that reach the model keep to the tenant's limits exactly when all turns arrive
within them, and none on a day whose stored rows have used the budget up. -/
theorem limits_bite_iff (s : Surroundings) (rows : EntityId → TenantSettings) (tenantId : EntityId)
    (as : List Arrival) :
    KeepsLimits rows (buildDefaultRuntime s).trackerKind tenantId
        (modelTurns rows (buildDefaultRuntime s) as) ↔
      KeepsLimits rows (buildDefaultRuntime s).trackerKind tenantId
        (as.map fun a => (s.engine.getD [],a)) := by
  rw [modelTurns_of_detached rfl]
  rfl

/-- A runtime of a fresh process. -/
def deskSurroundings : Surroundings where
  orchestrator := TurnTermination.deskOrchestrator
  agentModel := "claude-sonnet-4-5"
  engine := none

/-- A turn at an instant. -/
def deskArrival (monotonic : Rat) : Arrival where
  session := TurnTermination.deskSession
  userMessage := "Hi"
  seed := TurnTermination.deskSeed
  orchestratorCalls := costlyTurn.orchestratorCalls
  resolve := costlyTurn.resolve
  domainCalls := costlyTurn.domainCalls
  monotonic
  checkedAt := 0
  recordedAt := 0

/-- A tenant that may send one message a minute sends two at once, and both reach the model. -/
theorem limit_of_one_passes_two :
    (modelTurns (fun _ => {rateLimitPerMinute := 1}) (buildDefaultRuntime deskSurroundings)
        [deskArrival 0,deskArrival 1]).length=2 ∧
      ¬KeepsLimits (fun _ => {rateLimitPerMinute := 1})
        (buildDefaultRuntime deskSurroundings).trackerKind (deskArrival 0).tenantId
        (modelTurns (fun _ => {rateLimitPerMinute := 1}) (buildDefaultRuntime deskSurroundings)
          [deskArrival 0,deskArrival 1]) := by
  rw [modelTurns_of_detached rfl]
  refine ⟨rfl,fun h => ?_⟩
  have hcount := h.perMinute 0
  revert hcount
  decide +kernel

end Voyagent.RuntimeLimits
