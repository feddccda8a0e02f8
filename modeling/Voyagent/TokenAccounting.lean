import Mathlib.Algebra.GroupWithZero.Nat
import Voyagent.TurnTermination

/-!
# Token accounting

Every model call that completes reports its tokens on its final message. At
the end of a turn the orchestrator reads the usage off an attribute of its
client and records one row; before the next turn it compares the tenant's rows
of the day with the daily budget. The client of the runtime never assigns that
attribute.
-/

namespace Voyagent.TokenAccounting

open RuntimeValues KeyedMap AgentEvents ToolInvocation GeneratorTraces AgentLoop Sessions
open OrchestratorTurn TurnTermination

/-- `usage` of a final message. -/
structure Usage where
  inputTokens : Option Nat
  outputTokens : Option Nat

def Usage.total (u : Usage) : Nat := u.inputTokens.getD 0+u.outputTokens.getD 0

/-- What the orchestrator reads off its client after a turn. -/
structure ClientSurface where
  /-- The usage of the message in `_last_final_message`, if there is one. -/
  lastFinalUsage : Option Usage
  model : String

/-- `AnthropicClient`: no method assigns `_last_final_message`. -/
def anthropicClient (agentModel : String) : ClientSurface := ⟨none,agentModel⟩

/-- `MODEL_PRICING`, in hundredths of a dollar per million tokens. -/
def modelPricing : Table String (Nat × Nat) :=
  [("claude-sonnet-4-5",(300,1500)),("claude-opus-4-6",(1500,7500)),
    ("claude-haiku-4-5-20251001",(80,400))]

/-- `estimate_cost_usd`, in the column's unit of 10⁻⁸ dollars. -/
def estimateCostUsd (model : String) (inputTokens outputTokens : Nat) : Nat :=
  match get modelPricing model with
  | none => 0
  | some (inRate,outRate) => inputTokens*inRate+outputTokens*outRate

/-- One persisted cost record for a single agent turn. -/
structure TurnCost where
  tenantId : EntityId
  sessionId : EntityId
  turnId : String
  model : String
  inputTokens : Nat
  outputTokens : Nat
  costUsd : Nat
  createdAt : Time

/-- `total_tokens`. -/
def TurnCost.totalTokens (c : TurnCost) : Nat := c.inputTokens+c.outputTokens

/-- The record of a turn, unless both counts are zero. -/
def costRecord (client : ClientSurface) (tenantId sessionId : EntityId) (turnId : String)
    (now : Time) : Option TurnCost :=
  let inputTokens := (client.lastFinalUsage.bind Usage.inputTokens).getD 0
  let outputTokens := (client.lastFinalUsage.bind Usage.outputTokens).getD 0
  if inputTokens=0 ∧ outputTokens=0 then none
  else some
    {tenantId,sessionId,turnId
     model := client.model
     inputTokens,outputTokens
     costUsd := estimateCostUsd client.model inputTokens outputTokens
     createdAt := now}

/-- Seconds of a day. -/
def dayLength : Int := 24*60*60

/-- The UTC date of an instant. -/
def day (t : Time) : Int := t/dayLength

/-- The two cost trackers. -/
inductive TrackerKind where
  | inMemory | storage

/-- Whether a row counts for the day of `now`. -/
def TrackerKind.countsToday : TrackerKind → Time → TurnCost → Bool
  | .inMemory,now,c => decide (day c.createdAt=day now)
  | .storage,now,c => decide (day now*dayLength≤c.createdAt)

/-- `tokens_for_tenant_today`. -/
def tokensForTenantToday (kind : TrackerKind) (ledger : List TurnCost) (tenantId : EntityId)
    (now : Time) : Nat :=
  ((ledger.filter fun c => decide (c.tenantId=tenantId) && kind.countsToday now c).map
    TurnCost.totalTokens).sum

/-- One model call, with the usage its final message would report. -/
structure MeteredCall where
  attempts : Nat → StreamAttempt
  usage : Usage
  tools : Nat → InvokeEnv

/-- The call as the loop sees it through the runtime's client. -/
def MeteredCall.toCall (c : MeteredCall) : ModelCall where
  attempts := c.attempts
  tools := c.tools

/-- What a call reports: the usage of its final message, if it completes with
one. -/
def MeteredCall.reported (c : MeteredCall) (sessionId turnId : String) : Nat :=
  match streamCall sessionId turnId c.attempts with
  | .streamed st => if st.finalMessage.isSome then c.usage.total else 0
  | _ => 0

/-- The arguments of a turn, what it meets, and when it looks at the clock. -/
structure TurnInput where
  session : Session
  userMessage : String
  approvals : Option (Table String Bool) := none
  actorRole : String := "agent"
  seed : TurnSeed
  settings : Option (Except Exn TenantSettings)
  limiter : Option (Int → Int → LimiterAnswer) := none
  orchestratorCalls : Nat → MeteredCall
  resolve : String → Except Exn DomainAgent
  domainCalls : Nat → MeteredCall
  checkedAt : Time
  recordedAt : Time

/-- A completed turn and the tokens its model calls reported. -/
structure CompletedTurn where
  tenantId : EntityId
  recordedAt : Time
  tokens : Nat

/-- The tracker's rows beside the turns that completed. -/
structure Books where
  ledger : List TurnCost := []
  completed : List CompletedTurn := []

/-- Tokens of the tenant's turns that completed on the day of `now`. -/
def Books.consumedToday (b : Books) (tenantId : EntityId) (now : Time) : Nat :=
  ((b.completed.filter fun c => decide (c.tenantId=tenantId ∧ day c.recordedAt=day now)).map
    CompletedTurn.tokens).sum

section Turns

/-! The turns run one after the other through one orchestrator, whose tracker
may be missing, and its client. -/

variable (kind : Option TrackerKind) (client : ClientSurface) (org : Orchestrator)

/-- The surroundings of a turn behind the ledger. -/
def TurnInput.env (t : TurnInput) (b : Books) : TurnEnv where
  seed := t.seed
  settings := t.settings
  limiter := t.limiter
  tracker := kind.map fun k =>
    {tokensForTenantToday :=
      .used (tokensForTenantToday k b.ledger t.session.tenantId t.checkedAt)}
  orchestratorCalls := fun n => (t.orchestratorCalls n).toCall
  resolve := t.resolve
  domainCalls := fun n => (t.domainCalls n).toCall

/-- Both gates let a turn pass. -/
def passesGates (env : TurnEnv) : Bool :=
  match rateGate env,budgetGate env with
  | .ok none,.ok none => true
  | _,_ => false

/-- `enforce_daily_budget` refuses the turn. -/
def Refused (b : Books) (t : TurnInput) : Prop :=
  ∃ text,budgetGate (t.env kind b)=.ok (some text)

/-- The turn passes its gates and runs to its end. -/
def completes (b : Books) (t : TurnInput) : Bool :=
  passesGates (t.env kind b) &&
    (runTurn org t.session t.userMessage t.approvals t.actorRole (t.env kind b)).exit.isOk

/-- The row a turn adds to the ledger. -/
def recordedRow (b : Books) (t : TurnInput) : Option TurnCost :=
  if completes kind org b t then
    kind.bind fun _ =>
      costRecord client t.session.tenantId t.session.id (newTurnId t.seed) t.recordedAt
  else none

/-- The model calls of a turn: as many of each agent as it logged requests. -/
def modelCalls (b : Books) (t : TurnInput) : List MeteredCall :=
  let env := t.env kind b
  let ctx := turnContext t.session (newTurnId t.seed) t.approvals t.actorRole
  let s := TurnState.beginTurn {history := t.session.messageHistory} t.userMessage
  let own := (orchestratorPhase org ctx t.session (newTurnId t.seed) env s).state.requests.length
  let all := (runTurn org t.session t.userMessage t.approvals t.actorRole env).state.requests.length
  (List.range own).map t.orchestratorCalls++(List.range (all-own)).map t.domainCalls

/-- The tokens the model calls of a completed turn reported. -/
def reportedTokens (b : Books) (t : TurnInput) : Nat :=
  if completes kind org b t then
    ((modelCalls kind org b t).map fun c => c.reported t.session.id (newTurnId t.seed)).sum
  else 0

/-- The books after a turn. -/
def Books.after (b : Books) (t : TurnInput) : Books where
  ledger := b.ledger++(recordedRow kind client org b t).toList
  completed := b.completed++
    if completes kind org b t then
      [⟨t.session.tenantId,t.recordedAt,reportedTokens kind org b t⟩]
    else []

/-- The books after turns, from empty ones. -/
def booksAfter (ts : List TurnInput) : Books := ts.foldl (Books.after kind client org) {}

/-- The turn records what it used, and is refused exactly when the tenant has
used up its budget. -/
def Accounted (b : Books) (t : TurnInput) : Prop :=
  ((recordedRow kind client org b t).map TurnCost.totalTokens).getD 0=reportedTokens kind org b t ∧
  (Refused kind b t ↔ ∃ budget,(tenantSettings (t.env kind b)).bind TenantSettings.dailyTokenBudget=
    some budget ∧ 0<budget ∧ budget≤(b.consumedToday t.session.tenantId t.checkedAt : Int))

/-- Every model call of the turn reports no token. -/
def Silent (b : Books) (t : TurnInput) : Prop :=
  completes kind org b t=true →
    ∀ c∈modelCalls kind org b t,c.reported t.session.id (newTurnId t.seed)=0

end Turns

variable {kind : Option TrackerKind} {client : ClientSurface} {org : Orchestrator} {b : Books}
  {t : TurnInput} {ts : List TurnInput}

/-! ## What the ledger holds -/

/-- The runtime's client leaves nothing to record. -/
@[simp] theorem recordedRow_anthropicClient (agentModel : String) :
    recordedRow kind (anthropicClient agentModel) org b t=none := by
  unfold recordedRow
  split
  · cases kind <;> rfl
  · rfl

theorem booksAfter_snoc (ts : List TurnInput) (t : TurnInput) :
    booksAfter kind client org (ts++[t])=(booksAfter kind client org ts).after kind client org t :=
  List.foldl_append

@[simp] theorem booksAfter_ledger (agentModel : String) (ts : List TurnInput) :
    (booksAfter kind (anthropicClient agentModel) org ts).ledger=[] := by
  induction ts using List.reverseRecOn with
  | nil => rfl
  | append_singleton ts t ih => simp [booksAfter_snoc,Books.after,ih]

/-- Nothing is refused over an empty ledger. -/
theorem not_refused (hb : b.ledger=[]) : ¬Refused kind b t := by
  rintro ⟨text,h⟩
  unfold budgetGate at h
  split at h
  · rename_i tracker budget htracker _
    have hused : tracker.tokensForTenantToday=.used 0 := by
      cases kind with
      | none => cases htracker
      | some k =>
        cases htracker
        simp [tokensForTenantToday,hb]
    unfold enforceDailyBudget at h
    rw [hused] at h
    split at h
    · cases h
    · rename_i hpos
      have hnot : ¬budget≤0 := hpos
      simp [hnot] at h
  · cases h

/-! ## What the turns used -/

theorem silent_iff : Silent kind org b t ↔ reportedTokens kind org b t=0 := by
  unfold Silent reportedTokens
  split
  · rename_i h
    simp [h,List.sum_eq_zero_iff_forall_eq_nat]
  · rename_i h
    simp [h]

/-- A tenant none of whose turns used anything has consumed nothing. -/
theorem consumedToday_eq_zero (h : ∀ c∈b.completed,c.tokens=0) (tenantId : EntityId) (now : Time) :
    b.consumedToday tenantId now=0 := by
  refine List.sum_eq_zero_iff_forall_eq_nat.mpr fun n hn => ?_
  obtain ⟨c,hc,rfl⟩ := List.mem_map.mp hn
  exact h c (List.mem_of_mem_filter hc)

theorem completed_silent (h : ∀ pre u post,ts=pre++u::post →
      Silent kind org (booksAfter kind client org pre) u) :
    ∀ c∈(booksAfter kind client org ts).completed,c.tokens=0 := by
  induction ts using List.reverseRecOn with
  | nil => exact fun c hc => absurd hc List.not_mem_nil
  | append_singleton ts t ih =>
    intro c hc
    rw [booksAfter_snoc] at hc
    rcases List.mem_append.mp hc with hc|hc
    · refine ih (fun pre u post hts => h pre u (post++[t]) ?_) c hc
      rw [hts,List.append_assoc,List.cons_append]
    · split at hc
      · rw [List.mem_singleton.mp hc]
        exact silent_iff.mp (h ts t [] rfl)
      · exact absurd hc List.not_mem_nil

/-- Turns through the runtime's client are accounted for, and the budget
refuses what it should, exactly when no model call reports a token. -/
theorem accounted_iff (kind : Option TrackerKind) (agentModel : String) (org : Orchestrator)
    (ts : List TurnInput) :
    (∀ pre t post,ts=pre++t::post →
        Accounted kind (anthropicClient agentModel) org
          (booksAfter kind (anthropicClient agentModel) org pre) t) ↔
      ∀ pre t post,ts=pre++t::post →
        Silent kind org (booksAfter kind (anthropicClient agentModel) org pre) t := by
  constructor
  · intro h pre t post hts
    have hrecord := (h pre t post hts).1
    rw [recordedRow_anthropicClient] at hrecord
    exact silent_iff.mpr hrecord.symm
  · intro h pre t post hts
    have hsilent := silent_iff.mp (h pre t post hts)
    have hbefore : ∀ pre' u post',pre=pre'++u::post' → Silent kind org
        (booksAfter kind (anthropicClient agentModel) org pre') u := fun pre' u post' hpre =>
      h pre' u (post'++t::post) (by rw [hts,hpre,List.append_assoc,List.cons_append])
    have hconsumed := consumedToday_eq_zero (completed_silent hbefore) t.session.tenantId t.checkedAt
    refine ⟨by rw [recordedRow_anthropicClient,hsilent]; rfl,?_⟩
    refine iff_of_false (not_refused (booksAfter_ledger agentModel pre)) ?_
    rintro ⟨budget,_,hpos,hle⟩
    rw [hconsumed] at hle
    exact absurd hpos (Int.not_lt.mpr hle)

/-- A turn that says one word for more tokens than its tenant has for a day. -/
def costlyTurn : TurnInput where
  session := deskSession
  userMessage := "Hi"
  seed := deskSeed
  settings := some (.ok {dailyTokenBudget := some 100000})
  orchestratorCalls := fun _ =>
    {attempts := fun _ => ⟨[.textDelta "Hello",.messageStop (some ⟨some "end_turn",[.text "Hello"]⟩)],
      none⟩
     usage := ⟨some 90000,some 20000⟩
     tools := fun _ => {auditId := "",handler := fun _ => .returned .none}}
  resolve := fun _ => .ok ticketingVisaAgent
  domainCalls := fun _ =>
    {attempts := fun _ => ⟨[],none⟩
     usage := ⟨none,none⟩
     tools := fun _ => {auditId := "",handler := fun _ => .returned .none}}
  checkedAt := 0
  recordedAt := 1

/-- One turn spends more than the day's budget; nothing is recorded and the
next turn is let through. -/
theorem budget_never_bites :
    (booksAfter (some .inMemory) (anthropicClient "claude-sonnet-4-5") deskOrchestrator
        [costlyTurn]).consumedToday deskSession.tenantId 0=110000 ∧
      ¬∀ pre t post,[costlyTurn,costlyTurn]=pre++t::post →
        Accounted (some .inMemory) (anthropicClient "claude-sonnet-4-5") deskOrchestrator
          (booksAfter (some .inMemory) (anthropicClient "claude-sonnet-4-5") deskOrchestrator pre)
          t := by
  refine ⟨by rfl,fun h => ?_⟩
  have hrecord := (h [] costlyTurn [costlyTurn] rfl).1
  have hreported : reportedTokens (some .inMemory) deskOrchestrator {} costlyTurn=110000 := by rfl
  cases hrecord.trans hreported

end Voyagent.TokenAccounting
