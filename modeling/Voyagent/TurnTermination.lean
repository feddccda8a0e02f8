import Voyagent.OrchestratorTurn

/-!
# How a turn ends

Every phase behind the gates reports its exceptions and goes on to the
closing event. The gates themselves catch only their own refusal, so a turn
ends with its one closing event exactly when the limiter and the budget
lookup, where they are consulted, answer at all.
-/

namespace Voyagent.TurnTermination

open RuntimeValues KeyedMap AgentEvents ToolInvocation GeneratorTraces AgentLoop Sessions
open OrchestratorTurn

/-- The run returned and its last event is its only closing one. -/
def EndsWithFinal (t : Trace TurnState AgentEvent Halt Unit) : Prop :=
  t.exit=.ok () ∧ ∃ init ev,t.events=init++[ev] ∧ ev.kind=.final ∧ ∀ e∈init,e.kind≠.final

/-- What the limiter says to the limits the turn asks for. -/
def limiterAnswer (env : TurnEnv) : LimiterAnswer :=
  match env.limiter with
  | none => .accepted
  | some check =>
    check (((tenantSettings env).map TenantSettings.rateLimitPerMinute).getD 60)
      (((tenantSettings env).map TenantSettings.rateLimitPerHour).getD 1000)

/-- The collaborators consulted by the gates answer or refuse; they raise
nothing else. -/
structure GatesAnswer (env : TurnEnv) : Prop where
  limiter : ∀ e,limiterAnswer env≠.raised e
  /-- The token count is only asked for behind the limiter and a positive budget. -/
  budget : limiterAnswer env=.accepted → ∀ tracker budget,env.tracker=some tracker →
    (tenantSettings env).bind TenantSettings.dailyTokenBudget=some budget → 0<budget →
    ∀ e,tracker.tokensForTenantToday≠.raised e

variable {org : Orchestrator} {session : Session} {env : TurnEnv} {userMessage : String}
variable {approvals : Option (Table String Bool)} {actorRole : String}

/-- The limiter's answer as the gate passes it on. -/
theorem rateGate_eq (env : TurnEnv) :
    rateGate env=match limiterAnswer env with
      | .accepted => .ok none
      | .exceeded scope => .ok (some ("rate_limited: "++scope))
      | .raised e => .error (.raised e) := by
  unfold rateGate limiterAnswer
  cases env.limiter <;> rfl

/-- The budget gate raises exactly when the token count it needs does. -/
theorem budgetGate_raises_iff (env : TurnEnv) :
    (∃ k,budgetGate env=.error k) ↔
      ∃ tracker budget e,env.tracker=some tracker ∧
        (tenantSettings env).bind TenantSettings.dailyTokenBudget=some budget ∧ 0<budget ∧
        tracker.tokensForTenantToday=.raised e := by
  unfold budgetGate
  cases htracker : env.tracker with
  | none => simp
  | some tracker =>
    cases hbudget : (tenantSettings env).bind TenantSettings.dailyTokenBudget with
    | none => simp
    | some budget =>
      simp only [enforceDailyBudget,Option.some.injEq]
      by_cases hpos : budget≤0
      · rw [if_pos hpos]
        constructor
        · rintro ⟨k,hk⟩
          cases hk
        · rintro ⟨_,_,_,rfl,rfl,hlt,_⟩
          omega
      · rw [if_neg hpos]
        cases htokens : tracker.tokensForTenantToday with
        | raised e => exact ⟨fun _ => ⟨_,_,e,rfl,rfl,by omega,htokens⟩,fun _ => ⟨_,rfl⟩⟩
        | used n =>
          constructor
          · rintro ⟨k,hk⟩
            dsimp only at hk
            split at hk <;> cases hk
          · rintro ⟨t,_,e,rfl,_,_,he⟩
            rw [htokens] at he
            cases he

/-- A refusal of the budget gate shows its numbers. -/
theorem budgetGate_text {message : String} (h : budgetGate env=.ok (some message)) :
    ∃ limit used : Int,message="daily_budget_exceeded: limit="++toString limit++" used="++
      toString used := by
  unfold budgetGate at h
  split at h
  · unfold enforceDailyBudget at h
    split at h
    · cases h
    · split at h
      · cases h
      · split at h
        · cases h
          exact ⟨_,_,rfl⟩
        · cases h
  · cases h

/-- A constructed event is yielded as it is. -/
theorem emitBuilt_apply {f : AgentEventFields} (h : eventError f.stripped=none) (s : TurnState) :
    emitBuilt f s=⟨[(⟨f.stripped,h⟩,s)],.ok (),s⟩ := by
  simp [emitBuilt,build_of_valid h]

/-- A text that shows a letter is not blank. -/
theorem refusal_nonblank {message : String} {c : Char} (hc : c∈message.toList)
    (hw : isWhiteSpace c=false) : stripWhitespace message≠"" :=
  TrimmedText.trimBy_ne_empty hc hw

/-- A refused turn reports the refusal and closes. -/
theorem refuseTurn_ends (seed : TurnSeed) {message : String} (hm : stripWhitespace message≠"")
    (s : TurnState) : EndsWithFinal (refuseTurn session.id (newTurnId seed) message s) := by
  have herror : eventError (errorFields session.id (newTurnId seed) message).stripped=none :=
    error_valid (newTurnId_nonblank seed) hm
  have hfinal : eventError (finalFields session.id (newTurnId seed)).stripped=none :=
    final_valid (newTurnId_nonblank seed)
  have hrun : refuseTurn session.id (newTurnId seed) message s=
      ⟨[(⟨_,herror⟩,s),(⟨_,hfinal⟩,s)],.ok (),s⟩ := by
    simp only [refuseTurn,bind_apply,emitBuilt_apply herror,emitBuilt_apply hfinal,andThen_ok,
      List.singleton_append]
  rw [hrun]
  refine ⟨rfl,[⟨_,herror⟩],⟨_,hfinal⟩,rfl,rfl,fun e hm => ?_⟩
  rw [List.mem_singleton.mp hm]
  exact fun h => by cases h

/-- No event of a turn before its end is a closing one. -/
theorem turnEvent_not_final {ctx : ToolContext} {turnId : String} {ev : AgentEvent}
    (h : TurnEvent org ctx session turnId ev) : ev.kind≠.final := by
  rcases h with h|h|h
  · cases h with
    | textDelta text h | toolUse name input id h | toolResult name output id h | error message h
    | approvalRequest name input id env o hasks h =>
      rw [build_kind h]; exact fun h => by cases h
  · rw [h]
    exact fun h => by cases h
  · rw [h]
    exact fun h => by cases h

/-- Behind the gates an uncancelled turn always reaches its closing event. -/
theorem turnPhases_ends {ctx : ToolContext} (hun : env.Uncancelled)
    (hturn : ctx.turnId=newTurnId env.seed) {s : TurnState} (hs : GenuineCalls org ctx s) :
    EndsWithFinal ((do
      turnPhases org session userMessage ctx env
      emitBuilt (finalFields session.id (newTurnId env.seed)) : TurnGen Unit) s) := by
  have hsat : Sat _ (turnPhases org session userMessage ctx env) _ _ _ := turnPhases_sat hturn
  obtain ⟨hy,hx⟩ := hsat s hs
  have hfinal : eventError (finalFields session.id (newTurnId env.seed)).stripped=none :=
    final_valid (newTurnId_nonblank env.seed)
  rw [bind_apply,Trace.andThen]
  cases hexit : (turnPhases org session userMessage ctx env s).exit with
  | error k =>
    rw [hexit] at hx
    exact absurd hun hx.2.2
  | ok u =>
    dsimp only
    rw [emitBuilt_apply hfinal]
    refine ⟨rfl,(turnPhases org session userMessage ctx env s).events,⟨_,hfinal⟩,?_,rfl,?_⟩
    · simp [Trace.events]
    · intro e hm
      obtain ⟨y,hy',rfl⟩ := List.mem_map.mp hm
      exact turnEvent_not_final (hy y hy').1

/-- The three ways through the gates: an exception, a refusal, or the turn. -/
theorem runTurn_rateRaised {k : Halt} (h : rateGate env=.error k) :
    (runTurn org session userMessage approvals actorRole env).exit=.error k := by
  unfold runTurn turnGen
  rw [h,ofExcept_error,fail_bind_apply]

theorem runTurn_rateRefused {message : String} (h : rateGate env=.ok (some message)) :
    runTurn org session userMessage approvals actorRole env=
      refuseTurn session.id (newTurnId env.seed) message {history := session.messageHistory} := by
  unfold runTurn turnGen
  rw [h,ofExcept_ok,pure_bind_apply]

theorem runTurn_budgetRaised {k : Halt} (hr : rateGate env=.ok none) (h : budgetGate env=.error k) :
    (runTurn org session userMessage approvals actorRole env).exit=.error k := by
  unfold runTurn turnGen
  rw [hr,ofExcept_ok,pure_bind_apply]
  dsimp only
  rw [h,ofExcept_error,fail_bind_apply]

theorem runTurn_budgetRefused {message : String} (hr : rateGate env=.ok none)
    (h : budgetGate env=.ok (some message)) :
    runTurn org session userMessage approvals actorRole env=
      refuseTurn session.id (newTurnId env.seed) message {history := session.messageHistory} := by
  unfold runTurn turnGen
  rw [hr,ofExcept_ok,pure_bind_apply]
  dsimp only
  rw [h,ofExcept_ok,pure_bind_apply]

theorem runTurn_admitted (hr : rateGate env=.ok none) (h : budgetGate env=.ok none) :
    runTurn org session userMessage approvals actorRole env=
      (do
        turnPhases org session userMessage
          (turnContext session (newTurnId env.seed) approvals actorRole) env
        emitBuilt (finalFields session.id (newTurnId env.seed)) : TurnGen Unit)
        {history := session.messageHistory} := by
  unfold runTurn turnGen
  rw [hr,ofExcept_ok,pure_bind_apply]
  dsimp only
  rw [h,ofExcept_ok,pure_bind_apply]

/-- A turn nothing is cancelled in ends with its one closing event exactly
when the gates' collaborators answer. -/
theorem endsWithFinal_iff (org : Orchestrator) (session : Session) (userMessage : String)
    (approvals : Option (Table String Bool)) (actorRole : String) (env : TurnEnv)
    (hun : env.Uncancelled) :
    EndsWithFinal (runTurn org session userMessage approvals actorRole env) ↔ GatesAnswer env := by
  have hrate := rateGate_eq env
  cases hlimiter : limiterAnswer env with
  | raised e =>
    rw [hlimiter] at hrate
    constructor
    · intro h
      have hexit := (runTurn_rateRaised hrate).symm.trans h.1
      cases hexit
    · intro h
      exact absurd hlimiter (h.limiter e)
  | exceeded scope =>
    rw [hlimiter] at hrate
    refine ⟨fun _ => ⟨fun e he => ?_,fun he => ?_⟩,fun _ => ?_⟩
    · rw [hlimiter] at he
      cases he
    · rw [hlimiter] at he
      cases he
    · rw [runTurn_rateRefused hrate]
      exact refuseTurn_ends env.seed (refusal_nonblank (c := 'r') (by simp) (by decide)) _
  | accepted =>
    rw [hlimiter] at hrate
    cases hbudget : budgetGate env with
    | error k =>
      constructor
      · intro h
        have hexit := (runTurn_budgetRaised hrate hbudget).symm.trans h.1
        cases hexit
      · intro h
        obtain ⟨tracker,budget,e,ht,hb,hpos,he⟩ := (budgetGate_raises_iff env).mp ⟨k,hbudget⟩
        exact absurd he (h.budget hlimiter tracker budget ht hb hpos e)
    | ok refusal =>
      have hgates : GatesAnswer env := by
        refine ⟨fun e he => ?_,fun _ tracker budget ht hb hpos e he => ?_⟩
        · rw [hlimiter] at he
          cases he
        · obtain ⟨k,hk⟩ := (budgetGate_raises_iff env).mpr ⟨tracker,budget,e,ht,hb,hpos,he⟩
          rw [hbudget] at hk
          cases hk
      refine ⟨fun _ => hgates,fun _ => ?_⟩
      cases refusal with
      | some message =>
        obtain ⟨limit,used,hm⟩ := budgetGate_text hbudget
        rw [runTurn_budgetRefused hrate hbudget]
        exact refuseTurn_ends env.seed
          (refusal_nonblank (c := 'd') (by rw [hm]; simp) (by decide)) _
      | none =>
        rw [runTurn_admitted hrate hbudget]
        exact turnPhases_ends hun (turnContext_turnId session env.seed approvals actorRole)
          (fun _ hm => absurd hm List.not_mem_nil)

/-- The desk's orchestrator. -/
def deskOrchestrator : Orchestrator := ⟨ticketDesk,["ticketing_visa"]⟩

def deskSession : Session :=
  {id := "01900000-0000-7000-8000-000000000003"
   tenantId := "01900000-0000-7000-8000-000000000001"
   actorId := "01900000-0000-7000-8000-000000000002"}

/-- The digits the desk's turn draws. -/
def deskSeed : TurnSeed := ⟨"0123456789ab",by decide⟩

/-- A model that says one word, behind the given gates. -/
def gatedTurn (check : Int → Int → LimiterAnswer) (tokens : TokensAnswer) : TurnEnv :=
  {seed := deskSeed
   settings := some (.ok {dailyTokenBudget := some 100000})
   limiter := some check
   tracker := some {tokensForTenantToday := tokens}
   orchestratorCalls := fun _ =>
     {attempts := fun _ => ⟨[.textDelta "Hello",.messageStop (some ⟨some "end_turn",[.text "Hello"]⟩)],
        none⟩
      tools := fun _ => {auditId := "",handler := fun _ => .returned .none}}
   resolve := fun _ => .ok ticketingVisaAgent
   domainCalls := fun _ =>
     {attempts := fun _ => ⟨[],none⟩
      tools := fun _ => {auditId := "",handler := fun _ => .returned .none}}}

theorem gatedTurn_uncancelled (check : Int → Int → LimiterAnswer) (tokens : TokensAnswer) :
    (gatedTurn check tokens).Uncancelled :=
  ⟨fun _ => ⟨fun _ h => (by cases h),fun _ _ h => by cases h⟩,
    fun _ => ⟨fun _ h => (by cases h),fun _ _ h => by cases h⟩,fun h => by cases h⟩

/-- With a limiter that refuses, the turn still closes. -/
theorem endsWithFinal_iff_refused :
    EndsWithFinal (runTurn deskOrchestrator deskSession "Hi" none "agent"
      (gatedTurn (fun _ _ => .exceeded "minute") (.used 0))) :=
  (endsWithFinal_iff _ _ _ _ _ _ (gatedTurn_uncancelled _ _)).mpr
    ⟨fun _ h => (by cases h),fun h => by cases h⟩

/-- What the storage tracker raises while its database is away. -/
def storageDown : Exn := ⟨"OperationalError",["DBAPIError"],"connection refused",none⟩

/-- The budget lookup fails: its exception leaves the turn and no closing
event is sent. -/
theorem budget_failure_escapes :
    ¬EndsWithFinal (runTurn deskOrchestrator deskSession "Hi" none "agent"
      (gatedTurn (fun _ _ => .accepted) (.raised storageDown))) := by
  intro h
  have hraised : (runTurn deskOrchestrator deskSession "Hi" none "agent"
      (gatedTurn (fun _ _ => .accepted) (.raised storageDown))).exit=_ :=
    runTurn_budgetRaised rfl rfl
  cases hraised.symm.trans h.1

end Voyagent.TurnTermination
