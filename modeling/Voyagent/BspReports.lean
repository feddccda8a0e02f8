import Voyagent.FallibleResults
import Voyagent.TicketReconciliation
import Voyagent.TransitionRuns

/-!
# Settlement reports between the turns of a session

A turn of the orchestrator starts with a fresh dictionary of extensions. The
tool that fetches a settlement statement keeps the report there under its id,
and the tool that reconciles looks the id up in the dictionary of its own turn.
-/

namespace Voyagent.BspReports

open RuntimeValues KeyedMap Decimals FallibleResults TransitionRuns
open TicketReconciliation

/-! ## The extensions of a turn -/

/-- The canonical report with the fields the two tools read. -/
structure Statement extends BSPReport where
  id : EntityId
  country : String
  salesTotal : Money
  refundTotal : Money
  commissionTotal : Money
  netRemittance : Money
  sourceRef : String
  deriving DecidableEq

/-- What a key of `ctx.extensions` holds. -/
inductive Extension where
  /-- A service the orchestrator hands to the tools. -/
  | service
  | reports (cache : Table EntityId Statement)
  | tickets (store : Table EntityId Ticket)
  deriving DecidableEq

abbrev Extensions : Type := Table String Extension

/-- `BSP_REPORTS_CACHE_KEY`. -/
def bspReportsCacheKey : String := "bsp_reports_cache"

/-- `TICKETS_STORE_KEY`. -/
def ticketsStoreKey : String := "tickets_store"

/-- The services that a turn may find configured. -/
structure Services where
  tenantSettings : Bool
  toolCache : Bool
  tenantRegistry : Bool
  drivers : Bool
  passengerResolver : Bool

/-- `TENANT_REGISTRY_KEY`. -/
def tenantRegistryKey : String := "tenant_registry"

/-- `DRIVER_REGISTRY_KEY`. -/
def driverRegistryKey : String := "driver_registry"

/-- Hand a service over if it is there. -/
def provide (present : Bool) (key : String) (extensions : Extensions) : Extensions :=
  if present then set extensions key .service else extensions

/-- The `extensions` that `Orchestrator.run_turn` builds. -/
def turnExtensions (services : Services) : Extensions :=
  let extensions := provide services.tenantSettings "tenant_settings" []
  let extensions := provide services.toolCache "tool_cache" extensions
  let extensions := provide services.tenantRegistry tenantRegistryKey extensions
  let extensions := provide services.drivers driverRegistryKey extensions
  provide services.passengerResolver "passenger_resolver" extensions

theorem get_provide {key key' : String} (h : key≠key') (present : Bool) (extensions : Extensions) :
    get (provide present key extensions) key'=get extensions key' := by
  cases present with
  | false => rfl
  | true => simp [provide,h]

/-- No turn starts with a report or a ticket. -/
theorem get_turnExtensions (services : Services) (key : String)
    (h : key∈[bspReportsCacheKey,ticketsStoreKey]) : get (turnExtensions services) key=none := by
  unfold turnExtensions
  rcases List.mem_pair.mp h with rfl|rfl <;>
    simp [get_provide,bspReportsCacheKey,ticketsStoreKey,tenantRegistryKey,driverRegistryKey]

/-! ## The two tools -/

/-- Thousands of the integer part, from its last digit on. -/
def groupThousands : List Char → List Char
  | a::b::c::rest => a::b::c::(if rest=[] then [] else ','::groupThousands rest)
  | digits => digits

/-- `_fmt_money`. -/
def fmtMoney (m : Money) : String :=
  let cents :=
    if -2 ≤ m.amount.exponent then m.amount.coefficientAt (-2)
    else roundedAt m.amount.coefficient (-2-m.amount.exponent).toNat
  let whole := (groupThousands (Nat.toDigits 10 (cents.natAbs/100)).reverse).reverse
  let places := [Nat.digitChar (cents.natAbs/10%10),Nat.digitChar (cents.natAbs%10)]
  String.ofList (m.currency.val.toList++
    ' '::((if cents<0 then ['-'] else [])++whole++ '.'::places))

/-- What `fetch_bsp_statement` returns. -/
structure FetchedStatement where
  reportId : EntityId
  country : String
  salesTotal : String
  refundTotal : String
  commissionTotal : String
  netRemittance : String
  transactionCount : Nat
  sourceRef : String
  deriving DecidableEq

def Statement.fetched (report : Statement) : FetchedStatement where
  reportId := report.id
  country := report.country
  salesTotal := fmtMoney report.salesTotal
  refundTotal := fmtMoney report.refundTotal
  commissionTotal := fmtMoney report.commissionTotal
  netRemittance := fmtMoney report.netRemittance
  transactionCount := report.transactions.length
  sourceRef := report.sourceRef

/-- `_resolve_registry`: the key under which the registry is found. -/
def resolveRegistry (extensions : Extensions) : Except Exn String :=
  if (get extensions tenantRegistryKey).isSome then .ok tenantRegistryKey
  else if (get extensions driverRegistryKey).isSome then .ok driverRegistryKey
  else .error ⟨"RuntimeError",[],"No tenant registry or driver registry on ToolContext.extensions "++
    "(looked for 'tenant_registry' / 'driver_registry'). Wire one before invoking tools.",none⟩

/-- `ctx.extensions.get(BSP_REPORTS_CACHE_KEY) or {}`, as a dictionary. -/
def cachedReports (extensions : Extensions) : Except Exn (Table EntityId Statement) :=
  match get extensions bspReportsCacheKey with
  | none => .ok []
  | some (.reports cache) => .ok cache
  | some _ => .error ⟨"TypeError",[],"not a dictionary of reports",none⟩

/-- `ctx.extensions.get(TICKETS_STORE_KEY) or {}`, as a dictionary. -/
def ticketsStore (extensions : Extensions) : Except Exn (Table EntityId Ticket) :=
  match get extensions ticketsStoreKey with
  | none => .ok []
  | some (.tickets store) => .ok store
  | some _ => .error ⟨"TypeError",[],"not a dictionary of tickets",none⟩

/-- `fetch_bsp_statement`. The argument stands for the registry, the driver and
the period of the request: the statement that comes back, or what is raised. -/
def fetchBspStatement (statement : String → Except Exn Statement) (extensions : Extensions) :
    Except Exn (FetchedStatement × Extensions) := do
  let registry ← resolveRegistry extensions
  let report ← statement registry
  let cache ← cachedReports extensions
  return (report.fetched,set extensions bspReportsCacheKey (.reports (set cache report.id report)))

/-- Input of `reconcile_bsp`. -/
structure ReconcileInput where
  reportId : String
  ticketIds : Option (List String) := none
  deriving DecidableEq

/-- One entry of the issues list. -/
structure Issue where
  outcome : ReconciliationOutcome
  externalRef : Option String
  internalRefs : List EntityId
  delta : Option String
  evidence : Option String
  deriving DecidableEq

/-- The summary as it is shown. -/
structure ShownSummary where
  matched : Nat
  matchedAmount : Option String
  unmatchedExternal : Nat
  unmatchedInternal : Nat
  discrepancy : Nat
  tentative : Nat
  deriving DecidableEq

/-- What `reconcile_bsp` returns. -/
inductive ReconcileOutput where
  /-- `reconciled` is false, for the reason `report_not_found`. -/
  | reportNotFound (detail : String)
  | reconciled (summary : ShownSummary) (issues : List Issue) (reconciliationId : EntityId)
  deriving DecidableEq

def ReconcileOutput.found : ReconcileOutput → Bool
  | .reportNotFound _ => false
  | .reconciled _ _ _ => true

def issueOf (item : ReconciliationItem) : Issue where
  outcome := item.outcome
  externalRef := item.externalRef
  internalRefs := item.internalRefs
  delta := item.delta.map fmtMoney
  evidence := item.evidence

def showSummary (summary : ReconciliationSummary) : ShownSummary where
  matched := summary.matchedCount
  matchedAmount := summary.matchedAmount.map fmtMoney
  unmatchedExternal := summary.unmatchedExternalCount
  unmatchedInternal := summary.unmatchedInternalCount
  discrepancy := summary.discrepancyCount
  tentative := summary.tentativeCount

/-- The tickets to reconcile with: those asked for, or all of the store. -/
def selectedTickets (input : ReconcileInput) (store : Table EntityId Ticket) : List Ticket :=
  match input.ticketIds with
  | none => store.map Prod.snd
  | some [] => store.map Prod.snd
  | some ids => ids.filterMap (get store)

/-- The answer of `reconcile_bsp` for a report that is found. -/
def reconcileReport (report : Statement) (tickets : List Ticket) (id : EntityId) (now : Time) :
    ReconcileOutput :=
  let reconciliation := reconcileBspAgainstTickets report.toBSPReport tickets id now
  let issues := (reconciliation.items.filter fun item => item.outcome≠.matched).map issueOf
  .reconciled (showSummary reconciliation.summary) (issues.take 50) reconciliation.id

/-- `reconcile_bsp`, with the renderer of texts, the fresh id and the clock. -/
def reconcileBsp (reprStr : String → String) (id : EntityId) (now : Time) (input : ReconcileInput)
    (extensions : Extensions) : Except Exn ReconcileOutput := do
  let cache ← cachedReports extensions
  match get cache input.reportId with
  | none =>
    return .reportNotFound ("No cached BSP report with id "++reprStr input.reportId++
      ". Call fetch_bsp_statement first.")
  | some report =>
    let store ← ticketsStore extensions
    return reconcileReport report (selectedTickets input store) id now

/-- A successful fetch keeps the report in the dictionary of its turn, and
leaves the tickets alone. -/
theorem fetchBspStatement_ok {statement : String → Except Exn Statement} {extensions after : Extensions}
    {output : FetchedStatement} (h : fetchBspStatement statement extensions=.ok (output,after)) :
    ∃ cache report,cachedReports extensions=.ok cache ∧
      cachedReports after=.ok (set cache output.reportId report) ∧
        ticketsStore after=ticketsStore extensions := by
  obtain ⟨registry,-,h⟩ := bind_ok.mp h
  obtain ⟨report,-,h⟩ := bind_ok.mp h
  obtain ⟨cache,hcache,h⟩ := bind_ok.mp h
  cases h
  refine ⟨cache,report,hcache,?_,?_⟩
  · simp [cachedReports,Statement.fetched]
  · simp [ticketsStore,ticketsStoreKey,bspReportsCacheKey]

/-- The tool finds exactly the reports of the dictionary it is given. -/
theorem reconcileBsp_found {reprStr : String → String} {id : EntityId} {now : Time}
    {input : ReconcileInput} {extensions : Extensions} {output : ReconcileOutput}
    (h : reconcileBsp reprStr id now input extensions=.ok output) :
    ∃ cache,cachedReports extensions=.ok cache ∧
      output.found=(get cache input.reportId).isSome := by
  obtain ⟨cache,hcache,h⟩ := bind_ok.mp h
  refine ⟨cache,hcache,?_⟩
  cases hget : get cache input.reportId with
  | none =>
    rw [hget] at h
    cases h
    rfl
  | some report =>
    rw [hget] at h
    obtain ⟨store,-,h⟩ := bind_ok.mp h
    cases h
    rfl

/-! ## Turns -/

/-- The part of `ToolContext` that the tools of a turn share. -/
structure TurnContext where
  tenantId : EntityId
  sessionId : EntityId
  extensions : Extensions

/-- What the tools answered. -/
inductive Event where
  /-- A statement came back under a report id. -/
  | fetched (tenantId sessionId : EntityId) (turnId : String) (reportId : EntityId)
  /-- A report was looked up, and found or not. -/
  | reconciled (tenantId sessionId : EntityId) (turnId : String) (reportId : String) (found : Bool)
  deriving DecidableEq

/-- The turns begun so far, by their id, and the answers in order. -/
structure World where
  turns : String → Option TurnContext
  log : List Event

def World.idle : World := ⟨fun _ => none,[]⟩

inductive Action where
  /-- `run_turn` builds the context of a turn. -/
  | begin (turnId : String) (tenantId sessionId : EntityId) (services : Services)
  | fetch (turnId : String) (statement : String → Except Exn Statement)
  | reconcile (turnId : String) (id : EntityId) (now : Time) (input : ReconcileInput)

/-- A report of this id came back before. -/
def World.minted (w : World) (reportId : EntityId) : Bool :=
  w.log.any fun
    | .fetched _ _ _ id => decide (id=reportId)
    | .reconciled _ _ _ _ _ => false

/-- One step of the turns of all sessions. Turn ids and report ids are new when
they are minted; a tool that raises changes nothing. -/
def step (reprStr : String → String) (w : World) : Action → Option World
  | .begin turnId tenantId sessionId services =>
    match w.turns turnId with
    | some _ => none
    | none =>
      let ctx := ⟨tenantId,sessionId,turnExtensions services⟩
      some {w with turns := Function.update w.turns turnId (some ctx)}
  | .fetch turnId statement =>
    match w.turns turnId with
    | none => none
    | some ctx =>
      match fetchBspStatement statement ctx.extensions with
      | .error _ => some w
      | .ok (output,extensions) =>
        if w.minted output.reportId then none
        else some {
          turns := Function.update w.turns turnId (some {ctx with extensions})
          log := w.log++[.fetched ctx.tenantId ctx.sessionId turnId output.reportId]}
  | .reconcile turnId id now input =>
    match w.turns turnId with
    | none => none
    | some ctx =>
      match reconcileBsp reprStr id now input ctx.extensions with
      | .error _ => some w
      | .ok output => some {w with
          log := w.log++[.reconciled ctx.tenantId ctx.sessionId turnId input.reportId output.found]}

def Step (reprStr : String → String) : World → Action → World → Prop := ofPartial (step reprStr)

/-- A report that came back is found later in its session, and not found from
another tenant's. -/
def StaysReconcilable (e f : Event) : Prop :=
  ∀ tenantId sessionId turnId reportId,e=.fetched tenantId sessionId turnId reportId →
    ∀ tenantId' sessionId' turnId' found,f=.reconciled tenantId' sessionId' turnId' reportId found →
      (tenantId'=tenantId → sessionId'=sessionId → found=true) ∧
        (tenantId'≠tenantId → found=false)

/-- A report that the session was given is looked up in the turn that fetched it. -/
def SameTurn (w : World) : Action → Prop
  | .reconcile turnId _ _ input => ∀ ctx∈w.turns turnId,∀ e∈w.log,∀ turnId',
      e=.fetched ctx.tenantId ctx.sessionId turnId' input.reportId → turnId'=turnId
  | _ => True

variable {reprStr : String → String} {w w' : World} {a : Action}

/-! ## What the log says about the turns -/

/-- The turn holds exactly the reports that came back in it, and no ticket. -/
structure Holds (log : List Event) (turnId : String) (ctx : TurnContext) : Prop where
  cached : ∃ cache,cachedReports ctx.extensions=.ok cache ∧
    ∀ id,(get cache id).isSome ↔ Event.fetched ctx.tenantId ctx.sessionId turnId id∈log
  untouched : ticketsStore ctx.extensions=.ok []

/-- Each turn holds what it fetched, and a report id came back once. -/
structure Facts (w : World) : Prop where
  turns : ∀ turnId,∀ ctx∈w.turns turnId,Holds w.log turnId ctx
  begun : ∀ tenantId sessionId turnId id,Event.fetched tenantId sessionId turnId id∈w.log →
    ∃ ctx,w.turns turnId=some ctx ∧ ctx.tenantId=tenantId ∧ ctx.sessionId=sessionId
  once : ∀ tenantId sessionId turnId tenantId' sessionId' turnId' id,
    Event.fetched tenantId sessionId turnId id∈w.log →
      Event.fetched tenantId' sessionId' turnId' id∈w.log →
        tenantId'=tenantId ∧ sessionId'=sessionId ∧ turnId'=turnId

theorem facts_idle : Facts World.idle where
  turns _ _ h := by cases h
  begun _ _ _ _ h := by cases h
  once _ _ _ _ _ _ _ h := by cases h

theorem minted_iff {id : EntityId} : w.minted id=true ↔
    ∃ tenantId sessionId turnId,Event.fetched tenantId sessionId turnId id∈w.log := by
  unfold World.minted
  rw [List.any_eq_true]
  constructor
  · rintro ⟨e,he,hid⟩
    cases e with
    | fetched tenantId sessionId turnId id' =>
      cases of_decide_eq_true hid
      exact ⟨tenantId,sessionId,turnId,he⟩
    | reconciled => cases hid
  · rintro ⟨tenantId,sessionId,turnId,he⟩
    exact ⟨_,he,decide_eq_true rfl⟩

/-- What one step does, by its outcome. -/
inductive Moves (reprStr : String → String) (w : World) : Action → World → Prop
  | begin {turnId : String} {tenantId sessionId : EntityId} {services : Services}
    (hfree : w.turns turnId=none) :
    Moves reprStr w (.begin turnId tenantId sessionId services) {w with
      turns := Function.update w.turns turnId (some ⟨tenantId,sessionId,turnExtensions services⟩)}
  | fetch {turnId : String} {statement : String → Except Exn Statement} {ctx : TurnContext}
    {output : FetchedStatement} {extensions : Extensions} (hctx : w.turns turnId=some ctx)
    (hfetch : fetchBspStatement statement ctx.extensions=.ok (output,extensions))
    (hnew : w.minted output.reportId=false) :
    Moves reprStr w (.fetch turnId statement) {
      turns := Function.update w.turns turnId (some {ctx with extensions})
      log := w.log++[.fetched ctx.tenantId ctx.sessionId turnId output.reportId]}
  | reconcile {turnId : String} {id : EntityId} {now : Time} {input : ReconcileInput}
    {ctx : TurnContext} {output : ReconcileOutput} (hctx : w.turns turnId=some ctx)
    (hreconcile : reconcileBsp reprStr id now input ctx.extensions=.ok output) :
    Moves reprStr w (.reconcile turnId id now input) {w with
      log := w.log++[.reconciled ctx.tenantId ctx.sessionId turnId input.reportId output.found]}
  | fetchRaised {turnId : String} {statement : String → Except Exn Statement} :
    Moves reprStr w (.fetch turnId statement) w
  | reconcileRaised {turnId : String} {id : EntityId} {now : Time} {input : ReconcileInput}
    {ctx : TurnContext} {e : Exn} (hctx : w.turns turnId=some ctx)
    (he : reconcileBsp reprStr id now input ctx.extensions=.error e) :
    Moves reprStr w (.reconcile turnId id now input) w

theorem step_moves (hs : Step reprStr w a w') : Moves reprStr w a w' := by
  unfold Step ofPartial step at hs
  cases a with
  | begin turnId tenantId sessionId services =>
    dsimp only at hs
    split at hs <;> cases hs
    rename_i hfree
    exact .begin hfree
  | fetch turnId statement =>
    dsimp only at hs
    split at hs
    · cases hs
    · rename_i ctx hctx
      split at hs
      · cases hs
        exact .fetchRaised
      · rename_i output extensions hfetch
        split at hs <;> cases hs
        rename_i hnew
        exact .fetch hctx hfetch (Bool.eq_false_iff.mpr hnew)
  | reconcile turnId id now input =>
    dsimp only at hs
    split at hs
    · cases hs
    · rename_i ctx hctx
      split at hs <;> cases hs
      · rename_i e he
        exact .reconcileRaised hctx he
      · rename_i output hreconcile
        exact .reconcile hctx hreconcile

/-- A new turn starts empty. -/
theorem Facts.begin (h : Facts w) {turnId : String} (hfree : w.turns turnId=none)
    (tenantId sessionId : EntityId) (services : Services) :
    Facts {w with
      turns := Function.update w.turns turnId
        (some ⟨tenantId,sessionId,turnExtensions services⟩)} := by
  have hsilent : ∀ id,Event.fetched tenantId sessionId turnId id∉w.log := by
    intro id hmem
    obtain ⟨ctx,hctx,-,-⟩ := h.begun _ _ _ _ hmem
    rw [hfree] at hctx
    cases hctx
  have hreports := get_turnExtensions services bspReportsCacheKey (by simp)
  have htickets := get_turnExtensions services ticketsStoreKey (by simp)
  refine ⟨?_,fun tenant session turn id hmem => ?_,h.once⟩
  · refine (Function.forall_update_iff _ fun turn o => ∀ ctx∈o,Holds w.log turn ctx).mpr
      ⟨fun ctx hctx => ?_,fun turn _ => h.turns turn⟩
    cases hctx
    exact ⟨⟨[],by simp [cachedReports,hreports],by simpa using hsilent⟩,by simp [ticketsStore,htickets]⟩
  · obtain ⟨ctx,hctx,hsame⟩ := h.begun tenant session turn id hmem
    have hne : turn≠turnId := by
      rintro rfl
      rw [hfree] at hctx
      cases hctx
    exact ⟨ctx,(Function.update_of_ne hne _ _).trans hctx,hsame⟩

/-- What a turn holds depends on the fetches of the turn alone. -/
theorem Holds.congr {log log' : List Event} {turnId : String} {ctx : TurnContext}
    (h : Holds log turnId ctx)
    (hsame : ∀ id,Event.fetched ctx.tenantId ctx.sessionId turnId id∈log' ↔
      Event.fetched ctx.tenantId ctx.sessionId turnId id∈log) : Holds log' turnId ctx := by
  obtain ⟨cache,hcache,hheld⟩ := h.cached
  exact ⟨⟨cache,hcache,fun id => (hheld id).trans (hsame id).symm⟩,h.untouched⟩

/-- The turn of a successful fetch holds one report more. -/
theorem Facts.fetch (h : Facts w) {turnId : String} {statement : String → Except Exn Statement}
    {ctx : TurnContext} {output : FetchedStatement} {extensions : Extensions}
    (hctx : w.turns turnId=some ctx)
    (hfetch : fetchBspStatement statement ctx.extensions=.ok (output,extensions))
    (hnew : w.minted output.reportId=false) :
    Facts {
      turns := Function.update w.turns turnId (some {ctx with extensions})
      log := w.log++[.fetched ctx.tenantId ctx.sessionId turnId output.reportId]} := by
  have hfresh : ∀ tenantId sessionId turn,
      Event.fetched tenantId sessionId turn output.reportId∉w.log := by
    intro tenantId sessionId turn hmem
    have hminted := minted_iff.mpr ⟨tenantId,sessionId,turn,hmem⟩
    rw [hnew] at hminted
    cases hminted
  refine ⟨?_,fun tenantId sessionId turn id hmem => ?_,?_⟩
  · refine (Function.forall_update_iff _ fun turn o => ∀ ctx∈o,Holds _ turn ctx).mpr
      ⟨fun ctx' hctx' => ?_,fun turn hne ctx' hctx' => ?_⟩
    · cases hctx'
      obtain ⟨cache,report,hcache,hafter,htickets⟩ := fetchBspStatement_ok hfetch
      obtain ⟨cache',hcache',hheld⟩ := (h.turns turnId ctx hctx).cached
      cases hcache.symm.trans hcache'
      refine ⟨⟨_,hafter,fun id => ?_⟩,htickets.trans (h.turns turnId ctx hctx).untouched⟩
      rw [get_set]
      by_cases hid : output.reportId=id
      · simp [hid]
      · simpa [hid,Ne.symm hid] using hheld id
    · refine (h.turns turn ctx' hctx').congr fun id => ?_
      simp [hne]
  · rcases List.mem_append.mp hmem with hold|hlast
    · obtain ⟨ctx',hctx',hsame⟩ := h.begun tenantId sessionId turn id hold
      by_cases hturn : turn=turnId
      · subst hturn
        cases hctx.symm.trans hctx'
        exact ⟨_,Function.update_self _ _ _,hsame⟩
      · exact ⟨ctx',(Function.update_of_ne hturn _ _).trans hctx',hsame⟩
    · cases List.mem_singleton.mp hlast
      exact ⟨_,Function.update_self _ _ _,rfl,rfl⟩
  · intro tenantId sessionId turn tenantId' sessionId' turn' id hmem hmem'
    rcases List.mem_append.mp hmem with hold|hlast <;>
      rcases List.mem_append.mp hmem' with hold'|hlast'
    · exact h.once _ _ _ _ _ _ _ hold hold'
    · cases List.mem_singleton.mp hlast'
      exact absurd hold (hfresh _ _ _)
    · cases List.mem_singleton.mp hlast
      exact absurd hold' (hfresh _ _ _)
    · cases List.mem_singleton.mp hlast
      cases List.mem_singleton.mp hlast'
      exact ⟨rfl,rfl,rfl⟩

/-- Looking a report up adds no fetch. -/
theorem Facts.reconcile (h : Facts w) (tenantId sessionId : EntityId) (turnId reportId : String)
    (found : Bool) :
    Facts {w with log := w.log++[.reconciled tenantId sessionId turnId reportId found]} := by
  have hsame : ∀ tenant session turn id,
      Event.fetched tenant session turn id∈w.log++
          [.reconciled tenantId sessionId turnId reportId found] ↔
        Event.fetched tenant session turn id∈w.log := by
    intro tenant session turn id
    simp
  refine ⟨fun turn ctx hctx => (h.turns turn ctx hctx).congr fun id => hsame _ _ _ id,
    fun tenant session turn id hmem => h.begun _ _ _ _ ((hsame _ _ _ _).mp hmem),?_⟩
  intro tenant session turn tenant' session' turn' id hmem hmem'
  exact h.once _ _ _ _ _ _ _ ((hsame _ _ _ _).mp hmem) ((hsame _ _ _ _).mp hmem')

theorem Facts.step (h : Facts w) (hs : Step reprStr w a w') : Facts w' := by
  cases step_moves hs with
  | begin hfree => exact h.begin hfree _ _ _
  | fetch hctx hfetch hnew => exact h.fetch hctx hfetch hnew
  | reconcile hctx hreconcile => exact h.reconcile _ _ _ _ _
  | fetchRaised => exact h
  | reconcileRaised hctx he => exact h

/-- The tool does not raise, and it finds what its own turn fetched. -/
theorem Facts.found (reprStr : String → String) (h : Facts w) {turnId : String} {ctx : TurnContext}
    (hctx : w.turns turnId=some ctx) (id : EntityId) (now : Time) (input : ReconcileInput) :
    ∃ output,reconcileBsp reprStr id now input ctx.extensions=.ok output ∧
      (output.found=true ↔
        Event.fetched ctx.tenantId ctx.sessionId turnId input.reportId∈w.log) := by
  obtain ⟨⟨cache,hcache,hheld⟩,htickets⟩ := h.turns turnId ctx hctx
  have hrun : ∃ output,reconcileBsp reprStr id now input ctx.extensions=.ok output := by
    cases hget : get cache input.reportId with
    | none => exact ⟨_,bind_ok.mpr ⟨cache,hcache,by rw [hget]; rfl⟩⟩
    | some report =>
      refine ⟨reconcileReport report (selectedTickets input []) id now,
        bind_ok.mpr ⟨cache,hcache,?_⟩⟩
      rw [hget]
      exact bind_ok.mpr ⟨[],htickets,rfl⟩
  obtain ⟨output,houtput⟩ := hrun
  obtain ⟨cache',hcache',hfound⟩ := reconcileBsp_found houtput
  cases hcache.symm.trans hcache'
  exact ⟨output,houtput,by rw [hfound,hheld]⟩

/-! ## Lookups in later turns -/

theorem pairwise_snoc {log : List Event} {f : Event} :
    (log++[f]).Pairwise StaysReconcilable ↔
      log.Pairwise StaysReconcilable ∧ ∀ e∈log,StaysReconcilable e f := by
  simp [List.pairwise_append]

theorem reconcilable_back (hs : Step reprStr w a w') (h : w'.log.Pairwise StaysReconcilable) :
    w.log.Pairwise StaysReconcilable := by
  cases step_moves hs with
  | begin | fetchRaised | reconcileRaised => exact h
  | fetch | reconcile => exact (pairwise_snoc.mp h).1

/-- A lookup keeps the promise if and only if the session's fetch of the report
was made in the same turn. -/
theorem reconcilable_iff_sameTurn (hfacts : Facts w) (h : w.log.Pairwise StaysReconcilable)
    (hs : Step reprStr w a w') : w'.log.Pairwise StaysReconcilable ↔ SameTurn w a := by
  cases step_moves hs with
  | begin | fetchRaised => exact iff_of_true h trivial
  | fetch =>
    refine iff_of_true (pairwise_snoc.mpr ⟨h,fun e _ => ?_⟩) trivial
    intro tenantId sessionId turnId reportId _ tenantId' sessionId' turnId' found hf
    cases hf
  | @reconcileRaised turnId id now input ctx e hctx he =>
    obtain ⟨output,houtput,-⟩ := hfacts.found reprStr hctx id now input
    rw [he] at houtput
    cases houtput
  | @reconcile turnId id now input ctx output hctx hreconcile =>
    obtain ⟨output',houtput',hfound⟩ := hfacts.found reprStr hctx id now input
    cases hreconcile.symm.trans houtput'
    rw [pairwise_snoc,and_iff_right h]
    constructor
    · intro hlast ctx' hctx' e he turnId' hfetch
      cases hctx.symm.trans hctx'
      have hnow := (hlast e he _ _ _ _ hfetch _ _ _ _ rfl).1 rfl rfl
      have hhere := hfound.mp hnow
      exact ((hfacts.once _ _ _ _ _ _ _ hhere (hfetch ▸ he)).2.2)
    · rintro hsame e he tenantId sessionId turnId' reportId rfl _ _ _ found hf
      cases hf
      refine ⟨?_,fun htenant => ?_⟩
      · rintro rfl rfl
        have hturn := hsame ctx hctx _ he turnId' rfl
        exact hfound.mpr (hturn ▸ he)
      · refine Bool.eq_false_iff.mpr fun hnow => htenant ?_
        exact (hfacts.once _ _ _ _ _ _ _ he (hfound.mp hnow)).1

/-- A report that came back is not found from another tenant's session. -/
def StaysApart (e f : Event) : Prop :=
  ∀ tenantId sessionId turnId reportId,e=.fetched tenantId sessionId turnId reportId →
    ∀ tenantId' sessionId' turnId',f=.reconciled tenantId' sessionId' turnId' reportId true →
      tenantId'=tenantId

/-- No tenant finds another tenant's report, whatever the order of turns. -/
theorem reports_stay_apart {acts : List Action} (hrun : Run (Step reprStr) World.idle acts w) :
    w.log.Pairwise StaysApart := by
  have hboth : Facts w ∧ w.log.Pairwise StaysApart := by
    refine hrun.invariant (I:=fun w => Facts w ∧ w.log.Pairwise StaysApart)
      ⟨facts_idle,.nil⟩ fun a l b h hs => ⟨h.1.step hs,?_⟩
    have hsnoc : ∀ f,(∀ e∈a.log,StaysApart e f) → (a.log++[f]).Pairwise StaysApart := by
      intro f hf
      simpa [List.pairwise_append] using And.intro h.2 hf
    cases step_moves hs with
    | begin | fetchRaised | reconcileRaised => exact h.2
    | fetch =>
      exact hsnoc _ fun e _ tenantId sessionId turnId reportId _ _ _ _ hlooked => nomatch hlooked
    | @reconcile turnId id now input ctx output hctx hreconcile =>
      obtain ⟨output',houtput',hfound⟩ := h.1.found reprStr hctx id now input
      cases hreconcile.symm.trans houtput'
      refine hsnoc _ fun e he tenantId sessionId turnId' reportId hfetched _ _ _ hlooked => ?_
      injection hlooked with htenant _ _ hid hnow
      subst hid
      rw [← htenant]
      exact (h.1.once _ _ _ _ _ _ _ (hfetched ▸ he) (hfound.mp hnow)).1
  exact hboth.2

/-- In every run of the turns of all sessions, the reports a session was given
stay reconcilable, and out of reach of other tenants, if and only if each is
looked up in the turn that fetched it. -/
theorem reports_reconcilable_iff (reprStr : String → String) {acts : List Action}
    (hrun : Run (Step reprStr) World.idle acts w) :
    w.log.Pairwise StaysReconcilable ↔
      Run (guarded (Step reprStr) SameTurn) World.idle acts w := by
  refine hrun.holds_iff_guarded (J:=Facts) (P:=fun w => w.log.Pairwise StaysReconcilable)
    (deterministic_ofPartial _) facts_idle (fun a l b h hs => h.step hs) .nil
    (fun a l b hs h => reconcilable_back hs h) fun a l b hfacts h hs => ?_
  exact reconcilable_iff_sameTurn hfacts h hs

/-! ## A statement for March -/

theorem inr_code : HafMapping.isCurrencyCode "INR"=true := by decide

def rupees (cents : Int) : Money := ⟨⟨cents,-2⟩,⟨"INR",inr_code⟩⟩

def march : Statement where
  tenantId := "agency"
  period := ⟨⟨2025,3,1,by decide⟩,⟨2025,4,1,by decide⟩,by decide⟩
  transactions := []
  id := "report-1"
  country := "IN"
  salesTotal := rupees 1250000
  refundTotal := rupees 0
  commissionTotal := rupees 12500
  netRemittance := rupees 1237500
  sourceRef := "HAF_14300001_20250301_20250331"

example : march.fetched.salesTotal="INR 12,500.00" := by decide +kernel

/-- The services of a deployed runtime. -/
def deployed : Services := ⟨true,true,true,false,true⟩

/-- A session fetches the statement in its first turn and looks it up in the
turn `later`. -/
def lookedUpIn (later : String) : List Action :=
  [.begin "turn-1" "agency" "desk" deployed,.begin "turn-2" "agency" "desk" deployed,
    .fetch "turn-1" fun _ => .ok march,.reconcile later "rec-1" 0 ⟨"report-1",none⟩]

theorem lookedUpIn_run (later : String) (found : Bool)
    (h : ((lookedUpIn later).foldlM (step id) World.idle).map World.log=
      some [.fetched "agency" "desk" "turn-1" "report-1",
        .reconciled "agency" "desk" later "report-1" found]) :
    ∃ w,Run (Step id) World.idle (lookedUpIn later) w ∧
      w.log=[.fetched "agency" "desk" "turn-1" "report-1",
        .reconciled "agency" "desk" later "report-1" found] := by
  obtain ⟨w,hw,hlog⟩ := Option.map_eq_some_iff.mp h
  exact ⟨w,run_of_foldlM hw,hlog⟩

theorem reports_stay_apart_march :
    ∃ w,Run (Step id) World.idle (lookedUpIn "turn-1") w ∧ w.log.Pairwise StaysApart := by
  obtain ⟨w,hrun,-⟩ := lookedUpIn_run "turn-1" true (by decide +kernel)
  exact ⟨w,hrun,reports_stay_apart hrun⟩

theorem reports_reconcilable_iff_march :
    ∃ w,Run (guarded (Step id) SameTurn) World.idle (lookedUpIn "turn-1") w ∧
      w.log.getLast?=some (.reconciled "agency" "desk" "turn-1" "report-1" true) := by
  obtain ⟨w,hrun,hlog⟩ := lookedUpIn_run "turn-1" true (by decide +kernel)
  have hkept : w.log.Pairwise StaysReconcilable := by
    rw [hlog]
    refine List.pairwise_pair.mpr fun tenantId sessionId turnId reportId hfetched
      tenantId' sessionId' turnId' found hlooked => ?_
    cases hfetched
    cases hlooked
    exact ⟨fun _ _ => rfl,fun hother => absurd rfl hother⟩
  exact ⟨w,(reports_reconcilable_iff id hrun).mp hkept,by rw [hlog]; rfl⟩

/-- The report of one turn is not found in the next turn of its session. -/
theorem march_not_found_later :
    ∃ w,Run (Step id) World.idle (lookedUpIn "turn-2") w ∧
      ¬w.log.Pairwise StaysReconcilable := by
  obtain ⟨w,hrun,hlog⟩ := lookedUpIn_run "turn-2" false (by decide +kernel)
  refine ⟨w,hrun,?_⟩
  rw [hlog]
  simp [StaysReconcilable]

end Voyagent.BspReports
