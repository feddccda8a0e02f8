import Mathlib.Data.List.Infix
import Voyagent.BrowserJobs

/-!
# The worker's treatment of one job

`Worker.process_one` with its setup, execution, classification and
publication, against every behaviour of the credential resolver, the page
pool, the page, the artifact sink and the clock. The queue's operations
succeed; the Redis queue serialises what it stores, the in-memory one does not.
-/

namespace Voyagent.JobWorker

open GeneratorTraces RuntimeValues BrowserJobs

/-- The two queues. -/
inductive Backend where
  | inMemory
  | redis
  deriving DecidableEq

/-- What the workers of one deployment share. -/
structure WorkerConfig where
  backend : Backend
  registry : Registry
  retryLimit : Nat

/-- How everything outside the worker behaves during one job. -/
structure Behaviour where
  /-- Clock when the deadline is checked. -/
  now : Time
  /-- The credential resolver. -/
  resolveCreds : String → Except Exn (Option Credentials)
  /-- Raised while the pool hands out a page. -/
  acquire : EntityId → String → Option Exn
  page : Page
  /-- Raised while the pool takes the page back. -/
  release : Option Exn
  /-- Raised by the failure screenshot and by the snapshot of the page. -/
  screenshot : Option Exn
  content : Option Exn
  /-- The artifact sink: folder and file name to a URI. -/
  put : String → String → Except Exn String
  durationMs : Int
  completedAt : Time

/-- A `TimeoutError` of Python itself. Classes of one name are told apart by
their bases, listed with their modules. -/
def timeoutError (text : String) : Exn :=
  ⟨"TimeoutError",["builtins.TimeoutError","builtins.OSError"],text,none⟩

/-- `_looks_transient`. -/
def looksTransient (e : Exn) : Bool :=
  e.isInstance "builtins.TimeoutError" || e.isInstance "builtins.ConnectionError" ||
    ["timeout","network","temporar"].any fun k => decide (k.toList<:+:e.typeName.toLower.toList)

/-- `steps.capture_failure`: the URIs of what could be taken and stored. -/
def captureFailure (b : Behaviour) (job : Job) (failure : Exn) : List String :=
  let folder := job.tenantId++"/"++job.id
  let label := "failure-"++failure.typeName.toLower
  let stored := fun (taken : Option Exn) (file : String) =>
    match taken,b.put folder file with
    | none,.ok uri => [uri]
    | _,_ => []
  stored b.screenshot (label++".png")++stored b.content (label++".html")

/-- `await asyncio.wait_for(handler(ctx), ...)` with its two handlers. A
timeout raised inside the handler is taken for the job's own. -/
def awaited : Except Halt Outputs → Except Exn Outputs
  | .ok outputs => .ok outputs
  | .error .cancelled => .error (timeoutError "job_timeout_exceeded")
  | .error (.raised e) =>
    .error (if e.isInstance "builtins.TimeoutError" then timeoutError "job_timeout_exceeded" else e)

/-- What the execution phase leaves. -/
structure Execution where
  /-- The outputs, or `failure`. -/
  outcome : Except Exn Outputs
  artifactUris : List String
  /-- Operations the page carried out. -/
  performed : List PageOp
  /-- Whether the handler was called. -/
  called : Bool

/-- The `async with self._pool.acquire(...)` block. An exception of the pool,
also one after the handler returned, replaces the outcome. -/
def execute (handler : HandlerFn) (job : Job) (credentials : Option Credentials) (b : Behaviour) :
    Execution :=
  match b.acquire job.tenantId (namespaceFor job.kind) with
  | some e => ⟨.error e,[],[],false⟩
  | none =>
    let run := handler ⟨job,b.page,credentials,job.tenantId⟩ 0
    let uris :=
      match awaited run.exit with
      | .ok _ => []
      | .error failure => captureFailure b job failure
    match b.release with
    | some e => ⟨.error e,uris,run.events,true⟩
    | none => ⟨awaited run.exit,uris,run.events,true⟩

/-- Writes to the queue. -/
inductive QueueWrite where
  | enqueue (job : Job)
  | putResult (r : JobResult)
  deriving DecidableEq

/-- What one call of `process_one` did. -/
structure Served where
  writes : List QueueWrite
  /-- The returned result, or the exception that escapes. -/
  returned : Except Exn JobResult
  performed : List PageOp
  called : Bool

/-- Raised when a result has no JSON rendering. -/
def serializationError : Exn :=
  ⟨"PydanticSerializationError",["builtins.ValueError"],"Unable to serialize unknown type",none⟩

/-- Outputs the queue can store. -/
def Storable (backend : Backend) (outputs : Option Outputs) : Prop :=
  backend=.redis → ∀ o∈outputs,Renderable o

instance (backend : Backend) (outputs : Option Outputs) : Decidable (Storable backend outputs) :=
  inferInstanceAs (Decidable (_ → _))

/-- Build a result, store it and return it. -/
def publish (backend : Backend) (r : JobResult) : Served :=
  if Storable backend r.validated.outputs then ⟨[.putResult r.validated],.ok r.validated,[],false⟩
  else ⟨[],.error serializationError,[],false⟩

/-- The same job, tried once more. -/
def retryJob (job : Job) : Job := { job with attempts := job.attempts+1 }

/-- `_handle_failure`. -/
def handleFailure (cfg : WorkerConfig) (job : Job) (failure : Exn) (b : Behaviour)
    (transient : Bool) (artifactUris : List String) : Served :=
  if transient && decide (job.attempts<cfg.retryLimit) then
    ⟨[.enqueue (retryJob job)],
      .ok (JobResult.validated
        ⟨job.id,.queued,none,"transient_retry: "++failure.text,artifactUris,b.durationMs,none⟩),
      [],false⟩
  else publish cfg.backend
    ⟨job.id,.failed,none,failure.describe,artifactUris,b.durationMs,b.completedAt⟩

/-- Classification and publication of an execution. -/
def settle (cfg : WorkerConfig) (job : Job) (b : Behaviour) (x : Execution) : Served :=
  match x.outcome with
  | .error failure => handleFailure cfg job failure b (looksTransient failure) x.artifactUris
  | .ok outputs =>
    publish cfg.backend ⟨job.id,.succeeded,outputs,none,[],b.durationMs,b.completedAt⟩

/-- `str` of the `KeyError` that `get_handler` raises. -/
def noHandlerText (kind : JobKind) : String :=
  "\"no handler registered for job kind <JobKind."++kind.name++": '"++kind.value++"'>\""

/-- `process_one`. Only the execution stands inside a `try`: the deadline
check, the credential resolver and the publication do not. -/
def processOne (cfg : WorkerConfig) (job : Job) (b : Behaviour) : Served :=
  match job.isExpired b.now with
  | .error e => ⟨[],.error e,[],false⟩
  | .ok true =>
    publish cfg.backend ⟨job.id,.failed,none,"deadline_exceeded",[],0,b.completedAt⟩
  | .ok false =>
    match cfg.registry job.kind with
    | none =>
      publish cfg.backend ⟨job.id,.failed,none,"no_handler: "++noHandlerText job.kind,[],
        b.durationMs,b.completedAt⟩
    | some handler =>
      match b.resolveCreds job.tenantCredentialsRef with
      | .error e => ⟨[],.error e,[],false⟩
      | .ok credentials =>
        let x := execute handler job credentials b
        { settle cfg job b x with performed := x.performed, called := x.called }

/-- One terminal result for the job, and nothing else, was written. -/
def Settled (job : Job) (r : Served) : Prop :=
  ∃ result,r.writes=[.putResult result] ∧ result.jobId=job.id ∧ result.status.isTerminal=true ∧
    r.returned=.ok result

/-- The job was put back once with one more attempt, and nothing else written. -/
def Requeued (job : Job) (r : Served) : Prop :=
  r.writes=[.enqueue (retryJob job)] ∧ ∃ result,r.returned=.ok result

/-- An exception escaped before anything was written. -/
def Dropped (r : Served) : Prop := r.writes=[] ∧ ∃ e,r.returned=.error e

variable {cfg : WorkerConfig} {job : Job} {b : Behaviour}

/-- What the execution phase comes to when it is reached. -/
structure Executes (cfg : WorkerConfig) (job : Job) (b : Behaviour) (x : Execution) : Prop where
  live : job.isExpired b.now=.ok false
  run : ∃ handler credentials,cfg.registry job.kind=some handler ∧
    b.resolveCreds job.tenantCredentialsRef=.ok credentials ∧ x=execute handler job credentials b

/-- A result without outputs can always be stored. -/
theorem publish_without_outputs {r : JobResult} (hid : r.jobId=job.id)
    (hterm : r.status.isTerminal=true) (hnone : r.outputs=none) :
    Settled job (publish cfg.backend r) := by
  have hstore : Storable cfg.backend r.validated.outputs := by
    intro _ o ho
    rw [JobResult.validated,hnone] at ho
    cases ho
  rw [publish,if_pos hstore]
  exact ⟨r.validated,rfl,hid,hterm,rfl⟩

/-- Where one call of `process_one` ends, with what it did. -/
inductive Phase (cfg : WorkerConfig) (job : Job) (b : Behaviour) : Served → Prop
  | incomparable {e : Exn} (h : job.isExpired b.now=.error e) : Phase cfg job b ⟨[],.error e,[],false⟩
  | expired (h : job.isExpired b.now=.ok true) : Phase cfg job b
      (publish cfg.backend ⟨job.id,.failed,none,"deadline_exceeded",[],0,b.completedAt⟩)
  | unregistered (h : job.isExpired b.now=.ok false) (hnone : cfg.registry job.kind=none) :
      Phase cfg job b (publish cfg.backend ⟨job.id,.failed,none,
        "no_handler: "++noHandlerText job.kind,[],b.durationMs,b.completedAt⟩)
  | unresolved {handler : HandlerFn} {e : Exn} (h : job.isExpired b.now=.ok false)
      (hreg : cfg.registry job.kind=some handler)
      (hcreds : b.resolveCreds job.tenantCredentialsRef=.error e) :
      Phase cfg job b ⟨[],.error e,[],false⟩
  | executed {x : Execution} (h : Executes cfg job b x) :
      Phase cfg job b { settle cfg job b x with performed := x.performed, called := x.called }

theorem processOne_phase (cfg : WorkerConfig) (job : Job) (b : Behaviour) :
    Phase cfg job b (processOne cfg job b) := by
  unfold processOne
  cases hexp : job.isExpired b.now with
  | error e => exact .incomparable hexp
  | ok expired =>
    cases expired with
    | true => exact .expired hexp
    | false =>
      cases hreg : cfg.registry job.kind with
      | none => exact .unregistered hexp hreg
      | some handler =>
        cases hcreds : b.resolveCreds job.tenantCredentialsRef with
        | error e => exact .unresolved hexp hreg hcreds
        | ok credentials => exact .executed ⟨hexp,handler,credentials,hreg,hcreds,rfl⟩

/-- The execution phase is a function of what surrounds it. -/
theorem Executes.unique {x y : Execution} (h : Executes cfg job b x) (h' : Executes cfg job b y) :
    x=y := by
  obtain ⟨handler,credentials,hreg,hcreds,rfl⟩ := h.run
  obtain ⟨handler',credentials',hreg',hcreds',rfl⟩ := h'.run
  cases hreg.symm.trans hreg'
  cases hcreds.symm.trans hcreds'
  rfl

/-- A failure that is tried again. -/
structure Retries (cfg : WorkerConfig) (job : Job) (x : Execution) : Prop where
  failed : ∃ failure,x.outcome=.error failure ∧ looksTransient failure=true
  left : job.attempts<cfg.retryLimit

/-- Outputs of the execution, if there are any, can be stored. -/
def Execution.Publishable (cfg : WorkerConfig) (x : Execution) : Prop :=
  ∀ outputs,x.outcome=.ok outputs → Storable cfg.backend (some (stripKeys outputs))

theorem settle_cases (x : Execution) :
    (x.Publishable cfg ∧ (Settled job (settle cfg job b x) ∨
      Requeued job (settle cfg job b x) ∧ Retries cfg job x)) ∨
    (¬x.Publishable cfg ∧ Dropped (settle cfg job b x)) := by
  unfold settle Execution.Publishable
  cases hout : x.outcome with
  | error failure =>
    refine .inl ⟨fun outputs h => (by cases h),?_⟩
    dsimp only
    unfold handleFailure
    split
    · rename_i hretry
      obtain ⟨htransient,hleft⟩ := (Bool.and_eq_true _ _).mp hretry
      exact .inr ⟨⟨rfl,_,rfl⟩,⟨failure,hout,htransient⟩,of_decide_eq_true hleft⟩
    · exact .inl (publish_without_outputs rfl rfl rfl)
  | ok outputs =>
    dsimp only
    unfold publish
    split
    · rename_i hstore
      exact .inl ⟨fun o ho => Except.ok.inj ho ▸ hstore,.inl ⟨_,rfl,rfl,rfl,rfl⟩⟩
    · rename_i hstore
      exact .inr ⟨fun h => hstore (h outputs rfl),rfl,_,rfl⟩

/-- Nothing outside the guarded part of `process_one` raises: the deadline can
be compared, the credential resolver returns when it is asked, and the queue
can store what a successful handler returned. -/
structure Clears (cfg : WorkerConfig) (job : Job) (b : Behaviour) : Prop where
  deadline : ∀ t,job.deadlineAt≠some (.naive t)
  credentials : job.isExpired b.now=.ok false → (cfg.registry job.kind).isSome →
    ∃ credentials,b.resolveCreds job.tenantCredentialsRef=.ok credentials
  outputs : ∀ x,Executes cfg job b x → x.Publishable cfg

theorem isExpired_error {e : Exn} {now : Time} (h : job.isExpired now=.error e) :
    ∃ t,job.deadlineAt=some (.naive t) := by
  unfold Job.isExpired at h
  split at h
  · cases h
  · cases h
  · rename_i t hd
    exact ⟨t,hd⟩

/-- A job that clears leaves one terminal result or is put back once; any
other job is dropped. -/
theorem processOne_cases (cfg : WorkerConfig) (job : Job) (b : Behaviour) :
    (Clears cfg job b ∧ (Settled job (processOne cfg job b) ∨
      Requeued job (processOne cfg job b) ∧ ∃ x,Executes cfg job b x ∧ Retries cfg job x)) ∨
    (¬Clears cfg job b ∧ Dropped (processOne cfg job b)) := by
  have hcomparable : ∀ {live : Bool},job.isExpired b.now=.ok live →
      ∀ t,job.deadlineAt≠some (.naive t) := by
    intro live h t hd
    rw [Job.isExpired,hd] at h
    cases h
  generalize hr : processOne cfg job b=r
  have hphase : Phase cfg job b r := hr ▸ processOne_phase cfg job b
  cases hphase with
  | incomparable h =>
    obtain ⟨t,hd⟩ := isExpired_error h
    exact .inr ⟨fun hc => hc.deadline t hd,rfl,_,rfl⟩
  | expired h =>
    refine .inl ⟨⟨hcomparable h,fun hlive => ?_,fun x hx => ?_⟩,
      .inl (publish_without_outputs rfl rfl rfl)⟩
    · cases h.symm.trans hlive
    · cases h.symm.trans hx.live
  | unregistered h hnone =>
    refine .inl ⟨⟨hcomparable h,fun _ hsome => ?_,fun x hx => ?_⟩,
      .inl (publish_without_outputs rfl rfl rfl)⟩
    · rw [hnone] at hsome
      cases hsome
    · obtain ⟨handler,_,hreg,_⟩ := hx.run
      cases hnone.symm.trans hreg
  | unresolved h hreg hcreds =>
    refine .inr ⟨fun hc => ?_,rfl,_,rfl⟩
    obtain ⟨credentials,hok⟩ := hc.credentials h (hreg ▸ rfl)
    cases hcreds.symm.trans hok
  | @executed x h =>
    have hcreds : ∃ credentials,b.resolveCreds job.tenantCredentialsRef=.ok credentials := by
      obtain ⟨_,credentials,_,hcreds,_⟩ := h.run
      exact ⟨credentials,hcreds⟩
    rcases settle_cases (b:=b) x with ⟨hpub,hs⟩|⟨hpub,hdropped⟩
    · refine .inl ⟨⟨hcomparable h.live,fun _ _ => hcreds,fun y hy => h.unique hy ▸ hpub⟩,?_⟩
      exact hs.imp_right fun hq => ⟨hq.1,x,h,hq.2⟩
    · exact .inr ⟨fun hc => hpub (hc.outputs x h),hdropped⟩

end Voyagent.JobWorker
