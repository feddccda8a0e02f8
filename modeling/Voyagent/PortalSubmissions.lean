import Voyagent.JobFleet
import Voyagent.PortalHandlers

/-!
# Submitting clicks of a portal job

How often the portal receives the submitting click of one job, over all its
attempts. One attempt clicks at most once, and an attempt that is not followed
by another cannot be followed by a second click; but the worker tries a
transient failure again whether or not the click had gone through.
-/

namespace Voyagent.PortalSubmissions

open KeyedMap GroupedSums TransitionRuns GeneratorRelations RuntimeValues BrowserJobs JobWorker
open JobFleet PortalHandlers

/-- A deployment whose workers use the registered handlers. -/
def portalConfig (backend : Backend) (lib : PortalLibrary) (overrides : Overrides)
    (retryLimit : Nat) : WorkerConfig := ⟨backend,builtins lib overrides,retryLimit⟩

/-- Submitting clicks the portal received during one call of `process_one`. -/
def clicksOf (e : Job × Served) : ℕ := e.2.performed.countP submits

/-- Submitting clicks the portal has received for a job. -/
def submittingClicks (s : Fleet) (id : EntityId) : ℕ := spent clicksOf s id

/-- No attempt is tried again once the portal has received its submitting click. -/
def NoResubmission (cfg : WorkerConfig) (s : Fleet) (a : Act) : Prop :=
  ∀ w b job,a=.finish w b → get s.held w=some job → isSubmitting job.kind=true →
    ∀ x,Executes cfg job b x → Retries cfg job x → ∀ op∈x.performed,submits op=false

variable {cfg : WorkerConfig} {job : Job} {b : Behaviour} {x : Execution}

theorem execute_atMost {p : PageOp → Bool} {n : ℕ} {handler : HandlerFn}
    (h : ∀ ctx,AtMost p n (handler ctx)) (credentials : Option Credentials) :
    (execute handler job credentials b).performed.countP p ≤ n := by
  unfold execute
  split
  · exact Nat.zero_le n
  · dsimp only
    split
    · exact h _ 0
    · exact h _ 0

theorem performed_of_executes (h : Executes cfg job b x) :
    (processOne cfg job b).performed=x.performed := by
  obtain ⟨handler,credentials,hreg,hcreds,rfl⟩ := h.run
  unfold processOne
  rw [h.live]
  dsimp only
  rw [hreg]
  dsimp only
  rw [hcreds]

/-- Operations are carried out in the execution phase only. -/
theorem performed_cases (cfg : WorkerConfig) (job : Job) (b : Behaviour) :
    (processOne cfg job b).performed=[] ∨
      ∃ x,Executes cfg job b x ∧ (processOne cfg job b).performed=x.performed := by
  have hpublish : ∀ r : JobResult,(publish cfg.backend r).performed=[] := by
    intro r
    unfold publish
    split <;> rfl
  generalize hr : processOne cfg job b=r
  have hphase : Phase cfg job b r := hr ▸ processOne_phase cfg job b
  cases hphase with
  | incomparable => exact .inl rfl
  | expired => exact .inl (hpublish _)
  | unregistered => exact .inl (hpublish _)
  | unresolved => exact .inl rfl
  | executed h => exact .inr ⟨_,h,rfl⟩

section

variable {backend : Backend} {lib : PortalLibrary} {overrides : Overrides} {retryLimit : Nat}

/-- One attempt delivers the submitting click at most once, and only for the
kinds that have one. -/
theorem executes_atMost (h : Executes (portalConfig backend lib overrides retryLimit) job b x) :
    x.performed.countP submits ≤ if isSubmitting job.kind then 1 else 0 := by
  obtain ⟨handler,credentials,hreg,-,rfl⟩ := h.run
  exact execute_atMost (builtins_atMost hreg) credentials

/-- A call of `process_one` clicks at most once, and not at all when the job is
tried again after it. -/
theorem clicks_pay {s : Fleet} {a : Act} {w : Nat}
    (hguard : NoResubmission (portalConfig backend lib overrides retryLimit) s a)
    (ha : a=.finish w b) (hheld : get s.held w=some job) :
    0+clicksOf (job,processOne (portalConfig backend lib overrides retryLimit) job b) ≤ 1 ∧
      ∀ job'∈requeued (processOne (portalConfig backend lib overrides retryLimit) job b),
        0+clicksOf (job,processOne (portalConfig backend lib overrides retryLimit) job b) ≤ 0 := by
  rw [Nat.zero_add]
  unfold clicksOf
  dsimp only
  constructor
  · rcases performed_cases (portalConfig backend lib overrides retryLimit) job b with
      hnone|⟨x,hx,hperf⟩
    · rw [hnone]
      exact Nat.zero_le 1
    · rw [hperf]
      have hone : (if isSubmitting job.kind then 1 else 0) ≤ 1 := by split <;> omega
      exact (executes_atMost hx).trans hone
  · intro job' hback
    obtain ⟨-,x,hx,hretry⟩ := mem_requeued hback
    rw [performed_of_executes hx]
    cases hkind : isSubmitting job.kind with
    | false =>
      have hquiet := executes_atMost hx
      rw [hkind] at hquiet
      exact hquiet
    | true =>
      refine Nat.le_zero.mpr (List.countP_eq_zero.mpr fun op hop => ?_)
      rw [hguard w b job ha hheld hkind x hx hretry op hop]
      exact Bool.false_ne_true

/-- Where no attempt is tried again after its click, the portal receives the
submitting click of a job at most once. -/
theorem submitted_at_most_once (backend : Backend) (lib : PortalLibrary) (overrides : Overrides)
    (retryLimit : Nat) {acts : List Act} {s : Fleet}
    (hrun : Run (guarded (ofPartial (step (portalConfig backend lib overrides retryLimit)))
      (NoResubmission (portalConfig backend lib overrides retryLimit))) idle acts s)
    (id : EntityId) : submittingClicks s id ≤ 1 := by
  have hinv := hrun.guarded_invariant
    (I:=fun s => Sound (portalConfig backend lib overrides retryLimit) s ∧
      Budget clicksOf (fun _ => 0) 1 s) ⟨sound_idle,budget_idle⟩ fun s a t hs h hguard =>
    have heffect := step_effect h
    ⟨heffect.sound hs.1,heffect.budget hs.1 hs.2 fun _ _ _ ha hheld _ => clicks_pay hguard ha hheld⟩
  exact hinv.2.every id

end

/-- Python on the values of one booking. -/
def deskLibrary : PortalLibrary :=
  { text := fun v => match v with
      | .str s => s
      | _ => ""
    dictOf := fun _ => .ok []
    setOf := fun _ => none
    fromIso := fun v =>
      if v=.str "2026-05-04T09:00:00+00:00" then .ok 1777885200
      else .error ⟨"ValueError",["builtins.ValueError"],"Invalid isoformat string",none⟩
    isoformat := fun _ => "2026-05-04T09:00:00+00:00"
    lower := String.toLower }

/-- Two retries, and no selector pack but the default. -/
def deskConfig : WorkerConfig := portalConfig .redis deskLibrary [] 2

/-- A booking for the morning of one day. -/
def bookingJob : Job :=
  ⟨"j1","t1",.vfsBookAppointment,
    [("preferred_window",.obj [("start",.str "2026-05-04T09:00:00+00:00")])],"vault/t1",0,none⟩

/-- A page that shows one free slot, with its reaction to the confirmation. -/
def slotPage (confirm : Reaction Unit) : Page := fun _ op =>
  match op with
  | .click button _ => if button="appointment_confirm" then confirm else .answered ()
  | .goto _ | .fill _ _ | .setInputFiles _ _ | .elementClick _ | .screenshot => .answered ()
  | .textContent _ | .elementText _ => .answered none
  | .elementAttribute _ _ => .answered (some "2026-05-04T09:00:00+00:00")
  | .querySelectorAll _ => .answered [1]
  | .elementQuery _ _ => .answered (some 2)
  | .putArtifact _ file => .answered file

/-- Everything works but, perhaps, the confirmation. -/
def deskBehaviour (confirm : Reaction Unit) : Behaviour :=
  { now := 0, resolveCreds := fun _ => .ok (some ⟨"desk","secret",[]⟩), acquire := fun _ _ => none
    page := slotPage confirm, release := none, screenshot := none, content := none
    put := fun _ file => .ok file, durationMs := 0, completedAt := 0 }

/-- Playwright's timeout, which is not Python's own. -/
def playwrightTimeout : Exn :=
  ⟨"TimeoutError",["playwright.Error"],"Timeout 10000ms exceeded.",none⟩

/-- One booking that goes through. -/
theorem submitted_at_most_once_booking :
    ∃ s,Run (guarded (ofPartial (step deskConfig)) (NoResubmission deskConfig)) idle
      [.submit bookingJob,.dequeue 0,.finish 0 (deskBehaviour (.answered ()))] s ∧
      submittingClicks s "j1" ≤ 1 := by
  have hbooked : (execute (handleVfsBookAppointment deskLibrary []) bookingJob
      (some ⟨"desk","secret",[]⟩) (deskBehaviour (.answered ()))).outcome.isOk=true := by
    decide +kernel
  have hsubmit : step deskConfig idle (.submit bookingJob)=some ⟨[bookingJob],[],["j1"],[],[]⟩ := rfl
  have hdequeue : step deskConfig ⟨[bookingJob],[],["j1"],[],[]⟩ (.dequeue 0)=
      some ⟨[],[(0,bookingJob)],["j1"],[],[]⟩ := rfl
  obtain ⟨t,hfinish⟩ : ∃ t,step deskConfig ⟨[],[(0,bookingJob)],["j1"],[],[]⟩
      (.finish 0 (deskBehaviour (.answered ())))=some t := ⟨_,rfl⟩
  have hquiet : ∀ s,NoResubmission deskConfig s (.submit bookingJob) ∧
      NoResubmission deskConfig s (.dequeue 0) :=
    fun s => ⟨fun w b job ha => (by cases ha),fun w b job ha => (by cases ha)⟩
  have hguard : NoResubmission deskConfig ⟨[],[(0,bookingJob)],["j1"],[],[]⟩
      (.finish 0 (deskBehaviour (.answered ()))) := by
    intro w b job ha hheld hkind x hx hretry
    cases ha
    cases hheld
    obtain ⟨failure,hfailed,-⟩ := hretry.failed
    obtain ⟨handler,credentials,hreg,hcreds,rfl⟩ := hx.run
    cases hreg
    cases hcreds
    rw [hfailed] at hbooked
    cases hbooked
  have hguarded : Run (guarded (ofPartial (step deskConfig)) (NoResubmission deskConfig)) idle
      [.submit bookingJob,.dequeue 0,.finish 0 (deskBehaviour (.answered ()))] t :=
    ((Run.start.next ⟨hsubmit,(hquiet _).1⟩).next ⟨hdequeue,(hquiet _).2⟩).next ⟨hfinish,hguard⟩
  exact ⟨t,hguarded,submitted_at_most_once .redis deskLibrary [] 2 hguarded "j1"⟩

/-- The portal confirms the slot but its answer times out: the worker tries the
job again and confirms another slot. -/
theorem timedOutConfirmation_booksTwice :
    ∃ s,Run (ofPartial (step deskConfig)) idle
      [.submit bookingJob,.dequeue 0,.finish 0 (deskBehaviour (.raised true playwrightTimeout)),
        .dequeue 0,.finish 0 (deskBehaviour (.answered ()))] s ∧ ¬submittingClicks s "j1" ≤ 1 := by
  have hclicks : ([Act.submit bookingJob,.dequeue 0,
      .finish 0 (deskBehaviour (.raised true playwrightTimeout)),.dequeue 0,
      .finish 0 (deskBehaviour (.answered ()))].foldlM (step deskConfig) idle).map
        (fun s => submittingClicks s "j1")=some 2 := by decide +kernel
  obtain ⟨s,hs,htwice⟩ := Option.map_eq_some_iff.mp hclicks
  exact ⟨s,run_of_foldlM hs,by omega⟩

end Voyagent.PortalSubmissions
