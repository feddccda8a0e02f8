import Voyagent.JobFleet

/-!
# No job is lost

Along every run whose calls of `process_one` raise nothing outside their
guarded part, each submitted job either waits in one place or has one terminal
result, its handler has been called at most once more than the retry limit, and
every worker's loop goes on. An exception of the credential resolver is one of
those that escape: it takes the job and the worker's loop with it.
-/

namespace Voyagent.JobConservation

open KeyedMap GroupedSums TransitionRuns RuntimeValues BrowserJobs JobWorker JobFleet

/-- A call of `process_one` that called the handler. -/
def handlerCall (e : Job × Served) : ℕ := if e.2.called then 1 else 0

/-- How often the handler has been called for a job. -/
def handlerCalls (s : Fleet) (id : EntityId) : ℕ := spent handlerCall s id

/-- What the service promises about the jobs it was given. -/
structure NoJobLost (cfg : WorkerConfig) (s : Fleet) : Prop where
  /-- Each call stored one terminal result or put the job back once. -/
  handled : ∀ e∈s.served,Settled e.1 e.2 ∨ Requeued e.1 e.2
  /-- No job waits twice, has two results, or waits with a result. -/
  distinct : (s.waiting.map Job.id++s.results.map JobResult.jobId).Nodup
  /-- Each submitted job waits or has its result, and nothing else does. -/
  conserved : (s.waiting.map Job.id++s.results.map JobResult.jobId).Perm s.accepted
  calls : ∀ id,handlerCalls s id ≤ cfg.retryLimit+1
  /-- No worker's loop has been left. -/
  serving : s.ended=[]

/-- The call that ends raises nothing outside its guarded part. -/
def AllClear (cfg : WorkerConfig) (s : Fleet) (a : Act) : Prop :=
  ∀ w b job,a=.finish w b → get s.held w=some job → Clears cfg job b

variable {cfg : WorkerConfig} {s t : Fleet} {a : Act} {job : Job} {b : Behaviour}

/-- The invariant of the runs that clear. -/
structure Kept (cfg : WorkerConfig) (s : Fleet) : Prop where
  sound : Sound cfg s
  budget : Budget handlerCall Job.attempts (cfg.retryLimit+1) s
  handled : ∀ e∈s.served,Settled e.1 e.2 ∨ Requeued e.1 e.2
  conserved : (s.waiting.map Job.id++s.results.map JobResult.jobId).Perm s.accepted
  serving : s.ended=[]

theorem Kept.noJobLost (h : Kept cfg s) : NoJobLost cfg s :=
  ⟨h.handled,h.conserved.nodup_iff.mpr h.sound.once,h.conserved,h.budget.every,h.serving⟩

theorem kept_idle : Kept cfg idle :=
  ⟨sound_idle,budget_idle,fun _ h => (List.not_mem_nil h).elim,List.Perm.nil,rfl⟩

/-- A call that clears settles the job or puts it back. -/
theorem outcome_of_clears (h : Clears cfg job b) :
    Settled job (processOne cfg job b) ∨ Requeued job (processOne cfg job b) := by
  rcases processOne_cases cfg job b with ⟨-,hs|⟨hq,-⟩⟩|⟨hnot,-⟩
  · exact .inl hs
  · exact .inr hq
  · exact absurd h hnot

/-- A call that returns has cleared. -/
theorem clears_of_returned {result : JobResult} (h : (processOne cfg job b).returned=.ok result) :
    Clears cfg job b := by
  rcases processOne_cases cfg job b with ⟨hclear,-⟩|⟨-,-,e,he⟩
  · exact hclear
  · cases h.symm.trans he

theorem results_snoc {e : Job × Served} (h : t.served=s.served++[e]) :
    t.results=s.results++stored e.2 := by
  rw [Fleet.results,h,List.flatMap_append,List.flatMap_singleton]
  rfl

/-- Ending a call keeps every job: its id moves to the results or back. -/
theorem finish_conserved {rest : List Job} {r : Served} (hr : Settled job r ∨ Requeued job r)
    (hs : (s.waiting.map Job.id++s.results.map JobResult.jobId).Perm s.accepted)
    (hbefore : s.waiting.Perm (job::rest)) (hwaiting : t.waiting.Perm (requeued r++rest))
    (haccepted : t.accepted=s.accepted) (hserved : t.served=s.served++[(job,r)]) :
    (t.waiting.map Job.id++t.results.map JobResult.jobId).Perm t.accepted := by
  rw [haccepted,results_snoc hserved,List.map_append]
  have hjobs := (hbefore.map Job.id).append_right (s.results.map JobResult.jobId)
  have hnow := (hwaiting.map Job.id).append_right
    (s.results.map JobResult.jobId++(stored r).map JobResult.jobId)
  refine hnow.trans (List.Perm.trans ?_ (hjobs.symm.trans hs))
  rcases hr with ⟨result,hw,hid,hrest⟩|⟨hw,hrest⟩
  · have hstored : stored r=[result] := by
      rw [stored,hw]
      rfl
    rw [requeued_of_settled ⟨result,hw,hid,hrest⟩,hstored,List.map_singleton,hid,List.nil_append,← List.append_assoc]
    exact List.perm_append_singleton _ _
  · have hstored : stored r=[] := by
      rw [stored,hw]
      rfl
    rw [requeued_of_requeued ⟨hw,hrest⟩,hstored,List.map_nil,List.append_nil]
    exact List.Perm.refl _

/-- A handler call is paid for by the attempt it belongs to. -/
theorem attempt_pays (hs : Sound cfg s) (hjob : job∈s.waiting) :
    job.attempts+handlerCall (job,processOne cfg job b) ≤ cfg.retryLimit+1 ∧
      ∀ job'∈requeued (processOne cfg job b),
        job.attempts+handlerCall (job,processOne cfg job b) ≤ job'.attempts := by
  have hone : handlerCall (job,processOne cfg job b) ≤ 1 := by
    unfold handlerCall
    split
    · exact Nat.le_refl 1
    · exact Nat.zero_le 1
  refine ⟨Nat.add_le_add (hs.within job hjob) hone,fun job' hback => ?_⟩
  rw [(mem_requeued hback).1]
  exact Nat.add_le_add_left hone _

/-- What one step that clears preserves. -/
theorem Kept.step (hs : Kept cfg s) (h : step cfg s a=some t) (hclear : AllClear cfg s a) :
    Kept cfg t := by
  have heffect := step_effect h
  have hsound := heffect.sound hs.sound
  have hbudget := heffect.budget hs.sound hs.budget fun w b job _ _ hjob =>
    attempt_pays hs.sound hjob
  cases heffect with
  | @submit job hfresh hzero hwaiting haccepted hserved hended =>
    refine ⟨hsound,hbudget,hserved ▸ hs.handled,?_,hended ▸ hs.serving⟩
    have hnow := (hwaiting.map Job.id).append_right (s.results.map JobResult.jobId)
    rw [haccepted,Fleet.results,hserved]
    refine hnow.trans ?_
    exact (hs.conserved.cons job.id).trans (List.perm_append_singleton _ _).symm
  | dequeue hwaiting haccepted hserved hended =>
    refine ⟨hsound,hbudget,hserved ▸ hs.handled,?_,hended ▸ hs.serving⟩
    have hnow := (hwaiting.map Job.id).append_right (s.results.map JobResult.jobId)
    rw [haccepted,Fleet.results,hserved]
    exact hnow.trans hs.conserved
  | @finish w b job rest hheld hbefore hwaiting haccepted hserved hended =>
    have hout := outcome_of_clears (hclear w b job rfl hheld)
    refine ⟨hsound,hbudget,?_,
      finish_conserved hout hs.conserved hbefore hwaiting haccepted hserved,?_⟩
    · rw [hserved]
      exact List.forall_mem_append.mpr ⟨hs.handled,List.forall_mem_singleton.mpr hout⟩
    · have hreturned : ∃ result,(processOne cfg job b).returned=.ok result := by
        rcases hout with ⟨result,-,-,-,hret⟩|⟨-,hret⟩
        · exact ⟨result,hret⟩
        · exact hret
      obtain ⟨result,hret⟩ := hreturned
      rw [hended,hs.serving,endedBy,hret]
      rfl

/-- An exception that escapes ends the loop of the worker it happened to. -/
theorem ended_of_not_clear (h : step cfg s a=some t) (hclear : ¬AllClear cfg s a) : t.ended≠[] := by
  intro hnone
  refine hclear fun w b job ha hheld => ?_
  subst ha
  cases step_effect h with
  | finish hheld' hbefore hwaiting haccepted hserved hended =>
    cases hheld.symm.trans hheld'
    rcases processOne_cases cfg job b with ⟨hc,-⟩|⟨-,-,e,he⟩
    · exact hc
    · rw [hnone,endedBy,he] at hended
      exact absurd hended.symm (List.append_ne_nil_of_right_ne_nil _ (List.cons_ne_nil _ _))

/-- No job is lost along a run if and only if nothing escapes `process_one`
during it. -/
theorem jobs_kept_iff {acts : List Act} (hrun : Run (ofPartial (step cfg)) idle acts s) :
    Throughout (ofPartial (step cfg)) idle acts (NoJobLost cfg) ↔
      Run (guarded (ofPartial (step cfg)) (AllClear cfg)) idle acts s :=
  hrun.throughout_iff_guarded (deterministic_ofPartial _) kept_idle
    (fun _ _ _ hs h hclear => hs.step h hclear) (fun _ hs => hs.noJobLost)
    fun _ _ _ h hclear hkept => ended_of_not_clear h hclear hkept.serving

/-- A reader of one status page. -/
def readerConfig : WorkerConfig :=
  ⟨.redis,fun kind => if kind=.vfsReadStatus then some fun _ => pure [] else none,2⟩

/-- One job for it. -/
def statusJob : Job := ⟨"j1","t1",.vfsReadStatus,[],"vault/t1",0,some (.aware 100)⟩

/-- Everything works. -/
def calm : Behaviour :=
  { now := 0, resolveCreds := fun _ => .ok none, acquire := fun _ _ => none
    page := fun _ _ => .stuck false, release := none, screenshot := none, content := none
    put := fun _ file => .ok file, durationMs := 0, completedAt := 0 }

/-- The secrets store cannot be reached. -/
def vaultDown : Behaviour :=
  { calm with
    resolveCreds := fun _ => .error ⟨"ConnectionError",["builtins.ConnectionError"],"vault",none⟩ }

/-- A job served while everything works. -/
theorem jobs_kept_calm :
    ∃ s,Run (ofPartial (step readerConfig)) idle [.submit statusJob,.dequeue 0,.finish 0 calm] s ∧
      NoJobLost readerConfig s := by
  have hclears : Clears readerConfig statusJob calm := clears_of_returned rfl
  have hsubmit : step readerConfig idle (.submit statusJob)=some ⟨[statusJob],[],["j1"],[],[]⟩ := rfl
  have hdequeue : step readerConfig ⟨[statusJob],[],["j1"],[],[]⟩ (.dequeue 0)=
      some ⟨[],[(0,statusJob)],["j1"],[],[]⟩ := rfl
  have hfinish : step readerConfig ⟨[],[(0,statusJob)],["j1"],[],[]⟩ (.finish 0 calm)=
      some ⟨[],[],["j1"],[(statusJob,processOne readerConfig statusJob calm)],[]⟩ := rfl
  have hclear : AllClear readerConfig ⟨[],[(0,statusJob)],["j1"],[],[]⟩ (.finish 0 calm) := by
    intro w b job ha hheld
    cases ha
    cases hheld
    exact hclears
  have hquiet : ∀ s,AllClear readerConfig s (.submit statusJob) ∧
      AllClear readerConfig s (.dequeue 0) :=
    fun s => ⟨fun w b job ha => (by cases ha),fun w b job ha => (by cases ha)⟩
  have hguarded : Run (guarded (ofPartial (step readerConfig)) (AllClear readerConfig)) idle
      [.submit statusJob,.dequeue 0,.finish 0 calm] _ :=
    ((Run.start.next ⟨hsubmit,(hquiet _).1⟩).next ⟨hdequeue,(hquiet _).2⟩).next ⟨hfinish,hclear⟩
  have hrun := hguarded.unguard
  exact ⟨_,hrun,(jobs_kept_iff hrun).mpr hguarded _ _ (List.prefix_refl _) hrun⟩

/-- A resolver that raises takes the job with it, and the worker's loop. -/
theorem vaultDown_losesJob :
    ∃ s,Run (ofPartial (step readerConfig)) idle
      [.submit statusJob,.dequeue 0,.finish 0 vaultDown] s ∧
      s.waiting=[] ∧ s.results=[] ∧ s.ended=[0] ∧ ¬NoJobLost readerConfig s := by
  refine ⟨_,run_of_foldlM rfl,rfl,rfl,rfl,fun h => ?_⟩
  exact absurd h.serving (List.cons_ne_nil _ _)

end Voyagent.JobConservation
