import Voyagent.GroupedSums
import Voyagent.JobWorker
import Voyagent.TransitionRuns

/-!
# Workers draining one job queue

Drivers submit jobs with fresh ids; any number of workers take them off the
queue and serve them, in every interleaving. Each worker's loop ends when an
exception escapes `process_one`. What a step does to the jobs that wait is said
once; the invariants and the budgets of a job are derived from that.
-/

namespace Voyagent.JobFleet

open KeyedMap GroupedSums TransitionRuns RuntimeValues BrowserJobs JobWorker

/-- The queue, its workers and everything they have done. -/
structure Fleet where
  queue : List Job
  /-- Jobs taken off the queue, by the worker that serves them. -/
  held : Table Nat Job
  /-- Ids of all submitted jobs. -/
  accepted : List EntityId
  /-- Every call of `process_one` that has ended. -/
  served : List (Job × Served)
  /-- Workers whose loop an exception has ended. -/
  ended : List Nat

/-- Nothing submitted yet. -/
def idle : Fleet := ⟨[],[],[],[],[]⟩

inductive Act where
  /-- A driver submits a job. -/
  | submit (job : Job)
  /-- A worker takes the first job. -/
  | dequeue (w : Nat)
  /-- A worker's call of `process_one` ends. -/
  | finish (w : Nat) (b : Behaviour)

/-- Jobs put back. -/
def requeued (r : Served) : List Job :=
  r.writes.filterMap fun
    | .enqueue job => some job
    | .putResult _ => none

/-- Results stored. -/
def stored (r : Served) : List JobResult :=
  r.writes.filterMap fun
    | .enqueue _ => none
    | .putResult result => some result

/-- The worker's loop is left when the call raised. -/
def endedBy (w : Nat) (r : Served) : List Nat :=
  match r.returned with
  | .ok _ => []
  | .error _ => [w]

/-- One step. The client submits jobs with fresh ids and no attempts. -/
def step (cfg : WorkerConfig) (s : Fleet) : Act → Option Fleet
  | .submit job =>
    if job.id∉s.accepted ∧ job.attempts=0 then
      some { s with queue := s.queue++[job], accepted := s.accepted++[job.id] }
    else none
  | .dequeue w =>
    match s.queue with
    | [] => none
    | job::rest =>
      if w∉s.ended ∧ get s.held w=none then
        some { s with queue := rest, held := set s.held w job }
      else none
  | .finish w b =>
    match get s.held w with
    | none => none
    | some job =>
      let r := processOne cfg job b
      some { s with
        queue := s.queue++requeued r
        held := erase s.held w
        served := s.served++[(job,r)]
        ended := s.ended++endedBy w r }

/-- Jobs on the queue or in a worker's hands. -/
def Fleet.waiting (s : Fleet) : List Job := s.queue++s.held.map Prod.snd

/-- Results stored so far. -/
def Fleet.results (s : Fleet) : List JobResult := s.served.flatMap fun e => stored e.2

/-- What a job's calls have spent so far. -/
def spent (cost : Job × Served → ℕ) (s : Fleet) (id : EntityId) : ℕ :=
  ((group (fun e => e.1.id) s.served id).map cost).sum

variable {cfg : WorkerConfig} {s t : Fleet} {a : Act}

/-- What a step does, up to the order of the waiting jobs. -/
inductive Effect (cfg : WorkerConfig) (s t : Fleet) : Act → Prop
  | submit {job : Job} (hfresh : job.id∉s.accepted) (hzero : job.attempts=0)
      (hwaiting : t.waiting.Perm (job::s.waiting)) (haccepted : t.accepted=s.accepted++[job.id])
      (hserved : t.served=s.served) (hended : t.ended=s.ended) : Effect cfg s t (.submit job)
  | dequeue {w : Nat} (hwaiting : t.waiting.Perm s.waiting) (haccepted : t.accepted=s.accepted)
      (hserved : t.served=s.served) (hended : t.ended=s.ended) : Effect cfg s t (.dequeue w)
  | finish {w : Nat} {b : Behaviour} {job : Job} {rest : List Job} (hheld : get s.held w=some job)
      (hbefore : s.waiting.Perm (job::rest))
      (hwaiting : t.waiting.Perm (requeued (processOne cfg job b)++rest))
      (haccepted : t.accepted=s.accepted)
      (hserved : t.served=s.served++[(job,processOne cfg job b)])
      (hended : t.ended=s.ended++endedBy w (processOne cfg job b)) :
      Effect cfg s t (.finish w b)

theorem step_effect (h : step cfg s a=some t) : Effect cfg s t a := by
  cases a with
  | submit job =>
    dsimp only [step] at h
    split at h
    · rename_i hnew
      cases h
      refine .submit hnew.1 hnew.2 ?_ rfl rfl rfl
      change (s.queue++[job]++s.held.map Prod.snd).Perm (job::(s.queue++s.held.map Prod.snd))
      rw [List.append_assoc]
      exact List.perm_middle
    · cases h
  | dequeue w =>
    dsimp only [step] at h
    split at h
    · cases h
    · rename_i job rest hqueue
      split at h
      · rename_i hfree
        cases h
        refine .dequeue ?_ rfl rfl rfl
        change (rest++(set s.held w job).map Prod.snd).Perm (s.queue++s.held.map Prod.snd)
        rw [set_of_absent hfree.2,hqueue,List.map_append,← List.append_assoc]
        exact List.perm_append_comm
      · cases h
  | finish w b =>
    dsimp only [step] at h
    split at h
    · cases h
    · rename_i job hheld
      cases h
      have hperm := (perm_erase hheld).map Prod.snd
      have hbefore : s.waiting.Perm (job::(s.queue++(erase s.held w).map Prod.snd)) :=
        (hperm.append_left s.queue).trans List.perm_middle
      refine .finish hheld hbefore ?_ rfl rfl rfl
      change (s.queue++requeued (processOne cfg job b)++(erase s.held w).map Prod.snd).Perm
        (requeued (processOne cfg job b)++(s.queue++(erase s.held w).map Prod.snd))
      rw [← List.append_assoc]
      exact List.perm_append_comm.append_right _

variable {job : Job}

theorem requeued_of_settled {r : Served} (h : Settled job r) : requeued r=[] := by
  obtain ⟨result,hw,-⟩ := h
  rw [requeued,hw]
  rfl

theorem requeued_of_requeued {r : Served} (h : Requeued job r) : requeued r=[retryJob job] := by
  rw [requeued,h.1]
  rfl

/-- A job is put back at most once, and only when it may be tried again. -/
theorem requeued_cases (cfg : WorkerConfig) (job : Job) (b : Behaviour) :
    requeued (processOne cfg job b)=[] ∨
      (requeued (processOne cfg job b)=[retryJob job] ∧
        ∃ x,Executes cfg job b x ∧ Retries cfg job x) := by
  rcases processOne_cases cfg job b with ⟨-,hsettled|⟨hback,hx⟩⟩|⟨-,hnone,-⟩
  · exact .inl (requeued_of_settled hsettled)
  · exact .inr ⟨requeued_of_requeued hback,hx⟩
  · left
    rw [requeued,hnone]
    rfl

/-- What is put back is the job itself, after a failure that is tried again. -/
theorem mem_requeued {back : Job} {b : Behaviour} (h : back∈requeued (processOne cfg job b)) :
    back=retryJob job ∧ ∃ x,Executes cfg job b x ∧ Retries cfg job x := by
  rcases requeued_cases cfg job b with hnone|⟨hone,hx⟩
  · rw [hnone] at h
    cases h
  · rw [hone] at h
    exact ⟨List.mem_singleton.mp h,hx⟩

/-- What holds in every reachable state: ids are not reused, a job waits in one
place, and no waiting job has been retried beyond the limit. -/
structure Sound (cfg : WorkerConfig) (s : Fleet) : Prop where
  once : s.accepted.Nodup
  distinct : (s.waiting.map Job.id).Nodup
  waitingKnown : ∀ job∈s.waiting,job.id∈s.accepted
  servedKnown : ∀ e∈s.served,e.1.id∈s.accepted
  within : ∀ job∈s.waiting,job.attempts ≤ cfg.retryLimit

theorem sound_idle : Sound cfg idle :=
  ⟨List.nodup_nil,List.nodup_nil,fun _ h => (List.not_mem_nil h).elim,
    fun _ h => (List.not_mem_nil h).elim,fun _ h => (List.not_mem_nil h).elim⟩

theorem Effect.sound (h : Effect cfg s t a) (hs : Sound cfg s) : Sound cfg t := by
  cases h with
  | @submit job hfresh hzero hwaiting haccepted hserved hended =>
    have hknown : ∀ j∈t.waiting,j=job ∨ j∈s.waiting := fun j hj =>
      List.mem_cons.mp (hwaiting.mem_iff.mp hj)
    have hnew : job.id∉s.waiting.map Job.id := by
      intro hmem
      obtain ⟨j,hj,heq⟩ := List.mem_map.mp hmem
      exact hfresh (heq ▸ hs.waitingKnown j hj)
    constructor
    · rw [haccepted]
      exact (List.perm_append_singleton _ _).nodup_iff.mpr (List.nodup_cons.mpr ⟨hfresh,hs.once⟩)
    · rw [(hwaiting.map Job.id).nodup_iff,List.map_cons]
      exact List.nodup_cons.mpr ⟨hnew,hs.distinct⟩
    · intro j hj
      rw [haccepted,List.mem_append,List.mem_singleton]
      exact (hknown j hj).elim (fun heq => .inr (heq ▸ rfl)) fun hmem => .inl (hs.waitingKnown j hmem)
    · intro e he
      rw [haccepted]
      exact List.mem_append_left _ (hs.servedKnown e (hserved ▸ he))
    · intro j hj
      rcases hknown j hj with rfl|hmem
      · exact hzero ▸ Nat.zero_le _
      · exact hs.within j hmem
  | dequeue hwaiting haccepted hserved hended =>
    constructor
    · exact haccepted ▸ hs.once
    · exact (hwaiting.map Job.id).nodup_iff.mpr hs.distinct
    · exact fun j hj => haccepted ▸ hs.waitingKnown j (hwaiting.mem_iff.mp hj)
    · exact fun e he => haccepted ▸ hs.servedKnown e (hserved ▸ he)
    · exact fun j hj => hs.within j (hwaiting.mem_iff.mp hj)
  | @finish w b job rest hheld hbefore hwaiting haccepted hserved hended =>
    have hbefore' := hs.distinct
    rw [(hbefore.map Job.id).nodup_iff,List.map_cons] at hbefore'
    have hjob : job∈s.waiting := hbefore.mem_iff.mpr List.mem_cons_self
    have hrest : ∀ j∈rest,j∈s.waiting := fun j hj =>
      hbefore.mem_iff.mpr (List.mem_cons_of_mem _ hj)
    have hafter : ∀ j∈t.waiting,j∈rest ∨ j=retryJob job ∧ job.attempts<cfg.retryLimit := by
      intro j hj
      rcases List.mem_append.mp (hwaiting.mem_iff.mp hj) with hback|hmem
      · obtain ⟨hsame,x,-,hretry⟩ := mem_requeued hback
        exact .inr ⟨hsame,hretry.left⟩
      · exact .inl hmem
    constructor
    · exact haccepted ▸ hs.once
    · rw [(hwaiting.map Job.id).nodup_iff]
      rcases requeued_cases cfg job b with hnone|⟨hone,-⟩
      · rw [hnone]
        exact (List.nodup_cons.mp hbefore').2
      · rw [hone]
        exact hbefore'
    · intro j hj
      rw [haccepted]
      rcases hafter j hj with hmem|⟨rfl,-⟩
      · exact hs.waitingKnown j (hrest j hmem)
      · exact hs.waitingKnown job hjob
    · rw [haccepted,hserved]
      exact List.forall_mem_append.mpr
        ⟨hs.servedKnown,List.forall_mem_singleton.mpr (hs.waitingKnown job hjob)⟩
    · intro j hj
      rcases hafter j hj with hmem|⟨rfl,hleft⟩
      · exact hs.within j (hrest j hmem)
      · exact hleft

variable {cost : Job × Served → ℕ}

theorem spent_snoc {e : Job × Served} (h : t.served=s.served++[e]) (id : EntityId) :
    spent cost t id=spent cost s id+if e.1.id=id then cost e else 0 := by
  unfold spent
  rw [h,group_snoc]
  split
  · rw [List.map_append,List.sum_append,List.map_singleton,List.sum_singleton]
  · rfl

/-- What a waiting job may have spent, and what any job may have spent. -/
structure Budget (cost : Job × Served → ℕ) (live : Job → ℕ) (total : ℕ) (s : Fleet) : Prop where
  waiting : ∀ job∈s.waiting,spent cost s job.id ≤ live job
  every : ∀ id,spent cost s id ≤ total

theorem budget_idle {live : Job → ℕ} {total : ℕ} : Budget cost live total idle :=
  ⟨fun _ h => (List.not_mem_nil h).elim,fun _ => Nat.zero_le _⟩

/-- A budget survives a step when the job whose call ends has left to pay for
it, counting what it needs to wait again. -/
theorem Effect.budget {live : Job → ℕ} {total : ℕ} (h : Effect cfg s t a) (hs : Sound cfg s)
    (hb : Budget cost live total s)
    (hpay : ∀ w b job,a=.finish w b → get s.held w=some job → job∈s.waiting →
      live job+cost (job,processOne cfg job b) ≤ total ∧
        ∀ job'∈requeued (processOne cfg job b),
          live job+cost (job,processOne cfg job b) ≤ live job') : Budget cost live total t := by
  cases h with
  | @submit job hfresh hzero hwaiting haccepted hserved hended =>
    have hsame : ∀ id,spent cost t id=spent cost s id := fun id => by rw [spent,hserved,spent]
    have hnone : spent cost s job.id=0 := by
      have hempty : group (fun e => e.1.id) s.served job.id=[] :=
        List.filter_eq_nil_iff.mpr fun e he heq =>
          hfresh (of_decide_eq_true heq ▸ hs.servedKnown e he)
      rw [spent,hempty]
      rfl
    refine ⟨fun j hj => ?_,fun id => hsame id ▸ hb.every id⟩
    rw [hsame]
    rcases List.mem_cons.mp (hwaiting.mem_iff.mp hj) with rfl|hmem
    · exact hnone ▸ Nat.zero_le _
    · exact hb.waiting j hmem
  | dequeue hwaiting haccepted hserved hended =>
    have hsame : ∀ id,spent cost t id=spent cost s id := fun id => by rw [spent,hserved,spent]
    refine ⟨fun j hj => ?_,fun id => hsame id ▸ hb.every id⟩
    rw [hsame]
    exact hb.waiting j (hwaiting.mem_iff.mp hj)
  | @finish w b job rest hheld hbefore hwaiting haccepted hserved hended =>
    have hjob : job∈s.waiting := hbefore.mem_iff.mpr List.mem_cons_self
    have hother : ∀ j∈rest,job.id≠j.id := by
      have hdistinct := hs.distinct
      rw [(hbefore.map Job.id).nodup_iff,List.map_cons,List.nodup_cons] at hdistinct
      exact fun j hj heq => hdistinct.1 (List.mem_map.mpr ⟨j,hj,heq.symm⟩)
    have hold := hb.waiting job hjob
    obtain ⟨htotal,hback⟩ := hpay w b job rfl hheld hjob
    refine ⟨fun j hj => ?_,fun id => ?_⟩
    · rw [spent_snoc hserved]
      rcases List.mem_append.mp (hwaiting.mem_iff.mp hj) with hreq|hmem
      · have hid : job.id=j.id := by
          rw [(mem_requeued hreq).1]
          rfl
        have hlive := hback j hreq
        rw [if_pos hid,← hid]
        omega
      · rw [if_neg (hother j hmem)]
        exact hb.waiting j (hbefore.mem_iff.mpr (List.mem_cons_of_mem _ hmem))
    · rw [spent_snoc hserved]
      have hevery := hb.every id
      split
      · rename_i hid
        rw [← hid]
        dsimp only
        omega
      · exact hevery

end Voyagent.JobFleet
