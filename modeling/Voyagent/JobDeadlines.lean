import Voyagent.PortalSubmissions

/-!
# Deadlines of portal jobs

A client submits a job with a deadline and waits for a result until its own
timeout. Workers check the deadline once, when they take the job; from then on
the handler drives the page under a timeout of its own. The runs here put a
clock under the workers of one queue and let the page carry out one operation
at a time, so that a click and the end of a client's wait have an order.
-/

namespace Voyagent.JobDeadlines

open KeyedMap TransitionRuns RuntimeValues BrowserJobs JobWorker JobFleet PortalHandlers

/-- A call of `submit` that waits for the result of its job. -/
structure Submission where
  job : Job
  waitsUntil : Time
  deriving DecidableEq

/-- A call of `process_one` under way. -/
structure Attempt where
  behaviour : Behaviour
  /-- When the handler was started, under the job's timeout. -/
  startedAt : Option Time
  /-- The operations the page has still to carry out. -/
  remaining : List PageOp

/-- What the client and the portal see. -/
inductive Event where
  /-- `submit` returned `client_timeout`. -/
  | told (job : Job) (now : Time)
  /-- The portal received a submitting click of the job. -/
  | clicked (job : Job)
  deriving DecidableEq

/-- The workers of a queue under a clock. -/
structure World where
  fleet : Fleet := idle
  clock : Time
  submissions : List Submission := []
  /-- By worker. -/
  attempts : Nat → Option Attempt := fun _ => none
  log : List Event := []

inductive Act where
  /-- Time passes. -/
  | pass (duration : Nat)
  /-- `submit` up to its wait; without a `deadline_at` it is the end of the wait. -/
  | submit (job : Job) (timeout : Nat) (deadlineAt : Option Deadline)
  /-- The wait of a submission ends without a result. -/
  | giveUp (i : Nat)
  /-- A worker takes the first job; what it meets until the end is drawn here. -/
  | dequeue (worker : Nat) (b : Behaviour)
  /-- The worker has credentials and a page, and starts the handler. -/
  | start (worker : Nat)
  /-- The page carries out the next operation. -/
  | perform (worker : Nat)
  /-- The call of `process_one` ends, after any back-off. -/
  | finish (worker : Nat)

/-- The job as `submit` makes it. -/
def submitted (w : World) (job : Job) (timeout : Nat) (deadlineAt : Option Deadline) : Job :=
  {job with deadlineAt := some (deadlineAt.getD (.aware (w.clock+timeout)))}

/-- The log of an operation. -/
def World.logged (w : World) (job : Job) (op : PageOp) : List Event :=
  if submits op then w.log++[.clicked job] else w.log

/-- One step; a handler is cancelled `jobTimeout` after its start. -/
def step (cfg : WorkerConfig) (jobTimeout : Nat) (w : World) : Act → Option World
  | .pass duration => some {w with clock := w.clock+duration}
  | .submit job timeout deadlineAt =>
    let job' := submitted w job timeout deadlineAt
    (JobFleet.step cfg w.fleet (.submit job')).map fun fleet =>
      {w with fleet,submissions := w.submissions++[⟨job',w.clock+timeout⟩]}
  | .giveUp i =>
    match w.submissions[i]? with
    | some submission =>
      if submission.waitsUntil≤w.clock ∧ ∀ r∈w.fleet.results,r.jobId≠submission.job.id then
        some { w with
          submissions := w.submissions.eraseIdx i
          log := w.log++[.told submission.job w.clock] }
      else none
    | none => none
  | .dequeue worker b =>
    match w.fleet.queue,JobFleet.step cfg w.fleet (.dequeue worker) with
    | job::_,some fleet =>
      if b.now=w.clock then
        some { w with
          fleet
          attempts := Function.update w.attempts worker
            (some ⟨b,none,(processOne cfg job b).performed⟩) }
      else none
    | _,_ => none
  | .start worker =>
    match w.attempts worker with
    | some ⟨b,none,remaining⟩ =>
      some {w with attempts := Function.update w.attempts worker (some ⟨b,some w.clock,remaining⟩)}
    | _ => none
  | .perform worker =>
    match w.attempts worker,get w.fleet.held worker with
    | some ⟨b,some startedAt,op::remaining⟩,some job =>
      if w.clock≤ startedAt+jobTimeout then
        some { w with
          attempts := Function.update w.attempts worker (some ⟨b,some startedAt,remaining⟩)
          log := w.logged job op }
      else none
    | _,_ => none
  | .finish worker =>
    match w.attempts worker with
    | some ⟨b,_,[]⟩ =>
      (JobFleet.step cfg w.fleet (.finish worker b)).map fun fleet =>
        {w with fleet,attempts := Function.update w.attempts worker none}
    | _ => none

/-- Clients, workers and portal in any order. -/
def Step (cfg : WorkerConfig) (jobTimeout : Nat) : World → Act → World → Prop :=
  ofPartial (step cfg jobTimeout)

/-- What each step does. -/
inductive Moves (cfg : WorkerConfig) (jobTimeout : Nat) (w : World) : Act → World → Prop
  | pass (duration : Nat) : Moves cfg jobTimeout w (.pass duration) {w with clock := w.clock+duration}
  | submit {job : Job} {timeout : Nat} {deadlineAt : Option Deadline} {t : Fleet}
      (ht : JobFleet.step cfg w.fleet (.submit (submitted w job timeout deadlineAt))=some t) :
      Moves cfg jobTimeout w (.submit job timeout deadlineAt) { w with
        fleet := t
        submissions := w.submissions++[⟨submitted w job timeout deadlineAt,w.clock+timeout⟩] }
  | giveUp {i : Nat} {submission : Submission} (hi : w.submissions[i]?=some submission)
      (hwait : submission.waitsUntil≤w.clock) :
      Moves cfg jobTimeout w (.giveUp i) { w with
        submissions := w.submissions.eraseIdx i
        log := w.log++[.told submission.job w.clock] }
  | dequeue {worker : Nat} {b : Behaviour} {remaining : List PageOp} {t : Fleet}
      (ht : JobFleet.step cfg w.fleet (.dequeue worker)=some t) :
      Moves cfg jobTimeout w (.dequeue worker b) { w with
        fleet := t
        attempts := Function.update w.attempts worker (some ⟨b,none,remaining⟩) }
  | start {worker : Nat} {b : Behaviour} {remaining : List PageOp}
      (hbefore : w.attempts worker=some ⟨b,none,remaining⟩) :
      Moves cfg jobTimeout w (.start worker) { w with
        attempts := Function.update w.attempts worker (some ⟨b,some w.clock,remaining⟩) }
  | perform {worker : Nat} {b : Behaviour} {startedAt : Time} {op : PageOp} {remaining : List PageOp}
      {job : Job} (hattempt : w.attempts worker=some ⟨b,some startedAt,op::remaining⟩)
      (hheld : get w.fleet.held worker=some job) (hclock : w.clock≤ startedAt+jobTimeout) :
      Moves cfg jobTimeout w (.perform worker) { w with
        attempts := Function.update w.attempts worker (some ⟨b,some startedAt,remaining⟩)
        log := w.logged job op }
  | finish {worker : Nat} {b : Behaviour} {t : Fleet}
      (ht : JobFleet.step cfg w.fleet (.finish worker b)=some t) :
      Moves cfg jobTimeout w (.finish worker) { w with
        fleet := t
        attempts := Function.update w.attempts worker none }

theorem step_moves {cfg : WorkerConfig} {jobTimeout : Nat} {w w' : World} {a : Act}
    (h : Step cfg jobTimeout w a w') : Moves cfg jobTimeout w a w' := by
  unfold Step ofPartial JobDeadlines.step at h
  cases a with
  | pass duration =>
    cases h
    exact .pass duration
  | submit job timeout deadlineAt =>
    obtain ⟨t,ht,rfl⟩ := Option.map_eq_some_iff.mp h
    exact .submit ht
  | giveUp i =>
    dsimp only at h
    split at h
    · rename_i submission hi
      obtain ⟨hwait,hsame⟩ := Option.ite_none_right_eq_some.mp h
      cases hsame
      exact .giveUp hi hwait.1
    · cases h
  | dequeue worker b =>
    dsimp only at h
    split at h
    · rename_i ht
      obtain ⟨-,hsame⟩ := Option.ite_none_right_eq_some.mp h
      cases hsame
      exact .dequeue ht
    · cases h
  | start worker =>
    dsimp only at h
    split at h
    · rename_i hbefore
      cases h
      exact .start hbefore
    · cases h
  | perform worker =>
    dsimp only at h
    split at h
    · rename_i hattempt hheld
      obtain ⟨hclock,hsame⟩ := Option.ite_none_right_eq_some.mp h
      cases hsame
      exact .perform hattempt hheld hclock
    · cases h
  | finish worker =>
    dsimp only at h
    split at h
    · obtain ⟨t,ht,rfl⟩ := Option.map_eq_some_iff.mp h
      exact .finish ht
    · cases h

/-- The portal is not given a submitting click of a job that has expired. -/
def InTime (w : World) : Act → Prop
  | .perform worker => ∀ attempt∈w.attempts worker,∀ op∈attempt.remaining.head?,submits op=true →
      ∀ job∈get w.fleet.held worker,job.isExpired w.clock=.ok false
  | _ => True

instance (w : World) (a : Act) : Decidable (InTime w a) := by
  unfold InTime
  cases a <;> infer_instance

/-- The job of a client that waits or has been told. -/
def World.Client (w : World) (job : Job) : Prop :=
  job∈w.submissions.map Submission.job ∨ ∃ now,Event.told job now∈w.log

/-- Known in every state reached: nobody is told in the future, and what waits
under the id of a client's job has its deadline. -/
structure Facts (cfg : WorkerConfig) (w : World) : Prop where
  sound : Sound cfg w.fleet
  past : ∀ job now,Event.told job now∈w.log → now≤w.clock
  known : ∀ job,w.Client job → job.id∈w.fleet.accepted
  same : ∀ job,w.Client job → ∀ job'∈w.fleet.waiting,job'.id=job.id → job'.deadlineAt=job.deadlineAt

section Steps

variable {cfg : WorkerConfig} {jobTimeout : Nat} {w w' : World} {a : Act} {t : Fleet}

theorem facts_start (clock : Time) : Facts cfg {clock} :=
  ⟨sound_idle,nofun,fun job h => (by rcases h with h|⟨_,h⟩ <;> cases h),
    fun job h => (by rcases h with h|⟨_,h⟩ <;> cases h)⟩

/-- The fleet moves, and what waits then had waited under its id before. -/
theorem Facts.fleet (h : Facts cfg w) (hsound : Sound cfg t) (haccepted : t.accepted=w.fleet.accepted)
    (hwaiting : ∀ job'∈t.waiting,∃ job∈w.fleet.waiting,job.id=job'.id ∧ job.deadlineAt=job'.deadlineAt)
    (attempts : Nat → Option Attempt) : Facts cfg {w with fleet := t,attempts} := by
  refine ⟨hsound,h.past,fun job hjob => ?_,fun job hjob job' hmem hid => ?_⟩
  · rw [haccepted]
    exact h.known job hjob
  · obtain ⟨before,hbefore,hsameid,hdeadline⟩ := hwaiting job' hmem
    have hfound := h.same job hjob before hbefore (hsameid.trans hid)
    exact hdeadline.symm.trans hfound

/-- A client submits a job. -/
theorem Facts.submit (h : Facts cfg w) {job : Job} {waitsUntil : Time}
    (hs : JobFleet.step cfg w.fleet (.submit job)=some t) :
    Facts cfg {w with fleet := t,submissions := w.submissions++[⟨job,waitsUntil⟩]} := by
  have heffect := step_effect hs
  have hsound := heffect.sound h.sound
  cases heffect with
  | submit hfresh hzero hwaiting haccepted hserved hended =>
    have hclient : ∀ job',World.Client {w with fleet := t,submissions := w.submissions++[⟨job,waitsUntil⟩]} job' →
        job'=job ∨ w.Client job' := by
      rintro job' (hsub|⟨now,htold⟩)
      · rw [List.map_append] at hsub
        rcases List.mem_append.mp hsub with hold|hnew
        · exact .inr (.inl hold)
        · exact .inl (List.mem_singleton.mp hnew)
      · exact .inr (.inr ⟨now,htold⟩)
    refine ⟨hsound,h.past,fun job' hjob' => ?_,fun job' hjob' waiting hmem hid => ?_⟩
    · rw [haccepted]
      rcases hclient job' hjob' with rfl|hold
      · exact List.mem_append_right _ List.mem_cons_self
      · exact List.mem_append_left _ (h.known job' hold)
    · rcases List.mem_cons.mp (hwaiting.mem_iff.mp hmem) with rfl|hold
      · rcases hclient job' hjob' with rfl|hclient'
        · rfl
        · exact absurd (hid ▸ h.known job' hclient') hfresh
      · rcases hclient job' hjob' with rfl|hclient'
        · exact absurd (hid ▸ h.sound.waitingKnown waiting hold) hfresh
        · exact h.same job' hclient' waiting hold hid

/-- A client stops waiting. -/
theorem Facts.giveUp (h : Facts cfg w) {i : Nat} {submission : Submission}
    (hi : w.submissions[i]?=some submission) :
    Facts cfg { w with
      submissions := w.submissions.eraseIdx i
      log := w.log++[.told submission.job w.clock] } := by
  have hclient : ∀ job,World.Client { w with
      submissions := w.submissions.eraseIdx i
      log := w.log++[.told submission.job w.clock] } job → w.Client job := by
    rintro job (hsub|⟨now,htold⟩)
    · obtain ⟨s,hs,rfl⟩ := List.mem_map.mp hsub
      exact .inl (List.mem_map_of_mem (List.mem_of_mem_eraseIdx hs))
    · rcases List.mem_append.mp htold with hold|hnew
      · exact .inr ⟨now,hold⟩
      · cases List.mem_singleton.mp hnew
        exact .inl (List.mem_map_of_mem (List.mem_of_getElem? hi))
  refine ⟨h.sound,fun job now htold => ?_,fun job hjob => h.known job (hclient job hjob),
    fun job hjob => h.same job (hclient job hjob)⟩
  rcases List.mem_append.mp htold with hold|hnew
  · exact h.past job now hold
  · cases List.mem_singleton.mp hnew
    exact Int.le_refl _

/-- An operation of the page tells no client anything. -/
theorem told_logged {job job' : Job} {op : PageOp} {now : Time}
    (h : Event.told job' now∈w.logged job op) : Event.told job' now∈w.log := by
  unfold World.logged at h
  split at h
  · rcases List.mem_append.mp h with hold|hnew
    · exact hold
    · exact nomatch List.mem_singleton.mp hnew
  · exact h

/-- The page carries out an operation. -/
theorem Facts.perform (h : Facts cfg w) (job : Job) (op : PageOp) (attempts : Nat → Option Attempt) :
    Facts cfg {w with attempts,log := w.logged job op} := by
  have htold : ∀ job' now,Event.told job' now∈w.logged job op → Event.told job' now∈w.log :=
    fun job' now => told_logged
  have hclient : ∀ job',World.Client {w with attempts,log := w.logged job op} job' → w.Client job' := by
    rintro job' (hsub|⟨now,hmem⟩)
    · exact .inl hsub
    · exact .inr ⟨now,htold job' now hmem⟩
  exact ⟨h.sound,fun job' now hmem => h.past job' now (htold job' now hmem),
    fun job' hjob' => h.known job' (hclient job' hjob'),fun job' hjob' => h.same job' (hclient job' hjob')⟩

theorem Facts.step (h : Facts cfg w) (hs : Step cfg jobTimeout w a w') : Facts cfg w' := by
  cases step_moves hs with
  | pass duration =>
    refine ⟨h.sound,fun job now htold => ?_,h.known,h.same⟩
    have hpast := h.past job now htold
    exact Int.le_trans hpast (Int.le_add_of_nonneg_right (Int.natCast_nonneg duration))
  | submit ht => exact h.submit ht
  | giveUp hi => exact h.giveUp hi
  | dequeue ht =>
    have heffect := step_effect ht
    have hsound := heffect.sound h.sound
    cases heffect with
    | dequeue hwaiting haccepted hserved hended =>
      exact h.fleet hsound haccepted (fun job' hmem => ⟨job',hwaiting.mem_iff.mp hmem,rfl,rfl⟩) _
  | start => exact h.fleet h.sound rfl (fun job' hmem => ⟨job',hmem,rfl,rfl⟩) _
  | perform => exact h.perform _ _ _
  | finish ht =>
    have heffect := step_effect ht
    have hsound := heffect.sound h.sound
    cases heffect with
    | @finish _ _ job rest hheld hbefore hwaiting haccepted hserved hended =>
      refine h.fleet hsound haccepted (fun job' hmem => ?_) _
      rcases List.mem_append.mp (hwaiting.mem_iff.mp hmem) with hback|hrest
      · obtain ⟨rfl,-⟩ := mem_requeued hback
        exact ⟨job,hbefore.mem_iff.mpr List.mem_cons_self,rfl,rfl⟩
      · exact ⟨job',hbefore.mem_iff.mpr (List.mem_cons_of_mem _ hrest),rfl,rfl⟩

end Steps

/-- The client gives no deadline of its own. -/
def DefaultDeadline (_ : World) : Act → Prop
  | .submit _ _ deadlineAt => deadlineAt=none
  | _ => True

/-- The deadline of a job is the end of its client's wait, and has passed when
the client is told. -/
structure Dated (w : World) : Prop where
  waiting : ∀ submission∈w.submissions,submission.job.deadlineAt=some (.aware submission.waitsUntil)
  told : ∀ job now,Event.told job now∈w.log → job.isExpired now=.ok true

theorem Dated.step {cfg : WorkerConfig} {jobTimeout : Nat} {w w' : World} {a : Act} (h : Dated w)
    (hs : Step cfg jobTimeout w a w') (hmet : DefaultDeadline w a) : Dated w' := by
  cases step_moves hs with
  | pass | dequeue | start | finish => exact ⟨h.waiting,h.told⟩
  | submit =>
    have hnone : _=none := hmet
    refine ⟨fun submission hmem => ?_,h.told⟩
    rcases List.mem_append.mp hmem with hold|hnew
    · exact h.waiting submission hold
    · rw [List.mem_singleton.mp hnew,hnone]
      rfl
  | giveUp hi hwait =>
    refine ⟨fun s hmem => h.waiting s (List.mem_of_mem_eraseIdx hmem),fun job now hmem => ?_⟩
    rcases List.mem_append.mp hmem with hold|hnew
    · exact h.told job now hold
    · cases List.mem_singleton.mp hnew
      have hdeadline := h.waiting _ (List.mem_of_getElem? hi)
      simp [Job.isExpired,hdeadline,hwait]
  | perform => exact ⟨h.waiting,fun job now hmem => h.told job now (told_logged hmem)⟩

/-- The ten operations of a booking at the desk, one after the other. -/
def drives : List Act := List.replicate 10 (.perform 0)

/-- A booking submitted with three minutes to wait, taken up after a while,
with the client's wait ending at some point of the run. -/
def booking (queued : Nat) (before after : List Act) : List Act :=
  [.submit PortalSubmissions.bookingJob 180 none,.pass queued,
    .dequeue 0 {PortalSubmissions.deskBehaviour (.answered ()) with now := queued},.start 0]++
    before++drives++after

end Voyagent.JobDeadlines
