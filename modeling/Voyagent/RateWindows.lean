import Voyagent.RuntimeLimits
import Voyagent.SlidingWindows

/-!
# The rate limiter as two sliding windows

The limiter keeps one deque for a tenant and asks it two questions. It trims it
to the wide window whenever the tenant calls, also when it then refuses. Both
counts are those over all calls it ever accepted from the tenant, and a refused
call leaves no trace in any later answer.
-/

namespace Voyagent.RateWindows

open RuntimeValues OrchestratorTurn RuntimeLimits SlidingWindows

/-- A call of `check`, with the clock as it reads it. -/
structure Check where
  tenantId : EntityId
  perMinute : Int
  perHour : Int
  now : Rat

/-- The call was let through. -/
def isAccepted : LimiterAnswer → Bool
  | .accepted => true
  | _ => false

/-- `InMemoryRateLimiter.check` on a call. -/
def Check.run (c : Check) (limiter : InMemoryRateLimiter) : InMemoryRateLimiter × LimiterAnswer :=
  limiter.check c.tenantId c.perMinute c.perHour c.now

/-- The limiter after a call, and the calls accepted so far. -/
def record (s : InMemoryRateLimiter × List Check) (c : Check) : InMemoryRateLimiter × List Check :=
  ((c.run s.1).1,if isAccepted (c.run s.1).2 then s.2++[c] else s.2)

/-- The same after a sequence of calls. -/
def replay (checks : List Check) : InMemoryRateLimiter × List Check := checks.foldl record ({},[])

/-- The answers to a sequence of calls. -/
def answers (limiter : InMemoryRateLimiter) : List Check → List LimiterAnswer
  | [] => []
  | c::checks => (c.run limiter).2::answers (c.run limiter).1 checks

/-! ## The windows -/

/-- The instants of a tenant's calls. -/
def instants (tenantId : EntityId) (accepted : List Check) : List Rat :=
  (accepted.filter fun a => decide (a.tenantId=tenantId)).map Check.now

/-- How many of the accepted calls are the tenant's own and at most so old. -/
def recent (accepted : List Check) (c : Check) (seconds : Rat) : Nat :=
  accepted.countP fun a => decide (a.tenantId=c.tenantId ∧ c.now-seconds≤a.now ∧ a.now≤c.now)

/-- What the two windows say of a call. -/
def verdict (accepted : List Check) (c : Check) : LimiterAnswer :=
  if c.perHour<(recent accepted c hour : Int)+1 then .exceeded "hour"
  else if c.perMinute<(recent accepted c minute : Int)+1 then .exceeded "minute"
  else .accepted

/-- The answers the windows give. -/
def verdicts (accepted : List Check) : List Check → List LimiterAnswer
  | [] => []
  | c::checks =>
    verdict accepted c::
      verdicts (if isAccepted (verdict accepted c) then accepted++[c] else accepted) checks

/-! ## The deque and the accepted calls -/

/-- The deque of a tenant. -/
def dequeOf (limiter : InMemoryRateLimiter) (tenantId : EntityId) : List Rat :=
  (KeyedMap.get limiter.events tenantId).getD []

/-- Every deque lists the tenant's accepted calls, without some that are older
than an hour at `now`. -/
structure Agrees (now : Rat) (limiter : InMemoryRateLimiter) (accepted : List Check) : Prop where
  sorted : accepted.Pairwise fun a b => a.now≤b.now
  past : ∀ a∈accepted,a.now≤now
  trimmed : ∀ tenantId,Trimmed (now-hour) (dequeOf limiter tenantId) (instants tenantId accepted)

variable {limiter : InMemoryRateLimiter} {accepted : List Check} {now : Rat} {c : Check}
  {checks : List Check}

theorem instants_append (tenantId : EntityId) (accepted : List Check) (c : Check) :
    instants tenantId (accepted++[c])=
      if c.tenantId=tenantId then instants tenantId accepted++[c.now]
      else instants tenantId accepted := by
  unfold instants
  by_cases htenant : c.tenantId=tenantId <;> simp [htenant]

theorem instants_sorted (h : accepted.Pairwise fun a b => a.now≤b.now) (tenantId : EntityId) :
    (instants tenantId accepted).Pairwise (· ≤ ·) :=
  List.pairwise_map.mpr (h.sublist List.filter_sublist)

/-- Of calls that are past, a window counts those since its old end. -/
theorem recent_eq (hpast : ∀ a∈accepted,a.now≤c.now) (seconds : Rat) :
    recent accepted c seconds=(since (c.now-seconds) (instants c.tenantId accepted)).length := by
  unfold recent since instants
  rw [List.filter_map,List.length_map,List.filter_filter,← List.countP_eq_length_filter]
  refine List.countP_congr fun a ha => ?_
  have hle := hpast a ha
  simp [hle,and_comm]

theorem Agrees.later (h : Agrees now limiter accepted) {now' : Rat} (hle : now≤now') :
    Agrees now' limiter accepted :=
  ⟨h.sorted,fun a ha => (h.past a ha).trans hle,fun tenantId =>
    (h.trimmed tenantId).mono (sub_le_sub_right hle hour)⟩

/-- The trimmed deque holds the accepted calls of the last hour. -/
theorem Agrees.prune_eq (h : Agrees now limiter accepted) (tenantId : EntityId) :
    prune now (dequeOf limiter tenantId)=since (now-hour) (instants tenantId accepted) := by
  have htrimmed := h.trimmed tenantId
  have hsorted := htrimmed.sorted (instants_sorted h.sorted tenantId)
  exact (dropWhile_eq_since hsorted _).trans (htrimmed.since_eq (le_refl _))

/-- The count from the newest entry is that of the last minute. -/
theorem Agrees.minuteCount_eq (h : Agrees now limiter accepted) (tenantId : EntityId) :
    minuteCount now (prune now (dequeOf limiter tenantId))=
      (since (now-minute) (instants tenantId accepted)).length := by
  have htrimmed : Trimmed (now-hour) (prune now (dequeOf limiter tenantId)) (instants tenantId accepted) :=
    (h.trimmed tenantId).dropWhile
  have hsorted := htrimmed.sorted (instants_sorted h.sorted tenantId)
  have hinside : now-hour≤now-minute := sub_le_sub_left (by decide) now
  unfold minuteCount
  rw [takeWhile_reverse_eq_since hsorted,List.length_reverse,htrimmed.since_eq hinside]

/-- The limiter answers what the windows say. -/
theorem Agrees.answer_eq (h : Agrees c.now limiter accepted) :
    (c.run limiter).2=verdict accepted c := by
  have hhour : (prune c.now (dequeOf limiter c.tenantId)).length=recent accepted c hour := by
    rw [recent_eq h.past,h.prune_eq]
  have hminute : minuteCount c.now (prune c.now (dequeOf limiter c.tenantId))=
      recent accepted c minute := by
    rw [recent_eq h.past,h.minuteCount_eq]
  unfold verdict Check.run InMemoryRateLimiter.check
  rw [← hhour,← hminute]
  dsimp only [dequeOf]
  rw [apply_ite Prod.snd,apply_ite Prod.snd]
  rfl

/-- The deque is trimmed by every call, and gets the instant of an accepted one. -/
theorem run_deque (c : Check) (limiter : InMemoryRateLimiter) (tenantId : EntityId) :
    dequeOf (c.run limiter).1 tenantId=
      if c.tenantId=tenantId then
        prune c.now (dequeOf limiter tenantId)++
          if isAccepted (c.run limiter).2 then [c.now] else []
      else dequeOf limiter tenantId := by
  unfold Check.run InMemoryRateLimiter.check dequeOf
  by_cases htenant : c.tenantId=tenantId
  · subst htenant
    rw [if_pos rfl]
    dsimp only
    split
    · simp [isAccepted]
    · split <;> simp [isAccepted]
  · rw [if_neg htenant]
    dsimp only
    split
    · simp [htenant]
    · split <;> simp [htenant]

/-- A call keeps the agreement with the calls accepted so far. -/
theorem Agrees.run (h : Agrees c.now limiter accepted) :
    Agrees c.now (c.run limiter).1
      (if isAccepted (c.run limiter).2 then accepted++[c] else accepted) := by
  constructor
  · split
    · refine List.pairwise_append.mpr ⟨h.sorted,List.pairwise_singleton _ _,fun a ha b hb => ?_⟩
      exact List.mem_singleton.mp hb ▸ h.past a ha
    · exact h.sorted
  · intro a ha
    split at ha
    · rcases List.mem_append.mp ha with hold|hnew
      · exact h.past a hold
      · exact List.mem_singleton.mp hnew ▸ le_refl c.now
    · exact h.past a ha
  · intro tenantId
    rw [run_deque]
    by_cases htenant : c.tenantId=tenantId
    · have htrimmed : Trimmed (c.now-hour) (prune c.now (dequeOf limiter tenantId))
          (instants tenantId accepted) := (h.trimmed tenantId).dropWhile
      rw [if_pos htenant]
      split
      · rw [instants_append,if_pos htenant]
        exact htrimmed.concat c.now
      · rwa [List.append_nil]
    · rw [if_neg htenant]
      split
      · rw [instants_append,if_neg htenant]
        exact h.trimmed tenantId
      · exact h.trimmed tenantId

/-- After any calls with a clock that never goes back, the limiter agrees with
the calls it accepted. -/
theorem agrees_replay (checks : List Check) (now : Rat)
    (hclock : checks.Pairwise fun a b => a.now≤b.now) (hpast : ∀ c∈checks,c.now≤now) :
    Agrees now (replay checks).1 (replay checks).2 := by
  induction checks using List.reverseRecOn generalizing now with
  | nil =>
    exact ⟨List.Pairwise.nil,fun a ha => absurd ha List.not_mem_nil,fun _ => .refl _ _⟩
  | append_singleton checks c ih =>
    obtain ⟨hbefore,-,hlast⟩ := List.pairwise_append.mp hclock
    have hreplay : replay (checks++[c])=record (replay checks) c := List.foldl_append
    rw [hreplay]
    have hagrees := ih c.now hbefore fun a ha => hlast a ha c List.mem_cons_self
    exact hagrees.run.later (hpast c (List.mem_append_right _ List.mem_cons_self))

/-- From then on the answers are those of the windows over the accepted calls. -/
theorem Agrees.answers_eq (h : Agrees now limiter accepted)
    (hclock : checks.Pairwise fun a b => a.now≤b.now) (hlater : ∀ c∈checks,now≤c.now) :
    answers limiter checks=verdicts accepted checks := by
  induction checks generalizing limiter accepted now with
  | nil => rfl
  | cons c checks ih =>
    obtain ⟨hhead,htail⟩ := List.pairwise_cons.mp hclock
    have hnow := h.later (hlater c List.mem_cons_self)
    have hrest := ih hnow.run htail hhead
    rw [hnow.answer_eq] at hrest
    rw [answers,verdicts,hnow.answer_eq,hrest]

theorem isAccepted_verdict : isAccepted (verdict accepted c)=true ↔
    (recent accepted c minute : Int)<c.perMinute ∧ (recent accepted c hour : Int)<c.perHour := by
  unfold verdict
  split
  · simp [isAccepted]
    omega
  · split
    · simp [isAccepted]
      omega
    · simp [isAccepted]
      omega

/-- Whatever the tenants, the limits and the clock, as long as it never goes back: a
call is accepted if and only if both windows hold fewer accepted calls of its
tenant than its limits, and after a refused call every later call of any tenant
is answered as if it had not been made. -/
theorem sliding_windows_exact (checks : List Check) (c : Check) (later : List Check)
    (hclock : (checks++c::later).Pairwise fun a b => a.now≤b.now) :
    (isAccepted (c.run (replay checks).1).2=true ↔
      (recent (replay checks).2 c minute : Int)<c.perMinute ∧
        (recent (replay checks).2 c hour : Int)<c.perHour) ∧
    (isAccepted (c.run (replay checks).1).2=false →
      answers (c.run (replay checks).1).1 later=answers (replay checks).1 later) := by
  obtain ⟨hbefore,hafter,hacross⟩ := List.pairwise_append.mp hclock
  obtain ⟨hhead,htail⟩ := List.pairwise_cons.mp hafter
  have hagrees := agrees_replay checks c.now hbefore fun a ha => hacross a ha c List.mem_cons_self
  constructor
  · rw [hagrees.answer_eq,isAccepted_verdict]
  · intro hrefused
    have hrun := hagrees.run
    rw [hrefused] at hrun
    exact (hrun.answers_eq htail hhead).trans (hagrees.answers_eq htail hhead).symm

/-- The second call finds the first at the old end of its minute and is refused. -/
theorem sliding_windows_exact_refused :
    let first : Check := ⟨"tenant",1,2,0⟩
    let second : Check := ⟨"tenant",1,2,60⟩
    let third : Check := ⟨"tenant",1,2,61⟩
    isAccepted (second.run (replay [first]).1).2=false ∧
      answers (second.run (replay [first]).1).1 [third]=answers (replay [first]).1 [third] := by
  intro first second third
  have hclock : ([first]++second::[third]).Pairwise fun a b => a.now≤b.now := by decide
  obtain ⟨hiff,hlater⟩ := sliding_windows_exact [first] second [third] hclock
  have hrefused : isAccepted (second.run (replay [first]).1).2=false := by decide +kernel
  exact ⟨hrefused,hlater hrefused⟩

end Voyagent.RateWindows
