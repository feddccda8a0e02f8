import Voyagent.RuntimeValues
import Voyagent.TransitionRuns

/-!
# Taking a one-shot token

The token stores behind email verification and password reset. In memory a
take reads and drops the entry without a pause. In Redis it is a GET and then
a DELETE, with other takes running in between, and a DELETE that raises is
logged only. Every take of one stored token is followed: when it read the
payload and when it returned.
-/

namespace Voyagent.OneShotTokens

open RuntimeValues TransitionRuns

/-- The resolution of the clock. -/
structure Clock where
  /-- Ticks in a second. -/
  perSecond : Nat
  pos : 0<perSecond

/-- A stored token: its payload and when it expires. -/
structure Entry where
  payload : String
  expiresAt : Time
  deriving DecidableEq

/-- How far one call of `take` has come. -/
inductive Take where
  | waiting
  /-- GET has answered with the payload; the DELETE is under way. -/
  | holding (payload : String) (readAt : Time)
  | returned (result : Option String) (readAt returnedAt : Time)
  deriving DecidableEq

/-- The entry of the token, the clock and the takes of it. -/
structure World where
  entry : Option Entry
  now : Time
  takes : Nat → Take := fun _ => .waiting

/-- A take moves on. -/
def World.moved (w : World) (i : Nat) (t : Take) : World := {w with takes := Function.update w.takes i t}

/-! ## In Redis -/

/-- What becomes of a DELETE. -/
inductive DeleteReply where
  | carriedOut
  /-- It raised, and the entry is still there. -/
  | refused
  /-- It raised, but the entry is gone. -/
  | unheard
  deriving DecidableEq

def DeleteReply.applied : DeleteReply → Bool
  | .refused => false
  | .carriedOut | .unheard => true

/-- What may happen next: time passes, the GET of a take is executed or
raises, or its DELETE ends. -/
inductive RedisAction where
  | wait (t : Time)
  | get (i : Nat) (answered : Bool)
  | delete (i : Nat) (reply : DeleteReply)
  deriving DecidableEq

/-- `set(key, user_id, ex=ttl_seconds)`. -/
def redisPut (clock : Clock) (payload : String) (putAt : Time) (ttlSeconds : Int) : World where
  entry := some ⟨payload,putAt+ttlSeconds*clock.perSecond⟩
  now := putAt

/-- What GET answers: Redis has dropped an expired key. -/
def World.live (w : World) : Option String :=
  (w.entry.filter fun e => decide (w.now<e.expiresAt)).map Entry.payload

/-- One step of the calls of `RedisVerificationTokenStore.take`; the password
reset store takes alike under its own prefix. -/
def redisStep (w : World) : RedisAction → Option World
  | .wait t => if w.now ≤ t then some {w with now := t} else none
  | .get i answered =>
    match w.takes i with
    | .waiting =>
      match if answered then w.live else none with
      | none => some (w.moved i (.returned none w.now w.now))
      | some payload => some (w.moved i (.holding payload w.now))
    | _ => none
  | .delete i reply =>
    match w.takes i with
    | .holding payload readAt =>
      -- A failed DELETE is logged; the payload is returned all the same.
      some {w.moved i (.returned (some payload) readAt w.now) with
        entry := if reply.applied then none else w.entry}
    | _ => none

/-! ## In memory -/

/-- What may happen next: time passes, or a take runs from end to end. -/
inductive MemoryAction where
  | wait (t : Time)
  | take (i : Nat)
  deriving DecidableEq

/-- `int(time.time())`. -/
def Clock.seconds (clock : Clock) (t : Time) : Int := t/clock.perSecond

/-- `put` of `NullVerificationTokenStore`; it keeps whole seconds. -/
def memoryPut (clock : Clock) (payload : String) (putAt : Time) (ttlSeconds : Int) : World where
  entry := some ⟨payload,clock.seconds putAt+ttlSeconds⟩
  now := putAt

/-- One step of the calls of `NullVerificationTokenStore.take`. -/
def memoryStep (clock : Clock) (w : World) : MemoryAction → Option World
  | .wait t => if w.now ≤ t then some {w with now := t} else none
  | .take i =>
    match w.takes i with
    | .waiting =>
      match w.entry with
      | none => some (w.moved i (.returned none w.now w.now))
      | some e =>
        if e.expiresAt ≤ clock.seconds w.now then
          some {w.moved i (.returned none w.now w.now) with entry := none}
        else some {w.moved i (.returned (some e.payload) w.now w.now) with entry := none}
    | _ => none

/-! ## What a token promises -/

/-- A take has read the payload, whether it has returned yet or not. -/
def Take.read : Take → Option (String × Time)
  | .holding payload readAt => some (payload,readAt)
  | .returned (some payload) readAt _ => some (payload,readAt)
  | _ => none

/-- The instant a take returned the payload. -/
def Take.served : Take → Option Time
  | .returned (some _) _ returnedAt => some returnedAt
  | _ => none

/-- At most one take has returned the payload. -/
def SingleUse (w : World) : Prop :=
  ∀ i j,(w.takes i).served.isSome → (w.takes j).served.isSome → i=j

/-- No take has returned the payload at the deadline or after it. -/
def InTime (deadline : Time) (w : World) : Prop := ∀ i t,(w.takes i).served=some t → t<deadline

/-- At most one take has read the payload. -/
def SingleReader (w : World) : Prop :=
  ∀ i j,(w.takes i).read.isSome → (w.takes j).read.isSome → i=j

/-- No take is between its two commands. -/
def Settled (w : World) : Prop := ∀ i payload readAt,w.takes i≠.holding payload readAt

/-- A GET finds the payload only while no other take has read it, and a DELETE
ends before the deadline. -/
def InTurn (deadline : Time) (w : World) : RedisAction → Prop
  | .wait _ => True
  | .get _ answered => answered=true → w.live.isSome → ∀ j,(w.takes j).read=none
  | .delete _ _ => w.now<deadline

/-- What every run of the Redis store keeps: the entry is the one put, and the
payload read is that one's, read before the deadline. -/
structure Untampered (payload : String) (deadline : Time) (w : World) : Prop where
  entry : ∀ e,w.entry=some e → e=⟨payload,deadline⟩
  reads : ∀ i p t,(w.takes i).read=some (p,t) → p=payload ∧ t<deadline

variable {w v : World} {i j : Nat} {deadline : Time} {payload : String} {take : Take}

/-! ## One take moves -/

theorem moved_self (w : World) (i : Nat) (take : Take) : (w.moved i take).takes i=take :=
  Function.update_self ..

theorem moved_ne (w : World) (h : j≠i) (take : Take) :
    (w.moved i take).takes j=w.takes j := Function.update_of_ne h ..

/-- A returned payload has been read. -/
theorem read_of_served {take : Take} (h : take.served.isSome) : take.read.isSome := by
  cases take with
  | waiting => cases h
  | holding payload readAt => rfl
  | returned result readAt returnedAt =>
    cases result with
    | none => cases h
    | some payload => rfl

theorem live_eq_some (h : w.live=some payload) :
    ∃ e,w.entry=some e ∧ e.payload=payload ∧ w.now<e.expiresAt := by
  obtain ⟨e,he,hpayload⟩ := Option.map_eq_some_iff.mp h
  obtain ⟨hentry,hlive⟩ := Option.filter_eq_some_iff.mp he
  exact ⟨e,hentry,hpayload,of_decide_eq_true hlive⟩

variable {a : RedisAction}

/-- What one step in Redis can do. -/
theorem redisStep_cases (h : redisStep w a=some v) : (∃ t,a=.wait t ∧ v={w with now := t}) ∨
    (∃ i answered,a=.get i answered ∧ w.takes i=.waiting ∧ (answered=true → w.live=none) ∧
      v=w.moved i (.returned none w.now w.now)) ∨
    (∃ i payload,a=.get i true ∧ w.takes i=.waiting ∧ w.live=some payload ∧
      v=w.moved i (.holding payload w.now)) ∨
    (∃ i reply payload readAt,a=.delete i reply ∧ w.takes i=.holding payload readAt ∧
      v={w.moved i (.returned (some payload) readAt w.now) with
        entry := if reply.applied then none else w.entry}) := by
  cases a with
  | wait t =>
    simp only [redisStep,Option.ite_none_right_eq_some,Option.some.injEq] at h
    exact .inl ⟨t,rfl,h.2.symm⟩
  | get i answered =>
    refine .inr ?_
    simp only [redisStep] at h
    split at h
    · rename_i hwaiting
      cases answered with
      | false =>
        cases h
        exact .inl ⟨i,false,rfl,hwaiting,fun hf => (by cases hf),rfl⟩
      | true =>
        cases hlive : w.live with
        | none =>
          simp only [hlive,if_true,Option.some.injEq] at h
          exact .inl ⟨i,true,rfl,hwaiting,fun _ => rfl,h.symm⟩
        | some payload =>
          simp only [hlive,if_true,Option.some.injEq] at h
          exact .inr (.inl ⟨i,payload,rfl,hwaiting,rfl,h.symm⟩)
    · cases h
  | delete i reply =>
    refine .inr (.inr (.inr ?_))
    simp only [redisStep] at h
    split at h
    · rename_i payload readAt hholding
      cases h
      exact ⟨i,reply,payload,readAt,rfl,hholding,rfl⟩
    · cases h

/-! ## Runs in Redis -/

theorem untampered_put (clock : Clock) (payload : String) (putAt : Time) (ttlSeconds : Int) :
    Untampered payload (putAt+ttlSeconds*clock.perSecond) (redisPut clock payload putAt ttlSeconds) :=
  ⟨fun _ he => (Option.some.inj he).symm,fun _ _ _ h => by cases h⟩

/-- Moving one take keeps the reads if what it has read is right. -/
theorem reads_moved (hreads : ∀ i p t,(w.takes i).read=some (p,t) → p=payload ∧ t<deadline)
    (hnew : ∀ p t,take.read=some (p,t) → p=payload ∧ t<deadline) (j : Nat) (p : String) (t : Time)
    (h : ((w.moved i take).takes j).read=some (p,t)) : p=payload ∧ t<deadline := by
  by_cases hj : j=i
  · rw [hj,moved_self] at h
    exact hnew p t h
  · rw [moved_ne w hj] at h
    exact hreads j p t h

theorem Untampered.step (h : Untampered payload deadline w) (hs : redisStep w a=some v) :
    Untampered payload deadline v := by
  rcases redisStep_cases hs with ⟨t,-,rfl⟩|⟨i,answered,-,-,-,rfl⟩|⟨i,p,-,-,hlive,rfl⟩|
    ⟨i,reply,p,readAt,-,hholding,rfl⟩
  · exact ⟨h.entry,h.reads⟩
  · exact ⟨h.entry,reads_moved h.reads fun p t hr => by cases hr⟩
  · refine ⟨h.entry,reads_moved h.reads fun p' t hr => ?_⟩
    obtain ⟨e,he,hpayload,hnow⟩ := live_eq_some hlive
    obtain rfl := h.entry e he
    cases hr
    exact ⟨hpayload.symm,hnow⟩
  · refine ⟨fun e he => ?_,reads_moved h.reads fun p' t hr => ?_⟩
    · dsimp only at he
      split at he
      · cases he
      · exact h.entry e he
    · cases hr
      exact h.reads i p readAt (by rw [hholding]; rfl)

/-- A take that has read the payload keeps that. -/
theorem read_step (hs : redisStep w a=some v) (h : (w.takes j).read.isSome) :
    (v.takes j).read.isSome := by
  have hkept : ∀ {i : Nat} {take : Take},((w.takes i).read.isSome → take.read.isSome) →
      ((w.moved i take).takes j).read.isSome := by
    intro i take htake
    by_cases hj : j=i
    · rw [hj,moved_self]
      exact htake (hj ▸ h)
    · rw [moved_ne w hj]
      exact h
  rcases redisStep_cases hs with ⟨t,-,rfl⟩|⟨i,answered,-,hwaiting,-,rfl⟩|⟨i,p,-,-,-,rfl⟩|
    ⟨i,reply,p,readAt,-,-,rfl⟩
  · exact h
  · exact hkept fun hr => by rw [hwaiting] at hr; cases hr
  · exact hkept fun _ => rfl
  · exact hkept fun _ => rfl

/-- A take that has returned the payload has returned it for good. -/
theorem served_step (hs : redisStep w a=some v) {t : Time} (h : (w.takes j).served=some t) :
    (v.takes j).served=some t := by
  have hkept : ∀ {i : Nat} {take : Take},(w.takes i).served=none →
      ((w.moved i take).takes j).served=some t := by
    intro i take hnone
    have hj : j≠i := by
      rintro rfl
      rw [hnone] at h
      cases h
    rw [moved_ne w hj]
    exact h
  rcases redisStep_cases hs with ⟨t,-,rfl⟩|⟨i,answered,-,hwaiting,-,rfl⟩|⟨i,p,-,hwaiting,-,rfl⟩|
    ⟨i,reply,p,readAt,-,hholding,rfl⟩
  · exact h
  · exact hkept (by rw [hwaiting]; rfl)
  · exact hkept (by rw [hwaiting]; rfl)
  · exact hkept (by rw [hholding]; rfl)

/-- Another take that reads keeps the reader single only when there was none. -/
theorem singleReader_moved_iff (hread : take.read.isSome) (hbefore : (w.takes i).read=none) :
    SingleReader (w.moved i take) ↔ ∀ j,(w.takes j).read=none := by
  constructor
  · intro hsingle j
    cases hj : (w.takes j).read with
    | none => rfl
    | some r =>
      have hne : j≠i := by
        rintro rfl
        rw [hbefore] at hj
        cases hj
      refine absurd (hsingle j i ?_ ?_) hne
      · rw [moved_ne w hne,hj]
        rfl
      · rw [moved_self]
        exact hread
  · intro hnone j k hj hk
    have honly : ∀ {j : Nat},((w.moved i take).takes j).read.isSome → j=i := by
      intro j hj
      by_contra hne
      rw [moved_ne w hne,hnone j] at hj
      cases hj
    rw [honly hj,honly hk]

/-- A take that has read as much as before leaves the readers as they were. -/
theorem singleReader_moved_same (h : take.read=(w.takes i).read) :
    SingleReader (w.moved i take) ↔ SingleReader w := by
  have hsame : ∀ j,((w.moved i take).takes j).read=(w.takes j).read := by
    intro j
    by_cases hj : j=i
    · rw [hj,moved_self,h]
    · rw [moved_ne w hj]
  simp only [SingleReader,hsame]

/-- A take that returns nothing more leaves the times as they were. -/
theorem inTime_moved_iff (hbefore : (w.takes i).served=none) :
    InTime deadline (w.moved i take) ↔
      InTime deadline w ∧ ∀ t,take.served=some t → t<deadline := by
  constructor
  · intro h
    refine ⟨fun j t hj => h j t ?_,fun t ht => h i t (by rw [moved_self]; exact ht)⟩
    have hne : j≠i := by
      rintro rfl
      rw [hbefore] at hj
      cases hj
    rw [moved_ne w hne]
    exact hj
  · rintro ⟨h,hnew⟩ j t hj
    by_cases hne : j=i
    · rw [hne,moved_self] at hj
      exact hnew t hj
    · rw [moved_ne w hne] at hj
      exact h j t hj

/-- Whether a step keeps a single reader and the deadline is whether it was in
turn. -/
theorem inTurn_iff (hs : redisStep w a=some v) (h : SingleReader w ∧ InTime deadline w) :
    (SingleReader v ∧ InTime deadline v) ↔ InTurn deadline w a := by
  rcases redisStep_cases hs with ⟨t,rfl,rfl⟩|⟨i,answered,rfl,hwaiting,hlive,rfl⟩|
    ⟨i,p,rfl,hwaiting,hlive,rfl⟩|⟨i,reply,p,readAt,rfl,hholding,rfl⟩
  · exact iff_of_true h trivial
  · refine iff_of_true ?_ fun ha hsome => ?_
    · rw [singleReader_moved_same (by rw [hwaiting]; rfl),inTime_moved_iff (by rw [hwaiting]; rfl)]
      exact ⟨h.1,h.2,fun t ht => by cases ht⟩
    · rw [hlive ha] at hsome
      cases hsome
  · rw [singleReader_moved_iff rfl (by rw [hwaiting]; rfl),
      inTime_moved_iff (by rw [hwaiting]; rfl)]
    unfold InTurn
    rw [hlive]
    constructor
    · exact fun hv _ _ => hv.1
    · exact fun hc => ⟨hc rfl rfl,h.2,fun t ht => by cases ht⟩
  · have hsame : SingleReader (w.moved i (.returned (some p) readAt w.now)) ↔ SingleReader w :=
      singleReader_moved_same (by rw [hholding]; rfl)
    have htime : InTime deadline (w.moved i (.returned (some p) readAt w.now)) ↔
        InTime deadline w ∧ ∀ t,some w.now=some t → t<deadline :=
      inTime_moved_iff (by rw [hholding]; rfl)
    have hboth := and_congr hsame htime
    refine hboth.trans ⟨fun hv => hv.2.2 w.now rfl,fun hc => ⟨h.1,h.2,fun t ht => ?_⟩⟩
    cases ht
    exact hc

/-- The payload is returned once where it is read once. -/
theorem singleUse_of_singleReader (h : SingleReader w) : SingleUse w :=
  fun i j hi hj => h i j (read_of_served hi) (read_of_served hj)

/-- With every take settled the readers are those the payload was returned to. -/
theorem singleUse_iff_of_settled (h : Settled w) : SingleUse w ↔ SingleReader w := by
  have hserved : ∀ i,(w.takes i).read.isSome → (w.takes i).served.isSome := by
    intro i hi
    cases ht : w.takes i with
    | waiting =>
      rw [ht] at hi
      cases hi
    | holding payload readAt => exact absurd ht (h i payload readAt)
    | returned result readAt returnedAt =>
      cases result with
      | none =>
        rw [ht] at hi
        cases hi
      | some payload => rfl
  exact ⟨fun hsingle i j hi hj => hsingle i j (hserved i hi) (hserved j hj),
    singleUse_of_singleReader⟩

/-- In every run of the Redis store the payload has one reader and is returned
in time if and only if every step was in turn. -/
theorem redis_inTurn_iff {as : List RedisAction} (clock : Clock) (payload : String) (putAt : Time)
    (ttlSeconds : Int)
    (hrun : Run (ofPartial redisStep) (redisPut clock payload putAt ttlSeconds) as w) :
    (SingleReader w ∧ InTime deadline w) ↔
      Run (guarded (ofPartial redisStep) (InTurn deadline)) (redisPut clock payload putAt ttlSeconds)
        as w := by
  refine hrun.holds_iff_guarded (J:=fun _ => True) (P:=fun w => SingleReader w ∧ InTime deadline w)
    (deterministic_ofPartial redisStep) trivial (fun _ _ _ _ _ => trivial)
    ⟨fun i j hi => (by cases hi),fun i t ht => (by cases ht)⟩ ?_ ?_
  · intro a l b hs hb
    exact ⟨fun i j hi hj => hb.1 i j (read_step hs hi) (read_step hs hj),
      fun i t ht => hb.2 i t (served_step hs ht)⟩
  · exact fun a l b _ ha hs => inTurn_iff hs ha

/-! ## Runs in memory -/

/-- What every run of the memory store keeps: while the entry is there nobody
has been served, and what was served was served once and in time. -/
structure Spent (expires : Int) (deadline : Time) (w : World) : Prop where
  entry : ∀ e,w.entry=some e → e.expiresAt=expires ∧ ∀ j,(w.takes j).served=none
  single : SingleUse w
  inTime : InTime deadline w

/-- A take that ends without the payload serves nobody. -/
theorem Spent.refuse {expires : Int} (h : Spent expires deadline w) (hwaiting : w.takes i=.waiting)
    (rest : Option Entry) (hrest : ∀ e,rest=some e → w.entry=some e) :
    Spent expires deadline {w.moved i (.returned none w.now w.now) with entry := rest} := by
  have hsame : ∀ j,((w.moved i (.returned none w.now w.now)).takes j).served=(w.takes j).served := by
    intro j
    by_cases hj : j=i
    · rw [hj,moved_self,hwaiting]
      rfl
    · rw [moved_ne w hj]
  refine ⟨fun e he => ?_,fun j k hj hk => ?_,fun j t hj => ?_⟩
  · obtain ⟨hexpires,hnone⟩ := h.entry e (hrest e he)
    exact ⟨hexpires,fun j => (hsame j).trans (hnone j)⟩
  · exact h.single j k (hsame j ▸ hj) (hsame k ▸ hk)
  · exact h.inTime j t ((hsame j).symm.trans hj)

/-- A take that drops a live entry is the first to be served. -/
theorem Spent.serve {expires : Int} (h : Spent expires deadline w) {e : Entry} (he : w.entry=some e)
    (hnow : w.now<deadline) :
    Spent expires deadline {w.moved i (.returned (some e.payload) w.now w.now) with entry := none} := by
  have hnone := (h.entry e he).2
  have honly : ∀ {j : Nat} {t : Time},
      ((w.moved i (.returned (some e.payload) w.now w.now)).takes j).served=some t →
        j=i ∧ t=w.now := by
    intro j t hj
    by_cases hne : j=i
    · rw [hne,moved_self] at hj
      cases hj
      exact ⟨hne,rfl⟩
    · rw [moved_ne w hne,hnone j] at hj
      cases hj
  refine ⟨fun e' he' => (by cases he'),fun j k hj hk => ?_,fun j t hj => ?_⟩
  · obtain ⟨t,ht⟩ := Option.isSome_iff_exists.mp hj
    obtain ⟨t',ht'⟩ := Option.isSome_iff_exists.mp hk
    rw [(honly ht).1,(honly ht').1]
  · rw [(honly hj).2]
    exact hnow

/-- Whole seconds never outlive the deadline. -/
theorem before_deadline (clock : Clock) {putAt now : Time} {ttlSeconds : Int}
    (h : clock.seconds now<clock.seconds putAt+ttlSeconds) :
    now<putAt+ttlSeconds*clock.perSecond := by
  have hpos : (0 : Int)<clock.perSecond := Int.natCast_pos.mpr clock.pos
  have hnow := Int.lt_mul_of_ediv_lt hpos h
  have hput := Int.ediv_mul_le putAt (Int.ne_of_gt hpos)
  rw [Int.add_mul] at hnow
  exact Int.lt_of_lt_of_le hnow (Int.add_le_add_right hput _)

theorem Spent.step (clock : Clock) {expires : Int}
    (hdeadline : ∀ now,clock.seconds now<expires → now<deadline) (h : Spent expires deadline w)
    {a : MemoryAction} (hs : memoryStep clock w a=some v) : Spent expires deadline v := by
  cases a with
  | wait t =>
    simp only [memoryStep,Option.ite_none_right_eq_some,Option.some.injEq] at hs
    obtain ⟨-,rfl⟩ := hs
    exact ⟨h.entry,h.single,h.inTime⟩
  | take i =>
    simp only [memoryStep] at hs
    split at hs
    · rename_i hwaiting
      split at hs
      · rename_i hnone
        cases hs
        exact h.refuse hwaiting w.entry fun e he => he
      · rename_i e he
        split at hs
        · cases hs
          exact h.refuse hwaiting none fun e he => by cases he
        · rename_i hlive
          cases hs
          refine h.serve he (hdeadline w.now ?_)
          rw [← (h.entry e he).1]
          exact Int.not_le.mp hlive
    · cases hs

/-- In every run of the memory store the payload is returned at most once, and
before the deadline. -/
theorem memory_single_use {as : List MemoryAction} (clock : Clock) (payload : String) (putAt : Time)
    (ttlSeconds : Int)
    (hrun : Run (ofPartial (memoryStep clock)) (memoryPut clock payload putAt ttlSeconds) as w) :
    SingleUse w ∧ InTime (putAt+ttlSeconds*clock.perSecond) w := by
  have hstart : Spent (clock.seconds putAt+ttlSeconds) (putAt+ttlSeconds*clock.perSecond)
      (memoryPut clock payload putAt ttlSeconds) :=
    ⟨fun e he => ⟨by cases he; rfl,fun _ => rfl⟩,fun i j hi => (by cases hi),
      fun i t ht => (by cases ht)⟩
  have hspent := hrun.invariant hstart fun a l b ha hs => ha.step clock (fun _ => before_deadline clock) hs
  exact ⟨hspent.single,hspent.inTime⟩

/-! ## Both stores -/

/-- A token is single-use in memory, in every order of its takes. In Redis
every take that is served read the payload before the deadline; the token is
single-use and served in time in every run whose steps are in turn, and once
no take is under way, in no other run. -/
theorem take_single_use (clock : Clock) (payload : String) (putAt : Time) (ttlSeconds : Int) :
    (∀ as w,Run (ofPartial (memoryStep clock)) (memoryPut clock payload putAt ttlSeconds) as w →
      SingleUse w ∧ InTime (putAt+ttlSeconds*clock.perSecond) w) ∧
    ∀ as w,Run (ofPartial redisStep) (redisPut clock payload putAt ttlSeconds) as w →
      Untampered payload (putAt+ttlSeconds*clock.perSecond) w ∧
      (Run (guarded (ofPartial redisStep) (InTurn (putAt+ttlSeconds*clock.perSecond)))
          (redisPut clock payload putAt ttlSeconds) as w →
        SingleUse w ∧ InTime (putAt+ttlSeconds*clock.perSecond) w) ∧
      (Settled w → (SingleUse w ∧ InTime (putAt+ttlSeconds*clock.perSecond) w ↔
        Run (guarded (ofPartial redisStep) (InTurn (putAt+ttlSeconds*clock.perSecond)))
          (redisPut clock payload putAt ttlSeconds) as w)) := by
  refine ⟨fun as w hrun => memory_single_use clock payload putAt ttlSeconds hrun,fun as w hrun => ?_⟩
  have hiff := @redis_inTurn_iff w (putAt+ttlSeconds*clock.perSecond) as clock payload putAt ttlSeconds
    hrun
  refine ⟨?_,fun hguarded => ?_,fun hsettled => ?_⟩
  · exact hrun.invariant (untampered_put clock payload putAt ttlSeconds) fun a l b ha hs => ha.step hs
  · obtain ⟨hsingle,htime⟩ := hiff.mpr hguarded
    exact ⟨singleUse_of_singleReader hsingle,htime⟩
  · rw [singleUse_iff_of_settled hsettled]
    exact hiff

/-- A clock in milliseconds. -/
def millis : Clock := ⟨1000,Nat.succ_pos 999⟩

/-- A click on a reset link, and another one once its take has returned. -/
def twoClicks : List RedisAction := [.get 0 true,.delete 0 .carriedOut,.get 1 true]

/-- The second click finds nothing. -/
theorem take_single_use_twoClicks :
    ∃ w,Run (ofPartial redisStep) (redisPut millis "user-1" 0 3600) twoClicks w ∧ SingleUse w ∧
      InTime (0+3600*millis.perSecond) w := by
  have hfirst : Run (guarded (ofPartial redisStep) (InTurn (0+3600*millis.perSecond)))
      (redisPut millis "user-1" 0 3600) [.get 0 true] _ := Run.start.next ⟨rfl,fun _ _ _ => rfl⟩
  have hdeadline : (0 : Int)<0+3600*millis.perSecond := by decide
  have hdelete : Run (guarded (ofPartial redisStep) (InTurn (0+3600*millis.perSecond)))
      (redisPut millis "user-1" 0 3600) [.get 0 true,.delete 0 .carriedOut] _ :=
    hfirst.next (l:=RedisAction.delete 0 .carriedOut) ⟨rfl,hdeadline⟩
  have hsecond : Run (guarded (ofPartial redisStep) (InTurn (0+3600*millis.perSecond)))
      (redisPut millis "user-1" 0 3600) twoClicks _ :=
    hdelete.next (l:=RedisAction.get 1 true) ⟨rfl,fun _ hlive => by cases hlive⟩
  have hrun := hsecond.unguard
  exact ⟨_,hrun,((take_single_use millis "user-1" 0 3600).2 _ _ hrun).2.1 hsecond⟩

/-- Two clicks on one reset link whose reads cross. -/
def crossedClicks : List RedisAction :=
  [.get 0 true,.get 1 true,.delete 0 .carriedOut,.delete 1 .carriedOut]

/-- Both are served. -/
theorem crossed_clicks_both_served :
    ∃ w,Run (ofPartial redisStep) (redisPut millis "user-1" 0 3600) crossedClicks w ∧
      ¬SingleUse w := by
  have hview : (crossedClicks.foldlM redisStep (redisPut millis "user-1" 0 3600)).map
      (fun w => ((w.takes 0).served,(w.takes 1).served))=some (some 0,some 0) := by decide +kernel
  obtain ⟨w,hw,hserved⟩ := Option.map_eq_some_iff.mp hview
  obtain ⟨h0,h1⟩ := Prod.mk.inj hserved
  refine ⟨w,run_of_foldlM hw,fun hsingle => ?_⟩
  exact absurd (hsingle 0 1 (by rw [h0]; rfl) (by rw [h1]; rfl)) (by decide)

end Voyagent.OneShotTokens
