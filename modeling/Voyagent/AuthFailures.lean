import Mathlib.Data.Rat.Defs
import Mathlib.Algebra.Order.Ring.Rat
import Voyagent.LruCache
import Voyagent.SlidingWindows

/-!
# The limit on audited sign-in failures

Failures are counted by their key, in Redis where it answers and in a bounded
table of the process where it does not. A counter starts at the first failure
of its window and is forgotten with it, or with its entry. What a window holds
is bounded as long as no counter starts while failures that another one has
counted are recent.
-/

namespace Voyagent.AuthFailures

open KeyedMap LruCache SlidingWindows

/-- `_RATE_LIMIT`. -/
def rateLimit : Nat := 5

/-- `_RATE_WINDOW_SECONDS`. -/
def rateWindowSeconds : Int := 60

/-- `_INMEM_LIMIT_CAP`. -/
def inmemLimitCap : Nat := 2048

/-! ## The table of the process -/

/-- `_INMEM_LIMITER`: the count of a key and when its window started. -/
abbrev InmemLimiter : Type := Table String (Nat × Int)

/-- `int(time.time())`. -/
def wholeSeconds (time : Rat) : Int := time.num.tdiv time.den

/-- A window starts with its first failure; the oldest entries beyond the cap go. -/
def startWindow (limiter : InmemLimiter) (key : String) (now : Int) : InmemLimiter :=
  let stored := touch (KeyedMap.set limiter key (1,now)) key
  stored.drop (stored.length-inmemLimitCap)

/-- The count of a running window, zero without one. -/
def runningCount (limiter : InmemLimiter) (key : String) (time : Rat) : Nat :=
  match KeyedMap.get limiter key with
  | none => 0
  | some (count,firstTs) => if firstTs+rateWindowSeconds≤wholeSeconds time then 0 else count

/-- `_allow_inmem`. -/
def allowInmem (limiter : InmemLimiter) (key : String) (time : Rat) : InmemLimiter × Bool :=
  match KeyedMap.get limiter key with
  | none => (startWindow limiter key (wholeSeconds time),true)
  | some (count,firstTs) =>
    if firstTs+rateWindowSeconds≤wholeSeconds time then
      (startWindow limiter key (wholeSeconds time),true)
    else if rateLimit≤count then (limiter,false)
    else (touch (KeyedMap.set limiter key (count+1,firstTs)) key,true)

/-! ## Redis -/

/-- A counter in Redis, with the time it expires once that is set. -/
structure RedisCounter where
  count : Nat
  expires : Option Rat
  deriving DecidableEq

abbrev Redis : Type := Table String RedisCounter

def RedisCounter.isLive (c : RedisCounter) (time : Rat) : Bool :=
  match c.expires with
  | none => true
  | some expires => decide (time<expires)

/-- How the calls to Redis go. -/
inductive RedisCourse where
  /-- No URL is configured, or there is no client library. -/
  | absent
  /-- `INCR` raises before it is applied. -/
  | unreachable
  /-- `INCR` is applied, but its answer is lost. -/
  | incrLost
  /-- `EXPIRE`, if it is called, raises before it is applied. -/
  | expireRefused
  /-- `EXPIRE`, if it is called, is applied, but its answer is lost. -/
  | expireLost
  | answered
  deriving DecidableEq

/-- The name of a key in Redis. -/
def redisKey (key : String) : String := "voyagent:auth_fail:"++key

/-- The counter after an `INCR`. -/
def incremented (redis : Redis) (rkey : String) (time : Rat) : RedisCounter :=
  match (KeyedMap.get redis rkey).filter fun c => c.isLive time with
  | some c => {c with count := c.count+1}
  | none => ⟨1,none⟩

/-- The counter after an `EXPIRE`. -/
def RedisCounter.expireAfter (c : RedisCounter) (time : Rat) : RedisCounter :=
  {c with expires := some (time+rateWindowSeconds)}

/-- `_allow_redis`, by the clock of Redis. -/
def allowRedis (redis : Redis) (key : String) (time : Rat) (course : RedisCourse) :
    Redis × Option Bool :=
  let c := incremented redis (redisKey key) time
  let withCounter := fun c => KeyedMap.set redis (redisKey key) c
  let verdict := decide (c.count≤rateLimit)
  match course with
  | .absent | .unreachable => (redis,none)
  | .incrLost => (withCounter c,none)
  | .expireRefused => if c.count=1 then (withCounter c,none) else (withCounter c,some verdict)
  | .expireLost =>
    if c.count=1 then (withCounter (c.expireAfter time),none) else (withCounter c,some verdict)
  | .answered =>
    if c.count=1 then (withCounter (c.expireAfter time),some verdict)
    else (withCounter c,some verdict)

/-! ## Failures -/

/-- A rejected sign-in: when it happens, by both clocks, how Redis behaves and
whether the row, if allowed, can be written. -/
structure Failure where
  remoteAddr : String
  path : String
  time : Rat
  redisTime : Rat
  course : RedisCourse
  written : Bool

/-- The key of a failure. -/
def Failure.key (e : Failure) : String := e.remoteAddr++"|"++e.path

/-- Both limiters. -/
structure Limiters where
  inmem : InmemLimiter := []
  redis : Redis := []

/-- `_allow`. -/
def allow (st : Limiters) (e : Failure) : Limiters × Bool :=
  let (redis,verdict) := allowRedis st.redis e.key e.redisTime e.course
  match verdict with
  | some verdict => ({st with redis},verdict)
  | none =>
    let (inmem,verdict) := allowInmem st.inmem e.key e.time
    ({inmem,redis},verdict)

/-- `record_auth_failure`, and whether it wrote a row. -/
def recordAuthFailure (st : Limiters) (e : Failure) : Limiters × Bool :=
  let (st,allowed) := allow st e
  (st,allowed && e.written)

/-- The limiter that counts a failure. -/
inductive Limiter where
  | inmem | redis
  deriving DecidableEq

/-- The limiter whose verdict is taken. -/
def limiterOf (st : Limiters) (e : Failure) : Limiter :=
  if (allowRedis st.redis e.key e.redisTime e.course).2.isSome then .redis else .inmem

/-- The count the failure finds, zero if a counter starts with it. -/
def countFound (st : Limiters) (e : Failure) : Nat :=
  match limiterOf st e with
  | .redis => (incremented st.redis (redisKey e.key) e.redisTime).count-1
  | .inmem => runningCount st.inmem e.key e.time

/-! ## Runs -/

/-- What happens: a failure, or Redis loses a key. -/
inductive Event where
  | failure (e : Failure)
  | redisForgets (rkey : String)

/-- A written row, with the limiter that counted it. -/
structure Recorded where
  key : String
  time : Rat
  limiter : Limiter
  deriving DecidableEq

/-- The limiters and the rows written so far. -/
structure Run where
  limiters : Limiters := {}
  recorded : List Recorded := []

def Run.step (s : Run) : Event → Run
  | .failure e =>
    let (limiters,written) := recordAuthFailure s.limiters e
    ⟨limiters,if written then s.recorded++[⟨e.key,e.time,limiterOf s.limiters e⟩] else s.recorded⟩
  | .redisForgets rkey =>
    {s with limiters := {s.limiters with redis := s.limiters.redis.filter fun c => decide (c.1≠rkey)}}

def replay (events : List Event) : Run := events.foldl Run.step {}

/-- The times of the rows of a key. -/
def timesOf (key : String) (recorded : List Recorded) : List Rat :=
  (recorded.filter fun r => decide (r.key=key)).map Recorded.time

/-- The limiter that counted the last row of a key. -/
def lastLimiter (key : String) (recorded : List Recorded) : Option Limiter :=
  (recorded.filter fun r => decide (r.key=key)).getLast?.map Recorded.limiter

/-- The window as a length of time. -/
def window : Rat := rateWindowSeconds

/-- The failure is counted on by the limiter of the last row of its key, or no
row of the key is younger than a window. -/
def CountedOn (s : Run) (e : Failure) : Prop :=
  (countFound s.limiters e≠0 ∧ lastLimiter e.key s.recorded=some (limiterOf s.limiters e)) ∨
    ∀ t∈timesOf e.key s.recorded,t≤e.time-window

instance (s : Run) (e : Failure) : Decidable (CountedOn s e) := instDecidableOr

/-! ## What a failure does to the counters -/

section Inmem

variable {limiter : InmemLimiter} {key : String} {time : Rat}

/-- The most recently used entry stays. -/
theorem mem_drop_touch {d : InmemLimiter} {v : Nat × Int} (h : KeyedMap.get d key=some v) :
    (key,v)∈(touch d key).drop ((touch d key).length-inmemLimitCap) := by
  unfold touch
  rw [h]
  dsimp only
  have hcap : 1 ≤ inmemLimitCap := by decide
  have hle : (erase d key++[(key,v)]).length-inmemLimitCap≤(erase d key).length := by
    rw [List.length_append,List.length_singleton]
    exact Nat.sub_le_of_le_add (Nat.add_le_add_left hcap _)
  rw [List.drop_append_of_le_length hle]
  exact List.mem_append_right _ (List.mem_singleton_self _)

/-- A new window counts one; the other entries are old ones. -/
theorem startWindow_spec (h : (limiter.map Prod.fst).Nodup) (key : String) (now : Int) :
    ((startWindow limiter key now).map Prod.fst).Nodup ∧
    KeyedMap.get (startWindow limiter key now) key=some (1,now) ∧
    ∀ k v,k≠key → KeyedMap.get (startWindow limiter key now) k=some v → KeyedMap.get limiter k=some v := by
  have hset := nodup_set h key (1,now)
  have htouch := nodup_touch hset key
  have hself : KeyedMap.get (KeyedMap.set limiter key (1,now)) key=some (1,now) := by
    rw [get_set,if_pos rfl]
  have hdrop : ((startWindow limiter key now).map Prod.fst).Nodup :=
    htouch.sublist ((List.drop_sublist _ _).map _)
  have hlast : (key,(1,now))∈startWindow limiter key now := by
    unfold startWindow
    exact mem_drop_touch hself
  refine ⟨hdrop,(mem_iff_get hdrop).mp hlast,fun k v hk hget => ?_⟩
  have hmem := List.mem_of_mem_drop ((mem_iff_get hdrop).mpr hget)
  have hbefore := (mem_iff_get hset).mp ((touch_perm _ _).mem_iff.mp hmem)
  rwa [get_set,if_neg (Ne.symm hk)] at hbefore

/-- What `_allow_inmem` does to the table. -/
structure InmemStep (limiter : InmemLimiter) (key : String) (time : Rat) : Prop where
  nodup : ((allowInmem limiter key time).1.map Prod.fst).Nodup
  others : ∀ k v,k≠key → KeyedMap.get (allowInmem limiter key time).1 k=some v →
    KeyedMap.get limiter k=some v
  below : (allowInmem limiter key time).2=true → runningCount limiter key time<rateLimit
  counted : ∀ v,KeyedMap.get (allowInmem limiter key time).1 key=some v →
    runningCount limiter key time+(if (allowInmem limiter key time).2 then 1 else 0)≤v.1

theorem inmemStep (h : (limiter.map Prod.fst).Nodup) (key : String) (time : Rat) :
    InmemStep limiter key time := by
  obtain ⟨hnodup,hself,hothers⟩ := startWindow_spec h key (wholeSeconds time)
  have hfresh : allowInmem limiter key time=(startWindow limiter key (wholeSeconds time),true) →
      runningCount limiter key time=0 → InmemStep limiter key time := by
    intro hallow hcount
    constructor
    · rw [hallow]
      dsimp only
      exact hnodup
    · rw [hallow]
      dsimp only
      exact hothers
    · rw [hcount]
      exact fun _ => by decide
    · rw [hallow,hcount]
      dsimp only
      intro v hv
      cases hself.symm.trans hv
      exact Nat.le_refl 1
  cases hget : KeyedMap.get limiter key with
  | none => exact hfresh (by rw [allowInmem,hget]) (by rw [runningCount,hget])
  | some entry =>
    obtain ⟨count,firstTs⟩ := entry
    by_cases hover : firstTs+rateWindowSeconds≤wholeSeconds time
    · refine hfresh ?_ ?_
      · rw [allowInmem,hget]
        exact if_pos hover
      · rw [runningCount,hget]
        exact if_pos hover
    · have hcount : runningCount limiter key time=count := by
        rw [runningCount,hget]
        exact if_neg hover
      by_cases hfull : rateLimit≤count
      · have hallow : allowInmem limiter key time=(limiter,false) := by
          rw [allowInmem,hget]
          exact (if_neg hover).trans (if_pos hfull)
        constructor
        · rw [hallow]
          exact h
        · rw [hallow]
          exact fun _ _ _ hv => hv
        · rw [hallow]
          exact nofun
        · rw [hallow,hcount]
          intro v hv
          cases hget.symm.trans hv
          exact Nat.le_refl _
      · have hallow : allowInmem limiter key time=
            (touch (KeyedMap.set limiter key (count+1,firstTs)) key,true) := by
          rw [allowInmem,hget]
          exact (if_neg hover).trans (if_neg hfull)
        have hset := nodup_set h key (count+1,firstTs)
        constructor
        · rw [hallow]
          exact nodup_touch hset key
        · rw [hallow]
          intro k v hk hv
          rwa [get_touch hset,get_set,if_neg (Ne.symm hk)] at hv
        · rw [hcount]
          exact fun _ => Nat.lt_of_not_le hfull
        · rw [hallow,hcount]
          intro v hv
          rw [get_touch hset,get_set,if_pos rfl] at hv
          cases hv
          exact Nat.le_refl _

end Inmem

section RedisSide

variable {redis : Redis} {key : String} {time : Rat} {course : RedisCourse}

theorem incremented_pos (redis : Redis) (rkey : String) (time : Rat) :
    0<(incremented redis rkey time).count := by
  unfold incremented
  split
  · exact Nat.succ_pos _
  · exact Nat.one_pos

/-- What `_allow_redis` does to the counters. -/
structure RedisStep (redis : Redis) (key : String) (time : Rat) (course : RedisCourse) : Prop where
  others : ∀ k v,k≠redisKey key → KeyedMap.get (allowRedis redis key time course).1 k=some v →
    KeyedMap.get redis k=some v
  verdict : ∀ allowed,(allowRedis redis key time course).2=some allowed →
    allowed=decide ((incremented redis (redisKey key) time).count≤rateLimit) ∧
    ∀ v,KeyedMap.get (allowRedis redis key time course).1 (redisKey key)=some v →
      v.count=(incremented redis (redisKey key) time).count

/-- Redis is as it was, or has the incremented counter. -/
theorem allowRedis_cases (redis : Redis) (key : String) (time : Rat) (course : RedisCourse) :
    allowRedis redis key time course=(redis,none) ∨
    ∃ c : RedisCounter,c.count=(incremented redis (redisKey key) time).count ∧
      (allowRedis redis key time course=(KeyedMap.set redis (redisKey key) c,none) ∨
        allowRedis redis key time course=(KeyedMap.set redis (redisKey key) c,
          some (decide ((incremented redis (redisKey key) time).count≤rateLimit)))) := by
  unfold allowRedis
  cases course with
  | absent => exact .inl rfl
  | unreachable => exact .inl rfl
  | incrLost => exact .inr ⟨_,rfl,.inl rfl⟩
  | expireRefused =>
    dsimp only
    split
    · exact .inr ⟨_,rfl,.inl rfl⟩
    · exact .inr ⟨_,rfl,.inr rfl⟩
  | expireLost =>
    dsimp only
    split
    · exact .inr ⟨RedisCounter.expireAfter _ time,rfl,.inl rfl⟩
    · exact .inr ⟨_,rfl,.inr rfl⟩
  | answered =>
    dsimp only
    split
    · exact .inr ⟨RedisCounter.expireAfter _ time,rfl,.inr rfl⟩
    · exact .inr ⟨_,rfl,.inr rfl⟩

theorem redisStep (redis : Redis) (key : String) (time : Rat) (course : RedisCourse) :
    RedisStep redis key time course := by
  obtain hsame|⟨c,hc,hset⟩ := allowRedis_cases redis key time course
  · constructor
    · rw [hsame]
      exact fun _ _ _ hv => hv
    · rw [hsame]
      exact nofun
  · have hothers : ∀ k v,k≠redisKey key → KeyedMap.get (KeyedMap.set redis (redisKey key) c) k=some v →
        KeyedMap.get redis k=some v := by
      intro k v hk hv
      rwa [get_set,if_neg (Ne.symm hk)] at hv
    obtain hset|hset := hset
    · constructor
      · rw [hset]
        exact hothers
      · rw [hset]
        exact nofun
    · constructor
      · rw [hset]
        exact hothers
      · rw [hset]
        intro allowed hallowed
        cases hallowed
        refine ⟨rfl,fun v hv => ?_⟩
        rw [get_set,if_pos rfl] at hv
        cases hv
        exact hc

end RedisSide

/-- The count a limiter has stored for a key. -/
def stored (st : Limiters) (key : String) : Limiter → Option Nat
  | .inmem => (KeyedMap.get st.inmem key).map Prod.fst
  | .redis => (KeyedMap.get st.redis (redisKey key)).map RedisCounter.count

section Both

variable {st : Limiters} {e : Failure}

/-- What a failure does to the counts: those of other keys stay or are
forgotten, and the one it is counted by stays or grows. -/
structure Step (st : Limiters) (e : Failure) : Prop where
  nodup : ((allow st e).1.inmem.map Prod.fst).Nodup
  others : ∀ key limiter c,key≠e.key → stored (allow st e).1 key limiter=some c →
    stored st key limiter=some c
  below : (allow st e).2=true → countFound st e<rateLimit
  counted : ∀ c,stored (allow st e).1 e.key (limiterOf st e)=some c →
    countFound st e+(if (allow st e).2 then 1 else 0)≤c

theorem redisKey_inj {key key' : String} : redisKey key=redisKey key' ↔ key=key' :=
  String.append_right_inj _

theorem step_of_nodup (h : (st.inmem.map Prod.fst).Nodup) (e : Failure) : Step st e := by
  have hredis := redisStep st.redis e.key e.redisTime e.course
  have hpos := incremented_pos st.redis (redisKey e.key) e.redisTime
  have hothers : ∀ key c,key≠e.key →
      ((KeyedMap.get (allowRedis st.redis e.key e.redisTime e.course).1 (redisKey key)).map
        RedisCounter.count)=some c → stored st key .redis=some c := by
    intro key c hkey hstored
    obtain ⟨v,hv,rfl⟩ := Option.map_eq_some_iff.mp hstored
    have hbefore := hredis.others _ v (fun h => hkey (redisKey_inj.mp h)) hv
    exact Option.map_eq_some_iff.mpr ⟨v,hbefore,rfl⟩
  cases hverdict : (allowRedis st.redis e.key e.redisTime e.course).2 with
  | some allowed =>
    have hallow : allow st e=
        ({st with redis := (allowRedis st.redis e.key e.redisTime e.course).1},allowed) := by
      unfold allow
      dsimp only
      rw [hverdict]
    have hlimiter : limiterOf st e=.redis := if_pos (by rw [hverdict]; rfl)
    obtain ⟨rfl,hcount⟩ := hredis.verdict allowed hverdict
    have hfound : countFound st e=(incremented st.redis (redisKey e.key) e.redisTime).count-1 := by
      unfold countFound
      rw [hlimiter]
    constructor
    · rw [hallow]
      exact h
    · rw [hallow]
      intro key limiter c hkey hstored
      cases limiter with
      | inmem => exact hstored
      | redis => exact hothers key c hkey hstored
    · rw [hallow,hfound]
      intro hallowed
      have hle := of_decide_eq_true hallowed
      omega
    · rw [hallow,hfound,hlimiter]
      intro c hstored
      obtain ⟨v,hv,rfl⟩ := Option.map_eq_some_iff.mp hstored
      rw [hcount v hv]
      split <;> omega
  | none =>
    have hallow : allow st e=(⟨(allowInmem st.inmem e.key e.time).1,
        (allowRedis st.redis e.key e.redisTime e.course).1⟩,(allowInmem st.inmem e.key e.time).2) := by
      unfold allow
      dsimp only
      rw [hverdict]
    have hlimiter : limiterOf st e=.inmem := if_neg (by rw [hverdict]; exact Bool.false_ne_true)
    have hfound : countFound st e=runningCount st.inmem e.key e.time := by
      unfold countFound
      rw [hlimiter]
    have hinmem := inmemStep h e.key e.time
    constructor
    · rw [hallow]
      exact hinmem.nodup
    · rw [hallow]
      intro key limiter c hkey hstored
      cases limiter with
      | inmem =>
        obtain ⟨v,hv,rfl⟩ := Option.map_eq_some_iff.mp hstored
        exact Option.map_eq_some_iff.mpr ⟨v,hinmem.others key v hkey hv,rfl⟩
      | redis => exact hothers key c hkey hstored
    · rw [hallow,hfound]
      exact hinmem.below
    · rw [hallow,hfound,hlimiter]
      intro c hstored
      obtain ⟨v,hv,rfl⟩ := Option.map_eq_some_iff.mp hstored
      exact hinmem.counted v hv

/-- A count that is found is stored. -/
theorem stored_of_found (h : countFound st e≠0) :
    stored st e.key (limiterOf st e)=some (countFound st e) := by
  unfold countFound at h ⊢
  cases hlimiter : limiterOf st e with
  | inmem =>
    rw [hlimiter] at h
    dsimp only at h ⊢
    unfold runningCount at h ⊢
    cases hget : KeyedMap.get st.inmem e.key with
    | none =>
      rw [hget] at h
      exact absurd rfl h
    | some entry =>
      obtain ⟨count,firstTs⟩ := entry
      rw [hget] at h
      dsimp only at h ⊢
      by_cases hover : firstTs+rateWindowSeconds≤wholeSeconds e.time
      · rw [if_pos hover] at h
        exact absurd rfl h
      · rw [if_neg hover,stored,hget]
        rfl
  | redis =>
    rw [hlimiter] at h
    dsimp only at h ⊢
    unfold incremented at h ⊢
    split at h
    · rename_i c hlive
      rw [stored,(Option.filter_eq_some_iff.mp hlive).1]
      rfl
    · exact absurd rfl h

end Both

/-! ## Every run -/

/-- No key has more rows than allowed in any window, and the count stored by
the limiter of its last row covers the rows less than a window old at `now`. -/
structure Covered (now : Rat) (s : Run) : Prop where
  nodup : (s.limiters.inmem.map Prod.fst).Nodup
  atMost : ∀ key,AtMost rateLimit window (timesOf key s.recorded)
  covers : ∀ key limiter c,lastLimiter key s.recorded=some limiter →
    stored s.limiters key limiter=some c → recentCount window now (timesOf key s.recorded)≤c

section Runs

variable {s : Run} {e : Failure} {now : Rat} {key : String} {recorded : List Recorded} {r : Recorded}

theorem timesOf_concat (key : String) (recorded : List Recorded) (r : Recorded) :
    timesOf key (recorded++[r])=
      if r.key=key then timesOf key recorded++[r.time] else timesOf key recorded := by
  unfold timesOf
  by_cases hkey : r.key=key <;> simp [hkey]

theorem lastLimiter_concat (key : String) (recorded : List Recorded) (r : Recorded) :
    lastLimiter key (recorded++[r])=
      if r.key=key then some r.limiter else lastLimiter key recorded := by
  unfold lastLimiter
  by_cases hkey : r.key=key <;> simp [hkey]

theorem covered_start (now : Rat) : Covered now {} :=
  ⟨List.nodup_nil,fun _ => atMost_nil,fun _ _ _ hlast => by cases hlast⟩

/-- What is recent to a failure that is counted on is covered by the count it finds. -/
theorem recent_le_found (h : Covered now s) (hle : now≤e.time) (hon : CountedOn s e) :
    recentCount window e.time (timesOf e.key s.recorded)≤countFound s.limiters e := by
  obtain ⟨hfound,hlast⟩|hquiet := hon
  · exact (recentCount_anti hle).trans (h.covers e.key _ _ hlast (stored_of_found hfound))
  · rw [recentCount_eq_zero hquiet]
    exact Nat.zero_le _

/-- A failure that is counted on keeps every window within the limit. -/
theorem Covered.failure (h : Covered now s) (hle : now≤e.time) (hon : CountedOn s e) :
    Covered e.time (s.step (.failure e)) := by
  have hstep := step_of_nodup h.nodup e
  have hrecent := recent_le_found h hle hon
  have hlimiters : (s.step (.failure e)).limiters=(allow s.limiters e).1 := rfl
  have hrows : (s.step (.failure e)).recorded=if (allow s.limiters e).2 && e.written then
      s.recorded++[⟨e.key,e.time,limiterOf s.limiters e⟩] else s.recorded := rfl
  have hold : ∀ key limiter c,key≠e.key → lastLimiter key s.recorded=some limiter →
      stored (allow s.limiters e).1 key limiter=some c →
      recentCount window e.time (timesOf key s.recorded)≤c := fun key limiter c hkey hlast hstored =>
    (recentCount_anti hle).trans (h.covers key limiter c hlast (hstep.others key limiter c hkey hstored))
  constructor
  · rw [hlimiters]
    exact hstep.nodup
  · intro key
    rw [hrows]
    split
    · rename_i hwritten
      rw [timesOf_concat]
      split
      · rename_i hkey
        subst hkey
        have hbelow := hstep.below (Bool.and_eq_true_iff.mp hwritten).1
        exact (h.atMost e.key).concat (hrecent.trans_lt hbelow)
      · exact h.atMost key
    · exact h.atMost key
  · intro key limiter c hlast hstored
    rw [hlimiters] at hstored
    rw [hrows] at hlast ⊢
    by_cases hkey : key=e.key
    · subst hkey
      split at hlast
      · rename_i hwritten
        rw [lastLimiter_concat,if_pos rfl] at hlast
        cases hlast
        have hcounted := hstep.counted c hstored
        rw [if_pos (Bool.and_eq_true_iff.mp hwritten).1] at hcounted
        rw [if_pos hwritten,timesOf_concat,if_pos rfl]
        exact ((recentCount_concat_le e.time).trans (Nat.add_le_add_right hrecent 1)).trans hcounted
      · rename_i hunwritten
        rw [if_neg hunwritten]
        -- Without a row the last one decides: it goes on with this counter, or nothing is recent.
        obtain ⟨-,hlast'⟩|hquiet := hon
        · cases hlast.symm.trans hlast'
          have hcounted := hstep.counted c hstored
          exact (hrecent.trans (Nat.le_add_right _ _)).trans hcounted
        · rw [recentCount_eq_zero hquiet]
          exact Nat.zero_le c
    · split at hlast
      · rename_i hwritten
        rw [lastLimiter_concat,if_neg (Ne.symm hkey)] at hlast
        rw [if_pos hwritten,timesOf_concat,if_neg (Ne.symm hkey)]
        exact hold key limiter c hkey hlast hstored
      · rename_i hunwritten
        rw [if_neg hunwritten]
        exact hold key limiter c hkey hlast hstored

theorem get_forgotten {redis : Redis} {rkey k : String} {c : RedisCounter}
    (h : KeyedMap.get (redis.filter fun c => decide (c.1≠rkey)) k=some c) : KeyedMap.get redis k=some c := by
  have hmem := (List.mem_filter.mp (mem_of_get h)).2
  have hk : k≠rkey := of_decide_eq_true hmem
  induction redis with
  | nil => cases h
  | cons entry redis ih =>
    obtain ⟨j,w⟩ := entry
    rw [get_cons]
    by_cases hj : j=rkey
    · rw [List.filter_cons_of_neg (by simpa using hj)] at h
      rw [if_neg fun h => hk (h.symm.trans hj)]
      exact ih h
    · rw [List.filter_cons_of_pos (by simpa using hj),get_cons] at h
      split
      · rename_i hkey
        rwa [if_pos hkey] at h
      · rename_i hkey
        rw [if_neg hkey] at h
        exact ih h

theorem Covered.redisForgets (h : Covered now s) (rkey : String) :
    Covered now (s.step (.redisForgets rkey)) := by
  refine ⟨h.nodup,h.atMost,fun key limiter c hlast hstored => ?_⟩
  cases limiter with
  | inmem => exact h.covers key .inmem c hlast hstored
  | redis =>
    obtain ⟨v,hv,rfl⟩ := Option.map_eq_some_iff.mp hstored
    exact h.covers key .redis v.count hlast (Option.map_eq_some_iff.mpr ⟨v,get_forgotten hv,rfl⟩)

end Runs

def Event.failure? : Event → Option Failure
  | .failure e => some e
  | .redisForgets _ => none

/-- Each failure of the run is counted on. -/
def AllCountedOn (s : Run) : List Event → Prop
  | [] => True
  | .failure e::events => CountedOn s e ∧ AllCountedOn (s.step (.failure e)) events
  | .redisForgets rkey::events => AllCountedOn (s.step (.redisForgets rkey)) events

instance decidableAllCountedOn : (s : Run) → (events : List Event) → Decidable (AllCountedOn s events)
  | _,[] => isTrue trivial
  | _,.failure _::events => @instDecidableAnd _ _ inferInstance (decidableAllCountedOn _ events)
  | _,.redisForgets _::events => decidableAllCountedOn _ events

/-- The times of the failures do not decrease. -/
def InOrder (events : List Event) : Prop :=
  (events.filterMap Event.failure?).Pairwise fun e f => e.time≤f.time

instance (events : List Event) : Decidable (InOrder events) :=
  inferInstanceAs (Decidable (List.Pairwise _ _))

theorem covered_run {events : List Event} {s : Run} {now : Rat} (h : Covered now s)
    (horder : InOrder events) (hlater : ∀ e∈events.filterMap Event.failure?,now≤e.time)
    (hon : AllCountedOn s events) : ∃ now',Covered now' (events.foldl Run.step s) := by
  induction events generalizing s now with
  | nil => exact ⟨now,h⟩
  | cons event events ih =>
    cases event with
    | failure e =>
      obtain ⟨hhead,htail⟩ := List.pairwise_cons.mp horder
      obtain ⟨hon,hrest⟩ := hon
      exact ih (h.failure (hlater e List.mem_cons_self) hon) htail hhead hrest
    | redisForgets rkey => exact ih (h.redisForgets rkey) horder hlater hon

/-- The rows of a key from `a` on and before `b`. -/
def rowsBetween (key : String) (a b : Rat) (recorded : List Recorded) : Nat :=
  recorded.countP fun r => decide (r.key=key ∧ a≤r.time ∧ r.time<b)

/-- In a run whose failures are all counted on, no more rows of a key than the
limit lie in any window. -/
theorem rows_atMost {events : List Event} (horder : InOrder events) (hon : AllCountedOn {} events)
    (key : String) (a : Rat) : rowsBetween key a (a+window) (replay events).recorded ≤ rateLimit := by
  have hstart : ∃ now : Rat,∀ e∈events.filterMap Event.failure?,now≤e.time := by
    cases hfailures : events.filterMap Event.failure? with
    | nil => exact ⟨0,nofun⟩
    | cons first failures =>
      unfold InOrder at horder
      rw [hfailures] at horder
      exact ⟨first.time,List.forall_mem_cons.mpr ⟨le_refl _,(List.pairwise_cons.mp horder).1⟩⟩
  obtain ⟨now,hlater⟩ := hstart
  obtain ⟨now',hcovered⟩ := covered_run (covered_start now) horder hlater hon
  have hmost := hcovered.atMost key a
  unfold timesOf at hmost
  rw [List.countP_map,List.countP_filter] at hmost
  refine le_trans (List.countP_mono_left fun r _ hr => ?_) hmost
  obtain ⟨hkey,hfrom,hto⟩ := of_decide_eq_true hr
  exact Bool.and_eq_true_iff.mpr ⟨decide_eq_true ⟨hfrom,hto⟩,decide_eq_true hkey⟩

/-- A failure counted in the process, with a row. -/
def failureAt (time : Rat) : Failure := ⟨"10.0.0.1","/chat/sessions",time,time,.absent,true⟩

/-- Five failures within a minute, a sixth that is refused, and one in a later window. -/
def spreadOut : List Event := ([0,12,24,36,48,55,120].map failureAt).map .failure

theorem spreadOut_rows :
    rowsBetween (failureAt 0).key 0 (0+window) (replay spreadOut).recorded ≤ rateLimit :=
  rows_atMost (by decide +kernel) (by decide +kernel) (failureAt 0).key 0

/-! ## Two windows back to back -/

/-- A window opens at 0 and is used up at 59; the next opens at 60. -/
def backToBack : List Event :=
  ([0,59,59,59,59,60,60,60,60,60].map failureAt).map .failure

/-- Nine rows lie in less than two seconds. -/
theorem backToBack_rows :
    ¬∀ events : List Event,InOrder events →
      ∀ key a,rowsBetween key a (a+window) (replay events).recorded ≤ rateLimit := by
  intro hclaim
  have hrows := hclaim backToBack (by decide +kernel) (failureAt 0).key 59
  revert hrows
  decide +kernel

end Voyagent.AuthFailures
