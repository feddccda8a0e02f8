import Mathlib.Algebra.Order.Ring.Rat
import Mathlib.Tactic.Linarith
import Voyagent.LockHolders
import Voyagent.TransitionRuns

/-!
# The vendor token cache

Callers read the cache without the lock, and again under it; whoever then
fetches keeps the lock limit the reply is in. An invalidation takes the same
lock. Every caller is one use of `get_token` or of `invalidate`; tokens carry
the number of their fetch.
-/

namespace Voyagent.TokenCache

open TransitionRuns LockHolders

/-- `_REFRESH_BUFFER_SECONDS`. -/
def refreshBuffer : Rat := 60

/-- `_CachedToken`, with the number of the fetch it came from. -/
structure CachedToken where
  accessToken : String
  expiresAt : Rat
  fetch : Nat
  deriving DecidableEq

/-- How the token endpoint answers, as `_refresh_locked` looks at it. -/
inductive Reply where
  | timeout
  | httpError
  /-- The waiting caller is cancelled. -/
  | cancelled
  | response (statusCode : Nat) (accessToken : Option String) (expiresIn : Option Rat)
  /-- A success whose body is not a JSON object. -/
  | unreadable (statusCode : Nat)
  deriving DecidableEq

/-- What `_refresh_locked` raises. -/
inductive RefreshError where
  | upstreamTimeout
  | transient
  | cancelled
  | mapped (statusCode : Nat)
  | permanent
  | decoding
  deriving DecidableEq

/-- `_refresh_locked` behind the request, at the clock reading it stores. -/
def refreshLocked (reply : Reply) (now : Rat) (fetch : Nat) : Except RefreshError CachedToken :=
  match reply with
  | .timeout => .error .upstreamTimeout
  | .httpError => .error .transient
  | .cancelled => .error .cancelled
  | .unreadable statusCode => if 400 ≤ statusCode then .error (.mapped statusCode) else .error .decoding
  | .response statusCode accessToken expiresIn =>
    if 400 ≤ statusCode then .error (.mapped statusCode)
    else
      match accessToken,expiresIn with
      | some token,some seconds =>
        if token="" then .error .permanent else .ok ⟨token,now+seconds,fetch⟩
      | _,_ => .error .permanent

/-- The cache's entry when it is more than the buffer away from its expiry. -/
def usable (cached : Option CachedToken) (now : Rat) : Option CachedToken :=
  cached.filter fun t => decide (now<t.expiresAt-refreshBuffer)

/-- Where a caller stands. -/
inductive Stage where
  | idle
  /-- In `get_token`, waiting for the lock. -/
  | queued
  /-- Holds the lock and waits for the endpoint; the last cache check was then. -/
  | fetching (checkedAt : Rat)
  | returned (token : CachedToken) (checkedAt : Rat)
  | raised (error : RefreshError)
  /-- In `invalidate`, waiting for the lock. -/
  | invalidating
  | invalidated
  deriving DecidableEq

structure World where
  cached : Option CachedToken := none
  /-- The caller that holds the lock. -/
  holder : Option Nat := none
  stages : Nat → Stage := fun _ => .idle
  /-- The last reading of the clock. -/
  clock : Rat := 0
  /-- How many fetches have succeeded. -/
  fetches : Nat := 0

inductive Act where
  /-- Call `get_token` and check the cache without the lock. -/
  | get (r : Nat) (now : Rat)
  /-- Get the lock in `get_token` and check again. -/
  | lock (r : Nat) (now : Rat)
  /-- The endpoint answers. -/
  | reply (r : Nat) (now : Rat) (reply : Reply)
  /-- Call `invalidate`. -/
  | invalidate (r : Nat)
  /-- Get the lock in `invalidate` and drop the token. -/
  | drop (r : Nat)
  deriving DecidableEq

def World.at (w : World) (r : Nat) (st : Stage) : World :=
  {w with stages := Function.update w.stages r st}

/-- One step of a caller. The clock does not go back. -/
def step (w : World) : Act → Option World
  | .get r now =>
    if w.stages r=.idle ∧ w.clock≤now then
      match usable w.cached now with
      | some token => some {w.at r (.returned token now) with clock := now}
      | none => some {w.at r .queued with clock := now}
    else none
  | .lock r now =>
    if w.stages r=.queued ∧ w.holder=none ∧ w.clock≤now then
      match usable w.cached now with
      | some token => some {w.at r (.returned token now) with clock := now}
      | none => some {w.at r (.fetching now) with clock := now,holder := some r}
    else none
  | .reply r now reply =>
    match w.stages r with
    | .fetching checkedAt =>
      if w.clock≤now then
        match refreshLocked reply now w.fetches with
        | .error e => some {w.at r (.raised e) with clock := now,holder := none}
        | .ok token => some {w.at r (.returned token checkedAt) with
            clock := now,holder := none,cached := some token,fetches := w.fetches+1}
      else none
    | _ => none
  | .invalidate r =>
    if w.stages r=.idle then some (w.at r .invalidating) else none
  | .drop r =>
    if w.stages r=.invalidating ∧ w.holder=none then
      some {w.at r .invalidated with cached := none}
    else none

/-- Callers that overlap in any way. -/
def Step : World → Act → World → Prop := ofPartial step

/-- Fetched tokens live longer than the buffer. -/
def LongLived (_ : World) : Act → Prop
  | .reply _ _ (.response _ _ (some expiresIn)) => refreshBuffer<expiresIn
  | _ => True

/-- The caller holds the lock across a suspension. -/
def Stage.inside : Stage → Bool
  | .fetching _ => true
  | _ => false

variable {w w' u u' v v' : World} {a : Act} {acts : List Act} {r : Nat} {now : Rat}

/-- What a step does. -/
inductive Moves (w : World) : Act → World → Prop
  | hitUnlocked {r : Nat} {now : Rat} {t : CachedToken} (hr : w.stages r=.idle)
    (hclock : w.clock≤now) (ht : usable w.cached now=some t) :
    Moves w (.get r now) {w.at r (.returned t now) with clock := now}
  | queue {r : Nat} {now : Rat} (hr : w.stages r=.idle) (hclock : w.clock≤now)
    (hnone : usable w.cached now=none) : Moves w (.get r now) {w.at r .queued with clock := now}
  | hitLocked {r : Nat} {now : Rat} {t : CachedToken} (hr : w.stages r=.queued)
    (hfree : w.holder=none) (hclock : w.clock≤now) (ht : usable w.cached now=some t) :
    Moves w (.lock r now) {w.at r (.returned t now) with clock := now}
  | fetch {r : Nat} {now : Rat} (hr : w.stages r=.queued) (hfree : w.holder=none)
    (hclock : w.clock≤now) (hnone : usable w.cached now=none) :
    Moves w (.lock r now) {w.at r (.fetching now) with clock := now,holder := some r}
  | fail {r : Nat} {now checkedAt : Rat} {reply : Reply} {e : RefreshError}
    (hr : w.stages r=.fetching checkedAt) (hclock : w.clock≤now)
    (he : refreshLocked reply now w.fetches=.error e) :
    Moves w (.reply r now reply) {w.at r (.raised e) with clock := now,holder := none}
  | store {r : Nat} {now checkedAt : Rat} {reply : Reply} {t : CachedToken}
    (hr : w.stages r=.fetching checkedAt) (hclock : w.clock≤now)
    (ht : refreshLocked reply now w.fetches=.ok t) :
    Moves w (.reply r now reply) {w.at r (.returned t checkedAt) with
      clock := now,holder := none,cached := some t,fetches := w.fetches+1}
  | invalidate {r : Nat} (hr : w.stages r=.idle) : Moves w (.invalidate r) (w.at r .invalidating)
  | drop {r : Nat} (hr : w.stages r=.invalidating) (hfree : w.holder=none) :
    Moves w (.drop r) {w.at r .invalidated with cached := none}

theorem step_moves (h : Step w a w') : Moves w a w' := by
  unfold Step ofPartial at h
  cases a with
  | get r now =>
    unfold step at h
    dsimp only at h
    split at h
    · rename_i hmet
      split at h <;> cases h
      · exact .hitUnlocked hmet.1 hmet.2 ‹_›
      · exact .queue hmet.1 hmet.2 ‹_›
    · cases h
  | lock r now =>
    unfold step at h
    dsimp only at h
    split at h
    · rename_i hmet
      split at h <;> cases h
      · exact .hitLocked hmet.1 hmet.2.1 hmet.2.2 ‹_›
      · exact .fetch hmet.1 hmet.2.1 hmet.2.2 ‹_›
    · cases h
  | reply r now reply =>
    unfold step at h
    dsimp only at h
    split at h
    · split at h
      · split at h <;> cases h
        · exact .fail ‹_› ‹_› ‹_›
        · exact .store ‹_› ‹_› ‹_›
      · cases h
    · cases h
  | invalidate r =>
    unfold step at h
    dsimp only at h
    split at h <;> cases h
    exact .invalidate ‹_›
  | drop r =>
    unfold step at h
    dsimp only at h
    split at h
    · rename_i hmet
      cases h
      exact .drop hmet.1 hmet.2
    · cases h

variable {t : CachedToken}

/-- A usable entry is the cached one, with more than the buffer left. -/
theorem usable_eq_some {cached : Option CachedToken} :
    usable cached now=some t ↔ cached=some t ∧ now<t.expiresAt-refreshBuffer := by
  unfold usable
  rw [Option.filter_eq_some_iff,decide_eq_true_iff]

/-- A stored token carries its fetch, and lives as long as the reply says. -/
theorem refreshLocked_ok {reply : Reply} {fetch : Nat} (h : refreshLocked reply now fetch=.ok t) :
    t.fetch=fetch ∧ ∃ statusCode token seconds,
      reply=.response statusCode (some token) (some seconds) ∧ t.expiresAt=now+seconds := by
  cases reply with
  | timeout | httpError | cancelled => cases h
  | unreadable statusCode =>
    unfold refreshLocked at h
    dsimp only at h
    split at h <;> cases h
  | response statusCode accessToken expiresIn =>
    unfold refreshLocked at h
    dsimp only at h
    split at h
    · cases h
    · split at h
      · split at h <;> cases h
        exact ⟨rfl,statusCode,_,_,rfl,rfl⟩
      · cases h

/-! ## Which tokens are returned -/

/-- What binds a caller by its stage and the clock. -/
def Timed (clock : Rat) : Stage → Prop
  | .fetching checkedAt => checkedAt≤clock
  | .returned t checkedAt => checkedAt<t.expiresAt-refreshBuffer
  | _ => True

variable {st : Stage}

theorem Timed.later {clock : Rat} (h : Timed clock st) (hle : clock≤now) : Timed now st := by
  cases st with
  | fetching checkedAt => exact le_trans h hle
  | returned t checkedAt => exact h
  | idle | queued | raised _ | invalidating | invalidated => trivial

variable {stages : Nat → Stage}

/-- A caller moves while the clock goes on. -/
theorem timed_update {clock : Rat} (h : ∀ i,Timed clock (stages i)) (hle : clock≤now)
    (hst : Timed now st) (i : Nat) : Timed now (Function.update stages r st i) :=
  (Function.forall_update_iff stages fun _ st => Timed now st).mpr
    ⟨hst,fun i _ => (h i).later hle⟩ i

theorem timed_step (h : ∀ i,Timed w.clock (w.stages i)) (hs : Step w a w') (hlong : LongLived w a) :
    ∀ i,Timed w'.clock (w'.stages i) := by
  cases step_moves hs with
  | hitUnlocked hr hclock ht | hitLocked hr hfree hclock ht =>
    exact timed_update h hclock (usable_eq_some.mp ht).2
  | queue hr hclock hnone => exact timed_update h hclock trivial
  | fetch hr hfree hclock hnone => exact timed_update h hclock (le_refl _)
  | fail hr hclock he => exact timed_update h hclock trivial
  | @store r now checkedAt reply t hr hclock ht =>
    refine timed_update h hclock ?_
    obtain ⟨-,statusCode,token,seconds,rfl,hexpires⟩ := refreshLocked_ok ht
    have hlives : refreshBuffer<seconds := hlong
    have hchecked : checkedAt≤w.clock := by
      have hfact := h r
      rwa [hr] at hfact
    change checkedAt<t.expiresAt-refreshBuffer
    rw [hexpires]
    linarith
  | invalidate hr | drop hr hfree => exact timed_update h (le_refl _) trivial

/-- Whatever is cached, or returned to the caller, comes from the `n`-th fetch or a later one. -/
structure Since (n r : Nat) (w : World) : Prop where
  fetches : n≤w.fetches
  cached : ∀ t,w.cached=some t → n≤t.fetch
  returned : ∀ t checkedAt,w.stages r=.returned t checkedAt → n≤t.fetch

/-- Only a move to a returned token has to be looked at. -/
theorem returned_update {i n : Nat} (h : ∀ t checkedAt,stages r=.returned t checkedAt → n≤t.fetch)
    (hst : ∀ t checkedAt,st=.returned t checkedAt → n≤t.fetch) (t : CachedToken) (checkedAt : Rat)
    (ht : Function.update stages i st r=.returned t checkedAt) : n≤t.fetch := by
  by_cases hi : r=i
  · rw [hi,Function.update_self] at ht
    exact hst t checkedAt ht
  · rw [Function.update_of_ne hi] at ht
    exact h t checkedAt ht

theorem Since.step {n : Nat} (h : Since n r w) (hs : Step w a w') : Since n r w' := by
  cases step_moves hs with
  | @hitUnlocked i now t hr hclock ht | @hitLocked i now t hr hfree hclock ht =>
    refine ⟨h.fetches,h.cached,returned_update h.returned fun t' _ heq => ?_⟩
    cases heq
    exact h.cached t (usable_eq_some.mp ht).1
  | queue hr hclock hnone | fetch hr hfree hclock hnone | fail hr hclock he | invalidate hr =>
    exact ⟨h.fetches,h.cached,returned_update h.returned fun _ _ heq => by cases heq⟩
  | @store i now checkedAt reply t hr hclock ht =>
    have hnew : n≤t.fetch := (refreshLocked_ok ht).1.symm ▸ h.fetches
    refine ⟨Nat.le_succ_of_le h.fetches,fun t' heq => ?_,
      returned_update h.returned fun t' _ heq => ?_⟩
    · cases heq
      exact hnew
    · cases heq
      exact hnew
  | drop hr hfree =>
    refine ⟨h.fetches,fun t heq => ?_,returned_update h.returned fun _ _ heq => by cases heq⟩
    cases heq

/-- A caller that has not called yet had not called before. -/
theorem idle_before (hs : Step w a w') (h : w'.stages r=.idle) : w.stages r=.idle := by
  have hback : ∀ {i : Nat} {st : Stage},st≠.idle → Function.update w.stages i st r=.idle →
      w.stages r=.idle := by
    intro i st hst hupdated
    by_cases hi : r=i
    · rw [hi,Function.update_self] at hupdated
      exact absurd hupdated hst
    · rwa [Function.update_of_ne hi] at hupdated
  cases step_moves hs <;> exact hback (by simp) h

theorem run_idle_before (hrun : Run Step w acts w') (h : w'.stages r=.idle) : w.stages r=.idle := by
  induction hrun with
  | start => exact h
  | next _ hs ih => exact ih (idle_before hs h)

/-! ## Callers that share a fetch -/

/-- Only the caller that fetches holds the lock. -/
theorem alone_step (h : Exclusive Stage.inside w.holder w.stages) (hs : Step w a w') :
    Exclusive Stage.inside w'.holder w'.stages := by
  cases step_moves hs with
  | hitUnlocked hr hclock ht | queue hr hclock hnone | hitLocked hr hfree hclock ht
  | invalidate hr | drop hr hfree =>
    exact h.outside rfl
  | fetch hr hfree hclock hnone =>
    rw [hfree] at h
    exact h.enter _ _
  | fail hr hclock he => exact h.leave (hr ▸ rfl) rfl
  | store hr hclock ht => exact h.leave (hr ▸ rfl) rfl

theorem run_alone (hrun : Run Step {} acts w) : Exclusive Stage.inside w.holder w.stages := by
  refine hrun.invariant (fun i h => ?_) fun _ _ _ h hs => alone_step h hs
  cases h

/-- Up to an instant the token is cached and nobody fetches another. -/
def Shared (t : CachedToken) (limit : Rat) (w : World) : Prop :=
  w.clock≤limit → w.cached=some t ∧ ∀ i,(w.stages i).inside=false

theorem quiet_update (h : ∀ i,(stages i).inside=false) (hst : st.inside=false) (i : Nat) :
    (Function.update stages r st i).inside=false :=
  (Function.forall_update_iff stages fun _ st => st.inside=false).mpr ⟨hst,fun i _ => h i⟩ i

/-- A usable token stays limit it is dropped. -/
theorem Shared.step {limit : Rat} (h : Shared t limit w) (hs : Step w a w') (hkept : ∀ i,a≠.drop i)
    (hlive : limit<t.expiresAt-refreshBuffer) : Shared t limit w' := by
  cases step_moves hs with
  | hitUnlocked hr hclock ht | queue hr hclock hnone | hitLocked hr hfree hclock ht =>
    intro hbound
    obtain ⟨hcached,hquiet⟩ := h (le_trans hclock hbound)
    exact ⟨hcached,quiet_update hquiet rfl⟩
  | @fetch i now hr hfree hclock hnone =>
    intro hbound
    have hcached := (h (le_trans hclock hbound)).1
    have hnow : now<t.expiresAt-refreshBuffer := lt_of_le_of_lt hbound hlive
    rw [usable_eq_some.mpr ⟨hcached,hnow⟩] at hnone
    cases hnone
  | @fail i now checkedAt reply e hr hclock he | @store i now checkedAt reply t' hr hclock ht =>
    intro hbound
    have hquiet := (h (le_trans hclock hbound)).2 i
    rw [hr] at hquiet
    cases hquiet
  | invalidate hr =>
    intro hbound
    obtain ⟨hcached,hquiet⟩ := h hbound
    exact ⟨hcached,quiet_update hquiet rfl⟩
  | drop hr hfree => exact absurd rfl (hkept _)

theorem Shared.run {limit : Rat} (h : Shared t limit w) (hrun : Run Step w acts w')
    (hkept : ∀ x∈acts,∀ i,x≠.drop i) (hlive : limit<t.expiresAt-refreshBuffer) :
    Shared t limit w' := by
  induction hrun with
  | start => exact h
  | next _ hs ih =>
    refine (ih fun x hx => hkept x (List.mem_append_left _ hx)).step hs ?_ hlive
    exact hkept _ (List.mem_append_right _ List.mem_cons_self)

/-- A caller that gets the lock after a successful fetch returns its token, unless
it was dropped or has come too near to its expiry. -/
theorem lock_shares {reply : Reply} {c b : Nat} {now' : Rat}
    (halone : Exclusive Stage.inside v.holder v.stages) (hs : Step v (.reply c now reply) v')
    (ht : refreshLocked reply now v.fetches=.ok t) (hrun : Run Step v' acts u)
    (hkept : ∀ x∈acts,∀ i,x≠.drop i) (hlock : Step u (.lock b now') u')
    (hlive : now'<t.expiresAt-refreshBuffer) : u'.stages b=.returned t now' := by
  have hfirst : Shared t now' v' := by
    intro _
    have hquiet := alone_step halone hs
    cases step_moves hs with
    | fail hr hclock he =>
      rw [ht] at he
      cases he
    | store hr hclock ht' =>
      cases ht.symm.trans ht'
      exact ⟨rfl,hquiet.nobody⟩
  have hlast := hfirst.run hrun hkept hlive
  have hreturns : ∀ {clock : Rat} {t' : CachedToken} {cached : Option CachedToken},
      clock≤now' → usable cached now'=some t' → cached=some t → t'=t := by
    intro clock t' cached _ ht' hcached
    rw [hcached] at ht'
    exact (Option.some.inj (usable_eq_some.mp ht').1).symm
  cases step_moves hlock with
  | hitLocked hr hfree hclock ht' =>
    have hsame := hreturns hclock ht' (hlast hclock).1
    rw [hsame]
    exact Function.update_self ..
  | fetch hr hfree hclock hnone =>
    rw [usable_eq_some.mpr ⟨(hlast hclock).1,hlive⟩] at hnone
    cases hnone

/-! ## The laws -/

/-- For every overlap of callers: a returned token had more than the buffer left at
the caller's last check, if fetched tokens live longer; a `get_token` called after
an invalidation returns no token of an earlier fetch; whoever gets the lock after a
successful fetch returns its token, unless an invalidation or its expiry came in
between; and a failed fetch leaves the cache as it is. -/
theorem tokenManager_laws :
    (∀ acts w r t checkedAt,Run (guarded Step LongLived) {} acts w →
      w.stages r=.returned t checkedAt → checkedAt<t.expiresAt-refreshBuffer) ∧
    (∀ before v i v' between u r now u' after w t checkedAt,Run Step {} before v →
      Step v (.drop i) v' → Run Step v' between u → Step u (.get r now) u' → Run Step u' after w →
      w.stages r=.returned t checkedAt → v.fetches≤t.fetch) ∧
    (∀ before v c now reply v' t between u b now' u',Run Step {} before v →
      Step v (.reply c now reply) v' → refreshLocked reply now v.fetches=.ok t →
      Run Step v' between u → (∀ x∈between,∀ i,x≠.drop i) → Step u (.lock b now') u' →
      now'<t.expiresAt-refreshBuffer → u'.stages b=.returned t now') ∧
    ∀ v c now reply v' e,Step v (.reply c now reply) v' →
      refreshLocked reply now v.fetches=.error e → v'.cached=v.cached := by
  refine ⟨?_,?_,?_,?_⟩
  · intro acts w r t checkedAt hrun hr
    have hstart : ∀ i,Timed ({} : World).clock (({} : World).stages i) := fun _ => trivial
    have htimed : ∀ i,Timed w.clock (w.stages i) :=
      hrun.guarded_invariant (I:=fun w => ∀ i,Timed w.clock (w.stages i)) hstart
        fun _ _ _ => timed_step
    have hfact := htimed r
    rwa [hr] at hfact
  · intro before v i v' between u r now u' after w t checkedAt hbefore hdrop hbetween hget hafter hr
    have hidle : v'.stages r=.idle := by
      refine run_idle_before hbetween ?_
      cases step_moves hget with
      | hitUnlocked hr hclock ht => exact hr
      | queue hr hclock hnone => exact hr
    have hsince : Since v.fetches r v' := by
      cases step_moves hdrop with
      | drop hr hfree =>
        refine ⟨le_refl _,fun t heq => (by cases heq),fun t checkedAt heq => ?_⟩
        rw [hidle] at heq
        cases heq
    have hstep : ∀ a l b,Since v.fetches r a → Step a l b → Since v.fetches r b :=
      fun _ _ _ h hs => h.step hs
    have hu' := (hbetween.invariant hsince hstep).step hget
    exact (hafter.invariant hu' hstep).returned t checkedAt hr
  · intro before v c now reply v' t between u b now' u' hbefore hreply ht hbetween hkept hlock hlive
    exact lock_shares (run_alone hbefore) hreply ht hbetween hkept hlock hlive
  · intro v c now reply v' e hreply he
    cases step_moves hreply with
    | fail hr hclock he' => rfl
    | store hr hclock ht =>
      rw [he] at ht
      cases ht

/-- An invalidation that queued before a caller drops the token of the fetch both
were waiting for, and the caller fetches again. -/
theorem waiting_caller_refetches :
    ¬∀ before v c now reply v' t between u b now' u',
      Run (guarded Step LongLived) {} before v → Step v (.reply c now reply) v' →
      LongLived v (.reply c now reply) → refreshLocked reply now v.fetches=.ok t →
      v.stages b=.queued → Run (guarded Step LongLived) v' between u → Step u (.lock b now') u' →
      u'.stages b=.returned t now' := by
  intro h
  let before : List Act := [.get 0 1,.lock 0 1,.invalidate 2,.get 1 2]
  let reply : Reply := .response 200 (some "token") (some 1799)
  let after : List Act := [.reply 0 3 reply,.drop 2,.lock 1 4]
  have hwaits : (before.foldlM step {}).map (fun w => w.stages 1)=some .queued := by decide +kernel
  have hfetches : ((before++after).foldlM step {}).map (fun w => w.stages 1)=some (.fetching 4) := by
    decide +kernel
  obtain ⟨v,hv,hqueued⟩ := Option.map_eq_some_iff.mp hwaits
  obtain ⟨u',hu',hfetching⟩ := Option.map_eq_some_iff.mp hfetches
  have hbefore : Run Step {} before v := run_of_foldlM hv
  obtain ⟨v₀,hv₀,hafter⟩ := (run_of_foldlM hu' : Run Step {} (before++after) u').split
  obtain rfl := hv₀.unique (deterministic_ofPartial step) hbefore
  have hreplied : Run Step v₀ ([.reply 0 3 reply]++[.drop 2,.lock 1 4]) u' := hafter
  obtain ⟨v',hreply,hrest⟩ := hreplied.split
  have hdropped : Run Step v' ([.drop 2]++[.lock 1 4]) u' := hrest
  obtain ⟨u,hdrop,hlock⟩ := hdropped.split
  have hguard : ∀ x∈before,∀ w,LongLived w x := by
    intro x hx w
    simp only [before,List.mem_cons,List.not_mem_nil,or_false] at hx
    rcases hx with rfl|rfl|rfl|rfl <;> trivial
  have hguardDrop : ∀ x∈[Act.drop 2],∀ w,LongLived w x := by
    intro x hx w
    rw [List.mem_singleton.mp hx]
    trivial
  have hlives : LongLived v₀ (.reply 0 3 reply) := by
    change refreshBuffer<1799
    decide +kernel
  have hreturned := h before v₀ 0 3 reply v' ⟨"token",3+1799,v₀.fetches⟩ [.drop 2] u 1 4 u'
    (hbefore.guard hguard) hreply.of_singleton hlives rfl hqueued (hdrop.guard hguardDrop)
    hlock.of_singleton
  rw [hfetching] at hreturned
  cases hreturned

end Voyagent.TokenCache
