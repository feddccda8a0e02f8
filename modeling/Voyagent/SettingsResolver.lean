import Voyagent.SettingsPatches
import Voyagent.TransitionRuns

/-!
# The cache of tenant settings

A resolver answers from its cache, or loads the row and stores what it read;
the PATCH of the settings is another endpoint. Between the awaits of a request
every other one may run. Settings are dated by the updates committed before
they were read.
-/

namespace Voyagent.SettingsResolver

open SettingsPatches TransitionRuns
open AuthEndpoints (HttpError)

/-- Settings and the number of updates of their row they include. -/
structure Held where
  settings : TenantSettings
  version : Nat
  deriving DecidableEq

/-- Where a request stands between two awaits. A get remembers the newest update
that was complete when it began. -/
inductive Stage (υ : Type) where
  | idle
  /-- A get whose key was not cached. -/
  | missed (key : String) (floor : Nat)
  /-- A get that has read the row. -/
  | loaded (key : String) (floor : Nat) (held : Held)
  /-- A get that has returned. -/
  | returned (key : String) (floor : Nat) (held : Held)
  /-- A PATCH that adds the row of its tenant. -/
  | creating (tenant : υ) (body : TenantSettingsPatchRequest)
  | created (tenant : υ) (body : TenantSettingsPatchRequest)
  /-- A PATCH that has set its fields on the copy it loaded. -/
  | editing (tenant : υ) (loaded : TenantSettingsRow) (body : TenantSettingsPatchRequest)
  /-- A PATCH that has committed its update, the zeroth if it changed nothing. -/
  | written (tenant : υ) (update : Nat)
  | answered (tenant : υ) (row : TenantSettingsRow)
  | refused (error : HttpError)
  /-- The request raised. -/
  | raised

/-- The steps of the requests. -/
inductive Act where
  /-- A get begins and looks into the cache. -/
  | get (r : Nat) (key : String)
  | load (r : Nat)
  | store (r : Nat)
  | invalidate (key : Option String)
  | patch (r : Nat) (p : Principal) (body : TenantSettingsPatchRequest)
  | commit (r : Nat)
  | refresh (r : Nat)
  /-- The database fails. -/
  | fail (r : Nat)

/-- The table, the cache and the requests, with the updates counted. -/
structure World (υ : Type) where
  rows : υ → Option TenantSettingsRow
  /-- Updates committed to the row of a tenant. -/
  version : υ → Nat := fun _ => 0
  /-- The newest of them whose PATCH, or an invalidation since, has completed. -/
  completed : υ → Nat := fun _ => 0
  cache : String → Option Held := fun _ => none
  requests : Nat → Stage υ := fun _ => .idle

section Steps

variable {υ : Type} [DecidableEq υ] (storage : Bool) (parse : String → Option υ)

def World.set (w : World υ) (r : Nat) (st : Stage υ) : World υ :=
  {w with requests := Function.update w.requests r st}

/-- The newest completed update of the tenant a key names. -/
def floorOf (w : World υ) (key : String) : Nat :=
  match parse key with
  | some t => w.completed t
  | none => 0

/-- `_load`: without storage, a tenant or a row there are the defaults. -/
def load (rows : υ → Option TenantSettingsRow) (key : String) : TenantSettings :=
  if storage then
    match parse key with
    | none => .defaults key
    | some t =>
      match rows t with
      | none => .defaults key
      | some row => .ofRow key row
  else .defaults key

/-- The updates a load sees. -/
def seen (w : World υ) (key : String) : Nat :=
  if storage then
    match parse key with
    | none => 0
    | some t => w.version t
  else 0

/-- The updates of a tenant committed so far are complete. -/
def World.complete (w : World υ) (t : υ) (update : Nat) : World υ :=
  {w with completed := Function.update w.completed t (max (w.completed t) update)}

def World.drop (w : World υ) (key : String) : World υ :=
  {w with cache := Function.update w.cache key none}

/-- `invalidate`. -/
def invalidate (w : World υ) : Option String → World υ
  | none =>
    {w with cache := fun _ => none,completed := fun t => max (w.completed t) (w.version t)}
  | some key =>
    match parse key with
    | some t => (w.drop key).complete t (w.version t)
    | none => w.drop key

/-- A PATCH loads the row, or adds one. -/
def arrive (w : World υ) (p : Principal) (body : TenantSettingsPatchRequest) : Stage υ :=
  match adminTenant parse p with
  | .error e => .refused e
  | .ok t =>
    match w.rows t with
    | some row => .editing t row body
    | none => .creating t body

/-- The commit of the row a PATCH adds; another may have been faster. -/
def commitRow (w : World υ) (r : Nat) (t : υ) (body : TenantSettingsPatchRequest) : World υ :=
  match w.rows t with
  | some _ => w.set r .raised
  | none => {w.set r (.created t body) with rows := Function.update w.rows t (some {})}

/-- The commit of a changed copy, by the key of the row. -/
def commitCopy (w : World υ) (r : Nat) (t : υ) (loaded : TenantSettingsRow)
    (body : TenantSettingsPatchRequest) : World υ :=
  if changesRow body.toSettingsFields loaded then
    match (w.rows t).bind (updatedRow body.toSettingsFields loaded) with
    | none => w.set r .raised
    | some row =>
      {w.set r (.written t (w.version t+1)) with
        rows := Function.update w.rows t (some row)
        version := Function.update w.version t (w.version t+1)}
  else w.set r (.written t 0)

/-- One step, when it can be taken. -/
def step (w : World υ) : Act → Option (World υ)
  | .get r key =>
    match w.requests r,w.cache key with
    | .idle,some held => some (w.set r (.returned key (floorOf parse w key) held))
    | .idle,none => some (w.set r (.missed key (floorOf parse w key)))
    | _,_ => none
  | .load r =>
    match w.requests r with
    | .missed key floor =>
      some (w.set r (.loaded key floor ⟨load storage parse w.rows key,seen storage parse w key⟩))
    | _ => none
  | .store r =>
    match w.requests r with
    | .loaded key floor held =>
      some {w.set r (.returned key floor held) with cache := Function.update w.cache key (some held)}
    | _ => none
  | .invalidate key => some (invalidate parse w key)
  | .patch r p body =>
    match w.requests r with
    | .idle => some (w.set r (arrive parse w p body))
    | _ => none
  | .commit r =>
    match w.requests r with
    | .creating t body => some (commitRow w r t body)
    | .editing t loaded body => some (commitCopy w r t loaded body)
    | _ => none
  | .refresh r =>
    match w.requests r with
    | .created t body => (w.rows t).map fun row => w.set r (.editing t row body)
    -- the PATCH answers
    | .written t update => (w.rows t).map fun row => (w.set r (.answered t row)).complete t update
    | _ => none
  | .fail r =>
    match w.requests r with
    | .missed _ _ | .creating _ _ | .created _ _ | .editing _ _ _ | .written _ _ =>
      some (w.set r .raised)
    | _ => none

def Step : World υ → Act → World υ → Prop := ofPartial (step storage parse)

theorem step_deterministic : Deterministic (Step storage parse) :=
  deterministic_ofPartial (step storage parse)

/-- Nothing is cached and no request has begun. -/
def start (rows : υ → Option TenantSettingsRow) : World υ := {rows := rows}

/-! ## Freshness -/

/-- No get has returned settings older than an update that was complete when it began. -/
def Fresh (w : World υ) : Prop :=
  ∀ r key floor held,w.requests r=.returned key floor held → floor≤held.version

/-- Nor would a get that begins now and finds its key in the cache. -/
structure Current (w : World υ) : Prop where
  fresh : Fresh w
  cached : ∀ key held,w.cache key=some held → floorOf parse w key≤held.version

/-- What a get stores is as new as the updates that are complete. -/
def Stage.StoresCurrent (w : World υ) : Stage υ → Prop
  | .loaded key _ held => floorOf parse w key≤held.version
  | _ => True

/-- What is cached for the tenant of a completing PATCH is as new as its update. -/
def Stage.CachedCurrent (w : World υ) : Stage υ → Prop
  | .written t update =>
    ∀ key held,parse key=some t → w.cache key=some held → update≤held.version
  | _ => True

/-- What an invalidation leaves cached for the tenant under another spelling is up to date. -/
def InvalidatesAll (w : World υ) (key : String) : Prop :=
  ∀ t key' held,parse key=some t → parse key'=some t → key'≠key → w.cache key'=some held →
    w.version t≤held.version

/-- The step leaves nothing old in the cache. -/
def LeavesCurrent (w : World υ) : Act → Prop
  | .store r => (w.requests r).StoresCurrent parse w
  | .refresh r => (w.requests r).CachedCurrent parse w
  | .invalidate (some key) => InvalidatesAll parse w key
  | _ => True

end Steps

section Facts

set_option linter.unusedSectionVars false

variable {υ : Type} [DecidableEq υ] {storage : Bool} {parse : String → Option υ} {w w' : World υ}
  {a : Act} {as : List Act} {r i : Nat} {st : Stage υ} {key : String} {t : υ} {update : Nat}

/-! ## What a step does -/

/-- A request that is not a get on its way. -/
def Stage.Aside : Stage υ → Prop
  | .missed _ _ | .loaded _ _ _ | .returned _ _ _ => False
  | _ => True

/-- A request moves on beside the cache: its stage is all the resolver could see. -/
structure Beside (w : World υ) (r : Nat) (w' : World υ) : Prop where
  stage : ∃ st : Stage υ,st.Aside ∧ w'.requests=Function.update w.requests r st
  cache : w'.cache=w.cache
  completed : w'.completed=w.completed

/-- What a step leaves behind. -/
def Does (parse : String → Option υ) (w w' : World υ) : Act → Prop
  | .get r key =>
    (∃ held,w.cache key=some held ∧ w'=w.set r (.returned key (floorOf parse w key) held)) ∨
    w'=w.set r (.missed key (floorOf parse w key))
  | .load r =>
    ∃ key floor held,w.requests r=.missed key floor ∧ w'=w.set r (.loaded key floor held)
  | .store r =>
    ∃ key floor held,w.requests r=.loaded key floor held ∧
      w'={w.set r (.returned key floor held) with cache := Function.update w.cache key (some held)}
  | .invalidate key => w'=invalidate parse w key
  | .refresh r =>
    (∃ t body row,w.requests r=.created t body ∧ w'=w.set r (.editing t row body)) ∨
    ∃ t update row,w.requests r=.written t update ∧ w'=(w.set r (.answered t row)).complete t update
  | .patch r _ _ | .commit r | .fail r => Beside w r w'

theorem beside_set (hst : st.Aside) : Beside w r (w.set r st) := ⟨⟨st,hst,rfl⟩,rfl,rfl⟩

theorem arrive_aside (w : World υ) (p : Principal) (body : TenantSettingsPatchRequest) :
    (arrive parse w p body).Aside := by
  unfold arrive
  cases adminTenant parse p with
  | error e => trivial
  | ok t =>
    dsimp only
    cases w.rows t <;> trivial

theorem commitRow_beside (w : World υ) (r : Nat) (t : υ) (body : TenantSettingsPatchRequest) :
    Beside w r (commitRow w r t body) := by
  unfold commitRow
  cases w.rows t with
  | some row => exact beside_set trivial
  | none => exact ⟨⟨.created t body,trivial,rfl⟩,rfl,rfl⟩

theorem commitCopy_beside (w : World υ) (r : Nat) (t : υ) (loaded : TenantSettingsRow)
    (body : TenantSettingsPatchRequest) : Beside w r (commitCopy w r t loaded body) := by
  unfold commitCopy
  split
  · split
    · exact beside_set trivial
    · exact ⟨⟨.written t (w.version t+1),trivial,rfl⟩,rfl,rfl⟩
  · exact beside_set trivial

theorem step_cases (hs : Step storage parse w a w') : Does parse w w' a := by
  unfold Step ofPartial step at hs
  cases a with
  | get r key =>
    dsimp only at hs
    split at hs
    · rename_i held _ hcache
      exact .inl ⟨held,hcache,(Option.some.inj hs).symm⟩
    · exact .inr (Option.some.inj hs).symm
    · cases hs
  | load r =>
    dsimp only at hs
    split at hs
    · rename_i key floor hst
      exact ⟨key,floor,_,hst,(Option.some.inj hs).symm⟩
    · cases hs
  | store r =>
    dsimp only at hs
    split at hs
    · rename_i key floor held hst
      exact ⟨key,floor,held,hst,(Option.some.inj hs).symm⟩
    · cases hs
  | invalidate key => exact (Option.some.inj hs).symm
  | patch r p body =>
    dsimp only at hs
    split at hs
    · obtain rfl := Option.some.inj hs
      exact beside_set (arrive_aside w p body)
    · cases hs
  | commit r =>
    dsimp only at hs
    split at hs
    · obtain rfl := Option.some.inj hs
      exact commitRow_beside ..
    · obtain rfl := Option.some.inj hs
      exact commitCopy_beside ..
    · cases hs
  | refresh r =>
    dsimp only at hs
    split at hs
    · rename_i t body hst
      obtain ⟨row,-,rfl⟩ := Option.map_eq_some_iff.mp hs
      exact .inl ⟨t,body,row,hst,rfl⟩
    · rename_i t update hst
      obtain ⟨row,-,rfl⟩ := Option.map_eq_some_iff.mp hs
      exact .inr ⟨t,update,row,hst,rfl⟩
    · cases hs
  | fail r =>
    dsimp only at hs
    split at hs
    all_goals first | cases hs; exact beside_set trivial | cases hs

theorem invalidate_tenant (h : parse key=some t) :
    invalidate parse w (some key)=(w.drop key).complete t (w.version t) := by
  unfold invalidate
  dsimp only
  rw [h]

theorem invalidate_unparsed (h : parse key=none) : invalidate parse w (some key)=w.drop key := by
  unfold invalidate
  dsimp only
  rw [h]

/-! ## The newest completed update -/

theorem floorOf_congr (h : w'.completed=w.completed) (key : String) :
    floorOf parse w' key=floorOf parse w key := by
  unfold floorOf
  rw [h]

theorem floorOf_complete (h : parse key=some t) :
    floorOf parse (w.complete t update) key=max (floorOf parse w key) update := by
  unfold floorOf World.complete
  rw [h]
  dsimp only
  rw [Function.update_self]

theorem floorOf_complete_other (h : parse key≠some t) :
    floorOf parse (w.complete t update) key=floorOf parse w key := by
  unfold floorOf World.complete
  cases hkey : parse key with
  | none => rfl
  | some t' =>
    have hne : t'≠t := fun he => h (by rw [hkey,he])
    dsimp only
    rw [Function.update_of_ne hne]

theorem floorOf_le_complete (key : String) :
    floorOf parse w key≤floorOf parse (w.complete t update) key := by
  by_cases h : parse key=some t
  · rw [floorOf_complete h]
    exact Nat.le_max_left ..
  · rw [floorOf_complete_other h]

theorem floorOf_le_invalidate (cleared : Option String) (key : String) :
    floorOf parse w key≤floorOf parse (invalidate parse w cleared) key := by
  cases cleared with
  | none =>
    unfold invalidate floorOf
    cases parse key with
    | none => exact Nat.le_refl 0
    | some t => exact Nat.le_max_left ..
  | some cleared =>
    cases ht : parse cleared with
    | none =>
      rw [invalidate_unparsed ht]
      exact Nat.le_refl _
    | some t =>
      rw [invalidate_tenant ht]
      exact floorOf_le_complete (w:=w.drop cleared) key

/-! ## The gets on their way -/

/-- A get on its way began before what is complete now; what has returned is fresh. -/
def StageFact (parse : String → Option υ) (w : World υ) : Stage υ → Prop
  | .missed key floor => floor≤floorOf parse w key
  | .loaded key floor _ => floor≤floorOf parse w key
  | .returned _ floor held => floor≤held.version
  | _ => True

/-- The invariant of the runs whose steps leave nothing old in the cache. -/
structure Facts (parse : String → Option υ) (w : World υ) : Prop where
  stages : ∀ i,StageFact parse w (w.requests i)
  cached : ∀ key held,w.cache key=some held → floorOf parse w key≤held.version

theorem Facts.current (h : Facts parse w) : Current parse w where
  fresh := fun r key floor held hst => by
    have hfact := h.stages r
    rw [hst] at hfact
    exact hfact
  cached := h.cached

theorem facts_start (rows : υ → Option TenantSettingsRow) : Facts parse (start rows) where
  stages := fun _ => trivial
  cached := fun _ _ h => (by cases h)

theorem StageFact.aside (h : st.Aside) : StageFact parse w st := by
  cases st <;> first | exact h.elim | trivial

/-- More may be complete. -/
theorem StageFact.grows (h : StageFact parse w st)
    (hle : ∀ key,floorOf parse w key≤floorOf parse w' key) : StageFact parse w' st := by
  cases st with
  | missed key floor => exact Nat.le_trans h (hle key)
  | loaded key floor held => exact Nat.le_trans h (hle key)
  | _ => exact h

/-- One request moves on. -/
theorem Facts.stages_update (h : Facts parse w) (hst : StageFact parse w' st)
    (hle : ∀ key,floorOf parse w key≤floorOf parse w' key) (i : Nat) :
    StageFact parse w' (Function.update w.requests r st i) := by
  by_cases hi : i=r
  · subst hi
    rwa [Function.update_self]
  · rw [Function.update_of_ne hi]
    exact (h.stages i).grows hle

theorem Facts.set (h : Facts parse w) (st : Stage υ) (hst : StageFact parse w st) :
    Facts parse (w.set r st) where
  stages := h.stages_update hst fun _ => Nat.le_refl _
  cached := h.cached

theorem Facts.beside (h : Facts parse w) (hb : Beside w r w') : Facts parse w' := by
  obtain ⟨⟨st,haside,hrequests⟩,hcache,hcompleted⟩ := hb
  refine ⟨fun i => ?_,fun key held hheld => ?_⟩
  · rw [hrequests]
    exact h.stages_update (.aside haside) (fun key => (floorOf_congr hcompleted key).ge) i
  · rw [floorOf_congr hcompleted]
    exact h.cached key held (hcache ▸ hheld)

theorem Facts.complete (h : Facts parse w)
    (hcached : ∀ key held,parse key=some t → w.cache key=some held → update≤held.version) :
    Facts parse (w.complete t update) where
  stages := fun i => (h.stages i).grows floorOf_le_complete
  cached := fun key held hheld => by
    by_cases hkey : parse key=some t
    · rw [floorOf_complete hkey]
      exact Nat.max_le.mpr ⟨h.cached key held hheld,hcached key held hkey hheld⟩
    · rw [floorOf_complete_other hkey]
      exact h.cached key held hheld

/-- What is left after a key was dropped. -/
theorem drop_cache {dropped : String} {held : Held} (h : (w.drop dropped).cache key=some held) :
    key≠dropped ∧ w.cache key=some held := by
  unfold World.drop at h
  dsimp only at h
  by_cases hkey : key=dropped
  · subst hkey
    rw [Function.update_self] at h
    cases h
  · rw [Function.update_of_ne hkey] at h
    exact ⟨hkey,h⟩

theorem Facts.drop (h : Facts parse w) (dropped : String) : Facts parse (w.drop dropped) where
  stages := h.stages
  cached := fun key held hheld => h.cached key held (drop_cache hheld).2

theorem Facts.invalidate (h : Facts parse w) {cleared : Option String}
    (hc : LeavesCurrent parse w (.invalidate cleared)) : Facts parse (invalidate parse w cleared) := by
  cases cleared with
  | none =>
    exact ⟨fun i => (h.stages i).grows (floorOf_le_invalidate none),fun _ _ hheld => (by cases hheld)⟩
  | some cleared =>
    cases ht : parse cleared with
    | none =>
      rw [invalidate_unparsed ht]
      exact h.drop cleared
    | some t =>
      rw [invalidate_tenant ht]
      refine (h.drop cleared).complete fun key held hkey hheld => ?_
      obtain ⟨hne,hheld⟩ := drop_cache hheld
      exact hc t key held ht hkey hne hheld

/-- Steps that leave nothing old in the cache keep the invariant. -/
theorem facts_step (h : Facts parse w) (hs : Step storage parse w a w') (hc : LeavesCurrent parse w a) :
    Facts parse w' := by
  have hdoes := step_cases hs
  cases a with
  | get r key =>
    obtain ⟨held,hcache,rfl⟩|rfl := hdoes
    · exact h.set _ (h.cached key held hcache)
    · exact h.set _ (Nat.le_refl (floorOf parse w key))
  | load r =>
    obtain ⟨key,floor,held,hst,rfl⟩ := hdoes
    have hfact : StageFact parse w (.missed key floor) := hst ▸ h.stages r
    exact h.set _ hfact
  | store r =>
    obtain ⟨key,floor,held,hst,rfl⟩ := hdoes
    have hfact : StageFact parse w (.loaded key floor held) := hst ▸ h.stages r
    dsimp only [LeavesCurrent] at hc
    rw [hst] at hc
    have hnew : floorOf parse w key≤held.version := hc
    refine ⟨h.stages_update (Nat.le_trans hfact hnew) fun _ => Nat.le_refl _,fun key' held' hheld => ?_⟩
    change Function.update w.cache key (some held) key'=some held' at hheld
    by_cases hkey : key'=key
    · subst hkey
      rw [Function.update_self] at hheld
      obtain rfl := Option.some.inj hheld
      exact hnew
    · rw [Function.update_of_ne hkey] at hheld
      exact h.cached key' held' hheld
  | invalidate key =>
    obtain rfl := hdoes
    exact h.invalidate hc
  | refresh r =>
    obtain ⟨t,body,row,hst,rfl⟩|⟨t,update,row,hst,rfl⟩ := hdoes
    · exact h.set _ trivial
    · dsimp only [LeavesCurrent] at hc
      rw [hst] at hc
      exact (h.set (.answered t row) trivial).complete hc
  | patch r p body | commit r | fail r => exact h.beside hdoes

/-- A step that leaves something old in the cache is seen by the next get. -/
theorem not_current_step (hs : Step storage parse w a w') (hc : ¬LeavesCurrent parse w a) :
    ¬Current parse w' := by
  intro hcurrent
  refine hc ?_
  have hdoes := step_cases hs
  cases a with
  | store r =>
    obtain ⟨key,floor,held,hst,rfl⟩ := hdoes
    dsimp only [LeavesCurrent]
    rw [hst]
    exact hcurrent.cached key held (Function.update_self ..)
  | invalidate cleared =>
    cases cleared with
    | none => trivial
    | some cleared =>
      obtain rfl := hdoes
      intro t key held ht hkey hne hheld
      rw [invalidate_tenant ht] at hcurrent
      have hleft : (w.drop cleared).cache key=some held := by
        unfold World.drop
        dsimp only
        rwa [Function.update_of_ne hne]
      have hle := hcurrent.cached key held hleft
      rw [floorOf_complete hkey] at hle
      exact Nat.le_trans (Nat.le_max_right ..) hle
  | refresh r =>
    obtain ⟨t,body,row,hst,rfl⟩|⟨t,update,row,hst,rfl⟩ := hdoes
    · dsimp only [LeavesCurrent]
      rw [hst]
      trivial
    · dsimp only [LeavesCurrent]
      rw [hst]
      intro key held hkey hheld
      have hle := hcurrent.cached key held hheld
      rw [floorOf_complete hkey] at hle
      exact Nat.le_trans (Nat.le_max_right ..) hle
  | _ => trivial

/-- In every interleaving of gets, invalidations and PATCHes, no get returns or is
about to find settings older than an update that was complete when it began, if
and only if every step leaves nothing old in the cache. -/
theorem settings_current_iff (storage : Bool) (parse : String → Option υ)
    (rows : υ → Option TenantSettingsRow) (as : List Act) (w : World υ)
    (hrun : Run (Step storage parse) (start rows) as w) :
    Throughout (Step storage parse) (start rows) as (Current parse) ↔
      Run (guarded (Step storage parse) (LeavesCurrent parse)) (start rows) as w :=
  hrun.throughout_iff_guarded (step_deterministic storage parse) (facts_start rows)
    (fun _ _ _ => facts_step) (fun _ => Facts.current) fun _ _ _ => not_current_step

/-- An admin of the agency lowers the limit per minute. -/
def admin : Principal := ⟨"acme","agency_admin"⟩

def lowerLimit : TenantSettingsPatchRequest := {rateLimitPerMinute := some (some 10),valid := by decide}

/-- A PATCH answered before the first get begins is what the gets return. -/
theorem settings_current_iff_patched :
    ∃ w,Run (Step true some) (start fun _ => some {})
        [.patch 0 admin lowerLimit,.commit 0,.refresh 0,.get 1 "acme",.load 1,.store 1,.get 2 "acme"] w ∧
      (∃ held,w.requests 2=.returned "acme" 1 held ∧ held.settings.rateLimitPerMinute=10) ∧
      (Throughout (Step true some) (start fun _ => some {})
        [.patch 0 admin lowerLimit,.commit 0,.refresh 0,.get 1 "acme",.load 1,.store 1,.get 2 "acme"]
        (Current some) ↔
      Run (guarded (Step true some) (LeavesCurrent some)) (start fun _ => some {})
        [.patch 0 admin lowerLimit,.commit 0,.refresh 0,.get 1 "acme",.load 1,.store 1,.get 2 "acme"]
        w) := by
  have hrun : Run (Step true some) (start fun _ => some {})
      [.patch 0 admin lowerLimit,.commit 0,.refresh 0,.get 1 "acme",.load 1,.store 1,.get 2 "acme"] _ :=
    run_of_foldlM rfl
  exact ⟨_,hrun,⟨_,rfl,rfl⟩,settings_current_iff true some _ _ _ hrun⟩

/-- The PATCH does not invalidate: a get that begins after its answer finds the
limit from before in the cache. -/
theorem patched_limit_not_seen :
    ∃ w,Run (Step true some) (start fun _ => some {})
        [.get 1 "acme",.load 1,.store 1,.patch 0 admin lowerLimit,.commit 0,.refresh 0,.get 2 "acme"] w ∧
      w.rows "acme"=some {rateLimitPerMinute := 10} ∧
      w.requests 2=.returned "acme" 1 ⟨{tenantId := "acme",rateLimitPerMinute := 60},0⟩ ∧
      ¬Fresh w := by
  have hrun : Run (Step true some) (start fun _ => some {})
      [.get 1 "acme",.load 1,.store 1,.patch 0 admin lowerLimit,.commit 0,.refresh 0,.get 2 "acme"] _ :=
    run_of_foldlM rfl
  refine ⟨_,hrun,rfl,rfl,fun hfresh => ?_⟩
  exact absurd (hfresh 2 "acme" 1 _ rfl) (Nat.not_succ_le_zero 0)

end Facts

end Voyagent.SettingsResolver
