import Voyagent.LockHolders
import Voyagent.LruCache
import Voyagent.RuntimeValues
import Voyagent.TransitionRuns

/-!
# Registries that are evicted while calls use them

`TenantRegistry.get` hands a tool call the tenant's registry and keeps no record
of the call. When the cache overflows, the least recently used registry is taken
out and its drivers are closed, whoever may be calling them. Registries are told
apart by their number, in the order they were built.
-/

namespace Voyagent.RegistryEviction

open KeyedMap LruCache LockHolders RuntimeValues TransitionRuns

/-- `max_entries`; the constructor refuses less than one. -/
structure Capacity where
  maxEntries : Nat
  one_le : 1≤ maxEntries

/-- Where a tool call stands. -/
inductive Stage where
  | idle
  /-- Holds the lock and builds a registry. -/
  | building
  /-- Holds the lock, has cached the registry, and makes room. -/
  | trimming (registry : Nat)
  /-- Was given the registry and calls its drivers. -/
  | calling (registry : Nat)
  | finished
  deriving DecidableEq

/-- The cache and the calls. -/
structure World where
  /-- `_entries`, the least recently used first. -/
  entries : Table EntityId Nat := []
  /-- Taken out by `aclose_all` and still to be closed. -/
  leaving : List Nat := []
  /-- Registries whose drivers have been told to close. -/
  closed : List Nat := []
  /-- How many registries have been built. -/
  built : Nat := 0
  /-- The call that holds `_lock`. -/
  holder : Option Nat := none
  stages : Nat → Stage := fun _ => .idle

inductive Act where
  /-- Take the lock and look the tenant up. -/
  | get (r : Nat)
  /-- The registry is built and cached, or building it raised. -/
  | build (r : Nat) (ok : Bool)
  /-- Take the least recently used registry out and close it. -/
  | evict (r : Nat)
  /-- Free the lock and return the registry. -/
  | answer (r : Nat)
  /-- The tool call ends. -/
  | finish (r : Nat)
  /-- `aclose_all` takes every registry out. -/
  | closeAll
  /-- It closes one of those it took out. -/
  | closeNext
  deriving DecidableEq

def World.at (w : World) (r : Nat) (st : Stage) : World :=
  {w with stages := Function.update w.stages r st}

/-- One step; `tenants` gives the tenant of each call. -/
def step (cap : Capacity) (tenants : Nat → EntityId) (w : World) : Act → Option World
  | .get r =>
    match w.stages r,w.holder with
    | .idle,none =>
      match get w.entries (tenants r) with
      | some registry =>
        some {w.at r (.calling registry) with entries := touch w.entries (tenants r)}
      | none => some {w.at r .building with holder := some r}
    | _,_ => none
  | .build r ok =>
    match w.stages r with
    | .building =>
      if ok then
        some
          { w.at r (.trimming w.built) with
            entries := set w.entries (tenants r) w.built
            built := w.built+1 }
      else some {w.at r .finished with holder := none}
    | _ => none
  | .evict r =>
    match w.stages r,w.entries with
    | .trimming _,victim::rest =>
      if cap.maxEntries<w.entries.length then
        some {w with entries := rest,closed := w.closed++[victim.2]}
      else none
    | _,_ => none
  | .answer r =>
    match w.stages r with
    | .trimming registry =>
      if cap.maxEntries<w.entries.length then none
      else some {w.at r (.calling registry) with holder := none}
    | _ => none
  | .finish r =>
    match w.stages r with
    | .calling _ => some (w.at r .finished)
    | _ => none
  | .closeAll =>
    match w.holder with
    | none => some {w with entries := [],leaving := w.leaving++w.entries.map Prod.snd}
    | some _ => none
  | .closeNext =>
    match w.leaving with
    | registry::rest => some {w with leaving := rest,closed := w.closed++[registry]}
    | [] => none

/-- Calls that interleave in any way. -/
def Step (cap : Capacity) (tenants : Nat → EntityId) : World → Act → World → Prop :=
  ofPartial (step cap tenants)

/-- The registry that a step closes. -/
def closing (w : World) : Act → Option Nat
  | .evict _ => w.entries.head?.map Prod.snd
  | .closeNext => w.leaving.head?
  | _ => none

/-- No call is using the registry that the step closes. -/
def Unused (w : World) (a : Act) : Prop :=
  ∀ registry∈closing w a,∀ r,w.stages r≠.calling registry

/-- No registry is closed under a running call. -/
def Open (w : World) : Prop := ∀ r registry,w.stages r=.calling registry → registry∉w.closed

def Stage.inside : Stage → Bool
  | .building | .trimming _ => true
  | _ => false

/-- What binds a call that holds the lock: its tenant is absent, or its registry
was cached last. -/
def StageFact (entries : Table EntityId Nat) (tenantId : EntityId) : Stage → Prop
  | .building => get entries tenantId=none
  | .trimming registry => (entries.map Prod.snd).getLast?=some registry
  | _ => True

/-- Known in every state reached: each cached registry is cached once and open. -/
structure Facts (tenants : Nat → EntityId) (w : World) : Prop where
  distinct : (w.entries.map Prod.snd).Nodup
  cached : ∀ e∈w.entries,e.2<w.built ∧ e.2∉w.closed ∧ e.2∉w.leaving
  left : ∀ registry∈w.leaving++w.closed,registry<w.built
  alone : Exclusive Stage.inside w.holder w.stages
  stages : ∀ r,StageFact w.entries (tenants r) (w.stages r)

section Steps

variable {cap : Capacity} {tenants : Nat → EntityId} {w w' : World} {a : Act} {r : Nat}
variable {entries : Table EntityId Nat}

theorem stageFact_outside (entries : Table EntityId Nat) (r : Nat) (st : Stage)
    (h : st.inside=false) : StageFact entries (tenants r) st := by
  cases st with
  | building => cases h
  | trimming _ => cases h
  | idle | calling _ | finished => trivial

/-- A call moves and the cache stays what it is. -/
theorem Facts.moves (h : Facts tenants w) {st : Stage} (hst : StageFact w.entries (tenants r) st) :
    ∀ i,StageFact w.entries (tenants i) (Function.update w.stages r st i) :=
  (Function.forall_update_iff w.stages fun i st => StageFact w.entries (tenants i) st).mpr
    ⟨hst,fun i _ => h.stages i⟩

/-- While the lock is free the cache binds nobody. -/
theorem Facts.unbound (h : Facts tenants w) (hfree : w.holder=none) (entries : Table EntityId Nat)
    (i : Nat) : StageFact entries (tenants i) (w.stages i) := by
  have halone : Exclusive Stage.inside none w.stages := hfree ▸ h.alone
  exact stageFact_outside entries i _ (halone.nobody i)

/-- The tenant's registry is found. -/
theorem Facts.hit (h : Facts tenants w) (hfree : w.holder=none) (registry : Nat) :
    Facts tenants {w.at r (.calling registry) with entries := touch w.entries (tenants r)} := by
  have hperm : (touch w.entries (tenants r)).Perm w.entries := touch_perm _ _
  refine ⟨(hperm.map Prod.snd).nodup_iff.mpr h.distinct,fun e he => h.cached e (hperm.mem_iff.mp he),
    h.left,h.alone.outside rfl,?_⟩
  exact (Function.forall_update_iff w.stages fun i st =>
    StageFact (touch w.entries (tenants r)) (tenants i) st).mpr
      ⟨trivial,fun i _ => h.unbound hfree _ i⟩

/-- The tenant's registry is built and cached. -/
theorem Facts.build (h : Facts tenants w) (hr : w.stages r=.building) :
    Facts tenants
      { w.at r (.trimming w.built) with
        entries := set w.entries (tenants r) w.built
        built := w.built+1 } := by
  have hinside : (w.stages r).inside=true := hr ▸ rfl
  have habsent : StageFact w.entries (tenants r) .building := hr ▸ h.stages r
  have hset : set w.entries (tenants r) w.built=w.entries++[(tenants r,w.built)] :=
    set_of_absent habsent _
  have hvalues : (set w.entries (tenants r) w.built).map Prod.snd=w.entries.map Prod.snd++[w.built] := by
    rw [hset,List.map_append]
    rfl
  have hfresh : ∀ registry∈w.leaving++w.closed,registry≠w.built := by
    intro registry hmem
    have hlt := h.left registry hmem
    omega
  refine ⟨?_,fun e he => ?_,fun registry hmem => ?_,h.alone.stay hinside _,
    h.alone.facts hinside (fun i st => stageFact_outside _ i st) ?_⟩
  · change ((set w.entries (tenants r) w.built).map Prod.snd).Nodup
    rw [hvalues]
    refine List.nodup_append.mpr ⟨h.distinct,List.pairwise_singleton _ _,?_⟩
    rintro x hx y hy rfl
    obtain ⟨e,he,rfl⟩ := List.mem_map.mp hx
    have hlt := (h.cached e he).1
    have heq := List.mem_singleton.mp hy
    omega
  · change e∈set w.entries (tenants r) w.built at he
    rw [hset] at he
    change e.2<w.built+1 ∧ e.2∉w.closed ∧ e.2∉w.leaving
    rcases List.mem_append.mp he with hold|hnew
    · obtain ⟨hlt,hopen,hstays⟩ := h.cached e hold
      exact ⟨by omega,hopen,hstays⟩
    · rw [List.mem_singleton.mp hnew]
      exact ⟨Nat.lt_succ_self _,fun hm => hfresh _ (List.mem_append_right _ hm) rfl,
        fun hm => hfresh _ (List.mem_append_left _ hm) rfl⟩
  · have hlt := h.left registry hmem
    change registry<w.built+1
    omega
  · change ((set w.entries (tenants r) w.built).map Prod.snd).getLast?=some w.built
    rw [hvalues,List.getLast?_concat]

/-- The least recently used registry is closed; the one just cached is another. -/
theorem Facts.evict (h : Facts tenants w) {registry : Nat} {victim : EntityId × Nat}
    {rest : Table EntityId Nat} (hr : w.stages r=.trimming registry) (hentries : w.entries=victim::rest)
    (hfull : cap.maxEntries<w.entries.length) :
    Facts tenants {w with entries := rest,closed := w.closed++[victim.2]} := by
  have hinside : (w.stages r).inside=true := hr ▸ rfl
  have hdistinct := h.distinct
  rw [hentries,List.map_cons] at hdistinct
  obtain ⟨hother,hrest⟩ := List.nodup_cons.mp hdistinct
  have hmem : ∀ e∈rest,e∈w.entries := fun e he => hentries ▸ List.mem_cons_of_mem _ he
  refine ⟨hrest,fun e he => ?_,fun x hx => ?_,h.alone,fun i => ?_⟩
  · obtain ⟨hlt,hopen,hstays⟩ := h.cached e (hmem e he)
    refine ⟨hlt,fun hm => ?_,hstays⟩
    rcases List.mem_append.mp hm with hold|hnew
    · exact hopen hold
    · exact hother (List.mem_singleton.mp hnew ▸ List.mem_map_of_mem he)
  · rcases List.mem_append.mp hx with hleaving|hclosed
    · exact h.left x (List.mem_append_left _ hleaving)
    · rcases List.mem_append.mp hclosed with hold|hnew
      · exact h.left x (List.mem_append_right _ hold)
      · rw [List.mem_singleton.mp hnew]
        exact (h.cached victim (hentries ▸ List.mem_cons_self)).1
  · by_cases hir : i=r
    · subst hir
      have hlast : StageFact w.entries (tenants i) (.trimming registry) := hr ▸ h.stages i
      have hone := cap.one_le
      change StageFact rest (tenants i) (w.stages i)
      rw [hr]
      change (w.entries.map Prod.snd).getLast?=some registry at hlast
      change (rest.map Prod.snd).getLast?=some registry
      rw [hentries] at hlast hfull
      cases rest with
      | nil =>
        rw [List.length_singleton] at hfull
        omega
      | cons e rest => exact hlast
    · exact stageFact_outside rest i _ (h.alone.others hinside hir)

theorem Facts.step (h : Facts tenants w) (hs : Step cap tenants w a w') : Facts tenants w' := by
  unfold Step ofPartial RegistryEviction.step at hs
  cases a with
  | get r =>
    dsimp only at hs
    split at hs
    · rename_i hidle hfree
      split at hs
      · rename_i registry hget
        cases hs
        exact h.hit hfree registry
      · rename_i habsent
        cases hs
        have halone : Exclusive Stage.inside none w.stages := hfree ▸ h.alone
        exact ⟨h.distinct,h.cached,h.left,halone.enter r _,h.moves habsent⟩
    · cases hs
  | build r ok =>
    dsimp only at hs
    split at hs
    · rename_i hr
      have hinside : (w.stages r).inside=true := hr ▸ rfl
      split at hs <;> cases hs
      · exact h.build hr
      · exact ⟨h.distinct,h.cached,h.left,h.alone.leave hinside rfl,h.moves trivial⟩
    · cases hs
  | evict r =>
    dsimp only at hs
    split at hs
    · rename_i registry victim rest hr hentries
      split at hs
      · rename_i hfull
        cases hs
        exact h.evict hr hentries hfull
      · cases hs
    · cases hs
  | answer r =>
    dsimp only at hs
    split at hs
    · rename_i registry hr
      have hinside : (w.stages r).inside=true := hr ▸ rfl
      split at hs <;> cases hs
      exact ⟨h.distinct,h.cached,h.left,h.alone.leave hinside rfl,h.moves trivial⟩
    · cases hs
  | finish r =>
    dsimp only at hs
    split at hs
    · cases hs
      exact ⟨h.distinct,h.cached,h.left,h.alone.outside rfl,h.moves trivial⟩
    · cases hs
  | closeAll =>
    dsimp only at hs
    split at hs
    · rename_i hfree
      cases hs
      refine ⟨.nil,nofun,fun registry hmem => ?_,h.alone,h.unbound hfree []⟩
      rcases List.mem_append.mp hmem with hleaving|hclosed
      · rcases List.mem_append.mp hleaving with hold|hnew
        · exact h.left registry (List.mem_append_left _ hold)
        · obtain ⟨e,he,rfl⟩ := List.mem_map.mp hnew
          exact (h.cached e he).1
      · exact h.left registry (List.mem_append_right _ hclosed)
    · cases hs
  | closeNext =>
    dsimp only at hs
    split at hs
    · rename_i registry rest hleaving
      cases hs
      have hleft := h.left
      have hcached := h.cached
      rw [hleaving] at hleft hcached
      refine ⟨h.distinct,fun e he => ?_,fun x hx => hleft x ?_,h.alone,h.stages⟩
      · obtain ⟨hlt,hopen,hstays⟩ := hcached e he
        refine ⟨hlt,fun hm => ?_,fun hm => hstays (List.mem_cons_of_mem _ hm)⟩
        rcases List.mem_append.mp hm with hold|hnew
        · exact hopen hold
        · exact hstays (List.mem_singleton.mp hnew ▸ List.mem_cons_self)
      · simp only [List.mem_append,List.mem_cons,List.not_mem_nil,or_false] at hx ⊢
        tauto
    · cases hs

/-- A call moves; it is given an open registry, if it is given any. -/
theorem Open.at (h : Open w) {st : Stage}
    (hst : ∀ registry,st=.calling registry → registry∉w.closed) : Open (w.at r st) :=
  (Function.forall_update_iff w.stages fun _ st => ∀ registry,st=.calling registry →
    registry∉w.closed).mpr ⟨hst,fun i _ => h i⟩

/-- A registry is closed that no call uses. -/
theorem Open.close (h : Open w) {victim : Nat} (hvictim : ∀ i,w.stages i≠.calling victim) (i registry : Nat)
    (hi : w.stages i=.calling registry) : registry∉w.closed++[victim] := by
  intro hm
  rcases List.mem_append.mp hm with hold|hnew
  · exact h i registry hi hold
  · exact hvictim i (List.mem_singleton.mp hnew ▸ hi)

/-- A step that closes nothing in use closes nothing under a call. -/
theorem Open.step (h : Open w) (hfacts : Facts tenants w) (hs : Step cap tenants w a w')
    (hunused : Unused w a) : Open w' := by
  unfold Step ofPartial RegistryEviction.step at hs
  cases a with
  | get r =>
    dsimp only at hs
    split at hs
    · split at hs
      · rename_i registry hget
        cases hs
        have hopen : registry∉w.closed := (hfacts.cached _ (mem_of_get hget)).2.1
        have hmoved : Open (w.at r (.calling registry)) := h.at fun x hx => by cases hx; exact hopen
        exact hmoved
      · cases hs
        have hmoved : Open (w.at r .building) := h.at nofun
        exact hmoved
    · cases hs
  | build r ok =>
    dsimp only at hs
    split at hs
    · split at hs <;> cases hs
      · have hmoved : Open (w.at r (.trimming w.built)) := h.at nofun
        exact hmoved
      · have hmoved : Open (w.at r .finished) := h.at nofun
        exact hmoved
    · cases hs
  | evict r =>
    dsimp only at hs
    split at hs
    · rename_i registry victim rest hr hentries
      split at hs <;> cases hs
      have hvictim : ∀ i,w.stages i≠.calling victim.2 := by
        refine hunused victim.2 ?_
        simp [closing,hentries]
      exact h.close hvictim
    · cases hs
  | answer r =>
    dsimp only at hs
    split at hs
    · rename_i registry hr
      split at hs <;> cases hs
      have hlast : StageFact w.entries (tenants r) (.trimming registry) := hr ▸ hfacts.stages r
      obtain ⟨e,he,hregistry⟩ := List.mem_map.mp (List.mem_of_getLast? hlast)
      have hopen : registry∉w.closed := hregistry ▸ (hfacts.cached e he).2.1
      have hmoved : Open (w.at r (.calling registry)) := h.at fun x hx => by cases hx; exact hopen
      exact hmoved
    · cases hs
  | finish r =>
    dsimp only at hs
    split at hs
    · cases hs
      exact h.at nofun
    · cases hs
  | closeAll =>
    dsimp only at hs
    split at hs
    · cases hs
      exact h
    · cases hs
  | closeNext =>
    dsimp only at hs
    split at hs
    · rename_i registry rest hleaving
      cases hs
      have hvictim : ∀ i,w.stages i≠.calling registry := by
        refine hunused registry ?_
        simp [closing,hleaving]
      exact h.close hvictim
    · cases hs

end Steps

end Voyagent.RegistryEviction
