import Voyagent.RegistryEviction

/-!
# Registries in the order of their use

The cache of `TenantRegistry` under calls that follow one another. It holds the
registries of the tenants asked for last; the one that makes room is closed as it
leaves, and `aclose_all` closes the rest. Registries are told apart by the tenant
they were built for and by their number.
-/

namespace Voyagent.RegistryRecency

open KeyedMap LruCache RuntimeValues RegistryEviction

/-- A `DriverRegistry`: the how manieth it is, and for whom it was built. -/
structure Registry where
  number : Nat
  tenantId : EntityId
  deriving DecidableEq

/-- `TenantRegistry`, and what became of the registries. -/
structure TenantRegistry where
  /-- `_entries`, the least recently used first. -/
  entries : Table EntityId Registry := []
  /-- Registries in the order in which they were closed. -/
  closed : List Registry := []
  /-- How many have been built. -/
  built : Nat := 0

/-- The loop that makes room: take the oldest entry out and close it. -/
def trim (cap : Capacity) : Table EntityId Registry → List Registry →
    Table EntityId Registry × List Registry
  | [],closed => ([],closed)
  | entry::entries,closed =>
    if cap.maxEntries<(entry::entries).length then trim cap entries (closed++[entry.2])
    else (entry::entries,closed)

/-- `get`; a build that is needed succeeds or raises. -/
def TenantRegistry.get (t : TenantRegistry) (cap : Capacity) (tenantId : EntityId)
    (builds : Except Exn Unit) : TenantRegistry × Except Exn Registry :=
  match KeyedMap.get t.entries tenantId with
  | some registry => ({t with entries := touch t.entries tenantId},.ok registry)
  | none =>
    match builds with
    | .error e => (t,.error e)
    | .ok _ =>
      let registry : Registry := ⟨t.built,tenantId⟩
      let trimmed := trim cap (KeyedMap.set t.entries tenantId registry) t.closed
      (⟨trimmed.1,trimmed.2,t.built+1⟩,.ok registry)

/-- `aclose_all`. -/
def TenantRegistry.acloseAll (t : TenantRegistry) : TenantRegistry :=
  {t with entries := [], closed := t.closed++t.entries.map Prod.snd}

inductive Call where
  | get (tenantId : EntityId) (builds : Except Exn Unit)
  | acloseAll

/-- The cache after a call, and the answer of a `get`. -/
def Call.run (cap : Capacity) (t : TenantRegistry) : Call → TenantRegistry × Option (Except Exn Registry)
  | .get tenantId builds => ((t.get cap tenantId builds).1,some (t.get cap tenantId builds).2)
  | .acloseAll => (t.acloseAll,none)

/-- The tenants whose registries were given out since the last `aclose_all`, with
this call. -/
def Call.uses (uses : List EntityId) : Call → Option (Except Exn Registry) → List EntityId
  | .get tenantId _,some (.ok _) => uses++[tenantId]
  | .get _ _,_ => uses
  | .acloseAll,_ => []

/-- The cache and the uses after a call. -/
def record (cap : Capacity) (s : TenantRegistry × List EntityId) (call : Call) :
    TenantRegistry × List EntityId :=
  ((call.run cap s.1).1,call.uses s.2 (call.run cap s.1).2)

/-- The same after a sequence of calls. -/
def replay (cap : Capacity) (calls : List Call) : TenantRegistry × List EntityId :=
  calls.foldl (record cap) ({},[])

/-- The registries that are cached. -/
def TenantRegistry.cached (t : TenantRegistry) : List Registry := t.entries.map Prod.snd

/-! ## Caches between calls -/

/-- The cached tenants are those used last, every registry is its tenant's own and
older than the next number, and no registry is closed twice or closed and cached. -/
structure Ordered (cap : Capacity) (t : TenantRegistry) (uses : List EntityId) : Prop where
  recent : t.entries.map Prod.fst=lastUsed cap.maxEntries uses
  own : ∀ e∈t.entries,e.2.tenantId=e.1
  older : ∀ r∈t.closed++t.cached,r.number<t.built
  once : (t.closed++t.cached).Nodup

/-- What a call does to the cache: it closes what leaves and nothing else, and gives
out a cached registry of the tenant; a build that raises changes nothing. -/
structure Sound (t t' : TenantRegistry) (call : Call) (answer : Option (Except Exn Registry)) :
    Prop where
  closes : ∃ leaving,t'.closed=t.closed++leaving ∧ ∀ r,r∈leaving ↔ r∈t.cached ∧ r∉t'.cached
  gives : ∀ tenantId builds r,call=.get tenantId builds → answer=some (.ok r) →
    r.tenantId=tenantId ∧ (tenantId,r)∈t'.entries ∧ r∉t'.closed
  raises : ∀ e,answer=some (.error e) → t'=t

variable {cap : Capacity} {t : TenantRegistry} {uses : List EntityId} {tenantId : EntityId}
  {r registry : Registry} {call : Call}

/-- Making room takes the oldest entries out and closes them in their order. -/
theorem trim_eq (cap : Capacity) (entries : Table EntityId Registry) (closed : List Registry) :
    trim cap entries closed=(entries.drop (entries.length-cap.maxEntries),
      closed++(entries.take (entries.length-cap.maxEntries)).map Prod.snd) := by
  induction entries generalizing closed with
  | nil => simp [trim]
  | cons entry entries ih =>
    unfold trim
    split
    · rename_i hfull
      have hmore : (entry::entries).length-cap.maxEntries=entries.length-cap.maxEntries+1 := by
        rw [List.length_cons] at hfull ⊢
        omega
      rw [ih,hmore,List.drop_succ_cons,List.take_succ_cons,List.map_cons,List.append_assoc]
      rfl
    · rename_i hroom
      rw [Nat.sub_eq_zero_of_le (not_lt.mp hroom)]
      simp

/-- A new registry stays; some of the older entries leave for it. -/
theorem trim_set (cap : Capacity) (habsent : KeyedMap.get t.entries tenantId=none)
    (registry : Registry) :
    ∃ leaving staying,t.entries=leaving++staying ∧
      trim cap (KeyedMap.set t.entries tenantId registry) t.closed=
        (staying++[(tenantId,registry)],t.closed++leaving.map Prod.snd) := by
  have hone := cap.one_le
  have hfew : t.entries.length+1-cap.maxEntries≤t.entries.length := by omega
  refine ⟨t.entries.take (t.entries.length+1-cap.maxEntries),
    t.entries.drop (t.entries.length+1-cap.maxEntries),(List.take_append_drop _ _).symm,?_⟩
  rw [trim_eq,set_of_absent habsent,List.length_append,List.length_singleton,
    List.drop_append_of_le_length hfew,List.take_append_of_le_length hfew]

theorem Ordered.bounded (h : Ordered cap t uses) : t.entries.length≤cap.maxEntries := by
  have hlength : t.entries.length=(lastUsed cap.maxEntries uses).length := by
    rw [← h.recent,List.length_map]
  rw [hlength,lastUsed,List.rtake,List.length_drop]
  omega

theorem Ordered.not_closed (h : Ordered cap t uses) (hr : r∈t.cached) : r∉t.closed :=
  fun hclosed => (List.nodup_append.mp h.once).2.2 r hclosed r hr rfl

theorem Ordered.start (cap : Capacity) : Ordered cap {} [] :=
  ⟨by simp [lastUsed],fun _ he => absurd he List.not_mem_nil,
    fun _ hr => absurd hr List.not_mem_nil,List.nodup_nil⟩

/-- A hit moves the tenant's registry to the end and gives it out. -/
theorem Ordered.hit (h : Ordered cap t uses) (hget : KeyedMap.get t.entries tenantId=some registry)
    (builds : Except Exn Unit) :
    Ordered cap {t with entries := touch t.entries tenantId} (uses++[tenantId]) ∧
      Sound t {t with entries := touch t.entries tenantId} (.get tenantId builds)
        (some (.ok registry)) := by
  have hperm : (touch t.entries tenantId).Perm t.entries := touch_perm t.entries tenantId
  have hcached : ((touch t.entries tenantId).map Prod.snd).Perm t.cached := hperm.map _
  have hmem : (tenantId,registry)∈t.entries := mem_of_get hget
  have hkeys : ((touch t.entries tenantId).map Prod.fst).length≤cap.maxEntries := by
    rw [List.length_map,hperm.length_eq]
    exact h.bounded
  constructor
  · refine ⟨?_,fun e he => h.own e (hperm.mem_iff.mp he),fun r hr => ?_,?_⟩
    · rw [lastUsed_concat,← h.recent,← keys_touch hget]
      exact (rtake_of_length_le hkeys).symm
    · exact h.older r ((hcached.append_left t.closed).mem_iff.mp hr)
    · exact (hcached.append_left t.closed).nodup_iff.mpr h.once
  · refine ⟨⟨[],(List.append_nil _).symm,fun r => ?_⟩,?_,?_⟩
    · refine iff_of_false List.not_mem_nil fun hr => hr.2 ?_
      exact hcached.mem_iff.mpr hr.1
    · intro tenantId' builds' r hcall hanswer
      cases hcall
      cases hanswer
      exact ⟨h.own _ hmem,hperm.mem_iff.mpr hmem,h.not_closed (List.mem_map_of_mem hmem)⟩
    · intro e hanswer
      cases hanswer

/-- A miss caches a new registry of the tenant, and closes what it takes the room of. -/
theorem Ordered.miss (h : Ordered cap t uses) (hget : KeyedMap.get t.entries tenantId=none)
    (builds : Except Exn Unit) {trimmed : Table EntityId Registry × List Registry}
    (htrimmed : trimmed=trim cap (KeyedMap.set t.entries tenantId ⟨t.built,tenantId⟩) t.closed) :
    Ordered cap ⟨trimmed.1,trimmed.2,t.built+1⟩ (uses++[tenantId]) ∧
      Sound t ⟨trimmed.1,trimmed.2,t.built+1⟩ (.get tenantId builds)
        (some (.ok ⟨t.built,tenantId⟩)) := by
  obtain ⟨leaving,staying,hentries,htrim⟩ := trim_set cap hget ⟨t.built,tenantId⟩
  have hstore : trimmed.1=store cap.maxEntries t.entries tenantId ⟨t.built,tenantId⟩ := by
    rw [htrimmed,trim_eq]
    rfl
  rw [htrimmed,htrim] at hstore
  rw [htrimmed,htrim]
  have hcached : t.cached=leaving.map Prod.snd++staying.map Prod.snd := by
    rw [TenantRegistry.cached,hentries,List.map_append]
  -- the registries change their places, and the new one comes last
  have hall : (t.closed++leaving.map Prod.snd)++(staying++[(tenantId,(⟨t.built,tenantId⟩ : Registry))]).map
      Prod.snd=(t.closed++t.cached)++[⟨t.built,tenantId⟩] := by
    rw [hcached]
    simp
  have hnew : ⟨t.built,tenantId⟩∉t.closed++t.cached := fun hr => lt_irrefl _ (h.older _ hr)
  constructor
  · refine ⟨?_,fun e he => ?_,fun r hr => ?_,?_⟩
    · rw [lastUsed_concat,← h.recent,← keys_store hget cap.maxEntries ⟨t.built,tenantId⟩,← hstore]
    · rcases List.mem_append.mp he with hstay|hlast
      · exact h.own e (hentries ▸ List.mem_append_right _ hstay)
      · rw [List.mem_singleton.mp hlast]
    · rw [TenantRegistry.cached,hall] at hr
      rcases List.mem_append.mp hr with hold|hlast
      · exact Nat.lt_succ_of_lt (h.older r hold)
      · rw [List.mem_singleton.mp hlast]
        exact Nat.lt_succ_self t.built
    · rw [TenantRegistry.cached,hall]
      refine List.nodup_append.mpr ⟨h.once,List.nodup_singleton _,fun r hr r' hr' heq => hnew ?_⟩
      rwa [← List.mem_singleton.mp hr',← heq]
  · refine ⟨⟨leaving.map Prod.snd,rfl,fun r => ?_⟩,?_,?_⟩
    · have honce := (List.nodup_append.mp h.once).2.1
      rw [hcached] at honce
      obtain ⟨-,-,hapart⟩ := List.nodup_append.mp honce
      rw [hcached,TenantRegistry.cached,List.map_append,List.mem_append,List.mem_append]
      constructor
      · intro hleave
        refine ⟨.inl hleave,fun hstay => ?_⟩
        rcases hstay with hstay|hlast
        · exact hapart r hleave r hstay rfl
        · have heq : r=⟨t.built,tenantId⟩ := List.mem_singleton.mp hlast
          refine hnew (List.mem_append_right _ ?_)
          rw [← heq,hcached]
          exact List.mem_append_left _ hleave
      · rintro ⟨hleave|hstay,hgone⟩
        · exact hleave
        · exact absurd (.inl hstay) hgone
    · intro tenantId' builds' r hcall hanswer
      cases hcall
      cases hanswer
      refine ⟨rfl,List.mem_append_right _ List.mem_cons_self,fun hclosed => hnew ?_⟩
      rcases List.mem_append.mp hclosed with hold|hleave
      · exact List.mem_append_left _ hold
      · exact List.mem_append_right _ (hcached ▸ List.mem_append_left _ hleave)
    · intro e hanswer
      cases hanswer

/-- `aclose_all` closes every cached registry. -/
theorem Ordered.closeAll (h : Ordered cap t uses) :
    Ordered cap t.acloseAll [] ∧ Sound t t.acloseAll .acloseAll none := by
  have hall : t.acloseAll.closed++t.acloseAll.cached=t.closed++t.cached := List.append_nil _
  constructor
  · refine ⟨by simp [TenantRegistry.acloseAll,lastUsed],fun e he => absurd he List.not_mem_nil,?_,?_⟩
    · rw [hall]
      exact h.older
    · rw [hall]
      exact h.once
  · refine ⟨⟨t.cached,rfl,fun r => ?_⟩,?_,?_⟩
    · exact ⟨fun hr => ⟨hr,List.not_mem_nil⟩,fun hr => hr.1⟩
    · intro tenantId builds r hcall
      cases hcall
    · intro e hanswer
      cases hanswer

/-- Every call keeps the cache in order and is sound. -/
theorem Ordered.run (h : Ordered cap t uses) (call : Call) :
    Ordered cap (call.run cap t).1 (call.uses uses (call.run cap t).2) ∧
      Sound t (call.run cap t).1 call (call.run cap t).2 := by
  cases call with
  | get tenantId builds =>
    cases hget : KeyedMap.get t.entries tenantId with
    | some registry =>
      have hrun : (Call.get tenantId builds).run cap t=
          ({t with entries := touch t.entries tenantId},some (.ok registry)) := by
        simp only [Call.run,TenantRegistry.get,hget]
      rw [hrun]
      exact h.hit hget builds
    | none =>
      cases builds with
      | ok built =>
        have hrun : (Call.get tenantId (.ok built)).run cap t=
            (⟨(trim cap (KeyedMap.set t.entries tenantId ⟨t.built,tenantId⟩) t.closed).1,
              (trim cap (KeyedMap.set t.entries tenantId ⟨t.built,tenantId⟩) t.closed).2,t.built+1⟩,
              some (.ok ⟨t.built,tenantId⟩)) := by
          simp only [Call.run,TenantRegistry.get,hget]
        rw [hrun]
        exact h.miss hget (.ok built) rfl
      | error e =>
        have hrun : (Call.get tenantId (.error e)).run cap t=(t,some (.error e)) := by
          simp only [Call.run,TenantRegistry.get,hget]
        rw [hrun]
        refine ⟨h,⟨[],(List.append_nil _).symm,fun r => ?_⟩,?_,fun _ _ => rfl⟩
        · exact iff_of_false List.not_mem_nil fun hr => hr.2 hr.1
        · intro tenantId' builds' r hcall hanswer
          cases hanswer
  | acloseAll => exact h.closeAll

end Voyagent.RegistryRecency
