import Mathlib.Algebra.Order.Ring.Rat
import Mathlib.Data.List.Sort
import Mathlib.Data.Prod.Lex
import Mathlib.Data.String.Basic
import Mathlib.Tactic.Linarith
import Voyagent.KeyedMap

/-!
# The offer cache in memory

`InMemoryOfferCache` stores offers with the instants they expire at. A heap lists
every instant ever given to a key, also when the key was stored again or deleted
since. Sweeps work it off and drop entries that have expired themselves, so that
an old instant never takes a fresh offer away. The clock never goes back.
-/

namespace Voyagent.OfferCache

open KeyedMap

/-- An instant at which a key was to expire; tuples compare by their first
parts, then by their second. -/
abbrev Due : Type := Rat ×ₗ String

/-- The instant of a heap entry. -/
def Due.at (due : Due) : Rat := (ofLex due).1

/-- The key of a heap entry. -/
def Due.key (due : Due) : String := (ofLex due).2

variable {Offer : Type}

/-- `InMemoryOfferCache`. -/
structure InMemoryOfferCache (Offer : Type) where
  store : Table String (Rat × Offer) := []
  /-- `_expiry_heap`, in the order in which `heappop` gives it out. -/
  expiryHeap : List Due := []

/-- Take a key out if its own entry has expired. -/
def dropExpired (now : Rat) (store : Table String (Rat × Offer)) (key : String) :
    Table String (Rat × Offer) :=
  match KeyedMap.get store key with
  | none => store
  | some entry => if entry.1≤now then erase store key else store

/-- The loop of `_sweep` over what is left of the heap. -/
def sweepFrom (now : Rat) (store : Table String (Rat × Offer)) : List Due → InMemoryOfferCache Offer
  | [] => ⟨store,[]⟩
  | due::heap =>
    if due.at≤now then sweepFrom now (dropExpired now store due.key) heap else ⟨store,due::heap⟩

/-- `_sweep`. -/
def InMemoryOfferCache.sweep (cache : InMemoryOfferCache Offer) (now : Rat) :
    InMemoryOfferCache Offer :=
  sweepFrom now cache.store cache.expiryHeap

/-- `put`. -/
def InMemoryOfferCache.put (cache : InMemoryOfferCache Offer) (key : String) (offer : Offer)
    (ttlSeconds : Int) (now : Rat) : Except String (InMemoryOfferCache Offer) :=
  if ttlSeconds≤0 then .error "ttl_seconds must be positive"
  else
    let expiresAt := now+ttlSeconds
    .ok ⟨KeyedMap.set cache.store key (expiresAt,offer),
      cache.expiryHeap.orderedInsert (· ≤ ·) (toLex (expiresAt,key))⟩

/-- `get`: the cache after the call, and its answer. The sweep reads the clock,
and a found entry has it read again. -/
def InMemoryOfferCache.get (cache : InMemoryOfferCache Offer) (key : String)
    (sweptAt checkedAt : Rat) : InMemoryOfferCache Offer × Option Offer :=
  let swept := cache.sweep sweptAt
  match KeyedMap.get swept.store key with
  | none => (swept,none)
  | some (expiresAt,offer) =>
    if expiresAt≤checkedAt then ({swept with store := erase swept.store key},none)
    else (swept,some offer)

/-- `delete`. -/
def InMemoryOfferCache.delete (cache : InMemoryOfferCache Offer) (key : String) :
    InMemoryOfferCache Offer :=
  {cache with store := erase cache.store key}

/-! ## Sequences of calls -/

/-- A call, with what it reads off the clock. -/
inductive Call (Offer : Type) where
  | put (key : String) (offer : Offer) (ttlSeconds : Int) (now : Rat)
  | get (key : String) (sweptAt checkedAt : Rat)
  | delete (key : String)

/-- The readings in their order. -/
def Call.readings : Call Offer → List Rat
  | .put _ _ _ now => [now]
  | .get _ sweptAt checkedAt => [sweptAt,checkedAt]
  | .delete _ => []

/-- The cache after a call; one that raises leaves it as it is. -/
def InMemoryOfferCache.after (cache : InMemoryOfferCache Offer) : Call Offer → InMemoryOfferCache Offer
  | .put key offer ttlSeconds now => (cache.put key offer ttlSeconds now).toOption.getD cache
  | .get key sweptAt checkedAt => (cache.get key sweptAt checkedAt).1
  | .delete key => cache.delete key

/-- The cache after a sequence of calls. -/
def replay (calls : List (Call Offer)) : InMemoryOfferCache Offer :=
  calls.foldl InMemoryOfferCache.after {}

/-! ## The map with expiry -/

/-- The call stores an offer under the key or deletes the key. A put that raises
does neither. -/
def Call.Writes (key : String) : Call Offer → Prop
  | .put k _ ttlSeconds _ => k=key ∧ 0<ttlSeconds
  | .get _ _ _ => False
  | .delete k => k=key

/-- The latest of the calls that write the key puts this offer there, until then. -/
def Holds (calls : List (Call Offer)) (key : String) (expiresAt : Rat) (offer : Offer) : Prop :=
  ∃ before after ttlSeconds now,calls=before++Call.put key offer ttlSeconds now::after ∧
    0<ttlSeconds ∧ expiresAt=now+ttlSeconds ∧ ∀ c∈after,¬c.Writes key

variable {calls : List (Call Offer)} {call : Call Offer} {key k : String} {offer : Offer}
  {now expiresAt : Rat} {ttlSeconds : Int} {cache : InMemoryOfferCache Offer}
  {store : Table String (Rat × Offer)} {heap : List Due} {entry : Rat × Offer}

/-- What one more call makes of the latest write. -/
theorem holds_concat : Holds (calls++[call]) key expiresAt offer ↔
    (∃ ttlSeconds now,call=.put key offer ttlSeconds now ∧ 0<ttlSeconds ∧
      expiresAt=now+ttlSeconds) ∨ ¬call.Writes key ∧ Holds calls key expiresAt offer := by
  constructor
  · rintro ⟨before,after,ttlSeconds,now,hcalls,hpos,hexpires,hafter⟩
    rcases List.eq_nil_or_concat after with rfl|⟨after',last,rfl⟩
    · obtain ⟨-,hlast⟩ := List.append_inj' hcalls rfl
      exact .inl ⟨ttlSeconds,now,List.head_eq_of_cons_eq hlast,hpos,hexpires⟩
    · rw [List.concat_eq_append,← List.cons_append,← List.append_assoc] at hcalls
      obtain ⟨hinit,hlast⟩ := List.append_inj' hcalls rfl
      rw [List.concat_eq_append] at hafter
      refine .inr ⟨?_,before,after',ttlSeconds,now,hinit,hpos,hexpires,fun c hc => ?_⟩
      · rw [List.head_eq_of_cons_eq hlast]
        exact hafter last (List.mem_append_right _ List.mem_cons_self)
      · exact hafter c (List.mem_append_left _ hc)
  · rintro (⟨ttlSeconds,now,rfl,hpos,hexpires⟩|⟨hcall,hholds⟩)
    · exact ⟨calls,[],ttlSeconds,now,rfl,hpos,hexpires,fun c hc => absurd hc List.not_mem_nil⟩
    · obtain ⟨before,after,ttlSeconds,now,rfl,hpos,hexpires,hafter⟩ := hholds
      refine ⟨before,after++[call],ttlSeconds,now,by simp,hpos,hexpires,fun c hc => ?_⟩
      rcases List.mem_append.mp hc with hold|hnew
      · exact hafter c hold
      · exact List.mem_singleton.mp hnew ▸ hcall

/-! ## The heap and the store -/

/-- The heap is in order and knows when every stored entry expires. -/
structure WellKept (cache : InMemoryOfferCache Offer) : Prop where
  apart : (cache.store.map Prod.fst).Nodup
  sorted : cache.expiryHeap.Pairwise (· ≤ ·)
  due : ∀ k entry,KeyedMap.get cache.store k=some entry → toLex (entry.1,k)∈cache.expiryHeap

/-- What has not expired yet. -/
def fresh (now : Rat) (entry : Rat × Offer) : Bool := decide (now<entry.1)

@[simp] theorem fresh_iff : fresh now entry=true ↔ now<entry.1 := decide_eq_true_iff

theorem filter_of_expired (h : entry.1≤now) : (some entry).filter (fresh now)=none := by
  rw [Option.filter_some,if_neg]
  rw [fresh_iff]
  exact not_lt.mpr h

theorem filter_of_fresh (h : now<entry.1) : (some entry).filter (fresh now)=some entry := by
  rw [Option.filter_some,if_pos (fresh_iff.mpr h)]

theorem nodup_dropExpired (h : (store.map Prod.fst).Nodup) (now : Rat) (key : String) :
    ((dropExpired now store key).map Prod.fst).Nodup := by
  unfold dropExpired
  split
  · exact h
  · split
    · exact nodup_erase h key
    · exact h

/-- Only an expired entry of the key itself is taken out. -/
theorem get_dropExpired (h : (store.map Prod.fst).Nodup) (now : Rat) (key k : String) :
    KeyedMap.get (dropExpired now store key) k=
      if k=key then (KeyedMap.get store k).filter (fresh now) else KeyedMap.get store k := by
  unfold dropExpired
  by_cases hk : k=key
  · subst hk
    rw [if_pos rfl]
    cases hget : KeyedMap.get store k with
    | none => exact hget
    | some entry =>
      dsimp only
      split
      · rename_i hexpired
        rw [get_erase_self h,filter_of_expired hexpired]
      · rename_i hexpired
        rw [hget,filter_of_fresh (not_le.mp hexpired)]
  · rw [if_neg hk]
    cases KeyedMap.get store key with
    | none => rfl
    | some entry =>
      dsimp only
      split
      · exact get_erase_of_ne store hk
      · rfl

/-- A due instant that has passed is worked off. -/
theorem WellKept.pop {due : Due} (h : WellKept ⟨store,due::heap⟩) (hdue : due.at≤now) :
    WellKept ⟨dropExpired now store due.key,heap⟩ := by
  refine ⟨nodup_dropExpired h.apart now due.key,(List.pairwise_cons.mp h.sorted).2,?_⟩
  intro k entry hget
  change KeyedMap.get (dropExpired now store due.key) k=some entry at hget
  rw [get_dropExpired h.apart] at hget
  split at hget
  · -- the key's own entry stayed because it expires later than this instant
    obtain ⟨hold,hfresh⟩ := Option.filter_eq_some_iff.mp hget
    have hlater : now<entry.1 := fresh_iff.mp hfresh
    refine (List.mem_cons.mp (h.due k entry hold)).resolve_left fun heq => ?_
    rw [← heq] at hdue
    exact absurd hdue (not_le.mpr hlater)
  · rename_i hk
    refine (List.mem_cons.mp (h.due k entry hget)).resolve_left fun heq => hk ?_
    rw [← heq]
    rfl

/-- A sweep takes out what has expired and nothing else. -/
theorem sweepFrom_spec (now : Rat) (heap : List Due) (store : Table String (Rat × Offer))
    (h : WellKept ⟨store,heap⟩) : WellKept (sweepFrom now store heap) ∧ ∀ k,
      KeyedMap.get (sweepFrom now store heap).store k=(KeyedMap.get store k).filter (fresh now) := by
  induction heap generalizing store with
  | nil =>
    refine ⟨h,fun k => ?_⟩
    change KeyedMap.get store k=_
    cases hget : KeyedMap.get store k with
    | none => rfl
    | some entry => exact absurd (h.due k entry hget) List.not_mem_nil
  | cons due heap ih =>
    unfold sweepFrom
    split
    · rename_i hdue
      obtain ⟨hkept,hget⟩ := ih _ (h.pop hdue)
      refine ⟨hkept,fun k => ?_⟩
      rw [hget,get_dropExpired h.apart]
      split
      · rw [Option.filter_filter]
        simp
      · rfl
    · rename_i hdue
      refine ⟨h,fun k => ?_⟩
      change KeyedMap.get store k=_
      cases hget : KeyedMap.get store k with
      | none => rfl
      | some entry =>
        -- the heap is in order, so every entry expires after the instant on top
        have htop : due.at≤entry.1 := by
          rcases List.mem_cons.mp (h.due k entry hget) with heq|hmem
          · exact le_of_eq (congrArg Due.at heq).symm
          · exact Prod.Lex.monotone_fst _ _ ((List.pairwise_cons.mp h.sorted).1 _ hmem)
        rw [filter_of_fresh ((not_le.mp hdue).trans_le htop)]

theorem WellKept.sweep (h : WellKept cache) (now : Rat) : WellKept (cache.sweep now) :=
  (sweepFrom_spec now cache.expiryHeap cache.store h).1

theorem WellKept.get_sweep (h : WellKept cache) (now : Rat) (k : String) :
    KeyedMap.get (cache.sweep now).store k=(KeyedMap.get cache.store k).filter (fresh now) :=
  (sweepFrom_spec now cache.expiryHeap cache.store h).2 k

/-- Taking a key out needs no change of the heap. -/
theorem WellKept.erase (h : WellKept cache) (key : String) :
    WellKept {cache with store := KeyedMap.erase cache.store key} := by
  refine ⟨nodup_erase h.apart key,h.sorted,fun k entry hget => ?_⟩
  by_cases hk : k=key
  · subst hk
    cases (get_erase_self h.apart k).symm.trans hget
  · exact h.due k entry ((get_erase_of_ne cache.store hk).symm.trans hget)

/-- What `get` answers, and what it leaves: everything that has not expired when
it checks. -/
theorem WellKept.get_spec (h : WellKept cache) (key : String) {sweptAt checkedAt : Rat}
    (hle : sweptAt≤checkedAt) :
    (cache.get key sweptAt checkedAt).2=
        ((KeyedMap.get cache.store key).filter (fresh checkedAt)).map Prod.snd ∧
      WellKept (cache.get key sweptAt checkedAt).1 ∧ ∀ k,
        KeyedMap.get (cache.get key sweptAt checkedAt).1.store k=
          (KeyedMap.get cache.store k).filter
            (fresh (if k=key then checkedAt else sweptAt)) := by
  have hkept := h.sweep sweptAt
  have hswept := h.get_sweep sweptAt
  -- the second reading subsumes the first
  have htwice : ∀ found : Option (Rat × Offer),
      (found.filter (fresh sweptAt)).filter (fresh checkedAt)=found.filter (fresh checkedAt) := by
    intro found
    rw [Option.filter_filter]
    congr 1
    funext entry
    rw [Bool.eq_iff_iff,Bool.and_eq_true,fresh_iff,fresh_iff]
    exact ⟨fun hboth => hboth.2,fun hlater => ⟨hle.trans_lt hlater,hlater⟩⟩
  unfold InMemoryOfferCache.get
  dsimp only
  rw [← htwice,← hswept]
  cases hget : KeyedMap.get (cache.sweep sweptAt).store key with
  | none =>
    refine ⟨rfl,hkept,fun k => ?_⟩
    by_cases hk : k=key
    · rw [if_pos hk,← htwice,← hswept,hk,hget]
      rfl
    · rw [if_neg hk]
      exact hswept k
  | some entry =>
    obtain ⟨expiresAt,offer⟩ := entry
    dsimp only
    split
    · rename_i hexpired
      rw [filter_of_expired hexpired]
      refine ⟨rfl,hkept.erase key,fun k => ?_⟩
      by_cases hk : k=key
      · subst hk
        rw [if_pos rfl,← htwice,← hswept,hget,filter_of_expired hexpired]
        exact get_erase_self hkept.apart k
      · rw [if_neg hk,← hswept]
        exact get_erase_of_ne _ hk
    · rename_i hfresh
      rw [filter_of_fresh (not_le.mp hfresh)]
      refine ⟨rfl,hkept,fun k => ?_⟩
      by_cases hk : k=key
      · subst hk
        rw [if_pos rfl,← htwice,← hswept,hget,filter_of_fresh (not_le.mp hfresh)]
      · rw [if_neg hk]
        exact hswept k

/-- Storing an offer enters its instant into the heap. -/
theorem WellKept.put (h : WellKept cache) (key : String) (entry : Rat × Offer) :
    WellKept ⟨KeyedMap.set cache.store key entry,
      cache.expiryHeap.orderedInsert (· ≤ ·) (toLex (entry.1,key))⟩ := by
  refine ⟨nodup_set h.apart key entry,h.sorted.orderedInsert _ _,fun k entry' hget => ?_⟩
  rw [get_set] at hget
  rw [List.mem_orderedInsert]
  split at hget
  · rename_i hk
    cases hget
    exact .inl (congrArg (fun j => toLex (entry.1,j)) hk.symm)
  · exact .inr (h.due k entry' hget)

/-! ## Agreement with the map -/

/-- The cache stores latest puts only, and all of those that expire after `now`. -/
structure Agrees (calls : List (Call Offer)) (now : Rat) (cache : InMemoryOfferCache Offer) : Prop where
  wellKept : WellKept cache
  stored : ∀ k entry,KeyedMap.get cache.store k=some entry → Holds calls k entry.1 entry.2
  kept : ∀ k entry,Holds calls k entry.1 entry.2 → now<entry.1 →
    KeyedMap.get cache.store k=some entry

theorem agrees_start (now : Rat) : Agrees ([] : List (Call Offer)) now {} := by
  refine ⟨⟨List.nodup_nil,List.Pairwise.nil,fun k entry hget => ?_⟩,fun k entry hget => ?_,?_⟩
  · cases hget
  · cases hget
  · rintro k entry ⟨before,after,ttlSeconds,now,hcalls,-⟩
    exact absurd hcalls.symm (List.append_ne_nil_of_right_ne_nil _ (List.cons_ne_nil _ _))

/-- Time passes. -/
theorem Agrees.later (h : Agrees calls now cache) {now' : Rat} (hle : now≤now') :
    Agrees calls now' cache :=
  ⟨h.wellKept,h.stored,fun k entry hholds hlt => h.kept k entry hholds (hle.trans_lt hlt)⟩

/-- A put makes its offer the latest of its key. -/
theorem Agrees.put (h : Agrees calls now cache) (key : String) (offer : Offer) {ttlSeconds : Int}
    (hpos : 0<ttlSeconds) (putAt : Rat) :
    Agrees (calls++[.put key offer ttlSeconds putAt]) now
      ⟨KeyedMap.set cache.store key (putAt+ttlSeconds,offer),
        cache.expiryHeap.orderedInsert (· ≤ ·) (toLex (putAt+ttlSeconds,key))⟩ := by
  refine ⟨h.wellKept.put key (putAt+ttlSeconds,offer),fun k entry hget => ?_,
    fun k entry hholds hlt => ?_⟩
  · rw [get_set] at hget
    rw [holds_concat]
    split at hget
    · rename_i hk
      cases hget
      exact .inl ⟨ttlSeconds,putAt,by rw [hk],hpos,rfl⟩
    · rename_i hk
      exact .inr ⟨fun hwrites => hk hwrites.1,h.stored k entry hget⟩
  · rw [get_set]
    rcases holds_concat.mp hholds with ⟨ttl,at',hcall,-,hexpires⟩|⟨hcall,hbefore⟩
    · cases hcall
      rw [if_pos rfl,← hexpires]
    · rw [if_neg fun hk => hcall ⟨hk,hpos⟩]
      exact h.kept k entry hbefore hlt

/-- A call that writes nothing may drop what has expired. -/
theorem Agrees.lose (h : Agrees calls now cache) {cache' : InMemoryOfferCache Offer} {now' : Rat}
    (hcall : ∀ k,¬call.Writes k) (hle : now≤now') (hkept : WellKept cache')
    (hold : ∀ k entry,KeyedMap.get cache'.store k=some entry →
      KeyedMap.get cache.store k=some entry)
    (hstay : ∀ k entry,KeyedMap.get cache.store k=some entry → now'<entry.1 →
      KeyedMap.get cache'.store k=some entry) : Agrees (calls++[call]) now' cache' := by
  refine ⟨hkept,fun k entry hget => ?_,fun k entry hholds hlt => ?_⟩
  · exact holds_concat.mpr (.inr ⟨hcall k,h.stored k entry (hold k entry hget)⟩)
  · rcases holds_concat.mp hholds with ⟨ttl,at',rfl,hpos,-⟩|⟨-,hbefore⟩
    · exact absurd ⟨rfl,hpos⟩ (hcall k)
    · exact hstay k entry (h.kept k entry hbefore (hle.trans_lt hlt)) hlt

/-- A delete takes the key out of the map and of the store. -/
theorem Agrees.delete (h : Agrees calls now cache) (key : String) :
    Agrees (calls++[.delete key]) now (cache.delete key) := by
  refine ⟨h.wellKept.erase key,fun k entry hget => ?_,fun k entry hholds hlt => ?_⟩
  · by_cases hk : key=k
    · subst hk
      cases (get_erase_self h.wellKept.apart key).symm.trans hget
    · exact holds_concat.mpr (.inr ⟨hk,h.stored k entry ((get_erase_of_ne _ (Ne.symm hk)).symm.trans hget)⟩)
  · rcases holds_concat.mp hholds with ⟨ttl,at',hcall,-⟩|⟨hk,hbefore⟩
    · cases hcall
    · exact (get_erase_of_ne _ (Ne.symm hk)).trans (h.kept k entry hbefore hlt)

/-- A call whose readings are no earlier than those before it keeps the agreement. -/
theorem Agrees.after (h : Agrees calls now cache) {now' : Rat}
    (hclock : (now::call.readings++[now']).Pairwise (· ≤ ·)) :
    Agrees (calls++[call]) now' (cache.after call) := by
  cases call with
  | put key offer ttlSeconds putAt =>
    have hle : now≤now' := List.rel_of_pairwise_cons hclock (by simp)
    by_cases hpos : 0<ttlSeconds
    · have hput := (h.put key offer hpos putAt).later hle
      simpa [InMemoryOfferCache.after,InMemoryOfferCache.put,not_le.mpr hpos,Except.toOption] using hput
    · have hraise : cache.after (.put key offer ttlSeconds putAt)=cache := by
        simp [InMemoryOfferCache.after,InMemoryOfferCache.put,not_lt.mp hpos,Except.toOption]
      rw [hraise]
      exact h.lose (fun k hwrites => hpos hwrites.2) hle h.wellKept (fun _ _ hget => hget)
        fun _ _ hget _ => hget
  | get key sweptAt checkedAt =>
    have hle : now≤now' := List.rel_of_pairwise_cons hclock (by simp)
    have hreadings := (List.pairwise_cons.mp hclock).2
    have hchecked : sweptAt≤checkedAt := List.rel_of_pairwise_cons hreadings (by simp)
    have hswept : sweptAt≤now' := List.rel_of_pairwise_cons hreadings (by simp)
    have hlast : checkedAt≤now' := List.rel_of_pairwise_cons (List.pairwise_cons.mp hreadings).2 (by simp)
    obtain ⟨-,hkept,hget⟩ := h.wellKept.get_spec key hchecked
    refine h.lose (fun k => id) hle hkept (fun k entry hafter => ?_) fun k entry hbefore hlt => ?_
    · rw [InMemoryOfferCache.after,hget] at hafter
      exact (Option.filter_eq_some_iff.mp hafter).1
    · rw [InMemoryOfferCache.after,hget,hbefore]
      refine filter_of_fresh ?_
      split
      · exact hlast.trans_lt hlt
      · exact hswept.trans_lt hlt
  | delete key =>
    have hle : now≤now' := List.rel_of_pairwise_cons hclock (by simp)
    exact (h.delete key).later hle

/-- The cache agrees with its calls once all their readings have passed. -/
theorem agrees_replay (calls : List (Call Offer)) (now : Rat)
    (hclock : (calls.flatMap Call.readings++[now]).Pairwise (· ≤ ·)) :
    Agrees calls now (replay calls) := by
  induction calls using List.reverseRecOn generalizing now with
  | nil => exact agrees_start now
  | append_singleton calls call ih =>
    rw [List.flatMap_append,List.flatMap_singleton,List.append_assoc] at hclock
    have hreplay : replay (calls++[call])=(replay calls).after call := List.foldl_append
    rw [hreplay]
    obtain ⟨hbefore,hlater,hacross⟩ := List.pairwise_append.mp hclock
    -- the agreement is taken at the first reading after the earlier calls
    obtain ⟨first,rest,hfirst⟩ : ∃ first rest,call.readings++[now]=first::rest :=
      List.exists_cons_of_ne_nil (List.append_ne_nil_of_right_ne_nil _ (List.cons_ne_nil _ _))
    rw [hfirst] at hlater hacross
    refine (ih first ?_).after ?_
    · refine List.pairwise_append.mpr ⟨hbefore,List.pairwise_singleton _ _,fun x hx y hy => ?_⟩
      exact hacross x hx y (List.mem_singleton.mp hy ▸ List.mem_cons_self)
    · rw [List.cons_append,hfirst]
      refine List.pairwise_cons.mpr ⟨fun y hy => ?_,hlater⟩
      rcases List.mem_cons.mp hy with rfl|hmem
      · exact le_refl _
      · exact List.rel_of_pairwise_cons hlater hmem

/-- A sweep after any calls leaves no entry that has expired. -/
theorem swept_store_fresh (calls : List (Call Offer)) {sweptAt : Rat}
    (hclock : (calls.flatMap Call.readings++[sweptAt]).Pairwise (· ≤ ·)) {k : String}
    {entry : Rat × Offer}
    (hget : KeyedMap.get ((replay calls).sweep sweptAt).store k=some entry) : sweptAt<entry.1 := by
  rw [(agrees_replay calls sweptAt hclock).wellKept.get_sweep] at hget
  exact fresh_iff.mp (Option.filter_eq_some_iff.mp hget).2

theorem swept_store_fresh_offer :
    KeyedMap.get ((replay [.put "offer" 1 5 0,.put "offer" 2 10 3]).sweep 7).store "offer"=some (13,2) ∧
      (7 : Rat)<13 := by
  have hget : KeyedMap.get ((replay [.put "offer" 1 5 0,.put "offer" 2 10 3]).sweep 7).store "offer"=
      some (13,2) := by decide +kernel
  exact ⟨hget,swept_store_fresh _ (by simp [Call.readings]; norm_num) hget⟩

/-- After any calls, with a clock that never goes back, `get` returns the offer of
the latest put of its key, if no delete followed and it has not expired, and
nothing else. -/
theorem get_latest_unexpired (calls : List (Call Offer)) (key : String) (sweptAt checkedAt : Rat)
    (hclock : (calls.flatMap Call.readings++[sweptAt,checkedAt]).Pairwise (· ≤ ·)) (offer : Offer) :
    ((replay calls).get key sweptAt checkedAt).2=some offer ↔
      ∃ expiresAt,Holds calls key expiresAt offer ∧ checkedAt<expiresAt := by
  have hswept : (calls.flatMap Call.readings++[sweptAt]).Pairwise (· ≤ ·) :=
    hclock.sublist ((List.Sublist.refl _).append (List.cons_sublist_cons.mpr (List.nil_sublist _)))
  have hle : sweptAt≤checkedAt :=
    List.rel_of_pairwise_cons (List.pairwise_append.mp hclock).2.1 List.mem_cons_self
  have hagrees := agrees_replay calls sweptAt hswept
  rw [(hagrees.wellKept.get_spec key hle).1]
  constructor
  · intro hanswer
    obtain ⟨entry,hentry,rfl⟩ := Option.map_eq_some_iff.mp hanswer
    obtain ⟨hget,hfresh⟩ := Option.filter_eq_some_iff.mp hentry
    exact ⟨entry.1,hagrees.stored key entry hget,fresh_iff.mp hfresh⟩
  · rintro ⟨expiresAt,hholds,hlt⟩
    rw [hagrees.kept key (expiresAt,offer) hholds (hle.trans_lt hlt),filter_of_fresh hlt]
    rfl

/-- The key is stored again before its first instant, which a later sweep works off. -/
theorem get_latest_unexpired_restored :
    ((replay [.put "offer" 1 5 0,.put "offer" 2 10 3,.get "other" 6 6]).get "offer" 7 8).2=
      some 2 :=
  (get_latest_unexpired _ "offer" 7 8 (by simp [Call.readings]; norm_num) 2).mpr
    ⟨13,⟨[.put "offer" 1 5 0],[.get "other" 6 6],10,3,rfl,by norm_num,by norm_num,
      by simp [Call.Writes]⟩,by norm_num⟩

end Voyagent.OfferCache
