import Mathlib.Data.List.Dedup
import Mathlib.Data.List.DropRight
import Voyagent.KeyedMap

/-!
# Caches that forget the least recently used entry

Entries are listed from the least to the most recently used. Reading an entry
moves it to the end; storing one appends it and forgets from the front whatever
exceeds the capacity. Whatever a cache holds was stored under its key, and its
keys are the last distinct ones that were used.
-/

namespace Voyagent.LruCache

open KeyedMap

variable {κ α : Type} [DecidableEq κ]

/-- Mark an entry as the most recently used. -/
def touch (d : Table κ α) (k : κ) : Table κ α :=
  match get d k with
  | none => d
  | some v => erase d k++[(k,v)]

/-- Store an entry and forget the oldest ones beyond the capacity. -/
def store (cap : ℕ) (d : Table κ α) (k : κ) (v : α) : Table κ α :=
  (set d k v).drop ((set d k v).length-cap)

variable {d : Table κ α} {k : κ} {v : α} {e : κ × α} {cap : ℕ}

/-- Marking reorders the entries. -/
theorem touch_perm (d : Table κ α) (k : κ) : (touch d k).Perm d := by
  unfold touch
  cases hget : get d k with
  | none => exact List.Perm.refl d
  | some v => exact (List.perm_append_singleton _ _).trans (perm_erase hget).symm

theorem nodup_touch (h : (d.map Prod.fst).Nodup) (k : κ) : ((touch d k).map Prod.fst).Nodup :=
  ((touch_perm d k).map Prod.fst).nodup_iff.mpr h

/-- Marking changes nothing that is read. -/
theorem get_touch (h : (d.map Prod.fst).Nodup) (k k' : κ) : get (touch d k) k'=get d k' :=
  (perm_iff_get (nodup_touch h k) h).mp (touch_perm d k) k'

theorem mem_store (h : e∈store cap d k v) : e=(k,v) ∨ e∈d := mem_set (List.mem_of_mem_drop h)

/-! ## Recency -/

/-- The last `n` distinct keys by their last use, the oldest first. -/
def lastUsed (n : ℕ) (uses : List κ) : List κ := uses.dedup.rtake n

variable {uses keys front : List κ} {n : ℕ}

/-- One more use moves a key to the end. -/
theorem dedup_concat (uses : List κ) (k : κ) : (uses++[k]).dedup=uses.dedup.erase k++[k] := by
  induction uses with
  | nil => simp
  | cons j uses ih =>
    rw [List.cons_append]
    by_cases hmem : j∈uses
    · rw [List.dedup_cons_of_mem (List.mem_append_left _ hmem),ih,List.dedup_cons_of_mem hmem]
    · rw [List.dedup_cons_of_notMem hmem]
      by_cases hj : j=k
      · subst hj
        have habsent : j∉uses.dedup := fun h => hmem (List.mem_dedup.mp h)
        rw [List.dedup_cons_of_mem (by simp),ih,List.erase_cons_head,List.erase_of_not_mem habsent]
      · rw [List.dedup_cons_of_notMem (by simp [hmem,hj]),ih,List.erase_cons_tail (by simpa using hj),
          List.cons_append]

omit [DecidableEq κ] in
theorem rtake_append_of_le (h : n≤keys.length) : (front++keys).rtake n=keys.rtake n := by
  unfold List.rtake
  have hlength : (front++keys).length-n=front.length+(keys.length-n) := by
    rw [List.length_append]
    omega
  rw [hlength,List.drop_append]
  simp

omit [DecidableEq κ] in
theorem rtake_of_length_le (h : keys.length≤n) : keys.rtake n=keys := by
  unfold List.rtake
  rw [Nat.sub_eq_zero_of_le h,List.drop_zero]

/-- The end of a list after a use is known from its end before. -/
theorem rtake_erase_concat (hkeys : keys.Nodup) (n : ℕ) (k : κ) :
    (keys.erase k++[k]).rtake n=((keys.rtake n).erase k++[k]).rtake n := by
  rcases Nat.lt_or_ge n keys.length with hlong|hshort
  · have hsplit : keys=keys.take (keys.length-n)++keys.rtake n :=
      (List.take_append_drop _ _).symm
    have hlength : (keys.rtake n).length=n := by
      rw [List.rtake,List.length_drop]
      omega
    by_cases hfront : k∈keys.take (keys.length-n)
    · have hend : k∉keys.rtake n := by
        rw [hsplit] at hkeys
        exact fun h => (List.nodup_append.mp hkeys).2.2 k hfront k h rfl
      have herase : keys.erase k=(keys.take (keys.length-n)).erase k++keys.rtake n := by
        conv_lhs => rw [hsplit]
        exact List.erase_append_left _ hfront
      rw [herase,List.erase_of_not_mem hend,List.append_assoc]
      exact rtake_append_of_le (by simp [hlength])
    · have herase : keys.erase k=keys.take (keys.length-n)++(keys.rtake n).erase k := by
        conv_lhs => rw [hsplit]
        exact List.erase_append_right _ hfront
      rw [herase,List.append_assoc]
      refine rtake_append_of_le ?_
      have herased : (keys.rtake n).length-1≤((keys.rtake n).erase k).length := List.le_length_erase
      rw [List.length_append,List.length_singleton]
      omega
  · rw [rtake_of_length_le hshort]

/-- What one more use makes of the last used keys. -/
theorem lastUsed_concat (n : ℕ) (uses : List κ) (k : κ) :
    lastUsed n (uses++[k])=((lastUsed n uses).erase k++[k]).rtake n := by
  unfold lastUsed
  rw [dedup_concat,rtake_erase_concat (List.nodup_dedup uses)]

theorem keys_erase (d : Table κ α) (k : κ) : (erase d k).map Prod.fst=(d.map Prod.fst).erase k := by
  induction d with
  | nil => rfl
  | cons e d ih =>
    obtain ⟨j,w⟩ := e
    unfold erase
    by_cases hj : j=k
    · simp [hj]
    · simp [hj,ih]

/-- Marking a cached entry uses its key. -/
theorem keys_touch (h : get d k=some v) :
    (touch d k).map Prod.fst=(d.map Prod.fst).erase k++[k] := by
  unfold touch
  rw [h]
  dsimp only
  rw [List.map_append,keys_erase]
  rfl

/-- Storing an entry that is not cached uses its key. -/
theorem keys_store (h : get d k=none) (cap : ℕ) (v : α) :
    (store cap d k v).map Prod.fst=((d.map Prod.fst).erase k++[k]).rtake cap := by
  unfold store
  rw [set_of_absent h,List.erase_of_not_mem (get_eq_none.mp h),List.map_drop,List.map_append]
  simp [List.rtake]

end Voyagent.LruCache
