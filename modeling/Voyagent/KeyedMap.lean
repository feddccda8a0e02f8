import Mathlib.Data.List.Induction
import Mathlib.Data.List.Nodup

/-!
# Insertion-ordered keyed tables

A table is a list of key/value pairs read by first match. Setting a present
key keeps its position, setting an absent one appends, which is the order a
dictionary with insertion order shows on iteration.
-/

namespace Voyagent.KeyedMap

/-- Key/value pairs in insertion order. -/
abbrev Table (κ α : Type) : Type := List (κ × α)

variable {κ α β : Type} [DecidableEq κ]

/-- Value stored under a key. -/
def get : Table κ α → κ → Option α
  | [],_ => none
  | (k',v)::d,k => if k'=k then some v else get d k

/-- Store a value, in place when the key is present. -/
def set : Table κ α → κ → α → Table κ α
  | [],k,v => [(k,v)]
  | (k',v')::d,k,v => if k'=k then (k,v)::d else (k',v')::set d k v

/-- Remove the entry that reading finds. -/
def erase : Table κ α → κ → Table κ α
  | [],_ => []
  | (k',v)::d,k => if k'=k then d else (k',v)::erase d k

/-- Build a table from pairs; a repeated key keeps its last value. -/
def ofPairs (pairs : List (κ × α)) : Table κ α := pairs.foldl (fun d e => set d e.1 e.2) []

/-- Rewrite every value from its key and its old value. -/
def mapValues (f : κ → α → β) (d : Table κ α) : Table κ β := d.map fun e => (e.1,f e.1 e.2)

@[simp] theorem get_nil (k : κ) : get ([] : Table κ α) k=none := rfl

@[simp] theorem get_cons (k k' : κ) (v : α) (d : Table κ α) :
    get ((k',v)::d) k=if k'=k then some v else get d k := rfl

/-- Reading after a store: the stored value at its key, the old one elsewhere. -/
@[simp] theorem get_set (d : Table κ α) (k k' : κ) (v : α) :
    get (set d k v) k'=if k=k' then some v else get d k' := by
  induction d with
  | nil => simp [set]
  | cons e d ih =>
    obtain ⟨j,w⟩ := e
    by_cases hj : j=k
    · subst hj
      by_cases hk : j=k' <;> simp [set,hk]
    · by_cases hk : k=k'
      · subst hk
        simp [set,hj,ih]
      · simp [set,hj,ih,hk]

variable {d : Table κ α} {k : κ}

/-- A key is absent when it is not listed. -/
theorem get_eq_none : get d k=none ↔ k∉d.map Prod.fst := by
  induction d with
  | nil => simp
  | cons e d ih =>
    obtain ⟨j,w⟩ := e
    by_cases hj : j=k
    · simp [hj]
    · simp [hj,ih,Ne.symm hj]

/-- Storing under an absent key appends. -/
theorem set_of_absent (h : get d k=none) (v : α) : set d k v=d++[(k,v)] := by
  induction d with
  | nil => rfl
  | cons e d ih =>
    obtain ⟨j,w⟩ := e
    rw [get_cons] at h
    split at h
    · cases h
    · rename_i hj
      rw [set,if_neg hj,ih h]
      rfl

variable {v : α}

/-- A value that is read is an entry. -/
theorem mem_of_get (h : get d k=some v) : (k,v)∈d := by
  induction d with
  | nil => cases h
  | cons e d ih =>
    obtain ⟨j,w⟩ := e
    rw [get_cons] at h
    split at h
    · rename_i hj
      cases h
      exact hj ▸ List.mem_cons_self
    · exact List.mem_cons_of_mem _ (ih h)

/-- Removing a key leaves what is read under the others. -/
theorem get_erase_of_ne (d : Table κ α) {k' : κ} (h : k'≠k) : get (erase d k) k'=get d k' := by
  induction d with
  | nil => rfl
  | cons e d ih =>
    obtain ⟨k₀,v⟩ := e
    unfold erase
    by_cases hk : k₀=k
    · subst hk
      rw [if_pos rfl,get_cons,if_neg (Ne.symm h)]
    · rw [if_neg hk,get_cons,get_cons,ih]

/-- Removing leaves only old entries, in their order. -/
theorem erase_sublist (d : Table κ α) (k : κ) : (erase d k).Sublist d := by
  induction d with
  | nil => exact .slnil
  | cons e d ih =>
    unfold erase
    split
    · exact List.sublist_cons_self _ _
    · exact ih.cons_cons _

/-- Removing lists no key twice. -/
theorem nodup_erase (h : (d.map Prod.fst).Nodup) (k : κ) :
    ((erase d k).map Prod.fst).Nodup := h.sublist ((erase_sublist d k).map _)

/-- Where no key is listed twice, a removed key is absent. -/
theorem get_erase_self (h : (d.map Prod.fst).Nodup) (k : κ) : get (erase d k) k=none := by
  induction d with
  | nil => rfl
  | cons e d ih =>
    obtain ⟨j,w⟩ := e
    obtain ⟨hhead,htail⟩ := List.nodup_cons.mp h
    unfold erase
    split
    · rename_i hj
      exact get_eq_none.mpr (hj ▸ hhead)
    · rename_i hj
      rw [get_cons,if_neg hj,ih htail]

/-- An entry that is found and what is left without it are the whole table. -/
theorem perm_erase (h : get d k=some v) : d.Perm ((k,v)::erase d k) := by
  induction d with
  | nil => cases h
  | cons e d ih =>
    obtain ⟨j,w⟩ := e
    rw [get_cons] at h
    unfold erase
    split at h
    · rename_i hj
      cases h
      rw [if_pos hj,hj]
    · rename_i hj
      rw [if_neg hj]
      exact ((ih h).cons _).trans (.swap _ _ _)

variable {e : κ × α}

/-- A store leaves no entries but its own and old ones. -/
theorem mem_set (h : e∈set d k v) : e=(k,v) ∨ e∈d := by
  induction d with
  | nil => exact .inl (List.mem_singleton.mp h)
  | cons e' d ih =>
    obtain ⟨j,w⟩ := e'
    unfold set at h
    split at h
    · exact (List.mem_cons.mp h).imp_right (List.mem_cons_of_mem _)
    · rcases List.mem_cons.mp h with rfl|hmem
      · exact .inr List.mem_cons_self
      · exact (ih hmem).imp_right (List.mem_cons_of_mem _)

/-- Where no key is listed twice, the entries are what reading finds. -/
theorem mem_iff_get (hd : (d.map Prod.fst).Nodup) : (k,v)∈d ↔ get d k=some v := by
  induction d with
  | nil => simp
  | cons e d ih =>
    obtain ⟨j,w⟩ := e
    obtain ⟨hhead,htail⟩ := List.nodup_cons.mp hd
    rw [List.mem_cons,ih htail,get_cons]
    split
    · rename_i hj
      subst hj
      rw [get_eq_none.mpr hhead]
      simp [eq_comm]
    · rename_i hj
      simp [Ne.symm hj]

/-- Rewriting values commutes with reading them. -/
@[simp] theorem get_mapValues (f : κ → α → β) (d : Table κ α) (k : κ) :
    get (mapValues f d) k=(get d k).map (f k) := by
  induction d with
  | nil => rfl
  | cons e d ih =>
    obtain ⟨j,w⟩ := e
    by_cases hj : j=k
    · subst hj
      simp [mapValues]
    · have ih' : get (d.map fun e => (e.1,f e.1 e.2)) k=(get d k).map (f k) := ih
      simp [mapValues,hj,ih']

omit [DecidableEq κ] in
/-- Rewriting values keeps the keys. -/
@[simp] theorem keys_mapValues (f : κ → α → β) (d : Table κ α) :
    (mapValues f d).map Prod.fst=d.map Prod.fst := by
  unfold mapValues
  rw [List.map_map]
  rfl

/-- Rewriting values after a store. -/
theorem mapValues_set (f : κ → α → β) (d : Table κ α) (k : κ) (v : α) :
    mapValues f (set d k v)=set (mapValues f d) k (f k v) := by
  unfold mapValues
  induction d with
  | nil => rfl
  | cons e d ih =>
    obtain ⟨j,w⟩ := e
    by_cases hj : j=k
    · simp [set,hj]
    · simp [set,hj,ih]

/-- Storing lists no key twice. -/
theorem nodup_set (h : (d.map Prod.fst).Nodup) (k : κ) (v : α) :
    ((set d k v).map Prod.fst).Nodup := by
  induction d with
  | nil => exact List.nodup_cons.mpr ⟨List.not_mem_nil,List.nodup_nil⟩
  | cons e d ih =>
    obtain ⟨j,w⟩ := e
    obtain ⟨hhead,htail⟩ := List.nodup_cons.mp h
    unfold set
    split
    · rename_i hj
      exact List.nodup_cons.mpr ⟨hj ▸ hhead,htail⟩
    · rename_i hj
      refine List.nodup_cons.mpr ⟨?_,ih htail⟩
      rw [← get_eq_none,get_set,if_neg (Ne.symm hj)]
      exact get_eq_none.mpr hhead

variable {p : α → Bool}

/-- Storing over a value one that fares the same in a test. -/
theorem filter_set {b : Bool} (hv : p v=b) (hold : ∀ w,get d k=some w → p w=b) :
    ((set d k v).filter fun e => p e.2)=
      cond b (set (d.filter fun e => p e.2) k v) (d.filter fun e => p e.2) := by
  induction d with
  | nil => cases b <;> simp [set,hv]
  | cons e d ih =>
    obtain ⟨j,w⟩ := e
    rw [get_cons] at hold
    by_cases hj : j=k
    · have hw : p w=b := hold w (if_pos hj)
      cases b <;> simp [set,hj,hv,hw]
    · rw [if_neg hj] at hold
      cases b <;> cases hw : p w <;> simpa [set,hj,hw] using ih hold

/-- Reading among the entries whose values pass a test. -/
theorem get_filter (h : (d.map Prod.fst).Nodup) (p : α → Bool) (k : κ) :
    get (d.filter fun e => p e.2) k=(get d k).filter p := by
  induction d with
  | nil => rfl
  | cons e d ih =>
    obtain ⟨j,w⟩ := e
    obtain ⟨hhead,htail⟩ := List.nodup_cons.mp h
    rw [List.filter_cons,get_cons]
    by_cases hj : j=k
    · subst hj
      have hrest : get (d.filter fun e => p e.2) j=none := by
        rw [ih htail,get_eq_none.mpr hhead]
        rfl
      rw [if_pos rfl,Option.filter_some]
      split
      · exact if_pos rfl
      · exact hrest
    · rw [if_neg hj,← ih htail]
      split
      · exact if_neg hj
      · rfl

/-- Tables that list no key twice have the same entries exactly when they read
the same. -/
theorem perm_iff_get {d' : Table κ α} (h : (d.map Prod.fst).Nodup) (h' : (d'.map Prod.fst).Nodup) :
    d.Perm d' ↔ ∀ k,get d k=get d' k := by
  constructor
  · intro hperm k
    refine Option.ext fun v => ?_
    rw [← mem_iff_get h,← mem_iff_get h',hperm.mem_iff]
  · intro hget
    refine (List.perm_ext_iff_of_nodup (List.Nodup.of_map _ h) (List.Nodup.of_map _ h')).mpr fun e => ?_
    obtain ⟨k,v⟩ := e
    rw [mem_iff_get h,mem_iff_get h',hget k]

/-- A table of one pair is that pair. -/
@[simp] theorem ofPairs_singleton (k : κ) (v : α) : ofPairs [(k,v)]=[(k,v)] := rfl

/-- Pairs without a repeated key are the table built from them. -/
theorem ofPairs_of_nodup {pairs : List (κ × α)} (h : (pairs.map Prod.fst).Nodup) :
    ofPairs pairs=pairs := by
  induction pairs using List.reverseRecOn with
  | nil => rfl
  | append_singleton pairs e ih =>
    rw [List.map_append] at h
    obtain ⟨hinit,-,hapart⟩ := List.nodup_append.mp h
    have habsent : get pairs e.1=none :=
      get_eq_none.mpr fun hmem => hapart _ hmem _ List.mem_cons_self rfl
    have hsnoc : ofPairs (pairs++[e])=set (ofPairs pairs) e.1 e.2 := List.foldl_append
    rw [hsnoc,ih hinit,set_of_absent habsent]

/-- A table built from pairs lists no key twice. -/
theorem nodup_ofPairs (pairs : List (κ × α)) : ((ofPairs pairs).map Prod.fst).Nodup := by
  induction pairs using List.reverseRecOn with
  | nil => exact List.nodup_nil
  | append_singleton pairs e ih =>
    have hsnoc : ofPairs (pairs++[e])=set (ofPairs pairs) e.1 e.2 := List.foldl_append
    rw [hsnoc]
    exact nodup_set ih e.1 e.2

/-- Its entries are among the pairs. -/
theorem mem_of_mem_ofPairs {pairs : List (κ × α)} (h : e∈ofPairs pairs) : e∈pairs := by
  induction pairs using List.reverseRecOn with
  | nil => exact h
  | append_singleton pairs p ih =>
    have hsnoc : ofPairs (pairs++[p])=set (ofPairs pairs) p.1 p.2 := List.foldl_append
    rw [hsnoc] at h
    rcases mem_set h with he|hm
    · exact List.mem_append_right _ (List.mem_singleton.mpr he)
    · exact List.mem_append_left _ (ih hm)

end Voyagent.KeyedMap
