import Mathlib.Algebra.BigOperators.Group.List.Basic
import Mathlib.Algebra.Ring.Int.Defs
import Mathlib.Algebra.Ring.Nat

/-!
# Sums over groups

Rows grouped by a key: the sums of the groups add up to the sum of the rows,
and leaving out groups without a sum leaves the total.
-/

namespace Voyagent.GroupedSums

variable {κ α M : Type} [DecidableEq κ] [AddCommMonoid M]

/-- The rows of one key. -/
def group (key : α → κ) (rows : List α) (k : κ) : List α := rows.filter fun r => decide (key r=k)

theorem group_cons (key : α → κ) (r : α) (rows : List α) (k : κ) :
    group key (r::rows) k=if key r=k then r::group key rows k else group key rows k := by
  unfold group
  rw [List.filter_cons]
  by_cases h : key r=k
  · rw [if_pos h,if_pos (decide_eq_true h)]
  · rw [if_neg h,if_neg (by simpa using h)]

theorem group_snoc (key : α → κ) (rows : List α) (r : α) (k : κ) :
    group key (rows++[r]) k=if key r=k then group key rows k++[r] else group key rows k := by
  have happend : group key (rows++[r]) k=group key rows k++group key [r] k := List.filter_append ..
  rw [happend,group_cons]
  split
  · rfl
  · exact List.append_nil _

variable {keys : List κ}

/-- A listed key collects a value once. -/
theorem sum_indicator (hkeys : keys.Nodup) {k : κ} (hk : k∈keys) (x : M) :
    (keys.map fun k' => if k=k' then x else 0).sum=x := by
  induction keys with
  | nil => cases hk
  | cons k' keys ih =>
    obtain ⟨hhead,htail⟩ := List.nodup_cons.mp hkeys
    rw [List.map_cons,List.sum_cons]
    by_cases heq : k=k'
    · subst heq
      have hrest : (keys.map fun k' => if k=k' then x else 0).sum=0 := by
        refine List.sum_eq_zero fun y hy => ?_
        obtain ⟨k'',hk'',rfl⟩ := List.mem_map.mp hy
        have hne : k≠k'' := fun h => hhead (h ▸ hk'')
        exact if_neg hne
      rw [if_pos rfl,hrest,add_zero]
    · have hmem : k∈keys := (List.mem_cons.mp hk).resolve_left heq
      rw [if_neg heq,zero_add,ih htail hmem]

variable {rows : List α}

/-- The sums of the groups add up to the sum of the rows. -/
theorem sum_groups (key : α → κ) (f : α → M) (hkeys : keys.Nodup) (hrows : ∀ r∈rows,key r∈keys) :
    (keys.map fun k => ((group key rows k).map f).sum).sum=(rows.map f).sum := by
  induction rows with
  | nil =>
    refine List.sum_eq_zero fun y hy => ?_
    obtain ⟨k,-,rfl⟩ := List.mem_map.mp hy
    rfl
  | cons r rows ih =>
    have hrest : ∀ r'∈rows,key r'∈keys := fun r' hr' => hrows r' (List.mem_cons_of_mem _ hr')
    have hone : ∀ k,((group key (r::rows) k).map f).sum=
        (if key r=k then f r else 0)+((group key rows k).map f).sum := by
      intro k
      rw [group_cons]
      by_cases h : key r=k
      · rw [if_pos h,if_pos h,List.map_cons,List.sum_cons]
      · rw [if_neg h,if_neg h,zero_add]
    have hsplit : (keys.map fun k => ((group key (r::rows) k).map f).sum)=
        keys.map fun k => (if key r=k then f r else 0)+((group key rows k).map f).sum :=
      List.map_congr_left fun k _ => hone k
    rw [hsplit,List.sum_map_add,sum_indicator hkeys (hrows r List.mem_cons_self),ih hrest,
      List.map_cons,List.sum_cons]

/-- The groups share out the rows. -/
theorem sum_lengths (key : α → κ) (hkeys : keys.Nodup) (hrows : ∀ r∈rows,key r∈keys) :
    (keys.map fun k => (group key rows k).length).sum=rows.length := by
  have hlength : ∀ rs : List α,(rs.map fun _ => 1).sum=rs.length := fun rs => by
    rw [List.map_const',List.sum_replicate_nat,Nat.mul_one]
  have hsum := sum_groups key (fun _ => 1) hkeys hrows
  simp only [hlength] at hsum
  exact hsum

variable {cs : List Int}

theorem sum_nonneg (h : ∀ c∈cs,0≤c) : 0≤cs.sum := by
  induction cs with
  | nil => exact Int.le_refl 0
  | cons c cs ih =>
    rw [List.sum_cons]
    exact Int.add_nonneg (h c List.mem_cons_self) (ih fun x hx => h x (List.mem_cons_of_mem _ hx))

variable {f : α → Int} {p : α → Bool}

theorem sum_filter_le (h : ∀ r∈rows,0≤f r) : ((rows.filter p).map f).sum≤(rows.map f).sum := by
  induction rows with
  | nil => exact Int.le_refl 0
  | cons r rows ih =>
    have hr : 0≤f r := h r List.mem_cons_self
    have hrest := ih fun r' hr' => h r' (List.mem_cons_of_mem _ hr')
    rw [List.filter_cons,List.map_cons,List.sum_cons]
    split
    · rw [List.map_cons,List.sum_cons]
      omega
    · omega

/-- A part of positive amounts reaches the whole sum only if it is all of them. -/
theorem all_of_sum_filter (hpos : ∀ r∈rows,0<f r) (h : ((rows.filter p).map f).sum=(rows.map f).sum) :
    ∀ r∈rows,p r=true := by
  induction rows with
  | nil => exact fun r hr => (List.not_mem_nil hr).elim
  | cons r rows ih =>
    have hr : 0<f r := hpos r List.mem_cons_self
    have hrest : ∀ r'∈rows,0<f r' := fun r' hr' => hpos r' (List.mem_cons_of_mem _ hr')
    have hle : ((rows.filter p).map f).sum≤(rows.map f).sum :=
      sum_filter_le fun r' hr' => Int.le_of_lt (hrest r' hr')
    rw [List.filter_cons,List.map_cons,List.sum_cons] at h
    cases hp : p r with
    | true =>
      rw [if_pos hp,List.map_cons,List.sum_cons] at h
      exact List.forall_mem_cons.mpr ⟨hp,ih hrest (by omega)⟩
    | false =>
      rw [if_neg (by simp [hp])] at h
      omega

/-- Bounded amounts sum to at most their number of times the bound. -/
theorem sum_le {b : Int} (h : ∀ c∈cs,c≤b) : cs.sum≤cs.length*b := by
  induction cs with
  | nil => simp
  | cons c cs ih =>
    have hc : c≤b := h c List.mem_cons_self
    have hrest := ih fun x hx => h x (List.mem_cons_of_mem _ hx)
    rw [List.sum_cons,List.length_cons,Int.natCast_add,Int.add_mul]
    omega

end Voyagent.GroupedSums
