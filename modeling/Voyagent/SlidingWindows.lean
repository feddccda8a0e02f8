import Mathlib.Algebra.Order.Group.Defs
import Mathlib.Data.List.Induction
import Mathlib.Data.List.TakeWhile
import Mathlib.Order.Basic

/-!
# Windows over a trimmed history

Instants are recorded in order. Those too old for any question still to come may
be dropped from the front; what is asked of the rest has the same answer as on
the whole history.
-/

namespace Voyagent.SlidingWindows

variable {T : Type} [LinearOrder T] {times kept : List T} {c c' t : T}

/-- The instants from the bound on, the bound included. -/
def since (c : T) (times : List T) : List T := times.filter fun t => decide (c≤t)

/-- Instants before the bound were dropped from the front. -/
def Trimmed (c : T) (kept times : List T) : Prop :=
  ∃ old,times=old++kept ∧ ∀ t∈old,t<c

theorem since_eq_nil (h : ∀ t∈times,t<c) : since c times=[] :=
  List.filter_eq_nil_iff.mpr fun t ht hle => absurd (h t ht) (not_lt.mpr (of_decide_eq_true hle))

theorem since_eq_self (h : ∀ t∈times,c≤t) : since c times=times :=
  List.filter_eq_self.mpr fun t ht => decide_eq_true (h t ht)

theorem since_append (c : T) (times times' : List T) :
    since c (times++times')=since c times++since c times' := List.filter_append ..

/-- In order, dropping from the front until the bound keeps what is not older. -/
theorem dropWhile_eq_since (h : times.Pairwise (· ≤ ·)) (c : T) :
    (times.dropWhile fun t => decide (t<c))=since c times := by
  induction times with
  | nil => rfl
  | cons t times ih =>
    obtain ⟨hhead,htail⟩ := List.pairwise_cons.mp h
    by_cases ht : t<c
    · rw [List.dropWhile_cons_of_pos (by simpa using ht),ih htail]
      exact (List.filter_cons_of_neg (by simpa using ht)).symm
    · have hc : c≤t := not_lt.mp ht
      rw [List.dropWhile_cons_of_neg (by simpa using hc)]
      refine (since_eq_self fun t' ht' => ?_).symm
      rcases List.mem_cons.mp ht' with rfl|hmem
      · exact hc
      · exact hc.trans (hhead t' hmem)

/-- In order, counting from the newest until the bound counts what is not older. -/
theorem takeWhile_reverse_eq_since (h : times.Pairwise (· ≤ ·)) (c : T) :
    (times.reverse.takeWhile fun t => decide (c≤t))=(since c times).reverse := by
  induction times using List.reverseRecOn with
  | nil => rfl
  | append_singleton times t ih =>
    obtain ⟨hinit,-,hlast⟩ := List.pairwise_append.mp h
    rw [List.reverse_append,since_append,List.reverse_append,List.reverse_singleton,
      List.singleton_append]
    by_cases ht : c≤t
    · have hnew : since c [t]=[t] := since_eq_self fun t' ht' => List.mem_singleton.mp ht' ▸ ht
      rw [List.takeWhile_cons_of_pos (by simpa using ht),ih hinit,hnew]
      rfl
    · have hold : ∀ t'∈times,t'<c := fun t' ht' =>
        (hlast t' ht' t List.mem_cons_self).trans_lt (not_le.mp ht)
      have hnew : since c [t]=[] :=
        since_eq_nil fun t' ht' => List.mem_singleton.mp ht' ▸ not_le.mp ht
      rw [List.takeWhile_cons_of_neg (by simpa using ht),since_eq_nil hold,hnew]
      rfl

theorem Trimmed.refl (c : T) (times : List T) : Trimmed c times times :=
  ⟨[],rfl,fun _ ht => absurd ht List.not_mem_nil⟩

/-- A later bound allows what an earlier one does. -/
theorem Trimmed.mono (h : Trimmed c kept times) (hle : c≤c') : Trimmed c' kept times := by
  obtain ⟨old,htimes,hold⟩ := h
  exact ⟨old,htimes,fun t ht => (hold t ht).trans_le hle⟩

/-- A new instant is added to both. -/
theorem Trimmed.concat (h : Trimmed c kept times) (t : T) : Trimmed c (kept++[t]) (times++[t]) := by
  obtain ⟨old,rfl,hold⟩ := h
  exact ⟨old,List.append_assoc ..,hold⟩

theorem Trimmed.sorted (h : Trimmed c kept times) (hsorted : times.Pairwise (· ≤ ·)) :
    kept.Pairwise (· ≤ ·) := by
  obtain ⟨old,rfl,-⟩ := h
  exact (List.pairwise_append.mp hsorted).2.1

/-- What is asked from the bound on has the answer of the whole history. -/
theorem Trimmed.since_eq (h : Trimmed c kept times) (hle : c≤c') :
    since c' kept=since c' times := by
  obtain ⟨old,rfl,hold⟩ := h
  rw [since_append,since_eq_nil fun t ht => (hold t ht).trans_le hle,List.nil_append]

/-- Trimming to the bound. -/
theorem Trimmed.dropWhile (h : Trimmed c kept times) :
    Trimmed c (kept.dropWhile fun t => decide (t<c)) times := by
  obtain ⟨old,rfl,hold⟩ := h
  refine ⟨old++kept.takeWhile fun t => decide (t<c),?_,fun t ht => ?_⟩
  · rw [List.append_assoc,List.takeWhile_append_dropWhile]
  · rcases List.mem_append.mp ht with hmem|hmem
    · exact hold t hmem
    · have hpassed := List.mem_takeWhile_imp hmem
      exact of_decide_eq_true hpassed

/-! ## Counting in intervals -/

section Intervals

variable {G : Type} [AddCommGroup G] [LinearOrder G] [IsOrderedAddMonoid G] {instants : List G}
  {n : Nat} {w t : G}

/-- No half-open interval of the length holds more than `n` of the instants. -/
def AtMost (n : Nat) (w : G) (instants : List G) : Prop :=
  ∀ a,instants.countP (fun t => decide (a≤t ∧ t<a+w)) ≤ n

/-- The instants less than the length before one of them. -/
def recentCount (w t : G) (instants : List G) : Nat := instants.countP fun s => decide (t-w<s)

omit [IsOrderedAddMonoid G] in
theorem atMost_nil : AtMost n w [] := fun _ => Nat.zero_le n

/-- An instant may be added if less than `n` are recent to it. -/
theorem AtMost.concat (h : AtMost n w instants) (hrecent : recentCount w t instants<n) :
    AtMost n w (instants++[t]) := by
  intro a
  rw [List.countP_append,List.countP_singleton]
  split
  · rename_i ht
    obtain ⟨-,hlt⟩ := of_decide_eq_true ht
    refine le_trans (Nat.add_le_add_right (List.countP_mono_left fun s _ hs => ?_) 1) hrecent
    have hs := of_decide_eq_true hs
    exact decide_eq_true ((sub_lt_iff_lt_add.mpr hlt).trans_le hs.1)
  · exact h a

/-- Less is recent to a later instant. -/
theorem recentCount_anti {s : G} (hle : s≤t) : recentCount w t instants≤recentCount w s instants :=
  List.countP_mono_left fun _ _ h =>
    decide_eq_true ((sub_le_sub_right hle w).trans_lt (of_decide_eq_true h))

omit [IsOrderedAddMonoid G] in
theorem recentCount_concat_le (s : G) : recentCount w t (instants++[s])≤recentCount w t instants+1 := by
  unfold recentCount
  rw [List.countP_append,List.countP_singleton]
  split <;> omega

omit [IsOrderedAddMonoid G] in
theorem recentCount_eq_zero (h : ∀ s∈instants,s≤t-w) : recentCount w t instants=0 :=
  List.countP_eq_zero.mpr fun s hs hlt => absurd (h s hs) (not_le.mpr (of_decide_eq_true hlt))

end Intervals

end Voyagent.SlidingWindows
