import Mathlib.Data.List.Nodup
import Mathlib.Order.Lattice

/-!
# The first of a stable ranking

Elements are ranked from the greatest key down, equal ones in the order they
come in, and the first few are shown. What is shown depends on the order they
come in only where a tie reaches into the first few. Nothing here names a
particular program.
-/

namespace Voyagent.TopRanks

variable {α K : Type} [LinearOrder K] {key : α → K} {n : ℕ} {l l' : List α} {x y : α}

/-- The first ranks above the second or ties with it. -/
def ranksFirst (key : α → K) (x y : α) : Bool := decide (key y≤key x)

/-- From the greatest key down. -/
def ranked (key : α → K) (l : List α) : List α := l.mergeSort (ranksFirst key)

/-- The first `n` of the ranking. -/
def topRanked (n : ℕ) (key : α → K) (l : List α) : List α := (ranked key l).take n

/-- How many elements rank above a key. -/
def above (key : α → K) (l : List α) (k : K) : ℕ := l.countP fun y => decide (k<key y)

/-- Ties are between elements that at least `n` others rank above. -/
def TiesBelow (n : ℕ) (key : α → K) (l : List α) : Prop :=
  ∀ x∈l,∀ y∈l,x≠y → key x=key y → n≤above key l (key x)

theorem ranksFirst_trans (key : α → K) (x y z : α) (h : ranksFirst key x y=true)
    (h' : ranksFirst key y z=true) : ranksFirst key x z=true :=
  decide_eq_true ((of_decide_eq_true h').trans (of_decide_eq_true h))

theorem ranksFirst_total (key : α → K) (x y : α) : (ranksFirst key x y || ranksFirst key y x)=true := by
  unfold ranksFirst
  rw [Bool.or_eq_true,decide_eq_true_iff,decide_eq_true_iff]
  exact le_total _ _

theorem ranked_perm (key : α → K) (l : List α) : (ranked key l).Perm l := List.mergeSort_perm ..

theorem ranked_pairwise (key : α → K) (l : List α) :
    (ranked key l).Pairwise fun x y => key y≤key x := by
  have hsorted := List.pairwise_mergeSort (ranksFirst_trans key) (ranksFirst_total key) l
  exact hsorted.imp fun h => of_decide_eq_true h

theorem above_perm (h : l.Perm l') (k : K) : above key l k=above key l' k := h.countP_eq _

/-- Two rankings of the same elements agree above the ties. -/
theorem take_eq_of_perm (hl : l.Pairwise fun x y => key y≤key x)
    (hl' : l'.Pairwise fun x y => key y≤key x) (hperm : l.Perm l') (hties : TiesBelow n key l) :
    l.take n=l'.take n := by
  induction n generalizing l l' with
  | zero => rfl
  | succ n ih =>
    cases l with
    | nil =>
      rw [List.nil_perm.mp hperm]
    | cons x l =>
      cases l' with
      | nil => exact absurd hperm.symm (List.nil_perm.not.mpr (List.cons_ne_nil _ _))
      | cons y l' =>
        obtain ⟨hx,htail⟩ := List.pairwise_cons.mp hl
        obtain ⟨hy,htail'⟩ := List.pairwise_cons.mp hl'
        have hmem : x∈y::l' := hperm.mem_iff.mp List.mem_cons_self
        have hmem' : y∈x::l := hperm.mem_iff.mpr List.mem_cons_self
        have hxy : key x≤key y := by
          rcases List.mem_cons.mp hmem with rfl|h
          · exact le_refl _
          · exact hy x h
        have hyx : key y≤key x := by
          rcases List.mem_cons.mp hmem' with rfl|h
          · exact le_refl _
          · exact hx y h
        -- both heads have the greatest key, so nothing ranks above them
        have hnone : above key (x::l) (key x)=0 := by
          refine List.countP_eq_zero.mpr fun z hz => ?_
          rw [decide_eq_true_iff,not_lt]
          rcases List.mem_cons.mp hz with rfl|h
          · exact le_refl _
          · exact hx z h
        have hsame : x=y := by
          by_contra hne
          have hlow := hties x List.mem_cons_self y hmem' hne (le_antisymm hxy hyx)
          omega
        subst hsame
        have hrest : TiesBelow n key l := by
          intro u hu v hv hne hkey
          have hlow := hties u (List.mem_cons_of_mem _ hu) v (List.mem_cons_of_mem _ hv) hne hkey
          have hcount : above key (x::l) (key u)≤above key l (key u)+1 := by
            unfold above
            rw [List.countP_cons]
            split <;> omega
          omega
        rw [List.take_succ_cons,List.take_succ_cons,ih htail htail' hperm.cons_inv hrest]

/-- What is shown does not depend on the order where no tie reaches it. -/
theorem topRanked_perm (hperm : l.Perm l') (hties : TiesBelow n key l) :
    topRanked n key l=topRanked n key l' := by
  have hsame := (ranked_perm key l).trans (hperm.trans (ranked_perm key l').symm)
  refine take_eq_of_perm (ranked_pairwise key l) (ranked_pairwise key l') hsame ?_
  intro x hx y hy hne hkey
  rw [above_perm (ranked_perm key l)]
  exact hties x ((ranked_perm key l).mem_iff.mp hx) y ((ranked_perm key l).mem_iff.mp hy) hne hkey

/-- The first element comes right after those that rank above it. -/
theorem topRanked_cons_getElem? (h : above key l (key x) < n) :
    (topRanked n key (x::l))[above key l (key x)]?=some x := by
  obtain ⟨l₁,l₂,hsorted,hrest,hfirst⟩ :=
    List.mergeSort_cons (ranksFirst_trans key) (ranksFirst_total key) x l
  have hranked : ranked key (x::l)=l₁++x::l₂ := hsorted
  have hbelow : ∀ y∈l₂,key y≤key x := by
    have hpair := ranked_pairwise key (x::l)
    rw [hranked,List.pairwise_append] at hpair
    exact (List.pairwise_cons.mp hpair.2.1).1
  have hlength : above key l (key x)=l₁.length := by
    rw [← above_perm (ranked_perm key l)]
    unfold ranked above
    rw [hrest,List.countP_append]
    have hall : l₁.countP (fun y => decide (key x<key y))=l₁.length := by
      refine List.countP_eq_length.mpr fun y hy => ?_
      have hnot := hfirst y hy
      simpa [ranksFirst] using hnot
    have hnone : l₂.countP (fun y => decide (key x<key y))=0 := by
      refine List.countP_eq_zero.mpr fun y hy => ?_
      rw [decide_eq_true_iff,not_lt]
      exact hbelow y hy
    rw [hall,hnone,Nat.add_zero]
  rw [topRanked,List.getElem?_take_of_lt h,hranked,hlength,List.getElem?_append_right (Nat.le_refl _),
    Nat.sub_self]
  rfl

end Voyagent.TopRanks
