import Mathlib.Algebra.BigOperators.Group.List.Basic
import Mathlib.Algebra.GroupWithZero.Nat
import Mathlib.Data.List.Forall2

/-!
# Groups under a cap on their elements

The elements of a list of groups are filtered and cut off after a number of
them. What is left of a group depends on how many elements are kept before it:
no group is torn, and none is left out with room to spare, under conditions on
the groups alone.
-/

namespace Voyagent.CutGroups

variable {α : Type} {n : ℕ} {gs : List (List α)} {p : α → Bool}

/-- The groups as far as a number of elements goes, the last one cut. -/
def cut : ℕ → List (List α) → List (List α)
  | _,[] => []
  | n,g::gs => g.take n::cut (n-g.length) gs

/-- How many elements come before a group. -/
def before (gs : List (List α)) (k : ℕ) : ℕ := ((gs.take k).map List.length).sum

/-- How many groups have an element. -/
def shown (gs : List (List α)) : ℕ := gs.countP fun g => !g.isEmpty

@[simp] theorem before_cons_succ (g : List α) (gs : List (List α)) (k : ℕ) :
    before (g::gs) (k+1)=g.length+before gs k := by
  unfold before
  rw [List.take_succ_cons,List.map_cons,List.sum_cons]

@[simp] theorem length_cut (n : ℕ) (gs : List (List α)) : (cut n gs).length=gs.length := by
  induction gs generalizing n with
  | nil => rfl
  | cons g gs ih => rw [cut,List.length_cons,List.length_cons,ih]

/-- The groups together are cut off after the number of elements. -/
theorem flatten_cut (n : ℕ) (gs : List (List α)) : (cut n gs).flatten=gs.flatten.take n := by
  induction gs generalizing n with
  | nil => exact List.take_nil.symm
  | cons g gs ih => rw [cut,List.flatten_cons,List.flatten_cons,List.take_append,ih]

/-- What is left of a group. -/
theorem getElem?_cut (n : ℕ) (gs : List (List α)) (k : ℕ) :
    (cut n gs)[k]?=(gs[k]?).map (List.take (n-before gs k)) := by
  induction gs generalizing n k with
  | nil => rfl
  | cons g gs ih =>
    cases k with
    | zero => rfl
    | succ k =>
      rw [cut,List.getElem?_cons_succ,List.getElem?_cons_succ,ih,before_cons_succ,Nat.sub_sub]

theorem before_le (gs : List (List α)) (k : ℕ) : before gs k≤gs.flatten.length := by
  induction gs generalizing k with
  | nil => simp [before]
  | cons g gs ih =>
    cases k with
    | zero => exact Nat.zero_le _
    | succ k =>
      have hrest := ih k
      rw [before_cons_succ,List.flatten_cons,List.length_append]
      omega

/-- There are at least as many elements as groups that have one. -/
theorem shown_le (gs : List (List α)) : shown gs≤gs.flatten.length := by
  unfold shown
  induction gs with
  | nil => exact Nat.le_refl 0
  | cons g gs ih =>
    rw [List.countP_cons,List.flatten_cons,List.length_append]
    cases g with
    | nil => simpa using ih
    | cons x g =>
      simp only [List.isEmpty_cons,Bool.not_false,if_true,List.length_cons]
      omega

/-- As many groups have an element as there are elements where no group has two. -/
theorem shown_eq_iff : shown gs=gs.flatten.length ↔ ∀ g∈gs,g.length≤1 := by
  induction gs with
  | nil => simp [shown]
  | cons g gs ih =>
    have hrest := shown_le gs
    have hcons : shown (g::gs)=shown gs+if g.isEmpty then 0 else 1 := by
      unfold shown
      rw [List.countP_cons]
      cases g <;> rfl
    rw [List.forall_mem_cons,← ih,hcons,List.flatten_cons,List.length_append]
    cases g with
    | nil => simp
    | cons x g =>
      simp only [List.isEmpty_cons,List.length_cons,Bool.false_eq_true,if_false]
      omega

/-- A group is picked out of the elements by a key of its place. -/
theorem filter_flatten (key : α → ℕ) {base : ℕ}
    (h : ∀ (k : ℕ) (g : List α),gs[k]?=some g → ∀ x∈g,key x=base+k) (k : ℕ) :
    gs.flatten.filter (fun x => decide (key x=base+k))=(gs[k]?).getD [] := by
  induction gs generalizing base k with
  | nil => rfl
  | cons g gs ih =>
    have hrest : ∀ (k : ℕ) (g : List α),gs[k]?=some g → ∀ x∈g,key x=(base+1)+k := by
      intro k g' hg x hx
      have := h (k+1) g' hg x hx
      omega
    rw [List.flatten_cons,List.filter_append]
    cases k with
    | zero =>
      have hfirst : g.filter (fun x => decide (key x=base+0))=g :=
        List.filter_eq_self.mpr fun x hx => decide_eq_true (h 0 g rfl x hx)
      have hnone : gs.flatten.filter (fun x => decide (key x=base+0))=[] := by
        refine List.filter_eq_nil_iff.mpr fun x hx hkey => ?_
        obtain ⟨g',hg',hx⟩ := List.mem_flatten.mp hx
        obtain ⟨j,hj⟩ := List.mem_iff_getElem?.mp hg'
        have hplace := hrest j g' hj x hx
        have hsame := of_decide_eq_true hkey
        omega
      rw [hfirst,hnone,List.append_nil]
      rfl
    | succ k =>
      have hnone : g.filter (fun x => decide (key x=base+(k+1)))=[] := by
        refine List.filter_eq_nil_iff.mpr fun x hx hkey => ?_
        have hplace := h 0 g rfl x hx
        have hsame := of_decide_eq_true hkey
        omega
      have hlater := ih hrest k
      rw [Nat.add_right_comm base 1 k,Nat.add_assoc base k 1] at hlater
      rw [hnone,List.nil_append,hlater]
      rfl

/-! ## Filtered and cut -/

/-- What is left of the groups where some elements are kept, and no more than a number. -/
def left (p : α → Bool) (n : ℕ) (gs : List (List α)) : List (List α) := cut n (gs.map (List.filter p))

/-- How many elements are kept before a group. -/
def keptBefore (p : α → Bool) (gs : List (List α)) (k : ℕ) : ℕ := before (gs.map (List.filter p)) k

theorem flatten_left (p : α → Bool) (n : ℕ) (gs : List (List α)) :
    (left p n gs).flatten=(gs.flatten.filter p).take n := by
  unfold left
  rw [flatten_cut,List.filter_flatten]

theorem getElem?_left (p : α → Bool) (n : ℕ) (gs : List (List α)) (k : ℕ) :
    (left p n gs)[k]?=(gs[k]?).map fun g => (g.filter p).take (n-keptBefore p gs k) := by
  unfold left keptBefore
  rw [getElem?_cut,List.getElem?_map,Option.map_map]
  rfl

theorem left_of_getElem? {k : ℕ} {g : List α} (hg : gs[k]?=some g) :
    (left p n gs)[k]?=some ((g.filter p).take (n-keptBefore p gs k)) := by
  rw [getElem?_left,hg,Option.map_some]

/-- What is left of a group is the whole group or nothing. -/
theorem take_filter_iff (g : List α) (m : ℕ) :
    (((g.filter p).take m).length=g.length ∨ (g.filter p).take m=[]) ↔
      (0 < m → (∀ x∈g,p x=true) ∧ g.length ≤ m ∨ ∀ x∈g,p x=false) := by
  have hle := List.length_filter_le p g
  constructor
  · rintro (hall|hnone) hm
    · rw [List.length_take] at hall
      have hlength : (g.filter p).length=g.length := by omega
      exact .inl ⟨List.length_filter_eq_length_iff.mp hlength,by omega⟩
    · obtain hzero|hempty := List.take_eq_nil_iff.mp hnone
      · omega
      · exact .inr fun x hx => Bool.eq_false_iff.mpr (List.filter_eq_nil_iff.mp hempty x hx)
  · intro h
    obtain rfl|hm := Nat.eq_zero_or_pos m
    · exact .inr (List.take_zero)
    · obtain ⟨hall,hlength⟩|hnone := h hm
      · rw [List.filter_eq_self.mpr hall,List.take_of_length_le hlength]
        exact .inl rfl
      · refine .inr ?_
        rw [List.filter_eq_nil_iff.mpr fun x hx => Bool.eq_false_iff.mp (hnone x hx),List.take_nil]

/-- No group that is reached is on both sides of the filter or reaches beyond the cap. -/
def Untorn (p : α → Bool) (n : ℕ) (gs : List (List α)) : Prop :=
  ∀ (k : ℕ) (g : List α),gs[k]?=some g → keptBefore p gs k<n →
    (∀ x∈g,p x=true) ∧ keptBefore p gs k+g.length≤n ∨ ∀ x∈g,p x=false

/-- Groups that are kept come after the cap only where no group before it has two
elements that are kept. -/
def Filled (p : α → Bool) (n : ℕ) (gs : List (List α)) : Prop :=
  ∀ (k : ℕ) (g : List α),gs[k]?=some g → g≠[] → (∀ x∈g,p x=true) → n≤keptBefore p gs k →
    ∀ (j : ℕ) (h : List α),gs[j]?=some h → keptBefore p gs j<n → (h.filter p).length≤1

/-- Every group is left whole or not at all where none is torn. -/
theorem untorn_iff : Untorn p n gs ↔ ∀ (k : ℕ) (g c : List α),gs[k]?=some g → (left p n gs)[k]?=some c →
    c.length=g.length ∨ c=[] := by
  constructor
  · intro h k g c hg hc
    cases (left_of_getElem? hg).symm.trans hc
    refine (take_filter_iff g _).mpr fun hroom => ?_
    obtain ⟨hall,hlength⟩|hnone := h k g hg (by omega)
    · exact .inl ⟨hall,by omega⟩
    · exact .inr hnone
  · intro h k g hg hroom
    have hleft := h k g _ hg (left_of_getElem? hg)
    obtain ⟨hall,hlength⟩|hnone := (take_filter_iff g _).mp hleft (by omega)
    · exact .inl ⟨hall,by omega⟩
    · exact .inr hnone

/-- No more groups are left than the cap. -/
theorem shown_left_le (p : α → Bool) (n : ℕ) (gs : List (List α)) : shown (left p n gs)≤n := by
  have hshown := shown_le (left p n gs)
  rw [flatten_left,List.length_take] at hshown
  omega

/-- A group that is kept is left out only where as many groups are left as the cap allows. -/
theorem filled_iff (huntorn : Untorn p n gs) : Filled p n gs ↔
    (shown (left p n gs)<n → ∀ (k : ℕ) (g c : List α),gs[k]?=some g → (left p n gs)[k]?=some c → g≠[] →
      (∀ x∈g,p x=true) → c≠[]) := by
  -- Where a group comes after the cap, the elements left are as many as the cap.
  have hfull : ∀ k,n≤keptBefore p gs k → (left p n gs).flatten.length=n := by
    intro k hk
    have hle : keptBefore p gs k≤(gs.map (List.filter p)).flatten.length := before_le _ k
    rw [← List.filter_flatten] at hle
    rw [flatten_left,List.length_take]
    omega
  constructor
  · intro h hroom k g c hg hc hne hall hempty
    cases (left_of_getElem? hg).symm.trans hc
    rw [List.filter_eq_self.mpr hall] at hempty
    have hk : n≤keptBefore p gs k := by
      obtain hzero|hnil := List.take_eq_nil_iff.mp hempty
      · omega
      · exact absurd hnil hne
    have hsingle : ∀ c∈left p n gs,c.length≤1 := by
      intro c hc
      obtain ⟨j,hj⟩ := List.mem_iff_getElem?.mp hc
      rw [getElem?_left] at hj
      obtain ⟨g',hg',rfl⟩ := Option.map_eq_some_iff.mp hj
      by_cases hreached : keptBefore p gs j<n
      · have hkept := h k g hg hne hall hk j g' hg' hreached
        rw [List.length_take]
        omega
      · rw [Nat.sub_eq_zero_of_le (Nat.le_of_not_lt hreached),List.take_zero]
        exact Nat.zero_le 1
    have hshown := shown_eq_iff.mpr hsingle
    rw [hfull k hk] at hshown
    omega
  · intro h k g hg hne hall hk j g' hg' hreached
    have hnot : ¬shown (left p n gs)<n := by
      intro hroom
      refine h hroom k g _ hg (left_of_getElem? hg) hne hall ?_
      rw [Nat.sub_eq_zero_of_le hk,List.take_zero]
    have hshown : shown (left p n gs)=(left p n gs).flatten.length := by
      have hle := shown_left_le p n gs
      rw [hfull k hk]
      omega
    have hleft : ((g'.filter p).take (n-keptBefore p gs j)).length≤1 :=
      shown_eq_iff.mp hshown _ (List.mem_iff_getElem?.mpr ⟨j,left_of_getElem? hg'⟩)
    obtain ⟨hall',hlength⟩|hnone := huntorn j g' hg' hreached
    · rw [List.filter_eq_self.mpr hall'] at hleft ⊢
      rwa [List.take_of_length_le (by omega)] at hleft
    · rw [List.filter_eq_nil_iff.mpr fun x hx => Bool.eq_false_iff.mp (hnone x hx)]
      exact Nat.zero_le 1

/-! ## Groups with the same verdicts -/

variable {β : Type} {q : β → Bool} {f : α → β}

theorem keptBefore_map (gs : List (List α)) (k : ℕ) :
    keptBefore q (gs.map (List.map f)) k=keptBefore (q∘f) gs k := by
  unfold keptBefore before
  rw [List.map_map,← List.map_take,← List.map_take,List.map_map,List.map_map]
  refine congrArg List.sum (List.map_congr_left fun g _ => ?_)
  change ((g.map f).filter q).length=(g.filter (q∘f)).length
  rw [List.filter_map,List.length_map]

/-- Whether a group is torn depends on the verdicts on its elements. -/
theorem untorn_map : Untorn q n (gs.map (List.map f)) ↔ Untorn (q∘f) n gs := by
  constructor
  · intro h k g hg hreached
    have hgroup := h k (g.map f) (by rw [List.getElem?_map,hg]; rfl) (by rwa [keptBefore_map])
    rw [keptBefore_map,List.length_map,List.forall_mem_map,List.forall_mem_map] at hgroup
    exact hgroup
  · intro h k g' hg' hreached
    rw [List.getElem?_map] at hg'
    obtain ⟨g,hg,rfl⟩ := Option.map_eq_some_iff.mp hg'
    rw [keptBefore_map] at hreached ⊢
    rw [List.length_map,List.forall_mem_map,List.forall_mem_map]
    exact h k g hg hreached

theorem filled_map : Filled q n (gs.map (List.map f)) ↔ Filled (q∘f) n gs := by
  constructor
  · intro h k g hg hne hall hk j g' hg' hreached
    have hkept := h k (g.map f) (by rw [List.getElem?_map,hg]; rfl) (mt List.map_eq_nil_iff.mp hne)
      (List.forall_mem_map.mpr hall) (by rwa [keptBefore_map]) j (g'.map f)
      (by rw [List.getElem?_map,hg']; rfl) (by rwa [keptBefore_map])
    rwa [List.filter_map,List.length_map] at hkept
  · intro h k g hg hne hall hk j g' hg' hreached
    rw [List.getElem?_map] at hg hg'
    obtain ⟨a,ha,rfl⟩ := Option.map_eq_some_iff.mp hg
    obtain ⟨b,hb,rfl⟩ := Option.map_eq_some_iff.mp hg'
    rw [keptBefore_map] at hk hreached
    rw [List.filter_map,List.length_map]
    exact h k a ha (mt List.map_eq_nil_iff.mpr hne) (List.forall_mem_map.mp hall) hk j b hb hreached

theorem untorn_verdicts : Untorn p n gs ↔ Untorn id n (gs.map (List.map p)) :=
  (untorn_map (q:=id) (f:=p)).symm

theorem filled_verdicts : Filled p n gs ↔ Filled id n (gs.map (List.map p)) :=
  (filled_map (q:=id) (f:=p)).symm

end Voyagent.CutGroups
