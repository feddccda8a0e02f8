import Voyagent.TopRanks

/-!
# Pages cut from orders that may differ

Each page is cut from an arrangement of the same elements, greatest key
first, and equal keys may stand differently on every page. The pages put
together hold every element once exactly when no tie reaches over the end of
a page. Nothing here names a particular program.
-/

namespace Voyagent.CutPages

open TopRanks

variable {α K : Type} [LinearOrder K] {key : α → K} {l l' : List α} {n : ℕ}

/-- The greatest keys come first. -/
abbrev Descending (key : α → K) (l : List α) : Prop := l.Pairwise fun x y => key y≤key x

/-- How many elements rank with a key or above it. -/
def reaching (key : α → K) (l : List α) (t : K) : ℕ := l.countP fun y => decide (t≤key y)

/-- Page `k` of `n` elements. -/
def cutPage (n k : ℕ) (l : List α) : List α := (l.drop (k*n)).take n

/-- The first `m` pages, each cut from an arrangement of its own. -/
def joinedPages (n : ℕ) (orders : ℕ → List α) (m : ℕ) : List α :=
  (List.range m).flatMap fun k => cutPage n k (orders k)

/-- No group of equal keys starts before the end of a page and reaches over it. -/
def TiesUncut (n : ℕ) (key : α → K) (l : List α) : Prop :=
  ∀ x∈l,∀ k,above key l (key x) < k*n → reaching key l (key x)≤k*n

/-! ## The elements ahead of a mark -/

variable {p : α → Bool}

/-- What an arrangement keeps ahead of the rest is a filter of it. -/
theorem take_countP (h : l.Pairwise fun x y => p y=true → p x=true) :
    l.take (l.countP p)=l.filter p := by
  induction l with
  | nil => rfl
  | cons x l ih =>
    obtain ⟨hx,hl⟩ := List.pairwise_cons.mp h
    by_cases hp : p x=true
    · rw [List.countP_cons_of_pos hp,List.filter_cons_of_pos hp,List.take_succ_cons,ih hl]
    · have hnone : ∀ y∈l,¬p y=true := fun y hy hpy => hp (hx y hy hpy)
      rw [List.countP_cons_of_neg hp,List.filter_cons_of_neg hp,List.countP_eq_zero.mpr hnone,
        List.take_zero,List.filter_eq_nil_iff.mpr hnone]

theorem above_closed (h : Descending key l) (t : K) :
    l.Pairwise fun x y => decide (t<key y)=true → decide (t<key x)=true :=
  h.imp fun hxy hy => decide_eq_true ((of_decide_eq_true hy).trans_le hxy)

theorem reaching_closed (h : Descending key l) (t : K) :
    l.Pairwise fun x y => decide (t≤key y)=true → decide (t≤key x)=true :=
  h.imp fun hxy hy => decide_eq_true ((of_decide_eq_true hy).trans hxy)

theorem reaching_perm (h : l.Perm l') (t : K) : reaching key l t=reaching key l' t := h.countP_eq _

theorem reaching_le_length (key : α → K) (l : List α) (t : K) : reaching key l t≤l.length :=
  List.countP_le_length

variable {i : ℕ}

/-- Whether an element stands ahead of a mark is seen by its position. -/
theorem getElem_of_lt_countP (h : l.Pairwise fun x y => p y=true → p x=true) (hi : i < l.length) :
    p (l[i])=true ↔ i < l.countP p := by
  induction l generalizing i with
  | nil => exact absurd hi (Nat.not_lt_zero i)
  | cons x l ih =>
    obtain ⟨hx,hl⟩ := List.pairwise_cons.mp h
    by_cases hp : p x=true
    · rw [List.countP_cons_of_pos hp]
      cases i with
      | zero => exact iff_of_true hp (Nat.succ_pos _)
      | succ i =>
        rw [List.getElem_cons_succ,ih hl,Nat.succ_lt_succ_iff]
    · have hnone : ∀ y∈l,¬p y=true := fun y hy hpy => hp (hx y hy hpy)
      rw [List.countP_cons_of_neg hp,List.countP_eq_zero.mpr hnone]
      refine iff_of_false (fun hpi => ?_) (Nat.not_lt_zero i)
      rcases List.mem_cons.mp (List.getElem_mem hi) with heq|hmem
      · rw [heq] at hpi
        exact hp hpi
      · exact hnone _ hmem hpi

theorem lt_getElem_iff (h : Descending key l) (t : K) (hi : i < l.length) :
    t<key (l[i]) ↔ i < above key l t := by
  rw [← decide_eq_true_iff (p:=t<key (l[i]))]
  exact getElem_of_lt_countP (above_closed h t) hi

theorem le_getElem_iff (h : Descending key l) (t : K) (hi : i < l.length) :
    t≤key (l[i]) ↔ i < reaching key l t := by
  rw [← decide_eq_true_iff (p:=t≤key (l[i]))]
  exact getElem_of_lt_countP (reaching_closed h t) hi

/-- Between its two marks stands one key. -/
theorem getElem_key (h : Descending key l) (t : K) (hi : i < l.length) (hfrom : above key l t≤ i)
    (hto : i < reaching key l t) : key (l[i])=t := by
  have hnot : ¬t<key (l[i]) := (lt_getElem_iff h t hi).not.mpr (Nat.not_lt.mpr hfrom)
  exact le_antisymm (not_lt.mp hnot) ((le_getElem_iff h t hi).mpr hto)

/-- The two elements around a mark inside a tie. -/
theorem split_tie (hl : Descending key l) {t : K} (hfrom : above key l t≤ i)
    (hto : i+1 < reaching key l t) :
    ∃ pre a b post,l=pre++a::b::post ∧ pre.length=i ∧ key a=key b := by
  have hlen := reaching_le_length key l t
  have hi : i < l.length := by omega
  have hj : i+1 < l.length := by omega
  refine ⟨l.take i,l[i],l[i+1],l.drop (i+2),?_,List.length_take_of_le (Nat.le_of_lt hi),?_⟩
  · rw [List.getElem_cons_drop,List.getElem_cons_drop,List.take_append_drop]
  · rw [getElem_key hl t hi hfrom (Nat.lt_of_succ_lt hto),
      getElem_key hl t hj (Nat.le_succ_of_le hfrom) hto]

theorem mem_cutPage {x : α} {k : ℕ} (h : l[i]?=some x) (hfrom : k*n≤ i) (hto : i < k*n+n) :
    x∈cutPage n k l := by
  refine List.mem_of_getElem? (i:=i-k*n) ?_
  unfold cutPage
  rw [List.getElem?_take_of_lt (by omega),List.getElem?_drop,Nat.add_sub_cancel' hfrom]
  exact h

/-! ## Pages that fit together -/

/-- Two arrangements agree ahead of the end of a page no tie reaches over. -/
theorem take_perm_of_uncut (hl : Descending key l) (hl' : Descending key l') (hperm : l.Perm l')
    (hties : TiesUncut n key l) (k : ℕ) : (l.take (k*n)).Perm (l'.take (k*n)) := by
  by_cases hlen : k*n < l.length
  · -- the first element behind the end has everything above it ahead
    have hhead : above key l (key (l[k*n]))≤k*n :=
      Nat.not_lt.mp ((lt_getElem_iff hl _ hlen).not.mp (lt_irrefl _))
    have hreach : k*n < reaching key l (key (l[k*n])) := (le_getElem_iff hl _ hlen).mp (le_refl _)
    have hmark : k*n=above key l (key (l[k*n])) := by
      by_contra hne
      have huncut := hties _ (List.getElem_mem hlen) k (by omega)
      omega
    rw [hmark]
    nth_rewrite 2 [above_perm hperm]
    unfold above
    rw [take_countP (above_closed hl _),take_countP (above_closed hl' _)]
    exact hperm.filter _
  · rw [List.take_of_length_le (Nat.not_lt.mp hlen),
      List.take_of_length_le (hperm.length_eq ▸ Nat.not_lt.mp hlen)]
    exact hperm

theorem joinedPages_succ (n : ℕ) (orders : ℕ → List α) (m : ℕ) :
    joinedPages n orders (m+1)=joinedPages n orders m++cutPage n m (orders m) := by
  unfold joinedPages
  rw [List.range_succ,List.flatMap_append,List.flatMap_singleton]

variable {orders : ℕ → List α}

/-- The pages read so far hold what any arrangement has ahead of their end. -/
theorem joinedPages_perm_take (hl : Descending key l)
    (horders : ∀ k,(orders k).Perm l ∧ Descending key (orders k)) (hties : TiesUncut n key l)
    (m : ℕ) : (joinedPages n orders m).Perm (l.take (m*n)) := by
  induction m with
  | zero => rw [Nat.zero_mul,List.take_zero]; exact List.Perm.refl _
  | succ m ih =>
    obtain ⟨hperm,hsorted⟩ := horders m
    have hahead := take_perm_of_uncut hl hsorted hperm.symm hties m
    have hnext := take_perm_of_uncut hl hsorted hperm.symm hties (m+1)
    have hpage : (orders m).take (m*n)++cutPage n m (orders m)=(orders m).take ((m+1)*n) := by
      rw [Nat.succ_mul,List.take_add]
      rfl
    rw [joinedPages_succ]
    refine ((ih.trans hahead).append_right _).trans ?_
    rw [hpage]
    exact hnext.symm

/-- The pages hold every element once. -/
theorem joinedPages_perm (hl : Descending key l)
    (horders : ∀ k,(orders k).Perm l ∧ Descending key (orders k)) (hties : TiesUncut n key l)
    {m : ℕ} (hm : l.length≤ m*n) : (joinedPages n orders m).Perm l := by
  have hperm := joinedPages_perm_take hl horders hties m
  rwa [List.take_of_length_le hm] at hperm

theorem tiesUncut_perm (h : l.Perm l') (hties : TiesUncut n key l) : TiesUncut n key l' := by
  intro x hx k hlt
  rw [← above_perm h] at hlt
  rw [← reaching_perm h]
  exact hties x (h.mem_iff.mpr hx) k hlt

/-- Pages cut from one arrangement continue each other, ties or not. -/
theorem joinedPages_const (n : ℕ) (l : List α) (m : ℕ) :
    joinedPages n (fun _ => l) m=l.take (m*n) := by
  induction m with
  | zero => rw [Nat.zero_mul,List.take_zero]; rfl
  | succ m ih =>
    rw [joinedPages_succ,ih,Nat.succ_mul,List.take_add]
    rfl

/-- Pages that fit together still show the greatest keys first. -/
theorem joinedPages_descending (hl : Descending key l)
    (horders : ∀ k,(orders k).Perm l ∧ Descending key (orders k)) (hties : TiesUncut n key l)
    (m : ℕ) : Descending key (joinedPages n orders m) := by
  induction m with
  | zero => exact List.Pairwise.nil
  | succ m ih =>
    obtain ⟨hperm,hsorted⟩ := horders m
    have hahead := (joinedPages_perm_take hl horders hties m).trans
      (take_perm_of_uncut hl hsorted hperm.symm hties m)
    have hsplit := hsorted
    rw [← List.take_append_drop (m*n) (orders m)] at hsplit
    obtain ⟨-,hbehind,hcross⟩ := List.pairwise_append.mp hsplit
    rw [joinedPages_succ]
    refine List.pairwise_append.mpr ⟨ih,hbehind.sublist (List.take_sublist _ _),fun x hx y hy => ?_⟩
    exact hcross x (hahead.mem_iff.mp hx) y (List.mem_of_mem_take hy)

/-! ## A tie that is cut -/

/-- Two neighbours of one key change places. -/
theorem descending_swap {pre post : List α} {a b : α} (hkey : key a=key b)
    (h : Descending key (pre++a::b::post)) : Descending key (pre++b::a::post) := by
  obtain ⟨hpre,hpair,hcross⟩ := List.pairwise_append.mp h
  obtain ⟨ha,hrest⟩ := List.pairwise_cons.mp hpair
  obtain ⟨hb,hpost⟩ := List.pairwise_cons.mp hrest
  refine List.pairwise_append.mpr ⟨hpre,?_,fun x hx y hy => hcross x hx y ?_⟩
  · refine List.pairwise_cons.mpr ⟨fun y hy => ?_,List.pairwise_cons.mpr ⟨fun y hy => ?_,hpost⟩⟩
    · rcases List.mem_cons.mp hy with rfl|hy
      · exact hkey.le
      · exact hb y hy
    · exact ha y (List.mem_cons_of_mem _ hy)
  · exact ((List.Perm.swap a b post).mem_iff).mp hy

/-- A tie reaching over the end of a page leaves an element on both pages
under some arrangements. -/
theorem tiesUncut_of_joinedPages (hl : Descending key l)
    (h : ∀ orders : ℕ → List α,(∀ k,(orders k).Perm l ∧ Descending key (orders k)) →
      ∀ m,l.length≤ m*n → (joinedPages n orders m).Nodup) : TiesUncut n key l := by
  intro x hx k hlt
  by_contra hover
  obtain ⟨i,hi⟩ : ∃ i,k*n=i+1 := ⟨k*n-1,by omega⟩
  have hk : 0 < k := Nat.pos_of_ne_zero fun h0 => by rw [h0,Nat.zero_mul] at hi; omega
  have hn : 0 < n := Nat.pos_of_ne_zero fun h0 => by rw [h0,Nat.mul_zero] at hi; omega
  have hlen := reaching_le_length key l (key x)
  obtain ⟨pre,a,b,post,rfl,hpre,htie⟩ := split_tie hl (t:=key x) (i:=i) (by omega) (by omega)
  have hperm : (pre++b::a::post).Perm (pre++a::b::post) := (List.Perm.swap a b post).append_left pre
  have hjoined := h (fun j => if j < k then pre++a::b::post else pre++b::a::post) (fun j => by
    split
    · exact ⟨List.Perm.refl _,hl⟩
    · exact ⟨hperm,descending_swap htie hl⟩) _ (Nat.le_mul_of_pos_right _ hn)
  have hdisjoint := (List.nodup_flatMap.mp hjoined).2
  have hk' : k < (pre++a::b::post).length :=
    Nat.lt_of_le_of_lt (Nat.le_mul_of_pos_right k hn) (by omega)
  have hpages := List.pairwise_iff_getElem.mp hdisjoint (k-1) k
    (by rw [List.length_range]; omega) (by rw [List.length_range]; exact hk') (by omega)
  simp only [Function.onFun,List.getElem_range] at hpages
  -- the first of the two closes the page before and opens the one after
  rw [if_pos (Nat.sub_one_lt (Nat.ne_of_gt hk)),if_neg (Nat.lt_irrefl k)] at hpages
  have hmul : (k-1)*n+n=k*n := by rw [← Nat.succ_mul,Nat.succ_eq_add_one,Nat.sub_add_cancel hk]
  refine hpages (mem_cutPage (i:=i) (x:=a) ?_ (by omega) (by omega))
    (mem_cutPage (i:=i+1) ?_ (by omega) (by omega))
  · rw [List.getElem?_append_right (Nat.le_of_eq hpre),hpre,Nat.sub_self]
    rfl
  · rw [List.getElem?_append_right (by omega),hpre,Nat.add_sub_cancel_left]
    rfl

end Voyagent.CutPages
