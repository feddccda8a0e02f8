import Mathlib.Algebra.BigOperators.Group.List.Basic

/-!
# Control totals of a list

The number of elements and the sum of a measure over them. Dropping an element
or duplicating one changes the number, and altering the measure of one changes
the sum, so an unchanged control total shows each of the three.
-/

namespace Voyagent.ControlTotals

variable {α M : Type}

/-- Number of elements and sum of their measures. -/
def totals [AddMonoid M] (f : α → M) (as : List α) : Nat × M := (as.length,(as.map f).sum)

/-- One of the elements that `p` marks was dropped, duplicated or altered in
its measure. -/
inductive Tampered (p : α → Bool) (f : α → M) : List α → List α → Prop
  | dropped {before after : List α} {x : α} (marked : p x=true) :
    Tampered p f (before++x::after) (before++after)
  | duplicated {before after : List α} {x : α} (marked : p x=true) (mem : x∈before++after) :
    Tampered p f (before++after) (before++x::after)
  | altered {before after : List α} {x y : α} (marked : p x=true) (still : p y=true)
    (change : f x≠f y) : Tampered p f (before++x::after) (before++y::after)

section Totals

variable [AddCancelMonoid M] {p : α → Bool} {f : α → M} {as bs : List α}

theorem sum_insert (f : α → M) (before after : List α) (x : α) :
    ((before++x::after).map f).sum=(before.map f).sum+(f x+(after.map f).sum) := by
  rw [List.map_append,List.map_cons,List.sum_append,List.sum_cons]

/-- Every tampering shows in the totals. -/
theorem totals_ne_of_tampered (h : Tampered p f as bs) : totals f as≠totals f bs := by
  cases h with
  | @dropped before after x =>
    intro htotals
    have hlength : (before++x::after).length=(before++after).length := congrArg Prod.fst htotals
    simp at hlength
  | @duplicated before after x =>
    intro htotals
    have hlength : (before++after).length=(before++x::after).length := congrArg Prod.fst htotals
    simp at hlength
  | altered _ _ change =>
    intro htotals
    have hsum := congrArg Prod.snd htotals
    dsimp only [totals] at hsum
    rw [sum_insert,sum_insert] at hsum
    exact change (add_right_cancel (add_left_cancel hsum))

end Totals

/-- The unmarked elements are untouched. -/
theorem filter_of_tampered {p : α → Bool} {f : α → M} {as bs : List α} (h : Tampered p f as bs) :
    (as.filter fun a => !p a)=bs.filter fun a => !p a := by
  cases h with
  | dropped marked => simp [marked]
  | duplicated marked _ => simp [marked]
  | altered marked still _ => simp [marked,still]

end Voyagent.ControlTotals
