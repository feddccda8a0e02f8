import Mathlib.Algebra.BigOperators.Group.List.Basic
import Mathlib.Algebra.Ring.Nat
import Mathlib.Data.Nat.Basic

/-!
# Calendar dates

The dates of the Gregorian calendar from year 1 to year 9999, in their order.
A date carries the proof that its day exists.
-/

namespace Voyagent.CalendarDates

def isLeap (year : Nat) : Bool := decide (year%4=0 ∧ (year%100≠0 ∨ year%400=0))

def daysInMonth (year : Nat) : Nat → Nat
  | 2 => if isLeap year then 29 else 28
  | 4 | 6 | 9 | 11 => 30
  | _ => 31

/-- The day exists. -/
def IsDate (year month day : Nat) : Prop :=
  (1≤year ∧ year≤9999) ∧ (1 ≤ month ∧ month≤12) ∧ 1≤day ∧ day≤daysInMonth year month

instance (year month day : Nat) : Decidable (IsDate year month day) := by
  unfold IsDate
  infer_instance

structure CalendarDate where
  year : Nat
  month : Nat
  day : Nat
  valid : IsDate year month day
  deriving DecidableEq

/-- The date of three numbers, if there is one. -/
def dateOf (year month day : Nat) : Option CalendarDate :=
  if h : IsDate year month day then some ⟨year,month,day,h⟩ else none

/-- Dates are compared by year, month and day. -/
def CalendarDate.ordinal (d : CalendarDate) : Nat := (d.year*100+d.month)*100+d.day

/-- The day after, if it is within the calendar. -/
def CalendarDate.next (d : CalendarDate) : Option CalendarDate :=
  if d.day<daysInMonth d.year d.month then dateOf d.year d.month (d.day+1)
  else if d.month<12 then dateOf d.year (d.month+1) 1
  else dateOf (d.year+1) 1 1

/-- Days before the first of a month of its year. -/
def daysBeforeMonth (year month : Nat) : Nat :=
  ((List.range (month-1)).map fun m => daysInMonth year (m+1)).sum

/-- Days from the first date of the calendar, which is day one. -/
def CalendarDate.toordinal (d : CalendarDate) : Nat :=
  let past := d.year-1
  past*365+past/4-past/100+past/400+daysBeforeMonth d.year d.month+d.day

example : (⟨2026,3,1,by decide⟩ : CalendarDate).toordinal=739676 := by decide

theorem dateOf_eq_some {year month day : Nat} {d : CalendarDate} :
    dateOf year month day=some d ↔ d.year=year ∧ d.month=month ∧ d.day=day := by
  constructor
  · intro h
    unfold dateOf at h
    split at h
    · cases h
      exact ⟨rfl,rfl,rfl⟩
    · cases h
  · rintro ⟨rfl,rfl,rfl⟩
    exact dif_pos d.valid

theorem daysInMonth_bounds (year month : Nat) :
    28≤daysInMonth year month ∧ daysInMonth year month≤31 := by
  unfold daysInMonth
  split
  · split <;> decide
  · decide
  · decide
  · decide
  · decide
  · decide

theorem daysInMonth_le (year month : Nat) : daysInMonth year month≤31 :=
  (daysInMonth_bounds year month).2

/-- The day after is later. -/
theorem ordinal_lt_of_next {d e : CalendarDate} (h : d.next=some e) : d.ordinal<e.ordinal := by
  obtain ⟨-,⟨-,hmonth⟩,-,hday⟩ := d.valid
  have hmax := daysInMonth_le d.year d.month
  unfold CalendarDate.next at h
  unfold CalendarDate.ordinal
  split at h
  · obtain ⟨hy,hm,hd⟩ := dateOf_eq_some.mp h
    omega
  · split at h
    · obtain ⟨hy,hm,hd⟩ := dateOf_eq_some.mp h
      omega
    · obtain ⟨hy,hm,hd⟩ := dateOf_eq_some.mp h
      omega

theorem one_le_daysInMonth (year month : Nat) : 1≤daysInMonth year month :=
  (by decide : 1≤28).trans (daysInMonth_bounds year month).1

/-- No date lies between a day and the day after. -/
theorem ordinal_le_of_lt_next {c d e : CalendarDate} (h : d.next=some e) (hlt : c.ordinal<e.ordinal) :
    c.ordinal≤d.ordinal := by
  obtain ⟨-,⟨hmonth,hmonth'⟩,hfirst,hday⟩ := c.valid
  obtain ⟨-,⟨-,hlast⟩,-,-⟩ := d.valid
  have hmax := daysInMonth_le c.year c.month
  unfold CalendarDate.next at h
  unfold CalendarDate.ordinal at hlt ⊢
  split at h
  · obtain ⟨hy,hm,hd⟩ := dateOf_eq_some.mp h
    omega
  · rename_i hend
    have hsame : c.year≠d.year ∨ c.month≠d.month ∨ c.day≤d.day := by
      by_contra hnot
      obtain ⟨hyear,hmonths,hlater⟩ : c.year=d.year ∧ c.month=d.month ∧ ¬c.day≤d.day := by
        simpa only [not_or,not_not] using hnot
      rw [hyear,hmonths] at hday
      exact hlater (hday.trans (Nat.le_of_not_lt hend))
    split at h
    · obtain ⟨hy,hm,hd⟩ := dateOf_eq_some.mp h
      omega
    · obtain ⟨hy,hm,hd⟩ := dateOf_eq_some.mp h
      omega

theorem dateOf_isSome {year month day : Nat} : (dateOf year month day).isSome=true ↔ IsDate year month day := by
  unfold dateOf
  split
  · rename_i h
    exact iff_of_true rfl h
  · rename_i h
    exact iff_of_false (by decide) h

/-- Only the last date of the calendar has no day after. -/
theorem next_eq_none_iff {d : CalendarDate} : d.next=none ↔ d.ordinal=99991231 := by
  obtain ⟨⟨hyear,hyear'⟩,⟨hmonth,hmonth'⟩,hday,hday'⟩ := d.valid
  have hmax := daysInMonth_le d.year d.month
  rw [← Option.not_isSome_iff_eq_none]
  unfold CalendarDate.next CalendarDate.ordinal
  split
  · rename_i hmore
    rw [dateOf_isSome]
    refine iff_of_false (not_not.mpr ⟨⟨hyear,hyear'⟩,⟨hmonth,hmonth'⟩,by omega,hmore⟩) ?_
    omega
  · rename_i hend
    split
    · rename_i hmore
      rw [dateOf_isSome]
      have hfirst := one_le_daysInMonth d.year (d.month+1)
      refine iff_of_false (not_not.mpr ⟨⟨hyear,hyear'⟩,⟨by omega,by omega⟩,Nat.le_refl 1,hfirst⟩) ?_
      omega
    · rename_i hlast
      have hdecember : d.month=12 := by omega
      have hdays : daysInMonth d.year 12=31 := rfl
      rw [dateOf_isSome]
      rw [hdecember,hdays] at hend
      constructor
      · intro hno
        have hover : ¬d.year+1≤9999 := fun hle =>
          hno ⟨⟨by omega,hle⟩,⟨by decide,by decide⟩,Nat.le_refl 1,one_le_daysInMonth _ _⟩
        omega
      · intro hordinal hdate
        have hle := hdate.1.2
        omega

/-! ## Counting days -/

/-- Days before the first of a year. -/
def daysBeforeYear (year : Nat) : Nat :=
  let past := year-1
  past*365+past/4-past/100+past/400

/-- A month ends before any later one begins. -/
theorem daysBeforeMonth_lt (year : Nat) {m n : Nat} (hm : 1 ≤ m) (h : m<n) :
    daysBeforeMonth year m+daysInMonth year m ≤ daysBeforeMonth year n := by
  induction n,h using Nat.le_induction with
  | base =>
    obtain ⟨k,rfl⟩ := Nat.exists_eq_add_of_le' hm
    simp [daysBeforeMonth,List.range_succ]
  | succ n hn ih =>
    obtain ⟨k,rfl⟩ := Nat.exists_eq_add_of_le' (hm.trans (Nat.le_of_lt hn))
    refine ih.trans ?_
    simp [daysBeforeMonth,List.range_succ]

/-- The days of a whole year. -/
theorem daysBeforeMonth_thirteen (year : Nat) :
    daysBeforeMonth year 13=if isLeap year then 366 else 365 := by
  unfold daysBeforeMonth daysInMonth
  cases isLeap year <;> rfl

/-- A year ends where the next one begins. -/
theorem daysBeforeYear_succ {year : Nat} (hy : 1 ≤ year) :
    daysBeforeYear year+daysBeforeMonth year 13=daysBeforeYear (year+1) := by
  obtain ⟨past,rfl⟩ := Nat.exists_eq_add_of_le' hy
  have hquotient : ∀ d,(past+1)/d=past/d+if (past+1)%d=0 then 1 else 0 := fun d => by
    rw [Nat.succ_div]
    simp only [Nat.dvd_iff_mod_eq_zero]
  have hhundreds : past/100≤past/4 := Nat.div_le_div_left (by decide) (by decide)
  have hof : (past+1)%100=0 → (past+1)%4=0 := by omega
  have hofHundred : (past+1)%400=0 → (past+1)%100=0 := by omega
  rw [daysBeforeMonth_thirteen]
  unfold daysBeforeYear isLeap
  simp only [Nat.add_sub_cancel,hquotient]
  by_cases hfour : (past+1)%4=0
  · by_cases hhundred : (past+1)%100=0
    · by_cases hfourHundred : (past+1)%400=0
      · simp only [hfour,hhundred,hfourHundred,ne_eq,not_true_eq_false,or_true,and_self,decide_true,
          if_true]
        omega
      · simp only [hfour,hhundred,hfourHundred,ne_eq,not_true_eq_false,or_self,and_false,
          decide_false,Bool.false_eq_true,if_true,if_false]
        omega
    · simp only [hfour,hhundred,mt hofHundred hhundred,ne_eq,not_false_eq_true,true_or,and_self,
        decide_true,if_true,if_false]
      omega
  · simp only [hfour,mt hof hfour,mt hofHundred (mt hof hfour),false_and,decide_false,
      Bool.false_eq_true,if_false]
    omega

/-- And before any later one. -/
theorem daysBeforeYear_lt {year later : Nat} (hy : 1 ≤ year) (h : year<later) :
    daysBeforeYear year+daysBeforeMonth year 13 ≤ daysBeforeYear later := by
  induction later,h using Nat.le_induction with
  | base => exact (daysBeforeYear_succ hy).le
  | succ later hlater ih =>
    have hnext := daysBeforeYear_succ (hy.trans (Nat.le_of_lt hlater))
    omega

/-- Days are counted in the order of the dates. -/
theorem toordinal_le {c d : CalendarDate} (h : c.ordinal ≤ d.ordinal) : c.toordinal ≤ d.toordinal := by
  obtain ⟨⟨hyear,-⟩,⟨hmonth,hmonth'⟩,hday,hday'⟩ := c.valid
  obtain ⟨-,⟨-,hlast⟩,hfirst,hlast'⟩ := d.valid
  have hmax := daysInMonth_le c.year c.month
  have hmax' := daysInMonth_le d.year d.month
  change daysBeforeYear c.year+daysBeforeMonth c.year c.month+c.day ≤
    daysBeforeYear d.year+daysBeforeMonth d.year d.month+d.day
  have hmonthEnd := daysBeforeMonth_lt c.year hmonth (by omega : c.month<13)
  unfold CalendarDate.ordinal at h
  rcases Nat.lt_trichotomy c.year d.year with hlt|heq|hgt
  · have hyears := daysBeforeYear_lt hyear hlt
    omega
  · rcases Nat.lt_trichotomy c.month d.month with hlt|hsame|hgt
    · have hmonths := daysBeforeMonth_lt c.year hmonth hlt
      rw [← heq]
      omega
    · rw [heq,hsame] at h ⊢
      omega
    · omega
  · omega

end Voyagent.CalendarDates
