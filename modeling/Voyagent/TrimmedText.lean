import Mathlib.Data.List.DropRight
import Mathlib.Data.List.TakeWhile

/-!
# Trimming text at both ends

Trimming drops the longest prefix and suffix of characters a predicate
accepts. A text is unchanged exactly when neither end is accepted, and
trimming the pieces of a concatenation is visible in the result as soon as
one piece changes.
-/

namespace Voyagent.TrimmedText

/-- Characters left after dropping accepted ones at both ends. -/
def trimList (p : Char → Bool) (l : List Char) : List Char := (l.dropWhile p).rdropWhile p

/-- Text left after dropping accepted characters at both ends. -/
def trimBy (p : Char → Bool) (s : String) : String := String.ofList (trimList p s.toList)

/-- Neither end of the text is an accepted character. -/
def Bare (p : Char → Bool) (s : String) : Prop :=
  ∀ c,s.toList.head?=some c ∨ s.toList.getLast?=some c → p c=false

/-- Plain concatenation of texts in order. -/
def concatText : List String → String
  | [] => ""
  | d::ds => d++concatText ds

theorem trimList_infix (p : Char → Bool) (l : List Char) : trimList p l<:+:l :=
  (List.rdropWhile_prefix p (l.dropWhile p)).isInfix.trans (List.dropWhile_suffix p).isInfix

variable {c : Char} {l : List Char} {p : Char → Bool}

/-- The first character kept was not accepted. -/
theorem trimList_head (h : (trimList p l).head?=some c) : p c=false := by
  obtain ⟨tail,ht⟩ := List.rdropWhile_prefix p (l.dropWhile p)
  have hd : (l.dropWhile p).head?=some c := by
    rw [← ht,List.head?_append]
    change ((trimList p l).head?.or _)=_
    rw [h]
    rfl
  cases hl : l.dropWhile p with
  | nil => rw [hl] at hd; cases hd
  | cons x xs =>
    have hx := List.head_dropWhile_not p (l:=l) (by rw [hl]; exact List.cons_ne_nil _ _)
    simp only [hl,List.head_cons] at hx
    rw [hl] at hd
    cases hd
    exact hx

/-- The last character kept was not accepted. -/
theorem trimList_getLast (h : (trimList p l).getLast?=some c) : p c=false := by
  have hne : trimList p l≠[] := by
    intro hn
    rw [hn] at h
    cases h
  have hlast := List.rdropWhile_last_not p (l.dropWhile p) hne
  rw [List.getLast?_eq_some_getLast hne] at h
  cases h
  exact Bool.eq_false_iff.mpr hlast

/-- Trimming changes nothing exactly on lists with unaccepted ends. -/
theorem trimList_eq_self_iff :
    trimList p l=l ↔ ∀ c,l.head?=some c ∨ l.getLast?=some c → p c=false := by
  constructor
  · intro h c hc
    rw [← h] at hc
    exact hc.elim trimList_head trimList_getLast
  · intro h
    have hd : l.dropWhile p=l := by
      cases l with
      | nil => rfl
      | cons x xs => rw [List.dropWhile_cons_of_neg (by simp [h x (Or.inl rfl)])]
    rw [trimList,hd]
    refine List.rdropWhile_eq_self_iff.mpr fun hne => ?_
    exact Bool.eq_false_iff.mp (h (l.getLast hne) (Or.inr (List.getLast?_eq_some_getLast hne)))

@[simp] theorem trimBy_toList (p : Char → Bool) (s : String) :
    (trimBy p s).toList=trimList p s.toList := String.toList_ofList

/-- A text survives trimming exactly when it is bare. -/
theorem trimBy_eq_self_iff {s : String} : trimBy p s=s ↔ Bare p s := by
  rw [Bare,← trimList_eq_self_iff,← trimBy_toList,String.toList_inj]

instance (p : Char → Bool) (s : String) : Decidable (Bare p s) :=
  decidable_of_iff (trimBy p s=s) trimBy_eq_self_iff

/-- Trimming twice is trimming once. -/
@[simp] theorem trimBy_idem (p : Char → Bool) (s : String) : trimBy p (trimBy p s)=trimBy p s := by
  refine trimBy_eq_self_iff.mpr fun c hc => ?_
  rw [trimBy_toList] at hc
  exact hc.elim trimList_head trimList_getLast

/-- A text with one unaccepted character does not trim to nothing. -/
theorem trimBy_ne_empty {s : String} (hc : c∈s.toList) (hp : p c=false) : trimBy p s≠"" := by
  intro h
  have hl : trimList p s.toList=[] := by rw [← trimBy_toList,h]; rfl
  have hall : ∀ x∈s.toList.dropWhile p,p x=true := List.rdropWhile_eq_nil_iff.mp hl
  have hd : s.toList.dropWhile p=[] := by
    cases hd : s.toList.dropWhile p with
    | nil => rfl
    | cons x xs =>
      have hx := List.head_dropWhile_not p (l:=s.toList) (by rw [hd]; exact List.cons_ne_nil _ _)
      simp only [hd,List.head_cons] at hx
      rw [hall x (hd ▸ List.mem_cons_self)] at hx
      cases hx
  rw [List.dropWhile_eq_nil_iff.mp hd c hc] at hp
  cases hp

/-- Trimming never lengthens a text, and shortens every text it changes. -/
theorem trimBy_length (p : Char → Bool) (s : String) :
    (trimBy p s).length ≤ s.length ∧ ((trimBy p s).length=s.length → trimBy p s=s) := by
  have hi := trimList_infix p s.toList
  rw [← String.length_toList,← String.length_toList,trimBy_toList]
  refine ⟨hi.length_le,fun h => ?_⟩
  rw [← String.toList_inj,trimBy_toList]
  exact hi.eq_of_length h

theorem concatText_trim_length (p : Char → Bool) (ds : List String) :
    (concatText (ds.map (trimBy p))).length≤(concatText ds).length := by
  induction ds with
  | nil => exact Nat.le_refl _
  | cons d ds ih =>
    have hd := (trimBy_length p d).1
    simp only [List.map_cons,concatText,String.length_append]
    omega

/-- Trimming pieces keeps their concatenation exactly when no piece changes:
each change shortens the result and nothing lengthens it again. -/
theorem concatText_trim_iff {ds : List String} :
    concatText (ds.map (trimBy p))=concatText ds ↔ ∀ d∈ds,trimBy p d=d := by
  induction ds with
  | nil => simp [concatText]
  | cons d ds ih =>
    have hd := trimBy_length p d
    have hds := concatText_trim_length p ds
    constructor
    · intro h
      have hlen := congrArg String.length h
      simp only [List.map_cons,concatText,String.length_append] at hlen
      have he : trimBy p d=d := hd.2 (by omega)
      have htail : concatText (ds.map (trimBy p))=concatText ds := by
        simp only [List.map_cons,concatText,he] at h
        have hl := congrArg String.toList h
        simp only [String.toList_append,List.append_cancel_left_eq] at hl
        exact String.toList_inj.mp hl
      intro e hm
      rcases List.mem_cons.mp hm with rfl|hm
      · exact he
      · exact ih.mp htail e hm
    · intro h
      simp only [List.map_cons,concatText]
      rw [h d List.mem_cons_self,ih.mpr fun e hm => h e (List.mem_cons_of_mem _ hm)]

end Voyagent.TrimmedText
