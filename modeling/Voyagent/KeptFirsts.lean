import Mathlib.Data.List.Nodup

/-!
# The first element of each key

A list is gone through from the left, and an element whose key was seen before
is dropped. Keys tell apart what is to be told apart exactly when the elements
that are left stand for every class, each once.
-/

namespace Voyagent.KeptFirsts

variable {α β κ : Type} [DecidableEq κ] {key : α → κ} {cls : α → β} {seen : List κ} {l : List α} {x y : α}

/-- The elements whose key was not seen before. -/
def keepFirst (key : α → κ) : List κ → List α → List α
  | _,[] => []
  | seen,x::l => if key x∈seen then keepFirst key seen l else x::keepFirst key (key x::seen) l

theorem keepFirst_of_seen (h : key x∈seen) (l : List α) :
    keepFirst key seen (x::l)=keepFirst key seen l := if_pos h

theorem keepFirst_of_unseen (h : key x∉seen) (l : List α) :
    keepFirst key seen (x::l)=x::keepFirst key (key x::seen) l := if_neg h

theorem keepFirst_sublist (key : α → κ) (seen : List κ) (l : List α) :
    (keepFirst key seen l).Sublist l := by
  induction l generalizing seen with
  | nil => exact List.Sublist.refl []
  | cons x l ih =>
    by_cases h : key x∈seen
    · rw [keepFirst_of_seen h]
      exact (ih seen).cons x
    · rw [keepFirst_of_unseen h]
      exact (ih _).cons_cons x

theorem mem_of_keepFirst (h : x∈keepFirst key seen l) : x∈l :=
  (keepFirst_sublist key seen l).subset h

theorem unseen_of_keepFirst (h : x∈keepFirst key seen l) : key x∉seen := by
  induction l generalizing seen with
  | nil => cases h
  | cons y l ih =>
    by_cases hy : key y∈seen
    · rw [keepFirst_of_seen hy] at h
      exact ih h
    · rw [keepFirst_of_unseen hy] at h
      rcases List.mem_cons.mp h with rfl|h
      · exact hy
      · exact fun hseen => ih h (List.mem_cons_of_mem _ hseen)

/-- No key is left twice. -/
theorem keepFirst_keys_nodup (key : α → κ) (seen : List κ) (l : List α) :
    ((keepFirst key seen l).map key).Nodup := by
  induction l generalizing seen with
  | nil => exact List.nodup_nil
  | cons x l ih =>
    by_cases h : key x∈seen
    · rw [keepFirst_of_seen h]
      exact ih seen
    · rw [keepFirst_of_unseen h,List.map_cons]
      refine List.nodup_cons.mpr ⟨fun hmem => ?_,ih _⟩
      obtain ⟨y,hy,hkey⟩ := List.mem_map.mp hmem
      exact unseen_of_keepFirst hy (hkey ▸ List.mem_cons_self)

/-- What is left is told apart by its key. -/
theorem keepFirst_inj (hx : x∈keepFirst key seen l) (hy : y∈keepFirst key seen l)
    (h : key x=key y) : x=y :=
  List.inj_on_of_nodup_map (keepFirst_keys_nodup key seen l) hx hy h

/-- Every key is left. -/
theorem exists_keepFirst (hx : x∈l) (hseen : key x∉seen) :
    ∃ y,y∈keepFirst key seen l ∧ key y=key x := by
  induction l generalizing seen with
  | nil => cases hx
  | cons z l ih =>
    by_cases hz : key z∈seen
    · rw [keepFirst_of_seen hz]
      rcases List.mem_cons.mp hx with rfl|hx
      · exact absurd hz hseen
      · exact ih hx hseen
    · rw [keepFirst_of_unseen hz]
      by_cases hkey : key z=key x
      · exact ⟨z,List.mem_cons_self,hkey⟩
      · have hlater : x∈l := by
          rcases List.mem_cons.mp hx with rfl|hx
          · exact absurd rfl hkey
          · exact hx
        have hunseen : key x∉key z::seen := by
          intro hmem
          rcases List.mem_cons.mp hmem with heq|hmem
          · exact hkey heq.symm
          · exact hseen hmem
        obtain ⟨y,hy,hkey'⟩ := ih hlater hunseen
        exact ⟨y,List.mem_cons_of_mem z hy,hkey'⟩

/-- What is left stands for every class of the list, each once. -/
def Representative (key : α → κ) (cls : α → β) (l : List α) : Prop :=
  ((keepFirst key [] l).map cls).Nodup ∧ ∀ c,c∈(keepFirst key [] l).map cls ↔ c∈l.map cls

/-- Where an element that shares its class but not its key shares its key with its
own class only, keeping first elements represents the classes if and only if keys
and classes tell apart the same elements. -/
theorem representative_iff
    (hown : ∀ x∈l,∀ y∈l,cls x=cls y → key x≠key y → ∀ z∈l,key z=key x → cls z=cls x) :
    Representative key cls l ↔ ∀ x∈l,∀ y∈l,key x=key y ↔ cls x=cls y := by
  have hkept : ∀ x∈l,∃ z,z∈keepFirst key [] l ∧ key z=key x :=
    fun x hx => exists_keepFirst hx List.not_mem_nil
  constructor
  · rintro ⟨hnodup,hall⟩
    have hinj : ∀ {y z},y∈keepFirst key [] l → z∈keepFirst key [] l → cls y=cls z → y=z :=
      fun hy hz h => List.inj_on_of_nodup_map hnodup hy hz h
    have hsame : ∀ x∈l,∀ z∈keepFirst key [] l,key z=key x → cls z=cls x := by
      intro x hx z hz hkey
      obtain ⟨x',hx',hcls⟩ := List.mem_map.mp ((hall (cls x)).mpr (List.mem_map_of_mem hx))
      by_cases hkey' : key x'=key x
      · rw [keepFirst_inj hz hx' (hkey.trans hkey'.symm)]
        exact hcls
      · exact hown x hx x' (mem_of_keepFirst hx') hcls.symm (Ne.symm hkey') z (mem_of_keepFirst hz) hkey
    intro x hx y hy
    obtain ⟨zx,hzx,hkeyx⟩ := hkept x hx
    obtain ⟨zy,hzy,hkeyy⟩ := hkept y hy
    constructor
    · intro hkey
      rw [← hsame x hx zx hzx hkeyx]
      exact hsame y hy zx hzx (hkeyx.trans hkey)
    · intro hcls
      have hz : zx=zy := by
        refine hinj hzx hzy ?_
        rw [hsame x hx zx hzx hkeyx,hsame y hy zy hzy hkeyy]
        exact hcls
      rw [← hkeyx,← hkeyy,hz]
  · intro hiff
    constructor
    · refine List.Nodup.map_on (fun x hx y hy hcls => ?_) (keepFirst_keys_nodup key [] l).of_map
      exact keepFirst_inj hx hy ((hiff x (mem_of_keepFirst hx) y (mem_of_keepFirst hy)).mpr hcls)
    · intro c
      constructor
      · intro hc
        obtain ⟨x,hx,rfl⟩ := List.mem_map.mp hc
        exact List.mem_map_of_mem (mem_of_keepFirst hx)
      · intro hc
        obtain ⟨x,hx,rfl⟩ := List.mem_map.mp hc
        obtain ⟨z,hz,hkey⟩ := hkept x hx
        rw [← (hiff z (mem_of_keepFirst hz) x hx).mp hkey]
        exact List.mem_map_of_mem hz

/-- Names without repetition are each read off at one position. -/
theorem position_unique {f : α → Option β} {b : β} {m n : Nat} (h : (l.filterMap f).Nodup)
    (hx : l[m]?=some x) (hy : l[n]?=some y) (hfx : f x=some b) (hfy : f y=some b) : m=n := by
  have hmem : ∀ {z} {k : Nat} {l : List α},l[k]?=some z → f z=some b → b∈l.filterMap f :=
    fun hz hfz => List.mem_filterMap.mpr ⟨_,List.mem_of_getElem? hz,hfz⟩
  induction l generalizing m n with
  | nil => cases hx
  | cons z l ih =>
    have htail : (l.filterMap f).Nodup := h.sublist ((List.sublist_cons_self z l).filterMap f)
    have hhead : f z=some b → b∉l.filterMap f := by
      intro hz
      rw [List.filterMap_cons_some hz] at h
      exact (List.nodup_cons.mp h).1
    cases m with
    | zero =>
      cases n with
      | zero => rfl
      | succ n =>
        cases hx
        have hlater : l[n]?=some y := hy
        exact absurd (hmem hlater hfy) (hhead hfx)
    | succ m =>
      cases n with
      | zero =>
        cases hy
        have hlater : l[m]?=some x := hx
        exact absurd (hmem hlater hfx) (hhead hfy)
      | succ n => exact congrArg (·+1) (ih htail hx hy)

end Voyagent.KeptFirsts
