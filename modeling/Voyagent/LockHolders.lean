import Mathlib.Logic.Function.Basic

/-!
# Sections under a lock

Participants move through stages, some of which lie inside a section that is
entered under a lock. While only the holder of the lock is inside, whoever is
inside is alone there, and what it changes disturbs no fact about the others.
-/

namespace Voyagent.LockHolders

variable {ι σ : Type} {inside : σ → Bool} {holder : Option ι} {stages : ι → σ}
variable {i j : ι} {st : σ}

/-- Whoever is inside holds the lock. -/
def Exclusive (inside : σ → Bool) (holder : Option ι) (stages : ι → σ) : Prop :=
  ∀ i,inside (stages i)=true → holder=some i

theorem Exclusive.others (h : Exclusive inside holder stages) (hi : inside (stages i)=true)
    (hne : j≠i) : inside (stages j)=false := by
  cases hj : inside (stages j) with
  | false => rfl
  | true =>
    have hsame : some j=some i := (h j hj).symm.trans (h i hi)
    exact absurd (Option.some.inj hsame) hne

/-- Nobody is inside while the lock is free. -/
theorem Exclusive.nobody (h : Exclusive inside none stages) (i : ι) : inside (stages i)=false := by
  cases hi : inside (stages i) with
  | false => rfl
  | true => exact nomatch h i hi

variable [DecidableEq ι]

/-- A free lock is taken. -/
theorem Exclusive.enter (h : Exclusive inside none stages) (i : ι) (st : σ) :
    Exclusive inside (some i) (Function.update stages i st) := by
  refine (Function.forall_update_iff stages fun j st => inside st=true → some i=some j).mpr
    ⟨fun _ => rfl,fun j _ hj => ?_⟩
  rw [h.nobody j] at hj
  contradiction

/-- The holder moves on and keeps the lock. -/
theorem Exclusive.stay (h : Exclusive inside holder stages) (hi : inside (stages i)=true) (st : σ) :
    Exclusive inside holder (Function.update stages i st) :=
  (Function.forall_update_iff stages fun j st => inside st=true → holder=some j).mpr
    ⟨fun _ => h i hi,fun j _ => h j⟩

/-- The holder leaves and frees the lock. -/
theorem Exclusive.leave (h : Exclusive inside holder stages) (hi : inside (stages i)=true)
    (hst : inside st=false) : Exclusive inside none (Function.update stages i st) := by
  refine (Function.forall_update_iff stages fun j st => inside st=true → none=some j).mpr
    ⟨fun hin => ?_,fun j hne hj => ?_⟩
  · rw [hst] at hin
    contradiction
  · rw [h.others hi hne] at hj
    contradiction

/-- A move that does not end inside needs no lock. -/
theorem Exclusive.outside (h : Exclusive inside holder stages) (hst : inside st=false) :
    Exclusive inside holder (Function.update stages i st) := by
  refine (Function.forall_update_iff stages fun j st => inside st=true → holder=some j).mpr
    ⟨fun hin => ?_,fun j _ => h j⟩
  rw [hst] at hin
  contradiction

/-- Facts that bind only who is inside survive what the holder does. -/
theorem Exclusive.facts (h : Exclusive inside holder stages) (hi : inside (stages i)=true)
    {F : ι → σ → Prop} (hout : ∀ j st,inside st=false → F j st) (hst : F i st) :
    ∀ j,F j (Function.update stages i st j) :=
  (Function.forall_update_iff stages F).mpr ⟨hst,fun j hne => hout j _ (h.others hi hne)⟩

end Voyagent.LockHolders
