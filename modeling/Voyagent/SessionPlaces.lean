import Mathlib.Logic.Function.Basic

/-!
# Whose data a place may hold

A client keeps what it learned of a session in several places. An observer
counts the sign-ins accepted, knows for every place whose data may be there,
and which places have been written or cleared since the last sign-in was
accepted. Nothing here names a particular client.
-/

namespace Voyagent.SessionPlaces

variable {ι L δ : Type}

/-- A session was found at the start or comes from an explicit sign-in. -/
inductive Origin (ι : Type) where
  | found
  | signIn (i : ι)
  deriving DecidableEq

/-- Which explicit operation has completed last, with no sign-in accepted since. -/
inductive Status (ι : Type) where
  | unsettled
  | signedOut
  | signedIn (k : Origin ι)
  deriving DecidableEq

/-- What the observer knows. -/
structure Watch (ι L : Type) where
  accepted : Nat := 0
  latest : Origin ι := .found
  /-- The sign-in whose data may be in a place, unless a sign-out has cleared it since. -/
  owner : L → Option (Origin ι) := fun _ => some .found
  /-- The place was written or cleared since the last sign-in was accepted. -/
  settled : L → Bool := fun _ => true
  status : Status ι := .unsettled

/-- A sign-in is accepted. -/
def Watch.accept (w : Watch ι L) (i : ι) : Watch ι L :=
  {accepted := w.accepted+1
   latest := .signIn i
   owner := fun _ => some (.signIn i)
   settled := fun _ => false
   status := .unsettled}

section Places

variable [DecidableEq L]

/-- A place is written, or cleared by other than a sign-out. -/
def Watch.write (w : Watch ι L) (l : L) : Watch ι L :=
  {w with settled := Function.update w.settled l true}

/-- A sign-out clears a place. -/
def Watch.vacate (w : Watch ι L) (l : L) : Watch ι L :=
  {w with
    owner := Function.update w.owner l none
    settled := Function.update w.settled l true}

/-- A sign-out clears a place, or another operation does. -/
def Watch.clear (w : Watch ι L) (out : Bool) (l : L) : Watch ι L :=
  if out then w.vacate l else w.write l

end Places

/-- A sign-out completes that began after `n` sign-ins. -/
def Watch.signedOut (w : Watch ι L) (n : Nat) : Watch ι L :=
  if w.accepted=n then {w with status := .signedOut} else w

/-- The `n`th sign-in completes. -/
def Watch.signedIn (w : Watch ι L) (n : Nat) : Watch ι L :=
  if w.accepted=n then {w with status := .signedIn w.latest} else w

@[simp] theorem settled_signedOut (w : Watch ι L) (n : Nat) : (w.signedOut n).settled=w.settled := by
  unfold Watch.signedOut
  split <;> rfl

@[simp] theorem settled_signedIn (w : Watch ι L) (n : Nat) : (w.signedIn n).settled=w.settled := by
  unfold Watch.signedIn
  split <;> rfl

section Ownership

variable (belongs : δ → Origin ι → Prop)

/-- All data belongs to one owner; where there is none, there is no data. -/
def Owned (ds : List δ) (o : Option (Origin ι)) : Prop := ∀ d∈ds,∃ k,o=some k ∧ belongs d k

/-- What places hold belongs to their owners. -/
structure Consistent (held : L → List δ) (w : Watch ι L) : Prop where
  owned : ∀ l,w.settled l=true → Owned belongs (held l) (w.owner l)
  latest : ∀ l k,w.owner l=some k → k=w.latest
  signedOut : w.status=.signedOut → ∀ l,w.owner l=none ∧ w.settled l=true
  signedIn : ∀ k,w.status=.signedIn k → k=w.latest ∧ ∀ l,w.settled l=true

/-- After a sign-out nothing is held anywhere, and after a sign-in only what is its own. -/
def Final (held : L → List δ) (w : Watch ι L) : Prop :=
  match w.status with
  | .unsettled => True
  | .signedOut => ∀ l,held l=[]
  | .signedIn k => ∀ l,Owned belongs (held l) (some k)

variable {belongs} {held held' : L → List δ} {w w' : Watch ι L} {ds : List δ}
  {o : Option (Origin ι)} {l : L} {n : Nat}

theorem owned_nil : Owned belongs [] o := fun _ h => absurd h List.not_mem_nil

theorem owned_none : Owned belongs ds none ↔ ds=[] := by
  constructor
  · intro h
    refine List.eq_nil_iff_forall_not_mem.mpr fun d hd => ?_
    obtain ⟨k,hk,-⟩ := h d hd
    cases hk
  · rintro rfl
    exact owned_nil

theorem owned_append {es : List δ} :
    Owned belongs (ds++es) o ↔ Owned belongs ds o ∧ Owned belongs es o := by
  simp only [Owned,List.mem_append,or_imp,forall_and]

theorem owned_singleton {d : δ} {k : Origin ι} (h : belongs d k) : Owned belongs [d] (some k) := by
  intro e he
  rw [List.mem_singleton.mp he]
  exact ⟨k,rfl,h⟩

theorem Consistent.final (h : Consistent belongs held w) : Final belongs held w := by
  unfold Final
  split
  · trivial
  · rename_i hout
    intro l
    obtain ⟨hnone,hsettled⟩ := h.signedOut hout l
    have howned := h.owned l hsettled
    rw [hnone] at howned
    exact owned_none.mp howned
  · rename_i k hin
    intro l d hd
    obtain ⟨rfl,hsettled⟩ := h.signedIn k hin
    obtain ⟨k,hk,hbelongs⟩ := h.owned l (hsettled l) d hd
    exact ⟨w.latest,rfl,h.latest l k hk ▸ hbelongs⟩

/-- Whatever the places hold when a sign-in is accepted. -/
theorem Consistent.accept (held : L → List δ) (w : Watch ι L) (i : ι) :
    Consistent belongs held (w.accept i) where
  owned := nofun
  latest := fun _ _ h => (Option.some.inj h).symm
  signedOut := nofun
  signedIn := nofun

/-- What completes without a sign-in accepted meanwhile has cleared every place. -/
theorem Consistent.signOut (h : Consistent belongs held w)
    (hn : w.accepted=n → ∀ l,w.owner l=none ∧ w.settled l=true) :
    Consistent belongs held (w.signedOut n) := by
  unfold Watch.signedOut
  split
  · rename_i hcount
    exact ⟨h.owned,h.latest,fun _ => hn hcount,fun k hk => nomatch hk⟩
  · exact h

/-- What completes as the last sign-in accepted has written every place. -/
theorem Consistent.signIn (h : Consistent belongs held w)
    (hn : w.accepted=n → ∀ l,w.settled l=true) : Consistent belongs held (w.signedIn n) := by
  unfold Watch.signedIn
  split
  · rename_i hcount
    refine ⟨h.owned,h.latest,fun hs => (nomatch hs),fun k hk => ?_⟩
    cases hk
    exact ⟨rfl,hn hcount⟩
  · exact h

section Written

variable [DecidableEq L]

theorem settled_write (w : Watch ι L) (l m : L) :
    (w.write l).settled m=true ↔ m=l ∨ w.settled m=true := by
  change Function.update w.settled l true m=true ↔ _
  rw [Function.update_apply]
  split <;> simp_all

theorem settled_clear (w : Watch ι L) (out : Bool) (l m : L) :
    (w.clear out l).settled m=true ↔ m=l ∨ w.settled m=true := by
  cases out <;> exact settled_write w l m

theorem owner_vacate (w : Watch ι L) (l m : L) :
    (w.vacate l).owner m=if m=l then none else w.owner m := Function.update_apply ..

/-- Data of its owner is written to a place. -/
theorem Consistent.write (h : Consistent belongs held w) (hl : Owned belongs (held' l) (w.owner l))
    (hother : ∀ m,m≠l → held' m=held m) : Consistent belongs held' (w.write l) where
  owned := fun m hm => by
    by_cases hml : m=l
    · subst hml
      exact hl
    · rw [hother m hml]
      exact h.owned m (((settled_write w l m).mp hm).resolve_left hml)
  latest := h.latest
  signedOut := fun hs m =>
    ⟨(h.signedOut hs m).1,(settled_write w l m).mpr (.inr (h.signedOut hs m).2)⟩
  signedIn := fun k hs =>
    ⟨(h.signedIn k hs).1,fun m => (settled_write w l m).mpr (.inr ((h.signedIn k hs).2 m))⟩

/-- A sign-out clears a place. -/
theorem Consistent.vacate (h : Consistent belongs held w) (hl : held' l=[])
    (hother : ∀ m,m≠l → held' m=held m) : Consistent belongs held' (w.vacate l) := by
  have howned : Owned belongs (held' l) (w.owner l) := by
    rw [hl]
    exact owned_nil
  have hwritten := h.write howned hother
  refine ⟨fun m hm => ?_,fun m k hk => ?_,fun hs m => ?_,hwritten.signedIn⟩
  · rw [owner_vacate]
    split
    · rename_i hml
      rw [hml,hl]
      exact owned_nil
    · exact hwritten.owned m hm
  · rw [owner_vacate] at hk
    split at hk
    · cases hk
    · exact h.latest m k hk
  · refine ⟨?_,(hwritten.signedOut hs m).2⟩
    rw [owner_vacate]
    split
    · rfl
    · exact (h.signedOut hs m).1

/-- A place that is cleared holds nothing. -/
theorem Consistent.clear (h : Consistent belongs held w) (out : Bool) (hl : held' l=[])
    (hother : ∀ m,m≠l → held' m=held m) : Consistent belongs held' (w.clear out l) := by
  cases out with
  | true => exact h.vacate hl hother
  | false =>
    refine h.write ?_ hother
    rw [hl]
    exact owned_nil

end Written

end Ownership

/-! ## What may happen meanwhile -/

/-- Unless a sign-in is accepted, what is settled stays so and no place gets an owner. -/
structure Later (w w' : Watch ι L) : Prop where
  count : w.accepted ≤ w'.accepted
  latest : w'.accepted=w.accepted → w'.latest=w.latest
  settled : w'.accepted=w.accepted → ∀ l,w.settled l=true → w'.settled l=true
  vacant : w'.accepted=w.accepted → ∀ l,w.owner l=none → w'.owner l=none

/-- A fact that holds unless a sign-in was accepted after the `n`th. -/
def Since (n : Nat) (F : Watch ι L → Prop) (w : Watch ι L) : Prop :=
  n ≤ w.accepted ∧ (w.accepted=n → F w)

section Meanwhile

variable {w w' w'' : Watch ι L} {n : Nat} {F : Watch ι L → Prop} {l : L}

theorem Later.refl (w : Watch ι L) : Later w w :=
  ⟨Nat.le_refl _,fun _ => rfl,fun _ _ => id,fun _ _ => id⟩

theorem Later.trans (h : Later w w') (h' : Later w' w'') : Later w w'' := by
  have hsame : w''.accepted=w.accepted → w''.accepted=w'.accepted ∧ w'.accepted=w.accepted := by
    have := h.count
    have := h'.count
    omega
  refine ⟨Nat.le_trans h.count h'.count,fun hc => ?_,fun hc l hl => ?_,fun hc l hl => ?_⟩
  · rw [h'.latest (hsame hc).1,h.latest (hsame hc).2]
  · exact h'.settled (hsame hc).1 l (h.settled (hsame hc).2 l hl)
  · exact h'.vacant (hsame hc).1 l (h.vacant (hsame hc).2 l hl)

theorem later_accept (w : Watch ι L) (i : ι) : Later w (w.accept i) := by
  have hmore : (w.accept i).accepted≠w.accepted := by
    change w.accepted+1≠w.accepted
    omega
  exact ⟨Nat.le_succ _,fun h => absurd h hmore,fun h => absurd h hmore,fun h => absurd h hmore⟩

theorem later_signedOut (w : Watch ι L) (n : Nat) : Later w (w.signedOut n) := by
  unfold Watch.signedOut
  split
  · exact ⟨Nat.le_refl _,fun _ => rfl,fun _ _ => id,fun _ _ => id⟩
  · exact .refl w

theorem later_signedIn (w : Watch ι L) (n : Nat) : Later w (w.signedIn n) := by
  unfold Watch.signedIn
  split
  · exact ⟨Nat.le_refl _,fun _ => rfl,fun _ _ => id,fun _ _ => id⟩
  · exact .refl w

theorem later_write [DecidableEq L] (w : Watch ι L) (l : L) : Later w (w.write l) :=
  ⟨Nat.le_refl _,fun _ => rfl,fun _ m hm => (settled_write w l m).mpr (.inr hm),fun _ _ => id⟩

theorem later_vacate [DecidableEq L] (w : Watch ι L) (l : L) : Later w (w.vacate l) := by
  refine ⟨Nat.le_refl _,fun _ => rfl,fun _ m hm => (settled_write w l m).mpr (.inr hm),fun _ m hm => ?_⟩
  rw [owner_vacate]
  split
  · rfl
  · exact hm

theorem later_clear [DecidableEq L] (w : Watch ι L) (out : Bool) (l : L) : Later w (w.clear out l) := by
  cases out with
  | true => exact later_vacate w l
  | false => exact later_write w l

theorem Since.later (h : Since n F w) (hlater : Later w w')
    (hF : w'.accepted=w.accepted → F w → F w') : Since n F w' := by
  refine ⟨Nat.le_trans h.1 hlater.count,fun hc => ?_⟩
  have hsame : w.accepted=n := by
    have := h.1
    have := hlater.count
    omega
  exact hF (hc.trans hsame.symm) (h.2 hsame)

/-- Nothing has been in a place since a sign-out cleared it, unless a sign-in
was accepted after the `n`th. -/
def Vacant (n : Nat) (l : L) : Watch ι L → Prop :=
  Since n fun w => w.owner l=none ∧ w.settled l=true

/-- A place has been written or cleared since the `n`th sign-in was accepted. -/
def Settled (n : Nat) (l : L) : Watch ι L → Prop := Since n fun w => w.settled l=true

theorem Vacant.later (h : Vacant n l w) (hlater : Later w w') : Vacant n l w' :=
  Since.later h hlater fun hc hl => ⟨hlater.vacant hc l hl.1,hlater.settled hc l hl.2⟩

theorem Settled.later (h : Settled n l w) (hlater : Later w w') : Settled n l w' :=
  Since.later h hlater fun hc => hlater.settled hc l

theorem vacant_vacate [DecidableEq L] (hn : n ≤ w.accepted) (l : L) : Vacant n l (w.vacate l) := by
  refine ⟨hn,fun _ => ⟨?_,(settled_write ..).mpr (.inl rfl)⟩⟩
  rw [owner_vacate,if_pos rfl]

theorem settled_of_write [DecidableEq L] (hn : n ≤ w.accepted) (l : L) : Settled n l (w.write l) :=
  ⟨hn,fun _ => (settled_write ..).mpr (.inl rfl)⟩

end Meanwhile

end Voyagent.SessionPlaces
