import Voyagent.RefreshTokens

/-!
# A password reset among refresh requests

A reset saves the new password and then revokes every token of the user by one
statement. The statement acts on the rows it finds when it runs; its effect is
seen from its commit on. Refresh requests go on all the while.
-/

namespace Voyagent.PasswordReset

open RuntimeValues TransitionRuns RefreshTokens

variable {τ υ : Type}

/-- How far `reset_password` has come. -/
inductive ResetPhase (τ : Type) where
  /-- Its token is consumed and the user found. -/
  | verified
  | passwordSaved
  /-- The revocation has run over the rows in `hit` and is not committed. -/
  | swept (hit : τ → Bool) (now : Time)
  | committed

/-- The statement of `revoke_all_for_user` has run. -/
def ResetPhase.Swept : ResetPhase τ → Prop
  | .swept _ _ => True
  | .committed => True
  | _ => False

structure ResetWorld (τ υ : Type) where
  tokens : World τ υ
  phase : ResetPhase τ := .verified

inductive ResetAct (τ : Type) where
  | refresh (a : Act τ)
  | savePassword
  | sweep (now : Time)
  | commit

/-- The rows `revoke_all_for_user` selects. -/
def unrevokedOf [DecidableEq υ] (rows : Rows τ υ) (u : υ) (x : τ) : Bool :=
  (rows x).any fun row => decide (row.userId=u) && row.revokedAt.isNone

/-- The selected rows are revoked. -/
def revokeHit (rows : Rows τ υ) (hit : τ → Bool) (now : Time) : Rows τ υ := fun x =>
  if hit x then (rows x).map fun row => {row with revokedAt := some now} else rows x

section Steps

variable [DecidableEq τ] [DecidableEq υ] (d : AuthSetup υ) (u : υ)

/-- One step of the reset of user `u`, or of a refresh request. -/
def resetStep (w : ResetWorld τ υ) : ResetAct τ → Option (ResetWorld τ υ)
  | .refresh a => (step d w.tokens a).map fun tokens => {w with tokens}
  | .savePassword =>
    match w.phase with
    | .verified => some {w with phase := .passwordSaved}
    | _ => none
  | .sweep now =>
    match w.phase with
    | .passwordSaved => some {w with phase := .swept (unrevokedOf w.tokens.rows u) now}
    | _ => none
  | .commit =>
    match w.phase with
    | .swept hit now => some
        {tokens := {w.tokens with rows := revokeHit w.tokens.rows hit now}
         phase := .committed}
    | _ => none

def ResetStep : ResetWorld τ υ → ResetAct τ → ResetWorld τ υ → Prop := ofPartial (resetStep d u)

end Steps

/-- No token of the user is redeemable at any time. -/
def NoneRedeemable (u : υ) (w : ResetWorld τ υ) : Prop :=
  ∀ x,Owner w.tokens.rows x u → ∀ now,findActive w.tokens.rows x now=none

/-- No request of the user stores a successor once the revocation has run. -/
def BeforeSweep (u : υ) (w : ResetWorld τ υ) : ResetAct τ → Prop
  | .refresh (.store r _ _) => ∀ x,w.tokens.stages r=.rotating x u → ¬w.phase.Swept
  | _ => True

/-! ## What the revocation leaves -/

variable {d : AuthSetup υ} {u v : υ} {w w' : ResetWorld τ υ} {t t' : World τ υ} {a : Act τ}
  {act : ResetAct τ} {as : List (ResetAct τ)} {rows rows₀ : Rows τ υ} {x y : τ} {hit : τ → Bool}
  {now : Time}

theorem owner_revokeHit (hit : τ → Bool) (now : Time) :
    Owner (revokeHit rows hit now) x u ↔ Owner rows x u := by
  unfold Owner revokeHit
  split
  · cases rows x <;> simp
  · rfl

theorem unrevoked_revokeHit (hit : τ → Bool) (now : Time) :
    Unrevoked (revokeHit rows hit now) x ↔ Unrevoked rows x ∧ hit x=false := by
  unfold Unrevoked revokeHit
  cases hit x <;> simp

theorem unrevokedOf_iff [DecidableEq υ] :
    unrevokedOf rows u x=true ↔ Owner rows x u ∧ Unrevoked rows x := by
  unfold unrevokedOf Owner Unrevoked
  cases rows x <;> simp

/-- A token can be redeemed at some time exactly when it is not revoked. -/
theorem findActive_eq_none_iff :
    (∀ now,findActive rows x now=none) ↔ ¬Unrevoked rows x := by
  constructor
  · rintro h ⟨row,hrow,hnone⟩
    have hlast := h (row.expiresAt-1)
    have hlt : row.expiresAt-1<row.expiresAt := Int.sub_one_lt_of_le (Int.le_refl _)
    have hactive : row.active (row.expiresAt-1)=true := by
      rw [TokenRow.active,hnone,decide_eq_true hlt]
      rfl
    rw [findActive,hrow,Option.filter_some,if_pos hactive] at hlast
    cases hlast
  · intro h now
    cases hrow : findActive rows x now with
    | none => rfl
    | some row => exact absurd (findActive_facts hrow).2 h

/-- What is held back before the commit and gone after it. -/
def Contained (u : υ) (w : ResetWorld τ υ) : Prop :=
  match w.phase with
  | .swept hit _ => ∀ x,Owner w.tokens.rows x u → Unrevoked w.tokens.rows x → hit x=true
  | .committed => ∀ x,Owner w.tokens.rows x u → ¬Unrevoked w.tokens.rows x
  | _ => True

/-- A token of the user is out of the revocation's reach, or about to be. -/
def Escaped (u : υ) (w : ResetWorld τ υ) : Prop :=
  w.phase.Swept ∧
  ((∃ y,Owner w.tokens.rows y u ∧ Unrevoked w.tokens.rows y ∧
      ∀ hit now,w.phase=.swept hit now → hit y=false) ∨
    ∃ r x,w.tokens.stages r=.rotating x u)

/-- The revocation has run over rows that exist. -/
def HitStored (w : ResetWorld τ υ) : Prop :=
  ∀ hit now,w.phase=.swept hit now → ∀ x,hit x=true → ∃ row,w.tokens.rows x=some row

section Run

variable [DecidableEq τ]

/-- A row that was not there before is the successor some request stores. -/
theorem owner_of_step (hs : Step d t a t') (h : Owner t'.rows x u) :
    Owner t.rows x u ∨ ∃ r now z,a=.store r x now ∧ t.stages r=.rotating z u := by
  have hrevoked : ∀ {z now},Owner (revokeToken t.rows z now) x u → Owner t.rows x u := by
    rintro z now ⟨row,hrow,rfl⟩
    by_cases hz : x=z
    · subst hz
      rw [revokeToken_self] at hrow
      obtain ⟨row',hrow',rfl⟩ := Option.map_eq_some_iff.mp hrow
      exact ⟨row',hrow',rfl⟩
    · rw [revokeToken_other _ _ hz] at hrow
      exact ⟨row,hrow,rfl⟩
  have hdoes := step_cases hs
  cases a with
  | lookup r z now =>
    obtain ⟨_,⟨row,_,rfl⟩|rfl⟩ := hdoes
    · exact .inl h
    · exact .inl h
  | loadOwner r =>
    obtain ⟨z,v,_,⟨_,rfl⟩|⟨_,rfl⟩⟩ := hdoes
    · exact .inl h
    · exact .inl h
  | revoke r now =>
    obtain ⟨z,v,_,rfl⟩|⟨z,_,rfl⟩ := hdoes
    · exact .inl (hrevoked h)
    · exact .inl (hrevoked h)
  | store r y now =>
    obtain ⟨z,v,hst,_,rfl⟩ := hdoes
    obtain ⟨row,hrow,rfl⟩ := h
    by_cases hx : x=y
    · subst hx
      have hself : (t.stored d r z x v now).rows x=some (mintRefreshToken d.ttl v now) :=
        Function.update_self ..
      rw [hself] at hrow
      cases hrow
      exact .inr ⟨r,now,z,rfl,hst⟩
    · have hother : (t.stored d r z y v now).rows x=t.rows x := Function.update_of_ne hx ..
      rw [hother] at hrow
      exact .inl ⟨row,hrow,rfl⟩

/-- A request about to store its successor stays so until it does. -/
theorem rotating_of_step {r : Nat} (hs : Step d t a t') (h : t.stages r=.rotating x u) :
    t'.stages r=.rotating x u ∨ ∃ y now,a=.store r y now := by
  have hset : ∀ {i st},(t.stages i≠.rotating x u) → (t.set i st).stages r=.rotating x u := by
    intro i st hi
    have hri : r≠i := by
      rintro rfl
      exact hi h
    exact (set_stages_other t st hri).trans h
  have hdoes := step_cases hs
  cases a with
  | lookup i z now =>
    obtain ⟨hst,⟨row,_,rfl⟩|rfl⟩ := hdoes
    · exact .inl (hset (by rw [hst]; exact nofun))
    · exact .inl (hset (by rw [hst]; exact nofun))
  | loadOwner i =>
    obtain ⟨z,v,hst,⟨_,rfl⟩|⟨_,rfl⟩⟩ := hdoes
    · exact .inl (hset (by rw [hst]; exact nofun))
    · exact .inl (hset (by rw [hst]; exact nofun))
  | revoke i now =>
    obtain ⟨z,v,hst,rfl⟩|⟨z,hst,rfl⟩ := hdoes
    · exact .inl (hset (by rw [hst]; exact nofun))
    · exact .inl (hset (by rw [hst]; exact nofun))
  | store i y now =>
    obtain ⟨z,v,hst,_,rfl⟩ := hdoes
    by_cases hri : r=i
    · exact .inr ⟨y,now,by rw [hri]⟩
    · exact .inl ((set_stages_other t _ hri).trans h)

/-- Only a request that is going to replace it revokes a token of a user that
exists. -/
theorem unrevoked_of_step (hk : d.known u=true) (ho : Owners d t) (hs : Step d t a t')
    (hx : Owner t.rows x u) (h : Unrevoked t.rows x) :
    Unrevoked t'.rows x ∨ ∃ r,t'.stages r=.rotating x u := by
  have hdoes := step_cases hs
  cases a with
  | lookup r z now =>
    obtain ⟨_,⟨row,_,rfl⟩|rfl⟩ := hdoes
    · exact .inl h
    · exact .inl h
  | loadOwner r =>
    obtain ⟨z,v,_,⟨_,rfl⟩|⟨_,rfl⟩⟩ := hdoes
    · exact .inl h
    · exact .inl h
  | revoke r now =>
    obtain ⟨z,v,hst,rfl⟩|⟨z,hst,rfl⟩ := hdoes
    · by_cases hz : x=z
      · subst hz
        have hheld := ho r
        rw [hst] at hheld
        rw [owner_unique hx hheld.1]
        exact .inr ⟨r,set_stages_self t r _⟩
      · exact .inl ((unrevoked_revokeToken_other _ _ hz).mpr h)
    · by_cases hz : x=z
      · subst hz
        have hheld := ho r
        rw [hst] at hheld
        obtain ⟨v,hv,hunknown⟩ := hheld
        rw [← owner_unique hx hv,hk] at hunknown
        cases hunknown
      · exact .inl ((unrevoked_revokeToken_other _ _ hz).mpr h)
  | store r y now =>
    obtain ⟨z,v,_,hy,rfl⟩ := hdoes
    obtain ⟨row,hrow,hun⟩ := h
    have hxy : x≠y := by
      rintro rfl
      rw [hy] at hrow
      cases hrow
    exact .inl ⟨row,(Function.update_of_ne hxy ..).trans hrow,hun⟩

/-- A successor stored after the revocation has run has escaped it. -/
theorem escaped_stored {r : Nat} (hhit : HitStored w) (hswept : w.phase.Swept)
    (hy : w.tokens.rows y=none) :
    Escaped u {w with tokens := w.tokens.stored d r x y u now} := by
  have hrow : (w.tokens.stored d r x y u now).rows y=some (mintRefreshToken d.ttl u now) :=
    Function.update_self ..
  refine ⟨hswept,.inl ⟨y,⟨_,hrow,rfl⟩,⟨_,hrow,rfl⟩,fun hit now hp => ?_⟩⟩
  cases hh : hit y with
  | false => rfl
  | true =>
    obtain ⟨row,hrow⟩ := hhit hit now hp y hh
    rw [hy] at hrow
    cases hrow

variable [DecidableEq υ]

/-- What a step finds and leaves. -/
def ResetAct.Does (d : AuthSetup υ) (u : υ) (w w' : ResetWorld τ υ) : ResetAct τ → Prop
  | .refresh a => ∃ tokens,Step d w.tokens a tokens ∧ w'={w with tokens}
  | .savePassword => w.phase=.verified ∧ w'={w with phase := .passwordSaved}
  | .sweep now => w.phase=.passwordSaved ∧
      w'={w with phase := .swept (unrevokedOf w.tokens.rows u) now}
  | .commit => ∃ hit now,w.phase=.swept hit now ∧
      w'=⟨{w.tokens with rows := revokeHit w.tokens.rows hit now},.committed⟩

theorem resetStep_cases (h : ResetStep d u w act w') : act.Does d u w w' := by
  unfold ResetStep ofPartial resetStep at h
  cases act with
  | refresh a =>
    obtain ⟨tokens,ht,rfl⟩ := Option.map_eq_some_iff.mp h
    exact ⟨tokens,ht,rfl⟩
  | savePassword | sweep now =>
    dsimp only at h
    split at h
    · rename_i hp
      exact ⟨hp,(Option.some.inj h).symm⟩
    · cases h
  | commit =>
    dsimp only at h
    split at h
    · rename_i hit now hp
      exact ⟨hit,now,hp,(Option.some.inj h).symm⟩
    · cases h

theorem resetStep_deterministic : Deterministic (ResetStep (τ:=τ) d u) :=
  deterministic_ofPartial (resetStep d u)

/-- Requests keep the tokens of their users through the reset. -/
theorem owners_of_reset (h : Owners d w.tokens) (hs : ResetStep d u w act w') :
    Owners d w'.tokens := by
  have hdoes := resetStep_cases hs
  cases act with
  | refresh a =>
    obtain ⟨tokens,ht,rfl⟩ := hdoes
    exact h.step ht
  | savePassword | sweep now =>
    obtain ⟨_,rfl⟩ := hdoes
    exact h
  | commit =>
    obtain ⟨hit,now,_,rfl⟩ := hdoes
    exact fun r => (h r).grows fun x v ho => (owner_revokeHit hit now).mpr ho

/-- Before the revocation, and under the condition after it, a step keeps the
user's tokens contained. -/
theorem Contained.step (h : Contained u w) (ho : Owners d w.tokens) (hs : ResetStep d u w act w')
    (hguard : BeforeSweep u w act) : Contained u w' := by
  have hdoes := resetStep_cases hs
  cases act with
  | refresh a =>
    obtain ⟨tokens,ht,rfl⟩ := hdoes
    have hold : w.phase.Swept → ∀ x,Owner tokens.rows x u → Unrevoked tokens.rows x →
        Owner w.tokens.rows x u ∧ Unrevoked w.tokens.rows x := by
      intro hswept x hx hun
      rcases owner_of_step ht hx with hx|⟨r,now,z,rfl,hst⟩
      · exact ⟨hx,of_not_not fun hno => (grows_of_step ho ht).revoked x u hx hno hun⟩
      · exact absurd hswept (hguard z hst)
    unfold Contained at h ⊢
    dsimp only
    split
    · rename_i hit now hp
      rw [hp] at h
      intro x hx hun
      obtain ⟨hx,hun⟩ := hold (by rw [hp]; trivial) x hx hun
      exact h x hx hun
    · rename_i hp
      rw [hp] at h
      intro x hx hun
      obtain ⟨hx,hun⟩ := hold (by rw [hp]; trivial) x hx hun
      exact h x hx hun
    · trivial
  | savePassword =>
    obtain ⟨_,rfl⟩ := hdoes
    trivial
  | sweep now =>
    obtain ⟨_,rfl⟩ := hdoes
    exact fun x hx hun => unrevokedOf_iff.mpr ⟨hx,hun⟩
  | commit =>
    obtain ⟨hit,now,hp,rfl⟩ := hdoes
    unfold Contained at h
    rw [hp] at h
    intro x hx hun
    obtain ⟨hun,hmiss⟩ := (unrevoked_revokeHit hit now).mp hun
    rw [h x ((owner_revokeHit hit now).mp hx) hun] at hmiss
    cases hmiss

/-- The revocation acts on rows that are there. -/
theorem HitStored.step (h : HitStored w) (ho : Owners d w.tokens) (hs : ResetStep d u w act w') :
    HitStored w' := by
  have hdoes := resetStep_cases hs
  cases act with
  | refresh a =>
    obtain ⟨tokens,ht,rfl⟩ := hdoes
    intro hit now hp x hx
    obtain ⟨row,hrow⟩ := h hit now hp x hx
    obtain ⟨row',hrow',-⟩ := (grows_of_step ho ht).owner x row.userId ⟨row,hrow,rfl⟩
    exact ⟨row',hrow'⟩
  | savePassword =>
    obtain ⟨_,rfl⟩ := hdoes
    exact fun hit now hp => by cases hp
  | sweep now =>
    obtain ⟨_,rfl⟩ := hdoes
    intro hit now hp x hx
    cases hp
    obtain ⟨row,hrow,-⟩ := (unrevokedOf_iff.mp hx).1
    exact ⟨row,hrow⟩
  | commit =>
    obtain ⟨_,_,_,rfl⟩ := hdoes
    exact fun hit now hp => by cases hp

/-- What has escaped the revocation stays out of its reach. -/
theorem Escaped.step (h : Escaped u w) (hk : d.known u=true) (ho : Owners d w.tokens)
    (hhit : HitStored w) (hs : ResetStep d u w act w') : Escaped u w' := by
  obtain ⟨hswept,hescaped⟩ := h
  have hdoes := resetStep_cases hs
  cases act with
  | refresh a =>
    obtain ⟨tokens,ht,rfl⟩ := hdoes
    by_cases hstore : ∃ r y now x,a=.store r y now ∧ w.tokens.stages r=.rotating x u
    · obtain ⟨r,y,now,x,rfl,hst⟩ := hstore
      obtain ⟨x',u',hst',hy,rfl⟩ := step_cases ht
      rw [hst] at hst'
      cases hst'
      exact escaped_stored hhit hswept hy
    · refine ⟨hswept,?_⟩
      rcases hescaped with ⟨y,hy,hun,hmiss⟩|⟨r,x,hst⟩
      · rcases unrevoked_of_step hk ho ht hy hun with hun|⟨r,hst⟩
        · exact .inl ⟨y,(grows_of_step ho ht).owner y u hy,hun,hmiss⟩
        · exact .inr ⟨r,y,hst⟩
      · rcases rotating_of_step ht hst with hst'|⟨y,now,rfl⟩
        · exact .inr ⟨r,x,hst'⟩
        · exact absurd ⟨r,y,now,x,rfl,hst⟩ hstore
  | savePassword | sweep now =>
    obtain ⟨hp,_⟩ := hdoes
    rw [hp] at hswept
    cases hswept
  | commit =>
    obtain ⟨hit,now,hp,rfl⟩ := hdoes
    refine ⟨trivial,?_⟩
    rcases hescaped with ⟨y,hy,hun,hmiss⟩|hst
    · exact .inl ⟨y,(owner_revokeHit hit now).mpr hy,
        (unrevoked_revokeHit hit now).mpr ⟨hun,hmiss hit now hp⟩,fun _ _ h => (by cases h)⟩
    · exact .inr hst

/-- A reset before any request. -/
abbrev resetStart (rows₀ : Rows τ υ) : ResetWorld τ υ := {tokens := {rows := rows₀}}

/-- With every store before the revocation the tokens are contained, otherwise
one has escaped. -/
theorem reset_run (hrun : Run (ResetStep d u) (resetStart rows₀) as w) :
    Owners d w.tokens ∧ HitStored w ∧
      ((Run (guarded (ResetStep d u) (BeforeSweep u)) (resetStart rows₀) as w ∧ Contained u w) ∨
        (¬Run (guarded (ResetStep d u) (BeforeSweep u)) (resetStart rows₀) as w ∧
          d.known u=true ∧ Escaped u w)) := by
  induction hrun with
  | start => exact ⟨fun _ => trivial,fun _ _ h => (by cases h),.inl ⟨.start,trivial⟩⟩
  | @next as w w' act hrun hs ih =>
    obtain ⟨ho,hhit,hstate⟩ := ih
    refine ⟨owners_of_reset ho hs,hhit.step ho hs,?_⟩
    rw [hrun.guarded_next_iff (C:=BeforeSweep u) resetStep_deterministic hs]
    rcases hstate with ⟨hg,hcontained⟩|⟨hg,hk,hescaped⟩
    · by_cases hc : BeforeSweep u w act
      · exact .inl ⟨⟨hg,hc⟩,hcontained.step ho hs hc⟩
      · -- The user's successor is stored behind the revocation's back.
        refine .inr ⟨fun h => hc h.2,?_⟩
        unfold BeforeSweep at hc
        split at hc
        · rename_i r y now
          simp only [not_forall,not_not] at hc
          obtain ⟨x,hst,hswept⟩ := hc
          obtain ⟨tokens,ht,rfl⟩ := resetStep_cases hs
          obtain ⟨x',u',hst',hy,rfl⟩ := step_cases ht
          have hheld := ho r
          rw [hst] at hst' hheld
          cases hst'
          exact ⟨hheld.2,escaped_stored hhit hswept hy⟩
        · exact absurd trivial hc
    · exact .inr ⟨fun h => hg h.1,hk,hescaped.step hk ho hhit hs⟩

/-- While no request of the user stores a successor after the revocation has
run, none of the user's tokens is redeemable once the reset has committed. Of
requests that all came to their end this is true only then. -/
theorem reset_revokes_iff (d : AuthSetup υ) (u : υ) (rows₀ : Rows τ υ) (as : List (ResetAct τ))
    (w : ResetWorld τ υ) (hrun : Run (ResetStep d u) (resetStart rows₀) as w)
    (hphase : w.phase=.committed) :
    (Run (guarded (ResetStep d u) (BeforeSweep u)) (resetStart rows₀) as w → NoneRedeemable u w) ∧
      (Finished w.tokens → (NoneRedeemable u w ↔
        Run (guarded (ResetStep d u) (BeforeSweep u)) (resetStart rows₀) as w)) := by
  obtain ⟨_,_,⟨hg,hcontained⟩|⟨hg,_,_,hescaped⟩⟩ := reset_run hrun
  · have hnone : NoneRedeemable u w := by
      unfold Contained at hcontained
      rw [hphase] at hcontained
      exact fun x hx => findActive_eq_none_iff.mpr (hcontained x hx)
    exact ⟨fun _ => hnone,fun _ => iff_of_true hnone hg⟩
  · refine ⟨fun h => absurd h hg,fun hfin => iff_of_false (fun hnone => ?_) hg⟩
    rcases hescaped with ⟨y,hy,hun,_⟩|⟨r,x,hst⟩
    · exact findActive_eq_none_iff.mp (hnone y hy) hun
    · obtain h|h|⟨_,_,h⟩ := hfin r <;> rw [hst] at h <;> cases h

end Run

/-- The reset alone leaves nothing to redeem. -/
theorem reset_revokes_iff_alone :
    ∃ w,Run (ResetStep agencySetup "agent") (resetStart agencyTokens)
        [.savePassword,.sweep 20,.commit] w ∧ NoneRedeemable "agent" w := by
  have hsaved : Run (guarded (ResetStep agencySetup "agent") (BeforeSweep "agent"))
      (resetStart agencyTokens) [.savePassword] _ := Run.start.next ⟨rfl,trivial⟩
  have hswept := hsaved.next (l:=ResetAct.sweep 20) ⟨rfl,trivial⟩
  have hrun := hswept.next (l:=ResetAct.commit) ⟨rfl,trivial⟩
  exact ⟨_,hrun.unguard,(reset_revokes_iff _ _ _ _ _ hrun.unguard rfl).1 hrun⟩

/-- A request has revoked the user's token when the reset runs, and stores the
successor after it: the new token is redeemable although the password is reset. -/
theorem rotated_token_survives :
    ∃ w,Run (ResetStep agencySetup "agent") (resetStart agencyTokens)
        [.refresh (.lookup 0 1 10),.refresh (.loadOwner 0),.refresh (.revoke 0 11),.savePassword,
          .sweep 20,.commit,.refresh (.store 0 2 21)] w ∧
      w.phase=.committed ∧ (findActive w.tokens.rows 2 30).isSome ∧ ¬NoneRedeemable "agent" w := by
  refine ⟨_,run_of_foldlM rfl,rfl,rfl,fun h => ?_⟩
  cases h 2 ⟨_,rfl,rfl⟩ 30

end Voyagent.PasswordReset
