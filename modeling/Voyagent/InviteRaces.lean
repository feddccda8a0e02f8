import Voyagent.AuthEffects

/-!
# Racing calls on one invite

An acceptance reads the invite and checks it, looks the address up, inserts
the user and marks the invite; a revocation reads and checks the invite and
updates it. A write is seen by others from its commit on. Any number of calls
take their steps in any order, each at a time of its own; one that takes no
further step was cut off.
-/

namespace Voyagent.InviteRaces

open RuntimeValues AuthAccounts AuthEndpoints AuthEffects TransitionRuns

/-- How far a call has come. -/
inductive Stage where
  | idle
  /-- An acceptance that found the invite open. -/
  | opened (row : InviteRow)
  /-- Nobody has the invited address. -/
  | unregistered (row : InviteRow)
  /-- The user is inserted, not committed. -/
  | inserted (row : InviteRow) (u : User)
  /-- The user is committed. -/
  | created (row : InviteRow) (u : User)
  /-- The invite is marked, not committed. -/
  | marking (u : User) (now : Time)
  | accepted (u : User)
  /-- A revocation that found the invite pending. -/
  | pending (row : InviteRow)
  /-- The invite is updated, not committed. -/
  | revoking (now : Time)
  | revoked
  /-- A revocation that succeeded, with the row it answers. -/
  | answered (row : InviteRow)
  | refused (e : HttpError)

/-- The committed rows, the calls and what came of the invite. -/
structure World where
  invite : InviteRow
  users : List User
  /-- The call whose insert waits for its commit. -/
  inserting : Option Nat := none
  stages : Nat → Stage := fun _ => .idle
  /-- Users created from the invite. -/
  created : List User := []
  /-- How often the invite has left the pending status. -/
  departures : Nat := 0

inductive Act where
  /-- `find_by_token_hash` and the checks of `accept_invite`. -/
  | openInvite (r : Nat) (now : Time)
  /-- `find_by_email`. -/
  | lookUpEmail (r : Nat)
  /-- `create_user_in_existing_tenant` up to its flush. -/
  | insertUser (r : Nat) (id : UserId) (passwordHash fullName : String) (verified : Bool) (now : Time)
  | commitUser (r : Nat)
  /-- `mark_accepted` up to its commit. -/
  | markAccepted (r : Nat) (now : Time)
  | commitAccepted (r : Nat)
  /-- `find_by_id` and the checks of `revoke_invite`. -/
  | readPending (r : Nat) (tenantId : TenantId)
  /-- `revoke` up to its commit. -/
  | revoke (r : Nat) (now : Time)
  | commitRevoked (r : Nat)
  /-- The second `find_by_id`. -/
  | answerRevoked (r : Nat)

def World.set (w : World) (r : Nat) (st : Stage) : World :=
  {w with stages := Function.update w.stages r st}

/-- A new row of the invite is committed. -/
def World.commitInvite (w : World) (row : InviteRow) : World :=
  {w with
    invite := row
    departures := if w.invite.status=.pending then w.departures+1 else w.departures}

/-- The user of a call is committed. -/
def World.commitUser (w : World) (r : Nat) (row : InviteRow) (u : User) : World :=
  {w.set r (.created row u) with
    users := w.users++[u]
    inserting := none
    created := w.created++[u]}

/-- The checks of an acceptance. -/
def checkOpen (row : InviteRow) (now : Time) : Except HttpError InviteRow :=
  if row.status≠.pending then .error ⟨400,"invite_not_pending"⟩
  else if row.expiresAt≤now then .error ⟨400,"invite_expired"⟩
  else .ok row

/-- The checks of a revocation. -/
def checkPending (row : InviteRow) (tenantId : TenantId) : Except HttpError InviteRow :=
  if row.tenantId≠tenantId then .error ⟨404,"invite_not_found"⟩
  else if row.status≠.pending then .error ⟨409,"invite_not_pending"⟩
  else .ok row

section Steps

variable (lib : AuthLibrary)

/-- A user has the address. -/
def registered (users : List User) (email : String) : Bool :=
  users.any fun u => decide (u.email=lib.lower email)

/-- The user an invite becomes. -/
def invitedUser (row : InviteRow) (id : UserId) (passwordHash fullName : String) (verified : Bool)
    (now : Time) : User where
  id := id
  tenantId := row.tenantId
  displayName := fullName
  email := lib.lower row.email
  role := row.role
  passwordHash := some passwordHash
  emailVerified := verified
  createdAt := now

/-- One step, when it can be taken: an insert waits while another insert of
the address is not committed. -/
def step (w : World) : Act → Option World
  | .openInvite r now =>
    match w.stages r with
    | .idle =>
      match checkOpen w.invite now with
      | .ok row => some (w.set r (.opened row))
      | .error e => some (w.set r (.refused e))
    | _ => none
  | .lookUpEmail r =>
    match w.stages r with
    | .opened row =>
      if registered lib w.users row.email then
        some (w.set r (.refused ⟨409,"email_already_registered"⟩))
      else some (w.set r (.unregistered row))
    | _ => none
  | .insertUser r id passwordHash fullName verified now =>
    match w.stages r,w.inserting with
    | .unregistered row,none =>
      if registered lib w.users row.email then
        some (w.set r (.refused ⟨409,"email_already_registered"⟩))
      else
        some {w.set r (.inserted row (invitedUser lib row id passwordHash fullName verified now)) with
          inserting := some r}
    | _,_ => none
  | .commitUser r =>
    match w.stages r with
    | .inserted row u => some (w.commitUser r row u)
    | _ => none
  | .markAccepted r now =>
    match w.stages r with
    | .created _ u => some (w.set r (.marking u now))
    | _ => none
  | .commitAccepted r =>
    match w.stages r with
    | .marking u now =>
      some ((w.commitInvite {w.invite with status := .accepted,acceptedAt := some now}).set r
        (.accepted u))
    | _ => none
  | .readPending r tenantId =>
    match w.stages r with
    | .idle =>
      match checkPending w.invite tenantId with
      | .ok row => some (w.set r (.pending row))
      | .error e => some (w.set r (.refused e))
    | _ => none
  | .revoke r now =>
    match w.stages r with
    | .pending _ => some (w.set r (.revoking now))
    | _ => none
  | .commitRevoked r =>
    match w.stages r with
    | .revoking now =>
      some ((w.commitInvite {w.invite with status := .revoked,revokedAt := some now}).set r .revoked)
    | _ => none
  | .answerRevoked r =>
    match w.stages r with
    | .revoked => some (w.set r (.answered w.invite))
    | _ => none

def Step : World → Act → World → Prop := ofPartial (step lib)

end Steps

/-- The invite leaves the pending status at most once, a revocation that
succeeded means that it became no user, and it becomes at most one. -/
structure Lifecycle (w : World) : Prop where
  leavesOnce : w.departures≤1
  revokedForGood : (∃ r row,w.stages r=.answered row) → w.created=[]
  createdOnce : w.created.length≤1

/-- No call is under way. -/
def Finished (w : World) : Prop :=
  ∀ r,w.stages r=.idle ∨ (∃ u,w.stages r=.accepted u) ∨ (∃ row,w.stages r=.answered row) ∨
    ∃ e,w.stages r=.refused e

/-- A user is not committed after the invite was revoked, and a revocation is
not committed after the invite became a user. -/
def InOrder (w : World) : Act → Prop
  | .commitUser _ => w.invite.status≠.revoked
  | .commitRevoked _ => w.created=[]
  | _ => True

/-! ## What the steps keep -/

variable {lib : AuthLibrary} {w w' : World} {a : Act} {as : List Act} {r i : Nat} {st : Stage}
  {us : List User}

/-- The revocation of a call is committed. -/
def Stage.hasRevoked : Stage → Bool
  | .revoked => true
  | .answered _ => true
  | _ => false

/-- What a stage says about the rows. -/
def StageFact (lib : AuthLibrary) (w : World) : Stage → Prop
  | .opened row => row.email=w.invite.email
  | .unregistered row => row.email=w.invite.email
  | .inserted _ u =>
    u.email=lib.lower w.invite.email ∧ registered lib w.users w.invite.email=false
  | .created _ _ => w.created≠[]
  | .marking _ _ => w.created≠[]
  | .accepted _ => w.created≠[]
  | _ => True

/-- A revocation is committed. -/
def Revoked (w : World) : Prop := ∃ r,(w.stages r).hasRevoked=true

/-- Known in every state reached. -/
structure Facts (lib : AuthLibrary) (w : World) : Prop where
  stages : ∀ r,StageFact lib w (w.stages r)
  inserting : ∀ r row u,w.stages r=.inserted row u → w.inserting=some r
  taken : w.created≠[] → registered lib w.users w.invite.email=true
  createdOnce : w.created.length≤1
  leavesOnce : w.departures≤1
  pending : w.invite.status=.pending → w.departures=0
  revoked : w.invite.status=.revoked → Revoked w
  /-- Only a call that created a user marks the invite again. -/
  stillRevoked : Revoked w → w.created=[] → w.invite.status=.revoked

/-- The invite was revoked and became a user. -/
def Doomed (w : World) : Prop := Revoked w ∧ w.created≠[]

/-- What a step finds and does. -/
def Act.Does (lib : AuthLibrary) (w w' : World) : Act → Prop
  | .openInvite r now => w.stages r=.idle ∧
      ((checkOpen w.invite now=.ok w.invite ∧ w'=w.set r (.opened w.invite)) ∨
        ∃ e,w'=w.set r (.refused e))
  | .lookUpEmail r => ∃ row,w.stages r=.opened row ∧
      (w'=w.set r (.unregistered row) ∨ ∃ e,w'=w.set r (.refused e))
  | .insertUser r id passwordHash fullName verified now =>
    ∃ row,w.stages r=.unregistered row ∧ w.inserting=none ∧
      ((registered lib w.users row.email=false ∧
          w'={w.set r (.inserted row (invitedUser lib row id passwordHash fullName verified now)) with
            inserting := some r}) ∨
        ∃ e,w'=w.set r (.refused e))
  | .commitUser r => ∃ row u,w.stages r=.inserted row u ∧ w'=w.commitUser r row u
  | .markAccepted r now => ∃ row u,w.stages r=.created row u ∧ w'=w.set r (.marking u now)
  | .commitAccepted r => ∃ u now,w.stages r=.marking u now ∧
      w'=(w.commitInvite {w.invite with status := .accepted,acceptedAt := some now}).set r (.accepted u)
  | .readPending r _ => w.stages r=.idle ∧
      (w'=w.set r (.pending w.invite) ∨ ∃ e,w'=w.set r (.refused e))
  | .revoke r now => ∃ row,w.stages r=.pending row ∧ w'=w.set r (.revoking now)
  | .commitRevoked r => ∃ now,w.stages r=.revoking now ∧
      w'=(w.commitInvite {w.invite with status := .revoked,revokedAt := some now}).set r .revoked
  | .answerRevoked r => w.stages r=.revoked ∧ w'=w.set r (.answered w.invite)

theorem checkOpen_ok {row row' : InviteRow} {now : Time} (h : checkOpen row now=.ok row') :
    row'=row ∧ row.status=.pending ∧ now<row.expiresAt := by
  unfold checkOpen at h
  split at h
  · cases h
  · rename_i hpending
    split at h
    · cases h
    · rename_i hlive
      cases h
      exact ⟨rfl,not_not.mp hpending,Int.not_le.mp hlive⟩

theorem checkPending_ok {row row' : InviteRow} {tenantId : TenantId}
    (h : checkPending row tenantId=.ok row') : row'=row ∧ row.tenantId=tenantId ∧ row.status=.pending := by
  unfold checkPending at h
  split at h
  · cases h
  · rename_i htenant
    split at h
    · cases h
    · rename_i hpending
      cases h
      exact ⟨rfl,not_not.mp htenant,not_not.mp hpending⟩

theorem step_cases (h : Step lib w a w') : a.Does lib w w' := by
  unfold Step ofPartial step at h
  cases a with
  | openInvite r now =>
    dsimp only at h
    split at h
    · rename_i hst
      split at h
      · rename_i row hopen
        obtain ⟨rfl,-⟩ := checkOpen_ok hopen
        exact ⟨hst,.inl ⟨hopen,(Option.some.inj h).symm⟩⟩
      · rename_i e _
        exact ⟨hst,.inr ⟨e,(Option.some.inj h).symm⟩⟩
    · cases h
  | lookUpEmail r =>
    dsimp only at h
    split at h
    · rename_i row hst
      split at h
      · exact ⟨row,hst,.inr ⟨_,(Option.some.inj h).symm⟩⟩
      · exact ⟨row,hst,.inl (Option.some.inj h).symm⟩
    · cases h
  | insertUser r id passwordHash fullName verified now =>
    dsimp only at h
    split at h
    · rename_i row hst hnone
      split at h
      · exact ⟨row,hst,hnone,.inr ⟨_,(Option.some.inj h).symm⟩⟩
      · rename_i hfree
        exact ⟨row,hst,hnone,.inl ⟨Bool.not_eq_true _ ▸ hfree,(Option.some.inj h).symm⟩⟩
    · cases h
  | commitUser r | markAccepted r now =>
    dsimp only at h
    split at h
    · rename_i row u hst
      exact ⟨row,u,hst,(Option.some.inj h).symm⟩
    · cases h
  | commitAccepted r =>
    dsimp only at h
    split at h
    · rename_i u now hst
      exact ⟨u,now,hst,(Option.some.inj h).symm⟩
    · cases h
  | readPending r tenantId =>
    dsimp only at h
    split at h
    · rename_i hst
      split at h
      · rename_i row hpending
        obtain ⟨rfl,-⟩ := checkPending_ok hpending
        exact ⟨hst,.inl (Option.some.inj h).symm⟩
      · rename_i e _
        exact ⟨hst,.inr ⟨e,(Option.some.inj h).symm⟩⟩
    · cases h
  | revoke r now =>
    dsimp only at h
    split at h
    · rename_i row hst
      exact ⟨row,hst,(Option.some.inj h).symm⟩
    · cases h
  | commitRevoked r =>
    dsimp only at h
    split at h
    · rename_i now hst
      exact ⟨now,hst,(Option.some.inj h).symm⟩
    · cases h
  | answerRevoked r =>
    dsimp only at h
    split at h
    · rename_i hst
      exact ⟨hst,(Option.some.inj h).symm⟩
    · cases h

@[simp] theorem set_stages_self (w : World) (r : Nat) (st : Stage) : (w.set r st).stages r=st :=
  Function.update_self ..

theorem set_stages_other (w : World) (st : Stage) (h : i≠r) :
    (w.set r st).stages i=w.stages i := Function.update_of_ne h ..

/-- A call moves on: what holds of its new stage and of the others'. -/
theorem stages_set {P : Nat → Stage → Prop} (hst : P r st) (h : ∀ i,i≠r → P i (w.stages i))
    (i : Nat) : P i ((w.set r st).stages i) := by
  by_cases hi : i=r
  · subst hi
    rw [set_stages_self]
    exact hst
  · rw [set_stages_other w st hi]
    exact h i hi

/-- A call moves on and neither commits a revocation nor loses one. -/
theorem revoked_set (hst : st.hasRevoked=(w.stages r).hasRevoked) :
    Revoked (w.set r st) ↔ Revoked w := by
  refine exists_congr fun i => ?_
  by_cases hir : i=r
  · subst hir
    rw [set_stages_self,hst]
  · rw [set_stages_other w st hir]

theorem facts_start {row : InviteRow} (h : row.status=.pending) :
    Facts lib {invite := row,users := us} where
  stages := fun _ => trivial
  inserting := fun r row u h => by cases h
  taken := fun h => absurd rfl h
  createdOnce := Nat.zero_le 1
  leavesOnce := Nat.zero_le 1
  pending := fun _ => rfl
  revoked := fun hrev => (by cases h.symm.trans hrev)
  stillRevoked := fun ⟨r,hr⟩ => (by cases hr)

/-- A call moves on without a write. -/
theorem Facts.set (h : Facts lib w) (hst : StageFact lib w st) (hins : ∀ row u,st≠.inserted row u)
    (hrev : st.hasRevoked=(w.stages r).hasRevoked) : Facts lib (w.set r st) where
  stages := stages_set (P:=fun _ => StageFact lib w) hst fun i _ => h.stages i
  inserting := stages_set (P:=fun i st => ∀ row u,st=.inserted row u → w.inserting=some i)
    (fun row u hst => absurd hst (hins row u)) fun i _ => h.inserting i
  taken := h.taken
  createdOnce := h.createdOnce
  leavesOnce := h.leavesOnce
  pending := h.pending
  revoked := fun hr => (revoked_set hrev).mpr (h.revoked hr)
  stillRevoked := fun hr => h.stillRevoked ((revoked_set hrev).mp hr)

theorem registered_append (users : List User) (u : User) (email : String) :
    registered lib (users++[u]) email=(registered lib users email || decide (u.email=lib.lower email)) := by
  simp [registered]

/-- An inserted user is committed. -/
theorem Facts.commitUser (h : Facts lib w) {row : InviteRow} {u : User}
    (hst : w.stages r=.inserted row u) : Facts lib (w.commitUser r row u) := by
  obtain ⟨hemail,hfree⟩ : StageFact lib w (.inserted row u) := hst ▸ h.stages r
  have hnone : w.created=[] := by
    by_contra hne
    rw [h.taken hne] at hfree
    cases hfree
  have hcreated : (w.commitUser r row u).created≠[] :=
    List.append_ne_nil_of_right_ne_nil _ (List.cons_ne_nil _ _)
  have hothers : ∀ i,i≠r → ∀ row' u',w.stages i≠.inserted row' u' := by
    intro i hi row' u' hins
    have hr := h.inserting r row u hst
    rw [h.inserting i row' u' hins] at hr
    exact hi (Option.some.inj hr)
  have hrev : Stage.hasRevoked (.created row u)=(w.stages r).hasRevoked := by rw [hst]; rfl
  refine ⟨?_,fun i row' u' hins => ?_,fun _ => ?_,?_,h.leavesOnce,h.pending,
    fun hr => (revoked_set hrev).mpr (h.revoked hr),fun _ hc => absurd hc hcreated⟩
  · refine stages_set (P:=fun _ => StageFact lib (w.commitUser r row u)) hcreated fun i hi => ?_
    have hi' := h.stages i
    cases hsi : w.stages i with
    | inserted row' u' => exact absurd hsi (hothers i hi row' u')
    | created row' u' => exact hcreated
    | marking u' now => exact hcreated
    | accepted u' => exact hcreated
    | opened row' => rw [hsi] at hi'; exact hi'
    | unregistered row' => rw [hsi] at hi'; exact hi'
    | _ => trivial
  · exact absurd hins (stages_set (P:=fun _ st => st≠.inserted row' u') (fun h => (by cases h))
      (fun i hi => hothers i hi row' u') i)
  · change registered lib (w.users++[u]) w.invite.email=true
    rw [registered_append,hemail,decide_eq_true rfl,Bool.or_true]
  · change (w.created++[u]).length≤1
    rw [hnone]
    exact Nat.le_refl 1

/-- A new row of the invite that is pending no more is committed. -/
theorem Facts.commitInvite (h : Facts lib w) {row : InviteRow} (hemail : row.email=w.invite.email)
    (hstatus : row.status≠.pending) (hst : StageFact lib w st) (hins : ∀ row' u,st≠.inserted row' u)
    (hrev : row.status=.revoked → Revoked ((w.commitInvite row).set r st))
    (hstill : w.created=[] → row.status=.revoked) :
    Facts lib ((w.commitInvite row).set r st) := by
  have hfact : ∀ {st' : Stage},StageFact lib w st' → StageFact lib (w.commitInvite row) st' := by
    intro st' hst'
    cases st' with
    | opened row' | unregistered row' => exact Eq.trans (b:=w.invite.email) hst' hemail.symm
    | inserted row' u =>
      change u.email=lib.lower row.email ∧ registered lib w.users row.email=false
      rw [hemail]
      exact hst'
    | _ => exact hst'
  refine ⟨stages_set (P:=fun _ => StageFact lib (w.commitInvite row)) (hfact hst) fun i _ =>
      hfact (h.stages i),?_,fun hc => ?_,h.createdOnce,?_,fun hp => absurd hp hstatus,hrev,fun _ => hstill⟩
  · exact stages_set (P:=fun i st => ∀ row u,st=.inserted row u → w.inserting=some i)
      (fun row u hst => absurd hst (hins row u)) fun i _ => h.inserting i
  · change registered lib w.users row.email=true
    rw [hemail]
    exact h.taken hc
  · change (if w.invite.status=.pending then w.departures+1 else w.departures)≤1
    split
    · rename_i hp
      rw [h.pending hp]
    · exact h.leavesOnce

/-- A user is inserted. -/
theorem Facts.insertUser (h : Facts lib w) {row : InviteRow} {id : UserId}
    {passwordHash fullName : String} {verified : Bool} {now : Time}
    (hst : w.stages r=.unregistered row) (hnone : w.inserting=none)
    (hfree : InviteRaces.registered lib w.users row.email=false) :
    Facts lib {w.set r (.inserted row (invitedUser lib row id passwordHash fullName verified now)) with
      inserting := some r} := by
  have hemail : StageFact lib w (.unregistered row) := hst ▸ h.stages r
  have hemail : row.email=w.invite.email := hemail
  have hrev : Stage.hasRevoked (.inserted row (invitedUser lib row id passwordHash fullName verified now))=
      (w.stages r).hasRevoked := by rw [hst]; rfl
  refine ⟨stages_set (P:=fun _ => StageFact lib w) ⟨?_,?_⟩ fun i _ => h.stages i,?_,h.taken,
    h.createdOnce,h.leavesOnce,h.pending,fun hr => (revoked_set hrev).mpr (h.revoked hr),
    fun hr => h.stillRevoked ((revoked_set hrev).mp hr)⟩
  · change lib.lower row.email=_
    rw [hemail]
  · rw [← hemail]
    exact hfree
  · refine stages_set (P:=fun i st => ∀ row u,st=.inserted row u → some r=some i)
      (fun _ _ _ => rfl) fun i _ row' u hins => ?_
    rw [h.inserting i row' u hins] at hnone
    cases hnone

theorem facts_step (h : Facts lib w) (hs : Step lib w a w') : Facts lib w' := by
  have hdoes := step_cases hs
  cases a with
  | openInvite r now =>
    obtain ⟨hst,⟨-,rfl⟩|⟨e,rfl⟩⟩ := hdoes
    · exact h.set rfl (fun _ _ h => (by cases h)) (by rw [hst]; rfl)
    · exact h.set trivial (fun _ _ h => (by cases h)) (by rw [hst]; rfl)
  | lookUpEmail r =>
    obtain ⟨row,hst,rfl|⟨e,rfl⟩⟩ := hdoes
    · have hemail : StageFact lib w (.opened row) := hst ▸ h.stages r
      exact h.set hemail (fun _ _ h => (by cases h)) (by rw [hst]; rfl)
    · exact h.set trivial (fun _ _ h => (by cases h)) (by rw [hst]; rfl)
  | insertUser r id passwordHash fullName verified now =>
    obtain ⟨row,hst,hnone,⟨hfree,rfl⟩|⟨e,rfl⟩⟩ := hdoes
    · exact h.insertUser hst hnone hfree
    · exact h.set trivial (fun _ _ h => (by cases h)) (by rw [hst]; rfl)
  | commitUser r =>
    obtain ⟨row,u,hst,rfl⟩ := hdoes
    exact h.commitUser hst
  | markAccepted r now =>
    obtain ⟨row,u,hst,rfl⟩ := hdoes
    have hcreated : StageFact lib w (.created row u) := hst ▸ h.stages r
    exact h.set hcreated (fun _ _ h => (by cases h)) (by rw [hst]; rfl)
  | commitAccepted r =>
    obtain ⟨u,now,hst,rfl⟩ := hdoes
    have hcreated : StageFact lib w (.marking u now) := hst ▸ h.stages r
    exact h.commitInvite rfl (fun h => (by cases h)) hcreated (fun _ _ h => (by cases h))
      (fun h => (by cases h)) fun hc => absurd hc hcreated
  | readPending r tenantId =>
    obtain ⟨hst,rfl|⟨e,rfl⟩⟩ := hdoes
    · exact h.set trivial (fun _ _ h => (by cases h)) (by rw [hst]; rfl)
    · exact h.set trivial (fun _ _ h => (by cases h)) (by rw [hst]; rfl)
  | revoke r now =>
    obtain ⟨row,hst,rfl⟩ := hdoes
    exact h.set trivial (fun _ _ h => (by cases h)) (by rw [hst]; rfl)
  | commitRevoked r =>
    obtain ⟨now,hst,rfl⟩ := hdoes
    exact h.commitInvite rfl (fun h => (by cases h)) trivial (fun _ _ h => (by cases h))
      (fun _ => ⟨r,by rw [set_stages_self]; rfl⟩) fun _ => rfl
  | answerRevoked r =>
    obtain ⟨hst,rfl⟩ := hdoes
    exact h.set trivial (fun _ _ h => (by cases h)) (by rw [hst]; rfl)

/-- A revocation is committed by its commit only. -/
theorem revoked_step (hs : Step lib w a w') : Revoked w' ↔ Revoked w ∨ ∃ r,a=.commitRevoked r := by
  have hdoes := step_cases hs
  have hsame : ∀ {r st},w'=w.set r st → st.hasRevoked=(w.stages r).hasRevoked →
      (∀ r,a≠.commitRevoked r) → (Revoked w' ↔ Revoked w ∨ ∃ r,a=.commitRevoked r) := by
    rintro r st rfl hst hno
    rw [revoked_set hst]
    exact (or_iff_left fun ⟨r,hr⟩ => hno r hr).symm
  cases a with
  | openInvite r now =>
    obtain ⟨hst,⟨-,hw⟩|⟨e,hw⟩⟩ := hdoes <;>
      exact hsame hw (by rw [hst]; rfl) fun _ h => (by cases h)
  | lookUpEmail r =>
    obtain ⟨row,hst,hw|⟨e,hw⟩⟩ := hdoes <;>
      exact hsame hw (by rw [hst]; rfl) fun _ h => (by cases h)
  | insertUser r id passwordHash fullName verified now =>
    obtain ⟨row,hst,-,⟨-,rfl⟩|⟨e,hw⟩⟩ := hdoes
    · have hins : Revoked (w.set r (.inserted row
          (invitedUser lib row id passwordHash fullName verified now))) ↔ Revoked w :=
        revoked_set (by rw [hst]; rfl)
      exact hins.trans (or_iff_left fun ⟨_,h⟩ => (by cases h)).symm
    · exact hsame hw (by rw [hst]; rfl) fun _ h => (by cases h)
  | commitUser r =>
    obtain ⟨row,u,hst,rfl⟩ := hdoes
    have hcom : Revoked (w.set r (.created row u)) ↔ Revoked w := revoked_set (by rw [hst]; rfl)
    exact hcom.trans (or_iff_left fun ⟨_,h⟩ => (by cases h)).symm
  | markAccepted r now =>
    obtain ⟨row,u,hst,hw⟩ := hdoes
    exact hsame hw (by rw [hst]; rfl) fun _ h => (by cases h)
  | commitAccepted r =>
    obtain ⟨u,now,hst,rfl⟩ := hdoes
    have hcom : Revoked (w.set r (.accepted u)) ↔ Revoked w := revoked_set (by rw [hst]; rfl)
    exact hcom.trans (or_iff_left fun ⟨_,h⟩ => (by cases h)).symm
  | readPending r tenantId =>
    obtain ⟨hst,hw|⟨e,hw⟩⟩ := hdoes <;>
      exact hsame hw (by rw [hst]; rfl) fun _ h => (by cases h)
  | revoke r now =>
    obtain ⟨row,hst,hw⟩ := hdoes
    exact hsame hw (by rw [hst]; rfl) fun _ h => (by cases h)
  | commitRevoked r =>
    obtain ⟨now,hst,rfl⟩ := hdoes
    exact iff_of_true ⟨r,by rw [set_stages_self]; rfl⟩ (.inr ⟨r,rfl⟩)
  | answerRevoked r =>
    obtain ⟨hst,hw⟩ := hdoes
    exact hsame hw (by rw [hst]; rfl) fun _ h => (by cases h)

/-- The invite becomes a user by the commit of a user only. -/
theorem created_step (hs : Step lib w a w') :
    w'.created≠[] ↔ w.created≠[] ∨ ∃ r,a=.commitUser r := by
  have hdoes := step_cases hs
  have hsame : w'.created=w.created → (∀ r,a≠.commitUser r) →
      (w'.created≠[] ↔ w.created≠[] ∨ ∃ r,a=.commitUser r) := by
    intro hw hno
    rw [hw]
    exact (or_iff_left fun ⟨r,hr⟩ => hno r hr).symm
  cases a with
  | openInvite r now =>
    obtain ⟨-,⟨-,rfl⟩|⟨e,rfl⟩⟩ := hdoes <;> exact hsame rfl fun _ h => (by cases h)
  | lookUpEmail r =>
    obtain ⟨row,-,rfl|⟨e,rfl⟩⟩ := hdoes <;> exact hsame rfl fun _ h => (by cases h)
  | insertUser r id passwordHash fullName verified now =>
    obtain ⟨row,-,-,⟨-,rfl⟩|⟨e,rfl⟩⟩ := hdoes <;> exact hsame rfl fun _ h => (by cases h)
  | commitUser r =>
    obtain ⟨row,u,-,rfl⟩ := hdoes
    exact iff_of_true (List.append_ne_nil_of_right_ne_nil _ (List.cons_ne_nil _ _)) (.inr ⟨r,rfl⟩)
  | markAccepted r now =>
    obtain ⟨row,u,-,rfl⟩ := hdoes
    exact hsame rfl fun _ h => (by cases h)
  | commitAccepted r =>
    obtain ⟨u,now,-,rfl⟩ := hdoes
    exact hsame rfl fun _ h => (by cases h)
  | readPending r tenantId =>
    obtain ⟨-,rfl|⟨e,rfl⟩⟩ := hdoes <;> exact hsame rfl fun _ h => (by cases h)
  | revoke r now =>
    obtain ⟨row,-,rfl⟩ := hdoes
    exact hsame rfl fun _ h => (by cases h)
  | commitRevoked r =>
    obtain ⟨now,-,rfl⟩ := hdoes
    exact hsame rfl fun _ h => (by cases h)
  | answerRevoked r =>
    obtain ⟨-,rfl⟩ := hdoes
    exact hsame rfl fun _ h => (by cases h)

theorem Doomed.step (h : Doomed w) (hs : Step lib w a w') : Doomed w' :=
  ⟨(revoked_step hs).mpr (.inl h.1),(created_step hs).mpr (.inl h.2)⟩

/-- The step that dooms the invite is the one out of order. -/
theorem inOrder_iff (h : Facts lib w) (hno : ¬Doomed w) (hs : Step lib w a w') :
    InOrder w a ↔ ¬Doomed w' := by
  have hiff : Doomed w' ↔ (Revoked w ∨ ∃ r,a=.commitRevoked r) ∧
      (w.created≠[] ∨ ∃ r,a=.commitUser r) := and_congr (revoked_step hs) (created_step hs)
  rw [hiff]
  cases a with
  | commitUser r =>
    have hstatus : w.invite.status=.revoked ↔ Revoked w :=
      ⟨h.revoked,fun hr => h.stillRevoked hr (not_not.mp fun hc => hno ⟨hr,hc⟩)⟩
    change w.invite.status≠.revoked ↔ _
    rw [Ne,hstatus]
    refine not_congr ⟨fun hr => ⟨.inl hr,.inr ⟨r,rfl⟩⟩,?_⟩
    rintro ⟨hr|⟨r',hr'⟩,-⟩
    · exact hr
    · cases hr'
  | commitRevoked r =>
    change w.created=[] ↔ _
    rw [← not_not (a:=w.created=[])]
    refine not_congr ⟨fun hc => ⟨.inr ⟨r,rfl⟩,.inl hc⟩,?_⟩
    rintro ⟨-,hc|⟨r',hr'⟩⟩
    · exact hc
    · cases hr'
  | _ =>
    refine iff_of_true trivial ?_
    rintro ⟨hr|⟨r',hr'⟩,hc|⟨r'',hr''⟩⟩
    · exact hno ⟨hr,hc⟩
    · cases hr''
    · cases hr'
    · cases hr'

theorem step_deterministic (lib : AuthLibrary) : Deterministic (Step lib) :=
  deterministic_ofPartial (step lib)

/-- A run in order dooms the invite nowhere; any other run does. -/
theorem inOrder_of_run {row : InviteRow} (hrow : row.status=.pending)
    (hrun : Run (Step lib) {invite := row,users := us} as w) : Facts lib w ∧
      (Run (guarded (Step lib) InOrder) {invite := row,users := us} as w ↔ ¬Doomed w) := by
  induction hrun with
  | start => exact ⟨facts_start hrow,iff_of_true .start fun h => h.2 rfl⟩
  | @next as w w' a hrun hs ih =>
    obtain ⟨hfacts,hiff⟩ := ih
    refine ⟨facts_step hfacts hs,?_⟩
    rw [hrun.guarded_next_iff (step_deterministic lib) hs,hiff]
    constructor
    · rintro ⟨hno,horder⟩
      exact (inOrder_iff hfacts hno hs).mp horder
    · intro hno
      have hbefore : ¬Doomed w := fun h => hno (h.step hs)
      exact ⟨hbefore,(inOrder_iff hfacts hbefore hs).mpr hno⟩

/-- An invite that is not doomed keeps its lifecycle. -/
theorem Facts.lifecycle (h : Facts lib w) (hno : ¬Doomed w) : Lifecycle w where
  leavesOnce := h.leavesOnce
  revokedForGood := fun ⟨r,row,hr⟩ => by
    by_contra hc
    exact hno ⟨⟨r,by rw [hr]; rfl⟩,hc⟩
  createdOnce := h.createdOnce

/-- When all calls came to their end, a doomed invite was revoked with success. -/
theorem Doomed.not_lifecycle (h : Doomed w) (hfin : Finished w) : ¬Lifecycle w := by
  obtain ⟨⟨r,hr⟩,hc⟩ := h
  intro hlife
  rcases hfin r with hst|⟨u,hst⟩|⟨row,hst⟩|⟨e,hst⟩
  · rw [hst] at hr
    cases hr
  · rw [hst] at hr
    cases hr
  · exact hc (hlife.revokedForGood ⟨r,row,hst⟩)
  · rw [hst] at hr
    cases hr

/-- While no user is committed from a revoked invite and no revocation of an
invite that became a user, the lifecycle holds in every state reached. Of
calls that all came to their end it holds only then. -/
theorem invite_lifecycle_iff (lib : AuthLibrary) (row : InviteRow) (us : List User) (as : List Act)
    (w : World) (hrow : row.status=.pending)
    (hrun : Run (Step lib) {invite := row,users := us} as w) :
    (Run (guarded (Step lib) InOrder) {invite := row,users := us} as w → Lifecycle w) ∧
      (Finished w →
        (Lifecycle w ↔ Run (guarded (Step lib) InOrder) {invite := row,users := us} as w)) := by
  obtain ⟨hfacts,hiff⟩ := inOrder_of_run hrow hrun
  refine ⟨fun h => hfacts.lifecycle (hiff.mp h),fun hfin => ⟨fun hlife => ?_,fun h =>
    hfacts.lifecycle (hiff.mp h)⟩⟩
  exact hiff.mpr fun hdoom => hdoom.not_lifecycle hfin hlife

/-- A pending invite of tenant 0. -/
def deskInvite : InviteRow where
  id := 7
  tenantId := 0
  invitedByUserId := 1
  email := "ravi@example.com"
  role := .agent
  token := 8
  expiresAt := 604800
  createdAt := 0

/-- A revocation alone leaves the invite revoked and no user. -/
theorem invite_lifecycle_iff_alone :
    ∃ w,Run (Step plainLibrary) {invite := deskInvite,users := []}
        [.readPending 0 0,.revoke 0 10,.commitRevoked 0,.answerRevoked 0] w ∧
      w.invite.status=.revoked ∧ Lifecycle w := by
  have hread : Run (guarded (Step plainLibrary) InOrder) {invite := deskInvite,users := []}
      [.readPending 0 0] _ := Run.start.next ⟨rfl,trivial⟩
  have hrevoke := hread.next (l:=Act.revoke 0 10) ⟨rfl,trivial⟩
  have hcommit := hrevoke.next (l:=Act.commitRevoked 0) ⟨rfl,rfl⟩
  have hrun := hcommit.next (l:=Act.answerRevoked 0) ⟨rfl,trivial⟩
  exact ⟨_,hrun.unguard,rfl,(invite_lifecycle_iff _ _ _ _ _ rfl hrun.unguard).1 hrun⟩

/-- A revocation succeeds after the acceptance has read the invite and before
it commits the user: the revoked invite becomes a user all the same. -/
theorem revoked_invite_becomes_user :
    ∃ w,Run (Step plainLibrary) {invite := deskInvite,users := []}
        [.openInvite 0 10,.lookUpEmail 0,.readPending 1 0,.revoke 1 11,.commitRevoked 1,
          .answerRevoked 1,.insertUser 0 12 "hash" "Ravi" false 12,.commitUser 0,.markAccepted 0 13,
          .commitAccepted 0] w ∧
      w.created.length=1 ∧ w.invite.status=.accepted ∧ ¬Lifecycle w := by
  refine ⟨_,run_of_foldlM rfl,rfl,rfl,fun h => ?_⟩
  have hcreated := h.revokedForGood ⟨1,_,rfl⟩
  cases hcreated

/-! ## One call after the other -/

section Alone

variable {cfg : AuthSettings} {s : AuthState} {env : CallEnv} {token : Draw} {row : InviteRow}

theorem findInvite_facts {id : Draw} (h : s.findInvite id=some row) : row∈s.invites ∧ row.id=id :=
  ⟨List.mem_of_find?_eq_some h,by simpa using List.find?_some h⟩

theorem mem_updateInvite {f : InviteRow → InviteRow} {id : Draw} {is : List InviteRow}
    (h : row∈is) (hid : row.id=id) : f row∈updateInvite id f is := by
  have hmem := List.mem_map_of_mem (f:=fun i => if i.id=id then f i else i) h
  rwa [if_pos hid] at hmem

theorem step_readPending (lib : AuthLibrary) (tenantId : TenantId) (hst : w.stages r=.idle) :
    Step lib w (.readPending r tenantId)
      (w.set r (match checkPending w.invite tenantId with
        | .ok row => .pending row
        | .error e => .refused e)) := by
  unfold Step ofPartial step
  dsimp only
  rw [hst]
  cases checkPending w.invite tenantId <;> rfl

/-- A revocation that meets no other call does what the endpoint does. -/
theorem revokeInvite_alone {tenantId : TenantId} {inviteId : Draw} (h : s.findInvite inviteId=some row) :
    ∃ as w,Run (Step lib) {invite := row,users := s.users} as w ∧
      w.invite∈(s.applyAll (revokeInvite s env tenantId inviteId).writes).invites ∧
      ((∃ e,w.stages 0=.refused e ∧ (revokeInvite s env tenantId inviteId).reply=.error e) ∨
        (w.stages 0=.answered w.invite ∧
          (revokeInvite s env tenantId inviteId).reply=.ok (.inviteRevoked w.invite))) := by
  obtain ⟨hmem,hid⟩ := findInvite_facts h
  have hread := Run.start.next
    (step_readPending (w:={invite := row,users := s.users}) (r:=0) lib tenantId rfl)
  have houtcome : revokeInvite s env tenantId inviteId=
      match checkPending row tenantId with
      | .ok row => .ok (.inviteRevoked {row with status := .revoked,revokedAt := some env.now})
          [.revokeInvite inviteId env.now]
      | .error e => ⟨[],.error e⟩ := by
    rw [revokeInvite,h,checkPending]
    dsimp only
    split
    · rfl
    · split <;> rfl
  rw [houtcome]
  dsimp only at hread
  cases hcheck : checkPending row tenantId with
  | error e =>
    rw [hcheck] at hread
    exact ⟨_,_,hread,hmem,.inl ⟨e,set_stages_self _ _ _,rfl⟩⟩
  | ok row' =>
    obtain ⟨rfl,-⟩ := checkPending_ok hcheck
    rw [hcheck] at hread
    have hrevoke := hread.next (l:=Act.revoke 0 env.now) rfl
    have hcommit := hrevoke.next (l:=Act.commitRevoked 0) rfl
    have hanswer := hcommit.next (l:=Act.answerRevoked 0) rfl
    exact ⟨_,_,hanswer,mem_updateInvite
      (f:=fun i => {i with status := .revoked,revokedAt := some env.now}) hmem hid,
      .inr ⟨set_stages_self _ _ _,rfl⟩⟩

theorem revokeInvite_alone_desk :
    ∃ as w,Run (Step plainLibrary) {invite := deskInvite,users := []} as w ∧
      w.invite∈(({invites := [deskInvite]} : AuthState).applyAll
        (revokeInvite {invites := [deskInvite]} {now := 10} 0 7).writes).invites ∧
      ((∃ e,w.stages 0=.refused e ∧
          (revokeInvite {invites := [deskInvite]} {now := 10} 0 7).reply=.error e) ∨
        (w.stages 0=.answered w.invite ∧
          (revokeInvite {invites := [deskInvite]} {now := 10} 0 7).reply=.ok (.inviteRevoked w.invite))) :=
  revokeInvite_alone (s:={invites := [deskInvite]}) rfl

end Alone

end Voyagent.InviteRaces
