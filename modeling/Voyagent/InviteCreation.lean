import Voyagent.AuthEffects

/-!
# Inviting an address again

Three rules decide whether an address is already invited: the lookup of a
pending row, the unique index over all rows and the expiry clock. A new invite
is compared with what the clock and the status leave open.
-/

namespace Voyagent.InviteCreation

open RuntimeValues AuthAccounts AuthEndpoints AuthEffects TransitionRuns

/-- A creation that a caller with a tenant and an id may ask for. -/
structure Creation where
  env : CallEnv
  bearer : Option AccessTokenPayload
  tenantId : TenantId
  invitedBy : UserId
  email : String
  role : UserRole

def Creation.call (k : Creation) : Call := .createInvite k.bearer k.email k.role

section Invites

variable (lib : AuthLibrary) (cfg : AuthSettings) (s : AuthState) (k : Creation)

/-- The caller is an agency admin of the tenant. -/
def Creation.Admitted : Prop :=
  ∃ p,requireAgencyAdmin cfg s k.env k.bearer=.ok p ∧ p.tid=some k.tenantId ∧ p.sub=some k.invitedBy

/-- The invite is of the pair that the creation is for. -/
def Creation.samePair (i : InviteRow) : Bool :=
  decide (lib.inviteKey i.tenantId i.email=lib.inviteKey k.tenantId (lib.lower k.email))

/-- The invite is of that pair, pending and unexpired. -/
def Creation.isOpen (i : InviteRow) : Bool :=
  k.samePair lib i && decide (i.status=.pending) && decide (k.env.now < i.expiresAt)

/-- The tenant has no user with the address and no pending unexpired invite of
it. -/
structure Creation.Due : Prop where
  noUser : ∀ u∈s.users,u.tenantId=k.tenantId → u.email≠lib.lower k.email
  noOpen : ∀ i∈s.invites,k.isOpen lib i=false

/-- The creation succeeds and leaves one pending unexpired invite. -/
structure Creation.Succeeds : Prop where
  created : ∃ row token,(handle lib cfg s k.env k.call).reply=.ok (.inviteCreated row token)
  oneOpen : ((serve lib cfg s (k.env,k.call)).invites.filter (k.isOpen lib)).length=1

end Invites

/-- Whoever may create an invite that is due succeeds. -/
def Reinvites (lib : AuthLibrary) (cfg : AuthSettings) (s : AuthState) (l : CallEnv × Call) : Prop :=
  ∀ k : Creation,l=(k.env,k.call) → k.Admitted cfg s → k.Due lib s → k.Succeeds lib cfg s

/-- An invite that is due is the first one of its pair. -/
def InvitesFirst (lib : AuthLibrary) (cfg : AuthSettings) (s : AuthState) (l : CallEnv × Call) : Prop :=
  ∀ k : Creation,l=(k.env,k.call) → k.Admitted cfg s → k.Due lib s →
    ∀ i∈s.invites,k.samePair lib i=false

variable {lib : AuthLibrary} {cfg : AuthSettings} {s : AuthState} {k : Creation}
  {ls : List (CallEnv × Call)}

/-- The route of an admitted caller. -/
theorem handle_createInvite (h : k.Admitted cfg s) :
    handle lib cfg s k.env k.call=createInvite lib s k.env k.tenantId k.invitedBy k.email k.role := by
  obtain ⟨p,hp,htid,hsub⟩ := h
  change asMember (requireAgencyAdmin cfg s k.env k.bearer) ⟨401,"unauthorized"⟩
    (fun tid id => createInvite lib s k.env tid id k.email k.role)=_
  unfold asMember
  rw [hp]
  dsimp only
  rw [htid,hsub]

/-- The pending lookup only finds invites of the pair. -/
theorem samePair_of_pending {i : InviteRow}
    (h : s.findPendingForEmail lib k.tenantId k.email=some i) : i∈s.invites ∧ k.samePair lib i=true := by
  refine ⟨List.mem_of_find?_eq_some h,?_⟩
  have hfound := List.find?_some h
  obtain ⟨htenant,hemail,-⟩ := of_decide_eq_true hfound
  rw [Creation.samePair,AuthLibrary.inviteKey,AuthLibrary.inviteKey,htenant,hemail,lib.sqlLower_lower]
  exact decide_eq_true rfl

/-- The row a creation inserts. -/
def Creation.row (lib : AuthLibrary) (s : AuthState) (k : Creation) : InviteRow where
  id := s.draw 0
  tenantId := k.tenantId
  invitedByUserId := k.invitedBy
  email := lib.lower k.email
  role := k.role
  token := s.draw 1
  expiresAt := k.env.now+inviteTtl
  createdAt := k.env.now

/-- Without a row of the pair the invite is inserted. -/
theorem createInvite_first (h : ∀ i∈s.invites,k.samePair lib i=false) :
    createInvite lib s k.env k.tenantId k.invitedBy k.email k.role=
      .ok (.inviteCreated (k.row lib s) (s.draw 1)) [.insertInvite (k.row lib s)] := by
  have hpending : s.findPendingForEmail lib k.tenantId k.email=none := by
    cases hfind : s.findPendingForEmail lib k.tenantId k.email with
    | none => rfl
    | some i =>
      obtain ⟨hmem,hsame⟩ := samePair_of_pending hfind
      rw [h i hmem] at hsame
      cases hsame
  have hindex : s.invites.any (fun i => decide (lib.inviteKey i.tenantId i.email=
      lib.inviteKey k.tenantId (lib.lower k.email)))=false := by
    rw [List.any_eq_false]
    intro i hi
    rw [Bool.not_eq_true]
    exact h i hi
  rw [createInvite,hpending]
  dsimp only
  rw [hindex]
  rfl

/-- A row of the pair refuses the invite, whatever its status. -/
theorem createInvite_again {i : InviteRow} (hi : i∈s.invites) (h : k.samePair lib i=true) :
    createInvite lib s k.env k.tenantId k.invitedBy k.email k.role=
      .failed 409 "invite_already_exists" := by
  unfold createInvite
  split
  · rfl
  · exact if_pos (List.any_eq_true.mpr ⟨i,hi,h⟩)

/-- The inserted invite is pending and unexpired. -/
theorem isOpen_row : k.isOpen lib (k.row lib s)=true := by
  have hlive : k.env.now<k.env.now+inviteTtl := Int.lt_add_of_pos_right _ (by decide)
  have hsame : k.samePair lib (k.row lib s)=true := decide_eq_true rfl
  rw [Creation.isOpen,hsame,Bool.true_and,Bool.and_eq_true]
  exact ⟨decide_eq_true rfl,decide_eq_true hlive⟩

/-- An admitted caller's creation succeeds if and only if it is the first of
its pair. -/
theorem succeeds_iff (h : k.Admitted cfg s) (hdue : k.Due lib s) :
    k.Succeeds lib cfg s ↔ ∀ i∈s.invites,k.samePair lib i=false := by
  constructor
  · intro hok i hi
    obtain ⟨row,token,hreply⟩ := hok.created
    rw [handle_createInvite h] at hreply
    by_contra hsame
    rw [Bool.not_eq_false] at hsame
    rw [createInvite_again hi hsame] at hreply
    cases hreply
  · intro hfirst
    have hroute : handle lib cfg s k.env k.call=
        createInvite lib s k.env k.tenantId k.invitedBy k.email k.role := handle_createInvite h
    have hhandle := hroute.trans (createInvite_first hfirst)
    refine ⟨⟨_,_,by rw [hhandle]; rfl⟩,?_⟩
    have hinvites : (serve lib cfg s (k.env,k.call)).invites=s.invites++[k.row lib s] := by
      rw [serve,hhandle]
      rfl
    have hnone : s.invites.filter (k.isOpen lib)=[] := by
      rw [List.filter_eq_nil_iff]
      intro i hi
      rw [hdue.noOpen i hi]
      exact Bool.false_ne_true
    rw [hinvites,List.filter_append,hnone,List.nil_append,List.filter_singleton,isOpen_row]
    rfl

/-- In a run of calls of the auth endpoints every due invite can be created if
and only if each is the first of its pair. -/
theorem reinvites_iff :
    Run (guarded (Step lib cfg) (Reinvites lib cfg)) {} ls s ↔
      Run (guarded (Step lib cfg) (InvitesFirst lib cfg)) {} ls s := by
  refine Run.guarded_congr fun _ _ _ _ _ _ => forall_congr' fun k => ?_
  refine forall_congr' fun _ => forall_congr' fun hadmitted => forall_congr' fun hdue => ?_
  exact succeeds_iff hadmitted hdue

/-- An invite is created and revoked. -/
def inviteAndRevoke : List (CallEnv × Call) :=
  [({now := 0},.signUp "asha@example.com" "correct1horse" "Asha" "Travels"),
    ({now := 1},.createInvite (some firstBearer) "ravi@example.com" .agent),
    ({now := 2},.revokeInvite (some firstBearer) 5)]

/-- The invite after the revocation. -/
def secondInvite : Creation where
  env := {now := 3}
  bearer := some firstBearer
  tenantId := 0
  invitedBy := 1
  email := "ravi@example.com"
  role := .agent

/-- A revoked invite blocks the next one. -/
theorem revoked_invite_blocks :
    ∃ s,Run (Step plainLibrary plainSettings) {}
        (inviteAndRevoke++[(secondInvite.env,secondInvite.call)]) s ∧
      ¬Run (guarded (Step plainLibrary plainSettings) (Reinvites plainLibrary plainSettings)) {}
        (inviteAndRevoke++[(secondInvite.env,secondInvite.call)]) s := by
  refine ⟨_,run_serveAll _ _ _ _,fun h => ?_⟩
  have hadmitted : secondInvite.Admitted plainSettings
      (serveAll plainLibrary plainSettings {} inviteAndRevoke) := ⟨firstBearer,rfl,rfl,rfl⟩
  have hdue : secondInvite.Due plainLibrary
      (serveAll plainLibrary plainSettings {} inviteAndRevoke) :=
    ⟨by decide +kernel,by decide +kernel⟩
  have hrevoked : ∃ i∈(serveAll plainLibrary plainSettings {} inviteAndRevoke).invites,
      i.status=.revoked ∧ secondInvite.samePair plainLibrary i=true := by decide +kernel
  obtain ⟨i,hi,-,hsame⟩ := hrevoked
  have hok := condition_of_guarded _ _ h secondInvite rfl hadmitted hdue
  have hfirst := (succeeds_iff hadmitted hdue).mp hok i hi
  rw [hsame] at hfirst
  cases hfirst

end Voyagent.InviteCreation
