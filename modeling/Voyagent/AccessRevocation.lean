import Voyagent.AuthEffects

/-!
# Signed-out access tokens

An access token verifies until it expires, so a sign-out puts its `jti` on the
denylist, which every endpoint asks before it acts for a caller. The denylist
is followed over whole runs: it holds what sign-outs put there and nothing else.
-/

namespace Voyagent.AccessRevocation

open RuntimeValues KeyedMap RefreshTokens AuthAccounts AuthEndpoints AuthEffects TransitionRuns

variable {lib : AuthLibrary} {cfg : AuthSettings} {s : AuthState} {env : CallEnv} {c : Call}

/-- A write of the denylist. -/
def denies : Write → Bool
  | .denyJti _ _ => true
  | _ => false

/-- The token a call puts on the denylist. -/
def denied (cfg : AuthSettings) (l : CallEnv × Call) : Option AccessTokenPayload :=
  match l.2 with
  | .signOut bearer _ => if cfg.redis && l.1.denylistDown then none else bearer
  | _ => none

/-- The denylist with one more token. -/
def denylistAfter (denylist : Draw → Option Time) : Option AccessTokenPayload → Draw → Option Time
  | some p => Function.update denylist p.jti (some p.exp)
  | none => denylist

/-- The call is a sign-out that puts the `jti` on the denylist. -/
def Denies (cfg : AuthSettings) (jti : Draw) (l : CallEnv × Call) : Prop :=
  ∃ p,denied cfg l=some p ∧ p.jti=jti

/-- The token whose caller an endpoint acts for. A sign-out asks for none. -/
def actsFor : Call → Option AccessTokenPayload
  | .me bearer | .sendVerificationEmail bearer | .updateProfile bearer _ _
  | .createInvite bearer _ _ | .listInvites bearer _ | .revokeInvite bearer _ | .totpSetup bearer
  | .totpVerify bearer _ | .totpDisable bearer _ _ | .createApiKey bearer _ _ | .listApiKeys bearer
  | .revokeApiKey bearer _ => bearer
  | _ => none

/-! ## What is put on the denylist -/

/-- Nothing is put on the denylist. -/
def Quiet (o : Outcome) : Prop := o.writes.filter denies=[]

theorem quiet_answerPair (u : User) (t : Tenant) {ws : List Write} (h : ws.filter denies=[])
    (jti token : Draw) : Quiet (answerPair cfg env u t ws jti token) :=
  (List.filter_append ..).trans (by rw [h]; rfl)

theorem quiet_completeSignIn (u : User) : Quiet (completeSignIn cfg s env u) := by
  unfold completeSignIn
  split
  · rfl
  · exact quiet_answerPair _ _ rfl _ _

/-- Only a sign-out writes to the denylist. -/
theorem quiet_handle (hc : ∀ bearer token,c≠.signOut bearer token) :
    Quiet (handle lib cfg s env c) := by
  cases c with
  | signOut bearer token => exact absurd rfl (hc bearer token)
  | signUp email password fullName agencyName =>
    simp only [handle,signUp]
    split
    · rfl
    · split
      · rfl
      · exact quiet_answerPair _ _ rfl _ _
  | signIn email password =>
    simp only [handle,signIn]
    split
    · rfl
    · exact quiet_completeSignIn _
  | refresh | me | lookupInvite | requestPasswordReset =>
    simp only [handle,AuthEndpoints.refresh,me,lookupInvite,requestPasswordReset]
    split
    · rfl
    · split <;> rfl
  | sendVerificationEmail =>
    simp only [handle,sendVerificationEmail]
    split
    · rfl
    · split
      · rfl
      · split <;> rfl
  | verifyEmail | resetPassword =>
    simp only [handle,verifyEmail,resetPassword]
    split <;> split <;> rfl
  | updateProfile bearer fullName email =>
    simp only [handle,updateProfile]
    split
    · rfl
    · split
      · rfl
      · split
        · rfl
        · split
          · rfl
          · split <;> split <;> rfl
  | createInvite | listInvites | revokeInvite | createApiKey | listApiKeys | revokeApiKey =>
    simp only [handle,asMember,asTenant]
    split
    · rfl
    · split
      · simp only [createInvite,listInvites,revokeInvite,createApiKey,listApiKeys,revokeApiKey]
        grind [Quiet,Outcome.failed,Outcome.ok,denies]
      · rfl
  | acceptInvite token password fullName =>
    simp only [handle,acceptInvite]
    split
    · rfl
    · split
      · rfl
      · split
        · rfl
        · exact quiet_answerPair _ _ rfl _ _
  | totpSetup | totpVerify | totpDisable =>
    simp only [handle,asUser]
    split
    · rfl
    · split
      · rfl
      · simp only [totpSetup,totpVerify,totpDisable]
        grind [Quiet,Outcome.failed,Outcome.ok,denies]
  | signInTotp email password totpCode =>
    simp only [handle,signInTotp]
    split
    · rfl
    · split
      · split
        · exact quiet_completeSignIn _
        · rfl
      · rfl

/-- Other writes leave the denylist as it is. -/
theorem revokedJtis_of_quiet (s : AuthState) {ws : List Write} (h : ws.filter denies=[]) :
    (s.applyAll ws).revokedJtis=s.revokedJtis := by
  induction ws generalizing s with
  | nil => rfl
  | cons w ws ih =>
    have hnone := List.filter_eq_nil_iff.mp h
    have hrest := ih (s.apply w) (List.filter_eq_nil_iff.mpr fun v hv => hnone v (.tail _ hv))
    refine hrest.trans ?_
    cases w with
    | denyJti => exact absurd rfl (hnone _ (.head _))
    | _ => rfl

/-- The denylist after a call. -/
theorem revokedJtis_serve (s : AuthState) (l : CallEnv × Call) :
    (serve lib cfg s l).revokedJtis=denylistAfter s.revokedJtis (denied cfg l) := by
  obtain ⟨env,c⟩ := l
  have hother : (∀ bearer token,c≠.signOut bearer token) →
      (serve lib cfg s (env,c)).revokedJtis=s.revokedJtis := fun hc =>
    revokedJtis_of_quiet s (@quiet_handle lib cfg s env c hc)
  cases c with
  | signOut bearer token =>
    change (s.applyAll (signOut cfg env bearer token).writes).revokedJtis=
      denylistAfter s.revokedJtis (if _ then none else bearer)
    unfold signOut
    cases cfg.redis && env.denylistDown <;> cases token <;> cases bearer <;> rfl
  | _ => exact hother fun _ _ h => by cases h

/-- The denylist holds a `jti` exactly when a sign-out put it there. -/
theorem revokedJtis_of_run {calls : List (CallEnv × Call)} {jti : Draw} {exp : Time}
    (hrun : Run (Step lib cfg) {} calls s)
    (hminted : ∀ l∈calls,∀ q∈denied cfg l,q.jti=jti → q.exp=exp) (e : Time) :
    s.revokedJtis jti=some e ↔ e=exp ∧ ∃ l∈calls,Denies cfg jti l := by
  induction hrun with
  | start => exact iff_of_false nofun fun h => nomatch h.2.choose_spec.1
  | @next calls t u l hrun hs ih =>
    have hbefore := ih fun l' hl' => hminted l' (List.mem_append_left _ hl')
    have hl : l∈calls++[l] := List.mem_append_right _ (.head _)
    rw [show u=serve lib cfg t l from hs,revokedJtis_serve]
    simp only [List.mem_append,List.mem_singleton,or_and_right,exists_or,exists_eq_left]
    cases hdenied : denied cfg l with
    | none =>
      have hquiet : ¬Denies cfg jti l := fun ⟨p,hp,_⟩ => by rw [hdenied] at hp; cases hp
      rw [or_iff_left hquiet]
      exact hbefore
    | some p =>
      by_cases hjti : p.jti=jti
      · have hexp := hminted l hl p hdenied hjti
        have hdenies : Denies cfg jti l := ⟨p,hdenied,hjti⟩
        rw [and_iff_left (.inr hdenies),denylistAfter,hjti,Function.update_self,Option.some_inj,hexp,
          eq_comm]
      · have hother : ¬Denies cfg jti l := fun ⟨q,hq,hsame⟩ => by
          rw [hdenied] at hq
          cases hq
          exact hjti hsame
        rw [or_iff_left hother,denylistAfter,Function.update_of_ne (Ne.symm hjti)]
        exact hbefore

/-! ## What a signed-out token is good for -/

/-- Where the caller is refused, so is the call. -/
theorem handle_of_refused {p : AccessTokenPayload} (hc : actsFor c=some p)
    (h : currentPrincipal cfg s env (some p)=.error ⟨401,"unauthorized"⟩) :
    handle lib cfg s env c=.failed 401 "unauthorized" := by
  cases c <;> cases hc <;>
    simp only [handle,me,sendVerificationEmail,updateProfile,asUser,asMember,asTenant,
      requireAgencyAdmin,h] <;> rfl

/-- A caller who is let in is not told the call is unauthorized: a revocation
of an invite is forbidden, does not find the invite, or goes on. -/
theorem revokeInvite_of_admitted {p : AccessTokenPayload}
    (h : currentPrincipal cfg s env (some p)=.ok p) :
    handle lib cfg s env (.revokeInvite (some p) 0)≠.failed 401 "unauthorized" := by
  simp only [handle,asTenant,requireAgencyAdmin,h]
  grind [revokeInvite,Outcome.failed,Outcome.ok]

/-- While the denylist answers, no endpoint acts for an access token that has
not expired if and only if a sign-out with the token has reached the denylist,
whatever calls came between. -/
theorem refused_iff_signed_out {calls : List (CallEnv × Call)} {p : AccessTokenPayload}
    (hrun : Run (Step lib cfg) {} calls s)
    (hminted : ∀ l∈calls,∀ q∈denied cfg l,q.jti=p.jti → q.exp=p.exp)
    (hlive : env.now<p.exp) (hup : (cfg.redis && env.denylistDown)=false) :
    (∀ c,actsFor c=some p → handle lib cfg s env c=.failed 401 "unauthorized") ↔
      ∃ l∈calls,Denies cfg p.jti l := by
  have hheld := revokedJtis_of_run hrun hminted p.exp
  constructor
  · intro hrefused
    by_contra hnone
    have hrevoked : isRevoked cfg s env p.jti=false := by
      cases hget : s.revokedJtis p.jti with
      | none => simp [isRevoked,hget]
      | some e => exact absurd ((revokedJtis_of_run hrun hminted e).mp hget).2 hnone
    have hlet : currentPrincipal cfg s env (some p)=.ok p := by simp [currentPrincipal,hrevoked]
    exact revokeInvite_of_admitted hlet (hrefused _ rfl)
  · intro hdenied c hc
    have hget := hheld.mpr ⟨rfl,hdenied⟩
    exact handle_of_refused hc (by simp [currentPrincipal,isRevoked,hup,hget,hlive])

/-- The owner signs out, and the token is refused ten seconds later. -/
theorem refused_after_sign_out :
    handle plainLibrary plainSettings (serveAll plainLibrary plainSettings {}
      (openAccount++[({now := 5},.signOut (some firstBearer) none)])) {now := 15}
        (.me (some firstBearer))=.failed 401 "unauthorized" := by
  refine (refused_iff_signed_out (run_serveAll plainLibrary plainSettings {} _) ?_ ?_ rfl).mpr ?_ _ rfl
  · decide
  · decide
  · exact ⟨_,List.mem_append_right _ (.head _),firstBearer,rfl,rfl⟩

end Voyagent.AccessRevocation
