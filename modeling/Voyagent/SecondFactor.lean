import Voyagent.AuthEffects

/-!
# The second factor

Tokens for a password alone and the factor's state, over every run of calls of
the auth endpoints. Each endpoint that takes a password is looked at for the
user it issues a pair to.
-/

namespace Voyagent.SecondFactor

open RuntimeValues AuthAccounts AuthEndpoints AuthEffects TransitionRuns

variable {lib : AuthLibrary} {cfg : AuthSettings} {s t : AuthState} {env : CallEnv} {c : Call}
  {ls : List (CallEnv × Call)}

/-! ## Tokens for a password -/

/-- The user an answer issues an access and refresh token pair to. -/
def issuedTo (o : Outcome) : Option UserId :=
  match o.reply with
  | .ok (.signedIn pair _) => pair.access.sub
  | .ok (.refreshed pair) => pair.access.sub
  | _ => none

/-- The password a call carries. -/
def password : Call → Option String
  | .signUp _ password _ _ => some password
  | .signIn _ password => some password
  | .resetPassword _ newPassword => some newPassword
  | .acceptInvite _ password _ => some password
  | .totpDisable _ password _ => some password
  | .signInTotp _ password _ => some password
  | _ => none

/-- The TOTP code a call carries. -/
def totpCode : Call → Option String
  | .totpVerify _ code => some code
  | .totpDisable _ _ code => some code
  | .signInTotp _ _ code => some code
  | _ => none

/-- A user with the second factor gets tokens for a password only with a code
of that user in the same call. -/
def FactorEnforced (lib : AuthLibrary) (cfg : AuthSettings) (s : AuthState) (l : CallEnv × Call) :
    Prop :=
  ∀ u∈s.users,u.totpEnabled=true → issuedTo (handle lib cfg s l.1 l.2)=some u.id →
    (password l.2).isSome=true →
      ∃ code secret,totpCode l.2=some code ∧ u.totpSecret=some secret ∧
        verifyTotpCode lib l.1 secret code=true

/-- The account signs in with this password. -/
structure Accepts (lib : AuthLibrary) (u : User) (password : String) : Prop where
  hash : ∃ hash,u.passwordHash=some hash ∧ lib.verifyPassword hash password=true
  emailVerified : u.emailVerified=true

/-- The plain sign-in is called for a user with the second factor, with the
user's password. -/
def PasswordAlone (lib : AuthLibrary) (s : AuthState) (c : Call) : Prop :=
  ∃ email password u,c=.signIn email password ∧ s.findByEmail lib email=some u ∧
    Accepts lib u password ∧ (s.findTenant u.tenantId).isSome=true ∧ u.totpEnabled=true

variable {email : String} {u : User}

theorem findByEmail_mem (h : s.findByEmail lib email=some u) :
    u∈s.users := List.mem_of_find?_eq_some h

/-- The check lets in exactly the account whose password it is given. -/
theorem checkCredentials_ok {found : Option User} {password : String} :
    checkCredentials lib found password=.ok u ↔ found=some u ∧ Accepts lib u password := by
  constructor
  · intro h
    unfold checkCredentials at h
    split at h
    · cases h
    · split at h
      · cases h
      · rename_i hash hhash
        split at h
        · rename_i hpassword
          split at h
          · rename_i hverified
            cases h
            exact ⟨rfl,⟨hash,hhash,hpassword⟩,hverified⟩
          · cases h
        · cases h
  · rintro ⟨rfl,⟨hash,hhash,hpassword⟩,hverified⟩
    unfold checkCredentials
    dsimp only
    rw [hhash]
    dsimp only
    rw [if_pos hpassword,if_pos hverified]

theorem issuedTo_answerPair (u : User) (t : Tenant) (ws : List Write) (jti token : Draw) :
    issuedTo (answerPair cfg env u t ws jti token)=some u.id := rfl

variable {id : UserId}

theorem issuedTo_completeSignIn (u : User) :
    issuedTo (completeSignIn cfg s env u)=some id ↔
      (s.findTenant u.tenantId).isSome=true ∧ u.id=id := by
  unfold completeSignIn
  split
  · rename_i h
    rw [h]
    exact ⟨fun h => (by cases h),fun h => (by cases h.1)⟩
  · rename_i t h
    rw [h,issuedTo_answerPair,Option.some_inj]
    exact ⟨fun h => ⟨rfl,h⟩,fun h => h.2⟩

theorem issuedTo_signIn {password : String} :
    issuedTo (signIn lib cfg s env email password)=some id ↔
      ∃ u,s.findByEmail lib email=some u ∧ Accepts lib u password ∧
        (s.findTenant u.tenantId).isSome=true ∧ u.id=id := by
  unfold signIn
  split
  · rename_i e he
    refine ⟨fun h => (by cases h),?_⟩
    rintro ⟨u,hu,ha,-⟩
    rw [checkCredentials_ok.mpr ⟨hu,ha⟩] at he
    cases he
  · rename_i u hu
    obtain ⟨hfound,ha⟩ := checkCredentials_ok.mp hu
    rw [issuedTo_completeSignIn]
    refine ⟨fun h => ⟨u,hfound,ha,h⟩,?_⟩
    rintro ⟨v,hv,-,h⟩
    cases hfound.symm.trans hv
    exact h

/-- The sign-in with a code issues a pair only for a code of the user. -/
theorem signInTotp_verified {password code : String}
    (h : issuedTo (signInTotp lib cfg s env email password code)=some id) :
    ∃ u secret,u∈s.users ∧ u.id=id ∧ u.totpSecret=some secret ∧
      verifyTotpCode lib env secret code=true := by
  unfold signInTotp at h
  split at h
  · cases h
  · rename_i u hu
    split at h
    · rename_i secret _ hsecret
      split at h
      · rename_i hcode
        exact ⟨u,secret,findByEmail_mem (checkCredentials_ok.mp hu).1,
          (issuedTo_completeSignIn u |>.mp h).2,hsecret,hcode⟩
      · cases h
    · cases h

variable {fullName : String}

/-- A sign-up issues its pair to the user it creates. -/
theorem issuedTo_signUp {password agencyName : String}
    (h : issuedTo (signUp lib cfg s env email password fullName agencyName)=some id) :
    id=s.draw 1 := by
  unfold signUp at h
  split at h
  · cases h
  · split at h
    · cases h
    · exact (Option.some.inj h).symm

/-- So does the acceptance of an invite. -/
theorem issuedTo_acceptInvite {token : Draw} {password : String}
    (h : issuedTo (acceptInvite lib cfg s env token password fullName)=some id) : id=s.draw 1 := by
  unfold acceptInvite at h
  split at h
  · cases h
  · split at h
    · cases h
    · dsimp only at h
      split at h
      · cases h
      · exact (Option.some.inj h).symm

/-- A password reset and a disabling of the factor issue no pair. -/
theorem issuedTo_resetPassword (token : Draw) (newPassword : String) :
    issuedTo (resetPassword lib cfg s env token newPassword)=none := by
  unfold resetPassword
  dsimp only
  split <;> rfl

theorem issuedTo_totpDisable (bearer : Option AccessTokenPayload) (password code : String) :
    issuedTo (handle lib cfg s env (.totpDisable bearer password code))=none := by
  change issuedTo (asUser cfg s env bearer fun id => totpDisable lib s env id password code)=none
  unfold asUser
  split
  · rfl
  · split
    · rfl
    · rename_i id _
      change issuedTo (totpDisable lib s env id password code)=none
      unfold totpDisable
      split
      · rfl
      · split
        · rfl
        · split
          · split
            · split <;> rfl
            · rfl
          · rfl

/-- A call keeps the second factor unless it is a plain sign-in for a user who
has it. -/
theorem factorEnforced_iff (h : Sound s) :
    FactorEnforced lib cfg s (env,c) ↔ ¬PasswordAlone lib s c := by
  constructor
  · rintro henf ⟨email,pw,u,rfl,hu,ha,htenant,hon⟩
    have hissued : issuedTo (handle lib cfg s env (.signIn email pw))=some u.id :=
      issuedTo_signIn.mpr ⟨u,hu,ha,htenant,rfl⟩
    obtain ⟨code,secret,hcode,-⟩ := henf u (findByEmail_mem hu) hon hissued rfl
    cases hcode
  · intro hno u hu hon hissued hpw
    cases c with
    | signUp email pw fullName agencyName => exact absurd (issuedTo_signUp hissued) (h.not_drawn hu)
    | acceptInvite token pw fullName => exact absurd (issuedTo_acceptInvite hissued) (h.not_drawn hu)
    | signIn email pw =>
      obtain ⟨v,hv,ha,htenant,hid⟩ := issuedTo_signIn.mp hissued
      obtain rfl := h.eq_of_id (findByEmail_mem hv) hu hid
      exact absurd ⟨email,pw,v,rfl,hv,ha,htenant,hon⟩ hno
    | signInTotp email pw code =>
      obtain ⟨v,secret,hv,hid,hsecret,hok⟩ := signInTotp_verified hissued
      obtain rfl := h.eq_of_id hv hu hid
      exact ⟨code,secret,rfl,hsecret,hok⟩
    | resetPassword token newPassword =>
      exact absurd (hissued.symm.trans (issuedTo_resetPassword token newPassword)) (Option.some_ne_none _)
    | totpDisable bearer pw code =>
      exact absurd (hissued.symm.trans (issuedTo_totpDisable bearer pw code)) (Option.some_ne_none _)
    | _ => cases hpw

/-- In a run of calls of the auth endpoints every call keeps the second factor
if and only if none is a plain sign-in for a user who has it. -/
theorem factor_enforced_iff :
    Run (guarded (Step lib cfg) (FactorEnforced lib cfg)) {} ls s ↔
      Run (guarded (Step lib cfg) fun s l => ¬PasswordAlone lib s l.2) {} ls s :=
  Run.guarded_congr fun _ _ _ _ hrun _ => factorEnforced_iff (sound_of_run hrun)

/-- The second factor is set up and confirmed. -/
def enrol : List (CallEnv × Call) :=
  [({now := 3},.totpSetup (some firstBearer)),({now := 4},.totpVerify (some firstBearer) "492039")]

/-- The password of a user with the second factor buys a token pair. -/
theorem password_buys_tokens :
    ∃ s,Run (Step plainLibrary plainSettings) {}
        (openAccount++enrol++[({now := 5},.signIn "asha@example.com" "correct1horse")]) s ∧
      ¬Run (guarded (Step plainLibrary plainSettings) (FactorEnforced plainLibrary plainSettings)) {}
        (openAccount++enrol++[({now := 5},.signIn "asha@example.com" "correct1horse")]) s := by
  refine ⟨_,run_serveAll _ _ _ _,fun h => ?_⟩
  have henf := condition_of_guarded _ _ h
  have hissued : ∃ u∈(serveAll plainLibrary plainSettings {} (openAccount++enrol)).users,
      u.totpEnabled=true ∧
        issuedTo (handle plainLibrary plainSettings
          (serveAll plainLibrary plainSettings {} (openAccount++enrol)) {now := 5}
          (.signIn "asha@example.com" "correct1horse"))=some u.id := by decide +kernel
  obtain ⟨u,hu,hon,hissued⟩ := hissued
  obtain ⟨code,secret,hcode,-⟩ := henf u hu hon hissued rfl
  cases hcode

/-! ## The state of the factor -/

/-- The disable operation is called by the user, with the password and a
current code. -/
def Disables (lib : AuthLibrary) (cfg : AuthSettings) (s : AuthState) (l : CallEnv × Call)
    (u : User) : Prop :=
  ∃ bearer password code,l.2=.totpDisable bearer password code ∧ Caller cfg s l.1 bearer u.id ∧
    MayDisable lib l.1 u password code

/-- The factor of a user is enabled after the call, with the same secret. -/
def KeptBy (lib : AuthLibrary) (cfg : AuthSettings) (s : AuthState) (l : CallEnv × Call) (u : User) :
    Prop :=
  ∃ v∈(serve lib cfg s l).users,v.id=u.id ∧ v.totpEnabled=true ∧ v.totpSecret=u.totpSecret

/-- Only the disable operation touches an enabled factor. -/
def FactorKept (lib : AuthLibrary) (cfg : AuthSettings) (s : AuthState) (l : CallEnv × Call) : Prop :=
  ∀ u∈s.users,u.totpEnabled=true → Disables lib cfg s l u ∨ KeptBy lib cfg s l u

/-- The setup is called by a user whose factor is enabled. -/
def SetupWhileEnabled (cfg : AuthSettings) (s : AuthState) (l : CallEnv × Call) : Prop :=
  ∃ bearer,l.2=.totpSetup bearer ∧ ∃ u∈s.users,u.totpEnabled=true ∧ Caller cfg s l.1 bearer u.id

variable {f : User → User} {us : List User}

theorem mem_updateUser (hu : u∈us) :
    (if u.id=id then f u else u)∈updateUser id f us := List.mem_map_of_mem hu

/-- A statement that changes neither flag nor secret keeps every factor. -/
theorem updateUser_keeps (hu : u∈us)
    (hf : (f u).id=u.id ∧ (f u).totpEnabled=u.totpEnabled ∧ (f u).totpSecret=u.totpSecret) :
    ∃ v∈updateUser id f us,v.id=u.id ∧ v.totpEnabled=u.totpEnabled ∧ v.totpSecret=u.totpSecret := by
  refine ⟨_,mem_updateUser hu,?_⟩
  split
  · exact hf
  · exact ⟨rfl,rfl,rfl⟩

/-- A statement on another row keeps the factor of a user. -/
theorem updateUser_other (hu : u∈us) (hid : u.id≠id) : u∈updateUser id f us := by
  have hmem : (if u.id=id then f u else u)∈updateUser id f us := mem_updateUser hu
  rwa [if_neg hid] at hmem

/-- The setup stores a new secret for the caller. -/
theorem serve_totpSetup {bearer : Option AccessTokenPayload} (hu : u∈s.users)
    (hcaller : Caller cfg s env bearer u.id) :
    (serve lib cfg s (env,.totpSetup bearer)).users=
      usersAfter s.users (.storeTotpSecret u.id (s.draw 0)) := by
  obtain ⟨p,hp,hid⟩ := hcaller
  obtain ⟨v,hv⟩ : ∃ v,s.findById u.id=some v := by
    rw [← Option.isSome_iff_exists,AuthState.findById,List.find?_isSome]
    exact ⟨u,hu,decide_eq_true rfl⟩
  have hhandle : handle lib cfg s env (.totpSetup bearer)=
      .ok (.totpSecret (s.draw 0) v.email) [.storeTotpSecret u.id (s.draw 0)] := by
    change asUser cfg s env bearer (fun id => totpSetup s id)=_
    rw [asUser,hp]
    dsimp only
    rw [hid]
    dsimp only
    rw [totpSetup,hv]
  rw [serve_users,hhandle]
  rfl

/-- A call keeps every enabled factor unless it is a setup of a user who has
one. -/
theorem factorKept_iff (h : Sound s) :
    FactorKept lib cfg s (env,c) ↔ ¬SetupWhileEnabled cfg s (env,c) := by
  constructor
  · rintro hkept ⟨bearer,hc,u,hu,hon,hcaller⟩
    dsimp only at hc
    subst hc
    rcases hkept u hu hon with ⟨bearer',pw,code,hcall,-⟩|⟨v,hv,hid,hvon,-⟩
    · cases hcall
    · rw [serve_totpSetup hu hcaller] at hv
      obtain ⟨w,-,rfl⟩ := List.mem_map.mp hv
      dsimp only at hid hvon
      split at hvon
      · cases hvon
      · rename_i hne
        rw [if_neg hne] at hid
        exact hne hid
  · intro hno u hu hon
    have hus : (serve lib cfg s (env,c)).users=
        ((handle lib cfg s env c).writes.filter onUsers).foldl usersAfter s.users :=
      serve_users s env c
    have heffect := user_effect lib cfg s env c
    generalize (handle lib cfg s env c).writes.filter onUsers=ws at hus heffect
    have hkept : (∃ v∈ws.foldl usersAfter s.users,
        v.id=u.id ∧ v.totpEnabled=u.totpEnabled ∧ v.totpSecret=u.totpSecret) →
        KeptBy lib cfg s (env,c) u := by
      rintro ⟨v,hv,hid,hvon,hsecret⟩
      exact ⟨v,by rw [hus]; exact hv,hid,hvon.trans hon,hsecret⟩
    cases heffect with
    | none => exact .inr (hkept ⟨u,hu,rfl,rfl,rfl⟩)
    | created _ v _ => exact .inr (hkept ⟨u,List.mem_append_left _ hu,rfl,rfl,rfl⟩)
    | verified token id _ | password token newPassword id hash =>
      exact .inr (hkept (updateUser_keeps hu ⟨rfl,rfl,rfl⟩))
    | profile bearer fullName email id name changed =>
      exact .inr (hkept (updateUser_keeps hu ⟨rfl,rfl,rfl⟩))
    | totpSetup bearer id secret hcaller =>
      have hne : u.id≠id := fun hid => hno ⟨bearer,rfl,u,hu,hon,by rw [hid]; exact hcaller⟩
      exact .inr (hkept ⟨u,updateUser_other hu hne,rfl,rfl,rfl⟩)
    | totpVerify bearer code id =>
      exact .inr (hkept (updateUser_keeps hu ⟨rfl,hon.symm,rfl⟩))
    | totpDisable bearer pw code v hcaller hv hmay =>
      by_cases hid : u.id=v.id
      · obtain rfl := h.eq_of_id hu hv hid
        exact .inl ⟨bearer,pw,code,rfl,hcaller,hmay⟩
      · exact .inr (hkept ⟨u,updateUser_other hu hid,rfl,rfl,rfl⟩)

/-- In a run of calls of the auth endpoints an enabled factor is touched by
the disable operation only, if and only if no user with an enabled factor
calls the setup. -/
theorem factor_kept_iff :
    Run (guarded (Step lib cfg) (FactorKept lib cfg)) {} ls s ↔
      Run (guarded (Step lib cfg) fun s l => ¬SetupWhileEnabled cfg s l) {} ls s :=
  Run.guarded_congr fun _ _ _ _ hrun _ => factorKept_iff (sound_of_run hrun)

/-- An access token alone turns the factor off. -/
theorem setup_turns_factor_off :
    ∃ s,Run (Step plainLibrary plainSettings) {}
        (openAccount++enrol++[({now := 5},.totpSetup (some firstBearer))]) s ∧
      ¬Run (guarded (Step plainLibrary plainSettings) (FactorKept plainLibrary plainSettings)) {}
        (openAccount++enrol++[({now := 5},.totpSetup (some firstBearer))]) s := by
  refine ⟨_,run_serveAll _ _ _ _,fun h => ?_⟩
  have hkept := condition_of_guarded _ _ h
  have hon : ∃ u∈(serveAll plainLibrary plainSettings {} (openAccount++enrol)).users,
      u.totpEnabled=true := by decide +kernel
  have hoff : ∀ v∈(serve plainLibrary plainSettings
      (serveAll plainLibrary plainSettings {} (openAccount++enrol))
      ({now := 5},.totpSetup (some firstBearer))).users,v.totpEnabled=false := by decide +kernel
  obtain ⟨u,hu,hon⟩ := hon
  rcases hkept u hu hon with ⟨_,_,_,hcall,-⟩|⟨v,hv,-,hvon,-⟩
  · cases hcall
  · exact absurd ((hoff v hv).symm.trans hvon) Bool.false_ne_true

end Voyagent.SecondFactor
