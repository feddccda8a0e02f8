import Mathlib.Data.List.Nodup
import Voyagent.AuthEndpoints

/-!
# What a call of the auth endpoints does to the users

Every call executes at most one statement on the user rows. The statement and
the circumstances it is executed in are listed once; invariants of the users
are proved from the list.
-/

namespace Voyagent.AuthEffects

open RuntimeValues KeyedMap RefreshTokens AuthAccounts AuthEndpoints TransitionRuns

variable {lib : AuthLibrary} {cfg : AuthSettings} {s t : AuthState} {env : CallEnv} {c : Call}

/-- The statements on user rows. -/
def onUsers : Write → Bool
  | .insertUser _ => true
  | .markEmailVerified _ => true
  | .updateProfile _ _ _ => true
  | .updatePasswordHash _ _ => true
  | .storeTotpSecret _ _ => true
  | .enableTotp _ => true
  | .clearTotp _ => true
  | _ => false

/-- A caller who is let in under an id. -/
def Caller (cfg : AuthSettings) (s : AuthState) (env : CallEnv) (bearer : Option AccessTokenPayload)
    (id : UserId) : Prop :=
  ∃ p,currentPrincipal cfg s env bearer=.ok p ∧ p.sub=some id

/-- A user row as a call creates it. -/
structure NewUser (cfg : AuthSettings) (s : AuthState) (u : User) : Prop where
  id : u.id=s.draw 1
  emailVerified : u.emailVerified=cfg.skipEmailVerification
  totpEnabled : u.totpEnabled=false

/-- The call may disable the second factor of user `u`. -/
def MayDisable (lib : AuthLibrary) (env : CallEnv) (u : User) (password code : String) : Prop :=
  (∃ hash,u.passwordHash=some hash ∧ lib.verifyPassword hash password=true) ∧
  ∃ secret,u.totpSecret=some secret ∧ verifyTotpCode lib env secret code=true

/-- The statement a call executes on the users, and when it does. -/
inductive UserEffect (lib : AuthLibrary) (cfg : AuthSettings) (s : AuthState) (env : CallEnv) :
    Call → List Write → Prop
  | none (c : Call) : UserEffect lib cfg s env c []
  | created (c : Call) (u : User) (h : NewUser cfg s u) : UserEffect lib cfg s env c [.insertUser u]
  | verified (token : Draw) (id : UserId)
      (h : (takeToken cfg env (s.verificationTokens token)).1=some id) :
      UserEffect lib cfg s env (.verifyEmail token) [.markEmailVerified id]
  | profile (bearer : Option AccessTokenPayload) (fullName email : Option String) (id : UserId)
      (name changed : Option String) :
      UserEffect lib cfg s env (.updateProfile bearer fullName email)
        [.updateProfile id name changed]
  | password (token : Draw) (newPassword : String) (id : UserId) (hash : String) :
      UserEffect lib cfg s env (.resetPassword token newPassword) [.updatePasswordHash id hash]
  | totpSetup (bearer : Option AccessTokenPayload) (id : UserId) (secret : Draw)
      (h : Caller cfg s env bearer id) :
      UserEffect lib cfg s env (.totpSetup bearer) [.storeTotpSecret id secret]
  | totpVerify (bearer : Option AccessTokenPayload) (code : String) (id : UserId) :
      UserEffect lib cfg s env (.totpVerify bearer code) [.enableTotp id]
  | totpDisable (bearer : Option AccessTokenPayload) (password code : String) (u : User)
      (h : Caller cfg s env bearer u.id) (hu : u∈s.users) (hmay : MayDisable lib env u password code) :
      UserEffect lib cfg s env (.totpDisable bearer password code) [.clearTotp u.id]

theorem applyAll_users (s : AuthState) (ws : List Write) :
    (s.applyAll ws).users=(ws.filter onUsers).foldl usersAfter s.users := by
  induction ws generalizing s with
  | nil => rfl
  | cons w ws ih =>
    rw [AuthState.applyAll,List.foldl_cons]
    change ((s.apply w).applyAll ws).users=_
    rw [ih]
    cases w <;> rfl

@[simp] theorem serve_users (s : AuthState) (env : CallEnv) (c : Call) :
    (serve lib cfg s (env,c)).users=
      ((handle lib cfg s env c).writes.filter onUsers).foldl usersAfter s.users :=
  applyAll_users s _

variable {id : UserId} {u : User}

theorem findById_facts (h : s.findById id=some u) : u∈s.users ∧ u.id=id :=
  ⟨List.mem_of_find?_eq_some h,by simpa using List.find?_some h⟩

/-- Issuing a pair writes no user. -/
@[simp] theorem answerPair_onUsers (u : User) (t : Tenant) (ws : List Write) (jti token : Draw) :
    (answerPair cfg env u t ws jti token).writes.filter onUsers=ws.filter onUsers := by
  simp [answerPair,Outcome.ok,issuePairForUser,onUsers]

@[simp] theorem completeSignIn_onUsers (u : User) :
    (completeSignIn cfg s env u).writes.filter onUsers=[] := by
  unfold completeSignIn
  split
  · rfl
  · exact answerPair_onUsers ..

/-- A route for callers with an id does what its function does for the caller. -/
theorem asUser_effect {bearer : Option AccessTokenPayload} {f : UserId → Outcome}
    (h : ∀ id,Caller cfg s env bearer id → UserEffect lib cfg s env c ((f id).writes.filter onUsers)) :
    UserEffect lib cfg s env c ((asUser cfg s env bearer f).writes.filter onUsers) := by
  unfold asUser
  split
  · exact .none c
  · rename_i p hp
    split
    · exact .none c
    · rename_i id hid
      exact h id ⟨p,hp,hid⟩

variable {e : HttpError} {principal : Except HttpError AccessTokenPayload}

theorem asMember_onUsers {f : TenantId → UserId → Outcome}
    (h : ∀ tid id,(f tid id).writes.filter onUsers=[]) :
    (asMember principal e f).writes.filter onUsers=[] := by
  unfold asMember
  split
  · rfl
  · split
    · exact h _ _
    · rfl

theorem asTenant_onUsers {f : TenantId → Outcome} (h : ∀ tid,(f tid).writes.filter onUsers=[]) :
    (asTenant principal e f).writes.filter onUsers=[] := by
  unfold asTenant
  split
  · rfl
  · split
    · exact h _
    · rfl

/-! ## The endpoints that write no user -/

theorem signIn_onUsers (email password : String) :
    (signIn lib cfg s env email password).writes.filter onUsers=[] := by
  unfold signIn
  split
  · rfl
  · exact completeSignIn_onUsers _

theorem signInTotp_onUsers (email password totpCode : String) :
    (signInTotp lib cfg s env email password totpCode).writes.filter onUsers=[] := by
  unfold signInTotp
  split
  · rfl
  · split
    · split
      · exact completeSignIn_onUsers _
      · rfl
    · rfl

variable (tenantId : TenantId) (token : Draw) (bearer : Option AccessTokenPayload)

theorem refresh_onUsers : (refresh cfg s env token).writes.filter onUsers=[] := by
  unfold refresh
  split
  · rfl
  · split <;> rfl

theorem signOut_onUsers (refreshToken : Option Draw) :
    (signOut cfg env bearer refreshToken).writes.filter onUsers=[] := by
  cases refreshToken <;> cases bearer <;> simp [signOut,Outcome.ok,onUsers]

theorem me_onUsers :
    (me cfg s env bearer).writes.filter onUsers=[] := by
  unfold me
  split
  · rfl
  · split <;> rfl

theorem sendVerificationEmail_onUsers :
    (sendVerificationEmail cfg s env bearer).writes.filter onUsers=[] := by
  unfold sendVerificationEmail
  split
  · rfl
  · split
    · rfl
    · split <;> rfl

theorem requestPasswordReset_onUsers (email : String) :
    (requestPasswordReset lib cfg s env email).writes.filter onUsers=[] := by
  unfold requestPasswordReset
  split
  · rfl
  · split <;> rfl

theorem createInvite_onUsers (invitedBy : UserId) (email : String) (role : UserRole) :
    (createInvite lib s env tenantId invitedBy email role).writes.filter onUsers=[] := by
  unfold createInvite
  split
  · rfl
  · dsimp only
    split <;> rfl

theorem revokeInvite_onUsers (inviteId : Draw) :
    (revokeInvite s env tenantId inviteId).writes.filter onUsers=[] := by
  unfold revokeInvite
  split
  · rfl
  · split
    · rfl
    · split <;> rfl

theorem lookupInvite_onUsers : (lookupInvite s env token).writes.filter onUsers=[] := by
  unfold lookupInvite
  split
  · rfl
  · split <;> rfl

theorem revokeApiKey_onUsers (keyId : Draw) :
    (revokeApiKey s env tenantId keyId).writes.filter onUsers=[] := by
  unfold revokeApiKey
  split
  · rfl
  · dsimp only [Outcome.ok]
    split <;> rfl

/-! ## One lemma for each endpoint that writes users -/

theorem signUp_effect (email password fullName agencyName : String) :
    UserEffect lib cfg s env c
      ((signUp lib cfg s env email password fullName agencyName).writes.filter onUsers) := by
  unfold signUp
  split
  · exact .none c
  · split
    · exact .none c
    · rw [answerPair_onUsers]
      exact .created c _ ⟨rfl,rfl,rfl⟩

theorem acceptInvite_effect (password fullName : String) :
    UserEffect lib cfg s env c
      ((acceptInvite lib cfg s env token password fullName).writes.filter onUsers) := by
  unfold acceptInvite
  split
  · exact .none c
  · split
    · exact .none c
    · dsimp only
      split
      · exact .created c _ ⟨rfl,rfl,rfl⟩
      · rw [answerPair_onUsers]
        exact .created c _ ⟨rfl,rfl,rfl⟩

theorem verifyEmail_effect :
    UserEffect lib cfg s env (.verifyEmail token)
      ((verifyEmail cfg s env token).writes.filter onUsers) := by
  unfold verifyEmail
  dsimp only
  split
  · split <;> exact .none _
  · rename_i id hid
    split <;> exact .verified token id hid

theorem updateProfile_effect (fullName email : Option String) :
    UserEffect lib cfg s env (.updateProfile bearer fullName email)
      ((updateProfile lib cfg s env bearer fullName email).writes.filter onUsers) := by
  unfold updateProfile
  split
  · exact .none _
  · split
    · exact .none _
    · split
      · exact .none _
      · dsimp only
        split
        · exact .none _
        · split
          · split
            · exact .profile bearer fullName email _ _ _
            · exact .none _
          · dsimp only [Outcome.ok]
            split
            · exact .profile bearer fullName email _ _ _
            · exact .none _

theorem resetPassword_effect (newPassword : String) :
    UserEffect lib cfg s env (.resetPassword token newPassword)
      ((resetPassword lib cfg s env token newPassword).writes.filter onUsers) := by
  unfold resetPassword
  dsimp only
  split
  · split <;> exact .none _
  · split <;> exact .password token newPassword _ _

theorem totpDisable_effect (password code : String) (h : Caller cfg s env bearer id) :
    UserEffect lib cfg s env (.totpDisable bearer password code)
      ((totpDisable lib s env id password code).writes.filter onUsers) := by
  unfold totpDisable
  split
  · exact .none _
  · rename_i u hu
    obtain ⟨hmem,rfl⟩ := findById_facts hu
    split
    · exact .none _
    · rename_i hash hhash
      split
      · rename_i hpw
        split
        · rename_i secret _ hsecret
          split
          · rename_i hcode
            exact .totpDisable bearer password code u h hmem ⟨⟨hash,hhash,hpw⟩,secret,hsecret,hcode⟩
          · exact .none _
        · exact .none _
      · exact .none _

theorem totpSetup_effect (h : Caller cfg s env bearer id) :
    UserEffect lib cfg s env (.totpSetup bearer) ((totpSetup s id).writes.filter onUsers) := by
  unfold totpSetup
  split
  · exact .none _
  · exact .totpSetup bearer id _ h

theorem totpVerify_effect (code : String) (id : UserId) :
    UserEffect lib cfg s env (.totpVerify bearer code)
      ((totpVerify lib s env id code).writes.filter onUsers) := by
  unfold totpVerify
  split
  · exact .none _
  · split
    · exact .none _
    · split
      · exact .none _
      · split
        · exact .totpVerify bearer code id
        · exact .none _

/-- What a call does to the users. -/
theorem user_effect (lib : AuthLibrary) (cfg : AuthSettings) (s : AuthState) (env : CallEnv)
    (c : Call) :
    UserEffect lib cfg s env c ((handle lib cfg s env c).writes.filter onUsers) := by
  have hnone : ∀ {ws : List Write},ws.filter onUsers=[] →
      UserEffect lib cfg s env c (ws.filter onUsers) := fun h => by rw [h]; exact .none c
  cases c with
  | signUp email password fullName agencyName => exact signUp_effect ..
  | signIn email password => exact hnone (signIn_onUsers ..)
  | refresh token => exact hnone (refresh_onUsers token)
  | signOut bearer refreshToken => exact hnone (signOut_onUsers ..)
  | me bearer => exact hnone (me_onUsers bearer)
  | sendVerificationEmail bearer => exact hnone (sendVerificationEmail_onUsers bearer)
  | verifyEmail token => exact verifyEmail_effect token
  | updateProfile bearer fullName email => exact updateProfile_effect ..
  | requestPasswordReset email => exact hnone (requestPasswordReset_onUsers email)
  | resetPassword token newPassword => exact resetPassword_effect ..
  | createInvite bearer email role =>
    exact hnone (asMember_onUsers fun tid id => createInvite_onUsers tid id email role)
  | listInvites bearer status | listApiKeys bearer => exact hnone (asTenant_onUsers fun _ => rfl)
  | revokeInvite bearer inviteId =>
    exact hnone (asTenant_onUsers fun tid => revokeInvite_onUsers tid inviteId)
  | lookupInvite token => exact hnone (lookupInvite_onUsers token)
  | acceptInvite token password fullName => exact acceptInvite_effect ..
  | totpSetup bearer => exact asUser_effect fun id hid => totpSetup_effect bearer hid
  | totpVerify bearer code => exact asUser_effect fun id _ => totpVerify_effect bearer code id
  | totpDisable bearer password code =>
    exact asUser_effect fun id hid => totpDisable_effect bearer password code hid
  | signInTotp email password totpCode => exact hnone (signInTotp_onUsers ..)
  | createApiKey bearer name expiresInDays => exact hnone (asMember_onUsers fun _ _ => rfl)
  | revokeApiKey bearer keyId =>
    exact hnone (asTenant_onUsers fun tid => revokeApiKey_onUsers tid keyId)

/-! ## User rows over runs -/

/-- User ids are drawn and differ. -/
structure Sound (s : AuthState) : Prop where
  ids : (s.users.map User.id).Nodup
  drawn : ∀ u∈s.users,u.id<s.drawn

theorem sound_start : Sound {} := ⟨List.nodup_nil,fun _ h => absurd h List.not_mem_nil⟩

theorem Sound.eq_of_id (h : Sound s) {v : User} (hu : u∈s.users) (hv : v∈s.users) (hid : u.id=v.id) :
    u=v := List.inj_on_of_nodup_map h.ids hu hv hid

theorem Sound.not_drawn (h : Sound s) (hu : u∈s.users) : u.id≠s.draw 1 :=
  Nat.ne_of_lt (Nat.lt_succ_of_lt (h.drawn u hu))

theorem map_updateUser_id {f : User → User} (hf : ∀ u,(f u).id=u.id) (id : UserId)
    (us : List User) : (updateUser id f us).map User.id=us.map User.id := by
  rw [updateUser,List.map_map]
  refine List.map_congr_left fun u _ => ?_
  dsimp only [Function.comp]
  split
  · exact hf u
  · rfl

/-- Only an insertion changes the ids of the users. -/
theorem usersAfter_ids (us : List User) {w : Write} (hw : ∀ u,w≠.insertUser u) :
    (usersAfter us w).map User.id=us.map User.id := by
  cases w with
  | insertUser u => exact absurd rfl (hw u)
  | markEmailVerified id =>
    exact map_updateUser_id (f:=fun u => {u with emailVerified := true}) (fun _ => rfl) id us
  | updateProfile id name email =>
    exact map_updateUser_id (f:=fun u => u.withProfile name email) (fun _ => rfl) id us
  | updatePasswordHash id hash =>
    exact map_updateUser_id (f:=fun u => {u with passwordHash := some hash}) (fun _ => rfl) id us
  | storeTotpSecret id secret =>
    exact map_updateUser_id (f:=fun u => {u with totpSecret := some secret,totpEnabled := false})
      (fun _ => rfl) id us
  | enableTotp id =>
    exact map_updateUser_id (f:=fun u => {u with totpEnabled := true}) (fun _ => rfl) id us
  | clearTotp id =>
    exact map_updateUser_id (f:=fun u => {u with totpEnabled := false,totpSecret := none})
      (fun _ => rfl) id us
  | _ => rfl

theorem Sound.sameIds (h : Sound s) (hids : t.users.map User.id=s.users.map User.id)
    (hdrawn : s.drawn≤t.drawn) : Sound t := by
  refine ⟨by rw [hids]; exact h.ids,fun u hu => ?_⟩
  have hmem : u.id∈s.users.map User.id := by
    rw [← hids]
    exact List.mem_map_of_mem hu
  obtain ⟨v,hv,hid⟩ := List.mem_map.mp hmem
  rw [← hid]
  exact Nat.lt_of_lt_of_le (h.drawn v hv) hdrawn

theorem Sound.insertUser (h : Sound s) (hid : u.id=s.draw 1) (hus : t.users=s.users++[u])
    (hdrawn : t.drawn=s.drawn+drawsPerCall) : Sound t := by
  refine ⟨?_,fun v hv => ?_⟩
  · rw [hus,List.map_append]
    refine List.nodup_append.mpr ⟨h.ids,by simp,fun i hi j hj => ?_⟩
    obtain ⟨v,hv,rfl⟩ := List.mem_map.mp hi
    rw [List.map_singleton,List.mem_singleton] at hj
    rw [hj,hid]
    exact h.not_drawn hv
  · rw [hdrawn]
    rw [hus] at hv
    rcases List.mem_append.mp hv with hv|hv
    · exact Nat.lt_of_lt_of_le (h.drawn v hv) (Nat.le_add_right _ _)
    · rw [List.mem_singleton.mp hv,hid]
      exact Nat.add_lt_add_left (by decide) _

theorem Sound.serve (h : Sound s) (env : CallEnv) (c : Call) : Sound (serve lib cfg s (env,c)) := by
  have hle : s.drawn≤(AuthEndpoints.serve lib cfg s (env,c)).drawn := Nat.le_add_right _ _
  have hus : (AuthEndpoints.serve lib cfg s (env,c)).users=
      ((handle lib cfg s env c).writes.filter onUsers).foldl usersAfter s.users := serve_users s env c
  have heffect := user_effect lib cfg s env c
  generalize (handle lib cfg s env c).writes.filter onUsers=ws at hus heffect
  have hkept : ∀ {w : Write},ws=[w] → (∀ u,w≠.insertUser u) →
      Sound (AuthEndpoints.serve lib cfg s (env,c)) := by
    intro w hw hnew
    refine h.sameIds ?_ hle
    rw [hus,hw]
    exact usersAfter_ids s.users hnew
  cases heffect with
  | none => exact h.sameIds (congrArg (List.map User.id) hus) hle
  | created _ u hu => exact h.insertUser hu.id hus rfl
  | _ => exact hkept rfl (fun u h => by cases h)

theorem sound_of_run {ls : List (CallEnv × Call)} (hrun : Run (Step lib cfg) {} ls s) : Sound s :=
  hrun.invariant sound_start fun _ l _ h hs => by rw [hs]; exact h.serve l.1 l.2

/-! ## A concrete service -/

section Run

variable (lib : AuthLibrary) (cfg : AuthSettings)

/-- The state after calls. -/
def serveAll (s : AuthState) (ls : List (CallEnv × Call)) : AuthState := ls.foldl (serve lib cfg) s

theorem step_deterministic : Deterministic (Step lib cfg) := fun _ _ _ _ h h' => h.trans h'.symm

theorem run_serveAll (s : AuthState) (ls : List (CallEnv × Call)) :
    Run (Step lib cfg) s ls (serveAll lib cfg s ls) :=
  @run_foldl _ _ (Step lib cfg) _ (fun _ _ => rfl) s ls

/-- A run that meets a condition met it before its last call. -/
theorem condition_of_guarded {C : AuthState → CallEnv × Call → Prop} {ls : List (CallEnv × Call)}
    {l : CallEnv × Call} (h : Run (guarded (Step lib cfg) C) s (ls++[l]) t) :
    C (serveAll lib cfg s ls) l := by
  obtain ⟨u,hu,-,hc⟩ := h.last
  rwa [hu.unguard.unique (step_deterministic lib cfg) (run_serveAll lib cfg s ls)] at hc

end Run

/-- Passwords are kept as they are, one code is good at all times and every
text is in lower case. -/
def plainLibrary : AuthLibrary where
  hashPassword _ password := password
  verifyPassword hash password := decide (hash=password)
  totpVerify _ code _ := some (decide (code="492039"))
  lower text := text
  sqlLower text := text
  sqlLower_lower _ := rfl
  isAlpha := Char.isAlpha

def plainSettings : AuthSettings where
  refreshTtl := ⟨1209600,by decide⟩

/-- The claims of the access token the first sign-up answers with. -/
def firstBearer : AccessTokenPayload where
  sub := some 1
  tid := some 0
  role := "agency_admin"
  email := "asha@example.com"
  exp := 3600
  jti := 3

/-- A sign-up whose address is verified. -/
def openAccount : List (CallEnv × Call) :=
  [({now := 0},.signUp "asha@example.com" "correct1horse" "Asha" "Travels"),
    ({now := 1},.sendVerificationEmail (some firstBearer)),
    ({now := 2},.verifyEmail 5)]

end Voyagent.AuthEffects
