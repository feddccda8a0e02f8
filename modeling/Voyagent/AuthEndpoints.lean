import Voyagent.AuthAccounts
import Voyagent.TransitionRuns

/-!
# The auth endpoints, one call at a time

Each endpoint with its service function: what it answers and what it writes.
Bodies have passed their request models. A bearer header is given by the
claims its token verifies to, if it verifies. A call reads the clock once.
-/

namespace Voyagent.AuthEndpoints

open RuntimeValues KeyedMap RefreshTokens AuthAccounts TransitionRuns

/-- What a call meets: the clock, and which Redis commands fail. -/
structure CallEnv where
  now : Time
  denylistDown : Bool := false
  tokenPutDown : Bool := false
  tokenGetDown : Bool := false
  tokenDeleteDown : Bool := false

/-- The two tokens of a successful answer. -/
structure TokenPair where
  access : AccessTokenPayload
  refresh : Draw
  expiresIn : Int
  deriving DecidableEq

/-- `PublicUser`. -/
structure PublicUser where
  id : UserId
  email : String
  fullName : String
  role : String
  tenantId : TenantId
  tenantName : String
  createdAt : Time
  emailVerified : Bool
  deriving DecidableEq

/-- `_public_user`. -/
def publicUser (u : User) (t : Tenant) : PublicUser where
  id := u.id
  email := u.email
  fullName := u.displayName
  role := u.role.value
  tenantId := t.id
  tenantName := t.displayName
  createdAt := u.createdAt
  emailVerified := u.emailVerified

/-- A call of an endpoint. -/
inductive Call where
  | signUp (email password fullName agencyName : String)
  | signIn (email password : String)
  | refresh (token : Draw)
  | signOut (bearer : Option AccessTokenPayload) (refreshToken : Option Draw)
  | me (bearer : Option AccessTokenPayload)
  | sendVerificationEmail (bearer : Option AccessTokenPayload)
  | verifyEmail (token : Draw)
  | updateProfile (bearer : Option AccessTokenPayload) (fullName email : Option String)
  | requestPasswordReset (email : String)
  | resetPassword (token : Draw) (newPassword : String)
  | createInvite (bearer : Option AccessTokenPayload) (email : String) (role : UserRole)
  | listInvites (bearer : Option AccessTokenPayload) (status : Option InviteStatus)
  | revokeInvite (bearer : Option AccessTokenPayload) (inviteId : Draw)
  | lookupInvite (token : Draw)
  | acceptInvite (token : Draw) (password fullName : String)
  | totpSetup (bearer : Option AccessTokenPayload)
  | totpVerify (bearer : Option AccessTokenPayload) (code : String)
  | totpDisable (bearer : Option AccessTokenPayload) (password code : String)
  | signInTotp (email password totpCode : String)
  | createApiKey (bearer : Option AccessTokenPayload) (name : String) (expiresInDays : Option Int)
  | listApiKeys (bearer : Option AccessTokenPayload)
  | revokeApiKey (bearer : Option AccessTokenPayload) (keyId : Draw)

/-- The body of a successful answer. -/
inductive Reply where
  /-- `AuthResponse`. -/
  | signedIn (pair : TokenPair) (user : PublicUser)
  /-- `TokenPairResponse`. -/
  | refreshed (pair : TokenPair)
  | noContent
  | user (user : PublicUser)
  | profile (user : PublicUser) (emailVerificationRequired : Bool)
  /-- The minted token is mailed, not returned. -/
  | verificationQueued (mailed : Draw)
  | emailVerified
  | resetQueued (mailed debugToken : Option Draw)
  | passwordReset
  | inviteCreated (invite : InviteRow) (token : Draw)
  | invites (items : List InviteRow)
  | inviteRevoked (invite : InviteRow)
  | inviteMeta (email role tenantName inviterEmail : String) (expiresAt : Time)
  | totpSecret (secret : Draw) (email : String)
  | totpStatus (enabled : Bool)
  | apiKeyCreated (key : Draw) (row : ApiKeyRow)
  | apiKeys (items : List ApiKeyRow)

/-- An `HTTPException`, or an exception the endpoint does not handle. -/
structure HttpError where
  status : Nat
  detail : String
  deriving DecidableEq

/-- What a call writes and answers. -/
structure Outcome where
  writes : List Write := []
  reply : Except HttpError Reply

/-- An answer with an error status. -/
def Outcome.failed (status : Nat) (detail : String) (writes : List Write := []) : Outcome :=
  ⟨writes,.error ⟨status,detail⟩⟩

def Outcome.ok (reply : Reply) (writes : List Write := []) : Outcome := ⟨writes,.ok reply⟩

section Service

variable (lib : AuthLibrary) (cfg : AuthSettings) (s : AuthState) (env : CallEnv)

/-! ## Token stores and callers -/

/-- `take` of a one-shot token: whose it is, and whether its entry is dropped.
In memory an expired entry is dropped as well; Redis has dropped it by itself. -/
def takeToken (entry : Option OneShotToken) : Option UserId × Bool :=
  if cfg.redis && env.tokenGetDown then (none,false)
  else
    match entry with
    | none => (none,false)
    | some e =>
      if e.expiresAt≤env.now then (none,true)
      else (some e.userId,!(cfg.redis && env.tokenDeleteDown))

/-- `put` reaches the store. -/
def putSucceeds : Bool := !(cfg.redis && env.tokenPutDown)

/-- `is_revoked`; an outage of the denylist denies nobody. -/
def isRevoked (jti : Draw) : Bool :=
  !(cfg.redis && env.denylistDown) && (s.revokedJtis jti).any fun exp => decide (env.now<exp)

/-- `get_current_principal`. -/
def currentPrincipal (bearer : Option AccessTokenPayload) : Except HttpError AccessTokenPayload :=
  match bearer with
  | none => .error ⟨401,"unauthorized"⟩
  | some p => if isRevoked cfg s env p.jti then .error ⟨401,"unauthorized"⟩ else .ok p

/-- `require_agency_admin`. -/
def requireAgencyAdmin (bearer : Option AccessTokenPayload) : Except HttpError AccessTokenPayload :=
  match currentPrincipal cfg s env bearer with
  | .error e => .error e
  | .ok p => if p.role=UserRole.agencyAdmin.value then .ok p else .error ⟨403,"forbidden_role"⟩

/-- `issue_access_token`. -/
def issueAccessToken (u : User) (tenantId : TenantId) (jti : Draw) : AccessTokenPayload where
  sub := some u.id
  tid := some tenantId
  role := u.role.value
  email := u.email
  exp := env.now+cfg.accessTtlSeconds
  jti := jti

/-- `_issue_pair_for_user`. -/
def issuePairForUser (u : User) (tenantId : TenantId) (jti token : Draw) : TokenPair × Write :=
  (⟨issueAccessToken cfg env u tenantId jti,token,cfg.accessTtlSeconds⟩,
    .storeRefresh token (mintRefreshToken cfg.refreshTtl u.id env.now))

/-- Answer with a pair for the user, behind the given writes. -/
def answerPair (u : User) (t : Tenant) (writes : List Write) (jti token : Draw) : Outcome :=
  let issued := issuePairForUser cfg env u t.id jti token
  .ok (.signedIn issued.1 (publicUser u t)) (writes++[issued.2])

/-! ## Sign-up, sign-in, sessions -/

/-- `sign_up`. -/
def signUp (email password fullName agencyName : String) : Outcome :=
  match passwordWeakness lib password with
  | some code => .failed 400 code
  | none =>
    match s.findByEmail lib email with
    | some _ => .failed 409 "email_already_registered"
    | none =>
      let tenant : Tenant := ⟨s.draw 0,agencyName⟩
      let user : User :=
        {id := s.draw 1
         tenantId := tenant.id
         displayName := fullName
         email := lib.lower email
         role := .agencyAdmin
         passwordHash := some (lib.hashPassword (s.draw 2) password)
         emailVerified := cfg.skipEmailVerification
         createdAt := env.now}
      answerPair cfg env user tenant [.insertTenant tenant,.insertUser user] (s.draw 3) (s.draw 4)

/-- The credential check of both sign-ins. -/
def checkCredentials (user : Option User) (password : String) : Except HttpError User :=
  match user with
  | none => .error ⟨401,"invalid_credentials"⟩
  | some u =>
    match u.passwordHash with
    | none => .error ⟨401,"invalid_credentials"⟩
    | some hash =>
      if lib.verifyPassword hash password then
        if u.emailVerified then .ok u else .error ⟨401,"email_not_verified"⟩
      else .error ⟨401,"invalid_credentials"⟩

/-- Issue a pair to a user whose credentials hold. -/
def completeSignIn (u : User) : Outcome :=
  match s.findTenant u.tenantId with
  | none => .failed 401 "invalid_credentials"
  | some t => answerPair cfg env u t [] (s.draw 0) (s.draw 1)

/-- `sign_in`. -/
def signIn (email password : String) : Outcome :=
  match checkCredentials lib (s.findByEmail lib email) password with
  | .error e => ⟨[],.error e⟩
  | .ok u => completeSignIn cfg s env u

/-- `refresh`. -/
def refresh (token : Draw) : Outcome :=
  match findActive s.refreshTokens token env.now with
  | none => .failed 401 "invalid_refresh_token"
  | some row =>
    match (s.findById row.userId).bind fun u => (s.findTenant u.tenantId).map fun t => (u,t) with
    | none => .failed 401 "invalid_refresh_token" [.revokeRefresh token env.now]
    | some (u,t) =>
      let issued := issuePairForUser cfg env u t.id (s.draw 0) (s.draw 1)
      .ok (.refreshed issued.1) [.revokeRefresh token env.now,issued.2]

/-- `sign_out`: best-effort. -/
def signOut (bearer : Option AccessTokenPayload) (refreshToken : Option Draw) : Outcome :=
  let revoke : List Write := refreshToken.toList.map fun token => .revokeRefresh token env.now
  let deny : List Write :=
    if cfg.redis && env.denylistDown then []
    else bearer.toList.map fun p => .denyJti p.jti p.exp
  .ok .noContent (revoke++deny)

/-- The user a verified subject names. -/
def subjectUser (p : AccessTokenPayload) : Option User := p.sub.bind s.findById

/-- `me`. -/
def me (bearer : Option AccessTokenPayload) : Outcome :=
  match currentPrincipal cfg s env bearer with
  | .error e => ⟨[],.error e⟩
  | .ok p =>
    match (subjectUser s p).bind fun u => (s.findTenant u.tenantId).map fun t => (u,t) with
    | none => .failed 401 "unauthorized"
    | some (u,t) => .ok (.user (publicUser u t))

/-! ## Email verification and profile -/

/-- `send_verification_email`. -/
def sendVerificationEmail (bearer : Option AccessTokenPayload) : Outcome :=
  match currentPrincipal cfg s env bearer with
  | .error e => ⟨[],.error e⟩
  | .ok p =>
    match subjectUser s p with
    | none => .failed 401 "unauthorized"
    | some u =>
      if putSucceeds cfg env then
        .ok (.verificationQueued (s.draw 0))
          [.putVerification (s.draw 0) ⟨u.id,env.now+cfg.verificationTtlSeconds⟩]
      else .failed 500 "Internal Server Error"

/-- `verify_email`. -/
def verifyEmail (token : Draw) : Outcome :=
  let taken := takeToken cfg env (s.verificationTokens token)
  let drop : List Write := if taken.2 then [.dropVerification token] else []
  match taken.1 with
  | none => .failed 400 "token_invalid" drop
  | some id => .ok .emailVerified (drop++[.markEmailVerified id])

/-- `update_profile`. -/
def updateProfile (bearer : Option AccessTokenPayload) (fullName email : Option String) : Outcome :=
  match currentPrincipal cfg s env bearer with
  | .error e => ⟨[],.error e⟩
  | .ok p =>
    match p.sub with
    | none => .failed 401 "unauthorized"
    | some id =>
      match s.findById id with
      | none => .failed 409 "email_already_registered"
      | some u =>
        let name := fullName.filter (· != u.displayName)
        let changed := (email.map lib.lower).filter (· != u.email)
        let other := changed.bind fun e => s.users.find? fun v => decide (v.email=e)
        if other.any (fun v => decide (v.id≠id)) then .failed 409 "email_already_registered"
        else
          let writes : List Write :=
            if name.isSome || changed.isSome then [.updateProfile id name changed] else []
          match s.findTenant u.tenantId with
          | none => .failed 500 "Internal Server Error" writes
          | some t => .ok (.profile (publicUser (u.withProfile name changed) t) changed.isSome) writes

/-! ## Password reset -/

/-- `request_password_reset`. -/
def requestPasswordReset (email : String) : Outcome :=
  match s.findByEmail lib email with
  | none => .ok (.resetQueued none none)
  | some u =>
    if putSucceeds cfg env then
      .ok (.resetQueued (some (s.draw 0))
          (if cfg.skipEmailVerification then some (s.draw 0) else none))
        [.putPasswordReset (s.draw 0) ⟨u.id,env.now+cfg.passwordResetTtlSeconds⟩]
    else .failed 500 "Internal Server Error"

/-- `reset_password`. -/
def resetPassword (token : Draw) (newPassword : String) : Outcome :=
  let taken := takeToken cfg env (s.passwordResetTokens token)
  let drop : List Write := if taken.2 then [.dropPasswordReset token] else []
  match taken.1.bind s.findById with
  | none => .failed 400 "token_invalid" drop
  | some u => .ok .passwordReset
      (drop++[.updatePasswordHash u.id (lib.hashPassword (s.draw 0) newPassword),
        .revokeAllForUser u.id env.now])

/-! ## Team invites -/

/-- Lifetime of an invite, in seconds. -/
def inviteTtl : Int := 7*24*3600

/-- `create_invite` of the service: refused when a pending invite is found or
the unique index has the key already. -/
def createInvite (tenantId : TenantId) (invitedBy : UserId) (email : String) (role : UserRole) :
    Outcome :=
  if (s.findPendingForEmail lib tenantId email).isSome then .failed 409 "invite_already_exists"
  else
    let row : InviteRow :=
      {id := s.draw 0
       tenantId
       invitedByUserId := invitedBy
       email := lib.lower email
       role
       token := s.draw 1
       expiresAt := env.now+inviteTtl
       createdAt := env.now}
    if s.invites.any fun i => decide (lib.inviteKey i.tenantId i.email=lib.inviteKey tenantId row.email)
    then .failed 409 "invite_already_exists"
    else .ok (.inviteCreated row row.token) [.insertInvite row]

/-- `list_for_tenant`, newest first. -/
def listInvites (tenantId : TenantId) (status : Option InviteStatus) : Outcome :=
  .ok (.invites ((s.invites.filter fun i =>
    decide (i.tenantId=tenantId) && status.all fun st => decide (i.status=st)).reverse))

/-- `revoke_invite` of the service. -/
def revokeInvite (tenantId : TenantId) (inviteId : Draw) : Outcome :=
  match s.findInvite inviteId with
  | none => .failed 404 "invite_not_found"
  | some i =>
    if i.tenantId≠tenantId then .failed 404 "invite_not_found"
    else if i.status≠.pending then .failed 409 "invite_not_pending"
    else .ok (.inviteRevoked {i with status := .revoked,revokedAt := some env.now})
      [.revokeInvite inviteId env.now]

/-- The invite behind a token, while it can be accepted. -/
def openInvite (token : Draw) : Except HttpError InviteRow :=
  match s.findInviteByToken token with
  | none => .error ⟨404,"invite_not_found"⟩
  | some i =>
    if i.status≠.pending then .error ⟨400,"invite_not_pending"⟩
    else if i.expiresAt≤env.now then .error ⟨400,"invite_expired"⟩
    else .ok i

/-- `lookup_invite`. -/
def lookupInvite (token : Draw) : Outcome :=
  match openInvite s env token with
  | .error e => ⟨[],.error e⟩
  | .ok i =>
    match s.findTenant i.tenantId,s.findById i.invitedByUserId with
    | some t,some inviter =>
      .ok (.inviteMeta i.email i.role.value t.displayName inviter.email i.expiresAt)
    | _,_ => .failed 404 "invite_not_found"

/-- `accept_invite`. -/
def acceptInvite (token : Draw) (password fullName : String) : Outcome :=
  match openInvite s env token with
  | .error e => ⟨[],.error e⟩
  | .ok i =>
    match s.findByEmail lib i.email with
    | some _ => .failed 409 "email_already_registered"
    | none =>
      let user : User :=
        {id := s.draw 1
         tenantId := i.tenantId
         displayName := fullName
         email := lib.lower i.email
         role := i.role
         passwordHash := some (lib.hashPassword (s.draw 2) password)
         emailVerified := cfg.skipEmailVerification
         createdAt := env.now}
      let writes : List Write := [.insertUser user,.markAccepted i.id env.now]
      match s.findTenant i.tenantId with
      | none => .failed 500 "Internal Server Error" writes
      | some t => answerPair cfg env user t writes (s.draw 3) (s.draw 4)

/-! ## TOTP -/

/-- `verify_totp_code`. -/
def verifyTotpCode (secret : Draw) (code : String) : Bool :=
  let digits := (pyStrip code).toList.filter (· != ' ')
  PythonNumbers.isDigits digits && decide (digits.length=6) &&
    (lib.totpVerify secret (String.ofList digits) env.now).getD false

/-- `setup_totp_for_user`. -/
def totpSetup (id : UserId) : Outcome :=
  match s.findById id with
  | none => .failed 401 "unauthorized"
  | some u => .ok (.totpSecret (s.draw 0) u.email) [.storeTotpSecret id (s.draw 0)]

/-- `verify_totp_for_user`. -/
def totpVerify (id : UserId) (code : String) : Outcome :=
  match s.findById id with
  | none => .failed 401 "unauthorized"
  | some u =>
    match u.totpSecret with
    | none => .failed 400 "totp_not_initialized"
    | some secret =>
      if u.totpEnabled then .ok (.totpStatus true)
      else if verifyTotpCode lib env secret code then .ok (.totpStatus true) [.enableTotp id]
      else .failed 401 "totp_invalid"

/-- `disable_totp_for_user`. -/
def totpDisable (id : UserId) (password code : String) : Outcome :=
  match s.findById id with
  | none => .failed 401 "unauthorized"
  | some u =>
    match u.passwordHash with
    | none => .failed 401 "unauthorized"
    | some hash =>
      if lib.verifyPassword hash password then
        match u.totpEnabled,u.totpSecret with
        | true,some secret =>
          if verifyTotpCode lib env secret code then .ok (.totpStatus false) [.clearTotp id]
          else .failed 403 "totp_invalid"
        | _,_ => .ok (.totpStatus false)
      else .failed 403 "invalid_password"

/-- `sign_in_with_totp`, and the pair. -/
def signInTotp (email password code : String) : Outcome :=
  match checkCredentials lib (s.findByEmail lib email) password with
  | .error e => ⟨[],.error e⟩
  | .ok u =>
    match u.totpEnabled,u.totpSecret with
    | true,some secret =>
      if verifyTotpCode lib env secret code then completeSignIn cfg s env u
      else .failed 401 "totp_invalid"
    | _,_ => .failed 400 "totp_not_enabled"

/-! ## API keys -/

/-- `create_api_key`. -/
def createApiKey (tenantId : TenantId) (userId : UserId) (name : String)
    (expiresInDays : Option Int) : Outcome :=
  let row : ApiKeyRow :=
    {id := s.draw 0
     tenantId
     createdByUserId := userId
     name
     key := s.draw 1
     expiresAt := (expiresInDays.filter fun n => decide (0<n)).map fun n => env.now+n*(24*3600)
     createdAt := env.now}
  .ok (.apiKeyCreated row.key row) [.insertApiKey row]

/-- `list_api_keys_for_tenant`, newest first. -/
def listApiKeys (tenantId : TenantId) : Outcome :=
  .ok (.apiKeys ((s.apiKeys.filter fun k => decide (k.tenantId=tenantId)).reverse))

/-- `revoke_api_key`. -/
def revokeApiKey (tenantId : TenantId) (keyId : Draw) : Outcome :=
  match s.apiKeys.find? fun k => decide (k.id=keyId ∧ k.tenantId=tenantId) with
  | none => .failed 404 "not_found"
  | some k => .ok .noContent (if k.revokedAt.isNone then [.revokeApiKey keyId env.now] else [])

/-! ## The routes -/

/-- A route for callers with an id. -/
def asUser (bearer : Option AccessTokenPayload) (f : UserId → Outcome) : Outcome :=
  match currentPrincipal cfg s env bearer with
  | .error e => ⟨[],.error e⟩
  | .ok p =>
    match p.sub with
    | none => .failed 401 "unauthorized"
    | some id => f id

/-- A route for callers with a tenant and an id. -/
def asMember (principal : Except HttpError AccessTokenPayload) (error : HttpError)
    (f : TenantId → UserId → Outcome) : Outcome :=
  match principal with
  | .error e => ⟨[],.error e⟩
  | .ok p =>
    match p.tid,p.sub with
    | some tid,some id => f tid id
    | _,_ => ⟨[],.error error⟩

/-- A route for callers with a tenant. -/
def asTenant (principal : Except HttpError AccessTokenPayload) (error : HttpError)
    (f : TenantId → Outcome) : Outcome :=
  match principal with
  | .error e => ⟨[],.error e⟩
  | .ok p =>
    match p.tid with
    | some tid => f tid
    | none => ⟨[],.error error⟩

/-- What a call writes and answers. -/
def handle : Call → Outcome
  | .signUp email password fullName agencyName =>
    signUp lib cfg s env email password fullName agencyName
  | .signIn email password => signIn lib cfg s env email password
  | .refresh token => refresh cfg s env token
  | .signOut bearer refreshToken => signOut cfg env bearer refreshToken
  | .me bearer => me cfg s env bearer
  | .sendVerificationEmail bearer => sendVerificationEmail cfg s env bearer
  | .verifyEmail token => verifyEmail cfg s env token
  | .updateProfile bearer fullName email => updateProfile lib cfg s env bearer fullName email
  | .requestPasswordReset email => requestPasswordReset lib cfg s env email
  | .resetPassword token newPassword => resetPassword lib cfg s env token newPassword
  | .createInvite bearer email role =>
    asMember (requireAgencyAdmin cfg s env bearer) ⟨401,"unauthorized"⟩ fun tid id =>
      createInvite lib s env tid id email role
  | .listInvites bearer status =>
    asTenant (requireAgencyAdmin cfg s env bearer) ⟨401,"unauthorized"⟩ fun tid =>
      listInvites s tid status
  | .revokeInvite bearer inviteId =>
    asTenant (requireAgencyAdmin cfg s env bearer) ⟨404,"invite_not_found"⟩ fun tid =>
      revokeInvite s env tid inviteId
  | .lookupInvite token => lookupInvite s env token
  | .acceptInvite token password fullName => acceptInvite lib cfg s env token password fullName
  | .totpSetup bearer => asUser cfg s env bearer fun id => totpSetup s id
  | .totpVerify bearer code => asUser cfg s env bearer fun id => totpVerify lib s env id code
  | .totpDisable bearer password code =>
    asUser cfg s env bearer fun id => totpDisable lib s env id password code
  | .signInTotp email password totpCode => signInTotp lib cfg s env email password totpCode
  | .createApiKey bearer name expiresInDays =>
    asMember (currentPrincipal cfg s env bearer) ⟨401,"unauthorized"⟩ fun tid id =>
      createApiKey s env tid id name expiresInDays
  | .listApiKeys bearer =>
    asTenant (currentPrincipal cfg s env bearer) ⟨401,"unauthorized"⟩ fun tid => listApiKeys s tid
  | .revokeApiKey bearer keyId =>
    asTenant (currentPrincipal cfg s env bearer) ⟨404,"not_found"⟩ fun tid =>
      revokeApiKey s env tid keyId

end Service

/-- Draws a call may use. -/
def drawsPerCall : Nat := 5

section Run

variable (lib : AuthLibrary) (cfg : AuthSettings)

/-- The state after a call. -/
def serve (s : AuthState) (l : CallEnv × Call) : AuthState :=
  {s.applyAll (handle lib cfg s l.1 l.2).writes with drawn := s.drawn+drawsPerCall}

/-- Calls are served one after the other. -/
def Step : AuthState → CallEnv × Call → AuthState → Prop := fun s l t => t=serve lib cfg s l

end Run

end Voyagent.AuthEndpoints
