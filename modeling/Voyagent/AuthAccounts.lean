import Voyagent.PythonNumbers
import Voyagent.PasswordReset

/-!
# Accounts of the in-house auth service

The rows the auth subsystem keeps and the statements its repositories execute
on them, one write for each. What is drawn at random (ids, tokens, secrets) is
numbered in the order of drawing, so nothing is drawn twice.
-/

namespace Voyagent.AuthAccounts

open RuntimeValues KeyedMap PythonNumbers RefreshTokens PasswordReset

/-- Number of a random draw. -/
abbrev Draw : Type := Nat

abbrev UserId : Type := Draw

abbrev TenantId : Type := Draw

/-- Coarse role assigned to each human user. -/
inductive UserRole where
  | agencyAdmin | ticketingLead | accountingLead | agent | viewer
  deriving DecidableEq

/-- The value of the enumeration member. -/
def UserRole.value : UserRole → String
  | .agencyAdmin => "agency_admin"
  | .ticketingLead => "ticketing_lead"
  | .accountingLead => "accounting_lead"
  | .agent => "agent"
  | .viewer => "viewer"

structure Tenant where
  id : TenantId
  displayName : String
  deriving DecidableEq

/-- A human user attached to a tenant. -/
structure User where
  id : UserId
  tenantId : TenantId
  displayName : String
  email : String
  role : UserRole
  passwordHash : Option String
  emailVerified : Bool
  totpSecret : Option Draw := none
  totpEnabled : Bool := false
  createdAt : Time
  deriving DecidableEq

/-- Lifecycle states for a team invite. -/
inductive InviteStatus where
  | pending | accepted | revoked | expired
  deriving DecidableEq

/-- Opaque-token invite into an existing tenant. -/
structure InviteRow where
  id : Draw
  tenantId : TenantId
  invitedByUserId : UserId
  email : String
  role : UserRole
  token : Draw
  status : InviteStatus := .pending
  expiresAt : Time
  acceptedAt : Option Time := none
  revokedAt : Option Time := none
  createdAt : Time
  deriving DecidableEq

/-- The columns of an API key the endpoints use. -/
structure ApiKeyRow where
  id : Draw
  tenantId : TenantId
  createdByUserId : UserId
  name : String
  key : Draw
  expiresAt : Option Time
  revokedAt : Option Time := none
  createdAt : Time
  deriving DecidableEq

/-- Decoded access JWT claims. The subject and the tenant are kept as the ids
they parse to, if they are ids. -/
structure AccessTokenPayload where
  sub : Option UserId
  tid : Option TenantId
  role : String
  email : String
  exp : Time
  jti : Draw
  deriving DecidableEq

/-- A stored one-shot token: whose it is and when it expires. -/
structure OneShotToken where
  userId : UserId
  expiresAt : Time
  deriving DecidableEq

/-- Everything the auth service stores. -/
structure AuthState where
  users : List User := []
  tenants : List Tenant := []
  invites : List InviteRow := []
  refreshTokens : Rows Draw UserId := fun _ => none
  apiKeys : List ApiKeyRow := []
  verificationTokens : Draw → Option OneShotToken := fun _ => none
  passwordResetTokens : Draw → Option OneShotToken := fun _ => none
  /-- Denied access tokens, with their expiry. -/
  revokedJtis : Draw → Option Time := fun _ => none
  /-- Draws made so far. -/
  drawn : Draw := 0

/-- What the service takes from its libraries and from the database. -/
structure AuthLibrary where
  /-- `argon2`, with a drawn salt. -/
  hashPassword : Draw → String → String
  verifyPassword : String → String → Bool
  /-- `pyotp.TOTP(secret).verify(code, valid_window=1)`; `none` when it raises. -/
  totpVerify : Draw → String → Time → Option Bool
  /-- `str.lower`. -/
  lower : String → String
  /-- `lower` of the database. -/
  sqlLower : String → String
  /-- The database has nothing to lower in a lowered text. -/
  sqlLower_lower : ∀ s,sqlLower (lower s)=lower s
  /-- `str.isalpha` on one character. -/
  isAlpha : Char → Bool

/-- Settings of the auth service. -/
structure AuthSettings where
  accessTtlSeconds : Int := 3600
  refreshTtl : RefreshTtl
  /-- `VOYAGENT_AUTH_SKIP_EMAIL_VERIFICATION`. -/
  skipEmailVerification : Bool := false
  verificationTtlSeconds : Int := 24*3600
  passwordResetTtlSeconds : Int := 3600
  /-- The token stores and the denylist are in Redis rather than in memory. -/
  redis : Bool := false

/-! ## Passwords -/

/-- `_COMMON_PASSWORDS`. -/
def commonPasswords : List String :=
  ["password","password1","password12","password123","password1234","passw0rd","passw0rd1",
    "passw0rd123","qwerty","qwerty123","qwertyuiop","qwerty1234","letmein","letmein1","letmein123",
    "welcome","welcome1","welcome123","admin","admin1","admin123","administrator","root","root123",
    "toor","iloveyou","iloveyou1","monkey","monkey123","dragon","dragon123","master","master123",
    "abc123","abc12345","abcd1234","123abc","123456","1234567","12345678","123456789","1234567890",
    "111111","000000","696969","trustno1","sunshine","princess","football","baseball","superman",
    "batman123","voyagent","voyagent1","voyagent123","travel123","changeme","changeme1",
    "changeme123"]

/-- `validate_password_strength`: the code of the complaint, if there is one. -/
def passwordWeakness (lib : AuthLibrary) (password : String) : Option String :=
  if pyStrip password="" then some "password_blank"
  else if password.length<10 then some "password_too_short"
  else if 128<password.length then some "password_too_long"
  else if !password.toList.any lib.isAlpha then some "password_no_letter"
  else if !password.toList.any isDigitChar then some "password_no_digit"
  else if commonPasswords.contains (lib.lower (pyStrip password)) then some "password_common"
  else none

/-! ## Reading the rows -/

section Queries

variable (lib : AuthLibrary) (s : AuthState)

/-- `find_by_email`, case-insensitive on what it is asked for. -/
def AuthState.findByEmail (email : String) : Option User :=
  s.users.find? fun u => decide (u.email=lib.lower email)

def AuthState.findById (id : UserId) : Option User := s.users.find? fun u => decide (u.id=id)

def AuthState.findTenant (id : TenantId) : Option Tenant :=
  s.tenants.find? fun t => decide (t.id=id)

/-- `find_pending_for_email`. -/
def AuthState.findPendingForEmail (tenantId : TenantId) (email : String) : Option InviteRow :=
  s.invites.find? fun i =>
    decide (i.tenantId=tenantId ∧ lib.sqlLower i.email=lib.lower email ∧ i.status=.pending)

def AuthState.findInvite (id : Draw) : Option InviteRow :=
  s.invites.find? fun i => decide (i.id=id)

/-- `find_by_token_hash`. -/
def AuthState.findInviteByToken (token : Draw) : Option InviteRow :=
  s.invites.find? fun i => decide (i.token=token)

/-- The key of the unique index on invites. -/
def AuthLibrary.inviteKey (tenantId : TenantId) (email : String) : TenantId × String :=
  (tenantId,lib.sqlLower email)

/-- The i-th value this call draws. -/
def AuthState.draw (i : Nat) : Draw := s.drawn+i

end Queries

/-! ## Writing them -/

/-- One statement of a repository or one command of a token store. -/
inductive Write where
  | insertTenant (t : Tenant)
  | insertUser (u : User)
  | markEmailVerified (id : UserId)
  /-- `update_profile`: a new email is not verified. -/
  | updateProfile (id : UserId) (displayName email : Option String)
  | updatePasswordHash (id : UserId) (hash : String)
  | storeTotpSecret (id : UserId) (secret : Draw)
  | enableTotp (id : UserId)
  | clearTotp (id : UserId)
  | insertInvite (i : InviteRow)
  | revokeInvite (id : Draw) (now : Time)
  | markAccepted (id : Draw) (now : Time)
  | storeRefresh (token : Draw) (row : TokenRow UserId)
  | revokeRefresh (token : Draw) (now : Time)
  | revokeAllForUser (id : UserId) (now : Time)
  | putVerification (token : Draw) (entry : OneShotToken)
  | dropVerification (token : Draw)
  | putPasswordReset (token : Draw) (entry : OneShotToken)
  | dropPasswordReset (token : Draw)
  | denyJti (jti : Draw) (exp : Time)
  | insertApiKey (k : ApiKeyRow)
  | revokeApiKey (id : Draw) (now : Time)

/-- `UPDATE users ... WHERE id = ...`. -/
def updateUser (id : UserId) (f : User → User) (us : List User) : List User :=
  us.map fun u => if u.id=id then f u else u

/-- `UPDATE invites ... WHERE id = ...`. -/
def updateInvite (id : Draw) (f : InviteRow → InviteRow) (is : List InviteRow) : List InviteRow :=
  is.map fun i => if i.id=id then f i else i

/-- The columns `update_profile` sets. -/
def User.withProfile (u : User) (displayName email : Option String) : User :=
  {u with
    displayName := displayName.getD u.displayName
    email := email.getD u.email
    emailVerified := if email.isSome then false else u.emailVerified}

/-- The users after a write. -/
def usersAfter (us : List User) : Write → List User
  | .insertUser u => us++[u]
  | .markEmailVerified id => updateUser id (fun u => {u with emailVerified := true}) us
  | .updateProfile id displayName email =>
    updateUser id (fun u => u.withProfile displayName email) us
  | .updatePasswordHash id hash => updateUser id (fun u => {u with passwordHash := some hash}) us
  | .storeTotpSecret id secret =>
    updateUser id (fun u => {u with totpSecret := some secret,totpEnabled := false}) us
  | .enableTotp id => updateUser id (fun u => {u with totpEnabled := true}) us
  | .clearTotp id => updateUser id (fun u => {u with totpEnabled := false,totpSecret := none}) us
  | _ => us

/-- The invites after a write. -/
def invitesAfter (is : List InviteRow) : Write → List InviteRow
  | .insertInvite i => is++[i]
  | .revokeInvite id now =>
    updateInvite id (fun i => {i with status := .revoked,revokedAt := some now}) is
  | .markAccepted id now =>
    updateInvite id (fun i => {i with status := .accepted,acceptedAt := some now}) is
  | _ => is

/-- The stored refresh tokens after a write. -/
def refreshTokensAfter (rows : Rows Draw UserId) : Write → Rows Draw UserId
  | .storeRefresh token row => Function.update rows token (some row)
  | .revokeRefresh token now => revokeToken rows token now
  | .revokeAllForUser id now => revokeHit rows (unrevokedOf rows id) now
  | _ => rows

/-- The state after a write. -/
def AuthState.apply (s : AuthState) (w : Write) : AuthState where
  users := usersAfter s.users w
  tenants := match w with
    | .insertTenant t => s.tenants++[t]
    | _ => s.tenants
  invites := invitesAfter s.invites w
  refreshTokens := refreshTokensAfter s.refreshTokens w
  apiKeys := match w with
    | .insertApiKey k => s.apiKeys++[k]
    | .revokeApiKey id now =>
      s.apiKeys.map fun k => if k.id=id then {k with revokedAt := some now} else k
    | _ => s.apiKeys
  verificationTokens := match w with
    | .putVerification token entry => Function.update s.verificationTokens token (some entry)
    | .dropVerification token => Function.update s.verificationTokens token none
    | _ => s.verificationTokens
  passwordResetTokens := match w with
    | .putPasswordReset token entry => Function.update s.passwordResetTokens token (some entry)
    | .dropPasswordReset token => Function.update s.passwordResetTokens token none
    | _ => s.passwordResetTokens
  revokedJtis := match w with
    | .denyJti jti exp => Function.update s.revokedJtis jti (some exp)
    | _ => s.revokedJtis
  drawn := s.drawn

/-- The state after the writes of a call, in order. -/
def AuthState.applyAll (s : AuthState) (ws : List Write) : AuthState := ws.foldl AuthState.apply s

end Voyagent.AuthAccounts
