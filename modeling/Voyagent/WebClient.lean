import Voyagent.AuthClients
import Voyagent.CooperativePrograms

/-!
# The sign-in client of the web server

The tokens of a session are two cookies of the browser. A request sees those
that were sent with it, and may write cookies in an action or a route handler;
while a page is rendered that raises.
-/

namespace Voyagent.WebClient

open EffectPrograms CooperativePrograms AuthClients

variable {τ : Type}

/-- What a request reads and writes without waiting. -/
inductive Look (τ : Type) where
  /-- `Date.now()`. -/
  | clock
  /-- `jar.get(ACCESS_COOKIE)`. -/
  | accessCookie
  /-- `jar.get(REFRESH_COOKIE)`. -/
  | refreshCookie
  /-- Both cookies are set, each with its `maxAge` in seconds. -/
  | setCookies (access : τ) (accessAge : Int) (refresh : τ) (refreshAge : Int)
  /-- Both cookies are removed. -/
  | removeCookies

/-- A write is answered with whether it is allowed. -/
abbrev Look.Answer : Look τ → Type
  | .clock => Int
  | .accessCookie => Option τ
  | .refreshCookie => Option τ
  | .setCookies .. => Bool
  | .removeCookies => Bool

/-- What a request awaits. -/
inductive Await (τ : Type) where
  | refresh (refreshToken : τ)
  | signUp (input : SignUpInput)
  | signIn (input : SignInInput)
  | signOut (accessToken refreshToken : Option τ)
  | me (accessToken : τ)

abbrev Await.Answer : Await τ → Type
  | .refresh _ => Reply (AuthResponse τ)
  | .signUp _ => Reply (AuthResponse τ)
  | .signIn _ => Reply (AuthResponse τ)
  | .signOut _ _ => Reply Unit
  | .me _ => Reply PublicUser

/-- Cookies can only be modified in an action or a route handler. -/
inductive Failure where
  | render
  deriving DecidableEq

abbrev Web (τ α : Type) : Type :=
  Task (S:=Look τ) (W:=Await τ) Look.Answer Await.Answer Failure α

/-- Read or write the cookies, or read the clock. -/
abbrev look (q : Look τ) : Web τ q.Answer := atOnce q

/-- Await an answer. -/
abbrev answer (w : Await τ) : Web τ w.Answer := awaited w

/-- `REFRESH_LIFETIME_SECONDS`. -/
def refreshLifetimeSeconds : Int := 60*60*24*30

/-- `setSessionCookies`. -/
def setSessionCookies (access refreshToken : τ) (expiresIn : Int) : Web τ Unit := do
  if ← look (.setCookies access expiresIn refreshToken refreshLifetimeSeconds) then pure ()
  else .fail .render

/-- `clearSessionCookies`. -/
def clearSessionCookies : Web τ Unit := do
  if ← look .removeCookies then pure () else .fail .render

/-- `trySetSessionCookies`. -/
def trySetSessionCookies (access refreshToken : τ) (expiresIn : Int) : Web τ Unit :=
  Program.recover (setSessionCookies access refreshToken expiresIn) fun _ => pure ()

/-- `tryClearSessionCookies`. -/
def tryClearSessionCookies : Web τ Unit :=
  Program.recover clearSessionCookies fun _ => pure ()

/-- `refresh`. -/
def refresh (refreshToken : τ) : Web τ (Option (AuthResponse τ)) := do
  let res ← answer (.refresh refreshToken)
  pure res.granted

/-- `fetchMe`: whatever goes wrong is null. -/
def fetchMe (accessToken : τ) : Web τ (Option PublicUser) := do
  let res ← answer (.me accessToken)
  pure res.granted

/-- The slow path of `getCurrentUser`. -/
def refreshedUser (refreshToken : τ) : Web τ (Option PublicUser) := do
  match ← refresh refreshToken with
  | none => do
    tryClearSessionCookies
    pure none
  | some refreshed => do
    trySetSessionCookies refreshed.accessToken refreshed.refreshToken refreshed.expiresIn
    match refreshed.user with
    | some user => pure (some user)
    | none => do
      match ← fetchMe refreshed.accessToken with
      | none => do
        tryClearSessionCookies
        pure none
      | some user => pure (some user)

/-- `getCurrentUser` where its cheap path has found no user. -/
def renewedUser (access refreshToken : Option τ) : Web τ (Option PublicUser) :=
  match refreshToken with
  | none => do
    if access.isSome then tryClearSessionCookies
    pure none
  | some refreshToken => refreshedUser refreshToken

/-- `getCurrentUser`. -/
def getCurrentUser (expMs : τ → Int) : Web τ (Option PublicUser) := do
  let access ← look .accessCookie
  let refreshToken ← look .refreshCookie
  let now ← look .clock
  match access.filter fun token => decide (now<expMs token-skewMs) with
  | none => renewedUser access refreshToken
  | some token => do
    match ← fetchMe token with
    | some user => pure (some user)
    | none => renewedUser access refreshToken

/-- The end of the sign-in and the sign-up action. -/
def takeAuth (res : Reply (AuthResponse τ)) : Web τ Unit :=
  match res.granted with
  | none => pure ()
  | some auth => setSessionCookies auth.accessToken auth.refreshToken auth.expiresIn

/-- The sign-out route. -/
def signOut : Web τ Unit := do
  let access ← look .accessCookie
  let refreshToken ← look .refreshCookie
  let _ ← answer (.signOut access refreshToken)
  clearSessionCookies

/-- What a request does: it asks for the user, in a render or where cookies may
be written, or signs up, in or out. -/
inductive Operation where
  | currentUser (writable : Bool)
  | signUp (input : SignUpInput)
  | signIn (input : SignInInput)
  | signOut

def Operation.perform (expMs : τ → Int) : Operation → Web τ Unit
  | .currentUser _ => do let _ ← getCurrentUser expMs; pure ()
  | .signUp input => do
    let res ← answer (.signUp input)
    takeAuth res
  | .signIn input => do
    let res ← answer (.signIn input)
    takeAuth res
  | .signOut => WebClient.signOut

/-- Cookies may be written. -/
def Operation.writable : Operation → Bool
  | .currentUser writable => writable
  | _ => true

/-! ## The cookies -/

/-- A cookie and the time the browser drops it. -/
structure Cookie (τ : Type) where
  value : τ
  ends : Int

structure Jar (τ : Type) where
  access : Option (Cookie τ) := none
  refresh : Option (Cookie τ) := none

/-- The browser drops the cookies that have expired. -/
def Jar.at (jar : Jar τ) (now : Int) : Jar τ where
  access := jar.access.filter fun cookie => decide (now<cookie.ends)
  refresh := jar.refresh.filter fun cookie => decide (now<cookie.ends)

/-- What a question does to the cookies. -/
def Jar.look (writable : Bool) (now : Int) : (q : Look τ) → Jar τ → q.Answer × Jar τ
  | .clock,jar => (now,jar)
  | .accessCookie,jar => (jar.access.map Cookie.value,jar)
  | .refreshCookie,jar => (jar.refresh.map Cookie.value,jar)
  | .setCookies access accessAge refresh refreshAge,jar =>
    (writable,if writable then
      {access := some ⟨access,now+1000*accessAge⟩,refresh := some ⟨refresh,now+1000*refreshAge⟩}
    else jar)
  | .removeCookies,jar => (writable,if writable then {} else jar)

end Voyagent.WebClient
