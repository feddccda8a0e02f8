import Voyagent.AuthClients
import Voyagent.CooperativePrograms

/-!
# The mobile sign-in client

Tokens and the cached user are three items of a secure store, whose errors are
swallowed; the screens show a user held by the provider. An item is read,
written or deleted before the reply is back, and the deletions of `clear` go
out together. Refreshes share one promise while it is unresolved. Awaiting an
operation of the client itself adds no await to those of that operation.
-/

namespace Voyagent.MobileClient

open EffectPrograms CooperativePrograms AuthClients

variable {τ : Type}

/-- `ACCESS_KEY`, `REFRESH_KEY` and `USER_KEY`. -/
inductive Key where
  | accessToken
  | refreshToken
  | user
  deriving DecidableEq

/-- What an operation reads and writes without waiting. -/
inductive Look (τ : Type) where
  | clock
  | refreshInFlight
  /-- A new promise is held as `refreshInFlight`. -/
  | openRefresh
  /-- The promise is resolved and no longer held. -/
  | closeRefresh (n : Nat) (auth : Option (AuthResponse τ))
  | mounted
  | setUser (user : Option PublicUser)
  /-- An observer counts a sign-in that is accepted, -/
  | accept
  /-- notes the sign-ins so far, -/
  | began
  /-- a sign-out that has completed, with the sign-ins at its begin, -/
  | signedOut (n : Nat)
  /-- and a sign-in that has completed, by its number. -/
  | signedIn (n : Nat)

abbrev Look.Answer : Look τ → Type
  | .clock => Int
  | .refreshInFlight => Option Nat
  | .openRefresh => Nat
  | .mounted => Bool
  | .accept => Nat
  | .began => Nat
  | _ => Unit

/-- What an operation awaits. -/
inductive Await (τ : Type) where
  | getAccessToken
  | getRefreshToken
  | getUser
  /-- The reply of `getUser` arrives. -/
  | gotUser (user : Option PublicUser)
  | setAccessToken (value : τ)
  | setRefreshToken (value : τ)
  | setUser (user : PublicUser)
  /-- The reply of `setUser` arrives. -/
  | wroteUser (user : PublicUser)
  /-- One of several deletions is carried out or fails. -/
  | delete (keys : List Key)
  /-- The reply of the store to another request arrives. -/
  | replied
  | refresh (refreshToken : τ)
  | signUp (input : SignUpInput)
  | signIn (input : SignInInput)
  | signOut (accessToken refreshToken : Option τ)
  | me (token : τ)
  /-- A shared refresh is resolved. -/
  | promise (n : Nat)

abbrev Await.Answer : Await τ → Type
  | .getAccessToken => Option τ
  | .getRefreshToken => Option τ
  | .getUser => Option PublicUser
  | .setAccessToken _ => Bool
  | .setRefreshToken _ => Bool
  | .setUser _ => Bool
  | .delete _ => Key × Bool
  | .refresh _ => Reply (AuthResponse τ)
  | .signUp _ => Reply (AuthResponse τ)
  | .signIn _ => Reply (AuthResponse τ)
  | .signOut _ _ => Reply Unit
  | .me _ => Reply PublicUser
  | .promise _ => Option (AuthResponse τ)
  | _ => Unit

abbrev Mobile (τ α : Type) : Type :=
  Task (S:=Look τ) (W:=Await τ) Look.Answer Await.Answer Empty α

/-- Read or write a field. -/
abbrev look (q : Look τ) : Mobile τ q.Answer := atOnce q

/-- Await an answer. -/
abbrev answer (w : Await τ) : Mobile τ w.Answer := awaited w

/-! ## The token store -/

namespace TokenStore

def getAccessToken : Mobile τ (Option τ) := do
  let value ← answer .getAccessToken
  answer .replied
  pure value

def getRefreshToken : Mobile τ (Option τ) := do
  let value ← answer .getRefreshToken
  answer .replied
  pure value

def getUser : Mobile τ (Option PublicUser) := do
  let user ← answer .getUser
  answer (.gotUser user)
  pure user

def setAccessToken (value : τ) : Mobile τ Unit := do
  let _ ← answer (.setAccessToken value)
  answer .replied

def setRefreshToken (value : τ) : Mobile τ Unit := do
  let _ ← answer (.setRefreshToken value)
  answer .replied

def setUser (user : PublicUser) : Mobile τ Unit := do
  let _ ← answer (.setUser user)
  answer (.wroteUser user)

/-- The deletions that are still out. -/
def deletions : Nat → List Key → Mobile τ Unit
  | 0,_ => answer .replied
  | n+1,keys => do
    let r ← answer (.delete keys)
    deletions n (keys.erase r.1)

def clear : Mobile τ Unit := deletions 3 [.accessToken,.refreshToken,.user]

end TokenStore

/-! ## The client -/

/-- `persist`. -/
def persist (auth : AuthResponse τ) : Mobile τ Unit := do
  TokenStore.setAccessToken auth.accessToken
  TokenStore.setRefreshToken auth.refreshToken
  match auth.user with
  | some user => TokenStore.setUser user
  | none => pure ()

/-- What `signUp` and `signIn` do with an answer: the response and the observer's
number of the sign-in, or the error. -/
def takeAuth (res : Reply (AuthResponse τ)) : Mobile τ (Except String (AuthResponse τ × Nat)) :=
  match res with
  | .unreachable => pure (.error "request_failed")
  | .answered status body detail =>
    if okStatus status then
      match body with
      | none => pure (.error "invalid_response")
      | some auth => do
        let n ← look .accept
        persist auth
        pure (.ok (auth,n))
    else pure (.error (detail.getD "request_failed"))

def signUp (input : SignUpInput) : Mobile τ (Except String (AuthResponse τ × Nat)) := do
  let res ← answer (.signUp input)
  takeAuth res

def signIn (input : SignInInput) : Mobile τ (Except String (AuthResponse τ × Nat)) := do
  let res ← answer (.signIn input)
  takeAuth res

/-- The body of `refresh`. -/
def requestRefresh : Mobile τ (Option (AuthResponse τ)) := do
  match ← TokenStore.getRefreshToken with
  | none => pure none
  | some refreshToken => do
    let res ← answer (.refresh refreshToken)
    match res.granted with
    | none => pure none
    | some auth => do
      persist auth
      pure (some auth)

/-- `refresh`. -/
def refresh : Mobile τ (Option (AuthResponse τ)) := do
  match ← look .refreshInFlight with
  | some n => answer (.promise n)
  | none => do
    let n ← look .openRefresh
    let auth ← requestRefresh
    look (.closeRefresh n auth)
    answer (.promise n)

/-- `signOut`. -/
def signOut : Mobile τ Unit := do
  let accessToken ← TokenStore.getAccessToken
  let refreshToken ← TokenStore.getRefreshToken
  let _ ← answer (.signOut accessToken refreshToken)
  TokenStore.clear

/-- `fetchMe`: whatever goes wrong is null. -/
def fetchMe (accessToken : Option τ) : Mobile τ (Option PublicUser) := do
  let stored ← match accessToken with
    | some token => pure (some token)
    | none => TokenStore.getAccessToken
  match stored with
  | none => pure none
  | some token => do
    let res ← answer (.me token)
    pure res.granted

/-- `if (mounted.current) setUser(user)`. -/
def showMounted (user : Option PublicUser) : Mobile τ Unit := do
  if ← look .mounted then look (.setUser user)

/-- `if (cached && mounted.current) setUser(cached)`. -/
def showCached (cached : Option PublicUser) : Mobile τ Unit :=
  match cached with
  | some user => showMounted (some user)
  | none => pure ()

section Client

variable (expMs : τ → Int)

/-- `getAccessToken`. -/
def getAccessToken : Mobile τ (Option τ) := do
  let current ← TokenStore.getAccessToken
  let now ← look .clock
  match current.filter fun token => decide (now<expMs token-skewMs) with
  | some token => pure (some token)
  | none => do
    let refreshed ← refresh
    pure (refreshed.map AuthResponse.accessToken)

/-- `hydrate`. -/
def hydrate : Mobile τ Unit := do
  let cached ← TokenStore.getUser
  showCached cached
  match ← getAccessToken expMs with
  | none => do
    showMounted none
    TokenStore.clear
  | some token => do
    match ← fetchMe (some token) with
    | none => do
      TokenStore.clear
      showMounted none
    | some me => do
      TokenStore.setUser me
      showMounted (some me)

end Client

/-- `signIn` and `signUp` of the provider, with the client's answer. -/
def enter (attempt : Mobile τ (Except String (AuthResponse τ × Nat))) : Mobile τ (Option String) := do
  match ← attempt with
  | .error e => pure (some e)
  | .ok (auth,n) => do
    let user ← match auth.user with
      | some user => pure (some user)
      | none => fetchMe (some auth.accessToken)
    look (.setUser user)
    look (.signedIn n)
    pure none

/-- `signOut` of the provider. -/
def leave : Mobile τ Unit := do
  let n ← look .began
  signOut
  look (.setUser none)
  look (.signedOut n)

/-- The operations of the client and of its provider. -/
inductive Operation (τ : Type) where
  | hydrate
  | signUp (input : SignUpInput)
  | signIn (input : SignInInput)
  | signOut
  | refresh
  | fetchMe (accessToken : Option τ)
  | getAccessToken

def Operation.perform (expMs : τ → Int) : Operation τ → Mobile τ Unit
  | .hydrate => MobileClient.hydrate expMs
  | .signUp input => do let _ ← enter (MobileClient.signUp input); pure ()
  | .signIn input => do let _ ← enter (MobileClient.signIn input); pure ()
  | .signOut => leave
  | .refresh => do let _ ← MobileClient.refresh; pure ()
  | .fetchMe token => do let _ ← MobileClient.fetchMe token; pure ()
  | .getAccessToken => do let _ ← MobileClient.getAccessToken expMs; pure ()

/-! ## Memory and storage -/

/-- The provider's state, the promises made so far by number, and the items. -/
structure Client (τ : Type) where
  clock : Int := 0
  refreshInFlight : Option Nat := none
  promises : List (Option (Option (AuthResponse τ))) := []
  mounted : Bool := true
  user : Option PublicUser := none
  storedAccess : Option τ := none
  storedRefresh : Option τ := none
  storedUser : Option PublicUser := none

/-- What a question does to the fields. An observer's questions do nothing. -/
def Client.memory : (q : Look τ) → Client τ → q.Answer × Client τ
  | .clock,s => (s.clock,s)
  | .refreshInFlight,s => (s.refreshInFlight,s)
  | .openRefresh,s =>
    (s.promises.length,
      {s with refreshInFlight := some s.promises.length,promises := s.promises++[none]})
  | .closeRefresh n auth,s =>
    ((),{s with refreshInFlight := none,promises := s.promises.set n (some auth)})
  | .mounted,s => (s.mounted,s)
  | .setUser user,s => ((),{s with user})
  | .accept,s => (0,s)
  | .began,s => (0,s)
  | .signedOut _,s => ((),s)
  | .signedIn _,s => ((),s)

/-- An item is deleted. -/
def Client.delete (s : Client τ) : Key → Client τ
  | .accessToken => {s with storedAccess := none}
  | .refreshToken => {s with storedRefresh := none}
  | .user => {s with storedUser := none}

section Answers

variable [DecidableEq τ]

/-- The answers the store and the promises allow. The API may answer anything. -/
def Client.await (s : Client τ) : (w : Await τ) → w.Answer → Option (Client τ)
  | .getAccessToken,value => if value=none ∨ value=s.storedAccess then some s else none
  | .getRefreshToken,value => if value=none ∨ value=s.storedRefresh then some s else none
  | .getUser,user => if user=none ∨ user=s.storedUser then some s else none
  | .setAccessToken value,true => some {s with storedAccess := some value}
  | .setRefreshToken value,true => some {s with storedRefresh := some value}
  | .setUser user,true => some {s with storedUser := some user}
  | .delete keys,(key,done) =>
    if key∈keys then some (if done then s.delete key else s) else none
  | .promise n,auth => if s.promises[n]?=some (some auth) then some s else none
  | _,_ => some s

end Answers

end Voyagent.MobileClient
