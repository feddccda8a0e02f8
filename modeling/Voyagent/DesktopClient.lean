import Voyagent.AuthClients
import Voyagent.CooperativePrograms

/-!
# The desktop sign-in client

The client holds a session and a user in memory and keeps the session in a file
through commands of the shell. A command has its effect before its reply is
back. Refreshes share one promise while it is unresolved. Awaiting an operation
of the client itself adds no await to those of that operation.
-/

namespace Voyagent.DesktopClient

open EffectPrograms CooperativePrograms AuthClients

variable {τ : Type}

/-- `DesktopUser`. -/
structure DesktopUser where
  id : String
  email : String
  fullName : Option String
  role : String
  tenantId : String
  tenantName : String
  deriving DecidableEq

def toUser (wire : PublicUser) : DesktopUser :=
  {id := wire.id
   email := wire.email
   fullName := wire.fullName
   role := wire.role
   tenantId := wire.tenantId
   tenantName := wire.tenantName}

/-- `StoredSession`. -/
structure StoredSession (τ : Type) where
  accessToken : τ
  refreshToken : τ
  user : Option DesktopUser
  deriving DecidableEq

inductive Failure where
  /-- `AuthError`. -/
  | auth (message : String) (status : Nat)
  /-- `fetch` rejects. -/
  | network
  /-- A command of the shell fails. -/
  | storage
  /-- A body cannot be read. -/
  | unreadable
  deriving DecidableEq

/-- What an operation reads and writes without waiting. -/
inductive Look (τ : Type) where
  | clock
  | session
  | user
  | refreshInflight
  /-- A new promise is held as `#refreshInflight`. -/
  | openRefresh
  /-- The promise is resolved and no longer held. -/
  | closeRefresh (n : Nat) (token : Option τ)
  /-- `#session` and its user as `#user`. -/
  | hold (session : StoredSession τ)
  /-- The same on an explicit sign-in, counted by an observer. -/
  | accept (session : StoredSession τ)
  | setUser (user : DesktopUser)
  /-- `#session` and `#user` are null. -/
  | reset
  /-- An observer notes the sign-ins so far, -/
  | began
  /-- a sign-out that has completed, with the sign-ins at its begin, -/
  | signedOut (n : Nat)
  /-- and a sign-in that has completed, by its number. -/
  | signedIn (n : Nat)

abbrev Look.Answer : Look τ → Type
  | .clock => Int
  | .session => Option (StoredSession τ)
  | .user => Option DesktopUser
  | .refreshInflight => Option Nat
  | .openRefresh => Nat
  | .accept _ => Nat
  | .began => Nat
  | _ => Unit

/-- `voyagent_store_session`: the file is written, its permissions tightened. -/
inductive Written where
  | written
  | unprotected
  | failed

/-- What an operation awaits. -/
inductive Await (τ : Type) where
  | load
  /-- The reply of `load` arrives. -/
  | loaded (found : Option (StoredSession τ))
  | store (session : StoredSession τ)
  | clear
  /-- The reply of another command arrives. -/
  | replied
  | refresh (refreshToken : τ)
  | signUp (input : SignUpInput)
  | signIn (input : SignInInput)
  | signOut (accessToken refreshToken : Option τ)
  | me (token : τ)
  /-- A shared refresh is resolved. -/
  | promise (n : Nat)

abbrev Await.Answer : Await τ → Type
  | .load => Except Failure (Option (StoredSession τ))
  | .loaded _ => Unit
  | .store _ => Written
  | .clear => Except Failure Unit
  | .replied => Unit
  | .refresh _ => Reply (AuthResponse τ)
  | .signUp _ => Reply (AuthResponse τ)
  | .signIn _ => Reply (AuthResponse τ)
  | .signOut _ _ => Reply Unit
  | .me _ => Reply PublicUser
  | .promise _ => Option τ

abbrev Desktop (τ α : Type) : Type :=
  Task (S:=Look τ) (W:=Await τ) Look.Answer Await.Answer Failure α

/-- Read or write a field. -/
abbrev look (q : Look τ) : Desktop τ q.Answer := atOnce q

/-- Await an answer. -/
abbrev answer (w : Await τ) : Desktop τ w.Answer := awaited w

/-! ## The token store -/

/-- `tokenStore.get`. -/
def tokenStoreGet : Desktop τ (Option (StoredSession τ)) := do
  match ← answer .load with
  | .error e => do
    answer .replied
    .fail e
  | .ok found => do
    answer (.loaded found)
    pure found

/-- `tokenStore.set`. -/
def tokenStoreSet (session : StoredSession τ) : Desktop τ Unit := do
  let outcome ← answer (.store session)
  answer .replied
  match outcome with
  | .written => pure ()
  | _ => .fail .storage

/-- `tokenStore.clear`. -/
def tokenStoreClear : Desktop τ Unit := do
  let outcome ← answer .clear
  answer .replied
  ofExcept outcome

/-! ## The client -/

/-- `#persist`. -/
def persist : Desktop τ Unit := do
  match ← look .session with
  | none => pure ()
  | some session => do
    let user ← look .user
    tokenStoreSet {session with user}

/-- `#clearLocal`. -/
def clearLocal : Desktop τ Unit := do
  look .reset
  tokenStoreClear

/-- What `#refresh` does with an answer. -/
def takeRefreshed : Reply (AuthResponse τ) → Desktop τ (Option τ)
  | .unreachable => .fail .network
  | .answered status body _ =>
    if okStatus status then
      match body with
      | none => .fail .unreadable
      | some wire => do
        let held ← look .user
        let user := match wire.user with
          | some u => some (toUser u)
          | none => held
        look (.hold ⟨wire.accessToken,wire.refreshToken,user⟩)
        persist
        pure (some wire.accessToken)
    else do
      clearLocal
      pure none

/-- The body of `#refresh`: whatever is raised resolves the promise to null. -/
def requestRefresh (refreshToken : τ) : Desktop τ (Option τ) :=
  Program.recover (do
    let res ← answer (.refresh refreshToken)
    takeRefreshed res) fun _ => pure none

/-- `#refresh`. -/
def refresh : Desktop τ (Option τ) := do
  match ← look .session with
  | none => pure none
  | some session => do
    match ← look .refreshInflight with
    | some n => answer (.promise n)
    | none => do
      let n ← look .openRefresh
      let token ← requestRefresh session.refreshToken
      look (.closeRefresh n token)
      answer (.promise n)

/-- The end of `#fetchMeWith`, for an answer that is not tried again. -/
def readMe : Reply PublicUser → Desktop τ (Option DesktopUser)
  | .unreachable => .fail .network
  | .answered status body _ =>
    if okStatus status then
      match body with
      | none => .fail .unreadable
      | some wire => pure (some (toUser wire))
    else pure none

/-- A profile is read from a success. -/
theorem readMe_cases (reply : Reply PublicUser) :
    (∃ wire,reply.granted=some wire ∧ (readMe reply : Desktop τ _)=pure (some (toUser wire))) ∨
      (reply.granted=none ∧ ((readMe reply : Desktop τ _)=pure none ∨
        ∃ e,(readMe reply : Desktop τ _)=.fail e)) := by
  cases reply with
  | unreachable => exact .inr ⟨rfl,.inr ⟨.network,rfl⟩⟩
  | answered status body detail =>
    unfold readMe Reply.granted
    dsimp only
    split
    · cases body with
      | none => exact .inr ⟨rfl,.inr ⟨.unreadable,rfl⟩⟩
      | some wire => exact .inl ⟨wire,rfl,rfl⟩
    · exact .inr ⟨rfl,.inl rfl⟩

/-- `#fetchMeWith`: after a 401 one refresh and one more try. -/
def fetchMeWith (token : τ) : Desktop τ (Option DesktopUser) :=
  Program.recover (do
    let res ← answer (.me token)
    if res.rejected then
      match ← refresh with
      | none => pure none
      | some refreshed => do
        let retry ← answer (.me refreshed)
        readMe retry
    else readMe res) fun _ => pure none

section Client

variable (expMs : τ → Int)

/-- `getAccessToken`. -/
def getAccessToken : Desktop τ (Option τ) := do
  match ← look .session with
  | none => pure none
  | some session => do
    let now ← look .clock
    if now+skewMs<expMs session.accessToken then pure (some session.accessToken)
    else refresh

/-- `init`. -/
def init : Desktop τ Unit := do
  match ← tokenStoreGet with
  | none => pure ()
  | some stored => do
    look (.hold stored)
    match ← getAccessToken expMs with
    | none => clearLocal
    | some token => do
      match ← fetchMeWith token with
      | none => clearLocal
      | some me => do
        look (.setUser me)
        persist

/-- `fetchMe`. -/
def fetchMe : Desktop τ (Option DesktopUser) := do
  match ← getAccessToken expMs with
  | none => pure none
  | some token => do
    match ← fetchMeWith token with
    | none => pure none
    | some me => do
      look (.setUser me)
      persist
      pure (some me)

end Client

/-- The end of `#post`. -/
def readAuth : Reply (AuthResponse τ) → Desktop τ (AuthResponse τ)
  | .unreachable => .fail .network
  | .answered status body detail =>
    if okStatus status then
      match body with
      | none => .fail .unreadable
      | some wire => pure wire
    else
      .fail (.auth ((detail.filter fun text => text≠"").getD s!"request_failed_{status}") status)

/-- `#acceptAuth`. -/
def acceptAuth (wire : AuthResponse τ) : Desktop τ DesktopUser := do
  let n ← look (.accept ⟨wire.accessToken,wire.refreshToken,wire.user.map toUser⟩)
  persist
  match ← look .user with
  | some user => do
    look (.signedIn n)
    pure user
  | none => do
    match ← fetchMeWith wire.accessToken with
    | none => .fail (.auth "me_lookup_failed" 0)
    | some me => do
      look (.setUser me)
      persist
      look (.signedIn n)
      pure me

/-- `signUp`. -/
def signUp (input : SignUpInput) : Desktop τ DesktopUser := do
  let res ← answer (.signUp input)
  let wire ← readAuth res
  acceptAuth wire

/-- `signIn`. -/
def signIn (input : SignInInput) : Desktop τ DesktopUser := do
  let res ← answer (.signIn input)
  let wire ← readAuth res
  acceptAuth wire

/-- `signOut`: whatever becomes of the request, the session is cleared. -/
def signOut : Desktop τ Unit := do
  let n ← look .began
  let session ← look .session
  let _ ← answer (.signOut (session.map StoredSession.accessToken)
    (session.map StoredSession.refreshToken))
  clearLocal
  look (.signedOut n)

/-- The operations of the client. -/
inductive Operation where
  | init
  | signUp (input : SignUpInput)
  | signIn (input : SignInInput)
  | signOut
  | fetchMe
  | getAccessToken

def Operation.perform (expMs : τ → Int) : Operation → Desktop τ Unit
  | .init => DesktopClient.init expMs
  | .signUp input => do let _ ← DesktopClient.signUp input; pure ()
  | .signIn input => do let _ ← DesktopClient.signIn input; pure ()
  | .signOut => DesktopClient.signOut
  | .fetchMe => do let _ ← DesktopClient.fetchMe expMs; pure ()
  | .getAccessToken => do let _ ← DesktopClient.getAccessToken expMs; pure ()

/-! ## Memory and storage -/

/-- The client's fields, the promises made so far by number, and the file. -/
structure Client (τ : Type) where
  clock : Int := 0
  session : Option (StoredSession τ) := none
  user : Option DesktopUser := none
  refreshInflight : Option Nat := none
  promises : List (Option (Option τ)) := []
  stored : Option (StoredSession τ) := none

/-- What a question does to the fields. An observer's questions do nothing. -/
def Client.memory : (q : Look τ) → Client τ → q.Answer × Client τ
  | .clock,s => (s.clock,s)
  | .session,s => (s.session,s)
  | .user,s => (s.user,s)
  | .refreshInflight,s => (s.refreshInflight,s)
  | .openRefresh,s =>
    (s.promises.length,
      {s with refreshInflight := some s.promises.length,promises := s.promises++[none]})
  | .closeRefresh n token,s =>
    ((),{s with refreshInflight := none,promises := s.promises.set n (some token)})
  | .hold session,s => ((),{s with session := some session,user := session.user})
  | .accept session,s => (0,{s with session := some session,user := session.user})
  | .setUser user,s => ((),{s with user := some user})
  | .reset,s => ((),{s with session := none,user := none})
  | .began,s => (0,s)
  | .signedOut _,s => ((),s)
  | .signedIn _,s => ((),s)

variable [DecidableEq τ]

/-- The answers the file and the promises allow. The API may answer anything. -/
def Client.await (s : Client τ) : (w : Await τ) → w.Answer → Option (Client τ)
  | .load,.ok found => if found=s.stored then some s else none
  | .store session,.written => some {s with stored := some session}
  | .store session,.unprotected => some {s with stored := some session}
  | .clear,.ok _ => some {s with stored := none}
  | .promise n,token => if s.promises[n]?=some (some token) then some s else none
  | _,_ => some s

end Voyagent.DesktopClient
