import Voyagent.RefreshTokens
import Voyagent.WebClient

/-!
# The session of a browser across its requests

Renders and actions of one browser ask for the user while tokens expire. A
refresh token is spent by the first request that presents it, and what a request
wrote is in the browser once its response has arrived.
-/

namespace Voyagent.WebSessions

open EffectPrograms CooperativePrograms TransitionRuns AuthClients WebClient

variable {τ : Type}

/-- What a request does without waiting: it looks at its cookies and the clock,
and ends with what it knows of the user. -/
inductive Visit (τ : Type) where
  | cookies (q : Look τ)
  | respond (user : Option PublicUser)

abbrev Visit.Answer : Visit τ → Type
  | .cookies q => q.Answer
  | .respond _ => Unit

abbrev Served (τ α : Type) : Type :=
  Task (S:=Visit τ) (W:=Await τ) Visit.Answer Await.Answer Failure α

/-- A question of the client as one of a request. -/
def visitOf : Ask (Look τ) (Await τ) → Ask (Visit τ) (Await τ)
  | .memory q => .memory (.cookies q)
  | .await w => .await w

def lookedUp : (q : Ask (Look τ) (Await τ)) →
    Ask.Answer Visit.Answer Await.Answer (visitOf q) → Ask.Answer Look.Answer Await.Answer q
  | .memory _ => id
  | .await _ => id

/-- The requests of a browser, and what is left of each. -/
abbrev Requests (τ σ : Type) : Type :=
  World (S:=Visit τ) (W:=Await τ) Visit.Answer Await.Answer Failure σ Nat Bool

/-- Respond with the user that a program of the client finds. -/
def responding (p : Web τ (Option PublicUser)) : Served τ Unit :=
  p.translate visitOf lookedUp >>= fun user => atOnce (Visit.respond user)

/-- A question that writes cookies. -/
def writes : Look τ → Bool
  | .setCookies .. => true
  | .removeCookies => true
  | _ => false

/-- The browser, its refresh tokens at the API, and the requests so far. -/
structure Place (τ : Type) where
  clock : Int
  jar : Jar τ
  /-- When the refresh tokens issued so far expire. -/
  expiresAt : τ → Option Int
  /-- The one that no request has spent. -/
  unspent : τ
  /-- The requests that were granted a token pair. -/
  renewed : Nat → Bool := fun _ => false
  /-- The cookies that the response of a request brings. -/
  written : Nat → Option (Look τ) := fun _ => none
  /-- What `getCurrentUser` returned to a request. -/
  user : Nat → Option (Option PublicUser) := fun _ => none

/-- The browser sends a refresh token whose lifetime has not ended. -/
def Place.alive (s : Place τ) : Bool :=
  ((s.jar.at s.clock).refresh.bind fun cookie => s.expiresAt cookie.value).any fun ends =>
    decide (s.clock<ends)

/-- A request reads the cookies sent with it; where it may write, the response
brings the cookies written last. -/
def memory (i : Nat) (writable : Bool) : (q : Visit τ) → Place τ → q.Answer × Place τ
  | .cookies q,s =>
    (((s.jar.at s.clock).look writable s.clock q).1,
      {s with
        written := if writes q && writable then Function.update s.written i (some q) else s.written})
  | .respond user,s => ((),{s with user := Function.update s.user i (some user)})

/-- What else happens: time passes, or the response of a request arrives. -/
inductive Change where
  | pass (ms : Nat)
  | arrive (i : Nat)

/-- A request begins, what it awaits is answered, or something else happens. -/
abbrev Event (τ : Type) : Type := Act (W:=Await τ) Await.Answer Nat Bool Change

def Place.change : Change → Place τ → Place τ
  | .pass ms,s => {s with clock := s.clock+ms}
  | .arrive i,s =>
    match s.user i,s.written i with
    | some _,some q =>
      {s with jar := (s.jar.look true s.clock q).2,written := Function.update s.written i none}
    | _,_ => s

section Serving

variable [DecidableEq τ] (expMs : τ → Int) (ttl : RefreshTokens.RefreshTtl)

/-- A refresh token is served once, while it lives. -/
def Place.accepts (s : Place τ) (refreshToken : τ) : Bool :=
  decide (refreshToken=s.unspent) && (s.expiresAt refreshToken).any fun ends => decide (s.clock<ends)

/-- A request is granted a pair with a new refresh token. -/
def Place.rotate (s : Place τ) (i : Nat) (pair : AuthResponse τ) : Place τ :=
  {s with
    expiresAt := Function.update s.expiresAt pair.refreshToken (some (s.clock+1000*ttl.seconds))
    unspent := pair.refreshToken
    renewed := Function.update s.renewed i true}

/-- The API is reachable: it grants a pair, without the user, for a refresh token
that it accepts, and the profile to an access token that has not expired. -/
def Place.await (i : Nat) (s : Place τ) : (w : Await τ) → w.Answer → Option (Place τ)
  | .refresh refreshToken,reply =>
    match reply.granted with
    | some pair =>
      if s.accepts refreshToken && (s.expiresAt pair.refreshToken).isNone && pair.user.isNone then
        some (s.rotate ttl i pair)
      else none
    | none => if s.accepts refreshToken then none else some s
  | .me accessToken,reply =>
    if reply.granted.isSome=decide (s.clock<expMs accessToken) then some s else none
  | _,_ => none

/-- The requests of a browser by whether they may write cookies. -/
def system :
    System (S:=Visit τ) (W:=Await τ) Visit.Answer Await.Answer Failure (Place τ) Nat Bool Change where
  body := fun _ _ => responding (getCurrentUser expMs)
  memory := memory
  await := fun i _ => Place.await expMs ttl i
  change := Place.change

/-- A refresh reaches the API before its token is spent, and the profile request
of a request that was granted a pair before the new access token expires. -/
def timely (w : Requests τ (Place τ)) : Event τ → Bool
  | .answer i _ =>
    match w.task i with
    | some (_,.ask (.await (.refresh refreshToken)) _) => decide (refreshToken=w.shared.unspent)
    | some (_,.ask (.await (.me accessToken)) _) =>
      !w.shared.renewed i || decide (w.shared.clock<expMs accessToken)
    | _ => true
  | _ => true

end Serving

/-! ## How far a request has come -/

/-- A request that has not ended. -/
inductive Stage (τ : Type) where
  /-- The profile for the token of its cookie. -/
  | profile (accessToken refreshToken : τ)
  | refreshing (refreshToken : τ)
  /-- The profile for a new token. -/
  | fetching (accessToken : τ)

/-- What a request awaits. -/
def Stage.awaits : Stage τ → Await τ
  | .profile accessToken _ => .me accessToken
  | .refreshing refreshToken => .refresh refreshToken
  | .fetching accessToken => .me accessToken

/-- How `getCurrentUser` goes on with the answer. -/
def Stage.rest : (stage : Stage τ) → stage.awaits.Answer → Web τ (Option PublicUser)
  | .profile _ refreshToken,reply =>
    match reply.granted with
    | some user => pure (some user)
    | none => refreshedUser refreshToken
  | .refreshing _,reply =>
    match reply.granted with
    | none => do
      tryClearSessionCookies
      pure none
    | some refreshed => do
      trySetSessionCookies refreshed.accessToken refreshed.refreshToken refreshed.expiresIn
      match refreshed.user with
      | some user => pure (some user)
      | none => do
        match ← fetchMe refreshed.accessToken with
        | none => do
          tryClearSessionCookies
          pure none
        | some user => pure (some user)
  | .fetching _,reply =>
    match reply.granted with
    | none => do
      tryClearSessionCookies
      pure none
    | some user => pure (some user)

/-- What is left of a request. -/
def Stage.program (stage : Stage τ) : Served τ Unit :=
  .ask (.await stage.awaits) fun reply => responding (stage.rest reply)

/-- The request was granted a pair. -/
def Stage.renewed : Stage τ → Bool
  | .fetching _ => true
  | _ => false

/-- What a request awaits comes in time. -/
def Stage.Timely (expMs : τ → Int) (s : Place τ) : Stage τ → Prop
  | .profile _ _ => True
  | .refreshing refreshToken => refreshToken=s.unspent
  | .fetching accessToken => s.clock<expMs accessToken

section Settling

variable {i : Nat} {writable : Bool} {s : Place τ}

/-- `getCurrentUser` once the cookies and the clock are read. -/
def userFrom (expMs : τ → Int) (now : Int) (access refreshToken : Option τ) :
    Web τ (Option PublicUser) :=
  match access.filter fun token => decide (now<expMs token-skewMs) with
  | none => renewedUser access refreshToken
  | some token => do
    match ← fetchMe token with
    | some user => pure (some user)
    | none => renewedUser access refreshToken

/-- A request with a refresh token awaits the profile or a pair first. -/
theorem settle_getCurrentUser (i : Nat) (writable : Bool) (expMs : τ → Int) {cookie : Cookie τ}
    (h : (s.jar.at s.clock).refresh=some cookie) :
    ∃ stage : Stage τ,stage.renewed=false ∧
      settle (memory i writable) (responding (getCurrentUser expMs)) s=(stage.program,s) := by
  have hread : ∀ access refreshToken,access=(s.jar.at s.clock).access.map Cookie.value →
      refreshToken=(s.jar.at s.clock).refresh.map Cookie.value →
      settle (memory i writable) (responding (getCurrentUser expMs)) s=
        settle (memory i writable) (responding (userFrom expMs s.clock access refreshToken)) s := by
    rintro _ _ rfl rfl
    rfl
  rw [hread _ (some cookie.value) rfl (by rw [h]; rfl),userFrom]
  split
  · exact ⟨.refreshing cookie.value,rfl,rfl⟩
  · rename_i token _
    exact ⟨.profile token cookie.value,rfl,rfl⟩

theorem settle_pure (user : Option PublicUser) :
    settle (memory i writable) (responding (pure user)) s=
      (.done (),{s with user := Function.update s.user i (some user)}) := rfl

theorem settle_refreshedUser (refreshToken : τ) :
    settle (memory i writable) (responding (refreshedUser refreshToken)) s=
      ((Stage.refreshing refreshToken).program,s) := rfl

/-- Without a user the cookies are cleared where they may be. -/
theorem settle_tryClear :
    settle (memory i writable) (responding do tryClearSessionCookies; pure none) s=
      (.done (),{s with
        written := if writable then Function.update s.written i (some .removeCookies) else s.written
        user := Function.update s.user i (some none)}) := by
  cases writable <;> rfl

/-- With a new pair the profile is awaited. -/
theorem settle_trySet (access refreshToken : τ) (expiresIn : Int) :
    settle (memory i writable) (responding do
      trySetSessionCookies access refreshToken expiresIn
      match ← fetchMe access with
      | none => do
        tryClearSessionCookies
        pure none
      | some user => pure (some user)) s=((Stage.fetching access).program,{s with
        written := if writable then Function.update s.written i
          (some (.setCookies access expiresIn refreshToken refreshLifetimeSeconds)) else s.written}) := by
  cases writable <;> rfl

end Settling

/-! ## What one step does -/

/-- No refresh token expires after the one that is not spent. -/
def Latest (ttl : RefreshTokens.RefreshTtl) (s : Place τ) : Prop :=
  ∃ ends,s.expiresAt s.unspent=some ends ∧ ends ≤ s.clock+1000*ttl.seconds ∧
    ∀ x e,s.expiresAt x=some e → e ≤ ends

variable {expMs : τ → Int} {ttl : RefreshTokens.RefreshTtl} {s t : Place τ} {i : Nat}
  {w w' : Requests τ (Place τ)}

/-- What happens elsewhere tells a request nothing. -/
theorem change_keeps (s : Place τ) (c : Change) :
    (s.change c).renewed=s.renewed ∧ (s.change c).user=s.user := by
  cases c with
  | pass ms => exact ⟨rfl,rfl⟩
  | arrive i =>
    unfold Place.change
    dsimp only
    split <;> exact ⟨rfl,rfl⟩

theorem Latest.change (h : Latest ttl s) (c : Change) : Latest ttl (s.change c) := by
  obtain ⟨ends,hunspent,hends,hall⟩ := h
  cases c with
  | pass ms =>
    refine ⟨ends,hunspent,?_,hall⟩
    change ends ≤ s.clock+ms+1000*ttl.seconds
    omega
  | arrive i =>
    unfold Place.change
    dsimp only
    split
    · exact ⟨ends,hunspent,hends,hall⟩
    · exact ⟨ends,hunspent,hends,hall⟩

/-- Requests go on without a null while the token that is not spent lives longest. -/
structure Standing (ttl : RefreshTokens.RefreshTtl) (w : Requests τ (Place τ)) : Prop where
  latest : Latest ttl w.shared
  idle : ∀ i,w.task i=none → w.shared.renewed i=false
  stage : ∀ i kind p,w.task i=some (kind,p) →
    p=.done () ∨ ∃ stage : Stage τ,p=stage.program ∧ w.shared.renewed i=stage.renewed
  user : ∀ i,w.shared.user i≠some none

/-- A request has ended with null. -/
def Refused (w : Requests τ (Place τ)) : Prop :=
  ∃ i kind,w.task i=some (kind,.done ()) ∧ w.shared.user i=some none

/-- One more program goes on, and the others stay. -/
theorem Standing.put (h : Standing ttl w) {kind : Bool} {p : Served τ Unit} (hlatest : Latest ttl s)
    (hrenewed : ∀ j,j≠i → s.renewed j=w.shared.renewed j) (huser : ∀ j,s.user j≠some none)
    (hp : p=.done () ∨ ∃ stage : Stage τ,p=stage.program ∧ s.renewed i=stage.renewed) :
    Standing ttl ⟨s,Function.update w.task i (some (kind,p))⟩ := by
  refine ⟨hlatest,fun j hj => ?_,fun j kind' p' hj => ?_,huser⟩
  · change Function.update w.task i _ j=none at hj
    by_cases hji : j=i
    · subst hji
      rw [Function.update_self] at hj
      cases hj
    · rw [Function.update_of_ne hji] at hj
      exact (hrenewed j hji).trans (h.idle j hj)
  · change Function.update w.task i _ j=_ at hj
    by_cases hji : j=i
    · subst hji
      rw [Function.update_self] at hj
      cases hj
      exact hp
    · rw [Function.update_of_ne hji] at hj
      obtain hdone|⟨stage,hprogram,hstage⟩ := h.stage j kind' p' hj
      · exact .inl hdone
      · exact .inr ⟨stage,hprogram,(hrenewed j hji).trans hstage⟩

/-- What a request returned is left alone by the others. -/
theorem settle_user {j : Nat} (hji : j≠i) {writable : Bool} (p : Served τ Unit) (s : Place τ) :
    (settle (memory i writable) p s).2.user j=s.user j := by
  induction p generalizing s with
  | done a => rfl
  | fail e => rfl
  | ask q rest ih =>
    cases q with
    | memory q =>
      refine (ih _ _).trans ?_
      cases q with
      | cookies q => rfl
      | respond user => exact Function.update_of_ne hji ..
    | await v => rfl

section Steps

variable [DecidableEq τ]

theorem Latest.rotate (h : Latest ttl s) (pair : AuthResponse τ) : Latest ttl (s.rotate ttl i pair) := by
  obtain ⟨ends,-,hends,hall⟩ := h
  refine ⟨s.clock+1000*ttl.seconds,Function.update_self ..,Int.le_refl (s.clock+1000*ttl.seconds),
    fun x e hx => ?_⟩
  change Function.update s.expiresAt _ _ x=some e at hx
  by_cases hnew : x=pair.refreshToken
  · subst hnew
    rw [Function.update_self] at hx
    exact Int.le_of_eq (Option.some.inj hx).symm
  · rw [Function.update_of_ne hnew] at hx
    exact Int.le_trans (hall x e hx) hends

/-- While the session of the browser lives, the API accepts the token that is not spent. -/
theorem Latest.accepts_iff (h : Latest ttl s) (halive : s.alive=true) (refreshToken : τ) :
    s.accepts refreshToken=true ↔ refreshToken=s.unspent := by
  obtain ⟨ends,hunspent,-,hall⟩ := h
  obtain ⟨e,hsent,he⟩ := (Option.any_eq_true _ _).mp halive
  obtain ⟨cookie,-,hcookie⟩ := Option.bind_eq_some_iff.mp hsent
  have hlives : s.clock<ends := Int.lt_of_lt_of_le (of_decide_eq_true he) (hall _ _ hcookie)
  unfold Place.accepts
  rw [Bool.and_eq_true,decide_eq_true_iff,and_iff_left_iff_imp]
  rintro rfl
  rw [hunspent]
  exact decide_eq_true hlives

variable {refreshToken : τ}

theorem await_refresh {reply : Reply (AuthResponse τ)}
    (h : s.await expMs ttl i (.refresh refreshToken) reply=some t) :
    (∃ pair,reply.granted=some pair ∧ pair.user=none ∧ s.accepts refreshToken=true ∧
        t=s.rotate ttl i pair) ∨
      (reply.granted=none ∧ s.accepts refreshToken=false ∧ t=s) := by
  unfold Place.await at h
  dsimp only at h
  split at h
  · rename_i pair hreply
    split at h
    · rename_i hserved
      simp only [Bool.and_eq_true,Option.isNone_iff_eq_none] at hserved
      exact .inl ⟨pair,hreply,hserved.2,hserved.1.1,(Option.some.inj h).symm⟩
    · cases h
  · rename_i hreply
    split at h
    · cases h
    · rename_i hrefused
      exact .inr ⟨hreply,Bool.eq_false_iff.mpr hrefused,(Option.some.inj h).symm⟩

variable {accessToken : τ}

theorem await_me {reply : Reply PublicUser} (h : s.await expMs ttl i (.me accessToken) reply=some t) :
    (reply.granted.isSome=true ↔ s.clock<expMs accessToken) ∧ t=s := by
  unfold Place.await at h
  dsimp only at h
  split at h
  · rename_i hgranted
    exact ⟨by rw [hgranted,decide_eq_true_iff],(Option.some.inj h).symm⟩
  · cases h

/-- A request that ends with a user. -/
theorem Standing.shown (h : Standing ttl w) {kind : Bool} (user : PublicUser) :
    Standing ttl (w.resume (system expMs ttl) i kind (responding (pure (some user))) w.shared) := by
  rw [resume_of_settle (settle_pure (some user))]
  refine h.put h.latest (fun _ _ => rfl) (fun j => ?_) (.inl rfl)
  change Function.update w.shared.user i _ j≠_
  by_cases hji : j=i
  · subst hji
    rw [Function.update_self]
    exact nofun
  · rw [Function.update_of_ne hji]
    exact h.user j

/-- A request that ends without one. -/
theorem refused_tryClear {kind : Bool} (w : Requests τ (Place τ)) :
    Refused (w.resume (system expMs ttl) i kind
      (responding do tryClearSessionCookies; pure none) w.shared) := by
  rw [resume_of_settle settle_tryClear]
  exact ⟨i,kind,Function.update_self ..,Function.update_self ..⟩

theorem await_user {v : Await τ} {a : v.Answer} (h : s.await expMs ttl i v a=some t) : t.user=s.user := by
  cases v with
  | refresh refreshToken =>
    obtain ⟨pair,-,-,-,rfl⟩|⟨-,-,rfl⟩ := await_refresh h
    · rfl
    · rfl
  | me accessToken => rw [(await_me h).2]
  | signUp input => cases h
  | signIn input => cases h
  | signOut access refreshToken => cases h

variable {a : Event τ}

/-- A refused request stays refused. -/
theorem Refused.step (h : Refused w) (hs : Step (system expMs ttl) w a w') : Refused w' := by
  obtain ⟨j,kind,htask,huser⟩ := h
  cases a with
  | start i writable =>
    obtain ⟨hnone,rfl⟩ := step_start hs
    have hji : j≠i := by
      rintro rfl
      rw [hnone] at htask
      cases htask
    exact ⟨j,kind,(Function.update_of_ne hji ..).trans htask,(settle_user hji _ _).trans huser⟩
  | answer i a =>
    obtain ⟨writable,v,rest,t,hwaits,hawait,rfl⟩ := step_answer hs
    have hji : j≠i := by
      rintro rfl
      rw [hwaits] at htask
      cases htask
    refine ⟨j,kind,(Function.update_of_ne hji ..).trans htask,(settle_user hji _ _).trans ?_⟩
    rw [await_user hawait,huser]
  | change c =>
    cases hs
    exact ⟨j,kind,htask,(congrFun (change_keeps w.shared c).2 j).trans huser⟩

theorem timely_iff {kind : Bool} {stage : Stage τ} {a : (v : Await τ) → v.Answer}
    (htask : w.task i=some (kind,stage.program)) (hrenewed : w.shared.renewed i=stage.renewed) :
    timely expMs w (.answer i a)=true ↔ stage.Timely expMs w.shared := by
  unfold timely
  dsimp only
  rw [htask]
  cases stage with
  | profile accessToken refreshToken =>
    change (!w.shared.renewed i || _)=true ↔ True
    rw [hrenewed]
    exact iff_of_true rfl trivial
  | refreshing refreshToken => exact decide_eq_true_iff
  | fetching accessToken =>
    change (!w.shared.renewed i || _)=true ↔ _
    rw [hrenewed]
    exact decide_eq_true_iff

/-- Whatever the API says of the token of a cookie, the request goes on. -/
theorem Standing.profile (h : Standing ttl w) {kind : Bool} {reply : Reply PublicUser}
    (hrenewed : w.shared.renewed i=false)
    (hawait : w.shared.await expMs ttl i (.me accessToken) reply=some s) :
    Standing ttl (w.resume (system expMs ttl) i kind
      (responding ((Stage.profile accessToken refreshToken).rest reply)) s) := by
  obtain ⟨-,rfl⟩ := await_me hawait
  unfold Stage.rest
  dsimp only
  cases reply.granted with
  | some user => exact h.shown user
  | none =>
    dsimp only
    rw [resume_of_settle (settle_refreshedUser refreshToken)]
    exact h.put h.latest (fun _ _ => rfl) h.user (.inr ⟨.refreshing refreshToken,rfl,hrenewed⟩)

/-- A refresh is granted exactly where its token is not spent, and what is not
granted ends the request with null. -/
theorem Standing.refreshing (h : Standing ttl w) (halive : w.shared.alive=true) {kind : Bool}
    {reply : Reply (AuthResponse τ)}
    (hawait : w.shared.await expMs ttl i (.refresh refreshToken) reply=some s)
    (hw : w'=w.resume (system expMs ttl) i kind
      (responding ((Stage.refreshing refreshToken).rest reply)) s) :
    (Standing ttl w' ∧ refreshToken=w.shared.unspent) ∨ (Refused w' ∧ refreshToken≠w.shared.unspent) := by
  have hiff := h.latest.accepts_iff halive refreshToken
  unfold Stage.rest at hw
  dsimp only at hw
  obtain ⟨pair,hreply,huser,haccepts,rfl⟩|⟨hreply,haccepts,rfl⟩ := await_refresh hawait
  · rw [hreply] at hw
    dsimp only at hw
    rw [huser] at hw
    dsimp only at hw
    rw [hw,resume_of_settle (settle_trySet ..)]
    have hlatest := h.latest.rotate (i:=i) pair
    exact .inl ⟨h.put hlatest (fun j hji => Function.update_of_ne hji ..) h.user
      (.inr ⟨.fetching pair.accessToken,rfl,Function.update_self ..⟩),hiff.mp haccepts⟩
  · rw [hreply] at hw
    rw [hw]
    refine .inr ⟨refused_tryClear w,fun heq => ?_⟩
    rw [hiff.mpr heq] at haccepts
    cases haccepts

/-- The profile for a new token is granted exactly before it expires. -/
theorem Standing.fetching (h : Standing ttl w) {kind : Bool} {reply : Reply PublicUser}
    (hawait : w.shared.await expMs ttl i (.me accessToken) reply=some s)
    (hw : w'=w.resume (system expMs ttl) i kind (responding ((Stage.fetching accessToken).rest reply)) s) :
    (Standing ttl w' ∧ w.shared.clock<expMs accessToken) ∨
      (Refused w' ∧ ¬w.shared.clock<expMs accessToken) := by
  obtain ⟨hgranted,rfl⟩ := await_me hawait
  unfold Stage.rest at hw
  dsimp only at hw
  rw [← hgranted]
  cases hreply : reply.granted with
  | some user =>
    rw [hreply] at hw
    exact .inl ⟨hw ▸ h.shown user,rfl⟩
  | none =>
    rw [hreply] at hw
    exact .inr ⟨hw ▸ refused_tryClear w,Bool.false_ne_true⟩

/-- While the session of the browser lives, a step keeps the requests standing
exactly if what it answers comes in time. -/
theorem Standing.step (h : Standing ttl w) (halive : w.shared.alive=true)
    (hs : Step (system expMs ttl) w a w') :
    (Standing ttl w' ∧ timely expMs w a=true) ∨ (Refused w' ∧ ¬timely expMs w a=true) := by
  cases a with
  | start i writable =>
    obtain ⟨hnone,rfl⟩ := step_start hs
    obtain ⟨_,hsent,-⟩ := (Option.any_eq_true _ _).mp halive
    obtain ⟨cookie,hcookie,-⟩ := Option.bind_eq_some_iff.mp hsent
    obtain ⟨stage,hstage,hsettle⟩ := settle_getCurrentUser i writable expMs hcookie
    rw [resume_of_settle hsettle]
    refine .inl ⟨h.put h.latest (fun _ _ => rfl) h.user (.inr ⟨stage,rfl,?_⟩),rfl⟩
    rw [h.idle i hnone,hstage]
  | answer i a =>
    obtain ⟨writable,v,rest,t,htask,hawait,hw⟩ := step_answer hs
    obtain hdone|⟨stage,hprogram,hrenewed⟩ := h.stage i writable _ htask
    · cases hdone
    · rw [hprogram] at htask
      rw [timely_iff htask hrenewed]
      unfold Stage.program at hprogram
      cases hprogram
      cases stage with
      | profile accessToken refreshToken => exact .inl ⟨hw ▸ h.profile hrenewed hawait,trivial⟩
      | refreshing refreshToken => exact h.refreshing halive hawait hw
      | fetching accessToken => exact h.fetching hawait hw
  | change c =>
    cases hs
    obtain ⟨hrenewed,huser⟩ := change_keeps w.shared c
    refine .inl ⟨⟨h.latest.change c,?_,?_,?_⟩,rfl⟩
    · exact fun i hi => (congrFun hrenewed i).trans (h.idle i hi)
    · intro i kind p hi
      obtain hdone|⟨stage,hprogram,hstage⟩ := h.stage i kind p hi
      · exact .inl hdone
      · exact .inr ⟨stage,hprogram,(congrFun hrenewed i).trans hstage⟩
    · exact fun i hi => h.user i ((congrFun huser i).symm.trans hi)

/-! ## Runs -/

/-- The browser holds the refresh token that is not spent, and nothing is asked yet. -/
structure SignedIn (ttl : RefreshTokens.RefreshTtl) (s : Place τ) : Prop where
  latest : Latest ttl s
  holds : (s.jar.at s.clock).refresh.map Cookie.value=some s.unspent
  renewed : ∀ i,s.renewed i=false
  written : ∀ i,s.written i=none
  user : ∀ i,s.user i=none

/-- Steps taken while the session of the browser lives. -/
abbrev AliveStep (expMs : τ → Int) (ttl : RefreshTokens.RefreshTtl) :
    Requests τ (Place τ) → Event τ → Requests τ (Place τ) → Prop :=
  guarded (Step (system expMs ttl)) fun w _ => w.shared.alive=true

/-- Requests whose answers all came in time stand; after another one has been refused. -/
theorem standing_or_refused (hs : SignedIn ttl s) {as : List (Event τ)}
    (hrun : Run (AliveStep expMs ttl) {shared := s} as w) :
    (Standing ttl w ∧
        Run (guarded (AliveStep expMs ttl) fun w a => timely expMs w a=true) {shared := s} as w) ∨
      (Refused w ∧
        ¬Run (guarded (AliveStep expMs ttl) fun w a => timely expMs w a=true) {shared := s} as w) := by
  induction hrun with
  | start =>
    refine .inl ⟨⟨hs.latest,fun i _ => hs.renewed i,fun i kind p h => ?_,fun i h => ?_⟩,.start⟩
    · cases h
    · rw [hs.user i] at h
      cases h
  | next hrun hstep ih =>
    have hdet : Deterministic (AliveStep expMs ttl) := deterministic_guarded (deterministic_ofPartial _)
    rw [hrun.guarded_next_iff hdet hstep]
    rcases ih with ⟨hstanding,hguarded⟩|⟨hrefused,hnot⟩
    · rcases hstanding.step hstep.2 hstep.1 with ⟨hnext,htimely⟩|⟨hnext,hlate⟩
      · exact .inl ⟨hnext,hguarded,htimely⟩
      · exact .inr ⟨hnext,fun h => hlate h.2⟩
    · exact .inr ⟨hrefused.step hstep.1,fun h => hnot h.1⟩

/-- While the session of a browser lives, no request has been told null if and
only if every refresh reached the API before its token was spent and every new
access token before it expired. -/
theorem never_null_iff (expMs : τ → Int) (ttl : RefreshTokens.RefreshTtl) (s : Place τ)
    (hs : SignedIn ttl s) (as : List (Event τ)) (w : Requests τ (Place τ))
    (hrun : Run (AliveStep expMs ttl) {shared := s} as w) :
    (∀ i,w.shared.user i≠some none) ↔
      Run (guarded (AliveStep expMs ttl) fun w a => timely expMs w a=true) {shared := s} as w := by
  rcases standing_or_refused hs hrun with ⟨hstanding,hguarded⟩|⟨⟨i,_,_,hnull⟩,hnot⟩
  · exact iff_of_true hstanding.user hguarded
  · exact iff_of_false (fun h => h i hnull) hnot

end Steps

/-! ## An access token about to expire -/

theorem thirtyDays_atLeast : (3600 : Int)≤30*24*3600 := by decide

def thirtyDays : RefreshTokens.RefreshTtl := ⟨30*24*3600,thirtyDays_atLeast⟩

/-- Access tokens named by the second they expire in. -/
def expirySecond (token : Nat) : Int := 1000*token

def deskAgent : PublicUser :=
  {id := "u1",email := "agent@example.com",fullName := none,role := "agent",tenantId := "t1"
   tenantName := "Agency",createdAt := "2026-01-01T00:00:00Z"}

/-- Twenty seconds before the access token of the cookie expires. -/
def lastSeconds : Place Nat where
  clock := 900000
  jar := {access := some ⟨920,920000⟩,refresh := some ⟨1,2000000000⟩}
  expiresAt := fun token => if token=1 then some 2000000000 else none
  unspent := 1

/-- The API serves a refresh with the pair of token 2, and shows the profile. -/
def served : (v : Await Nat) → v.Answer
  | .refresh _ => .answered 200 (some ⟨1800,2,900,none⟩)
  | .me _ => .answered 200 (some deskAgent)
  | .signUp _ => .unreachable
  | .signIn _ => .unreachable
  | .signOut _ _ => .unreachable

/-- The API rejects a token. -/
def rejected : (v : Await Nat) → v.Answer
  | .refresh _ => .answered 401 none (some "invalid_refresh_token")
  | .me _ => .answered 401 none (some "unauthorized")
  | .signUp _ => .unreachable
  | .signIn _ => .unreachable
  | .signOut _ _ => .unreachable

/-- An action refreshes, and its cookies arrive. -/
def refreshedInAction : List (Event Nat) :=
  [.start 0 true,.answer 0 served,.answer 0 served,.change (.arrive 0)]

/-- A render refreshes and cannot write the new pair; a second later an action
presents the spent token again. -/
def refreshedInRender : List (Event Nat) :=
  [.start 0 false,.answer 0 served,.answer 0 served,.change (.pass 1000),.start 1 true,
    .answer 1 rejected]

theorem lastSeconds_signedIn : SignedIn thirtyDays lastSeconds where
  latest := by
    refine ⟨2000000000,rfl,by decide,fun x e h => ?_⟩
    change (if x=1 then some (2000000000 : Int) else none)=some e at h
    split at h
    · exact Int.le_of_eq (Option.some.inj h).symm
    · cases h
  holds := rfl
  renewed := fun _ => rfl
  written := fun _ => rfl
  user := fun _ => rfl

theorem never_null_iff_action :
    ∃ w,Run (AliveStep expirySecond thirtyDays) {shared := lastSeconds} refreshedInAction w ∧
      w.shared.user 0=some (some deskAgent) ∧
      w.shared.jar.refresh.map Cookie.value=some w.shared.unspent ∧
      ∀ i,w.shared.user i≠some none := by
  have hfold : ((refreshedInAction.foldlM (fun (w : Requests Nat (Place Nat)) a =>
      if w.shared.alive && timely expirySecond w a then step (system expirySecond thirtyDays) w a
      else none) {shared := lastSeconds}).map fun w =>
        (w.shared.user 0,w.shared.jar.refresh.map Cookie.value,w.shared.unspent))=
      some (some (some deskAgent),some 2,2) := by decide +kernel
  obtain ⟨w,hw,hview⟩ := Option.map_eq_some_iff.mp hfold
  obtain ⟨huser,hview⟩ := Prod.mk.inj hview
  obtain ⟨hcookie,hunspent⟩ := Prod.mk.inj hview
  have hrun : Run (guarded (AliveStep expirySecond thirtyDays) fun w a =>
      timely expirySecond w a=true) {shared := lastSeconds} _ w :=
    (guarded_run_of_foldlM hw).mono fun _ _ _ hs =>
      ⟨⟨hs.1,(Bool.and_eq_true_iff.mp hs.2).1⟩,(Bool.and_eq_true_iff.mp hs.2).2⟩
  exact ⟨w,hrun.unguard,huser,by rw [hcookie,hunspent],
    (never_null_iff expirySecond thirtyDays lastSeconds lastSeconds_signedIn _ w hrun.unguard).mpr hrun⟩

/-- The action is told null while the browser's session lives. -/
theorem render_loses_pair :
    SignedIn thirtyDays lastSeconds ∧
      ∃ w,Run (AliveStep expirySecond thirtyDays) {shared := lastSeconds} refreshedInRender w ∧
        w.shared.alive=true ∧ w.shared.user 0=some (some deskAgent) ∧ w.shared.user 1=some none := by
  have hfold : ((refreshedInRender.foldlM (fun (w : Requests Nat (Place Nat)) a =>
      if w.shared.alive then step (system expirySecond thirtyDays) w a else none)
        {shared := lastSeconds}).map fun w => (w.shared.alive,w.shared.user 0,w.shared.user 1))=
      some (true,some (some deskAgent),some none) := by decide +kernel
  obtain ⟨w,hw,hview⟩ := Option.map_eq_some_iff.mp hfold
  obtain ⟨halive,hview⟩ := Prod.mk.inj hview
  obtain ⟨huser,hnull⟩ := Prod.mk.inj hview
  exact ⟨lastSeconds_signedIn,w,guarded_run_of_foldlM hw,halive,huser,hnull⟩

end Voyagent.WebSessions
