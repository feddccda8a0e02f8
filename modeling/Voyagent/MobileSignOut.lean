import Voyagent.MobileClient
import Voyagent.SessionPlaces

/-!
# Sign-out on the phone

The three items of the store and the user shown are four places that may hold
session data. The API answers with tokens of the session asked for, and a
sign-in also with the user. What an operation obtained for one session it
writes item by item after awaits, without looking whether that session was
signed out of meanwhile.
-/

namespace Voyagent.MobileSignOut

open EffectPrograms CooperativePrograms AuthClients MobileClient SessionPlaces TransitionRuns

inductive Place where
  | item (key : Key)
  | screen
  deriving DecidableEq

variable {τ ι : Type}

/-- The data a place holds. -/
def held (c : Client τ) : Place → List (Datum τ)
  | .item .accessToken => (c.storedAccess.map Datum.token).toList
  | .item .refreshToken => (c.storedRefresh.map Datum.token).toList
  | .item .user => (c.storedUser.map fun user => .user user.id).toList
  | .screen => (c.user.map fun user => .user user.id).toList

/-- The client and what the observer knows. -/
structure Watched (τ ι : Type) where
  client : Client τ
  watch : Watch ι Place := {}

def signsOut : Operation τ → Bool
  | .signOut => true
  | _ => false

/-- What a question does to the client and to what the observer knows. -/
def memory (i : ι) (kind : Operation τ) (q : Look τ) (s : Watched τ ι) : q.Answer × Watched τ ι :=
  let r := Client.memory q s.client
  match q,r with
  | .setUser (some _),r => (r.1,⟨r.2,s.watch.write .screen⟩)
  | .setUser none,r => (r.1,⟨r.2,s.watch.clear (signsOut kind) .screen⟩)
  | .accept,r => ((s.watch.accept i).accepted,⟨r.2,s.watch.accept i⟩)
  | .began,r => (s.watch.accepted,⟨r.2,s.watch⟩)
  | .signedOut n,r => (r.1,⟨r.2,s.watch.signedOut n⟩)
  | .signedIn n,r => (r.1,⟨r.2,s.watch.signedIn n⟩)
  | _,r => (r.1,⟨r.2,s.watch⟩)

/-- What an answer tells the observer. A write that fails leaves an item as it was. -/
def noted (kind : Operation τ) (watch : Watch ι Place) : (w : Await τ) → w.Answer → Watch ι Place
  | .setAccessToken _,_ => watch.write (.item .accessToken)
  | .setRefreshToken _,_ => watch.write (.item .refreshToken)
  | .setUser _,_ => watch.write (.item .user)
  | .delete _,(key,true) => watch.clear (signsOut kind) (.item key)
  | _,_ => watch

/-- The time, and whether the provider is mounted. -/
inductive Change where
  | clock (now : Int)
  | mounted (mounted : Bool)

/-- The client with its operations begun so far. -/
abbrev State (τ ι : Type) : Type :=
  World (S:=Look τ) (W:=Await τ) Look.Answer Await.Answer Empty (Watched τ ι) ι (Operation τ)

abbrev Move (τ ι : Type) : Type := Act (W:=Await τ) Await.Answer ι (Operation τ) Change

section Answers

variable [DecidableEq ι] (m : Issued τ ι)

/-- The API answers for the session it is asked about. -/
def honest (i : ι) : (w : Await τ) → w.Answer → Bool
  | .refresh refreshToken,reply => m.honestPair (m.origin refreshToken) reply
  | .signUp _,reply => m.honestSignIn (.signIn i) reply
  | .signIn _,reply => m.honestSignIn (.signIn i) reply
  | .me token,reply => m.honestMe token reply
  | _,_ => true

/-- What an item holds after a write may be there. -/
def writeFits (s : Watched τ ι) (key : Key) (d : Datum τ) (done : Bool) : Bool :=
  m.fits (if done then [d] else held s.client (.item key)) (s.watch.owner (.item key))

/-- Session data is written or read back while the place it goes to may still
hold data of its session: no sign-out has cleared the place meanwhile. A
sign-out has its deletions carried out, and a write that fails leaves no data
of an earlier session. -/
def timely (kind : Operation τ) (s : Watched τ ι) : (w : Await τ) → w.Answer → Bool
  | .setAccessToken value,done => writeFits m s .accessToken (.token value) done
  | .setRefreshToken value,done => writeFits m s .refreshToken (.token value) done
  | .setUser user,done => writeFits m s .user (.user user.id) done
  | .gotUser (some user),_ => m.fits ([.user user.id] : List (Datum τ)) (s.watch.owner .screen)
  | .wroteUser user,_ => m.fits ([.user user.id] : List (Datum τ)) (s.watch.owner .screen)
  | .delete _,(_,done) => done || !signsOut kind
  | _,_ => true

variable [DecidableEq τ]

def await (kind : Operation τ) (i : ι) (s : Watched τ ι) (w : Await τ) (a : w.Answer) :
    Option (Watched τ ι) :=
  if honest m i w a then
    (s.client.await w a).map fun client => ⟨client,noted kind s.watch w a⟩
  else none

/-- Any operations of the client, while its surroundings change. -/
def system : System (S:=Look τ) (W:=Await τ) Look.Answer Await.Answer Empty (Watched τ ι) ι
    (Operation τ) Change where
  body := fun _ kind => kind.perform m.expMs
  memory := memory
  await := fun i kind => await m kind i
  change := fun change s => match change with
    | .clock now => {s with client := {s.client with clock := now}}
    | .mounted mounted => {s with client := {s.client with mounted}}

end Answers

/-! ## What operations keep -/

section Rules

variable [DecidableEq ι] {m : Issued τ ι} {i : ι} {kind : Operation τ} {s t : Watched τ ι}
  {c : Client τ}

/-- The places hold what belongs to their owners. -/
def Sound (m : Issued τ ι) (s : Watched τ ι) : Prop :=
  Consistent m.Belongs (held s.client) s.watch

/-- The questions that keep this. -/
def Allowed (m : Issued τ ι) (s : Watched τ ι) : Look τ → Prop
  | .setUser (some user) => Owned m.Belongs [.user user.id] (s.watch.owner .screen)
  | .signedOut n => s.watch.accepted=n → ∀ l,s.watch.owner l=none ∧ s.watch.settled l=true
  | .signedIn n => s.watch.accepted=n → ∀ l,s.watch.settled l=true
  | _ => True

omit [DecidableEq ι] in
/-- Whatever is shown, the items are as they were. -/
theorem held_show (user : Option PublicUser) :
    ∀ l,l≠.screen → held {s.client with user} l=held s.client l := by
  intro l hl
  cases l with
  | item key => cases key <;> rfl
  | screen => exact absurd rfl hl

/-- An allowed question keeps what the places hold. -/
theorem Sound.memory (h : Sound m s) (i : ι) (kind : Operation τ) {q : Look τ} (hq : Allowed m s q) :
    Sound m (memory i kind q s).2 ∧ Later s.watch (MobileSignOut.memory i kind q s).2.watch := by
  cases q with
  | setUser user =>
    cases user with
    | none => exact ⟨h.clear _ rfl (held_show none),later_clear ..⟩
    | some user => exact ⟨h.write hq (held_show (some user)),later_write ..⟩
  | accept => exact ⟨.accept ..,later_accept ..⟩
  | signedOut n => exact ⟨h.signOut hq,later_signedOut ..⟩
  | signedIn n => exact ⟨h.signIn hq,later_signedIn ..⟩
  | _ => exact ⟨h,.refl _⟩

/-- A write to an item, or one that fails where it does no harm. -/
theorem Sound.item (h : Sound m s) {key : Key} {d : Datum τ} {done : Bool}
    (hfits : writeFits m s key d done=true)
    (hkey : held c (.item key)=if done then [d] else held s.client (.item key))
    (hother : ∀ l,l≠.item key → held c l=held s.client l) :
    Sound m ⟨c,s.watch.write (.item key)⟩ := by
  refine h.write ?_ hother
  rw [hkey]
  exact (fits_iff ..).mp hfits

/-- A deleted item is gone and the other places are as they were. -/
theorem held_delete (c : Client τ) (key : Key) :
    held (c.delete key) (.item key)=[] ∧ ∀ l,l≠.item key → held (c.delete key) l=held c l := by
  refine ⟨by cases key <;> rfl,fun l hl => ?_⟩
  cases l with
  | screen => cases key <;> rfl
  | item other =>
    cases key <;> cases other <;> first | rfl | exact absurd rfl hl

variable [DecidableEq τ]

/-- An answer the API gives honestly, and its effect. -/
theorem await_eq_some {w : Await τ} {a : w.Answer} :
    await m kind i s w a=some t ↔ honest m i w a=true ∧
      ∃ c,s.client.await w a=some c ∧ t=⟨c,noted kind s.watch w a⟩ := by
  unfold await
  exact ite_map_eq_some

/-- An answer in time keeps what the places hold. -/
theorem Sound.await {w : Await τ} {a : w.Answer} (h : Sound m s)
    (hin : timely m kind s w a=true) (ht : await m kind i s w a=some t) :
    Sound m t ∧ Later s.watch t.watch := by
  obtain ⟨-,c,hc,rfl⟩ := await_eq_some.mp ht
  cases w with
  | setAccessToken value | setRefreshToken value | setUser user =>
    refine ⟨h.item hin ?_ fun l hl => ?_,later_write ..⟩
    · cases a <;> cases hc <;> rfl
    · rcases l with (_|_|_)|_ <;> first | exact absurd rfl hl | (cases a <;> cases hc <;> rfl)
  | delete keys =>
    obtain ⟨key,done⟩ := a
    obtain ⟨-,hsame⟩ := Option.ite_none_right_eq_some.mp hc
    cases done with
    | true =>
      cases hsame
      obtain ⟨hgone,hother⟩ := held_delete s.client key
      exact ⟨h.clear _ hgone hother,later_clear ..⟩
    | false =>
      cases hsame
      exact ⟨h,.refl _⟩
  | getAccessToken | getRefreshToken | getUser | promise n =>
    obtain ⟨-,hsame⟩ := Option.ite_none_right_eq_some.mp hc
    cases hsame
    exact ⟨h,.refl _⟩
  | _ =>
    cases hc
    exact ⟨h,.refl _⟩

variable (m) in
/-- What the operations of the client rely on and keep. -/
def rules : Rules (system (τ:=τ) m) where
  invariant := Sound m
  rely := fun s t => Later s.watch t.watch
  allowed := fun _ _ s q => Allowed m s q
  timely := fun _ kind s w a => timely m kind s w a
  refl := fun s => .refl s.watch
  trans := .trans
  memory := fun i kind _ _ h hq => h.memory i kind hq
  await := fun _ _ _ _ _ _ h hin ht => h.await hin ht
  change := fun change _ h => by
    cases change <;> exact ⟨h,.refl _⟩

end Rules

/-! ## The operations -/

section Operations

variable [DecidableEq ι] [DecidableEq τ] {m : Issued τ ι} {i : ι} {kind : Operation τ}
  {s : Watched τ ι}

/-- A question to a field. -/
theorem outline_look {α : Type} {post : Watched τ ι → Except Empty α → Prop} (q : Look τ)
    (f : q.Answer → Mobile τ α) :
    Outline (rules m) i kind post (look q >>= f) s ↔ Allowed m s q ∧
      Outline (rules m) i kind post (f (memory i kind q s).1) (memory i kind q s).2 := outline_atOnce q f

/-- An answer. -/
theorem outline_answer {α : Type} {post : Watched τ ι → Except Empty α → Prop} (w : Await τ)
    (f : w.Answer → Mobile τ α) :
    Outline (rules m) i kind post (answer w >>= f) s ↔
      ∀ t a u,Later s.watch t.watch → Sound m t → timely m kind t w a=true →
        await m kind i t w a=some u → Outline (rules m) i kind post (f a) u := outline_awaited w f

/-- An answer that is returned. -/
theorem outline_last (w : Await τ) {post : Watched τ ι → Except Empty w.Answer → Prop} :
    Outline (rules m) i kind post (answer w) s ↔
      ∀ t a u,Later s.watch t.watch → Sound m t → timely m kind t w a=true →
        await m kind i t w a=some u → post u (.ok a) := Iff.rfl

/-- Nothing is asked of what is only read. -/
theorem outline_getAccessToken_item :
    Outline (rules m) i kind (fun _ _ => True) TokenStore.getAccessToken s :=
  fun _ _ _ _ _ _ _ _ _ _ _ _ _ _ => trivial

theorem outline_getRefreshToken_item :
    Outline (rules m) i kind (fun _ _ => True) TokenStore.getRefreshToken s :=
  fun _ _ _ _ _ _ _ _ _ _ _ _ _ _ => trivial

/-- A cached user is returned while the screen may show it. -/
def UserFits (m : Issued τ ι) (s : Watched τ ι) (user : PublicUser) : Prop :=
  Owned m.Belongs [.user user.id] (s.watch.owner .screen)

theorem outline_getUser : Outline (rules m) i kind
    (fun t r => ∀ user,r=.ok (some user) → UserFits m t user) TokenStore.getUser s := by
  rw [TokenStore.getUser,outline_answer]
  intro t found u _ _ _ _
  rw [outline_answer]
  intro t' _ u' _ _ hin hu user h
  cases h
  obtain ⟨-,c,-,rfl⟩ := await_eq_some.mp hu
  exact (fits_iff ..).mp hin

/-- An item that is written is settled when the reply is back. -/
theorem outline_written {w : Await τ} {key : Key} {n : Nat}
    (hw : ∀ (kind : Operation τ) (watch : Watch ι Place) a,
      noted kind watch w a=watch.write (.item key)) (hn : n ≤ s.watch.accepted) :
    Outline (rules m) i kind (fun t _ => Settled n (.item key) t.watch)
      (do let _ ← answer w; answer .replied) s := by
  rw [outline_answer]
  intro t a u hlater _ _ hu
  obtain ⟨-,c,-,rfl⟩ := await_eq_some.mp hu
  have hwritten := settled_of_write (Nat.le_trans hn hlater.count) (Place.item key)
  rw [outline_last]
  intro t' _ u' hlater' _ _ hu'
  obtain ⟨-,c',-,rfl⟩ := await_eq_some.mp hu'
  rw [hw] at hlater'
  exact hwritten.later hlater'

/-- A user that is stored may be shown when the reply is back. -/
theorem outline_setUser {n : Nat} (hn : n ≤ s.watch.accepted) (user : PublicUser) :
    Outline (rules m) i kind (fun t _ => Settled n (.item .user) t.watch ∧ UserFits m t user)
      (TokenStore.setUser user) s := by
  rw [TokenStore.setUser,outline_answer]
  intro t _ u hlater _ _ hu
  obtain ⟨-,c,-,rfl⟩ := await_eq_some.mp hu
  have hwritten := settled_of_write (Nat.le_trans hn hlater.count) (Place.item .user)
  refine (outline_last (.wroteUser user)).mpr ?_
  intro t' _ u' hlater' _ hin hu'
  obtain ⟨-,c',-,rfl⟩ := await_eq_some.mp hu'
  exact ⟨hwritten.later hlater',(fits_iff ..).mp hin⟩

/-- A response is stored item by item. -/
theorem outline_persist (hs : Sound m s) {n : Nat} (hn : n ≤ s.watch.accepted)
    (auth : AuthResponse τ) :
    Outline (rules m) i kind (fun t _ => ∀ user,auth.user=some user →
      (∀ key,Settled n (.item key) t.watch) ∧ UserFits m t user) (persist auth) s := by
  have haccess : Outline (rules m) i kind (fun t _ => Settled n (.item .accessToken) t.watch)
      (TokenStore.setAccessToken auth.accessToken) s := outline_written (fun _ _ _ => rfl) hn
  refine haccess.seq hs (fun t _ haccess ht hlater => ?_) fun _ e => nomatch e
  have hn' := Nat.le_trans hn (Later.count hlater)
  have hrefresh : Outline (rules m) i kind (fun t _ => Settled n (.item .refreshToken) t.watch)
      (TokenStore.setRefreshToken auth.refreshToken) t := outline_written (fun _ _ _ => rfl) hn'
  refine hrefresh.seq ht (fun u _ hrefresh hu hlater' => ?_) fun _ e => nomatch e
  have hn'' := Nat.le_trans hn' (Later.count hlater')
  cases auth.user with
  | none => exact nofun
  | some user =>
    refine ((outline_setUser hn'' user).ended hu).imp hu fun v _ _ hv user' huser => ?_
    cases huser
    obtain ⟨hstored,-,hlater''⟩ := hv
    refine ⟨fun key => ?_,hstored.2⟩
    cases key with
    | accessToken => exact (haccess.later hlater').later hlater''
    | refreshToken => exact hrefresh.later hlater''
    | user => exact hstored.1

theorem outline_requestRefresh (hs : Sound m s) :
    Outline (rules m) i kind (fun _ _ => True) (requestRefresh : Mobile τ _) s := by
  refine outline_getRefreshToken_item.seq hs (fun t found _ ht _ => ?_) fun _ e => nomatch e
  cases found with
  | none => trivial
  | some refreshToken =>
    dsimp only
    rw [outline_answer]
    intro t' reply u _ ht' hin hu
    have hu' := (Sound.await ht' hin hu).1
    cases reply.granted with
    | none => trivial
    | some auth =>
      exact (outline_persist hu' (Nat.le_refl _) auth).seq hu' (fun _ _ _ _ _ => trivial)
        fun _ _ _ _ _ => trivial

theorem outline_refresh (hs : Sound m s) :
    Outline (rules m) i kind (fun _ _ => True) (refresh : Mobile τ _) s := by
  rw [refresh,outline_look]
  refine ⟨trivial,?_⟩
  split
  · exact fun _ _ _ _ _ _ _ => trivial
  · rw [outline_look]
    refine ⟨trivial,(outline_requestRefresh ?_).seq ?_ (fun t auth _ _ _ => ?_) fun _ e => nomatch e⟩
    · exact hs
    · exact hs
    · rw [outline_look]
      exact ⟨trivial,fun _ _ _ _ _ _ _ => trivial⟩

theorem outline_getAccessToken (hs : Sound m s) :
    Outline (rules m) i kind (fun _ _ => True) (getAccessToken m.expMs) s := by
  refine outline_getAccessToken_item.seq hs (fun t current _ ht _ => ?_) fun _ e => nomatch e
  rw [outline_look]
  refine ⟨trivial,?_⟩
  split
  · trivial
  · refine (outline_refresh ?_).seq ?_ (fun _ _ _ _ _ => trivial) fun _ e => nomatch e
    · exact ht
    · exact ht

theorem outline_fetchMe (hs : Sound m s) (token : Option τ) :
    Outline (rules m) i kind (fun _ _ => True) (fetchMe token) s := by
  have hask : ∀ (token : τ) (u : Watched τ ι),Outline (rules m) i kind (fun _ _ => True)
      (do let res ← answer (.me token); pure res.granted) u := fun _ _ _ _ _ _ _ _ _ => trivial
  cases token with
  | some token => exact hask token s
  | none =>
    refine outline_getAccessToken_item.seq hs (fun t stored _ ht _ => ?_) fun _ e => nomatch e
    cases stored with
    | none => trivial
    | some token => exact hask token t

theorem outline_deletions (hs : Sound m s) (k : Nat) (keys : List Key) :
    Outline (rules m) i kind (fun _ _ => True) (TokenStore.deletions k keys : Mobile τ Unit) s := by
  induction k generalizing keys s with
  | zero => exact fun _ _ _ _ _ _ _ => trivial
  | succ k ih =>
    rw [TokenStore.deletions,outline_answer]
    intro t a u _ ht hin hu
    exact ih (Sound.await ht hin hu).1 _

/-- A user that fits is shown while the provider is mounted. -/
theorem outline_showMounted {user : Option PublicUser} (h : ∀ u,user=some u → UserFits m s u) :
    Outline (rules m) i kind (fun _ _ => True) (showMounted user) s := by
  have hallowed : Allowed m s (.setUser user) := by
    cases user with
    | none => trivial
    | some u => exact h u rfl
  rw [showMounted,outline_look]
  refine ⟨trivial,?_⟩
  split
  · exact ⟨hallowed,trivial⟩
  · trivial

theorem outline_hydrate (hs : Sound m s) :
    Outline (rules m) i kind (fun _ _ => True) (hydrate m.expMs) s := by
  refine outline_getUser.seq hs (fun t cached hcached ht _ => ?_) fun _ e => nomatch e
  have hshown : Outline (rules m) i kind (fun _ _ => True) (showCached cached) t := by
    cases cached with
    | none => trivial
    | some user =>
      refine outline_showMounted fun u hu => ?_
      cases hu
      exact hcached user rfl
  have hhidden : ∀ v,Outline (rules m) i kind (fun _ _ => True) (showMounted none) v :=
    fun v => outline_showMounted nofun
  refine hshown.seq ht (fun t' _ _ ht' _ => ?_) fun _ e => nomatch e
  refine (outline_getAccessToken ht').seq ht' (fun u token _ hu _ => ?_) fun _ e => nomatch e
  cases token with
  | none =>
    exact (hhidden u).seq hu (fun v _ _ hv _ => outline_deletions hv _ _) fun _ e => nomatch e
  | some token =>
    refine (outline_fetchMe hu _).seq hu (fun v me _ hv _ => ?_) fun _ e => nomatch e
    cases me with
    | none =>
      exact (outline_deletions hv _ _).seq hv (fun v' _ _ _ _ => hhidden v') fun _ e => nomatch e
    | some me =>
      refine (outline_setUser (Nat.le_refl _) me).seq hv (fun v' _ hme _ _ => ?_) fun _ e => nomatch e
      refine outline_showMounted fun u hu => ?_
      cases hu
      exact hme.2

/-- The deletions of a sign-out that are over leave no item. -/
theorem outline_deletions_signOut {n : Nat} (hn : n ≤ s.watch.accepted) {k : Nat} {keys : List Key}
    (hkeys : keys.length=k) (hgone : ∀ key,key∉keys → Vacant n (.item key) s.watch) :
    Outline (rules m) i .signOut (fun t _ => ∀ key,Vacant n (.item key) t.watch)
      (TokenStore.deletions k keys) s := by
  induction k generalizing keys s with
  | zero =>
    cases List.length_eq_zero_iff.mp hkeys
    refine (outline_last .replied).mpr ?_
    intro t _ u hlater _ _ hu key
    obtain ⟨-,c,-,rfl⟩ := await_eq_some.mp hu
    exact (hgone key List.not_mem_nil).later hlater
  | succ k ih =>
    rw [TokenStore.deletions,outline_answer]
    rintro t ⟨key,done⟩ u hlater _ hin hu
    obtain ⟨-,c,hc,rfl⟩ := await_eq_some.mp hu
    obtain ⟨hmem,-⟩ := Option.ite_none_right_eq_some.mp hc
    have hdone : done=true := by simpa [timely,signsOut,rules] using hin
    subst hdone
    have hcount : n ≤ t.watch.accepted := Nat.le_trans hn hlater.count
    have hn' : n ≤ (⟨c,t.watch.vacate (.item key)⟩ : Watched τ ι).watch.accepted := hcount
    refine ih hn' ?_ fun other hother => ?_
    · rw [List.length_erase_of_mem hmem,hkeys,Nat.add_sub_cancel]
    · by_cases hkey : other=key
      · subst hkey
        exact vacant_vacate hcount _
      · have hbefore := hgone other fun h => hother ((List.mem_erase_of_ne hkey).mpr h)
        exact (hbefore.later hlater).later (later_vacate ..)

/-- A sign-out that completes has cleared every place, unless a sign-in was
accepted meanwhile. -/
theorem outline_leave (hs : Sound m s) : Outline (rules m) i .signOut (fun _ _ => True) leave s := by
  rw [leave,outline_look]
  refine ⟨trivial,?_⟩
  have hcleared : Outline (rules m) i .signOut
      (fun t _ => ∀ key,Vacant s.watch.accepted (.item key) t.watch) signOut
      (memory i .signOut .began s).2 := by
    refine outline_getAccessToken_item.seq hs (fun t access _ ht hlater => ?_) fun _ e => nomatch e
    refine outline_getRefreshToken_item.seq ht (fun u refresh _ hu hlater' => ?_) fun _ e => nomatch e
    rw [outline_answer]
    intro v _ v' hlater'' _ _ hv
    obtain ⟨-,c,-,rfl⟩ := await_eq_some.mp hv
    have hn : s.watch.accepted ≤ (⟨c,v.watch⟩ : Watched τ ι).watch.accepted :=
      ((Later.trans hlater hlater').trans hlater'').count
    refine outline_deletions_signOut hn rfl fun key hkey => ?_
    cases key <;> exact absurd hkey (by decide)
  refine hcleared.seq hs (fun t _ hitems ht hlater => ?_) fun _ e => nomatch e
  rw [outline_look]
  refine ⟨trivial,fun hcount l => ?_,trivial⟩
  have hscreen : Vacant s.watch.accepted .screen (t.watch.vacate .screen) :=
    vacant_vacate (Later.count hlater) _
  cases l with
  | item key => exact ((hitems key).later (later_vacate ..)).2 hcount
  | screen => exact hscreen.2 hcount

/-- What a sign-in leaves: every item written, and a user who may be shown. -/
def Entered (m : Issued τ ι) (s : Watched τ ι) :
    Except Empty (Except String (AuthResponse τ × Nat)) → Prop
  | .ok (.ok (auth,n)) => ∃ user,auth.user=some user ∧
      (∀ key,Settled n (.item key) s.watch) ∧ UserFits m s user
  | _ => True

theorem outline_takeAuth {reply : Reply (AuthResponse τ)} (hs : Sound m s)
    (hreply : m.honestSignIn (.signIn i) reply=true) :
    Outline (rules m) i kind (Entered m) (takeAuth reply) s := by
  unfold takeAuth
  split
  · trivial
  · rename_i status body detail
    split
    · rename_i hok
      split
      · trivial
      · rename_i auth
        have hgranted : Reply.granted (.answered status (some auth) detail)=some auth := by
          simp [Reply.granted,hok]
        rw [Issued.honestSignIn,hgranted] at hreply
        obtain ⟨-,huser⟩ := Bool.and_eq_true_iff.mp hreply
        obtain ⟨user,huser⟩ := Option.isSome_iff_exists.mp huser
        rw [outline_look]
        refine ⟨trivial,?_⟩
        have haccept := (hs.memory i kind (q:=.accept) trivial).1
        refine (outline_persist haccept (Nat.le_refl _) auth).seq haccept (fun t _ ht _ _ => ?_)
          fun _ e => nomatch e
        exact ⟨user,huser,ht user huser⟩
    · trivial

/-- A sign-in that completes as the last one accepted has written every place. -/
theorem outline_enter {attempt : Mobile τ (Except String (AuthResponse τ × Nat))} (hs : Sound m s)
    (hattempt : Outline (rules m) i kind (Entered m) attempt s) :
    Outline (rules m) i kind (fun _ _ => True) (enter attempt) s := by
  refine hattempt.seq hs (fun t outcome hentered ht _ => ?_) fun _ e => nomatch e
  cases outcome with
  | error e => trivial
  | ok r =>
    obtain ⟨auth,n⟩ := r
    obtain ⟨user,huser,hitems,hfits⟩ := hentered
    dsimp only
    rw [huser]
    change Outline (rules m) i kind _
      (do look (.setUser (some user)); look (.signedIn n); pure none) t
    have hcount : n ≤ t.watch.accepted := (hitems .user).1
    have hscreen : Settled n .screen (t.watch.write .screen) := settled_of_write hcount _
    rw [outline_look]
    refine ⟨hfits,?_⟩
    rw [outline_look]
    refine ⟨fun hsame l => ?_,trivial⟩
    cases l with
    | item key => exact ((hitems key).later (later_write ..)).2 hsame
    | screen => exact hscreen.2 hsame

theorem outline_signUp (input : SignUpInput) :
    Outline (rules m) i kind (Entered m) (signUp input) s := by
  rw [signUp,outline_answer]
  intro t reply u _ ht _ hu
  obtain ⟨hhonest,c,hc,rfl⟩ := await_eq_some.mp hu
  cases hc
  exact outline_takeAuth ht hhonest

theorem outline_signIn (input : SignInInput) :
    Outline (rules m) i kind (Entered m) (signIn input) s := by
  rw [signIn,outline_answer]
  intro t reply u _ ht _ hu
  obtain ⟨hhonest,c,hc,rfl⟩ := await_eq_some.mp hu
  cases hc
  exact outline_takeAuth ht hhonest

/-- Every operation keeps to its rules. -/
theorem outline_perform (hs : Sound m s) :
    Outline (rules m) i kind (fun _ _ => True) (kind.perform m.expMs) s := by
  cases kind with
  | hydrate => exact outline_hydrate hs
  | signUp input =>
    exact (outline_enter hs (outline_signUp input)).seq hs (fun _ _ _ _ _ => trivial) fun _ e => nomatch e
  | signIn input =>
    exact (outline_enter hs (outline_signIn input)).seq hs (fun _ _ _ _ _ => trivial) fun _ e => nomatch e
  | signOut => exact outline_leave hs
  | refresh => exact (outline_refresh hs).seq hs (fun _ _ _ _ _ => trivial) fun _ e => nomatch e
  | fetchMe token =>
    exact (outline_fetchMe hs token).seq hs (fun _ _ _ _ _ => trivial) fun _ e => nomatch e
  | getAccessToken =>
    exact (outline_getAccessToken hs).seq hs (fun _ _ _ _ _ => trivial) fun _ e => nomatch e

/-- The application starts with nothing shown and the items of one session, if any. -/
structure Started (m : Issued τ ι) (c : Client τ) : Prop where
  user : c.user=none
  items : ∀ key,Owned m.Belongs (held c (.item key)) (some .found)

omit [DecidableEq τ] in
theorem Started.sound {c : Client τ} (h : Started m c) : Sound m (⟨c,{}⟩ : Watched τ ι) := by
  refine ⟨fun l _ => ?_,fun _ _ hk => (Option.some.inj hk).symm,nofun,nofun⟩
  cases l with
  | item key => exact h.items key
  | screen =>
    have hnone : held c .screen=[] := by simp [held,h.user]
    change Owned _ (held c .screen) _
    rw [hnone]
    exact owned_nil

/-- While session data comes in time, sign-out is final. -/
theorem final_of_run {c : Client τ} (h : Started m c)
    {as : List (Move τ ι)} {w : State τ ι}
    (hrun : Run (guarded (Step (system m)) fun w a => inTime (rules m) w a=true)
      {shared := ⟨c,{}⟩} as w) : Final m.Belongs (held w.shared.client) w.shared.watch :=
  (invariant_of_run (rules m) (fun _ _ _ hs => outline_perform hs) h.sound hrun).final

end Operations

end Voyagent.MobileSignOut
