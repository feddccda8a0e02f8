import Voyagent.DesktopClient
import Voyagent.SessionPlaces

/-!
# Sign-out on the desktop

The memory of the client and the session file are two places that may hold
session data. The API answers with tokens of the session asked for. What an
operation obtained for one session it writes after an await, without looking
whether that session was signed out of meanwhile.
-/

namespace Voyagent.DesktopSignOut

open EffectPrograms CooperativePrograms AuthClients DesktopClient SessionPlaces TransitionRuns

inductive Place where
  | memory
  | file
  deriving DecidableEq

variable {τ ι : Type}

/-- The data of a session. -/
def sessionData (session : StoredSession τ) : List (Datum τ) :=
  .token session.accessToken::.token session.refreshToken::
    (session.user.map fun user => .user user.id).toList

/-- The data a place holds. -/
def held (c : Client τ) : Place → List (Datum τ)
  | .memory =>
    (c.session.map sessionData).getD []++(c.user.map fun user => .user user.id).toList
  | .file => (c.stored.map sessionData).getD []

/-- The client and what the observer knows. -/
structure Watched (τ ι : Type) where
  client : Client τ
  watch : Watch ι Place := {}

def signsOut : Operation → Bool
  | .signOut => true
  | _ => false

/-- What a question does to the client and to what the observer knows. -/
def memory (i : ι) (kind : Operation) (q : Look τ) (s : Watched τ ι) : q.Answer × Watched τ ι :=
  let r := Client.memory q s.client
  match q,r with
  | .accept _,r =>
    let watch := (s.watch.accept i).write .memory
    (watch.accepted,⟨r.2,watch⟩)
  | .hold _,r => (r.1,⟨r.2,s.watch.write .memory⟩)
  | .setUser _,r => (r.1,⟨r.2,s.watch.write .memory⟩)
  | .reset,r => (r.1,⟨r.2,s.watch.clear (signsOut kind) .memory⟩)
  | .began,r => (s.watch.accepted,⟨r.2,s.watch⟩)
  | .signedOut n,r => (r.1,⟨r.2,s.watch.signedOut n⟩)
  | .signedIn n,r => (r.1,⟨r.2,s.watch.signedIn n⟩)
  | _,r => (r.1,⟨r.2,s.watch⟩)

/-- What an answer tells the observer. -/
def noted (kind : Operation) (watch : Watch ι Place) : (w : Await τ) → w.Answer → Watch ι Place
  | .store _,.written => watch.write .file
  | .store _,.unprotected => watch.write .file
  | .clear,.ok _ => watch.clear (signsOut kind) .file
  | _,_ => watch

/-- The client with its operations begun so far. -/
abbrev State (τ ι : Type) : Type :=
  World (S:=Look τ) (W:=Await τ) Look.Answer Await.Answer Failure (Watched τ ι) ι Operation

abbrev Move (τ ι : Type) : Type := Act (W:=Await τ) Await.Answer ι Operation Int

section Answers

variable [DecidableEq ι] (m : Issued τ ι)

/-- The API answers for the session it is asked about. -/
def honest (i : ι) : (w : Await τ) → w.Answer → Bool
  | .refresh refreshToken,reply => m.honestPair (m.origin refreshToken) reply
  | .signUp _,reply => m.honestPair (.signIn i) reply
  | .signIn _,reply => m.honestPair (.signIn i) reply
  | .me token,reply => m.honestMe token reply
  | _,_ => true

/-- Session data is answered, read back or stored while the place it goes to may
still hold data of its session: no sign-out has cleared the place meanwhile. -/
def timely (watch : Watch ι Place) : (w : Await τ) → w.Answer → Bool
  | .refresh refreshToken,reply =>
    reply.granted.isNone || m.fits [.token refreshToken] (watch.owner .memory)
  | .loaded (some session),_ => m.fits (sessionData session) (watch.owner .memory)
  | .store _,.failed => true
  | .store session,_ => m.fits (sessionData session) (watch.owner .file)
  | .me token,reply =>
    reply.granted.isNone ||
      m.fits ([.user (m.person (m.origin token))] : List (Datum τ)) (watch.owner .memory)
  | _,_ => true

variable [DecidableEq τ]

def await (kind : Operation) (i : ι) (s : Watched τ ι) (w : Await τ) (a : w.Answer) :
    Option (Watched τ ι) :=
  if honest m i w a then
    (s.client.await w a).map fun client => ⟨client,noted kind s.watch w a⟩
  else none

/-- Any operations of the client, while time passes. -/
def system : System (S:=Look τ) (W:=Await τ) Look.Answer Await.Answer Failure (Watched τ ι) ι
    Operation Int where
  body := fun _ kind => kind.perform m.expMs
  memory := memory
  await := fun i kind => await m kind i
  change := fun now s => {s with client := {s.client with clock := now}}

end Answers

/-! ## What operations keep -/

section Rules

variable [DecidableEq ι] {m : Issued τ ι} {i : ι} {kind : Operation} {s t : Watched τ ι}
  {o : Option (Origin ι)} {c c' : Client τ}

/-- The places hold what belongs to their owners, and the memory has been
written since the last sign-in was accepted. -/
def Sound (m : Issued τ ι) (s : Watched τ ι) : Prop :=
  Consistent m.Belongs (held s.client) s.watch ∧ s.watch.settled .memory=true

/-- The questions that keep this. -/
def Allowed (m : Issued τ ι) (i : ι) (s : Watched τ ι) : Look τ → Prop
  | .hold session => Owned m.Belongs (sessionData session) (s.watch.owner .memory)
  | .accept session => Owned m.Belongs (sessionData session) (some (.signIn i))
  | .setUser user => Owned m.Belongs [.user user.id] (s.watch.owner .memory)
  | .signedOut n => s.watch.accepted=n → ∀ l,s.watch.owner l=none ∧ s.watch.settled l=true
  | .signedIn n => s.watch.accepted=n → ∀ l,s.watch.settled l=true
  | _ => True

/-- The user of a session is part of its data. -/
theorem owned_session_user {session : StoredSession τ}
    (h : Owned m.Belongs (sessionData session) o) :
    Owned m.Belongs (session.user.map fun user => .user user.id).toList o :=
  fun d hd => h d (List.mem_cons_of_mem _ (List.mem_cons_of_mem _ hd))

/-- What a session in memory holds, with its user as the user. -/
theorem owned_memory {session : StoredSession τ} (h : Owned m.Belongs (sessionData session) o) :
    Owned m.Belongs (held {c with session := some session,user := session.user} .memory) o :=
  owned_append.mpr ⟨h,owned_session_user h⟩

theorem owned_sessionData {session : StoredSession τ} {k : Origin ι}
    (haccess : m.Belongs (.token session.accessToken) k)
    (hrefresh : m.Belongs (.token session.refreshToken) k)
    (huser : Owned m.Belongs (session.user.map fun user => .user user.id).toList (some k)) :
    Owned m.Belongs (sessionData session) (some k) := by
  intro d hd
  rcases List.mem_cons.mp hd with rfl|hd
  · exact ⟨k,rfl,haccess⟩
  · rcases List.mem_cons.mp hd with rfl|hd
    · exact ⟨k,rfl,hrefresh⟩
    · exact huser d hd

/-- The user in memory belongs there. -/
theorem Sound.user (h : Sound m s) :
    Owned m.Belongs (s.client.user.map fun user => .user user.id).toList (s.watch.owner .memory) :=
  (owned_append.mp (h.1.owned .memory h.2)).2

theorem Sound.written (h : Sound m s)
    (hmemory : Owned m.Belongs (held c .memory) (s.watch.owner .memory))
    (hfile : held c .file=held s.client .file) : Sound m ⟨c,s.watch.write .memory⟩ := by
  refine ⟨h.1.write hmemory fun l hl => ?_,(settled_write ..).mpr (.inl rfl)⟩
  cases l with
  | memory => exact absurd rfl hl
  | file => exact hfile

theorem Sound.filed (h : Sound m s) (hfile : Owned m.Belongs (held c .file) (s.watch.owner .file))
    (hmemory : held c .memory=held s.client .memory) : Sound m ⟨c,s.watch.write .file⟩ := by
  refine ⟨h.1.write hfile fun l hl => ?_,(settled_write ..).mpr (.inr h.2)⟩
  cases l with
  | memory => exact hmemory
  | file => exact absurd rfl hl

/-- Clearing a place keeps what the places hold. -/
theorem Sound.cleared (h : Sound m s) {place : Place} (hplace : held c place=[])
    (hother : ∀ l,l≠place → held c l=held s.client l) :
    Sound m ⟨c,s.watch.clear (signsOut kind) place⟩ :=
  ⟨h.1.clear (signsOut kind) hplace hother,(settled_clear ..).mpr (.inr h.2)⟩

/-- An allowed question keeps what the places hold. -/
theorem Sound.memory (h : Sound m s) (i : ι) (kind : Operation) {q : Look τ} (hq : Allowed m i s q) :
    Sound m (memory i kind q s).2 ∧ Later s.watch (DesktopSignOut.memory i kind q s).2.watch := by
  cases q with
  | hold session => exact ⟨h.written (owned_memory hq) rfl,later_write ..⟩
  | accept session =>
    have haccept : Consistent m.Belongs (held s.client) (s.watch.accept i) := .accept ..
    have hmemory : Owned m.Belongs
        (held {s.client with session := some session,user := session.user} .memory)
        (some (.signIn i)) := owned_memory hq
    refine ⟨⟨haccept.write hmemory fun l hl => ?_,(settled_write ..).mpr (.inl rfl)⟩,?_⟩
    · cases l with
      | memory => exact absurd rfl hl
      | file => rfl
    · exact (later_accept s.watch i).trans (later_write ..)
  | setUser user =>
    have hheld := owned_append.mp (h.1.owned .memory h.2)
    exact ⟨h.written (owned_append.mpr ⟨hheld.1,hq⟩) rfl,later_write ..⟩
  | reset =>
    refine ⟨h.cleared rfl fun l hl => ?_,later_clear ..⟩
    cases l with
    | memory => exact absurd rfl hl
    | file => rfl
  | signedOut n =>
    have hsettled : (s.watch.signedOut n).settled .memory=true := by simpa using h.2
    exact ⟨⟨h.1.signOut hq,hsettled⟩,later_signedOut ..⟩
  | signedIn n =>
    have hsettled : (s.watch.signedIn n).settled .memory=true := by simpa using h.2
    exact ⟨⟨h.1.signIn hq,hsettled⟩,later_signedIn ..⟩
  | _ => exact ⟨h,.refl _⟩

variable [DecidableEq τ]

variable {w : Await τ} {a : w.Answer}

/-- An answer the API gives honestly, and its effect. -/
theorem await_eq_some :
    await m kind i s w a=some t ↔ honest m i w a=true ∧
      ∃ c,s.client.await w a=some c ∧ t=⟨c,noted kind s.watch w a⟩ := by
  unfold await
  exact ite_map_eq_some

/-- An answer in time keeps what the places hold. -/
theorem Sound.await (h : Sound m s) (hin : timely m s.watch w a=true)
    (ht : await m kind i s w a=some t) : Sound m t ∧ Later s.watch t.watch := by
  obtain ⟨-,c,hc,rfl⟩ := await_eq_some.mp ht
  cases w with
  | store session =>
    cases a with
    | failed =>
      cases hc
      exact ⟨h,.refl _⟩
    | written | unprotected =>
      cases hc
      exact ⟨h.filed ((fits_iff ..).mp hin) rfl,later_write ..⟩
  | clear =>
    cases a with
    | ok _ =>
      cases hc
      refine ⟨h.cleared rfl fun l hl => ?_,later_clear ..⟩
      cases l with
      | memory => rfl
      | file => exact absurd rfl hl
    | error e =>
      cases hc
      exact ⟨h,.refl _⟩
  | load =>
    cases a with
    | ok found =>
      obtain ⟨-,hsame⟩ := Option.ite_none_right_eq_some.mp hc
      cases hsame
      exact ⟨h,.refl _⟩
    | error e =>
      cases hc
      exact ⟨h,.refl _⟩
  | promise n =>
    obtain ⟨-,hsame⟩ := Option.ite_none_right_eq_some.mp hc
    cases hsame
    exact ⟨h,.refl _⟩
  | _ =>
    cases hc
    exact ⟨h,.refl _⟩

variable (m) in
/-- What the operations of the client rely on and keep. -/
def rules : Rules (system (τ:=τ) m) where
  invariant := Sound m
  rely := fun s t => Later s.watch t.watch
  allowed := fun i _ s q => Allowed m i s q
  timely := fun _ _ s w a => timely m s.watch w a
  refl := fun s => .refl s.watch
  trans := .trans
  memory := fun i kind _ _ h hq => h.memory i kind hq
  await := fun _ _ _ _ _ _ h hin ht => h.await hin ht
  change := fun _ _ h => ⟨h,.refl _⟩

end Rules

/-! ## The operations -/

section Operations

variable [DecidableEq ι] [DecidableEq τ] {m : Issued τ ι} {i : ι} {kind : Operation}
  {s : Watched τ ι}

variable {α : Type}

/-- A question to a field. -/
theorem outline_look {post : Watched τ ι → Except Failure α → Prop} (q : Look τ)
    (f : q.Answer → Desktop τ α) :
    Outline (rules m) i kind post (look q >>= f) s ↔ Allowed m i s q ∧
      Outline (rules m) i kind post (f (memory i kind q s).1) (memory i kind q s).2 := outline_atOnce q f

/-- An answer. -/
theorem outline_answer {post : Watched τ ι → Except Failure α → Prop} (w : Await τ)
    (f : w.Answer → Desktop τ α) :
    Outline (rules m) i kind post (answer w >>= f) s ↔
      ∀ t a u,Later s.watch t.watch → Sound m t → timely m t.watch w a=true →
        await m kind i t w a=some u → Outline (rules m) i kind post (f a) u := outline_awaited w f

theorem outline_tokenStoreSet (session : StoredSession τ) :
    Outline (rules m) i kind (fun _ _ => True) (tokenStoreSet session) s := by
  intro t outcome u _ _ _ _ t' _ u' _ _ _ _
  cases outcome <;> trivial

theorem outline_tokenStoreClear :
    Outline (rules m) i kind (fun _ _ => True) tokenStoreClear s := by
  intro t outcome u _ _ _ _ t' _ u' _ _ _ _
  cases outcome <;> trivial

theorem outline_persist : Outline (rules m) i kind (fun _ _ => True) persist s := by
  rw [persist,outline_look]
  refine ⟨trivial,?_⟩
  cases (memory i kind .session s).1 with
  | none => trivial
  | some session => exact ⟨trivial,outline_tokenStoreSet _⟩

theorem outline_clearLocal : Outline (rules m) i kind (fun _ _ => True) clearLocal s :=
  ⟨trivial,outline_tokenStoreClear⟩

/-- A refreshed session is written where the session refreshed still belongs. -/
theorem outline_takeRefreshed {k : Origin ι} {reply : Reply (AuthResponse τ)} (hs : Sound m s)
    (howner : ∀ wire,reply.granted=some wire → s.watch.owner .memory=some k ∧ m.pairOf k wire=true) :
    Outline (rules m) i kind (fun _ _ => True) (takeRefreshed reply) s := by
  unfold takeRefreshed
  split
  · trivial
  · rename_i status body detail
    split
    · rename_i hok
      split
      · trivial
      · rename_i wire
        obtain ⟨hmemory,hpair⟩ := howner wire (by simp [Reply.granted,hok])
        obtain ⟨haccess,hrefresh,huser⟩ := belongs_of_pairOf m hpair
        have hheld := hs.user
        rw [hmemory] at hheld
        have hhold : ∀ user : Option DesktopUser,
            Owned m.Belongs (user.map fun u => .user u.id).toList (some k) →
            Outline (rules m) i kind (fun _ _ => True) (do
              look (.hold ⟨wire.accessToken,wire.refreshToken,user⟩)
              persist
              pure (some wire.accessToken)) s := by
          intro user howned
          have hallowed : Allowed m i s (.hold ⟨wire.accessToken,wire.refreshToken,user⟩) := by
            change Owned _ _ _
            rw [hmemory]
            exact owned_sessionData haccess hrefresh howned
          rw [outline_look]
          refine ⟨hallowed,?_⟩
          exact outline_persist.seq (hs.memory i kind hallowed).1 (fun _ _ _ _ _ => trivial)
            fun _ _ _ _ _ => trivial
        rw [outline_look]
        refine ⟨trivial,hhold _ ?_⟩
        cases hu : wire.user with
        | some u => exact owned_singleton (huser u hu)
        | none => exact hheld
    · exact outline_clearLocal.seq hs (fun _ _ _ _ _ => trivial) fun _ _ _ _ _ => trivial

theorem outline_requestRefresh (hs : Sound m s) (refreshToken : τ) :
    Outline (rules m) i kind (fun _ _ => True) (requestRefresh refreshToken) s := by
  have hbody : Outline (rules m) i kind (fun _ _ => True)
      (do let res ← answer (.refresh refreshToken); takeRefreshed res) s := by
    rw [outline_answer]
    intro t reply u _ ht hin hu
    obtain ⟨hhonest,c,hc,rfl⟩ := await_eq_some.mp hu
    cases hc
    refine outline_takeRefreshed (k:=m.origin refreshToken) ht fun wire hwire => ?_
    change m.honestPair _ reply=true at hhonest
    change (reply.granted.isNone || _)=true at hin
    rw [hwire] at hin
    rw [Issued.honestPair,hwire] at hhonest
    obtain ⟨k,hk,hbelongs⟩ := (fits_iff ..).mp hin _ (List.mem_singleton.mpr rfl)
    have horigin : m.origin refreshToken=k := eq_of_beq hbelongs
    exact ⟨horigin ▸ hk,hhonest⟩
  exact hbody.handled hs (fun _ _ _ _ _ => trivial) fun _ _ _ _ _ => trivial

theorem outline_refresh (hs : Sound m s) :
    Outline (rules m) i kind (fun _ _ => True) (refresh : Desktop τ (Option τ)) s := by
  rw [refresh,outline_look]
  refine ⟨trivial,?_⟩
  cases (memory i kind .session s).1 with
  | none => trivial
  | some session =>
    rw [outline_look]
    refine ⟨trivial,?_⟩
    split
    · exact fun _ _ _ _ _ _ _ => trivial
    · rw [outline_look]
      refine ⟨trivial,?_⟩
      refine (outline_requestRefresh ?_ _).seq ?_ (fun t token _ ht _ => ?_) fun _ _ _ _ _ => trivial
      · exact hs
      · exact hs
      · rw [outline_look]
        exact ⟨trivial,fun _ _ _ _ _ _ _ => trivial⟩

/-- A profile is returned while the memory may hold data of its user. -/
def MeFits (m : Issued τ ι) (s : Watched τ ι) : Except Failure (Option DesktopUser) → Prop
  | .ok (some me) => Owned m.Belongs [.user me.id] (s.watch.owner .memory)
  | _ => True

theorem outline_readMe {token : τ} {reply : Reply PublicUser} (hhonest : m.honestMe token reply=true)
    (hin : timely m s.watch (.me token) reply=true) :
    Outline (rules m) i kind (MeFits m) (readMe reply) s := by
  unfold readMe
  split
  · trivial
  · rename_i status body detail
    split
    · rename_i hok
      split
      · trivial
      · rename_i wire
        have hgranted : Reply.granted (.answered status (some wire) detail)=some wire := by
          simp [Reply.granted,hok]
        change (Option.isNone _ || _)=true at hin
        rw [hgranted] at hin
        rw [Issued.honestMe,hgranted] at hhonest
        have hperson : m.person (m.origin token)=wire.id := eq_of_beq hhonest
        rw [hperson] at hin
        exact (fits_iff ..).mp hin
    · trivial

/-- The profile is the one of the token asked with. -/
theorem outline_me {token : τ} {f : Reply PublicUser → Desktop τ (Option DesktopUser)}
    (hf : ∀ t reply,Sound m t → m.honestMe token reply=true →
      timely m t.watch (.me token) reply=true → Outline (rules m) i kind (MeFits m) (f reply) t) :
    Outline (rules m) i kind (MeFits m) (answer (.me token) >>= f) s := by
  rw [outline_answer]
  intro t reply u _ ht hin hu
  obtain ⟨hhonest,c,hc,rfl⟩ := await_eq_some.mp hu
  cases hc
  exact hf t reply ht hhonest hin

theorem outline_fetchMeWith (hs : Sound m s) (token : τ) :
    Outline (rules m) i kind (MeFits m) (fetchMeWith token) s := by
  refine Outline.handled (outline_me fun t reply ht hhonest hin => ?_) hs (fun _ _ h _ _ => h)
    fun _ _ _ _ _ => trivial
  split
  · refine (outline_refresh ht).seq ht (fun u refreshed _ hu _ => ?_) fun _ _ _ _ _ => trivial
    cases refreshed with
    | none => trivial
    | some refreshed => exact outline_me fun v retry _ hhonest hin => outline_readMe hhonest hin
  · exact outline_readMe hhonest hin

theorem outline_getAccessToken (hs : Sound m s) :
    Outline (rules m) i kind (fun _ _ => True) (getAccessToken m.expMs) s := by
  rw [getAccessToken,outline_look]
  refine ⟨trivial,?_⟩
  cases (memory i kind .session s).1 with
  | none => trivial
  | some session =>
    rw [outline_look]
    refine ⟨trivial,?_⟩
    split
    · trivial
    · exact outline_refresh hs

/-- A session read from the file is returned while the memory may hold its data. -/
theorem outline_tokenStoreGet :
    Outline (rules m) i kind (fun t r => ∀ stored,r=.ok (some stored) →
      Owned m.Belongs (sessionData stored) (t.watch.owner .memory)) tokenStoreGet s := by
  rw [tokenStoreGet,outline_answer]
  intro t found u _ _ _ _
  cases found with
  | error e =>
    intro t' _ u' _ _ _ _ stored h
    cases h
  | ok found =>
    dsimp only
    rw [outline_answer]
    intro t' _ u' _ _ hin hu stored h
    cases h
    obtain ⟨-,c,hc,rfl⟩ := await_eq_some.mp hu
    exact (fits_iff ..).mp hin

/-- A profile that fits is taken over and stored. -/
theorem outline_takeMe {post : Watched τ ι → Except Failure α → Prop} {me : DesktopUser}
    {f : Unit → Desktop τ α} (hs : Sound m s) (hme : MeFits m s (.ok (some me)))
    (hf : ∀ t,Sound m t → Later s.watch t.watch → Outline (rules m) i kind post (f ()) t)
    (herror : ∀ t e,post t (.error e)) :
    Outline (rules m) i kind post (do look (.setUser me); persist >>= f) s := by
  have hallowed : Allowed m i s (.setUser me) := hme
  obtain ⟨hnext,hlater⟩ := hs.memory i kind hallowed
  rw [outline_look]
  refine ⟨hallowed,outline_persist.seq hnext (fun t _ _ ht hrest => ?_) fun t e _ _ _ => herror t e⟩
  exact hf t ht (hlater.trans hrest)

theorem outline_init (hs : Sound m s) :
    Outline (rules m) i kind (fun _ _ => True) (init m.expMs) s := by
  refine outline_tokenStoreGet.seq hs (fun t found hfound ht _ => ?_) fun _ _ _ _ _ => trivial
  cases found with
  | none => trivial
  | some stored =>
    have hallowed : Allowed m i t (.hold stored) := hfound stored rfl
    rw [outline_look]
    refine ⟨hallowed,?_⟩
    have hheld := (ht.memory i kind hallowed).1
    refine (outline_getAccessToken hheld).seq hheld (fun u token _ hu _ => ?_)
      fun _ _ _ _ _ => trivial
    cases token with
    | none => exact outline_clearLocal
    | some token =>
      refine (outline_fetchMeWith hu token).seq hu (fun v me hme hv _ => ?_)
        fun _ _ _ _ _ => trivial
      cases me with
      | none => exact outline_clearLocal
      | some me =>
        rw [outline_look]
        exact ⟨hme,outline_persist⟩

theorem outline_fetchMe (hs : Sound m s) :
    Outline (rules m) i kind (fun _ _ => True) (fetchMe m.expMs) s := by
  refine (outline_getAccessToken hs).seq hs (fun t token _ ht _ => ?_) fun _ _ _ _ _ => trivial
  cases token with
  | none => trivial
  | some token =>
    refine (outline_fetchMeWith ht token).seq ht (fun u me hme hu _ => ?_) fun _ _ _ _ _ => trivial
    cases me with
    | none => trivial
    | some me => exact outline_takeMe hu hme (fun _ _ _ => trivial) fun _ _ => trivial

variable {n : Nat}

/-- The file is gone where the command of a sign-out succeeds. -/
theorem outline_tokenStoreClear_signOut (hn : n ≤ s.watch.accepted) :
    Outline (rules m) i .signOut (fun t r => r=.ok () → Vacant n .file t.watch) tokenStoreClear s := by
  rw [tokenStoreClear,outline_answer]
  intro t outcome u hlater _ _ hu
  obtain ⟨-,c,-,rfl⟩ := await_eq_some.mp hu
  rw [outline_answer]
  intro t' _ u' hlater' _ _ hu'
  obtain ⟨-,c',-,rfl⟩ := await_eq_some.mp hu'
  cases outcome with
  | error e => exact nofun
  | ok _ =>
    intro _
    have hcleared := vacant_vacate (Nat.le_trans hn hlater.count) Place.file
    exact hcleared.later hlater'

/-- Both places are cleared where a sign-out goes on. -/
theorem outline_clearLocal_signOut (hs : Sound m s) (hn : n ≤ s.watch.accepted) :
    Outline (rules m) i .signOut
      (fun t r => (r=.ok () → Vacant n .file t.watch) ∧ Vacant n .memory t.watch) clearLocal s := by
  rw [clearLocal,outline_look]
  refine ⟨trivial,?_⟩
  have hreset := (hs.memory i .signOut (q:=.reset) trivial).1
  have hmemory : Vacant n .memory (memory i .signOut .reset s).2.watch := vacant_vacate hn Place.memory
  have hclear := outline_tokenStoreClear_signOut (i:=i) (s:=(memory i .signOut .reset s).2) (m:=m) hn
  exact hclear.frame hreset hmemory fun _ _ hlater h => Vacant.later h hlater

/-- A sign-out that completes has cleared both places, unless a sign-in was
accepted meanwhile. -/
theorem outline_signOut : Outline (rules m) i .signOut (fun _ _ => True) signOut s := by
  rw [signOut,outline_look]
  refine ⟨trivial,?_⟩
  rw [outline_look]
  refine ⟨trivial,?_⟩
  rw [outline_answer]
  intro t _ u hlater ht _ hu
  obtain ⟨-,c,hc,rfl⟩ := await_eq_some.mp hu
  cases hc
  refine (outline_clearLocal_signOut ht hlater.count).seq ht (fun v _ hv _ _ => ?_)
    fun _ _ _ _ _ => trivial
  refine ⟨fun hcount l => ?_,trivial⟩
  cases l with
  | memory => exact hv.2.2 hcount
  | file => exact (hv.1 rfl).2 hcount

/-- A session that is stored without failure is in the file. -/
theorem outline_tokenStoreSet_filed (hn : n ≤ s.watch.accepted) (session : StoredSession τ) :
    Outline (rules m) i kind (fun t r => r=.ok () → Settled n .file t.watch) (tokenStoreSet session) s := by
  rw [tokenStoreSet,outline_answer]
  intro t outcome u hlater _ _ hu
  obtain ⟨-,c,-,rfl⟩ := await_eq_some.mp hu
  rw [outline_answer]
  intro t' _ u' hlater' _ _ hu'
  obtain ⟨-,c',-,rfl⟩ := await_eq_some.mp hu'
  cases outcome with
  | written =>
    intro _
    have hfiled := settled_of_write (Nat.le_trans hn hlater.count) Place.file
    exact hfiled.later hlater'
  | unprotected => exact nofun
  | failed => exact nofun

theorem outline_persist_filed (hn : n ≤ s.watch.accepted) {session : StoredSession τ}
    (hsession : s.client.session=some session) :
    Outline (rules m) i kind (fun t r => r=.ok () → Settled n .file t.watch) persist s := by
  have hread : (memory i kind .session s).1=some session := hsession
  rw [persist,outline_look,hread]
  refine ⟨trivial,?_⟩
  dsimp only
  rw [outline_look]
  exact ⟨trivial,outline_tokenStoreSet_filed hn _⟩

/-- A sign-in that completes as the last one accepted has written both places. -/
theorem outline_signedIn {a : α} (hs : Sound m s) (hn : Settled n .file s.watch) :
    Outline (rules m) i kind (fun _ _ => True) (do look (.signedIn n); pure a) s := by
  rw [outline_look]
  refine ⟨fun hcount l => ?_,trivial⟩
  cases l with
  | memory => exact hs.2
  | file => exact hn.2 hcount

theorem outline_acceptAuth {wire : AuthResponse τ} (hs : Sound m s)
    (hwire : m.pairOf (.signIn i) wire=true) :
    Outline (rules m) i kind (fun _ _ => True) (acceptAuth wire) s := by
  obtain ⟨haccess,hrefresh,huser⟩ := belongs_of_pairOf m hwire
  have hallowed : Allowed m i s
      (.accept ⟨wire.accessToken,wire.refreshToken,wire.user.map toUser⟩) := by
    refine owned_sessionData haccess hrefresh ?_
    cases hu : wire.user with
    | none => exact owned_nil
    | some u => exact owned_singleton (huser u hu)
  rw [acceptAuth,outline_look]
  refine ⟨hallowed,?_⟩
  have haccept := (hs.memory i kind hallowed).1
  have hpersist : Outline (rules m) i kind _ persist
      (memory i kind (.accept ⟨wire.accessToken,wire.refreshToken,wire.user.map toUser⟩) s).2 :=
    outline_persist_filed (Nat.le_refl _) rfl
  refine hpersist.seq haccept (fun t _ hfiled ht _ => ?_) fun _ _ _ _ _ => trivial
  have hfiled := hfiled rfl
  rw [outline_look]
  refine ⟨trivial,?_⟩
  cases (memory i kind .user t).1 with
  | some user => exact outline_signedIn ht hfiled
  | none =>
    refine (outline_fetchMeWith ht _).seq ht (fun u me hme hu hlater => ?_) fun _ _ _ _ _ => trivial
    cases me with
    | none => trivial
    | some me =>
      refine outline_takeMe hu hme (fun v hv hlater' => ?_) fun _ _ => trivial
      exact outline_signedIn hv ((hfiled.later hlater).later hlater')

theorem outline_readAuth {reply : Reply (AuthResponse τ)} (hs : Sound m s)
    (hreply : m.honestPair (.signIn i) reply=true) :
    Outline (rules m) i kind (fun _ _ => True) (do let wire ← readAuth reply; acceptAuth wire) s := by
  unfold readAuth
  split
  · trivial
  · rename_i status body detail
    split
    · rename_i hok
      split
      · trivial
      · rename_i wire
        have hgranted : Reply.granted (.answered status (some wire) detail)=some wire := by
          simp [Reply.granted,hok]
        rw [Issued.honestPair,hgranted] at hreply
        exact outline_acceptAuth hs hreply
    · trivial

theorem outline_signUp (input : SignUpInput) :
    Outline (rules m) i kind (fun _ _ => True) (signUp input) s := by
  rw [signUp,outline_answer]
  intro t reply u _ ht _ hu
  obtain ⟨hhonest,c,hc,rfl⟩ := await_eq_some.mp hu
  cases hc
  exact outline_readAuth ht hhonest

theorem outline_signIn (input : SignInInput) :
    Outline (rules m) i kind (fun _ _ => True) (signIn input) s := by
  rw [signIn,outline_answer]
  intro t reply u _ ht _ hu
  obtain ⟨hhonest,c,hc,rfl⟩ := await_eq_some.mp hu
  cases hc
  exact outline_readAuth ht hhonest

/-- Every operation keeps to its rules. -/
theorem outline_perform (hs : Sound m s) :
    Outline (rules m) i kind (fun _ _ => True) (kind.perform m.expMs) s := by
  cases kind with
  | init => exact outline_init hs
  | signUp input => exact (outline_signUp input).seq hs (fun _ _ _ _ _ => trivial) fun _ _ _ _ _ => trivial
  | signIn input => exact (outline_signIn input).seq hs (fun _ _ _ _ _ => trivial) fun _ _ _ _ _ => trivial
  | signOut => exact outline_signOut
  | fetchMe => exact (outline_fetchMe hs).seq hs (fun _ _ _ _ _ => trivial) fun _ _ _ _ _ => trivial
  | getAccessToken =>
    exact (outline_getAccessToken hs).seq hs (fun _ _ _ _ _ => trivial) fun _ _ _ _ _ => trivial

/-- The application starts with nothing in memory, and a session in the file or none. -/
structure Started (m : Issued τ ι) (c : Client τ) : Prop where
  session : c.session=none
  user : c.user=none
  stored : Owned m.Belongs (held c .file) (some .found)

omit [DecidableEq τ] in
variable {c : Client τ}

theorem Started.sound (h : Started m c) : Sound m (⟨c,{}⟩ : Watched τ ι) := by
  refine ⟨⟨fun l _ => ?_,fun _ _ hk => (Option.some.inj hk).symm,nofun,nofun⟩,rfl⟩
  cases l with
  | memory =>
    have hnone : held c .memory=[] := by simp [held,h.session,h.user]
    change Owned _ (held c .memory) _
    rw [hnone]
    exact owned_nil
  | file => exact h.stored

/-- While session data comes in time, sign-out is final. -/
theorem final_of_run (h : Started m c) {as : List (Move τ ι)} {w : State τ ι}
    (hrun : Run (guarded (Step (system m)) fun w a => inTime (rules m) w a=true)
      {shared := ⟨c,{}⟩} as w) : Final m.Belongs (held w.shared.client) w.shared.watch :=
  (invariant_of_run (rules m) (fun _ _ _ hs => outline_perform hs) h.sound hrun).1.final

end Operations

end Voyagent.DesktopSignOut
