import Voyagent.DesktopClient
import Voyagent.SessionLosses

/-!
# How the desktop client loses its tokens

The commands of the shell succeed. A refresh that is refused with whatever
status clears what is stored, and so does loading a session that ends without
a profile.
-/

namespace Voyagent.DesktopLosses

open EffectPrograms CooperativePrograms AuthClients DesktopClient SessionLosses

variable {τ : Type}

def signsOut : Operation → Bool
  | .signOut => true
  | _ => false

def loads : Operation → Bool
  | .init => true
  | _ => false

def memory (q : Look τ) (s : Metered (Client τ)) : q.Answer × Metered (Client τ) :=
  let r := Client.memory q s.client
  (r.1,⟨r.2,s.tally⟩)

/-- The commands of the shell succeed. -/
def works : (w : Await τ) → w.Answer → Bool
  | .load,.error _ => false
  | .store _,.failed => false
  | .store _,.unprotected => false
  | .clear,.error _ => false
  | _,_ => true

/-- What an answer adds to the tally. -/
def tallied (kind : Operation) (s : Metered (Client τ)) : (w : Await τ) → w.Answer → Tally
  | .refresh _,reply => s.tally.note (.refresh (fateOf reply))
  | .me _,reply => s.tally.note (.profile (fateOf reply))
  | .signUp _,reply => if reply.granted.isSome then s.tally.renew else s.tally
  | .signIn _,reply => if reply.granted.isSome then s.tally.renew else s.tally
  | .clear,_ => if signsOut kind then s.tally else s.tally.clear s.client.stored.isSome
  | _,_ => s.tally

/-- Between operations no refresh is shared, a session in memory is stored, and
where the refresh token stands rejected nothing is left. -/
structure Settled (c : Client τ) (rejected : Bool) : Prop where
  alone : c.refreshInflight=none
  stored : c.session.isSome=true → c.stored.isSome=true
  gone : rejected=true → c.session=none ∧ c.stored=none

/-- The session is held and stored, and no refresh was refused. -/
structure Kept (s : Metered (Client τ)) : Prop where
  session : s.client.session.isSome=true
  stored : s.client.stored.isSome=true
  before : s.tally.before=false
  rejected : s.tally.rejected=false
  lost : s.tally.lost=false
  refused : s.tally.met.contains (.refresh .refused)=false

/-- A refresh was rejected or refused last, and the session is gone. -/
structure Gone (s : Metered (Client τ)) : Prop where
  session : s.client.session=none
  stored : s.client.stored=none
  before : s.tally.before=false
  granted : lastGranted s.tally.met=false
  lost : s.tally.lost=s.tally.met.contains (.refresh .refused)
  rejected : s.tally.lost=false → s.tally.rejected=true

/-- Where looking for a token ends: with one, or the session is kept after a
failure, or it is gone. -/
def Found (t : Metered (Client τ)) : Option τ → Prop
  | some _ => Kept t
  | none => (Kept t ∧ lastGranted t.tally.met=false) ∨ Gone t

/-- Where asking for the profile ends. -/
def Loaded (t : Metered (Client τ)) : Option DesktopUser → Prop
  | some _ => Kept t ∧ lastGranted t.tally.met=true
  | none => (Kept t ∧ lastGranted t.tally.met=false) ∨ Gone t

/-- The shared refresh and the promises are as before. -/
def Alike (s t : Metered (Client τ)) : Prop :=
  t.client.promises=s.client.promises ∧ t.client.refreshInflight=s.client.refreshInflight

section Kept

variable {s : Metered (Client τ)}

/-- An answer to a refresh that is neither a success nor an error status keeps the session. -/
theorem Kept.note_refresh (h : Kept s) {fate : Fate} (hrejected : fate≠.rejected)
    (hrefused : fate≠.refused) : Kept ⟨s.client,s.tally.note (.refresh fate)⟩ where
  session := h.session
  stored := h.stored
  before := h.before
  rejected := by
    rw [rejected_note_refresh]
    cases fate with
    | granted => rfl
    | rejected => exact absurd rfl hrejected
    | _ => exact h.rejected
  lost := h.lost
  refused := by
    rw [contains_note,h.refused,Bool.false_or,decide_eq_false_iff_not]
    rintro hsame
    cases hsame
    exact hrefused rfl

variable {t : Metered (Client τ)}

theorem Kept.of_eq (h : Kept s) (hsession : t.client.session=s.client.session)
    (hstored : t.client.stored=s.client.stored) (htally : t.tally=s.tally) : Kept t := by
  refine ⟨?_,?_,?_,?_,?_,?_⟩
  · rw [hsession,h.session]
  · rw [hstored,h.stored]
  · rw [htally,h.before]
  · rw [htally,h.rejected]
  · rw [htally,h.lost]
  · rw [htally,h.refused]

theorem Gone.of_eq (h : Gone s) (hsession : t.client.session=s.client.session)
    (hstored : t.client.stored=s.client.stored) (htally : t.tally=s.tally) : Gone t := by
  refine ⟨?_,?_,?_,?_,?_,?_⟩
  · rw [hsession,h.session]
  · rw [hstored,h.stored]
  · rw [htally,h.before]
  · rw [htally,h.granted]
  · rw [htally,h.lost]
  · rw [htally]
    exact h.rejected

theorem Kept.note_profile (h : Kept s) (fate : Fate) : Kept ⟨s.client,s.tally.note (.profile fate)⟩ where
  session := h.session
  stored := h.stored
  before := h.before
  rejected := by rw [rejected_note_profile,h.rejected]
  lost := h.lost
  refused := by
    rw [contains_note,h.refused]
    rfl

/-- A session refused whose refresh was noted is gone when it is cleared. -/
theorem Kept.gone (h : Kept s) {fate : Fate} (hfate : fate=.rejected ∨ fate=.refused) :
    Gone (⟨{s.client with session := none,user := none,stored := none},
      (s.tally.note (.refresh fate)).clear s.client.stored.isSome⟩ : Metered (Client τ)) := by
  have hmet : ((s.tally.note (.refresh fate)).clear s.client.stored.isSome).met=
      (s.tally.note (.refresh fate)).met := rfl
  refine ⟨rfl,rfl,h.before,?_,?_,?_⟩
  · change lastGranted (s.tally.note (.refresh fate)).met=false
    rw [lastGranted_note_refresh]
    rcases hfate with rfl|rfl <;> rfl
  · change (s.tally.lost || (s.client.stored.isSome && !(s.tally.note (.refresh fate)).rejected))=
      (s.tally.note (.refresh fate)).met.contains _
    rw [rejected_note_refresh,contains_note,h.lost,h.stored,h.refused]
    rcases hfate with rfl|rfl
    · rfl
    · rw [h.rejected]
      rfl
  · change (s.tally.lost || (s.client.stored.isSome && !(s.tally.note (.refresh fate)).rejected))=false →
      (s.tally.note (.refresh fate)).rejected=true
    rw [rejected_note_refresh,h.lost,h.stored]
    rcases hfate with rfl|rfl
    · exact fun _ => rfl
    · rw [h.rejected]
      exact nofun

/-- Clearing what is gone loses nothing more. -/
theorem Gone.cleared (h : Gone s) :
    Gone (⟨{s.client with session := none,user := none,stored := none},
      s.tally.clear s.client.stored.isSome⟩ : Metered (Client τ)) := by
  have htally : s.tally.clear s.client.stored.isSome=s.tally := by
    rw [Tally.clear,h.stored]
    simp
  rw [htally]
  exact h.of_eq h.session.symm h.stored.symm rfl

end Kept

variable [DecidableEq τ]

def await (kind : Operation) (s : Metered (Client τ)) (w : Await τ) (a : w.Answer) :
    Option (Metered (Client τ)) :=
  if works w a then (s.client.await w a).map fun client => ⟨client,tallied kind s w a⟩ else none

def setup (expMs : τ → Int) :
    Setup (Look τ) (Await τ) Look.Answer Await.Answer Failure (Client τ) Operation where
  body := fun kind => kind.perform expMs
  memory := fun _ => memory
  await := await
  clock := fun now c => {c with clock := now}
  stored := fun c => c.stored.isSome
  loads := loads
  refusalClears := true

section Operations

variable {kind : Operation} {s : Metered (Client τ)} {α : Type}

/-- An answer that may be given, and its effect. -/
theorem await_eq_some {w : Await τ} {a : w.Answer} {t : Metered (Client τ)} :
    await kind s w a=some t ↔ works w a=true ∧
      ∃ c,s.client.await w a=some c ∧ t=⟨c,tallied kind s w a⟩ := by
  unfold await
  exact ite_map_eq_some

/-- A session is written to the file. -/
theorem ends_tokenStoreSet (session : StoredSession τ) :
    Ends memory (await kind)
      (fun t r => r=.ok () ∧ t=⟨{s.client with stored := some session},s.tally⟩)
      (tokenStoreSet session) s := by
  rw [tokenStoreSet,ends_awaited]
  intro a t ht
  obtain ⟨hworks,c,hc,rfl⟩ := await_eq_some.mp ht
  rw [ends_awaited]
  intro b u hu
  obtain ⟨-,c',hc',rfl⟩ := await_eq_some.mp hu
  cases hc'
  cases a with
  | written =>
    cases hc
    exact ⟨rfl,rfl⟩
  | unprotected => cases hworks
  | failed => cases hworks

/-- What is stored is loaded. -/
theorem ends_tokenStoreGet :
    Ends memory (await kind) (fun t r => r=.ok s.client.stored ∧ t=s) tokenStoreGet s := by
  rw [tokenStoreGet,ends_awaited]
  intro a t ht
  obtain ⟨hworks,c,hc,rfl⟩ := await_eq_some.mp ht
  cases a with
  | error e => cases hworks
  | ok found =>
    obtain ⟨rfl,hsame⟩ := Option.ite_none_right_eq_some.mp hc
    cases hsame
    dsimp only
    rw [ends_awaited]
    intro b u hu
    obtain ⟨-,c',hc',rfl⟩ := await_eq_some.mp hu
    cases hc'
    exact ⟨rfl,rfl⟩

theorem ends_persist {session : StoredSession τ} (h : s.client.session=some session) :
    Ends memory (await kind) (fun t r => r=.ok () ∧
      t=⟨{s.client with stored := some {session with user := s.client.user}},s.tally⟩) persist s := by
  have hread : (memory .session s).1=some session := h
  rw [persist,ends_atOnce,hread]
  exact ends_tokenStoreSet _

/-- The session is cleared from memory and from the file. -/
theorem ends_clearLocal_tally :
    Ends memory (await kind) (fun t r => r=.ok () ∧
      t=⟨{s.client with session := none,user := none,stored := none},
        if signsOut kind then s.tally else s.tally.clear s.client.stored.isSome⟩) clearLocal s := by
  rw [clearLocal,ends_atOnce,tokenStoreClear,ends_awaited]
  intro a t ht
  obtain ⟨hworks,c,hc,rfl⟩ := await_eq_some.mp ht
  rw [ends_awaited]
  intro b u hu
  obtain ⟨-,c',hc',rfl⟩ := await_eq_some.mp hu
  cases hc'
  cases a with
  | error e => cases hworks
  | ok _ =>
    cases hc
    exact ⟨rfl,rfl⟩

theorem ends_clearLocal (hkind : signsOut kind=false) :
    Ends memory (await kind) (fun t r => r=.ok () ∧
      t=⟨{s.client with session := none,user := none,stored := none},
        s.tally.clear s.client.stored.isSome⟩) clearLocal s := by
  refine ends_clearLocal_tally.imp fun t r ht => ⟨ht.1,?_⟩
  rw [ht.2,if_neg (by rw [hkind]; exact Bool.false_ne_true)]

/-- Where the answer to a refresh leaves the client. -/
theorem ends_takeRefreshed (hkind : signsOut kind=false) {reply : Reply (AuthResponse τ)} (h : Kept s) :
    Ends memory (await kind)
      (fun t r => (match r with
        | .ok token => Found t token
        | .error _ => Kept t ∧ lastGranted t.tally.met=false) ∧ Alike s t)
      (takeRefreshed reply) ⟨s.client,s.tally.note (.refresh (fateOf reply))⟩ := by
  cases reply with
  | unreachable =>
    refine ⟨⟨h.note_refresh nofun nofun,?_⟩,rfl,rfl⟩
    exact lastGranted_note_refresh ..
  | answered status body detail =>
    unfold takeRefreshed fateOf
    dsimp only
    split
    · cases body with
      | none =>
        refine ⟨⟨h.note_refresh nofun nofun,?_⟩,rfl,rfl⟩
        exact lastGranted_note_refresh ..
      | some wire =>
        dsimp only
        rw [ends_atOnce,ends_atOnce]
        have hnoted : Kept ⟨s.client,s.tally.note (.refresh .granted)⟩ := h.note_refresh nofun nofun
        refine (ends_persist rfl).seq (fun t _ ht => ?_) fun t e ht => nomatch ht.1
        obtain ⟨-,rfl⟩ := ht
        exact ⟨⟨rfl,rfl,h.before,hnoted.rejected,hnoted.lost,hnoted.refused⟩,rfl,rfl⟩
    · refine (ends_clearLocal hkind).seq (fun t _ ht => ?_) fun t e ht => nomatch ht.1
      obtain ⟨-,rfl⟩ := ht
      refine ⟨.inr (h.gone ?_),rfl,rfl⟩
      split
      · exact .inl rfl
      · exact .inr rfl

theorem ends_requestRefresh (hkind : signsOut kind=false) (h : Kept s) (refreshToken : τ) :
    Ends memory (await kind) (fun t r => (∃ token,r=.ok token ∧ Found t token) ∧ Alike s t)
      (requestRefresh refreshToken) s := by
  have hbody : Ends memory (await kind)
      (fun t r => (match r with
        | .ok token => Found t token
        | .error _ => Kept t ∧ lastGranted t.tally.met=false) ∧ Alike s t)
      (do let res ← answer (.refresh refreshToken); takeRefreshed res) s := by
    rw [ends_awaited]
    intro reply t ht
    obtain ⟨-,c,hc,rfl⟩ := await_eq_some.mp ht
    cases hc
    exact ends_takeRefreshed hkind h
  refine hbody.handled (fun t token ht => ⟨⟨token,rfl,ht.1⟩,ht.2⟩) fun t e ht => ?_
  exact ⟨⟨none,rfl,.inl ht.1⟩,ht.2⟩

/-- A refresh of a session that is kept, with no other under way. -/
theorem ends_refresh (hkind : signsOut kind=false) (h : Kept s) (halone : s.client.refreshInflight=none) :
    Ends memory (await kind)
      (fun t r => ∃ token,r=.ok token ∧ Found t token ∧ t.client.refreshInflight=none) refresh s := by
  obtain ⟨session,hsession⟩ := Option.isSome_iff_exists.mp h.session
  have hread : (memory .session s).1=some session := hsession
  have hfree : (memory .refreshInflight s).1=none := halone
  rw [refresh,ends_atOnce,hread]
  dsimp only
  rw [ends_atOnce,show (memory .refreshInflight (memory .session s).2).1=none from hfree]
  dsimp only
  rw [ends_atOnce]
  have hopen : Kept (memory .openRefresh s).2 :=
    ⟨h.session,h.stored,h.before,h.rejected,h.lost,h.refused⟩
  refine (ends_requestRefresh hkind hopen _).seq (fun t token ht => ?_) fun t e ht => nomatch ht.1
  obtain ⟨⟨token',htoken,hfound⟩,hpromises,-⟩ := ht
  cases htoken
  rw [ends_atOnce]
  -- The promise is resolved with what the request found.
  intro token' u hu
  obtain ⟨-,c,hc,rfl⟩ := await_eq_some.mp hu
  obtain ⟨hresolved,hsame⟩ := Option.ite_none_right_eq_some.mp hc
  cases hsame
  have hvalue : ((s.client.promises++[none]).set s.client.promises.length (some token))[
      s.client.promises.length]?=some (some token) := by
    simp
  have htoken : some (some token)=some (some token') := by
    rw [← hvalue]
    change (t.client.promises.set _ _)[_]?=_ at hresolved
    rw [hpromises] at hresolved
    exact hresolved
  cases htoken
  refine ⟨token,rfl,?_,rfl⟩
  cases token with
  | some token => exact hfound.of_eq rfl rfl rfl
  | none => exact hfound.imp (fun h => ⟨h.1.of_eq rfl rfl rfl,h.2⟩) fun h => h.of_eq rfl rfl rfl

/-- The client after it has read a profile, or failed to. -/
def ProfileRead (t : Metered (Client τ)) : Except Failure (Option DesktopUser) → Prop
  | .ok me => Loaded t me
  | .error _ => Kept t ∧ lastGranted t.tally.met=false

/-- The requests of `fetchMeWith`. -/
def readMeTwice (token : τ) : Desktop τ (Option DesktopUser) := do
  let res ← answer (.me token)
  if res.rejected then
    match ← refresh with
    | none => pure none
    | some refreshed => do
      let retry ← answer (.me refreshed)
      readMe retry
  else readMe res

/-- Where reading the profile leaves the client. -/
theorem ends_readMe {reply : Reply PublicUser} (h : Kept s) (halone : s.client.refreshInflight=none) :
    Ends memory (await kind) (fun t r => ProfileRead t r ∧ t.client.refreshInflight=none)
      (readMe reply) ⟨s.client,s.tally.note (.profile (fateOf reply))⟩ := by
  have hnoted := h.note_profile (fateOf reply)
  have hlast := lastGranted_note_profile s.tally (fateOf reply)
  have hgranted : fateOf reply=.granted ↔ reply.granted.isSome=true := fateOf_eq_granted
  rcases readMe_cases (τ:=τ) reply with ⟨wire,hwire,hread⟩|⟨hnone,hread|⟨e,hread⟩⟩
  all_goals rw [hread]
  · refine ⟨⟨hnoted,?_⟩,halone⟩
    rw [hlast,decide_eq_true_iff,hgranted,hwire]
    rfl
  · refine ⟨.inl ⟨hnoted,?_⟩,halone⟩
    rw [hlast,decide_eq_false_iff_not,hgranted,hnone]
    exact nofun
  · refine ⟨⟨hnoted,?_⟩,halone⟩
    rw [hlast,decide_eq_false_iff_not,hgranted,hnone]
    exact nofun

theorem ends_fetchMeWith (hkind : signsOut kind=false) (h : Kept s)
    (halone : s.client.refreshInflight=none) (token : τ) :
    Ends memory (await kind)
      (fun t r => ∃ me,r=.ok me ∧ Loaded t me ∧ t.client.refreshInflight=none)
      (fetchMeWith token) s := by
  have hbody : Ends memory (await kind) (fun t r => ProfileRead t r ∧ t.client.refreshInflight=none)
      (readMeTwice token) s := by
    rw [readMeTwice,ends_awaited]
    intro reply t ht
    obtain ⟨-,c,hc,rfl⟩ := await_eq_some.mp ht
    cases hc
    split
    · have hnoted := h.note_profile (fateOf reply)
      refine (ends_refresh hkind hnoted halone).seq (fun u token hu => ?_) fun u e hu => ?_
      · obtain ⟨token',hsame,hfound,halone'⟩ := hu
        cases hsame
        cases token with
        | none => exact ⟨hfound,halone'⟩
        | some refreshed =>
          dsimp only
          rw [ends_awaited]
          intro retry v hv
          obtain ⟨-,c,hc,rfl⟩ := await_eq_some.mp hv
          cases hc
          exact ends_readMe hfound halone'
      · obtain ⟨token',hsame,-⟩ := hu
        cases hsame
    · exact ends_readMe h halone
  exact hbody.handled (fun t me ht => ⟨me,rfl,ht⟩) fun t e ht => ⟨none,rfl,.inl ht.1,ht.2⟩

section Loading

variable (expMs : τ → Int)

theorem ends_getAccessToken (hkind : signsOut kind=false) (h : Kept s)
    (halone : s.client.refreshInflight=none) :
    Ends memory (await kind)
      (fun t r => ∃ token,r=.ok token ∧ Found t token ∧ t.client.refreshInflight=none)
      (getAccessToken expMs) s := by
  obtain ⟨session,hsession⟩ := Option.isSome_iff_exists.mp h.session
  have hread : (memory .session s).1=some session := hsession
  rw [getAccessToken,ends_atOnce,hread]
  dsimp only
  rw [ends_atOnce]
  split
  · exact ⟨_,rfl,h,halone⟩
  · exact ends_refresh hkind h halone

/-- What an operation has to show where it ends. -/
def Shown (kind : Operation) (s t : Metered (Client τ)) : Prop :=
  Settled t.client t.tally.rejected ∧
    (t.tally.lost=false ↔ Spares (setup expMs) kind s t.tally.met=true)

variable {expMs}

variable {t : Metered (Client τ)}

/-- The session is kept, and the operation loads none or has met a success last. -/
theorem Kept.shown (h : Kept t) (halone : t.client.refreshInflight=none)
    (hlast : loads kind=false ∨ lastGranted t.tally.met=true) : Shown expMs kind s t := by
  refine ⟨⟨halone,fun _ => h.stored,fun hr => ?_⟩,iff_of_true h.lost ?_⟩
  · rw [h.rejected] at hr
    cases hr
  · change ((!loads kind || _ || lastGranted t.tally.met || _) && (!true || !t.tally.met.contains _))=true
    rw [h.refused]
    rcases hlast with hlast|hlast <;> simp [hlast]

/-- Without a profile what is loaded is cleared. -/
theorem Kept.cleared (h : Kept t) (halone : t.client.refreshInflight=none)
    (hlast : lastGranted t.tally.met=false) (hstored : s.client.stored.isSome=true)
    (hbefore : s.tally.before=false) :
    Shown expMs .init s ⟨{t.client with session := none,user := none,stored := none},
      t.tally.clear t.client.stored.isSome⟩ := by
  have hrejected : rejectedAfter s.tally.before t.tally.met=false := by
    rw [hbefore.trans h.before.symm]
    exact h.rejected
  refine ⟨⟨halone,nofun,fun _ => ⟨rfl,rfl⟩⟩,iff_of_false ?_ ?_⟩
  · change ¬(t.tally.lost || (t.client.stored.isSome && !t.tally.rejected))=false
    rw [h.lost,h.stored,h.rejected]
    exact nofun
  · change ¬((false || !s.client.stored.isSome || lastGranted t.tally.met ||
      rejectedAfter s.tally.before t.tally.met) && _)=true
    rw [hstored,hlast,hrejected]
    exact nofun

/-- A session that is gone was rejected or refused. -/
theorem Gone.shown (h : Gone t) (halone : t.client.refreshInflight=none)
    (hbefore : loads kind=false ∨ s.tally.before=false) : Shown expMs kind s t := by
  refine ⟨⟨halone,?_,fun _ => ⟨h.session,h.stored⟩⟩,?_⟩
  · rw [h.session]
    exact nofun
  · change t.tally.lost=false ↔ ((!loads kind || _ || lastGranted t.tally.met ||
      rejectedAfter s.tally.before t.tally.met) && (!true || !t.tally.met.contains _))=true
    have hcause : t.tally.lost=false → loads kind=false ∨ rejectedAfter s.tally.before t.tally.met=true := by
      intro hlost
      refine hbefore.imp_right fun hbefore => ?_
      rw [hbefore.trans h.before.symm]
      exact h.rejected hlost
    rw [← h.lost]
    cases hlost : t.tally.lost with
    | false => rcases hcause hlost with h|h <;> simp [h]
    | true => simp

variable {s₀ : Metered (Client τ)}

/-- The profile is written to the session. -/
theorem ends_persist_user (h : Kept s) (halone : s.client.refreshInflight=none)
    (hlast : loads kind=false ∨ lastGranted s.tally.met=true) (me : DesktopUser) :
    Ends memory (await kind) (fun t r => r=.ok () ∧ Shown expMs kind s₀ t)
      (do look (.setUser me); persist) s := by
  obtain ⟨session,hsession⟩ := Option.isSome_iff_exists.mp h.session
  rw [ends_atOnce]
  have hsession' : (memory (.setUser me) s).2.client.session=some session := hsession
  refine (ends_persist hsession').imp fun t r ht => ⟨ht.1,?_⟩
  obtain ⟨-,rfl⟩ := ht
  have hfinal : Kept (⟨{(memory (.setUser me) s).2.client with
      stored := some {session with user := (memory (.setUser me) s).2.client.user}},
      s.tally⟩ : Metered (Client τ)) :=
    ⟨h.session,rfl,h.before,h.rejected,h.lost,h.refused⟩
  exact hfinal.shown halone hlast

section

variable (h : Settled s.client s.tally.before) (hmet : s.tally.met=[]) (hlost : s.tally.lost=false)

include h hmet hlost

/-- Loading a session that is stored. -/
theorem ends_init_stored {stored : StoredSession τ} (hstored : s.client.stored=some stored) :
    Ends memory (await .init) (fun t _ => Shown expMs .init s t) (do
      look (.hold stored)
      match ← getAccessToken expMs with
      | none => clearLocal
      | some token => do
        match ← fetchMeWith token with
        | none => clearLocal
        | some me => do
          look (.setUser me)
          persist) s := by
  have hbefore : s.tally.before=false := by
    by_contra hne
    have hnone := (h.gone (by simpa using hne)).2
    rw [hstored] at hnone
    cases hnone
  have hsome : s.client.stored.isSome=true := by rw [hstored]; rfl
  have hfail : ∀ t : Metered (Client τ),t.client.refreshInflight=none →
      ((Kept t ∧ lastGranted t.tally.met=false) ∨ Gone t) →
      Ends memory (await .init) (fun u _ => Shown expMs .init s u) clearLocal t := by
    intro t halone hcases
    refine (ends_clearLocal rfl).imp fun u _ hu => ?_
    obtain ⟨-,rfl⟩ := hu
    rcases hcases with ⟨hkept,hlast⟩|hgone
    · exact hkept.cleared halone hlast hsome hbefore
    · exact hgone.cleared.shown halone (.inr hbefore)
  rw [ends_atOnce]
  have hkept : Kept (memory (.hold stored) s).2 := by
    refine ⟨rfl,hsome,hbefore,?_,hlost,?_⟩
    · change rejectedAfter s.tally.before s.tally.met=false
      rw [hbefore,hmet]
      rfl
    · change s.tally.met.contains _=false
      rw [hmet]
      rfl
  refine (ends_getAccessToken expMs rfl hkept h.alone).seq (fun t token ht => ?_) fun t e ht => ?_
  · obtain ⟨token',hsame,hfound,halone⟩ := ht
    cases hsame
    cases token with
    | none => exact hfail t halone hfound
    | some token =>
      refine (ends_fetchMeWith rfl hfound halone token).seq (fun u me hu => ?_) fun u e hu => ?_
      · obtain ⟨me',hsame,hloaded,halone'⟩ := hu
        cases hsame
        cases me with
        | none => exact hfail u halone' hloaded
        | some me =>
          exact (ends_persist_user hloaded.1 halone' (.inr hloaded.2) me).imp fun v _ hv => hv.2
      · obtain ⟨me',hsame,-⟩ := hu
        cases hsame
  · obtain ⟨token',hsame,-⟩ := ht
    cases hsame

/-- What ends as it began has lost nothing. -/
theorem Settled.shown (hquiet : loads kind=false ∨ s.client.stored=none) :
    Shown expMs kind s s := by
  have hrejected : s.tally.rejected=s.tally.before := by
    rw [Tally.rejected,hmet]
    rfl
  refine ⟨?_,iff_of_true hlost ?_⟩
  · rwa [hrejected]
  · change ((!loads kind || !s.client.stored.isSome || _ || _) && (!true || !s.tally.met.contains _))=true
    rw [hmet]
    rcases hquiet with hquiet|hquiet <;> simp [hquiet]

theorem ends_init :
    Ends memory (await .init) (fun t _ => Shown expMs .init s t) (init expMs) s := by
  refine ends_tokenStoreGet.seq (fun t found ht => ?_) fun t e ht => nomatch ht.1
  obtain ⟨hfound,rfl⟩ := ht
  cases hfound
  cases hstored : t.client.stored with
  | none => exact h.shown hmet hlost (.inr hstored)
  | some stored => exact ends_init_stored h hmet hlost hstored

omit [DecidableEq τ] in
/-- A session in memory is one that is kept. -/
theorem Settled.kept (hsession : s.client.session.isSome=true) : Kept s := by
  have hbefore : s.tally.before=false := by
    by_contra hne
    have hnone := (h.gone (by simpa using hne)).1
    rw [hnone] at hsession
    cases hsession
  refine ⟨hsession,h.stored hsession,hbefore,?_,hlost,?_⟩
  · rw [Tally.rejected,hbefore,hmet]
    rfl
  · rw [hmet]
    rfl

end

/-- An operation that loads no session ends with one kept or gone. -/
theorem shown_of_found (hloads : loads kind=false) (halone : t.client.refreshInflight=none)
    (h : (Kept t ∧ lastGranted t.tally.met=false) ∨ Gone t) : Shown expMs kind s t := by
  rcases h with ⟨hkept,-⟩|hgone
  · exact hkept.shown halone (.inl hloads)
  · exact hgone.shown halone (.inl hloads)

section

variable (hsigns : signsOut kind=false) (hloads : loads kind=false)

include hsigns hloads

/-- Where looking for a token ends, when there may be no session. -/
theorem ends_getAccessToken_settled (h : Settled s.client s.tally.before) (hmet : s.tally.met=[])
    (hlost : s.tally.lost=false) :
    Ends memory (await kind)
      (fun t r => ∃ token,r=.ok token ∧ t.client.refreshInflight=none ∧ match token with
        | some _ => Kept t
        | none => Shown expMs kind s t)
      (getAccessToken expMs) s := by
  cases hsession : s.client.session with
  | none =>
    have hread : (memory .session s).1=none := hsession
    rw [getAccessToken,ends_atOnce,hread]
    exact ⟨none,rfl,h.alone,h.shown hmet hlost (.inl hloads)⟩
  | some session =>
    have hkept := h.kept hmet hlost (by rw [hsession]; rfl)
    refine (ends_getAccessToken expMs hsigns hkept h.alone).imp fun t r ht => ?_
    obtain ⟨token,rfl,hfound,halone⟩ := ht
    refine ⟨token,rfl,halone,?_⟩
    cases token with
    | some token => exact hfound
    | none => exact shown_of_found hloads halone hfound

theorem ends_fetchMe (h : Settled s.client s.tally.before) (hmet : s.tally.met=[])
    (hlost : s.tally.lost=false) :
    Ends memory (await kind) (fun t _ => Shown expMs kind s t) (fetchMe expMs) s := by
  refine (ends_getAccessToken_settled hsigns hloads h hmet hlost).seq (fun t token ht => ?_)
    fun t e ht => nomatch ht.choose_spec.1
  obtain ⟨token',hsame,halone,hfound⟩ := ht
  cases hsame
  cases token with
  | none => exact hfound
  | some token =>
    refine (ends_fetchMeWith hsigns hfound halone token).seq (fun u me hu => ?_)
      fun u e hu => nomatch hu.choose_spec.1
    obtain ⟨me',hsame,hloaded,halone'⟩ := hu
    cases hsame
    cases me with
    | none => exact shown_of_found hloads halone' hloaded
    | some me =>
      exact (ends_persist_user hloaded.1 halone' (.inl hloads) me).seq (fun v _ hv => hv.2)
        fun v e hv => hv.2

/-- A sign-in that is granted is kept. -/
theorem ends_acceptAuth (halone : s.client.refreshInflight=none) (hlost : s.tally.lost=false)
    (wire : AuthResponse τ) :
    Ends memory (await kind) (fun t _ => Shown expMs kind s₀ t) (acceptAuth wire)
      ⟨s.client,s.tally.renew⟩ := by
  rw [acceptAuth,ends_atOnce]
  refine (ends_persist rfl).seq (fun t _ ht => ?_) fun t e ht => nomatch ht.1
  obtain ⟨-,rfl⟩ := ht
  have hkept : Kept (⟨{s.client with
      session := some ⟨wire.accessToken,wire.refreshToken,wire.user.map toUser⟩
      user := wire.user.map toUser
      stored := some ⟨wire.accessToken,wire.refreshToken,wire.user.map toUser⟩},
      s.tally.renew⟩ : Metered (Client τ)) := ⟨rfl,rfl,rfl,rfl,hlost,rfl⟩
  rw [ends_atOnce]
  split
  · exact hkept.shown halone (.inl hloads)
  · refine (ends_fetchMeWith hsigns hkept halone wire.accessToken).seq (fun u me hu => ?_)
      fun u e hu => nomatch hu.choose_spec.1
    obtain ⟨me',hsame,hloaded,halone'⟩ := hu
    cases hsame
    cases me with
    | none => exact shown_of_found hloads halone' hloaded
    | some me =>
      exact (ends_persist_user hloaded.1 halone' (.inl hloads) me).seq (fun v _ hv => hv.2)
        fun v e hv => hv.2

theorem ends_readAuth (h : Settled s.client s.tally.before) (hmet : s.tally.met=[])
    (hlost : s.tally.lost=false)
    (reply : Reply (AuthResponse τ)) :
    Ends memory (await kind) (fun t _ => Shown expMs kind s t)
      (do let wire ← readAuth reply; acceptAuth wire)
      ⟨s.client,if reply.granted.isSome then s.tally.renew else s.tally⟩ := by
  have hunchanged : Shown expMs kind s s := h.shown hmet hlost (.inl hloads)
  cases reply with
  | unreachable => exact hunchanged
  | answered status body detail =>
    unfold readAuth Reply.granted
    dsimp only
    split
    · cases body with
      | none => exact hunchanged
      | some wire => exact ends_acceptAuth hsigns hloads h.alone hlost wire
    · exact hunchanged

end

/-- A sign-out clears what the user no longer wants. -/
theorem ends_signOut (h : Settled s.client s.tally.before) (hmet : s.tally.met=[])
    (hlost : s.tally.lost=false) :
    Ends memory (await .signOut) (fun t _ => Shown expMs .signOut s t) signOut s := by
  rw [signOut,ends_atOnce,ends_atOnce,ends_awaited]
  intro a t ht
  obtain ⟨-,c,hc,rfl⟩ := await_eq_some.mp ht
  cases hc
  refine ends_clearLocal_tally.seq (fun t _ ht => ?_) fun t e ht => nomatch ht.1
  obtain ⟨-,rfl⟩ := ht
  refine ⟨⟨h.alone,nofun,fun _ => ⟨rfl,rfl⟩⟩,iff_of_true hlost ?_⟩
  change (true && (!true || !s.tally.met.contains _))=true
  rw [hmet]
  rfl

theorem conforms (expMs : τ → Int) : Conforms (setup expMs) Settled := by
  intro kind s h hmet hlost
  cases kind with
  | init => exact ends_init h hmet hlost
  | signUp input =>
    have hend : Ends memory (await (.signUp input)) (fun t _ => Shown expMs (.signUp input) s t)
        (signUp input) s := by
      rw [signUp,ends_awaited]
      intro a t ht
      obtain ⟨-,c,hc,rfl⟩ := await_eq_some.mp ht
      cases hc
      exact ends_readAuth rfl rfl h hmet hlost a
    exact hend.seq (fun t _ ht => ht) fun t e ht => ht
  | signIn input =>
    have hend : Ends memory (await (.signIn input)) (fun t _ => Shown expMs (.signIn input) s t)
        (signIn input) s := by
      rw [signIn,ends_awaited]
      intro a t ht
      obtain ⟨-,c,hc,rfl⟩ := await_eq_some.mp ht
      cases hc
      exact ends_readAuth rfl rfl h hmet hlost a
    exact hend.seq (fun t _ ht => ht) fun t e ht => ht
  | signOut => exact ends_signOut h hmet hlost
  | fetchMe =>
    exact (ends_fetchMe rfl rfl h hmet hlost).seq (fun t _ ht => ht) fun t e ht => ht
  | getAccessToken =>
    refine (ends_getAccessToken_settled rfl rfl h hmet hlost).seq (fun t token ht => ?_)
      fun t e ht => nomatch ht.choose_spec.1
    obtain ⟨token',hsame,halone,hfound⟩ := ht
    cases hsame
    cases token with
    | none => exact hfound
    | some token => exact hfound.shown halone (.inl rfl)

theorem settled_clock (expMs : τ → Int) (c : Client τ) (b : Bool) (now : Int) (h : Settled c b) :
    Settled ((setup expMs).clock now c) b := ⟨h.alone,h.stored,h.gone⟩

end Loading

end Operations

end Voyagent.DesktopLosses
