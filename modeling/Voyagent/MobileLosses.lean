import Voyagent.MobileClient
import Voyagent.SessionLosses

/-!
# How the phone loses its tokens

The store answers every request. A refresh that fails clears nothing by itself,
but loading a session clears what is stored wherever it ends without a profile.
-/

namespace Voyagent.MobileLosses

open EffectPrograms CooperativePrograms AuthClients MobileClient SessionLosses

variable {τ : Type}

def signsOut : Operation τ → Bool
  | .signOut => true
  | _ => false

def loads : Operation τ → Bool
  | .hydrate => true
  | _ => false

/-- Whether an item holds a token. -/
def held (c : Client τ) : Key → Bool
  | .accessToken => c.storedAccess.isSome
  | .refreshToken => c.storedRefresh.isSome
  | .user => false

/-- Tokens are stored. -/
def stored (c : Client τ) : Bool := [Key.accessToken,.refreshToken,.user].any (held c)

def memory (q : Look τ) (s : Metered (Client τ)) : q.Answer × Metered (Client τ) :=
  let r := Client.memory q s.client
  (r.1,⟨r.2,s.tally⟩)

/-- What an answer adds to the tally. -/
def tallied (kind : Operation τ) (s : Metered (Client τ)) : (w : Await τ) → w.Answer → Tally
  | .refresh _,reply => s.tally.note (.refresh (fateOf reply))
  | .me _,reply => s.tally.note (.profile (fateOf reply))
  | .signUp _,reply => if reply.granted.isSome then s.tally.renew else s.tally
  | .signIn _,reply => if reply.granted.isSome then s.tally.renew else s.tally
  | .delete _,(key,_) => if signsOut kind then s.tally else s.tally.clear (held s.client key)
  | _,_ => s.tally

theorem held_delete (c : Client τ) (key other : Key) :
    held (c.delete key) other=(held c other && decide (other≠key)) := by
  cases key <;> cases other <;> simp [held,Client.delete]

variable [DecidableEq τ]

/-- The store answers every request. -/
def works (c : Client τ) : (w : Await τ) → w.Answer → Bool
  | .getAccessToken,value => decide (value=c.storedAccess)
  | .getRefreshToken,value => decide (value=c.storedRefresh)
  | .getUser,user => decide (user=c.storedUser)
  | .setAccessToken _,done => done
  | .setRefreshToken _,done => done
  | .setUser _,done => done
  | .delete _,(_,done) => done
  | _,_ => true

def await (kind : Operation τ) (s : Metered (Client τ)) (w : Await τ) (a : w.Answer) :
    Option (Metered (Client τ)) :=
  if works s.client w a then (s.client.await w a).map fun client => ⟨client,tallied kind s w a⟩
  else none

/-- Between operations no refresh is shared. -/
def Alone (c : Client τ) (_ : Bool) : Prop := c.refreshInFlight=none

def setup (expMs : τ → Int) :
    Setup (Look τ) (Await τ) Look.Answer Await.Answer Empty (Client τ) (Operation τ) where
  body := fun kind => kind.perform expMs
  memory := fun _ => memory
  await := await
  clock := fun now c => {c with clock := now}
  stored := stored
  loads := loads
  refusalClears := false

/-- Nothing is lost, and the shared refresh and the promises are as before. -/
structure Calm (s t : Metered (Client τ)) : Prop where
  inFlight : t.client.refreshInFlight=s.client.refreshInFlight
  promises : t.client.promises=s.client.promises
  before : t.tally.before=s.tally.before
  lost : t.tally.lost=s.tally.lost

/-- Where a request for tokens ends: with new ones for those that were stored, or
with the same as before, after no success. -/
def Obtained (s t : Metered (Client τ)) (got : Bool) : Prop :=
  if got then stored s.client=true ∧ stored t.client=true
  else stored t.client=stored s.client ∧ (t.tally.met=s.tally.met ∨ lastGranted t.tally.met=false)

section Operations

variable {kind : Operation τ} {s : Metered (Client τ)} {α : Type}

omit [DecidableEq τ] in
theorem Calm.refl (s : Metered (Client τ)) : Calm s s := ⟨rfl,rfl,rfl,rfl⟩

/-- An answer that may be given, and its effect. -/
theorem await_eq_some {w : Await τ} {a : w.Answer} {t : Metered (Client τ)} :
    await kind s w a=some t ↔ works s.client w a=true ∧
      ∃ c,s.client.await w a=some c ∧ t=⟨c,tallied kind s w a⟩ := by
  unfold await
  exact ite_map_eq_some

/-! ## The store -/

/-- The reply of the store arrives. -/
theorem ends_replied :
    Ends memory (await kind) (fun t r => r=.ok () ∧ t=s) (answer .replied) s := by
  intro a t ht
  obtain ⟨-,c,hc,rfl⟩ := await_eq_some.mp ht
  cases hc
  exact ⟨rfl,rfl⟩

theorem ends_getAccessToken_store :
    Ends memory (await kind) (fun t r => r=.ok s.client.storedAccess ∧ t=s)
      TokenStore.getAccessToken s := by
  rw [TokenStore.getAccessToken,ends_awaited]
  intro a t ht
  obtain ⟨hworks,c,hc,rfl⟩ := await_eq_some.mp ht
  cases of_decide_eq_true hworks
  obtain ⟨-,hsame⟩ := Option.ite_none_right_eq_some.mp hc
  cases hsame
  exact ends_replied.seq (fun t _ ht => ⟨rfl,ht.2⟩) fun t e _ => nomatch e

theorem ends_getRefreshToken :
    Ends memory (await kind) (fun t r => r=.ok s.client.storedRefresh ∧ t=s)
      TokenStore.getRefreshToken s := by
  rw [TokenStore.getRefreshToken,ends_awaited]
  intro a t ht
  obtain ⟨hworks,c,hc,rfl⟩ := await_eq_some.mp ht
  cases of_decide_eq_true hworks
  obtain ⟨-,hsame⟩ := Option.ite_none_right_eq_some.mp hc
  cases hsame
  exact ends_replied.seq (fun t _ ht => ⟨rfl,ht.2⟩) fun t e _ => nomatch e

theorem ends_getUser :
    Ends memory (await kind) (fun t r => r=.ok s.client.storedUser ∧ t=s) TokenStore.getUser s := by
  rw [TokenStore.getUser,ends_awaited]
  intro a t ht
  obtain ⟨hworks,c,hc,rfl⟩ := await_eq_some.mp ht
  cases of_decide_eq_true hworks
  obtain ⟨-,hsame⟩ := Option.ite_none_right_eq_some.mp hc
  cases hsame
  rw [ends_awaited]
  intro b u hu
  obtain ⟨-,c,hc,rfl⟩ := await_eq_some.mp hu
  cases hc
  exact ⟨rfl,rfl⟩

theorem ends_setAccessToken (value : τ) :
    Ends memory (await kind)
      (fun t r => r=.ok () ∧ t=⟨{s.client with storedAccess := some value},s.tally⟩)
      (TokenStore.setAccessToken value) s := by
  rw [TokenStore.setAccessToken,ends_awaited]
  intro a t ht
  obtain ⟨hworks,c,hc,rfl⟩ := await_eq_some.mp ht
  cases (hworks : a=true)
  cases hc
  exact ends_replied

theorem ends_setRefreshToken (value : τ) :
    Ends memory (await kind)
      (fun t r => r=.ok () ∧ t=⟨{s.client with storedRefresh := some value},s.tally⟩)
      (TokenStore.setRefreshToken value) s := by
  rw [TokenStore.setRefreshToken,ends_awaited]
  intro a t ht
  obtain ⟨hworks,c,hc,rfl⟩ := await_eq_some.mp ht
  cases (hworks : a=true)
  cases hc
  exact ends_replied

theorem ends_setUser (user : PublicUser) :
    Ends memory (await kind)
      (fun t r => r=.ok () ∧ t=⟨{s.client with storedUser := some user},s.tally⟩)
      (TokenStore.setUser user) s := by
  rw [TokenStore.setUser,ends_awaited]
  intro a t ht
  obtain ⟨hworks,c,hc,rfl⟩ := await_eq_some.mp ht
  cases (hworks : a=true)
  cases hc
  intro b u hu
  obtain ⟨-,c,hc,rfl⟩ := await_eq_some.mp hu
  cases hc
  exact ⟨rfl,rfl⟩

/-- What deleting several items does: none of them holds a token, and where one
did the tally counts it. -/
structure Deleted (kind : Operation τ) (keys : List Key) (s t : Metered (Client τ)) : Prop where
  inFlight : t.client.refreshInFlight=s.client.refreshInFlight
  held : ∀ key,held t.client key=(held s.client key && decide (key∉keys))
  tally : t.tally=if signsOut kind then s.tally else s.tally.clear (keys.any (MobileLosses.held s.client))

omit [DecidableEq τ] in
/-- One item is deleted, and the rest afterwards. -/
theorem any_held_delete (c : Client τ) {key : Key} {keys : List Key} (hkey : key∈keys) :
    (held c key || (keys.erase key).any (held (c.delete key)))=keys.any (held c) := by
  rw [Bool.eq_iff_iff,Bool.or_eq_true,List.any_eq_true,List.any_eq_true]
  constructor
  · rintro (h|⟨other,hother,h⟩)
    · exact ⟨key,hkey,h⟩
    · rw [held_delete,Bool.and_eq_true] at h
      exact ⟨other,List.mem_of_mem_erase hother,h.1⟩
  · rintro ⟨other,hother,h⟩
    by_cases hsame : other=key
    · exact .inl (hsame ▸ h)
    · refine .inr ⟨other,(List.mem_erase_of_ne hsame).mpr hother,?_⟩
      rw [held_delete,h,decide_eq_true hsame]
      rfl

/-- One item after the other is deleted, in whatever order. -/
theorem ends_deletions {n : Nat} {keys : List Key} (hn : keys.length=n) :
    Ends memory (await kind) (fun t r => r=.ok () ∧ Deleted kind keys s t)
      (TokenStore.deletions n keys) s := by
  induction n generalizing keys s with
  | zero =>
    cases List.eq_nil_of_length_eq_zero hn
    refine ends_replied.imp fun t r ht => ⟨ht.1,?_⟩
    obtain ⟨-,rfl⟩ := ht
    refine ⟨rfl,fun key => by simp,?_⟩
    simp [Tally.clear]
  | succ n ih =>
    rw [TokenStore.deletions,ends_awaited]
    rintro ⟨key,done⟩ t ht
    obtain ⟨hworks,c,hc,rfl⟩ := await_eq_some.mp ht
    cases (hworks : done=true)
    obtain ⟨hkey,hsame⟩ := Option.ite_none_right_eq_some.mp hc
    have hdelete : s.client.delete key=c := Option.some.inj hsame
    subst hdelete
    have hlength : (keys.erase key).length=n := by
      rw [List.length_erase_of_mem hkey,hn]
      rfl
    refine (ih hlength).imp fun t r ht => ⟨ht.1,?_⟩
    obtain ⟨-,hflight,hheld,htally⟩ := ht
    refine ⟨?_,fun other => ?_,?_⟩
    · rw [hflight]
      cases key <;> rfl
    · rw [hheld,held_delete,Bool.and_assoc,← Bool.decide_and]
      by_cases hsame : other=key
      · subst hsame
        simp [hkey]
      · simp [hsame,List.mem_erase_of_ne hsame]
    · rw [htally]
      dsimp only [tallied]
      split
      · rfl
      · rw [clear_clear,any_held_delete _ hkey]

theorem ends_clear :
    Ends memory (await kind)
      (fun t r => r=.ok () ∧ t.client.refreshInFlight=s.client.refreshInFlight ∧
        stored t.client=false ∧
        t.tally=if signsOut kind then s.tally else s.tally.clear (stored s.client))
      TokenStore.clear s := by
  have h : Ends memory (await kind)
      (fun t r => r=.ok () ∧ Deleted kind [.accessToken,.refreshToken,.user] s t) TokenStore.clear s :=
    ends_deletions rfl
  refine h.imp fun t r ht => ?_
  obtain ⟨hr,hflight,hheld,htally⟩ := ht
  refine ⟨hr,hflight,?_,htally⟩
  rw [stored,List.any_eq_false]
  intro key hkey
  rw [hheld,decide_eq_false (not_not.mpr hkey)]
  simp

/-! ## Requests -/

theorem ends_persist (auth : AuthResponse τ) :
    Ends memory (await kind)
      (fun t r => r=.ok () ∧ Calm s t ∧ stored t.client=true ∧ t.tally=s.tally) (persist auth) s := by
  rw [persist]
  refine (ends_setAccessToken _).seq (fun t _ ht => ?_) fun t e _ => nomatch e
  obtain ⟨-,rfl⟩ := ht
  refine (ends_setRefreshToken _).seq (fun t _ ht => ?_) fun t e _ => nomatch e
  obtain ⟨-,rfl⟩ := ht
  split
  · refine (ends_setUser _).imp fun t r ht => ⟨ht.1,?_⟩
    obtain ⟨-,rfl⟩ := ht
    exact ⟨⟨rfl,rfl,rfl,rfl⟩,rfl,rfl⟩
  · exact ⟨rfl,⟨rfl,rfl,rfl,rfl⟩,rfl,rfl⟩

theorem ends_requestRefresh :
    Ends memory (await kind)
      (fun t r => ∃ auth,r=.ok auth ∧ Calm s t ∧ Obtained s t auth.isSome) requestRefresh s := by
  refine ends_getRefreshToken.seq (fun t found ht => ?_) fun t e _ => nomatch e
  obtain ⟨hfound,rfl⟩ := ht
  cases hfound
  cases hstored : t.client.storedRefresh with
  | none => exact ⟨none,rfl,.refl t,rfl,.inl rfl⟩
  | some refreshToken =>
    have hheld : stored t.client=true := by simp [stored,held,hstored]
    rw [ends_awaited]
    intro reply u hu
    obtain ⟨-,c,hc,rfl⟩ := await_eq_some.mp hu
    cases hc
    have hgranted : fateOf reply=.granted ↔ reply.granted.isSome=true := fateOf_eq_granted
    cases hreply : reply.granted with
    | none =>
      refine ⟨none,rfl,⟨rfl,rfl,rfl,rfl⟩,rfl,.inr ?_⟩
      change lastGranted (t.tally.note (.refresh (fateOf reply))).met=false
      rw [lastGranted_note_refresh,decide_eq_false_iff_not,hgranted,hreply]
      exact nofun
    | some auth =>
      refine (ends_persist auth).seq (fun u _ hu => ?_) fun t e _ => nomatch e
      obtain ⟨-,hcalm,hkept,-⟩ := hu
      exact ⟨some auth,rfl,⟨hcalm.inFlight,hcalm.promises,hcalm.before,hcalm.lost⟩,hheld,hkept⟩

/-- A refresh with no other under way. -/
theorem ends_refresh (halone : s.client.refreshInFlight=none) :
    Ends memory (await kind)
      (fun t r => ∃ auth,r=.ok auth ∧ Obtained s t auth.isSome ∧ t.client.refreshInFlight=none ∧
        t.tally.before=s.tally.before ∧ t.tally.lost=s.tally.lost) refresh s := by
  have hfree : (memory .refreshInFlight s).1=none := halone
  rw [refresh,ends_atOnce,hfree]
  dsimp only
  rw [ends_atOnce]
  refine ends_requestRefresh.seq (fun t auth ht => ?_) fun t e _ => nomatch e
  obtain ⟨auth',hauth,hcalm,hobtained⟩ := ht
  cases hauth
  rw [ends_atOnce]
  -- The promise is resolved with what the request found.
  intro auth' u hu
  obtain ⟨-,c,hc,rfl⟩ := await_eq_some.mp hu
  obtain ⟨hresolved,hsame⟩ := Option.ite_none_right_eq_some.mp hc
  cases hsame
  have hvalue : ((s.client.promises++[none]).set s.client.promises.length (some auth))[
      s.client.promises.length]?=some (some auth) := by
    simp
  have hauth : some (some auth)=some (some auth') := by
    rw [← hvalue]
    change (t.client.promises.set _ _)[_]?=_ at hresolved
    rw [hcalm.promises] at hresolved
    exact hresolved
  cases hauth
  exact ⟨auth,rfl,hobtained,rfl,hcalm.before,hcalm.lost⟩

/-- What is shown does not touch what is stored. -/
theorem ends_showMounted (user : Option PublicUser) :
    Ends memory (await kind)
      (fun t r => r=.ok () ∧ t.client.refreshInFlight=s.client.refreshInFlight ∧
        stored t.client=stored s.client ∧ t.tally=s.tally) (showMounted user) s := by
  rw [showMounted,ends_atOnce]
  split <;> exact ⟨rfl,rfl,rfl,rfl⟩

theorem ends_showCached (cached : Option PublicUser) :
    Ends memory (await kind)
      (fun t r => r=.ok () ∧ t.client.refreshInFlight=s.client.refreshInFlight ∧
        stored t.client=stored s.client ∧ t.tally=s.tally) (showCached cached) s := by
  cases cached with
  | none => exact ⟨rfl,rfl,rfl,rfl⟩
  | some user => exact ends_showMounted _

/-- The profile for a token, without a further refresh. -/
theorem ends_fetchMe (accessToken : Option τ) :
    Ends memory (await kind)
      (fun t r => ∃ me,r=.ok me ∧ t.client=s.client ∧ t.tally.before=s.tally.before ∧
        t.tally.lost=s.tally.lost ∧
        (accessToken.isSome=true → lastGranted t.tally.met=me.isSome))
      (fetchMe accessToken) s := by
  have hask : ∀ token : τ,Ends memory (await kind)
      (fun t r => ∃ me,r=.ok me ∧ t.client=s.client ∧ t.tally.before=s.tally.before ∧
        t.tally.lost=s.tally.lost ∧ lastGranted t.tally.met=me.isSome)
      (do let res ← answer (.me token); pure res.granted) s := by
    intro token
    rw [ends_awaited]
    intro reply t ht
    obtain ⟨-,c,hc,rfl⟩ := await_eq_some.mp ht
    cases hc
    have hgranted : fateOf reply=.granted ↔ reply.granted.isSome=true := fateOf_eq_granted
    refine ⟨reply.granted,rfl,rfl,rfl,rfl,?_⟩
    change lastGranted (s.tally.note (.profile (fateOf reply))).met=_
    rw [lastGranted_note_profile,Bool.eq_iff_iff,decide_eq_true_iff,hgranted]
  cases accessToken with
  | some token =>
    refine (hask token).imp fun t r ht => ?_
    obtain ⟨me,hr,hclient,hbefore,hlost,hlast⟩ := ht
    exact ⟨me,hr,hclient,hbefore,hlost,fun _ => hlast⟩
  | none =>
    refine ends_getAccessToken_store.seq (fun t found ht => ?_) fun t e _ => nomatch e
    obtain ⟨hfound,rfl⟩ := ht
    cases hfound
    cases hstored : t.client.storedAccess with
    | none => exact ⟨none,rfl,rfl,rfl,rfl,nofun⟩
    | some token =>
      refine (hask token).imp fun u r hu => ?_
      obtain ⟨me,hr,hclient,hbefore,hlost,-⟩ := hu
      exact ⟨me,hr,hclient,hbefore,hlost,nofun⟩

section Loading

variable (expMs : τ → Int)

theorem ends_getAccessToken (halone : s.client.refreshInFlight=none) :
    Ends memory (await kind)
      (fun t r => ∃ token,r=.ok token ∧ Obtained s t token.isSome ∧ t.client.refreshInFlight=none ∧
        t.tally.before=s.tally.before ∧ t.tally.lost=s.tally.lost) (getAccessToken expMs) s := by
  refine ends_getAccessToken_store.seq (fun t current ht => ?_) fun t e _ => nomatch e
  obtain ⟨hcurrent,rfl⟩ := ht
  cases hcurrent
  rw [ends_atOnce]
  split
  · rename_i token hlive
    have hheld : stored t.client=true := by
      have hstored := (Option.filter_eq_some_iff.mp hlive).1
      simp [stored,held,show t.client.storedAccess=some token from hstored]
    exact ⟨some token,rfl,⟨hheld,hheld⟩,halone,rfl,rfl⟩
  · refine (ends_refresh halone).seq (fun u auth hu => ?_) fun t e _ => nomatch e
    obtain ⟨auth',hauth,hobtained,hrest⟩ := hu
    cases hauth
    refine ⟨_,rfl,?_,hrest⟩
    rwa [Option.isSome_map]

/-- What an operation has to show where it ends. -/
def Shown (kind : Operation τ) (s t : Metered (Client τ)) : Prop :=
  Alone t.client t.tally.rejected ∧
    (t.tally.lost=false ↔ Spares (setup expMs) kind s t.tally.met=true)

variable {expMs}

/-- An operation that loads no session clears nothing. -/
theorem shown_of_quiet {t : Metered (Client τ)} (hloads : loads kind=false)
    (halone : t.client.refreshInFlight=none) (hlost : t.tally.lost=false) : Shown expMs kind s t := by
  refine ⟨halone,iff_of_true hlost ?_⟩
  change ((!loads kind || _ || _ || _) && (!false || _))=true
  rw [hloads]
  rfl

/-- A session that ends without a profile is cleared. -/
theorem ends_clear_shown {t : Metered (Client τ)} (halone : t.client.refreshInFlight=none)
    (hbefore : t.tally.before=s.tally.before) (hlost : t.tally.lost=false)
    (hstored : stored t.client=stored s.client) (hlast : lastGranted t.tally.met=false) :
    Ends memory (await .hydrate) (fun u _ => Shown expMs .hydrate s u) TokenStore.clear t := by
  refine ends_clear.imp fun u r hu => ?_
  obtain ⟨-,hflight,-,htally⟩ := hu
  have hcleared : u.tally=t.tally.clear (stored t.client) := htally
  refine ⟨hflight.trans halone,?_⟩
  rw [hcleared]
  change (t.tally.lost || (stored t.client && !rejectedAfter t.tally.before t.tally.met))=false ↔
    ((!true || !stored s.client || lastGranted t.tally.met || rejectedAfter s.tally.before t.tally.met)
      && (!false || _))=true
  rw [hlost,hstored,hlast,hbefore]
  cases stored s.client <;> cases rejectedAfter s.tally.before t.tally.met <;> simp

theorem ends_hydrate (halone : s.client.refreshInFlight=none) (hmet : s.tally.met=[])
    (hlost : s.tally.lost=false) :
    Ends memory (await .hydrate) (fun t _ => Shown expMs .hydrate s t) (hydrate expMs) s := by
  rw [hydrate]
  refine ends_getUser.seq (fun t cached ht => ?_) fun t e _ => nomatch e
  obtain ⟨-,rfl⟩ := ht
  refine (ends_showCached cached).seq (fun u _ hu => ?_) fun t e _ => nomatch e
  obtain ⟨-,hflight,hstored,htally⟩ := hu
  refine (ends_getAccessToken expMs (hflight.trans halone)).seq (fun v token hv => ?_)
    fun t e _ => nomatch e
  obtain ⟨token',hsame,hobtained,halone',hbefore,hlost'⟩ := hv
  cases hsame
  rw [htally] at hbefore hlost'
  cases token with
  | none =>
    obtain ⟨hstored',hmet'⟩ := hobtained
    have hlast : lastGranted v.tally.met=false := by
      rcases hmet' with hmet'|hmet'
      · rw [hmet',htally,hmet]
        rfl
      · exact hmet'
    refine (ends_showMounted none).seq (fun w _ hw => ?_) fun t e _ => nomatch e
    obtain ⟨-,hflight',hstored'',htally'⟩ := hw
    refine ends_clear_shown (hflight'.trans halone') ?_ ?_ ?_ ?_
    · rw [htally',hbefore]
    · rw [htally',hlost',hlost]
    · rw [hstored'',hstored',hstored]
    · rw [htally',hlast]
  | some token =>
    obtain ⟨hfound,hheld⟩ := hobtained
    refine (ends_fetchMe (some token)).seq (fun w me hw => ?_) fun t e _ => nomatch e
    obtain ⟨me',hsame,hclient,hbefore',hlost'',hlast⟩ := hw
    cases hsame
    have hlast := hlast rfl
    have halone'' : w.client.refreshInFlight=none := by rw [hclient,halone']
    have hlostw : w.tally.lost=false := by rw [hlost'',hlost',hlost]
    cases me with
    | none =>
      have hcleared : Ends memory (await .hydrate) (fun u _ => Shown expMs .hydrate t u)
          TokenStore.clear w := by
        refine ends_clear_shown halone'' (hbefore'.trans hbefore) hlostw ?_ hlast
        rw [hclient,hheld,← hstored,hfound]
      refine hcleared.seq (fun x _ hx => ?_) fun t e _ => nomatch e
      refine (ends_showMounted none).imp fun y _ hy => ?_
      obtain ⟨-,hflight',-,htally'⟩ := hy
      refine ⟨hflight'.trans hx.1,?_⟩
      rw [htally']
      exact hx.2
    | some me =>
      refine (ends_setUser me).seq (fun x _ hx => ?_) fun t e _ => nomatch e
      obtain ⟨-,rfl⟩ := hx
      refine (ends_showMounted (some me)).imp fun y _ hy => ?_
      obtain ⟨-,hflight',-,htally'⟩ := hy
      refine ⟨hflight'.trans halone'',iff_of_true (by rw [htally',hlostw]) ?_⟩
      change ((_ || _ || lastGranted y.tally.met || _) && (!false || _))=true
      rw [htally',hlast]
      simp

/-- A sign-in that is granted is stored. -/
theorem ends_takeAuth (halone : s.client.refreshInFlight=none) (hlost : s.tally.lost=false)
    (reply : Reply (AuthResponse τ)) :
    Ends memory (await kind) (fun t _ => t.client.refreshInFlight=none ∧ t.tally.lost=false)
      (takeAuth reply) ⟨s.client,if reply.granted.isSome then s.tally.renew else s.tally⟩ := by
  cases reply with
  | unreachable => exact ⟨halone,hlost⟩
  | answered status body detail =>
    unfold takeAuth Reply.granted
    dsimp only
    split
    · cases body with
      | none => exact ⟨halone,hlost⟩
      | some auth =>
        dsimp only
        rw [ends_atOnce]
        refine (ends_persist auth).seq (fun t _ ht => ?_) fun t e _ => nomatch e
        obtain ⟨-,hcalm,-,-⟩ := ht
        exact ⟨hcalm.inFlight.trans halone,hcalm.lost.trans hlost⟩
    · exact ⟨halone,hlost⟩

theorem ends_enter {attempt : Mobile τ (Except String (AuthResponse τ × Nat))}
    (h : Ends memory (await kind) (fun t _ => t.client.refreshInFlight=none ∧ t.tally.lost=false)
      attempt s) :
    Ends memory (await kind) (fun t _ => t.client.refreshInFlight=none ∧ t.tally.lost=false)
      (enter attempt) s := by
  refine h.seq (fun t outcome ht => ?_) fun t e _ => nomatch e
  cases outcome with
  | error e => exact ht
  | ok entered =>
    obtain ⟨auth,n⟩ := entered
    have hrest : ∀ u user,u.client.refreshInFlight=none ∧ u.tally.lost=false →
        Ends memory (await kind) (fun t _ => t.client.refreshInFlight=none ∧ t.tally.lost=false)
          (do look (.setUser user); look (.signedIn n); pure (none : Option String)) u := by
      intro u user hu
      rw [ends_atOnce,ends_atOnce]
      exact hu
    dsimp only
    split
    · exact hrest t _ ht
    · refine (ends_fetchMe _).seq (fun u user hu => hrest u user ?_) fun t e _ => nomatch e
      obtain ⟨-,-,hclient,-,hlost,-⟩ := hu
      exact ⟨by rw [hclient,ht.1],hlost.trans ht.2⟩

/-- A sign-out clears what the user no longer wants. -/
theorem ends_leave (halone : s.client.refreshInFlight=none) (hlost : s.tally.lost=false) :
    Ends memory (await .signOut) (fun t _ => t.client.refreshInFlight=none ∧ t.tally.lost=false)
      leave s := by
  have hout : Ends memory (await .signOut)
      (fun t _ => t.client.refreshInFlight=none ∧ t.tally.lost=false) signOut s := by
    refine ends_getAccessToken_store.seq (fun t accessToken ht => ?_) fun t e _ => nomatch e
    obtain ⟨-,rfl⟩ := ht
    refine ends_getRefreshToken.seq (fun u refreshToken hu => ?_) fun t e _ => nomatch e
    obtain ⟨-,rfl⟩ := hu
    rw [ends_awaited]
    intro a v hv
    obtain ⟨-,c,hc,rfl⟩ := await_eq_some.mp hv
    cases hc
    refine ends_clear.imp fun w _ hw => ?_
    obtain ⟨-,hflight,-,htally⟩ := hw
    refine ⟨hflight.trans halone,?_⟩
    rw [htally]
    exact hlost
  rw [leave,ends_atOnce]
  exact hout.seq (fun t _ ht => ht) fun t e _ => nomatch e

theorem conforms (expMs : τ → Int) : Conforms (setup expMs) Alone := by
  intro kind s halone hmet hlost
  cases kind with
  | hydrate => exact ends_hydrate halone hmet hlost
  | signUp input =>
    have hend : Ends memory (await (.signUp input))
        (fun t _ => t.client.refreshInFlight=none ∧ t.tally.lost=false) (signUp input) s := by
      rw [signUp,ends_awaited]
      intro a t ht
      obtain ⟨-,c,hc,rfl⟩ := await_eq_some.mp ht
      cases hc
      exact ends_takeAuth halone hlost a
    exact (ends_enter hend).seq (fun t _ ht => shown_of_quiet rfl ht.1 ht.2) fun t e _ => nomatch e
  | signIn input =>
    have hend : Ends memory (await (.signIn input))
        (fun t _ => t.client.refreshInFlight=none ∧ t.tally.lost=false) (signIn input) s := by
      rw [signIn,ends_awaited]
      intro a t ht
      obtain ⟨-,c,hc,rfl⟩ := await_eq_some.mp ht
      cases hc
      exact ends_takeAuth halone hlost a
    exact (ends_enter hend).seq (fun t _ ht => shown_of_quiet rfl ht.1 ht.2) fun t e _ => nomatch e
  | signOut =>
    exact (ends_leave halone hlost).imp fun t _ ht => shown_of_quiet rfl ht.1 ht.2
  | refresh =>
    refine (ends_refresh halone).seq (fun t auth ht => ?_) fun t e _ => nomatch e
    obtain ⟨-,-,-,halone',-,hlost'⟩ := ht
    exact shown_of_quiet rfl halone' (hlost'.trans hlost)
  | fetchMe token =>
    refine (ends_fetchMe token).seq (fun t me ht => ?_) fun t e _ => nomatch e
    obtain ⟨-,-,hclient,-,hlost',-⟩ := ht
    exact shown_of_quiet rfl (by rw [hclient]; exact halone) (hlost'.trans hlost)
  | getAccessToken =>
    refine (ends_getAccessToken expMs halone).seq (fun t token ht => ?_) fun t e _ => nomatch e
    obtain ⟨-,-,-,halone',-,hlost'⟩ := ht
    exact shown_of_quiet rfl halone' (hlost'.trans hlost)

theorem alone_clock (expMs : τ → Int) (c : Client τ) (b : Bool) (now : Int) (h : Alone c b) :
    Alone ((setup expMs).clock now c) b := h

end Loading

end Operations

end Voyagent.MobileLosses
