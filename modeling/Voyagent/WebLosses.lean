import Voyagent.SessionLosses
import Voyagent.WebClient

/-!
# How the web server loses the tokens of a browser

Where cookies may be written, asking for the user clears them wherever it ends
without one. In a render nothing is cleared.
-/

namespace Voyagent.WebLosses

open EffectPrograms CooperativePrograms AuthClients WebClient SessionLosses

variable {τ : Type}

/-- The browser as one request after the other finds it. -/
structure Client (τ : Type) where
  clock : Int := 0
  jar : Jar τ := {}

/-- Tokens are stored. -/
def stored (c : Client τ) : Bool := c.jar.access.isSome || c.jar.refresh.isSome

def signsOut : Operation → Bool
  | .signOut => true
  | _ => false

def loads : Operation → Bool
  | .currentUser writable => writable
  | _ => false

/-- What a question does, and what it adds to the tally. -/
def memory (kind : Operation) (q : Look τ) (s : Metered (Client τ)) : q.Answer × Metered (Client τ) :=
  let r := s.client.jar.look kind.writable s.client.clock q
  let client := {s.client with jar := r.2}
  match q,r with
  | .removeCookies,r =>
    (r.1,⟨client,if signsOut kind || !kind.writable then s.tally else s.tally.clear (stored s.client)⟩)
  | _,r => (r.1,⟨client,s.tally⟩)

/-- The API may answer anything. -/
def await (_ : Operation) (s : Metered (Client τ)) : (w : Await τ) → w.Answer → Option (Metered (Client τ))
  | .refresh _,reply => some ⟨s.client,s.tally.note (.refresh (fateOf reply))⟩
  | .me _,reply => some ⟨s.client,s.tally.note (.profile (fateOf reply))⟩
  | .signUp _,reply => some ⟨s.client,if reply.granted.isSome then s.tally.renew else s.tally⟩
  | .signIn _,reply => some ⟨s.client,if reply.granted.isSome then s.tally.renew else s.tally⟩
  | .signOut _ _,_ => some s

def setup (expMs : τ → Int) :
    Setup (Look τ) (Await τ) Look.Answer Await.Answer Failure (Client τ) Operation where
  body := fun kind => kind.perform expMs
  memory := memory
  await := await
  clock := fun now c => ⟨now,c.jar.at now⟩
  stored := stored
  loads := loads
  refusalClears := false

section Operations

variable {kind : Operation} {writable : Bool} {s s₀ : Metered (Client τ)} {α : Type}

/-- The profile for a token. -/
theorem ends_fetchMe (accessToken : τ) :
    Ends (memory kind) (await kind)
      (fun t r => ∃ me,r=.ok me ∧ t.client=s.client ∧ t.tally.before=s.tally.before ∧
        t.tally.lost=s.tally.lost ∧ t.tally.rejected=s.tally.rejected ∧
        lastGranted t.tally.met=me.isSome)
      (fetchMe accessToken) s := by
  rintro reply t ht
  cases ht
  have hgranted : fateOf reply=.granted ↔ reply.granted.isSome=true := fateOf_eq_granted
  refine ⟨reply.granted,rfl,rfl,rfl,rfl,rejected_note_profile ..,?_⟩
  rw [lastGranted_note_profile,Bool.eq_iff_iff,decide_eq_true_iff,hgranted]

/-- What an operation has to show where it ends. -/
def Shown (expMs : τ → Int) (kind : Operation) (s t : Metered (Client τ)) : Prop :=
  t.tally.lost=false ↔ Spares (setup expMs) kind s t.tally.met=true

variable {expMs : τ → Int}

/-- Where nothing is lost, either the operation loads no session, none is stored, or a
success was met last. -/
theorem shown_of_kept {t : Metered (Client τ)} (hlost : t.tally.lost=false)
    (h : loads kind=false ∨ stored s.client=false ∨ lastGranted t.tally.met=true) :
    Shown expMs kind s t := by
  refine iff_of_true hlost ?_
  change ((!loads kind || !stored s.client || lastGranted t.tally.met || _) && (!false || _))=true
  rcases h with h|h|h <;> simp [h]

/-- A user that is not found. -/
theorem ends_tryClear {t : Metered (Client τ)} (hbefore : t.tally.before=s.tally.before)
    (hlost : t.tally.lost=false) (hheld : stored s.client=true) (hstored : stored t.client=true)
    (hlast : lastGranted t.tally.met=false) {α : Type} (a : α) :
    Ends (memory (.currentUser writable)) (await (.currentUser writable))
      (fun u _ => Shown expMs (.currentUser writable) s u)
      (do tryClearSessionCookies; pure a) t := by
  cases writable with
  | false => exact shown_of_kept hlost (.inl rfl)
  | true =>
    change (t.tally.lost || (stored t.client && !rejectedAfter t.tally.before t.tally.met))=false ↔
      ((!true || !stored s.client || lastGranted t.tally.met || rejectedAfter s.tally.before t.tally.met)
        && (!false || _))=true
    rw [hlost,hheld,hstored,hlast,hbefore]
    cases rejectedAfter s.tally.before t.tally.met <;> simp

/-- The tokens of a refresh are written where cookies may be. -/
theorem ends_trySet (access refreshToken : τ) (expiresIn : Int) (hstored : stored s.client=true) :
    Ends (memory kind) (await kind)
      (fun t r => r=.ok () ∧ stored t.client=true ∧ t.tally=s.tally)
      (trySetSessionCookies access refreshToken expiresIn) s := by
  have hset : Ends (memory kind) (await kind) (fun t _ => stored t.client=true ∧ t.tally=s.tally)
      (setSessionCookies access refreshToken expiresIn) s := by
    rw [setSessionCookies,ends_atOnce]
    have hwritten : stored (memory kind (.setCookies access expiresIn refreshToken refreshLifetimeSeconds)
        s).2.client=true := by
      change stored {s.client with jar := if kind.writable=true then _ else s.client.jar}=true
      split
      · rfl
      · exact hstored
    split <;> exact ⟨hwritten,rfl⟩
  exact hset.handled (fun t _ ht => ⟨rfl,ht⟩) fun t e ht => ⟨rfl,ht⟩

/-- What follows the answer to a refresh. -/
def afterRefresh : Option (AuthResponse τ) → Web τ (Option PublicUser)
  | none => do
    tryClearSessionCookies
    pure none
  | some refreshed => do
    trySetSessionCookies refreshed.accessToken refreshed.refreshToken refreshed.expiresIn
    match refreshed.user with
    | some user => pure (some user)
    | none => do
      match ← fetchMe refreshed.accessToken with
      | none => do
        tryClearSessionCookies
        pure none
      | some user => pure (some user)

/-- The slow path, from a state in which tokens are stored. -/
theorem ends_refreshedUser (hbefore : s.tally.before=s₀.tally.before) (hlost : s.tally.lost=false)
    (hheld : stored s₀.client=true) (hstored : stored s.client=true) (refreshToken : τ) :
    Ends (memory (.currentUser writable)) (await (.currentUser writable))
      (fun t _ => Shown expMs (.currentUser writable) s₀ t) (refreshedUser refreshToken) s := by
  intro reply t ht
  cases ht
  have hgranted : fateOf reply=.granted ↔ reply.granted.isSome=true := fateOf_eq_granted
  have hlast : lastGranted (s.tally.note (.refresh (fateOf reply))).met=reply.granted.isSome := by
    rw [lastGranted_note_refresh,Bool.eq_iff_iff,decide_eq_true_iff,hgranted]
  change Ends _ _ _ (afterRefresh reply.granted) _
  cases hreply : reply.granted with
  | none =>
    rw [hreply] at hlast
    exact ends_tryClear (t:=⟨s.client,s.tally.note (.refresh (fateOf reply))⟩) hbefore hlost hheld hstored
      hlast none
  | some refreshed =>
    rw [hreply] at hlast
    refine (ends_trySet (s:=⟨s.client,s.tally.note (.refresh (fateOf reply))⟩) _ _ _ hstored).seq
      (fun u _ hu => ?_) fun u e hu => (by cases hu.1)
    obtain ⟨-,hstored',htally⟩ := hu
    split
    · refine shown_of_kept ?_ (.inr (.inr ?_))
      · rw [htally]
        exact hlost
      · rw [htally]
        exact hlast
    · refine (ends_fetchMe _).seq (fun v me hv => ?_) fun v e hv => (by cases hv.choose_spec.1)
      obtain ⟨me',hsame,hclient,hbefore',hlost',-,hlast'⟩ := hv
      cases hsame
      rw [htally] at hbefore' hlost'
      cases me with
      | none =>
        refine ends_tryClear (hbefore'.trans hbefore) (hlost'.trans hlost) hheld ?_ hlast' none
        rw [hclient]
        exact hstored'
      | some me => exact shown_of_kept (hlost'.trans hlost) (.inr (.inr hlast'))

/-- What follows where the cheap path has found no user. -/
theorem ends_renewedUser (hclient : s.client=s₀.client) (hbefore : s.tally.before=s₀.tally.before)
    (hlost : s.tally.lost=false) (hlast : lastGranted s.tally.met=false) :
    Ends (memory (.currentUser writable)) (await (.currentUser writable))
      (fun t _ => Shown expMs (.currentUser writable) s₀ t)
      (renewedUser (s₀.client.jar.access.map Cookie.value) (s₀.client.jar.refresh.map Cookie.value)) s := by
  cases hrefresh : s₀.client.jar.refresh with
  | some cookie =>
    have hheld : stored s₀.client=true := by simp [stored,hrefresh]
    exact ends_refreshedUser hbefore hlost hheld (by rw [hclient,hheld]) cookie.value
  | none =>
    change Ends _ _ _ (if (s₀.client.jar.access.map Cookie.value).isSome=true then _ else _) s
    rw [Option.isSome_map]
    split
    · rename_i hsome
      have hheld : stored s₀.client=true := by simp [stored,hsome]
      exact ends_tryClear hbefore hlost hheld (by rw [hclient,hheld]) hlast none
    · rename_i hnone
      refine shown_of_kept hlost (.inr (.inl ?_))
      simp [stored,hrefresh,hnone]

theorem ends_getCurrentUser (hmet : s.tally.met=[]) (hlost : s.tally.lost=false) :
    Ends (memory (.currentUser writable)) (await (.currentUser writable))
      (fun t _ => Shown expMs (.currentUser writable) s t) (getCurrentUser expMs) s := by
  rw [getCurrentUser,ends_atOnce,ends_atOnce,ends_atOnce]
  split
  · refine ends_renewedUser rfl rfl hlost ?_
    change lastGranted s.tally.met=false
    rw [hmet]
    rfl
  · refine (ends_fetchMe _).seq (fun t me ht => ?_) fun t e ht => nomatch ht.choose_spec.1
    obtain ⟨me',hsame,hclient,hbefore,hlost',-,hlast⟩ := ht
    cases hsame
    cases me with
    | none => exact ends_renewedUser hclient hbefore (hlost'.trans hlost) hlast
    | some me => exact shown_of_kept (hlost'.trans hlost) (.inr (.inr hlast))

/-- Writing the cookies of a sign-in loses nothing. -/
theorem ends_takeAuth (hloads : loads kind=false) (hlost : s.tally.lost=false)
    (reply : Reply (AuthResponse τ)) :
    Ends (memory kind) (await kind) (fun t _ => Shown expMs kind s₀ t) (takeAuth reply) s := by
  unfold takeAuth
  split
  · exact shown_of_kept hlost (.inl hloads)
  · rw [setSessionCookies,ends_atOnce]
    split <;> exact shown_of_kept hlost (.inl hloads)

theorem conforms (expMs : τ → Int) : Conforms (setup expMs) fun _ _ => True := by
  intro kind s _ hmet hlost
  have htrue : ∀ t,Shown expMs kind s t → True ∧ Shown expMs kind s t := fun t h => ⟨trivial,h⟩
  cases kind with
  | currentUser writable =>
    refine (ends_getCurrentUser hmet hlost).seq (fun t _ ht => htrue t ht) fun t e ht => htrue t ht
  | signUp input | signIn input =>
    intro reply t ht
    cases ht
    refine (ends_takeAuth rfl ?_ reply).imp fun t _ ht => htrue t ht
    split <;> exact hlost
  | signOut =>
    intro reply t ht
    cases ht
    exact htrue _ (shown_of_kept hlost (.inl rfl))

end Operations

end Voyagent.WebLosses
