import Voyagent.DesktopLosses
import Voyagent.MobileLosses
import Voyagent.WebLosses

/-!
# Who ends a session

Operations of a client are carried out one after the other, whatever the API
answers and whatever the network does. Tokens of a session that the user has
not signed out of are lost where they are cleared and the API has not rejected
the refresh token.
-/

namespace Voyagent.LostSessions

open SessionLosses AuthClients TransitionRuns

variable {τ : Type} [DecidableEq τ]

/-- A client that has just been started. -/
abbrev fresh {σ : Type} (client : σ) : Metered σ := ⟨client,{}⟩

/-- From a start on no tokens are lost if and only if the answers of every
operation spare what is stored. -/
def SparedExactly {S W ε σ κ : Type} {AS : S → Type} {AW : W → Type} (e : Setup S W AS AW ε σ κ)
    (c : σ) : Prop :=
  ∀ as t,Run (Step e) (fresh c) as t →
    (t.tally.lost=false ↔ Run (guarded (Step e) fun s a => spared e s a=true) (fresh c) as t)

/-- On the web, the desktop and the phone stored tokens are cleared only after
the API has rejected the refresh token exactly while the answers spare them. -/
theorem cleared_only_rejected_iff (expMs : τ → Int) :
    (∀ c,SparedExactly (WebLosses.setup expMs) c) ∧
      (∀ c : DesktopClient.Client τ,c.session=none → c.refreshInflight=none →
        SparedExactly (DesktopLosses.setup expMs) c) ∧
      ∀ c : MobileClient.Client τ,c.refreshInFlight=none →
        SparedExactly (MobileLosses.setup expMs) c := by
  refine ⟨fun c as t hrun => ?_,fun c hsession halone as t hrun => ?_,fun c halone as t hrun => ?_⟩
  · exact nothing_lost_iff (WebLosses.conforms expMs) (fun _ _ _ h => h) trivial rfl hrun
  · have hstored : c.session.isSome=true → c.stored.isSome=true := by
      rw [hsession]
      exact nofun
    refine nothing_lost_iff (DesktopLosses.conforms expMs) (DesktopLosses.settled_clock expMs) ?_ rfl hrun
    exact ⟨halone,hstored,nofun⟩
  · exact nothing_lost_iff (MobileLosses.conforms expMs) (MobileLosses.alone_clock expMs) halone rfl hrun

/-! ## Runs in which the API is out of order -/

/-- Tokens are numbered, and each expires when the next is due. -/
def expires (t : Nat) : Int := 900000*(t+1)

def asha : PublicUser where
  id := "asha"
  email := "asha@agency.example"
  fullName := none
  role := "agent"
  tenantId := "t1"
  tenantName := "Agency"
  createdAt := "2026-01-05"

/-- A refresh as the API answers it, with a status. -/
def renewal (status : Nat) : Reply (AuthResponse Nat) := .answered status (some ⟨1,1,900,none⟩)

section Answers

variable (status : Nat)

/-- A refresh is answered with a status, and everything else is in order. -/
def webAnswer (_ : Nat) : (w : WebClient.Await Nat) → w.Answer
  | .refresh _ => renewal status
  | .signUp _ => .unreachable
  | .signIn _ => .unreachable
  | .signOut _ _ => .unreachable
  | .me _ => .answered 200 (some asha)

def desktopAnswer (_ : Nat) : (w : DesktopClient.Await Nat) → w.Answer
  | .load => .ok (some ⟨0,0,none⟩)
  | .loaded _ => ()
  | .store _ => .written
  | .clear => .ok ()
  | .replied => ()
  | .refresh _ => renewal status
  | .signUp _ => .unreachable
  | .signIn _ => .unreachable
  | .signOut _ _ => .unreachable
  | .me _ => .answered 200 (some asha)
  | .promise _ => if okStatus status then some 1 else none

def mobileAnswer (_ : Nat) : (w : MobileClient.Await Nat) → w.Answer
  | .getAccessToken => some 0
  | .getRefreshToken => some 0
  | .getUser => none
  | .setAccessToken _ => true
  | .setRefreshToken _ => true
  | .setUser _ => true
  | .delete keys => (keys.headD .user,true)
  | .refresh _ => renewal status
  | .signUp _ => .unreachable
  | .signIn _ => .unreachable
  | .signOut _ _ => .unreachable
  | .me _ => .answered 200 (some asha)
  | .promise _ => (renewal status).granted
  | .gotUser _ => ()
  | .wroteUser _ => ()
  | .replied => ()

/-- The session is loaded when its access token has expired. -/
def webVisit : Attempt (WebClient.Await Nat) WebClient.Await.Answer WebClient.Operation :=
  ⟨.currentUser true,900000,webAnswer status⟩

def desktopStart : Attempt (DesktopClient.Await Nat) DesktopClient.Await.Answer
    DesktopClient.Operation :=
  ⟨.init,900000,desktopAnswer status⟩

def mobileStart : Attempt (MobileClient.Await Nat) MobileClient.Await.Answer
    (MobileClient.Operation Nat) :=
  ⟨.hydrate,900000,mobileAnswer status⟩

end Answers

/-- A browser, a desktop and a phone with the tokens of a session. -/
def browser : WebLosses.Client Nat := {jar := {refresh := some ⟨0,2592000000⟩}}

def desktop : DesktopClient.Client Nat := {stored := some ⟨0,0,none⟩}

def phone : MobileClient.Client Nat := {storedAccess := some 0,storedRefresh := some 0}

/-- Where one operation ends, as a run. -/
theorem run_of_step {S W ε σ κ : Type} {AS : S → Type} {AW : W → Type} {e : Setup S W AS AW ε σ κ}
    {s : Metered σ} {a : Attempt W AW κ} {α : Type} {view : Metered σ → α} {x : α}
    (h : (step e s a).map view=some x) : ∃ t,Run (Step e) s [a] t ∧ view t=x := by
  obtain ⟨t,ht,hview⟩ := Option.map_eq_some_iff.mp h
  have hrun : Run (Step e) s ([]++[a]) t := Run.start.next ht
  exact ⟨t,hrun,hview⟩

/-- Each client loads its session with a refresh that succeeds. -/
theorem cleared_only_rejected_iff_renewed :
    (∃ t,Run (Step (WebLosses.setup expires)) (fresh browser) [webVisit 200] t ∧
        (t.tally.lost=false ↔ Run (guarded (Step (WebLosses.setup expires))
          fun s a => spared (WebLosses.setup expires) s a=true) (fresh browser) [webVisit 200] t)) ∧
      (∃ t,Run (Step (DesktopLosses.setup expires)) (fresh desktop) [desktopStart 200] t ∧
        (t.tally.lost=false ↔ Run (guarded (Step (DesktopLosses.setup expires))
          fun s a => spared (DesktopLosses.setup expires) s a=true) (fresh desktop)
          [desktopStart 200] t)) ∧
      ∃ t,Run (Step (MobileLosses.setup expires)) (fresh phone) [mobileStart 200] t ∧
        (t.tally.lost=false ↔ Run (guarded (Step (MobileLosses.setup expires))
          fun s a => spared (MobileLosses.setup expires) s a=true) (fresh phone)
          [mobileStart 200] t) := by
  have hweb : ((step (WebLosses.setup expires) (fresh browser) (webVisit 200)).map
      fun t => t.tally.lost)=some false := by decide +kernel
  have hdesktop : ((step (DesktopLosses.setup expires) (fresh desktop) (desktopStart 200)).map
      fun t => t.tally.lost)=some false := by decide +kernel
  have hmobile : ((step (MobileLosses.setup expires) (fresh phone) (mobileStart 200)).map
      fun t => t.tally.lost)=some false := by decide +kernel
  obtain ⟨t,ht,-⟩ := run_of_step hweb
  obtain ⟨u,hu,-⟩ := run_of_step hdesktop
  obtain ⟨v,hv,-⟩ := run_of_step hmobile
  exact ⟨⟨t,ht,(cleared_only_rejected_iff expires).1 browser _ t ht⟩,
    ⟨u,hu,(cleared_only_rejected_iff expires).2.1 desktop rfl rfl _ u hu⟩,
    v,hv,(cleared_only_rejected_iff expires).2.2 phone rfl _ v hv⟩

/-- A refresh answered with 503 clears the tokens of a session on every client. -/
theorem cleared_when_unavailable :
    (∃ t,Run (Step (WebLosses.setup expires)) (fresh browser) [webVisit 503] t ∧
        (t.tally.lost,t.tally.rejected,WebLosses.stored t.client)=(true,false,false)) ∧
      (∃ t,Run (Step (DesktopLosses.setup expires)) (fresh desktop) [desktopStart 503] t ∧
        (t.tally.lost,t.tally.rejected,t.client.stored.isSome)=(true,false,false)) ∧
      ∃ t,Run (Step (MobileLosses.setup expires)) (fresh phone) [mobileStart 503] t ∧
        (t.tally.lost,t.tally.rejected,MobileLosses.stored t.client)=(true,false,false) :=
  ⟨run_of_step (by decide +kernel),run_of_step (by decide +kernel),run_of_step (by decide +kernel)⟩

end Voyagent.LostSessions
