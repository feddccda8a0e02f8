import Voyagent.DesktopSignOut
import Voyagent.MobileSignOut

/-!
# Sign-out on native clients

On both clients any operations run interleaved: loading a session, refreshing
it, fetching the profile, signing in and signing out. Sign-out is final where
no session data reaches a place after a sign-out has cleared it. The clients do
not see to that: a refresh that is answered late signs the user in again.
-/

namespace Voyagent.FinalSignOut

open CooperativePrograms AuthClients SessionPlaces TransitionRuns

/-- In every interleaving whose session data comes in time, in every state
reached, nothing is held or stored after a sign-out, and after a sign-in only
what belongs to it, on the desktop and on the phone. -/
theorem sign_out_final {τ ι : Type} [DecidableEq τ] [DecidableEq ι] (m : Issued τ ι) :
    (∀ c as w,DesktopSignOut.Started m c →
      Run (guarded (Step (DesktopSignOut.system m)) fun w a => inTime (DesktopSignOut.rules m) w a=true)
          {shared := ⟨c,{}⟩} as w →
        Final m.Belongs (DesktopSignOut.held w.shared.client) w.shared.watch) ∧
      ∀ c as w,MobileSignOut.Started m c →
        Run (guarded (Step (MobileSignOut.system m)) fun w a => inTime (MobileSignOut.rules m) w a=true)
            {shared := ⟨c,{}⟩} as w →
          Final m.Belongs (MobileSignOut.held w.shared.client) w.shared.watch :=
  ⟨fun _ _ _ h hrun => DesktopSignOut.final_of_run h hrun,
    fun _ _ _ h hrun => MobileSignOut.final_of_run h hrun⟩

/-- Tokens numbered by sign-in, from 1, and in the order they are issued; number
0 was stored before. They expire at second 900. -/
def numbered : Issued (Nat×Nat) Nat where
  expMs := fun t => 900000*(t.2+1)
  origin := fun t => if t.1=0 then .found else .signIn t.1
  person := fun k => match k with
    | .found => "asha"
    | .signIn _ => "ben"

def userOf (id : String) : PublicUser :=
  {id
   email := id++"@agency.example"
   fullName := none
   role := "agent"
   tenantId := "t1"
   tenantName := "Agency"
   createdAt := "2026-01-05"}

def asha : PublicUser := userOf "asha"

def ben : PublicUser := userOf "ben"

def profileOf (t : Nat×Nat) : PublicUser := if t.1=0 then asha else ben

/-- The pair that a token is exchanged for. -/
def next (t : Nat×Nat) : AuthResponse (Nat×Nat) := ⟨(t.1,t.2+1),(t.1,t.2+1),900,none⟩

section Desktop

open DesktopClient

/-- Everything succeeds; the second operation is Ben's sign-in. -/
def desktopAnswer : (w : Await (Nat×Nat)) → w.Answer
  | .load => .ok (some ⟨(0,0),(0,0),none⟩)
  | .loaded _ => ()
  | .store _ => .written
  | .clear => .ok ()
  | .replied => ()
  | .refresh t => .answered 200 (some (next t))
  | .signUp _ => .unreachable
  | .signIn _ => .answered 200 (some ⟨(2,0),(2,0),900,some ben⟩)
  | .signOut _ _ => .answered 204 none
  | .me t => .answered 200 (some (profileOf t))
  | .promise _ => some (0,1)

def desktopStart : Client (Nat×Nat) := {stored := some ⟨(0,0),(0,0),none⟩}

/-- Asha's session is loaded with her profile and stored. -/
def loadSession : List (DesktopSignOut.Move (Nat×Nat) Nat) :=
  .start 0 .init::List.replicate 5 (.answer 0 desktopAnswer)

/-- Asha signs out and Ben signs in. -/
def changeOver : List (DesktopSignOut.Move (Nat×Nat) Nat) :=
  loadSession++.start 1 .signOut::List.replicate 3 (.answer 1 desktopAnswer)++
    .start 2 (.signIn ⟨"ben@agency.example","secret"⟩)::List.replicate 3 (.answer 2 desktopAnswer)

/-- A refresh of Asha's session is answered when she has signed out. -/
def lateRefresh : List (DesktopSignOut.Move (Nat×Nat) Nat) :=
  loadSession++.change 900000::.start 1 .getAccessToken::.start 2 .signOut::
    List.replicate 3 (.answer 2 desktopAnswer)++List.replicate 2 (.answer 1 desktopAnswer)

/-- What has completed last, and what the client holds. -/
def desktopView (w : DesktopSignOut.State (Nat×Nat) Nat) :
    Status Nat × List (Datum (Nat×Nat)) × List (Datum (Nat×Nat)) :=
  (w.shared.watch.status,DesktopSignOut.held w.shared.client .memory,
    DesktopSignOut.held w.shared.client .file)

end Desktop

section Mobile

open MobileClient

/-- Everything succeeds; the second operation is Ben's sign-in. -/
def mobileAnswer : (w : Await (Nat×Nat)) → w.Answer
  | .getAccessToken => some (0,0)
  | .getRefreshToken => some (0,0)
  | .getUser => none
  | .setAccessToken _ => true
  | .setRefreshToken _ => true
  | .setUser _ => true
  | .delete keys => (keys.headD .user,true)
  | .refresh t => .answered 200 (some (next t))
  | .signUp _ => .unreachable
  | .signIn _ => .answered 200 (some ⟨(2,0),(2,0),900,some ben⟩)
  | .signOut _ _ => .answered 204 none
  | .me t => .answered 200 (some (profileOf t))
  | .promise _ => some (next (0,0))
  | .gotUser _ => ()
  | .wroteUser _ => ()
  | .replied => ()

def mobileStart : Client (Nat×Nat) := {storedAccess := some (0,0),storedRefresh := some (0,0)}

/-- Asha's session is loaded and her profile stored and shown. -/
def hydrated : List (MobileSignOut.Move (Nat×Nat) Nat) :=
  .start 0 .hydrate::List.replicate 7 (.answer 0 mobileAnswer)

/-- Asha signs out and Ben signs in. -/
def handOver : List (MobileSignOut.Move (Nat×Nat) Nat) :=
  hydrated++.start 1 .signOut::List.replicate 9 (.answer 1 mobileAnswer)++
    .start 2 (.signIn ⟨"ben@agency.example","secret"⟩)::List.replicate 7 (.answer 2 mobileAnswer)

/-- A refresh of Asha's session is answered when she has signed out. -/
def lateAnswer : List (MobileSignOut.Move (Nat×Nat) Nat) :=
  hydrated++.change (.clock 900000)::.start 1 .getAccessToken::
    List.replicate 4 (.answer 1 mobileAnswer)++.start 2 .signOut::
    List.replicate 9 (.answer 2 mobileAnswer)++List.replicate 5 (.answer 1 mobileAnswer)

/-- What has completed last, and the tokens stored. -/
def mobileView (w : MobileSignOut.State (Nat×Nat) Nat) :
    Status Nat × List (Datum (Nat×Nat)) × List (Datum (Nat×Nat)) :=
  (w.shared.watch.status,MobileSignOut.held w.shared.client (.item .accessToken),
    MobileSignOut.held w.shared.client (.item .refreshToken))

end Mobile

theorem desktopStart_started : DesktopSignOut.Started numbered desktopStart where
  session := rfl
  user := rfl
  stored := (fits_iff ..).mp rfl

theorem mobileStart_started : MobileSignOut.Started numbered mobileStart where
  user := rfl
  items := fun key => by cases key <;> exact (fits_iff ..).mp rfl

/-- Asha signs out and Ben signs in, on the desktop and on the phone. -/
theorem sign_out_final_changeOver :
    (∃ w,Run (guarded (Step (DesktopSignOut.system numbered))
          fun w a => inTime (DesktopSignOut.rules numbered) w a=true)
          {shared := ⟨desktopStart,{}⟩} changeOver w ∧ w.shared.watch.status=.signedIn (.signIn 2) ∧
        Final numbered.Belongs (DesktopSignOut.held w.shared.client) w.shared.watch) ∧
      ∃ w,Run (guarded (Step (MobileSignOut.system numbered))
          fun w a => inTime (MobileSignOut.rules numbered) w a=true)
          {shared := ⟨mobileStart,{}⟩} handOver w ∧ w.shared.watch.status=.signedIn (.signIn 2) ∧
        Final numbered.Belongs (MobileSignOut.held w.shared.client) w.shared.watch := by
  have hdesktop : ((changeOver.foldlM (fun w a => if inTime (DesktopSignOut.rules numbered) w a then
      step (DesktopSignOut.system numbered) w a else none) {shared := ⟨desktopStart,{}⟩}).map
        fun w => w.shared.watch.status)=some (.signedIn (.signIn 2)) := by decide +kernel
  have hmobile : ((handOver.foldlM (fun w a => if inTime (MobileSignOut.rules numbered) w a then
      step (MobileSignOut.system numbered) w a else none) {shared := ⟨mobileStart,{}⟩}).map
        fun w => w.shared.watch.status)=some (.signedIn (.signIn 2)) := by decide +kernel
  obtain ⟨v,hv,hstatus⟩ := Option.map_eq_some_iff.mp hdesktop
  obtain ⟨w,hw,hstatus'⟩ := Option.map_eq_some_iff.mp hmobile
  have hrun := guarded_run_of_foldlM hv
  have hrun' := guarded_run_of_foldlM hw
  exact ⟨⟨v,hrun,hstatus,(sign_out_final numbered).1 _ _ v desktopStart_started hrun⟩,
    w,hrun',hstatus',(sign_out_final numbered).2 _ _ w mobileStart_started hrun'⟩

/-- A sign-out has completed and the session is back, in memory and stored. -/
theorem session_back_after_sign_out :
    (∃ w,Run (Step (DesktopSignOut.system numbered)) {shared := ⟨desktopStart,{}⟩} lateRefresh w ∧
        desktopView w=(.signedOut,[.token (0,1),.token (0,1)],[.token (0,1),.token (0,1)]) ∧
        ¬Final numbered.Belongs (DesktopSignOut.held w.shared.client) w.shared.watch) ∧
      ∃ w,Run (Step (MobileSignOut.system numbered)) {shared := ⟨mobileStart,{}⟩} lateAnswer w ∧
        mobileView w=(.signedOut,[.token (0,1)],[.token (0,1)]) ∧
        ¬Final numbered.Belongs (MobileSignOut.held w.shared.client) w.shared.watch := by
  have hdesktop : ((lateRefresh.foldlM (step (DesktopSignOut.system numbered))
      {shared := ⟨desktopStart,{}⟩}).map desktopView)=
        some (.signedOut,[.token (0,1),.token (0,1)],[.token (0,1),.token (0,1)]) := by decide +kernel
  have hmobile : ((lateAnswer.foldlM (step (MobileSignOut.system numbered))
      {shared := ⟨mobileStart,{}⟩}).map mobileView)=
        some (.signedOut,[.token (0,1)],[.token (0,1)]) := by decide +kernel
  obtain ⟨v,hv,hview⟩ := Option.map_eq_some_iff.mp hdesktop
  obtain ⟨w,hw,hview'⟩ := Option.map_eq_some_iff.mp hmobile
  refine ⟨⟨v,run_of_foldlM hv,hview,fun hfinal => ?_⟩,w,run_of_foldlM hw,hview',fun hfinal => ?_⟩
  · obtain ⟨hstatus,hplaces⟩ := Prod.mk.inj hview
    have hheld := (Prod.mk.inj hplaces).1
    rw [Final,hstatus] at hfinal
    rw [hfinal .memory] at hheld
    cases hheld
  · obtain ⟨hstatus,hplaces⟩ := Prod.mk.inj hview'
    have hheld := (Prod.mk.inj hplaces).1
    rw [Final,hstatus] at hfinal
    rw [hfinal (.item .accessToken)] at hheld
    cases hheld

end Voyagent.FinalSignOut
