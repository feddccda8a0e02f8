import Voyagent.AuthEffects

/-!
# Verified addresses

The address a verification token is mailed to, and whether the address of a
verified user was proven with a token mailed to it. The service keeps a token
with its user only; the addresses and the consumed tokens are recorded beside
its state.
-/

namespace Voyagent.EmailVerification

open RuntimeValues AuthAccounts AuthEndpoints AuthEffects TransitionRuns

/-- A verification token, its user and the address it is mailed to. -/
structure Mail where
  token : Draw
  userId : UserId
  email : String

/-- The service, the tokens mailed and the tokens consumed so far. -/
structure World where
  auth : AuthState := {}
  mailed : List Mail := []
  consumed : List Draw := []

/-- A stored token is mailed to the address its user has. -/
def mailOf (s : AuthState) : Write → Option Mail
  | .putVerification token entry => (s.findById entry.userId).map fun u => ⟨token,u.id,u.email⟩
  | _ => none

/-- The token a call consumes. -/
def consumedBy (c : Call) (o : Outcome) : List Draw :=
  match c,o.reply with
  | .verifyEmail token,.ok _ => [token]
  | _,_ => []

section Steps

variable (lib : AuthLibrary) (cfg : AuthSettings)

/-- The world after a call. -/
def World.serve (w : World) (l : CallEnv × Call) : World where
  auth := AuthEndpoints.serve lib cfg w.auth l
  mailed := w.mailed++(handle lib cfg w.auth l.1 l.2).writes.filterMap (mailOf w.auth)
  consumed := w.consumed++consumedBy l.2 (handle lib cfg w.auth l.1 l.2)

def WorldStep : World → CallEnv × Call → World → Prop := fun w l t => t=w.serve lib cfg l

end Steps

/-- The address of every verified user was proven with a token mailed to it. -/
def AddressesProven (w : World) : Prop :=
  ∀ u∈w.auth.users,u.emailVerified=true →
    ∃ m∈w.mailed,m.userId=u.id ∧ m.email=u.email ∧ m.token∈w.consumed

/-- The store holds a presented token for the user. -/
def HeldFor (cfg : AuthSettings) (s : AuthState) (env : CallEnv) (token : Draw) (id : UserId) : Prop :=
  ∃ e,s.verificationTokens token=some e ∧ e.userId=id ∧ env.now<e.expiresAt ∧
    (cfg.redis && env.tokenGetDown)=false

/-- A call that verifies a user presents a token mailed to the address the
user has, unless the address was proven before. -/
def PresentsOwn (cfg : AuthSettings) (w : World) (l : CallEnv × Call) : Prop :=
  ∀ token,l.2=.verifyEmail token → ∀ u∈w.auth.users,HeldFor cfg w.auth l.1 token u.id →
    ∃ m∈w.mailed,m.userId=u.id ∧ m.email=u.email ∧ (m.token=token ∨ m.token∈w.consumed)

variable {lib : AuthLibrary} {cfg : AuthSettings} {w : World} {s : AuthState} {env : CallEnv}
  {c : Call} {ls : List (CallEnv × Call)}

variable {id : UserId} {token : Draw}

theorem takeToken_some :
    (takeToken cfg env (s.verificationTokens token)).1=some id ↔ HeldFor cfg s env token id := by
  unfold takeToken HeldFor
  split
  · rename_i hdown
    refine ⟨fun h => (by cases h),?_⟩
    rintro ⟨e,-,-,-,hup⟩
    rw [hdown] at hup
    cases hup
  · rename_i hup
    rw [Bool.not_eq_true] at hup
    split
    · rename_i hnone
      refine ⟨fun h => (by cases h),?_⟩
      rintro ⟨e,he,-⟩
      rw [hnone] at he
      cases he
    · rename_i e he
      split
      · rename_i hexp
        refine ⟨fun h => (by cases h),?_⟩
        rintro ⟨e',he',-,hlive,-⟩
        cases he.symm.trans he'
        exact absurd hexp (Int.not_le.mpr hlive)
      · rename_i hlive
        rw [Option.some_inj]
        refine ⟨fun h => ⟨e,he,h,Int.not_le.mp hlive,hup⟩,?_⟩
        rintro ⟨e',he',hid,-⟩
        cases he.symm.trans he'
        exact hid

/-! ## What verification does -/

/-- A token the store does not hold changes no user and is not consumed. -/
theorem verifyEmail_refused (h : (takeToken cfg env (s.verificationTokens token)).1=none) :
    (serve lib cfg s (env,.verifyEmail token)).users=s.users ∧
      consumedBy (.verifyEmail token) (handle lib cfg s env (.verifyEmail token))=[] := by
  have hhandle : handle lib cfg s env (.verifyEmail token)=verifyEmail cfg s env token := rfl
  rw [serve_users,hhandle,verifyEmail,h]
  refine ⟨?_,rfl⟩
  cases (takeToken cfg env (s.verificationTokens token)).2 <;> rfl

/-- A token the store holds is consumed and verifies its user. -/
theorem verifyEmail_accepted (h : (takeToken cfg env (s.verificationTokens token)).1=some id) :
    (serve lib cfg s (env,.verifyEmail token)).users=usersAfter s.users (.markEmailVerified id) ∧
      consumedBy (.verifyEmail token) (handle lib cfg s env (.verifyEmail token))=[token] := by
  have hhandle : handle lib cfg s env (.verifyEmail token)=verifyEmail cfg s env token := rfl
  rw [serve_users,hhandle,verifyEmail,h]
  refine ⟨?_,rfl⟩
  cases (takeToken cfg env (s.verificationTokens token)).2 <;> rfl

theorem verifyEmail_mails (token : Draw) :
    (handle lib cfg s env (.verifyEmail token)).writes.filterMap (mailOf s)=[] := by
  change (verifyEmail cfg s env token).writes.filterMap (mailOf s)=[]
  unfold verifyEmail
  dsimp only
  split <;> split <;> rfl

/-- No other call verifies an address. -/
theorem verified_before (hoff : cfg.skipEmailVerification=false) {ws : List Write}
    (heffect : UserEffect lib cfg s env c ws) (hc : ∀ token,c≠.verifyEmail token) {v : User}
    (hv : v∈ws.foldl usersAfter s.users) (hver : v.emailVerified=true) :
    ∃ u∈s.users,u.emailVerified=true ∧ u.id=v.id ∧ u.email=v.email := by
  have hupdate : ∀ {f : User → User} {id : UserId},v∈updateUser id f s.users →
      (∀ u,(f u).emailVerified=true → u.emailVerified=true ∧ u.id=(f u).id ∧ u.email=(f u).email) →
        ∃ u∈s.users,u.emailVerified=true ∧ u.id=v.id ∧ u.email=v.email := by
    intro f id hv hf
    obtain ⟨u,hu,rfl⟩ := List.mem_map.mp hv
    refine ⟨u,hu,?_⟩
    split at hver
    · rename_i hid
      rw [if_pos hid]
      exact hf u hver
    · rename_i hid
      rw [if_neg hid]
      exact ⟨hver,rfl,rfl⟩
  cases heffect with
  | none => exact ⟨v,hv,hver,rfl,rfl⟩
  | created _ u hu =>
    rcases List.mem_append.mp hv with hv|hv
    · exact ⟨v,hv,hver,rfl,rfl⟩
    · rw [List.mem_singleton.mp hv,hu.emailVerified,hoff] at hver
      cases hver
  | verified token id _ => exact absurd rfl (hc token)
  | profile bearer fullName email id name changed =>
    refine hupdate hv fun u hu => ?_
    cases changed with
    | none => exact ⟨hu,rfl,rfl⟩
    | some e => cases hu
  | password token newPassword id hash | totpSetup bearer id secret _
  | totpVerify bearer code id | totpDisable bearer password code u _ _ _ =>
    exact hupdate hv fun u hu => ⟨hu,rfl,rfl⟩

/-- What was proven before a call is proven after it. -/
theorem proven_kept (l : CallEnv × Call) (h : AddressesProven w) {u : User} (hu : u∈w.auth.users)
    (hver : u.emailVerified=true) :
    ∃ m∈(w.serve lib cfg l).mailed,m.userId=u.id ∧ m.email=u.email ∧
      m.token∈(w.serve lib cfg l).consumed := by
  obtain ⟨m,hm,hid,hemail,htoken⟩ := h u hu hver
  exact ⟨m,List.mem_append_left _ hm,hid,hemail,List.mem_append_left _ htoken⟩

theorem addressesProven_refused (h : AddressesProven w)
    (htaken : (takeToken cfg env (w.auth.verificationTokens token)).1=none) :
    AddressesProven (w.serve lib cfg (env,.verifyEmail token)) := by
  have husers : (w.serve lib cfg (env,.verifyEmail token)).auth.users=w.auth.users :=
    (verifyEmail_refused htaken).1
  intro u hu hver
  rw [husers] at hu
  exact proven_kept _ h hu hver

/-- A verification keeps the addresses proven if and only if its token, or one
consumed before, was mailed to the address of its user. -/
theorem addressesProven_accepted_iff (h : AddressesProven w)
    (htaken : (takeToken cfg env (w.auth.verificationTokens token)).1=some id) :
    AddressesProven (w.serve lib cfg (env,.verifyEmail token)) ↔
      ∀ u∈w.auth.users,u.id=id →
        ∃ m∈w.mailed,m.userId=u.id ∧ m.email=u.email ∧ (m.token=token ∨ m.token∈w.consumed) := by
  have hmailed : (w.serve lib cfg (env,.verifyEmail token)).mailed=w.mailed := by
    rw [World.serve]
    dsimp only
    rw [verifyEmail_mails,List.append_nil]
  have hconsumed : (w.serve lib cfg (env,.verifyEmail token)).consumed=w.consumed++[token] := by
    rw [World.serve,(verifyEmail_accepted htaken).2]
  have husers : (w.serve lib cfg (env,.verifyEmail token)).auth.users=
      usersAfter w.auth.users (.markEmailVerified id) := (verifyEmail_accepted htaken).1
  constructor
  · intro hproven u hu hid
    have hmem : {u with emailVerified := true}∈
        (w.serve lib cfg (env,.verifyEmail token)).auth.users := by
      rw [husers]
      exact List.mem_map.mpr ⟨u,hu,if_pos hid⟩
    obtain ⟨m,hm,hmid,hemail,hmtoken⟩ := hproven _ hmem rfl
    rw [hmailed] at hm
    rw [hconsumed] at hmtoken
    refine ⟨m,hm,hmid,hemail,?_⟩
    rcases List.mem_append.mp hmtoken with hmtoken|hmtoken
    · exact .inr hmtoken
    · exact .inl (List.mem_singleton.mp hmtoken)
  · intro hown v hv hver
    rw [husers] at hv
    obtain ⟨u,hu,rfl⟩ := List.mem_map.mp hv
    by_cases hid : u.id=id
    · rw [if_pos hid]
      obtain ⟨m,hm,hmid,hemail,hmtoken⟩ := hown u hu hid
      rw [hmailed,hconsumed]
      refine ⟨m,hm,hmid,hemail,?_⟩
      rcases hmtoken with rfl|hmtoken
      · exact List.mem_append_right _ (List.mem_singleton.mpr rfl)
      · exact List.mem_append_left _ hmtoken
    · dsimp only at hver ⊢
      rw [if_neg hid] at hver ⊢
      exact proven_kept _ h hu hver

/-- Any other call keeps the addresses proven. -/
theorem addressesProven_other (hoff : cfg.skipEmailVerification=false) (h : AddressesProven w)
    (hc : ∀ token,c≠.verifyEmail token) : AddressesProven (w.serve lib cfg (env,c)) := by
  intro v hv hver
  have husers : (w.serve lib cfg (env,c)).auth.users=
      ((handle lib cfg w.auth env c).writes.filter onUsers).foldl usersAfter w.auth.users :=
    serve_users w.auth env c
  rw [husers] at hv
  obtain ⟨u,hu,huver,hid,hemail⟩ :=
    verified_before hoff (user_effect lib cfg w.auth env c) hc hv hver
  rw [← hid,← hemail]
  exact proven_kept _ h hu huver

/-- After a call addresses are proven if and only if a call that verifies a
user presented a token mailed to the user's address. -/
theorem addressesProven_serve_iff (hoff : cfg.skipEmailVerification=false) (l : CallEnv × Call)
    (h : AddressesProven w) : AddressesProven (w.serve lib cfg l) ↔ PresentsOwn cfg w l := by
  obtain ⟨env,c⟩ := l
  by_cases hc : ∃ token,c=.verifyEmail token
  · obtain ⟨token,rfl⟩ := hc
    cases htaken : (takeToken cfg env (w.auth.verificationTokens token)).1 with
    | none =>
      refine iff_of_true (addressesProven_refused h htaken) ?_
      rintro token' htoken u hu hheld
      cases htoken
      cases htaken.symm.trans (takeToken_some.mpr hheld)
    | some id =>
      rw [addressesProven_accepted_iff h htaken]
      constructor
      · rintro hown token' htoken u hu hheld
        cases htoken
        exact hown u hu (Option.some.inj ((takeToken_some.mpr hheld).symm.trans htaken))
      · rintro hown u hu rfl
        exact hown token rfl u hu (takeToken_some.mp htaken)
  · have hno : ∀ token,c≠.verifyEmail token := fun token htoken => hc ⟨token,htoken⟩
    exact iff_of_true (addressesProven_other hoff h hno) fun token htoken => absurd htoken (hno token)

theorem worldStep_deterministic (lib : AuthLibrary) (cfg : AuthSettings) :
    Deterministic (WorldStep lib cfg) := fun _ _ _ _ h h' => h.trans h'.symm

/-- Without auto-verification, the address of every verified user is proven in
every state of a run if and only if every call that verifies a user presents a
token mailed to the address the user has then, or one was consumed before. -/
theorem verified_address_iff (hoff : cfg.skipEmailVerification=false)
    (hrun : Run (WorldStep lib cfg) {} ls w) :
    Throughout (WorldStep lib cfg) {} ls AddressesProven ↔
      Run (guarded (WorldStep lib cfg) (PresentsOwn cfg)) {} ls w := by
  refine hrun.throughout_iff (worldStep_deterministic lib cfg) (fun _ h => ?_) fun a l b ha hs => ?_
  · exact absurd h List.not_mem_nil
  · rw [hs]
    exact addressesProven_serve_iff hoff l ha

/-- The world after calls. -/
def worldAfter (lib : AuthLibrary) (cfg : AuthSettings) (ls : List (CallEnv × Call)) : World :=
  ls.foldl (World.serve lib cfg) {}

theorem run_worldAfter (lib : AuthLibrary) (cfg : AuthSettings) (ls : List (CallEnv × Call)) :
    Run (WorldStep lib cfg) {} ls (worldAfter lib cfg ls) :=
  @run_foldl _ _ (WorldStep lib cfg) _ (fun _ _ => rfl) {} ls

/-- A sign-up, a mailed token and its verification. -/
theorem verified_address_iff_openAccount :
    Throughout (WorldStep plainLibrary plainSettings) {} openAccount AddressesProven ↔
      Run (guarded (WorldStep plainLibrary plainSettings) (PresentsOwn plainSettings)) {} openAccount
        (worldAfter plainLibrary plainSettings openAccount) :=
  verified_address_iff rfl (run_worldAfter _ _ _)

/-- A sign-up whose address is changed between the mailing and the
verification. -/
def changedAddress : List (CallEnv × Call) :=
  [({now := 0},.signUp "asha@example.com" "correct1horse" "Asha" "Travels"),
    ({now := 1},.sendVerificationEmail (some firstBearer)),
    ({now := 2},.updateProfile (some firstBearer) none (some "owner@example.org")),
    ({now := 3},.verifyEmail 5)]

/-- A token mailed to the old address verifies the new one. -/
theorem old_token_verifies_new_address :
    ∃ w,Run (WorldStep plainLibrary plainSettings) {} changedAddress w ∧ ¬AddressesProven w := by
  refine ⟨_,run_worldAfter _ _ _,fun h => ?_⟩
  have hver : ∃ u∈(worldAfter plainLibrary plainSettings changedAddress).auth.users,
      u.emailVerified=true ∧ u.email="owner@example.org" := by decide +kernel
  have hmails : ∀ m∈(worldAfter plainLibrary plainSettings changedAddress).mailed,
      m.email="asha@example.com" := by decide +kernel
  obtain ⟨u,hu,hver,hemail⟩ := hver
  obtain ⟨m,hm,-,hmemail,-⟩ := h u hu hver
  rw [hmails m hm,hemail] at hmemail
  exact absurd hmemail (by decide)

end Voyagent.EmailVerification
