import Voyagent.AuthEffects

/-!
# Passwords behind the stored hashes

Sign-up checks a new password twice: by its request model and by the rules of
the service. Accepting an invite and resetting a password check it by the
request model only, which knows no blocklist. Every hash a request writes is
recorded beside the state with the password it was computed from.
-/

namespace Voyagent.StoredPasswords

open RuntimeValues TrimmedText PythonNumbers AuthAccounts AuthEndpoints AuthEffects TransitionRuns

/-- The new password in the body of a request. -/
def newPassword : Call → Option String
  | .signUp _ password _ _ => some password
  | .resetPassword _ password => some password
  | .acceptInvite _ password _ => some password
  | _ => none

/-- `_PasswordRule.validate`, with the bounds of the field: the complaint, if
there is one. -/
def passwordRule (lib : AuthLibrary) (value : String) : Option String :=
  if value.length<12 then some "password_too_short"
  else if 128<value.length then some "password_too_long"
  else if !(value.toList.any lib.isAlpha && value.toList.any isDigitChar) then
    some "password_must_contain_letter_and_digit"
  else none

/-- The body of a request passes its model. -/
def bodyPasses (lib : AuthLibrary) (c : Call) : Bool :=
  ((newPassword c).bind (passwordRule lib)).isNone

/-- A password the service takes for one users try first. -/
def blocklisted (lib : AuthLibrary) (password : String) : Bool :=
  commonPasswords.contains (lib.lower (pyStrip password))

/-- A hash in a user row and the password it was computed from. -/
structure StoredPassword where
  hash : String
  password : String

/-- The password hash a statement writes. -/
def hashIn : Write → Option String
  | .insertUser u => u.passwordHash
  | .updatePasswordHash _ hash => some hash
  | _ => none

/-- What the statements of a call store of the password in its body. -/
def storedBy (c : Call) (ws : List Write) : List StoredPassword :=
  match newPassword c with
  | none => []
  | some password => (ws.filterMap hashIn).map (⟨·,password⟩)

/-- The service and the passwords stored so far. -/
structure World where
  auth : AuthState := {}
  stored : List StoredPassword := []

section Steps

variable (lib : AuthLibrary) (cfg : AuthSettings)

/-- The world after a request; a body its model rejects changes nothing. -/
def World.receive (w : World) (l : CallEnv × Call) : World :=
  if bodyPasses lib l.2 then
    {auth := serve lib cfg w.auth l
     stored := w.stored++storedBy l.2 (handle lib cfg w.auth l.1 l.2).writes}
  else w

/-- Requests are received one after the other. -/
def ReceiveStep : World → CallEnv × Call → World → Prop := fun w l t => t=w.receive lib cfg l

/-- The request gets as far as storing its password past the blocklist. -/
def StoresUnchecked (s : AuthState) (l : CallEnv × Call) : Prop :=
  match l.2 with
  | .acceptInvite token _ _ =>
    ∃ i,openInvite s l.1 token=.ok i ∧ s.findByEmail lib i.email=none
  | .resetPassword token _ =>
    ((takeToken cfg l.1 (s.passwordResetTokens token)).1.bind s.findById).isSome
  | _ => False

/-- An accepted invite and a password reset that go through carry a password
off the blocklist, if their request model passes it. -/
def OffBlocklist (w : World) (l : CallEnv × Call) : Prop :=
  StoresUnchecked lib cfg w.auth l → bodyPasses lib l.2=true →
    ∀ password,newPassword l.2=some password → blocklisted lib password=false

/-- Every password hash written so far is the hash of a strong password. -/
def AllStrong (w : World) : Prop :=
  ∀ e ∈ w.stored,passwordWeakness lib e.password=none

/-- The record is right: each entry is a hash of its password, and the hash of
every user row is in it. -/
structure Recorded (w : World) : Prop where
  hashed : ∀ e ∈ w.stored,∃ salt,e.hash=lib.hashPassword salt e.password
  covered : ∀ u ∈ w.auth.users,∀ hash,u.passwordHash=some hash → ∃ e ∈ w.stored,e.hash=hash

end Steps

variable {lib : AuthLibrary} {cfg : AuthSettings} {s : AuthState} {env : CallEnv} {c : Call}
  {w : World} {ls : List (CallEnv × Call)}

/-! ## The two rules -/

/-- The code points `str.strip` removes, listed. -/
def pySpaces : List Nat :=
  [9,10,11,12,13,0x1C,0x1D,0x1E,0x1F,0x20,0x85,0xA0,0x1680,0x2000,0x2001,0x2002,0x2003,0x2004,0x2005,
    0x2006,0x2007,0x2008,0x2009,0x200A,0x2028,0x2029,0x202F,0x205F,0x3000]

theorem mem_pySpaces {d : Char} (h : isPySpace d=true) : d.toNat ∈ pySpaces := by
  unfold isPySpace isWhiteSpace at h
  simp only [Bool.or_eq_true,Bool.and_eq_true,decide_eq_true_eq,beq_iff_eq] at h
  simp only [pySpaces,List.mem_cons,List.not_mem_nil,or_false]
  omega

/-- No digit is a blank. -/
theorem digit_not_space {d : Char} (h : isDigitChar d=true) : isPySpace d=false := by
  have hnone : ∀ n ∈ pySpaces,
      ((decimalZeros.findSome? fun z => if z≤n ∧ n≤z+9 then some (n-z) else none).isSome ||
        otherDigitRanges.any fun r => r.1≤n && n≤r.2)=false := by decide
  cases hs : isPySpace d with
  | false => rfl
  | true =>
    have hd := hnone d.toNat (mem_pySpaces hs)
    change isDigitChar d=false at hd
    rw [h] at hd
    cases hd

/-- A password with a digit is not blank. -/
theorem pyStrip_ne_empty {password : String} (h : password.toList.any isDigitChar=true) :
    pyStrip password≠"" := by
  obtain ⟨d,hd,hdigit⟩ := List.any_eq_true.mp h
  exact trimBy_ne_empty hd (digit_not_space hdigit)

/-- A password its request model passes is strong exactly when it is off the
blocklist. -/
theorem weakness_of_passes {password : String} (h : passwordRule lib password=none) :
    passwordWeakness lib password=none ↔ blocklisted lib password=false := by
  unfold passwordRule at h
  split at h
  · cases h
  · rename_i hshort
    split at h
    · cases h
    · rename_i hlong
      split at h
      · cases h
      · rename_i hchars
        simp only [Bool.not_eq_true',Bool.and_eq_false_iff,not_or,Bool.not_eq_false] at hchars
        have hblank := pyStrip_ne_empty hchars.2
        have hlength : ¬password.length<10 := by omega
        unfold passwordWeakness blocklisted
        rw [if_neg hblank,if_neg hlength,if_neg hlong,hchars.1,hchars.2]
        cases hcommon : commonPasswords.contains (lib.lower (pyStrip password)) <;> simp

/-! ## The hashes a call writes -/

/-- A statement that writes a hash is one on the users. -/
theorem filterMap_onUsers (ws : List Write) : (ws.filter onUsers).filterMap hashIn=ws.filterMap hashIn := by
  induction ws with
  | nil => rfl
  | cons v ws ih =>
    have hv : onUsers v=false → hashIn v=none := by cases v <;> simp [onUsers,hashIn]
    cases hon : onUsers v with
    | true => rw [List.filter_cons_of_pos hon,List.filterMap_cons,List.filterMap_cons,ih]
    | false =>
      have hoff : ¬onUsers v=true := by simp [hon]
      rw [List.filter_cons_of_neg hoff,List.filterMap_cons_none (hv hon),ih]

variable {ws : List Write}

theorem hashes_of_onUsers (h : ws.filter onUsers=[]) : ws.filterMap hashIn=[] := by
  rw [← filterMap_onUsers,h]
  rfl

@[simp] theorem answerPair_hashes (u : User) (t : Tenant) (ws : List Write) (jti token : Draw) :
    (answerPair cfg env u t ws jti token).writes.filterMap hashIn=ws.filterMap hashIn := by
  simp [answerPair,Outcome.ok,issuePairForUser,hashIn]

/-- Sign-up stores the hash of a strong password or none. -/
theorem signUp_hashes (email password fullName agencyName : String) :
    (signUp lib cfg s env email password fullName agencyName).writes.filterMap hashIn=[] ∨
      passwordWeakness lib password=none ∧
        (signUp lib cfg s env email password fullName agencyName).writes.filterMap hashIn=
          [lib.hashPassword (s.draw 2) password] := by
  unfold signUp
  split
  · exact .inl rfl
  · rename_i hstrong
    split
    · exact .inl rfl
    · refine .inr ⟨hstrong,?_⟩
      rw [answerPair_hashes]
      rfl

/-- Accepting an open invite for a free address stores the hash of its
password, whatever the password is. -/
theorem acceptInvite_hashes (token : Draw) (password fullName : String) :
    (StoresUnchecked lib cfg s (env,.acceptInvite token password fullName) ∧
      (acceptInvite lib cfg s env token password fullName).writes.filterMap hashIn=
        [lib.hashPassword (s.draw 2) password]) ∨
    (¬StoresUnchecked lib cfg s (env,.acceptInvite token password fullName) ∧
      (acceptInvite lib cfg s env token password fullName).writes.filterMap hashIn=[]) := by
  unfold acceptInvite
  split
  · rename_i e hopen
    refine .inr ⟨?_,rfl⟩
    rintro ⟨i,hi,-⟩
    rw [hopen] at hi
    cases hi
  · rename_i i hopen
    split
    · rename_i u hu
      refine .inr ⟨?_,rfl⟩
      rintro ⟨j,hj,hfree⟩
      cases hopen.symm.trans hj
      rw [hu] at hfree
      cases hfree
    · rename_i hfree
      refine .inl ⟨⟨i,hopen,hfree⟩,?_⟩
      dsimp only
      split
      · rfl
      · rw [answerPair_hashes]
        rfl

/-- A reset whose token names a user stores the hash of the new password,
whatever the password is. -/
theorem resetPassword_hashes (token : Draw) (password : String) :
    (StoresUnchecked lib cfg s (env,.resetPassword token password) ∧
      (resetPassword lib cfg s env token password).writes.filterMap hashIn=
        [lib.hashPassword (s.draw 0) password]) ∨
    (¬StoresUnchecked lib cfg s (env,.resetPassword token password) ∧
      (resetPassword lib cfg s env token password).writes.filterMap hashIn=[]) := by
  unfold resetPassword StoresUnchecked
  dsimp only
  split
  · rename_i hnone
    refine .inr ⟨by simp [hnone],?_⟩
    split <;> rfl
  · rename_i u hu
    refine .inl ⟨by simp [hu],?_⟩
    split <;> rfl

theorem verifyEmail_hashes (token : Draw) :
    (verifyEmail cfg s env token).writes.filterMap hashIn=[] := by
  unfold verifyEmail
  dsimp only
  split <;> split <;> rfl

theorem updateProfile_hashes (bearer : Option AccessTokenPayload) (fullName email : Option String) :
    (updateProfile lib cfg s env bearer fullName email).writes.filterMap hashIn=[] := by
  unfold updateProfile
  split
  · rfl
  · split
    · rfl
    · split
      · rfl
      · dsimp only
        split
        · rfl
        · split
          · dsimp only [Outcome.failed]
            split <;> rfl
          · dsimp only [Outcome.ok]
            split <;> rfl

theorem totpSetup_hashes (id : UserId) : (totpSetup s id).writes.filterMap hashIn=[] := by
  unfold totpSetup
  split <;> rfl

theorem totpVerify_hashes (id : UserId) (code : String) :
    (totpVerify lib s env id code).writes.filterMap hashIn=[] := by
  unfold totpVerify
  split
  · rfl
  · split
    · rfl
    · split
      · rfl
      · split <;> rfl

theorem totpDisable_hashes (id : UserId) (password code : String) :
    (totpDisable lib s env id password code).writes.filterMap hashIn=[] := by
  unfold totpDisable
  split
  · rfl
  · split
    · rfl
    · split
      · split
        · split <;> rfl
        · rfl
      · rfl

theorem asUser_hashes {bearer : Option AccessTokenPayload} {f : UserId → Outcome}
    (h : ∀ id,(f id).writes.filterMap hashIn=[]) :
    (asUser cfg s env bearer f).writes.filterMap hashIn=[] := by
  unfold asUser
  split
  · rfl
  · split
    · rfl
    · exact h _

/-- A call without a new password writes no hash. -/
theorem no_hashes (h : newPassword c=none) : (handle lib cfg s env c).writes.filterMap hashIn=[] := by
  cases c with
  | signUp email password fullName agencyName => cases h
  | resetPassword token newPassword => cases h
  | acceptInvite token password fullName => cases h
  | signIn email password => exact hashes_of_onUsers (signIn_onUsers ..)
  | refresh token => exact hashes_of_onUsers (refresh_onUsers token)
  | signOut bearer refreshToken => exact hashes_of_onUsers (signOut_onUsers ..)
  | me bearer => exact hashes_of_onUsers (me_onUsers bearer)
  | sendVerificationEmail bearer => exact hashes_of_onUsers (sendVerificationEmail_onUsers bearer)
  | verifyEmail token => exact verifyEmail_hashes token
  | updateProfile bearer fullName email => exact updateProfile_hashes ..
  | requestPasswordReset email => exact hashes_of_onUsers (requestPasswordReset_onUsers email)
  | createInvite bearer email role =>
    exact hashes_of_onUsers (asMember_onUsers fun tid id => createInvite_onUsers tid id email role)
  | listInvites bearer status | listApiKeys bearer =>
    exact hashes_of_onUsers (asTenant_onUsers fun _ => rfl)
  | revokeInvite bearer inviteId =>
    exact hashes_of_onUsers (asTenant_onUsers fun tid => revokeInvite_onUsers tid inviteId)
  | lookupInvite token => exact hashes_of_onUsers (lookupInvite_onUsers token)
  | totpSetup bearer => exact asUser_hashes totpSetup_hashes
  | totpVerify bearer code => exact asUser_hashes fun id => totpVerify_hashes id code
  | totpDisable bearer password code =>
    exact asUser_hashes fun id => totpDisable_hashes id password code
  | signInTotp email password totpCode => exact hashes_of_onUsers (signInTotp_onUsers ..)
  | createApiKey bearer name expiresInDays =>
    exact hashes_of_onUsers (asMember_onUsers fun _ _ => rfl)
  | revokeApiKey bearer keyId =>
    exact hashes_of_onUsers (asTenant_onUsers fun tid => revokeApiKey_onUsers tid keyId)

variable {hash : String} {u : User} {us : List User}

/-- A hash in a user row stood there before the statement or is written by it. -/
theorem hash_usersAfter {v : Write} (hu : u ∈ usersAfter us v) (hhash : u.passwordHash=some hash) :
    (∃ u' ∈ us,u'.passwordHash=some hash) ∨ hashIn v=some hash := by
  have hupdate : ∀ {f : User → User} {id : UserId},u ∈ updateUser id f us →
      (∀ u,(f u).passwordHash=u.passwordHash) → ∃ u' ∈ us,u'.passwordHash=some hash := by
    intro f id hu hf
    obtain ⟨u',hu',rfl⟩ := List.mem_map.mp hu
    refine ⟨u',hu',?_⟩
    split at hhash
    · rwa [hf] at hhash
    · exact hhash
  cases v with
  | insertUser u' =>
    rcases List.mem_append.mp hu with hu|hu
    · exact .inl ⟨u,hu,hhash⟩
    · cases List.mem_singleton.mp hu
      exact .inr hhash
  | updatePasswordHash id hash' =>
    obtain ⟨u',hu',rfl⟩ := List.mem_map.mp hu
    split at hhash
    · exact .inr hhash
    · exact .inl ⟨u',hu',hhash⟩
  | markEmailVerified id | updateProfile id displayName email | storeTotpSecret id secret
  | enableTotp id | clearTotp id =>
    exact .inl (hupdate hu fun _ => rfl)
  | _ => exact .inl ⟨u,hu,hhash⟩

theorem hash_foldl (hu : u ∈ ws.foldl usersAfter us) (hhash : u.passwordHash=some hash) :
    (∃ u' ∈ us,u'.passwordHash=some hash) ∨ hash ∈ ws.filterMap hashIn := by
  induction ws generalizing us with
  | nil => exact .inl ⟨u,hu,hhash⟩
  | cons v ws ih =>
    rcases ih hu with ⟨u',hu',hhash'⟩|hlater
    · rcases hash_usersAfter hu' hhash' with hbefore|hwritten
      · exact .inl hbefore
      · exact .inr (List.mem_filterMap.mpr ⟨v,List.mem_cons_self,hwritten⟩)
    · obtain ⟨v',hv',hwritten⟩ := List.mem_filterMap.mp hlater
      exact .inr (List.mem_filterMap.mpr ⟨v',List.mem_cons_of_mem v hv',hwritten⟩)

/-! ## Runs -/

theorem storedBy_some {password : String} (h : newPassword c=some password) (ws : List Write) :
    storedBy c ws=(ws.filterMap hashIn).map (⟨·,password⟩) := by
  rw [storedBy,h]

/-- One hash of the password or none. -/
theorem hashed_of_hashes {password : String} {salt : Draw} {e : StoredPassword}
    (hws : ws.filterMap hashIn=[] ∨ ws.filterMap hashIn=[lib.hashPassword salt password])
    (he : e ∈ (ws.filterMap hashIn).map (StoredPassword.mk · password)) :
    ∃ salt,e.hash=lib.hashPassword salt e.password := by
  rcases hws with hws|hws
  · rw [hws] at he
    cases he
  · rw [hws] at he
    cases List.mem_singleton.mp he
    exact ⟨salt,rfl⟩

/-- What a call stores is a hash of the password in its body. -/
theorem storedBy_hashed (e : StoredPassword) (he : e ∈ storedBy c (handle lib cfg s env c).writes) :
    ∃ salt,e.hash=lib.hashPassword salt e.password := by
  cases c with
  | signUp email password fullName agencyName =>
    rw [storedBy_some rfl,handle] at he
    exact hashed_of_hashes ((signUp_hashes email password fullName agencyName).imp_right And.right) he
  | resetPassword token password =>
    rw [storedBy_some rfl,handle] at he
    exact hashed_of_hashes ((resetPassword_hashes token password).symm.imp And.right And.right) he
  | acceptInvite token password fullName =>
    rw [storedBy_some rfl,handle] at he
    exact hashed_of_hashes ((acceptInvite_hashes token password fullName).symm.imp And.right And.right)
      he
  | _ => cases he

/-- What a call stores in user rows it stores as a password. -/
theorem storedBy_covers (hu : u ∈ (serve lib cfg s (env,c)).users)
    (hhash : u.passwordHash=some hash) :
    (∃ u' ∈ s.users,u'.passwordHash=some hash) ∨
      ∃ e ∈ storedBy c (handle lib cfg s env c).writes,e.hash=hash := by
  rw [serve_users] at hu
  refine (hash_foldl hu hhash).imp_right fun hmem => ?_
  rw [filterMap_onUsers] at hmem
  unfold storedBy
  cases hp : newPassword c with
  | none =>
    rw [no_hashes hp] at hmem
    cases hmem
  | some password => exact ⟨⟨hash,password⟩,List.mem_map.mpr ⟨hash,hmem,rfl⟩,rfl⟩

/-- A request keeps the record right. -/
theorem Recorded.receive (h : Recorded lib w) (l : CallEnv × Call) :
    Recorded lib (w.receive lib cfg l) := by
  unfold World.receive
  split
  · constructor
    · intro e he
      rcases List.mem_append.mp he with he|he
      · exact h.hashed e he
      · exact storedBy_hashed e he
    · intro u hu hash hhash
      rcases storedBy_covers hu hhash with ⟨u',hu',hhash'⟩|⟨e,he,hhash'⟩
      · obtain ⟨e,he,hhash''⟩ := h.covered u' hu' hash hhash'
        exact ⟨e,List.mem_append_left _ he,hhash''⟩
      · exact ⟨e,List.mem_append_right _ he,hhash'⟩
  · exact h

/-- A request whose body passes stores strong passwords only, exactly when a
password it stores unchecked is off the blocklist. -/
theorem storedBy_strong_iff (hpass : bodyPasses lib c=true) :
    (∀ e ∈ storedBy c (handle lib cfg s env c).writes,passwordWeakness lib e.password=none) ↔
      (StoresUnchecked lib cfg s (env,c) →
        ∀ password,newPassword c=some password → blocklisted lib password=false) := by
  have hunchecked : ∀ {password hash : String} {ws : List Write},newPassword c=some password →
      (StoresUnchecked lib cfg s (env,c) ∧ ws.filterMap hashIn=[hash]) ∨
        (¬StoresUnchecked lib cfg s (env,c) ∧ ws.filterMap hashIn=[]) →
      ((∀ e ∈ (ws.filterMap hashIn).map (StoredPassword.mk · password),
          passwordWeakness lib e.password=none) ↔
        (StoresUnchecked lib cfg s (env,c) →
          ∀ password,newPassword c=some password → blocklisted lib password=false)) := by
    intro password hash ws hnew hws
    have hrule : passwordRule lib password=none := by
      rw [bodyPasses,hnew] at hpass
      exact Option.isNone_iff_eq_none.mp hpass
    rcases hws with ⟨hstores,hws⟩|⟨hstores,hws⟩
    · rw [hws,List.map_singleton]
      simp only [List.mem_singleton,forall_eq,hnew,Option.some.injEq,forall_eq',hstores,true_imp_iff]
      exact weakness_of_passes hrule
    · rw [hws]
      exact iff_of_true (fun e he => by cases he) fun h => absurd h hstores
  cases c with
  | signUp email password fullName agencyName =>
    refine iff_of_true (fun e he => ?_) fun h => h.elim
    have hmem : e ∈ ((signUp lib cfg s env email password fullName agencyName).writes.filterMap
        hashIn).map (StoredPassword.mk · password) := he
    rcases @signUp_hashes lib cfg s env email password fullName agencyName
      with hnone|⟨hstrong,hsome⟩
    · rw [hnone] at hmem
      cases hmem
    · rw [hsome] at hmem
      cases List.mem_singleton.mp hmem
      exact hstrong
  | resetPassword token password => exact hunchecked rfl (resetPassword_hashes token password)
  | acceptInvite token password fullName =>
    exact hunchecked rfl (acceptInvite_hashes token password fullName)
  | _ => exact iff_of_true (fun e he => by cases he) fun h => h.elim

/-- After a request the stored passwords are strong if and only if they were
before and the request was on the right side of the blocklist. -/
theorem allStrong_receive_iff (l : CallEnv × Call) (h : AllStrong lib w) :
    AllStrong lib (w.receive lib cfg l) ↔ OffBlocklist lib cfg w l := by
  obtain ⟨env,c⟩ := l
  unfold World.receive OffBlocklist
  cases hpass : bodyPasses lib c with
  | true =>
    dsimp only
    rw [if_pos rfl]
    simp only [true_imp_iff]
    rw [← storedBy_strong_iff hpass]
    constructor
    · exact fun hall e he => hall e (List.mem_append_right _ he)
    · intro hnew e he
      rcases List.mem_append.mp he with he|he
      · exact h e he
      · exact hnew e he
  | false =>
    dsimp only
    rw [if_neg Bool.false_ne_true]
    exact iff_of_true h fun _ hp => by cases hp

/-- Passwords once stored stay on record. -/
theorem stored_subset (w : World) (l : CallEnv × Call) : w.stored⊆(w.receive lib cfg l).stored := by
  unfold World.receive
  split
  · exact List.subset_append_left _ _
  · exact List.Subset.refl _

theorem receiveStep_deterministic (lib : AuthLibrary) (cfg : AuthSettings) :
    Deterministic (ReceiveStep lib cfg) := fun _ _ _ _ h h' => h.trans h'.symm

/-- After any requests the record covers every hash in the user rows, and all
of it is strong if and only if no invite was accepted and no password reset
under a blocklisted password. -/
theorem stored_passwords_strong_iff (hrun : Run (ReceiveStep lib cfg) {} ls w) :
    Recorded lib w ∧
      (AllStrong lib w ↔ Run (guarded (ReceiveStep lib cfg) (OffBlocklist lib cfg)) {} ls w) := by
  have hstart : Recorded lib {} :=
    ⟨fun _ he => absurd he List.not_mem_nil,fun _ hu => absurd hu List.not_mem_nil⟩
  refine ⟨hrun.invariant hstart fun a l b ha hs => by rw [hs]; exact ha.receive l,?_⟩
  refine hrun.holds_iff_guarded (J:=fun _ => True) (receiveStep_deterministic lib cfg) trivial
    (fun _ _ _ _ _ => trivial) (fun _ he => absurd he List.not_mem_nil) ?_ ?_
  · intro a l b hs hb e he
    rw [hs] at hb
    exact hb e (stored_subset a l he)
  · intro a l b _ ha hs
    rw [hs]
    exact allStrong_receive_iff l ha

/-- The world after requests. -/
def worldAfter (lib : AuthLibrary) (cfg : AuthSettings) (ls : List (CallEnv × Call)) : World :=
  ls.foldl (World.receive lib cfg) {}

theorem run_worldAfter (lib : AuthLibrary) (cfg : AuthSettings) (ls : List (CallEnv × Call)) :
    Run (ReceiveStep lib cfg) {} ls (worldAfter lib cfg ls) :=
  @run_foldl _ _ (ReceiveStep lib cfg) _ (fun _ _ => rfl) {} ls

/-- The requests of an account with a verified address. -/
theorem stored_passwords_strong_iff_openAccount :
    AllStrong plainLibrary (worldAfter plainLibrary plainSettings openAccount) ↔
      Run (guarded (ReceiveStep plainLibrary plainSettings) (OffBlocklist plainLibrary plainSettings))
        {} openAccount (worldAfter plainLibrary plainSettings openAccount) :=
  (stored_passwords_strong_iff (run_worldAfter _ _ _)).2

/-- An account whose owner resets the password to a common one. -/
def commonReset : List (CallEnv × Call) :=
  [({now := 0},.signUp "asha@example.com" "correct1horse" "Asha" "Travels"),
    ({now := 1},.requestPasswordReset "asha@example.com"),
    ({now := 2},.resetPassword 5 "password1234")]

/-- The reset is served, and its password is on the blocklist. -/
theorem common_password_stored :
    ∃ w,Run (ReceiveStep plainLibrary plainSettings) {} commonReset w ∧
      (∃ u ∈ w.auth.users,u.passwordHash=some "password1234") ∧ ¬AllStrong plainLibrary w := by
  refine ⟨_,run_worldAfter _ _ _,by decide +kernel,fun h => ?_⟩
  have hstored : ∃ e ∈ (worldAfter plainLibrary plainSettings commonReset).stored,
      passwordWeakness plainLibrary e.password=some "password_common" := by decide +kernel
  obtain ⟨e,he,hweak⟩ := hstored
  rw [h e he] at hweak
  cases hweak

end Voyagent.StoredPasswords
