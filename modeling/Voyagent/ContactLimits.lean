import Voyagent.KeyedMap
import Voyagent.SlidingWindows
import Voyagent.TransitionRuns

/-!
# The three limiters of the contact form

Each limiter trims its bucket, and records a submission only if it lets it
pass. The handler asks them one after the other, so what a later one refuses
has been recorded by the earlier ones. The buckets hold the accepted
submissions, and nothing else, exactly in the histories where that never
happens.
-/

namespace Voyagent.ContactLimits

open KeyedMap SlidingWindows TransitionRuns

structure RateLimit where
  max : Nat
  windowMs : Int

/-! `RATE_LIMITS`. -/

def perIp : RateLimit := ⟨5,60*60*1000⟩

def perEmail : RateLimit := ⟨3,24*60*60*1000⟩

def globalLimit : RateLimit := ⟨100,60*1000⟩

/-- The module's state. -/
structure Limiter where
  ipHits : Table String (List Int) := []
  emailHits : Table String (List Int) := []
  globalHits : List Int := []

/-- What `pruneAndCount` leaves in a bucket; its count is the length. -/
def prune (hits : List Int) (now windowMs : Int) : List Int :=
  hits.dropWhile fun head => !decide (now-head≤windowMs)

/-- `checkAndRecord`. -/
def checkAndRecord (map : Table String (List Int)) (key : String) (now : Int) (limit : RateLimit) :
    Bool × Table String (List Int) :=
  let hits := prune ((get map key).getD []) now limit.windowMs
  if limit.max≤hits.length then (false,set map key hits) else (true,set map key (hits++[now]))

/-- `checkAndRecordIp`. -/
def checkAndRecordIp (l : Limiter) (ip : String) (now : Int) : Bool × Limiter :=
  let r := checkAndRecord l.ipHits ip now perIp
  (r.1,{l with ipHits := r.2})

/-- `checkAndRecordEmail`. -/
def checkAndRecordEmail (l : Limiter) (email : String) (now : Int) : Bool × Limiter :=
  let r := checkAndRecord l.emailHits email now perEmail
  (r.1,{l with emailHits := r.2})

/-- `checkAndRecordGlobal`. -/
def checkAndRecordGlobal (l : Limiter) (now : Int) : Bool × Limiter :=
  let hits := prune l.globalHits now globalLimit.windowMs
  if globalLimit.max≤hits.length then (false,{l with globalHits := hits})
  else (true,{l with globalHits := hits++[now]})

/-- The two methods of strings the handler uses. -/
structure StringMethods where
  trim : String → String
  toLowerCase : String → String

/-- A request whose payload passed `validate`. -/
structure ContactRequest where
  cfConnectingIp : Option String := none
  xForwardedFor : Option String := none
  xRealIp : Option String := none
  /-- The trimmed address of the payload. -/
  email : String

/-- `clientIp`. An empty header counts as missing. -/
def clientIp (js : StringMethods) (r : ContactRequest) : String :=
  let real := match r.xRealIp.filter (· ≠ "") with
    | some real => js.trim real
    | none => "unknown"
  match r.cfConnectingIp.filter (· ≠ "") with
  | some cf => js.trim cf
  | none =>
    match r.xForwardedFor.filter (· ≠ "") with
    | some xff =>
      let first := js.trim (String.ofList (xff.toList.takeWhile (· ≠ ',')))
      if first≠"" then first else real
    | none => real

/-- The answer to a valid payload. -/
inductive Answer where
  | ok
  | rateLimited (retryAfterSeconds : Int)
  deriving DecidableEq

/-- `rateLimitResponse` with the window of a limit, rounded up to seconds. -/
def rateLimitResponse (limit : RateLimit) : Answer := .rateLimited (-(-limit.windowMs/1000))

/-- `POST`, behind `validate`. -/
def post (js : StringMethods) (l : Limiter) (r : ContactRequest) (now : Int) : Answer × Limiter :=
  let g := checkAndRecordGlobal l now
  if !g.1 then (rateLimitResponse globalLimit,g.2)
  else
    let i := checkAndRecordIp g.2 (clientIp js r) now
    if !i.1 then (rateLimitResponse perIp,i.2)
    else
      let e := checkAndRecordEmail i.2 (js.toLowerCase r.email) now
      if !e.1 then (rateLimitResponse perEmail,e.2) else (.ok,e.2)

/-! ## Buckets -/

/-- A bucket of one of the three limiters. -/
inductive Bucket where
  | global
  | ip (ip : String)
  | email (email : String)
  deriving DecidableEq

def Bucket.limit : Bucket → RateLimit
  | .global => globalLimit
  | .ip _ => perIp
  | .email _ => perEmail

/-- What a bucket holds. -/
def Limiter.hits (l : Limiter) : Bucket → List Int
  | .global => l.globalHits
  | .ip ip => (get l.ipHits ip).getD []
  | .email email => (get l.emailHits email).getD []

/-- The limiter in front of a bucket. -/
def Limiter.check (l : Limiter) (b : Bucket) (now : Int) : Bool × Limiter :=
  match b with
  | .global => checkAndRecordGlobal l now
  | .ip ip => checkAndRecordIp l ip now
  | .email email => checkAndRecordEmail l email now

/-- The bucket has room left, once it is pruned. -/
def Limiter.HasRoom (l : Limiter) (b : Bucket) (now : Int) : Prop :=
  (prune (l.hits b) now b.limit.windowMs).length<b.limit.max

/-- The buckets of the request's address and of its email. -/
def ipBucket (js : StringMethods) (r : ContactRequest) : Bucket := .ip (clientIp js r)

def emailBucket (js : StringMethods) (r : ContactRequest) : Bucket := .email (js.toLowerCase r.email)

/-- The buckets a submission counts in. -/
def CountsIn (js : StringMethods) (r : ContactRequest) (b : Bucket) : Prop :=
  b=.global ∨ b=ipBucket js r ∨ b=emailBucket js r

instance (js : StringMethods) (r : ContactRequest) (b : Bucket) : Decidable (CountsIn js r b) :=
  inferInstanceAs (Decidable (_ ∨ _ ∨ _))

/-! ## Histories -/

/-- A submission with the clock as the handler reads it. -/
structure Submission where
  request : ContactRequest
  now : Int

/-- The limiter, the submissions accepted so far, and the last reading. -/
structure Desk where
  limiter : Limiter := {}
  accepted : List Submission := []
  clock : Int

/-- One submission; the clock does not go back. -/
def submit (js : StringMethods) (d : Desk) (x : Submission) : Option Desk :=
  let answered := post js d.limiter x.request x.now
  if d.clock≤x.now then
    some ⟨answered.2,if answered.1=.ok then d.accepted++[x] else d.accepted,x.now⟩
  else none

/-- The accepted submissions in a bucket's window at an instant. -/
def acceptedIn (js : StringMethods) (accepted : List Submission) (b : Bucket) (now : Int) : Nat :=
  accepted.countP fun a =>
    decide (CountsIn js a.request b ∧ now-b.limit.windowMs≤a.now ∧ a.now≤now)

/-- A submission is accepted exactly if every window it counts in holds fewer
accepted submissions than its limit, and a refused one changes no window. -/
structure Fair (js : StringMethods) (d : Desk) (x : Submission) : Prop where
  accepted_iff : (post js d.limiter x.request x.now).1=.ok ↔
    ∀ b,CountsIn js x.request b → acceptedIn js d.accepted b x.now<b.limit.max
  refused_unchanged : (post js d.limiter x.request x.now).1≠.ok → ∀ b,
    since (x.now-b.limit.windowMs) ((post js d.limiter x.request x.now).2.hits b)=
      since (x.now-b.limit.windowMs) (d.limiter.hits b)

/-- What the first limiter lets pass has room with the other two. -/
def PassesTogether (js : StringMethods) (d : Desk) (x : Submission) : Prop :=
  d.limiter.HasRoom .global x.now → d.limiter.HasRoom (ipBucket js x.request) x.now ∧
    d.limiter.HasRoom (emailBucket js x.request) x.now

variable {js : StringMethods} {l : Limiter} {r : ContactRequest} {now : Int} {b b' : Bucket}
variable {d d' : Desk} {x : Submission}

/-! ## What one request does -/

theorem checkAndRecord_fst (map : Table String (List Int)) (key : String) (now : Int)
    (limit : RateLimit) : (checkAndRecord map key now limit).1=
      decide ((prune ((get map key).getD []) now limit.windowMs).length<limit.max) := by
  unfold checkAndRecord
  dsimp only
  split
  · exact (decide_eq_false (by omega)).symm
  · exact (decide_eq_true (by omega)).symm

theorem checkAndRecord_get (map : Table String (List Int)) (key key' : String) (now : Int)
    (limit : RateLimit) : (get (checkAndRecord map key now limit).2 key').getD []=
      if key=key' then prune ((get map key).getD []) now limit.windowMs++
        if (checkAndRecord map key now limit).1 then [now] else []
      else (get map key').getD [] := by
  unfold checkAndRecord
  dsimp only
  by_cases hkey : key=key' <;> split <;> simp [hkey]

/-- A limiter lets pass while its bucket has room. -/
theorem check_fst (l : Limiter) (b : Bucket) (now : Int) :
    (l.check b now).1=true ↔ l.HasRoom b now := by
  cases b with
  | global =>
    unfold Limiter.check checkAndRecordGlobal Limiter.HasRoom
    dsimp only [Bucket.limit,Limiter.hits]
    split
    · exact iff_of_false (by simp) (by omega)
    · exact iff_of_true rfl (by omega)
  | ip ip =>
    change (checkAndRecord l.ipHits ip now perIp).1=true ↔ _
    rw [checkAndRecord_fst,decide_eq_true_iff]
    rfl
  | email email =>
    change (checkAndRecord l.emailHits email now perEmail).1=true ↔ _
    rw [checkAndRecord_fst,decide_eq_true_iff]
    rfl

/-- A limiter prunes its own bucket and records what it lets pass. -/
theorem check_hits (l : Limiter) (b b' : Bucket) (now : Int) :
    (l.check b now).2.hits b'=
      if b=b' then prune (l.hits b) now b.limit.windowMs++
        if (l.check b now).1 then [now] else []
      else l.hits b' := by
  cases b with
  | global =>
    cases b' with
    | global =>
      rw [if_pos rfl]
      unfold Limiter.check checkAndRecordGlobal
      dsimp only [Bucket.limit,Limiter.hits]
      split <;> simp
    | ip ip | email email =>
      rw [if_neg (by simp)]
      unfold Limiter.check checkAndRecordGlobal
      dsimp only
      split <;> rfl
  | ip ip =>
    cases b' with
    | ip ip' =>
      simp only [Bucket.ip.injEq]
      exact checkAndRecord_get l.ipHits ip ip' now perIp
    | global => rw [if_neg (by simp)]; rfl
    | email email => rw [if_neg (by simp)]; rfl
  | email email =>
    cases b' with
    | email email' =>
      simp only [Bucket.email.injEq]
      exact checkAndRecord_get l.emailHits email email' now perEmail
    | global => rw [if_neg (by simp)]; rfl
    | ip ip => rw [if_neg (by simp)]; rfl

theorem check_hits_self (l : Limiter) (b : Bucket) (now : Int) :
    (l.check b now).2.hits b=
      prune (l.hits b) now b.limit.windowMs++if (l.check b now).1 then [now] else [] := by
  rw [check_hits,if_pos rfl]

theorem check_hits_of_ne (l : Limiter) (h : b≠b') (now : Int) :
    (l.check b now).2.hits b'=l.hits b' := by rw [check_hits,if_neg h]

/-- Other buckets keep their room. -/
theorem hasRoom_check (l : Limiter) (h : b≠b') (now : Int) :
    (l.check b now).2.HasRoom b' now ↔ l.HasRoom b' now := by
  unfold Limiter.HasRoom
  rw [check_hits_of_ne l h]

/-- The handler asks the limiters of its three buckets in turn. -/
theorem post_eq (js : StringMethods) (l : Limiter) (r : ContactRequest) (now : Int) :
    post js l r now=
      let g := l.check .global now
      let i := g.2.check (ipBucket js r) now
      let e := i.2.check (emailBucket js r) now
      if !g.1 then (rateLimitResponse globalLimit,g.2)
      else if !i.1 then (rateLimitResponse perIp,i.2)
      else if !e.1 then (rateLimitResponse perEmail,e.2) else (.ok,e.2) := rfl

/-- A submission is accepted when all three of its buckets have room. -/
theorem post_ok_iff : (post js l r now).1=.ok ↔
    l.HasRoom .global now ∧ l.HasRoom (ipBucket js r) now ∧ l.HasRoom (emailBucket js r) now := by
  have hi : ((l.check .global now).2.check (ipBucket js r) now).1=true ↔
      l.HasRoom (ipBucket js r) now := by
    rw [check_fst,hasRoom_check l (by simp [ipBucket])]
  have he : ((((l.check .global now).2.check (ipBucket js r) now).2).check (emailBucket js r)
      now).1=true ↔ l.HasRoom (emailBucket js r) now := by
    rw [check_fst,hasRoom_check _ (by simp [ipBucket,emailBucket]),
      hasRoom_check l (by simp [emailBucket])]
  rw [post_eq,← check_fst l .global now,← hi,← he]
  dsimp only
  cases (l.check .global now).1 with
  | false => simp [rateLimitResponse]
  | true =>
    cases ((l.check .global now).2.check (ipBucket js r) now).1 with
    | false => simp [rateLimitResponse]
    | true =>
      cases ((((l.check .global now).2.check (ipBucket js r) now).2).check (emailBucket js r)
        now).1 <;> simp [rateLimitResponse]

/-- An accepted submission is recorded in its three buckets. -/
theorem post_ok_hits (h : (post js l r now).1=.ok) (b : Bucket) :
    (post js l r now).2.hits b=
      if CountsIn js r b then prune (l.hits b) now b.limit.windowMs++[now] else l.hits b := by
  obtain ⟨hroom,hroomIp,hroomEmail⟩ := post_ok_iff.mp h
  have hgi : Bucket.global≠ipBucket js r := by simp [ipBucket]
  have hge : Bucket.global≠emailBucket js r := by simp [emailBucket]
  have hie : ipBucket js r≠emailBucket js r := by simp [ipBucket,emailBucket]
  have hg : (l.check .global now).1=true := (check_fst _ _ _).mpr hroom
  have hi : ((l.check .global now).2.check (ipBucket js r) now).1=true :=
    (check_fst _ _ _).mpr ((hasRoom_check l hgi now).mpr hroomIp)
  have he : (((l.check .global now).2.check (ipBucket js r) now).2.check (emailBucket js r)
      now).1=true :=
    (check_fst _ _ _).mpr
      ((hasRoom_check _ hie now).mpr ((hasRoom_check l hge now).mpr hroomEmail))
  have hpost : (post js l r now).2=
      (((l.check .global now).2.check (ipBucket js r) now).2.check (emailBucket js r) now).2 := by
    rw [post_eq]
    dsimp only
    rw [hg,hi,he]
    rfl
  rw [hpost,check_hits,he,check_hits _ (ipBucket js r) b,hi,check_hits l .global b,hg]
  -- Each bucket is written by one of the three checks and passed on by the others.
  by_cases hbe : emailBucket js r=b
  · subst hbe
    have hcounts : CountsIn js r (emailBucket js r) := .inr (.inr rfl)
    rw [if_pos rfl,check_hits_of_ne _ hie,check_hits_of_ne _ hge,if_pos hcounts]
    rfl
  · rw [if_neg hbe]
    by_cases hbi : ipBucket js r=b
    · subst hbi
      have hcounts : CountsIn js r (ipBucket js r) := .inr (.inl rfl)
      rw [if_pos rfl,check_hits_of_ne _ hgi,if_pos hcounts]
      rfl
    · rw [if_neg hbi]
      by_cases hbg : Bucket.global=b
      · subst hbg
        have hcounts : CountsIn js r .global := .inl rfl
        rw [if_pos rfl,if_pos hcounts]
        rfl
      · have hnot : ¬CountsIn js r b := by
          rintro (rfl|rfl|rfl)
          · exact hbg rfl
          · exact hbi rfl
          · exact hbe rfl
        rw [if_neg hbg,if_neg hnot]

/-- A submission the first limiter refuses is recorded nowhere. -/
theorem post_full_hits (h : ¬l.HasRoom .global now) (b : Bucket) :
    (post js l r now).2.hits b=
      if b=.global then prune (l.hits b) now b.limit.windowMs else l.hits b := by
  have hg : (l.check .global now).1=false := by
    rw [← check_fst] at h
    simpa using h
  have hpost : (post js l r now).2=(l.check .global now).2 := by
    rw [post_eq]
    dsimp only
    rw [hg]
    rfl
  rw [hpost,check_hits,hg]
  by_cases hb : b=.global
  · simp [hb]
  · rw [if_neg hb,if_neg (Ne.symm hb)]

/-- What the first limiter lets pass it has recorded, whatever the others say. -/
theorem post_global_hits (h : l.HasRoom .global now) :
    (post js l r now).2.hits .global=prune l.globalHits now globalLimit.windowMs++[now] := by
  have hg : (l.check .global now).1=true := (check_fst _ _ _).mpr h
  have hself := check_hits_self l .global now
  rw [hg] at hself
  have hi : ((l.check .global now).2.check (ipBucket js r) now).2.hits .global=
      (l.check .global now).2.hits .global := check_hits_of_ne _ (by simp [ipBucket]) now
  have he : (((l.check .global now).2.check (ipBucket js r) now).2.check (emailBucket js r)
      now).2.hits .global=((l.check .global now).2.check (ipBucket js r) now).2.hits .global :=
    check_hits_of_ne _ (by simp [emailBucket]) now
  rw [post_eq]
  dsimp only
  rw [hg]
  simp only [Bool.not_true,Bool.false_eq_true,if_false]
  split
  · exact hi.trans hself
  · split <;> exact he.trans (hi.trans hself)

/-! ## Buckets that hold what was accepted -/

/-- The instants of the accepted submissions that count in a bucket. -/
def instants (js : StringMethods) (accepted : List Submission) (b : Bucket) : List Int :=
  (accepted.filter fun a => decide (CountsIn js a.request b)).map Submission.now

/-- Every bucket lists the accepted submissions that count in it, without some
that have left its window. -/
structure HoldsAccepted (js : StringMethods) (now : Int) (l : Limiter)
    (accepted : List Submission) : Prop where
  sorted : accepted.Pairwise fun a b => a.now≤b.now
  past : ∀ a∈accepted,a.now≤now
  trimmed : ∀ b,Trimmed (now-b.limit.windowMs) (l.hits b) (instants js accepted b)

variable {accepted : List Submission}

theorem instants_concat (js : StringMethods) (accepted : List Submission) (x : Submission)
    (b : Bucket) : instants js (accepted++[x]) b=
      if CountsIn js x.request b then instants js accepted b++[x.now] else instants js accepted b := by
  unfold instants
  by_cases hx : CountsIn js x.request b <;> simp [hx]

theorem instants_sorted (h : accepted.Pairwise fun a b => a.now≤b.now) (b : Bucket) :
    (instants js accepted b).Pairwise (· ≤ ·) :=
  List.pairwise_map.mpr (h.sublist List.filter_sublist)

/-- Pruning drops what lies before the window. -/
theorem prune_eq (hits : List Int) (now windowMs : Int) :
    prune hits now windowMs=hits.dropWhile fun t => decide (t<now-windowMs) := by
  unfold prune
  congr 1
  funext t
  rw [← decide_not]
  exact decide_eq_decide.mpr (by omega)

theorem HoldsAccepted.later (h : HoldsAccepted js now l accepted) {now' : Int} (hle : now≤now') :
    HoldsAccepted js now' l accepted :=
  ⟨h.sorted,fun a ha => (h.past a ha).trans hle,fun b =>
    (h.trimmed b).mono (Int.sub_le_sub_right hle b.limit.windowMs)⟩

/-- A pruned bucket holds the accepted submissions of its window. -/
theorem HoldsAccepted.prune_eq_since (h : HoldsAccepted js now l accepted) (b : Bucket) :
    prune (l.hits b) now b.limit.windowMs=
      since (now-b.limit.windowMs) (instants js accepted b) := by
  have hsorted := (h.trimmed b).sorted (instants_sorted h.sorted b)
  rw [prune_eq,dropWhile_eq_since hsorted]
  exact (h.trimmed b).since_eq (le_refl _)

/-- The count a limiter compares is that of the accepted submissions. -/
theorem HoldsAccepted.hasRoom_iff (h : HoldsAccepted js now l accepted) (b : Bucket) :
    l.HasRoom b now ↔ acceptedIn js accepted b now<b.limit.max := by
  have hcount : (prune (l.hits b) now b.limit.windowMs).length=acceptedIn js accepted b now := by
    rw [h.prune_eq_since]
    unfold since instants acceptedIn
    rw [List.filter_map,List.length_map,List.filter_filter,← List.countP_eq_length_filter]
    refine List.countP_congr fun a ha => ?_
    have hle := h.past a ha
    simp [hle,and_comm]
  unfold Limiter.HasRoom
  rw [hcount]

/-- A window starts no later than it ends. -/
theorem window_start_le (b : Bucket) (now : Int) : now-b.limit.windowMs≤now := by
  have hwindow : 0≤b.limit.windowMs := by
    cases b <;> simp [Bucket.limit,globalLimit,perIp,perEmail]
  omega

/-- Where the buckets hold what was accepted, every decision is the windows'. -/
theorem HoldsAccepted.post_ok_iff (h : HoldsAccepted js now l accepted) (r : ContactRequest) :
    (post js l r now).1=.ok ↔
      ∀ b,CountsIn js r b → acceptedIn js accepted b now<b.limit.max := by
  rw [ContactLimits.post_ok_iff,h.hasRoom_iff,h.hasRoom_iff,h.hasRoom_iff]
  constructor
  · rintro ⟨hglobal,hip,hemail⟩ b (rfl|rfl|rfl)
    · exact hglobal
    · exact hip
    · exact hemail
  · exact fun hall => ⟨hall _ (.inl rfl),hall _ (.inr (.inl rfl)),hall _ (.inr (.inr rfl))⟩

/-- There the law holds of a submission exactly if no limiter refuses it after
an earlier one recorded it. -/
theorem HoldsAccepted.fair_iff (h : HoldsAccepted js x.now d.limiter d.accepted) :
    Fair js d x ↔ PassesTogether js d x := by
  constructor
  · intro hfair hroom
    by_contra hother
    have hrefused : (post js d.limiter x.request x.now).1≠.ok := fun hok =>
      hother (ContactLimits.post_ok_iff.mp hok).2
    have hunchanged := hfair.refused_unchanged hrefused .global
    have hnew : since (x.now-Bucket.global.limit.windowMs) [x.now]=[x.now] :=
      since_eq_self fun t ht => List.mem_singleton.mp ht ▸ window_start_le .global x.now
    -- The refused submission is one more instant in the first window.
    have hkept : since (x.now-Bucket.global.limit.windowMs)
        (prune d.limiter.globalHits x.now globalLimit.windowMs)=
          since (x.now-Bucket.global.limit.windowMs) (d.limiter.hits .global) := by
      rw [prune_eq]
      have htrimmed := (h.trimmed .global).dropWhile
      exact (htrimmed.since_eq (le_refl _)).trans ((h.trimmed .global).since_eq (le_refl _)).symm
    rw [post_global_hits hroom,since_append,hnew,hkept] at hunchanged
    have hlength := congrArg List.length hunchanged
    simp at hlength
  · intro htogether
    refine ⟨h.post_ok_iff x.request,fun hrefused b => ?_⟩
    have hfull : ¬d.limiter.HasRoom .global x.now := fun hroom =>
      hrefused (ContactLimits.post_ok_iff.mpr ⟨hroom,htogether hroom⟩)
    rw [post_full_hits hfull]
    split
    · rw [prune_eq]
      have htrimmed := (h.trimmed b).dropWhile
      exact (htrimmed.since_eq (le_refl _)).trans ((h.trimmed b).since_eq (le_refl _)).symm
    · rfl

/-- Such a submission keeps the buckets to what was accepted. -/
theorem HoldsAccepted.submit (h : HoldsAccepted js d.clock d.limiter d.accepted)
    (hs : submit js d x=some d') (htogether : PassesTogether js d x) :
    HoldsAccepted js d'.clock d'.limiter d'.accepted := by
  unfold ContactLimits.submit at hs
  dsimp only at hs
  split at hs
  · rename_i hclock
    cases hs
    have hnow := h.later hclock
    by_cases hok : (post js d.limiter x.request x.now).1=.ok
    · dsimp only
      rw [if_pos hok]
      refine ⟨List.pairwise_append.mpr ⟨hnow.sorted,List.pairwise_singleton _ _,fun a ha b hb =>
        List.mem_singleton.mp hb ▸ hnow.past a ha⟩,fun a ha => ?_,fun b => ?_⟩
      · rcases List.mem_append.mp ha with hold|hnew
        · exact hnow.past a hold
        · exact List.mem_singleton.mp hnew ▸ le_refl x.now
      · rw [post_ok_hits hok,instants_concat,prune_eq]
        split
        · exact (hnow.trimmed b).dropWhile.concat x.now
        · exact hnow.trimmed b
    · have hfull : ¬d.limiter.HasRoom .global x.now := fun hroom =>
        hok (ContactLimits.post_ok_iff.mpr ⟨hroom,htogether hroom⟩)
      dsimp only
      rw [if_neg hok]
      refine ⟨hnow.sorted,hnow.past,fun b => ?_⟩
      rw [post_full_hits hfull,prune_eq]
      split
      · exact (hnow.trimmed b).dropWhile
      · exact hnow.trimmed b
  · cases hs

/-- For every history of submissions with a clock that does not go back: the law
holds of every one of them if and only if none of them is let pass by the first
limiter and then refused by one of the other two. -/
theorem fair_iff_passesTogether (js : StringMethods) (clock : Int) (xs : List Submission)
    (d : Desk) :
    Run (guarded (ofPartial (submit js)) (Fair js)) {clock := clock} xs d ↔
      Run (guarded (ofPartial (submit js)) (PassesTogether js)) {clock := clock} xs d := by
  have hstart : HoldsAccepted js clock {} [] :=
    ⟨.nil,fun a ha => absurd ha List.not_mem_nil,fun b => by cases b <;> exact .refl _ _⟩
  have hclock : ∀ {d d' : Desk} {x : Submission},submit js d x=some d' → d.clock≤x.now := by
    intro d d' x hs
    unfold submit at hs
    dsimp only at hs
    split at hs
    · assumption
    · cases hs
  have hagree : ∀ d x d',HoldsAccepted js d.clock d.limiter d.accepted →
      ofPartial (submit js) d x d' → (Fair js d x ↔ PassesTogether js d x) :=
    fun d x d' h hs => (h.later (hclock hs)).fair_iff
  exact Run.guarded_congr_of_invariant (I:=fun d => HoldsAccepted js d.clock d.limiter d.accepted)
    hstart hagree fun d x d' h hs hfair => h.submit hs ((hagree d x d' h hs).mp hfair)

/-- Three accepted submissions of one email, five refused ones of it from another
address, and that address is shut out with none of its own accepted. -/
theorem refused_submissions_count :
    ¬∀ (js : StringMethods) (clock : Int) (xs : List Submission) (d : Desk) (x : Submission),
      Run (ofPartial (submit js)) {clock := clock} xs d → d.clock≤x.now → Fair js d x := by
  intro h
  let js : StringMethods := ⟨fun s => s,fun s => s⟩
  let sent (ip email : String) (now : Int) : Submission :=
    ⟨{cfConnectingIp := some ip,email := email},now⟩
  let xs := [sent "a" "e@x.in" 1,sent "b" "e@x.in" 2,sent "c" "e@x.in" 3,sent "v" "e@x.in" 4,
    sent "v" "e@x.in" 5,sent "v" "e@x.in" 6,sent "v" "e@x.in" 7,sent "v" "e@x.in" 8]
  let d := (xs.foldlM (submit js) {clock := 0}).getD {clock := 0}
  have hsome : xs.foldlM (submit js) {clock := 0}=some d := by
    have hran : (xs.foldlM (submit js) {clock := 0}).isSome=true := by decide +kernel
    obtain ⟨d₀,hd₀⟩ := Option.isSome_iff_exists.mp hran
    change _=some ((xs.foldlM (submit js) {clock := 0}).getD {clock := 0})
    rw [hd₀]
    rfl
  have hfair := h js 0 xs d (sent "v" "f@x.in" 9) (run_of_foldlM hsome) (by decide +kernel)
  have hrefused : (post js d.limiter (sent "v" "f@x.in" 9).request 9).1≠.ok := by decide +kernel
  refine hrefused (hfair.accepted_iff.mpr fun b hb => ?_)
  rcases hb with rfl|rfl|rfl <;> decide +kernel

end Voyagent.ContactLimits
