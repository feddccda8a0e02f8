import Mathlib.Data.Nat.Count
import Voyagent.TallyResponses

/-!
# Posting vouchers to Tally

The client posts an envelope until an attempt succeeds, fails for good or no
retry is left; a call of the driver posts one envelope. What each attempt does
to the books and to the connection is arbitrary.
-/

namespace Voyagent.TallyPosting

open FallibleResults TallyVouchers TallyResponses

/-! ## The network -/

/-- How an attempt ends for the client. -/
inductive Outcome where
  /-- `httpx.TimeoutException`. -/
  | timeout
  /-- Another `httpx.HTTPError`. -/
  | httpError (message : String)
  /-- Any other exception, in the attempt or the pause before the next one. -/
  | raised (message : String)
  | response (status : Nat) (content : List Char)

/-- One attempt: whether Tally applies the import, and what the client sees. -/
structure Exchange where
  applied : Bool
  outcome : Outcome

/-- The settings of the driver; the timeout is given as its text. -/
structure TallyConfig where
  companyName : String
  timeoutSeconds : String := "30.0"
  maxRetries : Nat := 2

/-! ## The client -/

/-- What the client makes of an attempt. -/
inductive Verdict where
  | done (body : List Char)
  /-- An error that is raised once no retry is left. -/
  | again (error : Failure)
  | failed (error : Failure)

def judge (cfg : TallyConfig) : Outcome → Verdict
  | .timeout =>
    .again (.of .upstreamTimeout ("Timeout posting envelope after "++cfg.timeoutSeconds++"s."))
  | .httpError message =>
    .again (.of .transient ("Network error posting to Tally gateway: "++message))
  | .raised message => .failed (.other message)
  | .response status content =>
    if status<400 then .done content
    else
      let error := mapTallyError status content none
      if error.kind=.transient then .again (.driver error) else .failed (.driver error)

/-- What a call came to and how many attempts it made. -/
structure Posted (α : Type) where
  result : Except Failure α
  attempts : Nat

/-- `_post_with_retries`, when attempts were made before and retries are left. -/
def postWithRetries (cfg : TallyConfig) (net : Nat → Exchange) :
    Nat → Nat → Posted (List Char)
  | left,attempts =>
    match judge cfg (net attempts).outcome,left with
    | .done body,_ => ⟨.ok body,attempts+1⟩
    | .failed error,_ => ⟨.error error,attempts+1⟩
    | .again error,0 => ⟨.error error,attempts+1⟩
    | .again _,left+1 => postWithRetries cfg net left (attempts+1)

/-- `post_envelope`. -/
def postEnvelope (cfg : TallyConfig) (net : Nat → Exchange) : Posted (List Char) :=
  postWithRetries cfg net cfg.maxRetries 0

/-! ## The driver -/

/-- A driver with its resolver and the voucher numbers it has seen. -/
structure TallyDriver where
  config : TallyConfig
  ledgerNameResolver : Option (String → Resolved)
  recentVoucherIds : List (String × String) := []

/-- What a call of the driver did: its answer, the driver after it, the envelope
it posted and the attempts it made. -/
structure Call where
  result : Except Failure String
  driver : TallyDriver
  envelope : Option Element := none
  attempts : Nat := 0

/-- `_require_resolver`. -/
def requireResolver (d : TallyDriver) : Except Failure (String → Resolved) :=
  match d.ledgerNameResolver with
  | some resolver => .ok resolver
  | none =>
    .error (.of .permanent ("TallyDriver requires a ledger_name_resolver at construction "++
      "time for any posting method. None was provided."))

/-- The acknowledgement of a body, if anything was created or altered. -/
def acknowledged (xml : XmlLibrary) (body : List Char) : Except Failure TallyVoucherAck := do
  let ack ← parseVoucherCreateResponse xml body
  if ack.created<1 ∧ ack.altered<1 then throw (.driver (mapTallyError 200 body none))
  return ack

/-- What both posting methods do with their envelope; `newId` is drawn at the end. -/
def postVoucher (xml : XmlLibrary) (net : Nat → Exchange) (d : TallyDriver) (newId : String)
    (envelope : Except Failure Element) : Call :=
  match envelope with
  | .error e => ⟨.error e,d,none,0⟩
  | .ok root =>
    match xml.tostring root with
    | .error message => ⟨.error (.other message),d,none,0⟩
    | .ok _ =>
      let posted := postEnvelope d.config net
      match posted.result.bind (acknowledged xml) with
      | .error e => ⟨.error e,d,some root,posted.attempts⟩
      | .ok ack =>
        let seen := (ack.lastVchId.map fun id => (newId,id)).toList
        ⟨.ok newId,{d with recentVoucherIds := d.recentVoucherIds++seen},some root,posted.attempts⟩

/-- `post_journal`. -/
def postJournal (xml : XmlLibrary) (net : Nat → Exchange) (d : TallyDriver) (newId : String)
    (entry : JournalEntry) : Call :=
  postVoucher xml net d newId do
    let resolver ← requireResolver d
    journalEntryToTallyXmlBody entry d.config.companyName (some resolver)

/-- `create_invoice`. -/
def createInvoice (xml : XmlLibrary) (net : Nat → Exchange) (d : TallyDriver) (newId : String)
    (invoice : Invoice) : Call :=
  postVoucher xml net d newId do
    let resolver ← requireResolver d
    invoiceToTallySalesVoucher invoice d.config.companyName (some resolver)

/-- The vouchers a call causes Tally to create: those of its envelope, for each
attempt Tally applied. -/
def Call.created (call : Call) (net : Nat → Exchange) : Nat :=
  match call.envelope with
  | none => 0
  | some root => Nat.count (fun i => (net i).applied=true) call.attempts*root.creates

/-! ## The attempts that are made -/

/-- The client posts again after the attempt, if a retry is left. -/
def Outcome.Retried : Outcome → Prop
  | .timeout | .httpError _ => True
  | .raised _ => False
  | .response status _ => status=503 ∨ status=504

theorem judge_again_iff (cfg : TallyConfig) {o : Outcome} :
    (∃ error,judge cfg o=.again error) ↔ o.Retried := by
  unfold judge Outcome.Retried
  cases o with
  | timeout => exact iff_of_true ⟨_,rfl⟩ trivial
  | httpError message => exact iff_of_true ⟨_,rfl⟩ trivial
  | raised message => exact iff_of_false (fun ⟨_,h⟩ => (by cases h)) id
  | response status content =>
    dsimp only
    by_cases hok : status<400
    · rw [if_pos hok]
      exact iff_of_false (fun ⟨_,h⟩ => (by cases h)) (by omega)
    · rw [if_neg hok,← mapTallyError_transient content (Nat.le_of_not_lt hok)]
      constructor
      · rintro ⟨error,h⟩
        by_contra hkind
        rw [if_neg hkind] at h
        cases h
      · intro hkind
        exact ⟨_,if_pos hkind⟩

variable {a : Nat} {cfg : TallyConfig} {net : Nat → Exchange}

theorem attempts_stop (left : Nat) (h : ¬(net a).outcome.Retried) :
    (postWithRetries cfg net left a).attempts=a+1 := by
  unfold postWithRetries
  cases hjudge : judge cfg (net a).outcome with
  | done body => rfl
  | failed error => rfl
  | again error => exact absurd ((judge_again_iff cfg).mp ⟨error,hjudge⟩) h

theorem attempts_last (cfg : TallyConfig) (net : Nat → Exchange) (a : Nat) :
    (postWithRetries cfg net 0 a).attempts=a+1 := by
  unfold postWithRetries
  cases judge cfg (net a).outcome <;> rfl

theorem postWithRetries_again (left : Nat) (h : (net a).outcome.Retried) :
    postWithRetries cfg net (left+1) a=postWithRetries cfg net left (a+1) := by
  obtain ⟨error,hjudge⟩ := (judge_again_iff cfg).mpr h
  conv_lhs => unfold postWithRetries
  rw [hjudge]

/-- The attempt at hand is made. -/
theorem lt_attempts (cfg : TallyConfig) (net : Nat → Exchange) (left a : Nat) :
    a<(postWithRetries cfg net left a).attempts := by
  induction left generalizing a with
  | zero =>
    rw [attempts_last]
    exact Nat.lt_succ_self a
  | succ left ih =>
    by_cases hretried : (net a).outcome.Retried
    · rw [postWithRetries_again left hretried]
      exact Nat.lt_of_succ_lt (ih (a+1))
    · rw [attempts_stop _ hretried]
      exact Nat.lt_succ_self a

/-- An attempt is made if a retry was left for it and every one before was retried. -/
theorem lt_attempts_iff {left j : Nat} (ha : a≤j) :
    j<(postWithRetries cfg net left a).attempts ↔
      j≤a+left ∧ ∀ k,a≤k → k<j → (net k).outcome.Retried := by
  induction left generalizing a with
  | zero =>
    rw [attempts_last]
    constructor
    · intro hj
      exact ⟨Nat.le_of_lt_succ hj,fun k hk hkj => by omega⟩
    · rintro ⟨hj,-⟩
      exact Nat.lt_succ_of_le hj
  | succ left ih =>
    by_cases hretried : (net a).outcome.Retried
    · rw [postWithRetries_again left hretried]
      rcases Nat.eq_or_lt_of_le ha with rfl|hlt
      · have hmade := Nat.lt_of_succ_lt (lt_attempts cfg net left (a+1))
        exact iff_of_true hmade ⟨by omega,fun k hk hkj => by omega⟩
      · rw [ih hlt]
        constructor
        · rintro ⟨hj,hall⟩
          refine ⟨by omega,fun k hk hkj => ?_⟩
          rcases Nat.eq_or_lt_of_le hk with rfl|hk
          · exact hretried
          · exact hall k hk hkj
        · rintro ⟨hj,hall⟩
          exact ⟨by omega,fun k hk hkj => hall k (by omega) hkj⟩
    · rw [attempts_stop _ hretried]
      constructor
      · intro hj
        exact ⟨by omega,fun k hk hkj => by omega⟩
      · rintro ⟨-,hall⟩
        by_contra hj
        exact hretried (hall a (Nat.le_refl a) (by omega))

/-- At most one number below a bound has a property. -/
theorem count_le_one_iff (p : Nat → Prop) [DecidablePred p] (n : Nat) :
    Nat.count p n≤1 ↔ ∀ i j,i<j → j<n → p i → ¬p j := by
  induction n with
  | zero => exact iff_of_true (Nat.zero_le 1) fun i j _ hj => absurd hj (Nat.not_lt_zero j)
  | succ n ih =>
    rw [Nat.count_succ]
    by_cases hn : p n
    · rw [if_pos hn]
      have hnone : Nat.count p n+1≤1 ↔ ∀ i<n,¬p i := by
        rw [← Nat.count_iff_forall_not]
        omega
      rw [hnone]
      constructor
      · intro h i j hij hj hi
        exact absurd hi (h i (by omega))
      · intro h i hi hpi
        exact h i n hi (Nat.lt_succ_self n) hpi hn
    · rw [if_neg hn,Nat.add_zero,ih]
      constructor
      · intro h i j hij hj hi
        rcases Nat.lt_succ_iff_lt_or_eq.mp hj with hj|rfl
        · exact h i j hij hj hi
        · exact hn
      · intro h i j hij hj
        exact h i j hij (Nat.lt_succ_of_lt hj)

/-! ## The vouchers of a call -/

/-- A call of one of the posting methods. -/
inductive Voucher where
  | journal (entry : JournalEntry)
  | invoice (invoice : Invoice)

def post (xml : XmlLibrary) (net : Nat → Exchange) (d : TallyDriver) (newId : String) :
    Voucher → Call
  | .journal entry => postJournal xml net d newId entry
  | .invoice invoice => createInvoice xml net d newId invoice

/-- The envelope of a call. -/
def envelopeOf (d : TallyDriver) (v : Voucher) : Except Failure Element := do
  let resolver ← requireResolver d
  match v with
  | .journal entry => journalEntryToTallyXmlBody entry d.config.companyName (some resolver)
  | .invoice invoice => invoiceToTallySalesVoucher invoice d.config.companyName (some resolver)

/-- The envelope can be built and written. -/
def Sends (xml : XmlLibrary) (d : TallyDriver) (v : Voucher) : Prop :=
  ∃ root body,envelopeOf d v=.ok root ∧ xml.tostring root=.ok body

/-- No attempt within the retries is applied after another was, every one before
it having ended in a way the client retries. -/
def AppliedOnce (maxRetries : Nat) (net : Nat → Exchange) : Prop :=
  ∀ i j,i<j → j≤ maxRetries → (∀ k<j,(net k).outcome.Retried) → (net i).applied=true →
    ¬(net j).applied=true

theorem post_eq (xml : XmlLibrary) (net : Nat → Exchange) (d : TallyDriver) (newId : String)
    (v : Voucher) : post xml net d newId v=postVoucher xml net d newId (envelopeOf d v) := by
  cases v <;> rfl

variable {d : TallyDriver} {v : Voucher}

theorem creates_envelopeOf {root : Element} (h : envelopeOf d v=.ok root) : root.creates=1 := by
  obtain ⟨resolver,-,h⟩ := bind_ok.mp h
  cases v with
  | journal entry =>
    obtain ⟨entries,-,rfl⟩ := bind_pure_ok.mp h
    exact creates_importEnvelope ..
  | invoice invoice =>
    obtain ⟨party,-,h⟩ := bind_ok.mp h
    obtain ⟨lines,-,rfl⟩ := bind_pure_ok.mp h
    exact creates_importEnvelope ..

variable {newId : String} {xml : XmlLibrary}

/-- A call that sends its envelope creates a voucher for each attempt that was applied. -/
theorem created_sent (h : Sends xml d v) : (post xml net d newId v).created net=
      Nat.count (fun i => (net i).applied=true) (postEnvelope d.config net).attempts := by
  obtain ⟨root,body,hroot,hbody⟩ := h
  have hone := creates_envelopeOf hroot
  rw [post_eq]
  unfold postVoucher
  simp only [hroot,hbody]
  split
  · exact (congrArg _ hone).trans (Nat.mul_one _)
  · exact (congrArg _ hone).trans (Nat.mul_one _)

theorem created_unsent (h : ¬Sends xml d v) : (post xml net d newId v).created net=0 := by
  rw [post_eq]
  unfold postVoucher
  cases hroot : envelopeOf d v with
  | error e => rfl
  | ok root =>
    cases hbody : xml.tostring root with
    | error message =>
      simp only [hbody]
      rfl
    | ok body => exact absurd ⟨root,body,hroot,hbody⟩ h

/-- Whatever the network and Tally do, a call creates at most one voucher if and
only if no envelope it sends is applied by two of its attempts. -/
theorem created_at_most_once_iff (xml : XmlLibrary) (net : Nat → Exchange) (d : TallyDriver)
    (newId : String) (v : Voucher) :
    (post xml net d newId v).created net≤1 ↔
      (Sends xml d v → AppliedOnce d.config.maxRetries net) := by
  by_cases hsends : Sends xml d v
  · rw [created_sent hsends,count_le_one_iff]
    have hmade : ∀ j,j<(postEnvelope d.config net).attempts ↔
        j≤d.config.maxRetries ∧ ∀ k<j,(net k).outcome.Retried := by
      intro j
      unfold postEnvelope
      rw [lt_attempts_iff (Nat.zero_le j),Nat.zero_add]
      exact and_congr_right fun _ => ⟨fun h k => h k (Nat.zero_le k),fun h k _ => h k⟩
    constructor
    · intro h _ i j hij hj hretried
      exact h i j hij ((hmade j).mpr ⟨hj,hretried⟩)
    · intro h i j hij hj
      obtain ⟨hj,hretried⟩ := (hmade j).mp hj
      exact h hsends i j hij hj hretried
  · rw [created_unsent hsends]
    exact iff_of_true (Nat.zero_le 1) fun h => absurd h hsends

/-- An amount in rupees. -/
def rupees (amount : Decimals.Decimal) : TicketReconciliation.Money := ⟨amount,⟨"INR",rfl⟩⟩

/-- A cash sale, posted to two ledgers. -/
def cashSale : JournalEntry where
  entryDate := ⟨2026,11,2,by decide⟩
  narration := "Counter sale"
  lines := [⟨"01920000-0000-7000-8000-000000000001",.debit (rupees ⟨50000,-2⟩)⟩,
    ⟨"01920000-0000-7000-8000-000000000002",.credit (rupees ⟨50000,-2⟩)⟩]

def deskDriver : TallyDriver where
  config := {companyName := "Acme Travels"}
  ledgerNameResolver := some fun account =>
    .name (if account="01920000-0000-7000-8000-000000000001" then "Cash" else "Sales")

/-- Every answer is the acknowledgement of one voucher. -/
def deskXml : XmlLibrary where
  tostring := fun _ => .ok "<ENVELOPE/>".toList
  fromstring := fun _ => .ok (some (holding "RESPONSE"
    [leaf "CREATED" "1",leaf "ALTERED" "0",leaf "LASTVCHID" "4711"]))

/-- Tally applies what it is sent, but its first answer comes too late. -/
def lateAnswer : Nat → Exchange
  | 0 => ⟨true,.timeout⟩
  | _+1 => ⟨true,.response 200 "<RESPONSE><CREATED>1</CREATED></RESPONSE>".toList⟩

/-- The first attempt is applied and times out, the second one is applied as well:
the call succeeds and the journal is in the books twice. -/
theorem timedOut_journal_posted_twice :
    let id := "01920000-0000-7000-8000-000000000009"
    let call := post deskXml lateAnswer deskDriver id (.journal cashSale)
    call.result.toOption=some id ∧ call.created lateAnswer=2 ∧ ¬call.created lateAnswer≤1 := by
  intro id call
  have hresult : call.result.toOption=some id := by decide +kernel
  have hcreated : call.created lateAnswer=2 := by decide +kernel
  exact ⟨hresult,hcreated,fun h => by omega⟩

end Voyagent.TallyPosting
