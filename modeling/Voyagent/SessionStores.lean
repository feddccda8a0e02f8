import Voyagent.CanonicalFields
import Voyagent.ChatSends
import Voyagent.GroupedSums

/-!
# The session stores, call by call

Both implementations of the `SessionStore` protocol with everything a session
carries, its times included: one keeps the sessions themselves, the other rows
of three tables that refer to one another and to tenants and users. Throughout
a call the clock reads one time.
-/

namespace Voyagent.SessionStores

open RuntimeValues KeyedMap SessionTranscript ToolInvocation Sessions ApprovalStores ChatSends
open ApprovalStores.PostgresStore (entityIdToUuid)
open GroupedSums (group group_snoc sum_lengths)

/-- `Session`, with its times. -/
structure DatedSession extends Session where
  createdAt : Time
  updatedAt : Time

/-- A call of the protocol. -/
inductive StoreCall where
  | get (sessionId : EntityId)
  | put (session : DatedSession)
  | appendMessage (sessionId : EntityId) (msg : Message)
  | addApproval (sessionId : EntityId) (ap : PendingApproval) (ttl : Option Int)
  | resolveApproval (sessionId : EntityId) (approvalId : String) (granted : Bool)
      (actorTenantId : Option EntityId)
  | expireStaleApprovals (sessionId : Option EntityId) (now : Option Time)

/-- What a call returns. -/
inductive Answer where
  | done
  | session (found : Option DatedSession)
  | count (flipped : Nat)

/-- Pending and past the deadline. -/
def due (ap : PendingApproval) (ts : Time) : Bool := decide (ap.status=.pending ∧ ap.Overdue ts)

/-- An approval that is not due stays as it is in a sweep. -/
theorem expiredCopy_of_not_due {ap : PendingApproval} {ts : Time} (h : due ap ts=false) :
    expiredCopy ap ts=ap := if_neg (of_decide_eq_false h)

/-! Messages quote with the given `repr`. -/

variable (repr : String → String)

/-! ## In memory -/

/-- `InMemorySessionStore`, with the sessions' times. -/
abbrev SessionMap : Type := Table EntityId DatedSession

namespace SessionMap

/-- `append_message`. -/
def appendMessage (store : SessionMap) (sessionId : EntityId) (msg : Message) (clock : Time) :
    Except Exn SessionMap :=
  match get store sessionId with
  | none => .error (keyError (repr sessionId))
  | some sess =>
    .ok (set store sessionId
      {sess with messageHistory := sess.messageHistory++[msg],updatedAt := clock})

/-- `add_approval`. -/
def addApproval (store : SessionMap) (sessionId : EntityId) (ap : PendingApproval)
    (ttl : Option Int) (clock : Time) : Except Exn SessionMap :=
  match get store sessionId with
  | none => .error (keyError (repr sessionId))
  | some sess =>
    let updated := set sess.pendingApprovals ap.id (stamped ap ttl)
    .ok (set store sessionId {sess with pendingApprovals := updated,updatedAt := clock})

/-- `resolve_approval`. -/
def resolveApproval (store : SessionMap) (sessionId : EntityId) (approvalId : String)
    (granted : Bool) (actorTenantId : Option EntityId) (clock : Time) : Except Exn SessionMap :=
  match get store sessionId with
  | none => .error (keyError (repr sessionId))
  | some sess =>
    match actorTenantId.filter fun actor => decide (sess.tenantId≠actor) with
    | some actor => .error (crossTenantApprovalError repr actor sess.tenantId)
    | none =>
      match get sess.pendingApprovals approvalId with
      | none => .error (noPendingApproval repr approvalId sessionId)
      | some existing =>
        let updated := set sess.pendingApprovals approvalId (resolvedCopy existing granted clock)
        .ok (set store sessionId {sess with pendingApprovals := updated,updatedAt := clock})

/-- Whether a sweep goes over a session: over the named one when it is stored,
else over all. -/
def targeted (store : SessionMap) (sessionId : Option EntityId) (sid : EntityId) : Bool :=
  match sessionId.filter fun named => (get store named).isSome with
  | some named => decide (sid=named)
  | none => true

/-- `touched`: the sweep flips an approval of the session. -/
def touched (sess : DatedSession) (ts : Time) : Bool :=
  sess.pendingApprovals.any fun e => due e.2 ts

/-- The approvals of a session after a sweep. -/
def sweptApprovals (sess : DatedSession) (ts : Time) : Table String PendingApproval :=
  mapValues (fun _ ap => expiredCopy ap ts) sess.pendingApprovals

/-- One session in a sweep. -/
def sweepSession (sess : DatedSession) (ts clock : Time) : DatedSession :=
  if touched sess ts then
    {sess with pendingApprovals := sweptApprovals sess ts,updatedAt := clock}
  else sess

/-- A sweep that flips nothing leaves the approvals as they are. -/
theorem sweptApprovals_of_untouched {sess : DatedSession} {ts : Time}
    (h : ¬touched sess ts=true) : sweptApprovals sess ts=sess.pendingApprovals := by
  have hkept : ∀ e∈sess.pendingApprovals,(e.1,expiredCopy e.2 ts)=id e := by
    intro e he
    have hdue : due e.2 ts=false :=
      Bool.eq_false_iff.mpr fun hdue => h (List.any_eq_true.mpr ⟨e,he,hdue⟩)
    rw [expiredCopy_of_not_due hdue]
    rfl
  exact (List.map_congr_left hkept).trans (List.map_id _)

/-- `flipped`, for one session. -/
def flipped (sess : DatedSession) (ts : Time) : Nat :=
  (sess.pendingApprovals.filter fun e => due e.2 ts).length

/-- `expire_stale_approvals`. -/
def expireStaleApprovals (store : SessionMap) (sessionId : Option EntityId) (ts clock : Time) :
    Nat × SessionMap :=
  let targets := store.filter fun e => targeted store sessionId e.1
  ((targets.map fun e => flipped e.2 ts).sum,
    mapValues (fun sid sess =>
      if targeted store sessionId sid then sweepSession sess ts clock else sess) store)

/-- One call: what it returns and the store it leaves. -/
def serve (store : SessionMap) (clock : Time) : StoreCall → Except Exn (Answer × SessionMap)
  | .get sessionId => .ok (.session (get store sessionId),store)
  | .put session => .ok (.done,set store session.id session)
  | .appendMessage sessionId msg => (appendMessage repr store sessionId msg clock).map (.done,·)
  | .addApproval sessionId ap ttl => (addApproval repr store sessionId ap ttl clock).map (.done,·)
  | .resolveApproval sessionId approvalId granted actor =>
    (resolveApproval repr store sessionId approvalId granted actor clock).map (.done,·)
  | .expireStaleApprovals sessionId now =>
    let swept := expireStaleApprovals store sessionId (now.getD clock) clock
    .ok (.count swept.1,swept.2)

end SessionMap

/-! ## In Postgres -/

/-- A row of `sessions`, with its times. -/
structure DatedRow (υ : Type) extends SessionRow υ where
  createdAt : Time
  updatedAt : Time

/-- The tables the store reads and writes, and those its rows refer to. -/
structure StoreTables (υ : Type) where
  tenants : List υ
  users : List υ
  sessions : Table υ (DatedRow υ) := []
  messages : List (MessageRow υ) := []
  pendingApprovals : Table String (PendingApprovalRow υ) := []

/-- What the schema does not let in. -/
inductive Violation where
  /-- A reference to a row that is not there. -/
  | foreignKey (column : String)
  /-- A text longer than its column. -/
  | tooLong (column : String)
  /-- A number outside the range of its column. -/
  | outOfRange (column : String)

/-- The first text of an approval that its column is too short for. -/
def overlong (ap : PendingApproval) : Option String :=
  if 128<ap.id.length then some "id"
  else if 128<ap.toolName.length then some "tool_name"
  else if 1024<ap.summary.length then some "summary"
  else if 128<ap.turnId.length then some "turn_id"
  else none

/-- The greatest value of an `Integer` column. -/
def maxInteger : Nat := 2147483647

namespace StoreTables

variable {υ : Type} [DecidableEq υ]

/-- The tables as a session's content is read from them. -/
def chat (t : StoreTables υ) : ChatTables υ :=
  {sessions := mapValues (fun _ row => row.toSessionRow) t.sessions
   messages := t.messages
   pendingApprovals := t.pendingApprovals}

/-- The tables as approvals are changed in them. -/
def approvalStore (t : StoreTables υ) : PostgresStore υ :=
  ⟨mapValues (fun _ row => row.tenantId) t.sessions,t.pendingApprovals⟩

/-- `update(SessionRow).where(SessionRow.id == sid).values(updated_at=_utcnow())`. -/
def touch (t : StoreTables υ) (sid : υ) (clock : Time) : StoreTables υ :=
  {t with sessions := mapValues (fun u row =>
    if u=sid then {row with updatedAt := clock} else row) t.sessions}

/-- The rows of `messages` with a session id. -/
def messageRows (t : StoreTables υ) (sid : υ) : List (MessageRow υ) :=
  group MessageRow.sessionId t.messages sid

/-- `next_seq`. -/
def nextSequence (t : StoreTables υ) (sid : υ) : Nat :=
  match ((t.messageRows sid).map MessageRow.sequence).max? with
  | none => 0
  | some current => current+1

/-! Identifiers are read and shown by the `uuid` library; the driver raises for
what the schema refuses. -/

variable (parse : EntityId → Option υ) (render : υ → EntityId) (refuse : Violation → Exn)

/-- The session built from the rows of an id. -/
def read (t : StoreTables υ) (sid : υ) : Option DatedSession :=
  (get t.sessions sid).map fun row =>
    {id := render sid
     tenantId := render row.tenantId
     actorId := (row.actorId.map render).getD (render sid)
     actorKind := row.actorKind
     messageHistory := t.chat.messagesOf sid
     pendingApprovals := t.chat.approvalsOf sid
     createdAt := row.createdAt
     updatedAt := row.updatedAt}

/-- `put`: messages and approvals are left alone, and so is the creation time
of a row that is there. -/
def put (t : StoreTables υ) (session : DatedSession) : Except Exn (StoreTables υ) :=
  match entityIdToUuid parse session.id,entityIdToUuid parse session.tenantId with
  | .error e,_ => .error e
  | .ok _,.error e => .error e
  | .ok sid,.ok tid =>
    let actor := parse session.actorId
    if tid∉t.tenants then .error (refuse (.foreignKey "tenant_id"))
    else if actor.any fun a => decide (a∉t.users) then .error (refuse (.foreignKey "actor_id"))
    else
      let createdAt := ((get t.sessions sid).map DatedRow.createdAt).getD session.createdAt
      .ok {t with
        sessions := set t.sessions sid
          ⟨⟨tid,actor,session.actorKind⟩,createdAt,session.updatedAt⟩}

/-- `append_message`. Every role fits its column. -/
def appendMessage (t : StoreTables υ) (sessionId : EntityId) (msg : Message) (clock : Time) :
    Except Exn (StoreTables υ) :=
  match entityIdToUuid parse sessionId with
  | .error e => .error e
  | .ok sid =>
    if maxInteger<t.nextSequence sid then .error (refuse (.outOfRange "sequence"))
    else if (get t.sessions sid).isNone then .error (refuse (.foreignKey "session_id"))
    else
      let row : MessageRow υ := ⟨sid,t.nextSequence sid,msg⟩
      .ok (touch {t with messages := t.messages++[row]} sid clock)

/-- `add_approval`. -/
def addApproval (t : StoreTables υ) (sessionId : EntityId) (ap : PendingApproval)
    (ttl : Option Int) (clock : Time) : Except Exn (StoreTables υ) :=
  match entityIdToUuid parse sessionId with
  | .error e => .error e
  | .ok sid =>
    match overlong ap with
    | some column => .error (refuse (.tooLong column))
    | none =>
      if (get t.pendingApprovals ap.id).isNone && (get t.sessions sid).isNone then
        .error (refuse (.foreignKey "session_id"))
      else
        (t.approvalStore.addApproval parse sessionId ap ttl).map fun after =>
          touch {t with pendingApprovals := after.pendingApprovals} sid clock

/-- `resolve_approval`. -/
def resolveApproval (t : StoreTables υ) (sessionId : EntityId) (approvalId : String)
    (granted : Bool) (actorTenantId : Option EntityId) (clock : Time) :
    Except Exn (StoreTables υ) :=
  match entityIdToUuid parse sessionId with
  | .error e => .error e
  | .ok sid =>
    (t.approvalStore.resolveApproval repr parse render sessionId approvalId granted actorTenantId
      clock).map fun after => touch {t with pendingApprovals := after.pendingApprovals} sid clock

/-- `rowcount` of a sweep. -/
def rowcount (t : StoreTables υ) (sessionId : Option EntityId) (ts : Time) : Nat :=
  (t.pendingApprovals.filter fun e =>
    due e.2.approval ts && sessionId.all fun named => decide (parse named=some e.2.sessionId)).length

/-- `expire_stale_approvals`. -/
def expireStaleApprovals (t : StoreTables υ) (sessionId : Option EntityId) (ts : Time) :
    Except Exn (Nat × StoreTables υ) :=
  (t.approvalStore.expireStaleApprovals parse sessionId ts).map fun after =>
    (t.rowcount parse sessionId ts,{t with pendingApprovals := after.pendingApprovals})

/-- One call: what it returns and the tables it leaves. -/
def serve (t : StoreTables υ) (clock : Time) : StoreCall → Except Exn (Answer × StoreTables υ)
  | .get sessionId =>
    (entityIdToUuid parse sessionId).map fun sid => (.session (t.read render sid),t)
  | .put session => (put parse refuse t session).map (.done,·)
  | .appendMessage sessionId msg => (appendMessage parse refuse t sessionId msg clock).map (.done,·)
  | .addApproval sessionId ap ttl => (addApproval parse refuse t sessionId ap ttl clock).map (.done,·)
  | .resolveApproval sessionId approvalId granted actor =>
    (resolveApproval repr parse render t sessionId approvalId granted actor clock).map (.done,·)
  | .expireStaleApprovals sessionId now =>
    (expireStaleApprovals parse t sessionId (now.getD clock)).map fun swept =>
      (.count swept.1,swept.2)

/-! ### What the tables hold -/

/-- Rows of approvals have their own keys, messages are numbered without gaps,
and every row belongs to a session that is there. -/
structure Sound (t : StoreTables υ) : Prop where
  keyed : (t.pendingApprovals.map Prod.fst).Nodup
  numbered : ∀ u,(t.messageRows u).map MessageRow.sequence=List.range (t.messageRows u).length
  messages_owned : ∀ m∈t.messages,(get t.sessions m.sessionId).isSome=true
  approvals_owned : ∀ e∈t.pendingApprovals,(get t.sessions e.2.sessionId).isSome=true

variable {parse render refuse} {t : StoreTables υ} {sid : υ} {clock : Time}

theorem nextSequence_eq (h : t.Sound) (sid : υ) :
    t.nextSequence sid=(t.messageRows sid).length := by
  have hmax : ∀ n,(List.range (n+1)).max?=some n := fun n =>
    List.max?_eq_some_iff.mpr ⟨List.mem_range.mpr n.lt_succ_self,fun b hb =>
      Nat.le_of_lt_succ (List.mem_range.mp hb)⟩
  unfold nextSequence
  rw [h.numbered]
  cases (t.messageRows sid).length with
  | zero => rfl
  | succ n => rw [hmax]

theorem messageRows_append (t : StoreTables υ) (row : MessageRow υ) (u : υ) :
    messageRows {t with messages := t.messages++[row]} u=
      if row.sessionId=u then t.messageRows u++[row] else t.messageRows u := group_snoc _ _ _ u

/-- A row with the next sequence of its session keeps the tables sound. -/
theorem Sound.append (h : t.Sound) {row : MessageRow υ}
    (hsession : (get t.sessions row.sessionId).isSome=true)
    (hnext : row.sequence=(t.messageRows row.sessionId).length) :
    Sound {t with messages := t.messages++[row]} := by
  refine ⟨h.keyed,fun u => ?_,?_,h.approvals_owned⟩
  · rw [messageRows_append]
    split
    · rename_i hu
      subst hu
      rw [List.map_append,h.numbered,List.length_append,List.map_singleton,
        List.length_singleton,List.range_succ,hnext]
    · exact h.numbered u
  · intro m hm
    rcases List.mem_append.mp hm with hm|hm
    · exact h.messages_owned m hm
    · rw [List.mem_singleton.mp hm]
      exact hsession

/-- Messages come back in the order they were stored. -/
theorem messagesOf_eq (h : t.Sound) (sid : υ) :
    t.chat.messagesOf sid=(t.messageRows sid).map MessageRow.message := by
  have hsorted : (t.messageRows sid).Pairwise fun m m' =>
      decide (m.sequence≤ m'.sequence)=true := by
    have hrange : ((t.messageRows sid).map MessageRow.sequence).Pairwise (·≤·) := by
      rw [h.numbered]
      exact List.pairwise_le_range
    exact (List.pairwise_map.mp hrange).imp decide_eq_true
  exact congrArg (List.map MessageRow.message) (List.mergeSort_of_pairwise hsorted)

theorem approvalsOf_eq (t : StoreTables υ) (sid : υ) :
    t.chat.approvalsOf sid=
      mapValues (fun _ row => row.approval)
        (t.pendingApprovals.filter fun e => decide (e.2.sessionId=sid)) := rfl

/-- A session's approvals have their own keys. -/
theorem nodup_approvalsOf (h : t.Sound) (sid : υ) :
    ((t.chat.approvalsOf sid).map Prod.fst).Nodup := by
  rw [approvalsOf_eq,keys_mapValues]
  exact h.keyed.sublist (List.filter_sublist.map _)

@[simp] theorem isSome_touch (t : StoreTables υ) (sid u : υ) (clock : Time) :
    (get (t.touch sid clock).sessions u).isSome=(get t.sessions u).isSome := by
  rw [touch,get_mapValues,Option.isSome_map]

theorem Sound.touch (h : t.Sound) (sid : υ) (clock : Time) : (t.touch sid clock).Sound where
  keyed := h.keyed
  numbered := h.numbered
  messages_owned := fun m hm => by
    rw [isSome_touch]
    exact h.messages_owned m hm
  approvals_owned := fun e he => by
    rw [isSome_touch]
    exact h.approvals_owned e he

/-- Touching a row changes when its session was updated. -/
theorem read_touch (t : StoreTables υ) (sid u : υ) (clock : Time) :
    (t.touch sid clock).read render u=
      (t.read render u).map fun s => if u=sid then {s with updatedAt := clock} else s := by
  unfold read
  rw [touch,get_mapValues,Option.map_map,Option.map_map]
  congr 1
  funext row
  by_cases h : u=sid
  · simp only [Function.comp_apply,if_pos h]
    rfl
  · simp only [Function.comp_apply,if_neg h]
    rfl

/-! ### What each operation changes -/

variable (render refuse)

/-- Sound tables with the same tenants and users that show these sessions. -/
structure Shows (t t' : StoreTables υ) (shown : υ → Option DatedSession) : Prop where
  sound : t'.Sound
  tenants : t'.tenants=t.tenants
  users : t'.users=t.users
  read : ∀ u,t'.read render u=shown u

/-- One session changed, the others as they were. -/
def changed (t : StoreTables υ) (sid : υ) (f : DatedSession → DatedSession) (u : υ) :
    Option DatedSession :=
  (t.read render u).map fun s => if u=sid then f s else s

/-- A change of a session's messages or approvals, then of its row. -/
theorem shows_touch {t' : StoreTables υ} {f : DatedSession → DatedSession}
    (h : Shows render t t' (changed render t sid f)) (clock : Time) :
    Shows render t (t'.touch sid clock)
      (changed render t sid fun s => {f s with updatedAt := clock}) where
  sound := h.sound.touch sid clock
  tenants := h.tenants
  users := h.users
  read := fun u => by
    rw [read_touch,h.read]
    unfold changed
    rw [Option.map_map]
    congr 1
    funext s
    by_cases hu : u=sid
    · simp only [Function.comp_apply,if_pos hu]
    · simp only [Function.comp_apply,if_neg hu]

theorem changed_eq {sess : DatedSession} (hsess : t.read render sid=some sess)
    (f : DatedSession → DatedSession) (u : υ) :
    changed render t sid f u=if u=sid then some (f sess) else t.read render u := by
  unfold changed
  by_cases hu : u=sid
  · subst hu
    rw [if_pos rfl,hsess,Option.map_some,if_pos rfl]
  · simp only [if_neg hu]
    exact Option.map_id'

/-- Storing a row that refers to a tenant and a user: the session is read with
the new fields, its messages, approvals and creation time as before. -/
theorem put_ok {session : DatedSession} {tid actor : υ} (hsound : t.Sound)
    (hid : parse session.id=some sid) (htid : parse session.tenantId=some tid)
    (hactor : parse session.actorId=some actor) (htenant : tid∈t.tenants) (huser : actor∈t.users) :
    ∃ t',put parse refuse t session=.ok t' ∧ Shows render t t' fun u =>
      if u=sid then
        some {
          id := render sid
          tenantId := render tid
          actorId := render actor
          actorKind := session.actorKind
          messageHistory := t.chat.messagesOf sid
          pendingApprovals := t.chat.approvalsOf sid
          createdAt := ((get t.sessions sid).map DatedRow.createdAt).getD session.createdAt
          updatedAt := session.updatedAt}
      else t.read render u := by
  have hkeep : ∀ row u,(get t.sessions u).isSome=true →
      (get (set t.sessions sid row) u).isSome=true := by
    intro row u hu
    rw [get_set]
    split
    · rfl
    · exact hu
  unfold put entityIdToUuid
  simp only [hid,htid,hactor,htenant,huser,not_true_eq_false,if_false,Option.any_some,decide_false,
    Bool.false_eq_true]
  refine ⟨_,rfl,⟨hsound.keyed,hsound.numbered,?_,?_⟩,rfl,rfl,?_⟩
  · exact fun m hm => hkeep _ _ (hsound.messages_owned m hm)
  · exact fun e he => hkeep _ _ (hsound.approvals_owned e he)
  · intro u
    unfold read
    rw [get_set]
    by_cases hu : u=sid
    · subst hu
      rw [if_pos rfl,if_pos rfl]
      rfl
    · rw [if_neg hu,if_neg (Ne.symm hu)]
      rfl

variable {sessionId : EntityId}

/-- Storing a message of a session that is there. -/
theorem appendMessage_ok (msg : Message) (clock : Time) (hsound : t.Sound)
    (hid : parse sessionId=some sid) (hsession : (get t.sessions sid).isSome=true)
    (hroom : (t.messageRows sid).length≤ maxInteger) :
    ∃ t',appendMessage parse refuse t sessionId msg clock=.ok t' ∧
      Shows render t t' (changed render t sid fun s =>
        {s with messageHistory := s.messageHistory++[msg],updatedAt := clock}) := by
  have hnext := nextSequence_eq hsound sid
  obtain ⟨row,hrow⟩ := Option.isSome_iff_exists.mp hsession
  unfold appendMessage entityIdToUuid
  simp only [hid,hnext,if_neg (Nat.not_lt.mpr hroom),hrow,Option.isNone_some,Bool.false_eq_true,
    if_false]
  refine ⟨_,rfl,shows_touch render
    (f := fun s => {s with messageHistory := s.messageHistory++[msg]}) ?_ clock⟩
  have hsound' : Sound {t with messages := t.messages++[⟨sid,(t.messageRows sid).length,msg⟩]} :=
    hsound.append hsession rfl
  refine ⟨hsound',rfl,rfl,fun u => ?_⟩
  unfold changed read
  rw [Option.map_map,messagesOf_eq hsound',messageRows_append]
  congr 1
  funext row
  by_cases hu : u=sid
  · simp only [Function.comp_apply,if_pos hu,if_pos hu.symm,List.map_append,messagesOf_eq hsound]
    rfl
  · simp only [Function.comp_apply,if_neg hu,if_neg (Ne.symm hu),messagesOf_eq hsound]
    rfl

/-- Storing an approval of a session under an id that is its own or new. -/
theorem shows_set {id : String} (ap : PendingApproval) (hsound : t.Sound)
    (hsession : (get t.sessions sid).isSome=true)
    (hold : ∀ row,get t.pendingApprovals id=some row → row.sessionId=sid) :
    Shows render t {t with pendingApprovals := set t.pendingApprovals id ⟨sid,ap⟩}
      (changed render t sid fun s =>
        {s with pendingApprovals := set s.pendingApprovals id ap}) where
  sound := by
    refine ⟨nodup_set hsound.keyed _ _,hsound.numbered,hsound.messages_owned,fun e he => ?_⟩
    rcases mem_set he with rfl|he
    · exact hsession
    · exact hsound.approvals_owned e he
  tenants := rfl
  users := rfl
  read := fun u => by
    have hrows : mapValues (fun _ row => row.approval)
        ((set t.pendingApprovals id ⟨sid,ap⟩).filter fun e => decide (e.2.sessionId=u))=
          if u=sid then set (t.chat.approvalsOf u) id ap else t.chat.approvalsOf u := by
      let own : PendingApprovalRow υ → Bool := fun row => decide (row.sessionId=u)
      by_cases hu : u=sid
      · subst hu
        have hfilter : ((set t.pendingApprovals id ⟨u,ap⟩).filter fun e => own e.2)=
            set (t.pendingApprovals.filter fun e => own e.2) id ⟨u,ap⟩ :=
          filter_set (b:=true) (p:=own) (decide_eq_true rfl) fun row hrow =>
            decide_eq_true (hold row hrow)
        rw [if_pos rfl]
        exact (congrArg _ hfilter).trans (mapValues_set _ _ id _)
      · have hfilter : ((set t.pendingApprovals id ⟨sid,ap⟩).filter fun e => own e.2)=
            t.pendingApprovals.filter fun e => own e.2 :=
          filter_set (b:=false) (p:=own) (decide_eq_false (Ne.symm hu)) fun row hrow =>
            decide_eq_false fun h => hu (h ▸ hold row hrow)
        rw [if_neg hu]
        exact congrArg _ hfilter
    unfold changed read
    rw [Option.map_map,approvalsOf_eq,hrows]
    congr 1
    funext row
    by_cases hu : u=sid
    · simp only [Function.comp_apply,if_pos hu]
      rfl
    · simp only [Function.comp_apply,if_neg hu]
      rfl

variable {ap : PendingApproval}

/-- Storing an approval, in the session that is named. -/
theorem addApproval_ok (ttl : Option Int) (clock : Time) (hsound : t.Sound)
    (hid : parse sessionId=some sid) (hsession : (get t.sessions sid).isSome=true)
    (hfits : overlong ap=none)
    (hold : ∀ row,get t.pendingApprovals ap.id=some row → row.sessionId=sid) :
    ∃ t',addApproval parse refuse t sessionId ap ttl clock=.ok t' ∧
      Shows render t t' (changed render t sid fun s =>
        {s with
          pendingApprovals := set s.pendingApprovals ap.id (stamped ap ttl),updatedAt := clock}) := by
  obtain ⟨row,hrow⟩ := Option.isSome_iff_exists.mp hsession
  have hset := shows_set render (stamped ap ttl) hsound hsession hold
  refine ⟨_,?_,shows_touch render hset clock⟩
  unfold addApproval PostgresStore.addApproval entityIdToUuid
  simp only [hid,hfits,hrow,Option.isNone_some,Bool.and_false,Bool.false_eq_true,if_false,Except.map]
  change Except.ok (touch {t with pendingApprovals := set t.pendingApprovals ap.id _} sid clock)=_
  cases hexisting : get t.approvalStore.pendingApprovals ap.id with
  | none => rfl
  | some existing =>
    have hown : existing.sessionId=sid := hold existing hexisting
    dsimp only
    rw [hown]

/-- The approval a session has under an id is the row of that id, if the row
is the session's. -/
theorem get_approvalsOf (h : t.Sound) (sid : υ) (id : String) :
    get (t.chat.approvalsOf sid) id=
      ((get t.pendingApprovals id).filter fun row => decide (row.sessionId=sid)).map
        PendingApprovalRow.approval := by
  rw [approvalsOf_eq,get_mapValues,get_filter h.keyed fun row => decide (row.sessionId=sid)]

theorem resolveApproval_unknown {approvalId : String} (granted : Bool) (actor : Option EntityId)
    (clock : Time) (hsound : t.Sound) (hid : parse sessionId=some sid)
    (hnone : get (t.chat.approvalsOf sid) approvalId=none) :
    resolveApproval repr parse render t sessionId approvalId granted actor clock=
      .error (noPendingApproval repr approvalId sessionId) := by
  rw [get_approvalsOf hsound,Option.map_eq_none_iff] at hnone
  unfold resolveApproval PostgresStore.resolveApproval entityIdToUuid
  simp only [hid]
  have hrow : ((get t.approvalStore.pendingApprovals approvalId).filter fun row =>
      decide (row.sessionId=sid))=none := hnone
  rw [hrow]
  rfl

/-- The tenant check, for a session that is there. -/
theorem foreignOwner_eq {row : DatedRow υ} (hrow : get t.sessions sid=some row)
    (actor : Option EntityId) :
    PostgresStore.foreignOwner render t.approvalStore sid actor=
      (actor.filter fun a => decide (render row.tenantId≠a)).map (·,render row.tenantId) := by
  have howner : get t.approvalStore.sessions sid=some row.tenantId := by
    rw [approvalStore,get_mapValues,hrow]
    rfl
  unfold PostgresStore.foreignOwner
  rw [howner]
  cases actor with
  | none => rfl
  | some a => by_cases h : render row.tenantId=a <;> simp [h,Option.filter_some]

section Resolving

variable {sessionId : EntityId} {approvalId : String} {sess : DatedSession}
  {existing : PendingApproval} {actor : Option EntityId}

/-- What a decision on an approval of the session comes to. -/
theorem resolveApproval_eq (granted : Bool) (actor : Option EntityId) (clock : Time)
    (hsound : t.Sound) (hid : parse sessionId=some sid) (hsess : t.read render sid=some sess)
    (hap : get sess.pendingApprovals approvalId=some existing) :
    resolveApproval repr parse render t sessionId approvalId granted actor clock=
      match actor.filter fun a => decide (sess.tenantId≠a) with
      | some a => .error (crossTenantApprovalError repr a sess.tenantId)
      | none =>
        .ok (touch {t with
          pendingApprovals := set t.pendingApprovals approvalId
            ⟨sid,resolvedCopy existing granted clock⟩} sid clock) := by
  obtain ⟨row,hrow,rfl⟩ := Option.map_eq_some_iff.mp hsess
  obtain ⟨stored,hstored,rfl⟩ := Option.map_eq_some_iff.mp ((get_approvalsOf hsound sid _).symm.trans hap)
  have hown : stored.sessionId=sid := of_decide_eq_true (Option.filter_eq_some_iff.mp hstored).2
  have hfound : ((get t.approvalStore.pendingApprovals approvalId).filter fun row =>
      decide (row.sessionId=sid))=some stored := hstored
  unfold resolveApproval PostgresStore.resolveApproval entityIdToUuid
  simp only [hid]
  rw [hfound,foreignOwner_eq render hrow]
  cases actor.filter fun a => decide (render row.tenantId≠a) with
  | some a => rfl
  | none => rw [← hown]; rfl

theorem resolveApproval_ok (granted : Bool) (clock : Time) (hsound : t.Sound)
    (hid : parse sessionId=some sid) (hsess : t.read render sid=some sess)
    (hap : get sess.pendingApprovals approvalId=some existing)
    (hown : (actor.filter fun a => decide (sess.tenantId≠a))=none) :
    ∃ t',resolveApproval repr parse render t sessionId approvalId granted actor clock=.ok t' ∧
      Shows render t t' (changed render t sid fun s =>
        {s with
          pendingApprovals := set s.pendingApprovals approvalId
            (resolvedCopy existing granted clock)
          updatedAt := clock}) := by
  refine ⟨_,?_,shows_touch render (shows_set render (resolvedCopy existing granted clock) hsound
    ?_ ?_) clock⟩
  · rw [resolveApproval_eq repr render granted actor clock hsound hid hsess hap,hown]
  · obtain ⟨row,hrow,-⟩ := Option.map_eq_some_iff.mp hsess
    rw [hrow]
    rfl
  · intro row hrow
    obtain ⟨sessionRow,-,rfl⟩ := Option.map_eq_some_iff.mp hsess
    obtain ⟨stored,hstored,-⟩ := Option.map_eq_some_iff.mp ((get_approvalsOf hsound sid _).symm.trans hap)
    obtain ⟨hget,hsid⟩ := Option.filter_eq_some_iff.mp hstored
    rw [hrow] at hget
    cases hget
    exact of_decide_eq_true hsid

end Resolving

/-- The sessions whose rows a sweep goes over. -/
def inScope (parse : EntityId → Option υ) (sessionId : Option EntityId) (u : υ) : Bool :=
  sessionId.all fun named => decide (parse named=some u)

/-- A sweep of all sessions or of a named one. -/
theorem expireStaleApprovals_ok {sessionId : Option EntityId} (ts : Time) (hsound : t.Sound)
    (hnamed : ∀ named∈sessionId,(parse named).isSome=true) :
    ∃ t',expireStaleApprovals parse t sessionId ts=.ok (t.rowcount parse sessionId ts,t') ∧
      Shows render t t' fun u => (t.read render u).map fun s =>
        if inScope parse sessionId u then
          {s with pendingApprovals := SessionMap.sweptApprovals s ts}
        else s := by
  let swept : PendingApprovalRow υ → PendingApprovalRow υ := fun row =>
    {row with
      approval := if inScope parse sessionId row.sessionId then expiredCopy row.approval ts
        else row.approval}
  refine ⟨{t with pendingApprovals := mapValues (fun _ row => swept row) t.pendingApprovals},?_,?_⟩
  · unfold expireStaleApprovals PostgresStore.expireStaleApprovals
    cases sessionId with
    | none => rfl
    | some named =>
      obtain ⟨sid,hsid⟩ := Option.isSome_iff_exists.mp (hnamed named rfl)
      have hscope : ∀ u,inScope parse (some named) u=decide (u=sid) := fun u => by
        simp [inScope,hsid,eq_comm]
      simp only [entityIdToUuid,hsid,swept,hscope]
      rfl
  · refine ⟨⟨?_,hsound.numbered,hsound.messages_owned,?_⟩,rfl,rfl,fun u => ?_⟩
    · rw [keys_mapValues]
      exact hsound.keyed
    · intro e he
      obtain ⟨e',he',rfl⟩ := List.mem_map.mp he
      exact hsound.approvals_owned e' he'
    · have hrows : mapValues (fun _ row => row.approval)
          ((mapValues (fun _ row => swept row) t.pendingApprovals).filter fun e =>
            decide (e.2.sessionId=u))=
          if inScope parse sessionId u then
            mapValues (fun _ ap => expiredCopy ap ts) (t.chat.approvalsOf u)
          else t.chat.approvalsOf u := by
        have hrow : ∀ e∈t.pendingApprovals.filter fun e => decide (e.2.sessionId=u),
            (swept e.2).approval=
              if inScope parse sessionId u then expiredCopy e.2.approval ts else e.2.approval := by
          intro e he
          have hown : e.2.sessionId=u := of_decide_eq_true (List.mem_filter.mp he).2
          exact hown ▸ rfl
        rw [approvalsOf_eq]
        unfold mapValues
        rw [List.filter_map,List.map_map,List.map_map]
        split
        · rename_i hu
          refine List.map_congr_left fun e he => Prod.ext rfl ?_
          exact (hrow e he).trans (if_pos hu)
        · rename_i hu
          refine List.map_congr_left fun e he => Prod.ext rfl ?_
          exact (hrow e he).trans (if_neg hu)
      unfold read
      rw [Option.map_map,approvalsOf_eq,hrows]
      congr 1
      funext row
      by_cases hu : inScope parse sessionId u=true
      · simp only [Function.comp_apply,if_pos hu]
        rfl
      · simp only [Function.comp_apply,if_neg hu]
        rfl

/-- The rows a sweep changes, counted by session. -/
theorem rowcount_eq {sessionId : Option EntityId} (ts : Time) {us : List (Option υ)}
    (hus : us.Nodup) (hscope : ∀ u,some u∈us → inScope parse sessionId u=true)
    (hcover : ∀ e∈t.pendingApprovals,inScope parse sessionId e.2.sessionId=true →
      some e.2.sessionId∈us) :
    t.rowcount parse sessionId ts=
      (us.map fun u => (t.pendingApprovals.filter fun e =>
        due e.2.approval ts && decide (some e.2.sessionId=u)).length).sum := by
  have hlisted : ∀ e∈t.pendingApprovals.filter fun e =>
      due e.2.approval ts && inScope parse sessionId e.2.sessionId,some e.2.sessionId∈us := by
    intro e he
    obtain ⟨hmem,htest⟩ := List.mem_filter.mp he
    exact hcover e hmem (Bool.and_eq_true_iff.mp htest).2
  have hsum := sum_lengths (fun e : String × PendingApprovalRow υ => some e.2.sessionId) hus hlisted
  refine hsum.symm.trans (congrArg List.sum (List.map_congr_left fun u hu => ?_))
  unfold group
  rw [List.filter_filter]
  refine congrArg List.length (List.filter_congr fun e _ => ?_)
  by_cases hown : some e.2.sessionId=u
  · have hin : inScope parse sessionId e.2.sessionId=true := hscope _ (hown ▸ hu)
    simp [hown,hin]
  · simp [hown]

/-- The rows of a session that are due, as its approvals. -/
theorem length_due (t : StoreTables υ) (sid : υ) (ts : Time) :
    (t.pendingApprovals.filter fun e =>
      due e.2.approval ts && decide (some e.2.sessionId=some sid)).length=
        ((t.chat.approvalsOf sid).filter fun e => due e.2 ts).length := by
  rw [approvalsOf_eq]
  unfold mapValues
  rw [List.filter_map,List.length_map,List.filter_filter]
  refine congrArg List.length (List.filter_congr fun e _ => ?_)
  simp

/-! ### Sessions that are not there -/

theorem approvalsOf_of_missing (hsound : t.Sound) (hnone : get t.sessions sid=none) :
    t.chat.approvalsOf sid=[] := by
  have hrows : (t.pendingApprovals.filter fun e => decide (e.2.sessionId=sid))=[] :=
    List.filter_eq_nil_iff.mpr fun e he hown => by
      have hthere := hsound.approvals_owned e he
      rw [of_decide_eq_true hown,hnone] at hthere
      cases hthere
  rw [approvalsOf_eq,hrows]
  rfl

theorem messagesOf_of_missing (hsound : t.Sound) (hnone : get t.sessions sid=none) :
    t.chat.messagesOf sid=[] := by
  have hrows : t.messageRows sid=[] := List.filter_eq_nil_iff.mpr fun m hm hown => by
    have hthere := hsound.messages_owned m hm
    rw [of_decide_eq_true hown,hnone] at hthere
    cases hthere
  rw [messagesOf_eq hsound,hrows]
  rfl

theorem appendMessage_missing (msg : Message) (clock : Time) (hid : parse sessionId=some sid)
    (hnone : get t.sessions sid=none) :
    ∃ e,appendMessage parse refuse t sessionId msg clock=.error e := by
  unfold appendMessage entityIdToUuid
  simp only [hid,hnone,Option.isNone_none,if_true]
  split
  · exact ⟨_,rfl⟩
  · exact ⟨_,rfl⟩

theorem addApproval_missing (ttl : Option Int) (clock : Time) (hid : parse sessionId=some sid)
    (hnone : get t.sessions sid=none) (hnew : get t.pendingApprovals ap.id=none) :
    ∃ e,addApproval parse refuse t sessionId ap ttl clock=.error e := by
  unfold addApproval entityIdToUuid
  simp only [hid,hnone,hnew,Option.isNone_none,Bool.and_self,if_true]
  cases overlong ap with
  | none => exact ⟨_,rfl⟩
  | some column => exact ⟨_,rfl⟩

end StoreTables

end Voyagent.SessionStores
