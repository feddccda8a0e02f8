import Voyagent.SessionStores
import Voyagent.TransitionRuns

/-!
# One call after another on both session stores

The two stores side by side, given the same calls at the same times. Where the
calls respect what the tables are for, both hold the same sessions after every
call and answer alike: each operation changes the session read from the rows
as it changes the session kept in memory.
-/

namespace Voyagent.SessionStoreAgreement

open RuntimeValues KeyedMap SessionTranscript ToolInvocation Sessions ApprovalStores ChatSends
open SessionStores TransitionRuns
open CanonicalFields (isEntityId)
open ApprovalStores.PostgresStore (entityIdToUuid)

variable {υ : Type} [DecidableEq υ]

/-! ## Answers -/

/-- The same session: dictionaries up to their order, without the replay state
of this process, and the update time unless the session is among the listed. -/
structure SameSession (swept : List EntityId) (s s' : DatedSession) : Prop where
  id : s.id=s'.id
  tenantId : s.tenantId=s'.tenantId
  actorId : s.actorId=s'.actorId
  actorKind : s.actorKind=s'.actorKind
  messageHistory : s.messageHistory=s'.messageHistory
  pendingApprovals : s.pendingApprovals.Perm s'.pendingApprovals
  createdAt : s.createdAt=s'.createdAt
  updatedAt : s.id∉swept → s.updatedAt=s'.updatedAt

/-- The same answer. -/
def SameAnswer (swept : List EntityId) : Answer → Answer → Prop
  | .done,.done => True
  | .session found,.session found' => Option.Rel (SameSession swept) found found'
  | .count flipped,.count flipped' => flipped=flipped'
  | _,_ => False

/-- Both return the same or both raise the same; what they raise may differ
where the last condition holds. -/
def Alike (swept : List EntityId) (unsettled : Prop) :
    Except Exn Answer → Except Exn Answer → Prop
  | .ok a,.ok a' => SameAnswer swept a a'
  | .error e,.error e' => e=e' ∨ unsettled
  | _,_ => False

/-! ## Both stores -/

/-- The stores, and the sessions a sweep changed after they were last written. -/
structure Stores (υ : Type) where
  memory : SessionMap := []
  tables : StoreTables υ
  swept : List EntityId := []

/-- What a call returned. -/
def answered {σ : Type} (served : Except Exn (Answer × σ)) : Except Exn Answer :=
  served.map Prod.fst

/-- The store a call leaves; one that raises leaves it as it was. -/
def left {σ : Type} (store : σ) (served : Except Exn (Answer × σ)) : σ :=
  match served with
  | .ok (_,after) => after
  | .error _ => store

/-- The session a call writes. -/
def written : StoreCall → Option EntityId
  | .put session => some session.id
  | .appendMessage sessionId _ => some sessionId
  | .addApproval sessionId _ _ => some sessionId
  | .resolveApproval sessionId _ _ _ => some sessionId
  | _ => none

/-- The sessions a call sweeps in memory. -/
def sweeps (store : SessionMap) (clock : Time) : StoreCall → List EntityId
  | .expireStaleApprovals sessionId now =>
    (store.filter fun e => store.targeted sessionId e.1 && SessionMap.touched e.2 (now.getD clock)).map
      Prod.fst
  | _ => []

section Serving

variable (repr : String → String) (parse : EntityId → Option υ) (render : υ → EntityId)
  (refuse : Violation → Exn)

def serveMemory (w : Stores υ) (c : StoreCall × Time) : Except Exn (Answer × SessionMap) :=
  w.memory.serve repr c.2 c.1

def servePostgres (w : Stores υ) (c : StoreCall × Time) : Except Exn (Answer × StoreTables υ) :=
  w.tables.serve repr parse render refuse c.2 c.1

/-- The sessions swept since they were written, after a call. -/
def sweptAfter (w : Stores υ) (c : StoreCall × Time) : List EntityId :=
  match serveMemory repr w c with
  | .error _ => w.swept
  | .ok _ => (w.swept.filter fun sid => decide (written c.1≠some sid))++sweeps w.memory c.2 c.1

/-- One call on both stores. -/
def next (w : Stores υ) (c : StoreCall × Time) : Stores υ where
  memory := left w.memory (serveMemory repr w c)
  tables := left w.tables (servePostgres repr parse render refuse w c)
  swept := sweptAfter repr w c

def step : Stores υ → StoreCall × Time → Stores υ → Prop :=
  ofPartial fun w c => some (next repr parse render refuse w c)

end Serving

/-- Two empty stores, for these tenants and users. -/
def started (tenants users : List υ) : Stores υ := {tables := {tenants,users}}

/-! ## Calls the stores are both made for -/

/-- A stored session is put with the messages, the approvals and the creation
time it has, a new one with no messages and no approvals. -/
def Carries (store : SessionMap) (session : DatedSession) : Prop :=
  match get store session.id with
  | none => session.messageHistory=[] ∧ session.pendingApprovals=[]
  | some held =>
    session.messageHistory=held.messageHistory ∧
      session.pendingApprovals.Perm held.pendingApprovals ∧ session.createdAt=held.createdAt

instance (store : SessionMap) (session : DatedSession) : Decidable (Carries store session) := by
  unfold Carries
  cases get store session.id <;> infer_instance

/-- Ids are `EntityId`s; a session is put for a known tenant and user with what
is stored of it; texts and numbers fit their columns; an approval's id is no
other session's; a sweep names a stored session or none. -/
def Regular (parse : EntityId → Option υ) (w : Stores υ) : StoreCall → Prop
  | .get sessionId => isEntityId sessionId=true
  | .put session =>
    isEntityId session.id=true ∧ isEntityId session.tenantId=true ∧
      isEntityId session.actorId=true ∧
      (∀ tenant∈parse session.tenantId,tenant∈w.tables.tenants) ∧
      (∀ user∈parse session.actorId,user∈w.tables.users) ∧ Carries w.memory session
  | .appendMessage sessionId _ =>
    isEntityId sessionId=true ∧
      ∀ sess∈get w.memory sessionId,sess.messageHistory.length≤ maxInteger
  | .addApproval sessionId ap _ =>
    isEntityId sessionId=true ∧ overlong ap=none ∧
      ∀ e∈w.memory,e.1≠sessionId → get e.2.pendingApprovals ap.id=none
  | .resolveApproval sessionId _ _ _ => isEntityId sessionId=true
  | .expireStaleApprovals sessionId _ =>
    ∀ named∈sessionId,isEntityId named=true ∧ (get w.memory named).isSome=true

instance (parse : EntityId → Option υ) (w : Stores υ) (call : StoreCall) :
    Decidable (Regular parse w call) := by
  unfold Regular
  cases call <;> infer_instance

/-- Calls both stores refuse, each in its own words: a write to a session that
is not there, and a decision of a foreign tenant on an approval that is not
there. -/
def Unsettled (store : SessionMap) : StoreCall → Prop
  | .appendMessage sessionId _ => get store sessionId=none
  | .addApproval sessionId _ _ => get store sessionId=none
  | .resolveApproval sessionId approvalId _ actor =>
    ∀ sess∈get store sessionId,
      (∃ a∈actor,sess.tenantId≠a) ∧ get sess.pendingApprovals approvalId=none
  | _ => False

/-! ## What both hold -/

/-- The tables mirror the sessions in memory. -/
structure Mirrors (parse : EntityId → Option υ) (render : υ → EntityId) (w : Stores υ) : Prop where
  sound : w.tables.Sound
  keyed : (w.memory.map Prod.fst).Nodup
  entity : ∀ sid sess,get w.memory sid=some sess → isEntityId sid=true ∧ sess.id=sid
  known : ∀ u,(get w.tables.sessions u).isSome=true →
    ∃ sid,isEntityId sid=true ∧ parse sid=some u
  alike : ∀ sid u,isEntityId sid=true → parse sid=some u →
    Option.Rel (SameSession w.swept) (get w.memory sid) (w.tables.read render u)

/-- One call on both stores: they answer alike and hold the same afterwards. -/
structure Agrees (repr : String → String) (parse : EntityId → Option υ) (render : υ → EntityId)
    (refuse : Violation → Exn) (w : Stores υ) (c : StoreCall × Time) : Prop where
  alike : Alike w.swept (Unsettled w.memory c.1) (answered (serveMemory repr w c))
    (answered (servePostgres repr parse render refuse w c))
  mirrors : Mirrors parse render (next repr parse render refuse w c)

section Steps

variable {repr : String → String} {parse : EntityId → Option υ} {render : υ → EntityId}
  {refuse : Violation → Exn} {w : Stores υ} {c : StoreCall × Time} {sid : EntityId} {u : υ}

omit [DecidableEq υ] in
/-- Ids that are read alike are the same. -/
theorem parse_injective (hread : ∀ s,isEntityId s=true → ∃ u,parse s=some u ∧ render u=s)
    {sid' : EntityId} (hid : isEntityId sid=true) (hid' : isEntityId sid'=true)
    (h : parse sid=parse sid') : sid=sid' := by
  obtain ⟨u,hu,hrender⟩ := hread sid hid
  obtain ⟨v,hv,hrender'⟩ := hread sid' hid'
  rw [hu,hv] at h
  cases h
  exact hrender.symm.trans hrender'

theorem SameSession.mono {swept swept' : List EntityId} {s s' : DatedSession}
    (h : SameSession swept s s') (hsub : s.id∈swept → s.id∈swept') : SameSession swept' s s' :=
  {h with updatedAt := fun hnot => h.updatedAt fun hmem => hnot (hsub hmem)}

theorem mirrors_started (tenants users : List υ) :
    Mirrors parse render (started tenants users) where
  sound := ⟨List.nodup_nil,fun _ => rfl,nofun,nofun⟩
  keyed := List.nodup_nil
  entity := nofun
  known := nofun
  alike := fun _ _ _ _ => .none

/-- A session that is stored is read from its rows as it is kept. -/
theorem Mirrors.stored (h : Mirrors parse render w) (hid : isEntityId sid=true)
    (hu : parse sid=some u) {sess : DatedSession} (hsess : get w.memory sid=some sess) :
    ∃ sess',w.tables.read render u=some sess' ∧ SameSession w.swept sess sess' ∧
      (get w.tables.sessions u).isSome=true ∧
      sess'.messageHistory=w.tables.chat.messagesOf u ∧
      sess'.pendingApprovals=w.tables.chat.approvalsOf u := by
  have halike := h.alike sid u hid hu
  rw [hsess] at halike
  cases hread : w.tables.read render u with
  | none =>
    rw [hread] at halike
    cases halike
  | some sess' =>
    rw [hread] at halike
    obtain ⟨row,hrow,rfl⟩ := Option.map_eq_some_iff.mp hread
    cases halike with
    | some hsame => exact ⟨_,rfl,hsame,Option.isSome_iff_exists.mpr ⟨row,hrow⟩,rfl,rfl⟩

theorem Mirrors.missing (h : Mirrors parse render w) (hid : isEntityId sid=true)
    (hu : parse sid=some u) (hnone : get w.memory sid=none) : get w.tables.sessions u=none := by
  have halike := h.alike sid u hid hu
  rw [hnone] at halike
  cases hread : w.tables.read render u with
  | none => exact Option.map_eq_none_iff.mp hread
  | some sess' =>
    rw [hread] at halike
    cases halike

/-- Every row of a session is one that is stored. -/
theorem Mirrors.owner (h : Mirrors parse render w) (hthere : (get w.tables.sessions u).isSome=true) :
    ∃ sid sess,isEntityId sid=true ∧ parse sid=some u ∧ get w.memory sid=some sess := by
  obtain ⟨sid,hid,hu⟩ := h.known u hthere
  cases hsess : get w.memory sid with
  | none =>
    rw [h.missing hid hu hsess] at hthere
    cases hthere
  | some sess => exact ⟨sid,sess,hid,hu,hsess⟩

section Dictionaries

variable {swept : List EntityId} {s s' : DatedSession} {t : StoreTables υ}

section

variable (hsame : SameSession swept s s') (hsound : t.Sound)
variable (hown : s'.pendingApprovals=t.chat.approvalsOf u)

include hsame hsound hown

/-- Approvals that are the same as those read from rows have their own keys. -/
theorem SameSession.keyed :
    (s.pendingApprovals.map Prod.fst).Nodup ∧ (s'.pendingApprovals.map Prod.fst).Nodup := by
  have hkeys : (s'.pendingApprovals.map Prod.fst).Nodup := by
    rw [hown]
    exact StoreTables.nodup_approvalsOf hsound u
  exact ⟨(hsame.pendingApprovals.map Prod.fst).nodup_iff.mpr hkeys,hkeys⟩

theorem SameSession.get_eq (id : String) :
    get s.pendingApprovals id=get s'.pendingApprovals id := by
  obtain ⟨hkeys,hkeys'⟩ := hsame.keyed hsound hown
  exact (perm_iff_get hkeys hkeys').mp hsame.pendingApprovals id

/-- Approvals stored alike in dictionaries that are alike. -/
theorem SameSession.set_perm (id : String) (ap : PendingApproval) :
    (set s.pendingApprovals id ap).Perm (set s'.pendingApprovals id ap) := by
  obtain ⟨hkeys,hkeys'⟩ := hsame.keyed hsound hown
  refine (perm_iff_get (nodup_set hkeys _ _) (nodup_set hkeys' _ _)).mpr fun k => ?_
  rw [get_set,get_set,hsame.get_eq hsound hown]

end

end Dictionaries

/-- Both stores refuse: nothing changes. -/
theorem refused (h : Mirrors parse render w) (e e' : Exn) (hmemory : serveMemory repr w c=.error e)
    (hpostgres : servePostgres repr parse render refuse w c=.error e')
    (he : e=e' ∨ Unsettled w.memory c.1) : Agrees repr parse render refuse w c := by
  have hnext : next repr parse render refuse w c=w := by
    unfold next sweptAfter left
    rw [hmemory,hpostgres]
  constructor
  · rw [hmemory,hpostgres]
    exact he
  · rw [hnext]
    exact h

/-- Both stores write one session: the other sessions stay as they are. -/
theorem wrote (hread : ∀ s,isEntityId s=true → ∃ u,parse s=some u ∧ render u=s)
    (h : Mirrors parse render w) (hid : isEntityId sid=true) (hu : parse sid=some u)
    {sess sess' : DatedSession} {t' : StoreTables υ} (hsid : sess.id=sid)
    (hwritten : written c.1=some sid)
    (hmemory : serveMemory repr w c=.ok (.done,set w.memory sid sess))
    (hpostgres : servePostgres repr parse render refuse w c=.ok (.done,t'))
    (hshows : t'.Sound ∧ ∀ v,t'.read render v=if v=u then some sess' else w.tables.read render v)
    (hsame : SameSession [] sess sess') : Agrees repr parse render refuse w c := by
  refine ⟨?_,?_⟩
  · rw [hmemory,hpostgres]
    exact trivial
  have hnext : next repr parse render refuse w c=
      ⟨set w.memory sid sess,t',
        (w.swept.filter fun sid' => decide (written c.1≠some sid'))++sweeps w.memory c.2 c.1⟩ := by
    unfold next sweptAfter left
    rw [hmemory,hpostgres]
  rw [hnext]
  refine ⟨hshows.1,nodup_set h.keyed _ _,?_,?_,?_⟩
  · intro sid' sess'' hget
    rw [get_set] at hget
    split at hget
    · rename_i heq
      cases hget
      exact heq ▸ ⟨hid,hsid⟩
    · exact h.entity sid' sess'' hget
  · intro v hv
    have hthere : (t'.read render v).isSome=true := (Option.isSome_map).trans hv
    rw [hshows.2] at hthere
    split at hthere
    · rename_i heq
      exact heq ▸ ⟨sid,hid,hu⟩
    · exact h.known v (Option.isSome_map.symm.trans hthere)
  · intro sid' v hid' hv
    rw [get_set,hshows.2]
    by_cases heq : sid=sid'
    · subst heq
      rw [hu] at hv
      cases hv
      rw [if_pos rfl,if_pos rfl]
      exact .some (hsame.mono fun hmem => (List.not_mem_nil hmem).elim)
    · have hne : v≠u := fun hvu => heq (parse_injective hread hid hid' (by rw [hu,hv,hvu]))
      rw [if_neg heq,if_neg hne]
      have hother := h.alike sid' v hid' hv
      generalize hget : get w.memory sid'=kept at hother ⊢
      generalize w.tables.read render v=shown at hother ⊢
      cases hother with
      | none => exact .none
      | some hsame' =>
        refine .some (hsame'.mono fun hmem => List.mem_append_left _ (List.mem_filter.mpr ⟨hmem,?_⟩))
        rw [(h.entity sid' _ hget).2,hwritten]
        exact decide_eq_true fun h => heq (Option.some.inj h)

/-! ## Each operation -/

variable (hread : ∀ s,isEntityId s=true → ∃ u,parse s=some u ∧ render u=s)
  (h : Mirrors parse render w)

include hread h

theorem get_agrees {sessionId : EntityId} {clock : Time} (hid : isEntityId sessionId=true) :
    Agrees repr parse render refuse w (.get sessionId,clock) := by
  obtain ⟨u,hu,-⟩ := hread sessionId hid
  have hpostgres : servePostgres repr parse render refuse w (.get sessionId,clock)=
      .ok (.session (w.tables.read render u),w.tables) := by
    simp only [servePostgres,StoreTables.serve,entityIdToUuid,hu]
    rfl
  have hnext : next repr parse render refuse w (.get sessionId,clock)=w := by
    have hkept : (w.swept.filter fun sid => decide (written (.get sessionId)≠some sid))=w.swept :=
      List.filter_eq_self.mpr fun sid _ => decide_eq_true fun h => (by cases h)
    unfold next sweptAfter
    rw [hpostgres]
    change (⟨w.memory,w.tables,_++[]⟩ : Stores υ)=w
    rw [hkept,List.append_nil]
  constructor
  · rw [hpostgres]
    exact h.alike sessionId u hid hu
  · rw [hnext]
    exact h

theorem appendMessage_agrees {sessionId : EntityId} {msg : Message} {clock : Time}
    (hregular : Regular parse w (.appendMessage sessionId msg)) :
    Agrees repr parse render refuse w (.appendMessage sessionId msg,clock) := by
  obtain ⟨hid,hroom⟩ := hregular
  obtain ⟨u,hu,-⟩ := hread sessionId hid
  cases hsess : get w.memory sessionId with
  | none =>
    obtain ⟨e,he⟩ := StoreTables.appendMessage_missing refuse msg clock hu (h.missing hid hu hsess)
    refine refused h (keyError (repr sessionId)) e ?_ ?_ (.inr hsess)
    · simp only [serveMemory,SessionMap.serve,SessionMap.appendMessage,hsess]
      rfl
    · exact congrArg (Except.map (Answer.done,·)) he
  | some sess =>
    obtain ⟨sess',hsess',hsame,hthere,hhistory,-⟩ := h.stored hid hu hsess
    have hlength : (w.tables.messageRows u).length≤ maxInteger := by
      have hcount := hroom sess hsess
      rwa [hsame.messageHistory,hhistory,StoreTables.messagesOf_eq h.sound,List.length_map] at hcount
    obtain ⟨t',ht',hshows⟩ := StoreTables.appendMessage_ok render refuse msg clock h.sound hu
      hthere hlength
    have hmemory : serveMemory repr w (.appendMessage sessionId msg,clock)=
        .ok (.done,set w.memory sessionId
          {sess with messageHistory := sess.messageHistory++[msg],updatedAt := clock}) := by
      simp only [serveMemory,SessionMap.serve,SessionMap.appendMessage,hsess]
      rfl
    have hpostgres : servePostgres repr parse render refuse w (.appendMessage sessionId msg,clock)=
        .ok (.done,t') := congrArg (Except.map (Answer.done,·)) ht'
    refine wrote hread h hid hu (by exact (h.entity _ _ hsess).2) rfl hmemory hpostgres
      ⟨hshows.sound,fun v => (hshows.read v).trans (StoreTables.changed_eq render hsess' _ v)⟩ ?_
    exact {hsame with
      messageHistory := congrArg (·++[msg]) hsame.messageHistory
      updatedAt := fun _ => rfl}

theorem addApproval_agrees {sessionId : EntityId} {ap : PendingApproval} {ttl : Option Int}
    {clock : Time} (hregular : Regular parse w (.addApproval sessionId ap ttl)) :
    Agrees repr parse render refuse w (.addApproval sessionId ap ttl,clock) := by
  obtain ⟨hid,hfits,hfree⟩ := hregular
  obtain ⟨u,hu,-⟩ := hread sessionId hid
  -- The id is no other session's in memory, so its row is this session's.
  have hrows : ∀ row,get w.tables.pendingApprovals ap.id=some row → row.sessionId=u := by
    intro row hrow
    obtain ⟨owner,held,howner,hparse,hheld⟩ := h.owner (h.sound.approvals_owned _ (mem_of_get hrow))
    by_cases heq : owner=sessionId
    · rw [heq,hu] at hparse
      exact (Option.some.inj hparse).symm
    · obtain ⟨held',-,hsame,-,-,hown⟩ := h.stored howner hparse hheld
      have hnone := hfree _ (mem_of_get hheld) heq
      rw [hsame.get_eq h.sound hown,hown,StoreTables.get_approvalsOf h.sound,hrow,
        Option.filter_some,if_pos (decide_eq_true rfl)] at hnone
      cases hnone
  cases hsess : get w.memory sessionId with
  | none =>
    have hmissing := h.missing hid hu hsess
    have hnew : get w.tables.pendingApprovals ap.id=none := by
      refine Option.eq_none_iff_forall_ne_some.mpr fun row hrow => ?_
      have hthere := h.sound.approvals_owned _ (mem_of_get hrow)
      rw [hrows row hrow,hmissing] at hthere
      cases hthere
    obtain ⟨e,he⟩ := StoreTables.addApproval_missing refuse ttl clock hu hmissing hnew
    refine refused h (keyError (repr sessionId)) e ?_ ?_ (.inr hsess)
    · simp only [serveMemory,SessionMap.serve,SessionMap.addApproval,hsess]
      rfl
    · exact congrArg (Except.map (Answer.done,·)) he
  | some sess =>
    obtain ⟨sess',hsess',hsame,hthere,-,hown⟩ := h.stored hid hu hsess
    obtain ⟨t',ht',hshows⟩ := StoreTables.addApproval_ok render refuse ttl clock h.sound hu hthere
      hfits hrows
    have hmemory : serveMemory repr w (.addApproval sessionId ap ttl,clock)=
        .ok (.done,set w.memory sessionId
          {sess with
            pendingApprovals := set sess.pendingApprovals ap.id (stamped ap ttl)
            updatedAt := clock}) := by
      simp only [serveMemory,SessionMap.serve,SessionMap.addApproval,hsess]
      rfl
    have hpostgres : servePostgres repr parse render refuse w (.addApproval sessionId ap ttl,clock)=
        .ok (.done,t') := congrArg (Except.map (Answer.done,·)) ht'
    refine wrote hread h hid hu (by exact (h.entity _ _ hsess).2) rfl hmemory hpostgres
      ⟨hshows.sound,fun v => (hshows.read v).trans (StoreTables.changed_eq render hsess' _ v)⟩ ?_
    exact {hsame with
      pendingApprovals := hsame.set_perm h.sound hown _ _
      updatedAt := fun _ => rfl}

section Resolving

variable {sessionId : EntityId} {approvalId : String} {actor : Option EntityId} {sess : DatedSession}
  {existing : PendingApproval} (granted : Bool) (clock : Time)

omit hread in
/-- A decision on an approval the session does not have. -/
theorem resolve_unknown_agrees (hid : isEntityId sessionId=true) (hu : parse sessionId=some u)
    (hsess : get w.memory sessionId=some sess) (hap : get sess.pendingApprovals approvalId=none) :
    Agrees repr parse render refuse w
      (.resolveApproval sessionId approvalId granted actor,clock) := by
  obtain ⟨sess',-,hsame,-,-,hown⟩ := h.stored hid hu hsess
  have hnone : get (w.tables.chat.approvalsOf u) approvalId=none := by
    rw [← hown,← hsame.get_eq h.sound hown,hap]
  have hpostgres : servePostgres repr parse render refuse w
      (.resolveApproval sessionId approvalId granted actor,clock)=
        .error (noPendingApproval repr approvalId sessionId) :=
    congrArg (Except.map (Answer.done,·))
      (StoreTables.resolveApproval_unknown repr render granted actor clock h.sound hu hnone)
  cases hactor : actor.filter fun a => decide (sess.tenantId≠a) with
  | none =>
    refine refused h (noPendingApproval repr approvalId sessionId) _ ?_ hpostgres (.inl rfl)
    simp only [serveMemory,SessionMap.serve,SessionMap.resolveApproval,hsess,hactor,hap]
    rfl
  | some a =>
    have hforeign := Option.filter_eq_some_iff.mp hactor
    refine refused h (crossTenantApprovalError repr a sess.tenantId) _ ?_ hpostgres (.inr ?_)
    · simp only [serveMemory,SessionMap.serve,SessionMap.resolveApproval,hsess,hactor]
      rfl
    · intro found hfound
      rw [hsess] at hfound
      cases hfound
      exact ⟨⟨a,hforeign.1,of_decide_eq_true hforeign.2⟩,hap⟩

/-- A decision on an approval the session has. -/
theorem resolve_known_agrees (hid : isEntityId sessionId=true) (hu : parse sessionId=some u)
    (hsess : get w.memory sessionId=some sess)
    (hap : get sess.pendingApprovals approvalId=some existing) :
    Agrees repr parse render refuse w
      (.resolveApproval sessionId approvalId granted actor,clock) := by
  obtain ⟨sess',hsess',hsame,-,-,hown⟩ := h.stored hid hu hsess
  have hap' : get sess'.pendingApprovals approvalId=some existing := by
    rw [← hsame.get_eq h.sound hown,hap]
  cases hactor : actor.filter fun a => decide (sess.tenantId≠a) with
  | some a =>
    have hresolve := StoreTables.resolveApproval_eq repr render granted actor clock h.sound hu hsess'
      hap'
    rw [← hsame.tenantId,hactor] at hresolve
    refine refused h (crossTenantApprovalError repr a sess.tenantId) _ ?_
      (congrArg (Except.map (Answer.done,·)) hresolve) (.inl rfl)
    simp only [serveMemory,SessionMap.serve,SessionMap.resolveApproval,hsess,hactor]
    rfl
  | none =>
    have hallowed : (actor.filter fun a => decide (sess'.tenantId≠a))=none := by
      rw [← hsame.tenantId]
      exact hactor
    obtain ⟨t',ht',hshows⟩ := StoreTables.resolveApproval_ok repr render granted clock h.sound hu
      hsess' hap' hallowed
    have hmemory : serveMemory repr w (.resolveApproval sessionId approvalId granted actor,clock)=
        .ok (.done,set w.memory sessionId
          {sess with
            pendingApprovals := set sess.pendingApprovals approvalId
              (resolvedCopy existing granted clock)
            updatedAt := clock}) := by
      simp only [serveMemory,SessionMap.serve,SessionMap.resolveApproval,hsess,hactor,hap]
      rfl
    refine wrote hread h hid hu (by exact (h.entity _ _ hsess).2) rfl hmemory
      (congrArg (Except.map (Answer.done,·)) ht')
      ⟨hshows.sound,fun v => (hshows.read v).trans (StoreTables.changed_eq render hsess' _ v)⟩ ?_
    exact {hsame with
      pendingApprovals := hsame.set_perm h.sound hown _ _
      updatedAt := fun _ => rfl}

theorem resolveApproval_agrees (hid : isEntityId sessionId=true) :
    Agrees repr parse render refuse w
      (.resolveApproval sessionId approvalId granted actor,clock) := by
  obtain ⟨u,hu,-⟩ := hread sessionId hid
  cases hsess : get w.memory sessionId with
  | none =>
    have hnone : get (w.tables.chat.approvalsOf u) approvalId=none := by
      rw [StoreTables.approvalsOf_of_missing h.sound (h.missing hid hu hsess)]
      rfl
    refine refused h (keyError (repr sessionId)) (noPendingApproval repr approvalId sessionId) ?_
      (congrArg (Except.map (Answer.done,·))
        (StoreTables.resolveApproval_unknown repr render granted actor clock h.sound hu hnone))
      (.inr fun sess hsome => ?_)
    · simp only [serveMemory,SessionMap.serve,SessionMap.resolveApproval,hsess]
      rfl
    · rw [hsess] at hsome
      cases hsome
  | some sess =>
    cases hap : get sess.pendingApprovals approvalId with
    | none => exact resolve_unknown_agrees h granted clock hid hu hsess hap
    | some existing => exact resolve_known_agrees hread h granted clock hid hu hsess hap

end Resolving

theorem put_agrees {session : DatedSession} {clock : Time} (hregular : Regular parse w (.put session)) :
    Agrees repr parse render refuse w (.put session,clock) := by
  obtain ⟨hid,htenant,hactor,htenants,husers,hcarries⟩ := hregular
  obtain ⟨u,hu,hid'⟩ := hread session.id hid
  obtain ⟨tid,htid,htenant'⟩ := hread session.tenantId htenant
  obtain ⟨actor,ha,hactor'⟩ := hread session.actorId hactor
  obtain ⟨t',ht',hshows⟩ := StoreTables.put_ok render refuse h.sound hu htid ha (htenants tid htid)
    (husers actor ha)
  have hpostgres : servePostgres repr parse render refuse w (.put session,clock)=.ok (.done,t') :=
    congrArg (Except.map (Answer.done,·)) ht'
  refine wrote hread h hid hu rfl rfl rfl hpostgres ⟨hshows.sound,hshows.read⟩ ?_
  -- What the row keeps is what the session brings.
  have hcontent : session.messageHistory=w.tables.chat.messagesOf u ∧
      session.pendingApprovals.Perm (w.tables.chat.approvalsOf u) ∧
      session.createdAt=((get w.tables.sessions u).map DatedRow.createdAt).getD session.createdAt := by
    unfold Carries at hcarries
    cases hsess : get w.memory session.id with
    | none =>
      rw [hsess] at hcarries
      have hmissing := h.missing hid hu hsess
      rw [StoreTables.messagesOf_of_missing h.sound hmissing,
        StoreTables.approvalsOf_of_missing h.sound hmissing,hmissing,hcarries.1,hcarries.2]
      exact ⟨rfl,.nil,rfl⟩
    | some held =>
      rw [hsess] at hcarries
      obtain ⟨hhistory,hperm,hcreated⟩ := hcarries
      obtain ⟨held',hheld',hsame,-,hmessages,hown⟩ := h.stored hid hu hsess
      obtain ⟨row,hrow,rfl⟩ := Option.map_eq_some_iff.mp hheld'
      refine ⟨hhistory.trans (hsame.messageHistory.trans hmessages),
        hperm.trans (hown ▸ hsame.pendingApprovals),?_⟩
      rw [hrow]
      exact hcreated.trans hsame.createdAt
  exact {
    id := hid'.symm
    tenantId := htenant'.symm
    actorId := hactor'.symm
    actorKind := rfl
    messageHistory := hcontent.1
    pendingApprovals := hcontent.2.1
    createdAt := hcontent.2.2
    updatedAt := fun _ => rfl}

omit hread h in
/-- A sweep of a session that is the same in both stores. -/
theorem SameSession.sweep {swept swept' : List EntityId} {s s' : DatedSession} (ts clock : Time)
    (hsame : SameSession swept s s') (hsub : s.id∈swept → s.id∈swept')
    (htouched : SessionMap.touched s ts=true → s.id∈swept') :
    SameSession swept' (SessionMap.sweepSession s ts clock)
      {s' with pendingApprovals := SessionMap.sweptApprovals s' ts} := by
  have hperm : (SessionMap.sweptApprovals s ts).Perm (SessionMap.sweptApprovals s' ts) :=
    hsame.pendingApprovals.map _
  unfold SessionMap.sweepSession
  split
  · rename_i htouch
    exact {hsame with
      pendingApprovals := hperm
      updatedAt := fun hnot => (hnot (htouched htouch)).elim}
  · rename_i htouch
    rw [SessionMap.sweptApprovals_of_untouched htouch] at hperm
    exact {hsame.mono hsub with pendingApprovals := hperm}

omit h in
/-- A sweep goes over a session in memory exactly when it goes over its rows. -/
theorem targeted_eq {sessionId : Option EntityId} {now : Option Time}
    (hregular : Regular parse w (.expireStaleApprovals sessionId now)) (hid : isEntityId sid=true)
    (hu : parse sid=some u) :
    w.memory.targeted sessionId sid=StoreTables.inScope parse sessionId u := by
  cases sessionId with
  | none => rfl
  | some named =>
    obtain ⟨hnamed,hstored⟩ := hregular named rfl
    have hsame : sid=named ↔ parse named=some u := by
      constructor
      · intro heq
        rw [← heq,hu]
      · intro hparse
        exact parse_injective hread hid hnamed (hu.trans hparse.symm)
    unfold SessionMap.targeted StoreTables.inScope
    rw [Option.filter_some,if_pos hstored,Option.all_some]
    exact decide_eq_decide.mpr hsame

/-- Both stores count the same approvals. -/
theorem flipped_eq_rowcount {sessionId : Option EntityId} {now : Option Time} (ts : Time)
    (hregular : Regular parse w (.expireStaleApprovals sessionId now)) :
    ((w.memory.filter fun e => w.memory.targeted sessionId e.1).map fun e =>
        SessionMap.flipped e.2 ts).sum=w.tables.rowcount parse sessionId ts := by
  have hentry : ∀ e∈w.memory,∃ u,isEntityId e.1=true ∧ parse e.1=some u ∧
      get w.memory e.1=some e.2 := by
    intro e he
    have hget := (mem_iff_get h.keyed).mp he
    have hid := (h.entity _ _ hget).1
    obtain ⟨u,hu,-⟩ := hread e.1 hid
    exact ⟨u,hid,hu,hget⟩
  have hkeys : ((w.memory.filter fun e => w.memory.targeted sessionId e.1).map Prod.fst).Nodup :=
    h.keyed.sublist (List.filter_sublist.map _)
  have hus : ((w.memory.filter fun e => w.memory.targeted sessionId e.1).map fun e =>
      parse e.1).Nodup := by
    have hinjective : ∀ k∈(w.memory.filter fun e => w.memory.targeted sessionId e.1).map Prod.fst,
        ∀ k'∈(w.memory.filter fun e => w.memory.targeted sessionId e.1).map Prod.fst,
          parse k=parse k' → k=k' := by
      intro k hk k' hk' hparse
      obtain ⟨e,he,rfl⟩ := List.mem_map.mp hk
      obtain ⟨e',he',rfl⟩ := List.mem_map.mp hk'
      obtain ⟨-,hid,-,-⟩ := hentry e (List.mem_filter.mp he).1
      obtain ⟨-,hid',-,-⟩ := hentry e' (List.mem_filter.mp he').1
      exact parse_injective hread hid hid' hparse
    have hmapped := hkeys.map_on hinjective
    rwa [List.map_map] at hmapped
  rw [StoreTables.rowcount_eq ts hus ?_ ?_,List.map_map]
  · refine congrArg List.sum (List.map_congr_left fun e he => ?_)
    obtain ⟨u,hid,hu,hget⟩ := hentry e (List.mem_filter.mp he).1
    obtain ⟨sess',-,hsame,-,-,hown⟩ := h.stored hid hu hget
    have hperm := (hsame.pendingApprovals.filter fun a => due a.2 ts).length_eq
    rw [hown] at hperm
    rw [Function.comp_apply,hu,StoreTables.length_due]
    exact hperm
  · intro u hu
    obtain ⟨e,he,hparse⟩ := List.mem_map.mp hu
    obtain ⟨hmem,htarget⟩ := List.mem_filter.mp he
    obtain ⟨-,hid,-,-⟩ := hentry e hmem
    rw [← targeted_eq hread hregular hid hparse]
    exact htarget
  · intro e he hscope
    obtain ⟨sid,sess,hid,hu,hget⟩ := h.owner (h.sound.approvals_owned e he)
    refine List.mem_map.mpr ⟨(sid,sess),List.mem_filter.mpr ⟨mem_of_get hget,?_⟩,hu⟩
    rw [targeted_eq hread hregular hid hu]
    exact hscope

theorem expireStaleApprovals_agrees {sessionId : Option EntityId} {now : Option Time}
    {clock : Time} (hregular : Regular parse w (.expireStaleApprovals sessionId now)) :
    Agrees repr parse render refuse w (.expireStaleApprovals sessionId now,clock) := by
  have hnamed : ∀ named∈sessionId,(parse named).isSome=true := by
    intro named hmem
    obtain ⟨u,hu,-⟩ := hread named (hregular named hmem).1
    rw [hu]
    rfl
  obtain ⟨t',ht',hshows⟩ := StoreTables.expireStaleApprovals_ok render (now.getD clock) h.sound hnamed
  have hpostgres : servePostgres repr parse render refuse w
      (.expireStaleApprovals sessionId now,clock)=
        .ok (.count (w.tables.rowcount parse sessionId (now.getD clock)),t') := by
    simp only [servePostgres,StoreTables.serve,ht']
    rfl
  constructor
  · rw [hpostgres]
    exact flipped_eq_rowcount hread h (now.getD clock) hregular
  have hnext : next repr parse render refuse w (.expireStaleApprovals sessionId now,clock)=
      ⟨(w.memory.expireStaleApprovals sessionId (now.getD clock) clock).2,t',
        (w.swept.filter fun sid => decide (written (.expireStaleApprovals sessionId now)≠some sid))++
          sweeps w.memory clock (.expireStaleApprovals sessionId now)⟩ := by
    unfold next sweptAfter left
    rw [hpostgres]
    rfl
  rw [hnext]
  refine ⟨hshows.sound,?_,?_,?_,?_⟩
  · rw [SessionMap.expireStaleApprovals,keys_mapValues]
    exact h.keyed
  · intro sid sess hget
    rw [SessionMap.expireStaleApprovals,get_mapValues] at hget
    obtain ⟨kept,hkept,rfl⟩ := Option.map_eq_some_iff.mp hget
    refine ⟨(h.entity sid kept hkept).1,Eq.trans ?_ (h.entity sid kept hkept).2⟩
    unfold SessionMap.sweepSession
    split
    · split <;> rfl
    · rfl
  · intro v hv
    have hthere : (t'.read render v).isSome=true := (Option.isSome_map).trans hv
    rw [hshows.read,Option.isSome_map] at hthere
    exact h.known v (Option.isSome_map.symm.trans hthere)
  · intro sid v hid hv
    rw [SessionMap.expireStaleApprovals,get_mapValues,hshows.read,
      targeted_eq hread hregular hid hv]
    have hother := h.alike sid v hid hv
    generalize hget : get w.memory sid=kept at hother ⊢
    generalize w.tables.read render v=shown at hother ⊢
    cases hother with
    | none => exact .none
    | @some sess sess' hsame =>
      have hsid : sess.id=sid := (h.entity sid sess hget).2
      have hsub : ∀ swept,sess.id∈w.swept → sess.id∈
          (w.swept.filter fun sid => decide (written (.expireStaleApprovals sessionId now)≠some sid))++
            swept := fun swept hmem =>
        List.mem_append_left _ (List.mem_filter.mpr ⟨hmem,decide_eq_true fun h => (by cases h)⟩)
      by_cases hscope : StoreTables.inScope parse sessionId v=true
      · simp only [Option.map_some,if_pos hscope]
        refine .some (hsame.sweep _ _ (hsub _) fun htouched => List.mem_append_right _ ?_)
        refine List.mem_map.mpr ⟨(sid,sess),List.mem_filter.mpr ⟨mem_of_get hget,?_⟩,hsid.symm⟩
        rw [targeted_eq hread hregular hid hv,hscope,htouched]
        rfl
      · simp only [Option.map_some,if_neg hscope]
        exact .some (hsame.mono (hsub _))

/-- A regular call, on stores that hold the same. -/
theorem agrees_of_regular {call : StoreCall} {clock : Time} (hregular : Regular parse w call) :
    Agrees repr parse render refuse w (call,clock) := by
  cases call with
  | get sessionId => exact get_agrees hread h hregular
  | put session => exact put_agrees hread h hregular
  | appendMessage sessionId msg => exact appendMessage_agrees hread h hregular
  | addApproval sessionId ap ttl => exact addApproval_agrees hread h hregular
  | resolveApproval sessionId approvalId granted actor =>
    exact resolveApproval_agrees hread h granted clock hregular
  | expireStaleApprovals sessionId now => exact expireStaleApprovals_agrees hread h hregular

end Steps

/-! ## Runs -/

section Runs

variable (repr : String → String) (parse : EntityId → Option υ) (render : υ → EntityId)
  (refuse : Violation → Exn)

/-- Runs of regular calls. -/
def regularStep : Stores υ → StoreCall × Time → Stores υ → Prop :=
  guarded (step repr parse render refuse) fun w c => Regular parse w c.1

variable {repr parse render refuse}

theorem mirrors_run (hread : ∀ s,isEntityId s=true → ∃ u,parse s=some u ∧ render u=s)
    {w w' : Stores υ} {calls : List (StoreCall × Time)} (h : Mirrors parse render w)
    (hrun : Run (regularStep repr parse render refuse) w calls w') : Mirrors parse render w' :=
  hrun.guarded_invariant h fun a c b ha hstep hregular => by
    cases hstep
    exact (agrees_of_regular hread ha hregular).mirrors

/-- After every run of regular calls on empty stores, every regular call is
answered alike. -/
theorem session_stores_agree (repr : String → String) (parse : EntityId → Option υ)
    (render : υ → EntityId) (refuse : Violation → Exn)
    (hread : ∀ s,isEntityId s=true → ∃ u,parse s=some u ∧ render u=s) (tenants users : List υ)
    {calls : List (StoreCall × Time)} {w : Stores υ}
    (hrun : Run (regularStep repr parse render refuse) (started tenants users) calls w)
    (call : StoreCall) (clock : Time) (hregular : Regular parse w call) :
    Alike w.swept (Unsettled w.memory call) (answered (serveMemory repr w (call,clock)))
      (answered (servePostgres repr parse render refuse w (call,clock))) :=
  (agrees_of_regular hread (mirrors_run hread (mirrors_started tenants users) hrun) hregular).alike

end Runs

/-! ## A desk's session -/

/-- `uuid.UUID` and `str` on canonical ids, as themselves. -/
def canonicalUuid (s : EntityId) : Option String := if isEntityId s then some s else none

def deskQuote (s : String) : String := "'"++s++"'"

def deskRefusal : Violation → Exn
  | .foreignKey column => ⟨"IntegrityError",["DatabaseError"],column,none⟩
  | .tooLong column => ⟨"DBAPIError",["StatementError"],column,none⟩
  | .outOfRange column => ⟨"DBAPIError",["StatementError"],column,none⟩

def deskTenant : EntityId := "01900000-0000-7000-8000-0000000000a1"

def deskUser : EntityId := "01900000-0000-7000-8000-0000000000a2"

/-- A new session, and the same one with a message. -/
def deskSession (messages : List Message) : DatedSession :=
  {id := "01900000-0000-7000-8000-0000000000a3"
   tenantId := deskTenant
   actorId := deskUser
   messageHistory := messages
   createdAt := 0
   updatedAt := 0}

def deskMessage : Message := ⟨.user,[.text "Issue the ticket."]⟩

/-- A message, an approval and a sweep past its deadline. -/
def deskCalls : List (StoreCall × Time) :=
  [(.put (deskSession []),0),
    (.appendMessage (deskSession []).id deskMessage,1),
    (.addApproval (deskSession []).id ticketApproval none,2),
    (.expireStaleApprovals none none,1000)]

theorem canonicalUuid_read (s : EntityId) (h : isEntityId s=true) :
    ∃ u,canonicalUuid s=some u ∧ id u=s := ⟨s,if_pos h,rfl⟩

/-- After the calls of the desk both stores decide on the expired approval alike. -/
theorem session_stores_agree_desk :
    ∃ w,Run (regularStep deskQuote canonicalUuid id deskRefusal) (started [deskTenant] [deskUser])
        deskCalls w ∧
      ∀ granted clock,
        Alike w.swept
          (Unsettled w.memory
            (.resolveApproval (deskSession []).id ticketApproval.id granted (some deskTenant)))
          (answered (serveMemory deskQuote w
            (.resolveApproval (deskSession []).id ticketApproval.id granted (some deskTenant),clock)))
          (answered (servePostgres deskQuote canonicalUuid id deskRefusal w
            (.resolveApproval (deskSession []).id ticketApproval.id granted (some deskTenant),clock))) := by
  have hfold : (deskCalls.foldlM (fun w c =>
      if decide (Regular canonicalUuid w c.1) then
        some (next deskQuote canonicalUuid id deskRefusal w c)
      else none) (started [deskTenant] [deskUser])).isSome=true := by decide +kernel
  obtain ⟨w,hw⟩ := Option.isSome_iff_exists.mp hfold
  have hrun : Run (regularStep deskQuote canonicalUuid id deskRefusal)
      (started [deskTenant] [deskUser]) deskCalls w :=
    (Run.guarded_congr fun _ _ _ _ _ _ => decide_eq_true_iff).mp (guarded_run_of_foldlM hw)
  have hid : isEntityId (deskSession []).id=true := by decide +kernel
  exact ⟨w,hrun,fun granted clock => session_stores_agree deskQuote canonicalUuid id deskRefusal
    canonicalUuid_read [deskTenant] [deskUser] hrun _ clock hid⟩

/-! ## Calls that are not regular -/

/-- What is seen of an answer: of a session its messages, how many approvals
wait and when it was created. -/
inductive Seen where
  | refused
  | done
  | missing
  | session (messages : List Message) (approvals : Nat) (createdAt : Time)
  | count (flipped : Nat)
  deriving DecidableEq

def seen : Except Exn Answer → Seen
  | .error _ => .refused
  | .ok .done => .done
  | .ok (.session none) => .missing
  | .ok (.session (some s)) => .session s.messageHistory s.pendingApprovals.length s.createdAt
  | .ok (.count flipped) => .count flipped

/-- Answers that are alike are seen alike. -/
theorem seen_of_alike {swept : List EntityId} {unsettled : Prop} {a a' : Except Exn Answer}
    (h : Alike swept unsettled a a') : seen a=seen a' :=
  match a,a',h with
  | .error _,.error _,_ => rfl
  | .ok .done,.ok .done,_ => rfl
  | .ok (.session _),.ok (.session _),.none => rfl
  | .ok (.session _),.ok (.session _),.some hsame => by
    simp only [seen,hsame.messageHistory,hsame.pendingApprovals.length_eq,hsame.createdAt]
  | .ok (.count _),.ok (.count _),h => congrArg Seen.count h

/-- The stores of the desk after some calls. -/
def deskStores (calls : List (StoreCall × Time)) : Stores String :=
  calls.foldl (next deskQuote canonicalUuid id deskRefusal) (started [deskTenant] [deskUser])

/-- A session put again with a message is read with it from memory, without it
from its rows. -/
theorem message_put_again_lost :
    ¬∀ (calls : List (StoreCall × Time)) (w : Stores String),
      Run (step deskQuote canonicalUuid id deskRefusal) (started [deskTenant] [deskUser]) calls w →
        ∀ (call : StoreCall) (clock : Time),
          Alike [] False (answered (serveMemory deskQuote w (call,clock)))
            (answered (servePostgres deskQuote canonicalUuid id deskRefusal w (call,clock))) := by
  intro h
  let calls : List (StoreCall × Time) :=
    [(.put (deskSession []),0),(.put (deskSession [deskMessage]),1)]
  have hrun : Run (step deskQuote canonicalUuid id deskRefusal) (started [deskTenant] [deskUser])
      calls (deskStores calls) := run_of_foldlM rfl
  have hseen := seen_of_alike (h calls _ hrun (.get (deskSession []).id) 2)
  revert hseen
  decide +kernel

end Voyagent.SessionStoreAgreement
