import Voyagent.Sessions

/-!
# Approvals in the session stores

Both stores keep an approval under a key and change it by three operations.
Each operation has one effect on the board of approvals, whichever store
performs it, and the two laws of a board (a decided approval stays as it is,
an overdue one is not granted) are judged on the effects alone.
-/

namespace Voyagent.ApprovalStores

open RuntimeValues KeyedMap ToolInvocation Sessions

/-! ## Boards of approvals -/

/-- The approvals of a store by key. -/
abbrev Board (κ : Type) : Type := κ → Option PendingApproval

/-- What one operation does to a board. -/
inductive Effect (κ : Type) where
  | idle
  | put (k : κ) (ap : PendingApproval)
  | decide (k : κ) (granted : Bool) (now : Time)
  | expire (scope : κ → Bool) (ts : Time)

/-- `model_copy` of a resolved approval. -/
def resolvedCopy (ap : PendingApproval) (granted : Bool) (now : Time) : PendingApproval :=
  {ap with
    granted := some granted
    resolvedAt := some now
    status := decided granted}

/-- `model_copy` of an approval in a sweep: pending ones past their deadline
are marked. -/
def expiredCopy (ap : PendingApproval) (ts : Time) : PendingApproval :=
  if ap.status=.pending ∧ ap.Overdue ts then {ap with status := .expired} else ap

/-- Stamp `expires_at` off `requested_at` when it is missing. -/
def stamped (ap : PendingApproval) (ttl : Option Int) : PendingApproval :=
  match ap.expiresAt with
  | some _ => ap
  | none => {ap with expiresAt := some (ap.requestedAt+ttl.getD defaultApprovalTtlSeconds)}

section Boards

variable {κ : Type} [DecidableEq κ]

def Effect.apply (b : Board κ) : Effect κ → Board κ
  | .idle => b
  | .put k ap => fun k' => if k=k' then some ap else b k'
  | .decide k granted now => fun k' =>
    if k=k' then (b k').map fun ap => resolvedCopy ap granted now else b k'
  | .expire scope ts => fun k' =>
    (b k').map fun ap => if scope k' then expiredCopy ap ts else ap

/-- Decided approvals keep their status. -/
def Settles (b b' : Board κ) : Prop :=
  ∀ k ap,b k=some ap → ap.status.resolved=true → ∃ ap',b' k=some ap' ∧ ap'.status=ap.status

/-- A decision past the deadline does not make an approval granted. -/
def InTime (b b' : Board κ) : Effect κ → Prop
  | .decide k _ now => ∀ ap,b k=some ap → ap.Overdue now → ap.status≠.granted →
      ∀ ap',b' k=some ap' → ap'.status≠.granted
  | _ => True

/-- An effect the laws allow: it stores over no decided approval another
status, and decides only pending approvals, granting them in time, or ones
that already have the status it sets. -/
def Admissible (b : Board κ) : Effect κ → Prop
  | .put k ap => ∀ old,b k=some old → old.status.resolved=true → ap.status=old.status
  | .decide k granted now => ∀ ap,b k=some ap →
      ap.status=decided granted ∨ (ap.status=.pending ∧ ¬(granted=true ∧ ap.Overdue now))
  | _ => True

omit [DecidableEq κ] in
theorem Settles.refl (b : Board κ) : Settles b b := fun _ ap h _ => ⟨ap,h,rfl⟩

omit [DecidableEq κ] in
theorem Settles.trans {a b c : Board κ} (h : Settles a b) (h' : Settles b c) : Settles a c := by
  intro k ap hk hr
  obtain ⟨ap',hk',hs⟩ := h k ap hk hr
  obtain ⟨ap'',hk'',hs'⟩ := h' k ap' hk' (by rw [hs]; exact hr)
  exact ⟨ap'',hk'',hs'.trans hs⟩

/-- A sweep changes pending approvals only. -/
theorem expiredCopy_settled {ap : PendingApproval} (h : ap.status.resolved=true) (ts : Time) :
    expiredCopy ap ts=ap := by
  refine if_neg fun hp => ?_
  rw [hp.1] at h
  cases h

/-- One effect keeps both laws exactly when it is admissible. -/
theorem effect_lawful_iff (b : Board κ) (e : Effect κ) :
    Settles b (e.apply b) ∧ InTime b (e.apply b) e ↔ Admissible b e := by
  cases e with
  | idle => exact iff_of_true ⟨Settles.refl b,trivial⟩ trivial
  | expire scope ts =>
    refine iff_of_true ⟨fun k ap hk hr => ⟨ap,?_,rfl⟩,trivial⟩ trivial
    simp [Effect.apply,hk,expiredCopy_settled hr]
  | put k ap =>
    constructor
    · rintro ⟨hs,_⟩ old hk hr
      obtain ⟨ap',hk',hst⟩ := hs k old hk hr
      simp only [Effect.apply,if_true,Option.some.injEq] at hk'
      rw [hk',hst]
    · refine fun h => ⟨fun k' old hk hr => ?_,trivial⟩
      by_cases hkk : k=k'
      · subst hkk
        exact ⟨ap,if_pos rfl,h old hk hr⟩
      · exact ⟨old,by simp [Effect.apply,hkk,hk],rfl⟩
  | decide k granted now =>
    have hat : ∀ ap,b k=some ap →
        (Effect.decide k granted now).apply b k=some (resolvedCopy ap granted now) := fun ap hk => by
      simp [Effect.apply,hk]
    constructor
    · rintro ⟨hs,ht⟩ ap hk
      cases hr : ap.status.resolved with
      | true =>
        obtain ⟨ap',hk',hst⟩ := hs k ap hk hr
        rw [hat ap hk] at hk'
        cases hk'
        exact .inl hst.symm
      | false =>
        have hp : ap.status=.pending := (resolved_eq_false _).mp hr
        refine .inr ⟨hp,fun ⟨hg,ho⟩ => ?_⟩
        refine ht ap hk ho (by rw [hp]; decide) _ (hat ap hk) ?_
        rw [hg]
        rfl
    · refine fun h => ⟨fun k' ap hk hr => ?_,fun ap hk ho hne ap' hk' => ?_⟩
      · by_cases hkk : k=k'
        · subst hkk
          refine ⟨_,hat ap hk,?_⟩
          rcases h ap hk with hst|⟨hp,_⟩
          · exact hst.symm
          · rw [hp] at hr
            cases hr
        · exact ⟨ap,by simp [Effect.apply,hkk,hk],rfl⟩
      · rw [hat ap hk] at hk'
        cases hk'
        rcases h ap hk with hst|⟨_,hg⟩
        · intro hgranted
          exact hne (hst.trans hgranted)
        · cases granted with
          | true => exact absurd ⟨rfl,ho⟩ hg
          | false => exact nofun

/-- A store of approvals: how it moves, what its board is, and the effect of
each operation on the board, with the proof that this is its effect. -/
structure ApprovalStore (σ κ ω : Type) [DecidableEq κ] where
  next : σ → ω → σ
  board : σ → Board κ
  effect : σ → ω → Effect κ
  refines : ∀ s op,board (next s op)=(effect s op).apply (board s)

variable {σ ω : Type} (S : ApprovalStore σ κ ω)

/-- The store after some operations. -/
def ApprovalStore.after (s : σ) (ops : List ω) : σ := ops.foldl S.next s

/-- Along the operations no decided approval changes its status, and no
decision past a deadline grants. -/
def ApprovalStore.Lawful (s : σ) (ops : List ω) : Prop :=
  (∀ pre mid post,ops=pre++(mid++post) →
    Settles (S.board (S.after s pre)) (S.board (S.after s (pre++mid)))) ∧
  ∀ pre op post,ops=pre++op::post →
    InTime (S.board (S.after s pre)) (S.board (S.after s (pre++[op])))
      (S.effect (S.after s pre) op)

/-- Every operation is admissible in the state it is performed in. -/
def ApprovalStore.AllAdmissible (s : σ) (ops : List ω) : Prop :=
  ∀ pre op post,ops=pre++op::post →
    Admissible (S.board (S.after s pre)) (S.effect (S.after s pre) op)

theorem ApprovalStore.board_after (s : σ) (pre : List ω) (op : ω) :
    S.board (S.after s (pre++[op]))=
      (S.effect (S.after s pre) op).apply (S.board (S.after s pre)) := by
  rw [← S.refines,after,List.foldl_append]
  rfl

/-- The laws hold along a run exactly when its steps are admissible. -/
theorem ApprovalStore.lawful_iff (s : σ) (ops : List ω) :
    S.Lawful s ops ↔ S.AllAdmissible s ops := by
  constructor
  · rintro ⟨hs,ht⟩ pre op post hops
    have hsettles := hs pre [op] post hops
    have htime := ht pre op post hops
    rw [S.board_after] at hsettles htime
    exact (effect_lawful_iff _ _).mp ⟨hsettles,htime⟩
  · intro h
    have hstep : ∀ pre op post,ops=pre++op::post →
        Settles (S.board (S.after s pre)) (S.board (S.after s (pre++[op]))) ∧
        InTime (S.board (S.after s pre)) (S.board (S.after s (pre++[op])))
          (S.effect (S.after s pre) op) := fun pre op post hops => by
      rw [S.board_after]
      exact (effect_lawful_iff _ _).mpr (h pre op post hops)
    refine ⟨fun pre mid post hops => ?_,fun pre op post hops => (hstep pre op post hops).2⟩
    induction mid using List.reverseRecOn generalizing post with
    | nil =>
      rw [List.append_nil]
      exact Settles.refl _
    | append_singleton mid op ih =>
      rw [List.append_assoc] at hops
      rw [← List.append_assoc]
      refine (ih (op::post) hops).trans (hstep (pre++mid) op post ?_).1
      rw [hops,List.append_assoc]
      rfl

end Boards

/-- The operations of the stores. -/
inductive StoreOp where
  | addApproval (sessionId : EntityId) (ap : PendingApproval) (ttl : Option Int)
  | resolveApproval (sessionId : EntityId) (approvalId : String) (granted : Bool)
      (actorTenantId : Option EntityId) (now : Time)
  | expireStaleApprovals (sessionId : Option EntityId) (ts : Time)

section Stores

/-! The stores differ in their keys, in what an unknown session means to a
sweep, and in what a missing session means to the tenant check. Messages
quote with the given `repr`. -/

variable (repr : String → String)

def keyError (text : String) : Exn := ⟨"KeyError",["LookupError"],text,none⟩

/-- The refusal of an approval that is not on the session. -/
def noPendingApproval (approvalId : String) (sessionId : EntityId) : Exn :=
  keyError (repr ("No pending approval "++repr approvalId++" on session "++repr sessionId++"."))

def crossTenantApprovalError (actor owner : EntityId) : Exn :=
  ⟨"CrossTenantApprovalError",["PermissionError","OSError"],
    "actor tenant "++repr actor++" cannot resolve approval owned by tenant "++repr owner++".",none⟩

/-! ## In memory -/

/-- `InMemorySessionStore`. -/
abbrev InMemoryStore : Type := Table EntityId Session

namespace InMemoryStore

/-- `add_approval`. -/
def addApproval (store : InMemoryStore) (sessionId : EntityId) (ap : PendingApproval)
    (ttl : Option Int) : Except Exn InMemoryStore :=
  match get store sessionId with
  | none => .error (keyError (repr sessionId))
  | some sess =>
    let updated := set sess.pendingApprovals ap.id (stamped ap ttl)
    .ok (set store sessionId {sess with pendingApprovals := updated})

/-- `resolve_approval`. -/
def resolveApproval (store : InMemoryStore) (sessionId : EntityId) (approvalId : String)
    (granted : Bool) (actorTenantId : Option EntityId) (now : Time) : Except Exn InMemoryStore :=
  match get store sessionId with
  | none => .error (keyError (repr sessionId))
  | some sess =>
    match actorTenantId.filter fun actor => decide (sess.tenantId≠actor) with
    | some actor => .error (crossTenantApprovalError repr actor sess.tenantId)
    | none =>
      match get sess.pendingApprovals approvalId with
      | none => .error (noPendingApproval repr approvalId sessionId)
      | some existing =>
        let updated := set sess.pendingApprovals approvalId (resolvedCopy existing granted now)
        .ok (set store sessionId {sess with pendingApprovals := updated})

/-- Sessions a sweep visits: the named one when it is stored, else all. -/
def swept (store : InMemoryStore) (sessionId : Option EntityId) (sid : EntityId) : Bool :=
  match sessionId.filter fun named => (get store named).isSome with
  | some named => decide (sid=named)
  | none => true

/-- `expire_stale_approvals`. -/
def expireStaleApprovals (store : InMemoryStore) (sessionId : Option EntityId) (ts : Time) :
    InMemoryStore :=
  mapValues (fun sid sess =>
    if swept store sessionId sid then
      {sess with
        pendingApprovals := mapValues (fun _ ap => expiredCopy ap ts) sess.pendingApprovals}
    else sess) store

/-- One operation; one that raises changes nothing. -/
def next (store : InMemoryStore) : StoreOp → InMemoryStore
  | .addApproval sessionId ap ttl => (addApproval repr store sessionId ap ttl).toOption.getD store
  | .resolveApproval sessionId approvalId granted actor now =>
    (resolveApproval repr store sessionId approvalId granted actor now).toOption.getD store
  | .expireStaleApprovals sessionId ts => expireStaleApprovals store sessionId ts

/-- The approval stored for a session under an id. -/
def board (store : InMemoryStore) : Board (EntityId × String) := fun k =>
  (get store k.1).bind fun sess => get sess.pendingApprovals k.2

/-- The effect of an operation. -/
def effect (store : InMemoryStore) : StoreOp → Effect (EntityId × String)
  | .addApproval sessionId ap ttl =>
    match addApproval repr store sessionId ap ttl with
    | .error _ => .idle
    | .ok _ => .put (sessionId,ap.id) (stamped ap ttl)
  | .resolveApproval sessionId approvalId granted actor now =>
    match resolveApproval repr store sessionId approvalId granted actor now with
    | .error _ => .idle
    | .ok _ => .decide (sessionId,approvalId) granted now
  | .expireStaleApprovals sessionId ts => .expire (fun k => swept store sessionId k.1) ts

/-- Storing a session's approvals anew changes the board at that session. -/
theorem board_set (store : InMemoryStore) (sid : EntityId) (sess : Session)
    (k : EntityId × String) :
    board (set store sid sess) k=
      if sid=k.1 then get sess.pendingApprovals k.2 else board store k := by
  unfold board
  rw [get_set]
  split <;> rfl

theorem refines (store : InMemoryStore) (op : StoreOp) :
    board (next repr store op)=(effect repr store op).apply (board store) := by
  funext k
  obtain ⟨sid,id⟩ := k
  cases op with
  | addApproval sessionId ap ttl =>
    cases hsess : get store sessionId with
    | none => simp [next,effect,addApproval,hsess,Effect.apply,Except.toOption]
    | some sess =>
      simp only [next,effect,addApproval,hsess,Except.toOption,Option.getD_some,board_set,get_set,
        Effect.apply,Prod.mk.injEq]
      by_cases hs : sessionId=sid
      · subst hs
        simp [board,hsess]
      · simp [hs]
  | resolveApproval sessionId approvalId granted actor now =>
    cases hsess : get store sessionId with
    | none => simp [next,effect,resolveApproval,hsess,Effect.apply,Except.toOption]
    | some sess =>
      cases hactor : actor.filter fun actor => decide (sess.tenantId≠actor) with
      | some actor =>
        simp only [next,effect,resolveApproval,hsess,hactor,Effect.apply,Except.toOption,
          Option.getD_none]
      | none =>
        cases hap : get sess.pendingApprovals approvalId with
        | none =>
          simp only [next,effect,resolveApproval,hsess,hactor,hap,Effect.apply,Except.toOption,
            Option.getD_none]
        | some existing =>
          simp only [next,effect,resolveApproval,hsess,hactor,hap,Except.toOption,
            Option.getD_some,board_set,get_set,Effect.apply,Prod.mk.injEq]
          by_cases hs : sessionId=sid
          · subst hs
            by_cases hi : approvalId=id
            · subst hi
              simp [board,hsess,hap]
            · simp [board,hsess,hi]
          · simp [hs]
  | expireStaleApprovals sessionId ts =>
    simp only [next,effect,expireStaleApprovals,board,get_mapValues,Effect.apply,Option.map_bind,
      Option.bind_map]
    cases hsess : get store sid with
    | none => rfl
    | some sess =>
      by_cases hswept : swept store sessionId sid=true
      · simp [hswept]
      · simp [hswept]

end InMemoryStore

/-- Approvals in memory, keyed by session and id. -/
def inMemorySessionStore : ApprovalStore InMemoryStore (EntityId × String) StoreOp where
  next := InMemoryStore.next repr
  board := InMemoryStore.board
  effect := InMemoryStore.effect repr
  refines := InMemoryStore.refines repr

/-! ## In Postgres -/

/-- A row of `pending_approvals`, as far as the store reads and writes it. -/
structure PendingApprovalRow (υ : Type) where
  sessionId : υ
  approval : PendingApproval

/-- The tables of `PostgresSessionStore` its approvals need. -/
structure PostgresStore (υ : Type) where
  /-- Owning tenant of every session row. -/
  sessions : Table υ υ
  pendingApprovals : Table String (PendingApprovalRow υ)

namespace PostgresStore

variable {υ : Type} [DecidableEq υ]

/-! Identifiers are read and shown by the `uuid` library. -/

variable (parse : EntityId → Option υ) (render : υ → EntityId)

/-- `_entity_id_to_uuid`. -/
def entityIdToUuid (value : EntityId) : Except Exn υ :=
  match parse value with
  | some u => .ok u
  | none => .error ⟨"ValueError",[],"badly formed hexadecimal UUID string",none⟩

/-- `add_approval`: a known id keeps its session. -/
def addApproval (store : PostgresStore υ) (sessionId : EntityId) (ap : PendingApproval)
    (ttl : Option Int) : Except Exn (PostgresStore υ) :=
  match entityIdToUuid parse sessionId with
  | .error e => .error e
  | .ok sid =>
    let row : PendingApprovalRow υ := match get store.pendingApprovals ap.id with
      | none => ⟨sid,stamped ap ttl⟩
      | some existing => ⟨existing.sessionId,stamped ap ttl⟩
    .ok {store with pendingApprovals := set store.pendingApprovals ap.id row}

/-- The tenant an actor may not act for: a missing session row is not checked. -/
def foreignOwner (store : PostgresStore υ) (sid : υ) (actorTenantId : Option EntityId) :
    Option (EntityId × EntityId) :=
  match actorTenantId,get store.sessions sid with
  | some actor,some owner => if render owner≠actor then some (actor,render owner) else none
  | _,_ => none

/-- `resolve_approval`. -/
def resolveApproval (store : PostgresStore υ) (sessionId : EntityId) (approvalId : String)
    (granted : Bool) (actorTenantId : Option EntityId) (now : Time) :
    Except Exn (PostgresStore υ) :=
  match entityIdToUuid parse sessionId with
  | .error e => .error e
  | .ok sid =>
    match (get store.pendingApprovals approvalId).filter fun row => decide (row.sessionId=sid) with
    | none => .error (noPendingApproval repr approvalId sessionId)
    | some existing =>
      match foreignOwner render store sid actorTenantId with
      | some (actor,owner) => .error (crossTenantApprovalError repr actor owner)
      | none =>
        let row := {existing with approval := resolvedCopy existing.approval granted now}
        .ok {store with pendingApprovals := set store.pendingApprovals approvalId row}

/-- `expire_stale_approvals`: one conditional update, of one session's rows
when one is named. -/
def expireStaleApprovals (store : PostgresStore υ) (sessionId : Option EntityId) (ts : Time) :
    Except Exn (PostgresStore υ) :=
  let updateRows (scope : υ → Bool) : PostgresStore υ :=
    {store with
      pendingApprovals := mapValues (fun _ row =>
        {row with
          approval := if scope row.sessionId then expiredCopy row.approval ts else row.approval})
        store.pendingApprovals}
  match sessionId with
  | none => .ok (updateRows fun _ => true)
  | some named =>
    match entityIdToUuid parse named with
    | .error e => .error e
    | .ok sid => .ok (updateRows fun u => decide (u=sid))

/-- One transaction. A failure of the database aborts it. -/
def transact (store : PostgresStore υ) : StoreOp × Option Exn → Except Exn (PostgresStore υ)
  | (_,some failure) => .error failure
  | (.addApproval sessionId ap ttl,none) => addApproval parse store sessionId ap ttl
  | (.resolveApproval sessionId approvalId granted actor now,none) =>
    resolveApproval repr parse render store sessionId approvalId granted actor now
  | (.expireStaleApprovals sessionId ts,none) => expireStaleApprovals parse store sessionId ts

/-- One operation; one that raises changes nothing. -/
def next (store : PostgresStore υ) (op : StoreOp × Option Exn) : PostgresStore υ :=
  (transact repr parse render store op).toOption.getD store

/-- The approval stored under an id. -/
def board (store : PostgresStore υ) : Board String := fun id =>
  (get store.pendingApprovals id).map PendingApprovalRow.approval

/-- Rows a sweep of the named session, or of all, goes over. -/
def swept (store : PostgresStore υ) (sessionId : Option EntityId) (id : String) : Bool :=
  match sessionId with
  | none => true
  | some named => (get store.pendingApprovals id).any fun row =>
    decide (parse named=some row.sessionId)

/-- The effect of an operation. -/
def effect (store : PostgresStore υ) (op : StoreOp × Option Exn) : Effect String :=
  match transact repr parse render store op with
  | .error _ => .idle
  | .ok _ =>
    match op.1 with
    | .addApproval _ ap ttl => .put ap.id (stamped ap ttl)
    | .resolveApproval _ approvalId granted _ now => .decide approvalId granted now
    | .expireStaleApprovals sessionId ts => .expire (swept parse store sessionId) ts

theorem refines (store : PostgresStore υ) (op : StoreOp × Option Exn) :
    board (next repr parse render store op)=
      (effect repr parse render store op).apply (board store) := by
  cases hrun : transact repr parse render store op with
  | error e => simp [next,effect,hrun,Except.toOption,Effect.apply]
  | ok after =>
    simp only [next,effect,hrun,Except.toOption,Option.getD_some]
    obtain ⟨op,failure⟩ := op
    cases failure with
    | some failure => cases hrun
    | none =>
      funext id
      cases op with
      | addApproval sessionId ap ttl =>
        simp only [transact,addApproval] at hrun
        split at hrun
        · cases hrun
        · cases hrun
          simp only [board,get_set,Effect.apply]
          split
          · cases get store.pendingApprovals ap.id <;> rfl
          · rfl
      | resolveApproval sessionId approvalId granted actor now =>
        simp only [transact,resolveApproval] at hrun
        split at hrun
        · cases hrun
        · split at hrun
          · cases hrun
          · rename_i existing hexisting
            have hrow := Option.filter_eq_some_iff.mp hexisting
            split at hrun
            · cases hrun
            · cases hrun
              simp only [board,get_set,Effect.apply]
              by_cases hi : approvalId=id
              · subst hi
                simp [hrow.1]
              · simp [hi]
      | expireStaleApprovals sessionId ts =>
        simp only [transact,expireStaleApprovals] at hrun
        cases sessionId with
        | none =>
          cases hrun
          simp [board,Effect.apply,swept,Function.comp_def]
        | some named =>
          dsimp only at hrun
          unfold entityIdToUuid at hrun
          cases hparse : parse named with
          | none => simp [hparse] at hrun
          | some sid =>
            simp only [hparse,Except.ok.injEq] at hrun
            subst hrun
            cases hrow : get store.pendingApprovals id with
            | none => simp [board,Effect.apply,hrow]
            | some row =>
              simp [board,Effect.apply,swept,hrow,hparse,eq_comm]

end PostgresStore

/-- Approvals in Postgres, keyed by id. -/
def postgresSessionStore {υ : Type} [DecidableEq υ] (parse : EntityId → Option υ)
    (render : υ → EntityId) :
    ApprovalStore (PostgresStore υ) String (StoreOp × Option Exn) where
  next := PostgresStore.next repr parse render
  board := PostgresStore.board
  effect := PostgresStore.effect repr parse render
  refines := PostgresStore.refines repr parse render

/-- In both stores decided approvals stay decided and overdue ones ungranted
along a run exactly when every operation of it stores over no decided
approval another status, and decides a pending approval, granting it in
time, or repeats a decision. -/
theorem stores_lawful_iff {υ : Type} [DecidableEq υ] (parse : EntityId → Option υ)
    (render : υ → EntityId) :
    (∀ s ops,(inMemorySessionStore repr).Lawful s ops ↔
      (inMemorySessionStore repr).AllAdmissible s ops) ∧
    ∀ s ops,(postgresSessionStore repr parse render).Lawful s ops ↔
      (postgresSessionStore repr parse render).AllAdmissible s ops :=
  ⟨fun s ops => ApprovalStore.lawful_iff _ s ops,fun s ops => ApprovalStore.lawful_iff _ s ops⟩

end Stores

/-- A pending approval with the default lifetime of fifteen minutes. -/
def ticketApproval : PendingApproval :=
  {id := "ap-t-0123456789ab-issue_ticket"
   toolName := "issue_ticket"
   summary := "Issue ticket for PNR-1"
   turnId := "t-0123456789ab"
   requestedAt := 0}

/-- A session that waits for nothing yet. -/
def quietSession : Session := {id := "s-1",tenantId := "tenant-1",actorId := "actor-1"}

/-- An approval rejected after a minute, granted after two. -/
def rejectedThenGranted : List StoreOp :=
  [.addApproval "s-1" ticketApproval none,
    .resolveApproval "s-1" ticketApproval.id false (some "tenant-1") 60,
    .resolveApproval "s-1" ticketApproval.id true (some "tenant-1") 120]

/-- An approval granted a minute after its deadline. -/
def grantedLate : List StoreOp :=
  [.addApproval "s-1" ticketApproval none,
    .resolveApproval "s-1" ticketApproval.id true (some "tenant-1") 960]

/-- Both stores turn a rejection into a grant, and grant past the deadline. -/
theorem rejected_granted_and_granted_late :
    let memory := inMemorySessionStore fun s => "'"++s++"'"
    let postgres := postgresSessionStore (fun s => "'"++s++"'") (some : EntityId → Option String) id
    let tables : PostgresStore String := ⟨[("s-1","tenant-1")],[]⟩
    ¬memory.Lawful [("s-1",quietSession)] rejectedThenGranted ∧
      ¬memory.Lawful [("s-1",quietSession)] grantedLate ∧
      ¬postgres.Lawful tables (rejectedThenGranted.map (·,none)) ∧
      ¬postgres.Lawful tables (grantedLate.map (·,none)) := by
  refine ⟨fun h => ?_,fun h => ?_,fun h => ?_,fun h => ?_⟩
  · obtain ⟨ap,hap,hst⟩ := h.1 (rejectedThenGranted.take 2) (rejectedThenGranted.drop 2) [] rfl
      ("s-1",ticketApproval.id) _ rfl rfl
    cases hap
    cases hst
  · exact h.2 (grantedLate.take 1) _ [] rfl _ rfl ⟨900,rfl,by decide⟩ (by decide) _ rfl rfl
  · obtain ⟨ap,hap,hst⟩ := h.1 ((rejectedThenGranted.take 2).map (·,none))
      ((rejectedThenGranted.drop 2).map (·,none)) [] rfl ticketApproval.id _ rfl rfl
    cases hap
    cases hst
  · exact h.2 ((grantedLate.take 1).map (·,none)) _ [] rfl _ rfl ⟨900,rfl,by decide⟩ (by decide) _
      rfl rfl

end Voyagent.ApprovalStores
