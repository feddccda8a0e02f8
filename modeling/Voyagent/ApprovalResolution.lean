import Voyagent.Sessions
import Voyagent.TransitionRuns

/-!
# Resolving an approval over HTTP

Any number of requests to resolve one approval run against the sweep that
expires overdue rows. A request reads the committed row without locking it,
checks what it read, and updates the row by its key alone, so what it checked
may no longer be so when its update is executed. The update holds the row
until it is committed; statements themselves succeed.
-/

namespace Voyagent.ApprovalResolution

open RuntimeValues Sessions TransitionRuns

/-- What no request changes about the approval and its session. -/
structure Approval (υ : Type) where
  id : String
  toolName : String
  sessionId : υ
  /-- Tenant of the owning session. -/
  tenantId : υ

/-- The columns of `pending_approvals` the requests read and write. -/
structure Row (υ : Type) where
  status : ApprovalStatus
  granted : Option Bool := none
  resolvedAt : Option Time := none
  resolvedByUserId : Option υ := none
  expiresAt : Option Time := none
  deriving DecidableEq

/-- A request and the principal who sent it. -/
structure ResolveRequest where
  granted : Bool
  reason : Option String := none
  userId : String
  tenantId : String

/-- `ApprovalItem`, with the fields the resolution bears on. -/
structure ApprovalItem (υ : Type) where
  id : String
  sessionId : υ
  toolName : String
  status : ApprovalStatus
  expiresAt : Option Time
  resolvedAt : Option Time
  resolvedByUserId : Option υ
  deriving DecidableEq

/-- The responses of the endpoint. -/
inductive Answer (υ : Type) where
  | ok (item : ApprovalItem υ)
  /-- 401 `unauthorized`. -/
  | unauthorized
  /-- 404 `approval_not_found`. -/
  | notFound
  /-- 409 `approval_already_resolved`. -/
  | alreadyResolved
  deriving DecidableEq

/-- The audit row of a decision. -/
structure ApprovalAudit (υ : Type) where
  tenantId : υ
  actorId : Option υ
  tool : String
  approvalId : String
  sessionId : υ
  toolName : String
  reason : Option String
  startedAt : Time
  completedAt : Time
  deriving DecidableEq

/-- Where a request stands. -/
inductive Stage (υ : Type) where
  | arrived
  /-- Holds the row it read; the tenant is checked. -/
  | loaded (row : Row υ)
  /-- Assigned its copy's attributes, to decide at a time or to expire it. -/
  | assigned (loaded target : Row υ) (decision : Option Time)
  /-- Executed its update, which is not committed yet. -/
  | flushed (loaded target : Row υ) (decision : Option Time)
  | committed (now : Time)
  /-- Read the row again for its response. -/
  | refreshed (now : Time) (row : Row υ)
  | answered (a : Answer υ)
  deriving DecidableEq

/-- The approval, the requests, and how identifiers are read. -/
structure Desk (υ : Type) where
  approval : Approval υ
  requests : Nat → ResolveRequest
  parse : String → Option υ

/-- The committed row, the request that holds it, and the requests. -/
structure World (υ : Type) where
  row : Row υ
  /-- The request whose update holds the row. -/
  writer : Option Nat := none
  requests : Nat → Stage υ := fun _ => .arrived
  /-- Audit rows with the request that wrote them. -/
  audits : List (Nat × ApprovalAudit υ) := []

/-- Steps of the requests, and the sweep of a tenant's list request. -/
inductive Act (υ : Type) where
  | read (i : Nat)
  | check (i : Nat) (now : Time)
  | update (i : Nat)
  | commit (i : Nat)
  | refresh (i : Nat)
  | audit (i : Nat)
  | sweep (tenant : υ) (now : Time)

/-- The deadline is set and has passed. -/
def Row.Overdue {υ : Type} (row : Row υ) (now : Time) : Prop := ∃ deadline∈row.expiresAt,deadline≤now

instance {υ : Type} (row : Row υ) (now : Time) : Decidable (row.Overdue now) := by
  unfold Row.Overdue
  infer_instance

section Steps

set_option linter.unusedSectionVars false

variable {υ : Type} [DecidableEq υ] (d : Desk υ)

/-- The row as a request decides it. -/
def decidedRow (row : Row υ) (i : Nat) (now : Time) : Row υ :=
  {row with
    granted := some (d.requests i).granted
    resolvedAt := some now
    resolvedByUserId := d.parse (d.requests i).userId
    status := decided (d.requests i).granted}

/-- An update sets the columns whose values differ from the loaded ones. -/
def changed {α : Type} [DecidableEq α] (loaded target old : α) : α :=
  if target=loaded then old else target

/-- The committed row after the update of a copy. -/
def updated (loaded target row : Row υ) : Row υ :=
  {status := changed loaded.status target.status row.status
   granted := changed loaded.granted target.granted row.granted
   resolvedAt := changed loaded.resolvedAt target.resolvedAt row.resolvedAt
   resolvedByUserId :=
     changed loaded.resolvedByUserId target.resolvedByUserId row.resolvedByUserId
   expiresAt := changed loaded.expiresAt target.expiresAt row.expiresAt}

/-- `_row_to_item`. -/
def rowToItem (row : Row υ) : ApprovalItem υ :=
  {id := d.approval.id
   sessionId := d.approval.sessionId
   toolName := d.approval.toolName
   status := row.status
   expiresAt := row.expiresAt
   resolvedAt := row.resolvedAt
   resolvedByUserId := row.resolvedByUserId}

/-- The row `_write_approval_audit` inserts. -/
def approvalAudit (i : Nat) (now : Time) : ApprovalAudit υ :=
  {tenantId := d.approval.tenantId
   actorId := d.parse (d.requests i).userId
   tool := if (d.requests i).granted then "approval.granted" else "approval.rejected"
   approvalId := d.approval.id
   sessionId := d.approval.sessionId
   toolName := d.approval.toolName
   reason := (d.requests i).reason
   startedAt := now
   completedAt := now}

def World.set (w : World υ) (i : Nat) (st : Stage υ) : World υ :=
  {w with requests := fun j => if j=i then st else w.requests j}

/-- Read the row with its session and check the tenant. -/
def readRow (w : World υ) (i : Nat) : Stage υ :=
  match d.parse (d.requests i).tenantId with
  | none => .answered .unauthorized
  | some tenant => if d.approval.tenantId≠tenant then .answered .notFound else .loaded w.row

/-- Check the row that was read and assign to its copy. -/
def checkRow (i : Nat) (row : Row υ) (now : Time) : Stage υ :=
  if row.status.resolved=true then .answered .alreadyResolved
  else if row.Overdue now then .assigned row {row with status := .expired} none
  else .assigned row (decidedRow d row i now) (some now)

/-- `_sweep_expired` on this row. -/
def sweepRow (row : Row υ) (tenant : υ) (now : Time) : Row υ :=
  if row.status=.pending ∧ row.Overdue now ∧ d.approval.tenantId=tenant then
    {row with status := .expired}
  else row

/-- A request after its commit: one that expired the row answers so. -/
def afterCommit (decision : Option Time) : Stage υ :=
  match decision with
  | none => .answered .alreadyResolved
  | some now => .committed now

/-- One step, when it can be taken. A held row keeps the other writers waiting. -/
def step (w : World υ) : Act υ → Option (World υ)
  | .read i =>
    match w.requests i with
    | .arrived => some (w.set i (readRow d w i))
    | _ => none
  | .check i now =>
    match w.requests i with
    | .loaded row => some (w.set i (checkRow d i row now))
    | _ => none
  | .update i =>
    match w.requests i,w.writer with
    | .assigned loaded target decision,none =>
      some {w.set i (.flushed loaded target decision) with writer := some i}
    | _,_ => none
  | .commit i =>
    match w.requests i with
    | .flushed loaded target decision =>
      some {w.set i (afterCommit decision) with
        row := updated loaded target w.row
        writer := none}
    | _ => none
  | .refresh i =>
    match w.requests i with
    | .committed now => some (w.set i (.refreshed now w.row))
    | _ => none
  | .audit i =>
    match w.requests i with
    | .refreshed now row =>
      some {w.set i (.answered (.ok (rowToItem d row))) with
        audits := w.audits++[(i,approvalAudit d i now)]}
    | _ => none
  | .sweep tenant now =>
    match w.writer with
    | none => some {w with row := sweepRow d w.row tenant now}
    | some _ => none

def Step : World υ → Act υ → World υ → Prop := ofPartial (step d)

theorem step_deterministic : Deterministic (Step d) := deterministic_ofPartial (step d)

/-- The endpoint answered success. -/
def Succeeded (w : World υ) (i : Nat) : Prop := ∃ item,w.requests i=.answered (.ok item)

/-- At most one request succeeded; if one did, the committed row is as it
decided and its audit row, with its reason, is the only one, else there is none. -/
def OneDecision (w : World υ) : Prop :=
  (∀ i j,Succeeded w i → Succeeded w j → i=j) ∧
  (∀ i,Succeeded w i → w.row.status=decided (d.requests i).granted ∧
    w.row.granted=some (d.requests i).granted ∧
    w.row.resolvedByUserId=d.parse (d.requests i).userId ∧
    ∃ now,w.audits=[(i,approvalAudit d i now)]) ∧
  ((∀ i,¬Succeeded w i) → w.audits=[])

/-- No request is under way. -/
def Finished (w : World υ) : Prop := ∀ i,w.requests i=.arrived ∨ ∃ a,w.requests i=.answered a

/-- What a request commits does not fall on a row another one has decided. -/
def OnUndecided (w : World υ) : Act υ → Prop
  | .commit _ => w.row.status≠.granted ∧ w.row.status≠.rejected
  | _ => True

/-! ## What the steps keep -/

variable {d : Desk υ} {w w' : World υ} {a : Act υ} {as : List (Act υ)} {row₀ : Row υ} {i j : Nat}

/-- What a step finds and leaves. -/
def Act.Does (d : Desk υ) (w w' : World υ) : Act υ → Prop
  | .read i => w.requests i=.arrived ∧ w'=w.set i (readRow d w i)
  | .check i now => ∃ row,w.requests i=.loaded row ∧ w'=w.set i (checkRow d i row now)
  | .update i => ∃ loaded target decision,w.requests i=.assigned loaded target decision ∧
      w'={w.set i (.flushed loaded target decision) with writer := some i}
  | .commit i => ∃ loaded target decision,w.requests i=.flushed loaded target decision ∧
      w'={w.set i (afterCommit decision) with
        row := updated loaded target w.row
        writer := none}
  | .refresh i => ∃ now,w.requests i=.committed now ∧ w'=w.set i (.refreshed now w.row)
  | .audit i => ∃ now row,w.requests i=.refreshed now row ∧
      w'={w.set i (.answered (.ok (rowToItem d row))) with
        audits := w.audits++[(i,approvalAudit d i now)]}
  | .sweep tenant now => w'={w with row := sweepRow d w.row tenant now}

theorem step_cases (h : Step d w a w') : a.Does d w w' := by
  unfold Step ofPartial step at h
  cases a with
  | read i =>
    dsimp only at h
    split at h
    · rename_i hst
      exact ⟨hst,(Option.some.inj h).symm⟩
    · cases h
  | check i now =>
    dsimp only at h
    split at h
    · rename_i row hst
      exact ⟨row,hst,(Option.some.inj h).symm⟩
    · cases h
  | update i =>
    dsimp only at h
    split at h
    · rename_i hst _
      exact ⟨_,_,_,hst,(Option.some.inj h).symm⟩
    · cases h
  | commit i =>
    dsimp only at h
    split at h
    · rename_i hst
      exact ⟨_,_,_,hst,(Option.some.inj h).symm⟩
    · cases h
  | refresh i =>
    dsimp only at h
    split at h
    · rename_i now hst
      exact ⟨now,hst,(Option.some.inj h).symm⟩
    · cases h
  | audit i =>
    dsimp only at h
    split at h
    · rename_i now row hst
      exact ⟨now,row,hst,(Option.some.inj h).symm⟩
    · cases h
  | sweep tenant now =>
    dsimp only at h
    split at h
    · exact (Option.some.inj h).symm
    · cases h

/-- The copy a request updates the row with. -/
def targetRow (d : Desk υ) (row : Row υ) (i : Nat) : Option Time → Row υ
  | none => {row with status := .expired}
  | some now => decidedRow d row i now

/-- What is known of a request at its stage: it goes on only with the
initial, pending row. -/
def StageFacts (d : Desk υ) (row₀ : Row υ) (i : Nat) : Stage υ → Prop
  | .loaded row => row.status=.pending → row=row₀
  | .assigned loaded target decision =>
    row₀.status=.pending ∧ loaded=row₀ ∧ target=targetRow d row₀ i decision
  | .flushed loaded target decision =>
    row₀.status=.pending ∧ loaded=row₀ ∧ target=targetRow d row₀ i decision
  | _ => True

/-- A request that committed its decision. -/
def Stage.Decided : Stage υ → Prop
  | .committed _ => True
  | .refreshed _ _ => True
  | .answered (.ok _) => True
  | _ => False

/-- Known in every state reached from the initial row. -/
structure Facts (d : Desk υ) (row₀ : Row υ) (w : World υ) : Prop where
  pending : w.row.status=.pending → w.row=row₀
  stages : ∀ i,StageFacts d row₀ i (w.requests i)
  audited : ∀ i,i∈w.audits.map Prod.fst ↔ Succeeded w i
  once : (w.audits.map Prod.fst).Nodup
  genuine : ∀ e∈w.audits,∃ now,e.2=approvalAudit d e.1 now

@[simp] theorem set_requests_self (w : World υ) (i : Nat) (st : Stage υ) :
    (w.set i st).requests i=st := by
  simp [World.set]

theorem set_requests_other (w : World υ) (st : Stage υ) (h : j≠i) :
    (w.set i st).requests j=w.requests j := by
  simp [World.set,h]

theorem targetRow_status (d : Desk υ) (row : Row υ) (i : Nat) (decision : Option Time) :
    (targetRow d row i decision).status≠.pending := by
  cases decision with
  | none => exact nofun
  | some now =>
    intro h
    have hr := decided_resolved (d.requests i).granted
    change decided _=_ at h
    rw [h] at hr
    cases hr

theorem facts_start (d : Desk υ) (row₀ : Row υ) : Facts d row₀ {row := row₀} where
  pending := fun _ => rfl
  stages := fun _ => trivial
  audited := fun _ => ⟨fun h => absurd h List.not_mem_nil,fun ⟨_,h⟩ => by cases h⟩
  once := List.nodup_nil
  genuine := fun _ h => absurd h List.not_mem_nil

/-- A request moves on to a stage that is no success, and may write the row. -/
theorem Facts.move (h : Facts d row₀ w) {st : Stage υ} (row : Row υ) (writer : Option Nat)
    (hrow : row.status=.pending → row=row₀) (hst : StageFacts d row₀ i st)
    (hold : ¬Succeeded w i) (hnew : ∀ item,st≠.answered (.ok item)) :
    Facts d row₀ {w.set i st with
      row
      writer} := by
  refine ⟨hrow,fun j => ?_,fun j => ?_,h.once,h.genuine⟩
  · by_cases hj : j=i
    · subst hj
      simpa using hst
    · simpa [set_requests_other w st hj] using h.stages j
  · change j∈w.audits.map Prod.fst ↔ _
    rw [h.audited j]
    by_cases hj : j=i
    · subst hj
      refine iff_of_false hold ?_
      rintro ⟨item,hitem⟩
      exact hnew item ((set_requests_self w j st).symm.trans hitem)
    · simp [Succeeded,set_requests_other w st hj]

/-- A stage that is no response is no success. -/
theorem not_succeeded {st : Stage υ} (h : w.requests i=st) (hst : ∀ a,st≠.answered a) :
    ¬Succeeded w i := fun ⟨_,hi⟩ => hst _ (h.symm.trans hi)

theorem sweepRow_pending (row : Row υ) (tenant : υ) (now : Time)
    (h : (sweepRow d row tenant now).status=.pending) : sweepRow d row tenant now=row := by
  unfold sweepRow at h ⊢
  split
  · rename_i hc
    rw [if_pos hc] at h
    cases h
  · rfl

/-- One step keeps the facts. -/
theorem Facts.step (h : Facts d row₀ w) (hs : Step d w a w') : Facts d row₀ w' := by
  have hdoes := step_cases hs
  cases a with
  | read i =>
    obtain ⟨hst,rfl⟩ := hdoes
    have hold := not_succeeded hst fun _ => nofun
    unfold readRow
    split
    · exact h.move w.row w.writer h.pending trivial hold nofun
    · split
      · exact h.move w.row w.writer h.pending trivial hold nofun
      · exact h.move w.row w.writer h.pending h.pending hold nofun
  | check i now =>
    obtain ⟨row,hst,rfl⟩ := hdoes
    have hold := not_succeeded hst fun _ => nofun
    have hloaded := h.stages i
    rw [hst] at hloaded
    unfold checkRow
    split
    · exact h.move w.row w.writer h.pending trivial hold nofun
    · rename_i hr
      have hp : row.status=.pending := (resolved_eq_false _).mp (by simpa using hr)
      obtain rfl := hloaded hp
      split
      · exact h.move w.row w.writer h.pending ⟨hp,rfl,rfl⟩ hold nofun
      · exact h.move w.row w.writer h.pending ⟨hp,rfl,rfl⟩ hold nofun
  | update i =>
    obtain ⟨_,_,_,hst,rfl⟩ := hdoes
    have hstage := h.stages i
    rw [hst] at hstage
    exact h.move w.row (some i) h.pending hstage (not_succeeded hst fun _ => nofun) nofun
  | commit i =>
    obtain ⟨loaded,target,decision,hst,rfl⟩ := hdoes
    have hstage := h.stages i
    rw [hst] at hstage
    obtain ⟨hp,rfl,rfl⟩ := hstage
    have hne := targetRow_status d loaded i decision
    refine h.move _ none (fun hpend => ?_) ?_ (not_succeeded hst fun _ => nofun) ?_
    · -- The update always sets the status.
      simp only [updated,changed,hp,if_neg hne] at hpend
      exact absurd hpend hne
    · cases decision <;> trivial
    · cases decision <;> exact nofun
  | refresh i =>
    obtain ⟨now,hst,rfl⟩ := hdoes
    exact h.move w.row w.writer h.pending trivial (not_succeeded hst fun _ => nofun) nofun
  | audit i =>
    obtain ⟨now,row,hst,rfl⟩ := hdoes
    have hold := not_succeeded hst fun _ => nofun
    refine ⟨h.pending,fun j => ?_,fun j => ?_,?_,fun e he => ?_⟩
    · by_cases hj : j=i
      · subst hj
        simp [StageFacts]
      · simpa [set_requests_other w _ hj] using h.stages j
    · simp only [List.map_append,List.map_cons,List.map_nil,List.mem_append,List.mem_singleton,
        h.audited j]
      by_cases hj : j=i
      · subst hj
        exact iff_of_true (.inr rfl) ⟨_,set_requests_self w j _⟩
      · simp [Succeeded,set_requests_other w _ hj,hj]
    · simp only [List.map_append,List.map_cons,List.map_nil]
      refine List.nodup_append.mpr ⟨h.once,by simp,fun x hx y hy => ?_⟩
      rw [List.mem_singleton.mp hy]
      rintro rfl
      exact hold ((h.audited x).mp hx)
    · rcases List.mem_append.mp he with he|he
      · exact h.genuine e he
      · rw [List.mem_singleton.mp he]
        exact ⟨now,rfl⟩
  | sweep tenant now =>
    obtain rfl := hdoes
    refine ⟨fun hp => ?_,h.stages,h.audited,h.once,h.genuine⟩
    have hsame := sweepRow_pending w.row tenant now hp
    change sweepRow d w.row tenant now=row₀
    rw [hsame]
    exact h.pending (by rw [← hsame]; exact hp)

/-- What has become of the approval. `clean` says whether every commit so
far found it undecided. -/
inductive Outcome (d : Desk υ) (row₀ : Row υ) (w : World υ) (clean : Prop) : Prop
  | undecided (hclean : clean) (hnone : ∀ i,¬(w.requests i).Decided)
      (hrow : w.row=row₀ ∨ (row₀.status=.pending ∧ w.row={row₀ with status := .expired}))
  | decidedBy (i : Nat) (hclean : clean) (hi : ∀ j,(w.requests j).Decided ↔ j=i)
      (hrow : w.row.status=decided (d.requests i).granted ∧
        w.row.granted=some (d.requests i).granted ∧
        w.row.resolvedByUserId=d.parse (d.requests i).userId)
  /-- An expiry was committed over a decision. -/
  | overwritten (i : Nat) (hunclean : ¬clean) (hi : (w.requests i).Decided)
      (hrow : w.row.status=.expired)
  | twice (i j : Nat) (hunclean : ¬clean) (hne : i≠j) (hi : (w.requests i).Decided)
      (hj : (w.requests j).Decided)

/-- A step that decides nothing and at most expires a pending row. -/
theorem Outcome.quiet {clean clean' : Prop} (h : Outcome d row₀ w clean) (hclean : clean' ↔ clean)
    (hdecided : ∀ j,(w'.requests j).Decided ↔ (w.requests j).Decided)
    (hrow : w'.row=w.row ∨ (w.row.status=.pending ∧ w'.row={w.row with status := .expired})) :
    Outcome d row₀ w' clean' := by
  cases h with
  | undecided hc hnone hr =>
    refine .undecided (hclean.mpr hc) (fun j hj => hnone j ((hdecided j).mp hj)) ?_
    rcases hrow with hrow|⟨hp,hrow⟩
    · rw [hrow]
      exact hr
    · rcases hr with hr|⟨_,hr⟩
      · exact .inr ⟨by rw [← hr]; exact hp,by rw [hrow,hr]⟩
      · rw [hr] at hp
        cases hp
  | decidedBy i hc hi hr =>
    refine .decidedBy i (hclean.mpr hc) (fun j => (hdecided j).trans (hi j)) ?_
    rcases hrow with hrow|⟨hp,_⟩
    · rw [hrow]
      exact hr
    · have hd := decided_resolved (d.requests i).granted
      rw [← hr.1,hp] at hd
      cases hd
  | overwritten i hc hi hr =>
    refine .overwritten i (fun h => hc (hclean.mp h)) ((hdecided i).mpr hi) ?_
    rcases hrow with hrow|⟨_,hrow⟩
    · rw [hrow]
      exact hr
    · rw [hrow]
  | twice i j hc hne hi hj =>
    exact .twice i j (fun h => hc (hclean.mp h)) hne ((hdecided i).mpr hi) ((hdecided j).mpr hj)

/-- A request that moves between undecided stages, or between decided ones,
leaves the decided requests as they are. -/
theorem decided_set {st : Stage υ} (h : st.Decided ↔ (w.requests i).Decided) (j : Nat) :
    ((w.set i st).requests j).Decided ↔ (w.requests j).Decided := by
  by_cases hj : j=i
  · subst hj
    rw [set_requests_self]
    exact h
  · rw [set_requests_other w st hj]

theorem not_decided {st st' : Stage υ} (h : w.requests i=st) (hst : ¬st.Decided)
    (hst' : ¬st'.Decided) : st'.Decided ↔ (w.requests i).Decided :=
  iff_of_false hst' (by rw [h]; exact hst)

/-- A column of a copy reaches the row when the row still has the loaded value. -/
theorem changed_self {α : Type} [DecidableEq α] (loaded target : α) :
    changed loaded target loaded=target := by
  unfold changed
  split
  · rename_i h
    exact h.symm
  · rfl

/-- A column the copy does not touch stays. -/
theorem changed_same {α : Type} [DecidableEq α] (loaded old : α) :
    changed loaded loaded old=old := if_pos rfl

/-- A commit sets the status of the copy, whatever the row has become. -/
theorem updated_status (hp : row₀.status=.pending) (i : Nat) (decision : Option Time) (row : Row υ) :
    (updated row₀ (targetRow d row₀ i decision) row).status=
      (targetRow d row₀ i decision).status := by
  refine if_neg ?_
  rw [hp]
  exact targetRow_status d row₀ i decision

/-- A commit of a decision or of an expiry. -/
theorem Outcome.commit {clean : Prop} {decision : Option Time} {loaded target : Row υ}
    (h : Outcome d row₀ w clean) (hst : w.requests i=.flushed loaded target decision)
    (hp : row₀.status=.pending) (hloaded : loaded=row₀)
    (htarget : target=targetRow d row₀ i decision) :
    Outcome d row₀ {w.set i (afterCommit decision) with
      row := updated loaded target w.row
      writer := none} (clean ∧ OnUndecided w (.commit i)) := by
  subst hloaded htarget
  have hself : ¬(w.requests i).Decided := by rw [hst]; exact id
  have hother : ∀ j,j≠i → ((w.set i (afterCommit decision)).requests j=w.requests j) :=
    fun j hj => set_requests_other w _ hj
  have hdecided : ∀ j,(w.requests j).Decided →
      ((w.set i (afterCommit decision)).requests j).Decided := fun j hj => by
    have hne : j≠i := fun he => hself (he ▸ hj)
    rw [hother j hne]
    exact hj
  have hstatus := updated_status (d:=d) hp i decision w.row
  cases h with
  | undecided hc hnone hr =>
    have hon : OnUndecided w (.commit i) := by
      rcases hr with hr|⟨_,hr⟩ <;> rw [OnUndecided,hr] <;> simp [hp]
    have hcolumns : w.row.granted=loaded.granted ∧ w.row.resolvedAt=loaded.resolvedAt ∧
        w.row.resolvedByUserId=loaded.resolvedByUserId ∧ w.row.expiresAt=loaded.expiresAt := by
      rcases hr with hr|⟨_,hr⟩ <;> rw [hr] <;> exact ⟨rfl,rfl,rfl,rfl⟩
    obtain ⟨hgranted,hat,hby,hexp⟩ := hcolumns
    cases decision with
    | none =>
      refine .undecided ⟨hc,hon⟩ (fun j => ?_) (.inr ⟨hp,?_⟩)
      · by_cases hj : j=i
        · subst hj
          change ¬((w.set j _).requests j).Decided
          rw [set_requests_self]
          exact id
        · change ¬((w.set i _).requests j).Decided
          rw [hother j hj]
          exact hnone j
      · change updated loaded (targetRow d loaded i none) w.row=_
        simp only [updated,targetRow,changed_same,hgranted,hat,hby,hexp,Row.mk.injEq,and_true]
        rw [hp]
        rfl
    | some now =>
      refine .decidedBy i ⟨hc,hon⟩ (fun j => ?_) ⟨hstatus,?_,?_⟩
      · by_cases hj : j=i
        · subst hj
          change ((w.set j _).requests j).Decided ↔ _
          rw [set_requests_self]
          exact iff_of_true trivial rfl
        · change ((w.set i _).requests j).Decided ↔ _
          rw [hother j hj]
          exact iff_of_false (hnone j) hj
      · change changed loaded.granted _ w.row.granted=_
        rw [hgranted,changed_self]
        rfl
      · change changed loaded.resolvedByUserId _ w.row.resolvedByUserId=_
        rw [hby,changed_self]
        rfl
  | decidedBy j hc hj hr =>
    have hjd : (w.requests j).Decided := (hj j).mpr rfl
    have hne : j≠i := fun he => hself (he ▸ hjd)
    have hunclean : ¬(clean ∧ OnUndecided w (.commit i)) := by
      rintro ⟨_,hg,hre⟩
      rw [hr.1] at hg hre
      cases hgr : (d.requests j).granted <;> simp [hgr,decided] at hg hre
    cases decision with
    | none => exact .overwritten j hunclean (hdecided j hjd) hstatus
    | some now =>
      refine .twice j i hunclean hne (hdecided j hjd) ?_
      change ((w.set i _).requests i).Decided
      rw [set_requests_self]
      trivial
  | overwritten j hc hj hr =>
    have hne : j≠i := fun he => hself (he ▸ hj)
    have hunclean : ¬(clean ∧ OnUndecided w (.commit i)) := fun h => hc h.1
    cases decision with
    | none => exact .overwritten j hunclean (hdecided j hj) hstatus
    | some now =>
      refine .twice j i hunclean hne (hdecided j hj) ?_
      change ((w.set i _).requests i).Decided
      rw [set_requests_self]
      trivial
  | twice j k hc hne hj hk =>
    exact .twice j k (fun h => hc h.1) hne (hdecided j hj) (hdecided k hk)

/-- One step carries the outcome on. -/
theorem Outcome.step {clean : Prop} (hf : Facts d row₀ w) (h : Outcome d row₀ w clean)
    (hs : Step d w a w') : Outcome d row₀ w' (clean ∧ OnUndecided w a) := by
  have hdoes := step_cases hs
  cases a with
  | read i =>
    obtain ⟨hst,rfl⟩ := hdoes
    refine h.quiet (and_iff_left trivial) (decided_set (not_decided hst id ?_)) (.inl rfl)
    unfold readRow
    split
    · exact id
    · split <;> exact id
  | check i now =>
    obtain ⟨row,hst,rfl⟩ := hdoes
    refine h.quiet (and_iff_left trivial) (decided_set (not_decided hst id ?_)) (.inl rfl)
    unfold checkRow
    split
    · exact id
    · split <;> exact id
  | update i =>
    obtain ⟨_,_,_,hst,rfl⟩ := hdoes
    exact h.quiet (and_iff_left trivial) (decided_set (not_decided hst id id)) (.inl rfl)
  | commit i =>
    obtain ⟨loaded,target,decision,hst,rfl⟩ := hdoes
    have hstage := hf.stages i
    rw [hst] at hstage
    exact h.commit hst hstage.1 hstage.2.1 hstage.2.2
  | refresh i =>
    obtain ⟨now,hst,rfl⟩ := hdoes
    refine h.quiet (and_iff_left trivial) (decided_set ?_) (.inl rfl)
    rw [hst]
    exact Iff.rfl
  | audit i =>
    obtain ⟨now,row,hst,rfl⟩ := hdoes
    refine h.quiet (and_iff_left trivial) (decided_set ?_) (.inl rfl)
    rw [hst]
    exact Iff.rfl
  | sweep tenant now =>
    obtain rfl := hdoes
    refine h.quiet (and_iff_left trivial) (fun _ => Iff.rfl) ?_
    change sweepRow d w.row tenant now=w.row ∨ _ ∧ sweepRow d w.row tenant now=_
    unfold sweepRow
    split
    · rename_i hc
      exact .inr ⟨hc.1,rfl⟩
    · exact .inl rfl

theorem facts_of_run (hrun : Run (Step d) {row := row₀} as w) : Facts d row₀ w :=
  hrun.invariant (facts_start d row₀) fun _ _ _ h hs => h.step hs

/-- Every run ends in an outcome, clean exactly when its commits were. -/
theorem outcome_of_run (hrun : Run (Step d) {row := row₀} as w) :
    Outcome d row₀ w (Run (guarded (Step d) OnUndecided) {row := row₀} as w) := by
  induction hrun with
  | start => exact .undecided .start (fun _ => id) (.inl rfl)
  | next hrun hs ih =>
    rw [propext (hrun.guarded_next_iff (step_deterministic d) hs)]
    exact ih.step (facts_of_run hrun) hs

theorem Succeeded.decided (h : Succeeded w i) : (w.requests i).Decided := by
  obtain ⟨item,hi⟩ := h
  rw [hi]
  trivial

/-- The only success has the only audit row. -/
theorem audits_of_only (hf : Facts d row₀ w) (hi : Succeeded w i)
    (honly : ∀ j,Succeeded w j → j=i) : ∃ now,w.audits=[(i,approvalAudit d i now)] := by
  have hmem := (hf.audited i).mpr hi
  have hall : ∀ e∈w.audits,e.1=i := fun e he =>
    honly _ ((hf.audited e.1).mp (List.mem_map_of_mem he))
  have honce := hf.once
  have hgenuine := hf.genuine
  cases haudits : w.audits with
  | nil =>
    rw [haudits] at hmem
    cases hmem
  | cons e rest =>
    rw [haudits] at hall honce hgenuine
    cases rest with
    | nil =>
      obtain ⟨now,hnow⟩ := hgenuine e List.mem_cons_self
      have he := hall e List.mem_cons_self
      refine ⟨now,?_⟩
      obtain ⟨k,row⟩ := e
      obtain rfl : k=i := he
      rw [show row=_ from hnow]
    | cons e' rest =>
      have he := hall e List.mem_cons_self
      have he' := hall e' (List.mem_cons_of_mem _ List.mem_cons_self)
      simp [he,he'] at honce

/-- Without a success there is no audit row. -/
theorem audits_of_none (hf : Facts d row₀ w) (hno : ∀ i,¬Succeeded w i) : w.audits=[] := by
  have hnil : w.audits.map Prod.fst=[] :=
    List.eq_nil_iff_forall_not_mem.mpr fun i hi => hno i ((hf.audited i).mp hi)
  exact List.map_eq_nil_iff.mp hnil

/-- An approval decided at most once, cleanly, has one decision. -/
theorem oneDecision_of_clean {clean : Prop} (hf : Facts d row₀ w) (h : Outcome d row₀ w clean)
    (hc : clean) : OneDecision d w := by
  cases h with
  | undecided _ hnone _ =>
    exact ⟨fun i _ hi _ => absurd hi.decided (hnone i),fun i hi => absurd hi.decided (hnone i),
      audits_of_none hf⟩
  | decidedBy i _ hi hr =>
    have honly : ∀ j,Succeeded w j → j=i := fun j hj => (hi j).mp hj.decided
    refine ⟨fun j k hj hk => (honly j hj).trans (honly k hk).symm,fun j hj => ?_,audits_of_none hf⟩
    obtain rfl := honly j hj
    exact ⟨hr.1,hr.2.1,hr.2.2,audits_of_only hf hj honly⟩
  | overwritten _ hunclean _ _ => exact absurd hc hunclean
  | twice _ _ hunclean _ _ _ => exact absurd hc hunclean

theorem Finished.succeeded (hfin : Finished w) (h : (w.requests i).Decided) : Succeeded w i := by
  rcases hfin i with hi|⟨a,hi⟩
  · rw [hi] at h
    exact h.elim
  · rw [hi] at h
    cases a with
    | ok item => exact ⟨item,hi⟩
    | unauthorized => exact h.elim
    | notFound => exact h.elim
    | alreadyResolved => exact h.elim

/-- While every commit finds the approval undecided, in every state reached
at most one request has succeeded, and the row and the only audit row are
its. Of a finished run this is true only then. -/
theorem one_decision_iff (d : Desk υ) (row₀ : Row υ) (as : List (Act υ)) (w : World υ)
    (hrun : Run (Step d) {row := row₀} as w) :
    (Run (guarded (Step d) OnUndecided) {row := row₀} as w → OneDecision d w) ∧
      (Finished w →
        (OneDecision d w ↔ Run (guarded (Step d) OnUndecided) {row := row₀} as w)) := by
  have hf := facts_of_run hrun
  have hout := outcome_of_run hrun
  refine ⟨oneDecision_of_clean hf hout,fun hfin => ⟨fun h => ?_,oneDecision_of_clean hf hout⟩⟩
  cases hout with
  | undecided hclean _ _ => exact hclean
  | decidedBy _ hclean _ _ => exact hclean
  | overwritten i _ hi hr =>
    -- The one that answered success is not what is committed.
    have hd := (h.2.1 i (hfin.succeeded hi)).1
    rw [hr] at hd
    cases hg : (d.requests i).granted <;> simp [hg,decided] at hd
  | twice i j _ hne hi hj => exact absurd (h.1 i j (hfin.succeeded hi) (hfin.succeeded hj)) hne

end Steps

/-- Two users of a tenant: one grants, the other rejects. -/
def ticketDesk : Desk String :=
  {approval :=
    {id := "ap-t-0123456789ab-issue_ticket"
     toolName := "issue_ticket"
     sessionId := "s-1"
     tenantId := "tenant-1"}
   requests := fun
    | 0 => {granted := true,userId := "lead",tenantId := "tenant-1"}
    | _ => {granted := false,reason := some "wrong fare",userId := "auditor",tenantId := "tenant-1"}
   parse := some}

/-- A pending row with a deadline. -/
def ticketRow : Row String := {status := .pending,expiresAt := some 900}

/-- The grant alone. -/
def aloneRequest : List (Act String) :=
  [.read 0,.check 0 60,.update 0,.commit 0,.refresh 0,.audit 0]

/-- Both requests read the row before either commits. -/
def racingRequests : List (Act String) :=
  [.read 0,.read 1,.check 0 60,.check 1 60,.update 0,.commit 0,.refresh 0,.audit 0,
    .update 1,.commit 1,.refresh 1,.audit 1]

/-- Alone, the grant is the one decision. -/
theorem one_decision_iff_alone : ∃ w,Run (Step ticketDesk) {row := ticketRow} aloneRequest w ∧
    w.row.status=.granted ∧ OneDecision ticketDesk w := by
  have hread : Run (guarded (Step ticketDesk) OnUndecided) {row := ticketRow} [.read 0] _ :=
    Run.start.next ⟨rfl,trivial⟩
  have hcheck := hread.next (l:=Act.check 0 60) ⟨rfl,trivial⟩
  have hupdate := hcheck.next (l:=Act.update 0) ⟨rfl,trivial⟩
  have hcommit := hupdate.next (l:=Act.commit 0) ⟨rfl,by decide,by decide⟩
  have hrefresh := hcommit.next (l:=Act.refresh 0) ⟨rfl,trivial⟩
  have hrun := hrefresh.next (l:=Act.audit 0) ⟨rfl,trivial⟩
  exact ⟨_,hrun.unguard,rfl,(one_decision_iff _ _ aloneRequest _ hrun.unguard).1 hrun⟩

/-- Both requests answer success, the rejection stands, and there are two
audit rows. -/
theorem racing_requests_both_succeed : ∃ w,
    Run (Step ticketDesk) {row := ticketRow} racingRequests w ∧ Succeeded w 0 ∧ Succeeded w 1 ∧
      (ticketDesk.requests 0).granted=true ∧ w.row.status=.rejected ∧
      w.audits.map Prod.fst=[0,1] ∧ ¬OneDecision ticketDesk w := by
  refine ⟨_,run_of_foldlM rfl,⟨_,rfl⟩,⟨_,rfl⟩,rfl,rfl,rfl,fun h => ?_⟩
  exact absurd (h.1 0 1 ⟨_,rfl⟩ ⟨_,rfl⟩) (by decide)

end Voyagent.ApprovalResolution
