import Voyagent.SessionTranscript
import Voyagent.ToolInvocation

/-!
# Session state

The conversation, the approvals it waits for and the replay buffer of its
event stream, as the stores hand them to a request.
-/

namespace Voyagent.Sessions

open RuntimeValues KeyedMap SessionTranscript ToolInvocation

/-- `SSE_REPLAY_BUFFER_CAP`. -/
def sseReplayBufferCap : Nat := 200

/-- `DEFAULT_APPROVAL_TTL_SECONDS`. -/
def defaultApprovalTtlSeconds : Int := 15*60

/-- Status of an approval. -/
inductive ApprovalStatus where
  | pending | granted | rejected | expired
  deriving DecidableEq

/-- `_RESOLVED_STATUSES`: every status but `pending`. -/
def ApprovalStatus.resolved : ApprovalStatus → Bool
  | .pending => false
  | _ => true

/-- The status a decision sets. -/
def decided (granted : Bool) : ApprovalStatus := if granted then .granted else .rejected

@[simp] theorem resolved_eq_false (st : ApprovalStatus) : st.resolved=false ↔ st=.pending := by
  cases st <;> decide

theorem decided_resolved (granted : Bool) : (decided granted).resolved=true := by
  cases granted <;> rfl

/-- An approval the runtime is waiting on a human to resolve. -/
structure PendingApproval where
  id : String
  toolName : String
  summary : String
  turnId : String
  requestedAt : Time
  granted : Option Bool := none
  resolvedAt : Option Time := none
  expiresAt : Option Time := none
  status : ApprovalStatus := .pending
  deriving DecidableEq

/-- The deadline is set and has passed. -/
def PendingApproval.Overdue (ap : PendingApproval) (now : Time) : Prop :=
  ∃ deadline∈ap.expiresAt,deadline≤now

instance (ap : PendingApproval) (now : Time) : Decidable (ap.Overdue now) := by
  unfold PendingApproval.Overdue
  infer_instance

/-- In-process conversation state. -/
structure Session where
  id : EntityId
  tenantId : EntityId
  actorId : EntityId
  actorKind : ActorKind := .human
  messageHistory : List Message := []
  pendingApprovals : Table String PendingApproval := []
  /-- Counter of stream frames, in this process only. -/
  sseLastEventId : Nat := 0
  /-- Recent frames for replay, in this process only. -/
  sseEventBuffer : List (Nat × String) := []

/-- `approvals_map`: the decision on every resolved approval. -/
def Session.approvalsMap (s : Session) : Table String Bool :=
  s.pendingApprovals.filterMap fun e => e.2.granted.map fun g => (e.1,g)

end Voyagent.Sessions
