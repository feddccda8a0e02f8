import Mathlib.Algebra.Order.Field.Rat
import Mathlib.Tactic.Linarith
import Mathlib.Tactic.NormNum

/-!
# Waiting for the result of a portal job

The queue in Redis gives no notice of a result, so the client asks for it again
and again, with pauses that grow up to two seconds, until its wait is over.
-/

namespace Voyagent.ResultPolling

variable {ρ : Type}

/-- One request for the result: what it finds, and the clock after it. -/
structure Poll (ρ : Type) where
  askedAt : Rat
  payload : Option ρ
  now : Rat

/-- The client wakes no earlier than it asked to, and a request takes at most
`latency` and finds what is stored when it is sent. -/
structure Answers (stored : Rat → Option ρ) (latency : Rat) (poll : Nat → Rat → Poll ρ) : Prop where
  awake : ∀ n t,t≤(poll n t).askedAt
  asked : ∀ n t,(poll n t).askedAt≤(poll n t).now
  swift : ∀ n t,(poll n t).now≤(poll n t).askedAt+latency
  found : ∀ n t,(poll n t).payload=stored (poll n t).askedAt

variable {deadline latency : Rat} {stored : Rat → Option ρ} {poll : Nat → Rat → Poll ρ}

end Voyagent.ResultPolling
