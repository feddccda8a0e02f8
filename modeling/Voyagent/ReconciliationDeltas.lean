import Voyagent.DecimalValues
import Voyagent.ReconciledRows

/-!
# Deltas of a reconciliation

The canonical model describes the delta of an item as the external amount minus
the internal one. A match states zero instead, and a discrepancy the difference
as the decimal context rounds it.
-/

namespace Voyagent.ReconciliationDeltas

open RuntimeValues KeyedMap Decimals DecimalValues TicketReconciliation ReconciledRows

/-- The external minus the internal amount. -/
def difference (external internal : Money) : ℚ := value external.amount-value internal.amount

/-- What the item states of two amounts in one currency: their exact difference,
and a match exactly within the tolerance. -/
structure ExactFor (item : ReconciliationItem) (external internal : Money) : Prop where
  delta : ∃ d,item.delta=some d ∧ d.currency=external.currency ∧ value d.amount=difference external internal
  matched : item.outcome=.matched ↔ |difference external internal|≤ value amountTolerance

/-- The item is exact wherever it has both amounts in one currency. -/
def ExactDelta (item : ReconciliationItem) : Prop :=
  ∀ external internal,item.externalAmount=some external → item.internalAmount=some internal →
    external.currency=internal.currency → ExactFor item external internal

/-- The amounts are equal, or further apart than the tolerance by a number that
the decimal context can hold. -/
def Computable (external internal : Money) : Prop :=
  difference external internal=0 ∨
    value amountTolerance < |difference external internal| ∧ FitsContext (difference external internal)

theorem fitsContext_zero : FitsContext 0 := ⟨0,0,by decide,by simp⟩

/-- Within the tolerance is what the rounded difference is. -/
theorem withinTolerance_iff (a b : Decimal) :
    amountWithinTolerance a b=true ↔ |value (b.sub a)|≤ value amountTolerance := by
  unfold amountWithinTolerance
  rw [le_eq,decide_eq_true_iff,value_copyAbs,value_sub_comm,abs_neg]

/-- The item of a sale and its ticket is exact exactly if their difference can be computed. -/
theorem pairedItem_exact_iff {tx : BSPTransaction} {t : Ticket}
    (hcurrency : t.totalAmount.currency=tx.net.currency) :
    ExactFor (pairedItem tx t) tx.net t.totalAmount ↔ Computable tx.net t.totalAmount := by
  have hexact : value (tx.net.amount.sub t.totalAmount.amount)=difference tx.net t.totalAmount ↔
      FitsContext (difference tx.net t.totalAmount) := value_sub_iff _ _
  have hwithin := withinTolerance_iff t.totalAmount.amount tx.net.amount
  unfold pairedItem Computable
  rw [if_neg (not_not_intro hcurrency)]
  split
  · rename_i hmatched
    have hsmall := hwithin.mp hmatched
    constructor
    · rintro ⟨⟨d,hd,-,hvalue⟩,-⟩
      cases hd
      refine .inl (hvalue.symm.trans ?_)
      simp [value,zero]
    · rintro (hzero|⟨hlarge,hfits⟩)
      · refine ⟨⟨_,rfl,rfl,?_⟩,iff_of_true rfl ?_⟩
        · rw [hzero]
          simp [value,zero]
        · rw [hzero,abs_zero]
          simp [value,amountTolerance]
      · rw [hexact.mpr hfits] at hsmall
        exact absurd hsmall (not_le.mpr hlarge)
  · rename_i hapart
    have hlarge := not_le.mp (hwithin.not.mp hapart)
    constructor
    · rintro ⟨⟨d,hd,-,hvalue⟩,-⟩
      cases hd
      have hvalue : value (tx.net.amount.sub t.totalAmount.amount)=difference tx.net t.totalAmount :=
        hvalue
      rw [hvalue] at hlarge
      exact .inr ⟨hlarge,hexact.mp hvalue⟩
    · intro hcomputable
      have hfits : FitsContext (difference tx.net t.totalAmount) := by
        rcases hcomputable with hzero|⟨-,hfits⟩
        · rw [hzero]
          exact fitsContext_zero
        · exact hfits
      have hvalue := hexact.mpr hfits
      rw [hvalue] at hlarge
      exact ⟨⟨_,rfl,rfl,hvalue⟩,iff_of_false (fun h => by cases h) (not_le.mpr hlarge)⟩

/-- Only the item of a sale that leads to a ticket in its currency has both amounts in one. -/
theorem itemOf_exact_iff (tickets : List Ticket) (tx : BSPTransaction) :
    ExactDelta (itemOf (ticketIndex tickets) tx) ↔
      ∀ t,billedTicket (ticketIndex tickets) tx=some t → t.totalAmount.currency=tx.net.currency →
        Computable tx.net t.totalAmount := by
  by_cases hsale : tx.kind=.sale
  · have hbilled : billedTicket (ticketIndex tickets) tx=get (ticketIndex tickets) tx.key := if_pos hsale
    rw [hbilled,itemOf,if_neg (not_not_intro hsale)]
    cases hget : get (ticketIndex tickets) tx.key with
    | none => exact iff_of_true (fun _ _ _ hinternal => nomatch hinternal) nofun
    | some t =>
      have hamounts : (pairedItem tx t).externalAmount=some tx.net ∧
          (pairedItem tx t).internalAmount=some t.totalAmount := by
        unfold pairedItem
        split
        · exact ⟨rfl,rfl⟩
        · split <;> exact ⟨rfl,rfl⟩
      constructor
      · intro h u hu hcurrency
        cases hu
        exact (pairedItem_exact_iff hcurrency).mp (h _ _ hamounts.1 hamounts.2 hcurrency.symm)
      · intro h external internal hexternal hinternal hcurrency
        cases hamounts.1.symm.trans hexternal
        cases hamounts.2.symm.trans hinternal
        exact (pairedItem_exact_iff hcurrency.symm).mpr (h t rfl hcurrency.symm)
  · have hbilled : billedTicket (ticketIndex tickets) tx=none := if_neg hsale
    rw [hbilled,itemOf,if_pos hsale]
    exact iff_of_true (fun _ _ _ hinternal => nomatch hinternal) nofun

/-- Every item of a reconciliation is exact if and only if the amounts of every
sale and its ticket, where their currency is one, are equal or far enough apart. -/
theorem deltas_exact_iff (report : BSPReport) (tickets : List Ticket) (id : EntityId) (now : Time) :
    (∀ item∈(reconcileBspAgainstTickets report tickets id now).items,ExactDelta item) ↔
      ∀ tx∈report.transactions,∀ t,billedTicket (ticketIndex tickets) tx=some t →
        t.totalAmount.currency=tx.net.currency → Computable tx.net t.totalAmount := by
  obtain ⟨leftover,hitems,-⟩ := reconcile_rows report tickets id now
  rw [hitems]
  constructor
  · intro h tx htx
    refine (itemOf_exact_iff tickets tx).mp (h _ (List.mem_append_left _ ?_))
    exact List.mem_map_of_mem htx
  · intro h item hitem
    rcases List.mem_append.mp hitem with hitem|hitem
    · obtain ⟨tx,htx,rfl⟩ := List.mem_map.mp hitem
      exact (itemOf_exact_iff tickets tx).mpr (h tx htx)
    · obtain ⟨t,-,rfl⟩ := List.mem_map.mp hitem
      exact fun _ _ hexternal => nomatch hexternal

theorem saleNumber_valid : isTicketNumber "098-1234567890"=true := by decide

theorem airIndia_valid : HafMapping.isIataCode "AI"=true := by decide

/-- A sale of one hundred whose ticket has fifty hundredths less. -/
def nearTicket : Ticket :=
  ⟨"ticket-1","098-1234567890","AI",⟨⟨9950,-2⟩,inr⟩,saleNumber_valid,airIndia_valid⟩

/-- The match states no difference where there is one. -/
theorem matched_without_delta :
    ¬∀ item∈(reconcileBspAgainstTickets ⟨"tenant",may,[sale]⟩ [nearTicket] "run" 0).items,
      ExactDelta item := by
  have hitems : (reconcileBspAgainstTickets ⟨"tenant",may,[sale]⟩ [nearTicket] "run" 0).items=
      [matchedItem sale nearTicket] := by decide +kernel
  rw [hitems]
  intro h
  obtain ⟨⟨d,hd,-,hvalue⟩,-⟩ := h _ List.mem_cons_self sale.net nearTicket.totalAmount rfl rfl rfl
  cases hd
  norm_num [difference,value,zero,sale,nearTicket] at hvalue

end Voyagent.ReconciliationDeltas
