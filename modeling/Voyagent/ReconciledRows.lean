import Voyagent.TicketReconciliation

/-!
# The rows of a reconciliation

What the loop does with a transaction is one item and one counter, both fixed
by the transaction and the index. The items are therefore those of the
transactions, in their order, and the counters count them by outcome.
-/

namespace Voyagent.ReconciledRows

open RuntimeValues KeyedMap TicketReconciliation

/-- The item of a sale that leads to a ticket. -/
def pairedItem (tx : BSPTransaction) (t : Ticket) : ReconciliationItem :=
  if t.totalAmount.currency≠tx.net.currency then currencyMismatch tx t
  else if amountWithinTolerance t.totalAmount.amount tx.net.amount then matchedItem tx t
  else discrepancyItem tx t

/-- The item of a transaction. -/
def itemOf (index : Table Key Ticket) (tx : BSPTransaction) : ReconciliationItem :=
  if tx.kind≠.sale then notAutoMatched tx
  else
    match get index tx.key with
    | none => offPlatform tx
    | some t => pairedItem tx t

/-- The counter of an outcome. -/
def countOf (summary : ReconciliationSummary) : ReconciliationOutcome → Nat
  | .matched => summary.matchedCount
  | .unmatchedExternal => summary.unmatchedExternalCount
  | .unmatchedInternal => summary.unmatchedInternalCount
  | .discrepancy => summary.discrepancyCount
  | .tentative => summary.tentativeCount

/-- The items with an outcome. -/
def occurrences (items : List ReconciliationItem) (outcome : ReconciliationOutcome) : Nat :=
  items.countP fun item => decide (item.outcome=outcome)

/-- An item takes over the transaction it is for. -/
structure Reports (tx : BSPTransaction) (item : ReconciliationItem) : Prop where
  ref : item.externalRef=some tx.documentNumber
  amount : item.externalAmount=some tx.net
  date : item.externalDate=some tx.issueDate
  outcome : item.outcome≠.unmatchedInternal

section Loop

variable {index : Table Key Ticket} {st : Progress} {outcome : ReconciliationOutcome}

theorem occurrences_append (items items' : List ReconciliationItem) :
    occurrences (items++items') outcome=occurrences items outcome+occurrences items' outcome :=
  List.countP_append

theorem itemOf_reports (index : Table Key Ticket) (tx : BSPTransaction) :
    Reports tx (itemOf index tx) := by
  unfold itemOf
  split
  · exact ⟨rfl,rfl,rfl,fun h => (by cases h)⟩
  · split
    · exact ⟨rfl,rfl,rfl,fun h => (by cases h)⟩
    · unfold pairedItem
      split
      · exact ⟨rfl,rfl,rfl,fun h => (by cases h)⟩
      · split <;> exact ⟨rfl,rfl,rfl,fun h => (by cases h)⟩

/-- One turn of the loop adds the item of the transaction and counts it. -/
theorem reviewTransaction_row (index : Table Key Ticket) (st : Progress) (tx : BSPTransaction) :
    (reviewTransaction index st tx).items=st.items++[itemOf index tx] ∧
      ∀ outcome,countOf (reviewTransaction index st tx).summary outcome=
        countOf st.summary outcome+occurrences [itemOf index tx] outcome := by
  unfold reviewTransaction itemOf
  split
  · exact ⟨rfl,fun outcome => by cases outcome <;> rfl⟩
  · cases get index tx.key with
    | none => exact ⟨rfl,fun outcome => by cases outcome <;> rfl⟩
    | some t =>
      dsimp only [pairedItem]
      split
      · exact ⟨rfl,fun outcome => by cases outcome <;> rfl⟩
      · split <;> exact ⟨rfl,fun outcome => by cases outcome <;> rfl⟩

/-- The loop over the transactions. -/
theorem reviewTransactions_rows (index : Table Key Ticket) (txs : List BSPTransaction) (st : Progress) :
    (txs.foldl (reviewTransaction index) st).items=st.items++txs.map (itemOf index) ∧
      ∀ outcome,countOf (txs.foldl (reviewTransaction index) st).summary outcome=
        countOf st.summary outcome+occurrences (txs.map (itemOf index)) outcome := by
  induction txs generalizing st with
  | nil => exact ⟨(List.append_nil _).symm,fun _ => rfl⟩
  | cons tx txs ih =>
    obtain ⟨hitem,hcount⟩ := reviewTransaction_row index st tx
    obtain ⟨hitems,hcounts⟩ := ih (reviewTransaction index st tx)
    refine ⟨?_,fun outcome => ?_⟩
    · rw [List.foldl_cons,hitems,hitem,List.append_assoc]
      rfl
    · have hsplit : occurrences ((tx::txs).map (itemOf index)) outcome=
          occurrences [itemOf index tx] outcome+occurrences (txs.map (itemOf index)) outcome :=
        occurrences_append [itemOf index tx] _
      rw [List.foldl_cons,hcounts,hcount,hsplit,Nat.add_assoc]

/-- The loop over the index. -/
theorem reviewTickets_rows (entries : Table Key Ticket) (st : Progress) :
    ∃ leftover : List Ticket,
      (entries.foldl reviewTicket st).items=st.items++leftover.map notInStatement ∧
      ∀ outcome,countOf (entries.foldl reviewTicket st).summary outcome=
        countOf st.summary outcome+occurrences (leftover.map notInStatement) outcome := by
  induction entries generalizing st with
  | nil => exact ⟨[],(List.append_nil _).symm,fun _ => rfl⟩
  | cons e entries ih =>
    obtain ⟨leftover,hitems,hcounts⟩ := ih (reviewTicket st e)
    rw [List.foldl_cons]
    by_cases hmatched : e.1∈st.matchedInternalKeys
    · have hsame : reviewTicket st e=st := if_pos hmatched
      rw [hsame] at hitems hcounts ⊢
      exact ⟨leftover,hitems,hcounts⟩
    · have hpushed : reviewTicket st e={st.push (notInStatement e.2) with
          unmatchedInternalCount := st.unmatchedInternalCount+1} := if_neg hmatched
      refine ⟨e.2::leftover,?_,fun outcome => ?_⟩
      · rw [hitems,hpushed]
        exact List.append_assoc _ _ _
      · have hsplit : occurrences ((e.2::leftover).map notInStatement) outcome=
            occurrences [notInStatement e.2] outcome+
              occurrences (leftover.map notInStatement) outcome :=
          occurrences_append [notInStatement e.2] _
        rw [hcounts,hpushed,hsplit,← Nat.add_assoc]
        congr 1
        cases outcome <;> rfl

end Loop

/-! ## The reconciliation -/

section Report

variable (report : BSPReport) (tickets : List Ticket) (id : EntityId) (now : Time)

/-- The items of a reconciliation, and what its counters count. -/
theorem reconcile_rows : ∃ leftover : List Ticket,
    (reconcileBspAgainstTickets report tickets id now).items=
        report.transactions.map (itemOf (ticketIndex tickets))++leftover.map notInStatement ∧
      ∀ outcome,countOf (reconcileBspAgainstTickets report tickets id now).summary outcome=
        occurrences (reconcileBspAgainstTickets report tickets id now).items outcome := by
  obtain ⟨hitems,hcounts⟩ := reviewTransactions_rows (ticketIndex tickets) report.transactions {}
  obtain ⟨leftover,hleft,hlefts⟩ := reviewTickets_rows (ticketIndex tickets)
    (report.transactions.foldl (reviewTransaction (ticketIndex tickets)) {})
  rw [hitems] at hleft
  have hall : (reconcileBspAgainstTickets report tickets id now).items=
      report.transactions.map (itemOf (ticketIndex tickets))++leftover.map notInStatement := hleft
  refine ⟨leftover,hall,fun outcome => ?_⟩
  have hzero : countOf ({} : Progress).summary outcome=0 := by cases outcome <;> rfl
  calc countOf (reconcileBspAgainstTickets report tickets id now).summary outcome
      =countOf ({} : Progress).summary outcome+
          occurrences (report.transactions.map (itemOf (ticketIndex tickets))) outcome+
          occurrences (leftover.map notInStatement) outcome := (hlefts outcome).trans (by rw [hcounts])
    _=occurrences (reconcileBspAgainstTickets report tickets id now).items outcome := by
      rw [hall,occurrences_append,hzero,Nat.zero_add]

/-- The outcomes other than one partition the rest. -/
theorem occurrences_external {items : List ReconciliationItem}
    (h : ∀ item∈items,item.outcome≠.unmatchedInternal) :
    occurrences items .matched+occurrences items .unmatchedExternal+
      occurrences items .discrepancy+occurrences items .tentative=items.length := by
  induction items with
  | nil => rfl
  | cons item items ih =>
    have hrest := ih fun other hother => h other (List.mem_cons_of_mem _ hother)
    have hsplit : ∀ outcome,occurrences (item::items) outcome=
        occurrences [item] outcome+occurrences items outcome := fun _ => occurrences_append [item] items
    have hone : occurrences [item] .matched+occurrences [item] .unmatchedExternal+
        occurrences [item] .discrepancy+occurrences [item] .tentative=1 := by
      have hitem := h item List.mem_cons_self
      unfold occurrences
      cases houtcome : item.outcome with
      | unmatchedInternal => exact absurd houtcome hitem
      | _ => simp [houtcome]
    rw [hsplit,hsplit,hsplit,hsplit,List.length_cons]
    omega

/-- A reconciliation has one item for each transaction of the report, in their
order, and after them only tickets the report lacks. Each counter of its summary
counts the items with its outcome, and those of the external outcomes add up to
the transactions. -/
theorem rows_cover_report :
    (∃ items leftover,
      (reconcileBspAgainstTickets report tickets id now).items=items++leftover ∧
      List.Forall₂ Reports report.transactions items ∧
      ∀ item∈leftover,item.outcome=.unmatchedInternal) ∧
    (∀ outcome,countOf (reconcileBspAgainstTickets report tickets id now).summary outcome=
      occurrences (reconcileBspAgainstTickets report tickets id now).items outcome) ∧
    (reconcileBspAgainstTickets report tickets id now).summary.matchedCount+
      (reconcileBspAgainstTickets report tickets id now).summary.unmatchedExternalCount+
      (reconcileBspAgainstTickets report tickets id now).summary.discrepancyCount+
      (reconcileBspAgainstTickets report tickets id now).summary.tentativeCount=
        report.transactions.length := by
  obtain ⟨leftover,hitems,hcounts⟩ := reconcile_rows report tickets id now
  have hleft : ∀ item∈leftover.map notInStatement,item.outcome=.unmatchedInternal := by
    intro item hitem
    obtain ⟨t,-,rfl⟩ := List.mem_map.mp hitem
    rfl
  have hnone : ∀ outcome,outcome≠.unmatchedInternal →
      occurrences (leftover.map notInStatement) outcome=0 := by
    intro outcome houtcome
    refine List.countP_eq_zero.mpr fun item hitem => ?_
    rw [hleft item hitem,decide_eq_true_eq]
    exact Ne.symm houtcome
  refine ⟨⟨_,_,hitems,?_,hleft⟩,hcounts,?_⟩
  · rw [List.forall₂_map_right_iff]
    exact List.forall₂_same.mpr fun tx _ => itemOf_reports _ tx
  · have hexternal : ∀ outcome,outcome≠.unmatchedInternal →
        countOf (reconcileBspAgainstTickets report tickets id now).summary outcome=
          occurrences (report.transactions.map (itemOf (ticketIndex tickets))) outcome := by
      intro outcome houtcome
      rw [hcounts,hitems,occurrences_append,hnone outcome houtcome,Nat.add_zero]
    have hmatched := hexternal .matched nofun
    have hexternals := hexternal .unmatchedExternal nofun
    have hdiscrepancy := hexternal .discrepancy nofun
    have htentative := hexternal .tentative nofun
    have htotal := @occurrences_external (report.transactions.map (itemOf (ticketIndex tickets)))
      fun item hitem => by
        obtain ⟨tx,-,rfl⟩ := List.mem_map.mp hitem
        exact (itemOf_reports _ tx).outcome
    rw [List.length_map] at htotal
    rw [← htotal,← hmatched,← hexternals,← hdiscrepancy,← htentative]
    rfl

end Report

end Voyagent.ReconciledRows
