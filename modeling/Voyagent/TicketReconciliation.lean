import Mathlib.Data.List.Pairwise
import Voyagent.Decimals
import Voyagent.HafMapping

/-!
# Reconciling a settlement report with tickets

The index of the internal tickets by carrier and number, the loop over the
transactions of the report and the tickets left over. The items follow the
transactions in order, and what each refers to is fixed by the index alone.
-/

namespace Voyagent.TicketReconciliation

open RuntimeValues KeyedMap PythonNumbers CalendarDates Decimals
open HafMapping (isCurrencyCode isIataCode BSPTransactionKind Period)

/-! ## Canonical models -/

/-- A code of three capitals. -/
abbrev Currency : Type := {code : String // isCurrencyCode code=true}

structure Money where
  amount : Decimal
  currency : Currency
  deriving DecidableEq

/-- Pattern of `Ticket.number`. -/
def isTicketNumber (s : String) : Bool :=
  let digit := fun c : Char => '0'.toNat ≤ c.toNat && c.toNat ≤ '9'.toNat
  match s.toList with
  | a::b::c::cs =>
    let tail := if cs.head?=some '-' then cs.drop 1 else cs
    digit a && digit b && digit c && decide (tail.length=10) && tail.all digit
  | _ => false

/-- An issued ticket, with the fields reconciliation reads. -/
structure Ticket where
  id : EntityId
  number : String
  issuingAirline : String
  totalAmount : Money
  validNumber : isTicketNumber number=true
  validAirline : isIataCode issuingAirline=true
  deriving DecidableEq

/-- A transaction of the report, with the fields reconciliation reads. -/
structure BSPTransaction where
  kind : BSPTransactionKind
  documentNumber : String
  issueDate : CalendarDate
  airline : String
  net : Money
  validAirline : isIataCode airline=true
  deriving DecidableEq

structure BSPReport where
  tenantId : EntityId
  period : Period
  transactions : List BSPTransaction
  deriving DecidableEq

inductive ReconciliationOutcome where
  | matched | unmatchedExternal | unmatchedInternal | discrepancy | tentative
  deriving DecidableEq

structure ReconciliationItem where
  outcome : ReconciliationOutcome
  confidenceBps : Nat
  externalRef : Option String
  externalAmount : Option Money
  externalDate : Option CalendarDate
  internalRefs : List EntityId
  internalAmount : Option Money
  delta : Option Money
  evidence : Option String := none
  suggestedAction : Option String := none
  deriving DecidableEq

structure ReconciliationSummary where
  matchedCount : Nat
  matchedAmount : Option Money
  unmatchedExternalCount : Nat
  unmatchedInternalCount : Nat
  discrepancyCount : Nat
  tentativeCount : Nat
  deriving DecidableEq

structure Reconciliation where
  id : EntityId
  tenantId : EntityId
  scope : String
  source : String
  period : Period
  items : List ReconciliationItem
  summary : ReconciliationSummary
  createdAt : Time
  updatedAt : Time
  deriving DecidableEq

/-! ## The index -/

/-- Carrier and last ten digits. -/
abbrev Key : Type := String × String

/-- `_normalised_ticket_key`; carriers are ASCII. -/
def normalisedTicketKey (ticketNumber airlineCode : String) : Key :=
  let digits := ticketNumber.toList.filter isDigitChar
  (String.ofList (airlineCode.toList.map Char.toUpper),
    String.ofList (digits.drop (digits.length-10)))

def Ticket.key (t : Ticket) : Key := normalisedTicketKey t.number t.issuingAirline

def BSPTransaction.key (tx : BSPTransaction) : Key :=
  normalisedTicketKey tx.documentNumber tx.airline

/-- One turn of the loop of `_ticket_index`: the first ticket of a key wins. -/
def indexTicket (index : Table Key Ticket) (t : Ticket) : Table Key Ticket :=
  if (get index t.key).isSome then index else set index t.key t

/-- `_ticket_index`. -/
def ticketIndex (tickets : List Ticket) : Table Key Ticket := tickets.foldl indexTicket []

/-! ## The loop over the report -/

/-- `AMOUNT_TOLERANCE`. -/
def amountTolerance : Decimal := ⟨1,0⟩

/-- `_amount_within_tolerance`. -/
def amountWithinTolerance (a b : Decimal) : Bool := ((a.sub b).copyAbs).le amountTolerance

def confidenceExact : Nat := 10000
def confidenceDiscrepancy : Nat := 8000
def confidenceTentative : Nat := 5000

def kindValue : BSPTransactionKind → String
  | .sale => "sale"
  | .refund => "refund"
  | .exchange => "exchange"
  | .adm => "adm"
  | .acm => "acm"
  | .commission => "commission"
  | .taxAdjustment => "tax_adjustment"

/-- What the items of a transaction without an internal ticket share. -/
def unmatchedExternalItem (tx : BSPTransaction) (evidence action : String) : ReconciliationItem where
  outcome := .unmatchedExternal
  confidenceBps := confidenceExact
  externalRef := some tx.documentNumber
  externalAmount := some tx.net
  externalDate := some tx.issueDate
  internalRefs := []
  internalAmount := none
  delta := none
  evidence := some evidence
  suggestedAction := some action

def notAutoMatched (tx : BSPTransaction) : ReconciliationItem :=
  unmatchedExternalItem tx
    (kindValue tx.kind++" rows are not auto-matched in v0; accountant review required.")
    "Review manually against internal refund/ADM workflow."

def offPlatform (tx : BSPTransaction) : ReconciliationItem :=
  unmatchedExternalItem tx "BSP billed a ticket with no matching Voyagent record."
    "Confirm whether this was an off-platform sale, then create an internal ticket."

def currencyMismatch (tx : BSPTransaction) (t : Ticket) : ReconciliationItem where
  outcome := .tentative
  confidenceBps := confidenceTentative
  externalRef := some tx.documentNumber
  externalAmount := some tx.net
  externalDate := some tx.issueDate
  internalRefs := [t.id]
  internalAmount := some t.totalAmount
  delta := none
  evidence := some ("Currency mismatch: BSP "++tx.net.currency.val++" vs internal "++
    t.totalAmount.currency.val++".")
  suggestedAction := some "Resolve FX posture before accepting this match."

def matchedItem (tx : BSPTransaction) (t : Ticket) : ReconciliationItem where
  outcome := .matched
  confidenceBps := confidenceExact
  externalRef := some tx.documentNumber
  externalAmount := some tx.net
  externalDate := some tx.issueDate
  internalRefs := [t.id]
  internalAmount := some t.totalAmount
  delta := some ⟨zero,tx.net.currency⟩

def discrepancyItem (tx : BSPTransaction) (t : Ticket) : ReconciliationItem :=
  let delta := tx.net.amount.sub t.totalAmount.amount
  {
    outcome := .discrepancy
    confidenceBps := confidenceDiscrepancy
    externalRef := some tx.documentNumber
    externalAmount := some tx.net
    externalDate := some tx.issueDate
    internalRefs := [t.id]
    internalAmount := some t.totalAmount
    delta := some ⟨delta,tx.net.currency⟩
    evidence := some ("Amounts differ by "++delta.text++" "++tx.net.currency.val++".")
    suggestedAction := some "Reconcile the fare/tax breakdown; raise ADM/ACM if appropriate."}

def notInStatement (t : Ticket) : ReconciliationItem where
  outcome := .unmatchedInternal
  confidenceBps := confidenceExact
  externalRef := none
  externalAmount := none
  externalDate := none
  internalRefs := [t.id]
  internalAmount := some t.totalAmount
  delta := none
  evidence := some "Voyagent ticket not present in this BSP statement."
  suggestedAction := some "Check whether BSP will bill it in the next cycle; if not, investigate."

/-- The locals of `reconcile_bsp_against_tickets`. -/
structure Progress where
  items : List ReconciliationItem := []
  matchedInternalKeys : List Key := []
  matchedCount : Nat := 0
  unmatchedExternalCount : Nat := 0
  unmatchedInternalCount : Nat := 0
  discrepancyCount : Nat := 0
  tentativeCount : Nat := 0
  matchedAmountTotal : Decimal := zero
  matchedCurrency : Option Currency := none

def Progress.push (st : Progress) (item : ReconciliationItem) : Progress :=
  {st with items := st.items++[item]}

/-- The totals after a match: the first match fixes the currency that is added up. -/
def Progress.addMatched (st : Progress) (amount : Money) : Progress :=
  let currency := st.matchedCurrency.getD amount.currency
  {st with
    matchedCount := st.matchedCount+1
    matchedCurrency := some currency
    matchedAmountTotal :=
      if currency=amount.currency then st.matchedAmountTotal.add amount.amount
      else st.matchedAmountTotal}

/-- One turn of the loop over the transactions. -/
def reviewTransaction (index : Table Key Ticket) (st : Progress) (tx : BSPTransaction) : Progress :=
  if tx.kind≠.sale then
    {st.push (notAutoMatched tx) with unmatchedExternalCount := st.unmatchedExternalCount+1}
  else
    match get index tx.key with
    | none => {st.push (offPlatform tx) with unmatchedExternalCount := st.unmatchedExternalCount+1}
    | some t =>
      let st := {st with matchedInternalKeys := tx.key::st.matchedInternalKeys}
      if t.totalAmount.currency≠tx.net.currency then
        {st.push (currencyMismatch tx t) with tentativeCount := st.tentativeCount+1}
      else if amountWithinTolerance t.totalAmount.amount tx.net.amount then
        (st.addMatched tx.net).push (matchedItem tx t)
      else {st.push (discrepancyItem tx t) with discrepancyCount := st.discrepancyCount+1}

/-- One turn of the loop over the index. -/
def reviewTicket (st : Progress) (entry : Key × Ticket) : Progress :=
  if entry.1∈st.matchedInternalKeys then st
  else
    {st.push (notInStatement entry.2) with unmatchedInternalCount := st.unmatchedInternalCount+1}

def Progress.summary (st : Progress) : ReconciliationSummary where
  matchedCount := st.matchedCount
  matchedAmount := st.matchedCurrency.map fun currency => ⟨st.matchedAmountTotal,currency⟩
  unmatchedExternalCount := st.unmatchedExternalCount
  unmatchedInternalCount := st.unmatchedInternalCount
  discrepancyCount := st.discrepancyCount
  tentativeCount := st.tentativeCount

/-- `reconcile_bsp_against_tickets`, with the fresh id and the clock. -/
def reconcileBspAgainstTickets (report : BSPReport) (tickets : List Ticket) (id : EntityId)
    (now : Time) : Reconciliation :=
  let index := ticketIndex tickets
  let st := report.transactions.foldl (reviewTransaction index) {}
  let st := index.foldl reviewTicket st
  {
    id
    tenantId := report.tenantId
    scope := "bsp"
    source := "bsp_india"
    period := report.period
    items := st.items
    summary := st.summary
    createdAt := now
    updatedAt := now}

/-! ## What the index holds -/

/-- The ticket is the first one with its key. -/
def IsFirst (tickets : List Ticket) (t : Ticket) : Prop :=
  tickets.find? (fun u => decide (u.key=t.key))=some t

instance (tickets : List Ticket) (t : Ticket) : Decidable (IsFirst tickets t) :=
  inferInstanceAs (Decidable (_=some t))

theorem get_indexTicket (index : Table Key Ticket) (t : Ticket) (k : Key) :
    get (indexTicket index t) k=(get index k).or (if t.key=k then some t else none) := by
  unfold indexTicket
  split
  · rename_i hsome
    by_cases hk : t.key=k
    · subst hk
      obtain ⟨u,hu⟩ := Option.isSome_iff_exists.mp hsome
      rw [hu,Option.some_or]
    · rw [if_neg hk,Option.or_none]
  · rename_i hnone
    rw [get_set]
    by_cases hk : t.key=k
    · subst hk
      rw [Option.not_isSome_iff_eq_none.mp hnone,Option.none_or]
    · rw [if_neg hk,if_neg hk,Option.or_none]

theorem get_foldl_indexTicket (tickets : List Ticket) (index : Table Key Ticket) (k : Key) :
    get (tickets.foldl indexTicket index) k=
      (get index k).or (tickets.find? fun t => decide (t.key=k)) := by
  induction tickets generalizing index with
  | nil => exact (Option.or_none).symm
  | cons t tickets ih =>
    rw [List.foldl_cons,ih,get_indexTicket,Option.or_assoc,List.find?_cons]
    by_cases hk : t.key=k
    · rw [if_pos hk,decide_eq_true hk,Option.some_or]
    · rw [if_neg hk,decide_eq_false hk,Option.none_or]

/-- The index answers the first ticket with the key. -/
theorem get_ticketIndex (tickets : List Ticket) (k : Key) :
    get (ticketIndex tickets) k=tickets.find? fun t => decide (t.key=k) := by
  rw [ticketIndex,get_foldl_indexTicket]
  rfl

theorem indexTicket_nodup {index : Table Key Ticket} (h : (index.map Prod.fst).Nodup) (t : Ticket) :
    ((indexTicket index t).map Prod.fst).Nodup := by
  unfold indexTicket
  split
  · exact h
  · exact nodup_set h _ _

theorem ticketIndex_nodup (tickets : List Ticket) : ((ticketIndex tickets).map Prod.fst).Nodup := by
  unfold ticketIndex
  have hfold : ∀ index : Table Key Ticket,(index.map Prod.fst).Nodup →
      ((tickets.foldl indexTicket index).map Prod.fst).Nodup := by
    induction tickets with
    | nil => exact fun index h => h
    | cons t tickets ih => exact fun index h => ih _ (indexTicket_nodup h t)
  exact hfold [] List.nodup_nil

/-- A ticket found by a key has the key and is the first one with it. -/
theorem isFirst_of_get {tickets : List Ticket} {k : Key} {t : Ticket}
    (h : get (ticketIndex tickets) k=some t) : t.key=k ∧ t∈tickets ∧ IsFirst tickets t := by
  rw [get_ticketIndex] at h
  have hfound := List.find?_some h
  have hk : t.key=k := of_decide_eq_true hfound
  refine ⟨hk,List.mem_of_find?_eq_some h,?_⟩
  rw [IsFirst,hk]
  exact h

/-- The entries of the index are the first tickets, under their keys. -/
theorem mem_ticketIndex {tickets : List Ticket} {k : Key} {t : Ticket} :
    (k,t)∈ticketIndex tickets ↔ t.key=k ∧ IsFirst tickets t := by
  rw [mem_iff_get (ticketIndex_nodup tickets)]
  constructor
  · intro h
    obtain ⟨hk,-,hfirst⟩ := isFirst_of_get h
    exact ⟨hk,hfirst⟩
  · rintro ⟨rfl,hfirst⟩
    rw [get_ticketIndex]
    exact hfirst

/-! ## What the items refer to -/

/-- The internal ticket a transaction leads to, if it is a sale. -/
def billedTicket (index : Table Key Ticket) (tx : BSPTransaction) : Option Ticket :=
  if tx.kind=.sale then get index tx.key else none

/-- The item pairs a transaction with a ticket. -/
def ReconciliationItem.isPaired (item : ReconciliationItem) : Bool :=
  decide (item.outcome=.matched) || decide (item.outcome=.discrepancy) ||
    decide (item.outcome=.tentative)

/-- The item of a transaction that leads to the ticket, or to none. -/
structure ItemFor (ticket : Option Ticket) (item : ReconciliationItem) : Prop where
  refs : item.internalRefs=ticket.toList.map Ticket.id
  paired : item.isPaired=ticket.isSome
  external : ticket=none → item.outcome=.unmatchedExternal

def matchedItems (items : List ReconciliationItem) : List ReconciliationItem :=
  items.filter fun item => decide (item.outcome=.matched)

/-- The external amounts of the matches. -/
def matchedAmounts (items : List ReconciliationItem) : List Money :=
  (matchedItems items).filterMap ReconciliationItem.externalAmount

/-- What the loop has added up of the matches. -/
def Progress.tally (st : Progress) : Nat × Decimal × Option Currency :=
  (st.matchedCount,st.matchedAmountTotal,st.matchedCurrency)

/-- Adding up a match reads the totals only. -/
theorem tally_foldl_addMatched {st st' : Progress} (h : st.tally=st'.tally) (amounts : List Money) :
    (amounts.foldl Progress.addMatched st).tally=(amounts.foldl Progress.addMatched st').tally := by
  induction amounts generalizing st st' with
  | nil => exact h
  | cons amount amounts ih =>
    obtain ⟨hcount,hrest⟩ := Prod.mk.inj h
    obtain ⟨htotal,hcurrency⟩ := Prod.mk.inj hrest
    refine ih ?_
    unfold Progress.addMatched Progress.tally
    rw [hcount,htotal,hcurrency]

theorem matchedAmounts_append (items items' : List ReconciliationItem) :
    matchedAmounts (items++items')=matchedAmounts items++matchedAmounts items' := by
  rw [matchedAmounts,matchedItems,List.filter_append,List.filterMap_append]
  rfl

variable {index : Table Key Ticket}

/-- A transaction adds one item, its key if it leads to a ticket and its amount
if it matches. -/
theorem reviewTransaction_spec (st : Progress) (tx : BSPTransaction) :
    ∃ item,(reviewTransaction index st tx).items=st.items++[item] ∧
      ItemFor (billedTicket index tx) item ∧
      (reviewTransaction index st tx).matchedInternalKeys=
        (billedTicket index tx).toList.map (fun _ => tx.key)++st.matchedInternalKeys ∧
      (reviewTransaction index st tx).tally=
        ((matchedAmounts [item]).foldl Progress.addMatched st).tally := by
  unfold reviewTransaction billedTicket
  by_cases hsale : tx.kind=.sale
  · rw [if_neg (not_not_intro hsale),if_pos hsale]
    cases hget : get index tx.key with
    | none => exact ⟨offPlatform tx,rfl,⟨rfl,rfl,fun _ => rfl⟩,rfl,rfl⟩
    | some t =>
      dsimp only
      split
      · exact ⟨currencyMismatch tx t,rfl,⟨rfl,rfl,fun h => by cases h⟩,rfl,rfl⟩
      · split
        · exact ⟨matchedItem tx t,rfl,⟨rfl,rfl,fun h => by cases h⟩,rfl,rfl⟩
        · exact ⟨discrepancyItem tx t,rfl,⟨rfl,rfl,fun h => by cases h⟩,rfl,rfl⟩
  · rw [if_pos hsale,if_neg hsale]
    exact ⟨notAutoMatched tx,rfl,⟨rfl,rfl,fun _ => rfl⟩,rfl,rfl⟩

/-- The loop gives one item for each transaction, in their order, and collects
the keys that led to a ticket and the amounts of the matches. -/
theorem reviewTransactions_spec (txs : List BSPTransaction) (st : Progress) :
    ∃ items,(txs.foldl (reviewTransaction index) st).items=st.items++items ∧
      List.Forall₂ (fun tx item => ItemFor (billedTicket index tx) item) txs items ∧
      (∀ k,k∈(txs.foldl (reviewTransaction index) st).matchedInternalKeys ↔
        k∈st.matchedInternalKeys ∨ ∃ tx∈txs,(billedTicket index tx).isSome=true ∧ tx.key=k) ∧
      (txs.foldl (reviewTransaction index) st).tally=
        ((matchedAmounts items).foldl Progress.addMatched st).tally := by
  induction txs generalizing st with
  | nil => exact ⟨[],(List.append_nil _).symm,.nil,fun k => by simp,rfl⟩
  | cons tx txs ih =>
    obtain ⟨item,hitem,hfor,hkeys,htally⟩ : ∃ item,_ := reviewTransaction_spec st tx
    obtain ⟨items,hitems,hforall,hrest,htallies⟩ := ih (reviewTransaction index st tx)
    refine ⟨item::items,?_,.cons hfor hforall,fun k => ?_,?_⟩
    · rw [List.foldl_cons,hitems,hitem,List.append_assoc]
      rfl
    · have hkey : k∈(billedTicket index tx).toList.map (fun _ => tx.key) ↔
          (billedTicket index tx).isSome=true ∧ tx.key=k := by
        cases billedTicket index tx with
        | none => simp
        | some t => simp [eq_comm]
      rw [List.foldl_cons,hrest,hkeys,List.mem_append,hkey,or_assoc,or_left_comm]
      simp only [List.mem_cons,exists_eq_or_imp]
    · have happend : matchedAmounts (item::items)=matchedAmounts [item]++matchedAmounts items :=
        matchedAmounts_append [item] items
      rw [List.foldl_cons,htallies,happend,List.foldl_append]
      exact tally_foldl_addMatched htally _

/-- The leftovers are the tickets under keys no transaction led to. -/
theorem reviewTickets_spec (entries : Table Key Ticket) (st : Progress) :
    (entries.foldl reviewTicket st).items=st.items++
      ((entries.filter fun e => decide (e.1∉st.matchedInternalKeys)).map Prod.snd).map
        notInStatement ∧
    (entries.foldl reviewTicket st).tally=st.tally := by
  induction entries generalizing st with
  | nil => exact ⟨(List.append_nil _).symm,rfl⟩
  | cons e entries ih =>
    rw [List.foldl_cons,(ih _).1,(ih _).2,List.filter_cons]
    unfold reviewTicket
    split
    · rename_i hmem
      rw [if_neg (by simpa using hmem)]
      exact ⟨rfl,rfl⟩
    · rename_i hmem
      rw [if_pos (by simpa using hmem),List.map_cons,List.map_cons]
      exact ⟨List.append_assoc _ _ _,rfl⟩

/-! ## The reconciliation of a report -/

section Report

variable (report : BSPReport) (tickets : List Ticket) (id : EntityId) (now : Time)

theorem isFirst_mem {t : Ticket} (h : IsFirst tickets t) : t∈tickets := List.mem_of_find?_eq_some h

/-- A first ticket is left over when no transaction leads to it. -/
theorem key_matched_iff {t : Ticket} (h : IsFirst tickets t) (txs : List BSPTransaction) :
    (∃ tx∈txs,(billedTicket (ticketIndex tickets) tx).isSome=true ∧ tx.key=t.key) ↔
      ∃ tx∈txs,billedTicket (ticketIndex tickets) tx=some t := by
  have hget : get (ticketIndex tickets) t.key=some t := (get_ticketIndex tickets t.key).trans h
  refine exists_congr fun tx => and_congr_right fun _ => ?_
  unfold billedTicket
  split
  · constructor
    · rintro ⟨-,hk⟩
      rw [hk,hget]
    · intro hbilled
      exact ⟨by rw [hbilled]; rfl,(isFirst_of_get hbilled).1.symm⟩
  · constructor
    · rintro ⟨hsome,-⟩
      cases hsome
    · intro hbilled
      cases hbilled

/-- The items are those of the transactions in order, then the first tickets no
transaction leads to; the summary adds up the matches. -/
theorem reconcile_items : ∃ (items : List ReconciliationItem) (leftover : List Ticket),
    (reconcileBspAgainstTickets report tickets id now).items=items++leftover.map notInStatement ∧
      List.Forall₂ (fun tx item => ItemFor (billedTicket (ticketIndex tickets) tx) item)
        report.transactions items ∧
      (∀ t,t∈leftover ↔ IsFirst tickets t ∧
        ¬∃ tx∈report.transactions,billedTicket (ticketIndex tickets) tx=some t) ∧
      ∃ st : Progress,(reconcileBspAgainstTickets report tickets id now).summary=st.summary ∧
        st.tally=((matchedAmounts items).foldl Progress.addMatched {}).tally := by
  obtain ⟨items,hitems,hforall,hkeys,htally⟩ : ∃ items,_ :=
    @reviewTransactions_spec (ticketIndex tickets) report.transactions {}
  obtain ⟨hleft,htally'⟩ := reviewTickets_spec (ticketIndex tickets)
    (report.transactions.foldl (reviewTransaction (ticketIndex tickets)) {})
  refine ⟨items,((ticketIndex tickets).filter fun e => decide (e.1∉(report.transactions.foldl
    (reviewTransaction (ticketIndex tickets)) {}).matchedInternalKeys)).map Prod.snd,
    hleft.trans (congrArg (·++_) hitems),hforall,fun t => ?_,⟨_,rfl,htally'.trans htally⟩⟩
  · have hmatched : ∀ k,k∈(report.transactions.foldl (reviewTransaction (ticketIndex tickets))
        {}).matchedInternalKeys ↔ ∃ tx∈report.transactions,
          (billedTicket (ticketIndex tickets) tx).isSome=true ∧ tx.key=k := by
      intro k
      rw [hkeys k]
      exact or_iff_right List.not_mem_nil
    constructor
    · intro ht
      obtain ⟨⟨k,u⟩,hentry,rfl⟩ := List.mem_map.mp ht
      obtain ⟨hmem,hnone⟩ := List.mem_filter.mp hentry
      obtain ⟨rfl,hfirst⟩ := mem_ticketIndex.mp hmem
      have hfree := (hmatched u.key).not.mp (of_decide_eq_true hnone)
      exact ⟨hfirst,(key_matched_iff tickets hfirst _).not.mp hfree⟩
    · rintro ⟨hfirst,hnone⟩
      have hfree := (key_matched_iff tickets hfirst report.transactions).not.mpr hnone
      have hmem : (t.key,t)∈ticketIndex tickets := mem_ticketIndex.mpr ⟨rfl,hfirst⟩
      refine List.mem_map.mpr ⟨(t.key,t),List.mem_filter.mpr ⟨hmem,?_⟩,rfl⟩
      exact decide_eq_true ((hmatched t.key).not.mpr hfree)

/-- The items refer to the first ticket of each key, and to no other ticket. -/
theorem referenced_iff {x : EntityId} :
    (∃ item∈(reconcileBspAgainstTickets report tickets id now).items,x∈item.internalRefs) ↔
      ∃ t∈tickets,IsFirst tickets t ∧ t.id=x := by
  obtain ⟨items,leftover,hitems,hforall,hleft,-⟩ := reconcile_items report tickets id now
  rw [hitems]
  constructor
  · rintro ⟨item,hitem,hx⟩
    rcases List.mem_append.mp hitem with hitem|hitem
    · obtain ⟨tx,htx,hfor⟩ := FallibleResults.partner_of_mem hforall.flip hitem
      rw [hfor.refs,List.mem_map] at hx
      obtain ⟨t,ht,rfl⟩ := hx
      have hbilled : billedTicket (ticketIndex tickets) tx=some t := Option.mem_toList.mp ht
      unfold billedTicket at hbilled
      split at hbilled
      · obtain ⟨-,hmem,hfirst⟩ := isFirst_of_get hbilled
        exact ⟨t,hmem,hfirst,rfl⟩
      · cases hbilled
    · obtain ⟨t,ht,rfl⟩ := List.mem_map.mp hitem
      obtain rfl := List.mem_singleton.mp hx
      obtain ⟨hfirst,-⟩ := (hleft t).mp ht
      exact ⟨t,isFirst_mem tickets hfirst,hfirst,rfl⟩
  · rintro ⟨t,ht,hfirst,rfl⟩
    by_cases hbilled : ∃ tx∈report.transactions,billedTicket (ticketIndex tickets) tx=some t
    · obtain ⟨tx,htx,hbilled⟩ := hbilled
      obtain ⟨item,hitem,hfor⟩ := FallibleResults.partner_of_mem hforall htx
      refine ⟨item,List.mem_append_left _ hitem,?_⟩
      rw [hfor.refs,hbilled]
      exact List.mem_singleton.mpr rfl
    · have hmem : t∈leftover := (hleft t).mpr ⟨hfirst,hbilled⟩
      exact ⟨notInStatement t,List.mem_append_right _ (List.mem_map_of_mem hmem),
        List.mem_singleton.mpr rfl⟩

/-- Every ticket is represented exactly when each shares its id with the first
ticket of some key: later tickets of a key are dropped. -/
theorem ticketsRepresented_iff :
    (∀ t∈tickets,∃ item∈(reconcileBspAgainstTickets report tickets id now).items,
      t.id∈item.internalRefs) ↔ ∀ t∈tickets,∃ u∈tickets,IsFirst tickets u ∧ u.id=t.id :=
  forall₂_congr fun _ _ => referenced_iff report tickets id now

end Report

theorem inr_code : isCurrencyCode "INR"=true := by decide

def inr : Currency := ⟨"INR",inr_code⟩

/-- One ticket number, written with and without its hyphen. -/
def hyphened : Ticket := ⟨"ticket-1","098-1234567890","AI",⟨⟨10000,-2⟩,inr⟩,by decide,by decide⟩
def plain : Ticket := ⟨"ticket-2","0981234567890","AI",⟨⟨20000,-2⟩,inr⟩,by decide,by decide⟩

def may : Period := ⟨⟨2026,5,1,by decide⟩,⟨2026,5,16,by decide⟩,by decide⟩

def emptyReport : BSPReport := ⟨"tenant",may,[]⟩

/-- The second of two tickets with one number is nowhere in the result. -/
theorem plain_lost : ¬∀ t∈[hyphened,plain],
    ∃ item∈(reconcileBspAgainstTickets emptyReport [hyphened,plain] "run" 0).items,
      t.id∈item.internalRefs := by
  decide +kernel

/-! ## One transaction for each ticket -/

/-- The item pairs a transaction with the ticket of this id. -/
def ReconciliationItem.pairs (x : EntityId) (item : ReconciliationItem) : Bool :=
  item.isPaired && item.internalRefs.contains x

/-- The internal ticket of each sale of the report that leads to one. -/
def billedIds (report : BSPReport) (tickets : List Ticket) : List EntityId :=
  (report.transactions.filterMap (billedTicket (ticketIndex tickets))).map Ticket.id

/-- Items without those that refer to the same tickets as a later one. -/
def onePerTicket (items : List ReconciliationItem) : List ReconciliationItem :=
  items.pwFilter fun a b => a.internalRefs≠b.internalRefs

/-- Count and amount of matches, added up in order. -/
def matchedTotals (amounts : List Money) : Nat × Option Money :=
  let st := amounts.foldl Progress.addMatched {}
  (st.summary.matchedCount,st.summary.matchedAmount)

/-- Each ticket is paired at most once: a further transaction of its number is
an unmatched external one, and the matches are counted once for each ticket. -/
structure MatchesOnce (r : Reconciliation) (report : BSPReport) (tickets : List Ticket) : Prop where
  once : ∀ t∈tickets,r.items.countP (ReconciliationItem.pairs t.id)≤1
  surplus : ∀ (i j : Nat) (tx tx' : BSPTransaction) (t t' : Ticket),i < j →
    report.transactions[i]?=some tx →
    report.transactions[j]?=some tx' → billedTicket (ticketIndex tickets) tx=some t →
    billedTicket (ticketIndex tickets) tx'=some t' → t.id=t'.id →
    ∃ item : ReconciliationItem,r.items[j]?=some item ∧ item.outcome=.unmatchedExternal
  counted : (r.summary.matchedCount,r.summary.matchedAmount)=
    matchedTotals ((onePerTicket (matchedItems r.items)).filterMap ReconciliationItem.externalAmount)

section Once

variable {report : BSPReport} {tickets : List Ticket} {id : EntityId} {now : Time}

/-- A ticket is paired as often as sales of the report lead to it. -/
theorem countP_pairs {txs : List BSPTransaction} {items : List ReconciliationItem}
    (h : List.Forall₂ (fun tx item => ItemFor (billedTicket index tx) item) txs items)
    (x : EntityId) : items.countP (ReconciliationItem.pairs x)=
      ((txs.filterMap (billedTicket index)).map Ticket.id).count x := by
  induction h with
  | nil => rfl
  | @cons tx item txs items hfor _ ih =>
    rw [List.countP_cons,ih,List.filterMap_cons]
    have hpaired := hfor.paired
    have hrefs := hfor.refs
    cases hbilled : billedTicket index tx with
    | none =>
      rw [hbilled] at hpaired
      simp [ReconciliationItem.pairs,hpaired]
    | some t =>
      rw [hbilled] at hpaired hrefs
      by_cases hx : t.id=x
      · simp [ReconciliationItem.pairs,hpaired,hrefs,hx]
      · simp [ReconciliationItem.pairs,hpaired,hrefs,hx,Ne.symm hx]

theorem countP_pairs_leftover (leftover : List Ticket) (x : EntityId) :
    (leftover.map notInStatement).countP (ReconciliationItem.pairs x)=0 := by
  refine List.countP_eq_zero.mpr fun item hitem => ?_
  obtain ⟨t,-,rfl⟩ := List.mem_map.mp hitem
  exact Bool.false_ne_true

theorem reconcile_countP (x : EntityId) :
    (reconcileBspAgainstTickets report tickets id now).items.countP (ReconciliationItem.pairs x)=
      (billedIds report tickets).count x := by
  obtain ⟨items,leftover,hitems,hforall,-⟩ := reconcile_items report tickets id now
  rw [hitems,List.countP_append,countP_pairs hforall,countP_pairs_leftover]
  rfl

/-- Only internal tickets are billed. -/
theorem mem_of_billedIds {x : EntityId} (h : x∈billedIds report tickets) :
    ∃ t∈tickets,t.id=x := by
  obtain ⟨t,ht,rfl⟩ := List.mem_map.mp h
  obtain ⟨tx,-,hbilled⟩ := List.mem_filterMap.mp ht
  unfold billedTicket at hbilled
  split at hbilled
  · exact ⟨t,(isFirst_of_get hbilled).2.1,rfl⟩
  · cases hbilled

/-- Each ticket is paired at most once when no two sales lead to one. -/
theorem once_iff : (∀ t∈tickets,(reconcileBspAgainstTickets report tickets id now).items.countP
    (ReconciliationItem.pairs t.id)≤1) ↔ (billedIds report tickets).Nodup := by
  rw [List.nodup_iff_count]
  simp only [reconcile_countP]
  constructor
  · intro h x
    by_cases hx : x∈billedIds report tickets
    · obtain ⟨t,ht,rfl⟩ := mem_of_billedIds hx
      exact h t ht
    · rw [List.count_eq_zero_of_not_mem hx]
      exact Nat.zero_le 1
  · exact fun h t _ => h t.id

/-- The tickets two transactions lead to are different. -/
def LeadApart (index : Table Key Ticket) (tx tx' : BSPTransaction) : Prop :=
  ∀ t t',billedTicket index tx=some t → billedTicket index tx'=some t' → t.id≠t'.id

theorem pairwise_leadApart (h : (billedIds report tickets).Nodup) :
    report.transactions.Pairwise (LeadApart (ticketIndex tickets)) := by
  have hpair := List.pairwise_filterMap.mp (List.pairwise_map.mp h)
  exact hpair.imp fun hne t t' ht ht' => hne t ht t' ht'

/-- The items of transactions that lead apart refer apart, where both match. -/
theorem pairwise_refs {txs : List BSPTransaction} {items : List ReconciliationItem}
    (h : List.Forall₂ (fun tx item => ItemFor (billedTicket index tx) item) txs items)
    (hapart : txs.Pairwise (LeadApart index)) :
    (matchedItems items).Pairwise fun a b => a.internalRefs≠b.internalRefs := by
  have hmatched : ∀ tx item,ItemFor (billedTicket index tx) item → item.outcome=.matched →
      ∃ t,billedTicket index tx=some t ∧ item.internalRefs=[t.id] := by
    intro tx item hfor houtcome
    cases hbilled : billedTicket index tx with
    | none => cases houtcome.symm.trans (hfor.external hbilled)
    | some t =>
      refine ⟨t,rfl,?_⟩
      rw [hfor.refs,hbilled]
      rfl
  refine List.pairwise_filter.mpr ?_
  refine FallibleResults.pairwise_of_forall₂ h hapart fun tx tx' a b ha hb hne hma hmb => ?_
  obtain ⟨t,ht,hrefs⟩ := hmatched tx a ha (of_decide_eq_true hma)
  obtain ⟨t',ht',hrefs'⟩ := hmatched tx' b hb (of_decide_eq_true hmb)
  rw [hrefs,hrefs']
  exact fun heq => hne t t' ht ht' (List.singleton_inj.mp heq)

theorem matchedItems_leftover (items : List ReconciliationItem) (leftover : List Ticket) :
    matchedItems (items++leftover.map notInStatement)=matchedItems items := by
  have hnone : matchedItems (leftover.map notInStatement)=[] := by
    refine List.filter_eq_nil_iff.mpr fun item hitem => ?_
    obtain ⟨t,-,rfl⟩ := List.mem_map.mp hitem
    exact Bool.false_ne_true
  unfold matchedItems at hnone ⊢
  rw [List.filter_append,hnone,List.append_nil]

/-- Each ticket is matched once exactly when no two sales of the report lead to
one internal ticket. -/
theorem matchesOnce_iff (report : BSPReport) (tickets : List Ticket) (id : EntityId) (now : Time) :
    MatchesOnce (reconcileBspAgainstTickets report tickets id now) report tickets ↔
      (billedIds report tickets).Nodup := by
  refine ⟨fun h => once_iff.mp h.once,fun h => ⟨once_iff.mpr h,?_,?_⟩⟩
  · intro i j tx tx' t t' hij hi hj ht ht' hid
    obtain ⟨hilt,rfl⟩ := List.getElem?_eq_some_iff.mp hi
    obtain ⟨hjlt,rfl⟩ := List.getElem?_eq_some_iff.mp hj
    have hapart := List.pairwise_iff_getElem.mp (pairwise_leadApart h) i j hilt hjlt hij
    exact absurd hid (hapart t t' ht ht')
  · obtain ⟨items,leftover,hitems,hforall,-,st,hsummary,htally⟩ :=
      reconcile_items report tickets id now
    have hpair := pairwise_refs hforall (pairwise_leadApart h)
    have hself : onePerTicket (matchedItems items)=matchedItems items :=
      List.pwFilter_eq_self.mpr hpair
    obtain ⟨hcount,hrest⟩ := Prod.mk.inj htally
    obtain ⟨htotal,hcurrency⟩ := Prod.mk.inj hrest
    rw [hitems,matchedItems_leftover,hself,hsummary]
    unfold Progress.summary matchedTotals
    dsimp only
    rw [hcount,htotal,hcurrency]
    rfl

/-- Matching goes by row: a ticket is paired as often as sales lead to it, and
each ticket is matched once exactly when no two sales lead to one. -/
theorem pairings_by_row (report : BSPReport) (tickets : List Ticket) (id : EntityId) (now : Time) :
    (∀ t∈tickets,(reconcileBspAgainstTickets report tickets id now).items.countP
      (ReconciliationItem.pairs t.id)=(billedIds report tickets).count t.id) ∧
    (MatchesOnce (reconcileBspAgainstTickets report tickets id now) report tickets ↔
      (billedIds report tickets).Nodup) :=
  ⟨fun t _ => reconcile_countP t.id,matchesOnce_iff report tickets id now⟩

end Once

/-- One sale of the hyphened ticket, billed twice. -/
def sale : BSPTransaction := ⟨.sale,"0981234567890",⟨2026,4,2,by decide⟩,"AI",⟨⟨10000,-2⟩,inr⟩,by decide⟩

theorem billedTwice_matchedTwice :
    ¬MatchesOnce (reconcileBspAgainstTickets ⟨"tenant",may,[sale,sale]⟩ [hyphened] "run" 0)
      ⟨"tenant",may,[sale,sale]⟩ [hyphened] := by
  intro h
  exact absurd (h.once hyphened List.mem_cons_self) (by decide +kernel)

end Voyagent.TicketReconciliation
