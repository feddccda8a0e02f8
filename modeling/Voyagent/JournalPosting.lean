import Voyagent.AmountColumns
import Voyagent.CalendarDates
import Voyagent.FallibleResults
import Voyagent.TransitionRuns

/-!
# Posting journal entries

The builder of a double-entry posting and the tables it is committed to. Every
line of a committed entry is in hundredths, and at every cut-off the lines of a
tenant have equal debits and credits.
-/

namespace Voyagent.JournalPosting

open CalendarDates Decimals AmountColumns FallibleResults TransitionRuns

/-- A moment in UTC: its date and the microseconds into it. -/
structure Instant where
  date : CalendarDate
  micros : Nat
  deriving DecidableEq

def Instant.le (a b : Instant) : Bool :=
  decide (a.date.ordinal<b.date.ordinal ∨ a.date.ordinal=b.date.ordinal ∧ a.micros≤b.micros)

/-- `LedgerAccountTypeEnum`. -/
inductive LedgerAccountType where
  | asset | liability | equity | revenue | expense
  deriving DecidableEq

def LedgerAccountType.value : LedgerAccountType → String
  | .asset => "asset"
  | .liability => "liability"
  | .equity => "equity"
  | .revenue => "revenue"
  | .expense => "expense"

variable {υ : Type} [DecidableEq υ]

/-- A row of the chart of accounts, with the columns reports read. -/
structure LedgerAccountRow (υ : Type) where
  id : υ
  tenantId : υ
  code : String
  name : String
  type : LedgerAccountType
  deriving DecidableEq

structure JournalEntryRow (υ : Type) where
  entryId : υ
  lineNo : Nat
  tenantId : υ
  accountId : υ
  debit : Decimal
  credit : Decimal
  memo : Option String
  postedAt : Instant
  source : Option String
  deriving DecidableEq

/-! ## The builder -/

inductive PostingError where
  | unbalancedJournalEntry (message : String)
  | invalidOperation
  deriving DecidableEq

structure JournalLine (υ : Type) where
  accountId : υ
  debit : Decimal := noAmount
  credit : Decimal := noAmount
  memo : Option String := none
  deriving DecidableEq

/-- `_q`: two places, where the digits fit. -/
def q (value : Decimal) : Except PostingError Decimal :=
  match value.quantize hundredths with
  | some d => .ok d
  | none => .error .invalidOperation

/-- What the lines of an entry share. -/
structure EntryHeader (υ : Type) where
  tenantId : υ
  entryId : υ
  postedAt : Instant
  source : Option String

/-- The variables of the builder's loop. -/
structure Building (υ : Type) where
  rows : List (JournalEntryRow υ) := []
  totalDebit : Decimal := noAmount
  totalCredit : Decimal := noAmount

/-- One turn of the loop over the numbered lines. -/
def addLine (header : EntryHeader υ) (b : Building υ) (line : JournalLine υ × Nat) :
    Except PostingError (Building υ) := do
  let debit ← q line.1.debit
  let credit ← q line.1.credit
  if !zero.le debit || !zero.le credit then
    .error (.unbalancedJournalEntry "journal line debit/credit must be non-negative")
  else if (!debit.le zero)=(!credit.le zero) then
    .error (.unbalancedJournalEntry
      "journal line must have exactly one of debit / credit non-zero")
  else
    .ok {
      rows := b.rows++[⟨header.entryId,line.2,header.tenantId,line.1.accountId,debit,credit,
        line.1.memo,header.postedAt,header.source⟩]
      totalDebit := b.totalDebit.add debit
      totalCredit := b.totalCredit.add credit }

/-- The arguments of a call, with the identifier and the clock its defaults read. -/
structure Posting (υ : Type) where
  tenantId : υ
  lines : List (JournalLine υ)
  postedAt : Option Instant := none
  source : Option String := none
  entryId : Option υ := none
  uuid7 : υ
  now : Instant

def Posting.header (p : Posting υ) : EntryHeader υ :=
  ⟨p.tenantId,p.entryId.getD p.uuid7,p.postedAt.getD p.now,p.source⟩

/-- `build_journal_entry`. -/
def buildJournalEntry (p : Posting υ) : Except PostingError (List (JournalEntryRow υ)) :=
  if p.lines.length<2 then
    .error (.unbalancedJournalEntry "journal entry requires at least two lines")
  else do
    let b ← (p.lines.zipIdx 1).foldlM (addLine p.header) {}
    if b.totalDebit.beq b.totalCredit then .ok b.rows
    else
      .error (.unbalancedJournalEntry ("journal entry unbalanced: debits="++b.totalDebit.text++
        " credits="++b.totalCredit.text))

/-! ## The tables -/

structure Ledger (υ : Type) where
  accounts : List (LedgerAccountRow υ) := []
  entries : List (JournalEntryRow υ) := []

/-- The largest value of an `Integer` column. -/
def maxInteger : Nat := 2147483647

/-- The column types and the foreign key of a line. -/
structure Storable (db : Ledger υ) (r : JournalEntryRow υ) : Prop where
  debit : fitsAmount r.debit
  credit : fitsAmount r.credit
  lineNo : r.lineNo≤ maxInteger
  account : ∃ a∈db.accounts,a.id=r.accountId

instance (db : Ledger υ) (r : JournalEntryRow υ) : Decidable (Storable db r) :=
  decidable_of_iff
    (fitsAmount r.debit ∧ fitsAmount r.credit ∧ r.lineNo≤ maxInteger ∧
      ∃ a∈db.accounts,a.id=r.accountId)
    ⟨fun ⟨hd,hc,hl,ha⟩ => ⟨hd,hc,hl,ha⟩,fun ⟨hd,hc,hl,ha⟩ => ⟨hd,hc,hl,ha⟩⟩

/-- The primary key of a line. -/
def JournalEntryRow.key (r : JournalEntryRow υ) : υ × Nat := (r.entryId,r.lineNo)

/-- The rows of an entry added to a session and committed. -/
def commit (db : Ledger υ) (rows : List (JournalEntryRow υ)) : Option (Ledger υ) :=
  if (∀ r∈rows,Storable db r) ∧ ((db.entries++rows).map JournalEntryRow.key).Nodup ∧
      (db.entries++rows).length≤tableRows then
    some {db with entries := db.entries++rows}
  else none

/-- An account committed: its identifier is new, and its code is within the tenant. -/
def openAccount (db : Ledger υ) (a : LedgerAccountRow υ) : Option (Ledger υ) :=
  if (∀ b∈db.accounts,b.id≠a.id ∧ (b.tenantId=a.tenantId → b.code≠a.code)) then
    some {db with accounts := db.accounts++[a]}
  else none

inductive LedgerAction (υ : Type) where
  | account (row : LedgerAccountRow υ)
  | post (posting : Posting υ)

/-- An accepted and committed write; a refused one writes nothing. -/
def ledgerStep (db : Ledger υ) : LedgerAction υ → Option (Ledger υ)
  | .account a => openAccount db a
  | .post p =>
    match buildJournalEntry p with
    | .ok rows => commit db rows
    | .error _ => none

/-- The accounts of a posting belong to its tenant. -/
def OwnAccounts (db : Ledger υ) : LedgerAction υ → Prop
  | .account _ => True
  | .post p => ∀ l∈p.lines,∃ a∈db.accounts,a.id=l.accountId ∧ a.tenantId=p.tenantId

/-! ## Built entries -/

/-- An amount that is not negative, in hundredths. -/
structure Hundredths (d : Decimal) : Prop where
  exponent : d.exponent=hundredths
  nonneg : 0≤d.coefficient

/-- The row built for a numbered line. -/
structure Built (header : EntryHeader υ) (line : JournalLine υ × Nat) (r : JournalEntryRow υ) :
    Prop where
  tenant : r.tenantId=header.tenantId
  postedAt : r.postedAt=header.postedAt
  account : r.accountId=line.1.accountId
  lineNo : r.lineNo=line.2
  debit : Hundredths r.debit
  credit : Hundredths r.credit

variable {d : Decimal}

theorem exponent_of_q {value : Decimal} (h : q value=.ok d) : d.exponent=hundredths := by
  unfold q at h
  split at h
  · rename_i d' hd
    cases h
    exact quantize_scaled hd
  · cases h

theorem hundredths_of_le (he : d.exponent=hundredths) (h : zero.le d=true) : Hundredths d := by
  rw [(scaled_zero hundredths).le hundredths_nonpos (scaled_of_exponent he)] at h
  exact ⟨he,of_decide_eq_true h⟩

variable {b b' : Building υ}

/-- A turn that succeeds appends the row of its line and adds its amounts. -/
theorem addLine_ok {header : EntryHeader υ} {line : JournalLine υ × Nat}
    (h : addLine header b line=.ok b') :
    ∃ r,Built header line r ∧ b'={
      rows := b.rows++[r]
      totalDebit := b.totalDebit.add r.debit
      totalCredit := b.totalCredit.add r.credit } := by
  unfold addLine at h
  obtain ⟨debit,hdebit,h⟩ := bind_ok.mp h
  obtain ⟨credit,hcredit,h⟩ := bind_ok.mp h
  split at h
  · cases h
  rename_i hsign
  split at h
  · cases h
  have hsigns : zero.le debit=true ∧ zero.le credit=true := by
    cases hd : zero.le debit <;> cases hc : zero.le credit <;> simp [hd,hc] at hsign ⊢
  have hd : Hundredths debit := hundredths_of_le (exponent_of_q hdebit) hsigns.1
  have hc : Hundredths credit := hundredths_of_le (exponent_of_q hcredit) hsigns.2
  exact ⟨_,⟨rfl,rfl,rfl,rfl,hd,hc⟩,(Except.ok.inj h).symm⟩

/-- The loop builds a row a line, and its totals are the running sums. -/
theorem addLines_ok {header : EntryHeader υ} {lines : List (JournalLine υ × Nat)}
    (h : lines.foldlM (addLine header) b=.ok b') :
    ∃ rows,List.Forall₂ (Built header) lines rows ∧ b'={
      rows := b.rows++rows
      totalDebit := (rows.map JournalEntryRow.debit).foldl Decimal.add b.totalDebit
      totalCredit := (rows.map JournalEntryRow.credit).foldl Decimal.add b.totalCredit } := by
  induction lines generalizing b with
  | nil =>
    cases h
    exact ⟨[],.nil,by rw [List.append_nil]; rfl⟩
  | cons line lines ih =>
    rw [List.foldlM_cons] at h
    obtain ⟨b₁,hline,hrest⟩ := bind_ok.mp h
    obtain ⟨r,hr,rfl⟩ := addLine_ok hline
    obtain ⟨rows,hrows,rfl⟩ := ih hrest
    refine ⟨r::rows,.cons hr hrows,?_⟩
    rw [List.append_assoc]
    rfl

variable {p : Posting υ} {rows : List (JournalEntryRow υ)}

/-- What the builder returns: a row a line, with equal totals. -/
theorem buildJournalEntry_ok (h : buildJournalEntry p=.ok rows) :
    List.Forall₂ (Built p.header) (p.lines.zipIdx 1) rows ∧
    ((rows.map JournalEntryRow.debit).foldl Decimal.add noAmount).beq
      ((rows.map JournalEntryRow.credit).foldl Decimal.add noAmount)=true := by
  unfold buildJournalEntry at h
  split at h
  · cases h
  obtain ⟨b,hb,h⟩ := bind_ok.mp h
  obtain ⟨rows',hrows,rfl⟩ := addLines_ok hb
  split at h
  · rename_i heq
    cases h
    exact ⟨hrows,heq⟩
  · cases h

/-! ## Balance -/

/-- The lines of a tenant up to a moment. -/
def visible (tenant : υ) (cutoff : Instant) (r : JournalEntryRow υ) : Bool :=
  decide (r.tenantId=tenant) && r.postedAt.le cutoff

def debitOf (r : JournalEntryRow υ) : Int := r.debit.coefficient

def creditOf (r : JournalEntryRow υ) : Int := r.credit.coefficient

/-- An amount as its column keeps it. -/
structure Stored (d : Decimal) : Prop extends Hundredths d where
  fits : d.coefficient<10^14

/-- The tables of a ledger whose every tenant balances at every moment. -/
structure Balanced (db : Ledger υ) : Prop where
  accounts : (db.accounts.map LedgerAccountRow.id).Nodup
  owned : ∀ r∈db.entries,∃ a∈db.accounts,a.id=r.accountId ∧ a.tenantId=r.tenantId
  debits : ∀ r∈db.entries,Stored r.debit
  credits : ∀ r∈db.entries,Stored r.credit
  capacity : db.entries.length≤tableRows
  balanced : ∀ (tenant : υ) (cutoff : Instant),
    ((db.entries.filter (visible tenant cutoff)).map debitOf).sum=
      ((db.entries.filter (visible tenant cutoff)).map creditOf).sum

theorem stored_of_fits (h : Hundredths d) (hfit : fitsAmount d) : Stored d := by
  have hnonneg := h.nonneg
  unfold fitsAmount at hfit
  rw [coefficientAt_of_exponent h.exponent] at hfit
  exact ⟨h,by omega⟩

/-- The running sum of a column of stored rows is exact. -/
theorem column_sum {column : JournalEntryRow υ → Decimal} (hrows : ∀ r∈rows,Stored (column r))
    (hlen : rows.length≤tableRows) :
    Scaled hundredths ((rows.map column).foldl Decimal.add noAmount)
      (rows.map fun r => (column r).coefficient).sum := by
  have hds : ∀ d∈rows.map column,d.exponent=hundredths ∧ 0≤d.coefficient :=
    List.forall_mem_map.mpr fun r hr => ⟨(hrows r hr).exponent,(hrows r hr).nonneg⟩
  have hle : ∀ c∈(rows.map column).map Decimal.coefficient,c≤2*10^14 := by
    refine List.forall_mem_map.mpr (List.forall_mem_map.mpr fun r hr => ?_)
    have hfits := (hrows r hr).fits
    omega
  have hsum := running_sum hds (sum_fits hle (by rwa [List.length_map,List.length_map]))
  rwa [List.map_map] at hsum

/-- A built and stored entry balances to the cent. -/
theorem debits_eq_credits
    (htotals : ((rows.map JournalEntryRow.debit).foldl Decimal.add noAmount).beq
      ((rows.map JournalEntryRow.credit).foldl Decimal.add noAmount)=true)
    (hdebits : ∀ r∈rows,Stored r.debit) (hcredits : ∀ r∈rows,Stored r.credit)
    (hlen : rows.length≤tableRows) : (rows.map debitOf).sum=(rows.map creditOf).sum := by
  rw [(column_sum hdebits hlen).beq hundredths_nonpos (column_sum hcredits hlen)] at htotals
  exact of_decide_eq_true htotals

theorem balanced_empty : Balanced ({} : Ledger υ) :=
  ⟨.nil,List.forall_mem_nil _,List.forall_mem_nil _,List.forall_mem_nil _,Nat.zero_le _,
    fun _ _ => rfl⟩

theorem Balanced.openAccount {db db' : Ledger υ} {a : LedgerAccountRow υ} (h : Balanced db)
    (hopen : openAccount db a=some db') : Balanced db' := by
  unfold JournalPosting.openAccount at hopen
  split at hopen
  · rename_i hnew
    cases hopen
    refine ⟨?_,fun r hr => ?_,h.debits,h.credits,h.capacity,h.balanced⟩
    · rw [List.map_append]
      refine List.nodup_append.mpr ⟨h.accounts,List.pairwise_singleton _ _,?_⟩
      intro x hx y hy
      obtain ⟨b,hb,rfl⟩ := List.mem_map.mp hx
      obtain rfl := List.mem_singleton.mp hy
      exact (hnew b hb).1
    · obtain ⟨b,hb,hrest⟩ := h.owned r hr
      exact ⟨b,List.mem_append_left _ hb,hrest⟩
  · cases hopen

variable {db : Ledger υ}

/-- Committing an entry built for accounts of its tenant keeps every balance:
its lines share tenant and moment, so a cut-off takes all of them or none. -/
theorem Balanced.post {db' : Ledger υ} (h : Balanced db) (hown : OwnAccounts db (.post p))
    (hbuild : buildJournalEntry p=.ok rows) (hcommit : commit db rows=some db') : Balanced db' := by
  obtain ⟨hbuilt,htotals⟩ := buildJournalEntry_ok hbuild
  unfold commit at hcommit
  split at hcommit
  · rename_i hstore
    obtain ⟨hstorable,-,hcapacity⟩ := hstore
    cases hcommit
    have hline : ∀ r∈rows,∃ line∈p.lines.zipIdx 1,Built p.header line r := by
      intro r hr
      obtain ⟨line,hline,hr⟩ := partner_of_mem hbuilt.flip hr
      exact ⟨line,hline,hr⟩
    have hdebits : ∀ r∈rows,Stored r.debit := by
      intro r hr
      obtain ⟨line,-,hb⟩ := hline r hr
      exact stored_of_fits hb.debit (hstorable r hr).debit
    have hcredits : ∀ r∈rows,Stored r.credit := by
      intro r hr
      obtain ⟨line,-,hb⟩ := hline r hr
      exact stored_of_fits hb.credit (hstorable r hr).credit
    have hlen : rows.length≤tableRows := by
      rw [List.length_append] at hcapacity
      omega
    have hsum := debits_eq_credits htotals hdebits hcredits hlen
    refine ⟨h.accounts,fun r hr => ?_,fun r hr => ?_,fun r hr => ?_,hcapacity,fun t cutoff => ?_⟩
    · rcases List.mem_append.mp hr with hr|hr
      · exact h.owned r hr
      · obtain ⟨line,hmem,hb⟩ := hline r hr
        obtain ⟨a,ha,hid,htenant⟩ := hown line.1 (List.fst_mem_of_mem_zipIdx hmem)
        exact ⟨a,ha,hid.trans hb.account.symm,htenant.trans hb.tenant.symm⟩
    · exact (List.mem_append.mp hr).elim (h.debits r) (hdebits r)
    · exact (List.mem_append.mp hr).elim (h.credits r) (hcredits r)
    · have hsame : ∀ r∈rows,visible t cutoff r=
          (decide (p.header.tenantId=t) && p.header.postedAt.le cutoff) := by
        intro r hr
        obtain ⟨line,-,hb⟩ := hline r hr
        unfold visible
        rw [hb.tenant,hb.postedAt]
      have hnew : ((rows.filter (visible t cutoff)).map debitOf).sum=
          ((rows.filter (visible t cutoff)).map creditOf).sum := by
        rw [List.filter_congr hsame]
        cases decide (p.header.tenantId=t) && p.header.postedAt.le cutoff with
        | true => rwa [List.filter_true]
        | false => rw [List.filter_false]; rfl
      rw [List.filter_append,List.map_append,List.map_append,List.sum_append,List.sum_append,
        h.balanced t cutoff,hnew]
  · cases hcommit

/-- Runs of postings to accounts of their tenants keep every balance. -/
theorem balanced_of_run {actions : List (LedgerAction υ)}
    (hrun : Run (guarded (ofPartial ledgerStep) OwnAccounts) {} actions db) : Balanced db := by
  refine hrun.guarded_invariant balanced_empty fun db action db' h hstep hown => ?_
  cases action with
  | account a => exact h.openAccount hstep
  | post p =>
    unfold ofPartial ledgerStep at hstep
    dsimp only at hstep
    split at hstep
    · rename_i rows hbuild
      exact h.post hown hbuild hstep
    · cases hstep

end Voyagent.JournalPosting
