import Voyagent.JournalPosting

/-!
# The trial balance

The aggregate of the journal by account up to a date, the loop that formats and
totals it, and its agreement: in every committed ledger the totals are equal and
the balances sum to zero, whether or not idle accounts are shown.
-/

namespace Voyagent.TrialBalance

open CalendarDates Decimals AmountColumns TransitionRuns GroupedSums JournalPosting

variable {υ : Type} [DecidableEq υ]

structure TrialBalanceAccount where
  code : String
  name : String
  type : String
  debit : String
  credit : String
  balance : String
  currency : String
  deriving DecidableEq

structure TrialBalanceResponse (υ : Type) where
  tenantId : υ
  asOf : CalendarDate
  accounts : List TrialBalanceAccount
  totalDebit : String
  totalCredit : String
  inBalance : Bool
  deriving DecidableEq

/-! ## The aggregate -/

/-- `coalesce(sum(column), 0)` of an amount column; the database adds exactly. -/
def sumColumn (ds : List Decimal) : Decimal :=
  if ds.isEmpty then zero else ⟨(ds.map fun d => d.coefficientAt hundredths).sum,hundredths⟩

/-- The last moment of a date. -/
def endOfDay (asOf : CalendarDate) : Instant := ⟨asOf,86399999999⟩

/-- The lines an account is joined with. -/
def joined (db : Ledger υ) (tenant : υ) (cutoff : Instant) (a : LedgerAccountRow υ) :
    List (JournalEntryRow υ) :=
  db.entries.filter fun r => decide (r.accountId=a.id) && visible tenant cutoff r

/-- A row of the result. -/
structure AccountSums where
  code : String
  name : String
  type : LedgerAccountType
  debit : Decimal
  credit : Decimal

def accountSums (db : Ledger υ) (tenant : υ) (cutoff : Instant) (a : LedgerAccountRow υ) :
    AccountSums :=
  let lines := joined db tenant cutoff a
  ⟨a.code,a.name,a.type,sumColumn (lines.map JournalEntryRow.debit),
    sumColumn (lines.map JournalEntryRow.credit)⟩

/-- The accounts of the tenant by code, in the collation of the database. -/
def accountsByCode (collation : String → String → Bool) (db : Ledger υ) (tenant : υ) :
    List (LedgerAccountRow υ) :=
  (db.accounts.filter fun a => decide (a.tenantId=tenant)).mergeSort
    fun a b => collation a.code b.code

/-! ## The loop -/

/-- `_fmt_dec`; quantizing fails where the digits do not fit. -/
def fmtDec (d : Decimal) : Option String := (d.quantize hundredths).map Decimal.text

/-- `raw or 0` as a decimal. -/
def orZero (raw : Decimal) : Decimal := if raw.beq zero then zero else raw

/-- The variables of the loop. -/
structure Totals where
  accounts : List TrialBalanceAccount := []
  totalDebit : Decimal := noAmount
  totalCredit : Decimal := noAmount

/-- One turn of the loop over the rows. -/
def addAccount (includeZero : Bool) (t : Totals) (row : AccountSums) : Option Totals :=
  let debit := orZero row.debit
  let credit := orZero row.credit
  if debit.beq zero && credit.beq zero && !includeZero then some t
  else do
    let debitText ← fmtDec debit
    let creditText ← fmtDec credit
    let balanceText ← fmtDec (debit.sub credit)
    some {
      accounts := t.accounts++
        [⟨row.code,row.name,row.type.value,debitText,creditText,balanceText,"INR"⟩]
      totalDebit := t.totalDebit.add debit
      totalCredit := t.totalCredit.add credit }

/-- `trial_balance_report` for a tenant and a date; nothing where a number does not fit. -/
def trialBalanceReport (collation : String → String → Bool) (db : Ledger υ) (tenant : υ)
    (asOf : CalendarDate) (includeZero : Bool) : Option (TrialBalanceResponse υ) := do
  let rows := (accountsByCode collation db tenant).map (accountSums db tenant (endOfDay asOf))
  let t ← rows.foldlM (addAccount includeZero) {}
  let debitText ← fmtDec t.totalDebit
  let creditText ← fmtDec t.totalCredit
  some ⟨tenant,asOf,t.accounts,debitText,creditText,t.totalDebit.beq t.totalCredit⟩

/-! ## The loop over exact sums -/

/-- The text of an amount in hundredths. -/
def amountText (c : Int) : String := (⟨c,hundredths⟩ : Decimal).text

variable {d : Decimal} {m n : Int}

theorem fmtDec_scaled (h : Scaled hundredths d m) (hfit : m.natAbs<10^precision) :
    fmtDec d=some (amountText m) := by
  unfold fmtDec
  rw [h.quantize hundredths_nonpos hfit]
  rfl

theorem orZero_scaled (h : Scaled hundredths d m) : Scaled hundredths (orZero d) m := by
  unfold orZero
  rw [h.beq hundredths_nonpos (scaled_zero hundredths)]
  by_cases hm : m=0
  · rw [if_pos (decide_eq_true hm)]
    exact .inr ⟨hm,rfl⟩
  · rwa [if_neg (by simpa using hm)]

/-- The sums of an account in hundredths. -/
structure SumsTo (row : AccountSums) (m n : Int) : Prop where
  debit : Scaled hundredths row.debit m
  credit : Scaled hundredths row.credit n

/-- The totals are exact and every balance shown is the text of an integer. -/
structure TotalsTo (t : Totals) (m n : Int) (balances : List Int) : Prop where
  debit : Scaled hundredths t.totalDebit m
  credit : Scaled hundredths t.totalCredit n
  shown : t.accounts.map TrialBalanceAccount.balance=balances.map amountText
  balance : balances.sum=m-n

variable {balances : List Int}

/-- A turn adds the sums of its account; an account left out has none. -/
theorem addAccount_exact {row : AccountSums} {t : Totals} {x y : Int} (includeZero : Bool)
    (hrow : SumsTo row x y) (ht : TotalsTo t m n balances) (hx : 0≤x) (hy : 0≤y) (hm : 0≤ m)
    (hn : 0≤n) (hmx : m+x<10^precision) (hny : n+y<10^precision) :
    ∃ t' balances',addAccount includeZero t row=some t' ∧ TotalsTo t' (m+x) (n+y) balances' := by
  have hdebit := orZero_scaled hrow.debit
  have hcredit := orZero_scaled hrow.credit
  have hzero := scaled_zero hundredths
  unfold addAccount
  dsimp only
  rw [hdebit.beq hundredths_nonpos hzero,hcredit.beq hundredths_nonpos hzero]
  by_cases hskip : (decide (x=0) && decide (y=0) && !includeZero)=true
  · simp only [Bool.and_eq_true,decide_eq_true_eq] at hskip
    obtain ⟨⟨rfl,rfl⟩,hshow⟩ := hskip
    rw [if_pos (by rw [hshow]; rfl),Int.add_zero,Int.add_zero]
    exact ⟨t,balances,rfl,ht⟩
  · have hfit : (x-y).natAbs<10^precision := fits_of_bounds (by omega) (by omega)
    rw [if_neg hskip,fmtDec_scaled hdebit (fits_of_bounds (by omega) (by omega)),
      fmtDec_scaled hcredit (fits_of_bounds (by omega) (by omega)),
      fmtDec_scaled (hdebit.sub hundredths_nonpos hcredit hfit) hfit]
    refine ⟨_,balances++[x-y],rfl,?_⟩
    constructor
    · exact ht.debit.add hundredths_nonpos hdebit (fits_of_bounds hmx (by omega))
    · exact ht.credit.add hundredths_nonpos hcredit (fits_of_bounds hny (by omega))
    · rw [List.map_append,List.map_append,ht.shown]
      rfl
    · have hsum := ht.balance
      rw [List.sum_append,List.sum_singleton]
      omega

/-- The loop adds up the sums of all accounts, shown or not. -/
theorem addAccounts_exact {α : Type} {f : α → AccountSums} {x y : α → Int} (includeZero : Bool)
    {as : List α} (hrows : ∀ a∈as,SumsTo (f a) (x a) (y a)) (hx : ∀ a∈as,0≤x a) (hy : ∀ a∈as,0≤y a)
    {t : Totals} (ht : TotalsTo t m n balances) (hm : 0≤ m) (hn : 0≤n)
    (hmx : m+(as.map x).sum<10^precision) (hny : n+(as.map y).sum<10^precision) :
    ∃ t' balances',(as.map f).foldlM (addAccount includeZero) t=some t' ∧
      TotalsTo t' (m+(as.map x).sum) (n+(as.map y).sum) balances' := by
  induction as generalizing t m n balances with
  | nil => exact ⟨t,balances,rfl,by simpa using ht⟩
  | cons a as ih =>
    have hxa : 0≤x a := hx a List.mem_cons_self
    have hya : 0≤y a := hy a List.mem_cons_self
    have hxs : 0≤(as.map x).sum :=
      sum_nonneg (List.forall_mem_map.mpr fun a' ha' => hx a' (List.mem_cons_of_mem _ ha'))
    have hys : 0≤(as.map y).sum :=
      sum_nonneg (List.forall_mem_map.mpr fun a' ha' => hy a' (List.mem_cons_of_mem _ ha'))
    rw [List.map_cons,List.sum_cons,← Int.add_assoc] at hmx hny
    rw [List.map_cons,List.map_cons,List.map_cons,List.sum_cons,List.sum_cons,← Int.add_assoc,
      ← Int.add_assoc,List.foldlM_cons]
    obtain ⟨t₁,balances₁,hstep,ht₁⟩ := addAccount_exact includeZero (hrows a List.mem_cons_self)
      ht hxa hya hm hn (by omega) (by omega)
    rw [hstep]
    exact ih (fun a' ha' => hrows a' (List.mem_cons_of_mem _ ha'))
      (fun a' ha' => hx a' (List.mem_cons_of_mem _ ha'))
      (fun a' ha' => hy a' (List.mem_cons_of_mem _ ha')) ht₁ (Int.add_nonneg hm hxa)
      (Int.add_nonneg hn hya) hmx hny

/-! ## The aggregate of a balanced ledger -/

theorem sumColumn_scaled {ds : List Decimal} (h : ∀ d∈ds,Stored d) :
    Scaled hundredths (sumColumn ds) (ds.map Decimal.coefficient).sum := by
  unfold sumColumn
  cases ds with
  | nil => exact scaled_zero hundredths
  | cons d ds =>
    have hself : (d::ds).map (fun d => d.coefficientAt hundredths)=(d::ds).map Decimal.coefficient :=
      List.map_congr_left fun d' hd' => coefficientAt_of_exponent (h d' hd').exponent
    rw [hself]
    exact .inl rfl

theorem joined_eq_group (db : Ledger υ) (tenant : υ) (cutoff : Instant) (a : LedgerAccountRow υ) :
    joined db tenant cutoff a=
      group JournalEntryRow.accountId (db.entries.filter (visible tenant cutoff)) a.id :=
  List.filter_filter.symm

variable {collation : String → String → Bool} {db : Ledger υ}

theorem mem_accountsByCode {tenant : υ} {a : LedgerAccountRow υ} :
    a∈accountsByCode collation db tenant ↔ a∈db.accounts ∧ a.tenantId=tenant := by
  unfold accountsByCode
  rw [(List.mergeSort_perm _ _).mem_iff,List.mem_filter,decide_eq_true_iff]

theorem nodup_accountsByCode {tenant : υ} (h : Balanced db) :
    ((accountsByCode collation db tenant).map LedgerAccountRow.id).Nodup := by
  have hperm := (List.mergeSort_perm (db.accounts.filter fun a => decide (a.tenantId=tenant))
    fun a b => collation a.code b.code).map LedgerAccountRow.id
  exact hperm.nodup_iff.mpr (h.accounts.sublist (List.filter_sublist.map _))

/-- The accounts of a tenant share out the lines it sees. -/
theorem sum_accounts (h : Balanced db) (tenant : υ) (cutoff : Instant) (f : JournalEntryRow υ → Int) :
    ((accountsByCode collation db tenant).map fun a =>
        ((joined db tenant cutoff a).map f).sum).sum=
      ((db.entries.filter (visible tenant cutoff)).map f).sum := by
  have howner : ∀ r∈db.entries.filter (visible tenant cutoff),
      r.accountId∈(accountsByCode collation db tenant).map LedgerAccountRow.id := by
    intro r hr
    obtain ⟨hmem,hsees⟩ := List.mem_filter.mp hr
    obtain ⟨a,ha,hid,htenant⟩ := h.owned r hmem
    have hvisible := of_decide_eq_true (Bool.and_eq_true_iff.mp hsees).1
    exact List.mem_map.mpr ⟨a,mem_accountsByCode.mpr ⟨ha,htenant.trans hvisible⟩,hid⟩
  rw [← sum_groups JournalEntryRow.accountId f (nodup_accountsByCode h) howner,List.map_map]
  congr 1
  refine List.map_congr_left fun a _ => ?_
  rw [joined_eq_group]
  rfl

/-- The amounts of any lines of a ledger add up within the digits of the context. -/
theorem sum_lines_fits (h : Balanced db) (p : JournalEntryRow υ → Bool)
    (f : JournalEntryRow υ → Int) (hf : ∀ r∈db.entries,f r<10^14) :
    ((db.entries.filter p).map f).sum<10^precision := by
  have hle : ∀ c∈(db.entries.filter p).map f,c≤2*10^14 := by
    refine List.forall_mem_map.mpr fun r hr => ?_
    have hlt := hf r (List.mem_of_mem_filter hr)
    omega
  have hlen := List.length_filter_le p db.entries
  have hcapacity := h.capacity
  exact sum_fits hle (by rw [List.length_map]; omega)

theorem sumsTo_of_balanced (h : Balanced db) (tenant : υ) (cutoff : Instant)
    (a : LedgerAccountRow υ) :
    SumsTo (accountSums db tenant cutoff a) ((joined db tenant cutoff a).map debitOf).sum
      ((joined db tenant cutoff a).map creditOf).sum := by
  have hdebits : ∀ d∈(joined db tenant cutoff a).map JournalEntryRow.debit,Stored d :=
    List.forall_mem_map.mpr fun r hr => h.debits r (List.mem_of_mem_filter hr)
  have hcredits : ∀ d∈(joined db tenant cutoff a).map JournalEntryRow.credit,Stored d :=
    List.forall_mem_map.mpr fun r hr => h.credits r (List.mem_of_mem_filter hr)
  have hdebit := sumColumn_scaled hdebits
  have hcredit := sumColumn_scaled hcredits
  rw [List.map_map] at hdebit hcredit
  exact ⟨hdebit,hcredit⟩

/-- A report whose totals agree and whose balances sum to zero. -/
structure Agrees (r : TrialBalanceResponse υ) : Prop where
  totals : r.totalDebit=r.totalCredit
  inBalance : r.inBalance=true
  balances : ∃ cs : List Int,
    r.accounts.map TrialBalanceAccount.balance=cs.map amountText ∧ cs.sum=0

/-- The report of a balanced ledger exists, agrees, and shows the lines' total. -/
theorem report_of_balanced (h : Balanced db) (collation : String → String → Bool) (tenant : υ)
    (asOf : CalendarDate) (includeZero : Bool) :
    ∃ r,trialBalanceReport collation db tenant asOf includeZero=some r ∧ Agrees r ∧
      r.totalDebit=amountText
        ((db.entries.filter (visible tenant (endOfDay asOf))).map debitOf).sum := by
  let cutoff := endOfDay asOf
  let as := accountsByCode collation db tenant
  let x := fun a => ((joined db tenant cutoff a).map debitOf).sum
  let y := fun a => ((joined db tenant cutoff a).map creditOf).sum
  have hx : ∀ a∈as,0≤x a := fun a _ => sum_nonneg (List.forall_mem_map.mpr fun r hr =>
    (h.debits r (List.mem_of_mem_filter hr)).nonneg)
  have hy : ∀ a∈as,0≤y a := fun a _ => sum_nonneg (List.forall_mem_map.mpr fun r hr =>
    (h.credits r (List.mem_of_mem_filter hr)).nonneg)
  have hdebit : (as.map x).sum=((db.entries.filter (visible tenant cutoff)).map debitOf).sum :=
    sum_accounts h tenant cutoff debitOf
  have hcredit : (as.map y).sum=(as.map x).sum := by
    rw [hdebit,h.balanced tenant cutoff]
    exact sum_accounts h tenant cutoff creditOf
  have hfit : (as.map x).sum<10^precision := by
    rw [hdebit]
    exact sum_lines_fits h _ _ fun r hr => (h.debits r hr).fits
  have hnonneg : 0≤(as.map x).sum := sum_nonneg (List.forall_mem_map.mpr hx)
  have hstart : TotalsTo {} 0 0 [] := ⟨.inl rfl,.inl rfl,rfl,rfl⟩
  obtain ⟨t,balances,hloop,ht⟩ := addAccounts_exact includeZero
    (fun a _ => sumsTo_of_balanced h tenant cutoff a) hx hy hstart (Int.le_refl 0) (Int.le_refl 0)
    (by rwa [Int.zero_add]) (by rwa [Int.zero_add,hcredit])
  rw [hcredit,Int.zero_add] at ht
  have hnat : (as.map x).sum.natAbs<10^precision := fits_of_bounds hfit (by omega)
  have hbalance := ht.balance
  unfold trialBalanceReport
  dsimp only
  rw [hloop]
  refine ⟨⟨tenant,asOf,t.accounts,amountText (as.map x).sum,amountText (as.map x).sum,true⟩,?_,
    ⟨rfl,rfl,balances,ht.shown,by omega⟩,congrArg amountText hdebit⟩
  simp only [Option.bind_eq_bind,Option.bind_some]
  rw [fmtDec_scaled ht.debit hnat,fmtDec_scaled ht.credit hnat,
    ht.debit.beq hundredths_nonpos ht.credit,decide_eq_true rfl]
  rfl

/-- After any run of accepted and committed entries over accounts of their
tenants, the trial balance of every tenant and date agrees, with and without
idle accounts, and both show the same totals. -/
theorem trialBalance_agrees {actions : List (LedgerAction υ)} {db : Ledger υ}
    (hrun : Run (guarded (ofPartial ledgerStep) OwnAccounts) {} actions db)
    (collation : String → String → Bool) (tenant : υ) (asOf : CalendarDate) :
    ∃ brief full,trialBalanceReport collation db tenant asOf false=some brief ∧
      trialBalanceReport collation db tenant asOf true=some full ∧ Agrees brief ∧ Agrees full ∧
      brief.totalDebit=full.totalDebit ∧ brief.totalCredit=full.totalCredit := by
  have h := balanced_of_run hrun
  obtain ⟨brief,hbrief,hagrees,htotal⟩ := report_of_balanced h collation tenant asOf false
  obtain ⟨full,hfull,hagrees',htotal'⟩ := report_of_balanced h collation tenant asOf true
  have hdebit : brief.totalDebit=full.totalDebit := htotal.trans htotal'.symm
  refine ⟨brief,full,hbrief,hfull,hagrees,hagrees',hdebit,?_⟩
  rw [← hagrees.totals,← hagrees'.totals,hdebit]

/-- A sale of ten posted between two accounts. -/
theorem trialBalance_agrees_sale :
    let cash : LedgerAccountRow Nat := ⟨1,7,"1000","Cash",.asset⟩
    let sales : LedgerAccountRow Nat := ⟨2,7,"4000","Sales",.revenue⟩
    let noon : Instant := ⟨⟨2026,4,1,by decide⟩,43200000000⟩
    let sale : Posting Nat := {
      tenantId := 7
      lines := [{accountId := 1,debit := ⟨10,0⟩},{accountId := 2,credit := ⟨10,0⟩}]
      uuid7 := 9
      now := noon }
    ∃ db,Run (guarded (ofPartial ledgerStep) OwnAccounts) {} [.account cash,.account sales,.post sale]
        db ∧
      ∃ brief full,trialBalanceReport (fun a b => decide (a≤b)) db 7 noon.date false=some brief ∧
        trialBalanceReport (fun a b => decide (a≤b)) db 7 noon.date true=some full ∧ Agrees brief ∧
        Agrees full ∧ brief.totalDebit=full.totalDebit ∧ brief.totalCredit=full.totalCredit := by
  intro cash sales noon sale
  have hcash : ledgerStep {} (.account cash)=some {accounts := [cash]} := rfl
  have hsales : ledgerStep {accounts := [cash]} (.account sales)=
      some {accounts := [cash,sales]} := rfl
  have hopen : Run (guarded (ofPartial ledgerStep) OwnAccounts) {} [.account cash,.account sales]
      {accounts := [cash,sales]} :=
    (Run.start.next ⟨hcash,trivial⟩).next ⟨hsales,trivial⟩
  have hown : OwnAccounts ({accounts := [cash,sales]} : Ledger Nat) (.post sale) := by
    unfold OwnAccounts
    decide
  obtain ⟨db,hpost⟩ : ∃ db,ledgerStep {accounts := [cash,sales]} (.post sale)=some db :=
    Option.isSome_iff_exists.mp (by decide +kernel)
  have hrun := hopen.next ⟨hpost,hown⟩
  exact ⟨db,hrun,trialBalance_agrees hrun _ 7 noon.date⟩

end Voyagent.TrialBalance
