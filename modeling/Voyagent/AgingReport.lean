import Voyagent.AmountColumns
import Voyagent.CalendarDates
import Voyagent.FallibleResults
import Voyagent.KeyedMap

/-!
# The aging report

Open invoices and bills by days past due. The buckets add whatever is
outstanding, the total only one currency, so the report conserves money for
tenants of one currency and for no others.
-/

namespace Voyagent.AgingReport

open CalendarDates Decimals AmountColumns FallibleResults GroupedSums KeyedMap

/-! ## The tables -/

inductive InvoiceStatus where
  | draft | issued | partiallyPaid | paid | void
  deriving DecidableEq

inductive BillStatus where
  | draft | received | scheduled | paid | void
  deriving DecidableEq

/-- A row of either table, with the columns the report reads. -/
structure DocumentRow (υ σ : Type) where
  tenantId : υ
  status : σ
  issueDate : CalendarDate
  dueDate : CalendarDate
  totalAmount : Amount
  amountPaid : Amount
  currency : String
  partyName : String
  deriving DecidableEq

structure DocumentTable (υ σ : Type) where
  rows : List (DocumentRow υ σ)
  capacity : rows.length≤tableRows

/-! ## The response -/

structure MoneyResponse where
  amount : Decimal
  currency : String
  deriving DecidableEq

structure AgingBucket where
  bucket : String
  count : Nat
  amount : MoneyResponse
  deriving DecidableEq

structure PartyAmount where
  name : String
  amount : MoneyResponse
  deriving DecidableEq

inductive ReportKind where
  | debtors | creditors
  deriving DecidableEq

structure AgingReportResponse (υ : Type) where
  tenantId : υ
  dateFrom : CalendarDate
  dateTo : CalendarDate
  totalOutstanding : MoneyResponse
  agingBuckets : List AgingBucket
  topDebtors : List PartyAmount
  topCreditors : List PartyAmount
  deriving DecidableEq

inductive ReportError where
  | unprocessable (detail : String)
  | invalidOperation
  deriving DecidableEq

/-! ## The accumulation -/

inductive Bucket where
  | upTo30 | upTo60 | upTo90 | over90
  deriving DecidableEq

def Bucket.name : Bucket → String
  | .upTo30 => "0-30"
  | .upTo60 => "31-60"
  | .upTo90 => "61-90"
  | .over90 => "90+"

/-- `_EMPTY_BUCKETS`. -/
def emptyBuckets : List Bucket := [.upTo30,.upTo60,.upTo90,.over90]

def defaultCurrency : String := "INR"

def daysOverdue (dueDate today : CalendarDate) : Int := (today.toordinal : Int)-dueDate.toordinal

/-- `_classify_bucket`. -/
def classifyBucket (dueDate today : CalendarDate) : Bucket :=
  if daysOverdue dueDate today≤30 then .upTo30
  else if daysOverdue dueDate today≤60 then .upTo60
  else if daysOverdue dueDate today≤90 then .upTo90
  else .over90

variable {υ σ : Type}

/-- A row as the statement selects it. -/
structure OpenRow where
  totalAmount : Amount
  amountPaid : Amount
  dueDate : CalendarDate
  currency : String
  partyName : String
  deriving DecidableEq

def OpenRow.outstanding (r : OpenRow) : Decimal := r.totalAmount.value.sub r.amountPaid.value

structure Tally where
  count : Nat := 0
  amount : Decimal := noAmount

/-- The variables of the loop. -/
structure Aging where
  buckets : Bucket → Tally := fun _ => {}
  totals : Table String Decimal := []
  partyTotals : Table (String × String) Decimal := []
  currency : String := defaultCurrency

/-- Add an amount under a key, from zero. -/
def addTo {κ : Type} [DecidableEq κ] (d : Table κ Decimal) (k : κ) (x : Decimal) :
    Table κ Decimal := set d k (((get d k).getD noAmount).add x)

/-- The loop's body for a row with something outstanding. -/
def addOutstanding (today : CalendarDate) (a : Aging) (r : OpenRow) : Aging :=
  let bucket := classifyBucket r.dueDate today
  { buckets := fun b =>
      if b=bucket then ⟨(a.buckets b).count+1,(a.buckets b).amount.add r.outstanding⟩
      else a.buckets b
    totals := addTo a.totals r.currency r.outstanding
    partyTotals := addTo a.partyTotals (r.partyName,r.currency) r.outstanding
    currency := r.currency }

/-- One turn of the loop. -/
def addRow (today : CalendarDate) (a : Aging) (r : OpenRow) : Aging :=
  if r.outstanding.le noAmount then a else addOutstanding today a r

/-- Two places, where the digits fit. -/
def quantized (d : Decimal) : Except ReportError Decimal :=
  match d.quantize hundredths with
  | some d' => .ok d'
  | none => .error .invalidOperation

def agingBucket (a : Aging) (b : Bucket) : Except ReportError AgingBucket := do
  let amount ← quantized (a.buckets b).amount
  return ⟨b.name,(a.buckets b).count,amount,a.currency⟩

def partyAmount (e : (String × String) × Decimal) : Except ReportError PartyAmount := do
  let amount ← quantized e.2
  return ⟨e.1.1,amount,e.1.2⟩

/-- The five largest, in the order the loop met equal ones. -/
def topFive (parties : List PartyAmount) : List PartyAmount :=
  (parties.mergeSort fun p p' => p'.amount.amount.le p.amount.amount).take 5

/-- `_build_aging`. -/
def buildAging (today : CalendarDate) (rows : List OpenRow) (tenantId : υ)
    (dateFrom dateTo : CalendarDate) (kind : ReportKind) :
    Except ReportError (AgingReportResponse υ) := do
  let a := rows.foldl (addRow today) {}
  let aging ← emptyBuckets.mapM (agingBucket a)
  let parties ← a.partyTotals.mapM partyAmount
  let total ← quantized ((get a.totals a.currency).getD noAmount)
  return {
    tenantId := tenantId
    dateFrom := dateFrom
    dateTo := dateTo
    totalOutstanding := ⟨total,a.currency⟩
    agingBuckets := aging
    topDebtors := if kind=.debtors then topFive parties else []
    topCreditors := if kind=.creditors then topFive parties else [] }

/-! ## The endpoints -/

variable [DecidableEq υ] [DecidableEq σ]

/-- The open rows of a tenant issued within a period. -/
def openRows (openStatuses : List σ) (table : DocumentTable υ σ) (tenant : υ)
    (dateFrom dateTo : CalendarDate) : List OpenRow :=
  (table.rows.filter fun r => decide (r.tenantId=tenant) && decide (r.status∈openStatuses) &&
      decide (dateFrom.ordinal≤r.issueDate.ordinal) && decide (r.issueDate.ordinal≤dateTo.ordinal)).map
    fun r => ⟨r.totalAmount,r.amountPaid,r.dueDate,r.currency,r.partyName⟩

/-- The body the two endpoints share. -/
def documentsReport (openStatuses : List σ) (kind : ReportKind) (table : DocumentTable υ σ)
    (today : CalendarDate) (tenant : υ) (dateFrom dateTo : CalendarDate) :
    Except ReportError (AgingReportResponse υ) :=
  if dateTo.ordinal<dateFrom.ordinal then .error (.unprocessable "from must be on or before to")
  else buildAging today (openRows openStatuses table tenant dateFrom dateTo) tenant dateFrom dateTo
    kind

def openInvoiceStatuses : List InvoiceStatus := [.issued,.partiallyPaid]

def openBillStatuses : List BillStatus := [.received,.scheduled]

/-- `GET /reports/receivables`. -/
def receivablesReport (invoices : DocumentTable υ InvoiceStatus) (today : CalendarDate) (tenant : υ)
    (dateFrom dateTo : CalendarDate) : Except ReportError (AgingReportResponse υ) :=
  documentsReport openInvoiceStatuses .debtors invoices today tenant dateFrom dateTo

/-- `GET /reports/payables`. -/
def payablesReport (bills : DocumentTable υ BillStatus) (today : CalendarDate) (tenant : υ)
    (dateFrom dateTo : CalendarDate) : Except ReportError (AgingReportResponse υ) :=
  documentsReport openBillStatuses .creditors bills today tenant dateFrom dateTo

/-! ## What the loop adds up -/

/-- Hundredths outstanding. -/
def OpenRow.due (r : OpenRow) : Int := r.totalAmount.cents-r.amountPaid.cents

def OpenRow.bucket (today : CalendarDate) (r : OpenRow) : Bucket := classifyBucket r.dueDate today

/-- The rows with something outstanding. -/
def positives (rows : List OpenRow) : List OpenRow := rows.filter fun r => decide (0<r.due)

theorem outstanding_scaled (r : OpenRow) : Scaled hundredths r.outstanding r.due :=
  r.totalAmount.sub_scaled r.amountPaid

/-- The sum of what is outstanding. -/
def dueSum (rows : List OpenRow) : Int := (rows.map OpenRow.due).sum

theorem dueSum_snoc (rows : List OpenRow) (r : OpenRow) : dueSum (rows++[r])=dueSum rows+r.due := by
  unfold dueSum
  rw [List.map_append,List.sum_append]
  exact congrArg _ (Int.add_zero _)

/-- The variables of the loop after the rows done. -/
structure Tallied (today : CalendarDate) (done : List OpenRow) (a : Aging) : Prop where
  count : ∀ b,(a.buckets b).count=(group (OpenRow.bucket today) done b).length
  amount : ∀ b,Scaled hundredths (a.buckets b).amount (dueSum (group (OpenRow.bucket today) done b))
  total : ∀ c,Scaled hundredths ((get a.totals c).getD noAmount)
    (dueSum (group OpenRow.currency done c))
  parties : ∀ e∈a.partyTotals,∃ m,Scaled hundredths e.2 m ∧ 0≤ m ∧ m≤dueSum done
  currency : a.currency=(done.getLast?.map OpenRow.currency).getD defaultCurrency

theorem tallied_nil (today : CalendarDate) : Tallied today [] {} :=
  ⟨fun _ => rfl,fun _ => scaled_noAmount,fun _ => scaled_noAmount,
    List.forall_mem_nil _,rfl⟩

section

variable {today : CalendarDate} {done rows : List OpenRow} {a : Aging} {r : OpenRow}

/-- Adding a row to the group it belongs to. -/
theorem add_to_group {κ : Type} [DecidableEq κ] {key : OpenRow → κ} {d : Decimal}
    (hpos : ∀ r'∈done++[r],0<r'.due) (hfit : dueSum (done++[r])<10^precision)
    (hd : Scaled hundredths d (dueSum (group key done (key r)))) :
    Scaled hundredths (d.add r.outstanding) (dueSum (group key (done++[r]) (key r))) := by
  have hnonneg : ∀ r'∈done++[r],0≤r'.due := fun r' hr' => Int.le_of_lt (hpos r' hr')
  have hle : dueSum (group key (done++[r]) (key r))≤dueSum (done++[r]) := sum_filter_le hnonneg
  have hzero : 0≤dueSum (group key (done++[r]) (key r)) :=
    sum_nonneg (List.forall_mem_map.mpr fun r' hr' => hnonneg r' (List.mem_of_mem_filter hr'))
  rw [group_snoc,if_pos rfl,dueSum_snoc] at hle hzero ⊢
  exact hd.add hundredths_nonpos (outstanding_scaled r) (fits_of_bounds (by omega) (by omega))

theorem addOutstanding_buckets (b : Bucket) :
    (addOutstanding today a r).buckets b=
      if r.bucket today=b then ⟨(a.buckets b).count+1,(a.buckets b).amount.add r.outstanding⟩
      else a.buckets b := by
  unfold addOutstanding OpenRow.bucket
  dsimp only
  by_cases hb : classifyBucket r.dueDate today=b
  · rw [if_pos hb,if_pos hb.symm]
  · rw [if_neg hb,if_neg (Ne.symm hb)]

/-- One more row with something outstanding. -/
theorem Tallied.step (h : Tallied today done a) (hpos : ∀ r'∈done++[r],0<r'.due)
    (hfit : dueSum (done++[r])<10^precision) :
    Tallied today (done++[r]) (addOutstanding today a r) := by
  have hdone : ∀ r'∈done,0≤r'.due := fun r' hr' =>
    Int.le_of_lt (hpos r' (List.mem_append_left _ hr'))
  have hr : 0<r.due := hpos r (List.mem_append_right _ List.mem_cons_self)
  constructor
  · intro b
    rw [group_snoc,addOutstanding_buckets]
    by_cases hb : r.bucket today=b
    · rw [if_pos hb,if_pos hb,List.length_append,h.count]
      rfl
    · rw [if_neg hb,if_neg hb,h.count]
  · intro b
    rw [addOutstanding_buckets]
    by_cases hb : r.bucket today=b
    · subst hb
      rw [if_pos rfl]
      exact add_to_group hpos hfit (h.amount _)
    · rw [if_neg hb,group_snoc,if_neg hb]
      exact h.amount b
  · intro c
    unfold addOutstanding addTo
    dsimp only
    rw [get_set]
    by_cases hc : r.currency=c
    · subst hc
      rw [if_pos rfl]
      exact add_to_group hpos hfit (h.total _)
    · rw [if_neg hc,group_snoc,if_neg hc]
      exact h.total c
  · intro e he
    rw [dueSum_snoc]
    rcases mem_set he with rfl|hmem
    · obtain ⟨m,hm,hzero,hle⟩ : ∃ m,Scaled hundredths
          ((get a.partyTotals (r.partyName,r.currency)).getD noAmount) m ∧ 0≤ m ∧ m≤dueSum done := by
        cases hget : get a.partyTotals (r.partyName,r.currency) with
        | none => exact ⟨0,scaled_noAmount,Int.le_refl 0,sum_nonneg (List.forall_mem_map.mpr hdone)⟩
        | some x => exact h.parties _ (mem_of_get hget)
      rw [dueSum_snoc] at hfit
      have hadd := hm.add hundredths_nonpos (outstanding_scaled r)
        (fits_of_bounds (by omega) (by omega))
      exact ⟨m+r.due,hadd,by omega,by omega⟩
    · obtain ⟨m,hm,hzero,hle⟩ := h.parties e hmem
      exact ⟨m,hm,hzero,by omega⟩
  · rw [List.getLast?_concat]
    rfl

/-- The loop over rows with something outstanding keeps what each of its turns keeps. -/
theorem foldl_addOutstanding {I : List OpenRow → Aging → Prop}
    (hstep : ∀ done r a,I done a → (∀ r'∈done++[r],0<r'.due) → dueSum (done++[r])<10^precision →
      I (done++[r]) (addOutstanding today a r))
    (h : I done a) (hpos : ∀ r'∈done++rows,0<r'.due) (hfit : dueSum (done++rows)<10^precision) :
    I (done++rows) (rows.foldl (addOutstanding today) a) := by
  induction rows generalizing done a with
  | nil => rwa [List.append_nil]
  | cons r rows ih =>
    have hsplit : done++r::rows=(done++[r])++rows := by rw [List.append_assoc]; rfl
    rw [hsplit] at hpos hfit ⊢
    have hrest : 0≤dueSum rows :=
      sum_nonneg (List.forall_mem_map.mpr fun r' hr' =>
        Int.le_of_lt (hpos r' (List.mem_append_right _ hr')))
    have hsum : dueSum ((done++[r])++rows)=dueSum (done++[r])+dueSum rows := by
      unfold dueSum
      rw [List.map_append,List.sum_append]
    have hhead : I (done++[r]) (addOutstanding today a r) :=
      hstep done r a h (fun r' hr' => hpos r' (List.mem_append_left _ hr')) (by omega)
    exact ih hhead hpos hfit

theorem Tallied.foldl (h : Tallied today done a) (hpos : ∀ r'∈done++rows,0<r'.due)
    (hfit : dueSum (done++rows)<10^precision) :
    Tallied today (done++rows) (rows.foldl (addOutstanding today) a) :=
  foldl_addOutstanding (fun _ _ _ hdone => hdone.step) h hpos hfit

/-- Rows with nothing outstanding leave the variables as they are. -/
theorem foldl_addRow (rows : List OpenRow) (a : Aging) :
    rows.foldl (addRow today) a=(positives rows).foldl (addOutstanding today) a := by
  have hle : ∀ r : OpenRow,r.outstanding.le noAmount=decide (r.due≤0) := fun r =>
    (outstanding_scaled r).le hundredths_nonpos scaled_noAmount
  induction rows generalizing a with
  | nil => rfl
  | cons r rows ih =>
    rw [List.foldl_cons,ih]
    unfold addRow positives
    rw [hle,List.filter_cons]
    by_cases hr : 0<r.due
    · rw [if_neg (by simpa using hr),if_pos (decide_eq_true hr),List.foldl_cons]
    · rw [if_pos (by simpa using hr),if_neg (by simpa using hr)]

/-! ## The report of a table -/

/-- The days past due a bucket stands for. -/
def Bucket.Covers : Bucket → Int → Prop
  | .upTo30,days => days≤30
  | .upTo60,days => 31≤days ∧ days≤60
  | .upTo90,days => 61≤days ∧ days≤90
  | .over90,days => 91≤days

instance (b : Bucket) (days : Int) : Decidable (b.Covers days) := by
  cases b <;> unfold Bucket.Covers <;> infer_instance

theorem covers_iff {b : Bucket} :
    b.Covers (daysOverdue r.dueDate today) ↔ r.bucket today=b := by
  unfold OpenRow.bucket classifyBucket
  generalize daysOverdue r.dueDate today=days
  cases b <;> unfold Bucket.Covers <;> grind

/-- A row with something outstanding that a bucket covers. -/
def OpenRow.countsIn (today : CalendarDate) (b : Bucket) (r : OpenRow) : Bool :=
  decide (0<r.due) && decide (b.Covers (daysOverdue r.dueDate today))

/-- The report conserves the money of its rows. -/
structure Conserves (today : CalendarDate) (rows : List OpenRow) (r : AgingReportResponse υ) :
    Prop where
  amounts : (r.agingBuckets.map fun b => b.amount.amount.coefficientAt hundredths).sum=
    r.totalOutstanding.amount.coefficientAt hundredths
  counts : (r.agingBuckets.map AgingBucket.count).sum=rows.countP fun row => decide (0<row.due)
  oneBucket : ∀ row∈rows,0<row.due → ∃! b : Bucket,b.Covers (daysOverdue row.dueDate today)
  perBucket : r.agingBuckets.map (fun b => (b.bucket,b.count))=
    emptyBuckets.map fun b => (b.name,rows.countP (OpenRow.countsIn today b))
  unmixed : ∀ b,∀ row∈rows,∀ row'∈rows,row.countsIn today b=true → row'.countsIn today b=true →
    row.currency=row'.currency

/-- Everything outstanding is in one currency. -/
def OneCurrency (rows : List OpenRow) : Prop :=
  ∀ row∈rows,∀ row'∈rows,0<row.due → 0<row'.due → row.currency=row'.currency

theorem mem_positives : r∈positives rows ↔ r∈rows ∧ 0<r.due := by
  unfold positives
  rw [List.mem_filter,decide_eq_true_iff]

theorem quantized_scaled {d : Decimal} {m : Int} (h : Scaled hundredths d m)
    (hfit : m.natAbs<10^precision) : quantized d=.ok ⟨m,hundredths⟩ := by
  unfold quantized
  rw [h.quantize hundredths_nonpos hfit]

theorem dueSum_group_le {κ : Type} [DecidableEq κ] (key : OpenRow → κ) (k : κ)
    (hpos : ∀ r∈rows,0<r.due) :
    0≤dueSum (group key rows k) ∧ dueSum (group key rows k)≤dueSum rows := by
  have hnonneg : ∀ r∈rows,0≤r.due := fun r hr => Int.le_of_lt (hpos r hr)
  exact ⟨sum_nonneg (List.forall_mem_map.mpr fun r hr => hnonneg r (List.mem_of_mem_filter hr)),
    sum_filter_le hnonneg⟩

/-- The bucket the report shows. -/
def shownBucket (today : CalendarDate) (rows : List OpenRow) (currency : String) (b : Bucket) :
    AgingBucket :=
  ⟨b.name,(group (OpenRow.bucket today) rows b).length,
    ⟨⟨dueSum (group (OpenRow.bucket today) rows b),hundredths⟩,currency⟩⟩

/-- The currency of the last row with something outstanding. -/
def lastCurrency (rows : List OpenRow) : String :=
  ((positives rows).getLast?.map OpenRow.currency).getD defaultCurrency

/-- The report's buckets add up their rows, its total the rows of the last currency. -/
theorem buildAging_exact (today : CalendarDate) {rows : List OpenRow}
    (hfit : dueSum (positives rows)<10^precision) (tenant : υ) (dateFrom dateTo : CalendarDate)
    (kind : ReportKind) :
    ∃ r,buildAging today rows tenant dateFrom dateTo kind=.ok r ∧
      r.agingBuckets=emptyBuckets.map (shownBucket today (positives rows) (lastCurrency rows)) ∧
      r.totalOutstanding=
        ⟨⟨dueSum (group OpenRow.currency (positives rows) (lastCurrency rows)),hundredths⟩,
          lastCurrency rows⟩ := by
  have hpos : ∀ r∈positives rows,0<r.due := fun r hr => (mem_positives.mp hr).2
  have h : Tallied today (positives rows) (rows.foldl (addRow today) {}) := by
    rw [foldl_addRow]
    exact (tallied_nil today).foldl hpos hfit
  have hfits : ∀ m,0≤ m → m≤dueSum (positives rows) → m.natAbs<10^precision :=
    fun m hzero hle => fits_of_bounds (by omega) (by omega)
  have hcurrency : (rows.foldl (addRow today) {}).currency=lastCurrency rows := h.currency
  have hbuckets : emptyBuckets.mapM (agingBucket (rows.foldl (addRow today) {}))=
      .ok (emptyBuckets.map (shownBucket today (positives rows) (lastCurrency rows))) := by
    rw [mapM_ok,List.forall₂_map_right_iff,List.forall₂_same]
    intro b _
    obtain ⟨hzero,hle⟩ := dueSum_group_le (OpenRow.bucket today) b hpos
    unfold agingBucket shownBucket
    rw [quantized_scaled (h.amount b) (hfits _ hzero hle),h.count b,hcurrency]
    rfl
  obtain ⟨parties,hparties⟩ : ∃ parties,
      (rows.foldl (addRow today) {}).partyTotals.mapM partyAmount=.ok parties := by
    obtain ⟨parties,hforall⟩ : ∃ parties,List.Forall₂ (fun e p => partyAmount e=.ok p)
        (rows.foldl (addRow today) {}).partyTotals parties := by
      refine exists_forall₂ fun e he => ?_
      obtain ⟨m,hm,hzero,hle⟩ := h.parties e he
      unfold partyAmount
      rw [quantized_scaled hm (hfits m hzero hle)]
      exact ⟨_,rfl⟩
    exact ⟨parties,mapM_ok.mpr hforall⟩
  obtain ⟨hzero,hle⟩ := dueSum_group_le OpenRow.currency (lastCurrency rows) hpos
  have htotal := quantized_scaled (h.total (lastCurrency rows)) (hfits _ hzero hle)
  unfold buildAging
  dsimp only
  rw [hbuckets,hparties,hcurrency,htotal]
  exact ⟨_,rfl,rfl,rfl⟩

theorem countP_group (b : Bucket) :
    rows.countP (OpenRow.countsIn today b)=(group (OpenRow.bucket today) (positives rows) b).length := by
  unfold group positives
  rw [List.filter_filter,List.countP_eq_length_filter]
  congr 1
  refine List.filter_congr fun r _ => ?_
  unfold OpenRow.countsIn
  rw [Bool.and_comm]
  congr 1
  exact decide_eq_decide.mpr covers_iff

/-- A report with exact buckets and total conserves money for one currency only. -/
theorem conserves_iff {response : AgingReportResponse υ}
    (hbuckets : response.agingBuckets=
      emptyBuckets.map (shownBucket today (positives rows) (lastCurrency rows)))
    (htotal : response.totalOutstanding=
      ⟨⟨dueSum (group OpenRow.currency (positives rows) (lastCurrency rows)),hundredths⟩,
        lastCurrency rows⟩) : Conserves today rows response ↔ OneCurrency rows := by
  have hpos : ∀ r∈positives rows,0<r.due := fun r hr => (mem_positives.mp hr).2
  have hall : ∀ r∈positives rows,r.bucket today∈emptyBuckets := by
    intro r _
    cases r.bucket today <;> decide
  have hamounts : (response.agingBuckets.map fun b => b.amount.amount.coefficientAt hundredths).sum=
      dueSum (positives rows) := by
    rw [hbuckets,List.map_map]
    have hshown : ((fun b : AgingBucket => b.amount.amount.coefficientAt hundredths) ∘
        shownBucket today (positives rows) (lastCurrency rows))=
        fun b => dueSum (group (OpenRow.bucket today) (positives rows) b) :=
      funext fun b => coefficientAt_self _ hundredths
    rw [hshown]
    exact sum_groups (OpenRow.bucket today) OpenRow.due (by decide) hall
  have hshare : response.totalOutstanding.amount.coefficientAt hundredths=
      dueSum (group OpenRow.currency (positives rows) (lastCurrency rows)) := by
    rw [htotal]
    exact coefficientAt_self _ hundredths
  constructor
  · intro h row hrow row' hrow' hdue hdue'
    have hsum := h.amounts
    rw [hamounts,hshare] at hsum
    have hsame := all_of_sum_filter hpos hsum.symm
    have hcurrency : row.currency=lastCurrency rows :=
      of_decide_eq_true (hsame row (mem_positives.mpr ⟨hrow,hdue⟩))
    have hcurrency' : row'.currency=lastCurrency rows :=
      of_decide_eq_true (hsame row' (mem_positives.mpr ⟨hrow',hdue'⟩))
    rw [hcurrency,hcurrency']
  · intro h
    have hsame : ∀ r∈positives rows,r.currency=lastCurrency rows := by
      intro r hr
      unfold lastCurrency
      cases hlast : (positives rows).getLast? with
      | none =>
        rw [List.getLast?_eq_none_iff.mp hlast] at hr
        exact (List.not_mem_nil hr).elim
      | some r' =>
        obtain ⟨hmem,hdue⟩ := mem_positives.mp hr
        obtain ⟨hmem',hdue'⟩ := mem_positives.mp (List.mem_of_getLast? hlast)
        exact h r hmem r' hmem' hdue hdue'
    constructor
    · have hgroup : group OpenRow.currency (positives rows) (lastCurrency rows)=positives rows :=
        List.filter_eq_self.mpr fun r hr => decide_eq_true (hsame r hr)
      rw [hamounts,hshare,hgroup]
    · have hcount : rows.countP (fun row => decide (0<row.due))=(positives rows).length :=
        List.countP_eq_length_filter
      rw [hcount,hbuckets,List.map_map]
      exact sum_lengths (OpenRow.bucket today) (by decide) hall
    · intro row _ _
      exact ⟨row.bucket today,covers_iff.mpr rfl,fun b hb => (covers_iff.mp hb).symm⟩
    · rw [hbuckets,List.map_map]
      refine List.map_congr_left fun b _ => ?_
      rw [countP_group]
      rfl
    · intro b row hrow row' hrow' hin hin'
      unfold OpenRow.countsIn at hin hin'
      rw [Bool.and_eq_true,decide_eq_true_iff] at hin hin'
      exact h row hrow row' hrow' hin.1 hin'.1

end

/-- What the rows of a table owe fits the context. -/
theorem positives_fit {rows : List OpenRow} (h : rows.length≤tableRows) :
    dueSum (positives rows)<10^precision := by
  have hle : ∀ c∈(positives rows).map OpenRow.due,c≤2*10^14 := by
    refine List.forall_mem_map.mpr fun r _ => ?_
    have htotal := r.totalAmount.fits
    have hpaid := r.amountPaid.fits
    unfold OpenRow.due Amount.cents
    omega
  refine sum_fits hle ?_
  rw [List.length_map]
  exact (List.length_filter_le _ _).trans h

theorem openRows_fit (openStatuses : List σ) (table : DocumentTable υ σ) (tenant : υ)
    (dateFrom dateTo : CalendarDate) :
    dueSum (positives (openRows openStatuses table tenant dateFrom dateTo))<10^precision := by
  refine positives_fit (le_trans ?_ table.capacity)
  unfold openRows
  rw [List.length_map]
  exact List.length_filter_le _ _

/-- For every table, tenant and period, the report of the open rows, of invoices
or bills, conserves money if and only if what they owe is in one currency. -/
theorem agingReport_conserves_iff (openStatuses : List σ) (kind : ReportKind)
    (table : DocumentTable υ σ) (today : CalendarDate) (tenant : υ) {dateFrom dateTo : CalendarDate}
    (hperiod : dateFrom.ordinal≤dateTo.ordinal) :
    ∃ r,documentsReport openStatuses kind table today tenant dateFrom dateTo=.ok r ∧
      (Conserves today (openRows openStatuses table tenant dateFrom dateTo) r ↔
        OneCurrency (openRows openStatuses table tenant dateFrom dateTo)) := by
  obtain ⟨r,hr,hbuckets,htotal⟩ := buildAging_exact today
    (openRows_fit openStatuses table tenant dateFrom dateTo) tenant dateFrom dateTo kind
  refine ⟨r,?_,conserves_iff hbuckets htotal⟩
  unfold documentsReport
  rw [if_neg (Nat.not_lt.mpr hperiod)]
  exact hr

/-- An invoice of an amount and a currency, issued and due on a date. -/
def invoiceOf (cents : Int) (hfits : cents.natAbs<10^14) (currency : String) (date : CalendarDate) :
    DocumentRow Nat InvoiceStatus :=
  ⟨7,.issued,date,date,⟨⟨cents,hundredths⟩,rfl,hfits⟩,⟨noAmount,rfl,by decide⟩,currency,"Client"⟩

theorem agingReport_conserves_rupees :
    let today : CalendarDate := ⟨2026,4,1,by decide⟩
    let table : DocumentTable Nat InvoiceStatus :=
      ⟨[invoiceOf 10000 (by decide) "INR" today],by decide⟩
    ∃ r,documentsReport openInvoiceStatuses .debtors table today 7 today today=.ok r ∧
      (Conserves today (openRows openInvoiceStatuses table 7 today today) r ↔
        OneCurrency (openRows openInvoiceStatuses table 7 today today)) := by
  intro today table
  exact agingReport_conserves_iff openInvoiceStatuses .debtors table today 7 (Nat.le_refl _)

/-- A hundred rupees and fifty dollars become a bucket of a hundred and fifty
dollars beside a total of fifty. -/
theorem mixedTenant_notConserved :
    let today : CalendarDate := ⟨2026,4,1,by decide⟩
    let table : DocumentTable Nat InvoiceStatus :=
      ⟨[invoiceOf 10000 (by decide) "INR" today,invoiceOf 5000 (by decide) "USD" today],by decide⟩
    ∃ r,receivablesReport table today 7 today today=.ok r ∧
      ¬Conserves today (openRows openInvoiceStatuses table 7 today today) r := by
  intro today table
  obtain ⟨r,hr,hbuckets,htotal⟩ := buildAging_exact today
    (openRows_fit openInvoiceStatuses table 7 today today) 7 today today .debtors
  have hmem : ∀ row∈table.rows,(⟨row.totalAmount,row.amountPaid,row.dueDate,row.currency,
      row.partyName⟩ : OpenRow)∈openRows openInvoiceStatuses table 7 today today := by
    intro row hrow
    refine List.mem_map_of_mem (List.mem_filter.mpr ⟨hrow,?_⟩)
    rcases List.mem_cons.mp hrow with rfl|hrow
    · decide
    · rw [List.mem_singleton.mp hrow]
      decide
  have hreport : receivablesReport table today 7 today today=.ok r := by
    unfold receivablesReport documentsReport
    rw [if_neg (Nat.lt_irrefl _)]
    exact hr
  refine ⟨r,hreport,fun h => ?_⟩
  have hcurrency := (conserves_iff hbuckets htotal).mp h _ (hmem _ List.mem_cons_self) _
    (hmem _ (List.mem_cons_of_mem _ List.mem_cons_self)) (by decide) (by decide)
  exact absurd hcurrency (by decide)

end Voyagent.AgingReport
