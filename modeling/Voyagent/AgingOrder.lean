import Mathlib.Data.List.Dedup
import Voyagent.AgingReport
import Voyagent.DecimalValues
import Voyagent.TopRanks

/-!
# The aging report and the order of its rows

The statements that feed the report ask for no order. What the loop adds up per
bucket and per party does not depend on one, but the currency is that of the
last row, and equal parties are listed in the order they are met.
-/

namespace Voyagent.AgingOrder

open CalendarDates Decimals DecimalValues AmountColumns FallibleResults GroupedSums KeyedMap
open AgingReport TopRanks

/-- Rows as a statement selects them from a table. -/
structure SelectedRows where
  rows : List OpenRow
  capacity : rows.length≤tableRows

/-- The key of the totals by party. -/
def partyOf (r : OpenRow) : String × String := (r.partyName,r.currency)

/-- What a party owes. -/
def partyDue (rows : List OpenRow) (k : String × String) : Int := dueSum (group partyOf rows k)

/-- A party as the report lists it. -/
def shownParty (rows : List OpenRow) (k : String × String) : PartyAmount :=
  ⟨k.1,⟨⟨partyDue rows k,hundredths⟩,k.2⟩⟩

/-- The totals by party after the rows done. -/
structure Parties (done : List OpenRow) (totals : Table (String × String) Decimal) : Prop where
  nodup : (totals.map Prod.fst).Nodup
  listed : ∀ k,k∈totals.map Prod.fst ↔ ∃ r∈done,partyOf r=k
  first : totals.head?.map Prod.fst=done.head?.map partyOf
  due : ∀ e∈totals,Scaled hundredths e.2 (partyDue done e.1)

/-- The fields of a report that do not come from the rows. -/
structure Request (υ : Type) where
  tenant : υ
  dateFrom : CalendarDate
  dateTo : CalendarDate
  kind : ReportKind

/-- The report, with the parties in the order they are met. -/
def reportOf {υ : Type} (today : CalendarDate) (rows : List OpenRow) (parties : List (String × String))
    (q : Request υ) : AgingReportResponse υ :=
  let top := topFive (parties.map (shownParty (positives rows)))
  { tenantId := q.tenant
    dateFrom := q.dateFrom
    dateTo := q.dateTo
    totalOutstanding :=
      ⟨⟨dueSum (group OpenRow.currency (positives rows) (lastCurrency rows)),hundredths⟩,
        lastCurrency rows⟩
    agingBuckets := emptyBuckets.map (shownBucket today (positives rows) (lastCurrency rows))
    topDebtors := if q.kind=.debtors then top else []
    topCreditors := if q.kind=.creditors then top else [] }

/-- Storing keeps the first key. -/
theorem head_set {κ α : Type} [DecidableEq κ] (d : Table κ α) (k : κ) (v : α) :
    (set d k v).head?.map Prod.fst=(d.head?.map Prod.fst).or (some k) := by
  cases d with
  | nil => rfl
  | cons e d =>
    obtain ⟨j,w⟩ := e
    unfold KeyedMap.set
    split
    · rename_i hj
      rw [hj]
      rfl
    · rfl

theorem mem_keys_set {κ α : Type} [DecidableEq κ] (d : Table κ α) (k j : κ) (v : α) :
    j∈(set d k v).map Prod.fst ↔ j∈d.map Prod.fst ∨ k=j := by
  have hnot : j∉(set d k v).map Prod.fst ↔ j∉d.map Prod.fst ∧ k≠j := by
    rw [← get_eq_none,← get_eq_none,get_set]
    split
    · rename_i hk
      exact iff_of_false (Option.some_ne_none _) fun h => h.2 hk
    · rename_i hk
      exact (and_iff_left hk).symm
  rw [← not_iff_not,hnot,not_or]

section Loop

variable {today : CalendarDate} {done rows : List OpenRow} {a : Aging} {r : OpenRow}
  {totals : Table (String × String) Decimal}

/-- One more row with something outstanding. -/
theorem Parties.step (h : Parties done totals) (hpos : ∀ r'∈done++[r],0<r'.due)
    (hfit : dueSum (done++[r])<10^precision) :
    Parties (done++[r]) (addTo totals (partyOf r) r.outstanding) := by
  refine ⟨nodup_set h.nodup _ _,fun k => ?_,?_,fun e he => ?_⟩
  · rw [addTo,mem_keys_set,h.listed]
    simp only [List.mem_append,List.mem_singleton,or_and_right,exists_or,exists_eq_left]
  · rw [addTo,head_set,h.first]
    cases done <;> rfl
  · obtain ⟨k,x⟩ := e
    have hx : KeyedMap.get (addTo totals (partyOf r) r.outstanding) k=some x :=
      (mem_iff_get (nodup_set h.nodup _ _)).mp he
    rw [addTo,get_set] at hx
    unfold partyDue
    by_cases hk : partyOf r=k
    · subst hk
      rw [if_pos rfl] at hx
      cases hx
      refine add_to_group hpos hfit ?_
      cases hget : KeyedMap.get totals (partyOf r) with
      | some x => exact h.due _ (mem_of_get hget)
      | none =>
        have habsent := (h.listed (partyOf r)).not.mp (get_eq_none.mp hget)
        have hempty : group partyOf done (partyOf r)=[] := by
          refine List.filter_eq_nil_iff.mpr fun r' hr' hsame => ?_
          exact habsent ⟨r',hr',of_decide_eq_true hsame⟩
        rw [hempty]
        exact scaled_noAmount
    · rw [if_neg hk] at hx
      rw [group_snoc,if_neg hk]
      exact h.due _ (mem_of_get hx)

theorem Parties.foldl (h : Parties done a.partyTotals) (hpos : ∀ r'∈done++rows,0<r'.due)
    (hfit : dueSum (done++rows)<10^precision) :
    Parties (done++rows) (rows.foldl (addOutstanding today) a).partyTotals :=
  foldl_addOutstanding (I:=fun done a => Parties done a.partyTotals) (fun _ _ _ hdone => hdone.step)
    h hpos hfit

theorem SelectedRows.fits (s : SelectedRows) : dueSum (positives s.rows)<10^precision :=
  positives_fit s.capacity

/-- The report in closed form. -/
theorem buildAging_eq {υ : Type} [DecidableEq υ] (today : CalendarDate) (s : SelectedRows) (q : Request υ) :
    ∃ parties,parties.Nodup ∧ (∀ k,k∈parties ↔ ∃ r∈positives s.rows,partyOf r=k) ∧
      parties.head?=(positives s.rows).head?.map partyOf ∧
      buildAging today s.rows q.tenant q.dateFrom q.dateTo q.kind=
        .ok (reportOf today s.rows parties q) := by
  have hpos : ∀ r∈positives s.rows,0<r.due := fun r hr => (mem_positives.mp hr).2
  have hstart : Parties [] ({} : Aging).partyTotals :=
    ⟨List.nodup_nil,fun k => iff_of_false List.not_mem_nil nofun,rfl,List.forall_mem_nil _⟩
  have htotals : Parties (positives s.rows) (s.rows.foldl (addRow today) {}).partyTotals := by
    rw [foldl_addRow]
    exact hstart.foldl hpos s.fits
  obtain ⟨response,hresponse,hbuckets,htotal⟩ := buildAging_exact today s.fits q.tenant q.dateFrom
    q.dateTo q.kind
  have hparties : (s.rows.foldl (addRow today) {}).partyTotals.mapM partyAmount=
      .ok (((s.rows.foldl (addRow today) {}).partyTotals.map Prod.fst).map
        (shownParty (positives s.rows))) := by
    rw [mapM_ok,List.map_map,List.forall₂_map_right_iff,List.forall₂_same]
    intro e he
    obtain ⟨hzero,hle⟩ := dueSum_group_le partyOf e.1 hpos
    have hfit := s.fits
    unfold partyAmount
    rw [quantized_scaled (htotals.due e he) (fits_of_bounds (by unfold partyDue; omega)
      (by unfold partyDue; omega))]
    rfl
  refine ⟨_,htotals.nodup,htotals.listed,?_,?_⟩
  · rw [← htotals.first,List.head?_map]
  · unfold buildAging at hresponse ⊢
    dsimp only at hresponse ⊢
    rw [hparties] at hresponse ⊢
    obtain ⟨aging,haging,hresponse⟩ := bind_ok.mp hresponse
    obtain ⟨listed,hlisted,hresponse⟩ := bind_ok.mp hresponse
    obtain ⟨total,hquantized,hresponse⟩ := bind_ok.mp hresponse
    cases hlisted
    cases hresponse
    have haging' : aging=emptyBuckets.map (shownBucket today (positives s.rows) (lastCurrency s.rows)) :=
      hbuckets
    have htotal' : (⟨total,(s.rows.foldl (addRow today) {}).currency⟩ : MoneyResponse)=
        ⟨⟨dueSum (group OpenRow.currency (positives s.rows) (lastCurrency s.rows)),hundredths⟩,
          lastCurrency s.rows⟩ := htotal
    rw [haging,hquantized]
    unfold reportOf
    rw [← haging',← htotal']
    rfl

end Loop

/-! ## Rows in another order -/

section Order

variable {rows rows' : List OpenRow}

theorem positives_perm (h : rows.Perm rows') : (positives rows).Perm (positives rows') := h.filter _

theorem dueSum_group_perm {κ : Type} [DecidableEq κ] (key : OpenRow → κ) (h : rows.Perm rows') (k : κ) :
    dueSum (group key rows k)=dueSum (group key rows' k) := ((h.filter _).map _).sum_eq

theorem shownParty_perm (h : rows.Perm rows') : shownParty rows=shownParty rows' := by
  funext k
  unfold shownParty partyDue
  rw [dueSum_group_perm partyOf h]

theorem shownBucket_perm (today : CalendarDate) (h : rows.Perm rows') (currency : String) :
    shownBucket today rows currency=shownBucket today rows' currency := by
  funext b
  have hlength : (group (OpenRow.bucket today) rows b).length=
      (group (OpenRow.bucket today) rows' b).length := (h.filter _).length_eq
  unfold shownBucket
  rw [dueSum_group_perm (OpenRow.bucket today) h,hlength]

/-- The amount by which parties are ranked. -/
def rank (p : PartyAmount) : ℚ := value p.amount.amount

theorem topFive_eq (parties : List PartyAmount) : topFive parties=topRanked 5 rank parties := by
  have hle : (fun p p' : PartyAmount => p'.amount.amount.le p.amount.amount)=ranksFirst rank := by
    funext p p'
    exact le_eq _ _
  unfold topFive
  rw [hle]
  rfl

theorem rank_shownParty (rows : List OpenRow) (k : String × String) :
    rank (shownParty rows k)=(partyDue rows k : ℚ)*(10 : ℚ)^hundredths := rfl

variable {k k' : String × String}

theorem rank_lt :
    rank (shownParty rows k) < rank (shownParty rows k') ↔ partyDue rows k<partyDue rows k' := by
  rw [rank_shownParty,rank_shownParty,mul_lt_mul_iff_of_pos_right (ten_zpow_pos _),Int.cast_lt]

theorem rank_eq :
    rank (shownParty rows k)=rank (shownParty rows k') ↔ partyDue rows k=partyDue rows k' := by
  rw [rank_shownParty,rank_shownParty,mul_left_inj' (ten_zpow_pos _).ne',Int.cast_inj]

/-- A party is listed under its name and currency. -/
theorem shownParty_injective (rows : List OpenRow) : Function.Injective (shownParty rows) := by
  intro k k' h
  have hname := congrArg PartyAmount.name h
  have hcurrency := congrArg (fun p => p.amount.currency) h
  exact Prod.ext hname hcurrency

/-- How many parties owe more. -/
def owingMore (rows : List OpenRow) (k : String × String) : Nat :=
  (rows.map partyOf).dedup.countP fun k' => decide (partyDue rows k<partyDue rows k')

/-- Parties that owe the same have at least five others owe more. -/
def TiesUnlisted (rows : List OpenRow) : Prop :=
  ∀ r∈rows,∀ r'∈rows,partyOf r≠partyOf r' → partyDue rows (partyOf r)=partyDue rows (partyOf r') →
    5≤ owingMore rows (partyOf r)

variable {parties : List (String × String)}

/-- The parties above another in the ranking are those that owe more. -/
theorem above_shown (hnodup : parties.Nodup) (hlisted : ∀ k,k∈parties ↔ ∃ r∈rows,partyOf r=k)
    (k : String × String) :
    above rank (parties.map (shownParty rows)) (rank (shownParty rows k))=owingMore rows k := by
  have hperm : parties.Perm (rows.map partyOf).dedup := by
    refine (List.perm_ext_iff_of_nodup hnodup (List.nodup_dedup _)).mpr fun j => ?_
    rw [hlisted,List.mem_dedup,List.mem_map]
  unfold above owingMore
  rw [List.countP_map,← hperm.countP_eq]
  congr 1
  funext j
  exact decide_eq_decide.mpr rank_lt

theorem tiesBelow_iff (hnodup : parties.Nodup) (hlisted : ∀ k,k∈parties ↔ ∃ r∈rows,partyOf r=k) :
    TiesBelow 5 rank (parties.map (shownParty rows)) ↔ TiesUnlisted rows := by
  constructor
  · intro h r hr r' hr' hne hsame
    have hmem : ∀ r∈rows,shownParty rows (partyOf r)∈parties.map (shownParty rows) := fun r hr =>
      List.mem_map_of_mem ((hlisted _).mpr ⟨r,hr,rfl⟩)
    rw [← above_shown hnodup hlisted]
    exact h _ (hmem r hr) _ (hmem r' hr') ((shownParty_injective rows).ne hne) (rank_eq.mpr hsame)
  · intro h x hx y hy hne hsame
    obtain ⟨k,hk,rfl⟩ := List.mem_map.mp hx
    obtain ⟨k',hk',rfl⟩ := List.mem_map.mp hy
    obtain ⟨r,hr,rfl⟩ := (hlisted k).mp hk
    obtain ⟨r',hr',rfl⟩ := (hlisted k').mp hk'
    rw [above_shown hnodup hlisted]
    exact h r hr r' hr' (fun heq => hne (by rw [heq])) (rank_eq.mp hsame)

variable {r : OpenRow}

/-- Where everything owed is in one currency, that is the currency of any of it. -/
theorem lastCurrency_eq (h : OneCurrency rows) (hr : r∈positives rows) :
    lastCurrency rows=r.currency := by
  unfold lastCurrency
  cases hlast : (positives rows).getLast? with
  | none =>
    rw [List.getLast?_eq_none_iff.mp hlast] at hr
    exact (List.not_mem_nil hr).elim
  | some r' =>
    obtain ⟨hmem,hdue⟩ := mem_positives.mp hr
    obtain ⟨hmem',hdue'⟩ := mem_positives.mp (List.mem_of_getLast? hlast)
    exact h r' hmem' r hmem hdue' hdue

theorem lastCurrency_perm (h : OneCurrency rows) (hperm : rows'.Perm rows) :
    lastCurrency rows'=lastCurrency rows := by
  have h' : OneCurrency rows' := fun r hr r' hr' =>
    h r (hperm.mem_iff.mp hr) r' (hperm.mem_iff.mp hr')
  cases hpositives : positives rows' with
  | nil =>
    have hnil := positives_perm hperm
    rw [hpositives,List.nil_perm] at hnil
    unfold lastCurrency
    rw [hpositives,hnil]
  | cons r rest =>
    have hr : r∈positives rows' := by
      rw [hpositives]
      exact List.mem_cons_self
    rw [lastCurrency_eq h' hr,lastCurrency_eq h ((positives_perm hperm).mem_iff.mp hr)]

/-- The rows of a statement in another order. -/
def SelectedRows.reorder (s : SelectedRows) {rows : List OpenRow} (h : rows.Perm s.rows) : SelectedRows :=
  ⟨rows,h.length_eq ▸ s.capacity⟩

variable {υ : Type} [DecidableEq υ]

/-- One currency and no listed tie leave the report as it is. -/
theorem report_of_perm (today : CalendarDate) (s s' : SelectedRows) (q : Request υ)
    (hperm : s'.rows.Perm s.rows) (hcurrency : OneCurrency s.rows)
    (hties : TiesUnlisted (positives s.rows)) :
    buildAging today s'.rows q.tenant q.dateFrom q.dateTo q.kind=
      buildAging today s.rows q.tenant q.dateFrom q.dateTo q.kind := by
  obtain ⟨parties,hnodup,hlisted,-,hreport⟩ := buildAging_eq today s q
  obtain ⟨parties',hnodup',hlisted',-,hreport'⟩ := buildAging_eq today s' q
  have hpositives := positives_perm hperm
  have hlast := lastCurrency_perm hcurrency hperm
  have hparties : parties.Perm parties' := by
    refine (List.perm_ext_iff_of_nodup hnodup hnodup').mpr fun k => ?_
    rw [hlisted,hlisted']
    exact exists_congr fun r => and_congr_left fun _ => hpositives.mem_iff.symm
  have htop : topFive (parties'.map (shownParty (positives s.rows)))=
      topFive (parties.map (shownParty (positives s.rows))) := by
    rw [topFive_eq,topFive_eq]
    exact (topRanked_perm (hparties.map _) ((tiesBelow_iff hnodup hlisted).mpr hties)).symm
  rw [hreport,hreport']
  unfold reportOf
  rw [hlast,shownParty_perm hpositives,shownBucket_perm today hpositives,
    dueSum_group_perm OpenRow.currency hpositives,htop]

/-- The currency of a report is that of its last row. -/
theorem lastCurrency_snoc (rows : List OpenRow) (hr : 0<r.due) :
    lastCurrency (rows++[r])=r.currency := by
  have hpositives : positives (rows++[r])=positives rows++[r] := by
    unfold positives
    rw [List.filter_append,List.filter_singleton,decide_eq_true hr]
    rfl
  unfold lastCurrency
  rw [hpositives,List.getLast?_concat]
  rfl

theorem positives_cons (rows : List OpenRow) (hr : 0<r.due) :
    positives (r::rows)=r::positives rows := List.filter_cons_of_pos (decide_eq_true hr)

omit [DecidableEq υ] in
/-- One of the two lists shows the parties. -/
theorem listed_reportOf (today : CalendarDate) (rows : List OpenRow) (parties : List (String × String))
    (q : Request υ) :
    (reportOf today rows parties q).topDebtors++(reportOf today rows parties q).topCreditors=
      topFive (parties.map (shownParty (positives rows))) := by
  unfold reportOf
  cases q.kind with
  | debtors => exact List.append_nil _
  | creditors => rfl

/-- The party of the first row stands right after those that owe more. -/
theorem listed_first (hnodup : parties.Nodup) (hlisted : ∀ k,k∈parties ↔ ∃ r∈rows,partyOf r=k)
    (hhead : parties.head?=some (partyOf r)) (hfew : owingMore rows (partyOf r) < 5) :
    (topFive (parties.map (shownParty rows)))[owingMore rows (partyOf r)]?=
      some (shownParty rows (partyOf r)) := by
  obtain ⟨rest,rfl⟩ := List.head?_eq_some_iff.mp hhead
  have habove := above_shown hnodup hlisted (partyOf r)
  have hrest : above rank (rest.map (shownParty rows)) (rank (shownParty rows (partyOf r)))=
      owingMore rows (partyOf r) := by
    rw [← habove]
    unfold above
    rw [List.map_cons,List.countP_cons,if_neg (by simp),Nat.add_zero]
  rw [topFive_eq,List.map_cons,← hrest]
  exact topRanked_cons_getElem? (by rw [hrest]; exact hfew)

/-- The report is the same in every order exactly if everything owed is in one
currency and no tie reaches into the five parties that are listed. -/
theorem same_report_iff (today : CalendarDate) (s : SelectedRows) (q : Request υ) :
    (∀ s' : SelectedRows,s'.rows.Perm s.rows →
      buildAging today s'.rows q.tenant q.dateFrom q.dateTo q.kind=
        buildAging today s.rows q.tenant q.dateFrom q.dateTo q.kind) ↔
      OneCurrency s.rows ∧ TiesUnlisted (positives s.rows) := by
  constructor
  · intro h
    obtain ⟨parties,hnodup,hlisted,-,hreport⟩ := buildAging_eq today s q
    have hsame : ∀ s' : SelectedRows,s'.rows.Perm s.rows → ∀ parties',
        buildAging today s'.rows q.tenant q.dateFrom q.dateTo q.kind=
          .ok (reportOf today s'.rows parties' q) →
        reportOf today s'.rows parties' q=reportOf today s.rows parties q := by
      intro s' hperm parties' hreport'
      have hequal := h s' hperm
      rw [hreport,hreport'] at hequal
      exact Except.ok.inj hequal
    constructor
    · intro row hrow row' hrow' hdue hdue'
      have hlast : ∀ r∈s.rows,0<r.due → r.currency=lastCurrency s.rows := by
        intro r hr hpos
        have hperm : (s.rows.erase r++[r]).Perm s.rows :=
          (List.perm_append_singleton r _).trans (List.perm_cons_erase hr).symm
        obtain ⟨parties',-,-,-,hreport'⟩ := buildAging_eq today (s.reorder hperm) q
        have hequal := congrArg (fun x => x.totalOutstanding.currency)
          (hsame (s.reorder hperm) hperm parties' hreport')
        exact (lastCurrency_snoc _ hpos).symm.trans hequal
      rw [hlast row hrow hdue,hlast row' hrow' hdue']
    · intro r hr r' hr' hne hdue
      by_contra hfew
      rw [not_le] at hfew
      -- whichever row comes first, its party is listed at the same place
      have hplace : ∀ x∈positives s.rows,
          partyDue (positives s.rows) (partyOf x)=partyDue (positives s.rows) (partyOf r) →
          (topFive (parties.map (shownParty (positives s.rows))))[
            owingMore (positives s.rows) (partyOf r)]?=some (shownParty (positives s.rows) (partyOf x)) := by
        intro x hx hxdue
        obtain ⟨hmem,hpos⟩ := mem_positives.mp hx
        have hperm : (x::s.rows.erase x).Perm s.rows := (List.perm_cons_erase hmem).symm
        obtain ⟨parties',hnodup',hlisted',hhead,hreport'⟩ := buildAging_eq today (s.reorder hperm) q
        have hpositives : (positives (x::s.rows.erase x)).Perm (positives s.rows) := positives_perm hperm
        have hfirst : parties'.head?=some (partyOf x) := by
          rw [hhead]
          change (positives (x::s.rows.erase x)).head?.map partyOf=_
          rw [positives_cons _ hpos]
          rfl
        have hlisted'' : ∀ k,k∈parties' ↔ ∃ r∈positives s.rows,partyOf r=k := fun k =>
          (hlisted' k).trans (exists_congr fun r => and_congr_left fun _ => hpositives.mem_iff)
        have hmore : owingMore (positives s.rows) (partyOf x)=owingMore (positives s.rows) (partyOf r) := by
          unfold owingMore
          rw [hxdue]
        have hlistedFirst := listed_first hnodup' hlisted'' hfirst (hmore ▸ hfew)
        have hequal := hsame (s.reorder hperm) hperm parties' hreport'
        have htop : topFive (parties'.map (shownParty (positives s.rows)))=
            topFive (parties.map (shownParty (positives s.rows))) := by
          rw [← listed_reportOf today s.rows parties q,← hequal,listed_reportOf,
            ← shownParty_perm hpositives]
          rfl
        rw [← htop,← hmore]
        exact hlistedFirst
      have hfirst := hplace r hr rfl
      have hsecond := hplace r' hr' hdue.symm
      rw [hfirst] at hsecond
      exact hne (shownParty_injective _ (Option.some.inj hsecond))
  · rintro ⟨hcurrency,hties⟩ s' hperm
    exact report_of_perm today s s' q hperm hcurrency hties

/-- What a report states of its buckets beside their currency. -/
def figures (r : AgingReportResponse υ) : List (String × Nat × Decimal) :=
  r.agingBuckets.map fun b => (b.bucket,b.count,b.amount.amount)

omit [DecidableEq υ] in
theorem figures_reportOf (today : CalendarDate) (rows : List OpenRow) (parties : List (String × String))
    (q : Request υ) : figures (reportOf today rows parties q)=emptyBuckets.map fun b =>
      (b.name,(group (OpenRow.bucket today) (positives rows) b).length,
        ⟨dueSum (group (OpenRow.bucket today) (positives rows) b),hundredths⟩) := List.map_map ..

/-- Whatever the order of the rows, there is a report with the same counts and
amounts in its buckets. The order does not matter at all if and only if everything
owed is in one currency and no tie reaches into the five parties that are listed. -/
theorem order_free_iff (today : CalendarDate) (s : SelectedRows) (q : Request υ) :
    (∀ s' : SelectedRows,s'.rows.Perm s.rows → ∃ r r',
      buildAging today s.rows q.tenant q.dateFrom q.dateTo q.kind=.ok r ∧
      buildAging today s'.rows q.tenant q.dateFrom q.dateTo q.kind=.ok r' ∧ figures r'=figures r) ∧
    ((∀ s' : SelectedRows,s'.rows.Perm s.rows →
      buildAging today s'.rows q.tenant q.dateFrom q.dateTo q.kind=
        buildAging today s.rows q.tenant q.dateFrom q.dateTo q.kind) ↔
      OneCurrency s.rows ∧ TiesUnlisted (positives s.rows)) := by
  refine ⟨fun s' hperm => ?_,same_report_iff today s q⟩
  obtain ⟨parties,-,-,-,hreport⟩ := buildAging_eq today s q
  obtain ⟨parties',-,-,-,hreport'⟩ := buildAging_eq today s' q
  refine ⟨_,_,hreport,hreport',?_⟩
  have hpositives := positives_perm hperm
  rw [figures_reportOf,figures_reportOf]
  refine List.map_congr_left fun b _ => ?_
  have hlength : (group (OpenRow.bucket today) (positives s'.rows) b).length=
      (group (OpenRow.bucket today) (positives s.rows) b).length := (hpositives.filter _).length_eq
  rw [hlength,dueSum_group_perm (OpenRow.bucket today) hpositives]

theorem hundred_exponent : (⟨10000,hundredths⟩ : Decimal).exponent=hundredths := rfl

theorem hundred_fits : (⟨10000,hundredths⟩ : Decimal).coefficient.natAbs<10^14 := by decide

theorem noAmount_exponent : noAmount.exponent=hundredths := rfl

theorem noAmount_fits : noAmount.coefficient.natAbs<10^14 := by decide

theorem firstOfApril : IsDate 2026 4 1 := by decide

/-- A hundred rupees that a party owes, due today. -/
def hundredOf (partyName : String) : OpenRow :=
  ⟨⟨⟨10000,hundredths⟩,hundred_exponent,hundred_fits⟩,⟨noAmount,noAmount_exponent,noAmount_fits⟩,
    ⟨2026,4,1,firstOfApril⟩,"INR",partyName⟩

/-- Where nobody owes more, the party of the first row is listed first. -/
theorem first_party_listed (today : CalendarDate) (s : SelectedRows) (q : Request υ)
    (hfirst : (positives s.rows).head?=some r) (hnone : owingMore (positives s.rows) (partyOf r)=0) :
    ∃ response,buildAging today s.rows q.tenant q.dateFrom q.dateTo q.kind=.ok response ∧
      (response.topDebtors++response.topCreditors)[0]?=some (shownParty (positives s.rows) (partyOf r)) := by
  obtain ⟨parties,hnodup,hlisted,hhead,hreport⟩ := buildAging_eq today s q
  rw [hfirst] at hhead
  refine ⟨_,hreport,?_⟩
  have hlistedFirst := listed_first hnodup hlisted hhead (by rw [hnone]; decide)
  rw [hnone] at hlistedFirst
  rw [listed_reportOf]
  exact hlistedFirst

/-- Two parties that owe the same are listed in the order of their rows. -/
theorem equal_parties_in_row_order :
    [hundredOf "Ben",hundredOf "Asha"].Perm [hundredOf "Asha",hundredOf "Ben"] ∧
      buildAging ⟨2026,4,1,by decide⟩ [hundredOf "Ben",hundredOf "Asha"] 7 ⟨2026,4,1,by decide⟩
          ⟨2026,4,1,by decide⟩ .debtors≠
        buildAging ⟨2026,4,1,by decide⟩ [hundredOf "Asha",hundredOf "Ben"] 7 ⟨2026,4,1,by decide⟩
          ⟨2026,4,1,by decide⟩ .debtors := by
  refine ⟨List.Perm.swap ..,fun h => ?_⟩
  obtain ⟨r,hr,hben⟩ := first_party_listed ⟨2026,4,1,by decide⟩
    ⟨[hundredOf "Ben",hundredOf "Asha"],by decide⟩
    (⟨7,⟨2026,4,1,by decide⟩,⟨2026,4,1,by decide⟩,.debtors⟩ : Request Nat) rfl (by decide)
  obtain ⟨r',hr',hasha⟩ := first_party_listed ⟨2026,4,1,by decide⟩
    ⟨[hundredOf "Asha",hundredOf "Ben"],by decide⟩
    (⟨7,⟨2026,4,1,by decide⟩,⟨2026,4,1,by decide⟩,.debtors⟩ : Request Nat) rfl (by decide)
  cases Except.ok.inj (hr.symm.trans (h.trans hr'))
  have hname := congrArg PartyAmount.name (Option.some.inj (hben.symm.trans hasha))
  exact absurd hname (by decide)

end Order

end Voyagent.AgingOrder
