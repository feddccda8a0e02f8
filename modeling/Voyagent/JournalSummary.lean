import Voyagent.BspReports
import Voyagent.DecimalTexts
import Voyagent.DecimalValues
import Voyagent.RecordTenants

/-!
# The summary a journal posting is approved by

`_post_journal_summary` adds up the debits of the raw input, and
`post_journal_entry` builds the entry from the same input in a loop of its own.
The summary shows the running totals of the entry that is handed over, rounded
to hundredths. They are the totals of the entry where the digits of the decimal
context suffice and the currencies are written without a line feed, which the
pattern of the schema lets through and the canonical models trim.
-/

namespace Voyagent.JournalSummary

open RuntimeValues KeyedMap CanonicalFields CanonicalFinance RecordTenants ToolInvocation
open Decimals DecimalTexts DecimalValues HalfEvenRounding FallibleResults
open InvoiceDrafts (upper)
open BspReports (groupThousands)

/-- What `Decimal` makes of a text, as the canonical models tell it apart. -/
def readingOf (s : String) : DecimalReading :=
  match decimalOfText s with
  | some (.finite d) => .finite d
  | some _ => .special
  | none => .malformed

/-- The library with Python's decimals. -/
def withDecimals (lib : FinanceLibrary) : FinanceLibrary := {lib with decimal := readingOf}

/-! ## The summary -/

/-- The hundredths a decimal is shown in. -/
def shownCents (d : Decimal) : Int :=
  if -2 ≤ d.exponent then d.coefficientAt (-2) else roundedAt d.coefficient (-2-d.exponent).toNat

/-- The format `,.2f`. -/
def twoPlaces : PyDecimal → String
  | .finite d =>
    let cents := (shownCents d).natAbs
    let whole := (groupThousands (Nat.toDigits 10 (cents/100)).reverse).reverse
    let places := [Nat.digitChar (cents/10%10),Nat.digitChar (cents%10)]
    String.ofList ((if d.coefficient<0 then ['-'] else [])++whole++ '.'::places)
  | d => d.text

/-- `str(ln.get("currency") or "").upper()`. -/
def summaryCurrency (line : Dict) : Except HandlerAnswer String := do
  return upper (← textOf ((given line "currency").getD (.str "")))

/-- One turn of the summary's loop. What cannot be read or added is passed over. -/
def addDebit (totals : Table String PyDecimal) (value : Json) :
    Except HandlerAnswer (Table String PyDecimal) := do
  let line ← objectOf value
  let ccy ← summaryCurrency line
  if ccy="" then return totals
  else
    match get line "debit_amount" with
    | none | some .null => return totals
    | some amount =>
      let text ← textOf amount
      let before := (get totals ccy).getD (.finite zero)
      match (decimalOfText text).bind before.add with
      | some total => return set totals ccy total
      | none => return totals

/-- `debit_by_ccy` after the loop. -/
def debitByCcy (lines : List Json) : Except HandlerAnswer (Table String PyDecimal) :=
  lines.foldlM addDebit []

/-- The text of the summary. -/
def summaryText (totals : Table String PyDecimal) (narration : String) (lines : Nat) : String :=
  let shown :=
    if totals.isEmpty then "(amount unknown)"
    else String.intercalate ", " (totals.map fun e => e.1++" "++twoPlaces e.2)
  "Post "++shown++" journal: "++narration++" across "++toString lines++" lines. "++"Not reversible."

/-- A list; the schema admits no other `lines`. -/
def arrayOf : Json → Except HandlerAnswer (List Json)
  | .arr values => .ok values
  | _ => .error (.raised typeError)

/-- `_post_journal_summary`. -/
def postJournalSummary (toolInput : Dict) : Except HandlerAnswer String := do
  let entry ← objectOf ((given toolInput "entry").getD (.obj []))
  let narration ← textOf ((given entry "narration").getD (.str "(no narration)"))
  let lines ← arrayOf ((given entry "lines").getD (.arr []))
  let totals ← debitByCcy lines
  return summaryText totals narration lines.length

/-! ## What the summary is about -/

/-- The lines of an input. -/
def inputLines (toolInput : Dict) : List Json :=
  match get toolInput "entry" with
  | some (.obj entry) =>
    match get entry "lines" with
    | some (.arr lines) => lines
    | _ => []
  | _ => []

/-- The currency of a line as the input writes it. -/
def writtenCurrency : Json → String
  | .obj line =>
    match get line "currency" with
    | some (.str s) => upper s
    | _ => ""
  | _ => ""

/-- The debits of an entry, each under the currency the input writes for its line. -/
def debitsUnder (written : List String) (lines : List JournalLine) : List (String × Decimal) :=
  (written.zip lines).filterMap fun e => e.2.debit.map fun m => (e.1,m.amount)

/-- An amount added to the total of its currency. -/
def addUnder (totals : Table String Decimal) (e : String × Decimal) : Table String Decimal :=
  set totals e.1 (((get totals e.1).getD zero).add e.2)

/-- Amounts added up one by one under their currencies. -/
def runningTotals (amounts : List (String × Decimal)) : Table String Decimal :=
  amounts.foldl addUnder []

/-- The totals of a summary. -/
def finiteTotals (totals : Table String Decimal) : Table String PyDecimal :=
  mapValues (fun _ d => PyDecimal.finite d) totals

/-- The amounts of one currency. -/
def under (ccy : String) (amounts : List (String × Decimal)) : List Decimal :=
  (amounts.filter fun e => decide (e.1=ccy)).map Prod.snd

/-- The sides of an entry's lines, each under its currency. -/
def debitsOf (entry : JournalEntry) : List (String × Decimal) :=
  entry.lines.filterMap fun l => l.debit.map fun m => (m.currency,m.amount)

def creditsOf (entry : JournalEntry) : List (String × Decimal) :=
  entry.lines.filterMap fun l => l.credit.map fun m => (m.currency,m.amount)

/-- The exact total of a currency. -/
def exactTotal (ccy : String) (amounts : List (String × Decimal)) : ℚ :=
  ((under ccy amounts).map value).sum

/-- The number the summary shows for a currency; nothing is shown where there is no debit. -/
def shownTotal (toolInput : Dict) (ccy : String) : ℚ :=
  match debitByCcy (inputLines toolInput) with
  | .ok totals =>
    match get totals ccy with
    | some (.finite d) => (shownCents d : ℚ)/100
    | _ => 0
  | .error _ => 0

/-- The summary shows the debits of the entry, and the entry balances. -/
def TellsTruth (toolInput : Dict) (entry : JournalEntry) : Prop :=
  ∀ ccy,shownTotal toolInput ccy=exactTotal ccy (debitsOf entry) ∧
    exactTotal ccy (debitsOf entry)=exactTotal ccy (creditsOf entry)

/-- The signed sides of an entry's lines, exact. -/
def signedValue (l : JournalLine) : Option (String × ℚ) :=
  match l.debit with
  | some m => some (m.currency,value m.amount)
  | none => l.credit.map fun m => (m.currency,-value m.amount)

def signedValues (ccy : String) (entry : JournalEntry) : List ℚ :=
  ((entry.lines.filterMap signedValue).filter fun e => decide (e.1=ccy)).map Prod.snd

/-- The amounts of an entry and the partial sums that are formed of them have no
more digits than the context. -/
structure FitsDigits (entry : JournalEntry) : Prop where
  amounts : ∀ l∈entry.lines,∀ m,l.debit=some m ∨ l.credit=some m → FitsContext (value m.amount)
  debits : ∀ ccy,SumsFit ((under ccy (debitsOf entry)).map value)
  nets : ∀ ccy,SumsFit (signedValues ccy entry)

/-- The currencies of an input are written as three capital letters and nothing else. -/
def PlainCurrencies (toolInput : Dict) : Prop :=
  ∀ v∈inputLines toolInput,isCurrencyCode (writtenCurrency v)=true

/-! ## The two loops -/

variable {lib : FinanceLibrary} {w : World} {line : Dict} {key ccy : String} {v : Json}
  {l : JournalLine} {entry : JournalEntry} {amounts : List (String × Decimal)}

theorem isAbsent_iff : isAbsent line key=true ↔ get line key=none ∨ get line key=some .null := by
  unfold isAbsent
  cases hget : get line key with
  | none => simp
  | some value => cases value <;> simp

variable {s : String}

theorem textOf_ok : textOf v=.ok s ↔ v=.str s := by
  cases v <;> simp [textOf]

variable {fields : Dict}

theorem objectOf_ok : objectOf v=.ok fields ↔ v=.obj fields := by
  cases v <;> simp [objectOf]

theorem item_ok : item line key=.ok v ↔ get line key=some v := by
  unfold item
  cases get line key <;> simp

theorem readingOf_finite {t : String} {d : Decimal} (h : readingOf t=.finite d) :
    decimalOfText t=some (.finite d) := by
  unfold readingOf at h
  generalize decimalOfText t=read at h
  cases read with
  | none => cases h
  | some read =>
    cases read with
    | finite d' =>
      cases h
      rfl
    | infinite n => cases h
    | nan => cases h
    | snan => cases h

/-- A side that is read is absent, or a finite amount in the currency. -/
theorem sideOf_ok {currency : String} {side : Option Money}
    (h : sideOf (withDecimals lib) w line key currency=.ok side) :
    isAbsent line key=true ∧ side=none ∨
      ∃ t m,get line key=some (.str t) ∧ decimalOfText t=some (.finite m.amount) ∧
        patterned isCurrencyCode (.str currency)=some m.currency ∧ side=some m := by
  unfold sideOf at h
  split at h
  · rename_i hget
    exact .inl ⟨isAbsent_iff.mpr (.inl hget),(Except.ok.inj h).symm⟩
  · rename_i hget
    exact .inl ⟨isAbsent_iff.mpr (.inr hget),(Except.ok.inj h).symm⟩
  · rename_i value hnull hget
    obtain ⟨t,ht,hread⟩ := bind_ok.mp h
    rw [textOf_ok] at ht
    have hmoney : ∃ m,moneyOf (readingOf t) currency=some m ∧ side=some m := by
      have hreading : (withDecimals lib).decimal t=readingOf t := rfl
      rw [hreading] at hread
      generalize readingOf t=reading at hread ⊢
      dsimp only at hread
      split at hread
      · cases hread
      · split at hread
        · rename_i m hm
          exact ⟨m,hm,(Except.ok.inj hread).symm⟩
        · cases hread
    obtain ⟨m,hm,hside⟩ := hmoney
    obtain ⟨hreading,hcurrency⟩ := moneyOf_eq_some.mp hm
    exact .inr ⟨t,m,ht ▸ hget,readingOf_finite hreading,hcurrency,hside⟩

/-- A line of the entry is the line of the input it was built from. -/
structure Posted (v : Json) (l : JournalLine) : Prop where
  currency : ∀ m,l.debit=some m ∨ l.credit=some m →
    patterned isCurrencyCode (.str (writtenCurrency v))=some m.currency
  oneSide : l.debit=none ∨ l.credit=none
  debit : ∃ line s,v=.obj line ∧ get line "currency"=some (.str s) ∧
    (isAbsent line "debit_amount"=true ∧ l.debit=none ∨ ∃ t m,
      get line "debit_amount"=some (.str t) ∧ decimalOfText t=some (.finite m.amount) ∧ l.debit=some m)

theorem canonicalLine_posted (h : canonicalLine (withDecimals lib) w v=.ok l) : Posted v l := by
  unfold canonicalLine at h
  obtain ⟨line,hline,hrest⟩ := bind_ok.mp h
  obtain ⟨currency,hitem,hrest⟩ := bind_ok.mp hrest
  obtain ⟨s,hs,hrest⟩ := bind_ok.mp hrest
  rw [objectOf_ok] at hline
  rw [textOf_ok] at hs
  rw [item_ok,hs] at hitem
  have hwritten : writtenCurrency v=upper s := by
    simp only [writtenCurrency,hline,hitem]
  dsimp only at hrest
  split at hrest
  · cases hrest
  · obtain ⟨account,-,hrest⟩ := bind_ok.mp hrest
    obtain ⟨debit,hdebit,hrest⟩ := bind_ok.mp hrest
    obtain ⟨credit,hcredit,hrest⟩ := bind_ok.mp hrest
    split at hrest
    · rename_i l' hl
      cases hrest
      obtain ⟨accountId,-,hl⟩ := Option.bind_eq_some_iff.mp hl
      obtain ⟨narration,-,hl⟩ := Option.bind_eq_some_iff.mp hl
      split at hl
      · cases hl
      · rename_i hsides
        cases hl
        have hdebits := sideOf_ok hdebit
        have hcredits := sideOf_ok hcredit
        refine ⟨fun m hm => ?_,?_,line,s,hline,hitem,?_⟩
        · rw [hwritten]
          rcases hm with hm|hm
          · rcases hdebits with ⟨-,hnone⟩|⟨t,m',-,-,hc,hsome⟩
            · cases hnone.symm.trans hm
            · cases hsome.symm.trans hm
              exact hc
          · rcases hcredits with ⟨-,hnone⟩|⟨t,m',-,-,hc,hsome⟩
            · cases hnone.symm.trans hm
            · cases hsome.symm.trans hm
              exact hc
        · cases debit with
          | none => exact .inl rfl
          | some m =>
            cases credit with
            | none => exact .inr rfl
            | some m' => exact absurd rfl hsides
        · rcases hdebits with habsent|⟨t,m,hget,hread,-,hsome⟩
          · exact .inl habsent
          · exact .inr ⟨t,m,hget,hread,hsome⟩
    · cases hrest

theorem writtenCurrency_eq (h : get line "currency"=some (.str s)) :
    writtenCurrency (.obj line)=upper s := by
  simp only [writtenCurrency,h]

/-- The summary reads the currency as it is written, if there is one. -/
theorem summaryCurrency_eq (h : get line "currency"=some (.str s)) :
    summaryCurrency line=.ok (writtenCurrency (.obj line)) := by
  rw [writtenCurrency_eq h]
  unfold summaryCurrency given
  rw [h,Option.filter_some]
  by_cases hs : s=""
  · subst hs
    rfl
  · rw [if_pos (by simpa [isTruthy] using hs)]
    rfl

/-- A turn of the summary's loop adds the debit of the line that is posted. -/
theorem addDebit_posted (h : Posted v l) (totals : Table String Decimal) :
    addDebit (finiteTotals totals) v=.ok (finiteTotals
      ((l.debit.map fun m => (writtenCurrency v,m.amount)).toList.foldl addUnder totals)) := by
  obtain ⟨line,s,rfl,hcurrency,hdebit⟩ := h.debit
  have hccy := summaryCurrency_eq hcurrency
  unfold addDebit
  change (summaryCurrency line >>= _)=_
  rw [hccy]
  change (if writtenCurrency (.obj line)="" then _ else _)=_
  rcases hdebit with ⟨habsent,hnone⟩|⟨t,m,hget,hread,hsome⟩
  · rw [hnone]
    rcases isAbsent_iff.mp habsent with hget|hget <;> rw [hget] <;> split <;> rfl
  · have hcode := h.currency m (.inl hsome)
    have hwritten : writtenCurrency (.obj line)≠"" := by
      intro hempty
      rw [hempty] at hcode
      cases hcode
    rw [if_neg hwritten,hget,hsome]
    change (match (decimalOfText t).bind _ with
      | some total => pure (set (finiteTotals totals) (writtenCurrency (.obj line)) total)
      | none => pure (finiteTotals totals))=_
    have hbefore : (get (finiteTotals totals) (writtenCurrency (.obj line))).getD (.finite zero)=
        .finite ((get totals (writtenCurrency (.obj line))).getD zero) := by
      rw [finiteTotals,get_mapValues]
      cases get totals (writtenCurrency (.obj line)) <;> rfl
    rw [hread,hbefore]
    exact congrArg Except.ok (mapValues_set _ _ _ _).symm

variable {ls : List JournalLine} {values : List Json}

/-- The summary adds up the debits of the lines that are posted. -/
theorem debitByCcy_posted (h : List.Forall₂ Posted values ls) (totals : Table String Decimal) :
    values.foldlM addDebit (finiteTotals totals)=
      .ok (finiteTotals ((debitsUnder (values.map writtenCurrency) ls).foldl addUnder totals)) := by
  induction h generalizing totals with
  | nil => rfl
  | @cons v l values ls hline hrest ih =>
    have hdebits : debitsUnder ((v::values).map writtenCurrency) (l::ls)=
        (l.debit.map fun m => (writtenCurrency v,m.amount)).toList++
          debitsUnder (values.map writtenCurrency) ls := by
      unfold debitsUnder
      rw [List.map_cons,List.zip_cons_cons,List.filterMap_cons]
      cases l.debit <;> rfl
    rw [List.foldlM_cons,addDebit_posted hline,hdebits,List.foldl_append]
    exact ih _

/-- A currency that is written plainly is the currency of the line. -/
theorem Posted.plain (h : Posted v l) (hplain : isCurrencyCode (writtenCurrency v)=true) {m : Money}
    (hm : l.debit=some m ∨ l.credit=some m) : m.currency=writtenCurrency v := by
  have hcode := h.currency m hm
  rw [currencyCode_of_valid hplain] at hcode
  exact (Option.some.inj hcode).symm

theorem debitsUnder_plain (h : List.Forall₂ Posted values ls)
    (hplain : ∀ v∈values,isCurrencyCode (writtenCurrency v)=true) :
    debitsUnder (values.map writtenCurrency) ls=
      ls.filterMap fun l => l.debit.map fun m => (m.currency,m.amount) := by
  unfold debitsUnder
  induction h with
  | nil => rfl
  | @cons v l values ls hline hrest ih =>
    have hhead : (l.debit.map fun m => (writtenCurrency v,m.amount))=
        l.debit.map fun m => (m.currency,m.amount) := by
      cases hdebit : l.debit with
      | none => rfl
      | some m =>
        rw [Option.map_some,Option.map_some,
          hline.plain (hplain v List.mem_cons_self) (.inl hdebit)]
    rw [List.map_cons,List.zip_cons_cons,List.filterMap_cons,List.filterMap_cons,hhead,
      ih fun v' hv' => hplain v' (List.mem_cons_of_mem _ hv')]

/-! ## Exact totals -/

theorem under_append (ccy : String) (amounts more : List (String × Decimal)) :
    under ccy (amounts++more)=under ccy amounts++under ccy more := by
  unfold under
  rw [List.filter_append,List.map_append]

/-- A currency is listed with the running sum of its amounts. -/
theorem get_runningTotals (amounts : List (String × Decimal)) (ccy : String) :
    get (runningTotals amounts) ccy=
      if under ccy amounts=[] then none else some ((under ccy amounts).foldl Decimal.add zero) := by
  induction amounts using List.reverseRecOn with
  | nil => rfl
  | append_singleton amounts e ih =>
    have hlast : runningTotals (amounts++[e])=addUnder (runningTotals amounts) e := List.foldl_append
    rw [hlast,addUnder,get_set,under_append]
    by_cases he : e.1=ccy
    · have hunder : under ccy [e]=[e.2] := by simp [under,he]
      rw [if_pos he,hunder,if_neg (List.append_ne_nil_of_right_ne_nil _ (List.cons_ne_nil _ _)),
        List.foldl_append,he,ih]
      by_cases hnone : under ccy amounts=[]
      · rw [if_pos hnone,hnone]
        rfl
      · rw [if_neg hnone]
        rfl
    · have hunder : under ccy [e]=[] := by simp [under,he]
      rw [if_neg he,hunder,List.append_nil,ih]

/-- The total of a currency, nothing where it has no amounts. -/
def totalOf (totals : Table String Decimal) (ccy : String) : Decimal := (get totals ccy).getD zero

theorem totalOf_runningTotals (amounts : List (String × Decimal)) (ccy : String) :
    totalOf (runningTotals amounts) ccy=(under ccy amounts).foldl Decimal.add zero := by
  unfold totalOf
  rw [get_runningTotals]
  split
  · rename_i hnone
    rw [hnone]
    rfl
  · rfl

/-- The validator adds up the signed sides. -/
def signedAmounts (lines : List JournalLine) : List (String × Decimal) :=
  (lines.filterMap signedSide).map fun m => (m.currency,m.amount)

theorem netByCurrency_eq (lines : List JournalLine) :
    netByCurrency lines=runningTotals (signedAmounts lines) := by
  unfold netByCurrency runningTotals signedAmounts
  rw [List.foldl_map]
  rfl

/-- An amount that fits keeps its value when it is signed. -/
theorem value_signed {c : Int} (hc : c=1 ∨ c= -1) {d : Decimal} (h : FitsContext (value d)) :
    value (Decimal.mul ⟨c,0⟩ d)=c*value d := by
  have hunit : value ⟨c,0⟩=c := by simp [value]
  rw [← hunit]
  refine (value_mul_iff _ _).mpr ?_
  rw [hunit]
  rcases hc with rfl|rfl
  · rwa [Int.cast_one,one_mul]
  · obtain ⟨m,e,hm,hvalue⟩ := h
    refine ⟨-m,e,by rwa [Int.natAbs_neg],?_⟩
    rw [hvalue]
    push_cast
    ring

/-- The signed side of a line whose amount fits is its exact one. -/
theorem signedSide_value (hfits : ∀ m,l.debit=some m ∨ l.credit=some m → FitsContext (value m.amount)) :
    (signedSide l).map (fun m => (m.currency,value m.amount))=signedValue l := by
  unfold signedSide signedValue
  cases hdebit : l.debit with
  | some m =>
    have hvalue := value_signed (.inl rfl) (hfits m (.inl hdebit))
    simp only [Option.map_some,hvalue]
    simp
  | none =>
    cases hcredit : l.credit with
    | none => rfl
    | some m =>
      have hvalue := value_signed (.inr rfl) (hfits m (.inr hcredit))
      simp only [Option.map_some,hvalue]
      simp

theorem signedValues_eq (hfits : FitsDigits entry) (ccy : String) :
    (under ccy (signedAmounts entry.lines)).map value=signedValues ccy entry := by
  have hlines : (signedAmounts entry.lines).map (fun e => (e.1,value e.2))=
      entry.lines.filterMap signedValue := by
    unfold signedAmounts
    rw [List.map_map,List.map_filterMap]
    exact List.filterMap_congr fun l hl => signedSide_value (hfits.amounts l hl)
  unfold under signedValues
  rw [← hlines,List.filter_map,List.map_map,List.map_map]
  rfl

/-- A line adds its debit and takes its credit away. -/
theorem sum_signedValues {lines : List JournalLine}
    (hsides : ∀ l∈lines,l.debit=none ∨ l.credit=none) (ccy : String) :
    (((lines.filterMap signedValue).filter fun e => decide (e.1=ccy)).map Prod.snd).sum=
      exactTotal ccy (lines.filterMap fun l => l.debit.map fun m => (m.currency,m.amount))-
        exactTotal ccy (lines.filterMap fun l => l.credit.map fun m => (m.currency,m.amount)) := by
  unfold exactTotal under
  induction lines with
  | nil => simp
  | cons l lines ih =>
    have hrest := ih fun l' hl' => hsides l' (List.mem_cons_of_mem _ hl')
    rw [List.filterMap_cons,List.filterMap_cons,List.filterMap_cons]
    cases hdebit : l.debit with
    | some m =>
      have hcredit : l.credit=none :=
        (hsides l List.mem_cons_self).resolve_left fun hnone => by cases hnone.symm.trans hdebit
      have hsigned : signedValue l=some (m.currency,value m.amount) := by
        simp only [signedValue,hdebit]
      rw [hcredit,hsigned]
      by_cases hm : m.currency=ccy
      · simp only [Option.map_some,Option.map_none,List.filter_cons,hm,decide_true,if_true,
          List.map_cons,List.sum_cons,hrest]
        ring
      · simp only [Option.map_some,Option.map_none,List.filter_cons,hm,decide_false,
          Bool.false_eq_true,if_false,hrest]
    | none =>
      cases hcredit : l.credit with
      | none =>
        have hsigned : signedValue l=none := by simp only [signedValue,hdebit,hcredit,Option.map_none]
        simp only [hsigned,Option.map_none,hrest]
      | some m =>
        have hsigned : signedValue l=some (m.currency,-value m.amount) := by
          simp only [signedValue,hdebit,hcredit,Option.map_some]
        rw [hsigned]
        by_cases hm : m.currency=ccy
        · simp only [Option.map_some,Option.map_none,List.filter_cons,hm,decide_true,if_true,
            List.map_cons,List.sum_cons,hrest]
          ring
        · simp only [Option.map_some,Option.map_none,List.filter_cons,hm,decide_false,
            Bool.false_eq_true,if_false,hrest]

/-- An entry whose running nets are zero balances where its digits fit. -/
theorem balanced_of_nets (hsides : ∀ l∈entry.lines,l.debit=none ∨ l.credit=none)
    (hnets : ∀ e∈netByCurrency entry.lines,e.2.beq zero=true) (hfits : FitsDigits entry)
    (ccy : String) : exactTotal ccy (debitsOf entry)=exactTotal ccy (creditsOf entry) := by
  have hvalue : value (totalOf (netByCurrency entry.lines) ccy)=(signedValues ccy entry).sum := by
    rw [netByCurrency_eq,totalOf_runningTotals,← signedValues_eq hfits]
    refine value_foldl_add _ ?_
    rw [signedValues_eq hfits]
    exact hfits.nets ccy
  have hzero : value (totalOf (netByCurrency entry.lines) ccy)=0 := by
    unfold totalOf
    cases hget : get (netByCurrency entry.lines) ccy with
    | none => exact value_zero
    | some d =>
      have hbeq := hnets (ccy,d) (mem_of_get hget)
      rw [beq_eq] at hbeq
      exact (of_decide_eq_true hbeq).trans value_zero
  have hsum := sum_signedValues hsides ccy
  rw [hzero] at hvalue
  exact sub_eq_zero.mp (hsum.symm.trans hvalue.symm)

theorem shownCents_eq (d : Decimal) : shownCents d=roundHalfEven (100*value d) := by
  have hunit : value d*(10 : ℚ)^(-(-2 : ℤ))=100*value d := by
    norm_num
    ring
  rw [← hunit]
  exact coefficient_at_eq d (-2)

/-! ## Posted entries -/

/-- What is built from validated arguments has their lines, and no net. -/
theorem build_lines {a : JournalArguments} (h : JournalEntry.build a=some entry) :
    2≤a.lines.length ∧ entry.lines=a.lines ∧ ∀ e∈netByCurrency entry.lines,e.2.beq zero=true := by
  unfold JournalEntry.build at h
  obtain ⟨_,-,h⟩ := Option.bind_eq_some_iff.mp h
  obtain ⟨_,-,h⟩ := Option.bind_eq_some_iff.mp h
  obtain ⟨_,-,h⟩ := Option.bind_eq_some_iff.mp h
  obtain ⟨_,-,h⟩ := Option.bind_eq_some_iff.mp h
  split at h
  · cases h
  · rename_i hlength
    unfold balancedPerCurrency at h
    split at h
    · rename_i hnets
      cases h
      exact ⟨Nat.le_of_not_lt hlength,rfl,List.all_eq_true.mp hnets⟩
    · cases h

/-- An entry that is handed over was built line by line from the input. -/
theorem handedOver_lines {toolInput : Dict} {ctx : ToolContext}
    (h : (postJournalEntry (withDecimals lib) toolInput ctx w).handedOver=some (.journalEntry entry)) :
    ∃ fields narration lines,get toolInput "entry"=some (.obj fields) ∧
      get fields "narration"=some (.str narration) ∧ given fields "lines"=some (.arr lines) ∧
      List.Forall₂ Posted lines entry.lines ∧ ∀ e∈netByCurrency entry.lines,e.2.beq zero=true := by
  obtain ⟨a,entry',ha,hbuild,hrecord⟩ := postJournalEntry_handedOver (Option.mem_def.mpr h)
  cases hrecord
  obtain ⟨hlength,hlines,hnets⟩ := build_lines hbuild
  unfold journalArguments at ha
  obtain ⟨value,hentry,ha⟩ := bind_ok.mp ha
  obtain ⟨fields,hfields,ha⟩ := bind_ok.mp ha
  obtain ⟨ls,hls,ha⟩ := bind_ok.mp ha
  obtain ⟨date,-,ha⟩ := bind_ok.mp ha
  obtain ⟨narrationValue,hnarration,ha⟩ := bind_ok.mp ha
  obtain ⟨narration,htext,ha⟩ := bind_ok.mp ha
  obtain ⟨sourceEvent,-,ha⟩ := bind_ok.mp ha
  cases ha
  rw [item_ok] at hentry hnarration
  rw [objectOf_ok] at hfields
  rw [textOf_ok] at htext
  unfold canonicalLines at hls
  split at hls
  · rename_i lines hgiven
    refine ⟨fields,narration,lines,hfields ▸ hentry,htext ▸ hnarration,hgiven,?_,hnets⟩
    rw [hlines]
    exact (mapM_ok.mp hls).imp fun _ _ hline => canonicalLine_posted hline
  · cases hls
  · cases hls
    exact absurd hlength (Nat.not_le.mpr Nat.zero_lt_two)

/-- The schema admits no empty narration. -/
theorem narration_ne (i : SchemaInput postJournalSchema) {narration : String}
    (hentry : get i.input "entry"=some (.obj fields))
    (hnarration : get fields "narration"=some (.str narration)) : narration≠"" := by
  have hvalid := i.valid
  simp only [postJournalSchema,Bool.and_eq_true,property,hentry,Option.all_some] at hvalid
  obtain ⟨⟨-,hfields⟩,-⟩ := hvalid
  simp only [entrySchema,Bool.and_eq_true,property,hnarration,Option.all_some] at hfields
  obtain ⟨⟨⟨⟨⟨-,htext⟩,-⟩,-⟩,-⟩,-⟩ := hfields
  exact of_decide_eq_true htext

theorem given_of_get {d : Dict} (hget : get d key=some v) (hv : isTruthy v=true) :
    given d key=some v := by
  unfold given
  rw [hget,Option.filter_some,if_pos hv]

/-- For every input that the schema admits, if an entry is handed to the driver: the
summary shows the running debit totals of that entry, each amount under the
currency as the input writes it; the running nets of the entry are zero. Where the
currencies are written plainly and the digits fit, the summary shows for each
currency the exact debit total of the entry, rounded to hundredths, and the
debits and the credits of the entry are equal. -/
theorem posted_summary (lib : FinanceLibrary) (i : SchemaInput postJournalSchema) (ctx : ToolContext)
    (w : World) (entry : JournalEntry)
    (h : (postJournalEntry (withDecimals lib) i.input ctx w).handedOver=some (.journalEntry entry)) :
    (∃ fields narration,get i.input "entry"=some (.obj fields) ∧
      get fields "narration"=some (.str narration) ∧
      postJournalSummary i.input=.ok (summaryText (finiteTotals (runningTotals
        (debitsUnder ((inputLines i.input).map writtenCurrency) entry.lines))) narration
        entry.lines.length)) ∧
    (∀ e∈netByCurrency entry.lines,e.2.beq zero=true) ∧
    (PlainCurrencies i.input → FitsDigits entry → ∀ ccy,
      shownTotal i.input ccy=(roundHalfEven (100*exactTotal ccy (debitsOf entry)) : ℚ)/100 ∧
        exactTotal ccy (debitsOf entry)=exactTotal ccy (creditsOf entry)) := by
  obtain ⟨fields,narration,lines,hentry,hnarration,hgiven,hposted,hnets⟩ := handedOver_lines h
  have hlines : inputLines i.input=lines := by
    have hget : get fields "lines"=some (.arr lines) := (Option.filter_eq_some_iff.mp hgiven).1
    simp only [inputLines,hentry,hget]
  have htotals : debitByCcy lines=
      .ok (finiteTotals (runningTotals (debitsUnder (lines.map writtenCurrency) entry.lines))) :=
    debitByCcy_posted hposted []
  refine ⟨⟨fields,narration,hentry,hnarration,?_⟩,hnets,fun hplain hfits ccy => ⟨?_,?_⟩⟩
  · have hfields : isTruthy (.obj fields)=true := by
      cases fields with
      | nil => cases hnarration
      | cons e fields => rfl
    have htruthy : isTruthy (.str narration)=true :=
      decide_eq_true (narration_ne i hentry hnarration)
    rw [hlines]
    unfold postJournalSummary
    rw [given_of_get hentry hfields]
    change (textOf ((given fields "narration").getD _) >>= _)=_
    rw [given_of_get hnarration htruthy,hgiven]
    change (debitByCcy lines >>= _)=_
    rw [htotals,hposted.length_eq]
    rfl
  · rw [PlainCurrencies,hlines] at hplain
    rw [debitsUnder_plain hposted hplain] at htotals
    unfold shownTotal
    rw [hlines,htotals]
    change (match get (finiteTotals (runningTotals (debitsOf entry))) ccy with
      | some (.finite d) => (shownCents d : ℚ)/100
      | _ => 0)=_
    have hexact : value ((under ccy (debitsOf entry)).foldl Decimal.add zero)=
        exactTotal ccy (debitsOf entry) := value_foldl_add _ (hfits.debits ccy)
    rw [finiteTotals,get_mapValues,get_runningTotals]
    by_cases hnone : under ccy (debitsOf entry)=[]
    · rw [if_pos hnone,← hexact,hnone]
      have hzero : roundHalfEven (100*value ([].foldl Decimal.add zero))=0 := by
        rw [List.foldl_nil,value_zero,mul_zero]
        exact roundHalfEven_int (α:=ℚ) 0
      rw [hzero]
      norm_num
    · rw [if_neg hnone]
      change (shownCents ((under ccy (debitsOf entry)).foldl Decimal.add zero) : ℚ)/100=_
      rw [shownCents_eq,hexact]
  · refine balanced_of_nets (fun l hl => ?_) hnets hfits ccy
    obtain ⟨v,-,hv⟩ := partner_of_mem hposted.flip hl
    exact hv.oneSide

/-- A line of the sample. -/
def feeLine (side : String) : Json :=
  .obj [("account_id",.str "66666666-6666-7666-8666-666666666666"),("currency",.str "INR"),
    (side,.str "0.005")]

/-- Half a hundredth, debited and credited. -/
def halfHundredth : SchemaInput postJournalSchema where
  input := [("entry",.obj [("narration",.str "fee"),
    ("lines",.arr [feeLine "debit_amount",feeLine "credit_amount"])])]
  valid := by decide +kernel

theorem firstOfMay : CalendarDates.IsDate 2026 5 1 := by decide

/-- The entry the sample posts. -/
def feeEntry : JournalEntry where
  id := "66666666-6666-7666-8666-666666666666"
  tenantId := acmeContext.tenantId
  entryDate := ⟨2026,5,1,firstOfMay⟩
  narration := {default := "fee"}
  lines := [
    ⟨"66666666-6666-7666-8666-666666666666",some ⟨⟨5,-3⟩,"INR"⟩,none,none⟩,
    ⟨"66666666-6666-7666-8666-666666666666",none,some ⟨⟨5,-3⟩,"INR"⟩,none⟩]
  sourceEvent := "manual.journal"
  createdAt := 0
  updatedAt := 0

/-- The sample's entry and its nets. -/
theorem posted_summary_fee :
    (postJournalEntry (withDecimals deskLibrary) halfHundredth.input acmeContext.toToolContext
      deskWorld).handedOver=some (.journalEntry feeEntry) ∧
    ∀ e∈netByCurrency feeEntry.lines,e.2.beq zero=true := by
  have hposted : (postJournalEntry (withDecimals deskLibrary) halfHundredth.input
      acmeContext.toToolContext deskWorld).handedOver=some (.journalEntry feeEntry) := by
    decide +kernel
  exact ⟨hposted,(posted_summary deskLibrary halfHundredth acmeContext.toToolContext deskWorld
    feeEntry hposted).2.1⟩

/-- The summary shows nothing of a debit of half a hundredth that is handed over. -/
theorem half_hundredth_hidden :
    (postJournalEntry (withDecimals deskLibrary) halfHundredth.input acmeContext.toToolContext
      deskWorld).handedOver=some (.journalEntry feeEntry) ∧
    postJournalSummary halfHundredth.input=
      .ok "Post INR 0.00 journal: fee across 2 lines. Not reversible." ∧
    ¬TellsTruth halfHundredth.input feeEntry := by
  refine ⟨by decide +kernel,by rfl,fun htruth => ?_⟩
  have hshown : shownTotal halfHundredth.input "INR"=0 := by decide +kernel
  have hposted : exactTotal "INR" (debitsOf feeEntry)=1/200 := by decide +kernel
  have hsame := (htruth "INR").1
  rw [hshown,hposted] at hsame
  norm_num at hsame

end Voyagent.JournalSummary
