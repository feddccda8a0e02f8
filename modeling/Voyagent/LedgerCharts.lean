import Voyagent.DecimalTexts
import Voyagent.LedgerAccounts

/-!
# Charts of accounts with odd ledgers

The rows of a chart are parsed and mapped one by one, with the notices that go to
the log. An account comes back for every ledger with a name unless a name is
blank or a symbol of three letters is no code of a currency: such a symbol
passes the filter of the mapping, and the model refuses the whole list.
-/

namespace Voyagent.LedgerCharts

open TrimmedText RuntimeValues KeyedMap FallibleResults DecimalTexts
open TallyVouchers TallyResponses LedgerAccounts
open HafMapping (isCurrencyCode)

/-! ## The rows and the log -/

/-- What the parser and the mapping write to the log. -/
inductive Notice where
  | unnamedLedger
  | noParent
  | unrecognisedParent (parent : String)
  | unparseableBalance (raw : String)
  | droppedCurrency (code : String)
  deriving DecidableEq

/-- `TallyLedger`, with the balance that is read for the log. -/
structure ChartRow where
  ledger : TallyLedger
  openingBalanceStr : Option String
  deriving DecidableEq

/-- The row of an element, if the element has a name. -/
def chartRow (element : Element) : Option ChartRow :=
  (ledgerName element).map fun name =>
    ⟨ledgerRow element name,(childText element "openingbalance").map stripWhitespace⟩

/-- `parse_ledger_list`, of the root. -/
def parseLedgerList (root : Element) : List ChartRow × List Notice :=
  let elements := iterByLocalName root "ledger"
  (elements.filterMap chartRow,
    (elements.filter fun element => (ledgerName element).isNone).map fun _ => .unnamedLedger)

/-- `replace` of two letters by nothing. -/
def withoutPair (a b : Char) : List Char → List Char
  | x::y::cs => if x=a ∧ y=b then withoutPair a b cs else x::withoutPair a b (y::cs)
  | cs => cs

/-- The number of an opening balance, without the side it is on. -/
def balanceText (lib : TextLibrary) (raw : String) : String :=
  let text := (lib.upper (pyStrip raw)).toList
  let text := trimList isPySpace (withoutPair 'C' 'R' (withoutPair 'D' 'R' text))
  String.ofList (text.filter (· ≠ ','))

/-- `_parse_opening_balance`. -/
def parseOpeningBalance (lib : TextLibrary) (raw : Option String) : PyDecimal × List Notice :=
  match raw.filter fun text => decide (text≠"") with
  | none => (.finite Decimals.zero,[])
  | some raw =>
    if balanceText lib raw="" then (.finite Decimals.zero,[])
    else
      match decimalOfText (balanceText lib raw) with
      | some balance => (balance,[])
      | none => (.finite Decimals.zero,[.unparseableBalance raw])

/-- The notices of `_infer_account_type`. -/
def parentNotices (lib : TextLibrary) : Option String → List Notice
  | none => [.noParent]
  | some parent =>
    if (get parentToType (lib.lower (pyStrip parent))).isSome then [] else [.unrecognisedParent parent]

/-- The notice of a symbol that is dropped. -/
def currencyNotices (lib : TextLibrary) (currency : Option String) : List Notice :=
  match currency.filter fun text => decide (text≠"") with
  | none => []
  | some text =>
    let code := lib.upper (pyStrip text)
    if code.toList.length=3 ∧ lib.isalpha code=true then [] else [.droppedCurrency code]

/-- `tally_ledger_to_account`, with what it logs. -/
def accountOfRow (lib : TextLibrary) (tenantId id : EntityId) (now : Time) (row : ChartRow) :
    Except Failure LedgerAccount × List Notice :=
  (tallyLedgerToAccount lib tenantId id now row.ledger,
    parentNotices lib row.ledger.parent++(parseOpeningBalance lib row.openingBalanceStr).2++
      currencyNotices lib row.ledger.currency)

/-- The accounts of the rows; the first row that raises ends the list. -/
def accountsOfRows (lib : TextLibrary) (tenantId : EntityId) (mint : Nat → EntityId) (now : Time) :
    Nat → List ChartRow → Except Failure (List LedgerAccount) × List Notice
  | _,[] => (.ok [],[])
  | i,row::rows =>
    let first := accountOfRow lib tenantId (mint i) now row
    match first.1 with
    | .error e => (.error e,first.2)
    | .ok account =>
      let rest := accountsOfRows lib tenantId mint now (i+1) rows
      (rest.1.map (account::·),first.2++rest.2)

/-- The chart of a root, parsed and mapped as `list_accounts` does. -/
def chartAccounts (lib : TextLibrary) (tenantId : EntityId) (mint : Nat → EntityId) (now : Time)
    (root : Element) : Except Failure (List LedgerAccount) × List Notice :=
  let parsed := parseLedgerList root
  let mapped := accountsOfRows lib tenantId mint now 0 parsed.1
  (mapped.1,parsed.2++mapped.2)

variable {lib : TextLibrary} {tenantId : EntityId} {mint : Nat → EntityId} {now : Time}
  {root element : Element} {accounts : List LedgerAccount}

theorem parseLedgerList_ledgers (root : Element) :
    (parseLedgerList root).1.map ChartRow.ledger=ledgerRows root := by
  unfold parseLedgerList ledgerRows
  rw [List.map_filterMap]
  refine List.filterMap_congr fun element _ => ?_
  unfold chartRow
  rw [Option.map_map]
  rfl

/-- The log changes nothing about the accounts. -/
theorem accountsOfRows_result (i : Nat) (rows : List ChartRow) :
    (accountsOfRows lib tenantId mint now i rows).1=
      accountsFrom lib tenantId mint now i (rows.map ChartRow.ledger) := by
  induction rows generalizing i with
  | nil => rfl
  | cons row rows ih =>
    rw [accountsOfRows,List.map_cons,accountsFrom,accountOfRow]
    cases tallyLedgerToAccount lib tenantId (mint i) now row.ledger with
    | error e => rfl
    | ok account =>
      have hrest := ih (i+1)
      dsimp only
      rw [hrest]
      cases accountsFrom lib tenantId mint now (i+1) (rows.map ChartRow.ledger) <;> rfl

/-- The chart is the one that `list_accounts` maps. -/
theorem chartAccounts_result (root : Element) :
    (chartAccounts lib tenantId mint now root).1=
      accountsFrom lib tenantId mint now 0 (ledgerRows root) := by
  rw [← parseLedgerList_ledgers]
  exact accountsOfRows_result 0 (parseLedgerList root).1

/-! ## What a ledger needs -/

/-- The ledger has a name that is not blank. -/
def IsNamed (element : Element) : Prop := ∃ name,ledgerName element=some name ∧ pyStrip name≠""

instance (element : Element) : Decidable (IsNamed element) :=
  match h : ledgerName element with
  | none => isFalse (by rintro ⟨name,hname,-⟩; cases h.symm.trans hname)
  | some name =>
    decidable_of_iff (pyStrip name≠"")
      ⟨fun hname => ⟨name,h,hname⟩,by
        rintro ⟨other,hother,hname⟩
        cases h.symm.trans hother
        exact hname⟩

/-- The account of a ledger. -/
def IsAccountOf (lib : TextLibrary) (element : Element) (account : LedgerAccount) : Prop :=
  ∃ name,ledgerName element=some name ∧ account.code=stripWhitespace name ∧
    account.name=stripWhitespace name ∧
    account.type=inferAccountType lib ((childText element "parent").map stripWhitespace)

/-- The chart comes back with one account for each ledger that is named, in order. -/
def Charted (lib : TextLibrary) (tenantId : EntityId) (mint : Nat → EntityId) (now : Time)
    (root : Element) : Prop :=
  ∃ accounts,(chartAccounts lib tenantId mint now root).1=.ok accounts ∧
    List.Forall₂ (IsAccountOf lib)
      ((iterByLocalName root "ledger").filter fun element => decide (IsNamed element)) accounts

/-- A symbol that passes the filter of the mapping is the code of a currency. -/
def SymbolFits (lib : TextLibrary) (symbol : Option String) : Prop :=
  ∀ text,symbol=some text → text≠"" →
    (lib.upper (pyStrip text)).toList.length=3 → lib.isalpha (lib.upper (pyStrip text))=true →
    isCurrencyCode (lib.upper (pyStrip text))=true

/-- No name that is given to a ledger is blank and no symbol of a ledger with a name
slips between the mapping and the model. -/
structure Regular (lib : TextLibrary) (root : Element) : Prop where
  named : ∀ element∈iterByLocalName root "ledger",∀ name,
    ledgerName element=some name → pyStrip name≠""
  symbols : ∀ element∈iterByLocalName root "ledger",(ledgerName element).isSome=true →
    SymbolFits lib ((childText element "currencysymbol").map stripWhitespace)

theorem accountCurrency_isOk {symbol : Option String} :
    (∃ currency,accountCurrency lib symbol=.ok currency) ↔ SymbolFits lib symbol := by
  cases symbol with
  | none =>
    refine iff_of_true ⟨none,rfl⟩ fun text htext => ?_
    cases htext
  | some text =>
    by_cases hempty : text=""
    · refine iff_of_true ⟨none,?_⟩ fun other hother hne => ?_
      · rw [hempty]
        rfl
      · cases hother
        exact absurd hempty hne
    · have hkept : (some text).filter (fun text => decide (text≠""))=some text := by
        rw [Option.filter_some,if_pos (decide_eq_true hempty)]
      have hfits : SymbolFits lib (some text) ↔
          ((lib.upper (pyStrip text)).toList.length=3 ∧
            lib.isalpha (lib.upper (pyStrip text))=true →
            isCurrencyCode (lib.upper (pyStrip text))=true) := by
        constructor
        · intro h hfilter
          exact h text rfl hempty hfilter.1 hfilter.2
        · intro h other hother _ hlength halpha
          cases hother
          exact h ⟨hlength,halpha⟩
      rw [hfits,accountCurrency,hkept]
      dsimp only
      split
      · rename_i hfilter
        split
        · rename_i hcode
          exact iff_of_true ⟨_,rfl⟩ fun _ => hcode
        · rename_i hcode
          refine iff_of_false ?_ fun h => hcode (h hfilter)
          rintro ⟨currency,hcurrency⟩
          cases hcurrency
      · rename_i hfilter
        exact iff_of_true ⟨none,rfl⟩ fun h => absurd h hfilter

/-- The mapping returns where every symbol of a ledger with a name fits. -/
theorem chartAccounts_isOk :
    (∃ accounts,(chartAccounts lib tenantId mint now root).1=.ok accounts) ↔
      ∀ element∈iterByLocalName root "ledger",(ledgerName element).isSome=true →
        SymbolFits lib ((childText element "currencysymbol").map stripWhitespace) := by
  rw [chartAccounts_result,accountsFrom_isOk]
  constructor
  · intro h element helement hname
    obtain ⟨name,hname⟩ := Option.isSome_iff_exists.mp hname
    refine accountCurrency_isOk.mp (h (ledgerRow element name) ?_)
    exact List.mem_filterMap.mpr ⟨element,helement,by rw [hname]; rfl⟩
  · intro h t ht
    obtain ⟨element,helement,hrow⟩ := List.mem_filterMap.mp ht
    obtain ⟨name,hname,rfl⟩ := Option.map_eq_some_iff.mp hrow
    exact accountCurrency_isOk.mpr (h element helement (by rw [hname]; rfl))

/-- The account of a row. -/
def IsAccountOfRow (lib : TextLibrary) (t : TallyLedger) (account : LedgerAccount) : Prop :=
  account.code=stripWhitespace t.name ∧ account.name=stripWhitespace t.name ∧
    account.type=inferAccountType lib t.parent

theorem accountsFrom_forall {i : Nat} {rows : List TallyLedger}
    (h : accountsFrom lib tenantId mint now i rows=.ok accounts) :
    List.Forall₂ (IsAccountOfRow lib) rows accounts := by
  induction rows generalizing i accounts with
  | nil =>
    cases h
    exact .nil
  | cons t rows ih =>
    obtain ⟨account,haccount,h⟩ := bind_ok.mp h
    obtain ⟨rest,hrest,h⟩ := bind_ok.mp h
    obtain ⟨currency,-,haccount⟩ := bind_ok.mp haccount
    cases h
    cases haccount
    exact .cons ⟨rfl,rfl,rfl⟩ (ih hrest)

/-- Accounts of the rows are accounts of the elements that the rows come from. -/
theorem isAccountOf_of_rows {elements : List Element}
    (h : List.Forall₂ (IsAccountOfRow lib)
      (elements.filterMap fun element => (ledgerName element).map (ledgerRow element)) accounts) :
    List.Forall₂ (IsAccountOf lib)
      (elements.filter fun element => (ledgerName element).isSome) accounts := by
  induction elements generalizing accounts with
  | nil =>
    cases h
    exact .nil
  | cons element elements ih =>
    cases hname : ledgerName element with
    | none =>
      rw [List.filterMap_cons_none (by rw [hname]; rfl)] at h
      rw [List.filter_cons_of_neg (by rw [hname]; simp)]
      exact ih h
    | some name =>
      rw [List.filterMap_cons_some (by rw [hname]; rfl)] at h
      rw [List.filter_cons_of_pos (by rw [hname]; rfl)]
      cases h with
      | cons hrow hrest =>
        have hstrip : stripWhitespace (ledgerRow element name).name=stripWhitespace name :=
          stripWhitespace_idem name
        rw [IsAccountOfRow,hstrip] at hrow
        exact .cons ⟨name,hname,hrow⟩ (ih hrest)

/-- The accounts answer the ledgers that have a name, blank or not. -/
theorem chartAccounts_forall (h : (chartAccounts lib tenantId mint now root).1=.ok accounts) :
    List.Forall₂ (IsAccountOf lib)
      ((iterByLocalName root "ledger").filter fun element => (ledgerName element).isSome)
      accounts := by
  rw [chartAccounts_result] at h
  exact isAccountOf_of_rows (accountsFrom_forall h)

/-- A chart comes back with one account for each named ledger, whatever its texts
are, exactly when no given name is blank and every symbol that passes the filter is
the code of a currency. -/
theorem charted_iff (lib : TextLibrary) (tenantId : EntityId) (mint : Nat → EntityId) (now : Time)
    (root : Element) : Charted lib tenantId mint now root ↔ Regular lib root := by
  constructor
  · rintro ⟨accounts,hok,haccounts⟩
    refine ⟨fun element helement name hname hblank => ?_,chartAccounts_isOk.mp ⟨accounts,hok⟩⟩
    -- Both lists of ledgers have the length of the accounts, and one is within the other.
    have hsub : List.Sublist
        ((iterByLocalName root "ledger").filter fun element => decide (IsNamed element))
        ((iterByLocalName root "ledger").filter fun element => (ledgerName element).isSome) := by
      refine List.monotone_filter_right _ fun element hnamed => ?_
      obtain ⟨name,hname,-⟩ := of_decide_eq_true hnamed
      rw [hname]
      rfl
    have hlength := haccounts.length_eq.trans (chartAccounts_forall hok).length_eq.symm
    have hsame := hsub.eq_of_length hlength
    have hmem : element∈(iterByLocalName root "ledger").filter
        fun element => decide (IsNamed element) := by
      rw [hsame]
      exact List.mem_filter.mpr ⟨helement,by rw [hname]; rfl⟩
    obtain ⟨other,hother,hnot⟩ := of_decide_eq_true (List.mem_filter.mp hmem).2
    cases hname.symm.trans hother
    exact hnot hblank
  · intro h
    obtain ⟨accounts,hok⟩ : ∃ accounts,(chartAccounts lib tenantId mint now root).1=.ok accounts :=
      chartAccounts_isOk.mpr h.symbols
    refine ⟨accounts,hok,?_⟩
    have hsame : ((iterByLocalName root "ledger").filter fun element => decide (IsNamed element))=
        (iterByLocalName root "ledger").filter fun element => (ledgerName element).isSome := by
      refine List.filter_congr fun element helement => ?_
      cases hname : ledgerName element with
      | none =>
        refine decide_eq_false ?_
        rintro ⟨name,hother,-⟩
        cases hname.symm.trans hother
      | some name => exact decide_eq_true ⟨name,hname,h.named element helement name hname⟩
    rw [hsame]
    exact chartAccounts_forall hok

/-! ## A ledger in Bulgarian money -/

/-- Small and capital letters of the alphabets of two markets. -/
def marketTexts : TextLibrary where
  lower := String.toLower
  upper := fun text => String.ofList (text.toList.map fun c =>
    if 0x430≤c.toNat ∧ c.toNat≤0x44F then Char.ofNat (c.toNat-0x20) else c.toUpper)
  isalpha := fun text => decide (text≠"") && text.toList.all fun c =>
    c.isAlpha || (0x410≤c.toNat && c.toNat≤0x44F)

/-- A chart with a cash ledger and a bank ledger whose symbol is given. -/
def bankChart (symbol : String) : Element :=
  holding "ENVELOPE"
    [.mk "LEDGER" [("NAME","Cash")] none [leaf "PARENT" "Cash-in-hand"],
     .mk "LEDGER" [] none [leaf "NAME" "Sofia Bank",leaf "OPENINGBALANCE" "1,800.00 Dr",
       leaf "CURRENCYSYMBOL" symbol]]

example : parseOpeningBalance marketTexts (some "1,800.00 Dr")=(.finite ⟨180000,-2⟩,[]) := by
  decide +kernel

example : (chartAccounts marketTexts "agency" (fun _ => "id") 0 (bankChart "Rs.")).2=
    [.noParent,.droppedCurrency "RS."] := by decide +kernel

/-- A symbol of three letters that are none of ASCII takes the whole chart down. -/
theorem cyrillic_symbol_raises :
    (chartAccounts marketTexts "agency" (fun _ => "id") 0 (bankChart "лев")).1=
      .error (.other "LedgerAccount.currency: string should match the pattern") ∧
    ¬Charted marketTexts "agency" (fun _ => "id") 0 (bankChart "лев") := by
  have hraises : (chartAccounts marketTexts "agency" (fun _ => "id") 0 (bankChart "лев")).1=
      .error (.other "LedgerAccount.currency: string should match the pattern") := by decide +kernel
  refine ⟨hraises,?_⟩
  rintro ⟨accounts,hok,-⟩
  cases hraises.symm.trans hok

end Voyagent.LedgerCharts
