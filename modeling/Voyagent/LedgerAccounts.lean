import Mathlib.Logic.Equiv.Nat
import Voyagent.TallyPosting

/-!
# Ledgers as accounts

The chart of accounts as the driver lists it, with the id each listing mints
for a ledger, and the resolver that leads a posted id back to the name of a
ledger.
-/

namespace Voyagent.LedgerAccounts

open RuntimeValues KeyedMap FallibleResults TallyVouchers TallyResponses TallyPosting
open TicketReconciliation (Currency)
open HafMapping (isCurrencyCode)

/-! ## Reading the answers of Tally -/

/-- `_iter_by_local_name`. -/
def iterByLocalName (root : Element) (name : String) : List Element :=
  (Element.iter root).filter fun element => decide (localName element.tag=name)

def childrenOf : Element → List Element
  | .mk _ _ _ children => children

def attributesOf : Element → List (String × String)
  | .mk _ attributes _ _ => attributes

/-- `_child_text_map`, read at one key: the first child of the name that has a text. -/
def childText (element : Element) (key : String) : Option String :=
  (childrenOf element).findSome? fun child =>
    if localName child.tag=key then
      (child.text.map pyStrip).filter fun text => decide (text≠"")
    else none

/-- `a or b` on optional texts. -/
def orText (a b : Option String) : Option String := (a.filter fun text => decide (text≠"")).or b

/-- `TallyCompanyInfo`; the model strips its texts. -/
structure TallyCompanyInfo where
  companyName : String
  booksFromDate : Option String
  currency : Option String

/-- `parse_ping_response`. -/
def parsePingResponse (xml : XmlLibrary) (body : List Char) : Except Failure TallyCompanyInfo := do
  let root ← parseXml xml body "parse_ping_response"
  match orText (firstText root "companyname") (firstText root "name") with
  | none =>
    throw (.of .validationFailed
      "parse_ping_response: could not locate a company name in response.")
  | some name =>
    return {
      companyName := stripWhitespace name
      booksFromDate := (orText (firstText root "booksfrom") (firstText root "startingfrom")).map
        stripWhitespace
      currency := (orText (firstText root "basecurrencysymbol")
        (firstText root "currencysymbol")).map stripWhitespace}

/-- `TallyLedger`, with the fields the mapping keeps; the model strips its texts. -/
structure TallyLedger where
  name : String
  parent : Option String
  currency : Option String
  deriving DecidableEq

/-- The name that Tally gives a ledger. -/
def ledgerName (element : Element) : Option String :=
  (orText (orText ((attributesOf element).lookup "NAME") ((attributesOf element).lookup "name"))
    (childText element "name")).filter fun name => decide (name≠"")

/-- The row of a ledger with a name. -/
def ledgerRow (element : Element) (name : String) : TallyLedger where
  name := stripWhitespace name
  parent := (childText element "parent").map stripWhitespace
  currency := (childText element "currencysymbol").map stripWhitespace

/-- `parse_ledger_list`, of the root; a ledger without a name is skipped. -/
def ledgerRows (root : Element) : List TallyLedger :=
  (iterByLocalName root "ledger").filterMap fun element =>
    (ledgerName element).map (ledgerRow element)

/-- The names of the ledgers in a chart, as Tally has them. -/
def chartNames (root : Element) : List String :=
  (iterByLocalName root "ledger").filterMap ledgerName

/-- The rows carry the names of the chart without the blanks around them. -/
theorem ledgerRows_names (root : Element) :
    (ledgerRows root).map TallyLedger.name=(chartNames root).map stripWhitespace := by
  unfold ledgerRows chartNames
  rw [List.map_filterMap,List.map_filterMap]
  refine List.filterMap_congr fun element _ => ?_
  cases ledgerName element <;> rfl

/-! ## The mapping -/

inductive AccountType where
  | asset | liability | equity | income | expense
  deriving DecidableEq

/-- `_PARENT_TO_TYPE`. -/
def parentToType : Table String AccountType := [
  ("cash-in-hand",.asset),
  ("bank accounts",.asset),
  ("bank ocaccounts",.asset),
  ("sundry debtors",.asset),
  ("fixed assets",.asset),
  ("investments",.asset),
  ("loans & advances (asset)",.asset),
  ("deposits (asset)",.asset),
  ("stock-in-hand",.asset),
  ("current assets",.asset),
  ("misc. expenses (asset)",.asset),
  ("sundry creditors",.liability),
  ("duties & taxes",.liability),
  ("loans (liability)",.liability),
  ("secured loans",.liability),
  ("unsecured loans",.liability),
  ("provisions",.liability),
  ("current liabilities",.liability),
  ("bank od a/c",.liability),
  ("suspense a/c",.liability),
  ("capital account",.equity),
  ("reserves & surplus",.equity),
  ("sales accounts",.income),
  ("direct incomes",.income),
  ("indirect incomes",.income),
  ("purchase accounts",.expense),
  ("direct expenses",.expense),
  ("indirect expenses",.expense)]

/-- The operations on texts that depend on tables of characters. -/
structure TextLibrary where
  lower : String → String
  upper : String → String
  isalpha : String → Bool

/-- `_infer_account_type`. -/
def inferAccountType (lib : TextLibrary) (parent : Option String) : AccountType :=
  match parent with
  | none => .expense
  | some parent => (get parentToType (lib.lower (pyStrip parent))).getD .expense

/-- A chart-of-accounts node; the name is its default text. -/
structure LedgerAccount where
  id : EntityId
  tenantId : EntityId
  code : String
  name : String
  type : AccountType
  currency : Option Currency
  isActive : Bool
  createdAt : Time
  updatedAt : Time
  deriving DecidableEq

/-- The currency of an account: a symbol that is no code is dropped, and three
letters that are no capitals of ASCII are refused by the model. -/
def accountCurrency (lib : TextLibrary) (currency : Option String) :
    Except Failure (Option Currency) :=
  match currency.filter fun text => decide (text≠"") with
  | none => .ok none
  | some text =>
    let code := lib.upper (pyStrip text)
    if code.toList.length=3 ∧ lib.isalpha code=true then
      if h : isCurrencyCode code=true then .ok (some ⟨code,h⟩)
      else .error (.other "LedgerAccount.currency: string should match the pattern")
    else .ok none

/-- `tally_ledger_to_account`, with the fresh id and the clock. The opening
balance is read for the log alone. -/
def tallyLedgerToAccount (lib : TextLibrary) (tenantId id : EntityId) (now : Time)
    (t : TallyLedger) : Except Failure LedgerAccount := do
  let currency ← accountCurrency lib t.currency
  return {
    id
    tenantId
    code := stripWhitespace t.name
    name := stripWhitespace t.name
    type := inferAccountType lib t.parent
    currency
    isActive := true
    createdAt := now
    updatedAt := now}

/-- The accounts of the rows, each under an id of its own. -/
def accountsFrom (lib : TextLibrary) (tenantId : EntityId) (mint : Nat → EntityId) (now : Time) :
    Nat → List TallyLedger → Except Failure (List LedgerAccount)
  | _,[] => .ok []
  | i,t::rows => do
    let account ← tallyLedgerToAccount lib tenantId (mint i) now t
    let accounts ← accountsFrom lib tenantId mint now (i+1) rows
    return account::accounts

/-! ## Listing the accounts -/

/-- What one call of `list_accounts` meets: the attempts of its two requests,
the ids it mints, by row, and the clock. -/
structure Occasion where
  ping : Nat → Exchange
  list : Nat → Exchange
  mint : Nat → EntityId
  now : Time

/-- The chart that a call reads, or what it raises before that. -/
def readChart (xml : XmlLibrary) (cfg : TallyConfig) (o : Occasion) : Except Failure Element := do
  let pingBody ← (postEnvelope cfg o.ping).result
  match parsePingResponse xml pingBody with
  | .ok _ =>
    let body ← (postEnvelope cfg o.list).result
    parseXml xml body "parse_ledger_list"
  | .error (.driver e) =>
    if e.kind=.validationFailed then throw (.driver (mapTallyError 200 pingBody none))
    else throw (.driver e)
  | .error e => throw e

/-- `list_accounts`. -/
def listAccounts (xml : XmlLibrary) (lib : TextLibrary) (cfg : TallyConfig) (tenantId : EntityId)
    (o : Occasion) : Except Failure (List LedgerAccount) := do
  let root ← readChart xml cfg o
  accountsFrom lib tenantId o.mint o.now 0 (ledgerRows root)

/-- An entry of the answer of `list_ledger_accounts`. -/
structure AccountSummary where
  id : EntityId
  code : String
  name : String
  type : AccountType
  deriving DecidableEq

def LedgerAccount.summary (a : LedgerAccount) : AccountSummary := ⟨a.id,a.code,a.name,a.type⟩

/-- `list_ledger_accounts`, of the accounts listed: how many there are, and the
first two hundred. -/
def listLedgerAccounts (accounts : List LedgerAccount) : Nat × List AccountSummary :=
  (accounts.length,(accounts.take 200).map LedgerAccount.summary)

/-- The resolver that knows the accounts of one listing. -/
def resolverOf (accounts : List LedgerAccount) (id : String) : Resolved :=
  match get (ofPairs (accounts.map fun a => (a.id,a.name))) id with
  | some name => .name name
  | none => .keyError

variable {xml : XmlLibrary} {lib : TextLibrary} {cfg : TallyConfig} {tenantId : EntityId}
  {mint : Nat → EntityId} {now : Time} {o o' : Occasion} {chart : Element}
  {accounts accounts' : List LedgerAccount}

/-! ## What a listing holds -/

/-- The answers of the two requests are those of a chart that can be mapped. -/
def Answered (xml : XmlLibrary) (lib : TextLibrary) (cfg : TallyConfig) (o : Occasion) : Prop :=
  ∃ root,readChart xml cfg o=.ok root ∧
    ∀ t∈ledgerRows root,∃ currency,accountCurrency lib t.currency=.ok currency

/-- The mapping gives up on a currency alone. -/
theorem accountsFrom_isOk {i : Nat} {rows : List TallyLedger} :
    (∃ accounts,accountsFrom lib tenantId mint now i rows=.ok accounts) ↔
      ∀ t∈rows,∃ currency,accountCurrency lib t.currency=.ok currency := by
  induction rows generalizing i with
  | nil => exact iff_of_true ⟨[],rfl⟩ fun t ht => nomatch ht
  | cons t rows ih =>
    rw [List.forall_mem_cons,← ih (i:=i+1)]
    constructor
    · rintro ⟨accounts,h⟩
      obtain ⟨account,haccount,h⟩ := bind_ok.mp h
      obtain ⟨rest,hrest,-⟩ := bind_ok.mp h
      obtain ⟨currency,hcurrency,-⟩ := bind_ok.mp haccount
      exact ⟨⟨currency,hcurrency⟩,rest,hrest⟩
    · rintro ⟨⟨currency,hcurrency⟩,rest,hrest⟩
      exact ⟨_,bind_ok.mpr ⟨_,bind_ok.mpr ⟨currency,hcurrency,rfl⟩,bind_ok.mpr ⟨rest,hrest,rfl⟩⟩⟩

theorem listAccounts_isOk :
    (∃ accounts,listAccounts xml lib cfg tenantId o=.ok accounts) ↔ Answered xml lib cfg o := by
  constructor
  · rintro ⟨accounts,h⟩
    obtain ⟨root,hroot,h⟩ := bind_ok.mp h
    exact ⟨root,hroot,accountsFrom_isOk.mp ⟨accounts,h⟩⟩
  · rintro ⟨root,hroot,hrows⟩
    obtain ⟨accounts,h⟩ := accountsFrom_isOk.mpr hrows
    exact ⟨accounts,bind_ok.mpr ⟨root,hroot,h⟩⟩

theorem accountsFrom_ok {i : Nat} {rows : List TallyLedger}
    (h : accountsFrom lib tenantId mint now i rows=.ok accounts) (j : Nat) :
    (accounts[j]?).map (fun a => (a.id,a.name))=
      (rows[j]?).map fun t => (mint (i+j),stripWhitespace t.name) := by
  induction rows generalizing i j accounts with
  | nil =>
    cases h
    rfl
  | cons t rows ih =>
    obtain ⟨account,haccount,h⟩ := bind_ok.mp h
    obtain ⟨rest,hrest,h⟩ := bind_ok.mp h
    obtain ⟨currency,-,haccount⟩ := bind_ok.mp haccount
    cases h
    cases haccount
    cases j with
    | zero => rfl
    | succ j =>
      have hrow := ih hrest j
      rw [Nat.add_right_comm] at hrow
      exact hrow

section

variable (h : listAccounts xml lib cfg tenantId o=.ok accounts)
variable (hchart : ∀ root,readChart xml cfg o=.ok root → root=chart)

include h hchart

/-- The account at a place has the id minted for it and the name of its ledger. -/
theorem listAccounts_ok (i : Nat) :
    (accounts[i]?).map (fun a => (a.id,a.name))=
      ((chartNames chart)[i]?).map fun name => (o.mint i,stripWhitespace name) := by
  obtain ⟨root,hroot,h⟩ := bind_ok.mp h
  cases hchart root hroot
  have hrows := accountsFrom_ok h i
  have hnames : ((ledgerRows chart)[i]?).map TallyLedger.name=
      ((chartNames chart)[i]?).map stripWhitespace := by
    rw [← List.getElem?_map,← List.getElem?_map,ledgerRows_names]
  rw [hrows,Nat.zero_add]
  cases hrow : (ledgerRows chart)[i]? with
  | none =>
    rw [hrow] at hnames
    rw [Option.map_eq_none_iff.mp hnames.symm]
    rfl
  | some t =>
    rw [hrow] at hnames
    obtain ⟨name,hname,hsame⟩ := Option.map_eq_some_iff.mp hnames.symm
    rw [hname,Option.map_some,Option.map_some,← hsame,stripWhitespace_idem]

/-- What a listing holds at a place. -/
theorem listed_at {i : Nat} {a : LedgerAccount}
    (ha : accounts[i]?=some a) :
    ∃ name,(chartNames chart)[i]?=some name ∧ a.id=o.mint i ∧ a.name=stripWhitespace name := by
  have hrow := listAccounts_ok h hchart i
  rw [ha] at hrow
  obtain ⟨name,hname,hpair⟩ := Option.map_eq_some_iff.mp hrow.symm
  obtain ⟨hid,hstrip⟩ := Prod.mk.inj hpair
  exact ⟨name,hname,hid.symm,hstrip.symm⟩

/-- A listing holds an account for every ledger of the chart. -/
theorem exists_listed {i : Nat} {name : String}
    (hname : (chartNames chart)[i]?=some name) :
    ∃ a,accounts[i]?=some a ∧ a.id=o.mint i ∧ a.name=stripWhitespace name := by
  have hrow := listAccounts_ok h hchart i
  rw [hname] at hrow
  obtain ⟨a,ha,hpair⟩ := Option.map_eq_some_iff.mp hrow
  obtain ⟨hid,hstrip⟩ := Prod.mk.inj hpair
  exact ⟨a,ha,hid,hstrip⟩

end

/-- An id of a listing leads to the name it was listed with. -/
theorem resolverOf_listed (hids : (accounts.map LedgerAccount.id).Nodup) {a : LedgerAccount}
    (ha : a∈accounts) : resolverOf accounts a.id=.name a.name := by
  have hkeys : ((accounts.map fun a => (a.id,a.name)).map Prod.fst).Nodup := by
    rw [List.map_map]
    exact hids
  have hget : get (accounts.map fun a => (a.id,a.name)) a.id=some a.name :=
    (mem_iff_get hkeys).mp (List.mem_map_of_mem ha)
  unfold resolverOf
  rw [ofPairs_of_nodup hkeys,hget]

/-! ## The ledgers a voucher names -/

/-- The ledger that an element posts to. -/
def postedTo : Element → Option String
  | .mk tag _ text _ => if tag="LEDGERNAME" then text else none

@[simp] theorem postedTo_mk (tag : String) (attributes : List (String × String))
    (text : Option String) (children : List Element) :
    postedTo (.mk tag attributes text children)=if tag="LEDGERNAME" then text else none := rfl

/-- The ledgers that an envelope posts to, in order. -/
def ledgerNames (root : Element) : List String := (Element.iter root).filterMap postedTo

theorem ledgerNames_entries (entries : List TallyLedgerEntry) :
    (iterAll (entries.map entryElement)).filterMap postedTo=
      entries.map TallyLedgerEntry.ledgerName := by
  induction entries with
  | nil => rfl
  | cons entry entries ih =>
    rw [List.map_cons,iterAll,List.filterMap_append,ih]
    rfl

/-- The envelope of a journal posts to the ledgers of its entries. -/
theorem ledgerNames_journal (entry : JournalEntry) (company : String)
    (entries : List TallyLedgerEntry) :
    ledgerNames (importEnvelope
        (voucherElement "Journal" entry.entryDate entry.narration entries none none) company)=
      entries.map TallyLedgerEntry.ledgerName := by
  simp [ledgerNames,importEnvelope,voucherElement,holding,leaf,Element.iter,iterAll,
    ledgerNames_entries]

theorem journalLine_named {resolver : Option (String → Resolved)} {line : JournalLine} {name : String} :
    (∃ row,journalLineToTallyEntry resolver line=.ok row ∧ row.ledgerName=name) ↔
      resolveLedgerName resolver line.accountId=.ok name := by
  constructor
  · rintro ⟨row,h,rfl⟩
    obtain ⟨name,hname,h⟩ := bind_ok.mp h
    cases hside : line.side with
    | debit money | credit money =>
      rw [hside] at h
      cases h
      exact hname
  · intro hname
    cases hside : line.side with
    | debit money | credit money => exact ⟨_,bind_ok.mpr ⟨name,hname,by rw [hside]; rfl⟩,rfl⟩

theorem lines_named {resolver : Option (String → Resolved)} {lines : List JournalLine}
    {names : List String} :
    List.Forall₂ (fun line name => resolveLedgerName resolver line.accountId=.ok name) lines names ↔
      ∃ rows,lines.mapM (journalLineToTallyEntry resolver)=.ok rows ∧
        rows.map TallyLedgerEntry.ledgerName=names := by
  simp only [mapM_ok,← journalLine_named]
  constructor
  · intro h
    induction h with
    | nil => exact ⟨[],.nil,rfl⟩
    | cons hline _ ih =>
      obtain ⟨row,hrow,hname⟩ := hline
      obtain ⟨rows,hrows,hnames⟩ := ih
      exact ⟨row::rows,.cons hrow hrows,by rw [List.map_cons,hname,hnames]⟩
  · rintro ⟨rows,hrows,rfl⟩
    induction hrows with
    | nil => exact .nil
    | cons hrow _ ih => exact .cons ⟨_,hrow,rfl⟩ ih

/-- A journal reaches ledgers if the resolver names them, line by line. -/
theorem journal_names {resolver : Option (String → Resolved)} {entry : JournalEntry}
    {company : String} {names : List String} :
    (∃ root,journalEntryToTallyXmlBody entry company resolver=.ok root ∧ ledgerNames root=names) ↔
      List.Forall₂ (fun line name => resolveLedgerName resolver line.accountId=.ok name)
        entry.lines names := by
  rw [lines_named]
  constructor
  · rintro ⟨root,h,rfl⟩
    obtain ⟨rows,hmap,rfl⟩ := bind_pure_ok.mp h
    exact ⟨rows,hmap,(ledgerNames_journal entry company rows).symm⟩
  · rintro ⟨rows,hmap,rfl⟩
    exact ⟨_,bind_pure_ok.mpr ⟨rows,hmap,rfl⟩,ledgerNames_journal entry company rows⟩

/-! ## Stable and postable ids -/

/-- The account is the one listed for the ledger of a name. -/
def IsListed (chart : Element) (accounts : List LedgerAccount) (id : EntityId) (name : String) : Prop :=
  ∃ (i : Nat) (a : LedgerAccount),accounts[i]?=some a ∧ a.id=id ∧ (chartNames chart)[i]?=some name

/-- Of the lists of accounts that came back: a ledger has the same id in all of
them, ledgers have different ids, and with the resolver of any list a journal
to listed ids reaches the ledgers these were listed for. -/
structure Usable (chart : Element) (results : List (List LedgerAccount)) : Prop where
  same : ∀ r∈results,∀ r'∈results,∀ (i : Nat) (a a' : LedgerAccount),r[i]?=some a → r'[i]?=some a' → a.id=a'.id
  apart : ∀ r∈results,∀ r'∈results,∀ (i j : Nat) (a a' : LedgerAccount),i≠j →
    r[i]?=some a → r'[j]?=some a' → a.id≠a'.id
  reached : ∀ r∈results,∀ d : TallyDriver,d.ledgerNameResolver=some (resolverOf r) →
    ∀ entry names,List.Forall₂ (fun (line : JournalLine) name =>
      ∃ r'∈results,IsListed chart r' line.accountId name) entry.lines names →
    ∃ root,envelopeOf d (.journal entry)=.ok root ∧ ledgerNames root=names

/-- What the tool shows is listed. -/
theorem shown_listed (h : listAccounts xml lib cfg tenantId o=.ok accounts)
    (hchart : ∀ root,readChart xml cfg o=.ok root → root=chart) {s : AccountSummary}
    (hs : s∈(listLedgerAccounts accounts).2) : ∃ name,IsListed chart accounts s.id name := by
  obtain ⟨a,ha,rfl⟩ := List.mem_map.mp hs
  obtain ⟨i,hi⟩ := List.mem_iff_getElem?.mp (List.mem_of_mem_take ha)
  obtain ⟨name,hname,-⟩ := listed_at h hchart hi
  exact ⟨name,i,a,hi,rfl,hname⟩

/-- The lists that a sequence of calls returns. -/
def results (xml : XmlLibrary) (lib : TextLibrary) (cfg : TallyConfig) (tenantId : EntityId)
    (calls : List Occasion) : List (List LedgerAccount) :=
  calls.filterMap fun o => (listAccounts xml lib cfg tenantId o).toOption

/-- The name can be posted to as it was listed. -/
def Bare (name : String) : Prop := stripWhitespace name=name ∧ pyStrip name≠""

instance (name : String) : Decidable (Bare name) := by
  unfold Bare
  infer_instance

/-- At most one of the calls is answered, unless the chart is empty, and the
names of a chart that is listed are bare. -/
structure ListedOnce (xml : XmlLibrary) (lib : TextLibrary) (cfg : TallyConfig) (chart : Element)
    (calls : List Occasion) : Prop where
  once : chartNames chart=[] ∨ ∀ (k k' : Nat) o o',calls[k]?=some o → calls[k']?=some o' →
    Answered xml lib cfg o → Answered xml lib cfg o' → k=k'
  bare : ∀ o∈calls,Answered xml lib cfg o → ∀ name∈chartNames chart,Bare name

/-- No id is minted twice. -/
def Fresh (calls : List Occasion) : Prop :=
  ∀ (k k' : Nat) o o' i i',calls[k]?=some o → calls[k']?=some o' → o.mint i=o'.mint i' → k=k' ∧ i=i'

theorem mem_results {calls : List Occasion} {r : List LedgerAccount} :
    r∈results xml lib cfg tenantId calls ↔
      ∃ o∈calls,listAccounts xml lib cfg tenantId o=.ok r := by
  unfold results
  rw [List.mem_filterMap]
  refine exists_congr fun o => and_congr_right fun _ => ?_
  cases listAccounts xml lib cfg tenantId o <;> simp [Except.toOption]

/-- The ids of one listing are apart. -/
theorem listed_nodup (h : listAccounts xml lib cfg tenantId o=.ok accounts)
    (hchart : ∀ root,readChart xml cfg o=.ok root → root=chart)
    (hmint : Function.Injective o.mint) : (accounts.map LedgerAccount.id).Nodup := by
  refine List.nodup_iff_injective_getElem.mpr fun i j hij => ?_
  have hmapped : ∀ k : Fin (accounts.map LedgerAccount.id).length,
      (accounts.map LedgerAccount.id)[k]=o.mint k := by
    intro k
    have hk : k.val<accounts.length := by simpa using k.isLt
    obtain ⟨name,-,hid,-⟩ := listed_at h hchart (List.getElem?_eq_getElem hk)
    simpa using hid
  have hsame : o.mint i=o.mint j := by rw [← hmapped i,← hmapped j]; exact hij
  exact Fin.ext (hmint hsame)

theorem resolveLedgerName_ok {resolver : String → Resolved} {account name : String} :
    resolveLedgerName (some resolver) account=.ok name ↔
      resolver account=.name name ∧ pyStrip name≠"" := by
  cases hresolved : resolver account with
  | keyError | raised | noText => simp [resolveLedgerName,hresolved]
  | name text =>
    by_cases hblank : pyStrip text=""
    · have hother : text=name → pyStrip name="" := by
        rintro rfl
        exact hblank
      simpa [resolveLedgerName,hresolved,hblank] using hother
    · have hsame : text=name → pyStrip name≠"" := by
        rintro rfl
        exact hblank
      simpa [resolveLedgerName,hresolved,hblank] using hsame

section Calls

variable {calls : List Occasion}
  (hchart : ∀ o∈calls,∀ root,readChart xml cfg o=.ok root → root=chart) (hfresh : Fresh calls)

include hfresh in
theorem mint_injective {o : Occasion} (ho : o∈calls) : Function.Injective o.mint := by
  intro i i' hsame
  obtain ⟨k,hk⟩ := List.mem_iff_getElem?.mp ho
  exact (hfresh k k o o i i' hk hk hsame).2

include hchart in
/-- A list that holds an account comes from a chart with a ledger. -/
theorem chart_nonempty {r : List LedgerAccount} (hr : r∈results xml lib cfg tenantId calls)
    {i : Nat} {a : LedgerAccount} (ha : r[i]?=some a) : chartNames chart≠[] := by
  intro hempty
  obtain ⟨o,ho,hlist⟩ := mem_results.mp hr
  obtain ⟨name,hname,-⟩ := listed_at hlist (hchart o ho) ha
  rw [hempty] at hname
  cases hname

/-- Where a chart is listed once, the calls return one list. -/
theorem results_single (h : ListedOnce xml lib cfg chart calls) (hne : chartNames chart≠[])
    {r r' : List LedgerAccount} (hr : r∈results xml lib cfg tenantId calls)
    (hr' : r'∈results xml lib cfg tenantId calls) : r=r' := by
  obtain ⟨o,ho,hlist⟩ := mem_results.mp hr
  obtain ⟨o',ho',hlist'⟩ := mem_results.mp hr'
  obtain ⟨k,hk⟩ := List.mem_iff_getElem?.mp ho
  obtain ⟨k',hk'⟩ := List.mem_iff_getElem?.mp ho'
  have hanswered := listAccounts_isOk.mp ⟨r,hlist⟩
  have hanswered' := listAccounts_isOk.mp ⟨r',hlist'⟩
  have hplace := (h.once.resolve_left hne) k k' o o' hk hk' hanswered hanswered'
  subst hplace
  cases hk.symm.trans hk'
  exact Except.ok.inj (hlist.symm.trans hlist')

include hchart hfresh in
/-- Two calls that list the same ledger give it two ids. -/
theorem Usable.once (h : Usable chart (results xml lib cfg tenantId calls)) {k k' : Nat}
    {o o' : Occasion} (hk : calls[k]?=some o) (hk' : calls[k']?=some o')
    (ho : Answered xml lib cfg o) (ho' : Answered xml lib cfg o') (hne : chartNames chart≠[]) :
    k=k' := by
  obtain ⟨name,hname⟩ := List.exists_mem_of_ne_nil _ hne
  obtain ⟨i,hi⟩ := List.mem_iff_getElem?.mp hname
  have hmem := List.mem_of_getElem? hk
  have hmem' := List.mem_of_getElem? hk'
  obtain ⟨r,hr⟩ : ∃ r,listAccounts xml lib cfg tenantId o=.ok r := listAccounts_isOk.mpr ho
  obtain ⟨r',hr'⟩ : ∃ r,listAccounts xml lib cfg tenantId o'=.ok r := listAccounts_isOk.mpr ho'
  obtain ⟨a,ha,hid,-⟩ := exists_listed hr (hchart o hmem) hi
  obtain ⟨a',ha',hid',-⟩ := exists_listed hr' (hchart o' hmem') hi
  have hsame := h.same r (mem_results.mpr ⟨o,hmem,hr⟩) r' (mem_results.mpr ⟨o',hmem',hr'⟩) i a a' ha ha'
  rw [hid,hid'] at hsame
  exact (hfresh k k' o o' i i hk hk' hsame).1

theorem firstOfApril : CalendarDates.IsDate 2025 4 1 := by decide

/-- A journal with both sides on one account. -/
def bothSides (account : EntityId) : JournalEntry where
  entryDate := ⟨2025,4,1,firstOfApril⟩
  narration := "Transfer"
  lines := [⟨account,.debit (rupees ⟨100,-2⟩)⟩,⟨account,.credit (rupees ⟨100,-2⟩)⟩]

include hchart hfresh in
/-- A name that the mapping strips is not reached by a journal. -/
theorem Usable.bare (h : Usable chart (results xml lib cfg tenantId calls)) {o : Occasion}
    (ho : o∈calls) (hanswered : Answered xml lib cfg o) {name : String}
    (hname : name∈chartNames chart) : Bare name := by
  obtain ⟨i,hi⟩ := List.mem_iff_getElem?.mp hname
  obtain ⟨r,hr⟩ : ∃ r,listAccounts xml lib cfg tenantId o=.ok r := listAccounts_isOk.mpr hanswered
  obtain ⟨a,ha,-,hstrip⟩ := exists_listed hr (hchart o ho) hi
  have hmem := mem_results.mpr ⟨o,ho,hr⟩
  have hlisted : IsListed chart r a.id name := ⟨i,a,ha,rfl,hi⟩
  obtain ⟨root,hroot,hnames⟩ := h.reached r hmem ⟨cfg,some (resolverOf r),[]⟩ rfl (bothSides a.id)
    [name,name] (.cons ⟨r,hmem,hlisted⟩ (.cons ⟨r,hmem,hlisted⟩ .nil))
  have hresolved := (List.forall₂_cons.mp (journal_names.mp ⟨root,hroot,hnames⟩)).1
  obtain ⟨hname',hblank⟩ := resolveLedgerName_ok.mp hresolved
  have hids := listed_nodup hr (hchart o ho) (mint_injective hfresh ho)
  rw [resolverOf_listed hids (List.mem_of_getElem? ha),hstrip] at hname'
  exact ⟨Resolved.name.inj hname',hblank⟩

include hchart hfresh in
theorem ListedOnce.usable (h : ListedOnce xml lib cfg chart calls) :
    Usable chart (results xml lib cfg tenantId calls) := by
  refine ⟨fun r hr r' hr' i a a' ha ha' => ?_,fun r hr r' hr' i j a a' hij ha ha' => ?_,
    fun r hr d hd entry names hlines => ?_⟩
  · obtain rfl := results_single h (chart_nonempty hchart hr ha) hr hr'
    cases ha.symm.trans ha'
    rfl
  · obtain rfl := results_single h (chart_nonempty hchart hr ha) hr hr'
    obtain ⟨o,ho,hlist⟩ := mem_results.mp hr
    obtain ⟨name,-,hid,-⟩ := listed_at hlist (hchart o ho) ha
    obtain ⟨name',-,hid',-⟩ := listed_at hlist (hchart o ho) ha'
    rw [hid,hid']
    exact fun hsame => hij (mint_injective hfresh ho hsame)
  · have hresolved : List.Forall₂ (fun (line : JournalLine) name =>
        resolveLedgerName (some (resolverOf r)) line.accountId=.ok name) entry.lines names := by
      refine hlines.imp fun line name => ?_
      rintro ⟨r',hr',i,a,ha,hid,hname⟩
      obtain rfl := results_single h (chart_nonempty hchart hr' ha) hr hr'
      obtain ⟨o,ho,hlist⟩ := mem_results.mp hr
      obtain ⟨name',hname',-,hstrip⟩ := listed_at hlist (hchart o ho) ha
      cases hname.symm.trans hname'
      have hanswered := listAccounts_isOk.mp ⟨r,hlist⟩
      obtain ⟨hbare,hblank⟩ := h.bare o ho hanswered name (List.mem_of_getElem? hname)
      have hids := listed_nodup hlist (hchart o ho) (mint_injective hfresh ho)
      rw [← hid]
      refine resolveLedgerName_ok.mpr ⟨?_,hblank⟩
      rw [resolverOf_listed hids (List.mem_of_getElem? ha),hstrip,hbare]
    have hposts : ∃ root,journalEntryToTallyXmlBody entry d.config.companyName
        (some (resolverOf r))=.ok root ∧ ledgerNames root=names := journal_names.mpr hresolved
    obtain ⟨root,hroot,hnames⟩ := hposts
    exact ⟨root,bind_ok.mpr ⟨resolverOf r,by rw [requireResolver,hd],hroot⟩,hnames⟩

end Calls

/-- The ids of a chart are stable and can be posted to, whatever the sequence of
calls, if and only if it is listed once, unless it is empty, under names that
are bare. -/
theorem accounts_usable_iff (xml : XmlLibrary) (lib : TextLibrary) (cfg : TallyConfig)
    (tenantId : EntityId) (chart : Element) (calls : List Occasion)
    (hchart : ∀ o∈calls,∀ root,readChart xml cfg o=.ok root → root=chart) (hfresh : Fresh calls) :
    Usable chart (results xml lib cfg tenantId calls) ↔ ListedOnce xml lib cfg chart calls := by
  constructor
  · intro h
    refine ⟨or_iff_not_imp_left.mpr fun hne k k' o o' hk hk' ho ho' => ?_,
      fun o ho hanswered name hname => h.bare hchart hfresh ho hanswered hname⟩
    exact h.once hchart hfresh hk hk' ho ho' hne
  · exact ListedOnce.usable hchart hfresh

/-! ## A chart with two ledgers -/

/-- The chart of a small desk; its root answers the ping as well. -/
def deskChart : Element :=
  holding "ENVELOPE"
    [leaf "COMPANYNAME" "Acme Travels",
     .mk "LEDGER" [("NAME","Cash")] none [leaf "PARENT" "Cash-in-hand"],
     .mk "LEDGER" [("NAME","Sales - Domestic")] none [leaf "PARENT" "Sales Accounts"]]

def chartXml : XmlLibrary where
  tostring := fun _ => .ok "<ENVELOPE/>".toList
  fromstring := fun _ => .ok (some deskChart)

def asciiTexts : TextLibrary where
  lower := String.toLower
  upper := String.toUpper
  isalpha := fun text => text.toList.all Char.isAlpha

/-- A call that is answered at the first attempt, with ids of its own. -/
def deskCall (k : Nat) : Occasion where
  ping := fun _ => ⟨false,.response 200 "<ENVELOPE/>".toList⟩
  list := fun _ => ⟨false,.response 200 "<ENVELOPE/>".toList⟩
  mint := fun i => String.ofList (List.replicate (Nat.pair k i+1) 'i')
  now := 0

def deskCalls (n : Nat) : List Occasion := (List.range n).map deskCall

theorem deskCalls_fresh (n : Nat) : Fresh (deskCalls n) := by
  have hplace : ∀ (k : Nat) o,(deskCalls n)[k]?=some o → o=deskCall k := by
    intro k o hk
    rw [deskCalls,List.getElem?_map] at hk
    obtain ⟨k',hk',rfl⟩ := Option.map_eq_some_iff.mp hk
    rw [(List.getElem?_eq_some_iff.mp hk').2.symm,List.getElem_range]
  intro k k' o o' i i' hk hk' hsame
  rw [hplace k o hk,hplace k' o' hk'] at hsame
  have hlength := congrArg List.length (String.ofList_injective hsame)
  simp only [List.length_replicate,Nat.add_right_cancel_iff] at hlength
  exact Nat.pair_eq_pair.mp hlength

/-- Whatever a call reads is the chart of the desk. -/
theorem deskChart_read {cfg : TallyConfig} {o : Occasion} {root : Element}
    (h : readChart chartXml cfg o=.ok root) : root=deskChart := by
  have hparse : ∀ body,parseXml chartXml body "parse_ledger_list"=.ok root → root=deskChart := by
    intro body hbody
    unfold parseXml at hbody
    split at hbody <;> cases hbody
    rfl
  obtain ⟨pingBody,-,h⟩ := bind_ok.mp h
  split at h
  · obtain ⟨body,-,hbody⟩ := bind_ok.mp h
    exact hparse body hbody
  · split at h <;> cases h
  · cases h

def deskConfig : TallyConfig := {companyName := "Acme Travels"}

/-- The ids of the lists that the calls return. -/
def listedIds (n : Nat) : List (List EntityId) :=
  (results chartXml asciiTexts deskConfig "agency" (deskCalls n)).map (·.map LedgerAccount.id)

theorem accounts_usable_iff_desk :
    Usable deskChart (results chartXml asciiTexts deskConfig "agency" (deskCalls 1)) ∧
      listedIds 1=[["i","ii"]] := by
  have honce : ListedOnce chartXml asciiTexts deskConfig deskChart (deskCalls 1) := by
    refine ⟨.inr fun k k' o o' hk hk' _ _ => ?_,fun _ _ _ => by decide +kernel⟩
    have hlt := (List.getElem?_eq_some_iff.mp hk).1
    have hlt' := (List.getElem?_eq_some_iff.mp hk').1
    simp only [deskCalls,List.length_map,List.length_range] at hlt hlt'
    omega
  exact ⟨(accounts_usable_iff chartXml asciiTexts deskConfig "agency" deskChart (deskCalls 1)
    (fun _ _ _ => deskChart_read) (deskCalls_fresh 1)).mpr honce,by decide +kernel⟩

/-- The chart is listed twice: the cash ledger has another id the second time. -/
theorem cash_listed_under_two_ids :
    listedIds 2=[["i","ii"],["iii","iiii"]] ∧
      ¬Usable deskChart (results chartXml asciiTexts deskConfig "agency" (deskCalls 2)) := by
  have hids : listedIds 2=[["i","ii"],["iii","iiii"]] := by decide +kernel
  refine ⟨hids,fun h => ?_⟩
  obtain ⟨first,rest,hresults,hfirst,hrest⟩ := List.map_eq_cons_iff.mp hids
  obtain ⟨second,_,rfl,hsecond,-⟩ := List.map_eq_cons_iff.mp hrest
  obtain ⟨a,as,rfl,ha,-⟩ := List.map_eq_cons_iff.mp hfirst
  obtain ⟨a',as',rfl,ha',-⟩ := List.map_eq_cons_iff.mp hsecond
  rw [hresults] at h
  have hsame := h.same (a::as) (by simp) (a'::as') (by simp) 0 a a' rfl rfl
  rw [ha,ha'] at hsame
  exact absurd hsame (by decide)

end Voyagent.LedgerAccounts
