import Voyagent.HafReports

/-!
# The exceptions of a statement

What leaves the parser and the mapping of a statement. The parser turns the
exceptions of the built-ins it calls into the driver's. Nothing does so for the
canonical models and the calendar, to which the mapping hands a header whose
country, currency and dates the parser has not compared with anything.
-/

namespace Voyagent.HafExceptions

open FallibleResults RuntimeValues PythonNumbers CalendarDates HafRecords HafAcceptance HafMapping
  HafControlTotals HafReports
open HafParser (strip crlfToLf rawLines linesOf takeLines slice textAt dateAt recordCode parseBfh01)

/-- The exceptions in play. -/
inductive Exc where
  /-- The driver's. -/
  | validationFailed (e : ValidationFailedError)
  /-- A canonical model refuses a field. -/
  | validationError (model field : String)
  | valueError
  | unicodeDecodeError
  | indexError
  | invalidOperation
  | overflowError
  deriving DecidableEq

abbrev Raising (α : Type) : Type := Except Exc α

/-- `except ValueError` takes its subclasses, too. -/
def isValueError : Exc → Bool
  | .valueError | .unicodeDecodeError | .validationError _ _ => true
  | _ => false

/-- A `try` whose handler raises the driver's error. -/
def catching {α : Type} (caught : Exc → Bool) (e : ValidationFailedError) : Raising α → Raising α
  | .ok a => .ok a
  | .error exc => if caught exc then .error (.validationFailed e) else .error exc

/-! ## Built-ins -/

/-- What there may be, or the exception of the built-in. -/
def orRaise {α : Type} (exc : Exc) : Option α → Raising α
  | some a => .ok a
  | none => .error exc

/-- `content.decode("utf-8", errors="strict")`. -/
def decode (content : ByteArray) : Raising (List Char) :=
  orRaise .unicodeDecodeError (content.utf8Decode?.map fun cs => cs.toList)

/-- `int(s)`. -/
def int (s : String) : Raising Int := orRaise .valueError (intOfText s)

/-- `int(s)` of a text of digits. -/
def intOfDigits (cs : List Char) : Raising Nat := orRaise .valueError (natOfDigits cs)

/-- `date(year, month, day)`. -/
def date (year month day : Nat) : Raising CalendarDate := orRaise .valueError (dateOf year month day)

/-- `Decimal(s)` of a text of digits, in units of the last. -/
def decimal (cs : List Char) : Raising Nat := orRaise .invalidOperation (natOfDigits cs)

/-- `lines[-1]`. -/
def lastOf (lines : List (List Char)) : Raising (List Char) := orRaise .indexError lines.getLast?

/-! ## The parser -/

/-- `_parse_int`. -/
def parseInt (raw : List Char) (n : Nat) (field : String) : Raising Int :=
  if strip raw=[] then .error (.validationFailed (.emptyInteger n field))
  else catching isValueError (.notInteger n field (String.ofList raw)) (int (String.ofList (strip raw)))

/-- `_parse_date`. -/
def parseDate (raw : List Char) (n : Nat) (field : String) : Raising CalendarDate :=
  let s := strip raw
  if s.length≠8 ∨ isDigits s=false then
    .error (.validationFailed (.dateShape n field (String.ofList raw)))
  else
    catching isValueError (.noSuchDate n field (String.ofList raw)) do
      let year ← intOfDigits (s.take 4)
      let month ← intOfDigits ((s.drop 4).take 2)
      let day ← intOfDigits ((s.drop 6).take 2)
      date year month day

/-- `_parse_amount`. -/
def parseAmount (magnitude sign : List Char) (n : Nat) (field : String) : Raising Int :=
  if isDigits (strip magnitude)=false then
    .error (.validationFailed (.magnitudeNotDigits n field (String.ofList magnitude)))
  else if ¬(strip sign=[] ∨ strip sign=['+'] ∨ strip sign=['-']) then
    .error (.validationFailed (.badSign n field (String.ofList sign)))
  else do
    let cents ← catching (fun exc => decide (exc=.invalidOperation))
      (.magnitudeNotDecimal n field (String.ofList magnitude)) (decimal (strip magnitude))
    return if strip sign=['-'] then -(cents : Int) else cents

/-- The raw lines of a text; a final line break opens no further line. -/
def splitLines (text : List Char) : Raising (List (List Char)) :=
  let lines := (crlfToLf text).splitOn '\n'
  if lines=[] then .ok lines
  else do
    let last ← lastOf lines
    return if last=[] then lines.dropLast else lines

/-- `parse_haf`. Beyond the decoding and the split only field helpers raise. -/
def parseHaf (content : ByteArray) (sourceRef : String) : Raising HAFFile := do
  let text ← catching (fun exc => decide (exc=.unicodeDecodeError)) .notUtf8 (decode content)
  let lines ← splitLines text
  let st ← (takeLines {} 1 lines).mapError .validationFailed
  match st.header,st.trailer with
  | none,_ => .error (.validationFailed .missingHeader)
  | some _,none => .error (.validationFailed .missingTrailer)
  | some header,some trailer => return ⟨header,st.transactions,trailer,sourceRef⟩

/-! ## The parser raises the driver's error alone -/

section Parser

variable (raw magnitude sign : List Char) (n : Nat) (field : String)

theorem parseInt_eq :
    parseInt raw n field=(HafParser.parseInt raw n field).mapError .validationFailed := by
  unfold parseInt HafParser.parseInt int
  split
  · rfl
  · cases intOfText (String.ofList (strip raw)) <;> rfl

theorem parseDate_eq :
    parseDate raw n field=(HafParser.parseDate raw n field).mapError .validationFailed := by
  unfold parseDate HafParser.parseDate intOfDigits date
  dsimp only
  split
  · rfl
  · cases natOfDigits ((strip raw).take 4) with
    | none => rfl
    | some year =>
      cases natOfDigits (((strip raw).drop 4).take 2) with
      | none => rfl
      | some month =>
        cases natOfDigits (((strip raw).drop 6).take 2) with
        | none => rfl
        | some day =>
          change catching _ _ (orRaise .valueError (dateOf year month day))=
            Except.mapError .validationFailed _
          dsimp only
          cases dateOf year month day <;> rfl

theorem parseAmount_eq :
    parseAmount magnitude sign n field=
      (HafParser.parseAmount magnitude sign n field).mapError .validationFailed := by
  unfold parseAmount HafParser.parseAmount decimal
  split
  · rfl
  · split
    · rfl
    · cases natOfDigits (strip magnitude) <;> rfl

theorem splitLines_eq (text : List Char) : splitLines text=.ok (rawLines text) := by
  unfold splitLines rawLines lastOf
  dsimp only
  generalize (crlfToLf text).splitOn '\n'=lines
  cases hlast : lines.getLast? with
  | none =>
    rw [List.getLast?_eq_none_iff] at hlast
    subst hlast
    rfl
  | some last =>
    have hlines : lines≠[] := by
      rintro rfl
      cases hlast
    rw [if_neg hlines]
    by_cases hblank : last=[]
    · subst hblank
      rfl
    · rw [if_neg fun h => hblank (Option.some.inj h)]
      change Except.ok (if last=[] then _ else _)=_
      rw [if_neg hblank]

/-- The parser raises what the driver's own errors say, and nothing else. -/
theorem parseHaf_eq (content : ByteArray) (sourceRef : String) :
    parseHaf content sourceRef=(HafParser.parseHaf content sourceRef).mapError .validationFailed := by
  unfold parseHaf HafParser.parseHaf decode linesOf
  cases content.utf8Decode? with
  | none => rfl
  | some text =>
    change (splitLines text.toList >>= _)=_
    rw [splitLines_eq]
    change ((takeLines {} 1 (rawLines text.toList)).mapError Exc.validationFailed >>= _)=_
    dsimp only [Option.map_some]
    cases takeLines {} 1 (rawLines text.toList) with
    | error e => rfl
    | ok st =>
      obtain ⟨header,transactions,trailer⟩ := st
      cases header with
      | none => rfl
      | some header => cases trailer <;> rfl

end Parser

/-! ## The statement -/

/-- The exception behind a refusal of the mapping. -/
def Exc.ofMapping : MappingError → Exc
  | .invalid model field => .validationError model field
  | .dateOverflow => .overflowError

/-- What `fetch_statement` does with the bytes of a file: `parse_haf`, then
`haf_file_to_bsp_report`. -/
def fetchStatement (upper : UpperCase) (content : ByteArray) (sourceRef : String)
    (tenantId id : EntityId) (now : Time) : Raising BSPReport := do
  let haf ← parseHaf content sourceRef
  (hafFileToBspReport upper.apply haf tenantId id now).mapError .ofMapping

/-- No exception but the driver's escapes. -/
def OnlyDriverErrors (upper : UpperCase) (content : ByteArray) (sourceRef : String)
    (tenantId id : EntityId) (now : Time) : Prop :=
  ∀ exc,fetchStatement upper content sourceRef tenantId id now=.error exc → ∃ e,exc=.validationFailed e

/-- The columns of a header line with blanks trimmed off. -/
def column (line : List Char) (start length : Nat) : String :=
  String.ofList (strip ((line.drop start).take length))

/-- A header line of which a report can be made: its currency and country are
codes in upper case, and its period neither ends before it starts nor on the
last day of the calendar. -/
structure Mappable (upper : UpperCase) (line : List Char) : Prop where
  currency : isCurrencyCode (stripWhitespace (upper.apply (upper.apply (column line 7 3))))=true
  country : isCountryCode (stripWhitespace (upper.apply (column line 5 2)))=true
  period : ∀ start stop,dateAt line 20 0 "period_start"=.ok start → dateAt line 28 0 "period_end"=.ok stop →
    start.ordinal ≤ stop.ordinal ∧ stop.ordinal≠99991231

section Statement

variable {upper : UpperCase} {currency : String} {haf : HAFFile} {tenantId id : EntityId} {now : Time}

/-! ## What the mapping asks of the header -/

theorem money_ok (amount : Int) :
    (∃ m,money upper.apply amount currency=.ok m) ↔
      isCurrencyCode (stripWhitespace (upper.apply currency))=true := by
  unfold money
  split
  · rename_i h
    exact iff_of_true ⟨_,rfl⟩ h
  · rename_i h
    refine iff_of_false ?_ h
    rintro ⟨_,hm⟩
    cases hm

/-- A period is a statement of a day or more before the end of the calendar. -/
theorem periodFromHeader_ok {h : BFH01FileHeader} :
    (∃ period,periodFromHeader h=.ok period) ↔
      h.periodStart.ordinal≤h.periodEnd.ordinal ∧ h.periodEnd.ordinal≠99991231 := by
  constructor
  · rintro ⟨period,hperiod⟩
    unfold periodFromHeader at hperiod
    split at hperiod
    · cases hperiod
    · rename_i stop hnext
      have hmore : h.periodEnd.ordinal≠99991231 := by
        intro hlast
        rw [next_eq_none_iff.mpr hlast] at hnext
        cases hnext
      split at hperiod
      · rename_i hlt
        exact ⟨ordinal_le_of_lt_next hnext hlt,hmore⟩
      · cases hperiod
  · rintro ⟨horder,hmore⟩
    obtain hperiod|hlast := periodFromHeader_ordered horder
    · exact hperiod
    · unfold periodFromHeader at hlast
      split at hlast
      · rename_i hnext
        exact absurd (next_eq_none_iff.mp hnext) hmore
      · split at hlast <;> cases hlast

theorem commissionOf_ok (r : HAFTransactionRecord)
    (h : isCurrencyCode (stripWhitespace (upper.apply currency))=true) :
    ∃ commission,commissionOf upper.apply currency r=.ok commission := by
  cases r with
  | bks24 r =>
    unfold commissionOf
    dsimp only
    split
    · obtain ⟨m,hm⟩ := (money_ok r.commission).mpr h
      rw [hm]
      exact ⟨some m,rfl⟩
    · exact ⟨none,rfl⟩
  | bks39 | bks45 | bks46 | bks47 => exact ⟨none,rfl⟩

/-- A checked record is mapped in every valid currency. -/
theorem hafRecordToBspTransaction_ok {r : HAFTransactionRecord} (hr : Checked r)
    (h : isCurrencyCode (stripWhitespace (upper.apply currency))=true) :
    ∃ t,hafRecordToBspTransaction upper.apply currency r=.ok t := by
  obtain ⟨commission,hcommission⟩ := commissionOf_ok r h
  obtain ⟨gross,hgross⟩ := (money_ok (grossOf r)).mpr h
  obtain ⟨net,hnet⟩ := (money_ok (hafTransactionNet r)).mpr h
  obtain ⟨hkept,hcode⟩ := knownAirline_kept upper hr.airline
  unfold hafRecordToBspTransaction
  refine exists_bind_ok.mpr ⟨commission,hcommission,exists_bind_ok.mpr ⟨gross,hgross,
    exists_bind_ok.mpr ⟨net,hnet,?_⟩⟩⟩
  dsimp only
  rw [hkept,if_pos hcode]
  exact ⟨_,rfl⟩

/-- A report is made of a parsed file if its header allows it. -/
theorem hafFileToBspReport_ok (hchecked : ∀ r∈haf.transactions,Checked r) :
    (∃ report,hafFileToBspReport upper.apply haf tenantId id now=.ok report) ↔
      isCurrencyCode (stripWhitespace (upper.apply (upper.apply haf.header.bspCurrency)))=true ∧
      isCountryCode (stripWhitespace (upper.apply haf.header.country))=true ∧
      haf.header.periodStart.ordinal≤haf.header.periodEnd.ordinal ∧
      haf.header.periodEnd.ordinal≠99991231 := by
  constructor
  · rintro ⟨report,h⟩
    obtain ⟨totals,hmade⟩ := madeOf_report h
    exact ⟨(money_ok _).mp ⟨_,hmade.sales⟩,hmade.country,periodFromHeader_ok.mp ⟨_,hmade.period⟩⟩
  · rintro ⟨hcurrency,hcountry,hperiod⟩
    obtain ⟨transactions,htransactions⟩ :=
      exists_forall₂ fun r hr => hafRecordToBspTransaction_ok (hchecked r hr) hcurrency
    obtain ⟨period,hperiod⟩ := periodFromHeader_ok.mpr hperiod
    unfold hafFileToBspReport
    generalize htotals : (haf.transactions.zip transactions).foldl Totals.add {}=totals
    obtain ⟨sales,hsales⟩ := (money_ok totals.sales).mpr hcurrency
    obtain ⟨refund,hrefund⟩ := (money_ok totals.refund).mpr hcurrency
    obtain ⟨commission,hcommission⟩ := (money_ok totals.commission).mpr hcurrency
    obtain ⟨net,hnet⟩ := (money_ok totals.net).mpr hcurrency
    refine exists_bind_ok.mpr ⟨transactions,mapM_ok.mpr htransactions,
      exists_bind_ok.mpr ⟨period,hperiod,?_⟩⟩
    rw [htotals]
    refine exists_bind_ok.mpr ⟨sales,hsales,exists_bind_ok.mpr ⟨refund,hrefund,
      exists_bind_ok.mpr ⟨commission,hcommission,exists_bind_ok.mpr ⟨net,hnet,?_⟩⟩⟩⟩
    rw [if_pos hcountry]
    exact ⟨_,rfl⟩

/-! ## The header line -/

variable {line : List Char} {content : ByteArray} {sourceRef : String}

theorem slice_column {start length n : Nat} {field : String} {raw : List Char}
    (h : slice line start length n field=.ok raw) : raw=(line.drop start).take length := by
  unfold slice at h
  split at h
  · cases h
  · cases h
    rfl

theorem textAt_column {start length n : Nat} {field text : String}
    (h : textAt line start length n field=.ok text) : text=column line start length := by
  unfold textAt at h
  obtain ⟨raw,hraw,rfl⟩ := bind_pure_ok.mp h
  rw [slice_column hraw]
  rfl

/-- A report can be made of a file if one can be made of its header line. -/
theorem mappable_iff {h : BFH01FileHeader} (hparse : parseBfh01 line 0=.ok h) :
    Mappable upper line ↔
      isCurrencyCode (stripWhitespace (upper.apply (upper.apply h.bspCurrency)))=true ∧
      isCountryCode (stripWhitespace (upper.apply h.country))=true ∧
      h.periodStart.ordinal≤h.periodEnd.ordinal ∧ h.periodEnd.ordinal≠99991231 := by
  unfold parseBfh01 at hparse
  obtain ⟨country,hcountry,hparse⟩ := bind_ok.mp hparse
  obtain ⟨currency,hcurrency,hparse⟩ := bind_ok.mp hparse
  obtain ⟨agent,-,hparse⟩ := bind_ok.mp hparse
  obtain ⟨start,hstart,hparse⟩ := bind_ok.mp hparse
  obtain ⟨stop,hstop,hparse⟩ := bind_ok.mp hparse
  obtain ⟨seq,-,hparse⟩ := bind_ok.mp hparse
  cases hparse
  rw [textAt_column hcountry,textAt_column hcurrency]
  constructor
  · exact fun hmappable => ⟨hmappable.currency,hmappable.country,hmappable.period start stop hstart hstop⟩
  · rintro ⟨hcode,hcountry,hperiod⟩
    refine ⟨hcode,hcountry,fun start' stop' hstart' hstop' => ?_⟩
    cases hstart.symm.trans hstart'
    cases hstop.symm.trans hstop'
    exact hperiod

/-- The header of a parsed file is what its one header line reads as. -/
theorem header_line {raws : List (List Char)} (hraws : linesOf content=some raws)
    (h : HafParser.parseHaf content sourceRef=.ok haf) :
    (∃ line∈recordLines raws,recordCode line=some .bfh01) ∧
    ∀ line∈recordLines raws,recordCode line=some .bfh01 → parseBfh01 line 0=.ok haf.header := by
  obtain ⟨raws',items,hraws',hreads,hheader,-,-,-⟩ := parseHaf_ok.mp h
  cases hraws.symm.trans hraws'
  constructor
  · have hmem : haf.header∈items.filterMap Item.header? := by
      rw [hheader]
      exact List.mem_singleton_self _
    obtain ⟨item,hitem,hhead⟩ := List.mem_filterMap.mp hmem
    obtain ⟨line,hline,hread⟩ := partner_of_mem hreads.flip hitem
    cases carries_of_reads hread with
    | header code => exact ⟨line,hline,code⟩
    | transaction => cases hhead
    | trailer => cases hhead
    | unrecognised => cases hhead
  · intro line hline hcode
    obtain ⟨item,hitem,-,hread⟩ := partner_of_mem hreads hline
    unfold readRecord at hread
    rw [hcode] at hread
    obtain ⟨head,hparse,rfl⟩ := bind_pure_ok.mp hread
    have hmem : head∈items.filterMap Item.header? := List.mem_filterMap.mpr ⟨_,hitem,rfl⟩
    rw [hheader] at hmem
    cases List.mem_singleton.mp hmem
    exact hparse

/-! ## Which files raise something else -/

/-- Once a file is parsed, whatever the mapping raises is another exception. -/
theorem onlyDriverErrors_of_parsed (h : HafParser.parseHaf content sourceRef=.ok haf) :
    OnlyDriverErrors upper content sourceRef tenantId id now ↔
      ∃ report,hafFileToBspReport upper.apply haf tenantId id now=.ok report := by
  have hfetch : fetchStatement upper content sourceRef tenantId id now=
      (hafFileToBspReport upper.apply haf tenantId id now).mapError Exc.ofMapping := by
    unfold fetchStatement
    rw [parseHaf_eq,h]
    rfl
  unfold OnlyDriverErrors
  rw [hfetch]
  cases hafFileToBspReport upper.apply haf tenantId id now with
  | ok report => exact iff_of_true (fun _ hexc => by cases hexc) ⟨report,rfl⟩
  | error e =>
    refine iff_of_false ?_ (fun ⟨_,hreport⟩ => by cases hreport)
    intro honly
    obtain ⟨_,hdriver⟩ := honly _ rfl
    cases e <;> cases hdriver

/-- Nothing but the driver's error leaves the parser and the mapping, unless
the file is well formed with a header of which no report can be made. -/
theorem onlyDriverErrors_iff (upper : UpperCase) (content : ByteArray) (sourceRef : String)
    (tenantId id : EntityId) (now : Time) :
    OnlyDriverErrors upper content sourceRef tenantId id now ↔
      ∀ raws,linesOf content=some raws → WellFormed (recordLines raws) →
        ∀ line∈recordLines raws,recordCode line=some .bfh01 → Mappable upper line := by
  cases h : HafParser.parseHaf content sourceRef with
  | error e =>
    constructor
    · intro _ raws hraws hform
      obtain ⟨haf,hok⟩ : ∃ haf,HafParser.parseHaf content sourceRef=.ok haf :=
        accepted_iff.mpr ⟨raws,hraws,hform⟩
      cases h.symm.trans hok
    · intro _ exc hexc
      unfold fetchStatement at hexc
      rw [parseHaf_eq,h] at hexc
      cases hexc
      exact ⟨e,rfl⟩
  | ok haf =>
    rw [onlyDriverErrors_of_parsed h,hafFileToBspReport_ok (checked_of_parsed h)]
    obtain ⟨raws,hraws,hform⟩ := accepted_iff.mp ⟨haf,h⟩
    obtain ⟨⟨line,hline,hcode⟩,hparse⟩ := header_line hraws h
    constructor
    · intro hheader raws' hraws' _ line' hline' hcode'
      cases hraws.symm.trans hraws'
      exact (mappable_iff (hparse line' hline' hcode')).mpr hheader
    · intro hmappable
      exact (mappable_iff (hparse line hline hcode)).mp (hmappable raws hraws hform line hline hcode)

end Statement

/-! ## A period that ends before it starts -/

def swappedLine : List Char := padded "BFH01ININR12345678  20260415202604010000000001"

/-- The trailer of a file without transactions. -/
def emptyTrailerLine : List Char := padded "BFT9900000002000000000000+"

def swappedText : List Char := swappedLine++['\n']++emptyTrailerLine++['\n']

theorem firstOfApril : IsDate 2026 4 1 := by decide

theorem middleOfApril : IsDate 2026 4 15 := by decide

def swappedFile : HAFFile :=
  ⟨⟨"IN","INR","12345678",⟨2026,4,15,middleOfApril⟩,⟨2026,4,1,firstOfApril⟩,"0000000001"⟩,[],⟨2,0⟩,
    "statement"⟩

theorem swappedText_lines : linesOf swappedText.utf8Encode=some [swappedLine,emptyTrailerLine] := by
  unfold linesOf
  rw [List.utf8Decode?_utf8Encode]
  decide +kernel

/-- The file parses, and the model of the period refuses it. -/
theorem swapped_escapes :
    ¬∀ (upper : UpperCase) (content : ByteArray) (sourceRef : String) (tenantId id : EntityId)
      (now : Time),OnlyDriverErrors upper content sourceRef tenantId id now := by
  intro hclaim
  have hparse : HafParser.parseHaf swappedText.utf8Encode "statement"=.ok swappedFile :=
    parseHaf_of_collected swappedText_lines (by decide +kernel)
  have hmapping : hafFileToBspReport asciiUpper.apply swappedFile "tenant" "report" 0=
      .error (.invalid "Period" "end") := by decide +kernel
  obtain ⟨report,hreport⟩ :=
    (onlyDriverErrors_of_parsed hparse).mp (hclaim asciiUpper _ "statement" "tenant" "report" 0)
  cases hmapping.symm.trans hreport

end Voyagent.HafExceptions
