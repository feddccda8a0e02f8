import Voyagent.HafRecords

/-!
# The host-to-agent file parser

Lines of fixed columns: the field helpers, one parser for each record and the
loop over the lines. Texts are lists of code points; a line is given with its
number, which the errors name.
-/

namespace Voyagent.HafParser

open TrimmedText RuntimeValues PythonNumbers CalendarDates HafRecords

/-- `LINE_LENGTH`. -/
def lineLength : Nat := 200

/-- What a parser answers. -/
abbrev Parsed (α : Type) : Type := Except ValidationFailedError α

/-- `str.strip`. -/
def strip (cs : List Char) : List Char := trimList isPySpace cs

/-- `str.rstrip`. -/
def rstrip (cs : List Char) : List Char := cs.rdropWhile isPySpace

/-! ## Field helpers -/

/-- `_require_line_length`. -/
def requireLineLength (line : List Char) (n : Nat) : Parsed Unit :=
  if line.length=lineLength then .ok () else .error (.lineLength n line.length)

/-- `_slice`. -/
def slice (line : List Char) (start length n : Nat) (field : String) : Parsed (List Char) :=
  if line.length<start+length then .error (.fieldPastEnd n field start length)
  else .ok ((line.drop start).take length)

/-- `_parse_int`. -/
def parseInt (raw : List Char) (n : Nat) (field : String) : Parsed Int :=
  if strip raw=[] then .error (.emptyInteger n field)
  else
    match intOfText (String.ofList (strip raw)) with
    | some i => .ok i
    | none => .error (.notInteger n field (String.ofList raw))

/-- `_validate_airline_code`. -/
def validateAirlineCode (raw : List Char) (n : Nat) : Parsed String :=
  let code := String.ofList (strip raw)
  if !isIataAirlineCode code then .error (.malformedAirline n "airline_code" (String.ofList raw))
  else if !isKnownIataAirline code then .error (.unknownAirline n code)
  else .ok code

/-- Exactly the listed carriers pass. -/
theorem validateAirlineCode_ok {raw : List Char} {n : Nat} {code : String} :
    validateAirlineCode raw n=.ok code ↔
      String.ofList (strip raw)=code ∧ code∈knownIataAirlineCodes := by
  unfold validateAirlineCode
  dsimp only
  constructor
  · intro h
    split at h
    · cases h
    · split at h
      · cases h
      · rename_i hknown
        cases h
        exact ⟨rfl,isKnownIataAirline_iff.mp (by simpa using hknown)⟩
  · rintro ⟨rfl,hmem⟩
    rw [isIataAirlineCode_of_known hmem,isKnownIataAirline_iff.mpr hmem]
    rfl

/-- `_parse_date`. -/
def parseDate (raw : List Char) (n : Nat) (field : String) : Parsed CalendarDate :=
  let s := strip raw
  if s.length≠8 ∨ isDigits s=false then .error (.dateShape n field (String.ofList raw))
  else
    match natOfDigits (s.take 4),natOfDigits ((s.drop 4).take 2),natOfDigits ((s.drop 6).take 2) with
    | some year,some month,some day =>
      match dateOf year month day with
      | some d => .ok d
      | none => .error (.noSuchDate n field (String.ofList raw))
    | _,_,_ => .error (.noSuchDate n field (String.ofList raw))

/-- `_parse_amount`: the magnitude is a number of hundredths. -/
def parseAmount (magnitude sign : List Char) (n : Nat) (field : String) : Parsed Int :=
  if isDigits (strip magnitude)=false then
    .error (.magnitudeNotDigits n field (String.ofList magnitude))
  else if ¬(strip sign=[] ∨ strip sign=['+'] ∨ strip sign=['-']) then
    .error (.badSign n field (String.ofList sign))
  else
    match natOfDigits (strip magnitude) with
    | none => .error (.magnitudeNotDecimal n field (String.ofList magnitude))
    | some cents => .ok (if strip sign=['-'] then -(cents : Int) else cents)

/-- A stripped text field. -/
def textAt (line : List Char) (start length n : Nat) (field : String) : Parsed String := do
  let raw ← slice line start length n field
  return String.ofList (strip raw)

/-- The narration, if there is one. -/
def narrationAt (line : List Char) (start length n : Nat) : Parsed (Option String) := do
  let raw ← slice line start length n "narration"
  return if rstrip raw=[] then none else some (String.ofList (rstrip raw))

def airlineAt (line : List Char) (start n : Nat) : Parsed String := do
  let raw ← slice line start 2 n "airline_code"
  validateAirlineCode raw n

def dateAt (line : List Char) (start n : Nat) (field : String) : Parsed CalendarDate := do
  let raw ← slice line start 8 n field
  parseDate raw n field

/-- A magnitude of twelve columns and the sign behind it. -/
def amountAt (line : List Char) (start n : Nat) (field : String) : Parsed Int := do
  let magnitude ← slice line start 12 n field
  let sign ← slice line (start+12) 1 n (field++"_sign")
  parseAmount magnitude sign n field

/-! ## Record parsers -/

/-- `_parse_bfh01`. -/
def parseBfh01 (line : List Char) (n : Nat) : Parsed BFH01FileHeader := do
  let country ← textAt line 5 2 n "country"
  let currency ← textAt line 7 3 n "currency"
  let agent ← textAt line 10 10 n "agent_iata_code"
  let periodStart ← dateAt line 20 n "period_start"
  let periodEnd ← dateAt line 28 n "period_end"
  let seq ← textAt line 36 10 n "file_sequence"
  return ⟨country,currency,agent,periodStart,periodEnd,seq⟩

/-- `_parse_bks24`. -/
def parseBks24 (line : List Char) (n : Nat) : Parsed BKS24TicketingRecord := do
  let ticket ← textAt line 5 14 n "ticket_number"
  let airline ← airlineAt line 19 n
  let issue ← dateAt line 21 n "issue_date"
  let gross ← amountAt line 29 n "gross"
  let commission ← amountAt line 42 n "commission"
  let taxes ← amountAt line 55 n "taxes"
  let net ← amountAt line 68 n "net"
  let narration ← narrationAt line 81 119 n
  return ⟨ticket,airline,issue,gross,commission,taxes,net,narration⟩

/-- `_parse_bks39`. -/
def parseBks39 (line : List Char) (n : Nat) : Parsed BKS39RefundRecord := do
  let doc ← textAt line 5 14 n "document_number"
  let original ← textAt line 19 14 n "original_ticket_number"
  let airline ← airlineAt line 33 n
  let issue ← dateAt line 35 n "issue_date"
  let net ← amountAt line 43 n "net"
  let narration ← narrationAt line 56 144 n
  return ⟨doc,original,airline,issue,net,narration⟩

/-- `_parse_bks45`. -/
def parseBks45 (line : List Char) (n : Nat) : Parsed BKS45ExchangeRecord := do
  let newTicket ← textAt line 5 14 n "new_ticket_number"
  let original ← textAt line 19 14 n "original_ticket_number"
  let airline ← airlineAt line 33 n
  let issue ← dateAt line 35 n "issue_date"
  let net ← amountAt line 43 n "net"
  let narration ← narrationAt line 56 144 n
  return ⟨newTicket,original,airline,issue,net,narration⟩

/-- `_parse_memo`. -/
def parseMemo (line : List Char) (n : Nat) : Parsed MemoRecord := do
  let memo ← textAt line 5 14 n "memo_number"
  let airline ← airlineAt line 19 n
  let issue ← dateAt line 21 n "issue_date"
  let amount ← amountAt line 29 n "amount"
  let narration ← narrationAt line 42 158 n
  return ⟨memo,airline,issue,amount,narration⟩

/-- `_parse_bft99`. -/
def parseBft99 (line : List Char) (n : Nat) : Parsed BFT99FileTrailer := do
  let raw ← slice line 5 8 n "record_count"
  let count ← parseInt raw n "record_count"
  let net ← amountAt line 13 n "net_control_total"
  return ⟨count,net⟩

/-! ## The loop over the lines -/

/-- The record codes the parser recognises. -/
inductive RecordCode where
  | bfh01 | bks24 | bks39 | bks45 | bks46 | bks47 | bft99
  deriving DecidableEq

def RecordCode.text : RecordCode → String
  | .bfh01 => "BFH01"
  | .bks24 => "BKS24"
  | .bks39 => "BKS39"
  | .bks45 => "BKS45"
  | .bks46 => "BKS46"
  | .bks47 => "BKS47"
  | .bft99 => "BFT99"

/-- The code of a line, if it is recognised. -/
def recordCode (line : List Char) : Option RecordCode :=
  [.bfh01,.bks24,.bks39,.bks45,.bks46,.bks47,.bft99].find? fun c : RecordCode =>
    decide (c.text.toList=line.take 5)

/-- What the loop has collected. -/
structure Collected where
  header : Option BFH01FileHeader := none
  transactions : List HAFTransactionRecord := []
  trailer : Option BFT99FileTrailer := none

def Collected.push (st : Collected) (r : HAFTransactionRecord) : Collected :=
  {st with transactions := st.transactions++[r]}

/-- A line without the carriage returns at its end. -/
def stripCr (raw : List Char) : List Char := raw.rdropWhile fun c => decide (c = '\r')

/-- One turn of the loop. -/
def takeLine (st : Collected) (n : Nat) (raw : List Char) : Parsed Collected :=
  let line := stripCr raw
  if line=[] then .ok st
  else do
    requireLineLength line n
    match recordCode line with
    | some .bfh01 =>
      if st.header.isSome then .error (.duplicateHeader n)
      else
        let h ← parseBfh01 line n
        return {st with header := some h}
    | some .bks24 => return st.push (.bks24 (← parseBks24 line n))
    | some .bks39 => return st.push (.bks39 (← parseBks39 line n))
    | some .bks45 => return st.push (.bks45 (← parseBks45 line n))
    | some .bks46 => return st.push (.bks46 (← parseMemo line n))
    | some .bks47 => return st.push (.bks47 (← parseMemo line n))
    | some .bft99 =>
      if st.trailer.isSome then .error (.duplicateTrailer n)
      else
        let t ← parseBft99 line n
        return {st with trailer := some t}
    | none => return st

/-- The lines from number `n` on. -/
def takeLines (st : Collected) (n : Nat) : List (List Char) → Parsed Collected
  | [] => .ok st
  | raw::raws => do
    let st' ← takeLine st n raw
    takeLines st' (n+1) raws

/-- `replace("\r\n", "\n")`. -/
def crlfToLf : List Char → List Char
  | '\r' :: '\n' :: cs => '\n' :: crlfToLf cs
  | c::cs => c::crlfToLf cs
  | [] => []

/-- The raw lines of a text; a final line break opens no further line. -/
def rawLines (text : List Char) : List (List Char) :=
  let lines := (crlfToLf text).splitOn '\n'
  if lines.getLast?=some [] then lines.dropLast else lines

/-- The raw lines of a file in UTF-8. -/
def linesOf (content : ByteArray) : Option (List (List Char)) :=
  content.utf8Decode?.map fun cs => rawLines cs.toList

/-- `parse_haf`. -/
def parseHaf (content : ByteArray) (sourceRef : String) : Parsed HAFFile :=
  match linesOf content with
  | none => .error .notUtf8
  | some lines => do
    let st ← takeLines {} 1 lines
    match st.header,st.trailer with
    | none,_ => .error .missingHeader
    | some _,none => .error .missingTrailer
    | some header,some trailer => return ⟨header,st.transactions,trailer,sourceRef⟩

end Voyagent.HafParser
