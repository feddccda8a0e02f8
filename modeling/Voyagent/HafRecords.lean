import Voyagent.CalendarDates
import Voyagent.PythonNumbers

/-!
# Records of a host-to-agent file

The settlement statement of BSP India: its header, its ticket, refund,
exchange and memo records and its trailer, the carriers it may name and the
ways a file is refused. Amounts are signed hundredths of the currency unit.
-/

namespace Voyagent.HafRecords

open CalendarDates

/-- File header, one per file. -/
structure BFH01FileHeader where
  country : String
  bspCurrency : String
  agentIataCode : String
  periodStart : CalendarDate
  periodEnd : CalendarDate
  fileSequence : String
  deriving DecidableEq

/-- Agent ticketing record, one per ticket sale. -/
structure BKS24TicketingRecord where
  ticketNumber : String
  airlineCode : String
  issueDate : CalendarDate
  grossFare : Int
  commission : Int
  taxes : Int
  netAmount : Int
  narration : Option String
  deriving DecidableEq

/-- Refund record. -/
structure BKS39RefundRecord where
  documentNumber : String
  originalTicketNumber : String
  airlineCode : String
  issueDate : CalendarDate
  netAmount : Int
  narration : Option String
  deriving DecidableEq

/-- Ticket exchange record. -/
structure BKS45ExchangeRecord where
  newTicketNumber : String
  originalTicketNumber : String
  airlineCode : String
  issueDate : CalendarDate
  netAmount : Int
  narration : Option String
  deriving DecidableEq

/-- Agency debit or credit memo record. -/
structure MemoRecord where
  memoNumber : String
  airlineCode : String
  issueDate : CalendarDate
  amount : Int
  narration : Option String
  deriving DecidableEq

/-- `HAFTransactionRecord`. -/
inductive HAFTransactionRecord where
  | bks24 (r : BKS24TicketingRecord)
  | bks39 (r : BKS39RefundRecord)
  | bks45 (r : BKS45ExchangeRecord)
  /-- Debit memo. -/
  | bks46 (r : MemoRecord)
  /-- Credit memo. -/
  | bks47 (r : MemoRecord)
  deriving DecidableEq

/-- File trailer, one per file. -/
structure BFT99FileTrailer where
  recordCount : Int
  netControlTotal : Int
  deriving DecidableEq

structure HAFFile where
  header : BFH01FileHeader
  transactions : List HAFTransactionRecord
  trailer : BFT99FileTrailer
  sourceRef : String
  deriving DecidableEq

/-- `ValidationFailedError` of the driver, one constructor for each message
with what the message quotes. -/
inductive ValidationFailedError where
  | notUtf8
  | lineLength (line length : Nat)
  | fieldPastEnd (line : Nat) (field : String) (start length : Nat)
  | emptyInteger (line : Nat) (field : String)
  | notInteger (line : Nat) (field raw : String)
  | malformedAirline (line : Nat) (field raw : String)
  | unknownAirline (line : Nat) (code : String)
  | dateShape (line : Nat) (field raw : String)
  | noSuchDate (line : Nat) (field raw : String)
  | magnitudeNotDigits (line : Nat) (field raw : String)
  | badSign (line : Nat) (field raw : String)
  | magnitudeNotDecimal (line : Nat) (field raw : String)
  | duplicateHeader (line : Nat)
  | duplicateTrailer (line : Nat)
  | missingHeader
  | missingTrailer
  deriving DecidableEq

/-! ## Carriers -/

def indiaAndSubcontinent : List String :=
  ["AI","IX","6E","SG","QP","UK","I5","G8","S2","9W","2T","BG","BS","UL","RA","PK","ER","PF",
    "DV"]

def gulfAndMiddleEast : List String :=
  ["EK","EY","QR","SV","GF","WY","KU","RJ","ME","FZ","G9","XY","IY","LY","IR","TK","PC"]

def eastAndSeAsia : List String :=
  ["SQ","TR","MI","TG","TW","FD","VN","VJ","MH","OD","AK","D7","GA","JT","QZ","ID","PR","5J",
    "Z2","CX","KA","HX","UO","CI","BR","B7","OZ","KE","7C","LJ","NH","JL","MM","BC","CA","MU",
    "CZ","HU","3U","FM","MF","SC","KL"]

def europe : List String :=
  ["BA","VS","AF","LH","LX","OS","SN","KM","IB","UX","AY","SK","AZ","TP","LO","OK","RO","JU",
    "OU","A3","SU","S7","U6","FI","DY","D8","BT","EI","FR","U2","W6","HV","VY","EW"]

def americas : List String :=
  ["AA","DL","UA","AS","B6","WN","F9","NK","HA","AC","WS","TS","AM","Y4","VB","CM","LA","AR",
    "G3","AD","AV","H2","JA","P5","4M"]

def africa : List String :=
  ["ET","KQ","SA","MS","AT","TU","AH","MK","TM","WB","UR","PW"]

def oceania : List String :=
  ["QF","JQ","VA","NZ","FJ"]

def cargoAndMisc : List String :=
  ["FX","5X","5Y","GG","CV","LD","RU","K4","7L"]

/-- `KNOWN_IATA_AIRLINE_CODES`. -/
def knownIataAirlineCodes : List String :=
  indiaAndSubcontinent++gulfAndMiddleEast++eastAndSeAsia++europe++americas++africa++oceania++
    cargoAndMisc

/-- `IATA_AIRLINE_CODE_RE`: two upper-case letters or digits. -/
def isIataAirlineCode (code : String) : Bool :=
  decide (code.toList.length=2) && code.toList.all fun c =>
    ('A'.toNat ≤ c.toNat && c.toNat ≤ 'Z'.toNat) || ('0'.toNat ≤ c.toNat && c.toNat ≤ '9'.toNat)

/-- `is_known_iata_airline`. -/
def isKnownIataAirline (code : String) : Bool :=
  isIataAirlineCode code && knownIataAirlineCodes.contains code

/-- Every listed carrier has the shape of a code. -/
theorem isIataAirlineCode_of_known {code : String} (h : code∈knownIataAirlineCodes) :
    isIataAirlineCode code=true := by
  have hall : knownIataAirlineCodes.all isIataAirlineCode=true := by decide +kernel
  exact List.all_eq_true.mp hall code h

theorem isKnownIataAirline_iff {code : String} :
    isKnownIataAirline code=true ↔ code∈knownIataAirlineCodes := by
  rw [isKnownIataAirline,Bool.and_eq_true,List.contains_iff_mem]
  exact and_iff_right_of_imp isIataAirlineCode_of_known

end Voyagent.HafRecords
