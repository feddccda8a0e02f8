import Voyagent.FixedColumns
import Voyagent.HafAcceptance

/-!
# Writing host-to-agent files

The documented columns of each record, and the text of a file: its lines with
line breaks of either kind and blank lines anywhere between them. The parser
reads every such text as the records it was written from.
-/

namespace Voyagent.HafEncoding

open TrimmedText RuntimeValues PythonNumbers CalendarDates FixedColumns
open HafRecords HafParser HafAcceptance FallibleResults

/-! ## Columns -/

def codeColumn (code : RecordCode) : Column where
  width := 5
  text := code.text.toList
  fits := by cases code <;> decide

def textColumn (width : Nat) (s : String) : Column := padded width s.toList

/-- No narration leaves the column blank. -/
def narrationColumn (width : Nat) (narration : Option String) : Column :=
  padded width (narration.getD "").toList

/-- `YYYYMMDD`. -/
def dateColumn (d : CalendarDate) : Column where
  width := 8
  text := zeroPadded 4 d.year++(zeroPadded 2 d.month++zeroPadded 2 d.day)
  fits := by
    rw [List.length_append,List.length_append,zeroPadded_length,zeroPadded_length,zeroPadded_length]

/-- Twelve digits of hundredths. -/
def magnitudeColumn (amount : Int) : Column where
  width := 12
  text := zeroPadded 12 amount.natAbs
  fits := zeroPadded_length 12 _

def signColumn (amount : Int) : Column where
  width := 1
  text := [if amount<0 then '-' else '+']
  fits := rfl

def countColumn (count : Nat) : Column where
  width := 8
  text := zeroPadded 8 count
  fits := zeroPadded_length 8 _

def fillerColumn (width : Nat) : Column := padded width []

def bfh01Columns (h : BFH01FileHeader) : List Column :=
  [codeColumn .bfh01,textColumn 2 h.country,textColumn 3 h.bspCurrency,
    textColumn 10 h.agentIataCode,dateColumn h.periodStart,dateColumn h.periodEnd,
    textColumn 10 h.fileSequence,fillerColumn 154]

def bks24Columns (r : BKS24TicketingRecord) : List Column :=
  [codeColumn .bks24,textColumn 14 r.ticketNumber,textColumn 2 r.airlineCode,
    dateColumn r.issueDate,magnitudeColumn r.grossFare,signColumn r.grossFare,
    magnitudeColumn r.commission,signColumn r.commission,magnitudeColumn r.taxes,
    signColumn r.taxes,magnitudeColumn r.netAmount,signColumn r.netAmount,
    narrationColumn 119 r.narration]

/-- Refunds and exchanges share one layout. -/
def documentColumns (code : RecordCode) (document original airline : String) (issue : CalendarDate)
    (net : Int) (narration : Option String) : List Column :=
  [codeColumn code,textColumn 14 document,textColumn 14 original,textColumn 2 airline,
    dateColumn issue,magnitudeColumn net,signColumn net,narrationColumn 144 narration]

def bks39Columns (r : BKS39RefundRecord) : List Column :=
  documentColumns .bks39 r.documentNumber r.originalTicketNumber r.airlineCode r.issueDate
    r.netAmount r.narration

def bks45Columns (r : BKS45ExchangeRecord) : List Column :=
  documentColumns .bks45 r.newTicketNumber r.originalTicketNumber r.airlineCode r.issueDate
    r.netAmount r.narration

/-- Debit and credit memos differ in their code only. -/
def memoColumns (code : RecordCode) (r : MemoRecord) : List Column :=
  [codeColumn code,textColumn 14 r.memoNumber,textColumn 2 r.airlineCode,
    dateColumn r.issueDate,magnitudeColumn r.amount,signColumn r.amount,
    narrationColumn 158 r.narration]

def bft99Columns (count : Nat) (net : Int) : List Column :=
  [codeColumn .bft99,countColumn count,magnitudeColumn net,signColumn net,fillerColumn 174]

def transactionColumns : HAFTransactionRecord → List Column
  | .bks24 r => bks24Columns r
  | .bks39 r => bks39Columns r
  | .bks45 r => bks45Columns r
  | .bks46 r => memoColumns .bks46 r
  | .bks47 r => memoColumns .bks47 r

/-! ## Widths -/

theorem bfh01_widths (h : BFH01FileHeader) :
    (bfh01Columns h).map Column.width=[5,2,3,10,8,8,10,154] := rfl

theorem bks24_widths (r : BKS24TicketingRecord) :
    (bks24Columns r).map Column.width=[5,14,2,8,12,1,12,1,12,1,12,1,119] := rfl

theorem document_widths (code : RecordCode) (document original airline : String)
    (issue : CalendarDate) (net : Int) (narration : Option String) :
    (documentColumns code document original airline issue net narration).map Column.width=
      [5,14,14,2,8,12,1,144] := rfl

theorem memo_widths (code : RecordCode) (r : MemoRecord) :
    (memoColumns code r).map Column.width=[5,14,2,8,12,1,158] := rfl

theorem bft99_widths (count : Nat) (net : Int) :
    (bft99Columns count net).map Column.width=[5,8,12,1,174] := rfl

/-! ## What fits -/

/-- A text that fits its slot, without blanks at its ends or line breaks. -/
structure FitsText (width : Nat) (s : String) : Prop where
  short : s.toList.length≤width
  bare : strip s.toList=s.toList
  oneLine : '\n'∉s.toList

/-- A narration is absent, or a text of at least one character. -/
def FitsNarration (width : Nat) : Option String → Prop
  | none => True
  | some s => FitsText width s ∧ s≠""

/-- An amount of at most twelve digits. -/
def FitsAmount (amount : Int) : Prop := amount.natAbs<10^12

instance (amount : Int) : Decidable (FitsAmount amount) :=
  inferInstanceAs (Decidable (amount.natAbs<10^12))

structure FitsHeader (h : BFH01FileHeader) : Prop where
  country : FitsText 2 h.country
  currency : FitsText 3 h.bspCurrency
  agent : FitsText 10 h.agentIataCode
  sequence : FitsText 10 h.fileSequence

structure FitsTicket (r : BKS24TicketingRecord) : Prop where
  ticket : FitsText 14 r.ticketNumber
  airline : r.airlineCode∈knownIataAirlineCodes
  gross : FitsAmount r.grossFare
  commission : FitsAmount r.commission
  taxes : FitsAmount r.taxes
  net : FitsAmount r.netAmount
  narration : FitsNarration 119 r.narration

structure FitsDocument (document original airline : String) (net : Int)
    (narration : Option String) : Prop where
  document : FitsText 14 document
  original : FitsText 14 original
  airline : airline∈knownIataAirlineCodes
  net : FitsAmount net
  narration : FitsNarration 144 narration

def FitsRefund (r : BKS39RefundRecord) : Prop :=
  FitsDocument r.documentNumber r.originalTicketNumber r.airlineCode r.netAmount r.narration

def FitsExchange (r : BKS45ExchangeRecord) : Prop :=
  FitsDocument r.newTicketNumber r.originalTicketNumber r.airlineCode r.netAmount r.narration

structure FitsMemo (r : MemoRecord) : Prop where
  memo : FitsText 14 r.memoNumber
  airline : r.airlineCode∈knownIataAirlineCodes
  amount : FitsAmount r.amount
  narration : FitsNarration 158 r.narration

def FitsTransaction : HAFTransactionRecord → Prop
  | .bks24 r => FitsTicket r
  | .bks39 r => FitsRefund r
  | .bks45 r => FitsExchange r
  | .bks46 r => FitsMemo r
  | .bks47 r => FitsMemo r

/-- A count of at most eight digits. -/
structure FitsTrailer (count : Nat) (net : Int) : Prop where
  count : count<10^8
  net : FitsAmount net

/-- The sign column of an amount. -/
theorem signColumn_text (amount : Int) :
    amount<0 ∧ (signColumn amount).text=['-'] ∨ 0≤amount ∧ (signColumn amount).text=['+'] := by
  rcases Int.lt_or_le amount 0 with hneg|hpos
  · exact .inl ⟨hneg,congrArg (fun c => [c]) (if_pos hneg)⟩
  · exact .inr ⟨hpos,congrArg (fun c => [c]) (if_neg (Int.not_lt.mpr hpos))⟩

/-! ## Reading a column -/

/-- Eight digits read as the date they spell. -/
theorem parseDate_digits {d : CalendarDate} {n : Nat} {field : String}
    (hy : natOfDigits (zeroPadded 4 d.year)=some d.year)
    (hm : natOfDigits (zeroPadded 2 d.month)=some d.month)
    (hd : natOfDigits (zeroPadded 2 d.day)=some d.day) :
    parseDate (dateColumn d).text n field=.ok d := by
  have hchars : ∀ c∈(dateColumn d).text,isDigitChar c=true ∧ isPySpace c=false := by
    intro c hc
    have hdigit : ∃ k,k<10 ∧ c=Nat.digitChar k := by
      rcases List.mem_append.mp hc with hc|hc
      · exact mem_zeroPadded hc
      · rcases List.mem_append.mp hc with hc|hc
        · exact mem_zeroPadded hc
        · exact mem_zeroPadded hc
    obtain ⟨k,hk,rfl⟩ := hdigit
    exact ⟨(digitChar_lt hk).2.1,(digitChar_lt hk).2.2.1⟩
  have hstrip : strip (dateColumn d).text=(dateColumn d).text :=
    trimList_of_forall_not fun c hc => (hchars c hc).2
  have hlen : (dateColumn d).text.length=8 := (dateColumn d).fits
  have hdigits : isDigits (dateColumn d).text=true := by
    have hne : (dateColumn d).text.isEmpty=false := by
      rw [List.isEmpty_eq_false_iff]
      exact List.ne_nil_of_length_eq_add_one hlen
    rw [isDigits,hne,List.all_eq_true.mpr fun c hc => (hchars c hc).1]
    rfl
  have hyear : (dateColumn d).text.take 4=zeroPadded 4 d.year :=
    List.take_left' (zeroPadded_length 4 _)
  have hrest : (dateColumn d).text.drop 4=zeroPadded 2 d.month++zeroPadded 2 d.day :=
    List.drop_left' (zeroPadded_length 4 _)
  have hmonth : ((dateColumn d).text.drop 4).take 2=zeroPadded 2 d.month := by
    rw [hrest]
    exact List.take_left' (zeroPadded_length 2 _)
  have hday : ((dateColumn d).text.drop 6).take 2=zeroPadded 2 d.day := by
    have hdrop : (dateColumn d).text.drop 6=((dateColumn d).text.drop 4).drop 2 := by
      rw [List.drop_drop]
    rw [hdrop,hrest,List.drop_left' (zeroPadded_length 2 _)]
    exact List.take_of_length_le (Nat.le_of_eq (zeroPadded_length 2 _))
  have hgood : ¬((dateColumn d).text.length≠8 ∨ isDigits (dateColumn d).text=false) := by
    rw [hdigits]
    exact fun h => h.elim (fun h => h hlen) fun h => by cases h
  unfold parseDate
  dsimp only
  rw [hstrip,if_neg hgood,hyear,hmonth,hday,hy,hm,hd]
  dsimp only
  rw [dateOf_eq_some.mpr ⟨rfl,rfl,rfl⟩]

/-- Twelve digits and a sign read as the amount they were written from. -/
theorem parseAmount_digits {amount : Int} (hfit : FitsAmount amount) (n : Nat) (field : String) :
    parseAmount (magnitudeColumn amount).text (signColumn amount).text n field=.ok amount := by
  have hstrip : strip (magnitudeColumn amount).text=zeroPadded 12 amount.natAbs :=
    trimList_zeroPadded 12 _
  have hdigits : isDigits (zeroPadded 12 amount.natAbs)=true := isDigits_zeroPadded (by decide)
  have hnat : natOfDigits (zeroPadded 12 amount.natAbs)=some amount.natAbs :=
    natOfDigits_zeroPadded (by decide) (by decide) hfit
  unfold parseAmount
  rw [hstrip,hdigits,hnat]
  obtain ⟨hneg,hsign⟩|⟨hpos,hsign⟩ := signColumn_text amount
  · have hstripSign : strip ['-']=['-'] := by decide
    have habs : -(amount.natAbs : Int)=amount := by omega
    rw [hsign,hstripSign]
    simpa using habs
  · have hstripSign : strip ['+']=['+'] := by decide
    have habs : (amount.natAbs : Int)=amount := Int.natAbs_of_nonneg hpos
    rw [hsign,hstripSign]
    simpa using habs

section Reading

variable {cols : List Column} {widths : List Nat} {i start : Nat}

theorem slice_column {c : Column} (h : cols[i]?=some c) (hs : offset cols i=start) (n : Nat)
    (field : String) : slice (lineOf cols) start c.width n field=.ok c.text := by
  have hin : ¬(lineOf cols).length<start+c.width := Nat.not_lt.mpr (hs ▸ offset_add_width_le h)
  rw [slice,if_neg hin,← hs,take_drop_lineOf h]

theorem textAt_column {width : Nat} {s : String} (h : cols[i]?=some (textColumn width s))
    (hw : cols.map Column.width=widths)
    (hs : (widths.take i).sum=start) (hfit : FitsText width s) (n : Nat) (field : String) :
    textAt (lineOf cols) start width n field=.ok s := by
  have hslice : slice (lineOf cols) start width n field=.ok (textColumn width s).text :=
    slice_column h (offset_of_widths hw hs) n field
  have htrim : strip (textColumn width s).text=s.toList := trimList_padded hfit.short hfit.bare
  rw [textAt,hslice,bind_pure_ok]
  exact ⟨_,rfl,by rw [htrim,String.ofList_toList]⟩

theorem narrationAt_column {width : Nat} {narration : Option String}
    (h : cols[i]?=some (narrationColumn width narration)) (hw : cols.map Column.width=widths)
    (hs : (widths.take i).sum=start) (hfit : FitsNarration width narration) (n : Nat) :
    narrationAt (lineOf cols) start width n=.ok narration := by
  have hslice : slice (lineOf cols) start width n "narration"=
      .ok (narrationColumn width narration).text :=
    slice_column h (offset_of_widths hw hs) n "narration"
  rw [narrationAt,hslice,bind_pure_ok]
  refine ⟨_,rfl,?_⟩
  cases narration with
  | none =>
    have htrim : rstrip (narrationColumn width none).text=[] :=
      rdropWhile_padded (Nat.zero_le width) rfl
    rw [if_pos htrim]
  | some s =>
    have htrim : rstrip (narrationColumn width (some s)).text=s.toList :=
      rdropWhile_padded hfit.1.short hfit.1.bare
    have hne : s.toList≠[] := fun hnil => hfit.2 (String.toList_eq_nil_iff.mp hnil)
    rw [htrim,if_neg hne,String.ofList_toList]

variable {code : String}

/-- The listed carriers fit their column. -/
theorem airline_fits (h : code∈knownIataAirlineCodes) : FitsText 2 code := by
  have hall : ∀ code∈knownIataAirlineCodes,
      code.toList.length≤2 ∧ strip code.toList=code.toList ∧ '\n'∉code.toList := by decide +kernel
  exact ⟨(hall code h).1,(hall code h).2.1,(hall code h).2.2⟩

theorem airlineAt_column (h : cols[i]?=some (textColumn 2 code)) (hw : cols.map Column.width=widths)
    (hs : (widths.take i).sum=start) (hknown : code∈knownIataAirlineCodes) (n : Nat) :
    airlineAt (lineOf cols) start n=.ok code := by
  have hslice : slice (lineOf cols) start 2 n "airline_code"=.ok (textColumn 2 code).text :=
    slice_column h (offset_of_widths hw hs) n "airline_code"
  rw [airlineAt,hslice,bind_ok]
  have hfit := airline_fits hknown
  have htrim : strip (textColumn 2 code).text=code.toList := trimList_padded hfit.short hfit.bare
  refine ⟨_,rfl,validateAirlineCode_ok.mpr ⟨?_,hknown⟩⟩
  rw [htrim,String.ofList_toList]

theorem dateAt_column {d : CalendarDate} (h : cols[i]?=some (dateColumn d))
    (hw : cols.map Column.width=widths) (hs : (widths.take i).sum=start) (n : Nat)
    (field : String) : dateAt (lineOf cols) start n field=.ok d := by
  have hslice : slice (lineOf cols) start 8 n field=.ok (dateColumn d).text :=
    slice_column h (offset_of_widths hw hs) n field
  obtain ⟨⟨-,hyear⟩,⟨-,hmonth⟩,-,hday⟩ := d.valid
  have hday31 := daysInMonth_le d.year d.month
  have hy : natOfDigits (zeroPadded 4 d.year)=some d.year :=
    natOfDigits_zeroPadded (by decide) (by decide) (by omega)
  have hm : natOfDigits (zeroPadded 2 d.month)=some d.month :=
    natOfDigits_zeroPadded (by decide) (by decide) (by omega)
  have hd : natOfDigits (zeroPadded 2 d.day)=some d.day :=
    natOfDigits_zeroPadded (by decide) (by decide) (by omega)
  rw [dateAt,hslice,bind_ok]
  exact ⟨_,rfl,parseDate_digits hy hm hd⟩

theorem amountAt_column {amount : Int} (h : cols[i]?=some (magnitudeColumn amount))
    (hsign : cols[i+1]?=some (signColumn amount)) (hw : cols.map Column.width=widths)
    (hs : (widths.take i).sum=start) (hfit : FitsAmount amount) (n : Nat) (field : String) :
    amountAt (lineOf cols) start n field=.ok amount := by
  have hslice : slice (lineOf cols) start 12 n field=.ok (magnitudeColumn amount).text :=
    slice_column h (offset_of_widths hw hs) n field
  have hnext : offset cols (i+1)=start+12 := by
    rw [offset_succ h,offset_of_widths hw hs]
    rfl
  have hslice' : slice (lineOf cols) (start+12) 1 n (field++"_sign")=.ok (signColumn amount).text :=
    slice_column hsign hnext n (field++"_sign")
  rw [amountAt,hslice,bind_ok]
  refine ⟨_,rfl,?_⟩
  rw [hslice',bind_ok]
  exact ⟨_,rfl,parseAmount_digits hfit n field⟩

/-- Eight digits read as the count they were written from. -/
theorem parseInt_digits {count : Nat} (h : count<10^8) (n : Nat) (field : String) :
    parseInt (countColumn count).text n field=.ok (count : Int) := by
  have hstrip : strip (zeroPadded 8 count)=zeroPadded 8 count := trimList_zeroPadded 8 _
  have hnat : natOfDigits (zeroPadded 8 count)=some count :=
    natOfDigits_zeroPadded (by decide) (by decide) h
  have hne : zeroPadded 8 count≠[] :=
    List.ne_nil_of_length_eq_add_one (zeroPadded_length 8 count)
  have hint : intOfText (String.ofList (zeroPadded 8 count))=some (count : Int) :=
    intOfText_digits (fun c hc => mem_zeroPadded hc) hnat
  have htext : (countColumn count).text=zeroPadded 8 count := rfl
  rw [parseInt,htext,hstrip,if_neg hne,hint]

end Reading

/-! ## Reading a line -/

section Records

variable (n : Nat)

theorem parseBfh01_columns {h : BFH01FileHeader} (hfit : FitsHeader h) :
    parseBfh01 (lineOf (bfh01Columns h)) n=.ok h := by
  have hwidths := bfh01_widths h
  have hcountry : textAt (lineOf (bfh01Columns h)) 5 2 n "country"=.ok h.country :=
    textAt_column (i:=1) rfl hwidths rfl hfit.country n _
  have hcurrency : textAt (lineOf (bfh01Columns h)) 7 3 n "currency"=.ok h.bspCurrency :=
    textAt_column (i:=2) rfl hwidths rfl hfit.currency n _
  have hagent : textAt (lineOf (bfh01Columns h)) 10 10 n "agent_iata_code"=.ok h.agentIataCode :=
    textAt_column (i:=3) rfl hwidths rfl hfit.agent n _
  have hstart : dateAt (lineOf (bfh01Columns h)) 20 n "period_start"=.ok h.periodStart :=
    dateAt_column (i:=4) rfl hwidths rfl n _
  have hend : dateAt (lineOf (bfh01Columns h)) 28 n "period_end"=.ok h.periodEnd :=
    dateAt_column (i:=5) rfl hwidths rfl n _
  have hseq : textAt (lineOf (bfh01Columns h)) 36 10 n "file_sequence"=.ok h.fileSequence :=
    textAt_column (i:=6) rfl hwidths rfl hfit.sequence n _
  rw [parseBfh01,hcountry,hcurrency,hagent,hstart,hend,hseq]
  rfl

theorem parseBks24_columns {r : BKS24TicketingRecord} (hfit : FitsTicket r) :
    parseBks24 (lineOf (bks24Columns r)) n=.ok r := by
  have hwidths := bks24_widths r
  have hticket : textAt (lineOf (bks24Columns r)) 5 14 n "ticket_number"=.ok r.ticketNumber :=
    textAt_column (i:=1) rfl hwidths rfl hfit.ticket n _
  have hairline : airlineAt (lineOf (bks24Columns r)) 19 n=.ok r.airlineCode :=
    airlineAt_column (i:=2) rfl hwidths rfl hfit.airline n
  have hissue : dateAt (lineOf (bks24Columns r)) 21 n "issue_date"=.ok r.issueDate :=
    dateAt_column (i:=3) rfl hwidths rfl n _
  have hgross : amountAt (lineOf (bks24Columns r)) 29 n "gross"=.ok r.grossFare :=
    amountAt_column (i:=4) rfl rfl hwidths rfl hfit.gross n _
  have hcommission : amountAt (lineOf (bks24Columns r)) 42 n "commission"=.ok r.commission :=
    amountAt_column (i:=6) rfl rfl hwidths rfl hfit.commission n _
  have htaxes : amountAt (lineOf (bks24Columns r)) 55 n "taxes"=.ok r.taxes :=
    amountAt_column (i:=8) rfl rfl hwidths rfl hfit.taxes n _
  have hnet : amountAt (lineOf (bks24Columns r)) 68 n "net"=.ok r.netAmount :=
    amountAt_column (i:=10) rfl rfl hwidths rfl hfit.net n _
  have hnarration : narrationAt (lineOf (bks24Columns r)) 81 119 n=.ok r.narration :=
    narrationAt_column (i:=12) rfl hwidths rfl hfit.narration n
  rw [parseBks24,hticket,hairline,hissue,hgross,hcommission,htaxes,hnet,hnarration]
  rfl

variable {code : RecordCode}

theorem document_columns {document original airline : String} {issue : CalendarDate} {net : Int}
    {narration : Option String} (hfit : FitsDocument document original airline net narration)
    {line : List Char}
    (hline : line=lineOf (documentColumns code document original airline issue net narration))
    (field : String) :
    textAt line 5 14 n field=.ok document ∧
    textAt line 19 14 n "original_ticket_number"=.ok original ∧ airlineAt line 33 n=.ok airline ∧
    dateAt line 35 n "issue_date"=.ok issue ∧ amountAt line 43 n "net"=.ok net ∧
    narrationAt line 56 144 n=.ok narration := by
  subst hline
  have hwidths := document_widths code document original airline issue net narration
  exact ⟨textAt_column (i:=1) rfl hwidths rfl hfit.document n _,
    textAt_column (i:=2) rfl hwidths rfl hfit.original n _,
    airlineAt_column (i:=3) rfl hwidths rfl hfit.airline n,dateAt_column (i:=4) rfl hwidths rfl n _,
    amountAt_column (i:=5) rfl rfl hwidths rfl hfit.net n _,
    narrationAt_column (i:=7) rfl hwidths rfl hfit.narration n⟩

theorem parseBks39_columns {r : BKS39RefundRecord} (hfit : FitsRefund r) :
    parseBks39 (lineOf (bks39Columns r)) n=.ok r := by
  obtain ⟨hdocument,horiginal,hairline,hissue,hnet,hnarration⟩ :=
    document_columns n hfit (Eq.refl (lineOf (bks39Columns r))) "document_number"
  rw [parseBks39,hdocument,horiginal,hairline,hissue,hnet,hnarration]
  rfl

theorem parseBks45_columns {r : BKS45ExchangeRecord} (hfit : FitsExchange r) :
    parseBks45 (lineOf (bks45Columns r)) n=.ok r := by
  obtain ⟨hnew,horiginal,hairline,hissue,hnet,hnarration⟩ :=
    document_columns n hfit (Eq.refl (lineOf (bks45Columns r))) "new_ticket_number"
  rw [parseBks45,hnew,horiginal,hairline,hissue,hnet,hnarration]
  rfl

theorem parseMemo_columns {r : MemoRecord} (hfit : FitsMemo r) :
    parseMemo (lineOf (memoColumns code r)) n=.ok r := by
  have hwidths := memo_widths code r
  have hmemo : textAt (lineOf (memoColumns code r)) 5 14 n "memo_number"=.ok r.memoNumber :=
    textAt_column (i:=1) rfl hwidths rfl hfit.memo n _
  have hairline : airlineAt (lineOf (memoColumns code r)) 19 n=.ok r.airlineCode :=
    airlineAt_column (i:=2) rfl hwidths rfl hfit.airline n
  have hissue : dateAt (lineOf (memoColumns code r)) 21 n "issue_date"=.ok r.issueDate :=
    dateAt_column (i:=3) rfl hwidths rfl n _
  have hamount : amountAt (lineOf (memoColumns code r)) 29 n "amount"=.ok r.amount :=
    amountAt_column (i:=4) rfl rfl hwidths rfl hfit.amount n _
  have hnarration : narrationAt (lineOf (memoColumns code r)) 42 158 n=.ok r.narration :=
    narrationAt_column (i:=6) rfl hwidths rfl hfit.narration n
  rw [parseMemo,hmemo,hairline,hissue,hamount,hnarration]
  rfl

theorem parseBft99_columns {count : Nat} {net : Int} (hfit : FitsTrailer count net) :
    parseBft99 (lineOf (bft99Columns count net)) n=.ok ⟨count,net⟩ := by
  have hwidths := bft99_widths count net
  have hraw : slice (lineOf (bft99Columns count net)) 5 8 n "record_count"=
      .ok (countColumn count).text := slice_column (i:=1) (c:=countColumn count) rfl rfl n _
  have hcount : parseInt (countColumn count).text n "record_count"=.ok (count : Int) :=
    parseInt_digits hfit.count n _
  have hnet : amountAt (lineOf (bft99Columns count net)) 13 n "net_control_total"=.ok net :=
    amountAt_column (i:=2) rfl rfl hwidths rfl hfit.net n _
  rw [parseBft99,bind_ok]
  refine ⟨_,hraw,?_⟩
  rw [bind_ok]
  exact ⟨_,hcount,bind_pure_ok.mpr ⟨net,hnet,rfl⟩⟩

end Records

theorem recordCode_columns (code : RecordCode) (cols : List Column) :
    recordCode (lineOf (codeColumn code::cols))=some code := by
  have htake : (lineOf (codeColumn code::cols)).take 5=code.text.toList :=
    List.take_left' (codeColumn code).fits
  rw [recordCode,htake]
  cases code <;> decide

/-! ## Lines without breaks -/

/-- A line that keeps its end when it is broken off. -/
structure Unbroken (line : List Char) : Prop where
  oneLine : '\n'∉line
  noReturn : line.getLast?≠some '\r'

theorem oneLine_code (code : RecordCode) : '\n'∉(codeColumn code).text := by
  cases code <;> decide

variable {cs : List Char}

theorem oneLine_padded {width : Nat} (h : '\n'∉cs) : '\n'∉(padded width cs).text := by
  intro hmem
  rcases mem_padded hmem with hmem|hmem
  · exact h hmem
  · cases hmem

theorem oneLine_digits (width n : Nat) : '\n'∉zeroPadded width n := by
  intro hmem
  obtain ⟨d,hd,he⟩ := mem_zeroPadded hmem
  exact (digitChar_lt hd).2.2.2.2.1 he.symm

theorem oneLine_date (d : CalendarDate) : '\n'∉(dateColumn d).text := by
  intro hmem
  rcases List.mem_append.mp hmem with hmem|hmem
  · exact oneLine_digits _ _ hmem
  · exact (List.mem_append.mp hmem).elim (oneLine_digits _ _) (oneLine_digits _ _)

theorem oneLine_sign (amount : Int) : '\n'∉(signColumn amount).text := by
  obtain ⟨-,hsign⟩|⟨-,hsign⟩ := signColumn_text amount
  · rw [hsign]
    decide
  · rw [hsign]
    decide

/-- Columns without line breaks before a padded text make an unbroken line. -/
theorem unbroken_padded {cols : List Column} {width : Nat} {cs : List Char} (hpos : 0<width)
    (hshort : cs.length≤width) (hbare : strip cs=cs) (hcs : '\n'∉cs)
    (hcols : ∀ c∈cols,'\n'∉c.text) : Unbroken (lineOf (cols++[padded width cs])) := by
  have hne : (padded width cs).text≠[] := by
    intro hnil
    have hlen := (padded width cs).fits
    rw [hnil] at hlen
    exact Nat.ne_of_lt hpos hlen
  constructor
  · intro hmem
    obtain ⟨c,hc,hbreak⟩ := mem_lineOf.mp hmem
    rcases List.mem_append.mp hc with hc|hc
    · exact hcols c hc hbreak
    · cases List.mem_singleton.mp hc
      exact oneLine_padded hcs hbreak
  · intro hlast
    rw [lineOf_getLast? hne] at hlast
    rcases padded_getLast? hshort hbare hlast with hspace|hspace
    · cases hspace
    · cases hspace

variable {cols : List Column} {narration : Option String}

/-- The same before a narration. -/
theorem unbroken_narration {width : Nat} (hpos : 0<width) (hfit : FitsNarration width narration)
    (hcols : ∀ c∈cols,'\n'∉c.text) :
    Unbroken (lineOf (cols++[narrationColumn width narration])) := by
  cases narration with
  | none => exact unbroken_padded hpos (Nat.zero_le width) rfl List.not_mem_nil hcols
  | some s => exact unbroken_padded hpos hfit.1.short hfit.1.bare hfit.1.oneLine hcols

/-! ## Record lines -/

/-- A line that reads as the item, also among other lines. -/
def Carries (line : List Char) (item : Item) : Prop := Reads line item ∧ Unbroken line

/-- Columns of these widths make a line of the documented length. -/
theorem lineOf_lineLength {widths : List Nat} (h : cols.map Column.width=widths)
    (hsum : widths.sum=lineLength) : (lineOf cols).length=lineLength := by rw [lineOf_length,h,hsum]

theorem header_carries {h : BFH01FileHeader} (hfit : FitsHeader h) :
    Carries (lineOf (bfh01Columns h)) (.header h) := by
  have hcode : recordCode (lineOf (bfh01Columns h))=some .bfh01 := recordCode_columns _ _
  have hread : readRecord (lineOf (bfh01Columns h)) 0=.ok (.header h) := by
    rw [readRecord,hcode]
    exact bind_pure_ok.mpr ⟨h,parseBfh01_columns 0 hfit,rfl⟩
  have hwidth : (lineOf (bfh01Columns h)).length=lineLength :=
    lineOf_lineLength (bfh01_widths h) rfl
  refine ⟨⟨hwidth,hread⟩,?_⟩
  have hcols : ∀ c∈(bfh01Columns h).take 7,'\n'∉c.text := by
    simp only [bfh01Columns,List.take_succ_cons,List.take_zero,List.forall_mem_cons]
    exact ⟨oneLine_code _,oneLine_padded hfit.country.oneLine,oneLine_padded hfit.currency.oneLine,
      oneLine_padded hfit.agent.oneLine,oneLine_date _,oneLine_date _,
      oneLine_padded hfit.sequence.oneLine,List.forall_mem_nil _⟩
  exact @unbroken_padded _ 154 [] (by decide) (Nat.zero_le 154) rfl List.not_mem_nil hcols

theorem ticket_unbroken {r : BKS24TicketingRecord} (hfit : FitsTicket r) :
    Unbroken (lineOf (bks24Columns r)) := by
  have hcols : ∀ c∈(bks24Columns r).take 12,'\n'∉c.text := by
    simp only [bks24Columns,List.take_succ_cons,List.take_zero,List.forall_mem_cons]
    exact ⟨oneLine_code _,oneLine_padded hfit.ticket.oneLine,
      oneLine_padded (airline_fits hfit.airline).oneLine,oneLine_date _,oneLine_digits _ _,
      oneLine_sign _,oneLine_digits _ _,oneLine_sign _,oneLine_digits _ _,oneLine_sign _,
      oneLine_digits _ _,oneLine_sign _,List.forall_mem_nil _⟩
  exact unbroken_narration (by decide) hfit.narration hcols

variable {code : RecordCode} {net : Int}

theorem document_unbroken {document original airline : String} {issue : CalendarDate}
    (hfit : FitsDocument document original airline net narration) :
    Unbroken (lineOf (documentColumns code document original airline issue net narration)) := by
  have hcols : ∀ c∈(documentColumns code document original airline issue net narration).take 7,
      '\n'∉c.text := by
    simp only [documentColumns,List.take_succ_cons,List.take_zero,List.forall_mem_cons]
    exact ⟨oneLine_code _,oneLine_padded hfit.document.oneLine,
      oneLine_padded hfit.original.oneLine,oneLine_padded (airline_fits hfit.airline).oneLine,
      oneLine_date _,oneLine_digits _ _,oneLine_sign _,List.forall_mem_nil _⟩
  exact unbroken_narration (by decide) hfit.narration hcols

theorem memo_unbroken {r : MemoRecord} (hfit : FitsMemo r) :
    Unbroken (lineOf (memoColumns code r)) := by
  have hcols : ∀ c∈(memoColumns code r).take 6,'\n'∉c.text := by
    simp only [memoColumns,List.take_succ_cons,List.take_zero,List.forall_mem_cons]
    exact ⟨oneLine_code _,oneLine_padded hfit.memo.oneLine,
      oneLine_padded (airline_fits hfit.airline).oneLine,oneLine_date _,oneLine_digits _ _,
      oneLine_sign _,List.forall_mem_nil _⟩
  exact unbroken_narration (by decide) hfit.narration hcols

theorem transaction_carries {r : HAFTransactionRecord} (hfit : FitsTransaction r) :
    Carries (lineOf (transactionColumns r)) (.transaction r) := by
  cases r with
  | bks24 r =>
    have hwidth : (lineOf (bks24Columns r)).length=lineLength :=
      lineOf_lineLength (bks24_widths r) rfl
    have hcode : recordCode (lineOf (bks24Columns r))=some .bks24 := recordCode_columns _ _
    have hread : readRecord (lineOf (bks24Columns r)) 0=.ok (.transaction (.bks24 r)) := by
      rw [readRecord,hcode]
      exact bind_pure_ok.mpr ⟨r,parseBks24_columns 0 hfit,rfl⟩
    exact ⟨⟨hwidth,hread⟩,ticket_unbroken hfit⟩
  | bks39 r =>
    have hwidth : (lineOf (bks39Columns r)).length=lineLength :=
      lineOf_lineLength (document_widths _ _ _ _ _ _ _) rfl
    have hcode : recordCode (lineOf (bks39Columns r))=some .bks39 := recordCode_columns _ _
    have hread : readRecord (lineOf (bks39Columns r)) 0=.ok (.transaction (.bks39 r)) := by
      rw [readRecord,hcode]
      exact bind_pure_ok.mpr ⟨r,parseBks39_columns 0 hfit,rfl⟩
    exact ⟨⟨hwidth,hread⟩,document_unbroken hfit⟩
  | bks45 r =>
    have hwidth : (lineOf (bks45Columns r)).length=lineLength :=
      lineOf_lineLength (document_widths _ _ _ _ _ _ _) rfl
    have hcode : recordCode (lineOf (bks45Columns r))=some .bks45 := recordCode_columns _ _
    have hread : readRecord (lineOf (bks45Columns r)) 0=.ok (.transaction (.bks45 r)) := by
      rw [readRecord,hcode]
      exact bind_pure_ok.mpr ⟨r,parseBks45_columns 0 hfit,rfl⟩
    exact ⟨⟨hwidth,hread⟩,document_unbroken hfit⟩
  | bks46 r =>
    have hwidth : (lineOf (memoColumns .bks46 r)).length=lineLength :=
      lineOf_lineLength (memo_widths _ r) rfl
    have hcode : recordCode (lineOf (memoColumns .bks46 r))=some .bks46 := recordCode_columns _ _
    have hread : readRecord (lineOf (memoColumns .bks46 r)) 0=.ok (.transaction (.bks46 r)) := by
      rw [readRecord,hcode]
      exact bind_pure_ok.mpr ⟨r,parseMemo_columns 0 hfit,rfl⟩
    exact ⟨⟨hwidth,hread⟩,memo_unbroken hfit⟩
  | bks47 r =>
    have hwidth : (lineOf (memoColumns .bks47 r)).length=lineLength :=
      lineOf_lineLength (memo_widths _ r) rfl
    have hcode : recordCode (lineOf (memoColumns .bks47 r))=some .bks47 := recordCode_columns _ _
    have hread : readRecord (lineOf (memoColumns .bks47 r)) 0=.ok (.transaction (.bks47 r)) := by
      rw [readRecord,hcode]
      exact bind_pure_ok.mpr ⟨r,parseMemo_columns 0 hfit,rfl⟩
    exact ⟨⟨hwidth,hread⟩,memo_unbroken hfit⟩

theorem trailer_carries {count : Nat} (hfit : FitsTrailer count net) :
    Carries (lineOf (bft99Columns count net)) (.trailer ⟨count,net⟩) := by
  have hcode : recordCode (lineOf (bft99Columns count net))=some .bft99 := recordCode_columns _ _
  have hread : readRecord (lineOf (bft99Columns count net)) 0=.ok (.trailer ⟨count,net⟩) := by
    have hparse : parseBft99 (lineOf (bft99Columns count net)) 0=.ok ⟨count,net⟩ :=
      parseBft99_columns 0 hfit
    rw [readRecord,hcode]
    dsimp only
    rw [hparse]
    rfl
  have hwidth : (lineOf (bft99Columns count net)).length=lineLength :=
    lineOf_lineLength (bft99_widths count net) rfl
  refine ⟨⟨hwidth,hread⟩,?_⟩
  have hcols : ∀ c∈(bft99Columns count net).take 4,'\n'∉c.text := by
    simp only [bft99Columns,List.take_succ_cons,List.take_zero,List.forall_mem_cons]
    exact ⟨oneLine_code _,oneLine_digits _ _,oneLine_digits _ _,oneLine_sign _,
      List.forall_mem_nil _⟩
  exact @unbroken_padded _ 174 [] (by decide) (Nat.zero_le 174) rfl List.not_mem_nil hcols

/-! ## Texts -/

inductive LineBreak where
  | lf | crlf
  deriving DecidableEq

def LineBreak.text : LineBreak → List Char
  | .lf => ['\n']
  | .crlf => ['\r', '\n']

/-- Lines with the break behind each and a last one without. -/
def joinLines (lines : List (List Char × LineBreak)) (last : List Char) : List Char :=
  lines.flatMap (fun l => l.1++l.2.text)++last

theorem crlfToLf_cons {c : Char} (h : ¬(c = '\r' ∧ cs.head?=some '\n')) :
    crlfToLf (c::cs)=c::crlfToLf cs := by
  rw [crlfToLf]
  rintro cs' rfl rfl
  exact h ⟨rfl,rfl⟩

/-- Unbroken lines keep their characters. -/
theorem crlfToLf_append {line cs : List Char} (hline : '\n'∉line)
    (hlast : line.getLast?≠some '\r') : crlfToLf (line++cs)=line++crlfToLf cs := by
  induction line with
  | nil => rfl
  | cons c line ih =>
    have hrest : crlfToLf (line++cs)=line++crlfToLf cs := by
      refine ih (fun h => hline (List.mem_cons_of_mem _ h)) fun h => hlast ?_
      rw [List.getLast?_cons,h]
      rfl
    have hnot : ¬(c = '\r' ∧ (line++cs).head?=some '\n') := by
      rintro ⟨rfl,hhead⟩
      cases line with
      | nil => exact hlast rfl
      | cons d line =>
        cases Option.some.inj hhead
        exact hline (List.mem_cons_of_mem _ List.mem_cons_self)
    rw [List.cons_append,crlfToLf_cons hnot,hrest]
    rfl

theorem crlfToLf_break (b : LineBreak) (cs : List Char) :
    crlfToLf (b.text++cs)= '\n'::crlfToLf cs := by
  cases b with
  | lf => exact crlfToLf_cons fun h => absurd h.1 (by decide)
  | crlf => rfl

section

variable {lines : List (List Char × LineBreak)} {last : List Char}
variable (hlines : ∀ line∈lines.map Prod.fst++[last],Unbroken line)

include hlines

/-- Breaks of either kind become line feeds. -/
theorem crlfToLf_joinLines :
    crlfToLf (joinLines lines last)=['\n'].intercalate (lines.map Prod.fst++[last]) := by
  induction lines with
  | nil =>
    have hlast : Unbroken last := hlines last (List.mem_singleton.mpr rfl)
    have hself := @crlfToLf_append last [] hlast.oneLine hlast.noReturn
    rw [List.append_nil] at hself
    rw [joinLines,List.flatMap_nil,List.nil_append,hself]
    simp [crlfToLf]
  | cons l lines ih =>
    have hl : Unbroken l.1 := hlines l.1 List.mem_cons_self
    have hrest := ih fun line h => hlines line (List.mem_cons_of_mem _ h)
    have hjoin : joinLines (l::lines) last=l.1++(l.2.text++joinLines lines last) := by
      rw [joinLines,List.flatMap_cons,List.append_assoc,List.append_assoc]
      rfl
    have hne : lines.map Prod.fst++[last]≠[] := List.append_ne_nil_of_right_ne_nil _ (by simp)
    rw [hjoin,crlfToLf_append hl.oneLine hl.noReturn,crlfToLf_break,hrest,List.map_cons,
      List.cons_append,List.intercalate_cons_of_ne_nil hne]
    simp

/-- The lines of a text are the lines it was joined from; a blank last one is
no line. -/
theorem rawLines_joinLines :
    rawLines (joinLines lines last)=
      if last=[] then lines.map Prod.fst else lines.map Prod.fst++[last] := by
  have hsplit : (['\n'].intercalate (lines.map Prod.fst++[last])).splitOn '\n'=
      lines.map Prod.fst++[last] :=
    List.splitOn_intercalate '\n' (fun line h => (hlines line h).oneLine)
      (List.append_ne_nil_of_right_ne_nil _ (List.cons_ne_nil _ _))
  unfold rawLines
  dsimp only
  rw [crlfToLf_joinLines hlines,hsplit,List.getLast?_concat,List.dropLast_concat]
  simp only [Option.some.injEq]

end

theorem stripCr_unbroken {line : List Char} (h : Unbroken line) : stripCr line=line := by
  refine List.rdropWhile_eq_self_iff.mpr fun hne hcr => h.noReturn ?_
  rw [List.getLast?_eq_some_getLast hne,of_decide_eq_true hcr]

theorem recordLines_unbroken {raws : List (List Char)} (h : ∀ line∈raws,Unbroken line) :
    recordLines raws=raws.filter fun line => decide (line≠[]) := by
  have hmap : raws.map stripCr=raws := by
    rw [List.map_congr_left fun line hline => stripCr_unbroken (h line hline),List.map_id']
  rw [recordLines,hmap]

/-- The record lines of a text are its lines that are not blank. -/
theorem recordLines_joinLines {lines : List (List Char × LineBreak)} {last : List Char}
    (hlines : ∀ line∈lines.map Prod.fst++[last],Unbroken line) :
    recordLines (rawLines (joinLines lines last))=
      (lines.map Prod.fst++[last]).filter fun line => decide (line≠[]) := by
  rw [rawLines_joinLines hlines]
  split
  · rename_i hblank
    rw [recordLines_unbroken fun line h => hlines line (List.mem_append_left _ h),hblank,
      List.filter_append]
    simp
  · exact recordLines_unbroken hlines

/-! ## Files -/

/-- The record lines of a file. -/
def fileLines (header : BFH01FileHeader) (transactions : List HAFTransactionRecord) (count : Nat)
    (net : Int) : List (List Char) :=
  lineOf (bfh01Columns header)::
    (transactions.map fun r => lineOf (transactionColumns r))++[lineOf (bft99Columns count net)]

def fileItems (header : BFH01FileHeader) (transactions : List HAFTransactionRecord) (count : Nat)
    (net : Int) : List Item :=
  .header header::transactions.map Item.transaction++[.trailer ⟨count,net⟩]

/-- What the items of a file are, by kind. -/
theorem fileItems_kinds (header : BFH01FileHeader) (transactions : List HAFTransactionRecord)
    (count : Nat) (net : Int) :
    (fileItems header transactions count net).filterMap Item.header?=[header] ∧
    (fileItems header transactions count net).filterMap Item.trailer?=[⟨count,net⟩] ∧
    (fileItems header transactions count net).filterMap Item.transaction?=transactions := by
  have hbody : (transactions.map Item.transaction).filterMap Item.header?=[] ∧
      (transactions.map Item.transaction).filterMap Item.trailer?=[] ∧
      (transactions.map Item.transaction).filterMap Item.transaction?=transactions := by
    induction transactions with
    | nil => exact ⟨rfl,rfl,rfl⟩
    | cons r rs ih => exact ⟨ih.1,ih.2.1,congrArg (r::·) ih.2.2⟩
  obtain ⟨hheader,htrailer,htransaction⟩ := hbody
  refine ⟨?_,?_,?_⟩
  · simp [fileItems,Item.header?,List.filterMap_cons,hheader]
  · simp [fileItems,Item.trailer?,List.filterMap_cons,htrailer]
  · simp [fileItems,Item.transaction?,List.filterMap_cons,htransaction]

/-- Each line of a file carries its record. -/
theorem fileLines_carry {header : BFH01FileHeader} {transactions : List HAFTransactionRecord}
    {count : Nat} (hheader : FitsHeader header) (htransactions : ∀ r∈transactions,FitsTransaction r)
    (htrailer : FitsTrailer count net) :
    List.Forall₂ Carries (fileLines header transactions count net)
      (fileItems header transactions count net) := by
  have hbody : List.Forall₂ Carries (transactions.map fun r => lineOf (transactionColumns r))
      (transactions.map Item.transaction) := by
    rw [List.forall₂_map_left_iff,List.forall₂_map_right_iff,List.forall₂_same]
    exact fun r hr => transaction_carries (htransactions r hr)
  exact .cons (header_carries hheader)
    (List.rel_append hbody (.cons (trailer_carries htrailer) .nil))

/-- The parser inverts the documented layout: it reads the text of a file, with
line breaks of either kind and blank lines anywhere, as the header, the
records in order and the trailer it was written from. -/
theorem parseHaf_joinLines {header : BFH01FileHeader} {transactions : List HAFTransactionRecord}
    {count : Nat} {net : Int} {lines : List (List Char × LineBreak)} {last : List Char}
    {sourceRef : String} (hheader : FitsHeader header)
    (htransactions : ∀ r∈transactions,FitsTransaction r) (htrailer : FitsTrailer count net)
    (hlines : (lines.map Prod.fst++[last]).filter (fun line => decide (line≠[]))=
      fileLines header transactions count net) :
    parseHaf (joinLines lines last).utf8Encode sourceRef=
      .ok ⟨header,transactions,⟨count,net⟩,sourceRef⟩ := by
  have hcarry := fileLines_carry hheader htransactions htrailer
  have hunbroken : ∀ line∈lines.map Prod.fst++[last],Unbroken line := by
    intro line hline
    by_cases hblank : line=[]
    · rw [hblank]
      exact ⟨List.not_mem_nil,by decide⟩
    · have hmem : line∈fileLines header transactions count net := by
        rw [← hlines]
        exact List.mem_filter.mpr ⟨hline,decide_eq_true hblank⟩
      obtain ⟨item,-,hitem⟩ := partner_of_mem hcarry hmem
      exact hitem.2
  have hrecords : recordLines (rawLines (joinLines lines last))=
      fileLines header transactions count net := by rw [recordLines_joinLines hunbroken,hlines]
  have hraws : linesOf (joinLines lines last).utf8Encode=some (rawLines (joinLines lines last)) := by
    rw [linesOf,List.utf8Decode?_utf8Encode]
    rfl
  obtain ⟨hh,ht,hr⟩ := fileItems_kinds header transactions count net
  refine parseHaf_ok.mpr ⟨_,_,hraws,?_,hh,ht,hr,rfl⟩
  rw [hrecords]
  exact hcarry.imp fun _ _ h => h.1

theorem firstOfApril : IsDate 2026 4 1 := by decide

theorem middleOfApril : IsDate 2026 4 15 := by decide

/-- A header and a credit memo of one rupee with a narration. -/
def aprilHeader : BFH01FileHeader :=
  ⟨"IN","INR","12345678",⟨2026,4,1,firstOfApril⟩,⟨2026,4,15,middleOfApril⟩,"000001"⟩

def creditMemo : MemoRecord := ⟨"0987654321","AI",⟨2026,4,9,by decide⟩,-100,some "Fare adj."⟩

/-- A blank line, both kinds of line break and none behind the trailer. -/
theorem parseHaf_creditMemo :
    parseHaf (joinLines
      [(lineOf (bfh01Columns aprilHeader),.crlf),([],.lf),
        (lineOf (memoColumns .bks47 creditMemo),.lf)]
      (lineOf (bft99Columns 3 (-100)))).utf8Encode "statement"=
      .ok ⟨aprilHeader,[.bks47 creditMemo],⟨3,-100⟩,"statement"⟩ := by
  have hheader : FitsHeader aprilHeader :=
    ⟨⟨by decide,by decide,by decide⟩,⟨by decide,by decide,by decide⟩,
      ⟨by decide,by decide,by decide⟩,⟨by decide,by decide,by decide⟩⟩
  have hmemo : FitsMemo creditMemo :=
    ⟨⟨by decide,by decide,by decide⟩,by decide,by decide,⟨by decide,by decide,by decide⟩,by decide⟩
  have htransactions : ∀ r∈[HAFTransactionRecord.bks47 creditMemo],FitsTransaction r := by
    intro r hr
    cases List.mem_singleton.mp hr
    exact hmemo
  have htrailer : FitsTrailer 3 (-100) := ⟨by decide,by decide⟩
  exact parseHaf_joinLines hheader htransactions htrailer (by decide +kernel)

end Voyagent.HafEncoding
