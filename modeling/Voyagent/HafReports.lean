import Voyagent.DecimalValues
import Voyagent.HafControlTotals

/-!
# What a report keeps of a file

The transactions of a report against the records of the file. The taxes of a
ticket are the one amount that is not carried: the report of a file keeps
every amount exactly if its tickets are without taxes.
-/

namespace Voyagent.HafReports

open FallibleResults RuntimeValues TrimmedText PythonNumbers CalendarDates Decimals DecimalValues HafRecords
  HafParser HafAcceptance HafMapping HafControlTotals

/-! ## Upper case -/

/-- `str.upper`, known by what it does to ASCII texts. -/
structure UpperCase where
  apply : String → String
  ascii : ∀ s : String,(∀ c∈s.toList,c.toNat<128) → apply s=String.ofList (s.toList.map Char.toUpper)

/-- Upper case of the ASCII letters alone. -/
def asciiUpper : UpperCase := ⟨fun s => String.ofList (s.toList.map Char.toUpper),fun _ _ => rfl⟩

/-- The codes of the listed carriers are in upper case, without blanks. -/
theorem knownAirline_kept (upper : UpperCase) {code : String} (h : code∈knownIataAirlineCodes) :
    stripWhitespace (upper.apply code)=code ∧ isIataCode code=true := by
  have hall : knownIataAirlineCodes.all (fun code => code.toList.all (fun c => decide (c.toNat<128)) &&
      decide (stripWhitespace (String.ofList (code.toList.map Char.toUpper))=code) && isIataCode code)=true := by
    decide +kernel
  have hthis := List.all_eq_true.mp hall code h
  simp only [Bool.and_eq_true,List.all_eq_true,decide_eq_true_eq] at hthis
  obtain ⟨⟨hascii,hkept⟩,hcode⟩ := hthis
  rw [upper.ascii code hascii]
  exact ⟨hkept,hcode⟩

/-! ## Parsed records -/

/-- The signed amounts of a record. -/
def amounts : HAFTransactionRecord → List Int
  | .bks24 r => [r.grossFare,r.commission,r.taxes,r.netAmount]
  | record => [hafTransactionNet record]

/-- What the parser has checked of a transaction: a listed carrier, a document
number without blanks around it and amounts of twelve digits. -/
structure Checked (r : HAFTransactionRecord) : Prop where
  airline : airlineCode r∈knownIataAirlineCodes
  documentNumber : stripWhitespace (hafTransactionDocumentNumber r)=hafTransactionDocumentNumber r
  amounts : ∀ a∈amounts r,a.natAbs<10^12

section Parsed

variable {line : List Char} {start length n : Nat} {field : String}

/-- The models trim no more than `str.strip` does. -/
theorem stripWhitespace_strip (raw : List Char) :
    stripWhitespace (String.ofList (strip raw))=String.ofList (strip raw) := by
  refine trimBy_eq_self_iff.mpr fun c hc => ?_
  rw [String.toList_ofList] at hc
  have hspace : isPySpace c=false := hc.elim trimList_head trimList_getLast
  exact (Bool.or_eq_false_iff.mp hspace).1

theorem textAt_trimmed {text : String} (h : textAt line start length n field=.ok text) :
    stripWhitespace text=text := by
  unfold textAt at h
  obtain ⟨raw,-,rfl⟩ := bind_pure_ok.mp h
  exact stripWhitespace_strip raw

theorem airlineAt_known {code : String} (h : airlineAt line start n=.ok code) :
    code∈knownIataAirlineCodes := by
  unfold airlineAt at h
  obtain ⟨raw,-,h⟩ := bind_ok.mp h
  exact (validateAirlineCode_ok.mp h).2

theorem amountAt_lt {a : Int} (h : amountAt line start n field=.ok a) : a.natAbs<10^12 := by
  unfold amountAt at h
  obtain ⟨magnitude,hmagnitude,h⟩ := bind_ok.mp h
  obtain ⟨sign,-,h⟩ := bind_ok.mp h
  have hlength : (strip magnitude).length≤12 := by
    have hinfix := trimList_infix isPySpace magnitude
    refine hinfix.length_le.trans ?_
    unfold slice at hmagnitude
    split at hmagnitude
    · cases hmagnitude
    · cases hmagnitude
      exact List.length_take_le 12 _
  unfold parseAmount at h
  split at h
  · cases h
  · split at h
    · cases h
    · split at h
      · cases h
      · rename_i cents hcents
        have hlt : cents<10^12 :=
          (natOfDigits_lt hcents).trans_le (Nat.pow_le_pow_right (by decide) hlength)
        cases h
        split
        · rwa [Int.natAbs_neg,Int.natAbs_natCast]
        · rwa [Int.natAbs_natCast]

theorem bks24_checked {r : BKS24TicketingRecord} (h : parseBks24 line n=.ok r) : Checked (.bks24 r) := by
  unfold parseBks24 at h
  obtain ⟨ticket,hticket,h⟩ := bind_ok.mp h
  obtain ⟨airline,hairline,h⟩ := bind_ok.mp h
  obtain ⟨issue,-,h⟩ := bind_ok.mp h
  obtain ⟨gross,hgross,h⟩ := bind_ok.mp h
  obtain ⟨commission,hcommission,h⟩ := bind_ok.mp h
  obtain ⟨taxes,htaxes,h⟩ := bind_ok.mp h
  obtain ⟨net,hnet,h⟩ := bind_ok.mp h
  obtain ⟨narration,-,h⟩ := bind_ok.mp h
  cases h
  refine ⟨airlineAt_known hairline,textAt_trimmed hticket,?_⟩
  simp only [amounts,List.forall_mem_cons]
  exact ⟨amountAt_lt hgross,amountAt_lt hcommission,amountAt_lt htaxes,amountAt_lt hnet,nofun⟩

theorem bks39_checked {r : BKS39RefundRecord} (h : parseBks39 line n=.ok r) : Checked (.bks39 r) := by
  unfold parseBks39 at h
  obtain ⟨doc,hdoc,h⟩ := bind_ok.mp h
  obtain ⟨original,-,h⟩ := bind_ok.mp h
  obtain ⟨airline,hairline,h⟩ := bind_ok.mp h
  obtain ⟨issue,-,h⟩ := bind_ok.mp h
  obtain ⟨net,hnet,h⟩ := bind_ok.mp h
  obtain ⟨narration,-,h⟩ := bind_ok.mp h
  cases h
  exact ⟨airlineAt_known hairline,textAt_trimmed hdoc,List.forall_mem_singleton.mpr (amountAt_lt hnet)⟩

theorem bks45_checked {r : BKS45ExchangeRecord} (h : parseBks45 line n=.ok r) : Checked (.bks45 r) := by
  unfold parseBks45 at h
  obtain ⟨ticket,hticket,h⟩ := bind_ok.mp h
  obtain ⟨original,-,h⟩ := bind_ok.mp h
  obtain ⟨airline,hairline,h⟩ := bind_ok.mp h
  obtain ⟨issue,-,h⟩ := bind_ok.mp h
  obtain ⟨net,hnet,h⟩ := bind_ok.mp h
  obtain ⟨narration,-,h⟩ := bind_ok.mp h
  cases h
  exact ⟨airlineAt_known hairline,textAt_trimmed hticket,List.forall_mem_singleton.mpr (amountAt_lt hnet)⟩

/-- The two kinds of memo are checked alike. -/
theorem memo_checked {r : MemoRecord} (h : parseMemo line n=.ok r) :
    Checked (.bks46 r) ∧ Checked (.bks47 r) := by
  unfold parseMemo at h
  obtain ⟨memo,hmemo,h⟩ := bind_ok.mp h
  obtain ⟨airline,hairline,h⟩ := bind_ok.mp h
  obtain ⟨issue,-,h⟩ := bind_ok.mp h
  obtain ⟨amount,hamount,h⟩ := bind_ok.mp h
  obtain ⟨narration,-,h⟩ := bind_ok.mp h
  cases h
  have hlt : ∀ a∈[amount],a.natAbs<10^12 := List.forall_mem_singleton.mpr (amountAt_lt hamount)
  exact ⟨⟨airlineAt_known hairline,textAt_trimmed hmemo,hlt⟩,
    ⟨airlineAt_known hairline,textAt_trimmed hmemo,hlt⟩⟩

theorem checked_of_reads {r : HAFTransactionRecord} (hread : Reads line (.transaction r)) : Checked r := by
  obtain ⟨-,hread⟩ := hread
  unfold readRecord at hread
  split at hread
  · obtain ⟨_,-,h⟩ := bind_pure_ok.mp hread
    cases h
  · obtain ⟨_,hr,h⟩ := bind_pure_ok.mp hread
    cases h
    exact bks24_checked hr
  · obtain ⟨_,hr,h⟩ := bind_pure_ok.mp hread
    cases h
    exact bks39_checked hr
  · obtain ⟨_,hr,h⟩ := bind_pure_ok.mp hread
    cases h
    exact bks45_checked hr
  · obtain ⟨_,hr,h⟩ := bind_pure_ok.mp hread
    cases h
    exact (memo_checked hr).1
  · obtain ⟨_,hr,h⟩ := bind_pure_ok.mp hread
    cases h
    exact (memo_checked hr).2
  · obtain ⟨_,-,h⟩ := bind_pure_ok.mp hread
    cases h
  · cases hread

/-- Every transaction of a parsed file is checked. -/
theorem checked_of_parsed {content : ByteArray} {sourceRef : String} {haf : HAFFile}
    (h : parseHaf content sourceRef=.ok haf) : ∀ r∈haf.transactions,Checked r := by
  obtain ⟨raws,items,-,hreads,-,-,htransactions,-⟩ := parseHaf_ok.mp h
  intro r hr
  rw [← htransactions] at hr
  obtain ⟨item,hitem,htransaction⟩ := List.mem_filterMap.mp hr
  obtain ⟨line,-,hread⟩ := partner_of_mem hreads.flip hitem
  cases item with
  | transaction r' =>
    cases htransaction
    exact checked_of_reads hread
  | header => cases htransaction
  | trailer => cases htransaction
  | unrecognised => cases htransaction

end Parsed

/-! ## What is to be kept -/

/-- The gross fare, on tickets. -/
def grossFare? : HAFTransactionRecord → Option Int
  | .bks24 r => some r.grossFare
  | _ => none

/-- The commission, on tickets. -/
def commission? : HAFTransactionRecord → Option Int
  | .bks24 r => some r.commission
  | _ => none

/-- The taxes, on tickets. -/
def taxes? : HAFTransactionRecord → Option Int
  | .bks24 r => some r.taxes
  | _ => none

/-- The net amount of refunds and exchanges. -/
def refundNet? : HAFTransactionRecord → Option Int
  | .bks39 r => some r.netAmount
  | .bks45 r => some r.netAmount
  | _ => none

/-- The commission of a transaction, zero without one. -/
def commissionAmount (t : BSPTransaction) : Int := (t.commission.map Money.amount).getD 0

/-- The tax amounts of a transaction. -/
def taxAmount (t : BSPTransaction) : Int := (t.taxes.map fun line => line.taxAmount.amount).sum

/-- The transaction carries its record with each amount the record has. -/
structure Carried (r : HAFTransactionRecord) (t : BSPTransaction) : Prop where
  kind : t.kind=hafTransactionKind r
  documentNumber : t.documentNumber=hafTransactionDocumentNumber r
  issueDate : t.issueDate=issueDate r
  airline : t.airline=airlineCode r
  net : t.net.amount=hafTransactionNet r
  gross : ∀ a,grossFare? r=some a → t.gross.amount=a
  commission : ∀ a,commission? r=some a → commissionAmount t=a
  taxes : ∀ a,taxes? r=some a → taxAmount t=a

/-- The totals of a report are the sums over the records. -/
structure Summed (records : List HAFTransactionRecord) (report : BSPReport) : Prop where
  sales : report.salesTotal.amount=(records.filterMap grossFare?).sum
  refund : report.refundTotal.amount=(records.filterMap refundNet?).sum
  commission : report.commissionTotal.amount=(records.filterMap commission?).sum
  net : report.netRemittance.amount=(records.map hafTransactionNet).sum

/-- One transaction for each record, in order, and the totals. -/
structure Preserved (haf : HAFFile) (report : BSPReport) : Prop where
  transactions : List.Forall₂ Carried haf.transactions report.transactions
  totals : Summed haf.transactions report

/-- No ticket of the file has taxes. -/
def Untaxed (haf : HAFFile) : Prop := ∀ r∈haf.transactions,∀ a,taxes? r=some a → a=0

/-! ## Transactions -/

section Transactions

variable {upper : UpperCase} {currency : String} {records : List HAFTransactionRecord}
  {transactions : List BSPTransaction} {r : HAFTransactionRecord} {t : BSPTransaction}

/-- A commission of zero is left out, which is as good as carried. -/
theorem commissionOf_amount {commission : Option Money}
    (h : commissionOf upper.apply currency r=.ok commission) {a : Int} (ha : commission? r=some a) :
    (commission.map Money.amount).getD 0=a := by
  cases r with
  | bks24 r =>
    cases ha
    unfold commissionOf at h
    dsimp only at h
    split at h
    · obtain ⟨m,hm,rfl⟩ := bind_pure_ok.mp ((map_eq_pure_bind ..).symm.trans h)
      exact money_amount hm
    · rename_i hzero
      cases h
      exact (not_not.mp hzero).symm
  | bks39 => cases ha
  | bks45 => cases ha
  | bks46 => cases ha
  | bks47 => cases ha

/-- The transaction of a checked record: everything but the taxes. -/
theorem transaction_of_record (hr : Checked r)
    (h : hafRecordToBspTransaction upper.apply currency r=.ok t) :
    t.taxes=[] ∧ (Carried r t ↔ ∀ a,taxes? r=some a → a=0) := by
  have hnet := net_of_record h
  unfold hafRecordToBspTransaction at h
  obtain ⟨commission,hcommission,h⟩ := bind_ok.mp h
  obtain ⟨gross,hgross,h⟩ := bind_ok.mp h
  obtain ⟨net,-,h⟩ := bind_ok.mp h
  dsimp only at h
  split at h
  · cases h
    refine ⟨rfl,fun hcarried a ha => (hcarried.taxes a ha).symm,fun huntaxed => ?_⟩
    constructor
    · rfl
    · exact hr.documentNumber
    · rfl
    · exact (knownAirline_kept upper hr.airline).1
    · exact hnet
    · intro a ha
      have hamount : gross.amount=grossOf r := money_amount hgross
      cases r with
      | bks24 => exact hamount.trans (Option.some.inj ha)
      | bks39 => cases ha
      | bks45 => cases ha
      | bks46 => cases ha
      | bks47 => cases ha
    · exact fun a ha => commissionOf_amount hcommission ha
    · exact fun a ha => (huntaxed a ha).symm
  · cases h

/-- The loop over the records sums the amounts kind by kind. -/
theorem totals_foldl
    (h : List.Forall₂ (fun r t => hafRecordToBspTransaction upper.apply currency r=.ok t) records
      transactions) (t : Totals) :
    (records.zip transactions).foldl Totals.add t=
      ⟨t.sales+(records.filterMap grossFare?).sum,t.refund+(records.filterMap refundNet?).sum,
        t.commission+(records.filterMap commission?).sum,t.net+(records.map hafTransactionNet).sum⟩ := by
  induction h generalizing t with
  | nil => simp
  | @cons r u records transactions hrecord _ ih =>
    rw [List.zip_cons_cons,List.foldl_cons,ih]
    have hnet := net_of_record hrecord
    cases r <;>
      simp [Totals.add,hnet,List.filterMap_cons,grossFare?,refundNet?,commission?,hafTransactionNet,
        Int.add_assoc]

end Transactions

/-! ## Reports -/

section Reports

variable {upper : UpperCase} {haf : HAFFile} {tenantId id : EntityId} {now : Time} {report : BSPReport}

theorem report_transactions (h : hafFileToBspReport upper.apply haf tenantId id now=.ok report) :
    List.Forall₂ (fun r t => hafRecordToBspTransaction upper.apply (upper.apply haf.header.bspCurrency) r=.ok t)
      haf.transactions report.transactions := by
  obtain ⟨totals,hmade⟩ := madeOf_report h
  exact mapM_ok.mp hmade.transactions

/-- The totals of a report are exact. -/
theorem report_summed (h : hafFileToBspReport upper.apply haf tenantId id now=.ok report) :
    Summed haf.transactions report := by
  obtain ⟨totals,hmade⟩ := madeOf_report h
  have htotals := totals_foldl (mapM_ok.mp hmade.transactions) {}
  rw [hmade.summed] at htotals
  constructor
  · rw [money_amount hmade.sales,htotals]
    exact Int.zero_add _
  · rw [money_amount hmade.refund,htotals]
    exact Int.zero_add _
  · rw [money_amount hmade.commission,htotals]
    exact Int.zero_add _
  · exact netRemittance_eq h

/-- Records are carried one by one if their taxes are zero. -/
theorem carried_iff {currency : String} {records : List HAFTransactionRecord}
    {transactions : List BSPTransaction} (hchecked : ∀ r∈records,Checked r)
    (h : List.Forall₂ (fun r t => hafRecordToBspTransaction upper.apply currency r=.ok t) records
      transactions) :
    List.Forall₂ Carried records transactions ↔ ∀ r∈records,∀ a,taxes? r=some a → a=0 := by
  induction h with
  | nil => exact iff_of_true .nil nofun
  | cons hrecord _ ih =>
    rw [List.forall₂_cons,List.forall_mem_cons,ih fun r hr => hchecked r (List.mem_cons_of_mem _ hr),
      (transaction_of_record (hchecked _ List.mem_cons_self) hrecord).2]

end Reports

/-- The report of a parsed file has its transactions in order with every
amount, and exact totals, if and only if no ticket has taxes. -/
theorem preserved_iff_untaxed (upper : UpperCase) {content : ByteArray} {sourceRef : String}
    {haf : HAFFile} {tenantId id : EntityId} {now : Time} {report : BSPReport}
    (h : parseHaf content sourceRef=.ok haf)
    (hreport : hafFileToBspReport upper.apply haf tenantId id now=.ok report) :
    Preserved haf report ↔ Untaxed haf := by
  have hcarried := carried_iff (checked_of_parsed h) (report_transactions hreport)
  constructor
  · exact fun hpreserved => hcarried.mp hpreserved.transactions
  · exact fun huntaxed => ⟨hcarried.mpr huntaxed,report_summed hreport⟩

/-! ## A ticket with taxes -/

deriving instance DecidableEq for Collected

theorem parseHaf_of_collected {content : ByteArray} {raws : List (List Char)} {sourceRef : String}
    {header : BFH01FileHeader} {transactions : List HAFTransactionRecord} {trailer : BFT99FileTrailer}
    (hraws : linesOf content=some raws)
    (h : takeLines {} 1 raws=.ok ⟨some header,transactions,some trailer⟩) :
    parseHaf content sourceRef=.ok ⟨header,transactions,trailer,sourceRef⟩ := by
  unfold parseHaf
  rw [hraws]
  dsimp only
  rw [h]
  rfl

/-- A ticket of 9400.00, less a commission of 500.00, with taxes of 350.00. -/
def ticketLine : List Char :=
  padded "BKS241761234567890 EK20260405000000940000+000000050000-000000035000+000000925000+"

def ticketText : List Char := headerLine++['\n']++ticketLine++['\n']++trailerLine++['\n']

def ticketRecord : BKS24TicketingRecord :=
  ⟨"1761234567890","EK",⟨2026,4,5,by decide⟩,940000,-50000,35000,925000,none⟩

theorem firstOfApril : IsDate 2026 4 1 := by decide

theorem middleOfApril : IsDate 2026 4 15 := by decide

theorem sixteenthOfApril : IsDate 2026 4 16 := by decide

theorem fifthOfApril : IsDate 2026 4 5 := by decide

def ticketFile : HAFFile :=
  ⟨⟨"IN","INR","12345678",⟨2026,4,1,firstOfApril⟩,⟨2026,4,15,middleOfApril⟩,"0000000001"⟩,
    [.bks24 ticketRecord],⟨3,925000⟩,"statement"⟩

theorem ticketText_lines : linesOf ticketText.utf8Encode=some [headerLine,ticketLine,trailerLine] := by
  unfold linesOf
  rw [List.utf8Decode?_utf8Encode]
  decide +kernel

theorem ticketText_parsed : parseHaf ticketText.utf8Encode "statement"=.ok ticketFile :=
  parseHaf_of_collected ticketText_lines (by decide +kernel)

def rupees (amount : Int) : Money := ⟨amount,"INR",by decide⟩

theorem halfApril_ordered :
    (⟨2026,4,1,firstOfApril⟩ : CalendarDate).ordinal<
      (⟨2026,4,16,sixteenthOfApril⟩ : CalendarDate).ordinal := by decide

/-- The report of the file, without the taxes. -/
def ticketReport : BSPReport :=
  { id := "report"
    tenantId := "tenant"
    country := "IN"
    period := ⟨⟨2026,4,1,firstOfApril⟩,⟨2026,4,16,sixteenthOfApril⟩,halfApril_ordered⟩
    airline := none
    salesTotal := rupees 940000
    refundTotal := rupees 0
    commissionTotal := rupees (-50000)
    netRemittance := rupees 925000
    transactions := [
      { kind := .sale
        documentNumber := "1761234567890"
        issueDate := ⟨2026,4,5,fifthOfApril⟩
        airline := "EK"
        gross := rupees 940000
        commission := some (rupees (-50000))
        taxes := []
        net := rupees 925000
        internalTicketId := none }]
    sourceRef := "statement"
    createdAt := 0
    updatedAt := 0 }

theorem ticketFile_reported :
    hafFileToBspReport asciiUpper.apply ticketFile "tenant" "report" 0=.ok ticketReport := by
  decide +kernel

theorem ticketReport_not_preserved : ¬Preserved ticketFile ticketReport := by
  intro hpreserved
  have huntaxed := (preserved_iff_untaxed asciiUpper ticketText_parsed ticketFile_reported).mp hpreserved
  have htaxes : (35000 : Int)=0 := huntaxed _ List.mem_cons_self 35000 rfl
  cases htaxes

/-- A parsed file whose report lacks the taxes of its ticket. -/
theorem taxes_dropped :
    ¬∀ (upper : UpperCase) (content : ByteArray) (sourceRef : String) (haf : HAFFile)
      (tenantId id : EntityId) (now : Time) (report : BSPReport),parseHaf content sourceRef=.ok haf →
        hafFileToBspReport upper.apply haf tenantId id now=.ok report → Preserved haf report := by
  intro hclaim
  have hpreserved := hclaim asciiUpper _ _ _ _ _ _ _ ticketText_parsed ticketFile_reported
  have hcarried := hpreserved.transactions
  cases hcarried with
  | cons hticket _ =>
    have htaxes := hticket.taxes 35000 rfl
    cases htaxes

end Voyagent.HafReports
