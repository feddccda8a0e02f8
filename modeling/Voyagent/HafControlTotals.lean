import Voyagent.ControlTotals
import Voyagent.HafAcceptance
import Voyagent.HafMapping

/-!
# The trailer's control totals

What the trailer of a file declares against what the file carries. Nothing
compares the two: an accepted file has a consistent trailer exactly if its
columns happen to declare the number of record lines and the sum of the nets.
-/

namespace Voyagent.HafControlTotals

open FallibleResults RuntimeValues CalendarDates HafRecords HafParser HafAcceptance HafMapping ControlTotals

/-! ## Columns -/

/-- Start and name of the columns of a transaction's net amount. -/
def netField : RecordCode → Option (Nat × String)
  | .bks24 => some (68,"net")
  | .bks39 => some (43,"net")
  | .bks45 => some (43,"net")
  | .bks46 => some (29,"amount")
  | .bks47 => some (29,"amount")
  | _ => none

/-- A line with the code of a transaction. -/
def isTransactionLine (line : List Char) : Bool := ((recordCode line).bind netField).isSome

/-- The net columns of a transaction line, zero on a line without them. -/
def netColumns (line : List Char) : Int :=
  match (recordCode line).bind netField with
  | none => 0
  | some (start,field) =>
    match amountAt line start 0 field with
    | .ok a => a
    | .error _ => 0

/-- The count columns of a trailer line. -/
def countColumns (line : List Char) : Option Int :=
  (slice line 5 8 0 "record_count" >>= fun raw => parseInt raw 0 "record_count").toOption

/-- The total columns of a trailer line. -/
def totalColumns (line : List Char) : Option Int := (amountAt line 13 0 "net_control_total").toOption

/-- Lines of the form the parser asks for: each of the fixed width with fields
that read, one header and one trailer. -/
structure WellFormed (lines : List (List Char)) : Prop where
  reads : ∀ line∈lines,∃ item,Reads line item
  oneHeader : lines.countP (fun line => decide (recordCode line=some .bfh01))=1
  oneTrailer : lines.countP (fun line => decide (recordCode line=some .bft99))=1

/-- The trailer line declares the number of lines and the sum of the nets. -/
def DeclaresTotals (lines : List (List Char)) : Prop :=
  ∀ line∈lines,recordCode line=some .bft99 →
    countColumns line=some (totals netColumns lines).1 ∧
    totalColumns line=some (totals netColumns lines).2

/-! ## What a line reads as -/

section Lines

variable {line : List Char}

theorem bks24_net {r : BKS24TicketingRecord} (h : parseBks24 line 0=.ok r) :
    amountAt line 68 0 "net"=.ok r.netAmount := by
  unfold parseBks24 at h
  obtain ⟨ticket,-,h⟩ := bind_ok.mp h
  obtain ⟨airline,-,h⟩ := bind_ok.mp h
  obtain ⟨issue,-,h⟩ := bind_ok.mp h
  obtain ⟨gross,-,h⟩ := bind_ok.mp h
  obtain ⟨commission,-,h⟩ := bind_ok.mp h
  obtain ⟨taxes,-,h⟩ := bind_ok.mp h
  obtain ⟨net,hnet,h⟩ := bind_ok.mp h
  obtain ⟨narration,-,h⟩ := bind_ok.mp h
  cases h
  exact hnet

theorem bks39_net {r : BKS39RefundRecord} (h : parseBks39 line 0=.ok r) :
    amountAt line 43 0 "net"=.ok r.netAmount := by
  unfold parseBks39 at h
  obtain ⟨doc,-,h⟩ := bind_ok.mp h
  obtain ⟨original,-,h⟩ := bind_ok.mp h
  obtain ⟨airline,-,h⟩ := bind_ok.mp h
  obtain ⟨issue,-,h⟩ := bind_ok.mp h
  obtain ⟨net,hnet,h⟩ := bind_ok.mp h
  obtain ⟨narration,-,h⟩ := bind_ok.mp h
  cases h
  exact hnet

theorem bks45_net {r : BKS45ExchangeRecord} (h : parseBks45 line 0=.ok r) :
    amountAt line 43 0 "net"=.ok r.netAmount := by
  unfold parseBks45 at h
  obtain ⟨ticket,-,h⟩ := bind_ok.mp h
  obtain ⟨original,-,h⟩ := bind_ok.mp h
  obtain ⟨airline,-,h⟩ := bind_ok.mp h
  obtain ⟨issue,-,h⟩ := bind_ok.mp h
  obtain ⟨net,hnet,h⟩ := bind_ok.mp h
  obtain ⟨narration,-,h⟩ := bind_ok.mp h
  cases h
  exact hnet

theorem memo_amount {r : MemoRecord} (h : parseMemo line 0=.ok r) :
    amountAt line 29 0 "amount"=.ok r.amount := by
  unfold parseMemo at h
  obtain ⟨memo,-,h⟩ := bind_ok.mp h
  obtain ⟨airline,-,h⟩ := bind_ok.mp h
  obtain ⟨issue,-,h⟩ := bind_ok.mp h
  obtain ⟨amount,hamount,h⟩ := bind_ok.mp h
  obtain ⟨narration,-,h⟩ := bind_ok.mp h
  cases h
  exact hamount

theorem bft99_columns {t : BFT99FileTrailer} (h : parseBft99 line 0=.ok t) :
    countColumns line=some t.recordCount ∧ totalColumns line=some t.netControlTotal := by
  unfold parseBft99 at h
  obtain ⟨raw,hraw,h⟩ := bind_ok.mp h
  obtain ⟨count,hcount,h⟩ := bind_ok.mp h
  obtain ⟨net,hnet,h⟩ := bind_ok.mp h
  cases h
  have hread : (slice line 5 8 0 "record_count" >>= fun raw => parseInt raw 0 "record_count")=.ok count :=
    bind_ok.mpr ⟨raw,hraw,hcount⟩
  unfold countColumns totalColumns
  rw [hread,hnet]
  exact ⟨rfl,rfl⟩

/-- The net columns hold what the parser of the record takes for the net. -/
theorem netColumns_of_code {code : RecordCode} {start : Nat} {field : String} {a : Int}
    (hcode : recordCode line=some code) (hfield : netField code=some (start,field))
    (hamount : amountAt line start 0 field=.ok a) :
    isTransactionLine line=true ∧ netColumns line=a := by
  unfold isTransactionLine netColumns
  rw [hcode,Option.bind_some,hfield]
  dsimp only
  rw [hamount]
  exact ⟨rfl,rfl⟩

/-- What a line of the code carries in the columns of the control totals. -/
inductive Carries (line : List Char) : Item → Prop
  | header {h : BFH01FileHeader} (code : recordCode line=some .bfh01) : Carries line (.header h)
  | transaction {r : HAFTransactionRecord} (code : isTransactionLine line=true)
    (net : netColumns line=hafTransactionNet r) : Carries line (.transaction r)
  | trailer {t : BFT99FileTrailer} (code : recordCode line=some .bft99)
    (count : countColumns line=some t.recordCount)
    (total : totalColumns line=some t.netControlTotal) : Carries line (.trailer t)
  | unrecognised (code : recordCode line=none) : Carries line .unrecognised

theorem carries_of_reads {item : Item} (hread : Reads line item) : Carries line item := by
  obtain ⟨-,hread⟩ := hread
  unfold readRecord at hread
  cases hcode : recordCode line with
  | none =>
    rw [hcode] at hread
    cases hread
    exact .unrecognised hcode
  | some code =>
    rw [hcode] at hread
    cases code with
    | bfh01 =>
      obtain ⟨h,-,rfl⟩ := bind_pure_ok.mp hread
      exact .header hcode
    | bks24 =>
      obtain ⟨r,hr,rfl⟩ := bind_pure_ok.mp hread
      obtain ⟨hline,hnet⟩ := netColumns_of_code hcode rfl (bks24_net hr)
      exact .transaction hline hnet
    | bks39 =>
      obtain ⟨r,hr,rfl⟩ := bind_pure_ok.mp hread
      obtain ⟨hline,hnet⟩ := netColumns_of_code hcode rfl (bks39_net hr)
      exact .transaction hline hnet
    | bks45 =>
      obtain ⟨r,hr,rfl⟩ := bind_pure_ok.mp hread
      obtain ⟨hline,hnet⟩ := netColumns_of_code hcode rfl (bks45_net hr)
      exact .transaction hline hnet
    | bks46 | bks47 =>
      obtain ⟨r,hr,rfl⟩ := bind_pure_ok.mp hread
      obtain ⟨hline,hnet⟩ := netColumns_of_code hcode rfl (memo_amount hr)
      exact .transaction hline hnet
    | bft99 =>
      obtain ⟨t,ht,rfl⟩ := bind_pure_ok.mp hread
      obtain ⟨hcount,htotal⟩ := bft99_columns ht
      exact .trailer hcode hcount htotal

/-- Only a transaction line has something in the net columns. -/
theorem netColumns_of_other (h : isTransactionLine line=false) : netColumns line=0 := by
  unfold isTransactionLine at h
  unfold netColumns
  rw [Option.isSome_eq_false_iff,Option.isNone_iff_eq_none] at h
  rw [h]

theorem isTransactionLine_of_code {code : RecordCode} (hcode : recordCode line=some code) :
    isTransactionLine line=(netField code).isSome := by
  unfold isTransactionLine
  rw [hcode,Option.bind_some]

/-- A transaction line has no code without net columns. -/
theorem code_of_transactionLine {code : RecordCode} (hline : isTransactionLine line=true)
    (hfield : netField code=none) : recordCode line≠some code := by
  intro hcode
  rw [isTransactionLine_of_code hcode,hfield] at hline
  cases hline

end Lines

/-! ## Accepted files -/

section Files

variable {lines : List (List Char)} {items : List Item} {content : ByteArray} {sourceRef : String}
  {raws : List (List Char)} {haf : HAFFile}

theorem headers_counted (h : List.Forall₂ Reads lines items) :
    lines.countP (fun line => decide (recordCode line=some .bfh01))=
      (items.filterMap Item.header?).length := by
  rw [List.length_filterMap_eq_countP]
  refine countP_of_forall₂ h fun line item hread => ?_
  cases carries_of_reads hread with
  | header code | trailer code | unrecognised code => simp [code,Item.header?]
  | transaction code _ =>
    have hcode : recordCode line≠some .bfh01 := code_of_transactionLine code rfl
    simp [hcode,Item.header?]

theorem trailers_counted (h : List.Forall₂ Reads lines items) :
    lines.countP (fun line => decide (recordCode line=some .bft99))=
      (items.filterMap Item.trailer?).length := by
  rw [List.length_filterMap_eq_countP]
  refine countP_of_forall₂ h fun line item hread => ?_
  cases carries_of_reads hread with
  | header code | trailer code | unrecognised code => simp [code,Item.trailer?]
  | transaction code _ =>
    have hcode : recordCode line≠some .bft99 := code_of_transactionLine code rfl
    simp [hcode,Item.trailer?]

/-- The net columns add up to the nets of the parsed transactions. -/
theorem nets_summed (h : List.Forall₂ Reads lines items) :
    (lines.map netColumns).sum=((items.filterMap Item.transaction?).map hafTransactionNet).sum := by
  induction h with
  | nil => rfl
  | @cons line item lines items hread _ ih =>
    rw [List.map_cons,List.sum_cons,ih]
    cases carries_of_reads hread with
    | header code | trailer code =>
      rw [netColumns_of_other (isTransactionLine_of_code code)]
      exact Int.zero_add _
    | transaction _ net =>
      rw [net]
      rfl
    | unrecognised code =>
      rw [netColumns_of_other (by unfold isTransactionLine; rw [code]; rfl)]
      exact Int.zero_add _

/-- The parser accepts exactly the well-formed files. -/
theorem accepted_iff :
    (∃ haf,parseHaf content sourceRef=.ok haf) ↔
      ∃ raws,linesOf content=some raws ∧ WellFormed (recordLines raws) := by
  constructor
  · rintro ⟨haf,h⟩
    obtain ⟨raws,items,hraws,hreads,hheader,htrailer,-,-⟩ := parseHaf_ok.mp h
    refine ⟨raws,hraws,?_,?_,?_⟩
    · intro line hline
      obtain ⟨item,-,hread⟩ := partner_of_mem hreads hline
      exact ⟨item,hread⟩
    · rw [headers_counted hreads,hheader]
      rfl
    · rw [trailers_counted hreads,htrailer]
      rfl
  · rintro ⟨raws,hraws,hform⟩
    obtain ⟨items,hreads⟩ := exists_forall₂ hform.reads
    obtain ⟨header,hheader⟩ := List.length_eq_one_iff.mp
      ((headers_counted hreads).symm.trans hform.oneHeader)
    obtain ⟨trailer,htrailer⟩ := List.length_eq_one_iff.mp
      ((trailers_counted hreads).symm.trans hform.oneTrailer)
    exact ⟨⟨header,_,trailer,sourceRef⟩,
      parseHaf_ok.mpr ⟨raws,items,hraws,hreads,hheader,htrailer,rfl,rfl⟩⟩

/-- The trailer of a parsed file against its record lines and transactions. -/
structure Consistent (lines : List (List Char)) (haf : HAFFile) : Prop where
  count : haf.trailer.recordCount=lines.length
  total : haf.trailer.netControlTotal=(haf.transactions.map hafTransactionNet).sum

/-- A parsed file is consistent if the columns of its trailer declare the totals. -/
theorem consistent_iff (hraws : linesOf content=some raws) (h : parseHaf content sourceRef=.ok haf) :
    Consistent (recordLines raws) haf ↔ DeclaresTotals (recordLines raws) := by
  obtain ⟨raws',items,hraws',hreads,-,htrailer,htransactions,-⟩ := parseHaf_ok.mp h
  cases hraws.symm.trans hraws'
  have hnets := nets_summed hreads
  rw [htransactions] at hnets
  constructor
  · rintro ⟨hcount,htotal⟩ line hline hcode
    obtain ⟨item,hitem,hread⟩ := partner_of_mem hreads hline
    cases carries_of_reads hread with
    | header code => cases hcode.symm.trans code
    | transaction code _ => exact absurd hcode (code_of_transactionLine code rfl)
    | @trailer t _ count total =>
      have ht : t∈items.filterMap Item.trailer? := List.mem_filterMap.mpr ⟨_,hitem,rfl⟩
      rw [htrailer] at ht
      cases List.mem_singleton.mp ht
      dsimp only [totals]
      rw [count,total,hcount,htotal,hnets]
      exact ⟨rfl,rfl⟩
    | unrecognised code => cases hcode.symm.trans code
  · intro hdeclares
    have ht : haf.trailer∈items.filterMap Item.trailer? := by
      rw [htrailer]
      exact List.mem_singleton_self _
    obtain ⟨item,hitem,htitem⟩ := List.mem_filterMap.mp ht
    obtain ⟨line,hline,hread⟩ := partner_of_mem hreads.flip hitem
    cases carries_of_reads hread with
    | header => cases htitem
    | transaction => cases htitem
    | trailer code count total =>
      cases htitem
      obtain ⟨hcount,htotal⟩ := hdeclares line hline code
      exact ⟨Option.some.inj (count.symm.trans hcount),
        (Option.some.inj (total.symm.trans htotal)).trans hnets⟩
    | unrecognised => cases htitem

/-! ## Protection -/

/-- Two files of one trailer cannot both declare their totals if one is a
tampered copy of the other. -/
theorem not_both_declared {original : List (List Char)}
    (h : Tampered isTransactionLine netColumns original lines) (hform : WellFormed lines)
    (horiginal : DeclaresTotals original) (hlines : DeclaresTotals lines) : False := by
  obtain ⟨line,hline,hcode⟩ := List.countP_pos_iff.mp (hform.oneTrailer.symm ▸ Nat.one_pos)
  have hcode := of_decide_eq_true hcode
  have hother : isTransactionLine line=false := isTransactionLine_of_code hcode
  have hmem : line∈original := by
    have hkept : line∈lines.filter fun line => !isTransactionLine line :=
      List.mem_filter.mpr ⟨hline,by rw [hother]; rfl⟩
    rw [←filter_of_tampered h] at hkept
    exact (List.mem_filter.mp hkept).1
  obtain ⟨hcount,htotal⟩ := hlines line hline hcode
  obtain ⟨hcount',htotal'⟩ := horiginal line hmem hcode
  refine totals_ne_of_tampered h (Prod.ext ?_ ?_)
  · exact Int.ofNat_inj.mp (Option.some.inj (hcount'.symm.trans hcount))
  · exact Option.some.inj (htotal'.symm.trans htotal)

/-- The control totals of a file protect its settlement: what is accepted is
consistent and settles to the declared total, and it is not accepted if it is
a consistent file with a transaction line dropped (or left blank), duplicated
or altered in its net under the same trailer. -/
structure TotalsProtected (upper : String → String) (content : ByteArray) (sourceRef : String) :
    Prop where
  consistent : ∀ raws haf,linesOf content=some raws → parseHaf content sourceRef=.ok haf →
    Consistent (recordLines raws) haf
  settled : ∀ haf tenantId id now report,parseHaf content sourceRef=.ok haf →
    hafFileToBspReport upper haf tenantId id now=.ok report →
    report.netRemittance.amount=haf.trailer.netControlTotal
  tampered : ∀ original originalRef originalRaws haf raws,linesOf original=some originalRaws →
    parseHaf original originalRef=.ok haf → Consistent (recordLines originalRaws) haf →
    linesOf content=some raws →
    Tampered isTransactionLine netColumns (recordLines originalRaws) (recordLines raws) →
    ∃ e,parseHaf content sourceRef=.error e

/-- The totals protect a file exactly if it is not well formed, or its trailer
happens to declare them. -/
theorem totalsProtected_iff (upper : String → String) (content : ByteArray) (sourceRef : String) :
    TotalsProtected upper content sourceRef ↔
      ∀ raws,linesOf content=some raws → WellFormed (recordLines raws) →
        DeclaresTotals (recordLines raws) := by
  constructor
  · intro hprotected raws hraws hform
    obtain ⟨haf,h⟩ : ∃ haf,parseHaf content sourceRef=.ok haf := accepted_iff.mpr ⟨raws,hraws,hform⟩
    exact (consistent_iff hraws h).mp (hprotected.consistent raws haf hraws h)
  · intro hdeclares
    have hconsistent : ∀ raws haf,linesOf content=some raws → parseHaf content sourceRef=.ok haf →
        Consistent (recordLines raws) haf := by
      intro raws haf hraws h
      obtain ⟨raws',hraws',hform⟩ := accepted_iff.mp ⟨haf,h⟩
      cases hraws.symm.trans hraws'
      exact (consistent_iff hraws h).mpr (hdeclares raws hraws hform)
    refine ⟨hconsistent,?_,?_⟩
    · intro haf tenantId id now report h hreport
      obtain ⟨raws,hraws,-⟩ := accepted_iff.mp ⟨haf,h⟩
      rw [netRemittance_eq hreport,(hconsistent raws haf hraws h).total]
    · intro original originalRef originalRaws originalHaf raws hraws' h' hconsistent' hraws htampered
      cases h : parseHaf content sourceRef with
      | error e => exact ⟨e,rfl⟩
      | ok haf =>
        obtain ⟨_,hraws'',hform⟩ := accepted_iff.mp ⟨haf,h⟩
        cases hraws.symm.trans hraws''
        exact absurd (hdeclares raws hraws hform) fun hlines =>
          not_both_declared htampered hform ((consistent_iff hraws' h').mp hconsistent') hlines

end Files

/-! ## A ticket lost in transit -/

/-- A line padded with spaces to the fixed width. -/
def padded (s : String) : List Char := s.toList++List.replicate (lineLength-s.toList.length) ' '

def headerLine : List Char := padded "BFH01ININR12345678  20260401202604150000000001"

/-- The trailer of a file with one ticket of 9250.00. -/
def trailerLine : List Char := padded "BFT9900000003000000925000+"

/-- The file without the ticket. -/
def lostTicket : List Char := headerLine++['\n']++trailerLine++['\n']

theorem lostTicket_lines : linesOf lostTicket.utf8Encode=some [headerLine,trailerLine] := by
  unfold linesOf
  rw [List.utf8Decode?_utf8Encode]
  decide +kernel

theorem lostTicket_recordLines : recordLines [headerLine,trailerLine]=[headerLine,trailerLine] := by
  decide +kernel

/-- A line whose reading can be computed. -/
theorem reads_of_isSome {line : List Char} (hlength : line.length=lineLength)
    (h : (readRecord line 0).toOption.isSome=true) : ∃ item,Reads line item := by
  cases hread : readRecord line 0 with
  | error e =>
    rw [hread] at h
    cases h
  | ok item => exact ⟨item,hlength,hread⟩

theorem lostTicket_wellFormed : WellFormed [headerLine,trailerLine] := by
  refine ⟨?_,by decide +kernel,by decide +kernel⟩
  intro line hline
  obtain rfl|hline := List.mem_cons.mp hline
  · exact reads_of_isSome (by decide +kernel) (by decide +kernel)
  · cases List.mem_singleton.mp hline
    exact reads_of_isSome (by decide +kernel) (by decide +kernel)

/-- Two record lines with a trailer that declares three are accepted. -/
theorem lostTicket_unprotected : ¬TotalsProtected String.toUpper lostTicket.utf8Encode "statement" := by
  intro hprotected
  obtain ⟨haf,h⟩ := accepted_iff.mpr
    ⟨_,lostTicket_lines,lostTicket_recordLines.symm ▸ lostTicket_wellFormed⟩
  have hdeclares := (consistent_iff lostTicket_lines h).mp (hprotected.consistent _ haf lostTicket_lines h)
  rw [lostTicket_recordLines] at hdeclares
  have hcount := (hdeclares trailerLine (by decide +kernel) (by decide +kernel)).1
  revert hcount
  decide +kernel

end Voyagent.HafControlTotals
