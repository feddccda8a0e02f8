import Voyagent.CanonicalTravel
import Voyagent.CsvRows
import Voyagent.JsonTexts
import Voyagent.PagedListings

/-!
# The audit log as a CSV file

`GET /audit/export.csv` writes the rows of a selection behind a header, one
call of `csv.writer` a row, and refuses selections over its limit. Reading the
file back and reading the JSON pages give the same events.
-/

namespace Voyagent.AuditExport

open RuntimeValues CalendarDates Enquiries TenantListings AuditLog TopRanks CutPages PagedListings
open CsvRows JsonTexts
open AuthEndpoints (HttpError)

/-! ## The export -/

structure CsvDownload where
  filename : String
  body : List Char
  deriving DecidableEq

/-- `AUDIT_CSV_EXPORT_MAX_ROWS`. -/
def auditCsvExportMaxRows : Nat := 100000

/-- `_CSV_COLUMNS`. -/
def csvColumns : List String :=
  ["created_at","kind","actor_kind","actor_id","actor_email","status","summary","payload_json"]

section

variable {υ : Type} [DecidableEq υ]

/-- The `WHERE` clauses of `_build_audit_query_for_export` and of the count before it. -/
def exportSelected (tenant : υ) (actor : Option υ) (query : AuditQuery) (row : AuditEventRow υ) : Bool :=
  decide (row.tenantId=tenant) && actor.all (fun a => decide (row.actorId=some a)) &&
  (parseKinds query.kind).all (fun kinds => kinds.contains row.tool) &&
  query.dateFrom.all (fun d => decide (dayStart d≤row.startedAt)) &&
  query.dateTo.all fun d => decide (row.startedAt<dayStart d+86400)

/-- `_build_audit_query_for_export`, run on a table. -/
def buildAuditQueryForExport (events : List (AuditEventRow υ)) (tenant : υ) (actor : Option υ)
    (query : AuditQuery) : List (AuditEventRow υ) :=
  (events.filter (exportSelected tenant actor query)).mergeSort startedLater

variable (floatText : Rat → String) (render : υ → String) (isoformat : Time → String)
variable (parse : String → Option υ)

/-- The cells of one event; a null actor or e-mail is an empty one. -/
def csvRow (resp : AuditEventResponse) : List String :=
  [isoformat resp.createdAt,resp.kind,resp.actorKind,resp.actorId.getD "",resp.actorEmail.getD "",
    resp.status,resp.summary,String.ofList (dumps floatText (.obj resp.payload))]

/-- `_iter_csv`, its pieces put together. -/
def iterCsv (rows : List AuditEventResponse) : List Char :=
  (csvColumns::rows.map (csvRow floatText isoformat)).flatMap fun row =>
    writeRow (row.map String.toList)

/-- The name the file is offered under. -/
def csvFilename (tenant : υ) (today : CalendarDate) : String :=
  let tenantShort := String.ofList ((render tenant).toList.take 8)
  "voyagent-audit-"++tenantShort++"-"++CanonicalTravel.isoformat today++".csv"

/-- `export_audit_csv`. -/
def exportAuditCsv (users : List (UserEmail υ)) (events : List (AuditEventRow υ)) (p : Principal)
    (query : AuditQuery) (today : CalendarDate) : Except HttpError CsvDownload := do
  let tenant ← tenantUuid parse p
  let actor ← parseActorId parse query.actorId
  let total := (events.filter (exportSelected tenant actor query)).length
  if auditCsvExportMaxRows<total then .error ⟨400,"export_too_large"⟩
  else
    let rows := buildAuditQueryForExport events tenant actor query
    return ⟨csvFilename render tenant today,
      iterCsv floatText isoformat (responses render isoformat users rows)⟩

end

/-! ## Reading the file back -/

/-- An event as the columns of the file have it. -/
structure CsvEvent where
  createdAt : Time
  kind : String
  actorKind : String
  actorId : String
  actorEmail : String
  status : String
  summary : String
  payload : Dict
  deriving DecidableEq

/-- The columns of an event the list answers. -/
def csvEvent (resp : AuditEventResponse) : CsvEvent where
  createdAt := resp.createdAt
  kind := resp.kind
  actorKind := resp.actorKind
  actorId := resp.actorId.getD ""
  actorEmail := resp.actorEmail.getD ""
  status := resp.status
  summary := resp.summary
  payload := resp.payload

section

variable (floatOf : List Char → Option Rat) (fromisoformat : String → Option Time)

/-- The event of one row of cells. -/
def readEvent : List String → Option CsvEvent
  | [created,kind,actorKind,actorId,actorEmail,status,summary,payload] => do
    let createdAt ← fromisoformat created
    match loads floatOf payload.toList with
    | some (.obj payload) =>
      return ⟨createdAt,kind,actorKind,actorId,actorEmail,status,summary,payload⟩
    | _ => none
  | _ => none

/-- The events of a file with the header of the export. -/
def readExport (body : List Char) : Option (List CsvEvent) := do
  let rows ← readRows body
  match rows.map (List.map String.ofList) with
  | header::rows => if header=csvColumns then rows.mapM (readEvent floatOf fromisoformat) else none
  | [] => none

end

/-! ## What is written is read -/

section

variable {υ : Type} {floatText : Rat → String} {floatOf : List Char → Option Rat}
variable {render : υ → String} {isoformat : Time → String} {fromisoformat : String → Option Time}

/-- The JSON columns of a row are read back from their texts. -/
def ColumnsReadable (floatText : Rat → String) (floatOf : List Char → Option Rat)
    (row : AuditEventRow υ) : Prop :=
  Readable floatText floatOf row.inputs ∧ Readable floatText floatOf row.outputs ∧
    Readable floatText floatOf row.entityRefs

theorem readable_orEmpty {value : Json} (h : Readable floatText floatOf value) :
    Readable floatText floatOf (orEmpty value) := by
  unfold orEmpty
  split
  · exact h
  · exact ⟨List.nodup_nil,trivial⟩

/-- A member that may be left out. -/
theorem optional_keys {α : Type} (o : Option α) (k : String) (f : α → Json) :
    ((o.map fun a => (k,f a)).toList.map Prod.fst).Sublist [k] := by
  cases o with
  | none => exact List.nil_sublist _
  | some a => exact List.Sublist.refl _

theorem rowPayload_keys (row : AuditEventRow υ) :
    ((rowPayload render isoformat row).map Prod.fst).Nodup := by
  have hflag : ((if row.approvalRequired=true then [("approval_required",Json.bool true)] else []).map
      Prod.fst).Sublist ["approval_required"] := by
    split
    · exact List.Sublist.refl _
    · exact List.nil_sublist _
  have hall : ((rowPayload render isoformat row).map Prod.fst).Sublist (["inputs","outputs",
      "entity_refs"]++["driver"]++["error"]++["approval_required"]++["approved_by"]++["approved_at"]++
      ["completed_at"]) := by
    unfold rowPayload
    simp only [List.map_append]
    exact ((((((List.Sublist.refl _).append (optional_keys _ _ _)).append
      (optional_keys _ _ _)).append hflag).append (optional_keys _ _ _)).append
      (optional_keys _ _ _)).append (optional_keys _ _ _)
  exact List.Nodup.sublist hall (by decide)

theorem membersReadable_append {fs gs : List (String × Json)}
    (hf : MembersReadable floatText floatOf fs) (hg : MembersReadable floatText floatOf gs) :
    MembersReadable floatText floatOf (fs++gs) := by
  induction fs with
  | nil => exact hg
  | cons e fs ih => exact ⟨hf.1,ih hf.2⟩

theorem optional_readable {α : Type} (o : Option α) (k : String) (f : α → Json)
    (hf : ∀ a,Readable floatText floatOf (f a)) :
    MembersReadable floatText floatOf (o.map fun a => (k,f a)).toList := by
  cases o with
  | none => trivial
  | some a => exact ⟨hf a,trivial⟩

theorem rowPayload_readable {row : AuditEventRow υ} (h : ColumnsReadable floatText floatOf row) :
    Readable floatText floatOf (.obj (rowPayload render isoformat row)) := by
  refine ⟨rowPayload_keys row,?_⟩
  have hflag : MembersReadable floatText floatOf
      (if row.approvalRequired=true then [("approval_required",Json.bool true)] else []) := by
    split
    · exact ⟨trivial,trivial⟩
    · trivial
  have hbase : MembersReadable floatText floatOf [("inputs",orEmpty row.inputs),
      ("outputs",orEmpty row.outputs),("entity_refs",orEmpty row.entityRefs)] :=
    ⟨readable_orEmpty h.1,readable_orEmpty h.2.1,readable_orEmpty h.2.2,trivial⟩
  have htext : ∀ s : String,Readable floatText floatOf (.str s) := fun _ => trivial
  exact membersReadable_append (membersReadable_append (membersReadable_append
    (membersReadable_append (membersReadable_append (membersReadable_append hbase
    (optional_readable _ _ _ htext)) (optional_readable _ _ _ htext)) hflag)
    (optional_readable _ _ _ fun _ => htext _)) (optional_readable _ _ _ fun _ => htext _))
    (optional_readable _ _ _ fun _ => htext _)

/-- The cells of an event are read back as its columns. -/
theorem readEvent_csvRow {resp : AuditEventResponse}
    (hpayload : Readable floatText floatOf (.obj resp.payload))
    (htime : fromisoformat (isoformat resp.createdAt)=some resp.createdAt) :
    readEvent floatOf fromisoformat (csvRow floatText isoformat resp)=some (csvEvent resp) := by
  unfold csvRow readEvent
  simp only [String.toList_ofList,loads_dumps hpayload,htime]
  rfl

variable {rows : List AuditEventResponse}

theorem mapM_readEvent (h : ∀ resp∈rows,Readable floatText floatOf (.obj resp.payload) ∧
      fromisoformat (isoformat resp.createdAt)=some resp.createdAt) :
    (rows.map (csvRow floatText isoformat)).mapM (readEvent floatOf fromisoformat)=
      some (rows.map csvEvent) := by
  induction rows with
  | nil => rfl
  | cons resp rows ih =>
    have hhead := h resp List.mem_cons_self
    rw [List.map_cons,List.mapM_cons,readEvent_csvRow hhead.1 hhead.2,
      ih fun r hr => h r (List.mem_cons_of_mem _ hr)]
    rfl

/-- The file is read back as the events it was written from. -/
theorem readExport_iterCsv (h : ∀ resp∈rows,Readable floatText floatOf (.obj resp.payload) ∧
      fromisoformat (isoformat resp.createdAt)=some resp.createdAt) :
    readExport floatOf fromisoformat (iterCsv floatText isoformat rows)=some (rows.map csvEvent) := by
  have hcells : ∀ cells : List (List String),(cells.map (List.map String.toList)).map
      (List.map String.ofList)=cells := fun cells => by
    rw [List.map_map]
    refine (List.map_congr_left fun row _ => ?_).trans (List.map_id cells)
    rw [Function.comp_apply,List.map_map]
    exact (List.map_congr_left fun text _ => String.ofList_toList).trans (List.map_id row)
  have htext : iterCsv floatText isoformat rows=
      ((csvColumns::rows.map (csvRow floatText isoformat)).map (List.map String.toList)).flatMap
        writeRow := by
    unfold iterCsv
    rw [List.flatMap_map]
  unfold readExport
  rw [htext,readRows_writeRows]
  simp only [Option.bind_eq_bind,Option.bind_some,hcells,if_true]
  exact mapM_readEvent h

/-! ## The export and the pages -/

/-- The same events, both with the most recent first: they differ in the order
of equal timestamps alone. -/
def SameUpToTies (l l' : List CsvEvent) : Prop :=
  l.Perm l' ∧ Descending CsvEvent.createdAt l ∧ Descending CsvEvent.createdAt l'

variable [DecidableEq υ] {parse : String → Option υ} {tenant : υ} {p : Principal}
variable {users : List (UserEmail υ)} {actor : Option υ} {query : AuditQuery}

theorem descending_map_csvEvent {rows : List (AuditEventRow υ)}
    (h : Descending AuditEventRow.startedAt rows) : Descending CsvEvent.createdAt
      ((rows.map (respond render isoformat users)).map csvEvent) :=
  List.pairwise_map.mpr (List.pairwise_map.mpr h)

variable {exported : List (AuditEventRow υ)} {today : CalendarDate}

/-- The answer of the export where it has one. -/
theorem exportAuditCsv_ok (ht : parse p.tenantId=some tenant)
    (hactor : parseActorId parse query.actorId=.ok actor)
    (hsmall : (auditRows exported tenant actor query).length≤auditCsvExportMaxRows) :
    exportAuditCsv floatText render isoformat parse users exported p query today=
      .ok ⟨csvFilename render tenant today,iterCsv floatText isoformat
        ((ranked AuditEventRow.startedAt (auditRows exported tenant actor query)).map
          (respond render isoformat users))⟩ := by
  unfold exportAuditCsv
  rw [tenantUuid_bind ht,hactor]
  change (if auditCsvExportMaxRows<(auditRows exported tenant actor query).length then _ else _)=_
  rw [if_neg (Nat.not_lt.mpr hsmall),responses_eq]
  rfl

theorem exportAuditCsv_refused (ht : parse p.tenantId=some tenant)
    (hactor : parseActorId parse query.actorId=.ok actor)
    (hlarge : auditCsvExportMaxRows<(auditRows exported tenant actor query).length) :
    exportAuditCsv floatText render isoformat parse users exported p query today=
      .error ⟨400,"export_too_large"⟩ := by
  unfold exportAuditCsv
  rw [tenantUuid_bind ht,hactor]
  change (if auditCsvExportMaxRows<(auditRows exported tenant actor query).length then _ else _)=_
  rw [if_pos hlarge]

/-- The pages of the list, put together. -/
def pagedItems (pages : Nat → Listing AuditEventResponse) (m : Nat) : List AuditEventResponse :=
  (List.range m).flatMap fun k => (pages k).items

/-- The file and the first `m` pages for the same filters hold the same events;
each request finds the table in an order of its own. -/
def ExportListsPages (floatText : Rat → String) (floatOf : List Char → Option Rat)
    (render : υ → String) (isoformat : Time → String) (fromisoformat : String → Option Time)
    (parse : String → Option υ) (users : List (UserEmail υ)) (exported : List (AuditEventRow υ))
    (tables : Nat → List (AuditEventRow υ)) (p : Principal) (query : AuditQuery) (today : CalendarDate)
    (limit m : Nat) : Prop :=
  ∃ download pages parsed,
    exportAuditCsv floatText render isoformat parse users exported p query today=.ok download ∧
    (∀ k< m,listAuditEvents render isoformat parse users (tables k) p query limit (k*limit)=
      .ok (pages k)) ∧
    readExport floatOf fromisoformat download.body=some parsed ∧
    SameUpToTies parsed ((pagedItems pages m).map csvEvent)

theorem auditRows_perm {events events' : List (AuditEventRow υ)} (h : events.Perm events') :
    (auditRows events tenant actor query).Perm (auditRows events' tenant actor query) := h.filter _

/-- A page of the list. -/
theorem listAuditEvents_ok (ht : parse p.tenantId=some tenant)
    (hactor : parseActorId parse query.actorId=.ok actor) (events : List (AuditEventRow υ))
    (limit offset : Nat) :
    listAuditEvents render isoformat parse users events p query limit offset=
      .ok ⟨(((ranked AuditEventRow.startedAt (auditRows events tenant actor query)).drop offset).take
        limit).map (respond render isoformat users),
        (auditRows events tenant actor query).length,limit,offset⟩ := by
  unfold listAuditEvents
  rw [tenantUuid_bind ht,hactor]
  change Except.ok _=_
  rw [responses_eq]
  rfl

/-- The pages of the list together: all matching rows, the most recent first. -/
theorem pages_rows {events : List (AuditEventRow υ)} {tables : Nat → List (AuditEventRow υ)}
    {limit m : Nat} (htables : ∀ k,(tables k).Perm events)
    (hcut : (∀ k,tables k=tables 0) ∨
      TiesUncut limit AuditEventRow.startedAt (auditRows events tenant actor query))
    (hm : (auditRows events tenant actor query).length≤ m*limit) :
    let orders := fun k => ranked AuditEventRow.startedAt (auditRows (tables k) tenant actor query)
    (joinedPages limit orders m).Perm (auditRows events tenant actor query) ∧
      Descending AuditEventRow.startedAt (joinedPages limit orders m) := by
  intro orders
  have hperm : ∀ k,(orders k).Perm (auditRows events tenant actor query) := fun k =>
    (ranked_perm _ _).trans (auditRows_perm (htables k))
  have hsorted : ∀ k,Descending AuditEventRow.startedAt (orders k) := fun k => ranked_pairwise _ _
  rcases hcut with hsame|hties
  · have horders : orders=fun _ => orders 0 := funext fun k => by
      change ranked _ (auditRows (tables k) tenant actor query)=_
      rw [hsame k]
    rw [horders,joinedPages_const]
    rw [← (hperm 0).length_eq] at hm
    rw [List.take_of_length_le hm]
    exact ⟨hperm 0,hsorted 0⟩
  · have hranked := ranked_perm AuditEventRow.startedAt (auditRows events tenant actor query)
    have hfirst := ranked_pairwise AuditEventRow.startedAt (auditRows events tenant actor query)
    have huncut := tiesUncut_perm hranked.symm hties
    have hfit : ∀ k,(orders k).Perm (ranked _ (auditRows events tenant actor query)) ∧
        Descending AuditEventRow.startedAt (orders k) := fun k =>
      ⟨(hperm k).trans hranked.symm,hsorted k⟩
    refine ⟨(joinedPages_perm hfirst hfit huncut ?_).trans hranked,
      joinedPages_descending hfirst hfit huncut m⟩
    rwa [hranked.length_eq]

theorem pagedItems_eq {ρ : Type} {limit : Nat} {orders : Nat → List ρ} {totals : Nat → Nat}
    {item : ρ → AuditEventResponse} (m : Nat) :
    pagedItems (fun k => ⟨(((orders k).drop (k*limit)).take limit).map item,totals k,limit,k*limit⟩) m=
      (joinedPages limit orders m).map item := by
  unfold pagedItems joinedPages
  rw [List.map_flatMap]
  rfl

/-- The file holds the events of the JSON pages for the same filters, up to the
order of equal timestamps, and is read back column by column; a selection over
the limit is refused. -/
theorem export_lists_pages {events exported : List (AuditEventRow υ)}
    {tables : Nat → List (AuditEventRow υ)} {limit m : Nat} (today : CalendarDate)
    (ht : parse p.tenantId=some tenant) (hactor : parseActorId parse query.actorId=.ok actor)
    (htables : ∀ k,(tables k).Perm events) (hexported : exported.Perm events)
    (hcolumns : ∀ row∈events,ColumnsReadable floatText floatOf row)
    (htimes : ∀ row∈events,fromisoformat (isoformat row.startedAt)=some row.startedAt)
    (hcut : (∀ k,tables k=tables 0) ∨
      TiesUncut limit AuditEventRow.startedAt (auditRows events tenant actor query))
    (hm : (auditRows events tenant actor query).length≤ m*limit) :
    ((auditRows events tenant actor query).length≤auditCsvExportMaxRows →
      ExportListsPages floatText floatOf render isoformat fromisoformat parse users exported tables p
        query today limit m) ∧
    (auditCsvExportMaxRows<(auditRows events tenant actor query).length →
      exportAuditCsv floatText render isoformat parse users exported p query today=
        .error ⟨400,"export_too_large"⟩) := by
  have hrows := @auditRows_perm υ _ tenant actor query _ _ hexported
  obtain ⟨hpaged,hdescending⟩ := pages_rows htables hcut hm
  constructor
  · intro hsmall
    rw [← hrows.length_eq] at hsmall
    have hranked := ranked_perm AuditEventRow.startedAt (auditRows exported tenant actor query)
    refine ⟨_,_,_,exportAuditCsv_ok ht hactor hsmall,fun k _ => listAuditEvents_ok ht hactor _ _ _,
      readExport_iterCsv fun resp hresp => ?_,?_,?_,?_⟩
    · obtain ⟨row,hrow,rfl⟩ := List.mem_map.mp hresp
      have hevent : row∈events :=
        hexported.mem_iff.mp (List.mem_filter.mp (hranked.mem_iff.mp hrow)).1
      exact ⟨rowPayload_readable (hcolumns row hevent),htimes row hevent⟩
    · rw [pagedItems_eq]
      exact ((hranked.trans (hrows.trans hpaged.symm)).map _).map csvEvent
    · exact descending_map_csvEvent (ranked_pairwise _ _)
    · rw [pagedItems_eq]
      exact descending_map_csvEvent hdescending
  · intro hlarge
    rw [← hrows.length_eq] at hlarge
    exact exportAuditCsv_refused ht hactor hlarge

end

/-! ## A small selection and one over the limit -/

/-- Reading of the one timestamp the events below carry. -/
def batchFromisoformat (text : String) : Option Time :=
  if text="2026-04-01T00:00:00+00:00" then some 1775001600 else none

theorem secondOfApril : IsDate 2026 4 2 := by decide

/-- The desk of the agency downloads its log on the second of April. -/
def downloadDay : CalendarDate := ⟨2026,4,2,secondOfApril⟩

/-- Two events of one moment, listed on one page. -/
theorem export_lists_pages_batch :
    ExportListsPages (fun _ => "0.0") (fun _ => none) id batchIsoformat batchFromisoformat some []
      [batchEvent "b",batchEvent "a"] (fun _ => [batchEvent "a",batchEvent "b"]) deskAdmin {}
      downloadDay 2 1 := by
  have hevents : ∀ row∈[batchEvent "a",batchEvent "b"],
      row=batchEvent "a" ∨ row=batchEvent "b" := fun row hrow => by simpa using hrow
  have hsmall : (auditRows [batchEvent "a",batchEvent "b"] "desk" none {}).length≤1*2 := by decide
  refine (export_lists_pages downloadDay rfl rfl (fun _ => List.Perm.refl _) (List.Perm.swap _ _ _)
    (fun row hrow => ?_) (fun row hrow => ?_) (.inl fun _ => rfl) hsmall).1
    (hsmall.trans (by decide))
  · rcases hevents row hrow with rfl|rfl <;>
      exact ⟨⟨List.nodup_nil,trivial⟩,⟨List.nodup_nil,trivial⟩,⟨List.nodup_nil,trivial⟩⟩
  · rcases hevents row hrow with rfl|rfl <;> rfl

/-- One event a second, one more than a file may have. -/
def crowdedLog : List (AuditEventRow String) := (List.range 100001).map fun (k : Nat) =>
  {id := toString k, tenantId := "desk", actorKind := .system, tool := "auth.verify",
   startedAt := 1775001600+(k : Int)}

/-- The pages list the whole log, and there is no file of it. -/
theorem crowded_log_not_exported :
    ¬ExportListsPages (fun _ => "0.0") (fun _ => none) id batchIsoformat batchFromisoformat some []
      crowdedLog (fun _ => crowdedLog) deskAdmin {} downloadDay 200 501 := by
  rintro ⟨download,pages,parsed,hexport,-⟩
  have hall : auditRows crowdedLog "desk" none {}=crowdedLog := List.filter_eq_self.mpr fun row hrow => by
    obtain ⟨k,-,rfl⟩ := List.mem_map.mp hrow
    rfl
  have hlength : (auditRows crowdedLog "desk" none {}).length=100001 := by
    rw [hall]
    unfold crowdedLog
    rw [List.length_map,List.length_range]
  have hlarge : auditCsvExportMaxRows<(auditRows crowdedLog "desk" none {}).length := by
    rw [hlength]
    decide
  have hrefused : exportAuditCsv (fun _ => "0.0") id batchIsoformat some [] crowdedLog deskAdmin {}
      downloadDay=.error ⟨400,"export_too_large"⟩ := exportAuditCsv_refused rfl rfl hlarge
  rw [hexport] at hrefused
  cases hrefused

end Voyagent.AuditExport
