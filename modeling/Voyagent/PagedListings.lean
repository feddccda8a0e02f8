import Mathlib.Data.Int.Order.Basic
import Voyagent.AuditLog
import Voyagent.CutPages

/-!
# Reading a listing page after page

The approvals, enquiries and audit lists order by a timestamp alone and cut
pages by limit and offset. The database may return equal timestamps in another
order on each request, so the pages are a partition of the matching rows
exactly when no group of equal timestamps reaches over the end of a page.
-/

namespace Voyagent.PagedListings

open RuntimeValues CalendarDates Sessions Enquiries TenantListings AuditLog TopRanks CutPages
open AuthEndpoints (HttpError)

/-! ## One listing -/

section

variable {ρ σ β ι : Type} {request : List ρ → Nat → Except HttpError (Listing β)} {table : List ρ}
variable {limit : Nat} {f : ρ → σ} {select : σ → Bool} {item : σ → β} {key : σ → Time}

/-- The pages of a listing are answered with the number of matching items, and
together they are these items, in whatever order each request finds the table. -/
def PagesPartition (request : List ρ → Nat → Except HttpError (Listing β)) (table : List ρ)
    (limit : Nat) (matching : List β) : Prop :=
  ∀ tables : Nat → List ρ,(∀ k,(tables k).Perm table) → ∀ m,matching.length≤ m*limit →
    ∃ pages : Nat → Listing β,
      (∀ k< m,request (tables k) (k*limit)=.ok (pages k) ∧ (pages k).total=matching.length) ∧
      ((List.range m).flatMap fun k => (pages k).items).Perm matching

/-- Rows of a table as a statement selects them, some of them updated before. -/
def selectedRows (f : ρ → σ) (select : σ → Bool) (table : List ρ) : List σ := (table.map f).filter select

theorem selectedRows_perm {table' : List ρ} (h : table.Perm table') :
    (selectedRows f select table).Perm (selectedRows f select table') := (h.map f).filter select

/-- Every order of the selected rows comes from some order of the table. -/
theorem exists_table {o : List σ} (h : o.Perm (selectedRows f select table)) :
    ∃ table',table'.Perm table ∧ selectedRows f select table'=o := by
  unfold selectedRows at h
  rw [List.filter_map] at h
  have hcomp := congrFun (congrFun (List.eq_map_comp_perm f) o) (table.filter (select ∘ f))
  obtain ⟨kept,hkept,hperm⟩ := hcomp.mpr h
  have hchosen : kept.filter (select ∘ f)=kept :=
    List.filter_eq_self.mpr fun row hrow => (List.mem_filter.mp (hperm.mem_iff.mp hrow)).2
  refine ⟨kept++table.filter (fun row => !(select ∘ f) row),?_,?_⟩
  · exact (hperm.append_right _).trans (List.filter_append_perm _ _)
  · unfold selectedRows
    have hrest : (table.filter fun row => !(select ∘ f) row).filter (select ∘ f)=[] := by
      rw [List.filter_filter]
      exact List.filter_eq_nil_iff.mpr fun row _ => by simp
    rw [List.filter_map,List.filter_append,hrest,List.append_nil,hchosen,← hkept]

theorem flatMap_page_items (orders : Nat → List σ) (m : Nat) :
    ((List.range m).flatMap fun k => (page (ranksFirst key) item limit (k*limit) (orders k)).items)=
      (joinedPages limit (fun k => ranked key (orders k)) m).map item := by
  unfold joinedPages
  rw [List.map_flatMap]
  rfl

theorem ranked_eq_self {l : List σ} (h : Descending key l) : ranked key l=l :=
  List.mergeSort_of_pairwise (h.imp fun hxy => decide_eq_true hxy)

/-- A listing that orders by a key is a partition exactly when no tie is cut. -/
theorem pagesPartition_iff
    (hrequest : ∀ t offset,request t offset=
      .ok (page (ranksFirst key) item limit offset (selectedRows f select t)))
    (hnodup : ((selectedRows f select table).map item).Nodup) :
    PagesPartition request table limit ((selectedRows f select table).map item) ↔
      TiesUncut limit key (selectedRows f select table) := by
  have hsorted := ranked_pairwise key (selectedRows f select table)
  have hperm := ranked_perm key (selectedRows f select table)
  constructor
  · intro h
    refine tiesUncut_perm hperm (tiesUncut_of_joinedPages hsorted fun orders horders m hm => ?_)
    have hexists : ∀ k,∃ t : List ρ,t.Perm table ∧ selectedRows f select t=orders k := fun k =>
      exists_table ((horders k).1.trans hperm)
    choose tables htables hselected using hexists
    rw [hperm.length_eq] at hm
    obtain ⟨pages,hpages,hjoined⟩ := h tables htables m (by rwa [List.length_map])
    have hitems : ((List.range m).flatMap fun k => (pages k).items)=
        (joinedPages limit orders m).map item := by
      have hranked : (fun k => ranked key (orders k))=orders :=
        funext fun k => ranked_eq_self (horders k).2
      rw [← hranked,← flatMap_page_items]
      refine List.flatMap_congr fun k hk => ?_
      have hpage := (hpages k (List.mem_range.mp hk)).1
      rw [hrequest,hselected] at hpage
      rw [← Except.ok.inj hpage]
    rw [hitems] at hjoined
    exact (hjoined.nodup_iff.mpr hnodup).of_map
  · intro hties tables htables m hm
    have horders : ∀ k,(ranked key (selectedRows f select (tables k))).Perm
        (ranked key (selectedRows f select table)) ∧
        Descending key (ranked key (selectedRows f select (tables k))) := fun k =>
      ⟨(ranked_perm key _).trans ((selectedRows_perm (htables k)).trans hperm.symm),
        ranked_pairwise key _⟩
    refine ⟨fun k => page (ranksFirst key) item limit (k*limit) (selectedRows f select (tables k)),
      fun k _ => ⟨hrequest _ _,?_⟩,?_⟩
    · rw [List.length_map]
      exact (selectedRows_perm (htables k)).length_eq
    · rw [flatMap_page_items]
      refine (List.Perm.map item ?_).trans (hperm.map item)
      refine joinedPages_perm hsorted horders (tiesUncut_perm hperm.symm hties) ?_
      rwa [hperm.length_eq,← List.length_map item]

/-- Items carry the key of their row, so no two are equal. -/
theorem items_nodup (itemId : β → ι) (rowId : ρ → ι) (hid : ∀ row,itemId (item (f row))=rowId row)
    (hkeys : (table.map rowId).Nodup) : ((selectedRows f select table).map item).Nodup := by
  refine List.Nodup.of_map itemId ?_
  have hall : ((table.map f).map item).map itemId=table.map rowId := by
    rw [List.map_map,List.map_map]
    exact List.map_congr_left fun row _ => hid row
  refine List.Nodup.sublist ?_ (hall ▸ hkeys)
  exact (List.filter_sublist.map item).map itemId

end

/-! ## The three listings -/

section

variable {υ : Type} [DecidableEq υ] {parse : String → Option υ} {tenant : υ} {p : Principal}

/-- The sweep changes rows one by one and leaves their keys. -/
theorem sweepExpired_map (sessions : List (SessionRow υ)) (now : Time) :
    ∃ f : PendingApprovalRow υ → PendingApprovalRow υ,
      (∀ rows,sweepExpired sessions tenant now rows=rows.map f) ∧ ∀ row,(f row).id=row.id := by
  refine ⟨_,fun _ => rfl,fun row => ?_⟩
  split <;> rfl

theorem approvals_partition_iff {sessions : List (SessionRow υ)}
    {approvals : List (PendingApprovalRow υ)} {now : Time} {q : ApprovalQuery} {sid : Option υ}
    (ht : parse p.tenantId=some tenant) (hsid : parseSessionIdOrNone parse q.sessionId=.ok sid)
    (hkeys : (approvals.map PendingApprovalRow.id).Nodup) :
    PagesPartition (fun t offset => listApprovals parse sessions t now p {q with offset := offset})
        approvals q.limit ((approvalRows sessions approvals tenant now q sid).map rowToItem) ↔
      TiesUncut q.limit PendingApprovalRow.requestedAt
        (approvalRows sessions approvals tenant now q sid) := by
  obtain ⟨f,hsweep,hid⟩ := @sweepExpired_map υ _ tenant sessions now
  have hrows : ∀ t,approvalRows sessions t tenant now q sid=selectedRows f (fun row =>
      ownsSession sessions tenant row.sessionId && approvalSelected q sid row) t := fun t => by
    unfold approvalRows selectedRows
    rw [hsweep]
  rw [hrows]
  refine pagesPartition_iff (fun t offset => ?_) (items_nodup ApprovalItem.id _ hid hkeys)
  unfold listApprovals
  rw [tenantUuid_bind ht,← hrows]
  dsimp only
  rw [hsid]
  rfl

theorem enquiries_partition_iff {ilike : Ilike} {enquiries : List (EnquiryRow υ)}
    {query : EnquiryQuery} (ht : parse p.tenantId=some tenant)
    (hdepart : inverted query.departFrom query.departTo=false)
    (hcreated : inverted query.createdFrom query.createdTo=false)
    (hkeys : (enquiries.map EnquiryRow.id).Nodup) :
    PagesPartition (fun t offset => listEnquiries parse ilike t p {query with offset := offset})
        enquiries query.limit (enquiryRows ilike enquiries tenant query) ↔
      TiesUncut query.limit EnquiryRow.createdAt (enquiryRows ilike enquiries tenant query) := by
  have hrows : ∀ t,enquiryRows ilike t tenant query=selectedRows id (fun row =>
      decide (row.tenantId=tenant) && enquirySelected ilike query row) t := fun t => by
    unfold enquiryRows selectedRows
    rw [List.map_id]
  rw [hrows,← List.map_id (selectedRows id _ enquiries)]
  nth_rewrite 2 [List.map_id]
  refine pagesPartition_iff (fun t offset => ?_)
    (items_nodup EnquiryRow.id EnquiryRow.id (fun _ => rfl) hkeys)
  unfold listEnquiries
  rw [tenantUuid_bind ht,← hrows]
  dsimp only
  rw [if_neg (by rw [hdepart]; exact Bool.false_ne_true),
    if_neg (by rw [hcreated]; exact Bool.false_ne_true)]
  rfl

theorem events_partition_iff {render : υ → String} {isoformat : Time → String}
    {users : List (UserEmail υ)} {events : List (AuditEventRow υ)} {audit : AuditQuery} {limit : Nat}
    {actor : Option υ} (ht : parse p.tenantId=some tenant)
    (hactor : parseActorId parse audit.actorId=.ok actor)
    (hrender : ∀ u,parse (render u)=some u) (hkeys : (events.map AuditEventRow.id).Nodup) :
    PagesPartition (fun t => listAuditEvents render isoformat parse users t p audit limit)
        events limit ((auditRows events tenant actor audit).map (respond render isoformat users)) ↔
      TiesUncut limit AuditEventRow.startedAt (auditRows events tenant actor audit) := by
  have hrows : ∀ t,auditRows t tenant actor audit=
      selectedRows id (auditSelected tenant actor audit) t := fun t => by
    unfold auditRows selectedRows
    rw [List.map_id]
  have hinjective : Function.Injective render := fun u v huv =>
    Option.some.inj ((hrender u).symm.trans ((congrArg parse huv).trans (hrender v)))
  have hkeys : (events.map fun row => render row.id).Nodup := by
    have hmap := hkeys.map hinjective
    rwa [List.map_map] at hmap
  rw [hrows]
  refine pagesPartition_iff (fun t offset => ?_)
    (items_nodup AuditEventResponse.id _ (fun _ => rfl) hkeys)
  unfold listAuditEvents
  rw [tenantUuid_bind ht,hactor,← hrows]
  change Except.ok _=Except.ok _
  rw [responses_eq]
  rfl

/-- Reading the approvals, the enquiries and the audit log page after page
yields every matching row once, whatever order the database gives equal
timestamps on each request, exactly where no group of them is cut by a page. -/
theorem pages_partition_iff {sessions : List (SessionRow υ)}
    {approvals : List (PendingApprovalRow υ)} {now : Time} {q : ApprovalQuery} {sid : Option υ}
    {ilike : Ilike} {enquiries : List (EnquiryRow υ)} {query : EnquiryQuery} {render : υ → String}
    {isoformat : Time → String} {users : List (UserEmail υ)} {events : List (AuditEventRow υ)}
    {audit : AuditQuery} {limit : Nat} {actor : Option υ} (ht : parse p.tenantId=some tenant)
    (hsid : parseSessionIdOrNone parse q.sessionId=.ok sid)
    (hdepart : inverted query.departFrom query.departTo=false)
    (hcreated : inverted query.createdFrom query.createdTo=false)
    (hactor : parseActorId parse audit.actorId=.ok actor) (hrender : ∀ u,parse (render u)=some u)
    (happrovals : (approvals.map PendingApprovalRow.id).Nodup)
    (henquiries : (enquiries.map EnquiryRow.id).Nodup)
    (hevents : (events.map AuditEventRow.id).Nodup) :
    (PagesPartition (fun t offset => listApprovals parse sessions t now p {q with offset := offset})
        approvals q.limit ((approvalRows sessions approvals tenant now q sid).map rowToItem) ↔
      TiesUncut q.limit PendingApprovalRow.requestedAt
        (approvalRows sessions approvals tenant now q sid)) ∧
    (PagesPartition (fun t offset => listEnquiries parse ilike t p {query with offset := offset})
        enquiries query.limit (enquiryRows ilike enquiries tenant query) ↔
      TiesUncut query.limit EnquiryRow.createdAt (enquiryRows ilike enquiries tenant query)) ∧
    (PagesPartition (fun t => listAuditEvents render isoformat parse users t p audit limit)
        events limit ((auditRows events tenant actor audit).map (respond render isoformat users)) ↔
      TiesUncut limit AuditEventRow.startedAt (auditRows events tenant actor audit)) :=
  ⟨approvals_partition_iff ht hsid happrovals,
    enquiries_partition_iff ht hdepart hcreated henquiries,
    events_partition_iff ht hactor hrender hevents⟩

end

/-! ## Two events of one moment -/

/-- An event of the agency `desk`, started with the first second of April 2026. -/
def batchEvent (id : String) : AuditEventRow String :=
  {id := id, tenantId := "desk", actorKind := .agent, tool := "issue_ticket", startedAt := 1775001600}

def deskAdmin : Principal := ⟨"admin","desk"⟩

/-- The timestamp both events carry. -/
def batchIsoformat (_ : Time) : String := "2026-04-01T00:00:00+00:00"

/-- The audit pages of the agency, read by the admin. -/
def batchRequest (limit : Nat) (events : List (AuditEventRow String)) (offset : Nat) :
    Except HttpError (Listing AuditEventResponse) :=
  listAuditEvents id batchIsoformat some [] events deskAdmin {} limit offset

/-- On one page the two events are not cut apart. -/
theorem pages_partition_iff_batch :
    PagesPartition (batchRequest 2) [batchEvent "a",batchEvent "b"] 2
      ([batchEvent "a",batchEvent "b"].map (respond id batchIsoformat [])) := by
  have huncut : TiesUncut 2 AuditEventRow.startedAt
      (auditRows [batchEvent "a",batchEvent "b"] "desk" none {}) := by
    intro x _ k hlt
    have hlen := reaching_le_length AuditEventRow.startedAt
      (auditRows [batchEvent "a",batchEvent "b"] "desk" none {}) x.startedAt
    have htwo : (auditRows [batchEvent "a",batchEvent "b"] "desk" none {}).length=2 := by decide
    omega
  have hpages := (@pages_partition_iff String _ some "desk" deskAdmin [] [] 0 {} none
    (fun _ _ => true) [] {} id batchIsoformat [] [batchEvent "a",batchEvent "b"] {} 2 none rfl rfl rfl
    rfl rfl (fun _ => rfl) List.nodup_nil List.nodup_nil (by decide)).2.2.mpr huncut
  exact hpages

/-- Events the database returns in an order the query allows keep it. -/
theorem batchRequest_sorted {limit offset : Nat} {events : List (AuditEventRow String)}
    (hown : auditRows events "desk" none {}=events)
    (hsorted : Descending AuditEventRow.startedAt events) : batchRequest limit events offset=
      .ok ⟨((events.drop offset).take limit).map (respond id batchIsoformat []),
        events.length,limit,offset⟩ := by
  have hrank : events.mergeSort startedLater=events := ranked_eq_self hsorted
  change Except.ok (Listing.mk (responses id batchIsoformat []
    ((((auditRows events "desk" none {}).mergeSort startedLater).drop offset).take limit))
    (auditRows events "desk" none {}).length limit offset)=_
  rw [hown,hrank,responses_eq]

/-- Cut one to a page, the database may show one event twice and the other never. -/
theorem tied_events_not_partitioned :
    ¬PagesPartition (batchRequest 1) [batchEvent "a",batchEvent "b"] 1
      ([batchEvent "a",batchEvent "b"].map (respond id batchIsoformat [])) := by
  intro h
  obtain ⟨pages,hpages,hperm⟩ := h
    (fun k => if k=0 then [batchEvent "a",batchEvent "b"] else [batchEvent "b",batchEvent "a"])
    (fun k => by
      split
      · exact List.Perm.refl _
      · exact List.Perm.swap _ _ _) 2 (by decide)
  have hfirst : batchRequest 1 [batchEvent "a",batchEvent "b"] 0=
      .ok ⟨[respond id batchIsoformat [] (batchEvent "a")],2,1,0⟩ :=
    batchRequest_sorted (by decide) (by decide)
  have hsecond : batchRequest 1 [batchEvent "b",batchEvent "a"] 1=
      .ok ⟨[respond id batchIsoformat [] (batchEvent "a")],2,1,1⟩ :=
    batchRequest_sorted (by decide) (by decide)
  have hpage := Except.ok.inj ((hpages 0 (by decide)).1.symm.trans hfirst)
  have hpage' := Except.ok.inj ((hpages 1 (by decide)).1.symm.trans hsecond)
  have hjoined : ((List.range 2).flatMap fun k => (pages k).items)=
      [respond id batchIsoformat [] (batchEvent "a"),respond id batchIsoformat [] (batchEvent "a")] := by
    change (pages 0).items++((pages 1).items++[])=_
    rw [hpage,hpage']
    rfl
  rw [hjoined] at hperm
  have hmem : respond id batchIsoformat [] (batchEvent "b")∈
      [respond id batchIsoformat [] (batchEvent "a"),respond id batchIsoformat [] (batchEvent "a")] :=
    hperm.mem_iff.mpr (List.mem_cons_of_mem _ List.mem_cons_self)
  simp [respond,rowToResponse,batchEvent] at hmem

end Voyagent.PagedListings
