import Voyagent.LikePatterns
import Voyagent.TenantListings

/-!
# Searching a tenant's enquiries

The list endpoint splices what it is asked for into the pattern of an `ILIKE`,
unescaped. A term without special characters is searched for as a substring;
with one of them it finds rows that do not contain it.
-/

namespace Voyagent.EnquirySearch

open RuntimeValues CalendarDates Sessions Enquiries LikePatterns TenantListings

/-- `ILIKE` of the database around a term. -/
def ilike (f : CaseFold) : Ilike := fun text term => matchesIlike f text.toList term.toList

/-- A column that is not null contains the term, whatever the case. -/
def FieldContains (f : CaseFold) (term : String) (column : Option String) : Prop :=
  ∃ text,column=some text ∧ ContainsIgnoringCase f text.toList term.toList

variable {υ : Type}

/-- The searchable text columns. -/
def searchable (row : EnquiryRow υ) : List (Option String) :=
  [some row.customerName,row.customerEmail,row.customerPhone,row.origin,row.destination]

/-- What a request asks for: the tenant's rows that meet every filter given and
have a searchable column containing the query. -/
structure Wanted (f : CaseFold) (tenant : υ) (query : EnquiryQuery) (row : EnquiryRow υ) : Prop where
  tenant : row.tenantId=tenant
  status : ∀ s,query.status=some s → row.status=s
  customerEmail : ∀ t,query.customerEmail=some t → t≠"" → FieldContains f t row.customerEmail
  destination : ∀ t,query.destination=some t → t≠"" → FieldContains f t row.destination
  origin : ∀ t,query.origin=some t → t≠"" → FieldContains f t row.origin
  departFrom : ∀ d,query.departFrom=some d → ∃ d',row.departDate=some d' ∧ d.ordinal ≤ d'.ordinal
  departTo : ∀ d,query.departTo=some d → ∃ d',row.departDate=some d' ∧ d'.ordinal ≤ d.ordinal
  createdFrom : ∀ d,query.createdFrom=some d → dayStart d ≤ row.createdAt
  createdTo : ∀ d,query.createdTo=some d → row.createdAt<dayStart d+86400
  search : ∀ t,query.q=some t → ∃ column ∈ searchable row,FieldContains f t column

open Classical in
/-- The rows a request asks for. -/
noncomputable def wantedRows (f : CaseFold) (tenant : υ) (query : EnquiryQuery)
    (enquiries : List (EnquiryRow υ)) : List (EnquiryRow υ) :=
  enquiries.filter fun row => decide (Wanted f tenant query row)

/-- The terms of a request that go into patterns. -/
def terms (query : EnquiryQuery) : List (Option String) :=
  [query.customerEmail,query.destination,query.origin,query.q]

/-- No term has a percent sign, an underscore or a backslash. -/
def PlainTerms (query : EnquiryQuery) : Prop := ∀ t,some t ∈ terms query → Plain t.toList

variable {tenant : υ} {f : CaseFold} {query : EnquiryQuery} {row : EnquiryRow υ}

/-! ## Plain terms -/

variable {t : String}

theorem like_iff (h : Plain t.toList) (column : Option String) :
    like (ilike f) t column=true ↔ FieldContains f t column := by
  cases column with
  | none => simp [like,FieldContains]
  | some text =>
    simp only [like,Option.any_some,FieldContains,Option.some.injEq,exists_eq_left']
    exact matchesIlike_plain f h _

/-- A column filter that is given asks for a substring. -/
theorem filter_iff {term : Option String} (h : ∀ t,term=some t → Plain t.toList)
    (column : Option String) :
    (givenTerm term).all (fun t => like (ilike f) t column)=true ↔
      ∀ t,term=some t → t≠"" → FieldContains f t column := by
  cases term with
  | none => simp [givenTerm]
  | some t =>
    have hplain := h t rfl
    by_cases hempty : t=""
    · simp [givenTerm,Option.filter_some,hempty]
    · simp [givenTerm,Option.filter_some,hempty,like_iff hplain]

/-- Every text contains the empty term. -/
theorem fieldContains_empty (text : String) : FieldContains f "" (some text) :=
  ⟨text,rfl,List.nil_infix⟩

/-- The search clause asks for a substring of some searchable column. -/
theorem search_iff (h : ∀ t,query.q=some t → Plain t.toList) :
    (givenTerm query.q).all (fun t => like (ilike f) t (some row.customerName) ||
      like (ilike f) t row.customerEmail || like (ilike f) t row.customerPhone ||
      like (ilike f) t row.origin || like (ilike f) t row.destination)=true ↔
      ∀ t,query.q=some t → ∃ column ∈ searchable row,FieldContains f t column := by
  cases hq : query.q with
  | none => simp [givenTerm]
  | some t =>
    have hplain := h t hq
    by_cases hempty : t=""
    · subst hempty
      simp only [givenTerm,Option.filter_some,ne_eq,not_true_eq_false,decide_false,Bool.false_eq_true,
        if_false,Option.all_none,true_iff,Option.some.injEq,forall_eq']
      exact ⟨_,List.mem_cons_self,fieldContains_empty _⟩
    · simp [givenTerm,Option.filter_some,hempty,like_iff hplain,searchable,or_assoc]

/-- The `WHERE` clauses on plain terms select what is asked for. -/
theorem enquirySelected_iff (h : PlainTerms query) :
    (row.tenantId=tenant ∧ enquirySelected (ilike f) query row=true) ↔ Wanted f tenant query row := by
  have hmem : ∀ {term : Option String},term ∈ terms query → ∀ t,term=some t → Plain t.toList := by
    rintro term hterm t rfl
    exact h t hterm
  have hemail := @filter_iff f query.customerEmail (hmem (by simp [terms])) row.customerEmail
  have hdestination := @filter_iff f query.destination (hmem (by simp [terms])) row.destination
  have horigin := @filter_iff f query.origin (hmem (by simp [terms])) row.origin
  have hsearch := @search_iff υ f query row (hmem (by simp [terms]))
  unfold enquirySelected
  rw [Bool.and_eq_true,Bool.and_eq_true,Bool.and_eq_true,Bool.and_eq_true,Bool.and_eq_true,
    Bool.and_eq_true,Bool.and_eq_true,Bool.and_eq_true,hemail,hdestination,horigin,hsearch]
  simp only [Option.all_eq_true,Option.any_eq_true,decide_eq_true_eq]
  constructor
  · rintro ⟨htenant,⟨⟨⟨⟨⟨⟨⟨hstatus,h1⟩,h2⟩,h3⟩,h4⟩,h5⟩,h6⟩,h7⟩,h8⟩
    exact ⟨htenant,hstatus,h1,h2,h3,h4,h5,h6,h7,h8⟩
  · rintro ⟨htenant,hstatus,h1,h2,h3,h4,h5,h6,h7,h8⟩
    exact ⟨htenant,⟨⟨⟨⟨⟨⟨⟨hstatus,h1⟩,h2⟩,h3⟩,h4⟩,h5⟩,h6⟩,h7⟩,h8⟩

/-! ## Other terms -/

/-- The shortest text a term finds. -/
def shortestText (term : Option String) : Option String :=
  term.map fun t => String.ofList (shortest t.toList)

/-- An instant within the days asked for. -/
def probeTime (query : EnquiryQuery) : Time :=
  match query.createdFrom,query.createdTo with
  | some d,_ => dayStart d
  | none,some d => dayStart d
  | none,none => 0

/-- A row that meets every filter, with the shortest text in each column. -/
def probe (tenant : υ) (query : EnquiryQuery) : EnquiryRow υ where
  id := tenant
  tenantId := tenant
  createdByUserId := tenant
  customerName := (shortestText query.q).getD ""
  customerEmail := shortestText query.customerEmail
  destination := shortestText query.destination
  origin := shortestText query.origin
  departDate := query.departFrom.or query.departTo
  status := query.status.getD .new
  createdAt := probeTime query
  updatedAt := 0

/-- A column filter finds its shortest text. -/
theorem filter_shortest (term : Option String) :
    (givenTerm term).all (fun t => like (ilike f) t (shortestText term))=true := by
  cases term with
  | none => rfl
  | some t =>
    have hfound : like (ilike f) t (shortestText (some t))=true := by
      simp [like,shortestText,ilike,matchesIlike_shortest]
    unfold givenTerm
    rw [Option.filter_some]
    split
    · exact hfound
    · rfl

variable {d e : CalendarDate}

theorem not_inverted {from_ to_ : Option CalendarDate} (h : inverted from_ to_=false)
    (hd : from_=some d) (he : to_=some e) : d.ordinal ≤ e.ordinal := by
  rw [hd,he] at h
  exact Nat.not_lt.mp (of_decide_eq_false h)

theorem probe_depart (h : inverted query.departFrom query.departTo=false) :
    (∀ d,query.departFrom=some d → ∃ d',(probe tenant query).departDate=some d' ∧ d.ordinal ≤ d'.ordinal) ∧
      ∀ d,query.departTo=some d → ∃ d',(probe tenant query).departDate=some d' ∧ d'.ordinal ≤ d.ordinal := by
  constructor
  · intro d hd
    exact ⟨d,by rw [probe,hd,Option.some_or],Nat.le_refl _⟩
  · intro d hd
    cases hfrom : query.departFrom with
    | none => exact ⟨d,by rw [probe,hfrom,Option.none_or,hd],Nat.le_refl _⟩
    | some e => exact ⟨e,by rw [probe,hfrom,Option.some_or],not_inverted h hfrom hd⟩

theorem dayStart_mono (h : d.ordinal ≤ e.ordinal) : dayStart d ≤ dayStart e := by
  have hdays := Int.ofNat_le.mpr (toordinal_le h)
  exact Int.mul_le_mul_of_nonneg_right (Int.sub_le_sub_right hdays 719163) (by decide)

theorem probe_created (h : inverted query.createdFrom query.createdTo=false) :
    (∀ d,query.createdFrom=some d → dayStart d ≤ probeTime query) ∧
      ∀ d,query.createdTo=some d → probeTime query<dayStart d+86400 := by
  constructor
  · intro d hd
    have hprobe : probeTime query=dayStart d := by
      unfold probeTime
      simp only [hd]
    exact Int.le_of_eq hprobe.symm
  · intro d hd
    unfold probeTime
    rw [hd]
    cases hfrom : query.createdFrom with
    | none => exact Int.lt_add_of_pos_right _ (by decide)
    | some e =>
      have hstart := dayStart_mono (not_inverted h hfrom hd)
      exact Int.lt_of_le_of_lt hstart (Int.lt_add_of_pos_right _ (by decide))

/-- The statements of the list select the probe. -/
theorem probe_selected (hdepart : inverted query.departFrom query.departTo=false)
    (hcreated : inverted query.createdFrom query.createdTo=false) :
    enquirySelected (ilike f) query (probe tenant query)=true := by
  obtain ⟨hfrom,hto⟩ := @probe_depart υ tenant query hdepart
  obtain ⟨hafter,hbefore⟩ := probe_created hcreated
  unfold enquirySelected
  rw [Bool.and_eq_true,Bool.and_eq_true,Bool.and_eq_true,Bool.and_eq_true,Bool.and_eq_true,
    Bool.and_eq_true,Bool.and_eq_true,Bool.and_eq_true]
  refine ⟨⟨⟨⟨⟨⟨⟨⟨?_,filter_shortest _⟩,filter_shortest _⟩,filter_shortest _⟩,?_⟩,?_⟩,?_⟩,?_⟩,?_⟩
  · simp only [Option.all_eq_true,decide_eq_true_eq]
    intro s hs
    rw [probe,hs]
    rfl
  · simpa only [Option.all_eq_true,Option.any_eq_true,decide_eq_true_eq] using hfrom
  · simpa only [Option.all_eq_true,Option.any_eq_true,decide_eq_true_eq] using hto
  · simp only [Option.all_eq_true,decide_eq_true_eq]
    exact hafter
  · simp only [Option.all_eq_true,decide_eq_true_eq]
    exact hbefore
  · have hname := @filter_shortest f query.q
    simp only [Option.all_eq_true,Bool.or_eq_true] at hname ⊢
    intro t ht
    refine .inl (.inl (.inl (.inl ?_)))
    have hq : query.q=some t := (Option.filter_eq_some_iff.mp ht).1
    have hfound := hname t ht
    rw [hq] at hfound
    rw [probe,hq]
    exact hfound

variable {term : Option String}

/-- A column that holds the shortest text of a term contains a term only if
that is plain. -/
theorem plain_of_contains (hterm : term=some t) (h : FieldContains f t (shortestText term)) :
    Plain t.toList := by
  obtain ⟨text,htext,hcontains⟩ := h
  rw [hterm] at htext
  cases htext
  rw [String.toList_ofList] at hcontains
  by_contra hplain
  exact not_contains_shortest f hplain hcontains

/-- A column whose own term is plain contains plain terms only. -/
theorem plain_of_plain_column (hterm : ∀ t,term=some t → Plain t.toList)
    (h : FieldContains f t (shortestText term)) : Plain t.toList := by
  obtain ⟨text,htext,hcontains⟩ := h
  obtain ⟨s,hs,rfl⟩ := Option.map_eq_some_iff.mp htext
  rw [String.toList_ofList,shortest_plain (hterm s hs)] at hcontains
  by_contra hplain
  exact not_contains_of_plain f hplain (hterm s hs) hcontains

/-- A filter the probe meets has a plain term. -/
theorem plain_of_filter (h : ∀ t,term=some t → t≠"" → FieldContains f t (shortestText term))
    (t : String) (hterm : term=some t) : Plain t.toList := by
  by_cases hempty : t=""
  · rw [hempty]
    exact fun c hc => by cases hc
  · exact plain_of_contains hterm (h t hterm hempty)

/-- The probe is asked for only if every term is plain. -/
theorem plain_of_wanted (h : Wanted f tenant query (probe tenant query)) : PlainTerms query := by
  have hemail := plain_of_filter h.customerEmail
  have hdestination := plain_of_filter h.destination
  have horigin := plain_of_filter h.origin
  intro t ht
  simp only [terms,List.mem_cons,List.not_mem_nil,or_false] at ht
  rcases ht with ht|ht|ht|ht
  · exact hemail t ht.symm
  · exact hdestination t ht.symm
  · exact horigin t ht.symm
  · obtain ⟨column,hcolumn,hcontains⟩ := h.search t ht.symm
    have hname : shortestText query.q=some (probe tenant query).customerName := by
      rw [probe,← ht]
      rfl
    simp only [searchable,List.mem_cons,List.not_mem_nil,or_false] at hcolumn
    rcases hcolumn with rfl|rfl|rfl|rfl|rfl
    · rw [← hname] at hcontains
      exact plain_of_contains ht.symm hcontains
    · exact plain_of_plain_column hemail hcontains
    · obtain ⟨text,htext,-⟩ := hcontains
      cases htext
    · exact plain_of_plain_column horigin hcontains
    · exact plain_of_plain_column hdestination hcontains

section Endpoint

variable [DecidableEq υ] {parse : String → Option υ} {p : Principal}

/-- For every request the endpoint accepts: it lists the rows asked for, of any
table, if and only if no term has a special character. -/
theorem list_enquiries_search_iff (f : CaseFold) (ht : parse p.tenantId=some tenant)
    (hdepart : inverted query.departFrom query.departTo=false)
    (hcreated : inverted query.createdFrom query.createdTo=false) :
    (∀ enquiries : List (EnquiryRow υ),
      listEnquiries parse (ilike f) enquiries p query=
        .ok (page (fun a b => decide (b.createdAt≤a.createdAt)) id query.limit query.offset
          (wantedRows f tenant query enquiries))) ↔
      PlainTerms query := by
  classical
  have hlist : ∀ enquiries : List (EnquiryRow υ),listEnquiries parse (ilike f) enquiries p query=
      .ok (page (fun a b => decide (b.createdAt≤a.createdAt)) id query.limit query.offset
        (enquiryRows (ilike f) enquiries tenant query)) := by
    intro enquiries
    unfold listEnquiries
    rw [tenantUuid_bind ht,hdepart,hcreated]
    rfl
  constructor
  · intro h
    have hprobe := h [probe tenant query]
    rw [hlist] at hprobe
    have htotal := congrArg Listing.total (Except.ok.inj hprobe)
    have hselected : enquiryRows (ilike f) [probe tenant query] tenant query=[probe tenant query] := by
      refine List.filter_cons_of_pos ?_
      rw [probe_selected hdepart hcreated,Bool.and_true]
      exact decide_eq_true rfl
    by_contra hplain
    have hnone : wantedRows f tenant query [probe tenant query]=[] := by
      refine List.filter_cons_of_neg ?_
      rw [decide_eq_true_eq]
      exact fun hwanted => hplain (plain_of_wanted hwanted)
    rw [hselected,hnone] at htotal
    cases htotal
  · intro hplain enquiries
    rw [hlist]
    have hrows : enquiryRows (ilike f) enquiries tenant query=wantedRows f tenant query enquiries := by
      refine List.filter_congr fun row _ => Bool.eq_iff_iff.mpr ?_
      rw [Bool.and_eq_true,decide_eq_true_eq,decide_eq_true_eq]
      exact enquirySelected_iff hplain
    rw [hrows]

end Endpoint

/-! ## A concrete search -/

/-- No letter becomes a special character. -/
theorem toLower_special {c : Char} (h : Special c.toLower) : Special c := by
  have hval : (c.toLower.val=37 ∨ c.toLower.val=95 ∨ c.toLower.val=92) := by
    rcases h with h|h|h
    · exact .inl (congrArg Char.val h)
    · exact .inr (.inl (congrArg Char.val h))
    · exact .inr (.inr (congrArg Char.val h))
  unfold Char.toLower at h hval
  split at h
  · rename_i hupper
    rw [dif_pos hupper] at hval
    simp only [UInt32.le_iff_toNat_le,← UInt32.toNat_inj,UInt32.toNat_add] at hupper hval
    simp only [Char.reduceVal,UInt32.reduceToNat,Char.toNat_val,UInt32.reduceSub,Nat.reducePow]
      at hupper hval
    omega
  · exact h

/-- ASCII letters are folded to lower case. -/
def asciiFold : CaseFold where
  fold := Char.toLower
  fixes := fun c h => by rcases h with rfl|rfl|rfl <;> rfl
  keeps := fun _ => toLower_special

/-- The caller of a desk whose ids are texts. -/
def caller : Principal := ⟨"user-1","tenant-1"⟩

/-- An enquiry of the desk. -/
def ashasEnquiry : EnquiryRow String where
  id := "enquiry-1"
  tenantId := "tenant-1"
  createdByUserId := "user-1"
  customerName := "Asha Rao"
  destination := some "GOA"
  createdAt := 0
  updatedAt := 0

/-- A search by part of a name. -/
theorem list_enquiries_search_iff_name :
    listEnquiries some (ilike asciiFold) [ashasEnquiry] caller {q := some "RAO"}=
      .ok (page (fun a b => decide (b.createdAt≤a.createdAt)) id 50 0
        (wantedRows asciiFold "tenant-1" {q := some "RAO"} [ashasEnquiry])) := by
  have hplain : PlainTerms {q := some "RAO"} := by
    intro t ht
    simp only [terms,List.mem_cons,List.not_mem_nil,or_false,reduceCtorEq,false_or,Option.some.injEq] at ht
    rw [ht]
    decide
  exact (@list_enquiries_search_iff _ "tenant-1" _ _ some caller asciiFold rfl rfl rfl).mpr hplain _

/-- An underscore is searched for, and a row without one is listed. -/
theorem underscore_lists_any_row :
    listEnquiries some (ilike asciiFold) [ashasEnquiry] caller {q := some "_"}≠
      .ok (page (fun a b => decide (b.createdAt≤a.createdAt)) id 50 0
        (wantedRows asciiFold "tenant-1" {q := some "_"} [ashasEnquiry])) := by
  classical
  intro h
  have hlisted : (listEnquiries some (ilike asciiFold) [ashasEnquiry] caller {q := some "_"}).map
      Listing.total=.ok 1 := by decide +kernel
  have hnone : wantedRows asciiFold "tenant-1" {q := some "_"} [ashasEnquiry]=[] := by
    refine List.filter_cons_of_neg ?_
    rw [decide_eq_true_eq]
    intro hwanted
    obtain ⟨column,hcolumn,text,htext,hcontains⟩ := hwanted.search "_" rfl
    have hno : ∀ column ∈ searchable ashasEnquiry,∀ text ∈ column,
        ¬ContainsIgnoringCase asciiFold text.toList "_".toList := by decide +kernel
    exact hno column hcolumn text htext hcontains
  rw [h,hnone] at hlisted
  cases hlisted

end Voyagent.EnquirySearch
