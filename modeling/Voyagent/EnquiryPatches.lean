import Voyagent.EnquiryRaces

/-!
# One PATCH of an enquiry

`patch_enquiry` assigns the fields of its body to the loaded row one after the
other, with checks between the assignments, and commits at the end. A failed
check leaves a row that is assigned in part, which the session drops. What a
PATCH changes is told by the names of the columns; none of them is the time of
the last update, which no statement and no trigger sets.
-/

namespace Voyagent.EnquiryPatches

open RuntimeValues CalendarDates Decimals AmountColumns FallibleResults Enquiries EnquiryRaces TransitionRuns
open ApprovalResolution (changed)
open JournalPosting (maxInteger)
open AuthEndpoints (HttpError)

section Handler

variable {υ : Type} [DecidableEq υ] (parse : String → Option υ)

/-- A check between the assignments: where it raises, the row stays as assigned so far. -/
def checked {α : Type} (live : EnquiryRow υ) (x : Except HttpError α) :
    Except (HttpError × EnquiryRow υ) α := x.mapError fun e => (e,live)

/-- `row.status`. -/
def assignStatus (body : EnquiryPatchRequest) (live : EnquiryRow υ) :
    Except (HttpError × EnquiryRow υ) (EnquiryRow υ) :=
  (checked live (patchedStatus live.status body.status)).map fun status => {live with status := status}

def assignName (body : EnquiryPatchRequest) (live : EnquiryRow υ) :
    Except (HttpError × EnquiryRow υ) (EnquiryRow υ) :=
  (checked live (required "customer_name" live.customerName body.customerName)).map fun name =>
    {live with customerName := name}

/-- The simple fields between the name and the passengers. -/
def assignTrip (body : EnquiryPatchRequest) (live : EnquiryRow υ) : EnquiryRow υ :=
  {live with
    customerEmail := body.customerEmail.getD live.customerEmail
    customerPhone := body.customerPhone.getD live.customerPhone
    origin := body.origin.getD live.origin
    destination := body.destination.getD live.destination
    departDate := body.departDate.getD live.departDate
    returnDate := body.returnDate.getD live.returnDate}

def assignPax (body : EnquiryPatchRequest) (live : EnquiryRow υ) :
    Except (HttpError × EnquiryRow υ) (EnquiryRow υ) :=
  (checked live (required "pax_count" live.paxCount body.paxCount)).map fun pax =>
    {live with paxCount := pax}

/-- The simple fields behind the passengers. -/
def assignBudget (body : EnquiryPatchRequest) (live : EnquiryRow υ) : EnquiryRow υ :=
  {live with
    budgetAmount := body.budgetAmount.getD live.budgetAmount
    budgetCurrency := body.budgetCurrency.getD live.budgetCurrency
    notes := body.notes.getD live.notes}

/-- `row.session_id`. -/
def assignSession (body : EnquiryPatchRequest) (live : EnquiryRow υ) :
    Except (HttpError × EnquiryRow υ) (EnquiryRow υ) :=
  (checked live (patchedSession parse live.sessionId body.sessionId)).map fun session =>
    {live with sessionId := session}

/-- The checks of the final values, before any assignment. -/
def crossChecks (row : EnquiryRow υ) (body : EnquiryPatchRequest) : Except HttpError Unit := do
  validateCurrency (body.budgetCurrency.getD row.budgetCurrency)
  validateDateRange (body.departDate.getD row.departDate) (body.returnDate.getD row.returnDate)
  validatePax (body.paxCount.getD (some row.paxCount))

/-- The body of `patch_enquiry` on the live row. -/
def assignAll (row : EnquiryRow υ) (body : EnquiryPatchRequest) :
    Except (HttpError × EnquiryRow υ) (EnquiryRow υ) := do
  checked row (crossChecks row body)
  let live ← assignStatus body row
  let live ← assignName body live
  let live ← assignPax body (assignTrip body live)
  assignSession parse body (assignBudget body live)

/-- What a PATCH answers when it fails. -/
inductive Failure where
  | http (e : HttpError)
  /-- Raised by the commit. -/
  | database

/-- `_load_owned_enquiry` for the path and the caller. -/
def loadTarget (rows : List (EnquiryRow υ)) (p : Principal) (enquiryId : String) :
    Except HttpError (EnquiryRow υ) := do
  let tenant ← tenantUuid parse p
  let enquiry ← parseEnquiryId parse enquiryId
  loadOwnedEnquiry rows enquiry tenant

/-- `patch_enquiry` and the committed rows behind it. The session is closed
without a commit where something is raised. -/
def patchEnquiry (rows : List (EnquiryRow υ)) (p : Principal) (enquiryId : String)
    (body : EnquiryPatchRequest) : Except Failure (EnquiryRow υ) × List (EnquiryRow υ) :=
  match loadTarget parse rows p enquiryId with
  | .error e => (.error (.http e),rows)
  | .ok row =>
    match assignAll parse row body with
    | .error (e,_) => (.error (.http e),rows)
    | .ok live =>
      match updatedRow row live row with
      | none => (.error .database,rows)
      | some row' => (.ok row',replaceRow rows row')

/-! ## Columns by name -/

/-- The name of a column, if two rows differ in it. -/
def differs {α : Type} [DecidableEq α] (name : String) (a b : α) : List String :=
  if a=b then [] else [name]

/-- The name of a field, if a body has it. -/
def present {α : Type} (name : String) (field : Enquiries.Field α) : List String :=
  if field.isSome then [name] else []

/-- Budgets differ by value. -/
def budgetDiffers (a b : Option Decimal) : Bool :=
  match a,b with
  | some a,some b => !a.beq b
  | none,none => false
  | _,_ => true

/-- The columns in which a row differs from another. -/
def changedFields (before after : EnquiryRow υ) : List String :=
  differs "id" before.id after.id++
  differs "tenant_id" before.tenantId after.tenantId++
  differs "created_by_user_id" before.createdByUserId after.createdByUserId++
  differs "customer_name" before.customerName after.customerName++
  differs "customer_email" before.customerEmail after.customerEmail++
  differs "customer_phone" before.customerPhone after.customerPhone++
  differs "origin" before.origin after.origin++
  differs "destination" before.destination after.destination++
  differs "depart_date" before.departDate after.departDate++
  differs "return_date" before.returnDate after.returnDate++
  differs "pax_count" before.paxCount after.paxCount++
  (if budgetDiffers before.budgetAmount after.budgetAmount then ["budget_amount"] else [])++
  differs "budget_currency" before.budgetCurrency after.budgetCurrency++
  differs "status" before.status after.status++
  differs "notes" before.notes after.notes++
  differs "session_id" before.sessionId after.sessionId++
  differs "created_at" before.createdAt after.createdAt++
  differs "updated_at" before.updatedAt after.updatedAt

/-- The fields present in a body. -/
def patchFields (body : EnquiryPatchRequest) : List String :=
  present "customer_name" body.customerName++
  present "customer_email" body.customerEmail++
  present "customer_phone" body.customerPhone++
  present "origin" body.origin++
  present "destination" body.destination++
  present "depart_date" body.departDate++
  present "return_date" body.returnDate++
  present "pax_count" body.paxCount++
  present "budget_amount" body.budgetAmount++
  present "budget_currency" body.budgetCurrency++
  present "status" body.status++
  present "notes" body.notes++
  present "session_id" body.sessionId

/-- A PATCH that fails leaves the committed rows; one that succeeds changes
exactly the fields of its body and the time of the last update. -/
def ChangesExactly (rows : List (EnquiryRow υ)) (p : Principal) (enquiryId : String)
    (body : EnquiryPatchRequest) : Prop :=
  match patchEnquiry parse rows p enquiryId body with
  | (.error _,rows') => rows'=rows
  | (.ok _,rows') => ∀ id,parse enquiryId=some id → ∃ before after,
      findEnquiry rows id=some before ∧ findEnquiry rows' id=some after ∧
        ∀ name,name∈changedFields before after ↔ name∈patchFields body ∨ name="updated_at"

/-- The request passes every check: it names a row of the caller's tenant, and
the values it leaves are allowed and fit their columns. -/
structure Accepted (rows : List (EnquiryRow υ)) (p : Principal) (enquiryId : String)
    (body : EnquiryPatchRequest) (row : EnquiryRow υ) : Prop where
  tenant : parse p.tenantId=some row.tenantId
  found : ∃ id,parse enquiryId=some id ∧ findEnquiry rows id=some row
  currency : validateCurrency (body.budgetCurrency.getD row.budgetCurrency)=.ok ()
  dates : validateDateRange (body.departDate.getD row.departDate)
    (body.returnDate.getD row.returnDate)=.ok ()
  pax : validatePax (body.paxCount.getD (some row.paxCount))=.ok ()
  statusGiven : body.status≠some none
  transition : ∀ next,body.status=some (some next) →
    validateStatusTransition row.status next=.ok ()
  nameGiven : body.customerName≠some none
  paxGiven : body.paxCount≠some none
  session : ∀ raw,body.sessionId=some (some raw) → (parse raw).isSome=true
  paxFits : ∀ n,body.paxCount.getD (some row.paxCount)=some n → n.natAbs≤ maxInteger
  budgetFits : ∀ d,changedBudget row.budgetAmount (body.budgetAmount.getD row.budgetAmount)
    row.budgetAmount=some d → (storedAmount d).isSome=true

end Handler

section Facts

set_option linter.unusedSectionVars false

variable {υ : Type} [DecidableEq υ] {parse : String → Option υ} {rows : List (EnquiryRow υ)}
  {p : Principal} {enquiryId : String} {body : EnquiryPatchRequest} {row live row' : EnquiryRow υ}

variable {α β : Type}

theorem mapError_checked (live : EnquiryRow υ) (x : Except HttpError α)
    (g : α → Except (HttpError × EnquiryRow υ) β) :
    (checked live x >>= g).mapError Prod.fst=(x >>= fun a => (g a).mapError Prod.fst) := by
  cases x with
  | error e => rfl
  | ok a => rfl

theorem mapError_assigned (live : EnquiryRow υ) (x : Except HttpError α) (f : α → EnquiryRow υ)
    (g : EnquiryRow υ → Except (HttpError × EnquiryRow υ) β) :
    ((checked live x).map f >>= g).mapError Prod.fst=
      (x >>= fun a => (g (f a)).mapError Prod.fst) := by
  cases x with
  | error e => rfl
  | ok a => rfl

theorem mapError_last (live : EnquiryRow υ) (x : Except HttpError α) (f : α → EnquiryRow υ) :
    ((checked live x).map f).mapError Prod.fst=(x >>= fun a => pure (f a)) := by
  cases x with
  | error e => rfl
  | ok a => rfl

/-- Assigning one by one ends in the copy the checks allow, or in their error. -/
theorem assignAll_eq (parse : String → Option υ) (row : EnquiryRow υ) (body : EnquiryPatchRequest) :
    (assignAll parse row body).mapError Prod.fst=patchRow parse row body := by
  unfold assignAll patchRow crossChecks assignStatus assignName assignPax assignSession
  rw [mapError_checked]
  simp only [mapError_assigned,mapError_last,bind_assoc]
  rfl

/-! ## What the checks ask for -/

theorem loadTarget_ok : loadTarget parse rows p enquiryId=.ok row ↔
    parse p.tenantId=some row.tenantId ∧
      ∃ id,parse enquiryId=some id ∧ findEnquiry rows id=some row := by
  have hid : ∀ id,parseEnquiryId parse enquiryId=.ok id ↔ parse enquiryId=some id := by
    intro id
    unfold parseEnquiryId
    cases parse enquiryId with
    | none => exact iff_of_false (fun h => by cases h) (fun h => by cases h)
    | some id' => exact ⟨fun h => congrArg some (Except.ok.inj h),fun h => congrArg _ (Option.some.inj h)⟩
  constructor
  · intro h
    obtain ⟨tenant,htenant,hrest⟩ := bind_ok.mp h
    obtain ⟨id,hparse,hload⟩ := bind_ok.mp hrest
    obtain ⟨hfind,rfl⟩ := loadOwnedEnquiry_ok hload
    exact ⟨tenantUuid_ok.mp htenant,id,(hid id).mp hparse,hfind⟩
  · rintro ⟨htenant,id,hparse,hfind⟩
    refine bind_ok.mpr ⟨row.tenantId,tenantUuid_ok.mpr htenant,
      bind_ok.mpr ⟨id,(hid id).mpr hparse,?_⟩⟩
    unfold loadOwnedEnquiry
    rw [hfind]
    exact if_pos rfl

variable {field : Enquiries.Field α}

theorem required_ok {name : String} {old : α} :
    (∃ v,required name old field=.ok v) ↔ field≠some none := by
  cases field with
  | none => exact iff_of_true ⟨old,rfl⟩ fun h => by cases h
  | some value =>
    cases value with
    | none => exact iff_of_false (fun ⟨v,h⟩ => by cases h) fun h => h rfl
    | some v => exact iff_of_true ⟨v,rfl⟩ fun h => by cases h

theorem patchedStatus_ok {old : EnquiryStatus} {field : Enquiries.Field EnquiryStatus} :
    (∃ st,patchedStatus old field=.ok st) ↔ field≠some none ∧
      ∀ next,field=some (some next) → validateStatusTransition old next=.ok () := by
  cases field with
  | none =>
    exact iff_of_true ⟨old,rfl⟩ ⟨fun h => (by cases h),fun next h => (by cases h)⟩
  | some value =>
    cases value with
    | none => exact iff_of_false (fun ⟨v,h⟩ => by cases h) fun h => h.1 rfl
    | some next =>
      have hcheck : (∃ st,patchedStatus old (some (some next))=.ok st) ↔
          validateStatusTransition old next=.ok () := by
        refine exists_bind_ok.trans ⟨fun ⟨_,h,_⟩ => h,fun h => ⟨(),h,next,rfl⟩⟩
      rw [hcheck]
      refine ⟨fun h => ⟨fun heq => (by cases heq),fun next' heq => ?_⟩,fun h => h.2 next rfl⟩
      cases heq
      exact h

theorem patchedSession_ok {old : Option υ} {field : Enquiries.Field String} :
    (∃ s,patchedSession parse old field=.ok s) ↔
      ∀ raw,field=some (some raw) → (parse raw).isSome=true := by
  cases field with
  | none => exact iff_of_true ⟨old,rfl⟩ fun raw h => by cases h
  | some value =>
    cases value with
    | none => exact iff_of_true ⟨none,rfl⟩ fun raw h => by cases h
    | some raw =>
      unfold patchedSession parseSessionIdOrNone
      dsimp only
      cases hparse : parse raw with
      | none =>
        refine iff_of_false (fun ⟨s,h⟩ => by cases h) fun h => ?_
        have hsome := h raw rfl
        rw [hparse] at hsome
        cases hsome
      | some s =>
        refine iff_of_true ⟨some s,rfl⟩ fun raw' heq => ?_
        cases heq
        rw [hparse]
        rfl

/-- The values that leave the checks, with the copy they make. -/
structure Copied (parse : String → Option υ) (row : EnquiryRow υ) (body : EnquiryPatchRequest)
    (live : EnquiryRow υ) : Prop where
  id : live.id=row.id
  tenantId : live.tenantId=row.tenantId
  createdByUserId : live.createdByUserId=row.createdByUserId
  customerName : required "customer_name" row.customerName body.customerName=.ok live.customerName
  customerEmail : live.customerEmail=body.customerEmail.getD row.customerEmail
  customerPhone : live.customerPhone=body.customerPhone.getD row.customerPhone
  origin : live.origin=body.origin.getD row.origin
  destination : live.destination=body.destination.getD row.destination
  departDate : live.departDate=body.departDate.getD row.departDate
  returnDate : live.returnDate=body.returnDate.getD row.returnDate
  paxCount : required "pax_count" row.paxCount body.paxCount=.ok live.paxCount
  budgetAmount : live.budgetAmount=body.budgetAmount.getD row.budgetAmount
  budgetCurrency : live.budgetCurrency=body.budgetCurrency.getD row.budgetCurrency
  status : patchedStatus row.status body.status=.ok live.status
  notes : live.notes=body.notes.getD row.notes
  sessionId : patchedSession parse row.sessionId body.sessionId=.ok live.sessionId
  createdAt : live.createdAt=row.createdAt
  updatedAt : live.updatedAt=row.updatedAt

theorem copied_of_patchRow (h : patchRow parse row body=.ok live) : Copied parse row body live := by
  unfold patchRow at h
  obtain ⟨_,-,h⟩ := bind_ok.mp h
  obtain ⟨_,-,h⟩ := bind_ok.mp h
  obtain ⟨_,-,h⟩ := bind_ok.mp h
  obtain ⟨status,hstatus,h⟩ := bind_ok.mp h
  obtain ⟨name,hname,h⟩ := bind_ok.mp h
  obtain ⟨pax,hpax,h⟩ := bind_ok.mp h
  obtain ⟨session,hsession,h⟩ := bind_ok.mp h
  obtain rfl := Except.ok.inj h
  exact ⟨rfl,rfl,rfl,hname,rfl,rfl,rfl,rfl,rfl,rfl,hpax,rfl,rfl,hstatus,rfl,hsession,rfl,rfl⟩

theorem patchRow_ok_iff : (∃ live,patchRow parse row body=.ok live) ↔
    validateCurrency (body.budgetCurrency.getD row.budgetCurrency)=.ok () ∧
    validateDateRange (body.departDate.getD row.departDate)
      (body.returnDate.getD row.returnDate)=.ok () ∧
    validatePax (body.paxCount.getD (some row.paxCount))=.ok () ∧
    (∃ st,patchedStatus row.status body.status=.ok st) ∧
    (∃ v,required "customer_name" row.customerName body.customerName=.ok v) ∧
    (∃ v,required "pax_count" row.paxCount body.paxCount=.ok v) ∧
    ∃ s,patchedSession parse row.sessionId body.sessionId=.ok s := by
  unfold patchRow
  rw [exists_bind_ok]
  constructor
  · rintro ⟨_,hcurrency,h⟩
    obtain ⟨_,hdates,h⟩ := exists_bind_ok.mp h
    obtain ⟨_,hpax,h⟩ := exists_bind_ok.mp h
    obtain ⟨st,hst,h⟩ := exists_bind_ok.mp h
    obtain ⟨name,hname,h⟩ := exists_bind_ok.mp h
    obtain ⟨n,hn,h⟩ := exists_bind_ok.mp h
    obtain ⟨s,hs,-⟩ := exists_bind_ok.mp h
    exact ⟨hcurrency,hdates,hpax,⟨st,hst⟩,⟨name,hname⟩,⟨n,hn⟩,s,hs⟩
  · rintro ⟨hcurrency,hdates,hpax,⟨st,hst⟩,⟨name,hname⟩,⟨n,hn⟩,s,hs⟩
    refine ⟨(),hcurrency,exists_bind_ok.mpr ⟨(),hdates,exists_bind_ok.mpr ⟨(),hpax,?_⟩⟩⟩
    refine exists_bind_ok.mpr ⟨st,hst,exists_bind_ok.mpr ⟨name,hname,?_⟩⟩
    exact exists_bind_ok.mpr ⟨n,hn,exists_bind_ok.mpr ⟨s,hs,_,rfl⟩⟩

/-- What is checked of passengers is what is stored of them. -/
theorem pax_eq {pax : Int} (h : required "pax_count" row.paxCount body.paxCount=.ok pax) :
    body.paxCount.getD (some row.paxCount)=some pax := by
  cases hfield : body.paxCount with
  | none =>
    rw [hfield] at h
    cases h
    rfl
  | some value =>
    rw [hfield] at h
    cases value with
    | none => cases h
    | some n =>
      cases h
      rfl

/-! ## What is committed -/

theorem changed_self [DecidableEq α] (old target : α) : changed old target old=target := by
  unfold changed
  split
  · rename_i h
    exact h.symm
  · rfl

/-- The loaded row is the committed one, so its update writes the copy; a
budget of the same value stays. -/
theorem updatedRow_self (row live : EnquiryRow υ) : updatedRow row live row=
    storedRow {row with
      customerName := live.customerName
      customerEmail := live.customerEmail
      customerPhone := live.customerPhone
      origin := live.origin
      destination := live.destination
      departDate := live.departDate
      returnDate := live.returnDate
      paxCount := live.paxCount
      budgetAmount := changedBudget row.budgetAmount live.budgetAmount row.budgetAmount
      budgetCurrency := live.budgetCurrency
      status := live.status
      notes := live.notes
      sessionId := live.sessionId} := by
  unfold updatedRow
  simp only [changed_self]

variable {d' : Decimal}

theorem storedAmount_some {d : Decimal} (h : storedAmount d=some d') :
    d'.exponent=hundredths ∧ d'.coefficient.natAbs<10^14 := by
  unfold storedAmount at h
  obtain ⟨hfits,heq⟩ := Option.ite_none_right_eq_some.mp h
  obtain rfl := Option.some.inj heq
  exact ⟨rfl,hfits⟩

/-- A number the column gave back is stored as it is. -/
theorem storedAmount_idem {d : Decimal} (h : storedAmount d=some d') : storedAmount d'=some d' := by
  obtain ⟨hexponent,hfits⟩ := storedAmount_some h
  have hsame : d'.coefficientAt hundredths=d'.coefficient := by
    unfold Decimal.coefficientAt
    rw [hexponent,Int.sub_self,Int.toNat_zero,pow_zero,Int.mul_one]
  unfold storedAmount
  dsimp only
  rw [if_pos (Int.le_of_eq hexponent.symm),hsame,if_pos hfits,← hexponent]

/-- Storing a row rounds its budget and nothing else. -/
theorem storedRow_eq (h : storedRow row=some row') :
    row'={row with budgetAmount := row.budgetAmount.bind storedAmount} := by
  unfold storedRow at h
  obtain ⟨-,h⟩ := Option.ite_none_right_eq_some.mp h
  cases hbudget : row.budgetAmount with
  | none =>
    rw [hbudget] at h
    obtain rfl := Option.some.inj h
    rw [Option.bind_none,← hbudget]
  | some d =>
    rw [hbudget] at h
    obtain ⟨d',hd,rfl⟩ := Option.map_eq_some_iff.mp h
    rw [Option.bind_some,hd]

theorem storedRow_isSome : (storedRow row).isSome=true ↔
    row.paxCount.natAbs≤ maxInteger ∧ ∀ d,row.budgetAmount=some d → (storedAmount d).isSome=true := by
  unfold storedRow
  split
  · rename_i hpax
    cases hbudget : row.budgetAmount with
    | none => exact iff_of_true rfl ⟨hpax,fun d h => by cases h⟩
    | some d =>
      rw [Option.isSome_map]
      refine ⟨fun h => ⟨hpax,fun d' hd => ?_⟩,fun h => h.2 d rfl⟩
      cases hd
      exact h
  · rename_i hpax
    exact iff_of_false (fun h => by cases h) fun h => hpax h.1

/-- The committed row, column by column. -/
theorem updatedRow_eq (h : updatedRow row live row=some row') :
    row'={row with
      customerName := live.customerName
      customerEmail := live.customerEmail
      customerPhone := live.customerPhone
      origin := live.origin
      destination := live.destination
      departDate := live.departDate
      returnDate := live.returnDate
      paxCount := live.paxCount
      budgetAmount :=
        (changedBudget row.budgetAmount live.budgetAmount row.budgetAmount).bind storedAmount
      budgetCurrency := live.budgetCurrency
      status := live.status
      notes := live.notes
      sessionId := live.sessionId} := by
  rw [updatedRow_self] at h
  exact storedRow_eq h

/-- The rows are as the database stores them. -/
def AllStored (rows : List (EnquiryRow υ)) : Prop := ∀ row∈rows,storedRow row=some row

/-- A budget that is not in the body stays as it is stored. -/
theorem budget_kept (hstored : storedRow row=some row) :
    budgetDiffers row.budgetAmount
      ((changedBudget row.budgetAmount row.budgetAmount row.budgetAmount).bind storedAmount)=
        false := by
  have hbudget := congrArg EnquiryRow.budgetAmount (storedRow_eq hstored)
  dsimp only at hbudget
  have hsame : changedBudget row.budgetAmount row.budgetAmount row.budgetAmount=
      row.budgetAmount := by
    unfold changedBudget
    cases row.budgetAmount with
    | none => rfl
    | some d => exact ite_self _
  rw [hsame,← hbudget]
  unfold budgetDiffers
  cases row.budgetAmount with
  | none => rfl
  | some d =>
    have hrefl : d.beq d=true := decide_eq_true rfl
    dsimp only
    rw [hrefl]
    rfl

/-! ## Exactly the fields of the body -/

theorem mem_present {name name' : String} :
    name'∈present name field ↔ name'=name ∧ field.isSome=true := by
  unfold present
  split
  · rename_i h
    exact List.mem_singleton.trans (and_iff_left h).symm
  · rename_i h
    exact iff_of_false List.not_mem_nil fun hmem => h hmem.2

theorem differs_self [DecidableEq α] (name : String) (a : α) : differs name a a=[] :=
  if_pos rfl

/-- A column that only its field changes. -/
theorem differs_subset [DecidableEq α] {name : String} {a b : α} {field : Enquiries.Field β}
    (h : field=none → a=b) : differs name a b ⊆ present name field := by
  unfold differs present
  cases field with
  | none =>
    rw [if_pos (h rfl)]
    exact List.nil_subset _
  | some value =>
    rw [if_pos (Option.isSome_some)]
    split
    · exact List.nil_subset _
    · exact List.Subset.refl _

theorem append_subset {as bs cs ds : List String} (h : as ⊆ cs) (h' : bs ⊆ ds) :
    as++bs ⊆ cs++ds :=
  List.append_subset.mpr ⟨List.subset_append_of_subset_left ds h,
    List.subset_append_of_subset_right cs h'⟩

theorem required_absent {name : String} {old v : α} (h : required name old field=.ok v)
    (hnone : field=none) : old=v := by
  rw [hnone] at h
  exact Except.ok.inj h

/-- A committed PATCH changes columns of its body only. -/
theorem changedFields_subset (hstored : storedRow row=some row)
    (hcopy : Copied parse row body live) (h : updatedRow row live row=some row') :
    changedFields row row' ⊆ patchFields body := by
  have hgetD : ∀ {α : Type} {field : Enquiries.Field α} {old new : Option α},new=field.getD old →
      field=none → old=new := by
    intro α field old new hnew hnone
    rw [hnew,hnone]
    rfl
  obtain rfl := updatedRow_eq h
  unfold changedFields patchFields
  dsimp only
  simp only [differs_self,List.nil_append,List.append_nil]
  refine append_subset (append_subset (append_subset (append_subset (append_subset (append_subset
    (append_subset (append_subset (append_subset (append_subset (append_subset (append_subset
      ?_ ?_) ?_) ?_) ?_) ?_) ?_) ?_) ?_) ?_) ?_) ?_) ?_
  · exact differs_subset (required_absent hcopy.customerName)
  · exact differs_subset (hgetD hcopy.customerEmail)
  · exact differs_subset (hgetD hcopy.customerPhone)
  · exact differs_subset (hgetD hcopy.origin)
  · exact differs_subset (hgetD hcopy.destination)
  · exact differs_subset (hgetD hcopy.departDate)
  · exact differs_subset (hgetD hcopy.returnDate)
  · exact differs_subset (required_absent hcopy.paxCount)
  · cases hfield : body.budgetAmount with
    | none =>
      have hlive := hcopy.budgetAmount
      rw [hfield,Option.getD_none] at hlive
      rw [hlive,budget_kept hstored]
      exact List.nil_subset _
    | some value =>
      split
      · exact List.Subset.refl _
      · exact List.nil_subset _
  · exact differs_subset (hgetD hcopy.budgetCurrency)
  · refine differs_subset fun hnone => ?_
    have hstatus := hcopy.status
    rw [hnone] at hstatus
    exact Except.ok.inj hstatus
  · exact differs_subset (hgetD hcopy.notes)
  · refine differs_subset fun hnone => ?_
    have hsession := hcopy.sessionId
    rw [hnone] at hsession
    exact Except.ok.inj hsession

/-! ## The outcome of a request -/

/-- A PATCH that is committed. -/
structure Committed (parse : String → Option υ) (rows : List (EnquiryRow υ)) (p : Principal)
    (enquiryId : String) (body : EnquiryPatchRequest) (row live row' : EnquiryRow υ) : Prop where
  loaded : loadTarget parse rows p enquiryId=.ok row
  copied : patchRow parse row body=.ok live
  written : updatedRow row live row=some row'

/-- A request is committed and answered, or fails and leaves the rows. -/
theorem patchEnquiry_cases (parse : String → Option υ) (rows : List (EnquiryRow υ)) (p : Principal)
    (enquiryId : String) (body : EnquiryPatchRequest) :
    (∃ row live row',Committed parse rows p enquiryId body row live row' ∧
      patchEnquiry parse rows p enquiryId body=(.ok row',replaceRow rows row')) ∨
    (∃ e,patchEnquiry parse rows p enquiryId body=(.error e,rows) ∧
      ∀ row live row',¬Committed parse rows p enquiryId body row live row') := by
  unfold patchEnquiry
  cases hload : loadTarget parse rows p enquiryId with
  | error e =>
    refine .inr ⟨.http e,rfl,fun row live row' h => ?_⟩
    have hloaded := h.loaded
    rw [hload] at hloaded
    cases hloaded
  | ok row =>
    have hsame : ∀ {row₁ live row'},Committed parse rows p enquiryId body row₁ live row' →
        row₁=row := fun h => Except.ok.inj (h.loaded.symm.trans hload)
    have hcopy := assignAll_eq parse row body
    dsimp only
    cases hassign : assignAll parse row body with
    | error failed =>
      obtain ⟨e,left⟩ := failed
      refine .inr ⟨.http e,rfl,fun row₁ live row' h => ?_⟩
      have hcopied := h.copied
      rw [hsame h,← hcopy,hassign] at hcopied
      cases hcopied
    | ok live =>
      rw [hassign] at hcopy
      have hlive : ∀ {row₁ live' row'},Committed parse rows p enquiryId body row₁ live' row' →
          live'=live := fun h => by
        have hcopied := h.copied
        rw [hsame h,← hcopy] at hcopied
        exact (Except.ok.inj hcopied).symm
      dsimp only
      cases hwrite : updatedRow row live row with
      | none =>
        refine .inr ⟨.database,rfl,fun row₁ live' row' h => ?_⟩
        have hwritten := h.written
        rw [hsame h,hlive h,hwrite] at hwritten
        cases hwritten
      | some row' => exact .inl ⟨row,live,row',⟨hload,hcopy.symm,hwrite⟩,rfl⟩

/-- Exactly the accepted requests are committed. -/
theorem committed_iff : (∃ live row',Committed parse rows p enquiryId body row live row') ↔
    Accepted parse rows p enquiryId body row := by
  have hfits : ∀ live,patchRow parse row body=.ok live →
      ((∃ row',updatedRow row live row=some row') ↔
        (∀ n,body.paxCount.getD (some row.paxCount)=some n → n.natAbs≤ maxInteger) ∧
        ∀ d,changedBudget row.budgetAmount (body.budgetAmount.getD row.budgetAmount)
          row.budgetAmount=some d → (storedAmount d).isSome=true) := by
    intro live hcopied
    have hcopy := copied_of_patchRow hcopied
    rw [updatedRow_self,← Option.isSome_iff_exists,storedRow_isSome]
    dsimp only
    rw [hcopy.budgetAmount]
    refine and_congr ⟨fun h n hn => ?_,fun h => h _ (pax_eq hcopy.paxCount)⟩ Iff.rfl
    rw [pax_eq hcopy.paxCount] at hn
    rwa [← Option.some.inj hn]
  constructor
  · rintro ⟨live,row',h⟩
    obtain ⟨htenant,hfound⟩ := loadTarget_ok.mp h.loaded
    obtain ⟨hcurrency,hdates,hpax,hstatus,hname,hgiven,hsession⟩ :=
      patchRow_ok_iff.mp ⟨live,h.copied⟩
    obtain ⟨hstatusGiven,htransition⟩ := patchedStatus_ok.mp hstatus
    obtain ⟨hpaxFits,hbudgetFits⟩ := (hfits live h.copied).mp ⟨row',h.written⟩
    exact ⟨htenant,hfound,hcurrency,hdates,hpax,hstatusGiven,htransition,required_ok.mp hname,
      required_ok.mp hgiven,patchedSession_ok.mp hsession,hpaxFits,hbudgetFits⟩
  · intro h
    obtain ⟨live,hcopied⟩ := patchRow_ok_iff.mpr ⟨h.currency,h.dates,h.pax,
      patchedStatus_ok.mpr ⟨h.statusGiven,h.transition⟩,required_ok.mpr h.nameGiven,
      required_ok.mpr h.paxGiven,patchedSession_ok.mpr h.session⟩
    obtain ⟨row',hwritten⟩ := (hfits live hcopied).mpr ⟨h.paxFits,h.budgetFits⟩
    exact ⟨live,row',loadTarget_ok.mpr ⟨h.tenant,h.found⟩,hcopied,hwritten⟩

theorem id_of_updatedRow (h : updatedRow row live row=some row') : row'.id=row.id := by
  obtain rfl := updatedRow_eq h
  rfl

/-- The time of the last update is the one that was there. -/
theorem updatedAt_of_updatedRow (h : updatedRow row live row=some row') :
    row'.updatedAt=row.updatedAt := by
  obtain rfl := updatedRow_eq h
  rfl

theorem updatedAt_not_patched (body : EnquiryPatchRequest) : "updated_at"∉patchFields body := by
  unfold patchFields
  simp only [List.mem_append,mem_present,not_or]
  refine ⟨⟨⟨⟨⟨⟨⟨⟨⟨⟨⟨⟨?_,?_⟩,?_⟩,?_⟩,?_⟩,?_⟩,?_⟩,?_⟩,?_⟩,?_⟩,?_⟩,?_⟩,?_⟩ <;>
    exact fun h => absurd h.1 (by decide)

theorem storedRow_idem (h : storedRow row=some row') : storedRow row'=some row' := by
  have hpax : row.paxCount.natAbs≤ maxInteger := (storedRow_isSome.mp (h ▸ rfl)).1
  obtain rfl := storedRow_eq h
  unfold storedRow
  rw [if_pos hpax]
  cases hbudget : row.budgetAmount.bind storedAmount with
  | none => rfl
  | some d =>
    obtain ⟨d',-,hd⟩ := Option.bind_eq_some_iff.mp hbudget
    dsimp only
    rw [storedAmount_idem hd]
    rfl

/-- A PATCH leaves rows as the database stores them. -/
theorem allStored_patchEnquiry (h : AllStored rows) :
    AllStored (patchEnquiry parse rows p enquiryId body).2 := by
  rcases patchEnquiry_cases parse rows p enquiryId body with
    ⟨row,live,row',hcommit,hpatch⟩|⟨e,hpatch,-⟩
  · rw [hpatch]
    intro r hr
    rcases mem_replaceRow hr with rfl|hr
    · exact storedRow_idem ((updatedRow_self row live).symm.trans hcommit.written)
    · exact h r hr
  · rw [hpatch]
    exact h

/-- A request that fails leaves every row. One that succeeds replaces the row
it loaded by one that differs from it in columns of the body only, and has its
time of the last update. Columns change exactly as they should if and only if
the request is not accepted. -/
theorem patches_exact_iff (parse : String → Option υ) (rows : List (EnquiryRow υ))
    (hstored : AllStored rows) (p : Principal) (enquiryId : String) (body : EnquiryPatchRequest) :
    (∀ e rows',patchEnquiry parse rows p enquiryId body=(.error e,rows') → rows'=rows) ∧
    (∀ row' rows',patchEnquiry parse rows p enquiryId body=(.ok row',rows') →
      ∃ row∈rows,rows'=replaceRow rows row' ∧ row'.id=row.id ∧ row'.updatedAt=row.updatedAt ∧
        changedFields row row' ⊆ patchFields body) ∧
    (ChangesExactly parse rows p enquiryId body ↔
      ¬∃ row,Accepted parse rows p enquiryId body row) := by
  rcases patchEnquiry_cases parse rows p enquiryId body with
    ⟨row,live,row',hcommit,hpatch⟩|⟨e,hpatch,hnone⟩
  · obtain ⟨-,id,hid,hfind⟩ := loadTarget_ok.mp hcommit.loaded
    obtain ⟨hrow,hrowId⟩ := findEnquiry_facts hfind
    have hsubset := changedFields_subset (hstored row hrow) (copied_of_patchRow hcommit.copied)
      hcommit.written
    have hkey := id_of_updatedRow hcommit.written
    refine ⟨fun e rows' h => ?_,fun after rows' h => ?_,?_⟩
    · rw [hpatch] at h
      cases h
    · rw [hpatch] at h
      cases h
      exact ⟨row,hrow,rfl,hkey,updatedAt_of_updatedRow hcommit.written,hsubset⟩
    · have haccepted : ∃ row,Accepted parse rows p enquiryId body row :=
        ⟨row,committed_iff.mp ⟨live,row',hcommit⟩⟩
      refine iff_of_false (fun h => ?_) (not_not_intro haccepted)
      unfold ChangesExactly at h
      rw [hpatch] at h
      obtain ⟨before,after,hbefore,hafter,hexact⟩ := h id hid
      obtain rfl := Option.some.inj (hfind.symm.trans hbefore)
      have hreplaced : findEnquiry (replaceRow rows row') id=some row' := by
        rw [← hrowId,← hkey]
        exact findEnquiry_replaceRow (by rw [hkey,hrowId,hfind]; rfl)
      obtain rfl := Option.some.inj (hreplaced.symm.trans hafter)
      exact updatedAt_not_patched body (hsubset ((hexact "updated_at").mpr (.inr rfl)))
  · refine ⟨fun e' rows' h => ?_,fun after rows' h => ?_,?_⟩
    · rw [hpatch] at h
      cases h
      rfl
    · rw [hpatch] at h
      cases h
    · refine iff_of_true ?_ fun ⟨row,haccepted⟩ => ?_
      · unfold ChangesExactly
        rw [hpatch]
      · obtain ⟨live,row',hcommit⟩ := committed_iff.mpr haccepted
        exact hnone row live row' hcommit

/-! ## A note on a lead -/

/-- A note, and nothing else. -/
def noteOn : EnquiryPatchRequest := {notes := some (some "call back on Monday")}

theorem leads_stored : AllStored [lead] := by
  intro row hrow
  rw [List.mem_singleton.mp hrow]
  rfl

theorem patches_exact_lead :
    ChangesExactly some [lead] acme "lead" noteOn ↔
      ¬∃ row,Accepted some [lead] acme "lead" noteOn row :=
  (patches_exact_iff some [lead] leads_stored acme "lead" noteOn).2.2

/-- The note is saved, and the enquiry still shows the time it was created as
that of its last update. -/
theorem note_keeps_updatedAt :
    ∃ row',patchEnquiry some [lead] acme "lead" noteOn=(.ok row',[row']) ∧
      row'.notes=some "call back on Monday" ∧ row'.updatedAt=lead.updatedAt ∧
        ¬ChangesExactly some [lead] acme "lead" noteOn := by
  have hpatch : patchEnquiry some [lead] acme "lead" noteOn=
      (.ok {lead with notes := some "call back on Monday"},
        [{lead with notes := some "call back on Monday"}]) := by rfl
  refine ⟨_,hpatch,rfl,rfl,fun h => ?_⟩
  unfold ChangesExactly at h
  rw [hpatch] at h
  obtain ⟨before,after,hbefore,hafter,hexact⟩ := h "lead" rfl
  have hfound : findEnquiry [lead] "lead"=some lead := by rfl
  have hkept : findEnquiry [{lead with notes := some "call back on Monday"}] "lead"=
      some {lead with notes := some "call back on Monday"} := by rfl
  obtain rfl := Option.some.inj (hfound.symm.trans hbefore)
  obtain rfl := Option.some.inj (hkept.symm.trans hafter)
  have hchanged : changedFields lead {lead with notes := some "call back on Monday"}=["notes"] := by
    rfl
  have hnow := (hexact "updated_at").mpr (.inr rfl)
  rw [hchanged,List.mem_singleton] at hnow
  exact absurd hnow (by decide)

/-! ## Requests one after the other -/

/-- A request, with its caller. -/
structure PatchCall where
  p : Principal
  enquiryId : String
  body : EnquiryPatchRequest

/-- The rows after one more request, and the rows that requests answered, the
latest first. -/
def served (parse : String → Option υ) (s : List (EnquiryRow υ) × List (EnquiryRow υ))
    (c : PatchCall) : List (EnquiryRow υ) × List (EnquiryRow υ) :=
  match patchEnquiry parse s.1 c.p c.enquiryId c.body with
  | (.ok row,rows) => (rows,row::s.2)
  | (.error _,rows) => (rows,s.2)

/-- After any requests, an enquiry is read as the latest request it accepted
answered it, or as it was. The rows are those the database stores. -/
theorem latest_answer_found (parse : String → Option υ) (hstored : AllStored rows)
    (calls : List PatchCall) (id : υ) :
    AllStored (calls.foldl (served parse) (rows,[])).1 ∧
      findEnquiry (calls.foldl (served parse) (rows,[])).1 id=
        (findEnquiry (calls.foldl (served parse) (rows,[])).2 id).or (findEnquiry rows id) := by
  induction calls using List.reverseRecOn with
  | nil => exact ⟨hstored,rfl⟩
  | append_singleton calls c ih =>
    rw [List.foldl_concat]
    generalize calls.foldl (served parse) (rows,[])=s at ih
    obtain ⟨hkept,hfound⟩ := ih
    have hstep : AllStored (patchEnquiry parse s.1 c.p c.enquiryId c.body).2 :=
      allStored_patchEnquiry hkept
    unfold served
    rcases patchEnquiry_cases parse s.1 c.p c.enquiryId c.body with
      ⟨row,live,row',hcommit,hpatch⟩|⟨e,hpatch,-⟩ <;> rw [hpatch] at hstep ⊢
    · refine ⟨hstep,?_⟩
      obtain ⟨-,id',-,hrow⟩ := loadTarget_ok.mp hcommit.loaded
      have hkey : row'.id=id' := (id_of_updatedRow hcommit.written).trans (findEnquiry_facts hrow).2
      change _=(List.find? _ (row'::s.2)).or _
      rw [List.find?_cons]
      by_cases hid : row'.id=id
      · subst hid
        rw [findEnquiry_replaceRow (by rw [hkey,hrow]; rfl),decide_eq_true rfl]
        rfl
      · rw [findEnquiry_replaceRow_other hid,decide_eq_false hid]
        exact hfound
    · exact ⟨hstep,hfound⟩

theorem latest_answer_found_lead :
    AllStored ([⟨acme,"lead",noteOn⟩].foldl (served some) ([lead],[])).1 ∧
      (findEnquiry ([⟨acme,"lead",noteOn⟩].foldl (served some) ([lead],[])).1 "lead").bind
        EnquiryRow.notes=some "call back on Monday" := by
  obtain ⟨hstored,hfound⟩ := latest_answer_found some leads_stored [⟨acme,"lead",noteOn⟩] "lead"
  exact ⟨hstored,by rw [hfound]; rfl⟩

end Facts

end Voyagent.EnquiryPatches
