import Voyagent.Enquiries

/-!
# Racing requests on enquiries

A create checks its body and commits a row. A PATCH and a promotion load a row,
check what they read, and commit the columns their copy changed; the row is
then read again for the answer. Nothing is locked between the load and the
commit. Any number of requests take their steps in any order; one that takes
no further step was cut off or failed at the database.
-/

namespace Voyagent.EnquiryRaces

open RuntimeValues CalendarDates FallibleResults Enquiries TransitionRuns
open ApprovalResolution (changed)
open AuthEndpoints (HttpError)

/-- A request, with what its flush draws for the row it adds. -/
inductive Request (υ : Type) where
  | create (body : EnquiryCreateRequest) (id : υ) (now : Time)
  | patch (enquiryId : String) (body : EnquiryPatchRequest)
  | promote (enquiryId : String) (sessionId : υ)

/-- Where a request stands. -/
inductive Stage (υ : Type) where
  | idle
  /-- A create that passed its checks. -/
  | adding (row : EnquiryRow υ)
  /-- Holds the row it loaded and the copy it changed; a promotion adds a session. -/
  | writing (loaded target : EnquiryRow υ) (session : Option (SessionRow υ))
  /-- Committed, with the session a promotion added. -/
  | written (enquiry : υ) (session : Option υ)
  /-- Succeeded; a promotion answers a session. -/
  | answered (row : EnquiryRow υ) (session : Option υ)
  | refused (e : HttpError)

/-- A committed write of an enquiry, with the session committed along with it. -/
structure Commit (υ : Type) where
  before : Option (EnquiryRow υ)
  after : EnquiryRow υ
  session : Option υ

/-- The committed rows, the requests and the writes so far. -/
structure World (υ : Type) where
  enquiries : List (EnquiryRow υ)
  sessions : List (SessionRow υ)
  stages : Nat → Stage υ := fun _ => .idle
  commits : List (Commit υ) := []

inductive Act (υ : Type) where
  /-- Read and check. -/
  | load (r : Nat) (p : Principal) (q : Request υ)
  /-- `db.commit`. -/
  | commit (r : Nat)
  /-- `db.refresh`. -/
  | refresh (r : Nat)

section Steps

variable {υ : Type} [DecidableEq υ] (parse : String → Option υ)

def World.set (w : World υ) (r : Nat) (st : Stage υ) : World υ :=
  {w with stages := Function.update w.stages r st}

/-- A row is added. -/
def World.insert (w : World υ) (r : Nat) (row : EnquiryRow υ) : World υ :=
  {w.set r (.written row.id none) with
    enquiries := w.enquiries++[row]
    commits := w.commits++[⟨none,row,none⟩]}

/-- A row becomes another, and a session is added. -/
def World.update (w : World υ) (r : Nat) (row row' : EnquiryRow υ)
    (session : Option (SessionRow υ)) : World υ :=
  {w.set r (.written row'.id (session.map SessionRow.id)) with
    enquiries := replaceRow w.enquiries row'
    sessions := w.sessions++session.toList
    commits := w.commits++[⟨some row,row',session.map SessionRow.id⟩]}

/-- `create_enquiry` up to its commit. -/
def loadCreate (p : Principal) (body : EnquiryCreateRequest) (id : υ) (now : Time) :
    Except HttpError (Stage υ) := do
  let row ← createRow parse p body id now
  return .adding row

/-- `patch_enquiry` up to its commit. -/
def loadPatch (w : World υ) (p : Principal) (enquiryId : String) (body : EnquiryPatchRequest) :
    Except HttpError (Stage υ) := do
  let tenant ← tenantUuid parse p
  let enquiry ← parseEnquiryId parse enquiryId
  let row ← loadOwnedEnquiry w.enquiries enquiry tenant
  let target ← patchRow parse row body
  return .writing row target none

/-- The copy of a promoted row and its new session. -/
def promoteRow (row : EnquiryRow υ) (tenant user sessionId : υ) : Stage υ :=
  match row.sessionId with
  | some s => .answered row (some s)
  | none =>
    .writing row {row with sessionId := some sessionId}
      (some ⟨sessionId,tenant,some user,.human⟩)

/-- `promote_to_session` up to its commit. -/
def loadPromote (w : World υ) (p : Principal) (enquiryId : String) (sessionId : υ) :
    Except HttpError (Stage υ) := do
  let tenant ← tenantUuid parse p
  let user ← userUuid parse p
  let enquiry ← parseEnquiryId parse enquiryId
  let row ← loadOwnedEnquiry w.enquiries enquiry tenant
  return promoteRow row tenant user sessionId

def loadRequest (w : World υ) (p : Principal) : Request υ → Except HttpError (Stage υ)
  | .create body id now => loadCreate parse p body id now
  | .patch enquiryId body => loadPatch parse w p enquiryId body
  | .promote enquiryId sessionId => loadPromote parse w p enquiryId sessionId

def arrive (w : World υ) (p : Principal) (q : Request υ) : Stage υ :=
  match loadRequest parse w p q with
  | .ok st => st
  | .error e => .refused e

/-- The primary keys of two sessions differ. -/
def newSession (w : World υ) (session : Option (SessionRow υ)) : Bool :=
  session.all fun s => w.sessions.all fun s' => decide (s'.id≠s.id)

/-- The commit of a create; its key must be new. -/
def commitRow (w : World υ) (r : Nat) (row : EnquiryRow υ) : Option (World υ) :=
  match findEnquiry w.enquiries row.id with
  | some _ => none
  | none => (storedRow row).map (w.insert r)

/-- The commit of a changed copy, by the key of the row. -/
def commitCopy (w : World υ) (r : Nat) (loaded target : EnquiryRow υ)
    (session : Option (SessionRow υ)) : Option (World υ) :=
  if newSession w session=true then
    match findEnquiry w.enquiries loaded.id with
    | none => none
    | some row => (updatedRow loaded target row).map fun row' => w.update r row row' session
  else none

/-- One step, when it can be taken. -/
def step (w : World υ) : Act υ → Option (World υ)
  | .load r p q =>
    match w.stages r with
    | .idle => some (w.set r (arrive parse w p q))
    | _ => none
  | .commit r =>
    match w.stages r with
    | .adding row => commitRow w r row
    | .writing loaded target session => commitCopy w r loaded target session
    | _ => none
  | .refresh r =>
    match w.stages r with
    | .written enquiry session =>
      (findEnquiry w.enquiries enquiry).map fun row => w.set r (.answered row session)
    | _ => none

def Step : World υ → Act υ → World υ → Prop := ofPartial (step parse)

theorem step_deterministic : Deterministic (Step parse) := deterministic_ofPartial (step parse)

/-- The requests have not arrived. -/
def start (enquiries : List (EnquiryRow υ)) (sessions : List (SessionRow υ)) : World υ :=
  {enquiries := enquiries,sessions := sessions}

end Steps

/-! ## What a step does -/

section Facts

set_option linter.unusedSectionVars false

variable {υ : Type} [DecidableEq υ] {parse : String → Option υ} {w w' : World υ} {a : Act υ}
  {as : List (Act υ)} {r i : Nat} {st : Stage υ} {enquiries : List (EnquiryRow υ)}
  {sessions : List (SessionRow υ)}

/-- What a request finds and holds when it arrives. -/
def Arrived (parse : String → Option υ) (w : World υ) (p : Principal) (q : Request υ) :
    Stage υ → Prop
  | .adding row => ∃ body id now,q=.create body id now ∧ Created parse p body id row
  | .writing loaded target session =>
    parse p.tenantId=some loaded.tenantId ∧ findEnquiry w.enquiries loaded.id=some loaded ∧
      ((∃ enquiryId body,q=.patch enquiryId body ∧ session=none ∧ Patched parse loaded body target) ∨
        ∃ enquiryId sessionId s,q=.promote enquiryId sessionId ∧ session=some s ∧
          loaded.sessionId=none ∧ s.tenantId=loaded.tenantId ∧
          target={loaded with sessionId := some s.id})
  | .answered row session => findEnquiry w.enquiries row.id=some row ∧ session.isSome=true ∧
      session=row.sessionId
  | .refused _ => True
  | .idle | .written _ _ => False

theorem arrive_cases (parse : String → Option υ) (w : World υ) (p : Principal) (q : Request υ) :
    Arrived parse w p q (arrive parse w p q) := by
  unfold arrive
  cases h : loadRequest parse w p q with
  | error e => trivial
  | ok st =>
    cases q with
    | create body id now =>
      obtain ⟨row,hrow,h⟩ := bind_ok.mp h
      cases h
      exact ⟨body,id,now,rfl,createRow_ok hrow⟩
    | patch enquiryId body =>
      obtain ⟨tenant,htenant,h⟩ := bind_ok.mp h
      obtain ⟨enquiry,-,h⟩ := bind_ok.mp h
      obtain ⟨row,hrow,h⟩ := bind_ok.mp h
      obtain ⟨target,htarget,h⟩ := bind_ok.mp h
      cases h
      obtain ⟨hfind,rfl⟩ := loadOwnedEnquiry_ok hrow
      obtain ⟨-,rfl⟩ := findEnquiry_facts hfind
      exact ⟨tenantUuid_ok.mp htenant,hfind,.inl ⟨enquiryId,body,rfl,rfl,patchRow_ok htarget⟩⟩
    | promote enquiryId sessionId =>
      obtain ⟨tenant,htenant,h⟩ := bind_ok.mp h
      obtain ⟨user,-,h⟩ := bind_ok.mp h
      obtain ⟨enquiry,-,h⟩ := bind_ok.mp h
      obtain ⟨row,hrow,h⟩ := bind_ok.mp h
      cases h
      obtain ⟨hfind,rfl⟩ := loadOwnedEnquiry_ok hrow
      obtain ⟨-,rfl⟩ := findEnquiry_facts hfind
      unfold promoteRow
      cases hs : row.sessionId with
      | some s => exact ⟨hfind,rfl,hs.symm⟩
      | none =>
        exact ⟨tenantUuid_ok.mp htenant,hfind,.inr ⟨enquiryId,sessionId,_,rfl,rfl,hs,rfl,rfl⟩⟩

/-- What a step finds and does. -/
def Act.Does (parse : String → Option υ) (w w' : World υ) : Act υ → Prop
  | .load r p q => w.stages r=.idle ∧ w'=w.set r (arrive parse w p q)
  | .commit r =>
    (∃ row row',w.stages r=.adding row ∧ findEnquiry w.enquiries row.id=none ∧
      Stored row row' ∧ w'=w.insert r row') ∨
    ∃ loaded target session row row',w.stages r=.writing loaded target session ∧
      newSession w session=true ∧ findEnquiry w.enquiries loaded.id=some row ∧
      Updated loaded target row row' ∧ w'=w.update r row row' session
  | .refresh r => ∃ enquiry session row,w.stages r=.written enquiry session ∧
      findEnquiry w.enquiries enquiry=some row ∧ w'=w.set r (.answered row session)

theorem step_cases (h : Step parse w a w') : a.Does parse w w' := by
  unfold Step ofPartial step at h
  cases a with
  | load r p q =>
    dsimp only at h
    split at h
    · rename_i hst
      exact ⟨hst,(Option.some.inj h).symm⟩
    · cases h
  | commit r =>
    dsimp only at h
    split at h
    · rename_i row hst
      unfold commitRow at h
      split at h
      · cases h
      · rename_i hnew
        obtain ⟨row',hstored,rfl⟩ := Option.map_eq_some_iff.mp h
        exact .inl ⟨row,row',hst,hnew,storedRow_some hstored,rfl⟩
    · rename_i loaded target session hst
      unfold commitCopy at h
      split at h
      · rename_i hnew
        split at h
        · cases h
        · rename_i row hfind
          obtain ⟨row',hupdated,rfl⟩ := Option.map_eq_some_iff.mp h
          exact .inr ⟨loaded,target,session,row,row',hst,hnew,hfind,updatedRow_some hupdated,rfl⟩
      · cases h
    · cases h
  | refresh r =>
    dsimp only at h
    split at h
    · rename_i enquiry session hst
      obtain ⟨row,hfind,rfl⟩ := Option.map_eq_some_iff.mp h
      exact ⟨enquiry,session,row,hst,hfind,rfl⟩
    · cases h

@[simp] theorem set_stages_self (w : World υ) (r : Nat) (st : Stage υ) : (w.set r st).stages r=st :=
  Function.update_self ..

theorem set_stages_other (w : World υ) (st : Stage υ) (h : i≠r) :
    (w.set r st).stages i=w.stages i := Function.update_of_ne h ..

/-- A request moves on: what holds of its new stage and of the others'. -/
theorem stages_set (st : Stage υ) {P : Nat → Stage υ → Prop} (hst : P r st)
    (h : ∀ i,i≠r → P i (w.stages i)) (i : Nat) : P i ((w.set r st).stages i) := by
  by_cases hi : i=r
  · subst hi
    rw [set_stages_self]
    exact hst
  · rw [set_stages_other w st hi]
    exact h i hi

/-- A step commits nothing or the one write of its request. -/
theorem commits_step (hs : Step parse w a w') : w'.commits=w.commits ∨
    ∃ r c,a=.commit r ∧ w'.commits=w.commits++[c] := by
  have hdoes := step_cases hs
  cases a with
  | load r p q =>
    obtain ⟨-,rfl⟩ := hdoes
    exact .inl rfl
  | commit r =>
    obtain ⟨row,row',-,-,-,rfl⟩|⟨loaded,target,session,row,row',-,-,-,-,rfl⟩ := hdoes
    · exact .inr ⟨r,_,rfl,rfl⟩
    · exact .inr ⟨r,_,rfl,rfl⟩
  | refresh r =>
    obtain ⟨enquiry,session,row,-,-,rfl⟩ := hdoes
    exact .inl rfl

/-! ## The status -/

/-- The change of status is one the transition check lets through. -/
def Commit.StatusLawful (c : Commit υ) : Prop :=
  ∀ before∈c.before,validateStatusTransition before.status c.after.status=.ok ()

def StatusesLawful (w : World υ) : Prop := ∀ c∈w.commits,c.StatusLawful

/-- What a request commits does not reopen a row that is resolved by then. -/
def Stage.NotReopening (rows : List (EnquiryRow υ)) : Stage υ → Prop
  | .writing loaded target _ => target.status≠loaded.status → target.status.isOpen=true →
      ∀ row∈findEnquiry rows loaded.id,row.status.isTerminal=false
  | _ => True

/-- A copy that was changed to an open status is not committed on a resolved row. -/
def NotReopening (w : World υ) : Act υ → Prop
  | .commit r => (w.stages r).NotReopening w.enquiries
  | _ => True

/-- The enquiry is booked or cancelled. -/
def Resolved (w : World υ) (enquiry : υ) : Prop :=
  ∃ row,findEnquiry w.enquiries enquiry=some row ∧ row.status.isTerminal=true

/-- An update takes a row through the transition check unless it reopens it. -/
theorem statusLawful_iff {loaded target row row' : EnquiryRow υ}
    (h : Updated loaded target row row') :
    validateStatusTransition row.status row'.status=.ok () ↔
      (target.status≠loaded.status → target.status.isOpen=true → row.status.isTerminal=false) := by
  rw [validateStatusTransition_ok,h.status]
  unfold changed
  by_cases hsame : target.status=loaded.status
  · rw [if_pos hsame]
    refine iff_of_true ?_ fun hne => absurd hsame hne
    rintro ⟨hterminal,hopen⟩
    rw [EnquiryStatus.isOpen_eq_not,hterminal] at hopen
    cases hopen
  · rw [if_neg hsame]
    constructor
    · intro h _ hopen
      by_contra hterminal
      exact h ⟨Bool.of_not_eq_false hterminal,hopen⟩
    · rintro h ⟨hterminal,hopen⟩
      rw [h hsame hopen] at hterminal
      cases hterminal

theorem statusesLawful_step (h : StatusesLawful w) (hs : Step parse w a w') :
    StatusesLawful w' ↔ NotReopening w a := by
  have hdoes := step_cases hs
  cases a with
  | load r p q =>
    obtain ⟨-,rfl⟩ := hdoes
    exact iff_of_true h trivial
  | commit r =>
    obtain ⟨row,row',hst,-,-,rfl⟩|⟨loaded,target,session,row,row',hst,-,hfind,hupdated,rfl⟩ := hdoes
    · refine iff_of_true (List.forall_mem_append.mpr ⟨h,List.forall_mem_singleton.mpr ?_⟩) ?_
      · exact fun before hbefore => (by cases hbefore)
      · dsimp only [NotReopening]
        rw [hst]
        trivial
    · have hcommit : (⟨some row,row',session.map SessionRow.id⟩ : Commit υ).StatusLawful ↔
          validateStatusTransition row.status row'.status=.ok () :=
        ⟨fun hl => hl row rfl,fun hl before hbefore => (by cases hbefore; exact hl)⟩
      have hguard : NotReopening w (.commit r) ↔ (target.status≠loaded.status →
          target.status.isOpen=true → row.status.isTerminal=false) := by
        dsimp only [NotReopening]
        rw [hst]
        dsimp only [Stage.NotReopening]
        rw [hfind]
        simp
      rw [hguard,← statusLawful_iff hupdated,← hcommit]
      unfold StatusesLawful
      refine List.forall_mem_append.trans ?_
      rw [List.forall_mem_singleton]
      exact and_iff_right h
  | refresh r =>
    obtain ⟨enquiry,session,row,-,-,rfl⟩ := hdoes
    exact iff_of_true h trivial

/-- A resolved enquiry stays resolved in a step that reopens none. -/
theorem Resolved.step {enquiry : υ} (h : Resolved w enquiry) (hs : Step parse w a w')
    (hguard : NotReopening w a) : Resolved w' enquiry := by
  obtain ⟨row₀,hfind₀,hterminal⟩ := h
  have hdoes := step_cases hs
  cases a with
  | load r p q =>
    obtain ⟨-,rfl⟩ := hdoes
    exact ⟨row₀,hfind₀,hterminal⟩
  | commit r =>
    obtain ⟨row,row',-,hnew,hstored,rfl⟩|⟨loaded,target,session,row,row',hst,-,hfind,hupdated,rfl⟩ :=
      hdoes
    · rw [← hstored.id] at hnew
      have hne : row'.id≠enquiry := by
        rintro rfl
        rw [hfind₀] at hnew
        cases hnew
      exact ⟨row₀,((findEnquiry_append hnew).trans (if_neg hne)).trans hfind₀,hterminal⟩
    · have hkey : row'.id=loaded.id := hupdated.id.trans (findEnquiry_facts hfind).2
      by_cases hid : row'.id=enquiry
      · have hfound : findEnquiry w.enquiries row'.id=some row := by rw [hkey,hfind]
        obtain rfl : row=row₀ := Option.some.inj (hfound.symm.trans (hid ▸ hfind₀))
        have hlawful := (statusLawful_iff hupdated).mpr (by
          dsimp only [NotReopening] at hguard
          rw [hst] at hguard
          exact fun hne hopen => hguard hne hopen row hfind)
        rw [validateStatusTransition_ok,hterminal,EnquiryStatus.isOpen_eq_not] at hlawful
        refine ⟨row',?_,by simpa using hlawful⟩
        rw [← hid]
        exact findEnquiry_replaceRow (by rw [hfound]; rfl)
      · exact ⟨row₀,(findEnquiry_replaceRow_other hid).trans hfind₀,hterminal⟩
  | refresh r =>
    obtain ⟨enquiry,session,row,-,-,rfl⟩ := hdoes
    exact ⟨row₀,hfind₀,hterminal⟩

/-- Every committed change of a status is an edge of the transition table if and
only if no copy that was changed to an open status was committed on a row
resolved by then; in such a run a resolved enquiry is never open again. -/
theorem statuses_lawful_iff (parse : String → Option υ) (enquiries : List (EnquiryRow υ))
    (sessions : List (SessionRow υ)) (as : List (Act υ)) (w : World υ)
    (hrun : Run (Step parse) (start enquiries sessions) as w) :
    (StatusesLawful w ↔ Run (guarded (Step parse) NotReopening) (start enquiries sessions) as w) ∧
      (Run (guarded (Step parse) NotReopening) (start enquiries sessions) as w →
        ∀ ms ns v enquiry,as=ms++ns → Run (Step parse) (start enquiries sessions) ms v →
          Resolved v enquiry → Resolved w enquiry) := by
  refine ⟨?_,?_⟩
  · refine hrun.holds_iff_guarded (J:=fun _ => True) (step_deterministic parse) trivial
      (fun _ _ _ _ _ => trivial) (fun c hc => (by cases hc)) (fun b a c hs hc => ?_)
      fun b a c _ hb hs => statusesLawful_step hb hs
    rcases commits_step hs with hsame|⟨r,c',-,hmore⟩
    · unfold StatusesLawful at *
      rwa [hsame] at hc
    · unfold StatusesLawful at *
      rw [hmore] at hc
      exact (List.forall_mem_append.mp hc).1
  · rintro hguarded ms ns v enquiry rfl hv hresolved
    obtain ⟨v',hv',hrest⟩ := hguarded.split
    obtain rfl := hv.unique (step_deterministic parse) hv'.unguard
    exact hrest.guarded_invariant (I:=fun w => Resolved w enquiry) hresolved
      fun b a c hb hs hc => hb.step hs hc

/-- An agent of an agency. -/
def acme : Principal := ⟨"agent","acme"⟩

/-- A fresh enquiry of the agency. -/
def lead : EnquiryRow String where
  id := "lead"
  tenantId := "acme"
  createdByUserId := "agent"
  customerName := "Ravi"
  createdAt := 0
  updatedAt := 0

/-- A PATCH of the status alone. -/
def setStatus (status : EnquiryStatus) : Request String :=
  .patch "lead" {status := some (some status)}

theorem statuses_lawful_iff_one :
    ∃ w,Run (Step some) (start [lead] []) [.load 0 acme (setStatus .cancelled),.commit 0] w ∧
      StatusesLawful w := by
  have hload : Run (guarded (Step some) NotReopening) (start [lead] [])
      [.load 0 acme (setStatus .cancelled)] _ := Run.start.next ⟨rfl,trivial⟩
  have hrun := hload.next (l:=Act.commit 0) ⟨rfl,fun _ hopen => (by cases hopen)⟩
  exact ⟨_,hrun.unguard,(statuses_lawful_iff _ _ _ _ _ hrun.unguard).1.mpr hrun⟩

/-- Two PATCHes load the fresh enquiry; one cancels it, the other one then makes
it quoted. -/
theorem cancelled_enquiry_quoted :
    ∃ w,Run (Step some) (start [lead] [])
        [.load 0 acme (setStatus .cancelled),.load 1 acme (setStatus .quoted),.commit 0,.commit 1] w ∧
      w.commits.map (fun c => (c.before.map EnquiryRow.status,c.after.status))=
        [(some .new,.cancelled),(some .cancelled,.quoted)] ∧ ¬StatusesLawful w := by
  refine ⟨_,run_of_foldlM rfl,rfl,fun h => ?_⟩
  have hlast := h _ (List.mem_append_right _ List.mem_cons_self) _ rfl
  cases hlast

/-! ## The dates -/

def DatesOrdered (w : World υ) : Prop := ∀ row∈w.enquiries,row.Ordered

/-- What a request commits: where it changed one date alone, the committed row
has the other one absent or in order with it. -/
def Stage.DatesFit (rows : List (EnquiryRow υ)) : Stage υ → Prop
  | .writing loaded target _ => ∀ row∈findEnquiry rows loaded.id,
      (target.departDate≠loaded.departDate → target.returnDate=loaded.returnDate →
        InOrder target.departDate row.returnDate) ∧
      (target.departDate=loaded.departDate → target.returnDate≠loaded.returnDate →
        InOrder row.departDate target.returnDate)
  | _ => True

/-- A date changed alone is committed only beside one it is in order with. -/
def DatesFit (w : World υ) : Act υ → Prop
  | .commit r => (w.stages r).DatesFit w.enquiries
  | _ => True

/-- The dates a request is about to commit were checked, or are as it loaded them. -/
def Stage.DatesChecked : Stage υ → Prop
  | .adding row => row.Ordered
  | .writing loaded target _ => target.Ordered ∨
      target.departDate=loaded.departDate ∧ target.returnDate=loaded.returnDate
  | _ => True

theorem arrive_datesChecked (w : World υ) (p : Principal) (q : Request υ) :
    (arrive parse w p q).DatesChecked := by
  have harrived := arrive_cases parse w p q
  cases hst : arrive parse w p q with
  | adding row =>
    rw [hst] at harrived
    obtain ⟨body,id,now,-,hcreated⟩ := harrived
    exact hcreated.ordered
  | writing loaded target session =>
    rw [hst] at harrived
    obtain ⟨-,-,⟨_,_,-,-,hpatched⟩|⟨_,_,_,-,-,-,-,rfl⟩⟩ := harrived
    · exact .inl hpatched.ordered
    · exact .inr ⟨rfl,rfl⟩
  | _ => trivial

theorem datesChecked_step (h : ∀ r,(w.stages r).DatesChecked) (hs : Step parse w a w') (r : Nat) :
    (w'.stages r).DatesChecked := by
  have hdoes := step_cases hs
  have hset : ∀ {r'} st,st.DatesChecked → ((w.set r' st).stages r).DatesChecked := fun st hst =>
    stages_set st (P:=fun _ => Stage.DatesChecked) hst (fun i _ => h i) r
  cases a with
  | load r p q =>
    obtain ⟨-,rfl⟩ := hdoes
    exact hset _ (arrive_datesChecked w p q)
  | commit r =>
    obtain ⟨row,row',-,-,-,rfl⟩|⟨loaded,target,session,row,row',-,-,-,-,rfl⟩ := hdoes
    · exact hset (.written row'.id none) trivial
    · exact hset (.written row'.id (session.map SessionRow.id)) trivial
  | refresh r =>
    obtain ⟨enquiry,session,row,-,-,rfl⟩ := hdoes
    exact hset (.answered row session) trivial

/-- An update of checked dates keeps an ordered row ordered if they fit it. -/
theorem ordered_of_updated {loaded target row row' : EnquiryRow υ} (h : Updated loaded target row row')
    (hrow : row.Ordered) (hchecked : target.Ordered ∨
      target.departDate=loaded.departDate ∧ target.returnDate=loaded.returnDate)
    (hdepart : target.departDate≠loaded.departDate → target.returnDate=loaded.returnDate →
      InOrder target.departDate row.returnDate)
    (hreturn : target.departDate=loaded.departDate → target.returnDate≠loaded.returnDate →
      InOrder row.departDate target.returnDate) : row'.Ordered := by
  unfold EnquiryRow.Ordered
  rw [h.departDate,h.returnDate]
  unfold changed
  by_cases hd : target.departDate=loaded.departDate
  · by_cases hr : target.returnDate=loaded.returnDate
    · rw [if_pos hd,if_pos hr]
      exact hrow
    · rw [if_pos hd,if_neg hr]
      exact hreturn hd hr
  · by_cases hr : target.returnDate=loaded.returnDate
    · rw [if_neg hd,if_pos hr]
      exact hdepart hd hr
    · rw [if_neg hd,if_neg hr]
      exact hchecked.resolve_right fun hsame => hd hsame.1

/-- Dates that do not fit the row are out of order in it once they are committed. -/
theorem fits_of_ordered {loaded target row row' : EnquiryRow υ}
    (h : Updated loaded target row row') (hordered : row'.Ordered) :
    (target.departDate≠loaded.departDate → target.returnDate=loaded.returnDate →
        InOrder target.departDate row.returnDate) ∧
      (target.departDate=loaded.departDate → target.returnDate≠loaded.returnDate →
        InOrder row.departDate target.returnDate) := by
  unfold EnquiryRow.Ordered at hordered
  rw [h.departDate,h.returnDate] at hordered
  unfold changed at hordered
  refine ⟨fun hd hr => ?_,fun hd hr => ?_⟩
  · rwa [if_neg hd,if_pos hr] at hordered
  · rwa [if_pos hd,if_neg hr] at hordered

theorem datesOrdered_step (h : DatesOrdered w) (hchecked : ∀ r,(w.stages r).DatesChecked)
    (hs : Step parse w a w') (hfit : DatesFit w a) : DatesOrdered w' := by
  have hdoes := step_cases hs
  cases a with
  | load r p q =>
    obtain ⟨-,rfl⟩ := hdoes
    exact h
  | commit r =>
    obtain ⟨row,row',hst,-,hstored,rfl⟩|⟨loaded,target,session,row,row',hst,-,hfind,hupdated,rfl⟩ :=
      hdoes
    · refine List.forall_mem_append.mpr ⟨h,List.forall_mem_singleton.mpr ?_⟩
      have hrow : (Stage.adding row).DatesChecked := hst ▸ hchecked r
      unfold EnquiryRow.Ordered
      rw [hstored.departDate,hstored.returnDate]
      exact hrow
    · have htarget : (Stage.writing loaded target session).DatesChecked := hst ▸ hchecked r
      have hfits : (Stage.writing loaded target session).DatesFit w.enquiries := hst ▸ hfit
      intro row'' hmem
      rcases mem_replaceRow hmem with rfl|hmem
      · have hrow : row.Ordered := h row (findEnquiry_facts hfind).1
        exact ordered_of_updated hupdated hrow htarget (hfits row hfind).1 (hfits row hfind).2
      · exact h row'' hmem
  | refresh r =>
    obtain ⟨enquiry,session,row,-,-,rfl⟩ := hdoes
    exact h

theorem not_datesOrdered_step (hs : Step parse w a w') (hfit : ¬DatesFit w a) : ¬DatesOrdered w' := by
  intro h
  refine hfit ?_
  have hdoes := step_cases hs
  cases a with
  | commit r =>
    obtain ⟨row,row',hst,-,-,rfl⟩|⟨loaded,target,session,row,row',hst,-,hfind,hupdated,rfl⟩ := hdoes
    · dsimp only [DatesFit]
      rw [hst]
      trivial
    · have hkey : row'.id=loaded.id := hupdated.id.trans (findEnquiry_facts hfind).2
      have hput : findEnquiry (replaceRow w.enquiries row') row'.id=some row' :=
        findEnquiry_replaceRow (by rw [hkey,hfind]; rfl)
      have hfits := fits_of_ordered hupdated (h row' (findEnquiry_facts hput).1)
      dsimp only [DatesFit]
      rw [hst]
      intro row₀ hrow₀
      obtain rfl : row=row₀ := Option.some.inj (hfind.symm.trans hrow₀)
      exact hfits
  | _ => trivial

/-- Every enquiry committed along a run has its dates in order if and only if a
date changed alone was committed only beside one it is in order with. -/
theorem dates_ordered_iff (parse : String → Option υ) (enquiries : List (EnquiryRow υ))
    (sessions : List (SessionRow υ)) (hstart : ∀ row∈enquiries,row.Ordered) (as : List (Act υ))
    (w : World υ) (hrun : Run (Step parse) (start enquiries sessions) as w) :
    Throughout (Step parse) (start enquiries sessions) as DatesOrdered ↔
      Run (guarded (Step parse) DatesFit) (start enquiries sessions) as w := by
  refine hrun.throughout_iff_guarded (I:=fun w => DatesOrdered w ∧ ∀ r,(w.stages r).DatesChecked)
    (step_deterministic parse) ⟨hstart,fun _ => trivial⟩ ?_ (fun _ h => h.1) ?_
  · rintro b a c ⟨hdates,hchecked⟩ hs hfit
    exact ⟨datesOrdered_step hdates hchecked hs hfit,datesChecked_step hchecked hs⟩
  · exact fun b a c hs hfit => not_datesOrdered_step hs hfit

/-- A day of March 2027. -/
def march (day : Nat) (h : IsDate 2027 3 day) : CalendarDate := ⟨2027,3,day,h⟩

/-- A trip from the first to the tenth. -/
def trip : EnquiryCreateRequest where
  customerName := "Ravi"
  departDate := some (march 1 (by decide))
  returnDate := some (march 10 (by decide))

def createTrip : Request String := .create trip "lead" 0

theorem dates_ordered_iff_created :
    ∃ w,Run (Step some) (start [] []) [.load 0 acme createTrip,.commit 0] w ∧
      Throughout (Step some) (start [] []) [.load 0 acme createTrip,.commit 0] DatesOrdered := by
  have hload : Run (guarded (Step some) DatesFit) (start [] []) [.load 0 acme createTrip] _ :=
    Run.start.next ⟨rfl,trivial⟩
  have hrun := hload.next (l:=Act.commit 0) ⟨rfl,trivial⟩
  exact ⟨_,hrun.unguard,(dates_ordered_iff _ _ _ (List.forall_mem_nil _) _ _ hrun.unguard).mpr hrun⟩

/-- Departing later and returning earlier, each in order with the date the
other one replaces. -/
def departLater : Request String := .patch "lead" {departDate := some (some (march 9 (by decide)))}

def returnEarlier : Request String := .patch "lead" {returnDate := some (some (march 2 (by decide)))}

/-- Two PATCHes that are each in order commit a trip that returns before it departs. -/
theorem trip_returns_before_departure :
    ¬Throughout (Step some) (start [] []) [.load 0 acme createTrip,.commit 0,.load 1 acme departLater,
      .load 2 acme returnEarlier,.commit 1,.commit 2] DatesOrdered := by
  intro h
  have hrun : Run (Step some) (start [] []) [.load 0 acme createTrip,.commit 0,
      .load 1 acme departLater,.load 2 acme returnEarlier,.commit 1,.commit 2] _ := run_of_foldlM rfl
  have hordered := h _ _ (List.prefix_refl _) hrun _ List.mem_cons_self
  exact absurd (hordered _ rfl _ rfl) (by decide)

end Facts

end Voyagent.EnquiryRaces
