import Voyagent.EnquiryRaces

/-!
# The sessions enquiries point at

Promotions that race create one session for each of them. What a create or a
PATCH names as the session of an enquiry is stored unread: the link is soft, so
it is the tenant's own only as far as the bodies are.
-/

namespace Voyagent.EnquiryLinks

open Enquiries EnquiryRaces TransitionRuns
open ApprovalResolution (changed)

section

set_option linter.unusedSectionVars false

variable {υ : Type} [DecidableEq υ] {parse : String → Option υ} {w w' : World υ} {a : Act υ}
  {as : List (Act υ)} {r : Nat} {st : Stage υ} {e s : υ}

/-! ## Promotions -/

/-- The request, if one arrives, promotes an enquiry. -/
def Promotes : Act υ → Prop
  | .load _ _ q => ∃ enquiryId sessionId,q=.promote enquiryId sessionId
  | _ => True

/-- Steps of promotions. -/
def PromoteStep (parse : String → Option υ) : World υ → Act υ → World υ → Prop :=
  guarded (Step parse) fun _ => Promotes

/-- The session a write created for an enquiry. -/
def createdBy (e : υ) (c : Commit υ) : Option υ := if c.after.id=e then c.session else none

/-- The sessions created for an enquiry. -/
def createdFor (w : World υ) (e : υ) : List υ := w.commits.filterMap (createdBy e)

/-- A promotion of the enquiry succeeded with a session. -/
def Returned (w : World υ) (e s : υ) : Prop := ∃ r row,w.stages r=.answered row (some s) ∧ row.id=e

/-- At most one session is created for the enquiry, and every success returns it. -/
structure PromotedOnce (w : World υ) (e : υ) : Prop where
  created : (createdFor w e).length≤1
  returned : ∀ s s',Returned w e s → Returned w e s' → s=s'
  same : ∀ s s',s∈createdFor w e → Returned w e s' → s'=s

/-- A session is not committed for a row that has one by then. -/
def Stage.Unlinked (rows : List (EnquiryRow υ)) : Stage υ → Prop
  | .writing loaded _ (some _) => ∀ row∈findEnquiry rows loaded.id,row.sessionId=none
  | _ => True

/-- No promotion that loaded no session is committed after another one. -/
def Unlinked (w : World υ) : Act υ → Prop
  | .commit r => Stage.Unlinked w.enquiries (w.stages r)
  | _ => True

/-! ## What promotions keep -/

/-- The request has committed or read a session of the enquiry. -/
def Reports (e s : υ) : Stage υ → Prop
  | .written e' s' => e'=e ∧ s'=some s
  | .answered row s' => row.id=e ∧ s'=some s
  | _ => False

/-- What a promotion holds of the rows. -/
def StageFact (w : World υ) : Stage υ → Prop
  | .adding _ => False
  | .writing loaded target session => loaded.sessionId=none ∧
      (∃ s,session=some s ∧ target={loaded with sessionId := some s.id}) ∧
      (createdFor w loaded.id=[] → ∀ row∈findEnquiry w.enquiries loaded.id,row.sessionId=none)
  | _ => True

/-- Known in every state promotions reach. -/
structure Facts (w : World υ) : Prop where
  stages : ∀ r,StageFact w (w.stages r)
  agreed : ∀ e,(createdFor w e).length≤1 → ∀ s,
    s∈createdFor w e ∨ (∃ r,Reports e s (w.stages r)) →
      ∃ row,findEnquiry w.enquiries e=some row ∧ row.sessionId=some s

theorem facts_start (enquiries : List (EnquiryRow υ)) (sessions : List (SessionRow υ)) :
    Facts (start enquiries sessions) where
  stages := fun _ => trivial
  agreed := fun _ _ _ h => h.elim (fun hs => absurd hs List.not_mem_nil) fun ⟨_,h⟩ => h.elim

theorem createdFor_update {row row' : EnquiryRow υ} {session : Option (SessionRow υ)} :
    createdFor (w.update r row row' session) e=
      createdFor w e++(if row'.id=e then (session.map SessionRow.id).toList else []) := by
  unfold createdFor
  refine List.filterMap_append.trans (congrArg _ ?_)
  unfold createdBy
  by_cases h : row'.id=e
  · simp only [List.filterMap_cons,List.filterMap_nil,if_pos h]
    cases session <;> rfl
  · simp only [List.filterMap_cons,List.filterMap_nil,if_neg h]

/-- A request moves on without a commit. -/
theorem Facts.set (h : Facts w) (hst : StageFact w st)
    (hreports : ∀ e s,Reports e s st → (createdFor w e).length≤1 →
      ∃ row,findEnquiry w.enquiries e=some row ∧ row.sessionId=some s) : Facts (w.set r st) where
  stages := stages_set st (P:=fun _ => StageFact w) hst fun i _ => h.stages i
  agreed := by
    rintro e hle s (hs|⟨i,hi⟩)
    · exact h.agreed e hle s (.inl hs)
    · have hcase := stages_set (w:=w) (r:=r) st
        (P:=fun i st' => ∀ e s,Reports e s st' → (createdFor w e).length≤1 →
          ∃ row,findEnquiry w.enquiries e=some row ∧ row.sessionId=some s)
        hreports
        (fun i _ e s hrep hle => h.agreed e hle s (.inr ⟨i,hrep⟩)) i
      exact hcase e s hi hle

/-- A session is committed for an enquiry. -/
theorem Facts.update (h : Facts w) {loaded target row row' : EnquiryRow υ}
    {session : Option (SessionRow υ)} (hst : w.stages r=.writing loaded target session)
    (hfind : findEnquiry w.enquiries loaded.id=some row) (hupdated : Updated loaded target row row') :
    Facts (w.update r row row' session) := by
  obtain ⟨hnone,⟨s,rfl,rfl⟩,hfresh⟩ : StageFact w (.writing loaded target session) := hst ▸ h.stages r
  have hkey : row'.id=loaded.id := hupdated.id.trans (findEnquiry_facts hfind).2
  have hlinked : row'.sessionId=some s.id := by
    rw [hupdated.session,hnone]
    exact if_neg (Option.some_ne_none _)
  have hput : findEnquiry (replaceRow w.enquiries row') row'.id=some row' :=
    findEnquiry_replaceRow (by rw [hkey,hfind]; rfl)
  have hcreated : ∀ e,createdFor (w.update r row row' (some s)) e=
      createdFor w e++(if row'.id=e then [s.id] else []) := fun e => createdFor_update
  constructor
  · refine stages_set (.written row'.id (some s.id))
      (P:=fun _ => StageFact (w.update r row row' (some s))) trivial fun i _ => ?_
    have hi := h.stages i
    cases hsi : w.stages i with
    | writing loaded' target' session' =>
      rw [hsi] at hi
      refine ⟨hi.1,hi.2.1,fun hempty => ?_⟩
      rw [hcreated] at hempty
      by_cases hid : row'.id=loaded'.id
      · rw [if_pos hid] at hempty
        exact absurd hempty (List.append_ne_nil_of_right_ne_nil _ (List.cons_ne_nil _ _))
      · rw [if_neg hid,List.append_nil] at hempty
        intro row'' hrow''
        exact hi.2.2 hempty row'' ((findEnquiry_replaceRow_other hid).symm.trans hrow'')
    | adding row'' => rw [hsi] at hi; exact hi
    | _ => trivial
  · intro e hle s' hs'
    rw [hcreated] at hle hs'
    by_cases hid : row'.id=e
    · subst hid
      rw [if_pos rfl] at hle hs'
      -- nothing was created or reported before
      have hnil : createdFor w row'.id=[] := by
        rw [List.length_append,List.length_singleton] at hle
        exact List.eq_nil_of_length_eq_zero (by omega)
      have hquiet : ∀ s'' i,¬Reports row'.id s'' (w.stages i) := by
        intro s'' i hrep
        obtain ⟨row₀,hfind₀,hs₀⟩ := h.agreed row'.id (by rw [hnil]; exact Nat.zero_le 1) s''
          (.inr ⟨i,hrep⟩)
        rw [hkey] at hfind₀ hnil
        rw [hfresh hnil row₀ hfind₀] at hs₀
        cases hs₀
      suffices hsame : s'=s.id from ⟨row',hput,hlinked.trans (congrArg some hsame.symm)⟩
      rcases hs' with hs'|⟨i,hi⟩
      · rw [hnil] at hs'
        exact List.mem_singleton.mp hs'
      · have hcase := stages_set (w:=w) (r:=r) (.written row'.id (some s.id))
          (P:=fun _ st' => ∀ s'',Reports row'.id s'' st' → s''=s.id)
          (fun s'' hrep => (Option.some.inj hrep.2).symm)
          (fun i _ s'' hrep => absurd hrep (hquiet s'' i)) i
        exact hcase s' hi
    · rw [if_neg hid,List.append_nil] at hle hs'
      have hold : ∃ row₀,findEnquiry w.enquiries e=some row₀ ∧ row₀.sessionId=some s' := by
        rcases hs' with hs'|⟨i,hi⟩
        · exact h.agreed e hle s' (.inl hs')
        · have hcase := stages_set (w:=w) (r:=r) (.written row'.id (some s.id))
            (P:=fun i st' => Reports e s' st' → ∃ i,Reports e s' (w.stages i))
            (fun hrep => absurd hrep.1 hid) (fun i _ hrep => ⟨i,hrep⟩) i
          exact h.agreed e hle s' (.inr (hcase hi))
      obtain ⟨row₀,hfind₀,hs₀⟩ := hold
      exact ⟨row₀,(findEnquiry_replaceRow_other hid).trans hfind₀,hs₀⟩

theorem arrive_fact (parse : String → Option υ) (w : World υ) (p : Principal) {q : Request υ}
    (hq : Promotes (.load r p q)) :
    StageFact w (arrive parse w p q) ∧ ∀ e s,Reports e s (arrive parse w p q) →
      (createdFor w e).length≤1 → ∃ row,findEnquiry w.enquiries e=some row ∧ row.sessionId=some s := by
  obtain ⟨enquiryId,sessionId,rfl⟩ := hq
  have harrived := arrive_cases parse w p (.promote enquiryId sessionId)
  cases hst : arrive parse w p (.promote enquiryId sessionId) with
  | adding row =>
    rw [hst] at harrived
    obtain ⟨_,_,_,hcreate,-⟩ := harrived
    cases hcreate
  | writing loaded target session =>
    rw [hst] at harrived
    obtain ⟨-,hfind,⟨_,_,hpatch,-,-⟩|⟨_,_,s,-,rfl,hnone,-,rfl⟩⟩ := harrived
    · cases hpatch
    · refine ⟨⟨hnone,⟨s,rfl,rfl⟩,fun _ row hrow => ?_⟩,fun _ _ hrep => hrep.elim⟩
      obtain rfl : loaded=row := Option.some.inj (hfind.symm.trans hrow)
      exact hnone
  | answered row session =>
    rw [hst] at harrived
    obtain ⟨hfind,-,rfl⟩ := harrived
    refine ⟨trivial,?_⟩
    rintro e s ⟨rfl,hs⟩ -
    exact ⟨row,hfind,hs⟩
  | refused error => exact ⟨trivial,fun _ _ hrep => hrep.elim⟩
  | idle | written enquiry session => rw [hst] at harrived; exact harrived.elim

theorem facts_step (h : Facts w) (hs : PromoteStep parse w a w') : Facts w' := by
  obtain ⟨hs,hpromotes⟩ := hs
  have hdoes := step_cases hs
  cases a with
  | load r p q =>
    obtain ⟨-,rfl⟩ := hdoes
    obtain ⟨hfact,hreports⟩ := arrive_fact parse w p hpromotes
    exact h.set hfact hreports
  | commit r =>
    obtain ⟨row,row',hst,-,-,rfl⟩|⟨loaded,target,session,row,row',hst,-,hfind,hupdated,rfl⟩ := hdoes
    · exact (hst ▸ h.stages r : StageFact w (.adding row)).elim
    · exact h.update hst hfind hupdated
  | refresh r =>
    obtain ⟨enquiry,session,row,hst,hfind,rfl⟩ := hdoes
    refine h.set trivial fun e s hrep hle => h.agreed e hle s (.inr ⟨r,?_⟩)
    obtain ⟨rfl,hs⟩ := hrep
    rw [hst]
    exact ⟨(findEnquiry_facts hfind).2.symm,hs⟩

/-- Sessions that were created stay so. -/
theorem createdFor_step (hs : PromoteStep parse w a w') (e : υ) :
    ∃ more,createdFor w' e=createdFor w e++more := by
  unfold createdFor
  rcases commits_step hs.1 with hsame|⟨r,c,-,hmore⟩
  · exact ⟨[],by rw [hsame,List.append_nil]⟩
  · exact ⟨_,by rw [hmore,List.filterMap_append]⟩

/-- No enquiry got a second session. -/
def CreatedOnce (w : World υ) : Prop := ∀ e,(createdFor w e).length≤1

/-- A step creates a second session if and only if it commits one for a row that
has one. -/
theorem createdOnce_step (h : Facts w) (honce : CreatedOnce w) (hs : PromoteStep parse w a w') :
    CreatedOnce w' ↔ Unlinked w a := by
  have hdoes := step_cases hs.1
  cases a with
  | load r p q =>
    obtain ⟨-,rfl⟩ := hdoes
    exact iff_of_true honce trivial
  | commit r =>
    obtain ⟨row,row',hst,-,-,rfl⟩|⟨loaded,target,session,row,row',hst,-,hfind,hupdated,rfl⟩ := hdoes
    · exact (hst ▸ h.stages r : StageFact w (.adding row)).elim
    · obtain ⟨-,⟨s,rfl,-⟩,hfresh⟩ : StageFact w (.writing loaded target session) :=
        hst ▸ h.stages r
      have hkey : row'.id=loaded.id := hupdated.id.trans (findEnquiry_facts hfind).2
      have hguard : Unlinked w (.commit r) ↔ row.sessionId=none := by
        dsimp only [Unlinked]
        rw [hst]
        dsimp only [Stage.Unlinked]
        rw [hfind]
        simp
      have hlength : ∀ e,(createdFor (w.update r row row' (some s)) e).length=
          (createdFor w e).length+(if row'.id=e then 1 else 0) := by
        intro e
        rw [createdFor_update,List.length_append]
        split <;> rfl
      rw [hguard]
      constructor
      · intro hafter
        have hlast := hafter loaded.id
        rw [hlength,if_pos hkey] at hlast
        exact hfresh (List.eq_nil_of_length_eq_zero (by omega)) row hfind
      · intro hnone e
        rw [hlength]
        split
        · rename_i hid
          rw [hkey] at hid
          subst hid
          have hnil : createdFor w loaded.id=[] := by
            refine List.eq_nil_iff_forall_not_mem.mpr fun s' hs' => ?_
            obtain ⟨row₀,hfind₀,hs₀⟩ := h.agreed _ (honce _) s' (.inl hs')
            obtain rfl : row=row₀ := Option.some.inj (hfind.symm.trans hfind₀)
            rw [hnone] at hs₀
            cases hs₀
          rw [hnil]
          exact Nat.le_refl 1
        · exact honce e
  | refresh r =>
    obtain ⟨enquiry,session,row,-,-,rfl⟩ := hdoes
    exact iff_of_true honce trivial

/-- Where one session was created at most, every success returns it. -/
theorem Facts.promotedOnce (h : Facts w) (hle : (createdFor w e).length≤1) : PromotedOnce w e := by
  have hreturned : ∀ s,Returned w e s → ∃ row,findEnquiry w.enquiries e=some row ∧ row.sessionId=some s := by
    rintro s ⟨r,row,hst,rfl⟩
    refine h.agreed row.id hle s (.inr ⟨r,?_⟩)
    rw [hst]
    exact ⟨rfl,rfl⟩
  have hsame : ∀ {s s'},(∃ row,findEnquiry w.enquiries e=some row ∧ row.sessionId=some s) →
      (∃ row,findEnquiry w.enquiries e=some row ∧ row.sessionId=some s') → s=s' := by
    rintro s s' ⟨row,hrow,hs⟩ ⟨row',hrow',hs'⟩
    obtain rfl : row=row' := Option.some.inj (hrow.symm.trans hrow')
    exact Option.some.inj (hs.symm.trans hs')
  exact ⟨hle,fun s s' hs hs' => hsame (hreturned s hs) (hreturned s' hs'),
    fun s s' hs hs' => hsame (hreturned s' hs') (h.agreed e hle s (.inl hs))⟩

/-- Of racing promotions at most one creates a session for an enquiry, which all
return, if and only if none that loaded no session is committed after another. -/
theorem promoted_once_iff (parse : String → Option υ) (enquiries : List (EnquiryRow υ))
    (sessions : List (SessionRow υ)) (as : List (Act υ)) (w : World υ)
    (hrun : Run (PromoteStep parse) (start enquiries sessions) as w) :
    (∀ e,PromotedOnce w e) ↔
      Run (guarded (PromoteStep parse) Unlinked) (start enquiries sessions) as w := by
  have hfacts : Facts w := hrun.invariant (facts_start enquiries sessions) fun _ _ _ => facts_step
  have honce : CreatedOnce w ↔
      Run (guarded (PromoteStep parse) Unlinked) (start enquiries sessions) as w := by
    refine hrun.holds_iff_guarded (deterministic_guarded (step_deterministic parse))
      (facts_start enquiries sessions) (fun _ _ _ => facts_step) (fun e => Nat.zero_le 1)
      (fun b a c hs hc e => ?_) fun b a c hb honce hs => createdOnce_step hb honce hs
    obtain ⟨more,hmore⟩ := createdFor_step hs e
    have hle := hc e
    rw [hmore,List.length_append] at hle
    omega
  rw [← honce]
  exact ⟨fun h e => (h e).created,fun h e => hfacts.promotedOnce (h e)⟩

/-- An agent promotes the lead under a new session. -/
def promoteLead (session : String) : Request String := .promote "lead" session

theorem promotes_promoteLead (r : Nat) (p : Principal) (session : String) :
    Promotes (.load r p (promoteLead session)) := ⟨_,_,rfl⟩

/-- A second click is answered with the session of the first. -/
theorem promoted_once_iff_again :
    ∃ w,Run (PromoteStep some) (start [lead] []) [.load 0 acme (promoteLead "first"),.commit 0,
        .refresh 0,.load 1 acme (promoteLead "second")] w ∧ ∀ e,PromotedOnce w e := by
  have hload : Run (guarded (PromoteStep some) Unlinked) (start [lead] [])
      [.load 0 acme (promoteLead "first")] _ :=
    Run.start.next ⟨⟨rfl,promotes_promoteLead 0 acme "first"⟩,trivial⟩
  have hcommit := hload.next (l:=Act.commit 0)
    ⟨⟨rfl,trivial⟩,fun row hrow => (by cases hrow; rfl)⟩
  have hrefresh := hcommit.next (l:=Act.refresh 0) ⟨⟨rfl,trivial⟩,trivial⟩
  have hrun := hrefresh.next (l:=Act.load 1 acme (promoteLead "second"))
    ⟨⟨rfl,promotes_promoteLead 1 acme "second"⟩,trivial⟩
  exact ⟨_,hrun.unguard,(promoted_once_iff _ _ _ _ _ hrun.unguard).mpr hrun⟩

/-- Two clicks at once create a session each, and each is answered with its own. -/
theorem double_click_creates_two :
    ∃ w,Run (PromoteStep some) (start [lead] []) [.load 0 acme (promoteLead "first"),
        .load 1 acme (promoteLead "second"),.commit 0,.commit 1,.refresh 0,.refresh 1] w ∧
      createdFor w "lead"=["first","second"] ∧ Returned w "lead" "first" ∧
      Returned w "lead" "second" ∧ ¬PromotedOnce w "lead" := by
  have hload : Run (PromoteStep some) (start [lead] []) [.load 0 acme (promoteLead "first")] _ :=
    Run.start.next ⟨rfl,promotes_promoteLead 0 acme "first"⟩
  have hload' := hload.next (l:=Act.load 1 acme (promoteLead "second"))
    ⟨rfl,promotes_promoteLead 1 acme "second"⟩
  have hcommit := hload'.next (l:=Act.commit 0) ⟨rfl,trivial⟩
  have hcommit' := hcommit.next (l:=Act.commit 1) ⟨rfl,trivial⟩
  have hrefresh := hcommit'.next (l:=Act.refresh 0) ⟨rfl,trivial⟩
  have hrun := hrefresh.next (l:=Act.refresh 1) ⟨rfl,trivial⟩
  refine ⟨_,hrun,rfl,⟨0,_,rfl,rfl⟩,⟨1,_,rfl,rfl⟩,fun h => ?_⟩
  exact absurd (h.returned "first" "second" ⟨0,_,rfl,rfl⟩ ⟨1,_,rfl,rfl⟩) (by decide)

/-! ## Whose sessions -/

/-- The session a body names. -/
def names (parse : String → Option υ) : Request υ → Option υ
  | .create body _ _ => body.sessionId.bind parse
  | .patch _ body => body.sessionId.join.bind parse
  | .promote _ _ => none

/-- A principal of the tenant named the session in a create or a PATCH. -/
def Named (parse : String → Option υ) (as : List (Act υ)) (tenant s : υ) : Prop :=
  ∃ r p q,.load r p q∈as ∧ parse p.tenantId=some tenant ∧ names parse q=some s

/-- A session of the tenant. -/
def OwnSession (w : World υ) (tenant s : υ) : Prop := ∃ x∈w.sessions,x.id=s ∧ x.tenantId=tenant

/-- Every enquiry points at a session of its tenant or at none. -/
def OwnLinks (w : World υ) : Prop :=
  ∀ row∈w.enquiries,∀ s∈row.sessionId,OwnSession w row.tenantId s

/-- Where the link a request is about to commit comes from. -/
def LinkFact (parse : String → Option υ) (as : List (Act υ)) (w : World υ) : Stage υ → Prop
  | .adding row => ∀ s∈row.sessionId,Named parse as row.tenantId s
  | .writing loaded target session =>
    (∃ row,findEnquiry w.enquiries loaded.id=some row ∧ row.tenantId=loaded.tenantId) ∧
      (target.sessionId=loaded.sessionId ∨ ∀ s∈target.sessionId,
        Named parse as loaded.tenantId s ∨ ∃ x∈session,x.id=s ∧ x.tenantId=loaded.tenantId)
  | _ => True

/-- Every link is an own session or was named by the tenant. -/
structure Linked (parse : String → Option υ) (as : List (Act υ)) (w : World υ) : Prop where
  rows : ∀ row∈w.enquiries,∀ s∈row.sessionId,
    OwnSession w row.tenantId s ∨ Named parse as row.tenantId s
  stages : ∀ r,LinkFact parse as w (w.stages r)

theorem Named.snoc {tenant : υ} (h : Named parse as tenant s) (a : Act υ) :
    Named parse (as++[a]) tenant s := by
  obtain ⟨r,p,q,hmem,hq⟩ := h
  exact ⟨r,p,q,List.mem_append_left _ hmem,hq⟩

theorem parseSessionIdOrNone_ok {raw : Option String} {session : Option υ}
    (h : parseSessionIdOrNone parse raw=.ok session) : session=raw.bind parse := by
  unfold parseSessionIdOrNone at h
  cases raw with
  | none => cases h; rfl
  | some raw =>
    dsimp only at h
    split at h
    · rename_i s hs
      cases h
      exact hs.symm
    · cases h

theorem patchedSession_ok {old session : Option υ} {field : Enquiries.Field String}
    (h : patchedSession parse old field=.ok session) : session=old ∨ session=field.join.bind parse := by
  cases field with
  | none => cases h; exact .inl rfl
  | some raw => exact .inr (parseSessionIdOrNone_ok h)

theorem arrive_linkFact (w : World υ) (r : Nat) (p : Principal) (q : Request υ) :
    LinkFact parse (as++[.load r p q]) w (arrive parse w p q) := by
  have harrived := arrive_cases parse w p q
  have hnamed : ∀ {tenant s},parse p.tenantId=some tenant → names parse q=some s →
      Named parse (as++[.load r p q]) tenant s := fun htenant hs =>
    ⟨r,p,q,List.mem_append_right _ List.mem_cons_self,htenant,hs⟩
  cases hst : arrive parse w p q with
  | adding row =>
    rw [hst] at harrived
    obtain ⟨body,id,now,rfl,hcreated⟩ := harrived
    intro s hs
    exact hnamed hcreated.tenant ((parseSessionIdOrNone_ok hcreated.session).symm.trans hs)
  | writing loaded target session =>
    rw [hst] at harrived
    obtain ⟨htenant,hfind,⟨enquiryId,body,rfl,-,hpatched⟩|⟨_,_,x,-,rfl,-,hx,rfl⟩⟩ := harrived
    · refine ⟨⟨loaded,hfind,rfl⟩,(patchedSession_ok hpatched.session).imp_right fun hsame s hs => ?_⟩
      exact .inl (hnamed htenant (hsame.symm.trans hs))
    · refine ⟨⟨loaded,hfind,rfl⟩,.inr fun s hs => .inr ⟨x,rfl,?_,hx⟩⟩
      exact Option.some.inj hs
  | _ => trivial

/-- A label more, and the rows a copy was loaded from of the same tenants. -/
theorem LinkFact.grows (h : LinkFact parse as w st)
    (hfind : ∀ e row,findEnquiry w.enquiries e=some row →
      ∃ row',findEnquiry w'.enquiries e=some row' ∧ row'.tenantId=row.tenantId) :
    LinkFact parse (as++[a]) w' st := by
  cases st with
  | adding row => exact fun s hs => (h s hs).snoc a
  | writing loaded target session =>
    obtain ⟨⟨row,hrow,htenant⟩,hlink⟩ := h
    obtain ⟨row',hrow',htenant'⟩ := hfind _ row hrow
    refine ⟨⟨row',hrow',htenant'.trans htenant⟩,hlink.imp_right fun hnamed s hs => ?_⟩
    exact (hnamed s hs).imp_left fun hn => hn.snoc a
  | _ => trivial

/-- A request moves on without a commit. -/
theorem Linked.set (h : Linked parse as w) (hst : LinkFact parse (as++[a]) w st) :
    Linked parse (as++[a]) (w.set r st) where
  rows := fun row hrow s hs => (h.rows row hrow s hs).imp_right fun hn => hn.snoc a
  stages := stages_set st (P:=fun _ => LinkFact parse (as++[a]) (w.set r st)) hst fun i _ =>
    (h.stages i).grows fun _ row hrow => ⟨row,hrow,rfl⟩

theorem OwnSession.more {tenant : υ} (h : OwnSession w tenant s)
    (hmore : ∀ x∈w.sessions,x∈w'.sessions) : OwnSession w' tenant s := by
  obtain ⟨x,hx,hid⟩ := h
  exact ⟨x,hmore x hx,hid⟩

/-- A row is added with the link its body named. -/
theorem Linked.insert (h : Linked parse as w) {row row' : EnquiryRow υ}
    (hst : w.stages r=.adding row) (hnew : findEnquiry w.enquiries row.id=none)
    (hstored : Stored row row') : Linked parse (as++[a]) (w.insert r row') := by
  have hrow : LinkFact parse as w (.adding row) := hst ▸ h.stages r
  rw [← hstored.id] at hnew
  constructor
  · refine List.forall_mem_append.mpr ⟨fun row'' hmem s hs => ?_,List.forall_mem_singleton.mpr ?_⟩
    · exact (h.rows row'' hmem s hs).imp_right fun hn => hn.snoc a
    · intro s hs
      rw [hstored.tenant]
      exact .inr ((hrow s (hstored.session.symm.trans hs)).snoc a)
  · refine stages_set (.written row'.id none)
      (P:=fun _ => LinkFact parse (as++[a]) (w.insert r row')) trivial fun i _ => (h.stages i).grows fun e row'' hfind => ?_
    refine ⟨row'',((findEnquiry_append hnew).trans (if_neg ?_)).trans hfind,rfl⟩
    rintro rfl
    rw [hnew] at hfind
    cases hfind

/-- A copy is committed with the link its row had, its body named or its
promotion created. -/
theorem Linked.update (h : Linked parse as w) {loaded target row row' : EnquiryRow υ}
    {session : Option (SessionRow υ)} (hst : w.stages r=.writing loaded target session)
    (hfind : findEnquiry w.enquiries loaded.id=some row) (hupdated : Updated loaded target row row') :
    Linked parse (as++[a]) (w.update r row row' session) := by
  obtain ⟨⟨row₀,hrow₀,htenant⟩,hlink⟩ : LinkFact parse as w (.writing loaded target session) :=
    hst ▸ h.stages r
  obtain rfl : row=row₀ := Option.some.inj (hfind.symm.trans hrow₀)
  obtain ⟨hmem,hid⟩ := findEnquiry_facts hfind
  have hkey : row'.id=loaded.id := hupdated.id.trans hid
  have hmore : ∀ x∈w.sessions,x∈(w.update r row row' session).sessions := fun x hx =>
    List.mem_append_left _ hx
  have hold : ∀ row''∈w.enquiries,∀ s∈row''.sessionId,
      OwnSession (w.update r row row' session) row''.tenantId s ∨
        Named parse (as++[a]) row''.tenantId s := fun row'' hrow'' s hs =>
    (h.rows row'' hrow'' s hs).imp (fun ho => ho.more hmore) fun hn => hn.snoc a
  constructor
  · intro row'' hrow'' s hs
    rcases mem_replaceRow hrow'' with rfl|hrow''
    · rw [hupdated.tenant]
      rw [hupdated.session] at hs
      unfold changed at hs
      split at hs
      · exact hold row hmem s hs
      · rename_i hne
        rw [htenant]
        rcases hlink.resolve_left hne s hs with hn|⟨x,hx,hxs,hxt⟩
        · exact .inr (hn.snoc a)
        · exact .inl ⟨x,List.mem_append_right _ (Option.mem_toList.mpr hx),hxs,hxt⟩
    · exact hold row'' hrow'' s hs
  · refine stages_set (.written row'.id (session.map SessionRow.id))
      (P:=fun _ => LinkFact parse (as++[a]) (w.update r row row' session)) trivial
      fun i _ => (h.stages i).grows fun e row'' hrow'' => ?_
    by_cases he : row'.id=e
    · subst he
      have hput : findEnquiry (replaceRow w.enquiries row') row'.id=some row' :=
        findEnquiry_replaceRow (by rw [hrow'']; rfl)
      rw [hkey,hfind] at hrow''
      cases hrow''
      exact ⟨row',hput,hupdated.tenant⟩
    · exact ⟨row'',(findEnquiry_replaceRow_other he).trans hrow'',rfl⟩

theorem linked_step (h : Linked parse as w) (hs : Step parse w a w') : Linked parse (as++[a]) w' := by
  have hdoes := step_cases hs
  cases a with
  | load r p q =>
    obtain ⟨-,rfl⟩ := hdoes
    exact h.set (arrive_linkFact w r p q)
  | commit r =>
    obtain ⟨row,row',hst,hnew,hstored,rfl⟩|⟨loaded,target,session,row,row',hst,-,hfind,hupdated,rfl⟩ :=
      hdoes
    · exact h.insert hst hnew hstored
    · exact h.update hst hfind hupdated
  | refresh r =>
    obtain ⟨enquiry,session,row,-,-,rfl⟩ := hdoes
    exact h.set trivial

/-- Every enquiry points at no session, at one of its tenant's own, or at one that
a create or a PATCH of its tenant named; at none but own ones, then, where the
bodies named no others. -/
theorem links_own_or_named (parse : String → Option υ) (enquiries : List (EnquiryRow υ))
    (sessions : List (SessionRow υ)) (hstart : OwnLinks (start enquiries sessions))
    (as : List (Act υ)) (w : World υ) (hrun : Run (Step parse) (start enquiries sessions) as w) :
    (∀ row∈w.enquiries,∀ s∈row.sessionId,
        OwnSession w row.tenantId s ∨ Named parse as row.tenantId s) ∧
      ((∀ tenant s,Named parse as tenant s → OwnSession w tenant s) → OwnLinks w) := by
  have hlinked : Linked parse as w := by
    induction hrun with
    | start => exact ⟨fun row hrow s hs => .inl (hstart row hrow s hs),fun _ => trivial⟩
    | next _ hs ih => exact linked_step ih hs
  exact ⟨hlinked.rows,fun hown row hrow s hs =>
    (hlinked.rows row hrow s hs).elim id fun hn => hown _ s hn⟩

/-- A promotion alone links the enquiry to a session of its tenant. -/
theorem links_own_or_named_promoted :
    ∃ w,Run (Step some) (start [lead] []) [.load 0 acme (promoteLead "first"),.commit 0] w ∧
      w.enquiries.map EnquiryRow.sessionId=[some "first"] ∧ OwnLinks w := by
  have hstart : OwnLinks (start [lead] []) := by
    refine List.forall_mem_singleton.mpr fun s hs => ?_
    cases hs
  have hload : Run (Step some) (start [lead] []) [.load 0 acme (promoteLead "first")] _ :=
    Run.start.next rfl
  have hrun := hload.next (l:=Act.commit 0) rfl
  refine ⟨_,hrun,rfl,(links_own_or_named _ _ _ hstart _ _ hrun).2 ?_⟩
  rintro tenant s ⟨r,p,q,hmem,-,hnames⟩
  rcases List.mem_cons.mp hmem with heq|hmem
  · cases heq
    cases hnames
  · cases List.mem_singleton.mp hmem

/-- An agency names the session of another one in a new enquiry. -/
theorem foreign_session_linked :
    let foreign : SessionRow String := ⟨"theirs","other",none,.human⟩
    let body : EnquiryCreateRequest := {customerName := "Ravi",sessionId := some "theirs"}
    ∃ w,Run (Step some) (start [] [foreign]) [.load 0 acme (.create body "lead" 0),.commit 0] w ∧
      w.enquiries.map (fun row => (row.tenantId,row.sessionId))=[("acme",some "theirs")] ∧
      ¬OwnLinks w := by
  intro foreign body
  refine ⟨_,run_of_foldlM rfl,rfl,fun h => ?_⟩
  obtain ⟨x,hx,-,htenant⟩ := h _ List.mem_cons_self "theirs" rfl
  rw [List.mem_singleton.mp hx] at htenant
  exact absurd htenant (by decide)

end

end Voyagent.EnquiryLinks
