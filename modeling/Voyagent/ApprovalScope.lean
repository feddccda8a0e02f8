import Voyagent.ToolInvocation
import Voyagent.TransitionRuns

/-!
# What an approval covers within one turn

Calls of one turn and the decisions made on the ids they were answered with.
The id names the turn and the tool, the summary shown to the approver names
the input. A decision therefore covers every later input of the tool, and it
covers what was shown exactly when each call after a grant repeats an input
the tool was already asked for before anyone decided.
-/

namespace Voyagent.ApprovalScope

open RuntimeValues KeyedMap TrimmedText ToolInvocation TransitionRuns

/-- One approval request as it was returned to the caller. -/
structure Issue where
  id : String
  summary : String
  tool : String
  input : Dict

/-- What happens in a turn, one call or one decision at a time. -/
inductive TurnLabel where
  | call (name : String) (input : Dict) (env : InvokeEnv)
  | decide (id : String) (granted : Bool)

/-- Decisions on record and requests issued so far. -/
structure TurnRecord where
  approvals : Table String Bool := []
  issued : List Issue := []

/-- The context the next call receives. -/
def TurnRecord.context (base : ToolContext) (s : TurnRecord) : ToolContext :=
  {base with approvals := s.approvals}

/-- The request an outcome hands to the approver, if it is one. -/
def issueOf (name : String) (input : Dict) (r : InvokeReport) : List Issue :=
  match r.result with
  | .ok o =>
    if o.kind=.approvalNeeded then
      [⟨o.approvalId.getD "",o.approvalSummary.getD "",name,input⟩]
    else []
  | .error _ => []

/-- One step. Decisions are only made on ids that were issued. -/
inductive TurnStep (rt : Runtime) (base : ToolContext) :
    TurnRecord → TurnLabel → TurnRecord → Prop
  | call (s : TurnRecord) (name : String) (input : Dict) (env : InvokeEnv) :
      TurnStep rt base s (.call name input env)
        {s with issued := s.issued++
          issueOf name input (invokeTool rt env (s.context base) name input)}
  | decide (s : TurnRecord) (id : String) (granted : Bool) (issue : Issue)
      (hissue : issue∈s.issued) (hid : issue.id=id) :
      TurnStep rt base s (.decide id granted) {s with approvals := set s.approvals id granted}

/-- A grant is on record for a request that showed this tool and this input. -/
def Authorised (s : TurnRecord) (name : String) (input : Dict) : Prop :=
  ∃ issue∈s.issued,issue.tool=name ∧ issue.input=input ∧ get s.approvals issue.id=some true

/-- The last decision made on an id. -/
def decisionOn (id : String) : List TurnLabel → Option Bool
  | [] => none
  | .call _ _ _::ls => decisionOn id ls
  | .decide id' granted::ls =>
    match decisionOn id ls with
    | some g => some g
    | none => if id'=id then some granted else none

/-- The tool was called on this input while nobody had decided on its id. -/
def AskedBefore (turnId name : String) (input : Dict) (ls : List TurnLabel) : Prop :=
  ∃ pre env post,ls=pre++.call name input env::post ∧
    decisionOn (approvalIdFor turnId name) pre=none

variable {rt : Runtime} {base : ToolContext} {s t : TurnRecord} {ls : List TurnLabel}
variable {name : String} {input : Dict} {spec : ToolSpec} {env : InvokeEnv}

theorem decisionOn_snoc_call (id : String) (ls : List TurnLabel) (name : String) (input : Dict)
    (env : InvokeEnv) : decisionOn id (ls++[.call name input env])=decisionOn id ls := by
  induction ls with
  | nil => rfl
  | cons l ls ih => cases l <;> simp only [List.cons_append,decisionOn,ih]

theorem decisionOn_snoc_decide (id : String) (ls : List TurnLabel) (id' : String) (granted : Bool) :
    decisionOn id (ls++[.decide id' granted])=
      if id'=id then some granted else decisionOn id ls := by
  induction ls with
  | nil => rfl
  | cons l ls ih =>
    cases l with
    | call n i e => simp only [List.cons_append,decisionOn,ih]
    | decide j g =>
      simp only [List.cons_append,decisionOn,ih]
      by_cases h : id'=id <;> simp [h]

/-- The record holds the last decision on every id. -/
theorem approvals_eq (h : Run (TurnStep rt base) {} ls s) (id : String) :
    get s.approvals id=decisionOn id ls := by
  induction h with
  | start => rfl
  | next _ hs ih =>
    cases hs with
    | call name input env => rw [decisionOn_snoc_call,← ih]
    | decide id' granted issue hissue hid => rw [decisionOn_snoc_decide,get_set,ih]

/-- A call issues its id exactly when it stands undecided at the gate. -/
theorem mem_issueOf {issue : Issue} :
    issue∈issueOf name input (invokeTool rt env (s.context base) name input) ↔
      (∃ spec,Cleared rt (s.context base) name input spec ∧
        approvalGate spec (s.context base) name=.undecided) ∧
      issue=⟨approvalIdFor base.turnId name,stripWhitespace (summaryFor rt name input),name,input⟩ := by
  have hissue : ∀ {spec},Cleared rt (s.context base) name input spec →
      (⟨(approvalNeeded rt (s.context base) name input).stripped.approvalId.getD "",
        (approvalNeeded rt (s.context base) name input).stripped.approvalSummary.getD "",
        name,input⟩ : Issue)=
      ⟨approvalIdFor base.turnId name,stripWhitespace (summaryFor rt name input),name,input⟩ := by
    intro spec hcleared
    simp only [ToolInvocationOutcome.stripped,approvalNeeded,Option.map_some,Option.getD_some,
      Issue.mk.injEq,and_true]
    exact hcleared.approvalIdFor_bare _
  constructor
  · intro hm
    unfold issueOf at hm
    split at hm
    · rename_i o hres
      split at hm
      · rename_i hkind
        obtain ⟨⟨spec,hcleared,hgate⟩,rfl⟩ := invokeTool_asks_iff.mp ⟨hres,hkind⟩
        exact ⟨⟨spec,hcleared,hgate⟩,(List.mem_singleton.mp hm).trans (hissue hcleared)⟩
      · exact absurd hm List.not_mem_nil
    · exact absurd hm List.not_mem_nil
  · rintro ⟨⟨spec,hcleared,hgate⟩,rfl⟩
    rw [invokeTool_undecided hcleared hgate,← hissue hcleared]
    exact List.mem_cons_self

/-- A gated call stands undecided exactly while its id has no decision. -/
theorem gate_undecided_iff (hgated : Gated spec) (h : Run (TurnStep rt base) {} ls s) :
    approvalGate spec (s.context base) name=.undecided ↔
      decisionOn (approvalIdFor base.turnId name) ls=none := by
  rw [← approvals_eq h]
  simp only [approvalGate,hgated.1,hgated.2,Bool.and_self,if_true,TurnRecord.context]
  cases hg : get s.approvals (approvalIdFor base.turnId name) with
  | none => simp
  | some g => cases g <;> simp

/-- A gated call passes exactly once its id was granted. -/
theorem gate_passed_iff (hgated : Gated spec) (h : Run (TurnStep rt base) {} ls s) :
    approvalGate spec (s.context base) name=.passed ↔
      decisionOn (approvalIdFor base.turnId name) ls=some true := by
  rw [← approvals_eq h]
  simp only [approvalGate,hgated.1,hgated.2,Bool.and_self,if_true,TurnRecord.context]
  cases hg : get s.approvals (approvalIdFor base.turnId name) with
  | none => simp
  | some g => cases g <;> simp

/-- Neither validation nor the role check looks at the decisions. -/
theorem cleared_context (s t : TurnRecord) :
    Cleared rt (s.context base) name input spec → Cleared rt (t.context base) name input spec :=
  fun h => ⟨h.toReached,h.permitted⟩

/-- Requests on record are the undecided calls made so far. -/
theorem mem_issued (h : Run (TurnStep rt base) {} ls s)
    (hcleared : Cleared rt (s.context base) name input spec) (hgated : Gated spec) :
    (∃ issue∈s.issued,issue.tool=name ∧ issue.input=input) ↔
      AskedBefore base.turnId name input ls := by
  induction h with
  | start =>
    constructor
    · rintro ⟨issue,hm,_⟩
      exact absurd hm List.not_mem_nil
    · rintro ⟨pre,env,post,he,_⟩
      exact absurd he.symm (List.append_ne_nil_of_right_ne_nil _ (List.cons_ne_nil _ _))
  | @next ls t u l hrun hs ih =>
    have ih' := ih (cleared_context _ _ hcleared)
    cases hs with
    | call name' input' env =>
      constructor
      · rintro ⟨issue,hm,hname,hinput⟩
        rcases List.mem_append.mp hm with hm|hm
        · obtain ⟨pre,e,post,hls,hd⟩ := ih'.mp ⟨issue,hm,hname,hinput⟩
          exact ⟨pre,e,post++[.call name' input' env],by rw [hls,List.append_assoc]; rfl,hd⟩
        · obtain ⟨⟨spec',hcleared',hgate⟩,rfl⟩ := mem_issueOf.mp hm
          cases hname
          cases hinput
          refine ⟨ls,env,[],rfl,?_⟩
          rw [hcleared'.toReached.unique hcleared.toReached] at hgate
          exact (gate_undecided_iff hgated hrun).mp hgate
      · rintro ⟨pre,e,post,hls,hd⟩
        rcases List.eq_nil_or_concat post with rfl|⟨post',l',rfl⟩
        · obtain ⟨rfl,hlast⟩ := List.append_inj' hls rfl
          cases hlast
          refine ⟨_,List.mem_append_right _ (mem_issueOf.mpr
            ⟨⟨spec,cleared_context _ _ hcleared,(gate_undecided_iff hgated hrun).mpr hd⟩,rfl⟩),
            rfl,rfl⟩
        · rw [List.concat_eq_append,← List.cons_append,← List.append_assoc] at hls
          obtain ⟨rfl,_⟩ := List.append_inj' hls rfl
          obtain ⟨issue,hm,hp⟩ := ih'.mpr ⟨pre,e,post',rfl,hd⟩
          exact ⟨issue,List.mem_append_left _ hm,hp⟩
    | decide id granted issue' hissue hid =>
      refine ih'.trans ⟨?_,?_⟩
      · rintro ⟨pre,e,post,hls,hd⟩
        exact ⟨pre,e,post++[.decide id granted],by rw [hls,List.append_assoc]; rfl,hd⟩
      · rintro ⟨pre,e,post,hls,hd⟩
        rcases List.eq_nil_or_concat post with rfl|⟨post',l',rfl⟩
        · obtain ⟨_,hlast⟩ := List.append_inj' hls rfl
          cases hlast
        · rw [List.concat_eq_append,← List.cons_append,← List.append_assoc] at hls
          obtain ⟨rfl,_⟩ := List.append_inj' hls rfl
          exact ⟨pre,e,post',rfl,hd⟩

/-- Every request on record carries the id of its tool in this turn. -/
theorem issued_id (h : Run (TurnStep rt base) {} ls s) {issue : Issue} (hm : issue∈s.issued) :
    issue.id=approvalIdFor base.turnId issue.tool := by
  refine h.invariant (I:=fun s => ∀ issue∈s.issued,issue.id=approvalIdFor base.turnId issue.tool)
    (fun _ hm => absurd hm List.not_mem_nil) (fun a l b hi hs => ?_) issue hm
  cases hs with
  | call name input env =>
    intro issue hm
    rcases List.mem_append.mp hm with hm|hm
    · exact hi issue hm
    · rw [(mem_issueOf.mp hm).2]
  | decide id granted issue' hissue hid => exact hi

/-- A granted call is authorised exactly when its input was asked for while
the tool was undecided. -/
theorem authorised_iff (h : Run (TurnStep rt base) {} ls s)
    (hcleared : Cleared rt (s.context base) name input spec) (hgated : Gated spec)
    (hgranted : decisionOn (approvalIdFor base.turnId name) ls=some true) :
    Authorised s name input ↔ AskedBefore base.turnId name input ls := by
  rw [← mem_issued h hcleared hgated]
  constructor
  · rintro ⟨issue,hm,hname,hinput,_⟩
    exact ⟨issue,hm,hname,hinput⟩
  · rintro ⟨issue,hm,hname,hinput⟩
    refine ⟨issue,hm,hname,hinput,?_⟩
    rw [issued_id h hm,hname,approvals_eq h,hgranted]

/-- In a run of the turn every handler start of a gated tool is authorised. -/
def HandlersAuthorised (rt : Runtime) (base : ToolContext) (ls : List TurnLabel) : Prop :=
  ∀ pre name input env post s spec,ls=pre++.call name input env::post →
    Run (TurnStep rt base) {} pre s → getTool rt name=.ok spec → Gated spec →
    (invokeTool rt env (s.context base) name input).handlerRan → Authorised s name input

/-- After a grant the tool is only called on inputs it was asked for before
anyone decided. The other calls are refused anyway: by the schema, by the
role check or by a sink that does not accept the first write. -/
def GrantsReused (rt : Runtime) (base : ToolContext) (ls : List TurnLabel) : Prop :=
  ∀ pre name input env post spec,ls=pre++.call name input env::post →
    Cleared rt base name input spec → Gated spec → env.sinkRaises .started=none →
    decisionOn (approvalIdFor base.turnId name) pre=some true →
    AskedBefore base.turnId name input pre

/-- An approval covers what was shown exactly in the turns that only reuse
a grant on inputs asked for before the decision. -/
theorem handlersAuthorised_iff (rt : Runtime) (base : ToolContext) (ls : List TurnLabel)
    (s : TurnRecord) (hrun : Run (TurnStep rt base) {} ls s) :
    HandlersAuthorised rt base ls ↔ GrantsReused rt base ls := by
  constructor
  · intro h pre name input env post spec hls hcleared hgated hsink hgranted
    obtain ⟨t,hpre,_⟩ := Run.split (hls ▸ hrun)
    have hcl : Cleared rt (t.context base) name input spec := ⟨hcleared.toReached,hcleared.permitted⟩
    have hran : (invokeTool rt env (t.context base) name input).handlerRan :=
      handlerRan_iff.mpr ⟨spec,hcl,(gate_passed_iff hgated hpre).mpr hgranted,fun _ => hsink⟩
    exact (authorised_iff hpre hcl hgated hgranted).mp
      (h pre name input env post t spec hls hpre hcl.registered hgated hran)
  · intro h pre name input env post t spec hls hpre hget hgated hran
    obtain ⟨spec',hcl,hgate,hsink⟩ := handlerRan_iff.mp hran
    have he : spec'=spec := Except.ok.inj (hcl.registered.symm.trans hget)
    subst he
    have hgranted := (gate_passed_iff hgated hpre).mp hgate
    exact (authorised_iff hpre hcl hgated hgranted).mpr
      (h pre name input env post spec' hls ⟨hcl.toReached,hcl.permitted⟩ hgated (hsink hgated.1)
        hgranted)

/-- A handler that issues the ticket, with nothing else going wrong. -/
def issuing : InvokeEnv :=
  {auditId := "01900000-0000-7000-8000-0000000000aa"
   handler := fun _ => .returned (.dict [("issued",.bool true)])}

/-- The id the desk's turn gives to ticketing. -/
def deskTicketId : String := "ap-t-0123456789ab-issue_ticket"

/-- A turn at the desk: ticketing asked for one reservation, a human agrees,
ticketing called for the reservation named last. -/
def deskTurn (pnr : String) : List TurnLabel :=
  [.call "issue_ticket" [("pnr_id",.str "PNR-1")] issuing,.decide deskTicketId true,
    .call "issue_ticket" [("pnr_id",.str pnr)] issuing]

/-- The request the first call of that turn issues. -/
def deskIssue : Issue :=
  ⟨deskTicketId,"Approve tool `issue_ticket` with pnr_id='PNR-1'?","issue_ticket",
    [("pnr_id",.str "PNR-1")]⟩

/-- The turn up to its last call. -/
theorem deskTurn_granted :
    Run (TurnStep ticketDesk (deskContext [])) {} ((deskTurn "").take 2)
      ⟨[(deskTicketId,true)],[deskIssue]⟩ := by
  have hask : Run (TurnStep ticketDesk (deskContext [])) {} ((deskTurn "").take 1)
      ⟨[],[deskIssue]⟩ := Run.start.next (.call {} _ _ _)
  exact hask.next (.decide ⟨[],[deskIssue]⟩ deskTicketId true deskIssue List.mem_cons_self rfl)

/-- Ticketing the reservation that was shown is authorised. -/
theorem handlersAuthorised_iff_desk :
    HandlersAuthorised ticketDesk (deskContext []) (deskTurn "PNR-1") := by
  refine (handlersAuthorised_iff _ _ _ _ (deskTurn_granted.next (.call _ _ _ _))).mpr ?_
  intro pre name input env post spec hls _ _ _ hgranted
  rcases pre with _|⟨l₁,_|⟨l₂,_|⟨l₃,pre⟩⟩⟩
  · cases hgranted
  · cases hls
  · cases hls
    exact ⟨[],issuing,[.decide deskTicketId true],rfl,rfl⟩
  · simp [deskTurn] at hls

/-- Granting ticketing for one reservation tickets another one. -/
theorem grant_tickets_other_reservation :
    ¬HandlersAuthorised ticketDesk (deskContext []) (deskTurn "PNR-2") := by
  intro h
  have hcl : Cleared ticketDesk (TurnRecord.context (deskContext [])
      ⟨[(deskTicketId,true)],[deskIssue]⟩) "issue_ticket" [("pnr_id",.str "PNR-2")] issueTicket :=
    ⟨⟨rfl,rfl⟩,rfl⟩
  obtain ⟨issue,hm,_,hinput,_⟩ := h _ _ _ _ [] _ issueTicket rfl deskTurn_granted rfl ⟨rfl,rfl⟩
    (handlerRan_iff.mpr ⟨issueTicket,hcl,rfl,fun _ => rfl⟩)
  rw [List.mem_singleton.mp hm] at hinput
  exact absurd hinput (by decide)

end Voyagent.ApprovalScope
