import Voyagent.ToolInvocation

/-!
# How often a call runs its handler

A tool that declares an output model has its handler run once more when the
first output does not fit the model. The second run is made under the audit row
of the first, so it is made for tools with side effects as for any other; there
is no third.
-/

namespace Voyagent.HandlerExecutions

open RuntimeValues KeyedMap ToolInvocation

variable {rt : Runtime} {env : InvokeEnv} {ctx : ToolContext} {name : String} {input : Dict}
variable {spec : ToolSpec}

/-- The effect is the start of a handler. -/
def startsHandler : Effect → Bool
  | .handler _ _ => true
  | .audit _ => false

/-- How often a call ran the handler. -/
def executions (r : InvokeReport) : Nat := r.effects.countP startsHandler

/-- The tool declares an output model that the answer does not fit. -/
def Misfits (spec : ToolSpec) (answered : HandlerAnswer) : Prop :=
  ∃ model output text,spec.outputSchema=some model ∧ answered=.returned output ∧
    model.modelValidate output=.invalid text

@[simp] theorem executions_answer (o : ToolInvocationOutcome) : executions (answer o)=0 := rfl

theorem handlerRan_iff_executions {r : InvokeReport} : r.handlerRan ↔ 0<executions r := by
  unfold executions InvokeReport.handlerRan
  rw [List.countP_pos_iff]
  constructor
  · rintro ⟨tool,input,hm⟩
    exact ⟨_,hm,rfl⟩
  · rintro ⟨e,hm,he⟩
    cases e with
    | audit _ => cases he
    | handler tool input => exact ⟨tool,input,hm⟩

/-- Writing to the sink runs no handler. -/
theorem executions_writeAudit (event : AuditEvent) (rest : InvokeReport) :
    executions (writeAudit env event rest)=
      if (env.sinkRaises event.status).isNone then executions rest else 0 := by
  unfold executions
  have hwrite : ¬startsHandler (.audit event)=true := Bool.false_ne_true
  rw [writeAudit_effects,List.countP_cons_of_neg hwrite]
  split <;> rfl

theorem executions_closeAudit (audit : Option AuditEvent) (status : AuditStatus)
    (error : Option String) (outputs : Dict) {rest : InvokeReport} (h : executions rest=0) :
    executions (closeAudit env audit status error outputs rest)=0 := by
  unfold closeAudit
  cases audit with
  | none => exact h
  | some event =>
    dsimp only
    rw [executions_writeAudit,h,ite_self]

/-- Nor does the way from the handler's end to the outcome. -/
theorem executions_finishCall (audit : Option AuditEvent) (result : ExecResult) :
    executions (finishCall rt env spec name audit result)=0 := by
  unfold finishCall
  dsimp only
  split
  · rfl
  all_goals exact executions_closeAudit _ _ _ _ rfl

/-- The handler phase runs the handler as often as it calls it. -/
theorem executions_runHandler (audit : Option AuditEvent) :
    executions (runHandler rt env spec name input audit)=
      (executeHandler spec.outputSchema env.handler (maxValidationAttempts spec-1) 1).calls := by
  have hfinish : executions (finishCall rt env spec name audit
      (executeHandler spec.outputSchema env.handler (maxValidationAttempts spec-1) 1).result)=0 :=
    executions_finishCall audit _
  unfold executions at hfinish ⊢
  unfold runHandler
  dsimp only
  rw [List.countP_append,hfinish,List.countP_replicate]
  rfl

/-- A complaint about the output is what an output that does not fit brings. -/
theorem handlerOnce_complains_iff (answered : HandlerAnswer) (attempt : Nat) :
    (∃ o text n,handlerOnce spec.outputSchema answered attempt=.output o (some text) n) ↔
      Misfits spec answered := by
  constructor
  · rintro ⟨o,text,n,h⟩
    cases answered with
    | cancelled => cases h
    | raised e => cases h
    | returned output =>
      cases hschema : spec.outputSchema with
      | none =>
        rw [hschema] at h
        cases h
      | some model =>
        rw [hschema] at h
        cases hverdict : model.modelValidate output with
        | valid => simp [handlerOnce,hverdict] at h
        | raised e => simp [handlerOnce,hverdict] at h
        | invalid complaint => exact ⟨model,output,complaint,hschema,rfl,hverdict⟩
  · rintro ⟨model,output,text,hschema,rfl,hverdict⟩
    exact ⟨output,text,attempt,by simp [handlerOnce,hschema,hverdict]⟩

/-- The handler is called twice if the first output does not fit, once otherwise. -/
theorem calls_eq_two_iff (spec : ToolSpec) (handler : Nat → HandlerAnswer) :
    (executeHandler spec.outputSchema handler (maxValidationAttempts spec-1) 1).calls=2 ↔
      Misfits spec (handler 1) := by
  unfold maxValidationAttempts
  cases hschema : spec.outputSchema with
  | none =>
    refine iff_of_false (by simp [executeHandler]) ?_
    rintro ⟨model,output,text,hsome,-⟩
    rw [hschema] at hsome
    contradiction
  | some model =>
    rw [← handlerOnce_complains_iff (handler 1) 1,hschema]
    simp only [Option.isSome_some,if_true,executeHandler]
    cases handlerOnce (some model) (handler 1) 1 with
    | cancelled => simp
    | raised e => simp
    | output o complaint n => cases complaint <;> simp

/-- Behind the gate the handler runs at most twice. -/
theorem executions_runWithAudit :
    executions (runWithAudit rt env ctx spec name input)≤2 ∧
      (executions (runWithAudit rt env ctx spec name input)=2 ↔
        (runWithAudit rt env ctx spec name input).handlerRan ∧ Misfits spec (env.handler 1)) := by
  have hcalls := (executeHandler_calls spec.outputSchema env.handler (maxValidationAttempts spec-1) 1).2
  have hmax : maxValidationAttempts spec≤2 := by unfold maxValidationAttempts; split <;> omega
  have htwo := calls_eq_two_iff spec env.handler
  rw [runWithAudit_ran_iff]
  unfold runWithAudit
  cases hside : spec.sideEffect with
  | false =>
    rw [if_neg Bool.false_ne_true,executions_runHandler,htwo]
    exact ⟨by omega,(and_iff_right nofun).symm⟩
  | true =>
    rw [if_pos rfl]
    dsimp only
    rw [executions_writeAudit,executions_runHandler]
    cases hsink : env.sinkRaises .started with
    | none =>
      simp only [Option.isNone_none,if_true,htwo]
      exact ⟨by omega,(and_iff_right fun _ => trivial).symm⟩
    | some e =>
      simp only [Option.isNone_some,Bool.false_eq_true,if_false]
      exact ⟨by omega,iff_of_false (by decide) fun h => nomatch h.1 trivial⟩

/-- A call runs its handler at most twice, whatever kind of tool it is, and a
second time exactly when it ran at all and the tool declares an output model
that the first output did not fit. -/
theorem handler_executions (rt : Runtime) (env : InvokeEnv) (ctx : ToolContext) (name : String)
    (input : Dict) :
    executions (invokeTool rt env ctx name input)≤2 ∧
      (executions (invokeTool rt env ctx name input)=2 ↔
        (invokeTool rt env ctx name input).handlerRan ∧
          ∃ spec,getTool rt name=.ok spec ∧ Misfits spec (env.handler 1)) := by
  have hquiet : executions (invokeTool rt env ctx name input)=0 →
      executions (invokeTool rt env ctx name input)≤2 ∧
      (executions (invokeTool rt env ctx name input)=2 ↔
        (invokeTool rt env ctx name input).handlerRan ∧
          ∃ spec,getTool rt name=.ok spec ∧ Misfits spec (env.handler 1)) := by
    intro hnone
    rw [handlerRan_iff_executions,hnone]
    exact ⟨by omega,iff_of_false (by decide) fun h => Nat.lt_irrefl 0 h.1⟩
  have hwrite : ∀ (event : AuditEvent) (o : ToolInvocationOutcome),
      executions (writeAudit env event (answer o))=0 := by
    intro event o
    rw [executions_writeAudit,executions_answer,ite_self]
  have hexit := invokeTool_exit rt env ctx name input
  generalize invokeTool rt env ctx name input=r at hexit hquiet ⊢
  cases hexit with
  | unreached o hkind hnone => exact hquiet rfl
  | schemaRaised e hnone => exact hquiet rfl
  | roleDenied spec event o hreached hrole hevent hkind => exact hquiet (hwrite event o)
  | undecided spec hcleared hgate => exact hquiet rfl
  | denied spec event o hcleared hgate hevent hkind => exact hquiet (hwrite event o)
  | passed spec hcleared hgate =>
    obtain ⟨htwice,htwo⟩ : executions (runWithAudit rt env ctx spec name input)≤2 ∧
        (executions (runWithAudit rt env ctx spec name input)=2 ↔
          (runWithAudit rt env ctx spec name input).handlerRan ∧ Misfits spec (env.handler 1)) :=
      executions_runWithAudit
    refine ⟨htwice,htwo.trans (and_congr_right fun _ => ⟨fun h => ⟨spec,hcleared.registered,h⟩,?_⟩)⟩
    rintro ⟨spec',hspec',h⟩
    cases hcleared.registered.symm.trans hspec'
    exact h

/-- The `issue_ticket` tool with a model that wants a ticket number. -/
def numberedTicket : ToolSpec :=
  {issueTicket with
   outputSchema := some ⟨"Ticket",fun
     | .dict d => if (get d "number").isSome then .valid else .invalid "number: Field required"
     | _ => .invalid "Input should be a valid dictionary"⟩}

/-- The ticket desk with that tool. -/
def numberedDesk : Runtime :=
  {ticketDesk with
   registry := ⟨[("issue_ticket",numberedTicket)],fun k spec h => by
     simp only [get_cons,get_nil] at h
     split at h
     · rename_i hk
       cases h
       exact hk
     · cases h⟩}

/-- One approved call issues the ticket twice: the first answer has no number. -/
theorem misfit_issues_twice :
    numberedTicket.sideEffect=true ∧ getTool numberedDesk "issue_ticket"=.ok numberedTicket ∧
      ¬executions (invokeTool numberedDesk
        ⟨"01900000-0000-7000-8000-0000000000aa",0,1,fun _ => none,
          fun _ => .returned (.dict [("issued",.bool true)])⟩
        (deskContext [("ap-t-0123456789ab-issue_ticket",true)]) "issue_ticket"
        [("pnr_id",.str "PNR-1")])≤1 :=
  ⟨rfl,rfl,by decide +kernel⟩

end Voyagent.HandlerExecutions
