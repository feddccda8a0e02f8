import Voyagent.ToolInvocation

/-!
# The audit trail of one call

A side-effect call opens an audit event before its handler runs and has to
close it, whatever the handler does. The trail is closed exactly when the
handler phase settles: cancellation skips every `except Exception` and
leaves the event open, and an output that is no dictionary is booked as a
success before the outcome is refused.
-/

namespace Voyagent.AuditTrail

open RuntimeValues KeyedMap ToolInvocation

variable {rt : Runtime} {env : InvokeEnv} {ctx : ToolContext} {name : String} {input : Dict}
variable {spec : ToolSpec}

/-- Events the sink received, in order. -/
def writes (r : InvokeReport) : List AuditEvent :=
  r.effects.filterMap fun
    | .audit event => some event
    | .handler _ _ => none

/-- The call returned a success. -/
def Succeeded (r : InvokeReport) : Prop := ∃ o,r.result=.ok o ∧ o.kind=.success

/-- One event opened before the handler and closed once after it, under the
id minted for the call, with the status its outcome calls for. -/
def Closed (env : InvokeEnv) (r : InvokeReport) : Prop :=
  ∃ opened closed pre,r.effects=.audit opened::(pre++[.audit closed]) ∧ pre≠[] ∧
    (∀ e∈pre,∃ tool input,e=.handler tool input) ∧
    opened.id=env.auditId ∧ opened.status=.started ∧ closed.id=env.auditId ∧
    (closed.status=.succeeded ∨ closed.status=.failed ∨ closed.status=.cancelled) ∧
    (closed.status=.succeeded ↔ Succeeded r)

/-- What the compliance record has to show for one call. -/
structure AuditComplete (rt : Runtime) (env : InvokeEnv) (ctx : ToolContext) (name : String)
    (input : Dict) : Prop where
  /-- A started side effect has a closed trail. -/
  closed : ∀ spec,getTool rt name=.ok spec → spec.sideEffect=true →
    (invokeTool rt env ctx name input).handlerRan → Closed env (invokeTool rt env ctx name input)
  /-- Without a handler start there is at most one event, a rejection. -/
  quiet : ¬(invokeTool rt env ctx name input).handlerRan →
    writes (invokeTool rt env ctx name input)=[] ∨
      ∃ event,writes (invokeTool rt env ctx name input)=[event] ∧ event.status=.rejected
  /-- Rejections are the role denials and the human ones. -/
  rejection : (∃ event∈writes (invokeTool rt env ctx name input),event.status=.rejected) ↔
    ∃ spec,Reached rt name input spec ∧
      (roleDenied spec ctx=true ∨ approvalGate spec ctx name=.denied)

/-- The handler answer closes what was opened. -/
def settles (schema : Option OutputSchema) : HandlerAnswer → Bool
  | .cancelled => false
  | .returned .other =>
    match schema with
    | none => false
    | some model => model.modelValidate .other != .valid
  | _ => true

/-- The handler answer is refused by the output schema. -/
def refused (schema : Option OutputSchema) : HandlerAnswer → Bool
  | .returned o =>
    match schema with
    | none => false
    | some model =>
      match model.modelValidate o with
      | .invalid _ => true
      | _ => false
  | _ => false

/-- No answer taken from the handler is a cancellation or an accepted value
that is neither a dictionary nor `None`. -/
def Settled (schema : Option OutputSchema) (handler : Nat → HandlerAnswer) : Prop :=
  settles schema (handler 1)=true ∧ (refused schema (handler 1)=true → settles schema (handler 2)=true)

/-- The handler phase ended in a way `finishCall` closes properly. -/
def ExecResult.closes : ExecResult → Bool
  | .cancelled => false
  | .output .other none _ => false
  | _ => true

@[simp] theorem closes_complaint (o : HandlerOutput) (text : String) (n : Nat) :
    ExecResult.closes (.output o (some text) n)=true := by cases o <;> rfl

theorem handlerOnce_closes (schema : Option OutputSchema) (a : HandlerAnswer) (n : Nat) :
    ExecResult.closes (handlerOnce schema a n)=settles schema a := by
  cases a with
  | cancelled => rfl
  | raised e => rfl
  | returned o =>
    cases schema with
    | none => cases o <;> rfl
    | some model =>
      cases o <;> simp only [handlerOnce,settles] <;> split <;>
        simp_all [ExecResult.closes]

/-- A refused answer is one the handler phase reports with a complaint. -/
theorem handlerOnce_refused (schema : Option OutputSchema) (a : HandlerAnswer) (n : Nat) :
    refused schema a=true ↔ ∃ o text,handlerOnce schema a n=.output o (some text) n := by
  cases a with
  | cancelled => simp [refused,handlerOnce]
  | raised e => simp [refused,handlerOnce]
  | returned o =>
    cases schema with
    | none => simp [refused,handlerOnce]
    | some model =>
      simp only [refused,handlerOnce]
      cases model.modelValidate o <;> simp

/-- The phase settles exactly when the answers taken do. -/
theorem executeHandler_closes (spec : ToolSpec) (handler : Nat → HandlerAnswer) :
    ExecResult.closes (executeHandler spec.outputSchema handler
      (maxValidationAttempts spec-1) 1).result=true ↔ Settled spec.outputSchema handler := by
  unfold Settled maxValidationAttempts
  cases hschema : spec.outputSchema with
  | none =>
    have hr : refused none (handler 1)=false := by cases handler 1 <;> rfl
    simp only [Option.isSome_none,Bool.false_eq_true,if_false,Nat.sub_self,executeHandler,
      handlerOnce_closes,hr,false_implies,and_true]
  | some model =>
    simp only [Option.isSome_some,if_true,Nat.add_one_sub_one]
    rw [← handlerOnce_closes (some model) (handler 1) 1,handlerOnce_refused _ _ 1]
    unfold executeHandler
    cases honce : handlerOnce (some model) (handler 1) 1 with
    | cancelled => simp [ExecResult.closes]
    | raised e => simp [ExecResult.closes]
    | output o complaint n =>
      have hn : n=1 := by
        unfold handlerOnce at honce
        split at honce <;> try cases honce
        split at honce <;> try cases honce
        · rfl
        · split at honce <;> cases honce <;> rfl
      subst hn
      cases complaint with
      | none => cases o <;> simp [ExecResult.closes]
      | some text =>
        simp only [executeHandler,handlerOnce_closes,closes_complaint,true_and]
        exact ⟨fun h _ => h,fun h => h ⟨o,text,rfl⟩⟩

section

variable (hsink : ∀ status,env.sinkRaises status=none)

include hsink

/-- An open event and a settled phase give one closing write. -/
theorem finishCall_closed (event : AuditEvent)
    {result : ExecResult} (h : ExecResult.closes result=true) :
    ∃ closed,(finishCall rt env spec name (some event) result).effects=[.audit closed] ∧
      closed.id=event.id ∧
      ((closed.status=.succeeded ∧
          ∃ o,(finishCall rt env spec name (some event) result).result=.ok o ∧ o.kind=.success) ∨
        (closed.status=.failed ∧
          ∃ o,(finishCall rt env spec name (some event) result).result=.ok o ∧ o.kind=.error)) := by
  unfold finishCall closeAudit
  dsimp only
  split
  · cases h
  · rw [writeAudit_accepted (hsink _)]
    exact ⟨_,rfl,rfl,.inr ⟨rfl,_,rfl,rfl⟩⟩
  · rw [writeAudit_accepted (hsink _)]
    exact ⟨_,rfl,rfl,.inr ⟨rfl,_,rfl,rfl⟩⟩
  · rw [writeAudit_accepted (hsink _)]
    exact ⟨_,rfl,rfl,.inl ⟨rfl,_,rfl,rfl⟩⟩
  · rw [writeAudit_accepted (hsink _)]
    exact ⟨_,rfl,rfl,.inl ⟨rfl,_,rfl,rfl⟩⟩
  · cases h

/-- Otherwise the event stays open, or is booked as a success that the
caller never receives. -/
theorem finishCall_unclosed (event : AuditEvent)
    {result : ExecResult} (h : ExecResult.closes result=false) :
    (∃ k,(finishCall rt env spec name (some event) result).result=.error k) ∧
      ((finishCall rt env spec name (some event) result).effects=[] ∨
        ∃ closed,(finishCall rt env spec name (some event) result).effects=[.audit closed] ∧
          closed.status=.succeeded) := by
  unfold finishCall closeAudit
  dsimp only
  split
  · exact ⟨⟨_,rfl⟩,.inl rfl⟩
  · cases h
  · rw [closes_complaint] at h
    cases h
  · cases h
  · cases h
  · rw [writeAudit_accepted (hsink _)]
    exact ⟨⟨_,rfl⟩,.inr ⟨_,rfl,rfl⟩⟩

/-- The effects of a side-effect call behind the gate: the opening write, the
handler starts, and what finishing the call wrote. -/
theorem runWithAudit_effects (hside : spec.sideEffect=true) :
    ∃ opened calls result,opened.id=env.auditId ∧ opened.status=.started ∧ 1≤calls ∧
      (ExecResult.closes result=true ↔ Settled spec.outputSchema env.handler) ∧
      runWithAudit rt env ctx spec name input=
        ⟨.audit opened::(List.replicate calls (.handler name input)++
            (finishCall rt env spec name (some opened) result).effects),
          (finishCall rt env spec name (some opened) result).result⟩ := by
  unfold runWithAudit
  rw [if_pos hside]
  dsimp only
  rw [writeAudit_accepted (hsink _)]
  exact ⟨_,_,_,rfl,rfl,(executeHandler_calls _ _ _ _).1,executeHandler_closes spec env.handler,rfl⟩

/-- Behind the gate the trail is closed exactly for settled handlers. -/
theorem closed_iff_settled (hside : spec.sideEffect=true) :
    Closed env (runWithAudit rt env ctx spec name input) ↔
      Settled spec.outputSchema env.handler := by
  obtain ⟨opened,calls,result,hid,hstatus,hcalls,hsettled,hrun⟩ :=
    runWithAudit_effects hsink hside
  rw [hrun,← hsettled]
  constructor
  · rintro ⟨o,c,pre,heffects,_,hpre,_,_,_,_,hiff⟩
    by_contra hopen
    obtain ⟨⟨k,hk⟩,hlast⟩ := finishCall_unclosed hsink opened
      (Bool.eq_false_iff.mpr hopen)
    have hnot : ¬Succeeded ⟨.audit opened::(List.replicate calls (.handler name input)++
        (finishCall rt env spec name (some opened) result).effects),
        (finishCall rt env spec name (some opened) result).result⟩ := by
      rintro ⟨out,hout,_⟩
      rw [hk] at hout
      cases hout
    have htail := (List.cons.inj heffects).2
    rcases hlast with hnil|⟨closed,hclosed,hsucc⟩
    · -- The last effect would be a handler start.
      rw [hnil,List.append_nil] at htail
      have hmem : Effect.audit c∈List.replicate calls (Effect.handler name input) := by
        rw [htail]
        exact List.mem_append_right _ List.mem_cons_self
      cases (List.mem_replicate.mp hmem).2
    · rw [hclosed] at htail
      obtain ⟨_,hc⟩ := List.append_inj' htail rfl
      cases hc
      exact hnot (hiff.mp hsucc)
  · intro hcl
    obtain ⟨closed,hclosed,hcid,hkind⟩ := finishCall_closed
      hsink opened hcl
    refine ⟨opened,closed,List.replicate calls (.handler name input),by rw [hclosed],?_,?_,hid,
      hstatus,hcid.trans hid,?_,?_⟩
    · intro hnil
      have hlen := congrArg List.length hnil
      rw [List.length_replicate,List.length_nil] at hlen
      omega
    · intro e he
      exact ⟨name,input,(List.mem_replicate.mp he).2⟩
    · rcases hkind with ⟨hs,_⟩|⟨hs,_⟩
      · exact .inl hs
      · exact .inr (.inl hs)
    · rcases hkind with ⟨hs,out,hout,hk⟩|⟨hs,out,hout,hk⟩
      · exact ⟨fun _ => ⟨out,hout,hk⟩,fun _ => hs⟩
      · refine ⟨fun h => ?_,?_⟩
        · rw [hs] at h
          cases h
        · rintro ⟨out',hout',hk'⟩
          have he : out=out' := Except.ok.inj (hout.symm.trans hout')
          rw [he,hk'] at hk
          cases hk

end

/-- Finishing a call never writes a rejection. -/
theorem finishCall_not_rejected {audit : Option AuditEvent} {result : ExecResult}
    {event : AuditEvent} (h : .audit event∈(finishCall rt env spec name audit result).effects) :
    event.status≠.rejected := by
  have hclose : ∀ {status error outputs} {rest : InvokeReport},rest.effects=[] →
      status≠.rejected → .audit event∈(closeAudit env audit status error outputs rest).effects →
      event.status≠.rejected := by
    intro status error outputs rest hrest hs hm
    unfold closeAudit at hm
    cases audit with
    | none =>
      dsimp only at hm
      rw [hrest] at hm
      exact absurd hm List.not_mem_nil
    | some opened =>
      dsimp only at hm
      rw [writeAudit_effects,hrest,ite_self,List.mem_singleton] at hm
      cases hm
      exact hs
  unfold finishCall at h
  split at h
  · exact absurd h List.not_mem_nil
  · exact hclose (answer_effects _) (by decide) h
  · exact hclose (answer_effects _) (by decide) h
  · exact hclose (answer_effects _) (by decide) h
  · exact hclose (answer_effects _) (by decide) h
  · exact hclose rfl (by decide) h

/-- Nor does anything else behind the gate. -/
theorem runWithAudit_not_rejected {event : AuditEvent}
    (h : .audit event∈(runWithAudit rt env ctx spec name input).effects) :
    event.status≠.rejected := by
  have hrun : ∀ audit,.audit event∈(runHandler rt env spec name input audit).effects →
      event.status≠.rejected := by
    intro audit hm
    rcases List.mem_append.mp hm with hm|hm
    · cases (List.mem_replicate.mp hm).2
    · exact finishCall_not_rejected hm
  unfold runWithAudit at h
  by_cases hside : spec.sideEffect=true
  · rw [if_pos hside] at h
    rcases mem_writeAudit h with he|hm
    · cases he
      exact fun hn => by cases hn
    · exact hrun _ hm
  · rw [if_neg hside] at h
    exact hrun _ h

theorem mem_writes {r : InvokeReport} {event : AuditEvent} :
    event∈writes r ↔ .audit event∈r.effects := by
  unfold writes
  rw [List.mem_filterMap]
  constructor
  · rintro ⟨e,hm,he⟩
    cases e with
    | audit ev => cases he; exact hm
    | handler _ _ => cases he
  · exact fun h => ⟨_,h,rfl⟩

/-- The writes of a rejection that the sink receives. -/
theorem writes_rejection (event : AuditEvent) (o : ToolInvocationOutcome) :
    writes (writeAudit env event (answer o))=[event] := by
  rw [writes,writeAudit_effects,answer_effects,ite_self]
  rfl

/-- A call that starts no handler writes nothing but a rejection. -/
theorem quiet_without_handler (hsink : ∀ status,env.sinkRaises status=none)
    (hran : ¬(invokeTool rt env ctx name input).handlerRan) :
    writes (invokeTool rt env ctx name input)=[] ∨
      ∃ event,writes (invokeTool rt env ctx name input)=[event] ∧ event.status=.rejected := by
  have hexit := invokeTool_exit rt env ctx name input
  generalize invokeTool rt env ctx name input=r at hexit hran
  cases hexit with
  | unreached o hkind hnone => exact .inl rfl
  | schemaRaised e hnone => exact .inl rfl
  | roleDenied spec event o hreached hrole hevent hkind
  | denied spec event o hcleared hgate hevent hkind =>
    exact .inr ⟨event,writes_rejection event o,hevent.1⟩
  | undecided spec hcleared hgate => exact .inl rfl
  | passed spec hcleared hgate =>
    exact absurd (runWithAudit_ran_iff.mpr fun _ => hsink _) hran

/-- Rejections are written for denied roles and denied approvals alone. -/
theorem rejection_iff :
    (∃ event∈writes (invokeTool rt env ctx name input),event.status=.rejected) ↔
      ∃ spec,Reached rt name input spec ∧
        (roleDenied spec ctx=true ∨ approvalGate spec ctx name=.denied) := by
  have hexit := invokeTool_exit rt env ctx name input
  generalize invokeTool rt env ctx name input=r at hexit
  cases hexit with
  | unreached o hkind hnone | schemaRaised e hnone =>
    exact ⟨fun ⟨_,hm,_⟩ => absurd hm List.not_mem_nil,fun ⟨s,hs,_⟩ => absurd hs (hnone s)⟩
  | roleDenied spec event o hreached hrole hevent hkind =>
    rw [writes_rejection]
    exact ⟨fun _ => ⟨spec,hreached,.inl hrole⟩,fun _ => ⟨event,List.mem_cons_self,hevent.1⟩⟩
  | undecided spec hcleared hgate =>
    refine ⟨fun ⟨_,hm,_⟩ => absurd hm List.not_mem_nil,?_⟩
    rintro ⟨s,hs,hd⟩
    rw [hs.unique hcleared.toReached,hcleared.permitted,hgate] at hd
    rcases hd with hd|hd <;> cases hd
  | denied spec event o hcleared hgate hevent hkind =>
    rw [writes_rejection]
    exact ⟨fun _ => ⟨spec,hcleared.toReached,.inr hgate⟩,
      fun _ => ⟨event,List.mem_cons_self,hevent.1⟩⟩
  | passed spec hcleared hgate =>
    constructor
    · rintro ⟨event,hm,hs⟩
      exact absurd hs (runWithAudit_not_rejected (mem_writes.mp hm))
    · rintro ⟨s,hs,hd⟩
      rw [hs.unique hcleared.toReached,hcleared.permitted,hgate] at hd
      rcases hd with hd|hd <;> cases hd

/-- With a sink that accepts every write the record is complete exactly when
every handler that gets to run settles. -/
theorem auditComplete_iff (rt : Runtime) (env : InvokeEnv) (ctx : ToolContext) (name : String)
    (input : Dict) (hsink : ∀ status,env.sinkRaises status=none) :
    AuditComplete rt env ctx name input ↔
      ∀ spec,Cleared rt ctx name input spec → spec.sideEffect=true →
        approvalGate spec ctx name=.passed → Settled spec.outputSchema env.handler := by
  constructor
  · intro h spec hcleared hside hgate
    have hran : (invokeTool rt env ctx name input).handlerRan :=
      handlerRan_iff.mpr ⟨spec,hcleared,hgate,fun _ => hsink _⟩
    have hclosed := h.closed spec hcleared.registered hside hran
    rw [invokeTool_passed hcleared hgate] at hclosed
    exact (closed_iff_settled hsink hside).mp hclosed
  · intro h
    refine ⟨fun spec hget hside hran => ?_,quiet_without_handler hsink,rejection_iff⟩
    obtain ⟨spec',hcleared,hgate,_⟩ := handlerRan_iff.mp hran
    have he : spec'=spec := Except.ok.inj (hcleared.registered.symm.trans hget)
    subst he
    rw [invokeTool_passed hcleared hgate]
    exact (closed_iff_settled hsink hside).mpr (h _ hcleared hside hgate)

/-- A decision in favour of the desk's call. -/
def deskGrant : Table String Bool := [("ap-t-0123456789ab-issue_ticket",true)]

theorem desk_cleared :
    Cleared ticketDesk (deskContext deskGrant) "issue_ticket" [("pnr_id",.str "PNR-1")]
      issueTicket := ⟨⟨rfl,rfl⟩,rfl⟩

/-- A ticketing call whose driver answers is recorded completely. -/
theorem auditComplete_iff_desk :
    AuditComplete ticketDesk
        ⟨"01900000-0000-7000-8000-0000000000aa",0,1,fun _ => none,
          fun _ => .returned (.dict [("issued",.bool true)])⟩
        (deskContext deskGrant) "issue_ticket" [("pnr_id",.str "PNR-1")] :=
  (auditComplete_iff _ _ _ _ _ fun _ => rfl).mpr fun spec hcleared _ _ => by
    rw [hcleared.toReached.unique desk_cleared.toReached]
    exact ⟨rfl,fun h => absurd h (by decide)⟩

/-- The same call cancelled while the driver works: the event stays open. -/
theorem cancelled_call_left_open :
    ¬AuditComplete ticketDesk
      ⟨"01900000-0000-7000-8000-0000000000aa",0,1,fun _ => none,fun _ => .cancelled⟩
      (deskContext deskGrant) "issue_ticket" [("pnr_id",.str "PNR-1")] := by
  intro h
  have hgate : approvalGate issueTicket (deskContext deskGrant) "issue_ticket"=.passed := rfl
  have hclosed := h.closed issueTicket rfl rfl
    (handlerRan_iff.mpr ⟨issueTicket,desk_cleared,hgate,fun _ => rfl⟩)
  rw [invokeTool_passed desk_cleared hgate,closed_iff_settled (fun _ => rfl) rfl] at hclosed
  exact absurd hclosed.1 (by decide)

end Voyagent.AuditTrail
