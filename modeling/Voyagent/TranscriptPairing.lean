import Voyagent.TurnTraces

/-!
# Pairing of tool calls and tool results across a turn

The orchestrator's loop and a domain agent's each add one separable list to
the history, clean exactly when the replies behind it are. A well-formed
history is therefore well formed after the turn exactly when every reply the
turn keeps is clean.
-/

namespace Voyagent.TranscriptPairing

open RuntimeValues KeyedMap AgentEvents SessionTranscript ToolInvocation GeneratorTraces AgentLoop
open Sessions OrchestratorTurn TurnTermination TurnTraces

variable {org : Orchestrator} {session : Session} {ctx : ToolContext} {env : TurnEnv}
variable {turnId userMessage : String} {before : List Message} {C D : Prop} {s t u : TurnState}

theorem Kept.unchanged (hc : C) (h : t.history=before) : Kept before C t :=
  ⟨[],by simpa using h,fresh_nil,separable_nil,by simp [hc]⟩

/-- What is kept later follows what was kept before. -/
theorem Kept.append (h : Kept before C t) (h' : Kept t.history D u) : Kept before (C ∧ D) u := by
  obtain ⟨new,hhistory,hfresh,hsep,hw⟩ := h
  obtain ⟨more,hhistory',hfresh',hsep',hw'⟩ := h'
  refine ⟨new++more,by rw [hhistory',hhistory,List.append_assoc],hfresh.append hfresh',
    hsep.append hsep' hfresh',?_⟩
  rw [hsep more hfresh',hw,hw']

/-- The copy-back after a loop that started with the history as its messages. -/
theorem kept_synced {o : Option Handoff} (hs : s.messages=s.history) (h : Recorded s [] o C t) :
    Kept s.history C (synced t) := by
  obtain ⟨new,hat,hfresh,hsep,hw⟩ := h
  refine ⟨new,?_,hfresh,hsep,hw⟩
  change syncHistory t.history t.messages=_
  rw [hat.history,hat.messages,hs,List.nil_append,syncHistory_append]

/-- A domain agent keeps a clean transcript, or nothing. -/
theorem kept_spliced (hid : stripWhitespace ctx.turnId≠"") (agent : DomainAgent) (goal : String) :
    Kept s.history ((loopFate (domainLoop org agent ctx session) (fun _ => false) env.domainCalls
        maxToolLoops 0).finished=true → LoopClean (domainLoop org agent ctx session)
          (fun _ => false) env.domainCalls maxToolLoops 0)
      (spliced (domainRun org agent ctx session goal userMessage env s)) := by
  generalize hbody : domainRun org agent ctx session goal userMessage env s=body
  have hends := recorded_of_agentLoop (domainLoop org agent ctx session) hid (domain_shows agent)
    (domain_keeps agent) env.domainCalls maxToolLoops 0 hbody.symm
  unfold spliced
  cases hexit : body.exit with
  | error k =>
    rw [hexit] at hends
    obtain ⟨hfate,_,hat,-⟩ := hends
    refine Kept.unchanged (fun hfinished => ?_) hat.history
    rw [hfate] at hfinished
    rcases k with _|_|_ <;> cases hfinished
  | ok a =>
    rw [hexit] at hends
    obtain ⟨hfate,new,hat,hfresh,hsep,hw⟩ := hends
    have hfinished : (loopFate (domainLoop org agent ctx session) (fun _ => false) env.domainCalls
        maxToolLoops 0).finished=true := by
      rcases hfate with hf|⟨name,input,hf⟩ <;> rw [hf] <;> rfl
    refine ⟨new,?_,hfresh,hsep,hw.trans ⟨fun hc _ => hc,fun hc => hc hfinished⟩⟩
    dsimp only
    rw [hat.history,hat.messages,List.nil_append]
    exact spliceDomain_append _ _ _

/-- Only a handoff that reaches an agent adds to the history. -/
theorem handoffKept_iff {target : Handoff} : HandoffKept org ctx session env target ↔
    ∀ agent,handoffAgent env target=some agent →
      (loopFate (domainLoop org agent ctx session) (fun _ => false) env.domainCalls maxToolLoops
        0).finished=true →
      LoopClean (domainLoop org agent ctx session) (fun _ => false) env.domainCalls maxToolLoops 0 := by
  unfold HandoffKept handoffAgent
  cases env.resolve target.domain with
  | error e => exact iff_of_true (fun _ h => by cases h) fun _ h => by cases h
  | ok found =>
    by_cases hgoal : stripWhitespace target.goal=""
    · exact iff_of_true (fun _ _ hne => absurd hgoal hne) fun _ h => by simp [hgoal] at h
    · simp [hgoal]

/-- The phases of a turn keep clean replies exactly. -/
theorem turnPhases_kept (hturn : ctx.turnId=newTurnId env.seed) (s : TurnState) :
    Kept (s.history++[userTurn userMessage]) (PhasesKept org ctx session (newTurnId env.seed) env)
      (turnPhases org session userMessage ctx env s).state := by
  have hid := newTurnId_nonblank env.seed
  have hctx : stripWhitespace ctx.turnId≠"" := by rw [hturn]; exact hid
  have hrun : PhasesRun org session ctx (newTurnId env.seed) userMessage env _ _ := turnPhases_run s
  generalize hbody : orchestratorRun org ctx session (newTurnId env.seed) env
    (TurnState.beginTurn s userMessage)=body at hrun
  have hends := recorded_of_agentLoop (orchestratorLoop org ctx session (newTurnId env.seed)) hid
    (onToolUse_shows hid) (onToolUse_keeps hid) env.orchestratorCalls maxToolLoops 0 hbody.symm
  generalize turnPhases org session userMessage ctx env s=tr at hrun ⊢
  generalize hclean : LoopClean (orchestratorLoop org ctx session (newTurnId env.seed))
    orchestratorOverrides env.orchestratorCalls maxToolLoops 0=C at hends
  -- Unless it was cancelled, the loop's list comes first and the domain agent's behind it.
  have hjoin : body.exit≠.error (some .cancelled) → ∀ {u},
      Kept (synced body.state).history (∀ target,
        handoffTarget org ctx session (newTurnId env.seed) env=some target →
          HandoffKept org ctx session env target) u →
      Kept (s.history++[userTurn userMessage])
        (PhasesKept org ctx session (newTurnId env.seed) env) u := by
    intro hexit u hrest
    have hboth : orchestratorFate org ctx session (newTurnId env.seed) env≠.cancelled ∧
        ∃ o,Recorded (TurnState.beginTurn s userMessage) [] o C body.state := by
      cases hended : body.exit with
      | ok a =>
        rw [hended] at hends
        refine ⟨fun hcancelled => ?_,_,hends.2⟩
        unfold orchestratorFate at hcancelled
        rcases hends.1 with hf|⟨name,input,hf⟩ <;> cases hf.symm.trans hcancelled
      | error k =>
        rw [hended] at hends hexit
        refine ⟨fun hcancelled => ?_,_,hends.2⟩
        have hstop : stopFate k=.cancelled := hends.1.symm.trans hcancelled
        rcases k with _|_|_
        · cases hstop
        · cases hstop
        · exact hexit rfl
    obtain ⟨hnot,o,hrecorded⟩ := hboth
    have hphases : PhasesKept org ctx session (newTurnId env.seed) env ↔ C ∧ ∀ target,
        handoffTarget org ctx session (newTurnId env.seed) env=some target →
          HandoffKept org ctx session env target := by
      rw [← hclean]
      unfold PhasesKept handoffTarget
      cases hf : orchestratorFate org ctx session (newTurnId env.seed) env with
      | cancelled => exact absurd hf hnot
      | _ => exact Iff.rfl
    rw [hphases]
    exact (kept_synced rfl hrecorded).append hrest
  cases hrun with
  | cancelled hexit =>
    rw [hexit] at hends
    obtain ⟨hfate,_,hat,-⟩ := hends
    have hcancelled : orchestratorFate org ctx session (newTurnId env.seed) env=.cancelled := hfate
    exact Kept.unchanged (by rw [PhasesKept,hcancelled]; trivial) hat.history
  | alone evs x hexit hlength hkinds htarget =>
    exact hjoin hexit (Kept.unchanged (fun _ h => by cases htarget.symm.trans h) rfl)
  | lost evs report x target hexit hlength hkinds hreport htarget hagent =>
    refine hjoin hexit (Kept.unchanged (fun target' h => handoffKept_iff.mpr fun agent ha => ?_) rfl)
    cases htarget.symm.trans h
    cases hagent.symm.trans ha
  | handed evs reports x target agent domain hexit hlength hkinds htarget hagent hdomain =>
    have hkept : (∀ target,handoffTarget org ctx session (newTurnId env.seed) env=some target →
        HandoffKept org ctx session env target) ↔ _ :=
      ⟨fun h => handoffKept_iff.mp (h target htarget) agent hagent,fun h target' ht =>
        handoffKept_iff.mpr fun agent' ha => by
          cases htarget.symm.trans ht
          cases hagent.symm.trans ha
          exact h⟩
    rw [hdomain] at *
    refine hjoin hexit ?_
    rw [hkept]
    exact kept_spliced hctx agent _

/-- A well-formed history is well formed after a turn exactly when every
reply the turn keeps is clean. -/
theorem history_wellFormed_iff (org : Orchestrator) (session : Session) (userMessage : String)
    (approvals : Option (Table String Bool)) (actorRole : String) (env : TurnEnv)
    (hwf : WellFormed session.messageHistory) :
    WellFormed (runTurn org session userMessage approvals actorRole env).state.history ↔
      TranscriptKept org session approvals actorRole env := by
  by_cases hpassed : TurnRequests.GatesPassed env
  · have hkept : Kept _ _ (turnPhases org session userMessage
        (turnContext session (newTurnId env.seed) approvals actorRole) env
        {history := session.messageHistory}).state :=
      turnPhases_kept (turnContext_turnId session env.seed approvals actorRole) _
    obtain ⟨new,hhistory,-,-,hw⟩ := hkept
    have huser : WellFormed (userTurn userMessage::new) ↔ WellFormed new := by
      rw [wellFormed_cons (opens_user rfl)]
      simp [userTurn,Message.toolResultIds,Block.toolResultId?]
    rw [runTurn_state _ _ _ _ _ hpassed,hhistory,List.append_assoc,wellFormed_append hwf,
      List.singleton_append,huser,hw]
    exact ⟨fun h _ _ => h,fun h => h hpassed.1 hpassed.2⟩
  · have hstate : (runTurn org session userMessage approvals actorRole env).state.history=
        session.messageHistory :=
      TurnRequests.history_of_stopped org session userMessage approvals actorRole none hpassed
    rw [hstate]
    exact iff_of_true hwf fun hr hb => absurd ⟨hr,hb⟩ hpassed

/-- A model call that delivers one reply. -/
def repliesWith (m : FinalMessage) : ModelCall :=
  {attempts := fun _ => ⟨[.messageStop (some m)],none⟩
   tools := fun _ => {auditId := "",handler := fun _ => .returned .none}}

/-- A turn whose orchestrator makes the given calls in one reply, and whose
domain agent says one word. -/
def routedTurn (calls : List SdkBlock) : TurnEnv :=
  {seed := deskSeed
   orchestratorCalls := fun _ => repliesWith ⟨some "tool_use",calls⟩
   resolve := fun _ => .ok ticketingVisaAgent
   domainCalls := fun _ => repliesWith ⟨some "end_turn",[.text "Done"]⟩}

/-- A handoff to ticketing. -/
def ticketingHandoff (id : String) : SdkBlock :=
  .toolUse id "handoff" [("domain",.str "ticketing_visa"),("goal",.str "issue PNR-1")]

/-- A handoff on its own is answered, and so is every reply of that turn. -/
theorem history_wellFormed_iff_handoff :
    TranscriptKept deskOrchestrator deskSession none "agent"
      (routedTurn [ticketingHandoff "toolu_01"]) :=
  (history_wellFormed_iff _ _ "Issue PNR-1" _ _ _ (by decide)).mp (by decide)

/-- A second call beside the handoff is left without an answer. -/
theorem parallel_call_unanswered :
    WellFormed deskSession.messageHistory ∧
      ¬WellFormed (runTurn deskOrchestrator deskSession "Issue PNR-1" none "agent"
        (routedTurn [ticketingHandoff "toolu_01",ticketingHandoff "toolu_02"])).state.history := by
  decide

end Voyagent.TranscriptPairing
