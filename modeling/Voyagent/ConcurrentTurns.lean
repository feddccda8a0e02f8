import Voyagent.TurnTraces
import Voyagent.TransitionRuns

/-!
# Turns of one session at the same time

The in-memory store hands one session to every request, so turns share its
history. A turn copies the history, lets its loop append to the copy, and
later writes back what lies beyond the present length of the history; it does
so once for the orchestrator and once more for a domain agent. Entries carry
the turn they come from, which the code does not see.
-/

namespace Voyagent.ConcurrentTurns

open RuntimeValues AgentEvents SessionTranscript ToolInvocation GeneratorTraces AgentLoop Sessions OrchestratorTurn TurnTermination TransitionRuns

/-- A message with the turn that wrote it, if one of these turns did. -/
structure Entry where
  turn : Option Nat
  message : Message
  deriving DecidableEq

/-- Where a turn stands. -/
inductive Stage where
  | waiting
  /-- The orchestrator's loop runs on its copy. -/
  | routing
  /-- A domain agent's loop runs on a newer copy, behind its seed. -/
  | delegated
  | finished
  deriving DecidableEq

/-- One turn's own variables. -/
structure TurnCopy where
  stage : Stage := .waiting
  /-- `working`, or the domain agent's `working_messages`. -/
  working : List Entry := []
  /-- Length of the history when it was copied. -/
  copied : Nat := 0

/-- The session and the turns on it. -/
structure Shared where
  history : List Entry
  turns : Nat → TurnCopy

/-- What one turn does between two points where others can run. -/
inductive Act where
  /-- Append the user's message and copy the history. -/
  | enter (i : Nat) (user : Message)
  /-- The loop appends a message to its copy. -/
  | record (i : Nat) (m : Message)
  /-- Write the orchestrator's part back; at a handoff, copy again behind a seed. -/
  | sync (i : Nat) (seed : Option Message)
  /-- Write the domain agent's part back. -/
  | splice (i : Nat)
  /-- Leave a loop without writing back: a cancellation, or a domain agent
  that raised or asks for approval. -/
  | abandon (i : Nat)

/-- Entries at the start of the working copy that are not the loop's own. -/
def TurnCopy.base (t : TurnCopy) : Nat :=
  if t.stage=.delegated then t.copied+1 else t.copied

/-- A loop of the turn is running. -/
def TurnCopy.Active (t : TurnCopy) : Prop := t.stage=.routing ∨ t.stage=.delegated

instance (t : TurnCopy) : Decidable t.Active := by
  unfold TurnCopy.Active
  infer_instance

/-- What the loop appended to its copy. -/
def TurnCopy.pending (t : TurnCopy) : List Entry := t.working.drop t.base

/-- A session before any of its turns. -/
def start (history : List Message) : Shared := ⟨history.map (⟨none,·⟩),fun _ => {}⟩

/-- Write the history and one turn's variables. -/
def Shared.set (s : Shared) (history : List Entry) (i : Nat) (t : TurnCopy) : Shared :=
  ⟨history,fun j => if j=i then t else s.turns j⟩

/-- One act, when the turn stands where it can be made. -/
def step (s : Shared) : Act → Option Shared
  | .enter i user =>
    let history := s.history++[⟨some i,user⟩]
    if (s.turns i).stage=.waiting then
      some (s.set history i ⟨.routing,history,history.length⟩)
    else none
  | .record i m =>
    if (s.turns i).Active then
      some (s.set s.history i
        {s.turns i with working := (s.turns i).working++[⟨some i,m⟩]})
    else none
  | .sync i seed =>
    let history := syncHistory s.history (s.turns i).working
    if (s.turns i).stage=.routing then
      match seed with
      | none => some (s.set history i {stage := .finished})
      | some seed =>
        some (s.set history i ⟨.delegated,history++[⟨some i,seed⟩],history.length⟩)
    else none
  | .splice i =>
    if (s.turns i).stage=.delegated then
      some (s.set (spliceDomain s.history (s.turns i).working) i {stage := .finished})
    else none
  | .abandon i =>
    if (s.turns i).Active then
      some (s.set s.history i {stage := .finished})
    else none

/-- The step relation of interleaved turns. -/
def Step : Shared → Act → Shared → Prop := ofPartial step

theorem step_deterministic : Deterministic Step := deterministic_ofPartial step

/-! ## What a turn hands to the history -/

/-- What a schedule makes a turn hand over: its user message, and what its
loops recorded up to each write-back. -/
structure Output where
  handed : List Message := []
  /-- Recorded since the history was last copied. -/
  pending : List Message := []

def Output.next (i : Nat) (o : Output) : Act → Output
  | .enter j user => if j=i then ⟨o.handed++[user],[]⟩ else o
  | .record j m => if j=i then {o with pending := o.pending++[m]} else o
  | .sync j _ => if j=i then ⟨o.handed++o.pending,[]⟩ else o
  | .splice j => if j=i then ⟨o.handed++o.pending,[]⟩ else o
  | .abandon j => if j=i then {o with pending := []} else o

/-- The output of a turn under a schedule. -/
def output (i : Nat) (as : List Act) : Output := as.foldl (Output.next i) {}

/-- The messages a turn hands to the history, in its order. -/
def handedBy (i : Nat) (as : List Act) : List Message := (output i as).handed

/-- The messages of one turn in a history. -/
def ofTurn (i : Nat) (history : List Entry) : List Message :=
  (history.filter fun e => decide (e.turn=some i)).map Entry.message

/-- At its write-backs the turn finds the history as long as it copied it,
or has nothing to write. -/
def Undisturbed (i : Nat) (s : Shared) (a : Act) : Prop :=
  (∃ seed,a=.sync i seed) ∨ a=.splice i →
    s.history.length=(s.turns i).copied ∨ (s.turns i).pending=[]

variable {s t : Shared} {a : Act} {as : List Act} {i j : Nat}

/-- The turn that acts. -/
def Act.turn : Act → Nat
  | .enter i _ => i
  | .record i _ => i
  | .sync i _ => i
  | .splice i => i
  | .abandon i => i

@[simp] theorem ofTurn_append (i : Nat) (h h' : List Entry) :
    ofTurn i (h++h')=ofTurn i h++ofTurn i h' := by
  simp [ofTurn]

@[simp] theorem ofTurn_own (i : Nat) (ms : List Message) : ofTurn i (ms.map (⟨some i,·⟩))=ms := by
  induction ms with
  | nil => rfl
  | cons m ms ih => simpa [ofTurn] using ih

variable {h : List Entry}

theorem ofTurn_other (hne : i≠j) (hall : ∀ e∈h,e.turn=some j) : ofTurn i h=[] := by
  simp only [ofTurn,List.map_eq_nil_iff,List.filter_eq_nil_iff,decide_eq_true_eq]
  intro e hm he
  exact hne (Option.some.inj (he.symm.trans (hall e hm)))

@[simp] theorem set_history (s : Shared) (h : List Entry) (i : Nat) (c : TurnCopy) :
    (s.set h i c).history=h := rfl

@[simp] theorem set_turns_self (s : Shared) (h : List Entry) (i : Nat) (c : TurnCopy) :
    (s.set h i c).turns i=c := by
  simp [Shared.set]

theorem set_turns_other (s : Shared) (h : List Entry) (c : TurnCopy) (hne : j≠i) :
    (s.set h i c).turns j=s.turns j := by
  simp [Shared.set,hne]

theorem output_append (i : Nat) (as : List Act) (a : Act) :
    output i (as++[a])=(output i as).next i a := by
  simp [output,List.foldl_append]

/-- An act leaves the output of the other turns alone. -/
theorem next_other (o : Output) (h : i≠a.turn) : o.next i a=o := by
  cases a <;> exact if_neg (Ne.symm h)

/-- What is known of one turn in every state reached. -/
structure Kept (i : Nat) (as : List Act) (s : Shared) : Prop where
  waiting : (s.turns i).stage=.waiting →
    output i as={} ∧ ofTurn i s.history=[] ∧ ∀ u,.enter i u∉as
  pending : (s.turns i).pending=(output i as).pending.map (⟨some i,·⟩)
  base : (s.turns i).base≤(s.turns i).working.length
  copied : (s.turns i).copied ≤ s.history.length
  kept : (ofTurn i s.history).Sublist (handedBy i as)
  begun : ∀ u,.enter i u∈as → ∃ written handed,ofTurn i s.history=u::written ∧
    handedBy i as=u::handed

theorem kept_start (history : List Message) (i : Nat) : Kept i [] (start history) := by
  have hnone : ofTurn i (start history).history=[] := by
    simp only [ofTurn,start,List.map_eq_nil_iff,List.filter_eq_nil_iff,decide_eq_true_eq]
    intro e hm he
    obtain ⟨m,_,rfl⟩ := List.mem_map.mp hm
    cases he
  refine ⟨fun _ => ⟨rfl,hnone,fun _ => List.not_mem_nil⟩,rfl,Nat.le_refl 0,Nat.zero_le _,?_,
    fun _ hm => absurd hm List.not_mem_nil⟩
  rw [hnone]
  exact List.nil_sublist _

/-- The write-back of the orchestrator's part drops what others have written
since the copy. -/
theorem sync_writes (hstage : (s.turns i).stage=.routing)
    (hcopied : (s.turns i).copied ≤ s.history.length) :
    syncHistory s.history (s.turns i).working=
      s.history++(s.turns i).pending.drop (s.history.length-(s.turns i).copied) := by
  have hbase : (s.turns i).base=(s.turns i).copied := by
    rw [TurnCopy.base,hstage,if_neg (by decide)]
  rw [syncHistory,TurnCopy.pending,hbase,List.drop_drop]
  congr 2
  omega

/-- So does the write-back of a domain agent's part. -/
theorem splice_writes (hstage : (s.turns i).stage=.delegated)
    (hcopied : (s.turns i).copied ≤ s.history.length) :
    spliceDomain s.history (s.turns i).working=
      s.history++(s.turns i).pending.drop (s.history.length-(s.turns i).copied) := by
  have hbase : (s.turns i).base=(s.turns i).copied+1 := by
    rw [TurnCopy.base,hstage,if_pos rfl]
  rw [spliceDomain,TurnCopy.pending,hbase,List.drop_drop]
  congr 2
  omega

/-- What an act appends to the history. -/
def Act.writes (s : Shared) : Act → List Entry
  | .enter i user => [⟨some i,user⟩]
  | .sync i _ => (s.turns i).pending.drop (s.history.length-(s.turns i).copied)
  | .splice i => (s.turns i).pending.drop (s.history.length-(s.turns i).copied)
  | _ => []

/-- The stage an act needs its turn at, and the variables it leaves it with. -/
def Act.Moves (s t : Shared) : Act → Prop
  | .enter i user => (s.turns i).stage=.waiting ∧
      t.turns i=⟨.routing,s.history++[⟨some i,user⟩],s.history.length+1⟩
  | .record i m => (s.turns i).Active ∧
      t.turns i={s.turns i with working := (s.turns i).working++[⟨some i,m⟩]}
  | .sync i none => (s.turns i).stage=.routing ∧ t.turns i={stage := .finished}
  | .sync i (some seed) => (s.turns i).stage=.routing ∧
      t.turns i=⟨.delegated,t.history++[⟨some i,seed⟩],t.history.length⟩
  | .splice i => (s.turns i).stage=.delegated ∧ t.turns i={stage := .finished}
  | .abandon i => (s.turns i).Active ∧
      t.turns i={stage := .finished}

/-- All an act can do: it moves its own turn and appends to the history. -/
theorem step_cases (hk : Kept a.turn as s) (h : Step s a t) :
    t.history=s.history++a.writes s ∧ (∀ j,j≠a.turn → t.turns j=s.turns j) ∧ a.Moves s t := by
  unfold Step ofPartial step at h
  cases a with
  | enter i user =>
    dsimp only at h
    split at h
    · rename_i hstage
      cases h
      exact ⟨rfl,fun j hj => set_turns_other _ _ _ hj,hstage,by simp⟩
    · cases h
  | record i m | abandon i =>
    dsimp only at h
    split at h
    · rename_i hstage
      cases h
      exact ⟨by simp [Act.writes],fun j hj => set_turns_other _ _ _ hj,hstage,set_turns_self _ _ _ _⟩
    · cases h
  | sync i seed =>
    dsimp only at h
    split at h
    · rename_i hstage
      have hwrites := sync_writes hstage hk.copied
      cases seed with
      | none | some seed =>
        cases h
        exact ⟨hwrites,fun j hj => set_turns_other _ _ _ hj,hstage,set_turns_self _ _ _ _⟩
    · cases h
  | splice i =>
    dsimp only at h
    split at h
    · rename_i hstage
      cases h
      exact ⟨splice_writes hstage hk.copied,fun j hj => set_turns_other _ _ _ hj,hstage,
        set_turns_self _ _ _ _⟩
    · cases h

/-- Everything an act writes is its turn's own. -/
theorem writes_own (hk : Kept a.turn as s) : ∀ e∈a.writes s,e.turn=some a.turn := by
  have hpending : ∀ n,∀ e∈(s.turns a.turn).pending.drop n,e.turn=some a.turn := by
    intro n e hm
    have hm' := List.mem_of_mem_drop hm
    rw [hk.pending] at hm'
    obtain ⟨m,_,rfl⟩ := List.mem_map.mp hm'
    rfl
  cases a with
  | enter i user =>
    intro e hm
    rw [List.mem_singleton.mp hm]
    rfl
  | sync i seed => exact hpending _
  | splice i => exact hpending _
  | record i m | abandon i => exact fun _ hm => absurd hm List.not_mem_nil

/-- A list cut at the front is whole when nothing was cut or nothing was there. -/
theorem drop_eq_self {α : Type} (l : List α) (n : Nat) : l.drop n=l ↔ n=0 ∨ l=[] := by
  constructor
  · intro h
    have hlen := congrArg List.length h
    rw [List.length_drop] at hlen
    rcases Nat.eq_zero_or_pos n with hn|hn
    · exact .inl hn
    · exact .inr (List.length_eq_zero_iff.mp (by omega))
  · rintro (rfl|rfl) <;> simp

/-- What one act adds to a turn's messages, and to what the turn hands over:
the same exactly when the act does not disturb it. -/
theorem step_effect (hk : ∀ i,Kept i as s) (h : Step s a t) (i : Nat) :
    ∃ w p,ofTurn i t.history=ofTurn i s.history++w ∧ handedBy i (as++[a])=handedBy i as++p ∧
      w.Sublist p ∧ (w=p ↔ Undisturbed i s a) := by
  obtain ⟨hhist,_,_⟩ := step_cases (hk _) h
  by_cases hi : i=a.turn
  swap
  · refine ⟨[],[],?_,?_,List.Sublist.refl _,?_⟩
    · rw [hhist,ofTurn_append,ofTurn_other hi (writes_own (hk _))]
    · rw [handedBy,output_append,next_other _ hi,List.append_nil]
      rfl
    · refine ⟨fun _ ha => ?_,fun _ => rfl⟩
      rcases ha with ⟨seed,rfl⟩|rfl <;> exact absurd rfl hi
  · subst hi
    -- A write-back adds the pending messages, cut by what others wrote.
    have hback : a.writes s=(s.turns a.turn).pending.drop
          (s.history.length-(s.turns a.turn).copied) →
        handedBy a.turn (as++[a])=handedBy a.turn as++(output a.turn as).pending →
        ((∃ seed,a=.sync a.turn seed) ∨ a=.splice a.turn) →
        ∃ w p,ofTurn a.turn t.history=ofTurn a.turn s.history++w ∧
          handedBy a.turn (as++[a])=handedBy a.turn as++p ∧ w.Sublist p ∧
          (w=p ↔ Undisturbed a.turn s a) := by
      intro hw hh hact
      have hcopied := (hk a.turn).copied
      refine ⟨(output a.turn as).pending.drop (s.history.length-(s.turns a.turn).copied),_,?_,hh,
        List.drop_sublist _ _,?_⟩
      · rw [hhist,hw,(hk a.turn).pending,ofTurn_append,← List.map_drop,ofTurn_own]
      · rw [drop_eq_self]
        constructor
        · rintro (hz|hp) _
          · exact .inl (by omega)
          · exact .inr (by rw [(hk a.turn).pending,hp,List.map_nil])
        · intro hu
          rcases hu hact with hz|hp
          · exact .inl (by omega)
          · rw [(hk a.turn).pending,List.map_eq_nil_iff] at hp
            exact .inr hp
    have hquiet : a.writes s=[] → handedBy a.turn (as++[a])=handedBy a.turn as →
        ¬((∃ seed,a=.sync a.turn seed) ∨ a=.splice a.turn) →
        ∃ w p,ofTurn a.turn t.history=ofTurn a.turn s.history++w ∧
          handedBy a.turn (as++[a])=handedBy a.turn as++p ∧ w.Sublist p ∧
          (w=p ↔ Undisturbed a.turn s a) := fun hw hh hact =>
      ⟨[],[],by rw [hhist,hw,ofTurn_append]; rfl,by rw [hh,List.append_nil],List.Sublist.refl _,
        fun _ ha => absurd ha hact,fun _ => rfl⟩
    cases a with
    | enter i user =>
      refine ⟨[user],[user],?_,?_,List.Sublist.refl _,?_⟩
      · rw [hhist,ofTurn_append]
        congr 1
        exact ofTurn_own i [user]
      · simp [handedBy,output_append,Output.next,Act.turn]
      · refine ⟨fun _ ha => ?_,fun _ => rfl⟩
        rcases ha with ⟨seed,he⟩|he <;> cases he
    | sync i seed =>
      exact hback rfl (by simp [handedBy,output_append,Output.next,Act.turn]) (.inl ⟨seed,rfl⟩)
    | splice i =>
      exact hback rfl (by simp [handedBy,output_append,Output.next,Act.turn]) (.inr rfl)
    | record i m | abandon i =>
      refine hquiet rfl (by simp [handedBy,output_append,Output.next,Act.turn]) ?_
      rintro (⟨seed,he⟩|he) <;> cases he

/-- The copy an act leaves its turn with holds what the turn's output still
has pending. -/
theorem step_copy (hk : Kept i as s) (h : Step s a t) (hi : a.turn=i) :
    (t.turns i).stage≠.waiting ∧
      (t.turns i).pending=(output i (as++[a])).pending.map (⟨some i,·⟩) ∧
      (t.turns i).base≤(t.turns i).working.length ∧ (t.turns i).copied≤t.history.length := by
  obtain ⟨hhist,_,hact⟩ := step_cases (hi ▸ hk) h
  rw [output_append]
  cases a with
  | enter j user =>
    obtain rfl : j=i := hi
    rw [hact.2,hhist]
    refine ⟨nofun,?_,?_,?_⟩
    · simp [TurnCopy.pending,TurnCopy.base,Output.next]
    · simp [TurnCopy.base]
    · simp [Act.writes]
  | record j m =>
    obtain rfl : j=i := hi
    obtain ⟨hstage,ht⟩ := hact
    have hbase : (t.turns j).base=(s.turns j).base := by rw [ht]; rfl
    have hpending : (t.turns j).pending=(s.turns j).pending++[⟨some j,m⟩] := by
      rw [TurnCopy.pending,hbase,ht,TurnCopy.pending]
      exact List.drop_append_of_le_length hk.base
    have hlen : (t.turns j).working.length=(s.turns j).working.length+1 := by rw [ht]; simp
    refine ⟨?_,?_,?_,?_⟩
    · rw [ht]
      rcases hstage with hs|hs <;> rw [hs] <;> exact nofun
    · rw [hpending,hk.pending]
      simp [Output.next]
    · rw [hbase,hlen]
      exact Nat.le_succ_of_le hk.base
    · rw [ht,hhist,List.length_append]
      exact Nat.le_add_right_of_le hk.copied
  | sync j seed =>
    obtain rfl : j=i := hi
    cases seed with
    | none | some seed =>
      rw [hact.2]
      simp [TurnCopy.pending,TurnCopy.base,Output.next]
  | splice j | abandon j =>
    obtain rfl : j=i := hi
    rw [hact.2]
    simp [TurnCopy.pending,TurnCopy.base,Output.next]

/-- A user message opens its turn's messages, and stays in front of them. -/
theorem step_begun (hk : ∀ i,Kept i as s) (h : Step s a t) (i : Nat) (u : Message)
    (hu : .enter i u∈as++[a]) :
    ∃ written handed,ofTurn i t.history=u::written ∧ handedBy i (as++[a])=u::handed := by
  obtain ⟨w,p,hw,hp,hsub,heff⟩ := step_effect hk h i
  rcases List.mem_append.mp hu with hu|hu
  · obtain ⟨written,handed,hwritten,hhanded⟩ := (hk i).begun u hu
    exact ⟨written++w,handed++p,by rw [hw,hwritten]; rfl,by rw [hp,hhanded]; rfl⟩
  · have ha : a=.enter i u := (List.mem_singleton.mp hu).symm
    subst ha
    obtain ⟨hhist,_,hstage,_⟩ := step_cases (hk _) h
    obtain ⟨hout,hnone,_⟩ := (hk i).waiting hstage
    refine ⟨[],[],?_,?_⟩
    · rw [hhist,ofTurn_append,hnone]
      exact ofTurn_own i [u]
    · rw [handedBy,output_append,hout]
      simp [Output.next]

/-- One act keeps what is known of every turn. -/
theorem Kept.step (hk : ∀ i,Kept i as s) (h : Step s a t) (i : Nat) : Kept i (as++[a]) t := by
  obtain ⟨hhist,hother,_⟩ := step_cases (hk _) h
  have hsub : (ofTurn i t.history).Sublist (handedBy i (as++[a])) := by
    obtain ⟨w,p,hw,hp,hsub,_⟩ := step_effect hk h i
    rw [hw,hp]
    exact (hk i).kept.append hsub
  by_cases hi : i=a.turn
  · subst hi
    obtain ⟨hstage,hpending,hbase,hcopied⟩ := step_copy (hk _) h rfl
    exact ⟨fun hw => absurd hw hstage,hpending,hbase,hcopied,hsub,step_begun hk h _⟩
  · have hout : output i (as++[a])=output i as := by rw [output_append,next_other _ hi]
    have hof : ofTurn i t.history=ofTurn i s.history := by
      rw [hhist,ofTurn_append,ofTurn_other hi (writes_own (hk _)),List.append_nil]
    refine ⟨fun hw => ?_,?_,?_,?_,hsub,step_begun hk h _⟩
    · rw [hother i hi] at hw
      obtain ⟨ho,hn,hno⟩ := (hk i).waiting hw
      refine ⟨by rw [hout,ho],by rw [hof,hn],fun u hm => ?_⟩
      rcases List.mem_append.mp hm with hm|hm
      · exact hno u hm
      · rw [← List.mem_singleton.mp hm] at hi
        exact hi rfl
    · rw [hother i hi,hout,(hk i).pending]
    · rw [hother i hi]
      exact (hk i).base
    · rw [hother i hi,hhist,List.length_append]
      exact Nat.le_add_right_of_le (hk i).copied

variable {history : List Message}

theorem kept_of_run (hrun : Run Step (start history) as s) (i : Nat) : Kept i as s := by
  induction hrun generalizing i with
  | start => exact kept_start history i
  | next _ hs ih => exact Kept.step ih hs i

/-- The history only grows. -/
theorem history_grows (hrun : Run Step (start history) as s) :
    ∃ es,s.history=history.map (⟨none,·⟩)++es := by
  induction hrun with
  | start => exact ⟨[],by simp [start]⟩
  | next hrun hs ih =>
    obtain ⟨es,hes⟩ := ih
    obtain ⟨hhist,_⟩ := step_cases (kept_of_run hrun _) hs
    exact ⟨_,by rw [hhist,hes,List.append_assoc]⟩

/-- A turn's messages are whole exactly when nothing disturbed it. -/
theorem whole_iff (hrun : Run Step (start history) as s) (i : Nat) :
    ofTurn i s.history=handedBy i as ↔ Run (guarded Step (Undisturbed i)) (start history) as s := by
  induction hrun with
  | start =>
    obtain ⟨hout,hnone,_⟩ := (kept_start history i).waiting rfl
    refine iff_of_true ?_ .start
    rw [hnone,handedBy,hout]
  | @next as s t a hrun hs ih =>
    have hk := kept_of_run hrun
    obtain ⟨w,p,hw,hp,hsub,heff⟩ := step_effect hk hs i
    rw [hw,hp,hrun.guarded_next_iff step_deterministic hs,← ih,← heff]
    constructor
    · intro h
      -- Both parts are sublists, so equal lengths leave no room in either.
      have hlen := congrArg List.length h
      rw [List.length_append,List.length_append] at hlen
      have hkept := (hk i).kept
      have hleft : ofTurn i s.history=handedBy i as :=
        hkept.eq_of_length (by have := hkept.length_le; have := hsub.length_le; omega)
      rw [hleft] at h
      exact ⟨hleft,List.append_cancel_left h⟩
    · rintro ⟨hleft,hright⟩
      rw [hleft,hright]

/-! ## One active turn at a time -/

/-- A turn starts only when no other is running. -/
def OneAtATime (s : Shared) (a : Act) : Prop := ∀ i u,a=.enter i u → ∀ j,¬(s.turns j).Active

/-- Then the history of a running turn is as long as it was copied. -/
theorem serial_copied (hrun : Run (guarded Step OneAtATime) (start history) as s) (i : Nat)
    (hi : (s.turns i).Active) :
    s.history.length=(s.turns i).copied ∧ ∀ j,(s.turns j).Active → j=i := by
  induction hrun generalizing i with
  | start => rcases hi with hi|hi <;> cases hi
  | @next as s t a hrun hs ih =>
    obtain ⟨hhist,hother,hact⟩ := step_cases (kept_of_run hrun.unguard _) hs.1
    -- Only one turn is running after the step: the one that acted, if any.
    have hrest : ∀ j,j≠a.turn → (t.turns j).Active → (s.turns j).Active := fun j hj h => by
      rwa [hother j hj] at h
    have hquiet : (s.turns a.turn).Active → ∀ j,(t.turns j).Active → j=a.turn := fun ha j hj => by
      by_contra hne
      exact hne ((ih a.turn ha).2 j (hrest j hne hj))
    cases a with
    | enter k user =>
      have hk : ∀ j,(t.turns j).Active → j=k := fun j hj => by
        by_contra hne
        exact hs.2 k user rfl j (hrest j hne hj)
      obtain rfl := hk i hi
      exact ⟨by rw [hact.2,hhist]; simp [Act.writes],hk⟩
    | record k m =>
      have hk := hquiet hact.1
      obtain rfl := hk i hi
      refine ⟨?_,hk⟩
      rw [hact.2,hhist]
      simpa [Act.writes] using (ih i hact.1).1
    | sync k seed =>
      have hk := hquiet (by cases seed <;> exact .inl hact.1)
      obtain rfl := hk i hi
      cases seed with
      | none =>
        rw [hact.2] at hi
        rcases hi with hi|hi <;> cases hi
      | some seed => exact ⟨by rw [hact.2],hk⟩
    | splice k =>
      have hk := hquiet (.inr hact.1)
      obtain rfl := hk i hi
      rw [hact.2] at hi
      rcases hi with hi|hi <;> cases hi
    | abandon k =>
      have hk := hquiet hact.1
      obtain rfl := hk i hi
      rw [hact.2] at hi
      rcases hi with hi|hi <;> cases hi

/-- Turns one after the other disturb nothing. -/
theorem serial_undisturbed (hrun : Run (guarded Step OneAtATime) (start history) as s) (i : Nat) :
    Run (guarded Step (Undisturbed i)) (start history) as s := by
  induction hrun with
  | start => exact .start
  | @next as s t a hrun hs ih =>
    obtain ⟨_,_,hact⟩ := step_cases (kept_of_run hrun.unguard _) hs.1
    refine ih.next ⟨hs.1,fun ha => .inl ?_⟩
    rcases ha with ⟨seed,rfl⟩|rfl
    · exact (serial_copied hrun i (by cases seed <;> exact .inl hact.1)).1
    · exact (serial_copied hrun i (.inr hact.1)).1

/-- Under every interleaving the history keeps what it held, and each turn's
user message and messages in the turn's order; a turn's messages are whole
exactly when nothing was written between its copies and its write-backs, as
with one active turn at a time. -/
theorem turns_kept (history : List Message) (as : List Act) (s : Shared)
    (hrun : Run Step (start history) as s) :
    (∃ es,s.history=history.map (⟨none,·⟩)++es) ∧ ∀ i,
      (ofTurn i s.history).Sublist (handedBy i as) ∧
      (∀ u,.enter i u∈as → ∃ written handed,ofTurn i s.history=u::written ∧
        handedBy i as=u::handed ∧ written.Sublist handed) ∧
      (ofTurn i s.history=handedBy i as ↔
        Run (guarded Step (Undisturbed i)) (start history) as s) ∧
      (Run (guarded Step OneAtATime) (start history) as s →
        ofTurn i s.history=handedBy i as) := by
  refine ⟨history_grows hrun,fun i => ⟨(kept_of_run hrun i).kept,fun u hu => ?_,whole_iff hrun i,
    fun hserial => (whole_iff hrun i).mpr (serial_undisturbed hserial i)⟩⟩
  obtain ⟨written,handed,hw,hh⟩ := (kept_of_run hrun i).begun u hu
  have hsub := (kept_of_run hrun i).kept
  rw [hw,hh] at hsub
  exact ⟨written,handed,hw,hh,List.cons_sublist_cons.mp hsub⟩

/-! ## A turn on its own is one schedule -/

variable {org : Orchestrator} {session : Session} {ctx : ToolContext}
variable {env : TurnEnv} {turnId userMessage : String}

/-- Some schedule of one turn reaches the history of the turn's state, and at
a running loop its transcript. -/
def Follows (history : List Message) (stage : Stage) (t : TurnState) : Prop :=
  ∃ as s,Run Step (start history) as s ∧ (s.turns 0).stage=stage ∧
    s.history.map Entry.message=t.history ∧
    ((s.turns 0).Active → (s.turns 0).working.map Entry.message=t.messages)

theorem step_enter (user : Message) (h : (s.turns i).stage=.waiting) :
    Step s (.enter i user) (s.set (s.history++[Entry.mk (some i) user]) i
      ⟨.routing,s.history++[Entry.mk (some i) user],
        (s.history++[Entry.mk (some i) user]).length⟩) := if_pos h

theorem step_sync (h : (s.turns i).stage=.routing) :
    Step s (.sync i none) (s.set (syncHistory s.history (s.turns i).working) i
      {stage := .finished}) := if_pos h

theorem step_handoff (seed : Message) (h : (s.turns i).stage=.routing) :
    Step s (.sync i (some seed)) (s.set (syncHistory s.history (s.turns i).working) i
      ⟨.delegated,syncHistory s.history (s.turns i).working++[Entry.mk (some i) seed],
        (syncHistory s.history (s.turns i).working).length⟩) := if_pos h

theorem step_splice (h : (s.turns i).stage=.delegated) :
    Step s (.splice i) (s.set (spliceDomain s.history (s.turns i).working) i
      {stage := .finished}) := if_pos h

theorem step_abandon (h : (s.turns i).Active) :
    Step s (.abandon i) (s.set s.history i {stage := .finished}) := if_pos h

/-- A finished turn has no transcript to follow. -/
theorem Follows.of_finished {t : TurnState}
    (hrun : Run Step (start history) as (s.set h 0 {stage := .finished}))
    (hh : h.map Entry.message=t.history) : Follows history .finished t := by
  refine ⟨as,_,hrun,by rw [set_turns_self],hh,fun ha => ?_⟩
  rw [set_turns_self] at ha
  rcases ha with ha|ha <;> cases ha

theorem Follows.enter {t : TurnState} (h : Follows history .waiting t) (userMessage : String) :
    Follows history .routing (TurnState.beginTurn t userMessage) := by
  obtain ⟨as,s,hrun,hs,hh,_⟩ := h
  have hgrown : (s.history++[Entry.mk (some 0) (userTurn userMessage)]).map Entry.message=
      t.history++[userTurn userMessage] := by simp [hh]
  exact ⟨_,_,hrun.next (step_enter _ hs),by rw [set_turns_self],hgrown,
    fun _ => by rw [set_turns_self]; exact hgrown⟩

variable {stage : Stage}

/-- Leaving a loop writes nothing. -/
theorem Follows.abandon {t : TurnState} (hstage : stage=.routing ∨ stage=.delegated)
    (h : Follows history stage t) : Follows history .finished t := by
  obtain ⟨as,s,hrun,hs,hh,_⟩ := h
  have hactive : (s.turns 0).Active := by rw [TurnCopy.Active,hs]; exact hstage
  exact Follows.of_finished (hrun.next (step_abandon hactive)) hh

/-- The orchestrator's part is written back; whether a handoff follows is open. -/
def Synced (history : List Message) (t : TurnState) : Prop :=
  ∃ as s,Run Step (start history) as s ∧ (s.turns 0).stage=.routing ∧
    (syncHistory s.history (s.turns 0).working).map Entry.message=t.history

theorem Follows.sync {t : TurnState} (h : Follows history .routing t) :
    Synced history {t with history := syncHistory t.history t.messages} := by
  obtain ⟨as,s,hrun,hs,hh,hw⟩ := h
  refine ⟨as,s,hrun,hs,?_⟩
  rw [← hh,← hw (.inl hs),syncHistory,syncHistory,List.map_append,List.map_drop,List.length_map]

theorem Synced.finish {t : TurnState} (h : Synced history t) : Follows history .finished t := by
  obtain ⟨as,s,hrun,hs,hh⟩ := h
  exact Follows.of_finished (hrun.next (step_sync hs)) hh

theorem Synced.handoff {t : TurnState} (h : Synced history t) (seed : Message) :
    Follows history .delegated {t with messages := t.history++[seed]} := by
  obtain ⟨as,s,hrun,hs,hh⟩ := h
  refine ⟨_,_,hrun.next (step_handoff seed hs),by rw [set_turns_self],hh,fun _ => ?_⟩
  rw [set_turns_self,List.map_append,hh]
  rfl

theorem Follows.splice {t : TurnState} (h : Follows history .delegated t) :
    Follows history .finished {t with history := spliceDomain t.history t.messages} := by
  obtain ⟨as,s,hrun,hs,hh,hw⟩ := h
  refine Follows.of_finished (hrun.next (step_splice hs)) ?_
  rw [← hh,← hw (.inr hs),spliceDomain,spliceDomain,List.map_append,List.map_drop,List.length_map]

/-- A reply of one line. -/
def oneLine (text : String) : Message := ⟨.assistant,[.text text]⟩

/-- A turn, and another after it. -/
def oneAfterTheOther : List Act :=
  [.enter 0 (userTurn "Hi"),.record 0 (oneLine "Hello"),.sync 0 none,
    .enter 1 (userTurn "And?"),.record 1 (oneLine "Done"),.sync 1 none]

/-- A turn that starts while another waits for its model. -/
def overlapping : List Act :=
  [.enter 0 (userTurn "Hi"),.enter 1 (userTurn "And?"),.record 0 (oneLine "Hello"),.sync 0 none,
    .record 1 (oneLine "Done"),.sync 1 none]

/-- One turn after the other: the second leaves the first one's messages. -/
theorem turns_kept_one_after_the_other :
    ∃ s,Run Step (start []) oneAfterTheOther s ∧
      (ofTurn 0 s.history).Sublist [userTurn "Hi",oneLine "Hello"] :=
  ⟨_,run_of_foldlM rfl,((turns_kept _ oneAfterTheOther _ (run_of_foldlM rfl)).2 0).1⟩

/-- The first turn's reply is handed over and is not in the history. -/
theorem overlapped_reply_lost :
    ∃ s,Run Step (start []) overlapping s ∧ (s.turns 0).stage=.finished ∧
      (s.turns 1).stage=.finished ∧ handedBy 0 overlapping=[userTurn "Hi",oneLine "Hello"] ∧
      s.history=[⟨some 0,userTurn "Hi"⟩,⟨some 1,userTurn "And?"⟩,⟨some 1,oneLine "Done"⟩] ∧
      oneLine "Hello"∉s.history.map Entry.message :=
  ⟨_,run_of_foldlM rfl,rfl,rfl,rfl,rfl,by decide⟩

end Voyagent.ConcurrentTurns
