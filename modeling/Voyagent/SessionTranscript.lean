import Voyagent.RuntimeValues

/-!
# Messages and well-formed transcripts

The transcript is the list of messages sent to the provider. It is well
formed when every assistant message with tool calls is followed at once by
one user message answering each of its call ids once, and no answer names
any other id. The ids left open by a prefix are computed, so the condition
splits over concatenation.
-/

namespace Voyagent.SessionTranscript

open RuntimeValues

/-- One content block of a message, in the shape sent to the provider. -/
inductive Block where
  | text (text : String)
  | toolUse (id name : String) (input : Dict)
  | toolResult (toolUseId content : String) (isError : Option Bool)
  /-- A block of a type the loop does not know, kept by its type only. -/
  | other (type : String)
  deriving DecidableEq

/-- The three roles the `Message` pattern accepts. -/
inductive Role where
  | user | assistant | system
  deriving DecidableEq

/-- One message of the transcript. -/
structure Message where
  role : Role
  content : List Block
  deriving DecidableEq

/-- The call id of a tool-use block. -/
def Block.toolUseId? : Block → Option String
  | .toolUse id _ _ => some id
  | _ => none

/-- The call id a tool-result block answers. -/
def Block.toolResultId? : Block → Option String
  | .toolResult id _ _ => some id
  | _ => none

/-- Ids of the tool calls in a message, in order. -/
def Message.toolUseIds (m : Message) : List String := m.content.filterMap Block.toolUseId?

/-- Ids the tool results of a message answer, in order. -/
def Message.toolResultIds (m : Message) : List String := m.content.filterMap Block.toolResultId?

/-- Ids the next message has to answer. -/
def Message.opens (m : Message) : List String :=
  if m.role=.assistant then m.toolUseIds else []

/-- A message answers exactly the open ids: it is a user message when there
are any, has one result for each, and no result for another. -/
def Answers (ids : List String) (m : Message) : Prop :=
  (ids≠[] → m.role=.user) ∧ (∀ id∈ids,m.toolResultIds.count id=1) ∧
    ∀ id∈m.toolResultIds,id∈ids

instance (ids : List String) (m : Message) : Decidable (Answers ids m) := by
  unfold Answers
  infer_instance

/-- Every message answers the ids the message before it opened. -/
def Paired : List String → List Message → Prop
  | _,[] => True
  | ids,m::ms => Answers ids m ∧ Paired m.opens ms

instance decidablePaired : (ids : List String) → (ms : List Message) → Decidable (Paired ids ms)
  | _,[] => .isTrue trivial
  | ids,m::ms =>
    have := decidablePaired m.opens ms
    inferInstanceAs (Decidable (Answers ids m ∧ Paired m.opens ms))

/-- Ids open after the last message. -/
def openAfter : List String → List Message → List String
  | ids,[] => ids
  | _,m::ms => openAfter m.opens ms

/-- A transcript the provider accepts: all results paired, nothing open. -/
def WellFormed (ms : List Message) : Prop := Paired [] ms ∧ openAfter [] ms=[]

instance (ms : List Message) : Decidable (WellFormed ms) := by
  unfold WellFormed
  infer_instance

theorem openAfter_append (ids : List String) (ms ns : List Message) :
    openAfter ids (ms++ns)=openAfter (openAfter ids ms) ns := by
  induction ms generalizing ids with
  | nil => rfl
  | cons m ms ih => exact ih m.opens

theorem paired_append (ids : List String) (ms ns : List Message) :
    Paired ids (ms++ns) ↔ Paired ids ms ∧ Paired (openAfter ids ms) ns := by
  induction ms generalizing ids with
  | nil => simp [Paired,openAfter]
  | cons m ms ih =>
    simp only [List.cons_append,Paired,openAfter,ih,and_assoc]

variable {ms : List Message}

/-- After a well-formed prefix the whole is judged on the rest alone. -/
theorem wellFormed_append (h : WellFormed ms) (ns : List Message) :
    WellFormed (ms++ns) ↔ WellFormed ns := by
  rw [WellFormed,paired_append,openAfter_append,h.2]
  exact ⟨fun hh => ⟨hh.1.2,hh.2⟩,fun hh => ⟨⟨h.1,hh.1⟩,hh.2⟩⟩

@[simp] theorem wellFormed_nil : WellFormed [] := ⟨trivial,rfl⟩

variable {m : Message}

/-- A message without open ids is judged by its own results, then dropped. -/
theorem wellFormed_cons (ho : m.opens=[]) (ms : List Message) :
    WellFormed (m::ms) ↔ m.toolResultIds=[] ∧ WellFormed ms := by
  simp only [WellFormed,Paired,openAfter,ho,Answers]
  constructor
  · rintro ⟨⟨⟨_,_,hr⟩,hp⟩,hc⟩
    refine ⟨List.eq_nil_iff_forall_not_mem.mpr fun id hid => ?_,hp,hc⟩
    exact absurd (hr id hid) List.not_mem_nil
  · rintro ⟨hr,hp,hc⟩
    refine ⟨⟨⟨fun h => absurd rfl h,fun id hid => absurd hid List.not_mem_nil,?_⟩,hp⟩,hc⟩
    rw [hr]
    exact fun id hid => absurd hid List.not_mem_nil

variable {r : Message}

/-- An assistant message followed by an answer is judged by that answer. -/
theorem wellFormed_exchange (hr : m.toolResultIds=[]) (ho : r.opens=[]) (ms : List Message) :
    WellFormed (m::r::ms) ↔ Answers m.opens r ∧ WellFormed ms := by
  have hm : Answers [] m := by
    refine ⟨fun h => absurd rfl h,fun id hid => absurd hid List.not_mem_nil,?_⟩
    rw [hr]
    exact fun id hid => absurd hid List.not_mem_nil
  simp only [WellFormed,Paired,openAfter,ho]
  exact ⟨fun h => ⟨h.1.2.1,h.1.2.2,h.2⟩,fun h => ⟨⟨hm,h.1,h.2.1⟩,h.2.2⟩⟩

/-- A message without results to answer, alone: it must open nothing. -/
theorem wellFormed_single (m : Message) :
    WellFormed [m] ↔ m.toolResultIds=[] ∧ m.opens=[] := by
  constructor
  · rintro ⟨⟨⟨_,_,hr⟩,_⟩,ho⟩
    exact ⟨List.eq_nil_iff_forall_not_mem.mpr fun id hid => List.not_mem_nil (hr id hid),ho⟩
  · rintro ⟨hr,ho⟩
    exact (wellFormed_cons ho []).mpr ⟨hr,wellFormed_nil⟩

/-- A transcript whose first message holds results is not well formed. -/
theorem not_wellFormed_of_results (hr : m.toolResultIds≠[]) (ms : List Message) :
    ¬WellFormed (m::ms) := by
  rintro ⟨⟨⟨_,_,h⟩,_⟩,_⟩
  obtain ⟨id,hid⟩ := List.exists_mem_of_ne_nil _ hr
  exact List.not_mem_nil (h id hid)

theorem opens_user (h : m.role=.user) : m.opens=[] := by
  simp [Message.opens,h]

/-- The list is empty or begins with an assistant message. -/
def Fresh (ms : List Message) : Prop := ∀ m∈ms.head?,m.role=.assistant

/-- Before any fresh list the list is judged on its own. -/
def Separable (ms : List Message) : Prop :=
  ∀ ns,Fresh ns → (WellFormed (ms++ns) ↔ WellFormed ms ∧ WellFormed ns)

@[simp] theorem fresh_nil : Fresh [] := nofun

theorem fresh_cons (h : m.role=.assistant) (ms : List Message) : Fresh (m::ms) :=
  fun x hx => by
    rw [List.head?_cons] at hx
    cases hx
    exact h

theorem Fresh.append {ns : List Message} (hm : Fresh ms) (hn : Fresh ns) : Fresh (ms++ns) := by
  cases ms with
  | nil => exact hn
  | cons m ms => exact hm

@[simp] theorem separable_nil : Separable [] := fun ns _ => by simp

theorem Separable.append {ms ns : List Message} (hm : Separable ms) (hn : Separable ns)
    (hf : Fresh ns) : Separable (ms++ns) := by
  intro rest hrest
  rw [List.append_assoc,hm _ (hf.append hrest),hn _ hrest,hm _ hf,and_assoc]

/-- An assistant message nobody answered: what follows it is no answer. -/
theorem separable_reply (m : Message) : Separable [m] := by
  intro ns hns
  rw [wellFormed_single]
  by_cases hr : m.toolResultIds=[]
  · by_cases ho : m.opens=[]
    · simp only [List.singleton_append,wellFormed_cons ho,hr,ho,true_and]
    · constructor
      · rintro ⟨hp,hc⟩
        cases ns with
        | nil => exact absurd hc ho
        | cons n ns =>
          have hrole := hp.2.1.1 ho
          rw [hns n (by simp)] at hrole
          cases hrole
      · rintro ⟨⟨_,hn⟩,_⟩
        exact absurd hn ho
  · constructor
    · intro hw
      exact absurd hw (not_wellFormed_of_results hr _)
    · rintro ⟨⟨hn,_⟩,_⟩
      exact absurd hn hr

/-- A reply and its answer are judged together. -/
theorem wellFormed_answered (hrole : r.role=.user) :
    WellFormed [m,r] ↔ m.toolResultIds=[] ∧ Answers m.opens r := by
  by_cases hr : m.toolResultIds=[]
  · rw [wellFormed_exchange hr (opens_user hrole)]
    simp [hr]
  · constructor
    · intro hw
      exact absurd hw (not_wellFormed_of_results hr _)
    · rintro ⟨hn,_⟩
      exact absurd hn hr

theorem separable_answered (hrole : r.role=.user) : Separable [m,r] := by
  intro ns _
  rw [wellFormed_answered hrole]
  by_cases hr : m.toolResultIds=[]
  · simp only [List.cons_append,List.nil_append,wellFormed_exchange hr (opens_user hrole),hr,true_and]
  · constructor
    · intro hw
      exact absurd hw (not_wellFormed_of_results hr _)
    · rintro ⟨⟨hn,_⟩,_⟩
      exact absurd hn hr

/-- A user message answers open ids exactly when it names only those, each once. -/
theorem answers_user_iff {ids : List String} (hrole : m.role=.user)
    (hsub : ∀ id∈m.toolResultIds,id∈ids) : Answers ids m ↔ ∀ id∈ids,m.toolResultIds.count id=1 :=
  ⟨fun h => h.2.1,fun h => ⟨fun _ => hrole,h,hsub⟩⟩

end Voyagent.SessionTranscript
