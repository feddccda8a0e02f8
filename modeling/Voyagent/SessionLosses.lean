import Voyagent.AuthClients
import Voyagent.CooperativePrograms

/-!
# How a client loses its tokens

The operations of a client are carried out one after the other. Of each the
answers to its refreshes and profile requests are noted, and whether stored
tokens are cleared that the API has not rejected. Of a client it is enough to
know which operations clear what is stored when they end without a user, and
whether a refresh that is refused clears it at once.
-/

namespace Voyagent.SessionLosses

open CooperativePrograms AuthClients TransitionRuns

/-- What became of a request. -/
inductive Fate where
  | granted
  /-- A success whose body cannot be read. -/
  | unreadable
  /-- 401. -/
  | rejected
  /-- Another error status. -/
  | refused
  | unreachable
  deriving DecidableEq

def fateOf {β : Type} : Reply β → Fate
  | .unreachable => .unreachable
  | .answered status body _ =>
    if okStatus status then
      if body.isSome then .granted else .unreadable
    else if status==401 then .rejected else .refused

theorem fateOf_eq_granted {β : Type} {reply : Reply β} :
    fateOf reply=.granted ↔ reply.granted.isSome=true := by
  cases reply with
  | unreachable => exact iff_of_false nofun nofun
  | answered status body detail =>
    unfold fateOf Reply.granted
    dsimp only
    split
    · cases body <;> simp
    · split <;> simp

/-- An answer that was met. -/
inductive Met where
  | refresh (fate : Fate)
  | profile (fate : Fate)
  deriving DecidableEq

/-- Whether the present refresh token stands rejected. -/
def rejectedAfter (before : Bool) (met : List Met) : Bool :=
  met.foldl (fun rejected x => match x with
    | .refresh .granted => false
    | .refresh .rejected => true
    | _ => rejected) before

/-- The last answer met is a success. -/
def lastGranted (met : List Met) : Bool :=
  met.getLast?.any fun x => decide (x=.refresh .granted) || decide (x=.profile .granted)

/-- The answers an operation has met so far, whether the refresh token stood
rejected before, and whether tokens were cleared that did not stand rejected. -/
structure Tally where
  before : Bool := false
  met : List Met := []
  lost : Bool := false

def Tally.rejected (t : Tally) : Bool := rejectedAfter t.before t.met

def Tally.note (t : Tally) (x : Met) : Tally := {t with met := t.met++[x]}

/-- A sign-in is granted: its refresh token is new. -/
def Tally.renew (t : Tally) : Tally := {t with before := false,met := []}

/-- What is stored is cleared. -/
def Tally.clear (t : Tally) (stored : Bool) : Tally :=
  {t with lost := t.lost || (stored && !t.rejected)}

@[simp] theorem rejected_note_refresh (t : Tally) (fate : Fate) :
    (t.note (.refresh fate)).rejected=(match fate with
      | .granted => false
      | .rejected => true
      | _ => t.rejected) := by
  simp only [Tally.note,Tally.rejected,rejectedAfter,List.foldl_append,List.foldl_cons,List.foldl_nil]
  cases fate <;> rfl

@[simp] theorem rejected_note_profile (t : Tally) (fate : Fate) :
    (t.note (.profile fate)).rejected=t.rejected := by
  simp only [Tally.note,Tally.rejected,rejectedAfter,List.foldl_append,List.foldl_cons,List.foldl_nil]

@[simp] theorem lastGranted_note_refresh (t : Tally) (fate : Fate) :
    lastGranted (t.note (.refresh fate)).met=decide (fate=.granted) := by
  simp [Tally.note,lastGranted]

@[simp] theorem lastGranted_note_profile (t : Tally) (fate : Fate) :
    lastGranted (t.note (.profile fate)).met=decide (fate=.granted) := by
  simp [Tally.note,lastGranted]

@[simp] theorem contains_note (t : Tally) (x y : Met) :
    (t.note x).met.contains y=(t.met.contains y || decide (y=x)) := by
  simp [Tally.note]

/-- Clearing in two parts. -/
theorem clear_clear (t : Tally) (first second : Bool) :
    (t.clear first).clear second=t.clear (first || second) := by
  have h : ((t.lost || (first && !t.rejected)) || (second && !t.rejected))=
      (t.lost || ((first || second) && !t.rejected)) := by
    cases t.lost <;> cases first <;> cases second <;> simp
  exact congrArg (fun lost => {t with lost}) h

/-- A client with its tally. -/
structure Metered (σ : Type) where
  client : σ
  tally : Tally := {}

/-- A client by its operations. -/
structure Setup (S W : Type) (AS : S → Type) (AW : W → Type) (ε σ κ : Type) where
  body : κ → Task AS AW ε Unit
  memory : κ → (q : S) → Metered σ → AS q × Metered σ
  await : κ → Metered σ → (w : W) → AW w → Option (Metered σ)
  clock : Int → σ → σ
  /-- Tokens are stored. -/
  stored : σ → Bool
  /-- The operation clears what is stored where it ends without a user. -/
  loads : κ → Bool
  /-- A refresh that is refused clears what is stored. -/
  refusalClears : Bool

/-- One operation at a time, with prepared answers. -/
structure Attempt (W : Type) (AW : W → Type) (κ : Type) where
  kind : κ
  now : Int
  answers : Nat → (w : W) → AW w

section Runs

variable {S W ε σ κ : Type} {AS : S → Type} {AW : W → Type} (e : Setup S W AS AW ε σ κ)

/-- An operation begins. -/
def begun (s : Metered σ) (now : Int) : Metered σ :=
  ⟨e.clock now s.client,{before := s.tally.rejected}⟩

/-- Where an operation ends. -/
def outcome (s : Metered σ) (a : Attempt W AW κ) : Option (Metered σ) :=
  (carryOut (e.memory a.kind) (e.await a.kind) a.answers 0 (e.body a.kind) (begun e s a.now)).map
    Prod.snd

def step (s : Metered σ) (a : Attempt W AW κ) : Option (Metered σ) :=
  (outcome e s a).map fun t => {t with tally := {t.tally with lost := s.tally.lost || t.tally.lost}}

def Step : Metered σ → Attempt W AW κ → Metered σ → Prop := ofPartial (step e)

/-- The answers spare what is stored: an operation that loads a session and
finds tokens meets a success last, or the refresh token stands rejected; and
where a refused refresh clears, none is refused. -/
def Spares (kind : κ) (s : Metered σ) (met : List Met) : Bool :=
  (!e.loads kind || !e.stored s.client || lastGranted met || rejectedAfter s.tally.before met) &&
    (!e.refusalClears || !met.contains (.refresh .refused))

/-- The answers that an operation meets spare what is stored. -/
def spared (s : Metered σ) (a : Attempt W AW κ) : Bool :=
  match outcome e s a with
  | some t => Spares e a.kind (begun e s a.now) t.tally.met
  | none => true

variable {e} {J : σ → Bool → Prop} {s t : Metered σ} {as : List (Attempt W AW κ)}

/-- What every operation has to show: what holds between operations is kept,
and tokens are lost where the answers do not spare them. -/
def Conforms (e : Setup S W AS AW ε σ κ) (J : σ → Bool → Prop) : Prop :=
  ∀ kind s,J s.client s.tally.before → s.tally.met=[] → s.tally.lost=false →
    Ends (e.memory kind) (e.await kind)
      (fun t _ => J t.client t.tally.rejected ∧ (t.tally.lost=false ↔ Spares e kind s t.tally.met=true))
      (e.body kind) s

theorem spared_of_step (h : Conforms e J) (hclock : ∀ c b now,J c b → J (e.clock now c) b)
    {a : Attempt W AW κ} (hs : J s.client s.tally.rejected) (hstep : Step e s a t) :
    J t.client t.tally.rejected ∧ (t.tally.lost=false ↔ s.tally.lost=false ∧ spared e s a=true) := by
  obtain ⟨u,hu,rfl⟩ := Option.map_eq_some_iff.mp hstep
  obtain ⟨⟨x,u⟩,hrun,rfl⟩ := Option.map_eq_some_iff.mp hu
  have hbegun := h a.kind (begun e s a.now) (hclock _ _ a.now hs) rfl rfl
  obtain ⟨hkept,hlost⟩ := hbegun.carryOut hrun
  refine ⟨hkept,?_⟩
  rw [spared,hu]
  change (s.tally.lost || u.tally.lost)=false ↔ _
  rw [Bool.or_eq_false_iff]
  exact and_congr_right fun _ => hlost

/-- In runs of operations no tokens are lost if and only if the answers of
every one spare them. -/
theorem nothing_lost_iff (h : Conforms e J) (hclock : ∀ c b now,J c b → J (e.clock now c) b)
    (hs : J s.client s.tally.rejected) (hnone : s.tally.lost=false) (hrun : Run (Step e) s as t) :
    t.tally.lost=false ↔ Run (guarded (Step e) fun s a => spared e s a=true) s as t := by
  refine Run.holds_iff_guarded (J:=fun s => J s.client s.tally.rejected)
    (P:=fun s => s.tally.lost=false) (deterministic_ofPartial _) hrun hs ?_ hnone ?_ ?_
  · exact fun a l b ha hstep => (spared_of_step h hclock ha hstep).1
  · intro a l b hstep hb
    obtain ⟨u,-,rfl⟩ := Option.map_eq_some_iff.mp hstep
    exact (Bool.or_eq_false_iff.mp hb).1
  · intro a l b ha hlost hstep
    rw [(spared_of_step h hclock ha hstep).2]
    exact and_iff_right hlost

end Runs

end Voyagent.SessionLosses
