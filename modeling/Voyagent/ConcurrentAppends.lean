import Voyagent.SessionStoreAgreement
import Voyagent.TransitionRuns
import Mathlib.Data.Finset.Insert

/-!
# Appends at the same time

`append_message` reads the greatest sequence of a session and inserts the row
after it in two statements. Calls interleave between them. The table lets one
row in for each session and sequence, and a call that comes second with a
number raises.
-/

namespace Voyagent.ConcurrentAppends

open RuntimeValues KeyedMap SessionTranscript ToolInvocation ApprovalStores ChatSends
open SessionStores SessionStoreAgreement TransitionRuns
open ApprovalStores.PostgresStore (entityIdToUuid)
open GroupedSums (group_snoc)

variable {υ : Type} [DecidableEq υ]

/-- The unique constraint on session and sequence is met by a new row. -/
def Free (t : StoreTables υ) (row : MessageRow υ) : Prop :=
  ∀ m∈t.messageRows row.sessionId,m.sequence≠row.sequence

instance (t : StoreTables υ) (row : MessageRow υ) : Decidable (Free t row) :=
  List.decidableBAll _ _

/-! The driver raises for what the schema refuses, and for a row that is
already there. -/

variable (parse : EntityId → Option υ) (refuse : Violation → Exn) (collision : Exn)

/-- `db.add(row)` and the update of the session, which flushes it. -/
def insertRow (t : StoreTables υ) (row : MessageRow υ) (clock : Time) :
    Except Exn (StoreTables υ) :=
  if maxInteger<row.sequence then .error (refuse (.outOfRange "sequence"))
  else if ¬Free t row then .error collision
  else if (get t.sessions row.sessionId).isNone then .error (refuse (.foreignKey "session_id"))
  else .ok (StoreTables.touch {t with messages := t.messages++[row]} row.sessionId clock)

/-- The number after the greatest is free. -/
theorem free_nextSequence (t : StoreTables υ) (sid : υ) (msg : Message) :
    Free t ⟨sid,t.nextSequence sid,msg⟩ := by
  intro m hm heq
  have hmem : m.sequence∈(t.messageRows sid).map MessageRow.sequence := List.mem_map_of_mem hm
  dsimp only at heq
  unfold StoreTables.nextSequence at heq
  cases hmax : ((t.messageRows sid).map MessageRow.sequence).max? with
  | none =>
    rw [List.max?_eq_none_iff.mp hmax] at hmem
    cases hmem
  | some current =>
    rw [hmax] at heq
    have hle : m.sequence≤ current := (List.max?_eq_some_iff.mp hmax).2 _ hmem
    exact absurd heq (Nat.ne_of_lt (Nat.lt_succ_of_le hle))

/-! ## Calls in stages -/

/-- Where a call stands. -/
inductive Stage (υ : Type) where
  | idle
  /-- The greatest sequence is read, the row is not inserted. -/
  | inserting (row : MessageRow υ)
  | stored (row : MessageRow υ)
  | raised (e : Exn)

/-- The tables and the calls, by their order. -/
structure World (υ : Type) where
  tables : StoreTables υ
  stages : Nat → Stage υ

/-- A statement of one call. -/
inductive Act where
  | read (call : Nat) (sessionId : EntityId) (msg : Message)
  | insert (call : Nat) (clock : Time)

/-- One statement. -/
def act (w : World υ) : Act → Option (World υ)
  | .read call sessionId msg =>
    match w.stages call with
    | .idle =>
      let stage : Stage υ := match entityIdToUuid parse sessionId with
        | .error e => .raised e
        | .ok sid => .inserting ⟨sid,w.tables.nextSequence sid,msg⟩
      some {w with stages := Function.update w.stages call stage}
    | _ => none
  | .insert call clock =>
    match w.stages call with
    | .inserting row =>
      match insertRow refuse collision w.tables row clock with
      | .error e => some {w with stages := Function.update w.stages call (.raised e)}
      | .ok t => some ⟨t,Function.update w.stages call (.stored row)⟩
    | _ => none

/-- Steps of any interleaving. -/
def Step : World υ → Act → World υ → Prop := ofPartial (act parse refuse collision)

/-- Before any call. -/
def started (t : StoreTables υ) : World υ := ⟨t,fun _ => .idle⟩

/-- What one statement can do. -/
inductive Effect (w : World υ) : Act → World υ → Prop
  | unnamed {i : Nat} {sessionId : EntityId} {e : Exn} (msg : Message)
      (hstage : w.stages i=.idle) (hid : parse sessionId=none) :
      Effect w (.read i sessionId msg) {w with stages := Function.update w.stages i (.raised e)}
  | counted {i : Nat} {sessionId : EntityId} {sid : υ} (msg : Message)
      (hstage : w.stages i=.idle) (hid : parse sessionId=some sid) :
      Effect w (.read i sessionId msg)
        {w with stages :=
          Function.update w.stages i (.inserting ⟨sid,w.tables.nextSequence sid,msg⟩)}
  | refused {i : Nat} {clock : Time} {row : MessageRow υ} {e : Exn}
      (hstage : w.stages i=.inserting row)
      (hinsert : insertRow refuse collision w.tables row clock=.error e) :
      Effect w (.insert i clock) {w with stages := Function.update w.stages i (.raised e)}
  | inserted {i : Nat} {clock : Time} {row : MessageRow υ} {t : StoreTables υ}
      (hstage : w.stages i=.inserting row)
      (hinsert : insertRow refuse collision w.tables row clock=.ok t) :
      Effect w (.insert i clock) ⟨t,Function.update w.stages i (.stored row)⟩

variable {parse refuse collision} {w w' : World υ} {a : Act} {t t' : StoreTables υ}
  {row : MessageRow υ} {clock : Time}

theorem effect_of_step (h : Step parse refuse collision w a w') :
    Effect parse refuse collision w a w' := by
  unfold Step ofPartial at h
  cases a with
  | read i sessionId msg =>
    unfold act at h
    cases hstage : w.stages i with
    | idle =>
      simp only [hstage,Option.some.injEq] at h
      subst h
      unfold entityIdToUuid
      cases hid : parse sessionId with
      | none => exact .unnamed msg hstage hid
      | some sid => exact .counted msg hstage hid
    | inserting row => simp [hstage] at h
    | stored row => simp [hstage] at h
    | raised e => simp [hstage] at h
  | insert i clock =>
    unfold act at h
    cases hstage : w.stages i with
    | inserting row =>
      simp only [hstage] at h
      cases hinsert : insertRow refuse collision w.tables row clock with
      | error e =>
        simp only [hinsert,Option.some.injEq] at h
        exact h ▸ .refused hstage hinsert
      | ok t =>
        simp only [hinsert,Option.some.injEq] at h
        exact h ▸ .inserted hstage hinsert
    | idle => simp [hstage] at h
    | stored row => simp [hstage] at h
    | raised e => simp [hstage] at h

/-! ## The tables stay numbered -/

/-- The row is the next one of its session, and fits. -/
def Fits (t : StoreTables υ) (row : MessageRow υ) : Prop :=
  row.sequence=t.nextSequence row.sessionId ∧ row.sequence≤ maxInteger ∧
    (get t.sessions row.sessionId).isSome=true

/-- A number below the next one is taken. -/
theorem eq_next_of_free (hsound : t.Sound) (hle : row.sequence≤t.nextSequence row.sessionId)
    (hfree : Free t row) : row.sequence=t.nextSequence row.sessionId := by
  by_contra hne
  have hlt : row.sequence<(t.messageRows row.sessionId).length := by
    rw [← StoreTables.nextSequence_eq hsound]
    exact Nat.lt_of_le_of_ne hle hne
  have hmem : row.sequence∈(t.messageRows row.sessionId).map MessageRow.sequence := by
    rw [hsound.numbered]
    exact List.mem_range.mpr hlt
  obtain ⟨m,hm,hseq⟩ := List.mem_map.mp hmem
  exact hfree m hm hseq

/-- What an insert that goes through does. -/
theorem insertRow_ok (h : insertRow refuse collision t row clock=.ok t') :
    row.sequence≤ maxInteger ∧ Free t row ∧ (get t.sessions row.sessionId).isSome=true ∧
      t'=StoreTables.touch {t with messages := t.messages++[row]} row.sessionId clock := by
  unfold insertRow at h
  split at h
  · cases h
  · rename_i hroom
    split at h
    · cases h
    · rename_i hfree
      split at h
      · cases h
      · rename_i hsession
        cases h
        refine ⟨Nat.not_lt.mp hroom,not_not.mp hfree,?_,rfl⟩
        rwa [Option.isNone_iff_eq_none,← ne_eq,Option.ne_none_iff_isSome] at hsession

/-- An insert goes through if and only if the row is still the next one. -/
theorem insertRow_ok_iff (hsound : t.Sound) (hle : row.sequence≤t.nextSequence row.sessionId) :
    (∃ t',insertRow refuse collision t row clock=.ok t') ↔ Fits t row := by
  constructor
  · rintro ⟨t',h⟩
    obtain ⟨hroom,hfree,hsession,-⟩ := insertRow_ok h
    exact ⟨eq_next_of_free hsound hle hfree,hroom,hsession⟩
  · rintro ⟨hnext,hroom,hsession⟩
    have hfree : Free t row := by
      have hrow : Free t ⟨row.sessionId,t.nextSequence row.sessionId,row.message⟩ :=
        free_nextSequence t row.sessionId row.message
      rwa [← hnext] at hrow
    obtain ⟨stored,hstored⟩ := Option.isSome_iff_exists.mp hsession
    unfold insertRow
    rw [if_neg (Nat.not_lt.mpr hroom),if_neg (not_not_intro hfree),hstored]
    exact ⟨_,rfl⟩

/-- The tables after an insert. -/
structure Extends (t t' : StoreTables υ) (row : MessageRow υ) : Prop where
  sound : t'.Sound
  messages : t'.messages=t.messages++[row]
  grows : ∀ sid,t.nextSequence sid≤t'.nextSequence sid
  /-- The row now has a number below the next one. -/
  taken : row.sequence<t'.nextSequence row.sessionId

theorem extends_of_insertRow (hsound : t.Sound) (hle : row.sequence≤t.nextSequence row.sessionId)
    (h : insertRow refuse collision t row clock=.ok t') : Extends t t' row := by
  obtain ⟨hroom,hfree,hsession,rfl⟩ := insertRow_ok h
  have hnext : row.sequence=(t.messageRows row.sessionId).length :=
    (eq_next_of_free hsound hle hfree).trans (StoreTables.nextSequence_eq hsound _)
  have hsound' := (hsound.append hsession hnext).touch row.sessionId clock
  have hcount : ∀ sid,(StoreTables.touch {t with messages := t.messages++[row]} row.sessionId
      clock).nextSequence sid=
        if row.sessionId=sid then t.nextSequence sid+1 else t.nextSequence sid := by
    intro sid
    rw [StoreTables.nextSequence_eq hsound',StoreTables.nextSequence_eq hsound]
    have hrows := StoreTables.messageRows_append t row sid
    refine (congrArg List.length hrows).trans ?_
    split
    · exact List.length_append
    · rfl
  refine ⟨hsound',rfl,fun sid => ?_,?_⟩
  · rw [hcount]
    split
    · exact Nat.le_succ _
    · exact Nat.le_refl _
  · rw [hcount,if_pos rfl]
    exact Nat.lt_succ_of_le hle

/-! ## Every interleaving -/

/-- What every statement preserves: numbers read are not ahead, and stored
calls have rows of their own. -/
structure Tidy (w : World υ) : Prop where
  sound : w.tables.Sound
  behind : ∀ i row,w.stages i=.inserting row → row.sequence≤w.tables.nextSequence row.sessionId
  present : ∀ i row,w.stages i=.stored row → row∈w.tables.messages
  taken : ∀ i row,w.stages i=.stored row → row.sequence<w.tables.nextSequence row.sessionId
  apart : ∀ i j row row',w.stages i=.stored row → w.stages j=.stored row' → i≠j →
    row.sessionId=row'.sessionId → row.sequence≠row'.sequence

theorem tidy_started (h : t.Sound) : Tidy (started t) where
  sound := h
  behind := fun _ _ hstage => by cases hstage
  present := fun _ _ hstage => by cases hstage
  taken := fun _ _ hstage => by cases hstage
  apart := fun _ _ _ _ hstage => by cases hstage

/-- Moving a call to a stage that stores nothing. -/
theorem Tidy.move (h : Tidy w) (i : Nat) {stage : Stage υ} (hstored : ∀ row,stage≠.stored row)
    (hbehind : ∀ row,stage=.inserting row → row.sequence≤w.tables.nextSequence row.sessionId) :
    Tidy {w with stages := Function.update w.stages i stage} := by
  have hkept : ∀ j row,Function.update w.stages i stage j=.stored row → w.stages j=.stored row := by
    intro j row hj
    rcases eq_or_ne j i with rfl|hji
    · rw [Function.update_self] at hj
      exact absurd hj (hstored row)
    · rwa [Function.update_of_ne hji] at hj
  refine ⟨h.sound,fun j row hj => ?_,fun j row hj => h.present j row (hkept j row hj),
    fun j row hj => h.taken j row (hkept j row hj),fun j k row row' hj hk =>
      h.apart j k row row' (hkept j row hj) (hkept k row' hk)⟩
  dsimp only at hj
  rcases eq_or_ne j i with rfl|hji
  · rw [Function.update_self] at hj
    exact hbehind row hj
  · rw [Function.update_of_ne hji] at hj
    exact h.behind j row hj

/-- Storing the row of a call. -/
theorem Tidy.store (h : Tidy w) {i : Nat} (hext : Extends w.tables t' row)
    (hnext : row.sequence=w.tables.nextSequence row.sessionId) :
    Tidy ⟨t',Function.update w.stages i (.stored row)⟩ := by
  have hcases : ∀ j row',Function.update w.stages i (.stored row) j=.stored row' →
      (j=i ∧ row'=row) ∨ (j≠i ∧ w.stages j=.stored row') := by
    intro j row' hj
    rcases eq_or_ne j i with rfl|hji
    · rw [Function.update_self] at hj
      cases hj
      exact .inl ⟨rfl,rfl⟩
    · rw [Function.update_of_ne hji] at hj
      exact .inr ⟨hji,hj⟩
  refine ⟨hext.sound,fun j row' hj => ?_,fun j row' hj => ?_,fun j row' hj => ?_,
    fun j k r r' hj hk hjk hsession => ?_⟩
  · dsimp only at hj
    rcases eq_or_ne j i with rfl|hji
    · rw [Function.update_self] at hj
      cases hj
    · rw [Function.update_of_ne hji] at hj
      exact (h.behind j row' hj).trans (hext.grows _)
  · dsimp only
    rw [hext.messages]
    rcases hcases j row' hj with ⟨-,rfl⟩|⟨-,hold⟩
    · exact List.mem_append_right _ List.mem_cons_self
    · exact List.mem_append_left _ (h.present j row' hold)
  · rcases hcases j row' hj with ⟨-,rfl⟩|⟨-,hold⟩
    · exact hext.taken
    · exact (h.taken j row' hold).trans_le (hext.grows _)
  · rcases hcases j r hj with ⟨rfl,rfl⟩|⟨hj,hold⟩
    · rcases hcases k r' hk with ⟨rfl,-⟩|⟨-,hold'⟩
      · exact absurd rfl hjk
      · have hlt := h.taken k r' hold'
        rw [← hsession,← hnext] at hlt
        exact hlt.ne'
    · rcases hcases k r' hk with ⟨rfl,rfl⟩|⟨hk,hold'⟩
      · have hlt := h.taken j r hold
        rw [hsession,← hnext] at hlt
        exact hlt.ne
      · exact h.apart j k r r' hold hold' hjk hsession

theorem tidy_step (h : Tidy w) (hs : Step parse refuse collision w a w') : Tidy w' := by
  cases effect_of_step hs with
  | unnamed msg hstage hid | refused hstage hinsert =>
    exact h.move _ (fun row heq => by cases heq) (fun row heq => by cases heq)
  | @counted i sessionId sid msg hstage hid =>
    refine h.move _ (fun row heq => by cases heq) (fun row heq => ?_)
    cases heq
    exact Nat.le_refl _
  | @inserted i clock row t hstage hinsert =>
    have hle := h.behind i row hstage
    obtain ⟨-,hfree,-⟩ := insertRow_ok hinsert
    exact h.store (extends_of_insertRow h.sound hle hinsert) (eq_next_of_free h.sound hle hfree)

/-- A call that has not ended, or ended with its message in the table. -/
def Kept (t : StoreTables υ) : Stage υ → Prop
  | .idle => True
  | .inserting _ => True
  | .stored row => row∈t.messages
  | .raised _ => False

/-- Every call that ended has its message stored. -/
def NothingLost (w : World υ) : Prop := ∀ i,Kept w.tables (w.stages i)

/-- No call ended with an exception. -/
def NoneRaised (w : World υ) : Prop := ∀ i e,w.stages i≠.raised e

theorem nothingLost_iff (h : Tidy w) : NothingLost w ↔ NoneRaised w := by
  constructor
  · intro hkept i e hstage
    have hcall := hkept i
    rw [hstage] at hcall
    exact hcall
  · intro hnone i
    cases hstage : w.stages i with
    | idle => trivial
    | inserting row => trivial
    | stored row => exact h.present i row hstage
    | raised e => exact hnone i e hstage

/-- An id is read that names a session; a row is inserted that is still the
next one of its session. -/
def InTurn (parse : EntityId → Option υ) (w : World υ) : Act → Prop
  | .read _ sessionId _ => (parse sessionId).isSome=true
  | .insert i _ => ∀ row,w.stages i=.inserting row → Fits w.tables row

theorem noneRaised_back (hs : Step parse refuse collision w a w') (h : NoneRaised w') :
    NoneRaised w := by
  have hother : ∀ {i : Nat} {stage : Stage υ},(∀ e,w.stages i≠.raised e) →
      (∀ j e,Function.update w.stages i stage j≠.raised e) → NoneRaised w := by
    intro i stage hi hafter j e hj
    rcases eq_or_ne j i with rfl|hji
    · exact hi e hj
    · have hsame := hafter j e
      rw [Function.update_of_ne hji] at hsame
      exact hsame hj
  cases effect_of_step hs with
  | unnamed msg hstage hid | counted msg hstage hid | refused hstage hinsert
  | inserted hstage hinsert =>
    exact hother (fun e he => by simp [hstage] at he) h

omit [DecidableEq υ] in
/-- Moving one call raises nothing unless the call does. -/
theorem NoneRaised.move (h : NoneRaised w) (i : Nat) {stage : Stage υ}
    (hstage : ∀ e,stage≠.raised e) (j : Nat) (e : Exn) :
    Function.update w.stages i stage j≠.raised e := by
  rcases eq_or_ne j i with rfl|hji
  · rw [Function.update_self]
    exact hstage e
  · rw [Function.update_of_ne hji]
    exact h j e

/-- A statement raises if and only if it is out of turn. -/
theorem noneRaised_step_iff (h : Tidy w) (hnone : NoneRaised w)
    (hs : Step parse refuse collision w a w') : NoneRaised w' ↔ InTurn parse w a := by
  cases effect_of_step hs with
  | @unnamed i sessionId e msg hstage hid =>
    refine iff_of_false (fun h => h i e (Function.update_self ..)) ?_
    simp [InTurn,hid]
  | @counted i sessionId sid msg hstage hid =>
    refine iff_of_true (hnone.move i fun e he => by cases he) ?_
    simp [InTurn,hid]
  | @refused i clock row e hstage hinsert =>
    refine iff_of_false (fun h => h i e (Function.update_self ..)) fun hturn => ?_
    have hok : ∃ t',insertRow refuse collision w.tables row clock=.ok t' :=
      (insertRow_ok_iff h.sound (h.behind i row hstage)).mpr (hturn row hstage)
    rw [hinsert] at hok
    obtain ⟨t',hok⟩ := hok
    cases hok
  | @inserted i clock row t hstage hinsert =>
    refine iff_of_true (hnone.move i fun e he => by cases he) fun row' hrow' => ?_
    rw [hstage] at hrow'
    cases hrow'
    exact (insertRow_ok_iff h.sound (h.behind i row hstage)).mp ⟨t,hinsert⟩

variable (parse refuse collision) in
/-- However appends interleave, every session's messages are numbered from
zero without gaps and the rows of stored calls differ. Every call that ended
has its message stored if and only if every id named a session, and every row
was inserted while its number was still the next one. -/
theorem appends_kept_iff (t : StoreTables υ) (hsound : t.Sound) (acts : List Act)
    (w : World υ) (hrun : Run (Step parse refuse collision) (started t) acts w) :
    (∀ sid,(w.tables.messageRows sid).map MessageRow.sequence=
        List.range (w.tables.messageRows sid).length) ∧
      (∀ i j row row',w.stages i=.stored row → w.stages j=.stored row' → i≠j →
        row.sessionId=row'.sessionId → row.sequence≠row'.sequence) ∧
      (NothingLost w ↔
        Run (guarded (Step parse refuse collision) (InTurn parse)) (started t) acts w) := by
  have htidy : Tidy w := hrun.invariant (tidy_started hsound) fun _ _ _ h hs => tidy_step h hs
  refine ⟨htidy.sound.numbered,htidy.apart,(nothingLost_iff htidy).trans ?_⟩
  exact hrun.holds_iff_guarded (J := Tidy) (deterministic_ofPartial _) (tidy_started hsound)
    (fun _ _ _ h hs => tidy_step h hs) (fun _ _ hstage => by cases hstage)
    (fun _ _ _ hs h => noneRaised_back hs h)
    fun _ _ _ h hnone hs => noneRaised_step_iff h hnone hs

/-! ## Two appends at a desk -/

/-- The session of the desk, without messages. -/
def deskTables : StoreTables String :=
  {tenants := [deskTenant]
   users := [deskUser]
   sessions := [((deskSession []).id,⟨⟨deskTenant,some deskUser,.human⟩,0,0⟩)]}

/-- The driver's exception for a number that is taken. -/
def deskCollision : Exn := ⟨"IntegrityError",["DatabaseError"],"ux_messages_session_seq",none⟩

def secondMessage : Message := ⟨.user,[.text "Not that one."]⟩

theorem sound_deskTables : deskTables.Sound where
  keyed := List.nodup_nil
  numbered := fun _ => rfl
  messages_owned := fun _ hm => by cases hm
  approvals_owned := fun _ he => by cases he

/-- The world after some statements at the desk. -/
def deskWorld (acts : List Act) : World String :=
  acts.foldl (fun w a => (act canonicalUuid deskRefusal deskCollision w a).getD w)
    (started deskTables)

/-- One message after the other. -/
def deskAppends : List Act :=
  [.read 0 (deskSession []).id deskMessage,.insert 0 1,
    .read 1 (deskSession []).id secondMessage,.insert 1 2]

/-- Both read before one inserts. -/
def deskRace : List Act :=
  [.read 0 (deskSession []).id deskMessage,.read 1 (deskSession []).id secondMessage,
    .insert 0 1,.insert 1 2]

theorem appends_kept_desk :
    Run (Step canonicalUuid deskRefusal deskCollision) (started deskTables) deskAppends
        (deskWorld deskAppends) ∧
      (NothingLost (deskWorld deskAppends) ↔
        Run (guarded (Step canonicalUuid deskRefusal deskCollision) (InTurn canonicalUuid))
          (started deskTables) deskAppends (deskWorld deskAppends)) := by
  have hrun : Run (Step canonicalUuid deskRefusal deskCollision) (started deskTables) deskAppends
      (deskWorld deskAppends) := run_of_foldlM (by rfl)
  exact ⟨hrun,(appends_kept_iff canonicalUuid deskRefusal deskCollision deskTables
    sound_deskTables deskAppends _ hrun).2.2⟩

/-- Two calls read the same number. The second to insert raises, nothing
retries it, and its message is in no row. -/
theorem append_lost :
    ∃ w,Run (Step canonicalUuid deskRefusal deskCollision) (started deskTables) deskRace w ∧
      w.stages 1=.raised deskCollision ∧
        w.tables.messages=[⟨(deskSession []).id,0,deskMessage⟩] ∧ ¬NothingLost w := by
  have hraised : (deskWorld deskRace).stages 1=.raised deskCollision := by rfl
  refine ⟨deskWorld deskRace,run_of_foldlM (by rfl),hraised,by rfl,fun hkept => ?_⟩
  have hcall := hkept 1
  rw [hraised] at hcall
  exact hcall

end Voyagent.ConcurrentAppends
