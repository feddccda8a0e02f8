import Mathlib.Data.List.Forall2
import Voyagent.GeneratorRelations

/-!
# Work kept by writing a private copy back

A body shows values to a consumer who may leave at any of them. What it does
is first loose, then noted in a private copy, and kept once that copy is
written back. The ledger says whether anything done is still loose or only
noted, at every value shown and at the end.
-/

namespace Voyagent.WriteBack

open GeneratorTraces GeneratorRelations

/-- One beat of a body. -/
inductive Beat where
  /-- A value is shown, and the consumer may leave. -/
  | shown
  /-- Something is done. -/
  | done
  /-- All that was done is noted in the private copy. -/
  | noted
  /-- The private copy is written back. -/
  | kept
  deriving DecidableEq

/-- What is not kept yet. -/
structure Ledger where
  loose : Bool := false
  noted : Bool := false
  deriving DecidableEq

/-- Something done would be lost by leaving now. -/
def Ledger.pending (l : Ledger) : Bool := l.loose || l.noted

def Ledger.step (l : Ledger) : Beat → Ledger
  | .shown => l
  | .done => {l with loose := true}
  | .noted => ⟨false,l.loose || l.noted⟩
  | .kept => {l with noted := false}

/-- The ledger after some beats. -/
def settle (l : Ledger) (bs : List Beat) : Ledger := bs.foldl Ledger.step l

/-- The ledger at each value shown. -/
def marks : Ledger → List Beat → List Ledger
  | _,[] => []
  | l,.shown::bs => l::marks l bs
  | l,.done::bs => marks (l.step .done) bs
  | l,.noted::bs => marks (l.step .noted) bs
  | l,.kept::bs => marks (l.step .kept) bs

/-- The ledger where a consumer leaves: at a value, or after the last beat. -/
def leftAt (bs : List Beat) : Option Nat → Ledger
  | none => settle {} bs
  | some n => (marks {} bs)[n]?.getD (settle {} bs)

variable {l : Ledger} {bs cs : List Beat}

@[simp] theorem settle_append (l : Ledger) (bs cs : List Beat) :
    settle l (bs++cs)=settle (settle l bs) cs := List.foldl_append

@[simp] theorem settle_cons (l : Ledger) (b : Beat) (bs : List Beat) :
    settle l (b::bs)=settle (l.step b) bs := rfl

@[simp] theorem step_shown (l : Ledger) : l.step .shown=l := rfl

theorem marks_append (l : Ledger) (bs cs : List Beat) :
    marks l (bs++cs)=marks l bs++marks (settle l bs) cs := by
  induction bs generalizing l with
  | nil => rfl
  | cons b bs ih =>
    cases b with
    | shown => exact congrArg (l::·) (ih l)
    | done => exact ih _
    | noted => exact ih _
    | kept => exact ih _

/-- Values shown one after the other find the same ledger. -/
theorem marks_shown (l : Ledger) (n : Nat) : marks l (.replicate n .shown)=.replicate n l := by
  induction n with
  | zero => rfl
  | succ n ih => exact congrArg (l::·) ih

@[simp] theorem settle_shown (l : Ledger) (n : Nat) : settle l (.replicate n .shown)=l := by
  induction n with
  | zero => rfl
  | succ n ih => exact ih

/-- Whether anything is loose depends on what was loose before, and on
nothing else. -/
theorem settle_loose_congr {m : Ledger} (h : l.loose=m.loose) (bs : List Beat) :
    (settle l bs).loose=(settle m bs).loose := by
  induction bs generalizing l m with
  | nil => exact h
  | cons b bs ih =>
    cases b with
    | shown => exact ih h
    | done => exact ih rfl
    | noted => exact ih rfl
    | kept => exact ih h

/-- Beats without a note note nothing. -/
theorem settle_unnoted (hl : l.noted=false) (h : .noted∉bs) : (settle l bs).noted=false := by
  induction bs generalizing l with
  | nil => exact hl
  | cons b bs ih =>
    obtain ⟨hb,hbs⟩ := not_or.mp (List.mem_cons.not.mp h)
    cases b with
    | shown => exact ih hl hbs
    | done => exact ih hl hbs
    | noted => exact absurd rfl hb
    | kept => exact ih rfl hbs

/-! ## Watching a run by its ledger -/

variable {σ ε κ α : Type} {J : List ε → σ → Ledger → Prop}

/-- A relation between what was taken, the state and the ledger holds at every
value shown. -/
def Watched (J : List ε → σ → Ledger → Prop) : List ε → List (ε × σ) → List Ledger → Prop
  | _,[],[] => True
  | es,y::ys,m::ms => J (es++[y.1]) y.2 m ∧ Watched J (es++[y.1]) ys ms
  | _,_,_ => False

variable {es : List ε} {ms : List Ledger} {ys zs : List (ε × σ)}

theorem Watched.append {ns : List Ledger} (h : Watched J es ys ms)
    (h' : Watched J (es++ys.map Prod.fst) zs ns) : Watched J es (ys++zs) (ms++ns) := by
  induction ys generalizing es ms with
  | nil =>
    cases ms with
    | nil => simpa using h'
    | cons m ms => exact h.elim
  | cons y ys ih =>
    cases ms with
    | nil => exact h.elim
    | cons m ms => exact ⟨h.1,ih h.2 (by simpa using h')⟩

/-- Values whose states answer to their ledgers are watched, whatever was
taken before them. -/
theorem watched_of_forall₂ {P : ε × σ → Ledger → Prop} (h : List.Forall₂ P ys ms)
    (hJ : ∀ fs y m,es <+: fs → P y m → J fs y.2 m) : Watched J es ys ms := by
  induction h generalizing es with
  | nil => trivial
  | @cons y m ys ms hy _ ih =>
    exact ⟨hJ _ y m (List.prefix_append _ _) hy,
      ih fun fs z n hfs => hJ fs z n ((List.prefix_append _ _).trans hfs)⟩

/-- Values shown in one state, which answers to one ledger. -/
theorem watched_shown {s : σ} {m : Ledger} (evs : List ε) (hJ : ∀ fs,es <+: fs → J fs s m) :
    Watched J es (evs.map (·,s)) (.replicate evs.length m) := by
  induction evs generalizing es with
  | nil => trivial
  | cons ev evs ih =>
    exact ⟨hJ _ (List.prefix_append _ _),
      ih fun fs hfs => hJ fs ((List.prefix_append _ _).trans hfs)⟩

/-- The value a consumer leaves at, with the ledger it finds there. -/
theorem Watched.get (h : Watched J es ys ms) (n : ℕ) : match ys.drop n with
      | [] => ms[n]?=none
      | y::_ => ∃ m,ms[n]?=some m ∧ J (es++(ys.take n++[y]).map Prod.fst) y.2 m := by
  induction ys generalizing es ms n with
  | nil =>
    cases ms with
    | nil => rw [List.drop_nil]; rfl
    | cons m ms => exact h.elim
  | cons y ys ih =>
    cases ms with
    | nil => exact h.elim
    | cons m ms =>
      cases n with
      | zero => exact ⟨m,rfl,h.1⟩
      | succ n =>
        have hrest := ih h.2 n
        rw [List.drop_succ_cons]
        cases hdrop : ys.drop n with
        | nil =>
          rw [hdrop] at hrest
          exact hrest
        | cons z zs =>
          rw [hdrop] at hrest
          simpa using hrest

/-- Wherever a consumer leaves, the relation holds of what it took. Values
shown behind the last beat find the ledger settled. -/
theorem taken_of_watched {t : Trace σ ε κ α} (hsplit : t.yields=ys++zs)
    (hyields : Watched J [] ys (marks {} bs))
    (hlast : ∀ es,∀ z∈zs,ys.map Prod.fst <+: es → J es z.2 (settle {} bs))
    (hend : J t.events t.state (settle {} bs)) (stop : Option Nat) :
    J (taken t stop).1 (taken t stop).2 (leftAt bs stop) := by
  cases stop with
  | none => exact hend
  | some n =>
    have hget := hyields.get n
    unfold taken leftAt
    dsimp only
    rw [hsplit,List.drop_append,List.take_append]
    cases hdrop : ys.drop n with
    | cons y rest =>
      rw [hdrop] at hget
      obtain ⟨m,hm,hj⟩ := hget
      have hlt : n < ys.length := by
        by_contra hge
        rw [List.drop_eq_nil_of_le (Nat.le_of_not_lt hge)] at hdrop
        cases hdrop
      have hnone : zs.take (n-ys.length)=[] := by
        rw [Nat.sub_eq_zero_of_le (Nat.le_of_lt hlt),List.take_zero]
      rw [hm,hnone,List.append_nil]
      exact hj
    | nil =>
      rw [hdrop] at hget
      rw [show (marks {} bs)[n]?=none from hget,List.nil_append]
      have hall : ys.take n=ys := List.take_of_length_le (List.drop_eq_nil_iff.mp hdrop)
      cases hrest : zs.drop (n-ys.length) with
      | nil => exact hend
      | cons z rest =>
        refine hlast _ z (List.mem_of_mem_drop (hrest ▸ List.mem_cons_self)) ?_
        dsimp only
        rw [hall,List.append_assoc,List.map_append]
        exact List.prefix_append _ _

end Voyagent.WriteBack
