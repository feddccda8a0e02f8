import Voyagent.EffectPrograms
import Voyagent.TransitionRuns

/-!
# Programs that run from one await to the next

The operations of a single-threaded program share its memory. Each runs without
interruption until it awaits an answer, and the others run while it waits, so
that only awaited answers are steps. A rely condition says what may happen to
the memory meanwhile. An outline of a program carries its facts over every
await, and outlines of all operations give an invariant of every run.
-/

namespace Voyagent.CooperativePrograms

open EffectPrograms TransitionRuns

variable {S W ε α β σ ι κ χ : Type} {AS : S → Type} {AW : W → Type}

/-- A question is put to the memory, or its answer is awaited. -/
inductive Ask (S W : Type) where
  | memory (q : S)
  | await (w : W)

abbrev Ask.Answer (AS : S → Type) (AW : W → Type) : Ask S W → Type
  | .memory q => AS q
  | .await w => AW w

/-- A program whose questions are of both kinds. -/
abbrev Task (AS : S → Type) (AW : W → Type) (ε α : Type) : Type :=
  Program (Ask S W) (Ask.Answer AS AW) ε α

/-- Put one question to the memory. -/
def atOnce (q : S) : Task AS AW ε (AS q) := query (Q:=Ask S W) (.memory q)

/-- Await one answer. -/
def awaited (w : W) : Task AS AW ε (AW w) := query (Q:=Ask S W) (.await w)

/-- The operations of a program by their kinds, and what their questions do. -/
structure System (AS : S → Type) (AW : W → Type) (ε σ ι κ χ : Type) where
  body : ι → κ → Task AS AW ε Unit
  memory : ι → κ → (q : S) → σ → AS q × σ
  await : ι → κ → σ → (w : W) → AW w → Option σ
  /-- What else happens to the memory. -/
  change : χ → σ → σ

/-- An answer is taken where it may be given. -/
theorem ite_map_eq_some {c : Bool} {x : Option α} {f : α → β} {b : β} :
    (if c=true then x.map f else none)=some b ↔ c=true ∧ ∃ a,x=some a ∧ b=f a := by
  split
  · rename_i hc
    rw [Option.map_eq_some_iff]
    constructor
    · rintro ⟨a,ha,rfl⟩
      exact ⟨hc,a,ha,rfl⟩
    · rintro ⟨-,a,ha,rfl⟩
      exact ⟨a,ha,rfl⟩
  · rename_i hnot
    exact iff_of_false nofun fun h => hnot h.1

/-- Run a program until it awaits something or has ended. -/
def settle (memory : (q : S) → σ → AS q × σ) : Task AS AW ε α → σ → Task AS AW ε α × σ
  | .ask (.memory q) rest,s => settle memory (rest (memory q s).1) (memory q s).2
  | .ask (.await w) rest,s => (.ask (.await w) rest,s)
  | .done a,s => (.done a,s)
  | .fail e,s => (.fail e,s)

/-- Execute a program by itself on prepared answers, counted from the first. -/
def carryOut (memory : (q : S) → σ → AS q × σ) (await : σ → (w : W) → AW w → Option σ)
    (answers : Nat → (w : W) → AW w) : Nat → Task AS AW ε α → σ → Option (Except ε α × σ)
  | n,.ask (.memory q) rest,s =>
    carryOut memory await answers n (rest (memory q s).1) (memory q s).2
  | n,.ask (.await w) rest,s =>
    match await s w (answers n w) with
    | none => none
    | some t => carryOut memory await answers (n+1) (rest (answers n w)) t
  | _,.done a,s => some (.ok a,s)
  | _,.fail e,s => some (.error e,s)

/-- The memory and the operations begun so far, with what is left of each. -/
structure World (AS : S → Type) (AW : W → Type) (ε σ ι κ : Type) where
  shared : σ
  task : ι → Option (κ × Task AS AW ε Unit) := fun _ => none

inductive Act (AW : W → Type) (ι κ χ : Type) where
  | start (i : ι) (kind : κ)
  /-- What an operation awaits is answered. -/
  | answer (i : ι) (a : (w : W) → AW w)
  | change (c : χ)

section Steps

variable [DecidableEq ι] (y : System AS AW ε σ ι κ χ)

/-- Go on with an operation until it awaits something. -/
def World.resume (w : World AS AW ε σ ι κ) (i : ι) (kind : κ) (p : Task AS AW ε Unit) (s : σ) :
    World AS AW ε σ ι κ :=
  let r := settle (y.memory i kind) p s
  ⟨r.2,Function.update w.task i (some (kind,r.1))⟩

/-- One step, when it can be taken. -/
def step (w : World AS AW ε σ ι κ) : Act AW ι κ χ → Option (World AS AW ε σ ι κ)
  | .start i kind =>
    match w.task i with
    | none => some (w.resume y i kind (y.body i kind) w.shared)
    | some _ => none
  | .answer i a =>
    match w.task i with
    | some (kind,.ask (.await q) rest) =>
      (y.await i kind w.shared q (a q)).map fun s => w.resume y i kind (rest (a q)) s
    | _ => none
  | .change c => some {w with shared := y.change c w.shared}

def Step : World AS AW ε σ ι κ → Act AW ι κ χ → World AS AW ε σ ι κ → Prop := ofPartial (step y)

variable {y : System AS AW ε σ ι κ χ} {w w' : World AS AW ε σ ι κ} {i : ι} {kind : κ}

/-- An operation goes on to where its program settles. -/
theorem resume_of_settle {p p' : Task AS AW ε Unit} {s s' : σ}
    (h : settle (y.memory i kind) p s=(p',s')) :
    w.resume y i kind p s=⟨s',Function.update w.task i (some (kind,p'))⟩ := by
  unfold World.resume
  rw [h]

/-- Only a new operation is started. -/
theorem step_start (hs : step y w (.start i kind)=some w') :
    w.task i=none ∧ w'=w.resume y i kind (y.body i kind) w.shared := by
  unfold step at hs
  dsimp only at hs
  split at hs
  · rename_i htask
    exact ⟨htask,(Option.some.inj hs).symm⟩
  · cases hs

/-- Only what an operation awaits is answered. -/
theorem step_answer {a : (w : W) → AW w} (hs : step y w (.answer i a)=some w') :
    ∃ kind q rest s,w.task i=some (kind,.ask (.await q) rest) ∧
      y.await i kind w.shared q (a q)=some s ∧ w'=w.resume y i kind (rest (a q)) s := by
  unfold step at hs
  dsimp only at hs
  split at hs
  · rename_i kind q rest htask
    obtain ⟨s,hawait,hw⟩ := Option.map_eq_some_iff.mp hs
    exact ⟨kind,q,rest,s,htask,hawait,hw.symm⟩
  · cases hs

end Steps

/-! ## A program by itself -/

section Alone

variable {memory : (q : S) → σ → AS q × σ} {await : σ → (w : W) → AW w → Option σ}

/-- Carried out by itself from a state, whatever it is answered, the program
ends as the postcondition says. -/
def Ends (memory : (q : S) → σ → AS q × σ) (await : σ → (w : W) → AW w → Option σ)
    (post : σ → Except ε α → Prop) : Task AS AW ε α → σ → Prop
  | .done a,s => post s (.ok a)
  | .fail e,s => post s (.error e)
  | .ask (.memory q) rest,s => Ends memory await post (rest (memory q s).1) (memory q s).2
  | .ask (.await w) rest,s => ∀ a t,await s w a=some t → Ends memory await post (rest a) t

variable {post post' : σ → Except ε α → Prop} {p : Task AS AW ε α} {s t : σ}

theorem ends_atOnce (q : S) (f : AS q → Task AS AW ε α) :
    Ends memory await post (atOnce q >>= f) s ↔
      Ends memory await post (f (memory q s).1) (memory q s).2 := Iff.rfl

theorem ends_awaited (w : W) (f : AW w → Task AS AW ε α) :
    Ends memory await post (awaited w >>= f) s ↔
      ∀ a t,await s w a=some t → Ends memory await post (f a) t := Iff.rfl

theorem Ends.imp (h : Ends memory await post p s) (hpost : ∀ t x,post t x → post' t x) :
    Ends memory await post' p s := by
  induction p generalizing s with
  | done a => exact hpost s _ h
  | fail e => exact hpost s _ h
  | ask q rest ih =>
    cases q with
    | memory q => exact ih _ h
    | await w => exact fun a t ht => ih a (h a t ht)

variable {mid : σ → Except ε α → Prop}

/-- One program after the other. -/
theorem Ends.seq {post : σ → Except ε β → Prop} {f : α → Task AS AW ε β}
    (h : Ends memory await mid p s) (hrest : ∀ t a,mid t (.ok a) → Ends memory await post (f a) t)
    (herror : ∀ t e,mid t (.error e) → post t (.error e)) : Ends memory await post (p >>= f) s := by
  induction p generalizing s with
  | done a => exact hrest s a h
  | fail e => exact herror s e h
  | ask q rest ih =>
    cases q with
    | memory q => exact ih _ h
    | await w => exact fun a t ht => ih a (h a t ht)

/-- A program with a handler for what it raises. -/
theorem Ends.handled {handler : ε → Task AS AW ε α} (h : Ends memory await mid p s)
    (hok : ∀ t a,mid t (.ok a) → post t (.ok a))
    (herror : ∀ t e,mid t (.error e) → Ends memory await post (handler e) t) :
    Ends memory await post (p.recover handler) s := by
  induction p generalizing s with
  | done a => exact hok s a h
  | fail e => exact herror s e h
  | ask q rest ih =>
    cases q with
    | memory q => exact ih _ h
    | await w => exact fun a t ht => ih a (h a t ht)

/-- What is carried out ends so. -/
theorem Ends.carryOut {answers : Nat → (w : W) → AW w} {n : Nat} {x : Except ε α}
    (h : Ends memory await post p s) (hrun : carryOut memory await answers n p s=some (x,t)) :
    post t x := by
  induction p generalizing n s with
  | done a =>
    cases hrun
    exact h
  | fail e =>
    cases hrun
    exact h
  | ask q rest ih =>
    cases q with
    | memory q => exact ih _ h hrun
    | await w =>
      unfold CooperativePrograms.carryOut at hrun
      split at hrun
      · cases hrun
      · rename_i u hu
        exact ih _ (h _ u hu) hrun

end Alone

/-! ## What operations rely on and keep -/

/-- An invariant of the memory, the changes an operation has to reckon with while
it waits, the questions it may put to the memory, and the answers that come in
time. Questions and answers of these kinds keep the invariant. -/
structure Rules (y : System AS AW ε σ ι κ χ) where
  invariant : σ → Prop
  rely : σ → σ → Prop
  allowed : ι → κ → σ → S → Prop
  timely : ι → κ → σ → (w : W) → AW w → Bool
  refl : ∀ s,rely s s
  trans : ∀ {s t u},rely s t → rely t u → rely s u
  memory : ∀ i k q s,invariant s → allowed i k s q →
    invariant (y.memory i k q s).2 ∧ rely s (y.memory i k q s).2
  await : ∀ i k s w a t,invariant s → timely i k s w a=true → y.await i k s w a=some t →
    invariant t ∧ rely s t
  change : ∀ c s,invariant s → invariant (y.change c s) ∧ rely s (y.change c s)

section Outlines

variable {y : System AS AW ε σ ι κ χ} (r : Rules y) (i : ι) (k : κ)

/-- From a state on the program puts only allowed questions, whatever happens
while it waits, and ends as the postcondition says. -/
def Outline (post : σ → Except ε α → Prop) : Task AS AW ε α → σ → Prop
  | .done a,s => post s (.ok a)
  | .fail e,s => post s (.error e)
  | .ask (.memory q) rest,s =>
    r.allowed i k s q ∧ Outline post (rest (y.memory i k q s).1) (y.memory i k q s).2
  | .ask (.await w) rest,s => ∀ t a u,r.rely s t → r.invariant t → r.timely i k t w a=true →
    y.await i k t w a=some u → Outline post (rest a) u

variable {r i k} {post post' : σ → Except ε α → Prop} {p : Task AS AW ε α} {s t : σ}

/-- A question to the memory is answered where it is put. -/
theorem outline_atOnce (q : S) (f : AS q → Task AS AW ε α) :
    Outline r i k post (atOnce q >>= f) s ↔
      r.allowed i k s q ∧ Outline r i k post (f (y.memory i k q s).1) (y.memory i k q s).2 :=
  Iff.rfl

/-- An answer comes in a state that the rely condition leads to. -/
theorem outline_awaited (w : W) (f : AW w → Task AS AW ε α) :
    Outline r i k post (awaited w >>= f) s ↔
      ∀ t a u,r.rely s t → r.invariant t → r.timely i k t w a=true → y.await i k t w a=some u →
        Outline r i k post (f a) u :=
  Iff.rfl

/-- The rule of consequence, with the invariant at hand. -/
theorem Outline.imp (h : Outline r i k post p s) (hs : r.invariant s)
    (hpost : ∀ t x,r.invariant t → post t x → post' t x) : Outline r i k post' p s := by
  induction p generalizing s with
  | done a => exact hpost s _ hs h
  | fail e => exact hpost s _ hs h
  | ask q rest ih =>
    cases q with
    | memory q => exact ⟨h.1,ih _ h.2 (r.memory i k q s hs h.1).1⟩
    | await w =>
      intro t a u hrely ht hin hu
      exact ih a (h t a u hrely ht hin hu) (r.await i k t w a u ht hin hu).1

variable {f : α → Task AS AW ε β}

/-- The rest of a sequence is outlined where its first part returns. -/
theorem Outline.bind {post : σ → Except ε β → Prop} (h : Outline r i k (fun t x => match x with
      | .ok a => Outline r i k post (f a) t
      | .error e => post t (.error e)) p s) : Outline r i k post (p >>= f) s := by
  induction p generalizing s with
  | done a => exact h
  | fail e => exact h
  | ask q rest ih =>
    cases q with
    | memory q => exact ⟨h.1,ih _ h.2⟩
    | await w => exact fun t a u hrely ht hin hu => ih a (h t a u hrely ht hin hu)

variable {handler : ε → Task AS AW ε α}

/-- A handler takes over where the program raises. -/
theorem Outline.recover (h : Outline r i k (fun t x => match x with
      | .ok a => post t (.ok a)
      | .error e => Outline r i k post (handler e) t) p s) :
    Outline r i k post (p.recover handler) s := by
  induction p generalizing s with
  | done a => exact h
  | fail e => exact h
  | ask q rest ih =>
    cases q with
    | memory q => exact ⟨h.1,ih _ h.2⟩
    | await w => exact fun t a u hrely ht hin hu => ih a (h t a u hrely ht hin hu)

/-- A fact that the rely condition keeps is kept by every program. -/
theorem Outline.frame {F : σ → Prop} (h : Outline r i k post p s) (hs : r.invariant s) (hF : F s)
    (hstable : ∀ t u,r.rely t u → F t → F u) :
    Outline r i k (fun t x => post t x ∧ F t) p s := by
  induction p generalizing s with
  | done a => exact ⟨h,hF⟩
  | fail e => exact ⟨h,hF⟩
  | ask q rest ih =>
    cases q with
    | memory q =>
      obtain ⟨hnext,hrely⟩ := r.memory i k q s hs h.1
      exact ⟨h.1,ih _ h.2 hnext (hstable _ _ hrely hF)⟩
    | await w =>
      intro t a u hrely ht hin hu
      obtain ⟨hnext,hrely'⟩ := r.await i k t w a u ht hin hu
      exact ih a (h t a u hrely ht hin hu) hnext (hstable _ _ hrely' (hstable _ _ hrely hF))

/-- Where a program ends, the invariant holds and what it relied on has happened. -/
theorem Outline.ended (h : Outline r i k post p s) (hs : r.invariant s) :
    Outline r i k (fun t x => post t x ∧ r.invariant t ∧ r.rely s t) p s := by
  have hrely := h.frame hs (r.refl s) fun t u htu hst => r.trans hst htu
  exact hrely.imp hs fun t x ht hx => ⟨hx.1,ht,hx.2⟩

variable {mid : σ → Except ε α → Prop}

/-- One program after the other. -/
theorem Outline.seq {post : σ → Except ε β → Prop} (h : Outline r i k mid p s) (hs : r.invariant s)
    (hrest : ∀ t a,mid t (.ok a) → r.invariant t → r.rely s t → Outline r i k post (f a) t)
    (herror : ∀ t e,mid t (.error e) → r.invariant t → r.rely s t → post t (.error e)) :
    Outline r i k post (p >>= f) s := by
  refine Outline.bind ((h.ended hs).imp hs fun t x _ hx => ?_)
  cases x with
  | ok a => exact hrest t a hx.1 hx.2.1 hx.2.2
  | error e => exact herror t e hx.1 hx.2.1 hx.2.2

/-- A program with a handler for what it raises. -/
theorem Outline.handled (h : Outline r i k mid p s) (hs : r.invariant s)
    (hok : ∀ t a,mid t (.ok a) → r.invariant t → r.rely s t → post t (.ok a))
    (herror : ∀ t e,mid t (.error e) → r.invariant t → r.rely s t →
      Outline r i k post (handler e) t) : Outline r i k post (p.recover handler) s := by
  refine Outline.recover ((h.ended hs).imp hs fun t x _ hx => ?_)
  cases x with
  | ok a => exact hok t a hx.1 hx.2.1 hx.2.2
  | error e => exact herror t e hx.1 hx.2.1 hx.2.2

/-- What a waiting program is outlined by survives what it relies on. -/
theorem Outline.stable {w : W} {rest : AW w → Task AS AW ε α}
    (h : Outline r i k post (.ask (.await w) rest) s) (hrely : r.rely s t) :
    Outline r i k post (.ask (.await w) rest) t :=
  fun u a v hu hinv hin hv => h u a v (r.trans hrely hu) hinv hin hv

/-- Up to the next await a program keeps its outline and the invariant. -/
theorem Outline.settle (h : Outline r i k post p s) (hs : r.invariant s) :
    Outline r i k post (settle (y.memory i k) p s).1 (settle (y.memory i k) p s).2 ∧
      r.invariant (CooperativePrograms.settle (y.memory i k) p s).2 ∧
      r.rely s (CooperativePrograms.settle (y.memory i k) p s).2 := by
  induction p generalizing s with
  | done a => exact ⟨h,hs,r.refl s⟩
  | fail e => exact ⟨h,hs,r.refl s⟩
  | ask q rest ih =>
    cases q with
    | memory q =>
      obtain ⟨hnext,hrely⟩ := r.memory i k q s hs h.1
      obtain ⟨hout,hinv,hrest⟩ := ih _ h.2 hnext
      exact ⟨hout,hinv,r.trans hrely hrest⟩
    | await w => exact ⟨h,hs,r.refl s⟩

end Outlines

/-! ## Runs -/

section Runs

variable [DecidableEq ι] {y : System AS AW ε σ ι κ χ} {r : Rules y} {w w' : World AS AW ε σ ι κ}
  {a : Act AW ι κ χ} {as : List (Act AW ι κ χ)}

/-- An answer comes in time. -/
def inTime (r : Rules y) (w : World AS AW ε σ ι κ) : Act AW ι κ χ → Bool
  | .answer i a =>
    match w.task i with
    | some (k,.ask (.await q) _) => r.timely i k w.shared q (a q)
    | _ => true
  | _ => true

/-- The invariant of the memory, and what is left of every operation begun so far
awaits an answer and is outlined. -/
structure Orderly (r : Rules y) (w : World AS AW ε σ ι κ) : Prop where
  shared : r.invariant w.shared
  waiting : ∀ i k q rest,w.task i=some (k,.ask q rest) →
    (∃ v,q=.await v) ∧ Outline r i k (fun _ _ => True) (.ask q rest) w.shared

variable {s : σ}

/-- Where a program stops it awaits an answer. -/
theorem settle_waits {memory : (q : S) → σ → AS q × σ} {p : Task AS AW ε α} {q : Ask S W}
    {rest : Ask.Answer AS AW q → Task AS AW ε α} (h : (settle memory p s).1=.ask q rest) :
    ∃ v,q=.await v := by
  induction p generalizing s with
  | done a => cases h
  | fail e => cases h
  | ask q' rest' ih =>
    cases q' with
    | memory q' => exact ih _ h
    | await v =>
      cases h
      exact ⟨v,rfl⟩

/-- An operation that goes on keeps order. -/
theorem Orderly.resume {i : ι} {k : κ} {p : Task AS AW ε Unit} (h : Orderly r w)
    (hs : r.invariant s) (hrely : r.rely w.shared s) (hp : Outline r i k (fun _ _ => True) p s) :
    Orderly r (w.resume y i k p s) := by
  obtain ⟨hout,hinv,hrest⟩ := hp.settle hs
  refine ⟨hinv,fun j k' q rest htask => ?_⟩
  change Function.update w.task i _ j=_ at htask
  by_cases hj : j=i
  · subst hj
    rw [Function.update_self] at htask
    obtain ⟨rfl,hprogram⟩ := Prod.mk.inj (Option.some.inj htask)
    rw [hprogram] at hout
    exact ⟨settle_waits hprogram,hout⟩
  · rw [Function.update_of_ne hj] at htask
    obtain ⟨⟨v,rfl⟩,hold⟩ := h.waiting j k' q rest htask
    exact ⟨⟨v,rfl⟩,hold.stable (r.trans hrely hrest)⟩

/-- One step keeps order, if its answer comes in time. -/
theorem Orderly.step (h : Orderly r w)
    (hbody : ∀ i k s,r.invariant s → Outline r i k (fun _ _ => True) (y.body i k) s)
    (hs : Step y w a w') (hin : inTime r w a=true) : Orderly r w' := by
  cases a with
  | start i k =>
    obtain ⟨-,rfl⟩ := step_start hs
    exact h.resume h.shared (r.refl _) (hbody i k _ h.shared)
  | answer i a =>
    obtain ⟨k,q,rest,s,htask,hanswer,rfl⟩ := step_answer hs
    have htime : r.timely i k w.shared q (a q)=true := by simpa [inTime,htask] using hin
    obtain ⟨hinv,hrely⟩ := r.await i k _ q (a q) s h.shared htime hanswer
    have hrest := (h.waiting i k _ rest htask).2 _ (a q) s (r.refl _) h.shared htime hanswer
    exact h.resume hinv hrely hrest
  | change c =>
    cases hs
    obtain ⟨hinv,hrely⟩ := r.change c w.shared h.shared
    refine ⟨hinv,fun j k q rest htask => ?_⟩
    obtain ⟨⟨v,rfl⟩,hold⟩ := h.waiting j k q rest htask
    exact ⟨⟨v,rfl⟩,hold.stable hrely⟩

/-- While every answer comes in time, operations that are outlined keep the
invariant in every interleaving. -/
theorem invariant_of_run (r : Rules y)
    (hbody : ∀ i k s,r.invariant s → Outline r i k (fun _ _ => True) (y.body i k) s)
    (hs : r.invariant s)
    (hrun : Run (guarded (Step y) fun w a => inTime r w a=true) {shared := s} as w) :
    r.invariant w.shared := by
  have horderly : Orderly r w := by
    refine hrun.guarded_invariant ⟨hs,fun i k q rest h => by cases h⟩ fun v a v' hv hstep hin => ?_
    exact hv.step hbody hstep hin
  exact horderly.shared

end Runs

end Voyagent.CooperativePrograms
