import Voyagent.GeneratorTraces

/-!
# Relations along a run

A relation between the state a body starts from, what it has yielded and the
state it is in. Where the relation composes, it holds at every yield and at
the end as soon as it holds of each instruction, whoever consumes the body and
however early the consumer leaves.
-/

namespace Voyagent.GeneratorRelations

open GeneratorTraces

variable {σ ε κ α β : Type}

/-- The relation holds of doing nothing and of one run after another. -/
structure Composable (J : σ → List ε → σ → Prop) : Prop where
  refl : ∀ s,J s [] s
  trans : ∀ {s t u : σ} {es es' : List ε},J s es t → J t es' u → J s (es++es') u

/-- What a consumer has taken, and the state it leaves behind: up to a yield,
or the whole run. -/
def taken (t : Trace σ ε κ α) : Option Nat → List ε × σ
  | none => (t.events,t.state)
  | some n =>
    match t.yields.drop n with
    | [] => (t.events,t.state)
    | y::_ => ((t.yields.take n++[y]).map Prod.fst,y.2)

/-- The relation holds at every yield of a run and at its end. -/
structure Traced (J : σ → List ε → σ → Prop) (s : σ) (t : Trace σ ε κ α) : Prop where
  yields : ∀ pre y post,t.yields=pre++y::post → J s ((pre++[y]).map Prod.fst) y.2
  ended : J s t.events t.state

/-- The relation holds along every run, and what is returned meets a condition. -/
def Along (J : σ → List ε → σ → Prop) (g : Gen σ ε κ α) (Q : α → Prop) : Prop :=
  ∀ s,Traced J s (g s) ∧ ∀ a,(g s).exit=.ok a → Q a

variable {J : σ → List ε → σ → Prop} {Q : α → Prop} {R : β → Prop} {g : Gen σ ε κ α}
variable {rest : α → Gen σ ε κ β} {s : σ}

/-- Wherever a consumer stops, the relation holds of what it took. -/
theorem Traced.taken {t : Trace σ ε κ α} (h : Traced J s t) (stop : Option Nat) :
    J s (taken t stop).1 (taken t stop).2 := by
  unfold GeneratorRelations.taken
  cases stop with
  | none => exact h.ended
  | some n =>
    dsimp only
    cases hdrop : t.yields.drop n with
    | nil => exact h.ended
    | cons y post =>
      have hsplit : t.yields=t.yields.take n++y::post := by
        rw [← hdrop,List.take_append_drop]
      exact h.yields _ _ _ hsplit

variable {t : Trace σ ε κ α}

theorem Traced.silent (hnone : t.yields=[]) (h : J s [] t.state) : Traced J s t := by
  constructor
  · intro pre y post hsplit
    rw [hnone] at hsplit
    exact absurd hsplit.symm (List.append_ne_nil_of_right_ne_nil _ (List.cons_ne_nil _ _))
  · rw [Trace.events,hnone]
    exact h

/-- A run followed by a run. -/
theorem Traced.append (hJ : Composable J) {t' : Trace σ ε κ β} (h : Traced J s t)
    (h' : Traced J t.state t') :
    Traced J s (⟨t.yields++t'.yields,t'.exit,t'.state⟩ : Trace σ ε κ β) := by
  constructor
  · intro pre y post hsplit
    rcases List.append_eq_append_iff.mp hsplit with ⟨mid,hpre,hmid⟩|⟨mid,hleft,hright⟩
    · have hj := hJ.trans h.ended (h'.yields mid y post hmid)
      rw [hpre,List.append_assoc,List.map_append]
      exact hj
    · cases mid with
      | nil =>
        rw [List.append_nil] at hleft
        have hj := hJ.trans h.ended (h'.yields [] y post hright.symm)
        rw [← hleft,List.map_append]
        exact hj
      | cons z mid =>
        obtain ⟨rfl,-⟩ := List.cons.inj hright
        exact h.yields pre y mid hleft
  · have hj := hJ.trans h.ended h'.ended
    rw [Trace.events,List.map_append]
    exact hj

/-- Replacing the state. -/
theorem Along.update {f : σ → σ} (h : ∀ s,J s [] (f s)) :
    Along J (GeneratorTraces.update f : Gen σ ε κ Unit) fun _ => True :=
  fun s => ⟨.silent rfl (h s),fun _ _ => trivial⟩

variable {a : α}

theorem Along.pure (hJ : Composable J) (ha : Q a) : Along J (Pure.pure a : Gen σ ε κ α) Q :=
  fun s => ⟨.silent rfl (hJ.refl s),fun _ h => Except.ok.inj h ▸ ha⟩

theorem Along.fail (hJ : Composable J) {k : κ} :
    Along J (GeneratorTraces.fail k : Gen σ ε κ α) Q :=
  fun s => ⟨.silent rfl (hJ.refl s),fun _ h => (by cases h)⟩

variable {x : Except κ α}

theorem Along.ofExcept (hJ : Composable J) (hx : ∀ a,x=.ok a → Q a) :
    Along J (GeneratorTraces.ofExcept x : Gen σ ε κ α) Q := by
  cases x with
  | ok a => exact Along.pure hJ (hx a rfl)
  | error k => exact Along.fail hJ

theorem Along.read (hJ : Composable J) {f : σ → α} :
    Along J (GeneratorTraces.read f : Gen σ ε κ α) fun _ => True :=
  fun s => ⟨.silent rfl (hJ.refl s),fun _ _ => trivial⟩

/-- Yielding a value. -/
theorem Along.emit {ev : ε} (h : ∀ s,J s [ev] s) :
    Along J (GeneratorTraces.emit ev : Gen σ ε κ Unit) fun _ => True := by
  refine fun s => ⟨⟨fun pre y post hsplit => ?_,h s⟩,fun _ _ => trivial⟩
  obtain ⟨rfl,hy⟩ := List.append_eq_singleton_iff.mp hsplit.symm |>.resolve_right
    (fun hright => absurd hright.2 (List.cons_ne_nil _ _))
  obtain ⟨rfl,-⟩ := List.cons.inj hy
  exact h s

/-- Sequencing composes the relation. -/
theorem Along.bind (hJ : Composable J) (hg : Along J g Q) (hr : ∀ a,Q a → Along J (rest a) R) :
    Along J (g >>= rest) R := by
  intro s
  obtain ⟨hg,hret⟩ := hg s
  rw [bind_apply,Trace.andThen]
  cases hexit : (g s).exit with
  | error k => exact ⟨⟨hg.yields,hg.ended⟩,fun a h => (by cases h)⟩
  | ok a =>
    obtain ⟨hrest,hret'⟩ := hr a (hret a hexit) (g s).state
    exact ⟨hg.append hJ hrest,hret'⟩

/-- Yielding a list of values. -/
theorem Along.emitAll (hJ : Composable J) {evs : List ε} (h : ∀ ev∈evs,∀ s,J s [ev] s) :
    Along J (GeneratorTraces.emitAll evs : Gen σ ε κ Unit) fun _ => True := by
  induction evs with
  | nil => exact Along.pure hJ trivial
  | cons ev evs ih =>
    exact Along.bind hJ (Along.emit (h ev List.mem_cons_self)) fun _ _ =>
      ih fun e he => h e (List.mem_cons_of_mem _ he)

/-- Handling composes the relation of what was done before the signal. -/
theorem Along.recover (hJ : Composable J) {handler : κ → Option (Gen σ ε κ α)} (hg : Along J g Q)
    (hh : ∀ k h,handler k=some h → Along J h Q) :
    Along J (GeneratorTraces.recover g handler) Q := by
  intro s
  unfold GeneratorTraces.recover
  cases hexit : (g s).exit with
  | ok a => exact hg s
  | error k =>
    dsimp only
    cases hk : handler k with
    | none => exact hg s
    | some h =>
      obtain ⟨hrest,hret⟩ := hh k h hk (g s).state
      exact ⟨(hg s).1.append hJ hrest,hret⟩

/-- A consumer that stops leaves the body at a yield. -/
theorem Along.forwardUntil {stop : ε → Bool} (hg : Along J g Q) :
    Along J (GeneratorTraces.forwardUntil stop g) fun c => ∀ a,c.result=some a → Q a := by
  intro s
  obtain ⟨⟨hyields,hend⟩,hret⟩ := hg s
  have hsplit := List.takeWhile_append_dropWhile (p:=fun y : ε × σ => !stop y.1) (l:=(g s).yields)
  unfold GeneratorTraces.forwardUntil
  dsimp only
  cases hd : (g s).yields.dropWhile fun y => !stop y.1 with
  | cons y ys =>
    rw [hd] at hsplit
    refine ⟨⟨fun pre z post hpre => ?_,hyields _ _ _ hsplit.symm⟩,fun c hc a ha => ?_⟩
    · change (g s).yields.takeWhile (fun y => !stop y.1)++[y]=pre++z::post at hpre
      refine hyields pre z (post++ys) ?_
      have hcons : ∀ l : List (ε × σ),l++y::ys=(l++[y])++ys := fun l => by
        rw [List.append_assoc]
        rfl
      rw [← hsplit,hcons,hpre,List.append_assoc]
      rfl
    · cases hc
      cases ha
  | nil =>
    rw [hd,List.append_nil] at hsplit
    rw [hsplit]
    cases hexit : (g s).exit with
    | error k => exact ⟨⟨hyields,hend⟩,fun c hc => (by cases hc)⟩
    | ok a =>
      refine ⟨⟨hyields,hend⟩,fun c hc b hb => ?_⟩
      cases hc
      cases hb
      exact hret _ hexit

/-! ## Counted yields -/

/-- No run yields more than `n` values that count. -/
def AtMost (p : ε → Bool) (n : ℕ) (g : Gen σ ε κ α) : Prop := ∀ s,(g s).events.countP p ≤ n

variable {p : ε → Bool} {m n : ℕ}

theorem AtMost.mono (h : AtMost p m g) (hmn : m ≤ n) : AtMost p n g := fun s => (h s).trans hmn

theorem AtMost.pure : AtMost p 0 (Pure.pure a : Gen σ ε κ α) := fun _ => Nat.le_refl 0

theorem AtMost.fail {k : κ} : AtMost p 0 (GeneratorTraces.fail k : Gen σ ε κ α) :=
  fun _ => Nat.le_refl 0

theorem AtMost.ofExcept : AtMost p 0 (GeneratorTraces.ofExcept x : Gen σ ε κ α) := by
  cases x with
  | ok a => exact AtMost.pure
  | error k => exact AtMost.fail

/-- Sequencing adds what each part may yield. -/
theorem AtMost.bind (hg : AtMost p m g) (hr : ∀ a,AtMost p n (rest a)) :
    AtMost p (m+n) (g >>= rest) := by
  intro s
  rw [bind_apply,Trace.andThen]
  cases hexit : (g s).exit with
  | error k => exact (hg s).trans (Nat.le_add_right m n)
  | ok a =>
    change (((g s).yields++(rest a (g s).state).yields).map Prod.fst).countP p ≤ m+n
    rw [List.map_append,List.countP_append]
    exact Nat.add_le_add (hg s) (hr a (g s).state)

/-- A part that yields no such event leaves the count to what follows. -/
theorem AtMost.quiet_bind (hg : AtMost p 0 g) (hr : ∀ a,AtMost p n (rest a)) :
    AtMost p n (g >>= rest) := by
  have hbind := hg.bind hr
  rwa [Nat.zero_add] at hbind

/-- And what follows leaves it to the part before it. -/
theorem AtMost.bind_quiet (hg : AtMost p m g) (hr : ∀ a,AtMost p 0 (rest a)) :
    AtMost p m (g >>= rest) := hg.bind hr

/-! ## Selected yields -/

/-- From every state the run ends the same way, and the yields that count are
the same. -/
def Settles (p : ε → Bool) (g : Gen σ ε κ α) (es : List ε) (x : Except κ α) : Prop :=
  ∀ s,(g s).events.filter p=es ∧ (g s).exit=x

variable {es es' : List ε}

theorem Settles.pure : Settles p (Pure.pure a : Gen σ ε κ α) [] (.ok a) :=
  fun _ => ⟨rfl,rfl⟩

theorem Settles.fail {k : κ} : Settles p (GeneratorTraces.fail k : Gen σ ε κ α) [] (.error k) :=
  fun _ => ⟨rfl,rfl⟩

variable {y : Except κ β}

/-- Sequencing lists what each part yields. -/
theorem Settles.bind (hg : Settles p g es (.ok a)) (hr : Settles p (rest a) es' y) :
    Settles p (g >>= rest) (es++es') y := by
  intro s
  obtain ⟨hyields,hexit⟩ := hg s
  obtain ⟨hyields',hexit'⟩ := hr (g s).state
  rw [bind_apply,Trace.andThen,hexit]
  refine ⟨?_,hexit'⟩
  change (((g s).yields++(rest a (g s).state).yields).map Prod.fst).filter p=es++es'
  rw [List.map_append,List.filter_append]
  exact congrArg₂ (·++·) hyields hyields'

/-- A part that yields nothing that counts leaves it to what follows. -/
theorem Settles.quiet_bind (hg : Settles p g [] (.ok a)) (hr : Settles p (rest a) es' y) :
    Settles p (g >>= rest) es' y := hg.bind hr

/-- A signal ends the sequence. -/
theorem Settles.bind_error {k : κ} (hg : Settles p g es (.error k)) :
    Settles p (g >>= rest) es (.error k) := by
  intro s
  obtain ⟨hyields,hexit⟩ := hg s
  rw [bind_apply,Trace.andThen,hexit]
  exact ⟨hyields,rfl⟩

end Voyagent.GeneratorRelations
