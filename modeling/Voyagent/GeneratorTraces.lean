import Mathlib.Data.List.TakeWhile

/-!
# Finished runs of generators over a shared state

A generator is read through the list of values it yields, each with the
shared state it is suspended in, and the way it ends. A consumer that stops
early leaves the state of the last yield it took, so one finished run gives
every shorter consumption as well. Triples with a condition on every yield
are the only proof rules; nothing here names a particular program.
-/

namespace Voyagent.GeneratorTraces

/-- One finished run: what was yielded, how it ended, the state it left. -/
structure Trace (σ ε κ α : Type) where
  /-- Yielded values in order, each with the state at its suspension. -/
  yields : List (ε × σ)
  /-- Returned value, or the signal that ended the run. -/
  exit : Except κ α
  /-- Shared state after the last instruction executed. -/
  state : σ

/-- The yielded values alone. -/
def Trace.events {σ ε κ α : Type} (t : Trace σ ε κ α) : List ε := t.yields.map Prod.fst

/-- A generator body: a state to its finished run. -/
def Gen (σ ε κ α : Type) : Type := σ → Trace σ ε κ α

variable {σ ε κ α β : Type}

/-- Continue a run with the rest of the body when it returned a value. -/
def Trace.andThen (t : Trace σ ε κ α) (rest : α → Gen σ ε κ β) : Trace σ ε κ β :=
  match t.exit with
  | .ok a => ⟨t.yields++(rest a t.state).yields,(rest a t.state).exit,(rest a t.state).state⟩
  | .error k => ⟨t.yields,.error k,t.state⟩

instance : Monad (Gen σ ε κ) where
  pure a := fun s => ⟨[],.ok a,s⟩
  bind g rest := fun s => (g s).andThen rest

/-- Yield one value and suspend in the current state. -/
def emit (ev : ε) : Gen σ ε κ Unit := fun s => ⟨[(ev,s)],.ok (),s⟩

/-- Yield a list of values in order. -/
def emitAll : List ε → Gen σ ε κ Unit
  | [] => pure ()
  | ev::evs => do emit ev; emitAll evs

/-- Replace the shared state without suspending. -/
def update (f : σ → σ) : Gen σ ε κ Unit := fun s => ⟨[],.ok (),f s⟩

/-- Read a component of the shared state. -/
def read (f : σ → α) : Gen σ ε κ α := fun s => ⟨[],.ok (f s),s⟩

/-- End the run with a signal. -/
def fail (k : κ) : Gen σ ε κ α := fun s => ⟨[],.error k,s⟩

/-- An `Except` value as a body: its value, or its signal. -/
def ofExcept : Except κ α → Gen σ ε κ α
  | .ok a => pure a
  | .error k => fail k

/-- Handle the signals the handler accepts; the others pass through. Effects
made before the signal stay. -/
def recover (g : Gen σ ε κ α) (handler : κ → Option (Gen σ ε κ α)) : Gen σ ε κ α := fun s =>
  match (g s).exit with
  | .ok _ => g s
  | .error k =>
    match handler k with
    | none => g s
    | some h => ⟨(g s).yields++(h (g s).state).yields,(h (g s).state).exit,(h (g s).state).state⟩

/-- What a consumer took from an inner generator. `result` is absent when
the consumer stopped at a yield. -/
structure Consumed (ε α : Type) where
  /-- Values taken, the stopping one included. -/
  events : List ε
  /-- Value returned by the inner generator when it was not stopped. -/
  result : Option α

/-- Re-yield an inner generator until a value asks to stop. The inner body
executes nothing beyond the yield at which it was left. -/
def forwardUntil (stop : ε → Bool) (g : Gen σ ε κ α) : Gen σ ε κ (Consumed ε α) := fun s =>
  let passed := (g s).yields.takeWhile fun y => !stop y.1
  match (g s).yields.dropWhile fun y => !stop y.1 with
  | y::_ => ⟨passed++[y],.ok ⟨(passed++[y]).map Prod.fst,none⟩,y.2⟩
  | [] =>
    match (g s).exit with
    | .ok a => ⟨passed,.ok ⟨passed.map Prod.fst,some a⟩,(g s).state⟩
    | .error k => ⟨passed,.error k,(g s).state⟩

variable (evs : List ε) (ys : List (ε × σ)) (k : κ) (a : α) (s : σ)

@[simp] theorem pure_apply : (pure a : Gen σ ε κ α) s=⟨[],.ok a,s⟩ := rfl

@[simp] theorem bind_apply (g : Gen σ ε κ α) (rest : α → Gen σ ε κ β) (s : σ) :
    (g >>= rest) s=(g s).andThen rest := rfl

@[simp] theorem emit_apply (ev : ε) (s : σ) :
    (emit ev : Gen σ ε κ Unit) s=⟨[(ev,s)],.ok (),s⟩ := rfl

@[simp] theorem update_apply (f : σ → σ) (s : σ) :
    (update f : Gen σ ε κ Unit) s=⟨[],.ok (),f s⟩ := rfl

@[simp] theorem read_apply (f : σ → α) (s : σ) :
    (read f : Gen σ ε κ α) s=⟨[],.ok (f s),s⟩ := rfl

@[simp] theorem ofExcept_ok : (ofExcept (.ok a) : Gen σ ε κ α)=pure a := rfl

@[simp] theorem ofExcept_error : (ofExcept (.error k) : Gen σ ε κ α)=fail k := rfl

@[simp] theorem andThen_ok (rest : α → Gen σ ε κ β) :
    (⟨ys,.ok a,s⟩ : Trace σ ε κ α).andThen rest=
      ⟨ys++(rest a s).yields,(rest a s).exit,(rest a s).state⟩ := rfl

@[simp] theorem andThen_error (rest : α → Gen σ ε κ β) :
    (⟨ys,.error k,s⟩ : Trace σ ε κ α).andThen rest=⟨ys,.error k,s⟩ := rfl

/-- A returned value is passed on. -/
theorem pure_bind_apply (rest : α → Gen σ ε κ β) (s : σ) :
    ((pure a : Gen σ ε κ α) >>= rest) s=rest a s := rfl

/-- A signal skips the rest. -/
theorem fail_bind_apply (rest : α → Gen σ ε κ β) (s : σ) :
    ((fail k : Gen σ ε κ α) >>= rest) s=⟨[],.error k,s⟩ := rfl

/-- The values yielded in one state. -/
@[simp] theorem fst_yields : (evs.map (·,s)).map Prod.fst=evs := by
  rw [List.map_map]
  exact List.map_id evs

/-- A list of values is yielded whole, in one unchanged state. -/
@[simp] theorem emitAll_apply :
    (emitAll evs : Gen σ ε κ Unit) s=⟨evs.map (·,s),.ok (),s⟩ := by
  induction evs with
  | nil => rfl
  | cons ev evs ih => simp only [emitAll,bind_apply,emit_apply,andThen_ok,ih,List.map_cons,
      List.singleton_append]

/-- The triple: from a state in `P` every yield satisfies `Y`, a normal
return ends in `Q` and a signal ends in `E`. -/
def Sat (P : σ → Prop) (g : Gen σ ε κ α) (Y : ε → σ → Prop) (Q : α → σ → Prop)
    (E : κ → σ → Prop) : Prop :=
  ∀ s,P s → (∀ y∈(g s).yields,Y y.1 y.2) ∧
    match (g s).exit with
    | .ok a => Q a (g s).state
    | .error k => E k (g s).state

variable {P P' : σ → Prop} {Y Y' : ε → σ → Prop} {Q Q' : α → σ → Prop} {E E' : κ → σ → Prop}
variable {R : β → σ → Prop} {g : Gen σ ε κ α} {rest : α → Gen σ ε κ β}

theorem Sat.conseq (h : Sat P' g Y' Q' E') (hP : ∀ s,P s → P' s) (hY : ∀ ev s,Y' ev s → Y ev s)
    (hQ : ∀ a s,Q' a s → Q a s) (hE : ∀ k s,E' k s → E k s) : Sat P g Y Q E := by
  intro s hs
  obtain ⟨hy,hx⟩ := h s (hP s hs)
  refine ⟨fun y hm => hY _ _ (hy y hm),?_⟩
  cases hg : (g s).exit with
  | ok a => rw [hg] at hx; exact hQ _ _ hx
  | error k => rw [hg] at hx; exact hE _ _ hx

/-- A fact in the start condition that does not depend on the state. -/
theorem Sat.of_fact {c : Prop} (h : c → Sat P g Y Q E) : Sat (fun s => c ∧ P s) g Y Q E :=
  fun s hs => h hs.1 s hs.2

theorem Sat.of_fact_right {c : Prop} (h : c → Sat P g Y Q E) : Sat (fun s => P s ∧ c) g Y Q E :=
  fun s hs => h hs.2 s hs.1

/-- A witness in the start condition. -/
theorem Sat.of_exists {ι : Type} {S : ι → σ → Prop} (h : ∀ i,Sat (S i) g Y Q E) :
    Sat (fun s => ∃ i,S i s) g Y Q E := fun s ⟨i,hi⟩ => h i s hi

theorem Sat.pure {a : α} (h : ∀ s,P s → Q a s) : Sat P (Pure.pure a : Gen σ ε κ α) Y Q E :=
  fun s hs => ⟨fun _ hm => absurd hm List.not_mem_nil,h s hs⟩

theorem Sat.emit {ev : ε} {U : Unit → σ → Prop} (hY : ∀ s,P s → Y ev s) (hQ : ∀ s,P s → U () s) :
    Sat P (GeneratorTraces.emit ev : Gen σ ε κ Unit) Y U E := by
  intro s hs
  refine ⟨fun y hm => ?_,hQ s hs⟩
  rw [List.mem_singleton.mp hm]
  exact hY s hs

theorem Sat.emitAll {evs : List ε} {U : Unit → σ → Prop} (hY : ∀ ev∈evs,∀ s,P s → Y ev s)
    (hQ : ∀ s,P s → U () s) : Sat P (GeneratorTraces.emitAll evs : Gen σ ε κ Unit) Y U E := by
  intro s hs
  rw [emitAll_apply]
  refine ⟨fun y hm => ?_,hQ s hs⟩
  obtain ⟨ev,hev,rfl⟩ := List.mem_map.mp hm
  exact hY ev hev s hs

theorem Sat.update {f : σ → σ} {U : Unit → σ → Prop} (h : ∀ s,P s → U () (f s)) :
    Sat P (GeneratorTraces.update f : Gen σ ε κ Unit) Y U E :=
  fun s hs => ⟨fun _ hm => absurd hm List.not_mem_nil,h s hs⟩

theorem Sat.read {f : σ → α} (h : ∀ s,P s → Q (f s) s) :
    Sat P (GeneratorTraces.read f : Gen σ ε κ α) Y Q E :=
  fun s hs => ⟨fun _ hm => absurd hm List.not_mem_nil,h s hs⟩

theorem Sat.fail {k : κ} (h : ∀ s,P s → E k s) :
    Sat P (GeneratorTraces.fail k : Gen σ ε κ α) Y Q E :=
  fun s hs => ⟨fun _ hm => absurd hm List.not_mem_nil,h s hs⟩

theorem Sat.ofExcept {x : Except κ α} (hQ : ∀ a s,x=.ok a → P s → Q a s)
    (hE : ∀ k s,x=.error k → P s → E k s) :
    Sat P (GeneratorTraces.ofExcept x : Gen σ ε κ α) Y Q E := by
  cases x with
  | ok a => exact Sat.pure fun s hs => hQ a s rfl hs
  | error k => exact Sat.fail fun s hs => hE k s rfl hs

/-- Sequencing: the first body's return condition is the rest's start. -/
theorem Sat.bind (hg : Sat P g Y Q E) (hr : ∀ a,Sat (Q a) (rest a) Y R E) :
    Sat P (g >>= rest) Y R E := by
  intro s hs
  obtain ⟨hy,hx⟩ := hg s hs
  rw [bind_apply,Trace.andThen]
  cases hexit : (g s).exit with
  | error k =>
    rw [hexit] at hx
    exact ⟨hy,hx⟩
  | ok a =>
    rw [hexit] at hx
    obtain ⟨hy',hx'⟩ := hr a _ hx
    refine ⟨fun y hm => ?_,hx'⟩
    rcases List.mem_append.mp hm with hm|hm
    · exact hy y hm
    · exact hy' y hm

/-- Handling: every accepted signal's handler must restore the conclusion. -/
theorem Sat.recover {handler : κ → Option (Gen σ ε κ α)} {R : κ → σ → Prop}
    (hg : Sat P g Y Q R)
    (hh : ∀ k h,handler k=some h → Sat (R k) h Y Q E)
    (hn : ∀ k s,handler k=none → R k s → E k s) :
    Sat P (GeneratorTraces.recover g handler) Y Q E := by
  intro s hs
  obtain ⟨hy,hx⟩ := hg s hs
  unfold GeneratorTraces.recover
  cases hexit : (g s).exit with
  | ok a =>
    rw [hexit] at hx
    dsimp only
    rw [hexit]
    exact ⟨hy,hx⟩
  | error k =>
    rw [hexit] at hx
    dsimp only
    cases hk : handler k with
    | none =>
      dsimp only
      rw [hexit]
      exact ⟨hy,hn k _ hk hx⟩
    | some h =>
      obtain ⟨hy',hx'⟩ := hh k h hk _ hx
      refine ⟨fun y hm => ?_,hx'⟩
      rcases List.mem_append.mp hm with hm|hm
      · exact hy y hm
      · exact hy' y hm

/-- Consumption with a stop: either the inner run returned and no value asked
to stop, or the state is that of the first value that did. -/
theorem Sat.forwardUntil {stop : ε → Bool} (hg : Sat P g Y Q E) :
    Sat P (GeneratorTraces.forwardUntil stop g) Y
      (fun c s => (∀ a,c.result=some a → Q a s ∧ ∀ ev∈c.events,stop ev=false) ∧
        (c.result=none → ∃ ev∈c.events,stop ev=true ∧ Y ev s)) E := by
  intro s hs
  obtain ⟨hy,hx⟩ := hg s hs
  have hpass : ∀ y∈(g s).yields.takeWhile (fun y => !stop y.1),stop y.1=false ∧ Y y.1 y.2 := by
    intro y hm
    have hp := List.mem_takeWhile_imp hm
    exact ⟨by simpa using hp,hy y ((List.takeWhile_prefix _).subset hm)⟩
  unfold GeneratorTraces.forwardUntil
  dsimp only
  cases hd : (g s).yields.dropWhile fun y => !stop y.1 with
  | cons y ys =>
    have hmem : y∈(g s).yields := (List.dropWhile_suffix _).subset (hd ▸ List.mem_cons_self)
    have hstop : stop y.1=true := by
      have hh := List.head_dropWhile_not (fun y : ε × σ => !stop y.1) (by rw [hd]; exact List.cons_ne_nil _ _)
      simpa [hd] using hh
    dsimp only
    refine ⟨fun z hm => ?_,fun a h => (by cases h),fun _ => ⟨y.1,?_,hstop,hy y hmem⟩⟩
    · rcases List.mem_append.mp hm with hm|hm
      · exact (hpass z hm).2
      · rw [List.mem_singleton.mp hm]
        exact hy y hmem
    · simp
  | nil =>
    dsimp only
    cases hexit : (g s).exit with
    | error k =>
      rw [hexit] at hx
      exact ⟨fun z hm => (hpass z hm).2,hx⟩
    | ok a =>
      rw [hexit] at hx
      refine ⟨fun z hm => (hpass z hm).2,fun b hb => ?_,fun h => nomatch h⟩
      cases hb
      refine ⟨hx,fun ev hm => ?_⟩
      obtain ⟨y,hy',rfl⟩ := List.mem_map.mp hm
      exact (hpass y hy').1

/-! ## Bodies cut at the first value that stops the consumer -/

/-- A body as its consumer executes it: the first stopping value ends it with
the signal `none`, its own signals are kept as `some`. -/
def cut (stop : ε → Bool) (g : Gen σ ε κ α) : Gen σ ε (Option κ) α := fun s =>
  let passed := (g s).yields.takeWhile fun y => !stop y.1
  match (g s).yields.dropWhile fun y => !stop y.1 with
  | y::_ => ⟨passed++[y],.error none,y.2⟩
  | [] => ⟨passed,(g s).exit.mapError some,(g s).state⟩

section Cut

variable {stop : ε → Bool} {E₀ : Option κ → σ → Prop}

/-- Cutting is compositional: a body cut in its first part never starts the
second. -/
theorem cut_bind (g : Gen σ ε κ α) (rest : α → Gen σ ε κ β) :
    cut stop (g >>= rest)=cut stop g >>= fun a => cut stop (rest a) := by
  funext s
  simp only [cut,bind_apply,Trace.andThen]
  cases hexit : (g s).exit with
  | error k =>
    dsimp only
    cases hd : (g s).yields.dropWhile fun y => !stop y.1 <;> simp [Except.mapError]
  | ok a =>
    dsimp only
    cases hd : (g s).yields.dropWhile fun y => !stop y.1 with
    | nil =>
      have hall : ∀ y∈(g s).yields,(!stop y.1)=true := List.dropWhile_eq_nil_iff.mp hd
      rw [List.takeWhile_append_of_pos hall,List.dropWhile_append_of_pos hall,
        List.takeWhile_eq_self_iff.mpr hall]
      dsimp only [Except.mapError]
      cases hr : (rest a (g s).state).yields.dropWhile fun y => !stop y.1 <;>
        simp
    | cons y ys =>
      have hsplit := List.takeWhile_append_dropWhile (p:=fun y : ε × σ => !stop y.1) (l:=(g s).yields)
      rw [hd] at hsplit
      have hy : stop y.1=true := by
        have hh := List.head_dropWhile_not (fun y : ε × σ => !stop y.1)
          (by rw [hd]; exact List.cons_ne_nil _ _)
        simpa [hd] using hh
      have hpass : ∀ z∈(g s).yields.takeWhile (fun y => !stop y.1),(!stop z.1)=true :=
        fun z hz => List.mem_takeWhile_imp (p:=fun y : ε × σ => !stop y.1) hz
      generalize hp : (g s).yields.takeWhile (fun y => !stop y.1)=passed at hpass hsplit
      rw [← hsplit,List.append_assoc,List.takeWhile_append_of_pos hpass,
        List.dropWhile_append_of_pos hpass]
      simp [hy]

theorem cut_update (f : σ → σ) : cut stop (update f : Gen σ ε κ Unit)=update f := rfl

/-- A last replacement of the state yields nothing. -/
theorem cut_update_pure (f : σ → σ) (a : α) (s : σ) :
    cut stop (do update f; pure a : Gen σ ε κ α) s=⟨[],.ok a,f s⟩ := rfl

theorem cut_ofExcept (x : Except κ α) :
    cut stop (ofExcept x : Gen σ ε κ α)=ofExcept (x.mapError some) := by
  cases x <;> rfl

/-- A body that yields nothing is not cut. -/
theorem cut_silent {a : α} {s t : σ} (h : g s=⟨[],.ok a,t⟩) : cut stop g s=⟨[],.ok a,t⟩ := by
  simp [cut,h,Except.mapError]

/-- A body that yields one value which does not stop is not cut. -/
theorem cut_single {a : α} {s t : σ} {y : ε × σ} (h : g s=⟨[y],.ok a,t⟩) (hpass : stop y.1=false) :
    cut stop g s=⟨[y],.ok a,t⟩ := by
  simp [cut,h,hpass,Except.mapError]

/-- A value that does not stop is passed on. -/
theorem cut_emit {ev : ε} (h : stop ev=false) :
    cut stop (emit ev : Gen σ ε κ Unit)=emit ev := by
  funext s
  simp [cut,h,Except.mapError]

/-- A value that stops is the last one taken. -/
theorem cut_emit_stop {ev : ε} (h : stop ev=true) (s : σ) :
    cut stop (emit ev : Gen σ ε κ Unit) s=⟨[(ev,s)],.error none,s⟩ := by
  simp [cut,h]

theorem cut_emitAll {evs : List ε} (h : ∀ ev∈evs,stop ev=false) :
    cut stop (emitAll evs : Gen σ ε κ Unit)=emitAll evs := by
  induction evs with
  | nil => rfl
  | cons ev evs ih =>
    rw [emitAll,cut_bind,cut_emit (h ev List.mem_cons_self),
      ih fun e hm => h e (List.mem_cons_of_mem _ hm)]
    rfl

/-- What a consumer finds is read off the cut body. -/
theorem forwardUntil_of_cut (stop : ε → Bool) (g : Gen σ ε κ α) (s : σ) :
    forwardUntil stop g s=match (cut stop g s).exit with
      | .ok a => ⟨(cut stop g s).yields,.ok ⟨(cut stop g s).events,some a⟩,(cut stop g s).state⟩
      | .error none => ⟨(cut stop g s).yields,.ok ⟨(cut stop g s).events,none⟩,(cut stop g s).state⟩
      | .error (some k) => ⟨(cut stop g s).yields,.error k,(cut stop g s).state⟩ := by
  unfold forwardUntil cut Trace.events
  dsimp only
  cases hd : (g s).yields.dropWhile fun y => !stop y.1 with
  | cons y ys => rfl
  | nil => cases hexit : (g s).exit <;> rfl

/-- The value that stopped a consumer is among those it took, and stops it. -/
theorem cut_stopped_iff (stop : ε → Bool) (g : Gen σ ε κ α) (s : σ) :
    (cut stop g s).exit=.error none ↔ ∃ ev∈(cut stop g s).events,stop ev=true := by
  have hpass : ∀ y∈(g s).yields.takeWhile (fun y => !stop y.1),stop y.1=false :=
    fun y hm => by simpa using List.mem_takeWhile_imp (p:=fun y : ε × σ => !stop y.1) hm
  unfold cut Trace.events
  dsimp only
  cases hd : (g s).yields.dropWhile fun y => !stop y.1 with
  | cons y ys =>
    have hstop : stop y.1=true := by
      have hh := List.head_dropWhile_not (fun y : ε × σ => !stop y.1)
        (by rw [hd]; exact List.cons_ne_nil _ _)
      simpa [hd] using hh
    exact iff_of_true rfl ⟨y.1,by simp,hstop⟩
  | nil =>
    refine iff_of_false (fun h => ?_) ?_
    · dsimp only at h
      cases hexit : (g s).exit <;> rw [hexit] at h <;> cases h
    · rintro ⟨ev,hm,hstop⟩
      obtain ⟨y,hy,rfl⟩ := List.mem_map.mp hm
      rw [hpass y hy] at hstop
      cases hstop

/-- Cutting twice cuts once: a forwarded body inside a cut one ends alike. -/
theorem cut_forwardUntil_of_cut (stop : ε → Bool) (g : Gen σ ε κ α) (s : σ) :
    cut stop (forwardUntil stop g) s=match (cut stop g s).exit with
      | .ok a => ⟨(cut stop g s).yields,.ok ⟨(cut stop g s).events,some a⟩,(cut stop g s).state⟩
      | .error k => ⟨(cut stop g s).yields,.error k,(cut stop g s).state⟩ := by
  have hpass : ∀ y∈(g s).yields.takeWhile (fun y => !stop y.1),(!stop y.1)=true :=
    fun y hm => List.mem_takeWhile_imp (p:=fun y : ε × σ => !stop y.1) hm
  unfold cut forwardUntil Trace.events
  dsimp only
  cases hd : (g s).yields.dropWhile fun y => !stop y.1 with
  | cons y ys =>
    have hstop : stop y.1=true := by
      have hh := List.head_dropWhile_not (fun y : ε × σ => !stop y.1)
        (by rw [hd]; exact List.cons_ne_nil _ _)
      simpa [hd] using hh
    dsimp only
    rw [List.takeWhile_append_of_pos hpass,List.dropWhile_append_of_pos hpass]
    simp [hstop]
  | nil =>
    cases hexit : (g s).exit <;> dsimp only <;>
      rw [List.takeWhile_eq_self_iff.mpr hpass,List.dropWhile_eq_nil_iff.mpr hpass] <;> rfl

/-- Sequencing under a cut, one run at a time. -/
theorem cut_bind_apply (g : Gen σ ε κ α) (rest : α → Gen σ ε κ β) (s : σ) :
    cut stop (g >>= rest) s=(cut stop g s).andThen fun a => cut stop (rest a) := by
  rw [cut_bind]
  rfl

/-- Sequencing under a cut. -/
theorem Sat.cut_bind (hg : Sat P (cut stop g) Y Q E₀)
    (hr : ∀ a,Sat (Q a) (cut stop (rest a)) Y R E₀) : Sat P (cut stop (g >>= rest)) Y R E₀ := by
  rw [GeneratorTraces.cut_bind]
  exact Sat.bind hg hr

end Cut

end Voyagent.GeneratorTraces
