/-!
# Programs that ask their environment

A program returns, raises, or asks a question and goes on with the answer, so
that it is a tree with a branch for every answer. An environment is a partial
function on states: which answers it may give, and its state afterwards. What a
program meets is defined along the tree; executions and interleavings inherit
it. Nothing here names a particular program.
-/

namespace Voyagent.EffectPrograms

/-- A program whose questions `q` are answered in `A q`. -/
inductive Program (Q : Type) (A : Q → Type) (ε α : Type) where
  | done (a : α)
  | fail (e : ε)
  | ask (q : Q) (rest : A q → Program Q A ε α)

variable {Q : Type} {A : Q → Type} {ε α β γ σ ι : Type}

/-- Go on with the value a program returns. -/
def Program.bind : Program Q A ε α → (α → Program Q A ε β) → Program Q A ε β
  | .done a,f => f a
  | .fail e,_ => .fail e
  | .ask q rest,f => .ask q fun a => (rest a).bind f

instance : Monad (Program Q A ε) where
  pure := .done
  bind := Program.bind

/-- Handle what a program raises. -/
def Program.recover : Program Q A ε α → (ε → Program Q A ε α) → Program Q A ε α
  | .done a,_ => .done a
  | .fail e,handler => handler e
  | .ask q rest,handler => .ask q fun a => (rest a).recover handler

/-- Put the questions of a program as others, with answers that answer them. -/
def Program.translate {Q' : Type} {A' : Q' → Type} (f : Q → Q') (g : (q : Q) → A' (f q) → A q) :
    Program Q A ε α → Program Q' A' ε α
  | .done a => .done a
  | .fail e => .fail e
  | .ask q rest => .ask (f q) fun a => (rest (g q a)).translate f g

/-- Ask one question. -/
def query (q : Q) : Program Q A ε (A q) := .ask q .done

/-- An `Except` value as a program. -/
def ofExcept : Except ε α → Program Q A ε α
  | .ok a => .done a
  | .error e => .fail e

/-- The program has ended. -/
def Program.ended : Program Q A ε α → Bool
  | .ask _ _ => false
  | _ => true

/-! ## Executions -/

/-- The answers an environment may give in a state, with the state afterwards. -/
abbrev Environment (A : Q → Type) (σ : Type) : Type := σ → (q : Q) → A q → Option σ

/-- A program is executed from a state to its end. -/
inductive Exec (env : Environment A σ) : Program Q A ε α → σ → Except ε α → σ → Prop
  | done {a : α} {s : σ} : Exec env (.done a) s (.ok a) s
  | fail {e : ε} {s : σ} : Exec env (.fail e) s (.error e) s
  | ask {q : Q} {rest : A q → Program Q A ε α} {s s' t : σ} {r : Except ε α} (a : A q) :
      env s q a=some s' → Exec env (rest a) s' r t → Exec env (.ask q rest) s r t

/-- Execute a program on prepared answers; nothing where the environment would
not give one of them. -/
def execute (env : Environment A σ) (answers : Nat → (q : Q) → A q) :
    Nat → Program Q A ε α → σ → Option (Except ε α × σ)
  | _,.done a,s => some (.ok a,s)
  | _,.fail e,s => some (.error e,s)
  | n,.ask q rest,s =>
    match env s q (answers n q) with
    | none => none
    | some s' => execute env answers (n+1) (rest (answers n q)) s'

variable {p : Program Q A ε α} {r : Except ε α} {s t : σ}

/-- What `execute` finds is an execution. -/
theorem exec_of_execute {env : Environment A σ} {answers : Nat → (q : Q) → A q} {n : Nat}
    (h : execute env answers n p s=some (r,t)) : Exec env p s r t := by
  induction p generalizing n s with
  | done a =>
    cases h
    exact .done
  | fail e =>
    cases h
    exact .fail
  | ask q rest ih =>
    unfold execute at h
    split at h
    · cases h
    · rename_i s' hs
      exact .ask (answers n q) hs (ih _ h)

variable {f : α → Program Q A ε β} {u : σ}

/-- The parts of a sequence are executed one after the other. -/
theorem Exec.bind {env : Environment A σ} {a : α} {r : Except ε β} (h : Exec env p s (.ok a) t)
    (h' : Exec env (f a) t r u) : Exec env (p >>= f) s r u := by
  generalize hr : Except.ok a=x at h
  induction h with
  | done =>
    cases hr
    exact h'
  | fail => cases hr
  | ask b hs _ ih => exact .ask b hs (ih h' hr)

/-- What the first part raises ends a sequence. -/
theorem Exec.bind_error {env : Environment A σ} {e : ε} (f : α → Program Q A ε β)
    (h : Exec env p s (.error e) t) : Exec env (p >>= f) s (.error e) t := by
  generalize hr : Except.error e=x at h
  induction h with
  | done => cases hr
  | fail =>
    cases hr
    exact .fail
  | ask b hs _ ih => exact .ask b hs (ih hr)

/-- A handler is executed on what was raised. -/
theorem Exec.recover {env : Environment A σ} {handler : ε → Program Q A ε α} {e : ε}
    (h : Exec env p s (.error e) t) (h' : Exec env (handler e) t r u) :
    Exec env (p.recover handler) s r u := by
  generalize hr : Except.error e=x at h
  induction h with
  | done => cases hr
  | fail =>
    cases hr
    exact h'
  | ask b hs _ ih => exact .ask b hs (ih h' hr)

/-! ## What a program meets -/

section Meets

variable (env : Environment A γ) (allowed : γ → Q → Prop) (post : γ → Except ε α → Prop)

/-- From a state on, whatever the environment answers, the program asks only
what is allowed and ends as the postcondition says. -/
def Meets : Program Q A ε α → γ → Prop
  | .done a,g => post g (.ok a)
  | .fail e,g => post g (.error e)
  | .ask q rest,g => allowed g q ∧ ∀ a g',env g q a=some g' → Meets (rest a) g'

end Meets

section Rules

variable {env : Environment A γ} {allowed : γ → Q → Prop} {post : γ → Except ε α → Prop}
  {p : Program Q A ε α} {g : γ}

@[simp] theorem meets_pure (a : α) : Meets env allowed post (pure a) g ↔ post g (.ok a) := Iff.rfl

@[simp] theorem meets_fail (e : ε) : Meets env allowed post (.fail e) g ↔ post g (.error e) := Iff.rfl

theorem Meets.ofExcept {x : Except ε α} (h : post g x) :
    Meets env allowed post (ofExcept x) g := by
  cases x <;> exact h

variable {post' : γ → Except ε α → Prop}

/-- The rule of consequence. -/
theorem Meets.mono {allowed' : γ → Q → Prop} (h : Meets env allowed post p g)
    (hallowed : ∀ g q,allowed g q → allowed' g q) (hpost : ∀ g r,post g r → post' g r) :
    Meets env allowed' post' p g := by
  induction p generalizing g with
  | done a => exact hpost g _ h
  | fail e => exact hpost g _ h
  | ask q rest ih => exact ⟨hallowed g q h.1,fun a g' hs => ih a (h.2 a g' hs)⟩

theorem Meets.imp (h : Meets env allowed post p g) (hpost : ∀ g r,post g r → post' g r) :
    Meets env allowed post' p g :=
  h.mono (fun _ _ => id) hpost

/-- Two postconditions are met at once. -/
theorem Meets.and (allowed' : γ → Q → Prop) (h : Meets env allowed post p g)
    (h' : Meets env allowed' post' p g) :
    Meets env allowed (fun g r => post g r ∧ post' g r) p g := by
  induction p generalizing g with
  | done a => exact ⟨h,h'⟩
  | fail e => exact ⟨h,h'⟩
  | ask q rest ih => exact ⟨h.1,fun a g' hs => ih a (h.2 a g' hs) (h'.2 a g' hs)⟩

variable {f : α → Program Q A ε β}

/-- The rest of a sequence is met by what its first part returns; what the first
part raises ends the sequence. -/
theorem Meets.bind {post : γ → Except ε β → Prop} (h : Meets env allowed (fun g r => match r with
      | .ok a => Meets env allowed post (f a) g
      | .error e => post g (.error e)) p g) : Meets env allowed post (p >>= f) g := by
  induction p generalizing g with
  | done a => exact h
  | fail e => exact h
  | ask q rest ih => exact ⟨h.1,fun a g' hs => ih a (h.2 a g' hs)⟩

variable {handler : ε → Program Q A ε α}

/-- A handler takes over where the program raises. -/
theorem Meets.recover (h : Meets env allowed (fun g r => match r with
      | .ok a => post g (.ok a)
      | .error e => Meets env allowed post (handler e) g) p g) :
    Meets env allowed post (p.recover handler) g := by
  induction p generalizing g with
  | done a => exact h
  | fail e => exact h
  | ask q rest ih => exact ⟨h.1,fun a g' hs => ih a (h.2 a g' hs)⟩

/-- What always holds is met. -/
theorem meets_of_forall (h : ∀ g r,post g r) : Meets env (fun _ _ => True) post p g := by
  induction p generalizing g with
  | done a => exact h g _
  | fail e => exact h g _
  | ask q rest ih => exact ⟨trivial,fun a g' _ => ih a⟩

variable {I : γ → Prop}

/-- What every answer keeps is kept to the end. -/
theorem meets_invariant (hstep : ∀ g q a g',I g → env g q a=some g' → I g') (hg : I g) :
    Meets env (fun _ _ => True) (fun g _ => I g) p g := by
  induction p generalizing g with
  | done a => exact hg
  | fail e => exact hg
  | ask q rest ih => exact ⟨trivial,fun a g' hs => ih a (hstep g q a g' hg hs)⟩

/-- What a program meets holds where an execution ends. -/
theorem Meets.exec {t : γ} {r : Except ε α} (h : Meets env allowed post p g)
    (hexec : Exec env p g r t) : post t r := by
  induction hexec with
  | done => exact h
  | fail => exact h
  | ask a hs _ ih => exact ih (h.2 a _ hs)

/-! ## What a program asks -/

/-- Whatever it is answered, the program asks only questions of a kind. -/
def Uses (ok : Q → Prop) : Program Q A ε α → Prop
  | .done _ => True
  | .fail _ => True
  | .ask q rest => ok q ∧ ∀ a,Uses ok (rest a)

variable {ok : Q → Prop}

theorem uses_pure (a : α) : Uses ok (pure a : Program Q A ε α) := trivial

theorem uses_fail (e : ε) : Uses ok (.fail e : Program Q A ε α) := trivial

theorem uses_query {q : Q} (h : ok q) : Uses ok (query q : Program Q A ε (A q)) :=
  ⟨h,fun _ => trivial⟩

theorem uses_ofExcept (x : Except ε α) : Uses ok (ofExcept x : Program Q A ε α) := by
  cases x <;> trivial

theorem Uses.bind (h : Uses ok p) (hf : ∀ a,Uses ok (f a)) : Uses ok (p >>= f) := by
  induction p with
  | done a => exact hf a
  | fail e => trivial
  | ask q rest ih => exact ⟨h.1,fun a => ih a (h.2 a)⟩

theorem Uses.recover (h : Uses ok p) (hhandler : ∀ e,Uses ok (handler e)) :
    Uses ok (p.recover handler) := by
  induction p with
  | done a => trivial
  | fail e => exact hhandler e
  | ask q rest ih => exact ⟨h.1,fun a => ih a (h.2 a)⟩

/-- What the answers to such questions keep is kept to the end. -/
theorem Uses.meets (h : Uses ok p) (hg : I g) (hallowed : ∀ g q,I g → ok q → allowed g q)
    (hstep : ∀ g q a g',I g → ok q → env g q a=some g' → I g') :
    Meets env allowed (fun g _ => I g) p g := by
  induction p generalizing g with
  | done a => exact hg
  | fail e => exact hg
  | ask q rest ih =>
    exact ⟨hallowed g q hg h.1,fun a g' hs => ih a (h.2 a) (hstep g q a g' hg h.1 hs)⟩

end Rules

/-! ## Interleavings -/

/-- Programs over a shared state. -/
structure Pool (Q : Type) (A : Q → Type) (ε α σ ι : Type) where
  shared : σ
  thread : ι → Program Q A ε α

section Pools

variable [DecidableEq ι]

/-- Replace one program. -/
def Pool.set (w : Pool Q A ε α σ ι) (s : σ) (i : ι) (p : Program Q A ε α) : Pool Q A ε α σ ι :=
  ⟨s,fun j => if j=i then p else w.thread j⟩

@[simp] theorem Pool.shared_set (w : Pool Q A ε α σ ι) (s : σ) (i : ι) (p : Program Q A ε α) :
    (w.set s i p).shared=s := rfl

@[simp] theorem Pool.thread_set (w : Pool Q A ε α σ ι) (s : σ) (i : ι) (p : Program Q A ε α) :
    (w.set s i p).thread i=p := if_pos rfl

theorem Pool.thread_set_of_ne (w : Pool Q A ε α σ ι) (s : σ) {i j : ι} (p : Program Q A ε α)
    (h : j≠i) : (w.set s i p).thread j=w.thread j := if_neg h

/-- One program gets an answer. -/
def Pool.advance (env : ι → Environment A σ) (w : Pool Q A ε α σ ι) (i : ι)
    (answer : (q : Q) → A q) : Option (Pool Q A ε α σ ι) :=
  match w.thread i with
  | .ask q rest => (env i w.shared q (answer q)).map fun s => w.set s i (rest (answer q))
  | _ => none

theorem Pool.advance_eq_some {env : ι → Environment A σ} {w w' : Pool Q A ε α σ ι} {i : ι}
    {answer : (q : Q) → A q} :
    w.advance env i answer=some w' ↔ ∃ q rest s,w.thread i=.ask q rest ∧
      env i w.shared q (answer q)=some s ∧ w.set s i (rest (answer q))=w' := by
  unfold Pool.advance
  split
  · rename_i q rest hask
    rw [Option.map_eq_some_iff]
    constructor
    · rintro ⟨s,hs,rfl⟩
      exact ⟨q,rest,s,hask,hs,rfl⟩
    · rintro ⟨q',rest',s,hask',hs,hw⟩
      cases hask.symm.trans hask'
      exact ⟨s,hs,hw⟩
  · rename_i hnot
    refine iff_of_false nofun ?_
    rintro ⟨q,rest,s,hask,-,-⟩
    exact hnot q rest hask

/-! ### What each program meets in its own view -/

variable {view : σ → ι → γ} {env : ι → Environment A σ} {env' : Environment A γ}
  {allowed : ι → γ → Q → Prop} {post : ι → γ → Except ε α → Prop} {w w' : Pool Q A ε α σ ι} {i j : ι}

/-- An answer to one program is an answer in its own view, and the others see nothing of it. -/
def Projects (view : σ → ι → γ) (env : ι → Environment A σ) (env' : Environment A γ) : Prop :=
  ∀ i s q a s',env i s q a=some s' →
    env' (view s i) q a=some (view s' i) ∧ ∀ j,j≠i → view s' j=view s j

/-- A shared state beside the views of the programs: an answer is one for both. -/
def viewed (serve : ι → Environment A σ) (look : Environment A γ) :
    ι → Environment A (σ × (ι → γ)) := fun i s q a =>
  match look (s.2 i) q a,serve i s.1 q a with
  | some v,some b => some (b,fun j => if j=i then v else s.2 j)
  | _,_ => none

theorem viewed_eq_some {serve : ι → Environment A σ} {look : Environment A γ}
    {s s' : σ × (ι → γ)} {q : Q} {a : A q} :
    viewed serve look i s q a=some s' ↔ ∃ v b,look (s.2 i) q a=some v ∧ serve i s.1 q a=some b ∧
      s'=(b,fun j => if j=i then v else s.2 j) := by
  unfold viewed
  cases look (s.2 i) q a with
  | none => exact iff_of_false nofun nofun
  | some v =>
    cases serve i s.1 q a with
    | none => exact iff_of_false nofun nofun
    | some b =>
      constructor
      · intro h
        exact ⟨v,b,rfl,rfl,(Option.some.inj h).symm⟩
      · rintro ⟨v,b,hv,hb,rfl⟩
        cases hv
        cases hb
        rfl

theorem projects_viewed (serve : ι → Environment A σ) (look : Environment A γ) :
    Projects (fun s i => s.2 i) (viewed serve look) look := by
  intro i s q a s' h
  obtain ⟨v,b,hv,-,rfl⟩ := viewed_eq_some.mp h
  exact ⟨hv.trans (congrArg some (if_pos rfl).symm),fun j hj => if_neg hj⟩

/-- Every program meets its part, as it sees the shared state. -/
def Pool.Conforms (view : σ → ι → γ) (env' : Environment A γ) (allowed : ι → γ → Q → Prop)
    (post : ι → γ → Except ε α → Prop) (w : Pool Q A ε α σ ι) : Prop :=
  ∀ i,Meets env' (allowed i) (post i) (w.thread i) (view w.shared i)

/-- Every interleaving keeps what each program meets by itself. -/
theorem Pool.Conforms.advance {answer : (q : Q) → A q} (h : w.Conforms view env' allowed post)
    (hview : Projects view env env') (hstep : w.advance env i answer=some w') :
    w'.Conforms view env' allowed post := by
  obtain ⟨q,rest,s,hask,hs,rfl⟩ := Pool.advance_eq_some.mp hstep
  obtain ⟨hown,hothers⟩ := hview i w.shared q (answer q) s hs
  intro j
  rw [Pool.shared_set]
  by_cases hj : j=i
  · subst hj
    have hmeets := h j
    rw [hask] at hmeets
    rw [Pool.thread_set]
    exact hmeets.2 (answer q) _ hown
  · rw [Pool.thread_set_of_ne _ _ _ hj,hothers j hj]
    exact h j

omit [DecidableEq ι] in
/-- What a program asks next is allowed. -/
theorem Pool.Conforms.asks {q : Q} {rest : A q → Program Q A ε α}
    (h : w.Conforms view env' allowed post) (hask : w.thread i=.ask q rest) :
    allowed i (view w.shared i) q := by
  have hmeets := h i
  rw [hask] at hmeets
  exact hmeets.1

omit [DecidableEq ι] in
/-- What a program returned is as it should be. -/
theorem Pool.Conforms.returned {a : α} (h : w.Conforms view env' allowed post)
    (hdone : w.thread i=.done a) : post i (view w.shared i) (.ok a) := by
  have hmeets := h i
  rw [hdone] at hmeets
  exact hmeets

end Pools

end Voyagent.EffectPrograms
