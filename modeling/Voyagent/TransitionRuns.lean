import Mathlib.Data.List.Induction

/-!
# Runs of labelled steps

A run lists the labels executed from a start to a reached state. An invariant
is proved once for one step; a condition on single steps is carried by
guarding the relation, so a guarded run is a run whose every step met it.
-/

namespace Voyagent.TransitionRuns

variable {σ ℓ : Type}

/-- States reached from `s` by executing labels, newest label last. -/
inductive Run (step : σ → ℓ → σ → Prop) (s : σ) : List ℓ → σ → Prop
  | start : Run step s [] s
  | next {ls : List ℓ} {t u : σ} {l : ℓ} : Run step s ls t → step t l u → Run step s (ls++[l]) u

/-- Restrict a step to the labels and states that meet a condition. -/
def guarded (step : σ → ℓ → σ → Prop) (C : σ → ℓ → Prop) : σ → ℓ → σ → Prop :=
  fun s l t => step s l t ∧ C s l

/-- The step relation of a partial transition function. -/
def ofPartial (f : σ → ℓ → Option σ) : σ → ℓ → σ → Prop := fun s l t => f s l=some t

variable {step : σ → ℓ → σ → Prop} {C : σ → ℓ → Prop} {s t u : σ} {ls ms : List ℓ}

variable {I : σ → Prop}

/-- What holds at the start and survives one step holds in every state reached. -/
theorem Run.invariant (hrun : Run step s ls t) (h0 : I s) (hstep : ∀ a l b,I a → step a l b → I b) :
    I t := by
  induction hrun with
  | start => exact h0
  | next _ hs ih => exact hstep _ _ _ ih hs

/-- The invariant rule for runs whose every step met a condition. -/
theorem Run.guarded_invariant (hrun : Run (guarded step C) s ls t) (h0 : I s)
    (hstep : ∀ a l b,I a → step a l b → C a l → I b) : I t :=
  hrun.invariant h0 fun a l b hi hs => hstep a l b hi hs.1 hs.2

/-- Runs compose. -/
theorem Run.append (h : Run step s ls t) (h' : Run step t ms u) : Run step s (ls++ms) u := by
  induction h' with
  | start => simpa using h
  | next _ hs ih => rw [← List.append_assoc]; exact ih.next hs

/-- A run passes through a state after every prefix of its labels. -/
theorem Run.split (h : Run step s (ls++ms) u) : ∃ t,Run step s ls t ∧ Run step t ms u := by
  generalize hl : ls++ms=ns at h
  induction h generalizing ms with
  | start =>
    obtain ⟨rfl,rfl⟩ := List.append_eq_nil_iff.mp hl
    exact ⟨s,.start,.start⟩
  | @next ns t u l hrun hs ih =>
    rcases List.eq_nil_or_concat ms with rfl|⟨ms',l',rfl⟩
    · rw [List.append_nil] at hl
      exact ⟨u,hl ▸ hrun.next hs,.start⟩
    · rw [List.concat_eq_append,← List.append_assoc] at hl
      obtain ⟨hinit,hlast⟩ := List.append_inj' hl rfl
      cases hlast
      obtain ⟨v,hv,hv'⟩ := ih hinit
      exact ⟨v,hv,by rw [List.concat_eq_append]; exact hv'.next hs⟩

variable {l : ℓ}

/-- The last step of a run. -/
theorem Run.last (h : Run step s (ls++[l]) u) : ∃ t,Run step s ls t ∧ step t l u := by
  generalize hl : ls++[l]=ns at h
  cases h with
  | start => exact absurd hl (List.append_ne_nil_of_right_ne_nil _ (List.cons_ne_nil _ _))
  | next hrun hs =>
    obtain ⟨rfl,hlast⟩ := List.append_inj' hl rfl
    cases hlast
    exact ⟨_,hrun,hs⟩

/-- A run of one label is a step. -/
theorem Run.of_singleton (h : Run step s [l] u) : step s l u := by
  have hlast : Run step s ([]++[l]) u := h
  obtain ⟨t,ht,hs⟩ := hlast.last
  generalize hnil : ([] : List ℓ)=ns at ht
  cases ht with
  | start => exact hs
  | next _ _ =>
    exact absurd hnil.symm (List.append_ne_nil_of_right_ne_nil _ (List.cons_ne_nil _ _))

/-- Steps of one relation that are steps of another run in both. -/
theorem Run.mono {step' : σ → ℓ → σ → Prop} (h : Run step s ls t)
    (hstep : ∀ a l b,step a l b → step' a l b) : Run step' s ls t := by
  induction h with
  | start => exact .start
  | next _ hs ih => exact ih.next (hstep _ _ _ hs)

/-- Dropping the condition leaves a run. -/
theorem Run.unguard (h : Run (guarded step C) s ls t) : Run step s ls t :=
  h.mono fun _ _ _ hs => hs.1

/-- A condition that every label meets everywhere guards the run. -/
theorem Run.guard (h : Run step s ls t) (hmet : ∀ l∈ls,∀ a,C a l) : Run (guarded step C) s ls t := by
  induction h with
  | start => exact .start
  | next _ hs ih =>
    exact (ih fun l hl => hmet l (List.mem_append_left _ hl)).next
      ⟨hs,hmet _ (List.mem_append_right _ List.mem_cons_self) _⟩

variable {D : σ → ℓ → Prop}

/-- Conditions that agree in every state reached guard the same runs. -/
theorem Run.guarded_congr (h : ∀ ms u l v,Run step s ms u → step u l v → (C u l ↔ D u l)) :
    Run (guarded step C) s ls t ↔ Run (guarded step D) s ls t := by
  have hmp : ∀ {C D : σ → ℓ → Prop},
      (∀ ms u l v,Run step s ms u → step u l v → (C u l → D u l)) →
        Run (guarded step C) s ls t → Run (guarded step D) s ls t := by
    intro C D h hrun
    induction hrun with
    | start => exact .start
    | next hrun hs ih => exact ih.next ⟨hs.1,h _ _ _ _ hrun.unguard hs.1 hs.2⟩
  exact ⟨hmp fun ms u l v hu hs => (h ms u l v hu hs).mp,
    hmp fun ms u l v hu hs => (h ms u l v hu hs).mpr⟩

variable {μ : σ → Nat}

/-- Conditions that agree wherever an invariant of the guarded steps holds guard
the same runs. -/
theorem Run.guarded_congr_of_invariant (h0 : I s)
    (hagree : ∀ a l b,I a → step a l b → (C a l ↔ D a l))
    (hkeep : ∀ a l b,I a → step a l b → C a l → I b) :
    Run (guarded step C) s ls t ↔ Run (guarded step D) s ls t := by
  have hboth : Run (guarded step C) s ls t → I t ∧ Run (guarded step D) s ls t := by
    intro hrun
    induction hrun with
    | start => exact ⟨h0,.start⟩
    | next _ hs ih =>
      exact ⟨hkeep _ _ _ ih.1 hs.1 hs.2,ih.2.next ⟨hs.1,(hagree _ _ _ ih.1 hs.1).mp hs.2⟩⟩
  have hback : Run (guarded step D) s ls t → I t ∧ Run (guarded step C) s ls t := by
    intro hrun
    clear hboth
    induction hrun with
    | start => exact ⟨h0,.start⟩
    | next _ hs ih =>
      have hc := (hagree _ _ _ ih.1 hs.1).mpr hs.2
      exact ⟨hkeep _ _ _ ih.1 hs.1 hc,ih.2.next ⟨hs.1,hc⟩⟩
  exact ⟨fun h => (hboth h).2,fun h => (hback h).2⟩

/-- A label leads from a state to at most one. -/
def Deterministic (step : σ → ℓ → σ → Prop) : Prop :=
  ∀ a l b b',step a l b → step a l b' → b=b'

/-- A label list leads to one state. -/
theorem Run.unique (hdet : Deterministic step) (h : Run step s ls t) {t' : σ}
    (h' : Run step s ls t') : t=t' := by
  induction h generalizing t' with
  | start =>
    generalize hl : ([] : List ℓ)=ns at h'
    cases h' with
    | start => rfl
    | next _ _ => exact absurd hl.symm (List.append_ne_nil_of_right_ne_nil _ (List.cons_ne_nil _ _))
  | next _ hs ih =>
    obtain ⟨u,hu,hlast⟩ := h'.last
    rw [← ih hu] at hlast
    exact hdet _ _ _ _ hs hlast

/-- Whether a run met a condition at every step is decided step by step. -/
theorem Run.guarded_next_iff (hdet : Deterministic step) (hrun : Run step s ls t) (hs : step t l u) :
    Run (guarded step C) s (ls++[l]) u ↔ Run (guarded step C) s ls t ∧ C t l := by
  constructor
  · intro h
    obtain ⟨v,hv,hlast,hc⟩ := h.last
    obtain rfl := hrun.unique hdet hv.unguard
    exact ⟨hv,hc⟩
  · rintro ⟨h,hc⟩
    exact h.next ⟨hs,hc⟩

/-- A property of states holds in every state a run of the labels passes through. -/
def Throughout (step : σ → ℓ → σ → Prop) (s : σ) (ls : List ℓ) (P : σ → Prop) : Prop :=
  ∀ ms t,ms <+: ls → Run step s ms t → P t

variable {P : σ → Prop}

/-- Where the label decides the next state, what holds along a run is what
holds along its initial part and in its last state. -/
theorem throughout_next_iff (hdet : Deterministic step) (hrun : Run step s ls t) (hs : step t l u) :
    Throughout step s (ls++[l]) P ↔ Throughout step s ls P ∧ P u := by
  constructor
  · intro h
    refine ⟨fun ms v hms hv => h ms v (hms.trans (List.prefix_append ls [l])) hv,?_⟩
    exact h _ u (List.prefix_refl _) (hrun.next hs)
  · rintro ⟨h,hu⟩ ms v hms hv
    rcases List.prefix_concat_iff.mp hms with rfl|hms
    · rwa [hv.unique hdet (hrun.next hs)]
    · exact h ms v hms hv

/-- A property that holds at the start holds along a run if and only if every
step met the condition that decides whether the property survives it. -/
theorem Run.throughout_iff (hdet : Deterministic step) (hrun : Run step s ls t) (h0 : P s)
    (hstep : ∀ a l b,P a → step a l b → (P b ↔ C a l)) :
    Throughout step s ls P ↔ Run (guarded step C) s ls t := by
  induction hrun with
  | start =>
    refine ⟨fun _ => .start,fun _ ms v hms hv => ?_⟩
    obtain rfl := List.prefix_nil.mp hms
    rwa [hv.unique hdet .start]
  | next hrun hs ih =>
    rw [throughout_next_iff hdet hrun hs,hrun.guarded_next_iff hdet hs,← ih]
    refine and_congr_right fun h => hstep _ _ _ ?_ hs
    exact h _ _ (List.prefix_refl _) hrun

/-- The same for a property that an invariant of the guarded steps implies and
that no step breaking the condition leaves true. -/
theorem Run.throughout_iff_guarded (hdet : Deterministic step) (hrun : Run step s ls t) (h0 : I s)
    (hkeep : ∀ a l b,I a → step a l b → C a l → I b) (himp : ∀ a,I a → P a)
    (hbreak : ∀ a l b,step a l b → ¬C a l → ¬P b) :
    Throughout step s ls P ↔ Run (guarded step C) s ls t := by
  constructor
  · intro h
    induction hrun with
    | start => exact .start
    | @next ls t u l hrun hs ih =>
      obtain ⟨hbefore,hlast⟩ := (throughout_next_iff hdet hrun hs).mp h
      have hmet : C t l := by
        by_contra hc
        exact hbreak t l u hs hc hlast
      exact (hrun.guarded_next_iff hdet hs).mpr ⟨ih hbefore,hmet⟩
  · rintro hguarded ms v ⟨rest,rfl⟩ hv
    obtain ⟨w,hw,-⟩ := hguarded.split
    obtain rfl := hv.unique hdet hw.unguard
    exact himp v (hw.guarded_invariant h0 hkeep)

/-- A property that no step restores holds at the end of a run if and only if
every step met the condition that decides whether it survives the step. -/
theorem Run.holds_iff_guarded {J : σ → Prop} (hdet : Deterministic step) (hrun : Run step s ls t)
    (hJ0 : J s) (hJ : ∀ a l b,J a → step a l b → J b) (h0 : P s)
    (hback : ∀ a l b,step a l b → P b → P a)
    (hstep : ∀ a l b,J a → P a → step a l b → (P b ↔ C a l)) :
    P t ↔ Run (guarded step C) s ls t := by
  induction hrun with
  | start => exact iff_of_true h0 .start
  | @next ls a b l hrun hs ih =>
    rw [hrun.guarded_next_iff hdet hs,← ih]
    have hfacts : J a := hrun.invariant hJ0 hJ
    constructor
    · intro hb
      have ha := hback a l b hs hb
      exact ⟨ha,(hstep a l b hfacts ha hs).mp hb⟩
    · rintro ⟨ha,hc⟩
      exact (hstep a l b hfacts ha hs).mpr hc

/-- Partial transition functions are deterministic. -/
theorem deterministic_ofPartial (f : σ → ℓ → Option σ) : Deterministic (ofPartial f) :=
  fun _ _ _ _ h h' => Option.some.inj (h.symm.trans h')

theorem deterministic_guarded (hdet : Deterministic step) : Deterministic (guarded step C) :=
  fun _ _ _ _ h h' => hdet _ _ _ _ h.1 h'.1

/-- A total transition function runs on any labels. -/
theorem run_foldl {f : σ → ℓ → σ} (h : ∀ a l,step a l (f a l)) (s : σ) (ls : List ℓ) :
    Run step s ls (ls.foldl f s) := by
  induction ls using List.reverseRecOn with
  | nil => exact .start
  | append_singleton ls l ih =>
    rw [List.foldl_append]
    exact ih.next (h _ l)

variable {f : σ → ℓ → Option σ}

/-- A partial transition function runs on the labels it is defined on. -/
theorem run_of_foldlM (h : ls.foldlM f s=some t) : Run (ofPartial f) s ls t := by
  induction ls using List.reverseRecOn generalizing t with
  | nil =>
    cases h
    exact .start
  | append_singleton ls l ih =>
    rw [List.foldlM_append] at h
    obtain ⟨u,hu,hl⟩ := Option.bind_eq_some_iff.mp h
    rw [List.foldlM_cons] at hl
    obtain ⟨v,hv,ht⟩ := Option.bind_eq_some_iff.mp hl
    cases ht
    exact (ih hu).next hv

/-- The same where a condition is tested before each step. -/
theorem guarded_run_of_foldlM {test : σ → ℓ → Bool}
    (h : ls.foldlM (fun s l => if test s l then f s l else none) s=some t) :
    Run (guarded (ofPartial f) fun s l => test s l=true) s ls t := by
  have hrun := run_of_foldlM h
  clear h
  induction hrun with
  | start => exact .start
  | @next ls t u l _ hs ih =>
    refine ih.next ?_
    change (if test t l then f t l else none)=some u at hs
    split at hs
    · rename_i htest
      exact ⟨hs,htest⟩
    · cases hs

end Voyagent.TransitionRuns
