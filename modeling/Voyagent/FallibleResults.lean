import Mathlib.Data.List.Forall2

/-!
# Computations that may fail

What the success of a sequence or of a map of fallible computations comes to,
and computations that succeed alike whatever they fail with.
-/

namespace Voyagent.FallibleResults

variable {ε α β : Type}

variable {f : α → Except ε β} {x : Except ε α}

theorem bind_ok {b : β} : (x >>= f)=.ok b ↔ ∃ a,x=.ok a ∧ f a=.ok b := by
  cases x with
  | error e => exact ⟨fun h => (by cases h),fun ⟨_,h,_⟩ => (by cases h)⟩
  | ok a => exact ⟨fun h => ⟨a,rfl,h⟩,fun ⟨_,h,h'⟩ => (by cases h; exact h')⟩

/-- A sequence succeeds if each part does. -/
theorem exists_bind_ok : (∃ b,(x >>= f)=.ok b) ↔ ∃ a,x=.ok a ∧ ∃ b,f a=.ok b := by
  simp only [bind_ok,← exists_and_left]
  exact exists_comm

theorem bind_pure_ok {f : α → β} {b : β} :
    (x >>= fun a => pure (f a))=.ok b ↔ ∃ a,x=.ok a ∧ f a=b := by
  rw [bind_ok]
  exact exists_congr fun a => and_congr_right fun _ => ⟨fun h => Except.ok.inj h,fun h => congrArg _ h⟩

variable {a : α}

/-- Errors replaced by others: what succeeds is the same. -/
theorem mapError_ok {ε' : Type} {f : ε → ε'} : x.mapError f=.ok a ↔ x=.ok a := by
  cases x with
  | error e => exact ⟨fun h => (by cases h),fun h => (by cases h)⟩
  | ok b => exact ⟨fun h => (by cases h; rfl),fun h => (by cases h; rfl)⟩

theorem mapError_error {ε' : Type} {f : ε → ε'} {e : ε'} :
    x.mapError f=.error e ↔ ∃ e',x=.error e' ∧ f e'=e := by
  cases x with
  | error e' => exact ⟨fun h => ⟨e',rfl,Except.error.inj h⟩,fun ⟨_,h,h'⟩ => (by cases h; cases h'; rfl)⟩
  | ok b => exact ⟨fun h => (by cases h),fun ⟨_,h,_⟩ => (by cases h)⟩

/-- The value of a computation that succeeds. -/
theorem toOption_eq_some : x.toOption=some a ↔ x=.ok a := by
  cases x with
  | error e => exact ⟨fun h => (by cases h),fun h => (by cases h)⟩
  | ok b => exact ⟨fun h => (by cases h; rfl),fun h => (by cases h; rfl)⟩

variable {as : List α} {bs : List β}

/-- A map succeeds if each element does, in order. -/
theorem mapM_ok : as.mapM f=.ok bs ↔ List.Forall₂ (fun a b => f a=.ok b) as bs := by
  induction as generalizing bs with
  | nil =>
    rw [List.mapM_nil]
    exact ⟨fun h => by cases h; exact .nil,fun h => by cases h; rfl⟩
  | cons a as ih =>
    rw [List.mapM_cons,bind_ok]
    simp only [bind_pure_ok,ih]
    constructor
    · rintro ⟨b,hb,bs',hbs,rfl⟩
      exact .cons hb hbs
    · intro h
      cases h with
      | cons hb hbs => exact ⟨_,hb,_,hbs,rfl⟩

variable {R : α → β → Prop}

/-- Lists are related if each element of the first has a partner. -/
theorem exists_forall₂ (h : ∀ a∈as,∃ b,R a b) : ∃ bs,List.Forall₂ R as bs := by
  induction as with
  | nil => exact ⟨[],.nil⟩
  | cons a as ih =>
    obtain ⟨b,hb⟩ := h a List.mem_cons_self
    obtain ⟨bs,hbs⟩ := ih fun a' ha' => h a' (List.mem_cons_of_mem _ ha')
    exact ⟨b::bs,.cons hb hbs⟩

/-- An element of the first of two related lists has a partner in the second. -/
theorem partner_of_mem (h : List.Forall₂ R as bs) (ha : a∈as) : ∃ b∈bs,R a b := by
  induction h with
  | nil => cases ha
  | cons hr _ ih =>
    obtain rfl|ha := List.mem_cons.mp ha
    · exact ⟨_,List.mem_cons_self,hr⟩
    · obtain ⟨b,hb,hr⟩ := ih ha
      exact ⟨b,List.mem_cons_of_mem _ hb,hr⟩

/-- A map of fallible computations succeeds where each of them does. -/
theorem mapM_isOk : (∃ bs,as.mapM f=.ok bs) ↔ ∀ a∈as,∃ b,f a=.ok b := by
  constructor
  · rintro ⟨bs,h⟩ a ha
    obtain ⟨b,-,hb⟩ := partner_of_mem (mapM_ok.mp h) ha
    exact ⟨b,hb⟩
  · intro h
    obtain ⟨bs,hbs⟩ := exists_forall₂ h
    exact ⟨bs,mapM_ok.mpr hbs⟩

/-- A map of partial functions gives something where each element does. -/
theorem mapM_isSome {f : α → Option β} : (∃ bs,as.mapM f=some bs) ↔ ∀ a∈as,∃ b,f a=some b := by
  induction as with
  | nil => exact iff_of_true ⟨[],rfl⟩ (List.forall_mem_nil _)
  | cons a as ih =>
    rw [List.mapM_cons,List.forall_mem_cons,← ih]
    simp only [Option.bind_eq_bind,Option.bind_eq_some_iff]
    constructor
    · rintro ⟨-,b,hb,bs,hbs,-⟩
      exact ⟨⟨b,hb⟩,bs,hbs⟩
    · rintro ⟨⟨b,hb⟩,bs,hbs⟩
      exact ⟨b::bs,b,hb,bs,hbs,rfl⟩

/-- Relatives of pairwise related elements are pairwise related. -/
theorem pairwise_of_forall₂ {P : α → α → Prop} {Q : β → β → Prop} (h : List.Forall₂ R as bs)
    (hp : as.Pairwise P) (hq : ∀ a a' b b',R a b → R a' b' → P a a' → Q b b') : bs.Pairwise Q := by
  induction h with
  | nil => exact .nil
  | cons hr hrest ih =>
    obtain ⟨hhead,htail⟩ := List.pairwise_cons.mp hp
    refine List.pairwise_cons.mpr ⟨fun b' hb' => ?_,ih htail⟩
    obtain ⟨a',ha',hr'⟩ := partner_of_mem hrest.flip hb'
    exact hq _ _ _ _ hr hr' (hhead a' ha')

/-- Related lists have equally many elements that count. -/
theorem countP_of_forall₂ {p : α → Bool} {q : β → Bool} (h : List.Forall₂ R as bs)
    (hpq : ∀ a b,R a b → (p a=true ↔ q b=true)) : as.countP p=bs.countP q := by
  rw [List.countP_eq_length_filter,List.countP_eq_length_filter]
  exact (List.rel_filter (fun a b => hpq a b) h).length_eq

/-- Two computations that succeed alike. -/
structure SameOk (x y : Except ε α) : Prop where
  ok_iff : ∀ a,x=.ok a ↔ y=.ok a

theorem SameOk.refl (x : Except ε α) : SameOk x x := ⟨fun _ => Iff.rfl⟩

theorem sameOk_error (e e' : ε) : SameOk (.error e : Except ε α) (.error e') :=
  ⟨fun _ => ⟨fun h => (by cases h),fun h => (by cases h)⟩⟩

theorem SameOk.bind {y : Except ε α} {g : α → Except ε β} (h : SameOk x y)
    (hf : ∀ a,SameOk (f a) (g a)) : SameOk (x >>= f) (y >>= g) := by
  refine ⟨fun b => ?_⟩
  rw [bind_ok,bind_ok]
  exact exists_congr fun a => and_congr (h.ok_iff a) ((hf a).ok_iff b)

end Voyagent.FallibleResults
