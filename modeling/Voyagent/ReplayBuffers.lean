import Mathlib.Data.List.Basic
import Mathlib.Data.List.Infix

/-!
# Numbered logs and capped replay buffers

A log numbers its entries from a base on. A replay buffer numbers what it
records and keeps the last entries of everything it has recorded. While it
still holds all entries after a number, replaying from there gives exactly
the rest of the log.
-/

namespace Voyagent.ReplayBuffers

variable {α : Type}

/-- Entries numbered one by one above a base. -/
def Numbered (base : Nat) (log : List (Nat × α)) : Prop :=
  log.map Prod.fst=List.range' (base+1) log.length

/-- A counter and the latest entries recorded under it. -/
structure ReplayBuffer (α : Type) where
  counter : Nat
  frames : List (Nat × α)
  /-- Nothing is numbered beyond the counter. -/
  bounded : ∀ e∈frames,e.1≤counter

/-- A buffer nothing was recorded in. -/
def ReplayBuffer.empty : ReplayBuffer α := ⟨0,[],nofun⟩

/-- Record an entry under the next number, keeping at most `cap` entries. -/
def ReplayBuffer.record (cap : Nat) (b : ReplayBuffer α) (a : α) : ReplayBuffer α where
  counter := b.counter+1
  frames := (b.frames++[(b.counter+1,a)]).drop ((b.frames++[(b.counter+1,a)]).length-cap)
  bounded := fun e he => by
    rcases List.mem_append.mp (List.mem_of_mem_drop he) with he|he
    · exact Nat.le_succ_of_le (b.bounded e he)
    · rw [List.mem_singleton.mp he]

/-- Record entries into an empty buffer. -/
def ReplayBuffer.recordAll (cap : Nat) (as : List α) : ReplayBuffer α :=
  as.foldl (ReplayBuffer.record cap) .empty

/-- The entries under their numbers. -/
def numberFrom (base : Nat) : List α → List (Nat × α)
  | [] => []
  | a::as => (base+1,a)::numberFrom (base+1) as

/-- The entries a reader of number `n` has not seen. -/
def ReplayBuffer.replay (b : ReplayBuffer α) (n : Nat) : List (Nat × α) :=
  b.frames.filter fun e => decide (n<e.1)

variable {base n cap : Nat} {log rest : List (Nat × α)} {b : ReplayBuffer α} {a : α}

@[simp] theorem record_counter (cap : Nat) (b : ReplayBuffer α) (a : α) :
    (b.record cap a).counter=b.counter+1 := rfl

theorem record_frames (cap : Nat) (b : ReplayBuffer α) (a : α) :
    (b.record cap a).frames=
      (b.frames++[(b.counter+1,a)]).drop ((b.frames++[(b.counter+1,a)]).length-cap) := rfl

theorem numbered_nil : Numbered base ([] : List (Nat × α)) := rfl

theorem numbered_cons_iff {e : Nat × α} :
    Numbered base (e::log) ↔ e.1=base+1 ∧ Numbered (base+1) log := by
  simp [Numbered,List.range'_succ]

theorem Numbered.snoc (h : Numbered base log) (a : α) :
    Numbered base (log++[(base+log.length+1,a)]) := by
  unfold Numbered at h ⊢
  rw [List.map_append,h,List.length_append,List.length_singleton,List.range'_concat]
  simp only [List.map_cons,List.map_nil,Nat.one_mul]
  congr 2
  omega

theorem Numbered.increasing (h : Numbered base log) : (log.map Prod.fst).Pairwise (·<·) := by
  rw [h]
  exact List.pairwise_lt_range'

/-- The number of the last entry counts the entries. -/
theorem Numbered.length_of_last (h : Numbered base log) {e : Nat × α} (hl : log.getLast?=some e) :
    e.1=base+log.length := by
  induction log using List.reverseRecOn with
  | nil => cases hl
  | append_singleton log e' _ =>
    rw [List.getLast?_concat] at hl
    obtain rfl := Option.some.inj hl
    unfold Numbered at h
    rw [List.map_append,List.length_append,List.length_singleton,List.range'_concat] at h
    have hlast := (List.append_inj' h rfl).2
    simp only [List.map_cons,List.map_nil,List.cons.injEq,and_true,Nat.one_mul] at hlast
    rw [hlast,List.length_append,List.length_singleton]
    omega

theorem Numbered.initial (h : Numbered base log) (hp : rest<+:log) : Numbered base rest := by
  obtain ⟨tail,rfl⟩ := hp
  unfold Numbered at h ⊢
  rw [List.map_append,List.length_append,← List.range'_append_1] at h
  exact (List.append_inj h (by simp)).1

/-- Reading on from a number is dropping what it counts. -/
theorem Numbered.filter (h : Numbered base log) (n : Nat) :
    log.filter (fun e => decide (n<e.1))=log.drop (n-base) := by
  induction log generalizing base with
  | nil => simp
  | cons e log ih =>
    obtain ⟨he,hlog⟩ := numbered_cons_iff.mp h
    have hrest := ih hlog
    by_cases hn : n<e.1
    · rw [List.filter_cons_of_pos (by simpa using hn),hrest,show n-(base+1)=0 by omega,
        show n-base=0 by omega]
      simp
    · rw [List.filter_cons_of_neg (by simpa using hn),hrest,
        show n-base=(n-(base+1))+1 by omega,List.drop_succ_cons]

/-- The buffer holds a last part of the log, behind entries from before it. -/
def Retains (base : Nat) (log : List (Nat × α)) (b : ReplayBuffer α) : Prop :=
  b.counter=base+log.length ∧ ∃ older kept,b.frames=older++kept ∧ (∀ e∈older,e.1≤base) ∧ kept<:+log

/-- A log starts empty at any buffer. -/
theorem retains_start (b : ReplayBuffer α) : Retains b.counter [] b :=
  ⟨rfl,b.frames,[],by simp,b.bounded,List.suffix_refl _⟩

/-- Recording extends the log. -/
theorem Retains.record (h : Retains base log b) (cap : Nat) (a : α) :
    Retains base (log++[(b.counter+1,a)]) (b.record cap a) := by
  obtain ⟨hcounter,older,kept,hframes,hold,hkept⟩ := h
  refine ⟨?_,?_⟩
  · rw [record_counter,hcounter,List.length_append,List.length_singleton,Nat.add_assoc]
  · have hsplit : (b.record cap a).frames=
        (older++(kept++[(b.counter+1,a)])).drop ((b.frames++[(b.counter+1,a)]).length-cap) := by
      rw [record_frames,hframes,List.append_assoc]
    refine ⟨_,_,hsplit.trans List.drop_append,fun e he => hold e (List.mem_of_mem_drop he),?_⟩
    obtain ⟨front,rfl⟩ := hkept
    exact (List.drop_suffix _ _).trans ⟨front,by rw [List.append_assoc]⟩

/-- A replay nothing is missing from is the rest of the log. -/
theorem Retains.replay_exact (h : Retains base log b) (hlog : Numbered base log) (hn : base≤n)
    (hlen : (b.replay n).length=b.counter-n) : b.replay n=log.drop (n-base) := by
  obtain ⟨hcounter,older,kept,hframes,hold,front,hfront⟩ := h
  have holder : older.filter (fun e => decide (n<e.1))=[] :=
    List.filter_eq_nil_iff.mpr fun e he => by
      have := hold e he
      simp only [decide_eq_true_eq]
      omega
  have hsuffix : b.replay n<:+log.drop (n-base) := by
    rw [ReplayBuffer.replay,hframes,List.filter_append,holder,List.nil_append,← hlog.filter n,
      ← hfront,List.filter_append]
    exact List.suffix_append _ _
  refine hsuffix.eq_of_length ?_
  rw [hlen,hcounter,List.length_drop]
  omega

@[simp] theorem length_numberFrom (base : Nat) (as : List α) :
    (numberFrom base as).length=as.length := by
  induction as generalizing base with
  | nil => rfl
  | cons a as ih => rw [numberFrom,List.length_cons,List.length_cons,ih]

theorem numberFrom_snoc (base : Nat) (as : List α) (a : α) :
    numberFrom base (as++[a])=numberFrom base as++[(base+as.length+1,a)] := by
  induction as generalizing base with
  | nil => rfl
  | cons b as ih =>
    rw [List.cons_append,numberFrom,ih,numberFrom,List.length_cons,List.cons_append]
    congr 5
    omega

theorem numbered_numberFrom (base : Nat) (as : List α) : Numbered base (numberFrom base as) := by
  induction as generalizing base with
  | nil => exact numbered_nil
  | cons a as ih => exact numbered_cons_iff.mpr ⟨rfl,ih (base+1)⟩

@[simp] theorem recordAll_snoc (cap : Nat) (as : List α) (a : α) :
    ReplayBuffer.recordAll cap (as++[a])=(ReplayBuffer.recordAll cap as).record cap a := by
  rw [ReplayBuffer.recordAll,List.foldl_append]
  rfl

@[simp] theorem recordAll_counter (cap : Nat) (as : List α) :
    (ReplayBuffer.recordAll cap as).counter=as.length := by
  induction as using List.reverseRecOn with
  | nil => rfl
  | append_singleton as a ih =>
    rw [recordAll_snoc,record_counter,ih,List.length_append,List.length_singleton]

/-- A buffer holds the last entries of everything recorded into it. -/
theorem recordAll_frames (cap : Nat) (as : List α) :
    (ReplayBuffer.recordAll cap as).frames=(numberFrom 0 as).drop (as.length-cap) := by
  induction as using List.reverseRecOn with
  | nil => simp [ReplayBuffer.recordAll,ReplayBuffer.empty,numberFrom]
  | append_singleton as a ih =>
    have hlen : as.length-cap≤(numberFrom 0 as).length := by
      rw [length_numberFrom]
      exact Nat.sub_le _ _
    have hnew : (numberFrom 0 as).drop (as.length-cap)++[(as.length+1,a)]=
        (numberFrom 0 (as++[a])).drop (as.length-cap) := by
      rw [numberFrom_snoc,Nat.zero_add,List.drop_append_of_le_length hlen]
    rw [recordAll_snoc,record_frames,ih,recordAll_counter,hnew,List.drop_drop,List.length_drop,
      length_numberFrom,List.length_append,List.length_singleton]
    congr 1
    omega

/-- What follows number `n` among the entries kept is everything that follows
it exactly when no later entry was dropped. -/
theorem Numbered.filter_drop_iff (h : Numbered 0 log) (k n : Nat) (hk : k≤log.length) :
    (log.drop k).filter (fun e => decide (n<e.1))=log.filter (fun e => decide (n<e.1)) ↔ k≤n := by
  have hrest : Numbered k (log.drop k) := by
    unfold Numbered at h ⊢
    rw [List.map_drop,h,List.drop_range',List.length_drop]
    congr 1
    omega
  rw [hrest.filter,h.filter,List.drop_drop,Nat.sub_zero]
  constructor
  · intro heq
    have hlen := congrArg List.length heq
    rw [List.length_drop,List.length_drop] at hlen
    omega
  · intro hle
    rw [Nat.add_sub_of_le hle]

end Voyagent.ReplayBuffers
