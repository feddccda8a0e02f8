import Voyagent.LockHolders
import Voyagent.RuntimeValues
import Voyagent.TransitionRuns

/-!
# The pool of browser contexts

Contexts are kept per tenant and namespace and reused by later uses of the key.
A use takes the pool's lock, closes what has been idle too long, and finds its
context or makes one. The branch that makes room is guarded by there being no
idle context, so it finds none to close: a full pool with an idle context grows.
-/

namespace Voyagent.BrowserPool

open KeyedMap RuntimeValues TransitionRuns LockHolders

/-- The settings of the pool. -/
structure Settings where
  maxConcurrency : Nat
  contextIdleEvictionSeconds : Int

/-- A tenant and a namespace. -/
abbrev Key : Type := EntityId × String

/-- `_PooledContext` without its context, which is its number. -/
structure PooledContext where
  lastUsed : Int
  inUse : Bool := false
  /-- Its lock is held. -/
  locked : Bool := false
  deriving DecidableEq

/-- Where a use of `acquire` stands. -/
inductive Stage where
  | idle
  /-- Holds the pool's lock, with stale contexts left to close. -/
  | evicting (stale : List Key)
  /-- Holds the pool's lock and closes the context it makes room with. -/
  | replacing (context : Nat)
  /-- Holds the pool's lock and asks the browser for a context. -/
  | creating
  /-- Waits for the lock of a context. -/
  | waiting (context : Nat)
  | holding (context : Nat)
  | released
  /-- Ended by the error of a full pool. -/
  | exhausted
  /-- Ended by an error of the browser. -/
  | failed
  deriving DecidableEq

/-- The pool, the browser and the uses. -/
structure World where
  /-- `_contexts`. -/
  contexts : Table Key Nat := []
  records : Nat → PooledContext := fun _ => ⟨0,false,false⟩
  /-- Contexts the browser has made and not closed. -/
  live : List Nat := []
  /-- How many contexts the browser has made. -/
  made : Nat := 0
  /-- The use that holds the pool's lock. -/
  holder : Option Nat := none
  stages : Nat → Stage := fun _ => .idle

inductive Act where
  /-- Take the pool's lock and list what is stale. -/
  | enter (r : Nat) (now : Int)
  /-- Drop and close a stale context; a close that fails may leave it open. -/
  | evict (r : Nat) (closed : Bool)
  /-- Look the key up, or decide how to make a context. -/
  | look (r : Nat)
  /-- The context dropped for room is closed. -/
  | replace (r : Nat) (closed : Bool)
  /-- The browser made a context, or failed to. -/
  | create (r : Nat) (now : Int) (made : Bool)
  /-- Get the context's lock after waiting for it. -/
  | lock (r : Nat)
  /-- Leave the block, by its end or by an exception. -/
  | release (r : Nat) (now : Int)
  deriving DecidableEq

def World.at (w : World) (r : Nat) (st : Stage) : World :=
  {w with stages := Function.update w.stages r st}

/-- The entries whose context is not in use. -/
def World.idle (w : World) : Table Key Nat := w.contexts.filter fun e => !(w.records e.2).inUse

/-- The keys `_evict_stale_locked` drops. -/
def World.stale (cfg : Settings) (w : World) (now : Int) : List Key :=
  (w.idle.filter fun e => decide (cfg.contextIdleEvictionSeconds<now-(w.records e.2).lastUsed)).map Prod.fst

/-- The idle entry that was used the longest ago. -/
def World.oldestIdle (w : World) : Option (Key × Nat) :=
  (w.idle.mergeSort fun a b => decide ((w.records a.2).lastUsed≤(w.records b.2).lastUsed)).head?

/-- A context is closed, unless the close left it open. -/
def World.close (w : World) (context : Nat) (closed : Bool) : World :=
  {w with live := if closed then w.live.erase context else w.live}

/-- Take a context whose lock is free. -/
def World.hold (w : World) (r context : Nat) : World :=
  {w.at r (.holding context) with
    records := Function.update w.records context
      {w.records context with inUse := true,locked := true}}

/-- One step of a use; `keys` gives the key of each. -/
def step (cfg : Settings) (keys : Nat → Key) (w : World) : Act → Option World
  | .enter r now =>
    match w.stages r,w.holder with
    | .idle,none => some {w.at r (.evicting (w.stale cfg now)) with holder := some r}
    | _,_ => none
  | .evict r closed =>
    match w.stages r with
    | .evicting (k::stale) =>
      match get w.contexts k with
      | some context =>
        some (World.close {w.at r (.evicting stale) with contexts := erase w.contexts k} context closed)
      | none => none
    | _ => none
  | .look r =>
    match w.stages r with
    | .evicting [] =>
      match get w.contexts (keys r) with
      | some context =>
        let unlocked := {w with holder := none}
        if (w.records context).locked then some (unlocked.at r (.waiting context))
        else some (unlocked.hold r context)
      | none =>
        if w.idle.length=0 ∧ cfg.maxConcurrency≤w.contexts.length then
          match w.oldestIdle with
          | none => some {w.at r .exhausted with holder := none}
          | some (k,context) => some {w.at r (.replacing context) with contexts := erase w.contexts k}
        else some (w.at r .creating)
    | _ => none
  | .replace r closed =>
    match w.stages r with
    | .replacing context => some ((w.at r .creating).close context closed)
    | _ => none
  | .create r now made =>
    match w.stages r with
    | .creating =>
      let unlocked := {w with holder := none}
      if made then
        some (World.hold
          { unlocked with
            contexts := set w.contexts (keys r) w.made
            records := Function.update w.records w.made ⟨now,false,false⟩
            live := w.live++[w.made]
            made := w.made+1 } r w.made)
      else some (unlocked.at r .failed)
    | _ => none
  | .lock r =>
    match w.stages r with
    | .waiting context => if (w.records context).locked then none else some (w.hold r context)
    | _ => none
  | .release r now =>
    match w.stages r with
    | .holding context =>
      some {w.at r .released with records := Function.update w.records context ⟨now,false,false⟩}
    | _ => none

/-- Uses that overlap in any way. -/
def Step (cfg : Settings) (keys : Nat → Key) : World → Act → World → Prop := ofPartial (step cfg keys)

/-- Every close closes, and a use that needs a new context finds the pool below
its capacity or nothing idle in it. -/
def Room (cfg : Settings) (keys : Nat → Key) (w : World) : Act → Prop
  | .evict _ closed => closed=true
  | .look r => get w.contexts (keys r)=none → w.contexts.length<cfg.maxConcurrency ∨ w.idle=[]
  | _ => True

instance (cfg : Settings) (keys : Nat → Key) (w : World) (a : Act) : Decidable (Room cfg keys w a) := by
  unfold Room
  cases a <;> infer_instance

/-- The use holds the pool's lock. -/
def Stage.inside : Stage → Bool
  | .evicting _ | .replacing _ | .creating => true
  | _ => false

/-- What binds a use in the section: there is room for the context it makes, and
none is closed for room. -/
def StageFact (cfg : Settings) (contexts : Table Key Nat) (key : Key) : Stage → Prop
  | .creating => get contexts key=none ∧ contexts.length<cfg.maxConcurrency
  | .replacing _ => False
  | _ => True

/-- Known in every state of a run with room: what is alive is what is kept. -/
structure Within (cfg : Settings) (keys : Nat → Key) (w : World) : Prop where
  live : w.live.Perm (w.contexts.map Prod.snd)
  room : w.contexts.length≤cfg.maxConcurrency
  alone : Exclusive Stage.inside w.holder w.stages
  stages : ∀ r,StageFact cfg w.contexts (keys r) (w.stages r)

section Steps

variable {cfg : Settings} {keys : Nat → Key} {w w' : World} {r : Nat} {contexts : Table Key Nat}

theorem within_fresh : Within cfg keys {} := ⟨List.Perm.refl _,Nat.zero_le _,nofun,fun _ => trivial⟩

/-- Outside the section nothing is promised. -/
theorem stageFact_outside (contexts : Table Key Nat) (r : Nat) (st : Stage) (h : st.inside=false) :
    StageFact cfg contexts (keys r) st := by
  cases st with
  | creating => cases h
  | replacing _ => cases h
  | idle | evicting _ | waiting _ | holding _ | released | exhausted | failed => trivial

/-- With nothing idle there is nothing to make room with. -/
theorem oldestIdle_none (h : w.idle.length=0) : w.oldestIdle=none := by
  unfold World.oldestIdle
  rw [List.length_eq_zero_iff.mp h,List.mergeSort_nil]
  rfl

/-- What a step can do. -/
inductive Moves (cfg : Settings) (keys : Nat → Key) (w : World) : Act → World → Prop
  | enter {r : Nat} {now : Int} (hidle : w.stages r=.idle) (hfree : w.holder=none) :
      Moves cfg keys w (.enter r now) {w.at r (.evicting (w.stale cfg now)) with holder := some r}
  | evict {r : Nat} {closed : Bool} {k : Key} {stale : List Key} {context : Nat}
      (hr : w.stages r=.evicting (k::stale)) (hget : get w.contexts k=some context) :
      Moves cfg keys w (.evict r closed)
        (World.close {w.at r (.evicting stale) with contexts := erase w.contexts k} context closed)
  | wait {r context : Nat} (hr : w.stages r=.evicting []) (hget : get w.contexts (keys r)=some context)
      (hlocked : (w.records context).locked=true) :
      Moves cfg keys w (.look r) {w.at r (.waiting context) with holder := none}
  | take {r context : Nat} (hr : w.stages r=.evicting []) (hget : get w.contexts (keys r)=some context)
      (hfree : (w.records context).locked=false) :
      Moves cfg keys w (.look r) (World.hold {w with holder := none} r context)
  | exhausted {r : Nat} (hr : w.stages r=.evicting []) (habsent : get w.contexts (keys r)=none)
      (hfull : w.idle.length=0 ∧ cfg.maxConcurrency≤w.contexts.length) :
      Moves cfg keys w (.look r) {w.at r .exhausted with holder := none}
  | make {r : Nat} (hr : w.stages r=.evicting []) (habsent : get w.contexts (keys r)=none)
      (hnot : ¬(w.idle.length=0 ∧ cfg.maxConcurrency≤w.contexts.length)) :
      Moves cfg keys w (.look r) (w.at r .creating)
  | replace {r context : Nat} {closed : Bool} (hr : w.stages r=.replacing context) :
      Moves cfg keys w (.replace r closed) ((w.at r .creating).close context closed)
  | create {r : Nat} {now : Int} (hr : w.stages r=.creating) :
      Moves cfg keys w (.create r now true) (World.hold
        { w with
          holder := none
          contexts := set w.contexts (keys r) w.made
          records := Function.update w.records w.made ⟨now,false,false⟩
          live := w.live++[w.made]
          made := w.made+1 } r w.made)
  | unmade {r : Nat} {now : Int} (hr : w.stages r=.creating) :
      Moves cfg keys w (.create r now false) {w.at r .failed with holder := none}
  | lock {r context : Nat} (hr : w.stages r=.waiting context)
      (hfree : (w.records context).locked=false) : Moves cfg keys w (.lock r) (w.hold r context)
  | release {r context : Nat} {now : Int} (hr : w.stages r=.holding context) :
      Moves cfg keys w (.release r now)
        {w.at r .released with records := Function.update w.records context ⟨now,false,false⟩}

theorem step_moves {a : Act} (hs : Step cfg keys w a w') : Moves cfg keys w a w' := by
  unfold Step ofPartial step at hs
  cases a with
  | enter r now =>
    dsimp only at hs
    split at hs <;> cases hs
    exact .enter ‹_› ‹_›
  | evict r closed =>
    dsimp only at hs
    split at hs
    · split at hs <;> cases hs
      exact .evict ‹_› ‹_›
    · cases hs
  | look r =>
    dsimp only at hs
    split at hs
    · rename_i hr
      split at hs
      · split at hs <;> cases hs
        · exact .wait hr ‹_› ‹_›
        · exact .take hr ‹_› (Bool.eq_false_iff.mpr ‹_›)
      · split at hs
        · rename_i hfull
          rw [oldestIdle_none hfull.1] at hs
          cases hs
          exact .exhausted hr ‹_› hfull
        · cases hs
          exact .make hr ‹_› ‹_›
    · cases hs
  | replace r closed =>
    dsimp only at hs
    split at hs <;> cases hs
    exact .replace ‹_›
  | create r now made =>
    dsimp only at hs
    split at hs
    · cases made <;> cases hs
      · exact .unmade ‹_›
      · exact .create ‹_›
    · cases hs
  | lock r =>
    dsimp only at hs
    split at hs
    · split at hs <;> cases hs
      exact .lock ‹_› (Bool.eq_false_iff.mpr ‹_›)
    · cases hs
  | release r now =>
    dsimp only at hs
    split at hs <;> cases hs
    exact .release ‹_›

/-- A use moves and the contexts stay what they are. -/
theorem Within.moves (h : Within cfg keys w) {st : Stage}
    (hst : StageFact cfg w.contexts (keys r) st) :
    ∀ i,StageFact cfg w.contexts (keys i) (Function.update w.stages r st i) :=
  (Function.forall_update_iff w.stages fun i st => StageFact cfg w.contexts (keys i) st).mpr
    ⟨hst,fun i _ => h.stages i⟩

/-- The use in the section moves and changes the contexts. -/
theorem Within.changes (h : Within cfg keys w) (hr : (w.stages r).inside=true) {st : Stage}
    (hst : StageFact cfg contexts (keys r) st) :
    ∀ i,StageFact cfg contexts (keys i) (Function.update w.stages r st i) :=
  h.alone.facts hr (fun i st => stageFact_outside contexts i st) hst

/-- A stale context is dropped and closed. -/
theorem Within.evict (h : Within cfg keys w) {k : Key} {stale : List Key} {context : Nat}
    (hr : w.stages r=.evicting (k::stale)) (hget : get w.contexts k=some context) :
    Within cfg keys
      (World.close {w.at r (.evicting stale) with contexts := erase w.contexts k} context true) := by
  have hinside : (w.stages r).inside=true := hr ▸ rfl
  have hperm : w.contexts.Perm ((k,context)::erase w.contexts k) := perm_erase hget
  have hlength : w.contexts.length=(erase w.contexts k).length+1 := hperm.length_eq
  have hlive : w.live.Perm (context::(erase w.contexts k).map Prod.snd) :=
    h.live.trans (hperm.map Prod.snd)
  have herased := hlive.erase context
  rw [List.erase_cons_head] at herased
  have hroom := h.room
  have hfewer : (erase w.contexts k).length≤cfg.maxConcurrency := by omega
  exact ⟨herased,hfewer,h.alone.stay hinside _,h.changes hinside trivial⟩

/-- The browser answers with a new context. -/
theorem Within.create (h : Within cfg keys w) (hr : w.stages r=.creating) (now : Int) :
    Within cfg keys (World.hold
      { w with
        holder := none
        contexts := set w.contexts (keys r) w.made
        records := Function.update w.records w.made ⟨now,false,false⟩
        live := w.live++[w.made]
        made := w.made+1 } r w.made) := by
  have hinside : (w.stages r).inside=true := hr ▸ rfl
  obtain ⟨habsent,hroom⟩ : StageFact cfg w.contexts (keys r) .creating := hr ▸ h.stages r
  have hset : set w.contexts (keys r) w.made=w.contexts++[(keys r,w.made)] := set_of_absent habsent _
  have hlive : (w.live++[w.made]).Perm ((set w.contexts (keys r) w.made).map Prod.snd) := by
    rw [hset,List.map_append]
    exact h.live.append_right _
  have hlength : (set w.contexts (keys r) w.made).length≤cfg.maxConcurrency := by
    rw [hset,List.length_append,List.length_singleton]
    omega
  exact ⟨hlive,hlength,h.alone.leave hinside rfl,h.changes hinside trivial⟩

/-- What one step with room preserves. -/
theorem Within.step {a : Act} (h : Within cfg keys w) (hs : Step cfg keys w a w')
    (hmet : Room cfg keys w a) : Within cfg keys w' := by
  have hinside : ∀ {r : Nat} {st : Stage},w.stages r=st → st.inside=true →
      (w.stages r).inside=true := fun hr hst => hr ▸ hst
  cases step_moves hs with
  | enter hidle hfree =>
    have halone : Exclusive Stage.inside none w.stages := hfree ▸ h.alone
    exact ⟨h.live,h.room,halone.enter _ _,h.moves trivial⟩
  | evict hr hget =>
    cases hmet
    exact h.evict hr hget
  | wait hr | take hr | exhausted hr =>
    exact ⟨h.live,h.room,h.alone.leave (hinside hr rfl) rfl,h.moves trivial⟩
  | make hr habsent hnot =>
    -- not the full pool without idle contexts, and the condition excludes the other full one
    have hroom : w.contexts.length<cfg.maxConcurrency := by
      rcases hmet habsent with hlt|hidle
      · exact hlt
      · have hlength : w.idle.length=0 := List.length_eq_zero_iff.mpr hidle
        omega
    exact ⟨h.live,h.room,h.alone.stay (hinside hr rfl) _,h.moves ⟨habsent,hroom⟩⟩
  | @replace r context _ hr =>
    have hnever : StageFact cfg w.contexts (keys r) (.replacing context) := hr ▸ h.stages r
    exact nomatch hnever
  | create hr => exact h.create hr _
  | unmade hr => exact ⟨h.live,h.room,h.alone.leave (hinside hr rfl) rfl,h.moves trivial⟩
  | lock | release => exact ⟨h.live,h.room,h.alone.outside rfl,h.moves trivial⟩

end Steps

/-- However uses overlap, as long as a use that needs a new context finds the
pool below its capacity or nothing idle in it, and closes do close, no more
contexts are alive than the settings allow. -/
theorem live_within_capacity (cfg : Settings) (keys : Nat → Key) {acts : List Act} {w : World}
    (hrun : Run (guarded (Step cfg keys) (Room cfg keys)) {} acts w) :
    w.live.length≤cfg.maxConcurrency := by
  have hwithin : Within cfg keys w := hrun.guarded_invariant within_fresh fun _ _ _ => Within.step
  have hlength : w.live.length=w.contexts.length := by
    rw [hwithin.live.length_eq,List.length_map]
  have hroom := hwithin.room
  omega

/-- A pool of one context, kept for ten minutes. -/
def oneContext : Settings := ⟨1,600⟩

/-- Two agencies on the same portal. -/
def twoAgencies (r : Nat) : Key := (if r=0 then "agency-a" else "agency-b","vfs")

/-- A use after another, each making its context. -/
def oneAfterTheOther : List Act :=
  [.enter 0 0,.look 0,.create 0 1 true,.release 0 5,.enter 1 6,.look 1,.create 1 7 true]

/-- While the first use is still going on, the second is told that the pool is full. -/
theorem live_within_capacity_overlapping :
    ∃ w,Run (guarded (Step oneContext twoAgencies) (Room oneContext twoAgencies)) {}
        [.enter 0 0,.look 0,.create 0 1 true,.enter 1 6,.look 1] w ∧
      w.live.length≤oneContext.maxConcurrency := by
  have hfold : ([.enter 0 0,.look 0,.create 0 1 true,.enter 1 6,.look 1].foldlM
      (fun w a => if decide (Room oneContext twoAgencies w a) then step oneContext twoAgencies w a
        else none) ({} : World)).isSome=true := by decide +kernel
  obtain ⟨w,hw⟩ := Option.isSome_iff_exists.mp hfold
  have hrun : Run (guarded (Step oneContext twoAgencies) (Room oneContext twoAgencies)) {} _ w :=
    (Run.guarded_congr fun _ _ _ _ _ _ => decide_eq_true_iff).mp (guarded_run_of_foldlM hw)
  exact ⟨w,hrun,live_within_capacity _ _ hrun⟩

/-- After the first use its context stays, and the second use makes another. -/
theorem idle_context_exceeds_capacity :
    ∃ w,Run (Step oneContext twoAgencies) {} oneAfterTheOther w ∧
      ¬w.live.length≤oneContext.maxConcurrency := by
  have hfold : (oneAfterTheOther.foldlM (step oneContext twoAgencies) ({} : World)).map
      (fun w => w.live.length)=some 2 := by decide +kernel
  obtain ⟨w,hw,hlive⟩ := Option.map_eq_some_iff.mp hfold
  refine ⟨w,run_of_foldlM hw,?_⟩
  rw [hlive]
  decide

end Voyagent.BrowserPool
