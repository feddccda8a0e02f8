import Voyagent.BrowserPool

/-!
# Who has a context, and who closes it

A use gets a context under the pool's lock and its page under the context's
own lock. Between the end of one use and the start of a waiting one the context
looks idle. As long as no eviction lists a context in that gap, what a use waits
for or holds stays the pool's context of its key.
-/

namespace Voyagent.PoolExclusivity

open KeyedMap RuntimeValues TransitionRuns LockHolders BrowserPool

/-- The use has obtained the context, and waits for its lock or holds it. -/
def Uses (st : Stage) (context : Nat) : Prop := st=.waiting context ∨ st=.holding context

/-- No context that an eviction lists as stale has a use waiting for its lock. -/
def NoWaiterStale (cfg : Settings) (w : World) : Act → Prop
  | .enter _ now => ∀ k∈w.stale cfg now,∀ context,get w.contexts k=some context →
    ∀ r,w.stages r≠.waiting context
  | _ => True

/-- The keys contexts were created for, in the order of their numbers. -/
def creations (keys : Nat → Key) (acts : List Act) : List Key :=
  acts.filterMap fun
    | .create r _ true => some (keys r)
    | _ => none

/-- What binds a use by its stage. -/
def StageFact (w : World) (key : Key) : Stage → Prop
  | .creating => get w.contexts key=none
  | .replacing _ => False
  | .waiting context => get w.contexts key=some context
  | .holding context => get w.contexts key=some context ∧
    (w.records context).inUse=true ∧ (w.records context).locked=true
  | _ => True

/-- What is kept is open, under one key, and what is listed as stale is nobody's. -/
structure Sound (keys : Nat → Key) (w : World) : Prop where
  alone : Exclusive Stage.inside w.holder w.stages
  nodup : (w.contexts.map Prod.fst).Nodup
  fresh : ∀ k c,get w.contexts k=some c → c<w.made
  distinct : ∀ k k' c,get w.contexts k=some c → get w.contexts k'=some c → k=k'
  live : ∀ k c,get w.contexts k=some c → c∈w.live
  stages : ∀ r,StageFact w (keys r) (w.stages r)
  single : ∀ r r' c,w.stages r=.holding c → w.stages r'=.holding c → r=r'
  spared : ∀ r stale,w.stages r=.evicting stale → ∀ k∈stale,∀ c,get w.contexts k=some c →
    ∀ r',¬Uses (w.stages r') c

section Steps

variable {cfg : Settings} {keys : Nat → Key} {w w' : World} {r r' : Nat} {c : Nat} {st : Stage}

theorem sound_fresh : Sound keys {} := by
  refine ⟨?_,List.nodup_nil,?_,?_,?_,fun _ => trivial,?_,?_⟩
  · intro i h
    cases h
  · intro k c h
    cases h
  · intro k k' c h
    cases h
  · intro k c h
    cases h
  · intro i j c h
    cases h
  · intro i stale h
    cases h

/-- The use has no context in hand. -/
def emptyHanded : Stage → Bool
  | .waiting _ | .holding _ => false
  | _ => true

theorem not_uses (h : emptyHanded st=true) (c : Nat) : ¬Uses st c := by
  rintro (rfl|rfl) <;> cases h

/-- What a use has obtained is the pool's context of its key. -/
theorem Sound.kept (h : Sound keys w) (huses : Uses (w.stages r) c) :
    get w.contexts (keys r)=some c := by
  have hfact := h.stages r
  rcases huses with hr|hr
  · rwa [hr] at hfact
  · rw [hr] at hfact
    exact hfact.1

theorem Sound.busy (h : Sound keys w) (hr : w.stages r=.holding c) :
    (w.records c).inUse=true ∧ (w.records c).locked=true := by
  have hfact := h.stages r
  rw [hr] at hfact
  exact hfact.2

/-- A stage that is changed for one use. -/
theorem stage_update (stages : Nat → Stage) (r : Nat) (st : Stage) (r' : Nat) :
    (r'=r ∧ Function.update stages r st r'=st) ∨
      (r'≠r ∧ Function.update stages r st r'=stages r') := by
  by_cases h : r'=r
  · exact .inl ⟨h,by rw [h,Function.update_self]⟩
  · exact .inr ⟨h,Function.update_of_ne h _ _⟩

/-- A use that neither obtained a context before nor does so now changes no
holder and no user. -/
theorem uses_update {stages : Nat → Stage} (hst : ∀ c,¬Uses st c)
    (h : Uses (Function.update stages r st r') c) : r'≠r ∧ Uses (stages r') c := by
  rcases stage_update stages r st r' with ⟨_,heq⟩|⟨hne,heq⟩
  · rw [heq] at h
    exact absurd h (hst c)
  · rw [heq] at h
    exact ⟨hne,h⟩

/-- Holders stay single when a use moves to a stage that holds nothing. -/
theorem Sound.single_update (h : Sound keys w) (hst : ∀ c,¬Uses st c) (i j c : Nat)
    (hi : Function.update w.stages r st i=.holding c)
    (hj : Function.update w.stages r st j=.holding c) : i=j := by
  obtain ⟨hne,-⟩ := uses_update hst (.inr hi)
  obtain ⟨hne',-⟩ := uses_update hst (.inr hj)
  rw [Function.update_of_ne hne] at hi
  rw [Function.update_of_ne hne'] at hj
  exact h.single i j c hi hj

/-- While a use is in the section nobody else evicts. -/
theorem Sound.no_other_eviction (h : Sound keys w) (hr : (w.stages r).inside=true) (hne : r'≠r)
    (stale : List Key) : w.stages r'≠.evicting stale := by
  intro hr'
  have hout := h.alone.others hr hne
  rw [hr'] at hout
  cases hout

/-- A use moves and the contexts stay what they are. -/
theorem Sound.moves (h : Sound keys w) (hst : StageFact w (keys r) st) :
    ∀ i,StageFact w (keys i) (Function.update w.stages r st i) :=
  (Function.forall_update_iff w.stages fun i st => StageFact w (keys i) st).mpr
    ⟨hst,fun i _ => h.stages i⟩

/-- What is stale is not in use. -/
theorem mem_stale {now : Int} {k : Key} (h : k∈w.stale cfg now) :
    ∃ c,(k,c)∈w.contexts ∧ (w.records c).inUse=false := by
  obtain ⟨e,he,rfl⟩ := List.mem_map.mp h
  have hidle := List.mem_of_mem_filter he
  obtain ⟨hmem,huse⟩ := List.mem_filter.mp hidle
  exact ⟨e.2,hmem,by simpa using huse⟩

section

variable (h : Sound keys w)

include h

/-- An eviction starts, and nothing it lists is waited for. -/
theorem Sound.enter {now : Int} (hidle : w.stages r=.idle)
    (hfree : w.holder=none) (hcond : NoWaiterStale cfg w (.enter r now)) :
    Sound keys {w.at r (.evicting (w.stale cfg now)) with holder := some r} := by
  have halone : Exclusive Stage.inside none w.stages := hfree ▸ h.alone
  have hno : ∀ c,¬Uses (.evicting (w.stale cfg now)) c := not_uses rfl
  refine ⟨halone.enter r _,h.nodup,h.fresh,h.distinct,h.live,h.moves trivial,
    h.single_update hno,?_⟩
  intro i stale hi k hk c hget j hj
  obtain ⟨_,huses⟩ := uses_update hno hj
  rcases stage_update w.stages r (.evicting (w.stale cfg now)) i with ⟨rfl,heq⟩|⟨_,heq⟩
  · cases heq.symm.trans hi
    rcases huses with hwait|hhold
    · exact hcond k hk c hget j hwait
    · obtain ⟨c',hmem,hunused⟩ := mem_stale hk
      have hsame : get w.contexts k=some c' := (mem_iff_get h.nodup).mp hmem
      cases hsame.symm.trans hget
      rw [(h.busy hhold).1] at hunused
      cases hunused
  · have hold : w.stages i=.evicting stale := heq.symm.trans hi
    have hin := halone.nobody i
    rw [hold] at hin
    cases hin

/-- A stale context is dropped; it was nobody's. -/
theorem Sound.evict {k : Key} {stale : List Key} {context : Nat} {closed : Bool}
    (hr : w.stages r=.evicting (k::stale)) (hget : get w.contexts k=some context) :
    Sound keys
      (World.close {w.at r (.evicting stale) with contexts := erase w.contexts k} context closed) := by
  have hinside : (w.stages r).inside=true := hr ▸ rfl
  have hno : ∀ c,¬Uses (.evicting stale) c := not_uses rfl
  have hnobody : ∀ j,¬Uses (w.stages j) context :=
    h.spared r _ hr k List.mem_cons_self context hget
  have hkept : ∀ k' c,get (erase w.contexts k) k'=some c → k'≠k ∧ get w.contexts k'=some c := by
    intro k' c hc
    by_cases hk : k'=k
    · rw [hk,get_erase_self h.nodup] at hc
      cases hc
    · rw [get_erase_of_ne _ hk] at hc
      exact ⟨hk,hc⟩
  have hother : ∀ j c,Uses (w.stages j) c → get (erase w.contexts k) (keys j)=some c := by
    intro j c hj
    have hmine := h.kept hj
    have hk : keys j≠k := by
      intro heq
      rw [heq] at hmine
      cases hmine.symm.trans hget
      exact hnobody j hj
    rw [get_erase_of_ne _ hk]
    exact hmine
  refine ⟨h.alone.stay hinside _,nodup_erase h.nodup k,fun k' c hc => h.fresh k' c (hkept k' c hc).2,
    fun k' k'' c hc hc' => h.distinct k' k'' c (hkept k' c hc).2 (hkept k'' c hc').2,?_,?_,
    h.single_update hno,?_⟩
  · intro k' c hc
    obtain ⟨hk,hold⟩ := hkept k' c hc
    have hlive := h.live k' c hold
    have hne : c≠context := fun heq => hk (h.distinct k' k c hold (heq ▸ hget))
    change c∈(if closed then w.live.erase context else w.live)
    split
    · exact (List.mem_erase_of_ne hne).mpr hlive
    · exact hlive
  · refine (Function.forall_update_iff w.stages fun i st => StageFact _ (keys i) st).mpr
      ⟨trivial,fun i hi => ?_⟩
    have hfact := h.stages i
    cases hstage : w.stages i with
    | waiting c => exact hother i c (.inl hstage)
    | holding c => exact ⟨hother i c (.inr hstage),h.busy hstage⟩
    | replacing c =>
      rw [hstage] at hfact
      exact hfact
    | creating =>
      have hout := h.alone.others hinside hi
      rw [hstage] at hout
      cases hout
    | idle | evicting _ | released | exhausted | failed => trivial
  · intro i stale' hi k' hk' c hc j hj
    obtain ⟨_,huses⟩ := uses_update hno hj
    rcases stage_update w.stages r (.evicting stale) i with ⟨rfl,heq⟩|⟨hne,heq⟩
    · cases heq.symm.trans hi
      exact h.spared i _ hr k' (List.mem_cons_of_mem _ hk') c (hkept k' c hc).2 j huses
    · exact h.no_other_eviction hinside hne stale' (heq.symm.trans hi)

/-- A use leaves the section without a context. -/
theorem Sound.leave (hr : (w.stages r).inside=true) (hst : st.inside=false)
    (hno : ∀ c,¬Uses st c) (hfact : StageFact w (keys r) st) :
    Sound keys {w.at r st with holder := none} := by
  refine ⟨h.alone.leave hr hst,h.nodup,h.fresh,h.distinct,h.live,h.moves hfact,
    h.single_update hno,?_⟩
  intro i stale hi
  rcases stage_update w.stages r st i with ⟨_,heq⟩|⟨hne,heq⟩
  · cases heq.symm.trans hi
    cases hst
  · exact absurd (heq.symm.trans hi) (h.no_other_eviction hr hne stale)

/-- A free context of the use's own key is taken, by a use that waited for it or
while nobody evicts. -/
theorem Sound.hold (hmine : get w.contexts (keys r)=some c)
    (hfree : (w.records c).locked=false) (hquiet : w.holder=none ∨ Uses (w.stages r) c) :
    Sound keys (w.hold r c) := by
  have hnobody : ∀ j,w.stages j≠.holding c := by
    intro j hj
    have hlocked := (h.busy hj).2
    rw [hfree] at hlocked
    cases hlocked
  refine ⟨h.alone.outside rfl,h.nodup,h.fresh,h.distinct,h.live,?_,?_,?_⟩
  · refine (Function.forall_update_iff w.stages fun i st => StageFact _ (keys i) st).mpr
      ⟨⟨hmine,?_⟩,fun i hi => ?_⟩
    · change (Function.update w.records c _ c).inUse=true ∧ (Function.update w.records c _ c).locked=true
      rw [Function.update_self]
      exact ⟨rfl,rfl⟩
    · have hfact := h.stages i
      cases hstage : w.stages i with
      | holding c' =>
        have hne : c'≠c := fun heq => hnobody i (heq ▸ hstage)
        refine ⟨h.kept (.inr hstage),?_⟩
        change (Function.update w.records c _ c').inUse=true ∧
          (Function.update w.records c _ c').locked=true
        rw [Function.update_of_ne hne]
        exact h.busy hstage
      | idle | evicting _ | replacing _ | creating | waiting _ | released | exhausted | failed =>
        rw [hstage] at hfact
        exact hfact
  · intro i j c' hi hj
    rcases stage_update w.stages r (.holding c) i with ⟨hir,heq⟩|⟨_,heq⟩
    · cases heq.symm.trans hi
      rcases stage_update w.stages r (.holding c) j with ⟨hjr,_⟩|⟨_,heq'⟩
      · rw [hir,hjr]
      · exact absurd (heq'.symm.trans hj) (hnobody j)
    · have hold := heq.symm.trans hi
      rcases stage_update w.stages r (.holding c) j with ⟨_,heq'⟩|⟨_,heq'⟩
      · cases heq'.symm.trans hj
        exact absurd hold (hnobody i)
      · exact h.single i j c' hold (heq'.symm.trans hj)
  · intro i stale hi k hk c' hget j hj
    rcases stage_update w.stages r (.holding c) i with ⟨_,heq⟩|⟨_,heq⟩
    · cases heq.symm.trans hi
    · have hevicts := heq.symm.trans hi
      rcases stage_update w.stages r (.holding c) j with ⟨_,heq'⟩|⟨_,heq'⟩
      · change Uses (Function.update w.stages r (.holding c) j) c' at hj
        rw [heq'] at hj
        obtain rfl : c=c' := by
          rcases hj with hj|hj <;> cases hj
          rfl
        rcases hquiet with hnone|huses
        · have hin := h.alone i (by rw [hevicts]; rfl)
          rw [hnone] at hin
          cases hin
        · exact h.spared i stale hevicts k hk c hget r huses
      · change Uses (Function.update w.stages r (.holding c) j) c' at hj
        rw [heq'] at hj
        exact h.spared i stale hevicts k hk c' hget j hj

/-- A use finds the context of its key in use and waits for it. -/
theorem Sound.wait (hr : (w.stages r).inside=true)
    (hmine : get w.contexts (keys r)=some c) :
    Sound keys {w.at r (.waiting c) with holder := none} := by
  have hquiet : ∀ i stale,Function.update w.stages r (.waiting c) i≠.evicting stale := by
    intro i stale hi
    rcases stage_update w.stages r (.waiting c) i with ⟨_,heq⟩|⟨hne,heq⟩
    · cases heq.symm.trans hi
    · exact h.no_other_eviction hr hne stale (heq.symm.trans hi)
  refine ⟨h.alone.leave hr rfl,h.nodup,h.fresh,h.distinct,h.live,h.moves hmine,?_,
    fun i stale hi => absurd hi (hquiet i stale)⟩
  intro i j c' hi hj
  rcases stage_update w.stages r (.waiting c) i with ⟨_,heq⟩|⟨_,heq⟩
  · cases heq.symm.trans hi
  · rcases stage_update w.stages r (.waiting c) j with ⟨_,heq'⟩|⟨_,heq'⟩
    · cases heq'.symm.trans hj
    · exact h.single i j c' (heq.symm.trans hi) (heq'.symm.trans hj)

/-- A holder leaves its context free. -/
theorem Sound.release (hr : w.stages r=.holding c) (now : Int) :
    Sound keys {w.at r .released with records := Function.update w.records c ⟨now,false,false⟩} := by
  have hno : ∀ c,¬Uses .released c := not_uses rfl
  refine ⟨h.alone.outside rfl,h.nodup,h.fresh,h.distinct,h.live,?_,h.single_update hno,?_⟩
  · refine (Function.forall_update_iff w.stages fun i st => StageFact _ (keys i) st).mpr
      ⟨trivial,fun i hi => ?_⟩
    have hfact := h.stages i
    cases hstage : w.stages i with
    | holding c' =>
      have hne : c'≠c := fun heq => hi (h.single i r c (heq ▸ hstage) hr)
      refine ⟨h.kept (.inr hstage),?_⟩
      change (Function.update w.records c _ c').inUse=true ∧
        (Function.update w.records c _ c').locked=true
      rw [Function.update_of_ne hne]
      exact h.busy hstage
    | idle | evicting _ | replacing _ | creating | waiting _ | released | exhausted | failed =>
      rw [hstage] at hfact
      exact hfact
  · intro i stale hi k hk c' hget j hj
    obtain ⟨_,huses⟩ := uses_update hno hj
    rcases stage_update w.stages r .released i with ⟨_,heq⟩|⟨_,heq⟩
    · cases heq.symm.trans hi
    · exact h.spared i stale (heq.symm.trans hi) k hk c' hget j huses

/-- A use in the section goes on in it without a context. -/
theorem Sound.stay (hr : (w.stages r).inside=true) (hno : ∀ c,¬Uses st c)
    (hevicts : ∀ stale,st≠.evicting stale) (hfact : StageFact w (keys r) st) :
    Sound keys (w.at r st) := by
  refine ⟨h.alone.stay hr st,h.nodup,h.fresh,h.distinct,h.live,h.moves hfact,
    h.single_update hno,?_⟩
  intro i stale hi
  rcases stage_update w.stages r st i with ⟨_,heq⟩|⟨hne,heq⟩
  · exact absurd (heq.symm.trans hi) (hevicts stale)
  · exact absurd (heq.symm.trans hi) (h.no_other_eviction hr hne stale)

/-- The pool with one more context, filed under the key of the use that asked. -/
def filed (keys : Nat → Key) (w : World) (r : Nat) (now : Int) : World :=
  { w with
    holder := none
    contexts := set w.contexts (keys r) w.made
    records := Function.update w.records w.made ⟨now,false,false⟩
    live := w.live++[w.made]
    made := w.made+1 }

/-- A new context is filed, and nobody has obtained it yet. -/
theorem Sound.file (hr : w.stages r=.creating) (now : Int) :
    Sound keys ((filed keys w r now).at r .released) := by
  have hinside : (w.stages r).inside=true := hr ▸ rfl
  have habsent : get w.contexts (keys r)=none := by
    have hfact := h.stages r
    rwa [hr] at hfact
  have hno : ∀ c,¬Uses .released c := not_uses rfl
  have hcases : ∀ k c,get (set w.contexts (keys r) w.made) k=some c →
      (k=keys r ∧ c=w.made) ∨ get w.contexts k=some c := by
    intro k c hc
    rw [get_set] at hc
    split at hc
    · rename_i hk
      cases hc
      exact .inl ⟨hk.symm,rfl⟩
    · exact .inr hc
  have hmine : ∀ j c,Uses (w.stages j) c → get (set w.contexts (keys r) w.made) (keys j)=some c := by
    intro j c hj
    have hold := h.kept hj
    rw [get_set,if_neg]
    · exact hold
    · intro heq
      rw [← heq,habsent] at hold
      cases hold
  refine ⟨h.alone.leave hinside rfl,nodup_set h.nodup _ _,?_,?_,?_,?_,h.single_update hno,?_⟩
  · intro k c hc
    change c<w.made+1
    rcases hcases k c hc with ⟨_,rfl⟩|hold
    · omega
    · have hlt := h.fresh k c hold
      omega
  · intro k k' c hc hc'
    rcases hcases k c hc with ⟨hk,rfl⟩|hold
    · rcases hcases k' _ hc' with ⟨hk',_⟩|hold'
      · rw [hk,hk']
      · exact absurd (h.fresh k' _ hold') (lt_irrefl _)
    · rcases hcases k' c hc' with ⟨_,rfl⟩|hold'
      · exact absurd (h.fresh k _ hold) (lt_irrefl _)
      · exact h.distinct k k' c hold hold'
  · intro k c hc
    rcases hcases k c hc with ⟨_,rfl⟩|hold
    · exact List.mem_append_right _ List.mem_cons_self
    · exact List.mem_append_left _ (h.live k c hold)
  · refine (Function.forall_update_iff w.stages fun i st => StageFact _ (keys i) st).mpr
      ⟨trivial,fun i hi => ?_⟩
    have hfact := h.stages i
    cases hstage : w.stages i with
    | waiting c => exact hmine i c (.inl hstage)
    | holding c =>
      have hne : c≠w.made := Nat.ne_of_lt (h.fresh _ c (h.kept (.inr hstage)))
      refine ⟨hmine i c (.inr hstage),?_⟩
      change (Function.update w.records w.made _ c).inUse=true ∧
        (Function.update w.records w.made _ c).locked=true
      rw [Function.update_of_ne hne]
      exact h.busy hstage
    | creating =>
      have hout := h.alone.others hinside hi
      rw [hstage] at hout
      cases hout
    | replacing c =>
      rw [hstage] at hfact
      exact hfact
    | idle | evicting _ | released | exhausted | failed => trivial
  · intro i stale hi
    rcases stage_update w.stages r .released i with ⟨_,heq⟩|⟨hne,heq⟩
    · cases heq.symm.trans hi
    · exact absurd (heq.symm.trans hi) (h.no_other_eviction hinside hne stale)

/-- The browser answers, and the use takes the context at once. -/
theorem Sound.create (hr : w.stages r=.creating) (now : Int) :
    Sound keys ((filed keys w r now).hold r w.made) := by
  have hfiled := h.file hr now
  have hmine : get ((filed keys w r now).at r .released).contexts (keys r)=some w.made := by
    change get (set w.contexts (keys r) w.made) (keys r)=some w.made
    rw [get_set,if_pos rfl]
  have hfree : (((filed keys w r now).at r .released).records w.made).locked=false := by
    change (Function.update w.records w.made ⟨now,false,false⟩ w.made).locked=false
    rw [Function.update_self]
  have hheld := hfiled.hold hmine hfree (.inl rfl)
  have hsame : ((filed keys w r now).at r .released).hold r w.made=
      (filed keys w r now).hold r w.made := by
    unfold World.hold World.at
    simp only [Function.update_idem]
  rwa [hsame] at hheld

end

/-- What one step preserves, as long as no eviction lists a context that is waited for. -/
theorem Sound.step {a : Act} (h : Sound keys w) (hs : Step cfg keys w a w')
    (hmet : NoWaiterStale cfg w a) : Sound keys w' := by
  have hinside : ∀ {r : Nat} {st : Stage},w.stages r=st → st.inside=true →
      (w.stages r).inside=true := fun hr hst => hr ▸ hst
  cases step_moves hs with
  | enter hidle hfree => exact h.enter hidle hfree hmet
  | evict hr hget => exact h.evict hr hget
  | wait hr hget => exact h.wait (hinside hr rfl) hget
  | @take r context hr hget hfree =>
    have hleft : Sound keys {w.at r .released with holder := none} :=
      h.leave (hinside hr rfl) rfl (not_uses rfl) trivial
    have hheld := hleft.hold hget hfree (.inl rfl)
    have hsame : World.hold {w.at r .released with holder := none} r context=
        World.hold {w with holder := none} r context := by
      unfold World.hold World.at
      simp only [Function.update_idem]
    rwa [hsame] at hheld
  | exhausted hr | unmade hr => exact h.leave (hinside hr rfl) rfl (not_uses rfl) trivial
  | make hr habsent =>
    exact h.stay (hinside hr rfl) (not_uses rfl) (fun stale hc => by cases hc) habsent
  | @replace r _ _ hr =>
    have hnever := h.stages r
    rw [hr] at hnever
    exact hnever.elim
  | create hr => exact h.create hr _
  | lock hr hfree => exact h.hold (h.kept (.inl hr)) hfree (.inr (.inl hr))
  | release hr => exact h.release hr _

end Steps

/-! ## Runs -/

variable {cfg : Settings} {keys : Nat → Key} {acts : List Act} {w w' : World}

/-- Every context in hand or in the pool was created for its key. -/
structure CreatedFor (keys : Nat → Key) (acts : List Act) (w : World) : Prop where
  made : w.made=(creations keys acts).length
  nodup : (w.contexts.map Prod.fst).Nodup
  kept : ∀ k c,get w.contexts k=some c → (creations keys acts)[c]? =some k
  used : ∀ r c,Uses (w.stages r) c → (creations keys acts)[c]? =some (keys r)

theorem creations_append (keys : Nat → Key) (acts acts' : List Act) :
    creations keys (acts++acts')=creations keys acts++creations keys acts' :=
  List.filterMap_append

/-- A step that creates nothing files nothing new, and hands out only what is filed. -/
theorem CreatedFor.keeps (h : CreatedFor keys acts w) {a : Act} (hnone : creations keys [a]=[])
    (hmade : w'.made=w.made) (hnodup : (w'.contexts.map Prod.fst).Nodup)
    (hkept : ∀ k c,get w'.contexts k=some c → get w.contexts k=some c)
    (hused : ∀ r c,Uses (w'.stages r) c → Uses (w.stages r) c ∨ get w.contexts (keys r)=some c) :
    CreatedFor keys (acts++[a]) w' := by
  have hsame : creations keys (acts++[a])=creations keys acts := by
    rw [creations_append,hnone,List.append_nil]
  refine ⟨by rw [hsame,hmade,h.made],hnodup,fun k c hc => ?_,fun r c hc => ?_⟩
  · rw [hsame]
    exact h.kept k c (hkept k c hc)
  · rw [hsame]
    rcases hused r c hc with hold|hfiled
    · exact h.used r c hold
    · exact h.kept (keys r) c hfiled

variable {P : Nat → Nat → Prop} {st : Stage} {stages : Nat → Stage}

/-- Where one use moves, the others use what they used. -/
theorem uses_moved {r : Nat} (hst : ∀ c,Uses st c → P r c) (i c : Nat)
    (h : Uses (Function.update stages r st i) c) : Uses (stages i) c ∨ P i c := by
  rcases stage_update stages r st i with ⟨rfl,heq⟩|⟨_,heq⟩
  · rw [heq] at h
    exact .inr (hst c h)
  · rw [heq] at h
    exact .inl h

/-- A use that moves empty-handed. -/
theorem uses_emptied {r : Nat} (hst : emptyHanded st=true) (i c : Nat)
    (h : Uses (Function.update stages r st i) c) :
    Uses (stages i) c ∨ P i c := uses_moved (fun c hc => absurd hc (not_uses hst c)) i c h

/-- The one context a stage has in hand. -/
theorem uses_unique {c c' : Nat} (h : Uses st c) (h' : Uses st c') : c=c' := by
  rcases h with rfl|rfl <;> rcases h' with h'|h' <;> cases h' <;> rfl

theorem CreatedFor.step (h : CreatedFor keys acts w) {a : Act} (hs : Step cfg keys w a w') :
    CreatedFor keys (acts++[a]) w' := by
  cases step_moves hs with
  | enter | exhausted | make | replace | unmade | release =>
    exact h.keeps rfl rfl h.nodup (fun _ _ hc => hc) (uses_emptied rfl)
  | @evict _ _ k =>
    refine h.keeps rfl rfl (nodup_erase h.nodup k) (fun k' c hc => ?_) (uses_emptied rfl)
    change get (erase w.contexts k) k'=some c at hc
    by_cases hk : k'=k
    · rw [hk,get_erase_self h.nodup] at hc
      cases hc
    · rwa [get_erase_of_ne _ hk] at hc
  | wait hr hget =>
    refine h.keeps rfl rfl h.nodup (fun _ _ hc => hc) (uses_moved fun c hc => ?_)
    rwa [← uses_unique (.inl rfl) hc]
  | take hr hget =>
    refine h.keeps rfl rfl h.nodup (fun _ _ hc => hc) (uses_moved fun c hc => ?_)
    rwa [← uses_unique (.inr rfl) hc]
  | @create r now =>
    have hgrown : creations keys (acts++[.create r now true])=creations keys acts++[keys r] :=
      creations_append _ _ _
    have hnew : (creations keys (acts++[.create r now true]))[w.made]? =some (keys r) := by
      rw [hgrown,h.made,List.getElem?_concat_length]
    have hold : ∀ {c : Nat} {k : Key},(creations keys acts)[c]? =some k →
        (creations keys (acts++[.create r now true]))[c]? =some k := by
      intro c k hc
      rw [hgrown,List.getElem?_append_left (List.getElem?_eq_some_iff.mp hc).1]
      exact hc
    refine ⟨?_,nodup_set h.nodup _ _,fun k c hc => ?_,fun i c hc => ?_⟩
    · rw [hgrown,List.length_append,List.length_singleton,← h.made]
      rfl
    · change get (set w.contexts (keys r) w.made) k=some c at hc
      rw [get_set] at hc
      split at hc
      · rename_i hk
        cases hc
        rw [← hk]
        exact hnew
      · exact hold (h.kept k c hc)
    · rcases uses_moved (P:=fun i c => i=r ∧ c=w.made)
        (fun c hc => ⟨rfl,uses_unique hc (.inr rfl)⟩) i c hc with huses|⟨rfl,rfl⟩
      · exact hold (h.used i c huses)
      · exact hnew
  | @lock r context hr =>
    refine h.keeps rfl rfl h.nodup (fun _ _ hc => hc) fun i c hc => ?_
    rcases uses_moved (P:=fun i c => i=r ∧ c=context)
      (fun c hc => ⟨rfl,uses_unique hc (.inr rfl)⟩) i c hc with huses|⟨rfl,rfl⟩
    · exact .inl huses
    · exact .inl (.inl hr)

/-- In every run a use has in hand only contexts created for its key. -/
theorem run_createdFor (hrun : Run (Step cfg keys) {} acts w) : CreatedFor keys acts w := by
  induction hrun with
  | start =>
    refine ⟨rfl,List.nodup_nil,fun k c hc => (by cases hc),fun r c hc => ?_⟩
    exact absurd hc (not_uses rfl c)
  | next _ hs ih => exact ih.step hs

/-- Two holders of one key are the same use, and what a use waits for or holds was
created for its key, is the pool's context of it and is open. -/
structure ExclusiveAlive (keys : Nat → Key) (acts : List Act) (w : World) : Prop where
  exclusive : ∀ r r' c c',w.stages r=.holding c → w.stages r'=.holding c' →
    keys r=keys r' → r=r'
  own : ∀ r c : Nat,Uses (w.stages r) c → (creations keys acts)[c]? =some (keys r)
  alive : ∀ r c,Uses (w.stages r) c → get w.contexts (keys r)=some c ∧ c∈w.live

/-- The clock as the steps read it. -/
def readings (acts : List Act) : List Int :=
  acts.filterMap fun
    | .enter _ now | .create _ now _ | .release _ now => some now
    | _ => none

/-- However uses overlap and whatever the clock and the settings say: as long as
no eviction lists a context that a use waits for, every state reached is
exclusive and alive. -/
theorem contexts_exclusive_alive (cfg : Settings) (keys : Nat → Key) {acts : List Act} {w : World}
    (hrun : Run (guarded (Step cfg keys) (NoWaiterStale cfg)) {} acts w) :
    ExclusiveAlive keys acts w := by
  have hsound : Sound keys w := hrun.guarded_invariant sound_fresh fun _ _ _ => Sound.step
  refine ⟨fun r r' c c' hr hr' hkeys => ?_,fun r c huses => ?_,fun r c huses => ?_⟩
  · have hmine := hsound.kept (.inr hr)
    have hother := hsound.kept (.inr hr')
    rw [hkeys] at hmine
    cases hmine.symm.trans hother
    exact hsound.single r r' c hr hr'
  · exact (run_createdFor hrun.unguard).used r c huses
  · have hmine := hsound.kept huses
    exact ⟨hmine,hsound.live _ _ hmine⟩

/-- Half a minute, the least the settings allow, and one portal for every use but one. -/
def halfMinute : Settings := ⟨2,30⟩

def samePortal (r : Nat) : Key := (if r=2 then "agency-b" else "agency-a","vfs")

/-- An eviction that lists nothing spares every waiting use. -/
def listsNothing (cfg : Settings) (w : World) : Act → Bool
  | .enter _ now => decide (w.stale cfg now=[])
  | _ => true

theorem noWaiterStale_of_listsNothing {a : Act} (h : listsNothing cfg w a=true) :
    NoWaiterStale cfg w a := by
  cases a with
  | enter r now =>
    intro k hk
    rw [of_decide_eq_true h] at hk
    cases hk
  | evict | look | replace | create | lock | release => trivial

/-- A second use of the key waits, and gets the page when the first one ends. -/
theorem contexts_exclusive_alive_waiting :
    ∃ acts w,Run (guarded (Step halfMinute samePortal) (NoWaiterStale halfMinute)) {} acts w ∧
      w.stages 1=.holding 0 ∧ ExclusiveAlive samePortal acts w := by
  let acts : List Act :=
    [.enter 0 0,.look 0,.create 0 1 true,.enter 1 2,.look 1,.release 0 3,.lock 1]
  have hfold : (acts.foldlM (fun w a => if listsNothing halfMinute w a then
      step halfMinute samePortal w a else none) ({} : World)).map (fun w => w.stages 1)=
        some (.holding 0) := by decide +kernel
  obtain ⟨w,hw,hheld⟩ := Option.map_eq_some_iff.mp hfold
  have hrun : Run (guarded (Step halfMinute samePortal) (NoWaiterStale halfMinute)) {} acts w :=
    (guarded_run_of_foldlM hw).mono fun a l b hs => ⟨hs.1,noWaiterStale_of_listsNothing hs.2⟩
  exact ⟨acts,w,hrun,hheld,contexts_exclusive_alive _ _ hrun⟩

/-- Between the holder's release and the waiting use's wake-up the context looks
idle, and another agency's use closes it. -/
theorem waited_context_closed :
    ∃ acts w,(readings acts).Pairwise (· ≤ ·) ∧ Run (Step halfMinute samePortal) {} acts w ∧
      w.stages 1=.waiting 0 ∧ 0∉w.live ∧ ¬ExclusiveAlive samePortal acts w := by
  let acts : List Act := [.enter 0 0,.look 0,.create 0 1 true,.enter 1 2,.look 1,.release 0 3,
    .enter 2 34,.evict 2 true]
  have hfold : (acts.foldlM (step halfMinute samePortal) ({} : World)).map
      (fun w => (w.stages 1,w.live))=some (.waiting 0,[]) := by decide +kernel
  obtain ⟨w,hw,hseen⟩ := Option.map_eq_some_iff.mp hfold
  obtain ⟨hwaits,hlive⟩ := Prod.mk.inj hseen
  have hclosed : 0∉w.live := by
    rw [hlive]
    exact List.not_mem_nil
  exact ⟨acts,w,by decide,run_of_foldlM hw,hwaits,hclosed,fun h =>
    hclosed (h.alive 1 0 (.inl hwaits)).2⟩

end Voyagent.PoolExclusivity
