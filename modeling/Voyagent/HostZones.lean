import Voyagent.AppointmentSlots
import Voyagent.FallibleResults

/-!
# Appointments and the clock zone of the host

A text without an offset is read with the zone of the host the handler runs
on. Two hosts may read it up to two days apart, each with an offset of less
than a day; texts with an offset are read alike. Times are counted in
microseconds here.
-/

namespace Voyagent.HostZones

open KeyedMap GeneratorTraces GeneratorRelations RuntimeValues BrowserJobs PortalHandlers
open AppointmentSlots FallibleResults

/-- An ISO text read: the instant it stands for, or a wall time without an offset. -/
inductive IsoReading where
  | instant (t : Time)
  | wall (w : Time)
  deriving DecidableEq

def dayLength : Time := 24*3600*1000000

/-- A day or more away from both ends of the calendar. -/
def Inner (w : Time) : Prop :=
  -62135596800000000+dayLength≤w ∧ w≤253402300799999999-dayLength

/-- How a host reads wall times: each with an offset of less than a day, and
without an exception where the result is in the calendar. -/
structure HostZone where
  /-- `astimezone(timezone.utc)` of a naive `datetime`. -/
  toUtc : Time → Except Exn Time
  near : ∀ w u,toUtc w=.ok u → w-dayLength<u ∧ u<w+dayLength
  total : ∀ w,Inner w → ∃ u,toUtc w=.ok u

def HostZone.read (z : HostZone) : IsoReading → Except Exn Time
  | .instant t => .ok t
  | .wall w => z.toUtc w

/-- The library of a host. `parse` is `datetime.fromisoformat`, with the conversion
of what has an offset. -/
def zoned (lib : PortalLibrary) (parse : Json → Except Exn IsoReading) (z : HostZone) :
    PortalLibrary :=
  {lib with fromIso := fun v => parse v >>= z.read}

/-- What is clicked for the booking, and the time that is returned. -/
structure SameBooking (run run' : Trace Nat PageOp Halt Outputs) : Prop where
  clicks : run.events.filter books=run'.events.filter books
  appointment : (run.exit.toOption.bind fun out => get out "appointment_at")=
    run'.exit.toOption.bind fun out => get out "appointment_at"

/-- The run ends with an exception and has booked nothing. -/
def BooksNothing (run : Trace Nat PageOp Halt Outputs) : Prop :=
  run.events.filter books=[] ∧ ∃ k,run.exit=.error k

/-! ## What the texts stand for -/

section Readings

variable (parse : Json → Except Exn IsoReading) (answers : Answers)

/-- What a slot's text is read as, before the host's zone comes in. -/
def slotReading (slot : Element) : Except Exn (Option IsoReading) :=
  match (answers (.elementQuery slot "[data-time]") : Option Element) with
  | none => .ok none
  | some el =>
    match (answers (.elementAttribute el "data-time") : Option String).filter
      (fun s => decide (s≠"")) with
    | none => .ok none
    | some s =>
      match parse (.str s) with
      | .ok r => .ok (some r)
      | .error e => if e.isInstance "builtins.ValueError" then .ok none else .error e

def shownReading (slot : Element) : Option (IsoReading × Element) :=
  match slotReading parse answers slot with
  | .ok (some r) => some (r,slot)
  | _ => none

/-- The slots with a text that can be read, in the order of the page. -/
def shownReadings (slots : List Element) : List (IsoReading × Element) :=
  slots.filterMap (shownReading parse answers)

/-- The preferred window as `read` reads its texts. -/
def windowReadings {α : Type} (read : Json → Except Exn α) (inputs : Dict) :
    Except Exn (α × Option α) := do
  let startIso ← windowBound inputs "start"
  let endIso ← windowBound inputs "end"
  match startIso with
  | none => .error ⟨"ValueError",["builtins.ValueError"],
      "vfs.book_appointment: preferred_window.start is required.",none⟩
  | some v =>
    let start ← read v
    match endIso with
    | none => pure (start,none)
    | some w => do
      let last ← read w
      pure (start,some last)

/-- Nothing can be booked on any host: the window cannot be read, reading some slot
raises what the handler does not catch, or no slot can be read. -/
def NothingToBook (inputs : Dict) (slots : List Element) : Prop :=
  (∃ e,windowReadings parse inputs=.error e) ∨
    (∃ slot∈slots,∃ e,slotReading parse answers slot=.error e) ∨ shownReadings parse answers slots=[]

end Readings

/-- An instant the text can stand for: with an offset its own, without one any
within a day of the wall time. -/
def IsoReading.Possible : IsoReading → Time → Prop
  | .instant t,u => u=t
  | .wall w,u => w-dayLength<u ∧ u<w+dayLength

/-- A wall time is away from the ends of the calendar. -/
def IsoReading.Safe : IsoReading → Prop
  | .instant _ => True
  | .wall w => Inner w

/-- The time comes before the other, or with it where ties count. -/
def Beats (ties : Bool) (t c : Time) : Prop := t<c ∨ ties=true ∧ t=c

/-- A slot at `t` keeps one at `c` from being chosen: it is inside the window and
earlier or the other is not inside, or it is earlier and the other is not inside. -/
def Overtakes (ties : Bool) (window : Time × Option Time) (t c : Time) : Prop :=
  inWindow window t=true ∧ (Beats ties t c ∨ inWindow window c=false) ∨
    inWindow window c=false ∧ Beats ties t c

/-- Instants the texts of a window can stand for. -/
def PossibleWindow (window : IsoReading × Option IsoReading) (times : Time × Option Time) : Prop :=
  window.1.Possible times.1 ∧ Option.Rel IsoReading.Possible window.2 times.2

/-- The slots are one with an offset and others that do not overtake it, whatever
instants the texts stand for. -/
def StaysAhead (window : IsoReading × Option IsoReading) (shown : List (IsoReading × Element)) :
    Prop :=
  ∃ before t el after,shown=before++(.instant t,el)::after ∧
    (∀ e∈before,∀ times u,PossibleWindow window times → e.1.Possible u → ¬Overtakes true times u t) ∧
    ∀ e∈after,∀ times u,PossibleWindow window times → e.1.Possible u → ¬Overtakes false times u t

/-- All of the window's texts and the slots' satisfy a condition. -/
def AllTexts (P : IsoReading → Prop) (window : IsoReading × Option IsoReading)
    (shown : List (IsoReading × Element)) : Prop :=
  P window.1 ∧ (∀ r,window.2=some r → P r) ∧ ∀ e∈shown,P e.1

/-- If the handler comes to read the slots, there is nothing to book, or all wall times
are away from the ends of the calendar and a slot with an offset stays ahead. -/
def HostIndependent (parse : Json → Except Exn IsoReading) (answers : Answers) (overrides : Overrides)
    (ctx : HandlerContext) : Prop :=
  ∀ selectors,resolve overrides (get ctx.job.inputs "destination_country")=.ok selectors →
    ctx.credentials.isSome →
      NothingToBook parse answers ctx.job.inputs (scraped answers selectors) ∨
        ∃ window,windowReadings parse ctx.job.inputs=.ok window ∧
          AllTexts IsoReading.Safe window (shownReadings parse answers (scraped answers selectors)) ∧
          StaysAhead window (shownReadings parse answers (scraped answers selectors))

variable {lib : PortalLibrary} {parse : Json → Except Exn IsoReading} {answers : Answers}
  {overrides : Overrides} {ctx : HandlerContext} {selectors : Selectors} {inputs : Dict}
  {slots : List Element} {z : HostZone} {r : IsoReading} {window : IsoReading × Option IsoReading}
  {times : Time × Option Time} {shown : List (IsoReading × Element)} {c t u w : Time} {ties : Bool}

/-! ## The first of the earliest slots -/

/-- The loop ends with the slot it starts with, or with an earlier one. -/
theorem foldl_earlierOf (l : List (Time × Element)) (e : Time × Element) :
    ∃ f,l.foldl earlierOf (some e)=some f ∧ (f=e ∨ f∈l ∧ f.1<e.1) := by
  induction l generalizing e with
  | nil => exact ⟨e,rfl,.inl rfl⟩
  | cons g l ih =>
    rw [List.foldl_cons]
    by_cases hlt : g.1<e.1
    · rw [show earlierOf (some e) g=some g from if_pos hlt]
      obtain ⟨f,hf,hcase⟩ := ih g
      refine ⟨f,hf,.inr ?_⟩
      rcases hcase with rfl|⟨hmem,hfg⟩
      · exact ⟨List.mem_cons_self,hlt⟩
      · exact ⟨List.mem_cons_of_mem g hmem,hfg.trans hlt⟩
    · rw [show earlierOf (some e) g=some e from if_neg hlt]
      obtain ⟨f,hf,hcase⟩ := ih e
      exact ⟨f,hf,hcase.imp_right fun h => ⟨List.mem_cons_of_mem g h.1,h.2⟩⟩

variable {e : Time × Element}

/-- The first of the earliest slots is earlier than those in front of it and not
later than those behind. -/
theorem earliestOf_eq_some {before after : List (Time × Element)} (hfirst : e∉before) :
    earliestOf (before++e::after)=some e ↔ (∀ f∈before,e.1<f.1) ∧ ∀ f∈after,e.1≤f.1 := by
  constructor
  · intro h
    have hle : ∀ f∈before++e::after,e.1≤f.1 := fun f hf => earliestOf_le h hf
    refine ⟨fun f hf => ?_,fun f hf => hle f (List.mem_append_right _ (List.mem_cons_of_mem e hf))⟩
    refine lt_of_le_of_ne (hle f (List.mem_append_left _ hf)) fun heq => ?_
    -- The loop has a slot as early as `e` before it meets `e`.
    cases hbefore : earliestOf before with
    | none =>
      rw [earliestOf_eq_none.mp hbefore] at hf
      cases hf
    | some g =>
      have hg := earliestOf_mem hbefore
      have hgf := earliestOf_le hbefore hf
      rw [earliestOf,List.foldl_append,← earliestOf,hbefore,List.foldl_cons,
        show earlierOf (some g) e=some g from if_neg (not_lt.mpr (hgf.trans heq.ge))] at h
      obtain ⟨f',hf',hcase⟩ := foldl_earlierOf after g
      obtain rfl : f'=e := Option.some.inj (hf'.symm.trans h)
      rcases hcase with rfl|⟨-,hlt⟩
      · exact hfirst hg
      · exact absurd hlt (not_lt.mpr (hgf.trans heq.ge))
  · rintro ⟨hbefore,hafter⟩
    have hstep : earlierOf (earliestOf before) e=some e := by
      cases hg : earliestOf before with
      | none => rfl
      | some g => exact if_pos (hbefore g (earliestOf_mem hg))
    rw [earliestOf,List.foldl_append,← earliestOf,List.foldl_cons,hstep]
    obtain ⟨f,hf,hcase⟩ := foldl_earlierOf after e
    rcases hcase with rfl|⟨hmem,hlt⟩
    · exact hf
    · exact absurd hlt (not_lt.mpr (hafter f hmem))

theorem not_beats_true : ¬Beats true t c ↔ c<t := by
  unfold Beats
  rw [not_or,not_lt,lt_iff_le_and_ne]
  exact and_congr_right fun _ => ⟨fun h heq => h ⟨rfl,heq.symm⟩,fun h heq => h heq.2.symm⟩

theorem not_beats_false : ¬Beats false t c ↔ c≤t := by
  unfold Beats
  rw [not_or,not_lt]
  exact and_iff_left fun h => Bool.false_ne_true h.1

/-- A slot inside the window is overtaken by earlier ones inside. -/
theorem not_overtakes_of_inside (hc : inWindow times c=true) :
    ¬Overtakes ties times t c ↔ (inWindow times t=true → ¬Beats ties t c) := by
  simp [Overtakes,hc]

/-- A slot outside is overtaken by every one inside, and by earlier ones. -/
theorem not_overtakes_of_outside (hc : inWindow times c=false) :
    ¬Overtakes ties times t c ↔ inWindow times t=false ∧ ¬Beats ties t c := by
  simp [Overtakes,hc]

/-- The slot that is chosen is the one that no other overtakes. -/
theorem chosenSlot_eq_some {before after : List (Time × Element)} (hfirst : e∉before) :
    chosenSlot times (before++e::after)=some e ↔
      (∀ f∈before,¬Overtakes true times f.1 e.1) ∧ ∀ f∈after,¬Overtakes false times f.1 e.1 := by
  unfold chosenSlot
  cases hin : inWindow times e.1 with
  | true =>
    have hkept : (before++e::after).filter (fun f => inWindow times f.1)=
        before.filter (fun f => inWindow times f.1)++e::after.filter fun f => inWindow times f.1 := by
      rw [List.filter_append]
      exact congrArg _ (List.filter_cons_of_pos hin)
    have hsome : ∃ g,earliestOf ((before++e::after).filter fun f => inWindow times f.1)=some g := by
      rw [← Option.isSome_iff_exists,← Option.ne_none_iff_isSome]
      intro hnone
      have hempty := earliestOf_eq_none.mp hnone
      rw [hkept] at hempty
      exact absurd hempty (List.append_ne_nil_of_right_ne_nil _ (List.cons_ne_nil _ _))
    obtain ⟨g,hg⟩ := hsome
    rw [hg,Option.some_or,← hg,hkept,
      earliestOf_eq_some fun hmem => hfirst (List.mem_filter.mp hmem).1]
    simp only [List.mem_filter,and_imp,not_overtakes_of_inside hin,not_beats_true,not_beats_false]
  | false =>
    simp only [not_overtakes_of_outside hin,not_beats_true,not_beats_false]
    by_cases hempty : ∀ f∈before++e::after,inWindow times f.1=false
    · have hnone : (before++e::after).filter (fun f => inWindow times f.1)=[] :=
        List.filter_eq_nil_iff.mpr fun f hf => by simp [hempty f hf]
      rw [hnone,show earliestOf []=none from rfl,Option.none_or,earliestOf_eq_some hfirst]
      refine and_congr (forall₂_congr fun f hf => ?_) (forall₂_congr fun f hf => ?_)
      · exact (and_iff_right (hempty f (List.mem_append_left _ hf))).symm
      · exact (and_iff_right (hempty f (by simp [hf]))).symm
    · refine iff_of_false ?_ fun ⟨hbefore,hafter⟩ => hempty fun f hf => ?_
      · intro hchosen
        cases hg : earliestOf ((before++e::after).filter fun f => inWindow times f.1) with
        | none =>
          refine hempty fun f hf => ?_
          have hnot := List.filter_eq_nil_iff.mp (earliestOf_eq_none.mp hg) f hf
          simpa using hnot
        | some g =>
          rw [hg,Option.some_or] at hchosen
          cases hchosen
          have hinside := (List.mem_filter.mp (earliestOf_mem hg)).2
          exact Bool.false_ne_true (hin.symm.trans hinside)
      · rcases List.mem_append.mp hf with hf|hf
        · exact (hbefore f hf).1
        · rcases List.mem_cons.mp hf with rfl|hf
          · exact hin
          · exact (hafter f hf).1

/-! ## Reading on a host -/

/-- The instant a host reads. -/
def HostZone.instantOf (z : HostZone) (r : IsoReading) : Time := (z.read r).toOption.getD 0

/-- The host reads the text. -/
def HostZone.Reads (z : HostZone) (r : IsoReading) : Prop := z.read r=.ok (z.instantOf r)

/-- A slot with the instant the host reads. -/
def HostZone.slotOf (z : HostZone) (e : IsoReading × Element) : Time × Element :=
  (z.instantOf e.1,e.2)

theorem HostZone.reads_of_safe (z : HostZone) (h : r.Safe) : z.Reads r := by
  cases r with
  | instant t => rfl
  | wall w =>
    obtain ⟨u,hu⟩ := z.total w h
    simp [HostZone.Reads,HostZone.instantOf,HostZone.read,hu,Except.toOption]

theorem HostZone.Reads.possible (h : z.Reads r) : r.Possible (z.instantOf r) := by
  cases r with
  | instant t => rfl
  | wall w => exact z.near w _ h

/-- A text that cannot be converted is skipped, unless what it raises is not caught. -/
def skipping : Except Exn Time → Except Exn (Option Time)
  | .ok t => .ok (some t)
  | .error e => if e.isInstance "builtins.ValueError" then .ok none else .error e

def HostZone.readShown (z : HostZone) : Option IsoReading → Except Exn (Option Time)
  | none => .ok none
  | some r => skipping (z.read r)

/-- What the handler reads of a slot. -/
theorem readSlot_zoned (slot : Element) : readSlot (zoned lib parse z) answers slot=
    slotReading parse answers slot >>= z.readShown := by
  unfold readSlot slotReading
  cases (answers (.elementQuery slot "[data-time]") : Option Element) with
  | none => rfl
  | some el =>
    dsimp only
    cases (answers (.elementAttribute el "data-time") : Option String).filter
      (fun s => decide (s≠"")) with
    | none => rfl
    | some s =>
      dsimp only [zoned]
      cases parse (.str s) with
      | ok r => rfl
      | error e =>
        change (if e.isInstance "builtins.ValueError" then _ else _)=
          (if e.isInstance "builtins.ValueError" then _ else _) >>= z.readShown
        split <;> rfl

/-- A window is read if its start is there and its texts are read. -/
theorem windowReadings_ok {α : Type} {read : Json → Except Exn α} {w : α × Option α} :
    windowReadings read inputs=.ok w ↔ ∃ v endIso,windowBound inputs "start"=.ok (some v) ∧
      windowBound inputs "end"=.ok endIso ∧ read v=.ok w.1 ∧
        Option.Rel (fun x l => read x=.ok l) endIso w.2 := by
  obtain ⟨start,last⟩ := w
  unfold windowReadings
  rw [bind_ok]
  constructor
  · rintro ⟨startIso,hstart,h⟩
    obtain ⟨endIso,hend,h⟩ := bind_ok.mp h
    cases startIso with
    | none => cases h
    | some v =>
      obtain ⟨start',hread,h⟩ := bind_ok.mp h
      cases endIso with
      | none =>
        cases h
        exact ⟨v,none,hstart,hend,hread,.none⟩
      | some x =>
        obtain ⟨last',hlast,h⟩ := bind_ok.mp h
        cases h
        exact ⟨v,some x,hstart,hend,hread,.some hlast⟩
  · rintro ⟨v,endIso,hstart,hend,hread,hlast⟩
    refine ⟨some v,hstart,bind_ok.mpr ⟨endIso,hend,bind_ok.mpr ⟨start,hread,?_⟩⟩⟩
    cases hlast with
    | none => rfl
    | some hlast => exact bind_ok.mpr ⟨_,hlast,rfl⟩

/-- The window a host reads. -/
def HostZone.readWindow (z : HostZone) (window : IsoReading × Option IsoReading) :
    Time × Option Time :=
  (z.instantOf window.1,window.2.map z.instantOf)

/-- The host reads each text of the window it reads. -/
theorem preferredWindow_zoned_ok : preferredWindow (zoned lib parse z) inputs=.ok times ↔
    ∃ window,windowReadings parse inputs=.ok window ∧ z.read window.1=.ok times.1 ∧
      Option.Rel (fun r t => z.read r=.ok t) window.2 times.2 := by
  have hiff : windowReadings (zoned lib parse z).fromIso inputs=.ok times ↔ _ := windowReadings_ok
  refine hiff.trans ?_
  constructor
  · rintro ⟨v,endIso,hstart,hend,hread,hlast⟩
    obtain ⟨r,hr,htime⟩ := bind_ok.mp hread
    generalize times.2=last at hlast ⊢
    cases hlast with
    | none => exact ⟨(r,none),windowReadings_ok.mpr ⟨v,none,hstart,hend,hr,.none⟩,htime,.none⟩
    | some hlast =>
      obtain ⟨r',hr',htime'⟩ := bind_ok.mp hlast
      exact ⟨(r,some r'),windowReadings_ok.mpr ⟨v,_,hstart,hend,hr,.some hr'⟩,htime,.some htime'⟩
  · rintro ⟨⟨r,last⟩,hwindow,htime,hlast⟩
    obtain ⟨v,endIso,hstart,hend,hr,hends⟩ := windowReadings_ok.mp hwindow
    refine ⟨v,endIso,hstart,hend,bind_ok.mpr ⟨r,hr,htime⟩,?_⟩
    simp only at hlast hends
    generalize times.2=last' at hlast ⊢
    cases hends with
    | none =>
      cases hlast with
      | none => exact .none
    | some hx =>
      cases hlast with
      | some hl => exact .some (bind_ok.mpr ⟨_,hx,hl⟩)

theorem shownSlots_cons (slot : Element) {o : Option IsoReading}
    (hslot : slotReading parse answers slot=.ok o) : shownReadings parse answers (slot::slots)=
      o.toList.map (fun r => (r,slot))++shownReadings parse answers slots := by
  cases o <;> simp [shownReadings,shownReading,hslot]

/-- Slots whose texts the host reads are shown, each with its instant on the host. -/
theorem shownSlots_zoned (hparse : ∀ slot∈slots,∀ e,slotReading parse answers slot≠.error e)
    (hread : ∀ e∈shownReadings parse answers slots,z.Reads e.1) :
    ¬Unreadable (zoned lib parse z) answers slots ∧ shownSlots (zoned lib parse z) answers slots=
      (shownReadings parse answers slots).map z.slotOf := by
  induction slots with
  | nil =>
    refine ⟨?_,rfl⟩
    rintro ⟨slot,hslot,-⟩
    cases hslot
  | cons slot slots ih =>
    rw [List.forall_mem_cons] at hparse
    cases hslot : slotReading parse answers slot with
    | error e => exact absurd hslot (hparse.1 e)
    | ok o =>
      have hshown := @shownSlots_cons _ _ slots slot _ hslot
      rw [hshown] at hread ⊢
      obtain ⟨hall,hmap⟩ := ih hparse.2 fun e he => hread e (List.mem_append_right _ he)
      have hone : readSlot (zoned lib parse z) answers slot=.ok (o.map z.instantOf) := by
        rw [readSlot_zoned,hslot]
        cases o with
        | none => rfl
        | some r =>
          have hr : z.Reads r := hread (r,slot) (by simp)
          change skipping (z.read r)=_
          rw [hr]
          rfl
      constructor
      · rintro ⟨slot',hslot',e,he⟩
        rcases List.mem_cons.mp hslot' with rfl|hslot'
        · rw [hone] at he
          cases he
        · exact hall ⟨slot',hslot',e,he⟩
      · rw [List.map_append,← hmap]
        cases o <;> simp [shownSlots,shownTime,hone,HostZone.slotOf]

/-- A slot has one text. -/
theorem slotReading_of_shown {e : IsoReading × Element} (he : e∈shownReadings parse answers slots) :
    e.2∈slots ∧ slotReading parse answers e.2=.ok (some e.1) := by
  obtain ⟨slot,hslot,hshown⟩ := List.mem_filterMap.mp he
  unfold shownReading at hshown
  split at hshown
  · rename_i r hr
    cases hshown
    exact ⟨hslot,hr⟩
  · cases hshown

/-! ## Particular hosts -/

/-- A reading of wall times with offsets of less than a day. -/
def Near (f : Time → Time) : Prop := ∀ w,w-dayLength<f w ∧ f w<w+dayLength

/-- A host that reads wall times as a function says. -/
def zoneOf (f : Time → Time) (hf : Near f) : HostZone where
  toUtc w := .ok (f w)
  near w _ h := Except.ok.inj h ▸ hf w
  total w _ := ⟨f w,rfl⟩

variable {f : Time → Time}

theorem zoneOf_reads (hf : Near f) (r : IsoReading) : (zoneOf f hf).Reads r := by
  cases r <;> rfl

theorem dayLength_pos : 0<dayLength := by decide

/-- A host at a fixed offset. -/
theorem near_add {d : Time} (hd : 0 ≤ d) (hlt : d<dayLength) : Near (·+d) := fun w =>
  ⟨(Int.sub_lt_self w dayLength_pos).trans_le (Int.le_add_of_nonneg_right hd),
    Int.add_lt_add_left hlt w⟩

theorem near_hour : Near (·+3600000000) := near_add (by decide) (by decide)

def overflow : Exn :=
  ⟨"OverflowError",["builtins.OverflowError","builtins.ArithmeticError"],"date value out of range",
    none⟩

theorem near_zero (w : Time) : w-dayLength<w ∧ w<w+dayLength :=
  ⟨Int.sub_lt_self w dayLength_pos,Int.lt_add_of_pos_right w dayLength_pos⟩

/-- A host on which one wall time near an end of the calendar is out of range. -/
def raisingZone (w : Time) (hw : ¬Inner w) : HostZone where
  toUtc v := if v=w then .error overflow else .ok v
  near v u h := by
    split at h
    · cases h
    · cases h
      exact near_zero v
  total v hv := ⟨v,if_neg fun heq : v=w => hw (heq ▸ hv)⟩

/-! ## A host for every overtaking -/

/-- A host that reads one text as an instant. -/
def readAs (r : IsoReading) (u : Time) (f : Time → Time) (w : Time) : Time :=
  if r=.wall w then u else f w

/-- The instant of a text under a reading of wall times. -/
def timeAt (f : Time → Time) : IsoReading → Time
  | .instant t => t
  | .wall w => f w

theorem near_readAs (hr : r.Possible u) (hf : Near f) : Near (readAs r u f) := by
  intro w
  unfold readAs
  split
  · rename_i hwall
    rw [hwall] at hr
    exact hr
  · exact hf w

theorem timeAt_readAs_self (f : Time → Time) (hr : r.Possible u) : timeAt (readAs r u f) r=u := by
  cases r with
  | instant t => exact hr.symm
  | wall w => exact if_pos rfl

theorem timeAt_readAs_of_ne (f : Time → Time) {r' : IsoReading} (hne : r≠r') :
    timeAt (readAs r u f) r'=timeAt f r' := by
  cases r' with
  | instant t => rfl
  | wall w => exact if_neg hne

theorem inWindow_eq_false {start last : Time} :
    inWindow (start,some last) t=false ↔ t<start ∨ last<t := by
  rw [← Bool.not_eq_true,inWindow_iff]
  simp only [Option.some.injEq,forall_eq',not_and_or,not_le]

theorem inWindow_eq_true {start last : Time} :
    inWindow (start,some last) t=true ↔ start ≤ t ∧ t ≤ last := by
  rw [inWindow_iff]
  simp only [Option.some.injEq,forall_eq']

/-- What overtakes also does with its own time as the window's start. -/
theorem Overtakes.from_own {start : Time} {last : Option Time}
    (h : Overtakes ties (start,last) u c) : Overtakes ties (u,last) u c := by
  cases last with
  | none =>
    simp only [Overtakes,inWindow_iff,← Bool.not_eq_true] at h ⊢
    simp only [reduceCtorEq,false_implies,implies_true,and_true,not_le,le_refl,true_and] at h ⊢
    rcases h with ⟨hin,hbeats|hout⟩|⟨-,hbeats⟩
    · exact .inl (.inl hbeats)
    · exact .inl (.inr (hout.trans_le hin))
    · exact .inl (.inl hbeats)
  | some last =>
    simp only [Overtakes,inWindow_eq_true,inWindow_eq_false] at h ⊢
    by_cases hlast : u ≤ last
    · refine .inl ⟨⟨le_refl u,hlast⟩,?_⟩
      rcases h with ⟨⟨hin,-⟩,hbeats|hout⟩|⟨-,hbeats⟩
      · exact .inl hbeats
      · exact .inr (hout.imp_left fun hlt => hlt.trans_le hin)
      · exact .inl hbeats
    · rcases h with ⟨⟨-,hin⟩,-⟩|⟨-,hbeats⟩
      · exact absurd hin hlast
      · -- The window is empty, and the earlier of the two counts.
        refine .inr ⟨?_,hbeats⟩
        exact (le_or_gt u c).elim (fun hle => .inr ((not_le.mp hlast).trans_le hle)) .inl

/-- What overtakes also does with its own time as the window's end. -/
theorem Overtakes.to_own {start last : Time} (h : Overtakes ties (start,some last) u c) :
    Overtakes ties (start,some u) u c := by
  simp only [Overtakes,inWindow_eq_true,inWindow_eq_false] at h ⊢
  by_cases hstart : start ≤ u
  · refine .inl ⟨⟨hstart,le_refl u⟩,?_⟩
    rcases h with ⟨⟨-,hin⟩,hbeats|hout⟩|⟨-,hbeats⟩
    · exact .inl hbeats
    · exact .inr (hout.imp_right fun hlt => hin.trans_lt hlt)
    · exact .inl hbeats
  · rcases h with ⟨⟨hin,-⟩,-⟩|⟨-,hbeats⟩
    · exact absurd hin hstart
    · refine .inr ⟨?_,hbeats⟩
      exact (le_or_gt c u).elim (fun hle => .inl (hle.trans_lt (not_le.mp hstart))) .inr

/-- What overtakes also does in a window of one instant, an end of the window or
an instant in it. -/
theorem Overtakes.at_instant {start last : Time} (h : Overtakes ties (start,some last) u c) :
    ∃ v,(v=start ∨ v=last ∨ start ≤ v ∧ v ≤ last) ∧ Overtakes ties (v,some v) u c := by
  have hinside (hin : start ≤ u ∧ u ≤ last) :
      ∃ v,(v=start ∨ v=last ∨ start ≤ v ∧ v ≤ last) ∧ Overtakes ties (v,some v) u c :=
    ⟨u,.inr (.inr hin),h.to_own.from_own⟩
  simp only [Overtakes,inWindow_eq_true,inWindow_eq_false] at h hinside ⊢
  rcases h with ⟨hin,-⟩|⟨hout,hbeats⟩
  · exact hinside hin
  · rcases hout with hlt|hlt
    · exact ⟨start,.inl rfl,.inr ⟨.inl hlt,hbeats⟩⟩
    · exact ⟨last,.inr (.inl rfl),.inr ⟨.inr hlt,hbeats⟩⟩

theorem IsoReading.Possible.between {a b : Time} (ha : r.Possible a) (hb : r.Possible b)
    (h : u=a ∨ u=b ∨ a ≤ u ∧ u ≤ b) : r.Possible u := by
  rcases h with rfl|rfl|⟨hau,hub⟩
  · exact ha
  · exact hb
  · cases r with
    | instant t =>
      have hat : a=t := ha
      have hbt : b=t := hb
      exact le_antisymm (hub.trans hbt.le) (hat.ge.trans hau)
    | wall w => exact ⟨ha.1.trans_le hau,hub.trans_lt hb.2⟩

/-- If the texts can stand for instants with an overtaking, there is a host that
reads them with one. -/
theorem exists_host_overtakes (hwindow : PossibleWindow window times) (hr : r.Possible u)
    (h : Overtakes ties times u c) :
    ∃ f,∃ hf : Near f,
      Overtakes ties ((zoneOf f hf).readWindow window) ((zoneOf f hf).instantOf r) c := by
  -- A text may be the slot's and one of the window's; the host reads it once.
  have hinstant (f : Time → Time) (hf : Near f) (r' : IsoReading) :
      (zoneOf f hf).instantOf r'=timeAt f r' := by
    cases r' <;> rfl
  suffices hsuffices : ∃ f,Near f ∧
      Overtakes ties (timeAt f window.1,window.2.map (timeAt f)) (timeAt f r) c by
    obtain ⟨f,hf,hover⟩ := hsuffices
    refine ⟨f,hf,?_⟩
    rw [HostZone.readWindow,funext (hinstant f hf)]
    exact hover
  obtain ⟨rs,rl⟩ := window
  obtain ⟨start,last⟩ := times
  obtain ⟨hs,hl⟩ := hwindow
  simp only at hs hl
  cases hl with
  | none =>
    refine ⟨readAs r u (readAs rs start id),near_readAs hr (near_readAs hs near_zero),?_⟩
    rw [timeAt_readAs_self _ hr,Option.map_none]
    by_cases hstart : r=rs
    · rw [← hstart,timeAt_readAs_self _ hr]
      exact h.from_own
    · rw [timeAt_readAs_of_ne _ hstart,timeAt_readAs_self _ hs]
      exact h
  | @some rl last hl =>
    change ∃ f,Near f ∧ Overtakes ties (timeAt f rs,some (timeAt f rl)) (timeAt f r) c
    by_cases hstart : r=rs
    · refine ⟨readAs r u (readAs rl last id),near_readAs hr (near_readAs hl near_zero),?_⟩
      rw [← hstart,timeAt_readAs_self _ hr]
      by_cases hlast : r=rl
      · rw [← hlast,timeAt_readAs_self _ hr]
        exact h.to_own.from_own
      · rw [timeAt_readAs_of_ne _ hlast,timeAt_readAs_self _ hl]
        exact h.from_own
    · by_cases hlast : r=rl
      · refine ⟨readAs r u (readAs rs start id),near_readAs hr (near_readAs hs near_zero),?_⟩
        rw [← hlast,timeAt_readAs_self _ hr,timeAt_readAs_of_ne _ hstart,timeAt_readAs_self _ hs]
        exact h.to_own
      · by_cases hsame : rs=rl
        · subst hsame
          obtain ⟨v,hv,hover⟩ := h.at_instant
          have hpossible : rs.Possible v := hs.between hl hv
          refine ⟨readAs r u (readAs rs v id),near_readAs hr (near_readAs hpossible near_zero),?_⟩
          rw [timeAt_readAs_self _ hr,timeAt_readAs_of_ne _ hstart,timeAt_readAs_self _ hpossible]
          exact hover
        · refine ⟨readAs r u (readAs rs start (readAs rl last id)),
            near_readAs hr (near_readAs hs (near_readAs hl near_zero)),?_⟩
          rw [timeAt_readAs_self _ hr,timeAt_readAs_of_ne _ hstart,timeAt_readAs_self _ hs,
            timeAt_readAs_of_ne _ hlast,timeAt_readAs_of_ne _ hsame,timeAt_readAs_self _ hl]
          exact h

/-! ## Which slot hosts go for -/

theorem HostZone.possibleWindow (hstart : z.Reads window.1)
    (hlast : ∀ r,window.2=some r → z.Reads r) : PossibleWindow window (z.readWindow window) := by
  refine ⟨hstart.possible,?_⟩
  unfold HostZone.readWindow
  generalize window.2=last at hlast ⊢
  cases last with
  | none => exact .none
  | some r => exact .some (hlast r rfl).possible

theorem overtakes_self : Overtakes true times t t := by
  have hbeats : Beats true t t := .inr ⟨rfl,rfl⟩
  cases hin : inWindow times t with
  | true => exact .inl ⟨hin,.inl hbeats⟩
  | false => exact .inr ⟨hin,hbeats⟩

theorem AllTexts.imp {P Q : IsoReading → Prop} (h : AllTexts P window shown)
    (hPQ : ∀ {r},P r → Q r) : AllTexts Q window shown :=
  ⟨hPQ h.1,fun r hr => hPQ (h.2.1 r hr),fun e he => hPQ (h.2.2 e he)⟩

/-- Every host that reads the texts goes for the slot that stays ahead. -/
theorem chosen_of_staysAhead (h : StaysAhead window shown) :
    ∃ e,∀ z : HostZone,AllTexts z.Reads window shown →
      chosenSlot (z.readWindow window) (shown.map z.slotOf)=some e := by
  obtain ⟨before,t,el,after,rfl,hbefore,hafter⟩ := h
  refine ⟨(t,el),fun z hreads => ?_⟩
  have hpossible : PossibleWindow window (z.readWindow window) := z.possibleWindow hreads.1 hreads.2.1
  have hnone : ∀ f∈before.map z.slotOf,¬Overtakes true (z.readWindow window) f.1 t := by
    rw [List.forall_mem_map]
    exact fun e he => hbefore e he _ _ hpossible
      (hreads.2.2 e (List.mem_append_left _ he)).possible
  have hnone' : ∀ f∈after.map z.slotOf,¬Overtakes false (z.readWindow window) f.1 t := by
    rw [List.forall_mem_map]
    exact fun e he => hafter e he _ _ hpossible
      (hreads.2.2 e (List.mem_append_right _ (List.mem_cons_of_mem _ he))).possible
  have hfirst : (t,el)∉before.map z.slotOf := fun hmem => hnone _ hmem overtakes_self
  rw [List.map_append,List.map_cons]
  exact (chosenSlot_eq_some hfirst).mpr ⟨hnone,hnone'⟩

/-- A slot that every host goes for has an offset and stays ahead. -/
theorem staysAhead_of_chosen (hone : ∀ e∈shown,∀ f∈shown,e.2=f.2 → e.1=f.1)
    (hchosen : ∀ f,∀ hf : Near f,
      chosenSlot ((zoneOf f hf).readWindow window) (shown.map (zoneOf f hf).slotOf)=some e) :
    StaysAhead window shown := by
  obtain ⟨t,el⟩ := e
  have hshown : ∀ f,∀ hf : Near f,∃ r,(r,el)∈shown ∧ (zoneOf f hf).instantOf r=t := by
    intro f hf
    have hmem : (t,el)∈shown.map (zoneOf f hf).slotOf := by
      have hor := hchosen f hf
      unfold chosenSlot at hor
      rcases Option.or_eq_some_iff.mp hor with hin|⟨-,hall⟩
      · exact (List.mem_filter.mp (earliestOf_mem hin)).1
      · exact earliestOf_mem hall
    obtain ⟨⟨r,el'⟩,hr,heq⟩ := List.mem_map.mp hmem
    cases heq
    exact ⟨r,hr,rfl⟩
  have hreading : ∀ r,(r,el)∈shown → r=.instant t := by
    intro r hr
    obtain ⟨r',hr',htime⟩ := hshown id near_zero
    obtain rfl : r=r' := hone _ hr _ hr' rfl
    cases r with
    | instant t' => exact congrArg _ htime
    | wall w =>
      -- A host an hour off reads another instant for the same slot.
      obtain ⟨r',hr',htime'⟩ := hshown _ near_hour
      obtain rfl : r'=.wall w := hone _ hr' _ hr rfl
      have hshift : w+3600000000=w := htime'.trans htime.symm
      exact absurd hshift (Int.ne_of_gt (Int.lt_add_of_pos_right w (by decide)))
  obtain ⟨r,hr,-⟩ := hshown id near_zero
  obtain rfl := hreading r hr
  obtain ⟨before,after,rfl,hfirst⟩ := List.eq_append_cons_of_mem hr
  have hahead : ∀ f,∀ hf : Near f,
      (∀ e∈before,
        ¬Overtakes true ((zoneOf f hf).readWindow window) ((zoneOf f hf).instantOf e.1) t) ∧
      ∀ e∈after,
        ¬Overtakes false ((zoneOf f hf).readWindow window) ((zoneOf f hf).instantOf e.1) t := by
    intro f hf
    have hnot : (t,el)∉before.map (zoneOf f hf).slotOf := by
      intro hmem
      obtain ⟨⟨r,el'⟩,hr',heq⟩ := List.mem_map.mp hmem
      obtain rfl : el'=el := congrArg Prod.snd heq
      rw [hreading r (List.mem_append_left _ hr')] at hr'
      exact hfirst hr'
    have hsome := hchosen f hf
    rw [List.map_append,List.map_cons] at hsome
    obtain ⟨hbefore,hafter⟩ := (chosenSlot_eq_some hnot).mp hsome
    exact ⟨fun e he => hbefore _ (List.mem_map_of_mem he),
      fun e he => hafter _ (List.mem_map_of_mem he)⟩
  refine ⟨before,t,el,after,rfl,fun e he times u hwindow hu hover => ?_,
    fun e he times u hwindow hu hover => ?_⟩
  · obtain ⟨f,hf,hhost⟩ := exists_host_overtakes hwindow hu hover
    exact (hahead f hf).1 e he hhost
  · obtain ⟨f,hf,hhost⟩ := exists_host_overtakes hwindow hu hover
    exact (hahead f hf).2 e he hhost

/-! ## What is booked on a host -/

theorem booksNothing_of_settles {g : Driving Outputs} (h : ∃ k,Settles books g [] (.error k))
    (n : Nat) : BooksNothing (g n) := by
  obtain ⟨k,hk⟩ := h
  exact ⟨(hk n).1,k,(hk n).2⟩

section Booking

variable (hpage : ctx.page=steadyPage answers)
  (hselectors : resolve overrides (get ctx.job.inputs "destination_country")=.ok selectors)
  (hlogin : ctx.credentials.isSome)

include hpage hselectors hlogin

/-- Where the window or a slot cannot be read nothing is booked. -/
theorem nothing_booked (n : Nat) (hno : (∀ times,preferredWindow lib ctx.job.inputs≠.ok times) ∨
      Unreadable lib answers (scraped answers selectors) ∨
        shownSlots lib answers (scraped answers selectors)=[]) :
    BooksNothing (handleVfsBookAppointment lib overrides ctx n) := by
  refine booksNothing_of_settles ?_ n
  cases hwindow : preferredWindow lib ctx.job.inputs with
  | error e =>
    refine ⟨.raised e,?_⟩
    unfold handleVfsBookAppointment
    rw [hselectors,hwindow]
    have hraised : Settles books (attempt (.error e) : Driving (Time × Option Time)) []
        (.error (.raised e)) := Settles.fail
    exact Settles.quiet_bind Settles.pure (Settles.bind_error hraised)
  | ok times =>
    by_cases hread : Unreadable lib answers (scraped answers selectors)
    · exact handler_raises hpage hselectors hwindow hlogin hread
    · have hempty := (hno.resolve_left fun h => h times hwindow).resolve_left hread
      have hbooks := handler_books hpage hselectors hwindow hlogin hread
      rw [hempty] at hbooks
      exact hbooks

/-- A host that reads every text books the slot it goes for. -/
theorem books_chosen (hwindow : windowReadings parse ctx.job.inputs=.ok window)
    (hparse : ∀ slot∈scraped answers selectors,∀ e,slotReading parse answers slot≠.error e)
    (hreads : AllTexts z.Reads window (shownReadings parse answers (scraped answers selectors)))
    {e : Time × Element} (he : chosenSlot (z.readWindow window)
      ((shownReadings parse answers (scraped answers selectors)).map z.slotOf)=some e) (n : Nat) :
    Booked (zoned lib parse z) ctx selectors
      (handleVfsBookAppointment (zoned lib parse z) overrides ctx n) e := by
  have htimes : preferredWindow (zoned lib parse z) ctx.job.inputs=.ok (z.readWindow window) := by
    refine preferredWindow_zoned_ok.mpr ⟨window,hwindow,hreads.1,?_⟩
    have hlast := hreads.2.1
    unfold HostZone.readWindow
    generalize window.2=last at hlast ⊢
    cases last with
    | none => exact .none
    | some r => exact .some (hlast r rfl)
  obtain ⟨hread,hshown⟩ := @shownSlots_zoned lib _ _ _ z hparse hreads.2.2
  have hbooks := handler_books hpage hselectors htimes hlogin hread
  rw [hshown,he] at hbooks
  exact hbooks n

/-- Where there is nothing to book no host books. -/
theorem nothing_booked_on (h : NothingToBook parse answers ctx.job.inputs (scraped answers selectors))
    (z : HostZone) (n : Nat) :
    BooksNothing (handleVfsBookAppointment (zoned lib parse z) overrides ctx n) := by
  have hunreadable : (∃ slot∈scraped answers selectors,∃ e,slotReading parse answers slot=.error e) →
      Unreadable (zoned lib parse z) answers (scraped answers selectors) := by
    rintro ⟨slot,hslot,e,he⟩
    refine ⟨slot,hslot,e,?_⟩
    rw [readSlot_zoned,he]
    rfl
  refine nothing_booked hpage hselectors hlogin n ?_
  rcases h with ⟨e,he⟩|hslot|hempty
  · refine .inl fun times htimes => ?_
    obtain ⟨window,hwindow,-⟩ := preferredWindow_zoned_ok.mp htimes
    rw [he] at hwindow
    cases hwindow
  · exact .inr (.inl (hunreadable hslot))
  · by_cases hslot : ∃ slot∈scraped answers selectors,∃ e,slotReading parse answers slot=.error e
    · exact .inr (.inl (hunreadable hslot))
    · have hparse : ∀ slot∈scraped answers selectors,∀ e,slotReading parse answers slot≠.error e :=
        fun slot hmem e he => hslot ⟨slot,hmem,e,he⟩
      refine .inr (.inr ?_)
      rw [(shownSlots_zoned hparse (by simp [hempty])).2,hempty,List.map_nil]

/-- Where a wall time near an end of the calendar is out of range nothing is booked. -/
theorem nothing_booked_raising (hw : ¬Inner w)
    (hwindow : windowReadings parse ctx.job.inputs=.ok window)
    (hnearEnd : window.1=.wall w ∨ window.2=some (.wall w) ∨
      ∃ e∈shownReadings parse answers (scraped answers selectors),e.1=.wall w) (n : Nat) :
    BooksNothing (handleVfsBookAppointment (zoned lib parse (raisingZone w hw)) overrides ctx n) := by
  have hraises : (raisingZone w hw).read (.wall w)=.error overflow := if_pos rfl
  refine nothing_booked hpage hselectors hlogin n ?_
  rcases hnearEnd with hstart|hlast|⟨e,he,hslot⟩
  · refine .inl fun times htimes => ?_
    obtain ⟨window',hwindow',hread,-⟩ := preferredWindow_zoned_ok.mp htimes
    obtain rfl := Except.ok.inj (hwindow.symm.trans hwindow')
    rw [hstart,hraises] at hread
    cases hread
  · refine .inl fun times htimes => ?_
    obtain ⟨window',hwindow',-,hread⟩ := preferredWindow_zoned_ok.mp htimes
    obtain rfl := Except.ok.inj (hwindow.symm.trans hwindow')
    rw [hlast] at hread
    generalize times.2=last at hread
    cases hread with
    | some hl =>
      rw [hraises] at hl
      cases hl
  · obtain ⟨hmem,hreading⟩ := slotReading_of_shown he
    refine .inr (.inl ⟨e.2,hmem,overflow,?_⟩)
    rw [readSlot_zoned,hreading,hslot]
    change skipping ((raisingZone w hw).read (.wall w))=_
    rw [hraises]
    rfl

end Booking

/-! ## When the same is booked on every host -/

theorem booking_appointment (e : Time × Element) :
    get (booking lib ctx e) "appointment_at"=some (some (.str (lib.isoformat e.1))) := rfl

variable {run' : Trace Nat PageOp Halt Outputs} {z' : HostZone}

/-- Runs that book the same have gone for the same slot. -/
theorem eq_of_sameBooking {run : Trace Nat PageOp Halt Outputs} {e' : Time × Element}
    (hiso : Function.Injective lib.isoformat)
    (hbooked : Booked (zoned lib parse z) ctx selectors run e)
    (hbooked' : Booked (zoned lib parse z') ctx selectors run' e') (h : SameBooking run run') :
    e=e' := by
  have hclicks := h.clicks
  have happointment := h.appointment
  rw [hbooked.1,hbooked'.1] at hclicks
  rw [hbooked.2,hbooked'.2] at happointment
  have hslot : e.2=e'.2 := PageOp.elementClick.inj (List.cons.inj hclicks).1
  simp only [Except.toOption,Option.bind_some,booking_appointment,Option.some.injEq,Json.str.injEq]
    at happointment
  exact Prod.ext (hiso happointment) hslot

theorem sameBooking_of_nothing {run : Trace Nat PageOp Halt Outputs} (h : BooksNothing run)
    (h' : BooksNothing run') : SameBooking run run' := by
  obtain ⟨hclicks,k,hexit⟩ := h
  obtain ⟨hclicks',k',hexit'⟩ := h'
  refine ⟨hclicks.trans hclicks'.symm,?_⟩
  rw [hexit,hexit']
  rfl

theorem sameBooking_of_booked {run : Trace Nat PageOp Halt Outputs}
    (hbooked : Booked (zoned lib parse z) ctx selectors run e)
    (hbooked' : Booked (zoned lib parse z') ctx selectors run' e) : SameBooking run run' := by
  refine ⟨hbooked.1.trans hbooked'.1.symm,?_⟩
  rw [hbooked.2,hbooked'.2]
  rfl

/-- A run that books a slot clicks. -/
theorem not_sameBooking_of_nothing {run : Trace Nat PageOp Halt Outputs}
    (hbooked : Booked lib ctx selectors run e) (hnothing : BooksNothing run') :
    ¬SameBooking run run' := by
  intro h
  have hclicks := h.clicks
  rw [hbooked.1,hnothing.1] at hclicks
  cases hclicks

/-- Without selectors or credentials the handler ends before it books. -/
theorem nothing_booked_before (n : Nat) (hno : ∀ selectors,
      resolve overrides (get ctx.job.inputs "destination_country")=.ok selectors →
        ¬ctx.credentials.isSome) : BooksNothing (handleVfsBookAppointment lib overrides ctx n) := by
  refine booksNothing_of_settles ?_ n
  unfold handleVfsBookAppointment
  have hraised {α : Type} (e : Exn) : Settles books (attempt (.error e) : Driving α) []
      (.error (.raised e)) := Settles.fail
  cases hselectors : resolve overrides (get ctx.job.inputs "destination_country") with
  | error e => exact ⟨_,Settles.bind_error (hraised e)⟩
  | ok selectors =>
    cases hwindow : preferredWindow lib ctx.job.inputs with
    | error e => exact ⟨_,Settles.quiet_bind Settles.pure (Settles.bind_error (hraised e))⟩
    | ok times =>
      have hnone : ctx.credentials=none := by simpa using hno selectors hselectors
      obtain ⟨k,hlogin⟩ : ∃ k,Settles books (ensureLoggedIn ctx selectors) [] (.error k) := by
        unfold ensureLoggedIn
        rw [hnone]
        exact ⟨_,Settles.fail⟩
      exact ⟨_,Settles.quiet_bind Settles.pure (Settles.quiet_bind Settles.pure
        (Settles.bind_error hlogin))⟩

/-- Where something can be booked, hosts that all book the same read every text and go
for a slot that stays ahead. -/
theorem staysAhead_of_same (hpage : ctx.page=steadyPage answers)
    (hselectors : resolve overrides (get ctx.job.inputs "destination_country")=.ok selectors)
    (hlogin : ctx.credentials.isSome) (hiso : Function.Injective lib.isoformat)
    (hsome : ¬NothingToBook parse answers ctx.job.inputs (scraped answers selectors))
    (hsame : ∀ z z' n n',SameBooking (handleVfsBookAppointment (zoned lib parse z) overrides ctx n)
      (handleVfsBookAppointment (zoned lib parse z') overrides ctx n')) :
    ∃ window,windowReadings parse ctx.job.inputs=.ok window ∧
      AllTexts IsoReading.Safe window (shownReadings parse answers (scraped answers selectors)) ∧
      StaysAhead window (shownReadings parse answers (scraped answers selectors)) := by
  obtain ⟨hwindow,hparse,hshown⟩ := not_or.mp hsome |>.imp_right not_or.mp
  obtain ⟨window,hwindow⟩ : ∃ window,windowReadings parse ctx.job.inputs=.ok window := by
    cases h : windowReadings parse ctx.job.inputs with
    | ok window => exact ⟨window,rfl⟩
    | error e => exact absurd ⟨e,h⟩ hwindow
  have hparse' : ∀ slot∈scraped answers selectors,∀ e,slotReading parse answers slot≠.error e :=
    fun slot hslot e he => hparse ⟨slot,hslot,e,he⟩
  have hbooks : ∀ f,∀ hf : Near f,∃ e,chosenSlot ((zoneOf f hf).readWindow window)
      ((shownReadings parse answers (scraped answers selectors)).map (zoneOf f hf).slotOf)=some e ∧
        Booked (zoned lib parse (zoneOf f hf)) ctx selectors
          (handleVfsBookAppointment (zoned lib parse (zoneOf f hf)) overrides ctx 0) e := by
    intro f hf
    cases hchosen : chosenSlot ((zoneOf f hf).readWindow window)
      ((shownReadings parse answers (scraped answers selectors)).map (zoneOf f hf).slotOf) with
    | none =>
      have hnone := earliestOf_eq_none.mp (Option.or_eq_none_iff.mp hchosen).2
      exact absurd (List.map_eq_nil_iff.mp hnone) hshown
    | some e =>
      exact ⟨e,rfl,books_chosen hpage hselectors hlogin hwindow hparse'
        ⟨zoneOf_reads hf _,fun _ _ => zoneOf_reads hf _,fun _ _ => zoneOf_reads hf _⟩ hchosen 0⟩
  obtain ⟨e,-,hbooked⟩ := hbooks id near_zero
  refine ⟨window,hwindow,?_,staysAhead_of_chosen (e:=e) ?_ fun f hf => ?_⟩
  · -- A host on which a text cannot be converted books nothing.
    have hsafe : ∀ r,(window.1=r ∨ window.2=some r ∨
        ∃ e∈shownReadings parse answers (scraped answers selectors),e.1=r) → r.Safe := by
      intro r hr
      cases r with
      | instant t => trivial
      | wall w =>
        by_contra hw
        exact not_sameBooking_of_nothing hbooked
          (nothing_booked_raising hpage hselectors hlogin hw hwindow hr 0) (hsame _ _ 0 0)
    exact ⟨hsafe _ (.inl rfl),fun r hr => hsafe r (.inr (.inl hr)),
      fun e he => hsafe _ (.inr (.inr ⟨e,he,rfl⟩))⟩
  · intro e he f hf hslot
    have hreading := (slotReading_of_shown he).2
    rw [hslot,(slotReading_of_shown hf).2] at hreading
    exact (Option.some.inj (Except.ok.inj hreading)).symm
  · obtain ⟨e',hchosen,hbooked'⟩ := hbooks f hf
    rw [eq_of_sameBooking hiso hbooked hbooked' (hsame _ _ 0 0)]
    exact hchosen

/-- On a page that keeps its answers, for every window and every list of slots: every two
hosts click the same slot and return the same time if and only if the texts are such that
the zone of the host does not matter. -/
theorem same_booking_iff (hpage : ctx.page=steadyPage answers)
    (hiso : Function.Injective lib.isoformat) :
    (∀ z z' n n',SameBooking (handleVfsBookAppointment (zoned lib parse z) overrides ctx n)
        (handleVfsBookAppointment (zoned lib parse z') overrides ctx n')) ↔
      HostIndependent parse answers overrides ctx := by
  constructor
  · intro hsame selectors hselectors hlogin
    by_cases hnothing : NothingToBook parse answers ctx.job.inputs (scraped answers selectors)
    · exact .inl hnothing
    · exact .inr (staysAhead_of_same hpage hselectors hlogin hiso hnothing hsame)
  · intro h z z' n n'
    by_cases hstart : ∃ selectors,
        resolve overrides (get ctx.job.inputs "destination_country")=.ok selectors ∧
          ctx.credentials.isSome
    · obtain ⟨selectors,hselectors,hlogin⟩ := hstart
      by_cases hnothing : NothingToBook parse answers ctx.job.inputs (scraped answers selectors)
      · exact sameBooking_of_nothing (nothing_booked_on hpage hselectors hlogin hnothing z n)
          (nothing_booked_on hpage hselectors hlogin hnothing z' n')
      · obtain ⟨window,hwindow,hsafe,hahead⟩ := (h selectors hselectors hlogin).resolve_left hnothing
        obtain ⟨e,he⟩ := chosen_of_staysAhead hahead
        have hbooked (z : HostZone) (n : Nat) : Booked (zoned lib parse z) ctx selectors
            (handleVfsBookAppointment (zoned lib parse z) overrides ctx n) e := by
          have hreads : AllTexts z.Reads window _ := hsafe.imp z.reads_of_safe
          refine books_chosen hpage hselectors hlogin hwindow ?_ hreads (he z hreads) n
          exact fun slot hslot e he => hnothing (.inr (.inl ⟨slot,hslot,e,he⟩))
        exact sameBooking_of_booked (hbooked z n) (hbooked z' n')
    · have hbefore (z : HostZone) (n : Nat) :
          BooksNothing (handleVfsBookAppointment (zoned lib parse z) overrides ctx n) :=
        nothing_booked_before n fun selectors hselectors hlogin =>
          hstart ⟨selectors,hselectors,hlogin⟩
      exact sameBooking_of_nothing (hbefore z n) (hbefore z' n')

/-! ## Concrete texts -/

def tenOClock : Time := 1778407200000000

def elevenOClock : Time := 1778410800000000

/-- A number with its sign. -/
def numberText (t : Time) : String :=
  String.ofList ((if t<0 then '-' else '+')::Nat.toDigits 10 t.natAbs)

/-- The texts of two instants on a day in May; elsewhere the instant's number. -/
def isoText : Time → String :=
  Function.update (Function.update numberText elevenOClock "2026-05-10T11:00:00+00:00") tenOClock
    "2026-05-10T10:00:00+00:00"

/-- A library that prints these texts; how it reads texts comes with the host. -/
def isoLibrary : PortalLibrary := {dayLibrary with isoformat := isoText}

/-- The texts of the sample page and of its window. -/
def isoParse : Json → Except Exn IsoReading
  | .str "2026-05-10T00:00:00+00:00" => .ok (.instant 1778371200000000)
  | .str "2026-05-10T10:00:00+00:00" => .ok (.instant tenOClock)
  | .str "2026-05-10T10:00:00" => .ok (.wall tenOClock)
  | .str "2026-06-01T10:00:00" => .ok (.wall 1780308000000000)
  | _ => .error ⟨"ValueError",["builtins.ValueError"],"Invalid isoformat string",none⟩

/-- A booking job for the window from a day in May on. -/
def mayContext (slots : List String) : HandlerContext where
  job := {(windowContext slots).job with
    inputs := [("visa_file_id",.str "file-1"),
      ("preferred_window",.obj [("start",.str "2026-05-10T00:00:00+00:00")])]}
  page := steadyPage (dayPage slots)
  credentials := some ⟨"desk","secret",[]⟩
  tenantId := "tenant-1"

/-- A host at UTC. -/
def utcHost : HostZone := zoneOf id near_zero

/-- A host an hour behind UTC. -/
def hourBehind : HostZone := zoneOf (·+3600000000) near_hour

theorem numberText_injective : Function.Injective numberText := by
  intro t t' h
  obtain ⟨hsign,hdigits⟩ := List.cons.inj (String.ofList_injective h)
  have habs : t.natAbs=t'.natAbs := by
    have hdigits' := congrArg (fun l => Nat.ofDigitChars 10 l 0) hdigits
    simpa using hdigits'
  rcases Int.natAbs_eq_natAbs_iff.mp habs with heq|hneg
  · exact heq
  · have hiff : t<0 ↔ t'<0 := by
      by_cases ht : t<0 <;> by_cases ht' : t'<0 <;> simp [ht,ht'] at hsign ⊢
    rw [hneg,Int.neg_neg_iff_pos] at hiff
    have hle : t' ≤ 0 := not_lt.mp fun hpos => absurd (hiff.mp hpos) (not_lt.mpr hpos.le)
    have hge : 0 ≤ t' := not_lt.mp fun hlt => absurd (hiff.mpr hlt) (not_lt.mpr hlt.le)
    have hzero : t'=0 := le_antisymm hle hge
    rw [hneg,hzero]
    rfl

theorem numberText_head (t : Time) : (numberText t).toList.head?≠some '2' := by
  unfold numberText
  rw [String.toList_ofList,List.head?_cons]
  split <;> decide

/-- Another text at one place. -/
theorem update_injective {f : Time → String} {s : String} (hf : Function.Injective f)
    (hs : ∀ u,f u≠s) (t : Time) : Function.Injective (Function.update f t s) := by
  intro u v h
  by_cases hu : u=t
  · by_cases hv : v=t
    · rw [hu,hv]
    · rw [hu,Function.update_self,Function.update_of_ne hv] at h
      exact absurd h.symm (hs v)
  · rw [Function.update_of_ne hu] at h
    by_cases hv : v=t
    · rw [hv,Function.update_self] at h
      exact absurd h (hs u)
    · rw [Function.update_of_ne hv] at h
      exact hf h

theorem isoText_injective : Function.Injective isoText := by
  have hnumber : ∀ {s : String},s.toList.head?=some '2' → ∀ u,numberText u≠s := by
    intro s hs u heq
    rw [← heq] at hs
    exact numberText_head u hs
  refine update_injective (update_injective numberText_injective (hnumber (by decide)) _) ?_ _
  intro u
  by_cases hu : u=elevenOClock
  · rw [hu,Function.update_self]
    decide
  · rw [Function.update_of_ne hu]
    exact hnumber (by decide) u

/-- The slots of a page: one with an offset, and a later one without. -/
def mixedSlots : List String := ["2026-05-10T10:00:00+00:00","2026-06-01T10:00:00"]

theorem mixedSlots_shown : shownReadings isoParse (dayPage mixedSlots) [0,1]=
    [(.instant tenOClock,0),(.wall 1780308000000000,1)] := rfl

/-- Whatever the later text stands for, the slot with an offset is the earlier one. -/
theorem mixedSlots_staysAhead : StaysAhead (.instant 1778371200000000,none)
    (shownReadings isoParse (dayPage mixedSlots) [0,1]) := by
  rw [mixedSlots_shown]
  refine ⟨[],tenOClock,0,[(.wall 1780308000000000,1)],rfl,fun e he => ?_,
    fun e he times u hwindow hu => ?_⟩
  · cases he
  · obtain ⟨start,last⟩ := times
    obtain ⟨hstart,hlast⟩ := hwindow
    cases hlast
    obtain rfl : start=1778371200000000 := hstart
    obtain rfl : e=(.wall 1780308000000000,1) := List.mem_singleton.mp he
    have hin : inWindow (1778371200000000,none) tenOClock=true := rfl
    rw [not_overtakes_of_inside hin,not_beats_false]
    intro
    have hfar : tenOClock ≤ 1780308000000000-dayLength := by decide
    exact hfar.trans hu.1.le

theorem mixedSlots_safe : AllTexts IsoReading.Safe (.instant 1778371200000000,none)
    (shownReadings isoParse (dayPage mixedSlots) [0,1]) := by
  have hinner : Inner 1780308000000000 := ⟨by decide,by decide⟩
  rw [mixedSlots_shown]
  refine ⟨trivial,fun r hr => ?_,?_⟩
  · cases hr
  · rw [List.forall_mem_cons,List.forall_mem_singleton]
    exact ⟨trivial,hinner⟩

/-- A later slot without an offset does no harm: two hosts book the one with an offset. -/
theorem same_booking_mixed :
    SameBooking (handleVfsBookAppointment (zoned isoLibrary isoParse utcHost) []
        (mayContext mixedSlots) 0)
      (handleVfsBookAppointment (zoned isoLibrary isoParse hourBehind) [] (mayContext mixedSlots) 1) :=
  (@same_booking_iff _ _ (dayPage mixedSlots) _ _ rfl isoText_injective).mpr (fun _ _ _ =>
    .inr ⟨(.instant 1778371200000000,none),rfl,mixedSlots_safe,mixedSlots_staysAhead⟩)
    utcHost hourBehind 0 1

/-- A slot without an offset: a host at UTC and one an hour behind return different times. -/
theorem slot_without_offset_shifts :
    ¬∀ z z' : HostZone,SameBooking
      (handleVfsBookAppointment (zoned isoLibrary isoParse z) []
        (mayContext ["2026-05-10T10:00:00"]) 0)
      (handleVfsBookAppointment (zoned isoLibrary isoParse z') []
        (mayContext ["2026-05-10T10:00:00"]) 0) := by
  intro h
  have happointment := (h utcHost hourBehind).appointment
  have hutc : ((handleVfsBookAppointment (zoned isoLibrary isoParse utcHost) []
      (mayContext ["2026-05-10T10:00:00"]) 0).exit.toOption.bind fun out => get out "appointment_at")=
        some (some (.str "2026-05-10T10:00:00+00:00")) := by decide +kernel
  have hbehind : ((handleVfsBookAppointment (zoned isoLibrary isoParse hourBehind) []
      (mayContext ["2026-05-10T10:00:00"]) 0).exit.toOption.bind fun out => get out "appointment_at")=
        some (some (.str "2026-05-10T11:00:00+00:00")) := by decide +kernel
  rw [hutc,hbehind] at happointment
  exact absurd happointment (by decide)

end Voyagent.HostZones
