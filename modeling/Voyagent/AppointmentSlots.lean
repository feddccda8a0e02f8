import Mathlib.Data.List.MinMax
import Voyagent.PortalHandlers

/-!
# Which appointment is booked

The booking handler reads every slot the portal shows and takes the earliest
one inside the preferred window; with none inside it takes the earliest of
all. On a page whose answers do not change under it both loops are the first
minimum of the slots they keep. The window's end counts as inside, and the
second loop does not look at the window's start.
-/

namespace Voyagent.AppointmentSlots

open KeyedMap GeneratorTraces GeneratorRelations RuntimeValues BrowserJobs PortalHandlers

/-- What a page answers each operation, whenever it is asked. -/
abbrev Answers : Type := (op : PageOp) → op.Answer

/-- A page that carries everything out and keeps its answers. -/
def steadyPage (answers : Answers) : Page := fun _ op => .answered (answers op)

/-- The clicks that book: on a slot, and on the confirmation. -/
def books : PageOp → Bool
  | .elementClick _ => true
  | .click button _ => button == SelectorKey.appointmentConfirm.entry.1
  | _ => false

section Reading

variable (lib : PortalLibrary) (answers : Answers)

/-- The time a slot shows, read off the page's answers. -/
def readSlot (slot : Element) : Except Exn (Option Time) :=
  match (answers (.elementQuery slot "[data-time]") : Option Element) with
  | none => .ok none
  | some el =>
    match (answers (.elementAttribute el "data-time") : Option String).filter
      (fun s => decide (s≠"")) with
    | none => .ok none
    | some s =>
      match lib.fromIso (.str s) with
      | .ok t => .ok (some t)
      | .error e => if e.isInstance "builtins.ValueError" then .ok none else .error e

/-- The time of a slot that shows one. -/
def shownTime (slot : Element) : Option (Time × Element) :=
  match readSlot lib answers slot with
  | .ok (some t) => some (t,slot)
  | _ => none

/-- The slots with a time that can be read, in the order of the page. -/
def shownSlots (slots : List Element) : List (Time × Element) :=
  slots.filterMap (shownTime lib answers)

/-- Reading some slot raises what the handler does not catch. -/
def Unreadable (slots : List Element) : Prop := ∃ slot ∈ slots,∃ e,readSlot lib answers slot=.error e

/-- The earlier of two slots, the first one on a tie. -/
def earlierOf (chosen : Option (Time × Element)) (e : Time × Element) : Option (Time × Element) :=
  match chosen with
  | none => some e
  | some c => if e.1<c.1 then some e else some c

/-- The first of the earliest slots. -/
def earliestOf (shown : List (Time × Element)) : Option (Time × Element) := shown.foldl earlierOf none

end Reading

variable {lib : PortalLibrary} {answers : Answers} {overrides : Overrides} {ctx : HandlerContext}

/-! ## The first of the earliest slots -/

/-- The loop's step is the one of `List.argmin`. -/
theorem earlierOf_eq_argAux : earlierOf=List.argAux fun b c : Time × Element => b.1<c.1 := by
  funext chosen e
  cases chosen <;> rfl

variable {e : Time × Element}

theorem earliestOf_mem {shown : List (Time × Element)} (h : earliestOf shown=some e) :
    e ∈ shown := by
  rw [earliestOf,earlierOf_eq_argAux] at h
  exact List.argmin_mem (f:=Prod.fst) (Option.mem_def.mpr h)

variable {f : Time × Element}

theorem earliestOf_le {shown : List (Time × Element)} (h : earliestOf shown=some e) (hf : f ∈ shown) :
    e.1 ≤ f.1 := by
  rw [earliestOf,earlierOf_eq_argAux] at h
  exact List.le_of_mem_argmin hf (Option.mem_def.mpr h)

theorem earliestOf_eq_none {shown : List (Time × Element)} : earliestOf shown=none ↔ shown=[] := by
  rw [earliestOf,earlierOf_eq_argAux]
  exact List.argmin_eq_none

/-! ## The handler on a steady page -/

theorem ask_settles (op : PageOp) :
    Settles books (ask (steadyPage answers) op) (if books op then [op] else []) (.ok (answers op)) := by
  intro n
  refine ⟨?_,rfl⟩
  change [op].filter books=_
  rw [List.filter_singleton]
  cases books op <;> rfl

/-- An operation that books nothing. -/
theorem ask_quietly {op : PageOp} (h : books op=false) :
    Settles books (ask (steadyPage answers) op) [] (.ok (answers op)) := by
  have hask : Settles books (ask (steadyPage answers) op) _ _ := ask_settles op
  rwa [h] at hask

theorem slotTime_settles (slot : Element) :
    Settles books (slotTime lib (steadyPage answers) slot) []
      ((readSlot lib answers slot).mapError .raised) := by
  unfold slotTime readSlot
  refine Settles.quiet_bind (ask_quietly rfl) ?_
  cases (answers (.elementQuery slot "[data-time]") : Option Element) with
  | none => exact Settles.pure
  | some el =>
    refine Settles.quiet_bind (ask_quietly rfl) ?_
    dsimp only
    cases (answers (.elementAttribute el "data-time") : Option String).filter
      (fun s => decide (s≠"")) with
    | none => exact Settles.pure
    | some s =>
      dsimp only
      cases lib.fromIso (.str s) with
      | ok t => exact Settles.pure
      | error e =>
        dsimp only
        split
        · exact Settles.pure
        · exact Settles.fail

variable {slots : List Element}

/-- With every slot readable a loop keeps the first minimum. -/
theorem earliestSlot_settles (keep : Time → Bool) (hread : ¬Unreadable lib answers slots)
    (chosen : Option (Time × Element)) :
    Settles books (earliestSlot lib (steadyPage answers) keep slots chosen) []
      (.ok (((shownSlots lib answers slots).filter fun e => keep e.1).foldl earlierOf chosen)) := by
  induction slots generalizing chosen with
  | nil => exact Settles.pure
  | cons slot slots ih =>
    have htail : ¬Unreadable lib answers slots :=
      fun ⟨s,hs,e,he⟩ => hread ⟨s,List.mem_cons_of_mem slot hs,e,he⟩
    have htime := @slotTime_settles lib answers slot
    cases hslot : readSlot lib answers slot with
    | error e => exact absurd ⟨slot,List.mem_cons_self,e,hslot⟩ hread
    | ok time =>
      rw [hslot] at htime
      refine Settles.quiet_bind htime ?_
      cases time with
      | none =>
        have hshown : shownSlots lib answers (slot::slots)=shownSlots lib answers slots := by
          simp [shownSlots,shownTime,hslot]
        rw [hshown]
        exact ih htail chosen
      | some t =>
        have hshown : shownSlots lib answers (slot::slots)=(t,slot)::shownSlots lib answers slots := by
          simp [shownSlots,shownTime,hslot]
        rw [hshown]
        dsimp only
        cases hkeep : keep t with
        | false =>
          have hfilter : ((t,slot)::shownSlots lib answers slots).filter (fun e => keep e.1)=
              (shownSlots lib answers slots).filter fun e => keep e.1 :=
            List.filter_cons_of_neg (by simp [hkeep])
          rw [hfilter]
          exact ih htail chosen
        | true =>
          have hfilter : ((t,slot)::shownSlots lib answers slots).filter (fun e => keep e.1)=
              (t,slot)::(shownSlots lib answers slots).filter fun e => keep e.1 :=
            List.filter_cons_of_pos hkeep
          rw [hfilter,List.foldl_cons]
          cases chosen with
          | none => exact ih htail (some (t,slot))
          | some c =>
            by_cases hlt : t<c.1
            · have hnext : earlierOf (some c) (t,slot)=some (t,slot) := if_pos hlt
              rw [hnext]
              simp only [Option.all_some,hlt,decide_true,Bool.and_self,if_true]
              exact ih htail _
            · have hnext : earlierOf (some c) (t,slot)=some c := if_neg hlt
              rw [hnext]
              simp only [Option.all_some,hlt,decide_false,Bool.and_false,Bool.false_eq_true,if_false]
              exact ih htail _

/-- A slot whose reading raises ends the loop that meets it. -/
theorem earliestSlot_raises (keep : Time → Bool) (hread : Unreadable lib answers slots)
    (chosen : Option (Time × Element)) :
    ∃ k,Settles books (earliestSlot lib (steadyPage answers) keep slots chosen) [] (.error k) := by
  induction slots generalizing chosen with
  | nil =>
    obtain ⟨slot,hslot,-⟩ := hread
    cases hslot
  | cons slot slots ih =>
    have htime := @slotTime_settles lib answers slot
    cases hslot : readSlot lib answers slot with
    | error e =>
      rw [hslot] at htime
      exact ⟨_,Settles.bind_error htime⟩
    | ok time =>
      rw [hslot] at htime
      have htail : Unreadable lib answers slots := by
        obtain ⟨s,hs,e,he⟩ := hread
        rcases List.mem_cons.mp hs with rfl|hs
        · rw [hslot] at he
          cases he
        · exact ⟨s,hs,e,he⟩
      have hnext : ∀ chosen',∃ k,
          Settles books (earliestSlot lib (steadyPage answers) keep slots chosen') [] (.error k) :=
        fun chosen' => ih htail chosen'
      cases time with
      | none =>
        obtain ⟨k,hk⟩ := hnext chosen
        exact ⟨k,Settles.quiet_bind htime hk⟩
      | some t =>
        cases hkeep : keep t && chosen.all (fun c => decide (t<c.1)) with
        | true =>
          obtain ⟨k,hk⟩ := hnext (some (t,slot))
          refine ⟨k,Settles.quiet_bind htime ?_⟩
          dsimp only
          rwa [hkeep,if_pos rfl]
        | false =>
          obtain ⟨k,hk⟩ := hnext chosen
          refine ⟨k,Settles.quiet_bind htime ?_⟩
          dsimp only
          rwa [hkeep,if_neg Bool.false_ne_true]

/-- The clicks that book a slot. -/
def bookingClicks (selectors : Selectors) (e : Time × Element) : List PageOp :=
  [.elementClick e.2,.click SelectorKey.appointmentConfirm.entry.1 (selectors .appointmentConfirm)]

/-- What the handler returns of a booked slot. -/
def booking (lib : PortalLibrary) (ctx : HandlerContext) (e : Time × Element) : Outputs :=
  [echoed ctx.job.inputs "visa_file_id",("appointment_at",some (.str (lib.isoformat e.1)))]

theorem confirmSlot_settles (hpage : ctx.page=steadyPage answers) (selectors : Selectors)
    (e : Time × Element) :
    Settles books (confirmSlot lib ctx selectors (some e)) (bookingClicks selectors e)
      (.ok (booking lib ctx e)) := by
  unfold confirmSlot clickEntry click
  rw [hpage]
  have hconfirm : Settles books (ask (steadyPage answers) (.click
      SelectorKey.appointmentConfirm.entry.1 (selectors .appointmentConfirm))) _ _ := ask_settles _
  exact Settles.bind (ask_settles _) (Settles.bind hconfirm Settles.pure)

/-- Logging in clicks another button. -/
theorem loginSubmit_ne_confirm :
    (SelectorKey.loginSubmit.entry.1 == SelectorKey.appointmentConfirm.entry.1)=false := by decide

theorem ensureLoggedIn_settles (hpage : ctx.page=steadyPage answers) (selectors : Selectors)
    (hlogin : ctx.credentials.isSome) :
    Settles books (ensureLoggedIn ctx selectors) [] (.ok ()) := by
  obtain ⟨credentials,hcredentials⟩ := Option.isSome_iff_exists.mp hlogin
  unfold ensureLoggedIn clickEntry click goto fill
  rw [hcredentials,hpage]
  refine Settles.quiet_bind (ask_quietly rfl) ?_
  refine Settles.quiet_bind (ask_quietly rfl) ?_
  refine Settles.quiet_bind (ask_quietly rfl) ?_
  exact ask_quietly loginSubmit_ne_confirm

/-- The slot the handler goes for: the first minimum inside the window, or of
all slots. -/
def chosenSlot (window : Time × Option Time) (shown : List (Time × Element)) :
    Option (Time × Element) :=
  (earliestOf (shown.filter fun e => inWindow window e.1)).or (earliestOf shown)

section Booking

variable {selectors : Selectors} {window : Time × Option Time}

/-- The slots the portal shows for an appointment. -/
def scraped (answers : Answers) (selectors : Selectors) : List Element :=
  answers (.querySelectorAll (selectors .appointmentSlot))

/-- What the handler runs after the page is loaded. -/
theorem handler_settles (hpage : ctx.page=steadyPage answers)
    (hselectors : resolve overrides (get ctx.job.inputs "destination_country")=.ok selectors)
    (hwindow : preferredWindow lib ctx.job.inputs=.ok window) (hlogin : ctx.credentials.isSome)
    {es : List PageOp} {x : Except Halt Outputs}
    (hloops : Settles books (do
      let inside ← earliestSlot lib (steadyPage answers) (inWindow window) (scraped answers selectors)
        none
      match inside with
      | some chosen => confirmSlot lib ctx selectors (some chosen)
      | none => do
        let chosen ← earliestSlot lib (steadyPage answers) (fun _ => true)
          (scraped answers selectors) none
        confirmSlot lib ctx selectors chosen) es x) :
    Settles books (handleVfsBookAppointment lib overrides ctx) es x := by
  unfold handleVfsBookAppointment goto
  rw [hselectors,hwindow]
  refine Settles.quiet_bind Settles.pure ?_
  refine Settles.quiet_bind Settles.pure ?_
  refine Settles.quiet_bind (ensureLoggedIn_settles hpage selectors hlogin) ?_
  rw [hpage]
  refine Settles.quiet_bind (ask_quietly rfl) ?_
  exact Settles.quiet_bind (ask_quietly rfl) hloops

/-- A handler whose slots cannot all be read books nothing. -/
theorem handler_raises (hpage : ctx.page=steadyPage answers)
    (hselectors : resolve overrides (get ctx.job.inputs "destination_country")=.ok selectors)
    (hwindow : preferredWindow lib ctx.job.inputs=.ok window) (hlogin : ctx.credentials.isSome)
    (hread : Unreadable lib answers (scraped answers selectors)) :
    ∃ k,Settles books (handleVfsBookAppointment lib overrides ctx) [] (.error k) := by
  obtain ⟨k,hk⟩ := earliestSlot_raises (inWindow window) hread none
  exact ⟨k,handler_settles hpage hselectors hwindow hlogin (Settles.bind_error hk)⟩

/-- A handler that reads every slot books the one it goes for. -/
theorem handler_books (hpage : ctx.page=steadyPage answers)
    (hselectors : resolve overrides (get ctx.job.inputs "destination_country")=.ok selectors)
    (hwindow : preferredWindow lib ctx.job.inputs=.ok window) (hlogin : ctx.credentials.isSome)
    (hread : ¬Unreadable lib answers (scraped answers selectors)) :
    match chosenSlot window (shownSlots lib answers (scraped answers selectors)) with
    | some e => Settles books (handleVfsBookAppointment lib overrides ctx)
        (bookingClicks selectors e) (.ok (booking lib ctx e))
    | none => ∃ k,Settles books (handleVfsBookAppointment lib overrides ctx) [] (.error k) := by
  have hfirst := earliestSlot_settles (inWindow window) hread none
  have hsecond := earliestSlot_settles (fun _ => true) hread none
  rw [List.filter_true] at hsecond
  unfold chosenSlot
  rw [← earliestOf] at hfirst hsecond
  cases hin : earliestOf ((shownSlots lib answers (scraped answers selectors)).filter
      fun e => inWindow window e.1) with
  | some e =>
    rw [hin] at hfirst
    exact handler_settles hpage hselectors hwindow hlogin
      (Settles.quiet_bind hfirst (confirmSlot_settles hpage selectors e))
  | none =>
    rw [hin] at hfirst
    rw [Option.none_or]
    cases hall : earliestOf (shownSlots lib answers (scraped answers selectors)) with
    | some e =>
      rw [hall] at hsecond
      exact handler_settles hpage hselectors hwindow hlogin (Settles.quiet_bind hfirst
        (Settles.quiet_bind hsecond (confirmSlot_settles hpage selectors e)))
    | none =>
      rw [hall] at hsecond
      exact ⟨_,handler_settles hpage hselectors hwindow hlogin (Settles.quiet_bind hfirst
        (Settles.quiet_bind hsecond Settles.fail))⟩

end Booking

/-! ## The window -/

/-- A time in the half-open period the window stands for. -/
def InPeriod (window : Time × Option Time) (t : Time) : Prop :=
  window.1 ≤ t ∧ ∀ last,window.2=some last → t<last

/-- The earliest of the shown slots whose time is right. -/
def Earliest (P : Time → Prop) (shown : List (Time × Element)) (e : Time × Element) : Prop :=
  e ∈ shown ∧ P e.1 ∧ ∀ f ∈ shown,P f.1 → e.1 ≤ f.1

/-- A run clicks the slot, confirms it and returns its time. -/
def Booked (lib : PortalLibrary) (ctx : HandlerContext) (selectors : Selectors)
    (run : Trace Nat PageOp Halt Outputs) (e : Time × Element) : Prop :=
  run.events.filter books=bookingClicks selectors e ∧ run.exit=.ok (booking lib ctx e)

/-- The choice respects the window: the earliest slot inside it, else the
earliest one from its start on, never an earlier one, and the window's end is
outside. -/
structure RespectsWindow (lib : PortalLibrary) (ctx : HandlerContext) (selectors : Selectors)
    (window : Time × Option Time) (shown : List (Time × Element))
    (run : Trace Nat PageOp Halt Outputs) : Prop where
  inside : (∃ e ∈ shown,InPeriod window e.1) →
    ∃ e,Earliest (InPeriod window) shown e ∧ Booked lib ctx selectors run e
  fallback : (¬∃ e ∈ shown,InPeriod window e.1) → (∃ e ∈ shown,window.1 ≤ e.1) →
    ∃ e,Earliest (window.1≤·) shown e ∧ Booked lib ctx selectors run e
  early : (∀ e ∈ shown,e.1<window.1) → run.events.filter books=[]
  ends : ∀ e ∈ shown,inWindow window e.1=true ↔ InPeriod window e.1

/-- The slots for which the choice respects the window: none at its end, every
one readable unless all are before its start, and one inside or none before
its start. -/
structure SlotsFit (lib : PortalLibrary) (answers : Answers) (slots : List Element)
    (window : Time × Option Time) : Prop where
  noneAtEnd : ∀ e ∈ shownSlots lib answers slots,window.2=some e.1 → e.1<window.1
  readable : Unreadable lib answers slots → ∀ e ∈ shownSlots lib answers slots,e.1<window.1
  covered : ¬Unreadable lib answers slots →
    (∃ e ∈ shownSlots lib answers slots,InPeriod window e.1) ∨
      ∀ e ∈ shownSlots lib answers slots,window.1 ≤ e.1

theorem inWindow_iff (window : Time × Option Time) (t : Time) :
    inWindow window t=true ↔ window.1 ≤ t ∧ ∀ last,window.2=some last → t ≤ last := by
  obtain ⟨start,last⟩ := window
  cases last <;> simp [inWindow]

/-- The handler's window is the half-open one except at its end. -/
theorem inWindow_iff_inPeriod (window : Time × Option Time) (t : Time) :
    (inWindow window t=true ↔ InPeriod window t) ↔ (window.2=some t → t<window.1) := by
  rw [inWindow_iff]
  unfold InPeriod
  obtain ⟨start,last⟩ := window
  cases last with
  | none => simp
  | some last =>
    simp only [Option.some.injEq,forall_eq']
    by_cases hlast : last=t
    · subst hlast
      simp
    · have hlt : t ≤ last ↔ t<last := ⟨fun h => lt_of_le_of_ne h (Ne.symm hlast),le_of_lt⟩
      simp [hlast,hlt]

/-- A slot shows one time. -/
theorem shownSlots_time (he : e ∈ shownSlots lib answers slots)
    (hf : f ∈ shownSlots lib answers slots) (hslot : e.2=f.2) : e.1=f.1 := by
  have hread : ∀ {e : Time × Element},e ∈ shownSlots lib answers slots →
      readSlot lib answers e.2=.ok (some e.1) := by
    intro e he
    obtain ⟨slot,-,hslot⟩ := List.mem_filterMap.mp he
    unfold shownTime at hslot
    split at hslot
    · rename_i t ht
      cases hslot
      exact ht
    · cases hslot
  have he' := hread he
  rw [hslot,hread hf] at he'
  exact (Option.some.inj (Except.ok.inj he')).symm

/-! ## When the choice respects the window -/

variable {selectors : Selectors} {window : Time × Option Time} {shown : List (Time × Element)}
  {run : Trace Nat PageOp Halt Outputs}

/-- The first minimum of the slots that are kept is their earliest. -/
theorem earliest_of_earliestOf {P : Time → Prop} {keep : Time → Bool}
    (hkeep : ∀ e ∈ shown,keep e.1=true ↔ P e.1)
    (he : earliestOf (shown.filter fun e => keep e.1)=some e) : Earliest P shown e := by
  have hmem := List.mem_filter.mp (earliestOf_mem he)
  refine ⟨hmem.1,(hkeep e hmem.1).mp hmem.2,fun f hf hp => ?_⟩
  have hkept : f ∈ shown.filter fun e => keep e.1 := List.mem_filter.mpr ⟨hf,(hkeep f hf).mpr hp⟩
  exact earliestOf_le he hkept

/-- A run that books nothing respects the window only when no slot is late enough. -/
theorem respects_nothing_iff (hnone : run.events.filter books=[])
    (hends : ∀ e ∈ shown,inWindow window e.1=true ↔ InPeriod window e.1) :
    RespectsWindow lib ctx selectors window shown run ↔ ∀ e ∈ shown,e.1<window.1 := by
  have hbooked : ∀ e,¬Booked lib ctx selectors run e := by
    rintro e ⟨hclicks,-⟩
    rw [hnone] at hclicks
    cases hclicks
  constructor
  · intro h e he
    by_contra hlate
    by_cases hin : ∃ e ∈ shown,InPeriod window e.1
    · obtain ⟨f,-,hf⟩ := h.inside hin
      exact hbooked f hf
    · obtain ⟨f,-,hf⟩ := h.fallback hin ⟨e,he,not_lt.mp hlate⟩
      exact hbooked f hf
  · intro hearly
    refine ⟨?_,?_,fun _ => hnone,hends⟩
    · rintro ⟨e,he,hin⟩
      exact absurd hin.1 (not_le.mpr (hearly e he))
    · rintro - ⟨e,he,hlate⟩
      exact absurd hlate (not_le.mpr (hearly e he))

/-- The handler's choice respects the window if there is a slot inside it, or
none before its start. -/
theorem respects_chosen (hends : ∀ e ∈ shown,inWindow window e.1=true ↔ InPeriod window e.1)
    (hchosen : chosenSlot window shown=some e) (hbooked : Booked lib ctx selectors run e)
    (hcovered : (∃ e ∈ shown,InPeriod window e.1) ∨ ∀ e ∈ shown,window.1 ≤ e.1) :
    RespectsWindow lib ctx selectors window shown run := by
  unfold chosenSlot at hchosen
  cases hin : earliestOf (shown.filter fun e => inWindow window e.1) with
  | some f =>
    rw [hin,Option.some_or] at hchosen
    cases hchosen
    have hearliest := earliest_of_earliestOf hends hin
    refine ⟨fun _ => ⟨e,hearliest,hbooked⟩,fun hno => ?_,fun hearly => ?_,hends⟩
    · exact absurd ⟨e,hearliest.1,hearliest.2.1⟩ hno
    · exact absurd hearliest.2.1.1 (not_le.mpr (hearly e hearliest.1))
  | none =>
    rw [hin,Option.none_or] at hchosen
    have hno : ¬∃ e ∈ shown,InPeriod window e.1 := by
      rintro ⟨f,hf,hp⟩
      have hempty := earliestOf_eq_none.mp hin
      have hmem : f ∈ shown.filter fun e => inWindow window e.1 :=
        List.mem_filter.mpr ⟨hf,(hends f hf).mpr hp⟩
      rw [hempty] at hmem
      cases hmem
    have hlate : ∀ f ∈ shown,window.1 ≤ f.1 := hcovered.resolve_left hno
    have hmem := earliestOf_mem hchosen
    refine ⟨fun h => absurd h hno,fun _ _ => ⟨e,⟨hmem,hlate e hmem,fun f hf _ => ?_⟩,hbooked⟩,
      fun hearly => ?_,hends⟩
    · exact earliestOf_le hchosen hf
    · exact absurd (hlate e hmem) (not_le.mpr (hearly e hmem))

/-- With no slot inside the window and one before its start, the handler books
a slot before the start. -/
theorem covered_of_respects
    (h : RespectsWindow lib ctx selectors window (shownSlots lib answers slots) run)
    (hchosen : chosenSlot window (shownSlots lib answers slots)=some e)
    (hbooked : Booked lib ctx selectors run e) :
    (∃ e ∈ shownSlots lib answers slots,InPeriod window e.1) ∨
      ∀ e ∈ shownSlots lib answers slots,window.1 ≤ e.1 := by
  by_cases hin : ∃ e ∈ shownSlots lib answers slots,InPeriod window e.1
  · exact .inl hin
  · refine .inr fun f hf => ?_
    have hnone : earliestOf ((shownSlots lib answers slots).filter fun e => inWindow window e.1)=
        none := by
      refine earliestOf_eq_none.mpr (List.filter_eq_nil_iff.mpr fun g hg hw => ?_)
      exact hin ⟨g,hg,(h.ends g hg).mp hw⟩
    unfold chosenSlot at hchosen
    rw [hnone,Option.none_or] at hchosen
    have hmem := earliestOf_mem hchosen
    have hle : e.1 ≤ f.1 := earliestOf_le hchosen hf
    by_cases hlate : ∃ g ∈ shownSlots lib answers slots,window.1 ≤ g.1
    · obtain ⟨g,hg,hclicks,-⟩ := h.fallback hin hlate
      have hsame : bookingClicks selectors e=bookingClicks selectors g := hbooked.1.symm.trans hclicks
      have hslot : e.2=g.2 := PageOp.elementClick.inj (List.cons.inj hsame).1
      have htime := shownSlots_time hmem hg.1 hslot
      exact (htime ▸ hg.2.1 : window.1 ≤ e.1).trans hle
    · have hnothing := h.early fun g hg => not_le.mp fun hge => hlate ⟨g,hg,hge⟩
      rw [hbooked.1] at hnothing
      cases hnothing

/-- On a page that keeps its answers, for every list of slots and every window:
the choice respects the window if and only if the slots fit. -/
theorem book_appointment_iff (hpage : ctx.page=steadyPage answers)
    (hselectors : resolve overrides (get ctx.job.inputs "destination_country")=.ok selectors)
    (hwindow : preferredWindow lib ctx.job.inputs=.ok window) (hlogin : ctx.credentials.isSome)
    (n : Nat) :
    RespectsWindow lib ctx selectors window (shownSlots lib answers (scraped answers selectors))
        (handleVfsBookAppointment lib overrides ctx n) ↔
      SlotsFit lib answers (scraped answers selectors) window := by
  have hends : (∀ e ∈ shownSlots lib answers (scraped answers selectors),
      inWindow window e.1=true ↔ InPeriod window e.1) ↔
        ∀ e ∈ shownSlots lib answers (scraped answers selectors),window.2=some e.1 → e.1<window.1 :=
    forall₂_congr fun e _ => inWindow_iff_inPeriod window e.1
  by_cases hread : Unreadable lib answers (scraped answers selectors)
  · obtain ⟨k,hk⟩ := handler_raises hpage hselectors hwindow hlogin hread
    constructor
    · intro h
      exact ⟨hends.mp h.ends,fun _ => (respects_nothing_iff (hk n).1 h.ends).mp h,
        fun hno => absurd hread hno⟩
    · intro h
      exact (respects_nothing_iff (hk n).1 (hends.mpr h.noneAtEnd)).mpr (h.readable hread)
  · have hbooks := handler_books hpage hselectors hwindow hlogin hread
    cases hchosen : chosenSlot window (shownSlots lib answers (scraped answers selectors)) with
    | none =>
      rw [hchosen] at hbooks
      obtain ⟨k,hk⟩ := hbooks
      have hempty : shownSlots lib answers (scraped answers selectors)=[] :=
        earliestOf_eq_none.mp (Option.or_eq_none_iff.mp hchosen).2
      have hall : ∀ {P : Time × Element → Prop},
          ∀ e ∈ shownSlots lib answers (scraped answers selectors),P e := by
        intro P e he
        rw [hempty] at he
        cases he
      exact iff_of_true ((respects_nothing_iff (hk n).1 hall).mpr hall)
        ⟨hall,fun _ => hall,fun _ => .inr hall⟩
    | some e =>
      rw [hchosen] at hbooks
      have hbooked : Booked lib ctx selectors (handleVfsBookAppointment lib overrides ctx n) e :=
        hbooks n
      constructor
      · intro h
        exact ⟨hends.mp h.ends,fun hyes => absurd hyes hread,
          fun _ => covered_of_respects h hchosen hbooked⟩
      · intro h
        exact respects_chosen (hends.mpr h.noneAtEnd) hchosen hbooked (h.covered hread)

/-! ## Concrete pages -/

/-- Dates are read from days written as numbers. -/
def dayLibrary : PortalLibrary where
  text _ := ""
  dictOf _ := .ok []
  setOf _ := none
  fromIso
    | .str "10" => .ok 10
    | .str "12" => .ok 12
    | .str "11" => .ok 11
    | .str "14" => .ok 14
    | _ => .error ⟨"ValueError",["builtins.ValueError"],"Invalid isoformat string",none⟩
  isoformat _ := ""
  lower text := text

/-- A page whose slots carry their days. -/
def dayPage (days : List String) : Answers
  | .querySelectorAll _ => List.range days.length
  | .elementQuery slot _ => some slot
  | .elementAttribute slot _ => days[slot]?
  | .goto _ => ()
  | .fill _ _ => ()
  | .click _ _ => ()
  | .textContent _ => none
  | .setInputFiles _ _ => ()
  | .elementText _ => none
  | .elementClick _ => ()
  | .screenshot => ()
  | .putArtifact _ _ => ""

/-- A booking job for the window from day 11 to day 14. -/
def windowContext (days : List String) : HandlerContext where
  job :=
    {id := "job-1",tenantId := "tenant-1",kind := .vfsBookAppointment
     inputs := [("visa_file_id",.str "file-1"),
       ("preferred_window",.obj [("start",.str "11"),("end",.str "14")])]
     tenantCredentialsRef := "vfs",attempts := 0,deadlineAt := none}
  page := steadyPage (dayPage days)
  credentials := some ⟨"desk","secret",[]⟩
  tenantId := "tenant-1"

/-- The default selectors. -/
def defaultSelectors : Selectors := fun key => key.entry.2

/-- With a slot before the window, one inside and one at its end, the choice
respects the window exactly when the slots fit. -/
theorem book_appointment_iff_days :
    RespectsWindow dayLibrary (windowContext ["10","12","14"]) defaultSelectors (11,some 14)
        (shownSlots dayLibrary (dayPage ["10","12","14"])
          (scraped (dayPage ["10","12","14"]) defaultSelectors))
        (handleVfsBookAppointment dayLibrary [] (windowContext ["10","12","14"]) 0) ↔
      SlotsFit dayLibrary (dayPage ["10","12","14"])
        (scraped (dayPage ["10","12","14"]) defaultSelectors) (11,some 14) :=
  @book_appointment_iff dayLibrary (dayPage _) [] _ defaultSelectors _ rfl rfl rfl rfl 0

/-- With a single slot, before the window, that slot is booked. -/
theorem slot_before_window_booked :
    ¬RespectsWindow dayLibrary (windowContext ["10"]) defaultSelectors (11,some 14)
        (shownSlots dayLibrary (dayPage ["10"]) (scraped (dayPage ["10"]) defaultSelectors))
        (handleVfsBookAppointment dayLibrary [] (windowContext ["10"]) 0) := by
  intro h
  have hnothing := h.early (by decide +kernel)
  have hclicks : (handleVfsBookAppointment dayLibrary [] (windowContext ["10"]) 0).events.filter books=
      [.elementClick 0,.click "appointment_confirm" "button[data-voyagent-confirm-slot]"] := by
    decide +kernel
  rw [hnothing] at hclicks
  cases hclicks

end Voyagent.AppointmentSlots
