import Voyagent.FallibleResults
import Voyagent.HafParser

/-!
# Which files the parser accepts

A file is accepted when each of its record lines reads as a record, one of
them as the header and one as the trailer; the result lists what they read as.
Whether a line reads does not depend on its number.
-/

namespace Voyagent.HafAcceptance

open TrimmedText RuntimeValues PythonNumbers CalendarDates HafRecords HafParser FallibleResults

variable {α : Type}

/-! ## Line numbers -/

section Numbers

variable (line : List Char) (start length n m : Nat) (field field' : String)

theorem slice_sameOk : SameOk (slice line start length n field) (slice line start length m field') := by
  unfold slice
  split
  · exact sameOk_error _ _
  · exact .refl _

theorem parseInt_sameOk (raw : List Char) : SameOk (parseInt raw n field) (parseInt raw m field') := by
  unfold parseInt
  split
  · exact sameOk_error _ _
  · split
    · exact .refl _
    · exact sameOk_error _ _

theorem validateAirlineCode_sameOk (raw : List Char) :
    SameOk (validateAirlineCode raw n) (validateAirlineCode raw m) := by
  unfold validateAirlineCode
  dsimp only
  split
  · exact sameOk_error _ _
  · split
    · exact sameOk_error _ _
    · exact .refl _

theorem parseDate_sameOk (raw : List Char) : SameOk (parseDate raw n field) (parseDate raw m field') := by
  unfold parseDate
  dsimp only
  split
  · exact sameOk_error _ _
  · split
    · split
      · exact .refl _
      · exact sameOk_error _ _
    · exact sameOk_error _ _

theorem parseAmount_sameOk (magnitude sign : List Char) :
    SameOk (parseAmount magnitude sign n field) (parseAmount magnitude sign m field') := by
  unfold parseAmount
  split
  · exact sameOk_error _ _
  · split
    · exact sameOk_error _ _
    · split
      · exact sameOk_error _ _
      · exact .refl _

theorem textAt_sameOk : SameOk (textAt line start length n field) (textAt line start length m field) :=
  (slice_sameOk ..).bind fun _ => .refl _

theorem narrationAt_sameOk : SameOk (narrationAt line start length n) (narrationAt line start length m) :=
  (slice_sameOk ..).bind fun _ => .refl _

theorem airlineAt_sameOk : SameOk (airlineAt line start n) (airlineAt line start m) :=
  (slice_sameOk ..).bind fun _ => validateAirlineCode_sameOk ..

theorem dateAt_sameOk : SameOk (dateAt line start n field) (dateAt line start m field) :=
  (slice_sameOk ..).bind fun _ => parseDate_sameOk ..

theorem amountAt_sameOk : SameOk (amountAt line start n field) (amountAt line start m field') :=
  (slice_sameOk ..).bind fun _ => (slice_sameOk ..).bind fun _ => parseAmount_sameOk ..

theorem parseBfh01_sameOk : SameOk (parseBfh01 line n) (parseBfh01 line m) :=
  (textAt_sameOk ..).bind fun _ => (textAt_sameOk ..).bind fun _ => (textAt_sameOk ..).bind fun _ =>
    (dateAt_sameOk ..).bind fun _ => (dateAt_sameOk ..).bind fun _ =>
      (textAt_sameOk ..).bind fun _ => .refl _

theorem parseBks24_sameOk : SameOk (parseBks24 line n) (parseBks24 line m) :=
  (textAt_sameOk ..).bind fun _ => (airlineAt_sameOk ..).bind fun _ => (dateAt_sameOk ..).bind fun _ =>
    (amountAt_sameOk ..).bind fun _ => (amountAt_sameOk ..).bind fun _ =>
      (amountAt_sameOk ..).bind fun _ => (amountAt_sameOk ..).bind fun _ =>
        (narrationAt_sameOk ..).bind fun _ => .refl _

theorem parseBks39_sameOk : SameOk (parseBks39 line n) (parseBks39 line m) :=
  (textAt_sameOk ..).bind fun _ => (textAt_sameOk ..).bind fun _ => (airlineAt_sameOk ..).bind fun _ =>
    (dateAt_sameOk ..).bind fun _ => (amountAt_sameOk ..).bind fun _ =>
      (narrationAt_sameOk ..).bind fun _ => .refl _

theorem parseBks45_sameOk : SameOk (parseBks45 line n) (parseBks45 line m) :=
  (textAt_sameOk ..).bind fun _ => (textAt_sameOk ..).bind fun _ => (airlineAt_sameOk ..).bind fun _ =>
    (dateAt_sameOk ..).bind fun _ => (amountAt_sameOk ..).bind fun _ =>
      (narrationAt_sameOk ..).bind fun _ => .refl _

theorem parseMemo_sameOk : SameOk (parseMemo line n) (parseMemo line m) :=
  (textAt_sameOk ..).bind fun _ => (airlineAt_sameOk ..).bind fun _ => (dateAt_sameOk ..).bind fun _ =>
    (amountAt_sameOk ..).bind fun _ => (narrationAt_sameOk ..).bind fun _ => .refl _

theorem parseBft99_sameOk : SameOk (parseBft99 line n) (parseBft99 line m) :=
  (slice_sameOk ..).bind fun _ => (parseInt_sameOk ..).bind fun _ =>
    (amountAt_sameOk ..).bind fun _ => .refl _

end Numbers

/-! ## Lines -/

/-- What a record line reads as. -/
inductive Item where
  | header (h : BFH01FileHeader)
  | transaction (r : HAFTransactionRecord)
  | trailer (t : BFT99FileTrailer)
  | unrecognised

def Item.header? : Item → Option BFH01FileHeader
  | .header h => some h
  | _ => none

def Item.transaction? : Item → Option HAFTransactionRecord
  | .transaction r => some r
  | _ => none

def Item.trailer? : Item → Option BFT99FileTrailer
  | .trailer t => some t
  | _ => none

/-- Reading one record line. -/
def readRecord (line : List Char) (n : Nat) : Parsed Item :=
  match recordCode line with
  | some .bfh01 => do return .header (← parseBfh01 line n)
  | some .bks24 => do return .transaction (.bks24 (← parseBks24 line n))
  | some .bks39 => do return .transaction (.bks39 (← parseBks39 line n))
  | some .bks45 => do return .transaction (.bks45 (← parseBks45 line n))
  | some .bks46 => do return .transaction (.bks46 (← parseMemo line n))
  | some .bks47 => do return .transaction (.bks47 (← parseMemo line n))
  | some .bft99 => do return .trailer (← parseBft99 line n)
  | none => .ok .unrecognised

theorem readRecord_sameOk (line : List Char) (n m : Nat) :
    SameOk (readRecord line n) (readRecord line m) := by
  unfold readRecord
  split
  · exact (parseBfh01_sameOk ..).bind fun _ => .refl _
  · exact (parseBks24_sameOk ..).bind fun _ => .refl _
  · exact (parseBks39_sameOk ..).bind fun _ => .refl _
  · exact (parseBks45_sameOk ..).bind fun _ => .refl _
  · exact (parseMemo_sameOk ..).bind fun _ => .refl _
  · exact (parseMemo_sameOk ..).bind fun _ => .refl _
  · exact (parseBft99_sameOk ..).bind fun _ => .refl _
  · exact .refl _

/-- A line of the right width reads as the item. -/
def Reads (line : List Char) (item : Item) : Prop :=
  line.length=lineLength ∧ readRecord line 0=.ok item

/-- One more item, if the header and the trailer do not come twice. -/
def Collected.add (st : Collected) : Item → Option Collected
  | .header h => if st.header.isSome then none else some {st with header := some h}
  | .transaction r => some (st.push r)
  | .trailer t => if st.trailer.isSome then none else some {st with trailer := some t}
  | .unrecognised => some st

/-- The lines that carry a record. -/
def recordLines (raws : List (List Char)) : List (List Char) :=
  (raws.map stripCr).filter fun line => decide (line≠[])

variable {n : Nat}

theorem requireLineLength_ok {line : List Char} {u : Unit} :
    requireLineLength line n=.ok u ↔ line.length=lineLength := by
  unfold requireLineLength
  split
  · rename_i h
    exact iff_of_true rfl h
  · rename_i h
    exact iff_of_false (fun h => by cases h) h

variable {f : α → Item} {st st' : Collected} {x : Parsed α}

/-- Reading a record and adding it is reading an item and adding that. -/
theorem added_iff {g : α → Collected} (h : ∀ a,Collected.add st (f a)=some (g a)) :
    (x >>= fun a => pure (g a))=.ok st' ↔
      ∃ item,(x >>= fun a => pure (f a))=.ok item ∧ Collected.add st item=some st' := by
  rw [bind_pure_ok]
  constructor
  · rintro ⟨a,ha,rfl⟩
    exact ⟨f a,bind_pure_ok.mpr ⟨a,ha,rfl⟩,h a⟩
  · rintro ⟨item,hitem,hadd⟩
    obtain ⟨a,ha,rfl⟩ := bind_pure_ok.mp hitem
    exact ⟨a,ha,Option.some.inj ((h a).symm.trans hadd)⟩

/-- An item that cannot be added is refused. -/
theorem not_added (h : ∀ a,Collected.add st (f a)=none) :
    ¬∃ item,(x >>= fun a => pure (f a))=.ok item ∧ Collected.add st item=some st' := by
  rintro ⟨item,hitem,hadd⟩
  obtain ⟨a,-,rfl⟩ := bind_pure_ok.mp hitem
  cases (h a).symm.trans hadd

/-- A line is taken if it is blank or reads as an item that can be added. -/
theorem takeLine_ok {raw : List Char} :
    takeLine st n raw=.ok st' ↔ (stripCr raw=[] ∧ st'=st) ∨
      (stripCr raw≠[] ∧ ∃ item,Reads (stripCr raw) item ∧ Collected.add st item=some st') := by
  unfold takeLine
  dsimp only
  generalize stripCr raw=line
  split
  · rename_i hblank
    rw [Except.ok.injEq]
    exact ⟨fun h => .inl ⟨hblank,h.symm⟩,fun h => h.elim (fun h => h.2.symm) fun h => absurd hblank h.1⟩
  · rename_i hline
    rw [or_iff_right fun h => hline h.1,and_iff_right hline,bind_ok]
    have hrest : ∀ P : Prop,(∃ u,requireLineLength line n=.ok u ∧ P) ↔ line.length=lineLength ∧ P :=
      fun P => ⟨fun ⟨u,hu,h⟩ => ⟨requireLineLength_ok.mp hu,h⟩,
        fun ⟨hu,h⟩ => ⟨(),requireLineLength_ok.mpr hu,h⟩⟩
    rw [hrest]
    simp only [Reads,and_assoc,exists_and_left]
    refine and_congr_right fun _ => ?_
    simp only [fun item => (readRecord_sameOk line 0 n).ok_iff item]
    unfold readRecord
    cases recordCode line with
    | none => simp [Collected.add,pure,Except.pure]
    | some code =>
      cases code with
      | bfh01 | bft99 =>
        dsimp only
        split
        · rename_i hdup
          exact iff_of_false (fun h => by cases h) (not_added fun _ => if_pos hdup)
        · rename_i hfirst
          exact added_iff fun _ => if_neg hfirst
      | bks24 | bks39 | bks45 | bks46 | bks47 => exact added_iff fun _ => rfl

/-! ## Files -/

theorem recordLines_cons (raw : List Char) (raws : List (List Char)) :
    recordLines (raw::raws)=
      if stripCr raw=[] then recordLines raws else stripCr raw::recordLines raws := by
  unfold recordLines
  rw [List.map_cons,List.filter_cons]
  split
  · rename_i h
    rw [if_neg (of_decide_eq_true h)]
  · rename_i h
    rw [if_pos (by simpa using h)]

/-- The loop takes the lines if the record lines read as items that can be
added one after the other. -/
theorem takeLines_ok {raws : List (List Char)} :
    takeLines st n raws=.ok st' ↔
      ∃ items,List.Forall₂ Reads (recordLines raws) items ∧ items.foldlM Collected.add st=some st' := by
  induction raws generalizing st n with
  | nil =>
    rw [takeLines,Except.ok.injEq]
    constructor
    · rintro rfl
      exact ⟨[],.nil,rfl⟩
    · rintro ⟨items,hreads,hadd⟩
      cases hreads
      exact Option.some.inj hadd
  | cons raw raws ih =>
    rw [takeLines,bind_ok,recordLines_cons]
    simp only [ih]
    split
    · rename_i hblank
      constructor
      · rintro ⟨st1,htake,h⟩
        obtain ⟨-,rfl⟩|⟨hline,-⟩ := takeLine_ok.mp htake
        · exact h
        · exact absurd hblank hline
      · intro h
        exact ⟨st,takeLine_ok.mpr (.inl ⟨hblank,rfl⟩),h⟩
    · rename_i hline
      constructor
      · rintro ⟨st1,htake,items,hreads,hadds⟩
        obtain ⟨hblank,-⟩|⟨-,item,hread,hadd⟩ := takeLine_ok.mp htake
        · exact absurd hblank hline
        · refine ⟨item::items,.cons hread hreads,?_⟩
          rw [List.foldlM_cons,hadd]
          exact hadds
      · rintro ⟨items,hreads,hadds⟩
        cases hreads with
        | cons hread hreads =>
          rw [List.foldlM_cons] at hadds
          obtain ⟨st1,hadd,hadds⟩ := Option.bind_eq_some_iff.mp hadds
          exact ⟨st1,takeLine_ok.mpr (.inr ⟨hline,_,hread,hadd⟩),_,hreads,hadds⟩

variable {o o' : Option α}

theorem toList_inj : o.toList=o'.toList ↔ o=o' := by
  constructor
  · intro h
    cases o' with
    | none => exact Option.toList_eq_nil_iff.mp h
    | some a => exact Option.toList_eq_singleton_iff.mp h
  · rintro rfl
    rfl

/-- An option does not list an element twice. -/
theorem toList_ne_cons_append {a : α} {as : List α} (h : o'.isSome=true) :
    o.toList≠o'.toList++a::as := by
  obtain ⟨b,rfl⟩ := Option.isSome_iff_exists.mp h
  intro h
  cases o with
  | none => cases h
  | some c => cases h

/-- What adding items collects: at most one header and one trailer, and every
transaction in order. -/
theorem addAll_iff {items : List Item} :
    items.foldlM Collected.add st=some st' ↔
      st'.header.toList=st.header.toList++items.filterMap Item.header? ∧
      st'.trailer.toList=st.trailer.toList++items.filterMap Item.trailer? ∧
      st'.transactions=st.transactions++items.filterMap Item.transaction? := by
  induction items generalizing st with
  | nil =>
    obtain ⟨header,transactions,trailer⟩ := st
    obtain ⟨header',transactions',trailer'⟩ := st'
    simp only [List.foldlM_nil,List.filterMap_nil,List.append_nil,Option.pure_def,Option.some.injEq,
      Collected.mk.injEq,toList_inj]
    constructor
    · rintro ⟨rfl,rfl,rfl⟩
      exact ⟨rfl,rfl,rfl⟩
    · rintro ⟨rfl,rfl,rfl⟩
      exact ⟨rfl,rfl,rfl⟩
  | cons item items ih =>
    rw [List.foldlM_cons,Option.bind_eq_bind,Option.bind_eq_some_iff]
    simp only [ih]
    cases item with
    | header h =>
      by_cases hdup : st.header.isSome=true
      · refine iff_of_false ?_ fun h => toList_ne_cons_append hdup h.1
        rintro ⟨st1,hadd,-⟩
        cases (if_pos hdup).symm.trans hadd
      · have hadd : Collected.add st (.header h)=some {st with header := some h} := if_neg hdup
        have hnone : st.header=none := Option.not_isSome_iff_eq_none.mp hdup
        simp [hadd,hnone,List.filterMap_cons,Item.header?,Item.trailer?,Item.transaction?]
    | transaction r => simp [Collected.add,Collected.push,List.filterMap_cons,Item.header?,Item.trailer?,Item.transaction?]
    | trailer t =>
      by_cases hdup : st.trailer.isSome=true
      · refine iff_of_false ?_ fun h => toList_ne_cons_append hdup h.2.1
        rintro ⟨st1,hadd,-⟩
        cases (if_pos hdup).symm.trans hadd
      · have hadd : Collected.add st (.trailer t)=some {st with trailer := some t} := if_neg hdup
        have hnone : st.trailer=none := Option.not_isSome_iff_eq_none.mp hdup
        simp [hadd,hnone,List.filterMap_cons,Item.header?,Item.trailer?,Item.transaction?]
    | unrecognised => simp [Collected.add,List.filterMap_cons,Item.header?,Item.trailer?,Item.transaction?]

/-- The parser accepts exactly the files in UTF-8 whose record lines all read,
one as a header and one as a trailer, and answers what they read as. -/
theorem parseHaf_ok {content : ByteArray} {sourceRef : String} {haf : HAFFile} :
    parseHaf content sourceRef=.ok haf ↔
      ∃ raws items,linesOf content=some raws ∧ List.Forall₂ Reads (recordLines raws) items ∧
        items.filterMap Item.header?=[haf.header] ∧ items.filterMap Item.trailer?=[haf.trailer] ∧
        items.filterMap Item.transaction?=haf.transactions ∧ haf.sourceRef=sourceRef := by
  unfold parseHaf
  cases linesOf content with
  | none => exact ⟨fun h => (by cases h),fun ⟨_,_,h,_⟩ => (by cases h)⟩
  | some raws =>
    dsimp only
    rw [bind_ok]
    constructor
    · rintro ⟨st,hst,h⟩
      obtain ⟨items,hreads,hadds⟩ := takeLines_ok.mp hst
      obtain ⟨hheader,htrailer,htransactions⟩ := addAll_iff.mp hadds
      refine ⟨raws,items,rfl,hreads,?_⟩
      split at h
      · cases h
      · cases h
      · rename_i header trailer hh ht
        cases h
        rw [hh] at hheader
        rw [ht] at htrailer
        exact ⟨hheader.symm,htrailer.symm,htransactions.symm,rfl⟩
    · rintro ⟨_,items,hraws,hreads,hheader,htrailer,htransactions,rfl⟩
      cases hraws
      refine ⟨⟨some haf.header,haf.transactions,some haf.trailer⟩,takeLines_ok.mpr ⟨items,hreads,?_⟩,rfl⟩
      exact addAll_iff.mpr ⟨hheader.symm,htrailer.symm,htransactions.symm⟩

end Voyagent.HafAcceptance
