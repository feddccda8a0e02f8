import Mathlib.Algebra.GroupWithZero.Nat
import Voyagent.PythonNumbers

/-!
# Lines of fixed columns

A column is a text of a known width; a line is its columns one after the
other. Cutting a line at the offset of a column gives the column back, and
padding is what trimming removes.
-/

namespace Voyagent.FixedColumns

open TrimmedText RuntimeValues PythonNumbers

/-- A text of a fixed width. -/
structure Column where
  width : Nat
  text : List Char
  fits : text.length=width

def lineOf (cols : List Column) : List Char := cols.flatMap Column.text

/-- Where a column begins. -/
def offset (cols : List Column) (i : Nat) : Nat := ((cols.take i).map Column.width).sum

theorem lineOf_length (cols : List Column) : (lineOf cols).length=(cols.map Column.width).sum := by
  induction cols with
  | nil => rfl
  | cons c cols ih =>
    have hcons : lineOf (c::cols)=c.text++lineOf cols := rfl
    rw [hcons,List.length_append,ih,c.fits,List.map_cons,List.sum_cons]

variable {c : Column} {cols : List Column} {i : Nat}

/-- A line is what stands before a column, the column and the rest. -/
theorem lineOf_split (h : cols[i]?=some c) :
    lineOf cols=lineOf (cols.take i)++(c.text++lineOf (cols.drop (i+1))) := by
  obtain ⟨hi,rfl⟩ := List.getElem?_eq_some_iff.mp h
  have hdrop : cols.drop i=cols[i]::cols.drop (i+1) := List.drop_eq_getElem_cons hi
  have hcols : cols=cols.take i++cols.drop i := (List.take_append_drop i cols).symm
  conv_lhs => rw [hcols,hdrop]
  exact List.flatMap_append

/-- The columns of a line are within it. -/
theorem offset_add_width_le (h : cols[i]?=some c) : offset cols i+c.width≤(lineOf cols).length := by
  have hlen := congrArg List.length (lineOf_split h)
  rw [List.length_append,List.length_append,lineOf_length (cols.take i),c.fits] at hlen
  rw [offset]
  omega

theorem offset_succ (h : cols[i]?=some c) : offset cols (i+1)=offset cols i+c.width := by
  rw [offset,List.take_add_one,h,List.map_append,List.sum_append]
  simp [offset]

/-- The widths fix where each column begins. -/
theorem offset_of_widths {widths : List Nat} {start : Nat} (h : cols.map Column.width=widths)
    (hs : (widths.take i).sum=start) : offset cols i=start := by
  rw [offset,List.map_take,h,hs]

/-- Cutting a line at the offset of a column gives the column. -/
theorem take_drop_lineOf (h : cols[i]?=some c) :
    ((lineOf cols).drop (offset cols i)).take c.width=c.text := by
  have hlen : offset cols i=(lineOf (cols.take i)).length := (lineOf_length _).symm
  rw [lineOf_split h,hlen,List.drop_left,← c.fits,List.take_left]

theorem mem_lineOf {x : Char} : x∈lineOf cols ↔ ∃ c∈cols,x∈c.text := List.mem_flatMap

/-- A line ends as its last column does. -/
theorem lineOf_getLast? (hc : c.text≠[]) : (lineOf (cols++[c])).getLast?=c.text.getLast? := by
  have hline : lineOf (cols++[c])=lineOf cols++c.text := by
    rw [lineOf,List.flatMap_append,List.flatMap_singleton]
    rfl
  rw [hline,List.getLast?_append_of_ne_nil _ hc]

/-! ## Padding -/

/-- A text padded with blanks on the right. -/
def padded (width : Nat) (cs : List Char) : Column where
  width := width
  text := (cs.rightpad width ' ').take width
  fits := by
    rw [List.length_take,List.length_rightpad]
    exact Nat.min_eq_left (Nat.le_max_left _ _)

variable {cs : List Char} {width : Nat}

theorem padded_text (h : cs.length≤width) :
    (padded width cs).text=cs++List.replicate (width-cs.length) ' ' := by
  have hlen : (cs.rightpad width ' ').length=width := by
    rw [List.length_rightpad,Nat.max_eq_left h]
  exact List.take_of_length_le (Nat.le_of_eq hlen)

/-! ## Digits -/

/-- The last digits of a number, zeros first. -/
def zeroPadded : Nat → Nat → List Char
  | 0,_ => []
  | width+1,n => zeroPadded width (n/10)++[Nat.digitChar (n%10)]

theorem zeroPadded_length (width n : Nat) : (zeroPadded width n).length=width := by
  induction width generalizing n with
  | zero => rfl
  | succ width ih => rw [zeroPadded,List.length_append,ih,List.length_singleton]

/-- The digit characters are digits, and neither blanks nor underscores. -/
theorem digitChar_lt {d : Nat} (h : d<10) :
    decimalValue (Nat.digitChar d)=some d ∧ isDigitChar (Nat.digitChar d)=true ∧
      isPySpace (Nat.digitChar d)=false ∧ Nat.digitChar d≠ '_' ∧ Nat.digitChar d≠ '\n' ∧
      Nat.digitChar d≠ '\r' := by
  revert d
  decide

variable {n : Nat}

theorem mem_zeroPadded {c : Char} (h : c∈zeroPadded width n) : ∃ d,d<10 ∧ c=Nat.digitChar d := by
  induction width generalizing n with
  | zero => cases h
  | succ width ih =>
    rcases List.mem_append.mp h with h|h
    · exact ih h
    · exact ⟨n%10,Nat.mod_lt n (by decide),List.mem_singleton.mp h⟩

/-- Reading digits shifts what was read before them. -/
theorem readDigits_zeroPadded (width n acc : Nat) (opened : Bool) (cs : List Char)
    (h : n<10^width) :
    readDigits acc opened (zeroPadded width n++cs)=
      readDigits (acc*10^width+n) (opened || decide (0<width)) cs := by
  induction width generalizing n cs with
  | zero =>
    have hn : n=0 := by simpa using h
    subst hn
    simp [zeroPadded]
  | succ width ih =>
    have hdigit := digitChar_lt (Nat.mod_lt n (by decide : 0<10))
    have hquot : n/10<10^width := by
      rw [Nat.pow_succ] at h
      omega
    have hsplit : zeroPadded (width+1) n++cs=
        zeroPadded width (n/10)++(Nat.digitChar (n%10)::cs) := by
      rw [zeroPadded,List.append_assoc]
      rfl
    have hnot : (Nat.digitChar (n%10) == '_')=false := beq_false_of_ne hdigit.2.2.2.1
    have hvalue : 10*(acc*10^width+n/10)+n%10=acc*10^(width+1)+n := by
      rw [Nat.pow_succ,← Nat.mul_assoc]
      omega
    rw [hsplit,ih (n/10) (Nat.digitChar (n%10)::cs) hquot,readDigits,hnot,Bool.and_false,
      if_neg Bool.false_ne_true,hdigit.1,Option.bind_some,hvalue]
    simp

/-- Zero-padded digits read as the number. -/
theorem natOfDigits_zeroPadded (hpos : 0<width) (hmax : width≤ maxStrDigits) (h : n<10^width) :
    natOfDigits (zeroPadded width n)=some n := by
  have hfilter : ((zeroPadded width n).filter (· != '_')).length≤ maxStrDigits :=
    Nat.le_trans (List.length_filter_le _ _) ((zeroPadded_length width n).symm ▸ hmax)
  have hread := readDigits_zeroPadded width n 0 false [] h
  rw [List.append_nil,Nat.zero_mul,Nat.zero_add,decide_eq_true hpos] at hread
  rw [natOfDigits,if_pos hfilter,hread]
  rfl

/-- Zero-padded digits are digits. -/
theorem isDigits_zeroPadded (hpos : 0<width) : isDigits (zeroPadded width n)=true := by
  have hne : zeroPadded width n≠[] := by
    intro h
    have hlen := zeroPadded_length width n
    rw [h] at hlen
    exact Nat.ne_of_lt hpos hlen
  have hall : (zeroPadded width n).all isDigitChar=true := by
    refine List.all_eq_true.mpr fun c hc => ?_
    obtain ⟨d,hd,rfl⟩ := mem_zeroPadded hc
    exact (digitChar_lt hd).2.1
  rw [isDigits,hall,Bool.and_true,Bool.not_eq_true',List.isEmpty_eq_false_iff]
  exact hne

/-- `int` of digits is their value. -/
theorem intOfText_digits (hdigits : ∀ c∈cs,∃ d,d<10 ∧ c=Nat.digitChar d) (h : natOfDigits cs=some n) :
    intOfText (String.ofList cs)=some (n : Int) := by
  have hblank : ∀ d,d<10 → isWhiteSpace (Nat.digitChar d)=false ∧ Nat.digitChar d≠ '-' ∧
      Nat.digitChar d≠ '+' := by decide
  have htrim : trimList isWhiteSpace (String.ofList cs).toList=cs := by
    rw [String.toList_ofList]
    refine trimList_eq_self_iff.mpr fun c hc => ?_
    have hmem : c∈cs := hc.elim List.mem_of_mem_head? List.mem_of_mem_getLast?
    obtain ⟨d,hd,rfl⟩ := hdigits c hmem
    exact (hblank d hd).1
  unfold intOfText
  rw [htrim]
  split
  · obtain ⟨d,hd,he⟩ := hdigits _ List.mem_cons_self
    exact absurd he.symm (hblank d hd).2.1
  · obtain ⟨d,hd,he⟩ := hdigits _ List.mem_cons_self
    exact absurd he.symm (hblank d hd).2.2
  · rw [h]
    rfl

variable {p : Char → Bool}

/-- Trimming leaves texts without blanks. -/
theorem trimList_of_forall_not (h : ∀ c∈cs,p c=false) : trimList p cs=cs := by
  refine trimList_eq_self_iff.mpr fun c hc => ?_
  rcases hc with hc|hc
  · exact h c (List.mem_of_mem_head? hc)
  · exact h c (List.mem_of_mem_getLast? hc)

theorem trimList_zeroPadded (width n : Nat) :
    trimList isPySpace (zeroPadded width n)=zeroPadded width n := by
  refine trimList_of_forall_not fun c hc => ?_
  obtain ⟨d,hd,rfl⟩ := mem_zeroPadded hc
  exact (digitChar_lt hd).2.2.1

/-! ## Trimming the padding -/

/-- Blanks behind a text do not survive trimming at its end. -/
theorem rdropWhile_append_replicate {c : Char} (hp : p c=true) (cs : List Char) (k : Nat) :
    (cs++List.replicate k c).rdropWhile p=cs.rdropWhile p := by
  induction k with
  | zero => rw [List.replicate_zero,List.append_nil]
  | succ k ih =>
    rw [List.replicate_succ',← List.append_assoc,List.rdropWhile_concat_pos p _ _ hp]
    exact ih

theorem trimList_append_replicate {c : Char} (hp : p c=true) (cs : List Char) (k : Nat) :
    trimList p (cs++List.replicate k c)=trimList p cs := by
  unfold trimList
  rw [List.dropWhile_append]
  split
  · rename_i hall
    rw [List.isEmpty_iff.mp hall]
    have hpad : (List.replicate k c).dropWhile p=[] :=
      List.dropWhile_eq_nil_iff.mpr fun x hx => (List.eq_of_mem_replicate hx).symm ▸ hp
    rw [hpad]
  · exact rdropWhile_append_replicate hp _ k

/-- Trimming a padded text gives the text back. -/
theorem trimList_padded (h : cs.length≤width) (hbare : trimList isPySpace cs=cs) :
    trimList isPySpace (padded width cs).text=cs := by
  rw [padded_text h,trimList_append_replicate (by decide),hbare]

theorem rdropWhile_padded (h : cs.length≤width) (hbare : trimList isPySpace cs=cs) :
    (padded width cs).text.rdropWhile isPySpace=cs := by
  rw [padded_text h,rdropWhile_append_replicate (by decide)]
  refine List.rdropWhile_eq_self_iff.mpr fun hne => ?_
  have hlast := trimList_eq_self_iff.mp hbare (cs.getLast hne)
    (.inr (List.getLast?_eq_some_getLast hne))
  exact Bool.eq_false_iff.mp hlast

/-- A padded text ends with padding, or with the end of a text without blanks there. -/
theorem padded_getLast? (h : cs.length≤width) (hbare : trimList isPySpace cs=cs) {c : Char}
    (hc : (padded width cs).text.getLast?=some c) : c = ' ' ∨ isPySpace c=false := by
  rw [padded_text h] at hc
  cases hk : width-cs.length with
  | zero =>
    rw [hk,List.replicate_zero,List.append_nil] at hc
    exact .inr (trimList_eq_self_iff.mp hbare c (.inr hc))
  | succ k =>
    rw [hk,List.replicate_succ',← List.append_assoc,List.getLast?_concat] at hc
    exact .inl (Option.some.inj hc).symm

/-- What a padded text consists of. -/
theorem mem_padded {c : Char} (h : c∈(padded width cs).text) : c∈cs ∨ c = ' ' := by
  have hmem : c∈cs.rightpad width ' ' := List.mem_of_mem_take h
  rcases List.mem_append.mp hmem with hcs|hpad
  · exact .inl hcs
  · exact .inr (List.eq_of_mem_replicate hpad)

end Voyagent.FixedColumns
