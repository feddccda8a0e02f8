import Mathlib.Data.List.Basic

/-!
# Rows of comma-separated text

Fields are quoted only where they must be, a quote is doubled inside quotes
and a row ends with a carriage return and a line feed. The reader takes the
text line by line and keeps a quoted field open over their ends. Nothing here
names a particular program.
-/

namespace Voyagent.CsvRows

/-! ## Writing -/

/-- A character that has a field quoted. -/
def needsQuotes (c : Char) : Bool := [',','"','\n','\r'].contains c

def doubleQuotes (field : List Char) : List Char :=
  field.flatMap fun c => if c= '"' then ['"','"'] else [c]

def quoted (field : List Char) : List Char := '"'::(doubleQuotes field++['"'])

/-- A field as the writer shows it among others. -/
def writeField (field : List Char) : List Char :=
  if field.any needsQuotes=true then quoted field else field

/-- The fields behind the first one. -/
def writeTail (fields : List (List Char)) : List Char := fields.flatMap fun f => ','::writeField f

/-- `csv.writer.writerow` of the default dialect; an empty field alone is quoted. -/
def writeRow : List (List Char) → List Char
  | [] => ['\r','\n']
  | [[]] => ['"','"','\r','\n']
  | f::fs => writeField f++writeTail fs++['\r','\n']

/-! ## Reading -/

inductive ReadState where
  | startRecord | startField | inField | inQuotedField | quoteInQuotedField | eatCrnl
  deriving DecidableEq

/-- The reader between two characters: the field and the row so far, the rows done. -/
structure Reader where
  state : ReadState := .startRecord
  field : List Char := []
  row : List (List Char) := []
  rows : List (List (List Char)) := []
  deriving DecidableEq

/-- `parse_save_field`. -/
def Reader.saveField (r : Reader) (next : ReadState) : Reader :=
  {r with state := next, field := [], row := r.row++[r.field]}

/-- `parse_add_char`. -/
def Reader.addChar (r : Reader) (c : Char) (next : ReadState) : Reader :=
  {r with state := next, field := r.field++[c]}

/-- The first character of a field. -/
def Reader.startField (r : Reader) (c : Char) : Reader :=
  if c= '\n' ∨ c= '\r' then r.saveField .eatCrnl
  else if c= '"' then {r with state := .inQuotedField}
  else if c= ',' then r.saveField .startField
  else r.addChar c .inField

/-- `parse_process_char`; a character behind a bare carriage return is an error. -/
def Reader.feed (r : Reader) (c : Char) : Option Reader :=
  match r.state with
  | .startRecord => some (if c= '\n' ∨ c= '\r' then {r with state := .eatCrnl} else r.startField c)
  | .startField => some (r.startField c)
  | .inField => some (
      if c= '\n' ∨ c= '\r' then r.saveField .eatCrnl
      else if c= ',' then r.saveField .startField
      else r.addChar c .inField)
  | .inQuotedField => some (
      if c= '"' then {r with state := .quoteInQuotedField} else r.addChar c .inQuotedField)
  | .quoteInQuotedField => some (
      if c= '"' then r.addChar c .inQuotedField
      else if c= ',' then r.saveField .startField
      else if c= '\n' ∨ c= '\r' then r.saveField .eatCrnl
      else r.addChar c .inField)
  | .eatCrnl => if c= '\n' ∨ c= '\r' then some r else none

/-- The row read is done. -/
def Reader.finishRow (r : Reader) : Reader := {rows := r.rows++[r.row]}

/-- The end of a line, which a quoted field goes over. -/
def Reader.endLine (r : Reader) : Reader :=
  match r.state with
  | .startRecord | .eatCrnl => r.finishRow
  | .startField | .inField | .quoteInQuotedField => (r.saveField .startRecord).finishRow
  | .inQuotedField => r

/-- The characters of the text, each line ended behind its line feed. -/
def Reader.consume (r : Reader) : List Char → Option Reader
  | [] => some r
  | c::cs => (r.feed c).bind fun r' => (if c= '\n' then r'.endLine else r').consume cs

/-- The rows of a text, a last line without a line feed and a field left open included. -/
def readRows (text : List Char) : Option (List (List (List Char))) :=
  (({} : Reader).consume text).map fun r =>
    match r.state with
    | .startRecord => r.rows
    | .inQuotedField => ((r.saveField .startRecord).finishRow).rows
    | _ => r.endLine.rows

/-! ## Reading back what was written -/

variable {r : Reader} {c : Char} {f : List Char}

/-- A character that ends no line goes to the machine alone. -/
theorem consume_cons (hc : c≠ '\n') {r' : Reader} (hfeed : r.feed c=some r') (cs : List Char) :
    r.consume (c::cs)=r'.consume cs := by
  simp only [Reader.consume,hfeed,Option.bind_some,if_neg hc]

theorem needsQuotes_false (h : needsQuotes c=false) : c≠ ',' ∧ c≠ '"' ∧ c≠ '\n' ∧ c≠ '\r' := by
  simpa [needsQuotes] using h

theorem consume_plain (hstate : r.state=.inField) (hf : ∀ c∈f,needsQuotes c=false) (cs : List Char) :
    r.consume (f++cs)=({r with field := r.field++f} : Reader).consume cs := by
  induction f generalizing r with
  | nil => rw [List.append_nil]; rfl
  | cons c f ih =>
    obtain ⟨hcomma,-,hnl,hcr⟩ := needsQuotes_false (hf c List.mem_cons_self)
    have hfeed : r.feed c=some (r.addChar c .inField) := by
      unfold Reader.feed
      rw [hstate]
      simp only [hcomma,hnl,hcr,or_self,if_false]
    rw [List.cons_append,consume_cons hnl hfeed,
      ih rfl fun d hd => hf d (List.mem_cons_of_mem _ hd)]
    simp [Reader.addChar,hstate]

theorem consume_doubled (hstate : r.state=.inQuotedField) (cs : List Char) :
    r.consume (doubleQuotes f++cs)=({r with field := r.field++f} : Reader).consume cs := by
  induction f generalizing r with
  | nil => rw [List.append_nil]; rfl
  | cons c f ih =>
    have hadd : (r.addChar c .inQuotedField).consume (doubleQuotes f++cs)=
        ({r with field := r.field++c::f} : Reader).consume cs := by
      rw [ih rfl]
      simp [Reader.addChar,hstate]
    rw [← hadd]
    unfold doubleQuotes
    rw [List.flatMap_cons,List.append_assoc]
    by_cases hc : c= '"'
    · -- the first of the two quotes is taken back by the second
      subst hc
      have hopen : r.feed '"'=some {r with state := .quoteInQuotedField} := by
        unfold Reader.feed
        rw [hstate]
        rfl
      rw [if_pos rfl,List.cons_append,consume_cons (by decide) hopen,List.cons_append,
        consume_cons (by decide) rfl]
      rfl
    · have hfeed : r.feed c=some (r.addChar c .inQuotedField) := by
        unfold Reader.feed
        rw [hstate]
        simp only [hc,if_false]
      rw [if_neg hc,List.cons_append,List.nil_append]
      by_cases hnl : c= '\n'
      · -- the end of a line leaves a quoted field open
        simp only [Reader.consume,hfeed,Option.bind_some,if_pos hnl]
        rfl
      · rw [consume_cons hnl hfeed]

/-- The state behind the end of a field. -/
def afterField (e : Char) : ReadState := if e= ',' then .startField else .eatCrnl

/-- A field that is open ends with a comma or the end of its row. -/
theorem feed_end {e : Char} (he : e= ',' ∨ e= '\r')
    (hstate : r.state=.startField ∨ r.state=.inField ∨ r.state=.quoteInQuotedField) :
    r.feed e=some (r.saveField (afterField e)) := by
  unfold Reader.feed Reader.startField afterField
  rcases he with rfl|rfl <;> rcases hstate with h|h|h <;> rw [h] <;> rfl

/-- A written field is read back, whatever it holds. -/
theorem consume_writeField {e : Char} (he : e= ',' ∨ e= '\r') (hstate : r.state=.startField)
    (hfield : r.field=[]) (cs : List Char) : r.consume (writeField f++e::cs)=
      ({r with state := afterField e, row := r.row++[f]} : Reader).consume cs := by
  have hnl : e≠ '\n' := by rcases he with rfl|rfl <;> decide
  unfold writeField
  split
  · have hopen : r.feed '"'=some {r with state := .inQuotedField} := by
      unfold Reader.feed
      rw [hstate]
      rfl
    unfold quoted
    rw [List.cons_append,consume_cons (by decide) hopen,List.append_assoc,consume_doubled rfl,
      List.cons_append,List.nil_append,consume_cons (by decide) rfl,
      consume_cons hnl (feed_end he (.inr (.inr rfl)))]
    simp [Reader.saveField,hfield]
  · rename_i hplain
    rw [List.any_eq_true,not_exists] at hplain
    have hplain : ∀ c∈f,needsQuotes c=false := fun c hc =>
      Bool.eq_false_iff.mpr fun h => hplain c ⟨hc,h⟩
    cases f with
    | nil =>
      rw [List.nil_append,consume_cons hnl (feed_end he (.inl hstate))]
      simp [Reader.saveField,hfield]
    | cons c f =>
      obtain ⟨hcomma,hquote,hnl',hcr⟩ := needsQuotes_false (hplain c List.mem_cons_self)
      have hfeed : r.feed c=some (r.addChar c .inField) := by
        unfold Reader.feed Reader.startField
        rw [hstate]
        simp only [hcomma,hquote,hnl',hcr,or_self,if_false]
      rw [List.cons_append,consume_cons hnl' hfeed,
        consume_plain rfl fun d hd => hplain d (List.mem_cons_of_mem _ hd),
        consume_cons hnl (feed_end he (.inr (.inl rfl)))]
      simp [Reader.saveField,Reader.addChar,hfield]

/-- The rest of a row, from the start of one of its fields. -/
theorem consume_fields (hstate : r.state=.startField) (hfield : r.field=[])
    (fs : List (List Char)) (cs : List Char) :
    r.consume (writeField f++(writeTail fs++('\r':: '\n'::cs)))=
      ({rows := r.rows++[r.row++f::fs]} : Reader).consume cs := by
  induction fs generalizing r f with
  | nil =>
    unfold writeTail
    rw [List.flatMap_nil,List.nil_append,consume_writeField (.inr rfl) hstate hfield]
    rfl
  | cons g fs ih =>
    have htail : writeTail (g::fs)++ '\r':: '\n'::cs=
        ','::(writeField g++(writeTail fs++ '\r':: '\n'::cs)) := by
      unfold writeTail
      rw [List.flatMap_cons,List.append_assoc]
      rfl
    rw [htail,consume_writeField (.inl rfl) hstate hfield,
      ih (r:={r with state := afterField ',', row := r.row++[f]}) rfl hfield]
    simp

/-- A record starts like any field, unless its line is empty. -/
theorem consume_startRecord (hstate : r.state=.startRecord) (hc : c≠ '\n') (hc' : c≠ '\r')
    (cs : List Char) : r.consume (c::cs)=({r with state := .startField} : Reader).consume (c::cs) := by
  have hfeed : r.feed c=({r with state := .startField} : Reader).feed c := by
    unfold Reader.feed
    rw [hstate]
    simp only [hc,hc',or_self,if_false]
    unfold Reader.startField
    simp only [hc,hc',or_self,if_false]
    rfl
  simp only [Reader.consume,hfeed]

/-- The first character of a row that is not a lone empty field. -/
theorem writeField_cons (f : List Char) (fs : List (List Char)) (hne : f≠[] ∨ fs≠[]) (cs : List Char) :
    ∃ c cs',writeField f++(writeTail fs++cs)=c::cs' ∧ c≠ '\n' ∧ c≠ '\r' := by
  unfold writeField
  split
  · exact ⟨'"',_,rfl,by decide,by decide⟩
  · rename_i hplain
    cases f with
    | nil =>
      cases fs with
      | nil => exact absurd hne (by simp)
      | cons g fs => exact ⟨',',_,rfl,by decide,by decide⟩
    | cons c f =>
      have hc : needsQuotes c=false := by
        rw [List.any_cons,Bool.or_eq_true,not_or] at hplain
        exact Bool.eq_false_iff.mpr hplain.1
      exact ⟨c,_,rfl,(needsQuotes_false hc).2.2⟩

theorem consume_writeRow (rows : List (List (List Char))) (row : List (List Char)) (cs : List Char) :
    ({rows := rows} : Reader).consume (writeRow row++cs)=
      ({rows := rows++[row]} : Reader).consume cs := by
  unfold writeRow
  split
  · rfl
  · rfl
  · rename_i f fs hlone
    have hne : f≠[] ∨ fs≠[] := by
      by_contra hboth
      rw [not_or,not_not,not_not] at hboth
      exact hlone (by rw [hboth.1]) hboth.2
    have htext : writeField f++writeTail fs++['\r','\n']++cs=
        writeField f++(writeTail fs++ '\r':: '\n'::cs) := by
      rw [List.append_assoc,List.append_assoc]
      rfl
    obtain ⟨c,cs',hcons,hnl,hcr⟩ := writeField_cons f fs hne ('\r':: '\n'::cs)
    rw [htext,hcons,consume_startRecord rfl hnl hcr,← hcons,consume_fields rfl rfl]
    rfl

theorem consume_writeRows (done rows : List (List (List Char))) :
    ({rows := done} : Reader).consume (rows.flatMap writeRow)=some {rows := done++rows} := by
  induction rows generalizing done with
  | nil => rw [List.append_nil]; rfl
  | cons row rows ih =>
    rw [List.flatMap_cons,consume_writeRow,ih,List.append_assoc]
    rfl

/-- Written rows are read back field by field. -/
theorem readRows_writeRows (rows : List (List (List Char))) :
    readRows (rows.flatMap writeRow)=some rows := by
  unfold readRows
  rw [consume_writeRows]
  rfl

example : readRows (writeRow ["a,b".toList,[],"c\"d\ne".toList])=
    some [["a,b".toList,[],"c\"d\ne".toList]] := by decide

end Voyagent.CsvRows
