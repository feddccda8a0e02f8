import Voyagent.SseStreams

/-!
# The frames of an event stream that is cut off

The server writes frames: an id line or none, an event line, a data line and
a blank line. Comments stand between them. However the text is cut into
chunks and wherever it ends, the events that are read are those of the first
frames, whole. A frame is among them when its blank line arrived, and not
before its data line did.
-/

namespace Voyagent.SseFrames

open DelimitedFeeds SseStreams
open PassportMrz (CodeUnit units slice)

variable {T E : Type}

/-- A text that fits on a line: no newline in it, and no carriage return that
would be read as part of the line end. -/
structure LineText where
  units : JsString
  no_newline : newline∉units
  no_return : units.getLast?≠some carriageReturn

/-- The end of a line. -/
inductive Ending where
  | lf | crlf
  deriving DecidableEq

/-- What stands between a line and its newline. -/
def Ending.units : Ending → JsString
  | .lf => []
  | .crlf => [carriageReturn]

/-- One event as the server sends it. -/
structure Frame where
  id : Option LineText := none
  event : LineText
  data : LineText

/-- The lines of a frame. -/
inductive FrameLine where
  | id | event | data | blank
  deriving DecidableEq

/-- A line that sets a field. -/
def fieldLine (field : String) (t : LineText) (e : Ending) : JsString :=
  units field++(colon::blank::t.units)++e.units

/-- The lines ahead of the data line. -/
def Frame.head (f : Frame) (e : FrameLine → Ending) : List JsString :=
  (f.id.map fun t => fieldLine "id" t (e .id)).toList++[fieldLine "event" f.event (e .event)]

/-- The lines up to the data line. -/
def Frame.upToData (f : Frame) (e : FrameLine → Ending) : List JsString :=
  f.head e++[fieldLine "data" f.data (e .data)]

/-- What the text of a stream consists of. -/
inductive Part where
  | comment (t : LineText) (e : Ending)
  /-- A blank line of its own, such as ends a block of comments. -/
  | gap (e : Ending)
  | frame (f : Frame) (e : FrameLine → Ending)

def Part.lines : Part → List JsString
  | .comment t e => [colon::t.units++e.units]
  | .gap e => [e.units]
  | .frame f e => f.upToData e++[(e .blank).units]

def Part.frame? : Part → Option Frame
  | .frame f _ => some f
  | _ => none

/-- The text of a stream. -/
def wire (parts : List Part) : JsString := joined newline (parts.flatMap Part.lines)

/-- The frames of a stream, in order. -/
def framesOf (parts : List Part) : List Frame := parts.filterMap Part.frame?

/-- The event of a frame. -/
def Frame.sent (lib : Payloads T) (f : Frame) : SSEEvent T :=
  {event := f.event.units
   data := lib.read f.data.units
   id := f.id.map LineText.units}

/-- What the decoder puts in the place of a character that is cut off. -/
def replacement : CodeUnit := 0xFFFD

/-- The text that arrives of a stream that is cut off after `k` code units,
in the midst of a character or not. -/
def arriving (text : JsString) (k : ℕ) (torn : Bool) : JsString :=
  text.take k++if torn then [replacement] else []

/-! ## Lines -/

theorem stripReturn_ending {s : JsString} (h : s.getLast?≠some carriageReturn) (e : Ending) :
    stripReturn (s++e.units)=s := by
  cases e with
  | lf => rw [Ending.units,List.append_nil,stripReturn,if_neg h]
  | crlf => rw [Ending.units,stripReturn,List.getLast?_concat,if_pos rfl,List.dropLast_concat]

/-- A field and a value in a line. -/
theorem splitField_line {field : JsString} (h : colon∉field) (t : JsString) :
    splitField (field++colon::blank::t)=(field,t) := by
  have hat : (field++colon::blank::t).idxOf? colon=some field.length := by
    refine List.idxOf?_eq_some_iff.mpr ⟨?_,?_,fun j hj => ?_⟩
    · rw [List.length_append,List.length_cons]
      omega
    · rw [List.getElem_append_right le_rfl]
      simp only [Nat.sub_self,List.getElem_cons_zero]
    · rw [List.getElem_append_left hj]
      exact fun heq => h (heq ▸ List.getElem_mem hj)
  have hdrop : (field++colon::blank::t).drop (field.length+1)=blank::t := by
    rw [List.drop_append,List.drop_eq_nil_of_le (Nat.le_succ _),Nat.add_sub_cancel_left]
    rfl
  simp only [splitField,hat,hdrop,slice,List.drop_zero,List.take_left,stripBlank,List.head?_cons,
    List.tail_cons,if_true]

theorem getLast?_field (field : String) (t : LineText) :
    (units field++(colon::blank::t.units)).getLast?≠some carriageReturn := by
  rw [List.getLast?_append_of_ne_nil _ (List.cons_ne_nil _ _),List.getLast?_cons_cons]
  cases ht : t.units with
  | nil => decide
  | cons u rest =>
    rw [List.getLast?_cons_cons,← ht]
    exact t.no_return

variable (lib : Payloads T) (p : Pending) (t : LineText)

theorem getLast?_comment : (colon::t.units).getLast?≠some carriageReturn := by
  cases ht : t.units with
  | nil => decide
  | cons u rest =>
    rw [List.getLast?_cons_cons,← ht]
    exact t.no_return

variable {field : String}

/-- Reading a line that sets a field. -/
theorem readLine_field (hne : units field≠[]) (h : colon∉units field) (t : LineText) (e : Ending) :
    readLine lib p (fieldLine field t e)=(p.setField (units field) t.units,[]) := by
  have hnil : units field++(colon::blank::t.units)≠[] := fun heq =>
    hne (List.append_eq_nil_iff.mp heq).1
  have hhead : (units field++(colon::blank::t.units)).head?≠some colon := by
    rw [List.head?_append_of_ne_nil _ hne]
    exact fun heq => h (List.mem_of_mem_head? heq)
  simp only [readLine,fieldLine,stripReturn_ending (getLast?_field field t),if_neg hnil,
    if_neg hhead,splitField_line h]

theorem readLine_comment (e : Ending) :
    readLine lib p (colon::t.units++e.units)=(p,[]) := by
  simp only [readLine,stripReturn_ending (getLast?_comment t),List.head?_cons,if_true,
    reduceCtorEq,if_false]

theorem readLine_blank (e : Ending) :
    readLine lib p e.units=((flush lib p).1,(flush lib p).2.toList) := by
  have hstrip : stripReturn e.units=[] := stripReturn_ending (s:=[]) (by decide) e
  simp only [readLine,hstrip,if_true]

/-! ## Frames -/

@[simp] theorem setField_id (t : JsString) :
    p.setField (units "id") t={p with eventId := some t} := by
  rw [Pending.setField,if_neg (by decide),if_neg (by decide),if_pos rfl]

@[simp] theorem setField_event (t : JsString) :
    p.setField (units "event") t={p with eventName := t} := by
  rw [Pending.setField,if_pos rfl]

@[simp] theorem setField_data (t : JsString) :
    p.setField (units "data") t={p with dataLines := p.dataLines++[t]} := by
  rw [Pending.setField,if_neg (by decide),if_pos rfl]

theorem readLine_id (e : Ending) :
    readLine lib p (fieldLine "id" t e)=({p with eventId := some t.units},[]) := by
  rw [readLine_field lib p (by decide) (by decide),setField_id]

theorem readLine_event (e : Ending) :
    readLine lib p (fieldLine "event" t e)=({p with eventName := t.units},[]) := by
  rw [readLine_field lib p (by decide) (by decide),setField_event]

theorem readLine_data (e : Ending) :
    readLine lib p (fieldLine "data" t e)=({p with dataLines := p.dataLines++[t.units]},[]) := by
  rw [readLine_field lib p (by decide) (by decide),setField_data]

variable {e : FrameLine → Ending} {f : Frame}

/-- The lines ahead of the data line give nothing out and add no data. -/
theorem handleAll_head {ls : List JsString} (hls : ∀ l∈ls,l∈f.head e) (p : Pending) :
    (handleAll (readLine lib) p ls).1.dataLines=p.dataLines ∧
      (handleAll (readLine lib) p ls).2=[] := by
  induction ls generalizing p with
  | nil => exact ⟨rfl,rfl⟩
  | cons l ls ih =>
    obtain ⟨hl,hls'⟩ := List.forall_mem_cons.mp hls
    have hline : (readLine lib p l).1.dataLines=p.dataLines ∧ (readLine lib p l).2=[] := by
      rcases List.mem_append.mp hl with hid|hevent
      · obtain ⟨t,ht,rfl⟩ := Option.map_eq_some_iff.mp (Option.mem_toList.mp hid)
        rw [readLine_id]
        exact ⟨rfl,rfl⟩
      · rw [List.mem_singleton.mp hevent,readLine_event]
        exact ⟨rfl,rfl⟩
    obtain ⟨hdata,hgiven⟩ := ih hls' (readLine lib p l).1
    exact ⟨hdata.trans hline.1,by rw [handleAll,hgiven,hline.2]; rfl⟩

/-- A frame up to its data line is gathered whole. -/
theorem handleAll_upToData (f : Frame) (e : FrameLine → Ending) :
    handleAll (readLine lib) {} (f.upToData e)=
      ({eventName := f.event.units
        dataLines := [f.data.units]
        eventId := f.id.map LineText.units},[]) := by
  obtain ⟨id,event,data⟩ := f
  cases id with
  | none =>
    simp only [Frame.upToData,Frame.head,Option.map_none,Option.toList_none,List.nil_append,
      List.singleton_append,handleAll,readLine_event,readLine_data]
  | some t =>
    simp only [Frame.upToData,Frame.head,Option.map_some,Option.toList_some,List.nil_append,
      List.cons_append,handleAll,readLine_id,readLine_event,readLine_data]

/-- What was gathered of a frame is given out as its event. -/
theorem flush_frame (f : Frame) :
    flush lib {
      eventName := f.event.units
      dataLines := [f.data.units]
      eventId := f.id.map LineText.units}=({},some (f.sent lib)) := by
  rw [flush,if_neg (List.cons_ne_nil _ _),List.intercalate_singleton]
  rfl

theorem flush_noData {p : Pending} (h : p.dataLines=[]) :
    flush lib p=({},none) := by
  rw [flush,if_pos h,h]

/-- A part that arrives whole. -/
theorem handleAll_lines (p : Part) :
    handleAll (readLine lib) {} p.lines=({},(p.frame?.map (Frame.sent lib)).toList) := by
  cases p with
  | comment t e => rw [Part.lines,handleAll,readLine_comment]; rfl
  | gap e => rw [Part.lines,handleAll,readLine_blank,flush_noData lib rfl]; rfl
  | frame f e =>
    rw [Part.lines,handleAll_append,handleAll_upToData,handleAll,readLine_blank,flush_frame]
    rfl

/-! ## What arrives of a stream -/

/-- The frame given out of a part that is cut off: at the end of the stream,
when its data line arrived. -/
def Part.rest (closed : Bool) (k : ℕ) : Part → List Frame
  | .frame f e =>
    if closed=true ∧ (joined newline (f.upToData e)).length≤k then [f] else []
  | _ => []

/-- The frames given out of a stream that is cut off after `k` code units. -/
def arrivedFrames (closed : Bool) : ℕ → List Part → List Frame
  | _,[] => []
  | k,p::ps =>
    if (joined newline p.lines).length≤k then
      p.frame?.toList++arrivedFrames closed (k-(joined newline p.lines).length) ps
    else p.rest closed k

/-- What is given out after lines, at the end of the stream or before it. -/
def givenOut (lib : Payloads T) (closed : Bool) (r : Pending×List (SSEEvent T)) :
    List (SSEEvent T) :=
  r.2++if closed=true then (flush lib r.1).2.toList else []

theorem givenOut_noData (closed : Bool) {r : Pending×List (SSEEvent T)} (h : r.1.dataLines=[]) :
    givenOut lib closed r=r.2 := by
  rw [givenOut,flush_noData lib h]
  cases closed <;> exact List.append_nil _

variable {k : ℕ}

/-- A part that is cut off. -/
theorem givenOut_rest (closed : Bool) {p : Part} (hk : k < (joined newline p.lines).length) :
    givenOut lib closed (handleAll (readLine lib) {} (whole k p.lines))=
      (p.rest closed k).map (Frame.sent lib) := by
  cases p with
  | comment t e | gap e =>
    rw [Part.lines,← List.nil_append [_]] at hk ⊢
    rw [whole_concat_of_lt hk]
    exact givenOut_noData lib closed rfl
  | frame f e =>
    rw [Part.lines] at hk ⊢
    rw [whole_concat_of_lt hk]
    by_cases hdata : (joined newline (f.upToData e)).length≤k
    · rw [whole_of_le hdata,handleAll_upToData,givenOut,flush_frame,Part.rest]
      cases closed <;> simp [hdata]
    · rw [Part.rest,if_neg fun h => hdata h.2]
      have hcut : whole k (f.upToData e)=whole k (f.head e) :=
        whole_concat_of_lt (Nat.not_le.mp hdata)
      have hhead := handleAll_head lib
        (fun l hl => (whole_begins k (f.head e)).subset hl) ({} : Pending)
      rw [hcut,givenOut_noData lib closed hhead.1,hhead.2]
      rfl

theorem givenOut_whole (closed : Bool) (k : ℕ) (parts : List Part) :
    givenOut lib closed (handleAll (readLine lib) {} (whole k (parts.flatMap Part.lines)))=
      (arrivedFrames closed k parts).map (Frame.sent lib) := by
  induction parts generalizing k with
  | nil => exact givenOut_noData lib closed rfl
  | cons p ps ih =>
    rw [List.flatMap_cons,arrivedFrames]
    by_cases hk : (joined newline p.lines).length≤k
    · rw [if_pos hk,whole_append_of_le hk,handleAll_append,handleAll_lines,List.map_append,← ih]
      rw [givenOut,givenOut,List.append_assoc]
      cases p.frame? <;> rfl
    · rw [if_neg hk,whole_append_of_lt (Nat.not_le.mp hk),givenOut_rest lib closed (Nat.not_le.mp hk)]

theorem no_newline_ending (e : Ending) : newline∉e.units := by
  cases e <;> decide

theorem no_newline_field (h : newline∉units field) (t : LineText) (e : Ending) :
    newline∉fieldLine field t e := by
  have hcolon : newline≠colon := by decide
  have hblank : newline≠blank := by decide
  simp only [fieldLine,List.mem_append,List.mem_cons,h,hcolon,hblank,t.no_newline,
    no_newline_ending e,or_self,not_false_eq_true]

/-- No line holds a newline. -/
theorem no_newline_lines (parts : List Part) : ∀ l∈parts.flatMap Part.lines,newline∉l := by
  intro l hl
  obtain ⟨p,-,hline⟩ := List.mem_flatMap.mp hl
  cases p with
  | comment t e =>
    rw [Part.lines,List.mem_singleton] at hline
    have hcolon : newline≠colon := by decide
    simp only [hline,List.mem_append,List.mem_cons,hcolon,t.no_newline,no_newline_ending e,or_self,
      not_false_eq_true]
  | gap e =>
    rw [Part.lines,List.mem_singleton] at hline
    rw [hline]
    exact no_newline_ending e
  | frame f e =>
    simp only [Part.lines,Frame.upToData,Frame.head,List.mem_append,List.mem_singleton,
      Option.mem_toList,Option.map_eq_some_iff] at hline
    rcases hline with ((⟨t,-,rfl⟩|rfl)|rfl)|rfl
    · exact no_newline_field (by decide) t _
    · exact no_newline_field (by decide) _ _
    · exact no_newline_field (by decide) _ _
    · exact no_newline_ending _

/-- The events of a stream that is cut off are those of the frames that
arrived, however the text is cut into chunks. -/
theorem readBody_yielded {parts : List Part} {torn : Bool} {chunks : List JsString}
    (failure : Option E) (hchunks : chunks.flatten=arriving (wire parts) k torn) :
    (readBody lib ⟨chunks,failure⟩).yielded=
      (arrivedFrames failure.isNone k parts).map (Frame.sent lib) := by
  have htail : newline∉(if torn=true then [replacement] else []) := by
    cases torn <;> decide
  obtain ⟨rest,hfeed⟩ :=
    receive_cut_off (readLine lib) (no_newline_lines parts) htail hchunks {}
  rw [← givenOut_whole]
  cases failure with
  | none => simp only [readBody,hfeed,givenOut,Option.isNone_none,if_true]
  | some x =>
    simp only [readBody,hfeed,givenOut,Option.isNone_some,Bool.false_eq_true,if_false,
      List.append_nil]

theorem arrivedFrames_begins (closed : Bool) (k : ℕ) (parts : List Part) :
    arrivedFrames closed k parts<+:framesOf parts := by
  induction parts generalizing k with
  | nil => exact List.prefix_rfl
  | cons p ps ih =>
    have hframes : framesOf (p::ps)=p.frame?.toList++framesOf ps := by
      rw [framesOf,List.filterMap_cons]
      cases p.frame? <;> rfl
    rw [arrivedFrames,hframes]
    split
    · exact (List.prefix_append_right_inj _).mpr (ih _)
    · cases p with
      | comment t e => exact List.nil_prefix
      | gap e => exact List.nil_prefix
      | frame f e =>
        rw [Part.rest]
        split
        · exact List.prefix_append _ _
        · exact List.nil_prefix

theorem wire_cons (p : Part) (ps : List Part) :
    wire (p::ps)=joined newline p.lines++wire ps := by
  rw [wire,List.flatMap_cons,joined_append,wire]

variable {closed : Bool} {pre : List Part}

/-- Parts that arrived whole are ahead of what is cut off. -/
theorem arrivedFrames_append_of_le (h : (wire pre).length≤k) (post : List Part) :
    arrivedFrames closed k (pre++post)=
      framesOf pre++arrivedFrames closed (k-(wire pre).length) post := by
  induction pre generalizing k with
  | nil => rfl
  | cons p ps ih =>
    rw [wire_cons,List.length_append] at h ⊢
    rw [List.cons_append,arrivedFrames,if_pos (by omega),ih (by omega),Nat.sub_sub,
      ← List.append_assoc]
    congr 1
    rw [framesOf,framesOf,List.filterMap_cons]
    cases p.frame? <;> rfl

theorem arrivedFrames_append_of_lt (h : k < (wire pre).length) (post : List Part) :
    arrivedFrames closed k (pre++post)=arrivedFrames closed k pre := by
  induction pre generalizing k with
  | nil => exact absurd h (Nat.not_lt_zero k)
  | cons p ps ih =>
    rw [wire_cons,List.length_append] at h
    rw [List.cons_append,arrivedFrames,arrivedFrames]
    split
    · rw [ih (by omega)]
    · rfl

/-- A frame whose blank line arrived. -/
theorem arrivedFrames_terminated (h : (wire (pre++[.frame f e])).length≤k) (post : List Part) :
    framesOf pre++[f]<+:arrivedFrames closed k (pre++.frame f e::post) := by
  have hframes : framesOf (pre++[.frame f e])=framesOf pre++[f] := List.filterMap_append
  have hsplit : pre++.frame f e::post=(pre++[.frame f e])++post := by
    rw [List.append_assoc,List.singleton_append]
  rw [hsplit,arrivedFrames_append_of_le h,hframes]
  exact List.prefix_append _ _

/-- A frame whose data line did not arrive. -/
theorem arrivedFrames_noData (h : k < (wire pre).length+(joined newline (f.upToData e)).length)
    (post : List Part) : arrivedFrames closed k (pre++.frame f e::post)<+:framesOf pre := by
  by_cases hpre : (wire pre).length≤k
  · have hcut : ¬(joined newline (f.upToData e)).length≤k-(wire pre).length := by omega
    have hlines : ¬(joined newline (Part.frame f e).lines).length≤k-(wire pre).length := by
      rw [Part.lines,joined_append,List.length_append]
      omega
    rw [arrivedFrames_append_of_le hpre,arrivedFrames,if_neg hlines,Part.rest,
      if_neg fun h => hcut h.2,List.append_nil]
  · rw [arrivedFrames_append_of_lt (Nat.not_le.mp hpre)]
    exact arrivedFrames_begins closed k pre

/-- Of a stream that is cut off, the events of the first frames are yielded
whole, the same ones for every cut into chunks: each frame whose blank line
arrived, and none whose data line did not. -/
theorem frames_read_whole (lib : Payloads T) (url : JsString) (init : Option RequestInit)
    (parts : List Part) (k : ℕ) (torn : Bool) (failure : Option E) :
    ∃ frames,frames<+:framesOf parts ∧
      (∀ fetchImpl response chunks,fetchImpl url init=.ok response → response.ok=true →
        response.body=some ⟨chunks,failure⟩ → chunks.flatten=arriving (wire parts) k torn →
        (runOneStream lib fetchImpl url init).yielded=frames.map (Frame.sent lib)) ∧
      ∀ pre f e post,parts=pre++.frame f e::post →
        ((wire (pre++[.frame f e])).length≤k → framesOf pre++[f]<+:frames) ∧
        (k < (wire pre).length+(joined newline (f.upToData e)).length → frames<+:framesOf pre) := by
  refine ⟨arrivedFrames failure.isNone k parts,arrivedFrames_begins _ k parts,?_,?_⟩
  · intro fetchImpl response chunks hfetch hok hbody hchunks
    have hrun : runOneStream lib fetchImpl url init=readBody lib ⟨chunks,failure⟩ := by
      simp only [runOneStream,hfetch,hok,hbody,Bool.true_eq_false,if_false]
    rw [hrun]
    exact readBody_yielded lib failure hchunks
  · rintro pre f e post rfl
    exact ⟨fun h => arrivedFrames_terminated h post,fun h => arrivedFrames_noData h post⟩

/-! ## A stream cut off in its second frame -/

theorem empty_no_return : ([] : JsString).getLast?≠some carriageReturn := by decide

/-- A text as a line, empty where it does not fit on one. -/
def lineOf (s : String) : LineText :=
  if h : newline∉units s ∧ (units s).getLast?≠some carriageReturn then ⟨units s,h.1,h.2⟩
  else ⟨[],List.not_mem_nil,empty_no_return⟩

def deltaFrame : Frame :=
  {id := some (lineOf "7")
   event := lineOf "agent_event"
   data := lineOf "[7]"}

def finalFrame : Frame :=
  {id := some (lineOf "8")
   event := lineOf "agent_event"
   data := lineOf "[8]"}

/-- A ping and two frames. -/
def turnParts : List Part :=
  [.comment (lineOf " ping") .crlf,.gap .crlf,.frame deltaFrame fun _ => .crlf,
    .frame finalFrame fun _ => .lf]

/-- Its text up to the second data line, cut inside a field and inside a line end. -/
def turnChunks : List JsString :=
  [units ": ping\r\n\r\nid: 7\r\neve",units "nt: agent_event\r\ndata: [7]\r\n\r",
    units "\nid: 8\nevent: agent_event\ndata: [8"]

/-- Payloads left as their text. -/
def rawPayloads : Payloads JsString :=
  {parse := fun _ => none
   text := id}

def turnResponse : Response String :=
  {ok := true
   status := 200
   text := none
   body := some {chunks := turnChunks}}

theorem frames_read_whole_turn :
    (runOneStream rawPayloads (fun _ _ => .ok turnResponse) (units "/stream") none).yielded=
      [{event := units "agent_event",data := units "[7]",id := some (units "7")}] := by
  obtain ⟨frames,-,hyielded,hframes⟩ := frames_read_whole (E:=String) rawPayloads (units "/stream")
    none turnParts 83 false none
  have hdelta : framesOf turnParts.dropLast<+:frames :=
    (hframes (turnParts.take 2) deltaFrame _ _ rfl).1 (by decide +kernel)
  have hfinal : frames<+:framesOf turnParts.dropLast :=
    (hframes turnParts.dropLast finalFrame _ _ rfl).2 (by decide +kernel)
  have hread := hyielded (fun _ _ => .ok turnResponse) turnResponse turnChunks rfl rfl rfl
    (by decide +kernel)
  rw [hread,← List.IsPrefix.eq_of_length_le hdelta hfinal.length_le]
  decide +kernel

end Voyagent.SseFrames
