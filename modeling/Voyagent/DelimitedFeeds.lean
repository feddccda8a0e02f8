import Mathlib.Data.List.Infix
import Mathlib.Data.List.Flatten

/-!
# Reading delimited pieces from a stream that arrives in chunks

A reader appends each chunk to a buffer, cuts the finished pieces off its
front and hands them on one at a time. What it gives out depends on the text
alone and not on where the chunks end. Of a text that is cut off, the pieces
read are those whose delimiter arrived. Nothing here names a particular
format.
-/

namespace Voyagent.DelimitedFeeds

variable {α σ ε : Type}

/-- A reader between two chunks. -/
structure Feed (α σ ε : Type) where
  /-- What arrived of the piece that is not finished. -/
  buffer : List α := []
  state : σ
  /-- What was given out, in order. -/
  given : List ε := []

/-- Hand a finished piece on. -/
def Feed.piece (handle : σ → List α → σ×List ε) (f : Feed α σ ε) (l : List α) : Feed α σ ε :=
  {f with
    state := (handle f.state l).1
    given := f.given++(handle f.state l).2}

/-- The state and what is given out after pieces, without the buffer. -/
def handleAll (handle : σ → List α → σ×List ε) (s : σ) : List (List α) → σ×List ε
  | [] => (s,[])
  | p::ps =>
    let r := handleAll handle (handle s p).1 ps
    (r.1,(handle s p).2++r.2)

/-- The text of pieces that all end in the delimiter. -/
def joined (sep : α) (pieces : List (List α)) : List α := pieces.flatMap fun p => p++[sep]

/-- The pieces that the first `k` symbols of their text hold whole. -/
def whole : ℕ → List (List α) → List (List α)
  | _,[] => []
  | k,p::ps => if p.length < k then p::whole (k-(p.length+1)) ps else []

variable {sep : α} {handle : σ → List α → σ×List ε} {f : Feed α σ ε} {l : List α}
variable {ps : List (List α)} {k : ℕ}

/-! ## Pieces and their text -/

@[simp] theorem joined_nil : joined sep ([] : List (List α))=[] := rfl

theorem joined_append (ps qs : List (List α)) :
    joined sep (ps++qs)=joined sep ps++joined sep qs := List.flatMap_append

theorem joined_cons (l : List α) (ps : List (List α)) :
    joined sep (l::ps)=(l++[sep])++joined sep ps := rfl

theorem length_joined_cons (l : List α) (ps : List (List α)) :
    (joined sep (l::ps)).length=l.length+1+(joined sep ps).length := by
  rw [joined_cons,List.length_append,List.length_append,List.length_singleton]

theorem whole_begins (k : ℕ) (ps : List (List α)) : whole k ps<+:ps := by
  induction ps generalizing k with
  | nil => exact List.prefix_rfl
  | cons p ps ih =>
    rw [whole]
    split
    · exact List.cons_prefix_cons.mpr ⟨rfl,ih _⟩
    · exact List.nil_prefix

/-- A text cut off: whole pieces, and the start of one. -/
theorem take_joined (hps : ∀ p∈ps,sep∉p) (k : ℕ) :
    ∃ rest,(joined sep ps).take k=joined sep (whole k ps)++rest ∧ sep∉rest := by
  induction ps generalizing k with
  | nil => exact ⟨[],List.take_nil,List.not_mem_nil⟩
  | cons p ps ih =>
    obtain ⟨hp,hps'⟩ := List.forall_mem_cons.mp hps
    by_cases hk : p.length < k
    · obtain ⟨rest,htake,hrest⟩ := ih hps' (k-(p.length+1))
      refine ⟨rest,?_,hrest⟩
      have hlen : k=(p++[sep]).length+(k-(p.length+1)) := by
        rw [List.length_append,List.length_singleton]
        omega
      rw [whole,if_pos hk,joined_cons,joined_cons,List.append_assoc (p++[sep]),← htake]
      conv_lhs => rw [hlen]
      rw [List.take_length_add_append]
    · refine ⟨p.take k,?_,fun hmem => hp (List.mem_of_mem_take hmem)⟩
      rw [whole,if_neg hk,joined_cons,List.append_assoc,
        List.take_append_of_le_length (Nat.not_lt.mp hk)]
      rfl

/-- A text that arrives whole. -/
theorem whole_append_of_le (h : (joined sep ps).length≤k) (qs : List (List α)) :
    whole k (ps++qs)=ps++whole (k-(joined sep ps).length) qs := by
  induction ps generalizing k with
  | nil => rfl
  | cons p ps ih =>
    rw [length_joined_cons] at h ⊢
    rw [List.cons_append,whole,if_pos (by omega),ih (by omega),Nat.sub_sub]
    rfl

/-- A text that is cut off before its end. -/
theorem whole_append_of_lt (h : k < (joined sep ps).length) (qs : List (List α)) :
    whole k (ps++qs)=whole k ps := by
  induction ps generalizing k with
  | nil => exact absurd h (Nat.not_lt_zero k)
  | cons p ps ih =>
    rw [length_joined_cons] at h
    rw [List.cons_append,whole,whole]
    split
    · rw [ih (by omega)]
    · rfl

theorem whole_of_le (h : (joined sep ps).length≤k) : whole k ps=ps := by
  have happend := whole_append_of_le h []
  rwa [List.append_nil,whole,List.append_nil] at happend

/-- A text that is cut off in its last piece. -/
theorem whole_concat_of_lt (h : k < (joined sep (ps++[l])).length) :
    whole k (ps++[l])=whole k ps := by
  by_cases hps : (joined sep ps).length≤k
  · rw [joined_append,List.length_append,length_joined_cons] at h
    have hlast : ¬l.length < k-(joined sep ps).length := by
      simp only [joined_nil,List.length_nil] at h
      omega
    rw [whole_append_of_le hps,whole,if_neg hlast,List.append_nil,whole_of_le hps]
  · exact whole_append_of_lt (Nat.not_le.mp hps) [l]

/-! ## Handing pieces on -/

theorem foldl_piece (ps : List (List α)) (f : Feed α σ ε) :
    ps.foldl (Feed.piece handle) f=
      {f with
        state := (handleAll handle f.state ps).1
        given := f.given++(handleAll handle f.state ps).2} := by
  induction ps generalizing f with
  | nil => rw [List.foldl_nil,handleAll,List.append_nil]
  | cons p ps ih => rw [List.foldl_cons,ih,handleAll,Feed.piece,List.append_assoc]

theorem handleAll_append (s : σ) (ps qs : List (List α)) :
    handleAll handle s (ps++qs)=
      ((handleAll handle (handleAll handle s ps).1 qs).1,
        (handleAll handle s ps).2++(handleAll handle (handleAll handle s ps).1 qs).2) := by
  induction ps generalizing s with
  | nil => rfl
  | cons p ps ih => rw [List.cons_append,handleAll,ih,handleAll,List.append_assoc]

/-! ## The reader -/

section Reader

variable [DecidableEq α]

/-- Cut finished pieces off the buffer, at most `n` of them. -/
def drain (sep : α) (handle : σ → List α → σ×List ε) : ℕ → Feed α σ ε → Feed α σ ε
  | 0,f => f
  | n+1,f =>
    match f.buffer.idxOf? sep with
    | none => f
    | some i =>
      drain sep handle n {f.piece handle (f.buffer.take i) with buffer := f.buffer.drop (i+1)}

/-- Take a chunk in. The buffer holds no more pieces than symbols. -/
def receive (sep : α) (handle : σ → List α → σ×List ε) (f : Feed α σ ε) (chunk : List α) :
    Feed α σ ε :=
  drain sep handle (f.buffer++chunk).length {f with buffer := f.buffer++chunk}

/-- Take one symbol in. -/
def push (sep : α) (handle : σ → List α → σ×List ε) (f : Feed α σ ε) (a : α) : Feed α σ ε :=
  if a=sep then {f.piece handle f.buffer with buffer := []} else {f with buffer := f.buffer++[a]}

/-- Symbols inside a piece only lengthen the buffer. -/
theorem foldl_push_inner (hl : sep∉l) (f : Feed α σ ε) :
    l.foldl (push sep handle) f={f with buffer := f.buffer++l} := by
  induction l generalizing f with
  | nil => rw [List.foldl_nil,List.append_nil]
  | cons a l ih =>
    have ha : a≠sep := fun h => hl (h ▸ List.mem_cons_self)
    have hl' : sep∉l := fun h => hl (List.mem_cons_of_mem a h)
    rw [List.foldl_cons,push,if_neg ha,ih hl',List.append_assoc,List.singleton_append]

/-- A piece and its delimiter, after an empty buffer. -/
theorem foldl_push_piece (hl : sep∉l) (hf : f.buffer=[]) :
    (l++[sep]).foldl (push sep handle) f=f.piece handle l := by
  rw [List.foldl_append,foldl_push_inner hl,List.foldl_cons,List.foldl_nil,push,if_pos rfl,hf,
    List.nil_append,Feed.piece,Feed.piece,hf]

/-- The pieces of a text are handed on in order. -/
theorem foldl_push_joined (hps : ∀ p∈ps,sep∉p) (hf : f.buffer=[]) :
    (joined sep ps).foldl (push sep handle) f=ps.foldl (Feed.piece handle) f := by
  induction ps generalizing f with
  | nil => rfl
  | cons p ps ih =>
    obtain ⟨hp,hps'⟩ := List.forall_mem_cons.mp hps
    rw [joined_cons,List.foldl_append,foldl_push_piece hp hf,List.foldl_cons]
    exact ih hps' hf

theorem push_buffer (hf : sep∉f.buffer) (a : α) : sep∉(push sep handle f a).buffer := by
  unfold push
  split
  · exact List.not_mem_nil
  · rename_i ha
    exact fun hmem => (List.mem_append.mp hmem).elim hf fun h => ha (List.mem_singleton.mp h).symm

theorem foldl_push_buffer (hf : sep∉f.buffer) (l : List α) :
    sep∉(l.foldl (push sep handle) f).buffer := by
  induction l generalizing f with
  | nil => exact hf
  | cons a l ih => exact ih (push_buffer hf a)

/-- A text cut at its first delimiter. -/
theorem cut_first {i : ℕ} (h : l.idxOf? sep=some i) :
    l=(l.take i++[sep])++l.drop (i+1) ∧ sep∉l.take i := by
  obtain ⟨hi,hat,hbefore⟩ := List.findIdx?_eq_some_iff_getElem.mp h
  have hsep : l[i]=sep := eq_of_beq hat
  constructor
  · rw [← hsep,List.append_assoc,List.singleton_append,List.getElem_cons_drop,
      List.take_append_drop]
  · intro hmem
    obtain ⟨j,hj,heq⟩ := List.mem_iff_getElem.mp hmem
    rw [List.getElem_take] at heq
    exact hbefore j (lt_of_lt_of_le hj (List.length_take_le _ _)) (beq_iff_eq.mpr heq)

/-- Cutting pieces off the buffer is reading its symbols one at a time. -/
theorem drain_eq {n : ℕ} (hn : f.buffer.length≤n) :
    drain sep handle n f=f.buffer.foldl (push sep handle) {f with buffer := []} := by
  induction n generalizing f with
  | zero =>
    have hnil : f.buffer=[] := List.length_eq_zero_iff.mp (Nat.le_zero.mp hn)
    rw [hnil,List.foldl_nil,drain,← hnil]
  | succ n ih =>
    rw [drain]
    cases hat : f.buffer.idxOf? sep with
    | none => rw [foldl_push_inner (List.idxOf?_eq_none_iff.mp hat),List.nil_append]
    | some i =>
      obtain ⟨hcut,hbefore⟩ := cut_first hat
      have hlen := congrArg List.length hcut
      rw [List.length_append,List.length_append,List.length_singleton] at hlen
      have hrest : (f.buffer.drop (i+1)).length≤n := by omega
      dsimp only
      rw [ih hrest]
      conv_rhs => rw [hcut,List.foldl_append,foldl_push_piece hbefore rfl]
      rfl

theorem receive_eq (hf : sep∉f.buffer) (chunk : List α) :
    receive sep handle f chunk=chunk.foldl (push sep handle) f := by
  have hdrain : receive sep handle f chunk=
      (f.buffer++chunk).foldl (push sep handle) {f with buffer := []} := drain_eq le_rfl
  rw [hdrain,List.foldl_append,foldl_push_inner hf,List.nil_append]

/-- Where the chunks end makes no difference. -/
theorem receive_chunks (hf : sep∉f.buffer) (chunks : List (List α)) :
    chunks.foldl (receive sep handle) f=chunks.flatten.foldl (push sep handle) f := by
  induction chunks generalizing f with
  | nil => rfl
  | cons chunk chunks ih =>
    rw [List.foldl_cons,List.flatten_cons,List.foldl_append,receive_eq hf,
      ih (foldl_push_buffer hf chunk)]

/-- However the text is cut into chunks and wherever it is cut off, the pieces
that arrived whole are handed on, and nothing else. -/
theorem receive_cut_off (handle : σ → List α → σ×List ε) (hps : ∀ p∈ps,sep∉p) {tail : List α}
    (htail : sep∉tail) {chunks : List (List α)} (hchunks : chunks.flatten=(joined sep ps).take k++tail) (s : σ) :
    ∃ rest,chunks.foldl (receive sep handle) {state := s}=
      {buffer := rest,state := (handleAll handle s (whole k ps)).1,
        given := (handleAll handle s (whole k ps)).2} := by
  obtain ⟨rest,htake,hrest⟩ := take_joined hps k
  have hwhole : ∀ p∈whole k ps,sep∉p := fun p hp => hps p ((whole_begins k ps).subset hp)
  have hinner : sep∉rest++tail := fun hmem => (List.mem_append.mp hmem).elim hrest htail
  refine ⟨rest++tail,?_⟩
  rw [receive_chunks List.not_mem_nil,hchunks,htake,List.append_assoc,List.foldl_append,
    foldl_push_joined hwhole rfl,foldl_push_inner hinner,foldl_piece]
  rfl

end Reader

end Voyagent.DelimitedFeeds
