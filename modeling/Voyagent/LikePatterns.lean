import Mathlib.Data.List.Infix

/-!
# Patterns of SQL's `LIKE`

A percent sign stands for any text, an underscore for any one character, and a
backslash takes the character behind it for itself. Texts are matched from end
to end. Nothing here names a particular table.
-/

namespace Voyagent.LikePatterns

/-- What a pattern asks for, piece by piece. -/
inductive Token where
  | lit (c : Char)
  | one
  | many
  deriving DecidableEq

/-- The pieces of a pattern; one that ends in an escape is an error. -/
def tokens : List Char → Option (List Token)
  | [] => some []
  | ['\\'] => none
  | '\\'::c::cs => (tokens cs).map (Token.lit c::·)
  | '%'::cs => (tokens cs).map (Token.many::·)
  | '_'::cs => (tokens cs).map (Token.one::·)
  | c::cs => (tokens cs).map (Token.lit c::·)

/-- A text is made of the pieces. -/
def matchesTokens : List Token → List Char → Bool
  | [],text => text.isEmpty
  | .lit _::_,[] => false
  | .lit a::ts,c::text => decide (a=c) && matchesTokens ts text
  | .one::_,[] => false
  | .one::ts,_::text => matchesTokens ts text
  | .many::ts,text => text.tails.any (matchesTokens ts)

/-- `text LIKE pattern`. -/
def matchesLike (pattern text : List Char) : Bool :=
  (tokens pattern).any fun ts => matchesTokens ts text

/-- Characters that stand for something else in a pattern. -/
def Special (c : Char) : Prop := c = '%' ∨ c = '_' ∨ c = '\\'

instance (c : Char) : Decidable (Special c) :=
  inferInstanceAs (Decidable (c = '%' ∨ c = '_' ∨ c = '\\'))

/-- A text without special characters. -/
def Plain (cs : List Char) : Prop := ∀ c ∈ cs,¬Special c

instance (cs : List Char) : Decidable (Plain cs) := List.decidableBAll (fun c => ¬Special c) cs

/-- The pattern for texts that contain a term. -/
def around (term : List Char) : List Char := '%'::(term++['%'])

/-! ## Matching -/

variable {ts : List Token}

theorem matchesTokens_many {text : List Char} :
    matchesTokens (.many::ts) text=true ↔ ∃ rest,rest <:+ text ∧ matchesTokens ts rest=true := by
  rw [matchesTokens,List.any_eq_true]
  simp only [List.mem_tails]

/-- Any text matches the last percent sign. -/
theorem matchesTokens_many_last (text : List Char) : matchesTokens [.many] text=true :=
  matchesTokens_many.mpr ⟨[],List.nil_suffix,rfl⟩

/-- Literal pieces match the text they spell. -/
theorem matchesTokens_lits {lits text : List Char} :
    matchesTokens (lits.map Token.lit++ts) text=true ↔
      ∃ rest,text=lits++rest ∧ matchesTokens ts rest=true := by
  induction lits generalizing text with
  | nil => simp
  | cons a lits ih =>
    cases text with
    | nil => simp [matchesTokens]
    | cons c text =>
      simp only [List.map_cons,List.cons_append,matchesTokens,Bool.and_eq_true,decide_eq_true_eq,ih,
        List.cons.injEq]
      constructor
      · rintro ⟨rfl,rest,rfl,hrest⟩
        exact ⟨rest,⟨rfl,rfl⟩,hrest⟩
      · rintro ⟨rest,⟨rfl,rfl⟩,hrest⟩
        exact ⟨rfl,rest,rfl,hrest⟩

/-- Literal pieces between percent signs match the texts that contain them. -/
theorem matchesTokens_contains (lits text : List Char) :
    matchesTokens (.many::(lits.map Token.lit++[.many])) text=true ↔ lits <:+: text := by
  rw [matchesTokens_many]
  simp only [matchesTokens_lits,matchesTokens_many_last,and_true]
  constructor
  · rintro ⟨_,⟨before,rfl⟩,rest,rfl⟩
    exact ⟨before,rest,by rw [List.append_assoc]⟩
  · rintro ⟨before,rest,rfl⟩
    exact ⟨lits++rest,⟨before,by rw [List.append_assoc]⟩,rest,rfl⟩

/-- The shortest text of a pattern, with `fill` where any character will do. -/
def filling (fill : Char) : List Token → List Char
  | [] => []
  | .lit c::ts => c::filling fill ts
  | .one::ts => fill::filling fill ts
  | .many::ts => filling fill ts

theorem matchesTokens_filling (fill : Char) (ts : List Token) :
    matchesTokens ts (filling fill ts)=true := by
  induction ts with
  | nil => rfl
  | cons t ts ih =>
    cases t with
    | lit c => simpa [filling,matchesTokens] using ih
    | one => simpa [filling,matchesTokens] using ih
    | many => exact matchesTokens_many.mpr ⟨_,List.suffix_refl _,ih⟩

/-! ## Terms between percent signs -/

/-- A character that is not special is a piece of its own. -/
theorem tokens_cons_plain {c : Char} (h : ¬Special c) (cs : List Char) :
    tokens (c::cs)=(tokens cs).map (Token.lit c::·) := by
  have hpercent : c ≠ '%' := fun he => h (.inl he)
  have hunderscore : c ≠ '_' := fun he => h (.inr (.inl he))
  have hescape : c ≠ '\\' := fun he => h (.inr (.inr he))
  rw [tokens]
  all_goals simp_all

variable {term : List Char}

theorem tokens_plain (h : Plain term) :
    tokens (term++['%'])=some (term.map Token.lit++[.many]) := by
  induction term with
  | nil => rfl
  | cons c cs ih =>
    have hcs := ih fun d hd => h d (List.mem_cons_of_mem c hd)
    rw [List.cons_append,tokens_cons_plain (h c List.mem_cons_self),hcs]
    rfl

/-- A plain term is found exactly where it is contained. -/
theorem matchesLike_around (h : Plain term) (text : List Char) :
    matchesLike (around term) text=true ↔ term <:+: text := by
  have htokens : tokens (around term)=some (.many::(term.map Token.lit++[.many])) := by
    rw [around,tokens,tokens_plain h]
    rfl
  rw [matchesLike,htokens,Option.any_some]
  exact matchesTokens_contains term text

/-- The shortest text found by a term. -/
def shortest (term : List Char) : List Char := ((tokens (term++['%'])).map (filling '%')).getD []

/-- A piece in front of a term's pattern is in front of its shortest text. -/
theorem shortest_of_tokens (term : List Char) {cs : List Char} {t : Token}
    (hts : tokens (cs++['%'])=some ts) (hfill : shortest cs=filling '%' ts)
    (h : tokens (term++['%'])=(tokens (cs++['%'])).map (t::·)) :
    (∃ ts,tokens (term++['%'])=some ts ∧ shortest term=filling '%' ts) ∧
      shortest term=filling '%' [t]++shortest cs := by
  rw [hts,Option.map_some] at h
  have hshortest : shortest term=filling '%' (t::ts) := by
    rw [shortest,h]
    rfl
  refine ⟨⟨t::ts,h,hshortest⟩,?_⟩
  rw [hshortest,hfill]
  cases t <;> rfl

/-- The search pattern never ends in an escape, and its shortest text is no
longer than the term; it is the term only when that is plain. -/
theorem shortest_facts (term : List Char) :
    (∃ ts,tokens (term++['%'])=some ts ∧ shortest term=filling '%' ts) ∧
      (shortest term).length ≤ term.length ∧ (shortest term=term → Plain term) := by
  induction term using tokens.induct with
  | case1 => exact ⟨⟨_,rfl,rfl⟩,Nat.le_refl 0,fun _ c hc => by cases hc⟩
  | case2 => exact ⟨⟨_,rfl,rfl⟩,Nat.le_refl 1,fun h => by cases h⟩
  | case3 c cs ih =>
    obtain ⟨⟨ts,hts,hfill⟩,hlength,-⟩ := ih
    obtain ⟨hsome,hshortest⟩ := shortest_of_tokens ('\\'::c::cs) (t:=.lit c) hts hfill rfl
    have hlt : (shortest ('\\'::c::cs)).length<('\\'::c::cs).length := by
      rw [hshortest]
      exact Nat.succ_lt_succ (Nat.lt_succ_of_le hlength)
    exact ⟨hsome,hlt.le,fun h => absurd (congrArg List.length h) hlt.ne⟩
  | case4 cs ih =>
    obtain ⟨⟨ts,hts,hfill⟩,hlength,-⟩ := ih
    obtain ⟨hsome,hshortest⟩ := shortest_of_tokens ('%'::cs) (t:=.many) hts hfill rfl
    have hlt : (shortest ('%'::cs)).length<('%'::cs).length := by
      rw [hshortest]
      exact Nat.lt_succ_of_le hlength
    exact ⟨hsome,hlt.le,fun h => absurd (congrArg List.length h) hlt.ne⟩
  | case5 cs ih =>
    obtain ⟨⟨ts,hts,hfill⟩,hlength,-⟩ := ih
    obtain ⟨hsome,hshortest⟩ := shortest_of_tokens ('_'::cs) (t:=.one) hts hfill rfl
    refine ⟨hsome,?_,fun h => ?_⟩
    · rw [hshortest]
      simpa [filling] using hlength
    · rw [hshortest] at h
      exact absurd (List.cons.inj h).1 (by decide)
  | case6 c cs hlast hescape hpercent hunderscore ih =>
    obtain ⟨⟨ts,hts,hfill⟩,hlength,hplain⟩ := ih
    have hc : ¬Special c := by
      rintro (rfl|rfl|rfl)
      · exact hpercent rfl
      · exact hunderscore rfl
      · cases cs with
        | nil => exact hlast rfl rfl
        | cons d cs => exact hescape d cs rfl rfl
    obtain ⟨hsome,hshortest⟩ := shortest_of_tokens (c::cs) (t:=.lit c) hts hfill
      (tokens_cons_plain hc _)
    refine ⟨hsome,?_,fun h => ?_⟩
    · rw [hshortest]
      simpa [filling] using hlength
    · rw [hshortest] at h
      have htail := hplain (List.cons.inj h).2
      intro d hd
      rcases List.mem_cons.mp hd with rfl|hd
      · exact hc
      · exact htail d hd

/-- A term's pattern finds its shortest text. -/
theorem matchesLike_shortest (term : List Char) :
    matchesLike (around term) (shortest term)=true := by
  obtain ⟨⟨ts,hts,hshortest⟩,-⟩ := shortest_facts term
  have htokens : tokens (around term)=some (.many::ts) := by
    rw [around,tokens,hts]
    rfl
  rw [matchesLike,htokens,Option.any_some,hshortest]
  exact matchesTokens_many.mpr ⟨_,List.suffix_refl _,matchesTokens_filling '%' ts⟩

/-- Unless the term is plain, its shortest text does not contain it. -/
theorem not_infix_shortest (h : ¬Plain term) : ¬term <:+: shortest term := by
  obtain ⟨-,hlength,hplain⟩ := shortest_facts term
  intro hfound
  exact h (hplain (hfound.eq_of_length_le hlength).symm)

/-! ## Ignoring case -/

/-- How a database folds characters to ignore case: the special characters
are their own folds, and folds of nothing else. -/
structure CaseFold where
  fold : Char → Char
  fixes : ∀ c,Special c → fold c=c
  keeps : ∀ c,Special (fold c) → Special c

/-- `text ILIKE pattern`, for the pattern around a term. -/
def matchesIlike (f : CaseFold) (text term : List Char) : Bool :=
  matchesLike (around (term.map f.fold)) (text.map f.fold)

/-- The text contains the term, whatever the case of either. -/
def ContainsIgnoringCase (f : CaseFold) (text term : List Char) : Prop :=
  term.map f.fold <:+: text.map f.fold

instance (f : CaseFold) (text term : List Char) : Decidable (ContainsIgnoringCase f text term) :=
  inferInstanceAs (Decidable (term.map f.fold <:+: text.map f.fold))

variable (f : CaseFold) (cs : List Char)

theorem plain_map_iff : Plain (cs.map f.fold) ↔ Plain cs := by
  constructor
  · intro h c hc hs
    refine h (f.fold c) (List.mem_map_of_mem hc) ?_
    rwa [f.fixes c hs]
  · intro h d hd hs
    obtain ⟨c,hc,rfl⟩ := List.mem_map.mp hd
    exact h c hc (f.keeps c hs)

/-- A piece with its character folded. -/
def Token.folded (f : CaseFold) : Token → Token
  | .lit c => .lit (f.fold c)
  | .one => .one
  | .many => .many

/-- Folding a pattern folds its pieces. -/
theorem tokens_map :
    tokens (cs.map f.fold)=(tokens cs).map (List.map (Token.folded f)) := by
  have hpercent : f.fold '%' = '%' := f.fixes _ (.inl rfl)
  have hunderscore : f.fold '_' = '_' := f.fixes _ (.inr (.inl rfl))
  have hescape : f.fold '\\' = '\\' := f.fixes _ (.inr (.inr rfl))
  induction cs using tokens.induct with
  | case1 => rfl
  | case2 =>
    rw [List.map_singleton,hescape]
    rfl
  | case3 c cs ih =>
    rw [List.map_cons,List.map_cons,hescape,tokens,ih,tokens,Option.map_map,Option.map_map]
    rfl
  | case4 cs ih =>
    rw [List.map_cons,hpercent,tokens,ih,tokens,Option.map_map,Option.map_map]
    rfl
  | case5 cs ih =>
    rw [List.map_cons,hunderscore,tokens,ih,tokens,Option.map_map,Option.map_map]
    rfl
  | case6 c cs hlast hescape' hpercent' hunderscore' ih =>
    have hc : ¬Special c := by
      rintro (rfl|rfl|rfl)
      · exact hpercent' rfl
      · exact hunderscore' rfl
      · cases cs with
        | nil => exact hlast rfl rfl
        | cons d cs => exact hescape' d cs rfl rfl
    have hfold : ¬Special (f.fold c) := fun h => hc (f.keeps c h)
    rw [List.map_cons,tokens_cons_plain hfold,ih,tokens_cons_plain hc,Option.map_map,Option.map_map]
    rfl

theorem filling_map (ts : List Token) :
    filling '%' (ts.map (Token.folded f))=(filling '%' ts).map f.fold := by
  have hpercent : f.fold '%' = '%' := f.fixes _ (.inl rfl)
  induction ts with
  | nil => rfl
  | cons t ts ih => cases t <;> simp [filling,Token.folded,ih,hpercent]

/-- The shortest text of a folded term is the folded shortest text. -/
theorem shortest_map (term : List Char) :
    shortest (term.map f.fold)=(shortest term).map f.fold := by
  have hpercent : f.fold '%' = '%' := f.fixes _ (.inl rfl)
  have hpattern : term.map f.fold++['%']=(term++['%']).map f.fold := by
    rw [List.map_append,List.map_singleton,hpercent]
  obtain ⟨⟨ts,hts,hshortest⟩,-⟩ := shortest_facts term
  rw [hshortest,shortest,hpattern,tokens_map,hts]
  exact filling_map f ts

/-- Plain terms are searched for as they read. -/
theorem matchesIlike_plain (h : Plain term) (text : List Char) :
    matchesIlike f text term=true ↔ ContainsIgnoringCase f text term :=
  matchesLike_around ((plain_map_iff f term).mpr h) _

/-- Any term finds its shortest text. -/
theorem matchesIlike_shortest (term : List Char) :
    matchesIlike f (shortest term) term=true := by
  rw [matchesIlike,← shortest_map]
  exact matchesLike_shortest _

/-- And unless it is plain, that text does not contain it. -/
theorem not_contains_shortest (h : ¬Plain term) :
    ¬ContainsIgnoringCase f (shortest term) term := by
  rw [ContainsIgnoringCase,← shortest_map]
  exact not_infix_shortest fun hplain => h ((plain_map_iff f term).mp hplain)

/-- A plain text contains no term with special characters. -/
theorem not_contains_of_plain {text : List Char} (h : ¬Plain term) (htext : Plain text) :
    ¬ContainsIgnoringCase f text term := by
  intro hfound
  refine h ((plain_map_iff f term).mp fun c hc => ?_)
  exact (plain_map_iff f text).mpr htext c (hfound.subset hc)

/-- The shortest text of a plain term is the term. -/
theorem shortest_plain (h : Plain term) : shortest term=term := by
  have hfilling : ∀ cs : List Char,filling '%' (cs.map Token.lit++[.many])=cs := by
    intro cs
    induction cs with
    | nil => rfl
    | cons c cs ih => exact congrArg (c::·) ih
  rw [shortest,tokens_plain h]
  exact hfilling term

end Voyagent.LikePatterns
