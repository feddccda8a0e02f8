import Voyagent.ScrubbedTexts

/-!
# Credentials in error reports

The scrubber of an event that is about to be sent. It changes the event in
place, region by region; whatever it raises is swallowed, and the event is sent
as it is by then. Two events are similar if they differ in what is stored under
sensitive keys only; the condition under which no similar event is sent
differently is a condition on the event's shape.
-/

namespace Voyagent.ErrorReports

open CodePoints ScrubbedTexts

/-- A dictionary key: a text, bytes, or anything else that can be hashed. -/
inductive Key where
  | str (s : Text)
  | bytes (b : List Nat)
  | other (n : Nat)
  deriving DecidableEq

/-- What an event is made of; numbers, `None` and the like stand for themselves. -/
inductive Value where
  | str (s : Text)
  | other (n : Nat)
  | dict (items : List (Key × Value))
  | list (items : List Value)
  | tuple (items : List Value)
  /-- A tuple of a class with one constructor argument for each field. -/
  | namedTuple (items : List Value)

/-- The value of `event["request"]` when it is a dictionary. -/
structure Request where
  headers : Option Value := none
  cookies : Option Value := none
  data : Option Value := none
  queryString : Option Value := none
  /-- Every other entry. -/
  rest : List (Key × Value) := []

inductive RequestEntry where
  | dict (req : Request)
  | other (v : Value)

structure Event where
  request : Option RequestEntry := none
  extra : Option Value := none
  /-- Every other entry. -/
  rest : List (Key × Value) := []

/-- The key is a text that names a sensitive header or matches the field pattern. -/
def Key.sensitive : Key → Bool
  | .str s => isSensitive s
  | _ => false

def redacted : Value := .str redactedText

/-! ## The scrubber -/

mutual
/-- `_scrub_value` with a number of call frames left; `none` when it raises. The
test for a mapping takes frames of its own, and the class of a named tuple is
called with one argument. -/
def scrubValue (checkFrames : Nat) : Nat → Value → Option Value
  | _,.str s => some (.str (scrubJwts s))
  | n,.other x => if n<checkFrames then none else some (.other x)
  | n,.dict items =>
    if n<checkFrames then none else (scrubMapping checkFrames n items).map .dict
  | n,.list items =>
    if n<checkFrames then none else (scrubItems checkFrames n items).map .list
  | n,.tuple items =>
    if n<checkFrames then none else (scrubItems checkFrames n items).map .tuple
  | n,.namedTuple items =>
    if n<checkFrames then none
    else (scrubItems checkFrames n items).bind fun scrubbed =>
      if scrubbed.length=1 then some (.namedTuple [.list scrubbed]) else none
/-- The entries of a mapping through `_scrub_mapping_entry`. -/
def scrubMapping (checkFrames : Nat) : Nat → List (Key × Value) → Option (List (Key × Value))
  | _,[] => some []
  | n,(k,v)::items =>
    Option.bind (if n=0 then none else if k.sensitive then some redacted
      else if n=1 then none else scrubValue checkFrames (n-2) v) fun v' =>
        (scrubMapping checkFrames n items).map fun items' => (k,v')::items'
def scrubItems (checkFrames : Nat) : Nat → List Value → Option (List Value)
  | _,[] => some []
  | n,v::vs =>
    Option.bind (if n=0 then none else scrubValue checkFrames (n-1) v) fun v' =>
      (scrubItems checkFrames n vs).map fun vs' => v'::vs'
end

/-- A call of `_scrub_value` with `n` frames left. -/
def callScrubValue (checkFrames n : Nat) (v : Value) : Option Value :=
  if n=0 then none else scrubValue checkFrames (n-1) v

/-- One entry of the headers. -/
def scrubHeader (checkFrames n : Nat) (entry : Key × Value) : Option (Key × Value) :=
  match entry.1 with
  | .str s =>
    if isSensitiveHeader s then some (entry.1,redacted)
    else (callScrubValue checkFrames n entry.2).map fun v => (entry.1,v)
  -- `lower` of bytes is bytes, which are in no set of texts.
  | .bytes _ => (callScrubValue checkFrames n entry.2).map fun v => (entry.1,v)
  | .other _ => none

def headersField (checkFrames n : Nat) : Option Value → Option (Option Value)
  | some (.dict items) => (items.mapM (scrubHeader checkFrames n)).map fun items => some (.dict items)
  | headers => some headers

def redactEntry (entry : Key × Value) : Key × Value := (entry.1,redacted)

def cookiesField : Option Value → Option Value
  | some (.dict items) => some (.dict (items.map redactEntry))
  | cookies => cookies

def dataField (checkFrames n : Nat) : Option Value → Option (Option Value)
  | some (.dict items) => (callScrubValue checkFrames n (.dict items)).map some
  | some (.list items) => (callScrubValue checkFrames n (.list items)).map some
  | data => some data

def queryField : Option Value → Option Value
  | some (.str text) => some (.str (scrubJwts text))
  | query => query

def extraField (checkFrames n : Nat) : Option Value → Option (Option Value)
  | some (.dict items) => (callScrubValue checkFrames n (.dict items)).map some
  | extra => some extra

/-- The request part of `_scrub_event`, with the request as it is at the end or
when it raises. -/
def scrubRequest (checkFrames n : Nat) (req : Request) : Except Request Request :=
  match headersField checkFrames n req.headers with
  | none => .error req
  | some headers =>
    let req := {req with headers,cookies := cookiesField req.cookies}
    match dataField checkFrames n req.data with
    | none => .error req
    | some data => .ok {req with data,queryString := queryField req.queryString}

/-- The part of `_scrub_event` behind the request. -/
def scrubExtra (checkFrames n : Nat) (e : Event) : Event :=
  match extraField checkFrames n e.extra with
  | none => e
  | some extra => {e with extra}

/-- `_scrub_event`, with the event as it is at the end or when it raises. -/
def scrubEvent (checkFrames n : Nat) (e : Event) : Event :=
  match e.request with
  | some (.dict req) =>
    match scrubRequest checkFrames n req with
    | .error req => {e with request := some (.dict req)}
    | .ok req => scrubExtra checkFrames n {e with request := some (.dict req)}
  | _ => scrubExtra checkFrames n e

/-- `_before_send`: the event as `_scrub_event` leaves it, whether or not it raises. -/
def beforeSend (checkFrames frames : Nat) (e : Event) : Event :=
  if frames=0 then e else scrubEvent checkFrames (frames-1) e

/-! ## Events that differ in credentials only -/

mutual
/-- The values differ in what is stored under sensitive keys only. -/
inductive Similar : Value → Value → Prop
  | refl (v : Value) : Similar v v
  | dict {items items' : List (Key × Value)} :
    SimilarMapping items items' → Similar (.dict items) (.dict items')
  | list {vs vs' : List Value} : SimilarItems vs vs' → Similar (.list vs) (.list vs')
  | tuple {vs vs' : List Value} : SimilarItems vs vs' → Similar (.tuple vs) (.tuple vs')
  | namedTuple {vs vs' : List Value} :
    SimilarItems vs vs' → Similar (.namedTuple vs) (.namedTuple vs')
inductive SimilarMapping : List (Key × Value) → List (Key × Value) → Prop
  | nil : SimilarMapping [] []
  | sensitive {k : Key} {v v' : Value} {items items' : List (Key × Value)} : k.sensitive=true →
    SimilarMapping items items' → SimilarMapping ((k,v)::items) ((k,v')::items')
  | entry {k : Key} {v v' : Value} {items items' : List (Key × Value)} : Similar v v' →
    SimilarMapping items items' → SimilarMapping ((k,v)::items) ((k,v')::items')
inductive SimilarItems : List Value → List Value → Prop
  | nil : SimilarItems [] []
  | cons {v v' : Value} {vs vs' : List Value} : Similar v v' → SimilarItems vs vs' →
    SimilarItems (v::vs) (v'::vs')
end

def ampersand : Nat := 0x26

def equalsSign : Nat := 0x3D

/-- Two parameters of a query string: the same, or a sensitive one with two values. -/
def SimilarParameter (p p' : Text) : Prop :=
  p=p' ∨ ∃ name value value',p=name++equalsSign::value ∧ p'=name++equalsSign::value' ∧
    equalsSign∉name ∧ isSensitive name=true

/-- Query strings that differ in the values of sensitive parameters only, and values
that are similar otherwise. -/
def SimilarQuery (v v' : Value) : Prop :=
  Similar v v' ∨ ∃ text text',v=.str text ∧ v'=.str text' ∧
    List.Forall₂ SimilarParameter (text.splitOn ampersand) (text'.splitOn ampersand)

structure Request.Similar (req req' : Request) : Prop where
  headers : Option.Rel ErrorReports.Similar req.headers req'.headers
  cookies : Option.Rel ErrorReports.Similar req.cookies req'.cookies
  data : Option.Rel ErrorReports.Similar req.data req'.data
  queryString : Option.Rel SimilarQuery req.queryString req'.queryString
  rest : req.rest=req'.rest

/-- Similar requests, or the same. -/
def RequestEntry.Similar : RequestEntry → RequestEntry → Prop
  | .dict req,.dict req' => req.Similar req'
  | r,r' => r=r'

/-- The events differ in what is stored under sensitive keys in the headers, the
cookies, the data, the query string and the extra only. -/
structure Event.Similar (e e' : Event) : Prop where
  request : Option.Rel RequestEntry.Similar e.request e'.request
  extra : Option.Rel ErrorReports.Similar e.extra e'.extra
  rest : e.rest=e'.rest

/-! ## Events whose credentials are covered -/

mutual
/-- Something is stored under a sensitive key of the value. -/
def holdsSecret : Value → Bool
  | .str _ | .other _ => false
  | .dict items => mappingHoldsSecret items
  | .list vs | .tuple vs | .namedTuple vs => itemsHoldSecret vs
def mappingHoldsSecret : List (Key × Value) → Bool
  | [] => false
  | (k,v)::items => k.sensitive || holdsSecret v || mappingHoldsSecret items
def itemsHoldSecret : List Value → Bool
  | [] => false
  | v::vs => holdsSecret v || itemsHoldSecret vs
end

mutual
/-- The frames left suffice for the value, and every named tuple outside sensitive
entries has one field. -/
def fits (checkFrames : Nat) : Nat → Value → Bool
  | _,.str _ => true
  | n,.other _ => checkFrames≤n
  | n,.dict items => checkFrames≤n && mappingFits checkFrames n items
  | n,.list vs | n,.tuple vs => checkFrames≤n && itemsFit checkFrames n vs
  | n,.namedTuple vs => checkFrames≤n && vs.length=1 && itemsFit checkFrames n vs
def mappingFits (checkFrames : Nat) : Nat → List (Key × Value) → Bool
  | _,[] => true
  | n,(k,v)::items =>
    1≤n && (k.sensitive || 2≤n && fits checkFrames (n-2) v) && mappingFits checkFrames n items
def itemsFit (checkFrames : Nat) : Nat → List Value → Bool
  | _,[] => true
  | n,v::vs => 1≤n && fits checkFrames (n-1) v && itemsFit checkFrames n vs
end

/-- A call of `_scrub_value` does not raise. -/
def callFits (checkFrames n : Nat) (v : Value) : Bool := 1≤n && fits checkFrames (n-1) v

/-- The header is of a sensitive name, or has a key with a `lower` and a value that fits. -/
def headerFits (checkFrames n : Nat) (entry : Key × Value) : Bool :=
  match entry.1 with
  | .str s => isSensitiveHeader s || callFits checkFrames n entry.2
  | .bytes _ => callFits checkFrames n entry.2
  | .other _ => false

def headersFit (checkFrames n : Nat) : Option Value → Bool
  | some (.dict items) => items.all (headerFits checkFrames n)
  | _ => true

def dataFits (checkFrames n : Nat) : Option Value → Bool
  | some (.dict items) => callFits checkFrames n (.dict items)
  | some (.list items) => callFits checkFrames n (.list items)
  | _ => true

def extraFits (checkFrames n : Nat) : Option Value → Bool
  | some (.dict items) => callFits checkFrames n (.dict items)
  | _ => true

/-- `_scrub_event` is entered and nothing is raised at the headers. -/
def Request.HeadersPass (checkFrames frames : Nat) (req : Request) : Prop :=
  0<frames ∧ headersFit checkFrames (frames-1) req.headers=true

/-- Nothing is raised at the data either. -/
def Request.DataPasses (checkFrames frames : Nat) (req : Request) : Prop :=
  req.HeadersPass checkFrames frames ∧ dataFits checkFrames (frames-1) req.data=true

/-- Nothing is stored under a sensitive key. -/
def Clean (region : Option Value) : Prop := ∀ v,region=some v → holdsSecret v=false

/-- No parameter of the query string has a sensitive name. -/
def CleanParameters (region : Option Value) : Prop :=
  ∀ text,region=some (.str text) → ∀ p∈text.splitOn ampersand,∀ name value,
    splitOnce equalsSign p=(name,some value) → isSensitive name=false

/-- Each region has no credentials, or is scrubbed of all it has. -/
structure Request.Covered (checkFrames frames : Nat) (req : Request) : Prop where
  headers : Clean req.headers ∨ req.HeadersPass checkFrames frames ∧
    ∃ items,req.headers=some (.dict items) ∧
      ∀ k∈items.map Prod.fst,k.sensitive=true → ∃ s,k=.str s ∧ isSensitiveHeader s=true
  cookies : Clean req.cookies ∨ req.HeadersPass checkFrames frames ∧
    ∃ items,req.cookies=some (.dict items)
  data : Clean req.data ∨ req.DataPasses checkFrames frames ∧
    ((∃ items,req.data=some (.dict items)) ∨ ∃ items,req.data=some (.list items))
  queryString : Clean req.queryString ∧ CleanParameters req.queryString

/-- The same with the extra, which is looked at when the request has been scrubbed. -/
structure Event.Covered (checkFrames frames : Nat) (e : Event) : Prop where
  request : ∀ req,e.request=some (.dict req) → req.Covered checkFrames frames
  extra : Clean e.extra ∨ 0<frames ∧
    (∀ req,e.request=some (.dict req) → req.DataPasses checkFrames frames) ∧
    extraFits checkFrames (frames-1) e.extra=true ∧ ∃ items,e.extra=some (.dict items)

variable {checkFrames frames n : Nat} {v v' : Value} {vs vs' : List Value} {k : Key}
  {items items' : List (Key × Value)} {e e' : Event} {req req' : Request}

/-! ## Values -/

mutual
/-- Similar values are scrubbed alike. -/
theorem Similar.scrubValue_eq (checkFrames : Nat) {v v' : Value} (h : Similar v v') (n : Nat) :
    scrubValue checkFrames n v=scrubValue checkFrames n v' := by
  cases h with
  | refl => rfl
  | dict h => simp only [scrubValue,h.scrubMapping_eq checkFrames n]
  | list h | tuple h | namedTuple h => simp only [scrubValue,h.scrubItems_eq checkFrames n]
theorem SimilarMapping.scrubMapping_eq (checkFrames : Nat) {items items' : List (Key × Value)}
    (h : SimilarMapping items items') (n : Nat) :
    scrubMapping checkFrames n items=scrubMapping checkFrames n items' := by
  cases h with
  | nil => rfl
  | sensitive hk h => simp only [scrubMapping,hk,if_true,h.scrubMapping_eq checkFrames n]
  | entry hv h =>
    simp only [scrubMapping,hv.scrubValue_eq checkFrames (n-2),h.scrubMapping_eq checkFrames n]
theorem SimilarItems.scrubItems_eq (checkFrames : Nat) {vs vs' : List Value}
    (h : SimilarItems vs vs') (n : Nat) :
    scrubItems checkFrames n vs=scrubItems checkFrames n vs' := by
  cases h with
  | nil => rfl
  | cons hv h =>
    simp only [scrubItems,hv.scrubValue_eq checkFrames (n-1),h.scrubItems_eq checkFrames n]
end

mutual
/-- Similar values without credentials are the same. -/
theorem Similar.eq_of_clean {v v' : Value} (h : Similar v v') (hclean : holdsSecret v=false) :
    v=v' := by
  cases h with
  | refl => rfl
  | dict h | list h | tuple h | namedTuple h => rw [h.eq_of_clean hclean]
theorem SimilarMapping.eq_of_clean {items items' : List (Key × Value)}
    (h : SimilarMapping items items') (hclean : mappingHoldsSecret items=false) : items=items' := by
  cases h with
  | nil => rfl
  | sensitive hk h => simp [mappingHoldsSecret,hk] at hclean
  | entry hv h =>
    simp only [mappingHoldsSecret,Bool.or_eq_false_iff] at hclean
    rw [hv.eq_of_clean hclean.1.2,h.eq_of_clean hclean.2]
theorem SimilarItems.eq_of_clean {vs vs' : List Value} (h : SimilarItems vs vs')
    (hclean : itemsHoldSecret vs=false) : vs=vs' := by
  cases h with
  | nil => rfl
  | cons hv h =>
    simp only [itemsHoldSecret,Bool.or_eq_false_iff] at hclean
    rw [hv.eq_of_clean hclean.1,h.eq_of_clean hclean.2]
end

theorem SimilarMapping.refl : ∀ items : List (Key × Value),SimilarMapping items items
  | [] => .nil
  | (_,v)::items => .entry (.refl v) (.refl items)

theorem SimilarItems.refl : ∀ vs : List Value,SimilarItems vs vs
  | [] => .nil
  | v::vs => .cons (.refl v) (.refl vs)

mutual
/-- What has credentials is similar to two different values. -/
theorem exists_variants : ∀ v : Value,holdsSecret v=true →
    ∃ v₁ v₂,Similar v v₁ ∧ Similar v v₂ ∧ v₁≠v₂
  | .str _,h => by cases h
  | .other _,h => by cases h
  | .dict items,h => by
    obtain ⟨i₁,i₂,h₁,h₂,hne⟩ := exists_mapping_variants items h
    exact ⟨_,_,.dict h₁,.dict h₂,fun heq => hne (Value.dict.inj heq)⟩
  | .list vs,h => by
    obtain ⟨i₁,i₂,h₁,h₂,hne⟩ := exists_items_variants vs h
    exact ⟨_,_,.list h₁,.list h₂,fun heq => hne (Value.list.inj heq)⟩
  | .tuple vs,h => by
    obtain ⟨i₁,i₂,h₁,h₂,hne⟩ := exists_items_variants vs h
    exact ⟨_,_,.tuple h₁,.tuple h₂,fun heq => hne (Value.tuple.inj heq)⟩
  | .namedTuple vs,h => by
    obtain ⟨i₁,i₂,h₁,h₂,hne⟩ := exists_items_variants vs h
    exact ⟨_,_,.namedTuple h₁,.namedTuple h₂,fun heq => hne (Value.namedTuple.inj heq)⟩
theorem exists_mapping_variants : ∀ items : List (Key × Value),mappingHoldsSecret items=true →
    ∃ i₁ i₂,SimilarMapping items i₁ ∧ SimilarMapping items i₂ ∧ i₁≠i₂
  | [],h => by cases h
  | (k,v)::items,h => by
    by_cases hk : k.sensitive=true
    · refine ⟨(k,.other 0)::items,(k,.other 1)::items,.sensitive hk (.refl items),
        .sensitive hk (.refl items),fun heq => ?_⟩
      simp at heq
    · simp only [mappingHoldsSecret,Bool.not_eq_true _ ▸ hk,Bool.false_or,Bool.or_eq_true] at h
      rcases h with h|h
      · obtain ⟨v₁,v₂,h₁,h₂,hne⟩ := exists_variants v h
        refine ⟨(k,v₁)::items,(k,v₂)::items,.entry h₁ (.refl items),.entry h₂ (.refl items),
          fun heq => hne ?_⟩
        simpa using heq
      · obtain ⟨i₁,i₂,h₁,h₂,hne⟩ := exists_mapping_variants items h
        exact ⟨(k,v)::i₁,(k,v)::i₂,.entry (.refl v) h₁,.entry (.refl v) h₂,
          fun heq => hne (List.tail_eq_of_cons_eq heq)⟩
theorem exists_items_variants : ∀ vs : List Value,itemsHoldSecret vs=true →
    ∃ i₁ i₂,SimilarItems vs i₁ ∧ SimilarItems vs i₂ ∧ i₁≠i₂
  | [],h => by cases h
  | v::vs,h => by
    simp only [itemsHoldSecret,Bool.or_eq_true] at h
    rcases h with h|h
    · obtain ⟨v₁,v₂,h₁,h₂,hne⟩ := exists_variants v h
      exact ⟨v₁::vs,v₂::vs,.cons h₁ (.refl vs),.cons h₂ (.refl vs),
        fun heq => hne (List.head_eq_of_cons_eq heq)⟩
    · obtain ⟨i₁,i₂,h₁,h₂,hne⟩ := exists_items_variants vs h
      exact ⟨v::i₁,v::i₂,.cons (.refl v) h₁,.cons (.refl v) h₂,
        fun heq => hne (List.tail_eq_of_cons_eq heq)⟩
end

theorem length_scrubItems (h : scrubItems checkFrames n vs=some vs') : vs'.length=vs.length := by
  induction vs generalizing vs' with
  | nil =>
    cases h
    rfl
  | cons v vs ih =>
    rw [scrubItems] at h
    obtain ⟨w,-,h⟩ := Option.bind_eq_some_iff.mp h
    obtain ⟨ws,hws,rfl⟩ := Option.map_eq_some_iff.mp h
    rw [List.length_cons,List.length_cons,ih hws]

/-- What takes frames first. -/
theorem isSome_within {α : Type} {o : Option α} {b : Bool} (h : o.isSome=b) (n needed : Nat) :
    (if n<needed then none else o).isSome=(decide (needed≤n) && b) := by
  by_cases hn : n<needed
  · simp [hn,Nat.not_le_of_lt hn]
  · simp [hn,h,Nat.le_of_not_lt hn]

/-- Two computations and what is made of their results. -/
theorem isSome_both {α β γ : Type} (o : Option α) (p : Option β) (f : α → β → γ) :
    (o.bind fun a => p.map fun b => f a b).isSome=(o.isSome && p.isSome) := by
  cases o <;> cases p <;> rfl

mutual
/-- A value is scrubbed without an exception if it fits. -/
theorem isSome_scrubValue (checkFrames : Nat) : ∀ (v : Value) (n : Nat),
    (scrubValue checkFrames n v).isSome=fits checkFrames n v
  | .str _,_ => rfl
  | .other x,n => by
    rw [scrubValue,fits,isSome_within (b:=true) rfl,Bool.and_true]
  | .dict items,n => by
    rw [scrubValue,fits]
    exact isSome_within (by rw [Option.isSome_map,isSome_scrubMapping checkFrames items n]) n _
  | .list vs,n => by
    rw [scrubValue,fits]
    exact isSome_within (by rw [Option.isSome_map,isSome_scrubItems checkFrames vs n]) n _
  | .tuple vs,n => by
    rw [scrubValue,fits]
    exact isSome_within (by rw [Option.isSome_map,isSome_scrubItems checkFrames vs n]) n _
  | .namedTuple vs,n => by
    have hitems := isSome_scrubItems checkFrames vs n
    rw [scrubValue,fits,Bool.and_assoc]
    refine isSome_within ?_ n _
    cases hscrub : scrubItems checkFrames n vs with
    | none =>
      rw [hscrub,Option.isSome_none] at hitems
      simp [← hitems]
    | some scrubbed =>
      rw [hscrub,Option.isSome_some] at hitems
      by_cases hone : vs.length=1 <;> simp [← hitems,length_scrubItems hscrub,hone]
theorem isSome_scrubMapping (checkFrames : Nat) : ∀ (items : List (Key × Value)) (n : Nat),
    (scrubMapping checkFrames n items).isSome=mappingFits checkFrames n items
  | [],_ => rfl
  | (k,v)::items,n => by
    have hvalue := isSome_scrubValue checkFrames v (n-2)
    have hitems := isSome_scrubMapping checkFrames items n
    rw [scrubMapping,mappingFits,← hvalue,← hitems]
    refine (isSome_both _ _ _).trans (congrArg (· && _) ?_)
    rcases n with _|_|n <;> cases k.sensitive <;> simp
theorem isSome_scrubItems (checkFrames : Nat) : ∀ (vs : List Value) (n : Nat),
    (scrubItems checkFrames n vs).isSome=itemsFit checkFrames n vs
  | [],_ => rfl
  | v::vs,n => by
    have hvalue := isSome_scrubValue checkFrames v (n-1)
    have hitems := isSome_scrubItems checkFrames vs n
    rw [scrubItems,itemsFit,← hvalue,← hitems]
    refine (isSome_both _ _ _).trans (congrArg (· && _) ?_)
    cases n <;> simp
end

/-! ## Regions -/

theorem isSome_callScrubValue (checkFrames n : Nat) (v : Value) :
    (callScrubValue checkFrames n v).isSome=callFits checkFrames n v := by
  unfold callScrubValue callFits
  rw [← isSome_scrubValue]
  cases n <;> simp

theorem isSome_scrubHeader (checkFrames n : Nat) (entry : Key × Value) :
    (scrubHeader checkFrames n entry).isSome=headerFits checkFrames n entry := by
  obtain ⟨k,v⟩ := entry
  unfold scrubHeader headerFits
  cases k with
  | str s =>
    rw [← isSome_callScrubValue]
    by_cases hs : isSensitiveHeader s=true <;> simp [hs]
  | bytes b => simp [← isSome_callScrubValue]
  | other x => rfl

theorem isSome_mapM {α β : Type} (f : α → Option β) (l : List α) :
    (l.mapM f).isSome=l.all fun a => (f a).isSome := by
  induction l with
  | nil => rfl
  | cons a l ih =>
    rw [List.mapM_cons,List.all_cons,← ih]
    cases f a <;> cases l.mapM f <;> rfl

theorem isSome_headersField (checkFrames n : Nat) (headers : Option Value) :
    (headersField checkFrames n headers).isSome=headersFit checkFrames n headers := by
  unfold headersField headersFit
  split
  · simp only [Option.isSome_map,isSome_mapM,isSome_scrubHeader]
  · rfl

theorem isSome_dataField (checkFrames n : Nat) (data : Option Value) :
    (dataField checkFrames n data).isSome=dataFits checkFrames n data := by
  unfold dataField dataFits
  split <;> simp only [Option.isSome_map,isSome_callScrubValue,Option.isSome_some]

theorem isSome_extraField (checkFrames n : Nat) (extra : Option Value) :
    (extraField checkFrames n extra).isSome=extraFits checkFrames n extra := by
  unfold extraField extraFits
  split <;> simp only [Option.isSome_map,isSome_callScrubValue,Option.isSome_some]

theorem Similar.callScrubValue_eq (h : Similar v v') (checkFrames n : Nat) :
    callScrubValue checkFrames n v=callScrubValue checkFrames n v' := by
  unfold callScrubValue
  rw [h.scrubValue_eq checkFrames (n-1)]

/-- Similar regions without credentials are the same. -/
theorem Clean.eq_of_rel {o o' : Option Value} (hclean : Clean o) (h : Option.Rel Similar o o') :
    o=o' := by
  cases h with
  | none => rfl
  | some h => rw [h.eq_of_clean (hclean _ rfl)]

/-- Headers of which every sensitive name is one of a header are scrubbed alike. -/
theorem SimilarMapping.headers_eq (h : SimilarMapping items items')
    (hkeys : ∀ k∈items.map Prod.fst,k.sensitive=true → ∃ s,k=.str s ∧ isSensitiveHeader s=true)
    (checkFrames n : Nat) :
    items.mapM (scrubHeader checkFrames n)=items'.mapM (scrubHeader checkFrames n) := by
  induction items generalizing items' with
  | nil =>
    cases h
    rfl
  | cons entry items ih =>
    rw [List.map_cons,List.forall_mem_cons] at hkeys
    cases h with
    | @sensitive k v v' _ items' hk h =>
      obtain ⟨s,rfl,hs⟩ := hkeys.1 hk
      simp only [List.mapM_cons,scrubHeader,hs,if_true,ih h hkeys.2]
    | @entry k v v' _ items' hv h =>
      have hentry : scrubHeader checkFrames n (k,v)=scrubHeader checkFrames n (k,v') := by
        simp only [scrubHeader,hv.callScrubValue_eq checkFrames n]
      simp only [List.mapM_cons,hentry,ih h hkeys.2]

theorem SimilarMapping.cookies_eq (h : SimilarMapping items items') :
    items.map redactEntry=items'.map redactEntry := by
  induction items generalizing items' with
  | nil =>
    cases h
    rfl
  | cons entry items ih =>
    cases h with
    | sensitive _ h | entry _ h => simp only [List.map_cons,redactEntry,ih h]

/-- What is similar to a dictionary is one. -/
theorem Similar.of_dict (h : Similar (.dict items) v') :
    ∃ items',v'=.dict items' ∧ SimilarMapping items items' := by
  cases h with
  | refl => exact ⟨items,rfl,.refl items⟩
  | dict h => exact ⟨_,rfl,h⟩

theorem Similar.of_list (h : Similar (.list vs) v') :
    ∃ vs',v'=.list vs' ∧ SimilarItems vs vs' := by
  cases h with
  | refl => exact ⟨vs,rfl,.refl vs⟩
  | list h => exact ⟨_,rfl,h⟩

section Regions

variable {o o' : Option Value}

theorem headersField_eq (h : Option.Rel Similar o o') (hcovered : Clean o ∨
      ∃ items,o=some (.dict items) ∧
        ∀ k∈items.map Prod.fst,k.sensitive=true → ∃ s,k=.str s ∧ isSensitiveHeader s=true)
    (checkFrames n : Nat) : headersField checkFrames n o=headersField checkFrames n o' := by
  rcases hcovered with hclean|⟨items,rfl,hkeys⟩
  · rw [hclean.eq_of_rel h]
  · cases h with
    | some h =>
      obtain ⟨items',rfl,hitems⟩ := h.of_dict
      simp only [headersField,hitems.headers_eq hkeys checkFrames n]

theorem cookiesField_eq (h : Option.Rel Similar o o')
    (hcovered : Clean o ∨ ∃ items,o=some (.dict items)) : cookiesField o=cookiesField o' := by
  rcases hcovered with hclean|⟨items,rfl⟩
  · rw [hclean.eq_of_rel h]
  · cases h with
    | some h =>
      obtain ⟨items',rfl,hitems⟩ := h.of_dict
      simp only [cookiesField,hitems.cookies_eq]

theorem dataField_eq (h : Option.Rel Similar o o')
    (hcovered : Clean o ∨ (∃ items,o=some (.dict items)) ∨ ∃ items,o=some (.list items))
    (checkFrames n : Nat) : dataField checkFrames n o=dataField checkFrames n o' := by
  rcases hcovered with hclean|⟨items,rfl⟩|⟨vs,rfl⟩
  · rw [hclean.eq_of_rel h]
  · cases h with
    | some h =>
      obtain ⟨items',rfl,-⟩ := h.of_dict
      simp only [dataField,h.callScrubValue_eq checkFrames n]
  · cases h with
    | some h =>
      obtain ⟨vs',rfl,-⟩ := h.of_list
      simp only [dataField,h.callScrubValue_eq checkFrames n]

theorem extraField_eq (h : Option.Rel Similar o o')
    (hcovered : Clean o ∨ ∃ items,o=some (.dict items)) (checkFrames n : Nat) :
    extraField checkFrames n o=extraField checkFrames n o' := by
  rcases hcovered with hclean|⟨items,rfl⟩
  · rw [hclean.eq_of_rel h]
  · cases h with
    | some h =>
      obtain ⟨items',rfl,-⟩ := h.of_dict
      simp only [extraField,h.callScrubValue_eq checkFrames n]

/-- Parameters none of which is sensitive. -/
theorem parameters_eq {ps ps' : List Text} (h : List.Forall₂ SimilarParameter ps ps')
    (hclean : ∀ p∈ps,∀ name value,splitOnce equalsSign p=(name,some value) →
      isSensitive name=false) : ps=ps' := by
  induction h with
  | nil => rfl
  | @cons p p' ps ps' hp _ ih =>
    rw [List.forall_mem_cons] at hclean
    have hsame : p=p' := by
      rcases hp with heq|⟨name,value,value',hp,-,hname,hsensitive⟩
      · exact heq
      · have hsplit : splitOnce equalsSign p=(name,some value) := by
          rw [hp,splitOnce_append hname]
        exact absurd (hsensitive.symm.trans (hclean.1 name value hsplit)) (by decide)
    rw [hsame,ih hclean.2]

/-- Query strings without sensitive parameters that are similar are the same. -/
theorem query_eq (h : Option.Rel SimilarQuery o o') (hclean : Clean o)
    (hparameters : CleanParameters o) : o=o' := by
  cases h with
  | none => rfl
  | @some v v' h =>
    rcases h with h|⟨text,text',rfl,rfl,hparts⟩
    · rw [h.eq_of_clean (hclean _ rfl)]
    · have hsame := parameters_eq hparts (hparameters text rfl)
      have hjoined : text=text' :=
        calc
          text=[ampersand].intercalate (text.splitOn ampersand) :=
            (List.intercalate_splitOn ampersand).symm
          _=[ampersand].intercalate (text'.splitOn ampersand) := by rw [hsame]
          _=text' := List.intercalate_splitOn ampersand
      rw [hjoined]

end Regions

/-! ## Covered events -/

/-- Where nothing is raised the next region is gone through. -/
theorem headersPass_of_some {headers : Option Value} (hframes : 0<frames)
    (h : headersField checkFrames (frames-1) req.headers=some headers) :
    req.HeadersPass checkFrames frames := by
  refine ⟨hframes,?_⟩
  rw [← isSome_headersField,h]
  rfl

theorem not_headersPass_of_none (h : headersField checkFrames (frames-1) req.headers=none) :
    ¬req.HeadersPass checkFrames frames := by
  rintro ⟨-,hfit⟩
  rw [← isSome_headersField,h] at hfit
  cases hfit

theorem not_dataPasses_of_none (h : dataField checkFrames (frames-1) req.data=none) :
    ¬req.DataPasses checkFrames frames := by
  rintro ⟨-,hfit⟩
  rw [← isSome_dataField,h] at hfit
  cases hfit

/-- A covered request that is left as it is has no credentials. -/
theorem Request.Covered.eq_of_raised (hcovered : req.Covered checkFrames frames)
    (h : req.Similar req') (hraised : ¬req.HeadersPass checkFrames frames) : req=req' := by
  have hheaders := (hcovered.headers.resolve_right fun h => hraised h.1).eq_of_rel h.headers
  have hcookies := (hcovered.cookies.resolve_right fun h => hraised h.1).eq_of_rel h.cookies
  have hdata := (hcovered.data.resolve_right fun h => hraised h.1.1).eq_of_rel h.data
  have hquery := query_eq h.queryString hcovered.queryString.1 hcovered.queryString.2
  have hrest := h.rest
  cases req
  cases req'
  simp only at hheaders hcookies hdata hquery hrest
  rw [hheaders,hcookies,hdata,hquery,hrest]

/-- A covered request is scrubbed like any similar one, and leaves the same when it raises. -/
theorem Request.Covered.scrub_eq (hcovered : req.Covered checkFrames frames)
    (h : req.Similar req') :
    scrubRequest checkFrames (frames-1) req=scrubRequest checkFrames (frames-1) req' := by
  have hheaders := headersField_eq h.headers (hcovered.headers.imp_right And.right)
    checkFrames (frames-1)
  have hcookies := cookiesField_eq h.cookies (hcovered.cookies.imp_right And.right)
  have hdata := dataField_eq h.data (hcovered.data.imp_right And.right) checkFrames (frames-1)
  have hquery := query_eq h.queryString hcovered.queryString.1 hcovered.queryString.2
  unfold scrubRequest
  rw [← hheaders]
  cases hfield : headersField checkFrames (frames-1) req.headers with
  | none => rw [hcovered.eq_of_raised h (not_headersPass_of_none hfield)]
  | some scrubbed =>
    simp only
    rw [← hcookies,← hdata,← hquery,← h.rest]
    cases hdataField : dataField checkFrames (frames-1) req.data with
    | none =>
      have hraised := not_dataPasses_of_none hdataField
      rw [(hcovered.data.resolve_right fun h => hraised h.1).eq_of_rel h.data]
    | some scrubbedData => rfl

/-- The request was gone through if it raised nothing. -/
theorem dataPasses_of_ok (hframes : 0<frames)
    (h : scrubRequest checkFrames (frames-1) req=.ok req') : req.DataPasses checkFrames frames := by
  unfold scrubRequest at h
  split at h
  · cases h
  · rename_i headers hheaders
    simp only at h
    split at h
    · cases h
    · rename_i data hdata
      refine ⟨headersPass_of_some hframes hheaders,?_⟩
      rw [← isSome_dataField,hdata]
      rfl

theorem not_dataPasses_of_error (h : scrubRequest checkFrames (frames-1) req=.error req') :
    ¬req.DataPasses checkFrames frames := by
  unfold scrubRequest at h
  split at h
  · rename_i hheaders
    exact fun hpass => not_headersPass_of_none hheaders hpass.1
  · simp only at h
    split at h
    · rename_i hdata
      exact not_dataPasses_of_none hdata
    · cases h

/-- Events with the same request are scrubbed of similar extras alike. -/
theorem scrubExtra_eq {request : Option RequestEntry} {extra extra' : Option Value}
    {rest : List (Key × Value)} (h : Option.Rel Similar extra extra')
    (hcovered : Clean extra ∨ extraFits checkFrames n extra=true ∧ ∃ items,extra=some (.dict items)) :
    scrubExtra checkFrames n ⟨request,extra,rest⟩=scrubExtra checkFrames n ⟨request,extra',rest⟩ := by
  have hfield := extraField_eq h (hcovered.imp_right And.right) checkFrames n
  unfold scrubExtra
  simp only
  rw [← hfield]
  cases hscrub : extraField checkFrames n extra with
  | none =>
    have hfits : extraFits checkFrames n extra=false := by
      rw [← isSome_extraField,hscrub]
      rfl
    have hclean := hcovered.resolve_right fun hfit =>
      Bool.false_ne_true (hfits.symm.trans hfit.1)
    simp only
    rw [hclean.eq_of_rel h]
  | some scrubbed => rfl

/-- A covered event is sent like any similar one. -/
theorem Event.Covered.beforeSend_eq (hcovered : e.Covered checkFrames frames)
    (h : e.Similar e') : beforeSend checkFrames frames e=beforeSend checkFrames frames e' := by
  obtain ⟨request,extra,rest⟩ := e
  obtain ⟨request',extra',rest'⟩ := e'
  obtain rfl : rest=rest' := h.rest
  have hextra : Option.Rel ErrorReports.Similar extra extra' := h.extra
  have hcoveredExtra := hcovered.extra
  simp only at hcoveredExtra
  unfold beforeSend
  by_cases hframes : frames=0
  · have hsame := (hcoveredExtra.resolve_right fun h => by omega).eq_of_rel hextra
    rw [if_pos hframes,if_pos hframes,hsame]
    cases h.request with
    | none => rfl
    | @some r r' hr =>
      cases r with
      | other v => rw [show RequestEntry.other v=r' from hr]
      | dict req =>
        cases r' with
        | other v => cases hr
        | dict req' =>
          have hraised : ¬req.HeadersPass checkFrames frames := fun hpass => by
            have hpos := hpass.1
            omega
          rw [(hcovered.request req rfl).eq_of_raised hr hraised]
  · rw [if_neg hframes,if_neg hframes]
    cases h.request with
    | none => exact scrubExtra_eq hextra (hcoveredExtra.imp_right fun h => h.2.2)
    | @some r r' hr =>
      cases r with
      | other v =>
        rw [← show RequestEntry.other v=r' from hr]
        exact scrubExtra_eq hextra (hcoveredExtra.imp_right fun h => h.2.2)
      | dict req =>
        cases r' with
        | other v => cases hr
        | dict req' =>
          have hscrub := (hcovered.request req rfl).scrub_eq hr
          unfold scrubEvent
          simp only
          rw [← hscrub]
          cases hresult : scrubRequest checkFrames (frames-1) req with
          | ok scrubbed => exact scrubExtra_eq hextra (hcoveredExtra.imp_right fun h => h.2.2)
          | error left =>
            have hraised := not_dataPasses_of_error hresult
            have hclean := hcoveredExtra.resolve_right fun h => hraised (h.2.1 req rfl)
            simp only
            rw [hclean.eq_of_rel hextra]

/-! ## What is sent of a request -/

/-- The request of the event that is sent. -/
def sentRequest (checkFrames frames : Nat) (req : Request) : Request :=
  if frames=0 then req
  else
    match scrubRequest checkFrames (frames-1) req with
    | .ok req' => req'
    | .error req' => req'

theorem scrubExtra_request (checkFrames n : Nat) (e : Event) :
    (scrubExtra checkFrames n e).request=e.request := by
  unfold scrubExtra
  split <;> rfl

theorem beforeSend_request (h : e.request=some (.dict req)) :
    (beforeSend checkFrames frames e).request=some (.dict (sentRequest checkFrames frames req)) := by
  unfold beforeSend sentRequest
  split
  · exact h
  · unfold scrubEvent
    simp only [h]
    cases scrubRequest checkFrames (frames-1) req with
    | ok req' => exact scrubExtra_request _ _ _
    | error req' => rfl

theorem sentRequest_raised (h : ¬req.HeadersPass checkFrames frames) :
    sentRequest checkFrames frames req=req := by
  unfold sentRequest
  split
  · rfl
  · rename_i hframes
    have hnone : headersField checkFrames (frames-1) req.headers=none := by
      rw [← Option.isSome_eq_false_iff.trans Option.isNone_iff_eq_none,isSome_headersField]
      exact Bool.eq_false_iff.mpr fun hfit => h ⟨Nat.pos_of_ne_zero hframes,hfit⟩
    unfold scrubRequest
    simp only [hnone]

/-- What is sent when the headers raise nothing. -/
theorem sentRequest_passed (h : req.HeadersPass checkFrames frames) :
    ∃ headers,headersField checkFrames (frames-1) req.headers=some headers ∧
      (sentRequest checkFrames frames req).headers=headers ∧
      (sentRequest checkFrames frames req).cookies=cookiesField req.cookies := by
  obtain ⟨hframes,hfit⟩ := h
  rw [← isSome_headersField] at hfit
  obtain ⟨headers,hheaders⟩ := Option.isSome_iff_exists.mp hfit
  refine ⟨headers,hheaders,?_⟩
  unfold sentRequest scrubRequest
  simp only [hheaders,if_neg (Nat.ne_of_gt hframes)]
  cases dataField checkFrames (frames-1) req.data with
  | none => exact ⟨rfl,rfl⟩
  | some data => exact ⟨rfl,rfl⟩

/-- What is sent behind the headers when something was raised by then. -/
theorem sentRequest_data_raised (h : ¬req.DataPasses checkFrames frames) :
    (sentRequest checkFrames frames req).data=req.data ∧
      (sentRequest checkFrames frames req).queryString=req.queryString := by
  by_cases hpass : req.HeadersPass checkFrames frames
  · obtain ⟨headers,hheaders,-⟩ := sentRequest_passed hpass
    have hnone : dataField checkFrames (frames-1) req.data=none := by
      rw [← Option.isSome_eq_false_iff.trans Option.isNone_iff_eq_none,isSome_dataField]
      exact Bool.eq_false_iff.mpr fun hfit => h ⟨hpass,hfit⟩
    unfold sentRequest scrubRequest
    simp only [hheaders,hnone,if_neg (Nat.ne_of_gt hpass.1)]
    exact ⟨trivial,trivial⟩
  · rw [sentRequest_raised hpass]
    exact ⟨rfl,rfl⟩

/-- What is sent behind the headers when nothing was raised. -/
theorem sentRequest_data_passed (h : req.DataPasses checkFrames frames) :
    ∃ data,dataField checkFrames (frames-1) req.data=some data ∧
      (sentRequest checkFrames frames req).data=data ∧
      (sentRequest checkFrames frames req).queryString=queryField req.queryString := by
  obtain ⟨hpass,hfit⟩ := h
  obtain ⟨headers,hheaders,-⟩ := sentRequest_passed hpass
  rw [← isSome_dataField] at hfit
  obtain ⟨data,hdata⟩ := Option.isSome_iff_exists.mp hfit
  refine ⟨data,hdata,?_⟩
  unfold sentRequest scrubRequest
  simp only [hheaders,hdata,if_neg (Nat.ne_of_gt hpass.1)]
  exact ⟨trivial,trivial⟩

/-! ## Uncovered credentials are sent -/

theorem rel_refl : ∀ o : Option Value,Option.Rel Similar o o
  | none => .none
  | some v => .some (.refl v)

theorem rel_query_refl : ∀ o : Option Value,Option.Rel SimilarQuery o o
  | none => .none
  | some v => .some (.inl (.refl v))

/-- What holds of a region whose every variant is sent as it is. -/
theorem clean_of_shown {α : Type} {region : Option Value} (sent : Value → α) (out : α)
    (read : α → Option Value) (hsame : ∀ v v',region=some v → Similar v v' → sent v'=out)
    (hread : ∀ v v',region=some v → holdsSecret v=true → Similar v v' → read (sent v')=some v') :
    Clean region := by
  intro v hv
  by_contra hsecret
  have hsecret : holdsSecret v=true := by simpa using hsecret
  obtain ⟨v₁,v₂,h₁,h₂,hne⟩ := exists_variants v hsecret
  have hread₁ := hread v v₁ hv hsecret h₁
  rw [hsame v v₁ hv h₁,← hsame v v₂ hv h₂,hread v v₂ hv hsecret h₂] at hread₁
  exact hne (Option.some.inj hread₁).symm

/-- What is similar to no dictionary is none. -/
theorem Similar.ne_dict (h : Similar v v') (hv : ∀ items,v≠.dict items) :
    ∀ items,v'≠.dict items := by
  rintro items rfl
  cases h with
  | refl => exact hv items rfl
  | dict h => exact hv _ rfl

theorem Similar.ne_list (h : Similar v v') (hv : ∀ items,v≠.list items) :
    ∀ items,v'≠.list items := by
  rintro items rfl
  cases h with
  | refl => exact hv items rfl
  | list h => exact hv _ rfl

theorem Similar.ne_str (h : Similar v v') (hv : ∀ text,v≠.str text) : ∀ text,v'≠.str text := by
  rintro text rfl
  cases h with
  | refl => exact hv text rfl

theorem headersField_of_ne (h : ∀ items,v≠.dict items) :
    headersField checkFrames n (some v)=some (some v) := by
  cases v with
  | dict items => exact absurd rfl (h items)
  | _ => rfl

theorem cookiesField_of_ne (h : ∀ items,v≠.dict items) : cookiesField (some v)=some v := by
  cases v with
  | dict items => exact absurd rfl (h items)
  | _ => rfl

theorem dataField_of_ne (h : ∀ items,v≠.dict items) (h' : ∀ items,v≠.list items)
    (checkFrames n : Nat) :
    dataField checkFrames n (some v)=some (some v) := by
  cases v with
  | dict items => exact absurd rfl (h items)
  | list items => exact absurd rfl (h' items)
  | _ => rfl

theorem queryField_of_ne (h : ∀ text,v≠.str text) : queryField (some v)=some v := by
  cases v with
  | str text => exact absurd rfl (h text)
  | _ => rfl

theorem extraField_of_ne (h : ∀ items,v≠.dict items) :
    extraField checkFrames n (some v)=some (some v) := by
  cases v with
  | dict items => exact absurd rfl (h items)
  | _ => rfl

/-- Mappings that differ under one sensitive key. -/
theorem SimilarMapping.at_key (hk : k.sensitive=true) (before after : List (Key × Value))
    (v v' : Value) : SimilarMapping (before++(k,v)::after) (before++(k,v')::after) := by
  induction before with
  | nil => exact .sensitive hk (.refl after)
  | cons entry before ih => exact .entry (.refl entry.2) ih

/-- The headers around one whose name is not sensitive are scrubbed, or raise,
whatever it is. -/
theorem headers_around {s : Text} (hs : isSensitiveHeader s=false)
    (before after : List (Key × Value)) (checkFrames n : Nat) :
    (∀ x,(before++(.str s,.other x)::after).mapM (scrubHeader checkFrames n)=none) ∨
      ∃ before' after',∀ x,(before++(.str s,.other x)::after).mapM (scrubHeader checkFrames n)=
        some (before'++(.str s,.other x)::after') := by
  have hentry (x : Nat) : scrubHeader checkFrames n (.str s,.other x)=
      if n=0 ∨ n-1<checkFrames then none else some (.str s,.other x) := by
    by_cases h0 : n=0 <;> by_cases h1 : n-1<checkFrames <;>
      simp [scrubHeader,callScrubValue,scrubValue,hs,h0,h1]
  simp only [List.mapM_append,List.mapM_cons,hentry]
  cases before.mapM (scrubHeader checkFrames n) with
  | none => exact .inl fun x => rfl
  | some before' =>
    by_cases hcall : n=0 ∨ n-1<checkFrames
    · exact .inl fun x => by simp [hcall]
    · cases after.mapM (scrubHeader checkFrames n) with
      | none => exact .inl fun x => by simp [hcall]
      | some after' => exact .inr ⟨before',after',fun x => by simp [hcall]⟩

/-- A header whose name is not one of the sensitive ones is sent. -/
theorem exists_sent_header {s : Text} (hs : isSensitiveHeader s=false)
    (before after : List (Key × Value)) (req : Request) (checkFrames frames : Nat) :
    ∃ before' after',∀ x,(sentRequest checkFrames frames
      {req with headers := some (.dict (before++(.str s,.other x)::after))}).headers=
        some (.dict (before'++(.str s,.other x)::after')) := by
  by_cases hframes : frames=0
  · refine ⟨before,after,fun x => ?_⟩
    rw [sentRequest_raised fun h => (Nat.ne_of_gt h.1) hframes]
  rcases headers_around hs before after checkFrames (frames-1) with hnone|⟨before',after',hsome⟩
  · refine ⟨before,after,fun x => ?_⟩
    rw [sentRequest_raised (not_headersPass_of_none (by simp only [headersField,hnone]; rfl))]
  · refine ⟨before',after',fun x => ?_⟩
    have hfield : headersField checkFrames (frames-1)
        (some (.dict (before++(.str s,.other x)::after)))=
          some (some (.dict (before'++(.str s,.other x)::after'))) := by
      simp only [headersField,hsome,Option.map_some]
    have hpass : Request.HeadersPass checkFrames frames
        {req with headers := some (.dict (before++(.str s,.other x)::after))} :=
      headersPass_of_some (Nat.pos_of_ne_zero hframes) hfield
    obtain ⟨headers,hheaders,hsent,-⟩ := sentRequest_passed hpass
    rw [hsent,← Option.some.inj (hfield.symm.trans hheaders)]

section Uncovered

variable (hsent : ∀ req',req.Similar req' →
  sentRequest checkFrames frames req=sentRequest checkFrames frames req')

include hsent

/-- Every key of the headers that is sensitive is the name of a sensitive header. -/
theorem header_keys_of_sent (hdict : req.headers=some (.dict items)) :
    ∀ k∈items.map Prod.fst,k.sensitive=true → ∃ s,k=.str s ∧ isSensitiveHeader s=true := by
  intro k hk hsensitive
  cases k with
  | bytes b => cases hsensitive
  | other x => cases hsensitive
  | str s =>
    refine ⟨s,rfl,?_⟩
    by_contra hs
    have hs : isSensitiveHeader s=false := by simpa using hs
    obtain ⟨⟨k,v⟩,hentry,rfl⟩ := List.mem_map.mp hk
    obtain ⟨before,after,rfl⟩ := List.append_of_mem hentry
    obtain ⟨before',after',hshown⟩ := exists_sent_header hs before after req checkFrames frames
    have hsimilar (x : Nat) : req.Similar
        {req with headers := some (.dict (before++(.str s,.other x)::after))} := by
      refine ⟨?_,rel_refl _,rel_refl _,rel_query_refl _,rfl⟩
      rw [hdict]
      exact .some (.dict (.at_key hsensitive before after v _))
    have hheaders (x : Nat) := (congrArg Request.headers (hsent _ (hsimilar x))).trans (hshown x)
    have hboth := (hheaders 0).symm.trans (hheaders 1)
    simp at hboth

theorem headers_of_sent : Clean req.headers ∨ req.HeadersPass checkFrames frames ∧
    ∃ items,req.headers=some (.dict items) ∧
      ∀ k∈items.map Prod.fst,k.sensitive=true → ∃ s,k=.str s ∧ isSensitiveHeader s=true := by
  by_cases hcovered : req.HeadersPass checkFrames frames ∧ ∃ items,req.headers=some (.dict items)
  · obtain ⟨hpass,items,hdict⟩ := hcovered
    exact .inr ⟨hpass,items,hdict,header_keys_of_sent hsent hdict⟩
  · refine .inl (clean_of_shown (fun v => sentRequest checkFrames frames {req with headers := some v})
      (sentRequest checkFrames frames req) Request.headers ?_ ?_)
    · intro v v' hv h
      refine (hsent {req with headers := some v'}
        ⟨?_,rel_refl _,rel_refl _,rel_query_refl _,rfl⟩).symm
      rw [hv]
      exact .some h
    · intro v v' hv _ h
      by_cases hpass : Request.HeadersPass checkFrames frames {req with headers := some v'}
      · obtain ⟨headers,hheaders,hshown,-⟩ := sentRequest_passed hpass
        rw [hshown]
        by_cases hdict : ∃ items,v=.dict items
        · -- The same is scrubbed of the headers as they are, which therefore pass too.
          obtain ⟨items,rfl⟩ := hdict
          have hkeys := header_keys_of_sent hsent hv
          have hsame := headersField_eq (.some h) (.inr ⟨items,rfl,hkeys⟩) checkFrames (frames-1)
          rw [← hv] at hsame
          exact absurd ⟨headersPass_of_some hpass.1 (hsame.trans hheaders),items,hv⟩ hcovered
        · have hne := h.ne_dict (not_exists.mp hdict)
          exact (Option.some.inj ((headersField_of_ne hne).symm.trans hheaders)).symm
      · rw [sentRequest_raised hpass]

theorem cookies_of_sent : Clean req.cookies ∨ req.HeadersPass checkFrames frames ∧
    ∃ items,req.cookies=some (.dict items) := by
  by_cases hcovered : req.HeadersPass checkFrames frames ∧ ∃ items,req.cookies=some (.dict items)
  · exact .inr hcovered
  · refine .inl (clean_of_shown (fun v => sentRequest checkFrames frames {req with cookies := some v})
      (sentRequest checkFrames frames req) Request.cookies ?_ ?_)
    · intro v v' hv h
      refine (hsent {req with cookies := some v'}
        ⟨rel_refl _,?_,rel_refl _,rel_query_refl _,rfl⟩).symm
      rw [hv]
      exact .some h
    · intro v v' hv _ h
      by_cases hpass : req.HeadersPass checkFrames frames
      · have hput : Request.HeadersPass checkFrames frames {req with cookies := some v'} := hpass
        obtain ⟨headers,-,-,hshown⟩ := sentRequest_passed hput
        have hne : ∀ items,v≠.dict items := fun items hdict => hcovered ⟨hpass,items,hdict ▸ hv⟩
        exact hshown.trans (cookiesField_of_ne (h.ne_dict hne))
      · have hput : ¬Request.HeadersPass checkFrames frames {req with cookies := some v'} := hpass
        rw [sentRequest_raised hput]

theorem data_of_sent : Clean req.data ∨ req.DataPasses checkFrames frames ∧
    ((∃ items,req.data=some (.dict items)) ∨ ∃ items,req.data=some (.list items)) := by
  by_cases hcovered : req.DataPasses checkFrames frames ∧
      ((∃ items,req.data=some (.dict items)) ∨ ∃ items,req.data=some (.list items))
  · exact .inr hcovered
  · refine .inl (clean_of_shown (fun v => sentRequest checkFrames frames {req with data := some v})
      (sentRequest checkFrames frames req) Request.data ?_ ?_)
    · intro v v' hv h
      refine (hsent {req with data := some v'}
        ⟨rel_refl _,rel_refl _,?_,rel_query_refl _,rfl⟩).symm
      rw [hv]
      exact .some h
    · intro v v' hv _ h
      by_cases hpass : Request.DataPasses checkFrames frames {req with data := some v'}
      · obtain ⟨data,hdata,hshown,-⟩ := sentRequest_data_passed hpass
        rw [hshown]
        by_cases hscrubbed : (∃ items,req.data=some (.dict items)) ∨ ∃ items,req.data=some (.list items)
        · have hsame := dataField_eq (.some h : Option.Rel Similar (some v) (some v'))
            (.inr (hv ▸ hscrubbed)) checkFrames (frames-1)
          rw [← hv] at hsame
          have hfit : dataFits checkFrames (frames-1) req.data=true := by
            rw [← isSome_dataField,hsame,hdata]
            rfl
          exact absurd ⟨⟨hpass.1,hfit⟩,hscrubbed⟩ hcovered
        · have hdict : ∀ items,v≠.dict items := fun items heq => hscrubbed (.inl ⟨items,heq ▸ hv⟩)
          have hlist : ∀ items,v≠.list items := fun items heq => hscrubbed (.inr ⟨items,heq ▸ hv⟩)
          have hfield := dataField_of_ne (h.ne_dict hdict) (h.ne_list hlist) checkFrames (frames-1)
          exact (Option.some.inj (hfield.symm.trans hdata)).symm
      · exact (sentRequest_data_raised hpass).1

theorem query_of_sent : Clean req.queryString := by
  refine clean_of_shown (fun v => sentRequest checkFrames frames {req with queryString := some v})
    (sentRequest checkFrames frames req) Request.queryString ?_ ?_
  · intro v v' hv h
    refine (hsent {req with queryString := some v'}
      ⟨rel_refl _,rel_refl _,rel_refl _,?_,rfl⟩).symm
    rw [hv]
    exact .some (.inl h)
  · intro v v' hv hsecret h
    have hne : ∀ text,v≠.str text := by
      rintro text rfl
      cases hsecret
    by_cases hpass : Request.DataPasses checkFrames frames {req with queryString := some v'}
    · obtain ⟨data,-,-,hshown⟩ := sentRequest_data_passed hpass
      exact hshown.trans (queryField_of_ne (h.ne_str hne))
    · exact (sentRequest_data_raised hpass).2

/-- The value of a parameter is sent, whether or not the query string is searched for JWTs. -/
theorem parameters_of_sent : CleanParameters req.queryString := by
  intro text htext p hp name value hsplit
  by_contra hsensitive
  have hsensitive : isSensitive name=true := by simpa using hsensitive
  obtain ⟨rfl,hname⟩ := splitOnce_eq hsplit
  obtain ⟨before,after,hparts⟩ := List.append_of_mem hp
  have hfree : ∀ q∈before++(name++equalsSign::value)::after,ampersand∉q := fun q hq =>
    notMem_of_mem_splitOn (hparts ▸ hq)
  obtain ⟨pre,post,haround⟩ := @intercalate_around ampersand before after
  -- The text with another value of the parameter.
  have hsimilar (x : Text) (hx : ampersand∉x) : req.Similar
      {req with queryString := some (.str (pre++((name++equalsSign::x)++post)))} := by
    refine ⟨rel_refl _,rel_refl _,rel_refl _,?_,rfl⟩
    rw [htext]
    refine .some (.inr ⟨_,_,rfl,rfl,?_⟩)
    have hfree' : ∀ q∈before++(name++equalsSign::x)::after,ampersand∉q := by
      intro q hq
      rcases List.mem_append.mp hq with hq|hq
      · exact hfree q (List.mem_append_left _ hq)
      · rcases List.mem_cons.mp hq with rfl|hq
        · have hold := hfree (name++equalsSign::value) (by simp)
          simp only [List.mem_append,List.mem_cons,not_or] at hold ⊢
          exact ⟨hold.1,hold.2.1,hx⟩
        · exact hfree q (by simp [hq])
    rw [← haround,List.splitOn_intercalate ampersand hfree' (by simp),hparts]
    refine List.rel_append (List.forall₂_same.mpr fun q _ => .inl rfl) ?_
    exact .cons (.inr ⟨name,value,x,rfl,rfl,hname,hsensitive⟩)
      (List.forall₂_same.mpr fun q _ => .inl rfl)
  have hempty := hsent _ (hsimilar [] List.not_mem_nil)
  have hletter := hsent _ (hsimilar [0x61] (by decide))
  have hsame := congrArg Request.queryString (hempty.symm.trans hletter)
  by_cases hpass : req.DataPasses checkFrames frames
  · have hshown (x : Text) : (sentRequest checkFrames frames
        {req with queryString := some (.str (pre++((name++equalsSign::x)++post)))}).queryString=
          some (.str (scrubJwts (pre++name)++equalsSign::scrubJwts (x++post))) := by
      have hput : Request.DataPasses checkFrames frames
          {req with queryString := some (.str (pre++((name++equalsSign::x)++post)))} := hpass
      obtain ⟨data,-,-,hquery⟩ := sentRequest_data_passed hput
      rw [hquery,← scrubJwts_append (by decide) (by decide)]
      simp [queryField]
    rw [hshown,hshown,List.cons_append,scrubJwts_cons (by decide)] at hsame
    simp at hsame
  · have hshown (x : Text) : (sentRequest checkFrames frames
        {req with queryString := some (.str (pre++((name++equalsSign::x)++post)))}).queryString=
          some (.str (pre++((name++equalsSign::x)++post))) :=
      (sentRequest_data_raised (show ¬Request.DataPasses checkFrames frames
        {req with queryString := some (.str (pre++((name++equalsSign::x)++post)))} from hpass)).2
    rw [hshown,hshown] at hsame
    simp at hsame

/-- A request of which every similar one is sent alike is covered. -/
theorem covered_of_sent : req.Covered checkFrames frames where
  headers := headers_of_sent hsent
  cookies := cookies_of_sent hsent
  data := data_of_sent hsent
  queryString := ⟨query_of_sent hsent,parameters_of_sent hsent⟩

end Uncovered

theorem scrubExtra_extra (checkFrames n : Nat) (e : Event) :
    (scrubExtra checkFrames n e).extra=(extraField checkFrames n e.extra).getD e.extra := by
  unfold scrubExtra
  cases extraField checkFrames n e.extra <;> rfl

/-- The extra is looked at if nothing was raised at the request. -/
theorem beforeSend_extra_passed (hframes : 0<frames)
    (hpass : ∀ req,e.request=some (.dict req) → req.DataPasses checkFrames frames) :
    (beforeSend checkFrames frames e).extra=
      (extraField checkFrames (frames-1) e.extra).getD e.extra := by
  unfold beforeSend
  rw [if_neg (Nat.ne_of_gt hframes)]
  unfold scrubEvent
  split
  · rename_i req hreq
    cases hscrub : scrubRequest checkFrames (frames-1) req with
    | error req' => exact absurd (hpass req hreq) (not_dataPasses_of_error hscrub)
    | ok req' => exact scrubExtra_extra _ _ _
  · exact scrubExtra_extra _ _ _

theorem beforeSend_extra_raised (h : ¬(0<frames ∧
      ∀ req,e.request=some (.dict req) → req.DataPasses checkFrames frames)) :
    (beforeSend checkFrames frames e).extra=e.extra := by
  unfold beforeSend
  split
  · rfl
  · rename_i hframes
    have hpos := Nat.pos_of_ne_zero hframes
    unfold scrubEvent
    split
    · rename_i req hreq
      cases hscrub : scrubRequest checkFrames (frames-1) req with
      | error req' => rfl
      | ok req' =>
        refine absurd ⟨hpos,fun req'' hreq'' => ?_⟩ h
        obtain rfl : req=req'' := by
          rw [hreq] at hreq''
          injection hreq'' with hentry
          injection hentry
        exact dataPasses_of_ok hpos hscrub
    · rename_i hnone
      exact absurd ⟨hpos,fun req hreq => absurd hreq (hnone req)⟩ h

theorem extra_of_sent
    (hsent : ∀ e',e.Similar e' → beforeSend checkFrames frames e=beforeSend checkFrames frames e')
    (hrequest : Option.Rel RequestEntry.Similar e.request e.request) :
    Clean e.extra ∨ 0<frames ∧
      (∀ req,e.request=some (.dict req) → req.DataPasses checkFrames frames) ∧
      extraFits checkFrames (frames-1) e.extra=true ∧ ∃ items,e.extra=some (.dict items) := by
  by_cases hcovered : 0<frames ∧
      (∀ req,e.request=some (.dict req) → req.DataPasses checkFrames frames) ∧
      extraFits checkFrames (frames-1) e.extra=true ∧ ∃ items,e.extra=some (.dict items)
  · exact .inr hcovered
  · refine .inl (clean_of_shown (fun v => beforeSend checkFrames frames {e with extra := some v})
      (beforeSend checkFrames frames e) Event.extra ?_ ?_)
    · intro v v' hv h
      refine (hsent {e with extra := some v'} ⟨hrequest,?_,rfl⟩).symm
      rw [hv]
      exact .some h
    · intro v v' hv _ h
      by_cases hpass : 0<frames ∧
          ∀ req,e.request=some (.dict req) → req.DataPasses checkFrames frames
      · have hshown : (beforeSend checkFrames frames {e with extra := some v'}).extra=
            (extraField checkFrames (frames-1) (some v')).getD (some v') :=
          beforeSend_extra_passed hpass.1 hpass.2
        rw [hshown]
        by_cases hdict : ∃ items,v=.dict items
        · obtain ⟨items,rfl⟩ := hdict
          have hsame := extraField_eq (.some h) (.inr ⟨items,rfl⟩) checkFrames (frames-1)
          have hraised : (extraField checkFrames (frames-1) (some v')).isSome=false := by
            rw [← hsame,← hv,isSome_extraField]
            exact Bool.eq_false_iff.mpr fun hfit => hcovered ⟨hpass.1,hpass.2,hfit,items,hv⟩
          rw [Option.isNone_iff_eq_none.mp (Option.isSome_eq_false_iff.mp hraised)]
          rfl
        · rw [extraField_of_ne (h.ne_dict (not_exists.mp hdict))]
          rfl
      · exact beforeSend_extra_raised (e:={e with extra := some v'}) hpass

/-- An event is sent like every similar one, whatever the credentials are, if and
only if its shape covers them. -/
theorem credentials_unsent_iff :
    (∀ e',e.Similar e' → beforeSend checkFrames frames e=beforeSend checkFrames frames e') ↔
      e.Covered checkFrames frames := by
  refine ⟨fun hsent => ⟨fun req hreq => covered_of_sent fun req' h => ?_,extra_of_sent hsent ?_⟩,
    fun hcovered e' h => hcovered.beforeSend_eq h⟩
  · have hsimilar : e.Similar {e with request := some (.dict req')} := by
      refine ⟨?_,rel_refl _,rfl⟩
      rw [hreq]
      exact .some h
    have hrequests := congrArg Event.request (hsent _ hsimilar)
    rw [beforeSend_request hreq,beforeSend_request rfl] at hrequests
    injection hrequests with hentries
    injection hentries
  · cases e.request with
    | none => exact .none
    | some entry =>
      refine .some ?_
      cases entry with
      | dict req => exact ⟨rel_refl _,rel_refl _,rel_refl _,rel_query_refl _,rfl⟩
      | other v => exact rfl

/-- An event with two headers, the second of them a credential. -/
def twoHeaders (key : Key) (name secret : Text) : Event :=
  {request := some (.dict
    {headers := some (.dict [(key,.str (codePoints "text/html")),(.str name,.str secret)])})}

theorem twoHeaders_similar (key : Key) {name : Text} (hname : isSensitive name=true)
    (secret secret' : Text) : (twoHeaders key name secret).Similar (twoHeaders key name secret') where
  request := .some ⟨.some (.dict (.entry (.refl _) (.sensitive hname .nil))),
    rel_refl _,rel_refl _,rel_query_refl _,rfl⟩
  extra := rel_refl _
  rest := rfl

/-- A key without `lower` leaves the event as it is. -/
theorem twoHeaders_raises (x : Nat) (name secret : Text) :
    beforeSend 2 900 (twoHeaders (.other x) name secret)=twoHeaders (.other x) name secret := by
  simp [beforeSend,scrubEvent,scrubRequest,headersField,scrubHeader,twoHeaders]

/-- A header that is sensitive by the pattern only is scrubbed of JWTs only. -/
theorem twoHeaders_sent {s name : Text} (hs : isSensitiveHeader s=false)
    (hname : isSensitiveHeader name=false) (secret : Text) :
    (beforeSend 2 900 (twoHeaders (.str s) name secret)).request=
      some (.dict {headers := some (.dict
        [(.str s,.str (scrubJwts (codePoints "text/html"))),(.str name,.str (scrubJwts secret))])}) := by
  simp [beforeSend,scrubEvent,scrubRequest,scrubExtra,headersField,scrubHeader,callScrubValue,
    scrubValue,twoHeaders,hs,hname,dataField,extraField,queryField,cookiesField]

/-- An authorization is sent when another key has no `lower`, and a token is sent
when the name of its header is sensitive only by the pattern. -/
theorem header_credentials_sent :
    ((twoHeaders (.other 1) (codePoints "authorization") (codePoints "Bearer one")).Similar
        (twoHeaders (.other 1) (codePoints "authorization") (codePoints "Bearer two")) ∧
      beforeSend 2 900
          (twoHeaders (.other 1) (codePoints "authorization") (codePoints "Bearer one"))≠
        beforeSend 2 900
          (twoHeaders (.other 1) (codePoints "authorization") (codePoints "Bearer two"))) ∧
    (twoHeaders (.str (codePoints "accept")) (codePoints "x-auth-token") (codePoints "one")).Similar
        (twoHeaders (.str (codePoints "accept")) (codePoints "x-auth-token") (codePoints "two")) ∧
      beforeSend 2 900
          (twoHeaders (.str (codePoints "accept")) (codePoints "x-auth-token") (codePoints "one"))≠
        beforeSend 2 900
          (twoHeaders (.str (codePoints "accept")) (codePoints "x-auth-token") (codePoints "two")) := by
  have hauthorization : isSensitive (codePoints "authorization")=true := by decide +kernel
  have htoken : isSensitive (codePoints "x-auth-token")=true := by decide +kernel
  have haccept : isSensitiveHeader (codePoints "accept")=false := by decide +kernel
  have hpattern : isSensitiveHeader (codePoints "x-auth-token")=false := by decide +kernel
  refine ⟨⟨twoHeaders_similar _ hauthorization _ _,fun hsame => ?_⟩,
    twoHeaders_similar _ htoken _ _,fun hsame => ?_⟩
  · rw [twoHeaders_raises,twoHeaders_raises] at hsame
    have hsecrets : codePoints "Bearer one"=codePoints "Bearer two" := by
      simpa [twoHeaders] using hsame
    exact absurd hsecrets (by decide +kernel)
  · have hrequests := congrArg Event.request hsame
    rw [twoHeaders_sent haccept hpattern,twoHeaders_sent haccept hpattern] at hrequests
    have hsecrets : scrubJwts (codePoints "one")=scrubJwts (codePoints "two") := by
      simpa using hrequests
    exact absurd hsecrets (by decide +kernel)

end Voyagent.ErrorReports
