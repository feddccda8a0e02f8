import Voyagent.CalendarDates
import Voyagent.Decimals
import Voyagent.OrchestratorTurn

/-!
# Fields of the canonical models

The text types the canonical models share and how a field is read from the
value given for it. The models trim every text before they match its pattern
and forbid members they do not declare.
-/

namespace Voyagent.CanonicalFields

open RuntimeValues KeyedMap TrimmedText CalendarDates Decimals
open OrchestratorTurn (isHexDigit hexDigit_not_whiteSpace)

/-! ## Patterns -/

/-- The character at a position of an `EntityId`. -/
def entityIdChar (i : Nat) (c : Char) : Bool :=
  if i=8 ∨ i=13 ∨ i=18 ∨ i=23 then c== '-'
  else if i=14 then c== '7'
  else if i=19 then c== '8' || c== '9' || c== 'a' || c== 'b'
  else isHexDigit c

/-- The pattern of `EntityId`: a hyphenated version 7 UUID in lower case. -/
def isEntityId (s : String) : Bool :=
  s.toList.length==36 && s.toList.zipIdx.all fun e => entityIdChar e.2 e.1

def isUpper (c : Char) : Bool := 65≤c.toNat && c.toNat≤90

def isLower (c : Char) : Bool := 97≤c.toNat && c.toNat≤122

/-- The pattern of `CurrencyCode`. -/
def isCurrencyCode (s : String) : Bool := s.toList.length==3 && s.toList.all isUpper

/-- The pattern of `CountryCode`. -/
def isCountryCode (s : String) : Bool := s.toList.length==2 && s.toList.all isUpper

/-- The region of a language tag: an upper-case letter and one to three letters. -/
def isRegion : List Char → Bool
  | c::cs =>
    isUpper c && 1≤cs.length && cs.length≤3 && cs.all fun d => isUpper d || isLower d
  | [] => false

/-- The pattern of `LanguageCode`. -/
def isLanguageCode (s : String) : Bool :=
  let language := s.toList.takeWhile isLower
  let rest := s.toList.dropWhile isLower
  2≤language.length && language.length≤3 &&
    match rest with
    | [] => true
    | c::region => c== '-' && isRegion region

/-! ## Reading a field -/

/-- A `str` field. -/
def text : Json → Option String
  | .str s => some (stripWhitespace s)
  | _ => none

/-- A `str` field with a pattern. -/
def patterned (pattern : String → Bool) (value : Json) : Option String :=
  (text value).filter pattern

def entityId : Json → Option EntityId := patterned isEntityId

/-- A field of type `T | None` that defaults to `None`. -/
def nullable {α : Type} (parse : Json → Option α) : Option Json → Option (Option α)
  | none => some none
  | some .null => some none
  | some value => (parse value).map some

/-- A field with a default. -/
def defaulted {α : Type} (parse : Json → Option α) (default : α) : Option Json → Option α
  | none => some default
  | some value => parse value

/-- A list field. -/
def items {α : Type} (parse : Json → Option α) : Json → Option (List α)
  | .arr values => values.mapM parse
  | _ => none

/-- A field of type `dict[str, T]` whose keys match a pattern. -/
def members {α : Type} (key : String → Option String) (parse : Json → Option α) :
    Json → Option (Table String α)
  | .obj fields => do
    let pairs ← fields.mapM fun e => do
      let k ← key e.1
      let v ← parse e.2
      return (k,v)
    return ofPairs pairs
  | _ => none

/-- The members of a model that forbids others. -/
def model (keys : List String) : Json → Option Dict
  | .obj fields => if fields.all (fun e => keys.contains e.1) then some fields else none
  | _ => none

/-! ## Identifiers are bare -/

theorem entityIdChar_not_whiteSpace {i : Nat} {c : Char} (h : entityIdChar i c=true) :
    isWhiteSpace c=false := by
  unfold entityIdChar at h
  split_ifs at h with hdash hversion hvariant
  · have hc : c = '-' := by simpa using h
    rw [hc]
    decide
  · have hc : c = '7' := by simpa using h
    rw [hc]
    decide
  · simp only [Bool.or_eq_true,beq_iff_eq] at h
    rcases h with ((rfl|rfl)|rfl)|rfl <;> decide
  · exact hexDigit_not_whiteSpace h

/-- No character of an identifier is a blank. -/
theorem entityId_not_whiteSpace {s : String} (h : isEntityId s=true) :
    ∀ c∈s.toList,isWhiteSpace c=false := by
  unfold isEntityId at h
  have hall := (Bool.and_eq_true_iff.mp h).2
  intro c hc
  obtain ⟨i,hi,hget⟩ := List.mem_iff_getElem.mp hc
  have hmem : (c,i)∈s.toList.zipIdx := by
    rw [List.mem_zipIdx_iff_getElem?,List.getElem?_eq_getElem hi,hget]
  exact entityIdChar_not_whiteSpace (List.all_eq_true.mp hall (c,i) hmem)

/-- Trimming leaves an identifier as it is. -/
theorem strip_entityId {s : String} (h : isEntityId s=true) : stripWhitespace s=s := by
  have hchars := entityId_not_whiteSpace h
  refine trimBy_eq_self_iff.mpr fun c hc => ?_
  rcases hc with hc|hc
  · exact hchars c (List.mem_of_head? hc)
  · exact hchars c (List.mem_of_getLast? hc)

theorem upper_not_whiteSpace {c : Char} (h : isUpper c=true) : isWhiteSpace c=false := by
  simp only [isUpper,Bool.and_eq_true,decide_eq_true_eq] at h
  simp only [isWhiteSpace,Bool.or_eq_false_iff,Bool.and_eq_false_iff,decide_eq_false_iff_not,
    beq_eq_false_iff_ne]
  omega

/-- Trimming leaves a currency code as it is. -/
theorem strip_currencyCode {s : String} (h : isCurrencyCode s=true) : stripWhitespace s=s := by
  unfold isCurrencyCode at h
  have hall := List.all_eq_true.mp (Bool.and_eq_true_iff.mp h).2
  have hchars : ∀ c∈s.toList,isWhiteSpace c=false := fun c hc => upper_not_whiteSpace (hall c hc)
  refine trimBy_eq_self_iff.mpr fun c hc => ?_
  rcases hc with hc|hc
  · exact hchars c (List.mem_of_head? hc)
  · exact hchars c (List.mem_of_getLast? hc)

/-- A text field is its text without blanks at the ends, if that matches. -/
theorem patterned_eq_some {p : String → Bool} {s t : String} :
    patterned p (.str s)=some t ↔ p (stripWhitespace s)=true ∧ t=stripWhitespace s := by
  unfold patterned text
  rw [Option.filter_eq_some_iff,Option.some.injEq]
  constructor
  · rintro ⟨rfl,h⟩
    exact ⟨h,rfl⟩
  · rintro ⟨h,rfl⟩
    exact ⟨rfl,h⟩

theorem currencyCode_of_valid {s : String} (h : isCurrencyCode s=true) :
    patterned isCurrencyCode (.str s)=some s := by
  simp only [patterned,text,strip_currencyCode h,Option.filter_some,h,if_true]

theorem entityId_of_valid {s : String} (h : isEntityId s=true) : entityId (.str s)=some s := by
  simp only [entityId,patterned,text,strip_entityId h,Option.filter_some,h,if_true]

end Voyagent.CanonicalFields
