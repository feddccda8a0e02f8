import Voyagent.KeyedMap
import Voyagent.TrimmedText

/-!
# Values shared by every part of the runtime

JSON values, string-keyed dictionaries, exceptions as seen by an `except`
clause, and the two whitespace rules in play: the validation models trim by
the Unicode `White_Space` property, `str.strip` by Python's own table.
-/

namespace Voyagent.RuntimeValues

open KeyedMap TrimmedText

/-- A JSON value; integers and floats are kept apart as Python keeps them. -/
inductive Json where
  | null
  | bool (b : Bool)
  | int (n : Int)
  | float (q : Rat)
  | str (s : String)
  | arr (items : List Json)
  | obj (fields : List (String × Json))

mutual
/-- Structural equality test on JSON values. -/
def Json.decEq : (a b : Json) → Decidable (a=b)
  | .null,.null => isTrue rfl
  | .bool a,.bool b => decidable_of_iff (a=b) (by simp)
  | .int a,.int b => decidable_of_iff (a=b) (by simp)
  | .float a,.float b => decidable_of_iff (a=b) (by simp)
  | .str a,.str b => decidable_of_iff (a=b) (by simp)
  | .arr a,.arr b =>
    match Json.decEqList a b with
    | isTrue h => isTrue (h ▸ rfl)
    | isFalse h => isFalse fun e => by cases e; exact h rfl
  | .obj a,.obj b =>
    match Json.decEqFields a b with
    | isTrue h => isTrue (h ▸ rfl)
    | isFalse h => isFalse fun e => by cases e; exact h rfl
  | .null,.bool _ | .null,.int _ | .null,.float _ | .null,.str _ | .null,.arr _ | .null,.obj _
  | .bool _,.null | .bool _,.int _ | .bool _,.float _ | .bool _,.str _ | .bool _,.arr _
  | .bool _,.obj _
  | .int _,.null | .int _,.bool _ | .int _,.float _ | .int _,.str _ | .int _,.arr _ | .int _,.obj _
  | .float _,.null | .float _,.bool _ | .float _,.int _ | .float _,.str _ | .float _,.arr _
  | .float _,.obj _
  | .str _,.null | .str _,.bool _ | .str _,.int _ | .str _,.float _ | .str _,.arr _ | .str _,.obj _
  | .arr _,.null | .arr _,.bool _ | .arr _,.int _ | .arr _,.float _ | .arr _,.str _ | .arr _,.obj _
  | .obj _,.null | .obj _,.bool _ | .obj _,.int _ | .obj _,.float _ | .obj _,.str _
  | .obj _,.arr _ => isFalse nofun
/-- The same test on arrays. -/
def Json.decEqList : (a b : List Json) → Decidable (a=b)
  | [],[] => isTrue rfl
  | [],_::_ => isFalse nofun
  | _::_,[] => isFalse nofun
  | a::as,b::bs =>
    match Json.decEq a b,Json.decEqList as bs with
    | isTrue h,isTrue k => isTrue (h ▸ k ▸ rfl)
    | isFalse h,_ => isFalse fun e => by cases e; exact h rfl
    | _,isFalse h => isFalse fun e => by cases e; exact h rfl
/-- The same test on object members. -/
def Json.decEqFields : (a b : List (String × Json)) → Decidable (a=b)
  | [],[] => isTrue rfl
  | [],_::_ => isFalse nofun
  | _::_,[] => isFalse nofun
  | (k,a)::as,(l,b)::bs =>
    match instDecidableEqString k l,Json.decEq a b,Json.decEqFields as bs with
    | isTrue h,isTrue i,isTrue j => isTrue (h ▸ i ▸ j ▸ rfl)
    | isFalse h,_,_ => isFalse fun e => by cases e; exact h rfl
    | _,isFalse h,_ => isFalse fun e => by cases e; exact h rfl
    | _,_,isFalse h => isFalse fun e => by cases e; exact h rfl
end

instance : DecidableEq Json := Json.decEq

/-- A `dict[str, Any]`. -/
abbrev Dict : Type := Table String Json

/-- The truth value of a JSON value. -/
def isTruthy : Json → Bool
  | .null => false
  | .bool b => b
  | .int n => decide (n≠0)
  | .float q => decide (q≠0)
  | .str s => decide (s≠"")
  | .arr items => !items.isEmpty
  | .obj fields => !fields.isEmpty

/-- `d.get(key)`, absent unless it is true. -/
def given (d : Dict) (key : String) : Option Json := (get d key).filter isTruthy

/-- `type(value).__name__`. -/
def pyTypeName : Json → String
  | .null => "NoneType"
  | .bool _ => "bool"
  | .int _ => "int"
  | .float _ => "float"
  | .str _ => "str"
  | .arr _ => "list"
  | .obj _ => "dict"

/-- Identifiers of sessions, tenants, actors and audit rows. They reach the
modelled functions from models that already checked their shape. -/
abbrev EntityId : Type := String

/-- Wall-clock readings, in seconds since a fixed origin. -/
abbrev Time : Type := Int

/-- An exception as an `except` clause can see it. -/
structure Exn where
  /-- Name of the raised class. -/
  typeName : String
  /-- Names of its base classes, in resolution order. -/
  bases : List String
  /-- The text `str(exc)` shows. -/
  text : String
  /-- The `message` attribute when the class derives from `DriverError`. -/
  driverMessage : Option String
  deriving DecidableEq

/-- A class of this name occurs in the resolution order. -/
def Exn.isInstance (e : Exn) (name : String) : Bool := e.typeName==name || e.bases.contains name

/-- The text `f"{type(exc).__name__}: {exc}"`. -/
def Exn.describe (e : Exn) : String := e.typeName++": "++e.text

/-- The exception a validation model raises. -/
def validationError (text : String) : Exn := ⟨"ValidationError",["ValueError"],text,none⟩

/-- What leaves a coroutine other than by returning. -/
inductive Halt where
  /-- An `Exception`, which `except Exception` catches. -/
  | raised (e : Exn)
  /-- `asyncio.CancelledError`, which it does not. -/
  | cancelled
  deriving DecidableEq

/-- Join texts with a separator. -/
def joinWith (sep : String) : List String → String
  | [] => ""
  | [s] => s
  | s::t::rest => s++sep++joinWith sep (t::rest)

/-- `json.dumps` of one code point with `ensure_ascii`: short escapes where
they exist, `uXXXX` units (a surrogate pair above the basic plane) outside
printable ASCII. -/
def jsonChar (c : Char) : String :=
  let unit := fun (n : Nat) =>
    "\\u"++String.ofList ([n/4096,n/256%16,n/16%16,n%16].map Nat.digitChar)
  match c.toNat with
  | 0x22 => "\\\""
  | 0x5C => "\\\\"
  | 0x08 => "\\b"
  | 0x0C => "\\f"
  | 0x0A => "\\n"
  | 0x0D => "\\r"
  | 0x09 => "\\t"
  | n =>
    if 0x20≤n && n≤0x7E then String.singleton c
    else if n<0x10000 then unit n
    else unit (0xD800+(n-0x10000)/1024)++unit (0xDC00+(n-0x10000)%1024)

/-- `json.dumps` of a string. -/
def jsonString (s : String) : String :=
  "\""++String.join (s.toList.map jsonChar)++"\""

mutual
/-- `json.dumps(value, separators=(",", ":"))`, with the text of floats given. -/
def compactJson (floatText : Rat → String) : Json → String
  | .null => "null"
  | .bool b => if b then "true" else "false"
  | .int n => toString n
  | .float q => floatText q
  | .str s => jsonString s
  | .arr items => "["++joinWith "," (compactItems floatText items)++"]"
  | .obj fields => "\x7b"++joinWith "," (compactFields floatText fields)++"\x7d"
/-- The rendered elements of an array. -/
def compactItems (floatText : Rat → String) : List Json → List String
  | [] => []
  | v::vs => compactJson floatText v::compactItems floatText vs
/-- The rendered members of an object. -/
def compactFields (floatText : Rat → String) : List (String × Json) → List String
  | [] => []
  | (k,v)::fs => (jsonString k++":"++compactJson floatText v)::compactFields floatText fs
end

/-- Code points with the Unicode `White_Space` property. -/
def isWhiteSpace (c : Char) : Bool :=
  let n := c.toNat
  (9≤n && n≤13) || n==0x20 || n==0x85 || n==0xA0 || n==0x1680 || (0x2000≤n && n≤0x200A) ||
    n==0x2028 || n==0x2029 || n==0x202F || n==0x205F || n==0x3000

/-- Code points `str.strip` removes: those above and four separators. -/
def isPySpace (c : Char) : Bool := isWhiteSpace c || (0x1C≤c.toNat && c.toNat≤0x1F)

/-- `str_strip_whitespace=True` on one string. -/
def stripWhitespace (s : String) : String := trimBy isWhiteSpace s

/-- `str.strip()`. -/
def pyStrip (s : String) : String := trimBy isPySpace s

/-- `str_strip_whitespace=True` on the keys of a dictionary. A key that
becomes equal to an earlier one overwrites its value. -/
def stripKeys {α : Type} (d : Table String α) : Table String α :=
  ofPairs (d.map fun e => (stripWhitespace e.1,e.2))

@[simp] theorem stripWhitespace_idem (s : String) :
    stripWhitespace (stripWhitespace s)=stripWhitespace s := trimBy_idem _ _

/-- Keys without surrounding whitespace, none listed twice, are kept. -/
theorem stripKeys_of_bare {α : Type} {d : Table String α} (hbare : ∀ e∈d,stripWhitespace e.1=e.1)
    (hnodup : (d.map Prod.fst).Nodup) : stripKeys d=d := by
  have hsame : ∀ e∈d,(stripWhitespace e.1,e.2)=e := fun e he => by rw [hbare e he]
  have hmap : d.map (fun e => (stripWhitespace e.1,e.2))=d :=
    (List.map_congr_left hsame).trans (List.map_id _)
  unfold stripKeys
  rw [hmap]
  exact ofPairs_of_nodup hnodup

/-- Trimmed keys are trimmed already. -/
@[simp] theorem stripKeys_idem {α : Type} (d : Table String α) :
    stripKeys (stripKeys d)=stripKeys d := by
  refine stripKeys_of_bare (fun e he => ?_) (nodup_ofPairs _)
  obtain ⟨e',-,rfl⟩ := List.mem_map.mp (mem_of_mem_ofPairs he)
  exact stripWhitespace_idem _

/-- A description always shows its colon, so it never trims to nothing. -/
theorem describe_strip_ne_empty (e : Exn) : stripWhitespace e.describe≠"" := by
  refine trimBy_ne_empty (c := ':') ?_ (by decide)
  simp [Exn.describe]

end Voyagent.RuntimeValues
