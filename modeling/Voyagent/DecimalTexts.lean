import Voyagent.Decimals
import Voyagent.PythonNumbers

/-!
# Values of Python's `Decimal`

Finite numbers, infinities and values that are no number, the operations that a
running total uses on them, and the texts they are read from. The payload of a
NaN is left out.
-/

namespace Voyagent.DecimalTexts

open TrimmedText RuntimeValues PythonNumbers Decimals

inductive PyDecimal where
  | finite (d : Decimal)
  | infinite (negative : Bool)
  | nan
  /-- A signaling NaN: every operation on it raises. -/
  | snan
  deriving DecidableEq

/-! ## Operations -/

/-- The sum, or nothing for `InvalidOperation`. -/
def PyDecimal.add : PyDecimal → PyDecimal → Option PyDecimal
  | .snan,_ => none
  | _,.snan => none
  | .nan,_ => some .nan
  | _,.nan => some .nan
  | .infinite n,.infinite n' => if n=n' then some (.infinite n) else none
  | .infinite n,.finite _ => some (.infinite n)
  | .finite _,.infinite n => some (.infinite n)
  | .finite a,.finite b => some (.finite (a.add b))

/-- The product, or nothing for `InvalidOperation`. -/
def PyDecimal.mul : PyDecimal → PyDecimal → Option PyDecimal
  | .snan,_ => none
  | _,.snan => none
  | .nan,_ => some .nan
  | _,.nan => some .nan
  | .infinite n,.infinite n' => some (.infinite (xor n n'))
  | .infinite n,.finite b =>
    if b.coefficient=0 then none else some (.infinite (xor n (decide (b.coefficient<0))))
  | .finite a,.infinite n =>
    if a.coefficient=0 then none else some (.infinite (xor (decide (a.coefficient<0)) n))
  | .finite a,.finite b => some (.finite (a.mul b))

/-- `Decimal.quantize` to a power of ten, or nothing for `InvalidOperation`. -/
def PyDecimal.quantize (d : PyDecimal) (e : Int) : Option PyDecimal :=
  match d with
  | .finite d => (d.quantize e).map PyDecimal.finite
  | .nan => some .nan
  | .infinite _ => none
  | .snan => none

/-- `str` of a value. -/
def PyDecimal.text : PyDecimal → String
  | .finite d => d.text
  | .infinite negative => if negative then "-Infinity" else "Infinity"
  | .nan => "NaN"
  | .snan => "sNaN"

/-! ## Texts -/

/-- The value of decimal digits. -/
def digitsValue (cs : List Char) : Option Nat :=
  (cs.mapM decimalValue).map fun digits => digits.foldl (fun n d => 10*n+d) 0

def areDigits (cs : List Char) : Bool := cs.all fun c => (decimalValue c).isSome

/-- The exponent after the letter `e`. -/
def exponentOf : List Char → Option Int
  | '-'::cs => if cs=[] then none else (digitsValue cs).map fun n => -(n : Int)
  | '+'::cs => if cs=[] then none else (digitsValue cs).map Int.ofNat
  | cs => if cs=[] then none else (digitsValue cs).map Int.ofNat

/-- A number without a sign: digits, a point and more digits, an exponent. -/
def finiteOf (cs : List Char) : Option Decimal := do
  let mantissa := cs.takeWhile (· ≠ 'e')
  let whole := mantissa.takeWhile (· ≠ '.')
  let places := (mantissa.drop whole.length).drop 1
  let exponent ← if mantissa=cs then some 0 else exponentOf (cs.drop (mantissa.length+1))
  if whole++places=[] then none
  else
    let coefficient ← digitsValue (whole++places)
    return ⟨coefficient,exponent-places.length⟩

/-- A value without a sign, in small letters. -/
def unsignedOf (cs : List Char) : Option PyDecimal :=
  if cs="inf".toList ∨ cs="infinity".toList then some (.infinite false)
  else if "nan".toList.isPrefixOf cs then if areDigits (cs.drop 3) then some .nan else none
  else if "snan".toList.isPrefixOf cs then if areDigits (cs.drop 4) then some .snan else none
  else (finiteOf cs).map PyDecimal.finite

def PyDecimal.negated : PyDecimal → PyDecimal
  | .finite d => .finite d.neg
  | .infinite negative => .infinite (!negative)
  | d => d

/-- `Decimal` of a text, or nothing for `InvalidOperation`: blanks around it and
underscores are dropped. -/
def decimalOfText (s : String) : Option PyDecimal :=
  match ((trimList isPySpace s.toList).filter (· ≠ '_')).map Char.toLower with
  | '-'::cs => (unsignedOf cs).map PyDecimal.negated
  | '+'::cs => unsignedOf cs
  | cs => unsignedOf cs

example : decimalOfText " -1_250.5e-3 "=some (.finite ⟨-12505,-4⟩) := by decide +kernel

example : decimalOfText "NaN"=some .nan := by decide +kernel

end Voyagent.DecimalTexts
