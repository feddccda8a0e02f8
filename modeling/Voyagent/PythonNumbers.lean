import Mathlib.Algebra.Group.Nat.Defs
import Voyagent.RuntimeValues

/-!
# Numbers in Python texts

`int` on a text, `str.isdigit` and the decimal digits behind them. Every
script's digits count; an underscore may stand between two digits; blanks
around the number are dropped.
-/

namespace Voyagent.PythonNumbers

open TrimmedText RuntimeValues

/-- The code points of the decimal zeros, each followed by its nine digits. -/
def decimalZeros : List Nat :=
  [0x30,0x660,0x6F0,0x7C0,0x966,0x9E6,0xA66,0xAE6,0xB66,0xBE6,0xC66,0xCE6,0xD66,0xDE6,0xE50,0xED0,
    0xF20,0x1040,0x1090,0x17E0,0x1810,0x1946,0x19D0,0x1A80,0x1A90,0x1B50,0x1BB0,0x1C40,0x1C50,
    0xA620,0xA8D0,0xA900,0xA9D0,0xA9F0,0xAA50,0xABF0,0xFF10,0x104A0,0x10D30,0x11066,0x110F0,
    0x11136,0x111D0,0x112F0,0x11450,0x114D0,0x11650,0x116C0,0x11730,0x118E0,0x11950,0x11C50,
    0x11D50,0x11DA0,0x11F50,0x16A60,0x16AC0,0x16B50,0x1D7CE,0x1D7D8,0x1D7E2,0x1D7EC,0x1D7F6,
    0x1E140,0x1E2F0,0x1E4F0,0x1E950,0x1FBF0]

/-- The value of a decimal digit. -/
def decimalValue (c : Char) : Option Nat :=
  decimalZeros.findSome? fun z => if z≤c.toNat ∧ c.toNat≤z+9 then some (c.toNat-z) else none

/-- Digits that are no decimal digits: superscripts, circled and counting ones. -/
def otherDigitRanges : List (Nat × Nat) :=
  [(0xB2,0xB3),(0xB9,0xB9),(0x1369,0x1371),(0x19DA,0x19DA),(0x2070,0x2070),(0x2074,0x2079),
    (0x2080,0x2089),(0x2460,0x2468),(0x2474,0x247C),(0x2488,0x2490),(0x24EA,0x24EA),
    (0x24F5,0x24FD),(0x24FF,0x24FF),(0x2776,0x277E),(0x2780,0x2788),(0x278A,0x2792),
    (0x10A40,0x10A43),(0x10E60,0x10E68),(0x11052,0x1105A),(0x1F100,0x1F10A)]

/-- Whether `str.isdigit` counts a character. -/
def isDigitChar (c : Char) : Bool :=
  (decimalValue c).isSome || otherDigitRanges.any fun r => r.1≤c.toNat && c.toNat≤r.2

/-- `str.isdigit`. -/
def isDigits (cs : List Char) : Bool := !cs.isEmpty && cs.all isDigitChar

/-- The value of digits with single underscores between them. `opened` says
that a digit stands right before. -/
def readDigits : Nat → Bool → List Char → Option Nat
  | acc,opened,[] => if opened then some acc else none
  | acc,opened,c::cs =>
    if opened && c == '_' then readDigits acc false cs
    else (decimalValue c).bind fun d => readDigits (10*acc+d) true cs

/-- `sys.int_info.default_max_str_digits`. -/
def maxStrDigits : Nat := 4300

/-- `int` of an unsigned text. -/
def natOfDigits (cs : List Char) : Option Nat :=
  if (cs.filter (· != '_')).length ≤ maxStrDigits then readDigits 0 false cs else none

/-- `int(s)`, or the `ValueError`. -/
def intOfText (s : String) : Option Int :=
  match trimList isWhiteSpace s.toList with
  | '-'::cs => (natOfDigits cs).map fun n => -(n : Int)
  | '+'::cs => (natOfDigits cs).map Int.ofNat
  | cs => (natOfDigits cs).map Int.ofNat

example : intOfText " -1_000 "=some (-1000) := by decide

/-! ## How large a number is -/

theorem decimalValue_le {c : Char} {d : Nat} (h : decimalValue c=some d) : d≤9 := by
  obtain ⟨z,-,hz⟩ := List.exists_of_findSome?_eq_some h
  split at hz
  · cases hz
    omega
  · cases hz

/-- Each digit multiplies by at most ten. -/
theorem readDigits_lt {acc v : Nat} {opened : Bool} {cs : List Char}
    (h : readDigits acc opened cs=some v) : v<(acc+1)*10^cs.length := by
  induction cs generalizing acc opened with
  | nil =>
    unfold readDigits at h
    split at h
    · cases h
      rw [List.length_nil,Nat.pow_zero,Nat.mul_one]
      exact Nat.lt_succ_self _
    · cases h
  | cons c cs ih =>
    rw [List.length_cons,Nat.pow_succ]
    unfold readDigits at h
    split at h
    · have hlt := ih h
      refine hlt.trans_le (Nat.mul_le_mul_left _ ?_)
      exact Nat.le_mul_of_pos_right _ (by decide)
    · obtain ⟨d,hd,h⟩ := Option.bind_eq_some_iff.mp h
      have hdigit := decimalValue_le hd
      have hlt := ih h
      refine hlt.trans_le ?_
      rw [Nat.mul_comm (10^cs.length) 10,← Nat.mul_assoc]
      exact Nat.mul_le_mul_right _ (by omega)

/-- A text of `k` characters is a number of at most `k` digits. -/
theorem natOfDigits_lt {cs : List Char} {v : Nat} (h : natOfDigits cs=some v) : v<10^cs.length := by
  unfold natOfDigits at h
  split at h
  · have hlt := readDigits_lt h
    rwa [Nat.zero_add,Nat.one_mul] at hlt
  · cases h

end Voyagent.PythonNumbers
