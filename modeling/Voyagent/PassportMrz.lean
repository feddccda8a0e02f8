import Voyagent.FallibleResults
import Mathlib.Data.List.DropRight

/-!
# The machine-readable zone of a passport

`parseMrz` reads the two TD-3 lines of a passport. A line is a JavaScript
string, a list of UTF-16 code units, and is cut at the positions the document
format fixes. Three fields and their composite carry check digits.
-/

namespace Voyagent.PassportMrz

open FallibleResults

abbrev CodeUnit : Type := UInt16

/-- The code unit of a character of the basic plane. -/
def unitOf (c : Char) : CodeUnit := UInt16.ofNat c.toNat

/-- The code units of a text of the basic plane. -/
def units (s : String) : List CodeUnit := s.toList.map unitOf

/-- `s.slice(from, to)`. -/
def slice (start stop : Nat) (s : List CodeUnit) : List CodeUnit := (s.take stop).drop start

/-- The filler character. -/
def filler : CodeUnit := 60

def isDigit (u : CodeUnit) : Bool := 48≤u && u≤57

def isLetter (u : CodeUnit) : Bool := 65≤u && u≤90

/-- White space of `trim` and of `\s`. -/
def isSpace (u : CodeUnit) : Bool :=
  (9≤u && u≤13) || u==32 || u==0xA0 || u==0x1680 || (0x2000≤u && u≤0x200A) || u==0x2028 ||
    u==0x2029 || u==0x202F || u==0x205F || u==0x3000 || u==0xFEFF

/-! ## Errors -/

/-- What carries a check digit. -/
inductive CheckedField where
  | documentNumber | dateOfBirth | expiration | composite
  deriving DecidableEq

def CheckedField.name : CheckedField → String
  | .documentNumber => "document number"
  | .dateOfBirth => "DOB"
  | .expiration => "expiration"
  | .composite => "composite"

inductive MrzError where
  | lineLength (line got : Nat)
  | documentCode (got : Option CodeUnit)
  | noSeparator
  | character (ch : CodeUnit)
  | checkDigit (field : CheckedField) (got : Option CodeUnit) (expected : Nat)
  | date (raw : List CodeUnit)
  | sex (got : Option CodeUnit)
  deriving DecidableEq

def td3LineLen : Nat := 44

/-- A single code unit in a template string. -/
def shown (got : Option CodeUnit) : List CodeUnit :=
  match got with
  | some u => [u]
  | none => units "undefined"

/-- `JSON.stringify` of a single code unit. -/
def stringify (u : CodeUnit) : List CodeUnit :=
  let hex := fun (n : Nat) => unitOf (Nat.digitChar (u.toNat/n%16))
  let inner :=
    if u=34 then units "\\\"" else if u=92 then units "\\\\" else if u=8 then units "\\b"
    else if u=9 then units "\\t" else if u=10 then units "\\n" else if u=12 then units "\\f"
    else if u=13 then units "\\r"
    else if u<32 ∨ (0xD800≤u ∧ u<0xE000) then units "\\u"++[hex 4096,hex 256,hex 16,hex 1]
    else [u]
  units "\""++inner++units "\""

/-- The text an error is thrown with. -/
def MrzError.message : MrzError → List CodeUnit
  | .lineLength line got => units ("invalid MRZ line"++toString line++" length: expected "++
      toString td3LineLen++", got "++toString got)
  | .documentCode got => units "invalid MRZ document code: "++shown got
  | .noSeparator => units "invalid MRZ name field: no '<<' separator"
  | .character ch => units "invalid MRZ character: "++stringify ch
  | .checkDigit field got expected => units ("bad "++field.name++" check digit: got ")++shown got++
      units (", expected "++toString expected)
  | .date raw => units "invalid MRZ date: "++raw
  | .sex got => units "invalid MRZ sex: "++shown got

/-! ## Check digits, dates and names -/

/-- The value of a character in a check digit. -/
def mrzValue (ch : CodeUnit) : Except MrzError Nat :=
  if isDigit ch=true then .ok (ch.toNat-48)
  else if isLetter ch=true then .ok (ch.toNat-55)
  else if ch=filler then .ok 0
  else .error (.character ch)

/-- The weights, cycling. -/
def weight (i : Nat) : Nat := [7,3,1].getD (i%3) 0

/-- The loop of `mrzCheckDigit` from position `i`. -/
def mrzSum : Nat → List CodeUnit → Except MrzError Nat
  | _,[] => .ok 0
  | i,ch::rest => do
    let v ← mrzValue ch
    let sum ← mrzSum (i+1) rest
    return v*weight i+sum

def mrzCheckDigit (input : List CodeUnit) : Except MrzError Nat := do
  let sum ← mrzSum 0 input
  return sum%10

/-- `parseInt` of decimal digits. -/
def parseDigits (digits : List CodeUnit) : Nat :=
  digits.foldl (fun n u => 10*n+(u.toNat-48)) 0

/-- `n.toString().padStart(2, "0")`. -/
def padStart2 (n : Nat) : List CodeUnit := units (String.ofList ((toString n).toList.leftpad 2 '0'))

/-- The year two digits stand for: up to the pivot one of this century. -/
def fullYear (pivot yy : Nat) : Nat := if yy≤pivot then 2000+yy else 1900+yy

def parseMrzDate (yyMMdd : List CodeUnit) (pivot : Nat) : Except MrzError (List CodeUnit) :=
  if ¬(yyMMdd.length=6 ∧ yyMMdd.all isDigit=true) then .error (.date yyMMdd)
  else
    let yy := parseDigits (slice 0 2 yyMMdd)
    let mm := parseDigits (slice 2 4 yyMMdd)
    let dd := parseDigits (slice 4 6 yyMMdd)
    if mm<1 ∨ mm>12 ∨ dd<1 ∨ dd>31 then .error (.date yyMMdd)
    else .ok (units (toString (fullYear pivot yy))++units "-"++padStart2 mm++units "-"++padStart2 dd)

/-- `s.replace(/\s+/g, " ")`; `open_` behind white space already shown. -/
def collapse (open_ : Bool) : List CodeUnit → List CodeUnit
  | [] => []
  | u::us =>
    if isSpace u=true then (if open_ then collapse true us else 32::collapse true us)
    else u::collapse false us

/-- `s.trim()`. -/
def trim (s : List CodeUnit) : List CodeUnit := (s.dropWhile isSpace).rdropWhile isSpace

def stripFiller (s : List CodeUnit) : List CodeUnit :=
  collapse false (trim (s.map fun u => if u=filler then 32 else u))

/-- `s.replace(/</g, "")`. -/
def dropFiller (s : List CodeUnit) : List CodeUnit := s.filter fun u => decide (u≠filler)

/-- `s.indexOf("<<")`. -/
def separator : List CodeUnit → Option Nat
  | u::v::rest => if u=filler ∧ v=filler then some 0 else (separator (v::rest)).map Nat.succ
  | _ => none

/-! ## The two lines -/

inductive Sex where
  | male | female | unspecified
  deriving DecidableEq

structure PassportFields where
  documentNumber : List CodeUnit
  surname : List CodeUnit
  givenNames : List CodeUnit
  nationality : List CodeUnit
  dateOfBirth : List CodeUnit
  sex : Sex
  expirationDate : List CodeUnit
  rawMrz : List (List CodeUnit)
  deriving DecidableEq

def issuingState (line1 : List CodeUnit) : List CodeUnit := dropFiller (slice 2 5 line1)

def nameField (line1 : List CodeUnit) : List CodeUnit := slice 5 44 line1

def documentNumber (line2 : List CodeUnit) : List CodeUnit := slice 0 9 line2

def nationality (line2 : List CodeUnit) : List CodeUnit := dropFiller (slice 10 13 line2)

def dobRaw (line2 : List CodeUnit) : List CodeUnit := slice 13 19 line2

def expRaw (line2 : List CodeUnit) : List CodeUnit := slice 21 27 line2

/-- Document number, birth, expiration and personal number, each with its check digit. -/
def compositeInput (line2 : List CodeUnit) : List CodeUnit :=
  documentNumber line2++line2[9]?.toList++dobRaw line2++line2[19]?.toList++expRaw line2++
    line2[27]?.toList++slice 28 42 line2++line2[42]?.toList

/-- One check digit is compared as text. -/
def checkField (field : CheckedField) (input : List CodeUnit) (got : Option CodeUnit) :
    Except MrzError Unit := do
  let expected ← mrzCheckDigit input
  if got.toList≠units (toString expected) then .error (.checkDigit field got expected) else .ok ()

def parseSex (got : Option CodeUnit) : Except MrzError Sex :=
  if got=some 77 then .ok .male
  else if got=some 70 then .ok .female
  else if got=some 88 ∨ got=some filler then .ok .unspecified
  else .error (.sex got)

def parseMrz (line1 line2 : List CodeUnit) : Except MrzError PassportFields :=
  if line1.length≠td3LineLen then .error (.lineLength 1 line1.length)
  else if line2.length≠td3LineLen then .error (.lineLength 2 line2.length)
  else if line1[0]?≠some 80 then .error (.documentCode line1[0]?)
  else
    match separator (nameField line1) with
    | none => .error .noSeparator
    | some sepIdx => do
      checkField .documentNumber (documentNumber line2) line2[9]?
      checkField .dateOfBirth (dobRaw line2) line2[19]?
      checkField .expiration (expRaw line2) line2[27]?
      checkField .composite (compositeInput line2) line2[43]?
      let dob ← parseMrzDate (dobRaw line2) 30
      let expiration ← parseMrzDate (expRaw line2) 79
      let sex ← parseSex line2[20]?
      return {
        documentNumber := dropFiller (documentNumber line2)
        surname := stripFiller ((nameField line1).take sepIdx)
        givenNames := stripFiller ((nameField line1).drop (sepIdx+2))
        nationality :=
          if nationality line2=[] then issuingState line1 else nationality line2
        dateOfBirth := dob
        sex := sex
        expirationDate := expiration
        rawMrz := [line1,line2]}

/-- The specimen of the format. -/
def specimen1 : List CodeUnit := units "P<UTOERIKSSON<<ANNA<MARIA<<<<<<<<<<<<<<<<<<<"

def specimen2 : List CodeUnit := units "L898902C<3UTO6908061F9406236ZE184226B<<<<<14"

def specimenFields : PassportFields :=
  ⟨units "L898902C",units "ERIKSSON",units "ANNA MARIA",units "UTO",units "1969-08-06",.female,
    units "1994-06-23",[specimen1,specimen2]⟩

example : parseMrz specimen1 specimen2=.ok specimenFields := by decide +kernel

/-! ## What is accepted -/

variable {line1 line2 : List CodeUnit} {f : PassportFields}

/-- The text of one decimal digit. -/
theorem units_digit {n : Nat} (hn : n<10) : units (toString n)=[unitOf (Nat.digitChar n)] := by
  unfold units
  rw [Nat.toString_eq_repr,Nat.toList_repr,Nat.toDigits_of_lt_base hn]
  rfl

theorem mrzCheckDigit_lt {input : List CodeUnit} {n : Nat} (h : mrzCheckDigit input=.ok n) : n<10 := by
  obtain ⟨sum,-,hsum⟩ := bind_pure_ok.mp h
  omega

/-- A check digit fits when its character is the digit computed. -/
theorem checkField_ok {field : CheckedField} {input : List CodeUnit} {got : Option CodeUnit} :
    checkField field input got=.ok () ↔
      ∃ n,mrzCheckDigit input=.ok n ∧ got=some (unitOf (Nat.digitChar n)) := by
  unfold checkField
  rw [bind_ok]
  refine exists_congr fun n => and_congr_right fun hn => ?_
  rw [units_digit (mrzCheckDigit_lt hn)]
  cases got with
  | none => exact iff_of_false (fun h => (by cases h)) (fun h => (by cases h))
  | some u =>
    have htext : [u]=[unitOf (Nat.digitChar n)] ↔ some u=some (unitOf (Nat.digitChar n)) := by simp
    rw [Option.toList_some,← htext]
    split
    · rename_i hne
      exact iff_of_false (fun h => (by cases h)) hne
    · rename_i heq
      exact iff_of_true rfl (not_not.mp heq)

/-- What every accepted pair of lines has passed, and the fields it answers. -/
structure Accepted (line1 line2 : List CodeUnit) (f : PassportFields) : Prop where
  length1 : line1.length=td3LineLen
  length2 : line2.length=td3LineLen
  code : line1[0]?=some 80
  documentCheck : checkField .documentNumber (documentNumber line2) line2[9]?=.ok ()
  dobCheck : checkField .dateOfBirth (dobRaw line2) line2[19]?=.ok ()
  expCheck : checkField .expiration (expRaw line2) line2[27]?=.ok ()
  compositeCheck : checkField .composite (compositeInput line2) line2[43]?=.ok ()
  dob : parseMrzDate (dobRaw line2) 30=.ok f.dateOfBirth
  expiration : parseMrzDate (expRaw line2) 79=.ok f.expirationDate
  sex : parseSex line2[20]?=.ok f.sex
  number : f.documentNumber=dropFiller (documentNumber line2)
  names : ∃ sepIdx,separator (nameField line1)=some sepIdx ∧
    f.surname=stripFiller ((nameField line1).take sepIdx) ∧
    f.givenNames=stripFiller ((nameField line1).drop (sepIdx+2))
  state : f.nationality=if nationality line2=[] then issuingState line1 else nationality line2

theorem accepted_of_parseMrz (h : parseMrz line1 line2=.ok f) : Accepted line1 line2 f := by
  unfold parseMrz at h
  split at h
  · cases h
  rename_i hlength1
  split at h
  · cases h
  rename_i hlength2
  split at h
  · cases h
  rename_i hcode
  split at h
  · cases h
  rename_i sepIdx hsep
  obtain ⟨⟨⟩,hdocument,h⟩ := bind_ok.mp h
  obtain ⟨⟨⟩,hbirth,h⟩ := bind_ok.mp h
  obtain ⟨⟨⟩,hexpiry,h⟩ := bind_ok.mp h
  obtain ⟨⟨⟩,hcomposite,h⟩ := bind_ok.mp h
  obtain ⟨dob,hdob,h⟩ := bind_ok.mp h
  obtain ⟨expiration,hexp,h⟩ := bind_ok.mp h
  obtain ⟨sex,hsex,h⟩ := bind_ok.mp h
  cases h
  exact {
    length1 := not_not.mp hlength1, length2 := not_not.mp hlength2, code := not_not.mp hcode
    documentCheck := hdocument, dobCheck := hbirth, expCheck := hexpiry, compositeCheck := hcomposite
    dob := hdob, expiration := hexp, sex := hsex, number := rfl
    names := ⟨sepIdx,hsep,rfl,rfl⟩, state := rfl}

end Voyagent.PassportMrz
