import Voyagent.TallyVouchers

/-!
# Responses of the Tally gateway

The errors a status or a body stands for and the acknowledgement of an import.
The patterns look for ASCII in the bytes of a body, so that they are matched
on its text.
-/

namespace Voyagent.TallyResponses

open TrimmedText RuntimeValues PythonNumbers TallyVouchers

/-! ## The patterns -/

/-- `\s` in a pattern on bytes. -/
def isAsciiSpace (c : Char) : Bool := c.toNat=0x20 || (0x09≤c.toNat && c.toNat≤0x0D)

/-- The text after a word, whatever the case of its letters. -/
def afterWord : List Char → List Char → Option (List Char)
  | [],cs => some cs
  | _::_,[] => none
  | w::ws,c::cs => if c.toUpper=w then afterWord ws cs else none

/-- The text after a tag with blanks around its parts. -/
def afterTag (closing : Bool) (cs : List Char) : Option (List Char) := do
  let cs ← afterWord ['<'] cs
  let cs ← if closing then afterWord ['/'] (cs.dropWhile isAsciiSpace) else some cs
  let cs ← afterWord "LINEERROR".toList (cs.dropWhile isAsciiSpace)
  afterWord ['>'] (cs.dropWhile isAsciiSpace)

/-- The text up to the first closing tag. -/
def upToClosingTag : List Char → Option (List Char)
  | [] => none
  | c::cs =>
    if (afterTag true (c::cs)).isSome then some []
    else (upToClosingTag cs).map (c::·)

/-- The group of `_LINEERROR_RE` where it first matches. -/
def searchLineError : List Char → Option (List Char)
  | [] => none
  | c::cs =>
    match (afterTag false (c::cs)).bind upToClosingTag with
    | some inner => some inner
    | none => searchLineError cs

/-- `not\s+open`. -/
def startsNotOpen (cs : List Char) : Bool :=
  match afterWord "NOT".toList cs with
  | some (c::cs) => isPySpace c && (afterWord "OPEN".toList (cs.dropWhile isPySpace)).isSome
  | _ => false

/-- `[^<>\n]{0,n}?not\s+open`. -/
def notOpenWithin : Nat → List Char → Bool
  | 0,cs => startsNotOpen cs
  | _+1,[] => false
  | n+1,c::cs =>
    startsNotOpen (c::cs) || (c≠ '<' && c≠ '>' && c≠ '\n' && notOpenWithin n cs)

/-- `_COMPANY_NOT_OPEN_RE` matches somewhere. -/
def saysCompanyNotOpen (cs : List Char) : Bool :=
  cs.tails.any fun rest => ((afterWord "COMPANY".toList rest).map (notOpenWithin 80)).getD false

/-! ## Errors -/

/-- `_preview`: the words of the body, cut off. -/
def preview (body : List Char) : List Char :=
  let text := List.intercalate [' '] ((body.splitOnP isPySpace).filter (!·.isEmpty))
  if 240<text.length then text.take 240++['.','.','.'] else text

/-- `_extract_line_error`. -/
def extractLineError (body : List Char) : Option (List Char) :=
  ((searchLineError body).map (trimList isPySpace)).filter (!·.isEmpty)

/-- `_vendor_ref`. -/
def vendorRef (status : Nat) (body : List Char) : String :=
  let shown := preview body
  "HTTP "++toString status++(if shown.isEmpty then "" else " | "++String.ofList shown)

/-- `map_tally_error`. -/
def mapTallyError (status : Nat) (body : List Char) (parseError : Option String) : DriverError :=
  let error := fun (kind : DriverErrorKind) (message : String) =>
    (⟨kind,message,some (vendorRef status body)⟩ : DriverError)
  match parseError with
  | some e => error .validationFailed ("Failed to parse Tally response: "++e)
  | none =>
    if status=401 then error .authentication "Tally gateway rejected basic-auth credentials."
    else if status=403 then
      error .authorization "Tally gateway denied access to the requested company or report."
    else if status=503 ∨ status=504 then
      error .transient ("Tally gateway temporarily unavailable (HTTP "++toString status++").")
    else if 400 ≤ status then error .permanent ("Tally gateway returned HTTP "++toString status++".")
    else
      match extractLineError body with
      | some line =>
        if saysCompanyNotOpen line then
          error .conflict ("Tally reports the configured company is not open. "++
            "Open the company in Tally Prime on the desktop host and retry.")
        else error .permanent ("Tally error: "++String.ofList line)
      | none =>
        let stripped := body.dropWhile isAsciiSpace
        if stripped≠[] ∧ stripped.head?≠some '<' then
          if saysCompanyNotOpen (preview body) then
            error .conflict "Tally reports the configured company is not open."
          else error .permanent ("Tally returned a non-XML body: "++String.ofList (preview body))
        else error .permanent "Unrecognised Tally response shape."

/-- Of the statuses only two are worth a retry. -/
theorem mapTallyError_transient {status : Nat} (body : List Char) (h : 400 ≤ status) :
    (mapTallyError status body none).kind=.transient ↔ status=503 ∨ status=504 := by
  unfold mapTallyError
  dsimp only
  split
  · rename_i h401
    exact iff_of_false (fun h => (by cases h)) (by omega)
  · split
    · exact iff_of_false (fun h => (by cases h)) (by omega)
    · split
      · rename_i hstatus
        exact iff_of_true rfl hstatus
      · rename_i hstatus
        exact iff_of_false (fun h => (by cases h)) hstatus

/-! ## The acknowledgement -/

/-- `TallyVoucherAck`. -/
structure TallyVoucherAck where
  created : Int
  altered : Int
  lastVchId : Option String
  deriving DecidableEq

/-- The name of a tag without its namespace, in small letters. -/
def localName (tag : String) : String :=
  match tag.toList.dropWhile (· ≠ '}') with
  | [] => tag.toLower
  | _::name => (String.ofList name).toLower

mutual

/-- The elements in document order. -/
def Element.iter : Element → List Element
  | .mk tag attributes text children => .mk tag attributes text children::iterAll children

def iterAll : List Element → List Element
  | [] => []
  | element::rest => Element.iter element++iterAll rest

end

/-- `_first_text`. -/
def firstText (root : Element) (name : String) : Option String :=
  (Element.iter root).findSome? fun element =>
    if localName element.tag=name then
      (element.text.map pyStrip).filter fun text => decide (text≠"")
    else none

/-- `_parse_int` with the default zero. -/
def parseInt (value : Option String) : Int := (value.bind intOfText).getD 0

/-- The XML library: what it writes, unless a text is no XML, and the root it reads. -/
structure XmlLibrary where
  tostring : Element → Except String (List Char)
  /-- A syntax error, or the root if one was recovered. -/
  fromstring : List Char → Except String (Option Element)

/-- `_parse_xml`. -/
def parseXml (xml : XmlLibrary) (body : List Char) (ctx : String) : Except Failure Element :=
  if body.all isAsciiSpace then
    .error (.of .validationFailed (ctx++": empty response body from Tally."))
  else
    match xml.fromstring body with
    | .error e => .error (.of .validationFailed (ctx++": XML syntax error: "++e))
    | .ok none => .error (.of .validationFailed (ctx++": no root element in response."))
    | .ok (some root) => .ok root

/-- `parse_voucher_create_response`. -/
def parseVoucherCreateResponse (xml : XmlLibrary) (body : List Char) :
    Except Failure TallyVoucherAck := do
  let root ← parseXml xml body "parse_voucher_create_response"
  return ⟨parseInt (firstText root "created"),parseInt (firstText root "altered"),
    firstText root "lastvchid"⟩

example : extractLineError "<A> <LineError > Ledger missing </ LINEERROR></A>".toList=
    some "Ledger missing".toList := by decide

end Voyagent.TallyResponses
