import Voyagent.DelimitedFeeds
import Voyagent.PassportMrz

/-!
# Reading one event stream

`runOneStream` makes one request and yields the events of its response. The
chunks of the body are joined to lines, the fields of an event are gathered
line by line, and a blank line gives the event out. At the end of the stream
what was gathered is given out without one. Texts are JavaScript strings,
lists of UTF-16 code units; `fetch`, `JSON.parse` and what they raise are
parameters.
-/

namespace Voyagent.SseStreams

open DelimitedFeeds
open PassportMrz (CodeUnit units slice)

abbrev JsString : Type := List CodeUnit

variable {T E : Type}

def newline : CodeUnit := 10

def carriageReturn : CodeUnit := 13

def blank : CodeUnit := 32

def colon : CodeUnit := 58

/-- `SSEEvent`. -/
structure SSEEvent (T : Type) where
  event : JsString
  data : T
  id : Option JsString := none
  deriving DecidableEq

/-- How a payload is read. -/
structure Payloads (T : Type) where
  /-- `JSON.parse`, nothing where it throws. -/
  parse : JsString → Option T
  /-- A text taken as it is. -/
  text : JsString → T

/-- The payload of an event: its value, or the text where it is not JSON. -/
def Payloads.read (lib : Payloads T) (rawData : JsString) : T :=
  (lib.parse rawData).getD (lib.text rawData)

/-- What was gathered of the event that is being read. -/
structure Pending where
  eventName : JsString := units "message"
  dataLines : List JsString := []
  eventId : Option JsString := none
  deriving DecidableEq

/-- `flush`. -/
def flush (lib : Payloads T) (p : Pending) : Pending×Option (SSEEvent T) :=
  if p.dataLines=[] then
    ({p with
      eventName := units "message"
      eventId := none},none)
  else
    ({},some {
      event := p.eventName
      data := lib.read ([newline].intercalate p.dataLines)
      id := p.eventId})

/-- `replace(/\r$/, "")`. -/
def stripReturn (s : JsString) : JsString :=
  if s.getLast?=some carriageReturn then s.dropLast else s

/-- `replace(/^ /, "")`. -/
def stripBlank (s : JsString) : JsString := if s.head?=some blank then s.tail else s

/-- The name and the value of a field line. -/
def splitField (rawLine : JsString) : JsString×JsString :=
  match rawLine.idxOf? colon with
  | none => (rawLine,[])
  | some colonIdx => (slice 0 colonIdx rawLine,stripBlank (rawLine.drop (colonIdx+1)))

/-- Keep a field of the event that is being read. -/
def Pending.setField (p : Pending) (field valueStr : JsString) : Pending :=
  if field=units "event" then {p with eventName := valueStr}
  else if field=units "data" then {p with dataLines := p.dataLines++[valueStr]}
  else if field=units "id" then {p with eventId := some valueStr}
  else p

/-- The body of the loop over lines: a piece of the text up to a newline. -/
def readLine (lib : Payloads T) (p : Pending) (piece : JsString) : Pending×List (SSEEvent T) :=
  let rawLine := stripReturn piece
  if rawLine=[] then ((flush lib p).1,(flush lib p).2.toList)
  else if rawLine.head?=some colon then (p,[])
  else (p.setField (splitField rawLine).1 (splitField rawLine).2,[])

/-- The fields of `VoyagentApiError`. -/
structure VoyagentApiError where
  status : Nat
  method : JsString
  path : JsString
  responseBodyPreview : JsString

def VoyagentApiError.message (e : VoyagentApiError) : JsString :=
  units "Voyagent API "++e.method++units " "++e.path++units " failed with "++
    units (toString e.status)++units ": "++e.responseBodyPreview

/-- What the iteration throws. -/
inductive StreamError (E : Type) where
  | api (e : VoyagentApiError)
  | noBody
  /-- Raised by `fetch` or by a read of the body. -/
  | raised (e : E)

/-- The text of an error, with that of what is raised. -/
def StreamError.message (raisedText : E → JsString) : StreamError E → JsString
  | .api e => e.message
  | .noBody => units "streamSSE: response has no body; SSE requires a streaming body."
  | .raised e => raisedText e

structure RequestInit where
  method : Option JsString

/-- A body as its reader hands it over: decoded chunks, and what a read raises
in the end in place of `done`. -/
structure Body (E : Type) where
  chunks : List JsString
  failure : Option E := none

structure Response (E : Type) where
  ok : Bool
  status : Nat
  /-- `text()`, nothing where it is rejected. -/
  text : Option JsString
  body : Option (Body E)

/-- The events of an iteration to its end, and what it throws after them. -/
structure Outcome (T E : Type) where
  yielded : List (SSEEvent T) := []
  thrown : Option (StreamError E) := none

/-- The loop over chunks and the flush after it. -/
def readBody (lib : Payloads T) (b : Body E) : Outcome T E :=
  let f := b.chunks.foldl (receive newline (readLine lib)) {state := {}}
  match b.failure with
  | some e =>
    {yielded := f.given
     thrown := some (.raised e)}
  | none => {yielded := f.given++(flush lib f.state).2.toList}

def runOneStream (lib : Payloads T) (fetchImpl : JsString → Option RequestInit → Except E (Response E))
    (url : JsString) (init : Option RequestInit) : Outcome T E :=
  match fetchImpl url init with
  | .error e => {thrown := some (.raised e)}
  | .ok response =>
    if response.ok=false then
      {thrown := some (.api {
        status := response.status
        method := (init.bind RequestInit.method).getD (units "GET")
        path := url
        responseBodyPreview := slice 0 512 (response.text.getD [])})}
    else
      match response.body with
      | none => {thrown := some .noBody}
      | some b => readBody lib b

end Voyagent.SseStreams
