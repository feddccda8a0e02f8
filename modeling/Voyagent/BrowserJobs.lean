import Voyagent.GeneratorRelations
import Voyagent.RuntimeValues

/-!
# Browser jobs and the pages they drive

The job and result models, the page surface a handler drives, and the step
primitives. A page reacts to each operation: it carries it out and answers, it
raises, or it leaves the handler waiting until the job's own timeout cancels
it; in the last two cases the portal may or may not have processed the
operation. A handler's run yields the operations that were carried out.
-/

namespace Voyagent.BrowserJobs

open KeyedMap GeneratorTraces RuntimeValues

/-- Routable job kinds. -/
inductive JobKind where
  | vfsChecklistPrepare
  | vfsFillForm
  | vfsUploadDocument
  | vfsBookAppointment
  | vfsReadStatus
  | genericScreenshot
  | genericGotoAndExtract
  deriving DecidableEq

/-- Name of the enumeration member. -/
def JobKind.name : JobKind → String
  | .vfsChecklistPrepare => "VFS_CHECKLIST_PREPARE"
  | .vfsFillForm => "VFS_FILL_FORM"
  | .vfsUploadDocument => "VFS_UPLOAD_DOCUMENT"
  | .vfsBookAppointment => "VFS_BOOK_APPOINTMENT"
  | .vfsReadStatus => "VFS_READ_STATUS"
  | .genericScreenshot => "GENERIC_SCREENSHOT"
  | .genericGotoAndExtract => "GENERIC_GOTO_AND_EXTRACT"

/-- Its portal namespace and its operation. -/
def JobKind.route : JobKind → String × String
  | .vfsChecklistPrepare => ("vfs","checklist_prepare")
  | .vfsFillForm => ("vfs","fill_form")
  | .vfsUploadDocument => ("vfs","upload_document")
  | .vfsBookAppointment => ("vfs","book_appointment")
  | .vfsReadStatus => ("vfs","read_status")
  | .genericScreenshot => ("generic","screenshot")
  | .genericGotoAndExtract => ("generic","goto_and_extract")

/-- `str(kind)`. -/
def JobKind.value (kind : JobKind) : String := kind.route.1++"."++kind.route.2

/-- `_namespace_for`: the value up to its first dot. -/
def namespaceFor (kind : JobKind) : String := kind.route.1

/-- A `deadline_at`; the model accepts one without a time zone. -/
inductive Deadline where
  | aware (t : Time)
  | naive (t : Time)
  deriving DecidableEq

/-- A unit of browser work. -/
structure Job where
  id : EntityId
  tenantId : EntityId
  kind : JobKind
  inputs : Dict
  tenantCredentialsRef : String
  attempts : Nat
  deadlineAt : Option Deadline
  deriving DecidableEq

/-- Comparing an aware clock reading with a naive deadline raises. -/
def naiveComparison : Exn :=
  ⟨"TypeError",[],"can't compare offset-naive and offset-aware datetimes",none⟩

/-- `Job.is_expired` at a clock reading. -/
def Job.isExpired (job : Job) (now : Time) : Except Exn Bool :=
  match job.deadlineAt with
  | none => .ok false
  | some (.aware t) => .ok (t≤now)
  | some (.naive _) => .error naiveComparison

inductive JobStatus where
  | queued
  | running
  | succeeded
  | failed
  | cancelled
  deriving DecidableEq

/-- A status after which a driver waits no longer. -/
def JobStatus.isTerminal : JobStatus → Bool
  | .succeeded | .failed | .cancelled => true
  | .queued | .running => false

/-- The dictionary a handler returns. `none` stands for a value that has no
JSON rendering. -/
abbrev Outputs : Type := Table String (Option Json)

/-- Every value of the dictionary has a JSON rendering. -/
def Renderable (outputs : Outputs) : Prop := ∀ e∈outputs,e.2.isSome

instance (outputs : Outputs) : Decidable (Renderable outputs) :=
  inferInstanceAs (Decidable (∀ e∈outputs,e.2.isSome))

/-- Outcome of a job. -/
structure JobResult where
  jobId : EntityId
  status : JobStatus
  outputs : Option Outputs
  error : Option String
  artifactUris : List String
  durationMs : Int
  completedAt : Option Time
  deriving DecidableEq

/-- What `str_strip_whitespace` makes of the fields given. -/
def JobResult.validated (r : JobResult) : JobResult :=
  { r with
    outputs := r.outputs.map stripKeys
    error := r.error.map stripWhitespace
    artifactUris := r.artifactUris.map stripWhitespace }

/-- `Credentials`. -/
structure Credentials where
  username : String
  password : String
  extra : Table String String
  deriving DecidableEq

/-- A handle on an element of the page. -/
abbrev Element : Type := Nat

/-- Operations on the page, on its elements and on the artifact sink. A click
names the entry of the selector pack it was taken from beside the selector. -/
inductive PageOp where
  | goto (url : String)
  | fill (selector value : String)
  | click (button selector : String)
  | textContent (selector : String)
  | setInputFiles (selector path : String)
  | querySelectorAll (selector : String)
  | elementQuery (element : Element) (selector : String)
  | elementText (element : Element)
  | elementAttribute (element : Element) (name : String)
  | elementClick (element : Element)
  | screenshot
  | putArtifact (folder file : String)
  deriving DecidableEq

/-- What an operation returns. -/
def PageOp.Answer : PageOp → Type
  | .goto _ | .fill _ _ | .click _ _ | .setInputFiles _ _ | .elementClick _ | .screenshot => Unit
  | .textContent _ | .elementText _ | .elementAttribute _ _ => Option String
  | .querySelectorAll _ => List Element
  | .elementQuery _ _ => Option Element
  | .putArtifact _ _ => String

/-- How the page reacts to one operation. -/
inductive Reaction (α : Type) where
  /-- Carried out, with this answer. -/
  | answered (a : α)
  /-- Raised, after or before it was carried out. -/
  | raised (received : Bool) (e : Exn)
  /-- Still waiting when the job's timeout cancels the handler. -/
  | stuck (received : Bool)

/-- How the page reacts to the n-th operation of an attempt. -/
abbrev Page : Type := (n : Nat) → (op : PageOp) → Reaction op.Answer

/-- A coroutine driving a page. Its state counts the operations asked for; it
yields those that were carried out. -/
abbrev Driving (α : Type) : Type := Gen Nat PageOp Halt α

/-- The operation as an event, when it was carried out. -/
def carriedOut (received : Bool) (op : PageOp) (n : Nat) : List (PageOp × Nat) :=
  if received then [(op,n)] else []

/-- Ask the page for one operation. -/
def ask (page : Page) (op : PageOp) : Driving op.Answer := fun n =>
  match page n op with
  | .answered a => ⟨carriedOut true op n,.ok a,n+1⟩
  | .raised received e => ⟨carriedOut received op n,.error (.raised e),n+1⟩
  | .stuck received => ⟨carriedOut received op n,.error .cancelled,n+1⟩

/-- `raise`. -/
def throwExn {α : Type} (e : Exn) : Driving α := fail (.raised e)

/-- A pure computation that may raise. -/
def attempt {α : Type} (x : Except Exn α) : Driving α := ofExcept (x.mapError .raised)

/-- `steps.goto`. -/
def goto (page : Page) (url : String) : Driving Unit := ask page (.goto url)

/-- `steps.fill`; the mask concerns the log only. -/
def fill (page : Page) (selector value : String) : Driving Unit := ask page (.fill selector value)

/-- `steps.click`. -/
def click (page : Page) (button selector : String) : Driving Unit :=
  ask page (.click button selector)

/-- `steps.upload_file`. -/
def uploadFile (page : Page) (selector path : String) : Driving Unit :=
  ask page (.setInputFiles selector path)

/-- `steps.extract_text`. -/
def extractText (page : Page) (selector : String) : Driving String := do
  let text : Option String ← ask page (.textContent selector)
  pure (pyStrip (text.getD ""))

/-- `steps.screenshot`. -/
def screenshot (page : Page) (label folder : String) : Driving String := do
  let _ ← ask page .screenshot
  ask page (.putArtifact folder (label++".png"))

/-- `HandlerContext`. -/
structure HandlerContext where
  job : Job
  page : Page
  credentials : Option Credentials
  tenantId : EntityId

/-- `HandlerFn`. -/
abbrev HandlerFn : Type := HandlerContext → Driving Outputs

/-- The handler registry. -/
abbrev Registry : Type := JobKind → Option HandlerFn

end Voyagent.BrowserJobs
