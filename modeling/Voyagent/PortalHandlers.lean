import Voyagent.BrowserJobs

/-!
# The handlers of the browser runner

The five handlers of the visa portal, with the login they share and the
selector packs they read, the two generic ones, and their registry. Filling the
form and booking an appointment end in one submitting click: the form's, and
the confirmation of the chosen slot. In one run of a handler that click is
carried out at most once, and by the other handlers never.
-/

namespace Voyagent.PortalHandlers

open KeyedMap GeneratorTraces GeneratorRelations RuntimeValues BrowserJobs

/-- Entries of a selector pack that the handlers read. -/
inductive SelectorKey where
  | loginUrl
  | loginEmail
  | loginPassword
  | loginSubmit
  | checklistUrl
  | checklistItem
  | formUrl
  | formSubmit
  | formConfirmationRef
  | uploadSelector
  | appointmentUrl
  | appointmentSlot
  | appointmentConfirm
  | statusUrl
  | statusText
  deriving DecidableEq

/-- The entry's name, and its value in `_DEFAULT_SELECTORS`. -/
def SelectorKey.entry : SelectorKey → String × String
  | .loginUrl => ("login_url","https://portal.example.invalid/vfs/login")
  | .loginEmail => ("login_email","#email")
  | .loginPassword => ("login_password","#password")
  | .loginSubmit => ("login_submit","button[data-voyagent-login]")
  | .checklistUrl => ("checklist_url","https://portal.example.invalid/vfs/checklist")
  | .checklistItem => ("checklist_item",".checklist-row")
  | .formUrl => ("form_url","https://portal.example.invalid/vfs/application/form")
  | .formSubmit => ("form_submit","button[data-voyagent-submit]")
  | .formConfirmationRef => ("form_confirmation_ref","[data-voyagent-application-ref]")
  | .uploadSelector => ("upload_selector","input[type=file][data-voyagent-upload]")
  | .appointmentUrl => ("appointment_url","https://portal.example.invalid/vfs/appointment")
  | .appointmentSlot => ("appointment_slot",".slot-available")
  | .appointmentConfirm => ("appointment_confirm","button[data-voyagent-confirm-slot]")
  | .statusUrl => ("status_url","https://portal.example.invalid/vfs/status")
  | .statusText => ("status_text","[data-voyagent-status]")

/-- A resolved selector pack. -/
abbrev Selectors : Type := SelectorKey → String

/-- `SELECTOR_OVERRIDES`. -/
abbrev Overrides : Type := Table String (Table String String)

/-- What the handlers use of Python on values of any type. -/
structure PortalLibrary where
  /-- `str(value)`. -/
  text : Json → String
  /-- `dict(value)` of a value that is no mapping. -/
  dictOf : Json → Except Exn (Table String Json)
  /-- Raised by `set(value)`. -/
  setOf : Json → Option Exn
  /-- `datetime.fromisoformat(value).astimezone(timezone.utc)`. -/
  fromIso : Json → Except Exn Time
  isoformat : Time → String
  /-- `str.lower()`. -/
  lower : String → String

/-- `_resolve`: the defaults under the country's overrides. -/
def resolve (overrides : Overrides) (country : Option Json) : Except Exn Selectors :=
  let merged := fun (pack : Table String String) (key : SelectorKey) =>
    (get pack key.entry.1).getD key.entry.2
  match country.filter isTruthy with
  | some (.str c) => .ok (merged ((get overrides c).getD []))
  | some (.arr items) =>
    .error ⟨"TypeError",[],"unhashable type: '"++pyTypeName (.arr items)++"'",none⟩
  | some (.obj fields) =>
    .error ⟨"TypeError",[],"unhashable type: '"++pyTypeName (.obj fields)++"'",none⟩
  | _ => .ok (merged [])

/-- `steps.click` on an entry of the pack. -/
def clickEntry (page : Page) (selectors : Selectors) (key : SelectorKey) : Driving Unit :=
  click page key.entry.1 (selectors key)

/-- `_ensure_logged_in`. -/
def ensureLoggedIn (ctx : HandlerContext) (selectors : Selectors) : Driving Unit :=
  match ctx.credentials with
  | none => throwExn ⟨"RuntimeError",[],
      "vfs handler requires credentials; tenant_credentials_ref did not resolve.",none⟩
  | some credentials => do
    goto ctx.page (selectors .loginUrl)
    fill ctx.page (selectors .loginEmail) credentials.username
    fill ctx.page (selectors .loginPassword) credentials.password
    clickEntry ctx.page selectors .loginSubmit

/-- `inputs.get(key)` as an output. -/
def echoed (inputs : Dict) (key : String) : String × Option Json :=
  (key,some ((get inputs key).getD .null))

/-- `str(inputs[key])`. -/
def requiredText (lib : PortalLibrary) (inputs : Dict) (key : String) : Except Exn String :=
  match get inputs key with
  | some v => .ok (lib.text v)
  | none => .error ⟨"KeyError",["LookupError"],"'"++key++"'",none⟩

/-- The text of an element, where there is one. -/
def elementText (page : Page) (default : String) : Option Element → Driving (Option String)
  | some el => ask page (.elementText el)
  | none => pure (some default)

/-- The items of the checklist's rows. -/
def checklistItems (lib : PortalLibrary) (page : Page) : List Element → Driving (List Json)
  | [] => pure []
  | row::rows => do
    let labelEl : Option Element ← ask page (.elementQuery row ".label")
    let requiredEl : Option Element ← ask page (.elementQuery row ".required")
    let labelText ← elementText page "" labelEl
    let requiredText ← elementText page "true" requiredEl
    let required := (requiredText.filter (fun s => decide (s≠""))).getD "true"
    let item := Json.obj [("label",.obj [("default",.str (pyStrip (labelText.getD "")))]),
      ("required",.bool (decide (lib.lower (pyStrip required)≠"false"))),("collected",.bool false),
      ("document_id",.null),("notes",.null)]
    let items ← checklistItems lib page rows
    pure (item::items)

/-- `handle_vfs_checklist_prepare`. -/
def handleVfsChecklistPrepare (lib : PortalLibrary) (overrides : Overrides) : HandlerFn := fun ctx => do
  let selectors ← attempt (resolve overrides (get ctx.job.inputs "destination_country"))
  ensureLoggedIn ctx selectors
  goto ctx.page (selectors .checklistUrl)
  let rows : List Element ← ask ctx.page (.querySelectorAll (selectors .checklistItem))
  let items ← checklistItems lib ctx.page rows
  pure [("items",some (.arr items)),echoed ctx.job.inputs "destination_country",
    echoed ctx.job.inputs "visa_category"]

/-- `dict(inputs.get("field_values") or {})`. -/
def fieldValues (lib : PortalLibrary) (inputs : Dict) : Except Exn (Table String Json) :=
  match given inputs "field_values" with
  | none => .ok []
  | some (.obj fields) => .ok fields
  | some v => lib.dictOf v

/-- `set(field_values.pop("__mask__", []) or [])`; its members matter to the
log only. -/
def maskSet (lib : PortalLibrary) (values : Table String Json) : Except Exn Unit :=
  match (given values "__mask__").bind lib.setOf with
  | none => .ok ()
  | some e => .error e

/-- Type every value into its field. -/
def fillFields (lib : PortalLibrary) (page : Page) : Table String Json → Driving Unit
  | [] => pure ()
  | (selector,value)::rest => do
    fill page selector (lib.text value)
    fillFields lib page rest

/-- `handle_vfs_fill_form`. -/
def handleVfsFillForm (lib : PortalLibrary) (overrides : Overrides) : HandlerFn := fun ctx => do
  let selectors ← attempt (resolve overrides (get ctx.job.inputs "destination_country"))
  let values ← attempt (fieldValues lib ctx.job.inputs)
  attempt (maskSet lib values)
  ensureLoggedIn ctx selectors
  goto ctx.page (selectors .formUrl)
  fillFields lib ctx.page (erase values "__mask__")
  clickEntry ctx.page selectors .formSubmit
  let applicationRef ← extractText ctx.page (selectors .formConfirmationRef)
  pure [echoed ctx.job.inputs "visa_file_id",("application_ref",some (.str applicationRef))]

/-- `handle_vfs_upload_document`. -/
def handleVfsUploadDocument (lib : PortalLibrary) (overrides : Overrides) : HandlerFn := fun ctx => do
  let selectors ← attempt (resolve overrides (get ctx.job.inputs "destination_country"))
  let localPath ← attempt (requiredText lib ctx.job.inputs "local_path")
  ensureLoggedIn ctx selectors
  uploadFile ctx.page (selectors .uploadSelector) localPath
  pure [echoed ctx.job.inputs "visa_file_id",echoed ctx.job.inputs "document_id",
    ("uploaded",some (.bool true))]

/-- `(inputs.get("preferred_window") or {}).get(key)`. -/
def windowBound (inputs : Dict) (key : String) : Except Exn (Option Json) :=
  match given inputs "preferred_window" with
  | none => .ok none
  | some (.obj fields) => .ok (given fields key)
  | some v =>
    .error ⟨"AttributeError",[],"'"++pyTypeName v++"' object has no attribute 'get'",none⟩

/-- The start and the end of the preferred window. -/
def preferredWindow (lib : PortalLibrary) (inputs : Dict) : Except Exn (Time × Option Time) := do
  let startIso ← windowBound inputs "start"
  let endIso ← windowBound inputs "end"
  match startIso with
  | none => .error ⟨"ValueError",["builtins.ValueError"],
      "vfs.book_appointment: preferred_window.start is required.",none⟩
  | some v =>
    let start ← lib.fromIso v
    match endIso with
    | none => pure (start,none)
    | some w => do
      let last ← lib.fromIso w
      pure (start,some last)

/-- The time a slot shows, if it shows one that can be read. -/
def slotTime (lib : PortalLibrary) (page : Page) (slot : Element) : Driving (Option Time) := do
  let timeAttrEl : Option Element ← ask page (.elementQuery slot "[data-time]")
  match timeAttrEl with
  | none => pure none
  | some el =>
    let raw : Option String ← ask page (.elementAttribute el "data-time")
    match raw.filter (fun s => decide (s≠"")) with
    | none => pure none
    | some s =>
      match lib.fromIso (.str s) with
      | .ok t => pure (some t)
      | .error e => if e.isInstance "builtins.ValueError" then pure none else throwExn e

/-- One of the two loops over the slots: the earliest of those kept. -/
def earliestSlot (lib : PortalLibrary) (page : Page) (keep : Time → Bool) :
    List Element → Option (Time × Element) → Driving (Option (Time × Element))
  | [],chosen => pure chosen
  | slot::slots,chosen => do
    let time ← slotTime lib page slot
    match time with
    | none => earliestSlot lib page keep slots chosen
    | some t =>
      if keep t && chosen.all (fun c => decide (t<c.1)) then
        earliestSlot lib page keep slots (some (t,slot))
      else earliestSlot lib page keep slots chosen

/-- A time inside the window. -/
def inWindow (window : Time × Option Time) (t : Time) : Bool :=
  decide (window.1 ≤ t) && window.2.all fun last => decide (t ≤ last)

/-- Take the chosen slot and confirm it. -/
def confirmSlot (lib : PortalLibrary) (ctx : HandlerContext) (selectors : Selectors) :
    Option (Time × Element) → Driving Outputs
  | none => throwExn ⟨"RuntimeError",[],"vfs.book_appointment: no appointment slots available.",none⟩
  | some (time,slot) => do
    let _ ← ask ctx.page (.elementClick slot)
    clickEntry ctx.page selectors .appointmentConfirm
    pure [echoed ctx.job.inputs "visa_file_id",
      ("appointment_at",some (.str (lib.isoformat time)))]

/-- `handle_vfs_book_appointment`. -/
def handleVfsBookAppointment (lib : PortalLibrary) (overrides : Overrides) : HandlerFn := fun ctx => do
  let selectors ← attempt (resolve overrides (get ctx.job.inputs "destination_country"))
  let window ← attempt (preferredWindow lib ctx.job.inputs)
  ensureLoggedIn ctx selectors
  goto ctx.page (selectors .appointmentUrl)
  let slots : List Element ← ask ctx.page (.querySelectorAll (selectors .appointmentSlot))
  let inside ← earliestSlot lib ctx.page (inWindow window) slots none
  match inside with
  | some chosen => confirmSlot lib ctx selectors (some chosen)
  | none => do
    -- Nothing inside the window: the earliest slot regardless.
    let chosen ← earliestSlot lib ctx.page (fun _ => true) slots none
    confirmSlot lib ctx selectors chosen

/-- The members of `VisaStatus` that the status map uses. -/
inductive VisaStatus where
  | draft
  | applicationSubmitted
  | appointmentBooked
  | biometricsDone
  | inProcess
  | approved
  | rejected
  | withdrawn
  deriving DecidableEq

def VisaStatus.value : VisaStatus → String
  | .draft => "draft"
  | .applicationSubmitted => "application_submitted"
  | .appointmentBooked => "appointment_booked"
  | .biometricsDone => "biometrics_done"
  | .inProcess => "in_process"
  | .approved => "approved"
  | .rejected => "rejected"
  | .withdrawn => "withdrawn"

/-- `_STATUS_MAP`. -/
def statusMap : Table String VisaStatus :=
  [("draft",.draft),("submitted",.applicationSubmitted),
    ("application submitted",.applicationSubmitted),("appointment booked",.appointmentBooked),
    ("biometrics done",.biometricsDone),("in process",.inProcess),("processing",.inProcess),
    ("approved",.approved),("issued",.approved),("granted",.approved),("rejected",.rejected),
    ("refused",.rejected),("withdrawn",.withdrawn)]

/-- `handle_vfs_read_status`. -/
def handleVfsReadStatus (lib : PortalLibrary) (overrides : Overrides) : HandlerFn := fun ctx => do
  let selectors ← attempt (resolve overrides (get ctx.job.inputs "destination_country"))
  let ref ← attempt (requiredText lib ctx.job.inputs "application_ref")
  ensureLoggedIn ctx selectors
  goto ctx.page (selectors .statusUrl++"?ref="++ref)
  let raw ← extractText ctx.page (selectors .statusText)
  let canonical := (get statusMap (lib.lower (pyStrip raw))).getD .inProcess
  pure [("application_ref",some (.str ref)),("status",some (.str canonical.value)),
    ("raw_status",some (.str raw))]

/-- `handle_generic_screenshot`. -/
def handleGenericScreenshot (lib : PortalLibrary) : HandlerFn := fun ctx => do
  let url ← attempt (requiredText lib ctx.job.inputs "url")
  let label := lib.text ((get ctx.job.inputs "label").getD (.str "page"))
  goto ctx.page url
  let uri ← screenshot ctx.page label (ctx.tenantId++"/"++ctx.job.id)
  pure [("artifact_uri",some (.str uri))]

/-- `handle_generic_goto_and_extract`. -/
def handleGenericGotoAndExtract (lib : PortalLibrary) : HandlerFn := fun ctx => do
  let url ← attempt (requiredText lib ctx.job.inputs "url")
  let selector ← attempt (requiredText lib ctx.job.inputs "selector")
  goto ctx.page url
  let text ← extractText ctx.page selector
  pure [("text",some (.str text))]

/-- `_register_builtins`. -/
def builtins (lib : PortalLibrary) (overrides : Overrides) : Registry
  | .vfsChecklistPrepare => some (handleVfsChecklistPrepare lib overrides)
  | .vfsFillForm => some (handleVfsFillForm lib overrides)
  | .vfsUploadDocument => some (handleVfsUploadDocument lib overrides)
  | .vfsBookAppointment => some (handleVfsBookAppointment lib overrides)
  | .vfsReadStatus => some (handleVfsReadStatus lib overrides)
  | .genericScreenshot => some (handleGenericScreenshot lib)
  | .genericGotoAndExtract => some (handleGenericGotoAndExtract lib)

/-- The clicks that make the portal act on the application. -/
def submits : PageOp → Bool
  | .click button _ =>
    button==SelectorKey.formSubmit.entry.1 || button==SelectorKey.appointmentConfirm.entry.1
  | _ => false

theorem ask_atMost (page : Page) (op : PageOp) :
    AtMost submits (if submits op then 1 else 0) (ask page op) := by
  intro n
  have hevent : ∀ received,((carriedOut received op n).map Prod.fst).countP submits ≤
      if submits op then 1 else 0 := by
    intro received
    unfold carriedOut
    split
    · rw [List.map_singleton,List.countP_singleton]
    · exact Nat.zero_le _
  unfold ask
  split
  · exact hevent true
  · exact hevent _
  · exact hevent _

/-- An operation that does not submit. -/
theorem ask_quiet {page : Page} {op : PageOp} (h : submits op=false) :
    AtMost submits 0 (ask page op) := by
  have hask := ask_atMost page op
  rw [h] at hask
  exact hask

theorem attempt_quiet {α : Type} {x : Except Exn α} : AtMost submits 0 (attempt x) :=
  AtMost.ofExcept

theorem throwExn_quiet {α : Type} {e : Exn} : AtMost submits 0 (throwExn e : Driving α) :=
  AtMost.fail

theorem ensureLoggedIn_quiet (ctx : HandlerContext) (selectors : Selectors) :
    AtMost submits 0 (ensureLoggedIn ctx selectors) := by
  unfold ensureLoggedIn
  split
  · exact throwExn_quiet
  · refine AtMost.quiet_bind (ask_quiet rfl) fun _ => ?_
    refine AtMost.quiet_bind (ask_quiet rfl) fun _ => ?_
    refine AtMost.quiet_bind (ask_quiet rfl) fun _ => ?_
    exact ask_quiet rfl

theorem fillFields_quiet (lib : PortalLibrary) (page : Page) (values : Table String Json) :
    AtMost submits 0 (fillFields lib page values) := by
  induction values with
  | nil => exact AtMost.pure
  | cons e rest ih => exact AtMost.quiet_bind (ask_quiet rfl) fun _ => ih

theorem slotTime_quiet (lib : PortalLibrary) (page : Page) (slot : Element) :
    AtMost submits 0 (slotTime lib page slot) := by
  refine AtMost.quiet_bind (ask_quiet rfl) fun found => ?_
  cases found with
  | none => exact AtMost.pure
  | some el =>
    refine AtMost.quiet_bind (ask_quiet rfl) fun raw => ?_
    split
    · exact AtMost.pure
    · split
      · exact AtMost.pure
      · split
        · exact AtMost.pure
        · exact throwExn_quiet

theorem earliestSlot_quiet (lib : PortalLibrary) (page : Page) (keep : Time → Bool)
    (slots : List Element) (chosen : Option (Time × Element)) :
    AtMost submits 0 (earliestSlot lib page keep slots chosen) := by
  induction slots generalizing chosen with
  | nil => exact AtMost.pure
  | cons slot slots ih =>
    refine AtMost.quiet_bind (slotTime_quiet lib page slot) fun time => ?_
    cases time with
    | none => exact ih chosen
    | some t =>
      dsimp only
      split
      · exact ih _
      · exact ih chosen

theorem extractText_quiet (page : Page) (selector : String) :
    AtMost submits 0 (extractText page selector) :=
  AtMost.quiet_bind (ask_quiet rfl) fun _ => AtMost.pure

theorem elementText_quiet (page : Page) (default : String) (el : Option Element) :
    AtMost submits 0 (elementText page default el) := by
  cases el with
  | none => exact AtMost.pure
  | some el => exact ask_quiet rfl

section

variable (lib : PortalLibrary)

include lib

theorem checklistItems_quiet (page : Page) (rows : List Element) :
    AtMost submits 0 (checklistItems lib page rows) := by
  induction rows with
  | nil => exact AtMost.pure
  | cons row rows ih =>
    refine AtMost.quiet_bind (ask_quiet rfl) fun labelEl => ?_
    refine AtMost.quiet_bind (ask_quiet rfl) fun requiredEl => ?_
    refine AtMost.quiet_bind (elementText_quiet page "" labelEl) fun _ => ?_
    refine AtMost.quiet_bind (elementText_quiet page "true" requiredEl) fun _ => ?_
    exact AtMost.quiet_bind ih fun _ => AtMost.pure

theorem handleVfsChecklistPrepare_quiet (overrides : Overrides)
    (ctx : HandlerContext) : AtMost submits 0 (handleVfsChecklistPrepare lib overrides ctx) := by
  refine AtMost.quiet_bind attempt_quiet fun selectors => ?_
  refine AtMost.quiet_bind (ensureLoggedIn_quiet ctx selectors) fun _ => ?_
  refine AtMost.quiet_bind (ask_quiet rfl) fun _ => ?_
  refine AtMost.quiet_bind (ask_quiet rfl) fun rows => ?_
  exact AtMost.quiet_bind (checklistItems_quiet lib ctx.page rows) fun _ => AtMost.pure

theorem handleVfsUploadDocument_quiet (overrides : Overrides)
    (ctx : HandlerContext) : AtMost submits 0 (handleVfsUploadDocument lib overrides ctx) := by
  refine AtMost.quiet_bind attempt_quiet fun selectors => ?_
  refine AtMost.quiet_bind attempt_quiet fun _ => ?_
  refine AtMost.quiet_bind (ensureLoggedIn_quiet ctx selectors) fun _ => ?_
  exact AtMost.quiet_bind (ask_quiet rfl) fun _ => AtMost.pure

theorem handleVfsReadStatus_quiet (overrides : Overrides)
    (ctx : HandlerContext) : AtMost submits 0 (handleVfsReadStatus lib overrides ctx) := by
  refine AtMost.quiet_bind attempt_quiet fun selectors => ?_
  refine AtMost.quiet_bind attempt_quiet fun _ => ?_
  refine AtMost.quiet_bind (ensureLoggedIn_quiet ctx selectors) fun _ => ?_
  refine AtMost.quiet_bind (ask_quiet rfl) fun _ => ?_
  exact AtMost.quiet_bind (extractText_quiet ctx.page _) fun _ => AtMost.pure

theorem handleGenericScreenshot_quiet (ctx : HandlerContext) :
    AtMost submits 0 (handleGenericScreenshot lib ctx) := by
  refine AtMost.quiet_bind attempt_quiet fun _ => ?_
  refine AtMost.quiet_bind (ask_quiet rfl) fun _ => ?_
  refine AtMost.quiet_bind ?_ fun _ => AtMost.pure
  exact AtMost.quiet_bind (ask_quiet rfl) fun _ => ask_quiet rfl

theorem handleGenericGotoAndExtract_quiet (ctx : HandlerContext) :
    AtMost submits 0 (handleGenericGotoAndExtract lib ctx) := by
  refine AtMost.quiet_bind attempt_quiet fun _ => ?_
  refine AtMost.quiet_bind attempt_quiet fun selector => ?_
  refine AtMost.quiet_bind (ask_quiet rfl) fun _ => ?_
  exact AtMost.quiet_bind (extractText_quiet ctx.page selector) fun _ => AtMost.pure

/-- Filling the form submits it at most once. -/
theorem handleVfsFillForm_atMost (overrides : Overrides)
    (ctx : HandlerContext) : AtMost submits 1 (handleVfsFillForm lib overrides ctx) := by
  refine AtMost.quiet_bind attempt_quiet fun selectors => ?_
  refine AtMost.quiet_bind attempt_quiet fun values => ?_
  refine AtMost.quiet_bind attempt_quiet fun _ => ?_
  refine AtMost.quiet_bind (ensureLoggedIn_quiet ctx selectors) fun _ => ?_
  refine AtMost.quiet_bind (ask_quiet rfl) fun _ => ?_
  refine AtMost.quiet_bind (fillFields_quiet lib ctx.page _) fun _ => ?_
  refine AtMost.bind_quiet (ask_atMost ctx.page _) fun _ => ?_
  exact AtMost.quiet_bind (extractText_quiet ctx.page _) fun _ => AtMost.pure

theorem confirmSlot_atMost (ctx : HandlerContext) (selectors : Selectors)
    (chosen : Option (Time × Element)) : AtMost submits 1 (confirmSlot lib ctx selectors chosen) := by
  cases chosen with
  | none => exact throwExn_quiet.mono (Nat.zero_le 1)
  | some c =>
    refine AtMost.quiet_bind (ask_quiet rfl) fun _ => ?_
    exact AtMost.bind_quiet (ask_atMost ctx.page _) fun _ => AtMost.pure

/-- Booking confirms a slot at most once. -/
theorem handleVfsBookAppointment_atMost (overrides : Overrides)
    (ctx : HandlerContext) : AtMost submits 1 (handleVfsBookAppointment lib overrides ctx) := by
  refine AtMost.quiet_bind attempt_quiet fun selectors => ?_
  refine AtMost.quiet_bind attempt_quiet fun window => ?_
  refine AtMost.quiet_bind (ensureLoggedIn_quiet ctx selectors) fun _ => ?_
  refine AtMost.quiet_bind (ask_quiet rfl) fun _ => ?_
  refine AtMost.quiet_bind (ask_quiet rfl) fun slots => ?_
  refine AtMost.quiet_bind (earliestSlot_quiet lib ctx.page _ slots none) fun inside => ?_
  cases inside with
  | some chosen => exact confirmSlot_atMost lib ctx selectors (some chosen)
  | none =>
    exact AtMost.quiet_bind (earliestSlot_quiet lib ctx.page _ slots none) fun chosen =>
      confirmSlot_atMost lib ctx selectors chosen

end

/-- The kinds whose handlers submit something. -/
def isSubmitting : JobKind → Bool
  | .vfsFillForm | .vfsBookAppointment => true
  | _ => false

variable {handler : HandlerFn} {lib : PortalLibrary} {overrides : Overrides}

/-- A handler of the registry submits at most once, and only for those kinds. -/
theorem builtins_atMost {kind : JobKind} (h : builtins lib overrides kind=some handler)
    (ctx : HandlerContext) : AtMost submits (if isSubmitting kind then 1 else 0) (handler ctx) := by
  cases kind <;> cases h
  · exact handleVfsChecklistPrepare_quiet lib overrides ctx
  · exact handleVfsFillForm_atMost lib overrides ctx
  · exact handleVfsUploadDocument_quiet lib overrides ctx
  · exact handleVfsBookAppointment_atMost lib overrides ctx
  · exact handleVfsReadStatus_quiet lib overrides ctx
  · exact handleGenericScreenshot_quiet lib ctx
  · exact handleGenericGotoAndExtract_quiet lib ctx

end Voyagent.PortalHandlers
