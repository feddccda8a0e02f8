import Voyagent.Enquiries

/-!
# Tenant runtime settings

The row of `tenant_settings`, the PATCH that updates it and the settings the
runtime reads from it. Limits are integers, identifiers keep their own type.
-/

namespace Voyagent.SettingsPatches

open AuthEndpoints (HttpError)
open AuthAccounts (UserRole)
open ApprovalResolution (changed)
open JournalPosting (maxInteger)

/-! ## The row -/

/-- The columns of a stored row; its defaults are those of a row nobody patched. -/
structure TenantSettingsRow where
  model : Option String := none
  systemPromptSuffix : Option String := none
  rateLimitPerMinute : Int := 60
  rateLimitPerHour : Int := 1000
  dailyTokenBudget : Option Int := none
  locale : String := "en"
  timezone : String := "UTC"
  defaultCurrency : String := "INR"
  deriving DecidableEq

/-- The integer columns and the CHECK constraints of the table. -/
def Storable (row : TenantSettingsRow) : Prop :=
  (0<row.rateLimitPerMinute ∧ row.rateLimitPerMinute≤ maxInteger) ∧
  (0<row.rateLimitPerHour ∧ row.rateLimitPerHour≤ maxInteger) ∧
  (∀ n∈row.dailyTokenBudget,n.natAbs≤ maxInteger) ∧ row.defaultCurrency.length=3

instance (row : TenantSettingsRow) : Decidable (Storable row) := by
  unfold Storable
  infer_instance

/-! ## The PATCH -/

/-- `SUPPORTED_MODELS`. -/
def supportedModels : List String :=
  ["claude-sonnet-4-5","claude-opus-4-6","claude-haiku-4-5-20251001"]

def supportedLocales : List String := ["en","hi"]

/-- A given value meets the check of its field; null is always accepted. -/
def Checked {α : Type} (field : Enquiries.Field α) (check : α → Prop) : Prop :=
  ∀ given∈field,∀ value∈given,check value

instance {α : Type} (field : Enquiries.Field α) (check : α → Prop) [DecidablePred check] :
    Decidable (Checked field check) := by
  unfold Checked
  infer_instance

/-- The fields of a body as they were sent. -/
structure SettingsFields where
  model : Enquiries.Field String := none
  systemPromptSuffix : Enquiries.Field String := none
  rateLimitPerMinute : Enquiries.Field Int := none
  rateLimitPerHour : Enquiries.Field Int := none
  dailyTokenBudget : Enquiries.Field Int := none
  locale : Enquiries.Field String := none
  timezone : Enquiries.Field String := none
  defaultCurrency : Enquiries.Field String := none

/-- What the request model checks. -/
def SettingsFields.Valid (body : SettingsFields) : Prop :=
  Checked body.model (· ∈ supportedModels) ∧
  Checked body.systemPromptSuffix (·.length≤10000) ∧
  Checked body.rateLimitPerMinute (fun n => 0<n ∧ n≤10000) ∧
  Checked body.rateLimitPerHour (fun n => 0<n ∧ n≤1000000) ∧
  Checked body.dailyTokenBudget (fun n => 0<n) ∧
  Checked body.locale (· ∈ supportedLocales) ∧
  Checked body.timezone (·.length≤64) ∧
  Checked body.defaultCurrency (fun code => code.length=3 ∧ code.toList.all Char.isUpper=true)

instance (body : SettingsFields) : Decidable body.Valid := by
  unfold SettingsFields.Valid
  infer_instance

/-- A body its request model accepted. -/
structure TenantSettingsPatchRequest extends SettingsFields where
  valid : toSettingsFields.Valid

/-- The verified caller. -/
structure Principal where
  tenantId : String
  role : String

/-- The admin's tenant. -/
def adminTenant {υ : Type} (parse : String → Option υ) (p : Principal) : Except HttpError υ :=
  if p.role=UserRole.agencyAdmin.value then
    match parse p.tenantId with
    | some t => .ok t
    | none => .error ⟨401,"unauthorized"⟩
  else .error ⟨403,"forbidden_role"⟩

/-- A nullable column after the update of a loaded copy. -/
def writeNullable {α : Type} [DecidableEq α] (field : Enquiries.Field α) (loaded old : Option α) :
    Option α :=
  changed loaded (field.getD loaded) old

/-- A column after the update of a loaded copy, unless it was set to null. -/
def writeColumn {α : Type} [DecidableEq α] (field : Enquiries.Field α) (loaded old : α) :
    Option α :=
  match field with
  | none => some old
  | some none => none
  | some (some value) => some (changed loaded value old)

/-- The committed row after the update of a loaded copy the body was set on,
unless the database refuses it. -/
def updatedRow (body : SettingsFields) (loaded row : TenantSettingsRow) :
    Option TenantSettingsRow := do
  let perMinute ← writeColumn body.rateLimitPerMinute loaded.rateLimitPerMinute row.rateLimitPerMinute
  let perHour ← writeColumn body.rateLimitPerHour loaded.rateLimitPerHour row.rateLimitPerHour
  let locale ← writeColumn body.locale loaded.locale row.locale
  let timezone ← writeColumn body.timezone loaded.timezone row.timezone
  let currency ← writeColumn body.defaultCurrency loaded.defaultCurrency row.defaultCurrency
  let row' : TenantSettingsRow := {
    model := writeNullable body.model loaded.model row.model
    systemPromptSuffix :=
      writeNullable body.systemPromptSuffix loaded.systemPromptSuffix row.systemPromptSuffix
    rateLimitPerMinute := perMinute
    rateLimitPerHour := perHour
    dailyTokenBudget := writeNullable body.dailyTokenBudget loaded.dailyTokenBudget row.dailyTokenBudget
    locale := locale
    timezone := timezone
    defaultCurrency := currency }
  if Storable row' then some row' else none

/-- The body changes a column of the loaded copy, so that its commit updates the row. -/
def changesRow (body : SettingsFields) (loaded : TenantSettingsRow) : Prop :=
  updatedRow body loaded loaded≠some loaded

instance (body : SettingsFields) (loaded : TenantSettingsRow) :
    Decidable (changesRow body loaded) := by
  unfold changesRow
  infer_instance

/-! ## The settings of the runtime -/

/-- `TenantSettings`. -/
structure TenantSettings where
  tenantId : String
  model : Option String := none
  systemPromptSuffix : Option String := none
  rateLimitPerMinute : Int := 60
  rateLimitPerHour : Int := 1000
  dailyTokenBudget : Option Int := none
  locale : String := "en"
  timezone : String := "UTC"
  defaultCurrency : String := "INR"
  deriving DecidableEq

def TenantSettings.defaults (tenantId : String) : TenantSettings := {tenantId := tenantId}

/-- The settings of a row; a model that is not supported is ignored. -/
def TenantSettings.ofRow (tenantId : String) (row : TenantSettingsRow) : TenantSettings where
  tenantId := tenantId
  model := row.model.filter fun m => decide (m∈supportedModels)
  systemPromptSuffix := row.systemPromptSuffix
  rateLimitPerMinute := row.rateLimitPerMinute
  rateLimitPerHour := row.rateLimitPerHour
  dailyTokenBudget := row.dailyTokenBudget
  locale := row.locale
  timezone := row.timezone
  defaultCurrency := row.defaultCurrency

end Voyagent.SettingsPatches
