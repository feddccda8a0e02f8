import Voyagent.LruCache
import Voyagent.TenantCredentials
import Voyagent.TransitionRuns

/-!
# Per-tenant driver registries

The two credential resolvers, the driver builders and the cache of
`TenantRegistry`. With the storage module importable, credentials come from the
hook; where the hook raises, the resolver falls back to the credentials of the
process environment, which every tenant shares. Without such a fallback every
driver in every registry was built from credentials stored for its tenant.
-/

namespace Voyagent.TenantDrivers

open KeyedMap LruCache TransitionRuns RuntimeValues TenantCredentials

/-- A credentials dictionary. -/
abbrev Creds : Type := Table String String

/-- What the hook returned. -/
inductive HookValue where
  | absent
  | dict (creds : Creds)
  | other

/-- `self._env.get(key, default)`. -/
def envGet (env : Table String String) (key default : String) : String :=
  (KeyedMap.get env key).getD default

/-- `EnvCredentialResolver`: the same for every tenant. -/
def envCredentialResolver (env : Table String String) (provider : String) : Option Creds :=
  if provider="amadeus" then
    some [("client_id",envGet env "VOYAGENT_AMADEUS_CLIENT_ID" ""),
      ("client_secret",envGet env "VOYAGENT_AMADEUS_CLIENT_SECRET" ""),
      ("api_base",envGet env "VOYAGENT_AMADEUS_API_BASE" "https://test.api.amadeus.com")]
  else if provider="tbo" then
    let username := envGet env "VOYAGENT_TBO_USERNAME" ""
    let password := envGet env "VOYAGENT_TBO_PASSWORD" ""
    if username="" ∨ password="" then none
    else some [("username",username),("password",password),
      ("api_base",envGet env "VOYAGENT_TBO_API_BASE"
        "https://api.tbotechnology.in/TBOHolidays_HotelAPI")]
  else none

/-- `StorageCredentialResolver`: the storage module, its hook and what calling
it comes to, with the fallback's answer. -/
def storageCredentialResolver (storage : Option (Option (Except Exn HookValue)))
    (fallback : Option Creds) : Option Creds :=
  match storage with
  | none => fallback
  | some none => fallback
  | some (some (.error _)) => fallback
  | some (some (.ok .absent)) => none
  | some (some (.ok (.dict creds))) => some creds
  | some (some (.ok .other)) => fallback

/-- A driver, as its configuration. -/
inductive Driver where
  | amadeus (apiBase clientId clientSecret : String)
  | tbo (apiBase username password : String)
  deriving DecidableEq

/-- What a deployment of the runtime has. -/
structure Deployment where
  lib : StorageLibrary
  env : Table String String
  /-- The driver's wheel is installed and its configuration accepts the values. -/
  accepts : Driver → Bool
  maxEntries : Nat

/-- `creds.get(key, default)`. -/
def credential (creds : Creds) (key default : String) : String :=
  (KeyedMap.get creds key).getD default

/-- `_build_amadeus_driver`. -/
def buildAmadeusDriver (dep : Deployment) (creds : Creds) : Option Driver :=
  let driver := Driver.amadeus (credential creds "api_base" "https://test.api.amadeus.com")
    (credential creds "client_id" "") (credential creds "client_secret" "")
  if dep.accepts driver then some driver else none

/-- `_build_tbo_driver`; the driver refuses an empty name or password. -/
def buildTboDriver (dep : Deployment) (creds : Creds) : Option Driver :=
  let username := credential creds "username" ""
  let password := credential creds "password" ""
  let driver := Driver.tbo
    (credential creds "api_base" "https://api.tbotechnology.in/TBOHolidays_HotelAPI") username password
  if dep.accepts driver && decide (username≠"") && decide (password≠"") then some driver else none

/-- `DriverRegistry`. -/
structure DriverRegistry where
  byProtocol : Table String Driver
  all : List Driver
  deriving DecidableEq

/-- `register`. -/
def DriverRegistry.register (r : DriverRegistry) (protocol : String) (driver : Driver) :
    DriverRegistry :=
  ⟨set r.byProtocol protocol driver,if driver∈r.all then r.all else r.all++[driver]⟩

/-- `StorageCredentialResolver` over the hook that the storage module has. -/
def resolver (dep : Deployment) (v : Vault) (tenantId : EntityId) (provider : String) :
    Option Creds :=
  let hook := (resolveTenantCredentials dep.lib v tenantId provider).map fun found =>
    match found with
    | none => HookValue.absent
    | some creds => .dict creds
  storageCredentialResolver (some (some hook)) (envCredentialResolver dep.env provider)

/-- Register a driver under its two protocols, if there is one. -/
def DriverRegistry.withDriver (r : DriverRegistry) (search booking : String) :
    Option Driver → DriverRegistry
  | none => r
  | some driver => (r.register search driver).register booking driver

/-- `_build_for`. Each provider is looked up in the storage as it then stands. -/
def buildFor (dep : Deployment) (vaults : String → Vault) (tenantId : EntityId) : DriverRegistry :=
  let amadeus := (resolver dep (vaults "amadeus") tenantId "amadeus").bind (buildAmadeusDriver dep)
  let tbo := (resolver dep (vaults "tbo") tenantId "tbo").bind (buildTboDriver dep)
  ((DriverRegistry.mk [] []).withDriver "FareSearchDriver" "PNRDriver" amadeus).withDriver
    "HotelSearchDriver" "HotelBookingDriver" tbo

/-- The registry's cache, and what happened before. -/
structure RegistryState where
  /-- Cached registries, the least recently used first. -/
  entries : Table EntityId DriverRegistry
  /-- Registries handed out, with the tenants they were asked for. -/
  returned : List (EntityId × DriverRegistry)
  /-- Every state of the storage that a lookup has met. -/
  met : List Vault

inductive Act where
  /-- A call of `get`, with the storage as its lookups find it. -/
  | get (tenantId : EntityId) (vaults : String → Vault)
  | closeAll

/-- One call, under the registry's lock. -/
def step (dep : Deployment) (s : RegistryState) : Act → RegistryState
  | .get tenantId vaults =>
    match KeyedMap.get s.entries tenantId with
    | some registry =>
      { s with
        entries := touch s.entries tenantId
        returned := s.returned++[(tenantId,registry)] }
    | none =>
      let registry := buildFor dep vaults tenantId
      { entries := store dep.maxEntries s.entries tenantId registry
        returned := s.returned++[(tenantId,registry)]
        met := s.met++[vaults "amadeus",vaults "tbo"] }
  | .closeAll => { s with entries := [] }

/-- The runs of a registry. -/
def Step (dep : Deployment) : RegistryState → Act → RegistryState → Prop :=
  ofPartial fun s a => some (step dep s a)

/-- An empty cache. -/
def fresh : RegistryState := ⟨[],[],[]⟩

/-- The builder of a provider's driver. -/
def buildDriver (dep : Deployment) (provider : String) (creds : Creds) : Option Driver :=
  if provider="amadeus" then buildAmadeusDriver dep creds
  else if provider="tbo" then buildTboDriver dep creds
  else none

/-- A driver was built from credentials stored for the tenant. -/
def OwnDriver (dep : Deployment) (met : List Vault) (tenantId : EntityId) (driver : Driver) : Prop :=
  ∃ v∈met,∃ provider creds,StoredFor dep.lib v tenantId provider creds ∧
    buildDriver dep provider creds=some driver

/-- Every driver a registry lists or resolves was. -/
def OwnRegistry (dep : Deployment) (met : List Vault) (tenantId : EntityId) (r : DriverRegistry) :
    Prop :=
  (∀ driver∈r.all,OwnDriver dep met tenantId driver) ∧
    ∀ e∈r.byProtocol,OwnDriver dep met tenantId e.2

/-- Every registry cached for a tenant or returned to it is its own. -/
structure Isolated (dep : Deployment) (s : RegistryState) : Prop where
  cached : ∀ e∈s.entries,OwnRegistry dep s.met e.1 e.2
  returned : ∀ e∈s.returned,OwnRegistry dep s.met e.1 e.2

/-- At a call that builds a registry, the hook can answer for each provider, or
the environment has no credentials a driver could be built from. -/
def NoFallback (dep : Deployment) (s : RegistryState) (a : Act) : Prop :=
  ∀ tenantId vaults,a=.get tenantId vaults → KeyedMap.get s.entries tenantId=none →
    ∀ provider,Answers dep.lib (vaults provider) tenantId provider ∨
      (envCredentialResolver dep.env provider).bind (buildDriver dep provider)=none

variable {dep : Deployment} {s : RegistryState} {v : Vault} {tenantId : EntityId} {provider : String}

/-- The resolver gives what is stored for the tenant, or falls back. -/
theorem resolver_cases (dep : Deployment) (v : Vault) (tenantId : EntityId) (provider : String) :
    (Answers dep.lib v tenantId provider ∧ ∀ creds,resolver dep v tenantId provider=some creds →
      StoredFor dep.lib v tenantId provider creds) ∨
    (¬Answers dep.lib v tenantId provider ∧
      resolver dep v tenantId provider=envCredentialResolver dep.env provider) := by
  cases hhook : resolveTenantCredentials dep.lib v tenantId provider with
  | ok found =>
    refine .inl ⟨resolve_ok_iff.mp ⟨found,hhook⟩,fun creds hcreds => ?_⟩
    rw [resolver,hhook] at hcreds
    cases found with
    | none => cases hcreds
    | some own =>
      cases hcreds
      exact resolve_own hhook
  | error e =>
    refine .inr ⟨fun hanswers => ?_,?_⟩
    · obtain ⟨x,hx⟩ := resolve_ok_iff.mpr hanswers
      cases hhook.symm.trans hx
    · rw [resolver,hhook]
      rfl

variable {driver : Driver} {met : List Vault}

theorem OwnDriver.mono {met' : List Vault} (hsub : met ⊆ met')
    (h : OwnDriver dep met tenantId driver) : OwnDriver dep met' tenantId driver := by
  obtain ⟨v,hv,hrest⟩ := h
  exact ⟨v,hsub hv,hrest⟩

theorem OwnRegistry.mono {met met' : List Vault} {r : DriverRegistry} (hsub : met ⊆ met')
    (h : OwnRegistry dep met tenantId r) : OwnRegistry dep met' tenantId r :=
  ⟨fun driver hd => (h.1 driver hd).mono hsub,fun e he => (h.2 e he).mono hsub⟩

variable {r : DriverRegistry}

theorem OwnRegistry.register (protocol : String) (h : OwnRegistry dep met tenantId r)
    (hd : OwnDriver dep met tenantId driver) :
    OwnRegistry dep met tenantId (r.register protocol driver) := by
  constructor
  · intro d hmem
    change d∈(if driver∈r.all then r.all else r.all++[driver]) at hmem
    split at hmem
    · exact h.1 d hmem
    · rcases List.mem_append.mp hmem with hold|hnew
      · exact h.1 d hold
      · exact List.mem_singleton.mp hnew ▸ hd
  · intro e hmem
    rcases mem_set hmem with rfl|hold
    · exact hd
    · exact h.2 e hold

theorem OwnRegistry.withDriver {found : Option Driver} (search booking : String)
    (h : OwnRegistry dep met tenantId r)
    (hd : ∀ driver,found=some driver → OwnDriver dep met tenantId driver) :
    OwnRegistry dep met tenantId (r.withDriver search booking found) := by
  cases found with
  | none => exact h
  | some driver => exact (h.register search (hd driver rfl)).register booking (hd driver rfl)

/-- A lookup that does not fall back to usable credentials gives a driver built
from the tenant's own, or none. -/
theorem lookup_own (hv : v∈met) (h : Answers dep.lib v tenantId provider ∨
      (envCredentialResolver dep.env provider).bind (buildDriver dep provider)=none)
    (hbuilt : (resolver dep v tenantId provider).bind (buildDriver dep provider)=some driver) :
    OwnDriver dep met tenantId driver := by
  obtain ⟨creds,hcreds,hdriver⟩ := Option.bind_eq_some_iff.mp hbuilt
  rcases resolver_cases dep v tenantId provider with ⟨-,hown⟩|⟨hnot,henv⟩
  · exact ⟨v,hv,provider,creds,hown creds hcreds,hdriver⟩
  · have hnone := h.resolve_left hnot
    rw [← henv,hbuilt] at hnone
    cases hnone

theorem buildFor_own {vaults : String → Vault} (hamadeus : vaults "amadeus"∈met)
    (htbo : vaults "tbo"∈met) (h : ∀ provider,Answers dep.lib (vaults provider) tenantId provider ∨
      (envCredentialResolver dep.env provider).bind (buildDriver dep provider)=none) :
    OwnRegistry dep met tenantId (buildFor dep vaults tenantId) := by
  have hempty : OwnRegistry dep met tenantId ⟨[],[]⟩ :=
    ⟨fun _ hd => (List.not_mem_nil hd).elim,fun _ he => (List.not_mem_nil he).elim⟩
  refine (hempty.withDriver _ _ fun driver hd => ?_).withDriver _ _ fun driver hd => ?_
  · exact lookup_own hamadeus (h "amadeus") hd
  · exact lookup_own htbo (h "tbo") hd

/-- What one call without a fallback preserves. -/
theorem Isolated.step {a : Act} (hs : Isolated dep s) (h : NoFallback dep s a) :
    Isolated dep (step dep s a) := by
  cases a with
  | closeAll => exact ⟨fun _ he => (List.not_mem_nil he).elim,hs.returned⟩
  | get tenantId vaults =>
    unfold TenantDrivers.step
    dsimp only
    cases hget : KeyedMap.get s.entries tenantId with
    | some registry =>
      refine ⟨fun e he => hs.cached e ((touch_perm _ _).mem_iff.mp he),fun e he => ?_⟩
      rcases List.mem_append.mp he with hold|hnew
      · exact hs.returned e hold
      · rw [List.mem_singleton.mp hnew]
        exact hs.cached _ (mem_of_get hget)
    | none =>
      have hsub : s.met ⊆ s.met++[vaults "amadeus",vaults "tbo"] := List.subset_append_left _ _
      have hown : OwnRegistry dep (s.met++[vaults "amadeus",vaults "tbo"]) tenantId
          (buildFor dep vaults tenantId) :=
        buildFor_own (List.mem_append_right _ List.mem_cons_self)
          (List.mem_append_right _ (List.mem_cons_of_mem _ List.mem_cons_self))
          (h tenantId vaults rfl hget)
      constructor
      · intro e he
        rcases mem_store he with hnew|hold
        · cases hnew
          exact hown
        · exact (hs.cached e hold).mono hsub
      · intro e he
        rcases List.mem_append.mp he with hold|hnew
        · exact (hs.returned e hold).mono hsub
        · cases List.mem_singleton.mp hnew
          exact hown

/-- Along every run without a fallback to usable credentials, the registries
cached for a tenant and returned to it have no drivers but its own. -/
theorem registries_isolated (dep : Deployment) {acts : List Act} {s : RegistryState}
    (hrun : Run (guarded (Step dep) (NoFallback dep)) fresh acts s) : Isolated dep s := by
  refine hrun.guarded_invariant ⟨fun _ he => (List.not_mem_nil he).elim,
    fun _ he => (List.not_mem_nil he).elim⟩ fun s a t hs h hguard => ?_
  cases h
  exact hs.step hguard

/-- One agency, and the parsers on its credentials. -/
def acmeLibrary : StorageLibrary :=
  { uuid := fun s => if s="01900000-0000-7000-8000-000000000123" then some 1 else none
    loads := fun _ => .ok (.obj [("provider",.str "amadeus"),
      ("fields",.obj [("client_id",.str "acme-id"),("client_secret",.str "acme-secret")])])
    fromIso := fun _ => .ok 0
    text := fun v => match v with
      | .str s => s
      | _ => ""
    repr := fun _ => ""
    providerError := fun _ => "" }

/-- A deployment whose environment still has the house account. -/
def houseDeployment : Deployment :=
  ⟨acmeLibrary,[("VOYAGENT_AMADEUS_CLIENT_ID","house-id"),
    ("VOYAGENT_AMADEUS_CLIENT_SECRET","house-secret")],fun _ => true,128⟩

/-- The storage with the agency's row. -/
def acmeVault : Vault := ⟨.ok true,[⟨1,"amadeus",[1],[]⟩],none,fun blob _ _ => .ok blob⟩

/-- The same storage while the database cannot be reached. -/
def unreachableVault : Vault :=
  { acmeVault with dbError := some ⟨"OperationalError",["DBAPIError"],"connection refused",none⟩ }

/-- The driver of the house account. -/
def houseDriver : Driver := .amadeus "https://test.api.amadeus.com" "house-id" "house-secret"

/-- A lookup of the agency's credentials. -/
theorem registries_isolated_acme :
    ∃ s,Run (guarded (Step houseDeployment) (NoFallback houseDeployment)) fresh
      [.get "01900000-0000-7000-8000-000000000123" fun _ => acmeVault] s ∧
      Isolated houseDeployment s := by
  have hanswers : ∀ provider,Answers acmeLibrary acmeVault "01900000-0000-7000-8000-000000000123"
      provider := by
    intro provider
    refine ⟨nofun,fun tid _ htid => ⟨nofun,fun _ => ?_,fun _ row _ e he => (by cases he),?_⟩⟩
    · exact List.length_filter_le _ _
    · intro _ row _ plaintext json _ hjson
      cases hjson
      exact ⟨_,rfl⟩
  have hrun : Run (guarded (Step houseDeployment) (NoFallback houseDeployment)) fresh
      [.get "01900000-0000-7000-8000-000000000123" fun _ => acmeVault] _ :=
    Run.start.next ⟨rfl,fun tenantId vaults ha _ provider => by cases ha; exact .inl (hanswers provider)⟩
  exact ⟨_,hrun,registries_isolated houseDeployment hrun⟩

/-- With the database out of reach the agency is handed a registry that issues
on the house account. -/
theorem unreachableDatabase_usesHouseAccount :
    ∃ s,Run (Step houseDeployment) fresh
      [.get "01900000-0000-7000-8000-000000000123" fun _ => unreachableVault] s ∧
      (∀ e∈s.returned,e.2.all=[houseDriver]) ∧ ¬Isolated houseDeployment s := by
  have hbuilt : (buildFor houseDeployment (fun _ => unreachableVault)
      "01900000-0000-7000-8000-000000000123").all=[houseDriver] := by decide +kernel
  have hrun : Run (Step houseDeployment) fresh
      [.get "01900000-0000-7000-8000-000000000123" fun _ => unreachableVault] _ :=
    Run.start.next rfl
  have hown : ∀ met,(∀ v∈met,v=unreachableVault) →
      ¬OwnDriver houseDeployment met "01900000-0000-7000-8000-000000000123" houseDriver := by
    rintro met hmet ⟨v,hv,provider,creds,⟨tid,row,plaintext,payload,-,hrow,-,hprovider,-,hpayload,
      rfl⟩,hdriver⟩
    cases hmet v hv
    cases List.mem_singleton.mp hrow
    cases hprovider
    cases hpayload
    exact absurd hdriver (by decide +kernel)
  refine ⟨_,hrun,fun e he => ?_,fun h => ?_⟩
  · cases List.mem_singleton.mp he
    exact hbuilt
  · have hreturned := (h.returned _ (List.mem_singleton_self _)).1 houseDriver
      (hbuilt ▸ List.mem_singleton_self houseDriver)
    refine hown _ (fun v hv => ?_) hreturned
    rcases List.mem_cons.mp hv with rfl|hv
    · rfl
    · exact List.mem_singleton.mp hv

end Voyagent.TenantDrivers
