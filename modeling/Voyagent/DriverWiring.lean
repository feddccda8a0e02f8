import Voyagent.BookedOrders
import Voyagent.TenantDrivers

/-!
# Drivers of a tenant

The Amadeus drivers that the registry of a tenant is built with. The constructor
takes the tenant, the offer cache and the passenger resolver as options: without
them it draws a tenant and goes without the others. The runtime wires cache and
resolver into the drivers of the process-wide registry only.
-/

namespace Voyagent.DriverWiring

open RuntimeValues KeyedMap LruCache CanonicalFields CanonicalTravel EffectPrograms TransitionRuns
  AmadeusClient AmadeusMapping AmadeusBookings TenantDrivers

/-! ## What belongs to a tenant -/

/-- Every question may be answered in any way. -/
def anything : Environment Answer Unit := fun _ _ _ => some ()

section Owned

variable (lib : AmadeusLibrary)

/-- The calls that return a reservation. -/
inductive Call where
  | create (fareIds passengerIds : List EntityId)
  | read (locator : String)
  | cancel (pnrId : EntityId)

def runCall (d : AmadeusDriver) : Call → Prog PNR
  | .create fareIds passengerIds => create lib d fareIds passengerIds
  | .read locator => read lib d locator
  | .cancel pnrId => cancel lib d pnrId

/-- Passengers are resolved for the tenant only. -/
def ResolvesFor (t : EntityId) (q : Question) : Prop :=
  ∀ tenantId passengerIds,q=.resolve tenantId passengerIds → tenantId=t

/-- The driver belongs to a tenant: its fares and reservations carry the tenant, it
resolves passengers for it, and it does not lack what it needs to book a fare it found. -/
structure OwnedBy (t : EntityId) (d : AmadeusDriver) : Prop where
  fares : ∀ n criteria fares,Exec anything (search lib d n criteria) () (.ok fares) () →
    ∀ fare∈fares,fare.value.tenantId=t
  reservations : ∀ call pnr,Exec anything (runCall lib d call) () (.ok pnr) () → pnr.tenantId=t
  passengers : ∀ call,Uses (ResolvesFor t) (runCall lib d call)
  bookable : ∀ n criteria fares,Exec anything (search lib d n criteria) () (.ok fares) () →
    ∀ fare∈fares,∀ passengerIds,passengerIds≠[] →
      readyToCreate d [fare.value.id] passengerIds=.ok ()

end Owned

/-! ## The drivers of a registry -/

/-- `_build_amadeus_driver` makes a driver of its configuration only. -/
def amadeusDriverOf (drawn : EntityId) : Driver → Option AmadeusDriver
  | .amadeus apiBase clientId clientSecret =>
    some (.init {apiBase := apiBase,clientId := clientId,clientSecret := clientSecret} drawn none
      false false)
  | .tbo _ _ _ => none

/-- The Amadeus drivers of a registry, where the constructor has drawn an id. -/
def amadeusDrivers (drawn : EntityId) (registry : DriverRegistry) : List AmadeusDriver :=
  registry.all.filterMap (amadeusDriverOf drawn)

/-- What `build_default_runtime` sets on a driver of the process-wide registry. -/
def wired (d : AmadeusDriver) : AmadeusDriver := {d with offerCache := true,passengerResolver := true}

/-! ## What a driver's records carry -/

section Records

variable {lib : AmadeusLibrary} {d : AmadeusDriver} {γ : Type} {env : Environment Answer γ} {g : γ}

theorem search_tenant (n : Nat) (criteria : FareSearchCriteria) (g : γ) :
    Meets env (fun _ _ => True)
      (fun _ r => ∀ fares,r=.ok fares → ∀ fare∈fares,fare.value.tenantId=stripWhitespace d.tenantId)
      (search lib d n criteria) g := by
  unfold search
  split
  · exact nofun
  · refine Meets.bind (meets_of_forall fun g₁ r => ?_)
    cases r with
    | error e => exact nofun
    | ok body =>
      refine Meets.bind (Meets.ofExcept ?_)
      cases memberOf (orElse body (.obj [])) "data" with
      | error e => exact nofun
      | ok found =>
        refine Meets.bind (Meets.ofExcept ?_)
        cases elements (orElse found (.arr [])) with
        | error e => exact nofun
        | ok offers =>
          refine Meets.bind (meets_of_forall fun g₂ r => ?_)
          cases r with
          | error e => exact nofun
          | ok itineraryId =>
            refine Meets.bind (meets_of_forall fun g₃ r => ?_)
            cases r with
            | error e => exact nofun
            | ok paxIds =>
              have hdraws : ∀ origin,Draws env (fun _ _ => True) (fun _ => True)
                  (fun _ fare => fare.value.tenantId=stripWhitespace d.tenantId) origin d.tenantId :=
                fun _ => ⟨fun _ _ => trivial,fun _ _ _ _ _ => ⟨trivial,fun _ h => h⟩,
                  fun _ _ _ _ _ _ _ htenant => htenant⟩
              have hcaches : ∀ offer,Caches env (fun _ _ => True) (fun _ => True)
                  (fun _ fare => fare.value.tenantId=stripWhitespace d.tenantId) offer :=
                fun _ => ⟨fun _ _ _ _ _ => trivial,fun _ _ _ _ _ _ _ => ⟨trivial,fun _ h => h⟩⟩
              refine Meets.bind ((meets_faresOfOffers offers.zipIdx
                (fun _ _ _ => ⟨hdraws _,hcaches _⟩) trivial).imp fun g₄ r hr => ?_)
              cases r with
              | error e => exact nofun
              | ok fares =>
                intro kept hkept fare hfare
                cases hkept
                exact hr.2 fares rfl fare (List.mem_filter.mp (List.mem_of_mem_take hfare)).1

theorem mapped_tenant {order : Dict} {tenantId : EntityId} (g : γ) :
    Meets env (fun _ _ => True) (fun _ r => ∀ pnr,r=.ok pnr → pnr.tenantId=stripWhitespace tenantId)
      (amadeusOrderToPnr lib order tenantId) g := by
  refine meets_amadeusOrderToPnr (I:=fun _ => True) trivial (fun _ _ _ _ => trivial)
    (fun _ _ _ _ _ _ _ => trivial) (fun _ _ _ _ => nofun) fun _ id _ pnr _ _ hmapped pnr' hpnr => ?_
  cases hpnr
  exact hmapped.tenantId

/-- Whatever a body holds, what is made of it carries the tenant. -/
theorem orderIn_tenant {p : Dict → Prog PNR} {tenantId : EntityId} {body : Json} {message : String}
    (hp : ∀ order,Meets env (fun _ _ => True)
      (fun _ r => ∀ pnr,r=.ok pnr → pnr.tenantId=stripWhitespace tenantId) (p order) g) :
    Meets env (fun _ _ => True) (fun _ r => ∀ pnr,r=.ok pnr → pnr.tenantId=stripWhitespace tenantId)
      (ofExcept (orderIn body message) >>= p) g := by
  refine Meets.bind (Meets.ofExcept ?_)
  cases orderIn body message with
  | error e => exact nofun
  | ok order => exact hp order

theorem read_tenant (locator : String) (g : γ) :
    Meets env (fun _ _ => True) (fun _ r => ∀ pnr,r=.ok pnr → pnr.tenantId=stripWhitespace d.tenantId)
      (read lib d locator) g := by
  refine Meets.bind (meets_of_forall fun g r => ?_)
  cases r with
  | error e => exact nofun
  | ok body => exact orderIn_tenant fun order => mapped_tenant g

theorem cancelledPnr_tenant (pnrId : EntityId) (g : γ) :
    Meets env (fun _ _ => True) (fun _ r => ∀ pnr,r=.ok pnr → pnr.tenantId=stripWhitespace d.tenantId)
      (cancelledPnr d pnrId) g := by
  refine Meets.bind (meets_utcNow trivial fun now g _ => ?_)
  refine Meets.bind (meets_newEntityId trivial fun id g _ => ?_)
  refine Meets.bind (meets_newEntityId trivial fun passengerId g _ => ?_)
  refine Meets.bind (meets_newEntityId trivial fun segmentId g _ => ?_)
  refine Meets.ofExcept ?_
  generalize hbuild : PNR.build _=built
  cases built with
  | none => exact nofun
  | some pnr =>
    intro pnr' hpnr
    cases hpnr
    exact (PNR.build_eq hbuild).2.1

/-- Every reservation carries the tenant of the driver. -/
theorem runCall_tenant (call : Call) (g : γ) :
    Meets env (fun _ _ => True) (fun _ r => ∀ pnr,r=.ok pnr → pnr.tenantId=stripWhitespace d.tenantId)
      (runCall lib d call) g := by
  cases call with
  | create fareIds passengerIds =>
    refine Meets.bind (meets_of_forall fun g r => ?_)
    cases r with
    | error e => exact nofun
    | ok prepared =>
      refine Meets.bind (meets_of_forall fun g r => ?_)
      cases r with
      | error e => exact nofun
      | ok response =>
        refine orderIn_tenant fun order => Meets.bind (meets_of_forall fun g r => ?_)
        cases r with
        | error e => exact nofun
        | ok _ => exact mapped_tenant g
  | read locator => exact read_tenant locator g
  | cancel pnrId =>
    refine Meets.bind (meets_of_forall fun g r => ?_)
    cases r with
    | error e => exact nofun
    | ok _ =>
      refine Meets.recover ((read_tenant pnrId g).imp fun g r hr => ?_)
      cases r with
      | error e => exact cancelledPnr_tenant pnrId g
      | ok pnr => exact hr

theorem runCall_resolves (call : Call) : Uses (ResolvesFor d.tenantId) (runCall lib d call) := by
  have hother : ∀ {q : Question},(∀ tenantId passengerIds,q≠.resolve tenantId passengerIds) →
      ResolvesFor d.tenantId q := fun hq _ _ heq => absurd heq (hq _ _)
  have hread : ∀ locator,Uses (ResolvesFor d.tenantId) (read lib d locator) := by
    intro locator
    refine (uses_request (hother nofun) (hother nofun)).bind fun body => ?_
    exact (uses_ofExcept _).bind fun order => uses_amadeusOrderToPnr (hother nofun) (hother nofun) _ _
  cases call with
  | create fareIds passengerIds =>
    refine (uses_prepareOrder (fun _ => ⟨hother nofun,hother nofun⟩) (fun _ => hother nofun)
      (hother nofun) ?_ fareIds).bind fun prepared => ?_
    · intro tenantId ids heq
      cases heq
      rfl
    · exact (uses_request (hother nofun) (hother nofun)).bind fun response =>
        uses_acceptOrder (fun _ => hother nofun) (hother nofun) (hother nofun) fareIds response
  | read locator => exact hread locator
  | cancel pnrId =>
    refine (uses_request (hother nofun) (hother nofun)).bind fun _ => (hread pnrId).recover fun _ => ?_
    refine (uses_utcNow (hother nofun)).bind fun _ => (uses_newEntityId (hother nofun)).bind fun _ => ?_
    refine (uses_newEntityId (hother nofun)).bind fun _ => (uses_newEntityId (hother nofun)).bind fun _ => ?_
    exact uses_ofExcept _

theorem readyToCreate_wired {fareIds passengerIds : List EntityId} (hfares : fareIds≠[])
    (hpassengers : passengerIds≠[]) : readyToCreate (wired d) fareIds passengerIds=.ok () := by
  unfold readyToCreate
  rw [if_neg (by simp [wired]),if_neg (by simp [wired]),if_neg hfares,if_neg hpassengers]

/-- A driver that was given its tenant, and is wired, belongs to it. -/
theorem ownedBy_wired (lib : AmadeusLibrary) (d : AmadeusDriver) (hvalid : isEntityId d.tenantId=true) :
    OwnedBy lib d.tenantId (wired d) := by
  have hstrip : stripWhitespace (wired d).tenantId=d.tenantId := strip_entityId hvalid
  refine ⟨fun n criteria fares hexec fare hfare => ?_,fun call pnr hexec => ?_,
    runCall_resolves (d:=wired d),fun _ _ _ _ _ _ _ => readyToCreate_wired (List.cons_ne_nil _ _)⟩
  · exact ((search_tenant n criteria ()).exec hexec fares rfl fare hfare).trans hstrip
  · exact ((runCall_tenant call ()).exec hexec pnr rfl).trans hstrip

theorem ownedBy_wired_desk :
    OwnedBy BookedOrders.deskLibrary BookedOrders.deskDriver.tenantId (wired BookedOrders.deskDriver) :=
  ownedBy_wired BookedOrders.deskLibrary BookedOrders.deskDriver (by decide +kernel)

end Records

/-! ## What a driver of the registry returns -/

section Unwired

variable {config : AmadeusConfig} {drawn t : EntityId}

/-- A reservation that is made up carries the tenant the constructor drew. -/
theorem exec_cancelledPnr (d : AmadeusDriver) (htenant : isEntityId d.tenantId=true) :
    ∃ pnr,Exec anything (cancelledPnr d d.tenantId) () (.ok pnr) () ∧ pnr.tenantId=d.tenantId := by
  have hid := entityId_of_valid htenant
  generalize hdraft : ({ id := d.tenantId
                         tenantId := d.tenantId
                         locator := d.tenantId
                         source := driverName
                         sourceRef := some d.tenantId
                         status := .cancelled
                         passengerIds := [d.tenantId]
                         segmentIds := [d.tenantId]
                         fareIds := []
                         ticketTimeLimit := none
                         createdAt := 0
                         updatedAt := 0 } : PNR)=draft
  obtain ⟨pnr,hpnr⟩ : ∃ pnr,PNR.build draft=some pnr := by
    subst hdraft
    unfold PNR.build
    simp [hid,Option.filter]
  refine ⟨pnr,.ask 0 rfl (.ask d.tenantId rfl (.ask d.tenantId rfl (.ask d.tenantId rfl ?_))),?_⟩
  · change Exec anything (ofExcept (validated "PNR" (PNR.build _))) () (.ok pnr) ()
    rw [hdraft,hpnr]
    exact .done
  · rw [(PNR.build_eq hpnr).2.1,← hdraft]
    exact strip_entityId htenant

/-- The vendor deletes an order, and it cannot be read back. -/
theorem exec_cancel (lib : AmadeusLibrary) (d : AmadeusDriver) (htenant : isEntityId d.tenantId=true) :
    ∃ pnr,Exec anything (runCall lib d (.cancel d.tenantId)) () (.ok pnr) () ∧
      pnr.tenantId=d.tenantId := by
  obtain ⟨pnr,hexec,hpnr⟩ := exec_cancelledPnr d htenant
  have hdelete : ∀ left,Exec anything (requestLoop lib d.config (.deleteOrder d.tenantId) left 0) ()
      (.ok .null) () := by
    intro left
    cases left <;> exact .ask (.ok ()) rfl (.ask ⟨none,.response ⟨204,.empty,none⟩⟩ rfl .done)
  have hread : ∀ left,Exec anything (requestLoop lib d.config (.readOrder d.tenantId) left 0) ()
      (.error (.of .authentication "")) () := by
    intro left
    cases left <;> exact .ask (.error (.of .authentication "")) rfl .fail
  exact ⟨pnr,(hdelete _).bind (((hread _).bind_error _).recover hexec),hpnr⟩

/-- A driver of a registry belongs to no tenant but the one it drew. -/
theorem not_ownedBy (lib : AmadeusLibrary) {d : AmadeusDriver} (htenant : isEntityId d.tenantId=true)
    (hother : d.tenantId≠t) : ¬OwnedBy lib t d := by
  intro howned
  obtain ⟨pnr,hexec,hpnr⟩ := exec_cancel lib d htenant
  exact hother (hpnr.symm.trans (howned.reservations _ pnr hexec))

end Unwired

/-! ## Registries -/

section Registries

variable {dep : Deployment} {s : RegistryState} {drawn t : EntityId}

/-- Every registry was built for its tenant. -/
structure Built (dep : Deployment) (s : RegistryState) : Prop where
  cached : ∀ e∈s.entries,∃ vaults,e.2=buildFor dep vaults e.1
  returned : ∀ e∈s.returned,∃ vaults,e.2=buildFor dep vaults e.1

theorem Built.step {a : TenantDrivers.Act} (h : Built dep s) : Built dep (step dep s a) := by
  cases a with
  | closeAll => exact ⟨nofun,h.returned⟩
  | get tenantId vaults =>
    unfold TenantDrivers.step
    dsimp only
    cases hget : KeyedMap.get s.entries tenantId with
    | some registry =>
      refine ⟨fun e he => h.cached e ((touch_perm _ _).mem_iff.mp he),fun e he => ?_⟩
      rcases List.mem_append.mp he with hold|hnew
      · exact h.returned e hold
      · rw [List.mem_singleton.mp hnew]
        exact h.cached _ (mem_of_get hget)
    | none =>
      constructor
      · intro e he
        rcases mem_store he with hnew|hold
        · cases hnew
          exact ⟨vaults,rfl⟩
        · exact h.cached e hold
      · intro e he
        rcases List.mem_append.mp he with hold|hnew
        · exact h.returned e hold
        · cases List.mem_singleton.mp hnew
          exact ⟨vaults,rfl⟩

theorem built_of_run {acts : List TenantDrivers.Act}
    (hrun : Run (TenantDrivers.Step dep) fresh acts s) : Built dep s := by
  refine hrun.invariant ⟨nofun,nofun⟩ fun s a s' hs hstep => ?_
  cases hstep
  exact hs.step

/-- The Amadeus driver that is built for a tenant, if there is one. -/
def amadeusFor (dep : Deployment) (vaults : String → TenantCredentials.Vault) (t : EntityId) :
    Option Driver :=
  (resolver dep (vaults "amadeus") t "amadeus").bind (buildAmadeusDriver dep)

variable {driver other : Driver} {r : DriverRegistry}

theorem mem_register {protocol : String} :
    other∈(r.register protocol driver).all ↔ other∈r.all ∨ driver=other := by
  change other∈(if driver∈r.all then r.all else r.all++[driver]) ↔ _
  split
  · rename_i hmem
    refine ⟨.inl,fun h => h.elim id fun heq => ?_⟩
    rwa [← heq]
  · rw [List.mem_append,List.mem_singleton]
    exact or_congr_right eq_comm

theorem mem_withDriver {search booking : String} {found : Option Driver} :
    other∈(r.withDriver search booking found).all ↔ other∈r.all ∨ found=some other := by
  cases found with
  | none => exact ⟨.inl,fun h => h.resolve_right nofun⟩
  | some driver =>
    change other∈((r.register search driver).register booking driver).all ↔ _
    rw [mem_register,mem_register,or_assoc,or_self,Option.some.injEq]

variable {creds : Creds}

theorem buildTboDriver_tbo (h : buildTboDriver dep creds=some driver) :
    amadeusDriverOf drawn driver=none := by
  unfold buildTboDriver at h
  dsimp only at h
  split at h
  · cases h
    rfl
  · cases h

theorem buildAmadeusDriver_amadeus (h : buildAmadeusDriver dep creds=some driver) :
    ∃ config,amadeusDriverOf drawn driver=some (.init config drawn none false false) := by
  unfold buildAmadeusDriver at h
  dsimp only at h
  split at h
  · cases h
    exact ⟨_,rfl⟩
  · cases h

/-- A registry has the Amadeus driver that was built for its tenant, and no other. -/
theorem mem_amadeusDrivers {vaults : String → TenantCredentials.Vault} {d : AmadeusDriver} :
    d∈amadeusDrivers drawn (buildFor dep vaults t) ↔
      (amadeusFor dep vaults t).bind (amadeusDriverOf drawn)=some d := by
  unfold amadeusDrivers buildFor
  rw [List.mem_filterMap,Option.bind_eq_some_iff]
  refine exists_congr fun driver => and_congr_left fun hdriver => ?_
  dsimp only
  rw [mem_withDriver,mem_withDriver]
  constructor
  · rintro ((hnone|hamadeus)|htbo)
    · cases hnone
    · exact hamadeus
    · obtain ⟨creds,-,hbuilt⟩ := Option.bind_eq_some_iff.mp htbo
      cases (buildTboDriver_tbo hbuilt).symm.trans hdriver
  · exact fun hamadeus => .inl (.inr hamadeus)

end Registries

/-- In every state reached, whatever the storage holds: the Amadeus drivers of a
registry handed out for a tenant belong to the tenant if and only if there are none,
no Amadeus driver having been built for it. -/
theorem drivers_owned_iff (lib : AmadeusLibrary) (dep : Deployment) {acts : List TenantDrivers.Act}
    {s : RegistryState} (hrun : Run (TenantDrivers.Step dep) fresh acts s) {t : EntityId}
    {registry : DriverRegistry} (hreturned : (t,registry)∈s.returned) {drawn : EntityId}
    (hdrawn : isEntityId drawn=true) (hnew : drawn≠t) :
    ∃ vaults,registry=buildFor dep vaults t ∧
      ((∀ d∈amadeusDrivers drawn registry,OwnedBy lib t d) ↔ amadeusFor dep vaults t=none) := by
  obtain ⟨vaults,hbuilt⟩ := (built_of_run hrun).returned _ hreturned
  obtain rfl : registry=buildFor dep vaults t := hbuilt
  refine ⟨vaults,rfl,?_⟩
  constructor
  · intro howned
    cases hfound : amadeusFor dep vaults t with
    | none => rfl
    | some driver =>
      obtain ⟨creds,-,hdriver⟩ := Option.bind_eq_some_iff.mp hfound
      obtain ⟨config,hconfig⟩ := buildAmadeusDriver_amadeus hdriver
      have hmem := mem_amadeusDrivers.mpr (Option.bind_eq_some_iff.mpr ⟨driver,hfound,hconfig⟩)
      exact absurd (howned _ hmem) (not_ownedBy lib hdrawn hnew)
  · intro hnone d hd
    rw [mem_amadeusDrivers,hnone] at hd
    cases hd

/-- An id that a constructor draws. -/
def drawnTenant : EntityId := "01920000-0000-7000-8000-0000000000ee"

def acmeTenant : EntityId := "01900000-0000-7000-8000-000000000123"

def acmeRegistry : DriverRegistry := buildFor houseDeployment (fun _ => acmeVault) acmeTenant

theorem acme_get : ∃ s,Run (TenantDrivers.Step houseDeployment) fresh
    [.get acmeTenant fun _ => acmeVault] s ∧ (acmeTenant,acmeRegistry)∈s.returned :=
  ⟨_,Run.start.next rfl,List.mem_singleton_self _⟩

/-- An agency with Amadeus credentials. -/
theorem drivers_owned_iff_acme : ∃ vaults,acmeRegistry=buildFor houseDeployment vaults acmeTenant ∧
    ((∀ d∈amadeusDrivers drawnTenant acmeRegistry,OwnedBy BookedOrders.deskLibrary acmeTenant d) ↔
      amadeusFor houseDeployment vaults acmeTenant=none) := by
  obtain ⟨s,hrun,hreturned⟩ := acme_get
  exact drivers_owned_iff BookedOrders.deskLibrary houseDeployment hrun hreturned (by decide) (by decide)

/-- The driver of the agency's registry makes records of a tenant of its own. -/
theorem agency_driver_unwired : ∃ s d,Run (TenantDrivers.Step houseDeployment) fresh
    [.get acmeTenant fun _ => acmeVault] s ∧ (acmeTenant,acmeRegistry)∈s.returned ∧
    d∈amadeusDrivers drawnTenant acmeRegistry ∧ ¬OwnedBy BookedOrders.deskLibrary acmeTenant d := by
  obtain ⟨s,hrun,hreturned⟩ := acme_get
  have hdriver : AmadeusDriver.init {clientId := "acme-id",clientSecret := "acme-secret"} drawnTenant
      none false false∈amadeusDrivers drawnTenant acmeRegistry := by
    decide +kernel
  exact ⟨s,_,hrun,hreturned,hdriver,not_ownedBy _ (by decide) (by decide)⟩

end Voyagent.DriverWiring
