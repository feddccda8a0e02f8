import Voyagent.AmadeusMapping

/-!
# The Amadeus driver

Searching for fares, and creating, reading and cancelling orders. A search puts
the raw offer into the cache under every fare it yields; creating an order reads
the offers back, prices those that are about to expire, and posts them.
-/

namespace Voyagent.AmadeusBookings

open RuntimeValues KeyedMap CanonicalTravel EffectPrograms AmadeusClient AmadeusMapping

/-- A driver: whether it has an offer cache and a passenger resolver is decided
by its constructor. -/
structure AmadeusDriver where
  config : AmadeusConfig
  tenantId : EntityId
  offerCache : Bool
  passengerResolver : Bool
  deriving DecidableEq

/-- `AmadeusDriver.__init__`; an identifier is drawn where no tenant is given. -/
def AmadeusDriver.init (config : AmadeusConfig) (drawn : EntityId) (tenantId : Option EntityId)
    (offerCache passengerResolver : Bool) : AmadeusDriver :=
  ⟨config,(tenantId.filter (· ≠ "")).getD drawn,offerCache,passengerResolver⟩

/-- `_OFFER_TTL_SECONDS`. -/
def offerTtlSeconds : Nat := 20*60

/-- `_REPRICE_THRESHOLD_SECONDS`, in microseconds. -/
def repriceThreshold : Instant := 5*60*1000000

/-- `_offer_cache_key`. -/
def offerCacheKey (fareId : EntityId) : String := "amadeus:fare:"++fareId

section Driver

variable (lib : AmadeusLibrary)

/-! ## Searching -/

/-- Put the offer into the cache under each of its fares. What the cache raises
is logged. -/
def cacheFares (d : AmadeusDriver) (offer : Tagged Dict) : List (Tagged Fare) → Prog Unit
  | [] => pure ()
  | fare::fares =>
    if d.offerCache then do
      let _ ← query (Question.cachePut (offerCacheKey fare.value.id) offer offerTtlSeconds)
      cacheFares d offer fares
    else pure ()

/-- The fares of the remaining offers of search `n`, each at its place in the
answer. An offer for another number of travelers is skipped. -/
def faresOfOffers (d : AmadeusDriver) (n : Nat) (itineraryId : EntityId) (paxIds : List EntityId) :
    List (Json × Nat) → Prog (List (Tagged Fare))
  | [] => pure []
  | (.obj fields,k)::rest => do
    let offer : Tagged Dict := ⟨(n,k),fields⟩
    let count ← ofExcept (lengthOf (orElse (member fields "travelerPricings") (.arr [])))
    let slice := if count≠0 then paxIds.take count else paxIds
    if slice.length≠count then faresOfOffers d n itineraryId paxIds rest
    else do
      let fares ← amadeusOfferToFares lib offer slice itineraryId d.tenantId
      cacheFares d offer fares
      let more ← faresOfOffers d n itineraryId paxIds rest
      pure (fares++more)
  | _::rest => faresOfOffers d n itineraryId paxIds rest

/-- The fare is within the upper bound. -/
def withinMaxPrice (criteria : FareSearchCriteria) (fare : Fare) : Bool :=
  match criteria.maxPrice with
  | none => true
  | some price => fare.total.currency==price.currency && fare.total.amount.le price.amount

/-- `search`, the search of number `n`. -/
def search (d : AmadeusDriver) (n : Nat) (criteria : FareSearchCriteria) :
    Prog (List (Tagged Fare)) :=
  if ¬(1≤criteria.maxResults ∧ criteria.maxResults≤250) then
    raise (.of .validationFailed ("max_results must be between 1 and 250 (got "++
      toString criteria.maxResults++"); Amadeus Self-Service rejects anything larger."))
  else do
    let params := criteriaToQueryParams criteria++[("max",toString criteria.maxResults)]
    let body ← request lib d.config (.searchOffers params)
    let found ← ofExcept (memberOf (orElse body (.obj [])) "data")
    let offers ← ofExcept (elements (orElse found (.arr [])))
    let itineraryId ← newEntityId none
    let paxIds ← drawIds (criteria.passengers.map Prod.snd).sum
    let fares ← faresOfOffers lib d n itineraryId paxIds offers.zipIdx
    pure ((fares.filter fun fare => withinMaxPrice criteria fare.value).take criteria.maxResults.toNat)

/-! ## The offers to book -/

/-- What two offers are told apart by. -/
def offerId (fid : EntityId) (cached : Tagged Dict) : String :=
  textOr lib (member cached.value "id") fid

/-- The offers of the remaining fares whose ids were not seen before. -/
def collectOffers : List EntityId → List String → Prog (List (Tagged Dict))
  | [],_ => pure []
  | fid::fids,seen => do
    match ← ofExcept (← query (Question.cacheGet (offerCacheKey fid))) with
    | none => raise (.of .permanent ("offer_expired_or_not_cached: fare_id="++lib.repr (.str fid)++
        ". Re-run search before booking — Amadeus offers have a 15–30 minute TTL and Voyagent "++
        "caches them for 20 minutes."))
    | some cached =>
      if offerId lib fid cached∈seen then collectOffers fids seen
      else do
        let offers ← collectOffers fids (offerId lib fid cached::seen)
        pure (cached::offers)

/-- `_needs_reprice`. The clock is read only where there is a deadline. -/
def needsReprice (offer : Dict) : Prog Bool :=
  match member offer "lastTicketingDateTime" with
  | .str raw =>
    match if raw="" then none else lib.fromIso (replaceZulu raw) with
    | some deadline => do
      let now ← utcNow
      pure (decide (deadline.instant-now<repriceThreshold))
    | none => pure false
  | _ => pure false

/-- `_reprice`. What is posted instead stands for the same offer. -/
def reprice (d : AmadeusDriver) (offer : Tagged Dict) : Prog (Tagged Json) := do
  let response ← request lib d.config (.priceOffer ⟨offer.origin,.obj offer.value⟩)
  match fieldOf (fieldOf response "data") "flightOffers" with
  | .arr (fresh::_) => pure ⟨offer.origin,fresh⟩
  | _ => raise (.of .permanent "Amadeus reprice: response did not contain any flightOffers.")

/-- An offer as it is posted. -/
def refreshOffer (d : AmadeusDriver) (offer : Tagged Dict) : Prog (Tagged Json) := do
  if ← needsReprice lib offer.value then reprice lib d offer
  else pure ⟨offer.origin,.obj offer.value⟩

/-- The offers as they are posted. -/
def refreshOffers (d : AmadeusDriver) : List (Tagged Dict) → Prog (List (Tagged Json))
  | [] => pure []
  | offer::offers => do
    let fresh ← refreshOffer lib d offer
    let rest ← refreshOffers d offers
    pure (fresh::rest)

/-! ## Travelers -/

/-- `_split_e164`. -/
def splitE164 (phone : String) : String × String :=
  match phone.toList with
  | '+'::digits =>
    let n :=
      if digits.head?=some '1' ∨ digits.head?=some '7' then 1
      else if String.ofList (digits.take 3)∈["971","966","974","973","880","977"] then 3
      else 2
    (String.ofList (digits.take n),String.ofList (digits.drop n))
  | _ => ("",phone)

/-- `_GENDER_TO_AMADEUS`. -/
def genderToAmadeus : Gender → String
  | .male => "MALE"
  | .female => "FEMALE"
  | .unspecified => "UNSPECIFIED"

/-- The contact block, where there is a phone or an email. -/
def contactOf (p : Passenger) : List (String × Json) :=
  let email := (p.emails.head?.map fun address => ("emailAddress",Json.str address)).toList
  let phones := p.phones.map fun phone =>
    Json.obj [("deviceType",.str "MOBILE"),("countryCallingCode",.str (splitE164 phone).1),
      ("number",.str (splitE164 phone).2)]
  let contact := email++if phones=[] then [] else [("phones",.arr phones)]
  if contact=[] then [] else [("contact",.obj contact)]

/-- The passport as a document. -/
def documentOf (p : Passenger) (passport : Passport) : Json :=
  .obj [("documentType",.str "PASSPORT"),
    ("number",.str passport.number),
    ("issuanceCountry",.str passport.issuingCountry),
    ("nationality",.str (p.nationality.getD passport.issuingCountry)),
    ("expiryDate",.str (isoformat passport.expiryDate)),
    ("holder",.bool true),
    ("birthPlace",(passport.placeOfBirth.map Json.str).getD .null)]

/-- `_passenger_to_traveler`. -/
def passengerToTraveler (idx : Nat) (p : Passenger) : Except Failure Json :=
  match p.dateOfBirth with
  | none => .error (.of .validationFailed
      ("passenger "++p.id++" missing date_of_birth required for booking"))
  | some born =>
    let (first,family) := match p.passport with
      | some passport => (passport.givenName,passport.familyName)
      | none => (p.givenName,p.familyName)
    let gender := match p.passport with
      | some passport => genderToAmadeus passport.gender
      | none => (p.gender.map genderToAmadeus).getD "UNSPECIFIED"
    .ok (.obj ([("id",.str (toString idx)),
      ("dateOfBirth",.str (isoformat born)),
      ("name",.obj [("firstName",.str first),("lastName",.str family)]),
      ("gender",.str gender),
      ("meta",.obj [("voyagent_passenger_id",.str p.id)])]++
      contactOf p++
      (p.passport.map fun passport => ("documents",Json.arr [documentOf p passport])).toList))

/-! ## Orders -/

/-- Delete the entries of the fares. What the cache raises is logged. -/
def dropEntries : List EntityId → Prog Unit
  | [] => pure ()
  | fid::fids => do
    let _ ← query (Question.cacheDelete (offerCacheKey fid))
    dropEntries fids

/-- The order in a response. -/
def orderIn (response : Json) (message : String) : Except Failure Dict :=
  match fieldOf response "data" with
  | .obj order => .ok order
  | _ => .error (.of .permanent message)

/-- What `create` checks before it reads the cache. -/
def readyToCreate (d : AmadeusDriver) (fareIds passengerIds : List EntityId) : Except Failure Unit :=
  if ¬d.offerCache then .error (.of .permanent ("AmadeusDriver.create requires an offer cache; "++
    "none was configured on this driver instance."))
  else if ¬d.passengerResolver then .error (.of .permanent ("AmadeusDriver.create: driver "++
    "constructed without passenger_resolver — cannot build real traveler blocks. Inject one via "++
    "the constructor (the runtime bundle wires an InMemoryPassengerResolver by default)."))
  else if fareIds=[] then .error (.of .permanent "AmadeusDriver.create: fare_ids must not be empty.")
  else if passengerIds=[] then
    .error (.of .permanent "AmadeusDriver.create: passenger_ids must not be empty.")
  else .ok ()

/-- What `create` does before it posts: the offers and the travelers. -/
def prepareOrder (d : AmadeusDriver) (fareIds passengerIds : List EntityId) :
    Prog (List (Tagged Json) × List Json) := do
  ofExcept (readyToCreate d fareIds passengerIds)
  let offers ← collectOffers lib fareIds []
  let refreshed ← refreshOffers lib d offers
  let passengers ← ofExcept (← query (Question.resolve d.tenantId passengerIds))
  let travelers ← ofExcept ((passengers.zipIdx 1).mapM fun e => passengerToTraveler e.2 e.1)
  pure (refreshed,travelers)

/-- What `create` does with the answer to its post. -/
def acceptOrder (d : AmadeusDriver) (fareIds : List EntityId) (response : Json) : Prog PNR := do
  let order ← ofExcept
    (orderIn response "Amadeus create: unexpected payload shape — missing 'data'.")
  dropEntries fareIds
  amadeusOrderToPnr lib order d.tenantId

/-- `create`. -/
def create (d : AmadeusDriver) (fareIds passengerIds : List EntityId) : Prog PNR := do
  let (offers,travelers) ← prepareOrder lib d fareIds passengerIds
  let response ← request lib d.config (.bookOrder offers travelers)
  acceptOrder lib d fareIds response

/-- `read`. -/
def read (d : AmadeusDriver) (locator : String) : Prog PNR := do
  let body ← request lib d.config (.readOrder locator)
  let order ← ofExcept (orderIn body ("Amadeus read: unexpected payload shape for order "++
    lib.repr (.str locator)++"."))
  amadeusOrderToPnr lib order d.tenantId

/-- The reservation `cancel` makes up where the order cannot be read back. -/
def cancelledPnr (d : AmadeusDriver) (pnrId : EntityId) : Prog PNR := do
  let now ← utcNow
  let id ← newEntityId none
  let passengerId ← newEntityId none
  let segmentId ← newEntityId none
  let draft : PNR :=
    { id := id
      tenantId := d.tenantId
      locator := pnrId
      source := driverName
      sourceRef := some pnrId
      status := .cancelled
      passengerIds := [passengerId]
      segmentIds := [segmentId]
      fareIds := []
      ticketTimeLimit := none
      createdAt := now
      updatedAt := now }
  ofExcept (validated "PNR" draft.build)

/-- `cancel`. -/
def cancel (d : AmadeusDriver) (pnrId : EntityId) : Prog PNR := do
  let _ ← request lib d.config (.deleteOrder pnrId)
  (read lib d pnrId).recover fun _ => cancelledPnr d pnrId

/-! ## What each part asks -/

variable {lib} {d : AmadeusDriver} {ok : Question → Prop}

theorem uses_collectOffers (hget : ∀ key,ok (.cacheGet key)) (fareIds : List EntityId)
    (seen : List String) : Uses ok (collectOffers lib fareIds seen) := by
  induction fareIds generalizing seen with
  | nil => exact uses_pure _
  | cons fid fids ih =>
    refine (uses_query (hget _)).bind fun x => (uses_ofExcept x).bind fun found => ?_
    cases found with
    | none => exact uses_fail _
    | some cached =>
      dsimp only
      split
      · exact ih seen
      · exact (ih _).bind fun _ => uses_pure _

theorem uses_needsReprice (hnow : ok .now) (offer : Dict) : Uses ok (needsReprice lib offer) := by
  unfold needsReprice
  split
  · split
    · exact (uses_query hnow).bind fun _ => uses_pure _
    · exact uses_pure _
  · exact uses_pure _

section Pricing

variable (hprice : ∀ offer,ok (.token (.priceOffer offer)) ∧ ok (.send (.priceOffer offer)))

include hprice

theorem uses_reprice (offer : Tagged Dict) : Uses ok (reprice lib d offer) := by
  refine (uses_request (hprice _).1 (hprice _).2).bind fun response => ?_
  split
  · exact uses_pure _
  · exact uses_fail _

theorem uses_refreshOffers (hnow : ok .now) (offers : List (Tagged Dict)) :
    Uses ok (refreshOffers lib d offers) := by
  have hone : ∀ offer,Uses ok (refreshOffer lib d offer) := by
    intro offer
    refine (uses_needsReprice hnow offer.value).bind fun stale => ?_
    split
    · exact uses_reprice hprice offer
    · exact uses_pure _
  induction offers with
  | nil => exact uses_pure _
  | cons offer offers ih => exact (hone offer).bind fun _ => ih.bind fun _ => uses_pure _

/-- Before it posts, `create` reads the cache, prices offers and resolves passengers. -/
theorem uses_prepareOrder {passengerIds : List EntityId} (hget : ∀ key,ok (.cacheGet key))
    (hnow : ok .now) (hresolve : ok (.resolve d.tenantId passengerIds)) (fareIds : List EntityId) :
    Uses ok (prepareOrder lib d fareIds passengerIds) := by
  refine (uses_ofExcept _).bind fun _ => (uses_collectOffers hget _ _).bind fun offers => ?_
  refine (uses_refreshOffers hprice hnow offers).bind fun refreshed => ?_
  refine (uses_query hresolve).bind fun x => (uses_ofExcept x).bind fun passengers => ?_
  exact (uses_ofExcept _).bind fun _ => uses_pure _

end Pricing

/-- A response holds an order, or what is missing is raised. -/
theorem orderIn_cases (response : Json) (message : String) :
    (∃ order,fieldOf response "data"=.obj order ∧ orderIn response message=.ok order) ∨
    (∀ order,fieldOf response "data"≠.obj order) ∧
      orderIn response message=.error (.of .permanent message) := by
  unfold orderIn
  cases fieldOf response "data" with
  | obj order => exact .inl ⟨order,rfl,rfl⟩
  | _ => exact .inr ⟨nofun,rfl⟩

/-- Deleting entries raises nothing. -/
theorem dropEntries_ok {γ : Type} {env : Environment Answer γ} (fareIds : List EntityId) (g : γ) :
    Meets env (fun _ _ => True) (fun _ r => r=.ok ()) (dropEntries fareIds) g := by
  induction fareIds generalizing g with
  | nil => rfl
  | cons fid fids ih => exact Meets.bind ⟨trivial,fun _ g' _ => ih g'⟩

theorem uses_dropEntries (hdelete : ∀ key,ok (.cacheDelete key)) (fareIds : List EntityId) :
    Uses ok (dropEntries fareIds) := by
  induction fareIds with
  | nil => exact uses_pure _
  | cons fid fids ih => exact (uses_query (hdelete _)).bind fun _ => ih

/-- After its post was answered, `create` drops entries and maps the order. -/
theorem uses_acceptOrder (hdelete : ∀ key,ok (.cacheDelete key)) (hnow : ok .now)
    (hid : ok (.newId none)) (fareIds : List EntityId) (response : Json) :
    Uses ok (acceptOrder lib d fareIds response) :=
  (uses_ofExcept _).bind fun order =>
    (uses_dropEntries hdelete fareIds).bind fun _ => uses_amadeusOrderToPnr hnow hid order d.tenantId

/-- A part that makes only requests of a kind. -/
theorem requests_prepareOrder {R : Request → Prop} (hprice : ∀ offer,R (.priceOffer offer))
    (fareIds passengerIds : List EntityId) :
    Requests R (prepareOrder lib d fareIds passengerIds) :=
  uses_prepareOrder (fun offer => ⟨hprice offer,hprice offer⟩) (fun _ => trivial) trivial trivial fareIds

theorem requests_acceptOrder {R : Request → Prop} (fareIds : List EntityId) (response : Json) :
    Requests R (acceptOrder lib d fareIds response) :=
  uses_acceptOrder (fun _ => trivial) trivial trivial fareIds response

/-! ## What a search meets -/

section Searching

variable {γ : Type} {env : Environment Answer γ} {allowed : γ → Question → Prop} {I : γ → Prop}
  {F : γ → Tagged Fare → Prop}

/-- What is to hold of caching an offer under a fare of it: it is allowed, and keeps an
invariant and what holds of the fares. -/
structure Caches (env : Environment Answer γ) (allowed : γ → Question → Prop) (I : γ → Prop)
    (F : γ → Tagged Fare → Prop) (offer : Tagged Dict) : Prop where
  allowed : ∀ g x,I g → x.origin=offer.origin → F g x →
    allowed g (.cachePut (offerCacheKey x.value.id) offer offerTtlSeconds)
  keeps : ∀ g key ttl a g',I g → env g (.cachePut key offer ttl) a=some g' → Keeps I F g g'

theorem meets_cacheFares {offer : Tagged Dict} (hcaches : Caches env allowed I F offer)
    (fares : List (Tagged Fare)) {g : γ} (hg : I g) (hfares : ∀ x∈fares,x.origin=offer.origin ∧ F g x) :
    Meets env allowed (fun g' _ => Keeps I F g g') (cacheFares d offer fares) g := by
  induction fares generalizing g with
  | nil => exact .refl hg
  | cons fare fares ih =>
    unfold cacheFares
    split
    · obtain ⟨horigin,hfare⟩ := hfares fare List.mem_cons_self
      refine Meets.bind ⟨hcaches.allowed g fare hg horigin hfare,fun stored g₁ hstep => ?_⟩
      have hkept := hcaches.keeps g _ _ stored g₁ hg hstep
      refine (ih hkept.1 fun x hx => ?_).imp fun _ _ => hkept.trans
      obtain ⟨hx',hf⟩ := hfares x (List.mem_cons_of_mem _ hx)
      exact ⟨hx',hkept.2 x hf⟩
    · exact .refl hg

/-- Each fare of the offers has its property. -/
theorem meets_faresOfOffers {n : Nat} {itineraryId : EntityId} {paxIds : List EntityId}
    (offers : List (Json × Nat))
    (hoffers : ∀ fields k,(.obj fields,k)∈offers →
      Draws env allowed I F (n,k) d.tenantId ∧ Caches env allowed I F ⟨(n,k),fields⟩)
    {g : γ} (hg : I g) :
    Meets env allowed (fun g' r => Keeps I F g g' ∧ ∀ fares,r=.ok fares → ∀ x∈fares,F g' x)
      (faresOfOffers lib d n itineraryId paxIds offers) g := by
  induction offers generalizing g with
  | nil =>
    refine ⟨.refl hg,fun fares hfares => ?_⟩
    cases hfares
    exact nofun
  | cons offer rest ih =>
    have hrest : ∀ fields k,(.obj fields,k)∈rest →
        Draws env allowed I F (n,k) d.tenantId ∧ Caches env allowed I F ⟨(n,k),fields⟩ :=
      fun fields k hk => hoffers fields k (List.mem_cons_of_mem _ hk)
    obtain ⟨value,k⟩ := offer
    cases value with
    | obj fields =>
      obtain ⟨hdraws,hcaches⟩ := hoffers fields k List.mem_cons_self
      refine Meets.bind (Meets.ofExcept ?_)
      cases lengthOf (orElse (member fields "travelerPricings") (.arr [])) with
      | error e => exact ⟨.refl hg,nofun⟩
      | ok count =>
        dsimp only
        generalize (if count≠0 then paxIds.take count else paxIds)=slice
        split
        · exact ih hrest hg
        · refine Meets.bind ((meets_amadeusOfferToFares hdraws slice hg).imp fun g₁ r hr => ?_)
          obtain ⟨hkept,hfares⟩ := hr
          cases r with
          | error e => exact ⟨hkept,nofun⟩
          | ok fares =>
            refine Meets.bind ((meets_cacheFares hcaches fares hkept.1 (hfares fares rfl)).imp
              fun g₂ r hcached => ?_)
            have hkept' := hkept.trans hcached
            cases r with
            | error e => exact ⟨hkept',nofun⟩
            | ok _ =>
              refine Meets.bind ((ih hrest hcached.1).imp fun g₃ r hr => ?_)
              cases r with
              | error e => exact ⟨hkept'.trans hr.1,nofun⟩
              | ok more =>
                refine ⟨hkept'.trans hr.1,fun all hall x hx => ?_⟩
                cases hall
                rcases List.mem_append.mp hx with hx|hx
                · exact hr.1.2 x (hcached.2 x (hfares fares rfl x hx).2)
                · exact hr.2 more rfl x hx
    | _ => exact ih hrest hg

end Searching

end Driver

end Voyagent.AmadeusBookings
