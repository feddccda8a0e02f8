import Voyagent.AmadeusClient

/-!
# Amadeus values and canonical records

The offers of a search as fares, an order as a reservation, and the parameters
of a search. What cannot be mapped raises; identifiers are drawn for the
records, whatever ids the caller has.
-/

namespace Voyagent.AmadeusMapping

open RuntimeValues KeyedMap CalendarDates Decimals CanonicalFields CanonicalFinance CanonicalTravel
  EffectPrograms AmadeusClient

/-! ## Helpers -/

/-- `_require`. -/
def require (value : Json) (key ctx : String) : Except Failure Json :=
  let missing := Failure.of .validationFailed
    ("Amadeus "++ctx++": missing required field '"++key++"'.")
  match value with
  | .obj fields =>
    match get fields key with
    | none => .error missing
    | some found => if found=.null ∨ found=.str "" then .error missing else .ok found
  | .str s =>
    if occursIn key s then .error (.other "TypeError" "string indices must be integers, not 'str'")
    else .error missing
  | .arr values =>
    if .str key∈values then
      .error (.other "TypeError" "list indices must be integers or slices, not str")
    else .error missing
  | v => .error (.other "TypeError" ("argument of type '"++pyTypeName v++"' is not iterable"))

/-- `_new_entity_id`, a number of times. -/
def drawIds : Nat → Prog (List EntityId)
  | 0 => pure []
  | n+1 => do
    let id ← newEntityId none
    let rest ← drawIds n
    pure (id::rest)

section Mapping

variable (lib : AmadeusLibrary)

/-- `_parse_decimal`. -/
def parseDecimal (value : Json) (ctx : String) : Except Failure DecimalReading :=
  match lib.decimal (lib.str value) with
  | .malformed => .error (.of .validationFailed
      ("Amadeus "++ctx++": cannot parse decimal from "++lib.repr value++"."))
  | reading => .ok reading

/-- `value.replace("Z", "+00:00")`. -/
def replaceZulu (s : String) : String :=
  String.ofList (s.toList.flatMap fun c => if c= 'Z' then "+00:00".toList else [c])

/-- `_parse_datetime`. -/
def parseDatetime (value : Json) (ctx : String) : Except Failure Instant :=
  match value with
  | .str s =>
    match lib.fromIso (replaceZulu s) with
    | none => .error (.of .validationFailed
        ("Amadeus "++ctx++": cannot parse datetime "++lib.repr value++"."))
    | some reading =>
      if reading.inRange then .ok reading.instant
      else .error (.other "OverflowError" "date value out of range")
  | v => .error (.of .validationFailed
      ("Amadeus "++ctx++": datetime must be a string, got "++pyTypeName v++"."))

/-- A model that was built, or the exception of its validation. -/
def validated {α : Type} (model : String) (built : Option α) : Except Failure α :=
  match built with
  | some a => .ok a
  | none => .error (.other "ValidationError" ("1 validation error for "++model))

theorem validated_ok {α : Type} {model : String} {built : Option α} {a : α} :
    validated model built=.ok a ↔ built=some a := by
  unfold validated
  cases built with
  | none => exact iff_of_false (fun h => (by cases h)) (fun h => (by cases h))
  | some b => exact ⟨fun h => congrArg some (Except.ok.inj h),fun h => congrArg Except.ok (Option.some.inj h)⟩

/-! ## Fares -/

/-- The amounts of one traveler. -/
structure Priced where
  base : Money
  total : Money
  taxes : List TaxLine
  fees : List FareComponent

def money (reading : DecimalReading) (currency : String) : Except Failure Money :=
  validated "Money" (moneyOf reading currency)

/-- `d.get(key, default)`. -/
def memberOr (d : Dict) (key : String) (default : Json) : Json := (get d key).getD default

/-- The members of an array that are objects. -/
def objects (values : List Json) : List Dict :=
  values.filterMap fun
    | .obj fields => some fields
    | _ => none

/-- One entry of `price.taxes`. -/
def taxLineOf (offerId currency : String) (base : DecimalReading) (tax : Dict) :
    Except Failure TaxLine := do
  let amount ← parseDecimal lib (memberOr tax "amount" (.str "0")) ("offer "++offerId++".tax.amount")
  let taxable ← money base currency
  let taxAmount ← money amount currency
  return ⟨"none",stripWhitespace (textOr lib (member tax "code") "TAX"),0,taxable,taxAmount,none⟩

/-- One entry of `price.fees`; a fee of nothing is left out. -/
def feeOf (offerId currency : String) (fee : Dict) : Except Failure (Option FareComponent) := do
  let amount ← parseDecimal lib (memberOr fee "amount" (.str "0")) ("offer "++offerId++".fee.amount")
  match amount with
  | .finite ⟨0,_⟩ => return none
  | amount =>
    let value ← money amount currency
    return some ⟨stripWhitespace (textOr lib (member fee "type") "FEE"),value⟩

/-- The price of one entry of `travelerPricings`. -/
def priceOf (offerId : String) (pricing : Json) : Except Failure Priced := do
  let fields ← match pricing with
    | .obj fields => .ok (Json.obj fields)
    | _ => .error (.of .validationFailed
        ("Amadeus offer "++offerId++": travelerPricing is not an object."))
  let price ← require fields "price" ("offer "++offerId++".travelerPricings.price")
  let currency := lib.upper (lib.str (← require price "currency" "price.currency"))
  let base ← parseDecimal lib (← require price "base" "price.base") "price.base"
  let total ← parseDecimal lib (← require price "total" "price.total") "price.total"
  let taxes ← elements (orElse (← memberOf price "taxes") (.arr []))
  let taxes ← (objects taxes).mapM (taxLineOf lib offerId currency base)
  let fees ← elements (orElse (← memberOf price "fees") (.arr []))
  let fees ← (objects fees).mapM (feeOf lib offerId currency)
  let base ← money base currency
  let total ← money total currency
  return ⟨base,total,taxes,fees.filterMap id⟩

/-- The fares of the remaining travelers. -/
def faresOf (offer : Tagged Dict) (offerId : String) (itineraryId tenantId : EntityId)
    (validUntil : Option Instant) : List (EntityId × Json) → Prog (List (Tagged Fare))
  | [] => pure []
  | (passengerId,pricing)::rest => do
    let priced ← ofExcept (priceOf lib offerId pricing)
    let id ← newEntityId (some offer.origin)
    let draft : Fare :=
      { id := id
        tenantId := tenantId
        itineraryId := itineraryId
        passengerId := passengerId
        base := priced.base
        fees := priced.fees
        taxes := priced.taxes
        total := priced.total
        source := driverName
        sourceRef := some offerId
        validUntil := validUntil }
    let fare ← ofExcept (validated "Fare" draft.build)
    let fares ← faresOf offer offerId itineraryId tenantId validUntil rest
    pure (⟨offer.origin,fare⟩::fares)

/-- `amadeus_offer_to_fares`. -/
def amadeusOfferToFares (offer : Tagged Dict) (passengerIds : List EntityId)
    (itineraryId tenantId : EntityId) : Prog (List (Tagged Fare)) := do
  let offerId := lib.str (← ofExcept (require (.obj offer.value) "id" "offer"))
  match orElse (member offer.value "travelerPricings") (.arr []) with
  | .arr (traveler::travelers) =>
    if passengerIds.length≠(traveler::travelers).length then
      raise (.of .validationFailed ("Amadeus offer "++offerId++": expected "++
        toString (traveler::travelers).length++" passenger_ids, got "++
        toString passengerIds.length++"."))
    else
      let raw := member offer.value "lastTicketingDateTime"
      let validUntil ← ofExcept
        (if isTruthy raw then (parseDatetime lib raw "offer.lastTicketingDateTime").map some
         else .ok none)
      faresOf lib offer offerId itineraryId tenantId validUntil
        (passengerIds.zip (traveler::travelers))
  | _ => raise (.of .validationFailed
      ("Amadeus offer "++offerId++": travelerPricings missing or empty."))

/-! ## Reservations -/

/-- `_ORDER_STATUS_TO_PNR`. -/
def orderStatusToPnr : Table String PNRStatus :=
  [("CONFIRMED",.confirmed),("HK",.confirmed),("HELD",.confirmed),("TICKETED",.ticketed),
   ("CANCELLED",.cancelled),("XX",.cancelled),("SCHEDULE_CHANGE",.scheduleChange)]

/-- The canonical status of an order. -/
def statusOf (order : Dict) : PNRStatus :=
  let raw := textOr lib (orElse (member order "status") (member order "orderStatus")) "CONFIRMED"
  (get orderStatusToPnr (lib.upper raw)).getD .confirmed

/-- The first record locator, else the order id. -/
def locatorOf (order : Dict) (orderId : String) : String :=
  let references := match orElse (member order "associatedRecords") (.arr []) with
    | .arr records => (objects records).filterMap fun record => given record "reference"
    | _ => []
  (references.head?.map lib.str).getD orderId

/-- `(value or {}).get(key) or []`, gone through. -/
def partsOf (key : String) (value : Json) : Except Failure (List Json) := do
  elements (orElse (← memberOf (orElse value (.obj [])) key) (.arr []))

/-- The segments of all itineraries of all offers. -/
def segmentsOf (order : Dict) : Except Failure (List Json) := do
  let offers ← elements (orElse (member order "flightOffers") (.arr []))
  let segments ← offers.mapM fun offer => do
    let itineraries ← partsOf "itineraries" offer
    let segments ← itineraries.mapM (partsOf "segments")
    return segments.flatten
  return segments.flatten

/-- The ticketing time limit. -/
def ticketTimeLimitOf (order : Dict) : Except Failure (Option Instant) :=
  match member order "ticketingAgreement" with
  | .obj agreement =>
    let raw := member agreement "dateTime"
    if isTruthy raw then (parseDatetime lib raw "order.ticketingAgreement.dateTime").map some
    else .ok none
  | _ => .ok none

/-- The travelers of an order. -/
def travelersOf (order : Dict) (orderId : String) : Except Failure (List Json) :=
  match orElse (member order "travelers") (.arr []) with
  | .arr (traveler::travelers) => .ok (traveler::travelers)
  | _ => .error (.of .validationFailed
      ("Amadeus order "++orderId++": travelers missing or empty."))

/-- `str(_require(order, "id", "order"))`. -/
def orderIdOf (order : Dict) : Except Failure String :=
  (require (.obj order) "id" "order").map lib.str

/-- The arguments of `PNR(...)`. -/
def pnrOf (order : Dict) (tenantId : EntityId) (orderId : String)
    (passengerIds segmentIds : List EntityId) (ticketTimeLimit : Option Instant) (now : Instant)
    (id : EntityId) : PNR where
  id := id
  tenantId := tenantId
  locator := locatorOf lib order orderId
  source := driverName
  sourceRef := some orderId
  status := statusOf lib order
  passengerIds := passengerIds
  segmentIds := segmentIds
  fareIds := []
  ticketTimeLimit := ticketTimeLimit
  createdAt := now
  updatedAt := now

/-- `amadeus_order_to_pnr`. -/
def amadeusOrderToPnr (order : Dict) (tenantId : EntityId) : Prog PNR := do
  let orderId ← ofExcept (orderIdOf lib order)
  let travelers ← ofExcept (travelersOf order orderId)
  let passengerIds ← drawIds travelers.length
  let segments ← ofExcept (segmentsOf order)
  let segmentIds ← drawIds segments.length
  if segmentIds.isEmpty then
    raise (.of .validationFailed ("Amadeus order "++orderId++": no segments found in flightOffers."))
  else
    let ticketTimeLimit ← ofExcept (ticketTimeLimitOf lib order)
    let now ← utcNow
    let id ← newEntityId none
    ofExcept (validated "PNR"
      (pnrOf lib order tenantId orderId passengerIds segmentIds ticketTimeLimit now id).build)

/-! ## Criteria -/

inductive PassengerType where
  | adult | child | infant | senior
  deriving DecidableEq

inductive CabinClass where
  | economy | premiumEconomy | business | first
  deriving DecidableEq

/-- `FareSearchCriteria`. -/
structure FareSearchCriteria where
  passengers : Table PassengerType Nat
  origin : String
  destination : String
  outboundDate : CalendarDate
  returnDate : Option CalendarDate := none
  cabin : CabinClass := .economy
  directOnly : Bool := false
  airlineWhitelist : List String := []
  airlineBlacklist : List String := []
  maxPrice : Option Money := none
  maxResults : Int := 50

/-- `_CANONICAL_CABIN_TO_AMADEUS`. -/
def cabinToAmadeus : CabinClass → String
  | .economy => "ECONOMY"
  | .premiumEconomy => "PREMIUM_ECONOMY"
  | .business => "BUSINESS"
  | .first => "FIRST"

/-- `int(d)`, which cuts the fraction off. -/
def truncated (d : Decimal) : Int :=
  if 0≤d.exponent then d.coefficient*10^d.exponent.toNat
  else d.coefficient.tdiv (10^(-d.exponent).toNat)

/-- `criteria_to_query_params`. -/
def criteriaToQueryParams (criteria : FareSearchCriteria) : Table String String :=
  let count := fun kind => (get criteria.passengers kind).getD 0
  let adults := count .adult+count .senior
  [("originLocationCode",criteria.origin),
   ("destinationLocationCode",criteria.destination),
   ("departureDate",isoformat criteria.outboundDate),
   ("travelClass",cabinToAmadeus criteria.cabin),
   ("currencyCode",(criteria.maxPrice.map Money.currency).getD "USD"),
   ("nonStop",if criteria.directOnly then "true" else "false")]++
  (criteria.returnDate.map fun date => ("returnDate",isoformat date)).toList++
  [("adults",toString (if 0<adults then adults else 1))]++
  (if count .child≠0 then [("children",toString (count .child))] else [])++
  (if count .infant≠0 then [("infants",toString (count .infant))] else [])++
  (if criteria.airlineWhitelist≠[] then
    [("includedAirlineCodes",joinWith "," criteria.airlineWhitelist)] else [])++
  (if criteria.airlineBlacklist≠[] then
    [("excludedAirlineCodes",joinWith "," criteria.airlineBlacklist)] else [])++
  (criteria.maxPrice.map fun price => ("maxPrice",toString (truncated price.amount))).toList

/-! ## What mapping an order asks and returns -/

variable {lib}

theorem uses_drawIds {ok : Question → Prop} (h : ok (.newId none)) (n : Nat) : Uses ok (drawIds n) := by
  induction n with
  | zero => exact uses_pure _
  | succ n ih => exact (uses_newEntityId h).bind fun _ => ih.bind fun _ => uses_pure _

/-- Mapping an order draws ids and reads the clock. -/
theorem uses_amadeusOrderToPnr {ok : Question → Prop} (hnow : ok .now) (hid : ok (.newId none))
    (order : Dict) (tenantId : EntityId) : Uses ok (amadeusOrderToPnr lib order tenantId) := by
  refine (uses_ofExcept _).bind fun orderId => (uses_ofExcept _).bind fun travelers => ?_
  refine (uses_drawIds hid _).bind fun passengerIds => (uses_ofExcept _).bind fun segments => ?_
  refine (uses_drawIds hid _).bind fun segmentIds => ?_
  split
  · exact uses_fail _
  · refine (uses_ofExcept _).bind fun ticketTimeLimit => (uses_utcNow hnow).bind fun now => ?_
    exact (uses_newEntityId hid).bind fun id => uses_ofExcept _

/-- A reservation mapped from an order: its id was drawn for it, its fares are lost. -/
structure MappedFrom (lib : AmadeusLibrary) (order : Dict) (tenantId : EntityId) (id : EntityId)
    (pnr : PNR) : Prop where
  id : pnr.id=stripWhitespace id
  tenantId : pnr.tenantId=stripWhitespace tenantId
  sourceRef : ∃ orderId,orderIdOf lib order=.ok orderId ∧ pnr.sourceRef=some (stripWhitespace orderId)
  status : pnr.status=statusOf lib order
  fareIds : pnr.fareIds=[]

theorem mappedFrom_build {order : Dict} {tenantId id : EntityId} {orderId : String}
    {passengerIds segmentIds : List EntityId} {ticketTimeLimit : Option Instant} {now : Instant}
    {pnr : PNR} (horder : orderIdOf lib order=.ok orderId)
    (h : (pnrOf lib order tenantId orderId passengerIds segmentIds ticketTimeLimit now id).build=
      some pnr) : MappedFrom lib order tenantId id pnr := by
  obtain ⟨hid,htenant,hsource,hstatus,hfares⟩ := PNR.build_eq h
  exact ⟨hid,htenant,⟨orderId,horder,hsource⟩,hstatus,hfares rfl⟩

/-- The rule for mapping an order: an invariant of drawing ids and reading the
clock is kept; without an order id the mapping raises the error of the id. -/
theorem meets_amadeusOrderToPnr {γ : Type} {env : Environment Answer γ}
    {allowed : γ → Question → Prop} {post : γ → Except Failure PNR → Prop} {I : γ → Prop} {g : γ}
    {order : Dict} {tenantId : EntityId} (hg : I g)
    (hallowed : ∀ g q,I g → q=.now ∨ q=.newId none → allowed g q)
    (hstep : ∀ g q a g',I g → q=.now ∨ q=.newId none → env g q a=some g' → I g')
    (herror : ∀ g e,I g → (∀ e',orderIdOf lib order=.error e' → e=e') → post g (.error e))
    (hok : ∀ g id g' pnr,I g → env g (.newId none) id=some g' → MappedFrom lib order tenantId id pnr →
      post g' (.ok pnr)) :
    Meets env allowed post (amadeusOrderToPnr lib order tenantId) g := by
  refine Meets.bind (Meets.ofExcept ?_)
  cases horder : orderIdOf lib order with
  | error e =>
    refine herror g e hg fun e' h => ?_
    cases horder.symm.trans h
    rfl
  | ok orderId =>
    have hraise : ∀ g e,I g → post g (.error e) := fun g e hi =>
      herror g e hi fun e' h => (by cases horder.symm.trans h)
    have huses : ∀ n,Uses (fun q => q=.now ∨ q=.newId none) (drawIds n) := uses_drawIds (.inr rfl)
    have hdraw : ∀ n g,I g → Meets env allowed (fun g' _ => I g') (drawIds n) g :=
      fun n g hi => (huses n).meets hi hallowed hstep
    dsimp only
    refine Meets.bind (Meets.ofExcept ?_)
    cases travelersOf order orderId with
    | error e => exact hraise g e hg
    | ok travelers =>
      refine Meets.bind ((hdraw travelers.length g hg).imp fun g hr hi => ?_)
      cases hr with
      | error e => exact hraise g e hi
      | ok passengerIds =>
        refine Meets.bind (Meets.ofExcept ?_)
        cases segmentsOf order with
        | error e => exact hraise g e hi
        | ok segments =>
          refine Meets.bind ((hdraw segments.length g hi).imp fun g hr hi => ?_)
          cases hr with
          | error e => exact hraise g e hi
          | ok segmentIds =>
            dsimp only
            split
            · exact hraise g _ hi
            · refine Meets.bind (Meets.ofExcept ?_)
              cases ticketTimeLimitOf lib order with
              | error e => exact hraise g e hi
              | ok ticketTimeLimit =>
                refine Meets.bind (meets_utcNow (hallowed g _ hi (.inl rfl)) fun now g' hnow => ?_)
                have hi' : I g' := hstep g _ now g' hi (.inl rfl) hnow
                refine Meets.bind (meets_newEntityId (hallowed g' _ hi' (.inr rfl)) fun id g'' hid => ?_)
                have hbuilt : ∀ built,(pnrOf lib order tenantId orderId passengerIds segmentIds
                    ticketTimeLimit now id).build=built → post g'' (validated "PNR" built) := by
                  intro built hbuild
                  cases built with
                  | none => exact hraise g'' _ (hstep g' _ id g'' hi' (.inr rfl) hid)
                  | some pnr => exact hok g' id g'' pnr hi' hid (mappedFrom_build horder hbuild)
                exact Meets.ofExcept (hbuilt _ rfl)

/-! ## What mapping an offer asks and returns -/

section Fares

variable {γ : Type} {env : Environment Answer γ} {allowed : γ → Question → Prop} {I : γ → Prop}
  {F : γ → Tagged Fare → Prop} {offer : Tagged Dict} {tenantId : EntityId}

/-- What is to hold of drawing a fare's id: it is allowed, keeps an invariant and what
holds of the fares so far, and gives a fare of the id and the tenant its property. -/
structure Draws (env : Environment Answer γ) (allowed : γ → Question → Prop) (I : γ → Prop)
    (F : γ → Tagged Fare → Prop) (origin : Origin) (tenantId : EntityId) : Prop where
  allowed : ∀ g,I g → allowed g (.newId (some origin))
  keeps : ∀ g id g',I g → env g (.newId (some origin)) id=some g' → I g' ∧ ∀ x,F g x → F g' x
  fare : ∀ g id g' fare,I g → env g (.newId (some origin)) id=some g' →
    fare.id=stripWhitespace id → fare.tenantId=stripWhitespace tenantId → F g' ⟨origin,fare⟩

/-- The invariant holds, and fares keep their property. -/
def Keeps (I : γ → Prop) (F : γ → Tagged Fare → Prop) (g g' : γ) : Prop := I g' ∧ ∀ x,F g x → F g' x

theorem Keeps.refl {g : γ} (h : I g) : Keeps I F g g := ⟨h,fun _ hx => hx⟩

theorem Keeps.trans {g g' g'' : γ} (h : Keeps I F g g') (h' : Keeps I F g' g'') : Keeps I F g g'' :=
  ⟨h'.1,fun x hx => h'.2 x (h.2 x hx)⟩

/-- Each fare of the offer has its property. -/
theorem meets_faresOf {offerId : String} {itineraryId : EntityId} {validUntil : Option Instant}
    (hdraws : Draws env allowed I F offer.origin tenantId) (travelers : List (EntityId × Json))
    {g : γ} (hg : I g) :
    Meets env allowed
      (fun g' r => Keeps I F g g' ∧ ∀ fares,r=.ok fares → ∀ x∈fares,x.origin=offer.origin ∧ F g' x)
      (faresOf lib offer offerId itineraryId tenantId validUntil travelers) g := by
  induction travelers generalizing g with
  | nil =>
    refine ⟨.refl hg,fun fares hfares => ?_⟩
    cases hfares
    exact nofun
  | cons traveler rest ih =>
    obtain ⟨passengerId,pricing⟩ := traveler
    refine Meets.bind (Meets.ofExcept ?_)
    cases priceOf lib offerId pricing with
    | error e => exact ⟨.refl hg,nofun⟩
    | ok priced =>
      refine Meets.bind (meets_newEntityId (hdraws.allowed g hg) fun id g₁ hid => ?_)
      have hkept : Keeps I F g g₁ := hdraws.keeps g id g₁ hg hid
      refine Meets.bind (Meets.ofExcept ?_)
      generalize hbuild : Fare.build _=built
      cases built with
      | none => exact ⟨hkept,nofun⟩
      | some fare =>
        have hfare : F g₁ ⟨offer.origin,fare⟩ :=
          hdraws.fare g id g₁ fare hg hid (Fare.build_eq hbuild).1 (Fare.build_eq hbuild).2
        refine Meets.bind ((ih hkept.1).imp fun g₂ r hr => ?_)
        cases r with
        | error e => exact ⟨hkept.trans hr.1,nofun⟩
        | ok fares =>
          refine ⟨hkept.trans hr.1,fun all hall x hx => ?_⟩
          cases hall
          rcases List.mem_cons.mp hx with rfl|hx
          · exact ⟨rfl,hr.1.2 _ hfare⟩
          · exact hr.2 fares rfl x hx

theorem meets_amadeusOfferToFares {itineraryId : EntityId}
    (hdraws : Draws env allowed I F offer.origin tenantId) (passengerIds : List EntityId)
    {g : γ} (hg : I g) :
    Meets env allowed
      (fun g' r => Keeps I F g g' ∧ ∀ fares,r=.ok fares → ∀ x∈fares,x.origin=offer.origin ∧ F g' x)
      (amadeusOfferToFares lib offer passengerIds itineraryId tenantId) g := by
  refine Meets.bind (Meets.ofExcept ?_)
  cases require (.obj offer.value) "id" "offer" with
  | error e => exact ⟨.refl hg,nofun⟩
  | ok id =>
    dsimp only
    split
    · split
      · exact ⟨.refl hg,nofun⟩
      · refine Meets.bind (Meets.ofExcept ?_)
        generalize (if isTruthy (member offer.value "lastTicketingDateTime") then
          (parseDatetime lib (member offer.value "lastTicketingDateTime")
            "offer.lastTicketingDateTime").map some
          else .ok none)=validUntil
        cases validUntil with
        | error e => exact ⟨.refl hg,nofun⟩
        | ok validUntil => exact meets_faresOf hdraws _ hg
    · exact ⟨.refl hg,nofun⟩

end Fares

end Mapping

end Voyagent.AmadeusMapping
