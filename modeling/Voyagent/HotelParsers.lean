import Voyagent.AmadeusMapping

/-!
# The hotel parsers

An answer of the hotel search is read twice: into one offer for a hotel, and into
a property with all its rates. A hotel the first cannot use is skipped; the second
skips a room without a price and raises where a field does not validate.
-/

namespace Voyagent.HotelParsers

open RuntimeValues TrimmedText CalendarDates CanonicalFields CanonicalFinance AmadeusClient
open AmadeusMapping (validated)

/-- What the parsers use of Python; floats are values of a type of their own. -/
structure HotelLibrary (F : Type) extends AmadeusLibrary where
  /-- `str.lower`. -/
  lower : String → String
  /-- `str.isalpha`. -/
  isAlpha : String → Bool
  /-- `float(value)`. -/
  float : Json → Except Failure F
  /-- `int(x)` of a float. -/
  truncate : F → Except Failure Int
  /-- `int(value)`. -/
  int : Json → Except Failure Int
  /-- A float field with a lower and an upper bound accepts the value. -/
  isWithin : Int → Int → F → Bool

/-! ## Canonical hotels -/

inductive BoardBasis where
  | roomOnly | bedAndBreakfast | halfBoard | fullBoard | allInclusive
  deriving DecidableEq

structure HotelRoom where
  code : String
  name : String
  boardBasis : BoardBasis
  maxOccupancy : Int
  bedType : Option String
  deriving DecidableEq

structure HotelRate where
  room : HotelRoom
  price : Money
  cancellationPolicy : Option LocalizedText
  isRefundable : Bool
  rateKey : String
  deriving DecidableEq

structure HotelProperty (F : Type) where
  id : String
  name : String
  address : Option String
  city : String
  country : String
  latitude : Option F
  longitude : Option F
  starRating : Option Int
  amenities : List String
  images : List String
  deriving DecidableEq

/-- What the parsers read of a `HotelSearchCriteria`; its validators hold. -/
structure HotelSearchCriteria where
  destinationCity : String
  checkIn : CalendarDate
  checkOut : CalendarDate
  guestCount : Int
  stays : checkIn.ordinal<checkOut.ordinal
  guests : 1≤guestCount

structure HotelSearchResult (F : Type) where
  property : HotelProperty F
  rates : List HotelRate
  checkIn : CalendarDate
  checkOut : CalendarDate
  guestCount : Int
  priced : rates≠[]
  stays : checkIn.ordinal<checkOut.ordinal
  guests : 1≤guestCount

structure HotelOffer where
  propertyName : String
  propertyRef : String
  addressCountry : String
  cost : Money
  boardType : String
  roomType : String
  cancellationText : LocalizedText
  offerRef : String
  deriving DecidableEq

/-! ## Reading a value -/

/-- The members of a value that is asked for one. -/
def asObject : Json → Except Failure Dict
  | .obj fields => .ok fields
  | v => .error (.other "AttributeError" ("'"++pyTypeName v++"' object has no attribute 'get'"))

/-- `value[0]`. -/
def firstOf : Json → Except Failure Json
  | .arr (value::_) => .ok value
  | .arr [] => .error (.other "IndexError" "list index out of range")
  | .str s =>
    match s.toList with
    | c::_ => .ok (.str (String.singleton c))
    | [] => .error (.other "IndexError" "string index out of range")
  | .obj _ => .error (.other "KeyError" "0")
  | v => .error (.other "TypeError" ("'"++pyTypeName v++"' object is not subscriptable"))

/-- The exceptions that `_maybe_float` and `_maybe_int` catch. -/
def isCaught : Failure → Bool
  | .other typeName _ => typeName=="TypeError" || typeName=="ValueError"
  | .driver _ => false

/-- A value, nothing where reading it raises what is caught. -/
def orNone {α : Type} : Except Failure α → Except Failure (Option α)
  | .ok a => .ok (some a)
  | .error e => if isCaught e then .ok none else .error e

section Parsing

variable {F : Type} (lib : HotelLibrary F)

/-- `_maybe_float`. -/
def maybeFloat (v : Json) : Except Failure (Option F) :=
  if v=.null then .ok none else orNone (lib.float v)

/-- `_maybe_int`. -/
def maybeInt (v : Json) : Except Failure (Option Int) :=
  if v=.null then .ok none else orNone (lib.float v >>= lib.truncate)

/-- The meal plans `_parse_board_basis` knows. -/
def boardBases : List (String × BoardBasis) :=
  [("room only",.roomOnly),("room_only",.roomOnly),("ro",.roomOnly),
   ("breakfast",.bedAndBreakfast),("bed and breakfast",.bedAndBreakfast),("bb",.bedAndBreakfast),
   ("half board",.halfBoard),("hb",.halfBoard),("full board",.fullBoard),("fb",.fullBoard),
   ("all inclusive",.allInclusive),("ai",.allInclusive)]

/-- `_parse_board_basis`. -/
def parseBoardBasis (raw : Json) : BoardBasis :=
  if isTruthy raw then
    (KeyedMap.get boardBases (lib.lower (pyStrip (lib.str raw)))).getD .roomOnly
  else .roomOnly

/-- The text of `CountryCode`, as `_parse_search_results` cuts it. -/
def countryText (hotel : Dict) : String :=
  let country := cut 2 (lib.upper (textOr lib.toAmadeusLibrary (member hotel "CountryCode") "XX"))
  if country="" then "XX" else country

/-- The country of an offer; nothing where the hotel is skipped for it. -/
def acceptedCountry (rawCountry : Json) : Option String :=
  match rawCountry with
  | .str s => if s.toList.length=2 ∧ lib.isAlpha s=true then some (lib.upper s) else none
  | _ => none

/-- The currency of a room. -/
def currencyOf (room : Dict) (fallbackCurrency : Json) : Json :=
  orElse (orElse (member room "Currency") fallbackCurrency) (.str "USD")

/-- `Money(amount=Decimal(str(...)), currency=str(...))`; nothing where it raises. -/
def moneyIn (priceTotal currency : Json) : Option Money :=
  moneyOf (lib.decimal (lib.str priceTotal)) (lib.str currency)

/-! ## Offers -/

/-- The cost of an offer; a room without a price costs nothing. -/
def costOf (firstRate : Dict) (fallbackCurrency : Json) : Option Money :=
  moneyIn lib (orElse (orElse (member firstRate "TotalFare") (member firstRate "Price")) (.int 0))
    (currencyOf firstRate fallbackCurrency)

/-- The offer of a hotel with its first room; nothing where it is skipped. -/
def hotelOffer (hotel firstRate : Dict) (country : String) (fallbackCurrency : Json) :
    Option HotelOffer := do
  let str := textOr lib.toAmadeusLibrary
  let cost ← costOf lib firstRate fallbackCurrency
  let addressCountry ← patterned isCountryCode (.str country)
  return {
    propertyName := stripWhitespace (str (member hotel "HotelName") "Unknown hotel")
    propertyRef := stripWhitespace (str (member hotel "HotelCode") "")
    addressCountry := addressCountry
    cost := cost
    boardType := stripWhitespace (str (member firstRate "MealType") "room_only")
    roomType := stripWhitespace
      (str (orElse (member firstRate "Name") (member firstRate "RoomType")) "")
    cancellationText :=
      {default := stripWhitespace
        (str (member firstRate "CancellationPolicy") "See supplier cancellation terms.")}
    offerRef := stripWhitespace
      (str (orElse (member firstRate "BookingCode") (member hotel "HotelCode")) "")}

/-- A hotel in the loop of `_parse_search_offers`; nothing where it is skipped. -/
def offerOf (fallbackCurrency h : Json) : Except Failure (Option HotelOffer) := do
  let hotel ← asObject h
  match acceptedCountry lib (member hotel "CountryCode") with
  | none => return none
  | some country =>
    let rates := orElse (member hotel "Rooms") (.arr [])
    let firstRate ← if isTruthy rates then firstOf rates else .ok (.obj [])
    let firstRate ← asObject firstRate
    return hotelOffer lib hotel firstRate country fallbackCurrency

/-- The hotels of an answer. -/
def hotelsOf (raw : Dict) : Except Failure (List Json) := do
  let found ← memberOf (orElse (member raw "HotelSearchResult") (.obj [])) "HotelResults"
  elements (orElse found (.arr []))

/-- `_parse_search_offers`. -/
def parseSearchOffers (raw : Json) : Except Failure (List HotelOffer) :=
  match raw with
  | .obj fields => do
    let hotels ← hotelsOf fields
    let offers ← hotels.mapM (offerOf lib (member fields "Currency"))
    return offers.filterMap id
  | _ => .ok []

/-! ## Results -/

/-- The price of a room; nothing where it has none that can be read. -/
def priceOf (room : Dict) (fallbackCurrency : Json) : Option Money :=
  let priceTotal := orElse (member room "TotalFare") (member room "Price")
  if priceTotal=.null then none else moneyIn lib priceTotal (currencyOf room fallbackCurrency)

/-- `HotelRoom(...)` of a room that sleeps so many; nothing where it raises. -/
def hotelRoom (room : Dict) (maxOccupancy : Int) : Option HotelRoom := do
  let str := textOr lib.toAmadeusLibrary
  let bedType ← nullable text (some (member room "BedType"))
  if 1 ≤ maxOccupancy then
    some {
      code := stripWhitespace
        (str (orElse (member room "RoomTypeCode") (member room "RoomTypeId")) "ROOM")
      name := stripWhitespace (str (orElse (member room "Name") (member room "RoomType")) "Room")
      boardBasis := parseBoardBasis lib (member room "MealType")
      maxOccupancy := maxOccupancy
      bedType := bedType}
  else none

/-- `_parse_rate_entry`. -/
def parseRateEntry (fallbackCurrency r : Json) : Except Failure (Option HotelRate) := do
  let entry ← asObject r
  match priceOf lib entry fallbackCurrency with
  | none => return none
  | some price =>
    let maxOccupancy ← lib.int (orElse (member entry "MaxOccupancy") (.int 2))
    let room ← validated "HotelRoom" (hotelRoom lib entry maxOccupancy)
    let cancelText := member entry "CancellationPolicy"
    return some {
      room := room
      price := price
      cancellationPolicy :=
        if isTruthy cancelText then some {default := stripWhitespace (lib.str cancelText)} else none
      isRefundable := isTruthy (member entry "IsRefundable")
      rateKey := stripWhitespace (textOr lib.toAmadeusLibrary (member entry "BookingCode") "")}

/-- What `HotelProperty` is validated from, besides the texts of the hotel. -/
structure PropertyReading (F : Type) where
  latitude : Option F
  longitude : Option F
  starRating : Option Int
  amenities : List Json
  images : List Json

/-- The fields of a property that are read before it is validated. -/
def readProperty (hotel : Dict) : Except Failure (PropertyReading F) := do
  let latitude ← maybeFloat lib (member hotel "Latitude")
  let longitude ← maybeFloat lib (member hotel "Longitude")
  let starRating ← maybeInt lib (orElse (member hotel "HotelRating") (member hotel "StarRating"))
  let amenities ← elements (orElse (member hotel "HotelFacilities") (.arr []))
  let images ← elements (orElse (member hotel "Images") (.arr []))
  return ⟨latitude,longitude,starRating,amenities,images⟩

/-- The numbers of a property are within the bounds of their fields. -/
def PropertyReading.isBounded (reading : PropertyReading F) : Bool :=
  reading.latitude.all (lib.isWithin (-90) 90) && reading.longitude.all (lib.isWithin (-180) 180) &&
    reading.starRating.all fun n => 1≤n && n≤5

/-- `HotelProperty(...)`; nothing where it raises. -/
def hotelProperty (criteria : HotelSearchCriteria) (hotel : Dict) (reading : PropertyReading F) :
    Option (HotelProperty F) := do
  let str := textOr lib.toAmadeusLibrary
  let address ← nullable text (some (member hotel "Address"))
  let country ← patterned isCountryCode (.str (countryText lib hotel))
  let amenities ← reading.amenities.mapM text
  if reading.isBounded lib then
    some {
      id := stripWhitespace (str (member hotel "HotelCode") "")
      name := stripWhitespace (str (member hotel "HotelName") "Unknown hotel")
      address := address
      city := stripWhitespace (str (member hotel "CityName") criteria.destinationCity)
      country := country
      latitude := reading.latitude
      longitude := reading.longitude
      starRating := reading.starRating
      amenities := amenities
      images := reading.images.map fun u => stripWhitespace (lib.str u)}
  else none

/-- `HotelSearchResult(...)`, built where there is a rate. -/
def hotelSearchResult (criteria : HotelSearchCriteria) (property : HotelProperty F) :
    List HotelRate → Option (HotelSearchResult F)
  | [] => none
  | rate::rates => some {
      property := property
      rates := rate::rates
      checkIn := criteria.checkIn
      checkOut := criteria.checkOut
      guestCount := criteria.guestCount
      priced := List.cons_ne_nil rate rates
      stays := criteria.stays
      guests := criteria.guests}

/-- A hotel in the loop of `_parse_search_results`; nothing where it is skipped. -/
def resultOf (criteria : HotelSearchCriteria) (fallbackCurrency h : Json) :
    Except Failure (Option (HotelSearchResult F)) := do
  let hotel ← asObject h
  let reading ← readProperty lib hotel
  let property ← validated "HotelProperty" (hotelProperty lib criteria hotel reading)
  let rooms ← elements (orElse (member hotel "Rooms") (.arr []))
  let rates ← rooms.mapM (parseRateEntry lib fallbackCurrency)
  return hotelSearchResult criteria property (rates.filterMap id)

/-- `_parse_search_results`. -/
def parseSearchResults (criteria : HotelSearchCriteria) (raw : Json) :
    Except Failure (List (HotelSearchResult F)) :=
  match raw with
  | .obj fields => do
    let hotels ← hotelsOf fields
    let results ← hotels.mapM (resultOf lib criteria (member fields "Currency"))
    return results.filterMap id
  | _ => .ok []

end Parsing

end Voyagent.HotelParsers
