import Mathlib.Data.Set.List
import Voyagent.FallibleResults
import Voyagent.HotelParsers
import Voyagent.JournalSummary

/-!
# Where the hotel parsers agree

What the two readings of an answer should have in common, and the answers for
which they do: every hotel has the fields of a property, and it has a price and a
country for one parser exactly where it has them for the other.
-/

namespace Voyagent.HotelAgreement

open RuntimeValues TrimmedText CalendarDates CanonicalFields CanonicalFinance FallibleResults
  AmadeusClient HotelParsers
open AmadeusMapping (validated_ok)
open JournalSummary (readingOf)

variable {F : Type}

/-! ## Agreement -/

/-- Money that compares equal. -/
structure SameMoney (a b : Money) : Prop where
  currency : a.currency=b.currency
  amount : a.amount.beq b.amount=true

/-- An offer is for the hotel of a result, at one of its rates. -/
structure IsOfferOf (offer : HotelOffer) (result : HotelSearchResult F) : Prop where
  ref : offer.propertyRef=result.property.id
  name : offer.propertyName=result.property.name
  country : offer.addressCountry=result.property.country
  rate : ∃ rate∈result.rates,SameMoney offer.cost rate.price ∧ offer.offerRef=rate.rateKey

/-- A hotel of an answer with what each parser makes of it. -/
structure ParsedHotel (F : Type) where
  hotel : Json
  offer : Option HotelOffer
  result : Option (HotelSearchResult F)

/-- The hotels of any value. -/
def hotelsIn : Json → Except Failure (List Json)
  | .obj fields => hotelsOf fields
  | _ => .ok []

/-- The answer with one hotel alone. -/
def aloneIn (raw h : Json) : Json :=
  .obj [("Currency",fieldOf raw "Currency"),("HotelSearchResult",.obj [("HotelResults",.arr [h])])]

/-- The rooms of a hotel. -/
def roomsOf (h : Json) : Except Failure (List Json) := elements (orElse (fieldOf h "Rooms") (.arr []))

section Conditions

variable (lib : HotelLibrary F)

/-- The country of a hotel is one that an offer can have. -/
def HasCountry (hotel : Dict) : Prop :=
  ∃ country,acceptedCountry lib (member hotel "CountryCode")=some country ∧
    isCountryCode (stripWhitespace country)=true

/-- The rates of a hotel are those of its rooms, each read by itself. -/
def HasRatesOf (currency h : Json) (rates : List HotelRate) : Prop :=
  ∃ rooms read,roomsOf h=.ok rooms ∧
    List.Forall₂ (fun room rate => parseRateEntry lib currency room=.ok rate) rooms read ∧
    rates=read.filterMap id

/-- The parsers make of a hotel what they make of it alone, and they agree on it. -/
structure HotelAgrees (criteria : HotelSearchCriteria) (raw : Json) (p : ParsedHotel F) : Prop where
  offer : parseSearchOffers lib (aloneIn raw p.hotel)=.ok p.offer.toList
  result : parseSearchResults lib criteria (aloneIn raw p.hotel)=.ok p.result.toList
  agree : Option.Rel IsOfferOf p.offer p.result
  rates : HasRatesOf lib (fieldOf raw "Currency") p.hotel (p.result.toList.flatMap (·.rates))
  country : p.offer.isSome=true → ∃ fields,p.hotel=.obj fields ∧ HasCountry lib fields

/-- Neither parser raises, and they report the same hotels in the same order. -/
def ParsersAgree (criteria : HotelSearchCriteria) (raw : Json) : Prop :=
  ∃ parsed : List (ParsedHotel F),
    hotelsIn raw=.ok (parsed.map ParsedHotel.hotel) ∧
    parseSearchOffers lib raw=.ok (parsed.filterMap ParsedHotel.offer) ∧
    parseSearchResults lib criteria raw=.ok (parsed.filterMap ParsedHotel.result) ∧
    ∀ p∈parsed,HotelAgrees lib criteria raw p

/-! ## Orderly answers -/

/-- A text or `null`. -/
def IsNote (v : Json) : Prop := v=.null ∨ ∃ s,v=.str s

/-- A value that is no number, or one within two bounds. -/
def IsCoordinate (lo hi : Int) (v : Json) : Prop :=
  ∃ reading,maybeFloat lib v=.ok reading ∧ ∀ x∈reading,lib.isWithin lo hi x=true

/-- A room sleeps someone and describes its bed, if at all, in a text. -/
structure IsLodging (room : Dict) : Prop where
  sleeps : ∃ n,lib.int (orElse (member room "MaxOccupancy") (.int 2))=.ok n ∧ 1≤n
  bed : IsNote (member room "BedType")

/-- The fields of a property. -/
structure IsProperty (hotel : Dict) : Prop where
  address : IsNote (member hotel "Address")
  country : isCountryCode (stripWhitespace (countryText lib hotel))=true
  latitude : IsCoordinate lib (-90) 90 (member hotel "Latitude")
  longitude : IsCoordinate lib (-180) 180 (member hotel "Longitude")
  stars : ∃ reading,
    maybeInt lib (orElse (member hotel "HotelRating") (member hotel "StarRating"))=.ok reading ∧
      ∀ n∈reading,1≤n ∧ n≤5
  amenities : ∃ values,elements (orElse (member hotel "HotelFacilities") (.arr []))=.ok values ∧
    ∀ v∈values,∃ s,v=.str s
  images : ∃ values,elements (orElse (member hotel "Images") (.arr []))=.ok values

/-- A hotel with rooms, of which those with a price are lodgings. -/
structure HasRooms (currency : Json) (hotel : Dict) (rooms : List Dict) : Prop where
  read : elements (orElse (member hotel "Rooms") (.arr []))=.ok (rooms.map .obj)
  lodging : ∀ room∈rooms,(priceOf lib room currency).isSome=true → IsLodging lib room

/-- The first room, as `_parse_search_offers` takes it. -/
def firstRoom (rooms : List Dict) : Dict := rooms.head?.getD []

/-- The booking code that an offer shows. -/
def offerCode (hotel room : Dict) : String :=
  stripWhitespace (textOr lib.toAmadeusLibrary
    (orElse (member room "BookingCode") (member hotel "HotelCode")) "")

/-- The booking code of a room. -/
def rateCode (room : Dict) : String :=
  stripWhitespace (textOr lib.toAmadeusLibrary (member room "BookingCode") "")

/-- No room has a price, and the hotel gives no offer either. -/
structure IsUnpriced (currency : Json) (hotel : Dict) (rooms : List Dict) : Prop where
  unpriced : ∀ room∈rooms,priceOf lib room currency=none
  offer : HasCountry lib hotel → costOf lib (firstRoom rooms) currency=none

/-- The hotel gives an offer, which one of its rooms bears out. -/
structure IsPriced (currency : Json) (hotel : Dict) (rooms : List Dict) : Prop where
  country : HasCountry lib hotel
  room : ∃ cost,costOf lib (firstRoom rooms) currency=some cost ∧ ∃ room∈rooms,∃ price,
    priceOf lib room currency=some price ∧ SameMoney cost price ∧
      offerCode lib hotel (firstRoom rooms)=rateCode lib room

/-- The hotel has all that is read of it, and is priced for both parsers or for neither. -/
def IsOrderly (currency h : Json) : Prop :=
  ∃ hotel rooms,h=.obj hotel ∧ IsProperty lib hotel ∧ HasRooms lib currency hotel rooms ∧
    (IsUnpriced lib currency hotel rooms ∨ IsPriced lib currency hotel rooms)

end Conditions

variable {lib : HotelLibrary F} {criteria : HotelSearchCriteria}

/-! ## Fields -/

variable {v : Json}

theorem text_isSome : (∃ t,text v=some t) ↔ ∃ s,v=.str s := by
  cases v with
  | str s => exact iff_of_true ⟨_,rfl⟩ ⟨s,rfl⟩
  | _ => exact iff_of_false (fun ⟨_,h⟩ => (by cases h)) (fun ⟨_,h⟩ => (by cases h))

theorem nullable_isSome : (∃ t,nullable text (some v)=some t) ↔ IsNote v := by
  cases v with
  | null => exact iff_of_true ⟨none,rfl⟩ (.inl rfl)
  | str s => exact iff_of_true ⟨_,rfl⟩ (.inr ⟨s,rfl⟩)
  | _ =>
    refine iff_of_false (fun ⟨_,h⟩ => (by cases h)) fun h => ?_
    obtain h|⟨_,h⟩ := h <;> cases h

theorem asObject_ok {fields : Dict} : asObject v=.ok fields ↔ v=.obj fields := by
  cases v with
  | obj fields' => exact ⟨fun h => congrArg Json.obj (Except.ok.inj h),fun h => (by cases h; rfl)⟩
  | _ => exact iff_of_false (fun h => (by cases h)) (fun h => (by cases h))

variable {t : String}

theorem take_cut : (cut 2 t).toList=t.toList.take 2 := String.toList_ofList

theorem isCountryCode_length (h : isCountryCode t=true) : t.toList.length=2 := by
  unfold isCountryCode at h
  exact beq_iff_eq.mp (Bool.and_eq_true_iff.mp h).1

/-- The first two characters of a text that trims to a country are that country. -/
theorem country_cut (hcut : isCountryCode (stripWhitespace (cut 2 t))=true)
    (hcountry : isCountryCode (stripWhitespace t)=true) :
    stripWhitespace t=stripWhitespace (cut 2 t) := by
  -- Two characters trim to two characters only if they are no blanks.
  have hshort : (cut 2 t).toList.length≤2 := by
    rw [take_cut]
    exact List.length_take_le 2 _
  have hlength := isCountryCode_length hcut
  have hle := (trimBy_length isWhiteSpace (cut 2 t)).1
  rw [← String.length_toList,← String.length_toList] at hle
  have hbare : stripWhitespace (cut 2 t)=cut 2 t := by
    refine (trimBy_length isWhiteSpace (cut 2 t)).2 ?_
    rw [← String.length_toList,← String.length_toList]
    unfold stripWhitespace at hlength
    omega
  rw [hbare] at hcut ⊢
  have hchars : (cut 2 t).toList.all isUpper=true := (Bool.and_eq_true_iff.mp hcut).2
  have hdrop : t.toList.dropWhile isWhiteSpace=t.toList := by
    cases hlist : t.toList with
    | nil => rfl
    | cons c cs =>
      rw [take_cut,hlist] at hchars
      have hc : isUpper c=true := List.all_eq_true.mp hchars c (by simp)
      exact List.dropWhile_cons_of_neg (by simp [upper_not_whiteSpace hc])
  have hprefix := List.rdropWhile_prefix isWhiteSpace t.toList
  have htrim : (stripWhitespace t).toList=t.toList.rdropWhile isWhiteSpace := by
    rw [stripWhitespace,trimBy_toList,trimList,hdrop]
  rw [← htrim] at hprefix
  have htake := List.prefix_iff_eq_take.mp hprefix
  rw [isCountryCode_length hcountry] at htake
  rw [← String.toList_inj,take_cut]
  exact htake

/-! ## A property and its rates -/

variable {reading : PropertyReading F}

theorem isBounded_iff :
    reading.isBounded lib=true ↔ (∀ x∈reading.latitude,lib.isWithin (-90) 90 x=true) ∧
      (∀ x∈reading.longitude,lib.isWithin (-180) 180 x=true) ∧
        ∀ n∈reading.starRating,1≤n ∧ n≤5 := by
  unfold PropertyReading.isBounded
  simp only [Bool.and_eq_true,Option.all_eq_true,Option.mem_def,decide_eq_true_eq,and_assoc]

variable {hotel : Dict}

theorem hotelProperty_isSome (criteria : HotelSearchCriteria) :
    (∃ p,hotelProperty lib criteria hotel reading=some p) ↔ IsNote (member hotel "Address") ∧
      isCountryCode (stripWhitespace (countryText lib hotel))=true ∧
        (∀ v∈reading.amenities,∃ s,v=.str s) ∧ reading.isBounded lib=true := by
  unfold hotelProperty
  simp only [Option.bind_eq_bind,Option.bind_eq_some_iff]
  constructor
  · rintro ⟨p,address,haddress,country,hcountry,amenities,hamenities,h⟩
    refine ⟨nullable_isSome.mp ⟨_,haddress⟩,(patterned_eq_some.mp hcountry).1,fun v hv => ?_,?_⟩
    · exact text_isSome.mp (mapM_isSome.mp ⟨_,hamenities⟩ v hv)
    · split at h
      · assumption
      · cases h
  · rintro ⟨haddress,hcountry,hamenities,hbounded⟩
    obtain ⟨address,haddress⟩ := nullable_isSome.mpr haddress
    obtain ⟨amenities,hamenities⟩ := mapM_isSome.mpr fun v hv => text_isSome.mpr (hamenities v hv)
    exact ⟨_,address,haddress,_,patterned_eq_some.mpr ⟨hcountry,rfl⟩,amenities,hamenities,
      if_pos hbounded⟩

/-- The texts of a property, as the hotel gives them. -/
structure IsPropertyOf (lib : HotelLibrary F) (hotel : Dict) (p : HotelProperty F) : Prop where
  id : p.id=stripWhitespace (textOr lib.toAmadeusLibrary (member hotel "HotelCode") "")
  name : p.name=stripWhitespace (textOr lib.toAmadeusLibrary (member hotel "HotelName") "Unknown hotel")
  country : p.country=stripWhitespace (countryText lib hotel)

theorem hotelProperty_fields {p : HotelProperty F}
    (h : hotelProperty lib criteria hotel reading=some p) : IsPropertyOf lib hotel p := by
  unfold hotelProperty at h
  simp only [Option.bind_eq_bind,Option.bind_eq_some_iff] at h
  obtain ⟨address,-,country,hcountry,amenities,-,h⟩ := h
  split at h
  · cases h
    exact ⟨rfl,rfl,(patterned_eq_some.mp hcountry).2⟩
  · cases h

/-- A property is read and built where the hotel has its fields. -/
theorem property_isOk (criteria : HotelSearchCriteria) :
    (∃ reading p,readProperty lib hotel=.ok reading ∧
      hotelProperty lib criteria hotel reading=some p) ↔ IsProperty lib hotel := by
  constructor
  · rintro ⟨reading,p,hreading,hproperty⟩
    obtain ⟨haddress,hcountry,hnames,hbounded⟩ := (hotelProperty_isSome criteria).mp ⟨p,hproperty⟩
    obtain ⟨latitude,hlatitude,hreading⟩ := bind_ok.mp hreading
    obtain ⟨longitude,hlongitude,hreading⟩ := bind_ok.mp hreading
    obtain ⟨stars,hstars,hreading⟩ := bind_ok.mp hreading
    obtain ⟨amenities,hamenities,hreading⟩ := bind_ok.mp hreading
    obtain ⟨images,himages,hreading⟩ := bind_ok.mp hreading
    cases hreading
    obtain ⟨hnorth,heast,hrating⟩ := isBounded_iff.mp hbounded
    exact ⟨haddress,hcountry,⟨_,hlatitude,hnorth⟩,⟨_,hlongitude,heast⟩,⟨_,hstars,hrating⟩,
      ⟨_,hamenities,hnames⟩,⟨_,himages⟩⟩
  · intro h
    obtain ⟨latitude,hlatitude,hnorth⟩ := h.latitude
    obtain ⟨longitude,hlongitude,heast⟩ := h.longitude
    obtain ⟨stars,hstars,hrating⟩ := h.stars
    obtain ⟨amenities,hamenities,hnames⟩ := h.amenities
    obtain ⟨images,himages⟩ := h.images
    have hbounded : PropertyReading.isBounded lib ⟨latitude,longitude,stars,amenities,images⟩=true :=
      isBounded_iff.mpr ⟨hnorth,heast,hrating⟩
    obtain ⟨p,hproperty⟩ :=
      (hotelProperty_isSome criteria).mpr ⟨h.address,h.country,hnames,hbounded⟩
    exact ⟨_,p,bind_ok.mpr ⟨_,hlatitude,bind_ok.mpr ⟨_,hlongitude,bind_ok.mpr ⟨_,hstars,
      bind_ok.mpr ⟨_,hamenities,bind_ok.mpr ⟨_,himages,rfl⟩⟩⟩⟩⟩,hproperty⟩

theorem hotelRoom_isSome {room : Dict} {n : Int} :
    (∃ built,hotelRoom lib room n=some built) ↔ IsNote (member room "BedType") ∧ 1≤n := by
  unfold hotelRoom
  simp only [Option.bind_eq_bind,Option.bind_eq_some_iff]
  constructor
  · rintro ⟨built,bed,hbed,h⟩
    split at h
    · exact ⟨nullable_isSome.mp ⟨bed,hbed⟩,by assumption⟩
    · cases h
  · rintro ⟨hbed,hn⟩
    obtain ⟨bed,hbed⟩ := nullable_isSome.mpr hbed
    exact ⟨_,bed,hbed,if_pos hn⟩

section Rates

variable {currency : Json} {room : Dict} {price : Money}

theorem parseRateEntry_unpriced (h : priceOf lib room currency=none) :
    parseRateEntry lib currency (.obj room)=.ok none := by
  refine bind_ok.mpr ⟨room,rfl,?_⟩
  rw [h]
  rfl

/-- A room with a price has a rate, at that price and under its booking code. -/
theorem parseRateEntry_priced (hprice : priceOf lib room currency=some price)
    {read : Option HotelRate} (h : parseRateEntry lib currency (.obj room)=.ok read) :
    IsLodging lib room ∧
      ∃ rate,read=some rate ∧ rate.price=price ∧ rate.rateKey=rateCode lib room := by
  obtain ⟨entry,hentry,h⟩ := bind_ok.mp h
  cases hentry
  rw [hprice] at h
  obtain ⟨n,hn,h⟩ := bind_ok.mp h
  obtain ⟨built,hbuilt,h⟩ := bind_ok.mp h
  cases h
  obtain ⟨hbed,hsleeps⟩ := hotelRoom_isSome.mp ⟨built,validated_ok.mp hbuilt⟩
  exact ⟨⟨⟨n,hn,hsleeps⟩,hbed⟩,_,rfl,rfl,rfl⟩

theorem parseRateEntry_isOk :
    (∃ read,parseRateEntry lib currency (.obj room)=.ok read) ↔
      ((priceOf lib room currency).isSome=true → IsLodging lib room) := by
  cases hprice : priceOf lib room currency with
  | none => exact iff_of_true ⟨none,parseRateEntry_unpriced hprice⟩ fun h => (by cases h)
  | some price =>
    constructor
    · rintro ⟨read,h⟩ -
      exact (parseRateEntry_priced hprice h).1
    · intro h
      obtain ⟨⟨n,hn,hsleeps⟩,hbed⟩ := h rfl
      obtain ⟨built,hbuilt⟩ := hotelRoom_isSome.mpr ⟨hbed,hsleeps⟩
      refine exists_bind_ok.mpr ⟨room,rfl,?_⟩
      rw [hprice]
      exact exists_bind_ok.mpr ⟨n,hn,exists_bind_ok.mpr ⟨built,validated_ok.mpr hbuilt,_,rfl⟩⟩

end Rates

/-! ## The result of a hotel -/

section Hotels

variable {currency : Json} {hotel : Dict} {rooms : List Dict}

theorem resultOf_isOk (criteria : HotelSearchCriteria) {h : Json} :
    (∃ r,resultOf lib criteria currency h=.ok r) ↔ ∃ hotel rooms,h=.obj hotel ∧
      IsProperty lib hotel ∧ HasRooms lib currency hotel rooms := by
  constructor
  · rintro ⟨r,hr⟩
    obtain ⟨hotel,hobject,hr⟩ := bind_ok.mp hr
    obtain ⟨reading,hreading,hr⟩ := bind_ok.mp hr
    obtain ⟨p,hproperty,hr⟩ := bind_ok.mp hr
    obtain ⟨values,hvalues,hr⟩ := bind_ok.mp hr
    obtain ⟨read,hread,-⟩ := bind_ok.mp hr
    have hread := mapM_isOk.mp ⟨read,hread⟩
    -- A rate is asked for its members, so every room that is gone through is an object.
    have hobjects : ∀ value∈values,value∈Set.range Json.obj := by
      intro value hvalue
      obtain ⟨rate,hrate⟩ := hread value hvalue
      obtain ⟨room,hroom,-⟩ := bind_ok.mp hrate
      exact ⟨room,(asObject_ok.mp hroom).symm⟩
    have hrange : values∈Set.range (List.map Json.obj) := by
      rw [Set.range_list_map]
      exact hobjects
    obtain ⟨rooms,rfl⟩ := hrange
    refine ⟨hotel,rooms,asObject_ok.mp hobject,
      (property_isOk criteria).mp ⟨reading,p,hreading,validated_ok.mp hproperty⟩,hvalues,fun room hroom => ?_⟩
    exact parseRateEntry_isOk.mp (hread (.obj room) (List.mem_map_of_mem hroom))
  · rintro ⟨hotel,rooms,rfl,hproperty,hrooms⟩
    obtain ⟨reading,p,hreading,hproperty⟩ := (property_isOk criteria).mpr hproperty
    have hread : ∀ value∈rooms.map Json.obj,∃ rate,parseRateEntry lib currency value=.ok rate := by
      intro value hvalue
      obtain ⟨room,hroom,rfl⟩ := List.mem_map.mp hvalue
      exact parseRateEntry_isOk.mpr (hrooms.lodging room hroom)
    obtain ⟨read,hread⟩ := mapM_isOk.mpr hread
    exact ⟨_,bind_ok.mpr ⟨hotel,rfl,bind_ok.mpr ⟨reading,hreading,
      bind_ok.mpr ⟨p,validated_ok.mpr hproperty,bind_ok.mpr ⟨_,hrooms.read,
        bind_ok.mpr ⟨read,hread,rfl⟩⟩⟩⟩⟩⟩

/-- A hotel that is read has a property of its own and a rate for each priced room. -/
theorem resultOf_ok (hrooms : HasRooms lib currency hotel rooms) {r : Option (HotelSearchResult F)}
    (h : resultOf lib criteria currency (.obj hotel)=.ok r) :
    ∃ p read,IsPropertyOf lib hotel p ∧
      List.Forall₂ (fun room rate => parseRateEntry lib currency (.obj room)=.ok rate) rooms read ∧
        r=hotelSearchResult criteria p (read.filterMap id) := by
  obtain ⟨hotel',hobject,h⟩ := bind_ok.mp h
  cases asObject_ok.mp hobject
  obtain ⟨reading,hreading,h⟩ := bind_ok.mp h
  obtain ⟨p,hproperty,h⟩ := bind_ok.mp h
  obtain ⟨values,hvalues,h⟩ := bind_ok.mp h
  cases hrooms.read.symm.trans hvalues
  obtain ⟨read,hread,h⟩ := bind_ok.mp h
  cases h
  exact ⟨p,read,hotelProperty_fields (validated_ok.mp hproperty),
    List.forall₂_map_left_iff.mp (mapM_ok.mp hread),rfl⟩

variable {p : HotelProperty F} {rates : List HotelRate}

theorem hotelSearchResult_none : hotelSearchResult criteria p rates=none ↔ rates=[] := by
  cases rates with
  | nil => exact iff_of_true rfl rfl
  | cons rate rates => exact iff_of_false (fun h => (by cases h)) (List.cons_ne_nil rate rates)

theorem hotelSearchResult_some {r : HotelSearchResult F}
    (h : hotelSearchResult criteria p rates=some r) : r.property=p ∧ r.rates=rates := by
  cases rates with
  | nil => cases h
  | cons rate rates =>
    cases h
    exact ⟨rfl,rfl⟩

theorem rates_hotelSearchResult (p : HotelProperty F) (rates : List HotelRate) :
    (hotelSearchResult criteria p rates).toList.flatMap (·.rates)=rates := by
  cases rates with
  | nil => rfl
  | cons rate rates => exact List.append_nil _

/-! ## The offer of a hotel -/

/-- Rooms that are all objects are a list of them, or nothing that counts as rooms. -/
theorem rooms_list {v : Json} (h : elements v=.ok (rooms.map .obj)) (htruthy : isTruthy v=true) :
    ∃ room rest,rooms=room::rest ∧ v=.arr ((room::rest).map .obj) := by
  cases v with
  | arr values =>
    cases h
    cases rooms with
    | nil => cases htruthy
    | cons room rest => exact ⟨room,rest,rfl,rfl⟩
  | obj fields =>
    cases fields with
    | nil => cases htruthy
    | cons field fields =>
      cases rooms with
      | nil => cases h
      | cons room rest => cases h
  | str s =>
    have hchars : s.toList.map (fun c => Json.str (String.singleton c))=rooms.map .obj :=
      Except.ok.inj h
    cases hs : s.toList with
    | nil =>
      have hempty : s="" := String.toList_inj.mp hs
      rw [hempty] at htruthy
      cases htruthy
    | cons c cs =>
      rw [hs] at hchars
      cases rooms with
      | nil => cases hchars
      | cons room rest => cases hchars
  | _ => cases h

theorem no_rooms {v : Json} (h : elements v=.ok (rooms.map .obj)) (hfalsy : isTruthy v=false) :
    rooms=[] := by
  refine List.map_eq_nil_iff.mp (Except.ok.inj (h.symm.trans ?_))
  cases v with
  | arr values =>
    cases values with
    | nil => rfl
    | cons value values => cases hfalsy
  | obj fields =>
    cases fields with
    | nil => rfl
    | cons field fields => cases hfalsy
  | str s =>
    have hempty : s="" := not_not.mp (of_decide_eq_false hfalsy)
    rw [hempty]
    rfl
  | _ => cases h

/-- A hotel without a country gives no offer, and any other the one of its first room. -/
theorem offerOf_rooms (hrooms : HasRooms lib currency hotel rooms) :
    offerOf lib currency (.obj hotel)=.ok ((acceptedCountry lib (member hotel "CountryCode")).bind
      fun country => hotelOffer lib hotel (firstRoom rooms) country currency) := by
  refine bind_ok.mpr ⟨hotel,rfl,?_⟩
  cases acceptedCountry lib (member hotel "CountryCode") with
  | none => rfl
  | some country =>
    have hread := hrooms.read
    dsimp only
    generalize orElse (member hotel "Rooms") (.arr [])=rates at hread ⊢
    by_cases htruthy : isTruthy rates=true
    · obtain ⟨room,rest,rfl,rfl⟩ := rooms_list hread htruthy
      rfl
    · rw [no_rooms hread (Bool.eq_false_iff.mpr htruthy),if_neg htruthy]
      rfl

/-- An offer, as the hotel and its first room give it. -/
structure IsHotelOffer (lib : HotelLibrary F) (currency : Json) (hotel room : Dict)
    (offer : HotelOffer) : Prop where
  ref : offer.propertyRef=stripWhitespace (textOr lib.toAmadeusLibrary (member hotel "HotelCode") "")
  name : offer.propertyName=
    stripWhitespace (textOr lib.toAmadeusLibrary (member hotel "HotelName") "Unknown hotel")
  country : ∃ country,acceptedCountry lib (member hotel "CountryCode")=some country ∧
    isCountryCode (stripWhitespace country)=true ∧ offer.addressCountry=stripWhitespace country
  cost : costOf lib room currency=some offer.cost
  code : offer.offerRef=offerCode lib hotel room

variable {room : Dict}

theorem IsHotelOffer.hasCountry {offer : HotelOffer}
    (h : IsHotelOffer lib currency hotel room offer) : HasCountry lib hotel := by
  obtain ⟨country,haccepted,hcountry,-⟩ := h.country
  exact ⟨country,haccepted,hcountry⟩

theorem offer_some {offer : HotelOffer}
    (h : ((acceptedCountry lib (member hotel "CountryCode")).bind
      fun country => hotelOffer lib hotel room country currency)=some offer) :
    IsHotelOffer lib currency hotel room offer := by
  obtain ⟨country,haccepted,h⟩ := Option.bind_eq_some_iff.mp h
  unfold hotelOffer at h
  simp only [Option.bind_eq_bind,Option.bind_eq_some_iff] at h
  obtain ⟨cost,hcost,address,haddress,h⟩ := h
  cases h
  obtain ⟨hcountry,rfl⟩ := patterned_eq_some.mp haddress
  exact ⟨rfl,rfl,⟨country,haccepted,hcountry,rfl⟩,hcost,rfl⟩

/-- A hotel gives no offer where it has no country or its first room no price. -/
theorem offer_none :
    ((acceptedCountry lib (member hotel "CountryCode")).bind
      fun country => hotelOffer lib hotel room country currency)=none ↔
        (HasCountry lib hotel → costOf lib room currency=none) := by
  constructor
  · rintro h ⟨country,haccepted,hcountry⟩
    rw [haccepted,Option.bind_some] at h
    cases hcost : costOf lib room currency with
    | none => rfl
    | some cost =>
      unfold hotelOffer at h
      rw [hcost,patterned_eq_some.mpr ⟨hcountry,rfl⟩] at h
      cases h
  · intro h
    refine Option.eq_none_iff_forall_ne_some.mpr fun offer hoffer => ?_
    have hoffer := offer_some hoffer
    have hcost := hoffer.cost
    rw [h hoffer.hasCountry] at hcost
    cases hcost

/-- Where both parsers have a country, it is the same. -/
theorem country_agrees {country : String}
    (haccepted : acceptedCountry lib (member hotel "CountryCode")=some country)
    (hcountry : isCountryCode (stripWhitespace country)=true)
    (hproperty : isCountryCode (stripWhitespace (countryText lib hotel))=true) :
    stripWhitespace country=stripWhitespace (countryText lib hotel) := by
  unfold acceptedCountry at haccepted
  split at haccepted
  · rename_i s hs
    split at haccepted
    · rename_i hletters
      cases haccepted
      have hne : s≠"" := by
        rintro rfl
        cases hletters.1
      have htext : textOr lib.toAmadeusLibrary (member hotel "CountryCode") "XX"=s := by
        rw [hs]
        exact if_pos (decide_eq_true hne)
      have hcut : cut 2 (lib.upper s)≠"" := by
        intro hempty
        have hnil := congrArg String.toList hempty
        rw [take_cut,String.toList_empty,List.take_eq_nil_iff] at hnil
        obtain hzero|hnil := hnil
        · cases hzero
        · rw [String.toList_eq_nil_iff.mp hnil] at hcountry
          cases hcountry
      unfold countryText at hproperty ⊢
      rw [htext] at hproperty ⊢
      dsimp only at hproperty ⊢
      rw [if_neg hcut] at hproperty ⊢
      exact country_cut hproperty hcountry
    · cases haccepted
  · cases haccepted

/-! ## One hotel -/

variable {rate : HotelRate}

theorem mem_rates {read : List (Option HotelRate)}
    (h : List.Forall₂ (fun room rate => parseRateEntry lib currency (.obj room)=.ok rate) rooms read) :
    rate∈read.filterMap id ↔
      ∃ room∈rooms,parseRateEntry lib currency (.obj room)=.ok (some rate) := by
  rw [List.mem_filterMap]
  constructor
  · rintro ⟨found,hfound,hrate⟩
    obtain ⟨room,hroom,hread⟩ := partner_of_mem h.flip hfound
    have hsome : found=some rate := hrate
    rw [hsome] at hread
    exact ⟨room,hroom,hread⟩
  · rintro ⟨room,hroom,hread⟩
    obtain ⟨found,hfound,hread'⟩ := partner_of_mem h hroom
    exact ⟨found,hfound,(Except.ok.inj (hread.symm.trans hread')).symm⟩

/-- A rate is one of a room with a price. -/
theorem price_of_rate (h : parseRateEntry lib currency (.obj room)=.ok (some rate)) :
    priceOf lib room currency=some rate.price ∧ rate.rateKey=rateCode lib room := by
  cases hprice : priceOf lib room currency with
  | none =>
    rw [parseRateEntry_unpriced hprice] at h
    cases h
  | some price =>
    obtain ⟨-,found,hfound,rfl,hkey⟩ := parseRateEntry_priced hprice h
    cases hfound
    exact ⟨rfl,hkey⟩

/-- A hotel has no rates where no room has a price. -/
theorem no_rates_iff {read : List (Option HotelRate)}
    (h : List.Forall₂ (fun room rate => parseRateEntry lib currency (.obj room)=.ok rate) rooms read) :
    read.filterMap id=[] ↔ ∀ room∈rooms,priceOf lib room currency=none := by
  rw [List.eq_nil_iff_forall_not_mem]
  constructor
  · intro hempty room hroom
    cases hprice : priceOf lib room currency with
    | none => rfl
    | some price =>
      obtain ⟨found,-,hfound⟩ := partner_of_mem h hroom
      obtain ⟨-,rate,rfl,-⟩ := parseRateEntry_priced hprice hfound
      exact absurd ((mem_rates h).mpr ⟨room,hroom,hfound⟩) (hempty rate)
  · intro hunpriced rate hrate
    obtain ⟨room,hroom,hread⟩ := (mem_rates h).mp hrate
    have hprice := (price_of_rate hread).1
    rw [hunpriced room hroom] at hprice
    cases hprice

/-- What the two parsers make of a hotel agrees exactly where the hotel is orderly. -/
theorem agree_iff_orderly (criteria : HotelSearchCriteria) {h : Json} :
    (∃ offer result,offerOf lib currency h=.ok offer ∧ resultOf lib criteria currency h=.ok result ∧
      Option.Rel IsOfferOf offer result) ↔ IsOrderly lib currency h := by
  constructor
  · rintro ⟨offer,result,hoffer,hresult,hagree⟩
    obtain ⟨hotel,rooms,rfl,hproperty,hrooms⟩ := (resultOf_isOk criteria).mp ⟨result,hresult⟩
    refine ⟨hotel,rooms,rfl,hproperty,hrooms,?_⟩
    obtain ⟨p,read,hp,hread,hrates⟩ := resultOf_ok hrooms hresult
    have hoffer := Except.ok.inj ((offerOf_rooms hrooms).symm.trans hoffer)
    cases hagree with
    | none =>
      exact .inl ⟨(no_rates_iff hread).mp (hotelSearchResult_none.mp hrates.symm),
        offer_none.mp hoffer⟩
    | some hof =>
      obtain ⟨-,hlist⟩ := hotelSearchResult_some hrates.symm
      have hoffer := offer_some hoffer
      obtain ⟨rate,hrate,hmoney,hcode⟩ := hof.rate
      rw [hlist] at hrate
      obtain ⟨room,hroom,hentry⟩ := (mem_rates hread).mp hrate
      obtain ⟨hprice,hkey⟩ := price_of_rate hentry
      refine .inr ⟨hoffer.hasCountry,_,hoffer.cost,room,hroom,_,hprice,hmoney,?_⟩
      rw [← hoffer.code,← hkey]
      exact hcode
  · rintro ⟨hotel,rooms,rfl,hproperty,hrooms,horderly⟩
    obtain ⟨result,hresult⟩ :=
      (resultOf_isOk criteria).mpr ⟨hotel,rooms,rfl,hproperty,hrooms⟩
    obtain ⟨p,read,hp,hread,hresult'⟩ := resultOf_ok hrooms hresult
    refine ⟨_,result,offerOf_rooms hrooms,hresult,?_⟩
    obtain hunpriced|hpriced := horderly
    · rw [hresult',offer_none.mpr hunpriced.offer,
        hotelSearchResult_none.mpr ((no_rates_iff hread).mpr hunpriced.unpriced)]
      exact .none
    · obtain ⟨cost,hcost,room,hroom,price,hprice,hmoney,hcode⟩ := hpriced.room
      obtain ⟨found,-,hfound⟩ := partner_of_mem hread hroom
      obtain ⟨-,rate,rfl,rfl,hkey⟩ := parseRateEntry_priced hprice hfound
      have hrate := (mem_rates hread).mpr ⟨room,hroom,hfound⟩
      cases hoffer : (acceptedCountry lib (member hotel "CountryCode")).bind
          fun country => hotelOffer lib hotel (firstRoom rooms) country currency with
      | none =>
        have hnone := offer_none.mp hoffer hpriced.country
        rw [hcost] at hnone
        cases hnone
      | some offer =>
        have hoffer := offer_some hoffer
        cases result with
        | none =>
          rw [hotelSearchResult_none.mp hresult'.symm] at hrate
          cases hrate
        | some result =>
          obtain ⟨rfl,hlist⟩ := hotelSearchResult_some hresult'.symm
          rw [← hlist] at hrate
          obtain ⟨country,haccepted,hcountry,haddress⟩ := hoffer.country
          have hsame := country_agrees haccepted hcountry hproperty.country
          refine .some ⟨hoffer.ref.trans hp.id.symm,hoffer.name.trans hp.name.symm,
            haddress.trans (hsame.trans hp.country.symm),rate,hrate,?_,?_⟩
          · cases hcost.symm.trans hoffer.cost
            exact hmoney
          · rw [hoffer.code,hkey]
            exact hcode

end Hotels

/-! ## Whole answers -/

section Answers

variable {raw h : Json}

/-- A list of one hotel is read as the hotel is. -/
theorem collect_one {α : Type} {f : Json → Except Failure (Option α)} {found : Option α} :
    (do
      let all ← [h].mapM f
      return all.filterMap id)=Except.ok found.toList ↔ f h=.ok found := by
  rw [List.mapM_cons,List.mapM_nil]
  cases f h with
  | error e => exact iff_of_false (fun h => (by cases h)) (fun h => (by cases h))
  | ok found' => cases found' <;> cases found <;> simp [pure,Except.pure,bind,Except.bind]

theorem offers_alone {offer : Option HotelOffer} :
    parseSearchOffers lib (aloneIn raw h)=.ok offer.toList ↔
      offerOf lib (fieldOf raw "Currency") h=.ok offer := collect_one

theorem results_alone {result : Option (HotelSearchResult F)} :
    parseSearchResults lib criteria (aloneIn raw h)=.ok result.toList ↔
      resultOf lib criteria (fieldOf raw "Currency") h=.ok result := collect_one

variable {hotels : List Json}

/-- The hotels of an answer are read one by one. -/
theorem parseSearchOffers_ok {offers : List (Option HotelOffer)} (hhotels : hotelsIn raw=.ok hotels)
    (h : List.Forall₂ (fun h offer => offerOf lib (fieldOf raw "Currency") h=.ok offer) hotels offers) :
    parseSearchOffers lib raw=.ok (offers.filterMap id) := by
  cases raw with
  | obj fields => exact bind_ok.mpr ⟨hotels,hhotels,bind_ok.mpr ⟨offers,mapM_ok.mpr h,rfl⟩⟩
  | _ =>
    cases hhotels
    cases h
    rfl

theorem parseSearchResults_ok {results : List (Option (HotelSearchResult F))}
    (hhotels : hotelsIn raw=.ok hotels)
    (h : List.Forall₂ (fun h result => resultOf lib criteria (fieldOf raw "Currency") h=.ok result)
      hotels results) : parseSearchResults lib criteria raw=.ok (results.filterMap id) := by
  cases raw with
  | obj fields => exact bind_ok.mpr ⟨hotels,hhotels,bind_ok.mpr ⟨results,mapM_ok.mpr h,rfl⟩⟩
  | _ =>
    cases hhotels
    cases h
    rfl

/-- An orderly hotel is parsed by itself, and the parsers agree on it. -/
theorem IsOrderly.agrees (criteria : HotelSearchCriteria)
    (horderly : IsOrderly lib (fieldOf raw "Currency") h) :
    ∃ p : ParsedHotel F,p.hotel=h ∧ HotelAgrees lib criteria raw p := by
  obtain ⟨offer,result,hoffer,hresult,hagree⟩ := (agree_iff_orderly criteria).mpr horderly
  obtain ⟨hotel,rooms,rfl,-,hrooms,-⟩ := horderly
  obtain ⟨p,read,hp,hread,hrates⟩ := resultOf_ok hrooms hresult
  refine ⟨⟨.obj hotel,offer,result⟩,rfl,offers_alone.mpr hoffer,results_alone.mpr hresult,hagree,
    ⟨rooms.map .obj,read,hrooms.read,List.forall₂_map_left_iff.mpr hread,?_⟩,fun hsome => ?_⟩
  · dsimp only
    rw [hrates]
    exact rates_hotelSearchResult p _
  · obtain ⟨offer,rfl⟩ := Option.isSome_iff_exists.mp hsome
    have hoffer := Except.ok.inj ((offerOf_rooms hrooms).symm.trans hoffer)
    exact ⟨hotel,rfl,(offer_some hoffer).hasCountry⟩

theorem HotelAgrees.orderly {p : ParsedHotel F} (h : HotelAgrees lib criteria raw p) :
    IsOrderly lib (fieldOf raw "Currency") p.hotel :=
  (agree_iff_orderly criteria).mp ⟨p.offer,p.result,offers_alone.mp h.offer,results_alone.mp h.result,h.agree⟩

/-- Hotels that are parsed each by itself are parsed together. -/
theorem exists_parsed {P : ParsedHotel F → Prop}
    (h : ∀ hotel∈hotels,∃ p : ParsedHotel F,p.hotel=hotel ∧ P p) :
    ∃ parsed : List (ParsedHotel F),parsed.map ParsedHotel.hotel=hotels ∧ ∀ p∈parsed,P p := by
  induction hotels with
  | nil => exact ⟨[],rfl,List.forall_mem_nil _⟩
  | cons hotel hotels ih =>
    obtain ⟨⟨p,rfl,hp⟩,hrest⟩ := List.forall_mem_cons.mp h
    obtain ⟨parsed,rfl,hparsed⟩ := ih hrest
    exact ⟨p::parsed,rfl,List.forall_mem_cons.mpr ⟨hp,hparsed⟩⟩

/-- The parsers agree on an answer exactly where every hotel of it is orderly. -/
theorem parsers_agree_iff : ParsersAgree lib criteria raw ↔
    ∃ hotels,hotelsIn raw=.ok hotels ∧ ∀ h∈hotels,IsOrderly lib (fieldOf raw "Currency") h := by
  constructor
  · rintro ⟨parsed,hhotels,-,-,hagree⟩
    refine ⟨_,hhotels,fun h hh => ?_⟩
    obtain ⟨p,hp,rfl⟩ := List.mem_map.mp hh
    exact (hagree p hp).orderly
  · rintro ⟨hotels,hhotels,horderly⟩
    obtain ⟨parsed,rfl,hagree⟩ :=
      exists_parsed fun h hh => (horderly h hh).agrees criteria
    refine ⟨parsed,hhotels,?_,?_,hagree⟩
    · have hoffers : List.Forall₂ (fun h offer => offerOf lib (fieldOf raw "Currency") h=.ok offer)
          (parsed.map ParsedHotel.hotel) (parsed.map ParsedHotel.offer) := by
        rw [List.forall₂_map_left_iff,List.forall₂_map_right_iff,List.forall₂_same]
        exact fun p hp => offers_alone.mp (hagree p hp).offer
      rw [parseSearchOffers_ok hhotels hoffers,List.filterMap_map]
      rfl
    · have hresults : List.Forall₂
          (fun h result => resultOf lib criteria (fieldOf raw "Currency") h=.ok result)
          (parsed.map ParsedHotel.hotel) (parsed.map ParsedHotel.result) := by
        rw [List.forall₂_map_left_iff,List.forall₂_map_right_iff,List.forall₂_same]
        exact fun p hp => results_alone.mp (hagree p hp).result
      rw [parseSearchResults_ok hhotels hresults,List.filterMap_map]
      rfl

/-- Where the parsers agree, each offer is one of the result in its place. -/
theorem reported_of_agree (h : ParsersAgree lib criteria raw) {offers : List HotelOffer}
    {results : List (HotelSearchResult F)} (hoffers : parseSearchOffers lib raw=.ok offers)
    (hresults : parseSearchResults lib criteria raw=.ok results) :
    List.Forall₂ IsOfferOf offers results := by
  obtain ⟨parsed,-,hparsed,hparsed',hagree⟩ := h
  cases hparsed.symm.trans hoffers
  cases hparsed'.symm.trans hresults
  clear hparsed hparsed' hoffers hresults
  induction parsed with
  | nil => exact .nil
  | cons p parsed ih =>
    obtain ⟨hp,hrest⟩ := List.forall_mem_cons.mp hagree
    have hreported := ih hrest
    obtain ⟨hotel,offer,result⟩ := p
    cases hp.agree with
    | none => exact hreported
    | some hof => exact .cons hof hreported

end Answers

/-! ## A hotel without rooms -/

/-- Python's functions on integers and plain texts; a float is a whole number. -/
def plainLibrary : HotelLibrary Int where
  repr := fun value =>
    match value with
    | .int n => toString n
    | _ => "?"
  decimal := readingOf
  isFloat := fun _ => false
  fromIso := fun _ => none
  upper := String.toUpper
  lower := String.toLower
  isAlpha := fun s => s.toList.all Char.isAlpha
  float := fun value =>
    match value with
    | .int n => .ok n
    | v => .error (.other "TypeError" ("float() argument must be a number, not '"++pyTypeName v++"'"))
  truncate := .ok
  int := fun value =>
    match value with
    | .int n => .ok n
    | v => .error (.other "TypeError" ("int() argument must be a number, not '"++pyTypeName v++"'"))
  isWithin := fun lo hi x => lo≤x && x≤hi

theorem isDate_arrival : IsDate 2026 9 1 := by decide

theorem isDate_departure : IsDate 2026 9 2 := by decide

theorem one_night : (⟨2026,9,1,isDate_arrival⟩ : CalendarDate).ordinal<
    (⟨2026,9,2,isDate_departure⟩ : CalendarDate).ordinal := by decide

theorem two_guests : (1 : Int)≤2 := by decide

/-- Two guests for a night in Goa. -/
def nightInGoa : HotelSearchCriteria where
  destinationCity := "Goa"
  checkIn := ⟨2026,9,1,isDate_arrival⟩
  checkOut := ⟨2026,9,2,isDate_departure⟩
  guestCount := 2
  stays := one_night
  guests := two_guests

/-- An answer with one hotel, which has no rooms. -/
def withoutRooms : Json :=
  .obj [("HotelSearchResult",.obj [("HotelResults",.arr [.obj [("HotelCode",.str "H-1"),
    ("HotelName",.str "Sea View"),("CountryCode",.str "IN"),("Rooms",.arr [])]])])]

/-- The hotel is offered for nothing under its own code, and has no result. -/
theorem roomless_hotel_offered : ∃ offer,
    parseSearchOffers plainLibrary withoutRooms=.ok [offer] ∧
    offer.cost=⟨⟨0,0⟩,"USD"⟩ ∧ offer.offerRef="H-1" ∧
    parseSearchResults plainLibrary nightInGoa withoutRooms=.ok [] ∧
    ¬ParsersAgree plainLibrary nightInGoa withoutRooms := by
  have hoffers : (parseSearchOffers plainLibrary withoutRooms).toOption.map
      (List.map fun offer => (offer.cost,offer.offerRef))=some [(⟨⟨0,0⟩,"USD"⟩,"H-1")] := by
    decide +kernel
  have hcount : (parseSearchResults plainLibrary nightInGoa withoutRooms).toOption.map
      List.length=some 0 := by decide +kernel
  obtain ⟨offers,hoffers,hshown⟩ := Option.map_eq_some_iff.mp hoffers
  obtain ⟨offer,rfl,hoffer⟩ := List.map_eq_singleton_iff.mp hshown
  obtain ⟨results,hresults,hlength⟩ := Option.map_eq_some_iff.mp hcount
  obtain rfl := List.length_eq_zero_iff.mp hlength
  have hoffers := toOption_eq_some.mp hoffers
  have hresults := toOption_eq_some.mp hresults
  refine ⟨offer,hoffers,congrArg Prod.fst hoffer,congrArg Prod.snd hoffer,hresults,fun h => ?_⟩
  cases reported_of_agree h hoffers hresults

end Voyagent.HotelAgreement
