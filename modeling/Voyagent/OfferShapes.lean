import Voyagent.WholeOffers

/-!
# Malformed offers in a search

What an offer needs to be mapped, down to the amounts of its taxes and fees. The
loop of a search skips what is no object and an offer for another number of
travelers; any other offer that lacks something raises, and nothing is returned.
-/

namespace Voyagent.OfferShapes

open RuntimeValues KeyedMap CanonicalFields CanonicalFinance CanonicalTravel EffectPrograms
  FallibleResults AmadeusClient AmadeusMapping AmadeusBookings OfferFares WholeOffers
open BookingRuns (offersIn)

/-! ## What an offer needs -/

/-- The value of a field that `_require` finds in an object. -/
def present (fields : Dict) (key : String) : Option Json :=
  (get fields key).filter fun value => decide (value≠.null ∧ value≠.str "")

section Shapes

variable (lib : AmadeusLibrary)

/-- A value that reads as a finite amount. -/
def IsAmount (value : Json) : Prop := ∃ d,lib.decimal (lib.str value)=.finite d

/-- The entries under a key can be gone through, and those that are objects have amounts. -/
def HasAmounts (price : Dict) (key : String) : Prop :=
  ∃ entries,elements (orElse (member price key) (.arr []))=.ok entries ∧
    ∀ entry∈objects entries,IsAmount lib (memberOr entry "amount" (.str "0"))

/-- The price of a traveler. -/
structure WellPriced (price : Dict) : Prop where
  currency : ∃ raw,present price "currency"=some raw ∧
    isCurrencyCode (stripWhitespace (lib.upper (lib.str raw)))=true
  base : ∃ raw,present price "base"=some raw ∧ IsAmount lib raw
  total : ∃ raw,present price "total"=some raw ∧ IsAmount lib raw
  taxes : HasAmounts lib price "taxes"
  fees : HasAmounts lib price "fees"

/-- An entry of `travelerPricings`. -/
def IsPricing (pricing : Json) : Prop :=
  ∃ fields price,pricing=.obj fields ∧ present fields "price"=some (.obj price) ∧ WellPriced lib price

/-- A time up to which an offer holds, if it has one, is a time. -/
def HoldsUntil (fields : Dict) : Prop :=
  isTruthy (member fields "lastTicketingDateTime")=true → ∃ s reading,
    member fields "lastTicketingDateTime"=.str s ∧ lib.fromIso (replaceZulu s)=some reading ∧
      reading.inRange=true

/-- An offer for the travelers of a party, with all that the mapping needs. -/
structure WellFormed (total : Nat) (fields : Dict) : Prop where
  id : (present fields "id").isSome=true
  travelers : ∃ pricings,pricingsOf fields=.arr pricings ∧ pricings≠[] ∧ pricings.length≤total ∧
    ∀ pricing∈pricings,IsPricing lib pricing
  holds : HoldsUntil lib fields

/-- The value is a well-formed offer. -/
def IsWellFormed (total : Nat) (value : Json) : Prop :=
  ∃ fields,value=.obj fields ∧ WellFormed lib total fields

end Shapes

/-- The loop passes the value by: it is no object, or an offer for another number of
travelers. -/
def IsSkipped (total : Nat) (value : Json) : Prop :=
  ∀ fields,value=.obj fields →
    ∃ count,lengthOf (pricingsOf fields)=.ok count ∧ isMatched total count=false

variable {lib : AmadeusLibrary}

/-! ## The mapping needs nothing else -/

variable {fields : Dict}

theorem require_obj_ok {key ctx : String} {found : Json} :
    require (.obj fields) key ctx=.ok found ↔ present fields key=some found := by
  unfold require present
  dsimp only
  cases get fields key with
  | none => exact iff_of_false (fun h => (by cases h)) (fun h => (by cases h))
  | some value =>
    rw [Option.filter_some]
    dsimp only
    by_cases hmissing : value=.null ∨ value=.str ""
    · have hnot : decide (value≠.null ∧ value≠.str "")=false := by
        rw [decide_eq_false_iff_not,not_and_or,not_not,not_not]
        exact hmissing
      rw [if_pos hmissing,hnot]
      exact iff_of_false (fun h => (by cases h)) (fun h => (by cases h))
    · have hkept : decide (value≠.null ∧ value≠.str "")=true :=
        decide_eq_true (not_or.mp hmissing)
      rw [if_neg hmissing,hkept]
      exact ⟨fun h => congrArg some (Except.ok.inj h),fun h => congrArg Except.ok (Option.some.inj h)⟩

/-- Only an object has required fields. -/
theorem require_ok {value found : Json} {key ctx : String} (h : require value key ctx=.ok found) :
    ∃ fields,value=.obj fields := by
  cases value with
  | obj fields => exact ⟨fields,rfl⟩
  | str s | arr values =>
    unfold require at h
    dsimp only at h
    split at h <;> cases h
  | _ => cases h

theorem parseDecimal_ok {value : Json} {ctx : String} {reading : DecimalReading}
    (h : parseDecimal lib value ctx=.ok reading) : lib.decimal (lib.str value)=reading := by
  unfold parseDecimal at h
  split at h
  · cases h
  · exact Except.ok.inj h

theorem parseDecimal_amount {value : Json} {d : Decimals.Decimal} (ctx : String)
    (h : lib.decimal (lib.str value)=.finite d) : parseDecimal lib value ctx=.ok (.finite d) := by
  unfold parseDecimal
  rw [h]

variable {currency : String}

theorem money_of_finite (d : Decimals.Decimal) (h : isCurrencyCode (stripWhitespace currency)=true) :
    AmadeusMapping.money (.finite d) currency=.ok ⟨d,stripWhitespace currency⟩ :=
  money_ok.mpr ⟨rfl,h,rfl⟩

theorem taxLineOf_isOk (offerId : String) (base : Decimals.Decimal) {tax : Dict}
    (hcode : isCurrencyCode (stripWhitespace currency)=true) :
    (∃ line,taxLineOf lib offerId currency (.finite base) tax=.ok line) ↔
      IsAmount lib (memberOr tax "amount" (.str "0")) := by
  constructor
  · rintro ⟨line,h⟩
    obtain ⟨amount,hamount,h⟩ := bind_ok.mp h
    obtain ⟨taxable,-,h⟩ := bind_ok.mp h
    obtain ⟨taxAmount,htax,-⟩ := bind_ok.mp h
    obtain ⟨rfl,-⟩ := money_ok.mp htax
    exact ⟨_,parseDecimal_ok hamount⟩
  · rintro ⟨d,hd⟩
    exact ⟨_,bind_ok.mpr ⟨_,parseDecimal_amount _ hd,
      bind_ok.mpr ⟨_,money_of_finite base hcode,bind_ok.mpr ⟨_,money_of_finite d hcode,rfl⟩⟩⟩⟩

theorem feeOf_isOk (offerId : String) {fee : Dict}
    (hcode : isCurrencyCode (stripWhitespace currency)=true) :
    (∃ component,feeOf lib offerId currency fee=.ok component) ↔
      IsAmount lib (memberOr fee "amount" (.str "0")) := by
  constructor
  · rintro ⟨component,h⟩
    obtain ⟨amount,hamount,h⟩ := bind_ok.mp h
    have hreading := parseDecimal_ok hamount
    split at h
    · exact ⟨_,hreading⟩
    · obtain ⟨value,hvalue,-⟩ := bind_ok.mp h
      obtain ⟨rfl,-⟩ := money_ok.mp hvalue
      exact ⟨_,hreading⟩
  · rintro ⟨d,hd⟩
    have hamount := parseDecimal_amount ("offer "++offerId++".fee.amount") hd
    have hvalue := money_of_finite d hcode
    generalize DecimalReading.finite d=amount at hamount hvalue
    refine exists_bind_ok.mpr ⟨amount,hamount,?_⟩
    -- A fee of nothing is left out; the amount of any other becomes money.
    split
    · exact ⟨none,rfl⟩
    · exact exists_bind_ok.mpr ⟨_,hvalue,_,rfl⟩

/-- A price can be read where all parts of it are there. -/
theorem priceOf_isOk (offerId : String) {pricing : Json} :
    (∃ p,priceOf lib offerId pricing=.ok p) ↔ IsPricing lib pricing := by
  constructor
  · rintro ⟨p,h⟩
    obtain ⟨fields,rfl⟩ := priceOf_isObj h
    obtain ⟨_,hfields,h⟩ := bind_ok.mp h
    cases hfields
    obtain ⟨priceValue,hprice,h⟩ := bind_ok.mp h
    obtain ⟨rawCurrency,hcurrency,h⟩ := bind_ok.mp h
    obtain ⟨price,rfl⟩ := require_ok hcurrency
    obtain ⟨rawBase,hrawBase,h⟩ := bind_ok.mp h
    obtain ⟨base,hbase,h⟩ := bind_ok.mp h
    obtain ⟨rawTotal,hrawTotal,h⟩ := bind_ok.mp h
    obtain ⟨total,htotal,h⟩ := bind_ok.mp h
    obtain ⟨rawTaxes,hrawTaxes,h⟩ := bind_ok.mp h
    obtain ⟨taxValues,htaxValues,h⟩ := bind_ok.mp h
    obtain ⟨taxes,htaxes,h⟩ := bind_ok.mp h
    obtain ⟨rawFees,hrawFees,h⟩ := bind_ok.mp h
    obtain ⟨feeValues,hfeeValues,h⟩ := bind_ok.mp h
    obtain ⟨fees,hfees,h⟩ := bind_ok.mp h
    obtain ⟨baseMoney,hbaseMoney,h⟩ := bind_ok.mp h
    obtain ⟨totalMoney,htotalMoney,-⟩ := bind_ok.mp h
    obtain ⟨rfl,hcode,-⟩ := money_ok.mp hbaseMoney
    obtain ⟨rfl,-⟩ := money_ok.mp htotalMoney
    cases hrawTaxes
    cases hrawFees
    refine ⟨fields,price,rfl,require_obj_ok.mp hprice,⟨rawCurrency,require_obj_ok.mp hcurrency,hcode⟩,
      ⟨rawBase,require_obj_ok.mp hrawBase,_,parseDecimal_ok hbase⟩,
      ⟨rawTotal,require_obj_ok.mp hrawTotal,_,parseDecimal_ok htotal⟩,
      ⟨taxValues,htaxValues,fun tax htax => ?_⟩,⟨feeValues,hfeeValues,fun fee hfee => ?_⟩⟩
    · exact (taxLineOf_isOk offerId _ hcode).mp (mapM_isOk.mp ⟨taxes,htaxes⟩ tax htax)
    · exact (feeOf_isOk offerId hcode).mp (mapM_isOk.mp ⟨fees,hfees⟩ fee hfee)
  · rintro ⟨fields,price,rfl,hprice,hwell⟩
    obtain ⟨rawCurrency,hcurrency,hcode⟩ := hwell.currency
    obtain ⟨rawBase,hrawBase,base,hbase⟩ := hwell.base
    obtain ⟨rawTotal,hrawTotal,total,htotal⟩ := hwell.total
    obtain ⟨taxValues,htaxValues,htaxes⟩ := hwell.taxes
    obtain ⟨feeValues,hfeeValues,hfees⟩ := hwell.fees
    obtain ⟨taxes,htaxes⟩ := mapM_isOk.mpr fun tax htax =>
      (taxLineOf_isOk offerId base hcode).mpr (htaxes tax htax)
    obtain ⟨fees,hfees⟩ := mapM_isOk.mpr fun fee hfee =>
      (feeOf_isOk offerId hcode).mpr (hfees fee hfee)
    exact ⟨_,bind_ok.mpr ⟨_,rfl,bind_ok.mpr ⟨_,require_obj_ok.mpr hprice,
      bind_ok.mpr ⟨_,require_obj_ok.mpr hcurrency,bind_ok.mpr ⟨_,require_obj_ok.mpr hrawBase,
      bind_ok.mpr ⟨_,parseDecimal_amount _ hbase,bind_ok.mpr ⟨_,require_obj_ok.mpr hrawTotal,
      bind_ok.mpr ⟨_,parseDecimal_amount _ htotal,bind_ok.mpr ⟨_,rfl,bind_ok.mpr ⟨_,htaxValues,
      bind_ok.mpr ⟨_,htaxes,bind_ok.mpr ⟨_,rfl,bind_ok.mpr ⟨_,hfeeValues,bind_ok.mpr ⟨_,hfees,
      bind_ok.mpr ⟨_,money_of_finite base hcode,bind_ok.mpr ⟨_,money_of_finite total hcode,
      rfl⟩⟩⟩⟩⟩⟩⟩⟩⟩⟩⟩⟩⟩⟩⟩⟩

theorem parseDatetime_isOk (value : Json) (ctx : String) :
    (∃ instant,parseDatetime lib value ctx=.ok instant) ↔ ∃ s reading,value=.str s ∧
      lib.fromIso (replaceZulu s)=some reading ∧ reading.inRange=true := by
  constructor
  · rintro ⟨instant,h⟩
    unfold parseDatetime at h
    split at h
    · rename_i s
      split at h
      · cases h
      · rename_i reading hreading
        split at h
        · rename_i hrange
          exact ⟨s,reading,rfl,hreading,hrange⟩
        · cases h
    · cases h
  · rintro ⟨s,reading,rfl,hreading,hrange⟩
    refine ⟨reading.instant,?_⟩
    unfold parseDatetime
    dsimp only
    rw [hreading]
    exact if_pos hrange

theorem validUntilOf_isOk :
    (∃ validUntil,validUntilOf lib fields=.ok validUntil) ↔ HoldsUntil lib fields := by
  unfold validUntilOf HoldsUntil
  by_cases htruthy : isTruthy (member fields "lastTicketingDateTime")=true
  · rw [if_pos htruthy]
    have hread : (∃ instant,parseDatetime lib (member fields "lastTicketingDateTime")
        "offer.lastTicketingDateTime"=.ok instant) ↔ _ := parseDatetime_isOk _ _
    constructor
    · rintro ⟨validUntil,h⟩ _
      cases hparsed : parseDatetime lib (member fields "lastTicketingDateTime")
        "offer.lastTicketingDateTime" with
      | error e =>
        rw [hparsed] at h
        cases h
      | ok instant => exact hread.mp ⟨instant,hparsed⟩
    · intro h
      obtain ⟨instant,hinstant⟩ := hread.mpr (h htruthy)
      exact ⟨some instant,by rw [hinstant]; rfl⟩
  · rw [if_neg htruthy]
    exact iff_of_true ⟨none,rfl⟩ fun h => absurd h htruthy

/-- An offer for the party is mapped where it is well formed. -/
theorem mappedOffer_isOk {total count : Nat} (hcount : lengthOf (pricingsOf fields)=.ok count)
    (hmatched : isMatched total count=true) :
    (∃ offer,mappedOffer lib fields=.ok offer) ↔ WellFormed lib total fields := by
  constructor
  · rintro ⟨offer,h⟩
    obtain ⟨id,hid,h⟩ := bind_ok.mp h
    have hid := require_obj_ok.mp hid
    split at h
    · rename_i traveler travelers hpricings
      obtain ⟨validUntil,huntil,h⟩ := bind_ok.mp h
      obtain ⟨prices,hprices,-⟩ := bind_ok.mp h
      rw [hpricings] at hcount
      cases hcount
      have hle : (traveler::travelers).length≤total := of_decide_eq_true hmatched
      refine ⟨by rw [hid]; rfl,⟨_,hpricings,List.cons_ne_nil _ _,hle,fun pricing hpricing => ?_⟩,
        validUntilOf_isOk.mp ⟨validUntil,huntil⟩⟩
      exact (priceOf_isOk (lib.str id)).mp (mapM_isOk.mp ⟨prices,hprices⟩ pricing hpricing)
    · cases h
  · intro h
    obtain ⟨id,hid⟩ := Option.isSome_iff_exists.mp h.id
    obtain ⟨pricings,hpricings,hne,-,hall⟩ := h.travelers
    obtain ⟨validUntil,huntil⟩ := validUntilOf_isOk.mpr h.holds
    obtain ⟨prices,hprices⟩ := mapM_isOk.mpr fun pricing hpricing =>
      (priceOf_isOk (lib.str id)).mpr (hall pricing hpricing)
    obtain ⟨traveler,travelers,rfl⟩ := List.exists_cons_of_ne_nil hne
    refine exists_bind_ok.mpr ⟨id,require_obj_ok.mpr hid,?_⟩
    rw [hpricings]
    exact exists_bind_ok.mpr ⟨validUntil,huntil,exists_bind_ok.mpr ⟨prices,hprices,_,rfl⟩⟩

/-- A well-formed offer is counted and matched. -/
theorem WellFormed.matched {total : Nat} (h : WellFormed lib total fields) :
    ∃ count,lengthOf (pricingsOf fields)=.ok count ∧ isMatched total count=true := by
  obtain ⟨pricings,hpricings,hne,hle,-⟩ := h.travelers
  refine ⟨pricings.length,by rw [hpricings]; rfl,?_⟩
  unfold isMatched
  rw [if_pos (mt List.length_eq_zero_iff.mp hne)]
  exact decide_eq_true hle

/-- A value that is read as an offer is a well-formed one. -/
theorem readOffer_some {total : Nat} {value : Json} :
    (∃ offer,readOffer lib total value=.ok (some offer)) ↔ IsWellFormed lib total value := by
  constructor
  · rintro ⟨offer,h⟩
    cases value with
    | obj fields =>
      obtain ⟨count,hcount,-⟩ := bind_ok.mp h
      rw [readOffer_counted hcount] at h
      split at h
      · rename_i hmatched
        refine ⟨fields,rfl,(mappedOffer_isOk hcount hmatched).mp ?_⟩
        cases hmapped : mappedOffer lib fields with
        | error e =>
          rw [hmapped] at h
          cases h
        | ok offer' => exact ⟨offer',rfl⟩
      · cases h
    | _ => cases h
  · rintro ⟨fields,rfl,h⟩
    obtain ⟨count,hcount,hmatched⟩ := h.matched
    obtain ⟨offer,hoffer⟩ := (mappedOffer_isOk hcount hmatched).mpr h
    rw [readOffer_counted hcount,if_pos hmatched,hoffer]
    exact ⟨offer,rfl⟩

/-- A value that the loop skips is read as none. -/
theorem readOffer_none {total : Nat} {value : Json} :
    readOffer lib total value=.ok none ↔ IsSkipped total value := by
  constructor
  · rintro h fields rfl
    obtain ⟨count,hcount,-⟩ := bind_ok.mp h
    refine ⟨count,hcount,Bool.eq_false_iff.mpr fun hmatched => ?_⟩
    rw [readOffer_counted hcount,if_pos hmatched] at h
    cases hmapped : mappedOffer lib fields with
    | error e =>
      rw [hmapped] at h
      cases h
    | ok offer =>
      rw [hmapped] at h
      cases h
  · intro h
    cases value with
    | obj fields =>
      obtain ⟨count,hcount,hmatched⟩ := h fields rfl
      rw [readOffer_counted hcount,hmatched]
      rfl
    | _ => rfl

/-- What is read is a well-formed offer or skipped. -/
theorem wellFormed_or_skipped {total : Nat} {value : Json} {read : Option ReadOffer}
    (h : readOffer lib total value=.ok read) : IsWellFormed lib total value ∨ IsSkipped total value := by
  cases read with
  | none => exact .inr (readOffer_none.mp h)
  | some offer => exact .inl (readOffer_some.mp ⟨offer,h⟩)

/-! ## A search over malformed offers -/

/-- How many travelers the offers of an answer have. -/
def travelersIn (lib : AmadeusLibrary) (criteria : FareSearchCriteria) (offers : List Json) : Nat :=
  (offers.map fun value => (pricesOf lib criteria value).length).sum

/-- The fares are those of the well-formed offers, in order. -/
def AreFaresOf (lib : AmadeusLibrary) (n : Nat) (criteria : FareSearchCriteria) (offers : List Json)
    (fares : List (Tagged Fare)) : Prop :=
  ∃ groups,fares=groups.flatten ∧ List.Forall₂ (fun (v : Json × Nat) group =>
    (IsWellFormed lib (partyOf criteria) v.1 → ∃ offer,
      readOffer lib (partyOf criteria) v.1=.ok (some offer) ∧ AllFaresOf (n,v.2) offer group) ∧
    (¬IsWellFormed lib (partyOf criteria) v.1 → group=[])) offers.zipIdx groups

variable {γ : Type} {env : Environment Answer γ} {d : AmadeusDriver} {n : Nat}
  {criteria : FareSearchCriteria} {s t : γ} {body : Json} {offers : List Json}
  {groups : List (List (Tagged Fare))} {r : Except Failure (List (Tagged Fare))}

/-- There are as many fares as travelers. -/
theorem length_of_grouped (h : Grouped lib n criteria offers groups) :
    groups.flatten.length=travelersIn lib criteria offers := by
  have hlengths := congrArg (List.map List.length) h.verdicts
  rw [List.map_map,List.map_map,List.map_map] at hlengths
  unfold travelersIn
  rw [List.length_flatten]
  refine congrArg List.sum ((List.map_congr_left fun group _ => ?_).trans
    (hlengths.trans (List.map_congr_left fun value _ => ?_)))
  · exact (List.length_map _).symm
  · exact List.length_map _

/-- The groups are the fares of the well-formed offers. -/
theorem areFaresOf_groups (h : Grouped lib n criteria offers groups) :
    AreFaresOf lib n criteria offers groups.flatten := by
  refine ⟨groups,rfl,h.imp ?_⟩
  rintro v group ⟨read,hread,hgroup⟩
  cases read with
  | none =>
    refine ⟨fun hwell => ?_,fun _ => hgroup⟩
    obtain ⟨offer,hoffer⟩ := readOffer_some.mpr hwell
    cases hread.symm.trans hoffer
  | some offer =>
    exact ⟨fun _ => ⟨offer,hread,hgroup⟩,fun hnot => absurd (readOffer_some.mp ⟨offer,hread⟩) hnot⟩

/-- Without an upper bound and under the cap all fares are shown. -/
theorem shownFares_all {fares : List (Tagged Fare)} (hbound : criteria.maxPrice=none)
    (hroom : (fares.length : Int)≤criteria.maxResults) : shownFares criteria fares=fares := by
  unfold shownFares
  have hall : (fares.filter fun fare => withinMaxPrice criteria fare.value)=fares := by
    refine List.filter_eq_self.mpr fun fare _ => ?_
    unfold withinMaxPrice
    rw [hbound]
  rw [hall,List.take_of_length_le (by omega)]

/-- A search without a bound and under its cap returns exactly the fares of the
well-formed offers if every other value of the answer is one that the loop skips. -/
theorem malformed_alone_iff (h : Searched env lib d n criteria s body r t)
    (hids : ValidIds env d.tenantId) (hoffers : offersIn body=.ok offers)
    (hbound : criteria.maxPrice=none)
    (hroom : (travelersIn lib criteria offers : Int)≤criteria.maxResults) :
    (∃ fares,r=.ok fares ∧ AreFaresOf lib n criteria offers fares) ↔
      ∀ value∈offers,IsWellFormed lib (partyOf criteria) value ∨
        IsSkipped (partyOf criteria) value := by
  obtain ⟨looped,hlooped,hr⟩ := h.looped hoffers
  constructor
  · rintro ⟨fares,hfares,-⟩ value hvalue
    cases looped with
    | error e => cases hr.symm.trans hfares
    | ok shopped =>
      obtain ⟨groups,-,hgroups⟩ := hlooped.1 shopped rfl
      have hgrouped : Grouped lib n criteria offers groups := hgroups
      obtain ⟨k,hk⟩ := List.mem_iff_getElem?.mp hvalue
      obtain ⟨group,read,-,hread,-⟩ := hgrouped.at hk
      exact wellFormed_or_skipped hread
  · intro hall
    cases looped with
    | error e =>
      obtain ⟨v,hv,hraised⟩ := hlooped.2 e rfl hids
      have hmem : v.1∈offers := (List.mem_zipIdx hv).2.2 ▸ List.getElem_mem _
      obtain hwell|hskipped := hall v.1 hmem
      · obtain ⟨offer,hoffer⟩ := readOffer_some.mpr hwell
        cases hraised.symm.trans hoffer
      · cases hraised.symm.trans (readOffer_none.mpr hskipped)
    | ok shopped =>
      obtain ⟨groups,rfl,hgroups⟩ := hlooped.1 shopped rfl
      have hgrouped : Grouped lib n criteria offers groups := hgroups
      have hlength : (groups.flatten.length : Int)≤criteria.maxResults := by
        rw [length_of_grouped hgrouped]
        exact hroom
      have hshown := shownFares_all hbound hlength
      exact ⟨groups.flatten,hr.trans (congrArg Except.ok hshown),areFaresOf_groups hgrouped⟩

/-! ## A price that is no number -/

theorem validIds_minted : ValidIds mintedIds BookedOrders.deskDriver.tenantId := by
  refine ⟨fun g fareOf id g' h => ?_,by decide⟩
  unfold mintedIds at h
  dsimp only at h
  split at h
  · rename_i hid
    exact hid
  · cases h

/-- One adult, without an upper bound. -/
def adultCriteria : FareSearchCriteria := OfferBookings.deskCriteria

/-- The search for the adult, from a body on. -/
def adultSearch (body : Json) : Option (Except Failure (List (Tagged Fare))) :=
  (execute mintedIds (budgetAnswers body) 2 (searchIn budgetLibrary BookedOrders.deskDriver 0
    adultCriteria body) ()).map Prod.fst

/-- The class of the driver's errors that a search raises. -/
def raisedKind : Except Failure (List (Tagged Fare)) → Option DriverErrorKind
  | .ok _ => none
  | .error e => e.kind?

/-- A search for the adult that is answered with a body. -/
theorem searched_adult
    (hasked : (execute mintedIds (budgetAnswers body) 0 (request budgetLibrary {}
      (.searchOffers (searchParams adultCriteria))) ()).bind (fun e => e.1.toOption)=some body)
    (hread : adultSearch body=some r) :
    Searched mintedIds budgetLibrary BookedOrders.deskDriver 0 adultCriteria () body r () := by
  obtain ⟨⟨r',u⟩,hexec,rfl⟩ := Option.map_eq_some_iff.mp hread
  exact ⟨⟨(by decide : (1 : Int)≤50),(by decide : (50 : Int)≤250)⟩,(),exec_ok_of_execute hasked,
    exec_of_execute hexec⟩

/-- An offer for the adult, a remark, and an offer for two. -/
def mixedOffers : List Json :=
  [offerPriced ["120.00"],.str "sold out",offerPriced ["120.00","80.00"]]

theorem malformed_alone_mixed : ∃ fares,
    Searched mintedIds budgetLibrary BookedOrders.deskDriver 0 adultCriteria () (bodyOf mixedOffers)
      (.ok fares) () ∧ AreFaresOf budgetLibrary 0 adultCriteria mixedOffers fares := by
  have hrun : ((adultSearch (bodyOf mixedOffers)).bind Except.toOption).isSome=true := by decide +kernel
  obtain ⟨fares,hfares⟩ := Option.isSome_iff_exists.mp hrun
  obtain ⟨r,hr,hok⟩ := Option.bind_eq_some_iff.mp hfares
  have hsearched := searched_adult (by decide +kernel) hr
  have hreads : ∀ value∈mixedOffers,(readOffer budgetLibrary 1 value).toOption.isSome=true := by
    decide +kernel
  have hall : ∀ value∈mixedOffers,IsWellFormed budgetLibrary (partyOf adultCriteria) value ∨
      IsSkipped (partyOf adultCriteria) value := by
    intro value hvalue
    obtain ⟨read,hread⟩ := Option.isSome_iff_exists.mp (hreads value hvalue)
    exact wellFormed_or_skipped (toOption_eq_some.mp hread)
  obtain ⟨fares',hfares',hexact⟩ := (malformed_alone_iff hsearched validIds_minted rfl rfl
    (by decide +kernel)).mpr hall
  cases hfares'
  exact ⟨fares',hsearched,hexact⟩

/-- An offer with a price that is no number takes the other one down. -/
theorem unpriced_offer_raises : ∃ e,
    Searched mintedIds budgetLibrary BookedOrders.deskDriver 0 adultCriteria ()
      (bodyOf [offerPriced ["120.00"],offerPriced ["on request"]]) (.error e) () ∧
    e.kind?=some .validationFailed ∧ IsWellFormed budgetLibrary 1 (offerPriced ["120.00"]) ∧
    ¬∃ fares,(Except.error e : Except Failure (List (Tagged Fare)))=.ok fares ∧
      AreFaresOf budgetLibrary 0 adultCriteria [offerPriced ["120.00"],offerPriced ["on request"]]
        fares := by
  have hrun : (adultSearch (bodyOf [offerPriced ["120.00"],offerPriced ["on request"]])).map
      raisedKind=some (some .validationFailed) := by decide +kernel
  obtain ⟨r,hr,hkind⟩ := Option.map_eq_some_iff.mp hrun
  have hwell : IsWellFormed budgetLibrary 1 (offerPriced ["120.00"]) := by
    have hread : (readOffer budgetLibrary 1 (offerPriced ["120.00"])).toOption.join.isSome=true := by
      decide +kernel
    obtain ⟨offer,hoffer⟩ := Option.isSome_iff_exists.mp hread
    exact readOffer_some.mp ⟨offer,toOption_eq_some.mp (Option.join_eq_some_iff.mp hoffer)⟩
  cases r with
  | ok fares => cases hkind
  | error e =>
    refine ⟨e,searched_adult (by decide +kernel) hr,hkind,hwell,?_⟩
    rintro ⟨fares,hfares,-⟩
    cases hfares

end Voyagent.OfferShapes
