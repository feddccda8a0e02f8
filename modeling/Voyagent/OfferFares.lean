import Voyagent.BookingRuns

/-!
# What a search makes of each offer

One value of the answer is read by itself: it is skipped, it raises, or it has a
price for each of its travelers. The loop of a search returns one group of fares
for each value, in order, and raises only where a value does.
-/

namespace Voyagent.OfferFares

open RuntimeValues CanonicalFields CanonicalFinance CanonicalTravel EffectPrograms FallibleResults
  AmadeusClient AmadeusMapping AmadeusBookings
open BookingRuns (offersIn)

/-! ## One offer -/

/-- An offer that is mapped: its id, how long it holds, and the prices of its travelers. -/
structure ReadOffer where
  offerId : String
  validUntil : Option Instant
  prices : List Priced

section Reading

variable (lib : AmadeusLibrary)

/-- The value of `lastTicketingDateTime`. -/
def validUntilOf (fields : Dict) : Except Failure (Option Instant) :=
  let raw := member fields "lastTicketingDateTime"
  if isTruthy raw then (parseDatetime lib raw "offer.lastTicketingDateTime").map some else .ok none

/-- The travelers of an offer, as the loop counts them. -/
def pricingsOf (fields : Dict) : Json := orElse (member fields "travelerPricings") (.arr [])

/-- The offer is mapped for that many of the searching party. -/
def isMatched (total count : Nat) : Bool := if count≠0 then count≤total else total=0

/-- What the loop makes of an offer by itself. -/
def mappedOffer (fields : Dict) : Except Failure ReadOffer := do
  let offerId := lib.str (← require (.obj fields) "id" "offer")
  match pricingsOf fields with
  | .arr (traveler::travelers) =>
    let validUntil ← validUntilOf lib fields
    let prices ← (traveler::travelers).mapM (priceOf lib offerId)
    return ⟨offerId,validUntil,prices⟩
  | _ => throw (.of .validationFailed
      ("Amadeus offer "++offerId++": travelerPricings missing or empty."))

/-- What the loop makes of a value in the answer, for a party of a size; nothing where it skips. -/
def readOffer (total : Nat) : Json → Except Failure (Option ReadOffer)
  | .obj fields => do
    let count ← lengthOf (pricingsOf fields)
    if isMatched total count then
      let offer ← mappedOffer lib fields
      return some offer
    else return none
  | _ => .ok none

end Reading

theorem readOffer_counted {lib : AmadeusLibrary} {fields : Dict} {total count : Nat}
    (hcount : lengthOf (pricingsOf fields)=.ok count) :
    readOffer lib total (.obj fields)=
      if isMatched total count then (mappedOffer lib fields).map some else .ok none := by
  rw [readOffer,hcount]
  change (if isMatched total count=true then _ else _)=_
  split
  · cases mappedOffer lib fields <;> rfl
  · rfl

/-- A fare of an offer for a traveler. -/
structure IsFareOf (origin : Origin) (offerId : String) (validUntil : Option Instant) (p : Priced)
    (x : Tagged Fare) : Prop where
  origin : x.origin=origin
  base : x.value.base=p.base
  fees : x.value.fees=p.fees
  taxes : x.value.taxes=p.taxes
  total : x.value.total=p.total
  sourceRef : x.value.sourceRef=some (stripWhitespace offerId)
  validUntil : x.value.validUntil=validUntil

/-- The fares of all travelers of an offer, in order. -/
def AllFaresOf (origin : Origin) (offer : ReadOffer) (group : List (Tagged Fare)) : Prop :=
  List.Forall₂ (IsFareOf origin offer.offerId offer.validUntil) offer.prices group

/-- The fares that a value of the answer gives. -/
def IsGroupOf (origin : Origin) (read : Option ReadOffer) (group : List (Tagged Fare)) : Prop :=
  match read with
  | none => group=[]
  | some offer => AllFaresOf origin offer group

variable {lib : AmadeusLibrary} {γ : Type} {env : Environment Answer γ} {g : γ} {d : AmadeusDriver}

/-- The ids that are drawn are ids of entities, and so is the tenant's. -/
structure ValidIds (env : Environment Answer γ) (tenantId : EntityId) : Prop where
  drawn : ∀ g fareOf id g',env g (.newId fareOf) id=some g' → isEntityId id=true
  tenant : isEntityId tenantId=true

/-! ## The amounts of a fare agree -/

variable {currency : String} {reading : DecimalReading}

theorem money_ok {m : Money} :
    AmadeusMapping.money reading currency=.ok m ↔ reading=.finite m.amount ∧
      isCurrencyCode (stripWhitespace currency)=true ∧ m.currency=stripWhitespace currency := by
  unfold AmadeusMapping.money
  rw [validated_ok,moneyOf_eq_some,patterned_eq_some]

theorem money_currency {m : Money} (h : AmadeusMapping.money reading currency=.ok m) :
    m.currency=stripWhitespace currency :=
  (money_ok.mp h).2.2

/-- All amounts of a traveler are in one currency. -/
structure OneCurrency (p : Priced) (currency : String) : Prop where
  base : p.base.currency=currency
  total : p.total.currency=currency
  fees : ∀ f∈p.fees,f.amount.currency=currency
  taxes : ∀ t∈p.taxes,t.taxAmount.currency=currency

theorem taxLineOf_currency {offerId : String} {base : DecimalReading} {tax : Dict} {line : TaxLine}
    (h : taxLineOf lib offerId currency base tax=.ok line) :
    line.taxAmount.currency=stripWhitespace currency := by
  obtain ⟨amount,-,h⟩ := bind_ok.mp h
  obtain ⟨taxable,-,h⟩ := bind_ok.mp h
  obtain ⟨taxAmount,htax,h⟩ := bind_ok.mp h
  cases h
  exact money_currency htax

theorem feeOf_currency {offerId : String} {fee : Dict} {component : FareComponent}
    (h : feeOf lib offerId currency fee=.ok (some component)) :
    component.amount.currency=stripWhitespace currency := by
  obtain ⟨amount,-,h⟩ := bind_ok.mp h
  split at h
  · cases h
  · obtain ⟨value,hvalue,h⟩ := bind_ok.mp h
    cases h
    exact money_currency hvalue

/-- Only an object is a pricing. -/
theorem priceOf_isObj {offerId : String} {pricing : Json} {p : Priced}
    (h : priceOf lib offerId pricing=.ok p) : ∃ fields,pricing=.obj fields := by
  cases pricing with
  | obj fields => exact ⟨fields,rfl⟩
  | _ => cases h

theorem priceOf_currency {offerId : String} {pricing : Json} {p : Priced}
    (h : priceOf lib offerId pricing=.ok p) : ∃ currency,OneCurrency p currency := by
  obtain ⟨fields,rfl⟩ := priceOf_isObj h
  obtain ⟨_,-,h⟩ := bind_ok.mp h
  obtain ⟨price,-,h⟩ := bind_ok.mp h
  obtain ⟨rawCurrency,-,h⟩ := bind_ok.mp h
  obtain ⟨rawBase,-,h⟩ := bind_ok.mp h
  obtain ⟨base,-,h⟩ := bind_ok.mp h
  obtain ⟨rawTotal,-,h⟩ := bind_ok.mp h
  obtain ⟨total,-,h⟩ := bind_ok.mp h
  obtain ⟨rawTaxes,-,h⟩ := bind_ok.mp h
  obtain ⟨taxValues,-,h⟩ := bind_ok.mp h
  obtain ⟨taxes,htaxes,h⟩ := bind_ok.mp h
  obtain ⟨rawFees,-,h⟩ := bind_ok.mp h
  obtain ⟨feeValues,-,h⟩ := bind_ok.mp h
  obtain ⟨fees,hfees,h⟩ := bind_ok.mp h
  obtain ⟨baseMoney,hbase,h⟩ := bind_ok.mp h
  obtain ⟨totalMoney,htotal,h⟩ := bind_ok.mp h
  cases h
  refine ⟨_,money_currency hbase,money_currency htotal,fun f hf => ?_,fun t ht => ?_⟩
  · obtain ⟨component,hcomponent,hsome⟩ := List.mem_filterMap.mp hf
    obtain ⟨fee,-,hfee⟩ := partner_of_mem (mapM_ok.mp hfees).flip hcomponent
    cases hsome
    exact feeOf_currency hfee
  · obtain ⟨tax,-,htax⟩ := partner_of_mem (mapM_ok.mp htaxes).flip ht
    exact taxLineOf_currency htax

/-! ## Building a fare -/

/-- The arguments of `Fare(...)`. -/
def fareDraft (tenantId itineraryId : EntityId) (offerId : String) (validUntil : Option Instant)
    (passengerId : EntityId) (priced : Priced) (id : EntityId) : Fare where
  id := id
  tenantId := tenantId
  itineraryId := itineraryId
  passengerId := passengerId
  base := priced.base
  fees := priced.fees
  taxes := priced.taxes
  total := priced.total
  source := driverName
  sourceRef := some offerId
  validUntil := validUntil

/-- A fare that is built keeps the amounts. -/
theorem build_amounts {fare built : Fare} (h : Fare.build fare=some built) :
    built.base=fare.base ∧ built.fees=fare.fees ∧ built.taxes=fare.taxes ∧
      built.total=fare.total ∧ built.sourceRef=fare.sourceRef.map stripWhitespace ∧
      built.validUntil=fare.validUntil := by
  unfold Fare.build at h
  simp only [Option.bind_eq_bind,Option.bind_eq_some_iff] at h
  obtain ⟨id,-,tenantId,-,itineraryId,-,passengerId,-,h⟩ := h
  unfold Fare.currencyConsistency at h
  split at h
  · rw [← Option.some.inj h]
    exact ⟨rfl,rfl,rfl,rfl,rfl,rfl⟩
  · cases h

/-- A fare with ids of entities and one currency is built. -/
theorem build_isSome {fare : Fare} (hid : isEntityId fare.id=true)
    (htenant : isEntityId fare.tenantId=true) (hitinerary : isEntityId fare.itineraryId=true)
    (hpassenger : isEntityId fare.passengerId=true)
    (hcurrency : OneCurrency ⟨fare.base,fare.total,fare.taxes,fare.fees⟩ currency) :
    (Fare.build fare).isSome=true := by
  unfold Fare.build
  rw [entityId_of_valid hid,entityId_of_valid htenant,entityId_of_valid hitinerary,
    entityId_of_valid hpassenger]
  simp only [Option.bind_eq_bind,Option.bind_some]
  unfold Fare.currencyConsistency
  rw [if_pos]
  · rfl
  · refine ⟨hcurrency.total.trans hcurrency.base.symm,fun f hf => ?_,fun t ht => ?_⟩
    · exact (hcurrency.fees f hf).trans hcurrency.base.symm
    · exact (hcurrency.taxes t ht).trans hcurrency.base.symm

/-! ## The loop of a search -/

section Loop

variable {n : Nat} {itineraryId : EntityId}

/-- What the mapping of an offer raises does not depend on the ids, if these are valid. -/
def Faithful {α β : Type} (valid : Prop) (pure : Except Failure α) (R : α → β → Prop)
    (r : Except Failure β) : Prop :=
  (∀ b,r=.ok b → ∃ a,pure=.ok a ∧ R a b) ∧ ∀ e,r=.error e → valid → pure=.error e

theorem Faithful.raise {α β : Type} {valid : Prop} {pure : Except Failure α} {R : α → β → Prop}
    {e : Failure} (h : valid → pure=.error e) : Faithful valid pure R (.error e : Except Failure β) := by
  refine ⟨fun b hb => (by cases hb),fun e' he hvalid => ?_⟩
  cases he
  exact h hvalid

/-- The travelers of an offer are mapped as their prices are. -/
theorem meets_faresOf (offer : Tagged Dict) (offerId : String) {tenantId : EntityId}
    (validUntil : Option Instant) (travelers : List (EntityId × Json)) :
    Meets env (fun _ _ => True)
      (fun _ r => Faithful
        (ValidIds env tenantId ∧ isEntityId itineraryId=true ∧ ∀ t∈travelers,isEntityId t.1=true)
        ((travelers.map Prod.snd).mapM (priceOf lib offerId))
        (List.Forall₂ (IsFareOf offer.origin offerId validUntil)) r)
      (faresOf lib offer offerId itineraryId tenantId validUntil travelers) g := by
  induction travelers generalizing g with
  | nil =>
    refine ⟨fun fares hfares => ?_,fun e he => (by cases he)⟩
    cases hfares
    exact ⟨[],rfl,.nil⟩
  | cons traveler rest ih =>
    obtain ⟨passengerId,pricing⟩ := traveler
    refine Meets.bind (Meets.ofExcept ?_)
    rw [List.map_cons,List.mapM_cons]
    cases hprice : priceOf lib offerId pricing with
    | error e => exact .raise fun _ => rfl
    | ok priced =>
      dsimp only
      refine Meets.bind (meets_newEntityId trivial fun id g₁ hid => ?_)
      dsimp only
      refine Meets.bind (Meets.ofExcept ?_)
      generalize hbuild : Fare.build _=built
      cases built with
      | none =>
        refine .raise ?_
        rintro ⟨hvalid,hitinerary,hpassengers⟩
        obtain ⟨currency,hcurrency⟩ := priceOf_currency hprice
        have hbuilt : (fareDraft tenantId itineraryId offerId validUntil passengerId priced id).build.isSome=
            true := build_isSome
          (hvalid.drawn g _ id g₁ hid) hvalid.tenant hitinerary (hpassengers _ List.mem_cons_self)
          hcurrency
        have hnone : (fareDraft tenantId itineraryId offerId validUntil passengerId priced id).build=
            none := hbuild
        rw [hnone] at hbuilt
        cases hbuilt
      | some fare =>
        refine Meets.bind (ih.imp fun g₂ r hr => ?_)
        cases r with
        | error e =>
          refine .raise ?_
          rintro ⟨hvalid,hitinerary,hpassengers⟩
          have hrest := hr.2 e rfl ⟨hvalid,hitinerary,fun t ht => hpassengers t (List.mem_cons_of_mem _ ht)⟩
          rw [hrest]
          rfl
        | ok fares =>
          refine ⟨fun all hall => ?_,fun e he => (by cases he)⟩
          cases hall
          obtain ⟨prices,hprices,hfares⟩ := hr.1 fares rfl
          obtain ⟨hbase,hfees,htaxes,htotal,hsource,huntil⟩ := build_amounts hbuild
          rw [hprices]
          exact ⟨priced::prices,rfl,.cons ⟨rfl,hbase,hfees,htaxes,htotal,hsource,huntil⟩ hfares⟩

/-- Caching the fares of an offer does not fail. -/
theorem meets_cacheFares (offer : Tagged Dict) (fares : List (Tagged Fare)) :
    Meets env (fun _ _ => True) (fun _ r => r=.ok ()) (cacheFares d offer fares) g := by
  induction fares generalizing g with
  | nil => rfl
  | cons fare fares ih =>
    unfold cacheFares
    split
    · exact ⟨trivial,fun _ _ _ => ih⟩
    · rfl

theorem meets_drawIds (k : Nat) :
    Meets env (fun _ _ => True)
      (fun _ r => ∃ ids,r=.ok ids ∧ ids.length=k ∧
        ((∀ g fareOf id g',env g (.newId fareOf) id=some g' → isEntityId id=true) →
          ∀ id∈ids,isEntityId id=true))
      (drawIds k) g := by
  induction k generalizing g with
  | zero => exact ⟨[],rfl,rfl,fun _ => List.forall_mem_nil _⟩
  | succ k ih =>
    refine Meets.bind (meets_newEntityId trivial fun id g₁ hid => ?_)
    refine Meets.bind (ih.imp fun g₂ r hr => ?_)
    obtain ⟨ids,rfl,hlength,hvalid⟩ := hr
    refine ⟨id::ids,rfl,by rw [List.length_cons,hlength],fun hdrawn => ?_⟩
    exact List.forall_mem_cons.mpr ⟨hdrawn g none id g₁ hid,hvalid hdrawn⟩

/-- An offer is mapped as it is read. -/
theorem meets_amadeusOfferToFares (offer : Tagged Dict) {passengerIds : List EntityId}
    {tenantId : EntityId}
    (hcount : ∀ pricings,pricingsOf offer.value=.arr pricings → passengerIds.length=pricings.length) :
    Meets env (fun _ _ => True)
      (fun _ r => Faithful
        (ValidIds env tenantId ∧ isEntityId itineraryId=true ∧ ∀ p∈passengerIds,isEntityId p=true)
        (mappedOffer lib offer.value) (AllFaresOf offer.origin) r)
      (amadeusOfferToFares lib offer passengerIds itineraryId tenantId) g := by
  refine Meets.bind (Meets.ofExcept ?_)
  unfold mappedOffer
  cases require (.obj offer.value) "id" "offer" with
  | error e => exact .raise fun _ => rfl
  | ok id =>
    change Meets env _ _ (match pricingsOf offer.value with | .arr (t::ts) => _ | _ => _) g
    cases hpricings : pricingsOf offer.value with
    | arr pricings =>
      have hlength := hcount pricings hpricings
      cases pricings with
      | nil => exact .raise fun _ => rfl
      | cons traveler travelers =>
        dsimp only
        rw [if_neg (not_not_intro hlength)]
        refine Meets.bind (Meets.ofExcept ?_)
        generalize hvalid : validUntilOf lib offer.value=validUntil
        have hraw : (if isTruthy (member offer.value "lastTicketingDateTime") then
          (parseDatetime lib (member offer.value "lastTicketingDateTime")
            "offer.lastTicketingDateTime").map some
          else .ok none)=validUntil := hvalid
        rw [hraw]
        cases validUntil with
        | error e => exact .raise fun _ => rfl
        | ok validUntil =>
          dsimp only
          refine (meets_faresOf offer (lib.str id) validUntil _).imp fun g' r hr => ?_
          rw [List.map_snd_zip (by omega)] at hr
          refine ⟨fun fares hfares => ?_,fun e he hvalid => ?_⟩
          · obtain ⟨prices,hprices,hall⟩ := hr.1 fares hfares
            have hmapped : ((traveler::travelers).mapM (priceOf lib (lib.str id)) >>= fun prices =>
                Except.ok (⟨lib.str id,validUntil,prices⟩ : ReadOffer))=
                .ok ⟨lib.str id,validUntil,prices⟩ := bind_ok.mpr ⟨prices,hprices,rfl⟩
            exact ⟨⟨lib.str id,validUntil,prices⟩,hmapped,hall⟩
          · have hfailed := hr.2 e he ⟨hvalid.1,hvalid.2.1,fun t ht =>
              hvalid.2.2 t.1 (List.of_mem_zip ht).1⟩
            change ((traveler::travelers).mapM (priceOf lib (lib.str id)) >>= fun prices =>
              Except.ok (⟨lib.str id,validUntil,prices⟩ : ReadOffer))=_
            rw [hfailed]
            rfl
    | _ => exact .raise fun _ => rfl

/-- What the loop over values of the answer comes to. -/
def Looped (lib : AmadeusLibrary) (n total : Nat) (valid : Prop) (values : List (Json × Nat))
    (r : Except Failure (List (Tagged Fare))) : Prop :=
  (∀ fares,r=.ok fares → ∃ groups,fares=groups.flatten ∧
    List.Forall₂ (fun (v : Json × Nat) group =>
      ∃ read,readOffer lib total v.1=.ok read ∧ IsGroupOf (n,v.2) read group) values groups) ∧
  ∀ e,r=.error e → valid → ∃ v∈values,readOffer lib total v.1=.error e

variable {values : List (Json × Nat)}

/-- A value that raises ends the loop. -/
theorem Looped.raise {total : Nat} {valid : Prop} {v : Json × Nat} {e : Failure}
    (h : valid → readOffer lib total v.1=.error e) :
    Looped lib n total valid (v::values) (.error e) := by
  refine ⟨fun fares hfares => (by cases hfares),fun e' he hvalid => ?_⟩
  cases he
  exact ⟨v,List.mem_cons_self,h hvalid⟩

/-- A value that is read puts its group before those of the rest. -/
theorem Looped.cons {total : Nat} {valid : Prop} {v : Json × Nat} {values : List (Json × Nat)}
    {read : Option ReadOffer} {group : List (Tagged Fare)} {r : Except Failure (List (Tagged Fare))}
    (hread : readOffer lib total v.1=.ok read) (hgroup : IsGroupOf (n,v.2) read group)
    (h : Looped lib n total valid values r) :
    Looped lib n total valid (v::values) (r.map (group++·)) := by
  constructor
  · intro fares hfares
    cases r with
    | error e => cases hfares
    | ok more =>
      cases hfares
      obtain ⟨groups,hmore,hgroups⟩ := h.1 more rfl
      exact ⟨group::groups,by rw [hmore,List.flatten_cons],.cons ⟨read,hread,hgroup⟩ hgroups⟩
  · intro e he hvalid
    cases r with
    | ok more => cases he
    | error e' =>
      cases he
      obtain ⟨v',hv',hraised⟩ := h.2 e rfl hvalid
      exact ⟨v',List.mem_cons_of_mem _ hv',hraised⟩

theorem take_length_iff (paxIds : List EntityId) (count : Nat) :
    (if count≠0 then paxIds.take count else paxIds).length=count ↔
      isMatched paxIds.length count=true := by
  unfold isMatched
  split
  · rw [List.length_take,decide_eq_true_iff]
    omega
  · rw [decide_eq_true_iff]
    omega

/-- The loop gives one group of fares for each value. -/
theorem meets_faresOfOffers {paxIds : List EntityId} (values : List (Json × Nat)) :
    Meets env (fun _ _ => True)
      (fun _ r => Looped lib n paxIds.length
        (ValidIds env d.tenantId ∧ isEntityId itineraryId=true ∧ ∀ p∈paxIds,isEntityId p=true)
        values r)
      (faresOfOffers lib d n itineraryId paxIds values) g := by
  induction values generalizing g with
  | nil =>
    refine ⟨fun fares hfares => ?_,fun e he => (by cases he)⟩
    cases hfares
    exact ⟨[],rfl,.nil⟩
  | cons v values ih =>
    obtain ⟨value,k⟩ := v
    have hskip : readOffer lib paxIds.length value=.ok none →
        Meets env (fun _ _ => True) (fun _ r => Looped lib n paxIds.length
          (ValidIds env d.tenantId ∧ isEntityId itineraryId=true ∧ ∀ p∈paxIds,isEntityId p=true)
          ((value,k)::values) r) (faresOfOffers lib d n itineraryId paxIds values) g := by
      intro hread
      refine ih.imp fun g' r hr => ?_
      have hcons := hr.cons (v:=(value,k)) hread (rfl : IsGroupOf (n,k) none [])
      cases r <;> exact hcons
    cases value with
    | obj fields =>
      refine Meets.bind (Meets.ofExcept ?_)
      have hpricings : orElse (member fields "travelerPricings") (.arr [])=pricingsOf fields := rfl
      rw [hpricings]
      cases hcount : lengthOf (pricingsOf fields) with
      | error e =>
        refine .raise fun _ => ?_
        rw [readOffer,hcount]
        rfl
      | ok count =>
        dsimp only
        have hread : readOffer lib paxIds.length (.obj fields)=
            if isMatched paxIds.length count then (mappedOffer lib fields).map some
            else .ok none := readOffer_counted hcount
        have hmatched := take_length_iff paxIds count
        have hslice : ∀ p∈(if count≠0 then paxIds.take count else paxIds),p∈paxIds := by
          intro p hp
          split at hp
          · exact List.mem_of_mem_take hp
          · exact hp
        generalize (if count≠0 then paxIds.take count else paxIds)=slice at hmatched hslice ⊢
        by_cases hlength : slice.length=count
        · rw [if_neg (not_not_intro hlength)]
          rw [if_pos (hmatched.mp hlength)] at hread
          have hlist : ∀ pricings,pricingsOf fields=.arr pricings → slice.length=pricings.length := by
            intro pricings harr
            rw [harr] at hcount
            cases hcount
            exact hlength
          refine Meets.bind ((meets_amadeusOfferToFares ⟨(n,k),fields⟩ hlist).imp fun g₁ r hr => ?_)
          cases r with
          | error e =>
            refine .raise ?_
            rintro ⟨hvalid,hitinerary,hpax⟩
            rw [hread,hr.2 e rfl ⟨hvalid,hitinerary,fun p hp => hpax p (hslice p hp)⟩]
            rfl
          | ok fares =>
            obtain ⟨offer,hoffer,hfares⟩ := hr.1 fares rfl
            rw [hoffer] at hread
            refine Meets.bind ((meets_cacheFares ⟨(n,k),fields⟩ fares).imp fun g₂ r hcached => ?_)
            cases hcached
            refine Meets.bind (ih.imp fun g₃ r hrest => ?_)
            have hcons := hrest.cons (v:=(.obj fields,k)) hread hfares
            cases r <;> exact hcons
        · rw [if_pos hlength]
          rw [if_neg (mt hmatched.mpr hlength)] at hread
          exact hskip hread
    | _ => exact hskip rfl

theorem Looped.imp {total : Nat} {valid valid' : Prop} {r : Except Failure (List (Tagged Fare))}
    (h : Looped lib n total valid values r) (hvalid : valid' → valid) :
    Looped lib n total valid' values r :=
  ⟨h.1,fun e he hv => h.2 e he (hvalid hv)⟩

end Loop

/-! ## A search from its answer on -/

/-- How many travel. -/
def partyOf (criteria : FareSearchCriteria) : Nat := (criteria.passengers.map Prod.snd).sum

/-- The parameters of the request. -/
def searchParams (criteria : FareSearchCriteria) : KeyedMap.Table String String :=
  criteriaToQueryParams criteria++[("max",toString criteria.maxResults)]

/-- The price filter and the truncation. -/
def shownFares (criteria : FareSearchCriteria) (fares : List (Tagged Fare)) : List (Tagged Fare) :=
  (fares.filter fun fare => withinMaxPrice criteria fare.value).take criteria.maxResults.toNat

/-- `search`, from the body of the answer on. -/
def searchIn (lib : AmadeusLibrary) (d : AmadeusDriver) (n : Nat) (criteria : FareSearchCriteria)
    (body : Json) : Prog (List (Tagged Fare)) := do
  let offers ← ofExcept (offersIn body)
  let itineraryId ← newEntityId none
  let paxIds ← drawIds (partyOf criteria)
  let fares ← faresOfOffers lib d n itineraryId paxIds offers.zipIdx
  pure (shownFares criteria fares)

/-- A search reads a body and comes to a result. -/
structure Searched (env : Environment Answer γ) (lib : AmadeusLibrary) (d : AmadeusDriver) (n : Nat)
    (criteria : FareSearchCriteria) (s : γ) (body : Json) (r : Except Failure (List (Tagged Fare)))
    (t : γ) : Prop where
  cap : 1≤criteria.maxResults ∧ criteria.maxResults≤250
  ran : ∃ s₁,
    Exec env (request lib d.config (.searchOffers (searchParams criteria))) s (.ok body) s₁ ∧
      Exec env (searchIn lib d n criteria body) s₁ r t

variable {n : Nat} {criteria : FareSearchCriteria} {s t : γ} {body : Json}
  {r : Except Failure (List (Tagged Fare))}

/-- From its answer on a search returns what is shown of the groups. -/
theorem meets_searchIn {offers : List Json} (hoffers : offersIn body=.ok offers) :
    Meets env (fun _ _ => True)
      (fun _ r => ∃ looped,
        Looped lib n (partyOf criteria) (ValidIds env d.tenantId) offers.zipIdx looped ∧
          r=looped.map (shownFares criteria))
      (searchIn lib d n criteria body) g := by
  refine Meets.bind (Meets.ofExcept ?_)
  rw [hoffers]
  refine Meets.bind (meets_newEntityId trivial fun itineraryId g₁ hitinerary => ?_)
  refine Meets.bind ((meets_drawIds (partyOf criteria)).imp fun g₂ r hdrawn => ?_)
  obtain ⟨paxIds,rfl,hlength,hpax⟩ := hdrawn
  refine Meets.bind ((meets_faresOfOffers offers.zipIdx).imp fun g₃ r hlooped => ?_)
  rw [hlength] at hlooped
  have hlooped := hlooped.imp fun hvalid : ValidIds env d.tenantId =>
    ⟨hvalid,hvalid.drawn g _ itineraryId g₁ hitinerary,hpax hvalid.drawn⟩
  cases r with
  | error e => exact ⟨.error e,hlooped,rfl⟩
  | ok fares => exact ⟨.ok fares,hlooped,rfl⟩

theorem Searched.looped (h : Searched env lib d n criteria s body r t) {offers : List Json}
    (hoffers : offersIn body=.ok offers) :
    ∃ looped,Looped lib n (partyOf criteria) (ValidIds env d.tenantId) offers.zipIdx looped ∧
      r=looped.map (shownFares criteria) := by
  obtain ⟨s₁,-,hrest⟩ := h.ran
  exact (meets_searchIn hoffers).exec hrest

/-- A search that returns found a list of offers. -/
theorem Searched.offers {result : List (Tagged Fare)}
    (h : Searched env lib d n criteria s body (.ok result) t) : ∃ offers,offersIn body=.ok offers := by
  obtain ⟨s₁,-,hrest⟩ := h.ran
  unfold searchIn at hrest
  cases hoffers : offersIn body with
  | ok offers => exact ⟨offers,rfl⟩
  | error e =>
    rw [hoffers] at hrest
    cases hrest

end Voyagent.OfferFares
