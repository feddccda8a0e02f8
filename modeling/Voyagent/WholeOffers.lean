import Voyagent.CutGroups
import Voyagent.DecimalTexts
import Voyagent.OfferBookings
import Voyagent.OfferFares

/-!
# Whole offers in a search

The price bound and the cap of a search are documented for offers, and both are
applied to the list of the travelers' fares. A search returns whole offers
exactly when no offer it reaches is on both sides of the bound or reaches beyond
the cap, and no offer within the bound is left over after an offer of several.
-/

namespace Voyagent.WholeOffers

open RuntimeValues FallibleResults CanonicalFinance CanonicalTravel EffectPrograms AmadeusClient AmadeusMapping
  AmadeusBookings OfferFares CutGroups
open BookingRuns (offersIn)

/-- The offers of an answer. -/
def offersOfBody (body : Json) : List Json := (offersIn body).toOption.getD []

/-- The fares of the offer at a place. -/
def faresAt (n k : Nat) (fares : List (Tagged Fare)) : List (Tagged Fare) :=
  fares.filter fun x => decide (x.origin=(n,k))

/-- How many offers have a fare in the result. -/
def represented (n : Nat) (offers : List Json) (result : List (Tagged Fare)) : Nat :=
  (List.range offers.length).countP fun k => !(faresAt n k result).isEmpty

/-- The price of a traveler is within the upper bound. -/
def isWithin (criteria : FareSearchCriteria) (p : Priced) : Bool :=
  match criteria.maxPrice with
  | none => true
  | some price => p.total.currency==price.currency && p.total.amount.le price.amount

/-- The prices that a value of the answer has for its travelers. -/
def pricesOf (lib : AmadeusLibrary) (criteria : FareSearchCriteria) (value : Json) : List Priced :=
  match readOffer lib (partyOf criteria) value with
  | .ok (some offer) => offer.prices
  | _ => []

/-- A value of the answer is an offer that is mapped. -/
def IsOffer (lib : AmadeusLibrary) (criteria : FareSearchCriteria) (offers : List Json) (k : Nat)
    (offer : ReadOffer) : Prop :=
  ∃ value,offers[k]?=some value ∧ readOffer lib (partyOf criteria) value=.ok (some offer)

/-- A search returns whole offers, no more than its cap, and does not drop an offer within
the bound while there is room. -/
structure ReturnsWholeOffers (lib : AmadeusLibrary) (n : Nat) (criteria : FareSearchCriteria)
    (offers : List Json) (result : List (Tagged Fare)) : Prop where
  known : ∀ x∈result,∃ k offer p,IsOffer lib criteria offers k offer ∧ p∈offer.prices ∧
    IsFareOf (n,k) offer.offerId offer.validUntil p x
  whole : ∀ k offer,IsOffer lib criteria offers k offer →
    AllFaresOf (n,k) offer (faresAt n k result) ∨ faresAt n k result=[]
  capped : (represented n offers result : Int)≤criteria.maxResults
  kept : (represented n offers result : Int)<criteria.maxResults → ∀ k offer,
    IsOffer lib criteria offers k offer → (∀ p∈offer.prices,isWithin criteria p=true) →
    AllFaresOf (n,k) offer (faresAt n k result)

/-- The travelers' prices, offer by offer, can be filtered and cut off without tearing an
offer, and what is cut off after the cap follows on single fares. -/
structure Unsplit (lib : AmadeusLibrary) (criteria : FareSearchCriteria) (offers : List Json) :
    Prop where
  untorn : Untorn (isWithin criteria) criteria.maxResults.toNat (offers.map (pricesOf lib criteria))
  filled : Filled (isWithin criteria) criteria.maxResults.toNat (offers.map (pricesOf lib criteria))

variable {lib : AmadeusLibrary} {γ : Type} {env : Environment Answer γ} {d : AmadeusDriver} {n : Nat}
  {criteria : FareSearchCriteria} {s t : γ} {body : Json} {offers : List Json}
  {groups : List (List (Tagged Fare))} {result : List (Tagged Fare)}

/-- The fares of an answer, value by value. -/
def Grouped (lib : AmadeusLibrary) (n : Nat) (criteria : FareSearchCriteria) (offers : List Json)
    (groups : List (List (Tagged Fare))) : Prop :=
  List.Forall₂ (fun (v : Json × Nat) group => ∃ read,
    readOffer lib (partyOf criteria) v.1=.ok read ∧ IsGroupOf (n,v.2) read group) offers.zipIdx groups

variable {k : Nat}

theorem forall₂_at {α β : Type} {R : α → β → Prop} {as : List α} {bs : List β}
    (h : List.Forall₂ R as bs) {a : α} (ha : as[k]?=some a) : ∃ b,bs[k]?=some b ∧ R a b := by
  induction h generalizing k with
  | nil => cases ha
  | cons hr _ ih =>
    cases k with
    | zero =>
      cases ha
      exact ⟨_,rfl,hr⟩
    | succ k => exact ih ha

theorem Grouped.length_eq (h : Grouped lib n criteria offers groups) : groups.length=offers.length := by
  have hlength := List.Forall₂.length_eq h
  rw [List.length_zipIdx] at hlength
  exact hlength.symm

/-- The group of a value. -/
theorem Grouped.at (h : Grouped lib n criteria offers groups) {value : Json}
    (hvalue : offers[k]?=some value) : ∃ group read,groups[k]?=some group ∧
      readOffer lib (partyOf criteria) value=.ok read ∧ IsGroupOf (n,k) read group := by
  have hindexed : offers.zipIdx[k]?=some (value,k) := by
    rw [List.getElem?_zipIdx,hvalue,Option.map_some,Nat.zero_add]
  obtain ⟨group,hgroup,read,hread,hfares⟩ := forall₂_at h hindexed
  exact ⟨group,read,hgroup,hread,hfares⟩

/-- A group comes from a value. -/
theorem Grouped.value (h : Grouped lib n criteria offers groups) {group : List (Tagged Fare)}
    (hgroup : groups[k]?=some group) : ∃ value read,offers[k]?=some value ∧
      readOffer lib (partyOf criteria) value=.ok read ∧ IsGroupOf (n,k) read group := by
  have hlt : k<offers.length := by
    rw [← h.length_eq]
    exact (List.getElem?_eq_some_iff.mp hgroup).1
  obtain ⟨group',read,hgroup',hread,hfares⟩ := h.at (List.getElem?_eq_getElem hlt)
  cases hgroup.symm.trans hgroup'
  exact ⟨_,read,List.getElem?_eq_getElem hlt,hread,hfares⟩

/-- The verdict on a fare. -/
def isWithinFare (criteria : FareSearchCriteria) (x : Tagged Fare) : Bool :=
  withinMaxPrice criteria x.value

variable {validUntil : Option Instant}

theorem isWithin_of_fare {origin : Origin} {offerId : String} {p : Priced} {x : Tagged Fare}
    (h : IsFareOf origin offerId validUntil p x) : isWithinFare criteria x=isWithin criteria p := by
  unfold isWithinFare withinMaxPrice isWithin
  cases criteria.maxPrice with
  | none => rfl
  | some bound =>
    dsimp only
    rw [h.total]

theorem verdicts_of_fares {origin : Origin} {offerId : String} {prices : List Priced}
    {group : List (Tagged Fare)}
    (h : List.Forall₂ (IsFareOf origin offerId validUntil) prices group) :
    group.map (isWithinFare criteria)=prices.map (isWithin criteria) := by
  induction h with
  | nil => rfl
  | cons hfare _ ih => rw [List.map_cons,List.map_cons,ih,isWithin_of_fare hfare]

/-- The verdicts on the fares are those on the prices. -/
theorem Grouped.verdicts (h : Grouped lib n criteria offers groups) :
    groups.map (List.map (isWithinFare criteria))=
      (offers.map (pricesOf lib criteria)).map (List.map (isWithin criteria)) := by
  refine List.ext_getElem? fun k => ?_
  rw [List.getElem?_map,List.getElem?_map,List.getElem?_map]
  cases hvalue : offers[k]? with
  | none =>
    have hle := List.getElem?_eq_none_iff.mp hvalue
    rw [← h.length_eq] at hle
    rw [List.getElem?_eq_none hle]
    rfl
  | some value =>
    obtain ⟨group,read,hgroup,hread,hfares⟩ := h.at hvalue
    rw [hgroup,Option.map_some,Option.map_some,Option.map_some]
    refine congrArg some ?_
    unfold pricesOf
    rw [hread]
    cases read with
    | none =>
      rw [hfares]
      rfl
    | some offer => exact verdicts_of_fares hfares

/-- No group is torn or left over where no offer's prices are. -/
theorem Grouped.unsplit_iff (h : Grouped lib n criteria offers groups) :
    Unsplit lib criteria offers ↔
      Untorn (isWithinFare criteria) criteria.maxResults.toNat groups ∧
        Filled (isWithinFare criteria) criteria.maxResults.toNat groups := by
  rw [untorn_verdicts,filled_verdicts,h.verdicts,← untorn_verdicts,← filled_verdicts]
  exact ⟨fun hu => ⟨hu.untorn,hu.filled⟩,fun hu => ⟨hu.1,hu.2⟩⟩

/-! ## What is left of each offer -/

/-- The fares of a group are at its place. -/
theorem Grouped.origin (h : Grouped lib n criteria offers groups) {k : Nat}
    {group : List (Tagged Fare)} (hgroup : groups[k]?=some group) {x : Tagged Fare} (hx : x∈group) :
    x.origin=(n,k) := by
  obtain ⟨value,read,-,-,hfares⟩ := h.value hgroup
  cases read with
  | none =>
    rw [hfares] at hx
    cases hx
  | some offer =>
    obtain ⟨p,-,hp⟩ := partner_of_mem (List.Forall₂.flip hfares) hx
    exact hp.origin

/-- The fares that are shown. -/
def leftGroups (criteria : FareSearchCriteria) (groups : List (List (Tagged Fare))) :
    List (List (Tagged Fare)) := left (isWithinFare criteria) criteria.maxResults.toNat groups

theorem shownFares_eq (groups : List (List (Tagged Fare))) :
    shownFares criteria groups.flatten=(leftGroups criteria groups).flatten :=
  (flatten_left (isWithinFare criteria) criteria.maxResults.toNat groups).symm

/-- What is left of a group comes from the group. -/
theorem leftGroups_at {c : List (Tagged Fare)} (hc : (leftGroups criteria groups)[k]?=some c) :
    ∃ group,groups[k]?=some group ∧ c.Sublist group := by
  unfold leftGroups at hc
  rw [getElem?_left] at hc
  obtain ⟨group,hgroup,rfl⟩ := Option.map_eq_some_iff.mp hc
  exact ⟨group,hgroup,(List.take_sublist _ _).trans List.filter_sublist⟩

/-- The fares of an offer in the result are what is left of its group. -/
theorem Grouped.faresAt_eq (h : Grouped lib n criteria offers groups) (k : Nat) :
    faresAt n k (shownFares criteria groups.flatten)=((leftGroups criteria groups)[k]?).getD [] := by
  have hplace : ∀ (j : Nat) (c : List (Tagged Fare)),(leftGroups criteria groups)[j]?=some c →
      ∀ x∈c,x.origin=(n,j) := by
    intro j c hc x hx
    obtain ⟨group,hgroup,hsub⟩ := leftGroups_at hc
    exact h.origin hgroup (hsub.mem hx)
  have hkeys : ∀ (j : Nat) (c : List (Tagged Fare)),(leftGroups criteria groups)[j]?=some c →
      ∀ x∈c,x.origin.2=0+j := by
    intro j c hc x hx
    rw [hplace j c hc x hx,Nat.zero_add]
  have hpicked := filter_flatten (fun x : Tagged Fare => x.origin.2) hkeys k
  rw [shownFares_eq,faresAt,← hpicked]
  refine List.filter_congr fun x hx => ?_
  obtain ⟨c,hc,hx⟩ := List.mem_flatten.mp hx
  obtain ⟨j,hj⟩ := List.mem_iff_getElem?.mp hc
  rw [hplace j c hj x hx,Nat.zero_add]
  simp

theorem length_leftGroups : (leftGroups criteria groups).length=groups.length := by
  unfold leftGroups left
  rw [length_cut,List.length_map]

/-- As many offers have a fare in the result as groups have one left. -/
theorem Grouped.represented_eq (h : Grouped lib n criteria offers groups) :
    represented n offers (shownFares criteria groups.flatten)=shown (leftGroups criteria groups) := by
  unfold represented shown
  have hlist : (leftGroups criteria groups)=
      (List.range offers.length).map fun k => faresAt n k (shownFares criteria groups.flatten) := by
    refine List.ext_getElem? fun k => ?_
    rw [List.getElem?_map]
    by_cases hk : k<offers.length
    · rw [List.getElem?_range hk,Option.map_some,h.faresAt_eq]
      have hlt : k<(leftGroups criteria groups).length := by rwa [length_leftGroups,h.length_eq]
      rw [List.getElem?_eq_getElem hlt]
      rfl
    · rw [List.getElem?_eq_none (by rw [length_leftGroups,h.length_eq]; omega),
        List.getElem?_eq_none (by rw [List.length_range]; omega)]
      rfl
  rw [hlist,List.countP_map]
  rfl

/-- An offer has a group with its fares, and what is left of that group is in the result. -/
theorem Grouped.offer (h : Grouped lib n criteria offers groups) {offer : ReadOffer}
    (hoffer : IsOffer lib criteria offers k offer) :
    ∃ group c,groups[k]?=some group ∧ AllFaresOf (n,k) offer group ∧
      (leftGroups criteria groups)[k]?=some c ∧ c.Sublist group ∧
      faresAt n k (shownFares criteria groups.flatten)=c := by
  obtain ⟨value,hvalue,hread⟩ := hoffer
  obtain ⟨group,read,hgroup,hread',hfares⟩ := h.at hvalue
  cases hread.symm.trans hread'
  have hc : (leftGroups criteria groups)[k]?=
      some ((group.filter (isWithinFare criteria)).take _) := left_of_getElem? hgroup
  refine ⟨group,_,hgroup,hfares,hc,(List.take_sublist _ _).trans List.filter_sublist,?_⟩
  rw [h.faresAt_eq,hc]
  rfl

/-- All fares of an offer are within the bound where its prices are. -/
theorem all_within_iff {origin : Origin} {offer : ReadOffer} {group : List (Tagged Fare)}
    (h : AllFaresOf origin offer group) :
    (∀ x∈group,isWithinFare criteria x=true) ↔ ∀ p∈offer.prices,isWithin criteria p=true := by
  have hfares := List.forall_mem_map (f:=isWithinFare criteria) (l:=group) (P:=fun b => b=true)
  have hprices := List.forall_mem_map (f:=isWithin criteria) (l:=offer.prices) (P:=fun b => b=true)
  rw [← hfares,← hprices,verdicts_of_fares h]

theorem Grouped.untorn_of_whole (h : Grouped lib n criteria offers groups)
    (hr : ReturnsWholeOffers lib n criteria offers (shownFares criteria groups.flatten)) :
    Untorn (isWithinFare criteria) criteria.maxResults.toNat groups := by
  refine untorn_iff.mpr fun k group c hgroup hc => ?_
  obtain ⟨value,read,hvalue,hread,hfares⟩ := h.value hgroup
  cases read with
  | none =>
    obtain ⟨group',hgroup',hsub⟩ := leftGroups_at hc
    cases hgroup.symm.trans hgroup'
    rw [hfares] at hsub
    exact .inr (List.sublist_nil.mp hsub)
  | some offer =>
    have hat : faresAt n k (shownFares criteria groups.flatten)=c := by
      rw [h.faresAt_eq]
      exact congrArg (Option.getD · []) hc
    obtain hall|hnone := hr.whole k offer ⟨value,hvalue,hread⟩
    · rw [hat] at hall
      exact .inl ((List.Forall₂.length_eq hall).symm.trans (List.Forall₂.length_eq hfares))
    · exact .inr (hat.symm.trans hnone)

/-- A search that returns whole offers tears none and leaves none over. -/
theorem Grouped.unsplit_of_whole (h : Grouped lib n criteria offers groups)
    (hcap : 1≤criteria.maxResults)
    (hr : ReturnsWholeOffers lib n criteria offers (shownFares criteria groups.flatten)) :
    Unsplit lib criteria offers := by
  have huntorn := h.untorn_of_whole hr
  refine h.unsplit_iff.mpr ⟨huntorn,(filled_iff huntorn).mpr ?_⟩
  intro hroom k group c hgroup hc hne hall hempty
  obtain ⟨value,read,hvalue,hread,hfares⟩ := h.value hgroup
  cases read with
  | none => exact hne hfares
  | some offer =>
    have hshown : represented n offers (shownFares criteria groups.flatten)<
        criteria.maxResults.toNat := by
      rw [h.represented_eq]
      exact hroom
    have hkept := hr.kept (by omega) k offer ⟨value,hvalue,hread⟩ ((all_within_iff hfares).mp hall)
    rw [h.faresAt_eq] at hkept
    have hleft : ((leftGroups criteria groups)[k]?).getD []=c := congrArg (Option.getD · []) hc
    rw [hleft,hempty] at hkept
    have hlength : group.length=0 :=
      (List.Forall₂.length_eq hfares).symm.trans (List.Forall₂.length_eq hkept)
    exact hne (List.length_eq_zero_iff.mp hlength)

/-- Where no offer is torn or left over, a search returns whole offers. -/
theorem Grouped.whole_of_unsplit (h : Grouped lib n criteria offers groups)
    (hcap : 1≤criteria.maxResults) (hu : Unsplit lib criteria offers) :
    ReturnsWholeOffers lib n criteria offers (shownFares criteria groups.flatten) := by
  obtain ⟨huntorn,hfilled⟩ := h.unsplit_iff.mp hu
  have hwhole : ∀ k offer,IsOffer lib criteria offers k offer →
      AllFaresOf (n,k) offer (faresAt n k (shownFares criteria groups.flatten)) ∨
        faresAt n k (shownFares criteria groups.flatten)=[] := by
    intro k offer hoffer
    obtain ⟨group,c,hgroup,hfares,hc,hsub,hat⟩ := h.offer hoffer
    rw [hat]
    obtain hlength|hnone := untorn_iff.mp huntorn k group c hgroup hc
    · rw [hsub.eq_of_length hlength]
      exact .inl hfares
    · exact .inr hnone
  refine ⟨fun x hx => ?_,hwhole,?_,fun hroom k offer hoffer hall => ?_⟩
  · rw [shownFares_eq] at hx
    obtain ⟨c,hc,hx⟩ := List.mem_flatten.mp hx
    obtain ⟨k,hk⟩ := List.mem_iff_getElem?.mp hc
    obtain ⟨group,hgroup,hsub⟩ := leftGroups_at hk
    obtain ⟨value,read,hvalue,hread,hfares⟩ := h.value hgroup
    cases read with
    | none =>
      have hx := hsub.mem hx
      rw [hfares] at hx
      cases hx
    | some offer =>
      obtain ⟨p,hp,hfare⟩ := partner_of_mem (List.Forall₂.flip hfares) (hsub.mem hx)
      exact ⟨k,offer,p,⟨value,hvalue,hread⟩,hp,hfare⟩
  · have hle := shown_left_le (isWithinFare criteria) criteria.maxResults.toNat groups
    have hshown := h.represented_eq
    unfold leftGroups at hshown
    omega
  · obtain ⟨group,c,hgroup,hfares,hc,hsub,hat⟩ := h.offer hoffer
    obtain hfull|hnone := hwhole k offer hoffer
    · exact hfull
    · have hshown : shown (leftGroups criteria groups)<criteria.maxResults.toNat := by
        rw [← h.represented_eq (n:=n)]
        omega
      by_cases hne : group=[]
      · rw [hnone,← hne]
        exact hfares
      · have hsome := (filled_iff huntorn).mp hfilled hshown k group c hgroup hc hne
          ((all_within_iff hfares).mpr hall)
        exact absurd (hat.symm.trans hnone) hsome

/-- A search that returns gives whole offers exactly where no offer is split. -/
theorem whole_offers_iff (h : Searched env lib d n criteria s body (.ok result) t) :
    ReturnsWholeOffers lib n criteria (offersOfBody body) result ↔
      Unsplit lib criteria (offersOfBody body) := by
  obtain ⟨offers,hoffers⟩ := h.offers
  have hbody : offersOfBody body=offers := by
    rw [offersOfBody,hoffers]
    rfl
  rw [hbody]
  obtain ⟨looped,hlooped,hresult⟩ := h.looped hoffers
  cases looped with
  | error e => cases hresult
  | ok fares =>
    cases hresult
    obtain ⟨groups,rfl,hgroups⟩ := hlooped.1 fares rfl
    have hgrouped : Grouped lib n criteria offers groups := hgroups
    exact ⟨hgrouped.unsplit_of_whole h.cap.1,hgrouped.whole_of_unsplit h.cap.1⟩

/-! ## A family on a budget -/

/-- An environment that draws ids of entities. -/
def mintedIds : Environment Answer Unit := fun _ q =>
  match q with
  | .newId _ => fun id => if CanonicalFields.isEntityId id then some () else none
  | _ => fun _ => some ()

/-- Amounts are read as `Decimal` reads them. -/
def budgetLibrary : AmadeusLibrary where
  repr := fun _ => "?"
  decimal := fun s =>
    match DecimalTexts.decimalOfText s with
    | some (.finite d) => .finite d
    | some _ => .special
    | none => .malformed
  isFloat := fun _ => false
  fromIso := fun _ => none
  upper := String.toUpper

/-- The price of a traveler in dollars. -/
def pricing (total : String) : Json :=
  .obj [("price",.obj [("currency",.str "USD"),("base",.str total),("total",.str total)])]

/-- An offer with the prices of its travelers. -/
def offerPriced (totals : List String) : Json :=
  .obj [("id",.str "1"),("travelerPricings",.arr (totals.map pricing))]

/-- The body of an answer. -/
def bodyOf (offers : List Json) : Json := .obj [("data",.arr offers)]

/-- An adult and a child, with an upper bound. -/
def familyCriteria (bound : Decimals.Decimal) : FareSearchCriteria where
  passengers := [(.adult,1),(.child,1)]
  origin := "BOM"
  destination := "DXB"
  outboundDate := ⟨2026,9,1,OfferBookings.firstOfSeptember⟩
  maxPrice := some ⟨bound,"USD"⟩

/-- The answers to a search that is answered with a body. -/
def budgetAnswers (body : Json) : Nat → (q : Question) → Answer q :=
  BookedOrders.answerNumbered (fun _ => ⟨none,.response ⟨200,.json body,none⟩⟩) fun _ => none

/-- What the search of the family comes to from a body on. -/
def familySearch (bound : Decimals.Decimal) (body : Json) : Option (List (Tagged Fare)) :=
  (execute mintedIds (budgetAnswers body) 2 (searchIn budgetLibrary BookedOrders.deskDriver 0
    (familyCriteria bound) body) ()).bind fun e => e.1.toOption

theorem exec_ok_of_execute {α : Type} {p : Prog α} {a : α}
    (h : (execute mintedIds (budgetAnswers body) k p ()).bind (fun e => e.1.toOption)=some a) :
    Exec mintedIds p () (.ok a) () := by
  obtain ⟨⟨r,u⟩,hexec,hr⟩ := Option.bind_eq_some_iff.mp h
  cases r with
  | error e => cases hr
  | ok b =>
    cases hr
    exact exec_of_execute hexec

/-- A search of the family that is answered with a body. -/
theorem searched_family {bound : Decimals.Decimal}
    (hasked : (execute mintedIds (budgetAnswers body) 0 (request budgetLibrary {}
      (.searchOffers (searchParams (familyCriteria bound)))) ()).bind (fun e => e.1.toOption)=some body)
    (hread : familySearch bound body=some result) :
    Searched mintedIds budgetLibrary BookedOrders.deskDriver 0 (familyCriteria bound) () body
      (.ok result) () :=
  ⟨⟨(by decide : (1 : Int)≤50),(by decide : (50 : Int)≤250)⟩,(),exec_ok_of_execute hasked,
    exec_ok_of_execute hread⟩

/-- An offer for an adult and a child. -/
def familyOffer : List Json := [offerPriced ["120.00","80.00"]]

/-- Both fares are within the bound: the offer is returned whole. -/
theorem whole_offers_family : ∃ result,
    Searched mintedIds budgetLibrary BookedOrders.deskDriver 0 (familyCriteria ⟨150,0⟩) ()
      (bodyOf familyOffer) (.ok result) () ∧
    ReturnsWholeOffers budgetLibrary 0 (familyCriteria ⟨150,0⟩) (offersOfBody (bodyOf familyOffer))
      result := by
  have hrun : (familySearch ⟨150,0⟩ (bodyOf familyOffer)).isSome=true := by decide +kernel
  obtain ⟨result,hresult⟩ := Option.isSome_iff_exists.mp hrun
  have hsearched := searched_family (by decide +kernel) hresult
  have hverdicts : ((offersOfBody (bodyOf familyOffer)).map
      (pricesOf budgetLibrary (familyCriteria ⟨150,0⟩))).map
        (List.map (isWithin (familyCriteria ⟨150,0⟩)))=[[true,true]] := by decide +kernel
  refine ⟨result,hsearched,(whole_offers_iff hsearched).mpr ⟨?_,?_⟩⟩
  · rw [untorn_verdicts,hverdicts]
    intro k g hg _
    cases k with
    | zero =>
      cases hg
      exact .inl ⟨by decide,by decide⟩
    | succ k => cases hg
  · rw [filled_verdicts,hverdicts]
    intro k g hg _ _ hk
    cases k with
    | zero => exact absurd hk (by decide)
    | succ k => cases hg

/-- The child's fare is within the bound and the adult's is not: half of the offer is returned. -/
theorem child_without_adult : ∃ result,
    Searched mintedIds budgetLibrary BookedOrders.deskDriver 0 (familyCriteria ⟨100,0⟩) ()
      (bodyOf familyOffer) (.ok result) () ∧
    result.map (fun x => (x.origin,x.value.total.amount))=[((0,0),⟨8000,-2⟩)] ∧
    ¬ReturnsWholeOffers budgetLibrary 0 (familyCriteria ⟨100,0⟩) (offersOfBody (bodyOf familyOffer))
      result := by
  have hrun : (familySearch ⟨100,0⟩ (bodyOf familyOffer)).map
      (List.map fun x => (x.origin,x.value.total.amount))=some [((0,0),⟨8000,-2⟩)] := by
    decide +kernel
  obtain ⟨result,hresult,hfares⟩ := Option.map_eq_some_iff.mp hrun
  refine ⟨result,searched_family (by decide +kernel) hresult,hfares,fun h => ?_⟩
  have hread : (readOffer budgetLibrary 2 (offerPriced ["120.00","80.00"])).toOption.join.map
      (fun offer => offer.prices.length)=some 2 := by decide +kernel
  obtain ⟨offer,hoffer,hprices⟩ := Option.map_eq_some_iff.mp hread
  have hoffer := toOption_eq_some.mp (Option.join_eq_some_iff.mp hoffer)
  obtain ⟨x,hx,hplace⟩ := List.map_eq_singleton_iff.mp hfares
  have hone : faresAt 0 0 result=[x] := by
    rw [hx,faresAt,List.filter_singleton]
    have horigin : x.origin=(0,0) := congrArg Prod.fst hplace
    rw [horigin]
    rfl
  obtain hall|hnone := h.whole 0 offer ⟨_,rfl,hoffer⟩
  · rw [hone] at hall
    have hlength := List.Forall₂.length_eq hall
    rw [hprices] at hlength
    cases hlength
  · rw [hone] at hnone
    cases hnone

end Voyagent.WholeOffers
