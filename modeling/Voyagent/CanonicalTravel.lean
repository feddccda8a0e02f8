import Voyagent.CanonicalFinance

/-!
# Canonical travel records

The traveler a booking driver looks up, the fare it quotes and the reservation
it returns, with the validation that builds the last two. Fields that no driver
reads are left out.
-/

namespace Voyagent.CanonicalTravel

open RuntimeValues CalendarDates Decimals CanonicalFields CanonicalFinance

/-- A point in time in UTC, in microseconds. -/
abbrev Instant : Type := Int

/-- `date.isoformat()`. -/
def isoformat (d : CalendarDate) : String :=
  let digits := fun width n => String.ofList ((toString (n : Nat)).toList.leftpad width '0')
  digits 4 d.year++"-"++digits 2 d.month++"-"++digits 2 d.day

example : isoformat ⟨1990,1,15,by decide⟩="1990-01-15" := by decide

/-! ## Travelers -/

inductive Gender where
  | male | female | unspecified
  deriving DecidableEq

structure Passport where
  number : String
  issuingCountry : String
  givenName : String
  familyName : String
  gender : Gender
  expiryDate : CalendarDate
  placeOfBirth : Option String := none
  deriving DecidableEq

structure Passenger where
  id : EntityId
  tenantId : EntityId
  givenName : String
  familyName : String
  dateOfBirth : Option CalendarDate := none
  gender : Option Gender := none
  nationality : Option String := none
  passport : Option Passport := none
  /-- Numbers in E.164 form. -/
  phones : List String := []
  /-- Addresses of the emails. -/
  emails : List String := []
  deriving DecidableEq

/-! ## Fares -/

structure FareComponent where
  label : String
  amount : Money
  deriving DecidableEq

structure Fare where
  id : EntityId
  tenantId : EntityId
  itineraryId : EntityId
  passengerId : EntityId
  base : Money
  fees : List FareComponent
  taxes : List TaxLine
  total : Money
  source : String
  sourceRef : Option String
  validUntil : Option Instant
  deriving DecidableEq

/-- The validator `_currency_consistency`. -/
def Fare.currencyConsistency (fare : Fare) : Option Fare :=
  if fare.total.currency=fare.base.currency ∧
      (∀ f∈fare.fees,f.amount.currency=fare.base.currency) ∧
      ∀ t∈fare.taxes,t.taxAmount.currency=fare.base.currency then
    some fare
  else none

/-- `Fare(...)`; nothing where it raises. The parts are models already. -/
@[irreducible] def Fare.build (fare : Fare) : Option Fare := do
  let id ← entityId (.str fare.id)
  let tenantId ← entityId (.str fare.tenantId)
  let itineraryId ← entityId (.str fare.itineraryId)
  let passengerId ← entityId (.str fare.passengerId)
  Fare.currencyConsistency { fare with
    id := id
    tenantId := tenantId
    itineraryId := itineraryId
    passengerId := passengerId
    source := stripWhitespace fare.source
    sourceRef := fare.sourceRef.map stripWhitespace }

/-! ## Reservations -/

inductive PNRStatus where
  | tentative | confirmed | ticketed | cancelled | scheduleChange
  deriving DecidableEq

structure PNR where
  id : EntityId
  tenantId : EntityId
  locator : String
  source : String
  sourceRef : Option String
  status : PNRStatus
  passengerIds : List EntityId
  segmentIds : List EntityId
  fareIds : List EntityId
  ticketTimeLimit : Option Instant
  createdAt : Instant
  updatedAt : Instant
  deriving DecidableEq

/-- `PNR(...)`; nothing where it raises. -/
@[irreducible] def PNR.build (pnr : PNR) : Option PNR := do
  let id ← entityId (.str pnr.id)
  let tenantId ← entityId (.str pnr.tenantId)
  let passengerIds ← (pnr.passengerIds.mapM fun p => entityId (.str p)).filter fun ps => !ps.isEmpty
  let segmentIds ← (pnr.segmentIds.mapM fun s => entityId (.str s)).filter fun ss => !ss.isEmpty
  let fareIds ← pnr.fareIds.mapM fun f => entityId (.str f)
  return { pnr with
    id := id
    tenantId := tenantId
    locator := stripWhitespace pnr.locator
    source := stripWhitespace pnr.source
    sourceRef := pnr.sourceRef.map stripWhitespace
    passengerIds := passengerIds
    segmentIds := segmentIds
    fareIds := fareIds }

/-! ## What validation keeps -/

theorem entityId_str {s t : String} (h : entityId (.str s)=some t) :
    t=stripWhitespace s ∧ isEntityId t=true := by
  obtain ⟨hpattern,rfl⟩ := patterned_eq_some.mp h
  exact ⟨rfl,hpattern⟩

/-- A validated fare keeps its identifiers, trimmed. -/
theorem Fare.build_eq {fare fare' : Fare} (h : Fare.build fare=some fare') :
    fare'.id=stripWhitespace fare.id ∧ fare'.tenantId=stripWhitespace fare.tenantId := by
  unfold Fare.build at h
  simp only [Option.bind_eq_bind,Option.bind_eq_some_iff] at h
  obtain ⟨id,hid,tenantId,htenant,_,-,_,-,h⟩ := h
  unfold Fare.currencyConsistency at h
  split at h
  · rw [← Option.some.inj h]
    exact ⟨(entityId_str hid).1,(entityId_str htenant).1⟩
  · cases h

/-- A validated reservation keeps its identifiers, trimmed, and has as many fares. -/
theorem PNR.build_eq {pnr pnr' : PNR} (h : PNR.build pnr=some pnr') :
    pnr'.id=stripWhitespace pnr.id ∧ pnr'.tenantId=stripWhitespace pnr.tenantId ∧
      pnr'.sourceRef=pnr.sourceRef.map stripWhitespace ∧ pnr'.status=pnr.status ∧
      (pnr.fareIds=[] → pnr'.fareIds=[]) := by
  unfold PNR.build at h
  simp only [Option.bind_eq_bind,Option.bind_eq_some_iff] at h
  obtain ⟨id,hid,tenantId,htenant,_,-,_,-,fareIds,hfares,h⟩ := h
  rw [← Option.some.inj h]
  refine ⟨(entityId_str hid).1,(entityId_str htenant).1,rfl,rfl,fun hnone => ?_⟩
  rw [hnone,List.mapM_nil] at hfares
  exact (Option.some.inj hfares).symm

end Voyagent.CanonicalTravel
