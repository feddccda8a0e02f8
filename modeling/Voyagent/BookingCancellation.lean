import Voyagent.BookedOrders
import Voyagent.TransitionRuns

/-!
# Cancelling a booking

The life of bookings: orders are created, read and cancelled by the driver, or
cancelled by the vendor. `cancel` takes the id of a reservation, which was drawn
for it, and asks the vendor to delete an order of that id.
-/

namespace Voyagent.BookingCancellation

open RuntimeValues KeyedMap CanonicalFields CanonicalTravel EffectPrograms TransitionRuns
  AmadeusClient AmadeusMapping AmadeusBookings BookedOrders

/-- The orders the vendor has, by id, those of them that are cancelled, the ids drawn
by the driver, and the replies to its deletions. -/
structure Vendor where
  orders : List String := []
  cancelled : List String := []
  drawn : List EntityId := []
  deletions : List Reply := []
  deriving DecidableEq

/-- A reply is a success. -/
def succeeds : Reply → Bool
  | .response r => decide (r.status<400)
  | _ => false

section Environment

variable (lib : AmadeusLibrary)

/-- An order in the reply is one the vendor has. -/
def Vendor.knows (v : Vendor) (reply : Reply) : Bool :=
  (answeredOrder lib reply).all fun id => decide (id∈v.orders)

/-- The vendor creates orders with ids of their own, shows orders it has, deletes an
order that is not cancelled, and confirms a deletion only of an order it has. -/
def vendor : Environment Answer Vendor := fun v q =>
  match q with
  | .send (.bookOrder _ _) => fun x =>
    match x.acted with
    | none => if v.knows lib x.reply then some v else none
    | some id =>
      let v' := {v with orders := v.orders++[id]}
      if id∉v.orders ∧ id∉v.drawn ∧ v'.knows lib x.reply then some v' else none
  | .send (.readOrder _) => fun x => if v.knows lib x.reply then some v else none
  | .send (.deleteOrder id) => fun x =>
    let v' := {v with deletions := v.deletions++[x.reply]}
    match x.acted with
    | none => if succeeds x.reply → id∈v.orders then some v' else none
    | some other =>
      if other=id ∧ id∈v.orders ∧ id∉v.cancelled then
        some {v' with cancelled := v.cancelled++[id]}
      else none
  | .newId _ => fun id =>
    if isEntityId id ∧ id∉v.drawn ∧ id∉v.orders then some {v with drawn := v.drawn++[id]} else none
  | _ => fun _ => some v

/-! ## Bookings -/

/-- The orders and ids, and the reservations `create` and `read` returned. -/
structure Life where
  vendor : Vendor := {}
  returned : List PNR := []

inductive Act where
  | create (d : AmadeusDriver) (fareIds passengerIds : List EntityId)
  | read (d : AmadeusDriver) (locator : String)
  | cancel (d : AmadeusDriver) (pnrId : EntityId)
  /-- The vendor cancels an order. -/
  | withdraw (id : String)

/-- The reservation a call returned. -/
def returnedBy (r : Except Failure PNR) : List PNR := r.toOption.toList

inductive Step : Life → Act → Life → Prop
  | create {s : Life} {d : AmadeusDriver} {fareIds passengerIds : List EntityId}
      {r : Except Failure PNR} {v : Vendor} :
      Exec (vendor lib) (create lib d fareIds passengerIds) s.vendor r v →
      Step s (.create d fareIds passengerIds) ⟨v,s.returned++returnedBy r⟩
  | read {s : Life} {d : AmadeusDriver} {locator : String} {r : Except Failure PNR} {v : Vendor} :
      Exec (vendor lib) (read lib d locator) s.vendor r v →
      Step s (.read d locator) ⟨v,s.returned++returnedBy r⟩
  | cancel {s : Life} {d : AmadeusDriver} {pnrId : EntityId} {r : Except Failure PNR} {v : Vendor} :
      Exec (vendor lib) (cancel lib d pnrId) s.vendor r v →
      Step s (.cancel d pnrId) ⟨v,s.returned⟩
  | withdraw {s : Life} {id : String} : id∈s.vendor.orders →
      Step s (.withdraw id)
        ⟨{s.vendor with cancelled := s.vendor.cancelled++[id]},s.returned⟩

end Environment

/-- The reservation came from the order. -/
def CameFrom (v : Vendor) (pnr : PNR) (id : String) : Prop :=
  id∈v.orders ∧ pnr.sourceRef=some (stripWhitespace id)

/-- The vendor answered a deletion: there is no such order. -/
def Missed (before after : Vendor) : Prop :=
  ∃ deletions,after.deletions=before.deletions++deletions ∧
    ∃ r,.response r∈deletions ∧ r.status=404

/-- What a call of `cancel` owes the order: it cancels it or raises; it shows it as
cancelled only if it is; and if it was cancelled before and the vendor says so, the
call changes nothing and returns the cancelled reservation. -/
structure Owed (id : String) (before after : Vendor) (r : Except Failure PNR) : Prop where
  cancels : ∀ pnr,r=.ok pnr → id∈after.cancelled
  shows : ∀ pnr,r=.ok pnr → pnr.status=.cancelled → id∈after.cancelled
  again : id∈before.cancelled → Missed before after →
    after.cancelled=before.cancelled ∧ ∃ pnr,r=.ok pnr ∧ pnr.status=.cancelled

/-! ## What an answer changes -/

section Answers

variable {lib : AmadeusLibrary} {v v' : Vendor} {q : Question} {a : Answer q} {d : AmadeusDriver}

/-- No id drawn by the driver is an order's. -/
def Apart (v : Vendor) : Prop := ∀ id∈v.drawn,id∉v.orders

/-- Ids and orders only become more, and stay apart. -/
structure Grown (v v' : Vendor) : Prop where
  drawn : ∀ id∈v.drawn,id∈v'.drawn
  orders : ∀ id∈v.orders,id∈v'.orders
  apart : Apart v → Apart v'

theorem Grown.refl (v : Vendor) : Grown v v := ⟨fun _ h => h,fun _ h => h,id⟩

theorem Grown.trans {v'' : Vendor} (h : Grown v v') (h' : Grown v' v'') : Grown v v'' :=
  ⟨fun id hid => h'.drawn id (h.drawn id hid),fun id hid => h'.orders id (h.orders id hid),
    fun hv => h'.apart (h.apart hv)⟩

/-- A new order, whose id was not drawn. -/
theorem grown_order {id : String} (h : id∉v.drawn) : Grown v {v with orders := v.orders++[id]} := by
  refine ⟨fun _ h => h,fun _ h => List.mem_append_left _ h,fun hv other hother hmem => ?_⟩
  rcases List.mem_append.mp hmem with hold|hlast
  · exact hv other hother hold
  · cases List.mem_singleton.mp hlast
    exact h hother

/-- A new id, which is no order's. -/
theorem grown_draw {id : EntityId} (h : id∉v.orders) : Grown v {v with drawn := v.drawn++[id]} := by
  refine ⟨fun _ h => List.mem_append_left _ h,fun _ h => h,fun hv other hother hmem => ?_⟩
  rcases List.mem_append.mp hother with hold|hlast
  · exact hv other hold hmem
  · cases List.mem_singleton.mp hlast
    exact h hmem

theorem vendor_grown (h : vendor lib v q a=some v') : Grown v v' := by
  cases q with
  | send r =>
    cases r with
    | bookOrder offers travelers =>
      unfold vendor at h
      dsimp only at h
      split at h
      · split at h
        · cases h
          exact .refl v
        · cases h
      · split at h
        · rename_i hnew
          cases h
          exact grown_order hnew.2.1
        · cases h
    | readOrder locator =>
      unfold vendor at h
      dsimp only at h
      split at h
      · cases h
        exact .refl v
      · cases h
    | deleteOrder id =>
      unfold vendor at h
      dsimp only at h
      split at h
      · split at h
        · cases h
          exact ⟨fun _ h => h,fun _ h => h,fun hv => hv⟩
        · cases h
      · split at h
        · cases h
          exact ⟨fun _ h => h,fun _ h => h,fun hv => hv⟩
        · cases h
    | _ =>
      cases h
      exact .refl v
  | newId fareOf =>
    unfold vendor at h
    dsimp only at h
    split at h
    · rename_i hnew
      cases h
      exact grown_draw hnew.2.2
    · cases h
  | _ =>
    cases h
    exact .refl v

theorem meets_grown {α : Type} (p : Prog α) (v : Vendor) :
    Meets (vendor lib) (fun _ _ => True) (fun v' _ => Grown v v') p v :=
  meets_invariant (fun _ _ _ _ h hs => h.trans (vendor_grown hs)) (.refl v)

theorem vendor_knows {r : Request} {x : Exchange} (h : vendor lib v (.send r) x=some v')
    (hr : (∃ offers travelers,r=.bookOrder offers travelers) ∨ ∃ locator,r=.readOrder locator) :
    v'.knows lib x.reply=true := by
  unfold vendor at h
  rcases hr with ⟨offers,travelers,rfl⟩|⟨locator,rfl⟩
  · dsimp only at h
    split at h
    · split at h
      · rename_i hknows
        cases h
        exact hknows
      · cases h
    · split at h
      · rename_i hnew
        cases h
        exact hnew.2.2
      · cases h
  · dsimp only at h
    split at h
    · rename_i hknows
      cases h
      exact hknows
    · cases h

/-! ## What the calls return -/

/-- The order in the body is one the vendor has. -/
theorem meets_knownOrder {cfg : AmadeusConfig} {r : Request} (v : Vendor)
    (hr : (∃ offers travelers,r=.bookOrder offers travelers) ∨ ∃ locator,r=.readOrder locator) :
    Meets (vendor lib) (fun _ _ => True)
      (fun v' r => ∀ body,r=.ok body → ∀ id,orderIdIn lib body=some id → id∈v'.orders)
      (request lib cfg r) v := by
  refine meets_request (I:=fun _ _ => True) (fun n g _ => ?_) trivial
  refine ⟨trivial,fun token g' htoken => ?_⟩
  cases token with
  | error e => exact nofun
  | ok _ =>
    refine ⟨trivial,fun x g'' hsend => ?_⟩
    change AttemptPost lib cfg _ _ _ n _ (.ok x)
    unfold AttemptPost
    dsimp only
    cases hjudge : judge lib cfg r (n+1) x.reply with
    | done body =>
      intro body' hbody id hid
      cases hbody
      have hknows := vendor_knows hsend hr
      unfold Vendor.knows at hknows
      rw [(judge_done hjudge).1,hid] at hknows
      exact of_decide_eq_true hknows
    | failed e => exact nofun
    | again e => trivial

/-- A reservation has an id that was drawn for it, and comes from an order. -/
def Traced (v : Vendor) (pnr : PNR) : Prop := pnr.id∈v.drawn ∧ ∃ id,CameFrom v pnr id

theorem Traced.grown {pnr : PNR} (h : Traced v pnr) (hgrown : Grown v v') : Traced v' pnr := by
  obtain ⟨hid,id,horder,hsource⟩ := h
  exact ⟨hgrown.drawn _ hid,id,hgrown.orders _ horder,hsource⟩

theorem meets_mapped {order : Dict} {tenantId : EntityId} (v : Vendor)
    (horder : ∀ id,orderIdOf lib order=.ok id → id∈v.orders) :
    Meets (vendor lib) (fun _ _ => True) (fun v' r => ∀ pnr,r=.ok pnr → Traced v' pnr)
      (amadeusOrderToPnr lib order tenantId) v := by
  refine meets_amadeusOrderToPnr (I:=Grown v) (.refl v) (fun _ _ _ _ => trivial)
    (fun g q a g' hg _ hs => hg.trans (vendor_grown hs)) (fun _ _ _ _ => nofun) ?_
  intro g id g' pnr hg hdraw hmapped pnr' hpnr
  cases hpnr
  obtain ⟨orderId,hread,hsource⟩ := hmapped.sourceRef
  have hgrown := hg.trans (vendor_grown hdraw)
  unfold vendor at hdraw
  dsimp only at hdraw
  split at hdraw
  · rename_i hnew
    cases hdraw
    refine ⟨?_,orderId,hgrown.orders _ (horder orderId hread),hsource⟩
    rw [hmapped.id,strip_entityId hnew.1]
    exact List.mem_append_right _ (List.mem_singleton_self _)
  · cases hdraw

/-- What is made of a body with an order the vendor has. -/
theorem meets_orderIn {α : Type} {p : Dict → Prog α} {post : Vendor → Except Failure α → Prop}
    {body : Json} {message : String}
    (hknown : ∀ id,orderIdIn lib body=some id → id∈v.orders)
    (herror : ∀ e,post v (.error e))
    (hp : ∀ order,(∀ id,orderIdOf lib order=.ok id → id∈v.orders) →
      Meets (vendor lib) (fun _ _ => True) post (p order) v) :
    Meets (vendor lib) (fun _ _ => True) post (ofExcept (orderIn body message) >>= p) v := by
  refine Meets.bind (Meets.ofExcept ?_)
  rcases orderIn_cases body message with ⟨order,hdata,horder⟩|⟨-,hmissing⟩
  · rw [horder]
    refine hp order fun id hid => hknown id ?_
    unfold orderIdIn
    rw [hdata]
    dsimp only
    rw [hid]
    rfl
  · rw [hmissing]
    exact herror _

theorem meets_read (d : AmadeusDriver) (locator : String) (v : Vendor) :
    Meets (vendor lib) (fun _ _ => True) (fun v' r => ∀ pnr,r=.ok pnr → Traced v' pnr)
      (read lib d locator) v := by
  refine Meets.bind ((meets_knownOrder v (.inr ⟨locator,rfl⟩)).imp fun v₁ r hr => ?_)
  cases r with
  | error e => exact nofun
  | ok body =>
    exact meets_orderIn (hr body rfl) (fun _ => nofun) fun order horder => meets_mapped v₁ horder

theorem meets_create (d : AmadeusDriver) (fareIds passengerIds : List EntityId) (v : Vendor) :
    Meets (vendor lib) (fun _ _ => True) (fun v' r => ∀ pnr,r=.ok pnr → Traced v' pnr)
      (create lib d fareIds passengerIds) v := by
  refine Meets.bind (meets_of_forall fun v₁ r => ?_)
  cases r with
  | error e => exact nofun
  | ok prepared =>
    obtain ⟨offers,travelers⟩ := prepared
    refine Meets.bind ((meets_knownOrder v₁ (.inl ⟨offers,travelers,rfl⟩)).imp fun v₂ r hr => ?_)
    cases r with
    | error e => exact nofun
    | ok body =>
      refine meets_orderIn (hr body rfl) (fun _ => nofun) fun order horder => ?_
      refine Meets.bind ((meets_grown _ v₂).imp fun v₃ r hgrown => ?_)
      cases r with
      | error e => exact nofun
      | ok _ => exact meets_mapped v₃ fun id hid => hgrown.orders id (horder id hid)

/-- What is no order is not deleted. -/
theorem meets_cancel {pnrId : EntityId} (h : pnrId∉v.orders) :
    Meets (vendor lib) (fun _ _ => True) (fun _ r => ∃ e,r=.error e) (cancel lib d pnrId) v := by
  have hdelete : Meets (vendor lib) (fun _ _ => True) (fun _ r => ∃ e,r=.error e)
      (request lib d.config (.deleteOrder pnrId)) v := by
    refine meets_request (I:=fun _ v' => pnrId∉v'.orders) (fun n g hg => ?_) h
    refine ⟨trivial,fun token g' htoken => ?_⟩
    obtain rfl := Option.some.inj htoken
    cases token with
    | error e => exact ⟨e,rfl⟩
    | ok _ =>
      refine ⟨trivial,fun x g' hsend => ?_⟩
      have hrefused : succeeds x.reply=false ∧ g'.orders=g.orders := by
        unfold vendor at hsend
        dsimp only at hsend
        split at hsend
        · split at hsend
          · rename_i hconfirmed
            cases hsend
            exact ⟨by simpa using fun hs => hg (hconfirmed hs),rfl⟩
          · cases hsend
        · split at hsend
          · rename_i hlive
            exact absurd hlive.2.1 hg
          · cases hsend
      change AttemptPost lib d.config _ _ _ n _ (.ok x)
      unfold AttemptPost
      dsimp only
      rcases judge_cases lib d.config (.deleteOrder pnrId) (n+1) x.reply with
        ⟨r,hreply,hstatus,-⟩|⟨e,-,⟨hagain,-⟩|hfailed⟩
      · rw [hreply] at hrefused
        exact absurd (decide_eq_true hstatus) (Bool.eq_false_iff.mp hrefused.1)
      · rw [hagain]
        exact fun horder => hg (hrefused.2 ▸ horder)
      · rw [hfailed]
        exact ⟨e,rfl⟩
  refine Meets.bind (hdelete.imp fun v₁ r hr => ?_)
  obtain ⟨e,rfl⟩ := hr
  exact ⟨e,rfl⟩

end Answers

/-! ## Lives -/

section Lives

variable {lib : AmadeusLibrary} {s s' : Life}

/-- What holds of every life: no id drawn is an order's, and every reservation has an
id that was drawn and comes from an order. -/
structure Sound (s : Life) : Prop where
  apart : Apart s.vendor
  traced : ∀ pnr∈s.returned,Traced s.vendor pnr

theorem sound_start : Sound {} := ⟨fun _ => nofun,fun _ => nofun⟩

theorem Sound.executed {p : Prog PNR} {r : Except Failure PNR} {v : Vendor} (h : Sound s)
    (hmeets : Meets (vendor lib) (fun _ _ => True) (fun v' r => ∀ pnr,r=.ok pnr → Traced v' pnr) p
      s.vendor)
    (hexec : Exec (vendor lib) p s.vendor r v) : Sound ⟨v,s.returned++returnedBy r⟩ := by
  have hgrown := (meets_grown p s.vendor).exec hexec
  refine ⟨hgrown.apart h.apart,fun pnr hpnr => ?_⟩
  rcases List.mem_append.mp hpnr with hold|hnew
  · exact (h.traced pnr hold).grown hgrown
  · refine hmeets.exec hexec pnr ?_
    cases r with
    | error e => cases hnew
    | ok pnr' =>
      cases List.mem_singleton.mp hnew
      rfl

theorem Sound.step {act : Act} (h : Sound s) (hstep : Step lib s act s') : Sound s' := by
  cases hstep with
  | create hexec => exact h.executed (meets_create _ _ _ _) hexec
  | read hexec => exact h.executed (meets_read _ _ _) hexec
  | cancel hexec =>
    have hgrown := (meets_grown _ s.vendor).exec hexec
    exact ⟨hgrown.apart h.apart,fun pnr hpnr => (h.traced pnr hpnr).grown hgrown⟩
  | withdraw hid => exact ⟨h.apart,h.traced⟩

theorem sound_of_run {acts : List Act} (hrun : Run (Step lib) {} acts s) : Sound s :=
  hrun.invariant sound_start fun _ _ _ hi hs => hi.step hs

end Lives

/-- Whatever happened before and whatever the network does: cancelling a reservation
by its id does what it owes the order it came from if and only if the order was not
cancelled before, or the vendor does not get to say so. -/
theorem cancel_owed_iff (lib : AmadeusLibrary) {acts : List Act} {s : Life}
    (hrun : Run (Step lib) {} acts s) {pnr : PNR} (hpnr : pnr∈s.returned) (d : AmadeusDriver)
    {r : Except Failure PNR} {v : Vendor}
    (hexec : Exec (vendor lib) (cancel lib d pnr.id) s.vendor r v) :
    (∃ id,CameFrom s.vendor pnr id) ∧ ∀ id,CameFrom s.vendor pnr id →
      (Owed id s.vendor v r ↔ ¬(id∈s.vendor.cancelled ∧ Missed s.vendor v)) := by
  have hsound := sound_of_run hrun
  obtain ⟨hdrawn,hcame⟩ := hsound.traced pnr hpnr
  obtain ⟨e,rfl⟩ := (meets_cancel (hsound.apart _ hdrawn)).exec hexec
  refine ⟨hcame,fun id _ => ⟨?_,fun hnot => ?_⟩⟩
  · rintro howed ⟨hcancelled,hmissed⟩
    obtain ⟨-,pnr',hok,-⟩ := howed.again hcancelled hmissed
    cases hok
  · exact ⟨fun _ => nofun,fun _ => nofun,fun hcancelled hmissed => absurd ⟨hcancelled,hmissed⟩ hnot⟩

/-- The vendor books an order with everything in it, and has no other. -/
def oneOrder : Request → Exchange
  | .bookOrder _ _ => ⟨some "eJzTd9f3NjIJ",.response ⟨201,.json (.obj [("data",.obj [
      ("type",.str "flight-order"),("id",.str "eJzTd9f3NjIJ"),
      ("travelers",.arr [.obj [("id",.str "1")]]),
      ("flightOffers",.arr [.obj [("itineraries",.arr [.obj [("segments",.arr [.obj []])]])]])])]),
      none⟩⟩
  | _ => ⟨none,.response ⟨404,.empty,none⟩⟩

def deskReservation : PNR where
  id := idNumbered 8
  tenantId := deskDriver.tenantId
  locator := "eJzTd9f3NjIJ"
  source := driverName
  sourceRef := some "eJzTd9f3NjIJ"
  status := .confirmed
  passengerIds := [idNumbered 5]
  segmentIds := [idNumbered 6]
  fareIds := []
  ticketTimeLimit := none
  createdAt := 0
  updatedAt := 0

/-- The vendor after the booking. -/
def deskOrders : Vendor where
  orders := ["eJzTd9f3NjIJ"]
  drawn := [idNumbered 5,idNumbered 6,idNumbered 8]

theorem desk_booked : Run (Step deskLibrary) {} [.create deskDriver [deskFare] [deskPassenger.id]]
    ⟨deskOrders,[deskReservation]⟩ := by
  have hexec : execute (vendor deskLibrary) (answerNumbered oneOrder fun _ => some deskOffer) 0
      (create deskLibrary deskDriver [deskFare] [deskPassenger.id]) {}=
      some (.ok deskReservation,deskOrders) := by
    decide +kernel
  have hstep : Step deskLibrary {} (.create deskDriver [deskFare] [deskPassenger.id])
      ⟨deskOrders,[]++returnedBy (.ok deskReservation)⟩ := .create (exec_of_execute hexec)
  exact Run.start.next hstep

/-- The vendor knows no order of the reservation's id. -/
theorem desk_missed {v : Vendor} (h : v=deskOrders ∨ v={deskOrders with cancelled := ["eJzTd9f3NjIJ"]}) :
    Exec (vendor deskLibrary) (cancel deskLibrary deskDriver deskReservation.id) v
      (.error (.driver (mapAmadeusError deskLibrary ⟨404,.empty,none⟩)))
      {v with deletions := [.response ⟨404,.empty,none⟩]} := by
  have hexec : execute (vendor deskLibrary) (answerNumbered oneOrder fun _ => none) 0
      (cancel deskLibrary deskDriver deskReservation.id) v=
      some (.error (.driver (mapAmadeusError deskLibrary ⟨404,.empty,none⟩)),
        {v with deletions := [.response ⟨404,.empty,none⟩]}) := by
    rcases h with rfl|rfl <;> decide +kernel
  exact exec_of_execute hexec

/-- An order that is not cancelled. -/
theorem cancel_owed_iff_live :
    (∃ id,CameFrom deskOrders deskReservation id) ∧ ∀ id,CameFrom deskOrders deskReservation id →
      (Owed id deskOrders {deskOrders with deletions := [.response ⟨404,.empty,none⟩]}
        (.error (.driver (mapAmadeusError deskLibrary ⟨404,.empty,none⟩))) ↔
        ¬(id∈deskOrders.cancelled ∧
          Missed deskOrders {deskOrders with deletions := [.response ⟨404,.empty,none⟩]})) :=
  cancel_owed_iff deskLibrary desk_booked (List.mem_singleton_self _) deskDriver (desk_missed (.inl rfl))

/-- The vendor has cancelled the order; `cancel` raises all the same. -/
theorem cancelled_order_missed : ∃ acts s v e,Run (Step deskLibrary) {} acts s ∧
    deskReservation∈s.returned ∧ CameFrom s.vendor deskReservation "eJzTd9f3NjIJ" ∧
    "eJzTd9f3NjIJ"∈s.vendor.cancelled ∧
    Exec (vendor deskLibrary) (cancel deskLibrary deskDriver deskReservation.id) s.vendor (.error e) v ∧
    e.kind?=some .notFound ∧ ¬Owed "eJzTd9f3NjIJ" s.vendor v (.error e) := by
  have hrun : Run (Step deskLibrary) {} _
      ⟨{deskOrders with cancelled := ["eJzTd9f3NjIJ"]},[deskReservation]⟩ :=
    desk_booked.next (.withdraw (List.mem_singleton_self "eJzTd9f3NjIJ"))
  refine ⟨_,_,_,_,hrun,List.mem_singleton_self _,⟨List.mem_singleton_self _,by decide⟩,
    List.mem_singleton_self _,desk_missed (.inr rfl),rfl,fun howed => ?_⟩
  obtain ⟨-,pnr,hok,-⟩ := howed.again (List.mem_singleton_self _)
    ⟨_,rfl,⟨404,.empty,none⟩,List.mem_singleton_self _,rfl⟩
  cases hok

end Voyagent.BookingCancellation
