import Voyagent.BookingRuns
import Voyagent.BookedOrders

/-!
# Offers booked once

Over every interleaving of searches and bookings, how many orders the vendor
creates from one cached offer. An offer is booked again by a booking that read it
while another was under way or after it was booked, and by an attempt that is
repeated after the vendor took the first.
-/

namespace Voyagent.OfferBookings

open RuntimeValues CanonicalTravel EffectPrograms KeptFirsts TransitionRuns AmadeusClient
  AmadeusMapping AmadeusBookings BookingRuns

/-- The offers a call found in the cache. -/
def foundBy (w : World) (i : Nat) : List Origin := (w.view i).found.map fun e => e.2.origin

/-- The orders made of an offer. -/
def ordersOf (w : World) (o : Origin) : List Order :=
  w.backend.orders.filter fun order => decide (o∈order.origins)

/-- What a booking finds is in nobody else's hands and not booked yet; what it posts
it has not booked itself by an earlier attempt. -/
def calm (w : World) (i : Nat) : (q : Question) → Answer q → Bool
  | .cacheGet _,.ok (some offer) =>
    ((List.range w.count).all fun j =>
        j==i || !w.running j || decide (offer.origin∉foundBy w j)) &&
      (ordersOf w offer.origin).isEmpty
  | .send (.bookOrder _ _),_ => w.backend.orders.all fun order => decide (order.thread≠i)
  | _,_ => true

/-- The condition on a step. -/
def undisturbed (w : World) : Act → Bool
  | .answer i answers =>
    match w.pool.thread i with
    | .ask q _ => calm w i q (answers q)
    | _ => true
  | _ => true

/-- Each order is made of offers its call found; no offer is in two orders, nor in
the hands of two running calls, nor in a running call's hands and another's order. -/
structure Apart (w : World) : Prop where
  own : ∀ order∈w.backend.orders,order.thread<w.count ∧
    ∀ o∈order.origins,o∈foundBy w order.thread
  orders : w.backend.orders.Pairwise fun order other => ∀ o∈order.origins,o∉other.origins
  running : ∀ i j,i≠j → w.running i=true → w.running j=true → ∀ o∈foundBy w i,o∉foundBy w j
  unbooked : ∀ i,w.running i=true → ∀ order∈w.backend.orders,order.thread≠i →
    ∀ o∈foundBy w i,o∉order.origins

section Steps

variable {lib : AmadeusLibrary} {w w' : World} {i : Nat} {q : Question} {a : Answer q}

theorem apart_start : Apart {} := ⟨nofun,.nil,fun _ _ _ => nofun,fun _ => nofun⟩

/-- A step that finds nothing and orders nothing keeps the offers apart; a call may end. -/
theorem Apart.quiet (h : Apart w) (horders : w'.backend.orders=w.backend.orders)
    (hcount : w.count≤w'.count) (hfound : ∀ j<w.count,foundBy w' j=foundBy w j)
    (hrunning : ∀ j,w'.running j=true → w.running j=true ∧ j<w.count ∨ foundBy w' j=[]) :
    Apart w' := by
  have hkeeps : ∀ j,w'.running j=true → ∀ o∈foundBy w' j,w.running j=true ∧ o∈foundBy w j := by
    intro j hj o ho
    rcases hrunning j hj with ⟨hold,hlt⟩|hnone
    · exact ⟨hold,hfound j hlt ▸ ho⟩
    · rw [hnone] at ho
      cases ho
  refine ⟨fun order horder => ?_,horders ▸ h.orders,fun j k hjk hj hk o hoj hok => ?_,
    fun j hj order horder hne o ho => ?_⟩
  · rw [horders] at horder
    obtain ⟨hthread,hown⟩ := h.own order horder
    rw [hfound _ hthread]
    exact ⟨hthread.trans_le hcount,hown⟩
  · obtain ⟨hj',hoj'⟩ := hkeeps j hj o hoj
    obtain ⟨hk',hok'⟩ := hkeeps k hk o hok
    exact h.running j k hjk hj' hk' o hoj' hok'
  · rw [horders] at horder
    obtain ⟨hj',ho'⟩ := hkeeps j hj o ho
    exact h.unbooked j hj' order horder hne o ho'

/-- The offers found by a call change only with its own view. -/
theorem foundBy_of_ne (h : Answered lib w i q a w') {j : Nat} (hj : j≠i) :
    foundBy w' j=foundBy w j := by
  unfold foundBy
  rw [h.view j hj]

/-- An answer that shows its own call no offer shows none to any. -/
theorem foundBy_same (h : Answered lib w i q a w') (hfound : (w'.view i).found=(w.view i).found)
    (j : Nat) : foundBy w' j=foundBy w j := by
  by_cases hj : j=i
  · subst hj
    unfold foundBy
    rw [hfound]
  · exact foundBy_of_ne h hj

/-- An answer that shows no offer and makes no order. -/
theorem Apart.answered (h : Apart w) (hw : Orderly lib w) (hstep : Answered lib w i q a w')
    (horders : w'.backend.orders=w.backend.orders) (hfound : (w'.view i).found=(w.view i).found) :
    Apart w' := by
  have hsame := foundBy_same hstep hfound
  refine h.quiet horders hstep.count.ge (fun j _ => hsame j) fun j hj => .inl ?_
  have hold := running_of_answered hstep hj
  exact ⟨hold,started_of_running hw hold⟩

/-- An offer that nobody holds is found. -/
theorem Apart.found {key : String} {offer : Tagged Dict} (h : Apart w) (hw : Orderly lib w)
    (hstep : Answered lib w i (.cacheGet key) (.ok (some offer)) w')
    (hcalm : calm w i (.cacheGet key) (.ok (some offer))=true) : Apart w' := by
  obtain ⟨hothers,hunbooked⟩ := Bool.and_eq_true_iff.mp hcalm
  have horders : w'.backend.orders=w.backend.orders := serve_orders hstep.serve nofun
  have hown : foundBy w' i=foundBy w i++[offer.origin] := by
    unfold foundBy
    rw [← Option.some.inj hstep.look,List.map_append]
    rfl
  have hfree : ∀ j,j≠i → w.running j=true → offer.origin∉foundBy w j := by
    intro j hj hrunning
    have hall := List.all_eq_true.mp hothers j (List.mem_range.mpr (started_of_running hw hrunning))
    rw [hrunning] at hall
    simpa [hj] using hall
  have hnone : ∀ order∈w.backend.orders,offer.origin∉order.origins := by
    intro order horder ho
    have hmem : order∈ordersOf w offer.origin := List.mem_filter.mpr ⟨horder,decide_eq_true ho⟩
    rw [List.isEmpty_iff.mp hunbooked] at hmem
    cases hmem
  have hnew : ∀ j,w'.running j=true → ∀ o∈foundBy w' j,
      w.running j=true ∧ (o∈foundBy w j ∨ j=i ∧ o=offer.origin) := by
    intro j hj o ho
    refine ⟨running_of_answered hstep hj,?_⟩
    by_cases hi : j=i
    · subst hi
      rw [hown] at ho
      exact (List.mem_append.mp ho).imp_right fun h => ⟨rfl,List.mem_singleton.mp h⟩
    · rw [foundBy_of_ne hstep hi] at ho
      exact .inl ho
  refine ⟨fun order horder => ?_,horders ▸ h.orders,fun j k hjk hj hk o hoj hok => ?_,
    fun j hj order horder hne o ho => ?_⟩
  · rw [horders] at horder
    obtain ⟨hthread,hmem⟩ := h.own order horder
    refine ⟨hstep.count ▸ hthread,fun o ho => ?_⟩
    by_cases hi : order.thread=i
    · rw [hi,hown]
      exact List.mem_append_left _ (hi ▸ hmem o ho)
    · rw [foundBy_of_ne hstep hi]
      exact hmem o ho
  · obtain ⟨hj',hoj'⟩ := hnew j hj o hoj
    obtain ⟨hk',hok'⟩ := hnew k hk o hok
    rcases hoj' with hoj'|⟨rfl,rfl⟩
    · rcases hok' with hok'|⟨rfl,rfl⟩
      · exact h.running j k hjk hj' hk' o hoj' hok'
      · exact hfree j hjk hj' hoj'
    · rcases hok' with hok'|⟨rfl,-⟩
      · exact hfree k hjk.symm hk' hok'
      · exact hjk rfl
  · rw [horders] at horder
    obtain ⟨hj',ho'⟩ := hnew j hj o ho
    rcases ho' with ho'|⟨rfl,rfl⟩
    · exact h.unbooked j hj' order horder hne o ho'
    · exact hnone order horder

/-- What a booking posts it has found. -/
theorem posted_found {offers : List (Tagged Json)} {travelers : List Json}
    (h : Proper lib i (w.view i) (.send (.bookOrder offers travelers))) :
    ∀ o∈offers.map Tagged.origin,o∈foundBy w i := by
  obtain ⟨d,fareIds,passengerIds,-,-,horigins⟩ := h
  intro o ho
  rw [horigins] at ho
  obtain ⟨e,he,rfl⟩ := List.mem_map.mp ho
  have hmem := (List.of_mem_zip (mem_of_keepFirst he)).2
  obtain ⟨entry,hentry,heq⟩ := List.mem_map.mp hmem
  exact List.mem_map.mpr ⟨entry,hentry,congrArg Tagged.origin heq⟩

/-- An order is made by a booking that made none before. -/
theorem Apart.booked {offers : List (Tagged Json)} {travelers : List Json} {x : Exchange}
    (h : Apart w) (hw : Orderly lib w)
    (hstep : Answered lib w i (.send (.bookOrder offers travelers)) x w')
    (hcalm : calm w i (.send (.bookOrder offers travelers)) x=true) : Apart w' := by
  have hfound : (w'.view i).found=(w.view i).found := by rw [← Option.some.inj hstep.look]
  have hserve := Option.some.inj hstep.serve
  split at hserve
  · rename_i hacted
    have horders : w'.backend.orders=w.backend.orders++[⟨i,offers.map Tagged.origin⟩] := by
      rw [← hserve]
    have hfirst : ∀ order∈w.backend.orders,order.thread≠i := by
      intro order horder
      exact of_decide_eq_true (List.all_eq_true.mp hcalm order horder)
    have hposted := posted_found hstep.proper
    have hsame := foundBy_same hstep hfound
    have hi := started_of_running hw hstep.asked
    refine ⟨fun order horder => ?_,?_,fun j k hjk hj hk => ?_,fun j hj order horder hne => ?_⟩
    · rw [horders] at horder
      rw [hstep.count,hsame]
      rcases List.mem_append.mp horder with hold|hnew
      · exact h.own order hold
      · cases List.mem_singleton.mp hnew
        exact ⟨hi,hposted⟩
    · rw [horders]
      refine List.pairwise_append.mpr ⟨h.orders,List.pairwise_singleton _ _,fun order horder new hnew => ?_⟩
      cases List.mem_singleton.mp hnew
      exact fun o ho hposts => h.unbooked i hstep.asked order horder (hfirst order horder) o
        (hposted o hposts) ho
    · rw [hsame,hsame]
      exact h.running j k hjk (running_of_answered hstep hj) (running_of_answered hstep hk)
    · rw [horders] at horder
      rw [hsame]
      have hj' := running_of_answered hstep hj
      rcases List.mem_append.mp horder with hold|hnew
      · exact h.unbooked j hj' order hold hne
      · cases List.mem_singleton.mp hnew
        exact fun o ho hposts => h.running j i (Ne.symm hne) hj' hstep.asked o ho (hposted o hposts)
  · exact h.answered hw hstep (by rw [← hserve]) hfound

theorem Apart.answer (h : Apart w) (hw : Orderly lib w) (hstep : Answered lib w i q a w')
    (hcalm : calm w i q a=true) : Apart w' := by
  by_cases hget : ∃ key,q=.cacheGet key
  · obtain ⟨key,rfl⟩ := hget
    have horders : w'.backend.orders=w.backend.orders := serve_orders hstep.serve nofun
    cases a with
    | error e => exact h.answered hw hstep horders (by rw [← Option.some.inj hstep.look])
    | ok found =>
      cases found with
      | none => exact h.answered hw hstep horders (by rw [← Option.some.inj hstep.look])
      | some offer => exact h.found hw hstep hcalm
  · have hfound := look_found hstep.look fun key hq => hget ⟨key,hq⟩
    by_cases hpost : ∃ offers travelers,q=.send (.bookOrder offers travelers)
    · obtain ⟨offers,travelers,rfl⟩ := hpost
      exact h.booked hw hstep hcalm
    · exact h.answered hw hstep
        (serve_orders hstep.serve fun offers travelers hq => hpost ⟨offers,travelers,hq⟩) hfound

/-- An undisturbed step keeps the offers apart. -/
theorem Apart.step {act : Act} (h : Apart w) (hw : Orderly lib w) (hstep : Step lib w act w')
    (hcalm : undisturbed w act=true) : Apart w' := by
  cases act with
  | start call =>
    cases hstep
    refine h.quiet rfl (Nat.le_succ _) (fun j hj => ?_) fun j hj => ?_
    · unfold foundBy World.view
      rw [Pool.shared_set]
      dsimp only
      rw [if_neg hj.ne]
    · by_cases hnew : j=w.count
      · refine .inr ?_
        unfold foundBy World.view
        rw [Pool.shared_set]
        dsimp only
        rw [if_pos hnew]
        rfl
      · unfold World.running at hj
        rw [Pool.thread_set_of_ne _ _ _ hnew] at hj
        exact .inl ⟨hj,started_of_running hw hj⟩
  | answer i answers =>
    obtain ⟨q,rest,hask,hanswered⟩ := hw.answered hstep
    unfold undisturbed at hcalm
    dsimp only at hcalm
    rw [hask] at hcalm
    exact h.answer hw hanswered hcalm
  | expire key =>
    cases hstep
    exact h.quiet rfl (Nat.le_refl _) (fun _ _ => rfl) fun j hj => .inl ⟨hj,started_of_running hw hj⟩

end Steps

/-- However searches and bookings are interleaved, whatever the network and the cache
do: as long as every booking finds offers that no other has found and is still running,
or has booked, and repeats no attempt that the vendor took, no offer is booked twice. -/
theorem booked_once_undisturbed (lib : AmadeusLibrary) {acts : List Act} {w : World}
    (hrun : Run (guarded (Step lib) fun w act => undisturbed w act=true) {} acts w) (o : Origin) :
    (ordersOf w o).length≤1 := by
  have hkept : Orderly lib w ∧ Apart w := by
    refine hrun.guarded_invariant (I:=fun w => Orderly lib w ∧ Apart w)
      ⟨orderly_start lib,apart_start⟩ fun u act u' hu hstep hcalm => ?_
    exact ⟨hu.1.step hstep,hu.2.step hu.1 hstep hcalm⟩
  have hall : ∀ order∈ordersOf w o,o∈order.origins :=
    fun order horder => of_decide_eq_true (List.mem_filter.mp horder).2
  have hpairwise : (ordersOf w o).Pairwise fun order other => ∀ o∈order.origins,o∉other.origins :=
    hkept.2.orders.sublist List.filter_sublist
  cases horders : ordersOf w o with
  | nil => exact Nat.zero_le 1
  | cons first rest =>
    cases rest with
    | nil => exact Nat.le_refl 1
    | cons second rest =>
      rw [horders] at hpairwise hall
      have hapart := (List.pairwise_cons.mp hpairwise).1 second List.mem_cons_self
      exact absurd (hall second (List.mem_cons_of_mem _ List.mem_cons_self))
        (hapart o (hall first List.mem_cons_self))

/-- An offer for one traveler. -/
def offerNumbered (id : String) : Json :=
  .obj [("type",.str "flight-offer"),("id",.str id),
    ("travelerPricings",.arr [.obj [("price",.obj [("currency",.str "USD"),("base",.str "300.00"),
      ("total",.str "300.00")])]])]

theorem firstOfSeptember : CalendarDates.IsDate 2026 9 1 := by decide

/-- A search of one traveler. -/
def deskCriteria : FareSearchCriteria where
  passengers := [(.adult,1)]
  origin := "BOM"
  destination := "DXB"
  outboundDate := ⟨2026,9,1,firstOfSeptember⟩

/-- The vendor finds one offer, and answers a booking in a given way. -/
def oneOffer (id : String) (booking : Exchange) : Request → Exchange
  | .bookOrder _ _ => booking
  | _ => ⟨none,.response ⟨200,.json (.obj [("data",.arr [offerNumbered id])]),none⟩⟩

/-- The offer of a search as it is cached. -/
def cachedOffer (n : Nat) (id : String) : Option (Tagged Dict) :=
  match offerNumbered id with
  | .obj fields => some ⟨(n,0),fields⟩
  | _ => none

/-- A search, and a booking of its fare whose attempts are answered in given ways. -/
def searchAndBook (bookings : List Exchange) : List Act :=
  let answer := fun i booking entry n =>
    .answer i (BookedOrders.answerNumbered (oneOffer "1" booking) (fun _ => entry) n)
  .start (.search BookedOrders.deskDriver deskCriteria)::
    (List.range 6).map (answer 0 ⟨none,.timeout⟩ none)++
    .start (.create BookedOrders.deskDriver [BookedOrders.idNumbered 4] [BookedOrders.deskPassenger.id])::
      [answer 1 ⟨none,.timeout⟩ (cachedOffer 0 "1") 0,answer 1 ⟨none,.timeout⟩ none 0]++
      bookings.flatMap fun x => [answer 1 x none 0,answer 1 x none 0]

/-- The vendor takes the booking. -/
def taken (orderId : String) (reply : Reply) : Exchange := ⟨some orderId,reply⟩

/-- A booking whose first attempt is answered. -/
theorem booked_once_undisturbed_alone : ∃ w,
    Run (guarded (Step BookedOrders.deskLibrary) fun w act => undisturbed w act=true) {}
      (searchAndBook [taken "first" (.response ⟨201,.empty,none⟩)]) w ∧
      (ordersOf w (0,0)).length≤1 := by
  have hrun : (((searchAndBook [taken "first" (.response ⟨201,.empty,none⟩)]).foldlM
      (fun w act => if undisturbed w act then step BookedOrders.deskLibrary w act else none)
      ({} : World)).map fun w => w.backend.orders)=some [⟨1,[(0,0)]⟩] := by
    decide +kernel
  obtain ⟨w,hw,-⟩ := Option.map_eq_some_iff.mp hrun
  exact ⟨w,guarded_run_of_foldlM hw,booked_once_undisturbed _ (guarded_run_of_foldlM hw) (0,0)⟩

/-- The first attempt is lost after the vendor took it; the second is taken too. -/
theorem lost_reply_booked_twice : ∃ w,
    Run (Step BookedOrders.deskLibrary) {}
      (searchAndBook [taken "first" .timeout,taken "second" (.response ⟨201,.empty,none⟩)]) w ∧
      (ordersOf w (0,0)).length=2 := by
  have hrun : (((searchAndBook [taken "first" .timeout,
      taken "second" (.response ⟨201,.empty,none⟩)]).foldlM
      (step BookedOrders.deskLibrary) ({} : World)).map fun w => w.backend.orders)=
      some [⟨1,[(0,0)]⟩,⟨1,[(0,0)]⟩] := by
    decide +kernel
  obtain ⟨w,hw,horders⟩ := Option.map_eq_some_iff.mp hrun
  refine ⟨w,run_of_foldlM hw,?_⟩
  unfold ordersOf
  rw [horders]
  rfl

end Voyagent.OfferBookings
