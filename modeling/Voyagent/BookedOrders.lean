import Voyagent.AmadeusBookings

/-!
# Orders behind a booking

What `create` makes of the answers to its booking post. The environment keeps
the attempts of that post; everything else may be answered in any way. No
reservation carries the ids it was asked for, and a reply that cannot be used
raises as if nothing was booked.
-/

namespace Voyagent.BookedOrders

open RuntimeValues KeyedMap CanonicalTravel EffectPrograms AmadeusClient AmadeusMapping
  AmadeusBookings

/-- An attempt of the booking post: the token was refused, or the exchange. -/
abbrev Attempt : Type := Except Failure Exchange

section Attempts

variable (lib : AmadeusLibrary)

/-- The id of the order in the body of an answer. -/
def orderIdIn (body : Json) : Option String :=
  match fieldOf body "data" with
  | .obj order => (orderIdOf lib order).toOption
  | _ => none

/-- The id of the created order a reply carries. -/
def answeredOrder : Reply → Option String
  | .response ⟨status,.json body,_⟩ =>
    if status<400 ∧ status≠204 then orderIdIn lib body else none
  | _ => none

/-- The environment of the booking post. An answer carries an order only if the
vendor created it. -/
def bookingPost : Environment Answer (List Attempt) := fun s q =>
  match q with
  | .token (.bookOrder _ _) => fun
    | .error e => some (s++[.error e])
    | .ok _ => some s
  | .send (.bookOrder _ _) => fun x =>
    if (answeredOrder lib x.reply).isSome → x.acted=answeredOrder lib x.reply then
      some (s++[.ok x])
    else none
  | _ => fun _ => some s

/-- An attempt created an order. -/
def Created (s : List Attempt) : Prop := ∃ x,.ok x∈s ∧ x.acted.isSome

/-- A booked order is not orphaned: an order in the answer comes back as the
reservation that was asked for, and what refuses the booking has created none. -/
structure Kept (fareIds passengerIds : List EntityId) (s : List Attempt)
    (r : Except Failure PNR) : Prop where
  returned : ∀ x id,.ok x∈s → answeredOrder lib x.reply=some id → ∃ pnr,r=.ok pnr ∧
    pnr.sourceRef=some id ∧ pnr.passengerIds=passengerIds ∧ pnr.fareIds=fareIds
  refused : ∀ e,r=.error e → e.refuses=true → ¬Created s

/-- A reply on which `create` raises as if the booking was refused: a success
without an order, or an error of such a class. -/
def refusing : Reply → Bool
  | .response r =>
    if r.status<400 then (answeredOrder lib (.response r)).isNone
    else (Failure.driver (mapAmadeusError lib r)).refuses
  | _ => false

/-- The same for an attempt. -/
def refusingAttempt : Attempt → Bool
  | .error e => e.refuses
  | .ok x => refusing lib x.reply

/-- No attempt is answered with an order that has an id, and if one created an
order all the same, the last one does not read like a refusal. -/
structure Harmless (s : List Attempt) : Prop where
  unanswered : ∀ x,.ok x∈s → answeredOrder lib x.reply=none
  last : Created s → ∀ a,s.getLast?=some a → refusingAttempt lib a=false

end Attempts

/-! ## Replies -/

variable {lib : AmadeusLibrary} {cfg : AmadeusConfig} {req : Request} {n : Nat} {reply : Reply}

/-- An order lacks its id, or its id is read. -/
theorem orderIdOf_error {order : Dict} {e : Failure} (h : orderIdOf lib order=.error e) :
    e.refuses=true := by
  unfold orderIdOf require at h
  dsimp only at h
  split at h
  · cases h
    rfl
  · split at h
    · cases h
      rfl
    · cases h

/-- What a success is decoded to carries the order of the reply, if there is one. -/
theorem decode_cases (lib : AmadeusLibrary) (req : Request) {r : Response} (h : r.status<400) :
    (∃ body,decode lib req r=.done body ∧ answeredOrder lib (.response r)=orderIdIn lib body) ∨
    ∃ e,decode lib req r=.failed e ∧ answeredOrder lib (.response r)=none ∧ e.refuses=true := by
  obtain ⟨status,content,retryAfter⟩ := r
  cases content with
  | empty => exact .inl ⟨.null,rfl,rfl⟩
  | json value =>
    unfold decode answeredOrder
    by_cases hempty : status=204
    · exact .inl ⟨.null,if_pos hempty,if_neg fun hs => hs.2 hempty⟩
    · exact .inl ⟨value,if_neg hempty,if_pos ⟨h,hempty⟩⟩
  | text s =>
    unfold decode
    by_cases hempty : status=204
    · exact .inl ⟨.null,if_pos hempty,rfl⟩
    · exact .inr ⟨_,if_neg hempty,rfl,rfl⟩

theorem unanswered_of_error {r : Response} (h : ¬r.status<400) :
    answeredOrder lib (.response r)=none := by
  obtain ⟨status,content,retryAfter⟩ := r
  cases content with
  | json value => exact if_neg fun hs => h hs.1
  | _ => rfl

theorem unanswered_of_lost (h : ∀ r,reply≠.response r) : answeredOrder lib reply=none := by
  cases reply with
  | response r => exact absurd rfl (h r)
  | _ => rfl

/-- The order in a reply is the one in the body the client hands on. -/
theorem judge_done {body : Json} (h : judge lib cfg req n reply=.done body) :
    answeredOrder lib reply=orderIdIn lib body ∧ refusing lib reply=(orderIdIn lib body).isNone := by
  rcases judge_cases lib cfg req n reply with ⟨r,rfl,hstatus,hdecode⟩|⟨e,-,⟨hagain,-⟩|hfailed⟩
  · rcases decode_cases lib req hstatus with ⟨body',hbody,hanswered⟩|⟨e,hfailed,-⟩
    · cases (hdecode.trans hbody).symm.trans h
      refine ⟨hanswered,?_⟩
      rw [← hanswered]
      exact if_pos hstatus
    · cases (hdecode.trans hfailed).symm.trans h
  · cases hagain.symm.trans h
  · cases hfailed.symm.trans h

/-- An error that ends the request is a refusal if the reply reads like one. -/
theorem judge_failed {e : Failure} (h : judge lib cfg req n reply=.failed e) :
    answeredOrder lib reply=none ∧ refusing lib reply=e.refuses := by
  rcases judge_cases lib cfg req n reply with ⟨r,rfl,hstatus,hdecode⟩|⟨e',herror,⟨hagain,-⟩|hfailed⟩
  · rcases decode_cases lib req hstatus with ⟨body,hbody,-⟩|⟨e',hfailed,hnone,hrefuses⟩
    · cases (hdecode.trans hbody).symm.trans h
    · cases (hdecode.trans hfailed).symm.trans h
      refine ⟨hnone,?_⟩
      rw [hrefuses]
      exact (if_pos hstatus).trans (by rw [hnone]; rfl)
  · cases hagain.symm.trans h
  · cases hfailed.symm.trans h
    rcases herror with ⟨r,rfl,hstatus,rfl⟩|⟨hlost,hrefuses⟩
    · exact ⟨unanswered_of_error hstatus,if_neg hstatus⟩
    · refine ⟨unanswered_of_lost hlost,?_⟩
      rw [hrefuses]
      cases reply with
      | response r => exact absurd rfl (hlost r)
      | _ => rfl

/-- A reply that is tried again carries no order. -/
theorem judge_again_unanswered {e : Failure} (h : judge lib cfg req n reply=.again e) :
    answeredOrder lib reply=none := by
  rcases judge_cases lib cfg req n reply with ⟨r,rfl,-,hdecode⟩|⟨e',herror,-⟩
  · exact absurd (hdecode.symm.trans h) (decode_ne_again r)
  · rcases herror with ⟨r,rfl,hstatus,-⟩|⟨hlost,-⟩
    · exact unanswered_of_error hstatus
    · exact unanswered_of_lost hlost

/-! ## What the post meets -/

/-- No attempt was answered with an order. -/
def Unanswered (lib : AmadeusLibrary) (s : List Attempt) : Prop :=
  ∀ x,.ok x∈s → answeredOrder lib x.reply=none

/-- How the post ended: with the error of the last attempt, or with its body. -/
def PostEnded (lib : AmadeusLibrary) (s : List Attempt) (r : Except Failure Json) : Prop :=
  ∃ before a,s=before++[a] ∧ Unanswered lib before ∧
    match r with
    | .error e => refusingAttempt lib a=e.refuses ∧ Unanswered lib [a]
    | .ok body => ∃ x,a=.ok x ∧ answeredOrder lib x.reply=orderIdIn lib body ∧
        refusing lib x.reply=(orderIdIn lib body).isNone

theorem unanswered_append {s : List Attempt} {x : Exchange} (h : Unanswered lib s)
    (hx : answeredOrder lib x.reply=none) : Unanswered lib (s++[.ok x]) := by
  intro y hy
  rcases List.mem_append.mp hy with hold|hnew
  · exact h y hold
  · cases List.mem_singleton.mp hnew
    exact hx

/-- The booking post ends with its last attempt. -/
theorem bookOrder_ends (lib : AmadeusLibrary) (cfg : AmadeusConfig) (offers : List (Tagged Json))
    (travelers : List Json) :
    Meets (bookingPost lib) (fun _ _ => True) (PostEnded lib)
      (request lib cfg (.bookOrder offers travelers)) [] := by
  refine meets_request (I:=fun _ s => Unanswered lib s) (fun n s hs => ?_) nofun
  refine ⟨trivial,fun token s' htoken => ?_⟩
  cases token with
  | error e =>
    obtain rfl := Option.some.inj htoken
    exact ⟨s,.error e,rfl,hs,rfl,nofun⟩
  | ok _ =>
    obtain rfl := Option.some.inj htoken
    refine ⟨trivial,fun x s'' hsend => ?_⟩
    have hs'' : s++[(.ok x : Attempt)]=s'' := by
      change (if _ then some (s++[(.ok x : Attempt)]) else none)=some s'' at hsend
      split at hsend
      · exact Option.some.inj hsend
      · cases hsend
    subst hs''
    change AttemptPost lib cfg _ _ _ n _ (.ok x)
    unfold AttemptPost
    dsimp only
    cases hjudge : judge lib cfg (.bookOrder offers travelers) (n+1) x.reply with
    | done body => exact ⟨s,.ok x,rfl,hs,x,rfl,judge_done hjudge⟩
    | failed e =>
      obtain ⟨hnone,hrefusing⟩ := judge_failed hjudge
      exact ⟨s,.ok x,rfl,hs,hrefusing,unanswered_append (s:=[]) nofun hnone⟩
    | again e => exact unanswered_append hs (judge_again_unanswered hjudge)

/-- What is not the booking post leaves its attempts alone. -/
theorem bookingPost_other {q : Question} {a : Answer q} {s s' : List Attempt}
    (hq : Question.Within (fun r => ∀ offers travelers,r≠.bookOrder offers travelers) q)
    (h : bookingPost lib s q a=some s') : s'=s := by
  cases q with
  | token r | send r =>
    cases r with
    | bookOrder offers travelers => exact absurd rfl (hq offers travelers)
    | _ => exact (Option.some.inj h).symm
  | _ => exact (Option.some.inj h).symm

/-- A part of `create` that does not post the booking. -/
theorem quiet_meets {α : Type} {p : Prog α} {s : List Attempt}
    (h : Requests (fun r => ∀ offers travelers,r≠.bookOrder offers travelers) p) :
    Meets (bookingPost lib) (fun _ _ => True) (fun s' _ => s'=s) p s :=
  Uses.meets h rfl (fun _ _ _ _ => trivial) fun _ _ _ _ hs hq hstep =>
    (bookingPost_other hq hstep).trans hs

/-- How `create` goes on: with the order it was answered with, it returns no fares
or raises; without one it raises as if refused. -/
def Accepted (lib : AmadeusLibrary) (response : Json) (r : Except Failure PNR) : Prop :=
  match r with
  | .ok pnr => pnr.fareIds=[] ∧ (orderIdIn lib response).isSome
  | .error e => orderIdIn lib response=none → e.refuses=true

theorem acceptOrder_accepted (d : AmadeusDriver) (fareIds : List EntityId) (response : Json)
    (s : List Attempt) : Meets (bookingPost lib) (fun _ _ => True)
      (fun s' r => s'=s ∧ Accepted lib response r) (acceptOrder lib d fareIds response) s := by
  refine (quiet_meets (requests_acceptOrder fareIds response)).and (fun _ _ => True) ?_
  refine Meets.bind (Meets.ofExcept ?_)
  rcases orderIn_cases response "Amadeus create: unexpected payload shape — missing 'data'." with
    ⟨order,hdata,horder⟩|⟨-,herror⟩
  · have hid : orderIdIn lib response=(orderIdOf lib order).toOption := by
      unfold orderIdIn
      rw [hdata]
    rw [horder]
    refine Meets.bind ((dropEntries_ok fareIds s).imp fun s' r hr => ?_)
    rw [hr]
    refine meets_amadeusOrderToPnr (I:=fun _ => True) trivial (fun _ _ _ _ => trivial)
      (fun _ _ _ _ _ _ _ => trivial) (fun _ e _ herror => ?_) fun _ id _ pnr _ _ hmapped => ?_
    · intro hnone
      rw [hid] at hnone
      cases hread : orderIdOf lib order with
      | ok orderId =>
        rw [hread] at hnone
        cases hnone
      | error e' =>
        rw [herror e' hread]
        exact orderIdOf_error hread
    · obtain ⟨orderId,hread,-⟩ := hmapped.sourceRef
      refine ⟨hmapped.fareIds,?_⟩
      rw [hid,hread]
      rfl
  · rw [herror]
    exact fun _ => rfl

/-- What a call of `create` has done when it ends: it posted nothing, or it posted
for some fares and ends as the last attempt lets it. -/
def Ended (lib : AmadeusLibrary) (fareIds : List EntityId) (s : List Attempt)
    (r : Except Failure PNR) : Prop :=
  s=[] ∨ fareIds≠[] ∧ ∃ before a,s=before++[a] ∧ Unanswered lib before ∧
    match r with
    | .ok pnr => pnr.fareIds=[] ∧ ∃ x,a=.ok x ∧ (answeredOrder lib x.reply).isSome
    | .error e => Unanswered lib [a] → refusingAttempt lib a=e.refuses

theorem readyToCreate_ok {d : AmadeusDriver} {fareIds passengerIds : List EntityId}
    (h : readyToCreate d fareIds passengerIds=.ok ()) :
    d.offerCache=true ∧ d.passengerResolver=true ∧ fareIds≠[] ∧ passengerIds≠[] := by
  unfold readyToCreate at h
  split at h
  · cases h
  · split at h
    · cases h
    · split at h
      · cases h
      · split at h
        · cases h
        · rename_i hcache hresolver hfares hpassengers
          exact ⟨by simpa using hcache,by simpa using hresolver,hfares,hpassengers⟩

theorem create_ended (lib : AmadeusLibrary) (d : AmadeusDriver) (fareIds passengerIds : List EntityId) :
    Meets (bookingPost lib) (fun _ _ => True) (Ended lib fareIds)
      (create lib d fareIds passengerIds) [] := by
  have hprepare : Meets (bookingPost lib) (fun _ _ => True)
      (fun s r => s=[] ∧ ∀ p,r=.ok p → fareIds≠[]) (prepareOrder lib d fareIds passengerIds) [] := by
    refine (quiet_meets (requests_prepareOrder (fun _ => nofun) fareIds passengerIds)).and (fun _ _ => True) ?_
    refine Meets.bind (Meets.ofExcept ?_)
    cases hready : readyToCreate d fareIds passengerIds with
    | error e => exact nofun
    | ok _ => exact meets_of_forall fun _ _ _ _ => (readyToCreate_ok hready).2.2.1
  refine Meets.bind (hprepare.imp fun s r hr => ?_)
  obtain ⟨rfl,hfares⟩ := hr
  cases r with
  | error e => exact .inl rfl
  | ok prepared =>
    refine Meets.bind ((bookOrder_ends lib d.config prepared.1 prepared.2).imp fun s r hr => ?_)
    obtain ⟨before,a,rfl,hbefore,hend⟩ := hr
    cases r with
    | error e => exact .inr ⟨hfares _ rfl,before,a,rfl,hbefore,fun _ => hend.1⟩
    | ok body =>
      obtain ⟨x,rfl,hanswered,hrefusing⟩ := hend
      refine (acceptOrder_accepted d fareIds body _).imp fun s r hr => ?_
      obtain ⟨rfl,hr⟩ := hr
      refine .inr ⟨hfares _ rfl,before,.ok x,rfl,hbefore,?_⟩
      cases r with
      | ok pnr => exact ⟨hr.1,x,rfl,hanswered ▸ hr.2⟩
      | error e =>
        intro hnone
        have hlast : orderIdIn lib body=none :=
          hanswered.symm.trans (hnone x (List.mem_singleton_self _))
        exact (hrefusing.trans (by rw [hlast]; rfl)).trans (hr hlast).symm

/-- Whatever the vendor and the network do, a booked order is kept if and only if no
attempt was answered with an order, and none that created one was followed by a
last attempt that reads like a refusal. -/
theorem booking_kept_iff (lib : AmadeusLibrary) (d : AmadeusDriver)
    (fareIds passengerIds : List EntityId) {s : List Attempt} {r : Except Failure PNR}
    (h : Exec (bookingPost lib) (create lib d fareIds passengerIds) [] r s) :
    Kept lib fareIds passengerIds s r ↔ Harmless lib s := by
  rcases (create_ended lib d fareIds passengerIds).exec h with rfl|⟨hfares,before,a,rfl,hbefore,hend⟩
  · have hnone : ¬Created [] := fun ⟨x,hx,_⟩ => List.not_mem_nil hx
    exact iff_of_true ⟨fun x id hx => absurd hx List.not_mem_nil,fun _ _ _ => hnone⟩
      ⟨fun x hx => absurd hx List.not_mem_nil,fun hcreated => absurd hcreated hnone⟩
  · have hlast : (before++[a]).getLast?=some a := List.getLast?_concat
    constructor
    · intro hkept
      have hunanswered : Unanswered lib (before++[a]) := by
        intro x hx
        by_contra hanswered
        obtain ⟨id,hid⟩ := Option.ne_none_iff_exists'.mp hanswered
        obtain ⟨pnr,rfl,-,-,hsame⟩ := hkept.returned x id hx hid
        exact hfares (hsame.symm.trans hend.1)
      refine ⟨hunanswered,fun hcreated a' ha' => ?_⟩
      obtain rfl := Option.some.inj (hlast.symm.trans ha')
      cases r with
      | ok pnr =>
        obtain ⟨-,x,rfl,hsome⟩ := hend
        rw [hunanswered x (List.mem_append_right _ (List.mem_singleton_self _))] at hsome
        cases hsome
      | error e =>
        have hrefusing := hend fun x hx => hunanswered x (List.mem_append_right _ hx)
        rw [hrefusing]
        by_contra hrefuses
        exact hkept.refused e rfl (by simpa using hrefuses) hcreated
    · intro hharmless
      refine ⟨fun x id hx hid => ?_,fun e he hrefuses hcreated => ?_⟩
      · rw [hharmless.unanswered x hx] at hid
        cases hid
      · subst he
        have hrefusing := hend fun x hx => hharmless.unanswered x (List.mem_append_right _ hx)
        have hnot := hharmless.last hcreated a hlast
        rw [hrefusing,hrefuses] at hnot
        cases hnot

/-- The parsers on the data of a test booking. -/
def deskLibrary : AmadeusLibrary where
  repr := fun _ => "?"
  decimal := fun s => if s="300.00" then .finite ⟨30000,-2⟩ else .malformed
  isFloat := fun _ => false
  fromIso := fun _ => none
  upper := fun s => s.toUpper

def deskDriver : AmadeusDriver :=
  ⟨{},"01920000-0000-7000-8000-000000000001",true,true⟩

def deskPassenger : Passenger where
  id := "01920000-0000-7000-8000-0000000000bb"
  tenantId := "01920000-0000-7000-8000-000000000001"
  givenName := "Jane"
  familyName := "Doe"
  dateOfBirth := some ⟨1990,1,15,by decide⟩

def deskOffer : Tagged Dict := ⟨(0,0),[("type",.str "flight-offer"),("id",.str "42")]⟩

/-- Identifiers of any number below ninety. -/
def idNumbered (n : Nat) : EntityId := "01920000-0000-7000-8000-0000000000"++toString (10+n)

/-- The answer with number `n`, where the vendor and the cache answer in a given way. -/
def answerNumbered (vendor : Request → Exchange) (entry : String → Option (Tagged Dict)) (n : Nat) :
    (q : Question) → Answer q
  | .token _ => .ok ()
  | .send r => vendor r
  | .cacheGet key => .ok (entry key)
  | .cachePut _ _ _ => .ok ()
  | .cacheDelete _ => .ok ()
  | .now => 0
  | .newId _ => idNumbered n
  | .resolve _ _ => .ok [deskPassenger]

/-- Everything goes well, and the vendor answers the post in a given way. -/
def deskAnswers (x : Exchange) : Nat → (q : Question) → Answer q :=
  answerNumbered (fun _ => x) fun _ => some deskOffer

def deskFare : EntityId := "01920000-0000-7000-8000-0000000000aa"

/-- The vendor created the order, and its answer names no travelers. -/
def sparseOrder : Exchange :=
  ⟨some "eJzTd9f3NjIJ",.response ⟨201,.json (.obj [("data",.obj [("type",.str "flight-order"),
    ("id",.str "eJzTd9f3NjIJ")])]),none⟩⟩

/-- The vendor rejects the booking. -/
def rejection : Exchange :=
  ⟨none,.response ⟨400,.json (.obj [("errors",.arr [.obj [("code",.int 477),
    ("title",.str "INVALID FORMAT")]])]),none⟩⟩

/-- A rejected booking is kept. -/
theorem booking_kept_iff_rejected :
    ∃ r s,Exec (bookingPost deskLibrary) (create deskLibrary deskDriver [deskFare] [deskPassenger.id])
      [] r s ∧ (Kept deskLibrary [deskFare] [deskPassenger.id] s r ↔ Harmless deskLibrary s) := by
  have hexec : ∃ r,execute (bookingPost deskLibrary) (deskAnswers rejection) 0
      (create deskLibrary deskDriver [deskFare] [deskPassenger.id]) []=some r := by
    refine Option.isSome_iff_exists.mp ?_
    decide +kernel
  obtain ⟨⟨r,s⟩,hexec⟩ := hexec
  exact ⟨r,s,exec_of_execute hexec,booking_kept_iff _ _ _ _ (exec_of_execute hexec)⟩

/-- The order exists, and `create` raises a `ValidationFailedError`. -/
theorem sparse_order_orphaned :
    ∃ e s,Exec (bookingPost deskLibrary) (create deskLibrary deskDriver [deskFare] [deskPassenger.id])
      [] (.error e) s ∧ e.kind?=some .validationFailed ∧ Created s ∧
      ¬Kept deskLibrary [deskFare] [deskPassenger.id] s (.error e) := by
  have hexec : execute (bookingPost deskLibrary) (deskAnswers sparseOrder) 0
      (create deskLibrary deskDriver [deskFare] [deskPassenger.id]) []=
      some (.error (.of .validationFailed
        "Amadeus order eJzTd9f3NjIJ: travelers missing or empty."),[.ok sparseOrder]) := by
    decide +kernel
  have hcreated : Created [.ok sparseOrder] := ⟨sparseOrder,List.mem_singleton_self _,rfl⟩
  exact ⟨_,_,exec_of_execute hexec,rfl,hcreated,fun h => h.refused _ rfl rfl hcreated⟩

end Voyagent.BookedOrders
