import Voyagent.AmadeusBookings
import Voyagent.KeptFirsts
import Voyagent.TransitionRuns

/-!
# Interleaved searches and bookings

Any number of calls of `search` and `create` run at once, over one offer cache
and one vendor. A call waits for the answer to each of its questions; entries of
the cache expire at any moment. Beside the shared state each call has a view of
its own: what it drew and what it was answered. By its view alone it is decided
what a call may ask.
-/

namespace Voyagent.BookingRuns

open RuntimeValues KeyedMap CanonicalFields CanonicalTravel EffectPrograms KeptFirsts TransitionRuns
  AmadeusClient AmadeusMapping AmadeusBookings

/-! ## Calls -/

inductive Call where
  | search (d : AmadeusDriver) (criteria : FareSearchCriteria)
  | create (d : AmadeusDriver) (fareIds passengerIds : List EntityId)

/-- What a call returns. -/
inductive Outcome where
  | fares (fares : List (Tagged Fare))
  | booked (pnr : PNR)

/-- An order at the vendor: the call that posted it, and its offers. -/
structure Order where
  thread : Nat
  origins : List Origin
  deriving DecidableEq

/-- What one call has seen: the fare ids it drew, the offers its search was
answered with, and the entries it found in the cache. -/
structure View where
  call : Option Call := none
  drawn : List (EntityId × Origin) := []
  answer : List Json := []
  found : List (String × Tagged Dict) := []

/-- The state the calls share. -/
structure Backend where
  cache : String → Option (Tagged Dict) := fun _ => none
  drawn : List (EntityId × Option Origin) := []
  /-- The ids in the vendor's answers. -/
  vendorIds : List String := []
  orders : List Order := []

section Environment

variable (lib : AmadeusLibrary)

/-- A call of either kind; a search is numbered by its thread. -/
def runCall (i : Nat) : Call → Prog Outcome
  | .search d criteria => do
    let fares ← search lib d i criteria
    pure (.fares fares)
  | .create d fareIds passengerIds => do
    let pnr ← create lib d fareIds passengerIds
    pure (.booked pnr)

/-- The offers `search` takes from a body. -/
def offersIn (body : Json) : Except Failure (List Json) := do
  let found ← memberOf (orElse body (.obj [])) "data"
  elements (orElse found (.arr []))

/-- The offers in a reply. -/
def offersOf (req : Request) : Reply → List Json
  | .response r =>
    if r.status<400 then
      match decode lib req r with
      | .done body => (offersIn body).toOption.getD []
      | _ => []
    else []
  | _ => []

/-- The id of an offer, where it has one that counts. -/
def vendorId (offer : Dict) : Option String := (given offer "id").map lib.str

/-- The ids in an answer. -/
def idsIn (offers : List Json) : List String := (objects offers).filterMap (vendorId lib)

/-- What a call sees of the answer to its question. -/
def look : Environment Answer View := fun v q =>
  match q with
  | .send (.searchOffers params) => fun x =>
    some {v with answer := offersOf lib (.searchOffers params) x.reply}
  | .cacheGet key => fun
    | .ok (some offer) => some {v with found := v.found++[(key,offer)]}
    | _ => some v
  | .newId (some origin) => fun id =>
    if isEntityId id then some {v with drawn := v.drawn++[(id,origin)]} else none
  | .newId none => fun id => if isEntityId id then some v else none
  | _ => fun _ => some v

/-- What the shared state makes of it. The cache may fail to store or to delete
only if nobody can tell it from an entry that expires. An offer has an id of its
own within one answer; identifiers are drawn anew, unlike the vendor's. -/
def serve (i : Nat) : Environment Answer Backend := fun b q =>
  match q with
  | .send (.searchOffers params) => fun x =>
    let ids := idsIn lib (offersOf lib (.searchOffers params) x.reply)
    if ids.Nodup ∧ ∀ id∈ids,id∉b.drawn.map Prod.fst then some {b with vendorIds := b.vendorIds++ids}
    else none
  | .send (.bookOrder offers _) => fun x =>
    some (if x.acted.isSome then {b with orders := b.orders++[⟨i,offers.map Tagged.origin⟩]} else b)
  | .cacheGet key => fun
    | .ok found => if found=b.cache key then some b else none
    | .error _ => some b
  | .cachePut key offer _ => fun _ =>
    some {b with cache := fun k => if k=key then some offer else b.cache k}
  | .cacheDelete key => fun
    | .ok _ => some {b with cache := fun k => if k=key then none else b.cache k}
    | .error _ => some b
  | .newId fareOf => fun id =>
    if id∉b.drawn.map Prod.fst ∧ id∉b.vendorIds then some {b with drawn := b.drawn++[(id,fareOf)]}
    else none
  | _ => fun _ => some b

end Environment

/-! ## Runs -/

abbrev Desk : Type := Backend × (Nat → View)

/-- The calls that were started, numbered in order, over the shared state. -/
structure World where
  count : Nat := 0
  pool : Pool Question Answer Failure Outcome Desk Nat :=
    ⟨({},fun _ => {}),fun _ => .done (.fares [])⟩

inductive Act where
  | start (call : Call)
  /-- A call gets an answer to its question. -/
  | answer (i : Nat) (answers : (q : Question) → Answer q)
  | expire (key : String)

def World.backend (w : World) : Backend := w.pool.shared.1

def World.view (w : World) (i : Nat) : View := w.pool.shared.2 i

section Steps

variable (lib : AmadeusLibrary)

def step (w : World) : Act → Option World
  | .start call => some ⟨w.count+1,
      w.pool.set (w.backend,fun j => if j=w.count then {call := some call} else w.view j) w.count
        (runCall lib w.count call)⟩
  | .answer i answers =>
    (w.pool.advance (viewed (serve lib) (look lib)) i answers).map fun pool => {w with pool := pool}
  | .expire key => some {w with pool := {w.pool with
      shared := ({w.backend with cache := fun k => if k=key then none else w.backend.cache k},
        w.view)}}

abbrev Step : World → Act → World → Prop := ofPartial (step lib)

end Steps

/-! ## What a call may ask -/

section Parts

variable (lib : AmadeusLibrary)

/-- What the offers found for the fares are told apart by. -/
abbrev offerKey (e : EntityId × Tagged Dict) : String := offerId lib e.1 e.2

/-- What is posted: of the offers found for the fares, the first with each id. -/
def chosen (fareIds : List EntityId) (found : List (Tagged Dict)) : List (EntityId × Tagged Dict) :=
  keepFirst (offerKey lib) [] (fareIds.zip found)

/-- A search asks the vendor before it draws a fare, and puts the offers of its own
answer under its own fares; a booking posts what it found for the fares of its call. -/
def Proper (i : Nat) (v : View) : Question → Prop
  | .send (.searchOffers _) => v.drawn=[]
  | .send (.bookOrder offers _) => ∃ d fareIds passengerIds,
      v.call=some (.create d fareIds passengerIds) ∧
        v.found.map Prod.fst=fareIds.map offerCacheKey ∧
        offers.map Tagged.origin=
          (chosen lib fareIds (v.found.map Prod.snd)).map fun e => e.2.origin
  | .cachePut key offer _ => offer.origin.1=i ∧
      v.answer[offer.origin.2]?=some (.obj offer.value) ∧
        ∃ f,key=offerCacheKey f ∧ (f,offer.origin)∈v.drawn
  | _ => True

/-- A search returns fares it drew. -/
def Promised (v : View) : Except Failure Outcome → Prop
  | .ok (.fares fares) => ∀ fare∈fares,(fare.value.id,fare.origin)∈v.drawn
  | _ => True

/-- Questions that any call may ask, and whose answers it does not keep. -/
def Plain (q : Question) : Prop :=
  (∀ i v,Proper lib i v q) ∧ ∀ v a v',look lib v q a=some v' → v'=v

variable {lib} {d : AmadeusDriver} {i : Nat} {v : View} {α : Type}

theorem plain_now : Plain lib .now := ⟨fun _ _ => trivial,fun _ _ _ h => (Option.some.inj h).symm⟩

theorem plain_newId : Plain lib (.newId none) := by
  refine ⟨fun _ _ => trivial,fun v id v' h => ?_⟩
  unfold look at h
  dsimp only at h
  split at h
  · exact (Option.some.inj h).symm
  · cases h

theorem plain_token (r : Request) : Plain lib (.token r) :=
  ⟨fun _ _ => trivial,fun _ _ _ h => (Option.some.inj h).symm⟩

theorem plain_priceOffer (offer : Tagged Json) : Plain lib (.send (.priceOffer offer)) :=
  ⟨fun _ _ => trivial,fun _ _ _ h => (Option.some.inj h).symm⟩

theorem plain_cacheDelete (key : String) : Plain lib (.cacheDelete key) :=
  ⟨fun _ _ => trivial,fun _ _ _ h => (Option.some.inj h).symm⟩

/-- A part of plain questions leaves the view as it is. -/
theorem meets_plain {p : Prog α} (h : Uses (Plain lib) p) :
    Meets (look lib) (Proper lib i) (fun v' _ => v'=v) p v :=
  Uses.meets h rfl (fun g _ _ hq => hq.1 i g) fun _ _ _ _ hg hq hs => (hq.2 _ _ _ hs).trans hg

/-! ### Searching -/

theorem look_newId {origin : Origin} {id : EntityId} {v' : View}
    (h : look lib v (.newId (some origin)) id=some v') :
    isEntityId id=true ∧ v'={v with drawn := v.drawn++[(id,origin)]} := by
  unfold look at h
  dsimp only at h
  split at h
  · rename_i hid
    exact ⟨hid,(Option.some.inj h).symm⟩
  · cases h

/-- Drawing and caching keep the answer that the fares come from. -/
theorem draws_of_answer (answer : List Json) (origin : Origin) (tenantId : EntityId) :
    Draws (look lib) (Proper lib i) (fun v => v.answer=answer)
      (fun v x => (x.value.id,x.origin)∈v.drawn) origin tenantId := by
  refine ⟨fun v _ => trivial,fun v id v' hv hid => ?_,fun v id v' fare hv hid hfare _ => ?_⟩
  · rw [(look_newId hid).2]
    exact ⟨hv,fun x hx => List.mem_append_left _ hx⟩
  · obtain ⟨hvalid,rfl⟩ := look_newId hid
    rw [hfare,strip_entityId hvalid]
    exact List.mem_append_right _ (List.mem_singleton_self _)

theorem caches_of_answer {answer : List Json} {k : Nat} {fields : Dict}
    (h : answer[k]?=some (.obj fields)) :
    Caches (look lib) (Proper lib i) (fun v => v.answer=answer)
      (fun v x => (x.value.id,x.origin)∈v.drawn) ⟨(i,k),fields⟩ := by
  refine ⟨fun v x hv horigin hx => ⟨rfl,?_,x.value.id,rfl,horigin ▸ hx⟩,fun v key ttl a v' hv hput => ?_⟩
  · rw [hv]
    exact h
  · obtain rfl := Option.some.inj hput
    exact .refl hv

/-- The body a search goes on with is the one of the last reply. -/
theorem offersOf_judge {cfg : AmadeusConfig} {req : Request} {n : Nat} {reply : Reply} {body : Json}
    (h : judge lib cfg req n reply=.done body) :
    offersOf lib req reply=(offersIn body).toOption.getD [] := by
  rcases judge_cases lib cfg req n reply with ⟨r,rfl,hstatus,hdecode⟩|⟨e,-,⟨hagain,-⟩|hfailed⟩
  · unfold offersOf
    dsimp only
    rw [if_pos hstatus,← hdecode,h]
  · cases hagain.symm.trans h
  · cases hfailed.symm.trans h

theorem meets_searchOffers {cfg : AmadeusConfig} {params : Table String String} (hv : v.drawn=[]) :
    Meets (look lib) (Proper lib i)
      (fun v' r => ∀ body,r=.ok body → v'.answer=(offersIn body).toOption.getD [])
      (request lib cfg (.searchOffers params)) v := by
  refine meets_request (I:=fun _ v' => v'.drawn=[]) (fun n g hg => ?_) hv
  refine ⟨trivial,fun token g' htoken => ?_⟩
  obtain rfl := Option.some.inj htoken
  cases token with
  | error e => exact nofun
  | ok _ =>
    refine ⟨hg,fun x g' hsend => ?_⟩
    obtain rfl := Option.some.inj hsend
    change AttemptPost lib cfg _ _ _ n _ (.ok x)
    unfold AttemptPost
    dsimp only
    cases hjudge : judge lib cfg (.searchOffers params) (n+1) x.reply with
    | done body =>
      intro body' hbody
      cases hbody
      exact offersOf_judge hjudge
    | failed e => exact nofun
    | again e => exact hg

theorem meets_search {criteria : FareSearchCriteria} (hv : v.drawn=[]) :
    Meets (look lib) (Proper lib i)
      (fun v' r => ∀ fares,r=.ok fares → ∀ fare∈fares,(fare.value.id,fare.origin)∈v'.drawn)
      (search lib d i criteria) v := by
  unfold search
  split
  · exact nofun
  · refine Meets.bind ((meets_searchOffers hv).imp fun v₁ r hanswer => ?_)
    cases r with
    | error e => exact nofun
    | ok body =>
      have hanswer : v₁.answer=(offersIn body).toOption.getD [] := hanswer body rfl
      unfold offersIn at hanswer
      refine Meets.bind (Meets.ofExcept ?_)
      cases hfound : memberOf (orElse body (.obj [])) "data" with
      | error e => exact nofun
      | ok found =>
        refine Meets.bind (Meets.ofExcept ?_)
        cases hoffers : elements (orElse found (.arr [])) with
        | error e => exact nofun
        | ok offers =>
          have hanswer : v₁.answer=offers := by
            rw [hanswer,hfound]
            change (elements (orElse found (.arr []))).toOption.getD []=offers
            rw [hoffers]
            rfl
          have hplain : Uses (Plain lib) (newEntityId none) := uses_newEntityId plain_newId
          refine Meets.bind ((meets_plain hplain).imp fun v₂ r hr => ?_)
          subst hr
          cases r with
          | error e => exact nofun
          | ok itineraryId =>
            refine Meets.bind ((meets_plain (uses_drawIds plain_newId _)).imp fun v₃ r hr => ?_)
            subst hr
            cases r with
            | error e => exact nofun
            | ok paxIds =>
              refine Meets.bind ((meets_faresOfOffers offers.zipIdx (fun fields k hk =>
                ⟨draws_of_answer offers _ _,caches_of_answer (List.mem_zipIdx_iff_getElem?.mp hk)⟩)
                hanswer).imp fun v₄ r hr => ?_)
              cases r with
              | error e => exact nofun
              | ok fares =>
                intro kept hkept fare hfare
                cases hkept
                exact hr.2 fares rfl fare (List.mem_filter.mp (List.mem_of_mem_take hfare)).1

/-! ### Booking -/

/-- Reading the cache finds one entry for each fare, and of these the first with
each id is to be booked. -/
theorem meets_collectOffers (fareIds : List EntityId) (seen : List String) (v : View) :
    Meets (look lib) (Proper lib i)
      (fun v' r => v'.call=v.call ∧ ∀ offers,r=.ok offers → ∃ found,
        v'.found=v.found++found ∧ found.map Prod.fst=fareIds.map offerCacheKey ∧
          offers=(keepFirst (offerKey lib) seen (fareIds.zip (found.map Prod.snd))).map Prod.snd)
      (collectOffers lib fareIds seen) v := by
  induction fareIds generalizing seen v with
  | nil =>
    refine ⟨rfl,fun offers hoffers => ⟨[],(List.append_nil _).symm,rfl,?_⟩⟩
    cases hoffers
    rfl
  | cons fid fids ih =>
    refine Meets.bind ⟨trivial,fun x v₁ hx => Meets.bind (Meets.ofExcept ?_)⟩
    cases x with
    | error e =>
      obtain rfl := Option.some.inj hx
      exact ⟨rfl,nofun⟩
    | ok found =>
      cases found with
      | none =>
        obtain rfl := Option.some.inj hx
        exact ⟨rfl,nofun⟩
      | some cached =>
        obtain rfl := Option.some.inj hx
        dsimp only
        by_cases hseen : offerKey lib (fid,cached)∈seen
        · rw [if_pos hseen]
          refine (ih seen _).imp fun v₂ r hr => ⟨hr.1,fun offers hoffers => ?_⟩
          obtain ⟨found,hfound,hkeys,rfl⟩ := hr.2 offers hoffers
          refine ⟨(offerCacheKey fid,cached)::found,?_,congrArg _ hkeys,?_⟩
          · rw [hfound,List.append_assoc]
            rfl
          · exact congrArg (List.map Prod.snd) (keepFirst_of_seen hseen _).symm
        · rw [if_neg hseen]
          refine Meets.bind ((ih _ _).imp fun v₂ r hr => ?_)
          cases r with
          | error e => exact ⟨hr.1,nofun⟩
          | ok offers =>
            refine ⟨hr.1,fun all hall => ?_⟩
            cases hall
            obtain ⟨found,hfound,hkeys,rfl⟩ := hr.2 offers rfl
            refine ⟨(offerCacheKey fid,cached)::found,?_,congrArg _ hkeys,?_⟩
            · rw [hfound,List.append_assoc]
              rfl
            · exact congrArg (List.map Prod.snd) (keepFirst_of_unseen hseen _).symm

/-- What is posted stands for the offers collected, in their order. -/
theorem refreshOffers_origins {γ : Type} {env : Environment Answer γ} (offers : List (Tagged Dict))
    (g : γ) : Meets env (fun _ _ => True)
      (fun _ r => ∀ fresh,r=.ok fresh → fresh.map Tagged.origin=offers.map Tagged.origin)
      (refreshOffers lib d offers) g := by
  have hone : ∀ offer g,Meets env (fun _ _ => True)
      (fun _ r => ∀ fresh,r=.ok fresh → fresh.origin=offer.origin) (refreshOffer lib d offer) g := by
    intro offer g
    refine Meets.bind (meets_of_forall fun g r => ?_)
    cases r with
    | error e => exact nofun
    | ok stale =>
      dsimp only
      split
      · refine Meets.bind (meets_of_forall fun g r => ?_)
        cases r with
        | error e => exact nofun
        | ok response =>
          dsimp only
          split
          · intro fresh hfresh
            cases hfresh
            rfl
          · exact nofun
      · intro fresh hfresh
        cases hfresh
        rfl
  induction offers generalizing g with
  | nil =>
    intro fresh hfresh
    cases hfresh
    rfl
  | cons offer offers ih =>
    refine Meets.bind ((hone offer g).imp fun g r hr => ?_)
    cases r with
    | error e => exact nofun
    | ok first =>
      refine Meets.bind ((ih g).imp fun g r hrest => ?_)
      cases r with
      | error e => exact nofun
      | ok rest =>
        intro fresh hfresh
        cases hfresh
        rw [List.map_cons,List.map_cons,hr first rfl,hrest rest rfl]

/-- Before it posts, a booking has collected its offers. -/
theorem meets_prepareOrder {fareIds passengerIds : List EntityId} (hv : v.found=[]) :
    Meets (look lib) (Proper lib i)
      (fun v' r => v'.call=v.call ∧ ∀ offers travelers,r=.ok (offers,travelers) →
        v'.found.map Prod.fst=fareIds.map offerCacheKey ∧ offers.map Tagged.origin=
          (chosen lib fareIds (v'.found.map Prod.snd)).map fun e => e.2.origin)
      (prepareOrder lib d fareIds passengerIds) v := by
  refine Meets.bind (Meets.ofExcept ?_)
  cases readyToCreate d fareIds passengerIds with
  | error e => exact ⟨rfl,nofun⟩
  | ok _ =>
    refine Meets.bind ((meets_collectOffers fareIds [] v).imp fun v₁ r hr => ?_)
    obtain ⟨hcall,hcollected⟩ := hr
    cases r with
    | error e => exact ⟨hcall,nofun⟩
    | ok offers =>
      obtain ⟨found,hfound,hkeys,hoffers⟩ := hcollected offers rfl
      rw [hv,List.nil_append] at hfound
      have hplain : Uses (Plain lib) (refreshOffers lib d offers) :=
        uses_refreshOffers (fun offer => ⟨plain_token _,plain_priceOffer offer⟩) plain_now offers
      refine Meets.bind (((meets_plain hplain).and _ (refreshOffers_origins offers v₁)).imp
        fun v₂ r hr => ?_)
      obtain ⟨rfl,horigins⟩ := hr
      cases r with
      | error e => exact ⟨hcall,nofun⟩
      | ok refreshed =>
        refine Meets.bind ⟨trivial,fun resolved v₃ hresolved => Meets.bind (Meets.ofExcept ?_)⟩
        obtain rfl := Option.some.inj hresolved
        cases resolved with
        | error e => exact ⟨hcall,nofun⟩
        | ok passengers =>
          refine Meets.bind (Meets.ofExcept ?_)
          generalize ((passengers.zipIdx 1).mapM fun e => passengerToTraveler e.2 e.1)=travelers
          cases travelers with
          | error e => exact ⟨hcall,nofun⟩
          | ok travelers =>
            refine ⟨hcall,fun offers' travelers' h => ?_⟩
            cases h
            rw [hfound]
            refine ⟨hkeys,(horigins refreshed rfl).trans ?_⟩
            rw [hoffers,List.map_map]
            rfl

theorem meets_create {fareIds passengerIds : List EntityId} (hv : v.found=[])
    (hcall : v.call=some (.create d fareIds passengerIds)) :
    Meets (look lib) (Proper lib i) (fun _ _ => True) (create lib d fareIds passengerIds) v := by
  refine Meets.bind ((meets_prepareOrder hv).imp fun v₁ r hr => ?_)
  obtain ⟨hsame,hprepared⟩ := hr
  cases r with
  | error e => trivial
  | ok prepared =>
    obtain ⟨offers,travelers⟩ := prepared
    obtain ⟨hkeys,horigins⟩ := hprepared offers travelers rfl
    have hposts : Meets (look lib) (Proper lib i) (fun v' _ => v'=v₁)
        (request lib d.config (.bookOrder offers travelers)) v₁ := by
      have huses : Uses (fun q => q=.token (.bookOrder offers travelers) ∨
          q=.send (.bookOrder offers travelers))
          (request lib d.config (.bookOrder offers travelers)) :=
        uses_request (.inl rfl) (.inr rfl)
      refine huses.meets rfl (fun g q hg hq => ?_) (fun g q a g' hg hq hs => ?_)
      · subst hg
        rcases hq with rfl|rfl
        · trivial
        · exact ⟨d,fareIds,passengerIds,hsame.trans hcall,hkeys,horigins⟩
      · rcases hq with rfl|rfl <;> exact (Option.some.inj hs).symm.trans hg
    refine Meets.bind (hposts.imp fun v₂ r hr => ?_)
    subst hr
    cases r with
    | error e => trivial
    | ok response =>
      have hplain : Uses (Plain lib) (acceptOrder lib d fareIds response) :=
        uses_acceptOrder plain_cacheDelete plain_now plain_newId fareIds response
      exact (meets_plain hplain).imp fun _ _ _ => trivial

/-- By its view alone, a call asks what it may and returns what it promised. -/
theorem meets_runCall (i : Nat) (call : Call) :
    Meets (look lib) (Proper lib i) Promised (runCall lib i call) {call := some call} := by
  cases call with
  | search d criteria =>
    refine Meets.bind ((meets_search rfl).imp fun v r hr => ?_)
    cases r with
    | error e => trivial
    | ok fares => exact hr fares rfl
  | create d fareIds passengerIds =>
    refine Meets.bind ((meets_create rfl rfl).imp fun v r _ => ?_)
    cases r with
    | error e => trivial
    | ok pnr => trivial

end Parts

/-! ## What every step keeps -/

section Worlds

/-- A call was started and has not ended. -/
def World.running (w : World) (i : Nat) : Bool := !(w.pool.thread i).ended

variable {lib : AmadeusLibrary} {w w' : World} {i : Nat}

/-- Every call conforms to its view, and those not started are idle. -/
structure Orderly (lib : AmadeusLibrary) (w : World) : Prop where
  conforms : w.pool.Conforms (fun s i => s.2 i) (look lib) (Proper lib) fun _ => Promised
  idle : ∀ i,w.count≤ i → w.view i={} ∧ w.running i=false

theorem orderly_start (lib : AmadeusLibrary) : Orderly lib {} := ⟨fun _ _ => nofun,fun _ _ => ⟨rfl,rfl⟩⟩

/-- A step that answers a question of call `i`. -/
structure Answered (lib : AmadeusLibrary) (w : World) (i : Nat) (q : Question) (a : Answer q)
    (w' : World) : Prop where
  asked : w.running i=true
  proper : Proper lib i (w.view i) q
  look : look lib (w.view i) q a=some (w'.view i)
  serve : serve lib i w.backend q a=some w'.backend
  view : ∀ j,j≠i → w'.view j=w.view j
  running : ∀ j,j≠i → w'.running j=w.running j
  count : w'.count=w.count

section Answers

variable {q : Question} {a : Answer q}

/-- Only a read of the cache shows an offer. -/
theorem look_found {v v' : View} (h : look lib v q a=some v') (hq : ∀ key,q≠.cacheGet key) :
    v'.found=v.found := by
  cases q with
  | cacheGet key => exact absurd rfl (hq key)
  | send r =>
    cases r with
    | _ => rw [← Option.some.inj h]
  | newId fareOf =>
    cases fareOf with
    | none =>
      unfold look at h
      dsimp only at h
      split at h
      · rw [← Option.some.inj h]
      · cases h
    | some origin => rw [(look_newId h).2]
  | _ => rw [← Option.some.inj h]

/-- Only a booking makes an order. -/
theorem serve_orders {b b' : Backend} (h : serve lib i b q a=some b')
    (hq : ∀ offers travelers,q≠.send (.bookOrder offers travelers)) : b'.orders=b.orders := by
  cases q with
  | send r =>
    cases r with
    | bookOrder offers travelers => exact absurd rfl (hq offers travelers)
    | searchOffers params =>
      unfold serve at h
      dsimp only at h
      split at h
      · rw [← Option.some.inj h]
      · cases h
    | _ => rw [← Option.some.inj h]
  | newId fareOf =>
    unfold serve at h
    dsimp only at h
    split at h
    · rw [← Option.some.inj h]
    · cases h
  | cacheGet key =>
    unfold serve at h
    dsimp only at h
    split at h
    · split at h
      · rw [← Option.some.inj h]
      · cases h
    · rw [← Option.some.inj h]
  | cacheDelete key => cases a <;> rw [← Option.some.inj h]
  | _ => rw [← Option.some.inj h]

/-- A running call is one that was running before. -/
theorem running_of_answered (h : Answered lib w i q a w') {j : Nat} (hj : w'.running j=true) :
    w.running j=true := by
  by_cases hi : j=i
  · rw [hi]
    exact h.asked
  · exact (h.running j hi).symm.trans hj

theorem started_of_running (h : Orderly lib w) (hi : w.running i=true) : i<w.count := by
  by_contra hge
  exact Bool.noConfusion ((h.idle i (Nat.le_of_not_lt hge)).2.symm.trans hi)

end Answers

theorem Orderly.answered {answers : (q : Question) → Answer q} (h : Orderly lib w)
    (hstep : step lib w (.answer i answers)=some w') :
    ∃ q rest,w.pool.thread i=.ask q rest ∧ Answered lib w i q (answers q) w' := by
  obtain ⟨pool,hpool,rfl⟩ := Option.map_eq_some_iff.mp hstep
  obtain ⟨q,rest,s,hask,hs,rfl⟩ := Pool.advance_eq_some.mp hpool
  obtain ⟨v,b,hlook,hserve,rfl⟩ := viewed_eq_some.mp hs
  refine ⟨q,rest,hask,?_,h.conforms.asks hask,?_,hserve,fun j hj => if_neg hj,fun j hj => ?_,rfl⟩
  · unfold World.running
    rw [hask]
    rfl
  · exact hlook.trans (congrArg some (if_pos rfl).symm)
  · unfold World.running
    rw [Pool.thread_set_of_ne _ _ _ hj]

theorem Orderly.step {act : Act} (h : Orderly lib w) (hstep : Step lib w act w') : Orderly lib w' := by
  cases act with
  | start call =>
    cases hstep
    refine ⟨fun i => ?_,fun i hi => ?_⟩
    · by_cases hnew : i=w.count
      · subst hnew
        rw [Pool.thread_set,Pool.shared_set]
        dsimp only
        rw [if_pos rfl]
        exact meets_runCall w.count call
      · rw [Pool.thread_set_of_ne _ _ _ hnew,Pool.shared_set]
        dsimp only
        rw [if_neg hnew]
        exact h.conforms i
    · have hne : i≠w.count := by
        rintro rfl
        exact absurd hi (Nat.not_succ_le_self _)
      obtain ⟨hview,hended⟩ := h.idle i (Nat.le_of_succ_le hi)
      refine ⟨(if_neg hne).trans hview,?_⟩
      unfold World.running
      rw [Pool.thread_set_of_ne _ _ _ hne]
      exact hended
  | answer i answers =>
    obtain ⟨q,rest,-,hanswered⟩ := h.answered hstep
    obtain ⟨pool,hpool,rfl⟩ := Option.map_eq_some_iff.mp hstep
    refine ⟨h.conforms.advance (projects_viewed _ _) hpool,fun j hj => ?_⟩
    obtain ⟨hview,hended⟩ := h.idle j hj
    have hne : j≠i := by
      rintro rfl
      exact Bool.noConfusion (hended.symm.trans hanswered.asked)
    exact ⟨(hanswered.view j hne).trans hview,(hanswered.running j hne).trans hended⟩
  | expire key =>
    cases hstep
    exact ⟨h.conforms,h.idle⟩

end Worlds

end Voyagent.BookingRuns
