import Voyagent.OfferBookings

/-!
# The offers a booking collects

Over every interleaving of searches and bookings, what a booking posts against
the offers its fares came from. Offers are told apart by the vendor's id, which
names an offer within one answer only, while the cache holds those of all.
-/

namespace Voyagent.OfferCollection

open RuntimeValues KeyedMap CanonicalFields CanonicalTravel EffectPrograms KeptFirsts TransitionRuns
  AmadeusClient AmadeusMapping AmadeusBookings BookingRuns

/-! ## Fares and their offers -/

/-- The fares a search has returned. -/
def faresReturned (w : World) (i : Nat) : List (Tagged Fare) :=
  match w.pool.thread i with
  | .done (.fares fares) => fares
  | _ => []

/-- A search returned the fare for the offer. -/
def CameFrom (w : World) (f : EntityId) (o : Origin) : Prop :=
  ∃ i,∃ fare∈faresReturned w i,fare.value.id=f ∧ fare.origin=o

/-- The fares of a booking that is about to post, and what it posts. -/
def posting (w : World) (i : Nat) : Option (List EntityId × List (Tagged Json)) :=
  match (w.view i).call,w.pool.thread i with
  | some (.create _ fareIds _),.ask (.send (.bookOrder offers _)) _ => some (fareIds,offers)
  | _,_ => none

/-- The offer as the vendor sent it. -/
def offerAt (w : World) (o : Origin) : Option Dict :=
  match (w.view o.1).answer[o.2]? with
  | some (.obj fields) => some fields
  | _ => none

section Statements

variable (lib : AmadeusLibrary) (w : World) (fareIds : List EntityId)

/-- The id of the offer, unless it is missing or counts as false. -/
def vendorIdAt (o : Origin) : Option String := (offerAt w o).bind (vendorId lib)

/-- What is posted stands for the distinct offers the fares came from, each once and
no other, as the vendor sent them. -/
def HoldsExactly (offers : List (Tagged Json)) : Prop :=
  ∃ collected : List (Tagged Dict),offers.map Tagged.origin=collected.map Tagged.origin ∧
    (∀ offer∈collected,offerAt w offer.origin=some offer.value) ∧
    (collected.map Tagged.origin).Nodup ∧
    ∀ o,o∈collected.map Tagged.origin ↔ ∃ f∈fareIds,CameFrom w f o

/-- The fares' offers are told apart: no two of different searches have one id, and
none that two of the fares came from lacks an id. -/
structure ToldApart : Prop where
  searches : ∀ f∈fareIds,∀ f'∈fareIds,∀ o o',CameFrom w f o → CameFrom w f' o' → o.1≠o'.1 →
    ∀ id,vendorIdAt lib w o=some id → vendorIdAt lib w o'≠some id
  fares : ∀ f∈fareIds,∀ f'∈fareIds,∀ o,CameFrom w f o → CameFrom w f' o → f≠f' →
    (vendorIdAt lib w o).isSome

end Statements

/-! ## What a step changes -/

section Steps

variable {lib : AmadeusLibrary} {w w' : World} {i : Nat} {q : Question} {a : Answer q}

/-- Questions whose answers name nothing. -/
def Nameless (q : Question) : Prop :=
  (∀ params,q≠.send (.searchOffers params)) ∧ ∀ fareOf,q≠.newId fareOf

theorem look_names {v v' : View} (h : look lib v q a=some v') (hq : Nameless q) :
    v'.drawn=v.drawn ∧ v'.answer=v.answer := by
  cases q with
  | send r =>
    cases r with
    | searchOffers params => exact absurd rfl (hq.1 params)
    | _ =>
      cases h
      exact ⟨rfl,rfl⟩
  | newId fareOf => exact absurd rfl (hq.2 fareOf)
  | cacheGet key =>
    cases a with
    | error e =>
      cases h
      exact ⟨rfl,rfl⟩
    | ok found =>
      cases found with
      | none | some offer =>
        cases h
        exact ⟨rfl,rfl⟩
  | _ =>
    cases h
    exact ⟨rfl,rfl⟩

variable {b' : Backend}

theorem serve_names {b : Backend} (h : serve lib i b q a=some b') (hq : Nameless q) :
    b'.drawn=b.drawn ∧ b'.vendorIds=b.vendorIds := by
  cases q with
  | send r =>
    cases r with
    | searchOffers params => exact absurd rfl (hq.1 params)
    | bookOrder offers travelers =>
      rw [← Option.some.inj h]
      split <;> exact ⟨rfl,rfl⟩
    | _ =>
      cases h
      exact ⟨rfl,rfl⟩
  | newId fareOf => exact absurd rfl (hq.2 fareOf)
  | cacheGet key =>
    unfold serve at h
    dsimp only at h
    split at h
    · split at h
      · cases h
        exact ⟨rfl,rfl⟩
      · cases h
    · cases h
      exact ⟨rfl,rfl⟩
  | cacheDelete key =>
    cases a with
    | error e | ok _ =>
      cases h
      exact ⟨rfl,rfl⟩
  | _ =>
    cases h
    exact ⟨rfl,rfl⟩

/-- A fare once drawn stays drawn; from then on the answer of its search is settled. -/
def Later (w w' : World) : Prop :=
  ∀ j,(∀ e∈(w.view j).drawn,e∈(w'.view j).drawn) ∧
    ((w.view j).drawn≠[] → (w'.view j).answer=(w.view j).answer)

theorem look_later {v v' : View} (h : look lib v q a=some v') (hproper : Proper lib i v q) :
    (∀ e∈v.drawn,e∈v'.drawn) ∧ (v.drawn≠[] → v'.answer=v.answer) := by
  by_cases hq : Nameless q
  · obtain ⟨hdrawn,hanswer⟩ := look_names h hq
    rw [hdrawn]
    exact ⟨fun e he => he,fun _ => hanswer⟩
  · cases q with
    | send r =>
      cases r with
      | searchOffers params =>
        cases h
        exact ⟨fun e he => he,fun hne => absurd hproper hne⟩
      | _ => exact absurd ⟨nofun,nofun⟩ hq
    | newId fareOf =>
      cases fareOf with
      | none =>
        obtain rfl := plain_newId.2 v a v' h
        exact ⟨fun e he => he,fun _ => rfl⟩
      | some origin =>
        rw [(look_newId h).2]
        exact ⟨fun e he => List.mem_append_left _ he,fun _ => rfl⟩
    | _ => exact absurd ⟨nofun,nofun⟩ hq

theorem later_of_answered (h : Answered lib w i q a w') : Later w w' := by
  intro j
  by_cases hj : j=i
  · subst hj
    exact look_later h.look h.proper
  · rw [h.view j hj]
    exact ⟨fun e he => he,fun _ => rfl⟩

/-! ## Identifiers -/

/-- Fare ids are drawn once each, and are none of the vendor's. -/
structure Named (lib : AmadeusLibrary) (w : World) : Prop where
  drawn : ∀ i f o,(f,o)∈(w.view i).drawn → (f,some o)∈w.backend.drawn
  fresh : (w.backend.drawn.map Prod.fst).Nodup
  unlike : ∀ id∈w.backend.drawn.map Prod.fst,id∉w.backend.vendorIds
  answers : ∀ i,(idsIn lib (w.view i).answer).Nodup ∧
    ∀ id∈idsIn lib (w.view i).answer,id∈w.backend.vendorIds

theorem Named.same (h : Named lib w)
    (hview : ∀ j,(w'.view j).drawn=(w.view j).drawn ∧ (w'.view j).answer=(w.view j).answer)
    (hbackend : w'.backend.drawn=w.backend.drawn ∧ w'.backend.vendorIds=w.backend.vendorIds) :
    Named lib w' := by
  obtain ⟨hdrawn,hids⟩ := hbackend
  refine ⟨fun j f o ho => ?_,hdrawn ▸ h.fresh,fun id hid => ?_,fun j => ?_⟩
  · rw [(hview j).1] at ho
    exact hdrawn ▸ h.drawn j f o ho
  · rw [hids]
    exact h.unlike id (hdrawn ▸ hid)
  · rw [(hview j).2,hids]
    exact h.answers j

theorem Named.drew {fareOf : Option Origin} {id : EntityId} (h : Named lib w)
    (hstep : Answered lib w i (.newId fareOf) id w') : Named lib w' := by
  have hserve := hstep.serve
  unfold serve at hserve
  dsimp only at hserve
  split at hserve
  · rename_i hnew
    have hbackend := Option.some.inj hserve
    have hdrawn : w'.backend.drawn=w.backend.drawn++[(id,fareOf)] := by rw [← hbackend]
    have hids : w'.backend.vendorIds=w.backend.vendorIds := by rw [← hbackend]
    have hown : (w'.view i).answer=(w.view i).answer ∧ ∀ f o,(f,o)∈(w'.view i).drawn →
        (f,o)∈(w.view i).drawn ∨ f=id ∧ fareOf=some o := by
      cases fareOf with
      | none =>
        rw [plain_newId.2 _ _ _ hstep.look]
        exact ⟨rfl,fun f o ho => .inl ho⟩
      | some origin =>
        rw [(look_newId hstep.look).2]
        refine ⟨rfl,fun f o ho => (List.mem_append.mp ho).imp_right fun hlast => ?_⟩
        cases List.mem_singleton.mp hlast
        exact ⟨rfl,rfl⟩
    refine ⟨fun j f o ho => ?_,?_,fun x hx => ?_,fun j => ?_⟩
    · rw [hdrawn]
      by_cases hj : j=i
      · subst hj
        rcases hown.2 f o ho with hold|⟨rfl,rfl⟩
        · exact List.mem_append_left _ (h.drawn j f o hold)
        · exact List.mem_append_right _ (List.mem_singleton_self _)
      · rw [hstep.view j hj] at ho
        exact List.mem_append_left _ (h.drawn j f o ho)
    · rw [hdrawn,List.map_append]
      refine List.nodup_append.mpr ⟨h.fresh,List.nodup_singleton _,fun x hx y hy => ?_⟩
      cases List.mem_singleton.mp hy
      exact fun heq : x=id => hnew.1 (heq ▸ hx)
    · rw [hids]
      rw [hdrawn,List.map_append] at hx
      rcases List.mem_append.mp hx with hold|hlast
      · exact h.unlike x hold
      · cases List.mem_singleton.mp hlast
        exact hnew.2
    · rw [hids]
      by_cases hj : j=i
      · subst hj
        rw [hown.1]
        exact h.answers j
      · rw [hstep.view j hj]
        exact h.answers j
  · cases hserve

theorem Named.searched {params : KeyedMap.Table String String} {x : Exchange} (h : Named lib w)
    (hstep : Answered lib w i (.send (.searchOffers params)) x w') : Named lib w' := by
  have hserve := hstep.serve
  unfold serve at hserve
  dsimp only at hserve
  split at hserve
  · rename_i hnew
    obtain ⟨hnodup,hunlike⟩ := hnew
    have hbackend := Option.some.inj hserve
    have hdrawn : w'.backend.drawn=w.backend.drawn := by rw [← hbackend]
    have hids : w'.backend.vendorIds=w.backend.vendorIds++
        idsIn lib (offersOf lib (.searchOffers params) x.reply) := by rw [← hbackend]
    have hview := (Option.some.inj hstep.look).symm
    have hsame : ∀ j,(w'.view j).drawn=(w.view j).drawn := by
      intro j
      by_cases hj : j=i
      · rw [hj,hview]
      · rw [hstep.view j hj]
    refine ⟨fun j f o ho => ?_,hdrawn ▸ h.fresh,fun id hid => ?_,fun j => ?_⟩
    · rw [hsame j] at ho
      exact hdrawn ▸ h.drawn j f o ho
    · rw [hdrawn] at hid
      rw [hids]
      intro hmem
      rcases List.mem_append.mp hmem with hold|hlast
      · exact h.unlike id hid hold
      · exact hunlike id hlast hid
    · rw [hids]
      by_cases hj : j=i
      · subst hj
        rw [hview]
        exact ⟨hnodup,fun id hid => List.mem_append_right _ hid⟩
      · rw [hstep.view j hj]
        exact ⟨(h.answers j).1,fun id hid => List.mem_append_left _ ((h.answers j).2 id hid)⟩
  · cases hserve

theorem Named.answered (h : Named lib w) (hstep : Answered lib w i q a w') : Named lib w' := by
  by_cases hq : Nameless q
  · refine h.same (fun j => ?_) (serve_names hstep.serve hq)
    by_cases hj : j=i
    · subst hj
      exact look_names hstep.look hq
    · rw [hstep.view j hj]
      exact ⟨rfl,rfl⟩
  · cases q with
    | send r =>
      cases r with
      | searchOffers params => exact h.searched hstep
      | _ => exact absurd ⟨nofun,nofun⟩ hq
    | newId fareOf => exact h.drew hstep
    | _ => exact absurd ⟨nofun,nofun⟩ hq

/-! ## Offers in the cache -/

/-- The entry is the offer that the search answered, under a fare drawn for it. -/
def Sourced (w : World) (key : String) (offer : Tagged Dict) : Prop :=
  (w.view offer.origin.1).answer[offer.origin.2]?=some (.obj offer.value) ∧
    ∃ f,key=offerCacheKey f ∧ (f,offer.origin)∈(w.view offer.origin.1).drawn

theorem Sourced.later {key : String} {offer : Tagged Dict} (h : Sourced w key offer)
    (hlater : Later w w') : Sourced w' key offer := by
  obtain ⟨hanswer,f,hkey,hdrawn⟩ := h
  obtain ⟨hkeeps,hsettled⟩ := hlater offer.origin.1
  refine ⟨?_,f,hkey,hkeeps _ hdrawn⟩
  rw [hsettled (List.ne_nil_of_mem hdrawn)]
  exact hanswer

/-- What is cached and what was found is sourced. -/
structure Stored (w : World) : Prop where
  cached : ∀ key offer,w.backend.cache key=some offer → Sourced w key offer
  found : ∀ i,∀ e∈(w.view i).found,Sourced w e.1 e.2

/-- A new entry is put there by the search whose offer it is. -/
theorem serve_cache {b : Backend} {key : String} {offer : Tagged Dict}
    (h : serve lib i b q a=some b') (hkey : b'.cache key=some offer) :
    b.cache key=some offer ∨ ∃ ttl,q=.cachePut key offer ttl := by
  cases q with
  | cachePut key' offer' ttl =>
    cases h
    change (if key=key' then some offer' else b.cache key)=some offer at hkey
    split at hkey
    · rename_i heq
      cases hkey
      exact .inr ⟨ttl,by rw [heq]⟩
    · exact .inl hkey
  | cacheDelete key' =>
    cases a with
    | error e =>
      cases h
      exact .inl hkey
    | ok _ =>
      cases h
      change (if key=key' then none else b.cache key)=some offer at hkey
      split at hkey
      · cases hkey
      · exact .inl hkey
  | cacheGet key' =>
    unfold serve at h
    dsimp only at h
    split at h
    · split at h
      · cases h
        exact .inl hkey
      · cases h
    · cases h
      exact .inl hkey
  | newId fareOf =>
    unfold serve at h
    dsimp only at h
    split at h
    · cases h
      exact .inl hkey
    · cases h
  | send r =>
    cases r with
    | searchOffers params =>
      unfold serve at h
      dsimp only at h
      split at h
      · cases h
        exact .inl hkey
      · cases h
    | bookOrder offers travelers =>
      rw [← Option.some.inj h] at hkey
      split at hkey <;> exact .inl hkey
    | _ =>
      cases h
      exact .inl hkey
  | _ =>
    cases h
    exact .inl hkey

theorem Stored.answered (h : Stored w) (hstep : Answered lib w i q a w') : Stored w' := by
  have hlater := later_of_answered hstep
  refine ⟨fun key offer hkey => ?_,fun j e he => ?_⟩
  · rcases serve_cache hstep.serve hkey with hold|⟨ttl,rfl⟩
    · exact (h.cached key offer hold).later hlater
    · obtain ⟨hown,hanswer,f,hf,hdrawn⟩ := hstep.proper
      refine Sourced.later ⟨?_,f,hf,?_⟩ hlater
      · rw [hown]
        exact hanswer
      · rw [hown]
        exact hdrawn
  · by_cases hj : j=i
    · subst hj
      by_cases hget : ∃ key,q=.cacheGet key
      · obtain ⟨key,rfl⟩ := hget
        cases a with
        | error e' =>
          rw [← Option.some.inj hstep.look] at he
          exact (h.found j e he).later hlater
        | ok found =>
          cases found with
          | none =>
            rw [← Option.some.inj hstep.look] at he
            exact (h.found j e he).later hlater
          | some offer =>
            rw [← Option.some.inj hstep.look] at he
            rcases List.mem_append.mp he with hold|hlast
            · exact (h.found j e hold).later hlater
            · cases List.mem_singleton.mp hlast
              have hserve := hstep.serve
              unfold serve at hserve
              dsimp only at hserve
              split at hserve
              · rename_i hcached
                exact (h.cached key offer hcached.symm).later hlater
              · cases hserve
      · rw [look_found hstep.look fun key hq => hget ⟨key,hq⟩] at he
        exact (h.found j e he).later hlater
    · rw [hstep.view j hj] at he
      exact (h.found j e he).later hlater

/-- What holds of the names and the entries in every state reached. -/
structure Traceable (lib : AmadeusLibrary) (w : World) : Prop where
  orderly : Orderly lib w
  named : Named lib w
  stored : Stored w

theorem traceable_start (lib : AmadeusLibrary) : Traceable lib {} :=
  ⟨orderly_start lib,⟨fun _ _ _ => nofun,.nil,fun _ => nofun,fun _ => ⟨.nil,fun _ => nofun⟩⟩,
    ⟨fun _ _ => nofun,fun _ _ => nofun⟩⟩

/-- A step that leaves the names, and adds no entry. -/
theorem Traceable.same (h : Traceable lib w) (hw : Orderly lib w')
    (hview : ∀ j,(w'.view j).drawn=(w.view j).drawn ∧ (w'.view j).answer=(w.view j).answer ∧
      (w'.view j).found=(w.view j).found)
    (hnames : w'.backend.drawn=w.backend.drawn ∧ w'.backend.vendorIds=w.backend.vendorIds)
    (hcache : ∀ key offer,w'.backend.cache key=some offer → w.backend.cache key=some offer) :
    Traceable lib w' := by
  have hlater : Later w w' := by
    intro j
    rw [(hview j).1]
    exact ⟨fun e he => he,fun _ => (hview j).2.1⟩
  refine ⟨hw,h.named.same (fun j => ⟨(hview j).1,(hview j).2.1⟩) hnames,⟨fun key offer hkey => ?_,
    fun j e he => ?_⟩⟩
  · exact (h.stored.cached key offer (hcache key offer hkey)).later hlater
  · rw [(hview j).2.2] at he
    exact (h.stored.found j e he).later hlater

theorem Traceable.step {act : Act} (h : Traceable lib w) (hstep : Step lib w act w') :
    Traceable lib w' := by
  have hw := h.orderly.step hstep
  cases act with
  | start call =>
    cases hstep
    refine h.same hw (fun j => ?_) ⟨rfl,rfl⟩ fun _ _ hkey => hkey
    unfold World.view
    rw [Pool.shared_set]
    dsimp only
    by_cases hj : j=w.count
    · have hidle := (h.orderly.idle w.count (Nat.le_refl _)).1
      unfold World.view at hidle
      rw [if_pos hj,hj,hidle]
      exact ⟨rfl,rfl,rfl⟩
    · rw [if_neg hj]
      exact ⟨rfl,rfl,rfl⟩
  | answer i answers =>
    obtain ⟨q,rest,-,hanswered⟩ := h.orderly.answered hstep
    exact ⟨hw,h.named.answered hanswered,h.stored.answered hanswered⟩
  | expire key =>
    cases hstep
    refine h.same hw (fun j => ⟨rfl,rfl,rfl⟩) ⟨rfl,rfl⟩ fun key' offer hkey => ?_
    change (if key'=key then none else w.backend.cache key')=some offer at hkey
    split at hkey
    · cases hkey
    · exact hkey

end Steps

/-! ## What was found for the fares -/

section Collection

variable {lib : AmadeusLibrary} {w : World} {fareIds : List EntityId} {x y : EntityId × Tagged Dict}
  {f : EntityId} {o o' : Origin} {id : String}

variable {i : Nat}

theorem Named.unique (h : Named lib w) {j : Nat} (ho : (f,o)∈(w.view i).drawn)
    (ho' : (f,o')∈(w.view j).drawn) : o=o' := by
  have heq := List.inj_on_of_nodup_map h.fresh (h.drawn i f o ho) (h.drawn j f o' ho') rfl
  cases heq
  rfl

/-- A fare that was returned was drawn for its offer. -/
theorem CameFrom.drawn (hw : Orderly lib w) (h : CameFrom w f o) : ∃ i,(f,o)∈(w.view i).drawn := by
  obtain ⟨i,fare,hfare,rfl,rfl⟩ := h
  unfold faresReturned at hfare
  split at hfare
  · rename_i fares hdone
    exact ⟨i,hw.conforms.returned hdone fare hfare⟩
  · cases hfare

theorem offerCacheKey_inj {f' : EntityId} (h : offerCacheKey f=offerCacheKey f') : f=f' := by
  have hlist := congrArg String.toList h
  unfold offerCacheKey at hlist
  rw [String.toList_append,String.toList_append] at hlist
  exact String.toList_inj.mp (List.append_cancel_left hlist)

/-- A fare of the call, and the offer that was found for it. -/
def Read (w : World) (x : EntityId × Tagged Dict) : Prop :=
  (w.view x.2.origin.1).answer[x.2.origin.2]?=some (.obj x.2.value) ∧
    (x.1,x.2.origin)∈(w.view x.2.origin.1).drawn

theorem zip_entries {found : List (String × Tagged Dict)}
    (h : found.map Prod.fst=fareIds.map offerCacheKey) :
    (fareIds.zip (found.map Prod.snd)).map Prod.fst=fareIds ∧
      ∀ x∈fareIds.zip (found.map Prod.snd),(offerCacheKey x.1,x.2)∈found := by
  induction fareIds generalizing found with
  | nil => exact ⟨rfl,nofun⟩
  | cons f fareIds ih =>
    cases found with
    | nil => cases h
    | cons entry found =>
      obtain ⟨hkey,hkeys⟩ := List.cons.inj h
      obtain ⟨hfares,hentries⟩ := ih hkeys
      refine ⟨congrArg (f::·) hfares,fun x hx => ?_⟩
      rcases List.mem_cons.mp hx with rfl|hx
      · rw [← hkey]
        exact List.mem_cons_self
      · exact List.mem_cons_of_mem _ (hentries x hx)

theorem Stored.read (h : Stored w) (hx : (offerCacheKey x.1,x.2)∈(w.view i).found) : Read w x := by
  obtain ⟨hanswer,f,hkey,hdrawn⟩ := h.found i _ hx
  rw [← offerCacheKey_inj hkey] at hdrawn
  exact ⟨hanswer,hdrawn⟩

theorem Read.offerAt (h : Read w x) : offerAt w x.2.origin=some x.2.value := by
  unfold OfferCollection.offerAt
  rw [h.1]

theorem Read.vendorIdAt (h : Read w x) : vendorIdAt lib w x.2.origin=vendorId lib x.2.value := by
  unfold OfferCollection.vendorIdAt
  rw [h.offerAt]
  rfl

theorem Read.origin (hw : Traceable lib w) (h : Read w x) (ho : CameFrom w x.1 o) :
    o=x.2.origin := by
  obtain ⟨j,hdrawn⟩ := ho.drawn hw.orderly
  exact hw.named.unique hdrawn h.2

theorem Read.same_fare (hw : Traceable lib w) (hx : Read w x) (hy : Read w y) (h : x.1=y.1) :
    x.2.origin=y.2.origin := by
  have hdrawn := hx.2
  rw [h] at hdrawn
  exact hw.named.unique hdrawn hy.2

theorem Read.same_offer (hx : Read w x) (hy : Read w y) (h : x.2.origin=y.2.origin) :
    vendorId lib x.2.value=vendorId lib y.2.value := by
  rw [← hx.vendorIdAt,← hy.vendorIdAt,h]

theorem Read.named (hw : Traceable lib w) (h : Read w x) (hid : vendorId lib x.2.value=some id) :
    id∈w.backend.vendorIds := by
  refine (hw.named.answers x.2.origin.1).2 id (List.mem_filterMap.mpr ⟨x.2.value,?_,hid⟩)
  exact List.mem_filterMap.mpr ⟨.obj x.2.value,List.mem_of_getElem? h.1,rfl⟩

/-- No vendor's id is a fare's. -/
theorem Read.unlike (hw : Traceable lib w) (hx : Read w x) (hy : Read w y)
    (hid : vendorId lib x.2.value=some id) : id≠y.1 := by
  rintro rfl
  refine hw.named.unlike _ ?_ (hx.named hw hid)
  exact List.mem_map_of_mem (f:=Prod.fst) (hw.named.drawn _ _ _ hy.2)

/-- Within one answer an id names one offer. -/
theorem Read.same_id (hw : Traceable lib w) (hx : Read w x) (hy : Read w y)
    (hsearch : x.2.origin.1=y.2.origin.1) (hidx : vendorId lib x.2.value=some id)
    (hidy : vendorId lib y.2.value=some id) : x.2.origin=y.2.origin := by
  have hanswer := hx.1
  rw [hsearch] at hanswer
  have hnodup := (hw.named.answers y.2.origin.1).1
  unfold idsIn objects at hnodup
  rw [List.filterMap_filterMap] at hnodup
  exact Prod.ext hsearch (position_unique hnodup hanswer hy.1 hidx hidy)

theorem offerKey_eq (x : EntityId × Tagged Dict) :
    offerKey lib x=(vendorId lib x.2.value).getD x.1 := by
  unfold offerKey offerId textOr vendorId given member
  cases get x.2.value "id" with
  | none => rfl
  | some value =>
    cases hvalue : isTruthy value with
    | false =>
      rw [Option.filter_some_neg (by simp [hvalue])]
      exact if_neg (by simp [hvalue])
    | true =>
      rw [Option.filter_some_pos hvalue]
      exact if_pos hvalue

/-- Two of the fares get one key: from one id, or being one fare of an offer without id. -/
theorem offerKey_eq_iff (hw : Traceable lib w) (hx : Read w x) (hy : Read w y) :
    offerKey lib x=offerKey lib y ↔
      (∃ id,vendorId lib x.2.value=some id ∧ vendorId lib y.2.value=some id) ∨
        vendorId lib x.2.value=none ∧ vendorId lib y.2.value=none ∧ x.1=y.1 := by
  rw [offerKey_eq,offerKey_eq]
  cases hidx : vendorId lib x.2.value with
  | none =>
    cases hidy : vendorId lib y.2.value with
    | none => simp
    | some id => simpa using (hy.unlike hw hx hidy).symm
  | some id =>
    cases hidy : vendorId lib y.2.value with
    | none => simpa using hx.unlike hw hy hidx
    | some id' => simpa using eq_comm

/-- A booking posts what it has collected for its fares. -/
theorem posting_eq_some (hw : Orderly lib w) {offers : List (Tagged Json)}
    (h : posting w i=some (fareIds,offers)) :
    (w.view i).found.map Prod.fst=fareIds.map offerCacheKey ∧ offers.map Tagged.origin=
      (chosen lib fareIds ((w.view i).found.map Prod.snd)).map fun e => e.2.origin := by
  unfold posting at h
  split at h
  · rename_i d fares passengerIds posted travelers rest hcall hask
    cases h
    have hproper : Proper lib i (w.view i) (.send (.bookOrder offers travelers)) :=
      hw.conforms.asks hask
    obtain ⟨d',fares',passengerIds',hcall',hkeys,horigins⟩ := hproper
    cases hcall.symm.trans hcall'
    exact ⟨hkeys,horigins⟩
  · cases h

variable {l : List (EntityId × Tagged Dict)}

/-- Where all fares were returned, the offers found are those the fares came from. -/
theorem cameFrom_iff (hw : Traceable lib w) (hfares : l.map Prod.fst=fareIds)
    (hread : ∀ x∈l,Read w x) (hreturned : ∀ f∈fareIds,∃ o,CameFrom w f o) (o : Origin) :
    (o∈l.map fun x => x.2.origin) ↔ ∃ f∈fareIds,CameFrom w f o := by
  constructor
  · intro ho
    obtain ⟨x,hx,rfl⟩ := List.mem_map.mp ho
    have hmem : x.1∈fareIds := hfares ▸ List.mem_map_of_mem hx
    obtain ⟨o,ho⟩ := hreturned x.1 hmem
    exact ⟨x.1,hmem,(hread x hx).origin hw ho ▸ ho⟩
  · rintro ⟨f,hf,ho⟩
    rw [← hfares] at hf
    obtain ⟨x,hx,rfl⟩ := List.mem_map.mp hf
    exact List.mem_map.mpr ⟨x,hx,((hread x hx).origin hw ho).symm⟩

/-- Offers without id share their class with fares of their own only. -/
theorem keys_own (hw : Traceable lib w) (hread : ∀ x∈l,Read w x) :
    ∀ x∈l,∀ y∈l,x.2.origin=y.2.origin → offerKey lib x≠offerKey lib y →
      ∀ z∈l,offerKey lib z=offerKey lib x → z.2.origin=x.2.origin := by
  intro x hx y hy hsame hkey z hz hkey'
  rcases (offerKey_eq_iff hw (hread z hz) (hread x hx)).mp hkey' with ⟨id,-,hid⟩|⟨-,-,hfare⟩
  · have hid' := ((hread x hx).same_offer (hread y hy) hsame).symm.trans hid
    exact absurd ((offerKey_eq_iff hw (hread x hx) (hread y hy)).mpr (.inl ⟨id,hid,hid'⟩)) hkey
  · exact (hread z hz).same_fare hw (hread x hx) hfare

/-- Keys and offers tell apart the same fares exactly if the offers are told apart. -/
theorem toldApart_iff (hw : Traceable lib w) (hfares : l.map Prod.fst=fareIds)
    (hread : ∀ x∈l,Read w x) (hreturned : ∀ f∈fareIds,∃ o,CameFrom w f o) :
    (∀ x∈l,∀ y∈l,offerKey lib x=offerKey lib y ↔ x.2.origin=y.2.origin) ↔
      ToldApart lib w fareIds := by
  have hentry : ∀ f∈fareIds,∃ x∈l,x.1=f := by
    intro f hf
    rw [← hfares] at hf
    obtain ⟨x,hx,hfare⟩ := List.mem_map.mp hf
    exact ⟨x,hx,hfare⟩
  have hcame : ∀ x∈l,x.1∈fareIds ∧ CameFrom w x.1 x.2.origin := by
    intro x hx
    have hmem : x.1∈fareIds := hfares ▸ List.mem_map_of_mem hx
    obtain ⟨o,ho⟩ := hreturned x.1 hmem
    exact ⟨hmem,(hread x hx).origin hw ho ▸ ho⟩
  constructor
  · intro hiff
    constructor
    · intro f hf f' hf' o o' ho ho' hsearch id hid hid'
      obtain ⟨x,hx,rfl⟩ := hentry f hf
      obtain ⟨y,hy,rfl⟩ := hentry f' hf'
      rw [(hread x hx).origin hw ho,(hread y hy).origin hw ho'] at hsearch
      rw [(hread x hx).origin hw ho,(hread x hx).vendorIdAt] at hid
      rw [(hread y hy).origin hw ho',(hread y hy).vendorIdAt] at hid'
      have hkey := (offerKey_eq_iff hw (hread x hx) (hread y hy)).mpr (.inl ⟨id,hid,hid'⟩)
      exact hsearch (congrArg Prod.fst ((hiff x hx y hy).mp hkey))
    · intro f hf f' hf' o ho ho' hne
      obtain ⟨x,hx,rfl⟩ := hentry f hf
      obtain ⟨y,hy,rfl⟩ := hentry f' hf'
      have hsame : x.2.origin=y.2.origin :=
        ((hread x hx).origin hw ho).symm.trans ((hread y hy).origin hw ho')
      rw [(hread x hx).origin hw ho,(hread x hx).vendorIdAt]
      rcases (offerKey_eq_iff hw (hread x hx) (hread y hy)).mp ((hiff x hx y hy).mpr hsame) with
        ⟨id,hid,-⟩|⟨-,-,hfare⟩
      · exact Option.isSome_iff_exists.mpr ⟨id,hid⟩
      · exact absurd hfare hne
  · intro htold x hx y hy
    obtain ⟨hmemx,hcamex⟩ := hcame x hx
    obtain ⟨hmemy,hcamey⟩ := hcame y hy
    rw [offerKey_eq_iff hw (hread x hx) (hread y hy)]
    constructor
    · rintro (⟨id,hidx,hidy⟩|⟨-,-,hfare⟩)
      · by_cases hsearch : x.2.origin.1=y.2.origin.1
        · exact (hread x hx).same_id hw (hread y hy) hsearch hidx hidy
        · rw [← (hread x hx).vendorIdAt] at hidx
          rw [← (hread y hy).vendorIdAt] at hidy
          exact absurd hidy (htold.searches _ hmemx _ hmemy _ _ hcamex hcamey hsearch id hidx)
      · exact (hread x hx).same_fare hw (hread y hy) hfare
    · intro hsame
      have hids : vendorId lib x.2.value=vendorId lib y.2.value :=
        (hread x hx).same_offer (hread y hy) hsame
      cases hid : vendorId lib x.2.value with
      | some id => exact .inl ⟨id,rfl,hids.symm.trans hid⟩
      | none =>
        refine .inr ⟨rfl,hids.symm.trans hid,?_⟩
        by_contra hne
        have hsome := htold.fares _ hmemx _ hmemy _ hcamex (hsame ▸ hcamey) hne
        rw [(hread x hx).vendorIdAt,hid] at hsome
        cases hsome

end Collection

/-- However searches and bookings are interleaved: what a booking is about to post for
fares that searches returned holds exactly the offers these came from if and only if the
offers are told apart. -/
theorem booked_offers_exact_iff (lib : AmadeusLibrary) {acts : List Act} {w : World}
    (hrun : Run (Step lib) {} acts w) {i : Nat} {fareIds : List EntityId}
    {offers : List (Tagged Json)} (hposts : posting w i=some (fareIds,offers))
    (hreturned : ∀ f∈fareIds,∃ o,CameFrom w f o) :
    HoldsExactly w fareIds offers ↔ ToldApart lib w fareIds := by
  have hw : Traceable lib w :=
    hrun.invariant (traceable_start lib) fun u act u' hu hstep => hu.step hstep
  obtain ⟨hkeys,horigins⟩ := posting_eq_some hw.orderly hposts
  obtain ⟨hfares,hentries⟩ := zip_entries hkeys
  have hread : ∀ x∈fareIds.zip ((w.view i).found.map Prod.snd),Read w x :=
    fun x hx => hw.stored.read (hentries x hx)
  have hcame := cameFrom_iff hw hfares hread hreturned
  rw [← toldApart_iff hw hfares hread hreturned,← representative_iff (keys_own hw hread)]
  constructor
  · rintro ⟨collected,hsame,-,hnodup,hmem⟩
    rw [← hsame,horigins] at hnodup hmem
    exact ⟨hnodup,fun o => (hmem o).trans (hcame o).symm⟩
  · rintro ⟨hnodup,hmem⟩
    refine ⟨(chosen lib fareIds ((w.view i).found.map Prod.snd)).map Prod.snd,?_,fun offer hoffer => ?_,
      ?_,fun o => ?_⟩
    · rw [List.map_map]
      exact horigins
    · obtain ⟨x,hx,rfl⟩ := List.mem_map.mp hoffer
      exact (hread x (mem_of_keepFirst hx)).offerAt
    · rw [List.map_map]
      exact hnodup
    · rw [List.map_map]
      exact (hmem o).trans (hcame o)

/-- Two searches, and a booking of a fare of each, up to its post. Each vendor's answer
holds one offer of a given id. -/
def searchTwiceAndBook (first second : String) : List Act :=
  let found := fun id n k => .answer n
    (BookedOrders.answerNumbered (OfferBookings.oneOffer id ⟨none,.timeout⟩) (fun _ => none) k)
  let read := fun id n => .answer 2
    (BookedOrders.answerNumbered (OfferBookings.oneOffer id ⟨none,.timeout⟩)
      (fun _ => OfferBookings.cachedOffer n id) 0)
  .start (.search BookedOrders.deskDriver OfferBookings.deskCriteria)::
    (List.range 6).map (found first 0)++
    .start (.search BookedOrders.deskDriver OfferBookings.deskCriteria)::
      (List.range 6).map (fun k => found second 1 (k+6))++
    [.start (.create BookedOrders.deskDriver [BookedOrders.idNumbered 4,BookedOrders.idNumbered 10]
        [BookedOrders.deskPassenger.id]),
      read first 0,read second 1,found first 2 0,found first 2 0]

/-- What can be seen of a world: the fares two searches returned, and what a booking
of them is about to post. -/
def seen (w : World) : List (EntityId × Origin) × Option (List EntityId × List Origin) :=
  ((faresReturned w 0++faresReturned w 1).map fun fare => (fare.value.id,fare.origin),
    (posting w 2).map fun p => (p.1,p.2.map Tagged.origin))

theorem cameFrom_of_seen {w : World} {fares : List (EntityId × Origin)}
    (h : (seen w).1=fares) {f : EntityId} {o : Origin} (hf : (f,o)∈fares) : CameFrom w f o := by
  rw [← h] at hf
  obtain ⟨fare,hfare,heq⟩ := List.mem_map.mp hf
  cases heq
  rcases List.mem_append.mp hfare with hfare|hfare
  · exact ⟨0,fare,hfare,rfl,rfl⟩
  · exact ⟨1,fare,hfare,rfl,rfl⟩

/-- The fares of the two searches. -/
def bothFares : List (EntityId × Origin) :=
  [(BookedOrders.idNumbered 4,(0,0)),(BookedOrders.idNumbered 10,(1,0))]

/-- Two offers with ids of their own. -/
theorem booked_offers_exact_iff_distinct : ∃ w offers,
    Run (Step BookedOrders.deskLibrary) {} (searchTwiceAndBook "1" "2") w ∧
      (HoldsExactly w (bothFares.map Prod.fst) offers ↔
        ToldApart BookedOrders.deskLibrary w (bothFares.map Prod.fst)) := by
  have hrun : ((searchTwiceAndBook "1" "2").foldlM (step BookedOrders.deskLibrary)
      ({} : World)).map seen=some (bothFares,some (bothFares.map Prod.fst,[(0,0),(1,0)])) := by
    decide +kernel
  obtain ⟨w,hw,hseen⟩ := Option.map_eq_some_iff.mp hrun
  obtain ⟨⟨fareIds,offers⟩,hposts,hshown⟩ := Option.map_eq_some_iff.mp (congrArg Prod.snd hseen)
  obtain ⟨rfl,-⟩ := Prod.mk.inj hshown
  refine ⟨w,offers,run_of_foldlM hw,booked_offers_exact_iff _ (run_of_foldlM hw) hposts fun f hf => ?_⟩
  obtain ⟨⟨f,o⟩,hmem,rfl⟩ := List.mem_map.mp hf
  exact ⟨o,cameFrom_of_seen (congrArg Prod.fst hseen) hmem⟩

/-- Two searches are answered with an offer of one id each: one of the two is booked. -/
theorem second_search_dropped : ∃ w offers,
    Run (Step BookedOrders.deskLibrary) {} (searchTwiceAndBook "1" "1") w ∧
      posting w 2=some (bothFares.map Prod.fst,offers) ∧
      (∀ f∈bothFares.map Prod.fst,∃ o,CameFrom w f o) ∧
      ¬HoldsExactly w (bothFares.map Prod.fst) offers := by
  have hrun : ((searchTwiceAndBook "1" "1").foldlM (step BookedOrders.deskLibrary)
      ({} : World)).map seen=some (bothFares,some (bothFares.map Prod.fst,[(0,0)])) := by
    decide +kernel
  obtain ⟨w,hw,hseen⟩ := Option.map_eq_some_iff.mp hrun
  obtain ⟨⟨fareIds,offers⟩,hposts,hshown⟩ := Option.map_eq_some_iff.mp (congrArg Prod.snd hseen)
  obtain ⟨rfl,horigins⟩ := Prod.mk.inj hshown
  have hcame : ∀ e∈bothFares,CameFrom w e.1 e.2 :=
    fun e he => cameFrom_of_seen (congrArg Prod.fst hseen) he
  refine ⟨w,offers,run_of_foldlM hw,hposts,fun f hf => ?_,?_⟩
  · obtain ⟨e,hmem,rfl⟩ := List.mem_map.mp hf
    exact ⟨e.2,hcame e hmem⟩
  · rintro ⟨collected,hsame,-,-,hall⟩
    have hsecond : ((1,0) : Origin)∈collected.map Tagged.origin :=
      (hall (1,0)).mpr ⟨BookedOrders.idNumbered 10,by decide,hcame (_,(1,0)) (by decide)⟩
    rw [← hsame,horigins] at hsecond
    exact absurd hsecond (by decide)

end Voyagent.OfferCollection
