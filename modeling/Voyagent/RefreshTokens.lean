import Mathlib.Data.List.Nodup
import Voyagent.RuntimeValues
import Voyagent.TransitionRuns

/-!
# Rotation of refresh tokens

A refresh request looks its token up, loads the token's owner, revokes the
token and stores a successor. Each of these is a statement of its own whose
effect others see from its commit on. Any number of requests take their steps
in any order; one that takes no further step was cut off.
-/

namespace Voyagent.RefreshTokens

open RuntimeValues TransitionRuns

variable {τ υ : Type}

/-- The columns of a stored token that decide its use. -/
structure TokenRow (υ : Type) where
  userId : υ
  expiresAt : Time
  revokedAt : Option Time := none

/-- The committed rows, by the token's digest. -/
abbrev Rows (τ υ : Type) : Type := τ → Option (TokenRow υ)

/-- Whether a row is unexpired and not revoked. -/
def TokenRow.active (row : TokenRow υ) (now : Time) : Bool :=
  row.revokedAt.isNone && decide (now<row.expiresAt)

/-- `find_active`. -/
def findActive (rows : Rows τ υ) (x : τ) (now : Time) : Option (TokenRow υ) :=
  (rows x).filter fun row => row.active now

/-- `revoke`: whatever the row says. -/
def revokeToken [DecidableEq τ] (rows : Rows τ υ) (x : τ) (now : Time) : Rows τ υ :=
  Function.update rows x ((rows x).map fun row => {row with revokedAt := some now})

/-- `refresh_ttl_seconds`, of at least an hour. -/
structure RefreshTtl where
  seconds : Int
  atLeast : 3600 ≤ seconds

/-- The row of a minted token. -/
def mintRefreshToken (ttl : RefreshTtl) (userId : υ) (now : Time) : TokenRow υ :=
  {userId
   expiresAt := now+ttl.seconds}

/-- How far a request has come. -/
inductive Stage (τ υ : Type) where
  | idle
  /-- Its token was active. -/
  | found (x : τ) (userId : υ)
  /-- The token's user and tenant exist. -/
  | owned (x : τ) (userId : υ)
  | orphaned (x : τ)
  /-- Its token is revoked and the successor not yet stored. -/
  | rotating (x : τ) (userId : υ)
  | refused
  /-- Answered with a token pair. -/
  | answered (x y : τ)

/-- A successful redemption, with the live successors it left. -/
structure Redemption (τ : Type) where
  request : Nat
  presented : τ
  issued : τ
  live : List τ

/-- The table, the requests and what was answered so far. -/
structure World (τ υ : Type) where
  rows : Rows τ υ
  stages : Nat → Stage τ υ := fun _ => .idle
  redemptions : List (Redemption τ) := []

inductive Act (τ : Type) where
  /-- Request `r` presents `x`. -/
  | lookup (r : Nat) (x : τ) (now : Time)
  | loadOwner (r : Nat)
  /-- The revocation is committed. -/
  | revoke (r : Nat) (now : Time)
  /-- The fresh token `y` is stored and answered. -/
  | store (r : Nat) (y : τ) (now : Time)

/-- The deployment: which users exist with their tenant, and how long tokens live. -/
structure AuthSetup (υ : Type) where
  known : υ → Bool
  ttl : RefreshTtl

section Steps

variable [DecidableEq τ] (d : AuthSetup υ)

def World.set (w : World τ υ) (r : Nat) (st : Stage τ υ) : World τ υ :=
  {w with stages := Function.update w.stages r st}

/-- Tokens obtained by presenting `x`. -/
def successors (redemptions : List (Redemption τ)) (x : τ) : List τ :=
  (redemptions.filter fun a => decide (a.presented=x)).map Redemption.issued

/-- The successor is committed. -/
def World.stored (w : World τ υ) (r : Nat) (x y : τ) (userId : υ) (now : Time) : World τ υ :=
  let rows := Function.update w.rows y (some (mintRefreshToken d.ttl userId now))
  let live := (successors w.redemptions x++[y]).filter fun z => (findActive rows z now).isSome
  {w.set r (.answered x y) with
    rows
    redemptions := w.redemptions++[⟨r,x,y,live⟩]}

/-- One step, when it can be taken. A minted token is in no row. -/
def step (w : World τ υ) : Act τ → Option (World τ υ)
  | .lookup r x now =>
    match w.stages r with
    | .idle =>
      match findActive w.rows x now with
      | some row => some (w.set r (.found x row.userId))
      | none => some (w.set r .refused)
    | _ => none
  | .loadOwner r =>
    match w.stages r with
    | .found x u => some (w.set r (if d.known u then .owned x u else .orphaned x))
    | _ => none
  | .revoke r now =>
    match w.stages r with
    | .owned x u => some {w.set r (.rotating x u) with rows := revokeToken w.rows x now}
    | .orphaned x => some {w.set r .refused with rows := revokeToken w.rows x now}
    | _ => none
  | .store r y now =>
    match w.stages r,w.rows y with
    | .rotating x u,none => some (w.stored d r x y u now)
    | _,_ => none

def Step : World τ υ → Act τ → World τ υ → Prop := ofPartial (step d)

end Steps

/-- No token was redeemed twice, and each redemption left its successor as the
only live one. -/
def SingleUse (w : World τ υ) : Prop :=
  (w.redemptions.map Redemption.presented).Nodup ∧ ∀ a∈w.redemptions,a.live=[a.issued]

/-- No request is under way. -/
def Finished (w : World τ υ) : Prop :=
  ∀ r,w.stages r=.idle ∨ w.stages r=.refused ∨ ∃ x y,w.stages r=.answered x y

/-- The row of a token is there and not revoked. -/
def Unrevoked (rows : Rows τ υ) (x : τ) : Prop := ∃ row,rows x=some row ∧ row.revokedAt=none

/-- A request that goes on to store a successor revokes a token that was still
unrevoked. -/
def OnUnrevoked (w : World τ υ) : Act τ → Prop
  | .revoke r _ => ∀ x u,w.stages r=.owned x u → Unrevoked w.rows x
  | _ => True

/-! ## What the steps keep -/

variable {d : AuthSetup υ} {w w' : World τ υ} {a : Act τ} {as : List (Act τ)} {rows : Rows τ υ}
  {r i : Nat} {x y : τ} {u v : υ} {now : Time} {st : Stage τ υ}

/-- The user a stored token belongs to. -/
def Owner (rows : Rows τ υ) (x : τ) (u : υ) : Prop := ∃ row,rows x=some row ∧ row.userId=u

/-- The token a request has revoked to replace it. -/
def Stage.spent : Stage τ υ → Option τ
  | .rotating x _ => some x
  | .answered x _ => some x
  | _ => none

/-- A request has revoked the token to replace it. -/
def Spent (w : World τ υ) (x : τ) : Prop := ∃ r,(w.stages r).spent=some x

/-- Whose token a request holds. -/
def StageOwner (d : AuthSetup υ) (rows : Rows τ υ) : Stage τ υ → Prop
  | .found x u => Owner rows x u
  | .owned x u => Owner rows x u ∧ d.known u=true
  | .orphaned x => ∃ u,Owner rows x u ∧ d.known u=false
  | .rotating x u => Owner rows x u ∧ d.known u=true
  | .answered x _ => ∃ u,Owner rows x u
  | _ => True

/-- What became of the token a request holds: if its owner exists and it was
revoked in the meantime, it was spent. -/
def StageRevocation (d : AuthSetup υ) (w : World τ υ) : Stage τ υ → Prop
  | .found x u => d.known u=true → Unrevoked w.rows x ∨ Spent w x
  | .owned x _ => Unrevoked w.rows x ∨ Spent w x
  | .rotating x _ => ¬Unrevoked w.rows x
  | .answered x _ => ¬Unrevoked w.rows x
  | _ => True

/-- Every request holds the token of the user it says. -/
def Owners (d : AuthSetup υ) (w : World τ υ) : Prop := ∀ r,StageOwner d w.rows (w.stages r)

/-- Known in every state reached. -/
structure Facts (d : AuthSetup υ) (w : World τ υ) : Prop where
  owners : Owners d w
  revocations : ∀ r,StageRevocation d w (w.stages r)
  redeemed : ∀ r x y,w.stages r=.answered x y ↔
    ∃ a∈w.redemptions,a.request=r ∧ a.presented=x ∧ a.issued=y

/-- How the table and the requests develop. -/
structure Grows (d : AuthSetup υ) (w w' : World τ υ) : Prop where
  owner : ∀ x u,Owner w.rows x u → Owner w'.rows x u
  revoked : ∀ x u,Owner w.rows x u → ¬Unrevoked w.rows x → ¬Unrevoked w'.rows x
  spent : ∀ r x,(w.stages r).spent=some x → (w'.stages r).spent=some x
  /-- Whoever revokes a token of a known user has spent it. -/
  spender : ∀ x u,Owner w.rows x u → d.known u=true → Unrevoked w.rows x →
    Unrevoked w'.rows x ∨ Spent w' x

theorem owner_unique (h : Owner rows x u) (h' : Owner rows x v) : u=v := by
  obtain ⟨row,hrow,rfl⟩ := h
  obtain ⟨row',hrow',rfl⟩ := h'
  rw [hrow] at hrow'
  rw [Option.some.inj hrow']

theorem findActive_facts {row : TokenRow υ} (h : findActive rows x now=some row) :
    Owner rows x row.userId ∧ Unrevoked rows x := by
  obtain ⟨hrow,hactive⟩ := Option.filter_eq_some_iff.mp h
  simp only [TokenRow.active,Bool.and_eq_true,Option.isNone_iff_eq_none] at hactive
  exact ⟨⟨row,hrow,rfl⟩,row,hrow,hactive.1⟩

@[simp] theorem set_stages_self (w : World τ υ) (r : Nat) (st : Stage τ υ) :
    (w.set r st).stages r=st := Function.update_self ..

theorem set_stages_other (w : World τ υ) (st : Stage τ υ) (h : i≠r) :
    (w.set r st).stages i=w.stages i := Function.update_of_ne h ..

theorem spent_iff (h : w.stages r=st) : (w.stages r).spent=some x ↔ st.spent=some x := by
  rw [h]

/-- A request moves on, keeping what it has spent. -/
theorem spent_set (hst : ∀ x,(w.stages r).spent=some x → st.spent=some x) (i : Nat) (x : τ)
    (h : (w.stages i).spent=some x) : ((w.set r st).stages i).spent=some x := by
  by_cases hi : i=r
  · subst hi
    rw [set_stages_self]
    exact hst x h
  · rw [set_stages_other w st hi]
    exact h

/-- The table stays as it is. -/
theorem grows_set (hst : ∀ x,(w.stages r).spent=some x → st.spent=some x) :
    Grows d w (w.set r st) where
  owner := fun _ _ h => h
  revoked := fun _ _ _ h => h
  spent := spent_set hst
  spender := fun _ _ _ _ h => .inl h

theorem StageOwner.grows {rows' : Rows τ υ} (h : StageOwner d rows st)
    (hg : ∀ x u,Owner rows x u → Owner rows' x u) : StageOwner d rows' st := by
  cases st with
  | idle => trivial
  | refused => trivial
  | found x u => exact hg x u h
  | owned x u => exact ⟨hg x u h.1,h.2⟩
  | orphaned x =>
    obtain ⟨u,ho,hk⟩ := h
    exact ⟨u,hg x u ho,hk⟩
  | rotating x u => exact ⟨hg x u h.1,h.2⟩
  | answered x y =>
    obtain ⟨u,ho⟩ := h
    exact ⟨u,hg x u ho⟩

theorem StageRevocation.grows (h : StageRevocation d w st) (ho : StageOwner d w.rows st)
    (hg : Grows d w w') : StageRevocation d w' st := by
  have hheld : ∀ {x u},Owner w.rows x u → d.known u=true → Unrevoked w.rows x ∨ Spent w x →
      Unrevoked w'.rows x ∨ Spent w' x := by
    intro x u ho hk h
    rcases h with h|⟨i,hi⟩
    · exact hg.spender x u ho hk h
    · exact .inr ⟨i,hg.spent i x hi⟩
  cases st with
  | idle => trivial
  | refused => trivial
  | found x u => exact fun hk => hheld ho hk (h hk)
  | owned x u => exact hheld ho.1 ho.2 h
  | orphaned x => trivial
  | rotating x u => exact hg.revoked x u ho.1 h
  | answered x y =>
    obtain ⟨u,ho⟩ := ho
    exact hg.revoked x u ho h

/-- A request moves on: what holds of its new stage and of the others'. -/
theorem stages_set {P : Stage τ υ → Prop} (hst : P st) (h : ∀ i,P (w.stages i)) (i : Nat) :
    P ((w.set r st).stages i) := by
  by_cases hi : i=r
  · subst hi
    rw [set_stages_self]
    exact hst
  · rw [set_stages_other w st hi]
    exact h i

/-- A request moves on to a stage that is no answer. -/
theorem redeemed_set (h : Facts d w) (hold : ∀ x y,w.stages r≠.answered x y)
    (hnew : ∀ x y,st≠.answered x y) (i : Nat) (x y : τ) :
    (w.set r st).stages i=.answered x y ↔
      ∃ a∈w.redemptions,a.request=i ∧ a.presented=x ∧ a.issued=y := by
  by_cases hi : i=r
  · subst hi
    rw [set_stages_self,← h.redeemed i x y]
    exact iff_of_false (hnew x y) (hold x y)
  · rw [set_stages_other w st hi]
    exact h.redeemed i x y

/-- Before any request. -/
theorem facts_start (d : AuthSetup υ) (rows₀ : Rows τ υ) : Facts d {rows := rows₀} where
  owners := fun _ => trivial
  revocations := fun _ => trivial
  redeemed := fun _ _ _ => ⟨fun h => (by cases h),fun ⟨_,ha,_⟩ => absurd ha List.not_mem_nil⟩

/-- No token is spent by two requests. -/
def SpentOnce (w : World τ υ) : Prop :=
  ∀ i j x,(w.stages i).spent=some x → (w.stages j).spent=some x → i=j

/-- A token is spent by two requests. -/
def SpentTwice (w : World τ υ) : Prop :=
  ∃ i j x,i≠j ∧ (w.stages i).spent=some x ∧ (w.stages j).spent=some x

theorem SpentTwice.grows (h : SpentTwice w) (hg : Grows d w w') : SpentTwice w' := by
  obtain ⟨i,j,x,hne,hi,hj⟩ := h
  exact ⟨i,j,x,hne,hg.spent i x hi,hg.spent j x hj⟩

/-- A request that spends nothing new. -/
theorem SpentOnce.set (h : SpentOnce w)
    (hst : ∀ x,st.spent=some x → (w.stages r).spent=some x) : SpentOnce (w.set r st) := by
  have hback : ∀ i x,((w.set r st).stages i).spent=some x → (w.stages i).spent=some x := by
    intro i x hi
    by_cases hir : i=r
    · subst hir
      rw [set_stages_self] at hi
      exact hst x hi
    · rwa [set_stages_other w st hir] at hi
  exact fun i j x hi hj => h i j x (hback i x hi) (hback j x hj)

/-- A request revokes a token that nobody has revoked yet. -/
theorem SpentOnce.revoked (h : SpentOnce w) (hfacts : Facts d w) (hx : Unrevoked w.rows x) :
    SpentOnce (w.set r (.rotating x u)) := by
  have hfree : ∀ i,(w.stages i).spent≠some x := by
    intro i hi
    have hstage := hfacts.revocations i
    cases hst : w.stages i <;> rw [hst] at hi hstage <;> cases hi
    · exact hstage hx
    · exact hstage hx
  have hcases : ∀ i z,((w.set r (.rotating x u)).stages i).spent=some z →
      (i=r ∧ z=x) ∨ (i≠r ∧ z≠x ∧ (w.stages i).spent=some z) := by
    intro i z hi
    by_cases hir : i=r
    · subst hir
      rw [set_stages_self] at hi
      cases hi
      exact .inl ⟨rfl,rfl⟩
    · rw [set_stages_other w _ hir] at hi
      refine .inr ⟨hir,?_,hi⟩
      rintro rfl
      exact hfree i hi
  intro i j z hi hj
  rcases hcases i z hi with ⟨rfl,rfl⟩|⟨hir,hz,hi⟩
  · rcases hcases j z hj with ⟨rfl,_⟩|⟨_,hz,_⟩
    · rfl
    · exact absurd rfl hz
  · rcases hcases j z hj with ⟨_,hz'⟩|⟨_,_,hj⟩
    · exact absurd hz' hz
    · exact h i j z hi hj

/-- Two answered requests that spent one token are two redemptions of it. -/
theorem SpentTwice.not_singleUse (h : SpentTwice w) (hfacts : Facts d w) (hfin : Finished w) :
    ¬SingleUse w := by
  obtain ⟨i,j,x,hne,hi,hj⟩ := h
  have hredeemed : ∀ r,(w.stages r).spent=some x →
      ∃ a∈w.redemptions,a.request=r ∧ a.presented=x := by
    intro r hr
    obtain hst|hst|⟨z,y,hst⟩ := hfin r
    · rw [hst] at hr
      cases hr
    · rw [hst] at hr
      cases hr
    · obtain ⟨a,ha,hreq,hpres,-⟩ := (hfacts.redeemed r z y).mp hst
      rw [hst] at hr
      exact ⟨a,ha,hreq,hpres.trans (Option.some.inj hr)⟩
  obtain ⟨a,ha,rfl,hax⟩ := hredeemed i hi
  obtain ⟨b,hb,rfl,hbx⟩ := hredeemed j hj
  intro hsingle
  have hab := List.inj_on_of_nodup_map hsingle.1 ha hb (hax.trans hbx.symm)
  exact hne (congrArg Redemption.request hab)

section Run

variable [DecidableEq τ]

/-- What a step finds and leaves. -/
def Act.Does (d : AuthSetup υ) (w w' : World τ υ) : Act τ → Prop
  | .lookup r x now => w.stages r=.idle ∧
      ((∃ row,findActive w.rows x now=some row ∧ w'=w.set r (.found x row.userId)) ∨
        w'=w.set r .refused)
  | .loadOwner r => ∃ x u,w.stages r=.found x u ∧
      ((d.known u=true ∧ w'=w.set r (.owned x u)) ∨ (d.known u=false ∧ w'=w.set r (.orphaned x)))
  | .revoke r now =>
      (∃ x u,w.stages r=.owned x u ∧
        w'={w.set r (.rotating x u) with rows := revokeToken w.rows x now}) ∨
      ∃ x,w.stages r=.orphaned x ∧ w'={w.set r .refused with rows := revokeToken w.rows x now}
  | .store r y now => ∃ x u,w.stages r=.rotating x u ∧ w.rows y=none ∧ w'=w.stored d r x y u now

theorem step_cases (h : Step d w a w') : a.Does d w w' := by
  unfold Step ofPartial step at h
  cases a with
  | lookup r x now =>
    dsimp only at h
    split at h
    · rename_i hst
      split at h
      · rename_i row hrow
        exact ⟨hst,.inl ⟨row,hrow,(Option.some.inj h).symm⟩⟩
      · exact ⟨hst,.inr (Option.some.inj h).symm⟩
    · cases h
  | loadOwner r =>
    dsimp only at h
    split at h
    · rename_i x u hst
      cases hk : d.known u with
      | true => exact ⟨x,u,hst,.inl ⟨hk,by simpa [hk] using h.symm⟩⟩
      | false => exact ⟨x,u,hst,.inr ⟨hk,by simpa [hk] using h.symm⟩⟩
    · cases h
  | revoke r now =>
    dsimp only at h
    split at h
    · rename_i x u hst
      exact .inl ⟨x,u,hst,(Option.some.inj h).symm⟩
    · rename_i x hst
      exact .inr ⟨x,hst,(Option.some.inj h).symm⟩
    · cases h
  | store r y now =>
    dsimp only at h
    split at h
    · rename_i x u hst hy
      exact ⟨x,u,hst,hy,(Option.some.inj h).symm⟩
    · cases h

@[simp] theorem revokeToken_self (rows : Rows τ υ) (x : τ) (now : Time) :
    revokeToken rows x now x=(rows x).map fun row => {row with revokedAt := some now} :=
  Function.update_self ..

theorem revokeToken_other (rows : Rows τ υ) (now : Time) (h : y≠x) :
    revokeToken rows x now y=rows y := Function.update_of_ne h ..

theorem not_unrevoked_revokeToken (rows : Rows τ υ) (x : τ) (now : Time) :
    ¬Unrevoked (revokeToken rows x now) x := by
  rintro ⟨row,hrow,hnone⟩
  rw [revokeToken_self] at hrow
  obtain ⟨_,_,rfl⟩ := Option.map_eq_some_iff.mp hrow
  cases hnone

theorem unrevoked_revokeToken_other (rows : Rows τ υ) (now : Time) (h : y≠x) :
    Unrevoked (revokeToken rows x now) y ↔ Unrevoked rows y := by
  unfold Unrevoked
  rw [revokeToken_other rows now h]

theorem owner_revokeToken (x : τ) (now : Time) (h : Owner rows y u) :
    Owner (revokeToken rows x now) y u := by
  obtain ⟨row,hrow,hu⟩ := h
  by_cases hy : y=x
  · subst hy
    exact ⟨{row with revokedAt := some now},by rw [revokeToken_self,hrow]; rfl,hu⟩
  · exact ⟨row,by rw [revokeToken_other rows now hy,hrow],hu⟩

theorem step_deterministic : Deterministic (Step (τ:=τ) d) := deterministic_ofPartial (step d)

/-- A token is revoked by a request that spends it, or belongs to nobody. -/
theorem grows_revoke (hst : ∀ x,(w.stages r).spent=some x → st.spent=some x)
    (hx : st.spent=some x ∨ ∃ u,Owner w.rows x u ∧ d.known u=false) :
    Grows d w {w.set r st with rows := revokeToken w.rows x now} where
  owner := fun _ _ h => owner_revokeToken x now h
  revoked := fun z _ _ h => by
    by_cases hz : z=x
    · subst hz
      exact not_unrevoked_revokeToken _ _ _
    · exact fun hu => h ((unrevoked_revokeToken_other _ _ hz).mp hu)
  spent := spent_set hst
  spender := fun z u ho hk h => by
    by_cases hz : z=x
    · subst hz
      rcases hx with hx|⟨v,hv,hk'⟩
      · exact .inr ⟨r,by change ((w.set r st).stages r).spent=_; rw [set_stages_self,hx]⟩
      · rw [owner_unique ho hv,hk'] at hk
        cases hk
    · exact .inl ((unrevoked_revokeToken_other _ _ hz).mpr h)

/-- The successor's row is new. -/
theorem grows_stored (hst : w.stages r=.rotating x u) (hy : w.rows y=none) :
    Grows d w (w.stored d r x y u now) := by
  have hother : ∀ {z v},Owner w.rows z v → (w.stored d r x y u now).rows z=w.rows z := by
    rintro z v ⟨row,hrow,-⟩
    refine Function.update_of_ne ?_ ..
    rintro rfl
    rw [hy] at hrow
    cases hrow
  refine ⟨fun z v ho => ?_,fun z v ho h => ?_,spent_set ?_,fun z v ho _ h => .inl ?_⟩
  · unfold Owner
    rw [hother ho]
    exact ho
  · unfold Unrevoked
    rw [hother ho]
    exact h
  · intro z hz
    rw [hst] at hz
    exact hz
  · unfold Unrevoked
    rw [hother ho]
    exact h

theorem grows_of_step (h : Owners d w) (hs : Step d w a w') : Grows d w w' := by
  have hdoes := step_cases hs
  cases a with
  | lookup r x now =>
    obtain ⟨hst,⟨row,_,rfl⟩|rfl⟩ := hdoes
    · exact grows_set fun z hz => by rw [hst] at hz; cases hz
    · exact grows_set fun z hz => by rw [hst] at hz; cases hz
  | loadOwner r =>
    obtain ⟨x,u,hst,⟨_,rfl⟩|⟨_,rfl⟩⟩ := hdoes
    · exact grows_set fun z hz => by rw [hst] at hz; cases hz
    · exact grows_set fun z hz => by rw [hst] at hz; cases hz
  | revoke r now =>
    obtain ⟨x,u,hst,rfl⟩|⟨x,hst,rfl⟩ := hdoes
    · exact grows_revoke (fun z hz => by rw [hst] at hz; cases hz) (.inl rfl)
    · have howner := h r
      rw [hst] at howner
      exact grows_revoke (fun z hz => by rw [hst] at hz; cases hz) (.inr howner)
  | store r y now =>
    obtain ⟨x,u,hst,hy,rfl⟩ := hdoes
    exact grows_stored hst hy

/-- Requests keep the tokens of their users. -/
theorem Owners.step (h : Owners d w) (hs : Step d w a w') : Owners d w' := by
  have hg := (grows_of_step h hs).owner
  have hold : ∀ i,StageOwner d w'.rows (w.stages i) := fun i => (h i).grows hg
  have hdoes := step_cases hs
  cases a with
  | lookup r x now =>
    obtain ⟨_,⟨row,hrow,rfl⟩|rfl⟩ := hdoes
    · exact stages_set (findActive_facts hrow).1 hold
    · exact stages_set (P:=StageOwner d _) trivial hold
  | loadOwner r =>
    obtain ⟨x,u,hst,hk⟩ := hdoes
    have howner := h r
    rw [hst] at howner
    obtain ⟨hk,rfl⟩|⟨hk,rfl⟩ := hk
    · exact stages_set (P:=StageOwner d _) ⟨howner,hk⟩ hold
    · exact stages_set (P:=StageOwner d _) ⟨u,howner,hk⟩ hold
  | revoke r now =>
    obtain ⟨x,u,hst,rfl⟩|⟨x,hst,rfl⟩ := hdoes
    · have howner := hold r
      rw [hst] at howner
      exact stages_set (P:=StageOwner d _) howner hold
    · exact stages_set (P:=StageOwner d _) trivial hold
  | store r y now =>
    obtain ⟨x,u,hst,hy,rfl⟩ := hdoes
    have howner := hold r
    rw [hst] at howner
    exact stages_set (P:=StageOwner d _) ⟨u,howner.1⟩ hold

/-- Storing a successor is one more redemption. -/
theorem redeemed_stored (h : Facts d w) (hst : w.stages r=.rotating x u) (i : Nat) (z z' : τ) :
    (w.stored d r x y u now).stages i=.answered z z' ↔
      ∃ a∈(w.stored d r x y u now).redemptions,a.request=i ∧ a.presented=z ∧ a.issued=z' := by
  change (w.set r _).stages i=_ ↔ ∃ a∈w.redemptions++[_],_
  by_cases hi : i=r
  · subst hi
    have hnone : ∀ a∈w.redemptions,a.request≠i := by
      rintro a ha rfl
      have hans := (h.redeemed _ _ _).mpr ⟨a,ha,rfl,rfl,rfl⟩
      rw [hst] at hans
      cases hans
    rw [set_stages_self]
    constructor
    · intro heq
      cases heq
      exact ⟨_,List.mem_append_right _ (List.mem_singleton.mpr rfl),rfl,rfl,rfl⟩
    · rintro ⟨a,ha,hreq,rfl,rfl⟩
      rcases List.mem_append.mp ha with ha|ha
      · exact absurd hreq (hnone a ha)
      · rw [List.mem_singleton.mp ha]
  · rw [set_stages_other w _ hi,h.redeemed i z z']
    constructor
    · rintro ⟨a,ha,hrest⟩
      exact ⟨a,List.mem_append_left _ ha,hrest⟩
    · rintro ⟨a,ha,hreq,hrest⟩
      rcases List.mem_append.mp ha with ha|ha
      · exact ⟨a,ha,hreq,hrest⟩
      · rw [List.mem_singleton.mp ha] at hreq
        exact absurd hreq.symm hi

/-- One step keeps the facts. -/
theorem Facts.step (h : Facts d w) (hs : Step d w a w') : Facts d w' := by
  have hgrows := grows_of_step h.owners hs
  have hold : ∀ i,StageRevocation d w' (w.stages i) := fun i =>
    (h.revocations i).grows (h.owners i) hgrows
  refine ⟨h.owners.step hs,?_,?_⟩
  · have hdoes := step_cases hs
    cases a with
    | lookup r x now =>
      obtain ⟨_,⟨row,hrow,rfl⟩|rfl⟩ := hdoes
      · exact stages_set (P:=StageRevocation d _) (fun _ => .inl (findActive_facts hrow).2) hold
      · exact stages_set (P:=StageRevocation d _) trivial hold
    | loadOwner r =>
      obtain ⟨x,u,hst,hk⟩ := hdoes
      have hheld := hold r
      rw [hst] at hheld
      obtain ⟨hk,rfl⟩|⟨hk,rfl⟩ := hk
      · exact stages_set (P:=StageRevocation d _) (hheld hk) hold
      · exact stages_set (P:=StageRevocation d _) trivial hold
    | revoke r now =>
      obtain ⟨x,u,_,rfl⟩|⟨x,_,rfl⟩ := hdoes
      · exact stages_set (P:=StageRevocation d _) (not_unrevoked_revokeToken _ _ _) hold
      · exact stages_set (P:=StageRevocation d _) trivial hold
    | store r y now =>
      obtain ⟨x,u,hst,_,rfl⟩ := hdoes
      have hheld := hold r
      rw [hst] at hheld
      exact stages_set (P:=StageRevocation d _) hheld hold
  · have hdoes := step_cases hs
    cases a with
    | lookup r x now =>
      obtain ⟨hst,⟨row,_,rfl⟩|rfl⟩ := hdoes
      · exact redeemed_set h (by rw [hst]; exact nofun) nofun
      · exact redeemed_set h (by rw [hst]; exact nofun) nofun
    | loadOwner r =>
      obtain ⟨x,u,hst,⟨_,rfl⟩|⟨_,rfl⟩⟩ := hdoes
      · exact redeemed_set h (by rw [hst]; exact nofun) nofun
      · exact redeemed_set h (by rw [hst]; exact nofun) nofun
    | revoke r now =>
      obtain ⟨x,u,hst,rfl⟩|⟨x,hst,rfl⟩ := hdoes
      · exact redeemed_set h (by rw [hst]; exact nofun) nofun
      · exact redeemed_set h (by rw [hst]; exact nofun) nofun
    | store r y now =>
      obtain ⟨x,u,hst,_,rfl⟩ := hdoes
      exact redeemed_stored h hst

theorem facts_of_run {rows₀ : Rows τ υ} (hrun : Run (Step d) {rows := rows₀} as w) : Facts d w :=
  hrun.invariant (facts_start d rows₀) fun _ _ _ h hs => h.step hs

theorem findActive_mint (rows : Rows τ υ) (y : τ) (ttl : RefreshTtl) (u : υ) (now : Time) :
    (findActive (Function.update rows y (some (mintRefreshToken ttl u now))) y now).isSome := by
  have hlive : now<now+ttl.seconds := Int.lt_add_of_pos_right now (by have := ttl.atLeast; omega)
  simp [findActive,TokenRow.active,mintRefreshToken,hlive]

/-- The only redemption of a token leaves its one successor. -/
theorem SingleUse.stored (h : SingleUse w) (hfacts : Facts d w) (honce : SpentOnce w)
    (hst : w.stages r=.rotating x u) : SingleUse (w.stored d r x y u now) := by
  have hfresh : ∀ a∈w.redemptions,a.presented≠x := by
    rintro a ha rfl
    have hans := (hfacts.redeemed _ _ _).mpr ⟨a,ha,rfl,rfl,rfl⟩
    obtain rfl := honce a.request r _ ((spent_iff hans).mpr rfl) ((spent_iff hst).mpr rfl)
    rw [hst] at hans
    cases hans
  have hnone : successors w.redemptions x=[] := by
    rw [successors,List.filter_eq_nil_iff.mpr fun a ha => by simpa using hfresh a ha,List.map_nil]
  refine ⟨?_,fun a ha => ?_⟩
  · change ((w.redemptions++[_]).map Redemption.presented).Nodup
    rw [List.map_append]
    refine List.nodup_append.mpr ⟨h.1,List.nodup_singleton _,fun z hz z' hz' => ?_⟩
    obtain ⟨a,ha,rfl⟩ := List.mem_map.mp hz
    rw [List.mem_singleton.mp hz']
    exact hfresh a ha
  · rcases List.mem_append.mp ha with ha|ha
    · exact h.2 a ha
    · rw [List.mem_singleton.mp ha]
      dsimp only
      rw [hnone,List.nil_append]
      exact List.filter_cons_of_pos (findActive_mint ..)

/-- Requests of which every one revoked an unrevoked token have spent each
token once; one that did not has spent it a second time. -/
theorem spent_of_run {rows₀ : Rows τ υ} (hrun : Run (Step d) {rows := rows₀} as w) :
    (Run (guarded (Step d) OnUnrevoked) {rows := rows₀} as w ∧ SpentOnce w ∧ SingleUse w) ∨
      (¬Run (guarded (Step d) OnUnrevoked) {rows := rows₀} as w ∧ SpentTwice w) := by
  induction hrun with
  | start =>
    exact .inl ⟨.start,fun _ _ _ h => (by cases h),List.nodup_nil,fun _ h => absurd h List.not_mem_nil⟩
  | @next as w w' a hrun hs ih =>
    have hclean := hrun.guarded_next_iff (C:=OnUnrevoked) step_deterministic hs
    have hfacts := facts_of_run hrun
    have hgrows := grows_of_step hfacts.owners hs
    rw [hclean]
    rcases ih with ⟨hg,honce,hsingle⟩|⟨hg,htwice⟩
    · have hdoes := step_cases hs
      cases a with
      | lookup r x now =>
        refine .inl ⟨⟨hg,trivial⟩,?_⟩
        obtain ⟨hst,⟨row,_,rfl⟩|rfl⟩ := hdoes
        · exact ⟨honce.set fun _ h => (by cases h),hsingle⟩
        · exact ⟨honce.set fun _ h => (by cases h),hsingle⟩
      | loadOwner r =>
        refine .inl ⟨⟨hg,trivial⟩,?_⟩
        obtain ⟨x,u,hst,⟨_,rfl⟩|⟨_,rfl⟩⟩ := hdoes
        · exact ⟨honce.set fun _ h => (by cases h),hsingle⟩
        · exact ⟨honce.set fun _ h => (by cases h),hsingle⟩
      | revoke r now =>
        obtain ⟨x,u,hst,rfl⟩|⟨x,hst,rfl⟩ := hdoes
        · have hheld := hfacts.revocations r
          rw [hst] at hheld
          by_cases hx : Unrevoked w.rows x
          · refine .inl ⟨⟨hg,fun z v hz => ?_⟩,?_,hsingle⟩
            · rw [hst] at hz
              cases hz
              exact hx
            · exact honce.revoked hfacts hx
          · -- Another request has spent the token in the meantime.
            obtain ⟨i,hi⟩ := hheld.resolve_left hx
            have hir : i≠r := by
              rintro rfl
              rw [hst] at hi
              cases hi
            refine .inr ⟨fun h => hx (h.2 x u hst),i,r,x,hir,hgrows.spent i x hi,?_⟩
            exact (spent_iff (set_stages_self w r (.rotating x u))).mpr rfl
        · refine .inl ⟨⟨hg,fun z v hz => ?_⟩,honce.set fun _ h => (by cases h),hsingle⟩
          rw [hst] at hz
          cases hz
      | store r y now =>
        obtain ⟨x,u,hst,hy,rfl⟩ := hdoes
        exact .inl ⟨⟨hg,trivial⟩,honce.set fun z hz => (spent_iff hst).mpr hz,
          hsingle.stored hfacts honce hst⟩
    · exact .inr ⟨fun h => hg h.1,htwice.grows hgrows⟩

/-- While every request that goes on revokes a token nobody has revoked, in
every state reached each token was redeemed at most once and left one live
successor. Of requests that all came to their end this is true only then. -/
theorem single_use_iff (d : AuthSetup υ) (rows₀ : Rows τ υ) (as : List (Act τ)) (w : World τ υ)
    (hrun : Run (Step d) {rows := rows₀} as w) :
    (Run (guarded (Step d) OnUnrevoked) {rows := rows₀} as w → SingleUse w) ∧
      (Finished w →
        (SingleUse w ↔ Run (guarded (Step d) OnUnrevoked) {rows := rows₀} as w)) := by
  rcases spent_of_run hrun with ⟨hg,-,hsingle⟩|⟨hg,htwice⟩
  · exact ⟨fun _ => hsingle,fun _ => iff_of_true hsingle hg⟩
  · exact ⟨fun h => absurd h hg,
      fun hfin => iff_of_false (htwice.not_singleUse (facts_of_run hrun) hfin) hg⟩

end Run

/-- A deployment with tokens of thirty days. -/
def agencySetup : AuthSetup String where
  known := fun _ => true
  ttl := ⟨30*24*3600,by decide⟩

/-- One token, number 1, of one user. -/
def agencyTokens : Rows Nat String
  | 1 => some {userId := "agent",expiresAt := 1000}
  | _ => none

/-- A single request leaves token 2 in place of token 1. -/
theorem single_use_iff_alone :
    ∃ w,Run (Step agencySetup) {rows := agencyTokens}
        [.lookup 0 1 10,.loadOwner 0,.revoke 0 11,.store 0 2 12] w ∧
      w.redemptions=[⟨0,1,2,[2]⟩] ∧ SingleUse w := by
  have hlookup : Run (guarded (Step agencySetup) OnUnrevoked) {rows := agencyTokens}
      [.lookup 0 1 10] _ := Run.start.next ⟨rfl,trivial⟩
  have howned := hlookup.next (l:=Act.loadOwner 0) ⟨rfl,trivial⟩
  have hrevoked := howned.next (l:=Act.revoke 0 11) ⟨rfl,fun x u h => by cases h; exact ⟨_,rfl,rfl⟩⟩
  have hrun := hrevoked.next (l:=Act.store 0 2 12) ⟨rfl,trivial⟩
  exact ⟨_,hrun.unguard,rfl,(single_use_iff _ _ _ _ hrun.unguard).1 hrun⟩

/-- Two requests present token 1 before either revokes it: both are answered
with a token pair and both successors are live. -/
theorem token_redeemed_twice :
    ∃ w,Run (Step agencySetup) {rows := agencyTokens}
        [.lookup 0 1 10,.lookup 1 1 10,.loadOwner 0,.loadOwner 1,.revoke 0 11,.store 0 2 12,
          .revoke 1 12,.store 1 3 13] w ∧
      w.redemptions=[⟨0,1,2,[2]⟩,⟨1,1,3,[2,3]⟩] ∧ ¬SingleUse w := by
  refine ⟨_,run_of_foldlM rfl,rfl,fun h => ?_⟩
  exact absurd h.1 (by decide)

end Voyagent.RefreshTokens
