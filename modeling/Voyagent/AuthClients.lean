import Voyagent.SessionPlaces

/-!
# What the API answers the sign-in clients

The web, desktop and mobile clients send the same requests: they sign in and
up, exchange a refresh token, sign out, and ask for the profile a token belongs
to.
-/

namespace Voyagent.AuthClients

open SessionPlaces

/-- `PublicUser`. -/
structure PublicUser where
  id : String
  email : String
  fullName : Option String
  role : String
  tenantId : String
  tenantName : String
  createdAt : String
  deriving DecidableEq

/-- `AuthResponse`. A refresh is answered without the user. -/
structure AuthResponse (τ : Type) where
  accessToken : τ
  refreshToken : τ
  expiresIn : Int
  user : Option PublicUser := none
  deriving DecidableEq

structure SignInInput where
  email : String
  password : String

structure SignUpInput where
  email : String
  password : String
  fullName : String
  agencyName : String

/-- What becomes of a request: the network fails, or there is an answer with its
status, its body where that reads as the one expected, and the `detail` of an error. -/
inductive Reply (β : Type) where
  | unreachable
  | answered (status : Nat) (body : Option β) (detail : Option String := none)

/-- `res.ok`. -/
def okStatus (status : Nat) : Bool := decide (200 ≤ status) && decide (status<300)

/-- The body of a successful answer. -/
def Reply.granted {β : Type} : Reply β → Option β
  | .answered status body _ => if okStatus status then body else none
  | .unreachable => none

/-- The API answered with status 401. -/
def Reply.rejected {β : Type} : Reply β → Bool
  | .answered status _ _ => status==401
  | .unreachable => false

/-- `SKEW_MS`. -/
def skewMs : Int := 30000

/-! ## What tokens and profiles stand for -/

/-- The expiry a token claims, the sign-in it descends from, and whose sign-in that was. -/
structure Issued (τ ι : Type) where
  /-- `jwtExpMs`. -/
  expMs : τ → Int
  origin : τ → Origin ι
  /-- The `id` of the user. -/
  person : Origin ι → String

/-- What a client learns of a session. -/
inductive Datum (τ : Type) where
  | token (t : τ)
  | user (id : String)
  deriving DecidableEq

section Issuing

variable {τ ι : Type} [DecidableEq ι] (m : Issued τ ι)

def Issued.belongs : Datum τ → Origin ι → Bool
  | .token t,k => m.origin t==k
  | .user id,k => m.person k==id

/-- A token pair of a sign-in, with its user if any. -/
def Issued.pairOf (k : Origin ι) (wire : AuthResponse τ) : Bool :=
  m.origin wire.accessToken==k && m.origin wire.refreshToken==k &&
    wire.user.all fun u => m.person k==u.id

/-- The API answers a request with a token pair of the sign-in it was made for. -/
def Issued.honestPair (k : Origin ι) (reply : Reply (AuthResponse τ)) : Bool :=
  reply.granted.all (m.pairOf k)

/-- A sign-in is answered with a token pair of its own and the user. -/
def Issued.honestSignIn (k : Origin ι) (reply : Reply (AuthResponse τ)) : Bool :=
  reply.granted.all fun wire => m.pairOf k wire && wire.user.isSome

/-- The API answers with the profile that the token belongs to. -/
def Issued.honestMe (token : τ) (reply : Reply PublicUser) : Bool :=
  reply.granted.all fun u => m.person (m.origin token)==u.id

/-- All data may be where data of one owner may be. -/
def Issued.fits (ds : List (Datum τ)) (o : Option (Origin ι)) : Bool :=
  ds.all fun d => o.any (m.belongs d)

abbrev Issued.Belongs (d : Datum τ) (k : Origin ι) : Prop := m.belongs d k=true

theorem fits_iff (ds : List (Datum τ)) (o : Option (Origin ι)) :
    m.fits ds o=true ↔ Owned m.Belongs ds o := by
  simp only [Issued.fits,Owned,List.all_eq_true,Option.any_eq_true]

/-- The tokens of a pair belong to its sign-in, and so does its user. -/
theorem belongs_of_pairOf {k : Origin ι} {wire : AuthResponse τ} (h : m.pairOf k wire=true) :
    m.Belongs (.token wire.accessToken) k ∧ m.Belongs (.token wire.refreshToken) k ∧
      ∀ u,wire.user=some u → m.Belongs (.user u.id) k := by
  simp only [Issued.pairOf,Bool.and_eq_true] at h
  obtain ⟨⟨haccess,hrefresh⟩,huser⟩ := h
  refine ⟨haccess,hrefresh,fun u hu => ?_⟩
  rw [hu] at huser
  exact huser

end Issuing

end Voyagent.AuthClients
