import Voyagent.CanonicalTravel
import Voyagent.EffectPrograms
import Voyagent.FallibleResults
import Voyagent.PythonNumbers

/-!
# The Amadeus client

The errors of the driver contract, the requests the Amadeus driver makes and the
loop that sends one until it is answered for good. A program of the driver asks
for tokens, exchanges, cache entries, the clock and new identifiers; whatever
these are is left to the environment.
-/

namespace Voyagent.AmadeusClient

open RuntimeValues KeyedMap CanonicalTravel CanonicalFinance EffectPrograms PythonNumbers

/-! ## Errors -/

/-- The subclasses of `DriverError`; none derives from another. -/
inductive DriverErrorKind where
  | capabilityNotSupported | authentication | authorization | rateLimit | transient | permanent
  | validationFailed | notFound | conflict | upstreamTimeout
  deriving DecidableEq

structure DriverError where
  kind : DriverErrorKind
  driver : String
  message : String
  vendorRef : Option String := none
  /-- The header that gives `retry_after_seconds`. -/
  retryAfter : Option String := none
  deriving DecidableEq

/-- What a call of the driver raises. -/
inductive Failure where
  | driver (error : DriverError)
  /-- An exception of another class. -/
  | other (typeName text : String)
  deriving DecidableEq

def driverName : String := "amadeus"

def Failure.of (kind : DriverErrorKind) (message : String) : Failure :=
  .driver {kind := kind,driver := driverName,message := message}

def Failure.kind? : Failure → Option DriverErrorKind
  | .driver error => some error.kind
  | .other _ _ => none

/-- A `ValidationFailedError` or a `PermanentError`. -/
def Failure.refuses (e : Failure) : Bool :=
  e.kind?==some .validationFailed || e.kind?==some .permanent

/-! ## Values -/

/-- A reading of `datetime.fromisoformat`, a naive one taken as UTC. -/
structure IsoReading where
  instant : Instant
  /-- `astimezone` does not overflow. -/
  inRange : Bool

/-- What the driver uses of Python. -/
structure AmadeusLibrary where
  /-- `repr` of a value, which is `str` of one that is no text. -/
  repr : Json → String
  /-- `Decimal` of a text. -/
  decimal : String → DecimalReading
  /-- `float` accepts a text. -/
  isFloat : String → Bool
  /-- `datetime.fromisoformat`. -/
  fromIso : String → Option IsoReading
  /-- `str.upper`. -/
  upper : String → String

/-- `str(value)`. -/
def AmadeusLibrary.str (lib : AmadeusLibrary) : Json → String
  | .str s => s
  | value => lib.repr value

/-- `value or default`. -/
def orElse (value default : Json) : Json := if isTruthy value then value else default

/-- `d.get(key)`. -/
def member (d : Dict) (key : String) : Json := (get d key).getD .null

/-- `value.get(key)`, on a value of any type. -/
def memberOf (value : Json) (key : String) : Except Failure Json :=
  match value with
  | .obj fields => .ok (member fields key)
  | v => .error (.other "AttributeError" ("'"++pyTypeName v++"' object has no attribute 'get'"))

/-- The elements `for` goes through. -/
def elements : Json → Except Failure (List Json)
  | .arr values => .ok values
  | .obj fields => .ok (fields.map fun e => .str e.1)
  | .str s => .ok (s.toList.map fun c => .str (String.singleton c))
  | v => .error (.other "TypeError" ("'"++pyTypeName v++"' object is not iterable"))

/-- `len(value)`. -/
def lengthOf : Json → Except Failure Nat
  | .arr values => .ok values.length
  | .obj fields => .ok fields.length
  | .str s => .ok s.toList.length
  | v => .error (.other "TypeError" ("object of type '"++pyTypeName v++"' has no len()"))

/-- `value.get(key) if isinstance(value, dict) else None`. -/
def fieldOf (value : Json) (key : String) : Json :=
  match value with
  | .obj fields => member fields key
  | _ => .null

/-! ## Requests -/

/-- The offer a value stands for: the search that found it and its place in the
answer. The code does not see it. -/
abbrev Origin : Type := Nat × Nat

structure Tagged (α : Type) where
  origin : Origin
  value : α
  deriving DecidableEq

inductive Request where
  /-- `GET /v2/shopping/flight-offers`. -/
  | searchOffers (params : Table String String)
  /-- `POST /v1/shopping/flight-offers/pricing`. -/
  | priceOffer (offer : Tagged Json)
  /-- `POST /v1/booking/flight-orders`. -/
  | bookOrder (offers : List (Tagged Json)) (travelers : List Json)
  /-- `GET /v1/booking/flight-orders/...`. -/
  | readOrder (id : String)
  /-- `DELETE /v1/booking/flight-orders/...`. -/
  | deleteOrder (id : String)
  deriving DecidableEq

def Request.method : Request → String
  | .searchOffers _ | .readOrder _ => "GET"
  | .priceOffer _ | .bookOrder _ _ => "POST"
  | .deleteOrder _ => "DELETE"

def Request.path : Request → String
  | .searchOffers _ => "/v2/shopping/flight-offers"
  | .priceOffer _ => "/v1/shopping/flight-offers/pricing"
  | .bookOrder _ _ => "/v1/booking/flight-orders"
  | .readOrder id | .deleteOrder id => "/v1/booking/flight-orders/"++id

/-- The JSON body. -/
def Request.json : Request → Option Json
  | .priceOffer offer => some (.obj [("data",.obj [("type",.str "flight-offers-pricing"),
      ("flightOffers",.arr [offer.value])])])
  | .bookOrder offers travelers => some (.obj [("data",.obj [("type",.str "flight-order"),
      ("flightOffers",.arr (offers.map Tagged.value)),("travelers",.arr travelers)])])
  | _ => none

/-- The content of a response. -/
inductive Content where
  | empty
  | json (value : Json)
  /-- Content that is no JSON. -/
  | text (s : String)
  deriving DecidableEq

structure Response where
  status : Nat
  content : Content
  /-- The header `Retry-After`. -/
  retryAfter : Option String := none
  deriving DecidableEq

/-- How an attempt ends for the client. -/
inductive Reply where
  /-- `httpx.TimeoutException`. -/
  | timeout
  /-- Another `httpx.HTTPError`. -/
  | networkError (message : String)
  /-- Any other exception. -/
  | raised (typeName text : String)
  | response (r : Response)
  deriving DecidableEq

/-- One attempt: the order the vendor created or cancelled by it, if it got that
far, and what the client sees. -/
structure Exchange where
  acted : Option String
  reply : Reply
  deriving DecidableEq

/-! ## Questions of the driver -/

inductive Question where
  /-- `get_token`, for an attempt of the request. -/
  | token (r : Request)
  | send (r : Request)
  | cacheGet (key : String)
  | cachePut (key : String) (offer : Tagged Dict) (ttlSeconds : Nat)
  | cacheDelete (key : String)
  | now
  /-- `_new_entity_id`; the offer a fare id is drawn for is not seen by the code. -/
  | newId (fareOf : Option Origin)
  | resolve (tenantId : EntityId) (passengerIds : List EntityId)
  deriving DecidableEq

/-- What a question is answered with. -/
abbrev Answer : Question → Type
  | .token _ => Except Failure Unit
  | .send _ => Exchange
  | .cacheGet _ => Except Failure (Option (Tagged Dict))
  | .cachePut _ _ _ => Except Failure Unit
  | .cacheDelete _ => Except Failure Unit
  | .now => Instant
  | .newId _ => EntityId
  | .resolve _ _ => Except Failure (List Passenger)

/-- A program of the driver. -/
abbrev Prog (α : Type) : Type := Program Question Answer Failure α

/-- Raise. -/
def raise {α : Type} (e : Failure) : Prog α := .fail e

/-- `_new_entity_id`. -/
def newEntityId (fareOf : Option Origin) : Prog EntityId := query (Question.newId fareOf)

/-- `datetime.now(timezone.utc)`. -/
def utcNow : Prog Instant := query Question.now

section Asking

variable {γ : Type} {env : Environment Answer γ} {allowed : γ → Question → Prop} {g : γ}
  {ok : Question → Prop} {fareOf : Option Origin}

theorem uses_newEntityId (h : ok (.newId fareOf)) : Uses ok (newEntityId fareOf) := uses_query h

theorem uses_utcNow (h : ok .now) : Uses ok utcNow := uses_query h

theorem meets_newEntityId {post : γ → Except Failure EntityId → Prop}
    (hallowed : allowed g (.newId fareOf))
    (hpost : ∀ id g',env g (.newId fareOf) id=some g' → post g' (.ok id)) :
    Meets env allowed post (newEntityId fareOf) g := ⟨hallowed,hpost⟩

theorem meets_utcNow {post : γ → Except Failure Instant → Prop} (hallowed : allowed g .now)
    (hpost : ∀ now g',env g .now now=some g' → post g' (.ok now)) :
    Meets env allowed post utcNow g := ⟨hallowed,hpost⟩

end Asking

/-! ## Error mapping -/

/-- `AmadeusConfig`, as far as requests depend on it; the timeout is its text. -/
structure AmadeusConfig where
  apiBase : String := "https://test.api.amadeus.com"
  clientId : String := ""
  clientSecret : String := ""
  timeoutSeconds : String := "30.0"
  maxRetries : Nat := 2
  deriving DecidableEq

section Client

variable (lib : AmadeusLibrary)

def cut (n : Nat) (s : String) : String := String.ofList (s.toList.take n)

/-- `str(value or default)`. -/
def textOr (value : Json) (default : String) : String :=
  if isTruthy value then lib.str value else default

/-- `_extract_error_fields`: code, title and detail. -/
def extractErrorFields (r : Response) : Option String × String × String :=
  let http := "HTTP "++toString r.status
  let code := fun value => if value=Json.null then none else some (lib.str value)
  match r.content with
  | .empty => (none,http,"")
  | .text s => (none,http,cut 500 s)
  | .json (.obj body) =>
    match member body "errors" with
    | .arr (first::_) =>
      let fields := match first with
        | .obj fields => fields
        | _ => []
      (code (member fields "code"),textOr lib (member fields "title") http,
        textOr lib (orElse (member fields "detail") (member fields "description")) "")
    | _ =>
      match get body "error" with
      | some error =>
        (some (lib.str error),textOr lib error http,textOr lib (member body "error_description") "")
      | none => (none,http,cut 500 (lib.str (.obj body)))
  | .json body => (none,http,cut 500 (lib.str body))

/-- A text occurs in another. -/
def occursIn (word s : String) : Bool := s.toList.tails.any fun rest => word.toList.isPrefixOf rest

/-- `_is_validation_code`. -/
def isValidationCode (code : Option String) (title : String) : Bool :=
  ((code.map fun c => isDigits c.toList).getD false) ||
    ["invalid","mandatory","missing","format","parameter","validation"].any fun word =>
      occursIn word title.toLower

/-- `_parse_retry_after`. -/
def parseRetryAfter (r : Response) : Option String := r.retryAfter.filter lib.isFloat

/-- The class of the error of a status. -/
def errorKind (code : Option String) (title : String) (status : Nat) : DriverErrorKind :=
  if status=401 then .authentication
  else if status=403 then .authorization
  else if status=404 then .notFound
  else if status=409 then .conflict
  else if status=429 then .rateLimit
  else if status=400 then if isValidationCode code title then .validationFailed else .permanent
  else if status=503 ∨ status=504 then .transient
  else .permanent

/-- `map_amadeus_error`. A title is never empty, so that a message is never. -/
def mapAmadeusError (r : Response) : DriverError :=
  let (code,title,detail) := extractErrorFields lib r
  let kind := errorKind code title r.status
  { kind := kind
    driver := driverName
    message := if detail="" then title else detail
    vendorRef := some (match code.filter (· ≠ "") with
      | some c => pyStrip (c++" "++title)
      | none => title)
    retryAfter := if kind=.rateLimit ∨ kind=.transient then parseRetryAfter lib r else none }

/-! ## The loop -/

/-- What the client makes of an attempt. -/
inductive Verdict where
  | done (body : Json)
  /-- An error that is raised unless there is another attempt. -/
  | again (error : Failure)
  | failed (error : Failure)
  deriving DecidableEq

/-- The error of a response whose content is no JSON. -/
def nonJsonError (req : Request) (status : Nat) (s : String) : DriverError where
  kind := .permanent
  driver := driverName
  message := "Amadeus returned non-JSON body on "++req.method++" "++req.path++" (HTTP "++
    toString status++"): "++lib.repr (.str (cut 200 s))
  vendorRef := some ("HTTP "++toString status++" non-json")

/-- `_decode_json_or_raise`, after the check for content. -/
def decode (req : Request) (r : Response) : Verdict :=
  match r.content with
  | .empty => .done .null
  | .json value => if r.status=204 then .done .null else .done value
  | .text s =>
    if r.status=204 then .done .null else .failed (.driver (nonJsonError lib req r.status s))

/-- `_should_retry`. -/
def shouldRetry (cfg : AmadeusConfig) (attempts : Nat) : Bool := attempts≤cfg.maxRetries

/-- Try again, if a retry is left. -/
def retried (cfg : AmadeusConfig) (attempts : Nat) (error : Failure) : Verdict :=
  if shouldRetry cfg attempts then .again error else .failed error

/-- The client's reaction to the reply on the attempt of this number. A first 401
is tried again with another token. -/
def judge (cfg : AmadeusConfig) (req : Request) (attempts : Nat) : Reply → Verdict
  | .timeout => retried cfg attempts (.of .upstreamTimeout
      ("Timeout on "++req.method++" "++req.path++" after "++cfg.timeoutSeconds++"s."))
  | .networkError message => retried cfg attempts (.of .transient
      ("Network error on "++req.method++" "++req.path++": "++message))
  | .raised typeName text => .failed (.other typeName text)
  | .response r =>
    if r.status<400 then decode lib req r
    else
      let error := mapAmadeusError lib r
      if error.kind=.authentication ∧ attempts=1 then .again (.driver error)
      else if error.kind=.transient ∨ error.kind=.rateLimit then
        retried cfg attempts (.driver error)
      else .failed (.driver error)

/-- One attempt: a token, and the exchange. -/
def attempt (req : Request) : Prog Exchange := do
  ofExcept (← query (.token req))
  query (Question.send req)

/-- Act on a verdict. -/
def settle (next : Failure → Prog Json) : Verdict → Prog Json
  | .done body => pure body
  | .failed error => raise error
  | .again error => next error

/-- `_request`, when attempts were made before and others may follow. -/
def requestLoop (cfg : AmadeusConfig) (req : Request) : Nat → Nat → Prog Json
  | 0,made => do
    let exchange ← attempt req
    settle raise (judge lib cfg req (made+1) exchange.reply)
  | left+1,made => do
    let exchange ← attempt req
    settle (fun _ => requestLoop cfg req left (made+1)) (judge lib cfg req (made+1) exchange.reply)

/-- `_request`. At most one attempt follows the last retry, after a first 401. -/
def request (cfg : AmadeusConfig) (req : Request) : Prog Json :=
  requestLoop lib cfg req (max cfg.maxRetries 1) 0

/-! ## What a request meets -/

variable {lib} {cfg : AmadeusConfig} {req : Request}

variable {n : Nat} {reply : Reply} {e e' : Failure}

theorem retried_cases (cfg : AmadeusConfig) (n : Nat) (e : Failure) :
    retried cfg n e=.again e ∧ n≤cfg.maxRetries ∨ retried cfg n e=.failed e := by
  unfold retried shouldRetry
  by_cases hretry : n≤cfg.maxRetries
  · exact .inl ⟨if_pos (decide_eq_true hretry),hretry⟩
  · exact .inr (if_neg (by simpa using hretry))

/-- What the client makes of a reply: a success is decoded; an error status or a
lost reply gives an error, which is tried again within the bound. -/
theorem judge_cases (lib : AmadeusLibrary) (cfg : AmadeusConfig) (req : Request) (n : Nat)
    (reply : Reply) :
    (∃ r,reply=.response r ∧ r.status<400 ∧ judge lib cfg req n reply=decode lib req r) ∨
    ∃ e,((∃ r,reply=.response r ∧ ¬r.status<400 ∧ e=.driver (mapAmadeusError lib r)) ∨
        (∀ r,reply≠.response r) ∧ e.refuses=false) ∧
      (judge lib cfg req n reply=.again e ∧ n≤ max cfg.maxRetries 1 ∨
        judge lib cfg req n reply=.failed e) := by
  have hretried : ∀ e,retried cfg n e=.again e ∧ n≤ max cfg.maxRetries 1 ∨ retried cfg n e=.failed e :=
    fun e => (retried_cases cfg n e).imp_left fun h => ⟨h.1,h.2.trans (Nat.le_max_left _ _)⟩
  cases reply with
  | timeout | networkError message => exact .inr ⟨_,.inr ⟨nofun,rfl⟩,hretried _⟩
  | raised typeName text => exact .inr ⟨_,.inr ⟨nofun,rfl⟩,.inr rfl⟩
  | response r =>
    by_cases hstatus : r.status<400
    · exact .inl ⟨r,rfl,hstatus,if_pos hstatus⟩
    · refine .inr ⟨_,.inl ⟨r,rfl,hstatus,rfl⟩,?_⟩
      unfold judge
      dsimp only
      rw [if_neg hstatus]
      split
      · rename_i hfirst
        exact .inl ⟨rfl,hfirst.2.le.trans (Nat.le_max_right _ _)⟩
      · split
        · exact hretried _
        · exact .inr rfl

/-- A success is not tried again. -/
theorem decode_ne_again (r : Response) : decode lib req r≠.again e := by
  unfold decode
  split
  · exact nofun
  · split <;> exact nofun
  · split <;> exact nofun

/-- An attempt is tried again while retries are left, or once after a first 401. -/
theorem judge_again (h : judge lib cfg req n reply=.again e) : n≤ max cfg.maxRetries 1 := by
  rcases judge_cases lib cfg req n reply with ⟨r,-,-,hdecode⟩|⟨e',-,⟨-,hle⟩|hfailed⟩
  · exact absurd (hdecode.symm.trans h) (decode_ne_again r)
  · exact hle
  · cases hfailed.symm.trans h

variable {γ : Type} {env : Environment Answer γ} {allowed : γ → Question → Prop}
  {post : γ → Except Failure Json → Prop}

/-- What one attempt has to meet: it ends the request, or hands on an invariant
that counts the attempts made. -/
def AttemptPost (lib : AmadeusLibrary) (cfg : AmadeusConfig) (req : Request)
    (post : γ → Except Failure Json → Prop) (I : Nat → γ → Prop) (made : Nat) (g : γ)
    (r : Except Failure Exchange) : Prop :=
  match r with
  | .error e => post g (.error e)
  | .ok x =>
    match judge lib cfg req (made+1) x.reply with
    | .done body => post g (.ok body)
    | .failed e => post g (.error e)
    | .again _ => I (made+1) g

variable {I : Nat → γ → Prop} {g : γ}

/-- An attempt that met its part is followed by what the loop goes on with. -/
theorem meets_settle {made : Nat} {next : Failure → Prog Json} {x : Exchange}
    (h : AttemptPost lib cfg req post I made g (.ok x))
    (hnext : ∀ e,judge lib cfg req (made+1) x.reply=.again e → I (made+1) g →
      Meets env allowed post (next e) g) :
    Meets env allowed post (settle next (judge lib cfg req (made+1) x.reply)) g := by
  unfold AttemptPost at h
  dsimp only at h
  cases hjudge : judge lib cfg req (made+1) x.reply with
  | done body =>
    rw [hjudge] at h
    exact h
  | failed e =>
    rw [hjudge] at h
    exact h
  | again e =>
    rw [hjudge] at h
    exact hnext e hjudge h

theorem meets_requestLoop
    (hstep : ∀ n g,I n g → Meets env allowed (AttemptPost lib cfg req post I n) (attempt req) g)
    {left made : Nat} (hfuel : max cfg.maxRetries 1≤ made+left) (h : I made g) :
    Meets env allowed post (requestLoop lib cfg req left made) g := by
  induction left generalizing made g with
  | zero =>
    refine Meets.bind ((hstep made g h).imp fun g r hr => ?_)
    cases r with
    | error e => exact hr
    | ok x =>
      refine meets_settle hr fun e hjudge _ => ?_
      have hle := judge_again hjudge
      omega
  | succ left ih =>
    refine Meets.bind ((hstep made g h).imp fun g r hr => ?_)
    cases r with
    | error e => exact hr
    | ok x => exact meets_settle hr fun e _ hnext => ih (by omega) hnext

/-- A request meets what each of its attempts meets. -/
theorem meets_request
    (hstep : ∀ n g,I n g → Meets env allowed (AttemptPost lib cfg req post I n) (attempt req) g)
    (h : I 0 g) : Meets env allowed post (request lib cfg req) g :=
  meets_requestLoop hstep (Nat.zero_add _).ge h

theorem uses_requestLoop {ok : Question → Prop} (htoken : ok (.token req)) (hsend : ok (.send req))
    (left made : Nat) : Uses ok (requestLoop lib cfg req left made) := by
  have hattempt : Uses ok (attempt req) :=
    (uses_query htoken).bind fun x => (uses_ofExcept x).bind fun _ => uses_query hsend
  have hsettle : ∀ {next : Failure → Prog Json},(∀ e,Uses ok (next e)) → ∀ v,Uses ok (settle next v) := by
    intro next hnext v
    cases v with
    | done body => exact uses_pure body
    | failed e => exact uses_fail e
    | again e => exact hnext e
  induction left generalizing made with
  | zero => exact hattempt.bind fun x => hsettle (fun e => uses_fail e) _
  | succ left ih => exact hattempt.bind fun x => hsettle (fun _ => ih (made+1)) _

theorem uses_request {ok : Question → Prop} (htoken : ok (.token req)) (hsend : ok (.send req)) :
    Uses ok (request lib cfg req) := uses_requestLoop htoken hsend _ _

/-- The requests a question is about, if it is about one, are of a kind. -/
def Question.Within (R : Request → Prop) : Question → Prop
  | .token r => R r
  | .send r => R r
  | _ => True

/-- The program makes only requests of a kind. -/
def Requests {α : Type} (R : Request → Prop) (p : Prog α) : Prop := Uses (Question.Within R) p

end Client

end Voyagent.AmadeusClient
