import Voyagent.AuthAccounts
import Voyagent.CodePoints
import Voyagent.FallibleResults
import Voyagent.TransitionRuns

/-!
# API keys for headless access

The row of a key holds the first part of its text, by which it is looked up,
and the hash of the whole. Beside the tables the model keeps what the calls so
far have granted: every key that was returned, until it is revoked or its user
is deleted.
-/

namespace Voyagent.ApiKeys

open AuthAccounts CodePoints FallibleResults TransitionRuns

/-- UTC instants, in microseconds. -/
abbrev Instant : Type := Int

/-- The columns of a user that a principal is made of. -/
structure User where
  id : UserId
  tenantId : TenantId
  email : String
  role : UserRole
  deriving DecidableEq

/-- A hashed API key owned by a tenant and created by one user. -/
structure ApiKeyRow where
  id : Draw
  tenantId : TenantId
  createdByUserId : UserId
  name : Text
  keyPrefix : Text
  keyHash : Text
  scopes : String := "full"
  expiresAt : Option Instant
  revokedAt : Option Instant := none
  lastUsedAt : Option Instant := none
  deriving DecidableEq

/-- The tables; a key refers to its tenant and to its user and goes with the user. -/
structure Tables where
  tenants : List TenantId := []
  users : List User := []
  apiKeys : List ApiKeyRow := []
  deriving DecidableEq

/-- A verified caller identity; the `jti` is the id after `apikey:`. -/
structure AuthenticatedPrincipal where
  userId : UserId
  tenantId : TenantId
  email : String
  role : String
  jti : Draw
  exp : Int
  deriving DecidableEq

/-- What the functions raise. -/
inductive Raised where
  | unicodeEncodeError
  | multipleResultsFound
  | overflowError
  /-- The driver refuses a text. -/
  | databaseError
  /-- HTTP 500, `api_key_mint_collision`. -/
  | mintCollision
  deriving DecidableEq

/-- What the functions use of the standard library and of the driver. -/
structure Backend where
  /-- `hashlib.sha256` of the UTF-8 bytes, as hex digits. -/
  sha256Hex : Text → Text
  /-- The driver can send the text to the server. -/
  sendable : Text → Bool

/-! ## Key shape -/

/-- `API_KEY_SCHEME_PREFIX`. -/
def schemePrefix : Text := codePoints "vy_"

/-- `PREFIX_LEN`. -/
def prefixLen : Nat := 8

/-- `BODY_LEN`. -/
def bodyLen : Nat := 32

def underscore : Nat := 0x5F

def hyphen : Nat := 0x2D

/-- `raw.replace("-", "").replace("_", "")`. -/
def cleaned (raw : Text) : Text := raw.filter fun c => decide (c≠hyphen ∧ c≠underscore)

/-- The loop of `_urlsafe`, on what `token_urlsafe` returns next. -/
def extended (n : Nat) (clean : Text) : List Text → Option (Text × List Text)
  | [] => if n≤clean.length then some (clean.take n,[]) else none
  | raw::draws =>
    if n≤clean.length then some (clean.take n,raw::draws)
    else extended n (clean++cleaned raw) draws

/-- `_urlsafe`; `none` if the draws do not suffice. -/
def urlsafe (n : Nat) : List Text → Option (Text × List Text)
  | [] => none
  | raw::draws => extended n (cleaned raw) draws

/-- `mint_api_key_plaintext`. -/
def mintApiKeyPlaintext (draws : List Text) : Option (Text × Text) := do
  let (keyPrefix,draws) ← urlsafe prefixLen draws
  let (body,_) ← urlsafe bodyLen draws
  some (schemePrefix++keyPrefix++underscore::body,keyPrefix)

/-- `hash_api_key`. -/
def hashApiKey (B : Backend) (fullKey : Text) : Except Raised Text :=
  if fullKey.any isSurrogate then .error .unicodeEncodeError else .ok (B.sha256Hex fullKey)

/-- `parse_api_key` of a string. -/
def parseApiKey (fullKey : Text) : Option (Text × Text) :=
  if schemePrefix.isPrefixOf fullKey then
    match splitOnce underscore (fullKey.drop schemePrefix.length) with
    | (keyPrefix,some body) =>
      if keyPrefix.length≠prefixLen ∨ body.length≠bodyLen then none else some (keyPrefix,body)
    | (_,none) => none
  else none

/-! ## The calls -/

/-- `Result.scalar_one_or_none`. -/
def scalarOneOrNone {α : Type} : List α → Except Raised (Option α)
  | [] => .ok none
  | [a] => .ok (some a)
  | _ => .error .multipleResultsFound

/-- The latest `datetime`. -/
def datetimeMax : Instant := 253402300799999999

/-- When a new key expires. -/
def expiryOf (expiresInDays : Option Int) (now : Instant) : Except Raised (Option Instant) :=
  match expiresInDays with
  | none => .ok none
  | some days =>
    if 0<days then
      if 999999999<days ∨ datetimeMax<now+days*86400000000 then .error .overflowError
      else .ok (some (now+days*86400000000))
    else .ok none

/-- The constraints that the insertion of a row is checked against. -/
def Tables.violatedBy (t : Tables) (row : ApiKeyRow) : Bool :=
  (t.apiKeys.any fun r => decide (r.id=row.id ∨ r.keyHash=row.keyHash)) ||
    !(t.users.any fun u => decide (u.id=row.createdByUserId)) || !t.tenants.contains row.tenantId

/-- `create_api_key`, with what was minted and the id that was drawn. -/
def createApiKey (B : Backend) (t : Tables) (tenantId : TenantId) (createdByUserId : UserId)
    (name : Text) (expiresInDays : Option Int) (minted : Text × Text) (id : Draw) (now : Instant) :
    Except Raised ((ApiKeyRow × Text) × Tables) := do
  let digest ← hashApiKey B minted.1
  let expiresAt ← expiryOf expiresInDays now
  let row : ApiKeyRow :=
    {id,tenantId,createdByUserId,name,keyPrefix := minted.2,keyHash := digest,expiresAt}
  if !B.sendable name || !B.sendable minted.2 then .error .databaseError
  else if t.violatedBy row then .error .mintCollision
  else .ok ((row,minted.1),{t with apiKeys := t.apiKeys++[row]})

/-- Set `revoked_at` of one row. -/
def Tables.setRevoked (t : Tables) (id : Draw) (now : Instant) : Tables :=
  {t with apiKeys :=
    t.apiKeys.map fun r => if r.id=id then {r with revokedAt := some now} else r}

/-- `revoke_api_key`. -/
def revokeApiKey (t : Tables) (keyId : Draw) (tenantId : TenantId) (now : Instant) :
    Except Raised (Bool × Tables) := do
  match ← scalarOneOrNone (t.apiKeys.filter fun r => decide (r.id=keyId ∧ r.tenantId=tenantId)) with
  | none => .ok (false,t)
  | some row =>
    if row.revokedAt.isNone then .ok (true,t.setRevoked keyId now) else .ok (true,t)

/-- The key of the row has reached its `expires_at`. -/
def expired (expiresAt : Option Instant) (now : Instant) : Bool :=
  expiresAt.any fun e => decide (e≤now)

/-- The principal of a key. -/
def principalOf (row : ApiKeyRow) (user : User) : AuthenticatedPrincipal :=
  {userId := user.id,tenantId := user.tenantId,email := user.email
   role := user.role.value,jti := row.id,exp := 0}

/-- The rows with a prefix. -/
def Tables.withPrefix (t : Tables) (keyPrefix : Text) : List ApiKeyRow :=
  t.apiKeys.filter fun r => decide (r.keyPrefix=keyPrefix)

/-- Set `last_used_at` of one row. -/
def Tables.touch (t : Tables) (id : Draw) (usedAt : Instant) : Tables :=
  {t with apiKeys :=
    t.apiKeys.map fun r => if r.id=id then {r with lastUsedAt := some usedAt} else r}

/-- `resolve_api_key` behind the lookup. -/
def resolveRow (B : Backend) (t : Tables) (row : ApiKeyRow) (fullKey : Text)
    (now usedAt : Instant) : Except Raised (Option AuthenticatedPrincipal × Tables) := do
  let actual ← hashApiKey B fullKey
  if row.keyHash≠actual ∨ row.revokedAt.isSome ∨ expired row.expiresAt now then .ok (none,t)
  else
    match ← scalarOneOrNone (t.users.filter fun u => decide (u.id=row.createdByUserId)) with
    | none => .ok (none,t)
    | some user => .ok (some (principalOf row user),t.touch row.id usedAt)

/-- `resolve_api_key`, at the clock readings of the expiry check and of the update. -/
def resolveApiKey (B : Backend) (t : Tables) (fullKey : Text) (now usedAt : Instant) :
    Except Raised (Option AuthenticatedPrincipal × Tables) :=
  match parseApiKey fullKey with
  | none => .ok (none,t)
  | some (keyPrefix,_) =>
    if !B.sendable keyPrefix then .error .databaseError
    else do
      match ← scalarOneOrNone (t.withPrefix keyPrefix) with
      | none => .ok (none,t)
      | some row => resolveRow B t row fullKey now usedAt

/-! ## Runs -/

/-- A key that a call of `create_api_key` returned. -/
structure Grant where
  key : Text
  id : Draw
  tenantId : TenantId
  userId : UserId
  expiresAt : Option Instant
  deriving DecidableEq

/-- The tables and what has been granted. -/
structure Service where
  tables : Tables := {}
  /-- Keys returned and not revoked whose user has not been deleted. -/
  grants : List Grant := []
  deriving DecidableEq

inductive Call where
  | addTenant (id : TenantId)
  | addUser (user : User)
  | deleteUser (id : UserId)
  | create (tenantId : TenantId) (createdByUserId : UserId) (name : Text)
    (expiresInDays : Option Int) (draws : List Text) (id : Draw) (now : Instant)
  | revoke (keyId : Draw) (tenantId : TenantId) (now : Instant)
  | resolve (fullKey : Text) (now usedAt : Instant)

/-- The deletion of a user cascades to the keys. -/
def Tables.deleteUser (t : Tables) (id : UserId) : Tables :=
  {t with
    users := t.users.filter fun u => decide (u.id≠id)
    apiKeys := t.apiKeys.filter fun r => decide (r.createdByUserId≠id)}

/-- One call; one that raises leaves no trace. -/
def step (B : Backend) (s : Service) : Call → Option Service
  | .addTenant id => some {s with tables := {s.tables with tenants := id::s.tables.tenants}}
  | .addUser user =>
    if (s.tables.users.any fun u => decide (u.id=user.id)) || !s.tables.tenants.contains user.tenantId
    then none
    else some {s with tables := {s.tables with users := s.tables.users++[user]}}
  | .deleteUser id =>
    some ⟨s.tables.deleteUser id,s.grants.filter fun g => decide (g.userId≠id)⟩
  | .create tenantId createdByUserId name expiresInDays draws id now =>
    match mintApiKeyPlaintext draws with
    | none => none
    | some minted =>
      match createApiKey B s.tables tenantId createdByUserId name expiresInDays minted id now with
      | .error _ => some s
      | .ok ((row,key),tables) => some
        ⟨tables,s.grants++[⟨key,row.id,tenantId,createdByUserId,row.expiresAt⟩]⟩
  | .revoke keyId tenantId now =>
    match revokeApiKey s.tables keyId tenantId now with
    | .error _ => some s
    | .ok (_,tables) => some
      ⟨tables,s.grants.filter fun g => decide ¬(g.id=keyId ∧ g.tenantId=tenantId)⟩
  | .resolve fullKey now usedAt =>
    match resolveApiKey B s.tables fullKey now usedAt with
    | .error _ => some s
    | .ok (_,tables) => some {s with tables}

def Step (B : Backend) : Service → Call → Service → Prop := ofPartial (step B)

/-- The grant is of the key and has not expired. -/
def Grant.Live (g : Grant) (fullKey : Text) (now : Instant) : Prop :=
  g.key=fullKey ∧ expired g.expiresAt now=false

/-- Resolving the key does not raise, and returns a principal if and only if a
grant of it is live, and then one of its tenant. -/
def ResolvesLive (B : Backend) (s : Service) (fullKey : Text) (now usedAt : Instant) : Prop :=
  ∃ principal tables,resolveApiKey B s.tables fullKey now usedAt=.ok (principal,tables) ∧
    (principal.isSome=true ↔ ∃ g∈s.grants,g.Live fullKey now) ∧
    ∀ p,principal=some p → ∃ g∈s.grants,g.Live fullKey now ∧ p.tenantId=g.tenantId

/-- The row is of the key, is not revoked and has not expired. -/
def ApiKeyRow.Valid (B : Backend) (row : ApiKeyRow) (fullKey : Text) (now : Instant) : Prop :=
  row.keyHash=B.sha256Hex fullKey ∧ row.revokedAt=none ∧ expired row.expiresAt now=false

/-- If the text has the shape of a key, its prefix can be sent and belongs to at
most one row; if to one, the text can be encoded, and the user of a valid row is
of the row's tenant. -/
def Unambiguous (B : Backend) (t : Tables) (fullKey : Text) (now : Instant) : Prop :=
  ∀ keyPrefix body,parseApiKey fullKey=some (keyPrefix,body) →
    B.sendable keyPrefix=true ∧ (t.withPrefix keyPrefix).length≤1 ∧
    ∀ row∈t.withPrefix keyPrefix,fullKey.any isSurrogate=false ∧
      (row.Valid B fullKey now →
        ∀ user∈t.users,user.id=row.createdByUserId → user.tenantId=row.tenantId)

variable {B : Backend} {s s' : Service} {t t' : Tables} {c : Call} {calls : List Call}
  {fullKey keyPrefix body : Text} {now usedAt : Instant} {row row' : ApiKeyRow} {user : User}
  {g : Grant}

/-! ## Minted keys -/

theorem underscore_notMem_cleaned (raw : Text) : underscore∉cleaned raw := by
  simp [cleaned]

theorem extended_spec {n : Nat} {clean out : Text} {draws rest : List Text}
    (hclean : underscore∉clean) (h : extended n clean draws=some (out,rest)) :
    out.length=n ∧ underscore∉out := by
  have htake : n≤clean.length → (clean.take n).length=n ∧ underscore∉clean.take n :=
    fun hle => ⟨List.length_take_of_le hle,fun hmem => hclean (List.mem_of_mem_take hmem)⟩
  induction draws generalizing clean with
  | nil =>
    simp only [extended] at h
    split at h
    · cases h
      exact htake ‹_›
    · cases h
  | cons raw draws ih =>
    simp only [extended] at h
    split at h
    · cases h
      exact htake ‹_›
    · have hmore : underscore∉clean++cleaned raw := fun hmem =>
        (List.mem_append.mp hmem).elim hclean (underscore_notMem_cleaned raw)
      exact ih hmore h fun hle =>
        ⟨List.length_take_of_le hle,fun hmem => hmore (List.mem_of_mem_take hmem)⟩

/-- What is minted has the asked length and no underscore. -/
theorem urlsafe_spec {n : Nat} {out : Text} {draws rest : List Text}
    (h : urlsafe n draws=some (out,rest)) : out.length=n ∧ underscore∉out := by
  cases draws with
  | nil => cases h
  | cons raw draws => exact extended_spec (underscore_notMem_cleaned raw) h

/-- A minted key parses, and its prefix is the one that was minted. -/
theorem parseApiKey_minted {draws : List Text}
    (h : mintApiKeyPlaintext draws=some (fullKey,keyPrefix)) :
    (parseApiKey fullKey).map Prod.fst=some keyPrefix := by
  unfold mintApiKeyPlaintext at h
  obtain ⟨⟨pre,draws'⟩,hpre,h⟩ := Option.bind_eq_some_iff.mp h
  obtain ⟨⟨body,rest⟩,hbody,h⟩ := Option.bind_eq_some_iff.mp h
  cases h
  obtain ⟨hprelen,hunderscore⟩ := urlsafe_spec hpre
  obtain ⟨hbodylen,-⟩ := urlsafe_spec hbody
  simp [parseApiKey,List.append_assoc,splitOnce_append hunderscore,hprelen,hbodylen]

/-! ## Rows and grants -/

/-- What a row and the grant it stands for agree on. -/
structure Entry where
  id : Draw
  tenantId : TenantId
  userId : UserId
  expiresAt : Option Instant
  keyPrefix : Option Text
  keyHash : Text

def ApiKeyRow.entry (row : ApiKeyRow) : Entry :=
  ⟨row.id,row.tenantId,row.createdByUserId,row.expiresAt,some row.keyPrefix,row.keyHash⟩

def Grant.entry (B : Backend) (g : Grant) : Entry :=
  ⟨g.id,g.tenantId,g.userId,g.expiresAt,(parseApiKey g.key).map Prod.fst,B.sha256Hex g.key⟩

/-- The rows that are not revoked. -/
def Tables.valid (t : Tables) : List ApiKeyRow := t.apiKeys.filter fun r => r.revokedAt.isNone

/-- Ids are unique, every key has its user, and the rows that are not revoked
are those of the grants. -/
structure Simulates (B : Backend) (s : Service) : Prop where
  ids : (s.tables.apiKeys.map ApiKeyRow.id).Nodup
  users : (s.tables.users.map User.id).Nodup
  owners : ∀ row∈s.tables.apiKeys,∃ u∈s.tables.users,u.id=row.createdByUserId
  grants : s.tables.valid.map ApiKeyRow.entry=s.grants.map (Grant.entry B)

theorem simulates_start : Simulates B {} where
  ids := List.nodup_nil
  users := List.nodup_nil
  owners _ h := absurd h List.not_mem_nil
  grants := rfl

/-- Every grant has its row. -/
theorem Simulates.row_of_grant (h : Simulates B s) (hg : g∈s.grants) :
    ∃ row∈s.tables.apiKeys,row.revokedAt=none ∧ row.entry=g.entry B := by
  have hentry : g.entry B∈s.tables.valid.map ApiKeyRow.entry := h.grants ▸ List.mem_map_of_mem hg
  obtain ⟨row,hrow,heq⟩ := List.mem_map.mp hentry
  obtain ⟨hmem,hvalid⟩ := List.mem_filter.mp hrow
  exact ⟨row,hmem,Option.isNone_iff_eq_none.mp hvalid,heq⟩

/-- Every row that is not revoked has its grant. -/
theorem Simulates.grant_of_row (h : Simulates B s) (hrow : row∈s.tables.apiKeys)
    (hvalid : row.revokedAt=none) : ∃ g∈s.grants,g.entry B=row.entry := by
  have hmem : row∈s.tables.valid := List.mem_filter.mpr ⟨hrow,by simp [hvalid]⟩
  have hentry : row.entry∈s.grants.map (Grant.entry B) := h.grants ▸ List.mem_map_of_mem hmem
  exact List.mem_map.mp hentry

/-- Granted keys have the shape of a key. -/
theorem Simulates.parses (h : Simulates B s) (hg : g∈s.grants) :
    (parseApiKey g.key).isSome=true := by
  obtain ⟨row,-,-,heq⟩ := h.row_of_grant hg
  have hpre := congrArg Entry.keyPrefix heq
  cases hparse : parseApiKey g.key with
  | none => simp [ApiKeyRow.entry,Grant.entry,hparse] at hpre
  | some _ => rfl

/-! ## What the calls do to the tables -/

/-- The element with a key is the only one. -/
theorem filter_key {α κ : Type} [DecidableEq α] [DecidableEq κ] {f : α → κ} {l : List α} {a : α}
    (h : (l.map f).Nodup) (ha : a∈l) : (l.filter fun b => decide (f b=f a))=[a] := by
  have hsame : (l.filter fun b => decide (f b=f a))=l.filter (fun b => decide (b=a)) :=
    List.filter_congr fun b hb =>
      decide_eq_decide.mpr ⟨fun hf => List.inj_on_of_nodup_map h hb ha hf,congrArg f⟩
  have hcount : l.count a=1 := List.count_eq_one_of_mem (List.Nodup.of_map f h) ha
  rw [hsame,List.filter_eq,hcount]
  rfl

/-- A row created is new, is not revoked and has what was minted. -/
theorem createApiKey_ok {tenantId : TenantId} {createdByUserId : UserId} {name : Text}
    {expiresInDays : Option Int} {minted : Text × Text} {id : Draw} {key : Text}
    (h : createApiKey B t tenantId createdByUserId name expiresInDays minted id now=
      .ok ((row,key),t')) :
    key=minted.1 ∧ t'={t with apiKeys := t.apiKeys++[row]} ∧ t.violatedBy row=false ∧
      row.tenantId=tenantId ∧ row.createdByUserId=createdByUserId ∧ row.revokedAt=none ∧
      row.keyPrefix=minted.2 ∧ row.keyHash=B.sha256Hex minted.1 := by
  obtain ⟨digest,hdigest,h⟩ := bind_ok.mp h
  obtain ⟨expiresAt,-,h⟩ := bind_ok.mp h
  dsimp only at h
  split at h
  · cases h
  · split at h
    · cases h
    · rename_i hviolated
      cases h
      unfold hashApiKey at hdigest
      split at hdigest
      · cases hdigest
      · cases hdigest
        exact ⟨rfl,rfl,Bool.eq_false_iff.mpr hviolated,rfl,rfl,rfl,rfl,rfl⟩

/-- A call of `revoke_api_key` revokes the row, or there is none left to revoke. -/
theorem revokeApiKey_ok {keyId : Draw} {tenantId : TenantId} {found : Bool}
    (h : revokeApiKey t keyId tenantId now=.ok (found,t')) :
    (t'=t.setRevoked keyId now ∧ ∃ row∈t.apiKeys,row.id=keyId ∧ row.tenantId=tenantId) ∨
      (t'=t ∧ ∀ row∈t.apiKeys,row.id=keyId → row.tenantId=tenantId → row.revokedAt≠none) := by
  obtain ⟨o,ho,h⟩ := bind_ok.mp h
  generalize hrows : (t.apiKeys.filter fun r => decide (r.id=keyId ∧ r.tenantId=tenantId))=rows at ho
  have hmem : ∀ row,row∈rows ↔ row∈t.apiKeys ∧ row.id=keyId ∧ row.tenantId=tenantId := by
    intro row
    rw [← hrows,List.mem_filter,decide_eq_true_iff]
  rcases rows with _|⟨row,_|⟨row',rows⟩⟩
  · cases ho
    cases h
    refine .inr ⟨rfl,fun row hrow hid htenant => ?_⟩
    exact absurd ((hmem row).mpr ⟨hrow,hid,htenant⟩) List.not_mem_nil
  · cases ho
    obtain ⟨hrow,hid,htenant⟩ := (hmem row).mp List.mem_cons_self
    simp only at h
    split at h
    · cases h
      exact .inl ⟨rfl,row,hrow,hid,htenant⟩
    · rename_i hrevoked
      cases h
      refine .inr ⟨rfl,fun row' hrow' hid' htenant' => ?_⟩
      obtain rfl := List.mem_singleton.mp ((hmem row').mpr ⟨hrow',hid',htenant'⟩)
      exact fun hnone => hrevoked (by simp [hnone])
  · cases ho

/-- The tables after `resolve_api_key`. -/
theorem resolveApiKey_tables {o : Option AuthenticatedPrincipal}
    (h : resolveApiKey B t fullKey now usedAt=.ok (o,t')) : t'=t ∨ ∃ id,t'=t.touch id usedAt := by
  unfold resolveApiKey at h
  split at h
  · cases h
    exact .inl rfl
  · split at h
    · cases h
    · obtain ⟨found,-,h⟩ := bind_ok.mp h
      cases found with
      | none =>
        cases h
        exact .inl rfl
      | some row =>
        obtain ⟨digest,-,h⟩ := bind_ok.mp h
        split at h
        · cases h
          exact .inl rfl
        · obtain ⟨holder,-,h⟩ := bind_ok.mp h
          cases holder with
          | none =>
            cases h
            exact .inl rfl
          | some user =>
            cases h
            exact .inr ⟨row.id,rfl⟩

theorem valid_setRevoked (t : Tables) (id : Draw) (now : Instant) :
    (t.setRevoked id now).valid=t.valid.filter fun r => decide (r.id≠id) := by
  unfold Tables.setRevoked Tables.valid
  simp only
  induction t.apiKeys with
  | nil => rfl
  | cons r rs ih =>
    by_cases hid : r.id=id
    · simp [hid,ih]
    · cases hr : r.revokedAt <;> simp [hid,hr,ih]

theorem entries_touch (t : Tables) (id : Draw) (usedAt : Instant) :
    (t.touch id usedAt).valid.map ApiKeyRow.entry=t.valid.map ApiKeyRow.entry := by
  unfold Tables.touch Tables.valid
  simp only
  induction t.apiKeys with
  | nil => rfl
  | cons r rs ih =>
    by_cases hid : r.id=id
    · cases hr : r.revokedAt <;> simp [hid,hr,ih,ApiKeyRow.entry]
    · cases hr : r.revokedAt <;> simp [hid,hr,ih]

section

variable (h : Simulates B s)

include h

/-- The rows and the grants of the same entries. -/
theorem Simulates.filter_entries (q : Entry → Bool) :
    (s.tables.valid.filter fun r => q r.entry).map ApiKeyRow.entry=
      (s.grants.filter fun g => q (g.entry B)).map (Grant.entry B) := by
  have hfiltered := congrArg (List.filter q) h.grants
  rwa [List.filter_map,List.filter_map] at hfiltered

/-- Rows changed in other columns keep their ids and their users. -/
theorem Simulates.of_map {f : ApiKeyRow → ApiKeyRow} {grants : List Grant}
    (hid : ∀ r,(f r).id=r.id) (howner : ∀ r,(f r).createdByUserId=r.createdByUserId)
    (hgrants : ((s.tables.apiKeys.map f).filter fun r => r.revokedAt.isNone).map ApiKeyRow.entry=
      grants.map (Grant.entry B)) :
    Simulates B ⟨{s.tables with apiKeys := s.tables.apiKeys.map f},grants⟩ where
  ids := by
    have hsame : (s.tables.apiKeys.map f).map ApiKeyRow.id=s.tables.apiKeys.map ApiKeyRow.id := by
      rw [List.map_map]
      exact List.map_congr_left fun r _ => hid r
    exact hsame ▸ h.ids
  users := h.users
  owners row hrow := by
    obtain ⟨r,hr,rfl⟩ := List.mem_map.mp hrow
    rw [howner]
    exact h.owners r hr
  grants := hgrants

/-! ## Each call keeps the tie -/

theorem Simulates.add_tenant (id : TenantId) :
    Simulates B {s with tables := {s.tables with tenants := id::s.tables.tenants}} :=
  ⟨h.ids,h.users,h.owners,h.grants⟩

theorem Simulates.add_user (hnew : (s.tables.users.any fun u => decide (u.id=user.id))=false) :
    Simulates B {s with tables := {s.tables with users := s.tables.users++[user]}} where
  ids := h.ids
  users := by
    rw [List.map_append]
    refine List.Nodup.append h.users (List.nodup_singleton _) ?_
    intro id hold hnew'
    obtain ⟨u,hu,rfl⟩ := List.mem_map.mp hold
    rw [List.map_singleton,List.mem_singleton] at hnew'
    exact mt decide_eq_true (List.any_eq_false.mp hnew u hu) hnew'
  owners row hrow := by
    obtain ⟨u,hu,heq⟩ := h.owners row hrow
    exact ⟨u,List.mem_append_left _ hu,heq⟩
  grants := h.grants

/-- The keys of a deleted user go with the user. -/
theorem Simulates.delete_user (id : UserId) :
    Simulates B ⟨s.tables.deleteUser id,s.grants.filter fun g => decide (g.userId≠id)⟩ where
  ids := h.ids.sublist ((List.filter_sublist).map ApiKeyRow.id)
  users := h.users.sublist ((List.filter_sublist).map User.id)
  owners row hrow := by
    obtain ⟨hmem,hne⟩ := List.mem_filter.mp hrow
    obtain ⟨u,hu,heq⟩ := h.owners row hmem
    refine ⟨u,List.mem_filter.mpr ⟨hu,?_⟩,heq⟩
    rwa [heq]
  grants := by
    have hfiltered := h.filter_entries fun e => decide (e.userId≠id)
    have hcomm : (s.tables.deleteUser id).valid=
        s.tables.valid.filter fun r => decide (r.createdByUserId≠id) := List.filter_comm _ _ _
    rw [hcomm]
    exact hfiltered

/-- A created row is that of the key returned. -/
theorem Simulates.create (hviolated : s.tables.violatedBy row=false) (hvalid : row.revokedAt=none)
    (hentry : row.entry=g.entry B) :
    Simulates B ⟨{s.tables with apiKeys := s.tables.apiKeys++[row]},s.grants++[g]⟩ := by
  unfold Tables.violatedBy at hviolated
  simp only [Bool.or_eq_false_iff,Bool.not_eq_false'] at hviolated
  obtain ⟨⟨hnew,howner⟩,-⟩ := hviolated
  constructor
  · rw [List.map_append]
    refine List.Nodup.append h.ids (List.nodup_singleton _) ?_
    intro id hold hnew'
    obtain ⟨r,hr,rfl⟩ := List.mem_map.mp hold
    rw [List.map_singleton,List.mem_singleton] at hnew'
    exact mt decide_eq_true (List.any_eq_false.mp hnew r hr) (.inl hnew')
  · exact h.users
  · intro r hr
    rcases List.mem_append.mp hr with hr|hr
    · exact h.owners r hr
    · obtain rfl := List.mem_singleton.mp hr
      obtain ⟨u,hu,heq⟩ := List.any_eq_true.mp howner
      exact ⟨u,hu,of_decide_eq_true heq⟩
  · have hlast : Tables.valid {s.tables with apiKeys := s.tables.apiKeys++[row]}=
        s.tables.valid++[row] := by
      simp [Tables.valid,hvalid]
    rw [hlast,List.map_append,List.map_append,h.grants,List.map_singleton,List.map_singleton,hentry]

/-- A revoked row is that of the grants revoked. -/
theorem Simulates.revoke {keyId : Draw} {tenantId : TenantId}
    (hrow : row∈s.tables.apiKeys) (hid : row.id=keyId) (htenant : row.tenantId=tenantId) :
    Simulates B ⟨s.tables.setRevoked keyId now,
      s.grants.filter fun g => decide ¬(g.id=keyId ∧ g.tenantId=tenantId)⟩ := by
  refine h.of_map (fun r => by split <;> rfl) (fun r => by split <;> rfl) ?_
  have hfiltered := h.filter_entries fun e => decide ¬(e.id=keyId ∧ e.tenantId=tenantId)
  have hkept : (s.tables.valid.filter fun r => decide (r.id≠keyId))=
      s.tables.valid.filter
        fun r => decide ¬(r.entry.id=keyId ∧ r.entry.tenantId=tenantId) := by
    refine List.filter_congr fun r hr => decide_eq_decide.mpr (not_congr ?_)
    refine ⟨fun hid' => ⟨hid',?_⟩,fun hboth => hboth.1⟩
    have hr' := (List.mem_filter.mp hr).1
    have hsame : r=row := List.inj_on_of_nodup_map h.ids hr' hrow (hid'.trans hid.symm)
    exact hsame ▸ htenant
  have hvalid := valid_setRevoked s.tables keyId now
  rw [hkept] at hvalid
  exact (congrArg (List.map ApiKeyRow.entry) hvalid).trans hfiltered

/-- Where no row is left to revoke there is no such grant. -/
theorem Simulates.revoke_none {keyId : Draw} {tenantId : TenantId}
    (hnone : ∀ row∈s.tables.apiKeys,row.id=keyId → row.tenantId=tenantId → row.revokedAt≠none) :
    s.grants.filter (fun g => decide ¬(g.id=keyId ∧ g.tenantId=tenantId))=s.grants := by
  refine List.filter_eq_self.mpr fun g hg => decide_eq_true ?_
  rintro ⟨hid,htenant⟩
  obtain ⟨row,hrow,hvalid,heq⟩ := h.row_of_grant hg
  exact hnone row hrow ((congrArg Entry.id heq).trans hid)
    ((congrArg Entry.tenantId heq).trans htenant) hvalid

/-- Every call keeps the tie. -/
theorem Simulates.step (hs : Step B s c s') : Simulates B s' := by
  unfold Step ofPartial at hs
  cases c with
  | addTenant id =>
    cases hs
    exact h.add_tenant id
  | addUser user =>
    simp only [ApiKeys.step] at hs
    split at hs
    · cases hs
    · rename_i hnew
      cases hs
      exact h.add_user (Bool.or_eq_false_iff.mp (Bool.eq_false_iff.mpr hnew)).1
  | deleteUser id =>
    cases hs
    exact h.delete_user id
  | create tenantId createdByUserId name expiresInDays draws id now =>
    simp only [ApiKeys.step] at hs
    split at hs
    · cases hs
    · rename_i minted hminted
      split at hs
      · cases hs
        exact h
      · rename_i row key tables hcreate
        cases hs
        obtain ⟨rfl,rfl,hviolated,htenant,howner,hvalid,hpre,hhash⟩ := createApiKey_ok hcreate
        refine h.create hviolated hvalid ?_
        simp only [ApiKeyRow.entry,Grant.entry,htenant,howner,hpre,hhash,
          parseApiKey_minted hminted]
  | revoke keyId tenantId now =>
    simp only [ApiKeys.step] at hs
    split at hs
    · cases hs
      exact h
    · rename_i found tables hrevoke
      cases hs
      rcases revokeApiKey_ok hrevoke with ⟨rfl,row,hrow,hid,htenant⟩|⟨rfl,hnone⟩
      · exact h.revoke hrow hid htenant
      · rw [h.revoke_none hnone]
        exact h
  | resolve fullKey now usedAt =>
    simp only [ApiKeys.step] at hs
    split at hs
    · cases hs
      exact h
    · rename_i o tables hresolve
      cases hs
      rcases resolveApiKey_tables hresolve with rfl|⟨id,rfl⟩
      · exact h
      · refine h.of_map (fun r => by split <;> rfl) (fun r => by split <;> rfl) ?_
        exact (entries_touch s.tables id usedAt).trans h.grants

end

theorem simulates_of_run (hrun : Run (Step B) {} calls s) : Simulates B s :=
  hrun.invariant (I:=Simulates B) simulates_start fun _ _ _ h hs => h.step hs

/-! ## Resolving -/

/-- SHA-256 has no collision between texts with the shape of a key. -/
def Backend.InjectiveOnKeys (B : Backend) : Prop :=
  ∀ k k',(parseApiKey k).isSome=true → (parseApiKey k').isSome=true →
    B.sha256Hex k=B.sha256Hex k' → k=k'

/-- The live grants of a key are the valid rows with its prefix. -/
theorem Simulates.live_iff (h : Simulates B s) (hinj : B.InjectiveOnKeys)
    (hparse : parseApiKey fullKey=some (keyPrefix,body)) (tenantId : TenantId) :
    (∃ g∈s.grants,g.Live fullKey now ∧ tenantId=g.tenantId) ↔
      ∃ row∈s.tables.withPrefix keyPrefix,row.Valid B fullKey now ∧ tenantId=row.tenantId := by
  constructor
  · rintro ⟨g,hg,⟨rfl,hlive⟩,rfl⟩
    obtain ⟨row,hrow,hvalid,heq⟩ := h.row_of_grant hg
    have hpre := congrArg Entry.keyPrefix heq
    simp only [ApiKeyRow.entry,Grant.entry,hparse,Option.map_some,Option.some.injEq] at hpre
    have hexpiry : row.expiresAt=g.expiresAt := congrArg Entry.expiresAt heq
    refine ⟨row,List.mem_filter.mpr ⟨hrow,decide_eq_true hpre⟩,⟨congrArg Entry.keyHash heq,
      hvalid,?_⟩,(congrArg Entry.tenantId heq).symm⟩
    rwa [hexpiry]
  · rintro ⟨row,hrow,⟨hhash,hvalid,hlive⟩,rfl⟩
    obtain ⟨g,hg,heq⟩ := h.grant_of_row (List.mem_filter.mp hrow).1 hvalid
    have hsame : B.sha256Hex g.key=B.sha256Hex fullKey := (congrArg Entry.keyHash heq).trans hhash
    have hkey : g.key=fullKey := hinj _ _ (h.parses hg) (by rw [hparse]; rfl) hsame
    have hexpiry : g.expiresAt=row.expiresAt := congrArg Entry.expiresAt heq
    refine ⟨g,hg,⟨hkey,?_⟩,(congrArg Entry.tenantId heq).symm⟩
    rwa [hexpiry]

/-- A valid row gives the principal of its user. -/
theorem Simulates.resolveRow_valid (h : Simulates B s) (hrow : row∈s.tables.apiKeys)
    (hencodes : fullKey.any isSurrogate=false) (hvalid : row.Valid B fullKey now)
    (usedAt : Instant) :
    ∃ user∈s.tables.users,user.id=row.createdByUserId ∧
      resolveRow B s.tables row fullKey now usedAt=
        .ok (some (principalOf row user),s.tables.touch row.id usedAt) := by
  obtain ⟨user,huser,hid⟩ := h.owners row hrow
  obtain ⟨hhash,hrevoked,hexpiry⟩ := hvalid
  have hone := filter_key h.users huser
  rw [hid] at hone
  refine ⟨user,huser,hid,?_⟩
  simp [resolveRow,hashApiKey,hencodes,hhash,hrevoked,hexpiry,hone,scalarOneOrNone,bind,Except.bind]

/-- Any other row gives none. -/
theorem resolveRow_invalid (hencodes : fullKey.any isSurrogate=false)
    (hinvalid : ¬row.Valid B fullKey now) :
    resolveRow B t row fullKey now usedAt=.ok (none,t) := by
  have hcond : row.keyHash≠B.sha256Hex fullKey ∨ row.revokedAt.isSome=true ∨
      expired row.expiresAt now=true := by
    by_contra hnot
    simp only [not_or,not_not,Bool.not_eq_true,Option.isSome_eq_false_iff,
      Option.isNone_iff_eq_none] at hnot
    exact hinvalid hnot
  unfold resolveRow hashApiKey
  rw [hencodes]
  exact if_pos hcond

/-- With one row of its prefix a key resolves as it should if the text can be encoded
and the user of a valid row is of the row's tenant. -/
theorem Simulates.resolves_one (h : Simulates B s) (hinj : B.InjectiveOnKeys)
    (hparse : parseApiKey fullKey=some (keyPrefix,body)) (hsend : B.sendable keyPrefix=true)
    (hone : s.tables.withPrefix keyPrefix=[row]) :
    ResolvesLive B s fullKey now usedAt ↔ fullKey.any isSurrogate=false ∧
      (row.Valid B fullKey now →
        ∀ user∈s.tables.users,user.id=row.createdByUserId → user.tenantId=row.tenantId) := by
  have hresolve : resolveApiKey B s.tables fullKey now usedAt=
      resolveRow B s.tables row fullKey now usedAt := by
    simp [resolveApiKey,hparse,hsend,hone,scalarOneOrNone,bind,Except.bind]
  have hrow : row∈s.tables.apiKeys :=
    (List.mem_filter.mp (hone ▸ List.mem_singleton_self row : row∈s.tables.withPrefix keyPrefix)).1
  have hlive (tenantId : TenantId) : (∃ g∈s.grants,g.Live fullKey now ∧ tenantId=g.tenantId) ↔
      ∃ row∈s.tables.withPrefix keyPrefix,row.Valid B fullKey now ∧ tenantId=row.tenantId :=
    h.live_iff hinj hparse tenantId
  simp only [hone,List.mem_singleton,exists_eq_left] at hlive
  unfold ResolvesLive
  rw [hresolve]
  cases hencodes : fullKey.any isSurrogate with
  | true =>
    refine iff_of_false ?_ fun hfalse => Bool.false_ne_true hfalse.1.symm
    rintro ⟨p,t',herror,-⟩
    simp [resolveRow,hashApiKey,hencodes,bind,Except.bind] at herror
  | false =>
    by_cases hvalid : row.Valid B fullKey now
    · obtain ⟨user,huser,hid,hok⟩ := h.resolveRow_valid hrow hencodes hvalid usedAt
      rw [hok]
      constructor
      · rintro ⟨p,t',heq,-,htenant⟩
        cases heq
        obtain ⟨g,hg,hglive,hp⟩ := htenant _ rfl
        refine ⟨rfl,fun _ user' huser' hid' => ?_⟩
        obtain rfl : user'=user :=
          List.inj_on_of_nodup_map h.users huser' huser (hid'.trans hid.symm)
        exact ((hlive user'.tenantId).mp ⟨g,hg,hglive,hp⟩).2
      · rintro ⟨-,htenant⟩
        obtain ⟨g,hg,hglive,hp⟩ := (hlive user.tenantId).mpr ⟨hvalid,htenant hvalid user huser hid⟩
        refine ⟨_,_,rfl,iff_of_true rfl ⟨g,hg,hglive⟩,fun p hp' => ?_⟩
        cases hp'
        exact ⟨g,hg,hglive,hp⟩
    · rw [resolveRow_invalid hencodes hvalid]
      refine iff_of_true ⟨none,_,rfl,iff_of_false Bool.false_ne_true ?_,fun p hp => by cases hp⟩
        ⟨rfl,fun h => absurd h hvalid⟩
      rintro ⟨g,hg,hglive⟩
      exact hvalid ((hlive g.tenantId).mp ⟨g,hg,hglive,rfl⟩).1

/-- A text with the shape of a key, by the rows of its prefix. -/
theorem Simulates.resolves_parsed (h : Simulates B s) (hinj : B.InjectiveOnKeys)
    (hparse : parseApiKey fullKey=some (keyPrefix,body)) :
    ResolvesLive B s fullKey now usedAt ↔
      B.sendable keyPrefix=true ∧ (s.tables.withPrefix keyPrefix).length≤1 ∧
      ∀ row∈s.tables.withPrefix keyPrefix,fullKey.any isSurrogate=false ∧
        (row.Valid B fullKey now →
          ∀ user∈s.tables.users,user.id=row.createdByUserId → user.tenantId=row.tenantId) := by
  cases hsend : B.sendable keyPrefix with
  | false =>
    refine iff_of_false ?_ fun hfalse => Bool.false_ne_true hfalse.1
    rintro ⟨p,t',herror,-⟩
    simp [resolveApiKey,hparse,hsend] at herror
  | true =>
    generalize hrows : s.tables.withPrefix keyPrefix=rows
    rcases rows with _|⟨row,_|⟨row',rows⟩⟩
    · refine iff_of_true ⟨none,s.tables,?_,iff_of_false Bool.false_ne_true ?_,
        fun p hp => by cases hp⟩ ⟨rfl,Nat.zero_le 1,fun row hrow => absurd hrow List.not_mem_nil⟩
      · simp [resolveApiKey,hparse,hsend,hrows,scalarOneOrNone,bind,Except.bind]
      · rintro ⟨g,hg,hglive⟩
        obtain ⟨row,hrow,-⟩ := (h.live_iff hinj hparse g.tenantId).mp ⟨g,hg,hglive,rfl⟩
        rw [hrows] at hrow
        cases hrow
    · rw [h.resolves_one hinj hparse hsend hrows]
      simp
    · refine iff_of_false ?_ fun hfalse => ?_
      · rintro ⟨p,t',herror,-⟩
        simp [resolveApiKey,hparse,hsend,hrows,scalarOneOrNone,bind,Except.bind] at herror
      · have hle := hfalse.2.1
        simp only [List.length_cons] at hle
        omega

/-- In every state that calls lead to, a text resolves as the live keys say, and
without raising, if and only if its prefix is unambiguous. -/
theorem resolves_live_iff (hinj : B.InjectiveOnKeys) (hrun : Run (Step B) {} calls s) :
    ResolvesLive B s fullKey now usedAt ↔ Unambiguous B s.tables fullKey now := by
  have h := simulates_of_run hrun
  unfold Unambiguous
  cases hparse : parseApiKey fullKey with
  | none =>
    refine iff_of_true ⟨none,s.tables,?_,iff_of_false Bool.false_ne_true ?_,fun p hp => by cases hp⟩
      fun _ _ hp => by cases hp
    · simp [resolveApiKey,hparse]
    · rintro ⟨g,hg,rfl,-⟩
      have hsome := h.parses hg
      rw [hparse] at hsome
      cases hsome
  | some parts =>
    obtain ⟨keyPrefix,body⟩ := parts
    rw [h.resolves_parsed hinj hparse]
    refine ⟨fun hclear keyPrefix' body' heq => ?_,fun hall => hall keyPrefix body rfl⟩
    cases heq
    exact hclear

/-! ## Two keys of one prefix -/

def firstKey : Text := codePoints "vy_AbCd1234_Kq3vT8nWz5JrYxL2pHs7MbQe9Du4Gf6X"

def secondKey : Text := codePoints "vy_AbCd1234_z9YxW8vUt7SrQ6pOn5MlK4jIh3GfE2dC"

def firstHash : Text :=
  codePoints "9ed3b19282cd4d8ef69c7882a39ec4f7c2fff930fadfb71ab908c9453c0b55c3"

def secondHash : Text :=
  codePoints "f638dfeefd69dc99c78d4ceb04a0bf2f1d133cce920149ac00ea1669f18430a1"

/-- The hashes of the two keys as they are, every other text as its own; a driver
that sends what is UTF-8 without null characters. -/
def sampleBackend : Backend where
  sha256Hex t := if t=firstKey then firstHash else if t=secondKey then secondHash else t
  sendable t := t.all fun c => !isSurrogate c && decide (c≠0)

/-- The way back from the hashes of the sample. -/
def sampleUnhash (digest : Text) : Text :=
  if digest=firstHash then firstKey else if digest=secondHash then secondKey else digest

/-- Every text with the shape of a key has the same length. -/
theorem length_of_parses (h : (parseApiKey fullKey).isSome=true) : fullKey.length=44 := by
  unfold parseApiKey at h
  split at h
  · rename_i hscheme
    obtain ⟨rest,rfl⟩ := List.isPrefixOf_iff_prefix.mp hscheme
    rw [List.drop_left] at h
    split at h
    · rename_i keyPrefix body hsplit
      split at h
      · cases h
      · rename_i hlengths
        rw [(splitOnce_eq hsplit).1]
        simp only [not_or,not_not,prefixLen,bodyLen] at hlengths
        have hscheme3 : schemePrefix.length=3 := by decide
        simp only [List.length_append,List.length_cons]
        omega
    · cases h
  · cases h

theorem sampleUnhash_sha256Hex (h : (parseApiKey fullKey).isSome=true) :
    sampleUnhash (sampleBackend.sha256Hex fullKey)=fullKey := by
  have hlength := length_of_parses h
  by_cases hfirst : fullKey=firstKey
  · subst hfirst
    decide +kernel
  by_cases hsecond : fullKey=secondKey
  · subst hsecond
    decide +kernel
  have hne1 : fullKey≠firstHash := fun heq => absurd (heq ▸ hlength) (by decide +kernel)
  have hne2 : fullKey≠secondHash := fun heq => absurd (heq ▸ hlength) (by decide +kernel)
  simp [sampleUnhash,sampleBackend,hfirst,hsecond,hne1,hne2]

theorem sampleBackend_injectiveOnKeys : sampleBackend.InjectiveOnKeys := by
  intro k k' hk hk' heq
  have hback := congrArg sampleUnhash heq
  rwa [sampleUnhash_sha256Hex hk,sampleUnhash_sha256Hex hk'] at hback

/-- A tenant with a user who creates a key that does not expire. -/
def sampleCalls : List Call :=
  [.addTenant 7,.addUser ⟨1,7,"ada@example.com",.agencyAdmin⟩,
    .create 7 1 (codePoints "CI") (some 0)
      [codePoints "AbCd1234-x_QmZ9kLpR7ts",
        codePoints ("Kq3vT8_nWz5JrYx-L2pHs7MbQe9Du4Gf6Xc1Va0NtRiPkZoBjSmEwUlOyChIgFdAxTqLrW3vNz8Kp2Ys6Hb5Jc")]
      20 1700000000000000]

theorem resolves_live_iff_sample :
    ∃ s,Run (Step sampleBackend) {} sampleCalls s ∧ (∃ g∈s.grants,g.Live firstKey 1800000000000000) ∧
      ResolvesLive sampleBackend s firstKey 1800000000000000 1800000000000001 := by
  have heval : (sampleCalls.foldlM (step sampleBackend) {}).map
      (fun s => ((s.tables.withPrefix (codePoints "AbCd1234")).length,
        s.tables.apiKeys.all fun r => decide (r.tenantId=7),
        s.tables.users.all fun u => decide (u.tenantId=7),s.grants))=
        some (1,true,true,[⟨firstKey,20,7,1,none⟩]) := by
    decide +kernel
  obtain ⟨s,hs,hfields⟩ := Option.map_eq_some_iff.mp heval
  simp only [Prod.mk.injEq] at hfields
  obtain ⟨hone,hrows,husers,hgrants⟩ := hfields
  have hrun : Run (Step sampleBackend) {} sampleCalls s := run_of_foldlM hs
  refine ⟨s,hrun,⟨⟨firstKey,20,7,1,none⟩,hgrants ▸ List.mem_singleton_self _,rfl,rfl⟩,
    (resolves_live_iff sampleBackend_injectiveOnKeys hrun).mpr ?_⟩
  intro keyPrefix body hparse
  have hfirst : (parseApiKey firstKey).map Prod.fst=some (codePoints "AbCd1234") := by
    decide +kernel
  rw [hparse] at hfirst
  obtain rfl : keyPrefix=codePoints "AbCd1234" := Option.some.inj hfirst
  refine ⟨by decide +kernel,hone.le,fun row hrow => ⟨by decide +kernel,fun _ user huser _ => ?_⟩⟩
  have huser7 := of_decide_eq_true (List.all_eq_true.mp husers user huser)
  have hrow7 := of_decide_eq_true (List.all_eq_true.mp hrows row (List.mem_filter.mp hrow).1)
  exact huser7.trans hrow7.symm

/-- Another tenant's key is minted with the same prefix. -/
def sharedCalls : List Call :=
  sampleCalls++[.addTenant 8,.addUser ⟨2,8,"bob@example.com",.agencyAdmin⟩,
    .create 8 2 (codePoints "CI") none
      [codePoints "AbCd1234-x_QmZ9kLpR7ts",
        codePoints ("z9YxW8vUt7SrQ6pOn5MlK4jIh3GfE2dCb1A0ZyXwVuTsRqPoNmLkJiHgFeDcBa-9_876543210zyxwvutsrqpo")]
      21 1700000001000000]

/-- From then on the first key raises. -/
theorem shared_prefix_raises :
    sampleBackend.InjectiveOnKeys ∧ ¬∀ calls s fullKey now usedAt,
      Run (Step sampleBackend) {} calls s → ResolvesLive sampleBackend s fullKey now usedAt := by
  refine ⟨sampleBackend_injectiveOnKeys,fun hall => ?_⟩
  have heval : (sharedCalls.foldlM (step sampleBackend) {}).map
      (fun s => ((resolveApiKey sampleBackend s.tables firstKey 1800000000000000 1800000000000001).toOption.isSome))=
        some false := by
    decide +kernel
  obtain ⟨s,hs,hraised⟩ := Option.map_eq_some_iff.mp heval
  obtain ⟨p,t',hok,-⟩ := hall sharedCalls s firstKey 1800000000000000 1800000000000001 (run_of_foldlM hs)
  rw [hok] at hraised
  cases hraised

end Voyagent.ApiKeys
