import Voyagent.FallibleResults
import Voyagent.RuntimeValues

/-!
# Stored tenant credentials

The rows of `tenant_credentials`, the repository's `get`, and the hook
`resolve_tenant_credentials`. The database, the key service and the JSON and
date parsers are given by what they return or raise. A decryption failure is
answered with "no credentials"; any other failure leaves the hook.
-/

namespace Voyagent.TenantCredentials

open KeyedMap FallibleResults RuntimeValues

/-- Stored and decrypted bytes. -/
abbrev Bytes : Type := List UInt8

/-- The value of a `uuid.UUID`. -/
abbrev Uuid : Type := Nat

/-- `_context_for`: the data a ciphertext is bound to. -/
abbrev Context : Type := Uuid × String

/-- A row of `tenant_credentials`. -/
structure CredentialRow where
  tenantId : Uuid
  provider : String
  encryptedBlob : Bytes
  nonce : Bytes
  deriving DecidableEq

/-- `CredentialPayload`. -/
structure CredentialPayload where
  provider : String
  fields : Table String String
  metaFields : Table String String
  rotatedAt : Option Time
  deriving DecidableEq

/-- What the repository uses of Python and of pydantic. -/
structure StorageLibrary where
  /-- `uuid.UUID(str(value))`. -/
  uuid : EntityId → Option Uuid
  /-- `json.loads(blob.decode("utf-8"))`. -/
  loads : Bytes → Except Exn Json
  /-- `datetime.fromisoformat(value)`. -/
  fromIso : Json → Except Exn Time
  /-- `str(value)` and `repr(value)`. -/
  text : Json → String
  repr : Json → String
  /-- The text of the error for a provider of unsuitable length. -/
  providerError : String → String

/-- The storage as one lookup finds it. -/
structure Vault where
  /-- `_get_repo`: whether there is a repository, unless building it raises. -/
  repo : Except Exn Bool
  rows : List CredentialRow
  /-- Raised by the query. -/
  dbError : Option Exn
  /-- `kms.decrypt`. -/
  decrypt : Bytes → Bytes → Context → Except Exn Bytes

/-- `CredentialDecryptionError`. -/
def decryptionError (text : String) : Exn := ⟨"CredentialDecryptionError",["SecurityError"],text,none⟩

/-- The rows the query selects. -/
def matchingRows (v : Vault) (tid : Uuid) (provider : String) : List CredentialRow :=
  v.rows.filter fun row => decide (row.tenantId=tid ∧ row.provider=provider)

/-- `(await db.execute(stmt)).scalar_one_or_none()`. -/
def selectRow (v : Vault) (tid : Uuid) (provider : String) : Except Exn (Option CredentialRow) :=
  match v.dbError with
  | some e => .error e
  | none =>
    match matchingRows v tid provider with
    | [] => .ok none
    | [row] => .ok (some row)
    | _ =>
      .error ⟨"MultipleResultsFound",["InvalidRequestError"],
        "Multiple rows were found when one or none was required",none⟩

/-- `{str(k): str(v) for k, v in (obj.get(key) or {}).items()}`. -/
def textTable (lib : StorageLibrary) (obj : Dict) (key : String) : Except Exn (Table String String) :=
  match given obj key with
  | none => .ok []
  | some (.obj fields) => .ok (mapValues (fun _ v => lib.text v) fields)
  | some v => .error ⟨"AttributeError",[],"'"++pyTypeName v++"' object has no attribute 'items'",none⟩

/-- The construction of the payload, with its `except` clause. -/
def buildPayload (lib : StorageLibrary) (obj : Dict) (rotatedAt : Option Time) :
    Except Exn CredentialPayload :=
  let built : Except Exn CredentialPayload := do
    let provider := ((given obj "provider").map lib.text).getD ""
    let fields ← textTable lib obj "fields"
    let info ← textTable lib obj "meta"
    if 1 ≤ provider.length ∧ provider.length ≤ 64 then pure ⟨provider,fields,info,rotatedAt⟩
    else .error (validationError (lib.providerError provider))
  built.mapError fun e => decryptionError ("decrypted credential payload failed validation: "++e.text)

/-- `_payload_from_bytes`. The read of `rotated_at` raises where the decoded
value is no object, outside the `except` clauses around it. -/
def payloadFromBytes (lib : StorageLibrary) (blob : Bytes) : Except Exn CredentialPayload :=
  match lib.loads blob with
  | .error e => .error (decryptionError ("decrypted credential blob is not valid JSON: "++e.text))
  | .ok (.obj obj) =>
    match given obj "rotated_at" with
    | none => buildPayload lib obj none
    | some raw =>
      match lib.fromIso raw with
      | .error _ => .error (decryptionError ("rotated_at is not ISO8601: "++lib.repr raw))
      | .ok t => buildPayload lib obj (some t)
  | .ok v => .error ⟨"AttributeError",[],"'"++pyTypeName v++"' object has no attribute 'get'",none⟩

/-- What leaves `kms.decrypt` for the repository: its own errors as they are,
any other as a decryption error. -/
def wrapDecrypt (e : Exn) : Exn :=
  if e.isInstance "SecurityError" then e
  else decryptionError ("unexpected failure during KMS decrypt: "++e.text)

/-- Decrypt and decode a row that was found. -/
def openRow (lib : StorageLibrary) (v : Vault) (tid : Uuid) (provider : String)
    (row : CredentialRow) : Except Exn (Option CredentialPayload) := do
  let plaintext ← (v.decrypt row.encryptedBlob row.nonce (tid,provider)).mapError wrapDecrypt
  let payload ← payloadFromBytes lib plaintext
  pure (some payload)

/-- `TenantCredentialRepository.get`. -/
def repositoryGet (lib : StorageLibrary) (v : Vault) (tid : Uuid) (provider : String) :
    Except Exn (Option CredentialPayload) := do
  let found ← selectRow v tid provider
  match found with
  | none => pure none
  | some row => openRow lib v tid provider row

/-- The driver's credentials: the fields over the meta data. -/
def merged (payload : CredentialPayload) : Table String String :=
  payload.fields.foldl (fun d e => set d e.1 e.2)
    (payload.metaFields.foldl (fun d e => set d e.1 e.2) [])

/-- `resolve_tenant_credentials`. -/
def resolveTenantCredentials (lib : StorageLibrary) (v : Vault) (tenantId : EntityId)
    (provider : String) : Except Exn (Option (Table String String)) :=
  match v.repo with
  | .error e => .error e
  | .ok false => .ok none
  | .ok true =>
    match lib.uuid tenantId with
    | none => .ok none
    | some tid =>
      match repositoryGet lib v tid provider with
      | .error e => if e.isInstance "CredentialDecryptionError" then .ok none else .error e
      | .ok none => .ok none
      | .ok (some payload) => .ok (some (merged payload))

/-- Credentials stored for a tenant and a provider: those of a row of its own
that decrypts in its own context. -/
def StoredFor (lib : StorageLibrary) (v : Vault) (tenantId : EntityId) (provider : String)
    (creds : Table String String) : Prop :=
  ∃ tid row plaintext payload,lib.uuid tenantId=some tid ∧ row∈v.rows ∧ row.tenantId=tid ∧
    row.provider=provider ∧ v.decrypt row.encryptedBlob row.nonce (tid,provider)=.ok plaintext ∧
    payloadFromBytes lib plaintext=.ok payload ∧ creds=merged payload

variable {lib : StorageLibrary} {v : Vault} {tenantId : EntityId} {provider : String} {tid : Uuid}

theorem selectRow_own {row : CredentialRow} (h : selectRow v tid provider=.ok (some row)) :
    row∈v.rows ∧ row.tenantId=tid ∧ row.provider=provider := by
  unfold selectRow at h
  split at h
  · cases h
  · split at h
    · cases h
    · rename_i hone
      cases h
      have hmem : row∈matchingRows v tid provider := hone ▸ List.mem_singleton_self row
      obtain ⟨hrow,hown⟩ := List.mem_filter.mp hmem
      exact ⟨hrow,of_decide_eq_true hown⟩
    · cases h

/-- What the hook returns was stored for the tenant that was asked for. -/
theorem resolve_own {creds : Table String String}
    (h : resolveTenantCredentials lib v tenantId provider=.ok (some creds)) :
    StoredFor lib v tenantId provider creds := by
  unfold resolveTenantCredentials at h
  split at h
  · cases h
  · cases h
  · split at h
    · cases h
    · rename_i tid huuid
      split at h
      · split at h <;> cases h
      · cases h
      · rename_i payload hget
        cases h
        obtain ⟨found,hselect,hrest⟩ := bind_ok.mp hget
        cases found with
        | none => cases hrest
        | some row =>
          obtain ⟨plaintext,hplain,hpayload⟩ := bind_ok.mp hrest
          obtain ⟨payload',hpayload,hsome⟩ := bind_pure_ok.mp hpayload
          cases hsome
          obtain ⟨hrow,htenant,hprovider⟩ := selectRow_own hselect
          exact ⟨tid,row,plaintext,payload,huuid,hrow,htenant,hprovider,
            mapError_ok.mp hplain,hpayload,rfl⟩

/-- An exception the hook answers with "no credentials". -/
def Missed (e : Exn) : Prop := e.isInstance "CredentialDecryptionError"=true

theorem missed_decryptionError (text : String) : Missed (decryptionError text) := rfl

/-- Only a decoded value that is no object lets another exception out. -/
theorem payload_error {blob : Bytes} {e : Exn} (h : payloadFromBytes lib blob=.error e) :
    Missed e ∨ ∃ json,lib.loads blob=.ok json ∧ ∀ obj,json≠.obj obj := by
  have hbuilt : ∀ {obj : Dict} {rotatedAt : Option Time},
      buildPayload lib obj rotatedAt=.error e → Missed e := by
    intro obj rotatedAt hbuild
    obtain ⟨_,-,rfl⟩ := mapError_error.mp hbuild
    exact missed_decryptionError _
  unfold payloadFromBytes at h
  split at h
  · cases h
    exact .inl (missed_decryptionError _)
  · split at h
    · exact .inl (hbuilt h)
    · split at h
      · cases h
        exact .inl (missed_decryptionError _)
      · exact .inl (hbuilt h)
  · rename_i json hobj hloads
    exact .inr ⟨json,hloads,hobj⟩

/-- The row of a tenant can be read: the query answers with at most one row,
the key service fails on it with nothing but a decryption error, and what is
decrypted is a JSON object or no JSON at all. -/
structure Readable (lib : StorageLibrary) (v : Vault) (tid : Uuid) (provider : String) : Prop where
  query : ∀ e,v.dbError=some e → Missed e
  single : v.dbError=none → (matchingRows v tid provider).length ≤ 1
  decryption : v.dbError=none → ∀ row∈matchingRows v tid provider,∀ e,
    v.decrypt row.encryptedBlob row.nonce (tid,provider)=.error e → Missed (wrapDecrypt e)
  payload : v.dbError=none → ∀ row∈matchingRows v tid provider,∀ plaintext json,
    v.decrypt row.encryptedBlob row.nonce (tid,provider)=.ok plaintext →
      lib.loads plaintext=.ok json → ∃ obj,json=.obj obj

theorem openRow_missed_iff {row : CredentialRow} :
    (∀ e,openRow lib v tid provider row=.error e → Missed e) ↔
      (∀ e,v.decrypt row.encryptedBlob row.nonce (tid,provider)=.error e → Missed (wrapDecrypt e)) ∧
      ∀ plaintext json,v.decrypt row.encryptedBlob row.nonce (tid,provider)=.ok plaintext →
        lib.loads plaintext=.ok json → ∃ obj,json=.obj obj := by
  unfold openRow
  cases v.decrypt row.encryptedBlob row.nonce (tid,provider) with
  | error e =>
    refine ⟨fun h => ⟨fun e' he => ?_,fun _ _ hok => (by cases hok)⟩,fun h e' he => ?_⟩
    · cases he
      exact h _ rfl
    · cases he
      exact h.1 e rfl
  | ok plaintext =>
    refine ⟨fun h => ⟨fun e he => (by cases he),fun p json hp hloads => ?_⟩,fun h e he => ?_⟩
    · cases hp
      cases json with
      | obj obj => exact ⟨obj,rfl⟩
      | null | bool | int | float | str | arr =>
        exfalso
        have hraise := h _ (congrArg (· >>= fun payload => pure (some payload))
          (show payloadFromBytes lib plaintext=.error _ by rw [payloadFromBytes,hloads]))
        exact absurd hraise (by simp [Missed,Exn.isInstance])
    · have hpayload : payloadFromBytes lib plaintext=.error e := by
        cases hbytes : payloadFromBytes lib plaintext with
        | error e' =>
          change (payloadFromBytes lib plaintext >>= fun payload => pure (some payload))=.error e at he
          rw [hbytes] at he
          cases he
          rfl
        | ok payload =>
          change (payloadFromBytes lib plaintext >>= fun payload => pure (some payload))=.error e at he
          rw [hbytes] at he
          cases he
      rcases payload_error hpayload with hmiss|⟨json,hloads,hnot⟩
      · exact hmiss
      · obtain ⟨obj,hobj⟩ := h.2 plaintext json rfl hloads
        exact absurd hobj (hnot obj)

/-- The repository raises nothing the hook lets out exactly when the row of the
tenant can be read. -/
theorem repositoryGet_missed_iff :
    (∀ e,repositoryGet lib v tid provider=.error e → Missed e) ↔ Readable lib v tid provider := by
  unfold repositoryGet selectRow
  cases hdb : v.dbError with
  | some e =>
    constructor
    · intro h
      exact ⟨fun e' he => Option.some.inj (hdb.symm.trans he) ▸ h e rfl,
        fun hnone => (by cases hdb.symm.trans hnone),fun hnone => (by cases hdb.symm.trans hnone),
        fun hnone => (by cases hdb.symm.trans hnone)⟩
    · intro h e' he
      cases he
      exact h.query e hdb
  | none =>
    have hquery : ∀ e,v.dbError=some e → Missed e := fun e he => (by cases hdb.symm.trans he)
    match hrows : matchingRows v tid provider with
    | [] =>
      refine ⟨fun _ => ⟨hquery,fun _ => ?_,fun _ row hrow => ?_,fun _ row hrow => ?_⟩,
        fun _ e he => (by cases he)⟩
      · rw [hrows]
        exact Nat.zero_le 1
      · rw [hrows] at hrow
        cases hrow
      · rw [hrows] at hrow
        cases hrow
    | [row] =>
      change (∀ e,openRow lib v tid provider row=.error e → Missed e) ↔ _
      rw [openRow_missed_iff]
      constructor
      · rintro ⟨hdecrypt,hpayload⟩
        refine ⟨hquery,fun _ => ?_,fun _ row' hrow => ?_,fun _ row' hrow => ?_⟩
        · rw [hrows]
          exact Nat.le_refl 1
        · rw [hrows,List.mem_singleton] at hrow
          exact hrow ▸ hdecrypt
        · rw [hrows,List.mem_singleton] at hrow
          exact hrow ▸ hpayload
      · intro h
        have hrow : row∈matchingRows v tid provider := hrows ▸ List.mem_singleton_self row
        exact ⟨h.decryption hdb row hrow,h.payload hdb row hrow⟩
    | _::_::_ =>
      constructor
      · intro h
        exact absurd (h _ rfl) (by simp [Missed,Exn.isInstance])
      · intro h
        have hsingle := h.single hdb
        rw [hrows,List.length_cons,List.length_cons] at hsingle
        omega

/-- The hook can answer: the repository can be built, and the row of the tenant
can be read. -/
def Answers (lib : StorageLibrary) (v : Vault) (tenantId : EntityId) (provider : String) : Prop :=
  (∀ e,v.repo≠.error e) ∧ ∀ tid,v.repo=.ok true → lib.uuid tenantId=some tid →
    Readable lib v tid provider

/-- The hook returns exactly when it can answer. -/
theorem resolve_ok_iff :
    (∃ x,resolveTenantCredentials lib v tenantId provider=.ok x) ↔
      Answers lib v tenantId provider := by
  unfold Answers resolveTenantCredentials
  cases hrepo : v.repo with
  | error e => exact ⟨fun ⟨_,h⟩ => (by cases h),fun h => absurd rfl (h.1 e)⟩
  | ok present =>
    cases present with
    | false => exact ⟨fun _ => ⟨nofun,fun _ h => (by cases h)⟩,fun _ => ⟨none,rfl⟩⟩
    | true =>
      cases huuid : lib.uuid tenantId with
      | none => exact ⟨fun _ => ⟨nofun,fun _ _ h => (by cases h)⟩,fun _ => ⟨none,rfl⟩⟩
      | some tid =>
        have hown : ((∀ e,(.ok true : Except Exn Bool)≠.error e) ∧
            ∀ tid',(.ok true : Except Exn Bool)=.ok true → some tid=some tid' →
              Readable lib v tid' provider) ↔ Readable lib v tid provider :=
          ⟨fun h => h.2 tid rfl rfl,fun h => ⟨nofun,fun _ _ htid => Option.some.inj htid ▸ h⟩⟩
        rw [hown,← repositoryGet_missed_iff]
        dsimp only
        cases repositoryGet lib v tid provider with
        | ok found => cases found <;> exact ⟨fun _ _ he => (by cases he),fun _ => ⟨_,rfl⟩⟩
        | error e =>
          dsimp only
          split
          · rename_i hmiss
            exact ⟨fun _ e' he => Except.error.inj he ▸ hmiss,fun _ => ⟨none,rfl⟩⟩
          · rename_i hmiss
            exact ⟨fun ⟨_,h⟩ => (by cases h),fun h => absurd (h e rfl) hmiss⟩

end Voyagent.TenantCredentials
