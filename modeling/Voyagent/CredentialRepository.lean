import Voyagent.CredentialEnvelopes

/-!
# Credentials put, rotated and deleted

The repository over whole sequences of calls: what is stored is sealed under
the tenant and the provider of its row, and `get` opens it under the same. Each
call may also be refused by the database, and then changes nothing.
-/

namespace Voyagent.CredentialRepository

open RuntimeValues KeyedMap FallibleResults TenantCredentials JsonTexts CanonicalJson
open CredentialEnvelopes

/-- A `rotated_at` as a caller gives it: with a time zone, by its instant, or
without one. -/
inductive Moment where
  | aware (t : Time)
  | naive (wall : Time)
  deriving DecidableEq

/-- A validated `CredentialPayload`. -/
structure GivenPayload where
  provider : String
  fields : Table String String
  metaFields : Table String String
  rotatedAt : Option Moment
  bounded : 1 ≤ provider.length ∧ provider.length ≤ 64
  fields_keyed : (fields.map Prod.fst).Nodup
  metaFields_keyed : (metaFields.map Prod.fst).Nodup

/-- A row of `tenant_credentials` with every column a call writes. -/
structure StoredCredential extends CredentialRow where
  metaFields : Table String String
  rotatedAt : Option Moment
  createdAt : Time
  updatedAt : Time

/-- What the repository uses of Python and of the key. -/
structure Platform where
  lib : StorageLibrary
  prims : Primitives
  floatText : Rat → String
  /-- `value.astimezone(timezone.utc)`; a naive value is in the zone of the host. -/
  toUtc : Moment → Except Exn Time
  /-- `isoformat` of a time in UTC. -/
  isoformat : Time → String
  /-- `str(uuid)`. -/
  render : Uuid → String

/-- What a call meets: the clock, what a token draws, and what the database raises. -/
structure Circumstances where
  now : Time
  entropy : Bytes
  refusal : Option Exn

/-- A call that writes. -/
inductive Call where
  | put (tenantId : EntityId) (provider : String) (payload : GivenPayload)
  | rotate (tenantId : EntityId) (provider : String) (newPayload : GivenPayload)
  | delete (tenantId : EntityId) (provider : String)

variable (pf : Platform)

theorem context_keyed (tenant provider : String) :
    (([("tenant_id",tenant),("provider",provider)] : Table String String).map Prod.fst).Nodup :=
  List.nodup_cons.mpr ⟨by simp,List.nodup_singleton _⟩

/-- `_context_for`. -/
def contextFor (tid : Uuid) (provider : String) : ContextMap where
  entries := [("tenant_id",pf.render tid),("provider",provider)]
  keyed := context_keyed _ _

/-- `raw`, of a payload with the value of its `rotated_at`. -/
def rawPayload (payload : GivenPayload) (rotatedAt : Json) : Json :=
  .obj [("provider",.str payload.provider),("fields",textObject payload.fields),
    ("meta",textObject payload.metaFields),("rotated_at",rotatedAt)]

/-- The instant a payload was rotated at. -/
def utcOf : Option Moment → Except Exn (Option Time)
  | none => .ok none
  | some m => (pf.toUtc m).map some

/-- The value of `rotated_at`. -/
def rotatedText (t : Option Time) : Json :=
  match t with
  | none => .null
  | some t => .str (pf.isoformat t)

/-- `_payload_to_bytes`. -/
def payloadToBytes (payload : GivenPayload) : Except Exn Bytes :=
  (utcOf pf payload.rotatedAt).map fun t =>
    encodeUtf8 (canonical pf.floatText (rawPayload payload (rotatedText pf t)))

/-- The row of a tenant and a provider. -/
def owned (tid : Uuid) (provider : String) (row : StoredCredential) : Bool :=
  decide (row.tenantId=tid ∧ row.provider=provider)

/-- The upsert of `put`; a row that is there keeps its `created_at`. -/
def upsert (rows : List StoredCredential) (new : StoredCredential) : List StoredCredential :=
  if rows.any (owned new.tenantId new.provider) then
    rows.map fun row =>
      if owned new.tenantId new.provider row then {new with createdAt := row.createdAt} else row
  else rows++[new]

def providerMismatch (payloadProvider provider : String) : Exn :=
  ⟨"ValueError",[],"payload.provider="++pf.lib.repr (.str payloadProvider)++
    " does not match provider="++pf.lib.repr (.str provider),none⟩

/-- `_to_uuid`. -/
def toUuid (value : EntityId) : Except Exn Uuid :=
  match pf.lib.uuid value with
  | some tid => .ok tid
  | none => .error ⟨"ValueError",[],"badly formed hexadecimal UUID string",none⟩

/-- What a database that refuses nothing is left with. -/
def committed (c : Circumstances) (rows : List StoredCredential) :
    Except Exn (List StoredCredential) :=
  match c.refusal with
  | some e => .error e
  | none => .ok rows

/-- The values `put` writes. -/
def newRow (c : Circumstances) (tid : Uuid) (provider : String) (payload : GivenPayload)
    (plaintext : Bytes) : StoredCredential :=
  let sealed := encrypt pf.floatText pf.prims c.entropy plaintext (some (contextFor pf tid provider))
  {tenantId := tid
   provider := provider
   encryptedBlob := sealed.1
   nonce := sealed.2
   metaFields := payload.metaFields
   rotatedAt := payload.rotatedAt
   createdAt := c.now
   updatedAt := c.now}

/-- `put`. -/
def put (rows : List StoredCredential) (c : Circumstances) (tenantId : EntityId)
    (provider : String) (payload : GivenPayload) : Except Exn (List StoredCredential) :=
  if payload.provider≠provider then .error (providerMismatch pf payload.provider provider)
  else do
    let tid ← toUuid pf tenantId
    let plaintext ← payloadToBytes pf payload
    committed c (upsert rows (newRow pf c tid provider payload plaintext))

/-- The payload `rotate` puts. -/
def stamped (newPayload : GivenPayload) (c : Circumstances) : GivenPayload :=
  {newPayload with rotatedAt := some (.aware c.now)}

/-- `delete`. -/
def delete (rows : List StoredCredential) (c : Circumstances) (tenantId : EntityId)
    (provider : String) : Except Exn (List StoredCredential) := do
  let tid ← toUuid pf tenantId
  committed c (rows.filter fun row => !owned tid provider row)

/-- One call: the rows it leaves, unless it raises. `rotate` is a `put` of the
stamped payload. -/
def serve (rows : List StoredCredential) (c : Circumstances) :
    Call → Except Exn (List StoredCredential)
  | .put tenantId provider payload => put pf rows c tenantId provider payload
  | .rotate tenantId provider newPayload => put pf rows c tenantId provider (stamped newPayload c)
  | .delete tenantId provider => delete pf rows c tenantId provider

/-- The storage as `get` finds it, with a database that answers. -/
def vault (rows : List StoredCredential) : Vault where
  repo := .ok true
  rows := rows.map StoredCredential.toCredentialRow
  dbError := none
  decrypt := fun ciphertext nonce context =>
    decrypt pf.floatText pf.prims ciphertext nonce (some (contextFor pf context.1 context.2))

/-! ## What the calls are for -/

/-- The payload last put for a tenant and a provider. -/
abbrev Shelf : Type := Uuid → String → Option GivenPayload

/-- The payload a call puts, if it deletes none. -/
def Call.payload (c : Circumstances) : Call → Option GivenPayload
  | .put _ _ payload => some payload
  | .rotate _ _ newPayload => some (stamped newPayload c)
  | .delete _ _ => none

/-- The tenant and the provider of a call. -/
def Call.key : Call → EntityId × String
  | .put tenantId provider _ => (tenantId,provider)
  | .rotate tenantId provider _ => (tenantId,provider)
  | .delete tenantId provider => (tenantId,provider)

/-- The shelf after a call that returned. -/
def record (shelf : Shelf) (c : Circumstances) (call : Call) : Shelf := fun tid provider =>
  if pf.lib.uuid call.key.1=some tid ∧ call.key.2=provider then call.payload c
  else shelf tid provider

/-- The rows and the shelf. -/
structure World where
  rows : List StoredCredential
  shelf : Shelf

/-- One call of a sequence. What raises changes nothing. -/
def next (w : World) (call : Circumstances × Call) : World :=
  match serve pf w.rows call.1 call.2 with
  | .error _ => w
  | .ok rows => ⟨rows,record pf w.shelf call.1 call.2⟩

/-- After some calls on an empty table. -/
def after (calls : List (Circumstances × Call)) : World :=
  calls.foldl (next pf) ⟨[],fun _ _ => none⟩

/-- The payloads are equal: times are where they are the same instant. -/
def Same (given : GivenPayload) (read : CredentialPayload) : Prop :=
  read.provider=given.provider ∧ (∀ k,get read.fields k=get given.fields k) ∧
    (∀ k,get read.metaFields k=get given.metaFields k) ∧
      read.rotatedAt.map Moment.aware=given.rotatedAt

/-- The payload with its time in UTC. -/
def SameInUtc (given : GivenPayload) (read : CredentialPayload) : Prop :=
  read.provider=given.provider ∧ (∀ k,get read.fields k=get given.fields k) ∧
    (∀ k,get read.metaFields k=get given.metaFields k) ∧
      utcOf pf given.rotatedAt=.ok read.rotatedAt

/-- `get` finds what is on the shelf. -/
def Finds (w : World) (tid : Uuid) (provider : String) : Prop :=
  match w.shelf tid provider with
  | none => repositoryGet pf.lib (vault pf w.rows) tid provider=.ok none
  | some given => ∃ read,repositoryGet pf.lib (vault pf w.rows) tid provider=.ok (some read) ∧
      SameInUtc pf given read ∧ (Same given read ↔ ∀ wall,given.rotatedAt≠some (.naive wall))

/-! ## Payloads are read back -/

/-- What is assumed of the platform: the primitives seal, JSON texts are read
as written, `str` of a string is the string, times in UTC are read back, and a
time with a zone keeps its instant. -/
structure Platform.Sound (floatOf : List Char → Option Rat) (used : Option ContextMap → Prop) :
    Prop where
  sealing : Sealing pf.floatText pf.prims used
  loads : ∀ bs v,(decodeUtf8 bs).bind (JsonTexts.loads floatOf)=some v → pf.lib.loads bs=.ok v
  text : ∀ s,pf.lib.text (.str s)=s
  isoformat : ∀ t,pf.isoformat t≠"" ∧ pf.lib.fromIso (.str (pf.isoformat t))=.ok t
  instant : ∀ t u,pf.toUtc (.aware t)=.ok u → u=t

variable {pf} {floatOf : List Char → Option Rat} {used : Option ContextMap → Prop}
  {payload : GivenPayload} {t : Option Time} {w : World} {tid : Uuid} {provider : String}

theorem sortKeys_rotatedText : sortKeys (rotatedText pf t)=rotatedText pf t := by
  cases t with
  | none => rfl
  | some t => rfl

/-- The text of a payload has its keys in order. -/
theorem sortKeys_rawPayload : sortKeys (rawPayload payload (rotatedText pf t))=
    .obj [("fields",textObject (sortedTexts payload.fields)),
      ("meta",textObject (sortedTexts payload.metaFields)),("provider",.str payload.provider),
      ("rotated_at",rotatedText pf t)] := by
  unfold rawPayload sortKeys
  simp [sortMembers,sortKeys_textObject,sortKeys_rotatedText,sortKeys,keyLe]

theorem readable_rawPayload : Readable pf.floatText floatOf
    (sortKeys (rawPayload payload (rotatedText pf t))) := by
  rw [sortKeys_rawPayload]
  have hrotated : Readable pf.floatText floatOf (rotatedText pf t) := by
    cases t with
    | none => trivial
    | some t => trivial
  exact ⟨by simp,readable_textObject (nodup_sortedTexts payload.fields_keyed),
    readable_textObject (nodup_sortedTexts payload.metaFields_keyed),trivial,hrotated,trivial⟩

/-- The payload that comes back. -/
def readBack (payload : GivenPayload) (t : Option Time) : CredentialPayload :=
  ⟨payload.provider,sortedTexts payload.fields,sortedTexts payload.metaFields,t⟩

/-- A table of texts is read from its object, also when it is empty. -/
theorem textTable_textObject (htext : ∀ s,pf.lib.text (.str s)=s) {obj : Dict} {key : String}
    {d : Table String String} (hget : get obj key=some (textObject d)) :
    textTable pf.lib obj key=.ok d := by
  unfold textTable given
  rw [hget]
  cases d with
  | nil => rfl
  | cons e d =>
    have hgiven : (some (textObject (e::d))).filter isTruthy=some (textObject (e::d)) := rfl
    rw [hgiven]
    have hmap : mapValues (fun _ v => pf.lib.text v) (mapValues (fun _ s => Json.str s) (e::d))=
        e::d := by
      unfold mapValues
      rw [List.map_map]
      refine (List.map_congr_left fun e _ => ?_).trans (List.map_id _)
      exact Prod.ext rfl (htext e.2)
    exact congrArg Except.ok hmap

theorem decoded_loads {floatText : Rat → String} {v : Json}
    (h : Readable floatText floatOf (sortKeys v)) :
    (decodeUtf8 (encodeUtf8 (canonical floatText v))).bind (JsonTexts.loads floatOf)=
      some (sortKeys v) := by
  rw [decodeUtf8_encodeUtf8,Option.bind_some]
  exact loads_compactJson h

theorem payloadToBytes_ok {bs : Bytes} (h : payloadToBytes pf payload=.ok bs) :
    ∃ t,utcOf pf payload.rotatedAt=.ok t ∧
      encodeUtf8 (canonical pf.floatText (rawPayload payload (rotatedText pf t)))=bs := by
  unfold payloadToBytes at h
  cases hutc : utcOf pf payload.rotatedAt with
  | error e =>
    rw [hutc] at h
    cases h
  | ok t =>
    rw [hutc] at h
    exact ⟨t,rfl,Except.ok.inj h⟩

/-- `_payload_from_bytes` undoes `_payload_to_bytes`, up to the order of keys and
the time zone. -/
theorem payloadFromBytes_toBytes (h : pf.Sound floatOf used) {bs : Bytes}
    (hbytes : payloadToBytes pf payload=.ok bs) :
    ∃ t,utcOf pf payload.rotatedAt=.ok t ∧ payloadFromBytes pf.lib bs=.ok (readBack payload t) := by
  obtain ⟨t,hutc,hbs⟩ := payloadToBytes_ok hbytes
  refine ⟨t,hutc,?_⟩
  have hloads := h.loads _ _ (decoded_loads (@readable_rawPayload pf floatOf payload t))
  rw [hbs] at hloads
  have hbuild : ∀ obj : Dict,get obj "provider"=some (.str payload.provider) →
      get obj "fields"=some (textObject (sortedTexts payload.fields)) →
      get obj "meta"=some (textObject (sortedTexts payload.metaFields)) → ∀ u,
        buildPayload pf.lib obj u=.ok (readBack payload u) := by
    intro obj hprovider hfields hmeta u
    have hne : payload.provider≠"" := by
      intro hempty
      have hlength := payload.bounded.1
      rw [hempty] at hlength
      exact absurd hlength (by decide)
    have hgiven : (given obj "provider").map pf.lib.text=some payload.provider := by
      unfold given
      rw [hprovider]
      have htrue : isTruthy (.str payload.provider)=true := decide_eq_true hne
      rw [Option.filter_some,if_pos htrue,Option.map_some,h.text]
    unfold buildPayload
    rw [hgiven,textTable_textObject h.text hfields,textTable_textObject h.text hmeta]
    change (Except.mapError _ (if _ then _ else _))=_
    rw [Option.getD_some,if_pos payload.bounded]
    rfl
  unfold payloadFromBytes
  rw [hloads,sortKeys_rawPayload]
  cases t with
  | none => exact hbuild _ rfl rfl rfl none
  | some t =>
    obtain ⟨hne,hiso⟩ := h.isoformat t
    have htrue : isTruthy (.str (pf.isoformat t))=true := decide_eq_true hne
    have hgiven : given [("fields",textObject (sortedTexts payload.fields)),
        ("meta",textObject (sortedTexts payload.metaFields)),("provider",.str payload.provider),
        ("rotated_at",rotatedText pf (some t))] "rotated_at"=some (.str (pf.isoformat t)) := by
      have hget : get [("fields",textObject (sortedTexts payload.fields)),
        ("meta",textObject (sortedTexts payload.metaFields)),("provider",Json.str payload.provider),
        ("rotated_at",rotatedText pf (some t))] "rotated_at"=some (.str (pf.isoformat t)) := rfl
      unfold given
      rw [hget,Option.filter_some,if_pos htrue]
    dsimp only
    rw [hgiven]
    dsimp only
    rw [hiso]
    exact hbuild _ rfl rfl rfl (some t)

theorem sameInUtc_readBack (hutc : utcOf pf payload.rotatedAt=.ok t) :
    SameInUtc pf payload (readBack payload t) :=
  ⟨rfl,get_sortedTexts payload.fields_keyed,get_sortedTexts payload.metaFields_keyed,hutc⟩

/-- It is the payload that was put unless that one had a time without a zone. -/
theorem same_readBack_iff (h : pf.Sound floatOf used) (hutc : utcOf pf payload.rotatedAt=.ok t) :
    Same payload (readBack payload t) ↔ ∀ wall,payload.rotatedAt≠some (.naive wall) := by
  have hrest : Same payload (readBack payload t) ↔ t.map Moment.aware=payload.rotatedAt :=
    ⟨fun hsame => hsame.2.2.2,fun htime =>
      ⟨rfl,get_sortedTexts payload.fields_keyed,get_sortedTexts payload.metaFields_keyed,htime⟩⟩
  rw [hrest]
  cases hgiven : payload.rotatedAt with
  | none =>
    rw [hgiven] at hutc
    cases hutc
    exact iff_of_true rfl fun wall heq => by cases heq
  | some m =>
    rw [hgiven] at hutc
    have hmap : (pf.toUtc m).map some=.ok t := hutc
    cases hm : pf.toUtc m with
    | error e =>
      rw [hm] at hmap
      cases hmap
    | ok u =>
      rw [hm] at hmap
      have ht : some u=t := Except.ok.inj hmap
      subst ht
      cases m with
      | aware v =>
        refine iff_of_true ?_ fun wall heq => by cases heq
        rw [h.instant v u hm]
        rfl
      | naive wall => exact iff_of_false (fun heq => by cases heq) fun hne => hne wall rfl

/-! ## Rows of one tenant and provider -/

theorem owned_iff {row : StoredCredential} :
    owned tid provider row=true ↔ row.tenantId=tid ∧ row.provider=provider := decide_eq_true_iff

theorem matchingRows_vault (rows : List StoredCredential) :
    matchingRows (vault pf rows) tid provider=
      (rows.filter (owned tid provider)).map StoredCredential.toCredentialRow := by
  unfold matchingRows vault
  rw [List.filter_map]
  rfl

/-- An upsert leaves other rows alone. -/
theorem filter_upsert_other (rows : List StoredCredential) {new : StoredCredential}
    (hnew : owned tid provider new=false) :
    (upsert rows new).filter (owned tid provider)=rows.filter (owned tid provider) := by
  have hkept : ∀ row : StoredCredential,owned new.tenantId new.provider row=true →
      owned tid provider row=false := by
    intro row hrow
    obtain ⟨htenant,hprovider⟩ := owned_iff.mp hrow
    unfold owned at hnew ⊢
    rwa [htenant,hprovider]
  unfold upsert
  split
  · rw [List.filter_map]
    have hsame : (owned tid provider ∘ fun row =>
        if owned new.tenantId new.provider row then {new with createdAt := row.createdAt} else row)=
          owned tid provider := by
      funext row
      dsimp only [Function.comp_apply]
      split
      · rename_i hrow
        rw [hkept row hrow]
        exact hnew
      · rfl
    rw [hsame]
    refine (List.map_congr_left fun row hrow => ?_).trans (List.map_id _)
    have hown := (List.mem_filter.mp hrow).2
    refine if_neg fun hreplaced => ?_
    rw [hkept row hreplaced] at hown
    cases hown
  · rw [List.filter_append,List.filter_cons_of_neg (by simpa using hnew),List.filter_nil,
      List.append_nil]

/-- An upsert leaves one row of its own where there was at most one. -/
theorem filter_upsert_self {rows : List StoredCredential} {new : StoredCredential}
    (hone : (rows.filter (owned new.tenantId new.provider)).length ≤ 1) :
    ∃ createdAt,(upsert rows new).filter (owned new.tenantId new.provider)=
      [{new with createdAt := createdAt}] := by
  have hself : ∀ createdAt,owned new.tenantId new.provider {new with createdAt := createdAt}=true :=
    fun _ => owned_iff.mpr ⟨rfl,rfl⟩
  unfold upsert
  split
  · rename_i hany
    obtain ⟨row,hrow,hown⟩ := List.any_eq_true.mp hany
    have hmem : row∈rows.filter (owned new.tenantId new.provider) := List.mem_filter.mpr ⟨hrow,hown⟩
    have hsame : (owned new.tenantId new.provider ∘ fun row =>
        if owned new.tenantId new.provider row then {new with createdAt := row.createdAt} else row)=
          owned new.tenantId new.provider := by
      funext row
      dsimp only [Function.comp_apply]
      split
      · rename_i hrow
        rw [hrow]
        exact hself _
      · rfl
    rw [List.filter_map,hsame]
    cases hrows : rows.filter (owned new.tenantId new.provider) with
    | nil =>
      rw [hrows] at hmem
      cases hmem
    | cons only rest =>
      rw [hrows,List.length_cons] at hone
      have hrest : rest=[] := List.length_eq_zero_iff.mp (Nat.le_zero.mp (Nat.le_of_succ_le_succ hone))
      have honly : owned new.tenantId new.provider only=true := by
        have honly : only∈rows.filter (owned new.tenantId new.provider) :=
          hrows ▸ List.mem_cons_self
        exact (List.mem_filter.mp honly).2
      rw [hrest,List.map_singleton,if_pos honly]
      exact ⟨only.createdAt,rfl⟩
  · rename_i hnone
    have hempty : rows.filter (owned new.tenantId new.provider)=[] :=
      List.filter_eq_nil_iff.mpr fun row hrow hown =>
        hnone (List.any_eq_true.mpr ⟨row,hrow,hown⟩)
    rw [List.filter_append,hempty,List.filter_cons_of_pos (hself new.createdAt)]
    exact ⟨new.createdAt,rfl⟩

theorem filter_delete (rows : List StoredCredential) (tid' : Uuid) (provider' : String) :
    (rows.filter fun row => !owned tid' provider' row).filter (owned tid provider)=
      if tid'=tid ∧ provider'=provider then [] else rows.filter (owned tid provider) := by
  rw [List.filter_filter]
  split
  · rename_i hsame
    obtain ⟨rfl,rfl⟩ := hsame
    exact List.filter_eq_nil_iff.mpr fun row _ => by simp
  · rename_i hother
    refine List.filter_congr fun row _ => ?_
    cases hown : owned tid provider row with
    | false => rfl
    | true =>
      obtain ⟨htenant,hprovider⟩ := owned_iff.mp hown
      have hnot : owned tid' provider' row=false := by
        refine Bool.eq_false_iff.mpr fun hown' => hother ?_
        obtain ⟨htenant',hprovider'⟩ := owned_iff.mp hown'
        exact ⟨htenant'.symm.trans htenant,hprovider'.symm.trans hprovider⟩
      rw [hnot]
      rfl

/-! ## Every sequence of calls -/

theorem toUuid_ok {value : EntityId} (h : toUuid pf value=.ok tid) : pf.lib.uuid value=some tid := by
  unfold toUuid at h
  cases huuid : pf.lib.uuid value with
  | none =>
    rw [huuid] at h
    cases h
  | some u =>
    rw [huuid] at h
    exact congrArg some (Except.ok.inj h)

variable {c : Circumstances} {rows rows' : List StoredCredential}

theorem committed_ok (h : committed c rows=.ok rows') : rows'=rows := by
  unfold committed at h
  cases hrefusal : c.refusal with
  | none =>
    rw [hrefusal] at h
    exact (Except.ok.inj h).symm
  | some e =>
    rw [hrefusal] at h
    cases h

/-- What a `put` that returns does. -/
theorem put_ok {tenantId : EntityId} (h : put pf rows c tenantId provider payload=.ok rows') :
    ∃ tid plaintext,pf.lib.uuid tenantId=some tid ∧ payloadToBytes pf payload=.ok plaintext ∧
      rows'=upsert rows (newRow pf c tid provider payload plaintext) := by
  unfold put at h
  split at h
  · cases h
  · obtain ⟨tid,huuid,hrest⟩ := bind_ok.mp h
    obtain ⟨plaintext,hplain,hcommit⟩ := bind_ok.mp hrest
    exact ⟨tid,plaintext,toUuid_ok huuid,hplain,committed_ok hcommit⟩

variable (pf) in
/-- The rows hold what is on the shelf: nothing, or one row that seals it. -/
def Holds (rows : List StoredCredential) (tid : Uuid) (provider : String) :
    Option GivenPayload → Prop
  | none => rows.filter (owned tid provider)=[]
  | some payload => ∃ row plaintext entropy,rows.filter (owned tid provider)=[row] ∧
      payloadToBytes pf payload=.ok plaintext ∧ (row.encryptedBlob,row.nonce)=
        encrypt pf.floatText pf.prims entropy plaintext (some (contextFor pf tid provider))

theorem Holds.length_le {held : Option GivenPayload} (h : Holds pf rows tid provider held) :
    (rows.filter (owned tid provider)).length ≤ 1 := by
  cases held with
  | none =>
    have hrows : rows.filter (owned tid provider)=[] := h
    rw [hrows]
    exact Nat.zero_le 1
  | some payload =>
    obtain ⟨row,_,_,hrows,-⟩ := h
    rw [hrows]
    exact Nat.le_refl 1

/-- What is held depends on the rows of the tenant and the provider only. -/
theorem Holds.congr {held : Option GivenPayload} (h : Holds pf rows tid provider held)
    (hrows : rows'.filter (owned tid provider)=rows.filter (owned tid provider)) :
    Holds pf rows' tid provider held := by
  unfold Holds at h ⊢
  rwa [hrows]

variable (pf) in
/-- The table and the shelf agree. -/
def Mirrors (w : World) : Prop :=
  ∀ tid provider,Holds pf w.rows tid provider (w.shelf tid provider)

theorem mirrors_put (h : Mirrors pf w) {tenantId : EntityId} {call : Call}
    (hkey : call.key=(tenantId,provider)) (hpayload : call.payload c=some payload)
    (hput : put pf w.rows c tenantId provider payload=.ok rows') :
    Mirrors pf ⟨rows',record pf w.shelf c call⟩ := by
  obtain ⟨tid,plaintext,huuid,hplain,rfl⟩ := put_ok hput
  intro tid' provider'
  unfold record
  rw [hkey,hpayload]
  dsimp only
  by_cases hown : pf.lib.uuid tenantId=some tid' ∧ provider=provider'
  · rw [if_pos hown]
    obtain ⟨huuid',rfl⟩ := hown
    obtain rfl := Option.some.inj (huuid.symm.trans huuid')
    obtain ⟨createdAt,hrows⟩ := @filter_upsert_self w.rows
      (newRow pf c tid provider payload plaintext) (h tid provider).length_le
    exact ⟨_,plaintext,c.entropy,hrows,hplain,rfl⟩
  · rw [if_neg hown]
    refine (h tid' provider').congr (filter_upsert_other _ ?_)
    refine Bool.eq_false_iff.mpr fun hnew => hown ?_
    obtain ⟨htenant,hprovider⟩ := owned_iff.mp hnew
    have htid : tid=tid' := htenant
    exact ⟨htid ▸ huuid,hprovider⟩

/-- One call keeps the table and the shelf in agreement. -/
theorem mirrors_next (h : Mirrors pf w) (call : Circumstances × Call) :
    Mirrors pf (next pf w call) := by
  obtain ⟨c,call⟩ := call
  unfold next
  cases hserve : serve pf w.rows c call with
  | error e => exact h
  | ok rows =>
    cases call with
    | put tenantId provider payload => exact mirrors_put h rfl rfl hserve
    | rotate tenantId provider newPayload => exact mirrors_put h rfl rfl hserve
    | delete tenantId provider =>
      obtain ⟨tid,huuid,hcommit⟩ := bind_ok.mp (show delete pf w.rows c tenantId provider=_ from hserve)
      obtain rfl := committed_ok hcommit
      have hid := toUuid_ok huuid
      intro tid' provider'
      have hrows := @filter_delete tid' provider' w.rows tid provider
      unfold record Call.key Call.payload
      dsimp only
      by_cases hown : pf.lib.uuid tenantId=some tid' ∧ provider=provider'
      · rw [if_pos hown]
        have htid : tid=tid' := Option.some.inj (hid.symm.trans hown.1)
        rw [if_pos ⟨htid,hown.2⟩] at hrows
        exact hrows
      · rw [if_neg hown]
        have hother : ¬(tid=tid' ∧ provider=provider') := fun hsame => hown ⟨hsame.1 ▸ hid,hsame.2⟩
        rw [if_neg hother] at hrows
        exact (h tid' provider').congr hrows

theorem mirrors_after (calls : List (Circumstances × Call)) : Mirrors pf (after pf calls) := by
  unfold after
  induction calls using List.reverseRecOn with
  | nil => exact fun _ _ => rfl
  | append_singleton calls call ih =>
    rw [List.foldl_append]
    exact mirrors_next ih call

/-- Where table and shelf agree, `get` finds what is on the shelf. -/
theorem finds_of_mirrors (h : pf.Sound floatOf used) (hw : Mirrors pf w) (tid : Uuid)
    (provider : String) : Finds pf w tid provider := by
  have hheld := hw tid provider
  unfold Finds
  cases hshelf : w.shelf tid provider with
  | none =>
    rw [hshelf] at hheld
    have hrows : w.rows.filter (owned tid provider)=[] := hheld
    dsimp only
    unfold repositoryGet selectRow
    rw [matchingRows_vault,hrows]
    rfl
  | some payload =>
    rw [hshelf] at hheld
    obtain ⟨row,plaintext,entropy,hrows,hplain,hsealed⟩ := hheld
    obtain ⟨t,hutc,hread⟩ := payloadFromBytes_toBytes h hplain
    have hopen : (vault pf w.rows).decrypt row.encryptedBlob row.nonce (tid,provider)=
        .ok plaintext := by
      have hself := decrypt_encrypt_self h.sealing entropy plaintext
        (some (contextFor pf tid provider))
      rw [← hsealed] at hself
      exact hself
    have hget : repositoryGet pf.lib (vault pf w.rows) tid provider=
        .ok (some (readBack payload t)) := by
      unfold repositoryGet selectRow
      rw [matchingRows_vault,hrows]
      change openRow pf.lib (vault pf w.rows) tid provider row.toCredentialRow=_
      unfold openRow
      rw [hopen]
      change (payloadFromBytes pf.lib plaintext >>= _)=_
      rw [hread]
      rfl
    exact ⟨readBack payload t,hget,sameInUtc_readBack hutc,same_readBack_iff h hutc⟩

variable (pf) in
/-- What is sealed under one context opens under another exactly when they are
equal as maps, and is refused otherwise. After any calls, `get` returns the
payload last put for the tenant and the provider, with its time in UTC: the
same payload, unless that time had no zone. -/
theorem credentials_bound (floatOf : List Char → Option Rat) (used : Option ContextMap → Prop)
    (h : pf.Sound floatOf used) :
    (∀ entropy plaintext c c',used c → used c' →
      (decrypt pf.floatText pf.prims (encrypt pf.floatText pf.prims entropy plaintext c).1
          (encrypt pf.floatText pf.prims entropy plaintext c).2 c'=.ok plaintext ↔ SameMap c c') ∧
        (¬SameMap c c' →
          decrypt pf.floatText pf.prims (encrypt pf.floatText pf.prims entropy plaintext c).1
            (encrypt pf.floatText pf.prims entropy plaintext c).2 c'=.error aadMismatch)) ∧
      ∀ calls tid provider,Finds pf (after pf calls) tid provider :=
  ⟨fun entropy plaintext _ _ hc hc' => decrypt_encrypt_iff h.sealing entropy plaintext hc hc',
    fun calls tid provider => finds_of_mirrors h (mirrors_after calls) tid provider⟩

/-! ## A desk's ledger account -/

/-- A desk and another one. -/
def deskId : EntityId := "01900000-0000-7000-8000-0000000000a1"

def otherId : EntityId := "01900000-0000-7000-8000-0000000000a2"

def deskRender (tid : Uuid) : String := if tid=1 then deskId else if tid=2 then otherId else ""

def deskContext (tenantId : EntityId) : ContextMap where
  entries := [("tenant_id",tenantId),("provider","tally")]
  keyed := context_keyed _ _

def deskDigest : Bytes :=
  [217,205,159,29,166,98,57,68,33,114,6,204,248,91,194,45,
    204,130,239,178,30,94,207,188,243,232,73,18,193,46,216,135]

def otherDigest : Bytes :=
  [93,145,176,98,247,101,221,73,190,36,231,119,179,10,20,193,
    186,61,33,128,8,95,177,208,67,168,241,124,132,212,230,166]

/-- SHA-256 on the contexts of the two desks. -/
def deskSha256 (bs : Bytes) : Bytes :=
  if bs=contextBytes (fun _ => "") (some (deskContext deskId)) then deskDigest
  else if bs=contextBytes (fun _ => "") (some (deskContext otherId)) then otherDigest
  else List.replicate 32 0

theorem tally_bounded : 1 ≤ "tally".length ∧ "tally".length ≤ 64 := by decide

/-- The credentials of the desk. -/
def deskPayload (rotatedAt : Option Moment) : GivenPayload where
  provider := "tally"
  fields := [("api_key","k1")]
  metaFields := []
  rotatedAt := rotatedAt
  bounded := tally_bounded
  fields_keyed := List.nodup_singleton _
  metaFields_keyed := List.nodup_nil

/-- The text of the credentials that are never rotated. -/
def deskPlaintext : Bytes :=
  encodeUtf8 (canonical (fun _ => "")
    (.obj [("provider",.str "tally"),("fields",textObject [("api_key","k1")]),
      ("meta",textObject []),("rotated_at",.null)]))

/-- These in their frame, and the token of a key for them. -/
def deskFrame : Bytes := aadMarker++deskDigest++deskPlaintext

def deskToken : Bytes := 103::encodeUtf8
  ("AAAAABlU_EAAAECAwQFBgcICQoLDA0OD54MnhHL11xoozFhcB34xkXDSlRdeIhHnBiaLnjH9zTmEY4Z5LWM"++
    "dLSGpuSygGdLLwETERw03IjVH5hqU9BgBDhu3NDMDZPK9YShMh5lgsECNIZN51NwUqIxO998FAd3Bteg0Eu"++
    "JqFrjXCnHXsDd8qXt2k4bZP3gYZXRiy4zQIgWNRTbKZXR4Kz2K2TOtJ-5S8ifPhwNeY_Cv00cnELv1xY=").toList

/-- Fernet on the frame of the desk; other data is kept behind a byte no token starts with. -/
def deskEncrypt (_entropy data : Bytes) : Bytes := if data=deskFrame then deskToken else 0::data

def deskDecrypt (token : Bytes) : Except Exn Bytes :=
  if token=deskToken then .ok deskFrame
  else
    match token with
    | 0::data => .ok data
    | _ => .error ⟨"InvalidToken",[],"",none⟩

def deskPrimitives : Primitives := ⟨deskEncrypt,deskDecrypt,deskSha256⟩

/-- The text of an integer, read back. -/
def readWholeNumber (s : String) : Except Exn Time :=
  match JsonTexts.loads (fun _ => none) s.toList with
  | some (.int n) => .ok n
  | _ => .error ⟨"ValueError",[],"Invalid isoformat string",none⟩

def epochText : String := "1970-01-01T00:00:00+00:00"

/-- The host of the desk keeps its clock in UTC. -/
def deskPlatform : Platform where
  lib :=
    {uuid := fun s => if s=deskId then some 1 else if s=otherId then some 2 else none
     loads := fun bs =>
       match (decodeUtf8 bs).bind (JsonTexts.loads fun _ => none) with
       | some v => .ok v
       | none => .error ⟨"JSONDecodeError",["ValueError"],"",none⟩
     fromIso := fun v =>
       match v with
       | .str s => if s=epochText then .ok 0 else readWholeNumber s
       | _ => .error ⟨"TypeError",[],"fromisoformat: argument must be str",none⟩
     text := fun v =>
       match v with
       | .str s => s
       | _ => ""
     repr := fun _ => ""
     providerError := fun _ => ""}
  prims := deskPrimitives
  floatText := fun _ => ""
  toUtc := fun m =>
    match m with
    | .aware t => .ok t
    | .naive wall => .ok wall
  isoformat := fun t => if t=0 then epochText else toString t
  render := deskRender

/-- The contexts of the two desks. -/
def deskUsed (c : Option ContextMap) : Prop :=
  c=some (deskContext deskId) ∨ c=some (deskContext otherId)

theorem readWholeNumber_toString (t : Time) : readWholeNumber (toString t)=.ok t := by
  have hread : JsonTexts.loads (fun _ => none) (compactJson (fun _ => "") (.int t)).toList=
      some (.int t) := loads_compactJson trivial
  unfold readWholeNumber
  change JsonTexts.loads (fun _ => none) (toString t).toList=_ at hread
  rw [hread]

/-- Two texts whose digests are those of the desks are told apart by them. -/
theorem two_digests {f : Bytes → Bytes} {a b x y : Bytes} (ha : f a=deskDigest)
    (hb : b≠a → f b=otherDigest) (hx : x=a ∨ x=b) (hy : y=a ∨ y=b) (h : f x=f y) : x=y := by
  have hdigests : deskDigest≠otherDigest := by decide
  by_contra hne
  rcases hx with rfl|rfl <;> rcases hy with rfl|rfl
  · exact hne rfl
  · rw [ha,hb (Ne.symm hne)] at h
    exact hdigests h
  · rw [ha,hb hne] at h
    exact hdigests h.symm
  · exact hne rfl

theorem sha256_desk :
    deskPrimitives.sha256 (contextBytes (fun _ => "") (some (deskContext deskId)))=deskDigest := by
  unfold deskPrimitives deskSha256
  dsimp only
  rw [if_pos rfl]

theorem sha256_other (h : contextBytes (fun _ => "") (some (deskContext otherId))≠
    contextBytes (fun _ => "") (some (deskContext deskId))) :
    deskPrimitives.sha256 (contextBytes (fun _ => "") (some (deskContext otherId)))=
      otherDigest := by
  unfold deskPrimitives deskSha256
  dsimp only
  rw [if_neg h,if_pos rfl]

theorem sealing_desk : Sealing (fun _ => "") deskPrimitives deskUsed where
  opens := by
    intro entropy data
    change deskDecrypt (deskEncrypt entropy data)=_
    unfold deskEncrypt deskDecrypt
    split
    · rename_i hframe
      rw [if_pos rfl,hframe]
    · have hne : 0::data≠deskToken := fun heq =>
        absurd (List.cons.inj heq).1 (by decide)
      rw [if_neg hne]
      rfl
  length := by
    intro bs
    change (deskSha256 bs).length=32
    unfold deskSha256
    split
    · rfl
    · split
      · rfl
      · exact List.length_replicate
  apart := fun _ _ hc hc' heq =>
    two_digests sha256_desk sha256_other (hc.imp (congrArg _) (congrArg _))
      (hc'.imp (congrArg _) (congrArg _)) heq

theorem sound_deskPlatform : deskPlatform.Sound (fun _ => none) deskUsed where
  sealing := sealing_desk
  loads := by
    intro bs v hread
    unfold deskPlatform
    dsimp only
    rw [hread]
  text := fun _ => rfl
  isoformat := by
    intro t
    have hread := readWholeNumber_toString t
    have hepoch : ∀ n : Time,readWholeNumber epochText≠.ok n := by
      intro n heq
      have herror : readWholeNumber epochText=
          .error ⟨"ValueError",[],"Invalid isoformat string",none⟩ := by rfl
      rw [herror] at heq
      cases heq
    unfold deskPlatform
    dsimp only
    split
    · rename_i hzero
      rw [if_pos rfl,hzero]
      exact ⟨by decide,rfl⟩
    · have hne : toString t≠epochText := fun heq => hepoch t (heq ▸ hread)
      rw [if_neg hne,hread]
      refine ⟨fun hempty => ?_,rfl⟩
      rw [hempty] at hread
      cases hread
  instant := fun t u h => (Except.ok.inj h).symm

/-- One `put` of the desk's credentials. -/
def deskPut (rotatedAt : Option Moment) : List (Circumstances × Call) :=
  [(⟨0,[],none⟩,.put deskId "tally" (deskPayload rotatedAt))]

theorem credentials_bound_desk :
    (decrypt deskPlatform.floatText deskPlatform.prims
        (encrypt deskPlatform.floatText deskPlatform.prims [] deskPlaintext
          (some (deskContext deskId))).1
        (encrypt deskPlatform.floatText deskPlatform.prims [] deskPlaintext
          (some (deskContext deskId))).2 (some (deskContext otherId))=.ok deskPlaintext ↔
            SameMap (some (deskContext deskId)) (some (deskContext otherId))) ∧
      Finds deskPlatform (after deskPlatform (deskPut none)) 1 "tally" := by
  have hbound := credentials_bound deskPlatform (fun _ => none) deskUsed sound_deskPlatform
  exact ⟨(hbound.1 [] deskPlaintext _ _ (.inl rfl) (.inr rfl)).1,hbound.2 (deskPut none) 1 "tally"⟩

/-- A time without a zone is put, and another payload comes back: its time is
the one in UTC. -/
theorem credentials_changed :
    ∃ read,repositoryGet deskPlatform.lib
        (vault deskPlatform (after deskPlatform (deskPut (some (.naive 0)))).rows) 1 "tally"=
          .ok (some read) ∧ read.rotatedAt=some 0 ∧ ¬Same (deskPayload (some (.naive 0))) read := by
  have hfinds := finds_of_mirrors sound_deskPlatform
    (mirrors_after (deskPut (some (.naive 0)))) 1 "tally"
  have hshelf : (after deskPlatform (deskPut (some (.naive 0)))).shelf 1 "tally"=
      some (deskPayload (some (.naive 0))) := by rfl
  unfold Finds at hfinds
  rw [hshelf] at hfinds
  obtain ⟨read,hget,hutc,hsame⟩ := hfinds
  exact ⟨read,hget,(Except.ok.inj hutc.2.2.2).symm,fun h => hsame.mp h 0 rfl⟩

end Voyagent.CredentialRepository
