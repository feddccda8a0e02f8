import Voyagent.CanonicalJson
import Voyagent.TenantCredentials

/-!
# Envelopes bound to a context

`FernetEnvKMS` puts a digest of the context in front of what it encrypts and
compares it after decryption. Fernet and SHA-256 are given by what they return.
A blob opens under the contexts that read as the one it was sealed under.
-/

namespace Voyagent.CredentialEnvelopes

open RuntimeValues KeyedMap TenantCredentials CanonicalJson

/-- `cs.encode("utf-8")`. -/
def encodeUtf8 (cs : List Char) : Bytes := (String.ofList cs).toUTF8.data.toList

/-- `bs.decode("utf-8")`. -/
def decodeUtf8 (bs : Bytes) : Option (List Char) :=
  (ByteArray.mk bs.toArray).utf8Decode?.map Array.toList

@[simp] theorem decodeUtf8_encodeUtf8 (cs : List Char) : decodeUtf8 (encodeUtf8 cs)=some cs := by
  have hbytes : (String.ofList cs).toUTF8=cs.utf8Encode := String.toByteArray_ofList
  unfold decodeUtf8 encodeUtf8
  rw [Array.toArray_toList]
  change (String.ofList cs).toUTF8.utf8Decode?.map Array.toList=some cs
  rw [hbytes,List.utf8Decode?_utf8Encode]
  rfl

theorem encodeUtf8_inj {cs cs' : List Char} (h : encodeUtf8 cs=encodeUtf8 cs') : cs=cs' := by
  have hread := decodeUtf8_encodeUtf8 cs
  rw [h,decodeUtf8_encodeUtf8] at hread
  exact (Option.some.inj hread).symm

/-- A `dict[str, str]`: no key twice. -/
structure ContextMap where
  entries : Table String String
  keyed : (entries.map Prod.fst).Nodup

/-- `context or {}`. -/
def contextEntries (context : Option ContextMap) : Table String String :=
  (context.map ContextMap.entries).getD []

theorem nodup_contextEntries (context : Option ContextMap) :
    ((contextEntries context).map Prod.fst).Nodup := by
  cases context with
  | none => exact List.nodup_nil
  | some c => exact c.keyed

/-- Two contexts are equal as maps; no context is the empty one. -/
def SameMap (c c' : Option ContextMap) : Prop :=
  ∀ k,get (contextEntries c) k=get (contextEntries c') k

/-- What `Fernet` under a key and `hashlib.sha256` return. A token draws its
time and its initialization vector. -/
structure Primitives where
  encrypt : Bytes → Bytes → Bytes
  decrypt : Bytes → Except Exn Bytes
  sha256 : Bytes → Bytes

/-! Contexts hold no floats; their text is given like that of every JSON value. -/

variable (floatText : Rat → String) (prims : Primitives)

/-- `canonical`, the bytes that are hashed. -/
def contextBytes (context : Option ContextMap) : Bytes :=
  encodeUtf8 (canonical floatText (textObject (contextEntries context)))

/-- `_AAD_MARKER`. -/
def aadMarker : Bytes := [0x00,0x56,0x59,0x47,0x2D,0x41,0x41,0x44,0x00]

/-- `_AAD_HASH_LEN`. -/
def aadHashLen : Nat := 32

/-- `_aad_digest`. -/
def aadDigest (context : Option ContextMap) : Bytes := prims.sha256 (contextBytes floatText context)

/-- `_wrap_with_aad`. -/
def wrapWithAad (plaintext : Bytes) (context : Option ContextMap) : Bytes :=
  aadMarker++aadDigest floatText prims context++plaintext

def aadMismatch : Exn := decryptionError "context (AAD) mismatch on credential decrypt"

/-- `_strip_and_verify_aad`. -/
def stripAndVerifyAad (framed : Bytes) (context : Option ContextMap) : Except Exn Bytes :=
  if ¬aadMarker.isPrefixOf framed then
    .error (decryptionError "decrypted blob is missing the Voyagent AAD marker")
  else
    let digest := (framed.drop aadMarker.length).take aadHashLen
    let body := framed.drop (aadMarker.length+aadHashLen)
    if digest≠aadDigest floatText prims context then .error aadMismatch
    else .ok body

/-- `FernetEnvKMS.encrypt`: the token, and no nonce. -/
def encrypt (entropy plaintext : Bytes) (context : Option ContextMap) : Bytes × Bytes :=
  (prims.encrypt entropy (wrapWithAad floatText prims plaintext context),[])

/-- `FernetEnvKMS.decrypt`. -/
def decrypt (ciphertext _nonce : Bytes) (context : Option ContextMap) : Except Exn Bytes :=
  match prims.decrypt ciphertext with
  | .error e =>
    if e.isInstance "InvalidToken" then
      .error (decryptionError "Fernet token is invalid, expired, or signed with a different key")
    else .error (decryptionError e.text)
  | .ok framed => stripAndVerifyAad floatText prims framed context

variable {floatText prims}

/-- Contexts have one encoding exactly when they are equal as maps. -/
theorem contextBytes_eq_iff (c c' : Option ContextMap) :
    contextBytes floatText c=contextBytes floatText c' ↔ SameMap c c' :=
  (Function.Injective.eq_iff fun _ _ => encodeUtf8_inj).trans
    (canonical_texts_iff (nodup_contextEntries c) (nodup_contextEntries c'))

/-- A frame opens to its body where the digests agree. -/
theorem strip_wrap (hlength : ∀ bs,(prims.sha256 bs).length=32) (plaintext : Bytes)
    (c c' : Option ContextMap) :
    stripAndVerifyAad floatText prims (wrapWithAad floatText prims plaintext c) c'=
      if aadDigest floatText prims c=aadDigest floatText prims c' then .ok plaintext
      else .error aadMismatch := by
  have hdigest : (aadDigest floatText prims c).length=aadHashLen := hlength _
  have hframed : wrapWithAad floatText prims plaintext c=
      aadMarker++(aadDigest floatText prims c++plaintext) := List.append_assoc ..
  have hmarker : aadMarker.isPrefixOf (wrapWithAad floatText prims plaintext c)=true := by
    rw [hframed]
    exact List.isPrefixOf_iff_prefix.mpr (List.prefix_append _ _)
  have htake : ((wrapWithAad floatText prims plaintext c).drop aadMarker.length).take aadHashLen=
      aadDigest floatText prims c := by
    rw [hframed,List.drop_left,← hdigest,List.take_left]
  have hbody : (wrapWithAad floatText prims plaintext c).drop (aadMarker.length+aadHashLen)=
      plaintext := by
    rw [hframed,← List.drop_drop,List.drop_left,← hdigest,List.drop_left]
  unfold stripAndVerifyAad
  rw [if_neg (not_not_intro hmarker),htake,hbody]
  dsimp only
  rw [ite_not]

/-- What is assumed of the primitives: a token opens to what it was made from,
digests have their length, and those of the contexts in use differ where the
encodings do. -/
structure Sealing (floatText : Rat → String) (prims : Primitives)
    (used : Option ContextMap → Prop) : Prop where
  opens : ∀ entropy data,prims.decrypt (prims.encrypt entropy data)=.ok data
  length : ∀ bs,(prims.sha256 bs).length=32
  apart : ∀ c c',used c → used c' → prims.sha256 (contextBytes floatText c)=
    prims.sha256 (contextBytes floatText c') → contextBytes floatText c=contextBytes floatText c'

/-- What is sealed under a context opens under it. -/
theorem decrypt_encrypt_self {used : Option ContextMap → Prop} (h : Sealing floatText prims used)
    (entropy plaintext : Bytes) (c : Option ContextMap) :
    decrypt floatText prims (encrypt floatText prims entropy plaintext c).1
      (encrypt floatText prims entropy plaintext c).2 c=.ok plaintext := by
  unfold decrypt encrypt
  dsimp only
  rw [h.opens]
  dsimp only
  rw [strip_wrap h.length,if_pos rfl]

/-- Between contexts in use it opens exactly where they are equal as maps, and
is refused elsewhere. -/
theorem decrypt_encrypt_iff {used : Option ContextMap → Prop} (h : Sealing floatText prims used)
    (entropy plaintext : Bytes) {c c' : Option ContextMap} (hc : used c) (hc' : used c') :
    (decrypt floatText prims (encrypt floatText prims entropy plaintext c).1
        (encrypt floatText prims entropy plaintext c).2 c'=.ok plaintext ↔ SameMap c c') ∧
      (¬SameMap c c' → decrypt floatText prims (encrypt floatText prims entropy plaintext c).1
        (encrypt floatText prims entropy plaintext c).2 c'=.error aadMismatch) := by
  have hdigest : aadDigest floatText prims c=aadDigest floatText prims c' ↔ SameMap c c' := by
    rw [← @contextBytes_eq_iff floatText]
    exact ⟨h.apart c c' hc hc',congrArg prims.sha256⟩
  unfold decrypt encrypt
  dsimp only
  rw [h.opens]
  dsimp only
  rw [strip_wrap h.length]
  by_cases hsame : SameMap c c'
  · rw [if_pos (hdigest.mpr hsame)]
    exact ⟨iff_of_true rfl hsame,fun hne => absurd hsame hne⟩
  · rw [if_neg fun heq => hsame (hdigest.mp heq)]
    exact ⟨iff_of_false (fun heq => by cases heq) hsame,fun _ => rfl⟩

end Voyagent.CredentialEnvelopes
