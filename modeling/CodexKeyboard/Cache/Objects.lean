import CodexKeyboard.Cache.CacheId
import CodexKeyboard.Lib.Transaction
import Mathlib.Algebra.Ring.Nat
/-!
# Encrypted cache objects

`encrypt_object` and `decrypt_object` (`src/app/host/src/cache.rs:864-1002`) and the size checks of
a bundle (cache.rs:833-862). AES-256-GCM and HKDF-SHA256 come from crates and are the parameter
`Crypto`, which carries what the cache relies on: a ciphertext opens under the key, nonce and
associated data it was encrypted with, and is 16 bytes longer than its plaintext.

| here | there |
| --- | --- |
| `ObjectKind`, `fileName`, `maxPlaintextBytes` | `ObjectKind` (cache.rs:795) |
| `CacheBundle` | `CacheBundle` (cache.rs:182) and `DecryptedCacheBundle` |
| `validateBundle`, `encodedBundleBytes` | `validate_bundle` (cache.rs:833), `encoded_bundle_bytes` (cache.rs:853) |
| `encodeHeader`, `decodeHeader` | `encode_header` (cache.rs:936), `decode_header` (cache.rs:952) |
| `objectAad`, `deriveObjectKey` | `object_aad` (cache.rs:976), `derive_object_key` (cache.rs:984) |
| `encryptObject`, `decryptObject` | `encrypt_object` (cache.rs:864), `decrypt_object` (cache.rs:894) |
| `Entropy` | the salt and the nonce `OsRng` fills |

What is encrypted decrypts (`decryptObject_encryptObject`) and has the size the capacity check
predicted (`length_encryptObject`).
-/

namespace CodexKeyboard.Cache

open Lib

/-- `ObjectKind` (cache.rs:795). -/
inductive ObjectKind where
  | keyCheck
  | manifest
  | qwenWav
  | deviceEiad
deriving DecidableEq, Repr

def headerBytes : Nat := 48
def tagBytes : Nat := 16
def maxManifestBytes : Nat := 1024 * 1024
def maxAudioObjectBytes : Nat := 16 * 1024 * 1024
def maxGenerationPlaintextBytes : Nat := 32 * 1024 * 1024

/-- The bytes of an ASCII text. -/
def ascii (text : String) : List UInt8 := text.toList.map fun c => UInt8.ofNat c.toNat

def cacheMagic : List UInt8 := ascii "ECICACHE"
def keyMarkerPlaintext : List UInt8 := ascii "easy-codex-input-cache-key-v1"
def objectKeyInfo : List UInt8 := ascii "easy-codex-input/cache/object-key/v1"

namespace ObjectKind

/-- `ALL`. -/
def all : List ObjectKind := [manifest, qwenWav, deviceEiad]

def fileName : ObjectKind → String
  | keyCheck => ".key-check.enc"
  | manifest => "manifest.json.enc"
  | qwenWav => "qwen.wav.enc"
  | deviceEiad => "device.eiad.enc"

def maxPlaintextBytes : ObjectKind → Nat
  | keyCheck => keyMarkerPlaintext.length
  | manifest => maxManifestBytes
  | qwenWav => maxAudioObjectBytes
  | deviceEiad => maxAudioObjectBytes

/-- The discriminant. -/
def code : ObjectKind → UInt8
  | keyCheck => 0
  | manifest => 1
  | qwenWav => 2
  | deviceEiad => 3

end ObjectKind

/-- `u64::checked_add`. -/
def checkedAdd (a b : Nat) : Option Nat := if a + b ≤ u64Max then some (a + b) else none

/-! ## Bundles -/

/-- The three objects of a generation. -/
structure CacheBundle where
  manifestJson : List UInt8
  qwenWav : List UInt8
  deviceEiad : List UInt8
deriving DecidableEq, Repr

namespace CacheBundle

/-- The plaintext of a kind. -/
def get (bundle : CacheBundle) : ObjectKind → List UInt8
  | .keyCheck => []
  | .manifest => bundle.manifestJson
  | .qwenWav => bundle.qwenWav
  | .deviceEiad => bundle.deviceEiad

end CacheBundle

def validateBundle (bundle : CacheBundle) : Except CacheError Unit := do
  ObjectKind.all.forM fun kind => ensure ((bundle.get kind).length ≤ kind.maxPlaintextBytes) .objectTooLarge
  match checkedAdd bundle.manifestJson.length bundle.qwenWav.length
    |>.bind (checkedAdd · bundle.deviceEiad.length) with
  | none => throw .generationTooLarge
  | some total => ensure (total ≤ maxGenerationPlaintextBytes) .generationTooLarge

def encodedBundleBytes (bundle : CacheBundle) : Except CacheError Nat :=
  let overhead := (headerBytes + tagBytes) * ObjectKind.all.length
  match (checkedAdd bundle.manifestJson.length bundle.qwenWav.length |>.bind
      (checkedAdd · bundle.deviceEiad.length)).bind (checkedAdd · overhead) with
  | none => .error .capacityExceeded
  | some bytes => .ok bytes

/-! ## Headers -/

/-- `u64::to_be_bytes`. -/
def toBeBytes (n : Nat) : List UInt8 := (List.range 8).map fun i => UInt8.ofNat (n / 256 ^ (7 - i))

/-- `u64::from_be_bytes`. -/
def fromBeBytes (bytes : List UInt8) : Nat := bytes.foldl (fun n b => 256 * n + b.toNat) 0

/-- The random part of an object. -/
structure Entropy where
  salt : List UInt8
  nonce : List UInt8
  length_salt : salt.length = 16
  length_nonce : nonce.length = 12

def encodeHeader (kind : ObjectKind) (plaintextBytes : Nat) (entropy : Entropy) : List UInt8 :=
  cacheMagic ++ [1, kind.code, 0, 0] ++ toBeBytes plaintextBytes ++ entropy.salt ++ entropy.nonce

/-- The kind, the length, the salt and the nonce of a header. -/
def decodeHeader (header : List UInt8) :
    Except CacheError (ObjectKind × Nat × List UInt8 × List UInt8) := do
  ensure (header.take 8 == cacheMagic && header.getD 8 0 == 1 &&
    header.getD 10 0 == 0 && header.getD 11 0 == 0) .corrupt
  let kind ← match header.getD 9 0 with
    | 0 => pure ObjectKind.keyCheck
    | 1 => pure ObjectKind.manifest
    | 2 => pure ObjectKind.qwenWav
    | 3 => pure ObjectKind.deviceEiad
    | _ => throw CacheError.corrupt
  return (kind, fromBeBytes ((header.drop 12).take 8), (header.drop 20).take 16, (header.drop 36).take 12)

/-! ## Encryption -/

/-- AES-256-GCM and HKDF-SHA256. -/
structure Crypto where
  /-- `Aes256Gcm::encrypt`: the key, the nonce, the associated data and the plaintext. -/
  encrypt : List UInt8 → List UInt8 → List UInt8 → List UInt8 → Option (List UInt8)
  /-- `Aes256Gcm::decrypt`. -/
  decrypt : List UInt8 → List UInt8 → List UInt8 → List UInt8 → Option (List UInt8)
  /-- `Hkdf::expand` to 32 bytes: the salt, the root key and the info. -/
  hkdf : List UInt8 → List UInt8 → List UInt8 → List UInt8
  decrypt_of_encrypt :
    ∀ key nonce aad plaintext ciphertext, encrypt key nonce aad plaintext = some ciphertext →
    decrypt key nonce aad ciphertext = some plaintext
  length_of_encrypt :
    ∀ key nonce aad plaintext ciphertext, encrypt key nonce aad plaintext = some ciphertext →
    ciphertext.length = plaintext.length + 16

def objectAad (header : List UInt8) (id : CacheId) : List UInt8 :=
  header ++ id.taskHash ++ toBeBytes id.generation

variable (crypto : Crypto) (rootKey : List UInt8)

def deriveObjectKey (id : CacheId) (kind : ObjectKind) (salt : List UInt8) : List UInt8 :=
  crypto.hkdf salt rootKey (objectKeyInfo ++ id.taskHash ++ toBeBytes id.generation ++ [kind.code])

def encryptObject (entropy : Entropy) (id : CacheId) (kind : ObjectKind) (plaintext : List UInt8) :
    Except CacheError (List UInt8) :=
  let header := encodeHeader kind plaintext.length entropy
  let objectKey := deriveObjectKey crypto rootKey id kind entropy.salt
  match crypto.encrypt objectKey entropy.nonce (objectAad header id) plaintext with
  | none => .error .crypto
  | some ciphertext => .ok (header ++ ciphertext)

def decryptObject (id : CacheId) (expectedKind : ObjectKind) (encoded : List UInt8) :
    Except CacheError (List UInt8) := do
  ensure (headerBytes + tagBytes ≤ encoded.length) .corrupt
  let header := encoded.take headerBytes
  let (kind, plaintextBytes, salt, nonce) ← decodeHeader header
  ensure (kind = expectedKind ∧ plaintextBytes ≤ expectedKind.maxPlaintextBytes) .corrupt
  let expectedEncoded ← match (checkedAdd headerBytes plaintextBytes).bind (checkedAdd · tagBytes) with
    | none => throw CacheError.corrupt
    | some bytes => pure bytes
  ensure (encoded.length = expectedEncoded) .corrupt
  let objectKey := deriveObjectKey crypto rootKey id kind salt
  match crypto.decrypt objectKey nonce (objectAad header id) (encoded.drop headerBytes) with
  | none => throw .corrupt
  | some plaintext =>
    ensure (plaintext.length = plaintextBytes) .corrupt
    return plaintext

/-! ## Round trip -/

theorem fromBeBytes_toBeBytes {n : Nat} (h : n ≤ u64Max) : fromBeBytes (toBeBytes n) = n := by
  simp only [u64Max] at h
  simp [fromBeBytes, toBeBytes, List.range_succ]
  omega

@[simp] theorem length_toBeBytes (n : Nat) : (toBeBytes n).length = 8 := by simp [toBeBytes]

@[simp] theorem length_cacheMagic : cacheMagic.length = 8 := by decide

@[simp] theorem length_encodeHeader (kind : ObjectKind) (n : Nat) (entropy : Entropy) :
    (encodeHeader kind n entropy).length = headerBytes := by
  simp [encodeHeader, entropy.length_salt, entropy.length_nonce, headerBytes]

theorem take_salt (kind : ObjectKind) (n : Nat) (entropy : Entropy) :
    ((encodeHeader kind n entropy).drop 20).take 16 = entropy.salt := by
  show (entropy.salt ++ entropy.nonce).take 16 = entropy.salt
  rw [← entropy.length_salt, List.take_left]

theorem take_nonce (kind : ObjectKind) (n : Nat) (entropy : Entropy) :
    ((encodeHeader kind n entropy).drop 36).take 12 = entropy.nonce := by
  show ((entropy.salt ++ entropy.nonce).drop 16).take 12 = entropy.nonce
  rw [← entropy.length_salt, List.drop_left, ← entropy.length_nonce, List.take_length]

theorem decodeHeader_encodeHeader (kind : ObjectKind) {n : Nat} (h : n ≤ u64Max) (entropy : Entropy) :
    decodeHeader (encodeHeader kind n entropy) = .ok (kind, n, entropy.salt, entropy.nonce) := by
  have hlength : fromBeBytes (((encodeHeader kind n entropy).drop 12).take 8) = n := fromBeBytes_toBeBytes h
  unfold decodeHeader
  rw [hlength, take_salt, take_nonce]
  cases kind <;> rfl

theorem maxPlaintextBytes_le (kind : ObjectKind) : kind.maxPlaintextBytes ≤ maxAudioObjectBytes := by
  cases kind <;> decide

variable {crypto rootKey}

/-- The header of an object that was written. -/
theorem encryptObject_eq_ok {entropy : Entropy} {id : CacheId} {kind : ObjectKind}
    {plaintext encoded : List UInt8}
    (h : encryptObject crypto rootKey entropy id kind plaintext = .ok encoded) :
    ∃ ciphertext, encoded = encodeHeader kind plaintext.length entropy ++ ciphertext ∧
      crypto.encrypt (deriveObjectKey crypto rootKey id kind entropy.salt) entropy.nonce
        (objectAad (encodeHeader kind plaintext.length entropy) id) plaintext = some ciphertext := by
  unfold encryptObject at h
  dsimp only at h
  split at h
  · cases h
  · rename_i ciphertext hc
    cases h
    exact ⟨ciphertext, rfl, hc⟩

theorem length_encryptObject {entropy : Entropy} {id : CacheId} {kind : ObjectKind}
    {plaintext encoded : List UInt8}
    (h : encryptObject crypto rootKey entropy id kind plaintext = .ok encoded) :
    encoded.length = headerBytes + tagBytes + plaintext.length := by
  obtain ⟨ciphertext, rfl, hc⟩ := encryptObject_eq_ok h
  rw [List.length_append, length_encodeHeader, crypto.length_of_encrypt _ _ _ _ _ hc, tagBytes]
  omega

theorem decryptObject_encryptObject {entropy : Entropy} {id : CacheId} {kind : ObjectKind}
    {plaintext encoded : List UInt8} (hmax : plaintext.length ≤ kind.maxPlaintextBytes)
    (h : encryptObject crypto rootKey entropy id kind plaintext = .ok encoded) :
    decryptObject crypto rootKey id kind encoded = .ok plaintext := by
  have hlength := length_encryptObject h
  obtain ⟨ciphertext, rfl, hc⟩ := encryptObject_eq_ok h
  have haudio := maxPlaintextBytes_le kind
  have hbound : plaintext.length ≤ u64Max := Nat.le_trans hmax (Nat.le_trans haudio (by decide))
  have htake : (encodeHeader kind plaintext.length entropy ++ ciphertext).take headerBytes =
      encodeHeader kind plaintext.length entropy := by
    rw [← length_encodeHeader kind plaintext.length entropy, List.take_left]
  have hdrop :
    (encodeHeader kind plaintext.length entropy ++ ciphertext).drop headerBytes = ciphertext := by
    rw [← length_encodeHeader kind plaintext.length entropy, List.drop_left]
  have hsize : (checkedAdd headerBytes plaintext.length).bind (checkedAdd · tagBytes) =
      some (headerBytes + plaintext.length + tagBytes) := by
    have h1 : headerBytes + plaintext.length + tagBytes ≤ u64Max := by
      simp only [headerBytes, tagBytes, u64Max, maxAudioObjectBytes] at haudio ⊢
      omega
    have h2 : headerBytes + plaintext.length ≤ u64Max := Nat.le_trans (Nat.le_add_right _ _) h1
    simp [checkedAdd, h1, h2]
  have hshort :
    headerBytes + tagBytes ≤ (encodeHeader kind plaintext.length entropy ++ ciphertext).length := by omega
  have hexact : (encodeHeader kind plaintext.length entropy ++ ciphertext).length =
      headerBytes + plaintext.length + tagBytes := by omega
  unfold decryptObject
  simp only [htake, hdrop, decodeHeader_encodeHeader kind hbound, hsize, hexact, ok_bind, hmax,
    crypto.decrypt_of_encrypt _ _ _ _ _ hc]
  simp [headerBytes, tagBytes]

end CodexKeyboard.Cache
