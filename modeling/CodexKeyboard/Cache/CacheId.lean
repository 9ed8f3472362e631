import Mathlib.Data.List.Basic
/-!
# Names of cached summaries

`CacheId` (`src/app/host/src/cache.rs:126-179`, helpers at 1399-1434). SHA-256 comes from the `sha2`
crate and is the parameter `sha256`.

| here | there |
| --- | --- |
| `CacheError` | `CacheError` (cache.rs:44); `io` and `secretStore` without the error they wrap |
| `CacheId.forTask` | `CacheId::for_task` (cache.rs:132); `none` is `InvalidGeneration` |
| `CacheId.fromReference` | `CacheId::from_reference` (cache.rs:142); `none` is `InvalidReference` |
| `CacheId.reference` | `CacheId::reference` (cache.rs:168) |
| `taskDirectoryName`, `generationName` | `task_directory_name` (cache.rs:172), `generation_name` (cache.rs:176) |

A reference names one id: `fromReference` reads back what `reference` wrote
(`fromReference_reference`).
-/

namespace CodexKeyboard.Cache

/-- `u64::MAX`. -/
def u64Max : Nat := 0xffffffffffffffff

/-- The errors of the cache (cache.rs:44). -/
inductive CacheError where
  | io
  | invalidKey
  | invalidGeneration
  | objectTooLarge
  | generationTooLarge
  | capacityExceeded
  | alreadyPublished
  | alreadyOpen
  | missingObject
  | invalidReference
  | missingReference
  | corrupt
  | crypto
  | lockUnavailable
  | secretStore
deriving DecidableEq, Repr

/-- `CacheId` (cache.rs:126). -/
structure CacheId where
  taskHash : List UInt8
  generation : Nat
deriving DecidableEq, Repr

def hexDigit (n : UInt8) : Char :=
  ['0', '1', '2', '3', '4', '5', '6', '7', '8', '9', 'a', 'b', 'c', 'd', 'e', 'f'].getD n.toNat '0'

/-- `encode_hex` (cache.rs:1415). -/
def encodeHex (bytes : List UInt8) : List Char :=
  bytes.flatMap fun (b : UInt8) => [hexDigit (b >>> 4), hexDigit (b &&& 0x0f)]

/-- `decode_hex_pair`'s `digit` (cache.rs:1426). -/
def decodeHexDigit (c : Char) : Option UInt8 :=
  if '0' ≤ c ∧ c ≤ '9' then some (UInt8.ofNat (c.toNat - 48))
  else if 'a' ≤ c ∧ c ≤ 'f' then some (UInt8.ofNat (c.toNat - 97 + 10))
  else none

/-- The loop over `chunks_exact(2)` with `decode_hex_pair`. -/
def decodeHex : List Char → Option (List UInt8)
  | hi :: lo :: rest => do
    let h ← decodeHexDigit hi
    let l ← decodeHexDigit lo
    let bytes ← decodeHex rest
    return ((h <<< 4) ||| l) :: bytes
  | _ => some []

/-- `is_task_hash` (cache.rs:1399). -/
def isTaskHash (value : List Char) : Bool :=
  value.length == 64 && value.all fun c => (decodeHexDigit c).isSome

/-- `is_canonical_generation` (cache.rs:1407). -/
def isCanonicalGeneration (value : List Char) : Bool :=
  (value.head?.any fun c => decide ('1' ≤ c ∧ c ≤ '9')) && value.all fun c => decide ('0' ≤ c ∧ c ≤ '9')

/-- `str::parse::<u64>` of a string of digits. -/
def parseU64 (value : List Char) : Option Nat :=
  let n := value.foldl (fun n c => 10 * n + (c.toNat - 48)) 0
  if n ≤ u64Max then some n else none

namespace CacheId

def forTask (sha256 : List UInt8 → List UInt8) (taskId : String) (generation : Nat) : Option CacheId :=
  if generation = 0 then none else some ⟨sha256 taskId.toUTF8.toList, generation⟩

def fromReference (reference : String) : Option CacheId :=
  match reference.toList.splitOn '/' with
  | [taskHash, generation] =>
    if isTaskHash taskHash && isCanonicalGeneration generation then do
      let generation ← parseU64 generation
      let decoded ← decodeHex taskHash
      if generation = 0 then none else some ⟨decoded, generation⟩
    else none
  | _ => none

def reference (id : CacheId) : String :=
  String.ofList (encodeHex id.taskHash) ++ "/" ++ toString id.generation

def taskDirectoryName (id : CacheId) : String := String.ofList (encodeHex id.taskHash)

def generationName (id : CacheId) : String := toString id.generation

/-- An id that the program can hold: a 32-byte hash and a generation from 1 to `u64::MAX`. -/
structure Valid (id : CacheId) : Prop where
  hash : id.taskHash.length = 32
  positive : 0 < id.generation
  bounded : id.generation ≤ u64Max

end CacheId

/-! ## Hexadecimal digits -/

theorem decodeHexDigit_hexDigit :
    ∀ n < 16, decodeHexDigit (hexDigit (UInt8.ofNat n)) = some (UInt8.ofNat n) := by decide

theorem byte_halves :
    ∀ n < 256, ((UInt8.ofNat n >>> 4) <<< 4) ||| (UInt8.ofNat n &&& 0x0f) = UInt8.ofNat n := by
  decide +kernel

theorem halves_lt :
    ∀ n < 256, (UInt8.ofNat n >>> 4).toNat < 16 ∧ (UInt8.ofNat n &&& 0x0f).toNat < 16 := by decide +kernel

theorem decodeHexDigit_half {n : UInt8} (h : n.toNat < 16) : decodeHexDigit (hexDigit n) = some n := by
  have := decodeHexDigit_hexDigit n.toNat h
  rwa [UInt8.ofNat_toNat] at this

theorem decodeHexDigit_high (b : UInt8) : decodeHexDigit (hexDigit (b >>> 4)) = some (b >>> 4) := by
  have := (halves_lt b.toNat b.toNat_lt).1
  rw [UInt8.ofNat_toNat] at this
  exact decodeHexDigit_half this

theorem decodeHexDigit_low (b : UInt8) : decodeHexDigit (hexDigit (b &&& 0x0f)) = some (b &&& 0x0f) := by
  have := (halves_lt b.toNat b.toNat_lt).2
  rw [UInt8.ofNat_toNat] at this
  exact decodeHexDigit_half this

@[simp] theorem encodeHex_cons (b : UInt8) (bytes : List UInt8) :
    encodeHex (b :: bytes) = hexDigit (b >>> 4) :: hexDigit (b &&& 0x0f) :: encodeHex bytes := rfl

@[simp] theorem length_encodeHex (bytes : List UInt8) : (encodeHex bytes).length = 2 * bytes.length := by
  induction bytes with
  | nil => rfl
  | cons b bytes ih =>
    simp only [encodeHex_cons, List.length_cons, ih]
    omega

theorem decodeHex_encodeHex (bytes : List UInt8) : decodeHex (encodeHex bytes) = some bytes := by
  induction bytes with
  | nil => rfl
  | cons b bytes ih =>
    have hb := byte_halves b.toNat b.toNat_lt
    rw [UInt8.ofNat_toNat] at hb
    simp [decodeHex, decodeHexDigit_high, decodeHexDigit_low, ih, hb]

theorem isSome_of_mem_encodeHex {bytes : List UInt8} {c : Char} (h : c ∈ encodeHex bytes) :
    (decodeHexDigit c).isSome = true := by
  induction bytes with
  | nil => cases h
  | cons b bytes ih =>
    rw [encodeHex_cons] at h
    rcases List.mem_cons.1 h with rfl | h
    · simp [decodeHexDigit_high]
    · rcases List.mem_cons.1 h with rfl | h
      · simp [decodeHexDigit_low]
      · exact ih h

theorem isTaskHash_encodeHex {bytes : List UInt8} (h : bytes.length = 32) :
    isTaskHash (encodeHex bytes) = true := by
  simp only [isTaskHash, length_encodeHex, h, Bool.and_eq_true, List.all_eq_true]
  exact ⟨rfl, fun c hc => isSome_of_mem_encodeHex hc⟩

theorem slash_notMem_encodeHex (bytes : List UInt8) : '/' ∉ encodeHex bytes := fun h =>
  absurd (isSome_of_mem_encodeHex h) (by decide)

/-! ## Decimal digits -/

theorem isDigit_toDigits {n : Nat} {c : Char} (h : c ∈ Nat.toDigits 10 n) : '0' ≤ c ∧ c ≤ '9' := by
  have := Nat.isDigit_of_mem_toDigits (by decide) (by decide) h
  simp only [Char.isDigit, Bool.and_eq_true, decide_eq_true_eq] at this
  exact this

theorem slash_notMem_toDigits (n : Nat) : '/' ∉ Nat.toDigits 10 n :=
  fun h => absurd (isDigit_toDigits h) (by decide)

theorem head_digitChar : ∀ n < 10, 0 < n → '1' ≤ Nat.digitChar n ∧ Nat.digitChar n ≤ '9' := by decide

/-- The first digit of a positive number is not zero. -/
theorem head_toDigits (n : Nat) (h : 0 < n) : ∃ c ∈ (Nat.toDigits 10 n).head?, '1' ≤ c ∧ c ≤ '9' := by
  induction n using Nat.strongRecOn with
  | ind n ih =>
    by_cases hn : n < 10
    · rw [Nat.toDigits_of_lt_base hn]
      exact ⟨_, rfl, head_digitChar n hn h⟩
    · rw [Nat.toDigits_of_base_le (by decide) (Nat.le_of_not_lt hn)]
      obtain ⟨c, hc, hdigit⟩ :=
        ih (n / 10) (Nat.div_lt_self h (by decide)) (Nat.div_pos (by omega) (by decide))
      refine ⟨c, ?_, hdigit⟩
      cases hd : Nat.toDigits 10 (n / 10) with
      | nil => exact absurd hd Nat.toDigits_ne_nil
      | cons d ds => rwa [hd] at hc

theorem isCanonicalGeneration_toDigits {n : Nat} (h : 0 < n) :
    isCanonicalGeneration (Nat.toDigits 10 n) = true := by
  obtain ⟨c, hc, hdigit⟩ := head_toDigits n h
  simp only [isCanonicalGeneration, Bool.and_eq_true, List.all_eq_true, decide_eq_true_eq]
  refine ⟨?_, fun c hc => isDigit_toDigits hc⟩
  rw [Option.mem_def.1 hc]
  simpa using hdigit

theorem parseU64_toDigits {n : Nat} (h : n ≤ u64Max) : parseU64 (Nat.toDigits 10 n) = some n := by
  have hfold : (Nat.toDigits 10 n).foldl (fun n c => 10 * n + (c.toNat - 48)) 0 = n :=
    Nat.ofDigitChars_ten_toDigits
  simp [parseU64, hfold, h]

/-! ## References -/

namespace CacheId

variable {id id' : CacheId}

theorem toList_reference (id : CacheId) :
    id.reference.toList = encodeHex id.taskHash ++ '/' :: Nat.toDigits 10 id.generation := by
  simp [reference]

theorem splitOn_reference (id : CacheId) :
    id.reference.toList.splitOn '/' = [encodeHex id.taskHash, Nat.toDigits 10 id.generation] := by
  have hne : ∀ {xs : List Char}, '/' ∉ xs → ∀ c ∈ xs, (c == '/') = false := fun h c hc => by
    rw [beq_eq_false_iff_ne]
    rintro rfl
    exact h hc
  rw [toList_reference, List.splitOn_eq_splitOnP,
    List.splitOnP_append_cons_of_forall_mem (hne (slash_notMem_encodeHex _)) '/' rfl,
    List.splitOnP_eq_singleton (hne (slash_notMem_toDigits _))]

theorem fromReference_reference (h : id.Valid) : fromReference id.reference = some id := by
  have hpos : id.generation ≠ 0 := Nat.ne_of_gt h.positive
  simp [fromReference, splitOn_reference, isTaskHash_encodeHex h.hash,
    isCanonicalGeneration_toDigits h.positive,
    parseU64_toDigits h.bounded, decodeHex_encodeHex, hpos]

theorem reference_eq (id : CacheId) : id.taskDirectoryName ++ "/" ++ id.generationName = id.reference := rfl

/-- The names of its two directories tell an id. -/
theorem eq_of_names (h : id.Valid) (h' : id'.Valid) (htask : id.taskDirectoryName = id'.taskDirectoryName)
    (hgeneration : id.generationName = id'.generationName) : id = id' := by
  have href : id.reference = id'.reference := by rw [← reference_eq, ← reference_eq, htask, hgeneration]
  have := fromReference_reference h
  rw [href, fromReference_reference h'] at this
  exact (Option.some.inj this).symm

theorem length_decodeHex {value : List Char} {bytes : List UInt8} (h : decodeHex value = some bytes) :
    bytes.length = value.length / 2 := by
  induction value using decodeHex.induct generalizing bytes with
  | case1 hi lo rest ih =>
    simp only [decodeHex, Option.bind_eq_bind, Option.bind_eq_some_iff,
      Option.pure_def, Option.some.injEq] at h
    obtain ⟨_, _, _, _, tail, htail, rfl⟩ := h
    rw [List.length_cons, ih htail, List.length_cons, List.length_cons]
    omega
  | case2 value hshort =>
    rw [decodeHex] at h
    · cases h
      rcases value with _ | ⟨a, _ | ⟨b, rest⟩⟩
      · rfl
      · simp
      · exact absurd rfl (hshort a b rest)
    · exact hshort

theorem valid_of_fromReference {reference : String} (h : fromReference reference = some id) : id.Valid := by
  unfold fromReference at h
  split at h
  · split at h
    · rename_i hchecks
      simp only [Option.bind_eq_bind, Option.bind_eq_some_iff] at h
      obtain ⟨generation, hgeneration, decoded, hdecoded, h⟩ := h
      rw [Bool.and_eq_true] at hchecks
      have hlength := hchecks.1
      simp only [isTaskHash, Bool.and_eq_true, beq_iff_eq] at hlength
      have hbound : generation ≤ u64Max := by
        simp only [parseU64] at hgeneration
        split at hgeneration
        · rename_i hle
          cases hgeneration
          exact hle
        · cases hgeneration
      split at h
      · cases h
      · rename_i hne
        cases h
        refine ⟨?_, Nat.pos_of_ne_zero hne, hbound⟩
        show decoded.length = 32
        rw [length_decodeHex hdecoded, hlength.1]
    · cases h
  · cases h

end CacheId

example : CacheId.fromReference (CacheId.reference ⟨List.replicate 32 0xa7, 12⟩) =
    some ⟨List.replicate 32 0xa7, 12⟩ := by
  decide

end CodexKeyboard.Cache
