import Marty.DidcommAuthcrypt.HeaderJson
import Marty.Lib.BlockChaining
import Marty.Lib.Checked

/-!
# Direct JWEs

A direct JWE is the compact text of an authenticated ciphertext: five segments with full stops
between them, of which the second is empty.  The content key encrypts and authenticates; the
header names it.

## Main definitions

* `encodeDirect`, `decodeDirect` — the encoder and the decoder.
* `decodeDirect_encodeDirect_iff` — which texts of the encoder the decoder reads.
* `encodeDirect_of_decodeDirect_iff` — which texts that the decoder reads are the encoder's.
-/

namespace Marty.DidcommAuthcrypt

open Lib Lib.BlockChaining Lib.Checked

/-- `aes.BlockSize` -/
abbrev blockSize : Nat := 16

/-- The primitives: a permutation of the blocks for each key, and a digest. -/
structure Primitives where
  aes : Bytes → Equiv.Perm (Block blockSize)
  hmacSha512 : Bytes → Bytes → Block 64

def contentAlg : Bytes := literal "A256CBC-HS512"

def maxDirectPlaintext : Nat := 2 ^ 20

def validDirectInput (cek kid : Bytes) : Bool :=
  cek.length == 64 && kid != [] && kid.length ≤ 256 &&
    !kid.any fun byte => byte == 0 || byte == 13 || byte == 10

/-- A number as eight bytes, the most significant first. -/
def putUint64 (n : Nat) : Bytes := (List.range 8).map fun i => UInt8.ofNat (n / 256 ^ (7 - i))

section

variable (primitives : Primitives)

def contentTag (cek iv aad ciphertext : Bytes) : Bytes :=
  (primitives.hmacSha512 (cek.take 32)
    (aad ++ iv ++ ciphertext ++ putUint64 (aad.length * 8 % 2 ^ 64))).1.take 32

/-- The plaintext, filled up with bytes that say how many they are. -/
def padded (plaintext : Bytes) : Bytes :=
  let pad := blockSize - plaintext.length % blockSize
  plaintext ++ List.replicate pad (UInt8.ofNat pad)

def encryptBlocks (cek : Bytes) (iv : Block blockSize) (bytes : Bytes) : Bytes :=
  bytesOf (encrypt Block.xor (primitives.aes (cek.drop 32)) iv (blocksOf blockSize bytes))

def decryptBlocks (cek : Bytes) (iv : Block blockSize) (bytes : Bytes) : Bytes :=
  bytesOf (decrypt Block.xor (primitives.aes (cek.drop 32)) iv (blocksOf blockSize bytes))

def encryptContent (cek : Bytes) (iv : Block blockSize) (aad plaintext : Bytes) : Bytes × Bytes :=
  let ciphertext := encryptBlocks primitives cek iv (padded plaintext)
  (ciphertext, contentTag primitives cek iv.1 aad ciphertext)

/-- `strings.Join` with full stops. -/
def joinSegments (segments : List Bytes) : Bytes := [46].intercalate segments

/-- The IV is what the source of random bytes gives. -/
def encodeDirect (cek kid : Bytes) (iv : Block blockSize) (plaintext : Bytes) :
    Except String Bytes := do
  rejectIf (validDirectInput cek kid = false ∨ plaintext = [] ∨
    maxDirectPlaintext < plaintext.length) "invalid direct JWE input"
  let header := marshal ⟨literal "dir", contentAlg, kid⟩
  let aad := encodeToString header
  let content := encryptContent primitives cek iv aad plaintext
  return joinSegments [aad, [], encodeToString iv.1, encodeToString content.1,
    encodeToString content.2]

/-- The end of the plaintext says how many bytes it is filled up with. -/
def unpadded (plaintext : Bytes) : Option Bytes :=
  let pad := (plaintext.getLast?.getD 0).toNat
  let content := plaintext.take (plaintext.length - pad)
  if pad < 1 ∨ blockSize < pad ∨
      plaintext.drop (plaintext.length - pad) ≠ List.replicate pad (UInt8.ofNat pad) then none
  else some content

/-- The segments of a text, when there are five and the second is empty. -/
def segmentsOf (compact : Bytes) : Option (Bytes × Bytes × Bytes × Bytes) :=
  match compact.splitOn 46 with
  | [header, [], iv, ciphertext, tag] => some (header, iv, ciphertext, tag)
  | _ => none

/-- The header must be the one that the encoder writes. -/
def checkHeader (kid segment : Bytes) : Except String Unit := do
  let headerBytes ← okOr ((decodeString segment).filter (·.length ≤ 512))
    "invalid direct JWE header"
  let header ← okOr ((unmarshal headerBytes).filter fun header =>
    header.alg = literal "dir" ∧ header.enc = contentAlg ∧ header.kid = kid)
    "direct JWE key or algorithm mismatch"
  rejectIf (headerBytes ≠ marshal header) "noncanonical direct JWE header"

/-- The IV, the ciphertext and the tag. -/
def readContent (iv ciphertext tag : Bytes) : Option (Block blockSize × Bytes × Bytes) := do
  let iv ← decodeString iv
  let ciphertext ← decodeString ciphertext
  let tag ← decodeString tag
  if h : iv.length = blockSize ∧ ciphertext.length ≠ 0 ∧ ciphertext.length % blockSize = 0 ∧
      tag.length = 32 then some (⟨iv, h.1⟩, ciphertext, tag)
  else none

def decodeDirect (cek kid compact : Bytes) : Except String Bytes := do
  rejectIf (validDirectInput cek kid = false ∨ 2 * maxDirectPlaintext < compact.length)
    "invalid direct JWE input"
  let parts ← okOr (segmentsOf compact) "invalid direct JWE format"
  checkHeader kid parts.1
  let content ← okOr (readContent parts.2.1 parts.2.2.1 parts.2.2.2)
    "invalid direct JWE ciphertext"
  rejectIf (contentTag primitives cek content.1.1 parts.1 content.2.1 ≠ content.2.2)
    "direct JWE authentication failed"
  let result ← okOr (unpadded (decryptBlocks primitives cek content.1 content.2.1))
    "invalid direct JWE padding"
  rejectIf (result = [] ∨ maxDirectPlaintext < result.length) "invalid direct JWE plaintext length"
  return result

end

/-! ## Padding -/

theorem pad_bounds (n : Nat) :
    1 ≤ blockSize - n % blockSize ∧ blockSize - n % blockSize ≤ blockSize := by
  have hlt : n % blockSize < blockSize := Nat.mod_lt _ (by decide)
  omega

theorem length_padded (plaintext : Bytes) : (padded plaintext).length =
    plaintext.length + (blockSize - plaintext.length % blockSize) := by
  rw [padded, List.length_append, List.length_replicate]

theorem length_padded_mod (plaintext : Bytes) : (padded plaintext).length % blockSize = 0 := by
  rw [length_padded]
  simp only [blockSize]
  omega

theorem toNat_pad {pad : Nat} (h : pad ≤ blockSize) : (UInt8.ofNat pad).toNat = pad := by
  rw [UInt8.toNat_ofNat']
  exact Nat.mod_eq_of_lt (Nat.lt_of_le_of_lt h (by decide))

/-- **A plaintext is found again** in what fills its blocks. -/
theorem unpadded_padded (plaintext : Bytes) : unpadded (padded plaintext) = some plaintext := by
  obtain ⟨hpos, hle⟩ := pad_bounds plaintext.length
  have hlast : ((padded plaintext).getLast?.getD 0).toNat =
      blockSize - plaintext.length % blockSize := by
    have hne : blockSize - plaintext.length % blockSize ≠ 0 := by omega
    rw [padded, List.getLast?_append, List.getLast?_replicate, if_neg hne, Option.some_or,
      Option.getD_some, toNat_pad hle]
  have hlength : (padded plaintext).length -
      (blockSize - plaintext.length % blockSize) = plaintext.length := by
    rw [length_padded]
    omega
  rw [unpadded]
  simp only [hlast, hlength]
  rw [padded, List.drop_left, List.take_left, if_neg]
  simp only [ne_eq, not_true_eq_false, or_false, not_or]
  omega

/-- **Blocks in which a plaintext is found** are those that it fills. -/
theorem padded_of_unpadded {bytes plaintext : Bytes} (hfull : bytes.length % blockSize = 0)
    (hlength : bytes.length ≠ 0) (h : unpadded bytes = some plaintext) :
    padded plaintext = bytes := by
  rw [unpadded] at h
  split at h
  · cases h
  next hpad =>
    generalize (bytes.getLast?.getD 0).toNat = pad at h hpad
    rw [not_or, not_or, not_not] at hpad
    obtain ⟨hpos, hle, hdrop⟩ := hpad
    cases h
    have hlong : pad ≤ bytes.length := by
      simp only [blockSize] at hfull hle
      omega
    have hcontent : (bytes.take (bytes.length - pad)).length = bytes.length - pad := by
      rw [List.length_take]
      omega
    have hsame : blockSize - (bytes.take (bytes.length - pad)).length % blockSize = pad := by
      rw [hcontent]
      simp only [blockSize] at hfull hle ⊢
      omega
    rw [padded, hsame, ← hdrop, List.take_append_drop]

section

variable (primitives : Primitives)

/-! ## Ciphertexts -/

theorem length_encryptBlocks {cek bytes : Bytes} {iv : Block blockSize}
    (h : bytes.length % blockSize = 0) :
    (encryptBlocks primitives cek iv bytes).length = bytes.length := by
  rw [encryptBlocks, length_bytesOf, length_encrypt, length_blocksOf (by decide) h]

theorem length_decryptBlocks {cek bytes : Bytes} {iv : Block blockSize}
    (h : bytes.length % blockSize = 0) :
    (decryptBlocks primitives cek iv bytes).length = bytes.length := by
  rw [decryptBlocks, length_bytesOf, length_decrypt, length_blocksOf (by decide) h]

theorem decryptBlocks_encryptBlocks {cek bytes : Bytes} {iv : Block blockSize}
    (h : bytes.length % blockSize = 0) :
    decryptBlocks primitives cek iv (encryptBlocks primitives cek iv bytes) = bytes := by
  rw [decryptBlocks, encryptBlocks, blocksOf_bytesOf (by decide),
    decrypt_encrypt _ Block.xor_xor, bytesOf_blocksOf (by decide) h]

theorem encryptBlocks_decryptBlocks {cek bytes : Bytes} {iv : Block blockSize}
    (h : bytes.length % blockSize = 0) :
    encryptBlocks primitives cek iv (decryptBlocks primitives cek iv bytes) = bytes := by
  rw [encryptBlocks, decryptBlocks, blocksOf_bytesOf (by decide),
    encrypt_decrypt _ Block.xor_xor, bytesOf_blocksOf (by decide) h]

theorem length_contentTag (cek iv aad ciphertext : Bytes) :
    (contentTag primitives cek iv aad ciphertext).length = 32 := by
  rw [contentTag, List.length_take, (primitives.hmacSha512 _ _).2]
  rfl

/-! ## Segments -/

theorem segmentsOf_join {header iv ciphertext tag : Bytes}
    (h : ∀ segment ∈ [header, iv, ciphertext, tag], (46 : UInt8) ∉ segment) :
    (joinSegments [header, [], iv, ciphertext, tag]).splitOn 46 =
      [header, [], iv, ciphertext, tag] := by
  apply List.splitOn_intercalate
  · intro segment hsegment
    simp only [List.mem_cons, List.not_mem_nil, or_false] at hsegment h
    obtain rfl | rfl | rfl | rfl | rfl := hsegment
    · exact h _ (.inl rfl)
    · exact List.not_mem_nil
    · exact h _ (.inr (.inl rfl))
    · exact h _ (.inr (.inr (.inl rfl)))
    · exact h _ (.inr (.inr (.inr rfl)))
  · exact List.cons_ne_nil _ _

theorem segmentsOf_eq_some {compact header iv ciphertext tag : Bytes} :
    segmentsOf compact = some (header, iv, ciphertext, tag) ↔
      compact.splitOn 46 = [header, [], iv, ciphertext, tag] := by
  constructor
  · intro h
    rw [segmentsOf] at h
    split at h
    · next hparts =>
        cases h
        exact hparts
    · cases h
  · intro h
    rw [segmentsOf, h]

/-! ## What succeeds -/

def directHeader (kid : Bytes) : DirectHeader := ⟨literal "dir", contentAlg, kid⟩

/-- The text of the encoder. -/
def directText (cek kid : Bytes) (iv : Block blockSize) (plaintext : Bytes) : Bytes :=
  let aad := encodeToString (marshal (directHeader kid))
  let ciphertext := encryptBlocks primitives cek iv (padded plaintext)
  joinSegments [aad, [], encodeToString iv.1, encodeToString ciphertext,
    encodeToString (contentTag primitives cek iv.1 aad ciphertext)]

/-- A key and a plaintext that the encoder takes. -/
structure DirectInput (cek kid plaintext : Bytes) : Prop where
  valid : validDirectInput cek kid = true
  nonempty : plaintext ≠ []
  length_le : plaintext.length ≤ maxDirectPlaintext

theorem encodeDirect_eq_ok {cek kid plaintext compact : Bytes} {iv : Block blockSize} :
    encodeDirect primitives cek kid iv plaintext = .ok compact ↔
      DirectInput cek kid plaintext ∧ compact = directText primitives cek kid iv plaintext := by
  simp only [encodeDirect, bind_eq_ok, rejectIf_eq_ok, not_or, Bool.not_eq_false, not_lt,
    exists_unit]
  constructor
  · rintro ⟨⟨hvalid, hne, hle⟩, h⟩
    exact ⟨⟨hvalid, hne, hle⟩, (Except.ok.inj h).symm⟩
  · rintro ⟨h, rfl⟩
    exact ⟨⟨h.valid, h.nonempty, h.length_le⟩, rfl⟩

/-- A key identifier that the decoder knows again: it is UTF-8, and its JSON is short. -/
structure KnownKid (kid : Bytes) : Prop where
  valid : validString kid = true
  length_le : escapedLength kid ≤ 468

end

theorem toValidUtf8_literal (text : String) : toValidUtf8 (literal text) = literal text := by
  rw [toValidUtf8_eq_iff, validString, runes_literal]
  simp

theorem length_directHeader (kid : Bytes) :
    (marshal (directHeader kid)).length = escapedLength kid + 44 := by
  have hdir : escapedLength (literal "dir") = 3 := by
    rw [escapedLength_literal (by decide)]
    rfl
  have hcontent : escapedLength contentAlg = 13 := by
    rw [contentAlg, escapedLength_literal (by decide)]
    rfl
  rw [length_marshal]
  change escapedLength (literal "dir") + escapedLength contentAlg + escapedLength kid + 28 = _
  rw [hdir, hcontent]
  omega

theorem unmarshal_directHeader (kid : Bytes) :
    unmarshal (marshal (directHeader kid)) = some (directHeader (toValidUtf8 kid)) := by
  rw [unmarshal_marshal, directHeader, contentAlg, toValidUtf8_literal, toValidUtf8_literal]
  rfl

/-- **A header passes** when it is the encoder's, and the key identifier is one that is known
again. -/
theorem checkHeader_eq_ok {kid segment : Bytes} : checkHeader kid segment = .ok () ↔
    decodeString segment = some (marshal (directHeader kid)) ∧ KnownKid kid := by
  simp only [checkHeader, bind_eq_ok, rejectIf_eq_ok, okOr_eq_ok, Option.filter_eq_some_iff,
    decide_eq_true_eq, not_not]
  constructor
  · rintro ⟨headerBytes, ⟨hdecode, hlength⟩, header, ⟨hread, halg, henc, hkid⟩, rfl⟩
    obtain rfl : header = directHeader kid := by
      cases header
      exact DirectHeader.mk.injEq .. ▸ ⟨halg, henc, hkid⟩
    rw [unmarshal_directHeader] at hread
    have hsame : toValidUtf8 kid = kid := congrArg DirectHeader.kid (Option.some.inj hread)
    rw [length_directHeader] at hlength
    exact ⟨hdecode, (toValidUtf8_eq_iff kid).mp hsame, by omega⟩
  · rintro ⟨hdecode, hvalid, hlength⟩
    refine ⟨_, ⟨hdecode, ?_⟩, directHeader kid, ⟨?_, rfl, rfl, rfl⟩, rfl⟩
    · rw [length_directHeader]
      omega
    · rw [unmarshal_directHeader, toValidUtf8_of_valid hvalid]

theorem readContent_eq_some {ivText ciphertextText tagText ciphertext tag : Bytes}
    {iv : Block blockSize} :
    readContent ivText ciphertextText tagText = some (iv, ciphertext, tag) ↔
      decodeString ivText = some iv.1 ∧ decodeString ciphertextText = some ciphertext ∧
        decodeString tagText = some tag ∧ ciphertext.length ≠ 0 ∧
        ciphertext.length % blockSize = 0 ∧ tag.length = 32 := by
  simp only [readContent, Option.bind_eq_bind, Option.bind_eq_some_iff]
  constructor
  · rintro ⟨ivBytes, hiv, ciphertext', hciphertext, tag', htag, h⟩
    split at h
    · next hlengths =>
        cases h
        exact ⟨hiv, hciphertext, htag, hlengths.2⟩
    · cases h
  · rintro ⟨hiv, hciphertext, htag, hlengths⟩
    refine ⟨_, hiv, _, hciphertext, _, htag, ?_⟩
    rw [dif_pos ⟨iv.2, hlengths⟩]

section

variable (primitives : Primitives)

/-- What the decoder finds in a text that it reads. -/
structure Decoded (cek kid compact plaintext headerText ivText ciphertextText tagText : Bytes)
    (iv : Block blockSize) (ciphertext tag : Bytes) : Prop where
  input : DirectInput cek kid plaintext
  compact_le : compact.length ≤ 2 * maxDirectPlaintext
  segments : compact.splitOn 46 = [headerText, [], ivText, ciphertextText, tagText]
  header_eq : decodeString headerText = some (marshal (directHeader kid))
  known : KnownKid kid
  iv_eq : decodeString ivText = some iv.1
  ciphertext_eq : decodeString ciphertextText = some ciphertext
  nonempty : ciphertext.length ≠ 0
  full : ciphertext.length % blockSize = 0
  tag_eq : decodeString tagText = some tag
  authentic : contentTag primitives cek iv.1 headerText ciphertext = tag
  plaintext_eq : unpadded (decryptBlocks primitives cek iv ciphertext) = some plaintext

theorem decodeDirect_eq_ok {cek kid compact plaintext : Bytes} :
    decodeDirect primitives cek kid compact = .ok plaintext ↔
      ∃ headerText ivText ciphertextText tagText iv ciphertext tag,
        Decoded primitives cek kid compact plaintext headerText ivText ciphertextText tagText iv
          ciphertext tag := by
  simp only [decodeDirect, bind_eq_ok, rejectIf_eq_ok, okOr_eq_ok, not_or, Bool.not_eq_false,
    not_lt, not_not, exists_unit, checkHeader_eq_ok]
  constructor
  · rintro ⟨⟨hvalid, hcompact⟩, ⟨headerText, ivText, ciphertextText, tagText⟩, hparts,
      ⟨hheader, hknown⟩, ⟨iv, ciphertext, tag⟩, hcontent, htag, result, hresult, ⟨hne, hle⟩, h⟩
    obtain rfl : result = plaintext := Except.ok.inj h
    obtain ⟨hiv, hciphertext, htagText, hnonempty, hfull, -⟩ := readContent_eq_some.mp hcontent
    exact ⟨headerText, ivText, ciphertextText, tagText, iv, ciphertext, tag,
      ⟨hvalid, hne, hle⟩, hcompact, segmentsOf_eq_some.mp hparts, hheader, hknown, hiv,
      hciphertext, hnonempty, hfull, htagText, htag, hresult⟩
  · rintro ⟨headerText, ivText, ciphertextText, tagText, iv, ciphertext, tag, h⟩
    have htag : tag.length = 32 := h.authentic ▸ length_contentTag primitives _ _ _ _
    exact ⟨⟨h.input.valid, h.compact_le⟩, (headerText, ivText, ciphertextText, tagText),
      segmentsOf_eq_some.mpr h.segments, ⟨h.header_eq, h.known⟩, (iv, ciphertext, tag),
      readContent_eq_some.mpr
        ⟨h.iv_eq, h.ciphertext_eq, h.tag_eq, h.nonempty, h.full, htag⟩,
      h.authentic, plaintext, h.plaintext_eq, ⟨h.input.nonempty, h.input.length_le⟩, rfl⟩

/-! ## Round trips -/

theorem splitOn_directText (cek kid plaintext : Bytes) (iv : Block blockSize) :
    (directText primitives cek kid iv plaintext).splitOn 46 =
      [encodeToString (marshal (directHeader kid)), [], encodeToString iv.1,
        encodeToString (encryptBlocks primitives cek iv (padded plaintext)),
        encodeToString (contentTag primitives cek iv.1
          (encodeToString (marshal (directHeader kid)))
          (encryptBlocks primitives cek iv (padded plaintext)))] := by
  have hplain : ∀ bytes, (46 : UInt8) ∉ encodeToString bytes := fun bytes h =>
    (encodeToString_plain bytes 46 h).2 rfl
  apply segmentsOf_join
  simp only [List.forall_mem_cons]
  exact ⟨hplain _, hplain _, hplain _, hplain _, by simp⟩

theorem length_directText_lt {cek kid plaintext : Bytes} (iv : Block blockSize)
    (h : DirectInput cek kid plaintext) (hknown : KnownKid kid) :
    (directText primitives cek kid iv plaintext).length < 2 * maxDirectPlaintext := by
  have hjoin : ∀ a b c d : Bytes, (joinSegments [a, [], b, c, d]).length =
      a.length + b.length + c.length + d.length + 4 := by
    intro a b c d
    simp [joinSegments, List.intercalate]
    omega
  have hheader := length_encodeToString_le (marshal (directHeader kid))
  have hiv := length_encodeToString_le iv.1
  have hciphertext :=
    length_encodeToString_le (encryptBlocks primitives cek iv (padded plaintext))
  have htag := length_encodeToString_le (contentTag primitives cek iv.1
    (encodeToString (marshal (directHeader kid)))
    (encryptBlocks primitives cek iv (padded plaintext)))
  rw [length_directHeader] at hheader
  rw [iv.2] at hiv
  rw [length_encryptBlocks primitives (length_padded_mod plaintext), length_padded] at hciphertext
  rw [length_contentTag] at htag
  have hplaintext := h.length_le
  have hkid := hknown.length_le
  have hpad := (pad_bounds plaintext.length).2
  rw [directText, hjoin]
  simp only [maxDirectPlaintext, blockSize] at *
  omega

/-- A text of the encoder is read when the key identifier is known again. -/
theorem decoded_directText {cek kid plaintext : Bytes} (iv : Block blockSize)
    (h : DirectInput cek kid plaintext) (hknown : KnownKid kid) :
    Decoded primitives cek kid (directText primitives cek kid iv plaintext) plaintext
      (encodeToString (marshal (directHeader kid))) (encodeToString iv.1)
      (encodeToString (encryptBlocks primitives cek iv (padded plaintext)))
      (encodeToString (contentTag primitives cek iv.1
        (encodeToString (marshal (directHeader kid)))
        (encryptBlocks primitives cek iv (padded plaintext)))) iv
      (encryptBlocks primitives cek iv (padded plaintext))
      (contentTag primitives cek iv.1 (encodeToString (marshal (directHeader kid)))
        (encryptBlocks primitives cek iv (padded plaintext))) where
  input := h
  compact_le := (length_directText_lt primitives iv h hknown).le
  segments := splitOn_directText primitives cek kid plaintext iv
  header_eq := decodeString_encodeToString _
  known := hknown
  iv_eq := decodeString_encodeToString _
  ciphertext_eq := decodeString_encodeToString _
  nonempty := by
    have hpad := (pad_bounds plaintext.length).1
    rw [length_encryptBlocks primitives (length_padded_mod plaintext), length_padded]
    omega
  full := by
    rw [length_encryptBlocks primitives (length_padded_mod plaintext)]
    exact length_padded_mod plaintext
  tag_eq := decodeString_encodeToString _
  authentic := rfl
  plaintext_eq := by
    rw [decryptBlocks_encryptBlocks primitives (length_padded_mod plaintext), unpadded_padded]

/-- **The decoder undoes the encoder** exactly when it knows the key identifier again. -/
theorem decodeDirect_encodeDirect_iff {cek kid plaintext compact : Bytes} {iv : Block blockSize}
    (h : encodeDirect primitives cek kid iv plaintext = .ok compact) :
    decodeDirect primitives cek kid compact = .ok plaintext ↔ KnownKid kid := by
  obtain ⟨hinput, rfl⟩ := (encodeDirect_eq_ok primitives).mp h
  constructor
  · intro hdecode
    obtain ⟨headerText, ivText, ciphertextText, tagText, iv', ciphertext, tag, hdecoded⟩ :=
      (decodeDirect_eq_ok primitives).mp hdecode
    exact hdecoded.known
  · intro hknown
    exact (decodeDirect_eq_ok primitives).mpr
      ⟨_, _, _, _, _, _, _, decoded_directText primitives iv hinput hknown⟩

end

/-- The IV that a text contains. -/
def ivOf (compact : Bytes) : Option (Block blockSize) := do
  let parts ← segmentsOf compact
  let content ← readContent parts.2.1 parts.2.2.1 parts.2.2.2
  return content.1

section

variable {primitives : Primitives} {cek kid compact plaintext headerText ivText ciphertextText
  tagText : Bytes} {iv : Block blockSize} {ciphertext tag : Bytes}

theorem Decoded.ivOf_eq (h : Decoded primitives cek kid compact plaintext headerText ivText
    ciphertextText tagText iv ciphertext tag) : ivOf compact = some iv := by
  have htag : tag.length = 32 := h.authentic ▸ length_contentTag primitives _ _ _ _
  rw [ivOf, segmentsOf_eq_some.mpr h.segments]
  simp only [Option.bind_eq_bind, Option.bind_some, readContent_eq_some.mpr
    ⟨h.iv_eq, h.ciphertext_eq, h.tag_eq, h.nonempty, h.full, htag⟩]
  rfl

/-- The ciphertext of a text that is read is the one of its plaintext. -/
theorem Decoded.ciphertext_of (h : Decoded primitives cek kid compact plaintext headerText ivText
    ciphertextText tagText iv ciphertext tag) :
    encryptBlocks primitives cek iv (padded plaintext) = ciphertext := by
  have hlength : (decryptBlocks primitives cek iv ciphertext).length = ciphertext.length :=
    length_decryptBlocks primitives h.full
  rw [padded_of_unpadded (by rw [hlength, h.full]) (by rw [hlength]; exact h.nonempty)
    h.plaintext_eq, encryptBlocks_decryptBlocks primitives h.full]

/-- **A text that is read is the encoder's** exactly when its segments are strict. -/
theorem Decoded.encodeDirect_iff (h : Decoded primitives cek kid compact plaintext headerText
    ivText ciphertextText tagText iv ciphertext tag) :
    encodeDirect primitives cek kid iv plaintext = .ok compact ↔
      ∀ segment ∈ compact.splitOn 46, Strict segment := by
  rw [encodeDirect_eq_ok]
  constructor
  · rintro ⟨-, rfl⟩ segment hsegment
    rw [splitOn_directText] at hsegment
    simp only [List.mem_cons, List.not_mem_nil, or_false] at hsegment
    obtain rfl | rfl | rfl | rfl | rfl := hsegment
    · exact strict_encodeToString _
    · exact ⟨by simp, trivial⟩
    · exact strict_encodeToString _
    · exact strict_encodeToString _
    · exact strict_encodeToString _
  · intro hstrict
    rw [h.segments] at hstrict
    simp only [List.forall_mem_cons] at hstrict
    obtain ⟨hheader, -, hiv, hciphertext, htag, -⟩ := hstrict
    have hheaderText := (eq_encodeToString_iff h.header_eq).mpr hheader
    have hivText := (eq_encodeToString_iff h.iv_eq).mpr hiv
    have hciphertextText := (eq_encodeToString_iff h.ciphertext_eq).mpr hciphertext
    have htagText := (eq_encodeToString_iff h.tag_eq).mpr htag
    refine ⟨h.input, ?_⟩
    have hcompact : compact = joinSegments (compact.splitOn 46) :=
      (List.intercalate_splitOn 46).symm
    rw [hcompact, h.segments, directText, h.ciphertext_of, ← hheaderText, ← hivText,
      ← hciphertextText, h.authentic, ← htagText]

/-- A line break at the end of a text that is read changes the text, and nothing else. -/
theorem Decoded.append_lineBreak (h : Decoded primitives cek kid compact plaintext headerText
    ivText ciphertextText tagText iv ciphertext tag)
    (hshort : compact.length < 2 * maxDirectPlaintext) :
    Decoded primitives cek kid (compact ++ [10]) plaintext headerText ivText ciphertextText
      (tagText ++ [10]) iv ciphertext tag := by
  have htag : decodeString (tagText ++ [10]) = some tag := by
    rw [decodeString_append_lineBreak, h.tag_eq]
  have hcompact : compact ++ [10] =
      joinSegments [headerText, [], ivText, ciphertextText, tagText ++ [10]] := by
    have hjoin : compact = joinSegments (compact.splitOn 46) := (List.intercalate_splitOn 46).symm
    rw [hjoin, h.segments]
    simp [joinSegments, List.intercalate]
  refine { h with
    compact_le := by rw [List.length_append]; exact hshort
    segments := ?_
    tag_eq := htag }
  rw [hcompact]
  apply segmentsOf_join
  simp only [List.forall_mem_cons]
  exact ⟨noStop_of_decodeString h.header_eq, noStop_of_decodeString h.iv_eq,
    noStop_of_decodeString h.ciphertext_eq, noStop_of_decodeString htag, by simp⟩

end

/-- **Direct JWEs.**  The decoder undoes the encoder exactly for the key identifiers that it knows
again; a text that it reads is the encoder's exactly when its segments are strict; and texts with
strict segments that are read as the same IV and plaintext are the same. -/
theorem direct_jwe_canonical_iff (primitives : Primitives) :
    (∀ cek kid plaintext compact iv,
      encodeDirect primitives cek kid iv plaintext = .ok compact →
      (decodeDirect primitives cek kid compact = .ok plaintext ↔ KnownKid kid)) ∧
    (∀ cek kid compact plaintext, decodeDirect primitives cek kid compact = .ok plaintext →
      ∃ iv, ivOf compact = some iv ∧
        (encodeDirect primitives cek kid iv plaintext = .ok compact ↔
          ∀ segment ∈ compact.splitOn 46, Strict segment)) ∧
    ∀ cek kid compact compact' plaintext,
      decodeDirect primitives cek kid compact = .ok plaintext →
      decodeDirect primitives cek kid compact' = .ok plaintext → ivOf compact = ivOf compact' →
      (∀ segment ∈ compact.splitOn 46, Strict segment) →
      (∀ segment ∈ compact'.splitOn 46, Strict segment) → compact = compact' := by
  have hread : ∀ cek kid compact plaintext,
      decodeDirect primitives cek kid compact = .ok plaintext → ∃ iv, ivOf compact = some iv ∧
        (encodeDirect primitives cek kid iv plaintext = .ok compact ↔
          ∀ segment ∈ compact.splitOn 46, Strict segment) := by
    intro cek kid compact plaintext h
    obtain ⟨headerText, ivText, ciphertextText, tagText, iv, ciphertext, tag, hdecoded⟩ :=
      (decodeDirect_eq_ok primitives).mp h
    exact ⟨iv, hdecoded.ivOf_eq, hdecoded.encodeDirect_iff⟩
  refine ⟨fun cek kid plaintext compact iv => decodeDirect_encodeDirect_iff primitives, hread, ?_⟩
  intro cek kid compact compact' plaintext h h' hsame hstrict hstrict'
  obtain ⟨iv, hiv, hencode⟩ := hread cek kid compact plaintext h
  obtain ⟨iv', hiv', hencode'⟩ := hread cek kid compact' plaintext h'
  obtain rfl : iv = iv' := Option.some.inj (hiv.symm.trans (hsame.trans hiv'))
  exact Except.ok.inj ((hencode.mpr hstrict).symm.trans (hencode'.mpr hstrict'))

namespace Example

def zeroKey : Bytes := List.replicate 64 0

def zeroIv : Block blockSize := ⟨List.replicate 16 0, rfl⟩

/-- A short key identifier, and one that HTML escapes make long. -/
def plainKid : Bytes := literal "k"

def angleKid : Bytes := encodeText (List.replicate 80 60)

/-- Primitives that do nothing. -/
def idlePrimitives : Primitives := ⟨fun _ => Equiv.refl _, fun _ _ => ⟨List.replicate 64 0, rfl⟩⟩

theorem plainKid_known : KnownKid plainKid := by
  refine ⟨?_, ?_⟩
  · rw [plainKid, validString, runes_literal]
    decide
  · rw [plainKid, escapedLength_literal (by decide)]
    decide

theorem angleKid_unknown : ¬ KnownKid angleKid := by
  intro h
  have hlength := h.length_le
  have hvalid : ∀ p ∈ List.replicate 80 60, p.isValidChar := by decide
  rw [escapedLength, escapeString, angleKid, runes_encodeText hvalid] at hlength
  revert hlength
  decide +kernel

theorem plainInput : DirectInput zeroKey plainKid [1] := ⟨by decide +kernel, by decide, by decide⟩

theorem angleInput : DirectInput zeroKey angleKid [1] := ⟨by decide +kernel, by decide, by decide⟩

end Example

open Example in
theorem direct_jwe_canonical_iff_plain :
    decodeDirect idlePrimitives zeroKey plainKid
      (directText idlePrimitives zeroKey plainKid zeroIv [1]) = .ok [1] ∧
    ∃ iv, ivOf (directText idlePrimitives zeroKey plainKid zeroIv [1]) = some iv ∧
      (encodeDirect idlePrimitives zeroKey plainKid iv [1] =
          .ok (directText idlePrimitives zeroKey plainKid zeroIv [1]) ↔
        ∀ segment ∈ (directText idlePrimitives zeroKey plainKid zeroIv [1]).splitOn 46,
          Strict segment) := by
  obtain ⟨hround, hread, -⟩ := direct_jwe_canonical_iff idlePrimitives
  have hdecode := (hround zeroKey plainKid [1] _ zeroIv
    ((encodeDirect_eq_ok idlePrimitives).mpr ⟨plainInput, rfl⟩)).mpr plainKid_known
  exact ⟨hdecode, hread zeroKey plainKid _ [1] hdecode⟩

open Example in
/-- Whatever the primitives are, a text of the encoder is refused, and a text that is not the
encoder's is read. -/
theorem directText_not_canonical (primitives : Primitives) :
    (encodeDirect primitives zeroKey angleKid zeroIv [1] =
        .ok (directText primitives zeroKey angleKid zeroIv [1]) ∧
      decodeDirect primitives zeroKey angleKid
        (directText primitives zeroKey angleKid zeroIv [1]) ≠ .ok [1]) ∧
    decodeDirect primitives zeroKey plainKid
      (directText primitives zeroKey plainKid zeroIv [1] ++ [10]) = .ok [1] ∧
    ∀ iv, encodeDirect primitives zeroKey plainKid iv [1] ≠
      .ok (directText primitives zeroKey plainKid zeroIv [1] ++ [10]) := by
  have hencode : encodeDirect primitives zeroKey angleKid zeroIv [1] =
      .ok (directText primitives zeroKey angleKid zeroIv [1]) :=
    (encodeDirect_eq_ok primitives).mpr ⟨angleInput, rfl⟩
  have hdecoded := (decoded_directText primitives zeroIv plainInput plainKid_known).append_lineBreak
    (length_directText_lt primitives zeroIv plainInput plainKid_known)
  refine ⟨⟨hencode, fun h => ?_⟩, ?_, fun iv h => ?_⟩
  · exact angleKid_unknown ((decodeDirect_encodeDirect_iff primitives hencode).mp h)
  · exact (decodeDirect_eq_ok primitives).mpr ⟨_, _, _, _, _, _, _, hdecoded⟩
  · have hsegments := hdecoded.segments
    rw [((encodeDirect_eq_ok primitives).mp h).2, splitOn_directText] at hsegments
    simp only [List.cons.injEq, and_true, true_and] at hsegments
    have hbreak : (10 : UInt8) ∈ encodeToString (contentTag primitives zeroKey iv.1
        (encodeToString (marshal (directHeader plainKid)))
        (encryptBlocks primitives zeroKey iv (padded [1]))) := by
      rw [hsegments.2.2]
      exact List.mem_append_right _ List.mem_cons_self
    exact absurd (encodeToString_plain _ _ hbreak).1 (by decide)

open Example in
theorem direct_jwe_not_canonical :
    (encodeDirect idlePrimitives zeroKey angleKid zeroIv [1] =
        .ok (directText idlePrimitives zeroKey angleKid zeroIv [1]) ∧
      decodeDirect idlePrimitives zeroKey angleKid
        (directText idlePrimitives zeroKey angleKid zeroIv [1]) ≠ .ok [1]) ∧
    decodeDirect idlePrimitives zeroKey plainKid
      (directText idlePrimitives zeroKey plainKid zeroIv [1] ++ [10]) = .ok [1] ∧
    ∀ iv, encodeDirect idlePrimitives zeroKey plainKid iv [1] ≠
      .ok (directText idlePrimitives zeroKey plainKid zeroIv [1] ++ [10]) :=
  directText_not_canonical idlePrimitives

end Marty.DidcommAuthcrypt
