import Mathlib.Logic.Equiv.Defs

/-!
# Block chaining

A cipher that permutes blocks encrypts a row of blocks by mixing each with the encrypted block
before it.  Bytes are cut into blocks, and put together again.

## Main definitions

* `BlockChaining.encrypt`, `BlockChaining.decrypt` — the chaining; each undoes the other.
* `BlockChaining.Block` — a block of bytes, with its bitwise `xor`.
* `BlockChaining.blocksOf`, `BlockChaining.bytesOf` — bytes as blocks, and back.
-/

namespace Marty.Lib.BlockChaining

section

variable {β : Type*} (mix : β → β → β) (cipher : Equiv.Perm β)

def encrypt : β → List β → List β
  | _, [] => []
  | previous, block :: blocks =>
      cipher (mix block previous) :: encrypt (cipher (mix block previous)) blocks

def decrypt : β → List β → List β
  | _, [] => []
  | previous, block :: blocks => mix (cipher.symm block) previous :: decrypt block blocks

variable {mix}

/-- **Encrypted blocks are decrypted** to what they were. -/
theorem decrypt_encrypt (hmix : ∀ a b, mix (mix a b) b = a) (iv : β) (blocks : List β) :
    decrypt mix cipher iv (encrypt mix cipher iv blocks) = blocks := by
  induction blocks generalizing iv with
  | nil => rfl
  | cons block blocks ih => rw [encrypt, decrypt, Equiv.symm_apply_apply, hmix, ih]

/-- **Decrypted blocks are encrypted** to what they were. -/
theorem encrypt_decrypt (hmix : ∀ a b, mix (mix a b) b = a) (iv : β) (blocks : List β) :
    encrypt mix cipher iv (decrypt mix cipher iv blocks) = blocks := by
  induction blocks generalizing iv with
  | nil => rfl
  | cons block blocks ih => rw [decrypt, encrypt, hmix, Equiv.apply_symm_apply, ih]

@[simp] theorem length_encrypt (iv : β) (blocks : List β) :
    (encrypt mix cipher iv blocks).length = blocks.length := by
  induction blocks generalizing iv with
  | nil => rfl
  | cons block blocks ih => rw [encrypt, List.length_cons, ih, List.length_cons]

@[simp] theorem length_decrypt (iv : β) (blocks : List β) :
    (decrypt mix cipher iv blocks).length = blocks.length := by
  induction blocks generalizing iv with
  | nil => rfl
  | cons block blocks ih => rw [decrypt, List.length_cons, ih, List.length_cons]

end

/-! ## Blocks of bytes -/

/-- A block of `n` bytes. -/
abbrev Block (n : Nat) := { bytes : List UInt8 // bytes.length = n }

variable {n : Nat}

def Block.xor (a b : Block n) : Block n :=
  ⟨List.zipWith (· ^^^ ·) a.1 b.1, by rw [List.length_zipWith, a.2, b.2, Nat.min_self]⟩

theorem zipWith_xor_xor {as bs : List UInt8} (h : as.length = bs.length) :
    List.zipWith (· ^^^ ·) (List.zipWith (· ^^^ ·) as bs) bs = as := by
  induction as generalizing bs with
  | nil => rfl
  | cons a as ih =>
      cases bs with
      | nil => cases h
      | cons b bs =>
          simp only [List.zipWith_cons_cons, List.cons.injEq]
          exact ⟨by rw [UInt8.xor_assoc, UInt8.xor_self, UInt8.xor_zero],
            ih (Nat.succ.inj h)⟩

/-- A block that is mixed in twice is gone. -/
theorem Block.xor_xor (a b : Block n) : (a.xor b).xor b = a :=
  Subtype.ext (zipWith_xor_xor (a.2.trans b.2.symm))

/-- The blocks of some bytes; what does not fill a block at the end is left out. -/
def blocksOf (n : Nat) (bytes : List UInt8) : List (Block n) :=
  if h : 0 < n ∧ n ≤ bytes.length then
    ⟨bytes.take n, by rw [List.length_take, Nat.min_eq_left h.2]⟩ :: blocksOf n (bytes.drop n)
  else []
  termination_by bytes.length
  decreasing_by
    rw [List.length_drop]
    omega

def bytesOf (blocks : List (Block n)) : List UInt8 := blocks.flatMap Subtype.val

@[simp] theorem bytesOf_nil : bytesOf ([] : List (Block n)) = [] := rfl

@[simp] theorem bytesOf_cons (block : Block n) (blocks : List (Block n)) :
    bytesOf (block :: blocks) = block.1 ++ bytesOf blocks := rfl

@[simp] theorem length_bytesOf (blocks : List (Block n)) :
    (bytesOf blocks).length = blocks.length * n := by
  induction blocks with
  | nil => simp
  | cons block blocks ih =>
      rw [bytesOf_cons, List.length_append, ih, block.2, List.length_cons, Nat.succ_mul,
        Nat.add_comm]

/-- **Blocks that are put together are cut apart** again. -/
theorem blocksOf_bytesOf (hn : 0 < n) (blocks : List (Block n)) :
    blocksOf n (bytesOf blocks) = blocks := by
  induction blocks with
  | nil =>
      rw [blocksOf, dif_neg]
      simp only [bytesOf_nil, List.length_nil]
      omega
  | cons block blocks ih =>
      have hlength : n ≤ (bytesOf (block :: blocks)).length := by
        rw [bytesOf_cons, List.length_append, block.2]
        omega
      rw [blocksOf, dif_pos ⟨hn, hlength⟩]
      congr 1
      · exact Subtype.ext (List.take_left' block.2)
      · rw [bytesOf_cons, List.drop_left' block.2, ih]

/-- **Bytes that fill their blocks** are put together again. -/
theorem bytesOf_blocksOf (hn : 0 < n) {bytes : List UInt8} (h : bytes.length % n = 0) :
    bytesOf (blocksOf n bytes) = bytes := by
  induction bytes using blocksOf.induct n with
  | case1 bytes hfull ih =>
      have hdrop : (bytes.drop n).length % n = 0 := by
        rw [List.length_drop, ← Nat.mod_eq_sub_mod hfull.2, h]
      rw [blocksOf, dif_pos hfull, bytesOf_cons, ih hdrop, List.take_append_drop]
  | case2 bytes hfull =>
      have hshort : bytes.length < n := by omega
      rw [Nat.mod_eq_of_lt hshort] at h
      rw [blocksOf, dif_neg hfull]
      exact (List.length_eq_zero_iff.mp h).symm

theorem length_blocksOf (hn : 0 < n) {bytes : List UInt8} (h : bytes.length % n = 0) :
    (blocksOf n bytes).length * n = bytes.length := by
  rw [← length_bytesOf, bytesOf_blocksOf hn h]

end Marty.Lib.BlockChaining
