import Marty.Lib.Time
import Mathlib.Algebra.Group.Int.Defs
import Mathlib.Algebra.GroupWithZero.Nat
import Mathlib.Data.List.Induction

/-!
# Status-list records

A `StatusListRecord` is one list of credential statuses as the revocation-profile
service stores it: its bytes, the format they are read in, and a version that every
accepted update increases.  The bytes are read and written only through the
status-list kernel, which is a package of its own and enters as `StatusKernel`;
`StatusKernel.Lawful` is what that package documents of its lists.

## Main definitions

* `StatusKernel`, `StatusKernel.Lawful` — the kernel's operations, and its rules.
* `StatusListRecord.empty`, `.set`, `.get` — the operations on a record.
* `StatusListRecord.replay` — a sequence of updates, applied in order.

The rules of an update are `get_set`, of a sequence `replay_get` and `replay_version`.
-/

namespace Marty.Revocation

open Marty.Lib

inductive StatusListFormat
  | bitstring
  | tokenStatusList
  deriving DecidableEq, Repr

/-- Canonical wire and persistence name. -/
def StatusListFormat.asStr : StatusListFormat → String
  | .bitstring => "bitstring"
  | .tokenStatusList => "token_status_list"

def StatusListFormat.mechanism : StatusListFormat → String
  | .bitstring => "bitstring-status-list"
  | .tokenStatusList => "token-status-list"

def StatusListFormat.bitsPerStatus : StatusListFormat → UInt8
  | .bitstring => 1
  | .tokenStatusList => 8

inductive StatusError (E : Type)
  /-- The kernel rejected the operation. -/
  | canonical (error : E)
  | invalidBitstringStatus (status : UInt8)
  | formatMismatch
  | repository (message : String)
  | full (scope : String)
  deriving DecidableEq, Repr

/-- The operations of the status-list kernel that records are stored through: `B`
and `T` are its bitstring and token lists, and `E` its errors. -/
structure StatusKernel (B T E : Type) where
  bitstringNew : Nat → Except E B
  bitstringFromBytes : List UInt8 → Nat → Except E B
  bitstringToBytes : B → List UInt8
  bitstringSet : B → Nat → Bool → Except E B
  bitstringGet : B → Nat → Except E Bool
  tokenNew : Nat → UInt8 → Except E T
  tokenFromBytes : List UInt8 → Nat → UInt8 → Except E T
  tokenToBytes : T → List UInt8
  tokenSet : T → Nat → UInt8 → Except E T
  tokenGet : T → Nat → Except E UInt8
  /-- The text of an error. -/
  display : E → String

def StatusError.display {B T E : Type} (K : StatusKernel B T E) : StatusError E → String
  | .canonical error => K.display error
  | .invalidBitstringStatus status =>
      "status " ++ toString status ++ " must be 0 or 1 for a bitstring status list"
  | .formatMismatch => "status-list record format does not match the requested document"
  | .repository message => "status repository operation failed: " ++ message
  | .full scope => "status list is full for scope " ++ scope

/-- What the kernel documents: an update writes the one position it names, and the
bytes of an updated list read back as that list. -/
structure StatusKernel.Lawful {B T E : Type} (K : StatusKernel B T E) : Prop where
  bitstring_get_set : ∀ l i v l', K.bitstringSet l i v = .ok l' →
    ∀ p, K.bitstringGet l' p = if p = i then .ok v else K.bitstringGet l p
  bitstring_reload : ∀ d n l i v l', K.bitstringFromBytes d n = .ok l →
    K.bitstringSet l i v = .ok l' → K.bitstringFromBytes (K.bitstringToBytes l') n = .ok l'
  token_get_set : ∀ l i v l', K.tokenSet l i v = .ok l' →
    ∀ p, K.tokenGet l' p = if p = i then .ok v else K.tokenGet l p
  token_reload : ∀ d n b l i v l', K.tokenFromBytes d n b = .ok l →
    K.tokenSet l i v = .ok l' → K.tokenFromBytes (K.tokenToBytes l') n b = .ok l'

structure StatusListRecord where
  id : String
  scope : String
  format : StatusListFormat
  size : Nat
  bitsPerStatus : UInt8
  data : List UInt8
  version : UInt64
  publishedAt : Option DateTime
  url : Option String
  createdAt : DateTime
  updatedAt : DateTime
  deriving DecidableEq, Repr

/-- `u64::saturating_add(1)`. -/
def saturatingSucc (v : UInt64) : UInt64 := if v.toNat + 1 < 2 ^ 64 then v + 1 else v

theorem toNat_saturatingSucc (v : UInt64) :
    (saturatingSucc v).toNat = min (v.toNat + 1) (2 ^ 64 - 1) := by
  have hv := v.toNat_lt
  by_cases h : v.toNat + 1 < 2 ^ 64
  · rw [saturatingSucc, if_pos h, UInt64.toNat_add]
    simp only [UInt64.reduceToNat]
    omega
  · rw [saturatingSucc, if_neg h]
    omega

/-- One update of a list. -/
structure StatusWrite where
  index : Nat
  status : UInt8
  now : DateTime
  deriving DecidableEq, Repr

namespace StatusListRecord

variable {B T E : Type} (K : StatusKernel B T E)

/-- A fresh list, under a new identifier and at the present moment. -/
def empty (id scope : String) (format : StatusListFormat) (size : Nat) (now : DateTime) :
    Except (StatusError E) StatusListRecord := do
  let data ← match format with
    | .bitstring => (K.bitstringNew size).map K.bitstringToBytes |>.mapError .canonical
    | .tokenStatusList =>
        (K.tokenNew size format.bitsPerStatus).map K.tokenToBytes |>.mapError .canonical
  pure ⟨id, scope, format, size, format.bitsPerStatus, data, 0, none, none, now, now⟩

/-- The bytes after the status at `index` was written. -/
def setData (r : StatusListRecord) (index : Nat) (status : UInt8) :
    Except (StatusError E) (List UInt8) :=
  match r.format with
  | .bitstring =>
      if status > 1 then .error (.invalidBitstringStatus status)
      else do
        let list ← (K.bitstringFromBytes r.data r.size).mapError .canonical
        let list ← (K.bitstringSet list index (status == 1)).mapError .canonical
        pure (K.bitstringToBytes list)
  | .tokenStatusList => do
      let list ← (K.tokenFromBytes r.data r.size r.bitsPerStatus).mapError .canonical
      let list ← (K.tokenSet list index status).mapError .canonical
      pure (K.tokenToBytes list)

def set (r : StatusListRecord) (index : Nat) (status : UInt8) (now : DateTime) :
    Except (StatusError E) StatusListRecord := do
  let data ← setData K r index status
  pure { r with data := data, version := saturatingSucc r.version, updatedAt := now }

def get (r : StatusListRecord) (index : Nat) : Except (StatusError E) UInt8 :=
  match r.format with
  | .bitstring => do
      let list ← (K.bitstringFromBytes r.data r.size).mapError .canonical
      let bit ← (K.bitstringGet list index).mapError .canonical
      pure (if bit then 1 else 0)
  | .tokenStatusList => do
      let list ← (K.tokenFromBytes r.data r.size r.bitsPerStatus).mapError .canonical
      (K.tokenGet list index).mapError .canonical

/-- The updates `ws`, applied one after the other. -/
def replay (r : StatusListRecord) (ws : List StatusWrite) :
    Except (StatusError E) StatusListRecord :=
  ws.foldlM (fun r w => set K r w.index w.status w.now) r

/-! ## One update -/

variable {K} {r r' : StatusListRecord} {i : Nat} {s : UInt8} {now : DateTime}

/-- What an accepted update changes of the record. -/
theorem set_eq_ok (h : set K r i s now = .ok r') :
    ∃ data, setData K r i s = .ok data ∧
      r' = { r with data := data, version := saturatingSucc r.version, updatedAt := now } := by
  cases hd : setData K r i s with
  | error e => simp [set, hd, bind, Except.bind] at h
  | ok data =>
      simp only [set, hd, bind, Except.bind, pure, Except.pure, Except.ok.injEq] at h
      exact ⟨data, rfl, h.symm⟩

/-- **An accepted update writes its own position, and no other.** -/
theorem get_set (hK : K.Lawful) (h : set K r i s now = .ok r') (p : Nat) :
    get K r' p = if p = i then .ok s else get K r p := by
  obtain ⟨data, hd, rfl⟩ := set_eq_ok h
  cases hf : r.format with
  | bitstring =>
      by_cases hs : s > 1
      · simp [setData, hf, hs] at hd
      cases h1 : K.bitstringFromBytes r.data r.size with
      | error e => simp [setData, hf, hs, h1, Except.mapError, bind, Except.bind] at hd
      | ok l =>
          cases h2 : K.bitstringSet l i (s == 1) with
          | error e => simp [setData, hf, hs, h1, h2, Except.mapError, bind, Except.bind] at hd
          | ok l' =>
              simp only [setData, hf, hs, if_false, h1, h2, Except.mapError, bind, Except.bind,
                pure, Except.pure, Except.ok.injEq] at hd
              subst hd
              have hbit : (if (s == 1) = true then (1 : UInt8) else 0) = s := by
                have : s = 0 ∨ s = 1 := by grind
                rcases this with rfl | rfl <;> decide
              simp only [get, hf, hK.bitstring_reload _ _ _ _ _ _ h1 h2,
                hK.bitstring_get_set _ _ _ _ h2 p, h1, Except.mapError, bind, Except.bind,
                pure, Except.pure]
              by_cases hp : p = i
              · simp only [if_pos hp, hbit]
              · simp only [if_neg hp]
  | tokenStatusList =>
      cases h1 : K.tokenFromBytes r.data r.size r.bitsPerStatus with
      | error e => simp [setData, hf, h1, Except.mapError, bind, Except.bind] at hd
      | ok l =>
          cases h2 : K.tokenSet l i s with
          | error e => simp [setData, hf, h1, h2, Except.mapError, bind, Except.bind] at hd
          | ok l' =>
              simp only [setData, hf, h1, h2, Except.mapError, bind, Except.bind,
                pure, Except.pure, Except.ok.injEq] at hd
              subst hd
              simp only [get, hf, hK.token_reload _ _ _ _ _ _ _ h1 h2,
                hK.token_get_set _ _ _ _ h2 p, h1, Except.mapError, bind, Except.bind]
              by_cases hp : p = i
              · simp only [if_pos hp]
              · simp only [if_neg hp]

/-- A list that reads at some position still does after an update. -/
theorem get_set_isOk (hK : K.Lawful) (h : set K r i s now = .ok r') {p : Nat} {v : UInt8}
    (hv : get K r p = .ok v) : ∃ v', get K r' p = .ok v' := by
  rw [get_set hK h p]
  by_cases hp : p = i
  · exact ⟨s, by rw [if_pos hp]⟩
  · exact ⟨v, by rw [if_neg hp, hv]⟩

/-! ## A sequence of updates -/

theorem replay_concat (r : StatusListRecord) (ws : List StatusWrite) (w : StatusWrite) :
    replay K r (ws ++ [w]) = (replay K r ws).bind fun r => set K r w.index w.status w.now := by
  simp only [replay, List.foldlM_append, List.foldlM_cons, List.foldlM_nil, bind_pure]
  rfl

/-- **The version counts the updates**, until it saturates. -/
theorem replay_version {ws : List StatusWrite} (h : replay K r ws = .ok r') :
    r'.version.toNat = min (r.version.toNat + ws.length) (2 ^ 64 - 1) := by
  induction ws using List.reverseRecOn generalizing r' with
  | nil =>
      have hv := r.version.toNat_lt
      obtain rfl : r = r' := Except.ok.inj h
      simp only [List.length_nil]
      omega
  | append_singleton ws w ih =>
      rw [replay_concat] at h
      cases hr : replay K r ws with
      | error e => simp [hr, Except.bind] at h
      | ok r₁ =>
          rw [hr] at h
          obtain ⟨data, -, rfl⟩ := set_eq_ok h
          simp only [toNat_saturatingSucc, ih hr, List.length_append, List.length_singleton]
          omega

/-- **The last update of a position decides it**, and a position nobody wrote keeps
its status. -/
theorem replay_get (hK : K.Lawful) {ws : List StatusWrite} (h : replay K r ws = .ok r')
    (p : Nat) :
    get K r' p = match ws.reverse.find? (fun w => w.index = p) with
      | some w => .ok w.status
      | none => get K r p := by
  induction ws using List.reverseRecOn generalizing r' with
  | nil =>
      obtain rfl : r = r' := Except.ok.inj h
      rfl
  | append_singleton ws w ih =>
      rw [replay_concat] at h
      cases hr : replay K r ws with
      | error e => simp [hr, Except.bind] at h
      | ok r₁ =>
          rw [hr] at h
          rw [get_set hK h p, ih hr, List.reverse_append, List.reverse_singleton,
            List.singleton_append, List.find?_cons]
          by_cases hp : p = w.index
          · simp [hp]
          · simp [hp, Ne.symm hp]

end StatusListRecord

/-! ## Token lists as bytes -/

/-- A kernel with token lists of one byte a status, and without bitstring lists. -/
def byteKernel : StatusKernel Empty (List UInt8) Unit where
  bitstringNew _ := .error ()
  bitstringFromBytes _ _ := .error ()
  bitstringToBytes l := l.elim
  bitstringSet l _ _ := l.elim
  bitstringGet l _ := l.elim
  tokenNew n _ := .ok (List.replicate n 0)
  tokenFromBytes d n b := if b = 8 ∧ d.length = n then .ok d else .error ()
  tokenToBytes l := l
  tokenSet l i v := if i < l.length then .ok (l.set i v) else .error ()
  tokenGet l i := if h : i < l.length then .ok l[i] else .error ()
  display _ := "status list index is out of bounds"

theorem byteKernel_lawful : byteKernel.Lawful where
  bitstring_get_set l := l.elim
  bitstring_reload _ _ l := l.elim
  token_get_set := by
    intro l i v l' h p
    simp only [byteKernel] at h ⊢
    split at h
    · cases h
      by_cases hp : p = i <;> grind
    · cases h
  token_reload := by
    intro d n b l i v l' h h'
    simp only [byteKernel] at h h' ⊢
    split at h <;> split at h' <;> grind

end Marty.Revocation
