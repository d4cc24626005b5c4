import Marty.Lib.Unicode

/-!
# Lossless text

The text of a Python string: code points, surrogates among them.  While every
point is a scalar value the text is an ordinary string.  The first surrogate turns
it into a list of code points, and it stays one, so a text has one form only.

## Main definitions

* `PythonText.push` — a code point added at the end, refused past the last one.
* `PythonText.codepoints` — the points of a text; `codepoints_injective` says that
  they determine it.
-/

namespace Marty.ResponseText

open Marty.Lib.Unicode

/-- A text holds a list of code points only when one of them is a surrogate. -/
inductive PythonText
  | scalar (text : List Char)
  | nonScalar (points : List Codepoint) (surrogate : ∃ p ∈ points, fromU32 p.val = none)
  deriving DecidableEq

/-- The empty text. -/
instance : Inhabited PythonText := ⟨.scalar []⟩

structure InvalidCodepoint where
  value : Nat
  deriving DecidableEq, Repr

def charPoint (c : Char) : Codepoint := ⟨c.toNat, toNat_lt c⟩

/-- A text with one more point. -/
def PythonText.add (t : PythonText) (p : Codepoint) : PythonText :=
  match t with
  | .scalar text =>
      match h : fromU32 p.val with
      | some character => .scalar (text ++ [character])
      | none => .nonScalar (text.map charPoint ++ [p]) ⟨p, by simp, h⟩
  | .nonScalar points h =>
      .nonScalar (points ++ [p]) (h.imp fun _ hp => ⟨List.mem_append_left _ hp.1, hp.2⟩)

def PythonText.push (t : PythonText) (value : Nat) : Except InvalidCodepoint PythonText :=
  if h : 0x10ffff < value then .error ⟨value⟩ else .ok (t.add ⟨value, by omega⟩)

def PythonText.codepoints : PythonText → List Nat
  | .scalar text => text.map Char.toNat
  | .nonScalar points _ => points.map Fin.val

/-- A text with more points at its end. -/
def PythonText.extend (t : PythonText) (points : List Codepoint) : PythonText :=
  points.foldl PythonText.add t

@[simp] theorem codepoints_default : (default : PythonText).codepoints = [] := rfl

theorem push_eq_ok (t : PythonText) (p : Codepoint) : t.push p.val = .ok (t.add p) := by
  have hp : ¬ 0x10ffff < p.val := by omega
  rw [PythonText.push, dif_neg hp]

@[simp] theorem codepoints_add (t : PythonText) (p : Codepoint) :
    (t.add p).codepoints = t.codepoints ++ [p.val] := by
  cases t with
  | scalar text =>
      simp only [PythonText.add]
      split
      case h_1 character h =>
          simp [PythonText.codepoints, fromU32_eq_some.mp h]
      case h_2 h =>
          simp [PythonText.codepoints, charPoint]
  | nonScalar points h => simp [PythonText.add, PythonText.codepoints]

@[simp] theorem extend_nil (t : PythonText) : t.extend [] = t := rfl

@[simp] theorem extend_cons (t : PythonText) (p : Codepoint) (points : List Codepoint) :
    t.extend (p :: points) = (t.add p).extend points := rfl

theorem extend_append (t : PythonText) (points points' : List Codepoint) :
    t.extend (points ++ points') = (t.extend points).extend points' := List.foldl_append

@[simp] theorem codepoints_extend (t : PythonText) (points : List Codepoint) :
    (t.extend points).codepoints = t.codepoints ++ points.map Fin.val := by
  induction points generalizing t with
  | nil => simp
  | cons p points ih => simp [ih]

/-- **A text is determined by its points.** -/
theorem codepoints_injective : Function.Injective PythonText.codepoints := by
  -- a list of points holds a surrogate, and a string does not
  have hmixed : ∀ text points h,
      (PythonText.scalar text).codepoints ≠ (PythonText.nonScalar points h).codepoints := by
    intro text points h heq
    obtain ⟨p, hp, hnone⟩ := h
    have hmem : p.val ∈ text.map Char.toNat := by
      simp only [PythonText.codepoints] at heq
      rw [heq]
      exact List.mem_map_of_mem hp
    obtain ⟨c, -, hc⟩ := List.mem_map.mp hmem
    rw [← hc, fromU32_toNat] at hnone
    cases hnone
  intro t t' heq
  cases t with
  | scalar text =>
      cases t' with
      | scalar text' =>
          have htext : text = text' := (List.map_inj_right fun _ _ h => Char.ext
            (UInt32.toNat_inj.mp h)).mp heq
          rw [htext]
      | nonScalar points h => exact absurd heq (hmixed _ _ _)
  | nonScalar points h =>
      cases t' with
      | scalar text => exact absurd heq.symm (hmixed _ _ _)
      | nonScalar points' h' =>
          have hpoints : points = points' := (List.map_inj_right fun _ _ h => Fin.ext h).mp heq
          subst hpoints
          rfl

end Marty.ResponseText
