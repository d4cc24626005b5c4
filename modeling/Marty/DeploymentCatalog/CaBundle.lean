import Marty.Lib.Markers
import Marty.Lib.Checked

/-!
# Bundles of certificate authorities

A certificate authority is replaced in two ceremonies.  The overlap trusts the old and the new
certificate together, the retirement removes the old one.  A bundle is taken apart at the first
line that begins a second certificate, and that is where the overlap has put it together.

## Main definitions

* `singlePem` — a single certificate, with or without a newline at its end.
* `overlap`, `retire` — the bundle of two certificates, and the newer one of a bundle.

## Main results

* `retire_eq_ok` — what is retired are the bundles of an overlap, and the newer certificate stays.
-/

namespace Marty.DeploymentCatalog

open Lib Lib.Checked Lib.Markers

abbrev Bytes := List UInt8

/-- The bytes of a text of ASCII. -/
def ascii (text : String) : Bytes := text.toList.map fun c => c.toNat.toUInt8

def newline : UInt8 := 10

def beginLine : Bytes := ascii "-----BEGIN CERTIFICATE-----\n"

def endLine : Bytes := ascii "\n-----END CERTIFICATE-----"

def isAsciiAlphanumeric (c : UInt8) : Bool :=
  (48 ≤ c && c ≤ 57) || (65 ≤ c && c ≤ 90) || (97 ≤ c && c ≤ 122)

def isPemByte (c : UInt8) : Bool := isAsciiAlphanumeric c || (ascii "+/=").contains c

/-- The text without the newline at its end. -/
def trimmed (value : Bytes) : Bytes := (stripSuffix [newline] value).getD value

def isPemLine (line : Bytes) : Bool := line ≠ [] && line.all isPemByte

def isPemBody (body : Bytes) : Bool := body ≠ [] && (body.splitOn newline).all isPemLine

def singlePem (value : Bytes) : Bool :=
  match (stripPrefix beginLine (trimmed value)).bind (stripSuffix endLine) with
  | none => false
  | some body => isPemBody body

def overlap (old new : Bytes) : Except String Bytes :=
  if singlePem old = false ∨ singlePem new = false ∨ trimmed old = trimmed new then
    .error "CA overlap requires two distinct single public certificates"
  else .ok (trimmed old ++ [newline] ++ trimmed new ++ [newline])

def retirementRefusal : String := "CA retirement requires an exact two-issuer public bundle"

def retire (bundle : Bytes) : Except String Bytes := do
  let split ← okOr (findFrom beginLine bundle beginLine.length) retirementRefusal
  let joined ← (overlap (bundle.take split) (bundle.drop split)).mapError
    fun _ => retirementRefusal
  rejectIf (joined ≠ bundle) retirementRefusal
  return bundle.drop split

/-! ## Single certificates -/

section

variable {value body : Bytes}

@[simp] theorem trimmed_append_newline (value : Bytes) : trimmed (value ++ [newline]) = value := by
  rw [trimmed, stripSuffix_eq_some.mpr rfl]
  rfl

theorem singlePem_iff : singlePem value = true ↔
    ∃ body, trimmed value = beginLine ++ body ++ endLine ∧ isPemBody body = true := by
  rw [singlePem]
  cases hbody : (stripPrefix beginLine (trimmed value)).bind (stripSuffix endLine) with
  | none =>
      constructor
      · intro h
        cases h
      · rintro ⟨body, heq, -⟩
        rw [heq, List.append_assoc, stripPrefix_eq_some.mpr rfl, Option.bind_some,
          stripSuffix_eq_some.mpr rfl] at hbody
        cases hbody
  | some body =>
      obtain ⟨rest, hrest, hend⟩ := Option.bind_eq_some_iff.mp hbody
      have heq : trimmed value = beginLine ++ body ++ endLine := by
        rw [stripPrefix_eq_some.mp hrest, stripSuffix_eq_some.mp hend, List.append_assoc]
      constructor
      · intro h
        exact ⟨body, heq, h⟩
      · rintro ⟨body', heq', h⟩
        have hsame : body' = body :=
          List.append_cancel_left (List.append_cancel_right (heq'.symm.trans heq))
        exact hsame ▸ h

/-- Whether a text is a single certificate does not depend on the newline at its end. -/
theorem singlePem_congr {value' : Bytes} (h : trimmed value = trimmed value') :
    singlePem value = singlePem value' := by
  rw [singlePem, singlePem, h]

theorem mem_intersperse {sep part : Bytes} : ∀ {parts : List Bytes},
    part ∈ parts.intersperse sep → part = sep ∨ part ∈ parts
  | [], h => by simp at h
  | [_], h => .inr h
  | first :: second :: rest, h => by
      rw [List.intersperse_cons_cons, List.mem_cons, List.mem_cons] at h
      rcases h with rfl | rfl | h
      · exact .inr List.mem_cons_self
      · exact .inl rfl
      · exact (mem_intersperse h).imp_right (List.mem_cons_of_mem first)

/-- A byte of a text is a newline, or on one of its lines. -/
theorem mem_splitOn {c : UInt8} (h : c ∈ body) :
    c = newline ∨ ∃ line ∈ body.splitOn newline, c ∈ line := by
  have hjoined : [newline].intercalate (body.splitOn newline) = body :=
    List.intercalate_splitOn newline
  rw [← hjoined, List.intercalate] at h
  obtain ⟨part, hpart, hc⟩ := List.mem_flatten.mp h
  rcases mem_intersperse hpart with rfl | hline
  · exact .inl (List.mem_singleton.mp hc)
  · exact .inr ⟨part, hline, hc⟩

/-- Between its first and its last line a certificate has no dash. -/
theorem dash_notMem (h : isPemBody body = true) : ∀ c ∈ body, c ≠ 45 := by
  intro c hc heq
  subst heq
  rw [isPemBody, Bool.and_eq_true, List.all_eq_true] at h
  rcases mem_splitOn hc with hnewline | ⟨line, hline, hmem⟩
  · revert hnewline
    decide
  · have hpem := h.2 line hline
    rw [isPemLine, Bool.and_eq_true, List.all_eq_true] at hpem
    have hdash := hpem.2 45 hmem
    revert hdash
    decide

theorem neverStarts_endLine : NeverStarts beginLine (endLine ++ [newline]) :=
  neverStarts_of_clash (by decide +kernel)

/-- After its first line a certificate holds no beginning of another one. -/
theorem neverStarts_rest (h : isPemBody body = true) :
    NeverStarts beginLine (body ++ (endLine ++ [newline])) :=
  (neverStarts_of_head (dash_notMem h)).append neverStarts_endLine

end

/-! ## Overlap and retirement -/

section

variable {old new bundle : Bytes}

theorem overlap_eq_ok : overlap old new = .ok bundle ↔
    singlePem old = true ∧ singlePem new = true ∧ trimmed old ≠ trimmed new ∧
      bundle = trimmed old ++ [newline] ++ trimmed new ++ [newline] := by
  rw [overlap]
  split
  case isTrue h =>
      constructor
      · intro herror
        cases herror
      · rintro ⟨hold, hnew, hne, -⟩
        rcases h with h | h | h
        · rw [hold] at h
          cases h
        · rw [hnew] at h
          cases h
        · exact absurd h hne
  case isFalse h =>
      simp only [not_or, Bool.not_eq_false] at h
      rw [Except.ok.injEq]
      constructor
      · intro heq
        exact ⟨h.1, h.2.1, h.2.2, heq.symm⟩
      · intro hall
        exact hall.2.2.2.symm

/-- The bundle of an overlap is split where its second certificate begins. -/
theorem findFrom_overlap (h : overlap old new = .ok bundle) :
    findFrom beginLine bundle beginLine.length = some (trimmed old ++ [newline]).length := by
  obtain ⟨hold, hnew, -, rfl⟩ := overlap_eq_ok.mp h
  obtain ⟨body, hbody, hpem⟩ := singlePem_iff.mp hold
  obtain ⟨body', hbody', -⟩ := singlePem_iff.mp hnew
  have hfound : findFrom beginLine (beginLine ++ (body ++ (endLine ++ [newline])) ++ beginLine ++
      (body' ++ endLine ++ [newline])) beginLine.length =
        some (beginLine.length + (body ++ (endLine ++ [newline])).length) :=
    findFrom_eq (neverStarts_rest hpem)
  rw [hbody, hbody']
  simp only [List.append_assoc, List.length_append] at hfound ⊢
  rw [hfound]

/-- What is put together is taken apart again. -/
theorem overlap_split (h : overlap old new = .ok bundle) :
    bundle.take (trimmed old ++ [newline]).length = trimmed old ++ [newline] ∧
      bundle.drop (trimmed old ++ [newline]).length = trimmed new ++ [newline] ∧
      overlap (trimmed old ++ [newline]) (trimmed new ++ [newline]) = .ok bundle := by
  obtain ⟨hold, hnew, hne, rfl⟩ := overlap_eq_ok.mp h
  refine ⟨?_, ?_, overlap_eq_ok.mpr ⟨?_, ?_, ?_, ?_⟩⟩
  · rw [List.append_assoc, List.take_left]
  · rw [List.append_assoc, List.drop_left]
  · rw [singlePem_congr (trimmed_append_newline _), hold]
  · rw [singlePem_congr (trimmed_append_newline _), hnew]
  · rw [trimmed_append_newline, trimmed_append_newline]
    exact hne
  · rw [trimmed_append_newline, trimmed_append_newline]

theorem retire_iff_split {kept : Bytes} : retire bundle = .ok kept ↔
    ∃ split, findFrom beginLine bundle beginLine.length = some split ∧
      overlap (bundle.take split) (bundle.drop split) = .ok bundle ∧ kept = bundle.drop split := by
  have hmap (x : Except String Bytes) (joined : Bytes) :
      x.mapError (fun _ => retirementRefusal) = .ok joined ↔ x = .ok joined := by
    cases x <;> simp [Except.mapError]
  simp only [retire, bind_eq_ok, okOr_eq_ok, hmap, rejectIf_eq_ok, exists_unit, not_not]
  constructor
  · rintro ⟨split, hsplit, joined, hjoined, rfl, hkept⟩
    exact ⟨split, hsplit, hjoined, (Except.ok.inj hkept).symm⟩
  · rintro ⟨split, hsplit, hjoined, rfl⟩
    exact ⟨split, hsplit, bundle, hjoined, rfl, rfl⟩

/-- **A bundle is retired** exactly when it is the bundle of an overlap, and the newer
certificate of the overlap is what stays. -/
theorem retire_eq_ok {kept : Bytes} : retire bundle = .ok kept ↔
    ∃ old new, overlap old new = .ok bundle ∧ kept = trimmed new ++ [newline] := by
  have hretire {old new : Bytes} (h : overlap old new = .ok bundle) :
      retire bundle = .ok (trimmed new ++ [newline]) := by
    obtain ⟨htake, hdrop, hagain⟩ := overlap_split h
    refine retire_iff_split.mpr ⟨_, findFrom_overlap h, ?_, hdrop.symm⟩
    rw [htake, hdrop, hagain]
  constructor
  · intro h
    obtain ⟨split, -, hjoined, -⟩ := retire_iff_split.mp h
    exact ⟨_, _, hjoined, Except.ok.inj (h.symm.trans (hretire hjoined))⟩
  · rintro ⟨old, new, h, rfl⟩
    exact hretire h

end

end Marty.DeploymentCatalog
