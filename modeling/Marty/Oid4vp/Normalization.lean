import Marty.Oid4vp.Privacy

/-!
# The search through the decodings of a value

A value that is accepted has few decodings, and none of them is sensitive, however many times
and in whatever order it is decoded.  Every limit of the search refuses the value.

## Main definitions

* `Decodes` — what a value is decoded to, with the number of decodings of either kind.
* `Explored` — what the search knows of the states that it has seen.
* `Exhausted` — what is known of an accepted value.

## Main results

* `normalization_exhaustive` — the search ends, and it accepts exhausted values only.
-/

namespace Marty.Oid4vp

open Lib

variable (packages : Packages) (sensitivePatterns : List String) (inspectForbiddenKey : Bool)
  (maxNormalizedBytes : Nat)

/-- `value` is decoded to a text in this number of percent and Base64 steps, in some order. -/
inductive Decodes (value : String) : Nat → Nat → String → Prop
  | start : Decodes value 0 0 value
  | percent {p b : Nat} {text decoded : String} : Decodes value p b text →
      decodePercentUtf8 packages text = some decoded → Decodes value (p + 1) b decoded
  | base64 {p b : Nat} {text decoded : String} : Decodes value p b text →
      decoded ∈ decodeBase64Utf8Variants text inspectForbiddenKey → Decodes value p (b + 1) decoded

def NormalizationState.of (text : String) (p b : Nat) : NormalizationState := ⟨text, p, b, p + b⟩

/-! ## What the search has seen -/

/-- A state that was taken from the stack, and has not stopped the search. -/
structure Visited (seen : List NormalizationState) (state : NormalizationState) : Prop where
  harmless : isSensitive sensitivePatterns inspectForbiddenKey state.value = false
  budget : overBudget packages inspectForbiddenKey state = false
  closed : ∀ next ∈ successors packages inspectForbiddenKey state, next ∈ seen
  short : ∀ next ∈ successors packages inspectForbiddenKey state,
    next.value.utf8ByteSize ≤ maxNormalizedBytes

/-- Every state that was seen is pending or visited, and there are not too many. -/
structure Explored (pending seen : List NormalizationState) : Prop where
  visited : ∀ state ∈ seen, state ∈ pending ∨
    Visited packages sensitivePatterns inspectForbiddenKey maxNormalizedBytes seen state
  subset : ∀ state ∈ pending, state ∈ seen
  nodup : seen.Nodup
  length_le : pending.length ≤ seen.length
  bounded : seen.length ≤ maxPrivacyNormalizationStates

variable {packages sensitivePatterns inspectForbiddenKey maxNormalizedBytes}
variable {pending seen pending' seen' states : List NormalizationState}
variable {state : NormalizationState}

theorem Visited.mono (h : Visited packages sensitivePatterns inspectForbiddenKey maxNormalizedBytes
    seen state) (hseen : ∀ s ∈ seen, s ∈ seen') :
    Visited packages sensitivePatterns inspectForbiddenKey maxNormalizedBytes seen' state :=
  ⟨h.harmless, h.budget, fun next hnext => hseen next (h.closed next hnext), h.short⟩

/-- What is pushed: the states that are new, on both lists. -/
theorem pushStates_eq_some
    (h : pushStates maxNormalizedBytes states (pending, seen) = some (pending', seen')) :
    (∃ new, pending' = new ++ pending ∧ seen' = new ++ seen) ∧
      (∀ next ∈ states, next ∈ seen' ∧ next.value.utf8ByteSize ≤ maxNormalizedBytes) ∧
      (seen.Nodup → seen'.Nodup) ∧
      (seen.length ≤ maxPrivacyNormalizationStates →
        seen'.length ≤ maxPrivacyNormalizationStates) := by
  induction states generalizing pending seen with
  | nil =>
    cases h
    exact ⟨⟨[], rfl, rfl⟩, nofun, fun h => h, fun h => h⟩
  | cons next states ih =>
    rw [pushStates] at h
    split at h
    case isTrue => cases h
    case isFalse hsize =>
      rw [not_lt] at hsize
      split at h
      case isTrue hold =>
        obtain ⟨⟨new, hpending, hseen⟩, hstates, hnodup, hlength⟩ := ih h
        refine ⟨⟨new, hpending, hseen⟩, ?_, hnodup, hlength⟩
        refine List.forall_mem_cons.mpr ⟨⟨?_, hsize⟩, hstates⟩
        rw [hseen]
        exact List.mem_append_right new hold
      case isFalse hnew =>
        split at h
        case isTrue => cases h
        case isFalse hcount =>
          obtain ⟨⟨new, hpending, hseen⟩, hstates, hnodup, hlength⟩ := ih h
          have hmem : next ∈ seen' := by
            rw [hseen]
            exact List.mem_append_right new (.head seen)
          refine ⟨⟨new ++ [next], ?_, ?_⟩, List.forall_mem_cons.mpr ⟨⟨hmem, hsize⟩, hstates⟩,
            fun hs => hnodup (List.nodup_cons.mpr ⟨hnew, hs⟩), fun _ => hlength ?_⟩
          · rw [hpending, List.append_assoc, List.singleton_append]
          · rw [hseen, List.append_assoc, List.singleton_append]
          · rw [List.length_cons]
            omega

theorem explored_initial (packages : Packages) (sensitivePatterns : List String)
    (inspectForbiddenKey : Bool) (maxNormalizedBytes : Nat) (value : String) :
    Explored packages sensitivePatterns inspectForbiddenKey maxNormalizedBytes
      [NormalizationState.initial value] [NormalizationState.initial value] :=
  ⟨fun _ h => .inl h, fun _ h => h, List.nodup_singleton _, le_rfl,
    by simp [maxPrivacyNormalizationStates]⟩

/-- **One step of the search** keeps what is known of the states that it has seen. -/
theorem Explored.step (h : Explored packages sensitivePatterns inspectForbiddenKey
      maxNormalizedBytes (state :: pending) seen)
    (hharmless : isSensitive sensitivePatterns inspectForbiddenKey state.value = false)
    (hbudget : overBudget packages inspectForbiddenKey state = false)
    (hpush : pushStates maxNormalizedBytes (successors packages inspectForbiddenKey state)
      (pending, seen) = some (pending', seen')) :
    Explored packages sensitivePatterns inspectForbiddenKey maxNormalizedBytes pending' seen' ∧
      seen'.length + pending.length = seen.length + pending'.length := by
  obtain ⟨⟨new, rfl, rfl⟩, hstates, hnodup, hlength⟩ := pushStates_eq_some hpush
  have hkept : ∀ s ∈ seen, s ∈ new ++ seen := fun s hs => List.mem_append_right new hs
  refine ⟨⟨?_, ?_, hnodup h.nodup, ?_, hlength h.bounded⟩, ?_⟩
  · intro s hs
    rcases List.mem_append.mp hs with hs | hs
    · exact .inl (List.mem_append_left pending hs)
    · rcases h.visited s hs with hs | hs
      · rcases List.mem_cons.mp hs with rfl | hs
        · exact .inr ⟨hharmless, hbudget, fun t ht => (hstates t ht).1,
            fun t ht => (hstates t ht).2⟩
        · exact .inl (List.mem_append_right new hs)
      · exact .inr (hs.mono hkept)
  · intro s hs
    rcases List.mem_append.mp hs with hs | hs
    · exact List.mem_append_left seen hs
    · exact hkept s (h.subset s (.tail state hs))
  · have hle := h.length_le
    simp only [List.length_append, List.length_cons] at hle ⊢
    omega
  · simp only [List.length_append]
    omega

/-- The search ends after at most as many steps as there may be states. -/
theorem normalizationSearch_ends {fuel : Nat} (h : Explored packages sensitivePatterns
      inspectForbiddenKey maxNormalizedBytes pending seen)
    (hfuel : maxPrivacyNormalizationStates + 1 + pending.length ≤ fuel + seen.length) :
    ∃ verdict, normalizationSearch packages sensitivePatterns inspectForbiddenKey
        maxNormalizedBytes fuel (pending, seen) = some verdict ∧
      (∀ fuel', fuel ≤ fuel' → normalizationSearch packages sensitivePatterns inspectForbiddenKey
        maxNormalizedBytes fuel' (pending, seen) = some verdict) ∧
      (verdict = false → ∃ seen', (∀ s ∈ seen, s ∈ seen') ∧ Explored packages sensitivePatterns
        inspectForbiddenKey maxNormalizedBytes [] seen') := by
  induction fuel generalizing pending seen with
  | zero =>
    have hbounded := h.bounded
    omega
  | succ fuel ih =>
    cases pending with
    | nil =>
      refine ⟨false, by simp [normalizationSearch], ?_, fun _ => ⟨seen, fun _ hs => hs, h⟩⟩
      intro fuel' _
      cases fuel' <;> simp [normalizationSearch]
    | cons state pending =>
      have hunfold : ∀ fuel', fuel + 1 ≤ fuel' → ∃ fuel'', fuel' = fuel'' + 1 ∧ fuel ≤ fuel'' :=
        fun fuel' hle => ⟨fuel' - 1, by omega, by omega⟩
      by_cases hstop : isSensitive sensitivePatterns inspectForbiddenKey state.value = true ∨
          overBudget packages inspectForbiddenKey state = true ∨
          pushStates maxNormalizedBytes (successors packages inspectForbiddenKey state)
            (pending, seen) = none
      · have htrue : ∀ fuel, normalizationSearch packages sensitivePatterns inspectForbiddenKey
            maxNormalizedBytes (fuel + 1) (state :: pending, seen) = some true := by
          intro fuel
          rcases hstop with hstop | hstop | hstop <;> simp [normalizationSearch, hstop]
        refine ⟨true, htrue fuel, fun fuel' hle => ?_, by simp⟩
        obtain ⟨fuel'', rfl, -⟩ := hunfold fuel' hle
        exact htrue fuel''
      · rw [not_or, not_or, Bool.not_eq_true, Bool.not_eq_true, ← ne_eq,
          Option.ne_none_iff_exists'] at hstop
        obtain ⟨hharmless, hbudget, ⟨pending', seen'⟩, hpush⟩ := hstop
        have hgo : ∀ fuel, normalizationSearch packages sensitivePatterns inspectForbiddenKey
            maxNormalizedBytes (fuel + 1) (state :: pending, seen) =
            normalizationSearch packages sensitivePatterns inspectForbiddenKey
              maxNormalizedBytes fuel (pending', seen') := by
          intro fuel
          simp [normalizationSearch, hharmless, hbudget, hpush]
        obtain ⟨hexplored, hlength⟩ := h.step hharmless hbudget hpush
        rw [List.length_cons] at hfuel
        obtain ⟨verdict, hverdict, hall, hseen⟩ := ih hexplored (by omega)
        refine ⟨verdict, (hgo fuel).trans hverdict, fun fuel' hle => ?_, fun hfalse => ?_⟩
        · obtain ⟨fuel'', rfl, hle''⟩ := hunfold fuel' hle
          exact (hgo fuel'').trans (hall fuel'' hle'')
        · obtain ⟨last, hsub, hlast⟩ := hseen hfalse
          obtain ⟨⟨new, -, rfl⟩, -⟩ := pushStates_eq_some hpush
          exact ⟨last, fun s hs => hsub s (List.mem_append_right new hs), hlast⟩

/-! ## Accepted values -/

theorem mem_successors_percent (inspectForbiddenKey : Bool) {decoded : String}
    (h : decodePercentUtf8 packages state.value = some decoded) :
    state.percentStep decoded ∈ successors packages inspectForbiddenKey state :=
  List.mem_append_left _ (List.mem_map_of_mem (by simp [h]))

theorem mem_successors_base64 (packages : Packages) {decoded : String}
    (h : decoded ∈ decodeBase64Utf8Variants state.value inspectForbiddenKey) :
    state.base64Step decoded ∈ successors packages inspectForbiddenKey state :=
  List.mem_append_right _ (List.mem_map_of_mem h)

/-- A state within its budget may be decoded once more, if it can be decoded at all. -/
theorem overBudget_eq_false (h : overBudget packages inspectForbiddenKey state = false) :
    ((decodePercentUtf8 packages state.value).isSome = true →
        state.percentSteps ≠ maxPrivacyPercentDecodeLayers ∧
          state.totalSteps ≠ maxPrivacyNormalizationSteps) ∧
      (decodeBase64Utf8Variants state.value inspectForbiddenKey ≠ [] →
        state.base64Steps ≠ maxPrivacyBase64DecodeLayers ∧
          state.totalSteps ≠ maxPrivacyNormalizationSteps) := by
  simp only [overBudget, Bool.or_eq_false_iff, Bool.and_eq_false_iff, beq_eq_false_iff_ne,
    Bool.not_eq_false', List.isEmpty_iff] at h
  obtain ⟨hpercent, hbase64⟩ := h
  refine ⟨fun hsome => ?_, fun hne => ?_⟩
  · rcases hpercent with hpercent | hpercent
    · rw [hsome] at hpercent
      cases hpercent
    · exact hpercent
  · exact hbase64.resolve_left hne

/-- **What is known of an accepted value**: it has few decodings, none of them is sensitive, and
each of them is within every limit. -/
structure Exhausted (packages : Packages) (sensitivePatterns : List String)
    (inspectForbiddenKey : Bool) (maxNormalizedBytes : Nat) (value : String) : Prop where
  harmless : ∀ p b text, Decodes packages inspectForbiddenKey value p b text →
    isSensitive sensitivePatterns inspectForbiddenKey text = false
  percentLayers : ∀ p b text, Decodes packages inspectForbiddenKey value p b text →
    p ≤ maxPrivacyPercentDecodeLayers
  base64Layers : ∀ p b text, Decodes packages inspectForbiddenKey value p b text →
    b ≤ maxPrivacyBase64DecodeLayers
  steps : ∀ p b text, Decodes packages inspectForbiddenKey value p b text →
    p + b ≤ maxPrivacyNormalizationSteps
  bytes : ∀ p b text, Decodes packages inspectForbiddenKey value p b text → 0 < p + b →
    text.utf8ByteSize ≤ maxNormalizedBytes
  states : ∀ found : List NormalizationState, found.Nodup →
    (∀ s ∈ found, ∃ p b text, Decodes packages inspectForbiddenKey value p b text ∧
      s = .of text p b) → found.length ≤ maxPrivacyNormalizationStates

/-- Everything that an explored value is decoded to has been visited, within the budget. -/
theorem Explored.decodes {value text : String} {p b : Nat}
    (h : Explored packages sensitivePatterns inspectForbiddenKey maxNormalizedBytes [] seen)
    (hinitial : NormalizationState.initial value ∈ seen)
    (hdecodes : Decodes packages inspectForbiddenKey value p b text) :
    NormalizationState.of text p b ∈ seen ∧ p ≤ maxPrivacyPercentDecodeLayers ∧
      b ≤ maxPrivacyBase64DecodeLayers ∧ p + b ≤ maxPrivacyNormalizationSteps ∧
      (0 < p + b → text.utf8ByteSize ≤ maxNormalizedBytes) := by
  induction hdecodes with
  | start => exact ⟨hinitial, Nat.zero_le _, Nat.zero_le _, Nat.zero_le _, nofun⟩
  | @percent p b text decoded _ hdecoded ih =>
    obtain ⟨hmem, hp, hb, hsteps, -⟩ := ih
    have hvisited := (h.visited _ hmem).resolve_left nofun
    obtain ⟨hlayers, htotal⟩ := (overBudget_eq_false hvisited.budget).1
      (Option.isSome_iff_exists.mpr ⟨decoded, hdecoded⟩)
    have hnext : (NormalizationState.of text p b).percentStep decoded ∈
        successors packages inspectForbiddenKey (.of text p b) :=
      mem_successors_percent inspectForbiddenKey hdecoded
    have hshort := hvisited.short _ hnext
    have hseen := hvisited.closed _ hnext
    simp only [NormalizationState.of] at hlayers htotal
    simp only [NormalizationState.of, NormalizationState.percentStep] at hshort hseen ⊢
    rw [Nat.add_right_comm p 1 b]
    exact ⟨hseen, by omega, hb, by omega, fun _ => hshort⟩
  | @base64 p b text decoded _ hdecoded ih =>
    obtain ⟨hmem, hp, hb, hsteps, -⟩ := ih
    have hvisited := (h.visited _ hmem).resolve_left nofun
    obtain ⟨hlayers, htotal⟩ := (overBudget_eq_false hvisited.budget).2
      (List.ne_nil_of_mem hdecoded)
    have hnext : (NormalizationState.of text p b).base64Step decoded ∈
        successors packages inspectForbiddenKey (.of text p b) :=
      mem_successors_base64 packages hdecoded
    have hshort := hvisited.short _ hnext
    have hseen := hvisited.closed _ hnext
    simp only [NormalizationState.of] at hlayers htotal
    simp only [NormalizationState.of, NormalizationState.base64Step] at hshort hseen ⊢
    rw [← Nat.add_assoc]
    exact ⟨hseen, hp, by omega, by omega, fun _ => hshort⟩

theorem Explored.exhausted {value : String}
    (h : Explored packages sensitivePatterns inspectForbiddenKey maxNormalizedBytes [] seen)
    (hinitial : NormalizationState.initial value ∈ seen) :
    Exhausted packages sensitivePatterns inspectForbiddenKey maxNormalizedBytes value where
  harmless p b text hdecodes :=
    ((h.visited _ (h.decodes hinitial hdecodes).1).resolve_left nofun).harmless
  percentLayers p b text hdecodes := (h.decodes hinitial hdecodes).2.1
  base64Layers p b text hdecodes := (h.decodes hinitial hdecodes).2.2.1
  steps p b text hdecodes := (h.decodes hinitial hdecodes).2.2.2.1
  bytes p b text hdecodes := (h.decodes hinitial hdecodes).2.2.2.2
  states found hnodup hfound := by
    have hsub : found ⊆ seen := by
      intro s hs
      obtain ⟨p, b, text, hdecodes, rfl⟩ := hfound s hs
      exact (h.decodes hinitial hdecodes).1
    exact ((List.subperm_of_subset hnodup hsub).length_le).trans h.bounded

/-- **The search is exhaustive**: it ends, whatever the value, and when it accepts a value, no
chain of decodings of any length and order leads to a sensitive text or beyond a limit. -/
theorem normalization_exhaustive (packages : Packages) (sensitivePatterns : List String)
    (inspectForbiddenKey : Bool) (maxNormalizedBytes : Nat) (value : String) :
    (∀ fuel, maxPrivacyNormalizationStates + 1 ≤ fuel →
      normalizationSearch packages sensitivePatterns inspectForbiddenKey maxNormalizedBytes fuel
          ([.initial value], [.initial value]) =
        some (normalizedValueIsForbidden packages sensitivePatterns inspectForbiddenKey
          maxNormalizedBytes value)) ∧
    (normalizedValueIsForbidden packages sensitivePatterns inspectForbiddenKey
        maxNormalizedBytes value = false →
      Exhausted packages sensitivePatterns inspectForbiddenKey maxNormalizedBytes value) := by
  obtain ⟨verdict, hverdict, hall, hseen⟩ := normalizationSearch_ends
    (explored_initial packages sensitivePatterns inspectForbiddenKey maxNormalizedBytes value)
    le_rfl
  have hforbidden : normalizedValueIsForbidden packages sensitivePatterns inspectForbiddenKey
      maxNormalizedBytes value = verdict := by
    rw [normalizedValueIsForbidden, hverdict, Option.getD_some]
  rw [hforbidden]
  refine ⟨hall, fun hfalse => ?_⟩
  obtain ⟨seen, hsub, hexplored⟩ := hseen hfalse
  exact hexplored.exhausted (hsub _ (.head _))

/-- The other packages, on texts without a percent sign. -/
def plainPackages : Packages where
  canonicalDigestJson _ := none
  parseUrl _ := none
  percentDecodeUtf8 := some

/-- A key that is decoded once, to a text that is not forbidden. -/
theorem normalization_exhaustive_encoded :
    Exhausted plainPackages ["header.payload.sig"] true 65536 "Y2xhaW0=" :=
  (normalization_exhaustive plainPackages ["header.payload.sig"] true 65536 "Y2xhaW0=").2
    (by decide +kernel)

end Marty.Oid4vp
