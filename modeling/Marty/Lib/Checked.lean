import Marty.Lib.BTree

/-!
# Checked computations

A validator is a sequence of guards in `Except`.  The rules below say what its success
establishes, so that a proof reads the guards off the executed program.

## Main definitions

* `Checked.rejectIf`, `Checked.okOr` — a guard, and a value that must be there.
* `Checked.forEach`, `Checked.mapEach` — a check, or a computation, over a list.
-/

namespace Marty.Lib.Checked

variable {ε α β : Type*}

/-- Fail with `e` when `c` holds. -/
def rejectIf (c : Prop) [Decidable c] (e : ε) : Except ε Unit := if c then .error e else .ok ()

def okOr (o : Option α) (e : ε) : Except ε α :=
  match o with
  | some a => .ok a
  | none => .error e

/-- Run `f` on every element and stop at the first error. -/
def forEach (f : α → Except ε Unit) : List α → Except ε Unit
  | [] => .ok ()
  | a :: l =>
    match f a with
    | .ok _ => forEach f l
    | .error e => .error e

def mapEach (f : α → Except ε β) : List α → Except ε (List β)
  | [] => .ok []
  | a :: l =>
    match f a with
    | .error e => .error e
    | .ok b =>
      match mapEach f l with
      | .error e => .error e
      | .ok bs => .ok (b :: bs)

@[simp] theorem rejectIf_eq_ok {c : Prop} [Decidable c] {e : ε} {u : Unit} :
    rejectIf c e = .ok u ↔ ¬ c := by
  by_cases h : c <;> simp [rejectIf, h]

@[simp] theorem okOr_eq_ok {o : Option α} {e : ε} {a : α} : okOr o e = .ok a ↔ o = some a := by
  cases o <;> simp [okOr]

/-- A sequence succeeds when its first part does and the rest does with the result. -/
@[simp] theorem bind_eq_ok {α β : Type _} {x : Except ε α} {f : α → Except ε β} {b : β} :
    (x >>= f) = .ok b ↔ ∃ a, x = .ok a ∧ f a = .ok b := by
  cases x <;> simp [bind, Except.bind]

theorem mapError_eq_ok {ε' α : Type _} {x : Except ε α} {f : ε → ε'} {a : α} :
    x.mapError f = .ok a ↔ x = .ok a := by
  cases x <;> simp [Except.mapError]

/-- A part that returns nothing leaves nothing to choose. -/
@[simp] theorem exists_unit {p : Unit → Prop} : (∃ u, p u) ↔ p () :=
  ⟨fun ⟨(), h⟩ => h, fun h => ⟨(), h⟩⟩

/-- **A check over a list** succeeds when it succeeds on every element. -/
@[simp] theorem forEach_eq_ok {f : α → Except ε Unit} {l : List α} {u : Unit} :
    forEach f l = .ok u ↔ ∀ a ∈ l, f a = .ok () := by
  induction l with
  | nil => simp [forEach]
  | cons a l ih =>
      cases h : f a with
      | error e => simp [forEach, h]
      | ok v => simp [forEach, h, ih]

/-- **A guarded map** computes what the map alone computes, and every guard has held. -/
theorem mapEach_eq_ok {f : α → Except ε β} {g : α → β} {p : α → Prop}
    (hf : ∀ a b, f a = .ok b → b = g a ∧ p a) :
    ∀ {l : List α} {bs : List β}, mapEach f l = .ok bs → bs = l.map g ∧ ∀ a ∈ l, p a := by
  intro l
  induction l with
  | nil =>
      intro bs h
      cases h
      exact ⟨rfl, by simp⟩
  | cons a l ih =>
      intro bs h
      cases ha : f a with
      | error e => simp [mapEach, ha] at h
      | ok b =>
          cases hl : mapEach f l with
          | error e => simp [mapEach, ha, hl] at h
          | ok bs' =>
              simp only [mapEach, ha, hl, Except.ok.injEq] at h
              have hhead := hf a b ha
              have htail := ih hl
              refine ⟨by rw [← h, hhead.1, htail.1]; rfl, ?_⟩
              intro c hc
              rcases List.mem_cons.mp hc with rfl | hc
              · exact hhead.2
              · exact htail.2 c hc

theorem mapEach_of_ok {f : α → Except ε β} {g : α → β} {l : List α}
    (h : ∀ a ∈ l, f a = .ok (g a)) : mapEach f l = .ok (l.map g) := by
  induction l with
  | nil => rfl
  | cons a l ih =>
      have hrest := ih fun b hb => h b (List.mem_cons_of_mem a hb)
      simp only [mapEach, h a List.mem_cons_self, hrest, List.map_cons]

theorem mapEach_map {γ : Type*} {f : β → Except ε γ} {g : α → β} {k : α → γ} {l : List α}
    (h : ∀ a ∈ l, f (g a) = .ok (k a)) : mapEach f (l.map g) = .ok (l.map k) := by
  induction l with
  | nil => rfl
  | cons a l ih =>
      have hrest := ih fun b hb => h b (List.mem_cons_of_mem a hb)
      simp only [List.map_cons, mapEach, h a List.mem_cons_self, hrest]

/-- A map over the elements and their places that makes nothing of the places. -/
theorem mapEach_zipIdx {γ : Type*} {f : β × Nat → Except ε γ} {g : α → β} {k : α → γ}
    {l : List α} (h : ∀ a ∈ l, ∀ n, f (g a, n) = .ok (k a)) (n : Nat) :
    mapEach f ((l.map g).zipIdx n) = .ok (l.map k) := by
  induction l generalizing n with
  | nil => rfl
  | cons a l ih =>
      have hrest := ih (fun b hb => h b (List.mem_cons_of_mem a hb)) (n + 1)
      simp only [List.map_cons, List.zipIdx_cons, mapEach, h a List.mem_cons_self n, hrest]

/-- **A map over a list** succeeds when it succeeds on every element. -/
theorem exists_mapEach {f : α → Except ε β} {l : List α} :
    (∃ bs, mapEach f l = .ok bs) ↔ ∀ a ∈ l, ∃ b, f a = .ok b := by
  induction l with
  | nil => simp [mapEach]
  | cons a l ih =>
      rw [List.forall_mem_cons, ← ih]
      cases ha : f a with
      | error e => simp [mapEach, ha]
      | ok b =>
          cases hl : mapEach f l with
          | error e => simp [mapEach, ha, hl]
          | ok bs => simp [mapEach, ha, hl]

/-- What each result shares with its element, the results share with the elements. -/
theorem map_mapEach {γ : Type*} {f : α → Except ε β} {k : β → γ} {k' : α → γ}
    (hf : ∀ a b, f a = .ok b → k b = k' a) :
    ∀ {l : List α} {bs : List β}, mapEach f l = .ok bs → bs.map k = l.map k' := by
  intro l
  induction l with
  | nil =>
      intro bs h
      cases h
      rfl
  | cons a l ih =>
      intro bs h
      cases ha : f a with
      | error e => simp [mapEach, ha] at h
      | ok b =>
          cases hl : mapEach f l with
          | error e => simp [mapEach, ha, hl] at h
          | ok bs' =>
              simp only [mapEach, ha, hl, Except.ok.injEq] at h
              rw [← h, List.map_cons, List.map_cons, hf a b ha, ih hl]

/-- **A fold of guarded updates** computes what the updates alone compute, and every
guard has held. -/
theorem foldlM_eq_ok {σ α : Type _} {f : σ → α → Except ε σ} {g : σ → α → σ}
    {p : σ → α → Prop} (hf : ∀ s a s', f s a = .ok s' → s' = g s a ∧ p s a) :
    ∀ {l : List α} {s s' : σ}, l.foldlM f s = .ok s' →
      s' = l.foldl g s ∧ ∀ a ∈ l, ∃ t, p t a := by
  intro l
  induction l with
  | nil =>
      intro s s' h
      cases h
      exact ⟨rfl, by simp⟩
  | cons a l ih =>
      intro s s' h
      rw [List.foldlM_cons, bind_eq_ok] at h
      obtain ⟨t, ht, hrest⟩ := h
      have hstep := hf s a t ht
      have htail := ih hrest
      refine ⟨by rw [htail.1, hstep.1]; rfl, ?_⟩
      intro b hb
      rcases List.mem_cons.mp hb with rfl | hb
      · exact ⟨s, hstep.2⟩
      · exact htail.2 b hb

/-- **A fold that collects distinct keys** has collected exactly the keys, no two of them
equal and none there before. -/
theorem foldlM_insert_eq_ok {κ : Type _} [LinearOrder κ] {α : Type _} {g : α → κ}
    {q : α → Prop} {f : BTreeSet κ → α → Except ε (BTreeSet κ)}
    (hf : ∀ s a s', f s a = .ok s' → s' = BTreeSet.insert s (g a) ∧ g a ∉ s ∧ q a) :
    ∀ {l : List α} {s s' : BTreeSet κ}, l.foldlM f s = .ok s' →
      (∀ k, k ∈ s' ↔ k ∈ l.map g ∨ k ∈ s) ∧ (l.map g).Nodup ∧
        ∀ a ∈ l, g a ∉ s ∧ q a := by
  intro l
  induction l with
  | nil =>
      intro s s' h
      cases h
      simp
  | cons a l ih =>
      intro s s' h
      rw [List.foldlM_cons, bind_eq_ok] at h
      obtain ⟨t, ht, hrest⟩ := h
      obtain ⟨rfl, hfresh, hq⟩ := hf s a t ht
      obtain ⟨hmem, hnodup, hall⟩ := ih hrest
      refine ⟨?_, ?_, ?_⟩
      · intro k
        rw [hmem, BTreeSet.mem_insert, List.map_cons, List.mem_cons]
        tauto
      · refine List.nodup_cons.mpr ⟨?_, hnodup⟩
        intro hk
        obtain ⟨b, hb, heq⟩ := List.mem_map.mp hk
        exact (hall b hb).1 ((BTreeSet.mem_insert _ _ _).mpr (.inl heq))
      · intro b hb
        rcases List.mem_cons.mp hb with rfl | hb
        · exact ⟨hfresh, hq⟩
        · exact ⟨fun hs => (hall b hb).1 ((BTreeSet.mem_insert _ _ _).mpr (.inr hs)),
            (hall b hb).2⟩

/-! ## Errors that do not occur -/

theorem bind_ne_error {α β : Type _} {x : Except ε α} {f : α → Except ε β} {e : ε}
    (hx : x ≠ .error e) (hf : ∀ a, f a ≠ .error e) : (x >>= f) ≠ .error e := by
  cases x with
  | error e' => exact fun h => hx (by cases h; rfl)
  | ok a => exact hf a

theorem okOr_ne_error {o : Option α} {e e' : ε} (h : e ≠ e') : okOr o e ≠ .error e' := by
  cases o with
  | none => exact fun hnone => h (Except.error.inj hnone)
  | some a => simp [okOr]

theorem rejectIf_ne_error {c : Prop} [Decidable c] {e e' : ε} (h : e ≠ e') :
    rejectIf c e ≠ .error e' := by
  by_cases hc : c
  · rw [rejectIf, if_pos hc]
    exact fun herror => h (Except.error.inj herror)
  · rw [rejectIf, if_neg hc]
    simp

theorem pure_ne_error {α : Type _} {a : α} {e : ε} : (pure a : Except ε α) ≠ .error e := by
  simp [pure, Except.pure]

theorem mapError_ne_error {ε' α : Type _} {x : Except ε α} {f : ε → ε'} {e : ε'}
    (h : ∀ a, f a ≠ e) : x.mapError f ≠ .error e := by
  cases x with
  | error a => exact fun herror => h a (Except.error.inj herror)
  | ok a => simp [Except.mapError]

end Marty.Lib.Checked
