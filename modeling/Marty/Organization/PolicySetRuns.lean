import Marty.Organization.PolicySets

/-!
# One policy set of a type is in force

Whatever transactions interleave, at most one set of a type is active in an organization, and the
documents of every set are the ones that were accepted last for it.  Two activations exclude each
other: the later of their statements for all sets sees the target of the other, and waits for it.

## Main definitions

* `Tables` — what the committed rows have to do with each other and with the documents.
* `Crossed` — of two activations, one has to lock the target of the other.
* `Consistent` — the rows, and what the transactions hold and have read.
* `policy_sets_in_force` — all of it holds along every run.
-/

namespace Marty.Organization

open Lib

/-! ## Saves -/

/-- What an archive leaves of a row. -/
def PolicySet.core (policySet : PolicySet) : String × String × PolicySetType × String :=
  (policySet.id, policySet.organizationId, policySet.policyType, policySet.cedarPolicies)

/-- What a save leaves of a policy set where there is a row. -/
def PolicySet.onto (policySet row : PolicySet) : PolicySet :=
  { policySet with
    organizationId := row.organizationId
    createdBy := row.createdBy
    createdAt := row.createdAt }

theorem PolicySet.core_onto {policySet row : PolicySet} (h : policySet.core = row.core) :
    (policySet.onto row).core = row.core := by
  simp only [core, onto, Prod.mk.injEq] at h ⊢
  tauto

theorem get_savePolicySet {sets : PolicySetTable} {target policySet : PolicySet}
    (htarget : sets.get target.id = some target) (hid : policySet.id = target.id) (id : String) :
    (savePolicySet sets policySet).get id =
      if id = target.id then some (policySet.onto target) else sets.get id := by
  rw [savePolicySet, BTreeMap.get_insert, PolicySet.onto, hid, htarget]
  rfl

theorem keyed_savePolicySet {sets : PolicySetTable} {target policySet : PolicySet}
    (htarget : sets.get target.id = some target) (hid : policySet.id = target.id)
    (hkeyed : ∀ id row, sets.get id = some row → row.id = id) (id : String) (row : PolicySet)
    (hrow : (savePolicySet sets policySet).get id = some row) : row.id = id := by
  rw [get_savePolicySet htarget hid] at hrow
  split at hrow
  case isTrue heq =>
    cases hrow
    exact hid.trans heq.symm
  case isFalse => exact hkeyed id row hrow

/-- Rows that are archived keep the rest, and the others stay as they are. -/
theorem get_foldl_archived {l : List PolicySet} (hstatus : ∀ q ∈ l, q.status = .archived) :
    ∀ {sets : PolicySetTable}, (∀ id row, sets.get id = some row → row.id = id) →
      (∀ q ∈ l, ∃ row, sets.get q.id = some row ∧ q.core = row.core) → ∀ id,
      (sets.get id = none → (l.foldl savePolicySet sets).get id = none) ∧
        ∀ row, sets.get id = some row → ∃ row', (l.foldl savePolicySet sets).get id = some row' ∧
          row'.core = row.core ∧
            (row' = row ∧ id ∉ l.map (·.id) ∨ row'.status = .archived ∧ id ∈ l.map (·.id)) := by
  induction l with
  | nil => exact fun _ _ id => ⟨fun h => h, fun row hrow => ⟨row, hrow, rfl, .inl ⟨rfl, by simp⟩⟩⟩
  | cons q l ih =>
      intro sets hkeyed hrows id
      obtain ⟨row, hrow, hcore⟩ := hrows q List.mem_cons_self
      have hid := hkeyed _ row hrow
      have hget := get_savePolicySet (hid.symm ▸ hrow) hid.symm
      have hsaved := PolicySet.core_onto hcore
      have hkeyed' := keyed_savePolicySet (hid.symm ▸ hrow) hid.symm hkeyed
      have hrows' : ∀ p ∈ l, ∃ found, (savePolicySet sets q).get p.id = some found ∧
          p.core = found.core := by
        intro p hp
        obtain ⟨found, hfound, hsame⟩ := hrows p (List.mem_cons_of_mem _ hp)
        rw [hget]
        split
        case isTrue heq =>
          rw [heq, hid, hrow, Option.some.injEq] at hfound
          exact ⟨_, rfl, hsame.trans (hfound ▸ hsaved.symm)⟩
        case isFalse => exact ⟨found, hfound, hsame⟩
      obtain ⟨hnone, hsome⟩ := ih (fun p hp => hstatus p (List.mem_cons_of_mem _ hp)) hkeyed'
        hrows' id
      rw [List.foldl_cons]
      refine ⟨fun h => hnone ?_, fun found hfound => ?_⟩
      · rw [hget, if_neg, h]
        rintro rfl
        rw [hid, hrow] at h
        cases h
      · by_cases heq : id = row.id
        · subst heq
          rw [hid, hrow, Option.some.injEq] at hfound
          subst hfound
          obtain ⟨row', hrow', hcore', hstate⟩ := hsome _ (by rw [hget, if_pos rfl])
          refine ⟨row', hrow', hcore'.trans hsaved, .inr ⟨?_, ?_⟩⟩
          · rcases hstate with ⟨rfl, -⟩ | hstate
            · exact hstatus q List.mem_cons_self
            · exact hstate.1
          · rw [hid]
            exact List.mem_cons_self
        · obtain ⟨row', hrow', hcore', hstate⟩ := hsome found (by rw [hget, if_neg heq, hfound])
          refine ⟨row', hrow', hcore', hstate.imp (fun hkept => ⟨hkept.1, ?_⟩) fun hdone =>
            ⟨hdone.1, List.mem_cons_of_mem _ hdone.2⟩⟩
          rw [List.map_cons, List.mem_cons, not_or]
          exact ⟨fun h => heq (h.trans hid.symm), hkept.2⟩

/-! ## The rows and their documents -/

section

variable (packages : PolicyPackages)

/-- The documents are valid, and read back as they are written. -/
structure Good (policies : List CedarPolicyDocument) : Prop where
  reads : deserializePolicyDocuments packages (serializePolicyDocuments policies) = policies
  valid : validatePolicyDocuments packages policies = []

/-- The stored text of a set has the documents that were accepted for it. -/
def Documented (accepted : AcceptedPolicies) (policySet : PolicySet) : Prop :=
  ∃ policies, accepted.get policySet.id = some policies ∧
    deserializePolicyDocuments packages policySet.cedarPolicies = policies ∧
      validatePolicyDocuments packages policies = []

/-- At most one set of a type is active in an organization. -/
def OneActive (sets : PolicySetTable) : Prop :=
  ∀ id id' p p', sets.get id = some p → sets.get id' = some p' → p.status = .active →
    p'.status = .active → p.organizationId = p'.organizationId → p.policyType = p'.policyType →
      id = id'

structure Tables (sets : PolicySetTable) (accepted : AcceptedPolicies) : Prop where
  keyed : ∀ id p, sets.get id = some p → p.id = id
  one : OneActive sets
  documents : ∀ id p, sets.get id = some p → Documented packages accepted p

end

variable {ι : Type}

/-- A transaction holds a row, which is as it was read. -/
def Held (s : PolicyStore ι) (i : ι) (p : PolicySet) : Prop :=
  s.sets.get p.id = some p ∧ s.holders p.id = some i

/-- An activation locks, or has locked, a row. -/
def Sees (pending : List String) (gathered : List PolicySet) (id : String) : Prop :=
  id ∈ pending ∨ id ∈ gathered.map (·.id)

/-- What a transaction commits. -/
structure Commits (packages : PolicyPackages) (s : PolicyStore ι) (i : ι) (call : PolicyCall)
    (sets : PolicySetTable) (accepted : AcceptedPolicies) : Prop where
  tables : Tables packages sets accepted
  unheld : ∀ id p, s.sets.get id = some p → s.holders id ≠ some i → sets.get id = some p
  /-- Only an activation makes a set active, its target. -/
  activated : ∀ id p, sets.get id = some p → p.status = .active →
    (∃ q, s.sets.get id = some q ∧ q.status = .active ∧ q.organizationId = p.organizationId) ∨
      ∃ target now gathered, call = .gathering target now [] gathered ∧ id = target.id ∧
        p.organizationId = target.organizationId

section

variable {packages : PolicyPackages} {s : PolicyStore ι} {i : ι} {call : PolicyCall}

/-- A row that is held is saved, and does not become active. -/
theorem commits_save (h : Tables packages s.sets s.accepted) {target p : PolicySet}
    {accepted : AcceptedPolicies} (hheld : Held s i target) (hid : p.id = target.id)
    (htype : p.policyType = target.policyType)
    (hstatus : p.status = .active → target.status = .active)
    (hdocuments : Documented packages accepted p)
    (hother : ∀ id, id ≠ target.id → accepted.get id = s.accepted.get id) :
    Commits packages s i call (savePolicySet s.sets p) accepted := by
  have hget := get_savePolicySet hheld.1 hid
  -- an active row was active, of the same organization and type
  have hactive : ∀ id q, (savePolicySet s.sets p).get id = some q → q.status = .active →
      ∃ row, s.sets.get id = some row ∧ row.status = .active ∧
        row.organizationId = q.organizationId ∧ row.policyType = q.policyType := by
    intro id q hq hlive
    rw [hget] at hq
    split at hq
    case isTrue heq =>
      cases hq
      exact ⟨target, heq ▸ hheld.1, hstatus hlive, rfl, htype.symm⟩
    case isFalse => exact ⟨q, hq, hlive, rfl, rfl⟩
  refine ⟨⟨keyed_savePolicySet hheld.1 hid h.keyed,
    fun id id' q q' hq hq' hlive hlive' horg htype => ?_,
    fun id q hq => ?_⟩, fun id q hq hfree => ?_, fun id q hq hlive => .inl ?_⟩
  · obtain ⟨r, hr, hlive, horg₁, htype₁⟩ := hactive id q hq hlive
    obtain ⟨r', hr', hlive', horg₂, htype₂⟩ := hactive id' q' hq' hlive'
    exact h.one id id' r r' hr hr' hlive hlive' (horg₁.trans (horg.trans horg₂.symm))
      (htype₁.trans (htype.trans htype₂.symm))
  · rw [hget] at hq
    split at hq
    case isTrue =>
      cases hq
      exact hdocuments
    case isFalse hne =>
      rw [Documented, hother _ (h.keyed id q hq ▸ hne)]
      exact h.documents id q hq
  · rw [hget, if_neg, hq]
    rintro rfl
    exact hfree hheld.2
  · obtain ⟨row, hrow, hlive, horg, -⟩ := hactive id q hq hlive
    exact ⟨row, hrow, hlive, horg⟩

/-- A new row is a draft. -/
theorem commits_create (h : Tables packages s.sets s.accepted) {p : PolicySet}
    {policies : List CedarPolicyDocument} (hfresh : s.sets.get p.id = none)
    (hdraft : p.status = .draft) (htext : p.cedarPolicies = serializePolicyDocuments policies)
    (hgood : Good packages policies) :
    Commits packages s i call (savePolicySet s.sets p) (s.accepted.insert p.id policies) := by
  have hget : ∀ id, (savePolicySet s.sets p).get id = if id = p.id then some p else
      s.sets.get id := fun id => by
    rw [savePolicySet, BTreeMap.get_insert, hfresh]
    rfl
  have hold : ∀ id q, (savePolicySet s.sets p).get id = some q → q.status = .active →
      s.sets.get id = some q := by
    intro id q hq hlive
    rw [hget] at hq
    split at hq
    case isTrue =>
      cases hq
      rw [hdraft] at hlive
      cases hlive
    case isFalse => exact hq
  refine ⟨⟨fun id q hq => ?_, fun id id' q q' hq hq' hlive hlive' => ?_, fun id q hq => ?_⟩,
    fun id q hq _ => ?_, fun id q hq hlive => .inl ⟨q, hold id q hq hlive, hlive, rfl⟩⟩
  · rw [hget] at hq
    split at hq
    case isTrue heq =>
      cases hq
      exact heq.symm
    case isFalse => exact h.keyed id q hq
  · exact h.one id id' q q' (hold id q hq hlive) (hold id' q' hq' hlive') hlive hlive'
  · rw [hget] at hq
    split at hq
    case isTrue =>
      cases hq
      exact ⟨policies, by simp, htext ▸ hgood.reads, hgood.valid⟩
    case isFalse hne =>
      rw [Documented, BTreeMap.get_insert, if_neg (h.keyed id q hq ▸ hne)]
      exact h.documents id q hq
  · rw [hget, if_neg, hq]
    rintro rfl
    rw [hfresh] at hq
    cases hq

theorem commits_delete (h : Tables packages s.sets s.accepted) {target : PolicySet}
    (hheld : Held s i target) :
    Commits packages s i call (s.sets.retain fun id _ => id ≠ target.id) s.accepted := by
  have hold : ∀ id q, (s.sets.retain fun id _ => id ≠ target.id).get id = some q →
      s.sets.get id = some q := by
    intro id q hq
    rw [BTreeMap.get_retain] at hq
    exact (Option.filter_eq_some_iff.mp hq).1
  refine ⟨⟨fun id q hq => h.keyed id q (hold id q hq), fun id id' q q' hq hq' =>
    h.one id id' q q' (hold id q hq) (hold id' q' hq'),
    fun id q hq => h.documents id q (hold id q hq)⟩, fun id q hq hfree => ?_,
    fun id q hq hlive => .inl ⟨q, hold id q hq, hlive, rfl⟩⟩
  rw [BTreeMap.get_retain, hq, Option.filter_some, if_pos]
  simp only [decide_eq_true_eq]
  rintro rfl
  exact hfree hheld.2

theorem exists_of_mem_archived {target q : PolicySet} {gathered : List PolicySet} {now : DateTime}
    (hq : q ∈ archived target gathered now) : ∃ p ∈ gathered, q = p.archive now := by
  obtain ⟨p, hp, rfl⟩ := List.mem_map.mp hq
  exact ⟨p, (List.mem_filter.mp hp).1, rfl⟩

/-- An active set of the type of the target is archived when it was locked. -/
theorem mem_archived {target p : PolicySet} {gathered : List PolicySet} (now : DateTime)
    (hp : p ∈ gathered) (hne : p.id ≠ target.id) (htype : p.policyType = target.policyType)
    (hlive : p.status = .active) : p.id ∈ (archived target gathered now).map (·.id) := by
  have hreplaced : p.id ∈ policySetIdsToArchive target gathered :=
    List.mem_map_of_mem (List.mem_filter.mpr ⟨hp, decide_eq_true ⟨hne, htype, hlive⟩⟩)
  exact List.mem_map.mpr ⟨p.archive now,
    List.mem_map_of_mem (List.mem_filter.mpr ⟨hp, decide_eq_true hreplaced⟩), rfl⟩

/-- What an activation leaves of a row other than its target. -/
def Replaced (s : PolicyStore ι) (target : PolicySet) (gathered : List PolicySet) (now : DateTime)
    (id : String) (q : PolicySet) : Prop :=
  ∃ old, s.sets.get id = some old ∧ q.core = old.core ∧
    (q = old ∧ id ∉ (archived target gathered now).map (·.id) ∨ q.status = .archived)

/-- **What an activation commits**, row by row; the rows that it did not lock stay. -/
theorem get_activated (h : Tables packages s.sets s.accepted) {target : PolicySet}
    (now : DateTime) {gathered : List PolicySet} (hheld : Held s i target)
    (hgathered : ∀ p ∈ gathered, Held s i p) {sets : PolicySetTable}
    (hsets : sets = savePolicySet ((archived target gathered now).foldl savePolicySet s.sets)
      (target.activate now)) :
    (∀ id q, sets.get id = some q → id = target.id ∧ q.core = target.core ∨
      id ≠ target.id ∧ Replaced s target gathered now id q) ∧
    ∀ id q, s.sets.get id = some q → s.holders id ≠ some i → sets.get id = some q := by
  have hfold := get_foldl_archived (l := archived target gathered now)
    (fun q hq => by obtain ⟨p, -, rfl⟩ := exists_of_mem_archived hq; rfl) h.keyed
    (fun q hq => by
      obtain ⟨p, hp, rfl⟩ := exists_of_mem_archived hq
      exact ⟨p, (hgathered p hp).1, rfl⟩)
  obtain ⟨row, hrow, hcore, -⟩ := (hfold target.id).2 target hheld.1
  have hrowId : row.id = target.id := congrArg (·.1) hcore
  have hactivatedId : (target.activate now).id = row.id := hrowId.symm
  have hget := get_savePolicySet (hrowId.symm ▸ hrow) hactivatedId
  rw [← hsets] at hget
  refine ⟨fun id q hq => ?_, fun id q hq hfree => ?_⟩
  · rw [hget, hrowId] at hq
    split at hq
    case isTrue heq =>
      cases hq
      have hactivated : (target.activate now).core = row.core := hcore.symm
      exact .inl ⟨heq, (PolicySet.core_onto hactivated).trans hcore⟩
    case isFalse hne =>
      cases hold : s.sets.get id with
      | none =>
          rw [(hfold id).1 hold] at hq
          cases hq
      | some old =>
          obtain ⟨q', hq', hcore', hstate⟩ := (hfold id).2 old hold
          rw [hq, Option.some.injEq] at hq'
          subst hq'
          exact .inr ⟨hne, old, hold, hcore', hstate.imp_right And.left⟩
  · have hne : id ≠ target.id := fun heq => hfree (heq ▸ hheld.2)
    rw [hget, if_neg (hrowId ▸ hne)]
    obtain ⟨q', hq', -, ⟨rfl, -⟩ | hstate⟩ := (hfold id).2 q hq
    · exact hq'
    · obtain ⟨p, hp, rfl⟩ := List.mem_map.mp hstate.2
      obtain ⟨locked, hlocked, rfl⟩ := exists_of_mem_archived hp
      exact (hfree (hgathered locked hlocked).2).elim

/-- **An activation** that has locked every set of its organization leaves one of its type. -/
theorem commits_activate (h : Tables packages s.sets s.accepted) {target : PolicySet}
    {now : DateTime} {gathered : List PolicySet} (hheld : Held s i target)
    (hgathered : ∀ p ∈ gathered, Held s i p)
    (hcovered : ∀ id p, s.sets.get id = some p → p.organizationId = target.organizationId →
      p.status = .active → Sees [] gathered id) :
    Commits packages s i (.gathering target now [] gathered)
      (savePolicySet ((archived target gathered now).foldl savePolicySet s.sets)
        (target.activate now)) s.accepted := by
  obtain ⟨hkept, hunheld⟩ := get_activated h now hheld hgathered rfl
  -- an active set of the type of the target was locked, and is archived
  have hone : ∀ (id : String) (q q' : PolicySet), q.core = target.core → id ≠ target.id →
      Replaced s target gathered now id q' → q'.status = .active →
      q.organizationId = q'.organizationId → q.policyType = q'.policyType → False := by
    rintro id q q' hcore hne ⟨old, hold, -, ⟨rfl, hnot⟩ | hstate⟩ hlive horg htype
    · simp only [PolicySet.core, Prod.mk.injEq] at hcore
      obtain hpending | hlocked := hcovered id q' hold (horg.symm.trans hcore.2.1) hlive
      · cases hpending
      · obtain ⟨p, hp, rfl⟩ := List.mem_map.mp hlocked
        obtain rfl : p = q' := Option.some.inj ((hgathered p hp).1.symm.trans hold)
        exact hnot (mem_archived now hp hne (htype.symm.trans hcore.2.2.1) hlive)
    · rw [hlive] at hstate
      cases hstate
  refine ⟨⟨fun id q hq => ?_, fun id id' q q' hq hq' hlive hlive' horg htype => ?_,
    fun id q hq => ?_⟩, hunheld, fun id q hq hlive => ?_⟩
  · rcases hkept id q hq with ⟨rfl, hcore⟩ | ⟨-, old, hold, hcore, -⟩
    · exact congrArg (·.1) hcore
    · exact (congrArg (·.1) hcore).trans (h.keyed id old hold)
  · rcases hkept id q hq with ⟨heq, hcore⟩ | ⟨hne, hold⟩ <;>
      rcases hkept id' q' hq' with ⟨heq', hcore'⟩ | ⟨hne', hold'⟩
    · exact heq.trans heq'.symm
    · exact (hone id' q q' hcore hne' hold' hlive' horg htype).elim
    · exact (hone id q' q hcore' hne hold hlive horg.symm htype.symm).elim
    · obtain ⟨old, hrow, -, ⟨rfl, -⟩ | hstate⟩ := hold
      · obtain ⟨old', hrow', -, ⟨rfl, -⟩ | hstate⟩ := hold'
        · exact h.one id id' q q' hrow hrow' hlive hlive' horg htype
        · rw [hlive'] at hstate
          cases hstate
      · rw [hlive] at hstate
        cases hstate
  · have hdocumented : ∀ old, s.sets.get id = some old → q.core = old.core →
        Documented packages s.accepted q := by
      intro old hold hcore
      simp only [PolicySet.core, Prod.mk.injEq] at hcore
      rw [Documented, hcore.1, hcore.2.2.2]
      exact h.documents id old hold
    rcases hkept id q hq with ⟨rfl, hcore⟩ | ⟨-, old, hold, hcore, -⟩
    · exact hdocumented target hheld.1 hcore
    · exact hdocumented old hold hcore
  · rcases hkept id q hq with ⟨rfl, hcore⟩ | ⟨-, old, hold, -, ⟨rfl, -⟩ | hstate⟩
    · exact .inr ⟨target, now, gathered, rfl, rfl, congrArg (·.2.1) hcore⟩
    · exact .inl ⟨q, hold, hlive, rfl⟩
    · rw [hlive] at hstate
      cases hstate

/-! ## What a transaction holds and has read -/

variable {s' : PolicyStore ι} {j : ι} {call' other : PolicyCall}

def PolicyCall.Sound (packages : PolicyPackages) (s : PolicyStore ι) (i : ι) : PolicyCall → Prop
  | .idle | .done _ => True
  | .locating command => ∀ policies ∈ command.policies, Good packages policies
  | .creating policySet policies => policySet.status = .draft ∧
      policySet.cedarPolicies = serializePolicyDocuments policies ∧ Good packages policies
  | .located command target => Held s i target ∧
      ∀ policies ∈ command.policies, Good packages policies
  | .gathering target _ pending gathered => Held s i target ∧ (∀ p ∈ gathered, Held s i p) ∧
      ∀ id p, s.sets.get id = some p → p.organizationId = target.organizationId →
        p.status = .active → Sees pending gathered id

/-- **Of two activations** in an organization, one has to lock the target of the other. -/
def Crossed : PolicyCall → PolicyCall → Prop
  | .gathering target _ pending gathered, .gathering target' _ pending' gathered' =>
      target.organizationId = target'.organizationId →
        Sees pending gathered target'.id ∨ Sees pending' gathered' target.id
  | _, _ => True

theorem Crossed.symm (h : Crossed call other) : Crossed other call := by
  cases call <;> cases other <;> first | trivial | exact fun horg => (h horg.symm).symm

/-- A step of another transaction that leaves the rows and the locks of this one. -/
theorem PolicyCall.Sound.frame (h : call.Sound packages s j)
    (hheld : ∀ p, Held s j p → Held s' j p)
    (hactive : ∀ target now pending gathered, call = .gathering target now pending gathered →
      ∀ id p, s'.sets.get id = some p → p.organizationId = target.organizationId →
        p.status = .active → Sees pending gathered id) :
    call.Sound packages s' j := by
  cases call with
  | idle => trivial
  | done => trivial
  | locating => exact h
  | creating => exact h
  | located => exact ⟨hheld _ h.1, h.2⟩
  | gathering => exact ⟨hheld _ h.1, fun p hp => hheld p (h.2.1 p hp), hactive _ _ _ _ rfl⟩

/-- What a step leaves: its own transaction, and the rows and locks of the others. -/
structure Stepped (packages : PolicyPackages) (s s' : PolicyStore ι) (i : ι)
    (call call' : PolicyCall) : Prop where
  tables : Tables packages s'.sets s'.accepted
  sound : call'.Sound packages s' i
  held : ∀ j, j ≠ i → ∀ p, Held s j p → Held s' j p
  activated : ∀ id p, s'.sets.get id = some p → p.status = .active →
    (∃ q, s.sets.get id = some q ∧ q.status = .active ∧ q.organizationId = p.organizationId) ∨
      ∃ target now gathered, call = .gathering target now [] gathered ∧ id = target.id ∧
        p.organizationId = target.organizationId
  crossed : ∀ j, j ≠ i → ∀ other : PolicyCall, other.Sound packages s j → Crossed call other →
    Crossed call' other

/-- **A commit** is what its command says, over the rows that the transaction holds. -/
theorem commits_of_committed (h : Tables packages s.sets s.accepted)
    (hcall : call.Sound packages s i) {sets : PolicySetTable} {accepted : AcceptedPolicies}
    {answer : Option PolicySet} (hdone : committed s call = some (sets, accepted, answer)) :
    Commits packages s i call sets accepted := by
  unfold committed at hdone
  split at hdone
  case h_1 policySet policies =>
    simp only [Option.ite_none_left_eq_some, Option.some.injEq, Prod.mk.injEq,
      Bool.not_eq_true, Option.isSome_eq_false_iff, Option.isNone_iff_eq_none] at hdone
    obtain ⟨hfresh, rfl, rfl, -⟩ := hdone
    exact commits_create h hfresh hcall.1 hcall.2.1 hcall.2.2
  case h_2 organizationId id patch now target =>
    cases hdone
    obtain ⟨hheld, hgood⟩ := hcall
    cases hpatch : patch.policies with
    | none =>
        refine commits_save h hheld rfl rfl (fun hlive => hlive) ?_ fun _ _ => rfl
        have hdocuments := h.documents _ target hheld.1
        simpa [Documented, UpdatePolicySetPatch.apply, hpatch] using hdocuments
    | some policies =>
        have hgood := hgood policies hpatch
        refine commits_save h hheld rfl rfl (fun hlive => hlive) ⟨policies, ?_⟩ fun id hne => ?_
        · refine ⟨by simp [UpdatePolicySetPatch.apply], ?_, hgood.valid⟩
          simpa [UpdatePolicySetPatch.apply, hpatch] using hgood.reads
        · simp [hne]
  case h_3 organizationId id now target =>
    cases hdone
    refine commits_save h hcall.1 rfl rfl (fun hlive => ?_) (h.documents _ target hcall.1.1)
      fun _ _ => rfl
    cases hlive
  case h_4 =>
    cases hdone
    exact commits_delete h hcall.1
  case h_5 =>
    cases hdone
    exact commits_activate h hcall.1 hcall.2.1 hcall.2.2
  case h_6 => cases hdone

/-- A step that leaves the rows, and locks no row but an available one. -/
theorem stepped_of_rows (h : Tables packages s.sets s.accepted) (hsets : s'.sets = s.sets)
    (haccepted : s'.accepted = s.accepted)
    (hholders : ∀ j, j ≠ i → ∀ id, s.holders id = some j → s'.holders id = some j)
    (hsound : call'.Sound packages s' i)
    (hcrossed : ∀ j, j ≠ i → ∀ other : PolicyCall, other.Sound packages s j →
      Crossed call other → Crossed call' other) :
    Stepped packages s s' i call call' where
  tables := by rw [hsets, haccepted]; exact h
  sound := hsound
  held := fun j hj p hp => ⟨hsets ▸ hp.1, hholders j hj _ hp.2⟩
  activated := fun id p hp hlive => .inl ⟨p, hsets ▸ hp, hlive, rfl⟩
  crossed := hcrossed

variable [DecidableEq ι]

theorem stepped_rollback (h : Tables packages s.sets s.accepted) (failure : PolicyFailure) :
    Stepped packages s (rollback s i failure).1 i call (rollback s i failure).2 :=
  stepped_of_rows h rfl rfl (fun _ hj _ hheld => Holders.release_held hj hheld) trivial
    fun _ _ _ _ _ => trivial

theorem stepped_locate (h : Tables packages s.sets s.accepted) {command : PolicyCommand}
    (hgood : ∀ policies ∈ command.policies, Good packages policies)
    (hstep : locate s i command = some (s', call')) :
    Stepped packages s s' i (.locating command) call' := by
  have hset : ∀ organizationId id, locateSet s i command organizationId id = some (s', call') →
      Stepped packages s s' i (.locating command) call' := by
    intro organizationId id hset
    unfold locateSet at hset
    split at hset
    case h_1 target htarget =>
      simp only [Option.ite_none_right_eq_some, Option.some.injEq, Prod.mk.injEq] at hset
      obtain ⟨havailable, rfl, rfl⟩ := hset
      have hrow := (Option.filter_eq_some_iff.mp htarget).1
      have hid := h.keyed id target hrow
      exact stepped_of_rows h rfl rfl
        (fun j _ id' hheld => Holders.take_held havailable hheld)
        ⟨⟨hid.symm ▸ hrow, hid.symm ▸ Holders.take_self⟩, hgood⟩ fun _ _ _ _ _ => trivial
    case h_2 =>
      cases hset
      exact stepped_of_rows h rfl rfl (fun _ _ _ hheld => hheld) trivial fun _ _ _ _ _ => trivial
  cases command with
  | create organizationId id name policies policyType description createdBy now =>
      simp only [locate, Option.some.injEq, Prod.mk.injEq] at hstep
      obtain ⟨rfl, rfl⟩ := hstep
      refine stepped_of_rows h rfl rfl (fun _ _ _ hheld => hheld) ?_ fun _ _ _ _ _ => ?_
      · split
        · exact ⟨rfl, rfl, hgood policies rfl⟩
        · trivial
      · split <;> trivial
  | update organizationId id => exact hset organizationId id hstep
  | archive organizationId id => exact hset organizationId id hstep
  | activate organizationId id => exact hset organizationId id hstep
  | delete organizationId id => exact hset organizationId id hstep

theorem mem_setIds {sets : PolicySetTable} {organizationId id : String} {p : PolicySet}
    (hp : sets.get id = some p) (horg : p.organizationId = organizationId) :
    id ∈ setIds sets organizationId := by
  refine List.mem_filter.mpr ⟨BTreeMap.mem_keys .. |>.mpr (by rw [hp]; rfl), ?_⟩
  simp [hp, horg]

/-- **The later statement** for all sets sees the target of every other activation. -/
theorem stepped_gather (h : Tables packages s.sets s.accepted) {target : PolicySet}
    {now : DateTime} (hheld : Held s i target) :
    Stepped packages s (gather packages s i target now).1 i call
      (gather packages s i target now).2 := by
  unfold gather
  split
  case h_1 =>
    refine stepped_of_rows h rfl rfl (fun _ _ _ hheld => hheld)
      ⟨hheld, List.forall_mem_nil _, fun id p hp horg _ => .inl (mem_setIds hp horg)⟩
      fun j _ other hother _ => ?_
    cases other with
    | gathering target' now' pending' gathered' =>
        exact fun horg => .inl (.inl (mem_setIds hother.1.1 horg.symm))
    | _ => trivial
  case h_2 => exact stepped_rollback h _

/-- A row that is gone is the target of no activation. -/
theorem stepped_lockNext (h : Tables packages s.sets s.accepted) {target : PolicySet}
    {now : DateTime} {pending : List String} {gathered : List PolicySet} {id : String}
    (hcall : (PolicyCall.gathering target now pending gathered).Sound packages s i)
    (hstep : lockNext s i target now pending gathered id = some (s', call')) :
    Stepped packages s s' i (.gathering target now pending gathered) call' := by
  obtain ⟨hheld, hgathered, hcovered⟩ := hcall
  simp only [lockNext, Option.ite_none_right_eq_some, Option.some.injEq] at hstep
  obtain ⟨⟨hpending, havailable⟩, hstep⟩ := hstep
  have htake : ∀ j p, Held s j p → Held { s with holders := s.holders.take i id } j p :=
    fun j p hp => ⟨hp.1, Holders.take_held havailable hp.2⟩
  -- a row that is there is still to be locked, or was locked
  have hsees : ∀ rest, (∀ q, s.sets.get id = some q → q ∈ rest) → (∀ q ∈ gathered, q ∈ rest) →
      ∀ id' p, s.sets.get id' = some p → Sees pending gathered id' →
        Sees (pending.filter (· ≠ id)) rest id' := by
    intro rest hlocked hrest id' p hp hsees
    by_cases heq : id' = id
    · subst heq
      exact .inr (List.mem_map.mpr ⟨p, hlocked p hp, h.keyed id' p hp⟩)
    · rcases hsees with hleft | hdone
      · exact .inl (List.mem_filter.mpr ⟨hleft, by simpa using heq⟩)
      · obtain ⟨q, hq, rfl⟩ := List.mem_map.mp hdone
        exact .inr (List.mem_map_of_mem (hrest q hq))
  have hcrossed : ∀ rest, (∀ q, s.sets.get id = some q → q ∈ rest) → (∀ q ∈ gathered, q ∈ rest) →
      ∀ j, j ≠ i → ∀ other : PolicyCall, other.Sound packages s j →
        Crossed (.gathering target now pending gathered) other →
          Crossed (.gathering target now (pending.filter (· ≠ id)) rest) other := by
    intro rest hlocked hrest j _ other hother hcrossed
    cases other with
    | gathering target' now' pending' gathered' =>
        exact fun horg => (hcrossed horg).imp_left (hsees rest hlocked hrest _ _ hother.1.1)
    | _ => trivial
  split at hstep
  case h_1 row hrow =>
    cases hstep
    have hid := h.keyed id row hrow
    have hlocked : ∀ q, s.sets.get id = some q → q ∈ row :: gathered := fun q hq => by
      rw [hrow, Option.some.injEq] at hq
      exact hq ▸ List.mem_cons_self
    have hrest : ∀ q ∈ gathered, q ∈ row :: gathered := fun q hq => List.mem_cons_of_mem _ hq
    refine stepped_of_rows h rfl rfl (fun j _ id' => Holders.take_held havailable)
      ⟨htake i target hheld, List.forall_mem_cons.mpr ⟨⟨hid.symm ▸ hrow,
        hid.symm ▸ Holders.take_self⟩, fun p hp => htake i p (hgathered p hp)⟩, ?_⟩
      (hcrossed _ hlocked hrest)
    exact fun id' p hp horg hlive => hsees _ hlocked hrest id' p hp (hcovered id' p hp horg hlive)
  case h_2 hnone =>
    cases hstep
    have hlocked : ∀ q, s.sets.get id = some q → q ∈ gathered := fun q hq => by
      rw [hnone] at hq
      cases hq
    refine stepped_of_rows h rfl rfl (fun _ _ _ hheld => hheld) ⟨hheld, hgathered, ?_⟩
      (hcrossed _ hlocked fun q hq => hq)
    exact fun id' p hp horg hlive =>
      hsees _ hlocked (fun q hq => hq) id' p hp (hcovered id' p hp horg hlive)

theorem stepped_commit {sets : PolicySetTable} {accepted : AcceptedPolicies}
    (h : Commits packages s i call sets accepted)
    (answer : Except PolicyFailure (Option PolicySet)) :
    Stepped packages s
      { s with sets := sets, accepted := accepted, holders := s.holders.release i } i call
      (.done answer) where
  tables := h.tables
  sound := trivial
  held := fun _ hj p hp => ⟨h.unheld _ p hp.1 fun heq => hj (Option.some.inj (hp.2.symm.trans heq)),
    Holders.release_held hj hp.2⟩
  activated := h.activated
  crossed := fun _ _ _ _ _ => trivial

/-- The documents of a command read back as they are written. -/
def PolicyInput.ReadsBack (packages : PolicyPackages) : PolicyInput → Prop
  | .start command => ∀ policies ∈ command.policies,
      packages.parseDocuments (serializePolicyDocuments policies) = some policies
  | _ => True

omit [DecidableEq ι] in
theorem startCommand_sound {command : PolicyCommand}
    (hreads : (PolicyInput.start command).ReadsBack packages) :
    (startCommand packages command).Sound packages s i := by
  unfold startCommand
  split
  case isTrue => trivial
  case isFalse =>
    split
    case h_1 hvalid =>
      intro policies hpolicies
      rw [Option.mem_def] at hpolicies
      rw [hpolicies] at hvalid
      exact ⟨by rw [deserializePolicyDocuments, hreads policies hpolicies]; rfl, hvalid⟩
    case h_2 => trivial

theorem startCommand_crossed {command : PolicyCommand} :
    Crossed (startCommand packages command) other := by
  unfold startCommand
  split
  case isTrue => trivial
  case isFalse => split <;> trivial

/-- **One step** of a transaction. -/
theorem policyStep_stepped (h : Tables packages s.sets s.accepted)
    (hcall : call.Sound packages s i) {input : PolicyInput} (hreads : input.ReadsBack packages)
    (hstep : policyStep packages i s call input = some (s', call')) :
    Stepped packages s s' i call call' := by
  unfold policyStep at hstep
  split at hstep
  case h_1 command =>
    cases hstep
    exact stepped_of_rows h rfl rfl (fun _ _ _ hheld => hheld) (startCommand_sound hreads)
      fun _ _ _ _ _ => startCommand_crossed
  case h_2 => exact stepped_locate h hcall hstep
  case h_3 organizationId id now target =>
    rw [Option.some.injEq] at hstep
    have hs : (gather packages s i target now).1 = s' := congrArg Prod.fst hstep
    have hcall' : (gather packages s i target now).2 = call' := congrArg Prod.snd hstep
    exact hs ▸ hcall' ▸ stepped_gather h hcall.1
  case h_4 => exact stepped_lockNext h hcall hstep
  case h_5 => cases hstep
  case h_6 => cases hstep
  case h_7 =>
    cases hstep
    exact stepped_rollback h .store
  case h_8 =>
    obtain ⟨result, hdone, heq⟩ := Option.map_eq_some_iff.mp hstep
    cases heq
    exact stepped_commit (commits_of_committed h hcall hdone) _
  case h_9 => cases hstep

/-! ## Every run -/

/-- The rows, and what the transactions hold and have read of them. -/
structure Consistent (packages : PolicyPackages) (c : Config (PolicyStore ι) ι PolicyCall) :
    Prop where
  tables : Tables packages c.store.sets c.store.accepted
  sound : ∀ i, (c.calls i).Sound packages c.store i
  crossed : ∀ i j, i ≠ j → Crossed (c.calls i) (c.calls j)

variable {c c' : Config (PolicyStore ι) ι PolicyCall}

/-- **One step** keeps the whole. -/
theorem Consistent.step (h : Consistent packages c) {input : PolicyInput}
    (hreads : input.ReadsBack packages)
    (hnext : (policyMachine packages ι).next c i input = some c') : Consistent packages c' := by
  obtain ⟨s', call', hstep, rfl⟩ := Machine.next_eq_some.mp hnext
  have hstepped := policyStep_stepped h.tables (h.sound i) hreads hstep
  have hcrossed : ∀ j, j ≠ i → Crossed call' (c.calls j) := fun j hj =>
    hstepped.crossed j hj _ (h.sound j) (h.crossed i j hj.symm)
  refine ⟨hstepped.tables, fun j => ?_, fun j k hjk => ?_⟩
  · by_cases heq : j = i
    · subst heq
      simpa using hstepped.sound
    · simp only [Function.update_of_ne heq]
      refine (h.sound j).frame (hstepped.held j heq) fun target now pending gathered hcall id p hp
        horg hlive => ?_
      have hsound := h.sound j
      rw [hcall] at hsound
      rcases hstepped.activated id p hp hlive with ⟨q, hq, hlive, hsame⟩ |
        ⟨activated, now', locked, hactivating, rfl, hsame⟩
      · exact hsound.2.2 id q hq (hsame.trans horg) hlive
      · have hcross := h.crossed i j (Ne.symm heq)
        have hactivated := h.sound i
        rw [hactivating] at hcross hactivated
        rw [hcall] at hcross
        rcases hcross (hsame.symm.trans horg) with (hpending | hlocked) | hsees
        · cases hpending
        · -- both would hold the target of this activation
          obtain ⟨q, hq, hid⟩ := List.mem_map.mp hlocked
          have hholder := (hactivated.2.1 q hq).2
          rw [hid, hsound.1.2] at hholder
          exact (heq (Option.some.inj hholder)).elim
        · exact hsees
  · by_cases hj : j = i
    · subst hj
      simpa [hjk.symm] using hcrossed k hjk.symm
    · by_cases hk : k = i
      · subst hk
        simpa [hj] using (hcrossed j hj).symm
      · simpa [hj, hk] using h.crossed j k hjk

/-- **One set of a type is in force** in an organization, and the documents of every set are the
valid ones that were accepted last for it, whatever transactions interleave and wherever they
stop. -/
theorem policy_sets_in_force (h : Tables packages c.store.sets c.store.accepted)
    (hidle : ∀ i, c.calls i = .idle) {t : List (ι × PolicyInput)}
    (hreads : ∀ a ∈ t, a.2.ReadsBack packages)
    (hrun : (policyMachine packages ι).run c t = some c') :
    OneActive c'.store.sets ∧ ∀ id p, c'.store.sets.get id = some p →
      p.id = id ∧ Documented packages c'.store.accepted p := by
  have hstart : Consistent packages c :=
    ⟨h, fun i => by rw [hidle i]; trivial, fun i j _ => by rw [hidle i]; trivial⟩
  have hguarded : (policyMachine packages ι).Guarded (fun _ _ input => input.ReadsBack packages)
      c t := Machine.guarded_of_forall hreads
  have hend := Machine.guarded_induct (P := Consistent packages)
    (fun _ _ _ _ hP hreads hnext => hP.step hreads hnext) hstart hguarded hrun
  exact ⟨hend.tables.one, fun id p hp => ⟨hend.tables.keyed id p hp, hend.tables.documents id p hp⟩⟩

end

namespace InForce

def reads : CedarPolicyDocument :=
  ⟨"reads", "permit", "permit(principal, action == read, resource);", none, true⟩

def writes : CedarPolicyDocument :=
  ⟨"writes", "forbid", "forbid(principal, action == write, resource);", none, true⟩

def packages : PolicyPackages where
  parseDocuments := fun text =>
    [[reads], [writes]].find? fun policies => decide (serializePolicyDocuments policies = text)
  legacyEffect := fun _ => none
  statesEffect := fun _ _ => true
  validatePolicySource := fun _ => none

def start : Config (PolicyStore Nat) Nat PolicyCall :=
  ⟨⟨["org"], .empty, fun _ => none, .empty⟩, fun _ => .idle⟩

def create (id : String) (policy : CedarPolicyDocument) : PolicyInput :=
  .start (.create "org" id "Set" [policy] .accessControl none none 1)

/-- Two activations cross, and one of them is aborted; then the other set is activated, and gets
new documents. -/
def activations : List (Nat × PolicyInput) :=
  [(0, create "a" reads), (0, .locate), (0, .commit true),
    (1, create "b" writes), (1, .locate), (1, .commit true),
    (2, .start (.activate "org" "a" 2)), (3, .start (.activate "org" "b" 2)),
    (2, .locate), (3, .locate), (2, .gather), (3, .gather), (2, .lock "a"), (3, .lock "b"),
    (3, .abort), (2, .lock "b"), (2, .commit true),
    (4, .start (.activate "org" "b" 3)), (4, .locate), (4, .gather), (4, .lock "a"),
    (4, .lock "b"), (4, .commit false),
    (5, .start (.update "org" "b" ⟨none, none, some [reads]⟩ 4)), (5, .locate), (5, .commit true)]

def activationsRun :
    {c' // (policyMachine packages Nat).run start activations = some c' ∧
      (c'.store.sets.get "a").map (·.status) = some .archived ∧
      (c'.store.sets.get "b").map (·.status) = some .active ∧
      c'.store.accepted.get "b" = some [reads]} :=
  (policyMachine packages Nat).observed (by decide +kernel)

theorem read_written : ∀ policies ∈ [[reads], [writes]],
    packages.parseDocuments (serializePolicyDocuments policies) = some policies := by
  decide +kernel

theorem activations_readBack : ∀ a ∈ activations, a.2.ReadsBack packages := by
  have hreads := read_written [reads] List.mem_cons_self
  have hwrites := read_written [writes] (by simp)
  simp [activations, create, PolicyInput.ReadsBack, PolicyCommand.policies, hreads, hwrites]

theorem start_tables : Tables packages start.store.sets start.store.accepted where
  keyed := fun _ _ h => by cases h
  one := fun _ _ _ _ h => by cases h
  documents := fun _ _ h => by cases h

end InForce

open InForce in
theorem policy_sets_in_force_activations :
    ∃ c', (policyMachine packages Nat).run start activations = some c' ∧
      (c'.store.sets.get "a").map (·.status) = some .archived ∧
      (c'.store.sets.get "b").map (·.status) = some .active ∧
      c'.store.accepted.get "b" = some [reads] ∧ OneActive c'.store.sets ∧
      ∀ id p, c'.store.sets.get id = some p → p.id = id ∧
        Documented packages c'.store.accepted p := by
  obtain ⟨hrun, hold, hnew, haccepted⟩ := activationsRun.2
  obtain ⟨hone, hrows⟩ :=
    policy_sets_in_force start_tables (fun _ => rfl) activations_readBack hrun
  exact ⟨activationsRun, hrun, hold, hnew, haccepted, hone, hrows⟩

end Marty.Organization
