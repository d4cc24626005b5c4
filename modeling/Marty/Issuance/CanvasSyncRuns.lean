import Mathlib.Logic.Relation
import Mathlib.Data.List.Infix
import Marty.Issuance.CanvasSyncWorker

/-!
# Leases of synchronization jobs along runs

Every step of a worker is a sequence of changes, and a change rewrites one job: it enqueues,
leases, renews, completes, fails or recovers it, each under its own condition.  What holds of
the tables is proved for one change, and what a step does is read off the operations once.

## Main definitions

* `RowSound`, `Sound` — what holds of a job and of the tables in every state.
* `Continues` — what later states keep of earlier ones.
* `Change`, `Changes` — what a worker does to the tables, and when.

## Main results

* `leased_exclusively` — soundness along every run, with the changes that the next step makes.
-/

namespace Marty.Issuance.CanvasSync

open Lib Lib.Checked Lib.Table

variable {ι : Type*}

/-! ## Soundness -/

def CanvasSyncJobStatus.IsTerminal (status : CanvasSyncJobStatus) : Prop :=
  status = .succeeded ∨ status = .deadLetter

/-- The row is in the attempt that the handout is of. -/
structure Current (h : Handout ι) (row : JobRow) : Prop where
  id : h.job.id = row.id
  organizationId : h.job.organizationId = row.organizationId
  targetId : h.job.targetId = row.targetId
  attemptCount : h.job.attemptCount = row.attemptCount
  maxAttempts : h.job.maxAttempts = row.maxAttempts
  leaseOwner : h.job.leaseOwner = row.leaseOwner
  recorded : recordedConfigVersion row.result = .ok (some h.job.targetConfigVersion)

/-- The numbers of the attempts of a job that have been handed out, in their order. -/
def attemptsOf (handouts : List (Handout ι)) (id : String) : List Nat :=
  (handouts.filter fun h => h.job.id == id).map (·.job.attemptCount)

structure RowSound (handouts : List (Handout ι)) (row : JobRow) : Prop where
  attempts_le : row.attemptCount ≤ row.maxAttempts
  /-- Each attempt so far has been handed out once. -/
  handed_once : attemptsOf handouts row.id = List.range' 1 row.attemptCount
  completed_iff : row.completedAt.isSome ↔ row.status.IsTerminal
  waiting : row.status ≠ .leased → ¬ row.status.IsTerminal →
    (row.status = .queued ∨ row.status = .retry) ∧ row.attemptCount < row.maxAttempts
  leased : row.status = .leased → ∃ h ∈ handouts, Current h row

structure Sound (s : Store ι) : Prop where
  job_ids : (s.tables.jobs.map (·.id)).Nodup
  target_ids : (s.tables.targets.map (·.id)).Nodup
  rows : ∀ row ∈ s.tables.jobs, RowSound s.handouts row
  handed : ∀ h ∈ s.handouts, ∃ row ∈ s.tables.jobs, row.id = h.job.id

/-- A job that is neither terminal nor leased can be leased as soon as it is available. -/
theorem RowSound.ready {handouts : List (Handout ι)} {row : JobRow}
    (h : RowSound handouts row) (hleased : row.status ≠ .leased)
    (hopen : ¬ row.status.IsTerminal) {now : DateTime} (hnow : row.availableAt ≤ now) :
    row.ready now = true := by
  obtain ⟨hstatus, hattempts⟩ := h.waiting hleased hopen
  simp only [JobRow.ready, Bool.and_eq_true, Bool.or_eq_true, beq_iff_eq, decide_eq_true_eq]
  exact ⟨⟨hstatus, hnow⟩, hattempts⟩

/-- Later states keep what was handed out, and every job with its outcome. -/
structure Continues (s s' : Store ι) : Prop where
  handouts : s.handouts <+: s'.handouts
  rows : ∀ row ∈ s.tables.jobs, ∃ row' ∈ s'.tables.jobs, row'.id = row.id ∧
    row'.organizationId = row.organizationId ∧ row'.targetId = row.targetId ∧
    row.attemptCount ≤ row'.attemptCount ∧ (row.status.IsTerminal → row' = row)

theorem Continues.refl (s : Store ι) : Continues s s :=
  ⟨List.prefix_refl _, fun row h => ⟨row, h, rfl, rfl, rfl, le_refl _, fun _ => rfl⟩⟩

theorem Continues.trans {s₁ s₂ s₃ : Store ι} (h : Continues s₁ s₂) (h' : Continues s₂ s₃) :
    Continues s₁ s₃ := by
  refine ⟨h.handouts.trans h'.handouts, fun row hrow => ?_⟩
  obtain ⟨row₂, h₂, hid, horg, htarget, hattempts, hterminal⟩ := h.rows row hrow
  obtain ⟨row₃, h₃, hid', horg', htarget', hattempts', hterminal'⟩ := h'.rows row₂ h₂
  refine ⟨row₃, h₃, hid'.trans hid, horg'.trans horg, htarget'.trans htarget,
    hattempts.trans hattempts', fun hstatus => ?_⟩
  have hsame := hterminal hstatus
  rw [hterminal' (hsame ▸ hstatus), hsame]

/-- One attempt of a job is handed out once. -/
theorem Sound.handout_unique {s : Store ι} (hs : Sound s) {h h' : Handout ι}
    (hh : h ∈ s.handouts) (hh' : h' ∈ s.handouts) (hid : h.job.id = h'.job.id)
    (hattempt : h.job.attemptCount = h'.job.attemptCount) : h = h' := by
  obtain ⟨row, hrow, hrowid⟩ := hs.handed h hh
  have honce := (hs.rows row hrow).handed_once
  have hnodup : (attemptsOf s.handouts row.id).Nodup := honce ▸ List.nodup_range'
  refine List.inj_on_of_nodup_map hnodup ?_ ?_ hattempt
  · simp [hh, hrowid]
  · simp [hh', hrowid, hid]

/-! ## Changes -/

/-- The holder of the row may write it at this moment. -/
structure Holds (i : ι) (s : Store ι) (h : Handout ι) (row : JobRow) (now : DateTime) : Prop where
  handed : h ∈ s.handouts
  holder : h.holder = i
  current : Current h row
  leased : row.status = .leased
  unexpired : ∃ expires, row.leaseExpiresAt = some expires ∧ now < expires

/-- The lease of the row has expired, and the handout is the one that it was leased by. -/
structure Expired (s : Store ι) (h : Handout ι) (row : JobRow) (now : DateTime) : Prop where
  handed : h ∈ s.handouts
  current : Current h row
  leased : row.status = .leased
  expired : ∃ expires, row.leaseExpiresAt = some expires ∧ expires ≤ now

/-- The target of the handout is rewritten by `f` when it still has the configuration that
the lease had recorded; otherwise no target is. -/
def TargetChange (h : Handout ι) (f : TargetRow → TargetRow) (targets targets' : List TargetRow) :
    Prop :=
  targets' = targets ∨ ∃ row, row.id = h.job.targetId ∧
    row.organizationId = h.job.organizationId ∧ row.configVersion = h.job.targetConfigVersion ∧
    Replaces targets row (f row) targets'

/-- A target with another schedule or heartbeat. -/
structure SameConfiguration (row row' : TargetRow) : Prop where
  id : row'.id = row.id
  organizationId : row'.organizationId = row.organizationId
  enabled : row'.enabled = row.enabled
  configVersion : row'.configVersion = row.configVersion
  lastSucceededAt : row'.lastSucceededAt = row.lastSucceededAt

/-- **What worker `i` does to the tables**: each change with the condition it is made under. -/
inductive Change (i : ι) : Store ι → Store ι → Prop
  | enqueued {s : Store ι} {id organizationId targetId : String} {now : DateTime}
      (hfresh : ∀ row ∈ s.tables.jobs, row.id ≠ id)
      (hone : ∀ row ∈ s.tables.jobs, row.targetId = targetId → row.status.isOpen = false) :
      Change i s { s with
        tables.jobs := s.tables.jobs ++ [newJob id organizationId targetId now] }
  | scheduled {s : Store ι} {row row' : TargetRow} {targets : List TargetRow}
      (hsame : SameConfiguration row row') (hrep : Replaces s.tables.targets row row' targets) :
      Change i s { s with tables.targets := targets }
  | leased {s : Store ι} {row : JobRow} {jobs : List JobRow} {job : CanvasSyncJob}
      {workerId : String} {expires now : DateTime}
      (hready : row.ready now = true)
      (hrep : Replaces s.tables.jobs row
        (row.leasedBy workerId expires now (currentConfigVersion s.tables.targets row)) jobs)
      (hjob : jobFromRow (row.leasedBy workerId expires now
        (currentConfigVersion s.tables.targets row)) = .ok job) :
      Change i s ⟨{ s.tables with jobs := jobs }, s.handouts ++ [⟨i, job⟩]⟩
  | renewed {s : Store ι} {h : Handout ι} {row : JobRow} {jobs : List JobRow}
      {expires now : DateTime} (hholds : Holds i s h row now)
      (hrep : Replaces s.tables.jobs row
        { row with leaseExpiresAt := some expires, updatedAt := now } jobs) :
      Change i s { s with tables.jobs := jobs }
  | completed {s : Store ι} {h : Handout ι} {row : JobRow} {jobs : List JobRow}
      {targets : List TargetRow} {result : Json.Map} {now now' : DateTime}
      (hholds : Holds i s h row now)
      (hrep : Replaces s.tables.jobs row (row.completed result now) jobs)
      (htarget : TargetChange h (TargetRow.succeeded now') s.tables.targets targets) :
      Change i s { s with tables := ⟨jobs, targets⟩ }
  | retried {s : Store ι} {h : Handout ι} {row : JobRow} {jobs : List JobRow}
      {failure : JobFailure} {delay : Nat} {now : DateTime}
      (hholds : Holds i s h row now) (hattempts : row.attemptCount < row.maxAttempts)
      (hrep : Replaces s.tables.jobs row (row.failed failure false delay now) jobs) :
      Change i s { s with tables.jobs := jobs }
  | deadLettered {s : Store ι} {h : Handout ι} {row : JobRow} {jobs : List JobRow}
      {targets : List TargetRow} {failure : JobFailure} {delay : Nat} {now now' : DateTime}
      (hholds : Holds i s h row now)
      (hrep : Replaces s.tables.jobs row (row.failed failure true delay now) jobs)
      (htarget : TargetChange h (TargetRow.disabled now') s.tables.targets targets) :
      Change i s { s with tables := ⟨jobs, targets⟩ }
  | expiredFinally {s : Store ι} {h : Handout ι} {row : JobRow} {jobs : List JobRow}
      {targets : List TargetRow} {now now' : DateTime} (hexpired : Expired s h row now)
      (hattempts : row.maxAttempts ≤ row.attemptCount)
      (hrep : Replaces s.tables.jobs row (row.expiredFinally now) jobs)
      (htarget : TargetChange h (TargetRow.disabled now') s.tables.targets targets) :
      Change i s { s with tables := ⟨jobs, targets⟩ }
  | expiredForRetry {s : Store ι} {h : Handout ι} {row : JobRow} {jobs : List JobRow}
      {delay : Nat} {now : DateTime} (hexpired : Expired s h row now)
      (hattempts : row.attemptCount < row.maxAttempts)
      (hrep : Replaces s.tables.jobs row (row.expiredForRetry now delay) jobs) :
      Change i s { s with tables.jobs := jobs }
  /-- Another part of the service has written a target. -/
  | configured {s : Store ι} (target : TargetRow) :
      Change i s { s with tables.targets := configured target s.tables.targets }

abbrev Changes (i : ι) : Store ι → Store ι → Prop := Relation.ReflTransGen (Change i)

/-! ## One change -/

theorem RowSound.append {handouts : List (Handout ι)} {row : JobRow} {new : Handout ι}
    (h : RowSound handouts row) (hne : new.job.id ≠ row.id) : RowSound (handouts ++ [new]) row := by
  refine { h with handed_once := ?_, leased := ?_ }
  · rw [← h.handed_once, attemptsOf, List.filter_append]
    simp [attemptsOf, hne]
  · intro hleased
    obtain ⟨old, hold, hcurrent⟩ := h.leased hleased
    exact ⟨old, List.mem_append_left _ hold, hcurrent⟩

theorem Sound.replaced {s : Store ι} {row row' : JobRow} {jobs : List JobRow}
    {targets : List TargetRow} (hs : Sound s) (hrep : Replaces s.tables.jobs row row' jobs)
    (hid : row'.id = row.id) (hrow : RowSound s.handouts row')
    (htargets : (targets.map (·.id)).Nodup) :
    Sound { s with tables := ⟨jobs, targets⟩ } where
  job_ids := (hrep.map_key hid).symm ▸ hs.job_ids
  target_ids := htargets
  rows := hrep.forall hs.rows hrow
  handed := by
    intro h hh
    obtain ⟨r, hr, hrid⟩ := hs.handed h hh
    by_cases heq : r = row
    · exact ⟨row', hrep.new_mem, by rw [hid, ← heq, hrid]⟩
    · exact ⟨r, hrep.mem_of_ne hr heq, hrid⟩

theorem Continues.replaced {s s' : Store ι} {row row' : JobRow}
    (hrep : Replaces s.tables.jobs row row' s'.tables.jobs)
    (hhandouts : s.handouts <+: s'.handouts) (hid : row'.id = row.id)
    (horg : row'.organizationId = row.organizationId) (htarget : row'.targetId = row.targetId)
    (hattempts : row.attemptCount ≤ row'.attemptCount) (hopen : ¬ row.status.IsTerminal) :
    Continues s s' := by
  refine ⟨hhandouts, fun r hr => ?_⟩
  by_cases heq : r = row
  · subst heq
    exact ⟨row', hrep.new_mem, hid, horg, htarget, hattempts, fun h => absurd h hopen⟩
  · exact ⟨r, hrep.mem_of_ne hr heq, rfl, rfl, rfl, le_refl _, fun _ => rfl⟩

theorem TargetChange.nodup {h : Handout ι} {f : TargetRow → TargetRow}
    {targets targets' : List TargetRow} (hchange : TargetChange h f targets targets')
    (hf : ∀ row, (f row).id = row.id) (hnodup : (targets.map (·.id)).Nodup) :
    (targets'.map (·.id)).Nodup := by
  obtain rfl | ⟨row, -, -, -, hrep⟩ := hchange
  · exact hnodup
  · exact (hrep.map_key (hf row)).symm ▸ hnodup

theorem not_terminal_of_leased {row : JobRow} (h : row.status = .leased) :
    ¬ row.status.IsTerminal := by
  rw [h]
  rintro (h | h) <;> cases h

theorem not_terminal_of_ready {row : JobRow} {now : DateTime} (h : row.ready now = true) :
    ¬ row.status.IsTerminal := by
  simp only [JobRow.ready, Bool.and_eq_true, Bool.or_eq_true, beq_iff_eq] at h
  obtain ⟨⟨hstatus | hstatus, -⟩, -⟩ := h <;> rw [hstatus] <;> rintro (h | h) <;> cases h

theorem recorded_insert (result : Json.Map) (version : Int) :
    recordedConfigVersion (result.insert targetConfigVersionKey (.ofInt version)) =
      .ok (some version) := by
  have hget : (result.insert targetConfigVersionKey (.ofInt version)).get targetConfigVersionKey =
      some (.ofInt version) := by rw [Json.Map.get_insert, if_pos rfl]
  have hread := Json.Value.asInteger_ofInt version
  rw [recordedConfigVersion, hget]
  simp only [Json.Value.ofInt] at hread ⊢
  rw [hread]
  rfl

/-- The job that a lease returns is the row that it has written. -/
theorem jobFromRow_leasedBy (workerId : String) (expires now : DateTime) (version : Int)
    (row : JobRow) : jobFromRow (row.leasedBy workerId expires now version) = .ok
      { id := row.id
        organizationId := row.organizationId
        targetId := row.targetId
        targetConfigVersion := version
        status := .leased
        attemptCount := row.attemptCount + 1
        maxAttempts := row.maxAttempts
        availableAt := row.availableAt
        leaseOwner := some workerId
        leaseExpiresAt := some expires
        createdAt := row.createdAt
        startedAt := some (row.startedAt.getD now) } := by
  have hrecorded := recorded_insert row.result version
  simp only [jobFromRow, JobRow.leasedBy, hrecorded]
  rfl

theorem RowSound.leasedBy {handouts : List (Handout ι)} {row : JobRow} {job : CanvasSyncJob}
    {now expires : DateTime} {workerId : String} {version : Int} (i : ι)
    (h : RowSound handouts row) (hready : row.ready now = true)
    (hjob : jobFromRow (row.leasedBy workerId expires now version) = .ok job) :
    RowSound (handouts ++ [⟨i, job⟩]) (row.leasedBy workerId expires now version) := by
  rw [jobFromRow_leasedBy, Except.ok.injEq] at hjob
  subst hjob
  have hopen := not_terminal_of_ready hready
  simp only [JobRow.ready, Bool.and_eq_true, decide_eq_true_eq] at hready
  refine ⟨hready.2, ?_, ?_, ?_, ?_⟩
  · have hbefore := h.handed_once
    rw [attemptsOf] at hbefore
    simp only [attemptsOf, JobRow.leasedBy, List.filter_append, List.map_append, hbefore]
    rw [List.range'_concat]
    simp [Nat.add_comm]
  · have hnone : ¬ row.completedAt.isSome := fun hsome => hopen (h.completed_iff.mp hsome)
    refine ⟨fun hsome => absurd hsome hnone, ?_⟩
    rintro (h | h) <;> cases h
  · exact fun hne => absurd rfl hne
  · intro _
    exact ⟨_, List.mem_append_right _ List.mem_cons_self, rfl, rfl, rfl, rfl, rfl, rfl,
      recorded_insert row.result version⟩

/-- A row whose lease is over, with its attempts and its outcome accounted for. -/
theorem RowSound.released {handouts : List (Handout ι)} {row row' : JobRow}
    (h : RowSound handouts row) (hid : row'.id = row.id)
    (hattempt : row'.attemptCount = row.attemptCount) (hmax : row'.attemptCount ≤ row'.maxAttempts)
    (hcompleted : row'.completedAt.isSome ↔ row'.status.IsTerminal)
    (hstatus : row'.status.IsTerminal ∨
      row'.status = .retry ∧ row'.attemptCount < row'.maxAttempts) :
    RowSound handouts row' := by
  refine ⟨hmax, by rw [hid, hattempt, h.handed_once], hcompleted, ?_, ?_⟩
  · intro _ hopen
    obtain hterminal | ⟨hretry, hless⟩ := hstatus
    · exact absurd hterminal hopen
    · exact ⟨.inr hretry, hless⟩
  · intro hleased
    obtain hterminal | ⟨hretry, -⟩ := hstatus
    · exact absurd hterminal (not_terminal_of_leased hleased)
    · rw [hretry] at hleased
      cases hleased

theorem newJob_not_terminal (id organizationId targetId : String) (now : DateTime) :
    ¬ (newJob id organizationId targetId now).status.IsTerminal := by
  rintro (h | h) <;> cases h

theorem Sound.enqueued {s : Store ι} (hs : Sound s) {id organizationId targetId : String}
    {now : DateTime} (hfresh : ∀ row ∈ s.tables.jobs, row.id ≠ id) :
    Sound { s with tables.jobs := s.tables.jobs ++ [newJob id organizationId targetId now] } := by
  have hnone : attemptsOf s.handouts id = [] := by
    rw [attemptsOf, List.map_eq_nil_iff, List.filter_eq_nil_iff]
    intro h hh heq
    obtain ⟨row, hrow, hrowid⟩ := hs.handed h hh
    exact hfresh row hrow (hrowid.trans (beq_iff_eq.mp heq))
  refine ⟨?_, hs.target_ids, ?_, ?_⟩
  · rw [List.map_append, List.nodup_append]
    refine ⟨hs.job_ids, by simp, ?_⟩
    intro a ha b hb
    obtain ⟨row, hrow, rfl⟩ := List.mem_map.mp ha
    rw [List.map_cons, List.map_nil, List.mem_singleton] at hb
    exact hb ▸ hfresh row hrow
  · intro row hrow
    obtain hrow | hrow := List.mem_append.mp hrow
    · exact hs.rows row hrow
    · rw [List.mem_singleton] at hrow
      subst hrow
      refine ⟨Nat.zero_le _, hnone, ?_, fun _ _ => ⟨.inl rfl, Nat.zero_lt_succ _⟩, nofun⟩
      exact ⟨nofun, fun h => absurd h (newJob_not_terminal _ _ _ _)⟩
  · intro h hh
    obtain ⟨row, hrow, hrowid⟩ := hs.handed h hh
    exact ⟨row, List.mem_append_left _ hrow, hrowid⟩

theorem nodup_configured {target : TargetRow} {targets : List TargetRow}
    (h : (targets.map (·.id)).Nodup) : ((configured target targets).map (·.id)).Nodup := by
  rw [configured]
  split
  · obtain hnone | ⟨old, -, hold, -, hrep⟩ := update_cases (f := fun _ => target)
      (p := fun row => row.id == target.id) h fun r hr => beq_iff_eq.mp hr
    · rwa [update_of_forall_not hnone]
    · exact (hrep.map_key (beq_iff_eq.mp hold).symm).symm ▸ h
  · rename_i hany
    rw [List.map_append, List.nodup_append]
    refine ⟨h, by simp, ?_⟩
    intro a ha b hb
    obtain ⟨row, hrow, rfl⟩ := List.mem_map.mp ha
    rw [List.map_cons, List.map_nil, List.mem_singleton] at hb
    intro heq
    exact hany (List.any_eq_true.mpr ⟨row, hrow, beq_iff_eq.mpr (heq.trans hb)⟩)

/-- **One change** keeps the tables sound, and every job with its outcome. -/
theorem Change.sound {i : ι} {s s' : Store ι} (hs : Sound s) (h : Change i s s') :
    Sound s' ∧ Continues s s' := by
  cases h with
  | enqueued hfresh hone =>
      refine ⟨hs.enqueued hfresh, List.prefix_refl _, fun row hrow => ?_⟩
      exact ⟨row, List.mem_append_left _ hrow, rfl, rfl, rfl, le_refl _, fun _ => rfl⟩
  | scheduled hsame hrep =>
      refine ⟨⟨hs.job_ids, (hrep.map_key hsame.id).symm ▸ hs.target_ids, hs.rows, hs.handed⟩, ?_⟩
      exact ⟨List.prefix_refl _, (Continues.refl s).rows⟩
  | @leased row jobs job workerId expires now hready hrep hjob =>
      have hsound := hs.rows row hrep.mem
      have hid : job.id = row.id := by
        rw [jobFromRow_leasedBy, Except.ok.injEq] at hjob
        rw [← hjob]
      refine ⟨⟨?_, hs.target_ids, ?_, ?_⟩,
        Continues.replaced hrep (List.prefix_append _ _) rfl rfl rfl (Nat.le_succ _)
          (not_terminal_of_ready hready)⟩
      · have hids : jobs.map (·.id) = s.tables.jobs.map (·.id) := hrep.map_key rfl
        exact hids.symm ▸ hs.job_ids
      · intro r hr
        obtain ⟨l₁, l₂, hold, hnew⟩ := hrep
        simp only at hr
        rw [hnew] at hr
        obtain rfl | hr : r = row.leasedBy workerId expires now _ ∨ r ∈ l₁ ++ l₂ := by
          simp only [List.mem_append, List.mem_cons] at hr ⊢
          tauto
        · exact hsound.leasedBy i hready hjob
        · refine (hs.rows r ?_).append ?_
          · rw [hold]
            simp only [List.mem_append, List.mem_cons] at hr ⊢
            tauto
          · rw [hid]
            intro heq
            have hnodup := hs.job_ids
            rw [hold, List.map_append, List.map_cons, List.nodup_middle, ← List.map_append,
              List.nodup_cons] at hnodup
            exact hnodup.1 (heq ▸ List.mem_map_of_mem hr)
      · intro h hh
        obtain hh | hh := List.mem_append.mp hh
        · obtain ⟨r, hr, hrid⟩ := hs.handed h hh
          by_cases heq : r = row
          · exact ⟨_, hrep.new_mem, by rw [← hrid, heq]; rfl⟩
          · exact ⟨r, hrep.mem_of_ne hr heq, hrid⟩
        · rw [List.mem_singleton] at hh
          exact ⟨_, hrep.new_mem, by rw [hh, hid]; rfl⟩
  | @renewed h row jobs expires now hholds hrep =>
      have hsound := hs.rows row hrep.mem
      refine ⟨hs.replaced hrep rfl ?_ hs.target_ids, Continues.replaced hrep (List.prefix_refl _) rfl rfl rfl
        (le_refl _) (not_terminal_of_leased hholds.leased)⟩
      refine { hsound with leased := fun _ => ⟨h, hholds.handed, ?_⟩ }
      exact { hholds.current with }
  | @completed h row jobs targets result now now' hholds hrep htarget =>
      refine ⟨hs.replaced hrep rfl ?_ (htarget.nodup (fun _ => rfl) hs.target_ids),
        Continues.replaced hrep (List.prefix_refl _) rfl rfl rfl (le_refl _)
          (not_terminal_of_leased hholds.leased)⟩
      have hsound := hs.rows row hrep.mem
      exact hsound.released rfl rfl hsound.attempts_le ⟨fun _ => .inl rfl, fun _ => rfl⟩
        (.inl (.inl rfl))
  | @retried h row jobs failure delay now hholds hattempts hrep =>
      refine ⟨hs.replaced hrep rfl ?_ hs.target_ids, Continues.replaced hrep (List.prefix_refl _) rfl rfl rfl
        (le_refl _) (not_terminal_of_leased hholds.leased)⟩
      refine (hs.rows row hrep.mem).released rfl rfl hattempts.le ?_ (.inr ⟨rfl, hattempts⟩)
      refine ⟨nofun, ?_⟩
      rintro (h | h) <;> cases h
  | @deadLettered h row jobs targets failure delay now now' hholds hrep htarget =>
      refine ⟨hs.replaced hrep rfl ?_ (htarget.nodup (fun _ => rfl) hs.target_ids),
        Continues.replaced hrep (List.prefix_refl _) rfl rfl rfl (le_refl _)
          (not_terminal_of_leased hholds.leased)⟩
      exact (hs.rows row hrep.mem).released rfl rfl (le_max_right _ _)
        ⟨fun _ => .inr rfl, fun _ => rfl⟩ (.inl (.inr rfl))
  | @expiredFinally h row jobs targets now now' hexpired hattempts hrep htarget =>
      refine ⟨hs.replaced hrep rfl ?_ (htarget.nodup (fun _ => rfl) hs.target_ids),
        Continues.replaced hrep (List.prefix_refl _) rfl rfl rfl (le_refl _)
          (not_terminal_of_leased hexpired.leased)⟩
      have hsound := hs.rows row hrep.mem
      exact hsound.released rfl rfl hsound.attempts_le ⟨fun _ => .inr rfl, fun _ => rfl⟩
        (.inl (.inr rfl))
  | @expiredForRetry h row jobs delay now hexpired hattempts hrep =>
      refine ⟨hs.replaced hrep rfl ?_ hs.target_ids, Continues.replaced hrep (List.prefix_refl _) rfl rfl rfl
        (le_refl _) (not_terminal_of_leased hexpired.leased)⟩
      have hsound := hs.rows row hrep.mem
      have hopen := not_terminal_of_leased hexpired.leased
      refine hsound.released rfl rfl hsound.attempts_le ?_ (.inr ⟨rfl, hattempts⟩)
      refine ⟨fun h => absurd (hsound.completed_iff.mp h) hopen, ?_⟩
      rintro (h | h) <;> cases h
  | configured target =>
      refine ⟨⟨hs.job_ids, nodup_configured hs.target_ids, hs.rows, hs.handed⟩, ?_⟩
      exact ⟨List.prefix_refl _, (Continues.refl s).rows⟩

theorem Changes.sound {i : ι} {s s' : Store ι} (hs : Sound s) (h : Changes i s s') :
    Sound s' ∧ Continues s s' := by
  induction h with
  | refl => exact ⟨hs, .refl s⟩
  | tail _ hchange ih =>
      obtain ⟨hmid, hcontinues⟩ := ih
      obtain ⟨hsound, hnext⟩ := hchange.sound hmid
      exact ⟨hsound, hcontinues.trans hnext⟩

/-! ## What the operations do -/

theorem Sound.holds {s : Store ι} (hs : Sound s) {i : ι} {job : CanvasSyncJob}
    (hhandout : ⟨i, job⟩ ∈ s.handouts) {row : JobRow} (hrow : row ∈ s.tables.jobs)
    {workerId : String} {now : DateTime} (hheld : row.heldBy job workerId now = true) :
    Holds i s ⟨i, job⟩ row now := by
  simp only [JobRow.heldBy, Bool.and_eq_true, beq_iff_eq, Option.any_eq_true,
    decide_eq_true_eq] at hheld
  obtain ⟨⟨⟨⟨⟨hid, -⟩, hleased⟩, -⟩, hexpires⟩, hattempt⟩ := hheld
  obtain ⟨h, hh, hcurrent⟩ := (hs.rows row hrow).leased hleased
  have hsame : h = ⟨i, job⟩ := hs.handout_unique hh hhandout (by rw [hcurrent.id, hid])
    (by rw [hcurrent.attemptCount, hattempt])
  exact ⟨hhandout, rfl, hsame ▸ hcurrent, hleased, hexpires⟩

theorem targetChange_update {h : Handout ι} {f : TargetRow → TargetRow}
    {targets : List TargetRow} {p : TargetRow → Bool} (hnodup : (targets.map (·.id)).Nodup)
    (hp : ∀ row, p row = true →
      atVersion h.job.targetId h.job.organizationId h.job.targetConfigVersion row = true) :
    TargetChange h f targets (Table.update targets p f) := by
  have hversion : ∀ row, p row = true → row.id = h.job.targetId ∧
      row.organizationId = h.job.organizationId ∧
      row.configVersion = h.job.targetConfigVersion := by
    intro row hrow
    simpa [atVersion, and_assoc] using hp row hrow
  obtain hnone | ⟨row, -, hrow, -, hrep⟩ := update_cases (f := f) hnodup
    fun row hrow => (hversion row hrow).1
  · exact .inl (update_of_forall_not hnone)
  · obtain ⟨hid, horg, hconfig⟩ := hversion row hrow
    exact .inr ⟨row, hid, horg, hconfig, hrep⟩

theorem heldBy_id {job : CanvasSyncJob} {workerId : String} {now : DateTime} {row : JobRow}
    (h : row.heldBy job workerId now = true) : row.id = job.id := by
  simp only [JobRow.heldBy, Bool.and_eq_true, beq_iff_eq] at h
  exact h.1.1.1.1.1

theorem completeJob_changes {s : Store ι} (hs : Sound s) {i : ι} {job : CanvasSyncJob}
    (hhandout : ⟨i, job⟩ ∈ s.handouts) (workerId : String) (result : Json.Map)
    (clock : StatementClock) :
    Changes i s { s with tables :=
      (completeJob job workerId job.targetConfigVersion result clock s.tables).1 } := by
  rw [completeJob]
  obtain hnone | ⟨row, hrow, hheld, hupdated, hrep⟩ := update_cases
    (f := JobRow.completed result (clock.reads 0)) hs.job_ids
    fun row (h : row.heldBy job workerId (clock.reads 0) = true) => heldBy_id h
  · rw [updated_of_forall_not hnone]
    exact .refl
  · rw [hupdated]
    have htarget : TargetChange ⟨i, job⟩ (TargetRow.succeeded (clock.reads 1)) s.tables.targets
        (Table.update s.tables.targets (fun target => atVersion job.targetId job.organizationId
          job.targetConfigVersion target && target.enabled) (TargetRow.succeeded (clock.reads 1))) := by
      refine targetChange_update hs.target_ids fun target htarget => ?_
      rw [Bool.and_eq_true] at htarget
      exact htarget.1
    exact .single (.completed (hs.holds hhandout hrow hheld) hrep htarget)

theorem failJob_changes {s : Store ι} (hs : Sound s) {i : ι} {job : CanvasSyncJob}
    (hhandout : ⟨i, job⟩ ∈ s.handouts) (workerId : String) (failure : JobFailure)
    (jitter : Nat) (clock : StatementClock) :
    Changes i s { s with tables :=
      (failJob job workerId failure job.targetConfigVersion jitter clock s.tables).1 } := by
  rw [failJob]
  generalize hdelay : jobRetryDelaySeconds job.attemptCount failure.retryAfterSeconds jitter = delay
  cases hdead : failure.forceDeadLetter || decide (job.maxAttempts ≤ job.attemptCount)
  case false =>
    obtain hnone | ⟨row, hrow, hheld, hupdated, hrep⟩ := update_cases
      (f := JobRow.failed failure false delay (clock.reads 0)) hs.job_ids
      fun row (h : row.heldBy job workerId (clock.reads 0) = true) => heldBy_id h
    · simp only [updated_of_forall_not hnone]
      exact .refl
    · simp only [hupdated]
      have hholds := hs.holds hhandout hrow hheld
      refine .single (.retried hholds ?_ hrep)
      rw [Bool.or_eq_false_iff, decide_eq_false_iff_not, not_le] at hdead
      have hcurrent := hholds.current
      rw [← hcurrent.attemptCount, ← hcurrent.maxAttempts]
      exact hdead.2
  case true =>
    obtain hnone | ⟨row, hrow, hheld, hupdated, hrep⟩ := update_cases
      (f := JobRow.failed failure true delay (clock.reads 0)) hs.job_ids
      fun row (h : row.heldBy job workerId (clock.reads 0) = true) => heldBy_id h
    · simp only [updated_of_forall_not hnone]
      exact .refl
    · simp only [hupdated, if_true]
      have htarget := targetChange_update (h := ⟨i, job⟩) (f := TargetRow.disabled (clock.reads 1))
        hs.target_ids fun _ htarget => htarget
      exact .single (.deadLettered (hs.holds hhandout hrow hheld) hrep htarget)

theorem renewLease_changes {s : Store ι} (hs : Sound s) {i : ι} {job : CanvasSyncJob}
    (hhandout : ⟨i, job⟩ ∈ s.handouts) {workerId : String} {leaseSeconds : Int} {utcNow : Utc}
    {now : DateTime} {tables : Tables} {renewed : Bool}
    (h : renewLease job workerId leaseSeconds utcNow now s.tables = .ok (tables, renewed)) :
    Changes i s { s with tables := tables } := by
  simp only [renewLease, bind_eq_ok, pure, Except.pure, Except.ok.injEq, Prod.mk.injEq] at h
  obtain ⟨expires, -, rfl, -⟩ := h
  obtain hnone | ⟨row, hrow, hheld, -, hrep⟩ := update_cases
    (f := fun row => { row with leaseExpiresAt := some (Utc.stored expires), updatedAt := now })
    hs.job_ids fun row (h : row.heldBy job workerId now = true) => heldBy_id h
  · rw [update_of_forall_not hnone]
  · exact .single (.renewed (hs.holds hhandout hrow hheld) hrep)

theorem scheduled_changes {s : Store ι} (hs : Sound s) (i : ι) {p : TargetRow → Bool} {id : String}
    {f : TargetRow → TargetRow} (hp : ∀ row, p row = true → row.id = id)
    (hf : ∀ row, SameConfiguration row (f row)) :
    Changes i s { s with tables.targets := Table.update s.tables.targets p f } := by
  obtain hnone | ⟨row, -, -, -, hrep⟩ := update_cases (f := f) hs.target_ids hp
  · rw [update_of_forall_not hnone]
  · exact .single (.scheduled (hf row) hrep)

theorem touch_changes {s : Store ι} (hs : Sound s) (i : ι) (current : TargetRow)
    (workerId : String) (now : DateTime) :
    Changes i s { s with tables := (touchTargetHeartbeat current workerId now s.tables).1 } := by
  refine scheduled_changes hs i (fun row hrow => (?_ : row.id = current.id))
    fun row => ⟨rfl, rfl, rfl, rfl, rfl⟩
  simp only [atVersion, Bool.and_eq_true, beq_iff_eq] at hrow
  exact hrow.1.1.1

/-! ### Enqueueing -/

theorem enqueueTargets_changes (i : ι) (clock : StatementClock) (draws : Nat → String) :
    ∀ (due : List TargetRow) (k : Nat) (s : Store ι), Sound s →
      Changes i s { s with tables := (enqueueTargets clock draws k due s.tables).1 } := by
  intro due
  induction due with
  | nil => exact fun _ _ _ => .refl
  | cons target due ih =>
      intro k s hs
      rw [enqueueTargets]
      have hjob : ∀ conflict, conflict = conflicts s.tables.jobs
            (newJob (draws k) target.organizationId target.id (clock.reads (2 * k + 1))) →
          Changes i s { s with tables.jobs := if conflict then s.tables.jobs else s.tables.jobs ++
            [newJob (draws k) target.organizationId target.id (clock.reads (2 * k + 1))] } := by
        intro conflict hconflict
        cases conflict with
        | true => exact .refl
        | false =>
            have hnone := List.any_eq_false.mp hconflict.symm
            refine .single (.enqueued (fun row hrow heq => hnone row hrow ?_)
              fun row hrow heq => ?_)
            · simp [newJob, heq]
            · have := hnone row hrow
              simp only [newJob, heq, beq_self_eq_true, Bool.true_and, Bool.or_eq_true,
                not_or, Bool.not_eq_true] at this
              exact this.2
      have hfirst := hjob _ rfl
      have hmid := (Changes.sound hs hfirst).1
      have hsecond := scheduled_changes hmid i
        (f := TargetRow.enqueued (clock.reads (2 * k + 2)))
        (fun row (hrow : (row.id == target.id) = true) => beq_iff_eq.mp hrow) fun row => ⟨rfl, rfl, rfl, rfl, rfl⟩
      have hthird := ih (k + 1) _ (Changes.sound hmid hsecond).1
      exact (hfirst.trans hsecond).trans hthird

theorem enqueueDue_changes {s : Store ι} (hs : Sound s) (i : ι) {limit : Int}
    {around : Surroundings} {draws : Nat → String} {tables : Tables} {n : Nat}
    (h : enqueueDue limit around draws s.tables = .ok (tables, n)) :
    Changes i s { s with tables := tables } := by
  simp only [enqueueDue, bind_eq_ok, pure, Except.pure, Except.ok.injEq] at h
  obtain ⟨limit, -, h⟩ := h
  generalize List.take _ _ = due at h
  have hchanges := enqueueTargets_changes i around.clock draws due 0 s hs
  rw [h] at hchanges
  exact hchanges

/-! ### Leasing -/

theorem JobRow.expired_mono {row : JobRow} {now now' : DateTime} (h : row.expired now = true)
    (hnow : now ≤ now') : row.expired now' = true := by
  simp only [JobRow.expired, Bool.and_eq_true, Option.any_eq_true, decide_eq_true_eq] at h ⊢
  obtain ⟨hleased, expires, hexpires, hle⟩ := h
  exact ⟨hleased, expires, hexpires, hle.trans hnow⟩

theorem JobRow.ready_mono {row : JobRow} {now now' : DateTime} (h : row.ready now = true)
    (hnow : now ≤ now') : row.ready now' = true := by
  simp only [JobRow.ready, Bool.and_eq_true, decide_eq_true_eq] at h ⊢
  exact ⟨⟨h.1.1, h.1.2.trans hnow⟩, h.2⟩

theorem Sound.expired {s : Store ι} (hs : Sound s) {row : JobRow} (hrow : row ∈ s.tables.jobs)
    {now : DateTime} (h : row.expired now = true) : ∃ h, Expired s h row now := by
  simp only [JobRow.expired, Bool.and_eq_true, beq_iff_eq, Option.any_eq_true,
    decide_eq_true_eq] at h
  obtain ⟨handout, hhandout, hcurrent⟩ := (hs.rows row hrow).leased h.1
  exact ⟨handout, hhandout, hcurrent, h.1, h.2⟩

/-- The rows of a table that a change has not touched are still there. -/
def Untouched (row : JobRow) (jobs jobs' : List JobRow) : Prop :=
  ∀ r ∈ jobs, r.id ≠ row.id → r ∈ jobs'

theorem Replaces.untouched {jobs jobs' : List JobRow} {row row' : JobRow}
    (h : Table.Replaces jobs row row' jobs') : Untouched row jobs jobs' :=
  fun _ hr hne => h.mem_of_ne hr fun heq => hne (heq ▸ rfl)

theorem recoverFinalRow_changes {s : Store ι} (hs : Sound s) (i : ι) {clock : StatementClock}
    {k : Nat} {row : JobRow} (hrow : row ∈ s.tables.jobs)
    (hexpired : row.expired (clock.reads 0) = true) (hattempts : row.maxAttempts ≤ row.attemptCount)
    {tables : Tables} (h : recoverFinalRow clock k row s.tables = .ok tables) :
    Changes i s { s with tables := tables } ∧ Untouched row s.tables.jobs tables.jobs := by
  have hnow := JobRow.expired_mono hexpired (clock.ordered 0 (2 * k + 1) (Nat.zero_le _))
  obtain ⟨handout, hhandout⟩ := hs.expired hrow hnow
  simp only [recoverFinalRow, hhandout.current.recorded, bind_eq_ok, pure, Except.pure,
    Except.ok.injEq, exists_eq_left', Option.getD_some] at h
  subst h
  have hrep := (update_at (f := JobRow.expiredFinally (clock.reads (2 * k + 1)))
    (p := fun r => r.id == row.id && r.expired (clock.reads (2 * k + 1))) hs.job_ids hrow
    (by simp [hnow]) fun r hr => by simp at hr; exact hr.1).2
  have htarget := targetChange_update (h := handout)
    (f := TargetRow.disabled (clock.reads (2 * k + 2))) hs.target_ids fun _ htarget => htarget
  rw [hhandout.current.targetId, hhandout.current.organizationId] at htarget
  exact ⟨.single (.expiredFinally hhandout hattempts hrep htarget), Replaces.untouched hrep⟩

theorem recoverRetryRow_changes {s : Store ι} (hs : Sound s) (i : ι) {clock : StatementClock}
    {jitter : Nat → Nat} {k : Nat} {row : JobRow} (hrow : row ∈ s.tables.jobs)
    (hexpired : row.expired (clock.reads 0) = true) (hattempts : row.attemptCount < row.maxAttempts)
    {tables : Tables} (h : recoverRetryRow clock jitter k row s.tables = .ok tables) :
    Changes i s { s with tables := tables } ∧ Untouched row s.tables.jobs tables.jobs := by
  have hnow := JobRow.expired_mono hexpired (clock.ordered 0 (k + 1) (Nat.zero_le _))
  obtain ⟨handout, hhandout⟩ := hs.expired hrow hnow
  rw [recoverRetryRow, Except.ok.injEq] at h
  subst h
  have hrep := (update_at (f := JobRow.expiredForRetry (clock.reads (k + 1))
      (jobRetryDelaySeconds row.attemptCount none (jitter k)))
    (p := fun r => r.id == row.id && r.expired (clock.reads (k + 1))) hs.job_ids hrow
    (by simp [hnow]) fun r hr => by simp at hr; exact hr.1).2
  exact ⟨.single (.expiredForRetry hhandout hattempts hrep), Replaces.untouched hrep⟩

/-- **A sweep** makes the changes of its rows, one after the other: what the sweep has locked
is not touched before its turn. -/
theorem sweepRows_changes (i : ι) {p : JobRow → Prop}
    {f : Nat → JobRow → Tables → Except CanvasSyncRepositoryError Tables}
    (hf : ∀ (s : Store ι) k row tables, Sound s → row ∈ s.tables.jobs → p row →
      f k row s.tables = .ok tables →
        Changes i s { s with tables := tables } ∧ Untouched row s.tables.jobs tables.jobs) :
    ∀ (rows : List JobRow) (k : Nat) (s : Store ι) (tables : Tables), Sound s →
      (rows.map (·.id)).Nodup → (∀ row ∈ rows, row ∈ s.tables.jobs ∧ p row) →
      sweepRows f k rows s.tables = .ok tables → Changes i s { s with tables := tables } := by
  intro rows
  induction rows with
  | nil =>
      intro k s tables hs hnodup hrows h
      rw [sweepRows, Except.ok.injEq] at h
      subst h
      exact .refl
  | cons row rows ih =>
      intro k s tables hs hnodup hrows h
      rw [sweepRows, bind_eq_ok] at h
      obtain ⟨tables₁, hfirst, hrest⟩ := h
      rw [List.map_cons, List.nodup_cons] at hnodup
      obtain ⟨hrow, hp⟩ := hrows row List.mem_cons_self
      obtain ⟨hchanges, huntouched⟩ := hf s k row tables₁ hs hrow hp hfirst
      refine hchanges.trans (ih (k + 1) _ tables (hchanges.sound hs).1 hnodup.2 ?_ hrest)
      intro r hr
      obtain ⟨hmem, hpr⟩ := hrows r (List.mem_cons_of_mem _ hr)
      exact ⟨huntouched r hmem fun heq => hnodup.1 (heq ▸ List.mem_map_of_mem hr), hpr⟩

theorem nodup_lockRows {jobs : List JobRow} (h : (jobs.map (·.id)).Nodup)
    (around : Surroundings) (p : JobRow → Bool) :
    ((lockRows jobs around p).map (·.id)).Nodup :=
  h.sublist (List.filter_sublist.map _)

theorem mem_lockRows {jobs : List JobRow} {around : Surroundings} {p : JobRow → Bool}
    {row : JobRow} (h : row ∈ lockRows jobs around p) : row ∈ jobs ∧ p row = true := by
  rw [lockRows, List.mem_filter, Bool.and_eq_true] at h
  exact ⟨h.1, h.2.1⟩

theorem recoverExpiredFinal_changes {s : Store ι} (hs : Sound s) (i : ι) {around : Surroundings}
    {tables : Tables} (h : recoverExpiredFinal around s.tables = .ok tables) :
    Changes i s { s with tables := tables } := by
  refine sweepRows_changes i (p := fun row => row.expired (around.clock.reads 0) = true ∧
    row.maxAttempts ≤ row.attemptCount) ?_ _ 0 s tables hs (nodup_lockRows hs.job_ids _ _) ?_ h
  · exact fun s k row tables hs hrow hp => recoverFinalRow_changes hs i hrow hp.1 hp.2
  · intro row hrow
    have := mem_lockRows hrow
    simpa using this

theorem recoverExpiredRetry_changes {s : Store ι} (hs : Sound s) (i : ι) {around : Surroundings}
    {jitter : Nat → Nat} {tables : Tables}
    (h : recoverExpiredRetry around jitter s.tables = .ok tables) :
    Changes i s { s with tables := tables } := by
  refine sweepRows_changes i (p := fun row => row.expired (around.clock.reads 0) = true ∧
    row.attemptCount < row.maxAttempts) ?_ _ 0 s tables hs (nodup_lockRows hs.job_ids _ _) ?_ h
  · exact fun s k row tables hs hrow hp => recoverRetryRow_changes hs i hrow hp.1 hp.2
  · intro row hrow
    have := mem_lockRows hrow
    simpa using this

theorem leaseRow_changes {s : Store ι} (hs : Sound s) (i : ι) {workerId : String}
    {expires now : DateTime} {row : JobRow} (hrow : row ∈ s.tables.jobs)
    (hready : row.ready now = true) {tables : Tables} {job : CanvasSyncJob}
    (h : leaseRow workerId expires now row s.tables = .ok (tables, job)) :
    Changes i s ⟨tables, s.handouts ++ [⟨i, job⟩]⟩ ∧
      Untouched row s.tables.jobs tables.jobs := by
  obtain ⟨hupdated, hrep⟩ := update_at
    (f := fun r : JobRow => r.leasedBy workerId expires now
      (currentConfigVersion s.tables.targets r))
    (p := fun r => r.id == row.id) hs.job_ids hrow (by simp) fun r hr => beq_iff_eq.mp hr
  simp only [leaseRow, hupdated, List.head?_cons, bind_eq_ok, okOr_eq_ok, Option.some.injEq,
    exists_eq_left', pure, Except.pure, Except.ok.injEq, Prod.mk.injEq] at h
  obtain ⟨job', hjob, rfl, rfl⟩ := h
  exact ⟨.single (.leased hready hrep hjob), Replaces.untouched hrep⟩

theorem leaseRows_changes (i : ι) {workerId : String} {expires now : DateTime}
    {clock : StatementClock} (hclock : ∀ k, now ≤ clock.reads k) :
    ∀ (rows : List JobRow) (k : Nat) (s : Store ι) (tables : Tables) (jobs : List CanvasSyncJob),
      Sound s → (rows.map (·.id)).Nodup →
      (∀ row ∈ rows, row ∈ s.tables.jobs ∧ row.ready now = true) →
      leaseRows workerId expires clock k rows s.tables = .ok (tables, jobs) →
      Changes i s ⟨tables, s.handouts ++ jobs.map (⟨i, ·⟩)⟩ := by
  intro rows
  induction rows with
  | nil =>
      intro k s tables jobs hs hnodup hrows h
      rw [leaseRows, Except.ok.injEq, Prod.mk.injEq] at h
      obtain ⟨rfl, rfl⟩ := h
      rw [List.map_nil, List.append_nil]
  | cons row rows ih =>
      intro k s tables jobs hs hnodup hrows h
      simp only [leaseRows, bind_eq_ok, Prod.exists, pure, Except.pure, Except.ok.injEq,
        Prod.mk.injEq] at h
      obtain ⟨tables₁, job, hfirst, tables', jobs', hrest, rfl, rfl⟩ := h
      rw [List.map_cons, List.nodup_cons] at hnodup
      obtain ⟨hrow, hready⟩ := hrows row List.mem_cons_self
      obtain ⟨hchanges, huntouched⟩ := leaseRow_changes hs i hrow
        (JobRow.ready_mono hready (hclock (k + 1))) hfirst
      have hlater := ih (k + 1) ⟨tables₁, s.handouts ++ [⟨i, job⟩]⟩ tables' jobs'
        (hchanges.sound hs).1 hnodup.2 ?_ hrest
      · rw [List.append_assoc] at hlater
        exact hchanges.trans hlater
      · intro r hr
        obtain ⟨hmem, hpr⟩ := hrows r (List.mem_cons_of_mem _ hr)
        exact ⟨huntouched r hmem fun heq => hnodup.1 (heq ▸ List.mem_map_of_mem hr), hpr⟩

theorem leaseReady_changes {s : Store ι} (hs : Sound s) (i : ι) {workerId : String}
    {limit leaseSeconds : Int} {around : LeaseSurroundings} {tables : Tables}
    {jobs : List CanvasSyncJob}
    (h : leaseReady workerId limit leaseSeconds around s.tables = .ok (tables, jobs)) :
    Changes i s ⟨tables, s.handouts ++ jobs.map (⟨i, ·⟩)⟩ := by
  simp only [leaseReady, bind_eq_ok] at h
  obtain ⟨deadline, -, tables₁, hfinal, tables₂, hretry, n, -, hlease⟩ := h
  have hfirst := recoverExpiredFinal_changes hs i hfinal
  have hs₁ := (hfirst.sound hs).1
  have hsecond := recoverExpiredRetry_changes (s := { s with tables := tables₁ }) hs₁ i hretry
  have hs₂ := (hsecond.sound hs₁).1
  refine (hfirst.trans hsecond).trans (leaseRows_changes i
    (fun k => around.ready.clock.ordered 0 k (Nat.zero_le k)) _ 0
    { s with tables := tables₂ } tables jobs hs₂ ?_ ?_ hlease)
  · have hnodup := nodup_lockRows hs₂.job_ids around.ready
      (JobRow.ready (around.ready.clock.reads 0))
    refine List.Nodup.sublist ((List.take_sublist _ _).map _) ?_
    exact ((List.mergeSort_perm _ _).map _).nodup_iff.mpr hnodup
  · intro row hrow
    have hmem := (List.mergeSort_perm _ _).mem_iff.mp (List.mem_of_mem_take hrow)
    exact mem_lockRows hmem

/-! ### Working under a lease -/

theorem evaluate_job (task : Task) (workerId : String) (current : TargetRow) :
    (task.evaluate workerId current).job = task.job := by
  rw [Task.evaluate]
  split <;> rfl

theorem persist_changes {s : Store ι} (hs : Sound s) {i : ι} {job : CanvasSyncJob}
    (hhandout : ⟨i, job⟩ ∈ s.handouts) (workerId : String) (jitter : Nat) (clock : StatementClock)
    (outcome : Outcome) :
    Changes i s { s with tables := (persist job workerId jitter clock s.tables outcome).1 } := by
  cases outcome with
  | complete result => exact completeJob_changes hs hhandout workerId result clock
  | fail failure => exact failJob_changes hs hhandout workerId failure.bounded jitter clock

/-- **A step of `process_job`** makes changes under the handout of its job, which it keeps. -/
theorem taskStep_changes {s : Store ι} (hs : Sound s) {i : ι} {task task' : Task}
    (hhandout : ⟨i, task.job⟩ ∈ s.handouts) {workerId : String} {event : TaskEvent}
    {tables : Tables}
    (h : taskStep workerId s.tables task event task.phase = some (tables, task')) :
    Changes i s { s with tables := tables } ∧ task'.job = task.job := by
  have hrefl : Changes i s { s with tables := s.tables } := .refl
  have htouch := fun current now => touch_changes hs i current workerId now
  have hlost : ∀ (reply : Delivery) current now, Changes i s { s with tables :=
      if reply = .lost then (touchTargetHeartbeat current workerId now s.tables).1
        else s.tables } := by
    intro reply current now
    split
    · exact htouch current now
    · exact hrefl
  generalize task.phase = phase at h
  unfold taskStep at h
  split at h
  case h_1 =>
    split at h <;> cases h <;> exact ⟨hrefl, rfl⟩
  case h_2 =>
    split at h <;> cases h
    · exact ⟨hrefl, rfl⟩
    · exact ⟨hrefl, evaluate_job ..⟩
  case h_3 | h_4 =>
    cases h
    exact ⟨hrefl, rfl⟩
  case h_5 now current =>
    cases h
    refine ⟨htouch current now, ?_⟩
    split
    · exact evaluate_job ..
    · rfl
  case h_6 reply now current _ =>
    cases h
    exact ⟨hlost reply current now, rfl⟩
  case h_7 leaseSeconds utcNow now current =>
    split at h <;> cases h
    · exact ⟨hrefl, rfl⟩
    · rename_i hrenew
      exact ⟨renewLease_changes hs hhandout hrenew, rfl⟩
    · rename_i hrenew
      exact ⟨renewLease_changes hs hhandout hrenew, rfl⟩
  case h_8 reply leaseSeconds utcNow now current _ =>
    split at h <;> cases h
    · exact ⟨hrefl, rfl⟩
    · rename_i hrenew
      refine ⟨?_, rfl⟩
      split
      · exact renewLease_changes hs hhandout hrenew
      · exact hrefl
  case h_9 now current =>
    cases h
    exact ⟨htouch current now, rfl⟩
  case h_10 reply now current _ =>
    cases h
    exact ⟨hlost reply current now, rfl⟩
  case h_11 =>
    split at h <;> cases h <;> exact ⟨hrefl, rfl⟩
  case h_12 | h_13 | h_14 =>
    cases h
    exact ⟨hrefl, rfl⟩
  case h_15 reply jitter clock outcome renewalError _ =>
    cases h
    exact ⟨persist_changes hs hhandout workerId jitter clock outcome, rfl⟩
  case h_16 => cases h

/-! ## Runs -/

/-- The tables are sound, and whoever works on a job has been handed it. -/
structure Inv (c : Config (Store ι) ι Worker) : Prop where
  sound : Sound c.store
  tasks : ∀ i, ∀ task ∈ (c.calls i).tasks, ⟨i, task.job⟩ ∈ c.store.handouts

/-- What a step of one worker does: changes to the tables, and jobs that it was handed. -/
theorem workerStep_changes {i : ι} {event : Event} {s s' : Store ι} {worker worker' : Worker}
    (hs : Sound s) (htasks : ∀ task ∈ worker.tasks, ⟨i, task.job⟩ ∈ s.handouts)
    (h : workerStep i event s worker = some (s', worker')) :
    Changes i s s' ∧ ∀ task ∈ worker'.tasks, ⟨i, task.job⟩ ∈ s'.handouts := by
  unfold workerStep at h
  split at h
  case h_1 workerId =>
    cases h
    exact ⟨.refl, fun _ htask => absurd htask List.not_mem_nil⟩
  case h_2 target =>
    cases h
    exact ⟨.single (.configured target), htasks⟩
  case h_3 | h_4 =>
    cases h
    exact ⟨.refl, htasks⟩
  case h_5 limit around draws _ =>
    split at h <;> cases h
    · exact ⟨.refl, htasks⟩
    · rename_i henqueue
      exact ⟨enqueueDue_changes hs i henqueue, htasks⟩
  case h_6 reply limit leaseSeconds around _ =>
    split at h <;> cases h
    · exact ⟨.refl, htasks⟩
    · rename_i tables jobs hlease
      refine ⟨leaseReady_changes hs i hlease, fun task htask => ?_⟩
      split at htask
      · obtain htask | htask := List.mem_append.mp htask
        · exact List.mem_append_left _ (htasks task htask)
        · obtain ⟨job, hjob, rfl⟩ := List.mem_map.mp htask
          exact List.mem_append_right _ (List.mem_map_of_mem hjob)
      · exact List.mem_append_left _ (htasks task htask)
  case h_7 k event =>
    obtain ⟨task, htask, h⟩ := Option.bind_eq_some_iff.mp h
    obtain ⟨⟨tables, task'⟩, hstep, heq⟩ := Option.map_eq_some_iff.mp h
    cases heq
    have hhandout := htasks task (List.mem_of_getElem? htask)
    obtain ⟨hchanges, hjob⟩ := taskStep_changes hs hhandout hstep
    refine ⟨hchanges, fun other hother => ?_⟩
    obtain hother | rfl := List.mem_or_eq_of_mem_set hother
    · exact htasks other hother
    · exact hjob ▸ hhandout

variable [DecidableEq ι]

theorem Inv.step {c c' : Config (Store ι) ι Worker} {i : ι} {event : Event} (hc : Inv c)
    (h : (workerMachine ι).next c i event = some c') :
    Changes i c.store c'.store ∧ Inv c' := by
  obtain ⟨s, worker, hstep, rfl⟩ := Machine.next_eq_some.mp h
  obtain ⟨hchanges, htasks⟩ := workerStep_changes hc.sound (hc.tasks i) hstep
  obtain ⟨hsound, hcontinues⟩ := hchanges.sound hc.sound
  refine ⟨hchanges, hsound, fun j task htask => ?_⟩
  by_cases hj : j = i
  · subst hj
    simp only [Function.update_self] at htask
    exact htasks task htask
  · simp only [Function.update_of_ne hj] at htask
    exact hcontinues.handouts.subset (hc.tasks j task htask)

/-- No job, no target, and no worker has started. -/
def emptyConfig (ι : Type*) : Config (Store ι) ι Worker := ⟨⟨⟨[], []⟩, []⟩, fun _ => ⟨"", []⟩⟩

omit [DecidableEq ι] in
theorem Inv.empty : Inv (emptyConfig ι) where
  sound := ⟨List.nodup_nil, List.nodup_nil, fun _ h => absurd h List.not_mem_nil,
    fun _ h => absurd h List.not_mem_nil⟩
  tasks := fun _ _ h => absurd h List.not_mem_nil

namespace Example

def targetAt (version : Int) : TargetRow where
  id := "T"
  organizationId := "O"
  enabled := true
  scheduleSeconds := 900
  nextRunAt := 0
  lastEnqueuedAt := none
  lastSucceededAt := none
  configVersion := version
  heartbeat := none
  updatedAt := 0

/-- The surroundings of a statement at a moment in seconds, with no row held by others. -/
def around (second : Int) : Surroundings := ⟨.still (seconds second), []⟩

def leaseAround (second : Int) : LeaseSurroundings :=
  ⟨Utc.ofStored (seconds second), around second, around second, around second, fun _ => 0⟩

def rejection : CanvasSyncProcessingError where
  code := "canvas_sync_target_incomplete"
  summary := "Canvas sync target is missing binding_id"
  retryable := false
  retryAfterSeconds := none
  unexpected := none

/-- Two processes of one configured identity.  The lease of the first expires, the second
takes over, and the target is configured anew before its attempt fails for good. -/
def takeover : List (Fin 2 × Event) :=
  [(0, .start "worker"), (1, .start "worker"), (0, .configure (targetAt 1)),
    (0, .enqueueDue .answered 10 (around 0) fun _ => "J"),
    (0, .leaseReady .answered 10 30 (leaseAround 0)),
    (0, .task 0 (.read .answered)), (0, .task 0 (.touch .answered (seconds 1))),
    (1, .leaseReady .answered 10 30 (leaseAround 40)),
    (1, .leaseReady .answered 10 30 (leaseAround 60)),
    (0, .task 0 (.evaluated (.processed []))),
    (0, .task 0 (.persist .answered 0 (.still (seconds 61)))),
    (1, .task 0 (.read .answered)), (1, .configure (targetAt 2)),
    (1, .task 0 (.touch .answered (seconds 62))), (1, .task 0 (.read .answered)),
    (1, .task 0 (.evaluated (.rejected rejection))),
    (1, .task 0 (.persist .answered 0 (.still (seconds 63))))]

/-- The jobs, the targets, and how the work of the two processes has ended. -/
structure Observation where
  jobs : List (CanvasSyncJobStatus × Nat × Nat)
  targets : List (Bool × Int)
  ends : List (Option (EscapedJobError ⊕ CanvasSyncJobStatus))
  deriving DecidableEq

def observe (c : Config (Store (Fin 2)) (Fin 2) Worker) : Observation where
  jobs := c.store.tables.jobs.map fun row => (row.status, row.attemptCount, row.maxAttempts)
  targets := c.store.tables.targets.map fun row => (row.enabled, row.configVersion)
  ends := ([0, 1].flatMap fun i => (c.calls i).tasks).map fun task =>
    match task.phase with
    | .ended (.ok status) => some (.inr status)
    | .ended (.error error) => some (.inl error)
    | _ => none

end Example

end Marty.Issuance.CanvasSync
