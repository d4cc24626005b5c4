import Marty.Installer.PurgeLedger

/-!
# The steps of the purge ledger

Every call to the system leaves the records that are there as they are.  A record appears only
under its rename, when its contents are durable and what it rests on is durable as well: an intent
rests on the manifest, and a result on its intent.

## Main definitions

* `Grounded`, `DiskSound` — what a record rests on, and what holds of the disk.
* `StepOk` — what one step keeps, and what it may add.
* `Settled` — the disk after reads.

## Main results

* `readRecord_safe`, `writeExact_safe`, `writeOrVerify_safe` — the records.
* `createOrResume_safe`, `recordIntent_safe`, `recordedResult_safe`, `recordResult_safe` — the
  operations.
-/

namespace Marty.Installer

open Lib Lib.Program

variable {host : Host} {installationId : String} {d d' : Disk} {e : FileEntry} {n : EntryName}
variable {adds : List FileEntry → FileEntry → Prop}

/-! ## Soundness -/

/-- **What a record rests on**: an intent on the manifest, whose digest it names, and a result on
the manifest and on its intent. -/
def Grounded (host : Host) (installationId : String) (durable : List FileEntry) (e : FileEntry) : Prop :=
  match e.name with
  | .intent key => ∃ m ∈ durable, m.name = .manifest ∧ host.digest e.bytes = key ∧
      ∃ resource identity, e.bytes = Ledger.intentBytes ⟨installationId, host.digest m.bytes⟩ resource identity
  | .result key => ∃ m ∈ durable, m.name = .manifest ∧
      (∃ outcome, e.bytes = Ledger.resultBytes ⟨installationId, host.digest m.bytes⟩ key outcome) ∧
      ∃ i ∈ durable, i.name = .intent key ∧ host.digest i.bytes = key ∧
        ∃ resource identity, i.bytes = Ledger.intentBytes ⟨installationId, host.digest m.bytes⟩ resource identity
  | _ => True

theorem Grounded.mono {durable durable' : List FileEntry} (h : Grounded host installationId durable e)
    (hsub : ∀ e ∈ durable, e.name.isTemporary = false → e ∈ durable') :
    Grounded host installationId durable' e := by
  unfold Grounded at h ⊢
  split at h
  · obtain ⟨m, hm, hname, hrest⟩ := h
    exact ⟨m, hsub m hm (by rw [hname]; rfl), hname, hrest⟩
  · obtain ⟨m, hm, hname, houtcome, i, hi, hintent, hrest⟩ := h
    exact ⟨m, hsub m hm (by rw [hname]; rfl), hname, houtcome, i,
      hsub i hi (by rw [hintent]; rfl), hintent, hrest⟩
  · trivial

/-- **Soundness of the disk.** -/
structure DiskSound (host : Host) (installationId : String) (d : Disk) : Prop where
  nodup : (d.visible.map (·.name)).Nodup
  synced : ∀ e ∈ d.visible, e.name.isTemporary = false → e.synced = true
  kept : ∀ e ∈ d.durable, e.name.isTemporary = false → e ∈ d.visible
  rooted : d.rooted = false → ∀ e ∈ d.visible, e.name.isTemporary = true
  absent : d.present = false → d.visible = [] ∧ d.durable = []
  anchored : d.rooted = true → d.present = true
  grounded : ∀ e ∈ d.visible, Grounded host installationId d.durable e

/-- **What one step does**: the records stay, and those that appear are the ones of the call. -/
structure StepOk (host : Host) (installationId : String)
    (adds : List FileEntry → FileEntry → Prop) (d d' : Disk) : Prop where
  sound : DiskSound host installationId d'
  visible : ∀ e ∈ d.visible, e.name.isTemporary = false → e ∈ d'.visible
  durable : ∀ e ∈ d.durable, e.name.isTemporary = false → e ∈ d'.durable
  added : ∀ e ∈ d'.visible, e.name.isTemporary = false → e ∈ d.visible ∨ adds d.durable e

/-- The disk with one more entry. -/
def Disk.push (d : Disk) (e : FileEntry) : Disk := { d with visible := d.visible ++ [e] }

/-- The disk after reads: the same entries, all of them durable. -/
structure Settled (host : Host) (installationId : String) (d d' : Disk) : Prop where
  sound : DiskSound host installationId d'
  visible : d'.visible = d.visible
  durable : d'.durable = d.visible
  stamps : d'.stamps = d.stamps
  rooted : d.rooted = true → d'.rooted = true

theorem Settled.trans {d₁ d₂ : Disk} (h : Settled host installationId d d₁) (h' : Settled host installationId d₁ d₂) :
    Settled host installationId d d₂ :=
  ⟨h'.sound, h'.visible.trans h.visible, h'.durable.trans h.visible, h'.stamps.trans h.stamps,
    fun hr => h'.rooted (h.rooted hr)⟩

theorem Settled.push {d₁ : Disk} (h : Settled host installationId d d₁)
    (h' : Settled host installationId (d₁.push e) d') :
    Settled host installationId (d.push e) d' := by
  have hvisible : (d₁.push e).visible = (d.push e).visible := by
    rw [Disk.push, h.visible, Disk.push]
  exact ⟨h'.sound, h'.visible.trans hvisible, h'.durable.trans hvisible, h'.stamps.trans h.stamps,
    fun hr => h'.rooted (h.rooted hr)⟩

theorem Settled.file (h : Settled host installationId d d') (n : EntryName) : d'.file n = d.file n := by
  rw [Disk.file, h.visible, Disk.file]

/-! ## Entries -/

theorem file_eq_some (hd : DiskSound host installationId d) :
    d.file n = some e ↔ e ∈ d.visible ∧ e.name = n := by
  constructor
  · intro h
    exact ⟨List.mem_of_find?_eq_some h, by simpa using List.find?_some h⟩
  · rintro ⟨hmem, rfl⟩
    obtain ⟨e', he'⟩ : ∃ e', d.file e.name = some e' := by
      rw [← Option.isSome_iff_exists, Disk.file, List.find?_isSome]
      exact ⟨e, hmem, by simp⟩
    have hname : e'.name = e.name := by simpa using List.find?_some he'
    have hsame := List.inj_on_of_nodup_map hd.nodup (List.mem_of_find?_eq_some he') hmem hname
    rw [he', hsame]

theorem file_eq_none : d.file n = none ↔ ∀ e ∈ d.visible, e.name ≠ n := by
  simp [Disk.file]

/-! ## Steps -/

theorem StepOk.refl (hd : DiskSound host installationId d) : StepOk host installationId adds d d :=
  ⟨hd, fun _ h _ => h, fun _ h _ => h, fun _ h _ => .inl h⟩

/-- A record is synchronized already. -/
theorem syncFile_record (hd : DiskSound host installationId d) (hn : n.isTemporary = false) :
    d.syncFile n = d := by
  have hsame : (d.visible.map fun e => if e.name = n then { e with synced := true } else e) =
      d.visible := by
    refine (List.map_congr_left fun e he => ?_).trans (List.map_id _)
    split
    case isTrue hname =>
        have hsynced := hd.synced e he (hname ▸ hn)
        cases e
        cases hsynced
        rfl
    case isFalse => rfl
  rw [Disk.syncFile, hsame]

theorem syncDirectory_sound (hd : DiskSound host installationId d) : DiskSound host installationId d.syncDirectory :=
  ⟨hd.nodup, hd.synced, fun _ h _ => h, hd.rooted,
    fun h => ⟨(hd.absent h).1, (hd.absent h).1⟩, hd.anchored,
    fun e he => (hd.grounded e he).mono hd.kept⟩

theorem syncDirectory_stepOk (hd : DiskSound host installationId d) : StepOk host installationId adds d d.syncDirectory :=
  ⟨syncDirectory_sound hd, fun _ h _ => h, hd.kept, fun _ h _ => .inl h⟩

theorem syncDirectory_settled (hd : DiskSound host installationId d) : Settled host installationId d d.syncDirectory :=
  ⟨syncDirectory_sound hd, rfl, rfl, rfl, fun h => h⟩

theorem syncParent_sound (hd : DiskSound host installationId d) : DiskSound host installationId d.syncParent := by
  refine ⟨hd.nodup, hd.synced, hd.kept, fun h e he => ?_, hd.absent, fun h => h, hd.grounded⟩
  have hempty := (hd.absent h).1
  rw [show d.syncParent.visible = d.visible from rfl, hempty] at he
  cases he

theorem syncParent_stepOk (hd : DiskSound host installationId d) : StepOk host installationId adds d d.syncParent :=
  ⟨syncParent_sound hd, fun _ h _ => h, fun _ h _ => h, fun _ h _ => .inl h⟩

theorem makeLedger_stepOk (hd : DiskSound host installationId d) : StepOk host installationId adds d d.makeLedger := by
  unfold Disk.makeLedger
  split
  case isTrue => exact .refl hd
  case isFalse hp =>
      obtain ⟨hvisible, hdurable⟩ := hd.absent (by simpa using hp)
      refine ⟨⟨by simp, by simp, by simp, by simp, by simp, by simp, by simp⟩, ?_, ?_, by simp⟩
      · simp [hvisible]
      · simp [hdurable]

theorem makeQuarantine_stepOk (hd : DiskSound host installationId d) :
    StepOk host installationId adds d d.makeQuarantine := by
  unfold Disk.makeQuarantine
  split
  case isTrue => exact .refl hd
  case isFalse =>
      exact ⟨⟨hd.nodup, hd.synced, hd.kept, hd.rooted, hd.absent, hd.anchored, hd.grounded⟩,
        fun _ h _ => h, fun _ h _ => h, fun _ h _ => .inl h⟩

/-- A temporary entry is no record. -/
theorem push_temporary_sound (hd : DiskSound host installationId d) {u : String} {bytes : Bytes} {synced : Bool}
    (hp : d.present = true) (hnew : d.file (.temporary u) = none) :
    DiskSound host installationId (d.push ⟨.temporary u, bytes, synced⟩) := by
  constructor
  · rw [Disk.push, List.map_append, List.nodup_append]
    refine ⟨hd.nodup, by simp, ?_⟩
    intro a ha b hb hab
    obtain ⟨e, he, rfl⟩ := List.mem_map.mp ha
    rw [List.map_singleton, List.mem_singleton] at hb
    exact file_eq_none.mp hnew e he (hab.trans hb)
  · intro e he htemp
    rcases List.mem_append.mp he with he | he
    · exact hd.synced e he htemp
    · rw [List.mem_singleton.mp he] at htemp
      cases htemp
  · exact fun e he htemp => List.mem_append_left _ (hd.kept e he htemp)
  · intro hr e he
    rcases List.mem_append.mp he with he | he
    · exact hd.rooted hr e he
    · rw [List.mem_singleton.mp he]
      rfl
  · intro habsent
    rw [Disk.push, hp] at habsent
    cases habsent
  · exact fun hr' => hd.anchored hr'
  · intro e he
    rcases List.mem_append.mp he with he | he
    · exact hd.grounded e he
    · rw [List.mem_singleton.mp he]
      trivial

theorem push_new_stepOk (hd : DiskSound host installationId d) {u : String} {bytes : Bytes}
    {synced : Bool} (hp : d.present = true) (hnew : d.file (.temporary u) = none) :
    StepOk host installationId adds d (d.push ⟨.temporary u, bytes, synced⟩) := by
  refine ⟨push_temporary_sound hd hp hnew, fun e he _ => List.mem_append_left _ he, fun _ h _ => h,
    fun e he htemp => ?_⟩
  rcases List.mem_append.mp he with he | he
  · exact .inl he
  · rw [List.mem_singleton.mp he] at htemp
    cases htemp

/-- A step from one state of a temporary entry to the next. -/
theorem push_temporary_stepOk (hd : DiskSound host installationId d) {u : String} {bytes bytes' : Bytes}
    {synced synced' : Bool} (hp : d.present = true) (hnew : d.file (.temporary u) = none) :
    StepOk host installationId adds (d.push ⟨.temporary u, bytes, synced⟩)
      (d.push ⟨.temporary u, bytes', synced'⟩) := by
  have hmem (e : FileEntry) (htemp : e.name.isTemporary = false) (b : Bytes) (s : Bool) :
      e ∈ (d.push ⟨.temporary u, b, s⟩).visible ↔ e ∈ d.visible := by
    rw [Disk.push, List.mem_append, List.mem_singleton, or_iff_left]
    rintro rfl
    cases htemp
  refine ⟨push_temporary_sound hd hp hnew, fun e he htemp => ?_, fun _ h _ => h, fun e he htemp => ?_⟩
  · exact (hmem e htemp _ _).mpr ((hmem e htemp _ _).mp he)
  · exact .inl ((hmem e htemp _ _).mpr ((hmem e htemp _ _).mp he))

/-- A rewrite of the entry that was pushed. -/
theorem map_push {f : FileEntry → FileEntry} {u : String} {bytes : Bytes} {synced : Bool}
    (hnew : d.file (.temporary u) = none) (hother : ∀ e, e.name ≠ .temporary u → f e = e) :
    { d.push ⟨.temporary u, bytes, synced⟩ with
        visible := (d.push ⟨.temporary u, bytes, synced⟩).visible.map f } =
      d.push (f ⟨.temporary u, bytes, synced⟩) := by
  have hsame : d.visible.map f = d.visible :=
    (List.map_congr_left fun e he => hother e (file_eq_none.mp hnew e he)).trans (List.map_id _)
  simp [Disk.push, hsame]

theorem appendByte_push {u : String} {bytes : Bytes} {synced : Bool} {b : UInt8}
    (hnew : d.file (.temporary u) = none) :
    (d.push ⟨.temporary u, bytes, synced⟩).appendByte (.temporary u) b =
      d.push ⟨.temporary u, bytes ++ [b], false⟩ := by
  rw [Disk.appendByte, map_push hnew]
  · simp
  · exact fun e he => if_neg he

theorem syncFile_push {u : String} {bytes : Bytes} {synced : Bool}
    (hnew : d.file (.temporary u) = none) :
    (d.push ⟨.temporary u, bytes, synced⟩).syncFile (.temporary u) =
      d.push ⟨.temporary u, bytes, true⟩ := by
  rw [Disk.syncFile, map_push hnew]
  · simp
  · exact fun e he => if_neg he

theorem file_push {u : String} {bytes : Bytes} {synced : Bool} (hn : n.isTemporary = false) :
    (d.push ⟨.temporary u, bytes, synced⟩).file n = d.file n := by
  have hne : EntryName.temporary u ≠ n := by
    rintro rfl
    cases hn
  simp [Disk.file, Disk.push, List.find?_append, hne]

theorem rename_push {u : String} {bytes : Bytes} {synced : Bool}
    (hnew : d.file (.temporary u) = none) (hn : n.isTemporary = false) (hfree : d.file n = none) :
    (d.push ⟨.temporary u, bytes, synced⟩).rename (.temporary u) n = d.push ⟨n, bytes, synced⟩ := by
  have hnone : ((d.push ⟨.temporary u, bytes, synced⟩).file n).isNone = true := by
    rw [file_push hn, hfree]
    rfl
  rw [Disk.rename, if_pos hnone, map_push hnew]
  · simp
  · exact fun e he => if_neg he

/-- **A record appears** when what it rests on is durable. -/
theorem push_record_sound (hd : DiskSound host installationId d) {bytes : Bytes}
    (hr : d.rooted = true) (hfree : d.file n = none)
    (hgrounded : Grounded host installationId d.durable ⟨n, bytes, true⟩) :
    DiskSound host installationId (d.push ⟨n, bytes, true⟩) := by
  constructor
  · rw [Disk.push, List.map_append, List.nodup_append]
    refine ⟨hd.nodup, by simp, ?_⟩
    intro a ha b hb hab
    obtain ⟨e, he, rfl⟩ := List.mem_map.mp ha
    rw [List.map_singleton, List.mem_singleton] at hb
    exact file_eq_none.mp hfree e he (hab.trans hb)
  · intro e he htemp
    rcases List.mem_append.mp he with he | he
    · exact hd.synced e he htemp
    · rw [List.mem_singleton.mp he]
  · exact fun e he htemp => List.mem_append_left _ (hd.kept e he htemp)
  · intro hr' e he
    rw [Disk.push, hr] at hr'
    cases hr'
  · intro habsent
    rw [Disk.push, hd.anchored hr] at habsent
    cases habsent
  · exact fun hr' => hd.anchored hr'
  · intro e he
    rcases List.mem_append.mp he with he | he
    · exact hd.grounded e he
    · rw [List.mem_singleton.mp he]
      exact hgrounded

theorem push_record_stepOk (hd : DiskSound host installationId d) {u : String} {bytes : Bytes}
    (hr : d.rooted = true) (hfree : d.file n = none)
    (hgrounded : Grounded host installationId d.durable ⟨n, bytes, true⟩)
    (hadds : adds d.durable ⟨n, bytes, true⟩) :
    StepOk host installationId adds (d.push ⟨.temporary u, bytes, true⟩) (d.push ⟨n, bytes, true⟩) := by
  refine ⟨push_record_sound hd hr hfree hgrounded, fun e he htemp => ?_, fun _ h _ => h,
    fun e he htemp => ?_⟩
  · rcases List.mem_append.mp he with he | he
    · exact List.mem_append_left _ he
    · rw [List.mem_singleton.mp he] at htemp
      cases htemp
  · rcases List.mem_append.mp he with he | he
    · exact .inl (List.mem_append_left _ he)
    · rw [List.mem_singleton.mp he]
      exact .inr hadds

/-! ## Records -/

theorem readRecordOnce_safe (hd : DiskSound host installationId d) (n : EntryName) (limit : Nat) :
    (readRecordOnce n limit).Safe (StepOk host installationId adds)
      (fun r d' => d' = d ∧ r = (d.file n).map (·.bytes)) d := by
  refine ⟨.refl hd, ?_⟩
  dsimp only [id]
  split
  case h_1 hnone => exact ⟨rfl, by rw [hnone]; rfl⟩
  case h_2 e he =>
      split
      case isTrue => exact ⟨rfl, by rw [he]; rfl⟩
      case isFalse => trivial

/-- **A read** makes all entries durable and gives the bytes of the one. -/
theorem readRecord_safe (hd : DiskSound host installationId d) (hn : n.isTemporary = false) (limit : Nat) :
    (readRecord n limit).Safe (StepOk host installationId adds)
      (fun r d' => Settled host installationId d d' ∧ r = (d.file n).map (·.bytes)) d := by
  refine Safe.bind (readRecordOnce_safe hd n limit) ?_
  rintro first d₁ ⟨hd₁, hfirst⟩
  subst d₁
  refine Safe.bind (Q := fun _ d' => d' = d) ?_ ?_
  · refine safe_whenever (fun _ => safe_modify ?_ (syncFile_record hd hn)) fun _ => rfl
    rw [syncFile_record hd hn]
    exact .refl hd
  rintro _ d₁ hd₁
  subst d₁
  refine safe_modify_then (syncDirectory_stepOk hd) ?_
  refine Safe.bind (readRecordOnce_safe (syncDirectory_sound hd) n limit) ?_
  rintro second d₁ ⟨hd₁, hsecond⟩
  subst d₁
  exact safe_require_then fun _ => safe_pure ⟨syncDirectory_settled hd, hsecond⟩

/-- A read between two steps. -/
theorem read_then {α : Type} {f : Option Bytes → Program Disk α} {Q : α → Disk → Prop} {limit : Nat}
    (hd : DiskSound host installationId d) (hn : n.isTemporary = false)
    (h : ∀ r d', Settled host installationId d d' → r = (d.file n).map (·.bytes) →
      (f r).Safe (StepOk host installationId adds) Q d') :
    (readRecord n limit >>= f).Safe (StepOk host installationId adds) Q d :=
  Safe.bind (readRecord_safe hd hn limit) fun r d' hr => h r d' hr.1 hr.2

theorem createNew_safe (hd : DiskSound host installationId d) (hp : d.present = true) (u : String) :
    (createNew (.temporary u)).Safe (StepOk host installationId adds)
      (fun _ d' => d.file (.temporary u) = none ∧ d' = d.push ⟨.temporary u, [], false⟩) d := by
  by_cases hfree : (d.file (.temporary u)).isNone
  · have hnone := Option.isNone_iff_eq_none.mp hfree
    have hcreate : d.create (.temporary u) = d.push ⟨.temporary u, [], false⟩ := if_pos hfree
    refine ⟨?_, ?_⟩
    · rw [hcreate]
      exact push_new_stepOk hd hp hnone
    · dsimp only
      rw [if_pos hfree, hcreate]
      exact ⟨hnone, rfl⟩
  · have hcreate : d.create (.temporary u) = d := if_neg hfree
    refine ⟨?_, ?_⟩
    · rw [hcreate]
      exact .refl hd
    · dsimp only
      rw [if_neg hfree]
      trivial

theorem writeAll_safe (hd : DiskSound host installationId d) (hp : d.present = true) {u : String}
    (hnew : d.file (.temporary u) = none) (bytes written : Bytes) (synced : Bool) :
    (writeAll (.temporary u) bytes).Safe (StepOk host installationId adds)
      (fun _ d' => ∃ synced, d' = d.push ⟨.temporary u, written ++ bytes, synced⟩)
      (d.push ⟨.temporary u, written, synced⟩) := by
  induction bytes generalizing written synced with
  | nil => exact safe_pure ⟨synced, by rw [List.append_nil]⟩
  | cons b bytes ih =>
    refine safe_modify_then ?_ ?_
    · rw [appendByte_push hnew]
      exact push_temporary_stepOk hd hp hnew
    · rw [appendByte_push hnew]
      have hrest := ih (written ++ [b]) false
      rwa [List.append_assoc] at hrest

theorem renameNoReplace_safe (hd : DiskSound host installationId d) {u : String} {bytes : Bytes}
    (hr : d.rooted = true) (hnew : d.file (.temporary u) = none)
    (hn : n.isTemporary = false) (hg : Grounded host installationId d.durable ⟨n, bytes, true⟩)
    (hadds : adds d.durable ⟨n, bytes, true⟩) :
    (renameNoReplace (.temporary u) n).Safe (StepOk host installationId adds)
      (fun _ d' => d.file n = none ∧ d' = d.push ⟨n, bytes, true⟩)
      (d.push ⟨.temporary u, bytes, true⟩) := by
  have hfile : (d.push ⟨.temporary u, bytes, true⟩).file n = d.file n := file_push hn
  by_cases hfree : (d.file n).isNone
  · have hnone := Option.isNone_iff_eq_none.mp hfree
    have hrename : (d.push ⟨.temporary u, bytes, true⟩).rename (.temporary u) n =
        d.push ⟨n, bytes, true⟩ := rename_push hnew hn hnone
    refine ⟨?_, ?_⟩
    · rw [hrename]
      exact push_record_stepOk hd hr hnone hg hadds
    · dsimp only
      rw [hfile, if_pos hfree, hrename]
      exact ⟨hnone, rfl⟩
  · have hrename : (d.push ⟨.temporary u, bytes, true⟩).rename (.temporary u) n =
        d.push ⟨.temporary u, bytes, true⟩ := by
      rw [Disk.rename, hfile, if_neg hfree]
    refine ⟨?_, ?_⟩
    · rw [hrename]
      exact .refl (push_temporary_sound hd (hd.anchored hr) hnew)
    · dsimp only
      rw [hfile, if_neg hfree]
      trivial

/-- **A new record**: it appears under its rename, and it is durable when the call returns. -/
theorem writeExact_safe (hd : DiskSound host installationId d) (hr : d.rooted = true)
    (hn : n.isTemporary = false) {bytes : Bytes} {limit : Nat}
    (hg : Grounded host installationId d.durable ⟨n, bytes, true⟩)
    (hadds : adds d.durable ⟨n, bytes, true⟩) (u : String) :
    (writeExact u n bytes limit).Safe (StepOk host installationId adds)
      (fun r d' => r = true ∧ d.file n = none ∧
        Settled host installationId (d.push ⟨n, bytes, true⟩) d') d := by
  have hp := hd.anchored hr
  refine safe_require_then fun _ => ?_
  refine Safe.bind (createNew_safe hd hp u) ?_
  rintro _ d₁ ⟨hnew, hd₁⟩
  subst d₁
  refine Safe.bind (writeAll_safe hd hp hnew bytes [] false) ?_
  rintro _ d₁ ⟨synced, hd₁⟩
  subst d₁
  rw [List.nil_append]
  refine safe_modify_then ?_ ?_
  · rw [syncFile_push hnew]
    exact push_temporary_stepOk hd hp hnew
  rw [syncFile_push hnew]
  refine Safe.bind (renameNoReplace_safe hd hr hnew hn hg hadds) ?_
  rintro _ d₁ ⟨hfree, hd₁⟩
  subst d₁
  have hpushed := push_record_sound hd hr hfree hg
  refine safe_modify_then (syncDirectory_stepOk hpushed) ?_
  refine read_then (syncDirectory_sound hpushed) hn fun stored d₁ hs _ => ?_
  exact safe_require_then fun _ =>
    safe_pure ⟨rfl, hfree, (syncDirectory_settled hpushed).trans hs⟩

/-- **A record that is there is verified**, and one that is not is written. -/
theorem writeOrVerify_safe (hd : DiskSound host installationId d) (hr : d.rooted = true)
    (hn : n.isTemporary = false) {bytes : Bytes} {limit : Nat}
    (hg : Grounded host installationId d.visible ⟨n, bytes, true⟩)
    (hadds : adds d.visible ⟨n, bytes, true⟩) (u : String) :
    (writeOrVerify u n bytes limit).Safe (StepOk host installationId adds)
      (fun r d' => (r = false ∧ (d.file n).map (·.bytes) = some bytes ∧
          Settled host installationId d d') ∨
        (r = true ∧ d.file n = none ∧
          Settled host installationId (d.push ⟨n, bytes, true⟩) d')) d := by
  refine read_then hd hn fun existing d₁ hsettled hexisting => ?_
  cases existing with
  | some existing =>
    refine safe_require_then fun hsame => ?_
    exact safe_pure (.inl ⟨rfl, by rw [← hexisting, hsame], hsettled⟩)
  | none =>
    rw [← hsettled.durable] at hg hadds
    refine (writeExact_safe hsettled.sound (hsettled.rooted hr) hn hg hadds u).mono ?_
    rintro r d₂ ⟨hr', hfree, hsettled'⟩
    exact .inr ⟨hr', by rwa [← hsettled.file], hsettled.push hsettled'⟩

/-! ## Opening a ledger -/

/-- The ledger's manifest is there, with the digest that was confirmed. -/
def Confirmed (host : Host) (l : Ledger) (d : Disk) : Prop :=
  ∃ m ∈ d.durable, m ∈ d.visible ∧ m.name = .manifest ∧ host.digest m.bytes = l.planSha256

variable {l : Ledger}

theorem Confirmed.settled (h : Confirmed host l d) (hs : Settled host installationId d d') :
    Confirmed host l d' := by
  obtain ⟨m, -, hm, hname, hdigest⟩ := h
  exact ⟨m, by rwa [hs.durable], by rwa [hs.visible], hname, hdigest⟩

theorem rooted_of_record (hd : DiskSound host installationId d) (he : e ∈ d.visible)
    (htemp : e.name.isTemporary = false) : d.rooted = true := by
  by_contra hr
  have hall := hd.rooted (by simpa using hr) e he
  rw [htemp] at hall
  cases hall

theorem Confirmed.rooted (h : Confirmed host l d) (hd : DiskSound host installationId d) :
    d.rooted = true := by
  obtain ⟨m, -, hm, hname, -⟩ := h
  exact rooted_of_record hd hm (by rw [hname]; rfl)

/-- A record that has been read is there. -/
theorem mem_of_read (hd : DiskSound host installationId d) {bytes : Bytes}
    (h : some bytes = (d.file n).map (·.bytes)) : ∃ e ∈ d.visible, e.name = n ∧ e.bytes = bytes := by
  obtain ⟨e, he, hbytes⟩ := Option.map_eq_some_iff.mp h.symm
  obtain ⟨hmem, hname⟩ := (file_eq_some hd).mp he
  exact ⟨e, hmem, hname, hbytes⟩

theorem Settled.again (h : Settled host installationId d d') : Settled host installationId d' d' :=
  ⟨h.sound, rfl, h.durable.trans h.visible.symm, rfl, fun hr => hr⟩

theorem verifyCustody_safe (hd : DiskSound host installationId d) :
    l.verifyCustody.Safe (StepOk host installationId adds)
      (fun _ d' => Settled host installationId d d' ∧ d'.rooted = true) d := by
  refine safe_observe_then (.refl hd) (safe_require_then fun _ => ?_)
  refine read_then hd rfl fun stored d₁ hs hstored => ?_
  refine safe_observe_then (.refl hs.sound) (safe_require fun hsame => ⟨hs, ?_⟩)
  obtain ⟨e, he, hname, -⟩ := mem_of_read hd (hsame.symm.trans hstored)
  exact hs.rooted (rooted_of_record hd he (by rw [hname]; rfl))

theorem verifyManifest_safe (hd : DiskSound host installationId d) :
    (l.verifyManifest host).Safe (StepOk host installationId adds)
      (fun _ d' => Settled host installationId d d' ∧ Confirmed host l d') d := by
  have hparent := syncParent_sound hd
  refine safe_modify_then (syncParent_stepOk hd) (safe_modify_then (syncDirectory_stepOk hparent) ?_)
  have hs : Settled host installationId d d.syncParent.syncDirectory :=
    ⟨syncDirectory_sound hparent, rfl, rfl, rfl, hd.anchored⟩
  refine safe_observe_then (.refl hs.sound) (safe_require_then fun _ => ?_)
  refine Safe.bind (verifyCustody_safe hs.sound) ?_
  rintro _ d₂ ⟨hs₂, -⟩
  refine read_then hs₂.sound rfl fun stored d₃ hs₃ hstored => ?_
  cases stored with
  | none => trivial
  | some bytes =>
    refine safe_require_then fun hdigest => safe_pure ⟨hs.trans (hs₂.trans hs₃), ?_⟩
    obtain ⟨m, hm, hname, hbytes⟩ := mem_of_read hs₂.sound hstored
    exact ⟨m, by rwa [hs₃.durable], by rwa [hs₃.visible], hname, by rw [hbytes, hdigest]⟩

theorem executionQPair_safe (hd : DiskSound host installationId d) :
    (l.executionQPair host).Safe (StepOk host installationId adds)
      (fun _ d' => Settled host installationId d d') d := by
  refine read_then hd rfl fun intent d₁ hs₁ _ => ?_
  refine read_then hs₁.sound rfl fun created d₂ hs₂ _ => ?_
  have hs := hs₁.trans hs₂
  have hnone : (do
      let intentAgain ← readRecord .executionIntent maxRecord
      let createdAgain ← readRecord .executionCreated maxRecord
      require (intentAgain = none ∧ createdAgain = none)
      return none : Program Disk (Option (ExecutionQCreateIntent × ExecutionQCreated))).Safe
        (StepOk host installationId adds) (fun _ d' => Settled host installationId d d') d₂ := by
    refine read_then hs.sound rfl fun intentAgain d₃ hs₃ _ => ?_
    refine read_then hs₃.sound rfl fun createdAgain d₄ hs₄ _ => ?_
    exact safe_require_then fun _ => safe_pure ((hs.trans hs₃).trans hs₄)
  match intent, created with
  | none, _ => exact hnone
  | some _, none => exact hnone
  | some intent, some created =>
    dsimp only
    split
    case h_1 => exact safe_require_then fun _ => safe_pure hs
    case h_2 => trivial

theorem makeDirectory_safe (hd : DiskSound host installationId d) :
    Ledger.makeDirectory.Safe (StepOk host installationId adds)
      (fun created d' => DiskSound host installationId d' ∧ (created = true → d'.rooted = true)) d := by
  have hmade : StepOk host installationId adds d d.makeLedger := makeLedger_stepOk hd
  refine ⟨hmade, ?_⟩
  show Safe _ _ (whenever ((!d.present) = true) (Program.modify Disk.syncParent) >>= fun _ =>
    pure (!d.present)) d.makeLedger
  refine Safe.bind (Q := fun _ d' => DiskSound host installationId d' ∧
    ((!d.present) = true → d'.rooted = true)) ?_ fun _ d' h => safe_pure h
  refine safe_whenever (fun hcreated => ?_) fun h => ⟨hmade.sound, fun h' => absurd h' h⟩
  refine safe_modify (syncParent_stepOk hmade.sound) ⟨syncParent_sound hmade.sound, fun _ => ?_⟩
  have habsent : d.present = false := by simpa using hcreated
  simp [Disk.syncParent, Disk.makeLedger, habsent]

theorem makeQuarantine_rooted : d.makeQuarantine.rooted = d.rooted := by
  unfold Disk.makeQuarantine
  split <;> rfl

theorem openQuarantine_safe (hd : DiskSound host installationId d) (create : Bool) :
    (Ledger.openQuarantine create).Safe (StepOk host installationId adds)
      (fun _ d' => DiskSound host installationId d' ∧ d'.rooted = d.rooted) d := by
  refine Safe.bind (Q := fun _ d' => DiskSound host installationId d' ∧ d'.rooted = d.rooted) ?_ ?_
  · refine safe_whenever (fun _ => ?_) fun _ => ⟨hd, rfl⟩
    have hmade : StepOk host installationId adds d d.makeQuarantine := makeQuarantine_stepOk hd
    refine ⟨hmade, safe_require_then fun _ => ?_⟩
    exact safe_modify (syncDirectory_stepOk hmade.sound)
      ⟨syncDirectory_sound hmade.sound, makeQuarantine_rooted⟩
  · rintro _ d₁ ⟨hd₁, hr⟩
    exact safe_observe_then (.refl hd₁) (safe_require fun _ => ⟨hd₁, hr⟩)

theorem writeCustody_safe (hd : DiskSound host installationId d) (hr : d.rooted = true)
    (hadds : ∀ durable bytes, adds durable ⟨.custody, bytes, true⟩) (u : String) :
    (l.writeCustody u).Safe (StepOk host installationId adds)
      (fun _ d' => DiskSound host installationId d') d := by
  refine safe_observe_then (.refl hd) ?_
  refine Safe.bind (writeExact_safe (n := .custody) hd hr rfl trivial (hadds _ _) u) ?_
  exact fun _ d₁ ⟨_, _, hs⟩ => safe_pure hs.sound

/-- **Opening** a ledger: it has the manifest that was confirmed, which is this one or was there. -/
theorem createOrResume_safe (hd : DiskSound host installationId d)
    (hcustody : ∀ durable bytes, adds durable ⟨.custody, bytes, true⟩)
    (plan : Bytes) (confirmed u u' : String)
    (hmanifest : ∀ durable, host.digest plan = confirmed → adds durable ⟨.manifest, plan, true⟩) :
    (Ledger.createOrResume host installationId plan confirmed u u').Safe
      (StepOk host installationId adds)
      (fun l d' => l = ⟨installationId, confirmed⟩ ∧ Confirmed host l d' ∧
        ∃ m ∈ d'.durable, m.name = .manifest ∧ m.bytes = plan) d := by
  refine safe_require_then fun hdigest => safe_require_then fun _ => ?_
  refine Safe.bind (makeDirectory_safe hd) ?_
  rintro created d₁ ⟨hd₁, hrooted⟩
  refine Safe.bind (openQuarantine_safe hd₁ created) ?_
  rintro _ d₂ ⟨hd₂, hr₂⟩
  refine safe_observe_then (.refl hd₂) (safe_require_then fun _ => ?_)
  refine Safe.bind (Q := fun _ d' => DiskSound host installationId d') ?_ ?_
  · refine safe_whenever (fun hc => ?_) fun _ => hd₂
    exact writeCustody_safe hd₂ (hr₂.trans (hrooted hc)) hcustody u
  rintro _ d₃ hd₃
  refine Safe.bind (verifyCustody_safe hd₃) ?_
  rintro _ d₄ ⟨hs₄, hr₄⟩
  have hgrounded : Grounded host installationId d₄.visible ⟨.manifest, plan, true⟩ := trivial
  refine Safe.bind ((writeOrVerify_safe hs₄.sound hr₄ rfl hgrounded
    (hmanifest d₄.visible hdigest.2) u').mono (T := fun _ d' => DiskSound host installationId d' ∧
    ∃ m ∈ d'.visible, m.name = .manifest ∧ m.bytes = plan) ?_) ?_
  · rintro _ d₅ (⟨-, hthere, hs⟩ | ⟨-, -, hs⟩)
    · exact ⟨hs.sound, by rw [hs.visible]; exact mem_of_read hs₄.sound hthere.symm⟩
    · exact ⟨hs.sound, _, by rw [hs.visible]; exact List.mem_append_right _ (.head _), rfl, rfl⟩
  rintro _ d₅ ⟨hd₅, hm⟩
  refine Safe.bind (verifyManifest_safe hd₅) ?_
  rintro _ d₆ ⟨hs₆, hconfirmed⟩
  refine Safe.bind (executionQPair_safe hs₆.sound) ?_
  rintro _ d₇ hs₇
  exact safe_pure ⟨rfl, hconfirmed.settled hs₇, by rwa [hs₇.durable, hs₆.visible]⟩

theorem openExisting_safe (hd : DiskSound host installationId d) (confirmed : String) :
    (Ledger.openExisting host installationId confirmed).Safe (StepOk host installationId adds)
      (fun l d' => l = ⟨installationId, confirmed⟩ ∧ Confirmed host l d') d := by
  refine safe_require_then fun _ => safe_require_then fun _ => ?_
  refine safe_observe_then (.refl hd) (safe_require_then fun _ => ?_)
  refine Safe.bind (openQuarantine_safe hd false) ?_
  rintro _ d₁ ⟨hd₁, -⟩
  refine safe_observe_then (.refl hd₁) (safe_require_then fun _ => ?_)
  refine Safe.bind (verifyManifest_safe hd₁) ?_
  rintro _ d₂ ⟨hs₂, hconfirmed⟩
  refine Safe.bind (executionQPair_safe hs₂.sound) ?_
  rintro _ d₃ hs₃
  exact safe_pure ⟨rfl, hconfirmed.settled hs₃⟩

/-! ## The records of an action -/

theorem requireNoResult_safe (hd : DiskSound host installationId d) (key : String) :
    (Ledger.requireNoResult key).Safe (StepOk host installationId adds)
      (fun _ d' => Settled host installationId d d') d :=
  read_then hd rfl fun _ _ hs _ => safe_require fun _ => hs

/-- **An intent** is durable when the call returns; one that this call has not created was there. -/
theorem recordIntent_safe (hd : DiskSound host l.installationId d) (resource : ResourceKind)
    (identity u : String)
    (hadds : ∀ durable, adds durable ⟨.intent (host.digest (l.intentBytes resource identity)),
      l.intentBytes resource identity, true⟩) :
    (l.recordIntent host resource identity u).Safe (StepOk host l.installationId adds)
      (fun r d' => Confirmed host l d' ∧
        r.key = host.digest (l.intentBytes resource identity) ∧
        (∃ i ∈ d'.durable, i.name = .intent r.key) ∧
        (r.created = false → ∃ i ∈ d.visible, i.name = .intent r.key)) d := by
  refine Safe.bind (verifyManifest_safe hd) ?_
  rintro _ d₁ ⟨hs₁, hconfirmed⟩
  refine safe_require_then fun _ => ?_
  refine read_then hs₁.sound rfl fun before d₂ hs₂ _ => ?_
  refine Safe.bind (Q := fun _ d' => Settled host l.installationId d₂ d') ?_ ?_
  · exact safe_whenever (fun _ => requireNoResult_safe hs₂.sound _) fun _ => hs₂.again
  rintro _ d₃ hs₃
  have hs : Settled host l.installationId d d₃ := (hs₁.trans hs₂).trans hs₃
  have hconfirmed₃ := (hconfirmed.settled hs₂).settled hs₃
  have hr₃ := hconfirmed₃.rooted hs₃.sound
  obtain ⟨m, -, hm, hmname, hmdigest⟩ := hconfirmed₃
  have hgrounded : Grounded host l.installationId d₃.visible
      ⟨.intent (host.digest (l.intentBytes resource identity)), l.intentBytes resource identity,
        true⟩ :=
    ⟨m, hm, hmname, rfl, resource, identity, by rw [hmdigest]⟩
  refine Safe.bind (writeOrVerify_safe hs₃.sound hr₃ rfl hgrounded (hadds _) u) ?_
  rintro created d₄ hwritten
  have hs₄ : Settled host l.installationId d₄ d₄ := by
    obtain ⟨-, -, hs⟩ | ⟨-, -, hs⟩ := hwritten <;> exact hs.again
  refine Safe.bind (Q := fun _ d' => Settled host l.installationId d₄ d') ?_ ?_
  · exact safe_whenever (fun _ => requireNoResult_safe hs₄.sound _) fun _ => hs₄
  rintro _ d₅ hs₅
  refine Safe.bind (verifyManifest_safe hs₅.sound) ?_
  rintro _ d₆ ⟨hs₆, hconfirmed₆⟩
  refine read_then hs₆.sound rfl fun stored d₇ hs₇ hstored => ?_
  refine safe_require_then fun hsame => safe_pure ⟨hconfirmed₆.settled hs₇, rfl, ?_, ?_⟩
  · obtain ⟨i, hi, hname, -⟩ := mem_of_read hs₆.sound (hsame.symm.trans hstored)
    exact ⟨i, by rwa [hs₇.durable], hname⟩
  · intro hcreated
    obtain ⟨-, hthere, -⟩ | ⟨hnew, -⟩ := hwritten
    · obtain ⟨i, hi, hname, -⟩ := mem_of_read hs₃.sound hthere.symm
      exact ⟨i, by rwa [← hs.visible], hname⟩
    · cases hnew.symm.trans hcreated

/-- The intent of a key: its digest is the key, and it is of this ledger. -/
def IntentOf (host : Host) (l : Ledger) (key : String) (e : FileEntry) : Prop :=
  e.name = .intent key ∧ host.digest e.bytes = key ∧
    ∃ resource identity, e.bytes = l.intentBytes resource identity

theorem verifyIntent_safe (hd : DiskSound host installationId d) (intent : PersistedIntent) :
    (l.verifyIntent host intent).Safe (StepOk host installationId adds)
      (fun _ d' => Settled host installationId d d' ∧ Confirmed host l d' ∧
        ∃ i ∈ d'.visible, IntentOf host l intent.key i) d := by
  refine Safe.bind (verifyManifest_safe hd) ?_
  rintro _ d₁ ⟨hs₁, hconfirmed⟩
  refine safe_require_then fun _ => ?_
  refine read_then hs₁.sound rfl fun original d₂ hs₂ horiginal => ?_
  cases original with
  | none => trivial
  | some original =>
    refine safe_require_then fun hdigest => ?_
    split
    case h_1 => trivial
    case h_2 record _ =>
        refine safe_require fun hvalid => ⟨hs₁.trans hs₂, hconfirmed.settled hs₂, ?_⟩
        obtain ⟨i, hi, hname, hbytes⟩ := mem_of_read hs₁.sound horiginal
        refine ⟨i, by rwa [hs₂.visible], hname, by rw [hbytes, hdigest], record.resource,
          record.identitySha256, ?_⟩
        simp only [Ledger.intentValid, Bool.and_eq_true, decide_eq_true_eq] at hvalid
        obtain ⟨⟨⟨⟨⟨hschema, hid⟩, hplan⟩, haction⟩, -⟩, htext⟩ := hvalid
        rw [hbytes, Ledger.intentBytes, Ledger.intentRecord, ← htext, ← hschema, ← hid, ← hplan,
          ← haction]

/-- **A result that is read** is durable. -/
theorem recordedResult_safe (hd : DiskSound host installationId d) (intent : PersistedIntent) :
    (l.recordedResult host intent).Safe (StepOk host installationId adds)
      (fun r d' => DiskSound host installationId d' ∧ ∀ outcome, r = some outcome →
        ∃ e ∈ d'.durable, e.name = .result intent.key ∧
          e.bytes = l.resultBytes intent.key outcome) d := by
  refine Safe.bind (verifyIntent_safe hd intent) ?_
  rintro _ d₁ ⟨hs₁, -, -⟩
  refine read_then hs₁.sound rfl fun bytes d₂ hs₂ _ => ?_
  cases bytes with
  | none =>
    refine Safe.bind (verifyManifest_safe hs₂.sound) ?_
    rintro _ d₃ ⟨hs₃, -⟩
    exact safe_pure ⟨hs₃.sound, fun _ h => by cases h⟩
  | some bytes =>
    dsimp only
    split
    case h_1 => trivial
    case h_2 record _ =>
        refine safe_require_then fun hvalid => ?_
        refine Safe.bind (verifyManifest_safe hs₂.sound) ?_
        rintro _ d₃ ⟨hs₃, -⟩
        refine read_then hs₃.sound rfl fun again d₄ hs₄ hagain => safe_require_then fun hsame => ?_
        refine safe_pure ⟨hs₄.sound, fun outcome houtcome => ?_⟩
        cases houtcome
        obtain ⟨e, he, hname, hbytes⟩ := mem_of_read hs₃.sound (hsame.symm.trans hagain)
        refine ⟨e, by rwa [hs₄.durable], hname, ?_⟩
        simp only [Ledger.resultValid, Bool.and_eq_true, decide_eq_true_eq] at hvalid
        obtain ⟨⟨⟨⟨hschema, hid⟩, hplan⟩, hkey⟩, htext⟩ := hvalid
        rw [hbytes, Ledger.resultBytes, Ledger.resultRecord, ← htext, ← hschema, ← hid, ← hplan,
          ← hkey]

/-- **A result** is written once, after its intent; the one that says that the object was absent is
for an intent that was there before. -/
theorem recordResult_safe (hd : DiskSound host l.installationId d) (intent : PersistedIntent)
    (outcome : Outcome) (u : String)
    (hadds : ∀ durable, (∃ i ∈ durable, IntentOf host l intent.key i) →
      (outcome = .alreadyAbsentAfterRetry → intent.created = false) →
      adds durable ⟨.result intent.key, l.resultBytes intent.key outcome, true⟩) :
    (l.recordResult host intent outcome u).Safe (StepOk host l.installationId adds)
      (fun _ d' => DiskSound host l.installationId d' ∧ ∃ e ∈ d'.durable,
        e.name = .result intent.key ∧ e.bytes = l.resultBytes intent.key outcome) d := by
  refine Safe.bind (verifyIntent_safe hd intent) ?_
  rintro _ d₁ ⟨hs₁, hconfirmed, i, hi, hintent⟩
  have hr := hconfirmed.rooted hs₁.sound
  obtain ⟨m, -, hm, hmname, hmdigest⟩ := hconfirmed
  refine safe_require_then fun hretry => ?_
  have hgrounded : Grounded host l.installationId d₁.visible
      ⟨.result intent.key, l.resultBytes intent.key outcome, true⟩ := by
    obtain ⟨hname, hdigest, resource, identity, hbytes⟩ := hintent
    refine ⟨m, hm, hmname, ⟨outcome, by rw [hmdigest]⟩, i, hi, hname, hdigest, resource, identity, ?_⟩
    rw [hbytes, hmdigest]
  have hadds' := hadds d₁.visible ⟨i, hi, hintent⟩ fun h => by
    simpa [PersistedIntent.isRetry] using hretry h
  refine Safe.bind ((writeOrVerify_safe hs₁.sound hr rfl hgrounded hadds' u).mono
    (T := fun _ d' => DiskSound host l.installationId d') ?_) ?_
  · rintro _ d₂ (⟨-, -, hs⟩ | ⟨-, -, hs⟩) <;> exact hs.sound
  rintro _ d₂ hd₂
  refine Safe.bind (verifyManifest_safe hd₂) ?_
  rintro _ d₃ ⟨hs₃, -⟩
  refine read_then hs₃.sound rfl fun stored d₄ hs₄ hstored => safe_require fun hsame => ?_
  obtain ⟨e, he, hname, hbytes⟩ := mem_of_read hs₃.sound (hsame.symm.trans hstored)
  exact ⟨hs₄.sound, e, by rwa [hs₄.durable], hname, hbytes⟩

/-! ## A loss of power -/

/-- **A loss of power** leaves every durable record as it is, and adds none. -/
theorem powerLoss_sound (hd : DiskSound host installationId d) {kept : List FileEntry}
    {present quarantine : Bool} (h : d.powerLoss kept present quarantine = some d') :
    DiskSound host installationId d' ∧
      (∀ e ∈ d.durable, e.name.isTemporary = false → e ∈ d'.durable) ∧
      ∀ e ∈ d'.visible, e.name.isTemporary = false → e ∈ d.visible := by
  unfold Disk.powerLoss at h
  split at h
  case isTrue hgone =>
      cases h
      refine ⟨⟨by simp, by simp, by simp, by simp, by simp, by simp, by simp⟩, ?_, by simp⟩
      intro e he htemp
      have hall := hd.rooted hgone.2.2 e (hd.kept e he htemp)
      rw [htemp] at hall
      cases hall
  case isFalse =>
      split at h
      case isFalse => cases h
      case isTrue hsurvives =>
          obtain ⟨hnodup, horigin, hleft⟩ := hsurvives
          have hvisible (e : FileEntry) (he : e ∈ kept) (htemp : e.name.isTemporary = false) :
              e ∈ d.visible := by
            obtain ⟨old, hold, hname, hsame⟩ := horigin e he
            have holdtemp : old.name.isTemporary = false := by rwa [hname]
            have hmem : old ∈ d.visible := by
              rcases List.mem_append.mp hold with hold | hold
              · exact hold
              · exact hd.kept old hold holdtemp
            rwa [hsame (hd.synced old hmem holdtemp)]
          have hdurable (e : FileEntry) (he : e ∈ d.durable) (htemp : e.name.isTemporary = false) :
              e ∈ kept := by
            have hmem := hd.kept e he htemp
            obtain ⟨left, hmemleft, -, hsame⟩ := hleft e he hmem
            rwa [← hsame (hd.synced e hmem htemp)]
          cases h
          refine ⟨⟨hnodup, ?_, fun _ h _ => h, ?_, ?_, fun h => h, ?_⟩, hdurable, hvisible⟩
          · exact fun e he htemp => hd.synced e (hvisible e he htemp) htemp
          · intro hr e he
            by_contra htemp
            have hmem := hvisible e he (by simpa using htemp)
            rw [(hd.absent hr).1] at hmem
            cases hmem
          · intro hp
            have hnone : kept = [] := by
              rw [List.eq_nil_iff_forall_not_mem]
              intro e he
              obtain ⟨old, hold, -⟩ := horigin e he
              simp [hd.absent hp] at hold
            exact ⟨hnone, hnone⟩
          · intro e he
            by_cases htemp : e.name.isTemporary = true
            · unfold Grounded
              split <;> simp_all [EntryName.isTemporary]
            · have hmem := hvisible e he (by simpa using htemp)
              exact (hd.grounded e hmem).mono hdurable

end Marty.Installer
