import Marty.Installer.PurgeSafety

/-!
# Runs of the purge ledger

A coordinator opens the ledger of an installation, records intents and results and reads results;
any call can fail at any of its steps, the process can end there, and so can the power.  Each
later process starts from the directory alone.

## Main definitions

* `System`, `step`, `run` — the directory and the process, one call to the system at a time.
* `Call.Adds` — the records that a call may add.
* `WriteAhead`, `Kept` — what holds in every state, and between any two states of a run.

## Main results

* `ledger_write_ahead` — along every run, from a directory that is not there yet.
-/

namespace Marty.Installer

open Lib Lib.Json Lib.Program

/-- An intent that a process holds, with the entries that were there when the call that recorded
it began. -/
structure Held where
  intent : PersistedIntent
  before : List FileEntry
  deriving DecidableEq

inductive Call
  | createOrResume (plan : Bytes) (confirmed pending pending' : String)
  | openExisting (confirmed : String)
  | recordIntent (l : Ledger) (resource : ResourceKind) (identitySha256 pending : String)
  | recordedResult (l : Ledger) (held : Held)
  | recordResult (l : Ledger) (held : Held) (outcome : Outcome) (pending : String)

/-- What a call returns. -/
inductive Answer
  | opened (l : Ledger)
  | intended (intent : PersistedIntent)
  | outcome (key : String) (outcome : Option Outcome)

structure Running where
  call : Call
  /-- The entries that were there when the call began. -/
  before : List FileEntry
  rest : Program Disk Answer

/-- The directory and the process; `answers` are the outcomes that a coordinator has been told. -/
structure System where
  disk : Disk
  ledger : Option Ledger
  intents : List Held
  running : Option Running
  answers : List (String × Outcome)

inductive Event
  | begin (call : Call)
  | advance
  | refuse
  | close
  | crash
  | powerLoss (kept : List FileEntry) (present quarantine : Bool)
  | environment (stamps : Stamps) (quarantine : List String)

namespace Call

def program (host : Host) (installationId : String) : Call → Program Disk Answer
  | createOrResume plan confirmed pending pending' =>
      Ledger.createOrResume host installationId plan confirmed pending pending' >>=
        fun l => pure (.opened l)
  | openExisting confirmed =>
      Ledger.openExisting host installationId confirmed >>= fun l => pure (.opened l)
  | recordIntent l resource identitySha256 pending =>
      l.recordIntent host resource identitySha256 pending >>= fun intent => pure (.intended intent)
  | recordedResult l held =>
      l.recordedResult host held.intent >>= fun r => pure (.outcome held.intent.key r)
  | recordResult l held outcome pending =>
      l.recordResult host held.intent outcome pending >>=
        fun _ => pure (.outcome held.intent.key (some outcome))

/-- The process has what the call works with. -/
def enabled (s : System) : Call → Prop
  | createOrResume .. | openExisting _ => s.ledger = none
  | recordIntent l .. => s.ledger = some l
  | recordedResult l held | recordResult l held .. => s.ledger = some l ∧ held ∈ s.intents

instance (s : System) (call : Call) : Decidable (call.enabled s) := by
  cases call <;> unfold enabled <;> infer_instance

end Call

namespace System

/-- A directory that is not there yet. -/
def fresh (stamps : Stamps) : System :=
  ⟨⟨false, false, none, false, [], [], stamps⟩, none, [], none, []⟩

/-- A new process. -/
def restart (s : System) (disk : Disk) : System := ⟨disk, none, [], none, s.answers⟩

def finish (s : System) (r : Running) (a : Answer) : System :=
  match a with
  | .opened l => { s with ledger := some l, running := none }
  | .intended intent => { s with intents := ⟨intent, r.before⟩ :: s.intents, running := none }
  | .outcome key (some outcome) =>
      { s with answers := (key, outcome) :: s.answers, running := none }
  | .outcome _ none => { s with running := none }

end System

/-- Between two calls, the directories may be others, and the coordinator moves objects into the
quarantine. -/
def Disk.environment (stamps : Stamps) (quarantine : List String) (d : Disk) : Disk :=
  { d with stamps, quarantine := d.quarantine.map fun _ => quarantine }

def step (host : Host) (installationId : String) (s : System) : Event → Option System
  | .begin call =>
      if s.running.isNone ∧ call.enabled s then
        some { s with running := some ⟨call, s.disk.visible, call.program host installationId⟩ }
      else none
  | .advance =>
      match s.running with
      | none => none
      | some r =>
          match r.rest with
          | .done a => some (s.finish r a)
          | .refused => some { s with running := none }
          | .step change next =>
              some { s with disk := change s.disk, running := some { r with rest := next s.disk } }
  | .refuse => some { s with running := none }
  | .close => if s.running.isNone then some { s with ledger := none } else none
  | .crash => some (s.restart s.disk)
  | .powerLoss kept present quarantine => (s.disk.powerLoss kept present quarantine).map s.restart
  | .environment stamps quarantine =>
      if s.running.isNone then some { s with disk := s.disk.environment stamps quarantine } else none

def run (host : Host) (installationId : String) (s : System) : List Event → Option System
  | [] => some s
  | event :: events => (step host installationId s event).bind fun s' =>
      run host installationId s' events

variable {host : Host} {installationId : String} {s s' s₁ : System} {event : Event}
variable {events : List Event}

/-! ## What holds of a state -/

/-- **The records that a call may add.**  A result is added by the call that records its outcome;
its intent is durable then, and the outcome that says that the object was absent is for an intent
that was there before the call that has given it to the coordinator. -/
def Call.Adds (host : Host) : Call → List FileEntry → FileEntry → Prop
  | .createOrResume plan confirmed .., _, e =>
      e.name = .custody ∨ e.name = .manifest ∧ e.bytes = plan ∧ host.digest plan = confirmed
  | .openExisting _, _, _ => False
  | .recordIntent l resource identitySha256 _, _, e =>
      e.name = .intent (host.digest (l.intentBytes resource identitySha256)) ∧
        e.bytes = l.intentBytes resource identitySha256
  | .recordedResult .., _, _ => False
  | .recordResult l held outcome _, durable, e =>
      e.name = .result held.intent.key ∧ e.bytes = l.resultBytes held.intent.key outcome ∧
        (∃ i ∈ durable, IntentOf host l held.intent.key i) ∧
        (outcome = .alreadyAbsentAfterRetry → ∃ i ∈ held.before, i.name = .intent held.intent.key)

/-- **The ledger is written ahead**: a result has its durable intent, under the same manifest; the
ledger that is open has the manifest that was confirmed; and what a coordinator has been told is
what is recorded. -/
structure WriteAhead (host : Host) (installationId : String) (s : System) : Prop where
  results : ∀ r ∈ s.disk.visible, ∀ key, r.name = .result key →
    ∃ m ∈ s.disk.durable, m.name = .manifest ∧
      (∃ i ∈ s.disk.durable, IntentOf host ⟨installationId, host.digest m.bytes⟩ key i) ∧
      ∃ outcome, r.bytes = Ledger.resultBytes ⟨installationId, host.digest m.bytes⟩ key outcome
  manifest : ∀ l, s.ledger = some l → l.installationId = installationId ∧ Confirmed host l s.disk
  answers : ∀ key outcome, (key, outcome) ∈ s.answers → ∃ r ∈ s.disk.durable,
    r.name = .result key ∧ ∃ l : Ledger, r.bytes = l.resultBytes key outcome
  agree : ∀ key outcome outcome', (key, outcome) ∈ s.answers → (key, outcome') ∈ s.answers →
    outcome = outcome'

/-- **What a run keeps**: a durable record stays as it is, and no other is ever read in its
place. -/
structure Kept (s s' : System) : Prop where
  durable : ∀ e ∈ s.disk.durable, e.name.isTemporary = false → e ∈ s'.disk.durable
  unchanged : ∀ e ∈ s.disk.durable, e.name.isTemporary = false → ∀ e' ∈ s'.disk.visible,
    e'.name = e.name → e' = e

def Event.isPowerLoss : Event → Bool
  | .powerLoss .. => true
  | _ => false

/-! ## The invariant -/

/-- What a call has to return. -/
def Returns (host : Host) (installationId : String) (before : List FileEntry) :
    Answer → Disk → Prop
  | .opened l, d => l.installationId = installationId ∧ Confirmed host l d
  | .intended intent, _ => intent.created = false → ∃ i ∈ before, i.name = .intent intent.key
  | .outcome key (some outcome), d => ∃ r ∈ d.durable, r.name = .result key ∧
      ∃ l : Ledger, r.bytes = l.resultBytes key outcome
  | .outcome _ none, _ => True

structure Sound (host : Host) (installationId : String) (s : System) : Prop where
  disk : DiskSound host installationId s.disk
  ledger : ∀ l, s.ledger = some l → l.installationId = installationId ∧ Confirmed host l s.disk
  held : ∀ held ∈ s.intents, held.intent.created = false →
    ∃ i ∈ held.before, i.name = .intent held.intent.key
  running : ∀ r, s.running = some r → r.rest.Safe
    (StepOk host installationId (r.call.Adds host)) (Returns host installationId r.before) s.disk
  answers : ∀ key outcome, (key, outcome) ∈ s.answers → ∃ r ∈ s.disk.durable,
    r.name = .result key ∧ ∃ l : Ledger, r.bytes = l.resultBytes key outcome

/-- **Every call is safe** when it begins. -/
theorem program_safe (hs : Sound host installationId s) {call : Call} (h : call.enabled s) :
    (call.program host installationId).Safe (StepOk host installationId (call.Adds host))
      (Returns host installationId s.disk.visible) s.disk := by
  cases call with
  | createOrResume plan confirmed u u' =>
    refine Safe.bind (createOrResume_safe hs.disk (fun _ _ => .inl rfl) plan confirmed u u'
      fun _ hdigest => .inr ⟨rfl, rfl, hdigest⟩) ?_
    rintro l d ⟨rfl, hconfirmed, -⟩
    exact safe_pure ⟨rfl, hconfirmed⟩
  | openExisting confirmed =>
    refine Safe.bind (openExisting_safe hs.disk confirmed) ?_
    rintro l d ⟨rfl, hconfirmed⟩
    exact safe_pure ⟨rfl, hconfirmed⟩
  | recordIntent l resource identity u =>
    obtain ⟨rfl, -⟩ := hs.ledger l h
    refine Safe.bind (recordIntent_safe hs.disk resource identity u fun _ => ⟨rfl, rfl⟩) ?_
    rintro intent d ⟨-, -, -, hthere⟩
    exact safe_pure hthere
  | recordedResult l held =>
    refine Safe.bind (recordedResult_safe hs.disk held.intent) ?_
    rintro r d ⟨-, hdurable⟩
    cases r with
    | none => exact safe_pure trivial
    | some outcome =>
      obtain ⟨e, he, hname, hbytes⟩ := hdurable outcome rfl
      exact safe_pure ⟨e, he, hname, l, hbytes⟩
  | recordResult l held outcome u =>
    obtain ⟨hledger, hheld⟩ := h
    obtain ⟨rfl, -⟩ := hs.ledger l hledger
    refine Safe.bind (recordResult_safe hs.disk held.intent outcome u ?_) ?_
    · exact fun durable hintent hretry =>
        ⟨rfl, rfl, hintent, fun habsent => hs.held held hheld (hretry habsent)⟩
    · rintro _ d ⟨-, e, he, hname, hbytes⟩
      exact safe_pure ⟨e, he, hname, l, hbytes⟩

/-! ## One step -/

/-- What the records keep from one disk to the next. -/
structure Carried (d d' : Disk) : Prop where
  visible : ∀ e ∈ d.visible, e.name.isTemporary = false → e ∈ d'.visible
  durable : ∀ e ∈ d.durable, e.name.isTemporary = false → e ∈ d'.durable

theorem StepOk.carried {adds : List FileEntry → FileEntry → Prop} {d d' : Disk}
    (h : StepOk host installationId adds d d') : Carried d d' := ⟨h.visible, h.durable⟩

theorem Confirmed.carried {l : Ledger} {d d' : Disk} (h : Confirmed host l d) (hd : Carried d d') :
    Confirmed host l d' := by
  obtain ⟨m, hm, hm', hname, hdigest⟩ := h
  have htemp : m.name.isTemporary = false := by rw [hname]; rfl
  exact ⟨m, hd.durable m hm htemp, hd.visible m hm' htemp, hname, hdigest⟩

/-- What the coordinator has been told stays recorded. -/
theorem answers_carried {answers : List (String × Outcome)} {durable durable' : List FileEntry}
    (h : ∀ key outcome, (key, outcome) ∈ answers → ∃ r ∈ durable,
      r.name = .result key ∧ ∃ l : Ledger, r.bytes = l.resultBytes key outcome)
    (hkept : ∀ e ∈ durable, e.name.isTemporary = false → e ∈ durable') :
    ∀ key outcome, (key, outcome) ∈ answers → ∃ r ∈ durable',
      r.name = .result key ∧ ∃ l : Ledger, r.bytes = l.resultBytes key outcome := by
  intro key outcome hmem
  obtain ⟨r, hr, hname, hl⟩ := h key outcome hmem
  exact ⟨r, hkept r hr (by rw [hname]; rfl), hname, hl⟩

/-- A new process, on a disk that has kept its durable records. -/
theorem restart_sound (hs : Sound host installationId s) {d : Disk}
    (hd : DiskSound host installationId d)
    (hkept : ∀ e ∈ s.disk.durable, e.name.isTemporary = false → e ∈ d.durable) :
    Sound host installationId (s.restart d) :=
  ⟨hd, nofun, nofun, nofun, answers_carried hs.answers hkept⟩

theorem finish_sound (hs : Sound host installationId s) {r : Running} {a : Answer}
    (h : Returns host installationId r.before a s.disk) :
    Sound host installationId (s.finish r a) := by
  match a with
  | .opened l =>
    refine ⟨hs.disk, ?_, hs.held, nofun, hs.answers⟩
    rintro _ ⟨⟩
    exact h
  | .intended intent =>
    refine ⟨hs.disk, hs.ledger, ?_, nofun, hs.answers⟩
    intro held hheld
    rcases List.mem_cons.mp hheld with rfl | hheld
    · exact h
    · exact hs.held held hheld
  | .outcome key (some outcome) =>
    refine ⟨hs.disk, hs.ledger, hs.held, nofun, ?_⟩
    intro key' outcome' hmem
    rcases List.mem_cons.mp hmem with heq | hmem
    · cases heq
      exact h
    · exact hs.answers key' outcome' hmem
  | .outcome key none => exact ⟨hs.disk, hs.ledger, hs.held, nofun, hs.answers⟩

theorem finish_disk {r : Running} {a : Answer} : (s.finish r a).disk = s.disk := by
  unfold System.finish
  split <;> rfl

/-- What one event does to the disk. -/
structure Stepped (host : Host) (s : System) (event : Event) (s' : System) : Prop where
  durable : ∀ e ∈ s.disk.durable, e.name.isTemporary = false → e ∈ s'.disk.durable
  visible : event.isPowerLoss = false →
    ∀ e ∈ s.disk.visible, e.name.isTemporary = false → e ∈ s'.disk.visible
  added : ∀ e ∈ s'.disk.visible, e.name.isTemporary = false → e ∉ s.disk.visible →
    ∃ r, s.running = some r ∧ r.call.Adds host s.disk.durable e

theorem Stepped.same (h : s'.disk.durable = s.disk.durable) (h' : s'.disk.visible = s.disk.visible) :
    Stepped host s event s' :=
  ⟨fun _ he _ => by rwa [h], fun _ _ he _ => by rwa [h'], fun _ he _ hnew => by
    rw [h'] at he
    exact absurd he hnew⟩

/-- **One step** keeps the invariant. -/
theorem step_sound (hs : Sound host installationId s)
    (h : step host installationId s event = some s') :
    Sound host installationId s' ∧ Stepped host s event s' := by
  unfold step at h
  split at h
  case h_1 call =>
      split at h
      case isFalse => cases h
      case isTrue henabled =>
          cases h
          refine ⟨⟨hs.disk, hs.ledger, hs.held, ?_, hs.answers⟩, .same rfl rfl⟩
          rintro _ ⟨⟩
          exact program_safe hs henabled.2
  case h_2 =>
      split at h
      case h_1 => cases h
      case h_2 r hr =>
          have hsafe := hs.running r hr
          split at h
          case h_1 a ha =>
              cases h
              rw [ha] at hsafe
              refine ⟨finish_sound hs hsafe, .same ?_ ?_⟩
              · rw [finish_disk]
              · rw [finish_disk]
          case h_2 =>
              cases h
              exact ⟨⟨hs.disk, hs.ledger, hs.held, nofun, hs.answers⟩, .same rfl rfl⟩
          case h_3 change next hrest =>
              cases h
              rw [hrest] at hsafe
              obtain ⟨hstep, hnext⟩ := hsafe
              refine ⟨⟨hstep.sound, fun l hl => ?_, hs.held, ?_, ?_⟩, ?_⟩
              · exact ⟨(hs.ledger l hl).1, (hs.ledger l hl).2.carried hstep.carried⟩
              · rintro _ ⟨⟩
                exact hnext
              · exact answers_carried hs.answers hstep.durable
              · refine ⟨hstep.durable, fun _ => hstep.visible, fun e he htemp hnew => ⟨r, hr, ?_⟩⟩
                exact (hstep.added e he htemp).resolve_left hnew
  case h_3 =>
      cases h
      exact ⟨⟨hs.disk, hs.ledger, hs.held, nofun, hs.answers⟩, .same rfl rfl⟩
  case h_4 =>
      split at h
      case isFalse => cases h
      case isTrue =>
          cases h
          exact ⟨⟨hs.disk, nofun, hs.held, hs.running, hs.answers⟩, .same rfl rfl⟩
  case h_5 =>
      cases h
      exact ⟨restart_sound hs hs.disk fun _ he _ => he, .same rfl rfl⟩
  case h_6 kept present quarantine =>
      obtain ⟨d, hd, rfl⟩ := Option.map_eq_some_iff.mp h
      obtain ⟨hdisk, hdurable, hvisible⟩ := powerLoss_sound hs.disk hd
      refine ⟨restart_sound hs hdisk hdurable, hdurable, nofun, fun e he htemp hnew => ?_⟩
      exact absurd (hvisible e he htemp) hnew
  case h_7 stamps quarantine =>
      split at h
      case isFalse => cases h
      case isTrue hidle =>
          cases h
          have hd := hs.disk
          refine ⟨⟨⟨hd.nodup, hd.synced, hd.kept, hd.rooted, hd.absent, hd.anchored, hd.grounded⟩,
            hs.ledger, hs.held, fun r hr => ?_, hs.answers⟩, .same rfl rfl⟩
          rw [hr] at hidle
          cases hidle

/-! ## Runs -/

theorem fresh_sound (stamps : Stamps) : Sound host installationId (.fresh stamps) :=
  ⟨⟨by simp [System.fresh], nofun, nofun, nofun, fun _ => ⟨rfl, rfl⟩, nofun, nofun⟩, nofun, nofun,
    nofun, nofun⟩

theorem run_sound (hs : Sound host installationId s)
    (h : run host installationId s events = some s') :
    Sound host installationId s' ∧
      (∀ e ∈ s.disk.durable, e.name.isTemporary = false → e ∈ s'.disk.durable) ∧
      ((∀ event ∈ events, event.isPowerLoss = false) →
        ∀ e ∈ s.disk.visible, e.name.isTemporary = false → e ∈ s'.disk.visible) := by
  induction events generalizing s with
  | nil =>
    cases h
    exact ⟨hs, fun _ h _ => h, fun _ _ h _ => h⟩
  | cons event events ih =>
    obtain ⟨s₁, h₁, h₂⟩ := Option.bind_eq_some_iff.mp h
    obtain ⟨hs₁, hstepped⟩ := step_sound hs h₁
    obtain ⟨hs', hdurable, hvisible⟩ := ih hs₁ h₂
    refine ⟨hs', fun e he htemp => hdurable e (hstepped.durable e he htemp) htemp, ?_⟩
    intro hquiet e he htemp
    refine hvisible (fun event hevent => hquiet event (.tail _ hevent)) e ?_ htemp
    exact hstepped.visible (hquiet event (.head _)) e he htemp

/-! ## The records that are read -/

theorem toVec_injective {v w : Value} (hv : v.WellFormed) (hw : w.WellFormed)
    (h : toVec v = toVec w) : v = w := by
  have hbytes : (String.ofList v.write).toByteArray = (String.ofList w.write).toByteArray :=
    congrArg List.toByteArray h
  exact Value.write_injective hv hw (String.ofList_injective (String.toByteArray_inj.mp hbytes))

theorem ResultRecord.toValue_wellFormed (r : ResultRecord) : r.toValue.WellFormed := by
  refine ⟨by simp, ?_⟩
  rw [entriesWellFormed_iff]
  simp [Value.WellFormed]

/-- The bytes of a result tell its outcome. -/
theorem resultBytes_outcome {l l' : Ledger} {key key' : String} {outcome outcome' : Outcome}
    (h : l.resultBytes key outcome = l'.resultBytes key' outcome') : outcome = outcome' := by
  have hvalue := toVec_injective (ResultRecord.toValue_wellFormed _)
    (ResultRecord.toValue_wellFormed _) h
  simp only [ResultRecord.toValue, Ledger.resultRecord, Value.object.injEq, List.cons.injEq,
    Prod.mk.injEq, Value.string.injEq] at hvalue
  cases outcome <;> cases outcome' <;> simp_all [Outcome.text]

/-- One record has a name. -/
theorem DiskSound.unique {d : Disk} (hd : DiskSound host installationId d) {e e' : FileEntry}
    (he : e ∈ d.visible) (he' : e' ∈ d.visible) (h : e'.name = e.name) : e' = e :=
  List.inj_on_of_nodup_map hd.nodup he' he h

theorem Sound.writeAhead (hs : Sound host installationId s) : WriteAhead host installationId s := by
  refine ⟨fun r hr key hname => ?_, hs.ledger, hs.answers, fun key outcome outcome' h h' => ?_⟩
  · have hgrounded := hs.disk.grounded r hr
    rw [Grounded, hname] at hgrounded
    obtain ⟨m, hm, hmname, houtcome, i, hi, hiname, hdigest, hbytes⟩ := hgrounded
    exact ⟨m, hm, hmname, ⟨i, hi, hiname, hdigest, hbytes⟩, houtcome⟩
  · obtain ⟨r, hr, hname, l, hbytes⟩ := hs.answers key outcome h
    obtain ⟨r', hr', hname', l', hbytes'⟩ := hs.answers key outcome' h'
    have hsame : r' = r := hs.disk.unique (hs.disk.kept r hr (by rw [hname]; rfl))
      (hs.disk.kept r' hr' (by rw [hname']; rfl)) (hname'.trans hname.symm)
    rw [hsame, hbytes] at hbytes'
    exact resultBytes_outcome hbytes'

/-- **The ledger is written ahead**, along every run from a directory that is not there yet, with
processes and the power that end between any two steps.  What is durable stays as it is, and what
is visible stays while the power does; a record appears only by a call that may add it. -/
theorem ledger_write_ahead {stamps : Stamps} {events' : List Event}
    (h : run host installationId (.fresh stamps) events = some s)
    (h' : run host installationId s events' = some s') :
    WriteAhead host installationId s' ∧ Kept s s' ∧
      ((∀ event ∈ events', event.isPowerLoss = false) →
        ∀ e ∈ s.disk.visible, e.name.isTemporary = false → e ∈ s'.disk.visible) ∧
      ∀ event s₁, step host installationId s' event = some s₁ →
        ∀ e ∈ s₁.disk.visible, e.name.isTemporary = false → e ∉ s'.disk.visible →
          ∃ r, s'.running = some r ∧ r.call.Adds host s'.disk.durable e := by
  obtain ⟨hs, -, -⟩ := run_sound (fresh_sound stamps) h
  obtain ⟨hs', hdurable, hvisible⟩ := run_sound hs h'
  refine ⟨hs'.writeAhead, ⟨hdurable, fun e he htemp e' he' hname => ?_⟩, hvisible,
    fun event s₁ hstep => (step_sound hs' hstep).2.added⟩
  exact hs'.disk.unique (hs'.disk.kept e (hdurable e he htemp) htemp) he' hname

/-! The process ends when the intent has been renamed and its directory has not been synchronized;
the next one finds the intent, and the object gone. -/

namespace PurgeExample

def purgedId : String := "b3f1a2c4-5d6e-4f70-8a91-b2c3d4e5f607"

def plan : Bytes := [123, 125]

def ledger : Ledger :=
  ⟨purgedId, "44136fa355b3678a1146ad16f7e8649e94fb4fc21fe77e8310c060f61caaff8a"⟩

def identity : String := "e3b0c44298fc1c149afbf4c8996fb92427ae41e4649b934ca495991b7852b855"

def intent : Bytes := ledger.intentBytes .hostEntry identity

def key : String := "5b282dc0f51cdf06f8edc3304df535e6698ba5f3a5fce1aae3a71512e8528a7e"

def purgeHost : Host where
  digest bytes := if bytes = plan then ledger.planSha256 else if bytes = intent then key else ""
  readIntent bytes :=
    if bytes = intent then some (ledger.intentRecord .hostEntry identity) else none
  readResult _ := none
  readCreateIntent _ := none
  readCreated _ := none
  euid := 0

def stamps : Stamps :=
  let stamp (ino : Nat) : DirectoryStamp := ⟨1, ino, 0, 0, 0o700, 1⟩
  ⟨stamp 1, stamp 2, stamp 3⟩

def held : Held :=
  ⟨⟨key, false⟩, [⟨.custody, ledger.custodyBytes stamps, true⟩, ⟨.manifest, plan, true⟩,
    ⟨.intent key, intent, true⟩]⟩

def advance (n : Nat) : List Event := List.replicate n .advance

def interrupted : List Event :=
  .begin (.createOrResume plan ledger.planSha256 "0f4c2d1be5a84f6c9d3b7a6e5c4b3a21"
      "1a5d3e2cf6b94a7d8e4c8b7f6d5c4b32") :: advance 451 ++
    .begin (.recordIntent ledger .hostEntry identity "2b6e4f3d07ca4b8e9f5d9c80e7d6c543") ::
    advance 337 ++ [.crash]

def resumed : List Event :=
  .begin (.createOrResume plan ledger.planSha256 "3c705a4e18db4c9f8a6ead91f8e7d654"
      "4d816b5f29ec4da09b7fbea209f8e765") :: advance 39 ++
    .begin (.recordIntent ledger .hostEntry identity "5e927c603afd4eb18c80cfb31a09f876") ::
    advance 39 ++
    .begin (.recordResult ledger held .alreadyAbsentAfterRetry
      "6fa38d714b0e4fc29d91d0c42b1a0987") :: advance 353

/-- The state between two calls. -/
def resting (visible durable : List FileEntry) (ledger : Option Ledger) (intents : List Held) :
    System :=
  ⟨⟨true, true, some [], true, visible, durable, stamps⟩, ledger, intents, none, []⟩

theorem run_eq_resting {s : System} {events : List Event} {visible durable : List FileEntry}
    {ledger : Option Ledger} {intents : List Held}
    (h : (run purgeHost purgedId s events).any (fun s' => s'.running.isNone ∧ s'.answers = [] ∧
      s'.ledger = ledger ∧ s'.intents = intents ∧ s'.disk.present = true ∧
      s'.disk.rooted = true ∧ s'.disk.quarantine = some [] ∧ s'.disk.quarantineRooted = true ∧
      s'.disk.visible = visible ∧ s'.disk.durable = durable ∧ s'.disk.stamps = stamps) = true) :
    run purgeHost purgedId s events = some (resting visible durable ledger intents) := by
  obtain ⟨⟨⟨present, rooted, quarantine, quarantineRooted, visible', durable', stamps'⟩, ledger',
    intents', running, answers⟩, hrun, hfields⟩ := (Option.any_eq_true _ _).mp h
  simp only [decide_eq_true_eq, Option.isNone_iff_eq_none] at hfields
  obtain ⟨rfl, rfl, rfl, rfl, rfl, rfl, rfl, rfl, rfl, rfl, rfl⟩ := hfields
  exact hrun

theorem run_drop {s s' : System} {events : List Event} {n : Nat}
    (h : run purgeHost purgedId s (events.take n) = some s') :
    run purgeHost purgedId s events = run purgeHost purgedId s' (events.drop n) := by
  induction n generalizing s events with
  | zero =>
    cases h
    rfl
  | succ n ih =>
    cases events with
    | nil =>
      cases h
      rfl
    | cons event events =>
      obtain ⟨mid, hstep, hrest⟩ := Option.bind_eq_some_iff.mp h
      simp only [run, hstep, Option.bind_some, List.drop_succ_cons]
      exact ih hrest

def openedFiles : List FileEntry :=
  [⟨.custody, ledger.custodyBytes stamps, true⟩, ⟨.manifest, plan, true⟩]

def intendedFiles : List FileEntry := openedFiles ++ [⟨.intent key, intent, true⟩]

/-! The calls one by one: the first two of the process that ends, and the two of the next one that
find the records. -/

theorem run_interrupted : run purgeHost purgedId (.fresh stamps) interrupted =
    some (resting intendedFiles openedFiles none []) := by
  have hopened : run purgeHost purgedId (.fresh stamps) (interrupted.take 452) =
      some (resting openedFiles openedFiles (some ledger) []) :=
    run_eq_resting (by decide +kernel)
  have hintended : run purgeHost purgedId (resting openedFiles openedFiles (some ledger) [])
      (interrupted.drop 452) = some (resting intendedFiles openedFiles none []) :=
    run_eq_resting (by decide +kernel)
  exact (run_drop hopened).trans hintended

theorem answers_resumed :
    (run purgeHost purgedId (resting intendedFiles openedFiles none []) resumed).map (·.answers) =
      some [(key, .alreadyAbsentAfterRetry)] := by
  have hintended : run purgeHost purgedId (resting intendedFiles openedFiles none [])
      (resumed.take 80) = some (resting intendedFiles intendedFiles (some ledger) [held]) :=
    run_eq_resting (by decide +kernel)
  have hanswered : (run purgeHost purgedId
      (resting intendedFiles intendedFiles (some ledger) [held]) (resumed.drop 80)).map
      (·.answers) = some [(key, .alreadyAbsentAfterRetry)] := by
    decide +kernel
  rw [run_drop hintended]
  exact hanswered

theorem ledger_write_ahead_resumed : ∃ s s',
    run purgeHost purgedId (.fresh stamps) interrupted = some s ∧
      run purgeHost purgedId s resumed = some s' ∧
      s'.answers = [(key, .alreadyAbsentAfterRetry)] ∧
      WriteAhead purgeHost purgedId s' ∧ Kept s s' ∧
      ((∀ event ∈ resumed, event.isPowerLoss = false) →
        ∀ e ∈ s.disk.visible, e.name.isTemporary = false → e ∈ s'.disk.visible) ∧
      ∀ event s₁, step purgeHost purgedId s' event = some s₁ →
        ∀ e ∈ s₁.disk.visible, e.name.isTemporary = false → e ∉ s'.disk.visible →
          ∃ r, s'.running = some r ∧ r.call.Adds purgeHost s'.disk.durable e := by
  obtain ⟨s', hs', hanswers⟩ := Option.map_eq_some_iff.mp answers_resumed
  exact ⟨_, s', run_interrupted, hs', hanswers, ledger_write_ahead run_interrupted hs'⟩

end PurgeExample

end Marty.Installer
