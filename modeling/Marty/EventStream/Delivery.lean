import Marty.EventStream.Bus
import Mathlib.Data.List.Nodup

/-!
# What the event bus delivers

However the calls on one bus interleave, the publications are in the order in which their
publishers held the lock, and every registered subscription whose filter asks for the event
is tried exactly once.  What has entered a queue is what the publications say, so that a
subscription receives a subsequence of the events that it asked for.

## Main definitions

* `Moves` — what one step does.
* `Publication.enteredTo` — what a publication puts into a queue.
* `Delivered` — the account of a state of the bus.
* `RemovedBy` — why a row leaves the registry.

## Main statements

* `eventBus_delivered` — **the account holds in every reachable state**, and no row leaves
  the registry for another reason.
-/

namespace Marty.EventStream

open Lib

variable {ι : Type*} [DecidableEq ι] {i j : ι} {inner inner' : Inner ι} {call call' : Call ι}
  {event : BusEvent ι} {row : String × Subscriber ι} {c c' : Config (Inner ι) ι (Call ι)}

/-! ## One step -/

/-- What a step does to the bus and to the call that takes it. -/
inductive Moves (i : ι) (inner : Inner ι) : BusEvent ι → Call ι → Inner ι → Call ι → Prop
  | subscribe (requestedId newId : String) (filter : SubscriptionFilter) :
      Moves i inner (.subscribe requestedId newId filter) .idle
        (inner.subscribe requestedId newId filter).1
        (.subscription (inner.subscribe requestedId newId filter).2)
  | register (s : Subscription) (hstage : s.stage = .waiting) (hlock : inner.lock = none) :
      Moves i inner .register (.subscription s) (inner.register i s)
        (.subscription { s with stage := .held })
  | recv (s : Subscription) {received : DomainEvent}
      {channel : Channel subscriberQueueCapacity DomainEvent} (hstage : s.stage = .held)
      (hrecv : (inner.channels i).recv = some (received, channel)) :
      Moves i inner .recv (.subscription s) (inner.setChannel i channel) (.subscription s)
  | ended (s : Subscription) (hstage : s.stage = .held) :
      Moves i inner .recv (.subscription s) inner (.subscription { s with ended := true })
  | drop (s : Subscription) (spawned : Bool) (hstage : s.stage = .held) :
      Moves i inner (.drop spawned) (.subscription s) inner
        (.subscription { s with stage := .dropping spawned })
  | close (s : Subscription) (removal : Bool) (hstage : s.stage = .dropping removal) :
      Moves i inner .close (.subscription s) (inner.setChannel i (inner.channels i).close)
        (.subscription s)
  | remove (s : Subscription) (hstage : s.stage = .dropping true) (hlock : inner.lock = none) :
      Moves i inner .remove (.subscription s) (inner.unsubscribeGeneration s.id s.generation)
        (.subscription { s with stage := .dropping false })
  | publish (event : DomainEvent) (newId now : String) :
      Moves i inner (.publish event newId now) .idle
        { inner with published := inner.published + 1 } (.publishing (event.stamped newId now))
  | lock (order : List (String × Subscriber ι)) (event : DomainEvent) (hlock : inner.lock = none)
      (hperm : order.Perm inner.subscribers) :
      Moves i inner (.lock order) (.publishing event)
        { inner with lock := some ⟨i, event, order, []⟩ } (.sending order 0 [])
  | send (publication : Publication ι) (row : String × Subscriber ι)
      (remaining : List (String × Subscriber ι)) (delivered : Nat) (stale : List (String × Nat))
      (hlock : inner.lock = some publication) :
      Moves i inner .send (.sending (row :: remaining) delivered stale)
        (inner.offer publication row delivered stale).1
        (.sending remaining (inner.offer publication row delivered stale).2.1
          (inner.offer publication row delivered stale).2.2)
  | unlock (publication : Publication ι) (delivered : Nat) (stale : List (String × Nat))
      (hlock : inner.lock = some publication) :
      Moves i inner .unlock (.sending [] delivered stale)
        { inner with lock := none, publications := inner.publications ++ [publication] }
        (.cleaning stale delivered)
  | clean (pair : String × Nat) (stale : List (String × Nat)) (delivered : Nat)
      (hlock : inner.lock = none) :
      Moves i inner .clean (.cleaning (pair :: stale) delivered)
        (inner.unsubscribeGeneration pair.1 pair.2) (.cleaning stale delivered)
  | return (delivered : Nat) :
      Moves i inner .return (.cleaning [] delivered) inner (.returned delivered)
  | unsubscribe (id : String) (hlock : inner.lock = none) :
      Moves i inner (.unsubscribe id) .idle (inner.unsubscribe id) .unsubscribed
  | metrics (hlock : inner.lock = none) :
      Moves i inner .metrics .idle inner (.measured inner.metrics)

theorem subscriptionStep_moves {s s' : Subscription}
    (h : subscriptionStep i inner s event = some (inner', s')) :
    Moves i inner event (.subscription s) inner' (.subscription s') := by
  cases event with
  | register =>
      simp only [subscriptionStep] at h
      split at h
      case isTrue hguard =>
        cases h
        exact .register s hguard.1 hguard.2
      case isFalse => cases h
  | recv =>
      simp only [subscriptionStep] at h
      split at h
      case isTrue hstage =>
        split at h
        case h_1 received channel hrecv =>
          cases h
          exact .recv s hstage hrecv
        case h_2 =>
          split at h
          · cases h
          · cases h
            exact .ended s hstage
      case isFalse => cases h
  | drop spawned =>
      simp only [subscriptionStep] at h
      split at h
      case isTrue hstage =>
        cases h
        exact .drop s spawned hstage
      case isFalse => cases h
  | close =>
      simp only [subscriptionStep] at h
      split at h
      case h_1 removal hstage =>
        cases h
        exact .close s removal hstage
      case h_2 => cases h
  | remove =>
      simp only [subscriptionStep] at h
      split at h
      case isTrue hguard =>
        cases h
        exact .remove s hguard.1 hguard.2
      case isFalse => cases h
  | _ => cases h

theorem publisherStep_moves (h : publisherStep i inner event call = some (inner', call')) :
    Moves i inner event call inner' call' := by
  unfold publisherStep at h
  split at h
  case h_1 order event =>
    split at h
    case isTrue hguard =>
      cases h
      exact .lock order event hguard.1 hguard.2
    case isFalse => cases h
  case h_2 row remaining delivered stale =>
    obtain ⟨publication, hlock, heq⟩ := Option.map_eq_some_iff.mp h
    cases heq
    exact .send publication row remaining delivered stale hlock
  case h_3 delivered stale =>
    obtain ⟨publication, hlock, heq⟩ := Option.map_eq_some_iff.mp h
    cases heq
    exact .unlock publication delivered stale hlock
  case h_4 id generation stale delivered =>
    split at h
    case isTrue hlock =>
      cases h
      exact .clean (id, generation) stale delivered hlock
    case isFalse => cases h
  case h_5 delivered =>
    cases h
    exact .return delivered
  case h_6 => cases h

/-- **A step is one of the moves.** -/
theorem step_moves (h : (eventBus ι).step i event inner call = some (inner', call')) :
    Moves i inner event call inner' call' := by
  cases call with
  | idle =>
      cases event with
      | subscribe requestedId newId filter =>
          cases h
          exact .subscribe requestedId newId filter
      | publish event newId now =>
          cases h
          exact .publish event newId now
      | unsubscribe id =>
          simp only [eventBus] at h
          split at h
          case isTrue hlock =>
            cases h
            exact .unsubscribe id hlock
          case isFalse => cases h
      | metrics =>
          simp only [eventBus] at h
          split at h
          case isTrue hlock =>
            cases h
            exact .metrics hlock
          case isFalse => cases h
      | _ => cases h
  | subscription s =>
      obtain ⟨⟨inner₁, s₁⟩, hstep, heq⟩ := Option.map_eq_some_iff.mp h
      cases heq
      exact subscriptionStep_moves hstep
  | _ => exact publisherStep_moves h

/-- A step of the bus, with what its call had and has. -/
theorem next_moves (h : (eventBus ι).next c i event = some c') :
    ∃ inner' call', Moves i c.store event (c.calls i) inner' call' ∧
      c' = ⟨inner', Function.update c.calls i call'⟩ := by
  obtain ⟨inner', call', hstep, rfl⟩ := Machine.next_eq_some.mp h
  exact ⟨inner', call', step_moves hstep, rfl⟩

/-! ## The registry -/

/-- The call has registered, and the row is what it registered. -/
def Names (calls : ι → Call ι) (row : String × Subscriber ι) : Prop :=
  ∃ s, calls row.2.sender = .subscription s ∧ s.id = row.1 ∧ s.generation = row.2.generation ∧
    s.filter = row.2.filter ∧ s.stage ≠ .waiting

def Call.remaining : Call ι → List (String × Subscriber ι)
  | .sending remaining _ _ => remaining
  | _ => []

def Call.stale : Call ι → List (String × Nat)
  | .sending _ _ stale => stale
  | .cleaning stale _ => stale
  | _ => []

/-- The registry and the calls agree, and a generation belongs to one call. -/
structure Registered (c : Config (Inner ι) ι (Call ι)) : Prop where
  names : ∀ row ∈ c.store.subscribers, Names c.calls row
  nodup : (c.store.subscribers.map Prod.fst).Nodup
  drawn : ∀ i s, c.calls i = .subscription s → s.generation ≤ c.store.nextGeneration
  distinct : ∀ i j s s', c.calls i = .subscription s → c.calls j = .subscription s' →
    s.generation = s'.generation → i = j
  remaining : ∀ i, ∀ row ∈ (c.calls i).remaining, Names c.calls row
  stale : ∀ i, ∀ pair ∈ (c.calls i).stale, ∃ row, Names c.calls row ∧ row.1 = pair.1 ∧
    row.2.generation = pair.2 ∧ (c.store.channels row.2.sender).closed = true

/-- A subscription keeps its id, its generation and its filter, and stays registered. -/
theorem Moves.keeps (h : Moves i inner event call inner' call') {s : Subscription}
    (hs : call = .subscription s) : ∃ s', call' = .subscription s' ∧ s'.id = s.id ∧
      s'.generation = s.generation ∧ s'.filter = s.filter ∧
      (s.stage ≠ .waiting → s'.stage ≠ .waiting) := by
  cases h <;> cases hs <;> simp_all

theorem Names.step (hnames : Names c.calls row) (h : (eventBus ι).next c i event = some c') :
    Names c'.calls row := by
  obtain ⟨inner', call', hmoves, rfl⟩ := next_moves h
  obtain ⟨s, hs, hid, hgeneration, hfilter, hstage⟩ := hnames
  by_cases hi : row.2.sender = i
  · obtain ⟨s', hs', hid', hgeneration', hfilter', hstage'⟩ := hmoves.keeps (hi ▸ hs)
    exact ⟨s', by simp [hi, hs'], hid'.trans hid, hgeneration'.trans hgeneration,
      hfilter'.trans hfilter, hstage' hstage⟩
  · exact ⟨s, by simp [hi, hs], hid, hgeneration, hfilter, hstage⟩

/-- **One turn of the loop** sends, is refused, or passes over the row. -/
theorem Inner.offer_cases (inner : Inner ι) (publication : Publication ι)
    (row : String × Subscriber ι) (delivered : Nat) (stale : List (String × Nat)) :
    (row.2.filter.matchesEvent publication.event = false ∧
        inner.offer publication row delivered stale = (inner, delivered, stale)) ∨
      row.2.filter.matchesEvent publication.event = true ∧
        ((∃ channel, (inner.channels row.2.sender).trySend publication.event = .ok channel ∧
            inner.offer publication row delivered stale =
              (inner.enter publication row.2.sender channel, saturatingAdd delivered 1, stale)) ∨
          ((inner.channels row.2.sender).trySend publication.event = .error .full ∧
            inner.offer publication row delivered stale =
              (inner.miss publication row.2.sender, delivered, stale)) ∨
          ((inner.channels row.2.sender).trySend publication.event = .error .closed ∧
            inner.offer publication row delivered stale =
              (inner.abandon publication row.2.sender, delivered,
                stale ++ [(row.1, row.2.generation)]))) := by
  unfold offer
  by_cases hmatches : row.2.filter.matchesEvent publication.event = true
  · refine .inr ⟨hmatches, ?_⟩
    rw [if_pos hmatches]
    cases hsend : (inner.channels row.2.sender).trySend publication.event with
    | ok channel => exact .inl ⟨channel, rfl, rfl⟩
    | error refusal =>
        cases refusal with
        | full => exact .inr (.inl ⟨rfl, rfl⟩)
        | closed => exact .inr (.inr ⟨rfl, rfl⟩)
  · exact .inl ⟨by simpa using hmatches, if_neg hmatches⟩

/-- A turn of the loop leaves the registry as it is, and every receiver. -/
theorem Inner.offer_frame (inner : Inner ι) (publication : Publication ι)
    (row : String × Subscriber ι) (delivered : Nat) (stale : List (String × Nat)) :
    (inner.offer publication row delivered stale).1.subscribers = inner.subscribers ∧
      (inner.offer publication row delivered stale).1.nextGeneration = inner.nextGeneration ∧
      ∀ j, ((inner.offer publication row delivered stale).1.channels j).closed =
        (inner.channels j).closed := by
  obtain ⟨-, heq⟩ | ⟨-, ⟨channel, hsend, heq⟩ | ⟨-, heq⟩ | ⟨-, heq⟩⟩ :=
    inner.offer_cases publication row delivered stale
  · simp [heq]
  · refine ⟨by simp [heq, enter], by simp [heq, enter], fun j => ?_⟩
    by_cases hj : j = row.2.sender
    · simp [heq, enter, hj, (Channel.trySend_ok hsend).2.2]
    · simp [heq, enter, hj]
  · simp [heq, miss]
  · simp [heq, abandon]

theorem Inner.offer_publications (inner : Inner ι) (publication : Publication ι)
    (row : String × Subscriber ι) (delivered : Nat) (stale : List (String × Nat)) :
    (inner.offer publication row delivered stale).1.publications = inner.publications := by
  obtain ⟨-, heq⟩ | ⟨-, ⟨channel, -, heq⟩ | ⟨-, heq⟩ | ⟨-, heq⟩⟩ :=
    inner.offer_cases publication row delivered stale <;>
  simp [heq, enter, miss, abandon]

theorem Moves.closed (h : Moves i inner event call inner' call')
    (hclosed : (inner.channels j).closed = true) : (inner'.channels j).closed = true := by
  cases h with
  | recv s hstage hrecv =>
      by_cases hj : j = i
      · simpa [Inner.setChannel, hj, (Channel.recv_some hrecv).2.2] using hj ▸ hclosed
      · simpa [Inner.setChannel, hj] using hclosed
  | close s removal hstage =>
      by_cases hj : j = i
      · simp [Inner.setChannel, hj]
      · simpa [Inner.setChannel, hj] using hclosed
  | send publication row remaining delivered stale hlock =>
      rwa [(Inner.offer_frame ..).2.2]
  | _ => exact hclosed

/-- A row that is there after a step was there before, or has just been registered. -/
theorem Moves.row_mem (h : Moves i inner event call inner' call') (hrow : row ∈ inner'.subscribers) :
    row ∈ inner.subscribers ∨
      ∃ s, call = .subscription s ∧ row = (s.id, ⟨s.generation, s.filter, i⟩) ∧
        call' = .subscription { s with stage := .held } := by
  cases h with
  | register s hstage hlock =>
      simp only [Inner.register, List.mem_cons, List.mem_filter] at hrow
      exact hrow.elim (fun h => .inr ⟨s, rfl, h, rfl⟩) fun h => .inl h.1
  | remove | clean | unsubscribe => exact .inl (List.mem_of_mem_filter hrow)
  | send => exact .inl (by rwa [(Inner.offer_frame ..).1] at hrow)
  | _ => exact .inl hrow

theorem Moves.ids_nodup (h : Moves i inner event call inner' call')
    (hnodup : (inner.subscribers.map Prod.fst).Nodup) :
    (inner'.subscribers.map Prod.fst).Nodup := by
  cases h with
  | register s hstage hlock =>
      simp only [Inner.register, List.map_cons, List.nodup_cons]
      refine ⟨?_, hnodup.sublist (List.filter_sublist.map _)⟩
      simp
  | remove | clean | unsubscribe => exact hnodup.sublist (List.filter_sublist.map _)
  | send => rwa [(Inner.offer_frame ..).1]
  | _ => exact hnodup

/-- A subscription after a step was one before, or has just drawn the next generation. -/
theorem Moves.subscription (h : Moves i inner event call inner' call') {s' : Subscription}
    (hs : call' = .subscription s') :
    (∃ s, call = .subscription s ∧ s'.generation = s.generation ∧
        inner'.nextGeneration = inner.nextGeneration) ∨
      s'.generation = inner.nextGeneration + 1 ∧
        inner'.nextGeneration = inner.nextGeneration + 1 := by
  cases h with
  | subscribe requestedId newId filter =>
      cases hs
      exact .inr ⟨rfl, rfl⟩
  | register s hstage hlock => exact .inl ⟨s, rfl, by cases hs; rfl, rfl⟩
  | recv s hstage hrecv => exact .inl ⟨s, rfl, by cases hs; rfl, rfl⟩
  | ended s hstage => exact .inl ⟨s, rfl, by cases hs; rfl, rfl⟩
  | drop s spawned hstage => exact .inl ⟨s, rfl, by cases hs; rfl, rfl⟩
  | close s removal hstage => exact .inl ⟨s, rfl, by cases hs; rfl, rfl⟩
  | remove s hstage hlock => exact .inl ⟨s, rfl, by cases hs; rfl, rfl⟩
  | _ => cases hs

theorem Moves.nextGeneration (h : Moves i inner event call inner' call') :
    inner.nextGeneration ≤ inner'.nextGeneration := by
  cases h with
  | subscribe => exact Nat.le_succ _
  | send => exact Nat.le_of_eq (Inner.offer_frame ..).2.1.symm
  | _ => exact Nat.le_refl _

/-- What a call has still to visit it had before, or has taken from the registry. -/
theorem Moves.remaining_mem (h : Moves i inner event call inner' call')
    (hrow : row ∈ call'.remaining) : row ∈ call.remaining ∨ row ∈ inner.subscribers := by
  cases h with
  | lock order event hlock hperm => exact .inr (hperm.mem_iff.mp hrow)
  | send => exact .inl (List.mem_cons_of_mem _ hrow)
  | _ => simp [Call.remaining] at hrow

/-- What a call found closed it had found before, or finds in this step. -/
theorem Moves.stale_mem (h : Moves i inner event call inner' call') {pair : String × Nat}
    (hpair : pair ∈ call'.stale) :
    pair ∈ call.stale ∨ ∃ row ∈ call.remaining, row.1 = pair.1 ∧ row.2.generation = pair.2 ∧
      (inner.channels row.2.sender).closed = true := by
  cases h with
  | send publication row remaining delivered stale hlock =>
      obtain ⟨-, heq⟩ | ⟨-, ⟨channel, -, heq⟩ | ⟨-, heq⟩ | ⟨hsend, heq⟩⟩ :=
        inner.offer_cases publication row delivered stale
      · exact .inl (by simpa [Call.stale, heq] using hpair)
      · exact .inl (by simpa [Call.stale, heq] using hpair)
      · exact .inl (by simpa [Call.stale, heq] using hpair)
      · simp only [Call.stale, heq, List.mem_append, List.mem_singleton] at hpair
        refine hpair.imp_right fun h => ?_
        exact ⟨row, List.mem_cons_self, by simp [h], by simp [h], Channel.trySend_closed hsend⟩
  | unlock => exact .inl hpair
  | clean => exact .inl (List.mem_cons_of_mem _ hpair)
  | _ => simp [Call.stale] at hpair

theorem Registered.step (hc : Registered c) (h : (eventBus ι).next c i event = some c') :
    Registered c' := by
  have hnames : ∀ row, Names c.calls row → Names c'.calls row := fun row hrow => hrow.step h
  obtain ⟨inner', call', hmoves, rfl⟩ := next_moves h
  have hdrawn : ∀ j s, Function.update c.calls i call' j = .subscription s →
      (∃ s₀, c.calls j = .subscription s₀ ∧ s.generation = s₀.generation) ∨
        j = i ∧ s.generation = c.store.nextGeneration + 1 ∧
          inner'.nextGeneration = c.store.nextGeneration + 1 := by
    intro j s hs
    by_cases hj : j = i
    · subst hj
      obtain ⟨s₀, hs₀, hsame, -⟩ | hnew := hmoves.subscription (by simpa using hs)
      · exact .inl ⟨s₀, hs₀, hsame⟩
      · exact .inr ⟨rfl, hnew⟩
    · exact .inl ⟨s, by simpa [hj] using hs, rfl⟩
  constructor
  case names =>
    intro row hrow
    obtain hold | ⟨s, hs, rfl, hcall⟩ := hmoves.row_mem hrow
    · exact hnames row (hc.names row hold)
    · exact ⟨{ s with stage := .held }, by simp [hcall], rfl, rfl, rfl, by simp⟩
  case nodup => exact hmoves.ids_nodup hc.nodup
  case drawn =>
    intro j s hs
    obtain ⟨s₀, hs₀, hsame⟩ | ⟨-, hnew, hnext⟩ := hdrawn j s hs
    · exact hsame ▸ Nat.le_trans (hc.drawn j s₀ hs₀) hmoves.nextGeneration
    · exact Nat.le_of_eq (hnew.trans hnext.symm)
  case distinct =>
    intro j k s s' hs hs' hsame
    obtain ⟨s₀, hs₀, h₀⟩ | ⟨rfl, h₀, -⟩ := hdrawn j s hs
    · obtain ⟨s₁, hs₁, h₁⟩ | ⟨-, h₁, -⟩ := hdrawn k s' hs'
      · exact hc.distinct j k s₀ s₁ hs₀ hs₁ (by omega)
      · have := hc.drawn j s₀ hs₀
        omega
    · obtain ⟨s₁, hs₁, h₁⟩ | ⟨rfl, -, -⟩ := hdrawn k s' hs'
      · have := hc.drawn k s₁ hs₁
        omega
      · rfl
  case remaining =>
    intro j row hrow
    by_cases hj : j = i
    · subst hj
      obtain hold | hrow := hmoves.remaining_mem (by simpa using hrow)
      · exact hnames row (hc.remaining j row hold)
      · exact hnames row (hc.names row hrow)
    · exact hnames row (hc.remaining j row (by simpa [hj] using hrow))
  case stale =>
    intro j pair hpair
    by_cases hj : j = i
    · subst hj
      obtain hold | ⟨row, hrow, hid, hgeneration, hclosed⟩ := hmoves.stale_mem (by simpa using hpair)
      · obtain ⟨row, hrow, hid, hgeneration, hclosed⟩ := hc.stale j pair hold
        exact ⟨row, hnames row hrow, hid, hgeneration, hmoves.closed hclosed⟩
      · exact ⟨row, hnames row (hc.remaining j row hrow), hid, hgeneration, hmoves.closed hclosed⟩
    · obtain ⟨row, hrow, hid, hgeneration, hclosed⟩ := hc.stale j pair (by simpa [hj] using hpair)
      exact ⟨row, hnames row hrow, hid, hgeneration, hmoves.closed hclosed⟩

omit [DecidableEq ι] in
theorem registered_idle : Registered (Idle ι) where
  names := nofun
  nodup := List.nodup_nil
  drawn := nofun
  distinct := nofun
  remaining := nofun
  stale := nofun

omit [DecidableEq ι] in
/-- Two rows of the same generation are rows of one call. -/
theorem Registered.sender_eq {row' : String × Subscriber ι} (hc : Registered c)
    (hrow : Names c.calls row) (hrow' : Names c.calls row')
    (h : row.2.generation = row'.2.generation) : row.2.sender = row'.2.sender := by
  obtain ⟨s, hs, -, hgeneration, -⟩ := hrow
  obtain ⟨s', hs', -, hgeneration', -⟩ := hrow'
  exact hc.distinct _ _ s s' hs hs' (by omega)

omit [DecidableEq ι] in
/-- No two rows of the registry have the same sender. -/
theorem Registered.senders_nodup (hc : Registered c) :
    (c.store.subscribers.map (·.2.sender)).Nodup := by
  refine (List.Nodup.of_map _ hc.nodup).map_on ?_
  intro row hrow row' hrow' hsender
  obtain ⟨s, hs, hid, -⟩ := hc.names row hrow
  obtain ⟨s', hs', hid', -⟩ := hc.names row' hrow'
  rw [hsender, hs'] at hs
  cases hs
  exact List.inj_on_of_nodup_map hc.nodup hrow hrow' (hid.symm.trans hid')

/-! ## Removal -/

/-- Why the row leaves the registry in a step: the removal of its own drop, a newer
subscription with its id, `unsubscribe` of its id, or a publisher that found its receiver
gone. -/
def RemovedBy (c : Config (Inner ι) ι (Call ι)) (i : ι) (event : BusEvent ι)
    (row : String × Subscriber ι) : Prop :=
  (event = .remove ∧ i = row.2.sender) ∨
    (event = .register ∧ i ≠ row.2.sender ∧
      ∃ s, c.calls i = .subscription s ∧ s.id = row.1) ∨
    event = .unsubscribe row.1 ∨
    event = .clean ∧ (c.store.channels row.2.sender).closed = true

theorem Registered.removedBy (hc : Registered c) (h : (eventBus ι).next c i event = some c')
    (hrow : row ∈ c.store.subscribers) (hgone : row ∉ c'.store.subscribers) :
    RemovedBy c i event row := by
  obtain ⟨inner', call', hmoves, rfl⟩ := next_moves h
  generalize hcall : c.calls i = call at hmoves
  have hnames := hc.names row hrow
  cases hmoves with
  | register s hstage hlock =>
      have hid : row.1 = s.id := by
        by_contra hne
        exact hgone (by simp [Inner.register, hrow, hne])
      refine .inr (.inl ⟨rfl, ?_, s, hcall, hid.symm⟩)
      rintro rfl
      obtain ⟨s', hs', -, -, -, hregistered⟩ := hnames
      rw [hcall] at hs'
      cases hs'
      exact hregistered hstage
  | remove s hstage hlock =>
      have hsame : row.1 = s.id ∧ row.2.generation = s.generation := by
        by_contra hne
        exact hgone (by simp [Inner.unsubscribeGeneration, hrow, not_and_or.mp hne])
      obtain ⟨s', hs', -, hgeneration, -⟩ := hnames
      exact .inl ⟨rfl, hc.distinct _ _ s s' hcall hs' (by omega)⟩
  | clean pair stale delivered hlock =>
      have hsame : row.1 = pair.1 ∧ row.2.generation = pair.2 := by
        by_contra hne
        exact hgone (by simp [Inner.unsubscribeGeneration, hrow, not_and_or.mp hne])
      obtain ⟨row', hrow', -, hgeneration, hclosed⟩ :=
        hc.stale i pair (by simp [hcall, Call.stale])
      have hsender := hc.sender_eq hnames hrow' (by omega)
      exact .inr (.inr (.inr ⟨rfl, hsender ▸ hclosed⟩))
  | unsubscribe id hlock =>
      have hid : row.1 = id := by
        by_contra hne
        exact hgone (by simp [Inner.unsubscribe, hrow, hne])
      exact .inr (.inr (.inl (by rw [hid])))
  | send => exact absurd hrow (by rwa [(Inner.offer_frame ..).1] at hgone)
  | _ => exact absurd hrow hgone

/-! ## What has entered the queues -/

/-- The rows whose filter asks for the event. -/
def Publication.matching (publication : Publication ι) : List (String × Subscriber ι) :=
  publication.registered.filter fun row => row.2.filter.matchesEvent publication.event

/-- How many queues the event has entered. -/
def Publication.enteredCount (publication : Publication ι) : Nat :=
  publication.attempts.countP fun attempt => attempt.outcome = .entered

def Outcome.isFull : Outcome → Bool
  | .full _ => true
  | _ => false

/-- Every send so far, in order. -/
def Inner.attempts (inner : Inner ι) : List (Attempt ι) := inner.all.flatMap (·.attempts)

/-- What the publication has put into the queue of a call. -/
def Publication.enteredTo (publication : Publication ι) (i : ι) : List DomainEvent :=
  (publication.attempts.filter fun attempt => attempt == ⟨i, .entered⟩).map
    fun _ => publication.event

/-- The queues and the counters are what the sends of the publications come to. -/
structure Counted (inner : Inner ι) : Prop where
  sent : ∀ i, (inner.channels i).sent = inner.all.flatMap (·.enteredTo i)
  delivered : inner.delivered = inner.attempts.countP fun attempt => attempt.outcome = .entered
  dropped : inner.dropped = inner.attempts.countP fun attempt => attempt.outcome.isFull
  full : ∀ publication ∈ inner.all, ∀ attempt ∈ publication.attempts, ∀ held,
    attempt.outcome = .full held → held = subscriberQueueCapacity
  closed : ∀ publication ∈ inner.all, ∀ attempt ∈ publication.attempts,
    attempt.outcome = .closed → (inner.channels attempt.sender).closed = true

/-- A step that sends nothing. -/
theorem Counted.frame (hc : Counted inner) {new : List (Publication ι)}
    (hall : inner'.all = inner.all ++ new) (hnew : ∀ publication ∈ new, publication.attempts = [])
    (hsent : ∀ i, (inner'.channels i).sent = (inner.channels i).sent)
    (hclosed : ∀ i, (inner.channels i).closed = true → (inner'.channels i).closed = true)
    (hdelivered : inner'.delivered = inner.delivered) (hdropped : inner'.dropped = inner.dropped) :
    Counted inner' := by
  have hold : ∀ publication ∈ inner'.all, ∀ attempt ∈ publication.attempts,
      publication ∈ inner.all := by
    intro publication hmem attempt hattempt
    rw [hall, List.mem_append] at hmem
    refine hmem.resolve_right fun h => ?_
    simp [hnew publication h] at hattempt
  have hattempts : inner'.attempts = inner.attempts := by
    have hnone : new.flatMap (·.attempts) = [] := by simpa [List.flatMap_eq_nil_iff] using hnew
    rw [Inner.attempts, hall, List.flatMap_append, hnone, List.append_nil, Inner.attempts]
  constructor
  case sent =>
    intro i
    have hnone : new.flatMap (·.enteredTo i) = [] := by
      simp only [List.flatMap_eq_nil_iff]
      intro publication hmem
      simp [Publication.enteredTo, hnew publication hmem]
    rw [hsent, hall, List.flatMap_append, hnone, List.append_nil, hc.sent]
  case delivered => rw [hdelivered, hattempts, hc.delivered]
  case dropped => rw [hdropped, hattempts, hc.dropped]
  case full =>
    intro publication hmem attempt hattempt
    exact hc.full publication (hold publication hmem attempt hattempt) attempt hattempt
  case closed =>
    intro publication hmem attempt hattempt houtcome
    exact hclosed _ (hc.closed publication (hold publication hmem attempt hattempt) attempt
      hattempt houtcome)

/-- **A send** is accounted for when its outcome is what happened to the queue. -/
theorem Counted.note (hc : Counted inner) {publication : Publication ι} {sender : ι}
    {outcome : Outcome} (hlock : inner.lock = some publication)
    (hlock' : inner'.lock = some (publication.note sender outcome))
    (hpublications : inner'.publications = inner.publications)
    (hsent : ∀ i, (inner'.channels i).sent = (inner.channels i).sent ++
      if i = sender ∧ outcome = .entered then [publication.event] else [])
    (hclosed : ∀ i, (inner.channels i).closed = true → (inner'.channels i).closed = true)
    (hdelivered : inner'.delivered = inner.delivered + if outcome = .entered then 1 else 0)
    (hdropped : inner'.dropped = inner.dropped + if outcome.isFull then 1 else 0)
    (hfull : ∀ held, outcome = .full held → held = subscriberQueueCapacity)
    (hgone : outcome = .closed → (inner.channels sender).closed = true) : Counted inner' := by
  have hall : inner.all = inner.publications ++ [publication] := by simp [Inner.all, hlock]
  have hall' : inner'.all = inner.publications ++ [publication.note sender outcome] := by
    simp [Inner.all, hlock', hpublications]
  have hattempts : ∀ p' ∈ inner'.all, ∀ attempt ∈ p'.attempts,
      (∃ p ∈ inner.all, attempt ∈ p.attempts) ∨ attempt = ⟨sender, outcome⟩ := by
    intro p' hmem attempt hattempt
    rw [hall', List.mem_append, List.mem_singleton] at hmem
    obtain hmem | rfl := hmem
    · exact .inl ⟨p', by simp [hall, hmem], hattempt⟩
    · simp only [Publication.note, List.mem_append, List.mem_singleton] at hattempt
      exact hattempt.imp_left fun h => ⟨publication, by simp [hall], h⟩
  constructor
  case sent =>
    intro i
    rw [hsent, hc.sent, hall, hall']
    simp only [List.flatMap_append, List.flatMap_singleton, List.append_assoc]
    congr 1
    by_cases hentered : i = sender ∧ outcome = .entered
    · simp [Publication.enteredTo, Publication.note, hentered]
    · have hne : ¬(sender = i ∧ outcome = .entered) := fun h => hentered ⟨h.1.symm, h.2⟩
      simp [Publication.enteredTo, Publication.note, hentered, hne]
  case delivered =>
    rw [hdelivered, hc.delivered, Inner.attempts, Inner.attempts, hall, hall']
    simp [Publication.note, List.countP_singleton, Nat.add_assoc]
  case dropped =>
    rw [hdropped, hc.dropped, Inner.attempts, Inner.attempts, hall, hall']
    simp [Publication.note, List.countP_singleton, Nat.add_assoc]
  case full =>
    intro p' hmem attempt hattempt held houtcome
    obtain ⟨p, hmem, hattempt⟩ | rfl := hattempts p' hmem attempt hattempt
    · exact hc.full p hmem attempt hattempt held houtcome
    · exact hfull held houtcome
  case closed =>
    intro p' hmem attempt hattempt houtcome
    obtain ⟨p, hmem, hattempt⟩ | rfl := hattempts p' hmem attempt hattempt
    · exact hclosed _ (hc.closed p hmem attempt hattempt houtcome)
    · exact hclosed _ (hgone houtcome)

theorem Counted.offer (hc : Counted inner) {publication : Publication ι}
    (hlock : inner.lock = some publication) (row : String × Subscriber ι) (delivered : Nat)
    (stale : List (String × Nat)) :
    Counted (inner.offer publication row delivered stale).1 := by
  obtain ⟨-, heq⟩ | ⟨-, ⟨channel, hsend, heq⟩ | ⟨hsend, heq⟩ | ⟨hsend, heq⟩⟩ :=
    inner.offer_cases publication row delivered stale
  · rwa [heq]
  · rw [heq]
    obtain ⟨hsent, -, hopen⟩ := Channel.trySend_ok hsend
    refine hc.note hlock rfl rfl (fun i => ?_) (fun i hi => ?_) rfl rfl nofun nofun
    · by_cases hi : i = row.2.sender
      · simp [Inner.enter, hi, hsent]
      · simp [Inner.enter, hi]
    · by_cases hsender : i = row.2.sender
      · simpa [Inner.enter, hsender, hopen] using hsender ▸ hi
      · simpa [Inner.enter, hsender] using hi
  · rw [heq]
    refine hc.note hlock rfl rfl (fun i => by simp [Inner.miss]) (fun i hi => hi) rfl rfl ?_ nofun
    intro held hheld
    cases hheld
    exact Channel.trySend_full hsend
  · rw [heq]
    exact hc.note hlock rfl rfl (fun i => by simp [Inner.abandon]) (fun i hi => hi) rfl rfl nofun
      fun _ => Channel.trySend_closed hsend

theorem Counted.step (hc : Counted inner) (h : Moves i inner event call inner' call') :
    Counted inner' := by
  have hclosed : ∀ j, (inner.channels j).closed = true → (inner'.channels j).closed = true :=
    fun j hj => h.closed hj
  cases h with
  | recv s hstage hrecv =>
      refine hc.frame (List.append_nil _).symm nofun (fun j => ?_) hclosed rfl rfl
      by_cases hj : j = i
      · simp [Inner.setChannel, hj, (Channel.recv_some hrecv).1]
      · simp [Inner.setChannel, hj]
  | close s removal hstage =>
      refine hc.frame (List.append_nil _).symm nofun (fun j => ?_) hclosed rfl rfl
      by_cases hj : j = i
      · simp [Inner.setChannel, hj]
      · simp [Inner.setChannel, hj]
  | lock order event hlock hperm =>
      refine hc.frame (?_ : _ = _ ++ [⟨i, event, order, []⟩]) (by simp) (fun j => rfl) hclosed rfl
        rfl
      simp [Inner.all, hlock]
  | send publication row remaining delivered stale hlock => exact hc.offer hlock row delivered stale
  | unlock publication delivered stale hlock =>
      refine hc.frame (?_ : _ = _ ++ []) nofun (fun j => rfl) hclosed rfl rfl
      simp [Inner.all, hlock]
  | _ => exact hc.frame (List.append_nil _).symm nofun (fun j => rfl) hclosed rfl rfl

theorem counted_empty : Counted (Inner.empty ι) where
  sent _ := rfl
  delivered := rfl
  dropped := rfl
  full := nofun
  closed := nofun

/-! ## The publications -/

/-- The count of a publisher that has given the lock back. -/
def Call.counted : Call ι → Option Nat
  | .cleaning _ delivered => some delivered
  | .returned delivered => some delivered
  | _ => none

/-- The call holds the lock. -/
def Call.isSending : Call ι → Bool
  | .sending .. => true
  | _ => false

/-- A publication has got so far: the rows of `visited` that ask for its event are tried. -/
structure Publication.Tried (publication : Publication ι)
    (visited : List (String × Subscriber ι)) (delivered : Nat) : Prop where
  attempts : publication.attempts.map Attempt.sender =
    (visited.filter fun row => row.2.filter.matchesEvent publication.event).map (·.2.sender)
  delivered : delivered = min publication.enteredCount i32Max

/-- The lock belongs to the one call that is sending, the publications to the calls that
have sent. -/
structure Locked (c : Config (Inner ι) ι (Call ι)) : Prop where
  current : ∀ publication, c.store.lock = some publication →
    publication.registered.Perm c.store.subscribers ∧
      ∃ visited remaining delivered stale,
        c.calls publication.publisher = .sending remaining delivered stale ∧
          publication.registered = visited ++ remaining ∧ publication.Tried visited delivered
  holder : ∀ i, (c.calls i).isSending = true →
    ∃ publication, c.store.lock = some publication ∧ publication.publisher = i
  finished : ∀ publication ∈ c.store.publications, ∃ delivered,
    (c.calls publication.publisher).counted = some delivered ∧
      publication.Tried publication.registered delivered
  source : ∀ i delivered, (c.calls i).counted = some delivered →
    ∃ publication ∈ c.store.publications, publication.publisher = i
  named : ∀ publication ∈ c.store.all, (∀ row ∈ publication.registered, Names c.calls row) ∧
    (publication.registered.map (·.2.sender)).Nodup

omit [DecidableEq ι] in
theorem Locked.sending (hc : Locked c) {publication : Publication ι}
    (hlock : c.store.lock = some publication) (h : (c.calls i).isSending = true) :
    publication.publisher = i := by
  obtain ⟨p, hp, rfl⟩ := hc.holder i h
  rw [hlock] at hp
  cases hp
  rfl

omit [DecidableEq ι] in
theorem Locked.idle_of_none (hc : Locked c) (hlock : c.store.lock = none) (i : ι) :
    (c.calls i).isSending = false := by
  by_contra h
  obtain ⟨p, hp, -⟩ := hc.holder i (by simpa using h)
  simp [hlock] at hp

/-- A step of a call that neither holds the lock nor has held it. -/
theorem Locked.frame (hc : Locked c) (h : (eventBus ι).next c i event = some c')
    (hlock : c'.store.lock = c.store.lock)
    (hpublications : c'.store.publications = c.store.publications)
    (hrows : c'.store.subscribers = c.store.subscribers ∨ c.store.lock = none)
    (hsending : (c.calls i).isSending = false) (hsending' : (c'.calls i).isSending = false)
    (hcounted : (c'.calls i).counted = (c.calls i).counted) : Locked c' := by
  have hcalls : ∀ j, j ≠ i → c'.calls j = c.calls j := fun j hj =>
    Machine.next_calls_of_ne h hj
  have hsame : ∀ j, (c'.calls j).counted = (c.calls j).counted := by
    intro j
    by_cases hj : j = i
    · rw [hj, hcounted]
    · rw [hcalls j hj]
  constructor
  case current =>
    intro publication hp
    rw [hlock] at hp
    obtain ⟨hperm, visited, remaining, delivered, stale, hcall, htried⟩ := hc.current publication hp
    have hne : publication.publisher ≠ i := by
      rintro rfl
      simp [hcall, Call.isSending] at hsending
    refine ⟨?_, visited, remaining, delivered, stale, by rw [hcalls _ hne, hcall], htried⟩
    obtain hrows | hnone := hrows
    · rwa [hrows]
    · simp [hnone] at hp
  case holder =>
    intro j hj
    have hne : j ≠ i := by
      rintro rfl
      simp [hsending'] at hj
    rw [hcalls j hne] at hj
    exact hlock ▸ hc.holder j hj
  case finished =>
    intro publication hp
    simpa only [hsame] using hc.finished publication (hpublications ▸ hp)
  case source =>
    intro j delivered hj
    exact hpublications ▸ hc.source j delivered (hsame j ▸ hj)
  case named =>
    intro publication hp
    rw [Inner.all, hlock, hpublications] at hp
    exact ⟨fun row hrow => ((hc.named publication hp).1 row hrow).step h,
      (hc.named publication hp).2⟩

omit [DecidableEq ι] in
/-- Taking the lock starts a publication. -/
theorem Publication.Tried.start (i : ι) (event : DomainEvent)
    (order : List (String × Subscriber ι)) :
    Publication.Tried ⟨i, event, order, []⟩ [] 0 :=
  ⟨rfl, rfl⟩

omit [DecidableEq ι] in
theorem Publication.Tried.pass {publication : Publication ι}
    {visited : List (String × Subscriber ι)} {delivered : Nat}
    (h : publication.Tried visited delivered)
    (hrow : row.2.filter.matchesEvent publication.event = false) :
    publication.Tried (visited ++ [row]) delivered :=
  ⟨by simp [h.attempts, List.filter_append, hrow], h.delivered⟩

omit [DecidableEq ι] in
theorem Publication.Tried.note {publication : Publication ι}
    {visited : List (String × Subscriber ι)} {delivered delivered' : Nat} {outcome : Outcome}
    (h : publication.Tried visited delivered)
    (hrow : row.2.filter.matchesEvent publication.event = true)
    (hdelivered : delivered' =
      if outcome = .entered then saturatingAdd delivered 1 else delivered) :
    (publication.note row.2.sender outcome).Tried (visited ++ [row]) delivered' where
  attempts := by
    have := h.attempts
    simp_all [Publication.note, List.filter_append]
  delivered := by
    rw [hdelivered, h.delivered]
    by_cases hentered : outcome = .entered
    · simp only [hentered, if_true, saturatingAdd, Publication.enteredCount, Publication.note,
        List.countP_append, List.countP_singleton, decide_true]
      omega
    · simp [hentered, Publication.enteredCount, Publication.note]

/-- **A turn of the loop** tries the row that it visits. -/
theorem Publication.Tried.offer {publication : Publication ι}
    {visited : List (String × Subscriber ι)} {delivered : Nat}
    (h : publication.Tried visited delivered) (hlock : inner.lock = some publication)
    (row : String × Subscriber ι) (stale : List (String × Nat)) :
    ∃ attempts, (inner.offer publication row delivered stale).1.lock =
        some { publication with attempts } ∧
      Publication.Tried { publication with attempts } (visited ++ [row])
        (inner.offer publication row delivered stale).2.1 := by
  obtain ⟨hrow, heq⟩ | ⟨hrow, ⟨channel, -, heq⟩ | ⟨-, heq⟩ | ⟨-, heq⟩⟩ :=
    inner.offer_cases publication row delivered stale
  · exact ⟨publication.attempts, by rw [heq, hlock], by rw [heq]; exact h.pass hrow⟩
  · exact ⟨_, by rw [heq]; rfl, by rw [heq]; exact h.note hrow rfl⟩
  · exact ⟨_, by rw [heq]; rfl, by rw [heq]; exact h.note hrow rfl⟩
  · exact ⟨_, by rw [heq]; rfl, by rw [heq]; exact h.note hrow rfl⟩

/-- Rows that name their calls still do after a step. -/
theorem Locked.named_step (hc : Locked c) (h : (eventBus ι).next c i event = some c')
    {publication : Publication ι}
    (hold : ∃ p ∈ c.store.all, p.registered = publication.registered) :
    (∀ row ∈ publication.registered, Names c'.calls row) ∧
      (publication.registered.map (·.2.sender)).Nodup := by
  obtain ⟨p, hp, hsame⟩ := hold
  rw [← hsame]
  exact ⟨fun row hrow => ((hc.named p hp).1 row hrow).step h, (hc.named p hp).2⟩

/-- **The lock is taken** by a call that has counted its event. -/
theorem Locked.lock (hc : Locked c) (hregistered : Registered c)
    {order : List (String × Subscriber ι)} {published : DomainEvent}
    (hcall : c.calls i = .publishing published) (hlock : c.store.lock = none)
    (hperm : order.Perm c.store.subscribers)
    (h : (eventBus ι).next c i event = some ⟨{ c.store with lock := some ⟨i, published, order, []⟩ },
      Function.update c.calls i (.sending order 0 [])⟩) :
    Locked (⟨{ c.store with lock := some ⟨i, published, order, []⟩ },
      Function.update c.calls i (.sending order 0 [])⟩ : Config (Inner ι) ι (Call ι)) := by
  constructor
  case current =>
    intro publication hp
    cases hp
    exact ⟨hperm, [], order, 0, [], by simp, rfl, .start i published order⟩
  case holder =>
    intro j hj
    by_cases hji : j = i
    · exact ⟨_, rfl, hji.symm⟩
    · simp [hji, hc.idle_of_none hlock j] at hj
  case finished =>
    intro publication hp
    obtain ⟨delivered, hcounted, htried⟩ := hc.finished publication hp
    have hne : publication.publisher ≠ i := by
      rintro rfl
      simp [hcall, Call.counted] at hcounted
    exact ⟨delivered, by simpa [hne] using hcounted, htried⟩
  case source =>
    intro j delivered hj
    by_cases hji : j = i
    · simp [hji, Call.counted] at hj
    · exact hc.source j delivered (by simpa [hji] using hj)
  case named =>
    intro publication hp
    simp only [Inner.all, Option.toList_some, List.mem_append, List.mem_singleton] at hp
    obtain hp | rfl := hp
    · exact hc.named_step h ⟨publication, by simp [Inner.all, hp], rfl⟩
    · refine ⟨fun row hrow => (hregistered.names row (hperm.mem_iff.mp hrow)).step h, ?_⟩
      exact (hperm.map _).nodup_iff.mpr hregistered.senders_nodup

/-- A turn of the loop goes on with the publication that holds the lock. -/
theorem Locked.send (hc : Locked c) {publication : Publication ι}
    {remaining : List (String × Subscriber ι)} {delivered : Nat} {stale : List (String × Nat)}
    (hcall : c.calls i = .sending (row :: remaining) delivered stale)
    (hlock : c.store.lock = some publication)
    {inner' : Inner ι} {delivered' : Nat} {stale' : List (String × Nat)}
    (hoffer : c.store.offer publication row delivered stale = (inner', delivered', stale'))
    (h : (eventBus ι).next c i event =
      some ⟨inner', Function.update c.calls i (.sending remaining delivered' stale')⟩) :
    Locked (⟨inner', Function.update c.calls i (.sending remaining delivered' stale')⟩ :
      Config (Inner ι) ι (Call ι)) := by
  obtain ⟨hperm, visited, left, counted, found, hsending, hregistered, htried⟩ :=
    hc.current publication hlock
  obtain rfl := hc.sending hlock (by rw [hcall]; rfl)
  rw [hcall] at hsending
  cases hsending
  obtain ⟨attempts, hlock', htried'⟩ := htried.offer hlock row stale
  have hframe := c.store.offer_frame publication row delivered stale
  have hpublications : inner'.publications = c.store.publications := by
    have := c.store.offer_publications publication row delivered stale
    rwa [hoffer] at this
  simp only [hoffer] at hlock' htried' hframe
  constructor
  case current =>
    intro p hp
    obtain rfl : _ = p := Option.some.inj (hlock'.symm.trans hp)
    refine ⟨hperm.trans (by rw [hframe.1]), visited ++ [row], remaining, delivered', stale',
      by simp, by simp [hregistered], htried'⟩
  case holder =>
    intro j hj
    by_cases hji : j = publication.publisher
    · exact ⟨_, hlock', hji.symm⟩
    · obtain ⟨p, hp, rfl⟩ := hc.holder j (by simpa [hji] using hj)
      rw [hlock] at hp
      cases hp
      exact absurd rfl hji
  case finished =>
    intro p hp
    obtain ⟨counted, hcounted, htried⟩ := hc.finished p (hpublications ▸ hp)
    have hne : p.publisher ≠ publication.publisher := by
      intro heq
      simp [heq, hcall, Call.counted] at hcounted
    exact ⟨counted, by simpa [hne] using hcounted, htried⟩
  case source =>
    intro j counted hj
    by_cases hji : j = publication.publisher
    · simp [hji, Call.counted] at hj
    · exact hpublications ▸ hc.source j counted (by simpa [hji] using hj)
  case named =>
    intro p hp
    simp only [Inner.all, hlock', hpublications, Option.toList_some, List.mem_append,
      List.mem_singleton] at hp
    obtain hp | rfl := hp
    · exact hc.named_step h ⟨p, by simp [Inner.all, hp], rfl⟩
    · exact hc.named_step h ⟨publication, by simp [Inner.all, hlock], rfl⟩

/-- **The lock is given back** when every row has been visited. -/
theorem Locked.unlock (hc : Locked c) {publication : Publication ι} {delivered : Nat}
    {stale : List (String × Nat)} (hcall : c.calls i = .sending [] delivered stale)
    (hlock : c.store.lock = some publication)
    (h : (eventBus ι).next c i event = some ⟨{ c.store with
        lock := none, publications := c.store.publications ++ [publication] },
      Function.update c.calls i (.cleaning stale delivered)⟩) :
    Locked (⟨{ c.store with
        lock := none, publications := c.store.publications ++ [publication] },
      Function.update c.calls i (.cleaning stale delivered)⟩ : Config (Inner ι) ι (Call ι)) := by
  obtain ⟨hperm, visited, left, counted, found, hsending, hregistered, htried⟩ :=
    hc.current publication hlock
  obtain rfl := hc.sending hlock (by rw [hcall]; rfl)
  rw [hcall] at hsending
  cases hsending
  rw [List.append_nil] at hregistered
  constructor
  case current => nofun
  case holder =>
    intro j hj
    by_cases hji : j = publication.publisher
    · simp [hji, Call.isSending] at hj
    · obtain ⟨p, hp, rfl⟩ := hc.holder j (by simpa [hji] using hj)
      rw [hlock] at hp
      cases hp
      exact absurd rfl hji
  case finished =>
    intro p hp
    obtain hp | rfl := by simpa using hp
    · obtain ⟨counted, hcounted, htried⟩ := hc.finished p hp
      have hne : p.publisher ≠ publication.publisher := by
        intro heq
        simp [heq, hcall, Call.counted] at hcounted
      exact ⟨counted, by simpa [hne] using hcounted, htried⟩
    · exact ⟨delivered, by simp [Call.counted], hregistered ▸ htried⟩
  case source =>
    intro j counted hj
    by_cases hji : j = publication.publisher
    · exact ⟨publication, by simp, hji.symm⟩
    · obtain ⟨p, hp, hsource⟩ := hc.source j counted (by simpa [hji] using hj)
      exact ⟨p, by simp [hp], hsource⟩
  case named =>
    intro p hp
    refine hc.named_step h ⟨p, ?_, rfl⟩
    simpa [Inner.all, hlock] using hp

theorem Locked.step (hc : Locked c) (hregistered : Registered c)
    (h : (eventBus ι).next c i event = some c') : Locked c' := by
  obtain ⟨inner', call', hmoves, rfl⟩ := next_moves h
  generalize hcall : c.calls i = call at hmoves
  cases hmoves with
  | lock order event hlock hperm => exact hc.lock hregistered hcall hlock hperm h
  | send publication row remaining delivered stale hlock => exact hc.send hcall hlock rfl h
  | unlock publication delivered stale hlock => exact hc.unlock hcall hlock h
  | register s hstage hlock =>
      exact hc.frame h rfl rfl (.inr hlock) (by simp [hcall, Call.isSending])
        (by simp [Call.isSending]) (by simp [hcall, Call.counted])
  | remove s hstage hlock =>
      exact hc.frame h rfl rfl (.inr hlock) (by simp [hcall, Call.isSending])
        (by simp [Call.isSending]) (by simp [hcall, Call.counted])
  | clean pair stale delivered hlock =>
      exact hc.frame h rfl rfl (.inr hlock) (by simp [hcall, Call.isSending])
        (by simp [Call.isSending]) (by simp [hcall, Call.counted])
  | unsubscribe id hlock =>
      exact hc.frame h rfl rfl (.inr hlock) (by simp [hcall, Call.isSending])
        (by simp [Call.isSending]) (by simp [hcall, Call.counted])
  | _ =>
      exact hc.frame h rfl rfl (.inl rfl) (by simp [hcall, Call.isSending])
        (by simp [Call.isSending]) (by simp [hcall, Call.counted])

omit [DecidableEq ι] in
theorem locked_idle : Locked (Idle ι) where
  current := nofun
  holder := nofun
  finished := nofun
  source := nofun
  named := nofun

/-! ## The account -/

/-- Entries that yield one item, or none when they do not meet the condition. -/
theorem flatMap_sublist {α β : Type*} {f : α → List β} {p : α → Bool} {g : α → β} {l : List α}
    (h : ∀ a ∈ l, f a = [] ∨ p a = true ∧ f a = [g a]) :
    (l.flatMap f).Sublist ((l.filter p).map g) := by
  induction l with
  | nil => simp
  | cons a l ih =>
      have hrest := ih fun b hb => h b (List.mem_cons_of_mem _ hb)
      rw [List.flatMap_cons]
      obtain hnone | ⟨hp, hone⟩ := h a List.mem_cons_self
      · rw [hnone, List.nil_append]
        exact hrest.trans (((List.sublist_cons_self a l).filter p).map g)
      · rw [hone, List.filter_cons_of_pos hp]
        exact hrest.cons_cons (g a)

/-- A publication enters a queue once, and then its event was asked for. -/
theorem Publication.Tried.enteredTo {publication : Publication ι}
    {visited : List (String × Subscriber ι)} {delivered : Nat}
    (h : publication.Tried visited delivered) (hvisited : visited.Sublist publication.registered)
    (hnodup : (publication.registered.map (·.2.sender)).Nodup) (i : ι) :
    publication.enteredTo i = [] ∨
      (∃ row ∈ publication.registered, row.2.sender = i ∧
        row.2.filter.matchesEvent publication.event = true) ∧
      publication.enteredTo i = [publication.event] := by
  have hattempts : publication.attempts.Nodup := by
    refine List.Nodup.of_map Attempt.sender ?_
    rw [h.attempts]
    exact hnodup.sublist ((List.filter_sublist.trans hvisited).map _)
  have hcount := List.nodup_iff_count_le_one.mp hattempts ⟨i, .entered⟩
  rw [Publication.enteredTo, List.filter_beq, List.map_replicate]
  by_cases hmem : (⟨i, .entered⟩ : Attempt ι) ∈ publication.attempts
  · have hone : publication.attempts.count ⟨i, .entered⟩ = 1 := by
      have := List.count_pos_iff.mpr hmem
      omega
    refine .inr ⟨?_, by rw [hone]; rfl⟩
    have hsender : i ∈ publication.attempts.map Attempt.sender := List.mem_map_of_mem hmem
    simp only [h.attempts, List.mem_map, List.mem_filter] at hsender
    obtain ⟨row, ⟨hrow, hmatches⟩, hsender⟩ := hsender
    exact ⟨row, hvisited.subset hrow, hsender, hmatches⟩
  · exact .inl (by rw [List.count_eq_zero.mpr hmem]; rfl)

/-- **The account** of a state of the bus. -/
structure Delivered (c : Config (Inner ι) ι (Call ι)) : Prop where
  /-- A subscription has received a subsequence of the events that its filter asks for. -/
  ordered : ∀ i s, c.calls i = .subscription s →
    (c.store.channels i).received.Sublist
      ((c.store.all.filter fun p => s.filter.matchesEvent p.event).map (·.event))
  /-- What has entered a queue is what the publications have put there. -/
  entered : ∀ i, (c.store.channels i).sent = c.store.all.flatMap (·.enteredTo i)
  /-- The publisher visits the rows that are registered while it holds the lock. -/
  registered : ∀ p, c.store.lock = some p → p.registered.Perm c.store.subscribers
  /-- Every row that asked for the event was tried, and its queue once. -/
  tried : ∀ p ∈ c.store.publications,
    p.attempts.map Attempt.sender = p.matching.map (·.2.sender) ∧
      (p.attempts.map Attempt.sender).Nodup
  /-- A queue refused only when it held as many events as it can. -/
  full : ∀ p ∈ c.store.all, ∀ attempt ∈ p.attempts, ∀ held,
    attempt.outcome = .full held → held = subscriberQueueCapacity
  /-- It was closed only when its receiver had gone. -/
  closed : ∀ p ∈ c.store.all, ∀ attempt ∈ p.attempts,
    attempt.outcome = .closed → (c.store.channels attempt.sender).closed = true
  /-- The answer of `publish`. -/
  returned : ∀ i delivered, c.calls i = .returned delivered →
    ∃ p ∈ c.store.publications, p.publisher = i ∧ delivered = min p.enteredCount i32Max
  delivered : c.store.delivered =
    c.store.attempts.countP fun attempt => attempt.outcome = .entered
  dropped : c.store.dropped = c.store.attempts.countP fun attempt => attempt.outcome.isFull

/-- What a publication puts into a queue, whether it is over or not. -/
theorem Locked.enteredTo (hc : Locked c) {publication : Publication ι}
    (hp : publication ∈ c.store.all) (i : ι) :
    publication.enteredTo i = [] ∨
      (∃ row ∈ publication.registered, row.2.sender = i ∧
        row.2.filter.matchesEvent publication.event = true) ∧
      publication.enteredTo i = [publication.event] := by
  have hnodup := (hc.named publication hp).2
  rw [Inner.all, List.mem_append, Option.mem_toList] at hp
  obtain hp | hp := hp
  · obtain ⟨delivered, -, htried⟩ := hc.finished publication hp
    exact htried.enteredTo (List.Sublist.refl _) hnodup i
  · obtain ⟨-, visited, remaining, delivered, stale, -, hregistered, htried⟩ :=
      hc.current publication hp
    exact htried.enteredTo (hregistered ▸ List.sublist_append_left _ _) hnodup i

theorem Locked.delivered (hc : Locked c) (hcounted : Counted c.store) : Delivered c where
  ordered := by
    intro i s hs
    refine Channel.received_prefix.sublist.trans ?_
    rw [hcounted.sent]
    refine flatMap_sublist fun p hp => ?_
    refine (hc.enteredTo hp i).imp_right fun ⟨⟨row, hrow, hsender, hmatches⟩, hone⟩ => ?_
    obtain ⟨s', hs', -, -, hfilter, -⟩ := (hc.named p hp).1 row hrow
    rw [hsender, hs] at hs'
    cases hs'
    exact ⟨hfilter ▸ hmatches, hone⟩
  entered := hcounted.sent
  registered p hp := (hc.current p hp).1
  tried := by
    intro p hp
    obtain ⟨delivered, -, htried⟩ := hc.finished p hp
    refine ⟨htried.attempts, htried.attempts ▸ ?_⟩
    exact (hc.named p (List.mem_append_left _ hp)).2.sublist (List.filter_sublist.map _)
  full := hcounted.full
  closed := hcounted.closed
  returned := by
    intro i delivered hi
    obtain ⟨p, hp, rfl⟩ := hc.source i delivered (by rw [hi]; rfl)
    obtain ⟨counted, hcall, htried⟩ := hc.finished p hp
    rw [hi] at hcall
    exact ⟨p, hp, rfl, Option.some.inj hcall ▸ htried.delivered⟩
  delivered := hcounted.delivered
  dropped := hcounted.dropped

/-- **The event bus delivers** what it accounts for, in every state that any calls can
reach, and a row leaves the registry only by its own drop, a newer subscription, an
`unsubscribe`, or a publisher that found its receiver gone. -/
theorem eventBus_delivered (schedule : List (ι × BusEvent ι))
    (h : (eventBus ι).run (Idle ι) schedule = some c) :
    Delivered c ∧ ∀ i event c' row, (eventBus ι).next c i event = some c' →
      row ∈ c.store.subscribers → row ∉ c'.store.subscribers → RemovedBy c i event row := by
  have hinv : Registered c ∧ Locked c ∧ Counted c.store := by
    refine Machine.run_induct (P := fun c => Registered c ∧ Locked c ∧ Counted c.store) ?_
      ⟨registered_idle, locked_idle, counted_empty⟩ h
    intro c i event c' ⟨hregistered, hlocked, hcounted⟩ hnext
    refine ⟨hregistered.step hnext, hlocked.step hregistered hnext, ?_⟩
    obtain ⟨inner', call', hmoves, rfl⟩ := next_moves hnext
    exact hcounted.step hmoves
  obtain ⟨hregistered, hlocked, hcounted⟩ := hinv
  refine ⟨hlocked.delivered hcounted, fun i event c' row hnext hrow hgone => ?_⟩
  exact hregistered.removedBy hnext hrow hgone

def everything : SubscriptionFilter := ⟨[], "", ""⟩

def approved : DomainEvent :=
  ⟨"event-1", "application.approved", "aggregate-1", "application", "org-a", [], "12:00", ""⟩

/-- An older subscription is dropped after a newer one has taken its id. -/
def sameId : List (Fin 3 × BusEvent (Fin 3)) :=
  [(0, .subscribe "same-id" "" everything), (0, .register),
    (1, .subscribe "same-id" "" everything), (1, .register), (0, .drop true), (0, .close),
    (0, .remove), (2, .publish approved "" ""), (2, .lock [("same-id", ⟨2, everything, 1⟩)]),
    (2, .send), (2, .unlock), (2, .return), (1, .recv)]

/-- The late removal of the older subscription leaves the newer one alone. -/
theorem eventBus_delivered_sameId :
    ∃ c, (eventBus (Fin 3)).run (Idle (Fin 3)) sameId = some c ∧
      ((c.store.channels 1).received = [approved] ∧ c.calls 2 = .returned 1) ∧ Delivered c := by
  have hobserved : ((eventBus (Fin 3)).run (Idle (Fin 3)) sameId).any (fun c =>
      (c.store.channels 1).received = [approved] ∧ c.calls 2 = .returned 1) = true := by
    decide +kernel
  obtain ⟨c, hrun, hc⟩ := (Option.any_eq_true _ _).mp hobserved
  exact ⟨c, hrun, of_decide_eq_true hc, (eventBus_delivered _ hrun).1⟩

/-- An event is published when a receiver has gone and its row is still there. -/
def abandoned : List (Fin 2 × BusEvent (Fin 2)) :=
  [(0, .subscribe "id" "" everything), (0, .register), (0, .drop true), (0, .close),
    (1, .publish approved "" ""), (1, .lock [("id", ⟨1, everything, 0⟩)]), (1, .send),
    (1, .unlock)]

/-- **A receiver that is gone misses an event** while its row is registered, although its
queue never held one; the miss is not counted. -/
theorem closed_receiver_misses :
    ∃ c, (eventBus (Fin 2)).run (Idle (Fin 2)) abandoned = some c ∧
      ∃ p ∈ c.store.publications, ∃ row ∈ p.matching,
        ⟨row.2.sender, .entered⟩ ∉ p.attempts ∧ (c.store.channels row.2.sender).sent = [] ∧
          c.store.dropped = 0 := by
  have hobserved : ((eventBus (Fin 2)).run (Idle (Fin 2)) abandoned).any (fun c =>
      ∃ p ∈ c.store.publications, ∃ row ∈ p.matching,
        ⟨row.2.sender, .entered⟩ ∉ p.attempts ∧ (c.store.channels row.2.sender).sent = [] ∧
          c.store.dropped = 0) = true := by
    decide +kernel
  obtain ⟨c, hrun, hc⟩ := (Option.any_eq_true _ _).mp hobserved
  exact ⟨c, hrun, of_decide_eq_true hc⟩

end Marty.EventStream
