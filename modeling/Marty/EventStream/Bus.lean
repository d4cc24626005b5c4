import Marty.Lib.Channel
import Marty.Lib.Interleaving
import Mathlib.Data.List.Perm.Basic

/-!
# The event bus

Subscriptions are registered under ids that may be used again, and every subscription has a
queue of its own.  A publisher holds the lock of the registry while it offers its event to
the queues one after the other; receivers and drops do not wait for that lock.  The removal
that a dropped subscription asks for runs later, and so does a publisher's removal of the
subscriptions that it found closed.

## Main definitions

* `SubscriptionFilter.matchesEvent` — what a subscription asks for.
* `Inner` — the registry, the counters and the queues, with what has been published.
* `Inner.subscribe`, `Inner.register`, `Inner.offer`, `Inner.unsubscribe`,
  `Inner.unsubscribeGeneration`, `Inner.metrics` — the operations.
* `eventBus` — the steps of the calls on one bus.
-/

namespace Marty.EventStream

open Lib

def subscriberQueueCapacity : Nat := 256

structure DomainEvent where
  eventId : String
  eventType : String
  aggregateId : String
  aggregateType : String
  organizationId : String
  data : List (String × String)
  timestamp : String
  correlationId : String
  deriving DecidableEq, Repr

structure SubscriptionFilter where
  eventTypes : List String
  organizationId : String
  aggregateType : String
  deriving DecidableEq, Repr

def SubscriptionFilter.matchesEvent (filter : SubscriptionFilter) (event : DomainEvent) : Bool :=
  (filter.eventTypes.isEmpty || filter.eventTypes.contains event.eventType) &&
    (filter.organizationId == "" || filter.organizationId == event.organizationId) &&
    (filter.aggregateType == "" || filter.aggregateType == event.aggregateType)

/-- The event as it is sent: an empty id and an empty time are filled in. -/
def DomainEvent.stamped (event : DomainEvent) (newId now : String) : DomainEvent :=
  { event with
    eventId := if event.eventId = "" then newId else event.eventId
    timestamp := if event.timestamp = "" then now else event.timestamp }

/-- A registered subscription.  Its sender leads to the queue of the call that made it. -/
structure Subscriber (ι : Type*) where
  generation : Nat
  filter : SubscriptionFilter
  sender : ι
  deriving DecidableEq, Repr

/-- What became of one `try_send`. -/
inductive Outcome
  | entered
  /-- The queue was full, and held this many events. -/
  | full (held : Nat)
  | closed
  deriving DecidableEq, Repr

structure Attempt (ι : Type*) where
  sender : ι
  outcome : Outcome
  deriving DecidableEq, Repr

/-- One hold of the lock by a publisher: its event, the registry in the order in which it is
visited, and the sends so far. -/
structure Publication (ι : Type*) where
  publisher : ι
  event : DomainEvent
  registered : List (String × Subscriber ι)
  attempts : List (Attempt ι)
  deriving DecidableEq, Repr

/-- One more send of the publication. -/
def Publication.note {ι : Type*} (publication : Publication ι) (sender : ι) (outcome : Outcome) :
    Publication ι :=
  { publication with attempts := publication.attempts ++ [⟨sender, outcome⟩] }

structure MetricsSnapshot where
  subscribers : Nat
  published : Nat
  delivered : Nat
  dropped : Nat
  deriving DecidableEq, Repr

/-- The shared part of the bus.  The channel of a call is there from the start, and only
`subscribe` hands it out.  `publications` are those whose publisher has given the lock back,
in the order in which they held it; it is `lock` that a publisher holds. -/
structure Inner (ι : Type*) where
  subscribers : List (String × Subscriber ι)
  nextGeneration : Nat
  published : Nat
  delivered : Nat
  dropped : Nat
  channels : ι → Channel subscriberQueueCapacity DomainEvent
  lock : Option (Publication ι)
  publications : List (Publication ι)

/-- Where a subscription stands. -/
inductive Stage
  /-- It has its generation, and waits for the lock. -/
  | waiting
  | held
  /-- It is being dropped; `removal` says that the task that removes it has still to run. -/
  | dropping (removal : Bool)
  deriving DecidableEq, Repr

structure Subscription where
  id : String
  generation : Nat
  filter : SubscriptionFilter
  stage : Stage
  /-- The receiver was told that no more events will come. -/
  ended : Bool
  deriving DecidableEq, Repr

/-- The state of one call on the bus, with what it still has to do. -/
inductive Call (ι : Type*)
  | idle
  | subscription (subscription : Subscription)
  | publishing (event : DomainEvent)
  | sending (remaining : List (String × Subscriber ι)) (delivered : Nat)
      (stale : List (String × Nat))
  | cleaning (stale : List (String × Nat)) (delivered : Nat)
  | returned (delivered : Nat)
  | unsubscribed
  | measured (snapshot : MetricsSnapshot)
  deriving DecidableEq, Repr

/-- What a call does next. -/
inductive BusEvent (ι : Type*)
  | subscribe (requestedId newId : String) (filter : SubscriptionFilter)
  | register
  | recv
  | drop (spawned : Bool)
  | close
  | remove
  | publish (event : DomainEvent) (newId now : String)
  | lock (order : List (String × Subscriber ι))
  | send
  | unlock
  | clean
  | return
  | unsubscribe (id : String)
  | metrics
  deriving DecidableEq, Repr

def i32Max : Nat := 2147483647

def saturatingAdd (m n : Nat) : Nat := min (m + n) i32Max

namespace Inner

variable {ι : Type*} [DecidableEq ι]

/-- `EventBus::default`. -/
def empty (ι : Type*) : Inner ι where
  subscribers := []
  nextGeneration := 0
  published := 0
  delivered := 0
  dropped := 0
  channels _ := .new _ _
  lock := none
  publications := []

def setChannel (inner : Inner ι) (i : ι)
    (channel : Channel subscriberQueueCapacity DomainEvent) : Inner ι :=
  { inner with channels := Function.update inner.channels i channel }

/-- The first part of `subscribe`, up to the lock. -/
def subscribe (inner : Inner ι) (requestedId newId : String) (filter : SubscriptionFilter) :
    Inner ι × Subscription :=
  let generation := inner.nextGeneration + 1
  ({ inner with nextGeneration := generation },
    { id := if requestedId = "" then newId else requestedId
      generation, filter, stage := .waiting, ended := false })

/-- The insertion by `subscribe`, under the lock. -/
def register (inner : Inner ι) (i : ι) (subscription : Subscription) : Inner ι :=
  { inner with
    subscribers := (subscription.id, ⟨subscription.generation, subscription.filter, i⟩) ::
      inner.subscribers.filter fun row => row.1 != subscription.id }

def unsubscribe (inner : Inner ι) (id : String) : Inner ι :=
  { inner with subscribers := inner.subscribers.filter fun row => row.1 != id }

def unsubscribeGeneration (inner : Inner ι) (id : String) (generation : Nat) : Inner ι :=
  { inner with
    subscribers := inner.subscribers.filter fun row =>
      !(row.1 == id && row.2.generation == generation) }

/-- The event has entered a queue. -/
def enter (inner : Inner ι) (publication : Publication ι) (sender : ι)
    (channel : Channel subscriberQueueCapacity DomainEvent) : Inner ι :=
  { inner with
    channels := Function.update inner.channels sender channel
    delivered := inner.delivered + 1
    lock := some (publication.note sender .entered) }

/-- The event was refused by a full queue. -/
def miss (inner : Inner ι) (publication : Publication ι) (sender : ι) : Inner ι :=
  { inner with
    dropped := inner.dropped + 1
    lock := some (publication.note sender (.full (inner.channels sender).queue.length)) }

/-- The event was refused because the receiver is gone. -/
def abandon (inner : Inner ι) (publication : Publication ι) (sender : ι) : Inner ι :=
  { inner with lock := some (publication.note sender .closed) }

/-- The body of the loop of `publish`, for one row of the registry. -/
def offer (inner : Inner ι) (publication : Publication ι) (row : String × Subscriber ι)
    (delivered : Nat) (stale : List (String × Nat)) :
    Inner ι × Nat × List (String × Nat) :=
  if row.2.filter.matchesEvent publication.event then
    match (inner.channels row.2.sender).trySend publication.event with
    | .ok channel =>
        (inner.enter publication row.2.sender channel, saturatingAdd delivered 1, stale)
    | .error .full => (inner.miss publication row.2.sender, delivered, stale)
    | .error .closed =>
        (inner.abandon publication row.2.sender, delivered,
          stale ++ [(row.1, row.2.generation)])
  else (inner, delivered, stale)

def metrics (inner : Inner ι) : MetricsSnapshot :=
  ⟨inner.subscribers.length, inner.published, inner.delivered, inner.dropped⟩

/-- Every publication, with the one whose publisher holds the lock at the end. -/
def all (inner : Inner ι) : List (Publication ι) := inner.publications ++ inner.lock.toList

end Inner

variable {ι : Type*} [DecidableEq ι]

/-- The steps of a subscription. -/
def subscriptionStep (i : ι) (inner : Inner ι) (s : Subscription) :
    BusEvent ι → Option (Inner ι × Subscription)
  | .register =>
      if s.stage = .waiting ∧ inner.lock = none then
        some (inner.register i s, { s with stage := .held })
      else none
  | .recv =>
      if s.stage = .held then
        match (inner.channels i).recv with
        | some (_, channel) => some (inner.setChannel i channel, s)
        | none =>
            -- an empty queue is at its end once no row of the registry has its sender
            if inner.subscribers.any fun row => row.2.sender == i then none
            else some (inner, { s with ended := true })
      else none
  | .drop spawned =>
      if s.stage = .held then some (inner, { s with stage := .dropping spawned }) else none
  | .close =>
      match s.stage with
      | .dropping _ => some (inner.setChannel i (inner.channels i).close, s)
      | _ => none
  | .remove =>
      if s.stage = .dropping true ∧ inner.lock = none then
        some (inner.unsubscribeGeneration s.id s.generation,
          { s with stage := .dropping false })
      else none
  | _ => none

/-- The steps of a publisher that has counted its event. -/
def publisherStep (i : ι) (inner : Inner ι) : BusEvent ι → Call ι → Option (Inner ι × Call ι)
  | .lock order, .publishing event =>
      if inner.lock = none ∧ order.Perm inner.subscribers then
        some ({ inner with lock := some ⟨i, event, order, []⟩ }, .sending order 0 [])
      else none
  | .send, .sending (row :: remaining) delivered stale =>
      inner.lock.map fun publication =>
        let (inner, delivered, stale) := inner.offer publication row delivered stale
        (inner, .sending remaining delivered stale)
  | .unlock, .sending [] delivered stale =>
      inner.lock.map fun publication =>
        ({ inner with lock := none, publications := inner.publications ++ [publication] },
          .cleaning stale delivered)
  | .clean, .cleaning ((id, generation) :: stale) delivered =>
      if inner.lock = none then
        some (inner.unsubscribeGeneration id generation, .cleaning stale delivered)
      else none
  | .return, .cleaning [] delivered => some (inner, .returned delivered)
  | _, _ => none

/-- **The event bus**, for any number of calls. -/
def eventBus (ι : Type*) [DecidableEq ι] : Machine (Inner ι) ι (BusEvent ι) (Call ι) where
  step i event inner call :=
    match call with
    | .idle =>
        match event with
        | .subscribe requestedId newId filter =>
            let (inner, subscription) := inner.subscribe requestedId newId filter
            some (inner, .subscription subscription)
        | .publish event newId now =>
            some ({ inner with published := inner.published + 1 },
              .publishing (event.stamped newId now))
        | .unsubscribe id =>
            if inner.lock = none then some (inner.unsubscribe id, .unsubscribed) else none
        | .metrics =>
            if inner.lock = none then some (inner, .measured inner.metrics) else none
        | _ => none
    | .subscription s =>
        (subscriptionStep i inner s event).map fun (inner, s) => (inner, .subscription s)
    | call => publisherStep i inner event call

/-- The bus before any call. -/
def Idle (ι : Type*) : Config (Inner ι) ι (Call ι) := ⟨.empty ι, fun _ => .idle⟩

end Marty.EventStream
