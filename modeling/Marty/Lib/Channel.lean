import Mathlib.Data.List.Basic

/-!
# Bounded channels

A channel has a queue of bounded length, one receiver, and a sender that never waits: it is
refused when the queue is full and when the receiver is gone.  The channel remembers what was
received and what the receiver left behind, so that all that ever entered it is known.

## Main definitions

* `Channel` — a channel with its history.
* `Channel.trySend`, `Channel.recv`, `Channel.close` — the operations.
* `Channel.sent` — what has entered the queue, in order.
-/

namespace Marty.Lib

/-- A channel whose queue holds at most `capacity` items. -/
structure Channel (capacity : Nat) (α : Type*) where
  queue : List α
  received : List α
  /-- What was in the queue when the receiver went away. -/
  discarded : List α
  closed : Bool
  bounded : queue.length ≤ capacity
  kept : closed = false → discarded = []
  emptied : closed = true → queue = []

inductive TrySendError
  | full
  | closed
  deriving DecidableEq, Repr

namespace Channel

variable {capacity : Nat} {α : Type*}

def new (capacity : Nat) (α : Type*) : Channel capacity α where
  queue := []
  received := []
  discarded := []
  closed := false
  bounded := Nat.zero_le _
  kept _ := rfl
  emptied _ := rfl

/-- Everything that entered the queue, in order. -/
def sent (channel : Channel capacity α) : List α :=
  channel.received ++ (channel.queue ++ channel.discarded)

def trySend (channel : Channel capacity α) (a : α) : Except TrySendError (Channel capacity α) :=
  if hclosed : channel.closed then .error .closed
  else if hroom : channel.queue.length < capacity then
    .ok { channel with
      queue := channel.queue ++ [a]
      bounded := by simp only [List.length_append, List.length_singleton]; omega
      emptied := fun hc => absurd hc hclosed }
  else .error .full

/-- The receiver takes the first item, when there is one. -/
def recv (channel : Channel capacity α) : Option (α × Channel capacity α) :=
  match h : channel.queue with
  | [] => none
  | a :: rest => some (a, { channel with
      queue := rest
      received := channel.received ++ [a]
      bounded := by have := channel.bounded; simp only [h, List.length_cons] at this; omega
      emptied := fun hc => by simp [channel.emptied hc] at h })

/-- The receiver goes away, and what it had not taken with it. -/
def close (channel : Channel capacity α) : Channel capacity α where
  queue := []
  received := channel.received
  discarded := channel.queue ++ channel.discarded
  closed := true
  bounded := Nat.zero_le _
  kept := nofun
  emptied _ := rfl

variable {channel channel' : Channel capacity α} {a : α}

@[simp] theorem new_sent : (new capacity α).sent = [] := rfl

@[simp] theorem new_closed : (new capacity α).closed = false := rfl

@[simp] theorem close_sent : channel.close.sent = channel.sent := rfl

@[simp] theorem close_received : channel.close.received = channel.received := rfl

@[simp] theorem close_closed : channel.close.closed = true := rfl

theorem received_prefix : channel.received <+: channel.sent := List.prefix_append _ _

/-- **A send that succeeds** puts one item behind all the others. -/
theorem trySend_ok (h : channel.trySend a = .ok channel') :
    channel'.sent = channel.sent ++ [a] ∧ channel'.received = channel.received ∧
      channel'.closed = channel.closed := by
  unfold trySend at h
  split at h
  · cases h
  case isFalse hopen =>
    have hclosed : channel.closed = false := by simpa using hopen
    split at h
    · cases h
      simp [sent, hclosed, channel.kept hclosed]
    · cases h

theorem trySend_full (h : channel.trySend a = .error .full) :
    channel.queue.length = capacity := by
  unfold trySend at h
  split at h
  · cases h
  · split at h
    · cases h
    case isFalse hfull => exact Nat.le_antisymm channel.bounded (Nat.le_of_not_lt hfull)

theorem trySend_closed (h : channel.trySend a = .error .closed) : channel.closed = true := by
  unfold trySend at h
  split at h
  case isTrue hclosed => exact hclosed
  · split at h <;> cases h

/-- **A receive** leaves everything that was sent where it was. -/
theorem recv_some (h : channel.recv = some (a, channel')) :
    channel'.sent = channel.sent ∧ channel'.received = channel.received ++ [a] ∧
      channel'.closed = channel.closed := by
  unfold recv at h
  split at h
  · cases h
  case h_2 b rest hqueue =>
    cases h
    simp [sent, hqueue]

end Channel

end Marty.Lib
