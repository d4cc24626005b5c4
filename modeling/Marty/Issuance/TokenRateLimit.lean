import Mathlib.Algebra.Order.Field.Rat
import Mathlib.Data.List.Sort
import Mathlib.Logic.Function.Basic

/-!
# The token rate limiter

A limiter keeps the times of the calls that it accepted, for each client those that
were in the window when the last of them was accepted.  Times are exact numbers; a
clock reading that is not finite is refused.

## Main definitions

* `TokenRateLimiter.checkAt` — one call.
* `TokenRateLimiter.run` — the calls of a run, each with its answer.

## Main statements

* `checkAt_slidingWindow` — the limiter is an exact sliding window, for each client on
  its own.
-/

namespace Marty.Issuance

inductive TokenRateLimitError
  | clockUnavailable
  | windowOverflow
  deriving DecidableEq, Repr

/-- What a clock shows. -/
inductive Reading
  | finite (now : ℚ)
  | notFinite
  deriving DecidableEq, Repr

/-- The limiter with its `hits` by client.  A limit that no addressable vector reaches is
`none`. -/
structure TokenRateLimiter where
  maximumHits : Option Nat
  window : Except TokenRateLimitError ℚ
  hits : String → Option (List ℚ)

/-- A limiter that has seen no call. -/
def TokenRateLimiter.new (maximumHits : Option Nat) (window : Except TokenRateLimitError ℚ) :
    TokenRateLimiter :=
  ⟨maximumHits, window, fun _ => none⟩

/-- The times of a client that are past the cutoff. -/
def TokenRateLimiter.timestamps (limiter : TokenRateLimiter) (client : String) (cutoff : ℚ) :
    List ℚ :=
  ((limiter.hits client).getD []).filter fun timestamp => timestamp > cutoff

def TokenRateLimiter.checkAt (limiter : TokenRateLimiter) (client : String) (now : Reading) :
    Except TokenRateLimitError Bool × TokenRateLimiter :=
  match now with
  | .notFinite => (.error .clockUnavailable, limiter)
  | .finite now =>
      match limiter.window with
      | .error e => (.error e, limiter)
      | .ok window =>
          let timestamps := limiter.timestamps client (now - window)
          if limiter.maximumHits.any fun limit => limit ≤ timestamps.length then
            (.ok false, limiter)
          else
            (.ok true, { limiter with
              hits := Function.update limiter.hits client (some (timestamps ++ [now])) })

/-! ## Runs -/

structure RateCall where
  client : String
  now : Reading
  deriving DecidableEq, Repr

structure AnsweredCall where
  client : String
  now : Reading
  answer : Except TokenRateLimitError Bool

/-- The calls of a run, each with its answer, and the limiter after them. -/
def TokenRateLimiter.run (limiter : TokenRateLimiter) :
    List RateCall → List AnsweredCall × TokenRateLimiter
  | [] => ([], limiter)
  | call :: calls =>
      let (answer, limiter) := limiter.checkAt call.client call.now
      let (answered, limiter) := limiter.run calls
      (⟨call.client, call.now, answer⟩ :: answered, limiter)

def TokenRateLimiter.answers (limiter : TokenRateLimiter) (calls : List RateCall) :
    List AnsweredCall :=
  (limiter.run calls).1

def RateCall.time? (call : RateCall) : Option ℚ :=
  match call.now with
  | .finite now => some now
  | .notFinite => none

/-- The times that the clock showed do not decrease. -/
def TimesSorted (calls : List RateCall) : Prop := (calls.filterMap RateCall.time?).Pairwise (· ≤ ·)

/-- The time at which a call of the client was accepted. -/
def AnsweredCall.acceptedAt (client : String) (call : AnsweredCall) : Option ℚ :=
  match call.now, call.answer with
  | .finite now, .ok true => if call.client = client then some now else none
  | _, _ => none

def acceptedTimes (client : String) (answered : List AnsweredCall) : List ℚ :=
  answered.filterMap (AnsweredCall.acceptedAt client)

/-- How many of the times are in the window that ends at `t`. -/
def inWindow (window t : ℚ) (times : List ℚ) : Nat :=
  times.countP fun time => t - window < time ∧ time ≤ t

/-! ## One call -/

section Call

variable {limiter : TokenRateLimiter} {client : String} {now : Reading}

/-- **A call that is not accepted changes nothing.** -/
theorem checkAt_unchanged (h : (limiter.checkAt client now).1 ≠ .ok true) :
    (limiter.checkAt client now).2 = limiter := by
  cases now with
  | notFinite => rfl
  | finite now =>
      cases hwindow : limiter.window with
      | error e => simp [TokenRateLimiter.checkAt, hwindow]
      | ok window =>
          simp only [TokenRateLimiter.checkAt, hwindow] at h ⊢
          split at h
          case isTrue hfull => rw [if_pos hfull]
          case isFalse => exact absurd rfl h

/-- What a call finds when it is rejected. -/
theorem checkAt_rejected (h : (limiter.checkAt client now).1 = .ok false) :
    ∃ limit window time, limiter.maximumHits = some limit ∧ limiter.window = .ok window ∧
      now = .finite time ∧ limit ≤ (limiter.timestamps client (time - window)).length := by
  cases now with
  | notFinite => cases h
  | finite time =>
      cases hwindow : limiter.window with
      | error e => simp [TokenRateLimiter.checkAt, hwindow] at h
      | ok window =>
          simp only [TokenRateLimiter.checkAt, hwindow] at h
          split at h
          case isFalse => cases h
          case isTrue hfull =>
              obtain ⟨limit, hlimit, hle⟩ := (Option.any_eq_true _ _).mp hfull
              exact ⟨limit, window, time, hlimit, rfl, rfl, by simpa using hle⟩

/-- What an accepted call finds, and what it leaves. -/
theorem checkAt_accepted (h : (limiter.checkAt client now).1 = .ok true) :
    ∃ window time, limiter.window = .ok window ∧ now = .finite time ∧
      (∀ limit, limiter.maximumHits = some limit →
        (limiter.timestamps client (time - window)).length < limit) ∧
      (limiter.checkAt client now).2 = { limiter with
        hits := Function.update limiter.hits client
          (some (limiter.timestamps client (time - window) ++ [time])) } := by
  cases now with
  | notFinite => cases h
  | finite time =>
      cases hwindow : limiter.window with
      | error e => simp [TokenRateLimiter.checkAt, hwindow] at h
      | ok window =>
          simp only [TokenRateLimiter.checkAt, hwindow] at h ⊢
          split at h
          case isTrue => cases h
          case isFalse hroom =>
              refine ⟨window, time, rfl, rfl, ?_, by rw [if_neg hroom]⟩
              intro limit hlimit
              simpa [hlimit] using hroom

/-- The configuration of a limiter does not change. -/
theorem checkAt_config (limiter : TokenRateLimiter) (client : String) (now : Reading) :
    (limiter.checkAt client now).2.maximumHits = limiter.maximumHits ∧
      (limiter.checkAt client now).2.window = limiter.window := by
  by_cases h : (limiter.checkAt client now).1 = .ok true
  · obtain ⟨window, time, -, -, -, heq⟩ := checkAt_accepted h
    rw [heq]
    exact ⟨rfl, rfl⟩
  · rw [checkAt_unchanged h]
    exact ⟨rfl, rfl⟩

/-- A call leaves the other clients as they were. -/
theorem checkAt_hits_of_ne {other : String} (hne : other ≠ client) :
    (limiter.checkAt client now).2.hits other = limiter.hits other := by
  by_cases h : (limiter.checkAt client now).1 = .ok true
  · obtain ⟨window, time, -, -, -, heq⟩ := checkAt_accepted h
    rw [heq]
    exact Function.update_of_ne hne _ _
  · rw [checkAt_unchanged h]

/-- The answer, and what is kept of the client, depend on what was kept of the client. -/
theorem checkAt_congr {limiter' : TokenRateLimiter}
    (hlimit : limiter.maximumHits = limiter'.maximumHits)
    (hwindow : limiter.window = limiter'.window)
    (hhits : limiter.hits client = limiter'.hits client) :
    (limiter.checkAt client now).1 = (limiter'.checkAt client now).1 ∧
      (limiter.checkAt client now).2.hits client =
        (limiter'.checkAt client now).2.hits client := by
  cases now with
  | notFinite => exact ⟨rfl, hhits⟩
  | finite time =>
      have htimes : ∀ cutoff, limiter.timestamps client cutoff =
          limiter'.timestamps client cutoff := by
        intro cutoff
        rw [TokenRateLimiter.timestamps, TokenRateLimiter.timestamps, hhits]
      simp only [TokenRateLimiter.checkAt, hlimit, hwindow, htimes]
      cases limiter'.window with
      | error e => exact ⟨rfl, hhits⟩
      | ok window =>
          dsimp only
          by_cases hfull : limiter'.maximumHits.any fun limit =>
              limit ≤ (limiter'.timestamps client (time - window)).length
          · rw [if_pos hfull, if_pos hfull]
            exact ⟨rfl, hhits⟩
          · rw [if_neg hfull, if_neg hfull]
            simp

end Call

/-! ## The clients by themselves -/

/-- **Clients do not influence each other**: what a client is answered in a run is what it would
be answered in the run of its own calls. -/
theorem answers_filter (client : String) (calls : List RateCall)
    {limiter limiter' : TokenRateLimiter}
    (hlimit : limiter.maximumHits = limiter'.maximumHits)
    (hwindow : limiter.window = limiter'.window)
    (hhits : limiter.hits client = limiter'.hits client) :
    (limiter.answers calls).filter (·.client = client) =
      limiter'.answers (calls.filter (·.client = client)) := by
  induction calls generalizing limiter limiter' with
  | nil => rfl
  | cons call calls ih =>
      obtain ⟨hlimit₁, hwindow₁⟩ := checkAt_config limiter call.client call.now
      by_cases hclient : call.client = client
      · subst hclient
        obtain ⟨hlimit₂, hwindow₂⟩ := checkAt_config limiter' call.client call.now
        obtain ⟨hanswer, hafter⟩ := checkAt_congr hlimit hwindow hhits
        have hrest := ih (hlimit₁.trans (hlimit.trans hlimit₂.symm))
          (hwindow₁.trans (hwindow.trans hwindow₂.symm)) hafter
        simp only [TokenRateLimiter.answers, TokenRateLimiter.run, List.filter_cons, decide_true,
          if_true] at hrest ⊢
        rw [hrest, hanswer]
      · have hafter : (limiter.checkAt call.client call.now).2.hits client =
            limiter'.hits client := (checkAt_hits_of_ne (Ne.symm hclient)).trans hhits
        have hrest := ih (hlimit₁.trans hlimit) (hwindow₁.trans hwindow) hafter
        simp only [TokenRateLimiter.answers, TokenRateLimiter.run, List.filter_cons, hclient,
          decide_false, Bool.false_eq_true, if_false] at hrest ⊢
        exact hrest

/-! ## The window -/

/-- The times that are stored are the accepted ones, as far as any cutoff to come can tell. -/
def Kept (window : ℚ) (stored times : List ℚ) : Prop :=
  ∀ cutoff, (∀ time ∈ times, time - window ≤ cutoff) →
    stored.filter (fun time => time > cutoff) = times.filter fun time => time > cutoff

/-- Each time was accepted while fewer than the limit of those before it were in the window. -/
inductive Spaced (maximumHits : Option Nat) (window : Except TokenRateLimitError ℚ) :
    List ℚ → Prop
  | nil : Spaced maximumHits window []
  | snoc {times : List ℚ} {now width : ℚ} (h : Spaced maximumHits window times)
      (hwindow : window = .ok width)
      (hroom : ∀ limit, maximumHits = some limit →
        times.countP (fun time => now - width < time) < limit) :
      Spaced maximumHits window (times ++ [now])

theorem Kept.accept {window now : ℚ} {stored times : List ℚ} (h : Kept window stored times) :
    Kept window (stored.filter (fun time => time > now - window) ++ [now]) (times ++ [now]) := by
  intro cutoff hcutoff
  have hnow : now - window ≤ cutoff := hcutoff now (by simp)
  have hold := h cutoff fun time hmem => hcutoff time (by simp [hmem])
  have hboth : ∀ time : ℚ, (decide (time > cutoff) && decide (time > now - window)) =
      decide (time > cutoff) := by
    intro time
    by_cases hlt : time > cutoff
    · have hpast : time > now - window := lt_of_le_of_lt hnow hlt
      simp [hlt, hpast]
    · simp [hlt]
  rw [List.filter_append, List.filter_append, List.filter_filter, ← hold]
  simp only [hboth]

/-- **No window holds more accepted calls than the limit.** -/
theorem Spaced.inWindow_le {limit : Nat} {window : Except TokenRateLimitError ℚ} {width : ℚ}
    {times : List ℚ} (h : Spaced (some limit) window times) (hwindow : window = .ok width) (t : ℚ) :
    inWindow width t times ≤ limit := by
  induction h with
  | nil => exact Nat.zero_le _
  | @snoc times now width' h hwidth hroom ih =>
      have hsame : width' = width := by
        rw [hwindow] at hwidth
        cases hwidth
        rfl
      subst hsame
      rw [inWindow, List.countP_append]
      by_cases hin : t - width' < now ∧ now ≤ t
      · -- the others in the window were in the one that this call saw
        have hmono : times.countP (fun time => t - width' < time ∧ time ≤ t) ≤
            times.countP fun time => now - width' < time := by
          refine List.countP_mono_left fun time _ htime => ?_
          have hlt : t - width' < time := (of_decide_eq_true htime).1
          have hle : now - width' ≤ t - width' := sub_le_sub_right hin.2 _
          exact decide_eq_true (lt_of_le_of_lt hle hlt)
        have hlt := hroom limit rfl
        have hone : [now].countP (fun time => t - width' < time ∧ time ≤ t) = 1 := by
          simp [hin]
        omega
      · have hzero : [now].countP (fun time => t - width' < time ∧ time ≤ t) = 0 := by
          simpa using hin
        rw [hzero]
        exact ih

/-! ## Runs of the limiter -/

/-- What holds of a limiter that has accepted `times` of each client. -/
structure Exact (limiter : TokenRateLimiter) (times : String → List ℚ) : Prop where
  kept : ∀ window, limiter.window = .ok window → ∀ client,
    Kept window ((limiter.hits client).getD []) (times client)
  spaced : ∀ client, Spaced limiter.maximumHits limiter.window (times client)

/-- The times that a call sees are the accepted ones in its window. -/
theorem Exact.timestamps {limiter : TokenRateLimiter} {times : String → List ℚ}
    (h : Exact limiter times) {window now : ℚ} (hwindow : limiter.window = .ok window)
    {client : String} (hpast : ∀ time ∈ times client, time ≤ now) :
    limiter.timestamps client (now - window) =
      (times client).filter fun time => time > now - window :=
  h.kept window hwindow client (now - window) fun time hmem =>
    sub_le_sub_right (hpast time hmem) _

/-- The accepted times of the clients with those of one more call. -/
def withAnswer (times : String → List ℚ) (call : AnsweredCall) (client : String) : List ℚ :=
  times client ++ (call.acceptedAt client).toList

theorem Exact.call {limiter : TokenRateLimiter} {times : String → List ℚ}
    (h : Exact limiter times) (call : RateCall)
    (hpast : ∀ client, ∀ time ∈ times client, ∀ now, call.now = .finite now → time ≤ now) :
    Exact (limiter.checkAt call.client call.now).2
      (withAnswer times ⟨call.client, call.now, (limiter.checkAt call.client call.now).1⟩) := by
  by_cases haccepted : (limiter.checkAt call.client call.now).1 = .ok true
  · obtain ⟨window, now, hwindow, hnow, hroom, heq⟩ := checkAt_accepted haccepted
    have hseen := h.timestamps hwindow fun time hmem => hpast call.client time hmem now hnow
    have htimes : ∀ client, withAnswer times
        ⟨call.client, call.now, (limiter.checkAt call.client call.now).1⟩ client =
        if call.client = client then times client ++ [now] else times client := by
      intro client
      rw [withAnswer, haccepted, hnow]
      show times client ++ (if call.client = client then some now else none).toList = _
      by_cases hclient : call.client = client <;> simp [hclient]
    rw [heq]
    constructor
    · intro window' hwindow' client
      have hsame : window' = window := by
        have hok : limiter.window = .ok window' := hwindow'
        rw [hwindow] at hok
        cases hok
        rfl
      subst hsame
      rw [htimes]
      by_cases hclient : call.client = client
      · subst hclient
        rw [if_pos rfl]
        simp only [Function.update_self, Option.getD_some]
        exact (h.kept window' hwindow call.client).accept
      · rw [if_neg hclient]
        simp only [Function.update_of_ne (Ne.symm hclient)]
        exact h.kept window' hwindow client
    · intro client
      rw [htimes]
      by_cases hclient : call.client = client
      · subst hclient
        rw [if_pos rfl]
        refine .snoc (h.spaced call.client) hwindow fun limit hlimit => ?_
        have hlt := hroom limit hlimit
        rw [hseen, ← List.countP_eq_length_filter] at hlt
        exact hlt
      · rw [if_neg hclient]
        exact h.spaced client
  · -- a call that is not accepted leaves everything as it was
    have htimes : withAnswer times
        ⟨call.client, call.now, (limiter.checkAt call.client call.now).1⟩ = times := by
      funext client
      have hnone : AnsweredCall.acceptedAt client
          ⟨call.client, call.now, (limiter.checkAt call.client call.now).1⟩ = none := by
        unfold AnsweredCall.acceptedAt
        split
        case h_1 now hnow hanswer => exact absurd hanswer haccepted
        case h_2 => rfl
      rw [withAnswer, hnone]
      exact List.append_nil _
    rw [htimes, checkAt_unchanged haccepted]
    exact h

/-- A rejected call saw the limit of accepted calls in its window. -/
theorem Exact.rejected {limiter : TokenRateLimiter} {times : String → List ℚ}
    (h : Exact limiter times) {client : String} {now : Reading}
    (hpast : ∀ time ∈ times client, ∀ t, now = .finite t → time ≤ t)
    (hrejected : (limiter.checkAt client now).1 = .ok false) :
    ∃ limit window t, limiter.maximumHits = some limit ∧ limiter.window = .ok window ∧
      now = .finite t ∧ limit ≤ inWindow window t (times client) := by
  obtain ⟨limit, window, t, hlimit, hwindow, hnow, hle⟩ := checkAt_rejected hrejected
  refine ⟨limit, window, t, hlimit, hwindow, hnow, ?_⟩
  rw [h.timestamps hwindow fun time hmem => hpast time hmem t hnow,
    ← List.countP_eq_length_filter] at hle
  refine hle.trans (List.countP_mono_left fun time hmem htime => ?_)
  exact decide_eq_true ⟨of_decide_eq_true htime, hpast time hmem t hnow⟩

/-- **A run** in which the clock does not go back: what is accepted stays spaced, and a call is
rejected only at the limit. -/
theorem Exact.run {limiter : TokenRateLimiter} {times : String → List ℚ} (h : Exact limiter times)
    (calls : List RateCall) (hsorted : TimesSorted calls)
    (hpast : ∀ client, ∀ time ∈ times client, ∀ t ∈ calls.filterMap RateCall.time?, time ≤ t) :
    (∀ client, Spaced limiter.maximumHits limiter.window
      (times client ++ acceptedTimes client (limiter.answers calls))) ∧
    ∀ before after client now,
      limiter.answers calls = before ++ ⟨client, now, .ok false⟩ :: after →
      ∃ limit window t, limiter.maximumHits = some limit ∧ limiter.window = .ok window ∧
        now = .finite t ∧ limit ≤ inWindow window t (times client ++ acceptedTimes client before) := by
  induction calls generalizing limiter times with
  | nil =>
      refine ⟨fun client => ?_, fun before after client now heq => ?_⟩
      · rw [show acceptedTimes client (limiter.answers []) = [] from rfl, List.append_nil]
        exact h.spaced client
      · exact absurd heq.symm (by simp [TokenRateLimiter.answers, TokenRateLimiter.run])
  | cons call calls ih =>
      have hnow : ∀ client, ∀ time ∈ times client, ∀ now, call.now = .finite now → time ≤ now := by
        intro client time hmem now hnow
        have htime : call.time? = some now := by rw [RateCall.time?, hnow]
        refine hpast client time hmem now ?_
        rw [List.filterMap_cons_some htime]
        exact List.mem_cons_self ..
      have hcall := h.call call hnow
      obtain ⟨hlimit, hwindow⟩ := checkAt_config limiter call.client call.now
      have hanswers : limiter.answers (call :: calls) =
          ⟨call.client, call.now, (limiter.checkAt call.client call.now).1⟩ ::
            (limiter.checkAt call.client call.now).2.answers calls := rfl
      have hsorted' : TimesSorted calls := by
        have hsub : calls.filterMap RateCall.time? <:+
            (call :: calls).filterMap RateCall.time? :=
          (List.suffix_cons call calls).filterMap _
        exact List.Pairwise.sublist hsub.sublist hsorted
      have hpast' : ∀ client, ∀ time ∈ withAnswer times
          ⟨call.client, call.now, (limiter.checkAt call.client call.now).1⟩ client,
          ∀ t ∈ calls.filterMap RateCall.time?, time ≤ t := by
        intro client time hmem t ht
        rcases List.mem_append.mp hmem with hmem | hmem
        · refine hpast client time hmem t ?_
          exact ((List.suffix_cons call calls).filterMap _).subset ht
        · have htime : call.time? = some time := by
            rw [Option.mem_toList, AnsweredCall.acceptedAt] at hmem
            split at hmem
            case h_1 now hnow hanswer =>
                split at hmem
                case isTrue =>
                    cases hmem
                    have hnow' : call.now = .finite time := hnow
                    rw [RateCall.time?, hnow']
                case isFalse => cases hmem
            case h_2 => cases hmem
          have hcons : TimesSorted (call :: calls) := hsorted
          rw [TimesSorted, List.filterMap_cons_some htime, List.pairwise_cons] at hcons
          exact hcons.1 t ht
      obtain ⟨hspaced, hrejected⟩ := ih hcall hsorted' hpast'
      rw [hlimit, hwindow] at hspaced hrejected
      have htimes : ∀ client answered, times client ++ acceptedTimes client
          (⟨call.client, call.now, (limiter.checkAt call.client call.now).1⟩ :: answered) =
          withAnswer times ⟨call.client, call.now, (limiter.checkAt call.client call.now).1⟩
            client ++ acceptedTimes client answered := by
        intro client answered
        rw [withAnswer, acceptedTimes, acceptedTimes, List.filterMap_cons, List.append_assoc]
        cases AnsweredCall.acceptedAt client
          ⟨call.client, call.now, (limiter.checkAt call.client call.now).1⟩ <;> rfl
      refine ⟨fun client => ?_, fun before after client now heq => ?_⟩
      · rw [hanswers, htimes]
        exact hspaced client
      · rw [hanswers] at heq
        cases before with
        | nil =>
            rw [List.nil_append, List.cons.injEq, AnsweredCall.mk.injEq] at heq
            obtain ⟨⟨rfl, rfl, hanswer⟩, -⟩ := heq
            have hfound := h.rejected (fun time hmem t ht => hnow call.client time hmem t ht) hanswer
            simpa [acceptedTimes] using hfound
        | cons answered before =>
            rw [List.cons_append, List.cons.injEq] at heq
            obtain ⟨rfl, heq⟩ := heq
            rw [htimes]
            exact hrejected before after client now heq

theorem Exact.new (maximumHits : Option Nat) (window : Except TokenRateLimitError ℚ) :
    Exact (.new maximumHits window) fun _ => [] :=
  ⟨fun _ _ _ _ _ => rfl, fun _ => .nil⟩

/-- **The limiter is an exact sliding window.**  While the clock does not go back, no window of any
client holds more accepted calls than the limit, and a call is rejected only when its own window
holds the limit; a call that is not accepted changes nothing, whatever the state; and what a client
is answered depends on its own calls alone. -/
theorem checkAt_slidingWindow (maximumHits : Option Nat) (window : Except TokenRateLimitError ℚ)
    (calls : List RateCall) (hsorted : TimesSorted calls) :
    (∀ limit width, maximumHits = some limit → window = .ok width → ∀ client t,
      inWindow width t (acceptedTimes client
        ((TokenRateLimiter.new maximumHits window).answers calls)) ≤ limit) ∧
    (∀ before after client now,
      (TokenRateLimiter.new maximumHits window).answers calls =
        before ++ ⟨client, now, .ok false⟩ :: after →
      ∃ limit width t, maximumHits = some limit ∧ window = .ok width ∧ now = .finite t ∧
        limit ≤ inWindow width t (acceptedTimes client before)) ∧
    (∀ (limiter : TokenRateLimiter) client now, (limiter.checkAt client now).1 ≠ .ok true →
      (limiter.checkAt client now).2 = limiter) ∧
    ∀ client, ((TokenRateLimiter.new maximumHits window).answers calls).filter
        (·.client = client) =
      (TokenRateLimiter.new maximumHits window).answers (calls.filter (·.client = client)) := by
  obtain ⟨hspaced, hrejected⟩ := (Exact.new maximumHits window).run calls hsorted (by simp)
  refine ⟨?_, hrejected, fun _ _ _ h => checkAt_unchanged h,
    fun client => answers_filter client calls rfl rfl rfl⟩
  rintro limit width rfl hwindow client t
  exact Spaced.inWindow_le (hspaced client) hwindow t

/-- Two calls in a minute: the third waits for the first to leave the window. -/
theorem checkAt_slidingWindow_minute :
    ((TokenRateLimiter.new (some 2) (.ok 60)).answers
      [⟨"a", .finite 100⟩, ⟨"a", .finite 101⟩, ⟨"a", .finite 102⟩, ⟨"b", .finite 102⟩,
        ⟨"a", .finite 160⟩]).map (·.answer) = [.ok true, .ok true, .ok false, .ok true, .ok true] ∧
    inWindow 60 160 (acceptedTimes "a" ((TokenRateLimiter.new (some 2) (.ok 60)).answers
      [⟨"a", .finite 100⟩, ⟨"a", .finite 101⟩, ⟨"a", .finite 102⟩, ⟨"b", .finite 102⟩,
        ⟨"a", .finite 160⟩])) ≤ 2 :=
  ⟨by decide +kernel, (checkAt_slidingWindow _ _ _ (by unfold TimesSorted; decide +kernel)).1 2 60
    rfl rfl "a" 160⟩

end Marty.Issuance
