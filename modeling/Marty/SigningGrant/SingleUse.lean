import Marty.Lib.Interleaving
import Marty.Lib.Log
import Marty.SigningGrant.Grants
import Mathlib.Data.List.Nodup

/-!
# A grant is used once

A grant is minted, verified any number of times, and recorded as used under its nonce for as
long as it could be accepted.  Whoever makes the record may check one operation against the
grant.  The checks read the clock again, so that a record that is made when the first one has
run out comes too late.

All parties read one clock, in whole seconds.  What a call reads of it before it records the
use may be old; the checks read it when the use has been recorded.  The service that
authenticates the claims accepts no text that it has not authenticated for the same origin,
and no nonce is drawn twice.

## Main definitions

* `World`, `Call`, `plan` — the shared state, the calls, and what they do next.
* `grantMachine` — the calls of any number of parties.
* `Uses` — what holds of the uses of a grant.
* `GrantAccount` — what is promised of every state.
-/

namespace Marty.SigningGrant

open Lib Lib.Checked

/-- A grant that has been minted, and what it was minted for. -/
structure MintedGrant where
  binding : GrantBinding
  claims : GrantClaims
  input : List Char
  deriving DecidableEq, Repr

/-- A grant that has been recorded as used, and when. -/
structure Use where
  grant : ConsumedGrant
  time : Int
  deriving DecidableEq, Repr

/-- What is checked against a grant, or against the approval that came from it. -/
inductive Check
  | authorizes (binding : GrantBinding)
  | authorizesFinal (actual : FinalSignBinding)
  | approveServiceCsr (intent : GrantBinding) (actual : FinalSignBinding)
  | approveIssuerCsr (intent : GrantBinding) (actual : FinalSignBinding)
  | serviceCsr (intent : GrantBinding) (actual : FinalSignBinding)
      (approved : ApprovedServiceCsrSign) (final : FinalSignBinding)
  | issuerCsr (intent : GrantBinding) (actual : FinalSignBinding)
      (approved : ApprovedIssuerCsrSign) (final : FinalSignBinding)
  deriving DecidableEq, Repr

/-- An authorization that has returned. -/
structure Authorization where
  used : Use
  check : Check
  /-- The reading of the clock. -/
  now : Int
  /-- How many authorizations had returned when the clock was read. -/
  earlier : Nat
  granted : Bool
  deriving DecidableEq, Repr

def Authorization.claims (a : Authorization) : GrantClaims := a.used.grant.claims

/-- The shared state. -/
structure World where
  clock : Int
  minted : List MintedGrant
  verified : List GrantClaims
  /-- The keys of the replay store, with the time at which they run out. -/
  markers : String → Option Int
  log : List Authorization

inductive Action
  | read
  | tick (now : Int)
  | mint (grant : MintedGrant)
  | accept (claims : GrantClaims)
  | mark (claims : GrantClaims) (deadline : Int)
  | record (authorization : Authorization)
  deriving DecidableEq, Repr

def replayKey (nonce : String) : String := "marty:issuer-signing-grant:used:v1:" ++ nonce

def maxReplayTtlSeconds : Int := 66

namespace World

def apply (world : World) : Action → World
  | .read => world
  | .tick now => { world with clock := now }
  | .mint grant => { world with minted := world.minted ++ [grant] }
  | .accept claims => { world with verified := world.verified ++ [claims] }
  | .mark claims deadline =>
      { world with
        markers := Function.update world.markers (replayKey claims.nonce) (some deadline) }
  | .record authorization => { world with log := world.log ++ [authorization] }

/-- The key has been set, and has not run out. -/
def marked (world : World) (nonce : String) : Bool :=
  (world.markers (replayKey nonce)).any fun deadline => decide (world.clock < deadline)

/-- The service has authenticated the text for the origin. -/
def authenticated (world : World) (origin : SigningOrigin) (input : List Char) : Bool :=
  world.minted.any fun grant => grant.claims.origin == origin && grant.input == input

end World

/-- The state of one call. -/
inductive Call
  | idle
  | verifying (claims : GrantClaims) (input : List Char)
  | consuming (claims : GrantClaims) (ttl : Int)
  | consumed (used : Use)
  | checking (used : Use) (check : Check) (now : Int) (earlier : Nat)
  | approvedServiceCsr (used : Use) (intent : GrantBinding) (actual : FinalSignBinding)
      (approved : ApprovedServiceCsrSign)
  | approvedIssuerCsr (used : Use) (intent : GrantBinding) (actual : FinalSignBinding)
      (approved : ApprovedIssuerCsrSign)
  | done
  deriving DecidableEq, Repr

/-- What happens next.  `now` is a reading of the clock, which may be old. -/
inductive Event
  | tick (now : Int)
  | mint (clientOrigin : SigningOrigin) (binding : GrantBinding) (now : Int) (nonce : String)
  | verify (clientOrigin : SigningOrigin) (claims : GrantClaims) (binding : GrantBinding)
      (now : Int)
  | answer (valid : Bool)
  | consume (claims : GrantClaims) (now : Int)
  /-- `lost` when the reply of the replay store does not arrive. -/
  | set (lost : Bool)
  | authorizes (binding : GrantBinding)
  | authorizesFinal (actual : FinalSignBinding)
  | approveServiceCsr (intent : GrantBinding) (actual : FinalSignBinding)
  | approveIssuerCsr (intent : GrantBinding) (actual : FinalSignBinding)
  | authorizesApproved (final : FinalSignBinding)
  | finish
  | fail
  deriving DecidableEq, Repr

section Plan

variable (sha256 : List UInt8 → List UInt8)

/-- The check reads the clock. -/
def begin (world : World) (used : Use) (check : Check) : Action × Call :=
  (.read, .checking used check world.clock world.log.length)

/-- The check returns. -/
def finish (used : Use) (check : Check) (now : Int) (earlier : Nat) : Action × Call :=
  match check with
  | .authorizes binding =>
      (.record ⟨used, check, now, earlier, used.grant.authorizes sha256 binding now⟩, .done)
  | .authorizesFinal actual =>
      (.record ⟨used, check, now, earlier, used.grant.authorizesFinal sha256 actual now⟩, .done)
  | .approveServiceCsr intent actual =>
      match used.grant.approveServiceCsr sha256 intent actual now with
      | some approved => (.read, .approvedServiceCsr used intent actual approved)
      | none => (.record ⟨used, check, now, earlier, false⟩, .done)
  | .approveIssuerCsr intent actual =>
      match used.grant.approveIssuerCsr sha256 intent actual now with
      | some approved => (.read, .approvedIssuerCsr used intent actual approved)
      | none => (.record ⟨used, check, now, earlier, false⟩, .done)
  | .serviceCsr _ _ approved final =>
      (.record ⟨used, check, now, earlier, approved.authorizes sha256 final now⟩, .done)
  | .issuerCsr _ _ approved final =>
      (.record ⟨used, check, now, earlier, approved.authorizes sha256 final now⟩, .done)

/-- What a call does with an event: nothing when the event is not its next step. -/
def plan (world : World) : Event → Call → Option (Action × Call)
  | .tick now, .idle => if world.clock ≤ now then some (.tick now, .idle) else none
  | .mint clientOrigin binding now nonce, .idle =>
      if now ≤ world.clock ∧ ∀ grant ∈ world.minted, grant.claims.nonce ≠ nonce then
        match mintBound sha256 clientOrigin binding now nonce with
        | .error _ => some (.read, .done)
        | .ok (claims, input) => some (.mint ⟨binding, claims, input⟩, .done)
      else none
  | .verify clientOrigin claims binding now, .idle =>
      if now ≤ world.clock then
        match verifyBound sha256 clientOrigin claims binding now with
        | .error _ => some (.read, .done)
        | .ok input => some (.read, .verifying claims input)
      else none
  | .answer valid, .verifying claims input =>
      if valid then
        if world.authenticated claims.origin input then some (.accept claims, .done) else none
      else some (.read, .done)
  | .consume claims now, .idle =>
      if now ≤ world.clock ∧ claims ∈ world.verified then
        if 1 ≤ claims.expiresAt - now + 1 ∧ claims.expiresAt - now + 1 ≤ maxReplayTtlSeconds then
          some (.read, .consuming claims (claims.expiresAt - now + 1))
        else some (.read, .done)
      else none
  | .set lost, .consuming claims ttl =>
      if world.marked claims.nonce then some (.read, .done)
      else
        some (.mark claims (world.clock + ttl),
          if lost then .done else .consumed ⟨⟨claims⟩, world.clock⟩)
  | .authorizes binding, .consumed used => some (begin world used (.authorizes binding))
  | .authorizesFinal actual, .consumed used => some (begin world used (.authorizesFinal actual))
  | .approveServiceCsr intent actual, .consumed used =>
      some (begin world used (.approveServiceCsr intent actual))
  | .approveIssuerCsr intent actual, .consumed used =>
      some (begin world used (.approveIssuerCsr intent actual))
  | .authorizesApproved final, .approvedServiceCsr used intent actual approved =>
      some (begin world used (.serviceCsr intent actual approved final))
  | .authorizesApproved final, .approvedIssuerCsr used intent actual approved =>
      some (begin world used (.issuerCsr intent actual approved final))
  | .finish, .checking used check now earlier => some (finish sha256 used check now earlier)
  -- a call that fails, or is given up, loses what it holds
  | .fail, _ => some (.read, .done)
  | _, _ => none

/-- The calls of any number of parties. -/
def grantMachine {ι : Type*} : Machine World ι Event Call where
  step _ event world call := (plan sha256 world event call).map fun r => (world.apply r.1, r.2)

end Plan

/-- Nothing has been minted. -/
structure Initial {ι : Type*} (c : Config World ι Call) : Prop where
  minted : c.store.minted = []
  verified : c.store.verified = []
  log : c.store.log = []
  calls : ∀ i, c.calls i = .idle

/-! ## Uses -/

variable {ι : Type*} {sha256 : List UInt8 → List UInt8} {world world' : World} {action : Action}
  {call call' : Call} {event : Event} {claims : GrantClaims} {used used' : Use} {i j : ι}

theorem replayKey_injective {a b : String} (h : replayKey a = replayKey b) : a = b :=
  String.append_right_inj _ |>.mp h

def Use.nonce (used : Use) : String := used.grant.claims.nonce

/-- The grant had not expired when it was recorded as used. -/
def Use.InTime (used : Use) : Prop := used.time ≤ used.grant.claims.expiresAt

/-- The claims are those of a grant that has been minted. -/
def World.Minted (world : World) (claims : GrantClaims) : Prop :=
  ∃ grant ∈ world.minted, grant.claims = claims

/-- What holds of a use: the grant was minted, and the record of a timely use outlasts it. -/
structure World.Holds (world : World) (used : Use) : Prop where
  minted : world.Minted used.grant.claims
  time : used.time ≤ world.clock
  marker : used.InTime → ∃ deadline, world.markers (replayKey used.nonce) = some deadline ∧
    used.grant.claims.expiresAt < deadline

/-- The use that a call holds. -/
def Call.holds : Call → Option Use
  | .consumed used => some used
  | .checking used _ _ _ => some used
  | .approvedServiceCsr used _ _ _ => some used
  | .approvedIssuerCsr used _ _ _ => some used
  | _ => none

/-- An approval is one that the grant has given. -/
def Check.Justified (sha256 : List UInt8 → List UInt8) (grant : ConsumedGrant) : Check → Prop
  | .serviceCsr intent actual approved _ =>
      ∃ now, grant.approveServiceCsr sha256 intent actual now = some approved
  | .issuerCsr intent actual approved _ =>
      ∃ now, grant.approveIssuerCsr sha256 intent actual now = some approved
  | _ => True

/-- What a check against the grant has said. -/
def Check.passes (sha256 : List UInt8 → List UInt8) (grant : ConsumedGrant) (now : Int) :
    Check → Bool
  | .authorizes binding => grant.authorizes sha256 binding now
  | .authorizesFinal actual => grant.authorizesFinal sha256 actual now
  | .serviceCsr _ _ approved final => approved.authorizes sha256 final now
  | .issuerCsr _ _ approved final => approved.authorizes sha256 final now
  | .approveServiceCsr _ _ | .approveIssuerCsr _ _ => false

/-- What a reading of the clock by a check says of the authorizations before it. -/
structure World.Reads (world : World) (used : Use) (now : Int) (earlier : Nat) : Prop where
  used : used.time ≤ now
  clock : now ≤ world.clock
  length : earlier ≤ world.log.length
  log : ∀ f ∈ world.log.take earlier, f.used.time ≤ now

/-- What a call knows. -/
def Knows (sha256 : List UInt8 → List UInt8) (world : World) : Call → Prop
  | .verifying claims input => input = claims.input
  | .consuming claims ttl => world.Minted claims ∧ claims.expiresAt < world.clock + ttl ∧ 0 < ttl
  | .checking used check now earlier => check.Justified sha256 used.grant ∧
      world.Reads used now earlier
  | .approvedServiceCsr used intent actual approved =>
      ∃ now, used.grant.approveServiceCsr sha256 intent actual now = some approved
  | .approvedIssuerCsr used intent actual approved =>
      ∃ now, used.grant.approveIssuerCsr sha256 intent actual now = some approved
  | _ => True

/-- What holds of an authorization that has returned. -/
structure World.Recorded (sha256 : List UInt8 → List UInt8) (world : World)
    (a : Authorization) : Prop where
  reads : world.Reads a.used a.now a.earlier
  justified : a.check.Justified sha256 a.used.grant
  granted : a.granted = true → a.check.passes sha256 a.used.grant a.now = true

/-- Two uses of one grant are not both in time. -/
def Apart (used used' : Use) : Prop := used.nonce = used'.nonce → used.InTime → ¬ used'.InTime

/-- **The invariant.** -/
structure Sound (sha256 : List UInt8 → List UInt8) (c : Config World ι Call) : Prop where
  nonces : (c.store.minted.map (·.claims.nonce)).Nodup
  minted : ∀ grant ∈ c.store.minted, grant.input = grant.claims.input ∧
    grant.claims.Binds sha256 grant.binding
  verified : ∀ claims ∈ c.store.verified, c.store.Minted claims
  knows : ∀ i, Knows sha256 c.store (c.calls i)
  held : ∀ i used, (c.calls i).holds = some used → c.store.Holds used
  logged : ∀ a ∈ c.store.log, c.store.Holds a.used ∧ c.store.Recorded sha256 a
  /-- Of the uses that are held, and those that are logged, one is in time. -/
  heldApart : ∀ i j used used', i ≠ j → (c.calls i).holds = some used →
    (c.calls j).holds = some used' → Apart used used'
  logApart : ∀ i used, (c.calls i).holds = some used → ∀ a ∈ c.store.log, Apart a.used used
  apart : c.store.log.Pairwise fun a b => Apart a.used b.used
  ordered : Justified (fun before a => a.earlier ≤ before.length) c.store.log

theorem Apart.symm (h : Apart used used') : Apart used' used :=
  fun hnonce hintime hintime' => h hnonce.symm hintime' hintime

/-- What a call must have made sure of before it acts, and what it then holds. -/
def Permitted (sha256 : List UInt8 → List UInt8) (world : World) (call call' : Call) :
    Action → Prop
  | .read => call'.holds = call.holds ∨ call'.holds = none
  | .tick now => world.clock ≤ now ∧ call'.holds = none
  | .mint grant => (∀ other ∈ world.minted, other.claims.nonce ≠ grant.claims.nonce) ∧
      grant.input = grant.claims.input ∧ grant.claims.Binds sha256 grant.binding ∧
      call'.holds = none
  | .accept claims => world.Minted claims ∧ call'.holds = none
  | .mark claims deadline => world.Minted claims ∧ world.marked claims.nonce = false ∧
      claims.expiresAt < deadline ∧ ∀ used, call'.holds = some used →
        used = ⟨⟨claims⟩, world.clock⟩
  | .record a => call.holds = some a.used ∧ call'.holds = none ∧ world.Recorded sha256 a

/-! ## What stays -/

/-- What never goes back. -/
structure Later (world world' : World) : Prop where
  clock : world.clock ≤ world'.clock
  minted : ∀ claims, world.Minted claims → world'.Minted claims
  log : world.log <+: world'.log

theorem Later.reads {now : Int} {earlier : Nat} (h : world.Reads used now earlier)
    (hlater : Later world world') : world'.Reads used now earlier where
  used := h.used
  clock := Int.le_trans h.clock hlater.clock
  length := Nat.le_trans h.length hlater.log.length_le
  log := by
    obtain ⟨t, ht⟩ := hlater.log
    rw [← ht, List.take_append_of_le_length h.length]
    exact h.log

theorem Later.recorded {a : Authorization} (h : world.Recorded sha256 a)
    (hlater : Later world world') : world'.Recorded sha256 a :=
  ⟨hlater.reads h.reads, h.justified, h.granted⟩

theorem Knows.later (h : Knows sha256 world call) (hlater : Later world world') :
    Knows sha256 world' call := by
  cases call with
  | verifying claims input => exact h
  | consuming claims ttl =>
      obtain ⟨hminted, hdeadline, hpos⟩ := h
      have hclock := hlater.clock
      exact ⟨hlater.minted _ hminted, by omega, hpos⟩
  | checking used check now earlier => exact ⟨h.1, hlater.reads h.2⟩
  | approvedServiceCsr used intent actual approved => exact h
  | approvedIssuerCsr used intent actual approved => exact h
  | _ => trivial

theorem Later.apply (hp : Permitted sha256 world call call' action) :
    Later world (world.apply action) := by
  have hminted : ∀ claims, world.Minted claims → world.Minted claims := fun _ h => h
  cases action with
  | read | accept | mark => exact ⟨Int.le_refl _, hminted, List.prefix_rfl⟩
  | tick now => exact ⟨hp.1, hminted, List.prefix_rfl⟩
  | mint grant =>
      refine ⟨Int.le_refl _, fun claims h => ?_, List.prefix_rfl⟩
      obtain ⟨other, hother, hclaims⟩ := h
      exact ⟨other, List.mem_append_left _ hother, hclaims⟩
  | record a => exact ⟨Int.le_refl _, hminted, List.prefix_append _ _⟩

/-- A nonce names one grant. -/
theorem Sound.claims_eq {c : Config World ι Call} (h : Sound sha256 c)
    {claims claims' : GrantClaims}
    (hminted : c.store.Minted claims) (hminted' : c.store.Minted claims')
    (hnonce : claims.nonce = claims'.nonce) : claims = claims' := by
  obtain ⟨grant, hgrant, rfl⟩ := hminted
  obtain ⟨grant', hgrant', rfl⟩ := hminted'
  rw [List.inj_on_of_nodup_map h.nonces hgrant hgrant' hnonce]

/-- **The record of a use outlasts the grant**, also when it is made again. -/
theorem Sound.holds {c : Config World ι Call} (h : Sound sha256 c)
    (hp : Permitted sha256 c.store call call' action) (hused : c.store.Holds used) :
    (c.store.apply action).Holds used := by
  have hlater := Later.apply hp
  refine ⟨hlater.minted _ hused.minted, Int.le_trans hused.time hlater.clock, fun hintime => ?_⟩
  obtain ⟨deadline, hdeadline, hexpires⟩ := hused.marker hintime
  cases action with
  | mark claims deadline' =>
      obtain ⟨hminted, -, hlasts, -⟩ := hp
      by_cases hkey : replayKey used.nonce = replayKey claims.nonce
      · have hclaims := h.claims_eq hused.minted hminted (replayKey_injective hkey)
        refine ⟨deadline', ?_, hclaims ▸ hlasts⟩
        simp [World.apply, hkey]
      · refine ⟨deadline, ?_, hexpires⟩
        simpa [World.apply, hkey] using hdeadline
  | _ => exact ⟨deadline, hdeadline, hexpires⟩

/-- **A use that is recorded now** is not in time when another one was. -/
theorem Sound.apart_mark {c : Config World ι Call} (h : Sound sha256 c)
    (hminted : c.store.Minted claims) (hfree : c.store.marked claims.nonce = false)
    (hused : c.store.Holds used) : Apart used ⟨⟨claims⟩, c.store.clock⟩ := by
  intro hnonce hintime hintime'
  obtain ⟨deadline, hdeadline, hexpires⟩ := hused.marker hintime
  have hclaims : used.grant.claims = claims := h.claims_eq hused.minted hminted hnonce
  have hkey : c.store.markers (replayKey claims.nonce) = some deadline := by
    rw [← hdeadline, hnonce]
    rfl
  simp only [World.marked, hkey, Option.any_some, decide_eq_false_iff_not, not_lt] at hfree
  have hlate : c.store.clock ≤ claims.expiresAt := hintime'
  rw [hclaims] at hexpires
  omega

/-! ## Steps -/

/-- What a call holds after a step it held before, or has recorded in the step. -/
theorem Permitted.holds (hp : Permitted sha256 world call call' action)
    (hused : call'.holds = some used) :
    (call.holds = some used ∧ ∀ a, action ≠ .record a) ∨
      ∃ claims deadline, action = .mark claims deadline ∧ used = ⟨⟨claims⟩, world.clock⟩ := by
  cases action with
  | read =>
      obtain hsame | hnone := hp
      · exact .inl ⟨hsame ▸ hused, fun a h => by cases h⟩
      · simp [hnone] at hused
  | tick now => simp [hp.2] at hused
  | mint grant => simp [hp.2.2.2] at hused
  | accept claims => simp [hp.2] at hused
  | mark claims deadline => exact .inr ⟨claims, deadline, rfl, hp.2.2.2 used hused⟩
  | record a => simp [hp.2.1] at hused

/-- The log after a step is the log before it, or has one more entry. -/
theorem World.log_apply {a : Authorization} (h : a ∈ (world.apply action).log) :
    a ∈ world.log ∨ action = .record a := by
  cases action with
  | record b =>
      rcases List.mem_append.mp h with h | h
      · exact .inl h
      · exact .inr (by rw [List.mem_singleton.mp h])
  | _ => exact .inl h

/-- **An action keeps the invariant** when it is permitted and what the call knows is true. -/
theorem Sound.act [DecidableEq ι] {c : Config World ι Call} (h : Sound sha256 c)
    (hp : Permitted sha256 c.store (c.calls i) call' action)
    (hknows : Knows sha256 (c.store.apply action) call') :
    Sound sha256 ⟨c.store.apply action, Function.update c.calls i call'⟩ := by
  have hlater := Later.apply hp
  have hcall : ∀ j used, (Function.update c.calls i call' j).holds = some used →
      ((c.calls j).holds = some used ∧ (j = i → ∀ a, action ≠ .record a)) ∨
        j = i ∧ ∃ claims deadline, action = .mark claims deadline ∧
          used = ⟨⟨claims⟩, c.store.clock⟩ := by
    intro j used hused
    by_cases hj : j = i
    · subst hj
      rw [Function.update_self] at hused
      obtain ⟨hsame, hrecord⟩ | hmark := hp.holds hused
      · exact .inl ⟨hsame, fun _ => hrecord⟩
      · exact .inr ⟨rfl, hmark⟩
    · rw [Function.update_of_ne hj] at hused
      exact .inl ⟨hused, fun hi => absurd hi hj⟩
  constructor
  case nonces =>
    cases action with
    | mint grant =>
        show (List.map _ (c.store.minted ++ [grant])).Nodup
        rw [List.map_append, List.nodup_append]
        refine ⟨h.nonces, by simp, ?_⟩
        intro x hx y hy
        simp only [List.map_cons, List.map_nil, List.mem_singleton] at hy
        obtain ⟨other, hother, rfl⟩ := List.mem_map.mp hx
        exact hy ▸ hp.1 other hother
    | _ => exact h.nonces
  case minted =>
    cases action with
    | mint grant =>
        intro other hother
        rcases List.mem_append.mp hother with hother | hother
        · exact h.minted other hother
        · rw [List.mem_singleton.mp hother]
          exact ⟨hp.2.1, hp.2.2.1⟩
    | _ => exact h.minted
  case verified =>
    intro claims hclaims
    cases action with
    | accept claims' =>
        rcases List.mem_append.mp hclaims with hclaims | hclaims
        · exact h.verified claims hclaims
        · rw [List.mem_singleton.mp hclaims]
          exact hp.1
    | _ => exact hlater.minted _ (h.verified claims hclaims)
  case knows =>
    intro j
    show Knows sha256 _ (Function.update c.calls i call' j)
    by_cases hj : j = i
    · subst hj
      rwa [Function.update_self]
    · rw [Function.update_of_ne hj]
      exact (h.knows j).later hlater
  case held =>
    intro j used hused
    obtain ⟨hsame, -⟩ | ⟨-, claims, deadline, rfl, rfl⟩ := hcall j used hused
    · exact h.holds hp (h.held j used hsame)
    · obtain ⟨hminted, -, hlasts, -⟩ := hp
      refine ⟨hlater.minted _ hminted, Int.le_refl _, fun _ => ⟨deadline, ?_, hlasts⟩⟩
      exact Function.update_self ..
  case logged =>
    intro a ha
    obtain ha | rfl := World.log_apply ha
    · obtain ⟨hholds, hrecorded⟩ := h.logged a ha
      exact ⟨h.holds hp hholds, hlater.recorded hrecorded⟩
    · exact ⟨h.holds hp (h.held i _ hp.1), hlater.recorded hp.2.2⟩
  case heldApart =>
    intro j k used used' hne hused hused'
    obtain ⟨hsame, -⟩ | ⟨rfl, claims, deadline, rfl, rfl⟩ := hcall j used hused
    · obtain ⟨hsame', -⟩ | ⟨rfl, claims, deadline, rfl, rfl⟩ := hcall k used' hused'
      · exact h.heldApart j k used used' hne hsame hsame'
      · exact h.apart_mark hp.1 hp.2.1 (h.held j used hsame)
    · obtain ⟨hsame', -⟩ | ⟨rfl, -⟩ := hcall k used' hused'
      · exact (h.apart_mark hp.1 hp.2.1 (h.held k used' hsame')).symm
      · exact absurd rfl hne
  case logApart =>
    intro j used hused a ha
    obtain ha | rfl := World.log_apply ha
    · obtain ⟨hsame, -⟩ | ⟨rfl, claims, deadline, rfl, rfl⟩ := hcall j used hused
      · exact h.logApart j used hsame a ha
      · exact h.apart_mark hp.1 hp.2.1 (h.logged a ha).1
    · obtain ⟨hsame, hrecord⟩ | ⟨-, claims, deadline, heq, -⟩ := hcall j used hused
      · have hne : i ≠ j := fun hij => hrecord hij.symm a rfl
        exact h.heldApart i j _ _ hne hp.1 hsame
      · cases heq
  case apart =>
    cases action with
    | record a =>
        show (c.store.log ++ [a]).Pairwise _
        rw [List.pairwise_append]
        refine ⟨h.apart, List.pairwise_singleton _ _, ?_⟩
        intro b hb a' ha'
        rw [List.mem_singleton.mp ha']
        exact h.logApart i _ hp.1 b hb
    | _ => exact h.apart
  case ordered =>
    cases action with
    | record a => exact h.ordered.append hp.2.2.reads.length
    | _ => exact h.ordered

/-! ## What each call does -/

/-- What a call may do, with what it knows afterwards. -/
structure Acts (sha256 : List UInt8 → List UInt8) (world : World) (call : Call) (action : Action)
    (call' : Call) : Prop where
  permitted : Permitted sha256 world call call' action
  knows : Knows sha256 (world.apply action) call'

/-- A check that begins reads a clock that no earlier use is ahead of. -/
theorem begin_acts {check : Check} (hlog : ∀ a ∈ world.log, a.used.time ≤ world.clock)
    (hholds : call.holds = some used) (htime : used.time ≤ world.clock)
    (hcheck : check.Justified sha256 used.grant) :
    Acts sha256 world call (begin world used check).1 (begin world used check).2 where
  permitted := .inl hholds.symm
  knows := by
    refine ⟨hcheck, htime, Int.le_refl _, Nat.le_refl _, fun f hf => ?_⟩
    exact hlog f (List.mem_of_mem_take hf)

theorem finish_acts {check : Check} {now : Int} {earlier : Nat}
    (h : finish sha256 used check now earlier = (action, call'))
    (hknows : Knows sha256 world (.checking used check now earlier)) :
    Acts sha256 world (.checking used check now earlier) action call' := by
  obtain ⟨hcheck, hreads⟩ := hknows
  have hrecord : ∀ granted, (granted = true → check.passes sha256 used.grant now = true) →
      Acts sha256 world (.checking used check now earlier)
        (.record ⟨used, check, now, earlier, granted⟩) .done := by
    intro granted hgranted
    exact ⟨⟨rfl, rfl, hreads, hcheck, hgranted⟩, trivial⟩
  unfold finish at h
  split at h
  case h_3 =>
    split at h
    case h_1 approved happroved =>
      cases h
      exact ⟨.inl rfl, now, happroved⟩
    case h_2 =>
      cases h
      exact hrecord false (fun h => by cases h)
  case h_4 =>
    split at h
    case h_1 approved happroved =>
      cases h
      exact ⟨.inl rfl, now, happroved⟩
    case h_2 =>
      cases h
      exact hrecord false (fun h => by cases h)
  all_goals
    cases h
    exact hrecord _ id

theorem World.authenticated_iff {origin : SigningOrigin} {input : List Char} :
    world.authenticated origin input = true ↔
      ∃ grant ∈ world.minted, grant.claims.origin = origin ∧ grant.input = input := by
  simp [World.authenticated]

/-- **What a call does** is permitted, and it knows what it goes on from. -/
theorem Sound.acts {c : Config World ι Call} (h : Sound sha256 c)
    (hplan : plan sha256 c.store event (c.calls i) = some (action, call')) :
    Acts sha256 c.store (c.calls i) action call' := by
  have hlog : ∀ a ∈ c.store.log, a.used.time ≤ c.store.clock := fun a ha => (h.logged a ha).1.time
  have hknows := h.knows i
  have hheld := fun used => h.held i used
  generalize c.calls i = call at hplan hknows hheld
  unfold plan at hplan
  split at hplan
  case h_1 now =>
    split at hplan
    case isTrue hnow =>
      cases hplan
      exact ⟨⟨hnow, rfl⟩, trivial⟩
    case isFalse => cases hplan
  case h_2 clientOrigin binding now nonce =>
    split at hplan
    case isTrue hfresh =>
      split at hplan
      case h_1 =>
        cases hplan
        exact ⟨.inr rfl, trivial⟩
      case h_2 claims input hminted =>
        cases hplan
        obtain ⟨-, hinput, hnonce, hbinds⟩ := mintBound_eq_ok hminted
        exact ⟨⟨fun other hother => hnonce ▸ hfresh.2 other hother, hinput, hbinds, rfl⟩, trivial⟩
    case isFalse => cases hplan
  case h_3 clientOrigin claims binding now =>
    split at hplan
    case isTrue =>
      split at hplan
      case h_1 =>
        cases hplan
        exact ⟨.inr rfl, trivial⟩
      case h_2 input hverify =>
        cases hplan
        exact ⟨.inr rfl, (verifyBound_eq_ok hverify).2⟩
    case isFalse => cases hplan
  case h_4 valid claims input =>
    split at hplan
    case isTrue =>
      split at hplan
      case isTrue hauthenticated =>
        cases hplan
        obtain ⟨grant, hgrant, -, hinput⟩ := World.authenticated_iff.mp hauthenticated
        have hsame : grant.claims.input = claims.input :=
          ((h.minted grant hgrant).1.symm.trans hinput).trans hknows
        exact ⟨⟨⟨grant, hgrant, GrantClaims.input_injective hsame⟩, rfl⟩, trivial⟩
      case isFalse => cases hplan
    case isFalse =>
      cases hplan
      exact ⟨.inr rfl, trivial⟩
  case h_5 claims now =>
    split at hplan
    case isTrue hverified =>
      split at hplan
      case isTrue httl =>
        cases hplan
        have hclock := hverified.1
        refine ⟨.inr rfl, h.verified claims hverified.2, ?_, by omega⟩
        show claims.expiresAt < c.store.clock + (claims.expiresAt - now + 1)
        omega
      case isFalse =>
        cases hplan
        exact ⟨.inr rfl, trivial⟩
    case isFalse => cases hplan
  case h_6 lost claims ttl =>
    obtain ⟨hminted, hlasts, -⟩ := hknows
    split at hplan
    case isTrue =>
      cases hplan
      exact ⟨.inr rfl, trivial⟩
    case isFalse hfree =>
      cases hplan
      refine ⟨⟨hminted, by simpa using hfree, hlasts, fun used hused => ?_⟩, ?_⟩
      · cases lost with
        | true => cases hused
        | false => exact (Option.some.inj hused).symm
      · cases lost <;> exact trivial
  case h_7 binding used =>
    cases hplan
    exact begin_acts hlog rfl (hheld used rfl).time trivial
  case h_8 actual used =>
    cases hplan
    exact begin_acts hlog rfl (hheld used rfl).time trivial
  case h_9 intent actual used =>
    cases hplan
    exact begin_acts hlog rfl (hheld used rfl).time trivial
  case h_10 intent actual used =>
    cases hplan
    exact begin_acts hlog rfl (hheld used rfl).time trivial
  case h_11 final used intent actual approved =>
    cases hplan
    exact begin_acts hlog rfl (hheld used rfl).time hknows
  case h_12 final used intent actual approved =>
    cases hplan
    exact begin_acts hlog rfl (hheld used rfl).time hknows
  case h_13 used check now earlier => exact finish_acts (Option.some.inj hplan) hknows
  case h_14 =>
    cases hplan
    exact ⟨.inr rfl, trivial⟩
  case h_15 => cases hplan

/-- **Step lemma.** -/
theorem Sound.step [DecidableEq ι] (c : Config World ι Call) (i : ι) (event : Event)
    (c' : Config World ι Call) (h : Sound sha256 c)
    (hnext : (grantMachine sha256).next c i event = some c') : Sound sha256 c' := by
  obtain ⟨world, call, hstep, rfl⟩ := Machine.next_eq_some.mp hnext
  obtain ⟨⟨action, call'⟩, hplan, heq⟩ := Option.map_eq_some_iff.mp hstep
  cases heq
  have hacts := h.acts hplan
  exact h.act hacts.permitted hacts.knows

theorem Initial.sound {c : Config World ι Call} (h : Initial c) : Sound sha256 c := by
  constructor
  case knows =>
    intro i
    rw [h.calls]
    trivial
  case ordered =>
    rw [h.log]
    exact Justified.nil
  all_goals simp [h.minted, h.verified, h.log, h.calls, Call.holds]

/-! ## One signature, as granted -/

/-- The operation is the one that was granted; a certificate request is signed as it was
approved. -/
def Check.AsGranted (grant : ConsumedGrant) (binding : GrantBinding) : Check → Prop
  | .authorizes asked => asked = binding
  | .authorizesFinal actual => grant.finalBinding actual = binding
  | .serviceCsr intent actual _ final => binding.origin = .gatewayService ∧ intent = binding ∧
      final = actual ∧ grant.Approves final ∧ final.serviceId = binding.serviceId ∧
      final.keyReference = binding.keyReference
  | .issuerCsr intent actual _ final => binding.origin = .gatewayIssuerDid ∧ intent = binding ∧
      final = actual ∧ grant.Approves final
  | .approveServiceCsr _ _ | .approveIssuerCsr _ _ => False

/-- What is promised of every state. -/
structure GrantAccount (world : World) : Prop where
  once : ∀ grant ∈ world.minted,
    (world.log.filter fun a => a.granted && a.claims == grant.claims).length ≤ 1
  /-- No authorization of the grant had returned when the granted one read the clock. -/
  spent : ∀ a ∈ world.log, a.granted = true →
    ∀ f ∈ world.log.take a.earlier, f.claims.nonce ≠ a.claims.nonce
  asGranted : ∀ a ∈ world.log, a.granted = true → a.now ≤ a.claims.expiresAt ∧
    ∃ grant ∈ world.minted, grant.claims = a.claims ∧
      a.check.AsGranted a.used.grant grant.binding

theorem Check.asGranted (hsha : Function.Injective sha256) {check : Check}
    {grant : ConsumedGrant} {binding : GrantBinding} {now : Int}
    (hjustified : check.Justified sha256 grant) (hpasses : check.passes sha256 grant now = true)
    (hbinds : grant.claims.Binds sha256 binding) :
    now ≤ grant.claims.expiresAt ∧ check.AsGranted grant binding := by
  cases check with
  | authorizes asked =>
      obtain ⟨-, hnow, hasked⟩ := toBool_boundInput hpasses
      exact ⟨hnow, hasked.unique hsha hbinds⟩
  | authorizesFinal actual =>
      obtain ⟨-, hnow, hasked⟩ := toBool_boundInput hpasses
      exact ⟨hnow, hasked.unique hsha hbinds⟩
  | approveServiceCsr intent actual => cases hpasses
  | approveIssuerCsr intent actual => cases hpasses
  | serviceCsr intent actual approved final =>
      obtain ⟨earlier, happroved⟩ := hjustified
      obtain ⟨horigin, hintent, hfinal, happroves, hservice, hkey, hnow⟩ :=
        approveServiceCsr_authorizes hsha happroved hpasses
      exact ⟨hnow, hbinds.origin ▸ horigin, hintent.unique hsha hbinds, hfinal, happroves,
        hservice.trans hbinds.serviceId, hkey.trans hbinds.keyReference⟩
  | issuerCsr intent actual approved final =>
      obtain ⟨earlier, happroved⟩ := hjustified
      obtain ⟨horigin, hintent, hfinal, happroves, hnow⟩ :=
        approveIssuerCsr_authorizes hsha happroved hpasses
      exact ⟨hnow, hbinds.origin ▸ horigin, hintent.unique hsha hbinds, hfinal, happroves⟩

/-- **A granted authorization** is in time, and for what the grant was minted for. -/
theorem Sound.asGranted {c : Config World ι Call} (h : Sound sha256 c)
    (hsha : Function.Injective sha256) {a : Authorization} (ha : a ∈ c.store.log)
    (hgranted : a.granted = true) : a.used.InTime ∧ a.now ≤ a.claims.expiresAt ∧
      ∃ grant ∈ c.store.minted, grant.claims = a.claims ∧
        a.check.AsGranted a.used.grant grant.binding := by
  obtain ⟨⟨⟨grant, hgrant, hclaims⟩, -, -⟩, hrecorded⟩ := h.logged a ha
  have hbinds := (h.minted grant hgrant).2
  rw [hclaims] at hbinds
  obtain ⟨hnow, hasGranted⟩ :=
    Check.asGranted hsha hrecorded.justified (hrecorded.granted hgranted) hbinds
  exact ⟨Int.le_trans hrecorded.reads.used hnow, hnow, grant, hgrant, hclaims, hasGranted⟩

theorem Sound.account {c : Config World ι Call} (h : Sound sha256 c)
    (hsha : Function.Injective sha256) : GrantAccount c.store where
  once grant _ := by
    have hmem : ∀ a ∈ c.store.log.filter fun a => a.granted && a.claims == grant.claims,
        a ∈ c.store.log ∧ a.granted = true ∧ a.claims = grant.claims := by
      intro a ha
      simpa using ha
    have hapart := h.apart.filter (fun a => a.granted && a.claims == grant.claims)
    generalize c.store.log.filter (fun a => a.granted && a.claims == grant.claims) = rows
      at hmem hapart
    match rows with
    | [] => exact Nat.zero_le _
    | [_] => exact Nat.le_refl _
    | a :: b :: _ =>
        obtain ⟨ha, hgranted, hclaims⟩ := hmem a List.mem_cons_self
        obtain ⟨hb, hgranted', hclaims'⟩ := hmem b (by simp)
        have hnot := (List.pairwise_cons.mp hapart).1 b List.mem_cons_self
        exact absurd (h.asGranted hsha hb hgranted').1 (hnot
          (congrArg GrantClaims.nonce (hclaims.trans hclaims'.symm))
          (h.asGranted hsha ha hgranted).1)
  spent a ha hgranted f hf hnonce := by
    obtain ⟨hintime, hnow, -⟩ := h.asGranted hsha ha hgranted
    obtain ⟨hholds, hrecorded⟩ := h.logged a ha
    have hbefore := hrecorded.reads.log f hf
    have hclaims : f.claims = a.claims :=
      h.claims_eq (h.logged f (List.mem_of_mem_take hf)).1.minted hholds.minted hnonce
    -- the clock was read when the other use had been recorded, so that was in time as well
    have hfintime : f.used.InTime := by
      show f.used.time ≤ f.claims.expiresAt
      rw [hclaims]
      exact Int.le_trans hbefore hnow
    obtain ⟨l₁, l₂, hlog⟩ := List.append_of_mem ha
    have hearlier : a.earlier ≤ l₁.length := h.ordered l₁ a l₂ hlog
    have hf₁ : f ∈ l₁ := by
      rw [hlog, List.take_append_of_le_length hearlier] at hf
      exact List.mem_of_mem_take hf
    have hapart := h.apart
    rw [hlog, List.pairwise_append] at hapart
    exact hapart.2.2 f hf₁ a List.mem_cons_self hnonce hfintime hintime
  asGranted a ha hgranted := (h.asGranted hsha ha hgranted).2

/-- **Run theorem.** In every run, a grant leads to one signature at most, and to none that it
was not minted for. -/
theorem grant_authorizes_once [DecidableEq ι] {c c' : Config World ι Call}
    {schedule : List (ι × Event)} (hsha : Function.Injective sha256) (h : Initial c)
    (hrun : (grantMachine sha256).run c schedule = some c') : GrantAccount c'.store :=
  (Machine.run_induct Sound.step h.sound hrun).account hsha

namespace Example

def payload : List UInt8 := [101, 120, 97, 99, 116, 32, 112, 97, 121, 108, 111, 97, 100]

/-- The digest of the payload; every other list is kept apart by a byte in front. -/
def digest (bytes : List UInt8) : List UInt8 :=
  if bytes = payload then
    [12, 254, 252, 172, 254, 3, 83, 77, 217, 8, 68, 78, 253, 110, 77, 13, 16, 117, 253, 140,
     245, 154, 199, 155, 249, 86, 49, 35, 133, 103, 156, 254]
  else 0 :: bytes

theorem digest_injective : Function.Injective digest := by
  intro a b h
  unfold digest at h
  split at h
  case isTrue ha =>
    split at h
    case isTrue hb => rw [ha, hb]
    case isFalse => cases h
  case isFalse =>
    split at h
    case isTrue => cases h
    case isFalse => exact (List.cons.inj h).2

def binding : GrantBinding where
  origin := .gatewayService
  operationId := "operation-1"
  organizationId := "tenant-1"
  route := "/v1/signing-keys/services/s/sign"
  serviceId := some "s"
  issuerDid := none
  keyReference := some "key-1"
  keyPurpose := "vc_jwt_issuer"
  algorithm := "ES256"
  payload

def actual : FinalSignBinding where
  organizationId := "tenant-1"
  route := "/v1/signing-keys/services/s/sign"
  serviceId := some "s"
  issuerDid := none
  keyReference := some "key-1"
  keyPurpose := "vc_jwt_issuer"
  algorithm := "ES256"
  payload

def nonce : String := "0123456789abcdef0123456789abcdef"

abbrev minted : GrantClaims := mintClaims digest binding 100 nonce

def start : Config World Nat Call where
  store := ⟨100, [], [], fun _ => none, []⟩
  calls := fun _ => .idle

/-- Two consumers of one grant; the record of the first has run out when the second makes its
own. -/
def twoConsumers : List (Nat × Event) :=
  [(0, .mint .gatewayService binding 100 nonce), (1, .verify .gatewayService minted binding 100),
    (1, .answer true), (2, .consume minted 100), (3, .consume minted 100), (2, .set false),
    (2, .authorizesFinal actual), (2, .finish), (4, .tick 131), (3, .set false),
    (3, .authorizes binding), (3, .finish)]

theorem start_initial : Initial start := ⟨rfl, rfl, rfl, fun _ => rfl⟩

def twoConsumersRun : {c' // (grantMachine digest).run start twoConsumers = some c' ∧
    c'.store.log.map (fun a => (a.claims, a.granted)) = [(minted, true), (minted, false)]} :=
  (grantMachine digest).observed (by decide +kernel)

theorem grant_authorizes_once_twoConsumers :
    ∃ c', (grantMachine digest).run start twoConsumers = some c' ∧
      c'.store.log.map (fun a => (a.claims, a.granted)) = [(minted, true), (minted, false)] ∧
      GrantAccount c'.store := by
  obtain ⟨hrun, hlog⟩ := twoConsumersRun.2
  exact ⟨twoConsumersRun, hrun, hlog, grant_authorizes_once digest_injective start_initial hrun⟩

end Example

end Marty.SigningGrant
