import Marty.Verification.Submissions

/-!
# The lifetimes of sessions

A record lives for an hour from its save, and for another hour from its decision, whatever end
the session advertises; the index of an organization lives for an hour from the last save in
it, and a decision does not renew it.  Sessions whose end lies within the first hour are found
up to it, and decided sessions are listed while the organization keeps on saving.

## Main definitions

* `Advertised` — what is found, read and listed at a moment.
* `Permitted` — the saves and the passing of time for which the keys live long enough.

## Main results

* `sessions_advertised` — along the runs of permitted steps, in every state.
-/

namespace Marty.Verification

open Lib VerificationSession

variable {P : Platform} {managementAuthorization : Bool} {ι : Type*}

/-! ## What is advertised -/

/-- No more than the time to live has passed, by the clock of the keys. -/
def withinTtl (start now : Utc) : Prop :=
  Utc.timestampMillis now ≤ Utc.timestampMillis start + 1000 * sessionTtlSeconds

instance (start now : Utc) : Decidable (withinTtl start now) :=
  inferInstanceAs (Decidable (_ ≤ _))

/-- **What is found, read and listed**: a session that is not decided is found up to its end, a
decided one is read for the time to live, and what can be read is listed. -/
structure Advertised (P : Platform) (s : Store ι) : Prop where
  found : ∀ session start, .saved session start ∈ s.acts →
    decisionsOf s.acts session.sessionId = [] → s.redis.clock ≤ session.expiresAt →
    (s.redis.raw session.sessionId).isSome
  readable : ∀ id decision start, .decided id decision start ∈ s.acts →
    s.redis.clock ≤ start + utcSeconds sessionTtlSeconds → (s.redis.get P id).isSome
  listed : ∀ id session, s.redis.get P id = some session →
    session ∈ s.redis.listByOrg P session.organizationId

/-- A session of the organization has been saved within the time to live. -/
def savedLately (acts : List (Act ι)) (organizationId : String) (now : Utc) : Prop :=
  ∃ act ∈ acts, match act with
    | .saved session start => session.organizationId = organizationId ∧ withinTtl start now
    | _ => False

/-- While a decision is not older than the time to live, its organization has saved a session as
lately. -/
def renewedUntil (acts : List (Act ι)) (now : Utc) : Prop :=
  ∀ act ∈ acts, match act with
    | .decided _ decision start =>
        withinTtl start now → savedLately acts decision.terminal.organizationId now
    | _ => True

/-- **The steps for which the keys live long enough**: a session is saved that ends within the
time to live, and time passes while the index of every organization is renewed. -/
def Permitted (c : Config (Store ι) ι Call) (i : ι) (e : Event) : Prop :=
  match e, c.calls i with
  | .tick clock, _ => renewedUntil c.store.acts clock
  | .command, .saving session => withinTtl c.store.redis.clock session.expiresAt
  | _, _ => True

instance (acts : List (Act ι)) (organizationId : String) (now : Utc) :
    Decidable (savedLately acts organizationId now) := by
  have (act : Act ι) : Decidable (match act with
      | .saved session start => session.organizationId = organizationId ∧ withinTtl start now
      | _ => False) := by
    cases act <;> infer_instance
  unfold savedLately
  infer_instance

instance (acts : List (Act ι)) (now : Utc) : Decidable (renewedUntil acts now) := by
  have (act : Act ι) : Decidable (match act with
      | .decided _ decision start =>
          withinTtl start now → savedLately acts decision.terminal.organizationId now
      | _ => True) := by
    cases act <;> infer_instance
  unfold renewedUntil
  infer_instance

instance (c : Config (Store ι) ι Call) (i : ι) (e : Event) : Decidable (Permitted c i e) := by
  unfold Permitted
  split <;> infer_instance

/-! ## The deadlines -/

theorem timestampMillis_mono {a b : Utc} (h : a ≤ b) :
    Utc.timestampMillis a ≤ Utc.timestampMillis b :=
  Int.ediv_le_ediv (by decide) h

theorem withinTtl_of_le {start now : Utc} (h : now ≤ start + utcSeconds sessionTtlSeconds) :
    withinTtl start now := by
  have hle := timestampMillis_mono h
  simp only [withinTtl, Utc.timestampMillis, utcSeconds, sessionTtlSeconds] at hle ⊢
  omega

/-- The deadline of a key that was written at this moment. -/
def deadlineOf (start : Utc) : Int := Utc.timestampMillis start + 1000 * sessionTtlSeconds

/-- **The deadlines of the keys**: of a record by its save or its decision, and of an index by the
saves in its organization. -/
structure Timely (s : Store ι) : Prop where
  saved : ∀ session start, .saved session start ∈ s.acts →
    start ≤ s.redis.clock ∧ withinTtl start session.expiresAt ∧
      ∃ e, s.redis.sessions session.sessionId = some e ∧
        e.value.organizationId = session.organizationId ∧
        (decisionsOf s.acts session.sessionId = [] → e.deadline = some (deadlineOf start))
  decided : ∀ id decision start, .decided id decision start ∈ s.acts →
    ∃ e, s.redis.sessions id = some e ∧ e.deadline = some (deadlineOf start) ∧
      e.value.organizationId = decision.terminal.organizationId
  origin : ∀ id e, s.redis.sessions id = some e →
    ∃ session start, .saved session start ∈ s.acts ∧ session.sessionId = id
  index : ∀ organizationId ie, s.redis.organizations organizationId = some ie →
    ∃ d, ie.deadline = some d ∧ ∀ session start, .saved session start ∈ s.acts →
      session.organizationId = organizationId → deadlineOf start ≤ d
  indexed : ∀ id e, s.redis.sessions id = some e → e.isAlive s.redis.millis = true →
    ∃ ie, s.redis.organizations e.value.organizationId = some ie ∧
      ie.isAlive s.redis.millis = true ∧ id ∈ ie.value

/-- What is alive by its deadline. -/
theorem isAlive_of_deadline {α : Type*} {e : Entry α} {d now : Int} (h : e.deadline = some d) :
    e.isAlive now = true ↔ now ≤ d := by
  simp [Entry.isAlive, h]

variable {s s' : Store ι} {c c' : Config (Store ι) ι Call} {i : ι} {e : Event} {l : Call}
variable {acts new : List (Act ι)}

theorem Timely.advertised (h : Timely s) : Advertised P s := by
  refine ⟨fun session start hsaved hundecided hle => ?_, fun id decision start hdecided hle => ?_,
    fun id session hget => ?_⟩
  · obtain ⟨-, hwithin, e, he, -, hdeadline⟩ := h.saved session start hsaved
    have halive : e.isAlive s.redis.millis = true :=
      (isAlive_of_deadline (hdeadline hundecided)).mpr (le_trans (timestampMillis_mono hle) hwithin)
    exact Option.isSome_iff_exists.mpr ⟨e.value, Keyspace.get_eq_some.mpr ⟨e, he, halive, rfl⟩⟩
  · obtain ⟨e, he, hdeadline, -⟩ := h.decided id decision start hdecided
    have halive : e.isAlive s.redis.millis = true :=
      (isAlive_of_deadline hdeadline).mpr (withinTtl_of_le hle)
    have hraw : s.redis.raw id = some e.value := Keyspace.get_eq_some.mpr ⟨e, he, halive, rfl⟩
    simp [Redis.get, hraw]
  · obtain ⟨raw, hraw, rfl⟩ := Option.map_eq_some_iff.mp hget
    obtain ⟨e, he, halive, rfl⟩ := Keyspace.get_eq_some.mp hraw
    obtain ⟨ie, hie, hindex, hmem⟩ := h.indexed id e he halive
    have horg : (projectExpiry P (decode P e.value) s.redis.serverTime).organizationId =
        e.value.organizationId := by
      unfold projectExpiry
      split
      · rw [organizationId_expireSession, decode, organizationId_minimizeTerminal]
      · rw [decode, organizationId_minimizeTerminal]
    have hmembers : s.redis.members e.value.organizationId = ie.value := by
      rw [Redis.members, Keyspace.get_eq_some.mpr ⟨ie, hie, hindex, rfl⟩, Option.getD_some]
    rw [horg, Redis.listByOrg, hmembers, List.mem_filterMap]
    exact ⟨id, hmem, hget⟩

/-! ## The steps -/

/-- Acts that save nothing and decide nothing. -/
def Silent (new : List (Act ι)) : Prop :=
  ∀ act ∈ new, act.subject = none ∨ ∃ id claim, act = .claimed id claim

theorem Silent.saved (h : Silent new) {session : VerificationSession} {start : Utc}
    (hmem : .saved session start ∈ acts ++ new) : .saved session start ∈ acts := by
  rcases List.mem_append.mp hmem with hmem | hmem
  · exact hmem
  · rcases h _ hmem with hnone | ⟨id, claim, heq⟩
    · cases hnone
    · cases heq

theorem Silent.decided (h : Silent new) {id : String} {decision : Decision ι} {start : Utc}
    (hmem : .decided id decision start ∈ acts ++ new) : .decided id decision start ∈ acts := by
  rcases List.mem_append.mp hmem with hmem | hmem
  · exact hmem
  · rcases h _ hmem with hnone | ⟨id, claim, heq⟩
    · cases hnone
    · cases heq

theorem Silent.decisionsOf (h : Silent new) (id : String) :
    decisionsOf (acts ++ new) id = decisionsOf acts id := by
  have hnil : Verification.decisionsOf new id = [] := by
    rw [List.eq_nil_iff_forall_not_mem]
    intro decision hdecision
    obtain ⟨clock, hmem⟩ := mem_decisionsOf.mp hdecision
    have hnone : Act.decided id decision clock ∈ [] := h.decided hmem
    cases hnone
  rw [decisionsOf_append, hnil, List.append_nil]

/-- **Time passes** while the indexes are renewed. -/
theorem Timely.tick (h : Timely s) {clock : Utc} (hclock : s.redis.clock ≤ clock)
    (hrenewed : renewedUntil s.acts clock) :
    Timely ⟨{ s.redis with clock := clock }, s.acts⟩ := by
  refine ⟨fun session start hsaved => ?_, h.decided, h.origin, h.index, fun id e he halive => ?_⟩
  · obtain ⟨hstart, hrest⟩ := h.saved session start hsaved
    exact ⟨le_trans hstart hclock, hrest⟩
  · change e.isAlive (Utc.timestampMillis clock) = true at halive
    have hbefore : e.isAlive s.redis.millis = true :=
      Keyspace.Entry.isAlive_mono halive (timestampMillis_mono hclock)
    obtain ⟨ie, hie, -, hmem⟩ := h.indexed id e he hbefore
    obtain ⟨d, hd, hsaves⟩ := h.index _ ie hie
    refine ⟨ie, hie, (isAlive_of_deadline hd).mpr ?_, hmem⟩
    change Utc.timestampMillis clock ≤ d
    obtain ⟨session, start, hsaved, rfl⟩ := h.origin id e he
    obtain ⟨-, -, own, hown, horg, hdeadline⟩ := h.saved session start hsaved
    obtain rfl : own = e := Option.some.inj (hown.symm.trans he)
    cases hdecisions : decisionsOf s.acts session.sessionId with
    | nil =>
        have hle := (isAlive_of_deadline (hdeadline hdecisions)).mp halive
        exact le_trans hle (hsaves session start hsaved horg.symm)
    | cons decision rest =>
        obtain ⟨at', hact⟩ := mem_decisionsOf.mp (hdecisions ▸ List.mem_cons_self)
        obtain ⟨stored, hstored, hdecided, hterminal⟩ := h.decided _ decision at' hact
        obtain rfl : stored = own := Option.some.inj (hstored.symm.trans he)
        have hle := (isAlive_of_deadline hdecided).mp halive
        -- the organization has saved a session since
        obtain ⟨act, hrenewal, hlately⟩ := hrenewed _ hact hle
        cases act with
        | saved other lately =>
            have horg' := hlately.1.trans hterminal.symm
            exact le_trans hlately.2 (hsaves other lately hrenewal horg')
        | opened | claimed | evaluated | decided | answered => exact hlately.elim

/-- A step that writes no record. -/
theorem Timely.quiet (h : Timely s) (hnew : Silent new) : Timely (s.record s.redis new) := by
  constructor
  · intro session start hsaved
    obtain ⟨hstart, hwithin, e, he, horg, hdeadline⟩ := h.saved session start (hnew.saved hsaved)
    refine ⟨hstart, hwithin, e, he, horg, fun hnil => hdeadline ?_⟩
    rwa [Store.record, hnew.decisionsOf] at hnil
  · exact fun id decision start hdecided => h.decided id decision start (hnew.decided hdecided)
  · intro id e he
    obtain ⟨session, start, hsaved, hid⟩ := h.origin id e he
    exact ⟨session, start, List.mem_append_left _ hsaved, hid⟩
  · intro organizationId ie hie
    obtain ⟨d, hd, hsaves⟩ := h.index organizationId ie hie
    exact ⟨d, hd, fun session start hsaved => hsaves session start (hnew.saved hsaved)⟩
  · exact h.indexed

/-- **A step that writes a record without renewing it.** -/
theorem Timely.kept (h : Timely s) {id : String} {old replacement : VerificationSession} {d : Int}
    (hnew : Silent new) (hold : s.redis.sessions id = some ⟨old, some d⟩)
    (horg : replacement.organizationId = old.organizationId) :
    Timely (s.record
      { s.redis with sessions := s.redis.sessions.set id replacement (some d) } new) := by
  have hwritten (id' : String) (e : Entry VerificationSession) (he : s.redis.sessions id' = some e) :
      ∃ e', s.redis.sessions.set id replacement (some d) id' = some e' ∧
        e'.value.organizationId = e.value.organizationId ∧ e'.deadline = e.deadline := by
    by_cases hid : id' = id
    · subst hid
      rw [hold] at he
      cases he
      exact ⟨_, Keyspace.set_self _ _, horg, rfl⟩
    · exact ⟨e, (Keyspace.set_of_ne hid _ _).trans he, rfl, rfl⟩
  have hbefore (id' : String) (e' : Entry VerificationSession)
      (he' : s.redis.sessions.set id replacement (some d) id' = some e') :
      ∃ e, s.redis.sessions id' = some e ∧
        e'.value.organizationId = e.value.organizationId ∧ e'.deadline = e.deadline := by
    by_cases hid : id' = id
    · subst hid
      rw [Keyspace.set_self] at he'
      cases he'
      exact ⟨_, hold, horg, rfl⟩
    · rw [Keyspace.set_of_ne hid] at he'
      exact ⟨e', he', rfl, rfl⟩
  constructor
  · intro session start hsaved
    obtain ⟨hstart, hwithin, e, he, hown, hdeadline⟩ := h.saved session start (hnew.saved hsaved)
    obtain ⟨e', he', horg', hdeadline'⟩ := hwritten _ e he
    refine ⟨hstart, hwithin, e', he', horg'.trans hown, fun hnil => hdeadline'.trans (hdeadline ?_)⟩
    rwa [Store.record, hnew.decisionsOf] at hnil
  · intro id' decision start hdecided
    obtain ⟨e, he, hdeadline, hterminal⟩ := h.decided id' decision start (hnew.decided hdecided)
    obtain ⟨e', he', horg', hdeadline'⟩ := hwritten _ e he
    exact ⟨e', he', hdeadline'.trans hdeadline, horg'.trans hterminal⟩
  · intro id' e' he'
    obtain ⟨e, he, -⟩ := hbefore id' e' he'
    obtain ⟨session, start, hsaved, hid⟩ := h.origin id' e he
    exact ⟨session, start, List.mem_append_left _ hsaved, hid⟩
  · intro organizationId ie hie
    obtain ⟨d', hd', hsaves⟩ := h.index organizationId ie hie
    exact ⟨d', hd', fun session start hsaved => hsaves session start (hnew.saved hsaved)⟩
  · intro id' e' he' halive
    obtain ⟨e, he, horg', hdeadline'⟩ := hbefore id' e' he'
    have hbefore : e.isAlive s.redis.millis = true := by
      rw [Entry.isAlive, ← hdeadline']
      exact halive
    rw [horg']
    exact h.indexed id' e he hbefore

/-- **A step that decides a session** renews its record. -/
theorem Timely.decide (h : Timely s) {id : String} {old : VerificationSession} {d : Option Int}
    {decision : Decision ι} (hold : s.redis.sessions id = some ⟨old, d⟩)
    (halive : (Entry.mk old d).isAlive s.redis.millis = true)
    (hundecided : decisionsOf s.acts id = [])
    (horg : decision.terminal.organizationId = old.organizationId) :
    Timely (s.record
      { s.redis with sessions := s.redis.sessions.set id decision.terminal s.redis.fullTtl }
      [.decided id decision s.redis.clock]) := by
  have hdecisions : decisionsOf (s.acts ++ [.decided id decision s.redis.clock]) id = [decision] := by
    rw [decisionsOf_append, hundecided]
    simp [decisionsOf]
  have hsame (session : VerificationSession) (start : Utc)
      (hmem : .saved session start ∈ s.acts ++ [.decided id decision s.redis.clock]) :
      .saved session start ∈ s.acts := by
    simpa using hmem
  constructor
  · intro session start hsaved
    obtain ⟨hstart, hwithin, e, he, hown, hdeadline⟩ := h.saved session start (hsame _ _ hsaved)
    refine ⟨hstart, hwithin, ?_⟩
    by_cases hid : session.sessionId = id
    · subst hid
      obtain rfl : e = ⟨old, d⟩ := Option.some.inj (he.symm.trans hold)
      refine ⟨_, Keyspace.set_self _ _, horg.trans hown, fun hnil => ?_⟩
      rw [Store.record, hdecisions] at hnil
      cases hnil
    · refine ⟨e, (Keyspace.set_of_ne hid _ _).trans he, hown, fun hnil => hdeadline ?_⟩
      rw [Store.record, decisionsOf_append] at hnil
      exact (List.append_eq_nil_iff.mp hnil).1
  · intro id' decision' start hdecided
    rcases List.mem_append.mp hdecided with hprior | hdecided
    · obtain ⟨e, he, hrest⟩ := h.decided id' decision' start hprior
      have hid : id' ≠ id := by
        rintro rfl
        have hmem : decision' ∈ decisionsOf s.acts id' := mem_decisionsOf.mpr ⟨start, hprior⟩
        rw [hundecided] at hmem
        cases hmem
      exact ⟨e, (Keyspace.set_of_ne hid _ _).trans he, hrest⟩
    · cases List.mem_singleton.mp hdecided
      exact ⟨_, Keyspace.set_self _ _, rfl, rfl⟩
  · intro id' e' he'
    have hbefore : ∃ e, s.redis.sessions id' = some e := by
      by_cases hid : id' = id
      · exact ⟨_, hid ▸ hold⟩
      · exact ⟨e', (Keyspace.set_of_ne hid _ _).symm.trans he'⟩
    obtain ⟨e, he⟩ := hbefore
    obtain ⟨session, start, hsaved, hid⟩ := h.origin id' e he
    exact ⟨session, start, List.mem_append_left _ hsaved, hid⟩
  · intro organizationId ie hie
    obtain ⟨d', hd', hsaves⟩ := h.index organizationId ie hie
    exact ⟨d', hd', fun session start hsaved => hsaves session start (hsame _ _ hsaved)⟩
  · intro id' e' he' halive'
    by_cases hid : id' = id
    · subst hid
      obtain rfl := Option.some.inj ((Keyspace.set_self _ _).symm.trans he')
      rw [horg]
      exact h.indexed id' _ hold halive
    · exact h.indexed id' e' ((Keyspace.set_of_ne hid _ _).symm.trans he') halive'

/-- **A session is saved**, and renews the index of its organization. -/
theorem Timely.save (h : Timely s) {session : VerificationSession}
    (hfresh : s.redis.sessions session.sessionId = none)
    (hwithin : withinTtl s.redis.clock session.expiresAt) :
    Timely (s.record (s.redis.save session) [.saved session s.redis.clock]) := by
  have hstored {id : String} {e : Entry VerificationSession} (he : s.redis.sessions id = some e) :
      id ≠ session.sessionId := by
    rintro rfl
    rw [hfresh] at he
    cases he
  have hdecisions (id : String) :
      decisionsOf (s.acts ++ [.saved session s.redis.clock]) id = decisionsOf s.acts id := by
    rw [decisionsOf_append]
    exact List.append_nil _
  have hself : (s.redis.save session).sessions session.sessionId = some ⟨session, s.redis.fullTtl⟩ :=
    Keyspace.set_self _ _
  have hother {id : String} (hid : id ≠ session.sessionId) :
      (s.redis.save session).sessions id = s.redis.sessions id := Keyspace.set_of_ne hid _ _
  constructor
  · intro session' start hsaved
    rcases List.mem_append.mp hsaved with hsaved | hsaved
    · obtain ⟨hstart, hwithin', e, he, horg, hdeadline⟩ := h.saved session' start hsaved
      refine ⟨hstart, hwithin', e, (hother (hstored he)).trans he, horg, fun hnil => hdeadline ?_⟩
      rwa [Store.record, hdecisions] at hnil
    · cases List.mem_singleton.mp hsaved
      exact ⟨le_refl _, hwithin, _, hself, rfl, fun _ => rfl⟩
  · intro id decision start hdecided
    have hbefore : .decided id decision start ∈ s.acts := by
      simpa [Store.record] using hdecided
    obtain ⟨e, he, hrest⟩ := h.decided id decision start hbefore
    exact ⟨e, (hother (hstored he)).trans he, hrest⟩
  · intro id e he
    by_cases hid : id = session.sessionId
    · exact ⟨session, s.redis.clock, by simp [Store.record], hid.symm⟩
    · obtain ⟨session', start, hsaved, hid'⟩ := h.origin id e ((hother hid).symm.trans he)
      exact ⟨session', start, List.mem_append_left _ hsaved, hid'⟩
  · intro organizationId ie hie
    by_cases horg : organizationId = session.organizationId
    · subst horg
      obtain rfl := Option.some.inj ((Keyspace.set_self _ _).symm.trans hie)
      refine ⟨deadlineOf s.redis.clock, rfl, fun session' start hsaved _ => ?_⟩
      rcases List.mem_append.mp hsaved with hsaved | hsaved
      · exact Int.add_le_add_right (timestampMillis_mono (h.saved session' start hsaved).1) _
      · cases List.mem_singleton.mp hsaved
        exact le_refl _
    · obtain ⟨d, hd, hsaves⟩ := h.index organizationId ie
        ((Keyspace.set_of_ne horg _ _).symm.trans hie)
      refine ⟨d, hd, fun session' start hsaved hown => ?_⟩
      rcases List.mem_append.mp hsaved with hsaved | hsaved
      · exact hsaves session' start hsaved hown
      · cases List.mem_singleton.mp hsaved
        exact absurd hown.symm horg
  · intro id e he halive
    have hrenewed : (Entry.mk (if session.sessionId ∈ s.redis.members session.organizationId then
          s.redis.members session.organizationId
        else session.sessionId :: s.redis.members session.organizationId)
          s.redis.fullTtl).isAlive s.redis.millis = true := by
      simp only [Entry.isAlive, Redis.fullTtl, sessionTtlSeconds, Option.all_some, decide_eq_true_eq]
      exact Int.le_add_of_nonneg_right (by decide)
    by_cases hid : id = session.sessionId
    · subst hid
      obtain rfl := Option.some.inj (hself.symm.trans he)
      refine ⟨_, Keyspace.set_self _ _, hrenewed, ?_⟩
      by_cases hmem : session.sessionId ∈ s.redis.members session.organizationId <;> simp [hmem]
    · have hbefore := (hother hid).symm.trans he
      obtain ⟨ie, hie, hindex, hmem⟩ := h.indexed id e hbefore halive
      by_cases horg : e.value.organizationId = session.organizationId
      · have hmembers : id ∈ s.redis.members session.organizationId := by
          rw [← horg, Redis.members, Keyspace.get_eq_some.mpr ⟨ie, hie, hindex, rfl⟩]
          exact hmem
        rw [horg]
        refine ⟨_, Keyspace.set_self _ _, hrenewed, ?_⟩
        split
        · exact hmembers
        · exact List.mem_cons_of_mem _ hmembers
      · exact ⟨ie, (Keyspace.set_of_ne horg _ _).trans hie, hindex, hmem⟩

/-! ## Runs -/

/-- **Every permitted step** keeps the deadlines. -/
theorem timely_step (hc : Sound P c) (h : Timely c.store) (hpermitted : Permitted c i e)
    (hchange : Change e (c.calls i) c.store s') : Timely s' := by
  cases hchange with
  | tick clock hevent hclock =>
      subst hevent
      exact h.tick hclock hpermitted
  | quiet new hnew => exact h.quiet fun act hact => .inl (hnew act hact)
  | saved session hevent hcall hfresh hpending =>
      subst hevent
      simp only [Permitted, hcall] at hpermitted
      exact h.save hfresh hpermitted
  | kept id old replacement d new hold hkeeps hnew =>
      refine h.kept (fun act hact => ?_) hold hkeeps.organizationId
      rcases hnew act hact with hnone | ⟨claim, heq⟩
      · exact .inl hnone
      · exact .inr ⟨id, claim, heq⟩
  | decided id old d decision hold halive hpending hkeeps hdecided =>
      exact h.decide hold halive ((hc.records id _ hold).pending hpending).1 hkeeps.organizationId

theorem timely_noSessions (ι : Type*) (clock : Utc) : Timely (noSessions ι clock).store := by
  constructor
  · intro session start h
    cases h
  · intro id decision start h
    cases h
  · intro id e h
    cases h
  · intro organizationId ie h
    cases h
  · intro id e h
    cases h

variable [DecidableEq ι]

/-- **Sessions live as long as advertised, and are listed while they live**, along every run of
permitted steps. -/
theorem sessions_advertised {t : List (ι × Event)} {clock : Utc}
    (hpermitted : (sessionMachine P managementAuthorization ι).Guarded Permitted
      (noSessions ι clock) t)
    (h : (sessionMachine P managementAuthorization ι).run (noSessions ι clock) t = some c) :
    Advertised P c.store := by
  have hboth : Sound P c ∧ Timely c.store :=
    Machine.guarded_induct (P := fun c => Sound P c ∧ Timely c.store)
      (fun c i e c' hP hg hnext => by
        obtain ⟨hsound, hchange⟩ := step_sound hP.1 hnext
        exact ⟨hsound, timely_step hP.1 hP.2 hg hchange⟩)
      ⟨sound_noSessions P ι clock, timely_noSessions ι clock⟩ hpermitted h
  exact hboth.2.advertised

namespace LifetimeExample

open SubmissionExample (platform request evaluation)

def minutes (n : Int) : Utc := utcSeconds (60 * n)

def start (id : String) (expiryMinutes : Int) : List (Fin 3 × Event) :=
  [(if id = "S" then 0 else 2, .start { request with expiryMinutes := expiryMinutes }
      ⟨"user-1", "org-1"⟩ (.ok ()) (.ok ()) id "F" "N"),
    (if id = "S" then 0 else 2, .command)]

def decideS : List (Fin 3 × Event) :=
  [(1, .submit ⟨"S", "presentation-a"⟩ false), (1, .command), (1, .time "first"), (1, .command),
    (1, .evaluate (some evaluation) none), (1, .command), (1, .command)]

/-- A session that ends after two hours, and an hour and a minute. -/
def longSession : List (Fin 3 × Event) := start "S" 120 ++ [(0, .tick (minutes 61))]

/-- A session that is decided after fifty minutes, and eleven minutes more. -/
def unlisted : List (Fin 3 × Event) :=
  start "S" 55 ++ [(0, .tick (minutes 50))] ++ decideS ++ [(0, .tick (minutes 61))]

/-- The same, in an organization that opens another session in between. -/
def renewed : List (Fin 3 × Event) :=
  start "S" 55 ++ [(0, .tick (minutes 30))] ++ start "T" 15 ++ [(0, .tick (minutes 50))] ++ decideS ++
    [(0, .tick (minutes 61))]

/-- A session that has not ended is not found. -/
def isLost (s : Store (Fin 3)) : Bool := s.acts.any fun act => match act with
  | .saved session _ => (decisionsOf s.acts session.sessionId).isEmpty &&
      decide (s.redis.clock ≤ session.expiresAt) && (s.redis.raw session.sessionId).isNone
  | _ => false

/-- A session that can be read is not listed. -/
def isUnlisted (s : Store (Fin 3)) : Bool := (s.redis.get platform "S").any fun session =>
  !(s.redis.listByOrg platform session.organizationId).contains session

theorem not_advertised_of_isLost {s : Store (Fin 3)} (h : isLost s = true) :
    ¬ Advertised platform s := by
  intro hadvertised
  obtain ⟨act, hact, hlost⟩ := List.any_eq_true.mp h
  cases act with
  | saved session start =>
      simp only [Bool.and_eq_true, List.isEmpty_iff, decide_eq_true_eq, Option.isNone_iff_eq_none]
        at hlost
      have hfound := hadvertised.found session start hact hlost.1.1 hlost.1.2
      rw [hlost.2] at hfound
      cases hfound
  | opened | claimed | evaluated | decided | answered => cases hlost

theorem not_advertised_of_isUnlisted {s : Store (Fin 3)} (h : isUnlisted s = true) :
    ¬ Advertised platform s := by
  intro hadvertised
  obtain ⟨session, hget, hunlisted⟩ := (Option.any_eq_true _ _).mp h
  have hlisted := hadvertised.listed "S" session hget
  simp [hlisted] at hunlisted

/-- **Sessions do not live as advertised**: one that ends after two hours is gone after one, and
one that is decided late is not listed while it can be read. -/
theorem sessions_not_advertised : (∃ c,
    (sessionMachine platform true (Fin 3)).run (noSessions (Fin 3) 0) longSession = some c ∧
      ¬ Advertised platform c.store) ∧ ∃ c,
    (sessionMachine platform true (Fin 3)).run (noSessions (Fin 3) 0) unlisted = some c ∧
      ¬ Advertised platform c.store := by
  have hlost : ((sessionMachine platform true (Fin 3)).run (noSessions (Fin 3) 0) longSession).map
      (fun c => isLost c.store) = some true := by
    decide +kernel
  have hunlisted : ((sessionMachine platform true (Fin 3)).run (noSessions (Fin 3) 0) unlisted).map
      (fun c => isUnlisted c.store) = some true := by
    decide +kernel
  obtain ⟨c, hc, hbad⟩ := Option.map_eq_some_iff.mp hlost
  obtain ⟨c', hc', hbad'⟩ := Option.map_eq_some_iff.mp hunlisted
  exact ⟨⟨c, hc, not_advertised_of_isLost hbad⟩, c', hc', not_advertised_of_isUnlisted hbad'⟩

/-- The decided session is listed when its organization has opened another one meanwhile. -/
theorem sessions_advertised_renewed : ∃ c,
    (sessionMachine platform true (Fin 3)).run (noSessions (Fin 3) 0) renewed = some c ∧
      Advertised platform c.store ∧
      (c.store.redis.listByOrg platform "org-1").map (·.sessionId) = ["T", "S"] := by
  have hpermitted : (sessionMachine platform true (Fin 3)).Guarded Permitted
      (noSessions (Fin 3) 0) renewed := by
    decide +kernel
  have hrun : ((sessionMachine platform true (Fin 3)).run (noSessions (Fin 3) 0) renewed).map
      (fun c => (c.store.redis.listByOrg platform "org-1").map (·.sessionId)) = some ["T", "S"] := by
    decide +kernel
  obtain ⟨c, hc, hlisted⟩ := Option.map_eq_some_iff.mp hrun
  exact ⟨c, hc, sessions_advertised hpermitted hc, hlisted⟩

end LifetimeExample

end Marty.Verification
