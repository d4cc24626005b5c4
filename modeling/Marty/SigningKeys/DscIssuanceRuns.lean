import Marty.SigningKeys.DscIssuance

/-!
# Receipts, certificates and serials

A commit replaces the document that its snapshot has shown, so that it adds one receipt where
there was none, and nothing that was there is lost.  The serials of one signer are kept apart
by their texts; as long as no serial is spelled in two ways, they are kept apart by their
numbers too.

## Main definitions

* `CommitEffect` — what a commit does to the certificate document.
* `ReceiptsKept`, `AttachmentsKept` — what later documents keep.
* `DscInv` — what holds of the documents and of the callers.
-/

namespace Marty.SigningKeys.Dsc

open Lib Lib.Checked
open Registry (rotationLeaseKey)
open Json (Value Map)

/-! ## Serials -/

theorem hexDigitValue_lt {c : Char} {n : Nat} (h : hexDigitValue c = some n) : n < 16 := by
  unfold hexDigitValue at h
  split_ifs at h <;> cases h <;> omega

theorem hexByte_lt {c d : Char} {n : Nat} (h : hexByte c d = some n) : n < 256 := by
  unfold hexByte at h
  split at h
  · exact (hexDigitValue_lt h).trans (by decide)
  · obtain ⟨a, ha, h⟩ := Option.bind_eq_some_iff.mp h
    obtain ⟨b, hb, h⟩ := Option.bind_eq_some_iff.mp h
    have hlow := hexDigitValue_lt ha
    have hhigh := hexDigitValue_lt hb
    cases h
    omega

theorem hexBytes_lt : ∀ {cs : List Char} {bytes : List Nat}, hexBytes cs = some bytes →
    ∀ b ∈ bytes, b < 256
  | [], bytes, h => by
      cases h
      exact fun b hb => nomatch hb
  | [_], bytes, h => nomatch h
  | c :: d :: cs, bytes, h => by
      obtain ⟨a, ha, h⟩ := Option.bind_eq_some_iff.mp h
      obtain ⟨rest, hrest, h⟩ := Option.bind_eq_some_iff.mp h
      cases h
      intro b hb
      rcases List.mem_cons.mp hb with rfl | hb
      · exact hexByte_lt ha
      · exact hexBytes_lt hrest b hb

theorem isMinimal_of_minimalBytes {bytes : List Nat} (h : minimalBytes bytes)
    (hbounded : ∀ b ∈ bytes, b < 256) : IsMinimal bytes := by
  match bytes, h with
  | [b], h =>
      simp only [minimalBytes, Bool.and_eq_true, decide_eq_true_eq] at h
      exact .plain h.1 h.2 (fun c hc => nomatch hc)
  | b :: c :: bytes, h =>
      simp only [minimalBytes, Bool.and_eq_true, Bool.or_eq_true, decide_eq_true_eq] at h
      obtain ⟨⟨-, hsign⟩, hfirst⟩ := h
      by_cases hb : b = 0
      · subst hb
        exact .padded (hfirst.resolve_left (by simp))
          fun d hd => hbounded d (List.mem_cons_of_mem _ hd)
      · exact .plain hb hsign fun d hd => hbounded d (List.mem_cons_of_mem _ hd)

/-- **Two serials of one number** spell the same bytes. -/
theorem serialBytes_eq {s s' : String} (h : validSerial s) (h' : validSerial s')
    (heq : serialNumber s = serialNumber s') : serialBytes s = serialBytes s' := by
  simp only [validSerial, Bool.and_eq_true, Option.any_eq_true] at h h'
  obtain ⟨-, bytes, hbytes, hminimal⟩ := h
  obtain ⟨-, bytes', hbytes', hminimal'⟩ := h'
  rw [serialNumber, serialNumber, hbytes, hbytes', Option.map_some, Option.map_some,
    Option.some.injEq] at heq
  rw [hbytes, hbytes', (isMinimal_of_minimalBytes hminimal (hexBytes_lt hbytes)).ext
    (isMinimal_of_minimalBytes hminimal' (hexBytes_lt hbytes')) heq]

/-! ## Documents -/

/-- The entry of an object that a document has in one of its fields. -/
def nested (document : Value) (field key : String) : Option Value :=
  (document.get field).bind (·.get key)

theorem containsKey_eq_isSome (m : Map) (key : String) :
    m.containsKey key = (m.get key).isSome := by
  rw [Bool.eq_iff_iff, Map.containsKey_eq_true, Option.isSome_iff_ne_none, ne_eq,
    Map.get_eq_none]
  push Not
  rfl

theorem serialReserved_eq_isSome (document : Value) (family : CertificateFamily)
    (serialId : String) :
    serialReserved document family serialId = (nested document family.serials serialId).isSome := by
  unfold serialReserved nested
  cases document.get family.serials with
  | none => rfl
  | some value =>
      cases value <;> first | rfl | exact containsKey_eq_isSome ..

/-- The entries that are there, or none. -/
theorem entryObject_get {object entries : Map} {field : String}
    {error : DscIssuanceStoreError} (h : entryObject object field error = .ok entries)
    (key : String) : entries.get key = nested (.object object) field key := by
  unfold entryObject at h
  rw [okOr_eq_ok] at h
  rw [nested, Json.Value.get_object]
  cases hget : object.get field with
  | none =>
      rw [hget] at h
      cases h
      rfl
  | some value =>
      rw [hget, Option.getD_some] at h
      rw [Option.bind_some, Value.get, h, Option.bind_some]

theorem nested_insert (object : Map) (field : String) (value : Value) (other key : String) :
    nested (.object (object.insert field value)) other key =
      if other = field then value.get key else nested (.object object) other key := by
  unfold nested
  rw [Json.Value.get_object, Map.get_insert]
  split
  · rfl
  · rfl

/-- What a commit does to the certificate document. -/
structure CommitEffect (document document' : Value) (claim : DscClaim)
    (input : DscIssuanceInput) (now : String) : Prop where
  fresh : receiptOf document claim.family claim.receiptId = none
  unreserved : serialReserved document claim.family input.serialId = false
  valid : validSerial input.serialHex
  result : input.publicResult.isObject
  receipts : ∀ family id, receiptOf document' family id =
    if family = claim.family ∧ id = claim.receiptId then some (newReceipt claim input now)
    else receiptOf document family id
  serials : ∀ family serialId, serialReserved document' family serialId =
    (decide (family = claim.family ∧ serialId = input.serialId) ||
      serialReserved document family serialId)
  profiles : ∀ profileId, profileOf document' profileId =
    if profileId = input.dscProfileId then some input.attachment
    else profileOf document profileId
  attached : ∀ prior, profileOf document input.dscProfileId = some prior →
    sameAttachment prior input.attachment

theorem receipts_injective {f g : CertificateFamily} : f.receipts = g.receipts ↔ f = g := by
  cases f <;> cases g <;> decide

theorem serials_injective {f g : CertificateFamily} : f.serials = g.serials ↔ f = g := by
  cases f <;> cases g <;> decide

/-- The fields of the document have different names. -/
theorem fields_distinct (f g : CertificateFamily) :
    f.receipts ≠ g.serials ∧ f.receipts ≠ "profiles" ∧ f.receipts ≠ "updated_at" ∧
      f.serials ≠ "profiles" ∧ f.serials ≠ "updated_at" := by
  cases f <;> cases g <;> decide

/-- The entries of the new document, field by field. -/
theorem replacementOf_nested {object : Map} {claim : DscClaim} {input : DscIssuanceInput}
    {now : String} {document' : Value}
    (h : replacementOf object claim input now = .ok document') :
    (∀ prior, profileOf (.object object) input.dscProfileId = some prior →
      sameAttachment prior input.attachment) ∧
    ∀ field key, field ≠ "updated_at" → nested document' field key =
      if field = claim.family.serials ∧ key = input.serialId then some (.string claim.receiptId)
      else if field = claim.family.receipts ∧ key = claim.receiptId then
        some (newReceipt claim input now)
      else if field = "profiles" ∧ key = input.dscProfileId then some input.attachment
      else nested (.object object) field key := by
  obtain ⟨hcross, hrp, hru, hsp, hsu⟩ := fields_distinct claim.family claim.family
  simp only [replacementOf, bind_eq_ok, exists_unit, rejectIf_eq_ok, pure, Except.pure,
    Except.ok.injEq] at h
  obtain ⟨profiles, hprofiles, hsame, receipts, hreceipts, serials, hserials, rfl⟩ := h
  have hprofilesGet := entryObject_get hprofiles
  have hreceiptsGet := entryObject_get hreceipts
  have hserialsGet := entryObject_get hserials
  simp only [nested_insert] at hprofilesGet hreceiptsGet hserialsGet
  have hpu : "profiles" ≠ "updated_at" := by decide
  simp only [if_neg hpu] at hprofilesGet
  simp only [if_neg hrp, if_neg hru] at hreceiptsGet
  simp only [if_neg hcross.symm, if_neg hsp, if_neg hsu] at hserialsGet
  constructor
  · intro prior hprior
    rw [profileOf, show ((Value.object object).get "profiles").bind (·.get input.dscProfileId)
      = nested (.object object) "profiles" input.dscProfileId from rfl, ← hprofilesGet] at hprior
    rw [hprior] at hsame
    simpa using hsame
  · intro field key hfield
    simp only [nested_insert, Json.Value.get_object, Map.get_insert, if_neg hfield,
      hserialsGet, hreceiptsGet, hprofilesGet]
    by_cases hs : field = claim.family.serials
    · subst hs
      simp [hcross.symm, hsp]
    · by_cases hr : field = claim.family.receipts
      · subst hr
        simp [hcross, hrp]
      · by_cases hp : field = "profiles"
        · subst hp
          simp [hrp.symm, hsp.symm]
        · simp [hs, hr, hp]

/-- A document that is null has no fields, and neither has the one made in its place. -/
theorem nested_services (field key : String) :
    nested (.object [("services", .object [])]) field key = nested .null field key := by
  unfold nested
  rw [Json.Value.get_object, Map.get_cons]
  split <;> rfl

/-- **All that a commit stores**, when there is something to store. -/
theorem prepareCommit_replace {containsPrivateKey : Value → Bool} {organizationId : String}
    {family : CertificateFamily} {claim : DscClaim} {certificates document' : Value}
    {lease : Registry.RotationLease} {input : DscIssuanceInput} {now : String}
    (h : prepareCommit containsPrivateKey organizationId family claim certificates lease input
      now = .ok (.replace document')) :
    family = claim.family ∧ lease.key = rotationLeaseKey organizationId ∧
      CommitEffect certificates document' claim input now := by
  simp only [prepareCommit, bind_eq_ok, exists_unit, rejectIf_eq_ok, not_or, not_not] at h
  obtain ⟨⟨rfl, hlease⟩, hinput, h⟩ := h
  refine ⟨rfl, hlease, ?_⟩
  cases hreceipt : receiptOf certificates claim.family claim.receiptId with
  | some receipt =>
      rw [hreceipt] at h
      obtain ⟨result, -, h⟩ := bind_eq_ok.mp h
      cases h
  | none =>
      rw [hreceipt] at h
      simp only [bind_eq_ok, exists_unit, rejectIf_eq_ok, okOr_eq_ok, pure, Except.pure,
        Except.ok.injEq, PreparedCommit.replace.injEq] at h
      obtain ⟨hreserved, object, hobject, document, hreplacement, rfl⟩ := h
      obtain ⟨hsame, hnested⟩ := replacementOf_nested hreplacement
      -- the object has the fields of the document that was read
      have hold : ∀ field key, nested (.object object) field key = nested certificates field key := by
        intro field key
        split at hobject
        · next hnull =>
            cases hobject
            rw [nested_services]
            cases certificates <;> first | rfl | cases hnull
        · cases certificates <;> cases hobject
          rfl
      have hreserved' : serialReserved certificates claim.family input.serialId = false := by
        rw [serialReserved_eq_isSome, ← hold]
        rw [serialReserved_eq_isSome] at hreserved
        split at hobject
        · next hnull =>
            cases hobject
            rwa [if_pos hnull, Bool.not_eq_true] at hreserved
        · next hnull =>
            rw [if_neg hnull, Bool.not_eq_true] at hreserved
            rw [hold]
            exact hreserved
      simp only [checkInput, bind_eq_ok, exists_unit, rejectIf_eq_ok, not_or,
        Bool.not_eq_false] at hinput
      obtain ⟨⟨hvalid, -⟩, -, hresult, -⟩ := hinput
      refine ⟨hreceipt, hreserved', hvalid, hresult, ?_, ?_, ?_, ?_⟩
      · intro other id
        obtain ⟨hcross, hrp, hru, -⟩ := fields_distinct other claim.family
        rw [show receiptOf document other id = nested document other.receipts id from rfl,
          hnested _ _ hru, hold]
        simp only [hcross, hrp, receipts_injective, false_and, if_false]
        rfl
      · intro other serialId
        obtain ⟨hcross, -⟩ := fields_distinct claim.family other
        obtain ⟨-, -, -, hsp, hsu⟩ := fields_distinct other other
        rw [serialReserved_eq_isSome, serialReserved_eq_isSome, hnested _ _ hsu, hold]
        simp only [hcross.symm, hsp, serials_injective, false_and, if_false]
        split
        · next heq => simp [heq]
        · next heq => simp [heq]
      · intro profileId
        obtain ⟨-, hrp, -, hsp, -⟩ := fields_distinct claim.family claim.family
        rw [show profileOf document profileId = nested document "profiles" profileId from rfl,
          hnested _ _ (by decide), hold]
        simp only [hrp.symm, hsp.symm, false_and, true_and, if_false]
        rfl
      · intro prior hprior
        apply hsame
        rw [← hprior]
        exact hold "profiles" input.dscProfileId

/-! ## What later documents keep -/

def ReceiptsKept (document document' : Value) : Prop :=
  ∀ family id receipt, receiptOf document family id = some receipt →
    receiptOf document' family id = some receipt

theorem ReceiptsKept.refl (document : Value) : ReceiptsKept document document :=
  fun _ _ _ h => h

theorem ReceiptsKept.trans {a b c : Value} (hab : ReceiptsKept a b) (hbc : ReceiptsKept b c) :
    ReceiptsKept a c :=
  fun family id receipt h => hbc family id receipt (hab family id receipt h)

/-- The certificate of a profile stays the same one. -/
def AttachmentsKept (document document' : Value) : Prop :=
  ∀ profileId attachment, profileOf document profileId = some attachment →
    ∃ attachment', profileOf document' profileId = some attachment' ∧
      sameAttachment attachment attachment'

theorem sameValue_refl (a : Option Value) : sameValue a a := by
  cases a with
  | none => rfl
  | some a => exact Value.beq_refl a

theorem sameValue_trans {a b c : Option Value} (h : sameValue a b) (h' : sameValue b c) :
    sameValue a c := by
  match a, b, c, h, h' with
  | none, none, none, _, _ => rfl
  | some a, some b, some c, h, h' => exact Value.beq_trans h h'

theorem sameAttachment_refl (a : Value) : sameAttachment a a :=
  List.all_eq_true.mpr fun _ _ => sameValue_refl _

theorem sameAttachment_trans {a b c : Value} (h : sameAttachment a b) (h' : sameAttachment b c) :
    sameAttachment a c := by
  rw [sameAttachment, List.all_eq_true] at h h' ⊢
  exact fun field hfield => sameValue_trans (h field hfield) (h' field hfield)

theorem AttachmentsKept.refl (document : Value) : AttachmentsKept document document :=
  fun _ attachment h => ⟨attachment, h, sameAttachment_refl attachment⟩

theorem AttachmentsKept.trans {a b c : Value} (hab : AttachmentsKept a b)
    (hbc : AttachmentsKept b c) : AttachmentsKept a c := by
  intro profileId attachment hget
  obtain ⟨attachment', hget', hsame⟩ := hab profileId attachment hget
  obtain ⟨attachment'', hget'', hsame'⟩ := hbc profileId attachment' hget'
  exact ⟨attachment'', hget'', sameAttachment_trans hsame hsame'⟩

theorem CommitEffect.receiptsKept {document document' : Value} {claim : DscClaim}
    {input : DscIssuanceInput} {now : String}
    (h : CommitEffect document document' claim input now) : ReceiptsKept document document' := by
  intro family id receipt hget
  rw [h.receipts, if_neg]
  · exact hget
  · rintro ⟨rfl, rfl⟩
    rw [h.fresh] at hget
    cases hget

theorem CommitEffect.attachmentsKept {document document' : Value} {claim : DscClaim}
    {input : DscIssuanceInput} {now : String}
    (h : CommitEffect document document' claim input now) :
    AttachmentsKept document document' := by
  intro profileId attachment hget
  rw [h.profiles]
  by_cases heq : profileId = input.dscProfileId
  · subst heq
    exact ⟨input.attachment, if_pos rfl, h.attached attachment hget⟩
  · exact ⟨attachment, by rw [if_neg heq, hget], sameAttachment_refl attachment⟩

/-! ## Results -/

/-- The receipt of a request holds the result. -/
def Holds (document : Value) (request : DscRequest) (result : Value) : Prop :=
  ∃ receipt, receiptOf document request.family request.receiptId = some receipt ∧
    (receipt.get "request_digest").bind Value.asStr = some request.requestDigest ∧
    receipt.get "result" = some result

theorem Holds.kept {document document' : Value} {request : DscRequest} {result : Value}
    (h : Holds document request result) (hkept : ReceiptsKept document document') :
    Holds document' request result := by
  obtain ⟨receipt, hget, hdigest, hresult⟩ := h
  exact ⟨receipt, hkept _ _ _ hget, hdigest, hresult⟩

def DscOutcome.Kept (document : Value) (request : DscRequest) : DscOutcome → Prop
  | completed result => Holds document request result
  | committed result => Holds document request result
  | _ => True

theorem DscOutcome.Kept.kept {document document' : Value} {request : DscRequest}
    {outcome : DscOutcome} (h : outcome.Kept document request)
    (hkept : ReceiptsKept document document') : outcome.Kept document' request := by
  cases outcome with
  | claimed => trivial
  | pending => trivial
  | completed result => exact Holds.kept h hkept
  | committed result => exact Holds.kept h hkept

theorem receiptResult_eq_ok {receipt result : Value} {digest : String}
    (h : receiptResult receipt digest = .ok result) :
    (receipt.get "request_digest").bind Value.asStr = some digest ∧
      receipt.get "result" = some result := by
  simp only [receiptResult, bind_eq_ok, exists_unit, rejectIf_eq_ok, not_not, okOr_eq_ok] at h
  exact ⟨h.1, (Option.filter_eq_some_iff.mp h.2).1⟩

section

variable {β : Type} {codec : JsonCodec β}

theorem completed_eq_some {redis : DscRedis β} {family : CertificateFamily}
    {receiptId digest : String} {result : Value}
    (h : completed codec redis family receiptId digest = .ok (some result)) :
    Holds (certificatesOf codec redis.certificates) ⟨family, receiptId, digest⟩ result := by
  unfold completed at h
  cases hbytes : redis.certificates with
  | none =>
      rw [hbytes] at h
      cases h
  | some bytes =>
      rw [hbytes] at h
      simp only [bind_eq_ok, exists_unit, rejectIf_eq_ok, okOr_eq_ok] at h
      obtain ⟨document, hread, -, h⟩ := h
      have hdocument : certificatesOf codec (some bytes) = document := by
        rw [certificatesOf, Option.bind_some, hread, Option.getD_some]
      rw [hdocument]
      cases hreceipt : receiptOf document family receiptId with
      | none =>
          rw [hreceipt] at h
          cases h
      | some receipt =>
          rw [hreceipt] at h
          simp only [bind_eq_ok, pure, Except.pure, Except.ok.injEq, Option.some.injEq] at h
          obtain ⟨_, hresult, rfl⟩ := h
          exact ⟨receipt, hreceipt, receiptResult_eq_ok hresult⟩

/-- A result that a commit finds in its snapshot. -/
theorem prepareCommit_completed {containsPrivateKey : Value → Bool} {organizationId : String}
    {family : CertificateFamily} {claim : DscClaim} {certificates result : Value}
    {lease : Registry.RotationLease} {input : DscIssuanceInput} {now : String}
    (h : prepareCommit containsPrivateKey organizationId family claim certificates lease input
      now = .ok (.completed result)) : Holds certificates claim.request result := by
  simp only [prepareCommit, bind_eq_ok, exists_unit, rejectIf_eq_ok, not_or, not_not] at h
  obtain ⟨⟨rfl, -⟩, -, h⟩ := h
  cases hreceipt : receiptOf certificates claim.family claim.receiptId with
  | some receipt =>
      rw [hreceipt] at h
      simp only [bind_eq_ok, pure, Except.pure, Except.ok.injEq, PreparedCommit.completed.injEq]
        at h
      obtain ⟨_, hresult, rfl⟩ := h
      exact ⟨receipt, hreceipt, receiptResult_eq_ok hresult⟩
  | none =>
      rw [hreceipt] at h
      simp only [bind_eq_ok, rejectIf_eq_ok, okOr_eq_ok, pure, Except.pure, Except.ok.injEq,
        reduceCtorEq, and_false, exists_false] at h

/-- A commit leaves the receipt of its result behind. -/
theorem CommitEffect.holds {document document' : Value} {claim : DscClaim}
    {input : DscIssuanceInput} {now : String}
    (h : CommitEffect document document' claim input now) :
    Holds document' claim.request input.publicResult := by
  refine ⟨newReceipt claim input now, ?_, ?_, ?_⟩
  · rw [h.receipts]
    exact if_pos ⟨rfl, rfl⟩
  · simp [newReceipt, Map.get_cons, DscClaim.request, Value.asStr]
  · simp [newReceipt, Map.get_cons]

/-! ## One step -/

/-- What a caller relies on: its results are those of receipts, and so is what it has read. -/
structure Promised (document : Value) (caller : DscCaller codec) : Prop where
  releasing : ∀ claim outcome, caller.phase = .releasing claim outcome →
    outcome.Kept document claim.request
  answer : ∀ answer outcome, caller.answer = some answer → answer.outcome = .ok outcome →
    outcome.Kept document answer.request
  snapshot : ∀ snapshot, caller.snapshot = some snapshot →
    ReceiptsKept snapshot.certificates document

theorem Promised.kept {document document' : Value} {caller : DscCaller codec}
    (h : Promised document caller) (hkept : ReceiptsKept document document') :
    Promised document' caller where
  releasing claim outcome hphase := (h.releasing claim outcome hphase).kept hkept
  answer answer outcome hanswer hok := (h.answer answer outcome hanswer hok).kept hkept
  snapshot snapshot hsnapshot := (h.snapshot snapshot hsnapshot).trans hkept

theorem Promised.return_ {document : Value} {caller : DscCaller codec}
    (h : Promised document caller) {request : DscRequest}
    {outcome : Except DscIssuanceStoreError DscOutcome}
    (hkept : ∀ o, outcome = .ok o → o.Kept document request) :
    Promised document (caller.return_ request outcome) := by
  constructor
  · intro claim outcome hphase
    cases hphase
  · intro answer o hanswer hok
    cases hanswer
    exact hkept o hok
  · exact h.snapshot

theorem Promised.phase {document : Value} {caller : DscCaller codec}
    (h : Promised document caller) {phase : DscPhase}
    (hphase : ∀ claim outcome, phase = .releasing claim outcome →
      outcome.Kept document claim.request) :
    Promised document { caller with phase := phase } :=
  ⟨hphase, h.answer, h.snapshot⟩

variable {containsPrivateKey : Value → Bool} {receiptIdOf : String → String}
  {organizationId : String}

/-- What a step does to the certificate document: nothing, or one commit is carried out while
the documents are those of its snapshot and lease and claim still stand. -/
inductive DscEffect (codec : JsonCodec β) (organizationId : String) (redis redis' : DscRedis β)
    (caller : DscCaller codec) (e : DscEvent β) : Prop
  | same (certificates : redis'.certificates = redis.certificates)
  | committed {claim : DscClaim} {snapshot : DscIssuanceSnapshot codec}
      {lease : Registry.RotationLease} {input : DscIssuanceInput} {now : String} {delivery : Delivery}
      (event : e = .commit claim.family lease input now delivery)
      (claimed : caller.claim = some claim) (read : caller.snapshot = some snapshot)
      (unchanged : redis.raw claim.family = snapshot.raw)
      (leased : redis.leases (rotationLeaseKey organizationId) = some lease.owner)
      (pending : redis.pending claim.key = some claim.pending)
      (effect : CommitEffect (certificatesOf codec redis.certificates)
        (certificatesOf codec redis'.certificates) claim input now)

/-- A call that reads the receipt of its key and returns what it has found. -/
theorem beginCall_promised {redis : DscRedis β} {caller : DscCaller codec}
    (h : Promised (certificatesOf codec redis.certificates) caller)
    (family : CertificateFamily) (key digest : String) (delivery : Delivery) :
    Promised (certificatesOf codec redis.certificates)
      (beginCall codec receiptIdOf organizationId redis caller family key digest delivery) := by
  unfold beginCall
  dsimp only
  split
  · exact h.return_ nofun
  · split
    · exact h.return_ nofun
    · split
      · exact h.return_ nofun
      · next result hcompleted =>
          apply h.return_
          rintro o ⟨⟩
          exact completed_eq_some hcompleted
      · exact h.phase nofun

theorem recheckCall_promised {redis : DscRedis β} {caller : DscCaller codec}
    (h : Promised (certificatesOf codec redis.certificates) caller) (claim : DscClaim)
    (delivery : Delivery) :
    Promised (certificatesOf codec redis.certificates)
      (recheckCall codec redis caller claim delivery) := by
  unfold recheckCall
  split
  · exact h.return_ nofun
  · split
    · exact h.return_ nofun
    · next result hcompleted =>
        apply h.phase
        rintro claim outcome ⟨⟩
        exact completed_eq_some hcompleted
    · have hreturned : Promised (certificatesOf codec redis.certificates)
          (caller.return_ claim.request (.ok .claimed)) := by
        apply h.return_
        rintro o ⟨⟩
        trivial
      exact ⟨hreturned.releasing, hreturned.answer, hreturned.snapshot⟩

theorem rereadCall_promised {redis : DscRedis β} {caller : DscCaller codec}
    (h : Promised (certificatesOf codec redis.certificates) caller) (claim : DscClaim)
    (delivery : Delivery) :
    Promised (certificatesOf codec redis.certificates)
      (rereadCall codec redis caller claim delivery) := by
  unfold rereadCall
  split
  · exact h.return_ nofun
  · split
    · exact h.return_ nofun
    · next result hcompleted =>
        apply h.return_
        rintro o ⟨⟩
        exact completed_eq_some hcompleted
    · exact h.return_ nofun

theorem inspectCall_promised {redis : DscRedis β} {caller : DscCaller codec}
    (h : Promised (certificatesOf codec redis.certificates) caller) (request : DscRequest)
    (delivery : Delivery) :
    Promised (certificatesOf codec redis.certificates)
      (inspectCall codec redis caller request delivery) := by
  unfold inspectCall
  split
  · exact h.return_ nofun
  · split
    · exact h.return_ nofun
    · apply h.return_
      rintro o ⟨⟩
      trivial

/-- Claiming a key leaves the documents alone. -/
theorem claimCall_effect {redis : DscRedis β} {caller : DscCaller codec}
    (h : Promised (certificatesOf codec redis.certificates) caller) (request : DscRequest)
    (owner : String) (delivery : Delivery) :
    let answer := claimCall codec redis caller request owner delivery
    answer.1.certificates = redis.certificates ∧
      Promised (certificatesOf codec redis.certificates) answer.2 := by
  intro answer
  simp only [answer]
  unfold claimCall
  cases delivery with
  | refused => exact ⟨rfl, h.return_ nofun⟩
  | lost =>
      refine ⟨?_, h.return_ nofun⟩
      dsimp only
      split <;> rfl
  | answered =>
      dsimp only
      split
      · exact ⟨rfl, h.phase nofun⟩
      · exact ⟨rfl, h.phase nofun⟩

theorem releaseRedis_certificates (redis : DscRedis β) (claim : DscClaim)
    (delivery : Delivery) :
    (releaseRedis redis claim delivery).certificates = redis.certificates := by
  unfold releaseRedis releaseScript
  split
  · rfl
  · split <;> rfl

/-- A snapshot shows the receipts that are there. -/
theorem takeSnapshot_certificates {redis : DscRedis β} {family : CertificateFamily}
    {snapshot : DscIssuanceSnapshot codec}
    (h : takeSnapshot codec redis family = .ok snapshot) :
    snapshot.certificates = certificatesOf codec redis.certificates := by
  simp only [takeSnapshot, bind_eq_ok, pure, Except.pure, Except.ok.injEq] at h
  obtain ⟨_, -, _, -, _, -, _, -, rfl⟩ := h
  rfl

variable [DecidableEq β]

/-- **All that the script of a commit does.** -/
theorem commitScript_cases (redis : DscRedis β) (lease : Registry.RotationLease) (claim : DscClaim)
    (prior : DscRaw β) (replacement : β) :
    (redis.leases lease.key = some lease.owner ∧ redis.pending claim.key = some claim.pending ∧
      redis.raw claim.family = prior ∧
      commitScript redis lease claim prior replacement =
        ({ redis with certificates := some replacement }, 1)) ∨
    ((commitScript redis lease claim prior replacement).1 = redis ∧
      (commitScript redis lease claim prior replacement).2 ≠ 1) := by
  unfold commitScript
  by_cases hlease : redis.leases lease.key = some lease.owner
  · rw [if_neg (not_not.mpr hlease)]
    by_cases hpending : redis.pending claim.key = some claim.pending
    · rw [if_neg (not_not.mpr hpending)]
      by_cases hraw : redis.raw claim.family = prior
      · rw [if_neg (not_not.mpr hraw)]
        exact .inl ⟨hlease, hpending, hraw, rfl⟩
      · rw [if_pos hraw]
        exact .inr ⟨rfl, Int.zero_ne_one⟩
    · rw [if_pos hpending]
      exact .inr ⟨rfl, by simp⟩
  · rw [if_pos hlease]
    exact .inr ⟨rfl, by simp⟩

variable (containsPrivateKey organizationId) in
theorem commitCall_effect {redis : DscRedis β} {caller : DscCaller codec}
    (family : CertificateFamily) {claim : DscClaim} {snapshot : DscIssuanceSnapshot codec}
    (lease : Registry.RotationLease) (input : DscIssuanceInput) (now : String) (delivery : Delivery)
    (h : Promised (certificatesOf codec redis.certificates) caller)
    (hclaim : caller.claim = some claim) (hsnapshot : caller.snapshot = some snapshot) :
    let answer := commitCall containsPrivateKey codec organizationId redis caller family claim
      snapshot lease input now delivery
    DscEffect codec organizationId redis answer.1 caller
        (.commit family lease input now delivery) ∧
      Promised (certificatesOf codec answer.1.certificates) answer.2 := by
  intro answer
  simp only [answer]
  unfold commitCall
  cases hprepare : prepareCommit containsPrivateKey organizationId family claim
      snapshot.certificates lease input now with
  | error error => exact ⟨.same rfl, h.return_ nofun⟩
  | ok prepared =>
      cases prepared with
      | completed result =>
          refine ⟨.same rfl, h.return_ ?_⟩
          rintro o ⟨⟩
          exact (prepareCommit_completed hprepare).kept (h.snapshot snapshot hsnapshot)
      | replace document =>
          obtain ⟨rfl, hkey, heffect⟩ := prepareCommit_replace hprepare
          rcases commitScript_cases redis lease claim snapshot.raw (codec.write document) with
            ⟨hlease, hpending, hraw, heq⟩ | ⟨hredis, hfailed⟩
          · -- the document that is replaced is the one that has been read
            have hdocument : certificatesOf codec redis.certificates = snapshot.certificates := by
              rw [snapshot.decoded, ← hraw]
              rfl
            have hwritten : certificatesOf codec (some (codec.write document)) = document := by
              rw [certificatesOf, Option.bind_some, codec.read_write, Option.getD_some]
            rw [← hdocument, ← hwritten] at heffect
            rw [hkey] at hlease
            dsimp only
            rw [heq]
            cases delivery with
            | refused => exact ⟨.same rfl, h.return_ nofun⟩
            | lost =>
                exact ⟨.committed rfl hclaim hsnapshot hraw hlease hpending heffect,
                  (h.kept heffect.receiptsKept).return_ nofun⟩
            | answered =>
                refine ⟨.committed rfl hclaim hsnapshot hraw hlease hpending heffect, ?_⟩
                rw [if_pos rfl]
                apply (h.kept heffect.receiptsKept).phase
                rintro claim outcome ⟨⟩
                exact heffect.holds
          · cases delivery with
            | refused => exact ⟨.same rfl, h.return_ nofun⟩
            | lost =>
                dsimp only
                rw [hredis]
                exact ⟨.same rfl, h.return_ nofun⟩
            | answered =>
                dsimp only
                rw [hredis, if_neg hfailed]
                refine ⟨.same rfl, ?_⟩
                split
                · exact h.phase nofun
                · split
                  · exact h.return_ nofun
                  · exact h.return_ nofun

/-- **One step.** -/
theorem dscStep_effect {redis redis' : DscRedis β} {caller caller' : DscCaller codec}
    {e : DscEvent β} (h : Promised (certificatesOf codec redis.certificates) caller)
    (hstep : dscStep containsPrivateKey codec receiptIdOf organizationId redis caller e
      = some (redis', caller')) :
    DscEffect codec organizationId redis redis' caller e ∧
      Promised (certificatesOf codec redis'.certificates) caller' := by
  cases e with
  | begin family key digest delivery =>
      simp only [dscStep] at hstep
      split at hstep <;> cases hstep
      exact ⟨.same rfl, beginCall_promised h family key digest delivery⟩
  | claim owner delivery =>
      simp only [dscStep] at hstep
      split at hstep
      · next request hphase =>
          obtain ⟨hcertificates, hpromised⟩ := claimCall_effect h request owner delivery
          rw [Option.some.injEq, Prod.ext_iff] at hstep
          rw [hstep.1] at hcertificates
          rw [hstep.2] at hpromised
          refine ⟨.same hcertificates, ?_⟩
          rw [hcertificates]
          exact hpromised
      · cases hstep
  | inspect delivery =>
      simp only [dscStep] at hstep
      split at hstep <;> cases hstep
      exact ⟨.same rfl, inspectCall_promised h _ delivery⟩
  | recheck delivery =>
      simp only [dscStep] at hstep
      split at hstep <;> cases hstep
      exact ⟨.same rfl, recheckCall_promised h _ delivery⟩
  | release delivery =>
      simp only [dscStep] at hstep
      split at hstep
      · next claim outcome hphase =>
          cases hstep
          refine ⟨.same (releaseRedis_certificates ..), ?_⟩
          rw [releaseRedis_certificates]
          apply h.return_
          rintro o ⟨⟩
          exact h.releasing claim outcome hphase
      · cases hstep
  | abandon delivery =>
      simp only [dscStep] at hstep
      split at hstep <;> cases hstep
      refine ⟨.same (releaseRedis_certificates ..), ?_⟩
      rw [releaseRedis_certificates]
      exact ⟨h.releasing, h.answer, h.snapshot⟩
  | snapshot family delivery =>
      simp only [dscStep] at hstep
      split at hstep <;> cases hstep
      refine ⟨.same rfl, h.releasing, h.answer, ?_⟩
      intro snapshot hsnapshot
      dsimp only at hsnapshot
      split at hsnapshot
      · cases htake : takeSnapshot codec redis family with
        | error error =>
            rw [htake] at hsnapshot
            cases hsnapshot
        | ok taken =>
            rw [htake] at hsnapshot
            cases hsnapshot
            rw [takeSnapshot_certificates htake]
            exact ReceiptsKept.refl _
      · cases hsnapshot
  | commit family lease input now delivery =>
      simp only [dscStep] at hstep
      split at hstep
      · next claim snapshot hphase hclaim hsnapshot =>
          obtain ⟨heffect, hpromised⟩ := commitCall_effect
            containsPrivateKey organizationId family lease input now delivery h hclaim hsnapshot
          rw [Option.some.injEq, Prod.ext_iff] at hstep
          rw [hstep.1] at heffect hpromised
          rw [hstep.2] at hpromised
          exact ⟨heffect, hpromised⟩
      · cases hstep
  | reread delivery =>
      simp only [dscStep] at hstep
      split at hstep <;> cases hstep
      exact ⟨.same rfl, rereadCall_promised h _ delivery⟩
  | restart =>
      cases hstep
      exact ⟨.same rfl, nofun, nofun, nofun⟩
  | expire key =>
      cases hstep
      exact ⟨.same rfl, h⟩
  | lease key owner =>
      cases hstep
      exact ⟨.same rfl, h⟩
  | write profiles registry lifecycles =>
      cases hstep
      exact ⟨.same rfl, h⟩

/-! ## Serials of one signer -/

def receiptSerial (receipt : Value) : Option String := (receipt.get "serial").bind Value.asStr

/-- The serials that a certificate document has receipts for, under a profile. -/
def issuedSerials (document : Value) (family : CertificateFamily) (cscaProfileId : String) :
    List String :=
  (((document.get family.receipts).bind Value.asObject).getD []).filterMap fun e =>
    if (e.2.get "csca_profile_id").bind Value.asStr = some cscaProfileId then receiptSerial e.2
    else none

theorem mem_issuedSerials {document : Value} {family : CertificateFamily} {id : String}
    {receipt : Value} (h : receiptOf document family id = some receipt)
    {cscaProfileId serial : String}
    (hprofile : (receipt.get "csca_profile_id").bind Value.asStr = some cscaProfileId)
    (hserial : receiptSerial receipt = some serial) :
    serial ∈ issuedSerials document family cscaProfileId := by
  obtain ⟨value, hvalue, hget⟩ := Option.bind_eq_some_iff.mp h
  obtain ⟨entries, hentries, hget⟩ := Option.bind_eq_some_iff.mp hget
  rw [issuedSerials, hvalue, Option.bind_some, hentries, Option.getD_some, List.mem_filterMap]
  exact ⟨(id, receipt), Map.mem_of_get hget, by rw [if_pos hprofile, hserial]⟩

/-- No commit is for a serial that spells the bytes of an earlier serial of its profile in
other characters, nor for one that the other family has used under the profile. -/
def PermittedStep {ι : Type} (c : Config (DscRedis β) ι (DscCaller codec)) (_ : ι) :
    DscEvent β → Prop
  | .commit family _ input _ _ => ∀ other ∈ [CertificateFamily.icao, .mdoc],
      ∀ serial ∈ issuedSerials (certificatesOf codec c.store.certificates) other
        input.cscaProfileId, serialBytes serial = serialBytes input.serialHex →
          other = family ∧ serial = input.serialHex
  | _ => True

instance {ι : Type} (c : Config (DscRedis β) ι (DscCaller codec)) (i : ι) (e : DscEvent β) :
    Decidable (PermittedStep c i e) := by
  cases e <;> unfold PermittedStep <;> infer_instance

/-- Two receipts under one profile are for different numbers. -/
def SerialsDistinct (document : Value) : Prop :=
  ∀ family id receipt family' id' receipt', receiptOf document family id = some receipt →
    receiptOf document family' id' = some receipt' →
    receipt.get "csca_profile_id" = receipt'.get "csca_profile_id" →
    (receiptSerial receipt).bind serialNumber = (receiptSerial receipt').bind serialNumber →
    family = family' ∧ id = id'

/-- Every receipt has its serial reserved. -/
def SerialsReserved (document : Value) : Prop :=
  ∀ family id receipt, receiptOf document family id = some receipt →
    ∃ cscaProfileId serial, receipt.get "csca_profile_id" = some (.string cscaProfileId) ∧
      receiptSerial receipt = some serial ∧ validSerial serial ∧
      serialReserved document family (cscaProfileId ++ ":" ++ serial)

theorem newReceipt_serial (claim : DscClaim) (input : DscIssuanceInput) (now : String) :
    (newReceipt claim input now).get "csca_profile_id" = some (.string input.cscaProfileId) ∧
      receiptSerial (newReceipt claim input now) = some input.serialHex := by
  simp [newReceipt, receiptSerial, Map.get_cons, Value.asStr]

theorem CommitEffect.reserved {document document' : Value} {claim : DscClaim}
    {input : DscIssuanceInput} {now : String}
    (h : CommitEffect document document' claim input now) (hreserved : SerialsReserved document) :
    SerialsReserved document' := by
  intro family id receipt hget
  rw [h.receipts] at hget
  split at hget
  · next hkey =>
      cases hget
      obtain ⟨hprofile, hserial⟩ := newReceipt_serial claim input now
      refine ⟨_, _, hprofile, hserial, h.valid, ?_⟩
      rw [h.serials, Bool.or_eq_true, decide_eq_true_iff]
      exact .inl ⟨hkey.1, rfl⟩
  · obtain ⟨cscaProfileId, serial, hprofile, hserial, hvalid, hold⟩ :=
      hreserved family id receipt hget
    refine ⟨cscaProfileId, serial, hprofile, hserial, hvalid, ?_⟩
    rw [h.serials, hold, Bool.or_true]

/-- **A new receipt** is for another number than the old ones under its profile. -/
theorem CommitEffect.distinct {document document' : Value} {claim : DscClaim}
    {input : DscIssuanceInput} {now : String}
    (h : CommitEffect document document' claim input now) (hreserved : SerialsReserved document)
    (hdistinct : SerialsDistinct document)
    (hpermitted : ∀ other ∈ [CertificateFamily.icao, .mdoc],
      ∀ serial ∈ issuedSerials document other input.cscaProfileId,
        serialBytes serial = serialBytes input.serialHex →
          other = claim.family ∧ serial = input.serialHex) : SerialsDistinct document' := by
  -- an old receipt under the profile of the new one, with the number of the new one
  have hnew : ∀ family id receipt, receiptOf document family id = some receipt →
      receipt.get "csca_profile_id" = some (.string input.cscaProfileId) →
      (receiptSerial receipt).bind serialNumber ≠ serialNumber input.serialHex := by
    intro family id receipt hget hprofile heq
    obtain ⟨cscaProfileId, serial, hprofile', hserial, hvalid, hold⟩ :=
      hreserved family id receipt hget
    rw [hprofile] at hprofile'
    cases hprofile'
    rw [hserial, Option.bind_some] at heq
    have hmem := mem_issuedSerials hget
      (show _ = some input.cscaProfileId by rw [hprofile]; rfl) hserial
    have hfamily : family ∈ [CertificateFamily.icao, .mdoc] := by cases family <;> decide
    obtain ⟨rfl, rfl⟩ := hpermitted family hfamily serial hmem
      (serialBytes_eq hvalid h.valid heq)
    have hunreserved := h.unreserved
    rw [DscIssuanceInput.serialId, hold] at hunreserved
    cases hunreserved
  obtain ⟨hprofile, hserial⟩ := newReceipt_serial claim input now
  intro family id receipt family' id' receipt' hget hget' hsame hnumber
  rw [h.receipts] at hget hget'
  split at hget
  · next hkey =>
      cases hget
      split at hget'
      · next hkey' => exact ⟨hkey.1.trans hkey'.1.symm, hkey.2.trans hkey'.2.symm⟩
      · rw [hprofile] at hsame
        rw [hserial, Option.bind_some] at hnumber
        exact absurd hnumber.symm (hnew family' id' receipt' hget' hsame.symm)
  · split at hget'
    · cases hget'
      rw [hprofile] at hsame
      rw [hserial, Option.bind_some] at hnumber
      exact absurd hnumber (hnew family id receipt hget hsame)
    · exact hdistinct family id receipt family' id' receipt' hget hget' hsame hnumber

/-! ## Runs -/

/-- What holds of the certificate document, and of what the callers have been told. -/
structure DscInv {ι : Type} (c : Config (DscRedis β) ι (DscCaller codec)) : Prop where
  promised : ∀ i, Promised (certificatesOf codec c.store.certificates) (c.calls i)
  reserved : SerialsReserved (certificatesOf codec c.store.certificates)
  distinct : SerialsDistinct (certificatesOf codec c.store.certificates)

/-- What later states keep of the certificate document. -/
def DocumentKept {ι : Type} (c c' : Config (DscRedis β) ι (DscCaller codec)) : Prop :=
  ReceiptsKept (certificatesOf codec c.store.certificates)
      (certificatesOf codec c'.store.certificates) ∧
    AttachmentsKept (certificatesOf codec c.store.certificates)
      (certificatesOf codec c'.store.certificates)

variable {ι : Type} [DecidableEq ι]

theorem dscMachine_next {c c' : Config (DscRedis β) ι (DscCaller codec)} {i : ι}
    {e : DscEvent β} (h : DscInv c) (hpermitted : PermittedStep c i e)
    (hnext : (dscMachine containsPrivateKey codec receiptIdOf organizationId ι).next c i e
      = some c') :
    DscInv c' ∧ DocumentKept c c' := by
  obtain ⟨redis, caller, hstep, rfl⟩ := Machine.next_eq_some.mp hnext
  obtain ⟨heffect, hpromised⟩ := dscStep_effect (h.promised i) hstep
  have hcalls : ReceiptsKept (certificatesOf codec c.store.certificates)
      (certificatesOf codec redis.certificates) →
      ∀ j, Promised (certificatesOf codec redis.certificates)
        (Function.update c.calls i caller j) := by
    intro hkept j
    by_cases hj : j = i
    · subst hj
      rwa [Function.update_self]
    · rw [Function.update_of_ne hj]
      exact (h.promised j).kept hkept
  cases heffect with
  | same certificates =>
      rw [certificates] at hcalls
      refine ⟨⟨?_, ?_, ?_⟩, ?_, ?_⟩
      · dsimp only
        rw [certificates]
        exact hcalls (ReceiptsKept.refl _)
      · dsimp only
        rw [certificates]
        exact h.reserved
      · dsimp only
        rw [certificates]
        exact h.distinct
      · dsimp only
        rw [certificates]
        exact ReceiptsKept.refl _
      · dsimp only
        rw [certificates]
        exact AttachmentsKept.refl _
  | committed event claimed read unchanged leased pending effect =>
      subst event
      exact ⟨⟨hcalls effect.receiptsKept, effect.reserved h.reserved,
        effect.distinct h.reserved h.distinct hpermitted⟩, effect.receiptsKept,
        effect.attachmentsKept⟩

omit [DecidableEq β] in
theorem receiptOf_withoutLedgers (certificates : Option Map) (family : CertificateFamily)
    (id : String) :
    receiptOf (certificatesOf codec (certificates.map fun object =>
      codec.write (.object (withoutLedgers object)))) family id = none := by
  cases certificates with
  | none => rfl
  | some object =>
      rw [Option.map_some, certificatesOf, Option.bind_some, codec.read_write, Option.getD_some]
      rw [receiptOf, Json.Value.get_object, withoutLedgers]
      simp only [Map.get_remove]
      cases family <;> simp [CertificateFamily.receipts, CertificateFamily.serials]

omit [DecidableEq β] [DecidableEq ι] in
theorem dscStart_inv (certificates : Option Map) :
    DscInv (dscStart codec ι certificates) := by
  refine ⟨fun _ => ⟨nofun, nofun, nofun⟩, ?_, ?_⟩
  · intro family id receipt hget
    rw [dscStart, receiptOf_withoutLedgers] at hget
    cases hget
  · intro family id receipt family' id' receipt' hget
    rw [dscStart, receiptOf_withoutLedgers] at hget
    cases hget

/-- **Issuance is idempotent, and no serial is used twice**, as long as no serial is spelled
in two ways and none is used by both families under one profile.  A receipt is never changed
or lost, and every result that a call returns is that of the receipt of its key, made for its
request; a certificate that a profile has stays the same one; the certificate document changes
only by a commit, which finds the documents of its snapshot, its lease and its claim, and adds
the receipt; and the receipts under one profile are for different numbers. -/
theorem issuance_idempotent {certificates : Option Map} {t u : List (ι × DscEvent β)}
    {c c' : Config (DscRedis β) ι (DscCaller codec)}
    (ht : (dscMachine containsPrivateKey codec receiptIdOf organizationId ι).run
      (dscStart codec ι certificates) t = some c)
    (hu : (dscMachine containsPrivateKey codec receiptIdOf organizationId ι).run c u = some c')
    (hpermitted : (dscMachine containsPrivateKey codec receiptIdOf organizationId ι).Guarded
      PermittedStep (dscStart codec ι certificates) t)
    (hpermitted' : (dscMachine containsPrivateKey codec receiptIdOf organizationId ι).Guarded
      PermittedStep c u) :
    ReceiptsKept (certificatesOf codec c.store.certificates)
      (certificatesOf codec c'.store.certificates) ∧
    AttachmentsKept (certificatesOf codec c.store.certificates)
      (certificatesOf codec c'.store.certificates) ∧
    (∀ i answer outcome, (c'.calls i).answer = some answer → answer.outcome = .ok outcome →
      outcome.Kept (certificatesOf codec c'.store.certificates) answer.request) ∧
    (∀ i e c'', (dscMachine containsPrivateKey codec receiptIdOf organizationId ι).next c' i e
        = some c'' →
      DscEffect codec organizationId c'.store c''.store (c'.calls i) e) ∧
    SerialsDistinct (certificatesOf codec c'.store.certificates) := by
  have hinv : DscInv c :=
    Machine.guarded_induct (fun _ _ _ _ h hg hnext => (dscMachine_next h hg hnext).1)
      (dscStart_inv certificates) hpermitted ht
  obtain ⟨hinv', hkept⟩ := Machine.guarded_induct_rel (R := DocumentKept)
    (fun _ => ⟨ReceiptsKept.refl _, AttachmentsKept.refl _⟩)
    (fun _ _ _ hab hbc => ⟨hab.1.trans hbc.1, hab.2.trans hbc.2⟩)
    (fun _ _ _ _ h hg hnext => dscMachine_next h hg hnext) hinv hpermitted' hu
  refine ⟨hkept.1, hkept.2, ?_, ?_, hinv'.distinct⟩
  · intro i
    exact (hinv'.promised i).answer
  · intro i e c'' hnext
    obtain ⟨redis, caller, hstep, rfl⟩ := Machine.next_eq_some.mp hnext
    exact (dscStep_effect (hinv'.promised i) hstep).1

end

namespace Example

/-- Documents that are kept as they are. -/
def codec : JsonCodec Value := ⟨some, id, fun _ => rfl⟩

def machine : Machine (DscRedis Value) (Fin 2) (DscEvent Value) (DscCaller codec) :=
  dscMachine (fun _ => false) codec (fun key => "receipt-" ++ key) "org" (Fin 2)

def start : Config (DscRedis Value) (Fin 2) (DscCaller codec) := dscStart codec (Fin 2) none

def lease : Registry.RotationLease := ⟨rotationLeaseKey "org", "owner"⟩

def certificate (dscProfileId serialHex : String) : DscIssuanceInput where
  dscProfileId := dscProfileId
  cscaProfileId := "csca"
  cscaCertificateId := "csca-1"
  actorId := "operator"
  serialHex := serialHex
  attachment := .object [("cert_pem", .string dscProfileId), ("cert_chain_pem", .string "")]
  publicResult := .object [("certificate_pem", .string dscProfileId), ("chain_pem", .string "")]

/-- One caller claims a key, reads the documents, and commits. -/
def issue (caller : Fin 2) (key dscProfileId serialHex : String) (delivery : Delivery) :
    List (Fin 2 × DscEvent Value) :=
  [(caller, .begin .icao key "digest" .answered), (caller, .claim ("owner-" ++ key) .answered),
    (caller, .recheck .answered), (caller, .snapshot .icao .answered),
    (caller, .commit .icao lease (certificate dscProfileId serialHex) "now" delivery)]

def result (caller : DscCaller codec) : Option Value :=
  match caller.answer with
  | some ⟨_, .ok (.completed result)⟩ | some ⟨_, .ok (.committed result)⟩ => some result
  | _ => none

def issued (c : Config (DscRedis Value) (Fin 2) (DscCaller codec)) : List String :=
  issuedSerials (certificatesOf codec c.store.certificates) .icao "csca"

/-- The first caller loses the reply to its commit; the second one is given the result. -/
def lostReply : List (Fin 2 × DscEvent Value) :=
  [(0, .lease lease.key (some lease.owner))] ++ issue 0 "k" "dsc" "0a" .lost ++
    [(1, .begin .icao "k" "digest" .answered)]

theorem issuance_of_lostReply :
    ∃ c c', machine.run start (lostReply.take 6) = some c ∧
      machine.run c (lostReply.drop 6) = some c' ∧
      ReceiptsKept (certificatesOf codec c.store.certificates)
        (certificatesOf codec c'.store.certificates) ∧
      SerialsDistinct (certificatesOf codec c'.store.certificates) ∧
      issued c' = ["0a"] ∧ result (c'.calls 0) = none ∧
      result (c'.calls 1) = some (certificate "dsc" "0a").publicResult := by
  have hrun : (machine.run start (lostReply.take 6)).bind (fun c =>
      if machine.Guarded PermittedStep c (lostReply.drop 6) then
        (machine.run c (lostReply.drop 6)).map
          fun c' => (issued c', result (c'.calls 0), result (c'.calls 1)) else none) =
      some (["0a"], none, some (certificate "dsc" "0a").publicResult) := by
    decide +kernel
  obtain ⟨c, hc, hobserved⟩ := Option.bind_eq_some_iff.mp hrun
  rw [Option.ite_none_right_eq_some] at hobserved
  obtain ⟨c', hc', heq⟩ := Option.map_eq_some_iff.mp hobserved.2
  rw [Prod.mk.injEq, Prod.mk.injEq] at heq
  obtain ⟨hkept, -, -, -, hdistinct⟩ := issuance_idempotent hc hc' (by decide +kernel) hobserved.1
  exact ⟨c, c', hc, hc', hkept, hdistinct, heq⟩

/-- One number in two spellings is used for two receipts. -/
theorem serial_used_twice :
    (machine.run start ([(0, .lease lease.key (some lease.owner))] ++
        issue 0 "k1" "dsc-1" "0a" .answered ++ [(0, .release .answered)] ++
        issue 0 "k2" "dsc-2" "0A" .answered ++ [(0, .release .answered)])).map
      (fun c => (issued c, result (c.calls 0)))
      = some (["0a", "0A"], some (certificate "dsc-2" "0A").publicResult) ∧
    serialNumber "0a" = some 10 ∧ serialNumber "0A" = some 10 := by
  decide +kernel

end Example

end Marty.SigningKeys.Dsc
