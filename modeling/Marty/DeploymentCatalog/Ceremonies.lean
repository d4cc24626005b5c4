import Marty.DeploymentCatalog.Generations

/-!
# Ceremonies of renewal

What the comparison of two generations accepts is a renewal: the same files with the same
permissions, in which exactly the inputs of the ceremony differ, and the certificate authority
only by an overlap or by a retirement.  What is staged is accepted.

## Main definitions

* `generation` — the values of a directory.
* `Renewal` — how a generation differs from the one before it.

## Main results

* `verify_iff` — the comparison accepts the renewals and nothing else.
* `ca_rotation` — overlap and retirement, and the agreement of staging and verification.
-/

namespace Marty.DeploymentCatalog

open Lib Lib.Checked Lib.Markers

/-! ## One file -/

theorem verifyOverlap_eq_ok {before after : Bytes} :
    verifyOverlap before after = .ok () ↔ ∃ issuer, overlap before issuer = .ok after := by
  simp only [verifyOverlap, bind_eq_ok, okOr_eq_ok, mapError_eq_ok, rejectIf_eq_ok, not_not,
    stripPrefix_eq_some]
  constructor
  · rintro ⟨issuer, -, joined, hjoined, rfl⟩
    exact ⟨issuer, hjoined⟩
  · rintro ⟨issuer, h⟩
    obtain ⟨-, -, -, hafter⟩ := overlap_eq_ok.mp h
    obtain ⟨-, hdrop, hagain⟩ := overlap_split h
    refine ⟨trimmed issuer ++ [newline], ?_, after, ?_, rfl⟩
    · rw [hafter, List.append_assoc]
    · obtain ⟨hold, hnew, hne, -⟩ := overlap_eq_ok.mp h
      refine overlap_eq_ok.mpr ⟨hold, ?_, ?_, ?_⟩
      · rw [singlePem_congr (trimmed_append_newline _), hnew]
      · rw [trimmed_append_newline]
        exact hne
      · rw [trimmed_append_newline, hafter]

theorem verifyRetirement_eq_ok {before after : Bytes} :
    verifyRetirement before after = .ok () ↔ retire before = .ok after := by
  simp only [verifyRetirement, bind_eq_ok, rejectIf_eq_ok, ne_eq, not_not]
  constructor
  · rintro ⟨kept, hkept, rfl⟩
    exact hkept
  · intro h
    exact ⟨after, h, rfl⟩

theorem inCase_eq_ok {c : Prop} [Decidable c] {check : Except String Unit} :
    inCase c check = .ok () ↔ (c → check = .ok ()) := by
  by_cases h : c <;> simp [inCase, h]

/-- How a file of a generation differs from the file before it. -/
structure FileRenewal (caOverlap caRetire : Bool) (name : String) (before after : Payload) :
    Prop where
  mode : before.2 = after.2
  changed : before.1 ≠ after.1 ↔ renews caOverlap caRetire name = true
  overlapped : name = CA → caOverlap = true → ∃ issuer, overlap before.1 issuer = .ok after.1
  retired : name = CA → caRetire = true → retire before.1 = .ok after.1

theorem verifyEntry_iff {caOverlap caRetire : Bool} {new : Payloads} {name : String}
    {before : Payload} :
    (∃ count, verifyEntry caOverlap caRetire new (name, before) = .ok count) ↔
      ∃ after, new.get name = some after ∧ FileRenewal caOverlap caRetire name before after := by
  have hchange (p : Prop) [Decidable p] (b : Bool) : ¬ decide p ≠ b ↔ (p ↔ b = true) := by
    cases b <;> simp
  simp only [verifyEntry, bind_eq_ok, okOr_eq_ok, rejectIf_eq_ok, exists_unit, inCase_eq_ok,
    hchange, not_not, verifyOverlap_eq_ok, verifyRetirement_eq_ok, ne_eq]
  constructor
  · rintro ⟨count, after, hafter, hmode, hchanged, hoverlap, hretire, -⟩
    exact ⟨after, hafter, hmode, hchanged, fun hname hflag => hoverlap ⟨hname, hflag⟩,
      fun hname hflag => hretire ⟨hname, hflag⟩⟩
  · rintro ⟨after, hafter, h⟩
    exact ⟨_, after, hafter, h.mode, h.changed, fun hboth => h.overlapped hboth.1 hboth.2,
      fun hboth => h.retired hboth.1 hboth.2, rfl⟩

/-! ## Distinct tokens -/

/-- The tokens of the scopes are there, and no two of them are equal. -/
structure TokensDistinct (values : Payloads) (tokens : List String) : Prop where
  present : ∀ name ∈ tokens, (values.get name).isSome
  distinct : (tokens.map fun name => (values.get name).map Prod.fst).Nodup

theorem insertToken_eq_ok {values : Payloads} {found bytes : List Bytes} {name : String} :
    insertToken values found name = .ok bytes ↔
      ∃ payload, values.get name = some payload ∧ payload.1 ∉ found ∧
        bytes = payload.1 :: found := by
  simp only [insertToken, bind_eq_ok, okOr_eq_ok, rejectIf_eq_ok, exists_unit]
  constructor
  · rintro ⟨payload, hpayload, hfresh, h⟩
    exact ⟨payload, hpayload, hfresh, (Except.ok.inj h).symm⟩
  · rintro ⟨payload, hpayload, hfresh, rfl⟩
    exact ⟨payload, hpayload, hfresh, rfl⟩

theorem tokensFound_iff {values : Payloads} {tokens : List String} {found : List Bytes} :
    (∃ bytes, tokens.foldlM (insertToken values) found = .ok bytes) ↔
      TokensDistinct values tokens ∧
        ∀ name ∈ tokens, ∀ payload, values.get name = some payload → payload.1 ∉ found := by
  induction tokens generalizing found with
  | nil =>
      constructor
      · intro _
        exact ⟨⟨by simp, by simp⟩, by simp⟩
      · intro _
        exact ⟨found, rfl⟩
  | cons name tokens ih =>
      constructor
      · rintro ⟨bytes, h⟩
        rw [List.foldlM_cons, bind_eq_ok] at h
        obtain ⟨next, hnext, hrest⟩ := h
        obtain ⟨payload, hpayload, hfresh, rfl⟩ := insertToken_eq_ok.mp hnext
        obtain ⟨hdistinct, hapart⟩ := ih.mp ⟨bytes, hrest⟩
        refine ⟨⟨?_, ?_⟩, ?_⟩
        · intro other hother
          rcases List.mem_cons.mp hother with rfl | hother
          · rw [hpayload]
            rfl
          · exact hdistinct.present other hother
        · rw [List.map_cons, List.nodup_cons]
          refine ⟨?_, hdistinct.distinct⟩
          intro hmem
          obtain ⟨other, hother, heq⟩ := List.mem_map.mp hmem
          rw [hpayload, Option.map_some] at heq
          obtain ⟨payload', hpayload', hsame⟩ := Option.map_eq_some_iff.mp heq
          exact hapart other hother payload' hpayload' (hsame ▸ List.mem_cons_self)
        · intro other hother payload' hpayload'
          rcases List.mem_cons.mp hother with rfl | hother
          · cases hpayload.symm.trans hpayload'
            exact hfresh
          · exact fun hmem => hapart other hother payload' hpayload' (List.mem_cons_of_mem _ hmem)
      · rintro ⟨⟨hpresent, hdistinct⟩, hfresh⟩
        obtain ⟨payload, hpayload⟩ := Option.isSome_iff_exists.mp (hpresent name List.mem_cons_self)
        rw [List.map_cons, List.nodup_cons] at hdistinct
        have hrest : TokensDistinct values tokens :=
          ⟨fun other hother => hpresent other (List.mem_cons_of_mem name hother), hdistinct.2⟩
        obtain ⟨bytes, hbytes⟩ := (@ih (payload.1 :: found)).mpr ⟨hrest, by
          intro other hother payload' hpayload' hmem
          rcases List.mem_cons.mp hmem with heq | hmem
          · refine hdistinct.1 (List.mem_map.mpr ⟨other, hother, ?_⟩)
            rw [hpayload', hpayload, Option.map_some, Option.map_some, heq]
          · exact hfresh other (List.mem_cons_of_mem name hother) payload' hpayload' hmem⟩
        refine ⟨bytes, ?_⟩
        have hfirst := hfresh name List.mem_cons_self payload hpayload
        rw [List.foldlM_cons, bind_eq_ok]
        exact ⟨_, insertToken_eq_ok.mpr ⟨payload, hpayload, hfirst, rfl⟩, hbytes⟩

theorem tokensDistinct_eq_ok {values : Payloads} {tokens : BTreeSet String} :
    tokensDistinct values tokens = .ok () ↔ TokensDistinct values (BTreeSet.toList tokens) := by
  have hfound := @tokensFound_iff values (BTreeSet.toList tokens) []
  simp only [tokensDistinct, bind_eq_ok]
  constructor
  · rintro ⟨bytes, h, -⟩
    exact (hfound.mp ⟨bytes, h⟩).1
  · intro h
    obtain ⟨bytes, hbytes⟩ := hfound.mpr ⟨h, fun _ _ _ _ => List.not_mem_nil⟩
    exact ⟨bytes, hbytes, rfl⟩

/-! ## Two generations -/

/-- The values of the files of a directory. -/
def generation (fs : FileSystem) (path : String) : Except String Payloads := do
  let root ← directory fs path false
  let files ← entries fs root
  payloads fs files

/-- How a generation differs from the one before it: in the inputs of the ceremony. -/
structure Renewal (caOverlap caRetire : Bool) (old new : Payloads) : Prop where
  names : old.keys = new.keys
  present : ∀ name ∈ BTreeSet.toList renewable, name ∈ old.keys
  files : ∀ name before after, old.get name = some before → new.get name = some after →
    FileRenewal caOverlap caRetire name before after
  tokens : TokensDistinct new (BTreeSet.toList inventories.tokens)

theorem keys_payloads {fs : FileSystem} {files : Files} {values : Payloads}
    (h : payloads fs files = .ok values) : values.keys = files.keys := by
  simp only [payloads, bind_eq_ok] at h
  obtain ⟨pairs, hpairs, hvalues⟩ := h
  have hkeys : pairs.map Prod.fst = files.keys := by
    refine @map_mapEach _ _ _ _ _ Prod.fst Prod.fst (fun file pair hpair => ?_) _ _ hpairs
    simp only [bind_eq_ok] at hpair
    obtain ⟨payload, -, hpair⟩ := hpair
    exact congrArg Prod.fst (Except.ok.inj hpair).symm
  have hentries : values.entries = pairs := by
    rw [← Except.ok.inj hvalues]
    exact BTreeMap.entries_ofEntries (hkeys ▸ files.sorted)
  rw [BTreeMap.keys, hentries, hkeys]

/-- **The files are compared one by one.** -/
theorem verifyEntries_iff {caOverlap caRetire : Bool} {old new : Payloads}
    (hnames : old.keys = new.keys) :
    (∃ changes, mapEach (verifyEntry caOverlap caRetire new) old.entries = .ok changes) ↔
      ∀ name before after, old.get name = some before → new.get name = some after →
        FileRenewal caOverlap caRetire name before after := by
  rw [exists_mapEach]
  constructor
  · intro h name before after hbefore hafter
    obtain ⟨after', hafter', hrenewal⟩ :=
      verifyEntry_iff.mp (h (name, before) ((BTreeMap.get_eq_some _ _ _).mp hbefore))
    cases hafter.symm.trans hafter'
    exact hrenewal
  · rintro h ⟨name, before⟩ hentry
    have hbefore := (BTreeMap.get_eq_some _ _ _).mpr hentry
    have hname : name ∈ new.keys := by
      rw [← hnames, BTreeMap.mem_keys, hbefore]
      rfl
    obtain ⟨after, hafter⟩ := Option.isSome_iff_exists.mp ((BTreeMap.mem_keys _ _).mp hname)
    exact verifyEntry_iff.mpr ⟨after, hafter, h name before after hbefore hafter⟩

/-- **The comparison accepts the renewals** between two directories, and nothing else. -/
theorem verify_iff {fs : FileSystem} {current candidate : String} {caOverlap caRetire : Bool} :
    (∃ counts, verify fs current candidate caOverlap caRetire = .ok counts) ↔
      ¬ (caOverlap = true ∧ caRetire = true) ∧
      directory fs current false ≠ directory fs candidate false ∧
      ∃ old new, generation fs current = .ok old ∧ generation fs candidate = .ok new ∧
        Renewal caOverlap caRetire old new := by
  simp only [verify, generation, bind_eq_ok, rejectIf_eq_ok, exists_unit]
  constructor
  · rintro ⟨counts, hflags, currentRoot, hcurrent, candidateRoot, hcandidate, hdistinct, oldFiles,
      holdFiles, newFiles, hnewFiles, hinventory, old, hold, new, hnew, changes, hchanges,
      htokens, -⟩
    rw [not_or, not_not, not_not] at hinventory
    have hnames : old.keys = new.keys := by
      rw [keys_payloads hold, keys_payloads hnew]
      exact hinventory.1
    refine ⟨hflags, ?_, old, new, ⟨currentRoot, hcurrent, oldFiles, holdFiles, hold⟩,
      ⟨candidateRoot, hcandidate, newFiles, hnewFiles, hnew⟩, hnames, ?_,
      (verifyEntries_iff hnames).mp ⟨changes, hchanges⟩, tokensDistinct_eq_ok.mp htokens⟩
    · rw [hcurrent, hcandidate]
      exact fun heq => hdistinct (Except.ok.inj heq)
    · intro name hname
      rw [keys_payloads hold]
      exact (BTreeMap.mem_keys _ _).mpr (hinventory.2 name hname)
  · rintro ⟨hflags, hdistinct, old, new, ⟨currentRoot, hcurrent, oldFiles, holdFiles, hold⟩,
      ⟨candidateRoot, hcandidate, newFiles, hnewFiles, hnew⟩, hrenewal⟩
    obtain ⟨changes, hchanges⟩ := (verifyEntries_iff hrenewal.names).mpr hrenewal.files
    refine ⟨_, hflags, currentRoot, hcurrent, candidateRoot, hcandidate, ?_, oldFiles, holdFiles,
      newFiles, hnewFiles, ?_, old, hold, new, hnew, changes, hchanges,
      tokensDistinct_eq_ok.mpr hrenewal.tokens, rfl⟩
    · rw [hcurrent, hcandidate] at hdistinct
      exact fun heq => hdistinct (congrArg _ heq)
    · rw [not_or, not_not, not_not]
      refine ⟨?_, fun name hname => ?_⟩
      · rw [← keys_payloads hold, ← keys_payloads hnew]
        exact hrenewal.names
      · have hkey := hrenewal.present name hname
        rw [keys_payloads hold] at hkey
        exact (BTreeMap.mem_keys _ _).mp hkey

/-! ## What is staged -/

@[simp] theorem canonicalize_modify (fs : FileSystem) (root : String)
    (f : BTreeMap String Entry → BTreeMap String Entry) :
    (fs.modify root f).canonicalize = fs.canonicalize := rfl

theorem canonicalize_createFile {fs fs' : FileSystem} {path : FilePath} {payload : Payload}
    (h : createFile fs path payload = .ok fs') : fs'.canonicalize = fs.canonicalize := by
  simp only [createFile, bind_eq_ok, exists_unit] at h
  obtain ⟨d, -, -, h⟩ := h
  rw [← Except.ok.inj h, canonicalize_modify]

theorem canonicalize_writeFiles {output : String} {values : List (String × Payload)}
    {fs : FileSystem} : (writeFiles fs output values).1.canonicalize = fs.canonicalize := by
  induction values generalizing fs with
  | nil => rfl
  | cons value values ih =>
      obtain ⟨name, payload⟩ := value
      rw [writeFiles]
      split
      · rfl
      · split
        case h_1 => rfl
        case h_2 fs' hcreated => exact ih.trans (canonicalize_createFile hcreated)

/-- A path and its canonical path are one directory. -/
theorem directory_root {fs : FileSystem} {path root : String}
    (h : fs.canonicalize path = some root) : directory fs root false = directory fs path false := by
  simp only [directory, privateDirectory, h, fs.canonical path root h]

theorem canonicalize_of_directory {fs : FileSystem} {path root : String} {empty : Bool}
    (h : directory fs path empty = .ok root) : fs.canonicalize path = some root := by
  simp only [directory, bind_eq_ok, okOr_eq_ok, exists_unit] at h
  obtain ⟨found, hfound, -, hroot⟩ := h
  rw [← Except.ok.inj hroot]
  exact (Option.filter_eq_some_iff.mp hfound).1

/-- What is written has been compared with the generation before it. -/
theorem verify_of_write {fs fs' : FileSystem} {values : Payloads} {current output : String}
    {caOverlap caRetire : Bool} {count : Nat}
    (h : write fs values current output caOverlap caRetire = (fs', .ok count)) :
    fs'.canonicalize = fs.canonicalize ∧
      ∃ counts, verify fs' current output caOverlap caRetire = .ok counts := by
  have hcanonical := @canonicalize_writeFiles output values.entries fs
  simp only [write] at h
  generalize writeFiles fs output values.entries = result at h hcanonical
  obtain ⟨written, created, error⟩ := result
  cases error with
  | some e => cases h
  | none =>
      cases hverify : verify written current output caOverlap caRetire with
      | error e =>
          simp only [hverify, Except.map] at h
          cases h
      | ok counts =>
          simp only [hverify, Except.map] at h
          cases h
          exact ⟨hcanonical, counts, hverify⟩

/-- A comparison of two roots is one of the paths that lead to them. -/
theorem verify_roots {fs : FileSystem} {current output currentRoot outputRoot : String}
    (hcurrent : fs.canonicalize current = some currentRoot)
    (houtput : fs.canonicalize output = some outputRoot) (caOverlap caRetire : Bool) :
    verify fs currentRoot outputRoot caOverlap caRetire =
      verify fs current output caOverlap caRetire := by
  rw [verify, verify, directory_root hcurrent, directory_root houtput]

theorem verify_of_stage {host : Host} {fs fs' : FileSystem}
    {current tls keycloak output : String} {caOverlap : Bool} {count : Nat}
    (h : stage host fs current tls keycloak output caOverlap = (fs', .ok count)) :
    ∃ counts, verify fs' current output caOverlap false = .ok counts := by
  rw [stage] at h
  cases hprepare : prepare host fs current tls keycloak output caOverlap with
  | error e =>
      rw [hprepare] at h
      cases h
  | ok staged =>
      rw [hprepare] at h
      obtain ⟨hcanonical, counts, hverify⟩ := verify_of_write h
      simp only [prepare, bind_eq_ok, exists_unit] at hprepare
      obtain ⟨currentRoot, hcurrent, _, -, _, -, outputRoot, houtput, -, _, -, _, -, -, _, -, _, -,
        _, -, -, -, -, -, _, -, _, -, -, hstaged⟩ := hprepare
      cases hstaged
      have hcurrent' := (congrFun hcanonical current).trans (canonicalize_of_directory hcurrent)
      have houtput' := (congrFun hcanonical output).trans (canonicalize_of_directory houtput)
      exact ⟨counts, (verify_roots hcurrent' houtput' caOverlap false) ▸ hverify⟩

theorem verify_of_stageRetired {host : Host} {fs fs' : FileSystem} {current output : String}
    {count : Nat} (h : stageRetired host fs current output = (fs', .ok count)) :
    ∃ counts, verify fs' current output false true = .ok counts := by
  rw [stageRetired] at h
  cases hprepare : prepareRetired host fs current output with
  | error e =>
      rw [hprepare] at h
      cases h
  | ok staged =>
      rw [hprepare] at h
      obtain ⟨hcanonical, counts, hverify⟩ := verify_of_write h
      simp only [prepareRetired, bind_eq_ok, exists_unit] at hprepare
      obtain ⟨currentRoot, hcurrent, outputRoot, houtput, -, _, -, -, _, -, -, _, -, _, -, _, -,
        hstaged⟩ := hprepare
      cases hstaged
      have hcurrent' := (congrFun hcanonical current).trans (canonicalize_of_directory hcurrent)
      have houtput' := (congrFun hcanonical output).trans (canonicalize_of_directory houtput)
      exact ⟨counts, (verify_roots hcurrent' houtput' false true) ▸ hverify⟩

/-! ## The rotation of a certificate authority -/

/-- What is promised of the ceremonies. -/
structure CaRotation : Prop where
  /-- Two certificates of different content overlap, and the retirement leaves the newer one. -/
  retired : ∀ old new, singlePem old = true → singlePem new = true → trimmed old ≠ trimmed new →
    ∃ bundle, overlap old new = .ok bundle ∧ retire bundle = .ok (trimmed new ++ [newline])
  /-- What is retired are the bundles of an overlap. -/
  images : ∀ bundle, (∃ kept, retire bundle = .ok kept) ↔
    ∃ old new, overlap old new = .ok bundle
  refused : ∀ old new, trimmed old = trimmed new → ∀ bundle, overlap old new ≠ .ok bundle
  staged : ∀ host fs current tls keycloak output caOverlap fs' count,
    stage host fs current tls keycloak output caOverlap = (fs', .ok count) →
      ∃ counts, verify fs' current output caOverlap false = .ok counts
  staged_retired : ∀ host fs current output fs' count,
    stageRetired host fs current output = (fs', .ok count) →
      ∃ counts, verify fs' current output false true = .ok counts
  /-- What is accepted differs in the inputs of the ceremony, and in nothing else. -/
  accepted : ∀ fs current candidate caOverlap caRetire counts,
    verify fs current candidate caOverlap caRetire = .ok counts →
      ∃ old new, generation fs current = .ok old ∧ generation fs candidate = .ok new ∧
        Renewal caOverlap caRetire old new

/-- **A rotation by overlap loses no trust anchor** and changes nothing else. -/
theorem ca_rotation : CaRotation where
  retired := fun old new hold hnew hne => by
    have hbundle := overlap_eq_ok.mpr ⟨hold, hnew, hne, rfl⟩
    exact ⟨_, hbundle, retire_eq_ok.mpr ⟨old, new, hbundle, rfl⟩⟩
  images := fun bundle => by
    constructor
    · rintro ⟨kept, hkept⟩
      obtain ⟨old, new, h, -⟩ := retire_eq_ok.mp hkept
      exact ⟨old, new, h⟩
    · rintro ⟨old, new, h⟩
      exact ⟨_, retire_eq_ok.mpr ⟨old, new, h, rfl⟩⟩
  refused := fun _ _ hsame _ h => (overlap_eq_ok.mp h).2.2.1 hsame
  staged := fun _ _ _ _ _ _ _ _ _ => verify_of_stage
  staged_retired := fun _ _ _ _ _ _ => verify_of_stageRetired
  accepted := fun _ _ _ _ _ counts h => (verify_iff.mp ⟨counts, h⟩).2.2

namespace Example

/-- The only line of a certificate. -/
def certificate (body : String) : Bytes := beginLine ++ ascii body ++ endLine ++ [newline]

def bundle : Bytes := trimmed (certificate "AAAA") ++ [newline] ++ certificate "BBBB"

/-- Every input has a value of its own. -/
def value (ca : Bytes) (name : String) : Bytes :=
  if name = CA then ca else List.replicate ((BTreeSet.toList renewable).idxOf name + 1) 65

def files (names : BTreeSet String) (ca : Bytes) : BTreeMap String Entry :=
  BTreeMap.mapEntries (fun name _ => .file (value ca name) 0o600) names

def values (names : BTreeSet String) (ca : Bytes) : Payloads :=
  BTreeMap.mapEntries (fun name _ => (value ca name, 0o600)) names

/-- The bundle of an overlap, and the newer certificate of it. -/
def fs : FileSystem where
  canonicalize path := if path = "/old" ∨ path = "/new" then some path else none
  directories path :=
    if path = "/old" then some ⟨0o700, 0, files renewable bundle⟩
    else if path = "/new" then some ⟨0o700, 0, files renewable (certificate "BBBB")⟩ else none
  canonical path root h := by
    split at h
    case isTrue hpath =>
        cases h
        exact if_pos hpath
    case isFalse => cases h

theorem retire_bundle : retire bundle = .ok (certificate "BBBB") := by
  have hold : singlePem (certificate "AAAA") = true := by decide +kernel
  have hnew : singlePem (certificate "BBBB") = true := by decide +kernel
  have hne : trimmed (certificate "AAAA") ≠ trimmed (certificate "BBBB") := by decide +kernel
  have hkept : trimmed (certificate "BBBB") ++ [newline] = certificate "BBBB" := by
    rw [certificate, trimmed_append_newline]
  refine retire_eq_ok.mpr ⟨certificate "AAAA", certificate "BBBB",
    overlap_eq_ok.mpr ⟨hold, hnew, hne, ?_⟩, hkept.symm⟩
  rw [List.append_assoc _ (trimmed (certificate "BBBB")), hkept]
  rfl

theorem length_renewable :
    (BTreeSet.toList renewable).length ≤ tlsNames.length + keycloakNames.length := by
  have hall := BTreeSet.length_ofList_le
    (BTreeSet.toList (.ofList tlsNames) ++ BTreeSet.toList (.ofList keycloakNames))
  rw [List.length_append] at hall
  rw [renewable, inventories]
  exact hall.trans (Nat.add_le_add (BTreeSet.length_ofList_le tlsNames)
    (BTreeSet.length_ofList_le keycloakNames))

theorem length_names : tlsNames.length + keycloakNames.length = 40 := rfl

/-- What a generation may hold of this length. -/
def Readable (value : Bytes) : Prop :=
  value.length ≤ maxInput ∧ value ≠ [] ∧ 0 ∉ value ∧ ¬ ascii "PRIVATE KEY" <:+: value

instance (value : Bytes) : Decidable (Readable value) := inferInstanceAs (Decidable (_ ∧ _))

theorem readable_value {ca : Bytes} (hca : Readable ca) {name : String} (hname : name ∈ renewable) :
    Readable (value ca name) := by
  rw [value]
  split
  case isTrue => exact hca
  case isFalse =>
      have hindex := List.idxOf_lt_length_of_mem ((BTreeSet.mem_def _ _).mp hname)
      have hbound := length_renewable
      rw [length_names] at hbound
      refine ⟨?_, by simp, ?_, ?_⟩
      · rw [List.length_replicate]
        exact (Nat.succ_le_of_lt hindex).trans (hbound.trans (by decide))
      · intro hzero
        have := List.eq_of_mem_replicate hzero
        revert this
        decide
      · intro hinner
        have hletter : (80 : UInt8) ∈ ascii "PRIVATE KEY" := by decide +kernel
        have := List.eq_of_mem_replicate (hinner.subset hletter)
        revert this
        decide

theorem directory_fs {path : String} {entries : BTreeMap String Entry}
    (hpath : fs.canonicalize path = some path)
    (hfiles : fs.directories path = some ⟨0o700, 0, entries⟩) :
    directory fs path false = .ok path := by
  have hprivate : privateDirectory fs path = some path := by
    simp [privateDirectory, hpath, hfiles]
  simp only [directory, bind_eq_ok, okOr_eq_ok, rejectIf_eq_ok, exists_unit]
  exact ⟨path, hprivate, fun h => Bool.false_ne_true h.1, rfl⟩

theorem get_values_of_mem {names : BTreeSet String} {ca : Bytes} {name : String}
    (h : name ∈ names) : (values names ca).get name = some (value ca name, 0o600) := by
  obtain ⟨_, hentry⟩ := Option.isSome_iff_exists.mp ((BTreeMap.mem_keys names name).mp h)
  rw [values, BTreeMap.get_mapEntries, hentry]
  rfl

theorem keys_values (names : BTreeSet String) (ca : Bytes) :
    (values names ca).keys = BTreeSet.toList names := by
  rw [values, BTreeMap.keys, BTreeMap.mapEntries, List.map_map]
  rfl

theorem generation_fs {names : BTreeSet String} {ca : Bytes}
    (hreadable : ∀ name ∈ names, Readable (value ca name)) {path : String}
    (hpath : fs.canonicalize path = some path)
    (hfiles : fs.directories path = some ⟨0o700, 0, files names ca⟩) :
    generation fs path = .ok (values names ca) := by
  have hregular : ((files names ca).entries.any fun e => !e.2.isFile) = false := by
    simp [files, BTreeMap.mapEntries, Entry.isFile]
  have hentries : entries fs path =
      .ok ((files names ca).mapEntries fun name _ => ⟨path, name⟩) := by
    simp only [entries, bind_eq_ok, okOr_eq_ok, rejectIf_eq_ok, exists_unit]
    exact ⟨_, hfiles, by rw [hregular]; exact Bool.false_ne_true, rfl⟩
  have hread (allowEmpty : Bool) (name : String) (hname : name ∈ names) :
      read fs ⟨path, name⟩ allowEmpty = .ok (value ca name, 0o600) := by
    obtain ⟨hlength, hne, hzero, hprivate⟩ := hreadable name hname
    obtain ⟨_, hentry⟩ := Option.isSome_iff_exists.mp ((BTreeMap.mem_keys names name).mp hname)
    have hfile : (files names ca).get name = some (.file (value ca name) 0o600) := by
      rw [files, BTreeMap.get_mapEntries, hentry]
      rfl
    rw [read, okOr_eq_ok, generationFile, hfiles, Option.bind_some, hfile]
    refine if_neg ?_
    rintro (h | h | h | h)
    · omega
    · exact hne h.2
    · exact hzero h
    · exact hprivate h
  have hpayloads : payloads fs ((files names ca).mapEntries fun name _ => ⟨path, name⟩) =
      .ok (values names ca) := by
    have hpaths : ((files names ca).mapEntries fun name _ => (⟨path, name⟩ : FilePath)).entries =
        names.entries.map fun e => (e.1, ⟨path, e.1⟩) := by
      simp [files, BTreeMap.mapEntries]
    have hvalues : (values names ca).entries =
        names.entries.map fun e => (e.1, (value ca e.1, 0o600)) := rfl
    have hmapped := mapEach_map (f := fun file : String × FilePath => do
        let payload ← read fs file.2 (file.1 ∉ renewable)
        return (file.1, payload)) (g := fun e : String × Unit => (e.1, ⟨path, e.1⟩))
      (k := fun e => (e.1, (value ca e.1, 0o600))) (l := names.entries) fun e he => by
        simp only [hread _ e.1 (List.mem_map_of_mem he), bind, Except.bind]
        rfl
    rw [payloads, hpaths, hmapped, ← hvalues]
    exact congrArg Except.ok
      (BTreeMap.ext_entries (BTreeMap.entries_ofEntries (values names ca).sorted))
  rw [generation, directory_fs hpath hfiles]
  simp only [bind, Except.bind, hentries, hpayloads]

theorem readable_bundle : Readable bundle := by decide +kernel

theorem readable_certificate : Readable (certificate "BBBB") := by decide +kernel

theorem get_values {names : BTreeSet String} {ca : Bytes} {name : String} {payload : Payload}
    (h : (values names ca).get name = some payload) : payload = (value ca name, 0o600) := by
  rw [values, BTreeMap.get_mapEntries] at h
  obtain ⟨_, -, rfl⟩ := Option.map_eq_some_iff.mp h
  rfl

/-- The values tell the inputs apart. -/
theorem value_inj {name name' : String} (h : name ∈ renewable)
    (heq : value (certificate "BBBB") name = value (certificate "BBBB") name') : name = name' := by
  have hdash : (45 : UInt8) ∈ certificate "BBBB" := by decide +kernel
  have hapart (n : Nat) : certificate "BBBB" ≠ List.replicate n 65 := by
    intro hsame
    have := List.eq_of_mem_replicate (hsame ▸ hdash)
    revert this
    decide
  rw [value, value] at heq
  by_cases hca : name = CA
  · by_cases hca' : name' = CA
    · rw [hca, hca']
    · rw [if_pos hca, if_neg hca'] at heq
      exact absurd heq (hapart _)
  · by_cases hca' : name' = CA
    · rw [if_neg hca, if_pos hca'] at heq
      exact absurd heq.symm (hapart _)
    · rw [if_neg hca, if_neg hca'] at heq
      have hindex := congrArg List.length heq
      rw [List.length_replicate, List.length_replicate] at hindex
      exact (List.idxOf_inj ((BTreeSet.mem_def _ _).mp h)).mp (Nat.succ.inj hindex)

theorem tokenNames_subset {name : String} (h : name ∈ tokenNames) :
    name ∈ tlsNames ∨ name ∈ keycloakNames := by
  rcases List.mem_append.mp h with h | h
  · obtain ⟨role, hrole, rfl⟩ := List.mem_map.mp h
    exact .inl (List.mem_cons_of_mem _ (List.mem_flatMap.mpr ⟨role, hrole, by simp⟩))
  · rcases List.mem_cons.mp h with rfl | h
    · exact .inr List.mem_cons_self
    · obtain ⟨realm, hrealm, hname⟩ := List.mem_flatMap.mp h
      refine .inr (List.mem_cons_of_mem _ (List.mem_flatMap.mpr ⟨realm, hrealm, ?_⟩))
      exact List.mem_cons_of_mem _ hname

theorem mem_renewable {name : String} :
    name ∈ renewable ↔ name ∈ tlsNames ∨ name ∈ keycloakNames := by
  rw [renewable, inventories, BTreeSet.mem_ofList, List.mem_append, ← BTreeSet.mem_def,
    ← BTreeSet.mem_def, BTreeSet.mem_ofList, BTreeSet.mem_ofList]

theorem tokens_renewable {name : String} (h : name ∈ BTreeSet.toList inventories.tokens) :
    name ∈ renewable := by
  rw [inventories, ← BTreeSet.mem_def, BTreeSet.mem_ofList] at h
  exact mem_renewable.mpr (tokenNames_subset h)

theorem renewal_values :
    Renewal false true (values renewable bundle) (values renewable (certificate "BBBB")) where
  names := by rw [keys_values, keys_values]
  present := fun name hname => by rwa [keys_values]
  files := fun name before after hbefore hafter => by
    have hne : bundle ≠ certificate "BBBB" := by decide +kernel
    rw [get_values hbefore, get_values hafter]
    refine ⟨rfl, ?_, fun _ h => absurd h Bool.false_ne_true, fun hname _ => ?_⟩
    · by_cases hname : name = CA
      · simp [renews, value, hname, hne]
      · simp [renews, value, hname]
    · simp only [value, if_pos hname]
      exact retire_bundle
  tokens := by
    refine ⟨fun name hname => ?_, ?_⟩
    · rw [get_values_of_mem (tokens_renewable hname)]
      rfl
    · refine List.Nodup.map_on ?_ ((BTreeSet.sorted_toList _).imp ne_of_lt)
      intro name hname name' hname' heq
      rw [get_values_of_mem (tokens_renewable hname),
        get_values_of_mem (tokens_renewable hname')] at heq
      exact value_inj (tokens_renewable hname) (Option.some.inj heq)

end Example

/-- A retirement is accepted that leaves every input but the certificate authority. -/
theorem verify_accepts_retirement :
    ¬ ∀ fs current candidate caOverlap caRetire counts old new,
      verify fs current candidate caOverlap caRetire = .ok counts →
      generation fs current = .ok old → generation fs candidate = .ok new →
        ∀ name before after, old.get name = some before → new.get name = some after →
          (before.1 ≠ after.1 ↔ name ∈ renewable) := by
  intro h
  have hold : generation Example.fs "/old" = .ok (Example.values renewable Example.bundle) :=
    Example.generation_fs (fun _ => Example.readable_value Example.readable_bundle) rfl rfl
  have hnew : generation Example.fs "/new" =
      .ok (Example.values renewable (Example.certificate "BBBB")) :=
    Example.generation_fs (fun _ => Example.readable_value Example.readable_certificate) rfl rfl
  have hdistinct : directory Example.fs "/old" false ≠ directory Example.fs "/new" false := by
    have hpath : directory Example.fs "/old" false = .ok "/old" := Example.directory_fs rfl rfl
    have hpath' : directory Example.fs "/new" false = .ok "/new" := Example.directory_fs rfl rfl
    rw [hpath, hpath']
    intro heq
    exact absurd (Except.ok.inj heq) (by decide)
  obtain ⟨counts, hverify⟩ := verify_iff.mpr ⟨by decide, hdistinct, _, _, hold, hnew,
    Example.renewal_values⟩
  have htoken : "keycloak_signing_kms_token" ∈ renewable :=
    Example.mem_renewable.mpr (.inr List.mem_cons_self)
  have hchanged := (h _ _ _ _ _ counts _ _ hverify hold hnew "keycloak_signing_kms_token" _ _
    (Example.get_values_of_mem htoken) (Example.get_values_of_mem htoken)).mpr htoken
  have hother : "keycloak_signing_kms_token" ≠ CA := by decide
  exact hchanged (by simp only [Example.value, if_neg hother])

end Marty.DeploymentCatalog
