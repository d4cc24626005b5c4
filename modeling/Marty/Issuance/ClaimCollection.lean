import Marty.Lib.Json
import Marty.Lib.Substitution
import Marty.Lib.Text

/-!
# Claims from configured sources

The rules of a template say where each claim of a credential comes from: from the form of the
applicant, from values of the system, or from one fact among the verified evidence.  The rules
are applied one after the other to the claims, and a rule takes the claim away before it looks
for a value.

## Main definitions

* `applyRules` — the rules, applied to the claims.
* `validEvidenceConfig`, `extractEvidence` — what a rule may read of the evidence.
* `lastRule` — the rule that decides a claim.
-/

namespace Marty.ClaimCollection

open Lib Lib.Json

/-! ## JSON pointers -/

/-- A reference token, with its escapes undone. -/
def unescapeToken (token : List Char) : List Char :=
  Substitution.replace ['~', '0'] ['~'] (Substitution.replace ['~', '1'] ['/'] token)

/-- The index that a token names: decimal digits without a sign and without leading zeros. -/
def parseIndex (token : List Char) : Option Nat :=
  if token.head? = some '+' ∨ token.head? = some '0' ∧ token.length ≠ 1 then none
  else (Value.readDigits token).filter (· < 2 ^ 64)

/-- One step of a pointer. -/
def descend (target : Value) (token : List Char) : Option Value :=
  match target with
  | .object entries => Map.get entries (String.ofList token)
  | .array items => (parseIndex token).bind (items[·]?)
  | _ => none

/-- The value at the end of a JSON pointer. -/
def pointer (value : Value) (path : String) : Option Value :=
  if path.toList = [] then some value
  else if path.toList.head? ≠ some '/' then none
  else (((path.toList.splitOn '/').drop 1).map unescapeToken).foldlM descend value

/-! ## Rules -/

def selectors : List String := ["requirement_id", "fact_type"]

def publicRoots : List String := ["assertion", "scope", "effective_at", "observed_at"]

def configKeys : List String := ["requirement_id", "fact_type", "json_pointer", "format"]

/-- A text that says something. -/
def isFilled (value : Value) : Bool := value.asStr.any fun text => Text.trim text ≠ ""

def validEvidenceConfig (config : Map) : Bool :=
  let selector := selectors.any fun key => (config.get key).any isFilled
  let path := ((config.get "json_pointer").bind Value.asStr).getD ""
  let root := ((path.toList.splitOn '/')[1]?).getD []
  selector && decide (path.toList.head? = some '/') && decide (path.utf8ByteSize ≤ 1024) &&
    (publicRoots.map String.toList).contains root &&
    (config.get "format").all (fun format => decide (format.asStr = some "date")) &&
    config.all (fun entry => configKeys.contains entry.1) &&
    selectors.all fun key => (config.get key).all isFilled

def matchesEvidenceSelector (config : Map) (evidence : Value) : Bool :=
  selectors.all fun key => (config.get key).all fun expected => evidence.get key == some expected

section

-- the date, in UTC, of a text that is a moment: what `chrono` reads and writes
variable (utcDate : String → Option String)

def extractEvidence (config : Map) (evidence : List Value) : Option Value :=
  if validEvidenceConfig config then
    match evidence.filter (matchesEvidenceSelector config) with
    | [fact] => do
        let path ← (config.get "json_pointer").bind Value.asStr
        let value ← pointer fact path
        if (config.get "format").isSome then
          let date ← value.asStr.bind utcDate
          return .string date
        else return value
    | _ => none
  else none

/-- The name of the claim that a rule is about. -/
def ruleName (rule : Value) : Option String :=
  ((rule.get "claim_name").bind Value.asStr).filter (· ≠ "")

def ruleSource (rule : Value) : Option String := (rule.get "source").bind Value.asStr

/-- The value that the source of a rule has. -/
def sourceValue (form system : Map) (evidence : List Value) (rule : Value) (config : Map) :
    Option Value :=
  if ruleSource rule = some "FORM_FIELD" then
    ((config.get "field_id").bind Value.asStr).bind (Map.get form)
  else if ruleSource rule = some "SYSTEM" then
    ((config.get "system_field").bind Value.asStr).bind fun field =>
      if field = "constant" then config.get "value" else system.get field
  else if ruleSource rule = some "EVIDENCE_EXTRACTION" then
    extractEvidence utcDate config evidence
  else none

/-- One rule: the claim is taken away, and put back when the source has a value for it.  The
order of the claims plays no part. -/
def applyRule (form system : Map) (evidence : List Value) (claims : Map) (rule : Value) : Map :=
  match ruleName rule with
  | none => claims
  | some name =>
      let claims := claims.remove name
      match (rule.get "source_config").bind Value.asObject with
      | none => claims
      | some config =>
          match (sourceValue utcDate form system evidence rule config).filter (! ·.isNull) with
          | none => claims
          | some value => claims.insert name value

def applyRules (claims form : Map) (rules : List Value) (system : Map) (evidence : List Value) :
    Map := rules.foldl (applyRule utcDate form system evidence) claims

/-! ## The rule that decides -/

/-- The last rule about a claim. -/
def lastRule (rules : List Value) (name : String) : Option Value :=
  rules.reverse.find? fun rule => ruleName rule = some name

/-- The value that a rule gives its claim. -/
def ruleValue (form system : Map) (evidence : List Value) (rule : Value) : Option Value :=
  ((rule.get "source_config").bind Value.asObject).bind fun config =>
    (sourceValue utcDate form system evidence rule config).filter (! ·.isNull)

variable {utcDate}

theorem applyRule_named {form system : Map} {evidence : List Value} {claims : Map}
    {rule : Value} {name : String} (h : ruleName rule = some name) :
    applyRule utcDate form system evidence claims rule =
      match ruleValue utcDate form system evidence rule with
      | none => claims.remove name
      | some value => (claims.remove name).insert name value := by
  rw [applyRule, h, ruleValue]
  cases (rule.get "source_config").bind Value.asObject <;> rfl

/-- One rule decides the claim that it is about, and leaves the others. -/
theorem get_applyRule (form system : Map) (evidence : List Value) (claims : Map) (rule : Value)
    (name : String) :
    Map.get (applyRule utcDate form system evidence claims rule) name =
      if ruleName rule = some name then ruleValue utcDate form system evidence rule
      else claims.get name := by
  cases hname : ruleName rule with
  | none => simp [applyRule, hname]
  | some ruled =>
      rw [applyRule_named hname]
      by_cases hsame : name = ruled
      · cases hvalue : ruleValue utcDate form system evidence rule with
        | none => simp [Map.get_remove, hsame]
        | some value => simp [Map.get_insert, hsame]
      · have hother : ruled ≠ name := Ne.symm hsame
        cases hvalue : ruleValue utcDate form system evidence rule with
        | none => simp [Map.get_remove, hsame, hother]
        | some value => simp [Map.get_insert, Map.get_remove, hsame, hother]

/-- **The last rule about a claim decides it.** -/
theorem get_applyRules (claims form : Map) (rules : List Value) (system : Map)
    (evidence : List Value) (name : String) :
    Map.get (applyRules utcDate claims form rules system evidence) name =
      match lastRule rules name with
      | none => claims.get name
      | some rule => ruleValue utcDate form system evidence rule := by
  induction rules using List.reverseRecOn with
  | nil => rfl
  | append_singleton rules rule ih =>
      have hstep : applyRules utcDate claims form (rules ++ [rule]) system evidence =
          applyRule utcDate form system evidence
            (applyRules utcDate claims form rules system evidence) rule := by
        rw [applyRules, List.foldl_append]
        rfl
      rw [hstep, get_applyRule, ih, lastRule, lastRule, List.reverse_append,
        List.reverse_singleton, List.singleton_append, List.find?_cons]
      by_cases hname : ruleName rule = some name <;> simp [hname]

/-! ## What a rule reads -/

/-- Only a rule for a field of the form reads the form. -/
theorem ruleValue_form_irrelevant {rule : Value} (h : ruleSource rule ≠ some "FORM_FIELD")
    (form form' system : Map) (evidence : List Value) :
    ruleValue utcDate form system evidence rule = ruleValue utcDate form' system evidence rule := by
  simp only [ruleValue, sourceValue, if_neg h]

/-- The claim is the value of the field of the form that the rule names. -/
structure FromField (rule : Value) (form : Map) (claim : Value) : Prop where
  present : claim.isNull = false
  field : ∃ config field, (rule.get "source_config").bind Value.asObject = some config ∧
    (config.get "field_id").bind Value.asStr = some field ∧ form.get field = some claim

theorem ruleValue_form {rule : Value} (h : ruleSource rule = some "FORM_FIELD")
    {form system : Map} {evidence : List Value} {claim : Value}
    (hvalue : ruleValue utcDate form system evidence rule = some claim) :
    FromField rule form claim := by
  obtain ⟨config, hconfig, hsource⟩ := Option.bind_eq_some_iff.mp hvalue
  rw [sourceValue, if_pos h] at hsource
  obtain ⟨hform, hnull⟩ := Option.filter_eq_some_iff.mp hsource
  obtain ⟨field, hfield, hget⟩ := Option.bind_eq_some_iff.mp hform
  exact ⟨by simpa using hnull, config, field, hconfig, hfield, hget⟩

/-- The value lies in the tree, some steps down. -/
def Below (tree value : Value) : Prop :=
  ∃ tokens : List (List Char), tokens.foldlM descend tree = some value

/-- A pointer whose first token is a public root reads below that root. -/
theorem pointer_below {fact value : Value} {path root : String} (hroot : root ∈ publicRoots)
    (hslash : path.toList.head? = some '/')
    (hfirst : (path.toList.splitOn '/')[1]? = some root.toList)
    (h : pointer fact path = some value) :
    ∃ tree, fact.get root = some tree ∧ Below tree value := by
  have hne : path.toList ≠ [] := by
    intro hnil
    simp [hnil] at hslash
  rw [pointer, if_neg hne, if_neg (by simpa using hslash)] at h
  have hdrop : (path.toList.splitOn '/').drop 1 =
      root.toList :: (path.toList.splitOn '/').drop 2 :=
    (List.drop_eq_getElem?_toList_append ..).trans (by rw [hfirst]; rfl)
  have hplain : unescapeToken root.toList = root.toList := by
    have hall : ∀ root ∈ publicRoots, unescapeToken root.toList = root.toList := by
      decide +kernel
    exact hall root hroot
  rw [hdrop, List.map_cons, hplain, List.foldlM_cons] at h
  obtain ⟨tree, htree, hrest⟩ := Option.bind_eq_some_iff.mp h
  refine ⟨tree, ?_, _, hrest⟩
  cases fact with
  | object entries => simpa [descend] using htree
  | array items =>
      have hindex : ∀ root ∈ publicRoots, parseIndex root.toList = none := by
        decide +kernel
      simp [descend, hindex root hroot] at htree
  | _ => cases htree

/-- What is extracted comes from the one fact that the rule selects, below a public root: it is
the value there or the date of the moment there. -/
structure Extracted (utcDate : String → Option String) (config : Map) (evidence : List Value)
    (claim : Value) : Prop where
  single : ∃ fact, evidence.filter (matchesEvidenceSelector config) = [fact] ∧
    ∃ root ∈ publicRoots, ∃ tree source, fact.get root = some tree ∧ Below tree source ∧
      (claim = source ∨ ∃ moment date, source = .string moment ∧ utcDate moment = some date ∧
        claim = .string date)

theorem extractEvidence_eq_some {config : Map} {evidence : List Value} {claim : Value}
    (h : extractEvidence utcDate config evidence = some claim) :
    Extracted utcDate config evidence claim := by
  rw [extractEvidence] at h
  split at h
  case isFalse => cases h
  case isTrue hvalid =>
    split at h
    case h_2 => cases h
    case h_1 fact hfact =>
      obtain ⟨path, hpath, h⟩ := Option.bind_eq_some_iff.mp h
      obtain ⟨source, hsource, h⟩ := Option.bind_eq_some_iff.mp h
      simp only [validEvidenceConfig, hpath, Option.getD_some, Bool.and_eq_true,
        decide_eq_true_eq, List.contains_iff_mem, List.mem_map] at hvalid
      obtain ⟨⟨⟨⟨⟨⟨-, hslash⟩, -⟩, root, hroot, hfirst⟩, -⟩, -⟩, -⟩ := hvalid
      have hsecond : (path.toList.splitOn '/')[1]? = some root.toList := by
        cases hget : (path.toList.splitOn '/')[1]? with
        | some token => rw [hfirst, hget, Option.getD_some]
        | none =>
            have hfilled : ∀ root ∈ publicRoots, root.toList ≠ [] := by decide
            rw [hget, Option.getD_none] at hfirst
            exact absurd hfirst (hfilled root hroot)
      obtain ⟨tree, htree, hbelow⟩ := pointer_below hroot hslash hsecond hsource
      refine ⟨fact, hfact, root, hroot, tree, source, htree, hbelow, ?_⟩
      split at h
      case isFalse =>
        cases h
        exact .inl rfl
      case isTrue =>
        obtain ⟨date, hdate, h⟩ := Option.bind_eq_some_iff.mp h
        obtain ⟨moment, hmoment, hdate⟩ := Option.bind_eq_some_iff.mp hdate
        cases h
        cases source with
        | string text =>
            cases hmoment
            exact .inr ⟨moment, date, rfl, hdate, rfl⟩
        | _ => cases hmoment

theorem ruleValue_evidence {rule : Value} (h : ruleSource rule = some "EVIDENCE_EXTRACTION")
    {form system : Map} {evidence : List Value} {claim : Value}
    (hvalue : ruleValue utcDate form system evidence rule = some claim) :
    ∃ config, (rule.get "source_config").bind Value.asObject = some config ∧
      Extracted utcDate config evidence claim := by
  obtain ⟨config, hconfig, hsource⟩ := Option.bind_eq_some_iff.mp hvalue
  rw [sourceValue, h, if_neg (by decide), if_neg (by decide), if_pos rfl] at hsource
  exact ⟨config, hconfig, extractEvidence_eq_some (Option.filter_eq_some_iff.mp hsource).1⟩

/-! ## What the form decides -/

/-- **The form decides the claims of its own rules only.**  A claim whose last rule has another
source is the same for all initial claims and all forms, a claim without a rule is what it was,
and extracted evidence comes from one fact, below a public root. -/
theorem claims_from_configured_sources (utcDate : String → Option String) (rules : List Value)
    (system : Map) (evidence : List Value) (name : String) :
    (lastRule rules name = none → ∀ claims form : Map,
      Map.get (applyRules utcDate claims form rules system evidence) name = claims.get name) ∧
    ∀ rule, lastRule rules name = some rule →
      (ruleSource rule ≠ some "FORM_FIELD" → ∀ claims form claims' form' : Map,
        Map.get (applyRules utcDate claims form rules system evidence) name =
          Map.get (applyRules utcDate claims' form' rules system evidence) name) ∧
      (ruleSource rule = some "FORM_FIELD" → ∀ (claims form : Map) (claim : Value),
        Map.get (applyRules utcDate claims form rules system evidence) name = some claim →
          FromField rule form claim) ∧
      (ruleSource rule = some "EVIDENCE_EXTRACTION" → ∀ (claims form : Map) (claim : Value),
        Map.get (applyRules utcDate claims form rules system evidence) name = some claim →
          ∃ config, (rule.get "source_config").bind Value.asObject = some config ∧
            Extracted utcDate config evidence claim) := by
  constructor
  · intro hnone claims form
    rw [get_applyRules, hnone]
  · intro rule hrule
    simp only [get_applyRules, hrule]
    refine ⟨?_, ?_, ?_⟩
    · intro hsource claims form claims' form'
      exact ruleValue_form_irrelevant hsource form form' system evidence
    · intro hsource claims form claim hclaim
      exact ruleValue_form hsource hclaim
    · intro hsource claims form claim hclaim
      exact ruleValue_evidence hsource hclaim

end

namespace Example

/-- A rule for a claim, from a source. -/
def rule (name source : String) (config : Map) : Value :=
  .object [("claim_name", .string name), ("source", .string source),
    ("source_config", .object config)]

/-- The score comes from a quiz, and no longer from the form. -/
def rules : List Value :=
  [rule "score" "FORM_FIELD" [("field_id", .string "score")],
    rule "score" "EVIDENCE_EXTRACTION" [("fact_type", .string "quiz"),
      ("json_pointer", .string "/assertion/score")]]

def evidence : List Value :=
  [.object [("fact_type", .string "quiz"), ("assertion", .object [("score", .number "7")])]]

/-- A rule without a name. -/
def unnamed : Value :=
  rule "" "SYSTEM" [("system_field", .string "constant"), ("value", .string "set")]

end Example

/-- A forged score is replaced by that of the one quiz. -/
theorem claims_from_configured_sources_score :
    Map.get (applyRules (fun _ => none) [("score", .number "1000")] [("score", .number "1000")]
        Example.rules [] Example.evidence) "score" = some (.number "7") ∧
      Map.get (applyRules (fun _ => none) [] [] Example.rules [] Example.evidence) "score" =
        some (.number "7") := by
  have hscore : Map.get (applyRules (fun _ => none) [] [] Example.rules [] Example.evidence)
      "score" = some (.number "7") := by
    decide +kernel
  have hsame := ((claims_from_configured_sources (fun _ => none) Example.rules []
    Example.evidence "score").2 _ rfl).1 (by decide) [("score", .number "1000")]
      [("score", .number "1000")] [] []
  exact ⟨hsame.trans hscore, hscore⟩

/-- A rule with an empty name is passed over: the claim with the empty name stays as it was,
although the rule has another source than the form. -/
theorem claims_without_name_stay :
    (Example.unnamed.get "claim_name").bind Value.asStr = some "" ∧
      ruleSource Example.unnamed = some "SYSTEM" ∧
      Map.get (applyRules (fun _ => none) [("", .string "one")] [] [Example.unnamed] [] []) "" ≠
        Map.get (applyRules (fun _ => none) [("", .string "other")] [] [Example.unnamed] [] [])
          "" := by
  decide +kernel

end Marty.ClaimCollection
