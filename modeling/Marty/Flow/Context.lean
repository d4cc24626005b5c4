import Marty.Lib.Json
import Marty.Lib.Text

/-!
# Private context

The context of a flow instance holds client data beside trusted state.  Some keys are
reserved for the latter: a request that carries one of them at any depth is refused, and
a response never shows one.

## Main definitions

* `isPrivateContextKey` — the reserved keys, in any case of their ASCII letters.
* `privateContextPath` — where a document first uses a reserved key.
* `publicContext` — a document without its reserved entries.
-/

namespace Marty.Flow

open Lib

abbrev Value := Json.Value

def privateContextPrefix : String := "_marty_"

def privateContextKeys : List String :=
  ["issuer_profile_id", "issuer_key_id", "issuer_algorithm", "key_access_mode",
    "verification_method_id", "signing_service_id", "signing_key_reference", "key_reference",
    "kms_provider", "provider", "key_name", "key_version", "transit_mount", "pre_auth_code",
    "pre_authorized_code", "pre-authorized-code", "access_token", "refresh_token",
    "client_secret", "private_key", "private_key_jwk", "session_token", "api_key"]

/-- A key reserved for trusted state or private caller material. -/
def isPrivateContextKey (key : String) : Bool :=
  Text.eqIgnoreAsciiCase (String.ofList (key.toList.take privateContextPrefix.toList.length))
      privateContextPrefix ||
    privateContextKeys.any (Text.eqIgnoreAsciiCase key)

/-! ## Refusing reserved keys -/

mutual

/-- The path to the first reserved key below `path`. -/
def privateContextPath : Value → String → Option String
  | .object entries, path => privateEntriesPath entries path
  | .array items, path => privateItemsPath items path 0
  | _, _ => none

def privateEntriesPath : List (String × Value) → String → Option String
  | [], _ => none
  | (key, value) :: entries, path =>
      let keyPath := if path.isEmpty then key else path ++ "." ++ key
      (if isPrivateContextKey key then some keyPath else privateContextPath value keyPath).or
        (privateEntriesPath entries path)

def privateItemsPath : List Value → String → Nat → Option String
  | [], _, _ => none
  | value :: items, path, index =>
      (privateContextPath value (path ++ "[" ++ toString index ++ "]")).or
        (privateItemsPath items path (index + 1))

end

theorem privateEntriesPath_eq_none {entries : List (String × Value)} {path : String}
    (h : privateEntriesPath entries path = none) :
    ∀ e ∈ entries, isPrivateContextKey e.1 = false := by
  induction entries with
  | nil => simp
  | cons e entries ih =>
      obtain ⟨key, value⟩ := e
      rw [privateEntriesPath, Option.or_eq_none_iff] at h
      intro e' he'
      rcases List.mem_cons.mp he' with rfl | he'
      · by_contra hprivate
        rw [if_pos (by simpa using hprivate)] at h
        cases h.1
      · exact ih h.2 e' he'

/-! ## Hiding reserved entries -/

mutual

/-- A document without its reserved entries. -/
def publicContext : Value → Value
  | .object entries => .object (publicEntries entries)
  | .array items => .array (publicItems items)
  | value => value

def publicEntries : List (String × Value) → List (String × Value)
  | [] => []
  | (key, value) :: entries =>
      if isPrivateContextKey key then publicEntries entries
      else (key, publicContext value) :: publicEntries entries

def publicItems : List Value → List Value
  | [] => []
  | value :: items => publicContext value :: publicItems items

end

/-- A key that is not reserved is found in the public document as in the document. -/
theorem get_publicEntries {key : String} (hkey : isPrivateContextKey key = false)
    (entries : List (String × Value)) :
    Json.Map.get (publicEntries entries) key =
      (Json.Map.get entries key).map publicContext := by
  induction entries with
  | nil => rfl
  | cons e entries ih =>
      obtain ⟨k, value⟩ := e
      rw [publicEntries, Json.Map.get_cons]
      by_cases hk : k = key
      · simp [hk, hkey, Json.Map.get_cons]
      · by_cases hprivate : isPrivateContextKey k = true
        · simp [hprivate, hk, ih]
        · simp [hprivate, hk, Json.Map.get_cons, ih]

end Marty.Flow
