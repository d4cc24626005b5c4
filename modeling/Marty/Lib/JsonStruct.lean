import Marty.Lib.BTree
import Marty.Lib.Json
import Mathlib.Data.String.Basic

/-!
# Structures as JSON

How the generated readers find the fields of a structure: by name in an object that has no
other entries, or by position in an array that is not longer.  A field may have a default,
or be null.  Lists and maps read back as they were written when their parts do.

## Main definitions

* `structEntries` — the entries that a structure is read from.
* `Map.field`, `Map.fieldOr` — a required field, and one with a default.
* `nullable`, `readList`, `readMap` — readers of values from readers of their parts.
-/

namespace Marty.Lib.Json

/-- The entries by which a value gives the fields of a structure. -/
def structEntries (fields : List String) : Value → Option Map
  | .object entries => if entries.all fun e => fields.contains e.1 then some entries else none
  | .array items => if items.length ≤ fields.length then some (fields.zip items) else none
  | _ => none

variable {α : Type*}

def Map.field (m : Map) (name : String) (read : Value → Option α) : Option α :=
  (m.get name).bind read

def Map.fieldOr (m : Map) (name : String) (read : Value → Option α) (default : α) : Option α :=
  match m.get name with
  | none => some default
  | some value => read value

def nullable (read : Value → Option α) : Value → Option (Option α)
  | .null => some none
  | value => (read value).map some

@[simp] theorem nullable_string (read : Value → Option α) (text : String) :
    nullable read (.string text) = (read (.string text)).map some := rfl

@[simp] theorem nullable_object (read : Value → Option α) (entries : Map) :
    nullable read (.object entries) = (read (.object entries)).map some := rfl

def readItems (read : Value → Option α) : List Value → Option (List α)
  | [] => some []
  | v :: items => do
      let a ← read v
      let as ← readItems read items
      return a :: as

def readList (read : Value → Option α) : Value → Option (List α)
  | .array items => readItems read items
  | _ => none

def readMap : Value → Option (BTreeMap String Value)
  | .object entries => some (.ofEntries entries)
  | _ => none

@[simp] theorem readMap_object (m : BTreeMap String Value) :
    readMap (.object m.entries) = some m :=
  congrArg some (BTreeMap.ext_entries (BTreeMap.entries_ofEntries m.sorted))

theorem readList_array {read : Value → Option α} {write : α → Value}
    (h : ∀ a, read (write a) = some a) (items : List α) :
    readList read (.array (items.map write)) = some items := by
  rw [readList]
  induction items with
  | nil => rfl
  | cons a items ih => rw [List.map_cons, readItems, h, ih]; rfl

end Marty.Lib.Json
