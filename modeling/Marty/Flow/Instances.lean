import Marty.Flow.Projection

/-!
# The table of instances

The rows of `flow_instances`, each under its own `id`.

## Main definitions

* `InstanceTable` — the rows; `InstanceTable.get`, `InstanceTable.put`.
-/

namespace Marty.Flow

open Lib

/-- The rows of `flow_instances` by their `id`. -/
structure InstanceTable where
  rows : TextMap FlowInstanceRecord
  named : ∀ {id record}, rows.get id = some record → record.id = id

namespace InstanceTable

def empty : InstanceTable := ⟨BTreeMap.empty, nofun⟩

def get (table : InstanceTable) (id : String) : Option FlowInstanceRecord := table.rows.get id

/-- Insert a row, or replace the one that has its `id`. -/
def put (table : InstanceTable) (record : FlowInstanceRecord) : InstanceTable where
  rows := table.rows.insert record.id record
  named := by
    intro id r h
    rw [BTreeMap.get_insert] at h
    split at h
    · next hid =>
        cases h
        exact hid.symm
    · exact table.named h

variable {table : InstanceTable} {record : FlowInstanceRecord} {id : String}

theorem id_of_get (h : table.get id = some record) : record.id = id := table.named h

@[simp] theorem get_put : (table.put record).get id =
    if id = record.id then some record else table.get id :=
  BTreeMap.get_insert ..

end InstanceTable

end Marty.Flow
