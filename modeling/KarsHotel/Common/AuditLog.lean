import KarsHotel.Lib.IdText
import KarsHotel.Lib.Json
import KarsHotel.Values

/-!
# The audit log

* `AuditDiff`, `AuditEntry`: an entry with what it says of a change;
* `AuditDiff.scrub`, `scrubJournal`: erasing fields from what is said of reservations.
-/

namespace KarsHotel

/-- The fields of a JSON object. -/
abbrev JsonFields := List (String × Json)

/-- An object with the fields before and after a change, where it has them. -/
structure AuditDiff where
  before : Option JsonFields
  after : Option JsonFields
  others : JsonFields

/-- A row of `audit_log`. -/
structure AuditEntry where
  tenantId : Option TenantId
  userId : Option ℕ
  entity : String
  entityId : Option IdText
  action : String
  diff : Option AuditDiff
  createdAt : Moment

/-- `fields - keys`. -/
def withoutKeys (keys : List String) (fields : JsonFields) : JsonFields :=
  fields.filter fun f => !keys.contains f.1

def AuditDiff.scrub (keys : List String) (d : AuditDiff) : AuditDiff :=
  { d with
    before := some (withoutKeys keys (d.before.getD []))
    after := some (withoutKeys keys (d.after.getD [])) }

/-- The entry is filed under one of the texts as a reservation's. -/
def AuditEntry.about (ids : List IdText) (e : AuditEntry) : Bool :=
  decide (e.entity = "reservation") && e.entityId.any ids.contains

/-- Erase fields before and after from the entries about the reservations. -/
def scrubJournal (log : List AuditEntry) (ids : List IdText) (keys : List String) : List AuditEntry :=
  log.map fun e => if e.about ids then { e with diff := e.diff.map (AuditDiff.scrub keys) } else e

end KarsHotel
