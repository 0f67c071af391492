import Passbook.Instant

/-!
# The audit trail

One entry for every command that was executed, in the order of execution, with a
verdict on how it ended.

## Main results

* `size_note` — noting an entry makes the trail one longer.
-/

namespace Passbook

/-- How a command ended. -/
inductive Verdict where
  /-- It was carried out. -/
  | completed
  /-- It was journalled as a failed movement. -/
  | failed
  /-- The principal had no right to it. -/
  | denied
  /-- It was refused for any other reason. -/
  | rejected
deriving DecidableEq

namespace Verdict

/-- How a verdict is written. -/
def text : Verdict → String
  | completed => "COMPLETED"
  | failed => "FAILED"
  | denied => "DENIED"
  | rejected => "REJECTED"

end Verdict

/-- One line of the audit trail. -/
structure AuditEntry where
  time : Instant
  principal : String
  action : String
  details : String
  verdict : Verdict
deriving DecidableEq

/-- All entries in order. -/
structure AuditTrail where
  entries : Array AuditEntry
deriving DecidableEq

namespace AuditTrail

/-- The trail before anything was executed. -/
def empty : AuditTrail := ⟨#[]⟩

instance : Inhabited AuditTrail := ⟨empty⟩

/-- How many entries there are. -/
def size (trail : AuditTrail) : Nat := trail.entries.size

/-- Adds an entry at the end. -/
def note (trail : AuditTrail) (entry : AuditEntry) : AuditTrail :=
    ⟨trail.entries.push entry⟩

@[simp] theorem size_note (trail : AuditTrail) (entry : AuditEntry) :
    (trail.note entry).size = trail.size + 1 := by
  simp [size, note]

/-- How many entries carry a verdict. -/
def count (trail : AuditTrail) (verdict : Verdict) : Nat :=
  trail.entries.toList.countP (·.verdict == verdict)

end AuditTrail

end Passbook
