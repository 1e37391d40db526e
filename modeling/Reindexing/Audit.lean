import Reindexing.Error
import Reindexing.Wire.Queue

/-!
# Audit log

The audit trail holds one record for every history event and one for every queue
mutation. A record is one line of JSON: the event or mutation with a tag in front.
They are collected in an append-only log. The newest records are held in memory up
to a limit, and every record may also be appended to a file. An export reads
the file if there is one, and otherwise writes the records in memory and says
how many are missing. What a failing file could not take yet is tried again
before anything else is written.
-/
namespace Reindexing

/-! ### Records -/

inductive AuditRecord where
  | event (event : HistoryEvent)
  | mutation (mutation : Mutation)
  deriving DecidableEq, Repr

namespace Wire

open Json

/-- The fields of a record behind its tag. -/
def tagged (name : String) (j : Json) : Json :=
  match j with
  | .record fields => .record (("record", .text name) :: fields)
  | j => j

def recordToJson : AuditRecord → Json
  | .event e => tagged "history_event" (event.write e)
  | .mutation m => tagged "queue_mutation" (mutation.write m)

def record : Codec AuditRecord :=
  ⟨recordToJson, readTagged "record"
    [("history_event", fun origin d => (event.read origin d).map .event),
      ("queue_mutation", fun origin d => (mutation.read origin d).map .mutation)]⟩

end Wire

/-- The line of a record, without its line end. -/
def AuditRecord.line (r : AuditRecord) : String := (Wire.record.write r).compact

/-! ### The log -/

/-- An open audit file. -/
structure AuditFile where
  path : String
  node : Node
  /-- What has not been written yet. -/
  pending : String
  deriving DecidableEq, Repr

structure AuditLog where
  /-- Oldest first. -/
  records : List AuditRecord
  file : Option AuditFile
  limit : Nat
  evicted : Nat
  /-- Records that the file did not take. -/
  unwritten : Nat
  deriving DecidableEq, Repr

/-- The whole trail as lines of JSON. -/
structure AuditExport where
  body : String
  /-- Records known to be absent from the body. -/
  missing : Nat
  deriving DecidableEq, Repr

def AuditExport.isComplete (e : AuditExport) : Bool := e.missing == 0

namespace AuditLog

/-- The number of records held in memory unless something else is configured. -/
def defaultLimit : Nat := 10000

/-- A log in memory, which holds at least one record. -/
def inMemory (limit : Nat) : AuditLog := ⟨[], none, max limit 1, 0, 0⟩

def target : String := "reindex_core::audit"

/-- A log that also appends to the file at `path`, whose directories are created. -/
def withFile (path : String) (limit : Nat) (disk : Disk) : Disk × Except Error AuditLog :=
  match disk.makeDirectories [] (Disk.pathOf path).dropLast with
  | .error fault => (disk, .error (.auditWrite path fault))
  | .ok disk =>
    match disk.locate true [] path >>= disk.openAppend with
    | .error fault => (disk, .error (.auditWrite path fault))
    | .ok (disk, node) => (disk, .ok { inMemory limit with file := some ⟨path, node, ""⟩ })

/-- Tells that the file at `path` is open. -/
def openedEvent (path : String) : LogEvent :=
  ⟨.info, target, "Audit file sink opened", [("path", .shown path)], []⟩

/-- Holds one more record in memory, and lets the oldest go when there are too many. -/
def keep (log : AuditLog) (record : AuditRecord) : AuditLog :=
  if log.limit ≤ log.records.length then
    { log with records := log.records.drop 1 ++ [record], evicted := log.evicted + 1 }
  else { log with records := log.records ++ [record] }

/-- Appends a record. A fault of the file is reported, but the record is kept in memory. -/
def append (log : AuditLog) (record : AuditRecord) (disk : Disk) : AuditLog × Disk × Option Error :=
  match log.file with
  | none => (log.keep record, disk, none)
  | some file =>
    let text := file.pending ++ record.line ++ "\n"
    match disk.append file.node text with
    | .ok disk => ({ log with file := some { file with pending := "" } }.keep record, disk, none)
    | .error fault =>
      let log := { log with file := some { file with pending := text }, unwritten := log.unwritten + 1 }
      (log.keep record, disk, some (.auditWrite file.path fault))

/-- The lines of records, each with its line end. -/
def linesOf (records : List AuditRecord) : String :=
  String.join (records.map fun r => r.line ++ "\n")

def toExport (log : AuditLog) (disk : Disk) : Except Error AuditExport :=
  match log.file with
  | none => .ok ⟨linesOf log.records, log.evicted⟩
  | some file =>
    if file.pending ≠ "" then
      match disk.append file.node file.pending with
      | .error fault => .error (.auditWrite file.path fault)
      | .ok disk => read file disk
    else read file disk
where
  read (file : AuditFile) (disk : Disk) : Except Error AuditExport :=
    match disk.locate false [] file.path >>= disk.read with
    | .error fault => .error (.auditRead file.path fault)
    | .ok body => .ok ⟨body, log.unwritten⟩

/-- Tells that an export lacks records. -/
def missingEvent (evicted : Nat) : LogEvent :=
  ⟨.warn, target, "Audit export is missing records evicted from memory; configure an audit file",
    [("evicted", .number evicted)], []⟩

/-- What an export tells operators. -/
def exportEvents (log : AuditLog) : List LogEvent :=
  if log.file.isNone && log.evicted != 0 then [missingEvent log.evicted] else []

def size (log : AuditLog) : Nat := log.records.length

/-- The log as people inspect it. -/
def inspect (log : AuditLog) : String :=
  "AuditLog \x7b records: " ++ Decimal.ofNat log.size ++ ", file: " ++
    Text.inspectOption Text.quoted (log.file.map (·.path)) ++ ", max_in_memory: " ++
    Decimal.ofNat log.limit ++ " \x7d"

end AuditLog

end Reindexing
