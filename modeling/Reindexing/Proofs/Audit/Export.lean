import Reindexing.Proofs.Audit.Log
import Reindexing.Proofs.Disk
import Reindexing.Proofs.Text.Search
import Reindexing.Proofs.Wire.Records

/-!
# Exports of the audit log

An export in lines is only of use if every line is one record. No line holds a line
end, whatever texts the record has, and each is read back as its record; what a log
in memory no longer holds is counted as missing.

A log with a file writes behind whatever its file holds. The export is the old text
followed by the lines of all records, however often the log was opened again and
whatever was evicted from memory meanwhile. It is a list of records only if the old
text ended its last line: nothing is written between a line that was cut off and the
first record behind it.
-/
namespace Reindexing

/-- The lines of an export are some lines and then one for each record, which is read back as the record. -/
structure AuditExport.Lists (e : AuditExport) (before : List String) (records : List AuditRecord) : Prop where
  lines : Text.IsLines e.body (before ++ records.map AuditRecord.line)
  reads : ∀ r ∈ records, Json.decodeText Wire.record.read r.line = .ok r

namespace AuditLog

variable {records appended : List AuditRecord}

theorem linesOf_cons (r : AuditRecord) (rest : List AuditRecord) :
    linesOf (r :: rest) = r.line ++ "\n" ++ linesOf rest := by
  simp [linesOf, String.join_cons]

theorem linesOf_concat (records : List AuditRecord) (r : AuditRecord) :
    linesOf (records ++ [r]) = linesOf records ++ (r.line ++ "\n") := by
  simp [linesOf, String.join_append, String.join_cons]

theorem isLines_linesOf (fit : ∀ r ∈ records, r.Fits) :
    Text.IsLines (linesOf records) (records.map AuditRecord.line) := by
  induction records with
  | nil => exact Text.isLines_empty
  | cons r rest ih =>
    have first := Text.isLines_line (AuditRecord.newline_notMem_line (fit r List.mem_cons_self))
    have others := ih fun r member => fit r (List.mem_cons_of_mem _ member)
    rw [linesOf_cons]
    exact first.append others

/-- What a log in memory holds and exports after some records have been appended to it. -/
structure AccountsFor (log : AuditLog) (most : Nat) (appended : List AuditRecord) : Prop where
  newest : log.records <:+ appended
  held : log.records.length = min appended.length most
  evicted : log.evicted = appended.length - min appended.length most
  exported : ∀ disk, ∃ e, log.toExport disk = .ok e ∧ e.Lists [] log.records ∧ e.missing = log.evicted

theorem file_appendAll (log : AuditLog) (memory : log.file = none) (disk : Disk) (appended : List AuditRecord) :
    (log.appendAll disk appended).1.file = none := by
  induction appended generalizing log disk with
  | nil => exact memory
  | cons r rest ih =>
    refine ih _ ?_ (log.append r disk).2.1
    simp only [append, memory, file_keep]

/-- A log in memory loses nothing that it does not report: it holds the newest records, its export has one
line for each of them, and what is missing there is what was evicted. -/
theorem memory_export_reports_what_it_lacks (limit : Nat) (disk : Disk) (fit : ∀ r ∈ appended, r.Fits) :
    ((inMemory limit).appendAll disk appended).1.AccountsFor (max limit 1) appended := by
  have holds := (holds_inMemory limit).appendAll disk appended
  have capacity : ((inMemory limit).appendAll disk appended).1.limit = max limit 1 := limit_appendAll ..
  have file := file_appendAll (inMemory limit) rfl disk appended
  generalize ((inMemory limit).appendAll disk appended).1 = log at *
  have records := holds.records
  have evicted := holds.evicted
  rw [List.nil_append, capacity] at records evicted
  have newest : log.records <:+ appended := records ▸ List.drop_suffix _ _
  refine ⟨newest, ?_, ?_, fun disk => ?_⟩
  · rw [records, List.length_drop]
    omega
  · omega
  · have held : ∀ r ∈ log.records, r.Fits := fun r member => fit r (newest.mem member)
    refine ⟨⟨linesOf log.records, log.evicted⟩, ?_, ⟨isLines_linesOf held, ?_⟩, rfl⟩
    · rw [toExport, file]
    · exact fun r member => AuditRecord.decodeText_line (held r member)

/-- Records whose texts hold line ends, quotes, controls and letters of other scripts. -/
def awkwardRecords : List AuditRecord :=
  let entry : QueueEntry :=
    { id := ⟨Uuid.ofNat 1⟩, originalTask := ⟨Uuid.ofNat 2⟩, currentTask := none, lastTask := ⟨Uuid.ofNat 3⟩,
      scope := .sources ["\x00", "\"ключ\"", "a\nb"], status := .failed, attempts := 1, maxAttempts := 5,
      mode := .auto, cooldownUntil := some ⟨1483228799, 1500000000⟩, lastAttemptAt := none,
      lastError := some "E\\\u2028\x7f", note := some "one\ntwo\r\n\"three\"", createdAt := .epoch, updatedAt := none }
  [.event ⟨0, ⟨Uuid.ofNat 2⟩, .failed, .epoch, some "\n", some ⟨"\t", none, some "日本"⟩⟩,
    .mutation ⟨.created, entry, some "ops\n", .epoch⟩]

/-- The older of two such records is evicted and counted, and the other one is read back. -/
theorem memory_export_of_awkward_texts :
    (∀ r ∈ awkwardRecords, r.Fits) ∧
      ((inMemory 0).appendAll .empty awkwardRecords).1.AccountsFor (max 0 1) awkwardRecords := by
  have fit : ∀ r ∈ awkwardRecords, r.Fits := by
    intro r member
    rcases List.mem_cons.mp member with rfl | member
    · exact ⟨by decide, by decide⟩
    · obtain rfl := List.mem_singleton.mp member
      exact ⟨⟨⟨[" a\nb\n", "\"ключ\"", "\r\x00"], rfl⟩, by decide, by decide,
        fun t found => Option.some.inj found ▸ by decide, nofun, by decide, nofun⟩, by decide⟩
  exact ⟨fit, memory_export_reports_what_it_lacks 0 .empty fit⟩

end AuditLog

end Reindexing

/-! ### Logs with a file -/

namespace Reindexing.AuditLog

variable {path content : String} {records : List AuditRecord} {log next : AuditLog} {disk later : Disk}

/-- A log was opened, any number of times, and all records were appended to its file, which held
some text before. -/
inductive Written (path content : String) : List AuditRecord → AuditLog → Disk → Prop where
  | opened {disk later : Disk} {log : AuditLog} {limit handle : Nat} (sound : disk.Sound)
      (opens : withFile path limit disk = (later, .ok log)) (file : log.file = some ⟨path, .file handle, ""⟩)
      (held : disk.textOf handle = some content) : Written path content [] log later
  | reopened {records : List AuditRecord} {log next : AuditLog} {disk later : Disk} {limit : Nat}
      (before : Written path content records log disk) (opens : withFile path limit disk = (later, .ok next)) :
      Written path content records next later
  | appended {records : List AuditRecord} {log next : AuditLog} {disk later : Disk} {r : AuditRecord}
      (before : Written path content records log disk) (appends : log.append r disk = (next, later, none)) :
      Written path content (records ++ [r]) next later

/-- The log has the file at a path open, which holds some text, and owes it nothing. -/
structure Holding (path text : String) (log : AuditLog) (disk : Disk) : Prop where
  unwritten : log.unwritten = 0
  file : ∃ handle place, log.file = some ⟨path, .file handle, ""⟩ ∧ disk.locate true [] path = .ok place ∧
    disk.node? place = some (.file handle) ∧ disk.contents[handle]? = some (some text)

/-- What happens when a log is opened. -/
theorem withFile_ok {limit : Nat} (opens : withFile path limit disk = (later, .ok log)) :
    ∃ made place node, disk.makeDirectories [] (Disk.pathOf path).dropLast = .ok made ∧
      made.locate true [] path = .ok place ∧ made.openAppend place = .ok (later, node) ∧
      log = { inMemory limit with file := some ⟨path, node, ""⟩ } := by
  unfold withFile at opens
  split at opens
  · cases opens
  · next made created =>
    split at opens
    · cases opens
    · next opened =>
      cases opens
      cases located : made.locate true [] path with
      | error fault => simp [located, bind, Except.bind] at opened
      | ok place => exact ⟨made, place, _, created, located, by simpa [located, bind, Except.bind] using opened, rfl⟩

theorem holding_of_opened {limit handle : Nat} (sound : disk.Sound)
    (opens : withFile path limit disk = (later, .ok log)) (file : log.file = some ⟨path, .file handle, ""⟩)
    (held : disk.textOf handle = some content) :
    Holding path content log later := by
  obtain ⟨made, place, node, created, located, opened, rfl⟩ := withFile_ok opens
  obtain ⟨_, contents, sounds⟩ := Disk.makeDirectories_furnishes created
  obtain rfl : node = .file handle := congrArg AuditFile.node (Option.some.inj file)
  have held : made.textOf handle = some content := by
    rw [Disk.textOf, contents]
    exact held
  obtain ⟨keeps, known, _⟩ := Disk.openAppend_file opened
  exact ⟨rfl, handle, place, rfl, keeps.locate located true, known, Disk.contents_openAppend (sounds sound) opened held⟩

/-- A file that is there already is opened as it is. -/
theorem Holding.reopened {text : String} {limit : Nat} (holding : Holding path text log disk)
    (opens : withFile path limit disk = (later, .ok next)) : Holding path text next later := by
  obtain ⟨handle, place, _, located, known, held⟩ := holding.file
  obtain ⟨made, place', node, created, located', opened, rfl⟩ := withFile_ok opens
  obtain ⟨keeps, contents, _⟩ := Disk.makeDirectories_furnishes created
  have known := keeps place (.file handle) known
  obtain rfl : place = place' := Except.ok.inj ((keeps.locate located true).symm.trans located')
  rw [Disk.openAppend, known] at opened
  cases opened
  exact ⟨rfl, handle, place, rfl, located', known, contents ▸ held⟩

theorem Holding.appended {text : String} {r : AuditRecord} (holding : Holding path text log disk)
    (appends : log.append r disk = (next, later, none)) : Holding path (text ++ (r.line ++ "\n")) next later := by
  obtain ⟨handle, place, file, located, known, held⟩ := holding.file
  obtain ⟨after, written, nodes, text_held⟩ := Disk.append_file (r.line ++ "\n") held
  have keeps := Disk.keeps_of_nodes nodes
  have line : "" ++ r.line ++ "\n" = r.line ++ "\n" := by rw [String.empty_append]
  simp only [append, file, line, written] at appends
  obtain ⟨rfl, rfl, _⟩ := appends
  refine ⟨?_, handle, place, ?_, keeps.locate located true, keeps place _ known, text_held⟩
  · rw [unwritten_keep]
    exact holding.unwritten
  · rw [file_keep]

theorem Written.holding (written : Written path content records log disk) :
    Holding path (content ++ linesOf records) log disk := by
  induction written with
  | opened sound opens file held =>
    have opened := holding_of_opened sound opens file held
    simpa [linesOf] using opened
  | reopened before opens ih => exact ih.reopened opens
  | @appended records _ _ _ _ r before appends ih =>
    have next := ih.appended appends
    rw [String.append_assoc, ← linesOf_concat] at next
    exact next

/-- Nothing is lost on the way into the export. -/
theorem Holding.toExport {text : String} (holding : Holding path text log disk) :
    log.toExport disk = .ok ⟨text, 0⟩ := by
  obtain ⟨handle, place, file, located, known, held⟩ := holding.file
  have place_read := (Disk.Keeps.refl disk).locate located false
  have text_read := Disk.read_file known held
  simp [AuditLog.toExport, toExport.read, file, place_read, text_read, holding.unwritten, bind, Except.bind]

/-- Lines that are written behind a text are listed if the text ended its last line, and only then. -/
theorem lists_behind_iff (content : String) (fit : ∀ r ∈ records, r.Fits) (before : List String) :
    (AuditExport.mk (content ++ linesOf records) 0).Lists before records ↔ Text.IsLines content before := by
  have lines := isLines_linesOf fit
  constructor
  · intro listed
    exact lines.of_append listed.lines
  · intro front
    exact ⟨front.append lines, fun r member => AuditRecord.decodeText_line (fit r member)⟩

/-- The export of a log with a file is the text that the file held before and then a line for each
record, whatever was evicted from memory; nothing is missing. The records are its last lines, each on a
line of its own, if the text before ended its last line, and only then. -/
theorem file_export_lists_records_behind_whole_lines (written : Written path content records log disk)
    (fit : ∀ r ∈ records, r.Fits) :
    ∃ e, log.toExport disk = .ok e ∧ e.body = content ++ linesOf records ∧ e.missing = 0 ∧
      (∀ before, e.Lists before records ↔ Text.IsLines content before) ∧
      ((∃ before, e.Lists before records) ↔ content = "" ∨ content.toList.getLast? = some '\n') := by
  have lists := lists_behind_iff content fit
  refine ⟨_, written.holding.toExport, rfl, rfl, lists, ?_⟩
  rw [exists_congr lists]
  exact Text.isLines_iff content

/-- An event of a task that was just created. -/
def queuedRecord (sequence : Nat) : AuditRecord :=
  .event ⟨sequence, ⟨Uuid.ofNat 1⟩, .queued, ⟨1767225600, 0⟩, none, none⟩

theorem fits_queuedRecord {sequence : Nat} (small : sequence ≤ Word.max64) : (queuedRecord sequence).Fits := by
  have timestamp : Instant.Expressible ⟨1767225600, 0⟩ := by decide
  exact HistoryEvent.Fits.mk small timestamp

/-- A log that holds at most one record in memory and has a file open. -/
def openLog (path : String) : AuditLog := { inMemory 1 with file := some ⟨path, .file 0, ""⟩ }

/-- A disk with some directories and one file. -/
def diskWith (directories : List Path) (file : Path) (text : String) : Disk :=
  ⟨directories.map (·, .directory) ++ [(file, .file 0)], [some text]⟩

theorem append_diskWith {directories : List Path} {place : Path} {text : String} (r : AuditRecord)
    (file : log.file = some ⟨path, .file 0, ""⟩) :
    log.append r (diskWith directories place text) =
      (log.keep r, diskWith directories place (text ++ (r.line ++ "\n")), none) := by
  obtain ⟨held, _, limit, evicted, unwritten⟩ := log
  obtain rfl := file
  simp [append, Disk.append, diskWith, List.modify]

/-- Two records are written to a new file, one of which is evicted from memory, and a third one after the
file was opened again. -/
theorem file_export_over_two_openings : ∃ log disk,
    Written "audit/reindex.jsonl" "" [queuedRecord 0, queuedRecord 1, queuedRecord 2] log disk ∧
      log.records = [queuedRecord 2] ∧ ∃ e, log.toExport disk = .ok e ∧ e.missing = 0 ∧
        e.Lists [] [queuedRecord 0, queuedRecord 1, queuedRecord 2] := by
  have fit : ∀ r ∈ [queuedRecord 0, queuedRecord 1, queuedRecord 2], r.Fits := by
    intro r member
    simp only [List.mem_cons, List.not_mem_nil, or_false] at member
    rcases member with rfl | rfl | rfl <;> exact fits_queuedRecord (by decide)
  have sound : Disk.empty.Sound := nofun
  have opens : withFile "audit/reindex.jsonl" 1 .empty =
      (diskWith [["audit"]] ["audit", "reindex.jsonl"] "", .ok (openLog "audit/reindex.jsonl")) := rfl
  have reopens (text : String) :
      withFile "audit/reindex.jsonl" 1 (diskWith [["audit"]] ["audit", "reindex.jsonl"] text) =
        (diskWith [["audit"]] ["audit", "reindex.jsonl"] text, .ok (openLog "audit/reindex.jsonl")) := rfl
  have opened : Written "audit/reindex.jsonl" "" [] _ _ := .opened sound opens rfl rfl
  have first := opened.appended (append_diskWith (queuedRecord 0) rfl)
  have second := first.appended (append_diskWith (queuedRecord 1) rfl)
  have third := (second.reopened (reopens _)).appended (append_diskWith (queuedRecord 2) rfl)
  obtain ⟨e, exported, _, missing, lists, _⟩ := file_export_lists_records_behind_whole_lines third fit
  exact ⟨_, _, third, rfl, e, exported, missing, (lists []).mpr Text.isLines_empty⟩

/-- The start of a line, as a write that was cut off leaves it. -/
def cutOffLine : String := "\x7b\"record\":\"history_ev"

/-- The first record behind a line that was cut off becomes a part of that line. -/
theorem record_joins_a_cut_off_line : ∃ log disk,
    Written "audit.jsonl" cutOffLine [queuedRecord 0] log disk ∧ (queuedRecord 0).Fits ∧
      ∃ e, log.toExport disk = .ok e ∧ e.body = cutOffLine ++ ((queuedRecord 0).line ++ "\n") ∧
        ∀ before, ¬ e.Lists before [queuedRecord 0] := by
  have fits : (queuedRecord 0).Fits := fits_queuedRecord (by decide)
  have fit : ∀ r ∈ [queuedRecord 0], r.Fits := fun r member => List.mem_singleton.mp member ▸ fits
  have sound : (diskWith [] ["audit.jsonl"] cutOffLine).Sound := by
    intro named member handle is_file
    obtain rfl := List.mem_singleton.mp member
    cases is_file
    exact Nat.one_pos
  have opens : withFile "audit.jsonl" 1 (diskWith [] ["audit.jsonl"] cutOffLine) =
      (diskWith [] ["audit.jsonl"] cutOffLine, .ok (openLog "audit.jsonl")) := rfl
  have opened : Written "audit.jsonl" cutOffLine [] _ _ := .opened sound opens rfl rfl
  have written := opened.appended (append_diskWith (queuedRecord 0) rfl)
  have body : linesOf [queuedRecord 0] = (queuedRecord 0).line ++ "\n" := by simp [linesOf]
  refine ⟨_, _, written, fits, _, written.holding.toExport, congrArg (cutOffLine ++ ·) body, fun before listed => ?_⟩
  have front := (lists_behind_iff cutOffLine fit before).mp listed
  rcases (Text.isLines_iff cutOffLine).mp ⟨before, front⟩ with empty | ended
  · exact absurd empty (by decide)
  · exact absurd ended (by decide)

end Reindexing.AuditLog
