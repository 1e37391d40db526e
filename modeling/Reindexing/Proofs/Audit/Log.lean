import Reindexing.Audit

/-!
# What an audit log holds in memory

Whether there is a file or not, a log holds the newest of the records that were
appended to it, as many as its limit allows, and counts the others as evicted.
-/
namespace Reindexing.AuditLog

/-- A log that takes records one after the other. -/
def appendAll (log : AuditLog) (disk : Disk) : List AuditRecord → AuditLog × Disk
  | [] => (log, disk)
  | r :: rest => (log.append r disk).1.appendAll (log.append r disk).2.1 rest

theorem appendAll_append (log : AuditLog) (disk : Disk) (first second : List AuditRecord) :
    log.appendAll disk (first ++ second) =
      (log.appendAll disk first).1.appendAll (log.appendAll disk first).2 second := by
  induction first generalizing log disk with
  | nil => rfl
  | cons r rest ih => exact ih (log.append r disk).1 (log.append r disk).2.1

/-- The log holds the newest of some records and has evicted the others. -/
structure Holds (log : AuditLog) (appended : List AuditRecord) : Prop where
  positive : 0 < log.limit
  records : log.records = appended.drop (appended.length - log.limit)
  evicted : log.evicted = appended.length - log.limit

variable {log : AuditLog} {appended : List AuditRecord}

theorem holds_inMemory (limit : Nat) : (inMemory limit).Holds [] where
  positive := Nat.lt_of_lt_of_le Nat.one_pos (Nat.le_max_right limit 1)
  records := List.drop_nil.symm
  evicted := (Nat.zero_sub _).symm

@[simp] theorem limit_keep (log : AuditLog) (r : AuditRecord) : (log.keep r).limit = log.limit := by
  unfold keep
  split <;> rfl

@[simp] theorem file_keep (log : AuditLog) (r : AuditRecord) : (log.keep r).file = log.file := by
  unfold keep
  split <;> rfl

@[simp] theorem unwritten_keep (log : AuditLog) (r : AuditRecord) : (log.keep r).unwritten = log.unwritten := by
  unfold keep
  split <;> rfl

theorem Holds.keep (holds : log.Holds appended) (r : AuditRecord) : (log.keep r).Holds (appended ++ [r]) := by
  have positive := holds.positive
  have records := holds.records
  have evicted := holds.evicted
  have held : log.records.length = min appended.length log.limit := by
    rw [records, List.length_drop]
    omega
  unfold AuditLog.keep
  by_cases full : log.limit ≤ log.records.length
  · have enough : log.limit ≤ appended.length := by omega
    have next : (appended ++ [r]).length - log.limit = appended.length - log.limit + 1 := by
      rw [List.length_append, List.length_singleton]
      omega
    rw [if_pos full]
    refine ⟨positive, ?_, ?_⟩
    · change log.records.drop 1 ++ [r] = (appended ++ [r]).drop ((appended ++ [r]).length - log.limit)
      rw [next, List.drop_append_of_le_length (by omega), records, List.drop_drop]
    · change log.evicted + 1 = (appended ++ [r]).length - log.limit
      rw [next, evicted]
  · have room : appended.length < log.limit := by omega
    have none_evicted : appended.length - log.limit = 0 := by omega
    have next : (appended ++ [r]).length - log.limit = 0 := by
      rw [List.length_append, List.length_singleton]
      omega
    rw [none_evicted] at records evicted
    rw [if_neg full]
    refine ⟨positive, ?_, ?_⟩
    · change log.records ++ [r] = (appended ++ [r]).drop ((appended ++ [r]).length - log.limit)
      rw [next, records, List.drop_zero, List.drop_zero]
    · change log.evicted = (appended ++ [r]).length - log.limit
      rw [next, evicted]

/-- What a log does with a file has no part in what it keeps in memory. -/
theorem append_keeps (log : AuditLog) (r : AuditRecord) (disk : Disk) :
    ∃ written : AuditLog, (log.append r disk).1 = written.keep r ∧ written.limit = log.limit ∧
      written.records = log.records ∧ written.evicted = log.evicted := by
  unfold append
  split
  · exact ⟨log, rfl, rfl, rfl, rfl⟩
  · dsimp only
    split <;> exact ⟨_, rfl, rfl, rfl, rfl⟩

theorem Holds.append (holds : log.Holds appended) (r : AuditRecord) (disk : Disk) :
    (log.append r disk).1.Holds (appended ++ [r]) := by
  obtain ⟨written, kept, limit, records, evicted⟩ := log.append_keeps r disk
  rw [kept]
  refine Holds.keep ⟨?_, ?_, ?_⟩ r
  · exact limit ▸ holds.positive
  · rw [records, limit, holds.records]
  · rw [evicted, limit, holds.evicted]

theorem Holds.appendAll (holds : log.Holds appended) (disk : Disk) (records : List AuditRecord) :
    (log.appendAll disk records).1.Holds (appended ++ records) := by
  induction records generalizing log disk appended with
  | nil => simpa [AuditLog.appendAll] using holds
  | cons r rest ih =>
    have next := ih (holds.append r disk) (log.append r disk).2.1
    rw [List.append_assoc] at next
    exact next

/-- How many of the oldest records go when so many more come. -/
def excess (log : AuditLog) (more : Nat) : Nat := more - (log.limit - log.records.length)

theorem keep_gains (positive : 0 < log.limit) (r : AuditRecord) :
    (log.keep r).records = (log.records ++ [r]).drop (log.excess 1) ∧
      (log.keep r).evicted = log.evicted + log.excess 1 := by
  unfold AuditLog.keep
  split
  · next full =>
    have one : log.excess 1 = 1 := by
      rw [excess]
      omega
    rw [one, List.drop_append_of_le_length (by omega)]
    exact ⟨rfl, rfl⟩
  · next room =>
    have nothing : log.excess 1 = 0 := by
      rw [excess]
      omega
    rw [nothing]
    exact ⟨rfl, rfl⟩

theorem append_gains (positive : 0 < log.limit) (r : AuditRecord) (disk : Disk) :
    (log.append r disk).1.records = (log.records ++ [r]).drop (log.excess 1) ∧
      (log.append r disk).1.evicted = log.evicted + log.excess 1 ∧
      (log.append r disk).1.limit = log.limit := by
  obtain ⟨written, kept, limit, records, evicted⟩ := log.append_keeps r disk
  have room : written.excess 1 = log.excess 1 := by rw [excess, excess, limit, records]
  rw [kept, ← room, ← records, ← evicted]
  exact ⟨(keep_gains (limit ▸ positive) r).1, (keep_gains (limit ▸ positive) r).2, (limit_keep ..).trans limit⟩

/-- A log gains all records that are appended, and keeps the newest of what it held with them. -/
theorem appendAll_gains (positive : 0 < log.limit) (disk : Disk) (more : List AuditRecord) :
    (log.appendAll disk more).1.records = (log.records ++ more).drop (log.excess more.length) ∧
      (log.appendAll disk more).1.evicted = log.evicted + log.excess more.length := by
  induction more generalizing log disk with
  | nil => simp [AuditLog.appendAll, excess]
  | cons r rest ih =>
    obtain ⟨records, evicted, limit⟩ := append_gains positive r disk
    obtain ⟨records_rest, evicted_rest⟩ := ih (limit ▸ positive) (log.append r disk).2.1
    have held : (log.append r disk).1.records.length = log.records.length + 1 - log.excess 1 := by
      rw [records, List.length_drop, List.length_append, List.length_singleton]
    -- What goes for the first record and for the others goes for all of them.
    have sum : log.excess 1 + (log.append r disk).1.excess rest.length = log.excess (rest.length + 1) := by
      unfold excess at held ⊢
      rw [limit, held]
      omega
    have short : log.excess 1 ≤ (log.records ++ [r]).length := by
      rw [excess, List.length_append, List.length_singleton]
      omega
    rw [List.length_cons, AuditLog.appendAll, records_rest, evicted_rest, evicted, ← sum]
    refine ⟨?_, by omega⟩
    rw [records, ← List.drop_append_of_le_length short, List.drop_drop, List.append_assoc]
    rfl

@[simp] theorem limit_appendAll (log : AuditLog) (disk : Disk) (records : List AuditRecord) :
    (log.appendAll disk records).1.limit = log.limit := by
  induction records generalizing log disk with
  | nil => rfl
  | cons r rest ih =>
    obtain ⟨written, kept, limit, _⟩ := log.append_keeps r disk
    rw [appendAll, ih, kept, limit_keep, limit]

end Reindexing.AuditLog
