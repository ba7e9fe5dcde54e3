import PresenceLogger.Library.SqliteSession

/-!
# The schema of the record inbox

`RecordInboxRepository.init` on any file, and its migration of an inbox whose rows could
not fail yet.
-/

namespace PresenceLogger.Bridge

open Library Sqlite

/-- `PRAGMAS` -/
def recordPragmas : List String := ["journal_mode = WAL", "synchronous = NORMAL"]

/-- A column without a constraint on its values. -/
def plainColumn (name : String) (notNull : Bool) (affinity : Affinity) (default : Cell) :
    Column where
  name := name
  affinity := affinity
  notNull := notNull
  default := default

def recordStatusColumn (statuses : List String) : Column where
  name := "status"
  affinity := .text
  notNull := true
  values := some statuses

/-- The columns of an inbox with these statuses and these last columns. -/
def recordColumns (statuses : List String) (last : List Column) : List Column :=
  [plainColumn "event_id" false .text .null, plainColumn "mk_date" true .text .null,
    plainColumn "sta_no1" true .text .null, plainColumn "sta_no2" true .text .null,
    plainColumn "sta_no3" true .text .null, plainColumn "t1_status" true .integer .null,
    plainColumn "device_id" false .text .null, plainColumn "raw_payload" true .text .null,
    recordStatusColumn statuses, plainColumn "received_at_iso" true .text .null,
    plainColumn "sent_at_iso" false .text .null, plainColumn "mk_date_committed" false .text .null,
    plainColumn "retry_count" true .integer (.integer 0),
    plainColumn "next_retry_at_iso" false .text .null,
    plainColumn "last_error" false .text .null] ++
  last

/-- The table of `SCHEMA`, and of `_MIGRATE_ADD_FAILED_STATUS`. -/
def recordSchema : Definition where
  columns := recordColumns ["received", "sent", "failed"]
    [plainColumn "failed_at_iso" false .text .null]
  primaryKey := ["event_id"]
  body :=
    "(\n" ++
    "  event_id            TEXT PRIMARY KEY,\n" ++
    "  mk_date             TEXT NOT NULL,\n" ++
    "  sta_no1             TEXT NOT NULL,\n" ++
    "  sta_no2             TEXT NOT NULL,\n" ++
    "  sta_no3             TEXT NOT NULL,\n" ++
    "  t1_status           INTEGER NOT NULL,\n" ++
    "  device_id           TEXT,\n" ++
    "  raw_payload         TEXT NOT NULL,\n" ++
    "  status              TEXT NOT NULL CHECK(status IN ('received','sent','failed')),\n" ++
    "  received_at_iso     TEXT NOT NULL,\n" ++
    "  sent_at_iso         TEXT,\n" ++
    "  mk_date_committed   TEXT,\n" ++
    "  retry_count         INTEGER NOT NULL DEFAULT 0,\n" ++
    "  next_retry_at_iso   TEXT,\n" ++
    "  last_error          TEXT,\n" ++
    "  failed_at_iso       TEXT\n" ++
    ")"

def statusRetryIndex : String := "idx_record_inbox_status_retry"

def statusRetryColumns : List String := ["status", "next_retry_at_iso"]

def createStatusRetryIndex : Change :=
  .createIndex statusRetryIndex "record_inbox" statusRetryColumns

/-- `SCHEMA` -/
def recordSchemaScript : List Statement :=
  [.change (.createTable true "record_inbox" recordSchema), .change createStatusRetryIndex]

/-- The columns `_MIGRATE_ADD_FAILED_STATUS` copies. -/
def copiedRecordColumns : List String :=
  ["event_id", "mk_date", "sta_no1", "sta_no2", "sta_no3", "t1_status", "device_id", "raw_payload",
    "status", "received_at_iso", "sent_at_iso", "mk_date_committed", "retry_count",
    "next_retry_at_iso", "last_error"]

/-- The changes of `_MIGRATE_ADD_FAILED_STATUS`. -/
def addFailedStatusChanges : List Change :=
  [.renameTable "record_inbox" "record_inbox_old",
    .createTable false "record_inbox" recordSchema,
    .insertSelect "record_inbox" copiedRecordColumns "record_inbox_old",
    .dropTable "record_inbox_old",
    createStatusRetryIndex]

section Repository

variable {conversion : Conversion}

/-- `_migrate_add_failed_status` -/
def migrateAddFailedStatus : Session conversion Unit := do
  let cols ← Session.query fun catalog => catalog.tableInfo "record_inbox"
  if "failed_at_iso" ∈ cols then pure ()
  else
    Session.executescript
      (.beginTransaction false :: (addFailedStatusChanges.map .change ++ [.commit]))

/-- `RecordInboxRepository.init` -/
def initRecordInbox : Session conversion Unit := do
  Session.executeAll (recordPragmas.map .pragma)
  Session.executescript recordSchemaScript
  migrateAddFailedStatus

/-- A file with an inbox whose rows cannot fail, with its index or without. -/
structure IsOldRecordInbox (table : StoredTable conversion) (file : Catalog conversion) :
    Prop where
  holds : file "record_inbox" = some (.table table)
  columns : table.definition.columns = recordColumns ["received", "sent"] []
  primaryKey : table.definition.primaryKey = ["event_id"]
  free : file "record_inbox_old" = none
  index : file statusRetryIndex = none ∨
    file statusRetryIndex = some (.index "record_inbox" statusRetryColumns)

/-- The inbox has the new schema, its index and the rows of the old one. -/
def IsMigratedRecordInbox (table : StoredTable conversion) (file : Catalog conversion) : Prop :=
  IsMigrated "record_inbox" table recordSchema file ∧
    file statusRetryIndex = some (.index "record_inbox" statusRetryColumns)

variable {table : StoredTable conversion} {file : Catalog conversion}

theorem recordSchema_extends {definition : Definition}
    (columns : definition.columns = recordColumns ["received", "sent"] [])
    (primaryKey : definition.primaryKey = ["event_id"]) : recordSchema.Extends definition where
  columns := by
    refine ⟨recordColumns ["received", "sent", "failed"] [],
      [plainColumn "failed_at_iso" false .text .null], rfl, ?_, ?_⟩
    · have looser : (recordStatusColumn ["received", "sent", "failed"]).Loosens
          (recordStatusColumn ["received", "sent"]) := by
        refine ⟨rfl, rfl, fun cell admits => ⟨admits.1, fun values isValues => ?_⟩⟩
        cases isValues
        refine (admits.2 _ rfl).imp_right fun listed => ?_
        simp at listed ⊢
        tauto
      rw [columns]
      simp [recordColumns, looser]
    · simp [Definition.column?_eq_none_iff, columns, recordColumns, plainColumn,
        recordStatusColumn, Column.Admits]
  primaryKey := primaryKey.symm

theorem mem_copiedRecordColumns_iff {definition : Definition}
    (columns : definition.columns = recordColumns ["received", "sent"] []) {name : String} :
    name ∈ copiedRecordColumns ↔ definition.column? name ≠ none := by
  rw [Ne, Definition.column?_eq_none_iff, columns, not_not]
  rfl

theorem statusRetryColumns_known {definition : Definition} {statuses : List String}
    {last : List Column} (columns : definition.columns = recordColumns statuses last) :
    ∀ column ∈ statusRetryColumns, definition.column? column ≠ none := by
  intro column listed
  rw [Ne, Definition.column?_eq_none_iff, columns, not_not]
  simp only [statusRetryColumns, List.mem_cons, List.not_mem_nil, or_false] at listed
  rcases listed with rfl | rfl <;> simp [recordColumns, plainColumn, recordStatusColumn]

/-- `SCHEMA` adds at most the index to an old inbox. -/
theorem exists_indexed (old : IsOldRecordInbox table file) :
    ∃ indexed, createStatusRetryIndex.apply file = some indexed ∧
      IsOldRecordInbox table indexed := by
  obtain ⟨indexed, created, isIndex, others⟩ :=
    Catalog.exists_createIndex old.holds (statusRetryColumns_known old.columns) old.index
  refine ⟨indexed, created, ?_, old.columns, old.primaryKey, ?_, .inr isIndex⟩
  · rw [others _ (by decide), old.holds]
  · rw [others _ (by decide), old.free]

open Session in
/-- `SCHEMA` where there is an inbox. -/
theorem triple_recordSchemaScript {indexed : Catalog conversion}
    (holds : file "record_inbox" = some (.table table))
    (created : createStatusRetryIndex.apply file = some indexed) :
    Triple (At file) (executescript recordSchemaScript) (fun _ => At indexed) (Untouched file) := by
  have present : (Change.createTable true "record_inbox" recordSchema).apply file = some file :=
    Catalog.createTable_of_table holds recordSchema
  apply triple_executescript
  apply triple_bind (triple_change present)
  intro _
  apply triple_bind (triple_change created)
  intro _
  exact triple_pure fun _ start => start

/-- The migration makes a new inbox of an old one. -/
theorem exists_addFailedStatus (old : IsOldRecordInbox table file) :
    ∃ next, applyAll file addFailedStatusChanges = some next ∧
      IsMigratedRecordInbox table next := by
  obtain ⟨moved, renamed, isOld, free, others⟩ := Catalog.exists_renameTable old.holds old.free
  set created := Function.update moved "record_inbox"
    (some (.table (.empty recordSchema "record_inbox"))) with isCreated
  have target : created "record_inbox" = some (.table (.empty recordSchema "record_inbox")) :=
    Function.update_self ..
  have source := isOld
  rw [← Function.update_of_ne (show "record_inbox_old" ≠ "record_inbox" by decide) _ moved,
    ← isCreated] at source
  obtain ⟨filled, sameDefinition, -, rows, copied⟩ :=
    Catalog.insertSelect_into_empty target source (recordSchema_extends old.columns old.primaryKey)
      fun _ => mem_copiedRecordColumns_iff old.columns
  set full := Function.update created "record_inbox" (some (.table filled)) with isFull
  have still := source
  rw [← Function.update_of_ne (show "record_inbox_old" ≠ "record_inbox" by decide)
    (some (.table filled)) created, ← isFull] at still
  obtain ⟨bare, dropped, -, kept⟩ := Catalog.exists_dropTable still
  have isFilled : bare "record_inbox" = some (.table filled) := by
    rw [kept _ (by decide), isFull, Function.update_self]
    rfl
  -- The index went along with the old table.
  have noIndex : bare statusRetryIndex = none := by
    rw [kept _ (by decide), isFull, Function.update_of_ne (by decide), isCreated,
      Function.update_of_ne (by decide), others _ (by decide) (by decide)]
    rcases old.index with none | onOld
    · rw [none]
      rfl
    · rw [onOld]
      rfl
  have newColumns : filled.definition.columns =
      recordColumns ["received", "sent", "failed"]
        [plainColumn "failed_at_iso" false .text .null] := by
    rw [sameDefinition]
    rfl
  obtain ⟨next, indexed, isIndex, same⟩ :=
    Catalog.exists_createIndex isFilled (statusRetryColumns_known newColumns) (.inl noIndex)
  refine ⟨next, ?_, ⟨filled, ?_, sameDefinition, keepsRows_of_rows_eq rows⟩, isIndex⟩
  · rw [addFailedStatusChanges]
    exact applyAll_cons renamed (applyAll_cons (Catalog.createTable_of_free free false recordSchema)
      (applyAll_cons copied (applyAll_cons dropped (applyAll_cons indexed rfl))))
  · rw [same _ (by decide), isFilled]

open Session in
/-- The repository upgrades its file. -/
theorem upgrades_initRecordInbox (table : StoredTable conversion) :
    (initRecordInbox : Session conversion Unit).Upgrades (IsOldRecordInbox table)
      (IsMigratedRecordInbox table) where
  upgrades := by
    intro file old
    obtain ⟨indexed, created, oldIndexed⟩ := exists_indexed old
    obtain ⟨next, applies, migrated⟩ := exists_addFailedStatus oldIndexed
    have untouched : ∀ connection, Untouched file connection →
        IsOldRecordInbox table connection.file := by
      rintro connection rfl
      exact old
    have untouchedIndexed : ∀ connection, Untouched indexed connection →
        IsOldRecordInbox table connection.file := by
      rintro connection rfl
      exact oldIndexed
    apply triple_bind (triple_pragmas.mono (fun _ => id) (fun _ _ => id) untouched)
    intro _
    have schema := triple_recordSchemaScript old.holds created
    apply triple_bind (schema.mono (fun _ => id) (fun _ _ => id) untouched)
    intro _
    apply triple_bind ((triple_query _ _).mono (fun _ => id) (fun _ _ => id) untouchedIndexed)
    rintro cols world ⟨rfl, start⟩
    have absent : "failed_at_iso" ∉ indexed.tableInfo "record_inbox" := by
      simp only [Catalog.tableInfo, oldIndexed.holds, oldIndexed.columns]
      decide
    rw [if_neg absent]
    apply (triple_executescript (triple_transaction applies false)).mono (fun _ => id) _
      untouchedIndexed world start
    rintro _ connection ⟨rfl, -⟩
    exact migrated
  keeps := by
    rintro file ⟨⟨kept, holds, isNew, -⟩, index⟩
    have created : createStatusRetryIndex.apply file = some file := by
      simp only [createStatusRetryIndex, Change.apply, Catalog.createIndex, index]
    apply triple_bind triple_pragmas
    intro _
    apply triple_bind (triple_recordSchemaScript holds created)
    intro _
    apply triple_bind (triple_query _ _)
    rintro cols world ⟨rfl, start⟩
    have present : "failed_at_iso" ∈ file.tableInfo "record_inbox" := by
      simp only [Catalog.tableInfo, holds, isNew]
      decide
    rw [if_pos present]
    exact ⟨List.Subset.refl _, start.1⟩

end Repository

end PresenceLogger.Bridge
