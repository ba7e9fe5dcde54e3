import Mathlib.Data.List.Infix
import PresenceLogger.Library.SqliteSession

/-!
# The schema of the delivery ledger

`DeliveryStore.__init__` on any file, and its migration of the ledger of a child that did
not know the NACK yet.
-/

namespace PresenceLogger.Child

open Library Sqlite

/-- `PRAGMAS` -/
def pragmas : List String := ["journal_mode = WAL", "synchronous = NORMAL"]

def ledgerStatuses : List String := ["pending", "acked", "legacy_unverified", "nacked"]

def statusColumn (values : List String) : Column where
  name := "status"
  affinity := .text
  notNull := true
  values := some values

def textColumn (name : String) (notNull : Bool) : Column where
  name := name
  affinity := .text
  notNull := notNull

/-- The columns of a ledger with these statuses and these last columns. -/
def ledgerColumns (statuses : List String) (last : List Column) : List Column :=
  [textColumn "destination" true, textColumn "event_id" true, textColumn "mk_date" true,
    textColumn "payload" true, statusColumn statuses,
    { name := "last_attempt_at", affinity := .real }, textColumn "acked_at" false] ++ last

/-- `_schema_sql`, behind the name of the table. -/
def schemaSql : Definition where
  columns := ledgerColumns ledgerStatuses
    [textColumn "nack_reason" false, textColumn "nacked_at" false]
  primaryKey := ["destination", "event_id"]
  body :=
    ("(\n" ++
      "  destination      TEXT NOT NULL,\n" ++
      "  event_id         TEXT NOT NULL,\n" ++
      "  mk_date          TEXT NOT NULL,\n" ++
      "  payload          TEXT NOT NULL,\n" ++
      "  status           TEXT NOT NULL\n") ++
    "                   CHECK(status IN ('pending','acked','legacy_unverified','nacked')),\n" ++
    ("  last_attempt_at  REAL,\n" ++
      "  acked_at         TEXT,\n" ++
      "  nack_reason      TEXT,\n" ++
      "  nacked_at        TEXT,\n" ++
      "  PRIMARY KEY (destination, event_id)\n" ++
      ")")

/-- `"'nacked'" in sql` -/
def mentionsNacked (sql : String) : Bool := "'nacked'".toList <:+: sql.toList

/-- The columns `_migrate` copies. -/
def copiedColumns : List String :=
  ["destination", "event_id", "mk_date", "payload", "status", "last_attempt_at", "acked_at"]

/-- The changes of `_migrate`. -/
def migrationChanges : List Change :=
  [.createTable true "delivery_new" schemaSql,
    .insertSelect "delivery_new" copiedColumns "delivery",
    .dropTable "delivery",
    .renameTable "delivery_new" "delivery"]

section Store

variable {conversion : Conversion}

/-- `_migrate` -/
def migrate : Session conversion Unit :=
  Session.onError
    (Session.executeAll
      (.beginTransaction true :: (migrationChanges.map .change ++ [.commit])))
    (Session.execute .rollback)

/-- `_ensure_schema` -/
def ensureSchema : Session conversion Unit := do
  let row ← Session.query fun catalog => catalog.tableSql "delivery"
  match row with
  | none => Session.executescript [.change (.createTable true "delivery" schemaSql)]
  | some sql => if mentionsNacked sql then pure () else migrate

/-- `DeliveryStore.__init__` -/
def openDeliveryStore : Session conversion Unit := do
  Session.executeAll (pragmas.map .pragma)
  ensureSchema

/-- A file with a ledger that knows no NACK. -/
structure IsOldLedger (file : Catalog conversion) (table : StoredTable conversion) : Prop where
  holds : file "delivery" = some (.table table)
  columns : table.definition.columns =
    ledgerColumns ["pending", "acked", "legacy_unverified"] []
  primaryKey : table.definition.primaryKey = ["destination", "event_id"]
  sql : mentionsNacked table.sql = false
  free : file "delivery_new" = none

variable {table : StoredTable conversion} {file : Catalog conversion}

/-! ## The migration -/

theorem mentionsNacked_schemaSql (isNew : table.definition = schemaSql) :
    mentionsNacked table.sql = true := by
  have listed : "'nacked'".toList <:+:
      "                   CHECK(status IN ('pending','acked','legacy_unverified','nacked')),\n".toList := by
    decide +kernel
  unfold mentionsNacked
  rw [decide_eq_true_eq, StoredTable.sql, isNew, schemaSql]
  simp only [String.toList_append]
  exact (listed.trans (List.infix_append ..)).trans (List.suffix_append ..).isInfix

theorem schemaSql_extends (old : IsOldLedger file table) : schemaSql.Extends table.definition where
  columns := by
    refine ⟨ledgerColumns ledgerStatuses [],
      [textColumn "nack_reason" false, textColumn "nacked_at" false], rfl, ?_, ?_⟩
    · have looser : (statusColumn ledgerStatuses).Loosens
          (statusColumn ["pending", "acked", "legacy_unverified"]) := by
        refine ⟨rfl, rfl, fun cell admits => ⟨admits.1, fun values isValues => ?_⟩⟩
        cases isValues
        refine (admits.2 _ rfl).imp_right fun listed => ?_
        simp [ledgerStatuses] at listed ⊢
        tauto
      rw [old.columns]
      simp [ledgerColumns, looser]
    · simp [Definition.column?_eq_none_iff, old.columns, ledgerColumns, textColumn, statusColumn,
        Column.Admits]
  primaryKey := old.primaryKey.symm

theorem mem_copiedColumns_iff (old : IsOldLedger file table) {name : String} :
    name ∈ copiedColumns ↔ table.definition.column? name ≠ none := by
  rw [Ne, Definition.column?_eq_none_iff, old.columns, not_not]
  rfl

/-- The changes make a migrated ledger. -/
theorem exists_migrationChanges (old : IsOldLedger file table) :
    ∃ next, applyAll file migrationChanges = some next ∧
      IsMigrated "delivery" table schemaSql next := by
  set created :=
    Function.update file "delivery_new" (some (.table (.empty schemaSql "delivery_new")))
    with isCreated
  have target : created "delivery_new" = some (.table (.empty schemaSql "delivery_new")) :=
    Function.update_self ..
  have source : created "delivery" = some (.table table) := by
    rw [isCreated, Function.update_of_ne (by decide), old.holds]
  obtain ⟨filled, sameDefinition, -, rows, copied⟩ :=
    @Catalog.insertSelect_into_empty conversion created "delivery_new" "delivery" schemaSql
      "delivery_new" table copiedColumns target source (schemaSql_extends old)
      fun _ => mem_copiedColumns_iff old
  set full := Function.update created "delivery_new" (some (.table filled)) with isFull
  have still : full "delivery" = some (.table table) := by
    rw [isFull, Function.update_of_ne (by decide), source]
  obtain ⟨bare, dropped, gone, kept⟩ := Catalog.exists_dropTable still
  have moved : bare "delivery_new" = some (.table filled) := by
    rw [kept "delivery_new" (by decide), isFull, Function.update_self]
    rfl
  obtain ⟨next, renamed, isNext, -⟩ := Catalog.exists_renameTable moved gone
  refine ⟨next, ?_, _, isNext, sameDefinition, keepsRows_of_rows_eq rows⟩
  rw [migrationChanges]
  exact applyAll_cons (Catalog.createTable_of_free old.free true schemaSql)
    (applyAll_cons copied (applyAll_cons dropped (applyAll_cons renamed rfl)))

open Session in
theorem triple_migrate (old : IsOldLedger file table) :
    Triple (At file) migrate
      (fun _ connection => IsMigrated "delivery" table schemaSql connection.file)
      (Untouched file) := by
  obtain ⟨next, applies, migrated⟩ := exists_migrationChanges old
  have transaction := triple_transaction applies true
  apply triple_onError
  · apply transaction.mono (fun _ => id) _ fun _ => id
    rintro _ connection ⟨rfl, -⟩
    exact migrated
  · exact fun world => execute_rollback

open Session in
/-- The store upgrades its file. -/
theorem upgrades_openDeliveryStore (old : IsOldLedger file table) :
    (openDeliveryStore : Session conversion Unit).Upgrades (· = file)
      (IsMigrated "delivery" table schemaSql) where
  upgrades := by
    rintro _ rfl
    apply triple_bind triple_pragmas
    intro _
    apply triple_bind (triple_query _ _)
    rintro sql world ⟨rfl, start⟩
    simp only [Catalog.tableSql, old.holds, old.sql]
    exact triple_migrate old world start
  keeps := by
    rintro migrated ⟨kept, holds, isNew, -⟩
    apply triple_bind triple_pragmas
    intro _
    apply triple_bind (triple_query _ _)
    rintro sql world ⟨rfl, start⟩
    simp only [Catalog.tableSql, holds, mentionsNacked_schemaSql isNew]
    exact ⟨List.Subset.refl _, start.1⟩

end Store

end PresenceLogger.Child
