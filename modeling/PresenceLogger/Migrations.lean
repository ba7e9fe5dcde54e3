import PresenceLogger.Bridge.RecordSchema
import PresenceLogger.Child.DeliverySchema

/-!
# The schema migrations

The child's ledger is migrated statement by statement under a handler, the bridge's inbox
by one script.  Either way an open that is cut short anywhere leaves the old table or the
complete new one, and the next one goes on from there.
-/

namespace PresenceLogger

open Library Sqlite Child Bridge

section Safety

variable {conversion : Conversion} {session : Session conversion Unit} {name : String}
  {table : StoredTable conversion} {extended : Definition} {file : Catalog conversion}

/-- Any number of opens, each with its endings, migrate the table of the file or leave it. -/
structure MigratesSafely (session : Session conversion Unit) (name : String)
    (table : StoredTable conversion) (extended : Definition) (file : Catalog conversion) :
    Prop where
  /-- Wherever they were cut short, the old table is there or the complete new one. -/
  intact : ∀ attempts, session.reopened file attempts name = some (.table table) ∨
    IsMigrated name table extended (session.reopened file attempts)
  /-- The next one succeeds where nothing disturbs it. -/
  returns : ∀ attempts endings, (∀ ending ∈ endings, ending = .done) →
    (session.onFile (session.reopened file attempts) endings).1 = .returned ()
  /-- One that succeeds has lost no row. -/
  migrates : ∀ attempts endings,
    (session.onFile (session.reopened file attempts) endings).1 = .returned () →
      IsMigrated name table extended (session.onFile (session.reopened file attempts) endings).2
  /-- A migrated file is not changed any more. -/
  settles : ∀ attempts, IsMigrated name table extended (session.reopened file attempts) →
    ∀ more, session.reopened (session.reopened file attempts) more = session.reopened file attempts

theorem migratesSafely_of_upgrades {old new : Catalog conversion → Prop}
    (upgrades : session.Upgrades old new) (start : old file)
    (holds : ∀ file, old file → file name = some (.table table))
    (migrated : ∀ file, new file → IsMigrated name table extended file)
    (different : table.definition ≠ extended) :
    MigratesSafely session name table extended file where
  intact attempts := (upgrades.reopened_old start attempts).imp (holds _) (migrated _)
  returns attempts endings undisturbed :=
    (upgrades.onFile_of_done (upgrades.reopened_old start attempts) undisturbed).1
  migrates attempts endings returned := by
    apply migrated
    rcases upgrades.reopened_old start attempts with still | upgraded
    · exact ((upgrades.old_onFile still endings).resolve_right fun cut => cut.1 returned).2
    · rw [(upgrades.new_onFile upgraded endings).1]
      exact upgraded
  settles attempts isMigrated more := by
    obtain ⟨kept, isKept, isNew, -⟩ := isMigrated
    rcases upgrades.reopened_old start attempts with still | upgraded
    · rw [holds _ still] at isKept
      cases isKept
      exact absurd isNew different
    · exact upgrades.reopened_new upgraded more

end Safety

/-- Neither migration loses a row, wherever it is cut short. -/
theorem migrations_keep_rows (conversion : Conversion) :
    (∀ (file : Catalog conversion) (table : StoredTable conversion), IsOldLedger file table →
      MigratesSafely openDeliveryStore "delivery" table schemaSql file) ∧
    ∀ (file : Catalog conversion) (table : StoredTable conversion), IsOldRecordInbox table file →
      MigratesSafely initRecordInbox "record_inbox" table recordSchema file := by
  constructor
  · intro file table old
    apply migratesSafely_of_upgrades (upgrades_openDeliveryStore old) rfl
    · rintro _ rfl
      exact old.holds
    · exact fun _ => id
    · intro same
      have count := congrArg List.length (old.columns.symm.trans (congrArg Definition.columns same))
      cases count
  · intro file table old
    apply migratesSafely_of_upgrades (upgrades_initRecordInbox table) old
    · exact fun _ still => still.holds
    · exact fun _ upgraded => upgraded.1
    · intro same
      have count := congrArg List.length (old.columns.symm.trans (congrArg Definition.columns same))
      cases count

/-! ## Two old files -/

namespace OldFile

/-- Texts in text columns and numbers of their kind in the others are stored as they are. -/
def asGiven : Conversion where
  convert _ cell := cell
  convert_convert _ _ := rfl
  convert_null _ := rfl

def ledgerDefinition : Definition where
  columns := ledgerColumns ["pending", "acked", "legacy_unverified"] []
  primaryKey := ["destination", "event_id"]
  body :=
    "(destination TEXT NOT NULL, event_id TEXT NOT NULL, mk_date TEXT NOT NULL, " ++
    "payload TEXT NOT NULL, status TEXT NOT NULL " ++
    "CHECK(status IN ('pending','acked','legacy_unverified')), " ++
    "last_attempt_at REAL, acked_at TEXT, PRIMARY KEY (destination, event_id))"

/-- A ledger with one row. -/
def ledger : StoredTable asGiven where
  definition := ledgerDefinition
  title := "delivery"
  rows :=
    [.of [("destination", .text "host:1883/presence/record"), ("event_id", .text "one"),
      ("mk_date", .text "20260923120000"), ("payload", .text "\x7b\x7d"),
      ("status", .text "pending"), ("last_attempt_at", .real 123)]]
  accepted := by
    intro row member
    rw [List.mem_singleton.mp member]
    refine ⟨?_, fun _ _ _ => rfl, fun name absent => ?_⟩
    · rw [show ledgerDefinition.columns = ledgerColumns _ _ from rfl]
      simp [ledgerColumns, textColumn, statusColumn, Column.Admits, Row.of, List.lookup_cons]
    · rw [Definition.column?_eq_none_iff,
        show ledgerDefinition.columns = ledgerColumns _ _ from rfl] at absent
      simp [ledgerColumns, textColumn, statusColumn] at absent
      exact Row.of_eq_null (by simp [absent])
  distinct := List.pairwise_singleton _ _

theorem mentionsNacked_ledger : mentionsNacked ledger.sql = false := by
  decide +kernel

def recordDefinition : Definition where
  columns := recordColumns ["received", "sent"] []
  primaryKey := ["event_id"]
  body :=
    "(\n" ++
    "  event_id TEXT PRIMARY KEY, mk_date TEXT NOT NULL,\n" ++
    "  sta_no1 TEXT NOT NULL, sta_no2 TEXT NOT NULL, sta_no3 TEXT NOT NULL,\n" ++
    "  t1_status INTEGER NOT NULL, device_id TEXT, raw_payload TEXT NOT NULL,\n" ++
    "  status TEXT NOT NULL CHECK(status IN ('received','sent')),\n" ++
    "  received_at_iso TEXT NOT NULL, sent_at_iso TEXT, mk_date_committed TEXT,\n" ++
    "  retry_count INTEGER NOT NULL DEFAULT 0, next_retry_at_iso TEXT, last_error TEXT\n" ++
    ")"

/-- An inbox with one row. -/
def recordInbox : StoredTable asGiven where
  definition := recordDefinition
  title := "record_inbox"
  rows :=
    [.of [("event_id", .text "old1"), ("mk_date", .text "20260610173000"), ("sta_no1", .text "100"),
      ("sta_no2", .text "200"), ("sta_no3", .text "300"), ("t1_status", .integer 3),
      ("device_id", .text "child-01"), ("raw_payload", .text "\x7b\x7d"),
      ("status", .text "received"), ("received_at_iso", .text "2026-06-10T17:30:00+09:00"),
      ("retry_count", .integer 0)]]
  accepted := by
    intro row member
    rw [List.mem_singleton.mp member]
    refine ⟨?_, fun _ _ _ => rfl, fun name absent => ?_⟩
    · rw [show recordDefinition.columns = recordColumns _ _ from rfl]
      simp [recordColumns, plainColumn, recordStatusColumn, Column.Admits, Row.of,
        List.lookup_cons]
    · rw [Definition.column?_eq_none_iff,
        show recordDefinition.columns = recordColumns _ _ from rfl] at absent
      simp [recordColumns, plainColumn, recordStatusColumn] at absent
      exact Row.of_eq_null (by simp [absent])
  distinct := List.pairwise_singleton _ _

def holding (name : String) (table : StoredTable asGiven) : Catalog asGiven :=
  fun other => if other = name then some (.table table) else none

end OldFile

open OldFile in
/-- Both files are migrated. -/
theorem migrations_keep_rows_oldFile :
    MigratesSafely openDeliveryStore "delivery" ledger schemaSql (holding "delivery" ledger) ∧
      MigratesSafely initRecordInbox "record_inbox" recordInbox recordSchema
        (holding "record_inbox" recordInbox) := by
  constructor
  · apply (migrations_keep_rows asGiven).1
    exact ⟨if_pos rfl, rfl, rfl, mentionsNacked_ledger, if_neg (by decide)⟩
  · apply (migrations_keep_rows asGiven).2
    exact ⟨if_pos rfl, rfl, rfl, if_neg (by decide), .inl (if_neg (by decide))⟩

end PresenceLogger
