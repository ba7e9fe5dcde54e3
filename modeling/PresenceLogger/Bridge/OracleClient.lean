import PresenceLogger.Library.Number

/-!
# Results of a MERGE through python-oracledb

`open_and_merge` opens a connection, executes and commits one MERGE, and folds
every `DatabaseError` into a `MergeResult`.  The environment decides how far the
call gets; whether Oracle kept the row is recorded beside the reported result,
because a commit can succeed although its reply is lost.
-/

namespace PresenceLogger.Bridge

open Library

/-- What the senders learn about one MERGE. Both adapters always set
`errorMessage`; it is optional because `RecordSender` also accepts `None`. -/
structure MergeResult where
  rowsAffected : Int
  oraCode : Option Int
  errorMessage : Option String
  deriving DecidableEq, Repr

/-- The `code` attribute of a python-oracledb error object. -/
inductive ErrorCode where
  /-- Missing, `None`, `0` or empty. -/
  | absent
  | number (code : Int)
  /-- A value that `int` refuses with a `TypeError` or `ValueError`. -/
  | unreadable
  deriving DecidableEq, Repr

/-- `e.args[0]` of a `DatabaseError` that has a `code` attribute. -/
structure ErrorInfo where
  code : ErrorCode
  fullCode : String
  message : String
  deriving DecidableEq, Repr

/-- A raised `oracledb.DatabaseError`; `text` is its `str`. -/
inductive DatabaseError where
  /-- No arguments, or a first argument without a `code`. -/
  | bare (text : String)
  /-- `__cause__` is not a `DatabaseError`. -/
  | detailed (info : ErrorInfo) (text : String)
  | chained (info : ErrorInfo) (text : String) (cause : DatabaseError)
  deriving DecidableEq, Repr

/-- `_DPY_TO_ORA` -/
def dpyToOra : List (String × Int) := [("DPY-6001", 12514)]

/-- The code an error object gives by itself, before its cause is asked. -/
def ErrorInfo.ownCode (info : ErrorInfo) : Option Int :=
  match info.code with
  | .number code => if code = 0 then dpyToOra.lookup info.fullCode else some code
  | .absent | .unreadable => dpyToOra.lookup info.fullCode

/-- `str(getattr(err, "message", "") or str(e))` -/
def ErrorInfo.messageOr (info : ErrorInfo) (text : String) : String :=
  if info.message = "" then text else info.message

/-- `_extract_ora_code` -/
def extractOraCode : DatabaseError → Option Int × String
  | .bare text => (none, text)
  | .detailed info text => (info.ownCode, info.messageOr text)
  | .chained info text cause =>
      match info.ownCode with
      | some code => (some code, info.messageOr text)
      | none => ((extractOraCode cause).1, info.messageOr text)

/-- How `cur.execute` and `conn.commit` end. -/
inductive StatementOutcome where
  | executeRaised (error : DatabaseError)
  /-- The commit raised; `durable` tells whether Oracle had committed anyway. -/
  | commitRaised (error : DatabaseError) (durable : Bool)
  /-- Committed, with the value of `cur.rowcount or 0`. -/
  | committed (rowcount : Int)
  deriving DecidableEq, Repr

/-- How `open_connection` ends and, on a connection, the statement. -/
inductive ConnectionOutcome where
  | connectRaised (error : DatabaseError)
  | connected (statement : StatementOutcome)
  deriving DecidableEq, Repr

/-- The result for a `DatabaseError`, shared by both `except` clauses. -/
def failedMerge (error : DatabaseError) : MergeResult where
  rowsAffected := 0
  oraCode := (extractOraCode error).1
  errorMessage := some (extractOraCode error).2

/-- `execute_merge` -/
def executeMerge : StatementOutcome → MergeResult
  | .executeRaised error => failedMerge error
  | .commitRaised error _ => failedMerge error
  | .committed rowcount => { rowsAffected := rowcount, oraCode := none, errorMessage := some "" }

/-- `open_and_merge` -/
def openAndMerge : ConnectionOutcome → MergeResult
  | .connectRaised error => failedMerge error
  | .connected statement => executeMerge statement

/-- Whether Oracle kept the row. -/
def StatementOutcome.durable : StatementOutcome → Bool
  | .executeRaised _ => false
  | .commitRaised _ durable => durable
  | .committed _ => true

/-- Whether Oracle kept the row. -/
def ConnectionOutcome.durable : ConnectionOutcome → Bool
  | .connectRaised _ => false
  | .connected statement => statement.durable

/-! ## Which errors give an ORA code -/

/-- The error object names an ORA code: a non-zero integer `code`, or a DPY code
that has an ORA equivalent. -/
def ErrorInfo.NamesCode (info : ErrorInfo) : Prop :=
  (∃ code, info.code = .number code ∧ code ≠ 0) ∨ info.fullCode = "DPY-6001"

/-- The error, or an error in its chain of causes, names an ORA code. -/
def DatabaseError.CarriesCode : DatabaseError → Prop
  | .bare _ => False
  | .detailed info _ => info.NamesCode
  | .chained info _ cause => info.NamesCode ∨ cause.CarriesCode

theorem ErrorInfo.ownCode_isSome_iff (info : ErrorInfo) :
    info.ownCode.isSome ↔ info.NamesCode := by
  have mapped : (dpyToOra.lookup info.fullCode).isSome ↔ info.fullCode = "DPY-6001" := by
    by_cases known : info.fullCode = "DPY-6001"
    · rw [known]
      decide
    · simp [dpyToOra, known]
  unfold ownCode NamesCode
  cases info.code with
  | absent => simpa using mapped
  | unreadable => simpa using mapped
  | number code =>
      by_cases zero : code = 0
      · simpa [zero] using mapped
      · simp [zero]

/-- `_extract_ora_code` finds a code exactly when the error carries one. -/
theorem extractOraCode_isSome_iff (error : DatabaseError) :
    (extractOraCode error).1.isSome ↔ error.CarriesCode := by
  induction error with
  | bare text => simp [extractOraCode, DatabaseError.CarriesCode]
  | detailed info text =>
      simpa [extractOraCode, DatabaseError.CarriesCode] using info.ownCode_isSome_iff
  | chained info text cause causeIH =>
      have own := info.ownCode_isSome_iff
      cases found : info.ownCode with
      | some code =>
          simp only [found, Option.isSome_some, true_iff] at own
          simp [extractOraCode, DatabaseError.CarriesCode, found, own]
      | none =>
          simp only [found, Option.isSome_none, Bool.false_eq_true, false_iff] at own
          simp only [extractOraCode, DatabaseError.CarriesCode, found, own, false_or]
          exact causeIH

/-- The error that ends the call, if one does, carries an ORA code. -/
def ConnectionOutcome.CarriesCode : ConnectionOutcome → Prop
  | .connectRaised error => error.CarriesCode
  | .connected (.executeRaised error) => error.CarriesCode
  | .connected (.commitRaised error _) => error.CarriesCode
  | .connected (.committed _) => False

theorem openAndMerge_oraCode_isSome_iff (outcome : ConnectionOutcome) :
    (openAndMerge outcome).oraCode.isSome ↔ outcome.CarriesCode := by
  cases outcome with
  | connectRaised error => exact extractOraCode_isSome_iff error
  | connected statement =>
      cases statement with
      | executeRaised error => exact extractOraCode_isSome_iff error
      | commitRaised error durable => exact extractOraCode_isSome_iff error
      | committed rowcount => simp [openAndMerge, executeMerge, ConnectionOutcome.CarriesCode]

end PresenceLogger.Bridge
