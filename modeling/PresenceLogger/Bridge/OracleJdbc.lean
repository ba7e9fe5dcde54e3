import PresenceLogger.Bridge.OracleClient
import PresenceLogger.Library.Text

/-!
# Results of a MERGE through the JDBC sidecar

The sidecar (`Main.merge`) runs the transaction and prints three `key=value`
lines; `execute_merge_via_jdbc` decodes them.  An `HTTPError`, a
`URLError` or a `TimeoutError` becomes a `MergeResult` without an ORA code.  The
`RemoteDisconnected` and the `ConnectionResetError` of a sidecar that goes away before it
has answered are raised; they are left out here.
-/

namespace PresenceLogger.Bridge

open Library Library.Text

/-! ## The sidecar's response -/

/-- How the transaction of `Main.merge` ends. `rows` is the value of
`rowsAffected` at that moment: `commit` itself may throw. -/
inductive Transaction where
  | committed (rows : Int)
  | sqlException (rows : Int) (errorCode : Int) (message : Option String) (durable : Bool)
  | otherException (rows : Int) (className : String) (message : Option String) (durable : Bool)
  deriving DecidableEq, Repr

/-- Java's `String.trim`, which drops every character up to the space. -/
def javaTrim (text : List Char) : List Char := stripBy (fun char => char.toNat ≤ 32) text

/-- `sanitizeOneLine` -/
def sanitizeOneLine : Option String → List Char
  | none => []
  | some text =>
      javaTrim (text.toList.map fun char => if char = '\r' ∨ char = '\n' then ' ' else char)

/-- String concatenation writes a null reference as `null`. -/
def javaConcat : Option String → String
  | none => "null"
  | some text => text

def Transaction.rowsAffected : Transaction → Int
  | .committed rows => rows
  | .sqlException rows _ _ _ => rows
  | .otherException rows _ _ _ => rows

def Transaction.oraCode : Transaction → Option Int
  | .sqlException _ errorCode _ _ => if errorCode ≠ 0 then some errorCode else none
  | .committed _ | .otherException .. => none

def Transaction.errorMessage : Transaction → List Char
  | .committed _ => []
  | .sqlException _ _ message _ => sanitizeOneLine message
  | .otherException _ className message _ =>
      sanitizeOneLine (some (className ++ ": " ++ javaConcat message))

/-- Whether Oracle kept the row. -/
def Transaction.durable : Transaction → Bool
  | .committed _ => true
  | .sqlException _ _ _ durable => durable
  | .otherException _ _ _ durable => durable

/-- The text `Main.merge` sends with status 200. -/
def mergeResponse (transaction : Transaction) : List Char :=
  "rows_affected=".toList ++ ofInt transaction.rowsAffected ++ '\n' ::
    ("ora_code=".toList ++ (transaction.oraCode.elim [] ofInt) ++ '\n' ::
      ("error_message=".toList ++ transaction.errorMessage ++ '\n' :: []))

/-! ## The bridge's client -/

/-- The dictionary `_parse_kv_body` fills, in assignment order: a later value
for a key replaces an earlier one. -/
abbrev KvFields := List (List Char × List Char)

/-- `fields.get(key)` -/
def KvFields.get (fields : KvFields) (key : String) : Option (List Char) :=
  fields.reverse.lookup key.toList

/-- `_parse_kv_body` -/
def parseKvBody (body : List Char) : KvFields :=
  ((splitLines body).filter fun line => line ≠ [] ∧ '=' ∈ line).map fun line =>
    (strip (partition '=' line).1, (partition '=' line).2)

/-- How the HTTP request ends; `durable` tells whether Oracle kept the row. -/
inductive HttpOutcome where
  /-- Status 200 with a body, already decoded. -/
  | response (body : List Char) (durable : Bool)
  | httpError (code : Int) (reason : String) (durable : Bool)
  /-- `URLError` or `TimeoutError` -/
  | unreachable (text : String) (durable : Bool)
  deriving DecidableEq, Repr

/-- The value of the `ora_code` field, if it is an integer literal. -/
def KvFields.oraCode (fields : KvFields) : Option Int :=
  (fields.get "ora_code").bind fun raw =>
    if strip raw = [] then none else parseInt (strip raw)

/-- The value of the `rows_affected` field; `0` when it is missing or garbled. -/
def KvFields.rowsAffected (fields : KvFields) : Int :=
  let raw := strip ((fields.get "rows_affected").getD ['0'])
  (parseInt (if raw = [] then ['0'] else raw)).getD 0

/-- `execute_merge_via_jdbc` -/
def executeMergeViaJdbc : HttpOutcome → MergeResult
  | .httpError code reason _ =>
      { rowsAffected := 0, oraCode := none
        errorMessage := some ("jdbc-proxy HTTP " ++ toString code ++ ": " ++ reason) }
  | .unreachable text _ =>
      { rowsAffected := 0, oraCode := none
        errorMessage := some ("jdbc-proxy unreachable: " ++ text) }
  | .response body _ =>
      let fields := parseKvBody body
      { rowsAffected := fields.rowsAffected
        oraCode := fields.oraCode
        errorMessage := some (String.ofList ((fields.get "error_message").getD [])) }

/-- Whether Oracle kept the row. -/
def HttpOutcome.durable : HttpOutcome → Bool
  | .response _ durable => durable
  | .httpError _ _ durable => durable
  | .unreachable _ durable => durable

/-- The outcome is a response that names an ORA code. -/
def HttpOutcome.CarriesCode : HttpOutcome → Prop
  | .response body _ => (parseKvBody body).oraCode.isSome
  | .httpError .. | .unreachable .. => False

theorem executeMergeViaJdbc_oraCode_isSome_iff (outcome : HttpOutcome) :
    (executeMergeViaJdbc outcome).oraCode.isSome ↔ outcome.CarriesCode := by
  cases outcome <;> simp [executeMergeViaJdbc, HttpOutcome.CarriesCode]

/-- The response of a sidecar that ran `transaction`, delivered intact. -/
def sidecarResponse (transaction : Transaction) : HttpOutcome :=
  .response (mergeResponse transaction) transaction.durable

/-! ## Decoding the sidecar's response -/

theorem parseKvBody_line {name : String} {value : List Char}
    (plainName : OneLine name.toList) (noEquals : '=' ∉ name.toList)
    (trimmed : strip name.toList = name.toList) (plainValue : OneLine value)
    (rest : List Char) :
    parseKvBody (name.toList ++ '=' :: value ++ '\n' :: rest) =
      (name.toList, value) :: parseKvBody rest := by
  have equalsPlain : OneLine ['='] := by decide
  have plain : OneLine (name.toList ++ '=' :: value) :=
    plainName.append (equalsPlain.append plainValue)
  rw [parseKvBody, splitLines_oneLine plain]
  simp [parseKvBody, partition_append noEquals, trimmed]

theorem oneLine_oraCode (transaction : Transaction) :
    OneLine (transaction.oraCode.elim [] ofInt) := by
  cases transaction.oraCode with
  | none => exact oneLine_nil
  | some code => exact oneLine_ofInt code

/-- A response as fields. -/
theorem mergeResponse_eq (transaction : Transaction) :
    mergeResponse transaction =
      "rows_affected".toList ++ '=' :: ofInt transaction.rowsAffected ++ '\n' ::
        ("ora_code".toList ++ '=' :: (transaction.oraCode.elim [] ofInt) ++ '\n' ::
          ("error_message=".toList ++ transaction.errorMessage ++ ['\n'])) := by
  have rows : "rows_affected=".toList = "rows_affected".toList ++ ['='] := by decide +kernel
  have code : "ora_code=".toList = "ora_code".toList ++ ['='] := by decide +kernel
  have assemble (first second value other rest : List Char) :
      first ++ ['='] ++ value ++ '\n' :: (second ++ ['='] ++ other ++ '\n' :: rest) =
        first ++ '=' :: value ++ '\n' :: (second ++ '=' :: other ++ '\n' :: rest) := by
    simp
  -- `rw` would try to close the goal by evaluating the literals
  unfold mergeResponse
  rewrite [rows, code]
  exact assemble _ _ _ _ _

/-- The three lines of a response are read back as they were written, as long
as the error message contains no line break. -/
theorem parseKvBody_mergeResponse (transaction : Transaction)
    (plain : OneLine transaction.errorMessage) :
    parseKvBody (mergeResponse transaction) =
      [("rows_affected".toList, ofInt transaction.rowsAffected),
       ("ora_code".toList, transaction.oraCode.elim [] ofInt),
       ("error_message".toList, transaction.errorMessage)] := by
  have message : "error_message=".toList = "error_message".toList ++ ['='] := by decide +kernel
  rw [mergeResponse_eq, parseKvBody_line (by decide) (by decide) (by decide) (oneLine_ofInt _),
    parseKvBody_line (by decide) (by decide) (by decide) (oneLine_oraCode transaction), message,
    List.append_assoc _ ['='], List.singleton_append,
    parseKvBody_line (by decide) (by decide) (by decide) plain]
  rfl

/-- A committed transaction is decoded to no ORA code and an empty message. -/
theorem executeMergeViaJdbc_committed (rows : Int) :
    (executeMergeViaJdbc (sidecarResponse (.committed rows))).oraCode = none ∧
      (executeMergeViaJdbc (sidecarResponse (.committed rows))).errorMessage = some "" := by
  have fields := parseKvBody_mergeResponse (.committed rows) oneLine_nil
  simp only [sidecarResponse, executeMergeViaJdbc, fields]
  exact ⟨rfl, rfl⟩

/-- The bridge reads no other code than the sidecar wrote. -/
theorem oraCode_of_executeMergeViaJdbc {transaction : Transaction}
    (plain : OneLine transaction.errorMessage) {code : Int}
    (reads : (executeMergeViaJdbc (sidecarResponse transaction)).oraCode = some code) :
    transaction.oraCode = some code := by
  have fields := parseKvBody_mergeResponse transaction plain
  have written : KvFields.get (parseKvBody (mergeResponse transaction)) "ora_code" =
      some (transaction.oraCode.elim [] ofInt) := by
    rw [fields]
    rfl
  simp only [sidecarResponse, executeMergeViaJdbc, KvFields.oraCode, written,
    Option.bind_some] at reads
  split at reads
  · cases reads
  · cases named : transaction.oraCode with
    | none =>
        rw [named] at reads
        cases reads
    | some number =>
        have trimmed : strip (ofInt number) = ofInt number :=
          (trimmed_of_forall fun _ => isSpace_of_mem_ofInt).stripBy_eq
        rw [named, Option.elim_some, trimmed, parseInt_ofInt] at reads
        split at reads
        · exact reads
        · cases reads

end PresenceLogger.Bridge
