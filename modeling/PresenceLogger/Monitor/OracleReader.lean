import Mathlib.Data.List.Sort
import Mathlib.Data.String.Basic
import PresenceLogger.Bridge.JdbcRequest
import PresenceLogger.Library.Lines
import PresenceLogger.Library.Sql

/-!
# Rows of Oracle as the monitor reads them

The monitor asks the sidecar for the rows of three stations in a range of dates.  The form leaves
out what is empty, the endpoint wants all of it, and the answer is a text of `key=value` lines.
-/

namespace PresenceLogger.Monitor

open Library Library.Text Bridge

/-! ## The request -/

structure OracleQuery where
  host : String
  port : String
  service : String
  user : String
  table : String
  staNo1 : String := ""
  staNo2 : String := ""
  staNo3 : String := ""
  mkDateFrom : String := ""
  mkDateTo : String := ""
  t1Status : String := ""
  limit : Int := 30

/-- The filters that may be left out. -/
def OracleQuery.filters (q : OracleQuery) : Form :=
  [("sta_no1", q.staNo1), ("sta_no2", q.staNo2), ("sta_no3", q.staNo3),
    ("mk_date_from", q.mkDateFrom), ("mk_date_to", q.mkDateTo), ("t1_status", q.t1Status)]

/-- The fields of `build_post_body`. -/
def postFields (q : OracleQuery) (password : String) : Form :=
  [("url", "jdbc:oracle:thin:@" ++ q.host ++ ":" ++ q.port ++ "/" ++ q.service),
    ("user", q.user),
    ("password", password),
    ("table_name", q.table),
    ("limit", .ofList (ofInt q.limit))] ++
    q.filters.filter (·.2 ≠ "")

def buildPostBody (q : OracleQuery) (password : String) : List Char :=
  FormData.urlencode
    ((postFields q password).map fun field => (field.1.toList, field.2.toList))

/-! ## The endpoint -/

def selectRangeSql (tableName : String) : String :=
  "SELECT MK_DATE, STA_NO1, STA_NO2, STA_NO3, T1_STATUS, UPCMPFLG FROM " ++ tableName ++
    " WHERE STA_NO1 = ? AND STA_NO2 = ? AND STA_NO3 = ?" ++
    " AND MK_DATE BETWEEN ? AND ?" ++
    " AND MK_DATE NOT LIKE '2099%'" ++
    " ORDER BY MK_DATE FETCH FIRST 100 ROWS ONLY"

/-- The connection, and the statement with the values that are bound to it. -/
structure SelectSession where
  url : String
  user : String
  password : String
  connectTimeout : String
  readTimeout : String
  sql : String
  staNo1 : String
  staNo2 : String
  staNo3 : String
  mkDateFrom : String
  mkDateTo : String
  deriving DecidableEq

inductive SelectHandled where
  /-- An answer without a connection. -/
  | rejected (code : Nat) (body : String)
  /-- The handler has raised, and there is no answer. -/
  | raised
  | opened (session : SelectSession)
  deriving DecidableEq

def rangeFields : List String :=
  ["url", "user", "password", "table_name", "sta_no1", "sta_no2", "sta_no3", "mk_date_from",
    "mk_date_to"]

section Endpoint

variable (isLetterOrDigit : Char → Bool) (malformed : List UInt8 → List Char)

/-- `selectRange` of a form whose required fields are there. -/
def selectForm (form : Form) (value : String → String) : SelectHandled :=
  if isSafeTableName isLetterOrDigit (value "table_name") = false then
    .rejected 400 "error_message=invalid table_name\n"
  else
    .opened {
      url := value "url"
      user := value "user"
      password := value "password"
      connectTimeout := (form.get "connect_timeout_ms").getD "10000"
      readTimeout := (form.get "read_timeout_ms").getD "30000"
      sql := selectRangeSql (value "table_name")
      staNo1 := value "sta_no1"
      staNo2 := value "sta_no2"
      staNo3 := value "sta_no3"
      mkDateFrom := value "mk_date_from"
      mkDateTo := value "mk_date_to" }

/-- `Main.selectRange`, up to its statement. -/
def selectRange (isPost : Bool) (body : List Char) : SelectHandled :=
  if isPost = false then .rejected 405 "error_message=method not allowed\n"
  else
    match parseForm malformed body with
    | none => .raised
    | some form =>
        match rangeFields.find? fun key => (form.get key).isNone with
        | some key => .rejected 400 ("error_message=missing field: " ++ key ++ "\n")
        | none => selectForm isLetterOrDigit form fun key => (form.get key).getD ""

end Endpoint

/-! ## The table -/

/-- A row of the table. A number beyond an `int` would fail a statement that selects it. -/
structure StoredRow where
  mkDate : Option String
  staNo1 : Option String
  staNo2 : Option String
  staNo3 : Option String
  t1Status : Option Int32
  upcmpflg : Option Int32
  deriving DecidableEq

/-- The `WHERE` clause of the statement. -/
def inRange (session : SelectSession) (row : StoredRow) : Bool :=
  Sql.equal row.staNo1 (Sql.varchar session.staNo1) &&
    Sql.equal row.staNo2 (Sql.varchar session.staNo2) &&
    Sql.equal row.staNo3 (Sql.varchar session.staNo3) &&
    row.mkDate.any fun mkDate =>
      (Sql.varchar session.mkDateFrom).any (· ≤ mkDate) &&
        (Sql.varchar session.mkDateTo).any (mkDate ≤ ·) &&
        !"2099".toList.isPrefixOf mkDate.toList

/-- The rows that the statement gives. -/
def selectedRows (session : SelectSession) (table : List StoredRow) : List StoredRow :=
  ((table.filter (inRange session)).insertionSort fun left right =>
    left.mkDate.getD "" ≤ right.mkDate.getD "").take 100

/-- `ResultSet.getInt`, which gives zero for `NULL`. -/
def getInt (cell : Option Int32) : Int := (cell.getD 0).toInt

def rowText (row : StoredRow) : List Char :=
  "row=".toList ++ (javaConcat row.mkDate).toList ++ ',' :: (javaConcat row.staNo1).toList ++
    ',' :: (javaConcat row.staNo2).toList ++ ',' :: (javaConcat row.staNo3).toList ++
    ',' :: (ofInt (getInt row.t1Status) ++ ',' :: ofInt (getInt row.upcmpflg))

/-- The answer when the statement has given these rows. -/
def rangeResponse (rows : List StoredRow) : List Char :=
  "count=".toList ++ ofInt rows.length ++ '\n' :: ("ora_code=".toList ++
    '\n' :: ("error_message=".toList ++ '\n' :: rows.flatMap (rowText · ++ ['\n'])))

/-- What `wget -q -O -` prints, which is nothing when the answer is an error. -/
def wgetOutput (table : List StoredRow) : SelectHandled → List Char
  | .rejected _ _ => []
  | .raised => []
  | .opened session => rangeResponse (selectedRows session table)

/-! ## The reading of the answer -/

structure OracleRow where
  mkDate : List Char
  staNo1 : List Char
  staNo2 : List Char
  staNo3 : List Char
  t1Status : List Char
  upcmpflg : List Char
  deriving DecidableEq

structure OracleResult where
  rows : List OracleRow := []
  count : Option (List Char) := none
  oraCode : List Char := []
  errorMessage : List Char := []
  deriving DecidableEq

def OracleResult.ok (result : OracleResult) : Bool :=
  result.oraCode = [] && result.errorMessage = []

/-- `text.split(separator, count)` -/
def splitAtMost (separator : Char) : Nat → List Char → List (List Char)
  | 0, text => [text]
  | count + 1, text =>
      if separator ∈ text then
        (partition separator text).1 :: splitAtMost separator count (partition separator text).2
      else [text]

/-- The columns of a row; those that are missing are empty. -/
def oracleRow (value : List Char) : OracleRow :=
  let parts := splitAtMost ',' 5 value
  let column (i : Nat) : List Char := (parts[i]?).getD []
  ⟨column 0, column 1, column 2, column 3, column 4, column 5⟩

inductive ResultKey where
  | count
  | oraCode
  | errorMessage
  | row
  deriving DecidableEq

def ResultKey.text : ResultKey → List Char
  | .count => "count=".toList
  | .oraCode => "ora_code=".toList
  | .errorMessage => "error_message=".toList
  | .row => "row=".toList

/-- The key of a line and its value. A line of `splitlines` has no line feed to strip. -/
def resultField (line : List Char) : Option (ResultKey × List Char) :=
  [ResultKey.count, .oraCode, .errorMessage, .row].findSome? fun key =>
    (line.dropPrefix? key.text).map (Prod.mk key)

def OracleResult.put (result : OracleResult) (field : ResultKey × List Char) : OracleResult :=
  match field.1 with
  | .count => { result with count := some field.2 }
  | .oraCode => { result with oraCode := field.2 }
  | .errorMessage => { result with errorMessage := field.2 }
  | .row => { result with rows := result.rows ++ [oracleRow field.2] }

def parseSelectRecent (text : List Char) : OracleResult :=
  (readLines resultField text).foldl OracleResult.put {}

/-- `verify_exact`, where the sidecar reaches the table; the output is read as text. -/
def verifyExact (isLetterOrDigit : Char → Bool) (malformed : List UInt8 → List Char)
    (table : List StoredRow) (q : OracleQuery) (password : String) : OracleResult :=
  parseSelectRecent (universalNewlines (wgetOutput table
    (selectRange isLetterOrDigit malformed true (buildPostBody q password))))

/-! ## What is read of an answer -/

/-- The values of a key, in the order of their lines. -/
def values (key : ResultKey) (text : List Char) : List (List Char) :=
  readLines (·.dropPrefix? key.text) text

/-- The last value, if there is one, is empty. -/
def EndsEmpty (found : List (List Char)) : Prop := ∀ value ∈ found.getLast?, value = []

instance (found : List (List Char)) : Decidable (EndsEmpty found) :=
  inferInstanceAs (Decidable (∀ value ∈ found.getLast?, value = []))

/-- The last line of the key, if there is one, has nothing after it. -/
def Clears (key : ResultKey) (text : List Char) : Prop := EndsEmpty (values key text)

instance (key : ResultKey) (text : List Char) : Decidable (Clears key text) :=
  inferInstanceAs (Decidable (EndsEmpty _))

theorem dropPrefix?_eq_some_iff {line value : List Char} {key : ResultKey} :
    line.dropPrefix? key.text = some value ↔ line = key.text ++ value := by
  rw [List.dropPrefix?_eq_some_iff]
  constructor
  · rintro ⟨front, rfl, same⟩
    rw [eq_of_beq same]
  · rintro rfl
    exact ⟨key.text, rfl, beq_self_eq_true _⟩

theorem ResultKey.eq_of_head? {left right : ResultKey}
    (same : left.text.head? = right.text.head?) : left = right := by
  revert same
  cases left <;> cases right <;> decide

/-- No line begins with two of the keys. -/
theorem eq_of_text_append {left right : ResultKey} {value other : List Char}
    (same : left.text ++ value = right.text ++ other) : left = right ∧ value = other := by
  have head (key : ResultKey) (rest : List Char) : (key.text ++ rest).head? = key.text.head? :=
    List.head?_append_of_ne_nil key.text (by cases key <;> decide)
  have sameKey : left = right := by
    apply ResultKey.eq_of_head?
    rw [← head left value, ← head right other, same]
  subst sameKey
  exact ⟨rfl, List.append_cancel_left same⟩

theorem resultField_eq_some_iff {line : List Char} {field : ResultKey × List Char} :
    resultField line = some field ↔ line = field.1.text ++ field.2 := by
  have sound {field : ResultKey × List Char} (isField : resultField line = some field) :
      line = field.1.text ++ field.2 := by
    obtain ⟨key, -, read⟩ := List.exists_of_findSome?_eq_some isField
    obtain ⟨value, dropped, rfl⟩ := Option.map_eq_some_iff.mp read
    exact dropPrefix?_eq_some_iff.mp dropped
  refine ⟨sound, fun begins => ?_⟩
  have found : (resultField line).isSome = true := by
    rw [resultField, List.findSome?_isSome_iff]
    refine ⟨field.1, by cases field.1 <;> decide, ?_⟩
    rw [dropPrefix?_eq_some_iff.mpr begins]
    rfl
  obtain ⟨other, isOther⟩ := Option.isSome_iff_exists.mp found
  obtain ⟨sameKey, sameValue⟩ := eq_of_text_append (begins.symm.trans (sound isOther))
  rw [isOther, ← Prod.ext sameKey sameValue]

/-- The lines of a key are those with a field of it. -/
theorem filterMap_resultField (key : ResultKey) (line : List Char) :
    (resultField line).bind (fun field => if field.1 = key then some field.2 else none) =
      line.dropPrefix? key.text := by
  ext value
  rw [Option.bind_eq_some_iff, dropPrefix?_eq_some_iff]
  constructor
  · rintro ⟨⟨other, rest⟩, isField, kept⟩
    rw [Option.ite_none_right_eq_some, Option.some.injEq] at kept
    obtain ⟨rfl, rfl⟩ := kept
    exact resultField_eq_some_iff.mp isField
  · rintro rfl
    exact ⟨(key, value), resultField_eq_some_iff.mpr rfl, if_pos rfl⟩

theorem values_eq (key : ResultKey) (text : List Char) :
    (readLines resultField text).filterMap
      (fun field => if field.1 = key then some field.2 else none) = values key text := by
  rw [readLines, List.filterMap_filterMap]
  exact congrArg (List.filterMap · _) (funext (filterMap_resultField key))

theorem getLast?_cons_getD (first : List Char) (rest : List (List Char)) (start : List Char) :
    ((first :: rest).getLast?).getD start = (rest.getLast?).getD first := by
  rw [List.getLast?_cons, Option.getD_some]

/-- The last value of a key stays, and the rows are collected. -/
theorem foldl_put (fields : List (ResultKey × List Char)) (result : OracleResult) :
    let values (key : ResultKey) := fields.filterMap fun field =>
      if field.1 = key then some field.2 else none
    (fields.foldl OracleResult.put result).oraCode =
        ((values .oraCode).getLast?).getD result.oraCode ∧
      (fields.foldl OracleResult.put result).errorMessage =
        ((values .errorMessage).getLast?).getD result.errorMessage ∧
      (fields.foldl OracleResult.put result).rows =
        result.rows ++ (values .row).map oracleRow := by
  induction fields generalizing result with
  | nil => simp
  | cons field fields ih =>
      obtain ⟨key, value⟩ := field
      obtain ⟨oraCode, errorMessage, rows⟩ := ih (result.put (key, value))
      simp only [List.foldl_cons, oraCode, errorMessage, rows, List.filterMap_cons]
      cases key <;> simp [OracleResult.put, getLast?_cons_getD]

theorem parseSelectRecent_rows (text : List Char) :
    (parseSelectRecent text).rows = (values .row text).map oracleRow := by
  rw [parseSelectRecent, (foldl_put _ _).2.2, ← values_eq]
  rfl

/-- A result is in order if the last code and the last message are empty. -/
theorem parseSelectRecent_ok_iff (text : List Char) :
    (parseSelectRecent text).ok = true ↔
      Clears .oraCode text ∧ Clears .errorMessage text := by
  have empty (found : Option (List Char)) : found.getD [] = [] ↔ ∀ value ∈ found, value = [] := by
    cases found <;> simp
  rw [OracleResult.ok, parseSelectRecent, (foldl_put _ _).1, (foldl_put _ _).2.1,
    Bool.and_eq_true, decide_eq_true_eq, decide_eq_true_eq, empty, empty, Clears, Clears,
    EndsEmpty, EndsEmpty, ← values_eq, ← values_eq]

section EndsEmpty

variable {left right : List (List Char)}

theorem EndsEmpty.of_append (ends : EndsEmpty (left ++ right)) : EndsEmpty right := by
  intro value isLast
  exact ends value (by simp [List.getLast?_append, Option.mem_def.mp isLast])

theorem EndsEmpty.append (leftEnds : EndsEmpty left) (rightEnds : EndsEmpty right) :
    EndsEmpty (left ++ right) := by
  cases isLast : right.getLast? with
  | none => rwa [List.getLast?_eq_none_iff.mp isLast, List.append_nil]
  | some last =>
      intro value isValue
      rw [List.getLast?_append, isLast, Option.some_or] at isValue
      exact rightEnds value (isLast.trans isValue)

/-- Parts that all end alike end so together. -/
theorem endsEmpty_flatMap_iff {α : Type*} {part : α → List (List Char)} {items : List α}
    {clear : Prop} (present : items ≠ [])
    (alike : ∀ item ∈ items, EndsEmpty (part item) ↔ clear) :
    EndsEmpty (items.flatMap part) ↔ clear := by
  induction items with
  | nil => exact absurd rfl present
  | cons item items ih =>
      obtain ⟨first, others⟩ := List.forall_mem_cons.mp alike
      rw [List.flatMap_cons]
      by_cases single : items = []
      · rw [single, List.flatMap_nil, List.append_nil, first]
      · have rest := ih single others
        exact ⟨fun ends => rest.mp ends.of_append, fun isClear =>
          (first.mpr isClear).append (rest.mpr isClear)⟩

end EndsEmpty

theorem dropPrefix?_nil (key : ResultKey) : ([] : List Char).dropPrefix? key.text = none := by
  cases key <;> rfl

theorem values_append (key : ResultKey) (left rest : List Char) :
    values key (left ++ '\n' :: rest) = values key left ++ values key rest :=
  readLines_append (dropPrefix?_nil key) rfl left rest

/-- A line has a value of one key only. -/
theorem values_line {value : List Char} (one : OneLine value) (key other : ResultKey) :
    values key (other.text ++ value) = if other = key then [value] else [] := by
  have oneText : OneLine other.text := by cases other <;> decide
  rw [values, readLines_oneLine (dropPrefix?_nil key) (oneText.append one)]
  split_ifs with same
  · rw [same, dropPrefix?_eq_some_iff.mpr rfl]
    rfl
  · rw [Option.toList_eq_nil_iff, Option.eq_none_iff_forall_ne_some]
    intro found isFound
    exact same (eq_of_text_append (dropPrefix?_eq_some_iff.mp isFound)).1

/-- A comma ends the key of a line. -/
theorem dropPrefix?_comma (key : ResultKey) (line rest : List Char) :
    (line ++ ',' :: rest).dropPrefix? key.text =
      (line.dropPrefix? key.text).map (· ++ ',' :: rest) := by
  have noComma : ',' ∉ key.text := by cases key <;> decide
  ext value
  simp only [dropPrefix?_eq_some_iff, Option.map_eq_some_iff]
  constructor
  · intro same
    rcases List.append_eq_append_iff.mp same with ⟨middle, isKey, isRest⟩ | ⟨middle, isLine, rfl⟩
    · cases middle with
      | nil => exact ⟨[], by simpa using isKey.symm, isRest⟩
      | cons first middle =>
          have comma : first = ',' := by
            rw [List.cons_append, List.cons.injEq] at isRest
            exact isRest.1.symm
          exact absurd (isKey ▸ by simp [comma]) noComma
    · exact ⟨middle, isLine, rfl⟩
  · rintro ⟨middle, rfl, rfl⟩
    rw [List.append_assoc]

/-- What a line goes on with after a comma makes no difference. -/
theorem clears_comma {rest other : List Char} (one : OneLine rest) (otherOne : OneLine other)
    (key : ResultKey) (text : List Char) :
    Clears key (text ++ ',' :: rest) ↔ Clears key (text ++ ',' :: other) := by
  obtain ⟨before, last, split⟩ : ∃ before last, ∀ rest, OneLine rest →
      values key (text ++ rest) = before ++ ((last ++ rest).dropPrefix? key.text).toList :=
    exists_readLines_append (dropPrefix?_nil key) text
  have ended {rest : List Char} (one : OneLine rest) : Clears key (text ++ ',' :: rest) ↔
      last.dropPrefix? key.text = none ∧ EndsEmpty before := by
    rw [Clears, split _ (List.forall_mem_cons.mpr ⟨rfl, one⟩), dropPrefix?_comma]
    cases last.dropPrefix? key.text <;> simp [EndsEmpty]
  exact (ended one).trans (ended otherOne).symm

/-! ## The answer of the endpoint -/

theorem values_rangeResponse (key : ResultKey) (rows : List StoredRow) :
    values key (rangeResponse rows) =
      (if ResultKey.count = key then [ofInt rows.length] else []) ++
        ((if ResultKey.oraCode = key then [[]] else []) ++
          ((if ResultKey.errorMessage = key then [[]] else []) ++
            rows.flatMap fun row => values key (rowText row))) := by
  have rest : values key (rows.flatMap (rowText · ++ ['\n'])) =
      rows.flatMap fun row => values key (rowText row) := by
    induction rows with
    | nil => rfl
    | cons row rows ih =>
        rw [List.flatMap_cons, List.flatMap_cons, List.append_assoc, List.singleton_append,
          values_append, ih]
  have empty (other : ResultKey) :
      values key other.text = if other = key then [[]] else [] := by
    simpa using values_line oneLine_nil key other
  calc values key (rangeResponse rows)
      = values key (ResultKey.count.text ++ ofInt rows.length) ++
          (values key ResultKey.oraCode.text ++ (values key ResultKey.errorMessage.text ++
            values key (rows.flatMap (rowText · ++ ['\n'])))) := by
        rw [← values_append, ← values_append, ← values_append]
        rfl
    _ = _ := by rw [values_line (oneLine_ofInt _), empty, empty, rest]

/-- The first line of a row is a row. -/
theorem values_row_ne_nil {text : List Char} (present : text ≠ []) :
    values .row (ResultKey.row.text ++ text) ≠ [] := by
  have one : OneLine ResultKey.row.text := by decide
  obtain ⟨first, rest, lines⟩ := List.exists_cons_of_ne_nil (splitLines_ne_nil present)
  have read : (ResultKey.row.text ++ first).dropPrefix? ResultKey.row.text = some first :=
    dropPrefix?_eq_some_iff.mpr rfl
  rw [values, readLines, splitLines_append one present, lines, List.modifyHead_cons]
  simp [read]

/-- The columns that the statement asks for, as a row has them in front. -/
def columnsText (mkDate staNo1 staNo2 staNo3 : String) : List Char :=
  "row=".toList ++ mkDate.toList ++ ',' :: staNo1.toList ++ ',' :: staNo2.toList ++
    ',' :: staNo3.toList ++ [',']

/-- No line of the columns sets a code or a message. -/
def Legible (mkDate staNo1 staNo2 staNo3 : String) : Prop :=
  Clears .oraCode (columnsText mkDate staNo1 staNo2 staNo3) ∧
    Clears .errorMessage (columnsText mkDate staNo1 staNo2 staNo3)

instance (mkDate staNo1 staNo2 staNo3 : String) :
    Decidable (Legible mkDate staNo1 staNo2 staNo3) :=
  inferInstanceAs (Decidable (_ ∧ _))

/-- The row has these columns. -/
structure StoredRow.Has (row : StoredRow) (mkDate staNo1 staNo2 staNo3 : String) : Prop where
  mkDate : row.mkDate = some mkDate
  staNo1 : row.staNo1 = some staNo1
  staNo2 : row.staNo2 = some staNo2
  staNo3 : row.staNo3 = some staNo3

section Answer

variable {mkDate staNo1 staNo2 staNo3 : String} {row : StoredRow}

theorem values_row_rowText (row : StoredRow) : values .row (rowText row) ≠ [] := by
  have begins : ∃ before after, rowText row = ResultKey.row.text ++ (before ++ ',' :: after) := by
    refine ⟨(javaConcat row.mkDate).toList, ?after, ?same⟩
    case same =>
      unfold rowText
      rw [List.append_assoc, List.append_assoc, List.append_assoc, List.append_assoc,
        List.cons_append]
      rfl
  obtain ⟨before, after, same⟩ := begins
  rw [same]
  exact values_row_ne_nil (by simp)

theorem clears_rowText (has : row.Has mkDate staNo1 staNo2 staNo3) (key : ResultKey) :
    Clears key (rowText row) ↔ Clears key (columnsText mkDate staNo1 staNo2 staNo3) := by
  unfold rowText columnsText
  rw [has.mkDate, has.staNo1, has.staNo2, has.staNo3]
  refine clears_comma ((oneLine_ofInt _).append ?_) oneLine_nil key _
  exact List.forall_mem_cons.mpr ⟨rfl, oneLine_ofInt _⟩

/-- Rows with these columns are found if they are legible. -/
theorem parse_rangeResponse_iff {rows : List StoredRow}
    (each : ∀ row ∈ rows, row.Has mkDate staNo1 staNo2 staNo3) :
    let result := parseSelectRecent (universalNewlines (rangeResponse rows))
    result.ok = true ∧ result.rows ≠ [] ↔
      rows ≠ [] ∧ Legible mkDate staNo1 staNo2 staNo3 := by
  have translated (key : ResultKey) : values key (universalNewlines (rangeResponse rows)) =
      values key (rangeResponse rows) :=
    readLines_universalNewlines (dropPrefix?_nil key) _
  have found : (parseSelectRecent (universalNewlines (rangeResponse rows))).rows ≠ [] ↔
      rows ≠ [] := by
    rw [parseSelectRecent_rows, translated, values_rangeResponse, ne_eq, List.map_eq_nil_iff]
    cases rows with
    | nil => simp
    | cons row rows => simp [values_row_rowText]
  have clear (present : rows ≠ []) : ∀ key ∈ [ResultKey.oraCode, .errorMessage],
      Clears key (universalNewlines (rangeResponse rows)) ↔
        Clears key (columnsText mkDate staNo1 staNo2 staNo3) := by
    intro key isError
    rw [Clears, translated, values_rangeResponse, if_neg (by rintro rfl; simp at isError),
      List.nil_append, ← List.append_assoc]
    have rest := endsEmpty_flatMap_iff present
      fun row among => clears_rowText (each row among) key
    refine ⟨fun ends => rest.mp ends.of_append, fun isClear => .append ?_ (rest.mpr isClear)⟩
    intro value isLast
    have among := List.mem_of_mem_getLast? isLast
    split_ifs at among <;> simp_all
  intro result
  rw [found, parseSelectRecent_ok_iff]
  constructor
  · rintro ⟨⟨oraCode, errorMessage⟩, present⟩
    exact ⟨present, (clear present _ (by simp)).mp oraCode,
      (clear present _ (by simp)).mp errorMessage⟩
  · rintro ⟨present, oraCode, errorMessage⟩
    exact ⟨⟨(clear present _ (by simp)).mpr oraCode,
      (clear present _ (by simp)).mpr errorMessage⟩, present⟩

end Answer

/-! ## The rows that are asked for -/

/-- The form of the query has every field that the endpoint wants, and its table has a safe
name. -/
structure OracleQuery.Answered (isLetterOrDigit : Char → Bool) (q : OracleQuery) : Prop where
  table : isSafeTableName isLetterOrDigit q.table = true
  staNo1 : q.staNo1 ≠ ""
  staNo2 : q.staNo2 ≠ ""
  staNo3 : q.staNo3 ≠ ""
  mkDateFrom : q.mkDateFrom ≠ ""
  mkDateTo : q.mkDateTo ≠ ""

section Form

variable (q : OracleQuery) (password : String)

/-- The fields, with the filters that are left out. -/
def allFields : Form := (postFields q password).take 5 ++ q.filters

theorem map_fst_allFields : (allFields q password).map Prod.fst =
    ["url", "user", "password", "table_name", "limit", "sta_no1", "sta_no2", "sta_no3",
      "mk_date_from", "mk_date_to", "t1_status"] := rfl

theorem nodup_allFields : ((allFields q password).map Prod.fst).Nodup := by
  rw [map_fst_allFields]
  decide

theorem postFields_sublist : (postFields q password).Sublist (allFields q password) :=
  (List.Sublist.refl ((postFields q password).take 5)).append List.filter_sublist

theorem nodup_postFields : ((postFields q password).map Prod.fst).Nodup :=
  ((postFields_sublist q password).map Prod.fst).nodup (nodup_allFields q password)

/-- A field in front of the filters is in the form. -/
theorem get_field {key value : String} (isField : (key, value) ∈ (postFields q password).take 5) :
    (postFields q password).get key = some value :=
  (Form.get_eq_some_iff (nodup_postFields q password)).mpr (List.mem_of_mem_take isField)

/-- A filter is in the form if it is not empty. -/
theorem get_filter {key value : String} (isFilter : (key, value) ∈ q.filters) :
    (postFields q password).get key = if value = "" then none else some value := by
  have once := nodup_postFields q password
  split_ifs with empty
  · rw [Option.eq_none_iff_forall_ne_some]
    intro other isOther
    have inForm := (Form.get_eq_some_iff once).mp isOther
    have all (value : String) :
        (allFields q password).get key = some value ↔ (key, value) ∈ allFields q password :=
      Form.get_eq_some_iff (nodup_allFields q password)
    have same : other = value := Option.some.inj
      (((all other).mpr ((postFields_sublist q password).subset inForm)).symm.trans
        ((all value).mpr (List.mem_append_right _ isFilter)))
    rcases List.mem_append.mp inForm with inFront | kept
    · have apart := nodup_allFields q password
      rw [allFields, List.map_append, List.nodup_append] at apart
      exact apart.2.2 key (List.mem_map_of_mem inFront) key (List.mem_map_of_mem isFilter) rfl
    · exact of_decide_eq_true (List.mem_filter.mp kept).2 (same.trans empty)
  · rw [Form.get_eq_some_iff once]
    exact List.mem_append_right _ (List.mem_filter.mpr ⟨isFilter, decide_eq_true empty⟩)

/-- What is no field is not in the form. -/
theorem get_other {key : String} (other : key ∉ (allFields q password).map Prod.fst) :
    (postFields q password).get key = none := by
  rw [Option.eq_none_iff_forall_ne_some]
  intro value isValue
  have inForm := (Form.get_eq_some_iff (nodup_postFields q password)).mp isValue
  exact other (List.mem_map_of_mem ((postFields_sublist q password).subset inForm))

/-- The name of the database in the request. -/
def queryUrl : String := "jdbc:oracle:thin:@" ++ q.host ++ ":" ++ q.port ++ "/" ++ q.service

/-- What the endpoint looks up in the form of a query. -/
structure Posts (form : Form) (q : OracleQuery) (password : String) : Prop where
  url : form.get "url" = some (queryUrl q)
  user : form.get "user" = some q.user
  password : form.get "password" = some password
  tableName : form.get "table_name" = some q.table
  staNo1 : form.get "sta_no1" = if q.staNo1 = "" then none else some q.staNo1
  staNo2 : form.get "sta_no2" = if q.staNo2 = "" then none else some q.staNo2
  staNo3 : form.get "sta_no3" = if q.staNo3 = "" then none else some q.staNo3
  mkDateFrom : form.get "mk_date_from" = if q.mkDateFrom = "" then none else some q.mkDateFrom
  mkDateTo : form.get "mk_date_to" = if q.mkDateTo = "" then none else some q.mkDateTo
  connectTimeout : form.get "connect_timeout_ms" = none
  readTimeout : form.get "read_timeout_ms" = none

theorem posts_postFields : Posts (postFields q password) q password where
  url := get_field q password (.head _)
  user := get_field q password (.tail _ (.head _))
  password := get_field q password (.tail _ (.tail _ (.head _)))
  tableName := get_field q password (.tail _ (.tail _ (.tail _ (.head _))))
  staNo1 := get_filter q password (by simp [OracleQuery.filters])
  staNo2 := get_filter q password (by simp [OracleQuery.filters])
  staNo3 := get_filter q password (by simp [OracleQuery.filters])
  mkDateFrom := get_filter q password (by simp [OracleQuery.filters])
  mkDateTo := get_filter q password (by simp [OracleQuery.filters])
  connectTimeout := get_other q password (by rw [map_fst_allFields]; decide)
  readTimeout := get_other q password (by rw [map_fst_allFields]; decide)

/-- The statement of a query that is answered. -/
def querySession : SelectSession where
  url := queryUrl q
  user := q.user
  password := password
  connectTimeout := "10000"
  readTimeout := "30000"
  sql := selectRangeSql q.table
  staNo1 := q.staNo1
  staNo2 := q.staNo2
  staNo3 := q.staNo3
  mkDateFrom := q.mkDateFrom
  mkDateTo := q.mkDateTo

variable (isLetterOrDigit : Char → Bool) (malformed : List UInt8 → List Char)

/-- The endpoint opens the statement of the query, or it answers without a connection. -/
theorem selectRange_cases :
    q.Answered isLetterOrDigit ∧
        selectRange isLetterOrDigit malformed true (buildPostBody q password) =
          .opened (querySession q password) ∨
      ¬q.Answered isLetterOrDigit ∧ ∃ body,
        selectRange isLetterOrDigit malformed true (buildPostBody q password) =
          .rejected 400 body := by
  have read : parseForm malformed (buildPostBody q password) = some (postFields q password) :=
    parseForm_urlencode malformed (List.cons_ne_nil _ _)
  have posts := posts_postFields q password
  have complete : (rangeFields.find? fun key => ((postFields q password).get key).isNone) = none ↔
      q.staNo1 ≠ "" ∧ q.staNo2 ≠ "" ∧ q.staNo3 ≠ "" ∧ q.mkDateFrom ≠ "" ∧ q.mkDateTo ≠ "" := by
    rw [List.find?_eq_none]
    simp [rangeFields, posts.url, posts.user, posts.password, posts.tableName, posts.staNo1,
      posts.staNo2, posts.staNo3, posts.mkDateFrom, posts.mkDateTo]
  rw [selectRange, if_neg (by decide), read]
  dsimp only
  cases missing : rangeFields.find? fun key => ((postFields q password).get key).isNone with
  | some key =>
      refine .inr ⟨fun answered => ?_, _, rfl⟩
      rw [complete.mpr ⟨answered.staNo1, answered.staNo2, answered.staNo3, answered.mkDateFrom,
        answered.mkDateTo⟩] at missing
      cases missing
  | none =>
      obtain ⟨staNo1, staNo2, staNo3, mkDateFrom, mkDateTo⟩ := complete.mp missing
      dsimp only
      rw [selectForm, posts.tableName, Option.getD_some]
      split_ifs with invalid
      · exact .inr ⟨fun answered => by simp [answered.table] at invalid, _, rfl⟩
      · refine .inl ⟨⟨by simpa using invalid, staNo1, staNo2, staNo3, mkDateFrom, mkDateTo⟩, ?_⟩
        rw [posts.url, posts.user, posts.password, posts.staNo1, posts.staNo2, posts.staNo3,
          posts.mkDateFrom, posts.mkDateTo, posts.connectTimeout, posts.readTimeout, if_neg staNo1,
          if_neg staNo2, if_neg staNo3, if_neg mkDateFrom, if_neg mkDateTo]
        rfl

end Form

/-! ## What is found -/

variable {isLetterOrDigit : Char → Bool} {malformed : List UInt8 → List Char}

/-- Within one date the statement gives the rows with exactly these columns. -/
theorem inRange_iff {q : OracleQuery} (answered : q.Answered isLetterOrDigit)
    (oneDate : q.mkDateFrom = q.mkDateTo) (written : ¬"2099".toList <+: q.mkDateTo.toList)
    (password : String) (row : StoredRow) :
    inRange (querySession q password) row = true ↔
      row.Has q.mkDateTo q.staNo1 q.staNo2 q.staNo3 := by
  have date : (row.mkDate.any fun mkDate =>
      (Sql.varchar q.mkDateFrom).any (· ≤ mkDate) && (Sql.varchar q.mkDateTo).any (mkDate ≤ ·) &&
        !"2099".toList.isPrefixOf mkDate.toList) = true ↔ row.mkDate = some q.mkDateTo := by
    rw [Sql.varchar, if_neg answered.mkDateFrom, Sql.varchar, if_neg answered.mkDateTo, oneDate,
      Option.any_eq_true]
    constructor
    · rintro ⟨mkDate, isDate, within⟩
      simp only [Option.any_some, Bool.and_eq_true, decide_eq_true_eq] at within
      rw [isDate, le_antisymm within.1.1 within.1.2]
    · intro isDate
      have notPrefix : "2099".toList.isPrefixOf q.mkDateTo.toList = false :=
        Bool.eq_false_iff.mpr (mt List.isPrefixOf_iff_prefix.mp written)
      refine ⟨_, isDate, ?_⟩
      simp only [Option.any_some, notPrefix, le_refl, decide_true, Bool.and_self, Bool.not_false]
  rw [inRange, Bool.and_eq_true, Bool.and_eq_true, Bool.and_eq_true]
  simp only [querySession, Sql.equal_varchar_iff answered.staNo1,
    Sql.equal_varchar_iff answered.staNo2,
    Sql.equal_varchar_iff answered.staNo3, date]
  constructor
  · rintro ⟨⟨⟨first, second⟩, third⟩, isDate⟩
    exact ⟨isDate, first, second, third⟩
  · intro has
    exact ⟨⟨⟨has.staNo1, has.staNo2⟩, has.staNo3⟩, has.mkDate⟩

theorem of_mem_selectedRows {session : SelectSession} {table : List StoredRow} {row : StoredRow}
    (among : row ∈ selectedRows session table) : row ∈ table ∧ inRange session row = true :=
  List.mem_filter.mp ((List.mem_insertionSort _).mp (List.mem_of_mem_take among))

theorem selectedRows_ne_nil_iff {session : SelectSession} {table : List StoredRow} :
    selectedRows session table ≠ [] ↔ ∃ row ∈ table, inRange session row = true := by
  rw [← List.length_pos_iff, selectedRows, List.length_take, List.length_insertionSort,
    Nat.lt_min, List.length_filter_pos_iff]
  simp

/-- A row is found if the request is answered, the columns are legible and the table has a row
with them. -/
theorem verifyExact_found_iff {q : OracleQuery} (oneDate : q.mkDateFrom = q.mkDateTo)
    (written : ¬"2099".toList <+: q.mkDateTo.toList) (table : List StoredRow) (password : String) :
    let result := verifyExact isLetterOrDigit malformed table q password
    result.ok = true ∧ result.rows ≠ [] ↔
      q.Answered isLetterOrDigit ∧ Legible q.mkDateTo q.staNo1 q.staNo2 q.staNo3 ∧
        ∃ row ∈ table, row.Has q.mkDateTo q.staNo1 q.staNo2 q.staNo3 := by
  intro result
  rcases selectRange_cases q password isLetterOrDigit malformed with
    ⟨answered, opened⟩ | ⟨refused, body, rejected⟩
  · have has := inRange_iff answered oneDate written password
    have each : ∀ row ∈ selectedRows (querySession q password) table,
        row.Has q.mkDateTo q.staNo1 q.staNo2 q.staNo3 :=
      fun row among => (has row).mp (of_mem_selectedRows among).2
    have isResult : result = parseSelectRecent (universalNewlines
        (rangeResponse (selectedRows (querySession q password) table))) := by
      simp only [result, verifyExact, opened, wgetOutput]
    rw [isResult]
    refine (parse_rangeResponse_iff each).trans ?_
    rw [selectedRows_ne_nil_iff]
    simp only [has, answered, true_and]
    exact and_comm
  · have isResult : result = {} := by
      simp only [result, verifyExact, rejected, wgetOutput]
      rfl
    rw [isResult]
    exact ⟨fun found => absurd rfl found.2, fun found => absurd found.1 refused⟩

end PresenceLogger.Monitor
