import PresenceLogger.Bridge.OracleJdbc
import PresenceLogger.Library.FormData

/-!
# The request to the sidecar

`execute_merge_via_jdbc` posts a form, and `Main.merge` reads it, checks it and binds
its values to a MERGE.
-/

namespace PresenceLogger.Bridge

open Library Library.Text

/-! ## The bridge -/

/-- The values of a profile's `oracle` section as the client writes them. -/
structure JdbcProfile where
  host : String
  port : String
  serviceName : String
  user : String
  password : String
  deriving DecidableEq, Repr

/-- `_build_jdbc_url` -/
def buildJdbcUrl (profile : JdbcProfile) : String :=
  "jdbc:oracle:thin:@" ++ profile.host ++ ":" ++ profile.port ++ "/" ++ profile.serviceName

/-- The arguments of `execute_merge_via_jdbc` that the form carries. -/
structure MergeCall where
  tableName : String
  mkDate : String
  staNo1 : String
  staNo2 : String
  staNo3 : String
  t1Status : Int
  upcmpflg : Option Int := none
  connectTimeoutMs : Int := 10000
  readTimeoutMs : Int := 30000
  deriving DecidableEq, Repr

abbrev Form := List (String × String)

/-- The integers of a call as `str` writes them. -/
structure IntegerTexts where
  t1Status : List Char
  connectTimeoutMs : List Char
  readTimeoutMs : List Char
  upcmpflg : Option (List Char)

/-- An integer that is too long for `str` raises, and then nothing is sent. -/
def integerTexts (call : MergeCall) : Option IntegerTexts := do
  let t1Status ← strOfInt call.t1Status
  let connectTimeoutMs ← strOfInt call.connectTimeoutMs
  let readTimeoutMs ← strOfInt call.readTimeoutMs
  let upcmpflg ← call.upcmpflg.mapM strOfInt
  return ⟨t1Status, connectTimeoutMs, readTimeoutMs, upcmpflg⟩

/-- The fields of the form. -/
def requestFields (profile : JdbcProfile) (call : MergeCall) (texts : IntegerTexts) : Form := [
  ("url", buildJdbcUrl profile),
  ("user", profile.user),
  ("password", profile.password),
  ("table_name", call.tableName),
  ("mk_date", call.mkDate),
  ("sta_no1", call.staNo1),
  ("sta_no2", call.staNo2),
  ("sta_no3", call.staNo3),
  ("t1_status", .ofList texts.t1Status),
  ("connect_timeout_ms", .ofList texts.connectTimeoutMs),
  ("read_timeout_ms", .ofList texts.readTimeoutMs)] ++
    texts.upcmpflg.toList.map fun text => ("upcmpflg_value", .ofList text)

/-- The body of the request. -/
def requestBody (profile : JdbcProfile) (call : MergeCall) : Option (List Char) :=
  (integerTexts call).map fun texts =>
    FormData.urlencode
      ((requestFields profile call texts).map fun field => (field.1.toList, field.2.toList))

/-! ## The sidecar -/

/-- `form.get(key)`; the last `put` of a key stays. -/
def Form.get (form : Form) (key : String) : Option String := form.reverse.lookup key

/-- `parseForm`, with `none` when a part cannot be decoded. A part without `=` is
passed over. -/
def parseForm (malformed : List UInt8 → List Char) (body : List Char) : Option Form :=
  ((body.splitOn '&').filter fun pair => '=' ∈ pair).mapM fun pair => do
    let key ← FormData.urlDecode malformed (partition '=' pair).1
    let value ← FormData.urlDecode malformed (partition '=' pair).2
    return (.ofList key, .ofList value)

/-- `isSafeTableName`; a character beyond the basic plane is two surrogates, which are no
letters. -/
def isSafeTableName (isLetterOrDigit : Char → Bool) (text : String) : Bool :=
  text ≠ "" && Java.length text.toList ≤ 64 &&
    text.toList.all fun char =>
      char.toNat < 0x10000 && isLetterOrDigit char || char = '_' || char = '$' || char = '#'

def mergeSqlWithoutUpcmpflg (tableName : String) : String :=
  "MERGE INTO " ++ tableName ++ " t " ++
    "USING (SELECT ? AS MK_DATE, ? AS STA_NO1, ? AS STA_NO2, " ++
    "? AS STA_NO3, ? AS T1_STATUS FROM dual) s " ++
    "ON (t.MK_DATE = s.MK_DATE AND t.STA_NO1 = s.STA_NO1 " ++
    "AND t.STA_NO2 = s.STA_NO2 AND t.STA_NO3 = s.STA_NO3 " ++
    "AND t.T1_STATUS = s.T1_STATUS) " ++
    "WHEN NOT MATCHED THEN " ++
    "INSERT (MK_DATE, STA_NO1, STA_NO2, STA_NO3, T1_STATUS) " ++
    "VALUES (s.MK_DATE, s.STA_NO1, s.STA_NO2, s.STA_NO3, s.T1_STATUS)"

def mergeSqlWithUpcmpflg (tableName : String) : String :=
  "MERGE INTO " ++ tableName ++ " t " ++
    "USING (SELECT ? AS MK_DATE, ? AS STA_NO1, ? AS STA_NO2, " ++
    "? AS STA_NO3, ? AS T1_STATUS, ? AS UPCMPFLG FROM dual) s " ++
    "ON (t.MK_DATE = s.MK_DATE AND t.STA_NO1 = s.STA_NO1 " ++
    "AND t.STA_NO2 = s.STA_NO2 AND t.STA_NO3 = s.STA_NO3 " ++
    "AND t.T1_STATUS = s.T1_STATUS) " ++
    "WHEN NOT MATCHED THEN " ++
    "INSERT (MK_DATE, STA_NO1, STA_NO2, STA_NO3, T1_STATUS, UPCMPFLG) " ++
    "VALUES (s.MK_DATE, s.STA_NO1, s.STA_NO2, s.STA_NO3, s.T1_STATUS, s.UPCMPFLG)"

/-- A value that is bound to the statement. -/
inductive Bind where
  | string (value : String)
  | int (value : Int)
  deriving DecidableEq, Repr

/-- The connection that the sidecar opens, and the statement it executes on it. -/
structure MergeSession where
  url : String
  user : String
  password : String
  connectTimeout : Int
  readTimeout : Int
  sql : String
  binds : List Bind
  deriving DecidableEq, Repr

inductive MergeHandled where
  /-- An answer without a connection. -/
  | rejected (code : Nat) (body : String)
  /-- The handler has raised, and there is no answer. -/
  | raised
  | opened (session : MergeSession)
  deriving DecidableEq, Repr

def requiredFields : List String :=
  ["url", "user", "password", "table_name", "mk_date", "sta_no1", "sta_no2", "sta_no3",
    "t1_status"]

/-- `Integer.parseInt`, with the message of its `NumberFormatException`. -/
def readInt (text : String) : Except String Int :=
  match Java.parseInt text.toList with
  | some value => .ok value
  | none => .error ("For input string: \"" ++ text ++ "\"")

/-- The integers of the form. -/
structure FormIntegers where
  t1Status : Int
  connectTimeoutMs : Int
  readTimeoutMs : Int
  upcmpflgValue : Option Int

def readIntegers (form : Form) (t1Status : String) : Except String FormIntegers := do
  let t1Status ← readInt t1Status
  let connectTimeoutMs ← readInt ((form.get "connect_timeout_ms").getD "10000")
  let readTimeoutMs ← readInt ((form.get "read_timeout_ms").getD "30000")
  let upcmpflgValue ← (form.get "upcmpflg_value").mapM readInt
  return ⟨t1Status, connectTimeoutMs, readTimeoutMs, upcmpflgValue⟩

section Merge

variable (isLetterOrDigit : Char → Bool) (malformed : List UInt8 → List Char)

/-- `merge` of a form whose required fields are there. -/
def mergeForm (form : Form) (value : String → String) : MergeHandled :=
  if isSafeTableName isLetterOrDigit (value "table_name") = false then
    .rejected 400 "error_message=invalid table_name\n"
  else
    match readIntegers form (value "t1_status") with
    | .error message => .rejected 400 ("error_message=invalid integer field: " ++ message ++ "\n")
    | .ok integers =>
        .opened {
          url := value "url"
          user := value "user"
          password := value "password"
          connectTimeout := integers.connectTimeoutMs
          readTimeout := integers.readTimeoutMs
          sql :=
            match integers.upcmpflgValue with
            | none => mergeSqlWithoutUpcmpflg (value "table_name")
            | some _ => mergeSqlWithUpcmpflg (value "table_name")
          binds :=
            [.string (value "mk_date"), .string (value "sta_no1"), .string (value "sta_no2"),
              .string (value "sta_no3"), .int integers.t1Status] ++
              integers.upcmpflgValue.toList.map Bind.int }

/-- `Main.merge`, up to its statement. -/
def merge (isPost : Bool) (body : List Char) : MergeHandled :=
  if isPost = false then .rejected 405 "error_message=method not allowed\n"
  else
    match parseForm malformed body with
    | none => .raised
    | some form =>
        match requiredFields.find? fun key => (form.get key).isNone with
        | some key => .rejected 400 ("error_message=missing field: " ++ key ++ "\n")
        | none => mergeForm isLetterOrDigit form fun key => (form.get key).getD ""

end Merge

/-! ## What is read of a request -/

/-- Where no key comes twice, a form gives the field that it has. -/
theorem Form.get_eq_some_iff {form : Form} (once : (form.map Prod.fst).Nodup)
    {key value : String} : form.get key = some value ↔ (key, value) ∈ form := by
  rw [Form.get, List.lookup_eq_some_iff]
  constructor
  · rintro ⟨before, after, split, -⟩
    rw [← List.mem_reverse, split]
    exact List.mem_append_right _ List.mem_cons_self
  · intro among
    obtain ⟨before, after, split⟩ := List.append_of_mem (List.mem_reverse.mpr among)
    refine ⟨before, after, split, fun field earlier => ?_⟩
    have reversed : (form.reverse.map Prod.fst).Nodup := by
      simpa [List.Nodup, List.pairwise_reverse, eq_comm] using once
    rw [split, List.map_append, List.nodup_append] at reversed
    have differ := reversed.2.2 field.1 (List.mem_map_of_mem earlier) key List.mem_cons_self
    simpa using differ.symm

section Form

variable (malformed : List UInt8 → List Char)

/-- A form is read as it was written. -/
theorem parseForm_urlencode {fields : Form} (nonempty : fields ≠ []) :
    parseForm malformed (FormData.urlencode
      (fields.map fun field => (field.1.toList, field.2.toList))) = some fields := by
  have absent (text : List Char) : '=' ∉ FormData.quotePlus text :=
    fun member => (FormData.not_separator_of_mem_quotePlus member).2 rfl
  rw [parseForm, FormData.splitOn_urlencode (by simpa using nonempty), List.map_map]
  clear nonempty
  induction fields with
  | nil => rfl
  | cons field fields ih =>
      rw [List.map_cons, List.filter_cons_of_pos (by simp), List.mapM_cons, ih]
      simp [partition_append (absent _), FormData.urlDecode_quotePlus]

end Form

theorem readInt_of_strOfInt {n : Int} {text : List Char} (isText : strOfInt n = some text) :
    readInt (.ofList text) =
      if Java.IsInt n then .ok n
      else .error ("For input string: \"" ++ String.ofList text ++ "\"") := by
  rw [readInt, String.toList_ofList, eq_ofInt_of_strOfInt isText, Java.parseInt_ofInt]
  by_cases isInt : Java.IsInt n
  · rw [if_pos isInt, if_pos isInt]
  · rw [if_neg isInt, if_neg isInt]

/-- What the sidecar looks up in the form of a call. -/
structure Carries (form : Form) (profile : JdbcProfile) (call : MergeCall)
    (texts : IntegerTexts) : Prop where
  url : form.get "url" = some (buildJdbcUrl profile)
  user : form.get "user" = some profile.user
  password : form.get "password" = some profile.password
  tableName : form.get "table_name" = some call.tableName
  mkDate : form.get "mk_date" = some call.mkDate
  staNo1 : form.get "sta_no1" = some call.staNo1
  staNo2 : form.get "sta_no2" = some call.staNo2
  staNo3 : form.get "sta_no3" = some call.staNo3
  t1Status : form.get "t1_status" = some (.ofList texts.t1Status)
  connectTimeoutMs : form.get "connect_timeout_ms" = some (.ofList texts.connectTimeoutMs)
  readTimeoutMs : form.get "read_timeout_ms" = some (.ofList texts.readTimeoutMs)
  upcmpflg : form.get "upcmpflg_value" = texts.upcmpflg.map .ofList

theorem carries_requestFields (profile : JdbcProfile) (call : MergeCall) (texts : IntegerTexts) :
    Carries (requestFields profile call texts) profile call texts := by
  rcases texts with ⟨_, _, _, - | _⟩
  all_goals exact ⟨rfl, rfl, rfl, rfl, rfl, rfl, rfl, rfl, rfl, rfl, rfl, rfl⟩

/-- The integers that Java can hold. -/
def Readable (call : MergeCall) : Prop :=
  Java.IsInt call.t1Status ∧ Java.IsInt call.connectTimeoutMs ∧ Java.IsInt call.readTimeoutMs ∧
    ∀ flag ∈ call.upcmpflg, Java.IsInt flag

/-- The texts are those of the call's integers. -/
theorem strOfInt_of_integerTexts {call : MergeCall} {texts : IntegerTexts}
    (isTexts : integerTexts call = some texts) :
    strOfInt call.t1Status = some texts.t1Status ∧
      strOfInt call.connectTimeoutMs = some texts.connectTimeoutMs ∧
      strOfInt call.readTimeoutMs = some texts.readTimeoutMs ∧
      call.upcmpflg.mapM strOfInt = some texts.upcmpflg := by
  rcases Option.bind_eq_some_iff.mp isTexts with ⟨t1Status, isT1Status, isTexts⟩
  rcases Option.bind_eq_some_iff.mp isTexts with ⟨connect, isConnect, isTexts⟩
  rcases Option.bind_eq_some_iff.mp isTexts with ⟨read, isRead, isTexts⟩
  rcases Option.bind_eq_some_iff.mp isTexts with ⟨upcmpflg, isUpcmpflg, same⟩
  cases same
  exact ⟨isT1Status, isConnect, isRead, isUpcmpflg⟩

/-- An optional integer is read if it is there. -/
theorem mapM_readInt {flag : Option Int} {text : Option (List Char)}
    (isText : flag.mapM strOfInt = some text) :
    ((∀ n ∈ flag, Java.IsInt n) ∧ (text.map String.ofList).mapM readInt = .ok flag) ∨
      ((¬∀ n ∈ flag, Java.IsInt n) ∧
        ∃ message, (text.map String.ofList).mapM readInt = .error message) := by
  cases flag with
  | none =>
      have same : text = none := by simpa using isText.symm
      left
      rw [same]
      exact ⟨fun _ isFlag => (by cases isFlag), rfl⟩
  | some n =>
      have isText : (strOfInt n).map some = some text := by simpa using isText
      rcases Option.map_eq_some_iff.mp isText with ⟨written, isWritten, rfl⟩
      have read : (Option.map String.ofList (some written)).mapM readInt =
          (readInt (.ofList written)).map some := by
        rw [Option.map_some, Option.mapM_some]
        rfl
      rw [read, readInt_of_strOfInt isWritten]
      by_cases isInt : Java.IsInt n
      · left
        rw [if_pos isInt]
        exact ⟨fun _ isFlag => Option.some.inj isFlag ▸ isInt, rfl⟩
      · right
        rw [if_neg isInt]
        exact ⟨fun each => isInt (each n rfl), _, rfl⟩

/-- The sidecar reads the call's integers, or refuses one of them. -/
theorem readIntegers_cases {form : Form} {profile : JdbcProfile} {call : MergeCall}
    {texts : IntegerTexts} (carries : Carries form profile call texts)
    (isTexts : integerTexts call = some texts) :
    (Readable call ∧ readIntegers form (.ofList texts.t1Status) = .ok {
      t1Status := call.t1Status
      connectTimeoutMs := call.connectTimeoutMs
      readTimeoutMs := call.readTimeoutMs
      upcmpflgValue := call.upcmpflg }) ∨
    (¬Readable call ∧ ∃ message, readIntegers form (.ofList texts.t1Status) = .error message) := by
  rcases strOfInt_of_integerTexts isTexts with ⟨isT1Status, isConnect, isRead, isUpcmpflg⟩
  rw [readIntegers, carries.connectTimeoutMs, carries.readTimeoutMs, carries.upcmpflg,
    readInt_of_strOfInt isT1Status, Option.getD_some, Option.getD_some,
    readInt_of_strOfInt isConnect, readInt_of_strOfInt isRead]
  by_cases first : Java.IsInt call.t1Status
  · rw [if_pos first]
    by_cases second : Java.IsInt call.connectTimeoutMs
    · rw [if_pos second]
      by_cases third : Java.IsInt call.readTimeoutMs
      · rw [if_pos third]
        rcases mapM_readInt isUpcmpflg with ⟨fourth, read⟩ | ⟨refused, message, read⟩
        · left
          rw [read]
          exact ⟨⟨first, second, third, fourth⟩, rfl⟩
        · right
          rw [read]
          exact ⟨fun readable => refused readable.2.2.2, message, rfl⟩
      · right
        rw [if_neg third]
        exact ⟨fun readable => third readable.2.2.1, _, rfl⟩
    · right
      rw [if_neg second]
      exact ⟨fun readable => second readable.2.1, _, rfl⟩
  · right
    rw [if_neg first]
    exact ⟨fun readable => first readable.1, _, rfl⟩

/-! ## Fidelity -/

section Fidelity

variable (isLetterOrDigit : Char → Bool) (malformed : List UInt8 → List Char)

/-- What the sidecar makes of the request of a call, if one is sent. -/
def handled (profile : JdbcProfile) (call : MergeCall) : Option MergeHandled :=
  (requestBody profile call).map (merge isLetterOrDigit malformed true)

/-- The MERGE that inserts the columns, unless a row has the five values of the key. -/
def mergeText (tableName : String) (flagged : Bool) : String :=
  let key := ["MK_DATE", "STA_NO1", "STA_NO2", "STA_NO3", "T1_STATUS"]
  let columns := if flagged then key ++ ["UPCMPFLG"] else key
  "MERGE INTO " ++ tableName ++
    (" t USING (SELECT " ++ ", ".intercalate (columns.map fun column => "? AS " ++ column) ++
      " FROM dual) s ON (" ++
      " AND ".intercalate (key.map fun column => "t." ++ column ++ " = s." ++ column) ++
      ") WHEN NOT MATCHED THEN INSERT (" ++ ", ".intercalate columns ++ ") VALUES (" ++
      ", ".intercalate (columns.map fun column => "s." ++ column) ++ ")")

theorem mergeSqlWithoutUpcmpflg_eq (tableName : String) :
    mergeSqlWithoutUpcmpflg tableName = mergeText tableName false := by
  unfold mergeSqlWithoutUpcmpflg
  simp only [String.append_assoc]
  exact congrArg (fun rest => "MERGE INTO " ++ (tableName ++ rest)) (by decide +kernel)

theorem mergeSqlWithUpcmpflg_eq (tableName : String) :
    mergeSqlWithUpcmpflg tableName = mergeText tableName true := by
  unfold mergeSqlWithUpcmpflg
  simp only [String.append_assoc]
  exact congrArg (fun rest => "MERGE INTO " ++ (tableName ++ rest)) (by decide +kernel)

/-- The MERGE of exactly this call. -/
def callSession (profile : JdbcProfile) (call : MergeCall) : MergeSession where
  url := buildJdbcUrl profile
  user := profile.user
  password := profile.password
  connectTimeout := call.connectTimeoutMs
  readTimeout := call.readTimeoutMs
  sql := mergeText call.tableName call.upcmpflg.isSome
  binds :=
    [.string call.mkDate, .string call.staNo1, .string call.staNo2, .string call.staNo3,
      .int call.t1Status] ++ call.upcmpflg.toList.map Bind.int

variable {isLetterOrDigit malformed}

theorem merge_request {profile : JdbcProfile} {call : MergeCall} {texts : IntegerTexts}
    (isTexts : integerTexts call = some texts) :
    let form := requestFields profile call texts
    mergeForm isLetterOrDigit form (fun key => (form.get key).getD "") =
        .opened (callSession profile call) ∧
      isSafeTableName isLetterOrDigit call.tableName = true ∧ Readable call ∨
    ¬(isSafeTableName isLetterOrDigit call.tableName = true ∧ Readable call) ∧
      ∃ text, mergeForm isLetterOrDigit form (fun key => (form.get key).getD "") =
        .rejected 400 text := by
  intro form
  have carries : Carries form profile call texts := carries_requestFields profile call texts
  rw [mergeForm, carries.url, carries.user, carries.password, carries.tableName, carries.mkDate,
    carries.staNo1, carries.staNo2, carries.staNo3, carries.t1Status]
  simp only [Option.getD_some]
  by_cases safe : isSafeTableName isLetterOrDigit call.tableName = true
  · rw [if_neg (by simp [safe])]
    rcases readIntegers_cases carries isTexts with ⟨readable, read⟩ | ⟨refused, message, read⟩
    · rw [read]
      refine .inl ⟨?_, safe, readable⟩
      rw [callSession]
      cases call.upcmpflg with
      | none => rw [Option.isSome_none, ← mergeSqlWithoutUpcmpflg_eq]
      | some flag => rw [Option.isSome_some, ← mergeSqlWithUpcmpflg_eq]
    · rw [read]
      exact .inr ⟨fun accepted => refused accepted.2, _, rfl⟩
  · rw [if_pos (by simpa using safe)]
    exact .inr ⟨fun accepted => safe accepted.1, _, rfl⟩

theorem merge_urlencode (profile : JdbcProfile) (call : MergeCall) (texts : IntegerTexts) :
    let form := requestFields profile call texts
    merge isLetterOrDigit malformed true
        (FormData.urlencode (form.map fun field => (field.1.toList, field.2.toList))) =
      mergeForm isLetterOrDigit form fun key => (form.get key).getD "" := by
  intro form
  have carries : Carries form profile call texts := carries_requestFields profile call texts
  have complete : (requiredFields.find? fun key => (form.get key).isNone) = none := by
    simp [requiredFields, carries.url, carries.user, carries.password, carries.tableName,
      carries.mkDate, carries.staNo1, carries.staNo2, carries.staNo3, carries.t1Status]
  have nonempty : form ≠ [] := List.cons_ne_nil _ _
  rw [merge, if_neg (by decide), parseForm_urlencode malformed nonempty]
  dsimp only
  rw [complete]

/-- The sidecar executes exactly the MERGE of the call, with a sixth value if the call has
one, or it answers without a connection. -/
theorem handled_cases {profile : JdbcProfile} {call : MergeCall} {outcome : MergeHandled}
    (isOutcome : handled isLetterOrDigit malformed profile call = some outcome) :
    (outcome = .opened (callSession profile call) ∧
        isSafeTableName isLetterOrDigit call.tableName = true ∧ Readable call ∨
      ¬(isSafeTableName isLetterOrDigit call.tableName = true ∧ Readable call) ∧
        ∃ text, outcome = .rejected 400 text) ∧
    ((callSession profile call).binds.length = 6 ↔ call.upcmpflg ≠ none) := by
  rcases Option.map_eq_some_iff.mp isOutcome with ⟨body, isBody, rfl⟩
  rcases Option.map_eq_some_iff.mp isBody with ⟨texts, isTexts, rfl⟩
  constructor
  · rw [merge_urlencode]
    exact merge_request isTexts
  · cases flagged : call.upcmpflg <;> simp [callSession, flagged]

end Fidelity

namespace Site

def jdbcProfile : JdbcProfile where
  host := "10.1.2.3"
  port := "1521"
  serviceName := "HHC001"
  user := "ZHH001"
  password := "p&w=1+%2 ä"

def mergeCall : MergeCall where
  tableName := "HF1RCM01"
  mkDate := "20260925120000"
  staNo1 := "100"
  staNo2 := "2&sta_no3=9"
  staNo3 := ""
  t1Status := -3
  upcmpflg := some 1

end Site

/-- Values with separators in them. -/
theorem handled_cases_site :
    handled Char.isAlphanum (fun _ => []) Site.jdbcProfile Site.mergeCall =
      some (.opened (callSession Site.jdbcProfile Site.mergeCall)) := by
  have accepted : isSafeTableName Char.isAlphanum Site.mergeCall.tableName = true ∧
      Readable Site.mergeCall := by
    refine ⟨by decide +kernel, by decide, by decide, by decide, ?_⟩
    intro flag isFlag
    rw [← Option.some.inj isFlag]
    decide
  cases isOutcome : handled Char.isAlphanum (fun _ => []) Site.jdbcProfile Site.mergeCall with
  | none =>
      have sent : (integerTexts Site.mergeCall).isSome := by decide +kernel
      simp only [handled, requestBody, Option.map_eq_none_iff] at isOutcome
      rw [isOutcome] at sent
      cases sent
  | some outcome =>
      rcases (handled_cases isOutcome).1 with ⟨opened, -⟩ | ⟨refused, -⟩
      · rw [opened]
      · exact absurd accepted refused

end PresenceLogger.Bridge
