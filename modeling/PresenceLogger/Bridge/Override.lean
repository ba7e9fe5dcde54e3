import PresenceLogger.Bridge.JdbcRequest
import PresenceLogger.Library.Dict
import PresenceLogger.Library.TextFile
import PresenceLogger.Library.Utf8

/-!
# The UPCMPFLG of a MERGE

The adapter takes the flag from a file that an operator edits by hand, and from the
profile where that file says nothing.  The file's text is read as UTF-8, and an integer
may be longer than the interpreter is ready to read.  The MERGE is reached when the request
to the sidecar is opened or the statement is executed; what comes after that is decoded by
`executeMergeViaJdbc` and `openAndMerge`.
-/

namespace PresenceLogger.Bridge.Override

open Library Library.Text

/-! ## The `oracle` section of a profile -/

/-- A value as YAML yields it: a float with what `int` makes of it, a text with a lone
surrogate by its `repr`, anything else by its `repr` and its `str`, which are missing where
they raise (an integer in it is too long). -/
inductive Setting where
  | null
  | bool (value : Bool)
  | int (value : Int)
  | float (text : String) (truncated : Option Int)
  | str (text : String)
  | surrogates (repr : String)
  | other (repr text : Option String) (hashable : Bool)
  deriving DecidableEq

abbrev Settings := Dict String Setting

inductive ConfigFault where
  | configError (message : String)
  | typeError
  | valueError
  deriving DecidableEq

namespace Setting

/-- `repr(value)`, that of a text being given; an integer may be too long. -/
def repr (strRepr : String → String) : Setting → Option String
  | .null => some "None"
  | .bool true => some "True"
  | .bool false => some "False"
  | .int value => (strOfInt value).map .ofList
  | .float text _ => some text
  | .str text => some (strRepr text)
  | .surrogates repr => some repr
  | .other repr _ _ => repr

/-- `str(value)`, where it does not raise and has a UTF-8 form. -/
def text : Setting → Option String
  | .str text => some text
  | .surrogates _ => none
  | .other _ text _ => text
  | value => value.repr id

/-- `value in texts`, for a set of texts. -/
def isOneOf (texts : List String) : Setting → Except ConfigFault Bool
  | .str text => .ok (text ∈ texts)
  | .other _ _ false => .error .typeError
  | _ => .ok false

end Setting

/-- `ALLOWED_CLIENT_MODES`, sorted. -/
def allowedClientModes : List String := ["jdbc", "thick", "thin"]

/-- `ALLOWED_AUTH_MODES`, sorted. -/
def allowedAuthModes : List String := ["basic", "wallet"]

/-- `_BASIC_REQUIRED` and `_JDBC_REQUIRED`, sorted. -/
def basicRequired : List String := ["host", "password", "port", "service_name", "user"]

/-- `_WALLET_REQUIRED`, sorted. -/
def walletRequired : List String := ["dsn", "password", "user", "wallet_dir"]

/-- The `repr` of a list of names. -/
def reprNames (names : List String) : String :=
  "[" ++ ", ".intercalate (names.map fun name => "'" ++ name ++ "'") ++ "]"

section Validation

variable (strRepr : String → String) (name : String)

/-- The value in the message of a fault. -/
def shown (value : Setting) : Except ConfigFault String :=
  match value.repr strRepr with
  | none => .error .valueError
  | some text => .ok text

def checkMode (key : String) (allowed : List String) (value : Setting) :
    Except ConfigFault Unit := do
  unless ← value.isOneOf allowed do
    throw (.configError ("profile " ++ name ++ ": " ++ key ++ " must be one of " ++
      reprNames allowed ++ ", got " ++ (← shown strRepr value)))

/-- A text that has been checked, as it stands in a message. -/
def plain : Setting → String
  | .str text => text
  | _ => ""

def checkRequired (oracle : Settings) (cm am : Setting) : Except ConfigFault Unit := do
  if cm = .str "jdbc" ∧ am ≠ .str "basic" then
    throw (.configError ("profile " ++ name ++ ": client_mode=jdbc requires auth_mode=basic " ++
      "(wallet/TCPS unsupported by the sidecar), got " ++ (← shown strRepr am)))
  let required := if am = .str "basic" then basicRequired else walletRequired
  let missing := required.filter fun key => (oracle.find key).isNone
  unless missing = [] do
    throw (.configError ("profile " ++ name ++ " (" ++ plain cm ++ "/" ++ plain am ++
      "): missing required oracle key(s) " ++ reprNames missing))

def checkUpcmpflg (oracle : Settings) : Except ConfigFault Unit :=
  match oracle.find "upcmpflg" with
  | none | some (.int _) => .ok ()
  | some value => do
      throw (.configError ("profile " ++ name ++ ": oracle.upcmpflg must be an integer " ++
        "(omit the key entirely to skip the UPCMPFLG column), got " ++ (← shown strRepr value)))

/-- `_validate_oracle_section` -/
def validateOracleSection (oracle : Settings) : Except ConfigFault Unit := do
  let cm := (oracle.find "client_mode").getD .null
  let am := (oracle.find "auth_mode").getD .null
  checkMode strRepr name "client_mode" allowedClientModes cm
  checkMode strRepr name "auth_mode" allowedAuthModes am
  checkRequired strRepr name oracle cm am
  checkUpcmpflg strRepr name oracle

end Validation

/-! ## The override file -/

/-- What opening and reading a file comes to. -/
inductive ReadOutcome where
  | osError
  | bytes (content : ByteArray)

/-- An exception that leaves the adapter; `UnicodeEncodeError` is a `ValueError`. -/
inductive Fault where
  | unicodeDecodeError
  | keyError (key : String)
  | valueError
  | overflowError
  | typeError
  /-- What the driver raises that is no `DatabaseError`. -/
  | driverError
  deriving DecidableEq

/-- `p.read_text(encoding="utf-8").strip()` -/
def readStripped (content : ByteArray) : Option (List Char) :=
  (Utf8.decode content).map fun text => strip (universalNewlines text)

/-- `read_upcmpflg_override` -/
def readUpcmpflgOverride : ReadOutcome → Except Fault (Option Int)
  | .osError => .ok none
  | .bytes content =>
      match readStripped content with
      | none => .error .unicodeDecodeError
      | some text => if text = [] then .ok none else .ok (parseInt text)

/-! ## The adapter -/

/-- `_OracleAdapter` -/
structure OracleAdapter where
  jdbcProxyUrl : String
  jdbcConnectTimeoutMs : Int
  jdbcReadTimeoutMs : Int
  upcmpflgOverridePath : Option String

structure MergeArguments where
  mkDate : Setting
  staNo1 : Setting
  staNo2 : Setting
  staNo3 : Setting
  t1Status : Int
  deriving DecidableEq

inductive Backend where
  | viaJdbc (proxyUrl : String) (connectTimeoutMs readTimeoutMs : Int)
  | openAndMerge
  deriving DecidableEq

/-- A MERGE as it is handed to a back end. -/
structure BackendCall where
  backend : Backend
  oracle : Settings
  tableName : Setting
  arguments : MergeArguments
  upcmpflg : Option Int

/-- `int(value)` -/
def intOf : Setting → Except Fault Int
  | .bool value => .ok (if value then 1 else 0)
  | .int value => .ok value
  | .float _ (some value) => .ok value
  | .float text none => .error (if text = "nan" then .valueError else .overflowError)
  | .str text =>
      match parseInt text.toList with
      | some value => .ok value
      | none => .error .valueError
  | .surrogates _ => .error .valueError
  | .null | .other .. => .error .typeError

/-- The flag of a profile. -/
def profileFlag (oracle : Settings) : Except Fault (Option Int) :=
  match oracle.find "upcmpflg" with
  | none | some .null => .ok none
  | some value => (intOf value).map some

/-- The file is read if there is a path. -/
def OracleAdapter.readOverride (adapter : OracleAdapter) (files : String → ReadOutcome) :
    Except Fault (Option Int) :=
  match adapter.upcmpflgOverridePath with
  | none => .ok none
  | some path => readUpcmpflgOverride (files path)

/-- The back end that is called, and with what. -/
def OracleAdapter.backendCall (adapter : OracleAdapter) (files : String → ReadOutcome)
    (oracle : Settings) (arguments : MergeArguments) : Except Fault BackendCall := do
  let override ← adapter.readOverride files
  let upcmpflg ← match override with
    | some flag => .ok (some flag)
    | none => profileFlag oracle
  let backend :=
    if oracle.find "client_mode" = some (.str "jdbc") then
      .viaJdbc adapter.jdbcProxyUrl adapter.jdbcConnectTimeoutMs adapter.jdbcReadTimeoutMs
    else .openAndMerge
  match oracle.find "table_name" with
  | none => .error (.keyError "table_name")
  | some tableName => .ok ⟨backend, oracle, tableName, arguments, upcmpflg⟩

/-! ## The back ends -/

/-- How far a MERGE gets. -/
inductive Attempt where
  /-- The request is opened. -/
  | posted (url : List Char) (call : MergeCall) (body : List Char)
  /-- The statement is executed. -/
  | executed (sql : String) (arguments : MergeArguments) (upcmpflg : Option Int)
  /-- There is no connection, and the driver's `DatabaseError` becomes the result. -/
  | notConnected (upcmpflg : Option Int)
  deriving DecidableEq

def Attempt.upcmpflg : Attempt → Option Int
  | .posted _ call _ => call.upcmpflg
  | .executed _ _ upcmpflg => upcmpflg
  | .notConnected upcmpflg => upcmpflg

/-- `str(value)` in a form or in a statement. -/
def written (value : Setting) : Except Fault String :=
  match value.text with
  | none => .error .valueError
  | some text => .ok text

/-- `str(oracle[key])` -/
def writtenAt (oracle : Settings) (key : String) : Except Fault String :=
  match oracle.find key with
  | none => .error (.keyError key)
  | some value => written value

/-- The settings that the form carries. -/
def jdbcProfile (oracle : Settings) : Except Fault JdbcProfile := do
  let host ← writtenAt oracle "host"
  let port ← writtenAt oracle "port"
  let serviceName ← writtenAt oracle "service_name"
  let user ← writtenAt oracle "user"
  let password ← writtenAt oracle "password"
  return { host, port, serviceName, user, password }

/-- The arguments that the form carries. -/
def jdbcCall (tableName : Setting) (arguments : MergeArguments) (upcmpflg : Option Int)
    (connectTimeoutMs readTimeoutMs : Int) : Except Fault MergeCall := do
  let tableName ← written tableName
  let mkDate ← written arguments.mkDate
  let staNo1 ← written arguments.staNo1
  let staNo2 ← written arguments.staNo2
  let staNo3 ← written arguments.staNo3
  return { tableName, mkDate, staNo1, staNo2, staNo3, t1Status := arguments.t1Status, upcmpflg,
           connectTimeoutMs, readTimeoutMs }

/-- `f"{proxy_url.rstrip('/')}/merge"` -/
def mergeUrl (proxyUrl : String) : List Char :=
  (proxyUrl.toList.reverse.dropWhile (· = '/')).reverse ++ "/merge".toList

/-- `urllib.parse.unwrap` -/
def unwrap (url : List Char) : List Char :=
  let bare := strip url
  let inner :=
    if bare.head? = some '<' ∧ bare.getLast? = some '>' then strip (bare.drop 1).dropLast
    else bare
  if inner.take 4 = "URL:".toList then strip (inner.drop 4) else inner

/-- The URL without what stands after its last `#`. -/
def withoutFragment (url : List Char) : List Char :=
  if '#' ∈ url then ((url.reverse.dropWhile (· ≠ '#')).drop 1).reverse else url

/-- `urllib.request.Request` takes no URL without a scheme. -/
def hasScheme (url : List Char) : Bool :=
  let full := withoutFragment (unwrap url)
  let inScheme (char : Char) : Bool := char ≠ '/' ∧ char ≠ ':'
  full.takeWhile inScheme ≠ [] ∧ (full.dropWhile inScheme).head? = some ':'

def openRequest (proxyUrl : String) (profile : JdbcProfile) (call : MergeCall) :
    Except Fault Attempt :=
  match requestBody profile call with
  | none => .error .valueError
  | some body =>
      if hasScheme (mergeUrl proxyUrl) then .ok (.posted (mergeUrl proxyUrl) call body)
      else .error .valueError

/-- `execute_merge_via_jdbc`, up to the opening of the request. -/
def postMerge (proxyUrl : String) (connectTimeoutMs readTimeoutMs : Int) (oracle : Settings)
    (tableName : Setting) (arguments : MergeArguments) (upcmpflg : Option Int) :
    Except Fault Attempt := do
  let profile ← jdbcProfile oracle
  let call ← jdbcCall tableName arguments upcmpflg connectTimeoutMs readTimeoutMs
  openRequest proxyUrl profile call

/-- `build_merge_statement` -/
def buildMergeStatement (tableName : String) (includeUpcmpflg : Bool) : String :=
  let usingClause :=
    if includeUpcmpflg then
      "USING (SELECT :1 AS MK_DATE, :2 AS STA_NO1, :3 AS STA_NO2, " ++
        ":4 AS STA_NO3, :5 AS T1_STATUS, :6 AS UPCMPFLG FROM dual) s"
    else
      "USING (SELECT :1 AS MK_DATE, :2 AS STA_NO1, :3 AS STA_NO2, " ++
        ":4 AS STA_NO3, :5 AS T1_STATUS FROM dual) s"
  let insertCols :=
    if includeUpcmpflg then "INSERT (MK_DATE, STA_NO1, STA_NO2, STA_NO3, T1_STATUS, UPCMPFLG)"
    else "INSERT (MK_DATE, STA_NO1, STA_NO2, STA_NO3, T1_STATUS)"
  let insertVals :=
    if includeUpcmpflg then
      "VALUES (s.MK_DATE, s.STA_NO1, s.STA_NO2, s.STA_NO3, s.T1_STATUS, s.UPCMPFLG)"
    else "VALUES (s.MK_DATE, s.STA_NO1, s.STA_NO2, s.STA_NO3, s.T1_STATUS)"
  "MERGE INTO " ++ tableName ++ " t\n" ++ usingClause ++ "\n" ++
    "ON (t.MK_DATE = s.MK_DATE\n" ++
    "    AND t.STA_NO1 = s.STA_NO1\n" ++
    "    AND t.STA_NO2 = s.STA_NO2\n" ++
    "    AND t.STA_NO3 = s.STA_NO3\n" ++
    "    AND t.T1_STATUS = s.T1_STATUS)\n" ++
    "WHEN NOT MATCHED THEN\n" ++
    "  " ++ insertCols ++ "\n" ++
    "  " ++ insertVals

/-- What opening a connection comes to. -/
inductive Connecting where
  | connected
  | databaseError
  /-- Any other exception. -/
  | raised
  deriving DecidableEq

/-- What `open_connection` comes to with the settings of a profile. -/
abbrev Driver := Settings → Connecting

/-- `open_and_merge`, up to the execution of its statement. -/
def startMerge (driver : Driver) (oracle : Settings) (tableName : Setting)
    (arguments : MergeArguments) (upcmpflg : Option Int) : Except Fault Attempt :=
  match driver oracle with
  | .databaseError => .ok (.notConnected upcmpflg)
  | .raised => .error .driverError
  | .connected => do
      let tableName ← written tableName
      return .executed (buildMergeStatement tableName upcmpflg.isSome) arguments upcmpflg

def BackendCall.run (driver : Driver) (call : BackendCall) : Except Fault Attempt :=
  match call.backend with
  | .viaJdbc proxyUrl connectTimeoutMs readTimeoutMs =>
      postMerge proxyUrl connectTimeoutMs readTimeoutMs call.oracle call.tableName
        call.arguments call.upcmpflg
  | .openAndMerge => startMerge driver call.oracle call.tableName call.arguments call.upcmpflg

/-- `_OracleAdapter.execute_merge_for_profile`, up to its MERGE. -/
def executeMergeForProfile (driver : Driver) (adapter : OracleAdapter)
    (files : String → ReadOutcome) (oracle : Settings) (arguments : MergeArguments) :
    Except Fault Attempt := do
  let call ← adapter.backendCall files oracle arguments
  call.run driver

/-! ## Integer literals -/

/-- The sign of an integer literal, whether it is negative, and its digits. -/
def literal (text : List Char) : Option (Bool × List Nat) :=
  match stripBy isIntSpace text with
  | '-' :: digits => (literalDigits digits).map fun values => (true, values)
  | '+' :: digits => (literalDigits digits).map fun values => (false, values)
  | digits => (literalDigits digits).map fun values => (false, values)

/-- The integer that a literal stands for. -/
def literalValue (found : Bool × List Nat) : Int :=
  let magnitude : Nat := found.2.foldl (fun n digit => 10 * n + digit) 0
  if found.1 then -(magnitude : Int) else magnitude

theorem parseDigits_eq {sign : Int → Int} {negative : Bool}
    (same : ∀ n : Int, sign n = if negative then -n else n) (text : List Char) :
    Option.map sign (do let n ← parseDigits text; pure (n : Int)) =
      ((literalDigits text).map fun digits => (negative, digits)).bind fun found =>
        if found.2.length ≤ maxStrDigits then some (literalValue found) else none := by
  rw [parseDigits]
  cases literalDigits text with
  | none => rfl
  | some digits =>
      simp only [Option.bind_some, Option.map_some]
      split
      · exact congrArg some (same _)
      · rfl

/-- The literals that `int` reads are those the interpreter does not find too long. -/
theorem parseInt_eq (text : List Char) :
    parseInt text = (literal text).bind fun found =>
      if found.2.length ≤ maxStrDigits then some (literalValue found) else none := by
  rw [parseInt, literal]
  generalize stripBy isIntSpace text = body
  split
  next digits => exact @parseDigits_eq (fun n => -n) true (fun _ => rfl) digits
  next digits => exact @parseDigits_eq (fun n => n) false (fun _ => rfl) digits
  next noMinus noPlus =>
    have unsigned := @parseDigits_eq (fun n => n) false (fun _ => rfl) body
    -- the two may be one match, and then there is nothing left to split
    try split
    all_goals first
      | exact absurd rfl (noMinus _)
      | exact absurd rfl (noPlus _)
      | exact unsigned

/-! ## The flag that is meant -/

/-- The integer literal in the override file, where there is one. -/
def fileLiteral (adapter : OracleAdapter) (files : String → ReadOutcome) :
    Option (Bool × List Nat) := do
  let path ← adapter.upcmpflgOverridePath
  match files path with
  | .osError => none
  | .bytes content =>
      let text ← readStripped content
      literal text

/-- The profile's own flag. -/
def ownFlag (oracle : Settings) : Option Int :=
  match oracle.find "upcmpflg" with
  | some (.int flag) => some flag
  | _ => none

/-- The integer in the file and otherwise the profile's own flag. -/
def intendedFlag (adapter : OracleAdapter) (files : String → ReadOutcome) (oracle : Settings) :
    Option Int :=
  ((fileLiteral adapter files).map literalValue).or (ownFlag oracle)

/-- The MERGE is reached with the flag that is meant. -/
def ReachesMerge (driver : Driver) (adapter : OracleAdapter) (files : String → ReadOutcome)
    (oracle : Settings) (arguments : MergeArguments) : Prop :=
  ∃ attempt, executeMergeForProfile driver adapter files oracle arguments = .ok attempt ∧
    attempt.upcmpflg = intendedFlag adapter files oracle

/-- The settings that go into a request. -/
def jdbcKeys : List String := ["host", "port", "service_name", "user", "password"]

/-- Whatever a request to the sidecar is made of can be written out, and its URL names a
scheme. -/
structure Writable (adapter : OracleAdapter) (oracle : Settings) (arguments : MergeArguments)
    (flag : Option Int) : Prop where
  settings : ∀ key ∈ "table_name" :: jdbcKeys, ∀ value,
    oracle.find key = some value → value.text.isSome
  values : ∀ value ∈ [arguments.mkDate, arguments.staNo1, arguments.staNo2, arguments.staNo3],
    value.text.isSome
  integers : ∀ n ∈ arguments.t1Status :: adapter.jdbcConnectTimeoutMs ::
    adapter.jdbcReadTimeoutMs :: flag.toList, (strOfInt n).isSome
  scheme : hasScheme (mergeUrl adapter.jdbcProxyUrl) = true

/-- The driver raises nothing but its own error, and on a connection the name of the table
can be written out. -/
structure Connectable (driver : Driver) (oracle : Settings) : Prop where
  tame : driver oracle ≠ .raised
  statement : driver oracle = .connected → ∀ value,
    oracle.find "table_name" = some value → value.text.isSome

/-- The profile names its table, the override file is UTF-8, an integer literal in it is not
too long, unless it is the profile's own flag, and what the back end writes can be written. -/
structure Readable (driver : Driver) (adapter : OracleAdapter) (files : String → ReadOutcome)
    (oracle : Settings) (arguments : MergeArguments) : Prop where
  table : (oracle.find "table_name").isSome
  decodes : ∀ path content, adapter.upcmpflgOverridePath = some path →
    files path = .bytes content → (Utf8.decode content).isSome
  short : ∀ found, fileLiteral adapter files = some found →
    found.2.length ≤ maxStrDigits ∨ ownFlag oracle = some (literalValue found)
  viaJdbc : oracle.find "client_mode" = some (.str "jdbc") →
    Writable adapter oracle arguments (intendedFlag adapter files oracle)
  viaDriver : oracle.find "client_mode" ≠ some (.str "jdbc") → Connectable driver oracle

/-! ## Valid profiles -/

theorem bind_eq_ok {ε α β : Type} {first : Except ε α} {next : α → Except ε β} {result : β} :
    (first >>= next) = .ok result ↔ ∃ value, first = .ok value ∧ next value = .ok result := by
  cases first <;> simp [bind, Except.bind]

theorem exists_bind {ε α β : Type} {first : Except ε α} {next : α → Except ε β} :
    (∃ result, (first >>= next) = .ok result) ↔
      ∃ value, first = .ok value ∧ ∃ result, next value = .ok result := by
  cases first <;> simp [bind, Except.bind]

theorem checkUpcmpflg_of_valid {strRepr : String → String} {name : String} {oracle : Settings}
    (valid : validateOracleSection strRepr name oracle = .ok ()) :
    checkUpcmpflg strRepr name oracle = .ok () := by
  obtain ⟨_, -, valid⟩ := bind_eq_ok.mp valid
  obtain ⟨_, -, valid⟩ := bind_eq_ok.mp valid
  obtain ⟨_, -, valid⟩ := bind_eq_ok.mp valid
  exact valid

/-- A valid profile for the sidecar has what a request is made of. -/
theorem required_of_valid {strRepr : String → String} {name : String} {oracle : Settings}
    (valid : validateOracleSection strRepr name oracle = .ok ())
    (isJdbc : oracle.find "client_mode" = some (.str "jdbc")) :
    ∀ key ∈ jdbcKeys, (oracle.find key).isSome := by
  obtain ⟨_, -, valid⟩ := bind_eq_ok.mp valid
  obtain ⟨_, -, valid⟩ := bind_eq_ok.mp valid
  obtain ⟨_, complete, -⟩ := bind_eq_ok.mp valid
  intro key member
  rw [isJdbc, Option.getD_some, checkRequired] at complete
  by_cases basic : (oracle.find "auth_mode").getD .null = .str "basic"
  · have none_missing : basicRequired.filter (fun key => (oracle.find key).isNone) = [] := by
      by_contra missing
      simp [basic, missing, throw, throwThe, MonadExceptOf.throw] at complete
    have present := List.filter_eq_nil_iff.mp none_missing key (by
      simp only [jdbcKeys, List.mem_cons, List.not_mem_nil, or_false] at member
      simp only [basicRequired, List.mem_cons, List.not_mem_nil, or_false]
      tauto)
    exact Option.isSome_iff_ne_none.mpr (by simpa using present)
  · obtain ⟨_, -, raised⟩ : ∃ text, shown strRepr ((oracle.find "auth_mode").getD .null) =
        .ok text ∧ _ := by
      rw [if_pos ⟨rfl, basic⟩] at complete
      exact bind_eq_ok.mp complete
    cases raised

/-- The flag of a valid profile raises nothing. -/
theorem profileFlag_of_valid {strRepr : String → String} {name : String} {oracle : Settings}
    (valid : validateOracleSection strRepr name oracle = .ok ()) :
    profileFlag oracle = .ok (ownFlag oracle) := by
  have checked := checkUpcmpflg_of_valid valid
  rw [checkUpcmpflg] at checked
  rw [profileFlag, ownFlag]
  split at checked
  next absent => rw [absent]
  next flag isFlag => rw [isFlag]; rfl
  next =>
    obtain ⟨_, -, raised⟩ := bind_eq_ok.mp checked
    cases raised

theorem readUpcmpflgOverride_bytes {content : ByteArray} {text : List Char}
    (decoded : readStripped content = some text) :
    readUpcmpflgOverride (.bytes content) = .ok (parseInt text) := by
  rw [readUpcmpflgOverride, decoded]
  dsimp only
  split
  next nothing => rw [nothing]; rfl
  · rfl

/-- What the file says, where it can be decoded. -/
theorem readOverride_of_decodes {adapter : OracleAdapter} {files : String → ReadOutcome}
    (decodes : ∀ path content, adapter.upcmpflgOverridePath = some path →
      files path = .bytes content → (Utf8.decode content).isSome) :
    adapter.readOverride files = .ok ((fileLiteral adapter files).bind fun found =>
      if found.2.length ≤ maxStrDigits then some (literalValue found) else none) := by
  rw [OracleAdapter.readOverride, fileLiteral]
  cases isPath : adapter.upcmpflgOverridePath with
  | none => rfl
  | some path =>
      cases isFile : files path with
      | osError => simp [isFile, readUpcmpflgOverride]
      | bytes content =>
          obtain ⟨text, decoded⟩ := Option.isSome_iff_exists.mp (decodes path content isPath isFile)
          have stripped : readStripped content = some (strip (universalNewlines text)) := by
            rw [readStripped, decoded, Option.map_some]
          simp [isFile, readUpcmpflgOverride_bytes stripped, stripped, parseInt_eq]

/-- Content that is no UTF-8 raises. -/
theorem readOverride_of_undecodable {adapter : OracleAdapter} {files : String → ReadOutcome}
    {path : String} {content : ByteArray} (isPath : adapter.upcmpflgOverridePath = some path)
    (isFile : files path = .bytes content) (undecodable : (Utf8.decode content).isSome = false) :
    adapter.readOverride files = .error .unicodeDecodeError := by
  rw [Option.isSome_eq_false_iff, Option.isNone_iff_eq_none] at undecodable
  rw [OracleAdapter.readOverride, isPath]
  simp [isFile, readUpcmpflgOverride, readStripped, undecodable]

/-- What the adapter calls with a file that can be decoded. -/
theorem backendCall_of_decodes {strRepr : String → String} {name : String}
    {oracle : Settings} (valid : validateOracleSection strRepr name oracle = .ok ())
    {adapter : OracleAdapter} {files : String → ReadOutcome}
    (decodes : ∀ path content, adapter.upcmpflgOverridePath = some path →
      files path = .bytes content → (Utf8.decode content).isSome) (arguments : MergeArguments) :
    adapter.backendCall files oracle arguments =
      match oracle.find "table_name" with
      | none => .error (.keyError "table_name")
      | some tableName => .ok
          { backend :=
              if oracle.find "client_mode" = some (.str "jdbc") then
                .viaJdbc adapter.jdbcProxyUrl adapter.jdbcConnectTimeoutMs
                  adapter.jdbcReadTimeoutMs
              else .openAndMerge
            oracle, tableName, arguments
            upcmpflg := ((fileLiteral adapter files).bind fun found =>
              if found.2.length ≤ maxStrDigits then some (literalValue found) else none).or
                (ownFlag oracle) } := by
  rw [OracleAdapter.backendCall, readOverride_of_decodes decodes]
  cases (fileLiteral adapter files).bind fun found =>
      if found.2.length ≤ maxStrDigits then some (literalValue found) else none with
  | none => simp only [profileFlag_of_valid valid, bind, Except.bind, Option.none_or]
  | some flag => rfl

/-- A literal that is too long is missed unless the profile says the same. -/
theorem flag_eq_iff {adapter : OracleAdapter} {files : String → ReadOutcome}
    {oracle : Settings} :
    ((fileLiteral adapter files).bind fun found =>
        if found.2.length ≤ maxStrDigits then some (literalValue found) else none).or
          (ownFlag oracle) = intendedFlag adapter files oracle ↔
      ∀ found, fileLiteral adapter files = some found →
        found.2.length ≤ maxStrDigits ∨ ownFlag oracle = some (literalValue found) := by
  rw [intendedFlag]
  cases fileLiteral adapter files with
  | none => simp
  | some found =>
      by_cases short : found.2.length ≤ maxStrDigits
      · simp [short]
      · simp [short]

/-! ## The back ends -/

theorem written_eq_ok {value : Setting} {text : String} :
    written value = .ok text ↔ value.text = some text := by
  rw [written]
  cases value.text <;> simp

theorem writtenAt_eq_ok {oracle : Settings} {key text : String} :
    writtenAt oracle key = .ok text ↔
      ∃ value, oracle.find key = some value ∧ value.text = some text := by
  rw [writtenAt]
  cases oracle.find key <;> simp [written_eq_ok]

/-- The profile of a request is made exactly if its settings can be written. -/
theorem exists_jdbcProfile_iff {oracle : Settings} :
    (∃ profile, jdbcProfile oracle = .ok profile) ↔
      ∀ key ∈ jdbcKeys, ∃ text, writtenAt oracle key = .ok text := by
  have ends (profile : JdbcProfile) :
      ∃ result, (pure profile : Except Fault JdbcProfile) = .ok result := ⟨_, rfl⟩
  simp only [jdbcProfile, exists_bind, ends, and_true, exists_and_right, jdbcKeys,
    List.forall_mem_cons, List.not_mem_nil, false_imp_iff, implies_true]

/-- So is the call. -/
theorem exists_jdbcCall_iff {tableName : Setting} {arguments : MergeArguments}
    {upcmpflg : Option Int} {connectTimeoutMs readTimeoutMs : Int} :
    (∃ call, jdbcCall tableName arguments upcmpflg connectTimeoutMs readTimeoutMs = .ok call) ↔
      ∀ value ∈ [tableName, arguments.mkDate, arguments.staNo1, arguments.staNo2,
        arguments.staNo3], value.text.isSome := by
  have ends (call : MergeCall) :
      ∃ result, (pure call : Except Fault MergeCall) = .ok result := ⟨_, rfl⟩
  simp only [jdbcCall, exists_bind, ends, and_true, exists_and_right, written_eq_ok,
    List.forall_mem_cons, List.not_mem_nil, false_imp_iff, implies_true,
    Option.isSome_iff_exists]

/-- The integers of a call are those it was made with. -/
theorem integers_jdbcCall {tableName : Setting} {arguments : MergeArguments}
    {upcmpflg : Option Int} {connectTimeoutMs readTimeoutMs : Int} {call : MergeCall}
    (made : jdbcCall tableName arguments upcmpflg connectTimeoutMs readTimeoutMs = .ok call) :
    call.t1Status = arguments.t1Status ∧ call.upcmpflg = upcmpflg ∧
      call.connectTimeoutMs = connectTimeoutMs ∧ call.readTimeoutMs = readTimeoutMs := by
  obtain ⟨_, -, made⟩ := bind_eq_ok.mp made
  obtain ⟨_, -, made⟩ := bind_eq_ok.mp made
  obtain ⟨_, -, made⟩ := bind_eq_ok.mp made
  obtain ⟨_, -, made⟩ := bind_eq_ok.mp made
  obtain ⟨_, -, made⟩ := bind_eq_ok.mp made
  cases made
  exact ⟨rfl, rfl, rfl, rfl⟩

/-- There is a body exactly if the integers of the call can be written. -/
theorem isSome_requestBody_iff {profile : JdbcProfile} {call : MergeCall} :
    (requestBody profile call).isSome ↔ ∀ n ∈ call.t1Status :: call.connectTimeoutMs ::
      call.readTimeoutMs :: call.upcmpflg.toList, (strOfInt n).isSome := by
  rw [requestBody, Option.isSome_map, integerTexts]
  cases call.upcmpflg <;>
    simp [Option.isSome_iff_exists, Option.bind_eq_some_iff]

theorem openRequest_eq_ok {proxyUrl : String} {profile : JdbcProfile} {call : MergeCall}
    {attempt : Attempt} :
    openRequest proxyUrl profile call = .ok attempt ↔
      ∃ body, requestBody profile call = some body ∧ hasScheme (mergeUrl proxyUrl) = true ∧
        .posted (mergeUrl proxyUrl) call body = attempt := by
  rw [openRequest]
  cases requestBody profile call with
  | none => simp
  | some body => by_cases scheme : hasScheme (mergeUrl proxyUrl) <;> simp [scheme]

/-- The request is opened exactly if everything in it can be written. -/
theorem exists_postMerge_iff {strRepr : String → String} {name : String} {oracle : Settings}
    (valid : validateOracleSection strRepr name oracle = .ok ())
    (isJdbc : oracle.find "client_mode" = some (.str "jdbc")) {tableName : Setting}
    (isTable : oracle.find "table_name" = some tableName) {adapter : OracleAdapter}
    {arguments : MergeArguments} {flag : Option Int} :
    (∃ attempt, postMerge adapter.jdbcProxyUrl adapter.jdbcConnectTimeoutMs
        adapter.jdbcReadTimeoutMs oracle tableName arguments flag = .ok attempt) ↔
      Writable adapter oracle arguments flag := by
  constructor
  · rintro ⟨attempt, reached⟩
    obtain ⟨profile, isProfile, reached⟩ := bind_eq_ok.mp reached
    obtain ⟨call, isCall, reached⟩ := bind_eq_ok.mp reached
    obtain ⟨body, isBody, scheme, -⟩ := openRequest_eq_ok.mp reached
    obtain ⟨named, values⟩ := List.forall_mem_cons.mp (exists_jdbcCall_iff.mp ⟨call, isCall⟩)
    have keys := exists_jdbcProfile_iff.mp ⟨profile, isProfile⟩
    have integers := isSome_requestBody_iff.mp (Option.isSome_of_eq_some isBody)
    obtain ⟨sameStatus, sameFlag, sameConnect, sameRead⟩ := integers_jdbcCall isCall
    rw [sameStatus, sameFlag, sameConnect, sameRead] at integers
    refine ⟨List.forall_mem_cons.mpr ⟨fun value isValue => ?_, fun key member value isValue => ?_⟩,
      values, integers, scheme⟩
    · cases isTable.symm.trans isValue
      exact named
    · obtain ⟨text, isText⟩ := keys key member
      obtain ⟨_, isOther, isText⟩ := writtenAt_eq_ok.mp isText
      cases isOther.symm.trans isValue
      exact Option.isSome_of_eq_some isText
  · intro writable
    obtain ⟨named, keys⟩ := List.forall_mem_cons.mp writable.settings
    obtain ⟨profile, isProfile⟩ := exists_jdbcProfile_iff.mpr fun key member => by
      obtain ⟨value, isValue⟩ :=
        Option.isSome_iff_exists.mp (required_of_valid valid isJdbc key member)
      obtain ⟨text, isText⟩ := Option.isSome_iff_exists.mp (keys key member value isValue)
      exact ⟨text, writtenAt_eq_ok.mpr ⟨value, isValue, isText⟩⟩
    obtain ⟨call, isCall⟩ : ∃ call, jdbcCall tableName arguments flag
        adapter.jdbcConnectTimeoutMs adapter.jdbcReadTimeoutMs = .ok call :=
      exists_jdbcCall_iff.mpr
        (List.forall_mem_cons.mpr ⟨named tableName isTable, writable.values⟩)
    have integers := writable.integers
    obtain ⟨sameStatus, sameFlag, sameConnect, sameRead⟩ := integers_jdbcCall isCall
    rw [← sameStatus, ← sameFlag, ← sameConnect, ← sameRead] at integers
    obtain ⟨body, isBody⟩ :=
      Option.isSome_iff_exists.mp (isSome_requestBody_iff.mpr integers)
    exact ⟨_, bind_eq_ok.mpr ⟨profile, isProfile, bind_eq_ok.mpr ⟨call, isCall,
      openRequest_eq_ok.mpr ⟨body, isBody, writable.scheme, rfl⟩⟩⟩⟩

/-- The statement is executed, or the driver refuses, exactly if nothing else raises. -/
theorem exists_startMerge_iff {driver : Driver} {oracle : Settings} {tableName : Setting}
    (isTable : oracle.find "table_name" = some tableName) {arguments : MergeArguments}
    {flag : Option Int} :
    (∃ attempt, startMerge driver oracle tableName arguments flag = .ok attempt) ↔
      Connectable driver oracle := by
  have named : (∀ value, oracle.find "table_name" = some value → value.text.isSome) ↔
      tableName.text.isSome := by simp [isTable]
  have both : Connectable driver oracle ↔ driver oracle ≠ .raised ∧
      (driver oracle = .connected → tableName.text.isSome) := by
    rw [← named]
    exact ⟨fun can => ⟨can.tame, can.statement⟩, fun can => ⟨can.1, can.2⟩⟩
  rw [startMerge, both]
  cases driver oracle with
  | connected =>
      have ends (attempt : Attempt) :
          ∃ result, (pure attempt : Except Fault Attempt) = .ok result := ⟨_, rfl⟩
      simp only [exists_bind, ends, and_true, written_eq_ok, Option.isSome_iff_exists, ne_eq,
        reduceCtorEq, not_false_eq_true, true_and, forall_const]
  | databaseError => simp
  | raised => simp

/-- What is reached has the flag it was called with. -/
theorem upcmpflg_run {driver : Driver} {call : BackendCall} {attempt : Attempt}
    (reached : call.run driver = .ok attempt) : attempt.upcmpflg = call.upcmpflg := by
  rw [BackendCall.run] at reached
  cases isBackend : call.backend with
  | viaJdbc proxyUrl connectTimeoutMs readTimeoutMs =>
      simp only [isBackend] at reached
      obtain ⟨profile, -, reached⟩ := bind_eq_ok.mp reached
      obtain ⟨request, made, reached⟩ := bind_eq_ok.mp reached
      obtain ⟨body, -, -, isAttempt⟩ := openRequest_eq_ok.mp reached
      rw [← isAttempt]
      exact (integers_jdbcCall made).2.1
  | openAndMerge =>
      simp only [isBackend, startMerge] at reached
      split at reached
      · cases reached
        rfl
      · cases reached
      · obtain ⟨_, -, reached⟩ := bind_eq_ok.mp reached
        cases reached
        rfl

/-- The back end that is called reaches the MERGE under its own conditions. -/
theorem exists_run_iff {strRepr : String → String} {name : String} {oracle : Settings}
    (valid : validateOracleSection strRepr name oracle = .ok ()) {tableName : Setting}
    (isTable : oracle.find "table_name" = some tableName) {driver : Driver}
    {adapter : OracleAdapter} {arguments : MergeArguments} {flag : Option Int} :
    (∃ attempt, BackendCall.run driver
        { backend :=
            if oracle.find "client_mode" = some (.str "jdbc") then
              .viaJdbc adapter.jdbcProxyUrl adapter.jdbcConnectTimeoutMs
                adapter.jdbcReadTimeoutMs
            else .openAndMerge
          oracle, tableName, arguments, upcmpflg := flag } = .ok attempt) ↔
      (oracle.find "client_mode" = some (.str "jdbc") → Writable adapter oracle arguments flag) ∧
        (oracle.find "client_mode" ≠ some (.str "jdbc") → Connectable driver oracle) := by
  by_cases isJdbc : oracle.find "client_mode" = some (.str "jdbc")
  · simp only [BackendCall.run, isJdbc, forall_const, ne_eq, not_true,
      false_imp_iff, and_true]
    exact exists_postMerge_iff valid isJdbc isTable
  · simp only [BackendCall.run, isJdbc, forall_const, ne_eq, not_false_iff,
      false_imp_iff, true_and]
    exact exists_startMerge_iff isTable

/-- A profile that passes the validation. -/
def jdbcOracle : Settings :=
  Dict.ofPairs [("client_mode", .str "jdbc"), ("auth_mode", .str "basic"), ("host", .str "db"),
    ("port", .int 1521), ("service_name", .str "HHC001"), ("user", .str "ZHH001"),
    ("password", .str "secret"), ("table_name", .str "HF1RCM01"), ("upcmpflg", .int 0)]

def overrideAdapter : OracleAdapter :=
  ⟨"http://127.0.0.1:8086", 10000, 30000, some "/etc/presence-logger/upcmpflg.override"⟩

theorem jdbcOracle_valid (strRepr : String → String) :
    validateOracleSection strRepr "factory" jdbcOracle = .ok () := rfl

/-- A driver that connects. -/
def connects : Driver := fun _ => .connected

def oneMerge : MergeArguments :=
  ⟨.str "20260101000000", .str "001", .str "002", .str "003", 1⟩

end PresenceLogger.Bridge.Override
