import PresenceLogger.Child.CsvLine
import PresenceLogger.Child.SendLogger
import PresenceLogger.Library.TextFile

/-!
# Rows of the send log as lines

`csv.writer` quotes the fields of a row and both readers of its lines split at every
comma, so a row comes back as it was logged only where no field needs quotes and the
code is an integer.
-/

namespace PresenceLogger.Child

open Library

/-! ## What is written -/

/-- The text `csv.writer` makes of a code; there is none for an integer beyond the
interpreter's limit or for lone surrogates. -/
def codeText (render : Json → Option String) : Json → Option (List Char)
  | .null => some []
  | .int code => Text.strOfInt code
  | code => (code.pyStr render).map String.toList

/-- A row in the file. A row that has no text makes the append fail. -/
def SendRow.text (render : Json → Option String) (row : SendRow) : Option (List Char) :=
  match row.parts, codeText render row.code with
  | [some name1, some name2, some name3], some code =>
      some (Text.csvRow
        [row.mkDate.toList, name1.toList, name2.toList, name3.toList, code])
  | _, _ => none

def fileText (render : Json → Option String) : List SendRow → Option (List Char)
  | [] => some []
  | row :: rows => do
      let text ← row.text render
      let later ← fileText render rows
      return text ++ later

/-- Fourteen digits, as `time.strftime('%Y%m%d%H%M%S')` gives them. -/
def Stamp (text : String) : Prop :=
  text.toList.length = 14 ∧ ∀ char ∈ text.toList, char.isDigit = true

instance (text : String) : Decidable (Stamp text) :=
  @instDecidableAnd _ _ inferInstance (List.decidableBAll _ text.toList)

/-- A row with a time and the parts of some configured value. -/
structure Made (env : SendEnv) (row : SendRow) : Prop where
  stamp : Stamp row.mkDate
  parts : ∃ value, row.parts = idNameParts env.render value

def AllMade (env : SendEnv) (log : SendLog) : Prop :=
  ∀ file, ∀ row ∈ log.files file, Made env row

/-! ## What is read -/

/-- The readers see the row as one line among those of the other rows, and find its
time, its names and its code there; `deliver_file` strips the line before. -/
def RoundTrips (reader : LineReader) (row : SendRow) (before text after : List Char) : Prop :=
  ∃ line rec,
    Text.completeLines (before ++ (text ++ after)) =
      Text.completeLines before ++ line :: Text.completeLines after ∧
    reader.parseLine line = some rec ∧ reader.parseLine (Text.strip line) = some rec ∧
    rec.mkDate = row.mkDate ∧
    row.parts = [some rec.staNo1, some rec.staNo2, some rec.staNo3] ∧
    row.code = .int rec.t1Status

/-- The code is an integer, and no name has a comma, a quote or a line end in it. -/
def SendRow.Plain (row : SendRow) : Prop :=
  (∃ code, row.code = .int code) ∧
    ∀ name, some name ∈ row.parts →
      ',' ∉ name.toList ∧ '"' ∉ name.toList ∧ '\r' ∉ name.toList ∧ '\n' ∉ name.toList

namespace LineReader

variable {reader : LineReader}

/-- What is read has no separator in it. -/
theorem names_of_parseLine {line : List Char} {rec : Record}
    (parsed : reader.parseLine line = some rec) :
    ∀ name ∈ [rec.staNo1, rec.staNo2, rec.staNo3], ∀ char ∈ name.toList,
      char ∈ line ∧ char ≠ ',' := by
  have ofPart {field : List Char} (among : field ∈ parts line) :
      ∀ char ∈ field, char ∈ line ∧ char ≠ ',' := by
    rcases List.mem_map.mp among with ⟨piece, isPiece, rfl⟩
    intro char member
    have inPiece := Text.mem_of_mem_stripBy member
    have inLine := Text.mem_of_mem_splitOn isPiece char inPiece
    exact ⟨Text.mem_of_mem_stripBy inLine.1, inLine.2⟩
  rw [parseLine] at parsed
  split at parsed
  next mkDate staNo1 staNo2 staNo3 t1Status isParts =>
    rw [isParts] at ofPart
    split at parsed
    · cases parsed
    · split at parsed
      · cases parsed
      · rcases Option.map_eq_some_iff.mp parsed with ⟨code, -, rfl⟩
        intro name among char member
        have named {field : List Char} (isPart : field ∈ [mkDate, staNo1, staNo2, staNo3, t1Status])
            (inName : char ∈ (String.ofList field).toList) : char ∈ line ∧ char ≠ ',' :=
          ofPart isPart char (by rwa [String.toList_ofList] at inName)
        simp only [record, List.mem_cons, List.not_mem_nil, or_false] at among
        rcases among with rfl | rfl | rfl
        · exact named (by simp) member
        · exact named (by simp) member
        · exact named (by simp) member
  · cases parsed

theorem matchesDigits_of_stamp {text : String} (stamp : Stamp text) :
    Text.matchesDigits 14 text.toList = true := by
  have all : text.toList.take 14 = text.toList := List.take_of_length_le stamp.1.le
  have rest : text.toList.drop 14 = [] := List.drop_of_length_le stamp.1.le
  have digits : text.toList.all (fun char => (Text.decimalValue char).isSome) = true := by
    rw [List.all_eq_true]
    intro char member
    rw [Text.decimalValue_of_isDigit (stamp.2 char member)]
    rfl
  simp only [Text.matchesDigits, all, rest, stamp.1, digits, decide_true, Bool.and_true,
    Bool.true_or]

/-- A line between two ends without white space. -/
theorem trimmed_between {first last : List Char} (middle : List Char)
    (firstTrimmed : Text.Trimmed Text.isSpace first) (firstSome : first ≠ [])
    (lastTrimmed : Text.Trimmed Text.isSpace last) (lastSome : last ≠ []) :
    Text.Trimmed Text.isSpace (first ++ (middle ++ last)) := by
  constructor
  · intro char isFirst
    rw [List.head?_append_of_ne_nil _ firstSome] at isFirst
    exact firstTrimmed.1 char isFirst
  · intro char isLast
    rw [← List.append_assoc, List.getLast?_append_of_ne_nil _ lastSome] at isLast
    exact lastTrimmed.2 char isLast

/-- A row whose fields have no comma is read field by field. -/
theorem parseLine_row {mkDate name1 name2 name3 : String} {code : Int} {digits : List Char}
    (stamp : Stamp mkDate) (isCode : Text.strOfInt code = some digits)
    (trimmed : ∀ name ∈ [name1, name2, name3], Text.Trimmed Text.isSpace name.toList)
    (plain : ∀ name ∈ [name1, name2, name3], ',' ∉ name.toList) :
    reader.parseLine ([','].intercalate
        ([mkDate.toList, name1.toList, name2.toList, name3.toList, digits].map Text.csvField)) =
      some (reader.record mkDate (.ofList (Text.csvField name1.toList))
        (.ofList (Text.csvField name2.toList)) (.ofList (Text.csvField name3.toList)) code) := by
  have isDigits : digits = Text.ofInt code := Text.eq_ofInt_of_strOfInt isCode
  have stampSome : mkDate.toList ≠ [] := by
    intro empty
    have length := stamp.1
    rw [empty] at length
    cases length
  have stampTrimmed := Text.trimmed_of_forall fun char member =>
    Text.isSpace_of_isDigit (stamp.2 char member)
  have codeTrimmed : Text.Trimmed Text.isSpace digits :=
    Text.trimmed_of_forall fun char member => Text.isSpace_of_mem_ofInt (isDigits ▸ member)
  have stampField : Text.csvField mkDate.toList = mkDate.toList :=
    Text.csvField_of_digits fun char member => .inr (stamp.2 char member)
  have codeField : Text.csvField digits = digits :=
    Text.csvField_of_digits fun char member => Text.isDigit_of_mem_ofInt (isDigits ▸ member)
  have fields : parts ([','].intercalate
        ([mkDate.toList, name1.toList, name2.toList, name3.toList, digits].map Text.csvField)) =
      [mkDate.toList, Text.csvField name1.toList, Text.csvField name2.toList,
        Text.csvField name3.toList, digits] := by
    have lineTrimmed : Text.Trimmed Text.isSpace ([','].intercalate
        ([mkDate.toList, name1.toList, name2.toList, name3.toList, digits].map Text.csvField)) := by
      have between := trimmed_between
        (',' :: (Text.csvField name1.toList ++ ',' :: (Text.csvField name2.toList ++
          ',' :: (Text.csvField name3.toList ++ [','])))) stampTrimmed stampSome codeTrimmed
        (isDigits ▸ Text.ofInt_ne_nil code)
      simpa [List.intercalate_cons_cons, stampField, codeField] using between
    have noComma : ∀ field ∈ [mkDate.toList, name1.toList, name2.toList, name3.toList, digits],
        ',' ∉ field := by
      simp only [List.forall_mem_cons, List.not_mem_nil, false_imp_iff, implies_true, and_true]
      refine ⟨fun comma => absurd (stamp.2 _ comma) (by decide), plain name1 (by simp),
        plain name2 (by simp), plain name3 (by simp), fun comma => ?_⟩
      rcases Text.isDigit_of_mem_ofInt (isDigits ▸ comma) with sign | digit
      · exact absurd sign (by decide)
      · exact absurd digit (by decide)
    rw [parts, Text.strip, lineTrimmed.stripBy_eq,
      Text.splitOn_fields (List.cons_ne_nil _ _) noComma]
    have nameStrip {name : String} (among : name ∈ [name1, name2, name3]) :
        Text.strip (Text.csvField name.toList) = Text.csvField name.toList :=
      (Text.trimmed_csvField (trimmed name among)).stripBy_eq
    have stampStrip : Text.strip mkDate.toList = mkDate.toList := stampTrimmed.stripBy_eq
    have codeStrip : Text.strip digits = digits := codeTrimmed.stripBy_eq
    simp only [List.map_cons, List.map_nil, stampField, codeField, stampStrip, codeStrip,
      nameStrip (.head _), nameStrip (.tail _ (.head _)), nameStrip (.tail _ (.tail _ (.head _)))]
  rw [parseLine, fields]
  dsimp only
  rw [if_neg stampSome, if_neg (by rw [matchesDigits_of_stamp stamp]; decide),
    Text.parseInt_strOfInt isCode, Option.map_some, String.ofList_toList]

end LineReader

/-! ## Rows of any run -/

theorem trimmed_namePart {render : Json → Option String} {item : Json} {name : String}
    (isPart : namePart render item = some name) : Text.Trimmed Text.isSpace name.toList := by
  rw [namePart.eq_def] at isPart
  split at isPart
  · cases isPart
    exact Text.trimmed_of_forall fun _ member => nomatch member
  · rcases Option.map_eq_some_iff.mp isPart with ⟨text, -, rfl⟩
    rw [String.toList_ofList]
    exact Text.trimmed_stripBy _

theorem trimmed_idNameParts {render : Json → Option String} {value : Json} {name : String}
    (among : some name ∈ idNameParts render value) : Text.Trimmed Text.isSpace name.toList := by
  rcases of_mem_idNameParts among with ⟨item, -, isPart⟩ | rfl
  · exact trimmed_namePart isPart
  · exact Text.trimmed_of_forall fun _ member => nomatch member

theorem complete_append {left right : List Char} (leftComplete : Text.Complete left)
    (rightComplete : Text.Complete right) : Text.Complete (left ++ right) := by
  rcases rightComplete with rfl | ⟨front, rfl⟩
  · rwa [List.append_nil]
  · exact .inr ⟨left ++ front, (List.append_assoc ..).symm⟩

theorem complete_text {render : Json → Option String} {row : SendRow} {text : List Char}
    (isText : row.text render = some text) : Text.Complete text := by
  rw [SendRow.text] at isText
  split at isText
  · cases isText
    exact Text.complete_csvRow _
  · cases isText

theorem complete_fileText {render : Json → Option String} {rows : List SendRow}
    {text : List Char} (isText : fileText render rows = some text) : Text.Complete text := by
  induction rows generalizing text with
  | nil =>
      cases isText
      exact .inl rfl
  | cons row rows ih =>
      rcases Option.bind_eq_some_iff.mp isText with ⟨first, isFirst, rest⟩
      rcases Option.bind_eq_some_iff.mp rest with ⟨later, isLater, isAll⟩
      cases isAll
      exact complete_append (complete_text isFirst) (ih isLater)

theorem made_collect {env : SendEnv} {call : SendCall} {logger : SendLogger}
    (stamp : Stamp (env.timestamp call.now))
    {regions : Table NamedRegion NamedRegion.regionId}
    (named : namedRegions env.render logger.idNames = .ok regions) :
    ∀ row ∈ (collect env (logger.codeOf call) (env.timestamp call.now) logger.prevCodes
      regions.rows).rows, Made env row := by
  intro row member
  rcases region_of_mem_collect member with ⟨isStamp, region, among, -, isParts⟩
  cases isNames : logger.idNames with
  | obj fields =>
      rw [isNames] at named
      rcases namedBy_of_namedRegions named region among with ⟨key, -, -, ofKey, -⟩
      exact ⟨isStamp ▸ stamp, _, isParts.trans ofKey⟩
  | _ =>
      rw [isNames] at named
      cases named

theorem allMade_append {env : SendEnv} {log : SendLog} {rows : List SendRow} {fails : Bool}
    (made : AllMade env log) (new : ∀ row ∈ rows, Made env row) :
    AllMade env (log.append fails rows).1 := by
  rw [SendLog.append]
  split
  · exact made
  · split
    · exact made
    · split
      · exact made
      next day isDay =>
        intro file row member
        dsimp only at member
        rw [Function.update_apply] at member
        split at member
        · rcases List.mem_append.mp member with before | appended
          · exact made _ row before
          · exact new row appended
        · exact made file row member

theorem allMade_update {env : SendEnv} {log : SendLog} {call : SendCall}
    (made : AllMade env log) (stamp : Stamp (env.timestamp call.now)) :
    AllMade env (log.update env call).1 := by
  rw [SendLog.update]
  split
  · exact made
  next regions named =>
    dsimp only
    split
    · exact made
    · exact allMade_append made (made_collect stamp named)

theorem allMade_run {env : SendEnv} {start : SendLog} {calls : List SendCall}
    (made : AllMade env start) (stamps : ∀ call ∈ calls, Stamp (env.timestamp call.now)) :
    AllMade env ((sendMachine env).final start calls) := by
  have meets : (sendMachine env).Meets (fun _ call => Stamp (env.timestamp call.now)) start calls :=
    Machine.Meets.of_forall fun call member _ => stamps call member
  exact @Machine.stateInvariant _ _ _ _ _ (AllMade env)
    (fun _ _ kept stamp => allMade_update kept stamp) _ _ made meets

theorem parts_of_text {render : Json → Option String} {row : SendRow} {text : List Char}
    (isText : row.text render = some text) :
    ∃ name1 name2 name3, row.parts = [some name1, some name2, some name3] := by
  rw [SendRow.text] at isText
  split at isText
  next parts _ => exact ⟨_, _, _, parts⟩
  · cases isText

/-- A name that is read as it was written needed no quotes. -/
theorem plain_of_written {name : String} (written : name = .ofList (Text.csvField name.toList)) :
    ',' ∉ name.toList ∧ '"' ∉ name.toList ∧ '\r' ∉ name.toList ∧ '\n' ∉ name.toList := by
  have same := congrArg String.toList written
  rw [String.toList_ofList] at same
  exact Text.csvField_eq_self_iff.mp same.symm

/-- A row with an integer code and names without separators is one line, which is read
field by field. -/
theorem exists_line {env : SendEnv} (reader : LineReader) {row : SendRow} (made : Made env row)
    {name1 name2 name3 : String} (parts : row.parts = [some name1, some name2, some name3])
    {code : Int} (isCode : row.code = .int code) {text : List Char}
    (isText : row.text env.render = some text)
    (plain : ∀ name ∈ [name1, name2, name3],
      ',' ∉ name.toList ∧ '\r' ∉ name.toList ∧ '\n' ∉ name.toList) :
    ∃ line, Text.completeLines text = [line] ∧
      reader.parseLine line =
        some (reader.record row.mkDate (.ofList (Text.csvField name1.toList))
          (.ofList (Text.csvField name2.toList)) (.ofList (Text.csvField name3.toList)) code) := by
  have trimmed : ∀ name ∈ [name1, name2, name3], Text.Trimmed Text.isSpace name.toList := by
    rcases made.parts with ⟨value, isValue⟩
    intro name among
    have isPart : some name ∈ idNameParts env.render value := by
      rw [← isValue, parts]
      exact List.mem_map_of_mem (f := some) among
    exact trimmed_idNameParts isPart
  rw [SendRow.text, parts, isCode, codeText] at isText
  cases isDigits : Text.strOfInt code with
  | none =>
      rw [isDigits] at isText
      cases isText
  | some digits =>
      rw [isDigits] at isText
      cases isText
      refine ⟨_, Text.completeLines_csvRow ?_, reader.parseLine_row made.stamp isDigits trimmed
        fun name among => (plain name among).1⟩
      have isCodeText : digits = Text.ofInt code := Text.eq_ofInt_of_strOfInt isDigits
      simp only [List.forall_mem_cons, List.not_mem_nil, false_imp_iff, implies_true, and_true]
      refine ⟨?_, (plain name1 (by simp)).2, (plain name2 (by simp)).2,
        (plain name3 (by simp)).2, ?_⟩
      · exact ⟨fun back => absurd (made.stamp.2 _ back) (by decide),
          fun feed => absurd (made.stamp.2 _ feed) (by decide)⟩
      · rw [isCodeText]
        exact ⟨fun back => absurd (Text.isDigit_of_mem_ofInt back) (by decide),
          fun feed => absurd (Text.isDigit_of_mem_ofInt feed) (by decide)⟩

/-- A row of a run comes back as it was logged, whatever follows it, exactly when it is
plain. -/
theorem roundTrips_iff {env : SendEnv} (reader : LineReader) {start : SendLog}
    {calls : List SendCall} (made : AllMade env start)
    (stamps : ∀ call ∈ calls, Stamp (env.timestamp call.now)) {file : String}
    {earlier later : List SendRow} {row : SendRow}
    (logged : ((sendMachine env).final start calls).files file = earlier ++ row :: later)
    {before text : List Char} (isBefore : fileText env.render earlier = some before)
    (isText : row.text env.render = some text) (after : List Char) :
    RoundTrips reader row before text after ↔ row.Plain := by
  have isMade : Made env row := allMade_run made stamps file row (by rw [logged]; simp)
  have lines : Text.completeLines (before ++ (text ++ after)) =
      Text.completeLines before ++ (Text.completeLines text ++ Text.completeLines after) := by
    rw [Text.completeLines_append (complete_fileText isBefore),
      Text.completeLines_append (complete_text isText)]
  constructor
  · rintro ⟨line, rec, seen, parsed, -, -, parts, isCode⟩
    rw [lines] at seen
    have alone : Text.completeLines text = [line] :=
      List.append_cancel_right
        ((List.append_cancel_left seen).trans (List.singleton_append ..).symm)
    have isLine : line ∈ Text.completeLines text := alone ▸ List.mem_singleton_self line
    have ends := Text.plain_of_mem_completeLines isLine
    have chars := LineReader.names_of_parseLine parsed
    rcases exists_line reader isMade parts isCode isText fun name among =>
      ⟨fun comma => (chars name among _ comma).2 rfl,
        fun back => ends.2 (chars name among _ back).1,
        fun feed => ends.1 (chars name among _ feed).1⟩ with ⟨other, isOther, read⟩
    cases List.singleton_inj.mp (alone.symm.trans isOther)
    have same := Option.some.inj (parsed.symm.trans read)
    refine ⟨⟨rec.t1Status, isCode⟩, fun name among => ?_⟩
    rw [parts] at among
    simp only [List.mem_cons, Option.some.injEq, List.not_mem_nil, or_false] at among
    rcases among with rfl | rfl | rfl
    · exact plain_of_written (congrArg Record.staNo1 same)
    · exact plain_of_written (congrArg Record.staNo2 same)
    · exact plain_of_written (congrArg Record.staNo3 same)
  · rintro ⟨⟨code, isCode⟩, plain⟩
    rcases parts_of_text isText with ⟨name1, name2, name3, parts⟩
    have plainName {name : String} (among : name ∈ [name1, name2, name3]) :=
      plain name (parts ▸ List.mem_map_of_mem (f := some) among)
    rcases exists_line reader isMade parts isCode isText fun name among =>
      ⟨(plainName among).1, (plainName among).2.2⟩ with ⟨line, isLine, read⟩
    have written {name : String} (among : name ∈ [name1, name2, name3]) :
        String.ofList (Text.csvField name.toList) = name := by
      rw [Text.csvField_eq_self_iff.mpr (plainName among), String.ofList_toList]
    rw [written (.head _), written (.tail _ (.head _)),
      written (.tail _ (.tail _ (.head _)))] at read
    exact ⟨line, _, by rw [lines, isLine]; rfl, read, by rwa [LineReader.parseLine_strip], rfl,
      parts, isCode⟩

namespace SendSite

/-- The region has this name. -/
def callNamed (name : String) : SendCall :=
  { call 10 "on" false with
    idNames := some (.value (.obj [("id_names", .obj [("1", .arr [.str name, .null, .null])])])) }

def start : SendLog where
  logger := {}
  files _ := []

theorem allMade_start : AllMade env start := fun _ _ member => nomatch member

def loggedNamed (name : String) : SendLog := (sendMachine env).final start [callNamed name]

def logFile : String := "T1_192-168-0-7_19700101.csv"

def rowNamed (name : String) : SendRow where
  regionId := 1
  mkDate := "19700101090010"
  parts := [some name, some "", some ""]
  code := .int 5

/-- A row as values that can be compared. -/
def view (row : SendRow) : Int × String × List (Option String) × Option Int :=
  (row.regionId, row.mkDate, row.parts, match row.code with
    | .int code => some code
    | _ => none)

theorem eq_of_view {rows : List SendRow} {name : String}
    (viewed : rows.map view = [view (rowNamed name)]) : rows = [rowNamed name] := by
  rcases List.map_eq_singleton_iff.mp viewed with ⟨row, rfl, same⟩
  rcases row with ⟨regionId, mkDate, parts, code⟩
  simp only [view, rowNamed, Prod.mk.injEq] at same
  rcases same with ⟨rfl, rfl, rfl, isCode⟩
  cases code <;> cases isCode
  rfl

def reader : LineReader where
  deviceId := "cam1"
  sha1 _ := "5ba93c9db0cff93f52b521d7420e43f6eda2784f"

theorem stamps (name : String) : ∀ call ∈ [callNamed name], Stamp (env.timestamp call.now) := by
  intro call member
  rw [List.mem_singleton.mp member]
  exact (by decide +kernel : Stamp (env.timestamp 10))

end SendSite

/-- A name without separators comes back. -/
theorem roundTrips_iff_press :
    ∃ text, (SendSite.rowNamed "press").text SendSite.env.render = some text ∧
      RoundTrips SendSite.reader (SendSite.rowNamed "press") [] text [] := by
  have logged : (SendSite.loggedNamed "press").files SendSite.logFile =
      [SendSite.rowNamed "press"] :=
    SendSite.eq_of_view (by decide +kernel)
  have plain := @roundTrips_iff SendSite.env SendSite.reader SendSite.start
    [SendSite.callNamed "press"] SendSite.allMade_start (SendSite.stamps "press") SendSite.logFile
    [] [] (SendSite.rowNamed "press") logged [] _ rfl rfl []
  refine ⟨_, rfl, plain.mpr ⟨⟨5, rfl⟩, ?_⟩⟩
  intro name among
  simp only [SendSite.rowNamed, List.mem_cons, Option.some.injEq, List.not_mem_nil, or_false]
    at among
  rcases among with rfl | rfl | rfl <;> decide

/-- A name with a comma makes a line of six fields. -/
theorem not_roundTrips_comma :
    ¬∀ (env : SendEnv) (reader : LineReader) (start : SendLog) (calls : List SendCall),
      AllMade env start → (∀ call ∈ calls, Stamp (env.timestamp call.now)) →
      ∀ file earlier row later before text after,
        ((sendMachine env).final start calls).files file = earlier ++ row :: later →
        fileText env.render earlier = some before → row.text env.render = some text →
        RoundTrips reader row before text after := by
  intro always
  have logged : (SendSite.loggedNamed "a,b").files SendSite.logFile =
      [SendSite.rowNamed "a,b"] :=
    SendSite.eq_of_view (by decide +kernel)
  rcases always SendSite.env SendSite.reader SendSite.start [SendSite.callNamed "a,b"]
    SendSite.allMade_start (SendSite.stamps "a,b") SendSite.logFile [] (SendSite.rowNamed "a,b") []
    [] _ [] logged rfl rfl with ⟨line, rec, seen, parsed, -⟩
  have noRecord : ∀ line ∈ Text.completeLines (Text.csvRow
      ["19700101090010".toList, "a,b".toList, "".toList, "".toList, Text.ofInt 5]),
      SendSite.reader.parseLine line = none := by decide +kernel
  have present : line ∈ Text.completeLines (Text.csvRow
      ["19700101090010".toList, "a,b".toList, "".toList, "".toList, Text.ofInt 5]) := by
    rw [List.append_nil, List.nil_append] at seen
    exact seen.symm ▸ List.mem_append_right _ (.head _)
  exact Option.some_ne_none rec (parsed.symm.trans (noRecord line present))

end PresenceLogger.Child
