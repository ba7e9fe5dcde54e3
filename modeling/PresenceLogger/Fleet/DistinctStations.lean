import PresenceLogger.Child.SendLogLines
import PresenceLogger.Fleet.StaNoReport
import Mathlib.Data.List.Flatten

/-!
# Stations that are told apart

The children and the report normalise an assignment each in its own way, and between
them stand the quoting of `csv.writer` and a reader that splits at every comma.  Still
the station numbers of a record tell which triple it was logged for, so where the report
finds no duplicate no two regions log for one station.
-/

namespace PresenceLogger.Fleet

open Library Child

/-! ## Both normalisations agree -/

/-- The parts that a child logs are the triple that the report compares. -/
theorem idNameParts_eq_triple (render : Json → Option String) (value : Json) :
    idNameParts render value =
      [(triple render value).staNo1, (triple render value).staNo2,
        (triple render value).staNo3] := by
  cases value with
  | arr items =>
      match items with
      | [] => rfl
      | [_] => rfl
      | [_, _] => rfl
      | _ :: _ :: _ :: _ => rfl
  | _ => rfl

theorem isAssigned_iff {render : Json → Option String} {value : Json} :
    (triple render value).isAssigned = true ↔
      (idNameParts render value).any (· ≠ some "") = true := by
  rw [idNameParts_eq_triple]
  simp [Triple.isAssigned, or_assoc]

/-! ## Texts without line ends -/

def Unbroken (text : List Char) : Prop := '\r' ∉ text ∧ '\n' ∉ text

instance (text : List Char) : Decidable (Unbroken text) := inferInstanceAs (Decidable (_ ∧ _))

/-- The strings among the names have no line end; what is no string is logged by its
`str`. -/
def UnbrokenNames (value : Json) : Prop :=
  ∀ text, .str text ∈ nameItems value → Unbroken text.toList

theorem unbroken_of_digits {text : List Char}
    (digits : ∀ char ∈ text, char = '-' ∨ char.isDigit = true) : Unbroken text := by
  constructor
  · intro back
    exact absurd (digits _ back) (by decide)
  · intro feed
    exact absurd (digits _ feed) (by decide)

section

variable {render : Json → Option String}
  (rendered : ∀ data text, render data = some text → Unbroken text.toList)
include rendered

theorem unbroken_namePart {item : Json} {name : String}
    (plain : ∀ text, item = .str text → Unbroken text.toList)
    (isPart : namePart render item = some name) : Unbroken name.toList := by
  have ofText {text : String} (unbroken : Unbroken text.toList)
      (isName : String.ofList (Text.strip text.toList) = name) : Unbroken name.toList := by
    rw [← isName, String.toList_ofList]
    exact ⟨fun back => unbroken.1 (Text.mem_of_mem_stripBy back),
      fun feed => unbroken.2 (Text.mem_of_mem_stripBy feed)⟩
  cases item with
  | null =>
      cases isPart
      decide
  | bool value =>
      cases value <;> exact ofText (by decide) (Option.some.inj isPart)
  | int value =>
      exact ofText (unbroken_of_digits fun _ => Text.isDigit_of_mem_ofInt) (Option.some.inj isPart)
  | str text => exact ofText (plain text rfl) (Option.some.inj isPart)
  | surrogates _ => cases isPart
  | _ =>
      obtain ⟨text, isText, isName⟩ := Option.map_eq_some_iff.mp isPart
      exact ofText (rendered _ text isText) isName

theorem unbroken_idNameParts {value : Json} (plain : UnbrokenNames value) {name : String}
    (among : some name ∈ idNameParts render value) : Unbroken name.toList := by
  rcases of_mem_idNameParts among with ⟨item, isItem, isPart⟩ | rfl
  · exact unbroken_namePart rendered (fun text isText => plain text (isText ▸ isItem)) isPart
  · decide

end

/-! ## What a reader finds in a row -/

/-- A line that is a record has no comma in its fields, and the names are read as they
were written. -/
theorem names_of_parseLine_fields {reader : LineReader} {mkDate name1 name2 name3 code : List Char}
    (trimmed : ∀ name ∈ [name1, name2, name3], Text.Trimmed Text.isSpace name) {rec : Record}
    (parsed : reader.parseLine
      ([','].intercalate ([mkDate, name1, name2, name3, code].map Text.csvField)) = some rec) :
    rec.staNo1.toList = Text.csvField name1 ∧ rec.staNo2.toList = Text.csvField name2 ∧
      rec.staNo3.toList = Text.csvField name3 := by
  let first := (Text.csvField mkDate).dropWhile Text.isSpace
  let last := ((Text.csvField code).reverse.dropWhile Text.isSpace).reverse
  let fields := [first, Text.csvField name1, Text.csvField name2, Text.csvField name3, last]
  have stripped : Text.strip
      ([','].intercalate ([mkDate, name1, name2, name3, code].map Text.csvField)) =
        [','].intercalate fields := by
    have comma : Text.isSpace ',' = false := by decide
    have ends := Text.stripBy_append comma comma (Text.csvField mkDate)
      (Text.csvField name1 ++ ',' :: (Text.csvField name2 ++ ',' :: Text.csvField name3))
      (Text.csvField code)
    simpa [Text.strip, List.intercalate_cons_cons, fields, first, last] using ends
  have five : (LineReader.parts
      ([','].intercalate ([mkDate, name1, name2, name3, code].map Text.csvField))).length = 5 := by
    rw [LineReader.parseLine] at parsed
    split at parsed
    next isParts => rw [isParts]; rfl
    · cases parsed
  have noComma : ∀ field ∈ fields, ',' ∉ field := by
    rw [LineReader.parts, List.length_map, Text.length_splitOn, stripped] at five
    simp only [fields, List.intercalate_cons_cons, List.intercalate_singleton, List.count_append,
      List.count_singleton_self] at five
    simp only [fields, List.forall_mem_cons, List.not_mem_nil, false_imp_iff, implies_true,
      and_true, ← List.count_eq_zero]
    omega
  have isParts : LineReader.parts
      ([','].intercalate ([mkDate, name1, name2, name3, code].map Text.csvField)) =
        fields.map Text.strip := by
    rw [LineReader.parts, stripped, List.splitOn_intercalate _ noComma (List.cons_ne_nil _ _)]
  have nameStrip {name : List Char} (among : name ∈ [name1, name2, name3]) :
      Text.strip (Text.csvField name) = Text.csvField name :=
    (Text.trimmed_csvField (trimmed name among)).stripBy_eq
  rw [LineReader.parseLine, isParts] at parsed
  simp only [fields, List.map_cons, List.map_nil, nameStrip (.head _),
    nameStrip (.tail _ (.head _)), nameStrip (.tail _ (.tail _ (.head _)))] at parsed
  split at parsed
  · cases parsed
  · split at parsed
    · cases parsed
    · obtain ⟨_, -, rfl⟩ := Option.map_eq_some_iff.mp parsed
      exact ⟨String.toList_ofList, String.toList_ofList, String.toList_ofList⟩

/-- The names of a station as a record has them. -/
def ReadAs (station : Triple) (rec : Record) : Prop :=
  ∃ name1 name2 name3 : String, station = ⟨some name1, some name2, some name3⟩ ∧
    rec.staNo1.toList = Text.csvField name1.toList ∧
    rec.staNo2.toList = Text.csvField name2.toList ∧ rec.staNo3.toList = Text.csvField name3.toList

def SameStation (rec other : Record) : Prop :=
  rec.staNo1 = other.staNo1 ∧ rec.staNo2 = other.staNo2 ∧ rec.staNo3 = other.staNo3

/-- Records with the same station numbers were logged for one triple. -/
theorem ReadAs.eq_of_sameStation {station other : Triple} {rec otherRec : Record}
    (read : ReadAs station rec) (otherRead : ReadAs other otherRec)
    (same : SameStation rec otherRec) : station = other := by
  obtain ⟨name1, name2, name3, rfl, is1, is2, is3⟩ := read
  obtain ⟨other1, other2, other3, rfl, isOther1, isOther2, isOther3⟩ := otherRead
  rw [same.1, isOther1] at is1
  rw [same.2.1, isOther2] at is2
  rw [same.2.2, isOther3] at is3
  rw [String.toList_inj.mp (Text.csvField_injective is1),
    String.toList_inj.mp (Text.csvField_injective is2),
    String.toList_inj.mp (Text.csvField_injective is3)]

/-- The text of a row's code has no line end. -/
def UnbrokenCode (render : Json → Option String) (row : SendRow) : Prop :=
  ∀ code, codeText render row.code = some code → Unbroken code

/-- A record of a row has the names of the row's triple. -/
theorem readAs_of_row {render : Json → Option String}
    (rendered : ∀ data text, render data = some text → Unbroken text.toList) {row : SendRow}
    (mkDate : Unbroken row.mkDate.toList) (code : UnbrokenCode render row) {value : Json}
    (plain : UnbrokenNames value) (parts : row.parts = idNameParts render value)
    {text line : List Char} (isText : row.text render = some text)
    (isLine : line ∈ Text.completeLines text) {reader : LineReader} {rec : Record}
    (parsed : reader.parseLine line = some rec) : ReadAs (triple render value) rec := by
  obtain ⟨name1, name2, name3, names⟩ := parts_of_text isText
  have ofValue {name : String} (among : name ∈ [name1, name2, name3]) :
      some name ∈ idNameParts render value := by
    rw [← parts, names]
    exact List.mem_map_of_mem (f := some) among
  have unbroken {name : String} (among : name ∈ [name1, name2, name3]) : Unbroken name.toList :=
    unbroken_idNameParts rendered plain (ofValue among)
  rw [SendRow.text, names] at isText
  cases isCode : codeText render row.code with
  | none => simp [isCode] at isText
  | some digits =>
      rw [isCode] at isText
      cases isText
      rw [Text.completeLines_csvRow, List.mem_singleton] at isLine
      · subst isLine
        have read := names_of_parseLine_fields (fun name among => ?_) parsed
        · rw [parts, idNameParts_eq_triple] at names
          simp only [List.cons.injEq, and_true] at names
          exact ⟨name1, name2, name3, by rw [← names.1, ← names.2.1, ← names.2.2], read⟩
        · have inNames : name ∈ [name1, name2, name3].map String.toList := among
          obtain ⟨text, isName, rfl⟩ := List.mem_map.mp inNames
          exact trimmed_idNameParts (ofValue isName)
      · simp only [List.forall_mem_cons, List.not_mem_nil, false_imp_iff, implies_true, and_true]
        exact ⟨mkDate, unbroken (.head _), unbroken (.tail _ (.head _)),
          unbroken (.tail _ (.tail _ (.head _))), code digits isCode⟩

/-! ## Rows that are sent -/

/-- A call of the logger appends the row for the region of this key. -/
structure Sent (env : SendEnv) (regions : Regions) (key : String) (row : SendRow) : Prop where
  appended : ∃ (log : SendLog) (call : SendCall) (file : String) (rows : List SendRow),
    (log.logger.prepared env call).idNames = .obj regions.rows ∧
      (log.update env call).1.files file = log.files file ++ rows ∧ row ∈ rows
  isRegion : Text.parseInt key.toList = some row.regionId
  parts : ∃ value, Dict.find regions key = some value ∧ row.parts = idNameParts env.render value

/-- A row of a sent region has the time of a call, and some name. -/
theorem Sent.row_spec {env : SendEnv} {regions : Regions} {key : String} {row : SendRow}
    (sent : Sent env regions key row) :
    (∃ now, row.mkDate = env.timestamp now) ∧ row.parts.any (· ≠ some "") = true := by
  obtain ⟨log, call, file, rows, idNames, appended, member⟩ := sent.appended
  obtain ⟨named, isNamed, collected⟩ := mem_collect_of_update appended member
  rw [idNames] at isNamed
  obtain ⟨isTime, region, among, -, parts⟩ := region_of_mem_collect collected
  obtain ⟨_, -, -, -, someName⟩ := namedBy_of_namedRegions isNamed region among
  exact ⟨⟨call.now, isTime⟩, parts ▸ someName⟩

/-- Every row that a call appends is sent for the region of some key. -/
theorem exists_sent {env : SendEnv} {regions : Regions} {log : SendLog} {call : SendCall}
    {file : String} {rows : List SendRow}
    (idNames : (log.logger.prepared env call).idNames = .obj regions.rows)
    (appended : (log.update env call).1.files file = log.files file ++ rows) {row : SendRow}
    (member : row ∈ rows) : ∃ key, Sent env regions key row := by
  obtain ⟨named, isNamed, collected⟩ := mem_collect_of_update appended member
  rw [idNames] at isNamed
  obtain ⟨-, region, among, sameId, parts⟩ := region_of_mem_collect collected
  obtain ⟨key, present, isRegion, ofKey, -⟩ := namedBy_of_namedRegions isNamed region among
  exact ⟨key, ⟨log, call, file, rows, idNames, appended, member⟩, sameId ▸ isRegion,
    _, Dict.find_eq_some_iff.mpr (Json.field_mem present), parts.trans ofKey⟩

/-- The region, a host with a key, has this row sent, and a reader makes the record of a
line of it. -/
def Produces (perHost : Assignments) (env : SendEnv) (reader : LineReader)
    (region : String × String) (row : SendRow) (rec : Record) : Prop :=
  ∃ regions text line, Dict.find perHost region.1 = some (some regions) ∧
    Sent env regions region.2 row ∧ row.text env.render = some text ∧
    line ∈ Text.completeLines text ∧ reader.parseLine line = some rec

/-! ## What the report rules out -/

/-- Nothing is reported, but for texts with lone surrogates, which `Triple` does not tell
apart. -/
def NoDuplicate (render : Json → Option String) (perHost : Assignments) : Prop :=
  ∀ name1 name2 name3 : String,
    ⟨some name1, some name2, some name3⟩ ∉ (findDuplicateStations render perHost).map Prod.fst

/-- An assigned triple of two regions is reported. -/
theorem reported_of_two {render : Json → Option String} {perHost : Assignments}
    {left right : String × String} (apart : left ≠ right) {leftRegions rightRegions : Regions}
    (leftHost : Dict.find perHost left.1 = some (some leftRegions))
    (rightHost : Dict.find perHost right.1 = some (some rightRegions)) {leftValue rightValue : Json}
    (ofLeft : Dict.find leftRegions left.2 = some leftValue)
    (ofRight : Dict.find rightRegions right.2 = some rightValue)
    (same : triple render leftValue = triple render rightValue)
    (isAssigned : (triple render leftValue).isAssigned = true) :
    triple render leftValue ∈ (findDuplicateStations render perHost).map Prod.fst := by
  have inAssigned {regions : Regions} {key : String} {value : Json}
      (found : Dict.find regions key = some value)
      (isTriple : triple render value = triple render leftValue) :
      triple render leftValue ∈ assigned render regions :=
    List.mem_filter.mpr
      ⟨List.mem_map.mpr ⟨_, Dict.find_eq_some_iff.mp found, isTriple⟩, isAssigned⟩
  have inLeft := Dict.find_eq_some_iff.mp leftHost
  rw [mem_findDuplicateStations]
  by_cases sameHost : left.1 = right.1
  · cases (sameHost ▸ leftHost).symm.trans rightHost
    have otherKey : left.2 ≠ right.2 := fun sameKey => apart (Prod.ext sameHost sameKey)
    have twice : 2 ≤ (assigned render leftRegions).count (triple render leftValue) := by
      rw [assigned, List.count_filter isAssigned, List.map_eq_flatMap]
      exact two_le_count_flatMap (f := fun region : String × Json => [triple render region.2])
        (Dict.find_eq_some_iff.mp ofLeft) (Dict.find_eq_some_iff.mp ofRight)
        (fun sameRow => otherKey (congrArg Prod.fst sameRow)) (.head _)
        (List.mem_singleton.mpr same)
    have part := (List.singleton_sublist.mpr inLeft).flatMap
      fun host : String × Option Regions => host.2.elim [] (assigned render)
    rw [List.flatMap_singleton] at part
    exact twice.trans (part.count_le _)
  · exact two_le_count_flatMap
      (f := fun host : String × Option Regions => host.2.elim [] (assigned render)) inLeft
      (Dict.find_eq_some_iff.mp rightHost) (fun sameRow => sameHost (Prod.mk.inj sameRow).1)
      (inAssigned ofLeft rfl) (inAssigned ofRight same.symm)

/-- Where the report finds no duplicate, no two regions log records with the same station
numbers, as long as the texts of the codes have no line ends. -/
theorem stations_distinct {render : Json → Option String}
    (rendered : ∀ data text, render data = some text → Unbroken text.toList)
    {perHost : Assignments}
    (plain : ∀ host regions, Dict.find perHost host = some (some regions) →
      ∀ entry ∈ regions.rows, UnbrokenNames entry.2)
    (noDuplicate : NoDuplicate render perHost) {env : String → SendEnv}
    (renders : ∀ host, (env host).render = render)
    (times : ∀ host now, Unbroken ((env host).timestamp now).toList)
    (reader : String → LineReader) {left right : String × String} (apart : left ≠ right)
    {leftRow rightRow : SendRow} (leftCode : UnbrokenCode render leftRow)
    (rightCode : UnbrokenCode render rightRow) {leftRec rightRec : Record}
    (ofLeft : Produces perHost (env left.1) (reader left.1) left leftRow leftRec)
    (ofRight : Produces perHost (env right.1) (reader right.1) right rightRow rightRec) :
    ¬SameStation leftRec rightRec := by
  have spec {region : String × String} {row : SendRow} {rec : Record}
      (code : UnbrokenCode render row)
      (produces : Produces perHost (env region.1) (reader region.1) region row rec) :
      ∃ regions value, Dict.find perHost region.1 = some (some regions) ∧
        Dict.find regions region.2 = some value ∧ (triple render value).isAssigned = true ∧
        ReadAs (triple render value) rec := by
    obtain ⟨regions, text, line, isHost, sent, isText, isLine, parsed⟩ := produces
    obtain ⟨value, found, parts⟩ := sent.parts
    obtain ⟨⟨now, isTime⟩, someName⟩ := sent.row_spec
    rw [renders] at parts isText
    refine ⟨regions, value, isHost, found, isAssigned_iff.mpr (parts ▸ someName), ?_⟩
    exact readAs_of_row rendered (isTime ▸ times _ now) code
      (plain _ regions isHost _ (Dict.find_eq_some_iff.mp found)) parts isText isLine parsed
  obtain ⟨leftRegions, leftValue, leftHost, leftFound, isAssigned, leftRead⟩ := spec leftCode ofLeft
  obtain ⟨rightRegions, rightValue, rightHost, rightFound, -, rightRead⟩ := spec rightCode ofRight
  intro same
  have reported := reported_of_two apart leftHost rightHost leftFound rightFound
    (leftRead.eq_of_sameStation rightRead same) isAssigned
  obtain ⟨name1, name2, name3, isStation, -⟩ := leftRead
  rw [isStation] at reported
  exact noDuplicate name1 name2 name3 reported

/-! ## Two hosts with a region each -/

namespace StationSite

/-- The region has this name and its lamp this code. -/
def call (name : String) (code : Json) : SendCall where
  now := 10
  stStates := [((1, "red"), "on")]
  statusCodes := some (.value (.obj [("patterns", .arr [.obj
    [("conditions", .obj [("red", .str "on")]), ("code", code)]])]))
  idNames := some (.value (.obj [("id_names", .obj [("1", .arr [.str name, .null, .null])])]))
  ip := "192.168.0.7"

def regions (name : String) : Regions := .ofPairs [("1", .arr [.str name, .null, .null])]

def perHost : Assignments :=
  .ofPairs [("zero2", some (regions "press")), ("zero3", some (regions "drill"))]

/-- A code that is posted as a text of three lines. -/
def brokenCode : String := "5\r\n20260101000000,X,Y,Z,4\r\n6"

/-- A row as values that can be compared. -/
def view (row : SendRow) : Int × List (Option String) × Option (List Char) × Option (List Char) :=
  (row.regionId, row.parts, codeText SendSite.env.render row.code, row.text SendSite.env.render)

theorem exists_produces (host name : String) (code : Json) (codeChars text line : List Char)
    (rec : Record) (isHost : Dict.find perHost host = some (some (regions name)))
    (viewed : ((SendSite.start.update SendSite.env (call name code)).1.files
      SendSite.logFile).map view =
        [(1, [some name, some "", some ""], some codeChars, some text)])
    (parts : idNameParts SendSite.env.render (.arr [.str name, .null, .null]) =
      [some name, some "", some ""])
    (isLine : line ∈ Text.completeLines text)
    (parsed : SendSite.reader.parseLine line = some rec) :
    ∃ row, codeText SendSite.env.render row.code = some codeChars ∧
      Produces perHost SendSite.env SendSite.reader (host, "1") row rec := by
  have due : 5 < nearestDouble ((call name code).now - SendSite.start.logger.cfgTs) :=
    (by decide +kernel : 5 < nearestDouble (10 - 0))
  obtain ⟨row, isRow, same⟩ := List.map_eq_singleton_iff.mp viewed
  simp only [view, Prod.mk.injEq] at same
  obtain ⟨isRegion, isParts, isCode, isText⟩ := same
  refine ⟨row, isCode, regions name, text, line, isHost, ?_, isText, isLine, parsed⟩
  constructor
  · refine ⟨SendSite.start, call name code, SendSite.logFile, [row], ?_, isRow, .head _⟩
    have reloaded : (SendSite.start.logger.reloadCfg (call name code)).idNames =
        .obj (regions name).rows := by
      rw [SendLogger.reloadCfg, if_pos due]
      rfl
    rw [SendLogger.prepared, SendLogger.rotate]
    split
    · exact reloaded
    · exact reloaded
  · have one : Text.parseInt "1".toList = some 1 := by decide +kernel
    rw [isRegion]
    exact one
  · exact ⟨_, rfl, isParts.trans parts.symm⟩

theorem unbrokenNames_regions {name : String} (unbroken : Unbroken name.toList) :
    ∀ entry ∈ (regions name).rows, UnbrokenNames entry.2 := by
  intro entry among text isText
  cases List.mem_singleton.mp among
  simp only [nameItems, List.mem_cons, Json.str.injEq, reduceCtorEq, List.not_mem_nil,
    or_false] at isText
  exact isText ▸ unbroken

theorem unbrokenNames_perHost : ∀ host regions, Dict.find perHost host = some (some regions) →
    ∀ entry ∈ regions.rows, UnbrokenNames entry.2 := by
  intro host assignment found
  have among : (host, some assignment) ∈
      [("zero2", some (regions "press")), ("zero3", some (regions "drill"))] :=
    Dict.find_eq_some_iff.mp found
  simp only [List.mem_cons, Prod.mk.injEq, Option.some.injEq, List.not_mem_nil, or_false] at among
  rcases among with ⟨-, rfl⟩ | ⟨-, rfl⟩
  · exact unbrokenNames_regions (by decide)
  · exact unbrokenNames_regions (by decide)

theorem all_objects (host : String) : Dict.find perHost host ≠ some none := by
  intro found
  have among : (host, none) ∈
      [("zero2", some (regions "press")), ("zero3", some (regions "drill"))] :=
    Dict.find_eq_some_iff.mp found
  simp at among

theorem noDuplicate : NoDuplicate SendSite.env.render perHost := by
  have none : findDuplicateStations SendSite.env.render perHost = [] := by decide +kernel
  intro name1 name2 name3
  rw [none]
  exact List.not_mem_nil

theorem unbroken_timestamp (now : ℚ) : Unbroken (SendSite.env.timestamp now).toList := by
  apply unbroken_of_digits
  intro char member
  simp only [SendSite.env, String.toList_append, List.mem_append] at member
  rcases member with inDay | inSecond
  · revert char
    decide
  · exact Text.isDigit_of_mem_ofInt inSecond

theorem rendered (data : Json) (text : String) (isText : SendSite.env.render data = some text) :
    Unbroken text.toList := by
  cases isText

end StationSite

/-- Two hosts with different names. -/
theorem stations_distinct_names :
    ∃ leftRow rightRow leftRec rightRec,
      Produces StationSite.perHost SendSite.env SendSite.reader ("zero2", "1") leftRow leftRec ∧
        Produces StationSite.perHost SendSite.env SendSite.reader ("zero3", "1") rightRow rightRec ∧
        ¬SameStation leftRec rightRec := by
  obtain ⟨leftRow, leftCode, ofLeft⟩ := StationSite.exists_produces "zero2" "press" (.int 5) ['5']
    "19700101090010,press,,,5\r\n".toList "19700101090010,press,,,5".toList
    (SendSite.reader.record "19700101090010" "press" "" "" 5) rfl (by decide +kernel) rfl
    (by decide +kernel) (by decide +kernel)
  obtain ⟨rightRow, rightCode, ofRight⟩ :=
    StationSite.exists_produces "zero3" "drill" (.int 5) ['5']
    "19700101090010,drill,,,5\r\n".toList "19700101090010,drill,,,5".toList
    (SendSite.reader.record "19700101090010" "drill" "" "" 5) rfl (by decide +kernel) rfl
    (by decide +kernel) (by decide +kernel)
  have unbroken {row : SendRow} (isCode : codeText SendSite.env.render row.code = some ['5']) :
      UnbrokenCode SendSite.env.render row := by
    intro code isText
    cases isCode.symm.trans isText
    decide
  exact ⟨leftRow, rightRow, _, _, ofLeft, ofRight,
    stations_distinct StationSite.rendered StationSite.unbrokenNames_perHost StationSite.noDuplicate
      (fun _ => rfl) (fun _ => StationSite.unbroken_timestamp) (fun _ => SendSite.reader)
      (by decide)
      (unbroken leftCode) (unbroken rightCode) ofLeft ofRight⟩

/-- A code whose text has line ends makes a line of its own, which is a record of any
station. -/
theorem not_stations_distinct_lineEnds :
    ¬∀ (render : Json → Option String) (perHost : Assignments) (env : String → SendEnv)
      (reader : String → LineReader),
      (∀ data text, render data = some text → Unbroken text.toList) →
      (∀ host, Dict.find perHost host ≠ some none) →
      (∀ host regions, Dict.find perHost host = some (some regions) →
        ∀ entry ∈ regions.rows, UnbrokenNames entry.2) →
      NoDuplicate render perHost → (∀ host, (env host).render = render) →
      (∀ host now, Unbroken ((env host).timestamp now).toList) →
      ∀ (left right : String × String) leftRow rightRow leftRec rightRec, left ≠ right →
        Produces perHost (env left.1) (reader left.1) left leftRow leftRec →
        Produces perHost (env right.1) (reader right.1) right rightRow rightRec →
        ¬SameStation leftRec rightRec := by
  intro always
  obtain ⟨leftRow, -, ofLeft⟩ := StationSite.exists_produces "zero2" "press"
    (.str StationSite.brokenCode) StationSite.brokenCode.toList
    "19700101090010,press,,,\"5\r\n20260101000000,X,Y,Z,4\r\n6\"\r\n".toList
    "20260101000000,X,Y,Z,4".toList (SendSite.reader.record "20260101000000" "X" "Y" "Z" 4)
    rfl (by decide +kernel) rfl (by decide +kernel) (by decide +kernel)
  obtain ⟨rightRow, -, ofRight⟩ := StationSite.exists_produces "zero3" "drill"
    (.str StationSite.brokenCode) StationSite.brokenCode.toList
    "19700101090010,drill,,,\"5\r\n20260101000000,X,Y,Z,4\r\n6\"\r\n".toList
    "20260101000000,X,Y,Z,4".toList (SendSite.reader.record "20260101000000" "X" "Y" "Z" 4)
    rfl (by decide +kernel) rfl (by decide +kernel) (by decide +kernel)
  refine always SendSite.env.render StationSite.perHost (fun _ => SendSite.env)
    (fun _ => SendSite.reader) StationSite.rendered StationSite.all_objects
    StationSite.unbrokenNames_perHost StationSite.noDuplicate (fun _ => rfl)
    (fun _ => StationSite.unbroken_timestamp) _ _ _ _ _ _ ?_ ofLeft ofRight ⟨rfl, rfl, rfl⟩
  decide

end PresenceLogger.Fleet
