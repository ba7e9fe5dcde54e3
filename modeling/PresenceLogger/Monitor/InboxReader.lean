import Mathlib.Data.List.Dedup
import Mathlib.Data.String.Basic
import PresenceLogger.Bridge.RecordInbox
import PresenceLogger.Library.Lines

/-!
# What the monitor reads of the record inbox

The monitor reads the database itself, or has it read in the container of the bridge, which prints
what it has read line by line.  The two ways make one view of an inbox if its texts have no tabs and
no line breaks.
-/

namespace PresenceLogger.Monitor

open Library Library.Text Bridge

/-! ## The view -/

structure InboxRow where
  eventId : String
  deviceId : Option String
  mkDate : String
  status : String
  retryCount : Int
  lastError : Option String
  receivedAtIso : String
  sentAtIso : Option String
  staNo1 : String
  staNo2 : String
  staNo3 : String
  t1Status : String
  mkDateCommitted : Option String
  deriving DecidableEq

structure DeviceAgg where
  deviceId : String
  count : Int
  lastMkDate : Option String
  deriving DecidableEq

structure InboxView where
  rows : List InboxRow := []
  received : Int := 0
  sent : Int := 0
  total : Int := 0
  devices : List DeviceAgg := []
  failed : Int := 0
  deriving DecidableEq

namespace InboxView

/-- The count of a status. -/
def setCount (view : InboxView) (status : String) (n : Int) : InboxView :=
  if status = "received" then { view with received := n }
  else if status = "sent" then { view with sent := n }
  else if status = "failed" then { view with failed := n }
  else view

def withTotal (view : InboxView) : InboxView :=
  { view with total := view.received + view.sent + view.failed }

end InboxView

/-- `text or ""` -/
def orEmpty (text : Option String) : String := text.getD ""

/-- `text or None` -/
def orNone (text : String) : Option String := if text = "" then none else some text

/-- `device_id or "(不明)"` -/
def deviceName (deviceId : String) : String := if deviceId = "" then "(不明)" else deviceId

/-! ## The queries -/

def statusText : RecordStatus → String
  | .received => "received"
  | .sent => "sent"
  | .failed => "failed"

section Queries

variable (inbox : RecordInbox)

/-- `SELECT status, COUNT(*) FROM record_inbox GROUP BY status` -/
def statusGroups : List (String × Nat) :=
  ([.failed, .received, .sent].map fun status =>
    (statusText status, inbox.rows.countP (·.status = status))).filter (0 < ·.2)

structure DeviceGroup where
  deviceId : Option String
  n : Nat
  lastMk : Option String

/-- The order of the groups, `NULL` first. -/
def nullsFirst : Option String → Option String → Bool
  | none, _ => true
  | some _, none => false
  | some left, some right => left ≤ right

/-- `SELECT device_id, COUNT(*), MAX(mk_date) FROM record_inbox GROUP BY device_id` -/
def deviceGroups : List DeviceGroup :=
  ((inbox.rows.map RecordInboxEvent.deviceId).dedup.insertionSort (nullsFirst · ·)).map
    fun deviceId =>
      let rows := inbox.rows.filter (·.deviceId = deviceId)
      { deviceId := deviceId
        n := rows.length
        lastMk := (rows.map RecordInboxEvent.mkDate).max? }

/-- `SELECT ... FROM record_inbox ORDER BY received_at_iso DESC LIMIT ?` -/
def newest (limit : Int) : List RecordInboxEvent :=
  let rows := inbox.rows.insertionSort fun left right => right.receivedAtIso ≤ left.receivedAtIso
  if limit < 0 then rows else rows.take limit.toNat

end Queries

/-! ## Reading the database -/

def inboxRow (row : RecordInboxEvent) : InboxRow where
  eventId := row.eventId
  deviceId := row.deviceId
  mkDate := row.mkDate
  status := statusText row.status
  retryCount := row.retryCount
  lastError := row.lastError
  receivedAtIso := row.receivedAtIso
  sentAtIso := row.sentAtIso
  staNo1 := row.staNo1
  staNo2 := row.staNo2
  staNo3 := row.staNo3
  t1Status := .ofList (ofInt row.t1Status)
  mkDateCommitted := row.mkDateCommitted

def deviceAgg (group : DeviceGroup) : DeviceAgg where
  deviceId := deviceName (orEmpty group.deviceId)
  count := group.n
  lastMkDate := group.lastMk

/-- `_read_direct` -/
def readDirect (inbox : RecordInbox) (limit : Int) : InboxView :=
  let counted : InboxView :=
    (statusGroups inbox).foldl (fun view group => view.setCount group.1 group.2) {}
  { counted with
    rows := (newest inbox limit).map inboxRow
    total := counted.received + counted.sent + counted.failed
    devices := (deviceGroups inbox).map deviceAgg }

/-! ## Reading in the container -/

/-- Fields with tabs between them. -/
def tabbed (fields : List String) : List Char := ['\t'].intercalate (fields.map String.toList)

def countLine (group : String × Nat) : List Char :=
  tabbed ["CNT", group.1, .ofList (ofInt group.2)]

def deviceLine (group : DeviceGroup) : List Char :=
  tabbed ["DEV", orEmpty group.deviceId, .ofList (ofInt group.n), orEmpty group.lastMk]

/-- `.replace("\t", " ").replace("\n", " ")` -/
def oneLineError (text : String) : String :=
  .ofList (text.toList.map fun char => if char = '\t' ∨ char = '\n' then ' ' else char)

def rowLine (row : RecordInboxEvent) : List Char :=
  tabbed ["ROW", row.eventId, orEmpty row.deviceId, row.mkDate, statusText row.status,
    .ofList (ofInt row.retryCount), oneLineError (orEmpty row.lastError), row.receivedAtIso,
    orEmpty row.sentAtIso, row.staNo1, row.staNo2, row.staNo3, .ofList (ofInt row.t1Status),
    orEmpty row.mkDateCommitted]

/-- The lines that `_CONTAINER_QUERY` prints. -/
def printedLines (inbox : RecordInbox) (limit : Int) : List (List Char) :=
  (statusGroups inbox).map countLine ++ (deviceGroups inbox).map deviceLine ++
    (newest inbox limit).map rowLine

def containerOutput (inbox : RecordInbox) (limit : Int) : List Char :=
  (printedLines inbox limit).flatMap (· ++ ['\n'])

/-- What a line stands for. -/
inductive Entry where
  | count (status : String) (n : Int)
  | device (agg : DeviceAgg)
  | row (row : InboxRow)

/-- A line, which may be none of these, and whose number may raise a `ValueError`. -/
def readEntry (line : List Char) : Option (Option Entry) :=
  match (line.splitOn '\t').map String.ofList with
  | [tag, status, n] =>
      if tag = "CNT" ∧ status ∈ ["received", "sent", "failed"] then
        some ((parseInt n.toList).map fun n => .count status n)
      else none
  | [tag, deviceId, n, mk] =>
      if tag = "DEV" then
        some ((parseInt n.toList).map fun n => .device ⟨deviceName deviceId, n, orNone mk⟩)
      else none
  | [tag, eventId, deviceId, mkDate, status, retryCount, lastError, receivedAtIso, sentAtIso,
      staNo1, staNo2, staNo3, t1Status, mkDateCommitted] =>
      if tag = "ROW" then
        some ((parseInt retryCount.toList).map fun retryCount => .row
          { eventId := eventId
            deviceId := orNone deviceId
            mkDate := mkDate
            status := status
            retryCount := retryCount
            lastError := orNone lastError
            receivedAtIso := receivedAtIso
            sentAtIso := orNone sentAtIso
            staNo1 := staNo1
            staNo2 := staNo2
            staNo3 := staNo3
            t1Status := t1Status
            mkDateCommitted := orNone mkDateCommitted })
      else none
  | _ => none

def InboxView.put (view : InboxView) : Entry → InboxView
  | .count status n => view.setCount status n
  | .device agg => { view with devices := view.devices ++ [agg] }
  | .row row => { view with rows := view.rows ++ [row] }

/-- `parse_container_output`, with `none` for a `ValueError`. -/
def parseContainerOutput (text : List Char) : Option InboxView :=
  ((readLines readEntry text).mapM id).map fun entries =>
    (entries.foldl InboxView.put {}).withTotal

/-- `_read_via_container`; the output is read as text. -/
def readViaContainer (inbox : RecordInbox) (limit : Int) : Option InboxView :=
  parseContainerOutput (universalNewlines (containerOutput inbox limit))

/-! ## Texts that are printed as they are -/

/-- A text without tabs and line breaks. -/
def Plain (text : String) : Prop := '\t' ∉ text.toList ∧ OneLine text.toList

instance (text : String) : Decidable (Plain text) := inferInstanceAs (Decidable (_ ∧ _))

/-- A text that is printed as it is, and read as one that is there. -/
def Shown (text : Option String) : Prop := ∀ present ∈ text, Plain present ∧ present ≠ ""

instance (text : Option String) : Decidable (Shown text) :=
  inferInstanceAs (Decidable (∀ present ∈ text, Plain present ∧ present ≠ ""))

structure PlainRow (row : InboxRow) : Prop where
  eventId : Plain row.eventId
  deviceId : Shown row.deviceId
  mkDate : Plain row.mkDate
  lastError : Shown row.lastError
  receivedAtIso : Plain row.receivedAtIso
  sentAtIso : Shown row.sentAtIso
  staNo1 : Plain row.staNo1
  staNo2 : Plain row.staNo2
  staNo3 : Plain row.staNo3
  mkDateCommitted : Shown row.mkDateCommitted

/-- The device of every row is plain, and so is the last of the dates of each device. -/
def PlainDevices (inbox : RecordInbox) : Prop :=
  ∀ row ∈ inbox.rows, (∀ deviceId ∈ row.deviceId, Plain deviceId) ∧
    ((∀ other ∈ inbox.rows, other.deviceId = row.deviceId → other.mkDate ≤ row.mkDate) →
      Shown (some row.mkDate))

/-- The numbers of an inbox are 64-bit integers. -/
def Fits (inbox : RecordInbox) : Prop :=
  inbox.rows.length < 2 ^ 63 ∧ ∀ row ∈ inbox.rows, row.retryCount.natAbs < 2 ^ 63

theorem plain_ofInt (n : Int) : Plain (.ofList (ofInt n)) := by
  rw [Plain, String.toList_ofList]
  refine ⟨fun tab => ?_, oneLine_ofInt n⟩
  exact absurd (isSpace_of_mem_ofInt tab) (by decide)

theorem plain_empty : Plain "" := ⟨List.not_mem_nil, oneLine_nil⟩

theorem plain_statusText (status : RecordStatus) : Plain (statusText status) := by
  cases status <;> exact ⟨by decide, by decide⟩

theorem plain_orEmpty {text : Option String} (plain : ∀ present ∈ text, Plain present) :
    Plain (orEmpty text) := by
  cases text with
  | none => exact plain_empty
  | some present => exact plain present rfl

theorem plain_deviceName {deviceId : String} (plain : Plain deviceId) :
    Plain (deviceName deviceId) := by
  rw [deviceName]
  split
  · exact ⟨by decide, by decide⟩
  · exact plain

theorem shown_orNone {text : String} (plain : Plain text) : Shown (orNone text) := by
  rw [orNone]
  split
  · exact fun _ none => nomatch none
  next nonempty =>
    rintro _ ⟨⟩
    exact ⟨plain, nonempty⟩

theorem Shown.orNone_orEmpty {text : Option String} (shown : Shown text) :
    orNone (orEmpty text) = text := by
  cases text with
  | none => rfl
  | some present => exact if_neg (shown present rfl).2

theorem Shown.plain_orEmpty {text : Option String} (shown : Shown text) : Plain (orEmpty text) :=
  Monitor.plain_orEmpty fun present isPresent => (shown present isPresent).1

theorem oneLineError_of_plain {text : String} (plain : Plain text) : oneLineError text = text := by
  have same : (text.toList.map fun char => if char = '\t' ∨ char = '\n' then ' ' else char) =
      text.toList := by
    refine (List.map_congr_left fun char among => ?_).trans (List.map_id _)
    refine if_neg ?_
    rintro (rfl | rfl)
    · exact plain.1 among
    · exact absurd (plain.2 _ among) (by decide)
  rw [oneLineError, same, String.ofList_toList]

/-! ## What is read is plain -/

/-- The texts of an entry are plain. -/
def Entry.Plain : Entry → Prop
  | .count _ _ => True
  | .device agg => Monitor.Plain agg.deviceId ∧ Shown agg.lastMkDate
  | .row shown => PlainRow shown

structure PlainView (view : InboxView) : Prop where
  rows : ∀ row ∈ view.rows, PlainRow row
  devices : ∀ agg ∈ view.devices, Plain agg.deviceId ∧ Shown agg.lastMkDate

theorem plain_of_mem_fields {line : List Char} (one : OneLine line) :
    ∀ field ∈ (line.splitOn '\t').map String.ofList, Plain field := by
  intro field among
  obtain ⟨piece, isPiece, rfl⟩ := List.mem_map.mp among
  have chars := mem_of_mem_splitOn isPiece
  rw [Plain, String.toList_ofList]
  exact ⟨fun tab => (chars _ tab).2 rfl, fun char inPiece => one char (chars char inPiece).1⟩

/-- The fields of a line have no tabs and no line breaks. -/
theorem plain_of_readEntry {line : List Char} (one : OneLine line) {entry : Entry}
    (isEntry : readEntry line = some (some entry)) : entry.Plain := by
  have each := plain_of_mem_fields one
  rw [readEntry] at isEntry
  split at isEntry
  next fields =>
    split at isEntry
    · obtain ⟨n, -, rfl⟩ := Option.map_eq_some_iff.mp (Option.some.inj isEntry)
      trivial
    · cases isEntry
  next fields =>
    rw [fields] at each
    simp only [List.forall_mem_cons] at each
    split at isEntry
    · obtain ⟨n, -, rfl⟩ := Option.map_eq_some_iff.mp (Option.some.inj isEntry)
      exact ⟨plain_deviceName each.2.1, shown_orNone each.2.2.2.1⟩
    · cases isEntry
  next fields =>
    rw [fields] at each
    simp only [List.forall_mem_cons] at each
    split at isEntry
    · obtain ⟨n, -, rfl⟩ := Option.map_eq_some_iff.mp (Option.some.inj isEntry)
      obtain ⟨-, eventId, deviceId, mkDate, -, -, lastError, receivedAtIso, sentAtIso, staNo1,
        staNo2, staNo3, -, mkDateCommitted, -⟩ := each
      exact ⟨eventId, shown_orNone deviceId, mkDate, shown_orNone lastError, receivedAtIso,
        shown_orNone sentAtIso, staNo1, staNo2, staNo3, shown_orNone mkDateCommitted⟩
    · cases isEntry
  · cases isEntry

theorem PlainView.setCount {view : InboxView} (plain : PlainView view) (status : String) (n : Int) :
    PlainView (view.setCount status n) := by
  rw [InboxView.setCount]
  split_ifs <;> exact ⟨plain.rows, plain.devices⟩

theorem PlainView.put {view : InboxView} (plain : PlainView view) {entry : Entry}
    (plainEntry : entry.Plain) : PlainView (view.put entry) := by
  cases entry with
  | count status n => exact plain.setCount status n
  | device agg =>
      refine ⟨plain.rows, fun other among => ?_⟩
      rcases List.mem_append.mp among with before | new
      · exact plain.devices other before
      · rw [List.mem_singleton.mp new]
        exact plainEntry
  | row row =>
      refine ⟨fun other among => ?_, plain.devices⟩
      rcases List.mem_append.mp among with before | new
      · exact plain.rows other before
      · rw [List.mem_singleton.mp new]
        exact plainEntry

theorem PlainView.putAll {view : InboxView} (plain : PlainView view) {entries : List Entry}
    (each : ∀ entry ∈ entries, entry.Plain) : PlainView (entries.foldl InboxView.put view) := by
  induction entries generalizing view with
  | nil => exact plain
  | cons entry entries ih =>
      exact ih (plain.put (each entry (.head _))) fun other later => each other (.tail _ later)

theorem mem_of_mapM_id {items : List (Option Entry)} {entries : List Entry}
    (isEntries : items.mapM id = some entries) : items = entries.map some := by
  induction items generalizing entries with
  | nil =>
      cases isEntries
      rfl
  | cons item items ih =>
      rw [List.mapM_cons] at isEntries
      obtain ⟨entry, isItem, isEntries⟩ := Option.bind_eq_some_iff.mp isEntries
      obtain ⟨rest, isRest, isEntries⟩ := Option.bind_eq_some_iff.mp isEntries
      cases isEntries
      rw [List.map_cons, ← ih isRest, ← isItem]
      rfl

/-- A view that is read has plain texts. -/
theorem plainView_of_parse {text : List Char} (noReturn : '\r' ∉ text) {view : InboxView}
    (parsed : parseContainerOutput text = some view) : PlainView view := by
  obtain ⟨entries, isEntries, rfl⟩ := Option.map_eq_some_iff.mp parsed
  have items := mem_of_mapM_id isEntries
  have start : PlainView {} := by constructor <;> exact fun _ none => nomatch none
  have all : PlainView (entries.foldl InboxView.put {}) := by
    refine start.putAll fun entry among => ?_
    have read : some entry ∈ readLines readEntry text := items ▸ List.mem_map_of_mem among
    obtain ⟨line, isLine, isEntry⟩ := List.mem_filterMap.mp read
    exact plain_of_readEntry (exists_of_mem_splitLines noReturn isLine).1 isEntry
  exact ⟨all.rows, all.devices⟩

/-! ## Groups of the rows -/

section Groups

variable {inbox : RecordInbox}

/-- The texts of a group are plain. -/
def DeviceGroup.Plain (group : DeviceGroup) : Prop :=
  (∀ deviceId ∈ group.deviceId, Monitor.Plain deviceId) ∧ Shown group.lastMk

theorem exists_deviceGroup {row : RecordInboxEvent} (among : row ∈ inbox.rows) :
    ∃ group ∈ deviceGroups inbox, group.deviceId = row.deviceId ∧
      group.lastMk = ((inbox.rows.filter (·.deviceId = row.deviceId)).map
        RecordInboxEvent.mkDate).max? := by
  refine ⟨_, List.mem_map_of_mem ?_, rfl, rfl⟩
  exact (List.mem_insertionSort _).mpr
    (List.mem_dedup.mpr (List.mem_map_of_mem among))

/-- The last date of a group is one of its rows'. -/
theorem exists_of_mem_deviceGroups {group : DeviceGroup} (among : group ∈ deviceGroups inbox) :
    (∃ row ∈ inbox.rows, row.deviceId = group.deviceId) ∧
      ∀ mk ∈ group.lastMk, ∃ row ∈ inbox.rows, row.deviceId = group.deviceId ∧ row.mkDate = mk ∧
        ∀ other ∈ inbox.rows, other.deviceId = row.deviceId → other.mkDate ≤ row.mkDate := by
  obtain ⟨deviceId, isDevice, rfl⟩ := List.mem_map.mp among
  obtain ⟨row, isRow, rfl⟩ :=
    List.mem_map.mp (List.mem_dedup.mp ((List.mem_insertionSort _).mp isDevice))
  refine ⟨⟨row, isRow, rfl⟩, fun mk isLast => ?_⟩
  obtain ⟨isDate, greatest⟩ := List.max?_eq_some_iff.mp isLast
  obtain ⟨last, inGroup, rfl⟩ := List.mem_map.mp isDate
  obtain ⟨isLastRow, sameDevice⟩ := List.mem_filter.mp inGroup
  have same := of_decide_eq_true sameDevice
  refine ⟨last, isLastRow, same, rfl, fun other isOther otherSame => ?_⟩
  exact greatest _ (List.mem_map_of_mem
    (List.mem_filter.mpr ⟨isOther, decide_eq_true (otherSame.trans same)⟩))

/-- The groups are plain exactly if the devices and their last dates are. -/
theorem plain_deviceGroups_iff :
    (∀ group ∈ deviceGroups inbox, group.Plain) ↔ PlainDevices inbox := by
  constructor
  · intro each row among
    obtain ⟨group, isGroup, isDevice, isLast⟩ := exists_deviceGroup among
    obtain ⟨device, last⟩ := each group isGroup
    rw [isDevice] at device
    refine ⟨device, fun greatest => ?_⟩
    have isMax : ((inbox.rows.filter (·.deviceId = row.deviceId)).map
        RecordInboxEvent.mkDate).max? = some row.mkDate := by
      refine List.max?_eq_some_iff.mpr ⟨List.mem_map_of_mem
        (List.mem_filter.mpr ⟨among, decide_eq_true rfl⟩), fun mk isDate => ?_⟩
      obtain ⟨other, inGroup, rfl⟩ := List.mem_map.mp isDate
      obtain ⟨isOther, same⟩ := List.mem_filter.mp inGroup
      exact greatest other isOther (of_decide_eq_true same)
    rw [isLast, isMax] at last
    exact last
  · intro plain group isGroup
    obtain ⟨⟨row, isRow, isDevice⟩, last⟩ := exists_of_mem_deviceGroups isGroup
    refine ⟨isDevice ▸ (plain row isRow).1, fun mk isLast => ?_⟩
    obtain ⟨lastRow, isLastRow, -, rfl, greatest⟩ := last mk isLast
    exact (plain lastRow isLastRow).2 greatest _ rfl

theorem plain_of_plain_deviceName {text : Option String}
    (plain : Plain (deviceName (orEmpty text))) : ∀ present ∈ text, Plain present := by
  rintro present ⟨⟩
  rw [orEmpty, Option.getD_some, deviceName] at plain
  split at plain
  next empty => exact empty ▸ plain_empty
  · exact plain

end Groups

/-! ## What is printed is read -/

theorem readEntry_tabbed {fields : List String} (some : fields ≠ [])
    (plain : ∀ field ∈ fields, Plain field) :
    ((tabbed fields).splitOn '\t').map String.ofList = fields := by
  have pieces : (tabbed fields).splitOn '\t' = fields.map String.toList := by
    refine List.splitOn_intercalate '\t' ?_ (by simpa using some)
    intro piece among
    obtain ⟨field, isField, rfl⟩ := List.mem_map.mp among
    exact (plain field isField).1
  rw [pieces, List.map_map]
  exact (List.map_congr_left fun field _ => String.ofList_toList).trans (List.map_id _)

theorem oneLine_tabbed {fields : List String} (plain : ∀ field ∈ fields, Plain field) :
    OneLine (tabbed fields) := by
  refine forall_mem_intercalate (by decide) fun piece among => ?_
  obtain ⟨field, isField, rfl⟩ := List.mem_map.mp among
  exact (plain field isField).2

theorem parseInt_ofInt_of_fits {n : Int} (fits : n.natAbs < 2 ^ 63) :
    parseInt (ofInt n) = some n := by
  rw [parseInt_ofInt, if_pos]
  have short : (Nat.toDigits 10 n.natAbs).length ≤ 19 := by
    rw [Nat.length_toDigits_le_iff (by decide) (by decide)]
    exact fits.trans (by decide)
  exact short.trans (by decide)

/-- A line that is read as one entry. -/
structure ReadAs (line : List Char) (entry : Entry) : Prop where
  one : OneLine line
  read : readEntry line = some (some entry)

theorem readAs_countLine {inbox : RecordInbox} (fits : Fits inbox) {group : String × Nat}
    (among : group ∈ statusGroups inbox) : ReadAs (countLine group) (.count group.1 group.2) := by
  obtain ⟨isGroup, -⟩ := List.mem_filter.mp among
  obtain ⟨status, -, rfl⟩ := List.mem_map.mp isGroup
  have plain : ∀ field ∈ ["CNT", statusText status,
      .ofList (ofInt (inbox.rows.countP (·.status = status) : Nat))], Plain field := by
    simp only [List.forall_mem_cons]
    exact ⟨⟨by decide, by decide⟩, plain_statusText status, plain_ofInt _, by simp⟩
  refine ⟨oneLine_tabbed plain, ?_⟩
  have known : statusText status ∈ ["received", "sent", "failed"] := by
    cases status <;> decide
  have small : (inbox.rows.countP (·.status = status) : Int).natAbs < 2 ^ 63 :=
    List.countP_le_length.trans_lt fits.1
  rw [readEntry, countLine, readEntry_tabbed (by simp) plain]
  simp only [known, and_self, if_true, String.toList_ofList, parseInt_ofInt_of_fits small,
    Option.map_some]

theorem readAs_deviceLine {inbox : RecordInbox} (fits : Fits inbox) {group : DeviceGroup}
    (among : group ∈ deviceGroups inbox) (plainGroup : group.Plain) :
    ReadAs (deviceLine group) (.device (deviceAgg group)) := by
  have plain : ∀ field ∈ ["DEV", orEmpty group.deviceId, .ofList (ofInt group.n),
      orEmpty group.lastMk], Plain field := by
    simp only [List.forall_mem_cons]
    exact ⟨⟨by decide, by decide⟩, plain_orEmpty plainGroup.1, plain_ofInt _,
      plainGroup.2.plain_orEmpty, by simp⟩
  have small : (group.n : Int).natAbs < 2 ^ 63 := by
    obtain ⟨deviceId, -, rfl⟩ := List.mem_map.mp among
    exact (List.length_filter_le _ _).trans_lt fits.1
  refine ⟨oneLine_tabbed plain, ?_⟩
  rw [readEntry, deviceLine, readEntry_tabbed (by simp) plain]
  simp only [if_true, String.toList_ofList, parseInt_ofInt_of_fits small, Option.map_some,
    plainGroup.2.orNone_orEmpty, deviceAgg]

theorem readAs_rowLine {row : RecordInboxEvent} (fits : row.retryCount.natAbs < 2 ^ 63)
    (plainRow : PlainRow (inboxRow row)) : ReadAs (rowLine row) (.row (inboxRow row)) := by
  have sameError : oneLineError (orEmpty row.lastError) = orEmpty row.lastError :=
    oneLineError_of_plain plainRow.lastError.plain_orEmpty
  have plain : ∀ field ∈ ["ROW", row.eventId, orEmpty row.deviceId, row.mkDate,
      statusText row.status, .ofList (ofInt row.retryCount), orEmpty row.lastError,
      row.receivedAtIso, orEmpty row.sentAtIso, row.staNo1, row.staNo2, row.staNo3,
      .ofList (ofInt row.t1Status), orEmpty row.mkDateCommitted], Plain field := by
    simp only [List.forall_mem_cons]
    exact ⟨⟨by decide, by decide⟩, plainRow.eventId, plainRow.deviceId.plain_orEmpty,
      plainRow.mkDate, plain_statusText _, plain_ofInt _, plainRow.lastError.plain_orEmpty,
      plainRow.receivedAtIso, plainRow.sentAtIso.plain_orEmpty, plainRow.staNo1, plainRow.staNo2,
      plainRow.staNo3, plain_ofInt _, plainRow.mkDateCommitted.plain_orEmpty, by simp⟩
  rw [rowLine, sameError]
  refine ⟨oneLine_tabbed plain, ?_⟩
  rw [readEntry, readEntry_tabbed (by simp) plain]
  have deviceId : orNone (orEmpty row.deviceId) = row.deviceId := plainRow.deviceId.orNone_orEmpty
  have lastError : orNone (orEmpty row.lastError) = row.lastError :=
    plainRow.lastError.orNone_orEmpty
  have sentAtIso : orNone (orEmpty row.sentAtIso) = row.sentAtIso :=
    plainRow.sentAtIso.orNone_orEmpty
  have mkDateCommitted : orNone (orEmpty row.mkDateCommitted) = row.mkDateCommitted :=
    plainRow.mkDateCommitted.orNone_orEmpty
  simp only [if_true, String.toList_ofList, parseInt_ofInt_of_fits fits, Option.map_some, deviceId,
    lastError, sentAtIso, mkDateCommitted, inboxRow]

/-! ## The two views -/

theorem InboxView.rows_setCount (view : InboxView) (status : String) (n : Int) :
    (view.setCount status n).rows = view.rows ∧
      (view.setCount status n).devices = view.devices := by
  rw [InboxView.setCount]
  split_ifs <;> exact ⟨rfl, rfl⟩

theorem rows_foldl_setCount (groups : List (String × Nat)) (view : InboxView) :
    (groups.foldl (fun view group => view.setCount group.1 group.2) view).rows = view.rows ∧
      (groups.foldl (fun view group => view.setCount group.1 group.2) view).devices =
        view.devices := by
  induction groups generalizing view with
  | nil => exact ⟨rfl, rfl⟩
  | cons group groups ih =>
      have first := view.rows_setCount group.1 group.2
      have others := ih (view.setCount group.1 group.2)
      exact ⟨others.1.trans first.1, others.2.trans first.2⟩

theorem foldl_put_device (aggs : List DeviceAgg) (view : InboxView) :
    (aggs.map Entry.device).foldl InboxView.put view =
      { view with devices := view.devices ++ aggs } := by
  induction aggs generalizing view with
  | nil => simp
  | cons agg aggs ih => simp [ih, InboxView.put]

theorem foldl_put_row (rows : List InboxRow) (view : InboxView) :
    (rows.map Entry.row).foldl InboxView.put view = { view with rows := view.rows ++ rows } := by
  induction rows generalizing view with
  | nil => simp
  | cons row rows ih => simp [ih, InboxView.put]

theorem filterMap_readAs {α : Type} {line : α → List Char} {entry : α → Entry} {items : List α}
    (each : ∀ item ∈ items, ReadAs (line item) (entry item)) :
    (items.map line).filterMap readEntry = (items.map entry).map some := by
  induction items with
  | nil => rfl
  | cons item items ih =>
      obtain ⟨first, others⟩ := List.forall_mem_cons.mp each
      rw [List.map_cons, List.filterMap_cons_some first.read, ih others]
      rfl

theorem mapM_id_map_some (entries : List Entry) : (entries.map some).mapM id = some entries := by
  induction entries with
  | nil => rfl
  | cons entry entries ih =>
      rw [List.map_cons, List.mapM_cons, ih]
      rfl

/-- Plain texts are read as they were printed. -/
theorem readViaContainer_of_plain {inbox : RecordInbox} {limit : Int} (fits : Fits inbox)
    (rows : ∀ row ∈ newest inbox limit, PlainRow (inboxRow row))
    (groups : ∀ group ∈ deviceGroups inbox, group.Plain) :
    readViaContainer inbox limit = some (readDirect inbox limit) := by
  have counts : ∀ group ∈ statusGroups inbox, ReadAs (countLine group) (.count group.1 group.2) :=
    fun group among => readAs_countLine fits among
  have devices : ∀ group ∈ deviceGroups inbox,
      ReadAs (deviceLine group) (.device (deviceAgg group)) :=
    fun group among => readAs_deviceLine fits among (groups group among)
  have inInbox : ∀ row ∈ newest inbox limit, row ∈ inbox.rows := by
    intro row among
    rw [newest] at among
    split at among
    · exact (List.mem_insertionSort _).mp among
    · exact (List.mem_insertionSort _).mp (List.mem_of_mem_take among)
  have shown : ∀ row ∈ newest inbox limit, ReadAs (rowLine row) (.row (inboxRow row)) :=
    fun row among => readAs_rowLine (fits.2 row (inInbox row among)) (rows row among)
  have one : ∀ line ∈ printedLines inbox limit, OneLine line := by
    intro line among
    rw [printedLines, List.mem_append, List.mem_append] at among
    rcases among with (isCount | isDevice) | isRow
    · obtain ⟨group, isGroup, rfl⟩ := List.mem_map.mp isCount
      exact (counts group isGroup).one
    · obtain ⟨group, isGroup, rfl⟩ := List.mem_map.mp isDevice
      exact (devices group isGroup).one
    · obtain ⟨row, isShown, rfl⟩ := List.mem_map.mp isRow
      exact (shown row isShown).one
  have entries : readLines readEntry (containerOutput inbox limit) =
      (((statusGroups inbox).map fun group => Entry.count group.1 group.2) ++
        ((deviceGroups inbox).map deviceAgg).map Entry.device ++
        ((newest inbox limit).map inboxRow).map Entry.row).map some := by
    rw [readLines, containerOutput, splitLines_flatMap one, printedLines, List.filterMap_append,
      List.filterMap_append, filterMap_readAs counts, filterMap_readAs devices,
      filterMap_readAs shown, List.map_append, List.map_append, List.map_map, List.map_map,
      List.map_map, List.map_map, List.map_map, List.map_map, List.map_map]
    rfl
  have kept := rows_foldl_setCount (statusGroups inbox) {}
  rw [readViaContainer, parseContainerOutput, readLines_universalNewlines rfl, entries,
    mapM_id_map_some, Option.map_some, List.foldl_append, List.foldl_append, foldl_put_row,
    foldl_put_device, List.foldl_map]
  simp only [InboxView.put, kept.1, kept.2, List.nil_append, InboxView.withTotal, readDirect]

/-- The two views are one exactly if the rows that are shown are plain, and with them the devices
and the last dates of all. -/
theorem readViaContainer_eq_iff {inbox : RecordInbox} (fits : Fits inbox) (limit : Int) :
    readViaContainer inbox limit = some (readDirect inbox limit) ↔
      (∀ row ∈ newest inbox limit, PlainRow (inboxRow row)) ∧ PlainDevices inbox := by
  constructor
  · intro same
    have plain := plainView_of_parse (not_mem_newlinesFrom false _) same
    refine ⟨fun row among => plain.rows _ (List.mem_map_of_mem among), ?_⟩
    refine plain_deviceGroups_iff.mp fun group among => ?_
    have agg := plain.devices _ (List.mem_map_of_mem among)
    exact ⟨plain_of_plain_deviceName agg.1, agg.2⟩
  · rintro ⟨rows, devices⟩
    exact readViaContainer_of_plain fits rows (plain_deviceGroups_iff.mpr devices)

/-- A record as it is received, with this first station. -/
def receivedRow (staNo1 : String) : RecordInboxEvent where
  eventId := "9a160dca1e"
  mkDate := "20260925120000"
  staNo1 := staNo1
  staNo2 := "200"
  staNo3 := "300"
  t1Status := 3
  deviceId := some "zero2"
  status := .received
  receivedAtIso := "2026-09-25T03:00:00+00:00"
  sentAtIso := none
  mkDateCommitted := none
  retryCount := 0
  nextRetryAtIso := none
  lastError := none

def inboxOf (row : RecordInboxEvent) : RecordInbox := ⟨[row], List.nodup_singleton _⟩

theorem readViaContainer_eq_iff_received :
    readViaContainer (inboxOf (receivedRow "100")) 30 =
      some (readDirect (inboxOf (receivedRow "100")) 30) := by
  have fits : Fits (inboxOf (receivedRow "100")) := ⟨by decide, by decide⟩
  refine (readViaContainer_eq_iff fits 30).mpr ⟨fun row among => ?_, fun row among => ?_⟩
  · rw [List.mem_singleton.mp (show row ∈ [receivedRow "100"] from among)]
    constructor <;> decide
  · rw [List.mem_singleton.mp (show row ∈ [receivedRow "100"] from among)]
    exact ⟨by decide, fun _ => by decide⟩

/-- A station with a tab in it takes its row away. -/
theorem readViaContainer_ne_tab :
    (readViaContainer (inboxOf (receivedRow "100\t1")) 30).map InboxView.rows = some [] ∧
      readViaContainer (inboxOf (receivedRow "100\t1")) 30 ≠
        some (readDirect (inboxOf (receivedRow "100\t1")) 30) := by
  decide +kernel

end PresenceLogger.Monitor
