import PresenceLogger.Child.CsvLine
import PresenceLogger.Library.TextFile
import PresenceLogger.Library.Threads
import PresenceLogger.Library.Utf8

/-!
# The sender of the web server

`_publish_lines` sends the lines of the log files that its state file does not count
as sent.  It runs on one thread at a time, because `do_send_logs` holds a lock; the
files grow meanwhile.  Every file operation and every publication is an action of its
own.
-/

namespace PresenceLogger.Child

open Library

/-! ## The state file -/

/-- The number of sent lines by file name. -/
abbrev SentLines := String → Option Int

/-- `int(v)`, where an entry that has no integer is passed over. -/
def readCount (value : Json) : Except PyError (Option Int) :=
  match value.toInt with
  | .ok count => .ok (some count)
  | .error .valueError | .error .typeError => .ok none
  | .error error => .error error

/-- The entries of `sent_lines`. -/
def readSentLines (fields : List (String × Json)) : Except PyError SentLines := do
  let counts ← fields.mapM fun entry => do
    let count ← readCount (Json.field fields entry.1)
    return (entry.1, count)
  return fun name => (counts.lookup name).join

/-- What `load_send_state` makes of the decoded file. -/
def readSendState (data : Json) : Except PyError SentLines := do
  let data := if data.truthy then data else .obj []
  let sentLines ← data.get "sent_lines"
  match if sentLines.truthy then sentLines else .obj [] with
  | .obj fields => readSentLines fields
  | _ => .error .attributeError

/-- `load_send_state`, of the file's decoded text if there is a file. -/
def loadSendState : Option Decoded → SentLines
  | some (.value data) =>
      match readSendState data with
      | .ok sent => sent
      | .error _ => fun _ => none
  | some .invalid | some .tooDeep | none => fun _ => none

/-- What `save_send_state` writes when these files exist. -/
def sendStateJson (existing : List String) (sent : SentLines) : Json :=
  .obj [("sent_lines",
    .obj (existing.filterMap fun name => (sent name).map fun count => (name, .int count)))]

/-- A text from which no count is read, such as that of a file that was cut short or
overwritten with something else. -/
structure Garbled where
  content : Decoded
  unread : ∀ name, loadSendState (some content) name = none

/-- How `save_send_state` leaves the file. -/
inductive SaveOutcome where
  /-- The file could not be opened. -/
  | unopened
  | garbled (text : Garbled)
  | written

def saveSendState (existing : List String) (sent : SentLines) (state : Option Decoded) :
    SaveOutcome → Option Decoded
  | .unopened => state
  | .garbled text => some text.content
  | .written => some (.value (sendStateJson existing sent))

/-! ## The log files -/

structure LogFile where
  name : String
  bytes : ByteArray

/-- The CSV files of `SEND_LOG_DIR`. -/
abbrev LogDir := Table LogFile LogFile.name

/-- The logger appends to a file or begins one. -/
def LogDir.append (files : LogDir) (name : String) (bytes : ByteArray) : LogDir :=
  files.upsert ⟨name, bytes⟩ (fun file => { file with bytes := file.bytes ++ bytes }) fun _ => rfl

/-- `sorted(glob.glob(...))`, which finds nothing in a directory it cannot list. -/
def LogDir.names (files : LogDir) (listed : Bool) : List String :=
  if listed then
    (files.select (fun _ => true) fun left right => left.name ≤ right.name).map LogFile.name
  else []

/-- `_read_complete_lines`, of the bytes that were read if the file could be read. -/
def readCompleteLines (bytes : Option ByteArray) : List (List Char) :=
  match bytes.bind Utf8.decode with
  | some content => Text.completeLines content
  | none => []

/-- `lines[start:]` -/
def sliceFrom {α : Type} (lines : List α) (start : Int) : List α :=
  if 0 ≤ start then lines.drop start.toNat else lines.drop (lines.length + start).toNat

/-! ## The routine -/

/-- `cfg` and the environment, as far as `_publish_lines` reads them. -/
structure PublishCall where
  /-- `paho.mqtt.client` can be imported. -/
  hasPaho : Bool
  host : String
  deviceId : String

/-- How the publication of one line ends. -/
inductive PublishOutcome where
  | confirmed
  /-- `is_published()` is false after the wait. -/
  | unconfirmed
  | raised (text : String)

/-- What an action reads of its environment. -/
structure WebInput where
  listed : Bool := true
  readable : Bool := true
  /-- The text of the exception of the client's creation or of `connect`. -/
  connectError : Option String := none
  publish : PublishOutcome := .confirmed
  save : SaveOutcome := .written

/-- The unsent lines of the files, by file name. -/
abbrev Targets := List (String × List (List Char))

/-- How far a run has come. -/
structure SendProgress where
  deviceId : String
  sent : SentLines
  sentCount : Nat := 0
  progressed : Bool := false

inductive WebPoint where
  | list (progress : SendProgress)
  | read (progress : SendProgress) (names : List String) (targets : Targets)
  | connect (progress : SendProgress) (targets : Targets)
  | publish (progress : SendProgress) (targets : Targets)
  | save (progress : SendProgress) (error : Option String)

inductive WebThread where
  | sender
  | logger
  deriving DecidableEq, Repr

inductive WebRoutine where
  | publishLines (call : PublishCall)
  | append (name : String) (bytes : ByteArray)

/-- The result of `_publish_lines`. -/
structure WebOutput where
  sentCount : Nat
  error : Option String
  deriving DecidableEq, Repr

/-- The directory, the state file, and the lines that the broker has confirmed: by file
name, by the number of lines sent of the file before, and by their text. -/
structure WebMemory where
  files : LogDir
  state : Option Decoded
  confirmed : List (String × Int × List Char)

abbrev WebOutcome := Outcome WebMemory WebPoint WebOutput

namespace WebSender

def goOn (memory : WebMemory) (point : WebPoint) : WebOutcome where
  memory := memory
  point := some point
  emits := []

def stop (memory : WebMemory) (sentCount : Nat) (error : Option String) : WebOutcome where
  memory := memory
  point := none
  emits := [⟨sentCount, error⟩]

/-- `state[name] = state.get(name, 0) + 1` -/
def advance (progress : SendProgress) (name : String) : SendProgress :=
  { progress with
    sent := Function.update progress.sent name (some ((progress.sent name).getD 0 + 1))
    progressed := true }

theorem sent_advance (progress : SendProgress) (name : String) :
    (advance progress name).sent =
      Function.update progress.sent name (some ((progress.sent name).getD 0 + 1)) := rfl

/-- The end of the `try` statement. -/
def finally_ (memory : WebMemory) (progress : SendProgress) (error : Option String) : WebOutcome :=
  if progress.progressed then goOn memory (.save progress error)
  else stop memory progress.sentCount error

/-- One turn of the loop over the files. -/
def readFile (memory : WebMemory) (progress : SendProgress) (name : String) (readable : Bool)
    (targets : Targets) : Targets :=
  let lines := readCompleteLines (if readable then (memory.files.get name).map (·.bytes) else none)
  let sent := (progress.sent name).getD 0
  if sent < lines.length then targets ++ [(name, sliceFrom lines sent)] else targets

/-- One turn of the loop over the lines of a file. -/
def publishLine (sha1 : String → String) (memory : WebMemory) (progress : SendProgress)
    (name : String) (line : List Char) (rest : Targets) (outcome : PublishOutcome) : WebOutcome :=
  match csvLineToRecord sha1 line progress.deviceId with
  | none => goOn memory (.publish (advance progress name) rest)
  | some _ =>
      match outcome with
      | .confirmed =>
          goOn
            { memory with
              confirmed := (name, (progress.sent name).getD 0, line) :: memory.confirmed }
            (.publish { advance progress name with sentCount := progress.sentCount + 1 } rest)
      | .unconfirmed =>
          finally_ memory progress (some ("MQTT送信に失敗しました（" ++ name ++ "）"))
      | .raised text => finally_ memory progress (some text)

def start (memory : WebMemory) : WebRoutine → WebOutcome
  | .publishLines call =>
      if call.hasPaho = false then
        stop memory 0 (some "paho-mqtt未インストール（pip install paho-mqtt を実行してください）")
      else if Text.strip call.host.toList = [] then
        stop memory 0 (some "送信先(ブローカー)IPが未設定です")
      else
        goOn memory (.list { deviceId := call.deviceId, sent := loadSendState memory.state })
  | .append name bytes =>
      { memory := { memory with files := memory.files.append name bytes }, point := none
        emits := [] }

def resume (sha1 : String → String) (memory : WebMemory) (point : WebPoint) (input : WebInput) :
    WebOutcome :=
  match point with
  | .list progress => goOn memory (.read progress (memory.files.names input.listed) [])
  | .read progress (name :: names) targets =>
      goOn memory
        (.read progress names (readFile memory progress name input.readable targets))
  | .read progress [] targets =>
      if targets = [] then stop memory 0 none else goOn memory (.connect progress targets)
  | .connect progress targets =>
      match input.connectError with
      | some text => stop memory 0 (some text)
      | none => goOn memory (.publish progress targets)
  | .publish progress [] => finally_ memory progress none
  | .publish progress ((_, []) :: targets) => goOn memory (.publish progress targets)
  | .publish progress ((name, line :: lines) :: targets) =>
      publishLine sha1 memory progress name line ((name, lines) :: targets) input.publish
  | .save progress error =>
      stop
        { memory with
          state :=
            saveSendState (memory.files.names input.listed) progress.sent memory.state input.save }
        progress.sentCount error

/-- The web server and the logger; a crash keeps the files and ends both. -/
def program (sha1 : String → String) :
    Program WebThread WebRoutine WebPoint WebMemory WebInput WebOutput Unit where
  thread
    | .publishLines _ => .sender
    | .append .. => .logger
  start := start
  resume := resume sha1
  ends _ _ := true
  restart memory _ := memory

end WebSender

/-! ## What is loaded -/

/-- Entries with integers are read as they are. -/
theorem count_of_readSentLines {fields : List (String × Json)} {sent loaded : SentLines}
    (counts : ∀ entry ∈ fields, ∃ count, entry.2 = .int count ∧ sent entry.1 = some count)
    (read : readSentLines fields = .ok loaded) {name : String} {count : Int}
    (isCount : loaded name = some count) : sent name = some count := by
  rcases ok_of_bind read with ⟨entries, isEntries, done⟩
  cases done
  rcases Option.join_eq_some_iff.mp isCount with found
  rcases List.lookup_eq_some_iff.mp found with ⟨before, after, split, -⟩
  have among : (name, some count) ∈ entries := by
    rw [split]
    exact List.mem_append_right _ (.head _)
  rcases exists_of_mem_mapM isEntries among with ⟨entry, isEntry, made⟩
  rcases ok_of_bind made with ⟨value, isValue, same⟩
  cases same
  have present := Json.field_mem (List.mem_map_of_mem (f := Prod.fst) isEntry)
  rcases counts _ present with ⟨stored, isInt, known⟩
  rw [show Json.field fields entry.1 = .int stored from isInt] at isValue
  cases isValue
  exact known

/-- A count that is loaded from a saved file was saved. -/
theorem count_of_loadSendState {existing : List String} {sent : SentLines} {name : String}
    {count : Int}
    (loaded : loadSendState (some (.value (sendStateJson existing sent))) name = some count) :
    sent name = some count := by
  let fields := existing.filterMap fun name => (sent name).map fun count => (name, Json.int count)
  have counts : ∀ entry ∈ fields, ∃ count, entry.2 = .int count ∧ sent entry.1 = some count := by
    intro entry among
    rcases List.mem_filterMap.mp among with ⟨file, -, made⟩
    rcases Option.map_eq_some_iff.mp made with ⟨stored, isStored, rfl⟩
    exact ⟨stored, rfl, isStored⟩
  have read : readSendState (sendStateJson existing sent) = readSentLines fields := by
    have unfolded : readSendState (sendStateJson existing sent) =
        match if (Json.obj fields).truthy then Json.obj fields else .obj [] with
        | .obj fields => readSentLines fields
        | _ => .error .attributeError := rfl
    have same : (if (Json.obj fields).truthy then Json.obj fields else .obj []) =
        .obj fields := by
      cases fields <;> rfl
    rw [unfolded, same]
  rw [loadSendState, read] at loaded
  cases outcome : readSentLines fields with
  | error error =>
      rw [outcome] at loaded
      cases loaded
  | ok sentLines =>
      rw [outcome] at loaded
      exact count_of_readSentLines counts outcome loaded

/-! ## Lines that stay where they are -/

/-- Whatever is appended, the file begins with these lines. -/
def Stable (bytes : ByteArray) (lines : List (List Char)) : Prop :=
  ∀ more text, Utf8.decode (bytes ++ more) = some text → lines <+: Text.completeLines text

theorem stable_nil (bytes : ByteArray) : Stable bytes [] := fun _ _ _ => List.nil_prefix

theorem Stable.append {bytes : ByteArray} {lines : List (List Char)} (stable : Stable bytes lines)
    (more : ByteArray) : Stable (bytes ++ more) lines := by
  intro later text decoded
  rw [ByteArray.append_assoc] at decoded
  exact stable _ text decoded

/-- What was read stays. -/
theorem stable_completeLines {bytes : ByteArray} {content : List Char}
    (decoded : Utf8.decode bytes = some content) : Stable bytes (Text.completeLines content) := by
  intro more text decodedLater
  exact Text.completeLines_prefix (Utf8.prefix_of_decode_append decoded decodedLater)

/-- A reading of the file begins with the lines that stay. -/
theorem Stable.prefix_of_decode {bytes : ByteArray} {lines : List (List Char)}
    (stable : Stable bytes lines) {content : List Char}
    (decoded : Utf8.decode bytes = some content) : lines <+: Text.completeLines content := by
  apply stable ByteArray.empty
  rwa [ByteArray.append_empty]

/-! ## No line is skipped -/

/-- A line that neither reader takes for a record. -/
def NoRecord (line : List Char) : Prop :=
  ∀ (sha1 : String → String) deviceId, csvLineToRecord sha1 line deviceId = none

theorem noRecord_of_eq_none {sha1 : String → String} {line : List Char} {deviceId : String}
    (rejected : csvLineToRecord sha1 line deviceId = none) : NoRecord line := by
  intro digest other
  have same := csvLineToRecord_isSome digest sha1 line other deviceId
  rw [rejected] at same
  exact Option.not_isSome_iff_eq_none.mp (by rw [same]; exact Bool.false_ne_true)

namespace WebMemory

variable (memory : WebMemory)

/-- The line is no record, or its publication was confirmed. -/
def Settled (name : String) (position : Nat) (line : List Char) : Prop :=
  (name, (position : Int), line) ∈ memory.confirmed ∨ NoRecord line

/-- The file begins with this many settled lines and goes on with `lines`. -/
def Follows (name : String) (count : Int) (lines : List (List Char)) : Prop :=
  ∃ file settled, memory.files.get name = some file ∧ Stable file.bytes (settled ++ lines) ∧
    count = settled.length ∧
    ∀ position line, settled[position]? = some line → memory.Settled name position line

/-- Every count is one of settled lines. -/
def Justified (sent : SentLines) : Prop :=
  ∀ name count, sent name = some count → memory.Follows name count []

/-- What is still to be sent follows what has been sent, and each file is sent once. -/
def Queued (sent : SentLines) (names : List String) (targets : Targets) : Prop :=
  (targets.map Prod.fst ++ names).Nodup ∧
    ∀ target ∈ targets, memory.Follows target.1 ((sent target.1).getD 0) target.2

end WebMemory

section Growth

variable {memory later : WebMemory}

/-- Nothing that was there is lost. -/
structure WebMemory.Grows (memory later : WebMemory) : Prop where
  files : ∀ name file, memory.files.get name = some file →
    ∃ more, later.files.get name = some { file with bytes := file.bytes ++ more }
  confirmed : memory.confirmed ⊆ later.confirmed

theorem WebMemory.Grows.settled (grows : memory.Grows later) {name : String} {position : Nat}
    {line : List Char} (settled : memory.Settled name position line) :
    later.Settled name position line :=
  settled.imp_left fun known => grows.confirmed known

theorem WebMemory.Grows.follows (grows : memory.Grows later) {name : String} {count : Int}
    {lines : List (List Char)} (follows : memory.Follows name count lines) :
    later.Follows name count lines := by
  rcases follows with ⟨file, settled, found, stable, isCount, each⟩
  rcases grows.files name file found with ⟨more, grown⟩
  exact ⟨_, settled, grown, stable.append more, isCount,
    fun position line isLine => grows.settled (each position line isLine)⟩

theorem WebMemory.Grows.justified (grows : memory.Grows later) {sent : SentLines}
    (justified : memory.Justified sent) : later.Justified sent :=
  fun name count isCount => grows.follows (justified name count isCount)

theorem WebMemory.Grows.queued (grows : memory.Grows later) {sent : SentLines}
    {names : List String} {targets : Targets} (queued : memory.Queued sent names targets) :
    later.Queued sent names targets :=
  ⟨queued.1, fun target among => grows.follows (queued.2 target among)⟩

theorem get_append (files : LogDir) (name other : String) (bytes : ByteArray) :
    (files.append name bytes).get other =
      if name = other then
        some ((files.get other).elim ⟨name, bytes⟩ fun file =>
          { file with bytes := file.bytes ++ bytes })
      else files.get other :=
  Table.get_upsert ..

theorem grows_append (memory : WebMemory) (name : String) (bytes : ByteArray) :
    memory.Grows { memory with files := memory.files.append name bytes } where
  files other file found := by
    rw [get_append]
    split
    · rw [found]
      exact ⟨bytes, rfl⟩
    · refine ⟨ByteArray.empty, ?_⟩
      rw [found, ByteArray.append_empty]
  confirmed := List.Subset.refl _

theorem grows_of_same (files : memory.files = later.files)
    (confirmed : memory.confirmed ⊆ later.confirmed) : memory.Grows later where
  files name file found := by
    refine ⟨ByteArray.empty, ?_⟩
    rw [← files, found, ByteArray.append_empty]
  confirmed := confirmed

end Growth

/-! ### Reading a file -/

section Reading

variable {memory : WebMemory} {sent : SentLines}

theorem Stable.of_prefix {bytes : ByteArray} {lines more : List (List Char)}
    (stable : Stable bytes (lines ++ more)) : Stable bytes lines :=
  fun later text decoded => (List.prefix_append lines more).trans (stable later text decoded)

theorem WebMemory.Follows.cut {name : String} {count : Int} {lines : List (List Char)}
    (follows : memory.Follows name count lines) : memory.Follows name count [] := by
  rcases follows with ⟨file, settled, found, stable, isCount, each⟩
  refine ⟨file, settled, found, ?_, isCount, each⟩
  rw [List.append_nil]
  exact stable.of_prefix

/-- The count of a file, or zero, is that of settled lines. -/
theorem WebMemory.Justified.getD (justified : memory.Justified sent) {name : String}
    {file : LogFile} (found : memory.files.get name = some file) :
    memory.Follows name ((sent name).getD 0) [] := by
  cases isCount : sent name with
  | none =>
      refine ⟨file, [], found, stable_nil _, rfl, ?_⟩
      intro position line isLine
      cases isLine
  | some count => exact justified name count isCount

theorem WebMemory.Justified.nonneg (justified : memory.Justified sent) (name : String) :
    0 ≤ (sent name).getD 0 := by
  cases isCount : sent name with
  | none => exact Int.le_refl 0
  | some count =>
      rcases justified name count isCount with ⟨_, settled, -, -, length, -⟩
      rw [Option.getD_some, length]
      exact Int.natCast_nonneg _

/-- Either nothing was read, or the complete lines of the decoded file. -/
theorem readCompleteLines_cases (bytes : Option ByteArray) :
    readCompleteLines bytes = [] ∨
      ∃ read content, bytes = some read ∧ Utf8.decode read = some content ∧
        readCompleteLines bytes = Text.completeLines content := by
  cases decoded : bytes.bind Utf8.decode with
  | none =>
      left
      rw [readCompleteLines.eq_def, decoded]
  | some content =>
      rcases Option.bind_eq_some_iff.mp decoded with ⟨read, rfl, isContent⟩
      exact .inr ⟨read, content, rfl, isContent, by rw [readCompleteLines.eq_def, decoded]⟩

theorem queued_readFile {progress : SendProgress} (justified : memory.Justified progress.sent)
    {name : String} {names : List String} {targets : Targets}
    (queued : memory.Queued progress.sent (name :: names) targets) (readable : Bool) :
    memory.Queued progress.sent names
      (WebSender.readFile memory progress name readable targets) := by
  have nonneg := justified.nonneg name
  have found : ∀ bytes, (if readable then (memory.files.get name).map (·.bytes) else none) =
      some bytes → ∃ file, memory.files.get name = some file ∧ file.bytes = bytes := by
    intro bytes isBytes
    split at isBytes
    · exact Option.map_eq_some_iff.mp isBytes
    · cases isBytes
  rw [WebSender.readFile]
  generalize (if readable then (memory.files.get name).map (·.bytes) else none) = read at found
  split
  next unsent =>
    rcases readCompleteLines_cases read with empty | ⟨bytes, content, isRead, decoded, isLines⟩
    · rw [empty, List.length_nil] at unsent
      omega
    · rcases found bytes isRead with ⟨file, isFile, rfl⟩
      rcases justified.getD isFile with ⟨other, settled, foundAgain, stable, isCount, each⟩
      cases isFile.symm.trans foundAgain
      rw [List.append_nil] at stable
      rcases stable.prefix_of_decode decoded with ⟨rest, isRest⟩
      have isSlice : sliceFrom (Text.completeLines content) ((progress.sent name).getD 0) =
          rest := by
        rw [sliceFrom, if_pos nonneg, isCount, ← isRest, Int.toNat_natCast, List.drop_left]
      rw [isLines, isSlice]
      constructor
      · have nodup := queued.1
        rwa [List.map_append, List.append_assoc]
      · intro target among
        rcases List.mem_append.mp among with before | last
        · exact queued.2 target before
        · rw [List.mem_singleton.mp last]
          refine ⟨file, settled, isFile, ?_, isCount, each⟩
          rw [isRest]
          exact stable_completeLines decoded
  · refine ⟨?_, queued.2⟩
    exact queued.1.sublist (List.Sublist.append_left (List.sublist_cons_self name names) _)

end Reading

/-! ### Publishing a line -/

section Publishing

variable {memory later : WebMemory} {progress : SendProgress} {name : String} {line : List Char}
  {lines : List (List Char)}

/-- One settled line more. -/
theorem WebMemory.Follows.advance (grows : memory.Grows later) {count : Int}
    (follows : memory.Follows name count (line :: lines))
    (settles : ∀ position : Nat, count = position → later.Settled name position line) :
    later.Follows name (count + 1) lines := by
  rcases grows.follows follows with ⟨file, settled, found, stable, isCount, each⟩
  refine ⟨file, settled ++ [line], found, ?_, ?_, ?_⟩
  · rwa [List.append_assoc, List.singleton_append]
  · rw [List.length_append, isCount]
    rfl
  · intro position other isLine
    rcases Nat.lt_or_ge position settled.length with before | last
    · rw [List.getElem?_append_left before] at isLine
      exact each position other isLine
    · rw [List.getElem?_append_right last] at isLine
      rcases List.getElem?_eq_some_iff.mp isLine with ⟨bound, isOther⟩
      have here : position = settled.length := by
        rw [List.length_singleton] at bound
        omega
      subst here
      simp only [Nat.sub_self, List.getElem_cons_zero] at isOther
      rw [← isOther]
      exact settles _ isCount

/-- The counter moves past a line once the line is settled. -/
theorem sending_advance (grows : memory.Grows later) {rest : Targets}
    (justified : memory.Justified progress.sent)
    (queued : memory.Queued progress.sent [] ((name, line :: lines) :: rest))
    (settles : ∀ position : Nat, (progress.sent name).getD 0 = position →
      later.Settled name position line) :
    later.Justified (WebSender.advance progress name).sent ∧
      later.Queued (WebSender.advance progress name).sent [] ((name, lines) :: rest) := by
  have follows := (queued.2 _ (.head _)).advance grows settles
  have alone : ∀ target ∈ rest, target.1 ≠ name := by
    intro target among same
    have nodup := queued.1
    rw [List.append_nil, List.map_cons, List.nodup_cons] at nodup
    exact nodup.1 (List.mem_map.mpr ⟨target, among, same⟩)
  refine ⟨?_, queued.1, ?_⟩
  · intro other count isCount
    rw [WebSender.sent_advance, Function.update_apply] at isCount
    split at isCount
    next here =>
      rw [here, ← Option.some.inj isCount]
      exact follows.cut
    · exact grows.follows (justified other count isCount)
  · intro target among
    rcases List.mem_cons.mp among with rfl | inRest
    · rw [WebSender.sent_advance, Function.update_self]
      exact follows
    · rw [WebSender.sent_advance, Function.update_of_ne (alone target inRest)]
      exact grows.follows (queued.2 target (.tail _ inRest))

end Publishing

/-! ### Every action -/

namespace WebSender

/-- What the sender relies on at each of its points. -/
def Knows (memory : WebMemory) : WebPoint → Prop
  | .list progress | .save progress _ => memory.Justified progress.sent
  | .read progress names targets =>
      memory.Justified progress.sent ∧ memory.Queued progress.sent names targets
  | .connect progress targets | .publish progress targets =>
      memory.Justified progress.sent ∧ memory.Queued progress.sent [] targets

def assertions : Program.Assertions WebThread WebPoint WebMemory where
  always memory := memory.Justified (loadSendState memory.state)
  knows _ point memory := Knows memory point

theorem knows_grows {memory later : WebMemory} (grows : memory.Grows later) {point : WebPoint}
    (knows : Knows memory point) : Knows later point := by
  cases point with
  | list progress => exact grows.justified knows
  | save progress error => exact grows.justified knows
  | read progress names targets => exact ⟨grows.justified knows.1, grows.queued knows.2⟩
  | connect progress targets => exact ⟨grows.justified knows.1, grows.queued knows.2⟩
  | publish progress targets => exact ⟨grows.justified knows.1, grows.queued knows.2⟩

/-- An action loses nothing, leaves the counts justified, and goes on with what it knows. -/
structure Safe (memory : WebMemory) (outcome : WebOutcome) : Prop where
  grows : memory.Grows outcome.memory
  justified : outcome.memory.Justified (loadSendState outcome.memory.state)
  knows : ∀ point ∈ outcome.point, Knows outcome.memory point

section Safe

variable {memory : WebMemory}

theorem grows_self (memory : WebMemory) : memory.Grows memory :=
  grows_of_same rfl (List.Subset.refl _)

theorem safe_goOn (always : memory.Justified (loadSendState memory.state)) {point : WebPoint}
    (knows : Knows memory point) : Safe memory (goOn memory point) where
  grows := grows_self memory
  justified := always
  knows other follows := by
    rw [← Option.some.inj follows]
    exact knows

theorem safe_stop (always : memory.Justified (loadSendState memory.state)) (sentCount : Nat)
    (error : Option String) : Safe memory (stop memory sentCount error) where
  grows := grows_self memory
  justified := always
  knows other follows := by cases follows

theorem safe_finally (always : memory.Justified (loadSendState memory.state))
    {progress : SendProgress} (justified : memory.Justified progress.sent)
    (error : Option String) : Safe memory (finally_ memory progress error) := by
  rw [finally_]
  split
  · exact safe_goOn always justified
  · exact safe_stop always _ _

theorem justified_saveSendState (always : memory.Justified (loadSendState memory.state))
    {sent : SentLines} (justified : memory.Justified sent) (existing : List String)
    (outcome : SaveOutcome) :
    memory.Justified (loadSendState (saveSendState existing sent memory.state outcome)) := by
  cases outcome with
  | unopened => exact always
  | garbled text =>
      intro name count isCount
      cases (text.unread name).symm.trans isCount
  | written =>
      intro name count isCount
      exact justified name count (count_of_loadSendState isCount)

theorem nodup_names (files : LogDir) (listed : Bool) : (files.names listed).Nodup := by
  rw [LogDir.names]
  split
  · exact files.nodup_map_select _ _
  · exact List.nodup_nil

theorem safe_publishLine (always : memory.Justified (loadSendState memory.state))
    {sha1 : String → String} {progress : SendProgress} {name : String} {line : List Char}
    {lines : List (List Char)} {rest : Targets} (justified : memory.Justified progress.sent)
    (queued : memory.Queued progress.sent [] ((name, line :: lines) :: rest))
    (outcome : PublishOutcome) :
    Safe memory (publishLine sha1 memory progress name line ((name, lines) :: rest) outcome) := by
  rw [publishLine.eq_def]
  split
  next rejected =>
    apply safe_goOn always
    apply sending_advance (grows_self memory) justified queued
    exact fun _ _ => .inr (noRecord_of_eq_none rejected)
  · cases outcome with
    | confirmed =>
        have grows : memory.Grows { memory with
            confirmed := (name, (progress.sent name).getD 0, line) :: memory.confirmed } :=
          grows_of_same rfl (List.subset_cons_self _ _)
        exact {
          grows := grows
          justified := grows.justified always
          knows := by
            intro point follows
            rw [← Option.some.inj follows]
            apply sending_advance grows justified queued
            intro position here
            left
            rw [← here]
            exact List.mem_cons_self }
    | unconfirmed => exact safe_finally always justified _
    | raised text => exact safe_finally always justified _

theorem safe_start (always : memory.Justified (loadSendState memory.state))
    (routine : WebRoutine) : Safe memory (start memory routine) := by
  cases routine with
  | publishLines call =>
      rw [start]
      split
      · exact safe_stop always _ _
      · split
        · exact safe_stop always _ _
        · exact safe_goOn always always
  | append name bytes =>
      exact {
        grows := grows_append memory name bytes
        justified := (grows_append memory name bytes).justified always
        knows := fun _ follows => by cases follows }

theorem safe_resume (always : memory.Justified (loadSendState memory.state))
    {point : WebPoint} (knows : Knows memory point) (sha1 : String → String) (input : WebInput) :
    Safe memory (resume sha1 memory point input) := by
  cases point with
  | list progress =>
      apply safe_goOn always
      refine ⟨knows, ?_, fun _ among => absurd among List.not_mem_nil⟩
      exact nodup_names memory.files input.listed
  | read progress names targets =>
      rcases knows with ⟨justified, queued⟩
      cases names with
      | nil =>
          rw [resume]
          split
          · exact safe_stop always _ _
          · exact safe_goOn always ⟨justified, queued⟩
      | cons name names =>
          exact safe_goOn always ⟨justified, queued_readFile justified queued _⟩
  | connect progress targets =>
      rw [resume]
      split
      · exact safe_stop always _ _
      · exact safe_goOn always knows
  | publish progress targets =>
      rcases knows with ⟨justified, queued⟩
      rcases targets with - | ⟨⟨name, - | ⟨line, lines⟩⟩, targets⟩
      · exact safe_finally always justified none
      · apply safe_goOn always
        rw [WebMemory.Queued, List.map_cons, List.cons_append, List.nodup_cons] at queued
        exact ⟨justified, queued.1.2, fun target among => queued.2 target (.tail _ among)⟩
      · exact safe_publishLine always justified queued input.publish
  | save progress error =>
      exact {
        grows := grows_of_same rfl (List.Subset.refl _)
        justified := justified_saveSendState always knows _ _
        knows := fun _ follows => by cases follows }

end Safe

/-- What the sender knows holds whatever the logger does. -/
def outline (sha1 : String → String) : (program sha1).Outline fun _ _ => True where
  toAssertions := assertions
  own state step thread outcome holds _ acts := by
    cases acts with
    | call routine free =>
        have safe := safe_start holds.1 routine
        exact ⟨safe.justified, safe.knows⟩
    | resume thread input point stands =>
        have safe := safe_resume holds.1 (holds.2 thread point stands) sha1 input
        exact ⟨safe.justified, safe.knows⟩
  other state step thread outcome holds _ acts := by
    intro bystander point _ stands
    have known := holds.2 bystander point stands
    cases acts with
    | call routine free => exact knows_grows (safe_start holds.1 routine).grows known
    | resume thread input other here =>
        exact knows_grows (safe_resume holds.1 (holds.2 thread other here) sha1 input).grows known
  crash state which holds _ := by
    refine ⟨holds.1, ?_⟩
    intro thread point alive
    cases alive

end WebSender

end PresenceLogger.Child
