import PresenceLogger.Library.JsonPieces
import PresenceLogger.Library.TextFile

/-!
# The MQTT log

`MqttFileLog` appends what the children send as lines of JSON and takes the records out
again that have been confirmed.  The lines keep all characters above the control
characters, but are split again wherever `str.splitlines` finds a break.
-/

namespace PresenceLogger.Bridge.MqttFileLog

open Library JsonCodec

/-- What Python contributes: how deep containers may stand in one another, and `str` of
floats and containers. -/
structure LogEnv (F : Type) where
  depth : Nat
  render : Value F → Chars

/-- A call of `write`, the time it takes and whether the handler's stream fails. -/
structure LogCall where
  ts : String
  kind : String
  deviceId : String
  payload : String
  fails : Bool := false

/-- Which steps of `drop_records` meet an `OSError`. -/
structure LogDisk where
  readFails : Bool := false
  writeFails : Bool := false
  replaceFails : Bool := false

section

variable {F : Type} [FloatText F]

/-- `bool(data)` -/
def truthy : Value F → Bool
  | .null => false
  | .bool value => value
  | .int value => value ≠ 0
  | .float value => !FloatText.isZero value
  | .str chars => chars ≠ some []
  | .arr items => !items.isEmpty
  | .obj fields => !fields.isEmpty

variable (env : LogEnv F)

/-- `str(data)` -/
def pyStr : Value F → Chars
  | .null => some "None".toList
  | .bool value => some (if value then "True" else "False").toList
  | .int value => Text.strOfInt value
  | .str chars => chars
  | data => env.render data

/-- `data.get(key)`, with `None` for a key that is missing. -/
def getField (fields : List (Chars × Value F)) (key : String) : Value F :=
  (fields.lookup (some key.toList)).getD .null

/-! ## Writing -/

/-- The payload as it is logged; nothing where reading it raises. -/
def payloadBody (payload : String) : Option (Value F) :=
  let text := Text.strip payload.toList
  if text = [] then some (.str (some []))
  else
    match loads env.depth text with
    | .ok body => some body
    | .error .decodeError => some (.str (some text))
    | .error .other => none

def logRow (call : LogCall) (body : Value F) : Value F :=
  .obj [(some "ts".toList, .str (some call.ts.toList)),
    (some "kind".toList, .str (some call.kind.toList)),
    (some "device_id".toList, .str (some call.deviceId.toList)),
    (some "payload".toList, body)]

/-- The line of a call; nothing where making it raises, or it has no UTF-8 form. -/
def logLine (call : LogCall) : Option (List Char) :=
  (payloadBody env call.payload).bind fun body => dumps env.depth (logRow call body)

/-- `MqttFileLog.write` -/
def write (file : List Char) (call : LogCall) : List Char :=
  if call.fails then file
  else
    match logLine env call with
    | some line => file ++ (line ++ ['\n'])
    | none => file

/-! ## Dropping -/

/-- The event id of a payload is among these. -/
def hasEventId (ids : List String) (payload : Value F) : Bool :=
  match payload with
  | .obj fields =>
      let eventId := getField fields "event_id"
      truthy eventId && ids.any fun id => pyStr env eventId = some id.toList
  | _ => false

/-- A row of kind record whose payload has an event id among these. -/
def isConfirmed (ids : List String) (row : Value F) : Bool :=
  match row with
  | .obj fields =>
      match getField fields "kind" with
      | .str (some kind) => kind = "record".toList && hasEventId env ids (getField fields "payload")
      | _ => false
  | _ => false

/-- The lines that are kept and the number of those that are not; nothing where reading a
line raises what is not caught. -/
def filterLines (ids : List String) : List (List Char) → Option (List (List Char) × Nat)
  | [] => some ([], 0)
  | line :: lines =>
      let text := Text.strip line
      if text = [] then filterLines ids lines
      else
        match loads env.depth text with
        | .error .other => none
        | .error .decodeError => (filterLines ids lines).map fun rest => (line :: rest.1, rest.2)
        | .ok row =>
            if isConfirmed env ids row then
              (filterLines ids lines).map fun rest => (rest.1, rest.2 + 1)
            else (filterLines ids lines).map fun rest => (line :: rest.1, rest.2)

/-- `filter_out_confirmed_records` -/
def filterOutConfirmedRecords (lines : List (List Char)) (ids : List String) :
    Option (List (List Char) × Nat) :=
  if ids = [] then some (lines, 0) else filterLines env ids lines

/-- `"\n".join(kept) + ("\n" if kept else "")` -/
def joinLines (kept : List (List Char)) : List Char :=
  ['\n'].intercalate kept ++ (if kept = [] then [] else ['\n'])

/-- `MqttFileLog.drop_records`: the file after it and what it returns, unless it raises. -/
def dropRecords (ids : List String) (disk : LogDisk) (file : List Char) :
    List Char × Option Nat :=
  if ids = [] then (file, some 0)
  else if disk.readFails then (file, some 0)
  else
    match filterOutConfirmedRecords env (Text.splitLines (Text.universalNewlines file)) ids with
    | none => (file, none)
    | some (kept, dropped) =>
        if dropped = 0 then (file, some 0)
        else if disk.writeFails || disk.replaceFails then (file, some 0)
        else (joinLines kept, some dropped)

/-! ## What was written -/

/-- The calls that write a line, with their lines. -/
def written (calls : List LogCall) : List (LogCall × List Char) :=
  calls.filterMap fun call =>
    if call.fails then none else (logLine env call).map fun line => (call, line)

/-- The id is one of these: a text that is not empty, or what `str` makes of another value
that is not false. -/
def isAmong (ids : List String) : Value F → Bool
  | .null | .str none => false
  | .str (some id) => id ≠ [] && ids.any fun other => id = other.toList
  | other => truthy other && ids.any fun id => pyStr env other = some id.toList

/-- The payload is an object whose event id is one of these. -/
def namesEvent (ids : List String) : Value F → Bool
  | .obj fields => (fields.lookup (some "event_id".toList)).any (isAmong env ids)
  | _ => false

/-- The call is of kind record and its payload has an event id among these. -/
def LogCall.confirms (call : LogCall) (ids : List String) : Bool :=
  call.kind = "record" && (payloadBody env call.payload).any (namesEvent env ids)

/-- Lines with their ends. -/
def fileOf (lines : List (List Char)) : List Char := lines.flatMap fun line => line ++ ['\n']

/-- Exactly the lines of confirmed records go, and their number is returned; a failure
leaves the file as it is. -/
def ReclaimsExactly (calls : List LogCall) (ids : List String) : Prop :=
  let file := calls.foldl (write env) []
  let kept := (written env calls).filter fun entry => !entry.1.confirms env ids
  ∀ disk : LogDisk,
    if disk.readFails || disk.writeFails || disk.replaceFails then
      (dropRecords env ids disk file).1 = file
    else
      dropRecords env ids disk file =
        (fileOf (kept.map Prod.snd),
          some ((written env calls).countP fun entry => entry.1.confirms env ids))

/-- Some piece of a line makes reading raise what is not caught. -/
def Raises (line : List Char) : Prop :=
  ∃ piece ∈ Text.splitLines line, loads env.depth (Text.strip piece) =
    (.error .other : Except Fault (Value F))

/-! ## One line -/

variable {env}

theorem unique_of_payloadBody {payload : String} {body : Value F}
    (isBody : payloadBody env payload = some body) : body.Unique := by
  simp only [payloadBody] at isBody
  split at isBody
  · cases isBody
    exact .str _
  · split at isBody
    next loaded =>
      cases isBody
      exact unique_of_loads loaded
    · cases isBody
      exact .str _
    · cases isBody

omit [FloatText F] in
theorem unique_logRow (call : LogCall) {body : Value F} (unique : body.Unique) :
    (logRow call body).Unique := by
  refine .obj ?_ ?_
  · rw [show (List.map Prod.fst _) = ["ts", "kind", "device_id", "payload"].map
      fun key => some key.toList from rfl]
    decide
  · simp only [List.forall_mem_cons, List.not_mem_nil, false_imp_iff, implies_true, and_true]
    exact ⟨.str _, .str _, .str _, unique⟩

theorem hasEventId_eq_namesEvent (ids : List String) (payload : Value F) :
    hasEventId env ids payload = namesEvent env ids payload := by
  have ofValue (value : Value F) :
      (truthy value && ids.any fun id => pyStr env value = some id.toList) =
        isAmong env ids value := by
    cases value with
    | str chars =>
        cases chars with
        | none => simp [isAmong, pyStr]
        | some id => simp [isAmong, pyStr, truthy]
    | _ => rfl
  cases payload with
  | obj fields =>
      change (truthy (getField fields "event_id") && ids.any fun id =>
        pyStr env (getField fields "event_id") = some id.toList) = _
      rw [ofValue, getField, namesEvent]
      cases fields.lookup (some "event_id".toList) <;> rfl
  | _ => rfl

/-- What the fields of a row are. -/
theorem isConfirmed_logRow (ids : List String) (call : LogCall) (body : Value F) :
    isConfirmed env ids (logRow call body) =
      (call.kind = "record" && namesEvent env ids body) := by
  have ofKind (fields : List (Chars × Value F))
      (isKind : getField fields "kind" = .str (some call.kind.toList))
      (isPayload : getField fields "payload" = body) :
      isConfirmed env ids (.obj fields) = (call.kind = "record" && namesEvent env ids body) := by
    rw [isConfirmed, isKind, isPayload, hasEventId_eq_namesEvent]
    simp only [String.toList_inj]
  exact ofKind _ rfl rfl

/-- A written line, by what it is read as again. -/
structure Reads (env : LogEnv F) (call : LogCall) (line : List Char) : Prop where
  loaded : ∃ body, payloadBody env call.payload = some body ∧
    loads env.depth line = .ok (logRow call body)
  printed : ∀ char ∈ line, 32 ≤ char.toNat
  braces : ∃ inner, line = '{' :: (inner ++ ['}'])

theorem reads_of_logLine {call : LogCall} {line : List Char}
    (isLine : logLine env call = some line) : Reads env call line where
  loaded := by
    obtain ⟨body, isBody, dumped⟩ := Option.bind_eq_some_iff.mp isLine
    exact ⟨body, isBody, loads_dumps (unique_logRow call (unique_of_payloadBody isBody)) dumped⟩
  printed := by
    obtain ⟨body, isBody, dumped⟩ := Option.bind_eq_some_iff.mp isLine
    exact Mode.printed_of_run (Mode.run_dumps dumped)
  braces := by
    obtain ⟨body, isBody, dumped⟩ := Option.bind_eq_some_iff.mp isLine
    cases isDepth : env.depth with
    | zero =>
        rw [isDepth] at dumped
        cases dumped
    | succ depth =>
        rw [isDepth] at dumped
        obtain ⟨texts, -, rfl⟩ := Option.map_eq_some_iff.mp dumped
        exact ⟨_, rfl⟩

/-! ## The pieces of the lines -/

theorem filterLines_append (ids : List String) (left right : List (List Char)) :
    filterLines env ids (left ++ right) =
      match filterLines env ids left, filterLines env ids right with
      | some (kept, dropped), some (others, more) => some (kept ++ others, dropped + more)
      | _, _ => none := by
  induction left with
  | nil =>
      rw [List.nil_append, filterLines]
      cases filterLines env ids right with
      | none => rfl
      | some rest => simp
  | cons line left ih =>
      simp only [List.cons_append, filterLines]
      split
      · exact ih
      · split
        · rfl
        · rw [ih]
          cases filterLines env ids left with
          | none => rfl
          | some first => cases filterLines env ids right <;> rfl
        · split
          · rw [ih]
            cases filterLines env ids left with
            | none => rfl
            | some first =>
                cases filterLines env ids right with
                | none => rfl
                | some rest => simp [Nat.add_right_comm]
          · rw [ih]
            cases filterLines env ids left with
            | none => rfl
            | some first => cases filterLines env ids right <;> rfl

theorem filterLines_append_eq_some {ids : List String} {left right kept : List (List Char)}
    {dropped : Nat} :
    filterLines env ids (left ++ right) = some (kept, dropped) ↔
      ∃ first others less more, filterLines env ids left = some (first, less) ∧
        filterLines env ids right = some (others, more) ∧ kept = first ++ others ∧
        dropped = less + more := by
  rw [filterLines_append]
  cases filterLines env ids left with
  | none => simp
  | some first =>
      cases filterLines env ids right with
      | none => simp
      | some others =>
          obtain ⟨firstKept, less⟩ := first
          obtain ⟨otherKept, more⟩ := others
          constructor
          · intro filtered
            cases filtered
            exact ⟨_, _, _, _, rfl, rfl, rfl, rfl⟩
          · rintro ⟨_, _, _, _, ⟨⟩, ⟨⟩, rfl, rfl⟩
            rfl

theorem filterLines_append_eq_none {ids : List String} {left right : List (List Char)} :
    filterLines env ids (left ++ right) = none ↔
      filterLines env ids left = none ∨ filterLines env ids right = none := by
  rw [filterLines_append]
  cases filterLines env ids left with
  | none => simp
  | some first => cases filterLines env ids right <;> simp

/-- What becomes of one line. -/
theorem filterLines_singleton (ids : List String) (line : List Char) :
    filterLines env ids [line] =
      if Text.strip line = [] then some ([], 0)
      else
        match loads env.depth (Text.strip line) with
        | .error .other => none
        | .error .decodeError => some ([line], 0)
        | .ok row => if isConfirmed env ids row then some ([], 1) else some ([line], 0) := by
  rw [filterLines]
  split
  · rfl
  · split
    · rfl
    · rfl
    · split
      · rfl
      · rfl

/-- Filtering raises if and only if reading some line does. -/
theorem filterLines_eq_none_iff {ids : List String} {lines : List (List Char)} :
    filterLines env ids lines = none ↔ ∃ line ∈ lines,
      loads env.depth (Text.strip line) = (.error .other : Except Fault (Value F)) := by
  induction lines with
  | nil => simp [filterLines]
  | cons line lines ih =>
      have blank : loads env.depth [] = (.error .decodeError : Except Fault (Value F)) := rfl
      have here : filterLines env ids [line] = none ↔
          loads env.depth (Text.strip line) = (.error .other : Except Fault (Value F)) := by
        rw [filterLines_singleton]
        split
        next isBlank => simp [isBlank, blank]
        · split
          next raised => simp [raised]
          next failed => simp [failed]
          next row read =>
            rw [read]
            split <;> simp
      rw [← List.singleton_append, filterLines_append_eq_none, here, ih]
      simp

/-- What is kept are lines as they were. -/
theorem kept_subset {ids : List String} {lines kept : List (List Char)} {dropped : Nat}
    (filtered : filterLines env ids lines = some (kept, dropped)) : kept ⊆ lines := by
  induction lines generalizing kept dropped with
  | nil =>
      cases filtered
      exact List.Subset.refl _
  | cons line lines ih =>
      rw [← List.singleton_append, filterLines_append_eq_some] at filtered
      obtain ⟨first, others, less, more, isFirst, isOthers, rfl, -⟩ := filtered
      have here : first ⊆ [line] := by
        rw [filterLines_singleton] at isFirst
        split at isFirst
        · cases isFirst
          exact List.nil_subset _
        · split at isFirst
          · cases isFirst
          · cases isFirst
            exact List.Subset.refl _
          · split at isFirst
            · cases isFirst
              exact List.nil_subset _
            · cases isFirst
              exact List.Subset.refl _
      have isHead : [line] ⊆ line :: lines := List.cons_subset_cons _ (List.nil_subset _)
      exact List.append_subset.mpr ⟨List.Subset.trans here isHead,
        List.Subset.trans (ih isOthers) (List.subset_cons_self _ _)⟩

/-- Nothing is dropped where no line is read as a confirmed record. -/
theorem dropped_eq_zero {ids : List String} {lines kept : List (List Char)} {dropped : Nat}
    (filtered : filterLines env ids lines = some (kept, dropped))
    (unconfirmed : ∀ line ∈ lines, ∀ row, loads env.depth (Text.strip line) = .ok row →
      isConfirmed env ids row = false) : dropped = 0 := by
  induction lines generalizing kept dropped with
  | nil =>
      cases filtered
      rfl
  | cons line lines ih =>
      rw [← List.singleton_append, filterLines_append_eq_some] at filtered
      obtain ⟨first, others, less, more, isFirst, isOthers, -, rfl⟩ := filtered
      have here : less = 0 := by
        rw [filterLines_singleton] at isFirst
        split at isFirst
        · cases isFirst
          rfl
        · split at isFirst
          · cases isFirst
          · cases isFirst
            rfl
          next row read =>
            rw [unconfirmed line (.head _) row read, if_neg Bool.false_ne_true] at isFirst
            cases isFirst
            rfl
      rw [here, ih isOthers fun other among => unconfirmed other (.tail _ among)]

/-- A line without breaks is dropped if its call is confirmed, and kept else. -/
theorem filterLines_line {call : LogCall} {line : List Char}
    (isLine : logLine env call = some line) (one : Text.OneLine line) (ids : List String) :
    filterLines env ids (Text.splitLines line) =
      some (if call.confirms env ids then ([], 1) else ([line], 0)) := by
  have reads := reads_of_logLine isLine
  obtain ⟨body, isBody, loaded⟩ := reads.loaded
  obtain ⟨inner, isLine⟩ := reads.braces
  have present : line ≠ [] := isLine ▸ List.cons_ne_nil _ _
  have stripped : Text.strip line = line := by
    apply Text.Trimmed.stripBy_eq
    constructor
    · intro char isFirst
      rw [isLine] at isFirst
      cases isFirst
      decide
    · intro char isLast
      rw [isLine, ← List.cons_append, List.getLast?_concat] at isLast
      cases isLast
      decide
  rw [Text.splitLines_eq_singleton one present, filterLines_singleton, stripped, if_neg present,
    loaded]
  simp only [isConfirmed_logRow, LogCall.confirms, isBody, Option.any_some]
  split
  · rfl
  · rfl

/-- No piece of a line with breaks is dropped. -/
theorem dropped_of_broken {call : LogCall} {line : List Char}
    (isLine : logLine env call = some line) (broken : ¬Text.OneLine line) {ids : List String}
    {kept : List (List Char)} {dropped : Nat}
    (filtered : filterLines env ids (Text.splitLines line) = some (kept, dropped)) :
    dropped = 0 := by
  obtain ⟨body, -, dumped⟩ := Option.bind_eq_some_iff.mp isLine
  apply dropped_eq_zero filtered
  intro piece among row loaded
  cases row with
  | obj fields =>
      have keys := keys_of_piece dumped broken among loaded
      have noKind : fields.lookup (some "kind".toList) = none := by
        rw [List.lookup_eq_none_iff]
        intro field inFields
        obtain ⟨chars, isKey, alphabet⟩ := keys field inFields
        rw [bne_iff_ne, isKey]
        intro same
        have first : 'k' ∈ chars := Option.some.inj same ▸ .head _
        exact absurd (alphabet 'k' first) (by decide)
      rw [isConfirmed, getField, noKind]
      rfl
  | _ => rfl

theorem written_spec {calls : List LogCall} {entry : LogCall × List Char}
    (among : entry ∈ written env calls) : logLine env entry.1 = some entry.2 := by
  obtain ⟨call, -, writes⟩ := List.mem_filterMap.mp among
  split at writes
  · cases writes
  · obtain ⟨line, isLine, rfl⟩ := Option.map_eq_some_iff.mp writes
    exact isLine

/-- The pieces of all lines. -/
def pieces (entries : List (LogCall × List Char)) : List (List Char) :=
  entries.flatMap fun entry => Text.splitLines entry.2

/-- What is dropped are the confirmed lines without breaks. -/
theorem dropped_eq_countP {ids : List String} {entries : List (LogCall × List Char)}
    (lines : ∀ entry ∈ entries, logLine env entry.1 = some entry.2) {kept : List (List Char)}
    {dropped : Nat} (filtered : filterLines env ids (pieces entries) = some (kept, dropped)) :
    dropped = entries.countP fun entry =>
      decide (Text.OneLine entry.2) && entry.1.confirms env ids := by
  induction entries generalizing kept dropped with
  | nil =>
      cases filtered
      rfl
  | cons entry entries ih =>
      rw [pieces, List.flatMap_cons, filterLines_append_eq_some] at filtered
      obtain ⟨first, others, less, more, isFirst, isOthers, -, rfl⟩ := filtered
      have isLine := lines entry (.head _)
      rw [List.countP_cons, ← ih (fun other among => lines other (.tail _ among)) isOthers,
        Nat.add_comm]
      by_cases one : Text.OneLine entry.2
      · rw [filterLines_line isLine one] at isFirst
        split at isFirst <;> cases isFirst <;> simp [*]
      · simp [one, dropped_of_broken isLine one isFirst]

/-- Without breaks exactly the confirmed lines are dropped. -/
theorem filterLines_oneLine {ids : List String} {entries : List (LogCall × List Char)}
    (lines : ∀ entry ∈ entries, logLine env entry.1 = some entry.2)
    (one : ∀ entry ∈ entries, Text.OneLine entry.2) :
    filterLines env ids (pieces entries) =
      some ((entries.filter fun entry => !entry.1.confirms env ids).map Prod.snd,
        entries.countP fun entry => entry.1.confirms env ids) := by
  induction entries with
  | nil => rfl
  | cons entry entries ih =>
      have later := ih (fun other among => lines other (.tail _ among))
        fun other among => one other (.tail _ among)
      rw [pieces, List.flatMap_cons, filterLines_append,
        filterLines_line (lines entry (.head _)) (one entry (.head _))]
      rw [pieces] at later
      rw [later]
      by_cases confirmed : entry.1.confirms env ids = true
      · simp [confirmed, Nat.add_comm]
      · simp [confirmed]

/-! ## The file -/

theorem foldl_write (calls : List LogCall) (file : List Char) :
    calls.foldl (write env) file = file ++ fileOf ((written env calls).map Prod.snd) := by
  induction calls generalizing file with
  | nil => simp [written, fileOf]
  | cons call calls ih =>
      have first : written env (call :: calls) =
          (if call.fails then none else (logLine env call).map fun line => (call, line)).toList ++
            written env calls := by
        rw [written, List.filterMap_cons]
        split
        next nothing => rw [nothing]; rfl
        next entry isEntry => rw [isEntry]; rfl
      rw [List.foldl_cons, ih, write, first]
      split
      · rfl
      · cases isLine : logLine env call with
        | none => rfl
        | some line => simp [fileOf]

theorem joinLines_eq (kept : List (List Char)) : joinLines kept = fileOf kept := by
  induction kept with
  | nil => rfl
  | cons line kept ih =>
      by_cases last : kept = []
      · simp [last, joinLines, fileOf]
      · rw [joinLines, if_neg last] at ih
        rw [joinLines, if_neg (List.cons_ne_nil _ _), List.intercalate_cons_of_ne_nil last,
          List.append_assoc, ih]
        simp [fileOf]

/-- The file is split into the pieces of its lines. -/
theorem splitLines_fileOf {entries : List (LogCall × List Char)}
    (lines : ∀ entry ∈ entries, logLine env entry.1 = some entry.2) :
    Text.splitLines (Text.universalNewlines (fileOf (entries.map Prod.snd))) = pieces entries := by
  have printed : ∀ entry ∈ entries, '\r' ∉ entry.2 := fun entry among member =>
    absurd ((reads_of_logLine (lines entry among)).printed _ member) (by decide)
  have noReturn : '\r' ∉ fileOf (entries.map Prod.snd) := by
    intro member
    obtain ⟨line, isLine, inLine⟩ := List.mem_flatMap.mp member
    obtain ⟨entry, among, rfl⟩ := List.mem_map.mp isLine
    rcases List.mem_append.mp inLine with back | feed
    · exact printed entry among back
    · exact absurd (List.mem_singleton.mp feed) (by decide)
  have same : Text.universalNewlines (fileOf (entries.map Prod.snd)) =
      fileOf (entries.map Prod.snd) := by
    have plain := Text.newlinesFrom_plain noReturn []
    rwa [List.append_nil, Text.newlinesFrom, List.append_nil] at plain
  rw [same]
  clear noReturn same
  induction entries with
  | nil => rfl
  | cons entry entries ih =>
      obtain ⟨inner, isLine⟩ := (reads_of_logLine (lines entry (.head _))).braces
      have later := ih (fun other among => lines other (.tail _ among))
        fun other among => printed other (.tail _ among)
      have present : entry.2 ≠ [] := isLine ▸ List.cons_ne_nil _ _
      have ended : ∀ char ∈ entry.2.getLast?, Text.isLineBreak char = false := by
        intro char isLast
        rw [isLine, ← List.cons_append, List.getLast?_concat] at isLast
        cases isLast
        decide
      have split := Text.splitLines_append_feed present (printed entry (.head _)) ended
        (fileOf (entries.map Prod.snd))
      rw [later] at split
      rw [pieces, List.flatMap_cons, ← pieces, ← split]
      simp [fileOf]

/-- What `drop_records` does to the file of a sequence of calls. -/
theorem dropRecords_file (calls : List LogCall) {ids : List String} (some_ : ids ≠ [])
    (disk : LogDisk) (reads : disk.readFails = false) :
    dropRecords env ids disk (calls.foldl (write env) []) =
      match filterLines env ids (pieces (written env calls)) with
      | none => (calls.foldl (write env) [], none)
      | some (kept, dropped) =>
          if dropped = 0 then (calls.foldl (write env) [], some 0)
          else if disk.writeFails || disk.replaceFails then (calls.foldl (write env) [], some 0)
          else (fileOf kept, some dropped) := by
  have file := @foldl_write F _ env calls []
  rw [List.nil_append] at file
  rw [dropRecords, if_neg some_, reads, if_neg Bool.false_ne_true, filterOutConfirmedRecords,
    if_neg some_, file, splitLines_fileOf fun _ => written_spec]
  simp only [joinLines_eq]

/-- A failure leaves the file as it is. -/
theorem unchanged_of_fails {ids : List String} {disk : LogDisk} {file : List Char}
    (fails : (disk.readFails || disk.writeFails || disk.replaceFails) = true) :
    (dropRecords env ids disk file).1 = file := by
  rw [dropRecords]
  split
  · rfl
  · split
    · rfl
    next reads =>
      split
      · rfl
      · split
        · rfl
        · split
          · rfl
          next works => simp [reads, works] at fails

/-- Only the disk that works is left to look at. -/
theorem reclaimsExactly_iff_working {calls : List LogCall} {ids : List String} :
    ReclaimsExactly env calls ids ↔
      dropRecords env ids {} (calls.foldl (write env) []) =
        (fileOf (((written env calls).filter fun entry => !entry.1.confirms env ids).map Prod.snd),
          some ((written env calls).countP fun entry => entry.1.confirms env ids)) := by
  constructor
  · intro exactly
    exact exactly {}
  · intro working disk
    split
    next fails => exact unchanged_of_fails fails
    next works =>
      obtain ⟨reads, writes, replaces⟩ := disk
      simp only [Bool.or_eq_true, not_or, Bool.not_eq_true] at works
      obtain ⟨⟨rfl, rfl⟩, rfl⟩ := works
      exact working

/-- Where no call is confirmed, nothing is to be done. -/
theorem reclaims_nothing {calls : List LogCall} {ids : List String}
    (unconfirmed : ∀ entry ∈ written env calls, entry.1.confirms env ids = false) :
    ReclaimsExactly env calls ids ↔
      dropRecords env ids {} (calls.foldl (write env) []) =
        (calls.foldl (write env) [], some 0) := by
  have all : ((written env calls).filter fun entry => !entry.1.confirms env ids) =
      written env calls :=
    List.filter_eq_self.mpr fun entry among => by simp [unconfirmed entry among]
  have none : (written env calls).countP (fun entry => entry.1.confirms env ids) = 0 :=
    List.countP_eq_zero.mpr fun entry among => by simp [unconfirmed entry among]
  have file := @foldl_write F _ env calls []
  rw [reclaimsExactly_iff_working, all, none, file, List.nil_append]

theorem reclaimsExactly_of_oneLine {calls : List LogCall} {ids : List String} (some_ : ids ≠ [])
    (one : ∀ entry ∈ written env calls, Text.OneLine entry.2) : ReclaimsExactly env calls ids := by
  have written_lines : ∀ entry ∈ written env calls, logLine env entry.1 = some entry.2 :=
    fun _ => written_spec
  have filtered := @filterLines_oneLine F _ env ids (written env calls) written_lines one
  rw [reclaimsExactly_iff_working, dropRecords_file calls some_ {} rfl, filtered]
  dsimp only
  split
  next nothing =>
    have unconfirmed := List.countP_eq_zero.mp nothing
    have all : ((written env calls).filter fun entry => !entry.1.confirms env ids) =
        written env calls :=
      List.filter_eq_self.mpr fun entry among => by simpa using unconfirmed entry among
    rw [all, nothing, foldl_write, List.nil_append]
  · rfl

theorem oneLine_of_countP {ids : List String} {entries : List (LogCall × List Char)}
    (same : (entries.countP fun entry =>
        decide (Text.OneLine entry.2) && entry.1.confirms env ids) =
      entries.countP fun entry => entry.1.confirms env ids) :
    ∀ entry ∈ entries, entry.1.confirms env ids = true → Text.OneLine entry.2 := by
  intro entry among confirmed
  rw [List.countP_eq_length_filter, List.countP_eq_length_filter, ← List.filter_filter] at same
  have all := List.filter_sublist.eq_of_length same
  have inAll : entry ∈ entries.filter fun entry => entry.1.confirms env ids :=
    List.mem_filter.mpr ⟨among, confirmed⟩
  rw [← all] at inAll
  exact of_decide_eq_true (List.mem_filter.mp inAll).2

/-- No piece has a break in it, so none is in the file that is written back. -/
theorem oneLine_of_mem_fileOf {ids : List String} {entries : List (LogCall × List Char)}
    (lines : ∀ entry ∈ entries, logLine env entry.1 = some entry.2) {kept : List (List Char)}
    {dropped : Nat} (filtered : filterLines env ids (pieces entries) = some (kept, dropped)) :
    ∀ char ∈ fileOf kept, Text.isLineBreak char = false ∨ char = '\n' := by
  intro char member
  obtain ⟨piece, isKept, inPiece⟩ := List.mem_flatMap.mp member
  obtain ⟨entry, among, isPiece⟩ := List.mem_flatMap.mp (kept_subset filtered isKept)
  have noReturn : '\r' ∉ entry.2 := fun back =>
    absurd ((reads_of_logLine (lines entry among)).printed _ back) (by decide)
  rcases List.mem_append.mp inPiece with plain | feed
  · exact .inl ((Text.exists_of_mem_splitLines noReturn isPiece).1 char plain)
  · exact .inr (List.mem_singleton.mp feed)

/-- A line with breaks in a log whose records are reclaimed exactly: no call is
confirmed. -/
theorem unconfirmed_of_broken {calls : List LogCall} {ids : List String} (some_ : ids ≠ [])
    (exactly : ReclaimsExactly env calls ids) {broken : LogCall × List Char}
    (among : broken ∈ written env calls) (hasBreak : ¬Text.OneLine broken.2) :
    (∀ entry ∈ written env calls, entry.1.confirms env ids = false) ∧
      ∀ entry ∈ written env calls, ¬Raises env entry.2 := by
  rw [reclaimsExactly_iff_working, dropRecords_file calls some_ {} rfl] at exactly
  cases filtered : filterLines env ids (pieces (written env calls)) with
  | none =>
      rw [filtered] at exactly
      exact absurd (congrArg Prod.snd exactly).symm (Option.some_ne_none _)
  | some result =>
      obtain ⟨kept, dropped⟩ := result
      rw [filtered] at exactly
      have counted := dropped_eq_countP (fun _ => written_spec) filtered
      constructor
      · dsimp only at exactly
        split at exactly
        next nothing =>
          have none := Option.some.inj (congrArg Prod.snd exactly)
          intro entry inWritten
          simpa using List.countP_eq_zero.mp none.symm entry inWritten
        next dropsSome =>
          -- The broken line is neither dropped nor written back.
          have sameFile : fileOf kept = _ := congrArg Prod.fst exactly
          have sameCount := Option.some.inj (congrArg Prod.snd exactly)
          rw [counted] at sameCount
          cases confirmed : broken.1.confirms env ids with
          | true => exact absurd (oneLine_of_countP sameCount broken among confirmed) hasBreak
          | false =>
              have remains : broken ∈ (written env calls).filter fun entry =>
                  !entry.1.confirms env ids :=
                List.mem_filter.mpr ⟨among, by rw [confirmed]; rfl⟩
              have plain := oneLine_of_mem_fileOf (fun _ => written_spec) filtered
              rw [sameFile] at plain
              refine absurd (fun char member => ?_) hasBreak
              have inFile : char ∈ fileOf (((written env calls).filter fun entry =>
                  !entry.1.confirms env ids).map Prod.snd) :=
                List.mem_flatMap.mpr ⟨broken.2, List.mem_map_of_mem remains,
                  List.mem_append_left _ member⟩
              refine (plain char inFile).resolve_right fun feed => ?_
              have printed := (reads_of_logLine (written_spec among)).printed char member
              rw [feed] at printed
              exact absurd printed (by decide)
      · intro entry inWritten raises
        obtain ⟨piece, isPiece, raised⟩ := raises
        have none : filterLines env ids (pieces (written env calls)) = none :=
          filterLines_eq_none_iff.mpr
            ⟨piece, List.mem_flatMap.mpr ⟨entry, inWritten, isPiece⟩, raised⟩
        cases filtered.symm.trans none

/-- The confirmed records go, and nothing else does, if and only if no line of the file
has a break in it, or there is nothing to drop and no piece of a line makes reading
raise what is not caught. -/
theorem reclaimsExactly_iff (env : LogEnv F) (calls : List LogCall) (ids : List String) :
    ReclaimsExactly env calls ids ↔
      (∀ entry ∈ written env calls, Text.OneLine entry.2) ∨
        (∀ entry ∈ written env calls, entry.1.confirms env ids = false) ∧
          (ids = [] ∨ ∀ entry ∈ written env calls, ¬Raises env entry.2) := by
  by_cases empty : ids = []
  · have unconfirmed : ∀ entry ∈ written env calls, entry.1.confirms env ids = false := by
      intro entry _
      have noId : namesEvent env [] = fun _ => false := by
        funext payload
        rw [← hasEventId_eq_namesEvent]
        cases payload <;> simp [hasEventId]
      rw [empty, LogCall.confirms, noId]
      cases payloadBody env entry.1.payload <;> simp
    refine iff_of_true ((reclaims_nothing unconfirmed).mpr ?_) (.inr ⟨unconfirmed, .inl empty⟩)
    rw [dropRecords, if_pos empty]
  constructor
  · intro exactly
    by_cases one : ∀ entry ∈ written env calls, Text.OneLine entry.2
    · exact .inl one
    · simp only [not_forall] at one
      obtain ⟨broken, among, hasBreak⟩ := one
      have nothing := unconfirmed_of_broken empty exactly among hasBreak
      exact .inr ⟨nothing.1, .inr nothing.2⟩
  · rintro (one | ⟨unconfirmed, isEmpty | quiet⟩)
    · exact reclaimsExactly_of_oneLine empty one
    · exact absurd isEmpty empty
    · rw [reclaims_nothing unconfirmed, dropRecords_file calls empty {} rfl]
      cases filtered : filterLines env ids (pieces (written env calls)) with
      | none =>
          obtain ⟨piece, among, raised⟩ := filterLines_eq_none_iff.mp filtered
          obtain ⟨entry, inWritten, isPiece⟩ := List.mem_flatMap.mp among
          exact absurd ⟨piece, isPiece, raised⟩ (quiet entry inWritten)
      | some result =>
          have counted := dropped_eq_countP (fun _ => written_spec) filtered
          have nothing : result.2 = 0 := by
            rw [counted, List.countP_eq_zero]
            intro entry inWritten
            simp [unconfirmed entry inWritten]
          dsimp only
          rw [if_pos nothing]

end

namespace Site

/-- Floats for texts that have none but zero. -/
instance : FloatText Unit where
  read _ := ()
  write _ := "0.0".toList
  isZero _ := true
  read_write _ := rfl
  scan_write _ := .inr (by decide)
  alphabet _ := by decide

def env : LogEnv Unit where
  depth := 900
  render _ := none

def confirmed : LogCall where
  ts := "2026-07-01T09:00:00.000+09:00"
  kind := "record"
  deviceId := "zero2"
  payload := "\x7b\"event_id\": \"5f2a\"\x7d"

/-- A heartbeat with a line separator in its text. -/
def separated : LogCall where
  ts := "2026-07-01T09:00:15.000+09:00"
  kind := "heartbeat"
  deviceId := "zero2"
  payload := "on\u2028line"

theorem confirms_confirmed : confirmed.confirms env ["5f2a"] = true := by
  decide +kernel

theorem exists_line (call : LogCall) (works : call.fails = false)
    (isSome : (logLine env call).isSome = true) {calls : List LogCall} (among : call ∈ calls) :
    ∃ line, logLine env call = some line ∧ (call, line) ∈ written env calls := by
  obtain ⟨line, isLine⟩ := Option.isSome_iff_exists.mp isSome
  refine ⟨line, isLine, List.mem_filterMap.mpr ⟨call, among, ?_⟩⟩
  rw [works, isLine]
  rfl

end Site

/-- A heartbeat is cut in two when a record is reclaimed. -/
theorem not_reclaimsExactly_separated :
    ¬∀ (F : Type) [FloatText F] (env : LogEnv F) (calls : List LogCall) (ids : List String),
      ReclaimsExactly env calls ids := by
  intro always
  have exactly := always Unit Site.env [Site.confirmed, Site.separated] ["5f2a"]
  obtain ⟨line, -, inWritten⟩ := Site.exists_line Site.confirmed rfl (by decide +kernel)
    (.head [Site.separated])
  obtain ⟨broken, isBroken, brokenIn⟩ := Site.exists_line Site.separated rfl (by decide +kernel)
    (.tail Site.confirmed (.head []))
  have hasBreak : ¬Text.OneLine broken := by
    have breaks : (logLine Site.env Site.separated).any
        (fun line => decide (Text.OneLine line)) = false := by decide +kernel
    rw [isBroken] at breaks
    simpa using breaks
  have nothing := (unconfirmed_of_broken (List.cons_ne_nil _ _) exactly brokenIn hasBreak).1
  exact absurd (nothing _ inWritten) (by rw [Site.confirms_confirmed]; decide)

end PresenceLogger.Bridge.MqttFileLog
