import PresenceLogger.Child.AckSession
import PresenceLogger.Child.CsvLine
import PresenceLogger.Library.Run
import PresenceLogger.Library.TextFile

/-!
# From the outbox to the archive

One cycle of `deliver_file` and `archive_to_destination` for a file, and another
process that appends complete lines to it between any two steps.  The file is found
complete by comparing two stats around the scan, and moved some steps later.
-/

namespace PresenceLogger.Child

open Library

/-! ## Files -/

/-- The name of a file as `Path.stem` and `Path.suffix`. -/
structure FileName where
  stem : String
  suffix : String

namespace FileName

def text (name : FileName) : String := name.stem ++ name.suffix

def numbered (name : FileName) (n : Nat) : String :=
  name.stem ++ "." ++ toString n ++ name.suffix

/-- The first number from `n` on whose name is free. -/
def freeNumber (name : FileName) (taken : List String) : Nat → Nat → Nat
  | 0, n => n
  | fuel + 1, n =>
      if name.numbered n ∈ taken then name.freeNumber taken fuel (n + 1) else n

/-- `_choose_target` -/
def chooseTarget (name : FileName) (taken : List String) : String :=
  if name.text ∈ taken then name.numbered (name.freeNumber taken taken.length 1) else name.text

theorem freeNumber_spec (name : FileName) (taken : List String) (fuel n : Nat) :
    name.numbered (name.freeNumber taken fuel n) ∉ taken ∨
      ∀ k < fuel, name.numbered (n + k) ∈ taken := by
  induction fuel generalizing n with
  | zero => exact .inr fun k few => absurd few (Nat.not_lt_zero k)
  | succ fuel ih =>
      rw [freeNumber]
      split
      next used =>
        rcases ih (n + 1) with free | used'
        · exact .inl free
        · right
          intro k few
          cases k with
          | zero => exact used
          | succ k =>
              have later := used' k (Nat.lt_of_succ_lt_succ few)
              rwa [Nat.add_assoc, Nat.add_comm 1] at later
      next free => exact .inl free

/-- The numbers before the free one are taken. -/
theorem mem_of_lt_freeNumber (name : FileName) (taken : List String) (fuel n k : Nat)
    (first : n ≤ k) (before : k < name.freeNumber taken fuel n) : name.numbered k ∈ taken := by
  induction fuel generalizing n with
  | zero => exact absurd before (Nat.not_lt.mpr first)
  | succ fuel ih =>
      rw [freeNumber] at before
      split at before
      next used =>
        rcases Nat.eq_or_lt_of_le first with rfl | later
        · exact used
        · exact ih (n + 1) later before
      next => exact absurd before (Nat.not_lt.mpr first)

theorem le_freeNumber (name : FileName) (taken : List String) (fuel n : Nat) :
    n ≤ name.freeNumber taken fuel n := by
  induction fuel generalizing n with
  | zero => exact Nat.le_refl n
  | succ fuel ih =>
      rw [freeNumber]
      split
      · exact Nat.le_of_succ_le (ih (n + 1))
      · exact Nat.le_refl n

theorem numbered_injective (name : FileName) : Function.Injective name.numbered := by
  intro left right same
  have sameText : left.repr = right.repr :=
    (String.append_right_inj _).mp ((String.append_left_inj _).mp same)
  have digits := congrArg (fun text => Nat.ofDigitChars 10 text.toList 0) sameText
  simpa only [Nat.toList_repr, Nat.ofDigitChars_ten_toDigits] using digits

theorem numbered_ne_text (name : FileName) (n : Nat) : name.numbered n ≠ name.text := by
  intro same
  have longer := congrArg (fun text => text.toList.length) same
  simp only [numbered, text, String.toList_append, List.length_append] at longer
  have dot : ".".toList.length = 1 := rfl
  omega

/-- No file is overwritten. -/
theorem chooseTarget_not_mem (name : FileName) (taken : List String) :
    name.chooseTarget taken ∉ taken := by
  rw [chooseTarget]
  split
  next used =>
    rcases name.freeNumber_spec taken taken.length 1 with free | all
    · exact free
    · -- One name more than there are files would be taken.
      have distinct : (name.text :: (List.range taken.length).map fun k =>
          name.numbered (1 + k)).Nodup := by
        refine List.nodup_cons.mpr ⟨?_, ?_⟩
        · intro member
          rcases List.mem_map.mp member with ⟨k, -, same⟩
          exact name.numbered_ne_text (1 + k) same
        · refine List.nodup_range.map fun left right same => ?_
          have sameNumber := name.numbered_injective same
          omega
      have among : (name.text :: (List.range taken.length).map fun k =>
          name.numbered (1 + k)) ⊆ taken := by
        refine List.cons_subset.mpr ⟨used, fun candidate member => ?_⟩
        rcases List.mem_map.mp member with ⟨k, few, rfl⟩
        exact all k (List.mem_range.mp few)
      have many := (List.subperm_of_subset distinct among).length_le
      simp only [List.length_cons, List.length_map, List.length_range] at many
      omega
  next free => exact free

end FileName

structure FileStat where
  size : Nat
  mtimeNs : Int
  deriving DecidableEq

structure OutboxFile where
  text : List Char
  mtimeNs : Int

/-- The size in bytes of a text in UTF-8. -/
def byteSize (text : List Char) : Nat := (text.map Char.utf8Size).sum

def OutboxFile.stat (file : OutboxFile) : FileStat where
  size := byteSize file.text
  mtimeNs := file.mtimeNs

/-- What the other process writes at once. -/
structure Lines where
  text : List Char
  complete : Text.Complete text

def OutboxFile.append (file : OutboxFile) (lines : Lines) (mtimeNs : Int) : OutboxFile where
  text := file.text ++ lines.text
  mtimeNs := mtimeNs

/-! ## The scan -/

/-- A send of the scan, with what it returned. -/
structure LineSend where
  lineNo : Nat
  record : Record
  outcome : SendOutcome
  deriving DecidableEq

structure Scan where
  acked : Nat := 0
  invalid : Nat := 0
  pending : Nat := 0
  nacked : Nat := 0
  nackedRows : List (Nat × String) := []
  truncated : Bool := false
  returned : List LineSend := []

structure DeliveryResult where
  acked : Nat
  invalid : Nat
  pending : Nat
  nacked : Nat
  complete : Bool
  nackedRows : List (Nat × String)

/-- `parse_fn` of a line; it may raise. -/
abbrev ParseFn := List Char → Except PyError (Option Record)

/-- What a step of the cycle meets: how the sends of the lines end and when they
begin, the rows of the ledger, and whether the step raises. -/
structure CycleInput where
  sends : Nat → Except PyError SendOutcome
  elapsed : Nat → ℚ
  ledger : String → Option DeliveryRow
  raises : Bool := false

/-- What a send adds to the scan. -/
def Scan.add (scan : Scan) (lineNo : Nat) (rec : Record) (outcome : SendOutcome) : Scan :=
  let returned := scan.returned ++ [{ lineNo := lineNo, record := rec, outcome := outcome }]
  match outcome with
  | .acked => { scan with returned := returned, acked := scan.acked + 1 }
  | .nacked =>
      { scan with
        returned := returned
        nacked := scan.nacked + 1
        nackedRows := scan.nackedRows ++ [(lineNo, rec.eventId)] }
  | .pending => { scan with returned := returned, pending := scan.pending + 1 }

/-- An invalid line is counted, and a record is sent. -/
def Scan.sendParsed (scan : Scan) (input : CycleInput) (lineNo : Nat) :
    Option Record → Except PyError Scan
  | none => .ok { scan with invalid := scan.invalid + 1 }
  | some rec => do
      let outcome ← input.sends lineNo
      return scan.add lineNo rec outcome

/-- The body of the loop. -/
def scanLine (parse : ParseFn) (input : CycleInput) (lineNo : Nat) (raw : List Char)
    (scan : Scan) : Except PyError Scan :=
  if Text.strip raw = [] then .ok scan
  else do
    let parsed ← parse (Text.strip raw)
    scan.sendParsed input lineNo parsed

/-- The loop over the lines from number `lineNo` on. -/
def scanLines (parse : ParseFn) (maxSeconds : Option ℚ) (input : CycleInput) :
    Nat → List (List Char) → Scan → Except PyError Scan
  | _, [], scan => .ok scan
  | lineNo, raw :: rest, scan =>
      if maxSeconds.any (· < input.elapsed lineNo) then .ok { scan with truncated := true }
      else do
        let scan ← scanLine parse input lineNo raw scan
        scanLines parse maxSeconds input (lineNo + 1) rest scan

/-- The result of `deliver_file`, from the text that was read. -/
def Scan.result (scan : Scan) (text : List Char) (unchanged : Bool) : DeliveryResult where
  acked := scan.acked
  invalid := scan.invalid
  pending := scan.pending
  nacked := scan.nacked
  complete := !scan.truncated && (text = [] || text.getLast? = some '\n') && unchanged &&
    scan.invalid = 0 && scan.pending = 0
  nackedRows := scan.nackedRows

/-! ## The cycle -/

/-- Where the cycle stands, with its local values. -/
inductive CyclePoint where
  | begin
  | statted (before : FileStat)
  | read (before : FileStat) (text : List Char)
  | scanned (before : FileStat) (text : List Char) (scan : Scan)
  | delivered (result : DeliveryResult)
  | moving (result : DeliveryResult) (target : String)
  /-- Returned or raised. -/
  | ended

inductive Place where
  | outbox
  | sent (name : String)
  | nacked (name : String)
  deriving DecidableEq

/-- A line of a sidecar file. -/
structure SidecarRow where
  lineNo : Nat
  eventId : String
  mkDate : Option String
  reason : Option String
  failedAtIso : Option String

/-- The file of the cycle, wherever it is, a file created under its name since, and the
names and sidecars in the other directories. -/
structure OutboxState where
  name : FileName
  point : CyclePoint
  file : OutboxFile
  place : Place
  created : Option OutboxFile
  sentNames : List String
  nackedNames : List String
  sidecars : String → Option (List SidecarRow)
  returned : List LineSend

def sidecarRow (ledger : String → Option DeliveryRow) (entry : Nat × String) : SidecarRow where
  lineNo := entry.1
  eventId := entry.2
  mkDate := (ledger entry.2).map DeliveryRow.mkDate
  reason := (ledger entry.2).bind DeliveryRow.nackReason
  failedAtIso := (ledger entry.2).bind DeliveryRow.nackedAt

section Cycle

variable (parse : ParseFn) (maxSeconds : Option ℚ)

/-- One step of `deliver_file` and `archive_to_destination`. The scan works on the text
that was read, so no step of the other process can come between to any effect. -/
def OutboxState.deliver (state : OutboxState) (input : CycleInput) : OutboxState :=
  if input.raises then { state with point := .ended }
  else
    match state.point with
    | .begin => { state with point := .statted state.file.stat }
    | .statted before =>
        { state with point := .read before (Text.universalNewlines state.file.text) }
    | .read before text =>
        match scanLines parse maxSeconds input 1 (text.splitOn '\n').dropLast {} with
        | .error _ => { state with point := .ended }
        | .ok scan =>
            { state with
              point := .scanned before text scan
              returned := scan.returned }
    | .scanned before text scan =>
        { state with point := .delivered (scan.result text (before = state.file.stat)) }
    | .delivered result =>
        if result.complete = false then { state with point := .ended }
        else if result.nacked = 0 then
          { state with point := .moving result (state.name.chooseTarget state.sentNames) }
        else
          let target := state.name.chooseTarget state.nackedNames
          { state with
            point := .moving result target
            sidecars := Function.update state.sidecars target
              (some (result.nackedRows.map (sidecarRow input.ledger))) }
    | .moving result target =>
        { state with
          point := .ended
          place := if result.nacked = 0 then .sent target else .nacked target }
    | .ended => state

inductive OutboxEvent where
  | deliver (input : CycleInput)
  /-- The other process opens the path and appends. -/
  | append (lines : Lines) (mtimeNs : Int)
  /-- It writes to the file of the cycle, which it has opened before. -/
  | write (lines : Lines) (mtimeNs : Int)

def OutboxState.step (state : OutboxState) : OutboxEvent → OutboxState
  | .deliver input => state.deliver parse maxSeconds input
  | .append lines mtimeNs =>
      match state.place with
      | .outbox => { state with file := state.file.append lines mtimeNs }
      | .sent _ | .nacked _ =>
          { state with
            created := some ((state.created.getD ⟨[], mtimeNs⟩).append lines mtimeNs) }
  | .write lines mtimeNs => { state with file := state.file.append lines mtimeNs }

def outboxMachine : Machine OutboxState OutboxEvent Empty where
  step state event := (state.step parse maxSeconds event, [])

end Cycle

/-! ## What must not be lost -/

/-- Every non-blank line of the file is a valid record whose send returned one of these
outcomes. -/
def OutboxState.Accounted (parse : ParseFn) (state : OutboxState)
    (accepted : List SendOutcome) : Prop :=
  ∀ n line, (Text.lines state.file.text)[n]? = some line → Text.strip line ≠ [] →
    ∃ rec, parse (Text.strip line) = .ok (some rec) ∧
      ∃ outcome ∈ accepted, ⟨n + 1, rec, outcome⟩ ∈ state.returned

/-- The sidecar lists exactly the lines whose sends returned NACKED, in order. -/
def ListsNacked (returned : List LineSend) (rows : List SidecarRow) : Prop :=
  (rows.map SidecarRow.lineNo).Pairwise (· < ·) ∧
    ∀ lineNo, lineNo ∈ rows.map SidecarRow.lineNo ↔ ∃ rec, ⟨lineNo, rec, .nacked⟩ ∈ returned

/-- A file that has been moved has lost no row. -/
def OutboxState.NoRowLost (parse : ParseFn) (state : OutboxState) : Prop :=
  match state.place with
  | .outbox => True
  | .sent _ => state.Accounted parse [.acked]
  | .nacked target =>
      state.Accounted parse [.acked, .nacked] ∧
        ∃ rows, state.sidecars target = some rows ∧ ListsNacked state.returned rows

/-- The second stat has found the file complete, and the cycle has not failed since. -/
def OutboxState.Decided (state : OutboxState) : Prop :=
  match state.point with
  | .delivered result => result.complete = true
  | .moving _ _ => True
  | .ended => match state.place with
    | .outbox => False
    | .sent _ | .nacked _ => True
  | _ => False

def Blank (text : List Char) : Prop := ∀ char ∈ text, Text.isSpace char = true

/-- What is added to a file that was found complete is white space. -/
def OutboxState.AddsBlank (state : OutboxState) : OutboxEvent → Prop
  | .deliver _ => True
  | .append lines _ =>
      state.Decided → match state.place with
        | .outbox => Blank lines.text
        | .sent _ | .nacked _ => True
  | .write lines _ => state.Decided → Blank lines.text

/-! ## The scan accounts for each line -/

/-- What the scan knows of the lines it has passed. -/
structure Scanned (parse : ParseFn) (lines : List (List Char)) (scan : Scan) : Prop where
  each : scan.invalid = 0 → scan.pending = 0 → ∀ n line, lines[n]? = some line →
    Text.strip line ≠ [] → ∃ rec, parse (Text.strip line) = .ok (some rec) ∧
      ∃ outcome ∈ [SendOutcome.acked, .nacked], ⟨n + 1, rec, outcome⟩ ∈ scan.returned
  bound : ∀ send ∈ scan.returned, send.lineNo ≤ lines.length
  ordered : (scan.returned.map LineSend.lineNo).Pairwise (· < ·)
  rows : scan.nackedRows = (scan.returned.filter (·.outcome = .nacked)).map fun send =>
    (send.lineNo, send.record.eventId)
  nacked : scan.nacked = scan.nackedRows.length

@[simp] theorem Scan.returned_add (scan : Scan) (lineNo : Nat) (rec : Record)
    (outcome : SendOutcome) :
    (scan.add lineNo rec outcome).returned = scan.returned ++ [⟨lineNo, rec, outcome⟩] := by
  cases outcome <;> rfl

@[simp] theorem Scan.invalid_add (scan : Scan) (lineNo : Nat) (rec : Record)
    (outcome : SendOutcome) : (scan.add lineNo rec outcome).invalid = scan.invalid := by
  cases outcome <;> rfl

@[simp] theorem Scan.truncated_add (scan : Scan) (lineNo : Nat) (rec : Record)
    (outcome : SendOutcome) : (scan.add lineNo rec outcome).truncated = scan.truncated := by
  cases outcome <;> rfl

theorem Scan.pending_add (scan : Scan) (lineNo : Nat) (rec : Record) (outcome : SendOutcome) :
    (scan.add lineNo rec outcome).pending =
      scan.pending + if outcome = .pending then 1 else 0 := by
  cases outcome <;> rfl

theorem Scan.nacked_add (scan : Scan) (lineNo : Nat) (rec : Record) (outcome : SendOutcome) :
    (scan.add lineNo rec outcome).nacked = scan.nacked + if outcome = .nacked then 1 else 0 := by
  cases outcome <;> rfl

theorem Scan.nackedRows_add (scan : Scan) (lineNo : Nat) (rec : Record) (outcome : SendOutcome) :
    (scan.add lineNo rec outcome).nackedRows =
      scan.nackedRows ++ if outcome = .nacked then [(lineNo, rec.eventId)] else [] := by
  cases outcome <;> simp [add]

theorem Scanned.start (parse : ParseFn) : Scanned parse [] {} where
  each _ _ n line isLine := by cases isLine
  bound _ member := nomatch member
  ordered := List.Pairwise.nil
  rows := rfl
  nacked := rfl

section Scan

variable {parse : ParseFn} {lines : List (List Char)} {scan : Scan}

/-- The lines before are accounted for when nothing is taken back. -/
theorem Scanned.each_concat (scanned : Scanned parse lines scan) {raw : List Char} {next : Scan}
    (invalid : next.invalid = 0 → scan.invalid = 0)
    (pending : next.pending = 0 → scan.pending = 0)
    (kept : ∀ send ∈ scan.returned, send ∈ next.returned)
    (new : next.invalid = 0 → next.pending = 0 → Text.strip raw ≠ [] →
      ∃ rec, parse (Text.strip raw) = .ok (some rec) ∧
        ∃ outcome ∈ [SendOutcome.acked, .nacked],
          ⟨lines.length + 1, rec, outcome⟩ ∈ next.returned) :
    next.invalid = 0 → next.pending = 0 → ∀ n line, (lines ++ [raw])[n]? = some line →
      Text.strip line ≠ [] → ∃ rec, parse (Text.strip line) = .ok (some rec) ∧
        ∃ outcome ∈ [SendOutcome.acked, .nacked], ⟨n + 1, rec, outcome⟩ ∈ next.returned := by
  intro allValid noPending n line isLine notBlank
  rcases Nat.lt_trichotomy n lines.length with before | here | after
  · rw [List.getElem?_append_left before] at isLine
    rcases scanned.each (invalid allValid) (pending noPending) n line isLine notBlank with
      ⟨rec, parsed, outcome, accepted, member⟩
    exact ⟨rec, parsed, outcome, accepted, kept _ member⟩
  · subst here
    rw [List.getElem?_concat_length] at isLine
    cases isLine
    exact new allValid noPending notBlank
  · rw [List.getElem?_eq_none (by rw [List.length_append, List.length_singleton]; omega)] at isLine
    cases isLine

/-- A line that is not sent. -/
theorem Scanned.skip (scanned : Scanned parse lines scan) {raw : List Char} (invalid : Nat)
    (counted : invalid = scan.invalid ∧ Text.strip raw = [] ∨ invalid = scan.invalid + 1) :
    Scanned parse (lines ++ [raw]) { scan with invalid := invalid } where
  each := by
    apply scanned.each_concat
    · intro none
      dsimp only at none
      omega
    · exact id
    · exact fun _ member => member
    · intro none _ notBlank
      rcases counted with ⟨-, blank⟩ | more
      · exact absurd blank notBlank
      · dsimp only at none
        omega
  bound send member := by
    rw [List.length_append]
    exact Nat.le_add_right_of_le (scanned.bound send member)
  ordered := scanned.ordered
  rows := scanned.rows
  nacked := scanned.nacked

/-- A line that is sent. -/
theorem Scanned.add (scanned : Scanned parse lines scan) {raw : List Char} {rec : Record}
    (parsed : parse (Text.strip raw) = .ok (some rec)) (outcome : SendOutcome) :
    Scanned parse (lines ++ [raw]) (scan.add (lines.length + 1) rec outcome) where
  each := by
    apply scanned.each_concat
    · rw [Scan.invalid_add]
      exact id
    · rw [Scan.pending_add]
      omega
    · rw [Scan.returned_add]
      exact fun _ member => List.mem_append_left _ member
    · intro _ noPending _
      rw [Scan.pending_add] at noPending
      refine ⟨rec, parsed, outcome, ?_, ?_⟩
      · cases outcome with
        | pending => simp at noPending
        | _ => simp
      · rw [Scan.returned_add]
        exact List.mem_append_right _ (.head _)
  bound send member := by
    rw [Scan.returned_add] at member
    rw [List.length_append, List.length_singleton]
    rcases List.mem_append.mp member with before | last
    · exact Nat.le_succ_of_le (scanned.bound send before)
    · rw [List.mem_singleton.mp last]
  ordered := by
    rw [Scan.returned_add, List.map_append]
    refine List.pairwise_append.mpr ⟨scanned.ordered, List.pairwise_singleton _ _, ?_⟩
    intro before member last isLast
    rcases List.mem_map.mp member with ⟨send, among, rfl⟩
    rw [List.mem_singleton.mp isLast]
    exact Nat.lt_succ_of_le (scanned.bound send among)
  rows := by
    rw [Scan.returned_add, Scan.nackedRows_add, List.filter_append, List.map_append, scanned.rows]
    congr 1
    cases outcome <;> rfl
  nacked := by
    rw [Scan.nackedRows_add, Scan.nacked_add, List.length_append, scanned.nacked]
    cases outcome <;> rfl

theorem Scanned.line (scanned : Scanned parse lines scan) {input : CycleInput} {raw : List Char}
    {next : Scan} (passed : scanLine parse input (lines.length + 1) raw scan = .ok next) :
    Scanned parse (lines ++ [raw]) next := by
  rw [scanLine] at passed
  split at passed
  next blank =>
    cases passed
    exact scanned.skip scan.invalid (.inl ⟨rfl, blank⟩)
  next notBlank =>
    rcases ok_of_bind passed with ⟨record, parsed, sent⟩
    cases record with
    | none =>
        cases sent
        exact scanned.skip _ (.inr rfl)
    | some rec =>
        rcases ok_of_bind sent with ⟨outcome, -, added⟩
        cases added
        exact scanned.add parsed outcome

/-- A scan that is not cut short has passed all the lines. -/
theorem Scanned.run (scanned : Scanned parse lines scan) {maxSeconds : Option ℚ}
    {input : CycleInput} {rest : List (List Char)} {final : Scan}
    (passed : scanLines parse maxSeconds input (lines.length + 1) rest scan = .ok final)
    (whole : final.truncated = false) : Scanned parse (lines ++ rest) final := by
  induction rest generalizing lines scan with
  | nil =>
      cases passed
      rwa [List.append_nil]
  | cons raw rest ih =>
      rw [scanLines] at passed
      split at passed
      · cases passed
        cases whole
      · rcases ok_of_bind passed with ⟨next, isNext, passed⟩
        have later := ih (scanned.line isNext) (by rwa [List.length_append, List.length_singleton])
        rwa [List.append_assoc, List.singleton_append] at later

end Scan

/-! ## A complete scan -/

/-- The scan of a text that ends with its last line has sent every line for good. -/
structure Settles (parse : ParseFn) (raw : List Char) (scan : Scan) : Prop where
  ended : Text.universalNewlines raw = [] ∨ (Text.universalNewlines raw).getLast? = some '\n'
  scanned : Scanned parse (Text.completeLines raw) scan
  valid : scan.invalid = 0
  sent : scan.pending = 0

/-- The file is what a complete scan has read, and white space. -/
def OutboxState.Settled (parse : ParseFn) (state : OutboxState) (result : DeliveryResult) : Prop :=
  ∃ raw later scan, Settles parse raw scan ∧ state.file.text = raw ++ later ∧ Blank later ∧
    state.returned = scan.returned ∧ result.nacked = scan.nacked ∧
    result.nackedRows = scan.nackedRows

section Settled

variable {parse : ParseFn} {state : OutboxState} {result : DeliveryResult}

theorem accounted_of_settled (settled : state.Settled parse result) :
    state.Accounted parse [.acked, .nacked] := by
  rcases settled with ⟨raw, later, scan, settles, isText, blank, isReturned, -, -⟩
  rcases Text.exists_lines_append settles.ended later with ⟨rest, isLines, ofLater⟩
  intro n line isLine notBlank
  rw [isText, isLines] at isLine
  rcases Nat.lt_or_ge n (Text.completeLines raw).length with scannedLine | appended
  · rw [List.getElem?_append_left scannedLine] at isLine
    rw [isReturned]
    exact settles.scanned.each settles.valid settles.sent n line isLine notBlank
  · rw [List.getElem?_append_right appended] at isLine
    have inRest := List.mem_of_getElem? isLine
    exact absurd
      (Text.stripBy_eq_nil fun char member => blank char (ofLater line inRest char member))
      notBlank

/-- Without a NACKED row every line was ACKED. -/
theorem accounted_acked (settled : state.Settled parse result) (noNack : result.nacked = 0) :
    state.Accounted parse [.acked] := by
  intro n line isLine notBlank
  rcases accounted_of_settled settled n line isLine notBlank with
    ⟨rec, parsed, outcome, accepted, member⟩
  refine ⟨rec, parsed, .acked, .head _, ?_⟩
  rcases List.mem_pair.mp accepted with rfl | rfl
  · exact member
  · rcases settled with ⟨raw, later, scan, settles, -, -, isReturned, isNacked, -⟩
    have none := settles.scanned.nacked
    rw [← isNacked, noNack, settles.scanned.rows, List.length_map] at none
    have noRow := List.eq_nil_of_length_eq_zero none.symm
    rw [isReturned] at member
    exact absurd (List.mem_filter.mpr ⟨member, rfl⟩) (by rw [noRow]; exact List.not_mem_nil)

theorem listsNacked_of_settled (settled : state.Settled parse result)
    (ledger : String → Option DeliveryRow) :
    ListsNacked state.returned (result.nackedRows.map (sidecarRow ledger)) := by
  rcases settled with ⟨raw, later, scan, settles, -, -, isReturned, -, isRows⟩
  have lineNos : (result.nackedRows.map (sidecarRow ledger)).map SidecarRow.lineNo =
      (scan.returned.filter (·.outcome = .nacked)).map LineSend.lineNo := by
    rw [isRows, settles.scanned.rows, List.map_map, List.map_map]
    rfl
  rw [ListsNacked, lineNos, isReturned]
  constructor
  · exact settles.scanned.ordered.sublist (List.filter_sublist.map _)
  · intro lineNo
    simp only [List.mem_map, List.mem_filter, decide_eq_true_eq]
    constructor
    · rintro ⟨⟨_, rec, _⟩, ⟨member, rfl⟩, rfl⟩
      exact ⟨rec, member⟩
    · rintro ⟨rec, member⟩
      exact ⟨_, ⟨member, rfl⟩, rfl⟩

theorem OutboxState.Settled.append (settled : state.Settled parse result) {lines : Lines}
    (blank : Blank lines.text) (mtimeNs : Int) :
    OutboxState.Settled parse { state with file := state.file.append lines mtimeNs } result := by
  rcases settled with ⟨raw, later, scan, settles, isText, laterBlank, counted⟩
  refine ⟨raw, later ++ lines.text, scan, settles, ?_, ?_, counted⟩
  · rw [OutboxFile.append, isText, List.append_assoc]
  · intro char member
    rcases List.mem_append.mp member with before | new
    · exact laterBlank char before
    · exact blank char new

end Settled

/-! ## Every step of both processes -/

/-- What the cycle may rely on at each of its points. -/
def OutboxState.Inv (parse : ParseFn) (state : OutboxState) : Prop :=
  match state.point, state.place with
  | .begin, .outbox => True
  | .statted before, .outbox => before.size ≤ byteSize state.file.text
  | .read before text, .outbox =>
      ∃ raw later, text = Text.universalNewlines raw ∧ state.file.text = raw ++ later ∧
        before.size ≤ byteSize raw
  | .scanned before text scan, .outbox =>
      ∃ raw later, text = Text.universalNewlines raw ∧ state.file.text = raw ++ later ∧
        before.size ≤ byteSize raw ∧ state.returned = scan.returned ∧
        (scan.truncated = false → Scanned parse (Text.completeLines raw) scan)
  | .delivered result, .outbox => result.complete = true → state.Settled parse result
  | .moving result target, .outbox =>
      state.Settled parse result ∧ (result.nacked ≠ 0 → ∃ ledger,
        state.sidecars target = some (result.nackedRows.map (sidecarRow ledger)))
  | .ended, .outbox => True
  | .ended, .sent _ => ∃ result, state.Settled parse result ∧ result.nacked = 0
  | .ended, .nacked target =>
      ∃ result ledger, state.Settled parse result ∧
        state.sidecars target = some (result.nackedRows.map (sidecarRow ledger))
  | _, _ => False

section Steps

variable {parse : ParseFn} {maxSeconds : Option ℚ} {state : OutboxState}

theorem noRowLost_of_inv (inv : state.Inv parse) : state.NoRowLost parse := by
  rcases state with ⟨name, point, file, place, created, sentNames, nackedNames, sidecars, returned⟩
  cases place with
  | outbox => trivial
  | sent target =>
      cases point with
      | ended =>
          rcases inv with ⟨result, settled, noNack⟩
          exact accounted_acked settled noNack
      | _ => cases inv
  | nacked target =>
      cases point with
      | ended =>
          rcases inv with ⟨result, ledger, settled, isSidecar⟩
          exact ⟨accounted_of_settled settled, _, isSidecar, listsNacked_of_settled settled ledger⟩
      | _ => cases inv

theorem Scan.complete_result {scan : Scan} {text : List Char} {unchanged : Bool} :
    (scan.result text unchanged).complete = true ↔
      scan.truncated = false ∧ (text = [] ∨ text.getLast? = some '\n') ∧ unchanged = true ∧
        scan.invalid = 0 ∧ scan.pending = 0 := by
  simp [Scan.result, and_assoc]

theorem byteSize_append (left right : List Char) :
    byteSize (left ++ right) = byteSize left + byteSize right := by
  rw [byteSize, List.map_append, List.sum_append]
  rfl

/-- A text without bytes is empty. -/
theorem eq_nil_of_byteSize {text : List Char} (empty : byteSize text = 0) : text = [] := by
  cases text with
  | nil => rfl
  | cons char text =>
      have positive := Char.utf8Size_pos char
      simp only [byteSize, List.map_cons, List.sum_cons] at empty
      omega

/-- What the other process adds is harmless until the second stat, and white space
after it. -/
theorem inv_append (inv : state.Inv parse) {lines : Lines}
    (blank : state.Decided → Blank lines.text) (mtimeNs : Int) :
    OutboxState.Inv parse { state with file := state.file.append lines mtimeNs } := by
  rcases state with ⟨name, point, file, place, created, sentNames, nackedNames, sidecars, returned⟩
  cases point with
  | begin =>
      cases place with
      | outbox => trivial
      | _ => cases inv
  | statted before =>
      cases place with
      | outbox =>
          have grown := byteSize_append file.text lines.text
          have kept : before.size ≤ byteSize file.text := inv
          exact Nat.le_trans kept (grown ▸ Nat.le_add_right _ _)
      | _ => cases inv
  | read before text =>
      cases place with
      | outbox =>
          rcases inv with ⟨raw, later, isText, isFile, size⟩
          exact ⟨raw, later ++ lines.text, isText, by
            rw [← List.append_assoc, ← isFile]; rfl, size⟩
      | _ => cases inv
  | scanned before text scan =>
      cases place with
      | outbox =>
          rcases inv with ⟨raw, later, isText, isFile, rest⟩
          exact ⟨raw, later ++ lines.text, isText, by
            rw [← List.append_assoc, ← isFile]; rfl, rest⟩
      | _ => cases inv
  | delivered result =>
      cases place with
      | outbox => exact fun complete => (inv complete).append (blank complete) mtimeNs
      | _ => cases inv
  | moving result target =>
      cases place with
      | outbox => exact ⟨inv.1.append (blank trivial) mtimeNs, inv.2⟩
      | _ => cases inv
  | ended =>
      cases place with
      | outbox => trivial
      | sent target =>
          rcases inv with ⟨result, settled, noNack⟩
          exact ⟨result, settled.append (blank trivial) mtimeNs, noNack⟩
      | nacked target =>
          rcases inv with ⟨result, ledger, settled, isSidecar⟩
          exact ⟨result, ledger, settled.append (blank trivial) mtimeNs, isSidecar⟩

theorem inv_deliver (inv : state.Inv parse) (input : CycleInput) :
    (state.deliver parse maxSeconds input).Inv parse := by
  rw [OutboxState.deliver]
  rcases state with ⟨name, point, file, place, created, sentNames, nackedNames, sidecars, returned⟩
  split
  · cases place with
    | outbox => trivial
    | _ => cases point <;> first | exact inv | cases inv
  · cases point with
    | begin =>
        cases place with
        | outbox => exact Nat.le_refl _
        | _ => cases inv
    | statted before =>
        cases place with
        | outbox => exact ⟨file.text, [], rfl, (List.append_nil _).symm, inv⟩
        | _ => cases inv
    | read before text =>
        cases place with
        | outbox =>
            rcases inv with ⟨raw, later, isText, isFile, size⟩
            dsimp only
            split
            · trivial
            next scan passed =>
              refine ⟨raw, later, isText, isFile, size, rfl, fun whole => ?_⟩
              rw [isText] at passed
              exact (Scanned.start parse).run passed whole
        | _ => cases inv
    | scanned before text scan =>
        cases place with
        | outbox =>
            rcases inv with ⟨raw, later, isText, isFile, size, isReturned, scanned⟩
            intro complete
            rcases Scan.complete_result.mp complete with ⟨whole, ended, unchanged, valid, sent⟩
            have sameSize : before.size = byteSize file.text :=
              congrArg FileStat.size (of_decide_eq_true unchanged)
            have nothingLater : later = [] := by
              apply eq_nil_of_byteSize
              have total := byteSize_append raw later
              rw [← isFile] at total
              dsimp only at total
              omega
            rw [isText] at ended
            rw [nothingLater] at isFile
            have blank : Blank [] := fun _ member => nomatch member
            exact ⟨raw, [], scan, ⟨ended, scanned whole, valid, sent⟩, isFile, blank, isReturned,
              rfl, rfl⟩
        | _ => cases inv
    | delivered result =>
        cases place with
        | outbox =>
            dsimp only
            split
            · trivial
            next complete =>
              have settled := inv (by simpa using complete)
              split
              next noNack => exact ⟨settled, fun some => absurd noNack some⟩
              next some => exact ⟨settled, fun _ => ⟨input.ledger, Function.update_self ..⟩⟩
        | _ => cases inv
    | moving result target =>
        cases place with
        | outbox =>
            rcases inv with ⟨settled, isSidecar⟩
            dsimp only
            split
            next noNack => exact ⟨result, settled, noNack⟩
            next some =>
              rcases isSidecar some with ⟨ledger, isRows⟩
              exact ⟨result, ledger, settled, isRows⟩
        | _ => cases inv
    | ended => exact inv

theorem inv_step (inv : state.Inv parse) {event : OutboxEvent} (blank : state.AddsBlank event) :
    (state.step parse maxSeconds event).Inv parse := by
  cases event with
  | deliver input => exact inv_deliver inv input
  | append lines mtimeNs =>
      rw [OutboxState.step]
      rw [OutboxState.AddsBlank] at blank
      split
      next isPlace =>
        rw [isPlace] at blank
        exact inv_append inv blank mtimeNs
      · exact inv
      · exact inv
  | write lines mtimeNs => exact inv_append inv blank mtimeNs

end Steps

/-- The file before the cycle, in any directories. -/
def OutboxState.initial (name : FileName) (file : OutboxFile) (sentNames nackedNames : List String)
    (sidecars : String → Option (List SidecarRow)) : OutboxState where
  name := name
  point := .begin
  file := file
  place := .outbox
  created := none
  sentNames := sentNames
  nackedNames := nackedNames
  sidecars := sidecars
  returned := []

/-- A cycle loses no row if only white space is added to the file once it has been found
complete. -/
theorem noRowLost_of_addsBlank (parse : ParseFn) (maxSeconds : Option ℚ) (name : FileName)
    (file : OutboxFile) (sentNames nackedNames : List String)
    (sidecars : String → Option (List SidecarRow)) (events : List OutboxEvent)
    (blank : (outboxMachine parse maxSeconds).Meets OutboxState.AddsBlank
      (.initial name file sentNames nackedNames sidecars) events) :
    ((outboxMachine parse maxSeconds).final
      (.initial name file sentNames nackedNames sidecars) events).NoRowLost parse := by
  apply noRowLost_of_inv
  exact @Machine.stateInvariant _ _ _ _ _ (OutboxState.Inv parse)
    (fun _ _ inv blank => inv_step inv blank) _ _ trivial blank

/-! ## One row, and another just before the move -/

namespace OutboxSite

def reader : LineReader where
  deviceId := "cam1"
  sha1 _ := "5ba93c9db0cff93f52b521d7420e43f6eda2784f"

def parse : ParseFn := fun line => .ok (reader.parseLine line)

def acked : CycleInput where
  sends _ := .ok .acked
  elapsed _ := 0
  ledger _ := none

def name : FileName := ⟨"T1_192-168-0-7_20260925", ".csv"⟩

def file : OutboxFile := ⟨"20260925101500,press,,,5\n".toList, 0⟩

/-- The cycle, with lines that are appended once it has found the file complete. -/
def cycle (late : Lines) : List OutboxEvent :=
  [.deliver acked, .deliver acked, .deliver acked, .deliver acked, .append late 1,
    .deliver acked, .deliver acked]

def final (late : Lines) : OutboxState :=
  (outboxMachine parse (some 30)).final (.initial name file [] [] fun _ => none) (cycle late)

def emptyLine : Lines := ⟨['\n'], .inr ⟨[], rfl⟩⟩

theorem blank_emptyLine : Blank emptyLine.text := by
  intro char member
  rw [List.mem_singleton.mp member]
  decide

def row : Lines where
  text := "20260925101530,press,,,0\n".toList
  complete := .inr ⟨"20260925101530,press,,,0".toList, by decide +kernel⟩

end OutboxSite

/-- An empty line may be added at any time. -/
theorem noRowLost_of_addsBlank_emptyLine :
    (OutboxSite.final OutboxSite.emptyLine).NoRowLost OutboxSite.parse := by
  apply noRowLost_of_addsBlank
  refine ⟨trivial, trivial, trivial, trivial, fun _ => ?_, trivial, trivial, trivial⟩
  split
  · exact OutboxSite.blank_emptyLine
  · trivial
  · trivial

/-- A row that is appended after the second stat is archived unsent. -/
theorem not_noRowLost_lateRow :
    ¬∀ parse maxSeconds name file sentNames nackedNames sidecars events,
      ((outboxMachine parse maxSeconds).final
        (.initial name file sentNames nackedNames sidecars) events).NoRowLost parse := by
  intro always
  have kept : (OutboxSite.final OutboxSite.row).NoRowLost OutboxSite.parse := always _ _ _ _ _ _ _ _
  have place : (OutboxSite.final OutboxSite.row).place = .sent "T1_192-168-0-7_20260925.csv" := by
    decide +kernel
  rw [OutboxState.NoRowLost, place] at kept
  have second : (Text.lines (OutboxSite.final OutboxSite.row).file.text)[1]? =
      some "20260925101530,press,,,0".toList := by decide +kernel
  rcases kept 1 _ second (by decide +kernel) with ⟨rec, -, outcome, -, member⟩
  have first : ∀ send ∈ (OutboxSite.final OutboxSite.row).returned, send.lineNo = 1 := by
    decide +kernel
  cases first _ member

end PresenceLogger.Child
