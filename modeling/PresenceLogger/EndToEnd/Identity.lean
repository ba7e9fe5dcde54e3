import PresenceLogger.Child.FinalOutcomes
import PresenceLogger.EndToEnd.MergeOnce
import PresenceLogger.Library.TextFile

/-!
# The identity of a record

The event id is the digest of a text made of the device id and the five values.
No two records have the same text, because the values contain no comma and the
date has always the same length.
-/

namespace PresenceLogger.EndToEnd

open Library Bridge Child

/-! ## What a reader makes a record of -/

/-- The records a reader makes are made of values without commas. -/
structure ReadsAs (reader : LineReader) (rec : Record) : Prop where
  made : rec = reader.record rec.mkDate rec.staNo1 rec.staNo2 rec.staNo3 rec.t1Status
  dated : rec.mkDate.toList.length = 14
  mkDate : ',' ∉ rec.mkDate.toList
  staNo1 : ',' ∉ rec.staNo1.toList
  staNo2 : ',' ∉ rec.staNo2.toList
  staNo3 : ',' ∉ rec.staNo3.toList

theorem not_mem_parts {line part : List Char} (among : part ∈ LineReader.parts line) :
    ',' ∉ part := by
  rcases List.mem_map.mp among with ⟨piece, isPiece, rfl⟩
  intro comma
  exact (Text.mem_of_mem_splitOn isPiece ',' (Text.mem_of_mem_stripBy comma)).2 rfl

/-- Fourteen digits between stripped ends are the whole date. -/
theorem length_of_matchesDigits {count : Nat} {text : List Char} (matched :
    Text.matchesDigits count text = true)
    (trimmed : Text.Trimmed Text.isSpace text) : text.length = count := by
  simp only [Text.matchesDigits, Bool.and_eq_true, Bool.or_eq_true, decide_eq_true_eq] at matched
  rcases matched with ⟨⟨long, -⟩, nothing | newline⟩
  · rw [← List.take_append_drop count text, nothing, List.append_nil, long]
  · have last : '\n' ∈ text.getLast? := by
      rw [← List.take_append_drop count text, newline, List.getLast?_concat]
      rfl
    exact absurd (trimmed.2 '\n' last) (by decide)

theorem trimmed_of_mem_parts {line part : List Char} (among : part ∈ LineReader.parts line) :
    Text.Trimmed Text.isSpace part := by
  rcases List.mem_map.mp among with ⟨piece, -, rfl⟩
  exact Text.trimmed_stripBy piece

theorem readsAs_of_parseLine {reader : LineReader} {line : List Char} {rec : Record}
    (accepted : reader.parseLine line = some rec) : ReadsAs reader rec := by
  have plain : ∀ part ∈ LineReader.parts line, ',' ∉ part := fun _ among => not_mem_parts among
  have trimmed : ∀ part ∈ LineReader.parts line, Text.Trimmed Text.isSpace part :=
    fun _ among => trimmed_of_mem_parts among
  rw [LineReader.parseLine] at accepted
  split at accepted
  next mkDate staNo1 staNo2 staNo3 t1Status isParts =>
    rw [isParts] at plain trimmed
    split at accepted
    · cases accepted
    · split at accepted
      · cases accepted
      next dated =>
        rcases Option.map_eq_some_iff.mp accepted with ⟨t1Status, -, rfl⟩
        exact {
          made := rfl
          dated := by
            rw [LineReader.record, String.toList_ofList]
            exact length_of_matchesDigits (Bool.not_eq_false _ ▸ dated) (trimmed _ (by simp))
          mkDate := by
            rw [LineReader.record, String.toList_ofList]
            exact plain _ (by simp)
          staNo1 := by
            rw [LineReader.record, String.toList_ofList]
            exact plain _ (by simp)
          staNo2 := by
            rw [LineReader.record, String.toList_ofList]
            exact plain _ (by simp)
          staNo3 := by
            rw [LineReader.record, String.toList_ofList]
            exact plain _ (by simp) }
  · cases accepted

/-! ## The text of an identity -/

/-- The fields of the text between its commas. -/
def identityFields (reader : LineReader) (rec : Record) : List (List Char) :=
  [reader.deviceId.toList ++ '|' :: rec.mkDate.toList, rec.staNo1.toList, rec.staNo2.toList,
    rec.staNo3.toList, Text.ofInt rec.t1Status]

theorem splitOn_identity {reader : LineReader} {rec : Record} (reads : ReadsAs reader rec)
    (plain : ',' ∉ reader.deviceId.toList) :
    (reader.identity rec.mkDate rec.staNo1 rec.staNo2 rec.staNo3 rec.t1Status).toList.splitOn
      ',' = identityFields reader rec := by
  have joined : (reader.identity rec.mkDate rec.staNo1 rec.staNo2 rec.staNo3
      rec.t1Status).toList = [','].intercalate (identityFields reader rec) := by
    simp [LineReader.identity, identityFields, List.intercalate, Text.ofInt]
  rw [joined]
  apply List.splitOn_intercalate
  · intro field among
    simp only [identityFields, List.mem_cons, List.not_mem_nil, or_false] at among
    rcases among with rfl | rfl | rfl | rfl | rfl
    · simp [plain, reads.mkDate]
    · exact reads.staNo1
    · exact reads.staNo2
    · exact reads.staNo3
    · intro comma
      rcases Text.isDigit_of_mem_ofInt comma with sign | digit
      · exact absurd sign (by decide)
      · exact absurd digit (by decide)
  · exact List.cons_ne_nil _ _

/-- Different records have different texts. -/
theorem eq_of_identity_eq {left right : LineReader} {rec twin : Record}
    (reads : ReadsAs left rec) (twinReads : ReadsAs right twin)
    (plain : ',' ∉ left.deviceId.toList) (twinPlain : ',' ∉ right.deviceId.toList)
    (same : left.identity rec.mkDate rec.staNo1 rec.staNo2 rec.staNo3 rec.t1Status =
      right.identity twin.mkDate twin.staNo1 twin.staNo2 twin.staNo3 twin.t1Status) :
    left.deviceId = right.deviceId ∧ rec.mkDate = twin.mkDate ∧ rec.staNo1 = twin.staNo1 ∧
      rec.staNo2 = twin.staNo2 ∧ rec.staNo3 = twin.staNo3 ∧ rec.t1Status = twin.t1Status := by
  have fields : identityFields left rec = identityFields right twin := by
    rw [← splitOn_identity reads plain, ← splitOn_identity twinReads twinPlain, same]
  simp only [identityFields, List.cons.injEq, and_true, String.toList_inj] at fields
  rcases fields with ⟨first, staNo1, staNo2, staNo3, t1Status⟩
  have length : ('|' :: rec.mkDate.toList).length = ('|' :: twin.mkDate.toList).length := by
    rw [List.length_cons, List.length_cons, reads.dated, twinReads.dated]
  rcases List.append_inj' first length with ⟨deviceId, mkDate⟩
  exact ⟨String.toList_inj.mp deviceId, String.toList_inj.mp (List.cons.inj mkDate).2, staNo1,
    staNo2, staNo3, Text.ofInt_injective t1Status⟩

/-! ## The records of all files -/

/-- A record of some line of some file, read by some device. -/
def IsRead (sha1 : String → String) (rec : Record) : Prop :=
  ∃ (deviceId : String) (line : List Char), ',' ∉ deviceId.toList ∧
    (LineReader.mk deviceId sha1).parseLine line = some rec

/-- Two records with one id are one. -/
theorem eq_of_eventId_eq {sha1 : String → String} (injective : Function.Injective sha1)
    {rec twin : Record} (isRead : IsRead sha1 rec) (twinRead : IsRead sha1 twin)
    (same : rec.eventId = twin.eventId) : rec = twin := by
  rcases isRead with ⟨deviceId, line, plain, accepted⟩
  rcases twinRead with ⟨other, text, otherPlain, twinAccepted⟩
  have reads := readsAs_of_parseLine accepted
  have twinReads := readsAs_of_parseLine twinAccepted
  have digests := same
  rw [reads.made, twinReads.made] at digests
  rcases eq_of_identity_eq reads twinReads plain otherPlain (injective digests) with
    ⟨sameDevice, mkDate, staNo1, staNo2, staNo3, t1Status⟩
  have sameDevice : deviceId = other := sameDevice
  rw [reads.made, twinReads.made, mkDate, staNo1, staNo2, staNo3, t1Status, sameDevice]

/-! ## Nothing is sent under another record's id -/

/-- The delivery that a migration has not left unverified is that of a read record. -/
def Verified (sha1 : String → String) (row : DeliveryRow) : Prop :=
  row.status = .legacyUnverified ∨ (IsRead sha1 row.payload ∧ row.payload.eventId = row.eventId)

/-- Every row is of a read record, or was left unverified by a migration. -/
def AllVerified (sha1 : String → String) (ledger : Ledger) : Prop :=
  ∀ key row, ledger.get key = some row → Verified sha1 row

section Ledger

variable {sha1 : String → String} {ledger : Ledger}

theorem allVerified_savePending (verified : AllVerified sha1 ledger) {rec : Record}
    (isRead : IsRead sha1 rec) (destination : String) (now : ℚ) :
    AllVerified sha1 (ledger.savePending destination rec now) := by
  intro key row found
  rw [Ledger.get_savePending] at found
  split at found
  · cases before : ledger.get key with
    | none =>
        rw [before] at found
        cases found
        exact .inr ⟨isRead, rfl⟩
    | some old =>
        rw [before] at found
        cases found
        exact verified key old before
  · exact verified key row found

theorem allVerified_touchPending (verified : AllVerified sha1 ledger)
    (destination eventId : String) (now : ℚ) :
    AllVerified sha1 (ledger.touchPending destination eventId now) := by
  intro key row found
  rw [Ledger.get_touchPending] at found
  split at found
  · rcases Option.map_eq_some_iff.mp found with ⟨old, before, rfl⟩
    exact verified key old before
  · exact verified key row found

theorem allVerified_markAcked (verified : AllVerified sha1 ledger) {destination eventId : String}
    (pending : ∀ row, ledger.get (destination, eventId) = some row → row.status = .pending)
    (committedAt : Option String) :
    AllVerified sha1 (ledger.markAcked destination eventId committedAt) := by
  intro key row found
  rw [Ledger.get_markAcked] at found
  split at found
  next here =>
    rcases Option.map_eq_some_iff.mp found with ⟨old, before, rfl⟩
    refine .inr ((verified key old before).resolve_left ?_)
    rw [pending old (here ▸ before)]
    decide
  · exact verified key row found

theorem allVerified_markNacked (verified : AllVerified sha1 ledger)
    (destination eventId reason : String) (failedAt : Option String) :
    AllVerified sha1 (ledger.markNacked destination eventId reason failedAt) := by
  intro key row found
  rw [Ledger.get_markNacked] at found
  split at found
  · rcases Option.map_eq_some_iff.mp found with ⟨old, before, rfl⟩
    split
    next pending =>
      refine .inr ((verified key old before).resolve_left ?_)
      rw [pending]
      decide
    · exact verified key old before
  · exact verified key row found

end Ledger

section Session

variable (config : AckSession) (sha1 : String → String)

/-- The records to be sent are read ones. -/
def SendsRead (_ : ChildState) (step : ChildStep) : Prop :=
  ∀ rec now, step = .call (.send rec now) → IsRead sha1 rec

/-- The record that a send looks up or saves is a read one. -/
def PointRead : ChildPoint → Prop
  | .lookup rec _ | .savePending rec _ => IsRead sha1 rec
  | _ => True

def verifiedAssertions : Program.Assertions ChildThread ChildPoint ChildMemory where
  always memory := AllVerified sha1 memory.ledger
  knows thread point memory := config.assertions.knows thread point memory ∧ PointRead sha1 point

variable {config sha1} {state : ChildState} {step : ChildStep} {thread : ChildThread}
  {outcome : ChildOutcome}

theorem holds_of_verified (holds : (verifiedAssertions config sha1).Holds state) :
    config.assertions.Holds state :=
  ⟨trivial, fun thread point stands => (holds.2 thread point stands).1⟩

theorem pointRead_resume {memory : ChildMemory} {point next : ChildPoint} {input : ChildInput}
    (read : PointRead sha1 point)
    (follows : next ∈ (config.resume memory point input).point) : PointRead sha1 next := by
  have resumed := config.resumed memory point input
  generalize config.resume memory point input = outcome at resumed follows
  cases resumed with
  | ends | refused | ack | nack => cases follows
  | absent rec now absent =>
      cases follows
      exact read
  | _ =>
      cases follows
      trivial

theorem pointRead_own (holds : (verifiedAssertions config sha1).Holds state)
    (allowed : SendsRead sha1 state step) (acts : config.program.Acts state step thread outcome)
    {point : ChildPoint} (follows : point ∈ outcome.point) : PointRead sha1 point := by
  cases acts with
  | resume thread input here stands =>
      exact pointRead_resume (holds.2 thread here stands).2 follows
  | call routine free =>
      cases routine with
      | send rec now =>
          simp only [AckSession.program, AckSession.start] at follows
          split at follows
          · cases follows
            exact allowed rec now rfl
          · cases follows
      | onMessage message =>
          have callback := (AckSession.relies_onMessage follows).1
          cases point with
          | lookup | savePending => cases callback
          | _ => trivial
      | _ => cases follows

theorem allVerified_own (holds : (verifiedAssertions config sha1).Holds state)
    (acts : config.program.Acts state step thread outcome) :
    AllVerified sha1 outcome.memory.ledger := by
  cases acts with
  | call routine free =>
      simp only [AckSession.program, AckSession.ledger_start]
      exact holds.1
  | resume thread input here stands =>
      have known := holds.2 thread here stands
      have change := config.ledgerChange_resume state.memory here input
      simp only [AckSession.program]
      generalize (config.resume state.memory here input).memory.ledger = after at change ⊢
      cases change with
      | none => exact holds.1
      | save rec now => exact allVerified_savePending holds.1 known.2 _ now
      | touch rec now => exact allVerified_touchPending holds.1 _ rec.eventId now
      | ack eventId committedAt bound =>
          cases thread with
          | main => cases known.1
          | network => exact allVerified_markAcked holds.1 known.1.2 bound
      | nack eventId reason failedAt text bound =>
          exact allVerified_markNacked holds.1 _ eventId text bound

/-- The deliveries stay those of read records. -/
def verifiedOutline (config : AckSession) (sha1 : String → String) :
    config.program.Outline (SendsRead sha1) where
  toAssertions := verifiedAssertions config sha1
  own _ _ _ _ holds allowed acts :=
    ⟨allVerified_own holds acts, fun _ follows =>
      ⟨AckSession.knows_own (holds_of_verified holds) acts follows,
        pointRead_own holds allowed acts follows⟩⟩
  other _ _ _ _ holds _ acts bystander point apart stands :=
    ⟨AckSession.knows_other (holds_of_verified holds) acts bystander point apart stands,
      (holds.2 bystander point stands).2⟩
  crash _ _ holds _ := by
    refine ⟨holds.1, ?_⟩
    intro thread point alive
    cases alive

/-! ### What raises -/

theorem mismatch_of_sendFound {memory : ChildMemory} {rec : Record} {now : ℚ}
    {row : DeliveryRow} {error : PyError}
    (raised : .sendRaised error ∈ (config.sendFound memory rec now row).emits) :
    row.status ≠ .legacyUnverified ∧ row.payload ≠ rec := by
  rw [AckSession.sendFound] at raised
  split at raised
  · cases List.mem_singleton.mp raised
  next verified =>
    refine ⟨verified, ?_⟩
    intro same
    rw [if_neg (not_not.mpr same)] at raised
    split at raised
    · cases List.mem_singleton.mp raised
    · split at raised
      · cases List.mem_singleton.mp raised
      · split at raised
        · cases List.mem_singleton.mp raised
        · exact absurd raised List.not_mem_nil

theorem not_sendRaised_callback {memory : ChildMemory} {point : ChildPoint}
    {input : ChildInput} {error : PyError} (callback : point.isSending = false) :
    .sendRaised error ∉ (config.resume memory point input).emits := by
  intro raised
  have resumed := config.resumed memory point input
  generalize config.resume memory point input = outcome at resumed raised
  cases resumed with
  | ends point emits unpublished whose =>
      have sending := whose _ raised
      rw [callback] at sending
      cases sending
  | refused => cases callback
  | publish => cases callback
  | _ => exact absurd raised List.not_mem_nil

/-- A send raises only when it finds its id with another record. -/
theorem mismatch_of_sendRaised {memory : ChildMemory} {point : ChildPoint} {input : ChildInput}
    {error : PyError} (raised : .sendRaised error ∈ (config.resume memory point input).emits) :
    ∃ rec now row, point = .lookup rec now ∧ config.find memory rec.eventId = some row ∧
      row.status ≠ .legacyUnverified ∧ row.payload ≠ rec := by
  cases point with
  | lookup rec now =>
      rw [AckSession.resume, AckSession.lookup] at raised
      cases found : config.find memory rec.eventId with
      | none =>
          rw [found] at raised
          exact absurd raised List.not_mem_nil
      | some row =>
          rw [found] at raised
          exact ⟨rec, now, row, rfl, found, mismatch_of_sendFound raised⟩
  | poll rec =>
      rw [AckSession.resume] at raised
      rcases config.poll_cases memory rec input.expired with ⟨outcome, same⟩ | ⟨-, same⟩
      · rw [same] at raised
        cases List.mem_singleton.mp raised
      · rw [same] at raised
        exact absurd raised List.not_mem_nil
  | savePending rec now => exact absurd raised List.not_mem_nil
  | touchPending rec now => exact absurd raised List.not_mem_nil
  | publish rec now =>
      simp only [AckSession.resume] at raised
      split at raised
      · simp [finish] at raised
      · cases List.mem_singleton.mp raised
  | _ => exact absurd raised (not_sendRaised_callback rfl)

theorem not_sendRaised_start {memory : ChildMemory} {routine : ChildRoutine} {error : PyError} :
    .sendRaised error ∉ (config.start memory routine).emits := by
  intro raised
  cases routine with
  | send rec now =>
      rw [AckSession.start] at raised
      split at raised
      · exact absurd raised List.not_mem_nil
      · cases List.mem_singleton.mp raised
  | onMessage message =>
      rw [AckSession.start] at raised
      rcases config.onMessage_cases memory message with
        ⟨_, ends, quiet⟩ | ⟨_, _, _, _, -, -, -, -, goesOn⟩ | ⟨_, _, _, -, -, goesOn⟩
      · rw [ends] at raised
        cases quiet _ raised
      · rw [goesOn] at raised
        exact absurd raised List.not_mem_nil
      · rw [goesOn] at raised
        exact absurd raised List.not_mem_nil
  | _ => exact absurd raised List.not_mem_nil

/-- No send of read records finds its id with another record. -/
theorem not_sendRaised_step (injective : Function.Injective sha1)
    (holds : (verifiedAssertions config sha1).Holds state) (error : PyError) :
    .sendRaised error ∉ (config.program.step state step).2 := by
  intro raised
  rcases config.program.step_cases state step with
    ⟨thread, outcome, acts, same⟩ | ⟨which, rfl⟩ | same
  · rw [same] at raised
    cases acts with
    | call routine free => exact not_sendRaised_start raised
    | resume thread input point stands =>
        rcases mismatch_of_sendRaised raised with ⟨rec, now, row, rfl, found, verified, differs⟩
        have isRead : IsRead sha1 rec := (holds.2 thread _ stands).2
        rcases holds.1 _ row found with legacy | ⟨stored, isId⟩
        · exact verified legacy
        · have key : row.eventId = rec.eventId := congrArg Prod.snd (Table.key_of_get found)
          exact differs (eq_of_eventId_eq injective stored isRead (isId.trans key))
  · exact absurd raised List.not_mem_nil
  · rw [same] at raised
    exact absurd raised List.not_mem_nil

theorem not_sendRaised_run (injective : Function.Injective sha1) {memory : ChildMemory}
    (verified : AllVerified sha1 memory.ledger) {steps : List ChildStep}
    (read : ∀ rec now, .call (.send rec now) ∈ steps → IsRead sha1 rec) (error : PyError) :
    .sendRaised error ∉ config.program.machine.trace (Program.idle memory) steps := by
  intro raised
  rcases (Machine.mem_trace _).mp raised with ⟨earlier, step, later, rfl, emitted⟩
  have start : (verifiedAssertions config sha1).Holds (Program.idle memory) := by
    refine ⟨verified, ?_⟩
    intro thread point stands
    cases stands
  have meets : config.program.machine.Meets (SendsRead sha1) (Program.idle memory) earlier := by
    apply Machine.Meets.of_forall
    rintro _ member state rec now rfl
    exact read rec now (List.mem_append_left _ member)
  exact not_sendRaised_step injective ((verifiedOutline config sha1).run start meets) error emitted

end Session

/-! ## Identity and fidelity -/

/-- The id of a record is its identity for the child, both readers of the send log
agree, and the bridge reads what was sent. -/
theorem recordIdentity (sha1 : String → String) (injective : Function.Injective sha1) :
    (∀ deviceId other line text rec twin, ',' ∉ deviceId.toList → ',' ∉ other.toList →
      (LineReader.mk deviceId sha1).parseLine line = some rec →
      (LineReader.mk other sha1).parseLine text = some twin → rec.eventId = twin.eventId →
      deviceId = other ∧ rec.mkDate = twin.mkDate ∧ rec.staNo1 = twin.staNo1 ∧
        rec.staNo2 = twin.staNo2 ∧ rec.staNo3 = twin.staNo3 ∧ rec.t1Status = twin.t1Status) ∧
    (∀ (config : AckSession) (memory : ChildMemory) steps, AllVerified sha1 memory.ledger →
      (∀ rec now, .call (.send rec now) ∈ steps → IsRead sha1 rec) →
      .sendRaised .valueError ∉ config.program.machine.trace (Program.idle memory) steps) ∧
    (∀ deviceId line,
      csvLineToRecord sha1 line deviceId = (LineReader.mk deviceId sha1).parseLine line) ∧
    ∀ render deviceId line rec, (LineReader.mk deviceId sha1).parseLine line = some rec →
      ∃ parsed, Bridge.parseRecordPayload render (.value (recordJson rec)) = .ok parsed ∧
        parsed.eventId = some rec.eventId ∧ parsed.mkDate = rec.mkDate ∧
        parsed.staNo1 = some rec.staNo1 ∧ parsed.staNo2 = some rec.staNo2 ∧
        parsed.staNo3 = some rec.staNo3 ∧ parsed.t1Status = rec.t1Status ∧
        parsed.deviceId = some (some rec.deviceId) := by
  refine ⟨?_, ?_, ?_, ?_⟩
  · intro deviceId other line text rec twin plain otherPlain accepted twinAccepted same
    have reads := readsAs_of_parseLine accepted
    have twinReads := readsAs_of_parseLine twinAccepted
    rw [reads.made, twinReads.made] at same
    exact eq_of_identity_eq reads twinReads plain otherPlain (injective same)
  · intro config memory steps verified read
    exact not_sendRaised_run injective verified read _
  · intro deviceId line
    exact csvLineToRecord_eq_parseLine ⟨deviceId, sha1⟩ line
  · intro render deviceId line rec accepted
    refine ⟨readBack rec, ?_, rfl, rfl, rfl, rfl, rfl, rfl, rfl⟩
    exact parseRecordPayload_recordJson render (matchesDigits_of_parseLine accepted)

/-- The same line on another child. -/
def twinRecord : Record := (LineReader.mk "child2" id).record "20260925120000" "100" "200" "300" 3

/-- One line of two children, and its record sent twice. -/
theorem recordIdentity_twice :
    namedRecord.eventId ≠ twinRecord.eventId ∧
    .sendRaised .valueError ∉ Site.config.program.machine.trace (Program.idle Site.empty)
      [.call (.onConnect (some 1)), .call (.onSubscribe 1 [2, 2]), .call (.send namedRecord 0),
        .resume .main {}, .resume .main {}, .crash (), .call (.send namedRecord 5)] := by
  have accepted : plainReader.parseLine "20260925120000,100,200,300,3".toList =
      some namedRecord := by decide +kernel
  have twinAccepted : (LineReader.mk "child2" id).parseLine
      "20260925120000,100,200,300,+0_3".toList = some twinRecord := by decide +kernel
  have holds := recordIdentity id Function.injective_id
  constructor
  · intro same
    have sameDevice := (holds.1 "child1" "child2" _ _ namedRecord twinRecord (by decide)
      (by decide) accepted twinAccepted same).1
    exact absurd sameDevice (by decide)
  · apply holds.2.1 Site.config Site.empty
    · intro key row found
      cases found
    · intro rec now member
      have same : rec = namedRecord ∧ now = 0 ∨ rec = namedRecord ∧ now = 5 := by
        simpa using member
      have same := same.elim And.left And.left
      exact ⟨"child1", _, by decide, same ▸ accepted⟩

end PresenceLogger.EndToEnd
