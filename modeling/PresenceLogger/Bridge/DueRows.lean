import PresenceLogger.Bridge.Runs
import PresenceLogger.Library.IsoText

/-!
# When a retry is due

`iter_received_due` compares and sorts times as text. Whatever the bridge has stored, the
rows it selects are those whose time has come, in the order they were received.
-/

namespace PresenceLogger.Bridge

open Library

/-- The text of a datetime. -/
def IsTimeText (text : String) : Prop := ∃ time : Instant, time.IsDatetime ∧ text = time.isoformat

/-- The columns `iter_received_due` reads. -/
structure DueColumns (ρ : Type) where
  received : ρ → Prop
  receivedAtIso : ρ → String
  nextRetryAtIso : ρ → Option String

def InboxEvent.columns : DueColumns InboxEvent where
  received row := row.status = .received
  receivedAtIso := InboxEvent.receivedAtIso
  nextRetryAtIso := InboxEvent.nextRetryAtIso

def RecordInboxEvent.columns : DueColumns RecordInboxEvent where
  received row := row.status = .received
  receivedAtIso := RecordInboxEvent.receivedAtIso
  nextRetryAtIso := RecordInboxEvent.nextRetryAtIso

namespace DueColumns

variable {ρ : Type} (columns : DueColumns ρ)

/-- The times of a row are texts of datetimes. -/
structure Dated (row : ρ) : Prop where
  receivedAt : IsTimeText (columns.receivedAtIso row)
  nextRetry : ∀ next ∈ columns.nextRetryAtIso row, IsTimeText next

/-- The row waits for nothing but its MERGE. -/
def IsDue (now : Instant) (row : ρ) : Prop :=
  columns.received row ∧
    (columns.nextRetryAtIso row = none ∨
      ∃ next : Instant, next.IsDatetime ∧ columns.nextRetryAtIso row = some next.isoformat ∧
        next ≤ now)

/-- One row came no later than another. -/
def ReceivedBy (row later : ρ) : Prop :=
  ∃ time laterTime : Instant, time.IsDatetime ∧ laterTime.IsDatetime ∧
    columns.receivedAtIso row = time.isoformat ∧
    columns.receivedAtIso later = laterTime.isoformat ∧ time ≤ laterTime

/-- These are the due rows, each once, in the order they were received. -/
structure Selects (rows : List ρ) (now : Instant) (due : List ρ) : Prop where
  mem_iff : ∀ row, row ∈ due ↔ row ∈ rows ∧ columns.IsDue now row
  nodup : due.Nodup
  ordered : due.Pairwise columns.ReceivedBy

variable {columns}

/-- Texts and times agree on whether a row is due. -/
theorem texts_le_iff {row : ρ} (dated : columns.Dated row) {now : Instant}
    (datetime : now.IsDatetime) :
    (∀ next ∈ columns.nextRetryAtIso row, next ≤ now.isoformat) ↔
      (columns.nextRetryAtIso row = none ∨
        ∃ next : Instant, next.IsDatetime ∧ columns.nextRetryAtIso row = some next.isoformat ∧
          next ≤ now) := by
  cases found : columns.nextRetryAtIso row with
  | none => simp
  | some text =>
      obtain ⟨time, timeDatetime, isText⟩ := dated.nextRetry text found
      constructor
      · intro texts
        have le := texts text rfl
        rw [isText] at le
        exact .inr ⟨time, timeDatetime, congrArg some isText,
          (Instant.isoformat_le_iff timeDatetime datetime).mp le⟩
      · intro come next isNext
        rcases come with none | ⟨other, otherDatetime, same, le⟩
        · exact absurd none (Option.some_ne_none text)
        · rw [← Option.mem_some.mp isNext, Option.some.inj same]
          exact (Instant.isoformat_le_iff otherDatetime datetime).mpr le

theorem receivedBy_of_le {row later : ρ} (dated : columns.Dated row)
    (laterDated : columns.Dated later)
    (le : columns.receivedAtIso row ≤ columns.receivedAtIso later) :
    columns.ReceivedBy row later := by
  obtain ⟨time, datetime, text⟩ := dated.receivedAt
  obtain ⟨laterTime, laterDatetime, laterText⟩ := laterDated.receivedAt
  refine ⟨time, laterTime, datetime, laterDatetime, text, laterText, ?_⟩
  rw [text, laterText] at le
  exact (Instant.isoformat_le_iff datetime laterDatetime).mp le

/-- What a statement with the `WHERE` and `ORDER BY` of `iter_received_due` selects. -/
theorem selects_select {key : ρ → String} {table : Table ρ key}
    (dated : ∀ row ∈ table.rows, columns.Dated row) {now : Instant} (datetime : now.IsDatetime)
    {guard : ρ → Bool}
    (isGuard : ∀ row, guard row = true ↔
      columns.received row ∧ ∀ next ∈ columns.nextRetryAtIso row, next ≤ now.isoformat) :
    columns.Selects table.rows now
      (table.select guard fun row later =>
        columns.receivedAtIso row ≤ columns.receivedAtIso later) := by
  have total : Std.Total fun row later : ρ =>
      columns.receivedAtIso row ≤ columns.receivedAtIso later :=
    ⟨fun _ _ => String.le_total _ _⟩
  have trans : IsTrans ρ fun row later =>
      columns.receivedAtIso row ≤ columns.receivedAtIso later :=
    ⟨fun _ _ _ => String.le_trans⟩
  constructor
  · intro row
    rw [Table.mem_select]
    apply and_congr_right
    intro member
    rw [isGuard, IsDue, texts_le_iff (dated row member) datetime]
  · exact (Table.nodup_map_select table _ _).of_map _
  · apply List.Pairwise.imp_of_mem _ (List.pairwise_insertionSort _ _)
    intro row later among laterAmong le
    exact receivedBy_of_le (dated row (Table.mem_select.mp among).1)
      (dated later (Table.mem_select.mp laterAmong).1) le

end DueColumns

/-! ## What the bridge stores -/

/-- The times of every stored row are texts of datetimes. -/
structure BridgeState.Dated (bridge : BridgeState) : Prop where
  events : ∀ row ∈ bridge.inbox.rows, InboxEvent.columns.Dated row
  records : ∀ row ∈ bridge.recordInbox.rows, RecordInboxEvent.columns.Dated row

/-- What the step writes into the time columns is the text of a datetime. -/
def Command.Dated : Command → Prop
  | .insertEvent event => InboxEvent.columns.Dated event
  | .insertRecord rec => RecordInboxEvent.columns.Dated rec
  | .updateRetry _ _ next _ | .updateRecordRetry _ _ next _ => IsTimeText next
  | _ => True

/-- A message arrives at a datetime. -/
def Routine.Dated : Routine → Prop
  | .onEvent _ receivedAt | .onRecord _ receivedAt => receivedAt.IsDatetime
  | _ => True

section Statements

variable {ρ : Type} {key : ρ → String} {columns : DueColumns ρ} {table : Table ρ key}

theorem dated_insertOrIgnore (dated : ∀ row ∈ table.rows, columns.Dated row) {new : ρ}
    (newDated : columns.Dated new) :
    ∀ row ∈ (table.insertOrIgnore new).rows, columns.Dated row := by
  intro row member
  rcases Table.mem_insertOrIgnore.mp member with old | ⟨rfl, -⟩
  · exact dated row old
  · exact newDated

theorem dated_update (dated : ∀ row ∈ table.rows, columns.Dated row) {id : String} {set : ρ → ρ}
    (keepsKey : ∀ row, key (set row) = key row)
    (setDated : ∀ row, columns.Dated row → columns.Dated (set row)) :
    ∀ row ∈ (table.update id set keepsKey).rows, columns.Dated row := by
  intro row member
  obtain ⟨old, among, rfl⟩ := List.mem_map.mp member
  dsimp only
  split
  · exact setDated old (dated old among)
  · exact dated old among

theorem dated_delete (dated : ∀ row ∈ table.rows, columns.Dated row) (id : String) :
    ∀ row ∈ (table.delete id).rows, columns.Dated row :=
  fun row member => dated row (List.mem_filter.mp member).1

end Statements

theorem BridgeState.dated_exec {bridge : BridgeState} (dated : bridge.Dated) {command : Command}
    (commandDated : command.Dated) : (bridge.exec command).Dated := by
  cases command with
  | insertEvent event => exact ⟨dated_insertOrIgnore dated.events commandDated, dated.records⟩
  | markSent id mkDateCommitted profileAtSend sentAtIso =>
      refine ⟨?_, dated.records⟩
      apply dated_update dated.events
      · exact fun _ => rfl
      · exact fun _ old => ⟨old.receivedAt, old.nextRetry⟩
  | updateRetry id retryCount next lastError =>
      refine ⟨?_, dated.records⟩
      apply dated_update dated.events
      · exact fun _ => rfl
      · exact fun _ old =>
          ⟨old.receivedAt, fun _ isNext => Option.mem_some.mp isNext ▸ commandDated⟩
  | deleteEvent id => exact ⟨dated_delete dated.events id, dated.records⟩
  | insertRecord rec =>
      refine ⟨dated.events, dated_insertOrIgnore dated.records ?_⟩
      exact ⟨commandDated.receivedAt, commandDated.nextRetry⟩
  | markRecordSent id mkDateCommitted sentAtIso =>
      refine ⟨dated.events, ?_⟩
      apply dated_update dated.records
      · exact fun _ => rfl
      · exact fun _ old => ⟨old.receivedAt, old.nextRetry⟩
  | markRecordFailed id failedAtIso lastError =>
      refine ⟨dated.events, ?_⟩
      apply dated_update dated.records
      · exact fun _ => rfl
      · exact fun _ old => ⟨old.receivedAt, old.nextRetry⟩
  | updateRecordRetry id retryCount next lastError =>
      refine ⟨dated.events, ?_⟩
      apply dated_update dated.records
      · exact fun _ => rfl
      · exact fun _ old =>
          ⟨old.receivedAt, fun _ isNext => Option.mem_some.mp isNext ▸ commandDated⟩
  | deleteRecord id => exact ⟨dated.events, dated_delete dated.records id⟩
  | _ => exact ⟨dated.events, dated.records⟩

theorem BridgeState.dated_replay {bridge : BridgeState} (dated : bridge.Dated)
    {trace : List Command} (traceDated : ∀ command ∈ trace, command.Dated) :
    (bridge.replay trace).Dated := by
  induction trace generalizing bridge with
  | nil => exact dated
  | cons command trace ih =>
      rw [BridgeState.replay_cons]
      apply ih (BridgeState.dated_exec dated (traceDated command (.head _)))
      exact fun later member => traceDated later (.tail _ member)

/-- The time of a retry is a datetime, or there is none. -/
theorem isTimeText_nextRetryAt {now next : Instant} {attempt : Int} {policy : BackoffPolicy}
    (returns : nextRetryAt now attempt policy = .ok next) : IsTimeText next.isoformat := by
  refine ⟨next, ?_, rfl⟩
  rw [nextRetryAt] at returns
  split at returns
  · cases returns
  · obtain ⟨delay, -, returns⟩ := ok_of_bind returns
    obtain ⟨delta, -, returns⟩ := ok_of_bind returns
    rw [Instant.add] at returns
    split at returns
    next inRange => exact Except.ok.inj returns ▸ inRange
    next => cases returns

section Steps

variable {deps : BridgeDeps}

theorem dated_settle {profileName mkDate : String} {now : Instant} {event : InboxEvent}
    {result : MergeResult} {command : Command}
    (member : command ∈ deps.sender.settle profileName mkDate now event result) :
    command.Dated := by
  unfold SenderDeps.settle at member
  split at member
  · simp only [List.mem_cons, List.not_mem_nil, or_false] at member
    rcases member with rfl | rfl | rfl <;> trivial
  · rcases List.mem_cons.mp member with rfl | later
    · trivial
    · split at later
      next next returns =>
        rw [List.mem_singleton.mp later]
        exact isTimeText_nextRetryAt returns
      next =>
        rw [List.mem_singleton.mp later]
        trivial

theorem dated_record_settle {profileName : String} {now : Instant} {rec : RecordInboxEvent}
    {result : MergeResult} {command : Command}
    (member : command ∈ deps.recordSender.settle profileName now rec result) :
    command.Dated := by
  unfold RecordSenderDeps.settle at member
  split at member
  · simp only [List.mem_cons, List.mem_map] at member
    rcases member with rfl | rfl | ⟨topic, -, rfl⟩ <;> trivial
  · simp only [List.mem_cons, List.mem_map] at member
    rcases member with rfl | ⟨topic, -, rfl⟩ <;> trivial
  · rcases List.mem_cons.mp member with rfl | later
    · trivial
    · split at later
      next next returns =>
        rw [List.mem_singleton.mp later]
        exact isTimeText_nextRetryAt returns
      next =>
        rw [List.mem_singleton.mp later]
        trivial

theorem Command.IsOpening.dated {command : Command} (opening : command.IsOpening) :
    command.Dated := by
  cases command <;> trivial

/-- A routine writes texts of datetimes only. -/
theorem Routine.dated_performed {bridge : BridgeState} {routine : Routine}
    (dated : routine.Dated) {command : Command}
    (member : command ∈ routine.performed deps bridge) : command.Dated := by
  unfold performed at member
  split at member
  next =>
    have planned := mem_of_mem_upToRaise member
    cases routine with
    | senderRunOnce call =>
        rcases deps.sender.mem_runOnce member with opening |
          ⟨profileName, profile, event, mkDate, -, inRow⟩
        · exact opening.dated
        · rcases List.mem_cons.mp inRow with rfl | inSettle
          · trivial
          · exact dated_settle inSettle
    | recordRunOnce call =>
        rcases deps.recordSender.mem_runOnce member with opening |
          ⟨profileName, profile, rec, -, inRow⟩
        · exact opening.dated
        · rcases List.mem_cons.mp inRow with rfl | inSettle
          · trivial
          · exact dated_record_settle inSettle
    | onEvent payload receivedAt =>
        simp only [plan, BridgeState.onEvent] at planned
        split at planned
        · exact absurd planned List.not_mem_nil
        · rw [List.mem_singleton.mp planned]
          exact ⟨⟨receivedAt, dated, rfl⟩, by simp [InboxEvent.columns, EventPayload.toRow]⟩
        · rw [List.mem_singleton.mp planned]
          exact ⟨⟨receivedAt, dated, rfl⟩, by simp [InboxEvent.columns, EventPayload.toRow]⟩
    | onRecord payload receivedAt =>
        rcases deps.recordSender.mem_receive planned with rfl | ⟨ack, rfl⟩ | ⟨nack, rfl⟩
        · exact ⟨⟨receivedAt, dated, rfl⟩, by
            simp [RecordInboxEvent.columns, RecordPayload.toRow]⟩
        · trivial
        · trivial
    | pollNetwork nmcli | pollTime reading =>
        rw [List.mem_singleton.mp planned]
        trivial
    | deleteSentEvents count | ringEvictEvents count | deleteSentRecords count
    | ringEvictRecords count =>
        rcases List.mem_map.mp planned with ⟨eventId, -, rfl⟩
        trivial
  next => exact absurd member List.not_mem_nil

theorem BridgeStep.dated_trace {bridge : BridgeState} {step : BridgeStep}
    (dated : step.routine.Dated) {command : Command} (member : command ∈ step.trace deps bridge) :
    command.Dated := by
  by_cases restart : command = .restart
  · rw [restart]
    trivial
  · exact Routine.dated_performed dated (BridgeStep.mem_performed_of_mem_trace member restart)

theorem dated_final {bridge : BridgeState} (dated : bridge.Dated) {steps : List BridgeStep}
    (arrivals : ∀ step ∈ steps, step.routine.Dated) :
    ((bridgeMachine deps).final bridge steps).Dated := by
  have meets : (bridgeMachine deps).Meets (fun _ step => step.routine.Dated) bridge steps :=
    Machine.Meets.of_forall fun step member _ => arrivals step member
  apply (bridgeMachine deps).stateInvariant _ dated meets
  intro state step stateDated stepDated
  exact BridgeState.dated_replay stateDated fun _ member =>
    BridgeStep.dated_trace stepDated member

end Steps

/-! ## The due rows -/

/-- Texts compare as the times do, and after any run the senders get the rows whose time
has come, in the order they were received. -/
theorem due_when_time_has_come :
    (∀ time other : Instant, time.IsDatetime → other.IsDatetime →
      (time.isoformat ≤ other.isoformat ↔ time ≤ other)) ∧
    ∀ (deps : BridgeDeps) (bridge : BridgeState) (steps : List BridgeStep) (now : Instant),
      bridge.Dated → (∀ step ∈ steps, step.routine.Dated) → now.IsDatetime →
      let reached := (bridgeMachine deps).final bridge steps
      InboxEvent.columns.Selects reached.inbox.rows now
          (reached.inbox.iterReceivedDue now.isoformat) ∧
        RecordInboxEvent.columns.Selects reached.recordInbox.rows now
          (reached.recordInbox.iterReceivedDue now.isoformat) := by
  constructor
  · intro time other datetime otherDatetime
    exact Instant.isoformat_le_iff datetime otherDatetime
  · intro deps bridge steps now dated arrivals datetime reached
    have reachedDated : reached.Dated := dated_final dated arrivals
    constructor
    · apply DueColumns.selects_select reachedDated.events datetime
      intro row
      simp [Inbox.isDue, InboxEvent.columns]
    · apply DueColumns.selects_select reachedDated.records datetime
      intro row
      simp [RecordInbox.isDue, RecordInboxEvent.columns]

/-- An event and a record arrive, and one MERGE of the event fails. -/
theorem due_when_time_has_come_site :
    let run := (bridgeMachine Site.deps).final (Site.bridge [] [])
      [.complete (.onEvent (Site.event "e1") (Site.time 0)),
        .complete (.onRecord (Site.record "r1") (Site.time 1)),
        .complete (.senderRunOnce (Site.senderCall 2
          (Site.answered (.sqlException 0 12541 none false))))]
    ((Site.time 0).isoformat ≤ (Site.time 1).isoformat ↔ Site.time 0 ≤ Site.time 1) ∧
      InboxEvent.columns.Selects run.inbox.rows (Site.time 7)
          (run.inbox.iterReceivedDue (Site.time 7).isoformat) ∧
        RecordInboxEvent.columns.Selects run.recordInbox.rows (Site.time 7)
          (run.recordInbox.iterReceivedDue (Site.time 7).isoformat) := by
  have datetime (seconds : Int) (early : 0 ≤ seconds) (late : seconds ≤ 9) :
      (Site.time seconds).IsDatetime := by
    simp only [Instant.IsDatetime, Site.time, Instant.microsPerSecond, Instant.microsPerDay,
      Instant.maxOrdinal]
    omega
  refine ⟨due_when_time_has_come.1 _ _ (datetime 0 (by omega) (by omega))
    (datetime 1 (by omega) (by omega)), due_when_time_has_come.2 _ _ _ _ ?_ ?_ ?_⟩
  · exact ⟨by simp [Site.bridge, Table.empty], by simp [Site.bridge, Table.empty]⟩
  · intro step member
    simp only [List.mem_cons, List.not_mem_nil, or_false] at member
    rcases member with rfl | rfl | rfl
    · exact datetime 0 (by omega) (by omega)
    · exact datetime 1 (by omega) (by omega)
    · trivial
  · exact datetime 7 (by omega) (by omega)

end PresenceLogger.Bridge
