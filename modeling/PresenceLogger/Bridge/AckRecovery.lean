import PresenceLogger.Bridge.Runs

/-!
# What becomes of a lost acknowledgement

A row that is `sent` is not due, and a duplicate of its event is ignored, so the
bridge acknowledges the event again only after the row has been dropped, stored
anew and committed once more.
-/

namespace PresenceLogger.Bridge

open Library

/-- An ACK for this event is in the trace. -/
def Acknowledged (eventId : String) (trace : List Command) : Prop :=
  ∃ ack, .publishAck ack ∈ trace ∧ ack.eventId = eventId

/-- This call sends the event's row and takes the answer for a commit. -/
structure Resends (deps : BridgeDeps) (eventId : String) (bridge : BridgeState)
    (call : SenderCall) : Prop where
  running : bridge.running = true
  accepted : ∃ profileName profile event mkDate,
    deps.sender.Attempts bridge call profileName profile event mkDate ∧
    event.eventId = eventId ∧ (call.oracle profile event).result.oraCode = none

/-- The step is not cut short, or only behind the position of an ACK for the event. -/
def BridgeStep.ReachesAck (deps : BridgeDeps) (eventId : String) (bridge : BridgeState) :
    BridgeStep → Prop
  | .complete _ => True
  | .cut routine performed =>
      ∃ position < performed, ∃ ack, ack.eventId = eventId ∧
        (routine.performed deps bridge)[position]? = some (.publishAck ack)

/-- The row was dropped at some point of these steps. -/
def Dropped (deps : BridgeDeps) (eventId : String) (init : BridgeState)
    (steps : List BridgeStep) : Prop :=
  ∃ gone back, steps = gone ++ back ∧
    ((bridgeMachine deps).final init gone).inbox.get eventId = none

/-! ## Which calls acknowledge -/

theorem acknowledged_runOnce_iff (deps : SenderDeps) (bridge : BridgeState) (call : SenderCall)
    (eventId : String) :
    Acknowledged eventId (upToRaise (deps.runOnce bridge call)) ↔
      ∃ profileName profile event mkDate,
        deps.Attempts bridge call profileName profile event mkDate ∧
        event.eventId = eventId ∧ (call.oracle profile event).result.oraCode = none := by
  constructor
  · rintro ⟨ack, member, rfl⟩
    rcases deps.mem_runOnce member with opening |
      ⟨profileName, profile, event, mkDate, attempts, inRow⟩
    · exact absurd opening id
    · rcases List.mem_cons.mp inRow with other | inSettle
      · cases other
      · unfold SenderDeps.settle at inSettle
        split at inSettle
        next accepted =>
          simp only [List.mem_cons, reduceCtorEq, false_or, List.not_mem_nil, or_false] at inSettle
          refine ⟨profileName, profile, event, mkDate, attempts, ?_, accepted⟩
          rw [Command.publishAck.inj inSettle]
          rfl
        next =>
          rcases List.mem_cons.mp inSettle with other | later
          · cases other
          · split at later <;> simp at later
  · rintro ⟨profileName, profile, event, mkDate, attempts, rfl, accepted⟩
    refine ⟨deps.ack mkDate call.now event, ?_, rfl⟩
    rw [deps.upToRaise_runOnce attempts.toAdmits]
    refine List.mem_append_right _ (List.mem_flatMap.mpr ⟨event, attempts.reached, ?_⟩)
    simp only [SenderDeps.sendRow, attempts.dated, SenderDeps.sendOne, SenderDeps.settle, accepted]
    simp

/-- The bridge acknowledges an event in the calls that send its row, and
nowhere else. -/
theorem acknowledged_trace_iff (deps : BridgeDeps) (bridge : BridgeState) (step : BridgeStep)
    (eventId : String) :
    Acknowledged eventId (step.trace deps bridge) ↔
      ∃ call, step.routine = .senderRunOnce call ∧ Resends deps eventId bridge call ∧
        step.ReachesAck deps eventId bridge := by
  constructor
  · rintro ⟨ack, member, same⟩
    have performed := BridgeStep.mem_performed_of_mem_trace member (by simp)
    have running : bridge.running = true := Routine.running_of_mem performed
    rcases Routine.of_concernsEvents performed rfl with ⟨call, routine, inCall⟩ |
      ⟨payload, receivedAt, -, other⟩ | ⟨dropped, other, -⟩
    · refine ⟨call, routine, ⟨running, ?_⟩, ?_⟩
      · exact (acknowledged_runOnce_iff deps.sender bridge call eventId).mp ⟨ack, inCall, same⟩
      · cases step with
        | complete routine => trivial
        | cut routine length =>
            rcases List.mem_append.mp member with inPart | last
            · obtain ⟨position, found⟩ := List.mem_iff_getElem?.mp inPart
              rw [List.getElem?_take] at found
              split at found
              next early => exact ⟨position, early, ack, same, found⟩
              · cases found
            · simp at last
    · cases other
    · cases other
  · rintro ⟨call, routine, resends, reaches⟩
    cases step with
    | complete own =>
        obtain rfl := routine
        rw [BridgeStep.trace, Routine.performed, if_pos resends.running]
        exact (acknowledged_runOnce_iff deps.sender bridge call eventId).mpr resends.accepted
    | cut own length =>
        obtain ⟨position, early, ack, same, found⟩ := reaches
        refine ⟨ack, List.mem_append_left _ (List.mem_iff_getElem?.mpr ⟨position, ?_⟩), same⟩
        rw [List.getElem?_take_of_lt early]
        exact found

/-! ## A `sent` row stays until it is dropped -/

/-- The event's row is `sent`, or there is none. -/
def Settled (eventId : String) (bridge : BridgeState) : Prop :=
  ∀ row, bridge.inbox.get eventId = some row → row.status = .sent

theorem settled_exec {bridge : BridgeState} {command : Command} {eventId : String}
    (notInserted : ∀ event, command ≠ .insertEvent event) (settled : Settled eventId bridge) :
    Settled eventId (bridge.exec command) := by
  intro row found
  by_cases touched : command.touchedEvent = some eventId
  · cases command with
    | insertEvent event => exact absurd rfl (notInserted event)
    | markSent id mkDateCommitted profileAtSend sentAtIso =>
        simp only [BridgeState.exec, Inbox.get_markSent] at found
        split at found
        · obtain ⟨old, -, rfl⟩ := Option.map_eq_some_iff.mp found
          rfl
        · exact settled row found
    | updateRetry id retryCount nextRetryAtIso lastError =>
        simp only [BridgeState.exec, Inbox.get_updateRetry] at found
        split at found
        · obtain ⟨old, wasThere, rfl⟩ := Option.map_eq_some_iff.mp found
          exact settled old wasThere
        · exact settled row found
    | deleteEvent id =>
        simp only [BridgeState.exec, Table.get_delete] at found
        split at found
        · cases found
        · exact settled row found
    | _ => cases touched
  · rw [bridge.exec_inbox_get touched] at found
    exact settled row found

theorem settled_replay {bridge : BridgeState} {trace : List Command} {eventId : String}
    (notInserted : ∀ event, .insertEvent event ∉ trace) (settled : Settled eventId bridge) :
    Settled eventId (bridge.replay trace) := by
  induction trace generalizing bridge with
  | nil => exact settled
  | cons command trace ih =>
      apply ih
      · intro event member
        exact notInserted event (List.mem_cons_of_mem _ member)
      · apply settled_exec _ settled
        rintro event rfl
        exact notInserted event List.mem_cons_self

/-- While nothing is deleted a `sent` row stays, and its duplicates are ignored. -/
theorem sent_replay {bridge : BridgeState} {trace : List Command} {eventId : String}
    (notDeleted : ∀ id, .deleteEvent id ∉ trace) {row : InboxEvent}
    (found : bridge.inbox.get eventId = some row) (sent : row.status = .sent) :
    ∃ kept, (bridge.replay trace).inbox.get eventId = some kept ∧ kept.status = .sent := by
  induction trace generalizing bridge row with
  | nil => exact ⟨row, found, sent⟩
  | cons command trace ih =>
      obtain ⟨next, present, stillSent⟩ :
          ∃ next, (bridge.exec command).inbox.get eventId = some next ∧ next.status = .sent := by
        by_cases touched : command.touchedEvent = some eventId
        · cases command with
          | insertEvent event =>
              simp only [BridgeState.exec, Inbox.insertReceived, Table.get_insertOrIgnore, found]
              exact ⟨row, by simp, sent⟩
          | markSent id mkDateCommitted profileAtSend sentAtIso =>
              obtain rfl := Option.some.inj touched
              exact ⟨row.asSent mkDateCommitted profileAtSend sentAtIso,
                by simp [BridgeState.exec, Inbox.get_markSent, found], rfl⟩
          | updateRetry id retryCount nextRetryAtIso lastError =>
              obtain rfl := Option.some.inj touched
              exact ⟨row.withRetry retryCount nextRetryAtIso lastError,
                by simp [BridgeState.exec, Inbox.get_updateRetry, found], sent⟩
          | deleteEvent id => exact absurd List.mem_cons_self (notDeleted id)
          | _ => cases touched
        · exact ⟨row, by rw [bridge.exec_inbox_get touched, found], sent⟩
      exact ih (fun id member => notDeleted id (List.mem_cons_of_mem _ member)) present stillSent

/-- No step both stores events and drops them. -/
theorem settled_step {deps : BridgeDeps} {bridge : BridgeState} {eventId : String}
    (step : BridgeStep) (settled : Settled eventId bridge)
    (present : bridge.inbox.get eventId ≠ none) :
    Settled eventId (bridge.replay (step.trace deps bridge)) := by
  by_cases delivers : ∃ event, .insertEvent event ∈ step.trace deps bridge
  · obtain ⟨event, inserted⟩ := delivers
    obtain ⟨payload, receivedAt, routine, -⟩ :=
      Routine.of_insertEvent (BridgeStep.mem_performed_of_mem_trace inserted (by simp))
    obtain ⟨row, found⟩ := Option.ne_none_iff_exists'.mp present
    have notDeleted : ∀ id, .deleteEvent id ∉ step.trace deps bridge := by
      intro id deleted
      have performed := BridgeStep.mem_performed_of_mem_trace deleted (by simp)
      rcases Routine.of_concernsEvents performed rfl with ⟨call, other, -⟩ |
        ⟨other, time, -, impossible⟩ | ⟨dropped, -, notDelivery⟩
      · rw [routine] at other
        cases other
      · cases impossible
      · exact notDelivery payload receivedAt routine
    obtain ⟨kept, stays, sent⟩ := sent_replay notDeleted found (settled row found)
    intro other same
    rw [stays] at same
    exact Option.some.inj same ▸ sent
  · exact settled_replay (fun event member => delivers ⟨event, member⟩) settled

/-- From a `sent` row on, the row is settled until it has been dropped. -/
theorem settled_or_dropped {deps : BridgeDeps} {init : BridgeState} {eventId : String}
    (steps : List BridgeStep) (settled : Settled eventId init)
    (present : init.inbox.get eventId ≠ none) :
    Settled eventId ((bridgeMachine deps).final init steps) ∨
      Dropped deps eventId init steps := by
  induction steps generalizing init with
  | nil => exact .inl settled
  | cons step steps ih =>
      have next : Settled eventId ((bridgeMachine deps).final init [step]) :=
        settled_step step settled present
      by_cases dropped : ((bridgeMachine deps).final init [step]).inbox.get eventId = none
      · exact .inr ⟨[step], steps, rfl, dropped⟩
      · rcases ih next dropped with later | ⟨gone, back, rfl, absent⟩
        · exact .inl later
        · exact .inr ⟨step :: gone, back, rfl, absent⟩

/-- After a redelivery of an event whose row was `sent`, the bridge publishes an
ACK exactly when the row has been dropped and a later call sends it again. -/
theorem acknowledged_iff_dropped_and_resent (deps : BridgeDeps) (bridge : BridgeState)
    (row : InboxEvent) (payload : EventPayload) (receivedAt : Instant)
    (before after : List BridgeStep) (found : bridge.inbox.get payload.eventId = some row)
    (sent : row.status = .sent) :
    Acknowledged payload.eventId ((bridgeMachine deps).trace
      ((bridgeMachine deps).final bridge before)
      (.complete (.onEvent payload receivedAt) :: after)) ↔
    ∃ earlier step later call, after = earlier ++ step :: later ∧
      step.routine = .senderRunOnce call ∧
      Dropped deps payload.eventId bridge
        (before ++ .complete (.onEvent payload receivedAt) :: earlier) ∧
      Resends deps payload.eventId ((bridgeMachine deps).final bridge
        (before ++ .complete (.onEvent payload receivedAt) :: earlier)) call ∧
      step.ReachesAck deps payload.eventId ((bridgeMachine deps).final bridge
        (before ++ .complete (.onEvent payload receivedAt) :: earlier)) := by
  have settled : Settled payload.eventId bridge := by
    intro other same
    rw [found] at same
    exact Option.some.inj same ▸ sent
  have present : bridge.inbox.get payload.eventId ≠ none := by
    rw [found]
    exact Option.some_ne_none row
  constructor
  · rintro ⟨ack, member, same⟩
    obtain ⟨earlier, step, later, split, emitted⟩ := (bridgeMachine deps).mem_trace.mp member
    rw [← Machine.final_append] at emitted
    obtain ⟨call, routine, resends, reaches⟩ :=
      (acknowledged_trace_iff deps _ step payload.eventId).mp ⟨ack, emitted, same⟩
    cases earlier with
    | nil =>
        obtain rfl := (List.cons.inj split).1
        cases routine
    | cons first earlier =>
        obtain ⟨rfl, rfl⟩ := List.cons.inj split
        refine ⟨earlier, step, later, call, rfl, routine, ?_, resends, reaches⟩
        rcases settled_or_dropped (before ++ .complete (.onEvent payload receivedAt) :: earlier)
          settled present with stays | dropped
        · -- the row that is sent again is `received`, so it is not the old one
          obtain ⟨profileName, profile, event, mkDate, attempts, sameId, -⟩ := resends.accepted
          have isSent := stays event (sameId ▸ Inbox.get_of_due attempts.due)
          rw [Inbox.status_of_due attempts.due] at isSent
          cases isSent
        · exact dropped
  · rintro ⟨earlier, step, later, call, rfl, routine, -, resends, reaches⟩
    obtain ⟨ack, emitted, same⟩ := (acknowledged_trace_iff deps _ step payload.eventId).mpr
      ⟨call, routine, resends, reaches⟩
    rw [Machine.final_append] at emitted
    refine ⟨ack, (bridgeMachine deps).mem_trace.mpr ?_, same⟩
    exact ⟨_ :: earlier, step, later, rfl, emitted⟩

/-! ## A duplicate without an answer -/

namespace Site

/-- The event was committed, and its ACK published. -/
def committed : BridgeState :=
  (bridgeMachine deps).final oneEvent
    [.complete (.senderRunOnce (senderCall 10 (answered (.committed 1))))]

/-- A call of the sender, a restart and one more call. -/
def afterDuplicate : List BridgeStep :=
  [.complete (.senderRunOnce (senderCall 21 (answered (.committed 1)))),
    .cut (.pollNetwork nmcli) 0,
    .complete (.senderRunOnce (senderCall 31 (answered (.committed 1))))]

end Site

/-- The redelivery of a committed event is not acknowledged, before or after a
restart. -/
theorem not_acknowledged_duplicate :
    ¬Acknowledged "e1" ((bridgeMachine Site.deps).trace Site.committed
      (.complete (.onEvent (Site.event "e1") (Site.time 20)) :: Site.afterDuplicate)) := by
  rintro ⟨ack, member, -⟩
  have quiet : ∀ command ∈ (bridgeMachine Site.deps).trace Site.committed
      (.complete (.onEvent (Site.event "e1") (Site.time 20)) :: Site.afterDuplicate),
      command.followsMerge = false := by
    decide +kernel
  cases quiet _ member

/-- It is acknowledged when retention has dropped the row in between. -/
theorem acknowledged_dropped_duplicate :
    Acknowledged "e1" ((bridgeMachine Site.deps).trace
      ((bridgeMachine Site.deps).final Site.committed [.complete (.deleteSentEvents 0)])
      (.complete (.onEvent (Site.event "e1") (Site.time 20)) :: Site.afterDuplicate)) := by
  apply (acknowledged_iff_dropped_and_resent Site.deps Site.committed
    (((Site.event "e1").toRow (some "HIME-H-REAP") (Site.time 0)).asSent "20260925120000"
      "HIME-H-REAP" (Site.time 10).isoformat) (Site.event "e1") (Site.time 20)
    [.complete (.deleteSentEvents 0)] Site.afterDuplicate (by decide +kernel) rfl).mpr
  refine ⟨[], _, _, _, rfl, rfl, ⟨[.complete (.deleteSentEvents 0)], _, rfl, ?_⟩, ⟨?_, ?_⟩, trivial⟩
  · decide +kernel
  · decide +kernel
  · refine ⟨"HIME-H-REAP", Site.profile,
      (Site.event "e1").toRow (some "HIME-H-REAP") (Site.time 20), "20260925120000",
      ⟨⟨?_, ?_, ?_⟩, ?_, ?_⟩, rfl, ?_⟩
    all_goals decide +kernel

end PresenceLogger.Bridge
