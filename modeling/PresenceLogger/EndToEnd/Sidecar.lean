import PresenceLogger.Bridge.GivenUp
import PresenceLogger.EndToEnd.MergeOnce
import PresenceLogger.Library.UniqueKey

/-!
# The record sender and the sidecar

`run_once` sends one row after another and waits for each answer, while messages
arrive on another thread.  A worker of the sidecar takes each request to Oracle in
a session of its own and does not learn that its client has given up waiting.
-/

namespace PresenceLogger.EndToEnd

open Library Bridge

/-! ## Oracle -/

/-- The columns of the unique key. A key of `NULL`s only is not in the index. -/
def uniqueKey (row : OracleRow) :
    Option (Option String × Option String × Option String × Option String) :=
  some (row.mkDate, row.staNo1, row.staNo2, row.staNo3) |>.filter (· ≠ (none, none, none, none))

/-- The session a worker opens for its request, and what the worker answered. -/
abbrev JdbcSession := Sql.Session OracleRow Transaction

abbrev Oracle := Sql.Database OracleRow Transaction

def OracleRow.IsFor (row : OracleRow) (eventId : String) : Prop :=
  row.insertedFor.map RecordPayload.eventId = some eventId
  deriving Decidable

/-- What a worker of the sidecar, or the session it has opened, does next. -/
inductive Work where
  | read
  | insert
  /-- The worker catches the exception of its refused insert. -/
  | refuse (message : Option String)
  /-- The transaction ends, and the worker answers. -/
  | finish (transaction : Transaction)
  /-- The worker answers while Oracle still holds the session. -/
  | abandon (transaction : Transaction)
  /-- Oracle ends a session whose worker is gone. -/
  | expire
  deriving DecidableEq, Repr

/-- `conn.commit()` has returned. -/
def commits : Transaction → Bool
  | .committed _ => true
  | .sqlException .. | .otherException .. => false

/-- The worker of this session is still at work, and may get to this end. -/
def mayEnd (session : JdbcSession) (transaction : Transaction) : Bool :=
  session.answer.isNone && session.phase.isLive &&
    (!commits transaction || session.phase = .matched || session.phase = .inserted)

def work (oracle : Oracle) (job : Nat) : Work → Oracle
  | .read => oracle.read onClause job
  | .insert => oracle.insert uniqueKey job
  | .refuse message =>
      match oracle.sessions[job]? with
      | some session =>
          if session.phase = .refused then oracle.tell job (.sqlException 0 1 message false)
          else oracle
      | none => oracle
  | .finish transaction =>
      match oracle.sessions[job]? with
      | some session =>
          if mayEnd session transaction then
            (oracle.tell job transaction).close Transaction.durable job
          else oracle
      | none => oracle
  | .abandon transaction =>
      match oracle.sessions[job]? with
      | some session =>
          if mayEnd session transaction && !commits transaction then oracle.tell job transaction
          else oracle
      | none => oracle
  | .expire =>
      match oracle.sessions[job]? with
      | some session =>
          if session.answer.isSome then oracle.close Transaction.durable job else oracle
      | none => oracle

/-! ## The bridge -/

/-- The record that a row of the inbox holds. -/
def payload (rec : RecordInboxEvent) : RecordPayload where
  eventId := rec.eventId
  mkDate := rec.mkDate
  staNo1 := rec.staNo1
  staNo2 := rec.staNo2
  staNo3 := rec.staNo3
  t1Status := rec.t1Status
  deviceId := rec.deviceId

/-- A call of `run_once` in its loop, with the rows that it has not sent yet. -/
structure Loop where
  profileName : String
  now : Instant
  rest : List RecordInboxEvent

/-- Where the main thread stands. -/
inductive Control where
  | idle
  | next (loop : Loop)
  /-- `_send_one` waits for the answer to this session's request. -/
  | awaiting (loop : Loop) (rec : RecordInboxEvent) (job : Nat)

/-- A crash of any routine ends the loop. -/
def Control.after (control : Control) : BridgeStep → Control
  | .complete _ => control
  | .cut .. => .idle

structure System where
  bridge : BridgeState
  /-- Everything the bridge has done. -/
  history : List Command := []
  control : Control := .idle
  oracle : Oracle

/-- What `_send_one` gets through the sidecar. -/
def jdbcReply (outcome : HttpOutcome) : MergeReply where
  result := executeMergeViaJdbc outcome
  durable := outcome.durable

namespace System

def perform (system : System) (commands : List Command) (control : Control) : System :=
  { system with
    bridge := system.bridge.replay commands
    history := system.history ++ commands
    control := control }

/-- `run_once` up to its loop. A profile of another client mode does not use the
sidecar. -/
def runOnce (system : System) (now : Instant) : System :=
  match system.bridge.resolver.peek system.bridge.network.cachedSsid with
  | .hold | .drop => system
  | .send profileName =>
      if (system.bridge.breaker.stateFor profileName (some now)).2 = .open then
        system.perform [.queryBreaker profileName now] .idle
      else
        match system.bridge.resolver.get profileName with
        | none => system.perform [.queryBreaker profileName now, .raise .keyError] .idle
        | some profile =>
            match profile.clientMode with
            | .thin | .thick => system
            | .jdbc =>
                system.perform [.queryBreaker profileName now] (.next
                  { profileName := profileName
                    now := now
                    rest := system.bridge.recordInbox.iterReceivedDue now.isoformat })

/-- The loop takes the next row, and `execute_merge_via_jdbc` sends its request. -/
def request (system : System) (loop : Loop) : System :=
  match loop.rest with
  | [] => { system with control := .idle }
  | rec :: rest =>
      { system with
        control := .awaiting { loop with rest := rest } rec system.oracle.sessions.length
        oracle := system.oracle.begin (sourceRow (payload rec)) }

/-- The rest of `_send_one`, which a crash may cut short. -/
def settle (deps : RecordSenderDeps) (system : System) (loop : Loop) (rec : RecordInboxEvent)
    (outcome : HttpOutcome) (crash : Option Nat) : System :=
  let commands := deps.sendOne loop.profileName loop.now rec (jdbcReply outcome)
  match crash with
  | some performed => system.perform (commands.take performed ++ [.restart]) .idle
  | none =>
      system.perform commands
        (if commands.any Command.isRaise then .idle else .next loop)

end System

inductive Step where
  /-- Another routine of the bridge, the handlers among them. -/
  | routine (step : BridgeStep)
  | runOnce (now : Instant)
  | request
  /-- The answer of the worker arrives. -/
  | reply (crash : Option Nat)
  /-- The request fails in another way, a timeout among them. -/
  | unanswered (outcome : HttpOutcome) (crash : Option Nat)
  | work (job : Nat) (work : Work)
  /-- Another writer begins to MERGE a row. -/
  | foreign (row : OracleRow)

namespace System

variable (deps : BridgeDeps)

def step (system : System) : Step → System
  | .routine step =>
      if step.routine.isRecordRun then system
      else
        system.perform (step.trace deps system.bridge) (system.control.after step)
  | .runOnce now =>
      match system.control with
      | .idle => if system.bridge.running then system.runOnce now else system
      | .next _ | .awaiting .. => system
  | .request =>
      match system.control with
      | .next loop => if system.bridge.running then system.request loop else system
      | .idle | .awaiting .. => system
  | .reply crash =>
      match system.control with
      | .awaiting loop rec job =>
          match (system.oracle.sessions[job]?).bind Sql.Session.answer with
          | some transaction =>
              if system.bridge.running then
                system.settle deps.recordSender loop rec (sidecarResponse transaction) crash
              else system
          | none => system
      | .idle | .next _ => system
  | .unanswered outcome crash =>
      match system.control, outcome with
      | .awaiting loop rec _, .httpError .. | .awaiting loop rec _, .unreachable .. =>
          if system.bridge.running then
            system.settle deps.recordSender loop rec outcome crash
          else system
      | .awaiting .., .response .. | .idle, _ | .next _, _ => system
  | .work job work => { system with oracle := EndToEnd.work system.oracle job work }
  | .foreign row =>
      { system with oracle := system.oracle.begin { row with insertedFor := none } }

/-- What a step can do: nothing, or what its name says where the main thread stands
ready for it. -/
inductive Takes (system : System) : Step → System → Prop
  | still {step : Step} : Takes system step system
  | routine {step : BridgeStep} (other : step.routine.isRecordRun = false) :
      Takes system (.routine step)
        (system.perform (step.trace deps system.bridge) (system.control.after step))
  | runOnce {now : Instant} (idle : system.control = .idle) :
      Takes system (.runOnce now) (system.runOnce now)
  | request {loop : Loop} (control : system.control = .next loop) :
      Takes system .request (system.request loop)
  | reply {loop : Loop} {rec : RecordInboxEvent} {job : Nat} {session : JdbcSession}
      {transaction : Transaction} {crash : Option Nat}
      (control : system.control = .awaiting loop rec job)
      (found : system.oracle.sessions[job]? = some session)
      (answered : session.answer = some transaction) :
      Takes system (.reply crash)
        (system.settle deps.recordSender loop rec (sidecarResponse transaction) crash)
  | unanswered {loop : Loop} {rec : RecordInboxEvent} {job : Nat} {outcome : HttpOutcome}
      {crash : Option Nat} (control : system.control = .awaiting loop rec job)
      (codeless : (executeMergeViaJdbc outcome).oraCode = none) :
      Takes system (.unanswered outcome crash)
        (system.settle deps.recordSender loop rec outcome crash)
  | work {job : Nat} {work : Work} :
      Takes system (.work job work)
        { system with oracle := EndToEnd.work system.oracle job work }
  | foreign {row : OracleRow} :
      Takes system (.foreign row)
        { system with oracle := system.oracle.begin { row with insertedFor := none } }

theorem takes_step (system : System) (step : Step) :
    Takes deps system step (system.step deps step) := by
  cases step with
  | routine step =>
      simp only [System.step]
      split
      · exact .still
      next other => exact .routine (Bool.eq_false_iff.mpr other)
  | runOnce now =>
      simp only [System.step]
      split
      next idle =>
        split
        · exact .runOnce idle
        · exact .still
      · exact .still
      · exact .still
  | request =>
      simp only [System.step]
      split
      next loop control =>
        split
        · exact .request control
        · exact .still
      · exact .still
      · exact .still
  | reply crash =>
      simp only [System.step]
      split
      next loop rec job control =>
        split
        next transaction answered =>
          rcases Option.bind_eq_some_iff.mp answered with ⟨session, found, tells⟩
          split
          · exact .reply control found tells
          · exact .still
        · exact .still
      · exact .still
      · exact .still
  | unanswered outcome crash =>
      simp only [System.step]
      split
      next loop rec job code reason durable control =>
        split
        · exact .unanswered control rfl
        · exact .still
      next loop rec job text durable control =>
        split
        · exact .unanswered control rfl
        · exact .still
      · exact .still
      · exact .still
      · exact .still
  | work job work => exact .work
  | foreign row => exact .foreign

/-- A bridge in front of a table that no session uses. -/
def start (bridge : BridgeState) (table : List OracleRow) : System where
  bridge := bridge
  oracle := { committed := table }

end System

def sidecarMachine (deps : BridgeDeps) : Machine System Step Empty where
  step system step := (system.step deps step, [])

/-- Whoever is told by a NACK that its record is given up on has no row in Oracle. -/
def NoFalseNack (system : System) : Prop :=
  ∀ nack, .publishRecordNack nack ∈ system.history →
    ∀ row ∈ system.oracle.committed, ¬row.IsFor nack.eventId

/-! ## One call -/

/-- The steps in which a call of `run_once` goes on, no crash and no other routine
among them. -/
def Step.serves : Step → Bool
  | .request | .reply none | .unanswered _ none | .work .. | .foreign _ => true
  | .routine _ | .runOnce _ | .reply (some _) | .unanswered _ (some _) => false

/-- Rows that were sent, with their answers. -/
abbrev Answers := List (RecordInboxEvent × MergeReply)

section Call

variable (deps : RecordSenderDeps) (loop : Loop)

/-- What `_send_one` does about rows that were answered. -/
def sent (answers : Answers) : List Command :=
  answers.flatMap fun answer => deps.sendOne loop.profileName loop.now answer.1 answer.2

/-- The call has these answers and goes on with these rows. -/
structure Continues (answers : Answers) (current : Loop)
    (rows : List RecordInboxEvent) : Prop where
  profileName : current.profileName = loop.profileName
  now : current.now = loop.now
  split : answers.map Prod.fst ++ rows = loop.rest
  calm : (sent deps loop answers).any Command.isRaise = false

/-- Where a call with these answers stands. At its end it has done what the loop does
under any oracle that gives them. -/
def Stands (answers : Answers) : Control → Prop
  | .next current => Continues deps loop answers current current.rest
  | .awaiting current rec _ => Continues deps loop answers current (rec :: current.rest)
  | .idle => ∀ reply : RecordInboxEvent → MergeReply,
      (∀ answer ∈ answers, reply answer.1 = answer.2) →
      sent deps loop answers = upToRaise (loop.rest.flatMap fun rec =>
        deps.sendOne loop.profileName loop.now rec (reply rec))

/-- The call that began after `origin` and what it has done so far. -/
def Serving (origin : List Command) (system : System) : Prop :=
  ∃ answers, answers.map Prod.fst <+: loop.rest ∧
    system.history = origin ++ sent deps loop answers ∧ Stands deps loop answers system.control

variable {deps loop} {origin : List Command} {system : System}

theorem sent_eq_flatMap {answers : Answers}
    {reply : RecordInboxEvent → MergeReply}
    (agrees : ∀ answer ∈ answers, reply answer.1 = answer.2) :
    sent deps loop answers = (answers.map Prod.fst).flatMap fun rec =>
      deps.sendOne loop.profileName loop.now rec (reply rec) := by
  rw [sent, List.flatMap_map]
  apply List.flatMap_congr
  intro answer member
  rw [agrees answer member]

theorem sent_append (answers : Answers) (rec : RecordInboxEvent)
    (reply : MergeReply) :
    sent deps loop (answers ++ [(rec, reply)]) =
      sent deps loop answers ++ deps.sendOne loop.profileName loop.now rec reply := by
  rw [sent, List.flatMap_append, List.flatMap_cons, List.flatMap_nil, List.append_nil]
  rfl

/-- An answer that arrives is settled as `_send_one` settles it. -/
theorem Serving.settle {answers : Answers} {current : Loop} {rec : RecordInboxEvent}
    (history : system.history = origin ++ sent deps loop answers)
    (continues : Continues deps loop answers current (rec :: current.rest))
    (outcome : HttpOutcome) :
    Serving deps loop origin (system.settle deps current rec outcome none) := by
  have told : sent deps loop (answers ++ [(rec, jdbcReply outcome)]) =
      sent deps loop answers ++
        deps.sendOne current.profileName current.now rec (jdbcReply outcome) := by
    rw [sent_append, continues.profileName, continues.now]
  have rows : (answers ++ [(rec, jdbcReply outcome)]).map Prod.fst ++ current.rest =
      loop.rest := by
    rw [← continues.split, List.map_append, List.append_assoc]
    rfl
  refine ⟨answers ++ [(rec, jdbcReply outcome)], ⟨current.rest, rows⟩, ?_, ?_⟩
  · rw [told, ← List.append_assoc, ← history]
    rfl
  · simp only [System.settle, System.perform]
    split
    next raises =>
      intro reply agrees
      rw [← rows, List.flatMap_append, ← sent_eq_flatMap agrees,
        upToRaise_append_of_raises (by rw [told, List.any_append, raises, Bool.or_true]),
        told, upToRaise_append_of_calm continues.calm, deps.upToRaise_sendOne]
    next calm =>
      rw [Bool.not_eq_true] at calm
      exact {
        profileName := continues.profileName
        now := continues.now
        split := rows
        calm := by rw [told, List.any_append, continues.calm, calm, Bool.or_false] }

theorem Serving.step {bridgeDeps : BridgeDeps}
    (serving : Serving bridgeDeps.recordSender loop origin system) {step : Step}
    (serves : step.serves = true) :
    Serving bridgeDeps.recordSender loop origin (system.step bridgeDeps step) := by
  have takes := System.takes_step bridgeDeps system step
  rcases serving with ⟨answers, sentSo, history, stands⟩
  generalize system.step bridgeDeps step = next at takes
  cases takes with
  | still => exact ⟨answers, sentSo, history, stands⟩
  | routine | runOnce => cases serves
  | @request current control =>
      rw [control] at stands
      refine ⟨answers, sentSo, ?_⟩
      have split := stands.split
      rw [System.request]
      split
      next rows =>
        refine ⟨history, fun reply agrees => ?_⟩
        rw [rows, List.append_nil] at split
        rw [← split, ← sent_eq_flatMap agrees, upToRaise_of_calm stands.calm]
      next rec rest rows =>
        rw [rows] at split
        exact ⟨history, stands.profileName, stands.now, split, stands.calm⟩
  | @reply _ _ _ _ _ crash control | @unanswered _ _ _ _ crash control =>
      cases crash with
      | some performed => cases serves
      | none =>
          rw [control] at stands
          exact Serving.settle history stands _
  | work | foreign => exact ⟨answers, sentSo, history, stands⟩

/-- A call that ended before its loop. -/
theorem serving_of_idle (history : system.history = origin) (idle : system.control = .idle)
    (now : Instant) : Serving deps { profileName := "", now := now, rest := [] } origin system := by
  refine ⟨[], List.nil_prefix, ?_, ?_⟩
  · rw [history]
    exact (List.append_nil _).symm
  · rw [idle]
    exact fun _ _ => rfl

/-- The guards of `run_once` let the loop begin where the sender's own do. -/
theorem serving_runOnce {now : Instant} (idle : system.control = .idle)
    (jdbc : ∀ profileName profile, system.bridge.resolver.get profileName = some profile →
      profile.clientMode = .jdbc) :
    ∃ loop origin, Serving deps loop origin (system.runOnce now) ∧
      (loop.rest.map RecordInboxEvent.eventId).Nodup ∧
      ∀ reply : RecordInboxEvent → MergeReply,
        system.history ++
            upToRaise (deps.runOnce system.bridge { now := now, oracle := fun _ => reply }) =
          origin ++ upToRaise (loop.rest.flatMap fun rec =>
            deps.sendOne loop.profileName loop.now rec (reply rec)) := by
  cases peeked : system.bridge.resolver.peek system.bridge.network.cachedSsid with
  | hold | drop =>
      simp only [System.runOnce, RecordSenderDeps.runOnce, peeked]
      exact ⟨_, _, serving_of_idle rfl idle now, List.nodup_nil, fun _ => rfl⟩
  | send profileName =>
      by_cases refused : (system.bridge.breaker.stateFor profileName (some now)).2 = .open
      · simp only [System.runOnce, RecordSenderDeps.runOnce, peeked, if_pos refused]
        exact ⟨_, _, serving_of_idle rfl rfl now, List.nodup_nil,
          fun _ => (List.append_nil _).symm⟩
      · cases configured : system.bridge.resolver.get profileName with
        | none =>
            simp only [System.runOnce, RecordSenderDeps.runOnce, peeked, if_neg refused, configured]
            exact ⟨_, _, serving_of_idle rfl rfl now, List.nodup_nil,
              fun _ => (List.append_nil _).symm⟩
        | some profile =>
            simp only [System.runOnce, RecordSenderDeps.runOnce, peeked, if_neg refused, configured,
              jdbc profileName profile configured]
            refine ⟨_, system.history ++ [.queryBreaker profileName now],
              ⟨[], List.nil_prefix, ?_, rfl, rfl, rfl, rfl⟩, RecordInbox.nodup_due _ _, fun _ => ?_⟩
            · exact (List.append_nil _).symm
            · rw [List.append_assoc]
              rfl

/-- Answers of different rows are those of one oracle. -/
theorem exists_reply {answers : Answers} (nodup : (answers.map Prod.fst).Nodup) :
    ∃ reply : RecordInboxEvent → MergeReply, ∀ answer ∈ answers, reply answer.1 = answer.2 := by
  induction answers with
  | nil =>
      exact ⟨fun _ => jdbcReply (.unreachable "" false),
        fun _ member => absurd member List.not_mem_nil⟩
  | cons first answers ih =>
      rw [List.map_cons, List.nodup_cons] at nodup
      rcases ih nodup.2 with ⟨reply, agrees⟩
      refine ⟨Function.update reply first.1 first.2, fun answer member => ?_⟩
      rcases List.mem_cons.mp member with rfl | later
      · exact Function.update_self ..
      · have apart : answer.1 ≠ first.1 := fun same =>
          nodup.1 (same ▸ List.mem_map_of_mem later)
        rw [Function.update_of_ne apart]
        exact agrees answer later

end Call

/-- A call of `run_once` that comes to its end performs what `RecordSender.run_once`
does with the answers that came, whatever the sessions did meanwhile. -/
theorem history_of_call {deps : BridgeDeps} {system : System} {now : Instant}
    {steps : List Step} (idle : system.control = .idle) (running : system.bridge.running = true)
    (jdbc : ∀ profileName profile, system.bridge.resolver.get profileName = some profile →
      profile.clientMode = .jdbc)
    (serving : ∀ step ∈ steps, step.serves = true)
    (returned : ((sidecarMachine deps).final system (.runOnce now :: steps)).control = .idle) :
    ∃ oracle, ((sidecarMachine deps).final system (.runOnce now :: steps)).history =
      system.history ++ upToRaise
        (deps.recordSender.runOnce system.bridge { now := now, oracle := oracle }) := by
  have began : system.step deps (.runOnce now) = system.runOnce now := by
    simp only [System.step, idle, running, if_true]
  rcases @serving_runOnce deps.recordSender system now idle jdbc with
    ⟨loop, origin, served, nodup, same⟩
  rw [← began] at served
  have ended : Serving deps.recordSender loop origin
      ((sidecarMachine deps).final (system.step deps (.runOnce now)) steps) :=
    @Machine.stateInvariant _ _ _ (sidecarMachine deps) (fun _ step => step.serves = true)
      (Serving deps.recordSender loop origin) (fun _ _ before serves => before.step serves) _ _
      served (Machine.Meets.of_forall fun step member _ => serving step member)
  rcases ended with ⟨answers, sentSo, history, stands⟩
  have atEnd : ((sidecarMachine deps).final (system.step deps (.runOnce now)) steps).control =
      .idle := returned
  rw [atEnd] at stands
  have different : (answers.map Prod.fst).Nodup :=
    (List.Nodup.of_map _ nodup).sublist sentSo.sublist
  rcases exists_reply different with ⟨reply, agrees⟩
  refine ⟨fun _ => reply, ?_⟩
  rw [same reply, ← stands reply agrees]
  exact history

end PresenceLogger.EndToEnd
