import PresenceLogger.EndToEnd.Sidecar

/-!
# NACKs that are true

ORA-00001 tells that a row with the record's key is there, not whose row it is.
It is another record's as long as no two MERGEs of one record overlap and a record
that has its row is found by its MERGE.
-/

namespace PresenceLogger.EndToEnd

open Library Bridge

/-- Oracle has no row of this record. -/
def NoRow (oracle : Oracle) (eventId : String) : Prop :=
  ∀ row ∈ oracle.committed, ¬row.IsFor eventId

/-- The rows of the table and of the sessions. -/
def allRows (oracle : Oracle) : List OracleRow :=
  oracle.committed ++ oracle.sessions.map Sql.Session.row

/-- The row may be committed yet. -/
abbrev MayCommit (session : JdbcSession) : Prop := session.mayCommit Transaction.durable = true

/-- A row with the key of this one is in the table. -/
def KeyTaken (oracle : Oracle) (row : OracleRow) : Prop :=
  ∃ holder ∈ oracle.committed, Sql.clash uniqueKey holder row = true

/-- A MERGE of this record may be requested. -/
structure MayMerge (system : System) (rec : RecordInboxEvent) : Prop where
  /-- No earlier MERGE of the record can still commit. -/
  spent : ∀ session ∈ system.oracle.sessions, session.row.IsFor rec.eventId → ¬MayCommit session
  /-- Its id has always stood for this content. -/
  same : ∀ row ∈ allRows system.oracle, row.IsFor rec.eventId → row = sourceRow (payload rec)
  /-- The MERGE finds the record's row, if there is one. -/
  found : NoRow system.oracle rec.eventId ∨
    (rec.mkDate ≠ "" ∧ rec.staNo1 ≠ "" ∧ rec.staNo2 ≠ "" ∧ rec.staNo3 ≠ "")
  /-- A record that was given up on is sent again only while its key is taken. -/
  final : GivenUp system.history rec.eventId →
    KeyTaken system.oracle (sourceRow (payload rec))

/-- The answer of this session may reach the bridge: an unretryable code, other than
that of the unique key, is of a MERGE that comes to nothing. -/
def MayConclude (deps : RecordSenderDeps) (oracle : Oracle) (eventId : String) (job : Nat) :
    Prop :=
  ∀ session, oracle.sessions[job]? = some session →
    ∀ transaction, session.answer = some transaction →
      Text.OneLine transaction.errorMessage ∧
        ∀ code ∈ transaction.oraCode, code ∈ deps.unretryableOraCodes →
          session.phase = .refused ∨ (¬MayCommit session ∧ NoRow oracle eventId)

/-- The step neither overlaps MERGEs of one record nor reports a failure of one that
has its row. -/
def Careful (deps : BridgeDeps) (system : System) : Step → Prop
  | .request =>
      ∀ loop rec rest, system.control = .next loop → loop.rest = rec :: rest →
        MayMerge system rec
  | .reply _ =>
      ∀ loop rec job, system.control = .awaiting loop rec job →
        MayConclude deps.recordSender system.oracle rec.eventId job
  | .routine _ | .runOnce _ | .unanswered .. | .work .. | .foreign _ => True

/-! ## The invariant -/

@[simp] theorem isFor_sourceRow (record : RecordPayload) (eventId : String) :
    (sourceRow record).IsFor eventId ↔ record.eventId = eventId := by
  simp [OracleRow.IsFor, sourceRow]

/-- A record that has been MERGEd has one content. -/
def Uniform (oracle : Oracle) : Prop :=
  ∀ (index : Nat) (session : JdbcSession), oracle.sessions[index]? = some session →
    ∀ eventId, session.row.IsFor eventId →
      ∀ row ∈ allRows oracle, row.IsFor eventId → row = session.row

/-- This session is the only one that can bring the record its row, and it was not
refused by the record's own. -/
structure Sole (oracle : Oracle) (record : RecordPayload) (job : Nat) : Prop where
  own : ∃ session, oracle.sessions[job]? = some session ∧ session.row = sourceRow record
  alone : ∀ (index : Nat) (session : JdbcSession), oracle.sessions[index]? = some session →
    session.row.IsFor record.eventId → MayCommit session → index = job
  queued : ∀ session, oracle.sessions[job]? = some session → session.phase = .queued →
    NoRow oracle record.eventId ∨ onClause (sourceRow record) (sourceRow record) = true
  clean : ∀ session, oracle.sessions[job]? = some session →
    session.phase = .unmatched ∨ session.phase = .refused → NoRow oracle record.eventId

/-- The record has no row and gets none. -/
structure Barred (oracle : Oracle) (eventId : String) : Prop where
  absent : NoRow oracle eventId
  held : ∀ (index : Nat) (session : JdbcSession), oracle.sessions[index]? = some session →
    session.row.IsFor eventId → MayCommit session → KeyTaken oracle session.row

/-- The request that the main thread waits for. -/
def Control.awaited : Control → Option (RecordPayload × Nat)
  | .awaiting _ rec job => some (payload rec, job)
  | .idle | .next _ => none

/-- What holds of Oracle while one session is awaited. -/
structure Consistent (awaited : Option (RecordPayload × Nat)) (givenUp : String → Prop)
    (oracle : Oracle) : Prop where
  unique : oracle.UniqueKeys uniqueKey
  uniform : Uniform oracle
  sole : ∀ record job, awaited = some (record, job) → Sole oracle record job
  barred : ∀ eventId, givenUp eventId → Barred oracle eventId

/-! ## Steps of the sessions -/

section Move

variable {oracle : Oracle} {index : Nat} {before after : JdbcSession}
  {added : List OracleRow}

theorem mem_allRows_of_session {session : JdbcSession}
    (found : oracle.sessions[index]? = some session) : session.row ∈ allRows oracle :=
  List.mem_append_right _ (List.mem_map_of_mem (List.mem_of_getElem? found))

theorem mem_allRows_of_moved (found : oracle.sessions[index]? = some before)
    (moves : before.Moves uniqueKey onClause Transaction.durable oracle after added)
    {row : OracleRow} (member : row ∈ allRows (oracle.moved index after added)) :
    row ∈ allRows oracle := by
  rcases List.mem_append.mp member with stored | held
  · rcases List.mem_append.mp stored with earlier | new
    · exact List.mem_append_left _ earlier
    · rw [(moves.of_added new).1]
      exact mem_allRows_of_session found
  · rcases List.mem_map.mp held with ⟨session, inSessions, rfl⟩
    rcases List.mem_iff_getElem?.mp inSessions with ⟨other, reached⟩
    rcases Sql.Database.session_before found moves reached with ⟨earlier, was, same, -⟩
    rw [← same]
    exact mem_allRows_of_session was

theorem KeyTaken.moved {row : OracleRow} (taken : KeyTaken oracle row) :
    KeyTaken (oracle.moved index after added) row := by
  rcases taken with ⟨holder, member, clashes⟩
  exact ⟨holder, List.mem_append_left _ member, clashes⟩

theorem Uniform.move (uniform : Uniform oracle) (found : oracle.sessions[index]? = some before)
    (moves : before.Moves uniqueKey onClause Transaction.durable oracle after added) :
    Uniform (oracle.moved index after added) := by
  intro other session reached eventId isFor row member rowIsFor
  rcases Sql.Database.session_before found moves reached with ⟨earlier, was, same, -⟩
  rw [← same] at isFor ⊢
  exact uniform other earlier was eventId isFor row (mem_allRows_of_moved found moves member)
    rowIsFor

/-- No step commits a row of a record whose key is taken. -/
theorem Barred.move {eventId : String} (barred : Barred oracle eventId)
    (unique : oracle.UniqueKeys uniqueKey) (found : oracle.sessions[index]? = some before)
    (moves : before.Moves uniqueKey onClause Transaction.durable oracle after added) :
    Barred (oracle.moved index after added) eventId where
  absent row member isFor := by
    rcases List.mem_append.mp member with earlier | new
    · exact barred.absent row earlier isFor
    · rcases moves.of_added new with ⟨rfl, inserted, may⟩
      rcases barred.held index before found isFor may with ⟨holder, stored, clashes⟩
      rw [unique.apart index before found inserted holder stored] at clashes
      cases clashes
  held other session reached isFor may := by
    rcases Sql.Database.session_before found moves reached with ⟨earlier, was, same, mayBefore⟩
    rw [← same] at isFor ⊢
    exact (barred.held other earlier was isFor (mayBefore may)).moved

/-- The session whose statement finds no row has none of its record before it. -/
theorem Sole.noRow_of_unseen {record : RecordPayload} {job : Nat} (sole : Sole oracle record job)
    (uniform : Uniform oracle) {session : JdbcSession}
    (found : oracle.sessions[job]? = some session) (queued : session.phase = .queued)
    (unseen : ∀ row ∈ oracle.committed, onClause row session.row = false) :
    NoRow oracle record.eventId := by
  rcases sole.queued session found queued with none | agrees
  · exact none
  · intro row member isFor
    rcases sole.own with ⟨own, wasFound, ownRow⟩
    rw [found] at wasFound
    cases wasFound
    have same : row = session.row := by
      apply uniform job session found record.eventId _ row (List.mem_append_left _ member) isFor
      rw [ownRow, isFor_sourceRow]
    have missed := unseen row member
    rw [same, ownRow, agrees] at missed
    cases missed

/-- Another session brings the record no row. -/
theorem Sole.noRow_of_ne {record : RecordPayload} {job : Nat} (sole : Sole oracle record job)
    (found : oracle.sessions[index]? = some before)
    (moves : before.Moves uniqueKey onClause Transaction.durable oracle after added)
    (other : job ≠ index) (none : NoRow oracle record.eventId) :
    NoRow (oracle.moved index after added) record.eventId := by
  intro row member isFor
  rcases List.mem_append.mp member with earlier | new
  · exact none row earlier isFor
  · rcases moves.of_added new with ⟨rfl, -, may⟩
    exact other (sole.alone index before found isFor may).symm

theorem Sole.move {record : RecordPayload} {job : Nat} (sole : Sole oracle record job)
    (uniform : Uniform oracle) (found : oracle.sessions[index]? = some before)
    (moves : before.Moves uniqueKey onClause Transaction.durable oracle after added) :
    Sole (oracle.moved index after added) record job where
  own := by
    rcases sole.own with ⟨session, was, ownRow⟩
    by_cases here : job = index
    · subst here
      rw [found] at was
      cases was
      have inside := (List.getElem?_eq_some_iff.mp found).1
      exact ⟨after, List.getElem?_set_self inside, moves.row.trans ownRow⟩
    · exact ⟨session, (List.getElem?_set_ne (Ne.symm here)).trans was, ownRow⟩
  alone other session reached isFor may := by
    rcases Sql.Database.session_before found moves reached with ⟨earlier, was, same, mayBefore⟩
    rw [← same] at isFor
    exact sole.alone other earlier was isFor (mayBefore may)
  queued session reached phase := by
    rcases Sql.Database.session_moved found reached with ⟨rfl, rfl⟩ | ⟨other, unmoved⟩
    · cases moves with
      | told => simpa [NoRow, Sql.Database.moved] using sole.queued before found phase
      | _ => cases phase
    · exact (sole.queued session unmoved phase).imp_left (sole.noRow_of_ne found moves other)
  clean session reached phase := by
    rcases Sql.Database.session_moved found reached with ⟨rfl, rfl⟩ | ⟨other, unmoved⟩
    · have still (none : NoRow oracle record.eventId) :
          NoRow (oracle.moved job session []) record.eventId := by
        simpa [NoRow, Sql.Database.moved] using none
      cases moves with
      | unmatched queued unseen => exact still (sole.noRow_of_unseen uniform found queued unseen)
      | refused unmatched => exact still (sole.clean before found (.inl unmatched))
      | told => exact still (sole.clean before found phase)
      | _ => rcases phase with phase | phase <;> cases phase
    · exact sole.noRow_of_ne found moves other (sole.clean session unmoved phase)

end Move

section Consistent

variable {awaited : Option (RecordPayload × Nat)} {givenUp : String → Prop} {oracle : Oracle}

theorem Consistent.goes (consistent : Consistent awaited givenUp oracle) {next : Oracle}
    (goes : oracle.Goes uniqueKey onClause Transaction.durable next) :
    Consistent awaited givenUp next where
  unique := consistent.unique.goes goes
  uniform := by
    cases goes with
    | still => exact consistent.uniform
    | move found moves => exact consistent.uniform.move found moves
  sole := by
    intro record job awaits
    have sole := consistent.sole record job awaits
    cases goes with
    | still => exact sole
    | move found moves => exact sole.move consistent.uniform found moves
  barred := by
    intro eventId given
    have barred := consistent.barred eventId given
    cases goes with
    | still => exact barred
    | move found moves => exact barred.move consistent.unique found moves

/-- Whatever a worker does keeps the invariant. -/
theorem Consistent.work (consistent : Consistent awaited givenUp oracle) (job : Nat)
    (work : Work) : Consistent awaited givenUp (EndToEnd.work oracle job work) := by
  cases work with
  | read => exact consistent.goes (Sql.Database.goes_read ..)
  | insert => exact consistent.goes (Sql.Database.goes_insert ..)
  | refuse message =>
      simp only [EndToEnd.work]
      split
      · split
        · exact consistent.goes (Sql.Database.goes_tell ..)
        · exact consistent
      · exact consistent
  | finish transaction =>
      simp only [EndToEnd.work]
      split
      · split
        · have told := consistent.goes
            (Sql.Database.goes_tell uniqueKey onClause Transaction.durable oracle job transaction)
          exact told.goes (Sql.Database.goes_close ..)
        · exact consistent
      · exact consistent
  | abandon transaction =>
      simp only [EndToEnd.work]
      split
      · split
        · exact consistent.goes (Sql.Database.goes_tell ..)
        · exact consistent
      · exact consistent
  | expire =>
      simp only [EndToEnd.work]
      split
      · split
        · exact consistent.goes (Sql.Database.goes_close ..)
        · exact consistent
      · exact consistent

/-! ## New sessions -/

theorem Consistent.mono (consistent : Consistent awaited givenUp oracle)
    {fewer : Option (RecordPayload × Nat)} {known : String → Prop}
    (awaits : ∀ request, fewer = some request → awaited = some request)
    (knows : ∀ eventId, known eventId → givenUp eventId) : Consistent fewer known oracle where
  unique := consistent.unique
  uniform := consistent.uniform
  sole record job same := consistent.sole record job (awaits _ same)
  barred eventId given := consistent.barred eventId (knows eventId given)

theorem Uniform.begin (uniform : Uniform oracle) {row : OracleRow}
    (same : ∀ eventId, row.IsFor eventId →
      ∀ other ∈ allRows oracle, other.IsFor eventId → other = row) :
    Uniform (oracle.begin row) := by
  intro index session reached eventId isFor other member otherIsFor
  have known : other ∈ allRows oracle ∨ other = row := by
    simpa [allRows, Sql.Database.begin, or_assoc] using member
  rcases Sql.Database.session_begin reached with ⟨-, rfl⟩ | earlier
  · rcases known with stored | rfl
    · exact same eventId isFor other stored otherIsFor
    · rfl
  · rcases known with stored | rfl
    · exact uniform index session earlier eventId isFor other stored otherIsFor
    · exact (same eventId otherIsFor session.row (mem_allRows_of_session earlier) isFor).symm

theorem Barred.begin {eventId : String} (barred : Barred oracle eventId) {row : OracleRow}
    (taken : row.IsFor eventId → KeyTaken oracle row) : Barred (oracle.begin row) eventId where
  absent := barred.absent
  held index session reached isFor may := by
    rcases Sql.Database.session_begin reached with ⟨-, rfl⟩ | earlier
    · exact taken isFor
    · exact barred.held index session earlier isFor may

theorem Sole.begin {record : RecordPayload} {job : Nat} (sole : Sole oracle record job)
    {row : OracleRow} (foreign : ¬row.IsFor record.eventId) :
    Sole (oracle.begin row) record job := by
  rcases sole.own with ⟨own, was, ownRow⟩
  have inside := (List.getElem?_eq_some_iff.mp was).1
  have earlier {session : JdbcSession}
      (reached : (oracle.begin row).sessions[job]? = some session) :
      oracle.sessions[job]? = some session := by
    rwa [Sql.Database.begin, List.getElem?_append_left inside] at reached
  exact {
    own := ⟨own, (List.getElem?_append_left inside).trans was, ownRow⟩
    alone := by
      intro index session reached isFor may
      rcases Sql.Database.session_begin reached with ⟨-, rfl⟩ | before
      · exact absurd isFor foreign
      · exact sole.alone index session before isFor may
    queued := fun session reached => sole.queued session (earlier reached)
    clean := fun session reached => sole.clean session (earlier reached) }

/-- The request of a MERGE that may be made. -/
theorem Consistent.request {system : System} {rec : RecordInboxEvent}
    (consistent : Consistent awaited (GivenUp system.history) system.oracle)
    (may : MayMerge system rec) :
    Consistent (some (payload rec, system.oracle.sessions.length)) (GivenUp system.history)
      (system.oracle.begin (sourceRow (payload rec))) where
  unique := consistent.unique.begin _
  uniform := by
    apply consistent.uniform.begin
    intro eventId isFor other member otherIsFor
    rw [← (isFor_sourceRow _ _).mp isFor] at otherIsFor
    exact may.same other member otherIsFor
  sole := by
    intro record job awaits
    cases awaits
    exact {
      own := ⟨{ row := sourceRow (payload rec) }, List.getElem?_concat_length, rfl⟩
      alone := by
        intro index session reached isFor mayCommit
        rcases Sql.Database.session_begin reached with ⟨here, -⟩ | earlier
        · exact here
        · exact absurd mayCommit (may.spent session (List.mem_of_getElem? earlier) isFor)
      queued := by
        intro session reached queued
        rcases may.found with none | named
        · exact .inl none
        · exact .inr ((onClause_sourceRow _).mpr named)
      clean := by
        intro session reached phase
        rcases Sql.Database.session_begin reached with ⟨-, rfl⟩ | earlier
        · rcases phase with phase | phase <;> cases phase
        · rw [List.getElem?_eq_none (Nat.le_refl _)] at earlier
          cases earlier }
  barred := by
    intro eventId given
    apply (consistent.barred eventId given).begin
    intro isFor
    rw [isFor_sourceRow] at isFor
    rw [← isFor] at given
    exact may.final given

theorem Consistent.foreign (consistent : Consistent awaited givenUp oracle) (row : OracleRow) :
    Consistent awaited givenUp (oracle.begin { row with insertedFor := none }) where
  unique := consistent.unique.begin _
  uniform := consistent.uniform.begin nofun
  sole record job awaits := (consistent.sole record job awaits).begin nofun
  barred eventId given := (consistent.barred eventId given).begin nofun

/-! ## Answers -/

/-- The record whose MERGE is given up on has no row and gets none. -/
theorem Consistent.barred_of_conclude {deps : RecordSenderDeps} {record : RecordPayload} {job : Nat}
    (consistent : Consistent (some (record, job)) givenUp oracle)
    (may : MayConclude deps oracle record.eventId job) {session : JdbcSession}
    (found : oracle.sessions[job]? = some session) {transaction : Transaction}
    (answered : session.answer = some transaction) {code : Int}
    (reads : (executeMergeViaJdbc (sidecarResponse transaction)).oraCode = some code)
    (unretryable : code ∈ deps.unretryableOraCodes) : Barred oracle record.eventId := by
  have sole := consistent.sole record job rfl
  rcases may session found transaction answered with ⟨plain, concludes⟩
  rcases concludes code (oraCode_of_executeMergeViaJdbc plain reads) unretryable with
    refused | ⟨spent, none⟩
  · refine ⟨sole.clean session found (.inr refused), ?_⟩
    intro index other reached isFor _
    rcases sole.own with ⟨own, was, ownRow⟩
    rw [found] at was
    cases was
    have same : other.row = session.row := by
      apply consistent.uniform job session found record.eventId _ other.row
        (mem_allRows_of_session reached) isFor
      rw [ownRow, isFor_sourceRow]
    rw [same]
    exact consistent.unique.held job session found refused
  · refine ⟨none, ?_⟩
    intro index other reached isFor mayCommit
    have here := sole.alone index other reached isFor mayCommit
    rw [here, found] at reached
    cases reached
    exact absurd mayCommit spent

end Consistent

/-! ## Whole runs -/

structure Truthful (system : System) : Prop where
  told : Told system.history system.bridge
  consistent : Consistent system.control.awaited (GivenUp system.history) system.oracle

variable {system : System}

/-- A thread that waits for nothing. -/
theorem awaited_of_none {awaited : Option (RecordPayload × Nat)} {request : RecordPayload × Nat}
    (same : none = some request) : awaited = some request := by
  cases same

theorem Truthful.noFalseNack (truthful : Truthful system) : NoFalseNack system := by
  intro nack published
  exact (truthful.consistent.barred _ (truthful.told.nacked nack published)).absent

theorem Truthful.perform (truthful : Truthful system) {commands : List Command} {control : Control}
    (meets : historyMachine.Meets Permitted (system.bridge, system.history) commands)
    (awaits : ∀ request, control.awaited = some request →
      system.control.awaited = some request)
    (bars : ∀ eventId, GivenUp commands eventId → Barred system.oracle eventId) :
    Truthful (system.perform commands control) where
  told := truthful.told.replay meets
  consistent := {
    unique := truthful.consistent.unique
    uniform := truthful.consistent.uniform
    sole := fun record job same => truthful.consistent.sole record job (awaits _ same)
    barred := by
      intro eventId given
      rcases givenUp_append.mp given with earlier | new
      · exact truthful.consistent.barred eventId earlier
      · exact bars eventId new }

/-- Steps that give up on no record. -/
theorem Truthful.performUnobtrusive (truthful : Truthful system) {commands : List Command}
    {control : Control}
    (meets : historyMachine.Meets Unobtrusive (system.bridge, system.history) commands)
    (awaits : ∀ request, control.awaited = some request →
      system.control.awaited = some request) : Truthful (system.perform commands control) := by
  apply truthful.perform (meets.mono fun _ _ both => both.1) awaits
  intro eventId given
  have silent := (meets.mono fun _ _ both => both.2).forall_mem
  exact absurd given (not_givenUp silent eventId)

theorem Truthful.settle (truthful : Truthful system) {deps : RecordSenderDeps} {loop : Loop}
    {rec : RecordInboxEvent} {outcome : HttpOutcome}
    (bars : ∀ code ∈ (executeMergeViaJdbc outcome).oraCode, code ∈ deps.unretryableOraCodes →
      Barred system.oracle rec.eventId) (crash : Option Nat) :
    Truthful (system.settle deps loop rec outcome crash) := by
  have meets := deps.permitted_sendOne (system.bridge, system.history) loop.profileName loop.now
    rec (jdbcReply outcome)
  have barred {command : Command}
      (member : command ∈ deps.sendOne loop.profileName loop.now rec (jdbcReply outcome))
      {eventId : String} (gives : command.givesUp = some eventId) :
      Barred system.oracle eventId := by
    rcases RecordSenderDeps.givesUp_of_mem_sendOne member gives with ⟨rfl, code, named, listed⟩
    exact bars code named listed
  cases crash with
  | some performed =>
      apply truthful.perform (meets_cut meets (fun _ => trivial) performed)
      · exact fun _ => awaited_of_none
      · intro eventId given
        rcases given with ⟨command, member, gives⟩
        rcases List.mem_append.mp member with part | last
        · exact barred (List.mem_of_mem_take part) gives
        · rw [List.mem_singleton.mp last] at gives
          cases gives
  | none =>
      apply truthful.perform meets
      · intro request
        split <;> exact awaited_of_none
      · intro eventId given
        rcases given with ⟨command, member, gives⟩
        exact barred member gives

theorem Truthful.runOnce (truthful : Truthful system) (now : Instant) :
    Truthful (system.runOnce now) := by
  have asked (profileName : String) : Unobtrusive (system.bridge, system.history)
      (.queryBreaker profileName now) := unobtrusive_of_elsewhere rfl _
  rw [System.runOnce]
  split
  · exact truthful
  · exact truthful
  · split
    · exact truthful.performUnobtrusive ⟨asked _, trivial⟩ fun _ => awaited_of_none
    · split
      · exact truthful.performUnobtrusive ⟨asked _, unobtrusive_of_elsewhere rfl _, trivial⟩
          fun _ => awaited_of_none
      · split
        · exact truthful
        · exact truthful
        · exact truthful.performUnobtrusive ⟨asked _, trivial⟩ fun _ => awaited_of_none

theorem Truthful.step (truthful : Truthful system) {deps : BridgeDeps} {step : Step}
    (careful : Careful deps system step) : Truthful (system.step deps step) := by
  have takes := System.takes_step deps system step
  generalize system.step deps step = next at takes
  cases takes with
  | still => exact truthful
  | @routine step other =>
      apply truthful.performUnobtrusive (truthful.told.meets_step deps other)
      cases step with
      | complete routine => exact fun _ same => same
      | cut routine performed => exact fun _ => awaited_of_none
  | runOnce idle => exact truthful.runOnce _
  | @request loop control =>
      rw [System.request]
      split
      · exact ⟨truthful.told,
          truthful.consistent.mono (fun _ => awaited_of_none) fun _ given => given⟩
      next rec rest rows =>
        exact ⟨truthful.told, truthful.consistent.request (careful loop rec rest control rows)⟩
  | @reply loop rec job session transaction crash control found answered =>
      apply truthful.settle
      intro code reads unretryable
      have consistent := truthful.consistent
      rw [control] at consistent
      exact consistent.barred_of_conclude (careful loop rec job control) found answered reads
        unretryable
  | @unanswered loop rec job outcome crash control codeless =>
      apply truthful.settle
      intro code reads
      rw [codeless] at reads
      cases reads
  | @work job work => exact ⟨truthful.told, truthful.consistent.work job work⟩
  | @foreign row => exact ⟨truthful.told, truthful.consistent.foreign row⟩

theorem truthful_start {bridge : BridgeState} (table : List OracleRow)
    (unfailed : ∀ row ∈ bridge.recordInbox.rows, row.status ≠ .failed) :
    Truthful (System.start bridge table) where
  told := {
    failed := by
      intro eventId row found failed
      exact absurd failed (unfailed row (Table.mem_of_get found))
    nacked := fun _ published => absurd published List.not_mem_nil }
  consistent := {
    unique := Sql.Database.uniqueKeys_idle uniqueKey table
    uniform := by
      intro index session found
      cases found
    sole := by
      intro record job awaits
      cases awaits
    barred := by
      intro eventId given
      rcases given with ⟨command, member, -⟩
      exact absurd member List.not_mem_nil }

/-- No NACK is false in a run in which no two MERGEs of one record overlap and every
record that has its row is found by its MERGE. -/
theorem noFalseNack_of_careful {deps : BridgeDeps} {bridge : BridgeState}
    {table : List OracleRow} {steps : List Step}
    (unfailed : ∀ row ∈ bridge.recordInbox.rows, row.status ≠ .failed)
    (careful : (sidecarMachine deps).Meets (Careful deps) (System.start bridge table) steps) :
    NoFalseNack ((sidecarMachine deps).final (System.start bridge table) steps) := by
  have truthful : Truthful ((sidecarMachine deps).final (System.start bridge table) steps) :=
    @Machine.stateInvariant _ _ _ (sidecarMachine deps) (Careful deps) Truthful
      (fun _ _ before careful => before.step careful) _ _ (truthful_start table unfailed) careful
  exact truthful.noFalseNack

/-! ## A NACK for a record that is in Oracle -/

/-- The client gives up on the first MERGE while its row is inserted and not
committed.  The second does not see that row and meets its key; the first commits. -/
def overlap : List Step :=
  [.runOnce (Site.time 10), .request, .work 0 .read, .work 0 .insert,
    .unanswered (.unreachable "timed out" false) none, .request,
    .runOnce (Site.time 60), .request, .work 1 .read, .work 1 .insert,
    .work 0 (.finish (.committed 1)), .work 1 .insert,
    .work 1 (.refuse (some "ORA-00001: unique constraint violated")), .reply none]

theorem not_noFalseNack_overlap :
    ¬∀ deps bridge table steps, 1 ∈ deps.recordSender.unretryableOraCodes →
      (∀ row ∈ bridge.recordInbox.rows, row.status ≠ .failed) →
      NoFalseNack ((sidecarMachine deps).final (System.start bridge table) steps) := by
  intro always
  have truthful := always Site.givesUp Site.oneRecord [] overlap (by decide) (by decide +kernel)
  have nacked : ∃ command ∈ ((sidecarMachine Site.givesUp).final
      (System.start Site.oneRecord []) overlap).history,
      command.answer = some ("r1", .failed) := by decide +kernel
  have stored : ∃ row ∈ ((sidecarMachine Site.givesUp).final
      (System.start Site.oneRecord []) overlap).oracle.committed, row.IsFor "r1" := by
    decide +kernel
  rcases nacked with ⟨command, published, tells⟩
  rcases stored with ⟨row, member, isFor⟩
  cases command with
  | publishRecordNack nack =>
      have same := (Prod.mk.inj (Option.some.inj tells)).1
      rw [← same] at isFor
      exact truthful nack published row member isFor
  | publishRecordAck ack => cases (Prod.mk.inj (Option.some.inj tells)).2
  | _ => cases tells

/-- The first MERGE of any record may be requested. -/
theorem mayMerge_of_unused {system : System} (unused : system.oracle.sessions = [])
    (foreign : ∀ row ∈ system.oracle.committed, row.insertedFor = none)
    (silent : ∀ command ∈ system.history, command.givesUp = none) (rec : RecordInboxEvent) :
    MayMerge system rec := by
  have none : NoRow system.oracle rec.eventId := by
    intro row member isFor
    rw [OracleRow.IsFor, foreign row member] at isFor
    cases isFor
  exact {
    spent := by
      rw [unused]
      exact fun _ member => absurd member List.not_mem_nil
    same := by
      rw [allRows, unused, List.map_nil, List.append_nil]
      exact fun row member isFor => absurd isFor (none row member)
    found := .inl none
    final := fun given => absurd given (not_givenUp silent _) }

/-- The key is taken by a row of another T1_STATUS. -/
def takenTable : List OracleRow :=
  [{ sourceRow (payload ((Site.record "r1").toRow (Site.time 0))) with
      t1Status := 4, insertedFor := none }]

def refusedRun : List Step :=
  [.runOnce (Site.time 10), .request, .work 0 .read, .work 0 .insert,
    .work 0 (.refuse (some "ORA-00001: unique constraint violated")), .reply none]

/-- A record that is refused once and for all. -/
theorem noFalseNack_of_careful_refused :
    GivenUp ((sidecarMachine Site.givesUp).final (System.start Site.oneRecord takenTable)
        refusedRun).history "r1" ∧
      NoFalseNack ((sidecarMachine Site.givesUp).final (System.start Site.oneRecord takenTable)
        refusedRun) := by
  refine ⟨by decide +kernel, noFalseNack_of_careful (by decide +kernel) ?_⟩
  refine ⟨trivial, ?_, trivial, trivial, trivial, ?_, trivial⟩
  · intro loop rec rest _ _
    exact mayMerge_of_unused (by decide +kernel) (by decide +kernel) (by decide +kernel) rec
  · intro loop rec job _ session found transaction answered
    have all : ∀ session ∈ ((sidecarMachine Site.givesUp).final
        (System.start Site.oneRecord takenTable) (refusedRun.take 5)).oracle.sessions,
        session.phase = .refused ∧
          ∀ transaction ∈ session.answer, Text.OneLine transaction.errorMessage := by
      decide +kernel
    rcases all session (List.mem_of_getElem? found) with ⟨refused, plain⟩
    exact ⟨plain transaction answered, fun _ _ _ => .inl refused⟩

end PresenceLogger.EndToEnd
