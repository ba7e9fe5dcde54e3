import PresenceLogger.Bridge.Runs

/-!
# Committed records are not recognised

The record sender takes a result for a commit when it has neither an ORA code
nor an error message, but both back ends report a commit with an empty message.
No MERGE made through the adapter is ever recognised as a commit.
-/

namespace PresenceLogger.Bridge

open Library

/-- The MERGE commits and its reply arrives. -/
def BackendOutcome.Commits (backend : BackendOutcome) (profile : Profile) : Prop :=
  match profile.clientMode with
  | .jdbc => ∃ rows, backend.http = sidecarResponse (.committed rows)
  | .thin | .thick => ∃ rowcount, backend.connection = .connected (.committed rowcount)

/-- The Oracle dependency of this call is the adapter on these back ends. -/
def RecordSenderCall.ThroughAdapter (call : RecordSenderCall)
    (backend : Profile → RecordInboxEvent → BackendOutcome) : Prop :=
  ∀ profile rec, call.oracle profile rec = executeMergeForProfile profile (backend profile rec)

/-- What the record path promises of a call that commits this row. -/
structure CommitRecognised (deps : BridgeDeps) (bridge : BridgeState) (call : RecordSenderCall)
    (profileName : String) (rec : RecordInboxEvent) : Prop where
  sent : ∃ row,
    ((bridgeMachine deps).final bridge [.complete (.recordRunOnce call)]).recordInbox.get
      rec.eventId = some row ∧ row.status = .sent
  /-- The breaker is closed before the next MERGE is made. -/
  closed : ∃ before attempt settling after,
    (bridgeMachine deps).trace bridge [.complete (.recordRunOnce call)] =
      before ++ .merge attempt :: settling ++ after ∧
    attempt.eventId = rec.eventId ∧ (∀ other, .merge other ∉ settling) ∧
    ((bridge.replay (before ++ .merge attempt :: settling)).breaker.entry profileName).state =
      .closed
  acknowledged : ∃ ack,
    .publishRecordAck ack ∈ (bridgeMachine deps).trace bridge [.complete (.recordRunOnce call)] ∧
    ack.eventId = rec.eventId ∧ ack.mkDateCommitted = some rec.mkDate
  /-- No later MERGE is made for the row while it stays in the table. -/
  mergedOnce : ∀ steps attempt,
    (∀ earlier later, steps = earlier ++ later →
      ((bridgeMachine deps).final bridge
        (.complete (.recordRunOnce call) :: earlier)).recordInbox.get rec.eventId ≠ none) →
    .merge attempt ∈ (bridgeMachine deps).trace
      ((bridgeMachine deps).final bridge [.complete (.recordRunOnce call)]) steps →
    attempt.path = .record → attempt.eventId ≠ rec.eventId

theorem executeMergeForProfile_of_commits {profile : Profile} {backend : BackendOutcome}
    (commits : backend.Commits profile) :
    (executeMergeForProfile profile backend).result.oraCode = none ∧
      (executeMergeForProfile profile backend).result.errorMessage = some "" := by
  unfold BackendOutcome.Commits at commits
  unfold executeMergeForProfile
  cases mode : profile.clientMode with
  | jdbc =>
      simp only [mode] at commits
      obtain ⟨rows, response⟩ := commits
      simp only [response]
      exact executeMergeViaJdbc_committed rows
  | thin | thick =>
      simp only [mode] at commits
      obtain ⟨rowcount, outcome⟩ := commits
      simp only [outcome]
      exact ⟨rfl, rfl⟩

/-- A commit is read as a failure to be retried. -/
theorem verdict_of_commits (deps : RecordSenderDeps) {profile : Profile}
    {backend : BackendOutcome} (commits : backend.Commits profile) :
    deps.verdict (executeMergeForProfile profile backend).result = .retry := by
  obtain ⟨code, message⟩ := executeMergeForProfile_of_commits commits
  rw [RecordSenderDeps.verdict, code, message]

/-- The row of a committed MERGE is still `received` after the call. -/
theorem received_of_commits {deps : RecordSenderDeps} {bridge : BridgeState}
    {call : RecordSenderCall} {backend : Profile → RecordInboxEvent → BackendOutcome}
    (adapter : call.ThroughAdapter backend) {profileName : String} {profile : Profile}
    {rec : RecordInboxEvent} (attempts : deps.Attempts bridge call profileName profile rec)
    (commits : (backend profile rec).Commits profile) :
    ∃ row, (bridge.replay (upToRaise (deps.runOnce bridge call))).recordInbox.get rec.eventId =
      some row ∧ row.status = .received := by
  refine ⟨_, deps.get_runOnce_of_attempts attempts, ?_⟩
  have waiting := RecordInbox.status_of_due attempts.due
  rw [adapter profile rec, RecordSenderDeps.settledRow, verdict_of_commits deps commits]
  simp only
  split
  · exact waiting
  · exact waiting

/-- A committed MERGE of the adapter is never recognised. -/
theorem not_commitRecognised (deps : BridgeDeps) (bridge : BridgeState) (call : RecordSenderCall)
    (backend : Profile → RecordInboxEvent → BackendOutcome) (profileName : String)
    (profile : Profile) (rec : RecordInboxEvent) (adapter : call.ThroughAdapter backend)
    (running : bridge.running = true)
    (attempts : deps.recordSender.Attempts bridge call profileName profile rec)
    (commits : (backend profile rec).Commits profile) :
    ¬CommitRecognised deps bridge call profileName rec := by
  intro recognised
  obtain ⟨row, found, sent⟩ := recognised.sent
  rw [final_complete, Routine.performed, if_pos running] at found
  obtain ⟨stored, kept, received⟩ := received_of_commits adapter attempts commits
  rw [Routine.plan, kept] at found
  rw [Option.some.inj found, sent] at received
  cases received

/-- The record of a site whose profile uses python-oracledb. -/
def Site.oracledbRecord : BridgeState :=
  { Site.oneRecord with
    resolver :=
      { profiles := [("HIME-H-REAP", { Site.profile with clientMode := .thin })]
        unknownPolicy := .drop } }

/-- The site's record is committed through the sidecar and stays `received`. -/
theorem not_commitRecognised_site :
    ¬CommitRecognised Site.deps Site.oneRecord
      (Site.recordCall 10 (Site.answered (.committed 1))) "HIME-H-REAP"
      ((Site.record "r1").toRow (Site.time 0)) := by
  intro recognised
  obtain ⟨row, found, sent⟩ := recognised.sent
  have waiting : ∀ row ∈ ((bridgeMachine Site.deps).final Site.oneRecord
      [.complete (.recordRunOnce (Site.recordCall 10
        (Site.answered (.committed 1))))]).recordInbox.rows, row.status = .received := by
    decide +kernel
  rw [waiting row (Table.mem_of_get found)] at sent
  cases sent

/-- The same record, committed through python-oracledb. -/
theorem not_commitRecognised_oracledb :
    ¬CommitRecognised Site.deps Site.oracledbRecord
      (Site.recordCall 10 (Site.answered (.committed 1))) "HIME-H-REAP"
      ((Site.record "r1").toRow (Site.time 0)) := by
  apply not_commitRecognised Site.deps Site.oracledbRecord _
    (fun _ _ => Site.answered (.committed 1)) "HIME-H-REAP"
    { Site.profile with clientMode := .thin }
  · intro profile rec
    rfl
  · rfl
  · exact ⟨⟨by decide +kernel, by decide +kernel, rfl⟩, by decide +kernel⟩
  · exact ⟨1, rfl⟩

end PresenceLogger.Bridge
