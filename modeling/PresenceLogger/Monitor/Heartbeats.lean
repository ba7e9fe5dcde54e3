import Mathlib.Data.List.SplitBy
import Mathlib.Data.List.TakeWhile

/-!
# Heartbeats in the message log

The monitor shows the messages it has received, and collapses the heartbeats that a device sends
in a row into one line.
-/

namespace PresenceLogger.Monitor

/-- What `mqtt_summarize` tells apart. -/
inductive MsgKind where
  | record
  | heartbeat
  | status
  | ack
  | other
  deriving DecidableEq

variable {τ : Type*}

/-- A message, as far as a line shows it. -/
structure MqttMsg (τ : Type*) where
  ts : τ
  kind : MsgKind
  deviceId : Option String
  summary : String

structure LogLine (τ : Type*) where
  ts : τ
  text : String
  dim : Bool

namespace MqttMsg

/-- `m.device_id or '?'` -/
def deviceName (msg : MqttMsg τ) : String :=
  match msg.deviceId with
  | none => "?"
  | some deviceId => if deviceId = "" then "?" else deviceId

/-- A heartbeat of the device that sent the first one. -/
def joins (first other : MqttMsg τ) : Bool :=
  other.kind = .heartbeat && other.deviceId = first.deviceId

end MqttMsg

/-- The inner loop of `collapse_heartbeats`. -/
def runEnd (msgs : List (MqttMsg τ)) (first : MqttMsg τ) (j : Nat) : Nat :=
  if h : j < msgs.length then
    if first.joins msgs[j] then runEnd msgs first (j + 1) else j
  else j
termination_by msgs.length - j

theorem runEnd_eq (msgs : List (MqttMsg τ)) (first : MqttMsg τ) (j : Nat) :
    runEnd msgs first j = j + ((msgs.drop j).takeWhile first.joins).length := by
  induction j using runEnd.induct msgs first with
  | case1 j within joins ih =>
      rw [runEnd, dif_pos within, if_pos joins, ih, List.drop_eq_getElem_cons within,
        List.takeWhile_cons_of_pos joins, List.length_cons, Nat.add_right_comm, Nat.add_assoc]
  | case2 j within stops =>
      rw [runEnd, dif_pos within, if_neg stops, List.drop_eq_getElem_cons within,
        List.takeWhile_cons_of_neg stops]
      rfl
  | case3 j ended =>
      rw [runEnd, dif_neg ended, List.drop_eq_nil_of_le (Nat.le_of_not_lt ended)]
      rfl

theorem MqttMsg.joins_self {msg : MqttMsg τ} (isHeartbeat : msg.kind = .heartbeat) :
    msg.joins msg = true := by
  simp [joins, isHeartbeat]

/-- The inner loop takes the message that it starts from. -/
theorem lt_runEnd {msgs : List (MqttMsg τ)} {i : Nat} (within : i < msgs.length)
    (isHeartbeat : msgs[i].kind = .heartbeat) : i < runEnd msgs msgs[i] i := by
  rw [runEnd_eq, List.drop_eq_getElem_cons within,
    List.takeWhile_cons_of_pos (MqttMsg.joins_self isHeartbeat), List.length_cons]
  exact Nat.lt_add_of_pos_right (Nat.succ_pos _)

/-- The outer loop of `collapse_heartbeats`, from position `i` on. -/
def collapseFrom (msgs : List (MqttMsg τ)) (i : Nat) : List (LogLine τ) :=
  if h : i < msgs.length then
    let m := msgs[i]
    if heartbeat : m.kind = .heartbeat then
      let j := runEnd msgs m i
      let count := j - i
      let last := msgs[j - 1]?.getD m
      let text :=
        if count = 1 then m.summary else m.deviceName ++ " 💓 x" ++ toString count
      ⟨last.ts, text, true⟩ :: collapseFrom msgs j
    else ⟨m.ts, m.summary, false⟩ :: collapseFrom msgs (i + 1)
  else []
termination_by msgs.length - i
decreasing_by
  · exact Nat.sub_lt_sub_left h (lt_runEnd h heartbeat)
  · exact Nat.sub_lt_sub_left h (Nat.lt_succ_self i)

/-- `collapse_heartbeats` -/
def collapseHeartbeats (msgs : List (MqttMsg τ)) : List (LogLine τ) := collapseFrom msgs 0

/-! ## Runs of messages -/

/-- Two heartbeats of one device. -/
def MqttMsg.Alike (left right : MqttMsg τ) : Prop :=
  left.kind = .heartbeat ∧ right.kind = .heartbeat ∧ left.deviceId = right.deviceId

/-- The messages in order, each by itself or in a longest run of heartbeats of one device. -/
structure HeartbeatRuns (msgs : List (MqttMsg τ)) (runs : List (List (MqttMsg τ))) : Prop where
  inOrder : runs.flatten = msgs
  alike : ∀ run ∈ runs, (∃ msg, run = [msg] ∧ msg.kind ≠ .heartbeat) ∨
    run ≠ [] ∧ ∀ left ∈ run, ∀ right ∈ run, left.Alike right
  longest : runs.IsChain fun run next => ∀ left ∈ run, ∀ right ∈ next, ¬left.Alike right

/-- The line of a run has the time of its last message, and the length of a run of several
heartbeats. -/
def ShownAs (run : List (MqttMsg τ)) (line : LogLine τ) : Prop :=
  ∃ first last, run.head? = some first ∧ run.getLast? = some last ∧ line.ts = last.ts ∧
    line.dim = decide (first.kind = .heartbeat) ∧
    line.text = if 1 < run.length then first.deviceName ++ " 💓 x" ++ toString run.length
      else first.summary

namespace MqttMsg

/-- `Alike`, as it is computed. -/
def alike (left right : MqttMsg τ) : Bool :=
  left.kind = .heartbeat && right.kind = .heartbeat && left.deviceId = right.deviceId

theorem alike_iff {left right : MqttMsg τ} : left.alike right = true ↔ left.Alike right := by
  simp [alike, Alike, and_assoc]

theorem Alike.symm {left right : MqttMsg τ} (same : left.Alike right) : right.Alike left :=
  ⟨same.2.1, same.1, same.2.2.symm⟩

theorem Alike.trans {left middle right : MqttMsg τ} (first : left.Alike middle)
    (second : middle.Alike right) : left.Alike right :=
  ⟨first.1, second.2.1, first.2.2.trans second.2.2⟩

end MqttMsg

/-- In a chain that begins with a heartbeat every message is alike. -/
theorem alike_of_isChain {first : MqttMsg τ} {rest : List (MqttMsg τ)}
    (isHeartbeat : first.kind = .heartbeat)
    (chain : (first :: rest).IsChain fun left right => left.alike right = true) :
    ∀ msg ∈ first :: rest, first.Alike msg := by
  induction rest generalizing first with
  | nil => exact List.forall_mem_singleton.mpr ⟨isHeartbeat, isHeartbeat, rfl⟩
  | cons next rest ih =>
      obtain ⟨same, later⟩ := List.isChain_cons_cons.mp chain
      have alike := MqttMsg.alike_iff.mp same
      refine List.forall_mem_cons.mpr ⟨⟨isHeartbeat, isHeartbeat, rfl⟩, fun msg among => ?_⟩
      exact alike.trans (ih alike.2.1 later msg among)

/-- A chain is one message that is no heartbeat, or a run of heartbeats of one device. -/
theorem run_cases {run : List (MqttMsg τ)} (present : run ≠ [])
    (chain : run.IsChain fun left right => left.alike right = true) :
    (∃ msg, run = [msg] ∧ msg.kind ≠ .heartbeat) ∨
      run ≠ [] ∧ ∀ left ∈ run, ∀ right ∈ run, left.Alike right := by
  obtain ⟨first, rest, rfl⟩ := List.exists_cons_of_ne_nil present
  by_cases isHeartbeat : first.kind = .heartbeat
  · have alike := alike_of_isChain isHeartbeat chain
    exact .inr ⟨present, fun left inRun right inRun' =>
      (alike left inRun).symm.trans (alike right inRun')⟩
  · cases rest with
    | nil => exact .inl ⟨first, rfl, isHeartbeat⟩
    | cons next rest =>
        have same := MqttMsg.alike_iff.mp (List.isChain_cons_cons.mp chain).1
        exact absurd same.1 isHeartbeat

/-- In a run with a heartbeat, messages are alike. -/
theorem alike_of_run {run : List (MqttMsg τ)}
    (alike : (∃ msg, run = [msg] ∧ msg.kind ≠ .heartbeat) ∨
      run ≠ [] ∧ ∀ left ∈ run, ∀ right ∈ run, left.Alike right)
    {msg other : MqttMsg τ} (inRun : msg ∈ run) (isHeartbeat : msg.kind = .heartbeat)
    (otherInRun : other ∈ run) : msg.Alike other := by
  rcases alike with ⟨single, rfl, noHeartbeat⟩ | ⟨-, alike⟩
  · rw [List.mem_singleton.mp inRun] at isHeartbeat
    exact absurd isHeartbeat noHeartbeat
  · exact alike msg inRun other otherInRun

/-- There is one way to take the messages apart into longest runs. -/
theorem heartbeatRuns_iff {msgs : List (MqttMsg τ)} {runs : List (List (MqttMsg τ))} :
    HeartbeatRuns msgs runs ↔ msgs.splitBy MqttMsg.alike = runs := by
  rw [List.splitBy_eq_iff]
  constructor
  · intro isRuns
    have nonempty : ∀ run ∈ runs, run ≠ [] := by
      intro run among
      rcases isRuns.alike run among with ⟨msg, rfl, -⟩ | ⟨present, -⟩
      · exact List.cons_ne_nil _ _
      · exact present
    refine ⟨isRuns.inOrder.symm, fun among => nonempty [] among rfl, ?_, ?_⟩
    · intro run among
      rcases isRuns.alike run among with ⟨msg, rfl, -⟩ | ⟨-, alike⟩
      · exact List.isChain_singleton msg
      · apply List.Pairwise.isChain
        apply List.pairwise_of_forall_mem_list
        exact fun left inRun right inRun' => MqttMsg.alike_iff.mpr (alike left inRun right inRun')
    · apply isRuns.longest.imp_of_mem_imp
      intro run next among amongNext apart
      have present := nonempty run among
      have presentNext := nonempty next amongNext
      refine ⟨present, presentNext, ?_⟩
      rw [← Bool.not_eq_true, MqttMsg.alike_iff]
      exact apart _ (List.getLast_mem present) _ (List.head_mem presentNext)
  · rintro ⟨inOrder, present, chains, apart⟩
    have alike (run : List (MqttMsg τ)) (among : run ∈ runs) :=
      run_cases (fun empty => present (empty ▸ among)) (chains run among)
    refine ⟨inOrder.symm, alike, apart.imp_of_mem_imp ?_⟩
    rintro run next among amongNext ⟨hasLast, hasHead, apart⟩ left inRun right inNext same
    rw [← Bool.not_eq_true, MqttMsg.alike_iff] at apart
    have last := alike_of_run (alike run among) inRun same.1 (List.getLast_mem hasLast)
    have head := alike_of_run (alike next amongNext) inNext same.2.1 (List.head_mem hasHead)
    exact apart (last.symm.trans (same.trans head))

/-! ## The lines of the runs -/

section

variable (msgs : List (MqttMsg τ)) {i : Nat} (within : i < msgs.length)

/-- The outer loop goes on behind the messages that the inner loop passes. -/
theorem drop_runEnd (first : MqttMsg τ) (i : Nat) :
    msgs.drop (runEnd msgs first i) = (msgs.drop i).dropWhile first.joins := by
  calc msgs.drop (runEnd msgs first i)
      = (msgs.drop i).drop ((msgs.drop i).takeWhile first.joins).length := by
        rw [runEnd_eq, List.drop_drop]
    _ = ((msgs.drop i).takeWhile first.joins ++ (msgs.drop i).dropWhile first.joins).drop
          ((msgs.drop i).takeWhile first.joins).length := by
        rw [List.takeWhile_append_dropWhile]
    _ = (msgs.drop i).dropWhile first.joins := List.drop_left

include within

theorem takeWhile_heartbeat (isHeartbeat : msgs[i].kind = .heartbeat) :
    (msgs.drop i).takeWhile msgs[i].joins =
      msgs[i] :: (msgs.drop (i + 1)).takeWhile msgs[i].joins := by
  rw [List.drop_eq_getElem_cons within,
    List.takeWhile_cons_of_pos (MqttMsg.joins_self isHeartbeat)]

/-- The messages that the inner loop passes are the first run. -/
theorem splitBy_heartbeat (isHeartbeat : msgs[i].kind = .heartbeat) :
    (msgs.drop i).splitBy MqttMsg.alike =
      (msgs.drop i).takeWhile msgs[i].joins ::
        (msgs.drop (runEnd msgs msgs[i] i)).splitBy MqttMsg.alike := by
  have alike : ∀ msg ∈ (msgs.drop i).takeWhile msgs[i].joins, msgs[i].Alike msg := by
    intro msg among
    have joins := List.mem_takeWhile_imp among
    simp only [MqttMsg.joins, Bool.and_eq_true, decide_eq_true_eq] at joins
    exact ⟨isHeartbeat, joins.1, joins.2.symm⟩
  have chain : ((msgs.drop i).takeWhile msgs[i].joins).IsChain
      fun left right => left.alike right = true := by
    apply List.Pairwise.isChain
    apply List.pairwise_of_forall_mem_list
    exact fun left inRun right inRun' =>
      MqttMsg.alike_iff.mpr ((alike left inRun).symm.trans (alike right inRun'))
  have present : (msgs.drop i).takeWhile msgs[i].joins ≠ [] := by
    rw [takeWhile_heartbeat msgs within isHeartbeat]
    exact List.cons_ne_nil _ _
  have stops : ∀ last ∈ ((msgs.drop i).takeWhile msgs[i].joins).getLast?,
      ∀ next ∈ ((msgs.drop i).dropWhile msgs[i].joins).head?, last.alike next = false := by
    intro last isLast next isNext
    have same := alike last (List.mem_of_getLast? isLast)
    rw [← Bool.not_eq_true, MqttMsg.alike_iff]
    intro goesOn
    have joins : msgs[i].joins next = true := by
      simp [MqttMsg.joins, goesOn.2.1, (same.trans goesOn).2.2]
    have first := List.head?_dropWhile_not msgs[i].joins (msgs.drop i)
    rw [Option.mem_def.mp isNext] at first
    cases joins.symm.trans first
  have whole := @List.takeWhile_append_dropWhile _ msgs[i].joins (msgs.drop i)
  calc (msgs.drop i).splitBy MqttMsg.alike
      = ((msgs.drop i).takeWhile msgs[i].joins ++
          (msgs.drop i).dropWhile msgs[i].joins).splitBy MqttMsg.alike := by rw [whole]
    _ = ((msgs.drop i).takeWhile msgs[i].joins).splitBy MqttMsg.alike ++
          ((msgs.drop i).dropWhile msgs[i].joins).splitBy MqttMsg.alike :=
        List.splitBy_append stops
    _ = _ := by
        rw [List.splitBy_of_isChain present chain, drop_runEnd]
        rfl

/-- The line of the run that the inner loop has passed. -/
theorem shownAs_heartbeat (isHeartbeat : msgs[i].kind = .heartbeat) :
    ShownAs ((msgs.drop i).takeWhile msgs[i].joins)
      ⟨(msgs[runEnd msgs msgs[i] i - 1]?.getD msgs[i]).ts,
        if runEnd msgs msgs[i] i - i = 1 then msgs[i].summary
        else msgs[i].deviceName ++ " 💓 x" ++ toString (runEnd msgs msgs[i] i - i), true⟩ := by
  have starts := takeWhile_heartbeat msgs within isHeartbeat
  have count : runEnd msgs msgs[i] i - i = ((msgs.drop i).takeWhile msgs[i].joins).length := by
    rw [runEnd_eq, Nat.add_sub_cancel_left]
  have present : 0 < ((msgs.drop i).takeWhile msgs[i].joins).length := by
    rw [starts]
    exact Nat.succ_pos _
  have isLast : msgs[runEnd msgs msgs[i] i - 1]? =
      ((msgs.drop i).takeWhile msgs[i].joins).getLast? := by
    have before : ((msgs.drop i).takeWhile msgs[i].joins).length - 1 <
        ((msgs.drop i).takeWhile msgs[i].joins).length := Nat.sub_one_lt present.ne'
    have whole := @List.takeWhile_append_dropWhile _ msgs[i].joins (msgs.drop i)
    rw [runEnd_eq, Nat.add_sub_assoc present, ← List.getElem?_drop, List.getLast?_eq_getElem?,
      ← List.getElem?_append_left before, whole]
  have hasLast := List.getLast?_eq_some_getLast (List.ne_nil_of_length_pos present)
  refine ⟨msgs[i], _, by rw [starts]; rfl, hasLast, by rw [isLast, hasLast]; rfl,
    (decide_eq_true isHeartbeat).symm, ?_⟩
  rw [count]
  by_cases single : ((msgs.drop i).takeWhile msgs[i].joins).length = 1
  · rw [if_pos single, if_neg single.not_gt]
  · rw [if_neg single, if_pos (lt_of_le_of_ne present (Ne.symm single))]

/-- A message that is no heartbeat is a run by itself. -/
theorem splitBy_other (other : msgs[i].kind ≠ .heartbeat) :
    (msgs.drop i).splitBy MqttMsg.alike =
      [msgs[i]] :: (msgs.drop (i + 1)).splitBy MqttMsg.alike := by
  have stops : ∀ last ∈ [msgs[i]].getLast?, ∀ next ∈ (msgs.drop (i + 1)).head?,
      last.alike next = false := by
    intro last isLast next isNext
    cases isLast
    rw [← Bool.not_eq_true, MqttMsg.alike_iff]
    exact fun same => other same.1
  rw [List.drop_eq_getElem_cons within]
  exact List.splitBy_append stops

end

theorem shownAs_single {msg : MqttMsg τ} (other : msg.kind ≠ .heartbeat) :
    ShownAs [msg] ⟨msg.ts, msg.summary, false⟩ :=
  ⟨msg, msg, rfl, rfl, rfl, (decide_eq_false other).symm, rfl⟩

theorem collapseFrom_shows (msgs : List (MqttMsg τ)) (i : Nat) :
    List.Forall₂ ShownAs ((msgs.drop i).splitBy MqttMsg.alike) (collapseFrom msgs i) := by
  induction i using collapseFrom.induct msgs with
  | case1 i within m isHeartbeat j ih =>
      rw [collapseFrom, dif_pos within, dif_pos isHeartbeat,
        splitBy_heartbeat msgs within isHeartbeat]
      exact .cons (shownAs_heartbeat msgs within isHeartbeat) ih
  | case2 i within m other ih =>
      rw [collapseFrom, dif_pos within, dif_neg other, splitBy_other msgs within other]
      exact .cons (shownAs_single other) ih
  | case3 i ended =>
      rw [collapseFrom, dif_neg ended, List.drop_eq_nil_of_le (Nat.le_of_not_lt ended)]
      exact .nil

/-- The lines are those of the longest runs, in order: one for each message that is no heartbeat
and one for each run of heartbeats of a device. -/
theorem collapseHeartbeats_shows (msgs : List (MqttMsg τ)) :
    ∃ runs, (∀ other, HeartbeatRuns msgs other ↔ other = runs) ∧
      List.Forall₂ ShownAs runs (collapseHeartbeats msgs) :=
  ⟨msgs.splitBy MqttMsg.alike, fun _ => heartbeatRuns_iff.trans eq_comm,
    collapseFrom_shows msgs 0⟩

end PresenceLogger.Monitor
