import PresenceLogger.Library.Dict
import PresenceLogger.Library.Number
import PresenceLogger.Library.Run

/-!
# The log of signal changes

The main loop compares what it sees of the signal towers in a frame with what it saw before, and
writes a row for every light that has changed.  A light that is not seen counts as off once it
has been missing for a while.
-/

namespace PresenceLogger.Child

open Library

namespace SignalChanges

/-- `(region_id, color)` -/
abbrev SignalKey := Int × String

inductive SignalState where
  | on
  | blink
  | off
  deriving DecidableEq

/-- What a light in a frame is. -/
inductive Lit where
  | on
  | blink

def Lit.state : Lit → SignalState
  | .on => .on
  | .blink => .blink

/-- A row of `log_signal_change`, up to the time that it is written at. -/
structure ChangeRow where
  key : SignalKey
  oldState : SignalState
  newState : SignalState

/-- `st_frame_states` and the time of the frame. -/
structure Frame where
  now : ℚ
  states : Dict SignalKey Lit

/-- `st_change_prev_state` and `st_change_last_seen` -/
structure Memory where
  prevState : Dict SignalKey SignalState := Table.empty
  lastSeen : Dict SignalKey ℚ := Table.empty

/-- `ST_OFF_DEBOUNCE` -/
def offDebounce : ℚ := 2

/-- The state of a light, which is off as long as there is none. -/
def stateOf (prevState : Dict SignalKey SignalState) (key : SignalKey) : SignalState :=
  (prevState.find key).getD .off

/-- The states of a loop, with the rows that it has written. -/
abbrev Written := Dict SignalKey SignalState × List ChangeRow

/-- The first loop, for a light that is seen. -/
def light (sofar : Written) (entry : SignalKey × Lit) : Written :=
  let oldState := stateOf sofar.1 entry.1
  let newState := entry.2.state
  (sofar.1.set entry.1 newState,
    if oldState ≠ newState then sofar.2 ++ [⟨entry.1, oldState, newState⟩] else sofar.2)

/-- The second loop, for a light that had a state before it. -/
def expire (frame : Frame) (lastSeen : Dict SignalKey ℚ) (sofar : Written)
    (entry : SignalKey × SignalState) : Written :=
  if entry.2 ≠ .off ∧ frame.states.find entry.1 = none ∧
      offDebounce < nearestDouble (frame.now - (lastSeen.find entry.1).getD 0) then
    (sofar.1.set entry.1 .off, sofar.2 ++ [⟨entry.1, entry.2, .off⟩])
  else sofar

/-- The lights of the frame are seen now. -/
def Memory.see (memory : Memory) (frame : Frame) : Dict SignalKey ℚ :=
  frame.states.rows.foldl (fun seen entry => seen.set entry.1 frame.now) memory.lastSeen

/-- A frame, and the rows it writes. -/
def Memory.step (memory : Memory) (frame : Frame) : Memory × List ChangeRow :=
  let lastSeen := memory.see frame
  let lit := frame.states.rows.foldl light (memory.prevState, [])
  let expired := lit.1.rows.foldl (expire frame lastSeen) lit
  ({ prevState := expired.1, lastSeen := lastSeen }, expired.2)

/-- The main loop, frame by frame. -/
def machine : Machine Memory Frame ChangeRow where
  step := Memory.step

/-! ## Chains -/

/-- Every row starts from the state where the one before it ended. -/
def ChainFrom (state : SignalState) : List ChangeRow → Prop
  | [] => True
  | row :: rows => row.oldState = state ∧ row.newState ≠ row.oldState ∧ ChainFrom row.newState rows

/-- The state where a chain ends. -/
def endState (state : SignalState) (rows : List ChangeRow) : SignalState :=
  (rows.getLast?.map ChangeRow.newState).getD state

/-- The rows of a light. -/
def rowsOf (key : SignalKey) (rows : List ChangeRow) : List ChangeRow :=
  rows.filter (·.key = key)

theorem endState_cons (state : SignalState) (row : ChangeRow) (rows : List ChangeRow) :
    endState state (row :: rows) = endState row.newState rows := by
  cases rows with
  | nil => rfl
  | cons next rows =>
      rw [endState, endState, List.getLast?_cons_cons, List.getLast?_cons]
      rfl

theorem chainFrom_concat {state : SignalState} {rows : List ChangeRow} {row : ChangeRow} :
    ChainFrom state (rows ++ [row]) ↔
      ChainFrom state rows ∧ row.oldState = endState state rows ∧
        row.newState ≠ row.oldState := by
  induction rows generalizing state with
  | nil => simp [ChainFrom, endState]
  | cons first rows ih =>
      rw [List.cons_append, ChainFrom, ChainFrom, ih, endState_cons]
      simp only [and_assoc]

theorem endState_concat (state : SignalState) (rows : List ChangeRow) (row : ChangeRow) :
    endState state (rows ++ [row]) = row.newState := by
  rw [endState, List.getLast?_concat]
  rfl

/-- The rows of every light are a chain from off to the state that it is in. -/
def Consistent (prevState : Dict SignalKey SignalState) (rows : List ChangeRow) : Prop :=
  ∀ key, ChainFrom .off (rowsOf key rows) ∧ stateOf prevState key = endState .off (rowsOf key rows)

theorem stateOf_set (prevState : Dict SignalKey SignalState) (key other : SignalKey)
    (state : SignalState) :
    stateOf (prevState.set key state) other =
      if key = other then state else stateOf prevState other := by
  rw [stateOf, Dict.find_set]
  split <;> rfl

/-- A change that is written keeps the rows a chain. -/
theorem Consistent.change {prevState : Dict SignalKey SignalState} {rows : List ChangeRow}
    (consistent : Consistent prevState rows) (row : ChangeRow)
    (from_ : row.oldState = stateOf prevState row.key) (changes : row.newState ≠ row.oldState) :
    Consistent (prevState.set row.key row.newState) (rows ++ [row]) := by
  intro key
  obtain ⟨chain, ends⟩ := consistent key
  rw [rowsOf, List.filter_append, stateOf_set]
  by_cases here : row.key = key
  · subst here
    have single : [row].filter (·.key = row.key) = [row] := by simp
    rw [single, if_pos rfl, chainFrom_concat, endState_concat]
    exact ⟨⟨chain, from_.trans ends, changes⟩, rfl⟩
  · have none : [row].filter (·.key = key) = [] := by simp [here]
    rw [none, List.append_nil, if_neg here]
    exact ⟨chain, ends⟩

/-- A state that stays need not be written. -/
theorem Consistent.stay {prevState : Dict SignalKey SignalState} {rows : List ChangeRow}
    (consistent : Consistent prevState rows) {key : SignalKey} {state : SignalState}
    (same : stateOf prevState key = state) : Consistent (prevState.set key state) rows := by
  intro other
  obtain ⟨chain, ends⟩ := consistent other
  refine ⟨chain, ?_⟩
  rw [stateOf_set]
  split
  next here => rw [← same, here, ends]
  · exact ends

/-! ## The two loops -/

variable {earlier : List ChangeRow}

/-- A light that is seen keeps the rows chains. -/
theorem Consistent.light {sofar : Written} (consistent : Consistent sofar.1 (earlier ++ sofar.2))
    (entry : SignalKey × Lit) :
    Consistent (light sofar entry).1 (earlier ++ (light sofar entry).2) := by
  simp only [SignalChanges.light]
  by_cases same : stateOf sofar.1 entry.1 = entry.2.state
  · rw [if_neg (not_not_intro same)]
    exact consistent.stay same
  · rw [if_pos same, ← List.append_assoc]
    exact consistent.change ⟨entry.1, stateOf sofar.1 entry.1, entry.2.state⟩ rfl
      (Ne.symm same)

theorem Consistent.lights (sofar : Written)
    (consistent : Consistent sofar.1 (earlier ++ sofar.2)) (entries : List (SignalKey × Lit)) :
    Consistent (entries.foldl SignalChanges.light sofar).1
      (earlier ++ (entries.foldl SignalChanges.light sofar).2) := by
  induction entries generalizing sofar with
  | nil => exact consistent
  | cons entry entries ih => exact ih _ (consistent.light entry)

section Expire

variable {frame : Frame} {lastSeen : Dict SignalKey ℚ}

/-- A light that is missing for long keeps the rows chains, if the copy has its state. -/
theorem Consistent.expire {sofar : Written} (consistent : Consistent sofar.1 (earlier ++ sofar.2))
    {entry : SignalKey × SignalState} (current : stateOf sofar.1 entry.1 = entry.2) :
    Consistent (expire frame lastSeen sofar entry).1
      (earlier ++ (expire frame lastSeen sofar entry).2) := by
  rw [SignalChanges.expire]
  split
  next missing =>
    rw [← List.append_assoc]
    exact consistent.change ⟨entry.1, entry.2, .off⟩ current.symm (Ne.symm missing.1)
  · exact consistent

theorem stateOf_expire {sofar : Written} {entry : SignalKey × SignalState} {key : SignalKey}
    (other : entry.1 ≠ key) :
    stateOf (expire frame lastSeen sofar entry).1 key = stateOf sofar.1 key := by
  rw [expire]
  split
  · rw [stateOf_set, if_neg other]
  · rfl

/-- The loop over the copy changes a state only at its own entry, so that the copy has the states
of the entries that are still to come. -/
theorem Consistent.expireAll {entries : List (SignalKey × SignalState)}
    (fresh : (entries.map Prod.fst).Nodup) {sofar : Written}
    (consistent : Consistent sofar.1 (earlier ++ sofar.2))
    (current : ∀ entry ∈ entries, stateOf sofar.1 entry.1 = entry.2) :
    Consistent (entries.foldl (SignalChanges.expire frame lastSeen) sofar).1
      (earlier ++ (entries.foldl (SignalChanges.expire frame lastSeen) sofar).2) := by
  induction entries generalizing sofar with
  | nil => exact consistent
  | cons entry entries ih =>
      obtain ⟨apart, fresh⟩ := List.nodup_cons.mp fresh
      refine ih fresh (consistent.expire (current entry (.head _))) ?_
      intro other later
      have notHere : entry.1 ≠ other.1 := fun same =>
        apart (same ▸ List.mem_map_of_mem later)
      rw [stateOf_expire notHere]
      exact current other (.tail _ later)

end Expire

theorem Consistent.step {memory : Memory} (consistent : Consistent memory.prevState earlier)
    (frame : Frame) :
    Consistent (memory.step frame).1.prevState (earlier ++ (memory.step frame).2) := by
  have start : Consistent memory.prevState (earlier ++ []) := by
    rw [List.append_nil]
    exact consistent
  have lit := Consistent.lights (memory.prevState, []) start frame.states.rows
  refine lit.expireAll (Table.nodup _) ?_
  rintro ⟨key, state⟩ among
  rw [stateOf, Dict.find_eq_some_iff.mpr among]
  rfl

/-- After every frame the rows of a light are a chain to its state. -/
theorem Consistent.run {memory : Memory} (consistent : Consistent memory.prevState earlier)
    (frames : List Frame) :
    Consistent (machine.final memory frames).prevState
      (earlier ++ machine.trace memory frames) := by
  induction frames generalizing memory earlier with
  | nil =>
      rw [Machine.trace, List.append_nil]
      exact consistent
  | cons frame frames ih =>
      rw [Machine.final, Machine.trace, ← List.append_assoc]
      exact ih (consistent.step frame)

theorem consistent_start : Consistent ({} : Memory).prevState [] := fun _ => ⟨trivial, rfl⟩

/-! ## Rows to off -/

theorem Lit.state_ne_off (lit : Lit) : lit.state ≠ .off := by
  cases lit <;> exact fun same => nomatch same

/-- The first loop writes no row to off. -/
theorem not_off_of_mem_lights {entries : List (SignalKey × Lit)} {sofar : Written}
    {row : ChangeRow} (among : row ∈ (entries.foldl light sofar).2) :
    row ∈ sofar.2 ∨ row.newState ≠ .off := by
  induction entries generalizing sofar with
  | nil => exact .inl among
  | cons entry entries ih =>
      rcases ih among with here | notOff
      · simp only [light] at here
        split at here
        · rcases List.mem_append.mp here with before | new
          · exact .inl before
          · rw [List.mem_singleton.mp new]
            exact .inr entry.2.state_ne_off
        · exact .inl here
      · exact .inr notOff

/-- The second loop writes a row for a light that has been missing for long. -/
theorem missing_of_mem_expired {frame : Frame} {lastSeen : Dict SignalKey ℚ}
    {entries : List (SignalKey × SignalState)} {sofar : Written} {row : ChangeRow}
    (among : row ∈ (entries.foldl (expire frame lastSeen) sofar).2) :
    row ∈ sofar.2 ∨ frame.states.find row.key = none ∧
      offDebounce < nearestDouble (frame.now - (lastSeen.find row.key).getD 0) := by
  induction entries generalizing sofar with
  | nil => exact .inl among
  | cons entry entries ih =>
      rcases ih among with here | missing
      · rw [expire] at here
        split at here
        next condition =>
          rcases List.mem_append.mp here with before | new
          · exact .inl before
          · rw [List.mem_singleton.mp new]
            exact .inr condition.2
        · exact .inl here
      · exact .inr missing

theorem missing_of_mem_step {memory : Memory} {frame : Frame} {row : ChangeRow}
    (among : row ∈ (memory.step frame).2) (off : row.newState = .off) :
    frame.states.find row.key = none ∧
      offDebounce < nearestDouble (frame.now - ((memory.see frame).find row.key).getD 0) := by
  rcases missing_of_mem_expired among with lit | missing
  · rcases not_off_of_mem_lights lit with none | notOff
    · exact absurd none List.not_mem_nil
    · exact absurd off notOff
  · exact missing

/-! ## When a light was last seen -/

theorem find_see (memory : Memory) (frame : Frame) (key : SignalKey) :
    (memory.see frame).find key =
      if frame.states.find key = none then memory.lastSeen.find key else some frame.now := by
  have seeAll : ∀ (entries : List (SignalKey × Lit)) (seen : Dict SignalKey ℚ),
      (entries.foldl (fun seen entry => seen.set entry.1 frame.now) seen).find key =
        if key ∈ entries.map Prod.fst then some frame.now else seen.find key := by
    intro entries
    induction entries with
    | nil => simp
    | cons entry entries ih =>
        intro seen
        simp only [List.foldl_cons, ih, Dict.find_set, List.map_cons, List.mem_cons]
        by_cases later : key ∈ entries.map Prod.fst
        · simp [later]
        · by_cases here : key = entry.1
          · simp [here]
          · simp [here, Ne.symm here, later]
  rw [Memory.see, seeAll]
  have absent : frame.states.find key = none ↔ key ∉ frame.states.rows.map Prod.fst := by
    rw [Dict.find, Option.map_eq_none_iff, Table.get_eq_none_iff]
  by_cases present : key ∈ frame.states.rows.map Prod.fst
  · rw [if_pos present, if_neg (mt absent.mp (not_not_intro present))]
  · rw [if_neg present, if_pos (absent.mpr present)]

/-- Every light of the frames before is remembered, with a time that is not before them. -/
def Remembers (memory : Memory) (history : List Frame) : Prop :=
  ∀ seen ∈ history, ∀ key, seen.states.find key ≠ none →
    ∃ time, memory.lastSeen.find key = some time ∧ seen.now ≤ time

theorem Remembers.step {memory : Memory} {history : List Frame} {frame : Frame}
    (remembers : Remembers memory history) (ordered : ∀ seen ∈ history, seen.now ≤ frame.now) :
    Remembers (memory.step frame).1 (history ++ [frame]) := by
  intro seen among key present
  change ∃ time, (memory.see frame).find key = some time ∧ seen.now ≤ time
  rw [find_see]
  rcases List.mem_append.mp among with before | here
  · split
    · exact remembers seen before key present
    · exact ⟨frame.now, rfl, ordered seen before⟩
  · rw [List.mem_singleton.mp here] at present ⊢
    rw [if_neg present]
    exact ⟨frame.now, rfl, le_refl _⟩

theorem Remembers.run {memory : Memory} {history : List Frame}
    (remembers : Remembers memory history) {frames : List Frame}
    (ordered : ((history ++ frames).map Frame.now).Pairwise (· ≤ ·)) :
    Remembers (machine.final memory frames) (history ++ frames) := by
  induction frames generalizing memory history with
  | nil =>
      rw [List.append_nil]
      exact remembers
  | cons frame frames ih =>
      have split : history ++ frame :: frames = (history ++ [frame]) ++ frames := by simp
      rw [split] at ordered ⊢
      refine ih (remembers.step ?_) ordered
      rw [List.append_assoc, List.map_append, List.pairwise_append] at ordered
      exact fun seen before => ordered.2.2 _ (List.mem_map_of_mem before) _ (.head _)

/-- A light that is written off has been missing for more than the debounce. -/
theorem missing_of_off {before : List Frame} {frame : Frame}
    (ordered : ((before ++ [frame]).map Frame.now).Pairwise (· ≤ ·)) {row : ChangeRow}
    (among : row ∈ (machine.step (machine.final {} before) frame).2) (off : row.newState = .off)
    {seen : Frame} (earlier : seen ∈ before ++ [frame])
    (present : seen.states.find row.key ≠ none) : seen.now + offDebounce < frame.now := by
  obtain ⟨notHere, long⟩ := missing_of_mem_step among off
  have started : Remembers {} [] := fun _ none => absurd none List.not_mem_nil
  have remembers : Remembers (machine.final {} before) before :=
    started.run (ordered.sublist ((List.sublist_append_left before [frame]).map _))
  have isBefore : seen ∈ before := by
    rcases List.mem_append.mp earlier with isBefore | here
    · exact isBefore
    · rw [List.mem_singleton.mp here] at present
      exact absurd notHere present
  obtain ⟨time, isLast, later⟩ := remembers seen isBefore row.key present
  rw [find_see, if_pos notHere, isLast, Option.getD_some] at long
  have apart : ¬frame.now - time ≤ (2 : ℕ) := fun short =>
    absurd (nearestDouble_le (by decide) short) (not_le.mpr long)
  rw [offDebounce]
  push_cast at apart
  linarith

/-- Over every run the rows of a light are a chain from off to the state that is sent, and it goes
off only after it has been missing for more than the debounce. -/
theorem changeLog_chain (frames : List Frame) (ordered : (frames.map Frame.now).Pairwise (· ≤ ·)) :
    (∀ key, ChainFrom .off (rowsOf key (machine.trace {} frames))) ∧
    (∀ before frame after, frames = before ++ frame :: after →
      ∀ row ∈ (machine.step (machine.final {} before) frame).2, row.newState = .off →
        ∀ seen ∈ before ++ [frame], seen.states.find row.key ≠ none →
          seen.now + offDebounce < frame.now) ∧
    ∀ before after, frames = before ++ after → ∀ key,
      stateOf (machine.final {} before).prevState key =
        endState .off (rowsOf key (machine.trace {} before)) := by
  refine ⟨fun key => (consistent_start.run frames key).1, ?_, ?_⟩
  · intro before frame after split row among off seen earlier present
    have first : (before ++ [frame]).Sublist frames := by
      rw [split]
      exact (List.Sublist.refl before).append (.cons_cons frame (List.nil_sublist after))
    exact missing_of_off (ordered.sublist (first.map _)) among off earlier present
  · intro before after _ key
    exact (consistent_start.run before key).2

/-- A light that blinks is missed for a second, and then for four. -/
def missedLight : List Frame :=
  [⟨0, Dict.ofPairs [((1, "red"), .blink)]⟩, ⟨1, Table.empty⟩, ⟨4, Table.empty⟩]

theorem changeLog_chain_missedLight :
    (machine.trace {} missedLight).map (fun row => (row.oldState, row.newState)) =
      [(.off, .blink), (.blink, .off)] ∧
    ∀ key, ChainFrom .off (rowsOf key (machine.trace {} missedLight)) :=
  ⟨by decide +kernel, (changeLog_chain missedLight (by decide +kernel)).1⟩

end SignalChanges

end PresenceLogger.Child
