import PresenceLogger.Library.Sql

/-!
# MERGEs under a unique key

Each session of the database runs one MERGE that only inserts.  Its statement
reads the committed rows; its insert waits for an equal key that is not committed
yet and is refused by one that is.  A client may be answered before its session
ends, and then the answer tells whether the session still commits.
-/

namespace PresenceLogger.Library.Sql

universe u v w

/-- How far the MERGE of a session is. -/
inductive Phase where
  | queued
  /-- The statement found a committed row and inserts nothing. -/
  | matched
  /-- The statement found no row, and its insert is next. -/
  | unmatched
  | inserted
  | refused
  | ended
  deriving DecidableEq, Repr

/-- The session has a transaction that can end. -/
def Phase.isLive : Phase → Bool
  | .queued | .matched | .unmatched | .inserted => true
  | .refused | .ended => false

/-- The session has inserted its row or may come to it. -/
def Phase.mayInsert : Phase → Bool
  | .queued | .unmatched | .inserted => true
  | .matched | .refused | .ended => false

structure Session (ρ : Type u) (α : Type v) where
  row : ρ
  phase : Phase := .queued
  /-- What the client was told. -/
  answer : Option α := none
  deriving DecidableEq, Repr

structure Database (ρ : Type u) (α : Type v) where
  committed : List ρ
  sessions : List (Session ρ α) := []
  deriving DecidableEq, Repr

variable {ρ : Type u} {α : Type v} {κ : Type w} [DecidableEq κ]

/-- Two rows the unique index does not admit together. -/
def clash (key : ρ → Option κ) (row other : ρ) : Bool := equal (key row) (key other)

theorem clash_symm {key : ρ → Option κ} {row other : ρ} (clashes : clash key row other = true) :
    clash key other row = true := by
  simp only [clash, equal, Bool.and_eq_true, decide_eq_true_eq] at *
  exact ⟨clashes.2 ▸ clashes.1, clashes.2.symm⟩

/-- The answer, if there is one, leaves it open that the row is kept. -/
def Session.keeps (kept : α → Bool) (session : Session ρ α) : Bool := session.answer.all kept

/-- The row may be committed yet. -/
def Session.mayCommit (kept : α → Bool) (session : Session ρ α) : Bool :=
  session.phase.mayInsert && session.keeps kept

namespace Database

/-! ## What a session does -/

/-- A session goes on, and rows of it are committed. -/
def moved (db : Database ρ α) (index : Nat) (after : Session ρ α) (added : List ρ) :
    Database ρ α where
  committed := db.committed ++ added
  sessions := db.sessions.set index after

/-- A new session, which has not run its statement. -/
def begin (db : Database ρ α) (row : ρ) : Database ρ α :=
  { db with sessions := db.sessions ++ [{ row := row }] }

/-- The statement reads the committed rows. -/
def read (on : ρ → ρ → Bool) (db : Database ρ α) (index : Nat) : Database ρ α :=
  match db.sessions[index]? with
  | none => db
  | some session =>
      if session.phase = .queued then
        if db.committed.any fun row => on row session.row then
          db.moved index { session with phase := .matched } []
        else db.moved index { session with phase := .unmatched } []
      else db

/-- The insert: it waits for an uncommitted row with its key, and a committed one
refuses it. -/
def insert (key : ρ → Option κ) (db : Database ρ α) (index : Nat) : Database ρ α :=
  match db.sessions[index]? with
  | none => db
  | some session =>
      if session.phase = .unmatched then
        if db.sessions.any fun other =>
            other.phase = .inserted && clash key other.row session.row then db
        else if db.committed.any fun row => clash key row session.row then
          db.moved index { session with phase := .refused } []
        else db.moved index { session with phase := .inserted } []
      else db

/-- The client learns how its MERGE went, unless it was told before. -/
def tell (db : Database ρ α) (index : Nat) (answer : α) : Database ρ α :=
  match db.sessions[index]? with
  | none => db
  | some session =>
      if session.answer.isNone then db.moved index { session with answer := some answer } []
      else db

/-- The transaction ends; its row is committed unless the answer tells otherwise. -/
def close (kept : α → Bool) (db : Database ρ α) (index : Nat) : Database ρ α :=
  match db.sessions[index]? with
  | none => db
  | some session =>
      if session.phase.isLive then
        db.moved index { session with phase := .ended }
          (if session.phase = .inserted && session.keeps kept then [session.row] else [])
      else db

end Database

/-- What one step makes of a session, with the rows it commits. -/
inductive Session.Moves (key : ρ → Option κ) (on : ρ → ρ → Bool) (kept : α → Bool)
    (db : Database ρ α) (before : Session ρ α) : Session ρ α → List ρ → Prop
  | matched (phase : before.phase = .queued) :
      Moves key on kept db before { before with phase := .matched } []
  | unmatched (phase : before.phase = .queued)
      (unseen : ∀ row ∈ db.committed, on row before.row = false) :
      Moves key on kept db before { before with phase := .unmatched } []
  | inserted (phase : before.phase = .unmatched)
      (alone : ∀ other ∈ db.sessions, other.phase = .inserted →
        clash key other.row before.row = false)
      (free : ∀ row ∈ db.committed, clash key row before.row = false) :
      Moves key on kept db before { before with phase := .inserted } []
  | refused (phase : before.phase = .unmatched)
      (holder : ∃ row ∈ db.committed, clash key row before.row = true) :
      Moves key on kept db before { before with phase := .refused } []
  | told (answer : α) (untold : before.answer = none) :
      Moves key on kept db before { before with answer := some answer } []
  | rolledBack : Moves key on kept db before { before with phase := .ended } []
  | committed (phase : before.phase = .inserted) (keeps : before.keeps kept = true) :
      Moves key on kept db before { before with phase := .ended } [before.row]

/-- Nothing happens, or a session takes a step. -/
inductive Database.Goes (key : ρ → Option κ) (on : ρ → ρ → Bool) (kept : α → Bool)
    (db : Database ρ α) : Database ρ α → Prop
  | still : Goes key on kept db db
  | move {index : Nat} {before after : Session ρ α} {added : List ρ}
      (found : db.sessions[index]? = some before)
      (moves : before.Moves key on kept db after added) :
      Goes key on kept db (db.moved index after added)

section Operations

variable (key : ρ → Option κ) (on : ρ → ρ → Bool) (kept : α → Bool) (db : Database ρ α)
  (index : Nat)

theorem Database.goes_read : db.Goes key on kept (db.read on index) := by
  rw [read]
  split
  · exact .still
  next session found =>
    split
    next phase =>
      split
      · exact .move found (.matched phase)
      next unseen =>
        refine .move found (.unmatched phase fun row member => ?_)
        simp only [List.any_eq_true, not_exists, not_and, Bool.not_eq_true] at unseen
        exact unseen row member
    · exact .still

theorem Database.goes_insert : db.Goes key on kept (db.insert key index) := by
  rw [insert]
  split
  · exact .still
  next session found =>
    split
    next phase =>
      split
      · exact .still
      next free =>
        simp only [List.any_eq_true, Bool.and_eq_true, decide_eq_true_eq, not_exists, not_and,
          Bool.not_eq_true] at free
        split
        next holder =>
          simp only [List.any_eq_true] at holder
          exact .move found (.refused phase holder)
        next unheld =>
          simp only [List.any_eq_true, not_exists, not_and, Bool.not_eq_true] at unheld
          exact .move found (.inserted phase free unheld)
    · exact .still

theorem Database.goes_tell (answer : α) : db.Goes key on kept (db.tell index answer) := by
  rw [tell]
  split
  · exact .still
  next session found =>
    split
    next untold => exact .move found (.told answer (Option.isNone_iff_eq_none.mp untold))
    · exact .still

theorem Database.goes_close : db.Goes key on kept (db.close kept index) := by
  rw [close]
  split
  · exact .still
  next session found =>
    split
    · split
      next keeps =>
        simp only [Bool.and_eq_true, decide_eq_true_eq] at keeps
        exact .move found (.committed keeps.1 keeps.2)
      · exact .move found .rolledBack
    · exact .still

end Operations

/-! ## What a step leaves alone -/

section Moved

variable {key : ρ → Option κ} {on : ρ → ρ → Bool} {kept : α → Bool} {db : Database ρ α}
  {before after : Session ρ α} {added : List ρ}

theorem Session.Moves.row (moves : before.Moves key on kept db after added) :
    after.row = before.row := by
  cases moves <;> rfl

/-- A session that may commit after a step might have before. -/
theorem Session.Moves.mayCommit (moves : before.Moves key on kept db after added)
    (may : after.mayCommit kept = true) : before.mayCommit kept = true := by
  cases moves with
  | matched | refused | rolledBack | committed => cases may
  | unmatched phase | inserted phase =>
      rw [Session.mayCommit, phase]
      exact may
  | told answer untold =>
      simp only [Session.mayCommit, Session.keeps, untold, Option.all_none, Bool.and_eq_true,
        and_true] at may ⊢
      exact may.1

/-- A step commits the row of its session, which was inserted before. -/
theorem Session.Moves.of_added (moves : before.Moves key on kept db after added) {row : ρ}
    (member : row ∈ added) :
    row = before.row ∧ before.phase = .inserted ∧ before.mayCommit kept = true := by
  cases moves with
  | committed phase keeps =>
      refine ⟨List.mem_singleton.mp member, phase, ?_⟩
      rw [Session.mayCommit, phase, keeps]
      rfl
  | _ => exact absurd member List.not_mem_nil

/-- A session after a step is the one that took it, or as it was. -/
theorem Database.session_moved {index other : Nat} {session : Session ρ α}
    (found : db.sessions[index]? = some before)
    (reached : (db.moved index after added).sessions[other]? = some session) :
    (other = index ∧ session = after) ∨ (other ≠ index ∧ db.sessions[other]? = some session) := by
  have inside := (List.getElem?_eq_some_iff.mp found).1
  rw [moved] at reached
  by_cases same : other = index
  · subst same
    rw [List.getElem?_set_self inside] at reached
    exact .inl ⟨rfl, (Option.some.inj reached).symm⟩
  · rw [List.getElem?_set_ne (Ne.symm same)] at reached
    exact .inr ⟨same, reached⟩

/-- Every session after a step was there before it, with its row. -/
theorem Database.session_before {index other : Nat} {session : Session ρ α}
    (found : db.sessions[index]? = some before)
    (moves : before.Moves key on kept db after added)
    (reached : (db.moved index after added).sessions[other]? = some session) :
    ∃ earlier, db.sessions[other]? = some earlier ∧ earlier.row = session.row ∧
      (session.mayCommit kept = true → earlier.mayCommit kept = true) := by
  rcases session_moved found reached with ⟨rfl, rfl⟩ | ⟨-, unmoved⟩
  · exact ⟨before, found, moves.row.symm, moves.mayCommit⟩
  · exact ⟨session, unmoved, rfl, id⟩

/-- A session after another has begun is that one or was there. -/
theorem Database.session_begin {row : ρ} {index : Nat} {session : Session ρ α}
    (reached : (db.begin row).sessions[index]? = some session) :
    (index = db.sessions.length ∧ session = { row := row }) ∨
      db.sessions[index]? = some session := by
  rcases Nat.lt_or_ge index db.sessions.length with earlier | late
  · rw [begin, List.getElem?_append_left earlier] at reached
    exact .inr reached
  · rw [begin, List.getElem?_append_right late] at reached
    rcases List.getElem?_eq_some_iff.mp reached with ⟨first, same⟩
    have here : index - db.sessions.length = 0 := Nat.lt_one_iff.mp first
    refine .inl ⟨by omega, ?_⟩
    simpa only [here, List.getElem_cons_zero] using same.symm

end Moved

/-! ## The unique key -/

/-- What the index guarantees of the rows in it. -/
structure Database.UniqueKeys (key : ρ → Option κ) (db : Database ρ α) : Prop where
  /-- A row that is inserted and not committed has its key to itself. -/
  apart : ∀ (index : Nat) (session : Session ρ α), db.sessions[index]? = some session →
    session.phase = .inserted → ∀ row ∈ db.committed, clash key row session.row = false
  alone : ∀ (index : Nat) (session : Session ρ α), db.sessions[index]? = some session →
    session.phase = .inserted →
    ∀ (other : Nat) (rival : Session ρ α), db.sessions[other]? = some rival →
      rival.phase = .inserted → clash key rival.row session.row = true → other = index
  /-- A refused session was refused by a row that stays. -/
  held : ∀ (index : Nat) (session : Session ρ α), db.sessions[index]? = some session →
    session.phase = .refused → ∃ row ∈ db.committed, clash key row session.row = true

section UniqueKeys

variable {key : ρ → Option κ} {on : ρ → ρ → Bool} {kept : α → Bool} {db : Database ρ α}

theorem Database.uniqueKeys_idle (key : ρ → Option κ) (committed : List ρ) :
    (Database.mk committed ([] : List (Session ρ α))).UniqueKeys key where
  apart _ _ found := by cases found
  alone _ _ found := by cases found
  held _ _ found := by cases found

theorem Database.UniqueKeys.begin (unique : db.UniqueKeys key) (row : ρ) :
    (db.begin row).UniqueKeys key where
  apart index session found phase := by
    rcases session_begin found with ⟨-, rfl⟩ | earlier
    · cases phase
    · exact unique.apart index session earlier phase
  alone index session found phase other rival rivalFound rivalPhase := by
    rcases session_begin found with ⟨-, rfl⟩ | earlier
    · cases phase
    · rcases session_begin rivalFound with ⟨-, rfl⟩ | rivalEarlier
      · cases rivalPhase
      · exact unique.alone index session earlier phase other rival rivalEarlier rivalPhase
  held index session found phase := by
    rcases session_begin found with ⟨-, rfl⟩ | earlier
    · cases phase
    · exact unique.held index session earlier phase

/-- A session that has its row inserted had it, or its key was free. -/
theorem Session.Moves.of_inserted {before after : Session ρ α} {added : List ρ}
    (moves : before.Moves key on kept db after added) (phase : after.phase = .inserted) :
    added = [] ∧
      (before.phase = .inserted ∨
        (∀ other ∈ db.sessions, other.phase = .inserted →
          clash key other.row before.row = false) ∧
        ∀ row ∈ db.committed, clash key row before.row = false) := by
  cases moves with
  | matched | unmatched | refused | rolledBack | committed => cases phase
  | told => exact ⟨rfl, .inl phase⟩
  | inserted _ alone free => exact ⟨rfl, .inr ⟨alone, free⟩⟩

theorem Session.Moves.of_refused {before after : Session ρ α} {added : List ρ}
    (moves : before.Moves key on kept db after added) (phase : after.phase = .refused) :
    before.phase = .refused ∨ ∃ row ∈ db.committed, clash key row before.row = true := by
  cases moves with
  | matched | unmatched | inserted | rolledBack | committed => cases phase
  | told => exact .inl phase
  | refused _ holder => exact .inr holder

/-- No step brings two equal keys into the index. -/
theorem Database.UniqueKeys.move (unique : db.UniqueKeys key) {index : Nat}
    {before after : Session ρ α} {added : List ρ} (found : db.sessions[index]? = some before)
    (moves : before.Moves key on kept db after added) :
    (db.moved index after added).UniqueKeys key where
  apart other session reached phase row member := by
    rcases session_moved found reached with ⟨rfl, rfl⟩ | ⟨different, unmoved⟩
    · rcases moves.of_inserted phase with ⟨rfl, was | free⟩
      · rw [moves.row]
        exact unique.apart _ before found was row (by simpa [moved] using member)
      · rw [moves.row]
        exact free.2 row (by simpa [moved] using member)
    · rcases List.mem_append.mp member with earlier | new
      · exact unique.apart other session unmoved phase row earlier
      · rcases moves.of_added new with ⟨rfl, was, -⟩
        by_contra clashes
        rw [Bool.not_eq_false] at clashes
        apply different
        exact (unique.alone other session unmoved phase index before found was clashes).symm
  alone other session reached phase third rival rivalReached rivalPhase clashes := by
    rcases session_moved found reached with ⟨rfl, rfl⟩ | ⟨different, unmoved⟩
    · rcases session_moved found rivalReached with ⟨rfl, -⟩ | ⟨-, rivalUnmoved⟩
      · rfl
      · rw [moves.row] at clashes
        rcases (moves.of_inserted phase).2 with was | free
        · exact unique.alone _ before found was third rival rivalUnmoved rivalPhase clashes
        · have absent := free.1 rival (List.mem_of_getElem? rivalUnmoved) rivalPhase
          rw [clashes] at absent
          cases absent
    · rcases session_moved found rivalReached with ⟨rfl, rfl⟩ | ⟨-, rivalUnmoved⟩
      · rw [moves.row] at clashes
        rcases (moves.of_inserted rivalPhase).2 with was | free
        · exact unique.alone other session unmoved phase _ before found was clashes
        · have absent := free.1 session (List.mem_of_getElem? unmoved) phase
          rw [clash_symm clashes] at absent
          cases absent
      · exact unique.alone other session unmoved phase third rival rivalUnmoved rivalPhase clashes
  held other session reached phase := by
    have kept : ∀ row, row ∈ db.committed → row ∈ (db.moved index after added).committed :=
      fun row member => List.mem_append_left _ member
    rcases session_moved found reached with ⟨rfl, rfl⟩ | ⟨-, unmoved⟩
    · rw [moves.row]
      rcases moves.of_refused phase with was | ⟨row, member, clashes⟩
      · rcases unique.held _ before found was with ⟨row, member, clashes⟩
        exact ⟨row, kept row member, clashes⟩
      · exact ⟨row, kept row member, clashes⟩
    · rcases unique.held other session unmoved phase with ⟨row, member, clashes⟩
      exact ⟨row, kept row member, clashes⟩

theorem Database.UniqueKeys.goes (unique : db.UniqueKeys key) {next : Database ρ α}
    (goes : db.Goes key on kept next) : next.UniqueKeys key := by
  cases goes with
  | still => exact unique
  | move found moves => exact unique.move found moves

end UniqueKeys

end PresenceLogger.Library.Sql
