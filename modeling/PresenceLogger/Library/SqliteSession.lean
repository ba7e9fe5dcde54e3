import PresenceLogger.Library.Sqlite

/-!
# Sessions on a SQLite file

What a process does on one connection, where any statement may fail or be the last thing
the process does.  Triples say where a session leaves the file when it returns and when
it is cut short, and a transaction leaves it as it was or has its whole effect.
-/

namespace PresenceLogger.Library.Sqlite

variable {conversion : Conversion}

/-- How a statement ends: as the file has it, with an error that leaves the transaction
open or takes it back, or with the process. -/
inductive Ending where
  | done
  | fails
  | rollsBack
  | stops
  deriving DecidableEq, Repr

/-- A connection without implicit transactions. -/
structure Connection (conversion : Conversion) where
  file : Catalog conversion
  pending : Option (Catalog conversion) := none

/-- A connection, with the endings of the statements to come. -/
structure World (conversion : Conversion) where
  endings : List Ending
  connection : Connection conversion

inductive Result (α : Type) where
  | returned (value : α)
  | raised
  | stopped
  deriving DecidableEq, Repr

def Session (conversion : Conversion) (α : Type) := World conversion → Result α × World conversion

inductive Statement where
  | pragma (text : String)
  | beginTransaction (immediate : Bool)
  | commit
  | rollback
  | change (change : Change)
  deriving DecidableEq, Repr

/-- What the connection sees. -/
def Connection.view (connection : Connection conversion) : Catalog conversion :=
  connection.pending.getD connection.file

/-- The effect of a statement that ends as the file has it. -/
def Connection.perform (connection : Connection conversion) :
    Statement → Option (Connection conversion)
  | .pragma _ => some connection
  | .beginTransaction _ =>
      match connection.pending with
      | none => some { connection with pending := some connection.file }
      | some _ => none
  | .commit => connection.pending.map fun pending => { file := pending }
  | .rollback => connection.pending.map fun _ => { connection with pending := none }
  | .change change =>
      match connection.pending with
      | none => (change.apply connection.file).map fun file => { file := file }
      | some pending =>
          (change.apply pending).map fun next => { connection with pending := some next }

namespace Session

variable {α β : Type}

protected def pure (value : α) : Session conversion α := fun world => (.returned value, world)

protected def bind (session : Session conversion α) (next : α → Session conversion β) :
    Session conversion β := fun world =>
  match session world with
  | (.returned value, after) => next value after
  | (.raised, after) => (.raised, after)
  | (.stopped, after) => (.stopped, after)

instance : Monad (Session conversion) where
  pure := Session.pure
  bind := Session.bind

/-- A statement or query that takes the next ending. -/
def atomic (effect : Connection conversion → Option (α × Connection conversion)) :
    Session conversion α := fun world =>
  match world.endings.headD .done with
  | .done =>
      match effect world.connection with
      | some (value, next) => (.returned value, ⟨world.endings.tail, next⟩)
      | none => (.raised, ⟨world.endings.tail, world.connection⟩)
  | .fails => (.raised, ⟨world.endings.tail, world.connection⟩)
  | .rollsBack => (.raised, ⟨world.endings.tail, { world.connection with pending := none }⟩)
  | .stops => (.stopped, ⟨world.endings.tail, world.connection⟩)

/-- `c.execute` -/
def execute (statement : Statement) : Session conversion Unit :=
  atomic fun connection => (connection.perform statement).map fun next => ((), next)

/-- `c.execute(...).fetchall()` of a query. -/
def query (read : Catalog conversion → α) : Session conversion α :=
  atomic fun connection => some (read connection.view, connection)

def executeAll : List Statement → Session conversion Unit
  | [] => pure ()
  | statement :: statements => do
      execute statement
      executeAll statements

/-- `c.executescript`, which first commits what is pending. -/
def executescript (statements : List Statement) : Session conversion Unit := fun world =>
  if world.connection.pending.isSome then
    (do execute .commit; executeAll statements : Session conversion Unit) world
  else executeAll statements world

/-- `try: ... except sqlite3.Error: handler; raise` -/
def onError (session : Session conversion α) (handler : Session conversion Unit) :
    Session conversion α := fun world =>
  match session world with
  | (.raised, after) =>
      match handler after with
      | (.stopped, last) => (.stopped, last)
      | (_, last) => (.raised, last)
  | ended => ended

/-- A session on a connection of its own; closing it drops what is pending. -/
def onFile (session : Session conversion α) (file : Catalog conversion) (endings : List Ending) :
    Result α × Catalog conversion :=
  let ended := session ⟨endings, { file := file }⟩
  (ended.1, ended.2.connection.file)

/-- The file after one session after another, each with endings of its own. -/
def reopened (session : Session conversion α) (file : Catalog conversion)
    (attempts : List (List Ending)) : Catalog conversion :=
  attempts.foldl (fun file endings => (session.onFile file endings).2) file

/-! ## Triples -/

/-- A session that returned left `after`; one that did not was cut short by one of the
endings it was given, and left `broken`. -/
def Ended (endings : List Ending) (after : α → Connection conversion → Prop)
    (broken : Connection conversion → Prop) : Result α × World conversion → Prop
  | (.returned value, world) => world.endings ⊆ endings ∧ after value world.connection
  | (.raised, world) | (.stopped, world) =>
      world.endings ⊆ endings ∧ (∃ ending ∈ endings, ending ≠ .done) ∧ broken world.connection

/-- Started in `before`, the session leaves `after` or is cut short and leaves `broken`. -/
def Triple (before : Connection conversion → Prop) (session : Session conversion α)
    (after : α → Connection conversion → Prop) (broken : Connection conversion → Prop) : Prop :=
  ∀ world, before world.connection → Ended world.endings after broken (session world)

section Rules

variable {before broken : Connection conversion → Prop}
  {after : α → Connection conversion → Prop}

theorem Ended.subset {endings more : List Ending} {ended : Result α × World conversion}
    (holds : Ended endings after broken ended) (subset : endings ⊆ more) :
    Ended more after broken ended := by
  rcases ended with ⟨result, world⟩
  cases result with
  | returned value => exact ⟨List.Subset.trans holds.1 subset, holds.2⟩
  | raised | stopped =>
      obtain ⟨within, ⟨ending, member, bad⟩, left⟩ := holds
      exact ⟨List.Subset.trans within subset, ⟨ending, subset member, bad⟩, left⟩

theorem triple_pure {value : α} (holds : ∀ connection, before connection → after value connection) :
    Triple before (pure value : Session conversion α) after broken :=
  fun _ start => ⟨List.Subset.refl _, holds _ start⟩

theorem triple_bind {session : Session conversion α} {next : α → Session conversion β}
    {between : α → Connection conversion → Prop} {after : β → Connection conversion → Prop}
    (first : Triple before session between broken)
    (second : ∀ value, Triple (between value) (next value) after broken) :
    Triple before (session >>= next) after broken := by
  intro world start
  have ended := first world start
  change Ended _ _ _ (Session.bind session next world)
  rw [Session.bind]
  revert ended
  rcases session world with ⟨result, reached⟩
  cases result with
  | returned value => exact fun ended => (second value reached ended.2).subset ended.1
  | raised | stopped => exact id

theorem Triple.mono {session : Session conversion α}
    {stronger weaker : Connection conversion → Prop}
    {following : α → Connection conversion → Prop}
    (triple : Triple before session after broken)
    (weakens : ∀ connection, stronger connection → before connection)
    (implies : ∀ value connection, after value connection → following value connection)
    (brokenImplies : ∀ connection, broken connection → weaker connection) :
    Triple stronger session following weaker := by
  intro world start
  have ended := triple world (weakens _ start)
  revert ended
  rcases session world with ⟨result, reached⟩
  cases result with
  | returned value => exact fun ended => ⟨ended.1, implies _ _ ended.2⟩
  | raised | stopped => exact fun ended => ⟨ended.1, ended.2.1, brokenImplies _ ended.2.2⟩

/-- A statement that does not fail of itself. -/
theorem triple_atomic {effect : Connection conversion → Option (α × Connection conversion)}
    (succeeds : ∀ connection, before connection →
      ∃ value next, effect connection = some (value, next) ∧ after value next)
    (breaks : ∀ connection, before connection →
      broken connection ∧ broken { connection with pending := none }) :
    Triple before (atomic effect) after broken := by
  intro world start
  obtain ⟨value, next, performed, holds⟩ := succeeds _ start
  obtain ⟨open_, closed⟩ := breaks _ start
  rcases world with ⟨endings, connection⟩
  cases endings with
  | nil =>
      simp only [atomic, List.headD_nil, performed]
      exact ⟨List.Subset.refl _, holds⟩
  | cons ending endings =>
      have tail : endings ⊆ ending :: endings := List.subset_cons_self _ _
      cases ending with
      | done =>
          simp only [atomic, List.headD_cons, performed]
          exact ⟨tail, holds⟩
      | fails => exact ⟨tail, ⟨.fails, .head _, by simp⟩, open_⟩
      | rollsBack => exact ⟨tail, ⟨.rollsBack, .head _, by simp⟩, closed⟩
      | stops => exact ⟨tail, ⟨.stops, .head _, by simp⟩, open_⟩

theorem triple_execute {statement : Statement}
    {after : Connection conversion → Prop}
    (succeeds : ∀ connection, before connection →
      ∃ next, connection.perform statement = some next ∧ after next)
    (breaks : ∀ connection, before connection →
      broken connection ∧ broken { connection with pending := none }) :
    Triple before (execute statement) (fun _ => after) broken := by
  apply triple_atomic _ breaks
  intro connection start
  obtain ⟨next, performed, holds⟩ := succeeds connection start
  exact ⟨(), next, by rw [performed]; rfl, holds⟩

/-- A handler that keeps what is broken. -/
theorem triple_onError {session : Session conversion α} {handler : Session conversion Unit}
    (triple : Triple before session after broken)
    (keeps : ∀ world, broken world.connection →
      (handler world).2.endings ⊆ world.endings ∧ broken (handler world).2.connection) :
    Triple before (onError session handler) after broken := by
  intro world start
  have ended := triple world start
  rw [onError]
  revert ended
  rcases session world with ⟨result, reached⟩
  cases result with
  | returned value => exact id
  | stopped => exact id
  | raised =>
      intro ended
      obtain ⟨within, bad, left⟩ := ended
      have last := keeps reached left
      revert last
      dsimp only
      rcases handler reached with ⟨handled, final⟩
      cases handled with
      | stopped | raised | returned =>
          exact fun last => ⟨List.Subset.trans last.1 within, bad, last.2⟩

end Rules

/-! ## Scripts -/

/-- No transaction is open, and the file is this one. -/
def At (file : Catalog conversion) (connection : Connection conversion) : Prop :=
  connection.file = file ∧ connection.pending = none

/-- A transaction is open that has made this of the file. -/
def Within (file pending : Catalog conversion) (connection : Connection conversion) : Prop :=
  connection.file = file ∧ connection.pending = some pending

/-- The file is this one, whatever a transaction has made of it. -/
def Untouched (file : Catalog conversion) (connection : Connection conversion) : Prop :=
  connection.file = file

theorem triple_pragmas {file : Catalog conversion} {texts : List String} :
    Triple (At file) (executeAll (texts.map .pragma)) (fun _ => At file) (Untouched file) := by
  induction texts with
  | nil => exact triple_pure fun _ start => start
  | cons text texts ih =>
      apply triple_bind _ fun _ => ih
      exact triple_execute (fun connection start => ⟨connection, rfl, start⟩)
        fun _ start => ⟨start.1, start.1⟩

/-- A query sees the file. -/
theorem triple_query (read : Catalog conversion → α) (file : Catalog conversion) :
    Triple (At file) (query read) (fun value connection => value = read file ∧ At file connection)
      (Untouched file) := by
  apply triple_atomic
  · rintro connection ⟨rfl, closed⟩
    refine ⟨_, connection, rfl, ?_, rfl, closed⟩
    rw [Connection.view, closed]
    rfl
  · exact fun _ start => ⟨start.1, start.1⟩

/-- Taking back a transaction, or failing to, leaves the file alone. -/
theorem execute_rollback {file : Catalog conversion} {world : World conversion}
    (untouched : Untouched file world.connection) :
    (execute .rollback world).2.endings ⊆ world.endings ∧
      Untouched file (execute .rollback world).2.connection := by
  have tail : world.endings.tail ⊆ world.endings :=
    (List.tail_sublist _).subset
  unfold execute atomic
  split
  · cases isPending : world.connection.pending with
    | none =>
        simp only [Connection.perform, isPending, Option.map_none]
        exact ⟨tail, untouched⟩
    | some pending =>
        simp only [Connection.perform, isPending, Option.map_some]
        exact ⟨tail, untouched⟩
  · exact ⟨tail, untouched⟩
  · exact ⟨tail, untouched⟩
  · exact ⟨tail, untouched⟩

theorem executeAll_append (left right : List Statement) :
    (executeAll (left ++ right) : Session conversion Unit) =
      executeAll left >>= fun _ => executeAll right := by
  induction left with
  | nil => rfl
  | cons statement left ih =>
      rw [List.cons_append, executeAll, executeAll, ih]
      funext world
      change Session.bind _ (fun _ => Session.bind _ _) world =
        Session.bind (Session.bind _ _) _ world
      simp only [Session.bind]
      rcases execute statement world with ⟨result, reached⟩
      cases result <;> rfl

/-- A change outside of any transaction. -/
theorem triple_change {file next : Catalog conversion} {change : Change}
    (applied : change.apply file = some next) :
    Triple (At file) (execute (.change change)) (fun _ => At next) (Untouched file) := by
  apply triple_execute
  · rintro connection ⟨rfl, closed⟩
    refine ⟨{ file := next }, ?_, rfl, rfl⟩
    simp only [Connection.perform, closed, applied]
    rfl
  · exact fun _ start => ⟨start.1, start.1⟩

/-- Changes within a transaction. -/
theorem triple_changes {file pending next : Catalog conversion} {changes : List Change}
    (applies : applyAll pending changes = some next) :
    Triple (Within file pending) (executeAll (changes.map .change)) (fun _ => Within file next)
      (Untouched file) := by
  induction changes generalizing pending with
  | nil =>
      cases applies
      exact triple_pure fun _ start => start
  | cons change changes ih =>
      obtain ⟨reached, applied, rest⟩ := Option.bind_eq_some_iff.mp applies
      apply triple_bind _ fun _ => ih rest
      apply triple_execute
      · rintro connection ⟨rfl, isPending⟩
        refine ⟨{ connection with pending := some reached }, ?_, rfl, rfl⟩
        simp only [Connection.perform, isPending, applied]
        rfl
      · exact fun _ start => ⟨start.1, start.1⟩

/-- A transaction has its whole effect, or the file is as it was. -/
theorem triple_transaction {file next : Catalog conversion} {changes : List Change}
    (applies : applyAll file changes = some next) (immediate : Bool) :
    Triple (At file)
      (executeAll (.beginTransaction immediate :: (changes.map .change ++ [.commit])))
      (fun _ => At next) (Untouched file) := by
  apply @triple_bind _ _ _ _ _ _ _ (fun _ => Within file file)
  · apply triple_execute
    · rintro connection ⟨rfl, isPending⟩
      refine ⟨{ connection with pending := some connection.file }, ?_, rfl, rfl⟩
      simp only [Connection.perform, isPending]
    · exact fun _ start => ⟨start.1, start.1⟩
  · intro _
    rw [executeAll_append]
    apply triple_bind (triple_changes applies)
    intro _
    apply triple_bind _ fun _ => triple_pure fun _ start => start
    apply triple_execute
    · rintro connection ⟨rfl, isPending⟩
      exact ⟨_, by simp only [Connection.perform, isPending]; rfl, rfl, rfl⟩
    · exact fun _ start => ⟨start.1, start.1⟩

theorem triple_executescript {file : Catalog conversion} {statements : List Statement}
    {after broken : Connection conversion → Prop}
    (triple : Triple (At file) (executeAll statements) (fun _ => after) broken) :
    Triple (At file) (executescript statements) (fun _ => after) broken := by
  intro world start
  have closed : world.connection.pending.isSome = false := by rw [start.2]; rfl
  rw [executescript, closed]
  exact triple world start

/-! ## Upgrades -/

/-- The session makes a file in `new` of any file in `old`, and leaves a file in `new` as
it is. -/
structure Upgrades (session : Session conversion Unit) (old new : Catalog conversion → Prop) :
    Prop where
  upgrades : ∀ file, old file → Triple (At file) session (fun _ connection => new connection.file)
    fun connection => old connection.file
  keeps : ∀ file, new file → Triple (At file) session (fun _ => Untouched file) (Untouched file)

namespace Upgrades

variable {session : Session conversion Unit} {old new : Catalog conversion → Prop}
  {file : Catalog conversion}

theorem old_onFile (upgrades : session.Upgrades old new) (start : old file)
    (endings : List Ending) :
    ((session.onFile file endings).1 = .returned () ∧ new (session.onFile file endings).2) ∨
      ((session.onFile file endings).1 ≠ .returned () ∧ (∃ ending ∈ endings, ending ≠ .done) ∧
        old (session.onFile file endings).2) := by
  have ended := upgrades.upgrades file start ⟨endings, { file := file }⟩ ⟨rfl, rfl⟩
  rw [onFile]
  revert ended
  rcases session ⟨endings, { file := file }⟩ with ⟨result, reached⟩
  cases result with
  | returned value => exact fun ended => .inl ⟨rfl, ended.2⟩
  | raised | stopped => exact fun ended => .inr ⟨by simp, ended.2.1, ended.2.2⟩

theorem new_onFile (upgrades : session.Upgrades old new) (start : new file)
    (endings : List Ending) :
    (session.onFile file endings).2 = file ∧
      ((session.onFile file endings).1 = .returned () ∨ ∃ ending ∈ endings, ending ≠ .done) := by
  have ended := upgrades.keeps file start ⟨endings, { file := file }⟩ ⟨rfl, rfl⟩
  rw [onFile]
  revert ended
  rcases session ⟨endings, { file := file }⟩ with ⟨result, reached⟩
  cases result with
  | returned value => exact fun ended => ⟨ended.2, .inl rfl⟩
  | raised | stopped => exact fun ended => ⟨ended.2.2, .inr ended.2.1⟩

/-- An upgraded file stays as it is. -/
theorem reopened_new (upgrades : session.Upgrades old new) (start : new file)
    (attempts : List (List Ending)) : session.reopened file attempts = file := by
  induction attempts with
  | nil => rfl
  | cons endings attempts ih =>
      rw [reopened, List.foldl_cons, (upgrades.new_onFile start endings).1]
      exact ih

/-- Whatever becomes of any number of attempts, the file is an old one or a new one. -/
theorem reopened_old (upgrades : session.Upgrades old new) (start : old file)
    (attempts : List (List Ending)) :
    old (session.reopened file attempts) ∨ new (session.reopened file attempts) := by
  induction attempts generalizing file with
  | nil => exact .inl start
  | cons endings attempts ih =>
      change old (session.reopened (session.onFile file endings).2 attempts) ∨
        new (session.reopened (session.onFile file endings).2 attempts)
      rcases upgrades.old_onFile start endings with ⟨-, upgraded⟩ | ⟨-, -, still⟩
      · rw [upgrades.reopened_new upgraded]
        exact .inr upgraded
      · exact ih still

/-- After any attempts, one that nothing disturbs returns and leaves a new file. -/
theorem onFile_of_done (upgrades : session.Upgrades old new) (start : old file ∨ new file)
    {endings : List Ending} (undisturbed : ∀ ending ∈ endings, ending = .done) :
    (session.onFile file endings).1 = .returned () ∧ new (session.onFile file endings).2 := by
  have good : ¬∃ ending ∈ endings, ending ≠ .done :=
    fun ⟨ending, member, bad⟩ => bad (undisturbed ending member)
  rcases start with start | start
  · exact (upgrades.old_onFile start endings).resolve_right fun cut => good cut.2.1
  · obtain ⟨same, returned⟩ := upgrades.new_onFile start endings
    exact ⟨returned.resolve_right good, same.symm ▸ start⟩

end Upgrades

end Session

end PresenceLogger.Library.Sqlite
