import Mathlib.Data.List.Forall2
import Mathlib.Data.Rat.Defs
import Mathlib.Logic.Function.Basic

/-!
# SQLite files

A file holds tables and indexes under one set of names.  A table carries its
constraints, and each statement that changes the file either has its whole effect
or fails and has none.
-/

namespace PresenceLogger.Library.Sqlite

inductive Cell where
  | null
  | integer (n : Int)
  | real (value : ℚ)
  | text (text : String)
  | blob (bytes : List UInt8)
  deriving DecidableEq, Repr

inductive Affinity where
  | text
  | integer
  | real
  deriving DecidableEq, Repr

/-- What a column makes of the value it is given; it stores what it holds as it is. -/
structure Conversion where
  convert : Affinity → Cell → Cell
  convert_convert : ∀ affinity cell,
    convert affinity (convert affinity cell) = convert affinity cell
  convert_null : ∀ affinity, convert affinity .null = .null

structure Column where
  name : String
  affinity : Affinity
  notNull : Bool := false
  /-- `CHECK(name IN (...))` -/
  values : Option (List String) := none
  default : Cell := .null
  deriving DecidableEq, Repr

/-- The constraints of the column let it hold this cell. -/
def Column.Admits (column : Column) (cell : Cell) : Prop :=
  (column.notNull = true → cell ≠ .null) ∧
    ∀ values ∈ column.values, cell = .null ∨ cell ∈ values.map .text

instance (column : Column) (cell : Cell) : Decidable (column.Admits cell) := by
  unfold Column.Admits
  infer_instance

/-- What `CREATE TABLE` says behind the name, also as it is written. -/
structure Definition where
  columns : List Column
  primaryKey : List String
  body : String
  deriving DecidableEq, Repr

/-- The cells of a row by the names of their columns. -/
abbrev Row := String → Cell

/-- The row with these cells. -/
def Row.of (cells : List (String × Cell)) : Row := fun name => (cells.lookup name).getD .null

theorem Row.of_eq_null {cells : List (String × Cell)} {name : String}
    (absent : name ∉ cells.map Prod.fst) : Row.of cells name = .null := by
  have none : cells.lookup name = none := by
    rw [List.lookup_eq_none_iff]
    intro cell member
    rw [bne_iff_ne]
    exact fun same => absent (List.mem_map.mpr ⟨cell, member, same.symm⟩)
  rw [Row.of, none]
  rfl

namespace Definition

variable (definition : Definition)

def column? (name : String) : Option Column :=
  definition.columns.find? fun column => column.name = name

/-- Two rows have one primary key; a key with a `NULL` is like no other. -/
def Clash (row other : Row) : Prop :=
  definition.primaryKey ≠ [] ∧
    ∀ name ∈ definition.primaryKey, row name ≠ .null ∧ row name = other name

instance (row other : Row) : Decidable (definition.Clash row other) := by
  unfold Clash
  infer_instance

variable (conversion : Conversion)

/-- A row the table may hold. -/
structure Accepts (row : Row) : Prop where
  admitted : ∀ column ∈ definition.columns, column.Admits (row column.name)
  converted : ∀ name column, definition.column? name = some column →
    conversion.convert column.affinity (row name) = row name
  blank : ∀ name, definition.column? name = none → row name = .null

/-- The row of an `INSERT` that names these columns. -/
def assign (named : List String) (source : Row) : Row := fun name =>
  match definition.column? name with
  | none => .null
  | some column =>
      conversion.convert column.affinity (if name ∈ named then source name else column.default)

variable {definition} {conversion}

theorem column?_eq_none_iff {name : String} :
    definition.column? name = none ↔ name ∉ definition.columns.map Column.name := by
  simp [column?, List.find?_eq_none]

theorem accepts_assign {named : List String} {source : Row}
    (admitted : ∀ column ∈ definition.columns,
      column.Admits (definition.assign conversion named source column.name)) :
    definition.Accepts conversion (definition.assign conversion named source) where
  admitted := admitted
  converted name column found := by
    simp only [assign, found]
    exact conversion.convert_convert ..
  blank name absent := by
    simp only [assign, absent]

/-- A row that fits is inserted as it is. -/
theorem assign_eq_self {named : List String} {row : Row}
    (accepts : definition.Accepts conversion row)
    (defaults : ∀ name column, definition.column? name = some column → name ∉ named →
      row name = column.default) : definition.assign conversion named row = row := by
  funext name
  rw [assign]
  split
  next absent => exact (accepts.blank name absent).symm
  next column found =>
    by_cases isNamed : name ∈ named
    · rw [if_pos isNamed]
      exact accepts.converted name column found
    · rw [if_neg isNamed, ← defaults name column found isNamed]
      exact accepts.converted name column found

end Definition

/-- A column of the same name that admits at least as much. -/
structure Column.Loosens (looser column : Column) : Prop where
  name : looser.name = column.name
  affinity : looser.affinity = column.affinity
  admits : ∀ cell, column.Admits cell → looser.Admits cell

@[simp] theorem Column.Loosens.refl (column : Column) : column.Loosens column :=
  ⟨rfl, rfl, fun _ => id⟩

/-- A definition with the columns and the key of another, none of them stricter, and with
further columns that are `NULL` unless they are given. -/
structure Definition.Extends (extended definition : Definition) : Prop where
  columns : ∃ shared added, extended.columns = shared ++ added ∧
    List.Forall₂ Column.Loosens shared definition.columns ∧
    ∀ column ∈ added, definition.column? column.name = none ∧ column.Admits .null ∧
      column.default = .null
  primaryKey : extended.primaryKey = definition.primaryKey

namespace Definition.Extends

variable {extended definition : Definition}

theorem find?_loosens {shared columns : List Column}
    (loosen : List.Forall₂ Column.Loosens shared columns) (name : String) :
    (∃ looser column, shared.find? (fun column => column.name = name) = some looser ∧
        columns.find? (fun column => column.name = name) = some column ∧ looser.Loosens column) ∨
      shared.find? (fun column => column.name = name) = none ∧
        columns.find? (fun column => column.name = name) = none := by
  induction loosen with
  | nil => exact .inr ⟨rfl, rfl⟩
  | @cons looser column shared columns loosens _ ih =>
      by_cases here : column.name = name
      · refine .inl ⟨looser, column, ?_, ?_, loosens⟩
        · exact List.find?_cons_of_pos (by simp [loosens.name, here])
        · exact List.find?_cons_of_pos (by simp [here])
      · rw [List.find?_cons_of_neg (by simp [loosens.name, here]),
          List.find?_cons_of_neg (by simp [here])]
        exact ih

theorem exists_loosened {shared columns : List Column}
    (loosen : List.Forall₂ Column.Loosens shared columns) {looser : Column}
    (member : looser ∈ shared) : ∃ column ∈ columns, looser.Loosens column := by
  induction loosen with
  | nil => cases member
  | @cons first column shared columns loosens _ ih =>
      rcases List.mem_cons.mp member with rfl | later
      · exact ⟨column, .head _, loosens⟩
      · obtain ⟨other, among, found⟩ := ih later
        exact ⟨other, .tail _ among, found⟩

/-- A column of the extension loosens one of the same name, or is new. -/
theorem column?_cases (extends_ : extended.Extends definition) (name : String) :
    (∃ looser column, extended.column? name = some looser ∧
        definition.column? name = some column ∧ looser.Loosens column) ∨
      definition.column? name = none ∧
        ∀ column, extended.column? name = some column → column.default = .null := by
  obtain ⟨shared, added, columns, loosen, new⟩ := extends_.columns
  rw [column?, column?, columns, List.find?_append]
  rcases find?_loosens loosen name with ⟨looser, column, isLooser, isColumn, loosens⟩ | ⟨none, old⟩
  · exact .inl ⟨looser, column, by rw [isLooser]; rfl, isColumn, loosens⟩
  · refine .inr ⟨old, fun column found => ?_⟩
    rw [none, Option.none_or] at found
    exact (new column (List.mem_of_find?_eq_some found)).2.2

theorem column?_ne_none (extends_ : extended.Extends definition) {name : String}
    (known : definition.column? name ≠ none) : extended.column? name ≠ none := by
  rcases extends_.column?_cases name with ⟨looser, column, isLooser, -, -⟩ | ⟨absent, -⟩
  · rw [isLooser]
    exact Option.some_ne_none looser
  · exact absurd absent known

/-- The extension accepts the rows of the other, which are `NULL` in the new columns. -/
theorem accepts (extends_ : extended.Extends definition) {conversion : Conversion} {row : Row}
    (accepts : definition.Accepts conversion row) : extended.Accepts conversion row where
  admitted := by
    obtain ⟨shared, added, columns, loosen, new⟩ := extends_.columns
    intro looser member
    rw [columns] at member
    rcases List.mem_append.mp member with old | isNew
    · obtain ⟨column, among, loosens⟩ := exists_loosened loosen old
      rw [loosens.name]
      exact loosens.admits _ (accepts.admitted column among)
    · rw [accepts.blank _ (new looser isNew).1]
      exact (new looser isNew).2.1
  converted name looser found := by
    rcases extends_.column?_cases name with ⟨other, column, isOther, isColumn, loosens⟩ | ⟨new, -⟩
    · rw [Option.some.inj (found.symm.trans isOther), loosens.affinity]
      exact accepts.converted name column isColumn
    · rw [accepts.blank name new]
      exact conversion.convert_null _
  blank name absent := by
    rcases extends_.column?_cases name with ⟨other, column, isOther, -, -⟩ | ⟨new, -⟩
    · rw [absent] at isOther
      cases isOther
    · exact accepts.blank name new

theorem eq_default (extends_ : extended.Extends definition) {conversion : Conversion} {row : Row}
    (accepts : definition.Accepts conversion row) {named : List String}
    (whole : ∀ name, definition.column? name ≠ none → name ∈ named) (name : String)
    (column : Column) (found : extended.column? name = some column) (omitted : name ∉ named) :
    row name = column.default := by
  have new : definition.column? name = none := by
    by_contra old
    exact omitted (whole name old)
  rcases extends_.column?_cases name with ⟨other, old, -, isOld, -⟩ | ⟨-, default⟩
  · rw [new] at isOld
    cases isOld
  · rw [accepts.blank name new, default column found]

end Definition.Extends

/-- A table in a file; `title` is its name as the schema spells it. -/
structure StoredTable (conversion : Conversion) where
  definition : Definition
  title : String
  rows : List Row
  accepted : ∀ row ∈ rows, definition.Accepts conversion row
  distinct : rows.Pairwise fun row other => ¬definition.Clash row other

namespace StoredTable

variable {conversion : Conversion}

/-- The table's `sql` in `sqlite_master`. -/
def sql (table : StoredTable conversion) : String :=
  "CREATE TABLE " ++ table.title ++ " " ++ table.definition.body

def empty (definition : Definition) (title : String) : StoredTable conversion where
  definition := definition
  title := title
  rows := []
  accepted := by simp
  distinct := .nil

/-- One row of an `INSERT`, unless a constraint refuses it. -/
def insert (table : StoredTable conversion) (named : List String) (source : Row) :
    Option (StoredTable conversion) :=
  let row := table.definition.assign conversion named source
  if fits : (∀ column ∈ table.definition.columns, column.Admits (row column.name)) ∧
      ∀ old ∈ table.rows, ¬table.definition.Clash old row then
    some
      { table with
        rows := table.rows ++ [row]
        accepted := by
          intro other member
          rcases List.mem_append.mp member with old | new
          · exact table.accepted other old
          · rw [List.mem_singleton.mp new]
            exact Definition.accepts_assign fits.1
        distinct := by
          rw [List.pairwise_append]
          refine ⟨table.distinct, List.pairwise_singleton _ _, ?_⟩
          intro old member new isNew
          rw [List.mem_singleton.mp isNew]
          exact fits.2 old member }
  else none

/-- `INSERT INTO ... (named) SELECT named FROM ...` -/
def insertAll (table : StoredTable conversion) (named : List String) :
    List Row → Option (StoredTable conversion)
  | [] => some table
  | source :: sources => (table.insert named source).bind fun next => next.insertAll named sources

/-- A row that fits is inserted as it is. -/
theorem exists_insert {table : StoredTable conversion} {named : List String} {row : Row}
    (accepts : table.definition.Accepts conversion row)
    (defaults : ∀ name column, table.definition.column? name = some column → name ∉ named →
      row name = column.default)
    (fresh : ∀ old ∈ table.rows, ¬table.definition.Clash old row) :
    ∃ next, table.insert named row = some next ∧ next.definition = table.definition ∧
      next.title = table.title ∧ next.rows = table.rows ++ [row] := by
  have same := Definition.assign_eq_self accepts defaults
  have fits : (∀ column ∈ table.definition.columns, column.Admits
        (table.definition.assign conversion named row column.name)) ∧
      ∀ old ∈ table.rows, ¬table.definition.Clash old
        (table.definition.assign conversion named row) := by
    rw [same]
    exact ⟨accepts.admitted, fresh⟩
  exact ⟨_, dif_pos fits, rfl, rfl, congrArg (table.rows ++ [·]) same⟩

/-- Rows that fit are all inserted as they are. -/
theorem exists_insertAll {table : StoredTable conversion} {named : List String} {sources : List Row}
    (accepts : ∀ row ∈ sources, table.definition.Accepts conversion row)
    (defaults : ∀ row ∈ sources, ∀ name column, table.definition.column? name = some column →
      name ∉ named → row name = column.default)
    (distinct : (table.rows ++ sources).Pairwise fun row other =>
      ¬table.definition.Clash row other) :
    ∃ filled, table.insertAll named sources = some filled ∧
      filled.definition = table.definition ∧ filled.title = table.title ∧
        filled.rows = table.rows ++ sources := by
  induction sources generalizing table with
  | nil => exact ⟨table, rfl, rfl, rfl, (List.append_nil _).symm⟩
  | cons source sources ih =>
      have fresh : ∀ old ∈ table.rows, ¬table.definition.Clash old source :=
        fun old member => (List.pairwise_append.mp distinct).2.2 old member source (.head _)
      obtain ⟨next, isNext, sameDefinition, sameTitle, rows⟩ :=
        exists_insert (accepts source (.head _)) (defaults source (.head _)) fresh
      have step : table.insertAll named (source :: sources) = next.insertAll named sources := by
        rw [insertAll, isNext]
        rfl
      rw [step, ← sameDefinition, ← sameTitle, List.append_cons, ← rows]
      apply ih
      · rw [sameDefinition]
        exact fun row member => accepts row (.tail _ member)
      · rw [sameDefinition]
        exact fun row member => defaults row (.tail _ member)
      · rw [sameDefinition, rows, List.append_assoc]
        exact distinct

end StoredTable

/-! ## Files -/

inductive Object (conversion : Conversion) where
  | table (stored : StoredTable conversion)
  | index (table : String) (columns : List String)

/-- What a file holds under each name. -/
abbrev Catalog (conversion : Conversion) := String → Option (Object conversion)

/-- The statements that change a file. -/
inductive Change where
  | createTable (ifNotExists : Bool) (name : String) (definition : Definition)
  /-- `CREATE INDEX IF NOT EXISTS` -/
  | createIndex (name table : String) (columns : List String)
  | insertSelect (into : String) (columns : List String) (source : String)
  | dropTable (name : String)
  | renameTable (name renamed : String)
  deriving DecidableEq, Repr

section Catalog

variable {conversion : Conversion}

/-- The index goes along with its table. -/
def Object.follow (name renamed : String) : Object conversion → Object conversion
  | .index owner columns => .index (if owner = name then renamed else owner) columns
  | .table stored => .table stored

def Object.isIndexOn (name : String) : Object conversion → Bool
  | .index owner _ => owner = name
  | .table _ => false

namespace Catalog

variable (catalog : Catalog conversion)

def createTable (ifNotExists : Bool) (name : String) (definition : Definition) :
    Option (Catalog conversion) :=
  match catalog name with
  | none => some (Function.update catalog name (some (.table (.empty definition name))))
  | some (.table _) => if ifNotExists then some catalog else none
  | some (.index ..) => none

def createIndex (name table : String) (columns : List String) : Option (Catalog conversion) :=
  match catalog name, catalog table with
  | some (.index ..), _ => some catalog
  | none, some (.table stored) =>
      if ∀ column ∈ columns, stored.definition.column? column ≠ none then
        some (Function.update catalog name (some (.index table columns)))
      else none
  | _, _ => none

def insertSelect (into : String) (columns : List String) (source : String) :
    Option (Catalog conversion) :=
  match catalog into, catalog source with
  | some (.table target), some (.table stored) =>
      if ∀ column ∈ columns, target.definition.column? column ≠ none ∧
          stored.definition.column? column ≠ none then
        (target.insertAll columns stored.rows).map fun filled =>
          Function.update catalog into (some (.table filled))
      else none
  | _, _ => none

/-- The table goes with its indexes. -/
def dropTable (name : String) : Option (Catalog conversion) :=
  match catalog name with
  | some (.table _) =>
      some fun other =>
        if other = name then none else (catalog other).filter fun object => !object.isIndexOn name
  | _ => none

/-- The new name stands in the schema in quotes. -/
def renameTable (name renamed : String) : Option (Catalog conversion) :=
  match catalog name, catalog renamed with
  | some (.table stored), none =>
      some fun other =>
        if other = renamed then some (.table { stored with title := "\"" ++ renamed ++ "\"" })
        else if other = name then none
        else (catalog other).map (Object.follow name renamed)
  | _, _ => none

end Catalog

/-- `SELECT sql FROM sqlite_master WHERE type='table' AND name=...` -/
def Catalog.tableSql (catalog : Catalog conversion) (name : String) : Option String :=
  match catalog name with
  | some (.table stored) => some stored.sql
  | _ => none

/-- The names of `PRAGMA table_info(...)`. -/
def Catalog.tableInfo (catalog : Catalog conversion) (name : String) : List String :=
  match catalog name with
  | some (.table stored) => stored.definition.columns.map Column.name
  | _ => []

def Change.apply (catalog : Catalog conversion) : Change → Option (Catalog conversion)
  | .createTable ifNotExists name definition => catalog.createTable ifNotExists name definition
  | .createIndex name table columns => catalog.createIndex name table columns
  | .insertSelect into columns source => catalog.insertSelect into columns source
  | .dropTable name => catalog.dropTable name
  | .renameTable name renamed => catalog.renameTable name renamed

/-- Changes one after the other, as long as none fails. -/
def applyAll (catalog : Catalog conversion) : List Change → Option (Catalog conversion)
  | [] => some catalog
  | change :: changes => (change.apply catalog).bind fun next => applyAll next changes

theorem applyAll_cons {catalog next last : Catalog conversion} {change : Change}
    {changes : List Change} (applied : change.apply catalog = some next)
    (rest : applyAll next changes = some last) :
    applyAll catalog (change :: changes) = some last := by
  rw [applyAll, applied]
  exact rest

/-- Every row is there, in its order, with its cells and `NULL` in the new columns. -/
def KeepsRows (table kept : StoredTable conversion) : Prop :=
  List.Forall₂ (fun row copy =>
    (∀ name, table.definition.column? name ≠ none → copy name = row name) ∧
      ∀ name, kept.definition.column? name ≠ none → table.definition.column? name = none →
        copy name = .null) table.rows kept.rows

theorem keepsRows_of_rows_eq {table kept : StoredTable conversion} (same : kept.rows = table.rows) :
    KeepsRows table kept := by
  rw [KeepsRows, same, List.forall₂_same]
  exact fun row member => ⟨fun _ _ => rfl,
    fun name _ absent => (table.accepted row member).blank name absent⟩

/-- The file has the table with its new definition and all of its rows. -/
def IsMigrated (name : String) (table : StoredTable conversion) (extended : Definition)
    (file : Catalog conversion) : Prop :=
  ∃ kept, file name = some (.table kept) ∧ kept.definition = extended ∧ KeepsRows table kept

/-! ## What a change makes of a file -/

namespace Catalog

variable {catalog : Catalog conversion} {name renamed : String}

theorem createTable_of_free (free : catalog name = none) (ifNotExists : Bool)
    (definition : Definition) :
    catalog.createTable ifNotExists name definition =
      some (Function.update catalog name (some (.table (.empty definition name)))) := by
  rw [createTable, free]

/-- An index that is there stays, and one on known columns of a table is made. -/
theorem exists_createIndex {table : String} {columns : List String}
    {stored : StoredTable conversion}
    (isTable : catalog table = some (.table stored))
    (known : ∀ column ∈ columns, stored.definition.column? column ≠ none)
    (free : catalog name = none ∨ catalog name = some (.index table columns)) :
    ∃ next : Catalog conversion, catalog.createIndex name table columns = some next ∧
      next name = some (.index table columns) ∧
        ∀ other, other ≠ name → next other = catalog other := by
  rcases free with free | taken
  · refine ⟨_, ?_, Function.update_self .., fun _ different => Function.update_of_ne different ..⟩
    simp only [createIndex, free, isTable]
    rw [if_pos known]
  · refine ⟨catalog, ?_, taken, fun _ _ => rfl⟩
    rw [createIndex, taken]

theorem createTable_of_table {stored : StoredTable conversion}
    (taken : catalog name = some (.table stored)) (definition : Definition) :
    catalog.createTable true name definition = some catalog := by
  rw [createTable, taken]
  rfl

/-- A dropped table is gone with its indexes, and nothing else. -/
theorem exists_dropTable {stored : StoredTable conversion}
    (taken : catalog name = some (.table stored)) :
    ∃ bare : Catalog conversion, catalog.dropTable name = some bare ∧ bare name = none ∧
      ∀ other, other ≠ name →
        bare other = (catalog other).filter fun object => !object.isIndexOn name := by
  refine ⟨_, by rw [dropTable, taken], if_pos rfl, fun other different => ?_⟩
  simp only [if_neg different]

/-- A renamed table is under its new name with its rows, and no other object is gone. -/
theorem exists_renameTable {stored : StoredTable conversion}
    (taken : catalog name = some (.table stored)) (free : catalog renamed = none) :
    ∃ next : Catalog conversion, catalog.renameTable name renamed = some next ∧
      next renamed = some (.table { stored with title := "\"" ++ renamed ++ "\"" }) ∧
      next name = none ∧
      ∀ other, other ≠ name → other ≠ renamed →
        next other = (catalog other).map (Object.follow name renamed) := by
  have different : name ≠ renamed := by
    intro same
    rw [same, free] at taken
    cases taken
  refine ⟨_, by rw [renameTable, taken, free], if_pos rfl, ?_, fun other away apart => ?_⟩
  · simp only [if_neg different, if_true]
  · simp only [if_neg apart, if_neg away]

/-- The rows of a table that is as strict are copied into an empty one. -/
theorem insertSelect_into_empty {source : String} {definition : Definition} {title : String}
    {stored : StoredTable conversion} {named : List String}
    (target : catalog name = some (.table (.empty definition title)))
    (isSource : catalog source = some (.table stored))
    (extends_ : definition.Extends stored.definition)
    (whole : ∀ column, column ∈ named ↔ stored.definition.column? column ≠ none) :
    ∃ filled : StoredTable conversion, filled.definition = definition ∧ filled.title = title ∧
      filled.rows = stored.rows ∧
      catalog.insertSelect name named source =
        some (Function.update catalog name (some (.table filled))) := by
  have distinct : (([] : List Row) ++ stored.rows).Pairwise fun row other =>
      ¬definition.Clash row other := by
    rw [List.nil_append]
    apply stored.distinct.imp
    intro row other apart clash
    rw [Definition.Clash, extends_.primaryKey] at clash
    exact apart clash
  obtain ⟨filled, isFilled, sameDefinition, sameTitle, rows⟩ :=
    @StoredTable.exists_insertAll _ (.empty definition title) named stored.rows
      (fun row member => extends_.accepts (stored.accepted row member))
      (fun row member => extends_.eq_default (stored.accepted row member) fun name =>
        (whole name).mpr) distinct
  refine ⟨filled, sameDefinition, sameTitle, rows, ?_⟩
  have present : ∀ column ∈ named,
      (StoredTable.empty definition title : StoredTable conversion).definition.column? column ≠
          none ∧ stored.definition.column? column ≠ none := by
    intro column isNamed
    have known := (whole column).mp isNamed
    exact ⟨extends_.column?_ne_none known, known⟩
  simp only [insertSelect, target, isSource]
  rw [if_pos present, isFilled]
  rfl

end Catalog

end Catalog

end PresenceLogger.Library.Sqlite
