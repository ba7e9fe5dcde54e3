import PresenceLogger.Library.Json
import PresenceLogger.Library.Run
import PresenceLogger.Library.Table
import Mathlib.Logic.Function.Basic

/-!
# The send log

`SendLogger` writes a row whenever the status code of a named region changes, into
one file a day.  A code is remembered before its row is appended, and an append that
fails is not repeated.
-/

namespace PresenceLogger.Child

open Library

/-! ## Configuration -/

/-- `('' if x is None else str(x)).strip()`, or nothing if the text has lone
surrogates. -/
def namePart (render : Json → Option String) : Json → Option String
  | .null => some ""
  | item => (item.pyStr render).map fun text => .ofList (Text.strip text.toList)

/-- A value of `id_names` as three texts. -/
def idNameParts (render : Json → Option String) (value : Json) : List (Option String) :=
  let parts :=
    match value with
    | .arr items => items.map (namePart render)
    | value => [namePart render value]
  (parts ++ List.replicate 3 (some "")).take 3

/-- The values the names are made of. -/
def nameItems : Json → List Json
  | .arr items => items
  | value => [value]

theorem of_mem_idNameParts {render : Json → Option String} {value : Json} {name : String}
    (among : some name ∈ idNameParts render value) :
    (∃ item ∈ nameItems value, namePart render item = some name) ∨ name = "" := by
  have parts : idNameParts render value =
      ((nameItems value).map (namePart render) ++ List.replicate 3 (some "")).take 3 := by
    cases value <;> rfl
  rw [parts] at among
  rcases List.mem_append.mp (List.mem_of_mem_take among) with inParts | padded
  · exact .inl (List.mem_map.mp inParts)
  · exact .inr (Option.some.inj (List.eq_of_mem_replicate padded))

structure NamedRegion where
  regionId : Int
  parts : List (Option String)

/-- The regions with a name, in the order of their first keys. -/
def namedRegions (render : Json → Option String) :
    Json → Except PyError (Table NamedRegion NamedRegion.regionId)
  | .obj fields =>
      .ok (fields.foldl (fun named entry =>
        let parts := idNameParts render (Json.field fields entry.1)
        if parts.any (· ≠ some "") then
          match Text.parseInt entry.1.toList with
          | some regionId =>
              named.upsert { regionId := regionId, parts := parts }
                (fun row => { row with parts := parts }) fun _ => rfl
          | none => named
        else named) Table.empty)
  | _ => .error .attributeError

/-- `id_states.get(color, 'off') == state` for each condition. -/
def conditionsHold (idStates : List (String × String)) (conditions : List (String × Json)) : Bool :=
  conditions.all fun condition =>
    (Json.field conditions condition.1).isText ((idStates.lookup condition.1).getD "off")

/-- `compute_status_code` -/
def computeStatusCode (idStates : List (String × String)) (defaultCode : Json) :
    List Json → Except PyError Json
  | [] => .ok defaultCode
  | .obj pattern :: patterns =>
      let conditions := Json.fieldOr pattern "conditions" (.obj [])
      if conditions.truthy = false then computeStatusCode idStates defaultCode patterns
      else
        match conditions with
        | .obj conditions =>
            if conditionsHold idStates conditions then .ok (Json.fieldOr pattern "code" defaultCode)
            else computeStatusCode idStates defaultCode patterns
        | _ => .error .attributeError
  | _ :: _ => .error .attributeError

/-- `load_status_code_config`, of a file that may be missing. -/
def loadStatusCodeConfig : Option Decoded → Json × Json
  | some (.value (.obj fields)) =>
      (Json.fieldOr fields "patterns" (.arr []), Json.fieldOr fields "default" (.int 0))
  | _ => (.arr [], .int 0)

def loadIdNames : Option Decoded → Json
  | some (.value (.obj fields)) => Json.fieldOr fields "id_names" (.obj [])
  | _ => .obj []

/-! ## The logger -/

/-- A row, by the region it tells of, which is not written. -/
structure SendRow where
  regionId : Int
  mkDate : String
  parts : List (Option String)
  code : Json

/-- `cur_window` and `cur_file`, which are set together. -/
structure SendDay where
  window : String
  file : String

structure SendLogger where
  day : Option SendDay := none
  prevCodes : Int → Option Json := fun _ => none
  cfgTs : ℚ := 0
  patterns : Json := .arr []
  defaultCode : Json := .int 0
  idNames : Json := .obj []

/-- What a call of `update` reads and whether an append would fail. -/
structure SendCall where
  now : ℚ
  stStates : List ((Int × String) × String)
  statusCodes : Option Decoded
  idNames : Option Decoded
  ip : String
  appendFails : Bool := false

/-- The logger and the rows of each file. -/
structure SendLog where
  logger : SendLogger
  files : String → List SendRow

inductive UpdateOutcome where
  | notNeeded
  | appended
  /-- The error of the append is printed. -/
  | failed
  | raised (error : PyError)
  deriving DecidableEq

/-- What Python and the clock contribute: `str` of floats and containers, `==` on
decoded values, and the local date and time of an instant. -/
structure SendEnv where
  render : Json → Option String
  same : Json → Json → Bool
  window : ℚ → String
  timestamp : ℚ → String

namespace SendLogger

/-- `_reload_cfg` -/
def reloadCfg (logger : SendLogger) (call : SendCall) : SendLogger :=
  if 5 < nearestDouble (call.now - logger.cfgTs) then
    { logger with
      cfgTs := call.now
      patterns := (loadStatusCodeConfig call.statusCodes).1
      defaultCode := (loadStatusCodeConfig call.statusCodes).2
      idNames := loadIdNames call.idNames }
  else logger

def fileName (ip window : String) : String :=
  "T1_" ++ (ip.map fun char => if char = ':' ∨ char = '.' then '-' else char) ++ "_" ++ window ++
    ".csv"

variable (env : SendEnv)

/-- A new file and no remembered code when the date has changed. -/
def rotate (logger : SendLogger) (call : SendCall) : SendLogger :=
  let window := env.window call.now
  if logger.day.any (·.window = window) then logger
  else
    { logger with
      day := some { window := window, file := fileName call.ip window }
      prevCodes := fun _ => none }

/-- The logger of a call before it looks at the regions. -/
def prepared (logger : SendLogger) (call : SendCall) : SendLogger :=
  (logger.reloadCfg call).rotate env call

/-- The code of a region. -/
def codeOf (logger : SendLogger) (call : SendCall) (regionId : Int) : Except PyError Json := do
  let patterns ← logger.patterns.elements
  let idStates := (call.stStates.filter fun entry => entry.1.1 = regionId).map fun entry =>
    (entry.1.2, entry.2)
  computeStatusCode idStates logger.defaultCode patterns

/-- `self.prev_codes.get(rid) != code` -/
def changed (prev : Option Json) (code : Json) : Bool :=
  match prev, code with
  | none, .null => false
  | none, _ => true
  | some prev, code => !env.same prev code

end SendLogger

/-- The loop over the named regions so far. -/
structure Collected where
  prevCodes : Int → Option Json
  rows : List SendRow := []
  raised : Option PyError := none

def Collected.cons (row : SendRow) (rest : Collected) : Collected :=
  { rest with rows := row :: rest.rows }

section Update

variable (env : SendEnv)

/-- The rows of the regions whose codes have changed. -/
def collect (codeOf : Int → Except PyError Json) (timestamp : String) (prev : Int → Option Json) :
    List NamedRegion → Collected
  | [] => { prevCodes := prev }
  | region :: regions =>
      match codeOf region.regionId with
      | .error error => { prevCodes := prev, raised := some error }
      | .ok code =>
          if SendLogger.changed env (prev region.regionId) code then
            (collect codeOf timestamp (Function.update prev region.regionId (some code))
              regions).cons
                { regionId := region.regionId
                  mkDate := timestamp
                  parts := region.parts
                  code := code }
          else collect codeOf timestamp prev regions

/-- The rows are appended, unless there are none. -/
def SendLog.append (log : SendLog) (fails : Bool) (rows : List SendRow) : SendLog × UpdateOutcome :=
  if rows = [] then (log, .notNeeded)
  else if fails then (log, .failed)
  else
    match log.logger.day with
    | none => (log, .failed)
    | some day =>
        ({ log with
            files := Function.update log.files day.file (log.files day.file ++ rows) }, .appended)

/-- `SendLogger.update` -/
def SendLog.update (log : SendLog) (call : SendCall) : SendLog × UpdateOutcome :=
  let logger := log.logger.prepared env call
  match namedRegions env.render logger.idNames with
  | .error error => ({ log with logger := logger }, .raised error)
  | .ok regions =>
      let collected := collect env (logger.codeOf call) (env.timestamp call.now) logger.prevCodes
        regions.rows
      let after : SendLog :=
        { log with logger := { logger with prevCodes := collected.prevCodes } }
      match collected.raised with
      | some error => (after, .raised error)
      | none => after.append call.appendFails collected.rows

end Update

theorem files_append {log : SendLog} {fails : Bool} {rows : List SendRow}
    (other : (log.append fails rows).2 ≠ .appended) :
    (log.append fails rows).1.files = log.files := by
  revert other
  rw [SendLog.append]
  split
  · exact fun _ => rfl
  · split
    · exact fun _ => rfl
    · split
      · exact fun _ => rfl
      · exact fun other => absurd rfl other

/-- The files change only when rows are appended. -/
theorem files_update {env : SendEnv} {log : SendLog} {call : SendCall}
    (other : (log.update env call).2 ≠ .appended) :
    (log.update env call).1.files = log.files := by
  revert other
  rw [SendLog.update]
  split
  · exact fun _ => rfl
  · dsimp only
    split
    · exact fun _ => rfl
    · exact files_append

/-! ## Where a row comes from -/

/-- The name of a region is configured, and not empty, under a key that stands for it. -/
def NamedBy (render : Json → Option String) (fields : List (String × Json)) (key : String)
    (region : NamedRegion) : Prop :=
  key ∈ fields.map Prod.fst ∧ Text.parseInt key.toList = some region.regionId ∧
    region.parts = idNameParts render (Json.field fields key) ∧
    region.parts.any (· ≠ some "") = true

theorem namedBy_of_namedRegions {render : Json → Option String} {fields : List (String × Json)}
    {regions : Table NamedRegion NamedRegion.regionId}
    (named : namedRegions render (.obj fields) = .ok regions) :
    ∀ region ∈ regions.rows, ∃ key, NamedBy render fields key region := by
  cases named
  have empty : ∀ region ∈ (Table.empty : Table NamedRegion NamedRegion.regionId).rows,
      ∃ key, NamedBy render fields key region := fun _ member => nomatch member
  apply List.foldlRecOn (motive := fun (table : Table NamedRegion NamedRegion.regionId) =>
    ∀ region ∈ table.rows, ∃ key, NamedBy render fields key region) fields _ empty
  intro table configured entry among
  dsimp only
  split
  next assigned =>
    split
    next regionId isId =>
      have present : entry.1 ∈ fields.map Prod.fst := List.mem_map_of_mem among
      intro region member
      have found := Table.get_of_mem member
      rw [Table.get_upsert] at found
      split at found
      next same =>
        have isParts : region.parts = idNameParts render (Json.field fields entry.1) := by
          cases old : table.get region.regionId with
          | none =>
              rw [old] at found
              cases Option.some.inj found
              rfl
          | some row =>
              rw [old] at found
              cases Option.some.inj found
              rfl
        exact ⟨entry.1, present, same ▸ isId, isParts, isParts ▸ assigned⟩
      · exact configured region (Table.mem_of_get found)
    · exact configured
  · exact configured

/-- A row of the loop tells of one of the regions, at the time of the call. -/
theorem region_of_mem_collect {env : SendEnv} {codeOf : Int → Except PyError Json}
    {timestamp : String} {prev : Int → Option Json} {regions : List NamedRegion} {row : SendRow}
    (member : row ∈ (collect env codeOf timestamp prev regions).rows) :
    row.mkDate = timestamp ∧
      ∃ region ∈ regions, row.regionId = region.regionId ∧ row.parts = region.parts := by
  induction regions generalizing prev with
  | nil => cases member
  | cons region regions ih =>
      have later {prev : Int → Option Json}
          (inLater : row ∈ (collect env codeOf timestamp prev regions).rows) :
          row.mkDate = timestamp ∧ ∃ other ∈ region :: regions,
            row.regionId = other.regionId ∧ row.parts = other.parts :=
        (ih inLater).imp_right fun found =>
          found.elim fun other kept => ⟨other, .tail _ kept.1, kept.2⟩
      rw [collect] at member
      split at member
      · cases member
      · split at member
        · rcases List.mem_cons.mp member with rfl | inLater
          · exact ⟨rfl, region, .head _, rfl, rfl⟩
          · exact later inLater
        · exact later member

/-- A call leaves the files alone, or appends the rows of its loop to one of them. -/
theorem files_update_cases (env : SendEnv) (log : SendLog) (call : SendCall) :
    (log.update env call).1.files = log.files ∨
      ∃ regions day, namedRegions env.render (log.logger.prepared env call).idNames = .ok regions ∧
        (log.update env call).1.files = Function.update log.files day (log.files day ++
          (collect env ((log.logger.prepared env call).codeOf call) (env.timestamp call.now)
            (log.logger.prepared env call).prevCodes regions.rows).rows) := by
  rw [SendLog.update]
  cases named : namedRegions env.render (log.logger.prepared env call).idNames with
  | error error => exact .inl rfl
  | ok regions =>
      dsimp only
      split
      · exact .inl rfl
      · rw [SendLog.append]
        split
        · exact .inl rfl
        · split
          · exact .inl rfl
          · split
            · exact .inl rfl
            next day _ => exact .inr ⟨regions, day.file, rfl, rfl⟩

/-- The rows that a call appends are those of its loop. -/
theorem mem_collect_of_update {env : SendEnv} {log : SendLog} {call : SendCall} {file : String}
    {rows : List SendRow}
    (appended : (log.update env call).1.files file = log.files file ++ rows) {row : SendRow}
    (member : row ∈ rows) :
    ∃ regions, namedRegions env.render (log.logger.prepared env call).idNames = .ok regions ∧
      row ∈ (collect env ((log.logger.prepared env call).codeOf call) (env.timestamp call.now)
        (log.logger.prepared env call).prevCodes regions.rows).rows := by
  have some : rows ≠ [] := List.ne_nil_of_mem member
  rcases files_update_cases env log call with same | ⟨regions, day, named, files⟩
  · rw [same, List.self_eq_append_right] at appended
    exact absurd appended some
  · rw [files, Function.update_apply] at appended
    split at appended
    next sameFile =>
      rw [sameFile, List.append_cancel_left_eq] at appended
      exact ⟨regions, named, appended ▸ member⟩
    · exact absurd (List.self_eq_append_right.mp appended) some

/-! ## What the file says of a region -/

/-- The last row logged for a region. -/
def lastRow (rows : List SendRow) (regionId : Int) : Option SendRow :=
  rows.reverse.find? fun row => row.regionId = regionId

theorem lastRow_append (earlier later : List SendRow) (regionId : Int) :
    lastRow (earlier ++ later) regionId =
      (lastRow later regionId).or (lastRow earlier regionId) := by
  rw [lastRow, List.reverse_append, List.find?_append]
  rfl

theorem lastRow_singleton (row : SendRow) (regionId : Int) :
    lastRow [row] regionId = if row.regionId = regionId then some row else none := by
  simp [lastRow]

theorem lastRow_cons (row : SendRow) (rows : List SendRow) (regionId : Int) :
    lastRow (row :: rows) regionId =
      (lastRow rows regionId).or (if row.regionId = regionId then some row else none) := by
  rw [← lastRow_singleton, ← lastRow_append]
  rfl

/-- Every remembered code is that of the region's last row in the file of the day. -/
def SendLog.InSync (log : SendLog) : Prop :=
  ∀ regionId code, log.logger.prevCodes regionId = some code →
    ∃ day, log.logger.day = some day ∧
      (lastRow (log.files day.file) regionId).map SendRow.code = some code

section Collect

variable {env : SendEnv} {codeOf : Int → Except PyError Json} {timestamp : String}

/-- A code is remembered because a row was made of it, or from before. -/
theorem prevCodes_collect (prev : Int → Option Json) (regions : List NamedRegion) (regionId : Int) :
    (collect env codeOf timestamp prev regions).prevCodes regionId =
      ((lastRow (collect env codeOf timestamp prev regions).rows regionId).map
        SendRow.code).or (prev regionId) := by
  induction regions generalizing prev with
  | nil => rfl
  | cons region regions ih =>
      rw [collect]
      split
      · rfl
      next code computed =>
        split
        · rw [Collected.cons, ih, lastRow_cons, Option.map_or, Option.or_assoc,
            Function.update_apply]
          by_cases same : region.regionId = regionId
          · rw [if_pos same, if_pos same.symm]
            rfl
          · rw [if_neg same, if_neg (Ne.symm same)]
            rfl
        · exact ih _

theorem prevCodes_of_rows_nil {prev : Int → Option Json} {regions : List NamedRegion}
    (noRow : (collect env codeOf timestamp prev regions).rows = []) :
    (collect env codeOf timestamp prev regions).prevCodes = prev := by
  funext regionId
  rw [prevCodes_collect, noRow]
  rfl

/-- A code that is remembered after the loop was so before, or is that of its
region. -/
theorem prevCodes_cases (prev : Int → Option Json) (regions : List NamedRegion) (regionId : Int) :
    (collect env codeOf timestamp prev regions).prevCodes regionId = prev regionId ∨
      ∃ code, codeOf regionId = .ok code ∧
        (collect env codeOf timestamp prev regions).prevCodes regionId = some code := by
  induction regions generalizing prev with
  | nil => exact .inl rfl
  | cons region regions ih =>
      rw [collect]
      split
      · exact .inl rfl
      next code computed =>
        split
        · have later := ih (Function.update prev region.regionId (some code))
          rw [Function.update_apply] at later
          split at later
          next same =>
            subst same
            rcases later with kept | recent
            · exact .inr ⟨code, computed, kept⟩
            · exact .inr recent
          · exact later
        · exact ih _

/-- The logged code is the computed one, or equals it for Python. -/
def Carries (env : SendEnv) (logged computed : Json) : Prop :=
  logged = computed ∨ env.same logged computed = true

/-- No code that is computed for a region not logged yet is `None`. -/
def NoFirstNull (codeOf : Int → Except PyError Json) (prev : Int → Option Json)
    (regions : List NamedRegion) : Prop :=
  ∀ region ∈ regions, prev region.regionId = none → codeOf region.regionId ≠ .ok .null

theorem carries_of_not_changed {prev : Option Json} {code : Json}
    (kept : SendLogger.changed env prev code = false) (notNull : prev = none → code ≠ .null) :
    ∃ logged, prev = some logged ∧ Carries env logged code := by
  cases prev with
  | none =>
      have isNull : code = .null := by
        cases code with
        | null => rfl
        | _ => cases kept
      exact absurd isNull (notNull rfl)
  | some logged =>
      refine ⟨logged, rfl, .inr ?_⟩
      simpa [SendLogger.changed] using kept

theorem carries_kept {prev : Int → Option Json} {regions : List NamedRegion} {regionId : Int}
    {code : Json} (computed : codeOf regionId = .ok code)
    (before : ∃ logged, prev regionId = some logged ∧ Carries env logged code) :
    ∃ logged, (collect env codeOf timestamp prev regions).prevCodes regionId = some logged ∧
      Carries env logged code := by
  rcases prevCodes_cases prev regions regionId with kept | ⟨recent, isCode, remembered⟩
  · rw [kept]
    exact before
  · cases computed.symm.trans isCode
    exact ⟨code, remembered, .inl rfl⟩

/-- A loop that raises nothing leaves the code of each region remembered. -/
theorem carries_collect {prev : Int → Option Json} {regions : List NamedRegion}
    (returns : (collect env codeOf timestamp prev regions).raised = none)
    (noNull : NoFirstNull codeOf prev regions) {region : NamedRegion} (member : region ∈ regions) :
    ∃ code, codeOf region.regionId = .ok code ∧
      ∃ logged, (collect env codeOf timestamp prev regions).prevCodes region.regionId =
        some logged ∧ Carries env logged code := by
  induction regions generalizing prev with
  | nil => cases member
  | cons head regions ih =>
      rw [collect] at returns ⊢
      cases computed : codeOf head.regionId with
      | error error =>
          rw [computed] at returns
          cases returns
      | ok code =>
        rw [computed] at returns
        dsimp only at returns ⊢
        split at returns
        next differs =>
          rw [if_pos differs]
          rcases List.mem_cons.mp member with rfl | later
          · exact ⟨code, computed, carries_kept computed
              ⟨code, Function.update_self .., .inl rfl⟩⟩
          · refine ih returns ?_ later
            intro other among fresh
            apply noNull other (.tail _ among)
            rw [Function.update_apply] at fresh
            split at fresh
            · cases fresh
            · exact fresh
        next kept =>
          rw [if_neg kept]
          rcases List.mem_cons.mp member with rfl | later
          · refine ⟨code, computed, carries_kept computed ?_⟩
            apply carries_of_not_changed (by simpa using kept)
            rintro fresh rfl
            exact noNull region (.head _) fresh computed
          · exact ih returns (fun other among => noNull other (.tail _ among)) later

/-! ## Calls that lose no row -/

/-- From the first region on whose code has changed, each code is computed and the
rows are appended. -/
def RowsKept (env : SendEnv) (codeOf : Int → Except PyError Json) (appends : Prop)
    (prev : Int → Option Json) : List NamedRegion → Prop
  | [] => True
  | region :: regions =>
      match codeOf region.regionId with
      | .error _ => True
      | .ok code =>
          if SendLogger.changed env (prev region.regionId) code then
            appends ∧ ∀ other ∈ regions, ∃ code, codeOf other.regionId = .ok code
          else RowsKept env codeOf appends prev regions

theorem computed_of_returns {prev : Int → Option Json} {regions : List NamedRegion}
    (returns : (collect env codeOf timestamp prev regions).raised = none) :
    ∀ region ∈ regions, ∃ code, codeOf region.regionId = .ok code := by
  induction regions generalizing prev with
  | nil => exact fun _ member => nomatch member
  | cons head regions ih =>
      rw [collect] at returns
      split at returns
      · cases returns
      next code computed =>
        have later : ∀ region ∈ regions, ∃ code, codeOf region.regionId = .ok code := by
          split at returns
          · exact ih returns
          · exact ih returns
        exact List.forall_mem_cons.mpr ⟨⟨code, computed⟩, later⟩

theorem raised_eq_none_of_computed {prev : Int → Option Json} {regions : List NamedRegion}
    (computed : ∀ region ∈ regions, ∃ code, codeOf region.regionId = .ok code) :
    (collect env codeOf timestamp prev regions).raised = none := by
  induction regions generalizing prev with
  | nil => rfl
  | cons region regions ih =>
      rcases computed region (.head _) with ⟨code, isCode⟩
      have later (prev : Int → Option Json) :=
        @ih prev fun other among => computed other (.tail _ among)
      rw [collect, isCode]
      dsimp only
      split
      · exact later _
      · exact later _

theorem RowsKept.of_computed {appends : Prop} (appended : appends) {prev : Int → Option Json}
    {regions : List NamedRegion}
    (computed : ∀ region ∈ regions, ∃ code, codeOf region.regionId = .ok code) :
    RowsKept env codeOf appends prev regions := by
  induction regions with
  | nil => trivial
  | cons region regions ih =>
      have later := (List.forall_mem_cons.mp computed).2
      rw [RowsKept]
      split
      · trivial
      · split
        · exact ⟨appended, later⟩
        · exact ih later

/-- Rows are made only by loops that end and are followed by an append. -/
theorem RowsKept.of_rows {appends : Prop} {prev : Int → Option Json} {regions : List NamedRegion}
    (kept : RowsKept env codeOf appends prev regions)
    (some : (collect env codeOf timestamp prev regions).rows ≠ []) :
    appends ∧ (collect env codeOf timestamp prev regions).raised = none := by
  induction regions with
  | nil => exact absurd rfl some
  | cons region regions ih =>
      rw [RowsKept] at kept
      rw [collect] at some ⊢
      split at kept
      next failed =>
        rw [failed] at some
        exact absurd rfl some
      next code computed =>
        simp only [computed] at some ⊢
        split at kept
        next differs =>
          rw [if_pos differs]
          exact ⟨kept.1, raised_eq_none_of_computed kept.2⟩
        next same =>
          rw [if_neg same] at some ⊢
          exact ih kept some

end Collect

section Run

variable (env : SendEnv)

/-- The rows of the call are kept, and where all codes are computed no first one is
`None`. -/
def SendLog.LosesNothing (log : SendLog) (call : SendCall) : Prop :=
  let logger := log.logger.prepared env call
  ∀ regions, namedRegions env.render logger.idNames = .ok regions →
    RowsKept env (logger.codeOf call) (call.appendFails = false) logger.prevCodes regions.rows ∧
      ((∀ region ∈ regions.rows, ∃ code, logger.codeOf call region.regionId = .ok code) →
        NoFirstNull (logger.codeOf call) logger.prevCodes regions.rows)

/-- A call that can append and computes a code for each named region loses nothing. -/
theorem losesNothing_of_computed {log : SendLog} {call : SendCall}
    (appends : call.appendFails = false)
    (computed : ∀ regions, namedRegions env.render (log.logger.prepared env call).idNames =
      .ok regions → ∀ region ∈ regions.rows, ∃ code, code ≠ .null ∧
        (log.logger.prepared env call).codeOf call region.regionId = .ok code) :
    log.LosesNothing env call := by
  intro regions named
  have codes := computed regions named
  constructor
  · apply RowsKept.of_computed appends
    intro region member
    rcases codes region member with ⟨code, -, isCode⟩
    exact ⟨code, isCode⟩
  · intro _ region member _ isNull
    rcases codes region member with ⟨code, notNull, isCode⟩
    cases isCode.symm.trans isNull
    exact notNull rfl

/-- After a call whose append succeeded or was not needed, the last row of each named
region carries the code the call computed. -/
def SendLog.CarriesCodes (log : SendLog) (call : SendCall) : Prop :=
  let after := (log.update env call).1
  (log.update env call).2 = .appended ∨ (log.update env call).2 = .notNeeded →
    ∃ regions day, namedRegions env.render after.logger.idNames = .ok regions ∧
      after.logger.day = some day ∧
      ∀ region ∈ regions.rows, ∃ code row, after.logger.codeOf call region.regionId = .ok code ∧
        lastRow (after.files day.file) region.regionId = some row ∧ Carries env row.code code

def sendMachine : Machine SendLog SendCall UpdateOutcome where
  step log call := ((log.update env call).1, [(log.update env call).2])

theorem exists_day_prepared (logger : SendLogger) (call : SendCall) :
    ∃ day, (logger.prepared env call).day = some day := by
  rw [SendLogger.prepared, SendLogger.rotate]
  split
  next today =>
    cases isDay : (logger.reloadCfg call).day with
    | none => rw [isDay] at today; cases today
    | some day => exact ⟨day, rfl⟩
  · exact ⟨_, rfl⟩

/-- A new day begins with nothing remembered. -/
theorem inSync_prepared {log : SendLog} (inSync : log.InSync) (call : SendCall) :
    SendLog.InSync { log with logger := log.logger.prepared env call } := by
  have day : (log.logger.reloadCfg call).day = log.logger.day := by
    rw [SendLogger.reloadCfg]
    split <;> rfl
  have prev : (log.logger.reloadCfg call).prevCodes = log.logger.prevCodes := by
    rw [SendLogger.reloadCfg]
    split <;> rfl
  intro regionId code remembered
  simp only [SendLogger.prepared, SendLogger.rotate] at remembered ⊢
  split at remembered
  next today =>
    rw [if_pos today, day]
    rw [prev] at remembered
    exact inSync regionId code remembered
  next => cases remembered

variable {env}

/-- Appending the rows of a loop brings the file in step with what it remembers. -/
theorem inSync_appended (env : SendEnv) {log : SendLog} (inSync : log.InSync) {day : SendDay}
    (isDay : log.logger.day = some day) (codeOf : Int → Except PyError Json) (timestamp : String)
    (regions : List NamedRegion) :
    let collected := collect env codeOf timestamp log.logger.prevCodes regions
    SendLog.InSync {
      logger := { log.logger with prevCodes := collected.prevCodes }
      files := Function.update log.files day.file (log.files day.file ++ collected.rows) } := by
  intro collected regionId code remembered
  refine ⟨day, isDay, ?_⟩
  dsimp only at remembered ⊢
  rw [Function.update_self, lastRow_append, Option.map_or, ← remembered, prevCodes_collect]
  cases before : log.logger.prevCodes regionId with
  | none =>
      rw [prevCodes_collect, before, Option.or_none] at remembered
      rw [remembered]
      rfl
  | some old =>
      rcases inSync regionId old before with ⟨other, isOther, logged⟩
      cases isDay.symm.trans isOther
      rw [logged]

theorem carriesCodes_of_inSync {log after : SendLog} {call : SendCall}
    (updated : (log.update env call).1 = after) (inSync : after.InSync)
    {regions : Table NamedRegion NamedRegion.regionId} {day : SendDay}
    (named : namedRegions env.render after.logger.idNames = .ok regions)
    (isDay : after.logger.day = some day)
    (carries : ∀ region ∈ regions.rows, ∃ code,
      after.logger.codeOf call region.regionId = .ok code ∧ ∃ logged,
        after.logger.prevCodes region.regionId = some logged ∧ Carries env logged code) :
    log.CarriesCodes env call := by
  intro _
  rw [updated]
  refine ⟨regions, day, named, isDay, fun region member => ?_⟩
  rcases carries region member with ⟨code, computed, logged, remembered, carried⟩
  rcases inSync region.regionId logged remembered with ⟨other, isOther, last⟩
  cases isDay.symm.trans isOther
  rcases Option.map_eq_some_iff.mp last with ⟨row, isRow, rfl⟩
  exact ⟨code, row, computed, isRow, carried⟩

/-- One call keeps memory and file in step, and logs what it computes. -/
theorem update_spec {log : SendLog} {call : SendCall} (inSync : log.InSync)
    (keeps : log.LosesNothing env call) :
    (log.update env call).1.InSync ∧ log.CarriesCodes env call := by
  have ready := inSync_prepared env inSync call
  rcases exists_day_prepared env log.logger call with ⟨day, isDay⟩
  have noReturn {error : PyError} (raises : (log.update env call).2 = .raised error) :
      log.CarriesCodes env call := by
    rintro (appended | notNeeded)
    · cases raises.symm.trans appended
    · cases raises.symm.trans notNeeded
  cases named : namedRegions env.render (log.logger.prepared env call).idNames with
  | error error =>
      have updated : log.update env call =
          ({ log with logger := log.logger.prepared env call }, .raised error) := by
        rw [SendLog.update, named]
      exact ⟨by rw [updated]; exact ready, noReturn (congrArg Prod.snd updated)⟩
  | ok regions =>
      rcases keeps regions named with ⟨rowsKept, noNull⟩
      have updated : log.update env call = _ := SendLog.update.eq_1 env log call
      rw [named] at updated
      dsimp only at updated
      have unchanged := @prevCodes_of_rows_nil env ((log.logger.prepared env call).codeOf call)
        (env.timestamp call.now) (log.logger.prepared env call).prevCodes regions.rows
      split at updated
      next error raised =>
        -- What raises has remembered no code.
        have noRow := not_not.mp fun some =>
          Option.some_ne_none error (raised.symm.trans (rowsKept.of_rows some).2)
        rw [unchanged noRow] at updated
        exact ⟨by rw [updated]; exact ready, noReturn (congrArg Prod.snd updated)⟩
      next returns =>
        have computed : ∀ region ∈ regions.rows, ∃ code,
            (log.logger.prepared env call).codeOf call region.regionId = .ok code :=
          computed_of_returns returns
        have carries := fun region (member : region ∈ regions.rows) =>
          carries_collect returns (noNull computed) member
        rw [SendLog.append] at updated
        split at updated
        next noRow =>
          rw [unchanged noRow] at updated carries
          have synced : (log.update env call).1.InSync := by rw [updated]; exact ready
          exact ⟨synced,
            carriesCodes_of_inSync (congrArg Prod.fst updated) ready named isDay carries⟩
        next some =>
          have appends := (rowsKept.of_rows some).1
          rw [appends, if_neg Bool.false_ne_true] at updated
          split at updated
          next noDay => cases isDay.symm.trans noDay
          next other isOther =>
            cases isDay.symm.trans isOther
            have appended := inSync_appended env ready isDay
              ((log.logger.prepared env call).codeOf call) (env.timestamp call.now) regions.rows
            have synced : (log.update env call).1.InSync := by rw [updated]; exact appended
            exact ⟨synced,
              carriesCodes_of_inSync (congrArg Prod.fst updated) appended named isDay carries⟩

/-- In a run whose calls all lose nothing, every call leaves the codes it computed in
the file of the day. -/
theorem carriesCodes_of_losesNothing (files : String → List SendRow) (calls : List SendCall)
    (keeps : (sendMachine env).Meets (SendLog.LosesNothing env) { logger := {}, files := files }
      calls) :
    (sendMachine env).Meets (SendLog.CarriesCodes env) { logger := {}, files := files } calls :=
  Machine.Meets.of_stateInvariant (fun _ _ inSync keeps => update_spec inSync keeps)
    (fun _ _ remembered => absurd remembered (Option.some_ne_none _).symm) keeps

end Run

/-! ## One region and its red lamp -/

namespace SendSite

def env : SendEnv where
  render _ := none
  same
    | .int left, .int right => left = right
    | _, _ => false
  window _ := "19700101"
  timestamp now := "197001010900" ++ toString ⌊now⌋

/-- A call of the second minute half past which the lamp is on or off. -/
def call (now : ℚ) (red : String) (appendFails : Bool) : SendCall where
  now := now
  stStates := [((1, "red"), red)]
  statusCodes := some (.value (.obj [("patterns", .arr [.obj
    [("conditions", .obj [("red", .str "on")]), ("code", .int 5)]])]))
  idNames := some (.value (.obj [("id_names", .obj [("1", .arr [.str "press", .null, .null])])]))
  ip := "192.168.0.7"
  appendFails := appendFails

/-- The region is named and its code computed. -/
def codes (log : SendLog) (call : SendCall) : Option (List (Int × Option Int)) :=
  let logger := log.logger.prepared env call
  (namedRegions env.render logger.idNames).toOption.map fun regions =>
    regions.rows.map fun region =>
      (region.regionId, match logger.codeOf call region.regionId with
        | .ok (.int code) => some code
        | _ => none)

theorem losesNothing_of_codes {log : SendLog} {call : SendCall} (code : Int)
    (appends : call.appendFails = false) (isCode : codes log call = some [(1, some code)]) :
    log.LosesNothing env call := by
  apply losesNothing_of_computed env appends
  intro regions named region member
  simp only [codes, named, Except.toOption, Option.map_some, Option.some_inj] at isCode
  have entry := isCode ▸ List.mem_map_of_mem member
  have computed := congrArg Prod.snd (List.mem_singleton.mp entry)
  dsimp only at computed
  split at computed
  next other isOther => exact ⟨.int other, by simp, isOther⟩
  · cases computed

end SendSite

/-- Two changes that are logged. -/
theorem carriesCodes_of_losesNothing_changes :
    (sendMachine SendSite.env).Meets (SendLog.CarriesCodes SendSite.env)
      { logger := {}, files := fun _ => [] }
      [SendSite.call 10 "on" false, SendSite.call 11 "off" false] :=
  carriesCodes_of_losesNothing _ _
    ⟨SendSite.losesNothing_of_codes 5 rfl (by decide +kernel),
      SendSite.losesNothing_of_codes 0 rfl (by decide +kernel), trivial⟩

/-- The row of a failed append is not written by the next call either. -/
theorem not_carriesCodes_failedAppend :
    ¬∀ env files calls,
      (sendMachine env).Meets (SendLog.CarriesCodes env) { logger := {}, files := files }
        calls := by
  intro always
  have carries := (always SendSite.env (fun _ => [])
    [SendSite.call 10 "on" true, SendSite.call 11 "on" false]).2.1
  rcases carries (.inr (by decide +kernel)) with ⟨regions, day, named, -, logged⟩
  have ids := congrArg
    (fun outcome => outcome.toOption.map fun table => table.rows.map NamedRegion.regionId) named
  have one : some [1] = some (regions.rows.map NamedRegion.regionId) :=
    Eq.trans (by decide +kernel) ids
  have present : (1 : Int) ∈ regions.rows.map NamedRegion.regionId :=
    Option.some.inj one ▸ List.mem_singleton_self 1
  rcases List.mem_map.mp present with ⟨region, member, -⟩
  rcases logged region member with ⟨code, row, -, last, -⟩
  rw [files_update (by decide +kernel)] at last
  rw [sendMachine, files_update (by decide +kernel)] at last
  cases last

end PresenceLogger.Child
