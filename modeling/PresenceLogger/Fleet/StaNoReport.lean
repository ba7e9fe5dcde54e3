import PresenceLogger.Child.SendLogger
import PresenceLogger.Library.Dict

/-!
# Duplicate station numbers

`sta_no_report` compares the station numbers of all hosts.  The MERGE key has no device
id, so of two records with one triple, time and status one is dropped without a warning.
-/

namespace PresenceLogger.Fleet

open Library Child

/-- Three station numbers; a text with lone surrogates is `none`. -/
structure Triple where
  staNo1 : Option String
  staNo2 : Option String
  staNo3 : Option String
  deriving DecidableEq, Repr

/-- `any(triple)` -/
def Triple.isAssigned (triple : Triple) : Bool :=
  triple.staNo1 ≠ some "" || triple.staNo2 ≠ some "" || triple.staNo3 ≠ some ""

/-- Regions with what is configured for them. -/
abbrev Regions := Dict String Json

/-- Hosts with their regions; `none` where a host's value is not an object. -/
abbrev Assignments := Dict String (Option Regions)

section

variable (render : Json → Option String)

/-- `_triple` -/
def triple (parts : Json) : Triple :=
  let p :=
    match parts with
    | .arr items => (items.map (namePart render)).take 3
    | parts => [namePart render parts]
  { staNo1 := p[0]?.getD (some "")
    staNo2 := p[1]?.getD (some "")
    staNo3 := p[2]?.getD (some "") }

/-- `sorted(regions, key=lambda r: (len(r), r))` -/
def regionOrder (left right : String × Json) : Prop :=
  left.1.length < right.1.length ∨ left.1.length = right.1.length ∧ left.1 ≤ right.1

instance : DecidableRel regionOrder := fun _ _ => inferInstanceAs (Decidable (_ ∨ _))

/-- The assigned regions of a host, with their labels. -/
def stations (host : String × Option Regions) : List (Triple × String) :=
  match host.2 with
  | none => []
  | some regions =>
      ((regions.rows.insertionSort regionOrder).map fun region =>
        (triple render region.2, host.1 ++ ":" ++ region.1)).filter (·.1.isAssigned)

def findDuplicateStations (perHost : Assignments) : List (Triple × List String) :=
  let hosts := perHost.rows.insertionSort fun left right => left.1 ≤ right.1
  (Dict.group (hosts.flatMap (stations render))).rows.filter fun row => 1 < row.2.length

/-! ## What is reported -/

/-- The triples of the assigned regions. -/
def assigned (regions : Regions) : List Triple :=
  (regions.rows.map fun region => triple render region.2).filter Triple.isAssigned

theorem map_stations_perm (host : String × Option Regions) :
    ((stations render host).map Prod.fst).Perm (host.2.elim [] (assigned render)) := by
  obtain ⟨name, _ | regions⟩ := host
  · exact .nil
  · have sorted := (List.perm_insertionSort regionOrder regions.rows).map
      fun region => triple render region.2
    simpa [stations, assigned, List.filter_map, Function.comp_def] using
      sorted.filter Triple.isAssigned

/-- A triple is reported if and only if it is assigned to two regions or more. -/
theorem mem_findDuplicateStations {perHost : Assignments} {station : Triple} :
    station ∈ (findDuplicateStations render perHost).map Prod.fst ↔
      2 ≤ (perHost.rows.flatMap fun host => host.2.elim [] (assigned render)).count station := by
  let hosts := perHost.rows.insertionSort fun left right => left.1 ≤ right.1
  have perm : ((hosts.flatMap (stations render)).map Prod.fst).Perm
      (perHost.rows.flatMap fun host => host.2.elim [] (assigned render)) := by
    rw [List.map_flatMap]
    exact (List.perm_insertionSort _ _).flatMap fun host _ => map_stations_perm render host
  rw [← perm.count_eq, ← Dict.length_find_group]
  constructor
  · intro member
    obtain ⟨⟨_, labels⟩, reported, rfl⟩ := List.mem_map.mp member
    obtain ⟨inGroups, several⟩ := List.mem_filter.mp reported
    rw [Dict.find_eq_some_iff.mpr inGroups]
    exact of_decide_eq_true several
  · intro several
    cases found : Dict.find (Dict.group (hosts.flatMap (stations render))) station with
    | none => simp [found] at several
    | some labels =>
        rw [found, Option.getD_some] at several
        exact List.mem_map.mpr ⟨_, List.mem_filter.mpr
          ⟨Dict.find_eq_some_iff.mp found, decide_eq_true several⟩, rfl⟩

end

/-! ## Two regions with one triple -/

theorem two_le_count_flatMap {α β : Type} [DecidableEq β] {items : List α} {f : α → List β}
    {left right : α} {value : β} (inLeft : left ∈ items) (inRight : right ∈ items)
    (apart : left ≠ right) (ofLeft : value ∈ f left) (ofRight : value ∈ f right) :
    2 ≤ (items.flatMap f).count value := by
  classical
  have rest : right ∈ items.erase left := (List.mem_erase_of_ne (Ne.symm apart)).mpr inRight
  have perm : items.Perm (left :: right :: (items.erase left).erase right) :=
    (List.perm_cons_erase inLeft).trans ((List.perm_cons_erase rest).cons left)
  rw [(perm.flatMap_right f).count_eq, List.flatMap_cons, List.flatMap_cons, List.count_append,
    List.count_append]
  have first := List.one_le_count_iff.mpr ofLeft
  have second := List.one_le_count_iff.mpr ofRight
  omega

end PresenceLogger.Fleet
