import PresenceLogger.Fleet.Discovery
import PresenceLogger.Fleet.Hostname
import PresenceLogger.Fleet.StaNoReport

/-!
# The fleet view

`build_fleet_view` puts together what the page shows: the children with their statuses,
the candidates for registration and the station numbers that several regions share.
-/

namespace PresenceLogger.Fleet

open Library

structure ChildStatus where
  ip : String
  hostname : Option String := none
  picamera : Option String := none
  webServer : Option String := none
  model : Option Json := none
  ready : Option Json := none
  idNames : Regions := Table.empty
  error : Option String := none

/-- Addresses with what was collected there. -/
abbrev Statuses := Dict String ChildStatus

/-- `left or right` -/
def pyOr (left right : Option String) : Option String :=
  if left.any (· ≠ "") then left else right

/-- A row of the page. -/
structure ChildView where
  mac : Option String
  ip : Option String
  entry : Option String
  kind : Kind
  hostname : Option String
  picamera : Option String
  webServer : Option String
  model : Option Json
  ready : Option Json
  idNames : Regions
  error : Option String

structure FleetView where
  children : List ChildView
  /-- MAC and address. -/
  candidates : List (Option String × Option String)
  blockedReason : Option String
  duplicates : List (Triple × List String)
  suggestedHostname : String
  steps : List (String × String)
  newlyTrustedMacs : KnownMacs

/-- `provision.STEPS` -/
def provisionSteps : List (String × String) :=
  [("stop", "送信を止める"), ("blank", "STA_NO を退避して空にする"),
    ("rename", "ホスト名を変更して再起動"), ("mdns", "mDNS を正常化"),
    ("hostkey", "host key を登録"), ("inventory", "インベントリに追加")]

/-- `statuses.get(r.ip) if r.ip else None` -/
def statusOf (statuses : Statuses) (row : FleetRow) : Option ChildStatus :=
  (row.ip.filter (· ≠ "")).bind statuses.find

def childView (statuses : Statuses) (row : FleetRow) : ChildView :=
  let st := statusOf statuses row
  { mac := row.mac
    ip := row.ip
    entry := row.entry
    kind := row.kind
    hostname := st.bind (·.hostname)
    picamera := st.bind (·.picamera)
    webServer := st.bind (·.webServer)
    model := st.bind (·.model)
    ready := st.bind (·.ready)
    idNames := (st.map (·.idNames)).getD Table.empty
    error := st.bind (·.error) }

/-- The name under which a row's regions are checked. -/
def displayName (row : FleetRow) (st : ChildStatus) : String :=
  ((pyOr (pyOr st.hostname row.entry) (pyOr row.ip (some "?")))).getD "?"

/-- The regions that a row puts into `per_host`. -/
def hostRegions (statuses : Statuses) (row : FleetRow) : Option (String × Regions) :=
  if row.kind = .new then none
  else
    match statusOf statuses row with
    | some st => if st.idNames.rows = [] then none else some (displayName row st, st.idNames)
    | none => none

def blockedReason (blocked : List String) : Option String :=
  if blocked = [] then none
  else some ("対応付けできない子があるため、新機の登録を止めています: " ++ ", ".intercalate blocked ++
    "。先に既存の子を復旧するか、インベントリから外してください。")

def buildFleetView (render : Json → Option String) (neighbors : List Neighbor)
    (inventoryIps : Inventory) (statuses : Statuses) (knownMacs : KnownMacs) (hub : String) :
    FleetView :=
  let rows := classify neighbors inventoryIps knownMacs
  let children := (rows.filter (·.kind ≠ .new)).map (childView statuses)
  let perHost : Assignments :=
    .ofPairs ((rows.filterMap (hostRegions statuses)).map fun host => (host.1, some host.2))
  let knownNames := children.map fun c => (pyOr c.hostname (pyOr c.entry (some ""))).getD ""
  let blocked := (rows.filter (·.kind = .unresolved)).map fun row => row.entry.getD "None"
  { children := children
    candidates := (rows.filter (·.kind = .new)).map fun row => (row.mac, row.ip)
    blockedReason := blockedReason blocked
    duplicates := findDuplicateStations render perHost
    suggestedHostname := suggestHostname (knownNames.filter (· ≠ "")) hub
    steps := provisionSteps
    newlyTrustedMacs := learnedMacs rows knownMacs }

/-! ## Shared station numbers -/

/-- The child's address has a status without an error. -/
def Reached (statuses : Statuses) (child : ChildView) : Prop :=
  ∃ ip st, child.ip = some ip ∧ statuses.find ip = some st ∧ st.error = none

/-- Two children at different addresses have a region each with these numbers. -/
def Shared (render : Json → Option String) (statuses : Statuses) (view : FleetView)
    (station : Triple) : Prop :=
  ∃ left ∈ view.children, ∃ right ∈ view.children, left.ip ≠ right.ip ∧
    Reached statuses left ∧ Reached statuses right ∧
    station ∈ assigned render left.idNames ∧ station ∈ assigned render right.idNames

section

variable (render : Json → Option String) (neighbors : List Neighbor) (inventoryIps : Inventory)
  (statuses : Statuses) (knownMacs : KnownMacs) (hub : String)

/-- The view reports every triple that two children share. -/
def MissesNone : Prop :=
  ∀ station, Shared render statuses
      (buildFleetView render neighbors inventoryIps statuses knownMacs hub) station →
    station ∈ (buildFleetView render neighbors inventoryIps statuses knownMacs hub).duplicates.map
      Prod.fst

/-- The regions of the children that no later child with the same display name hides. -/
def visible : List (String × Regions) :=
  Dict.lastOfEach ((classify neighbors inventoryIps knownMacs).filterMap (hostRegions statuses))

theorem mem_duplicates_iff (station : Triple) :
    station ∈ (buildFleetView render neighbors inventoryIps statuses knownMacs hub).duplicates.map
        Prod.fst ↔
      2 ≤ ((visible neighbors inventoryIps statuses knownMacs).flatMap fun host =>
        assigned render host.2).count station := by
  have perm := (Dict.ofPairs_perm (((classify neighbors inventoryIps knownMacs).filterMap
    (hostRegions statuses)).map fun host => (host.1, some host.2))).flatMap_right
      fun host => host.2.elim [] (assigned render)
  rw [buildFleetView, mem_findDuplicateStations, perm.count_eq, Dict.lastOfEach_map,
    List.flatMap_map]
  rfl

/-! ### Distinct display names -/

variable {render neighbors inventoryIps statuses knownMacs hub}

theorem regions_of_hostRegions {row : FleetRow} {name : String} {regions : Regions}
    (shown : hostRegions statuses row = some (name, regions)) :
    (statusOf statuses row).map (·.idNames) = some regions := by
  unfold hostRegions at shown
  split at shown
  · cases shown
  · cases found : statusOf statuses row with
    | none => simp [found] at shown
    | some st =>
        simp only [found] at shown
        split at shown
        · cases shown
        · cases shown
          rfl

/-- A child with an assigned region puts its regions into the check. -/
theorem exists_hostRegions {row : FleetRow} (isChild : row.kind ≠ .new) {station : Triple}
    (has : station ∈ assigned render (childView statuses row).idNames) :
    ∃ name, hostRegions statuses row = some (name, (childView statuses row).idNames) := by
  cases found : statusOf statuses row with
  | none => simp [childView, found, assigned, Table.empty] at has
  | some st =>
      have same : (childView statuses row).idNames = st.idNames := by simp [childView, found]
      rw [same] at has ⊢
      have nonempty : st.idNames.rows ≠ [] := by
        intro none
        simp [assigned, none] at has
      exact ⟨displayName row st, by simp [hostRegions, isChild, found, nonempty]⟩

/-- The child at this row has regions, and this is the name they are checked under. -/
def NamedRow (statuses : Statuses) (row : FleetRow) (name : String) : Prop :=
  row.kind ≠ .new ∧ ∃ st, statusOf statuses row = some st ∧ st.idNames.rows ≠ [] ∧
    displayName row st = name

theorem namedRow_iff {row : FleetRow} {name : String} :
    NamedRow statuses row name ↔ ∃ regions, hostRegions statuses row = some (name, regions) := by
  rw [NamedRow, hostRegions]
  by_cases isNew : row.kind = .new
  · simp [isNew]
  · cases statusOf statuses row with
    | none => simp [isNew]
    | some st => by_cases bare : st.idNames.rows = [] <;> simp [isNew, bare]

/-- The rows are those of two reachable children at different addresses that have a region
each with these numbers. -/
structure SharedBy (render : Json → Option String) (statuses : Statuses) (left right : FleetRow)
    (station : Triple) : Prop where
  apart : left.ip ≠ right.ip
  leftReached : Reached statuses (childView statuses left)
  rightReached : Reached statuses (childView statuses right)
  ofLeft : station ∈ assigned render (childView statuses left).idNames
  ofRight : station ∈ assigned render (childView statuses right).idNames

theorem SharedBy.symm {left right : FleetRow} {station : Triple}
    (shared : SharedBy render statuses left right station) :
    SharedBy render statuses right left station :=
  ⟨shared.apart.symm, shared.rightReached, shared.leftReached, shared.ofRight, shared.ofLeft⟩

variable (render neighbors inventoryIps statuses knownMacs) in
/-- A child that shares a triple with one at another address has a display name that no
child at another address has. -/
def SharersNamed : Prop :=
  ∀ left ∈ classify neighbors inventoryIps knownMacs,
    ∀ right ∈ classify neighbors inventoryIps knownMacs, right.kind ≠ .new →
    ∀ station, SharedBy render statuses left right station →
    ∀ other ∈ classify neighbors inventoryIps knownMacs, ∀ name,
      NamedRow statuses left name → NamedRow statuses other name → other.ip = left.ip

/-- Under that condition no triple is missed. -/
theorem missesNone_of_sharersNamed
    (named : SharersNamed render neighbors inventoryIps statuses knownMacs) :
    MissesNone render neighbors inventoryIps statuses knownMacs hub := by
  have seen {row : FleetRow} (inRows : row ∈ classify neighbors inventoryIps knownMacs)
      {name : String} {regions : Regions} (shown : hostRegions statuses row = some (name, regions))
      (alone : ∀ other ∈ classify neighbors inventoryIps knownMacs,
        NamedRow statuses other name → other.ip = row.ip) :
      (name, regions) ∈ visible neighbors inventoryIps statuses knownMacs := by
    obtain ⟨others, last⟩ := Dict.exists_find_ofPairs (List.mem_filterMap.mpr ⟨row, inRows, shown⟩)
    obtain ⟨later, laterIn, laterShown⟩ := List.mem_filterMap.mp (Dict.mem_of_find_ofPairs last)
    have sameStatus : statusOf statuses later = statusOf statuses row := by
      rw [statusOf, statusOf, alone later laterIn (namedRow_iff.mpr ⟨others, laterShown⟩)]
    have same := regions_of_hostRegions laterShown
    rw [sameStatus, regions_of_hostRegions shown] at same
    cases same
    exact Dict.mem_lastOfEach.mpr last
  intro station shared
  obtain ⟨_, leftChild, _, rightChild, apart, leftReached, rightReached, ofLeft, ofRight⟩ := shared
  obtain ⟨left, leftIn, rfl⟩ := List.mem_map.mp leftChild
  obtain ⟨right, rightIn, rfl⟩ := List.mem_map.mp rightChild
  rw [List.mem_filter, decide_eq_true_eq] at leftIn rightIn
  have both : SharedBy render statuses left right station :=
    ⟨apart, leftReached, rightReached, ofLeft, ofRight⟩
  obtain ⟨leftName, leftShown⟩ := exists_hostRegions leftIn.2 ofLeft
  obtain ⟨rightName, rightShown⟩ := exists_hostRegions rightIn.2 ofRight
  have leftNamed : NamedRow statuses left leftName := namedRow_iff.mpr ⟨_, leftShown⟩
  have rightNamed : NamedRow statuses right rightName := namedRow_iff.mpr ⟨_, rightShown⟩
  have leftAlone := named left leftIn.1 right rightIn.1 rightIn.2 station both
  have rightAlone := named right rightIn.1 left leftIn.1 leftIn.2 station both.symm
  have names : leftName ≠ rightName := by
    rintro rfl
    exact apart (leftAlone right rightIn.1 _ leftNamed rightNamed).symm
  rw [mem_duplicates_iff]
  exact two_le_count_flatMap (f := fun host : String × Regions => assigned render host.2)
    (seen leftIn.1 leftShown fun other inRows => leftAlone other inRows _ leftNamed)
    (seen rightIn.1 rightShown fun other inRows => rightAlone other inRows _ rightNamed)
    (fun same => names (congrArg Prod.fst same))
    ofLeft ofRight

end

namespace Site

/-- A child with one assignment. -/
def child (ip hostname : String) : ChildStatus where
  ip := ip
  hostname := some hostname
  idNames := .ofPairs [("1", .arr [.str "HIME", .str "T120", .str "004020"])]

/-- A child that was cloned from another one's card. -/
def clone (ip : String) : ChildStatus := child ip "pizero2w"

def clones : List Neighbor :=
  [⟨"10.42.0.52", "2c:cf:67:c1:1d:7b", "REACHABLE"⟩,
    ⟨"10.42.0.194", "88:a2:9e:30:5e:46", "REACHABLE"⟩]

def cloneIps : Inventory :=
  .ofPairs [("zero2", some "10.42.0.52"), ("pizero2w-2.local", some "10.42.0.194")]

def cloneStatuses : Statuses :=
  .ofPairs [("10.42.0.52", clone "10.42.0.52"), ("10.42.0.194", clone "10.42.0.194")]

/-- The same devices under names of their own. -/
def namedStatuses : Statuses :=
  .ofPairs [("10.42.0.52", child "10.42.0.52" "zero2"),
    ("10.42.0.194", child "10.42.0.194" "zero3")]

def station : Triple := ⟨some "HIME", some "T120", some "004020"⟩

theorem classify_clones : classify clones cloneIps Table.empty =
    [⟨some "2c:cf:67:c1:1d:7b", some "10.42.0.52", some "zero2", .known⟩,
      ⟨some "88:a2:9e:30:5e:46", some "10.42.0.194", some "pizero2w-2.local", .known⟩] := by
  decide +kernel

end Site

/-- Two children with names of their own and one assignment are reported. -/
theorem missesNone_named :
    MissesNone (fun _ => none) Site.clones Site.cloneIps Site.namedStatuses Table.empty "" := by
  apply missesNone_of_sharersNamed
  intro left leftIn right _ _ station _ other otherIn name leftNamed otherNamed
  rw [Site.classify_clones] at leftIn otherIn
  obtain ⟨-, st, isStatus, -, rfl⟩ := leftNamed
  obtain ⟨-, otherSt, isOther, -, same⟩ := otherNamed
  simp only [List.mem_cons, List.not_mem_nil, or_false] at leftIn otherIn
  obtain rfl | rfl := leftIn <;> obtain rfl | rfl := otherIn
  · rfl
  · cases isStatus
    cases isOther
    exact absurd same (by decide)
  · cases isStatus
    cases isOther
    exact absurd same (by decide)
  · rfl

/-- Two clones with one host name and one assignment, and no duplicate is reported. -/
theorem not_missesNone_clones :
    ¬MissesNone (fun _ => none) Site.clones Site.cloneIps Site.cloneStatuses Table.empty "" := by
  intro missesNone
  have reported := missesNone Site.station ?_
  · revert reported
    decide +kernel
  · refine ⟨childView Site.cloneStatuses ⟨some "2c:cf:67:c1:1d:7b", some "10.42.0.52",
        some "zero2", .known⟩, ?_, childView Site.cloneStatuses ⟨some "88:a2:9e:30:5e:46",
        some "10.42.0.194", some "pizero2w-2.local", .known⟩, ?_, by decide +kernel,
      ⟨"10.42.0.52", Site.clone "10.42.0.52", rfl, rfl, rfl⟩,
      ⟨"10.42.0.194", Site.clone "10.42.0.194", rfl, rfl, rfl⟩, by decide +kernel,
      by decide +kernel⟩
    · exact List.mem_map.mpr ⟨_, by rw [Site.classify_clones]; decide, rfl⟩
    · exact List.mem_map.mpr ⟨_, by rw [Site.classify_clones]; decide, rfl⟩

end PresenceLogger.Fleet
