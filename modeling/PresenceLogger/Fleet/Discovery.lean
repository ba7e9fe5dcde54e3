import PresenceLogger.Library.Dict
import PresenceLogger.Library.Text

/-!
# Devices under the access point

`discovery` reads the neighbours of the access point from `ip neigh` and matches them
with the inventory: by the address an entry resolves to, and by the MAC that is
recorded for the entry.  What no entry claims is offered for registration once every
entry is matched.
-/

namespace PresenceLogger.Fleet

open Library Library.Text

/-! ## The ARP table -/

structure Neighbor where
  ip : String
  mac : String
  state : String
  deriving DecidableEq, Repr

def presentStates : List String := ["REACHABLE", "STALE", "DELAY", "PROBE", "PERMANENT"]

/-- `str.upper` on the characters whose upper case is ASCII, which decides every
comparison with an ASCII word. -/
def upperAscii (text : List Char) : List Char :=
  text.flatMap fun char =>
    match char with
    | 'ß' => ['S', 'S']
    | 'ı' => ['I']
    | 'ſ' => ['S']
    | 'ﬀ' => ['F', 'F']
    | 'ﬁ' => ['F', 'I']
    | 'ﬂ' => ['F', 'L']
    | 'ﬃ' => ['F', 'F', 'I']
    | 'ﬄ' => ['F', 'F', 'L']
    | 'ﬅ' | 'ﬆ' => ['S', 'T']
    | char => [char.toUpper]

/-- What a pattern matches at the start of a text, and the rest of the text. -/
abbrev Match := Option (List Char × List Char)

/-- `\d{1,3}`, where no digit may follow. -/
def matchOctet (text : List Char) : Match :=
  let digits := text.takeWhile fun char => (decimalValue char).isSome
  if 1 ≤ digits.length ∧ digits.length ≤ 3 then some (digits, text.drop digits.length) else none

/-- `(?:\.\d{1,3}){n}` -/
def matchOctets : Nat → List Char → Match
  | 0, text => some ([], text)
  | n + 1, '.' :: text => do
      let (octet, rest) ← matchOctet text
      let (octets, rest) ← matchOctets n rest
      return ('.' :: octet ++ octets, rest)
  | _ + 1, _ => none

/-- `\d{1,3}(?:\.\d{1,3}){3}` -/
def matchIpv4 (text : List Char) : Match := do
  let (octet, rest) ← matchOctet text
  let (octets, rest) ← matchOctets 3 rest
  return (octet ++ octets, rest)

/-- `\s+` -/
def matchSpaces (text : List Char) : Match :=
  match text.takeWhile isSpace with
  | [] => none
  | spaces => some (spaces, text.dropWhile isSpace)

/-- `[0-9a-fA-F:]` -/
def isMacChar (char : Char) : Bool :=
  char.isDigit || (('a' ≤ char && char ≤ 'f') || ('A' ≤ char && char ≤ 'F')) || char == ':'

/-- `_NEIGH_RE` -/
def matchNeigh (line : List Char) : Option Neighbor := do
  let (ip, rest) ← matchIpv4 line
  let (_, rest) ← matchSpaces rest
  let rest ← rest.dropPrefix? "lladdr".toList
  let (_, rest) ← matchSpaces rest
  let mac := rest.take 17
  guard (mac.length = 17 ∧ mac.all isMacChar)
  let (_, rest) ← matchSpaces (rest.drop 17)
  let state := rest.takeWhile fun char => !isSpace char
  guard (state ≠ [])
  return { ip := .ofList ip, mac := .ofList mac, state := .ofList state }

/-- The body of the loop in `parse_neigh`. -/
def parseNeighLine (line : List Char) : Option Neighbor := do
  let found ← matchNeigh (strip line)
  let state := String.ofList (upperAscii found.state.toList)
  if state ∈ presentStates then
    some { ip := found.ip, mac := .ofList (found.mac.toList.map Char.toLower), state := state }
  else none

def parseNeigh (text : List Char) : List Neighbor := (splitLines text).filterMap parseNeighLine

/-! ## Classification -/

inductive Kind where
  | known
  | new
  | unverified
  | unresolved
  deriving DecidableEq, Repr

structure FleetRow where
  mac : Option String
  ip : Option String
  entry : Option String
  kind : Kind
  deriving DecidableEq, Repr

/-- Entries with the addresses they resolve to. -/
abbrev Inventory := Dict String (Option String)

/-- Entries with their recorded MACs. -/
abbrev KnownMacs := Dict String String

/-- The device of an entry: the one at its address, unless another MAC is recorded, or
the one with the recorded MAC. -/
def locate (neighbors : List Neighbor) (trustedMac ip : Option String) : Option Neighbor :=
  let byIp := Dict.index Neighbor.ip neighbors
  let byMac := Dict.index Neighbor.mac neighbors
  let candidate := (ip.filter (· ≠ "")).bind (Dict.find byIp)
  (candidate.filter fun device => trustedMac.all (device.mac = ·)).or
    (trustedMac.bind (Dict.find byMac))

/-- The loop over the inventory in `classify`. -/
structure Matching where
  rows : List FleetRow := []
  claimed : List String := []
  hasUnresolved : Bool := false

namespace Matching

variable (neighbors : List Neighbor) (knownMacs : KnownMacs)

/-- The body of the loop. -/
def matchEntry (matching : Matching) (item : String × Option String) : Matching :=
  match locate neighbors (knownMacs.find item.1) item.2 with
  | some device =>
      { matching with
        rows := matching.rows ++ [⟨some device.mac, some device.ip, some item.1, .known⟩]
        claimed := device.ip :: matching.claimed }
  | none =>
      { matching with
        rows := matching.rows ++ [⟨none, item.2, some item.1, .unresolved⟩]
        hasUnresolved := true }

def matchAll (inventoryIps : Inventory) : Matching :=
  inventoryIps.rows.foldl (matchEntry neighbors knownMacs) {}

end Matching

def classify (neighbors : List Neighbor) (inventoryIps : Inventory) (knownMacs : KnownMacs) :
    List FleetRow :=
  let matching := Matching.matchAll neighbors knownMacs inventoryIps
  let leftover := if matching.hasUnresolved then Kind.unverified else .new
  matching.rows ++
    (neighbors.filter fun device => device.ip ∉ matching.claimed).map fun device =>
      ⟨some device.mac, some device.ip, none, leftover⟩

/-- `learned_macs` -/
def learnedMacs (rows : List FleetRow) (knownMacs : KnownMacs) : KnownMacs :=
  .ofPairs (rows.filterMap fun row =>
    match row.kind, row.entry, row.mac with
    | .known, some entry, some mac =>
        if knownMacs.find entry = none then some (entry, mac) else none
    | _, _, _ => none)

/-! ## What the rows say -/

/-- The entry is matched with the device. -/
def Identifies (neighbors : List Neighbor) (inventoryIps : Inventory) (knownMacs : KnownMacs)
    (entry : String) (device : Neighbor) : Prop :=
  ∃ ip, inventoryIps.find entry = some ip ∧
    locate neighbors (knownMacs.find entry) ip = some device

/-- Every entry is matched with a device. -/
def AllIdentified (neighbors : List Neighbor) (inventoryIps : Inventory)
    (knownMacs : KnownMacs) : Prop :=
  ∀ entry ip, inventoryIps.find entry = some ip →
    ∃ device, locate neighbors (knownMacs.find entry) ip = some device

section

variable {neighbors : List Neighbor} {inventoryIps : Inventory} {knownMacs : KnownMacs}

theorem mem_of_locate {trustedMac ip : Option String} {device : Neighbor}
    (found : locate neighbors trustedMac ip = some device) : device ∈ neighbors := by
  rcases Option.or_eq_some_iff.mp found with atIp | ⟨-, byMac⟩
  · obtain ⟨query, -, atIp⟩ := Option.bind_eq_some_iff.mp (Option.filter_eq_some_iff.mp atIp).1
    exact (Dict.of_find_index atIp).1
  · obtain ⟨query, -, byMac⟩ := Option.bind_eq_some_iff.mp byMac
    exact (Dict.of_find_index byMac).1

/-- A recorded MAC is never matched with another device. -/
theorem mac_of_locate {mac : String} {ip : Option String} {device : Neighbor}
    (found : locate neighbors (some mac) ip = some device) : device.mac = mac := by
  rcases Option.or_eq_some_iff.mp found with atIp | ⟨-, byMac⟩
  · simpa using (Option.filter_eq_some_iff.mp atIp).2
  · exact (Dict.of_find_index byMac).2

/-- The row of an entry. -/
def entryRow (neighbors : List Neighbor) (knownMacs : KnownMacs)
    (item : String × Option String) : FleetRow :=
  match locate neighbors (knownMacs.find item.1) item.2 with
  | some device => ⟨some device.mac, some device.ip, some item.1, .known⟩
  | none => ⟨none, item.2, some item.1, .unresolved⟩

namespace Matching

/-- What the loop adds for these items. -/
structure Adds (neighbors : List Neighbor) (knownMacs : KnownMacs)
    (items : List (String × Option String)) (before after : Matching) : Prop where
  rows : after.rows = before.rows ++ items.map (entryRow neighbors knownMacs)
  claimed : ∀ ip, ip ∈ after.claimed ↔ ip ∈ before.claimed ∨
    ∃ item ∈ items, ∃ device, locate neighbors (knownMacs.find item.1) item.2 = some device ∧
      device.ip = ip
  hasUnresolved : after.hasUnresolved = true ↔ before.hasUnresolved = true ∨
    ∃ item ∈ items, locate neighbors (knownMacs.find item.1) item.2 = none

variable (neighbors knownMacs) in
theorem adds_matchEntry (matching : Matching) (item : String × Option String) :
    Adds neighbors knownMacs [item] matching (matchEntry neighbors knownMacs matching item) := by
  cases found : locate neighbors (knownMacs.find item.1) item.2 with
  | none => constructor <;> simp [matchEntry, entryRow, found]
  | some device =>
      exact {
        rows := by simp [matchEntry, entryRow, found]
        claimed := fun ip => by
          have here : ip = device.ip ↔ device.ip = ip := eq_comm
          simp [matchEntry, found, here, or_comm]
        hasUnresolved := by simp [matchEntry, found] }

variable (neighbors knownMacs) in
theorem adds_foldl (items : List (String × Option String)) (matching : Matching) :
    Adds neighbors knownMacs items matching
      (items.foldl (matchEntry neighbors knownMacs) matching) := by
  induction items generalizing matching with
  | nil => constructor <;> simp
  | cons item items ih =>
      have first := adds_matchEntry neighbors knownMacs matching item
      have later := ih (matchEntry neighbors knownMacs matching item)
      constructor
      · simp [later.rows, first.rows]
      · simp [later.claimed, first.claimed, or_assoc]
      · simp [later.hasUnresolved, first.hasUnresolved, or_assoc]

theorem mem_claimed {ip : String} :
    ip ∈ (matchAll neighbors knownMacs inventoryIps).claimed ↔
      ∃ entry device, Identifies neighbors inventoryIps knownMacs entry device ∧
        device.ip = ip := by
  have adds := adds_foldl neighbors knownMacs inventoryIps.rows {}
  rw [matchAll, adds.claimed]
  simp only [Identifies, Dict.find_eq_some_iff, List.not_mem_nil, false_or, Prod.exists]
  constructor
  · rintro ⟨entry, ip, listed, device, found, same⟩
    exact ⟨entry, device, ⟨ip, listed, found⟩, same⟩
  · rintro ⟨entry, device, ⟨ip, listed, found⟩, same⟩
    exact ⟨entry, ip, listed, device, found, same⟩

theorem hasUnresolved_eq_false :
    (matchAll neighbors knownMacs inventoryIps).hasUnresolved = false ↔
      AllIdentified neighbors inventoryIps knownMacs := by
  have adds := adds_foldl neighbors knownMacs inventoryIps.rows {}
  rw [← Bool.not_eq_true, matchAll, adds.hasUnresolved]
  simp [AllIdentified, Dict.find_eq_some_iff, ← Option.ne_none_iff_exists']

end Matching

/-- No entry is matched with a device at this address. -/
def Unclaimed (neighbors : List Neighbor) (inventoryIps : Inventory) (knownMacs : KnownMacs)
    (ip : String) : Prop :=
  ∀ entry device, Identifies neighbors inventoryIps knownMacs entry device → device.ip ≠ ip

/-- A new row is a device that no entry claims, when every entry has its device. -/
theorem new_mem_classify {row : FleetRow} :
    row ∈ classify neighbors inventoryIps knownMacs ∧ row.kind = .new ↔
      AllIdentified neighbors inventoryIps knownMacs ∧ ∃ device ∈ neighbors,
        Unclaimed neighbors inventoryIps knownMacs device.ip ∧
          row = ⟨some device.mac, some device.ip, none, .new⟩ := by
  have adds := Matching.adds_foldl neighbors knownMacs inventoryIps.rows {}
  have notEntry (item : String × Option String) :
      (entryRow neighbors knownMacs item).kind ≠ .new := by
    unfold entryRow
    split <;> simp
  have unclaimed (ip : String) :
      ip ∉ (Matching.matchAll neighbors knownMacs inventoryIps).claimed ↔
        Unclaimed neighbors inventoryIps knownMacs ip := by
    simp [Matching.mem_claimed, Unclaimed]
  rw [← Matching.hasUnresolved_eq_false, classify, List.mem_append, List.mem_map]
  simp only [List.mem_filter, decide_eq_true_eq, unclaimed]
  constructor
  · rintro ⟨inRows | ⟨device, ⟨listed, free⟩, rfl⟩, isNew⟩
    · rw [Matching.matchAll, adds.rows, List.nil_append, List.mem_map] at inRows
      obtain ⟨item, -, rfl⟩ := inRows
      exact absurd isNew (notEntry item)
    · cases complete : (Matching.matchAll neighbors knownMacs inventoryIps).hasUnresolved with
      | true => simp [complete] at isNew
      | false => exact ⟨rfl, device, listed, free, by simp⟩
  · rintro ⟨complete, device, listed, free, rfl⟩
    exact ⟨.inr ⟨device, ⟨listed, free⟩, by simp [complete]⟩, rfl⟩

/-- A known row is an entry with its device. -/
theorem known_mem_classify {row : FleetRow} :
    row ∈ classify neighbors inventoryIps knownMacs ∧ row.kind = .known ↔
      ∃ entry device, Identifies neighbors inventoryIps knownMacs entry device ∧
        row = ⟨some device.mac, some device.ip, some entry, .known⟩ := by
  have adds := Matching.adds_foldl neighbors knownMacs inventoryIps.rows {}
  rw [classify, List.mem_append, Matching.matchAll, adds.rows, List.nil_append, List.mem_map]
  constructor
  · rintro ⟨⟨⟨entry, ip⟩, listed, rfl⟩ | leftover, isKnown⟩
    · rw [entryRow] at isKnown ⊢
      split at isKnown
      next device found =>
        exact ⟨entry, device, ⟨ip, Dict.find_eq_some_iff.mpr listed, found⟩, rfl⟩
      · cases isKnown
    · obtain ⟨device, -, rfl⟩ := List.mem_map.mp leftover
      dsimp only at isKnown
      split at isKnown <;> cases isKnown
  · rintro ⟨entry, device, ⟨ip, listed, found⟩, rfl⟩
    exact ⟨.inl ⟨(entry, ip), Dict.find_eq_some_iff.mp listed, by simp [entryRow, found]⟩, rfl⟩

/-! ## Offers -/

/-- No device offered as new has a MAC that is recorded for an entry of the inventory, or
that is shown as known. -/
def OffersStrangers (neighbors : List Neighbor) (inventoryIps : Inventory)
    (knownMacs : KnownMacs) : Prop :=
  ∀ row ∈ classify neighbors inventoryIps knownMacs, row.kind = .new →
    (∀ entry ip mac, inventoryIps.find entry = some ip → knownMacs.find entry = some mac →
      row.mac ≠ some mac) ∧
    ∀ other ∈ classify neighbors inventoryIps knownMacs, other.kind = .known →
      other.mac ≠ row.mac

/-- The MAC of an identified device is listed only at addresses of identified devices. -/
def KnownAtClaimed (neighbors : List Neighbor) (inventoryIps : Inventory)
    (knownMacs : KnownMacs) : Prop :=
  ∀ entry device, Identifies neighbors inventoryIps knownMacs entry device →
    ∀ listed ∈ neighbors, listed.mac = device.mac →
      ∃ other claimant, Identifies neighbors inventoryIps knownMacs other claimant ∧
        claimant.ip = listed.ip

/-- A MAC that is recorded or known is not offered, unless it is listed at an address that
no entry claims while every entry has its device. -/
theorem offersStrangers_iff (text : List Char) (inventoryIps : Inventory)
    (knownMacs : KnownMacs) :
    OffersStrangers (parseNeigh text) inventoryIps knownMacs ↔
      ¬AllIdentified (parseNeigh text) inventoryIps knownMacs ∨
        KnownAtClaimed (parseNeigh text) inventoryIps knownMacs := by
  constructor
  · intro strangers
    by_cases complete : AllIdentified (parseNeigh text) inventoryIps knownMacs
    · right
      intro entry device identified listed among same
      by_contra unclaimed
      have free : Unclaimed (parseNeigh text) inventoryIps knownMacs listed.ip := by
        intro other claimant claims here
        exact unclaimed ⟨other, claimant, claims, here⟩
      obtain ⟨inRows, isNew⟩ := new_mem_classify.mpr ⟨complete, listed, among, free, rfl⟩
      obtain ⟨knownRow, isKnown⟩ := known_mem_classify.mpr ⟨entry, device, identified, rfl⟩
      exact (strangers _ inRows isNew).2 _ knownRow isKnown (congrArg some same.symm)
    · exact .inl complete
  · rintro holds row inRows isNew
    obtain ⟨complete, listed, among, free, rfl⟩ := new_mem_classify.mp ⟨inRows, isNew⟩
    have claimed := holds.resolve_left (not_not_intro complete)
    have apart {entry : String} {device : Neighbor}
        (identified : Identifies (parseNeigh text) inventoryIps knownMacs entry device) :
        listed.mac ≠ device.mac := by
      intro same
      obtain ⟨other, claimant, claims, here⟩ := claimed entry device identified listed among same
      exact free other claimant claims here
    constructor
    · intro entry ip mac inInventory recorded same
      obtain ⟨device, found⟩ := complete entry ip inInventory
      have isMac : device.mac = mac := by
        rw [recorded] at found
        exact mac_of_locate found
      apply apart ⟨ip, inInventory, found⟩
      rw [isMac]
      exact Option.some.inj same
    · intro other otherRow isKnown same
      obtain ⟨entry, device, identified, rfl⟩ := known_mem_classify.mp ⟨otherRow, isKnown⟩
      exact apart identified (Option.some.inj same).symm

/-- Where no MAC is listed at two addresses, only strangers are offered. -/
theorem knownAtClaimed_of_inj (alone : ∀ left ∈ neighbors, ∀ right ∈ neighbors,
    left.mac = right.mac → left.ip = right.ip) :
    KnownAtClaimed neighbors inventoryIps knownMacs := by
  rintro entry device ⟨ip, inInventory, found⟩ listed among same
  exact ⟨entry, device, ⟨ip, inInventory, found⟩,
    alone device (mem_of_locate found) listed among same.symm⟩

end

namespace Site

def inventoryIps : Inventory := .ofPairs [("zero2", some "10.42.0.52")]

def knownMacs : KnownMacs := .ofPairs [("zero2", "2c:cf:67:c1:1d:7b")]

/-- A child that has moved to another address, with its old entry not yet gone. -/
def twoLeases : List Char :=
  ("10.42.0.52 lladdr 2c:cf:67:c1:1d:7b REACHABLE\n" ++
    "10.42.0.77 lladdr 2c:cf:67:c1:1d:7b STALE\n").toList

end Site

/-- The registered child is offered at its other address. -/
theorem not_offersStrangers_twoLeases :
    ¬OffersStrangers (parseNeigh Site.twoLeases) Site.inventoryIps Site.knownMacs := by
  intro strangers
  have offered := (strangers ⟨some "2c:cf:67:c1:1d:7b", some "10.42.0.77", none, .new⟩
    (by decide +kernel) rfl).1
  exact offered "zero2" (some "10.42.0.52") "2c:cf:67:c1:1d:7b" (by decide +kernel)
    (by decide +kernel) rfl

end PresenceLogger.Fleet
