import PresenceLogger.Bridge.Clock
import PresenceLogger.Bridge.OracleJdbc

/-!
# Profiles, the current SSID and the Oracle adapter

The SSID that `nmcli` reports selects a profile; the profile selects the station
numbers and the back end of every MERGE.
-/

namespace PresenceLogger.Bridge

open Library Library.Text

/-! ## The current SSID -/

/-- `_split_first_unescaped_colon`, with the characters before the current one
in reverse. -/
def splitFirstUnescapedColonFrom (before : List Char) : List Char → List (List Char)
  | [] => if before = [] then [] else [before.reverse]
  | '\\' :: char :: rest => splitFirstUnescapedColonFrom (char :: '\\' :: before) rest
  | ':' :: rest => [before.reverse, rest]
  | char :: rest => splitFirstUnescapedColonFrom (char :: before) rest

/-- `_split_first_unescaped_colon` -/
def splitFirstUnescapedColon (line : List Char) : List (List Char) :=
  splitFirstUnescapedColonFrom [] line

/-- `ssid.replace("\\:", ":")` -/
def unescapeColons : List Char → List Char
  | '\\' :: ':' :: rest => ':' :: unescapeColons rest
  | char :: rest => char :: unescapeColons rest
  | [] => []

/-- `parse_active_ssids` -/
def parseActiveSsids (stdout : List Char) : List String :=
  (splitLines stdout).filterMap fun line =>
    match splitFirstUnescapedColon line with
    | active :: ssid :: _ =>
        if lowerAscii (strip active) = "yes".toList then some (String.ofList (unescapeColons ssid))
        else none
    | _ => none

structure NetworkWatcher where
  preferredSsids : List String
  cachedSsid : Option String := none
  deriving DecidableEq, Repr

/-- `_select_ssid` -/
def NetworkWatcher.selectSsid (watcher : NetworkWatcher) (active : List String) : Option String :=
  (active.find? fun ssid => ssid ∈ watcher.preferredSsids).or active.head?

/-- `get_current_ssid`: the watcher afterwards; the answer is its cached SSID. -/
def NetworkWatcher.getCurrentSsid (watcher : NetworkWatcher) (nmcli : CommandOutcome) :
    NetworkWatcher :=
  match nmcli with
  | .exited 0 stdout =>
      { watcher with cachedSsid := watcher.selectSsid (parseActiveSsids stdout) }
  | .exited _ _ | .notFound | .failed => watcher

/-! ## Profiles -/

inductive ClientMode where
  | thin
  | thick
  | jdbc
  deriving DecidableEq, Repr

structure Station where
  staNo1 : String
  staNo2 : String
  staNo3 : String
  deriving DecidableEq, Repr

/-- The parts of a profile the senders and the adapter read. -/
structure Profile where
  clientMode : ClientMode
  station : Option Station := none
  deriving DecidableEq, Repr

/-- `station_for_profile` -/
def stationForProfile (profile : Profile) (deviceStation : Station) : Station :=
  profile.station.getD deviceStation

inductive UnknownSsidPolicy where
  | hold
  | useLast
  | drop
  deriving DecidableEq, Repr

inductive ResolverDecision where
  | send (profileName : String)
  | hold
  | drop
  deriving DecidableEq, Repr

structure ProfileResolver where
  profiles : List (String × Profile)
  unknownPolicy : UnknownSsidPolicy
  lastKnown : Option String := none
  deriving DecidableEq, Repr

namespace ProfileResolver

/-- `profile_name in self._profiles` -/
def knows (resolver : ProfileResolver) (ssid : String) : Bool :=
  (resolver.profiles.lookup ssid).isSome

/-- `peek` -/
def peek (resolver : ProfileResolver) (ssid : Option String) : ResolverDecision :=
  match ssid.filter fun ssid => ssid ≠ "" ∧ resolver.knows ssid with
  | some known => .send known
  | none =>
      match resolver.unknownPolicy, resolver.lastKnown.filter (· ≠ "") with
      | .useLast, some last => .send last
      | .drop, _ => .drop
      | _, _ => .hold

/-- `resolve`: as `peek`, and a known SSID is remembered. -/
def resolve (resolver : ProfileResolver) (ssid : Option String) :
    ProfileResolver × ResolverDecision :=
  match ssid.filter fun ssid => ssid ≠ "" ∧ resolver.knows ssid with
  | some known => ({ resolver with lastKnown := some known }, .send known)
  | none => (resolver, resolver.peek ssid)

/-- `get` -/
def get (resolver : ProfileResolver) (profileName : String) : Option Profile :=
  resolver.profiles.lookup profileName

end ProfileResolver

/-! ## The Oracle adapter -/

/-- What a sender gets from its Oracle dependency for one MERGE: the reported
result, and beside it whether Oracle kept the row. -/
structure MergeReply where
  result : MergeResult
  durable : Bool
  deriving DecidableEq, Repr

/-- How either back end answers one call. -/
structure BackendOutcome where
  connection : ConnectionOutcome
  http : HttpOutcome
  deriving DecidableEq, Repr

/-- Whether Oracle kept the row. -/
def BackendOutcome.durable (backend : BackendOutcome) (profile : Profile) : Bool :=
  match profile.clientMode with
  | .jdbc => backend.http.durable
  | .thin | .thick => backend.connection.durable

/-- The answer names an ORA code. -/
def BackendOutcome.CarriesCode (backend : BackendOutcome) (profile : Profile) : Prop :=
  match profile.clientMode with
  | .jdbc => backend.http.CarriesCode
  | .thin | .thick => backend.connection.CarriesCode

/-- `_OracleAdapter.execute_merge_for_profile`: the back end is chosen by the
profile's client mode. -/
def executeMergeForProfile (profile : Profile) (backend : BackendOutcome) : MergeReply where
  result :=
    match profile.clientMode with
    | .jdbc => executeMergeViaJdbc backend.http
    | .thin | .thick => openAndMerge backend.connection
  durable := backend.durable profile

theorem executeMergeForProfile_oraCode_isSome_iff (profile : Profile)
    (backend : BackendOutcome) :
    (executeMergeForProfile profile backend).result.oraCode.isSome ↔
      backend.CarriesCode profile := by
  unfold executeMergeForProfile BackendOutcome.CarriesCode
  cases profile.clientMode with
  | jdbc => exact executeMergeViaJdbc_oraCode_isSome_iff backend.http
  | thin => exact openAndMerge_oraCode_isSome_iff backend.connection
  | thick => exact openAndMerge_oraCode_isSome_iff backend.connection

end PresenceLogger.Bridge
