import PresenceLogger.Library.Dialogue
import PresenceLogger.Library.Text

/-!
# The switch of a child's network

The script that `take_child` leaves on a child runs on its own there.  It brings the new
profile up and only then keeps the others from connecting by themselves, so that a child whose
new network fails comes back to the old one, wherever the script is cut off.
-/

namespace PresenceLogger.Fleet.WifiSwitch

open Library Library.Text

/-- The commands of the script. -/
inductive Nmcli where
  | showActive
  | showAll
  | up (name : List Char)
  | autoconnectOff (name : List Char)

/-- What they print, or whether they succeed. -/
abbrev Answer : Nmcli → Type
  | .showActive | .showAll => List Char
  | .up _ | .autoconnectOff _ => Bool

abbrev Script := Dialogue Nmcli Answer Empty

def show_ (active : Bool) : Script (List Char) :=
  if active then Dialogue.request Nmcli.showActive else Dialogue.request Nmcli.showAll

def up (name : List Char) : Script Bool := Dialogue.request (Nmcli.up name)

def autoconnectOff (name : List Char) : Script Bool :=
  Dialogue.request (Nmcli.autoconnectOff name)

def join : List Char := "presence-hub-join".toList

def wifiTypes : List (List Char) := ["802-11-wireless".toList, "wifi".toList]

/-- The loops' `while IFS=: read -r n t`, with what the two tests let through. -/
def otherWifis (output : List Char) : List (List Char) :=
  (output.splitOn '\n').dropLast.filterMap fun line =>
    let (name, type) := partition ':' line
    if wifiTypes.contains type ∧ name ≠ join then some name else none

/-- `echo "$n"`, in a command substitution. -/
def echoed (name : List Char) : List Char :=
  match name with
  | '-' :: options => if options ≠ [] ∧ options.all ['n', 'e', 'E'].contains then [] else name
  | _ => name

/-- `prev` -/
def previous (active : List Char) : List Char :=
  match otherWifis active with
  | [] => []
  | name :: _ => echoed name

/-- The loop over the other profiles. -/
def turnOff : List (List Char) → Script Unit
  | [] => return
  | name :: names => do
      let _ ← autoconnectOff name
      turnOff names

inductive Ending where
  | ok
  | failed
  deriving DecidableEq

/-- `SWITCH`, up to the removal of the script's file. -/
def switch : Script Ending := do
  let active ← show_ true
  let prev := previous active
  if ← up join then do
    let all ← show_ false
    turnOff (otherWifis all)
    return .ok
  else do
    let _ ← autoconnectOff join
    if prev = [] then return .failed
    else do
      let _ ← up prev
      return .failed

/-! ## NetworkManager -/

/-- Whether the new profile has been up, and which profiles connect by themselves. -/
structure Network where
  joined : Bool
  autoconnect : List Char → Bool

/-- Any command may fail, and one that fails may have done its work all the same. -/
def manager : Environment Nmcli Answer Network where
  answers before question answer after :=
    match question with
    | .showActive | .showAll => after = before
    | .up name =>
        after.autoconnect = before.autoconnect ∧
          (before.joined = true ∨ name = join ∧ answer = true → after.joined = true)
    | .autoconnectOff name =>
        after.joined = before.joined ∧
          (∀ other ≠ name, after.autoconnect other = before.autoconnect other) ∧
          (answer = true → after.autoconnect name = false)

/-- The new network came up and stays, or the others connect as they did. -/
def Reachable (first now : Network) : Prop :=
  now.joined = true ∧ now.autoconnect join = first.autoconnect join ∨
    ∀ name ≠ join, now.autoconnect name = first.autoconnect name

/-- What the script's last line says. -/
def Ends (first : Network) (outcome : Except Empty Ending) (now : Network) : Prop :=
  match outcome with
  | .ok .ok => now.joined = true ∧ now.autoconnect join = first.autoconnect join
  | .ok .failed => ∀ name ≠ join, now.autoconnect name = first.autoconnect name
  | .error _ => True

theorem ne_join_of_mem {name output : List Char} (among : name ∈ otherWifis output) :
    name ≠ join := by
  obtain ⟨line, -, isName⟩ := List.mem_filterMap.mp among
  dsimp only at isName
  split at isName
  next tests =>
    cases isName
    exact tests.2
  · cases isName

section Runs

variable {first now : Network}

/-- Once the new network is up, its profile stays as it is. -/
theorem safe_turnOff {names : List (List Char)} (others : ∀ name ∈ names, name ≠ join)
    (joined : now.joined = true) (kept : now.autoconnect join = first.autoconnect join) :
    manager.Safe (Reachable first)
      (fun _ now => now.joined = true ∧ now.autoconnect join = first.autoconnect join)
      (turnOff names) now := by
  induction names generalizing now with
  | nil => exact ⟨.inl ⟨joined, kept⟩, joined, kept⟩
  | cons name names ih =>
      obtain ⟨isOther, others⟩ := List.forall_mem_cons.mp others
      refine Environment.safe_bind.mpr (Environment.safe_request.mpr
        ⟨.inl ⟨joined, kept⟩, fun done after answered => ?_⟩)
      obtain ⟨same, untouched, -⟩ := answered
      have still : after.joined = true := same.trans joined
      have profile := (untouched join (Ne.symm isOther)).trans kept
      exact ⟨.inl ⟨still, profile⟩, ih others still profile⟩

theorem safe_switch : manager.Safe (Reachable first) (Ends first) switch first := by
  have unchanged : Reachable first first := .inr fun _ _ => rfl
  refine Environment.safe_bind.mpr (Environment.safe_request.mpr
    ⟨unchanged, fun active after same => ?_⟩)
  cases (same : after = first)
  refine ⟨unchanged, Environment.safe_bind.mpr (Environment.safe_request.mpr
    ⟨unchanged, fun isUp now came => ?_⟩)⟩
  obtain ⟨profiles, joins⟩ := came
  have others (name : List Char) : now.autoconnect name = first.autoconnect name :=
    congrFun profiles name
  have kept : Reachable first now := .inr fun name _ => others name
  refine ⟨kept, ?_⟩
  cases isUp with
  | true =>
      have joined := joins (.inr ⟨rfl, rfl⟩)
      refine Environment.safe_bind.mpr (Environment.safe_request.mpr
        ⟨kept, fun all after same => ?_⟩)
      cases (same : after = now)
      refine ⟨kept, Environment.safe_bind.mpr ?_⟩
      refine (safe_turnOff (fun name => ne_join_of_mem) joined (others join)).mono
        (fun _ kept => kept) fun outcome after reachable stays => ?_
      cases outcome with
      | error error => trivial
      | ok done => exact ⟨reachable, stays⟩
  | false =>
      refine Environment.safe_bind.mpr (Environment.safe_request.mpr
        ⟨kept, fun done after answered => ?_⟩)
      have untouched (name : List Char) (other : name ≠ join) :
          after.autoconnect name = first.autoconnect name :=
        (answered.2.1 name other).trans (others name)
      have still : Reachable first after := .inr untouched
      refine ⟨still, ?_⟩
      split
      · exact ⟨still, untouched⟩
      · refine Environment.safe_bind.mpr (Environment.safe_request.mpr
          ⟨still, fun back last answered => ?_⟩)
        have same (name : List Char) : last.autoconnect name = after.autoconnect name :=
          congrFun answered.1 name
        have end_ (name : List Char) (other : name ≠ join) :
            last.autoconnect name = first.autoconnect name :=
          (same name).trans (untouched name other)
        exact ⟨.inr end_, .inr end_, end_⟩

end Runs

/-- Wherever the script is cut off, and whatever fails before, the new network came up and its
profile still connects, or every other profile connects as it did. -/
theorem switch_reachable {first now : Network} {rest : Script Ending}
    (reaches : manager.Reaches (first, switch) (now, rest)) :
    Reachable first now ∧ ∀ ending, rest = .done ending → Ends first (.ok ending) now := by
  have reached := Environment.Safe.reaches safe_switch reaches
  refine ⟨reached.now, fun ending ends => ?_⟩
  subst ends
  exact reached.2

/-- The manager of a child whose new network does or does not come up. -/
def answering (comesUp : Bool) (active listed : List Char) (network : Network) :
    (question : Nmcli) → Answer question × Network
  | .showActive => (active, network)
  | .showAll => (listed, network)
  | .up name =>
      if name = join then (comesUp, { network with joined := network.joined || comesUp })
      else (true, network)
  | .autoconnectOff name =>
      (true, { network with
        autoconnect := fun other => if other = name then false else network.autoconnect other })

theorem manager_answering (comesUp : Bool) (active listed : List Char) (network : Network)
    (question : Nmcli) :
    manager.answers network question (answering comesUp active listed network question).1
      (answering comesUp active listed network question).2 := by
  cases question with
  | showActive => rfl
  | showAll => rfl
  | up name =>
      rw [answering]
      split
      · exact ⟨rfl, fun holds => by rcases holds with was | ⟨-, comes⟩ <;> simp_all⟩
      next other => exact ⟨rfl, fun holds => holds.resolve_right fun joins => other joins.1⟩
  | autoconnectOff name => exact ⟨rfl, fun other apart => if_neg apart, fun _ => if_pos rfl⟩

def atHome : Network where
  joined := false
  autoconnect _ := true

def homeActive : List Char := "home:802-11-wireless\n".toList

/-- The new network does not come up. -/
def failedSwitch : Network × Script Ending :=
  Environment.play (answering false homeActive []) 9 (atHome, switch)

theorem switch_reachable_failed : failedSwitch.1.autoconnect "home".toList = true := by
  have reaches : manager.Reaches (atHome, switch) (failedSwitch.1, .done .failed) :=
    Environment.reaches_play id (manager_answering false homeActive []) 9 (atHome, switch)
  exact (switch_reachable reaches).2 .failed rfl "home".toList (by decide)

/-! ## Which profiles are turned off -/

structure Profile where
  name : List Char
  type : List Char
  deriving DecidableEq

/-- The profiles of a child.  A command finds one by its name, and a listing has a line for
each. -/
structure Profiles where
  list : List Profile
  distinct : (list.map Profile.name).Nodup
  oneLine : ∀ profile ∈ list, '\n' ∉ profile.name ∧ '\n' ∉ profile.type

/-- A field of `nmcli -t`. -/
def escape (field : List Char) : List Char :=
  field.flatMap fun char => if char = ':' ∨ char = '\\' then ['\\', char] else [char]

/-- `nmcli -t -f NAME,TYPE connection show` -/
def terse (profiles : List Profile) : List Char :=
  (profiles.map fun profile => escape profile.name ++ ':' :: profile.type ++ ['\n']).flatten

/-- The manager of these profiles, where every command does what it says. -/
def healthy (profiles : List Profile) : Environment Nmcli Answer Network where
  answers before question answer after :=
    manager.answers before question answer after ∧
      match question, answer with
      | .showAll, output => output = terse profiles
      | .autoconnectOff _, done => done = true
      | .showActive, _ | .up _, _ => True

section Names

variable {profiles : List Profile}

theorem dropLast_splitOn {lines : List (List Char)} (oneLine : ∀ line ∈ lines, '\n' ∉ line) :
    (((lines.map fun line => line ++ ['\n']).flatten).splitOn '\n').dropLast = lines := by
  have split : ((lines.map fun line => line ++ ['\n']).flatten).splitOn '\n' = lines ++ [[]] := by
    induction lines with
    | nil => rfl
    | cons line lines ih =>
        obtain ⟨here, others⟩ := List.forall_mem_cons.mp oneLine
        rw [List.map_cons, List.flatten_cons, List.append_assoc, List.singleton_append,
          List.splitOn_append_cons_self_of_not_mem here, ih others, List.cons_append]
  rw [split, List.dropLast_concat]

theorem escape_plain {name : List Char} (plain : ':' ∉ name ∧ '\\' ∉ name) :
    escape name = name := by
  induction name with
  | nil => rfl
  | cons char name ih =>
      simp only [List.mem_cons, not_or] at plain
      rw [escape, List.flatMap_cons, ← escape, ih ⟨plain.1.2, plain.2.2⟩,
        if_neg (not_or.mpr ⟨Ne.symm plain.1.1, Ne.symm plain.2.1⟩), List.singleton_append]

theorem noFeed_escape {name : List Char} (noFeed : '\n' ∉ name) : '\n' ∉ escape name := by
  intro among
  obtain ⟨char, inName, written⟩ := List.mem_flatMap.mp among
  split at written
  next special =>
    rcases special with rfl | rfl <;> exact absurd written (by decide)
  · exact noFeed (List.mem_singleton.mp written ▸ inName)

/-- The script's reading of what is listed. -/
theorem otherWifis_terse (oneLine : ∀ profile ∈ profiles,
      '\n' ∉ profile.name ∧ '\n' ∉ profile.type) :
    otherWifis (terse profiles) = profiles.filterMap fun profile =>
      let (name, type) := partition ':' (escape profile.name ++ ':' :: profile.type)
      if wifiTypes.contains type ∧ name ≠ join then some name else none := by
  have lines : terse profiles = ((profiles.map fun profile =>
      escape profile.name ++ ':' :: profile.type).map fun line => line ++ ['\n']).flatten := by
    rw [terse, List.map_map]
    rfl
  rw [otherWifis, lines, dropLast_splitOn, List.filterMap_map]
  · rfl
  · intro line among
    obtain ⟨profile, inProfiles, rfl⟩ := List.mem_map.mp among
    obtain ⟨name, type⟩ := oneLine profile inProfiles
    have apart : '\n' ≠ ':' := by decide
    simp only [List.mem_append, List.mem_cons, not_or]
    exact ⟨noFeed_escape name, apart, type⟩

theorem mem_otherWifis_plain (oneLine : ∀ profile ∈ profiles,
      '\n' ∉ profile.name ∧ '\n' ∉ profile.type) {profile : Profile} (among : profile ∈ profiles)
    (isWifi : profile.type ∈ wifiTypes) (other : profile.name ≠ join)
    (plain : ':' ∉ profile.name ∧ '\\' ∉ profile.name) :
    profile.name ∈ otherWifis (terse profiles) := by
  rw [otherWifis_terse oneLine, List.mem_filterMap]
  refine ⟨profile, among, ?_⟩
  rw [escape_plain plain, partition_append plain.1]
  simp [isWifi, other]

/-- A name that is read has no colon. -/
theorem noColon_of_mem {name output : List Char} (among : name ∈ otherWifis output) :
    ':' ∉ name := by
  obtain ⟨line, -, isName⟩ := List.mem_filterMap.mp among
  have whole : name = line.takeWhile (· != ':') := by
    exact (Option.some.inj (Option.ite_none_right_eq_some.mp isName).2).symm
  intro colon
  rw [whole] at colon
  have test := List.mem_takeWhile_imp colon
  exact absurd test (by decide)

end Names

section Healthy

variable {profiles : List Profile} {now : Network}

/-- The loop turns off what it is given, and nothing else. -/
theorem safe_turnOff_healthy (names : List (List Char)) (before : Network) :
    (healthy profiles).Safe (fun _ => True) (fun _ now =>
        (∀ name ∈ names, now.autoconnect name = false) ∧
          ∀ name ∉ names, now.autoconnect name = before.autoconnect name)
      (turnOff names) before := by
  induction names generalizing before with
  | nil => exact ⟨trivial, fun name among => absurd among List.not_mem_nil, fun _ _ => rfl⟩
  | cons name names ih =>
      refine Environment.safe_bind.mpr (Environment.safe_request.mpr
        ⟨trivial, fun done after answered => ⟨trivial, ?_⟩⟩)
      obtain ⟨⟨-, untouched, turned⟩, isDone⟩ := answered
      have off := turned isDone
      refine (ih after).mono (fun _ kept => kept) fun outcome last _ ends => ⟨?_, ?_⟩
      · refine List.forall_mem_cons.mpr ⟨?_, ends.1⟩
        by_cases again : name ∈ names
        · exact ends.1 name again
        · exact (ends.2 name again).trans off
      · intro other absent
        rw [List.mem_cons, not_or] at absent
        exact (ends.2 other absent.2).trans (untouched other absent.1)

theorem safe_switch_healthy (first : Network) :
    (healthy profiles).Safe (fun _ => True) (fun outcome now => outcome = .ok .ok →
        (∀ name ∈ otherWifis (terse profiles), now.autoconnect name = false) ∧
          ∀ name ∉ otherWifis (terse profiles), now.autoconnect name = first.autoconnect name)
      switch first := by
  refine Environment.safe_bind.mpr (Environment.safe_request.mpr
    ⟨trivial, fun active after same => ⟨trivial, ?_⟩⟩)
  cases (same.1 : after = first)
  refine Environment.safe_bind.mpr (Environment.safe_request.mpr
    ⟨trivial, fun isUp now came => ⟨trivial, ?_⟩⟩)
  have profilesKept : now.autoconnect = first.autoconnect := came.1.1
  cases isUp with
  | true =>
      refine Environment.safe_bind.mpr (Environment.safe_request.mpr
        ⟨trivial, fun all after answered => ⟨trivial, ?_⟩⟩)
      obtain ⟨same, isAll⟩ := answered
      cases (same : after = now)
      cases (isAll : all = terse profiles)
      refine Environment.safe_bind.mpr ((safe_turnOff_healthy _ _).mono
        (fun _ kept => kept) fun outcome last _ ends => ?_)
      cases outcome with
      | error error => exact nofun
      | ok done =>
          refine ⟨trivial, fun _ => ⟨ends.1, fun name absent => ?_⟩⟩
          exact (ends.2 name absent).trans (congrFun profilesKept name)
  | false =>
      refine Environment.safe_bind.mpr (Environment.safe_request.mpr
        ⟨trivial, fun done after _ => ⟨trivial, ?_⟩⟩)
      split
      · exact ⟨trivial, nofun⟩
      · exact Environment.safe_bind.mpr (Environment.safe_request.mpr
          ⟨trivial, fun _ _ _ => ⟨trivial, trivial, nofun⟩⟩)

end Healthy

/-- Where every command does what it says, a switch that ends well leaves no other network that
connects by itself, but for those whose names have a colon, which stay as they are. -/
theorem switch_ok {profiles : Profiles} {first now : Network}
    (reaches : (healthy profiles.list).Reaches (first, switch) (now, .done .ok)) :
    (∀ profile ∈ profiles.list, profile.type ∈ wifiTypes → profile.name ≠ join →
        ':' ∉ profile.name → '\\' ∉ profile.name → now.autoconnect profile.name = false) ∧
      now.autoconnect join = first.autoconnect join ∧
      ∀ name, ':' ∈ name → now.autoconnect name = first.autoconnect name := by
  obtain ⟨off, others⟩ := ((safe_switch_healthy first).reaches reaches).2 rfl
  refine ⟨fun profile among isWifi other noColon noSlash => ?_, ?_, fun name colon => ?_⟩
  · exact off profile.name
      (mem_otherWifis_plain profiles.oneLine among isWifi other ⟨noColon, noSlash⟩)
  · exact others join fun among => ne_join_of_mem among rfl
  · exact others name fun among => noColon_of_mem among colon

/-- Two networks, and the new one. -/
def cafes : Profiles where
  list := [
    ⟨"home".toList, "802-11-wireless".toList⟩,
    ⟨"cafe: 2".toList, "802-11-wireless".toList⟩,
    ⟨join, "802-11-wireless".toList⟩]
  distinct := by decide
  oneLine := by decide

theorem healthy_answering (network : Network) (question : Nmcli) :
    (healthy cafes.list).answers network question
      (answering true homeActive (terse cafes.list) network question).1
      (answering true homeActive (terse cafes.list) network question).2 := by
  refine ⟨manager_answering true homeActive (terse cafes.list) network question, ?_⟩
  cases question with
  | showActive => trivial
  | showAll => rfl
  | up name => trivial
  | autoconnectOff name => rfl

def goodSwitch : Network × Script Ending :=
  Environment.play (answering true homeActive (terse cafes.list)) 9 (atHome, switch)

theorem switch_ok_cafes : goodSwitch.1.autoconnect "home".toList = false ∧
    goodSwitch.1.autoconnect "cafe: 2".toList = true := by
  have reaches : (healthy cafes.list).Reaches (atHome, switch) (goodSwitch.1, .done .ok) :=
    Environment.reaches_play id healthy_answering 9 (atHome, switch)
  obtain ⟨off, -, colons⟩ := switch_ok reaches
  exact ⟨off ⟨"home".toList, "802-11-wireless".toList⟩ (by decide) (by decide) (by decide)
    (by decide) (by decide), colons "cafe: 2".toList (by decide)⟩

end PresenceLogger.Fleet.WifiSwitch
