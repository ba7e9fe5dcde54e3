import PresenceLogger.Fleet.Discovery
import PresenceLogger.Fleet.Hostname

/-!
# The registration wizard

The page offers the rows that `classify` calls new.  `run_step` is called with an address
and performs a step on the device there, after a guard of its own.
-/

namespace PresenceLogger.Fleet

open Library Library.Text

/-! ## The inventory -/

/-- What the server finds when a request comes: the inventory file, what `getent` and
`ssh -G` print for an entry, the ARP table and the recorded MACs. -/
structure Network where
  inventory : Option (List Char)
  getent : String → List Char
  sshConfig : String → List Char
  arp : List Char
  knownMacs : KnownMacs

/-- `_read_inventory` -/
def readInventory (file : Option (List Char)) : List String :=
  match file with
  | none => []
  | some text =>
      (splitLines text).filterMap fun line =>
        match strip (partition '#' line).1 with
        | [] => none
        | entry => some (.ofList entry)

/-- `text.split()` -/
def words (text : List Char) : List (List Char) := (text.splitOnP isSpace).filter (· ≠ [])

/-- `_IPV4_RE.fullmatch(text)` -/
def isIpv4 (text : List Char) : Bool :=
  match matchIpv4 text with
  | some (_, []) => true
  | _ => false

/-- The address in the answer of `ssh -G`; `none` for an `IndexError`. -/
def sshHostname (answer : List Char) : Option (Option String) :=
  match (splitLines answer).find? fun line => "hostname ".toList.isPrefixOf line with
  | none => some none
  | some line =>
      match (line.drop "hostname".length).dropWhile isSpace with
      | [] => none
      | name => some (if isIpv4 (strip name) then some (.ofList (strip name)) else none)

def resolveEntry (network : Network) (entry : String) : Option (Option String) :=
  match words (network.getent entry) with
  | first :: _ => if isIpv4 first then some (some (.ofList first)) else
      sshHostname (network.sshConfig entry)
  | [] => sshHostname (network.sshConfig entry)

/-- `resolve_inventory_ips`; `none` for an `IndexError`. -/
def resolveInventoryIps (network : Network) (entries : List String) : Option Inventory :=
  (entries.mapM fun entry => (resolveEntry network entry).map fun ip => (entry, ip)).map
    Dict.ofPairs

/-- The rows that the page is made of. -/
def Network.rows (network : Network) (inventoryIps : Inventory) : List FleetRow :=
  classify (parseNeigh network.arp) inventoryIps network.knownMacs

/-! ## Steps -/

/-- What `run_step` does on the devices and on the server's files. -/
inductive Operation where
  | stopPublisher (ip : Json)
  | blankStaNo (ip : Json)
  /-- Its own check of the name is that of `validate_hostname`. -/
  | renameAndReboot (ip : Json) (newHostname : String)
  | restartMdns (targets : List Json)
  | registerHostKey (hostname : String)
  | addToInventory (entry : String)

inductive Refusal where
  | hostname (error : HostnameError)
  | registered
  | unknownStep (step : Json)

inductive StepReply where
  | refused (refusal : Refusal)
  | performed (operation : Operation)

/-- `data.get(key) or ""` -/
def fieldOrEmpty (req : Json) (key : String) : Except PyError Json := do
  let value ← req.get key
  return if value.truthy then value else .str ""

/-- `data in texts`, for a set of strings. -/
def memTexts (data : Json) (texts : List String) : Except PyError Bool :=
  match data with
  | .arr _ | .obj _ => .error .typeError
  | data => .ok (texts.any data.isText)

/-- The addresses that entries resolve to. -/
def resolvedIps (inventoryIps : Inventory) : List String :=
  inventoryIps.rows.filterMap fun item => item.2.filter (· ≠ "")

/-- The branches of `run_step` after its guards; where a name is used it has been validated. -/
def perform (inventoryIps : Inventory) (step ip : Json) (name : String) : StepReply :=
  match step with
  | .str "stop" => .performed (.stopPublisher ip)
  | .str "blank" => .performed (.blankStaNo ip)
  | .str "rename" => .performed (.renameAndReboot ip name)
  | .str "mdns" =>
      .performed (.restartMdns ((resolvedIps inventoryIps).map .str ++
        if ip.truthy then [ip] else []))
  | .str "hostkey" => .performed (.registerHostKey (name ++ ".local"))
  | .str "inventory" => .performed (.addToInventory (name ++ ".local"))
  | step => .refused (.unknownStep step)

def needsHostname (step : Json) : Bool := ["rename", "hostkey", "inventory"].any step.isText

/-- The first guard of `run_step`. -/
def checkHostname (step hostname : Json) (entries : List String) :
    Except PyError (Option HostnameError) :=
  if needsHostname step then validateHostname hostname entries else .ok none

/-- A validated name is a text. -/
def nameOf : Json → String
  | .str name => name
  | _ => ""

/-- `run_step`, up to the reply to what was performed; `none` where an exception ends the
request. -/
def runStep (network : Network) (req : Json) : Option StepReply := do
  let step ← (req.get "step").toOption
  let ip ← (fieldOrEmpty req "ip").toOption
  let hostname ← (fieldOrEmpty req "hostname").toOption
  let entries := readInventory network.inventory
  match ← (checkHostname step hostname entries).toOption with
  | some error => return .refused (.hostname error)
  | none =>
      let inventoryIps ← resolveInventoryIps network entries
      if ← (memTexts ip (resolvedIps inventoryIps)).toOption then return .refused .registered
      else return perform inventoryIps step ip (nameOf hostname)

/-! ## Devices that are taken over -/

/-- The address at which an operation stops, blanks or renames a device. -/
def Operation.takenOver : Operation → Option Json
  | .stopPublisher ip | .blankStaNo ip | .renameAndReboot ip _ => some ip
  | _ => none

/-- A device is taken over only if the page offers it as new. -/
def TakesOnlyNew (network : Network) (req : Json) : Prop :=
  ∀ operation ip, runStep network req = some (.performed operation) →
    operation.takenOver = some ip →
    ∃ inventoryIps, resolveInventoryIps network (readInventory network.inventory) =
        some inventoryIps ∧
      ∃ row ∈ network.rows inventoryIps, row.kind = .new ∧
        ∃ text, ip = .str text ∧ row.ip = some text

/-! ## The request and the network -/

/-- The request asks to stop, blank or rename the device at `ip`, with a name that is valid
where one is needed, and nothing in it or in the network raises. -/
structure Asks (network : Network) (req ip : Json) : Prop where
  step : ∃ name ∈ ["stop", "blank", "rename"], req.get "step" = .ok (.str name) ∧
    ∃ hostname, fieldOrEmpty req "hostname" = .ok hostname ∧
      (name = "rename" → validateHostname hostname (readInventory network.inventory) = .ok none)
  address : fieldOrEmpty req "ip" = .ok ip
  hashable : (∀ items, ip ≠ .arr items) ∧ ∀ members, ip ≠ .obj members
  resolves : ∀ entry ∈ readInventory network.inventory, (resolveEntry network entry).isSome

/-- An entry of the inventory resolves to this address. -/
def Registered (network : Network) (ip : Json) : Prop :=
  ∃ entry ∈ readInventory network.inventory, ∃ address,
    resolveEntry network entry = some (some address) ∧ ip = .str address

/-- The last device that ARP lists with this IP. -/
def Network.deviceAt (network : Network) (ip : String) : Option Neighbor :=
  ((parseNeigh network.arp).filter fun device => device.ip = ip).getLast?

/-- The last device that ARP lists with this MAC. -/
def Network.deviceWith (network : Network) (mac : String) : Option Neighbor :=
  ((parseNeigh network.arp).filter fun device => device.mac = mac).getLast?

/-- The device of an entry: the one at its address, unless another MAC is recorded for the
entry, and otherwise the one that has the recorded MAC. -/
inductive StandsFor (network : Network) (entry : String) (device : Neighbor) : Prop where
  | atAddress (address : String) (resolves : resolveEntry network entry = some (some address))
      (isDevice : network.deviceAt address = some device)
      (trusted : ∀ mac, network.knownMacs.find entry = some mac → device.mac = mac)
  | elsewhere (mac : String) (recorded : network.knownMacs.find entry = some mac)
      (stranger : ∀ address other, resolveEntry network entry = some (some address) →
        network.deviceAt address = some other → other.mac ≠ mac)
      (isDevice : network.deviceWith mac = some device)

/-- ARP lists a device at the address that stands for no entry, and every entry has its
device. -/
structure NewAt (network : Network) (ip : Json) : Prop where
  complete : ∀ entry ∈ readInventory network.inventory, ∃ device, StandsFor network entry device
  listed : ∃ device ∈ parseNeigh network.arp, ip = .str device.ip ∧
    ∀ entry ∈ readInventory network.inventory, ∀ claimant, StandsFor network entry claimant →
      claimant.ip ≠ device.ip

section

variable {network : Network} {req ip : Json} {inventoryIps : Inventory}

theorem ne_nil_of_isIpv4 {text : List Char} (address : isIpv4 text = true) : text ≠ [] := by
  rintro rfl
  exact absurd address (by decide)

/-- No entry resolves to the empty text. -/
theorem resolveEntry_ne_empty {entry : String} :
    resolveEntry network entry ≠ some (some "") := by
  have nonempty {text : List Char} (address : isIpv4 text = true) : String.ofList text ≠ "" := by
    intro same
    exact ne_nil_of_isIpv4 address (String.ofList_injective same)
  have viaSsh : sshHostname (network.sshConfig entry) ≠ some (some "") := by
    intro found
    unfold sshHostname at found
    split at found
    · cases found
    · split at found
      · cases found
      · split at found
        next address => exact nonempty address (Option.some.inj (Option.some.inj found))
        · cases found
  intro found
  unfold resolveEntry at found
  split at found
  · split at found
    next address => exact nonempty address (Option.some.inj (Option.some.inj found))
    · exact viaSsh found
  · exact viaSsh found

/-- The pairs that the resolution of the inventory makes. -/
theorem mem_mapM_resolveEntry {entries : List String}
    {pairs : List (String × Option String)}
    (resolved : (entries.mapM fun entry =>
      (resolveEntry network entry).map fun ip => (entry, ip)) = some pairs)
    (entry : String) (ip : Option String) :
    (entry, ip) ∈ pairs ↔ entry ∈ entries ∧ resolveEntry network entry = some ip := by
  induction entries generalizing pairs with
  | nil =>
      cases resolved
      simp
  | cons other entries ih =>
      simp only [List.mapM_cons, Option.bind_eq_bind, Option.bind_eq_some_iff,
        Option.map_eq_some_iff] at resolved
      obtain ⟨_, ⟨address, isAddress, rfl⟩, rest, isRest, made⟩ := resolved
      cases made
      rw [List.mem_cons, List.mem_cons, ih isRest, Prod.mk.injEq]
      constructor
      · rintro (⟨rfl, rfl⟩ | ⟨member, isIp⟩)
        · exact ⟨.inl rfl, isAddress⟩
        · exact ⟨.inr member, isIp⟩
      · rintro ⟨rfl | member, isIp⟩
        · exact .inl ⟨rfl, Option.some.inj (isIp.symm.trans isAddress)⟩
        · exact .inr ⟨member, isIp⟩

/-- What the resolution of the inventory finds. -/
theorem find_resolveInventoryIps {entries : List String}
    (resolved : resolveInventoryIps network entries = some inventoryIps) (entry : String)
    (ip : Option String) :
    inventoryIps.find entry = some ip ↔
      entry ∈ entries ∧ resolveEntry network entry = some ip := by
  obtain ⟨pairs, made, rfl⟩ := Option.map_eq_some_iff.mp resolved
  have listed := mem_mapM_resolveEntry made
  rw [← listed]
  constructor
  · exact Dict.mem_of_find_ofPairs
  · intro member
    obtain ⟨other, found⟩ := Dict.exists_find_ofPairs member
    have same := ((listed entry ip).mp member).2.symm.trans
      ((listed entry other).mp (Dict.mem_of_find_ofPairs found)).2
    rw [found, Option.some.inj same]

theorem isSome_resolveInventoryIps {entries : List String} :
    (resolveInventoryIps network entries).isSome ↔
      ∀ entry ∈ entries, (resolveEntry network entry).isSome := by
  rw [resolveInventoryIps, Option.isSome_map]
  induction entries with
  | nil => simp
  | cons entry entries ih =>
      rw [List.forall_mem_cons, ← ih, List.mapM_cons]
      cases resolveEntry network entry with
      | none => simp
      | some ip => cases entries.mapM fun entry =>
          (resolveEntry network entry).map fun ip => (entry, ip) <;> simp

theorem mem_resolvedIps {text : String} :
    text ∈ resolvedIps inventoryIps ↔
      text ≠ "" ∧ ∃ entry, inventoryIps.find entry = some (some text) := by
  simp only [resolvedIps, List.mem_filterMap, Option.filter_eq_some_iff, Prod.exists,
    Dict.find_eq_some_iff, ne_eq, decide_eq_true_eq]
  constructor
  · rintro ⟨entry, _, listed, rfl, nonempty⟩
    exact ⟨nonempty, entry, listed⟩
  · rintro ⟨nonempty, entry, listed⟩
    exact ⟨entry, _, listed, rfl, nonempty⟩

theorem memTexts_eq_false {texts : List String} :
    memTexts ip texts = .ok false ↔
      ((∀ items, ip ≠ .arr items) ∧ ∀ members, ip ≠ .obj members) ∧
        ∀ text ∈ texts, ip ≠ .str text := by
  cases ip <;> simp [memTexts, Json.isText]

/-- An address that entries resolve to is one that the guard refuses. -/
theorem forall_resolvedIps_iff
    (resolved : resolveInventoryIps network (readInventory network.inventory) =
      some inventoryIps) :
    (∀ text ∈ resolvedIps inventoryIps, ip ≠ .str text) ↔ ¬Registered network ip := by
  simp only [mem_resolvedIps, find_resolveInventoryIps resolved]
  constructor
  · rintro apart ⟨entry, member, address, isAddress, rfl⟩
    refine apart address ⟨?_, entry, member, isAddress⟩ rfl
    rintro rfl
    exact resolveEntry_ne_empty isAddress
  · rintro apart text ⟨-, entry, member, isAddress⟩ rfl
    exact apart ⟨entry, member, text, isAddress, rfl⟩

theorem locate_eq_some_iff {entry : String} {ip : Option String} {device : Neighbor}
    (resolved : resolveEntry network entry = some ip) :
    locate (parseNeigh network.arp) (network.knownMacs.find entry) ip = some device ↔
      StandsFor network entry device := by
  have candidate : ((ip.filter (· ≠ "")).bind
      (Dict.find (Dict.index Neighbor.ip (parseNeigh network.arp)))) =
        ip.bind network.deviceAt := by
    cases ip with
    | none => rfl
    | some address =>
        have nonempty : address ≠ "" := by
          rintro rfl
          exact resolveEntry_ne_empty resolved
        have kept : (some address).filter (fun text => decide (text ≠ "")) = some address :=
          Option.filter_eq_some_iff.mpr ⟨rfl, decide_eq_true nonempty⟩
        rw [kept, Option.bind_some, Option.bind_some, Dict.find_index]
        rfl
  have byMac (mac : String) : Dict.find (Dict.index Neighbor.mac (parseNeigh network.arp)) mac =
      network.deviceWith mac := Dict.find_index _ _ _
  rw [locate, candidate, Option.or_eq_some_iff]
  constructor
  · rintro (here | ⟨nobody, there⟩)
    · obtain ⟨found, trusted⟩ := Option.filter_eq_some_iff.mp here
      obtain ⟨address, rfl, isDevice⟩ := Option.bind_eq_some_iff.mp found
      refine .atAddress address resolved isDevice fun mac recorded => ?_
      simpa [recorded] using trusted
    · obtain ⟨mac, recorded, found⟩ := Option.bind_eq_some_iff.mp there
      refine .elsewhere mac recorded (fun address other isAddress isOther same => ?_)
        ((byMac mac).symm.trans found)
      cases resolved.symm.trans isAddress
      rw [Option.bind_some, isOther, recorded] at nobody
      simp [same] at nobody
  · intro stands
    cases stands with
    | atAddress address isAddress isDevice trusted =>
        cases resolved.symm.trans isAddress
        refine .inl (Option.filter_eq_some_iff.mpr ⟨isDevice, ?_⟩)
        cases recorded : network.knownMacs.find entry with
        | none => rfl
        | some mac => simpa using trusted mac recorded
    | elsewhere mac recorded stranger isDevice =>
        refine .inr ⟨?_, ?_⟩
        · refine Option.filter_eq_none_iff.mpr fun other isOther trusted => ?_
          obtain ⟨address, rfl, isOther⟩ := Option.bind_eq_some_iff.mp isOther
          exact stranger address other resolved isOther (by simpa [recorded] using trusted)
        · rw [recorded, Option.bind_some, byMac]
          exact isDevice

/-- The devices that `classify` identifies stand for the entries of the inventory. -/
theorem identifies_iff
    (resolved : resolveInventoryIps network (readInventory network.inventory) =
      some inventoryIps) {entry : String} {device : Neighbor} :
    Identifies (parseNeigh network.arp) inventoryIps network.knownMacs entry device ↔
      entry ∈ readInventory network.inventory ∧ StandsFor network entry device := by
  simp only [Identifies, find_resolveInventoryIps resolved]
  constructor
  · rintro ⟨ip, ⟨member, isIp⟩, located⟩
    exact ⟨member, (locate_eq_some_iff isIp).mp located⟩
  · rintro ⟨member, stands⟩
    have resolves := isSome_resolveInventoryIps.mp (Option.isSome_of_eq_some resolved) entry member
    obtain ⟨ip, isIp⟩ := Option.isSome_iff_exists.mp resolves
    exact ⟨ip, ⟨member, isIp⟩, (locate_eq_some_iff isIp).mpr stands⟩

/-- `classify` reports a new row at the address exactly if a new device is there. -/
theorem newAt_iff
    (resolved : resolveInventoryIps network (readInventory network.inventory) =
      some inventoryIps) :
    (∃ row ∈ network.rows inventoryIps, row.kind = .new ∧
      ∃ text, ip = .str text ∧ row.ip = some text) ↔ NewAt network ip := by
  have complete : AllIdentified (parseNeigh network.arp) inventoryIps network.knownMacs ↔
      ∀ entry ∈ readInventory network.inventory, ∃ device, StandsFor network entry device := by
    simp only [AllIdentified, find_resolveInventoryIps resolved]
    constructor
    · intro each entry member
      have resolves :=
        isSome_resolveInventoryIps.mp (Option.isSome_of_eq_some resolved) entry member
      obtain ⟨ip, isIp⟩ := Option.isSome_iff_exists.mp resolves
      obtain ⟨device, located⟩ := each entry ip ⟨member, isIp⟩
      exact ⟨device, (locate_eq_some_iff isIp).mp located⟩
    · rintro each entry ip ⟨member, isIp⟩
      obtain ⟨device, stands⟩ := each entry member
      exact ⟨device, (locate_eq_some_iff isIp).mpr stands⟩
  constructor
  · rintro ⟨row, inRows, isNew, text, rfl, isText⟩
    obtain ⟨all, device, listed, free, rfl⟩ := new_mem_classify.mp ⟨inRows, isNew⟩
    cases isText
    refine ⟨complete.mp all, device, listed, rfl, fun entry member claimant stands => ?_⟩
    exact free entry claimant ((identifies_iff resolved).mpr ⟨member, stands⟩)
  · rintro ⟨all, device, listed, rfl, free⟩
    have unclaimed : Unclaimed (parseNeigh network.arp) inventoryIps network.knownMacs
        device.ip := by
      intro entry claimant identified
      obtain ⟨member, stands⟩ := (identifies_iff resolved).mp identified
      exact free entry member claimant stands
    obtain ⟨inRows, isNew⟩ :=
      new_mem_classify.mpr ⟨complete.mpr all, device, listed, unclaimed, rfl⟩
    exact ⟨_, inRows, isNew, device.ip, rfl, rfl⟩

/-! ## The guards -/

theorem step_of_perform {step address : Json} {name : String} {operation : Operation}
    (performs : perform inventoryIps step address name = .performed operation)
    (takes : operation.takenOver = some ip) :
    ip = address ∧ ∃ name ∈ ["stop", "blank", "rename"], step = .str name := by
  unfold perform at performs
  split at performs <;> cases performs <;> cases takes
  · exact ⟨rfl, "stop", by simp, rfl⟩
  · exact ⟨rfl, "blank", by simp, rfl⟩
  · exact ⟨rfl, "rename", by simp, rfl⟩

variable (ip inventoryIps) in
theorem takenOver_perform {name : String} (named : name ∈ ["stop", "blank", "rename"])
    (hostname : String) :
    ∃ operation, perform inventoryIps (.str name) ip hostname = .performed operation ∧
      operation.takenOver = some ip := by
  simp only [List.mem_cons, List.not_mem_nil, or_false] at named
  obtain rfl | rfl | rfl := named
  · exact ⟨_, rfl, rfl⟩
  · exact ⟨_, rfl, rfl⟩
  · exact ⟨_, rfl, rfl⟩

/-- Of these steps only `rename` needs a name. -/
theorem needsHostname_iff {name : String} (named : name ∈ ["stop", "blank", "rename"]) :
    needsHostname (.str name) = true ↔ name = "rename" := by
  simp only [List.mem_cons, List.not_mem_nil, or_false] at named
  obtain rfl | rfl | rfl := named <;> decide

theorem toOption_eq_some {α : Type} {result : Except PyError α} {value : α} :
    result.toOption = some value ↔ result = .ok value := by
  cases result <;> simp [Except.toOption]

theorem asks_of_performed {operation : Operation}
    (performs : runStep network req = some (.performed operation))
    (takes : operation.takenOver = some ip) : Asks network req ip ∧ ¬Registered network ip := by
  simp only [runStep, Option.bind_eq_bind, Option.bind_eq_some_iff, toOption_eq_some] at performs
  obtain ⟨step, isStep, address, isIp, hostname, isHostname, error, checked, performs⟩ := performs
  cases error with
  | some error => cases performs
  | none =>
      obtain ⟨inventoryIps, resolved, performs⟩ := Option.bind_eq_some_iff.mp performs
      obtain ⟨member, among, performs⟩ := Option.bind_eq_some_iff.mp performs
      cases member with
      | true => cases performs
      | false =>
          obtain ⟨rfl, name, named, rfl⟩ := step_of_perform (Option.some.inj performs) takes
          obtain ⟨hashable, apart⟩ := memTexts_eq_false.mp (toOption_eq_some.mp among)
          refine ⟨⟨⟨name, named, isStep, hostname, isHostname, ?_⟩, isIp, hashable,
            isSome_resolveInventoryIps.mp (Option.isSome_of_eq_some resolved)⟩,
            (forall_resolvedIps_iff resolved).mp apart⟩
          intro renames
          rwa [checkHostname, if_pos ((needsHostname_iff named).mpr renames)] at checked

theorem performed_of_asks (asks : Asks network req ip) (unknown : ¬Registered network ip) :
    ∃ operation, runStep network req = some (.performed operation) ∧
      operation.takenOver = some ip := by
  obtain ⟨name, named, isStep, hostname, isHostname, valid⟩ := asks.step
  obtain ⟨inventoryIps, resolved⟩ :=
    Option.isSome_iff_exists.mp (isSome_resolveInventoryIps.mpr asks.resolves)
  have unresolved : memTexts ip (resolvedIps inventoryIps) = .ok false :=
    memTexts_eq_false.mpr ⟨asks.hashable, (forall_resolvedIps_iff resolved).mpr unknown⟩
  obtain ⟨operation, performs, takes⟩ :=
    takenOver_perform ip inventoryIps named (nameOf hostname)
  refine ⟨operation, ?_, takes⟩
  have checked : checkHostname (.str name) hostname (readInventory network.inventory) =
      .ok none := by
    unfold checkHostname
    split
    next needed => exact valid ((needsHostname_iff named).mp needed)
    · rfl
  simp only [runStep, isStep, asks.address, isHostname, resolved, unresolved, Except.toOption,
    Option.bind_eq_bind, Option.bind_some, checked, performs]
  rfl

/-- The wizard takes over only what is offered as new if and only if a request to take over
a device names an address that an entry resolves to, or one where ARP lists a device that
stands for no entry while every entry has its device. -/
theorem takesOnlyNew_iff (network : Network) (req : Json) :
    TakesOnlyNew network req ↔
      ∀ ip, Asks network req ip → Registered network ip ∨ NewAt network ip := by
  constructor
  · intro onlyNew ip asks
    by_cases registered : Registered network ip
    · exact .inl registered
    · obtain ⟨operation, performs, takes⟩ := performed_of_asks asks registered
      obtain ⟨inventoryIps, resolved, reported⟩ := onlyNew operation ip performs takes
      exact .inr ((newAt_iff resolved).mp reported)
  · intro known operation ip performs takes
    obtain ⟨asks, unregistered⟩ := asks_of_performed performs takes
    obtain ⟨inventoryIps, resolved⟩ :=
      Option.isSome_iff_exists.mp (isSome_resolveInventoryIps.mpr asks.resolves)
    exact ⟨inventoryIps, resolved,
      (newAt_iff resolved).mpr ((known ip asks).resolve_left unregistered)⟩

end

namespace Site

/-- A child whose lease has changed, with no MAC recorded for it; its alias still names
the old address. -/
def drifted : Network where
  inventory := some "zero2\n".toList
  getent _ := []
  sshConfig _ := "user pi\nhostname 10.42.0.52\nport 22\n".toList
  arp := "10.42.0.77 lladdr 2c:cf:67:c1:1d:7b REACHABLE\n".toList
  knownMacs := Table.empty

def stopAt (ip : String) : Json := .obj [("step", .str "stop"), ("ip", .str ip)]

end Site

/-- The running child is stopped although it is only shown as unverified. -/
theorem not_takesOnlyNew_drifted :
    ¬TakesOnlyNew Site.drifted (Site.stopAt "10.42.0.77") := by
  intro onlyNew
  obtain ⟨inventoryIps, resolved, row, inRows, isNew, -⟩ :=
    onlyNew (.stopPublisher (.str "10.42.0.77")) (.str "10.42.0.77") rfl rfl
  have none_new : ∀ inventoryIps ∈ resolveInventoryIps Site.drifted ["zero2"],
      ∀ row ∈ Site.drifted.rows inventoryIps, row.kind ≠ .new := by
    decide +kernel
  exact none_new inventoryIps resolved row inRows isNew

end PresenceLogger.Fleet
