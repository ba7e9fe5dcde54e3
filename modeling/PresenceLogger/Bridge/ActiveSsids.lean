import PresenceLogger.Bridge.Profile

/-!
# Active SSIDs

`nmcli -t` puts a backslash before every colon and every backslash of a field.
`_split_first_unescaped_colon` skips both pairs, but `parse_active_ssids` takes only the
escape of a colon back, so that a backslash of an SSID comes out twice.
-/

namespace PresenceLogger.Bridge

open Library Library.Text

/-! ## What `nmcli` prints -/

/-- A line of `nmcli -t -f ACTIVE,SSID dev wifi`. -/
structure Network where
  active : Bool
  ssid : String
  deriving DecidableEq, Repr

/-- A character of a field in terse mode. -/
def terseChar (char : Char) : List Char :=
  if char = ':' ∨ char = '\\' then ['\\', char] else [char]

/-- A field in terse mode. -/
def terseField (field : List Char) : List Char := field.flatMap terseChar

def Network.terseLine (network : Network) : List Char :=
  (if network.active then "yes" else "no").toList ++ ':' :: terseField network.ssid.toList ++ ['\n']

def terseOutput (networks : List Network) : List Char := networks.flatMap Network.terseLine

/-- The SSIDs of the active networks, in the order of the output. -/
def activeSsids (networks : List Network) : List String :=
  (networks.filter (·.active)).map (·.ssid)

/-! ## The separator -/

theorem mem_terseField {char : Char} {field : List Char} (member : char ∈ terseField field) :
    char = '\\' ∨ char ∈ field := by
  obtain ⟨source, inField, inChar⟩ := List.mem_flatMap.mp member
  unfold terseChar at inChar
  split at inChar
  · rcases List.mem_cons.mp inChar with backslash | other
    · exact .inl backslash
    · exact .inr (List.mem_singleton.mp other ▸ inField)
  · exact .inr (List.mem_singleton.mp inChar ▸ inField)

theorem oneLine_terseField {field : List Char} (one : OneLine field) :
    OneLine (terseField field) := by
  intro char member
  rcases mem_terseField member with rfl | inField
  · decide
  · exact one char inField

theorem splitFirstUnescapedColon_active (active : Bool) (text : List Char) :
    splitFirstUnescapedColon ((if active then "yes" else "no").toList ++ ':' :: text) =
      [(if active then "yes" else "no").toList, text] := by
  cases active <;> simp [splitFirstUnescapedColon, splitFirstUnescapedColonFrom]

/-! ## Unescaping -/

@[simp] theorem unescapeColons_cons {char : Char} (plain : char ≠ '\\') (rest : List Char) :
    unescapeColons (char :: rest) = char :: unescapeColons rest := by
  rw [unescapeColons.eq_def]
  split
  next equal =>
    cases equal
    exact absurd rfl plain
  next equal =>
    cases equal
    rfl
  next equal => cases equal

/-- The backslash of an escaped field that is not before a colon stays. -/
theorem unescapeColons_backslash (field : List Char) :
    unescapeColons ('\\' :: terseField field) = '\\' :: unescapeColons (terseField field) := by
  cases field with
  | nil => rfl
  | cons char field =>
      rw [terseField, List.flatMap_cons, terseChar]
      split
      · rfl
      next other =>
        rw [List.singleton_append, unescapeColons.eq_def]
        split
        next equal =>
          cases equal
          exact absurd (.inl rfl) other
        next equal =>
          cases equal
          rfl
        next equal => cases equal

/-- What `parse_active_ssids` makes of a character. -/
def doubledBackslash (char : Char) : List Char :=
  if char = '\\' then ['\\', '\\'] else [char]

theorem unescapeColons_terseField (field : List Char) :
    unescapeColons (terseField field) = field.flatMap doubledBackslash := by
  induction field with
  | nil => rfl
  | cons char field ih =>
      by_cases backslash : char = '\\'
      · subst backslash
        change unescapeColons ('\\' :: '\\' :: terseField field) = _
        rw [unescapeColons, unescapeColons_backslash, ih]
        · rfl
        · simp
      by_cases colon : char = ':'
      · subst colon
        change unescapeColons ('\\' :: ':' :: terseField field) = _
        rw [unescapeColons, ih]
        rfl
      have plain : terseField (char :: field) = char :: terseField field := by
        simp [terseField, terseChar, backslash, colon]
      rw [plain, unescapeColons_cons backslash, ih]
      simp [doubledBackslash, backslash]

theorem length_doubledBackslash (field : List Char) :
    (field.flatMap doubledBackslash).length = field.length + field.count '\\' := by
  induction field with
  | nil => rfl
  | cons char field ih =>
      by_cases backslash : char = '\\' <;>
        simp [doubledBackslash, backslash] at ih ⊢ <;> omega

/-- An escaped field comes back exactly when it has no backslash of its own. -/
theorem unescapeColons_terseField_eq_iff (field : List Char) :
    unescapeColons (terseField field) = field ↔ '\\' ∉ field := by
  rw [unescapeColons_terseField]
  constructor
  · intro same
    have lengths := length_doubledBackslash field
    rw [same] at lengths
    exact List.count_eq_zero.mp (by omega)
  · intro free
    have single : ∀ char ∈ field, doubledBackslash char = [char] := by
      intro char member
      have other : char ≠ '\\' := fun equal => free (equal ▸ member)
      exact if_neg other
    rw [List.flatMap_congr single, List.flatMap_singleton']

/-! ## The output read back -/

/-- What the parser reports for an SSID. -/
def parsedSsid (ssid : String) : String := String.ofList (unescapeColons (terseField ssid.toList))

theorem parsedSsid_eq_iff (ssid : String) : parsedSsid ssid = ssid ↔ '\\' ∉ ssid.toList := by
  rw [parsedSsid, ← String.toList_inj, String.toList_ofList, unescapeColons_terseField_eq_iff]

private theorem yes_iff_active (active : Bool) :
    lowerAscii (strip (if active then "yes" else "no").toList) = "yes".toList ↔
      active = true := by
  cases active <;> decide

theorem splitLines_terseOutput {networks : List Network}
    (oneLine : ∀ network ∈ networks, OneLine network.ssid.toList) :
    splitLines (terseOutput networks) = networks.map fun network =>
      (if network.active then "yes" else "no").toList ++ ':' :: terseField network.ssid.toList := by
  induction networks with
  | nil => rfl
  | cons network networks ih =>
      have word : OneLine (if network.active then "yes" else "no").toList := by
        cases network.active <;> decide
      have field := oneLine_terseField (oneLine network (.head _))
      have separator : OneLine [':'] := by decide
      have line : OneLine ((if network.active then "yes" else "no").toList ++
          ':' :: terseField network.ssid.toList) :=
        word.append (separator.append field)
      change splitLines (_ ++ ['\n'] ++ terseOutput networks) = _
      rw [List.append_assoc, List.singleton_append, splitLines_oneLine line,
        ih fun other member => oneLine other (.tail _ member), List.map_cons]

theorem parseActiveSsids_terseOutput {networks : List Network}
    (oneLine : ∀ network ∈ networks, OneLine network.ssid.toList) :
    parseActiveSsids (terseOutput networks) = (activeSsids networks).map parsedSsid := by
  rw [parseActiveSsids, splitLines_terseOutput oneLine, activeSsids]
  induction networks with
  | nil => rfl
  | cons network networks ih =>
      have rest := ih fun other member => oneLine other (.tail _ member)
      rw [List.map_cons, List.filterMap_cons, splitFirstUnescapedColon_active, rest]
      simp only [yes_iff_active]
      cases active : network.active <;> simp [active, parsedSsid]

/-! ## The SSID of a profile -/

theorem NetworkWatcher.mem_of_selectSsid {watcher : NetworkWatcher} {active : List String}
    (known : ∃ ssid ∈ active, ssid ∈ watcher.preferredSsids) :
    ∃ ssid ∈ active, ssid ∈ watcher.preferredSsids ∧ watcher.selectSsid active = some ssid := by
  have found : (active.find? fun ssid => ssid ∈ watcher.preferredSsids).isSome = true := by
    simpa using known
  obtain ⟨ssid, first⟩ := Option.isSome_iff_exists.mp found
  refine ⟨ssid, List.mem_of_find?_eq_some first, ?_, ?_⟩
  · simpa using List.find?_some first
  · rw [NetworkWatcher.selectSsid, first, Option.some_or]

/-- The parser gives exactly the active SSIDs in order, and the watcher reports the SSID of
a profile whenever one is among them. -/
structure SsidsRoundTrip (networks : List Network) : Prop where
  parsed : parseActiveSsids (terseOutput networks) = activeSsids networks
  reported : ∀ watcher : NetworkWatcher,
    (∃ ssid ∈ activeSsids networks, ssid ∈ watcher.preferredSsids) →
    ∃ ssid ∈ activeSsids networks, ssid ∈ watcher.preferredSsids ∧
      (watcher.getCurrentSsid (.exited 0 (terseOutput networks))).cachedSsid = some ssid

theorem ssidsRoundTrip_iff_no_backslash (networks : List Network)
    (oneLine : ∀ network ∈ networks, OneLine network.ssid.toList) :
    SsidsRoundTrip networks ↔ ∀ ssid ∈ activeSsids networks, '\\' ∉ ssid.toList := by
  have exact_iff : parseActiveSsids (terseOutput networks) = activeSsids networks ↔
      ∀ ssid ∈ activeSsids networks, '\\' ∉ ssid.toList := by
    have unchanged : (activeSsids networks).map parsedSsid = (activeSsids networks).map id ↔ _ :=
      List.map_inj_left
    rw [parseActiveSsids_terseOutput oneLine]
    simpa [parsedSsid_eq_iff] using unchanged
  constructor
  · intro roundTrip
    exact exact_iff.mp roundTrip.parsed
  · intro free
    have parsed := exact_iff.mpr free
    refine ⟨parsed, fun watcher known => ?_⟩
    simpa [NetworkWatcher.getCurrentSsid, parsed] using watcher.mem_of_selectSsid known

theorem ssidsRoundTrip_colon :
    (∀ network ∈ [Network.mk false "guest", .mk true "my:wifi"], OneLine network.ssid.toList) ∧
      (SsidsRoundTrip [.mk false "guest", .mk true "my:wifi"] ↔
        ∀ ssid ∈ activeSsids [.mk false "guest", .mk true "my:wifi"], '\\' ∉ ssid.toList) :=
  ⟨by decide, ssidsRoundTrip_iff_no_backslash _ (by decide)⟩

/-- A factory network with a backslash in its name is not recognised, and the other active
network is reported in its place. -/
theorem backslash_ssid_not_reported :
    let networks := [Network.mk true "internet", .mk true "line\\2"]
    let watcher : NetworkWatcher := { preferredSsids := ["line\\2"] }
    (∀ network ∈ networks, OneLine network.ssid.toList) ∧
      parseActiveSsids (terseOutput networks) = ["internet", "line\\\\2"] ∧
      (watcher.getCurrentSsid (.exited 0 (terseOutput networks))).cachedSsid = some "internet" ∧
      ¬ SsidsRoundTrip networks := by
  intro networks watcher
  have parsed : parseActiveSsids (terseOutput networks) = ["internet", "line\\\\2"] := by
    decide +kernel
  refine ⟨by decide, parsed, ?_, fun roundTrip => ?_⟩
  · simp [NetworkWatcher.getCurrentSsid, parsed, NetworkWatcher.selectSsid, watcher]
  · have same := roundTrip.parsed
    rw [parsed] at same
    exact absurd same (by decide +kernel)

end PresenceLogger.Bridge
