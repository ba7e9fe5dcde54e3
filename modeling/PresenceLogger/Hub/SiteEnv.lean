import PresenceLogger.Library.Ipv4

/-!
# The settings of a site

Before a hub is set up its settings are checked: the address it has in the factory's network
with the length of its prefix, the address of its access point, and that the access point is
not in the factory's network.
-/

namespace PresenceLogger.Hub

open Library Library.Ipv4

namespace SiteEnv

/-- The settings, and what the checks of the others find. -/
structure Settings where
  factoryIp : List Char
  apGwIp : List Char
  /-- No other required item is empty. -/
  requiredSet : Bool
  /-- `HUB_HOSTNAME` is that of a child. -/
  hostnameTaken : Bool
  /-- `site_env_reject_origin` -/
  originAccepted : Bool

/-- `^(0|[1-9][0-9]{0,most})$` -/
def matchesNumber (most : Nat) : List Char → Bool
  | [] => false
  | ['0'] => true
  | first :: rest => first.isDigit && first ≠ '0' && rest.all Char.isDigit && rest.length ≤ most

/-- `_site_env_valid_octet` -/
def validOctet (part : List Char) : Bool := matchesNumber 2 part && decimal part ≤ 255

/-- `_site_env_ipv4_octets_valid` -/
def ipv4OctetsValid (text : List Char) : Bool :=
  (text.splitOn '.').length = 4 && (text.splitOn '.').all validOctet

/-- `[0-9]{1,most}` -/
def matchesDigits (most : Nat) (part : List Char) : Bool :=
  1 ≤ part.length && part.length ≤ most && part.all Char.isDigit

/-- `^([0-9]{1,3}\.){3}[0-9]{1,3}$` -/
def matchesQuad (text : List Char) : Bool :=
  (text.splitOn '.').length = 4 && (text.splitOn '.').all (matchesDigits 3)

/-- `^([0-9]{1,3}\.){3}[0-9]{1,3}/[0-9]{1,2}$` -/
def matchesCidr (text : List Char) : Bool :=
  '/' ∈ text && matchesQuad (beforeSlash text) && matchesDigits 2 (afterSlash text)

/-- `_site_env_ip_to_int`, of a text with four octets. -/
def ipToInt (text : List Char) : Word :=
  match (text.splitOn '.').map fun part => BitVec.ofNat 64 (decimal part) with
  | [a, b, c, d] => (a <<< 24) + (b <<< 16) + (c <<< 8) + d
  | _ => 0

/-- `_site_env_same_subnet` -/
def sameSubnet (ip1 ip2 bits : List Char) : Bool :=
  let mask := mask (BitVec.ofNat 64 (decimal bits))
  ipToInt ip1 &&& mask = ipToInt ip2 &&& mask

/-- The prefix has its form and is at most 32. -/
def validPrefix (bits : List Char) : Bool := matchesNumber 1 bits && decimal bits ≤ 32

/-- `factory_ip_valid` -/
def factoryIpValid (settings : Settings) : Bool :=
  matchesCidr settings.factoryIp && ipv4OctetsValid (beforeSlash settings.factoryIp) &&
    validPrefix (afterSlash settings.factoryIp)

/-- `ap_gw_ip_valid` -/
def apGwIpValid (settings : Settings) : Bool :=
  matchesQuad settings.apGwIp && ipv4OctetsValid settings.apGwIp

/-- The errors that are counted once the required items are set. -/
def countErrors (settings : Settings) : Nat :=
  (if matchesCidr settings.factoryIp then
    (if ipv4OctetsValid (beforeSlash settings.factoryIp) then 0 else 1) +
      (if validPrefix (afterSlash settings.factoryIp) then 0 else 1)
  else 1) +
  (if apGwIpValid settings then 0 else 1) +
  (if settings.hostnameTaken then 1 else 0) +
  (if factoryIpValid settings && apGwIpValid settings &&
      sameSubnet settings.apGwIp (beforeSlash settings.factoryIp) (afterSlash settings.factoryIp)
    then 1 else 0) +
  (if settings.originAccepted then 0 else 1)

/-- `site_env_validate` -/
def siteEnvValidate (settings : Settings) : Bool :=
  settings.requiredSet && settings.factoryIp ≠ [] && settings.apGwIp ≠ [] &&
    countErrors settings = 0

/-! ## Addresses -/

theorem isOctet_of_validOctet {part : List Char} (valid : validOctet part = true) :
    IsOctet part := by
  rw [validOctet, Bool.and_eq_true, decide_eq_true_eq] at valid
  obtain ⟨isNumber, small⟩ := valid
  rw [matchesNumber.eq_def] at isNumber
  split at isNumber
  · cases isNumber
  · exact ⟨by decide, by decide, small⟩
  next first rest _ =>
    simp only [Bool.and_eq_true, List.all_eq_true] at isNumber
    exact ⟨List.cons_ne_nil _ _, List.forall_mem_cons.mpr ⟨isNumber.1.1.1, isNumber.1.2⟩, small⟩

theorem isAddress_of_ipv4OctetsValid {text : List Char} (valid : ipv4OctetsValid text = true) :
    IsAddress text := by
  rw [ipv4OctetsValid, Bool.and_eq_true, decide_eq_true_eq, List.all_eq_true] at valid
  exact ⟨valid.1, fun part among => isOctet_of_validOctet (valid.2 part among)⟩

theorem ipToInt_eq {text : List Char} (isAddress : IsAddress text) :
    ipToInt text = BitVec.ofNat 64 (value text) := by
  obtain ⟨a, b, c, d, parts, smallA, smallB, smallC, -, isValue⟩ := exists_octets isAddress
  rw [ipToInt, parts, isValue]
  exact add_octets smallA smallB smallC

/-- The check finds the access point in the network of the factory's prefix. -/
theorem sameSubnet_iff {left right bits : List Char} (isLeft : IsAddress left)
    (isRight : IsAddress right) (small : decimal bits ≤ 32) :
    sameSubnet left right bits = true ↔
      value left / 2 ^ (32 - decimal bits) = value right / 2 ^ (32 - decimal bits) := by
  rw [sameSubnet, ipToInt_eq isLeft, ipToInt_eq isRight, decide_eq_true_eq]
  exact and_mask_eq_iff (value_lt isLeft) (value_lt isRight) small

/-! ## Settings that are accepted -/

/-- What holds of settings that are accepted. -/
theorem accepted_cases {settings : Settings} (accepted : siteEnvValidate settings = true) :
    IsAddress (beforeSlash settings.factoryIp) ∧ decimal (afterSlash settings.factoryIp) ≤ 32 ∧
      IsAddress settings.apGwIp ∧
      sameSubnet settings.apGwIp (beforeSlash settings.factoryIp)
        (afterSlash settings.factoryIp) = false := by
  rw [siteEnvValidate, Bool.and_eq_true, decide_eq_true_eq, countErrors] at accepted
  have none := accepted.2
  simp only [Nat.add_eq_zero_iff] at none
  obtain ⟨⟨⟨⟨factory, gateway⟩, -⟩, subnet⟩, -⟩ := none
  split at factory
  next isCidr =>
    rw [Nat.add_eq_zero_iff] at factory
    have octets : ipv4OctetsValid (beforeSlash settings.factoryIp) = true := by
      by_contra invalid
      rw [if_neg invalid] at factory
      cases factory.1
    have bits : validPrefix (afterSlash settings.factoryIp) = true := by
      by_contra invalid
      rw [if_neg invalid] at factory
      cases factory.2
    have isGateway : apGwIpValid settings = true := by
      by_contra invalid
      rw [if_neg invalid] at gateway
      cases gateway
    have isFactory : factoryIpValid settings = true := by
      rw [factoryIpValid, isCidr, octets, bits]
      rfl
    rw [isFactory, isGateway, Bool.true_and, Bool.true_and] at subnet
    rw [apGwIpValid, Bool.and_eq_true] at isGateway
    rw [validPrefix, Bool.and_eq_true, decide_eq_true_eq] at bits
    refine ⟨isAddress_of_ipv4OctetsValid octets, bits.2,
      isAddress_of_ipv4OctetsValid isGateway.2, ?_⟩
    by_contra same
    rw [Bool.not_eq_false] at same
    rw [if_pos same] at subnet
    cases subnet
  next => cases factory

/-- Settings that are accepted keep the access point's network apart from the factory's exactly
if the factory's is no smaller or their first three octets differ. -/
theorem disjoint_of_siteEnvValidate {settings : Settings}
    (accepted : siteEnvValidate settings = true) :
    ¬Intersect (value settings.apGwIp) 24 (value (beforeSlash settings.factoryIp))
        (decimal (afterSlash settings.factoryIp)) ↔
      decimal (afterSlash settings.factoryIp) ≤ 24 ∨
        value settings.apGwIp / 2 ^ 8 ≠ value (beforeSlash settings.factoryIp) / 2 ^ 8 := by
  obtain ⟨isFactory, small, isGateway, notSame⟩ := accepted_cases accepted
  have differ : value settings.apGwIp / 2 ^ (32 - decimal (afterSlash settings.factoryIp)) ≠
      value (beforeSlash settings.factoryIp) / 2 ^ (32 - decimal (afterSlash settings.factoryIp)) :=
    fun same => by
      rw [(sameSubnet_iff isGateway isFactory small).mpr same] at notSame
      cases notSame
  rw [intersect_iff (value_lt isGateway) (value_lt isFactory)]
  by_cases wide : decimal (afterSlash settings.factoryIp) ≤ 24
  · rw [min_eq_right wide]
    exact iff_of_true differ (.inl wide)
  · rw [min_eq_left (Nat.le_of_not_le wide)]
    exact ⟨.inr, fun cases => cases.resolve_left wide⟩

/-- The access point beside the default network of a factory. -/
theorem disjoint_of_siteEnvValidate_default :
    ¬Intersect (value "10.42.0.1".toList) 24 (value (beforeSlash "172.22.13.18/24".toList))
        (decimal (afterSlash "172.22.13.18/24".toList)) ↔
      decimal (afterSlash "172.22.13.18/24".toList) ≤ 24 ∨
        value "10.42.0.1".toList / 2 ^ 8 ≠
          value (beforeSlash "172.22.13.18/24".toList) / 2 ^ 8 :=
  @disjoint_of_siteEnvValidate
    ⟨"172.22.13.18/24".toList, "10.42.0.1".toList, true, false, true⟩ (by decide +kernel)

/-- A factory's network of half the size, whose other half has the access point's address. -/
theorem not_disjoint_half :
    siteEnvValidate ⟨"10.42.0.130/25".toList, "10.42.0.1".toList, true, false, true⟩ = true ∧
      Intersect (value "10.42.0.1".toList) 24 (value (beforeSlash "10.42.0.130/25".toList))
        (decimal (afterSlash "10.42.0.130/25".toList)) := by
  refine ⟨by decide +kernel, ?_⟩
  rw [intersect_iff (by decide +kernel) (by decide +kernel)]
  decide +kernel

end SiteEnv

end PresenceLogger.Hub
