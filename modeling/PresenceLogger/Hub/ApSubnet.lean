import PresenceLogger.Library.Ipv4
import PresenceLogger.Library.TextFile

/-!
# The network of an access point

Before a hub starts its access point it looks for destinations and addresses of other devices
in the network of the access point, and suggests an address whose network is free.  What `ip`
prints is read line by line; an arithmetic error ends the loop over the lines.
-/

namespace PresenceLogger.Hub

open Library Library.Ipv4

namespace ApSubnet

/-! ## Overlapping networks -/

/-- `10#${part}`, with `none` for an error. -/
def decimalConstant (part : List Char) : Option Word :=
  if part ≠ [] ∧ part.all Char.isDigit then some (BitVec.ofNat 64 (decimal part)) else none

/-- A number in an arithmetic expression, octal behind a zero, with `none` for an error.  Here
stand the digits of a prefix, or an address that has none. -/
def constant : List Char → Option Word
  | [] => some 0
  | '0' :: digits =>
      if digits.all fun char => char.isDigit && char ≤ '7' then
        some (BitVec.ofNat 64 (Nat.ofDigitChars 8 digits 0))
      else none
  | digits => decimalConstant digits

/-- `_ap_ip2int`, with `none` for an error. -/
def apIp2int (text : List Char) : Option Word :=
  match text.splitOn '.' with
  | a :: b :: c :: d :: _ => do
      let a ← decimalConstant a
      let b ← decimalConstant b
      let c ← decimalConstant c
      let d ← decimalConstant d
      return (a <<< 24) ||| (b <<< 16) ||| (c <<< 8) ||| d
  | _ => none

/-- `ap_cidr_overlaps`, with `none` for an error in the prefixes, which ends the loop that it is
called in.  Without a number the comparison fails. -/
def apCidrOverlaps (left right : List Char) : Option Bool := do
  let al ← constant (afterSlash left)
  let bl ← constant (afterSlash right)
  let m := mask (if al.slt bl then al else bl)
  match apIp2int (beforeSlash left), apIp2int (beforeSlash right) with
  | some a, some b => return a &&& m = b &&& m
  | _, _ => return false

/-! ## Lines -/

def isBlank (char : Char) : Bool := char = ' ' || char = '\t'

/-- `read -r dst rest` -/
def readLine (line : List Char) : List Char × List Char :=
  let line := line.dropWhile isBlank
  (line.takeWhile fun char => !isBlank char,
    (((line.dropWhile fun char => !isBlank char).dropWhile isBlank).reverse.dropWhile
      isBlank).reverse)

/-- The words of a line. -/
def words (line : List Char) : List (List Char) := (line.splitOnP isBlank).filter (· ≠ [])

/-- What follows the last ` dev `. -/
def afterDev : List Char → Option (List Char)
  | [] => none
  | char :: text =>
      match afterDev text with
      | some after => some after
      | none =>
          if " dev ".toList.isPrefixOf (char :: text) then some ((char :: text).drop 5) else none

/-- `sed -n 's/.* dev \([^ ]*\).*/\1/p' <<<" $rest"` -/
def routeDev (rest : List Char) : List Char :=
  ((afterDev (' ' :: rest)).map (·.takeWhile (· ≠ ' '))).getD []

/-- The device and the destination of a route that is compared. -/
def routeItem (apIf line : List Char) : Option (List Char × List Char) :=
  let (dst, rest) := readLine line
  if dst = "default".toList then none
  else if routeDev rest = apIf then none
  else some (routeDev rest, if '/' ∈ dst then dst else dst ++ "/32".toList)

/-- `awk '{print $2, $4}'` -/
def addrFields (line : List Char) : List Char × List Char :=
  ((words line)[1]?.getD [], (words line)[3]?.getD [])

/-- The device and the address of a line that is compared. -/
def addrItem (apIf line : List Char) : Option (List Char × List Char) :=
  let (dev, cidr) := addrFields line
  if dev = apIf ∨ dev = "lo".toList then none else some (dev, cidr)

/-- The lines of a loop that overlap, up to an error. -/
def overlaps (net : List Char) : List (List Char × List Char) → List (List Char × List Char)
  | [] => []
  | (dev, cidr) :: items =>
      match apCidrOverlaps net cidr with
      | none => []
      | some true => (dev, cidr) :: overlaps net items
      | some false => overlaps net items

/-- `ap_subnet_conflicts`, before its lines are sorted and each is kept once. -/
def apSubnetConflicts (routes addrs : List (List Char)) (gw apIf : List Char) :
    List (List Char × List Char) :=
  overlaps (gw ++ "/24".toList) (routes.filterMap (routeItem apIf)) ++
    overlaps (gw ++ "/24".toList) (addrs.filterMap (addrItem apIf))

/-- `10.42.N.1` -/
def candidate (n : Nat) : List Char := "10.42.".toList ++ Nat.toDigits 10 n ++ ".1".toList

/-- `ap_suggest_free_gw` -/
def apSuggestFreeGw (routes addrs : List (List Char)) (apIf : List Char) : Option (List Char) :=
  ((List.range 255).find? fun n => apSubnetConflicts routes addrs (candidate n) apIf = []).map
    candidate

/-! ## Networks that texts stand for -/

/-- An address with the length of a prefix. -/
def network (address : List Char) (bits : Nat) : List Char := address ++ '/' :: Nat.toDigits 10 bits

/-- An address with a prefix of at most 32 bits. -/
def IsCidr (text : List Char) : Prop :=
  ∃ address bits, IsAddress address ∧ bits ≤ 32 ∧ text = network address bits

/-- The network a text stands for; that of a bare address is the address alone. -/
inductive Denotes : List Char → Nat → Nat → Prop
  | host {address : List Char} (isAddress : IsAddress address) :
      Denotes address (value address) 32
  | cidr {address : List Char} {bits : Nat} (isAddress : IsAddress address) (small : bits ≤ 32) :
      Denotes (network address bits) (value address) bits

theorem plain_of_isAddress {address : List Char} (isAddress : IsAddress address) :
    '/' ∉ address := by
  intro among
  have each := @Text.forall_mem_intercalate (· ≠ '/') ['.'] (address.splitOn '.') (by decide) ?_
  · rw [List.intercalate_splitOn] at each
    exact each '/' among rfl
  · intro part inParts char inPart isSlash
    have digit := (isAddress.2 part inParts).2.1 char inPart
    rw [isSlash] at digit
    cases digit

theorem plain_of_bits (bits : Nat) : '/' ∉ Nat.toDigits 10 bits := fun among => by
  have digit := Nat.isDigit_of_mem_toDigits (by decide) (by decide) among
  cases digit

theorem parts_cidr {address : List Char} (isAddress : IsAddress address) (bits : Nat) :
    beforeSlash (network address bits) = address ∧
      afterSlash (network address bits) = Nat.toDigits 10 bits :=
  slash_append (plain_of_isAddress isAddress) (plain_of_bits bits)

/-! ## The comparison -/

theorem decimalConstant_eq {part : List Char} (octet : IsOctet part) :
    decimalConstant part = some (BitVec.ofNat 64 (decimal part)) :=
  if_pos ⟨octet.1, List.all_eq_true.mpr octet.2.1⟩

theorem apIp2int_eq {address : List Char} (isAddress : IsAddress address) :
    apIp2int address = some (BitVec.ofNat 64 (value address)) := by
  obtain ⟨a, b, c, d, parts, smallA, smallB, smallC, smallD, isValue⟩ := exists_octets isAddress
  have octets := isAddress.2
  rw [parts] at octets
  simp only [List.forall_mem_cons] at octets
  obtain ⟨octetA, octetB, octetC, octetD, -⟩ := octets
  rw [apIp2int, parts, isValue, ← or_octets smallA smallB smallC smallD]
  simp only [decimalConstant_eq octetA, decimalConstant_eq octetB, decimalConstant_eq octetC,
    decimalConstant_eq octetD]
  rfl

theorem constant_eq {bits : Nat} (small : bits ≤ 32) :
    constant (Nat.toDigits 10 bits) = some (BitVec.ofNat 64 bits) := by
  have all : ∀ bits < 33, constant (Nat.toDigits 10 bits) = some (BitVec.ofNat 64 bits) := by
    decide +kernel
  exact all bits (Nat.lt_succ_of_le small)

/-- Numbers of bits are compared as they are. -/
theorem slt_ofNat {left right : Nat} (leftSmall : left ≤ 32) (rightSmall : right ≤ 32) :
    (BitVec.ofNat 64 left).slt (BitVec.ofNat 64 right) = decide (left < right) := by
  have toInt {bits : Nat} (small : bits ≤ 32) : (BitVec.ofNat 64 bits).toInt = bits := by
    have fits : bits < 2 ^ 64 := small.trans_lt (by decide)
    have positive : 2 * bits < 2 ^ 64 := (Nat.mul_le_mul_left 2 small).trans_lt (by decide)
    have isNat : (BitVec.ofNat 64 bits).toNat = bits := by
      rw [BitVec.toNat_ofNat, Nat.mod_eq_of_lt fits]
    rw [BitVec.toInt_eq_toNat_of_lt (by rw [isNat]; exact positive), isNat]
  rw [BitVec.slt, toInt leftSmall, toInt rightSmall]
  simp only [Nat.cast_lt]

theorem min_eq {left right : Nat} (leftSmall : left ≤ 32) (rightSmall : right ≤ 32) :
    (if (BitVec.ofNat 64 left).slt (BitVec.ofNat 64 right) then BitVec.ofNat 64 left
      else BitVec.ofNat 64 right) = BitVec.ofNat 64 (min left right) := by
  rw [slt_ofNat leftSmall rightSmall]
  by_cases less : left < right
  · rw [if_pos (decide_eq_true less), min_eq_left less.le]
  · rw [if_neg (by simpa using less), min_eq_right (Nat.le_of_not_lt less)]

section Comparison

variable {left right : List Char} {leftBits rightBits : Nat} (isLeft : IsAddress left)
  (isRight : IsAddress right) (leftSmall : leftBits ≤ 32) (rightSmall : rightBits ≤ 32)

include isLeft isRight leftSmall rightSmall

theorem apCidrOverlaps_eq :
    apCidrOverlaps (network left leftBits) (network right rightBits) =
      some (decide (BitVec.ofNat 64 (value left) &&&
          mask (BitVec.ofNat 64 (min leftBits rightBits)) =
        BitVec.ofNat 64 (value right) &&& mask (BitVec.ofNat 64 (min leftBits rightBits)))) := by
  simp only [apCidrOverlaps, parts_cidr isLeft, parts_cidr isRight, constant_eq leftSmall,
    constant_eq rightSmall, apIp2int_eq isLeft, apIp2int_eq isRight, Option.bind_eq_bind,
    Option.bind_some, min_eq leftSmall rightSmall]
  rfl

/-- The comparison succeeds exactly if the networks share an address. -/
theorem apCidrOverlaps_iff :
    apCidrOverlaps (network left leftBits) (network right rightBits) = some true ↔
      Intersect (value left) leftBits (value right) rightBits := by
  have small : min leftBits rightBits ≤ 32 := (min_le_left _ _).trans leftSmall
  rw [apCidrOverlaps_eq isLeft isRight leftSmall rightSmall,
    intersect_iff (value_lt isLeft) (value_lt isRight),
    ← and_mask_eq_iff (value_lt isLeft) (value_lt isRight) small, Option.some_inj,
    decide_eq_true_eq]

end Comparison

/-! ## Networks that are not free -/

/-- The network of a gateway shares no address with the one a text stands for. -/
def Apart (gw text : List Char) : Prop :=
  ∀ address bits, Denotes text address bits → ¬ Intersect (value gw) 24 address bits

/-- The words behind a word `dev`. -/
def devices (rest : List Char) : List (List Char) :=
  ((words rest).zip ((words rest).drop 1)).filterMap fun (word, next) =>
    if word = "dev".toList then some next else none

/-- A line is a route to a destination, by another device than the access point's. -/
def OnOther (apIf line : List Char) : Prop :=
  (readLine line).1 ≠ "default".toList ∧ ∃ dev ∈ devices (readLine line).2, dev ≠ apIf

/-- The network of an address: that of the peer where the address has no prefix. -/
def addrNetwork (line : List Char) : List Char :=
  let own := (addrFields line).2
  if '/' ∈ own then own else (words line)[5]?.getD []

/-- No destination and no address of another device is in the network of a gateway. -/
structure Free (routes addrs : List (List Char)) (apIf gw : List Char) : Prop where
  routes : ∀ line ∈ routes, OnOther apIf line → Apart gw (readLine line).1
  addrs : ∀ line ∈ addrs, (addrFields line).1 ≠ apIf → (addrFields line).1 ≠ "lo".toList →
    Apart gw (addrNetwork line)

/-- Other routes than the default one begin with an address or a network. -/
def BeginWithNetworks (routes : List (List Char)) : Prop :=
  ∀ line ∈ routes, (readLine line).1 ≠ "default".toList →
    ∃ address bits, Denotes (readLine line).1 address bits

/-- Each line of another device is compared: it is not the access point's device that a route
names last, and an address has its prefix. -/
structure Compared (routes addrs : List (List Char)) (apIf : List Char) : Prop where
  routes : ∀ line ∈ routes, OnOther apIf line → routeDev (readLine line).2 ≠ apIf
  addrs : ∀ line ∈ addrs, (addrFields line).1 ≠ apIf → (addrFields line).1 ≠ "lo".toList →
    IsCidr (addrFields line).2

/-! ## The loops -/

/-- A destination as it is compared. -/
theorem Denotes.completed {text : List Char} {number bits : Nat}
    (denotes : Denotes text number bits) :
    ∃ address, IsAddress address ∧ bits ≤ 32 ∧ number = value address ∧
      (if '/' ∈ text then text else text ++ "/32".toList) = network address bits := by
  cases denotes with
  | host isAddress =>
      refine ⟨text, isAddress, le_rfl, rfl, ?_⟩
      rw [if_neg (plain_of_isAddress isAddress)]
      rfl
  | @cidr address _ isAddress small =>
      exact ⟨address, isAddress, small, rfl, if_pos (by simp [network])⟩

theorem routeItem_eq_some {apIf line : List Char} {item : List Char × List Char} :
    routeItem apIf line = some item ↔
      (readLine line).1 ≠ "default".toList ∧ routeDev (readLine line).2 ≠ apIf ∧
        item = (routeDev (readLine line).2,
          if '/' ∈ (readLine line).1 then (readLine line).1
          else (readLine line).1 ++ "/32".toList) := by
  simp only [routeItem, Option.ite_none_left_eq_some, Option.some_inj, @eq_comm _ item, ne_eq]

theorem addrItem_eq_some {apIf line : List Char} {item : List Char × List Char} :
    addrItem apIf line = some item ↔
      ((addrFields line).1 ≠ apIf ∧ (addrFields line).1 ≠ "lo".toList) ∧
        item = addrFields line := by
  simp only [addrItem, Option.ite_none_left_eq_some, Option.some_inj, @eq_comm _ item, ne_eq,
    not_or]

/-- A loop without an overlap and without an error has compared each line. -/
theorem apart_of_overlaps {net : List Char} {items : List (List Char × List Char)}
    (noError : ∀ item ∈ items, apCidrOverlaps net item.2 ≠ none)
    (nothing : overlaps net items = []) :
    ∀ item ∈ items, apCidrOverlaps net item.2 ≠ some true := by
  induction items with
  | nil => exact fun _ among => nomatch among
  | cons item items ih =>
      obtain ⟨first, later⟩ := List.forall_mem_cons.mp noError
      rw [overlaps] at nothing
      split at nothing
      next error => exact absurd error first
      · cases nothing
      next apart =>
        refine List.forall_mem_cons.mpr ⟨?_, ih later nothing⟩
        rw [apart]
        decide

section Lines

variable {gw apIf : List Char} (isGateway : IsAddress gw)

include isGateway

theorem ne_none_of_isCidr {text : List Char} (isCidr : IsCidr text) :
    apCidrOverlaps (network gw 24) text ≠ none := by
  obtain ⟨address, bits, isAddress, small, rfl⟩ := isCidr
  rw [apCidrOverlaps_eq isGateway isAddress (by decide) small]
  exact Option.some_ne_none _

/-- A destination that is compared without an overlap. -/
theorem Apart.of_destination {text : List Char}
    (apart : apCidrOverlaps (network gw 24)
      (if '/' ∈ text then text else text ++ "/32".toList) ≠ some true) :
    Apart gw text := by
  intro number bits denotes
  obtain ⟨address, isAddress, small, isNumber, completed⟩ := denotes.completed
  rwa [completed, ne_eq, apCidrOverlaps_iff isGateway isAddress (by decide) small,
    ← isNumber] at apart

/-- The destinations of the routes that the loop compares. -/
theorem apart_of_routes {routes : List (List Char)} (beginning : BeginWithNetworks routes)
    (nothing : overlaps (network gw 24) (routes.filterMap (routeItem apIf)) = [])
    {line : List Char} (among : line ∈ routes)
    (notDefault : (readLine line).1 ≠ "default".toList)
    (other : routeDev (readLine line).2 ≠ apIf) : Apart gw (readLine line).1 := by
  have noError : ∀ item ∈ routes.filterMap (routeItem apIf),
      apCidrOverlaps (network gw 24) item.2 ≠ none := by
    intro item inItems
    obtain ⟨source, inRoutes, isItem⟩ := List.mem_filterMap.mp inItems
    obtain ⟨notDefault, -, rfl⟩ := routeItem_eq_some.mp isItem
    obtain ⟨number, bits, denotes⟩ := beginning source inRoutes notDefault
    obtain ⟨address, isAddress, small, -, completed⟩ := denotes.completed
    exact ne_none_of_isCidr isGateway ⟨address, bits, isAddress, small, completed⟩
  have isItem := routeItem_eq_some.mpr ⟨notDefault, other, rfl⟩
  have apart := apart_of_overlaps noError nothing _ (List.mem_filterMap.mpr ⟨line, among, isItem⟩)
  exact Apart.of_destination isGateway apart

/-- The networks of the addresses that the loop compares. -/
theorem apart_of_addrs {addrs : List (List Char)}
    (prefixed : ∀ line ∈ addrs, (addrFields line).1 ≠ apIf →
      (addrFields line).1 ≠ "lo".toList → IsCidr (addrFields line).2)
    (nothing : overlaps (network gw 24) (addrs.filterMap (addrItem apIf)) = [])
    {line : List Char} (among : line ∈ addrs) (other : (addrFields line).1 ≠ apIf)
    (notLoopback : (addrFields line).1 ≠ "lo".toList) : Apart gw (addrNetwork line) := by
  have noError : ∀ item ∈ addrs.filterMap (addrItem apIf),
      apCidrOverlaps (network gw 24) item.2 ≠ none := by
    intro item inItems
    obtain ⟨source, inAddrs, isItem⟩ := List.mem_filterMap.mp inItems
    obtain ⟨⟨other, notLoopback⟩, rfl⟩ := addrItem_eq_some.mp isItem
    exact ne_none_of_isCidr isGateway (prefixed source inAddrs other notLoopback)
  have isItem := addrItem_eq_some.mpr ⟨⟨other, notLoopback⟩, rfl⟩
  have apart := apart_of_overlaps noError nothing _ (List.mem_filterMap.mpr ⟨line, among, isItem⟩)
  obtain ⟨address, bits, isAddress, small, isCidr⟩ := prefixed line among other notLoopback
  have slash : '/' ∈ (addrFields line).2 := by simp [isCidr, network]
  apply Apart.of_destination isGateway
  rw [addrNetwork, if_pos slash, if_pos slash]
  exact apart

end Lines

/-! ## The address that is suggested -/

theorem isAddress_candidate {n : Nat} (small : n < 255) : IsAddress (candidate n) := by
  have all : ∀ n < 255, IsAddress (candidate n) := by decide +kernel
  exact all n small

/-- A suggestion is a candidate for which neither loop found an overlap. -/
theorem apSuggestFreeGw_cases {routes addrs : List (List Char)} {apIf gw : List Char}
    (suggested : apSuggestFreeGw routes addrs apIf = some gw) :
    IsAddress gw ∧ overlaps (network gw 24) (routes.filterMap (routeItem apIf)) = [] ∧
      overlaps (network gw 24) (addrs.filterMap (addrItem apIf)) = [] := by
  obtain ⟨n, found, rfl⟩ := Option.map_eq_some_iff.mp suggested
  have small := List.mem_range.mp (List.mem_of_find?_eq_some found)
  have nothing : apSubnetConflicts routes addrs (candidate n) apIf = [] := by
    simpa using List.find?_some found
  exact ⟨isAddress_candidate small, List.append_eq_nil_iff.mp nothing⟩

/-- The comparison of two networks is exact, and an address that is suggested while each line
of another device is compared has a free network. -/
theorem free_of_apSuggestFreeGw (routes addrs : List (List Char)) (apIf : List Char) :
    (∀ left right leftBits rightBits, IsAddress left → IsAddress right → leftBits ≤ 32 →
      rightBits ≤ 32 →
      (apCidrOverlaps (network left leftBits) (network right rightBits) = some true ↔
        Intersect (value left) leftBits (value right) rightBits)) ∧
    (BeginWithNetworks routes → Compared routes addrs apIf →
      ∀ gw, apSuggestFreeGw routes addrs apIf = some gw → Free routes addrs apIf gw) := by
  constructor
  · intro left right leftBits rightBits isLeft isRight leftSmall rightSmall
    exact apCidrOverlaps_iff isLeft isRight leftSmall rightSmall
  · intro beginning compared gw suggested
    obtain ⟨isGateway, noRoute, noAddr⟩ := apSuggestFreeGw_cases suggested
    constructor
    · intro line among onOther
      exact apart_of_routes isGateway beginning noRoute among onOther.1
        (compared.routes line among onOther)
    · intro line among other notLoopback
      exact apart_of_addrs isGateway compared.addrs noAddr among other notLoopback

/-- Two networks, and the lines of a machine whose `wlan0` is at another hub. -/
theorem free_of_apSuggestFreeGw_joined :
    let routes := ["default via 10.42.0.1 dev wlan0 proto dhcp metric 600".toList,
      "10.42.0.0/24 dev wlan0 proto kernel scope link src 10.42.0.15 metric 600".toList]
    let addrs := ["1: lo    inet 127.0.0.1/8 scope host lo".toList,
      "3: wlan0    inet 10.42.0.15/24 brd 10.42.0.255 scope global wlan0".toList]
    Intersect (value "10.42.0.1".toList) 24 (value "10.42.0.77".toList) 32 ∧
      Free routes addrs "wlan1".toList "10.42.1.1".toList := by
  intro routes addrs
  obtain ⟨exact_, free⟩ := free_of_apSuggestFreeGw routes addrs "wlan1".toList
  have isNetwork : Denotes "10.42.0.0/24".toList (value "10.42.0.0".toList) 24 :=
    @Denotes.cidr "10.42.0.0".toList 24 (by decide +kernel) (by decide)
  have isCidr : IsCidr "10.42.0.15/24".toList :=
    ⟨"10.42.0.15".toList, 24, by decide +kernel, by decide, rfl⟩
  constructor
  · exact (exact_ "10.42.0.1".toList "10.42.0.77".toList 24 32 (by decide +kernel)
      (by decide +kernel) (by decide) (by decide)).mp (by decide +kernel)
  · refine free ?_ ⟨?_, ?_⟩ _ (by decide +kernel)
    · refine List.forall_mem_cons.mpr ⟨fun notDefault => absurd rfl notDefault, ?_⟩
      exact List.forall_mem_singleton.mpr fun _ => ⟨_, _, isNetwork⟩
    · refine List.forall_mem_cons.mpr ⟨fun onOther => absurd rfl onOther.1, ?_⟩
      exact List.forall_mem_singleton.mpr fun _ => by decide +kernel
    · refine List.forall_mem_cons.mpr ⟨fun _ notLoopback => absurd rfl notLoopback, ?_⟩
      exact List.forall_mem_singleton.mpr fun _ _ => isCidr

/-- Behind the address of a tunnel, which is printed without a prefix, no address is compared:
the network of `eth0`, which is down and has no route, is suggested. -/
theorem not_free_behind_peer :
    let routes := ["192.168.200.1 dev tun0 proto kernel scope link src 192.168.200.2".toList]
    let addrs := ["1: lo    inet 127.0.0.1/8 scope host lo".toList,
      "3: tun0    inet 192.168.200.2 peer 192.168.200.1/32 scope global tun0".toList,
      "4: eth0    inet 10.42.0.7/24 brd 10.42.0.255 scope global eth0".toList]
    BeginWithNetworks routes ∧
      apSuggestFreeGw routes addrs "wlan1".toList = some "10.42.0.1".toList ∧
      ¬ Free routes addrs "wlan1".toList "10.42.0.1".toList := by
  intro routes addrs
  refine ⟨?_, by decide +kernel, ?_⟩
  · exact List.forall_mem_singleton.mpr fun _ =>
      ⟨_, _, @Denotes.host "192.168.200.1".toList (by decide +kernel)⟩
  · intro free
    have isNetwork : Denotes "10.42.0.7/24".toList (value "10.42.0.7".toList) 24 :=
      @Denotes.cidr "10.42.0.7".toList 24 (by decide +kernel) (by decide)
    have apart := free.addrs
      "4: eth0    inet 10.42.0.7/24 brd 10.42.0.255 scope global eth0".toList (by simp [addrs])
      (by decide +kernel) (by decide +kernel)
    exact apart _ _ isNetwork ⟨value "10.42.0.1".toList, by rw [InNetwork]; decide +kernel,
      by rw [InNetwork]; decide +kernel⟩

end ApSubnet

end PresenceLogger.Hub
