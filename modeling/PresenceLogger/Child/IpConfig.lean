import PresenceLogger.Library.Ipv4
import PresenceLogger.Library.Json
import PresenceLogger.Library.TextFile

/-!
# A request for an address

A child is sent the address it should take as a JSON object.  The request is answered before
the address is applied; what cannot be read or is no address is answered with an error.
-/

namespace PresenceLogger.Child

open Library Library.Text

namespace IpConfig

/-! ## Addresses -/

/-- The first and the last of the digits that are not decimal, run by run. -/
def otherDigits : List (Nat × Nat) :=
  [(0xb2, 0xb3), (0xb9, 0xb9), (0x1369, 0x1371), (0x19da, 0x19da), (0x2070, 0x2070),
    (0x2074, 0x2079), (0x2080, 0x2089), (0x2460, 0x2468), (0x2474, 0x247c), (0x2488, 0x2490),
    (0x24ea, 0x24ea), (0x24f5, 0x24fd), (0x24ff, 0x24ff), (0x2776, 0x277e), (0x2780, 0x2788),
    (0x278a, 0x2792), (0x10a40, 0x10a43), (0x10e60, 0x10e68), (0x11052, 0x1105a),
    (0x1f100, 0x1f10a)]

/-- `str.isdigit` of a character, which a superscript is too. -/
def isDigitChar (char : Char) : Bool :=
  (decimalValue char).isSome ||
    otherDigits.any fun run => run.1 ≤ char.toNat && char.toNat ≤ run.2

/-- `p.isdigit()` -/
def isDigits (part : List Char) : Bool := !part.isEmpty && part.all isDigitChar

/-- `p.isdigit() and 0 <= int(p) <= 255`, with `none` for a `ValueError`. -/
def validOctet (part : List Char) : Option Bool :=
  if isDigits part then (parseInt part).map fun value => 0 ≤ value ∧ value ≤ 255 else some false

/-- `all(...)`, which stops at the first that is false. -/
def allOctets : List (List Char) → Option Bool
  | [] => some true
  | part :: parts =>
      match validOctet part with
      | some true => allOctets parts
      | other => other

/-- `_valid_ipv4`, with `none` for a `ValueError`. -/
def validIpv4 (text : List Char) : Option Bool :=
  let parts := text.splitOn '.'
  if parts.length ≠ 4 then some false else allOctets parts

/-! ## The request -/

inductive Reply where
  /-- `str(e)` -/
  | failed
  | error (text : String)
  | success (revertSec : Nat)

/-- What the thread that is started applies. -/
inductive Applied where
  /-- The servers are joined by blanks. -/
  | static (ip : List Char) (pfx : Int) (gateway : List Char) (dnsList : List (List Char))
  | dhcp

/-- The replies that are sent, and what is applied after them. -/
structure Outcome where
  replies : List Reply
  applied : Option Applied

/-- How a request ends before anything is applied. -/
inductive Stop where
  /-- An exception that nothing catches. -/
  | raised
  | replied (reply : Reply)

/-- `IP_REVERT_DELAY` -/
def ipRevertDelay : Nat := 60

/-- Refuse a text that is no address. -/
def require (error : String) (text : List Char) : Except Stop Unit :=
  match validIpv4 text with
  | none => .error .raised
  | some false => .error (.replied (.error error))
  | some true => .ok ()

/-- Refuse the first text that is no address. -/
def requireAll (error : String) : List (List Char) → Except Stop Unit
  | [] => .ok ()
  | text :: texts => (require error text).bind fun _ => requireAll error texts

/-- `[d for d in re.split(r'[\s,]+', dns) if d]` -/
def splitDns (dns : List Char) : List (List Char) :=
  (dns.splitOnP fun char => isSpace char || char = ',').filter (· ≠ [])

/-- The checks of a static address. -/
def checkStatic (ip : List Char) (pfx : Int) (gateway dns : List Char) : Except Stop Unit := do
  require "IPアドレスが不正です" ip
  if ¬(1 ≤ pfx ∧ pfx ≤ 32) then
    throw (.replied (.error "プレフィックス長が不正です（1〜32）"))
  if gateway ≠ [] then require "ゲートウェイが不正です" gateway
  requireAll "DNSが不正です" (splitDns dns)

/-- What stands for a lone surrogate: no digit, no white space and no separator either. -/
def standIn : Char := '\uFFFD'

section Request

/- `str` of the floats and containers, and `json.loads(body.decode('utf-8'))`. -/
variable (render : Json → List Char) (loads : ByteArray → Decoded)

/-- `str(data)` -/
def textOf : Json → List Char
  | .null => "None".toList
  | .bool value => (if value then "True" else "False").toList
  | .int value => ofInt value
  | .str value => value.toList
  | .surrogates pieces => [standIn].intercalate (pieces.map String.toList)
  | data => render data

/-- `int(data.get('prefix', 24))`, where only two exceptions are caught. -/
def prefixOf (data : Json) : Except Stop Int :=
  match data.toInt with
  | .ok value => .ok value
  | .error .valueError | .error .typeError => .ok 24
  | .error _ => .error .raised

/-- The request once its fields are found. -/
def handleFields (fields : List (String × Json)) : Except Stop Outcome := do
  let mode := Json.fieldOr fields "mode" (.str "static")
  let ip := strip (textOf render (Json.fieldOr fields "ip" (.str "")))
  let gateway := strip (textOf render (Json.fieldOr fields "gateway" (.str "")))
  let dns := strip (textOf render (Json.fieldOr fields "dns" (.str "")))
  let pfx ← prefixOf (Json.fieldOr fields "prefix" (.int 24))
  if mode.isText "static" then
    checkStatic ip pfx gateway dns
    return ⟨[.success ipRevertDelay], some (.static ip pfx gateway (splitDns dns))⟩
  else if mode.isText "dhcp" then return ⟨[.success 0], some .dhcp⟩
  else throw (.replied (.error "modeが不正です"))

/-- A request that stops has applied nothing. -/
def finish : Except Stop Outcome → Outcome
  | .ok outcome => outcome
  | .error .raised => ⟨[], none⟩
  | .error (.replied reply) => ⟨[reply], none⟩

/-- `handle_set_ip_config` -/
def handleSetIpConfig (body : ByteArray) : Outcome :=
  match loads body with
  | .invalid | .tooDeep => ⟨[.failed], none⟩
  | .value (.obj fields) => finish (handleFields render fields)
  -- Other values have no `get`.
  | .value _ => ⟨[], none⟩

end Request

/-! ## What is applied -/

/-- The reply to a request, and what may be applied after it. -/
structure Validated (data : Decoded) (outcome : Outcome) : Prop where
  oneReply : outcome.replies.length = 1
  static {ip : List Char} {pfx : Int} {gateway : List Char} {dnsList : List (List Char)}
    (applied : outcome.applied = some (.static ip pfx gateway dnsList)) :
    Ipv4.IsAddress ip ∧ (1 ≤ pfx ∧ pfx ≤ 32) ∧ (gateway ≠ [] → Ipv4.IsAddress gateway) ∧
      ∀ server ∈ dnsList, Ipv4.IsAddress server
  dhcp (applied : outcome.applied = some .dhcp) : ∃ fields, data = .value (.obj fields) ∧
    (Json.fieldOr fields "mode" (.str "static")).isText "dhcp" = true

/-! ## Octets -/

/-- Only the decimal digits are digits of ASCII. -/
theorem isDigit_of_isDigitChar {char : Char} (digit : isDigitChar char = true)
    (ascii : char.toNat < 128) : char.isDigit = true := by
  have all : ∀ code < 128, isDigitChar (Char.ofNat code) = true →
      (Char.ofNat code).isDigit = true := by decide +kernel
  have same : Char.ofNat char.toNat = char := Char.ofNat_toNat char
  exact same ▸ all char.toNat ascii (same.symm ▸ digit)

theorem toNat_lt_of_isDigit {char : Char} (digit : char.isDigit = true) : char.toNat < 128 := by
  simp only [Char.isDigit, Bool.and_eq_true, decide_eq_true_eq] at digit
  have high : char.toNat ≤ 57 := digit.2
  exact Nat.lt_of_le_of_lt high (by decide)

theorem isDigits_iff {part : List Char} :
    isDigits part = true ↔ part ≠ [] ∧ ∀ char ∈ part, isDigitChar char = true := by
  rw [isDigits, Bool.and_eq_true, List.all_eq_true]
  simp

/-- An accepted octet of ASCII characters is a decimal number. -/
theorem ascii_of_validOctet {part : List Char} (valid : validOctet part = some true)
    (ascii : ∀ char ∈ part, char.toNat < 128) :
    Ipv4.IsOctet part := by
  rw [validOctet] at valid
  split at valid
  next digits =>
    obtain ⟨nonempty, each⟩ := isDigits_iff.mp digits
    have decimal : ∀ char ∈ part, char.isDigit = true := fun char among =>
      isDigit_of_isDigitChar (each char among) (ascii char among)
    rw [parseInt_of_digits nonempty decimal] at valid
    split at valid
    · rw [Option.map_some, Option.some_inj, decide_eq_true_eq] at valid
      exact ⟨nonempty, decimal, by exact_mod_cast valid.2⟩
    · cases valid
  next => cases valid

theorem allOctets_eq_true {parts : List (List Char)} :
    allOctets parts = some true ↔ ∀ part ∈ parts, validOctet part = some true := by
  induction parts with
  | nil => simp [allOctets]
  | cons part parts ih =>
      rw [allOctets, List.forall_mem_cons, ← ih]
      cases valid : validOctet part with
      | none => simp
      | some accepts => cases accepts <;> simp

/-- An accepted text of ASCII characters is an address of four decimal octets. -/
theorem isAddress_iff {text : List Char} (valid : validIpv4 text = some true) :
    Ipv4.IsAddress text ↔ ∀ char ∈ text, char.toNat < 128 := by
  rw [validIpv4] at valid
  split at valid
  next => cases valid
  next four =>
    rw [not_not] at four
    rw [allOctets_eq_true] at valid
    constructor
    · rintro ⟨-, octets⟩
      have each := @forall_mem_intercalate (fun char => char.toNat < 128) ['.'] (text.splitOn '.')
        (by decide) fun part isPart char inPart =>
          toNat_lt_of_isDigit ((octets part isPart).2.1 char inPart)
      rwa [List.intercalate_splitOn] at each
    · intro ascii
      exact ⟨four, fun part isPart => ascii_of_validOctet (valid part isPart) fun char inPart =>
        ascii char (mem_of_mem_splitOn isPart char inPart).1⟩

/-! ## When a request is validated -/

/-- The first text that is not accepted. -/
def firstOther (texts : List (List Char)) : Option (List Char) :=
  (texts.dropWhile fun text => validIpv4 text = some true).head?

/-- The texts that are checked, in order; the prefix is checked behind the first. -/
def checkedTexts (ip : List Char) (pfx : Int) (gateway dns : List Char) : List (List Char) :=
  if 1 ≤ pfx ∧ pfx ≤ 32 then
    ip :: ((if gateway = [] then [] else [gateway]) ++ splitDns dns)
  else [ip]

/-- The checks raise nothing, and accept ASCII only. -/
structure Harmless (ip : List Char) (pfx : Int) (gateway dns : List Char) : Prop where
  refused : ∀ text ∈ firstOther (checkedTexts ip pfx gateway dns), validIpv4 text = some false
  ascii : firstOther (checkedTexts ip pfx gateway dns) = none → 1 ≤ pfx ∧ pfx ≤ 32 →
    ∀ text ∈ checkedTexts ip pfx gateway dns, ∀ char ∈ text, char.toNat < 128

theorem firstOther_cons (text : List Char) (texts : List (List Char)) :
    firstOther (text :: texts) =
      if validIpv4 text = some true then firstOther texts else some text := by
  rw [firstOther, List.dropWhile_cons]
  simp only [decide_eq_true_eq]
  split <;> rfl

theorem firstOther_eq_none {texts : List (List Char)} :
    firstOther texts = none ↔ ∀ text ∈ texts, validIpv4 text = some true := by
  rw [firstOther, List.head?_eq_none_iff, List.dropWhile_eq_nil_iff]
  simp

/-- How checks end, by the first text that is not accepted. -/
inductive Ends (texts : List (List Char)) : Except Stop Unit → Prop
  | accepted (all : firstOther texts = none) : Ends texts (.ok ())
  | raised {text : List Char} (first : firstOther texts = some text)
      (raises : validIpv4 text = none) : Ends texts (.error .raised)
  | refused {text : List Char} (first : firstOther texts = some text)
      (refuses : validIpv4 text = some false) (error : String) :
      Ends texts (.error (.replied (.error error)))

/-- A check goes before others. -/
theorem Ends.cons (error : String) (text : List Char) {texts : List (List Char)}
    {rest : Except Stop Unit} (ends : Ends texts rest) :
    Ends (text :: texts) ((require error text).bind fun _ => rest) := by
  have first := firstOther_cons text texts
  rw [require]
  cases valid : validIpv4 text with
  | none =>
      rw [if_neg (by simp [valid])] at first
      exact .raised first valid
  | some accepts =>
      cases accepts with
      | false =>
          rw [if_neg (by simp [valid])] at first
          exact .refused first valid error
      | true =>
          rw [if_pos valid] at first
          cases ends with
          | accepted all => exact .accepted (first.trans all)
          | raised isFirst raises => exact .raised (first.trans isFirst) raises
          | refused isFirst refuses other => exact .refused (first.trans isFirst) refuses other

theorem ends_requireAll (error : String) (texts : List (List Char)) :
    Ends texts (requireAll error texts) := by
  induction texts with
  | nil => exact .accepted rfl
  | cons text texts ih => exact ih.cons error text

/-- The checks of an address, one behind the other. -/
theorem checkStatic_eq (ip : List Char) (pfx : Int) (gateway dns : List Char) :
    checkStatic ip pfx gateway dns = (require "IPアドレスが不正です" ip).bind fun _ =>
      if 1 ≤ pfx ∧ pfx ≤ 32 then
        if gateway = [] then requireAll "DNSが不正です" (splitDns dns)
        else (require "ゲートウェイが不正です" gateway).bind fun _ =>
          requireAll "DNSが不正です" (splitDns dns)
      else .error (.replied (.error "プレフィックス長が不正です（1〜32）")) := by
  rw [checkStatic]
  by_cases inRange : 1 ≤ pfx ∧ pfx ≤ 32
  · rw [if_pos inRange, if_neg (not_not_intro inRange)]
    by_cases absent : gateway = []
    · rw [if_pos absent, if_neg (not_not_intro absent)]
      rfl
    · rw [if_neg absent, if_pos absent]
      rfl
  · rw [if_neg inRange, if_pos inRange]
    rfl

/-- The checks of an address whose prefix is in range. -/
theorem ends_checkStatic {ip : List Char} {pfx : Int} {gateway dns : List Char}
    (inRange : 1 ≤ pfx ∧ pfx ≤ 32) :
    Ends (checkedTexts ip pfx gateway dns) (checkStatic ip pfx gateway dns) := by
  have servers := ends_requireAll "DNSが不正です" (splitDns dns)
  rw [checkStatic_eq, checkedTexts, if_pos inRange, if_pos inRange]
  by_cases absent : gateway = []
  · rw [if_pos absent, if_pos absent]
    exact servers.cons _ ip
  · rw [if_neg absent, if_neg absent]
    exact (servers.cons _ gateway).cons _ ip

/-- A prefix out of range is refused behind the address. -/
theorem checkStatic_outOfRange {ip : List Char} {pfx : Int} {gateway dns : List Char}
    (outOfRange : ¬(1 ≤ pfx ∧ pfx ≤ 32)) :
    (checkedTexts ip pfx gateway dns = [ip]) ∧
      checkStatic ip pfx gateway dns = (require "IPアドレスが不正です" ip).bind fun _ =>
        .error (.replied (.error "プレフィックス長が不正です（1〜32）")) := by
  rw [checkStatic_eq, checkedTexts, if_neg outOfRange, if_neg outOfRange]
  exact ⟨rfl, rfl⟩

theorem validated_replied (data : Decoded) (reply : Reply) : Validated data ⟨[reply], none⟩ := by
  refine ⟨rfl, fun applied => ?_, fun applied => ?_⟩
  · cases applied
  · cases applied

theorem not_validated_raised (data : Decoded) : ¬Validated data ⟨[], none⟩ :=
  fun validated => absurd validated.oneReply (by decide)

/-- How a request for a static address ends. -/
def staticOutcome (ip : List Char) (pfx : Int) (gateway dns : List Char) : Outcome :=
  finish ((checkStatic ip pfx gateway dns).map fun _ =>
    ⟨[.success ipRevertDelay], some (.static ip pfx gateway (splitDns dns))⟩)

/-- What is applied is validated if its texts are ASCII. -/
theorem validated_static {data : Decoded} {ip : List Char} {pfx : Int} {gateway dns : List Char}
    (inRange : 1 ≤ pfx ∧ pfx ≤ 32)
    (all : ∀ text ∈ checkedTexts ip pfx gateway dns, validIpv4 text = some true) :
    Validated data
        ⟨[.success ipRevertDelay], some (.static ip pfx gateway (splitDns dns))⟩ ↔
      ∀ text ∈ checkedTexts ip pfx gateway dns, ∀ char ∈ text, char.toNat < 128 := by
  have texts : (∀ text ∈ checkedTexts ip pfx gateway dns, Ipv4.IsAddress text) ↔
      Ipv4.IsAddress ip ∧ (gateway ≠ [] → Ipv4.IsAddress gateway) ∧
        ∀ server ∈ splitDns dns, Ipv4.IsAddress server := by
    rw [checkedTexts, if_pos inRange, List.forall_mem_cons, List.forall_mem_append]
    by_cases absent : gateway = []
    · simp [absent]
    · simp [absent]
  have each : (∀ text ∈ checkedTexts ip pfx gateway dns, Ipv4.IsAddress text) ↔
      ∀ text ∈ checkedTexts ip pfx gateway dns, ∀ char ∈ text, char.toNat < 128 :=
    forall₂_congr fun text among => isAddress_iff (all text among)
  rw [← each, texts]
  constructor
  · intro validated
    obtain ⟨isIp, -, others⟩ := validated.static rfl
    exact ⟨isIp, others⟩
  · intro ⟨isIp, others⟩
    refine ⟨rfl, fun applied => ?_, fun applied => ?_⟩
    · cases applied
      exact ⟨isIp, inRange, others⟩
    · cases applied

/-- A static address is validated exactly if its checks are harmless. -/
theorem validated_staticOutcome {data : Decoded} {ip : List Char} {pfx : Int}
    {gateway dns : List Char} :
    Validated data (staticOutcome ip pfx gateway dns) ↔ Harmless ip pfx gateway dns := by
  by_cases inRange : 1 ≤ pfx ∧ pfx ≤ 32
  · have ends := @ends_checkStatic ip pfx gateway dns inRange
    rw [staticOutcome]
    generalize checkStatic ip pfx gateway dns = result at ends
    cases ends with
    | accepted all =>
        have accepted := @validated_static data ip pfx gateway dns inRange
          (firstOther_eq_none.mp all)
        refine accepted.trans ⟨fun ascii => ⟨?_, fun _ _ => ascii⟩, fun harmless =>
          harmless.ascii all inRange⟩
        rw [all]
        exact fun _ among => nomatch among
    | raised first raises =>
        refine iff_of_false (not_validated_raised data) fun harmless => ?_
        have refuses := harmless.refused _ first
        rw [raises] at refuses
        cases refuses
    | refused first refuses error =>
        refine iff_of_true (validated_replied data _) ⟨?_, fun all => ?_⟩
        · rw [first]
          exact fun text isFirst => Option.mem_some.mp isFirst ▸ refuses
        · rw [first] at all
          cases all
  · obtain ⟨onlyIp, outcome⟩ := @checkStatic_outOfRange ip pfx gateway dns inRange
    have first := firstOther_cons ip []
    have harmless (refused : ∀ text ∈ firstOther [ip], validIpv4 text = some false) :
        Harmless ip pfx gateway dns := by
      refine ⟨?_, fun _ inRange' => absurd inRange' inRange⟩
      rwa [onlyIp]
    rw [staticOutcome, outcome, require]
    cases valid : validIpv4 ip with
    | none =>
        rw [if_neg (by simp [valid])] at first
        refine iff_of_false (not_validated_raised data) fun harmless => ?_
        have refuses := harmless.refused ip (by rw [onlyIp, first]; rfl)
        rw [valid] at refuses
        cases refuses
    | some accepts =>
        cases accepts with
        | false =>
            rw [if_neg (by simp [valid])] at first
            refine iff_of_true (validated_replied data _) (harmless ?_)
            rw [first]
            exact fun text isFirst => Option.mem_some.mp isFirst ▸ valid
        | true =>
            rw [if_pos valid] at first
            refine iff_of_true (validated_replied data _) (harmless ?_)
            rw [first]
            exact fun _ among => nomatch among

section Request

variable (render : Json → List Char)

/-- The value of the prefix is no infinite number, and the checks of a static address are
harmless. -/
def HarmlessFields (fields : List (String × Json)) : Prop :=
  (∀ negative, Json.fieldOr fields "prefix" (.int 24) ≠ .float (.infinite negative)) ∧
    ((Json.fieldOr fields "mode" (.str "static")).isText "static" = true →
      ∀ pfx, prefixOf (Json.fieldOr fields "prefix" (.int 24)) = .ok pfx →
        Harmless (strip (textOf render (Json.fieldOr fields "ip" (.str "")))) pfx
          (strip (textOf render (Json.fieldOr fields "gateway" (.str ""))))
          (strip (textOf render (Json.fieldOr fields "dns" (.str "")))))

/-- A body is no JSON, or an object with harmless fields. -/
def HarmlessBody : Decoded → Prop
  | .invalid | .tooDeep => True
  | .value (.obj fields) => HarmlessFields render fields
  | .value _ => False

/-- Only an infinite number has no value that is caught. -/
theorem exists_prefixOf_iff (data : Json) :
    (∃ pfx, prefixOf data = .ok pfx) ↔ ∀ negative, data ≠ .float (.infinite negative) := by
  cases data with
  | null | bool | int | arr | obj | surrogates => simp [prefixOf, Json.toInt]
  | str value =>
      rw [prefixOf, Json.toInt]
      cases parseInt value.toList <;> simp
  | float value => cases value <;> simp [prefixOf, Json.toInt]

theorem eq_raised_of_prefixOf {data : Json} {stop : Stop} (isStop : prefixOf data = .error stop) :
    stop = .raised := by
  rw [prefixOf] at isStop
  split at isStop <;> cases isStop
  rfl

/-- How a request goes on once its prefix is known. -/
theorem handleFields_eq {fields : List (String × Json)} {pfx : Int}
    (isPrefix : prefixOf (Json.fieldOr fields "prefix" (.int 24)) = .ok pfx) :
    finish (handleFields render fields) =
      if (Json.fieldOr fields "mode" (.str "static")).isText "static" then
        staticOutcome (strip (textOf render (Json.fieldOr fields "ip" (.str "")))) pfx
          (strip (textOf render (Json.fieldOr fields "gateway" (.str ""))))
          (strip (textOf render (Json.fieldOr fields "dns" (.str ""))))
      else if (Json.fieldOr fields "mode" (.str "static")).isText "dhcp" then
        ⟨[.success 0], some .dhcp⟩
      else ⟨[.error "modeが不正です"], none⟩ := by
  simp only [handleFields, isPrefix, staticOutcome, bind, Except.bind]
  split
  · cases checkStatic _ _ _ _ <;> rfl
  · split <;> rfl

/-- The fields of an object are validated exactly if they are harmless. -/
theorem validated_handleFields (fields : List (String × Json)) :
    Validated (.value (.obj fields)) (finish (handleFields render fields)) ↔
      HarmlessFields render fields := by
  have converted := exists_prefixOf_iff (Json.fieldOr fields "prefix" (.int 24))
  rw [HarmlessFields, ← converted]
  cases isPrefix : prefixOf (Json.fieldOr fields "prefix" (.int 24)) with
  | error stop =>
      have stopped : handleFields render fields = .error .raised := by
        rw [handleFields, isPrefix, eq_raised_of_prefixOf isPrefix]
        rfl
      rw [stopped]
      exact iff_of_false (not_validated_raised _) fun harmless => nomatch harmless.1
  | ok pfx =>
      rw [handleFields_eq render isPrefix]
      split
      next static =>
        rw [validated_staticOutcome]
        constructor
        · intro harmless
          refine ⟨⟨pfx, rfl⟩, fun _ other isOther => ?_⟩
          cases isOther
          exact harmless
        · exact fun harmless => harmless.2 static pfx rfl
      next notStatic =>
        refine iff_of_true ?_ ⟨⟨pfx, rfl⟩, fun static => absurd static notStatic⟩
        split
        next isDhcp =>
          refine ⟨rfl, fun applied => ?_, fun _ => ⟨fields, rfl, isDhcp⟩⟩
          cases applied
        next => exact validated_replied _ _

/-- A request is answered once and only addresses are applied, exactly if its body is
harmless. -/
theorem validated_handleSetIpConfig (loads : ByteArray → Decoded) (body : ByteArray) :
    Validated (loads body) (handleSetIpConfig render loads body) ↔
      HarmlessBody render (loads body) := by
  rw [handleSetIpConfig]
  cases loads body with
  | invalid => exact iff_of_true (validated_replied _ _) trivial
  | tooDeep => exact iff_of_true (validated_replied _ _) trivial
  | value data =>
      cases data with
      | obj fields => exact validated_handleFields render fields
      | null | bool | int | float | str | surrogates | arr =>
          exact iff_of_false (not_validated_raised _) id

end Request

/-- A superscript is a digit, but `int` does not take it. -/
theorem not_validated_superscript :
    ¬Validated (.value (.obj [("ip", .str "192.168.0.²")]))
      (handleSetIpConfig (fun _ => []) (fun _ => .value (.obj [("ip", .str "192.168.0.²")]))
        "\x7b\"ip\": \"192.168.0.²\"\x7d".toUTF8) := by
  intro validated
  have noReply : (handleSetIpConfig (fun _ => [])
      (fun _ => .value (.obj [("ip", .str "192.168.0.²")]))
      "\x7b\"ip\": \"192.168.0.²\"\x7d".toUTF8).replies.length = 0 := by
    decide +kernel
  rw [validated.oneReply] at noReply
  cases noReply

end IpConfig

end PresenceLogger.Child
