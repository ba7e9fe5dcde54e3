import PresenceLogger.Library.MarkedBlocks

/-!
# The address of a child without NetworkManager

The configuration of `dhcpcd` is written again for each address: the marked block is taken
out of what is read of it, and for a static address one is put behind the rest.
-/

namespace PresenceLogger.Child

open Library Library.Text Library.MarkedBlocks

namespace Dhcpcd

/-- `r'\n*# >>> picamera static ip >>>.*?# <<< picamera static ip <<<\n*'`, with a line feed in
its place. -/
def markedBlock : Pattern where
  opening := "# >>> picamera static ip >>>".toList
  closing := "# <<< picamera static ip <<<".toList
  feeds := true
  replacement := ['\n']
  opens := by decide
  closes := by decide

/-- The arguments of a call, and what the file system does with the configuration. -/
structure Call where
  /-- `mode == 'static'` -/
  isStatic : Bool
  ip : List Char
  pfx : Int
  gateway : List Char
  dnsNorm : List Char
  iface : List Char
  /-- Whether the configuration can be opened. -/
  readable : Bool
  /-- Whether the new configuration is written and copied to its place. -/
  copied : Bool

/-- The lines of a block between its marks, with `none` for a `ValueError`. -/
def innerLines (call : Call) : Option (List (List Char)) :=
  (strOfInt call.pfx).map fun bits =>
    ["interface ".toList ++ call.iface,
      "static ip_address=".toList ++ call.ip ++ '/' :: bits] ++
    (if call.gateway ≠ [] then ["static routers=".toList ++ call.gateway] else []) ++
    (if call.dnsNorm ≠ [] then ["static domain_name_servers=".toList ++ call.dnsNorm] else [])

/-- `'\n' + '\n'.join(block) + '\n'` -/
def blockText (inner : List (List Char)) : List Char :=
  unlines ([] :: markedBlock.opening :: (inner ++ [markedBlock.closing])) ++ ['\n']

/-- What is put behind the content. -/
def tail (call : Call) : Option (List Char) :=
  if call.isStatic then (innerLines call).map blockText else some ['\n']

/-- `_net_apply_ip`, where `nmcli` has no active connection. -/
def netApplyIp (file : ByteArray) (call : Call) : ByteArray :=
  let content := (if call.readable then readText file else none).getD []
  let content := rstrip (markedBlock.sub content)
  match tail call with
  | some behind => if call.copied then Utf8.encode (content ++ behind) else file
  | none => file

/-- The file after some calls. -/
def applyAll (file : ByteArray) (calls : List Call) : ByteArray := calls.foldl netApplyIp file

/-! ## What the file should hold -/

/-- The lines outside the block that are not blank, up to white space at their ends. -/
def otherLines (file : ByteArray) : List (List Char) :=
  (nonblank (markedBlock.outside false (fileLines file))).map rstrip

/-- The other lines are kept, and there is one block with the values of a static address, or
none. -/
def HoldsCall (kept : List (List Char)) (call : Call) (file : ByteArray) : Prop :=
  otherLines file = kept ∧
    (markedBlock.blocks none (fileLines file)).map some =
      if call.isStatic then [innerLines call] else []

instance (kept : List (List Char)) (call : Call) (file : ByteArray) :
    Decidable (HoldsCall kept call file) := inferInstanceAs (Decidable (_ ∧ _))

/-! ## What is read -/

/-- What is left of a text when it is rewritten. -/
structure Content (kept : List (List Char)) (content : List Char) : Prop where
  same : (nonblank (linesOf content)).map rstrip = kept
  noOpening : ¬markedBlock.opening <:+: content
  noReturn : '\r' ∉ content
  ends : ∀ char ∈ content.getLast?, isSpace char = false

/-- A file that the next call finds these other lines in. -/
def Keeps (kept : List (List Char)) (file : ByteArray) : Prop :=
  ∃ text, readText file = some text ∧ Content kept (rstrip (markedBlock.sub text))

theorem prefix_of_rstrip (text : List Char) : rstrip text <+: text := by
  rw [rstrip, ← List.reverse_suffix, List.reverse_reverse]
  exact List.dropWhile_suffix _

theorem solid_of_getLast?_rstrip (text : List Char) :
    ∀ char ∈ (rstrip text).getLast?, isSpace char = false := by
  rw [rstrip, List.getLast?_reverse]
  exact head?_dropWhile _

/-- A configuration without marks. -/
theorem keeps_initial {file : ByteArray} {text : List Char} (isText : readText file = some text)
    (noMark : ¬markedBlock.opening <:+: text) :
    Keeps ((nonblank (linesOf text)).map rstrip) file := by
  refine ⟨text, isText, ?_⟩
  rw [Pattern.sub_plain noMark]
  exact ⟨map_rstrip_nonblank text,
    fun inside => noMark (inside.trans (prefix_of_rstrip text).isInfix),
    fun among => not_return_of_readText isText ((prefix_of_rstrip text).mem among),
    solid_of_getLast?_rstrip text⟩

theorem rstrip_append_feed {content : List Char}
    (ends : ∀ char ∈ content.getLast?, isSpace char = false) :
    rstrip (content ++ ['\n']) = content := by
  have first : ∀ char ∈ content.reverse.head?, isSpace char = false := by
    rwa [List.head?_reverse]
  rw [rstrip, List.reverse_append, List.reverse_singleton, List.singleton_append,
    List.dropWhile_cons_of_pos rfl, dropWhile_eq_self first, List.reverse_reverse]

theorem Content.noFeed {kept : List (List Char)} {content : List Char}
    (isContent : Content kept content) : content.getLast? ≠ some '\n' := by
  intro last
  have solid := isContent.ends '\n' last
  exact absurd solid (by decide)

/-! ## What is written -/

/-- What a call must be, and what must happen with it. -/
structure Fine (kept : List (List Char)) (call : Call) : Prop where
  values : call.isStatic = true → ∃ inner, innerLines call = some inner ∧
    ∀ line ∈ inner, '\n' ∉ line ∧ '\r' ∉ line
  readable : call.readable = true ∨ kept = []
  copied : call.copied = true

/-- The closing mark in a value would end the block for the next call. -/
def NoMark (call : Call) : Prop :=
  call.isStatic = true → ∀ inner, innerLines call = some inner →
    ∀ line ∈ inner, ¬markedBlock.closing <:+: line

/-- A call finds the other lines of the file. -/
theorem exists_content {kept : List (List Char)} {file : ByteArray} {call : Call}
    (keeps : Keeps kept file) (fine : Fine kept call) :
    ∃ content behind, Content kept content ∧ tail call = some behind ∧
      netApplyIp file call = Utf8.encode (content ++ behind) := by
  obtain ⟨behind, isBehind⟩ : ∃ behind, tail call = some behind := by
    rw [tail]
    split
    next static_ =>
      obtain ⟨inner, isInner, -⟩ := fine.values static_
      exact ⟨_, by rw [isInner, Option.map_some]⟩
    next => exact ⟨_, rfl⟩
  have written (text : List Char)
      (isText : (if call.readable then readText file else none).getD [] = text) :
      netApplyIp file call = Utf8.encode (rstrip (markedBlock.sub text) ++ behind) := by
    simp only [netApplyIp, isText, isBehind, fine.copied, if_true]
  cases readable : call.readable with
  | true =>
      obtain ⟨text, isText, isContent⟩ := keeps
      have found : (if call.readable then readText file else none).getD [] = text := by
        rw [readable, if_pos rfl, isText]
        rfl
      exact ⟨_, behind, isContent, isBehind, written text found⟩
  | false =>
      have nothing := fine.readable.resolve_left (by simp [readable])
      have empty : Content [] (rstrip (markedBlock.sub [])) :=
        ⟨rfl, by decide, by decide, by decide⟩
      have notFound : (if call.readable then readText file else none).getD [] = [] := by
        rw [readable]
        rfl
      exact ⟨_, behind, nothing ▸ empty, isBehind, written [] notFound⟩

/-- The next call takes the block out again. -/
theorem rstrip_sub_static {kept : List (List Char)} {content : List Char}
    (isContent : Content kept content) {inner : List (List Char)}
    (noClosing : ∀ line ∈ inner, ¬markedBlock.closing <:+: line) :
    rstrip (markedBlock.sub (content ++ blockText inner)) = content := by
  have split : blockText inner = '\n' :: '\n' :: (markedBlock.opening ++
        (unlines inner ++ '\n' :: (markedBlock.closing ++ ['\n']))) := by
    simp [blockText, unlines]
  have found := @Pattern.afterFirst_body '#' " <<< picamera static ip <<<".toList (by decide) inner
    noClosing ['\n']
  have isMatch : markedBlock.afterMatch ('\n' :: '\n' :: (markedBlock.opening ++
      (unlines inner ++ '\n' :: (markedBlock.closing ++ ['\n'])))) = some [] := by
    rw [Pattern.afterMatch_feed, Pattern.afterMatch_feed, Pattern.afterMatch_opening]
    exact congrArg _ found
  rw [split, Pattern.sub_append isContent.noOpening (by simp) isContent.noFeed,
    Pattern.sub_some _ isMatch]
  exact rstrip_append_feed isContent.ends

theorem rstrip_sub_dhcp {kept : List (List Char)} {content : List Char}
    (isContent : Content kept content) :
    rstrip (markedBlock.sub (content ++ ['\n'])) = content := by
  rw [Pattern.sub_append isContent.noOpening (by simp) isContent.noFeed]
  exact rstrip_append_feed isContent.ends

/-- The lines of what is written. -/
theorem fileLines_write {kept : List (List Char)} {content : List Char}
    (isContent : Content kept content) {body : List (List Char)}
    (oneLine : ∀ line ∈ body, '\n' ∉ line ∧ '\r' ∉ line) :
    readText (Utf8.encode (content ++ unlines body)) = some (content ++ unlines body) ∧
      fileLines (Utf8.encode (content ++ unlines body)) = linesOf content ++ body := by
  have noReturn : '\r' ∉ content ++ unlines body := by
    rw [List.mem_append, not_or]
    refine ⟨isContent.noReturn, fun among => ?_⟩
    obtain ⟨line, inBody, inLine⟩ := List.mem_flatMap.mp among
    rcases List.mem_cons.mp inLine with feed | inLine
    · exact absurd feed (by decide)
    · exact (oneLine line inBody).2 inLine
  refine ⟨readText_encode noReturn, ?_⟩
  rw [fileLines, readText_encode noReturn, Option.getD_some,
    linesOf_append_unlines _ fun line inBody => (oneLine line inBody).1]

theorem Content.notOpening {kept : List (List Char)} {content : List Char}
    (isContent : Content kept content) :
    ∀ line ∈ linesOf content ++ [[]], strip line ≠ markedBlock.opening := by
  refine List.forall_mem_append.mpr ⟨fun line among holds => isContent.noOpening ?_, by decide⟩
  exact (holds ▸ infix_strip line).trans (Pattern.infix_of_mem_linesOf among)

/-- The lines between the marks begin with a letter. -/
theorem strip_ne_of_mem_innerLines {call : Call} {inner : List (List Char)}
    (isInner : innerLines call = some inner) :
    ∀ line ∈ inner, strip line ≠ markedBlock.closing := by
  have letter {first : Char} {line : List Char} (solid : isSpace first = false)
      (other : first ≠ '#') : strip (first :: line) ≠ markedBlock.closing := by
    intro holds
    obtain ⟨left, right, split, leftBlank, -, -⟩ := Pattern.exists_strip holds
    cases left with
    | nil => exact other (List.cons.inj split).1
    | cons char left =>
        rw [(List.cons.inj split).1, leftBlank char (.head _)] at solid
        cases solid
  obtain ⟨bits, -, rfl⟩ := Option.map_eq_some_iff.mp isInner
  refine List.forall_mem_append.mpr ⟨List.forall_mem_append.mpr ⟨?_, ?_⟩, ?_⟩
  · exact List.forall_mem_cons.mpr ⟨@letter 'i' _ rfl (by decide),
      List.forall_mem_singleton.mpr (@letter 's' _ rfl (by decide))⟩
  · split
    · exact List.forall_mem_singleton.mpr (@letter 's' _ rfl (by decide))
    · exact List.forall_mem_nil _
  · split
    · exact List.forall_mem_singleton.mpr (@letter 's' _ rfl (by decide))
    · exact List.forall_mem_nil _

theorem Content.kept {kept : List (List Char)} {content : List Char}
    (isContent : Content kept content) :
    (nonblank (linesOf content ++ [[]])).map rstrip = kept := by
  rw [nonblank_append, List.map_append, isContent.same]
  exact List.append_nil kept

/-- Without a static address only the other lines are written. -/
theorem holdsCall_dhcp {kept : List (List Char)} {content : List Char} {call : Call}
    (isContent : Content kept content) (isDhcp : call.isStatic = false) :
    HoldsCall kept call (Utf8.encode (content ++ ['\n'])) ∧
      Keeps kept (Utf8.encode (content ++ ['\n'])) := by
  obtain ⟨isText, isLines⟩ := @fileLines_write _ _ isContent [[]] (by simp)
  have inText := markedBlock.outside_append isContent.notOpening []
  rw [List.append_nil, ← isLines] at inText
  refine ⟨⟨?_, ?_⟩, _, isText, (rstrip_sub_dhcp isContent).symm ▸ isContent⟩
  · rw [otherLines]
    refine (congrArg (fun body => (nonblank body).map rstrip) inText.1).trans ?_
    rw [isLines, Pattern.outside, List.append_nil, isContent.kept]
  · rw [isDhcp]
    exact congrArg (List.map some) inText.2

section Static

variable {kept : List (List Char)} {content : List Char} {call : Call}
  {inner : List (List Char)} (isContent : Content kept content)
  (oneLine : ∀ line ∈ inner, '\n' ∉ line ∧ '\r' ∉ line)

include isContent oneLine

/-- The lines of what is written for a static address. -/
theorem fileLines_static : readText (Utf8.encode (content ++ blockText inner)) =
        some (content ++ blockText inner) ∧
    fileLines (Utf8.encode (content ++ blockText inner)) =
        (linesOf content ++ [[]]) ++
          markedBlock.opening :: (inner ++ markedBlock.closing :: [[]]) := by
  have behind : blockText inner =
      unlines ([] :: markedBlock.opening :: (inner ++ markedBlock.closing :: [[]])) := by
    simp [blockText, unlines]
  have all : ∀ line ∈ [] :: markedBlock.opening :: (inner ++ markedBlock.closing :: [[]]),
      '\n' ∉ line ∧ '\r' ∉ line :=
    List.forall_mem_cons.mpr ⟨by simp, List.forall_mem_cons.mpr
      ⟨by decide, List.forall_mem_append.mpr ⟨oneLine, by decide⟩⟩⟩
  have written := fileLines_write isContent all
  rw [← behind] at written
  exact ⟨written.1, written.2.trans (List.append_cons ..)⟩

/-- What is written for a static address holds its block and the other lines. -/
theorem holdsCall_static (isStatic : call.isStatic = true)
    (isInner : innerLines call = some inner) :
    HoldsCall kept call (Utf8.encode (content ++ blockText inner)) := by
  have marked : strip markedBlock.opening = markedBlock.opening ∧
      strip markedBlock.closing = markedBlock.closing := by decide
  have inText := markedBlock.outside_append isContent.notOpening
    (markedBlock.opening :: (inner ++ markedBlock.closing :: [[]]))
  have inBlock := Pattern.outside_block (strip_ne_of_mem_innerLines isInner) marked.1 marked.2 [[]]
  constructor
  · rw [otherLines, (fileLines_static isContent oneLine).2, inText.1, inBlock.1, nonblank_append,
      List.map_append, isContent.kept]
    exact List.append_nil kept
  · rw [(fileLines_static isContent oneLine).2, inText.2, inBlock.2, isStatic, isInner]
    rfl

theorem keeps_static (noClosing : ∀ line ∈ inner, ¬markedBlock.closing <:+: line) :
    Keeps kept (Utf8.encode (content ++ blockText inner)) :=
  ⟨_, (fileLines_static isContent oneLine).1,
    (rstrip_sub_static isContent noClosing).symm ▸ isContent⟩

end Static

/-! ## Calls -/

/-- A call leaves its address and the other lines, and the next call finds these lines. -/
theorem holdsCall_netApplyIp {kept : List (List Char)} {file : ByteArray} {call : Call}
    (keeps : Keeps kept file) (fine : Fine kept call) :
    HoldsCall kept call (netApplyIp file call) ∧
      (NoMark call → Keeps kept (netApplyIp file call)) := by
  obtain ⟨content, behind, isContent, isBehind, written⟩ := exists_content keeps fine
  rw [tail] at isBehind
  rw [written]
  cases isStatic : call.isStatic with
  | false =>
      rw [isStatic, if_neg Bool.false_ne_true] at isBehind
      cases isBehind
      obtain ⟨holds, next⟩ := holdsCall_dhcp isContent isStatic
      exact ⟨holds, fun _ => next⟩
  | true =>
      obtain ⟨inner, isInner, oneLine⟩ := fine.values isStatic
      rw [isStatic, if_pos rfl, isInner] at isBehind
      cases isBehind
      exact ⟨holdsCall_static isContent oneLine isStatic isInner,
        fun noMark => keeps_static isContent oneLine (noMark isStatic inner isInner)⟩

/-- One call after another. -/
theorem keeps_applyAll {kept : List (List Char)} {file : ByteArray} (keeps : Keeps kept file)
    {calls : List Call} (fine : ∀ call ∈ calls, Fine kept call)
    (noMark : ∀ call ∈ calls, NoMark call) : Keeps kept (applyAll file calls) := by
  induction calls generalizing file with
  | nil => exact keeps
  | cons call calls ih =>
      obtain ⟨isFine, othersFine⟩ := List.forall_mem_cons.mp fine
      obtain ⟨isNoMark, othersNoMark⟩ := List.forall_mem_cons.mp noMark
      exact ih ((holdsCall_netApplyIp keeps isFine).2 isNoMark) othersFine othersNoMark

/-- If a configuration without marks can be read each time, every call leaves its address in
one block, or none, and the other lines. -/
theorem holdsCall_applyAll {initial : ByteArray} {text : List Char} {earlier : List Call}
    {last : Call} (isText : readText initial = some text)
    (noMark : ¬markedBlock.opening <:+: text)
    (fine : ∀ call ∈ earlier ++ [last], Fine ((nonblank (linesOf text)).map rstrip) call)
    (noValueMark : ∀ call ∈ earlier, NoMark call) :
    HoldsCall ((nonblank (linesOf text)).map rstrip) last
      (applyAll initial (earlier ++ [last])) := by
  obtain ⟨earlierFine, lastFine⟩ := List.forall_mem_append.mp fine
  have keeps := keeps_applyAll (keeps_initial isText noMark) earlierFine noValueMark
  have whole : applyAll initial (earlier ++ [last]) =
      netApplyIp (applyAll initial earlier) last := by
    rw [applyAll, List.foldl_append]
    rfl
  rw [whole]
  exact (holdsCall_netApplyIp keeps (lastFine last (.head _))).1

/-- A static address after another. -/
theorem holdsCall_applyAll_two :
    HoldsCall ["hostname".toList] ⟨true, "10.0.0.6".toList, 16, [], [], "eth0".toList, true, true⟩
      (applyAll (Utf8.encode "hostname  \n\n".toList)
        [⟨true, "10.0.0.5".toList, 24, "10.0.0.1".toList, "8.8.8.8".toList, "eth0".toList, true,
            true⟩,
          ⟨true, "10.0.0.6".toList, 16, [], [], "eth0".toList, true, true⟩]) := by
  have isText : readText (Utf8.encode "hostname  \n\n".toList) = some "hostname  \n\n".toList :=
    readText_encode (by decide)
  have first : innerLines ⟨true, "10.0.0.5".toList, 24, "10.0.0.1".toList, "8.8.8.8".toList,
      "eth0".toList, true, true⟩ = some ["interface eth0".toList,
        "static ip_address=10.0.0.5/24".toList, "static routers=10.0.0.1".toList,
        "static domain_name_servers=8.8.8.8".toList] := by decide +kernel
  have second : innerLines ⟨true, "10.0.0.6".toList, 16, [], [], "eth0".toList, true, true⟩ =
      some ["interface eth0".toList, "static ip_address=10.0.0.6/16".toList] := by decide +kernel
  have kept : (nonblank (linesOf "hostname  \n\n".toList)).map rstrip = ["hostname".toList] := by
    decide +kernel
  have noMark : NoMark ⟨true, "10.0.0.5".toList, 24, "10.0.0.1".toList, "8.8.8.8".toList,
      "eth0".toList, true, true⟩ := by
    intro _ inner isInner
    rw [first] at isInner
    cases isInner
    decide +kernel
  have holds := @holdsCall_applyAll (Utf8.encode "hostname  \n\n".toList) "hostname  \n\n".toList
    [⟨true, "10.0.0.5".toList, 24, "10.0.0.1".toList, "8.8.8.8".toList, "eth0".toList, true, true⟩]
    ⟨true, "10.0.0.6".toList, 16, [], [], "eth0".toList, true, true⟩ isText (by decide +kernel)
    (List.forall_mem_cons.mpr ⟨⟨fun _ => ⟨_, first, by decide⟩, .inl rfl, rfl⟩,
      List.forall_mem_singleton.mpr ⟨fun _ => ⟨_, second, by decide⟩, .inl rfl, rfl⟩⟩)
    (List.forall_mem_singleton.mpr noMark)
  rwa [kept] at holds

/-- A configuration that cannot be opened is lost. -/
theorem not_holdsCall_unreadable :
    ¬HoldsCall ["hostname".toList]
      ⟨true, "10.0.0.5".toList, 24, [], [], "eth0".toList, false, true⟩
      (applyAll (Utf8.encode "hostname\n".toList)
        [⟨true, "10.0.0.5".toList, 24, [], [], "eth0".toList, false, true⟩]) := by
  decide +kernel

end Dhcpcd

end PresenceLogger.Child
