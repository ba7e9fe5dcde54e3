import PresenceLogger.Library.MarkedBlocks

/-!
# The network of a child without NetworkManager

A request writes the configuration of `wpa_supplicant` again: the network blocks are taken
out of what is read of it, and one for the network of the request is put behind the rest.
-/

namespace PresenceLogger.Child

open Library Library.Text Library.MarkedBlocks

namespace WifiFallback

/-- `r'\n*network=\{[^}]*\}'`, with nothing in its place. -/
def networkBlock : Pattern where
  opening := "network=\x7b".toList
  closing := "\x7d".toList
  feeds := false
  replacement := []
  opens := by decide
  closes := by decide

/-- What stands for a configuration that cannot be read. -/
def defaultContent : List Char :=
  ("ctrl_interface=DIR=/var/run/wpa_supplicant GROUP=netdev\n" ++
    "update_config=1\ncountry=JP\n").toList

/-- A request, and what the file system does with it. -/
structure Request where
  ssid : List Char
  password : List Char
  /-- Whether the configuration can be opened. -/
  readable : Bool
  /-- Whether the new configuration is written and copied to its place. -/
  copied : Bool

/-- The block of a network. -/
def block (ssid password : List Char) : List Char :=
  if password ≠ [] then
    "\n\nnetwork=\x7b\n\tssid=\"".toList ++ ssid ++ "\"\n\tpsk=\"".toList ++ password ++
      "\"\n\tkey_mgmt=WPA-PSK\n\tpriority=10\n\x7d".toList
  else
    "\n\nnetwork=\x7b\n\tssid=\"".toList ++ ssid ++
      "\"\n\tkey_mgmt=NONE\n\tpriority=10\n\x7d".toList

/-- `handle_wifi_connect`, where `nmcli` is not found. -/
def handleWifiConnect (file : ByteArray) (request : Request) : ByteArray :=
  let ssid := strip request.ssid
  if ssid = [] then file
  else
    let content := (if request.readable then readText file else none).getD defaultContent
    let content := strip (networkBlock.sub content)
    if request.copied then Utf8.encode (content ++ block ssid request.password) else file

/-- The file after some requests. -/
def handleAll (file : ByteArray) (requests : List Request) : ByteArray :=
  requests.foldl handleWifiConnect file

/-! ## What the file should hold -/

/-- The lines outside network blocks that are not blank. -/
def otherLines (file : ByteArray) : List (List Char) :=
  nonblank (networkBlock.outside false (fileLines file))

/-- A line of a block that gives a value to a key. -/
def gives (key : List Char) (line : List Char) : Bool := (key ++ ['=']).isPrefixOf (strip line)

/-- A value between quotes, and nothing else on the line. -/
def quotedLine (key value : List Char) : List Char :=
  '\t' :: (key ++ "=\"".toList ++ value ++ "\"".toList)

/-- There is one block, its SSID and its key are those of the network, and the other lines are
kept. -/
def HoldsOne (kept : List (List Char)) (ssid password : List Char) (file : ByteArray) : Prop :=
  otherLines file = kept ∧
    (networkBlock.blocks none (fileLines file)).map (fun block =>
        (block.filter (gives "ssid".toList), block.filter (gives "psk".toList))) =
      [([quotedLine "ssid".toList ssid],
        if password = [] then [] else [quotedLine "psk".toList password])]

instance (kept : List (List Char)) (ssid password : List Char) (file : ByteArray) :
    Decidable (HoldsOne kept ssid password file) := inferInstanceAs (Decidable (_ ∧ _))

/-! ## What is read -/

/-- A file whose blocks the expression finds, with these other lines. -/
structure Keeps (kept : List (List Char)) (file : ByteArray) : Prop where
  text : (Utf8.decode file).isSome = true
  isClean : networkBlock.clean false (fileLines file) = true
  same : otherLines file = kept

/-- What is left of a text when it is rewritten. -/
structure Content (kept : List (List Char)) (content : List Char) : Prop where
  same : nonblank (linesOf content) = kept
  noOpening : ¬networkBlock.opening <:+: content
  noReturn : '\r' ∉ content

/-- The blocks of a file are taken out. -/
theorem content_of_keeps {kept : List (List Char)} {file : ByteArray} (edges : Edges kept)
    (keeps : Keeps kept file) :
    ∃ text, readText file = some text ∧ Content kept (strip (networkBlock.sub text)) := by
  obtain ⟨bytes, isText⟩ := Option.isSome_iff_exists.mp keeps.text
  have isRead : readText file = some (universalNewlines bytes) := by rw [readText, isText]; rfl
  have isLines : fileLines file = linesOf (universalNewlines bytes) := by
    rw [fileLines, isRead]
    rfl
  refine ⟨_, isRead, ?_⟩
  obtain ⟨body, isBody, plain, same⟩ := Pattern.sub_unlines rfl rfl keeps.isClean
    (isLines ▸ fun line => not_feed_of_mem_linesOf)
  rw [isLines, unlines_linesOf] at isBody
  rw [← otherLines, keeps.same] at same
  rw [← Pattern.strip_sub_feed, isBody]
  have sameLines : nonblank (linesOf (unlines body)) = kept := by
    rw [linesOf_unlines fun line among => (plain line among).1,
      nonblank_cons_blank (List.forall_mem_nil _), same]
  refine ⟨?_, ?_, ?_⟩
  · rw [nonblank_strip (sameLines ▸ edges), sameLines]
  · intro inContent
    obtain ⟨line, inBody, inLine⟩ := Pattern.exists_infix_of_unlines networkBlock.opens.1
      networkBlock.opens.2.1 (inContent.trans (infix_strip _))
    exact (plain line inBody).2 inLine
  · intro inContent
    have inSub := (infix_strip _).mem inContent
    rw [← isBody] at inSub
    rcases Pattern.mem_of_mem_sub inSub with inNew | inText
    · cases inNew
    · rcases List.mem_cons.mp inText with feed | inRead
      · exact absurd feed (by decide)
      · exact not_mem_newlinesFrom false bytes inRead

theorem content_default :
    Content (linesOf (strip defaultContent)) (strip (networkBlock.sub defaultContent)) :=
  ⟨by decide +kernel, by decide +kernel, by decide +kernel⟩

/-! ## What is written -/

/-- The lines of a block between its first and its last. -/
def innerLines (ssid password : List Char) : List (List Char) :=
  quotedLine "ssid".toList ssid ::
    ((if password ≠ [] then [quotedLine "psk".toList password, "\tkey_mgmt=WPA-PSK".toList]
      else ["\tkey_mgmt=NONE".toList]) ++ ["\tpriority=10".toList])

theorem block_eq (ssid password : List Char) :
    block ssid password = unlines
      ([] :: networkBlock.opening :: (innerLines ssid password ++ [networkBlock.closing])) := by
  rw [block, innerLines]
  split
  all_goals
    simp only [unlines, quotedLine, List.flatMap_cons, List.cons_append, List.append_assoc]
    rfl

theorem strip_quotedLine {first : Char} (solid : isSpace first = false) (key value : List Char) :
    strip (quotedLine (first :: key) value) = first :: (key ++ "=\"".toList ++ value ++ ['"']) := by
  have around := @stripBy_append _ first '"' solid (by decide) ['\t']
    (key ++ "=\"".toList ++ value) []
  have line : quotedLine (first :: key) value =
      ['\t'] ++ first :: (key ++ "=\"".toList ++ value ++ '"' :: []) := by
    simp [quotedLine]
  rw [strip, line, around]
  rfl

theorem mem_quotedLine {key value : List Char} {char : Char} (among : char ∈ quotedLine key value) :
    char ∈ value ∨ char ∈ '\t' :: (key ++ "=\"".toList) := by
  have parts : char ∈ ('\t' :: (key ++ "=\"".toList)) ++ value ++ "\"".toList := among
  rcases List.mem_append.mp parts with front | quote
  · exact (List.mem_append.mp front).symm
  · have isQuote : char = '"' := List.mem_singleton.mp quote
    exact .inr (List.mem_cons_of_mem _ (List.mem_append_right _ (by simp [isQuote])))

/-- The lines of a block hold the texts of the request and these characters. -/
theorem not_mem_innerLines {ssid password : List Char} {char : Char}
    (other : char ∉ "\tsidpk=\"ey_mgmtWPA-PSKNONEriority10".toList) (notSsid : char ∉ ssid)
    (notPassword : char ∉ password) : ∀ line ∈ innerLines ssid password, char ∉ line := by
  have notQuoted {key value : List Char} (notValue : char ∉ value)
      (known : ∀ char ∈ '\t' :: (key ++ "=\"".toList),
        char ∈ "\tsidpk=\"ey_mgmtWPA-PSKNONEriority10".toList) :
      char ∉ quotedLine key value := fun among =>
    (mem_quotedLine among).elim notValue fun inKey => other (known char inKey)
  have notFixed {line : List Char}
      (known : ∀ char ∈ line, char ∈ "\tsidpk=\"ey_mgmtWPA-PSKNONEriority10".toList) :
      char ∉ line := fun among => other (known char among)
  have ssidLine : char ∉ quotedLine "ssid".toList ssid := notQuoted notSsid (by decide)
  rw [innerLines]
  split
  · exact List.forall_mem_cons.mpr ⟨ssidLine, List.forall_mem_cons.mpr
      ⟨notQuoted notPassword (by decide), List.forall_mem_cons.mpr
        ⟨notFixed (by decide), List.forall_mem_singleton.mpr (notFixed (by decide))⟩⟩⟩
  · exact List.forall_mem_cons.mpr ⟨ssidLine, List.forall_mem_cons.mpr
      ⟨notFixed (by decide), List.forall_mem_singleton.mpr (notFixed (by decide))⟩⟩

theorem strip_ne_of_mem_innerLines {ssid password : List Char} :
    ∀ line ∈ innerLines ssid password, strip line ≠ networkBlock.closing := by
  have ssidLine : strip (quotedLine "ssid".toList ssid) ≠ networkBlock.closing := fun same =>
    absurd ((List.cons.inj ((@strip_quotedLine 's' rfl _ ssid).symm.trans same)).1)
      (by decide)
  have pskLine : strip (quotedLine "psk".toList password) ≠ networkBlock.closing := fun same =>
    absurd ((List.cons.inj ((@strip_quotedLine 'p' rfl _ password).symm.trans same)).1)
      (by decide)
  rw [innerLines]
  split
  · exact List.forall_mem_cons.mpr ⟨ssidLine, List.forall_mem_cons.mpr ⟨pskLine, by decide⟩⟩
  · exact List.forall_mem_cons.mpr ⟨ssidLine, by decide⟩

/-- The values of a block are those of the request. -/
theorem filter_innerLines (ssid password : List Char) :
    (innerLines ssid password).filter (gives "ssid".toList) = [quotedLine "ssid".toList ssid] ∧
      (innerLines ssid password).filter (gives "psk".toList) =
        if password = [] then [] else [quotedLine "psk".toList password] := by
  have ssidLine : gives "ssid".toList (quotedLine "ssid".toList ssid) = true ∧
      gives "psk".toList (quotedLine "ssid".toList ssid) = false := by
    have whole : strip (quotedLine "ssid".toList ssid) = "ssid=\"".toList ++ ssid ++ ['"'] :=
      @strip_quotedLine 's' rfl "sid".toList ssid
    rw [gives, gives, whole]
    exact ⟨rfl, rfl⟩
  have pskLine : gives "ssid".toList (quotedLine "psk".toList password) = false ∧
      gives "psk".toList (quotedLine "psk".toList password) = true := by
    have whole : strip (quotedLine "psk".toList password) = "psk=\"".toList ++ password ++ ['"'] :=
      @strip_quotedLine 'p' rfl "sk".toList password
    rw [gives, gives, whole]
    exact ⟨rfl, rfl⟩
  have fixed : ∀ line ∈ ["\tkey_mgmt=WPA-PSK".toList, "\tkey_mgmt=NONE".toList,
      "\tpriority=10".toList], gives "ssid".toList line = false ∧
        gives "psk".toList line = false := by decide +kernel
  simp only [List.forall_mem_cons] at fixed
  obtain ⟨wpa, open_, priority, -⟩ := fixed
  rw [innerLines]
  by_cases empty : password = []
  · rw [if_neg (not_not_intro empty), if_pos empty]
    simp only [List.cons_append, List.nil_append, List.filter_cons, List.filter_nil, ssidLine,
      open_, priority, Bool.false_eq_true, reduceIte, and_self]
  · rw [if_pos empty, if_neg empty]
    simp only [List.cons_append, List.nil_append, List.filter_cons, List.filter_nil, ssidLine,
      pskLine, wpa, priority, Bool.false_eq_true, reduceIte, and_self]

/-! ## Requests -/

/-- What a request must be, and what must happen with it. -/
structure Fine (kept : List (List Char)) (request : Request) : Prop where
  nonblank : strip request.ssid ≠ []
  trimmed : strip request.ssid = request.ssid
  ssidLine : '\n' ∉ request.ssid ∧ '\r' ∉ request.ssid
  passwordLine : '\n' ∉ request.password ∧ '\r' ∉ request.password
  readable : request.readable = true ∨ kept = linesOf (strip defaultContent)
  copied : request.copied = true

/-- A closing brace would end the block for the next request. -/
def NoBrace (request : Request) : Prop := '}' ∉ request.ssid ∧ '}' ∉ request.password

/-- A request finds the other lines of the file. -/
theorem exists_content {kept : List (List Char)} {file : ByteArray} {request : Request}
    (edges : Edges kept) (keeps : Keeps kept file) (fine : Fine kept request) :
    ∃ content, Content kept content ∧
      handleWifiConnect file request =
        Utf8.encode (content ++ block request.ssid request.password) := by
  have written (text : List Char)
      (isText : (if request.readable then readText file else none).getD defaultContent = text) :
      handleWifiConnect file request = Utf8.encode
        (strip (networkBlock.sub text) ++ block request.ssid request.password) := by
    have present : request.ssid ≠ [] := fun empty => fine.nonblank (by rw [empty]; rfl)
    simp only [handleWifiConnect, isText, fine.trimmed, if_neg present, fine.copied, if_true]
  cases readable : request.readable with
  | true =>
      obtain ⟨text, isText, content⟩ := content_of_keeps edges keeps
      exact ⟨_, content, written text (by rw [readable, if_pos rfl, isText]; rfl)⟩
  | false =>
      have isDefault := fine.readable.resolve_left (by simp [readable])
      exact ⟨_, isDefault ▸ content_default, written _ (by rw [readable]; rfl)⟩

/-- The lines of what is written. -/
theorem fileLines_write {kept : List (List Char)} {content : List Char} {request : Request}
    (isContent : Content kept content) (fine : Fine kept request) :
    fileLines (Utf8.encode (content ++ block request.ssid request.password)) =
      (linesOf content ++ [[]]) ++ networkBlock.opening ::
        (innerLines request.ssid request.password ++ [networkBlock.closing]) := by
  have noFeed : ∀ line ∈ innerLines request.ssid request.password, '\n' ∉ line :=
    not_mem_innerLines (by decide) fine.ssidLine.1 fine.passwordLine.1
  have noReturn : ∀ line ∈ innerLines request.ssid request.password, '\r' ∉ line :=
    not_mem_innerLines (by decide) fine.ssidLine.2 fine.passwordLine.2
  have around {char : Char} (inner : ∀ line ∈ innerLines request.ssid request.password,
      char ∉ line) (other : char ∉ networkBlock.opening ++ networkBlock.closing) :
      ∀ line ∈ [] :: networkBlock.opening ::
        (innerLines request.ssid request.password ++ [networkBlock.closing]), char ∉ line := by
    rw [List.mem_append, not_or] at other
    exact List.forall_mem_cons.mpr ⟨List.not_mem_nil, List.forall_mem_cons.mpr
      ⟨other.1, List.forall_mem_append.mpr ⟨inner, List.forall_mem_singleton.mpr other.2⟩⟩⟩
  have textNoReturn : '\r' ∉ content ++ block request.ssid request.password := by
    rw [List.mem_append, not_or, block_eq]
    refine ⟨isContent.noReturn, fun among => ?_⟩
    obtain ⟨line, inBody, inLine⟩ := List.mem_flatMap.mp among
    rcases List.mem_cons.mp inLine with feed | inLine
    · exact absurd feed (by decide)
    · exact around noReturn (by decide) line inBody inLine
  rw [fileLines, readText_encode textNoReturn, Option.getD_some, block_eq,
    linesOf_append_unlines _ (around noFeed (by decide)), List.append_assoc]
  rfl

theorem strip_marks : strip networkBlock.opening = networkBlock.opening ∧
    strip networkBlock.closing = networkBlock.closing := by decide

theorem Content.noOpeningLine {kept : List (List Char)} {content : List Char}
    (isContent : Content kept content) :
    ∀ line ∈ linesOf content ++ [[]], ¬networkBlock.opening <:+: line :=
  List.forall_mem_append.mpr ⟨fun _ among inLine =>
    isContent.noOpening (inLine.trans (Pattern.infix_of_mem_linesOf among)), by decide⟩

/-- What is written holds one network and the other lines. -/
theorem holdsOne_write {kept : List (List Char)} {content : List Char} {request : Request}
    (isContent : Content kept content) (fine : Fine kept request) :
    HoldsOne kept request.ssid request.password
      (Utf8.encode (content ++ block request.ssid request.password)) := by
  have notOpening : ∀ line ∈ linesOf content ++ [[]], strip line ≠ networkBlock.opening :=
    fun line among holds => isContent.noOpeningLine line among (holds ▸ infix_strip line)
  have inText := networkBlock.outside_append notOpening (networkBlock.opening ::
    (innerLines request.ssid request.password ++ [networkBlock.closing]))
  have inBlock := Pattern.outside_block
    (@strip_ne_of_mem_innerLines request.ssid request.password) strip_marks.1 strip_marks.2 []
  constructor
  · rw [otherLines, fileLines_write isContent fine, inText.1, inBlock.1, List.append_assoc,
      nonblank_append, isContent.same]
    exact List.append_nil kept
  · have filtered := filter_innerLines request.ssid request.password
    rw [fileLines_write isContent fine, inText.2, inBlock.2]
    simp only [Pattern.blocks, List.map_cons, List.map_nil, filtered]

/-- The next request finds the block if it holds no brace. -/
theorem keeps_write {kept : List (List Char)} {content : List Char} {request : Request}
    (isContent : Content kept content) (fine : Fine kept request) (noBrace : NoBrace request) :
    Keeps kept (Utf8.encode (content ++ block request.ssid request.password)) := by
  have noClosing : ∀ line ∈ innerLines request.ssid request.password,
      ¬networkBlock.closing <:+: line := fun line among inLine =>
    not_mem_innerLines (by decide) noBrace.1 noBrace.2 line among (inLine.mem (.head _))
  refine ⟨by rw [Utf8.decode_encode]; rfl, ?_, (holdsOne_write isContent fine).1⟩
  rw [fileLines_write isContent fine, Pattern.clean_append isContent.noOpeningLine,
    Pattern.clean_block noClosing strip_marks.1 strip_marks.2]
  rfl

/-- One request after another. -/
theorem keeps_handleAll {kept : List (List Char)} (edges : Edges kept) {file : ByteArray}
    (keeps : Keeps kept file) {requests : List Request}
    (fine : ∀ request ∈ requests, Fine kept request)
    (noBrace : ∀ request ∈ requests, NoBrace request) : Keeps kept (handleAll file requests) := by
  induction requests generalizing file with
  | nil => exact keeps
  | cons request requests ih =>
      obtain ⟨isFine, othersFine⟩ := List.forall_mem_cons.mp fine
      obtain ⟨isNoBrace, othersNoBrace⟩ := List.forall_mem_cons.mp noBrace
      obtain ⟨content, isContent, written⟩ := exists_content edges keeps isFine
      have next : Keeps kept (handleWifiConnect file request) :=
        written ▸ keeps_write isContent isFine isNoBrace
      exact ih next othersFine othersNoBrace

/-- If the blocks of a configuration are found, and the requests before the last have no brace
in them, every request leaves one network and the other lines. -/
theorem holdsOne_handleAll {initial : ByteArray} {earlier : List Request} {last : Request}
    (text : (Utf8.decode initial).isSome = true)
    (isClean : networkBlock.clean false (fileLines initial) = true)
    (edges : Edges (otherLines initial))
    (fine : ∀ request ∈ earlier ++ [last], Fine (otherLines initial) request)
    (noBrace : ∀ request ∈ earlier, NoBrace request) :
    HoldsOne (otherLines initial) last.ssid last.password
      (handleAll initial (earlier ++ [last])) := by
  obtain ⟨earlierFine, lastFine⟩ := List.forall_mem_append.mp fine
  have isFine := lastFine last (.head _)
  have keeps := keeps_handleAll edges ⟨text, isClean, rfl⟩ earlierFine noBrace
  obtain ⟨content, isContent, written⟩ := exists_content edges keeps isFine
  have whole : handleAll initial (earlier ++ [last]) =
      handleWifiConnect (handleAll initial earlier) last := by
    rw [handleAll, List.foldl_append]
    rfl
  rw [whole, written]
  exact holdsOne_write isContent isFine

/-- A configuration with a network, and two requests. -/
theorem holdsOne_handleAll_two :
    HoldsOne ["country=JP".toList] "guest".toList []
      (handleAll (Utf8.encode "country=JP\n\nnetwork=\x7b\n\tssid=\"old\"\n\x7d\n".toList)
        [⟨"home".toList, "se\"cret#".toList, true, true⟩, ⟨"guest".toList, [], true, true⟩]) := by
  have kept : otherLines (Utf8.encode
      "country=JP\n\nnetwork=\x7b\n\tssid=\"old\"\n\x7d\n".toList) = ["country=JP".toList] := by
    decide +kernel
  have edges : Edges ["country=JP".toList] := ⟨by decide +kernel, by decide +kernel⟩
  have home : Fine ["country=JP".toList] ⟨"home".toList, "se\"cret#".toList, true, true⟩ :=
    ⟨by decide, by decide, by decide, by decide, .inl rfl, rfl⟩
  have guest : Fine ["country=JP".toList] ⟨"guest".toList, [], true, true⟩ :=
    ⟨by decide, by decide, by decide, by decide, .inl rfl, rfl⟩
  have holds := @holdsOne_handleAll
    (Utf8.encode "country=JP\n\nnetwork=\x7b\n\tssid=\"old\"\n\x7d\n".toList)
    [⟨"home".toList, "se\"cret#".toList, true, true⟩] ⟨"guest".toList, [], true, true⟩
    (by decide +kernel) (by decide +kernel) (kept ▸ edges)
    (kept ▸ List.forall_mem_cons.mpr ⟨home, List.forall_mem_singleton.mpr guest⟩)
    (List.forall_mem_singleton.mpr ⟨by decide, by decide⟩)
  exact kept ▸ holds

/-- A brace in an SSID leaves the end of its block behind. -/
theorem not_holdsOne_brace :
    ¬HoldsOne (otherLines (Utf8.encode "country=JP\n".toList)) "home".toList []
      (handleAll (Utf8.encode "country=JP\n".toList)
        [⟨"a\x7db".toList, [], true, true⟩, ⟨"home".toList, [], true, true⟩]) := by
  decide +kernel

end WifiFallback

end PresenceLogger.Child
