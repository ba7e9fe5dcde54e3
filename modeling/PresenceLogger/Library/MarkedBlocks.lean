import Mathlib.Data.List.Infix
import PresenceLogger.Library.TextFile
import PresenceLogger.Library.Utf8

/-!
# Marked blocks

Blocks of lines in a text, from a line that opens one to a line that closes it, and how a
regular expression takes them out: as many line feeds as there are, the opening text, as
little as there can be up to the closing text, and perhaps the line feeds behind it.
-/

namespace PresenceLogger.Library.MarkedBlocks

open Library.Text

/-! ## Lines -/

/-- The lines of a text, which a line feed separates. -/
def linesOf (text : List Char) : List (List Char) := text.splitOn '\n'

/-- The lines that hold more than white space. -/
def nonblank (lines : List (List Char)) : List (List Char) := lines.filter (¬·.all isSpace)

/-- Lines with a line feed before each. -/
def unlines (lines : List (List Char)) : List Char := lines.flatMap ('\n' :: ·)

theorem linesOf_append_feed (left right : List Char) :
    linesOf (left ++ '\n' :: right) = linesOf left ++ linesOf right :=
  List.splitOn_append_cons_self left right

theorem linesOf_plain {line : List Char} (plain : '\n' ∉ line) : linesOf line = [line] :=
  List.splitOn_eq_singleton plain

theorem linesOf_feed (text : List Char) : linesOf ('\n' :: text) = [] :: linesOf text :=
  linesOf_append_feed [] text

/-- A line with what follows it. -/
theorem linesOf_cons {char : Char} (plain : char ≠ '\n') (text : List Char) :
    linesOf (char :: text) = (linesOf text).modifyHead (char :: ·) := by
  rw [linesOf, List.splitOn_cons_eq_if_modifyHead, if_neg (by simpa using plain), ← linesOf]

theorem linesOf_ne_nil (text : List Char) : linesOf text ≠ [] := List.splitOn_ne_nil '\n' text

theorem linesOf_unlines {body : List (List Char)} (plain : ∀ line ∈ body, '\n' ∉ line) :
    linesOf (unlines body) = [] :: body := by
  induction body with
  | nil => rfl
  | cons line body ih =>
      obtain ⟨first, others⟩ := List.forall_mem_cons.mp plain
      have later := ih others
      cases body with
      | nil => simpa [unlines, linesOf_feed] using linesOf_plain first
      | cons next body =>
          have split : unlines (line :: next :: body) =
              '\n' :: (line ++ unlines (next :: body)) := rfl
          have rest : unlines (next :: body) = '\n' :: (next ++ unlines body) := rfl
          rw [rest, linesOf_feed, List.cons.injEq] at later
          rw [split, linesOf_feed, rest, linesOf_append_feed, linesOf_plain first, later.2]
          rfl

theorem linesOf_append_unlines (text : List Char) {body : List (List Char)}
    (plain : ∀ line ∈ body, '\n' ∉ line) :
    linesOf (text ++ unlines body) = linesOf text ++ body := by
  cases body with
  | nil => simp [unlines]
  | cons line body =>
      have split : unlines (line :: body) = '\n' :: (line ++ unlines body) := rfl
      have behind := linesOf_unlines plain
      rw [split, linesOf_feed, List.cons.injEq] at behind
      rw [split, linesOf_append_feed, behind.2]

theorem not_feed_of_mem_linesOf {text line : List Char} (among : line ∈ linesOf text) :
    '\n' ∉ line := by
  induction text generalizing line with
  | nil =>
      rw [List.mem_singleton.mp among]
      exact List.not_mem_nil
  | cons char text ih =>
      by_cases feed : char = '\n'
      · rw [feed, linesOf_feed] at among
        rcases List.mem_cons.mp among with rfl | later
        · exact List.not_mem_nil
        · exact ih later
      · rw [linesOf_cons feed] at among
        cases same : linesOf text with
        | nil => exact absurd same (linesOf_ne_nil text)
        | cons first others =>
            rw [same, List.modifyHead_cons] at among
            rw [same] at ih
            rcases List.mem_cons.mp among with rfl | later
            · exact List.not_mem_cons_of_ne_of_not_mem (Ne.symm feed) (ih (.head _))
            · exact ih (.tail _ later)

theorem unlines_linesOf (text : List Char) : unlines (linesOf text) = '\n' :: text := by
  induction text with
  | nil => rfl
  | cons char text ih =>
      by_cases feed : char = '\n'
      · rw [feed, linesOf_feed, unlines, List.flatMap_cons, ← unlines, ih]
        rfl
      · rw [linesOf_cons feed]
        cases same : linesOf text with
        | nil => exact absurd same (linesOf_ne_nil text)
        | cons first others =>
            rw [same] at ih
            have tail : first ++ unlines others = text := by
              have whole : unlines (first :: others) = '\n' :: (first ++ unlines others) := rfl
              rw [whole, List.cons.injEq] at ih
              exact ih.2
            rw [List.modifyHead_cons, ← tail]
            rfl

/-- The lines of a text that is read backwards. -/
theorem linesOf_reverse (text : List Char) :
    linesOf text.reverse = ((linesOf text).map List.reverse).reverse := by
  induction length : text.length using Nat.strongRecOn generalizing text with
  | ind _ ih =>
      by_cases feed : '\n' ∈ text
      · obtain ⟨before, after, rfl, plain⟩ := List.eq_append_cons_of_mem feed
        have shorter : after.length < (before ++ '\n' :: after).length := by simp; omega
        have reversed : (before ++ '\n' :: after).reverse =
            after.reverse ++ '\n' :: before.reverse := by simp
        have plainReverse : '\n' ∉ before.reverse := by simpa using plain
        rw [reversed, linesOf_append_feed, linesOf_append_feed, ih _ (length ▸ shorter) after rfl,
          linesOf_plain plain, linesOf_plain plainReverse]
        simp
      · rw [linesOf_plain feed, linesOf_plain (by simpa using feed)]
        rfl

/-! ## Files -/

/-- `f.read()` of a text file. -/
def readText (file : ByteArray) : Option (List Char) := (Utf8.decode file).map universalNewlines

/-- The lines of a text file. -/
def fileLines (file : ByteArray) : List (List Char) := linesOf ((readText file).getD [])

/-- A text without carriage returns is read as it was written. -/
theorem readText_encode {text : List Char} (noReturn : '\r' ∉ text) :
    readText (Utf8.encode text) = some text := by
  have same := newlinesFrom_plain noReturn []
  rw [List.append_nil, newlinesFrom, List.append_nil] at same
  rw [readText, Utf8.decode_encode, Option.map_some, universalNewlines, same]

/-- What is read has no carriage returns. -/
theorem not_return_of_readText {file : ByteArray} {text : List Char}
    (isText : readText file = some text) : '\r' ∉ text := by
  obtain ⟨bytes, -, rfl⟩ := Option.map_eq_some_iff.mp isText
  exact not_mem_newlinesFrom false bytes

/-! ## Blank lines -/

@[simp] theorem nonblank_append (left right : List (List Char)) :
    nonblank (left ++ right) = nonblank left ++ nonblank right := List.filter_append ..

theorem nonblank_cons_blank {line : List Char} (blank : ∀ char ∈ line, isSpace char = true)
    (others : List (List Char)) : nonblank (line :: others) = nonblank others :=
  List.filter_cons_of_neg (by simpa using blank)

theorem nonblank_cons_solid {line : List Char} (solid : ¬∀ char ∈ line, isSpace char = true)
    (others : List (List Char)) : nonblank (line :: others) = line :: nonblank others :=
  List.filter_cons_of_pos (by simpa using solid)

theorem nonblank_eq_nil {body : List (List Char)}
    (blank : ∀ line ∈ body, ∀ char ∈ line, isSpace char = true) : nonblank body = [] := by
  rw [nonblank, List.filter_eq_nil_iff]
  intro line among
  simpa using blank line among

/-- What `lstrip` leaves: whole blank lines go, and the blanks of the first line that is kept. -/
theorem exists_linesOf_dropWhile (text : List Char) : ∃ blanks indent first others,
    linesOf text = blanks ++ (indent ++ first) :: others ∧
      linesOf (text.dropWhile isSpace) = first :: others ∧
      (∀ line ∈ blanks, ∀ char ∈ line, isSpace char = true) ∧
      ∀ char ∈ indent, isSpace char = true := by
  induction text with
  | nil => exact ⟨[], [], [], [], rfl, rfl, by simp, by simp⟩
  | cons char text ih =>
      obtain ⟨blanks, indent, first, others, whole, kept, areBlank, isBlank⟩ := ih
      cases space : isSpace char with
      | false =>
          have same : (char :: text).dropWhile isSpace = char :: text :=
            List.dropWhile_cons_of_neg (by simp [space])
          cases all : linesOf (char :: text) with
          | nil => exact absurd all (linesOf_ne_nil _)
          | cons line others =>
              exact ⟨[], [], line, others, rfl, by rw [same, all], by simp, by simp⟩
      | true =>
          have dropped : (char :: text).dropWhile isSpace = text.dropWhile isSpace :=
            List.dropWhile_cons_of_pos space
          rw [dropped]
          by_cases feed : char = '\n'
          · refine ⟨[] :: blanks, indent, first, others, ?_, kept, ?_, isBlank⟩
            · rw [feed, linesOf_feed, whole, List.cons_append]
            · simpa using areBlank
          · rw [linesOf_cons feed, whole]
            cases blanks with
            | nil =>
                exact ⟨[], char :: indent, first, others, rfl, kept, by simp,
                  List.forall_mem_cons.mpr ⟨space, isBlank⟩⟩
            | cons blank blanks =>
                obtain ⟨firstBlank, others'⟩ := List.forall_mem_cons.mp areBlank
                exact ⟨(char :: blank) :: blanks, indent, first, others, rfl, kept,
                  List.forall_mem_cons.mpr
                    ⟨List.forall_mem_cons.mpr ⟨space, firstBlank⟩, others'⟩, isBlank⟩

/-- The first and the last of some lines have no white space at the ends of the text. -/
def Edges (kept : List (List Char)) : Prop :=
  (∀ line ∈ kept.head?, ∀ char ∈ line.head?, isSpace char = false) ∧
    ∀ line ∈ kept.getLast?, ∀ char ∈ line.getLast?, isSpace char = false

theorem nonblank_dropWhile {text : List Char}
    (edge : ∀ line ∈ (nonblank (linesOf text)).head?, ∀ char ∈ line.head?, isSpace char = false) :
    nonblank (linesOf (text.dropWhile isSpace)) = nonblank (linesOf text) := by
  obtain ⟨blanks, indent, first, others, whole, kept, areBlank, isBlank⟩ :=
    exists_linesOf_dropWhile text
  rw [whole, nonblank_append, nonblank_eq_nil areBlank, List.nil_append] at edge ⊢
  rw [kept]
  by_cases blank : ∀ char ∈ first, isSpace char = true
  · rw [nonblank_cons_blank blank, nonblank_cons_blank]
    exact List.forall_mem_append.mpr ⟨isBlank, blank⟩
  · cases indent with
    | nil => rfl
    | cons char indent =>
        have solid : ¬∀ other ∈ char :: indent ++ first, isSpace other = true :=
          fun all => blank fun other among => all other (List.mem_append_right _ among)
        rw [nonblank_cons_solid solid] at edge
        have notSpace := edge _ rfl char rfl
        rw [isBlank char (.head _)] at notSpace
        cases notSpace

theorem nonblank_linesOf_reverse (text : List Char) :
    nonblank (linesOf text.reverse) = ((nonblank (linesOf text)).map List.reverse).reverse := by
  rw [linesOf_reverse, nonblank, List.filter_reverse, List.filter_map]
  have same : (fun line : List Char => decide ¬line.all isSpace) ∘ List.reverse =
      fun line => decide ¬line.all isSpace := by
    funext line
    rw [Function.comp_apply, List.all_reverse]
  rw [same]
  rfl

/-- `strip` keeps the lines if the first and the last have no white space to lose. -/
theorem nonblank_strip {text : List Char} (edges : Edges (nonblank (linesOf text))) :
    nonblank (linesOf (strip text)) = nonblank (linesOf text) := by
  have left := nonblank_dropWhile edges.1
  have right : nonblank (linesOf ((text.dropWhile isSpace).reverse.dropWhile isSpace)) =
      nonblank (linesOf (text.dropWhile isSpace).reverse) := by
    refine nonblank_dropWhile ?_
    rw [nonblank_linesOf_reverse, left, List.head?_reverse, List.getLast?_map]
    intro line isLast char isFirst
    obtain ⟨original, inText, rfl⟩ := Option.map_eq_some_iff.mp isLast
    exact edges.2 original inText char (by rwa [List.head?_reverse] at isFirst)
  rw [strip, stripBy, nonblank_linesOf_reverse, right, nonblank_linesOf_reverse, left]
  simp

/-- `str.rstrip()` -/
def rstrip (text : List Char) : List Char := (text.reverse.dropWhile isSpace).reverse

theorem dropWhile_blank_append {indent : List Char} (blank : ∀ char ∈ indent, isSpace char = true)
    (text : List Char) : (indent ++ text).dropWhile isSpace = text.dropWhile isSpace := by
  induction indent with
  | nil => rfl
  | cons char indent ih =>
      obtain ⟨space, others⟩ := List.forall_mem_cons.mp blank
      rw [List.cons_append, List.dropWhile_cons_of_pos space, ih others]

theorem map_dropWhile_nonblank (text : List Char) :
    (nonblank (linesOf (text.dropWhile isSpace))).map (List.dropWhile isSpace) =
      (nonblank (linesOf text)).map (List.dropWhile isSpace) := by
  obtain ⟨blanks, indent, first, others, whole, kept, areBlank, isBlank⟩ :=
    exists_linesOf_dropWhile text
  rw [whole, kept, nonblank_append, nonblank_eq_nil areBlank, List.nil_append]
  by_cases blank : ∀ char ∈ first, isSpace char = true
  · rw [nonblank_cons_blank blank, nonblank_cons_blank]
    exact List.forall_mem_append.mpr ⟨isBlank, blank⟩
  · have solid : ¬∀ char ∈ indent ++ first, isSpace char = true :=
      fun all => blank fun char among => all char (List.mem_append_right _ among)
    rw [nonblank_cons_solid blank, nonblank_cons_solid solid, List.map_cons, List.map_cons,
      dropWhile_blank_append isBlank]

/-- `rstrip` keeps the lines, up to white space at their ends. -/
theorem map_rstrip_nonblank (text : List Char) :
    (nonblank (linesOf (rstrip text))).map rstrip = (nonblank (linesOf text)).map rstrip := by
  have reversed (text : List Char) : (nonblank (linesOf text.reverse)).map rstrip =
      (((nonblank (linesOf text)).map (List.dropWhile isSpace)).map List.reverse).reverse := by
    rw [nonblank_linesOf_reverse, List.map_reverse, List.map_map, List.map_map]
    refine congrArg List.reverse (List.map_congr_left fun line _ => ?_)
    rw [Function.comp_apply, Function.comp_apply, rstrip, List.reverse_reverse]
  have back := reversed text.reverse
  rw [List.reverse_reverse] at back
  rw [rstrip, reversed, map_dropWhile_nonblank, back]

theorem infix_strip (text : List Char) : strip text <:+: text := by
  obtain ⟨left, right, split, -⟩ := @exists_stripBy isSpace text
  exact ⟨left, right, by rw [strip, List.append_assoc, ← split]⟩

/-! ## Blocks -/

/-- The two texts that mark a block, and how the expression ends. -/
structure Pattern where
  opening : List Char
  closing : List Char
  /-- Whether the expression takes the line feeds behind the closing text. -/
  feeds : Bool
  replacement : List Char
  opens : opening ≠ [] ∧ '\n' ∉ opening ∧ ∀ char ∈ opening.head?, isSpace char = false
  closes : closing ≠ [] ∧ '\n' ∉ closing ∧ ∀ char ∈ closing.head?, isSpace char = false

namespace Pattern

variable (pattern : Pattern)

/-- The lines outside blocks, where a line opens or closes a block if it holds nothing else. -/
def outside : Bool → List (List Char) → List (List Char)
  | _, [] => []
  | false, line :: body =>
      if strip line = pattern.opening then outside true body else line :: outside false body
  | true, line :: body =>
      if strip line = pattern.closing then outside false body else outside true body

/-- The lines of each block, where `block` holds those of one that is open, reversed. -/
def blocks : Option (List (List Char)) → List (List Char) → List (List (List Char))
  | none, [] => []
  | some block, [] => [block.reverse]
  | none, line :: body =>
      if strip line = pattern.opening then blocks (some []) body else blocks none body
  | some block, line :: body =>
      if strip line = pattern.closing then block.reverse :: blocks none body
      else blocks (some (line :: block)) body

/-! ## Taking blocks out -/

/-- What follows the first place where a text stands. -/
def afterFirst (closing : List Char) : List Char → Option (List Char)
  | [] => if closing = [] then some [] else none
  | char :: text =>
      if closing.isPrefixOf (char :: text) then some ((char :: text).drop closing.length)
      else afterFirst closing text

/-- What follows a match of the expression that begins here. -/
def afterMatch (text : List Char) : Option (List Char) :=
  let text := text.dropWhile (· = '\n')
  if pattern.opening.isPrefixOf text then
    (afterFirst pattern.closing (text.drop pattern.opening.length)).map fun after =>
      if pattern.feeds then after.dropWhile (· = '\n') else after
  else none

/-- `re.sub`, within a match that still takes so many characters. -/
def subFrom : Nat → List Char → List Char
  | _, [] => []
  | taken + 1, _ :: text => subFrom taken text
  | 0, char :: text =>
      match pattern.afterMatch (char :: text) with
      | some after => pattern.replacement ++ subFrom (text.length - after.length) text
      | none => char :: subFrom 0 text

/-- `re.sub` -/
def sub (text : List Char) : List Char := pattern.subFrom 0 text

/-! ## Matches -/

theorem afterFirst_suffix {closing text after : List Char}
    (isAfter : afterFirst closing text = some after) : after <:+ text := by
  induction text with
  | nil =>
      rw [afterFirst] at isAfter
      split at isAfter
      · cases isAfter
        exact List.suffix_rfl
      · cases isAfter
  | cons char text ih =>
      rw [afterFirst] at isAfter
      split at isAfter
      · cases isAfter
        exact List.drop_suffix ..
      · exact (ih isAfter).trans (List.suffix_cons char text)

theorem subFrom_eq (taken : Nat) (text : List Char) :
    pattern.subFrom taken text = pattern.sub (text.drop taken) := by
  induction text generalizing taken with
  | nil => cases taken <;> rfl
  | cons char text ih =>
      cases taken with
      | zero => rfl
      | succ taken => exact ih taken

theorem sub_none {char : Char} {text : List Char}
    (noMatch : pattern.afterMatch (char :: text) = none) :
    pattern.sub (char :: text) = char :: pattern.sub text := by
  rw [sub, subFrom, noMatch]
  rfl

theorem afterMatch_suffix {char : Char} {text after : List Char}
    (isMatch : pattern.afterMatch (char :: text) = some after) : after <:+ text := by
  rw [afterMatch] at isMatch
  split at isMatch
  next opened =>
    obtain ⟨found, isFound, rfl⟩ := Option.map_eq_some_iff.mp isMatch
    have kept : (if pattern.feeds then found.dropWhile (· = '\n') else found) <:+ found := by
      split
      · exact List.dropWhile_suffix _
      · exact List.suffix_rfl
    have behind : (((char :: text).dropWhile (· = '\n')).drop pattern.opening.length) <:+ text := by
      have whole : (char :: text).dropWhile (· = '\n') <:+ char :: text := List.dropWhile_suffix _
      have positive : 0 < pattern.opening.length := List.length_pos_iff.mpr pattern.opens.1
      rcases List.suffix_cons_iff.mp whole with same | shorter
      · rw [same, ← Nat.succ_pred_eq_of_pos positive, List.drop_succ_cons]
        exact List.drop_suffix ..
      · exact (List.drop_suffix ..).trans shorter
    exact kept.trans ((afterFirst_suffix isFound).trans behind)
  next => cases isMatch

theorem afterMatch_nil : pattern.afterMatch [] = none := by
  have notEmpty : pattern.opening.isPrefixOf [] = false := by
    cases same : pattern.opening with
    | nil => exact absurd same pattern.opens.1
    | cons => rfl
  rw [afterMatch, List.dropWhile_nil, notEmpty]
  rfl

/-- After a match the search goes on behind it. -/
theorem sub_some {text after : List Char} (isMatch : pattern.afterMatch text = some after) :
    pattern.sub text = pattern.replacement ++ pattern.sub after := by
  cases text with
  | nil =>
      rw [pattern.afterMatch_nil] at isMatch
      cases isMatch
  | cons char text =>
      have behind := List.suffix_iff_eq_drop.mp (pattern.afterMatch_suffix isMatch)
      rw [sub, subFrom, isMatch]
      simp only [subFrom_eq]
      rw [← behind]

/-! ## Lines without the opening text -/

variable {pattern}

/-- No match begins at a character that begins neither the opening text nor a line feed. -/
theorem afterMatch_none {char : Char} {text : List Char} (plain : char ≠ '\n')
    (noOpening : ¬pattern.opening <+: char :: text) : pattern.afterMatch (char :: text) = none := by
  have kept : (char :: text).dropWhile (· = '\n') = char :: text :=
    List.dropWhile_cons_of_neg (by simpa using plain)
  rw [afterMatch, kept]
  exact if_neg fun opened => noOpening (List.isPrefixOf_iff_prefix.mp opened)

/-- What begins a line with a text that has no line feed, begins the line. -/
theorem prefix_of_prefix_append {front line tail : List Char} (plain : '\n' ∉ front)
    (ends : ∀ char ∈ tail.head?, char = '\n') (begins : front <+: line ++ tail) :
    front <+: line := by
  induction front generalizing line with
  | nil => exact List.nil_prefix
  | cons char front ih =>
      cases line with
      | nil =>
          obtain ⟨rest, rfl⟩ := begins
          refine absurd ?_ plain
          have feed : char = '\n' := ends char rfl
          simp [feed]
      | cons first line =>
          obtain ⟨same, later⟩ := List.cons_prefix_cons.mp begins
          exact List.cons_prefix_cons.mpr
            ⟨same, ih (List.not_mem_of_not_mem_cons plain) later⟩

variable (pattern) in
theorem afterMatch_feed (text : List Char) :
    pattern.afterMatch ('\n' :: text) = pattern.afterMatch text := rfl

/-- No match begins where the opening text does not stand, up to a line feed. -/
theorem afterMatch_append {front tail : List Char} (noOpening : ¬pattern.opening <:+: front)
    (present : front ≠ []) (ends : ∀ char ∈ tail.head?, char = '\n')
    (noFeed : front.getLast? ≠ some '\n') : pattern.afterMatch (front ++ tail) = none := by
  induction front with
  | nil => exact absurd rfl present
  | cons char front ih =>
      by_cases feed : char = '\n'
      · cases front with
        | nil => exact absurd (congrArg some feed) noFeed
        | cons next front =>
            rw [feed, List.cons_append, afterMatch_feed]
            exact ih (fun inFront => noOpening (List.infix_cons inFront)) (List.cons_ne_nil _ _)
              (by rwa [List.getLast?_cons_cons] at noFeed)
      · refine afterMatch_none feed fun begins => noOpening ?_
        exact (prefix_of_prefix_append pattern.opens.2.1 ends begins).isInfix

theorem sub_append {front tail : List Char} (noOpening : ¬pattern.opening <:+: front)
    (ends : ∀ char ∈ tail.head?, char = '\n') (noFeed : front.getLast? ≠ some '\n') :
    pattern.sub (front ++ tail) = front ++ pattern.sub tail := by
  induction front with
  | nil => rfl
  | cons char front ih =>
      have noMatch := afterMatch_append noOpening (List.cons_ne_nil _ _) ends noFeed
      rw [List.cons_append] at noMatch ⊢
      rw [pattern.sub_none noMatch, List.cons_append]
      cases front with
      | nil => rfl
      | cons next front =>
          rw [ih (fun inFront => noOpening (List.infix_cons inFront))
            (by rwa [List.getLast?_cons_cons] at noFeed)]

/-- Where the opening text does not occur nothing is taken. -/
theorem sub_plain {text : List Char} (noOpening : ¬pattern.opening <:+: text) :
    pattern.sub text = text := by
  induction text with
  | nil => rfl
  | cons char text ih =>
      have noMatch : pattern.afterMatch (char :: text) = none := by
        refine if_neg fun opened => noOpening ?_
        exact (List.isPrefixOf_iff_prefix.mp opened).isInfix.trans (List.dropWhile_suffix _).isInfix
      rw [pattern.sub_none noMatch, ih fun inText => noOpening (List.infix_cons inText)]

theorem not_prefix_of_space {char : Char} (space : isSpace char = true) (text : List Char) :
    ¬pattern.opening <+: char :: text := by
  intro begins
  cases same : pattern.opening with
  | nil => exact pattern.opens.1 same
  | cons first rest =>
      rw [same] at begins
      have solid := pattern.opens.2.2 first (by simp [same])
      rw [(List.cons_prefix_cons.mp begins).1, space] at solid
      cases solid

/-- The blanks before an opening text are kept. -/
theorem sub_indent {indent : List Char} (plain : '\n' ∉ indent)
    (blank : ∀ char ∈ indent, isSpace char = true) (text : List Char) :
    pattern.sub (indent ++ text) = indent ++ pattern.sub text := by
  induction indent with
  | nil => rfl
  | cons char indent ih =>
      obtain ⟨space, others⟩ := List.forall_mem_cons.mp blank
      have noMatch : pattern.afterMatch (char :: (indent ++ text)) = none :=
        afterMatch_none (List.ne_of_not_mem_cons plain).symm (not_prefix_of_space space _)
      have later := ih (List.not_mem_of_not_mem_cons plain) others
      rw [List.cons_append, pattern.sub_none noMatch, later, List.cons_append]

/-! ## The closing text -/

theorem afterFirst_line {closing line tail : List Char} (oneLine : '\n' ∉ closing)
    (noClosing : ¬closing <:+: line) (ends : ∀ char ∈ tail.head?, char = '\n') :
    afterFirst closing (line ++ tail) = afterFirst closing tail := by
  induction line with
  | nil => rfl
  | cons char line ih =>
      have notHere : ¬closing.isPrefixOf (char :: (line ++ tail)) = true := fun begins =>
        noClosing (prefix_of_prefix_append oneLine ends
          (List.isPrefixOf_iff_prefix.mp begins)).isInfix
      rw [List.cons_append, afterFirst, if_neg notHere,
        ih fun inLine => noClosing (List.infix_cons inLine)]

/-- The closing text stands behind characters that do not begin it. -/
theorem afterFirst_behind {first : Char} {closing front text : List Char}
    (other : ∀ char ∈ front, char ≠ first) :
    afterFirst (first :: closing) (front ++ first :: (closing ++ text)) = some text := by
  induction front with
  | nil =>
      have here : (first :: closing).isPrefixOf (first :: (closing ++ text)) = true :=
        List.isPrefixOf_iff_prefix.mpr (List.prefix_append (first :: closing) text)
      rw [List.nil_append, afterFirst, if_pos here]
      simp
  | cons char front ih =>
      obtain ⟨notFirst, others⟩ := List.forall_mem_cons.mp other
      have notHere : ¬(first :: closing).isPrefixOf
          (char :: (front ++ first :: (closing ++ text))) = true := by
        intro begins
        exact notFirst (List.cons_prefix_cons.mp (List.isPrefixOf_iff_prefix.mp begins)).1.symm
      rw [List.cons_append, afterFirst, if_neg notHere, ih others]

theorem afterFirst_feed {closing : List Char} (present : closing ≠ []) (oneLine : '\n' ∉ closing)
    (text : List Char) : afterFirst closing ('\n' :: text) = afterFirst closing text := by
  cases closing with
  | nil => exact absurd rfl present
  | cons first closing =>
      have notHere : ¬(first :: closing).isPrefixOf ('\n' :: text) = true := fun begins =>
        oneLine ((List.cons_prefix_cons.mp (List.isPrefixOf_iff_prefix.mp begins)).1 ▸ .head _)
      rw [afterFirst, if_neg notHere]

theorem feed_of_mem_head?_unlines (body : List (List Char)) :
    ∀ char ∈ (unlines body).head?, char = '\n' := by
  cases body with
  | nil => simp [unlines]
  | cons line body => exact fun char isFirst => (Option.mem_some.mp isFirst).symm

/-- The closing text stands behind some lines. -/
theorem afterFirst_body {first : Char} {closing : List Char} (oneLine : '\n' ∉ first :: closing)
    {body : List (List Char)} (noClosing : ∀ line ∈ body, ¬first :: closing <:+: line)
    (rest : List Char) :
    afterFirst (first :: closing) (unlines body ++ '\n' :: (first :: closing ++ rest)) =
      some rest := by
  have present : first :: closing ≠ [] := List.cons_ne_nil _ _
  induction body with
  | nil =>
      rw [unlines, List.flatMap_nil, List.nil_append, afterFirst_feed present oneLine]
      exact @afterFirst_behind first closing [] rest (List.forall_mem_nil _)
  | cons line body ih =>
      obtain ⟨notHere, others⟩ := List.forall_mem_cons.mp noClosing
      have split : unlines (line :: body) ++ '\n' :: (first :: closing ++ rest) =
          '\n' :: (line ++ (unlines body ++ '\n' :: (first :: closing ++ rest))) := by
        simp [unlines]
      have ends : ∀ char ∈ (unlines body ++ '\n' :: (first :: closing ++ rest)).head?,
          char = '\n' := by
        cases body <;> simp [unlines]
      rw [split, afterFirst_feed present oneLine, afterFirst_line oneLine notHere ends, ih others]

/-! ## Texts whose blocks are found -/

variable (pattern) in
/-- Outside blocks the opening text does not occur; a block is closed, before its last line
nothing closes it, and nothing stands behind the closing text. -/
def clean : Bool → List (List Char) → Bool
  | inside, [] => !inside
  | false, line :: body =>
      if strip line = pattern.opening then clean true body
      else !decide (pattern.opening <:+: line) && clean false body
  | true, line :: body =>
      if strip line = pattern.closing then decide (pattern.closing <:+ line) && clean false body
      else !decide (pattern.closing <:+: line) && clean true body

/-- A text that begins with more than white space does not stand in blanks. -/
theorem not_infix_blank {front text : List Char} (present : front ≠ [])
    (solid : ∀ char ∈ front.head?, isSpace char = false)
    (blank : ∀ char ∈ text, isSpace char = true) : ¬front <:+: text := by
  intro inText
  cases front with
  | nil => exact present rfl
  | cons first front =>
      have notSpace := solid first rfl
      rw [blank first (inText.mem (.head _))] at notSpace
      cases notSpace

/-- A line around what it holds. -/
theorem exists_strip {line content : List Char} (holds : strip line = content) :
    ∃ left right, line = left ++ (content ++ right) ∧ (∀ char ∈ left, isSpace char = true) ∧
      (∀ char ∈ right, isSpace char = true) ∧ Trimmed isSpace content := by
  obtain ⟨left, right, split, leftBlank, rightBlank⟩ := @exists_stripBy isSpace line
  rw [← strip, holds] at split
  exact ⟨left, right, split, leftBlank, rightBlank, holds ▸ trimmed_stripBy line⟩

/-- Nothing but blanks stands before a closing text at the end of its line. -/
theorem exists_closing {line closing : List Char} (present : closing ≠ [])
    (holds : strip line = closing) (ends : closing <:+ line) :
    ∃ left, line = left ++ closing ∧ ∀ char ∈ left, isSpace char = true := by
  obtain ⟨left, right, split, leftBlank, rightBlank, trimmed⟩ := exists_strip holds
  obtain ⟨front, isLine⟩ := ends
  rcases List.eq_nil_or_concat right with rfl | ⟨others, last, rfl⟩
  · exact ⟨left, by rw [split, List.append_nil], leftBlank⟩
  · have isLast : line.getLast? = some last := by
      rw [split, ← List.append_assoc, List.concat_eq_append, ← List.append_assoc,
        List.getLast?_concat]
    rw [← isLine, List.getLast?_append_of_ne_nil _ present] at isLast
    have solid := trimmed.2 last isLast
    rw [rightBlank last (by simp)] at solid
    cases solid

/-- A block that is open is taken up to its closing text. -/
theorem afterFirst_unlines {body : List (List Char)} (closed : pattern.clean true body = true)
    (plain : ∀ line ∈ body, '\n' ∉ line) :
    ∃ rest, rest <:+ body ∧ rest.length < body.length ∧ pattern.clean false rest = true ∧
      afterFirst pattern.closing (unlines body) = some (unlines rest) ∧
      pattern.outside true body = pattern.outside false rest := by
  induction body with
  | nil => cases closed
  | cons line body ih =>
      obtain ⟨linePlain, others⟩ := List.forall_mem_cons.mp plain
      have split : unlines (line :: body) = '\n' :: (line ++ unlines body) := rfl
      rw [split, afterFirst_feed pattern.closes.1 pattern.closes.2.1]
      rw [clean] at closed
      rw [outside]
      split at closed
      next holds =>
        rw [Bool.and_eq_true, decide_eq_true_eq] at closed
        obtain ⟨left, isLine, leftBlank⟩ := exists_closing pattern.closes.1 holds closed.1
        refine ⟨body, List.suffix_cons .., Nat.lt_succ_self _, closed.2, ?_, if_pos holds⟩
        rw [isLine]
        cases isClosing : pattern.closing with
        | nil => exact absurd isClosing pattern.closes.1
        | cons first closing =>
            have solid := pattern.closes.2.2 first (by rw [isClosing]; rfl)
            have other : ∀ char ∈ left, char ≠ first := by
              intro char inLeft same
              rw [← same, leftBlank char inLeft] at solid
              cases solid
            have found := @afterFirst_behind first closing left (unlines body) other
            rwa [List.append_assoc, List.cons_append]
      next open_ =>
        rw [Bool.and_eq_true, Bool.not_eq_true', decide_eq_false_iff_not] at closed
        obtain ⟨rest, suffix, shorter, restClean, found, same⟩ := ih closed.2 others
        refine ⟨rest, suffix.trans (List.suffix_cons ..), Nat.lt_succ_of_lt shorter, restClean, ?_,
          (if_neg open_).trans same⟩
        rw [afterFirst_line pattern.closes.2.1 closed.1 (feed_of_mem_head?_unlines body), found]

theorem afterMatch_opening (text : List Char) :
    pattern.afterMatch (pattern.opening ++ text) =
      (afterFirst pattern.closing text).map fun after =>
        if pattern.feeds then after.dropWhile (· = '\n') else after := by
  have kept : (pattern.opening ++ text).dropWhile (· = '\n') = pattern.opening ++ text := by
    cases same : pattern.opening with
    | nil => exact absurd same pattern.opens.1
    | cons first opening =>
        have notFeed : first ≠ '\n' := fun feed =>
          pattern.opens.2.1 (same ▸ feed ▸ .head _)
        exact List.dropWhile_cons_of_neg (by simpa using notFeed)
  have opened : pattern.opening.isPrefixOf (pattern.opening ++ text) = true :=
    List.isPrefixOf_iff_prefix.mpr (List.prefix_append ..)
  rw [afterMatch, kept, if_pos opened, List.drop_left]

/-- The expression takes the blocks out and keeps the other lines. -/
theorem sub_unlines (noFeeds : pattern.feeds = false) (nothing : pattern.replacement = [])
    {body : List (List Char)} (isClean : pattern.clean false body = true)
    (plain : ∀ line ∈ body, '\n' ∉ line) :
    ∃ kept, pattern.sub (unlines body) = unlines kept ∧
      (∀ line ∈ kept, '\n' ∉ line ∧ ¬pattern.opening <:+: line) ∧
      nonblank kept = nonblank (pattern.outside false body) := by
  induction length : body.length using Nat.strongRecOn generalizing body with
  | ind _ ih =>
      cases body with
      | nil => exact ⟨[], rfl, by simp, rfl⟩
      | cons line body =>
          obtain ⟨linePlain, others⟩ := List.forall_mem_cons.mp plain
          have split : unlines (line :: body) = '\n' :: (line ++ unlines body) := rfl
          rw [clean] at isClean
          rw [outside]
          split at isClean
          next holds =>
            obtain ⟨rest, suffix, shorter, restClean, found, same⟩ :=
              afterFirst_unlines isClean others
            obtain ⟨kept, isKept, keptPlain, sameLines⟩ := ih rest.length
              (length ▸ Nat.lt_succ_of_lt shorter) restClean (fun line among =>
                others line (suffix.mem among)) rfl
            obtain ⟨left, right, isLine, leftBlank, rightBlank, -⟩ := exists_strip holds
            have noClosing := not_infix_blank pattern.closes.1 pattern.closes.2.2 rightBlank
            rw [← afterFirst_line pattern.closes.2.1 noClosing (feed_of_mem_head?_unlines body)]
              at found
            have isMatch := pattern.afterMatch_opening (right ++ unlines body)
            rw [found, noFeeds, Option.map_some, if_neg Bool.false_ne_true] at isMatch
            have taken := pattern.sub_some isMatch
            rw [nothing, List.nil_append, isKept] at taken
            rw [if_pos holds, same]
            cases left with
            | nil =>
                rw [List.nil_append] at isLine
                rw [← pattern.afterMatch_feed, ← List.append_assoc, ← isLine, ← split] at isMatch
                have whole := pattern.sub_some isMatch
                rw [nothing, List.nil_append, isKept] at whole
                exact ⟨kept, whole, keptPlain, sameLines⟩
            | cons char left =>
                have leftPlain : '\n' ∉ char :: left := fun feed =>
                  linePlain (isLine ▸ List.mem_append_left _ feed)
                have noMatch : pattern.afterMatch ('\n' :: (line ++ unlines body)) = none := by
                  rw [afterMatch_feed, isLine]
                  exact afterMatch_none (List.ne_of_not_mem_cons leftPlain).symm
                    (not_prefix_of_space (leftBlank char (.head _)) _)
                have noOpening := not_infix_blank pattern.opens.1 pattern.opens.2.2 leftBlank
                refine ⟨(char :: left) :: kept, ?_,
                  List.forall_mem_cons.mpr ⟨⟨leftPlain, noOpening⟩, keptPlain⟩,
                  (nonblank_cons_blank leftBlank kept).trans sameLines⟩
                rw [split, pattern.sub_none noMatch, isLine, List.append_assoc, List.append_assoc,
                  sub_indent leftPlain leftBlank, taken]
                rfl
          next other =>
            rw [Bool.and_eq_true, Bool.not_eq_true', decide_eq_false_iff_not] at isClean
            obtain ⟨kept, isKept, keptPlain, sameLines⟩ :=
              ih body.length (length ▸ Nat.lt_succ_self _) isClean.2 others rfl
            have noFeed : line.getLast? ≠ some '\n' := fun last =>
              linePlain (List.mem_of_getLast? last)
            have lineKept := sub_append isClean.1 (feed_of_mem_head?_unlines body) noFeed
            rw [if_neg other]
            cases line with
            | nil =>
                have sameBlank := nonblank_cons_blank (List.forall_mem_nil _)
                  (pattern.outside false body)
                rw [sameBlank, split, List.nil_append]
                cases isMatch : pattern.afterMatch (unlines body) with
                | none =>
                    refine ⟨[] :: kept, ?_,
                      List.forall_mem_cons.mpr ⟨⟨linePlain, isClean.1⟩, keptPlain⟩,
                      (nonblank_cons_blank (List.forall_mem_nil _) kept).trans sameLines⟩
                    have noMatch : pattern.afterMatch ('\n' :: unlines body) = none := isMatch
                    rw [pattern.sub_none noMatch, isKept]
                    rfl
                | some after =>
                    refine ⟨kept, ?_, keptPlain, sameLines⟩
                    have whole := @sub_some pattern ('\n' :: unlines body) _ isMatch
                    rw [whole, ← pattern.sub_some isMatch, isKept]
            | cons char line =>
                have noMatch := afterMatch_append isClean.1 (List.cons_ne_nil _ _)
                  (feed_of_mem_head?_unlines body) noFeed
                rw [← pattern.afterMatch_feed] at noMatch
                refine ⟨(char :: line) :: kept, ?_,
                  List.forall_mem_cons.mpr ⟨⟨linePlain, isClean.1⟩, keptPlain⟩, ?_⟩
                · rw [split, pattern.sub_none noMatch, lineKept, isKept]
                  rfl
                · exact (nonblank_append [char :: line] kept).trans
                    ((congrArg _ sameLines).trans (nonblank_append [char :: line] _).symm)

/-- A line feed in front does not matter once the ends are stripped. -/
theorem strip_sub_feed (text : List Char) :
    strip (pattern.sub ('\n' :: text)) = strip (pattern.sub text) := by
  cases isMatch : pattern.afterMatch text with
  | none =>
      have noMatch : pattern.afterMatch ('\n' :: text) = none := isMatch
      rw [pattern.sub_none noMatch, strip, stripBy, List.dropWhile_cons_of_pos rfl]
      rfl
  | some after =>
      have isMatchFeed : pattern.afterMatch ('\n' :: text) = some after := isMatch
      rw [pattern.sub_some isMatch, pattern.sub_some isMatchFeed]

theorem mem_of_mem_sub {text : List Char} {char : Char} (among : char ∈ pattern.sub text) :
    char ∈ pattern.replacement ∨ char ∈ text := by
  induction length : text.length using Nat.strongRecOn generalizing text with
  | ind _ ih =>
      cases text with
      | nil => exact .inr among
      | cons first text =>
          cases isMatch : pattern.afterMatch (first :: text) with
          | none =>
              rw [pattern.sub_none isMatch] at among
              rcases List.mem_cons.mp among with rfl | later
              · exact .inr (.head _)
              · exact (ih _ (length ▸ Nat.lt_succ_self _) later rfl).imp_right (.tail _)
          | some after =>
              have suffix := pattern.afterMatch_suffix isMatch
              rw [pattern.sub_some isMatch] at among
              rcases List.mem_append.mp among with inNew | later
              · exact .inl inNew
              · have shorter : after.length < (first :: text).length :=
                  Nat.lt_succ_of_le suffix.length_le
                exact (ih _ (length ▸ shorter) later rfl).imp_right fun inAfter =>
                  .tail _ (suffix.mem inAfter)

/-! ## A block that is put behind a text -/

/-- A text without line feeds that stands in some lines stands in one of them. -/
theorem exists_infix_of_unlines {front : List Char} (present : front ≠ []) (plain : '\n' ∉ front)
    {body : List (List Char)} (among : front <:+: unlines body) :
    ∃ line ∈ body, front <:+: line := by
  induction body with
  | nil => exact absurd (List.infix_nil.mp among) present
  | cons line body ih =>
      have split : unlines (line :: body) = '\n' :: (line ++ unlines body) := rfl
      have notFeed (text : List Char) : ¬front <+: '\n' :: text := by
        intro begins
        cases front with
        | nil => exact present rfl
        | cons first front => exact plain ((List.cons_prefix_cons.mp begins).1 ▸ .head _)
      rw [split, List.infix_cons_iff] at among
      have inRest := among.resolve_left (notFeed _)
      clear among split
      have found : front <:+: line ∨ front <:+: unlines body := by
        induction line with
        | nil => exact .inr inRest
        | cons char line lineIH =>
            rw [List.cons_append, List.infix_cons_iff] at inRest
            rcases inRest with begins | later
            · exact .inl (prefix_of_prefix_append plain (feed_of_mem_head?_unlines body)
                begins).isInfix
            · exact (lineIH later).imp_left List.infix_cons
      rcases found with inLine | later
      · exact ⟨line, .head _, inLine⟩
      · obtain ⟨other, inBody, inOther⟩ := ih later
        exact ⟨other, .tail _ inBody, inOther⟩

theorem infix_of_mem_linesOf {text line : List Char} (among : line ∈ linesOf text) :
    line <:+: text := by
  obtain ⟨before, after, split⟩ := List.append_of_mem among
  have whole := unlines_linesOf text
  rw [split, unlines, List.flatMap_append, List.flatMap_cons] at whole
  cases before with
  | nil =>
      rw [List.flatMap_nil, List.nil_append, List.cons_append, List.cons.injEq] at whole
      exact ⟨[], _, whole.2⟩
  | cons first before =>
      rw [List.flatMap_cons, List.cons_append, List.cons_append, List.cons.injEq] at whole
      exact ⟨first ++ before.flatMap ('\n' :: ·) ++ ['\n'], _, by simpa using whole.2⟩

variable (pattern) in
theorem outside_append {body : List (List Char)}
    (plain : ∀ line ∈ body, strip line ≠ pattern.opening) (rest : List (List Char)) :
    pattern.outside false (body ++ rest) = body ++ pattern.outside false rest ∧
      pattern.blocks none (body ++ rest) = pattern.blocks none rest := by
  induction body with
  | nil => exact ⟨rfl, rfl⟩
  | cons line body ih =>
      obtain ⟨notOpening, others⟩ := List.forall_mem_cons.mp plain
      obtain ⟨later, laterBlocks⟩ := ih others
      rw [List.cons_append, outside, blocks, if_neg notOpening, if_neg notOpening, later]
      exact ⟨rfl, laterBlocks⟩

theorem outside_block {body : List (List Char)} {first last : List Char}
    (plain : ∀ line ∈ body, strip line ≠ pattern.closing) (opens : strip first = pattern.opening)
    (closes : strip last = pattern.closing) (rest : List (List Char)) :
    pattern.outside false (first :: (body ++ last :: rest)) = pattern.outside false rest ∧
      pattern.blocks none (first :: (body ++ last :: rest)) =
        body :: pattern.blocks none rest := by
  have inside (held : List (List Char)) :
      pattern.outside true (body ++ last :: rest) = pattern.outside false rest ∧
        pattern.blocks (some held) (body ++ last :: rest) =
          (held.reverse ++ body) :: pattern.blocks none rest := by
    induction body generalizing held with
    | nil => simp [outside, blocks, closes]
    | cons line body ih =>
        obtain ⟨notClosing, others⟩ := List.forall_mem_cons.mp plain
        obtain ⟨later, laterBlocks⟩ := ih others (line :: held)
        rw [List.cons_append, outside, blocks, if_neg notClosing, if_neg notClosing, later,
          laterBlocks]
        simp
  rw [outside, blocks, if_pos opens, if_pos opens]
  exact inside []

theorem clean_append {body : List (List Char)} (plain : ∀ line ∈ body, ¬pattern.opening <:+: line)
    (rest : List (List Char)) : pattern.clean false (body ++ rest) = pattern.clean false rest := by
  induction body with
  | nil => rfl
  | cons line body ih =>
      obtain ⟨noOpening, others⟩ := List.forall_mem_cons.mp plain
      have notOpening : strip line ≠ pattern.opening := fun holds =>
        noOpening (holds ▸ infix_strip line)
      rw [List.cons_append, clean, if_neg notOpening, ih others]
      simp [noOpening]

theorem clean_block {body : List (List Char)} (plain : ∀ line ∈ body, ¬pattern.closing <:+: line)
    {first : List Char} (opens : strip first = pattern.opening)
    (closes : strip pattern.closing = pattern.closing) (rest : List (List Char)) :
    pattern.clean false (first :: (body ++ pattern.closing :: rest)) =
      pattern.clean false rest := by
  rw [clean, if_pos opens]
  induction body with
  | nil => simp [clean, closes]
  | cons line body ih =>
      obtain ⟨noClosing, others⟩ := List.forall_mem_cons.mp plain
      have notClosing : strip line ≠ pattern.closing := fun holds =>
        noClosing (holds ▸ infix_strip line)
      rw [List.cons_append, clean, if_neg notClosing, ih others]
      simp [noClosing]

end Pattern

end PresenceLogger.Library.MarkedBlocks
