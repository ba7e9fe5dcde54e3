import PresenceLogger.Library.TextFile

/-!
# Reading a text line by line

What a reader makes of the lines of a text, if it makes nothing of an empty line.  Such a
reader does not see how the lines end, and it reads two parts of a text apart wherever a
line ends between them.  The lines with their ends can be taken out one by one.
-/

namespace PresenceLogger.Library.Text

variable {α : Type} (read : List Char → Option α)

/-- What is read of the lines, the first of which has begun with `line`, reversed. -/
def readFrom (line text : List Char) : List α := (splitLinesFrom line text).filterMap read

/-- What is read of the lines. -/
def readLines (text : List Char) : List α := (splitLines text).filterMap read

/-- The lines with their ends, where `line` holds the current line so far, reversed. -/
def keepLinesFrom (line : List Char) : List Char → List (List Char)
  | [] => if line = [] then [] else [line.reverse]
  | '\r' :: '\n' :: rest => (line.reverse ++ ['\r', '\n']) :: keepLinesFrom [] rest
  | char :: rest =>
      if isLineBreak char then (line.reverse ++ [char]) :: keepLinesFrom [] rest
      else keepLinesFrom (char :: line) rest

/-- `str.splitlines(keepends=True)` -/
def keepLines (text : List Char) : List (List Char) := keepLinesFrom [] text

variable {read}

section Read

variable (blank : read [] = none)

include blank

theorem readFrom_nil (line : List Char) : readFrom read line [] = (read line.reverse).toList := by
  rw [readFrom, splitLinesFrom]
  split
  next nothing => rw [nothing, List.reverse_nil, blank]; rfl
  · cases isRead : read line.reverse <;> simp [isRead]

omit blank in
theorem readFrom_plain {char : Char} (plain : isLineBreak char = false) (line rest : List Char) :
    readFrom read line (char :: rest) = readFrom read (char :: line) rest := by
  rw [readFrom, splitLinesFrom_plain plain]
  rfl

/-- A line ends at a break; the feed that may follow a carriage return makes an empty line
at most. -/
theorem readFrom_break {char : Char} (breaks : isLineBreak char = true) (line rest : List Char) :
    readFrom read line (char :: rest) =
      (read line.reverse).toList ++ readFrom read [] rest := by
  have split (rest : List Char) : (line.reverse :: splitLinesFrom [] rest).filterMap read =
      (read line.reverse).toList ++ readFrom read [] rest := by
    rw [readFrom, List.filterMap_cons]
    split
    next nothing => rw [nothing]; rfl
    next item isItem => rw [isItem]; rfl
  rw [readFrom, splitLinesFrom.eq_def]
  split
  next equal => cases equal
  next rest' equal =>
    cases equal
    have feed : readFrom read [] ('\n' :: rest') = readFrom read [] rest' := by
      rw [readFrom, splitLinesFrom_newline, List.reverse_nil, List.filterMap_cons, blank]
      rfl
    rw [split, feed]
  next equal =>
    cases equal
    rw [if_pos breaks, split]

/-- The parts before and after a break are read apart. -/
theorem readFrom_append {char : Char} (breaks : isLineBreak char = true)
    (line left rest : List Char) :
    readFrom read line (left ++ char :: rest) =
      readFrom read line left ++ readFrom read [] rest := by
  induction left generalizing line with
  | nil => rw [List.nil_append, readFrom_break blank breaks, readFrom_nil blank]
  | cons first left ih =>
      rw [List.cons_append]
      by_cases plain : isLineBreak first = false
      · rw [readFrom_plain plain, readFrom_plain plain, ih]
      · have ends : isLineBreak first = true := by simpa using plain
        rw [readFrom_break blank ends, readFrom_break blank ends, ih, List.append_assoc]

theorem readLines_append {char : Char} (breaks : isLineBreak char = true) (left rest : List Char) :
    readLines read (left ++ char :: rest) = readLines read left ++ readLines read rest :=
  readFrom_append blank breaks [] left rest

omit blank in
@[simp] theorem readLines_nil : readLines read [] = [] := rfl

/-- The break at the end of a text is not read. -/
theorem readLines_append_break {char : Char} (breaks : isLineBreak char = true)
    (text : List Char) : readLines read (text ++ [char]) = readLines read text := by
  rw [readLines_append blank breaks, readLines_nil, List.append_nil]

theorem readFrom_oneLine {text : List Char} (one : OneLine text) (line : List Char) :
    readFrom read line text = (read (line.reverse ++ text)).toList := by
  induction text generalizing line with
  | nil => rw [readFrom_nil blank, List.append_nil]
  | cons char text ih =>
      rw [readFrom_plain (one char (.head _)), ih fun other among => one other (.tail _ among)]
      simp

theorem readLines_oneLine {text : List Char} (one : OneLine text) :
    readLines read text = (read text).toList :=
  readFrom_oneLine blank one []

/-- What comes without a break goes on with the last line. -/
theorem exists_readLines_append (text : List Char) :
    ∃ before last, ∀ rest, OneLine rest →
      readLines read (text ++ rest) = before ++ (read (last ++ rest)).toList := by
  have collected (line : List Char) : ∃ before last, ∀ rest, OneLine rest →
      readFrom read line (text ++ rest) = before ++ (read (last ++ rest)).toList := by
    induction text generalizing line with
    | nil => exact ⟨[], line.reverse, fun rest one => readFrom_oneLine blank one line⟩
    | cons char text ih =>
        by_cases plain : isLineBreak char = false
        · obtain ⟨before, last, split⟩ := ih (char :: line)
          refine ⟨before, last, fun rest one => ?_⟩
          rw [List.cons_append, readFrom_plain plain, split rest one]
        · have breaks : isLineBreak char = true := by simpa using plain
          obtain ⟨before, last, split⟩ := ih []
          refine ⟨(read line.reverse).toList ++ before, last, fun rest one => ?_⟩
          rw [List.cons_append, readFrom_break blank breaks, split rest one, List.append_assoc]
  exact collected []

/-- Universal newlines make no difference. -/
theorem readLines_universalNewlines (text : List Char) :
    readLines read (universalNewlines text) = readLines read text := by
  have feedBreaks : isLineBreak '\n' = true := rfl
  have both (line : List Char) : readFrom read line (newlinesFrom false text) =
        readFrom read line text ∧
      readFrom read [] (newlinesFrom true text) = readFrom read [] text := by
    induction text generalizing line with
    | nil => exact ⟨rfl, rfl⟩
    | cons char text ih =>
        by_cases return_ : char = '\r'
        · subst return_
          have returnBreaks : isLineBreak '\r' = true := rfl
          have turned : ∀ returned, newlinesFrom returned ('\r' :: text) =
              '\n' :: newlinesFrom true text := by
            intro returned
            cases returned <;> rfl
          simp only [turned, readFrom_break blank feedBreaks, readFrom_break blank returnBreaks,
            (ih []).2, and_self]
        by_cases feed : char = '\n'
        · subst feed
          have kept : newlinesFrom false ('\n' :: text) = '\n' :: newlinesFrom false text := rfl
          have dropped : newlinesFrom true ('\n' :: text) = newlinesFrom false text := rfl
          simp only [kept, dropped, readFrom_break blank feedBreaks, (ih []).1, List.reverse_nil,
            blank, Option.toList_none, List.nil_append, and_self]
        · have kept : ∀ returned, newlinesFrom returned (char :: text) =
              char :: newlinesFrom false text := by
            intro returned
            rw [newlinesFrom, if_neg fun both => feed both.1, if_neg return_]
          by_cases plain : isLineBreak char = false
          · simp only [kept, readFrom_plain plain, ih, and_self]
          · have breaks : isLineBreak char = true := by simpa using plain
            simp only [kept, readFrom_break blank breaks, ih, and_self]
  exact (both []).1

end Read

/-- Newlines are translated apart where no line feed comes first. -/
theorem universalNewlines_append {right : List Char} (noFeed : right.head? ≠ some '\n')
    (left : List Char) :
    universalNewlines (left ++ right) = universalNewlines left ++ universalNewlines right := by
  have same : newlinesFrom true right = newlinesFrom false right := by
    cases right with
    | nil => rfl
    | cons first right =>
        have notFeed : first ≠ '\n' := fun feed => noFeed (congrArg some feed)
        simp [newlinesFrom, notFeed]
  obtain ⟨returned, split⟩ := exists_newlinesFrom_append false left
  rw [universalNewlines, split]
  cases returned with
  | false => rfl
  | true => rw [same]; rfl

/-- A line feed after a text, and the text without it. -/
theorem exists_universalNewlines_feed (text : List Char) :
    ∃ front, universalNewlines (text ++ ['\n']) = front ++ ['\n'] ∧
      (universalNewlines text = front ∨ universalNewlines text = front ++ ['\n']) := by
  obtain ⟨returned, split⟩ := exists_newlinesFrom_append false text
  obtain ⟨front, ends⟩ := (newlinesFrom_ends text).1
  refine ⟨front, ends, ?_⟩
  rw [split] at ends
  cases returned with
  | false => exact .inl (List.append_inj_left' ends rfl)
  | true => exact .inr (by rw [← ends]; exact (List.append_nil _).symm)

/-- A text that ends with a line feed once its newlines are translated ends with a break. -/
theorem getLast?_of_universalNewlines {text : List Char}
    (last : (universalNewlines text).getLast? = some '\n') :
    ∀ char ∈ text.getLast?, isLineBreak char = true := by
  intro char isLast
  obtain ⟨front, rfl⟩ := List.getLast?_eq_some_iff.mp (Option.mem_def.mp isLast)
  by_cases feed : char = '\n'
  · rw [feed]; rfl
  by_cases return_ : char = '\r'
  · rw [return_]; rfl
  have noFeed : [char].head? ≠ some '\n' := fun same => feed (Option.some.inj same)
  have alone : universalNewlines [char] = [char] := by
    simp [universalNewlines, newlinesFrom, feed, return_]
  rw [universalNewlines_append noFeed, alone, List.getLast?_concat] at last
  exact absurd (Option.some.inj last) feed

theorem eq_nil_of_universalNewlines {text : List Char} (nothing : universalNewlines text = []) :
    text = [] := by
  cases text with
  | nil => rfl
  | cons char text =>
      simp only [universalNewlines, newlinesFrom, Bool.false_eq_true, and_false,
        if_false] at nothing
      split at nothing <;> cases nothing

/-- Lines that have ended stay as they are when a text goes on. -/
theorem splitLinesFrom_prefix {line text rest : List Char}
    (started : text = [] → line = [] ∨ rest.head? = some '\n')
    (ended : ∀ char ∈ text.getLast?, isLineBreak char = true ∨ rest.head? = some '\n') :
    splitLinesFrom line text <+: splitLinesFrom line (text ++ rest) := by
  fun_induction splitLinesFrom line text with
  | case1 => exact List.nil_prefix
  | case2 line some_ =>
      obtain ⟨rest', rfl⟩ : ∃ rest', rest = '\n' :: rest' := by
        cases rest with
        | nil => exact absurd ((started rfl).resolve_left some_) (by simp)
        | cons first rest =>
            exact ⟨rest, by rw [Option.some.inj ((started rfl).resolve_left some_)]⟩
      rw [List.nil_append, splitLinesFrom_newline]
      exact ⟨_, rfl⟩
  | case3 line text ih =>
      refine List.cons_prefix_cons.mpr ⟨rfl, ih (fun _ => .inl rfl) fun char isLast => ?_⟩
      exact ended char (by simp [List.getLast?_cons, Option.mem_def.mp isLast])
  | case4 line char text notFeed breaks ih =>
      have later : splitLinesFrom [] text <+: splitLinesFrom [] (text ++ rest) := by
        refine ih (fun _ => .inl rfl) fun other isLast => ended other ?_
        rw [List.getLast?_cons, Option.mem_def.mp isLast]
        rfl
      rw [List.cons_append, splitLinesFrom.eq_def line (char :: (text ++ rest))]
      split
      next equal => cases equal
      next rest' equal =>
        rw [List.cons.injEq] at equal
        cases text with
        | nil => exact List.cons_prefix_cons.mpr ⟨rfl, List.nil_prefix⟩
        | cons first text =>
            rw [List.cons_append, List.cons.injEq] at equal
            exact (notFeed text equal.1 (by rw [equal.2.1])).elim
      next equal =>
        cases equal
        rw [if_pos breaks]
        exact List.cons_prefix_cons.mpr ⟨rfl, later⟩
  | case5 line char text _ plain ih =>
      rw [List.cons_append, splitLinesFrom_plain (by simpa using plain)]
      refine ih (fun nothing => ?_) fun other isLast => ended other ?_
      · subst nothing
        exact .inr ((ended char rfl).resolve_left plain)
      · rw [List.getLast?_cons, Option.mem_def.mp isLast]
        rfl

/-- What is skipped at the end is stripped. -/
theorem stripBy_append_skipped {skip : Char → Bool} (text : List Char) {blanks : List Char}
    (blank : ∀ char ∈ blanks, skip char = true) :
    stripBy skip (text ++ blanks) = stripBy skip text := by
  have reversed : ∀ char ∈ blanks.reverse, skip char = true :=
    fun char member => blank char (List.mem_reverse.mp member)
  by_cases nothing : text.dropWhile skip = []
  · have all : ∀ char ∈ text ++ blanks, skip char = true :=
      List.forall_mem_append.mpr ⟨List.dropWhile_eq_nil_iff.mp nothing, blank⟩
    rw [stripBy_eq_nil all, stripBy_eq_nil (List.dropWhile_eq_nil_iff.mp nothing)]
  · rw [stripBy, stripBy, List.dropWhile_append, if_neg (by simpa using nothing),
      List.reverse_append, List.dropWhile_append_of_pos reversed]

/-! ## Lines with their ends -/

/-- A line with its end, which only the last one may lack. -/
def IsLine (text : List Char) : Prop :=
  ∃ body ending, text = body ++ ending ∧ OneLine body ∧
    (ending = ['\r', '\n'] ∨ ∃ char, isLineBreak char = true ∧ ending = [char])

theorem flatten_keepLinesFrom (line text : List Char) :
    (keepLinesFrom line text).flatten = line.reverse ++ text := by
  fun_induction keepLinesFrom line text with
  | case1 => simp
  | case2 line some => simp
  | case3 line rest ih => simp [ih]
  | case4 line char rest _ breaks ih => simp [ih]
  | case5 line char rest _ plain ih => simp [ih]

@[simp] theorem flatten_keepLines (text : List Char) : (keepLines text).flatten = text :=
  flatten_keepLinesFrom [] text

theorem keepLinesFrom_cases {line : List Char} (one : OneLine line) (text : List Char) :
    ∃ lines last, keepLinesFrom line text = lines ++ last ∧ (∀ line ∈ lines, IsLine line) ∧
      (last = [] ∨ ∃ body, OneLine body ∧ last = [body]) := by
  have reversed {line : List Char} (one : OneLine line) : OneLine line.reverse :=
    fun char member => one char (List.mem_reverse.mp member)
  fun_induction keepLinesFrom line text with
  | case1 => exact ⟨[], [], rfl, by simp, .inl rfl⟩
  | case2 line some => exact ⟨[], [line.reverse], rfl, by simp, .inr ⟨_, reversed one, rfl⟩⟩
  | case3 line rest ih =>
      obtain ⟨lines, last, split, isLines, isLast⟩ := ih oneLine_nil
      have first : IsLine (line.reverse ++ ['\r', '\n']) := ⟨_, _, rfl, reversed one, .inl rfl⟩
      exact ⟨_ :: lines, last, by rw [split]; rfl, List.forall_mem_cons.mpr ⟨first, isLines⟩,
        isLast⟩
  | case4 line char rest _ breaks ih =>
      obtain ⟨lines, last, split, isLines, isLast⟩ := ih oneLine_nil
      have first : IsLine (line.reverse ++ [char]) :=
        ⟨_, _, rfl, reversed one, .inr ⟨char, breaks, rfl⟩⟩
      exact ⟨_ :: lines, last, by rw [split]; rfl, List.forall_mem_cons.mpr ⟨first, isLines⟩,
        isLast⟩
  | case5 line char rest _ plain ih =>
      exact ih (List.forall_mem_cons.mpr ⟨by simpa using plain, one⟩)

/-- All lines have their ends, but for a last one that may be there. -/
theorem keepLines_cases (text : List Char) :
    ∃ lines last, keepLines text = lines ++ last ∧ (∀ line ∈ lines, IsLine line) ∧
      (last = [] ∨ ∃ body, OneLine body ∧ last = [body]) :=
  keepLinesFrom_cases oneLine_nil text

/-- Lines without a break in them are taken apart again. -/
theorem splitLines_flatMap {lines : List (List Char)} (one : ∀ line ∈ lines, OneLine line) :
    splitLines (lines.flatMap (· ++ ['\n'])) = lines := by
  induction lines with
  | nil => rfl
  | cons line lines ih =>
      obtain ⟨first, others⟩ := List.forall_mem_cons.mp one
      rw [List.flatMap_cons, List.append_assoc, List.singleton_append, splitLines_oneLine first,
        ih others]

section Flatten

variable (blank : read [] = none)

include blank

theorem readLines_body {body ending : List Char} (one : OneLine body)
    (ends : ending = ['\r', '\n'] ∨ ∃ char, isLineBreak char = true ∧ ending = [char]) :
    readLines read (body ++ ending) = (read body).toList := by
  rcases ends with rfl | ⟨char, breaks, rfl⟩
  · have feedBreaks : isLineBreak '\n' = true := rfl
    have returnBreaks : isLineBreak '\r' = true := rfl
    rw [List.append_cons, readLines_append_break blank feedBreaks,
      readLines_append_break blank returnBreaks, readLines_oneLine blank one]
  · rw [readLines_append_break blank breaks, readLines_oneLine blank one]

theorem readLines_line_append {line : List Char} (isLine : IsLine line) (rest : List Char) :
    readLines read (line ++ rest) = readLines read line ++ readLines read rest := by
  obtain ⟨body, ending, rfl, -, rfl | ⟨char, breaks, rfl⟩⟩ := isLine
  · have feedBreaks : isLineBreak '\n' = true := rfl
    rw [List.append_cons, List.append_assoc, List.singleton_append,
      readLines_append blank feedBreaks, readLines_append_break blank feedBreaks]
  · rw [List.append_assoc, List.singleton_append, readLines_append blank breaks,
      readLines_append_break blank breaks]

/-- Lines that are put together are read one by one. -/
theorem readLines_flatten {lines : List (List Char)} (isLines : ∀ line ∈ lines, IsLine line)
    (last : List Char) :
    readLines read (lines.flatten ++ last) =
      lines.flatMap (readLines read) ++ readLines read last := by
  induction lines with
  | nil => rfl
  | cons line lines ih =>
      obtain ⟨first, others⟩ := List.forall_mem_cons.mp isLines
      rw [List.flatten_cons, List.append_assoc, readLines_line_append blank first, ih others,
        List.flatMap_cons, List.append_assoc]

end Flatten

end PresenceLogger.Library.Text
