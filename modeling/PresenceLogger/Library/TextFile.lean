import PresenceLogger.Library.Text

/-!
# Text files

How Python reads the lines of a text file, with universal newlines, and how
`csv.writer` writes a row of the default dialect.  Readers that take complete lines
only see the lines of an appended text after those that were there.
-/

namespace PresenceLogger.Library.Text

/-! ## Lines -/

/-- The decoder of universal newlines, which has just turned a carriage return into a
line feed or not. -/
def newlinesFrom (returned : Bool) : List Char → List Char
  | [] => []
  | char :: rest =>
      if char = '\n' ∧ returned = true then newlinesFrom false rest
      else if char = '\r' then '\n' :: newlinesFrom true rest
      else char :: newlinesFrom false rest

/-- The text of a file that is opened without `newline`. -/
def universalNewlines (text : List Char) : List Char := newlinesFrom false text

/-- `text.split("\n")[:-1]` of a file's text: its lines without a last one that has no
end yet. -/
def completeLines (text : List Char) : List (List Char) :=
  ((universalNewlines text).splitOn '\n').dropLast

/-- Every line has its end. -/
def Complete (text : List Char) : Prop := text = [] ∨ ∃ front, text = front ++ ['\n']

theorem newlinesFrom_append (returned : Bool) (left right : List Char) :
    newlinesFrom returned (left ++ '\n' :: right) =
      newlinesFrom returned (left ++ ['\n']) ++ newlinesFrom false right := by
  induction left generalizing returned with
  | nil => cases returned <;> simp [newlinesFrom]
  | cons char left ih =>
      simp only [List.cons_append, newlinesFrom, ih]
      split
      · rfl
      · split <;> rfl

theorem newlinesFrom_ends (left : List Char) :
    (∃ front, newlinesFrom false (left ++ ['\n']) = front ++ ['\n']) ∧
      ∃ front, '\n' :: newlinesFrom true (left ++ ['\n']) = front ++ ['\n'] := by
  induction left with
  | nil => exact ⟨⟨[], by simp [newlinesFrom]⟩, ⟨[], by simp [newlinesFrom]⟩⟩
  | cons char left ih =>
      rcases ih with ⟨⟨plain, isPlain⟩, ⟨returned, isReturned⟩⟩
      simp only [List.cons_append, newlinesFrom, Bool.false_eq_true, and_false, if_false,
        and_true]
      by_cases feed : char = '\n'
      · subst feed
        exact ⟨⟨'\n' :: plain, by simp [isPlain]⟩, ⟨'\n' :: plain, by simp [isPlain]⟩⟩
      by_cases return_ : char = '\r'
      · subst return_
        exact ⟨⟨returned, by simp [isReturned]⟩, ⟨'\n' :: returned, by simp [isReturned]⟩⟩
      · exact ⟨⟨char :: plain, by simp [return_, isPlain]⟩,
          ⟨'\n' :: char :: plain, by simp [feed, return_, isPlain]⟩⟩

theorem not_mem_newlinesFrom (returned : Bool) (text : List Char) :
    '\r' ∉ newlinesFrom returned text := by
  induction text generalizing returned with
  | nil => exact List.not_mem_nil
  | cons char text ih =>
      rw [newlinesFrom]
      split
      · exact ih _
      · split
        · exact List.not_mem_cons_of_ne_of_not_mem (by decide) (ih _)
        next other => exact List.not_mem_cons_of_ne_of_not_mem (Ne.symm other) (ih _)

theorem newlinesFrom_plain {text : List Char} (plain : '\r' ∉ text) (rest : List Char) :
    newlinesFrom false (text ++ rest) = text ++ newlinesFrom false rest := by
  induction text with
  | nil => rfl
  | cons char text ih =>
      rw [List.cons_append, newlinesFrom, if_neg (by simp),
        if_neg (List.ne_of_not_mem_cons plain).symm, ih (List.not_mem_of_not_mem_cons plain)]
      rfl

/-- The pieces of a split text are made of its other characters. -/
theorem mem_of_mem_splitOn {separator : Char} {text piece : List Char}
    (among : piece ∈ text.splitOn separator) :
    ∀ char ∈ piece, char ∈ text ∧ char ≠ separator := by
  induction text generalizing piece with
  | nil =>
      rw [List.splitOn_nil, List.mem_singleton] at among
      rw [among]
      exact fun _ member => nomatch member
  | cons head text ih =>
      rw [List.splitOn_cons_eq_if_modifyHead] at among
      have later {other : List Char} (inText : other ∈ text.splitOn separator) :
          ∀ char ∈ other, char ∈ head :: text ∧ char ≠ separator := fun char member =>
        ⟨.tail _ (ih inText char member).1, (ih inText char member).2⟩
      split at among
      · rcases List.mem_cons.mp among with rfl | inText
        · exact fun _ member => nomatch member
        · exact later inText
      next other =>
        cases pieces : text.splitOn separator with
        | nil => exact absurd pieces (List.splitOn_ne_nil _ _)
        | cons first rest =>
            rw [pieces, List.modifyHead_cons] at among
            rcases List.mem_cons.mp among with rfl | inRest
            · intro char member
              rcases List.mem_cons.mp member with rfl | inFirst
              · exact ⟨.head _, by simpa using other⟩
              · exact later (pieces ▸ .head _) char inFirst
            · exact later (pieces ▸ .tail _ inRest)

theorem length_splitOn (separator : Char) (text : List Char) :
    (text.splitOn separator).length = text.count separator + 1 := by
  induction text with
  | nil => rfl
  | cons char text ih =>
      rw [List.splitOn_cons_eq_if_modifyHead, List.count_cons]
      split <;> simp [*]

/-- A complete line has no line end in it. -/
theorem plain_of_mem_completeLines {text line : List Char} (among : line ∈ completeLines text) :
    '\n' ∉ line ∧ '\r' ∉ line := by
  have chars := mem_of_mem_splitOn ((List.dropLast_sublist _).mem among)
  exact ⟨fun feed => (chars _ feed).2 rfl,
    fun back => not_mem_newlinesFrom false text (chars _ back).1⟩

/-- What is appended to complete lines is read after them. -/
theorem completeLines_append {left : List Char} (complete : Complete left) (right : List Char) :
    completeLines (left ++ right) = completeLines left ++ completeLines right := by
  rcases complete with rfl | ⟨front, rfl⟩
  · rfl
  · rcases (newlinesFrom_ends front).1 with ⟨lines, isLines⟩
    have leftLines : completeLines (front ++ ['\n']) = lines.splitOn '\n' := by
      rw [completeLines, universalNewlines, isLines, List.splitOn_append_cons_self,
        List.splitOn_nil, List.dropLast_concat]
    rw [leftLines, completeLines, universalNewlines, List.append_assoc, List.singleton_append,
      newlinesFrom_append, isLines, List.append_assoc, List.singleton_append,
      List.splitOn_append_cons_self, List.dropLast_append_of_ne_nil (List.splitOn_ne_nil _ _)]
    rfl

/-- `text.split("\n")` of a file's text. -/
def lines (text : List Char) : List (List Char) := (universalNewlines text).splitOn '\n'

theorem exists_newlinesFrom_append (returned : Bool) (left : List Char) :
    ∃ flag, ∀ right, newlinesFrom returned (left ++ right) =
      newlinesFrom returned left ++ newlinesFrom flag right := by
  induction left generalizing returned with
  | nil => exact ⟨returned, fun _ => rfl⟩
  | cons char left ih =>
      simp only [List.cons_append, newlinesFrom]
      split
      · exact ih false
      · split
        · rcases ih true with ⟨flag, later⟩
          exact ⟨flag, fun right => by rw [later]; rfl⟩
        · rcases ih false with ⟨flag, later⟩
          exact ⟨flag, fun right => by rw [later]; rfl⟩

theorem mem_of_mem_newlinesFrom {returned : Bool} {text : List Char} {char : Char}
    (member : char ∈ newlinesFrom returned text) : char ∈ text ∨ char = '\n' := by
  induction text generalizing returned with
  | nil => exact .inl member
  | cons head text ih =>
      have later {flag : Bool} (inLater : char ∈ newlinesFrom flag text) :
          char ∈ head :: text ∨ char = '\n' := (ih inLater).imp_left (.tail _)
      rw [newlinesFrom] at member
      split at member
      · exact later member
      · split at member
        · rcases List.mem_cons.mp member with feed | inLater
          · exact .inr feed
          · exact later inLater
        · rcases List.mem_cons.mp member with same | inLater
          · exact .inl (same ▸ .head _)
          · exact later inLater

/-- The lines of a text that ended with its last line, and of what has been appended
since. -/
theorem exists_lines_append {left : List Char}
    (ended : universalNewlines left = [] ∨ (universalNewlines left).getLast? = some '\n')
    (right : List Char) :
    ∃ rest, lines (left ++ right) = completeLines left ++ rest ∧
      ∀ piece ∈ rest, ∀ char ∈ piece, char ∈ right := by
  rcases exists_newlinesFrom_append false left with ⟨flag, decoded⟩
  refine ⟨(newlinesFrom flag right).splitOn '\n', ?_, ?_⟩
  · have split : universalNewlines (left ++ right) =
        universalNewlines left ++ newlinesFrom flag right := decoded right
    rw [lines, completeLines, split]
    rcases ended with empty | feed
    · rw [empty]
      rfl
    · rcases List.getLast?_eq_some_iff.mp feed with ⟨front, isFront⟩
      rw [isFront, List.append_assoc, List.singleton_append, List.splitOn_append_cons_self,
        List.splitOn_append_cons_self, List.splitOn_nil, List.dropLast_concat]
  · intro piece among char member
    rcases mem_of_mem_splitOn among char member with ⟨inText, noFeed⟩
    exact (mem_of_mem_newlinesFrom inText).resolve_right noFeed

private theorem dropLast_modifyHead_prefix {α : Type*} (change : α → α) {short long : List α}
    (shorter : short.dropLast <+: long.dropLast) :
    (short.modifyHead change).dropLast <+: (long.modifyHead change).dropLast := by
  rcases short with - | ⟨first, - | ⟨second, short⟩⟩
  · exact List.nil_prefix
  · exact List.nil_prefix
  · rcases long with - | ⟨other, - | ⟨next, long⟩⟩
    · exact absurd (List.prefix_nil.mp shorter) (List.cons_ne_nil _ _)
    · exact absurd (List.prefix_nil.mp shorter) (List.cons_ne_nil _ _)
    · rcases List.cons_prefix_cons.mp shorter with ⟨rfl, later⟩
      exact List.cons_prefix_cons.mpr ⟨rfl, later⟩

private theorem dropLast_splitOn_prefix (separator : Char) (left right : List Char) :
    (left.splitOn separator).dropLast <+: ((left ++ right).splitOn separator).dropLast := by
  induction left with
  | nil =>
      rw [List.splitOn_nil]
      exact List.nil_prefix
  | cons char left ih =>
      rw [List.cons_append, List.splitOn_cons_eq_if_modifyHead, List.splitOn_cons_eq_if_modifyHead]
      split
      · rw [List.dropLast_cons_of_ne_nil (List.splitOn_ne_nil _ _),
          List.dropLast_cons_of_ne_nil (List.splitOn_ne_nil _ _)]
        exact List.cons_prefix_cons.mpr ⟨rfl, ih⟩
      · exact dropLast_modifyHead_prefix _ ih

/-- A complete line of a file stays where it is when the file grows. -/
theorem completeLines_prefix {left text : List Char} (shorter : left <+: text) :
    completeLines left <+: completeLines text := by
  rcases shorter with ⟨right, rfl⟩
  rcases exists_newlinesFrom_append false left with ⟨flag, decoded⟩
  rw [completeLines, completeLines, universalNewlines, universalNewlines, decoded]
  exact dropLast_splitOn_prefix _ _ _

/-! ## Rows of `csv.writer` -/

/-- A field is quoted if it has a delimiter, a quote or a line end in it. -/
def csvField (field : List Char) : List Char :=
  if field.any fun char => char = ',' ∨ char = '"' ∨ char = '\r' ∨ char = '\n' then
    '"' :: (field.flatMap fun char => if char = '"' then ['"', '"'] else [char]) ++ ['"']
  else field

/-- `writer.writerow(fields)` of more than one field. -/
def csvRow (fields : List (List Char)) : List Char :=
  [','].intercalate (fields.map csvField) ++ ['\r', '\n']

theorem mem_csvField {field : List Char} {char : Char} (member : char ∈ csvField field) :
    char ∈ field ∨ char = '"' := by
  rw [csvField] at member
  split at member
  · simp only [List.cons_append, List.mem_cons, List.mem_append, List.mem_flatMap,
      List.not_mem_nil, or_false] at member
    rcases member with quote | ⟨other, among, isOther⟩ | quote
    · exact .inr quote
    · split at isOther
      · exact .inr (by simpa using isOther)
      · cases List.mem_singleton.mp isOther
        exact .inl among
    · exact .inr quote
  · exact .inl member

theorem length_le_length_flatMap (field : List Char) :
    field.length ≤
      (field.flatMap fun char => if char = '"' then ['"', '"'] else [char]).length := by
  induction field with
  | nil => exact Nat.le_refl _
  | cons char field ih =>
      rw [List.flatMap_cons, List.length_append, List.length_cons]
      split <;> simp only [List.length_cons, List.length_nil] <;> omega

/-- Only a field that needs no quotes is written as it is. -/
theorem csvField_eq_self_iff {field : List Char} :
    csvField field = field ↔ ',' ∉ field ∧ '"' ∉ field ∧ '\r' ∉ field ∧ '\n' ∉ field := by
  have special : (field.any fun char => char = ',' ∨ char = '"' ∨ char = '\r' ∨ char = '\n') =
      true ↔ ¬(',' ∉ field ∧ '"' ∉ field ∧ '\r' ∉ field ∧ '\n' ∉ field) := by
    simp only [List.any_eq_true, decide_eq_true_eq]
    constructor
    · rintro ⟨char, member, rfl | rfl | rfl | rfl⟩ ⟨comma, quote, back, feed⟩
      · exact comma member
      · exact quote member
      · exact back member
      · exact feed member
    · intro some
      by_contra none
      exact some ⟨fun comma => none ⟨_, comma, .inl rfl⟩,
        fun quote => none ⟨_, quote, .inr (.inl rfl)⟩,
        fun back => none ⟨_, back, .inr (.inr (.inl rfl))⟩,
        fun feed => none ⟨_, feed, .inr (.inr (.inr rfl))⟩⟩
  rw [csvField]
  split
  next quoted =>
    refine iff_of_false (fun same => ?_) (special.mp quoted)
    have longer := congrArg List.length same
    have kept := length_le_length_flatMap field
    simp only [List.length_append, List.length_cons, List.length_nil] at longer
    omega
  next plain => exact iff_of_true rfl (not_not.mp fun not => plain (special.mpr not))

/-- The characters of a quoted field, each quote twice. -/
def doubleQuotes (field : List Char) : List Char :=
  field.flatMap fun char => if char = '"' then ['"', '"'] else [char]

theorem doubleQuotes_injective : Function.Injective doubleQuotes := by
  intro left right same
  induction left generalizing right with
  | nil =>
      cases right with
      | nil => rfl
      | cons char right =>
          simp only [doubleQuotes, List.flatMap_nil, List.flatMap_cons] at same
          split at same <;> cases same
  | cons char left ih =>
      cases right with
      | nil =>
          simp only [doubleQuotes, List.flatMap_nil, List.flatMap_cons] at same
          split at same <;> cases same
      | cons other right =>
          simp only [doubleQuotes, List.flatMap_cons] at same
          by_cases quote : char = '"' <;> by_cases otherQuote : other = '"'
          · simp only [quote, otherQuote, if_pos, List.append_cancel_left_eq] at same ⊢
            rw [ih same]
          · rw [if_pos quote, if_neg otherQuote] at same
            exact absurd (List.cons.inj same).1.symm otherQuote
          · rw [if_neg quote, if_pos otherQuote] at same
            exact absurd (List.cons.inj same).1 quote
          · rw [if_neg quote, if_neg otherQuote] at same
            rw [(List.cons.inj same).1, ih (List.cons.inj same).2]

theorem csvField_cases (field : List Char) :
    csvField field = field ∧ '"' ∉ field ∨
      csvField field = '"' :: (doubleQuotes field ++ ['"']) := by
  by_cases plain : csvField field = field
  · exact .inl ⟨plain, (csvField_eq_self_iff.mp plain).2.1⟩
  · right
    rw [csvField] at plain ⊢
    split at plain
    next quoted =>
      rw [if_pos quoted]
      rfl
    · exact absurd rfl plain

/-- A reader of what is written can tell the fields apart. -/
theorem csvField_injective : Function.Injective csvField := by
  intro left right same
  rcases csvField_cases left with ⟨isLeft, leftPlain⟩ | isLeft <;>
    rcases csvField_cases right with ⟨isRight, rightPlain⟩ | isRight
  · rw [← isLeft, same, isRight]
  · rw [← isLeft, same, isRight] at leftPlain
    exact absurd (.head _) leftPlain
  · rw [← isRight, ← same, isLeft] at rightPlain
    exact absurd (.head _) rightPlain
  · rw [isLeft, isRight] at same
    exact doubleQuotes_injective (List.append_cancel_right (List.cons.inj same).2)

/-- Digits and a sign need no quotes. -/
theorem csvField_of_digits {field : List Char}
    (digits : ∀ char ∈ field, char = '-' ∨ char.isDigit = true) : csvField field = field := by
  have other (char : Char) (notDigit : char.isDigit = false) (notSign : char ≠ '-') :
      char ∉ field := by
    intro member
    rcases digits char member with sign | digit
    · exact notSign sign
    · cases notDigit.symm.trans digit
  exact csvField_eq_self_iff.mpr ⟨other _ (by decide) (by decide), other _ (by decide) (by decide),
    other _ (by decide) (by decide), other _ (by decide) (by decide)⟩

/-- Stripping leaves a written field alone. -/
theorem trimmed_csvField {field : List Char} (trimmed : Trimmed isSpace field) :
    Trimmed isSpace (csvField field) := by
  rw [csvField]
  split
  · constructor
    · intro char isFirst
      cases Option.mem_some.mp isFirst
      decide
    · intro char isLast
      rw [List.getLast?_append] at isLast
      cases Option.mem_some.mp isLast
      decide
  · exact trimmed

theorem forall_mem_intercalate {holds : Char → Prop} {separator : List Char}
    {pieces : List (List Char)} (ofSeparator : ∀ char ∈ separator, holds char)
    (ofPieces : ∀ piece ∈ pieces, ∀ char ∈ piece, holds char) :
    ∀ char ∈ separator.intercalate pieces, holds char := by
  induction pieces with
  | nil => exact fun _ member => nomatch member
  | cons piece pieces ih =>
      have later := ih fun other among => ofPieces other (.tail _ among)
      by_cases last : pieces = []
      · rw [last, List.intercalate_singleton]
        exact ofPieces piece (.head _)
      · rw [List.intercalate_cons_of_ne_nil last]
        intro char member
        rcases List.mem_append.mp member with before | inLater
        · rcases List.mem_append.mp before with inPiece | inSeparator
          · exact ofPieces piece (.head _) char inPiece
          · exact ofSeparator char inSeparator
        · exact later char inLater

/-- A row without line ends in its fields is one line. -/
theorem completeLines_csvRow {fields : List (List Char)}
    (plain : ∀ field ∈ fields, '\r' ∉ field ∧ '\n' ∉ field) :
    completeLines (csvRow fields) = [[','].intercalate (fields.map csvField)] := by
  have body : ∀ char ∈ [','].intercalate (fields.map csvField), char ≠ '\r' ∧ char ≠ '\n' := by
    apply forall_mem_intercalate
    · intro char isComma
      rw [List.mem_singleton.mp isComma]
      decide
    · intro written among char member
      rcases List.mem_map.mp among with ⟨field, isField, rfl⟩
      rcases mem_csvField member with inField | rfl
      · exact ⟨ne_of_mem_of_not_mem inField (plain field isField).1,
          ne_of_mem_of_not_mem inField (plain field isField).2⟩
      · decide
  have noReturn : '\r' ∉ [','].intercalate (fields.map csvField) :=
    fun member => (body _ member).1 rfl
  have noFeed : '\n' ∉ [','].intercalate (fields.map csvField) :=
    fun member => (body _ member).2 rfl
  rw [completeLines, universalNewlines, csvRow, newlinesFrom_plain noReturn]
  have ending : newlinesFrom false ['\r', '\n'] = ['\n'] := by simp [newlinesFrom]
  rw [ending, List.splitOn_append_cons_self, List.splitOn_nil, List.dropLast_concat,
    List.splitOn_eq_singleton noFeed]

theorem splitOn_fields {fields : List (List Char)} (some : fields ≠ [])
    (plain : ∀ field ∈ fields, ',' ∉ field) :
    ([','].intercalate (fields.map csvField)).splitOn ',' = fields.map csvField := by
  apply List.splitOn_intercalate
  · intro written among
    rcases List.mem_map.mp among with ⟨field, isField, rfl⟩
    intro comma
    rcases mem_csvField comma with inField | quote
    · exact plain field isField inField
    · exact absurd quote (by decide)
  · simpa using some

theorem complete_csvRow (fields : List (List Char)) : Complete (csvRow fields) :=
  .inr ⟨[','].intercalate (fields.map csvField) ++ ['\r'], by simp [csvRow]⟩

end PresenceLogger.Library.Text
