import PresenceLogger.Library.Lines

/-!
# Reports of fields

A report has a field on each line, a key and a value; of the fields with one key a reader
takes the last.  A report that is cut short still has every field before the cut, and of
the field it is cut in no more than the beginning of the value.
-/

namespace PresenceLogger.Library.Report

open Text

structure Field where
  key : List Char
  value : List Char
  deriving DecidableEq

def Field.text (field : Field) : List Char := field.key ++ '=' :: field.value

def print (fields : List Field) : List Char := fields.flatMap fun field => field.text ++ ['\n']

/-- The value of a line that has the key. -/
def fieldValue (key line : List Char) : Option (List Char) :=
  if '=' ∈ line ∧ (partition '=' line).1 = key then some (strip (partition '=' line).2) else none

/-- The last value that a key has in a text, or nothing. -/
def lastValue (text key : List Char) : List Char :=
  (readLines (fieldValue key) text).getLast?.getD []

/-- A beginning of two texts ends in the first or in the second. -/
theorem prefix_append_cases {part left right : List Char} (isPart : part <+: left ++ right) :
    part <+: left ∨ ∃ rest, part = left ++ rest ∧ rest <+: right := by
  rcases List.prefix_or_prefix_of_prefix isPart (List.prefix_append left right) with
    inLeft | ⟨rest, rfl⟩
  · exact .inl inLeft
  · exact .inr ⟨rest, rfl, (List.prefix_append_right_inj left).mp isPart⟩

/-- A field that stands on a line of its own. -/
structure Field.Stands (field : Field) : Prop where
  key : '=' ∉ field.key
  keyOne : OneLine field.key
  valueOne : OneLine field.value

variable {field : Field} {fields : List Field}

theorem Field.Stands.oneLine (stands : field.Stands) : OneLine field.text :=
  stands.keyOne.append (List.forall_mem_cons.mpr ⟨by decide, stands.valueOne⟩)

theorem fieldValue_nil (key : List Char) : fieldValue key [] = none := by
  simp [fieldValue]

theorem fieldValue_append {name : List Char} (plain : '=' ∉ name) (key value : List Char) :
    fieldValue key (name ++ '=' :: value) = if name = key then some (strip value) else none := by
  simp [fieldValue, partition_append plain]

/-- A line that is cut short has no other key, and no more than the beginning of the value. -/
theorem fieldValue_cut (stands : field.Stands) {cut : List Char} (part : cut <+: field.text)
    (key : List Char) :
    fieldValue key cut = none ∨
      field.key = key ∧
        ∃ value, value <+: field.value ∧ fieldValue key cut = some (strip value) := by
  rcases prefix_append_cases part with inKey | ⟨rest, rfl, inValue⟩
  · refine .inl (if_neg fun found => stands.key ?_)
    exact inKey.subset found.1
  · cases rest with
    | nil =>
        refine .inl (if_neg fun found => stands.key ?_)
        simpa using found.1
    | cons char value =>
        obtain ⟨rfl, isValue⟩ := List.cons_prefix_cons.mp inValue
        rw [fieldValue_append stands.key]
        by_cases same : field.key = key
        · exact .inr ⟨same, value, isValue, if_pos same⟩
        · exact .inl (if_neg same)

theorem readLines_print (stands : ∀ field ∈ fields, field.Stands) (key rest : List Char) :
    readLines (fieldValue key) (print fields ++ rest) =
      (fields.filter (·.key = key)).map (fun field => strip field.value) ++
        readLines (fieldValue key) rest := by
  have feedBreaks : isLineBreak '\n' = true := rfl
  induction fields with
  | nil => rfl
  | cons field fields ih =>
      obtain ⟨first, others⟩ := List.forall_mem_cons.mp stands
      have here : readLines (fieldValue key) field.text =
          if field.key = key then [strip field.value] else [] := by
        rw [readLines_oneLine (fieldValue_nil key) first.oneLine, Field.text,
          fieldValue_append first.key]
        split <;> rfl
      rw [print, List.flatMap_cons, ← print, List.append_assoc, List.append_assoc,
        List.singleton_append, readLines_append (fieldValue_nil key) feedBreaks, ih others, here,
        List.filter_cons]
      by_cases same : field.key = key <;> simp [same]

/-- A field that is there is read, when no other has its key. -/
theorem lastValue_of_mem (stands : ∀ field ∈ fields, field.Stands)
    (distinct : (fields.map Field.key).Nodup) (among : field ∈ fields) {rest : List Char}
    (nothing : readLines (fieldValue field.key) rest = []) :
    lastValue (print fields ++ rest) field.key = strip field.value := by
  have only : fields.filter (·.key = field.key) = [field] := by
    obtain ⟨before, after, rfl⟩ := List.append_of_mem among
    rw [List.map_append, List.map_cons, List.nodup_append] at distinct
    obtain ⟨-, afterDistinct, apart⟩ := distinct
    have notBefore : ∀ other ∈ before, ¬decide (other.key = field.key) = true := by
      intro other inBefore same
      exact apart _ (List.mem_map_of_mem inBefore) _ (.head _) (of_decide_eq_true same)
    have notAfter : ∀ other ∈ after, ¬decide (other.key = field.key) = true := by
      intro other inAfter same
      refine (List.nodup_cons.mp afterDistinct).1 ?_
      exact of_decide_eq_true same ▸ List.mem_map_of_mem inAfter
    rw [List.filter_append, List.filter_cons_of_pos (by simp),
      List.filter_eq_nil_iff.mpr notBefore, List.filter_eq_nil_iff.mpr notAfter,
      List.nil_append]
  rw [lastValue, readLines_print stands, only, nothing]
  rfl

theorem lastValue_of_not_mem (stands : ∀ field ∈ fields, field.Stands) {key : List Char}
    (absent : key ∉ fields.map Field.key) (rest : List Char) :
    lastValue (print fields ++ rest) key = lastValue rest key := by
  have none_ : fields.filter (·.key = key) = [] := by
    refine List.filter_eq_nil_iff.mpr fun other among same => absent ?_
    exact of_decide_eq_true same ▸ List.mem_map_of_mem among
  rw [lastValue, readLines_print stands, none_]
  rfl

/-- A whole report is read back. -/
theorem lastValue_print (stands : ∀ field ∈ fields, field.Stands)
    (distinct : (fields.map Field.key).Nodup) (among : field ∈ fields) :
    lastValue (print fields) field.key = strip field.value := by
  have whole : lastValue (print fields ++ []) field.key = strip field.value :=
    lastValue_of_mem stands distinct among rfl
  rwa [List.append_nil] at whole

/-! ## Reports that are cut short -/

/-- What is left of a report: fields, and the beginning of the next. -/
theorem exists_cut {text : List Char} (part : text <+: print fields) :
    ∃ whole rest cut, fields = whole ++ rest ∧ text = print whole ++ cut ∧
      (rest = [] ∧ cut = [] ∨ ∃ next later, rest = next :: later ∧ cut <+: next.text) := by
  induction fields generalizing text with
  | nil => exact ⟨[], [], [], rfl, List.prefix_nil.mp part, .inl ⟨rfl, rfl⟩⟩
  | cons field fields ih =>
      rw [print, List.flatMap_cons, ← print] at part
      rcases prefix_append_cases part with inFirst | ⟨text, rfl, later⟩
      · rcases prefix_append_cases inFirst with inText | ⟨feed, rfl, isFeed⟩
        · exact ⟨[], _, text, rfl, rfl, .inr ⟨field, fields, rfl, inText⟩⟩
        · cases feed with
          | nil =>
              refine ⟨[], _, field.text, rfl, List.append_nil _, .inr ⟨field, fields, rfl, ?_⟩⟩
              exact List.prefix_rfl
          | cons char feed =>
              obtain ⟨rfl, isNil⟩ := List.cons_prefix_cons.mp isFeed
              rw [List.prefix_nil.mp isNil]
              refine ⟨[field], fields, [], rfl, by simp [print], ?_⟩
              cases fields with
              | nil => exact .inl ⟨rfl, rfl⟩
              | cons next later => exact .inr ⟨next, later, rfl, List.nil_prefix⟩
      · obtain ⟨whole, rest, cut, rfl, rfl, ends⟩ := ih later
        exact ⟨field :: whole, rest, cut, rfl, by simp [print], ends⟩

theorem readLines_cut {next : Field} (stands : next.Stands) {cut : List Char}
    (part : cut <+: next.text) {key : List Char} (apart : next.key ≠ key) :
    readLines (fieldValue key) cut = [] := by
  have one : OneLine cut := fun char among => stands.oneLine char (part.subset among)
  rw [readLines_oneLine (fieldValue_nil key) one]
  rcases fieldValue_cut stands part key with nothing | ⟨same, -⟩
  · rw [nothing]
    rfl
  · exact absurd same apart

/-- A key that no field has is not read, however the report is cut. -/
theorem lastValue_of_absent (stands : ∀ other ∈ fields, other.Stands) {key : List Char}
    (absent : key ∉ fields.map Field.key) {text : List Char} (part : text <+: print fields) :
    lastValue text key = [] := by
  obtain ⟨whole, rest, cut, rfl, rfl, ends⟩ := exists_cut part
  obtain ⟨wholeStands, restStands⟩ := List.forall_mem_append.mp stands
  rw [List.map_append, List.mem_append, not_or] at absent
  rw [lastValue_of_not_mem wholeStands absent.1, lastValue]
  rcases ends with ⟨-, rfl⟩ | ⟨next, later, rfl, inNext⟩
  · rfl
  · have apart : next.key ≠ key := fun same => absent.2 (by rw [← same]; exact .head _)
    rw [readLines_cut (restStands next (.head _)) inNext apart]
    rfl

/-- A value that no whole line has is the beginning of the one that is cut. -/
theorem lastValue_of_cut (stands : ∀ other ∈ fields, other.Stands) {next : Field}
    (nextStands : next.Stands) {cut key : List Char} (part : cut <+: next.text)
    (absent : key ∉ fields.map Field.key) (isRead : lastValue (print fields ++ cut) key ≠ []) :
    next.key = key ∧ ∃ value, value <+: next.value ∧
      lastValue (print fields ++ cut) key = strip value := by
  have one : OneLine cut := fun char among => nextStands.oneLine char (part.subset among)
  rw [lastValue_of_not_mem stands absent, lastValue,
    readLines_oneLine (fieldValue_nil key) one] at isRead ⊢
  rcases fieldValue_cut nextStands part key with nothing | ⟨same, value, begins, found⟩
  · rw [nothing] at isRead
    exact absurd rfl isRead
  · rw [found]
    exact ⟨same, value, begins, rfl⟩

/-- A value that is read of a report cut short shows that all fields before it are there. -/
theorem lastValue_cut {before after : List Field}
    (stands : ∀ other ∈ before ++ field :: after, other.Stands)
    (distinct : ((before ++ field :: after).map Field.key).Nodup) {text : List Char}
    (part : text <+: print (before ++ field :: after)) (isRead : lastValue text field.key ≠ []) :
    (∀ other ∈ before, lastValue text other.key = strip other.value) ∧
      ∃ value, value <+: field.value ∧ lastValue text field.key = strip value := by
  obtain ⟨whole, rest, cut, split, rfl, ends⟩ := exists_cut part
  rw [split] at stands distinct
  have wholeStands : ∀ other ∈ whole, other.Stands :=
    fun other among => stands other (List.mem_append_left _ among)
  have wholeDistinct : (whole.map Field.key).Nodup := by
    rw [List.map_append] at distinct
    exact distinct.sublist (List.sublist_append_left _ _)
  -- the line that is cut has no key of a line before it
  have cutSilent : ∀ key, (∀ next later, rest = next :: later → next.key ≠ key) →
      readLines (fieldValue key) cut = [] := by
    intro key apart
    rcases ends with ⟨-, rfl⟩ | ⟨next, later, rfl, inNext⟩
    · rfl
    · exact readLines_cut (stands next (by simp)) inNext (apart next later rfl)
  have inWhole : ∀ other ∈ whole, lastValue (print whole ++ cut) other.key = strip other.value := by
    intro other among
    refine lastValue_of_mem wholeStands wholeDistinct among (cutSilent _ ?_)
    rintro next later rfl same
    rw [List.map_append, List.map_cons, List.nodup_append] at distinct
    exact distinct.2.2 _ (List.mem_map_of_mem among) _ (.head _) same.symm
  have apart {other : Field} (inRest : other ∈ rest) : other.key ∉ whole.map Field.key := by
    intro among
    rw [List.map_append, List.nodup_append] at distinct
    exact distinct.2.2 _ among _ (List.mem_map_of_mem inRest) rfl
  rcases List.append_eq_append_iff.mp split with
    ⟨missing, isWhole, isRest⟩ | ⟨more, isBefore, isRest⟩
  · refine ⟨fun other earlier => inWhole other (isWhole ▸ List.mem_append_left _ earlier), ?_⟩
    cases missing with
    | cons head missing =>
        have among : field ∈ whole := by
          rw [isWhole, (List.cons.inj isRest).1]
          simp
        exact ⟨field.value, List.prefix_rfl, inWhole field among⟩
    | nil =>
        rw [List.nil_append] at isRest
        subst isRest
        rcases ends with ⟨nothing, -⟩ | ⟨next, later, isNext, inNext⟩
        · cases nothing
        · cases isNext
          exact (lastValue_of_cut wholeStands (stands field (by simp)) inNext
            (apart (.head _)) isRead).2
  · -- the cut comes before the field, unless nothing is missing before it
    subst isRest
    have absent : field.key ∉ whole.map Field.key := apart (by simp)
    rcases ends with ⟨nothing, -⟩ | ⟨next, later, isNext, inNext⟩
    · simp at nothing
    · have nextStands : next.Stands := stands next (by rw [isNext]; simp)
      obtain ⟨same, value, begins, found⟩ :=
        lastValue_of_cut wholeStands nextStands inNext absent isRead
      cases more with
      | nil =>
          cases isNext
          rw [isBefore, List.append_nil]
          exact ⟨inWhole, value, begins, found⟩
      | cons head more =>
          cases isNext
          rw [List.map_append, List.nodup_append] at distinct
          have nextAbsent := (List.nodup_cons.mp distinct.2.1).1
          refine absurd (same ▸ List.mem_map_of_mem ?_) nextAbsent
          simp

end PresenceLogger.Library.Report
