import PresenceLogger.Library.Objects

/-!
# Redacting a profile for the log

`redact_for_logging` copies a profile and then walks through the copy, putting `***` in
the place of every text under a secret key.  What is under such a key and is no text is
walked through like everything else.
-/

namespace PresenceLogger.Bridge.Redaction

open Library Library.Objects

variable {σ : Type} [DecidableEq σ]

/-- A key of a mapping. -/
inductive Key (σ : Type) where
  | str (text : String)
  | scalar (value : σ)
  deriving DecidableEq

/-- `REDACTED` -/
def redacted : String := "***"

/-- `SECRET_KEYS` -/
def secretKeys : List (Key σ) := [.str "password", .str "wallet_password"]

/-- `node[k] = slot` -/
def setItem (heap : Heap (Key σ) σ) (id : Nat) (k : Key σ) (slot : Slot σ) :
    Heap (Key σ) σ :=
  match heap[id]? with
  | some (.dict entries) => heap.set id (.dict (entries.set k slot))
  | _ => heap

/-- `_redact_in_place`, with a limit on the recursion. -/
def redactInPlace : Nat → Heap (Key σ) σ → Slot σ → Option (Heap (Key σ) σ)
  | limit, heap, .object id =>
      match limit, heap[id]? with
      | limit + 1, some (.dict entries) =>
          entries.rows.foldlM (fun heap entry =>
            if entry.1 ∈ secretKeys ∧ entry.2.isStr then
              some (setItem heap id entry.1 (.str redacted))
            else redactInPlace limit heap entry.2) heap
      | limit + 1, some (.list items) => items.foldlM (redactInPlace limit) heap
      | _, _ => none
  | _, heap, _ => some heap

/-- `redact_for_logging` -/
def redactForLogging (limit : Nat) (heap : Heap (Key σ) σ) (profile : Slot σ) :
    Option (Heap (Key σ) σ × Slot σ) := do
  let (heap, copy) ← deepcopy limit heap profile
  let heap ← redactInPlace limit heap copy
  return (heap, copy)

/-! ## What becomes of a value -/

mutual

/-- A value with `***` for each text under a secret key. -/
def redact : Value (Key σ) σ → Value (Key σ) σ
  | .scalar value => .scalar value
  | .str text => .str text
  | .list items => .list (redactItems items)
  | .dict entries => .dict (redactEntries entries)

def redactItems : List (Value (Key σ) σ) → List (Value (Key σ) σ)
  | [] => []
  | item :: items => redact item :: redactItems items

def redactEntries : List (Key σ × Value (Key σ) σ) → List (Key σ × Value (Key σ) σ)
  | [] => []
  | (k, value) :: entries =>
      (k, if k ∈ secretKeys ∧ value.isStr then .str redacted else redact value) ::
        redactEntries entries

end

/-- What is under a key. -/
def redactUnder (k : Key σ) (value : Value (Key σ) σ) : Value (Key σ) σ :=
  if k ∈ secretKeys ∧ value.isStr then .str redacted else redact value

theorem redactItems_eq (items : List (Value (Key σ) σ)) :
    redactItems items = items.map redact := by
  induction items with
  | nil => rfl
  | cons item items ih => rw [redactItems, ih, List.map_cons]

theorem redactEntries_eq (entries : List (Key σ × Value (Key σ) σ)) :
    redactEntries entries = entries.map fun entry => (entry.1, redactUnder entry.1 entry.2) := by
  induction entries with
  | nil => rfl
  | cons entry entries ih => rw [redactEntries, ih, List.map_cons, redactUnder]

@[simp] theorem isStr_redact (value : Value (Key σ) σ) : (redact value).isStr = value.isStr := by
  cases value <;> rfl

/-! ## The heap with some entries redacted -/

/-- An entry of a dictionary, redacted if it is among those. -/
def redactRow (done : List (Nat × Key σ)) (id : Nat) (row : Key σ × Slot σ) : Key σ × Slot σ :=
  (row.1, if (id, row.1) ∈ done ∧ row.1 ∈ secretKeys ∧ row.2.isStr then .str redacted else row.2)

def redactDict (done : List (Nat × Key σ)) (id : Nat) (entries : Dict (Key σ) (Slot σ)) :
    Dict (Key σ) (Slot σ) where
  rows := entries.rows.map (redactRow done id)
  nodup := by
    rw [List.map_map]
    exact entries.nodup

def redactObject (done : List (Nat × Key σ)) (id : Nat) : Object (Key σ) σ → Object (Key σ) σ
  | .list items => .list items
  | .dict entries => .dict (redactDict done id entries)

/-- The texts of these entries are redacted. -/
def redactAt (done : List (Nat × Key σ)) (heap : Heap (Key σ) σ) : Heap (Key σ) σ :=
  heap.mapIdx (redactObject done)

theorem getElem?_redactAt (done : List (Nat × Key σ)) (heap : Heap (Key σ) σ) (id : Nat) :
    (redactAt done heap)[id]? = heap[id]?.map (redactObject done id) :=
  List.getElem?_mapIdx

@[simp] theorem redactRow_nil (id : Nat) (row : Key σ × Slot σ) : redactRow [] id row = row := by
  simp [redactRow]

theorem redactObject_dict {done : List (Nat × Key σ)} {id : Nat}
    {entries : Dict (Key σ) (Slot σ)}
    (same : ∀ row ∈ entries.rows, redactRow done id row = row) :
    redactObject done id (.dict entries) = .dict entries :=
  congrArg Object.dict (Dict.ext_rows ((List.map_congr_left same).trans (List.map_id' _)))

@[simp] theorem redactObject_nil (id : Nat) (object : Object (Key σ) σ) :
    redactObject [] id object = object := by
  cases object with
  | list items => rfl
  | dict entries => exact redactObject_dict fun row _ => redactRow_nil id row

@[simp] theorem redactAt_nil (heap : Heap (Key σ) σ) : redactAt [] heap = heap :=
  List.ext_getElem? fun id => by
    rw [getElem?_redactAt]
    cases heap[id]? <;> simp

theorem redactRow_redactRow (more done : List (Nat × Key σ)) (id : Nat)
    (row : Key σ × Slot σ) :
    redactRow more id (redactRow done id row) = redactRow (more ++ done) id row := by
  obtain ⟨k, slot⟩ := row
  simp only [redactRow, List.mem_append]
  by_cases secret : k ∈ secretKeys
  · cases slot with
    | scalar value => simp [Slot.isStr]
    | object id => simp [Slot.isStr]
    | str text => by_cases here : (id, k) ∈ done <;> simp [here, secret, Slot.isStr]
  · simp [secret]

theorem redactAt_redactAt (more done : List (Nat × Key σ)) (heap : Heap (Key σ) σ) :
    redactAt more (redactAt done heap) = redactAt (more ++ done) heap := by
  refine List.ext_getElem? fun id => ?_
  simp only [getElem?_redactAt, Option.map_map]
  cases heap[id]? with
  | none => rfl
  | some object =>
      cases object with
      | list items => rfl
      | dict entries => simp [redactObject, redactDict, redactRow_redactRow, Function.comp_def]

/-- Setting an entry to `***` is redacting it. -/
theorem setItem_eq {heap : Heap (Key σ) σ} {id : Nat} {entries : Dict (Key σ) (Slot σ)}
    (found : heap[id]? = some (.dict entries)) {k : Key σ} {slot : Slot σ}
    (among : (k, slot) ∈ entries.rows) (secret : k ∈ secretKeys) (text : slot.isStr) :
    setItem heap id k (.str redacted) = redactAt [(id, k)] heap := by
  have present : k ∈ entries.rows.map Prod.fst := List.mem_map.mpr ⟨_, among, rfl⟩
  have same : entries.set k (.str redacted) = redactDict [(id, k)] id entries := by
    apply Dict.ext_rows
    rw [Dict.rows_set_of_mem present, redactDict]
    refine List.map_congr_left fun row there => ?_
    by_cases here : row.1 = k
    · cases List.inj_on_of_nodup_map entries.nodup there among here
      simp [redactRow, secret, text]
    · simp [redactRow, here]
  rw [setItem, found]
  refine List.ext_getElem? fun other => ?_
  rw [getElem?_redactAt, List.getElem?_set]
  split
  next here =>
    have bound := (List.getElem?_eq_some_iff.mp found).1
    rw [← here, found, if_pos bound, same]
    rfl
  next apart =>
    have untouched : ∀ object : Object (Key σ) σ, redactObject [(id, k)] other object = object := by
      intro object
      cases object with
      | list items => rfl
      | dict entries =>
          refine redactObject_dict fun row _ => ?_
          simp [redactRow, Ne.symm apart]
    cases heap[other]? <;> simp [untouched]

/-- The heap later on: entries of objects from the bound on are redacted. -/
def Later (bound : Nat) (heap heap' : Heap (Key σ) σ) : Prop :=
  ∃ done : List (Nat × Key σ), (∀ entry ∈ done, bound ≤ entry.1) ∧ heap' = redactAt done heap

theorem Later.refl (bound : Nat) (heap : Heap (Key σ) σ) : Later bound heap heap :=
  ⟨[], by simp, (redactAt_nil heap).symm⟩

theorem Later.trans {bound : Nat} {first second third : Heap (Key σ) σ}
    (earlier : Later bound first second) (later : Later bound second third) :
    Later bound first third := by
  obtain ⟨done, above, rfl⟩ := earlier
  obtain ⟨more, above', rfl⟩ := later
  exact ⟨more ++ done, List.forall_mem_append.mpr ⟨above', above⟩, redactAt_redactAt more done _⟩

/-- The objects below the bound are left alone. -/
theorem Later.below {bound : Nat} {heap heap' : Heap (Key σ) σ} (later : Later bound heap heap')
    {id : Nat} (low : id < bound) : heap'[id]? = heap[id]? := by
  obtain ⟨done, above, rfl⟩ := later
  have untouched : ∀ object : Object (Key σ) σ, redactObject done id object = object := by
    intro object
    cases object with
    | list items => rfl
    | dict entries =>
        refine redactObject_dict fun row _ => ?_
        have apart : (id, row.1) ∉ done := fun among => (above _ among).not_gt low
        simp [redactRow, apart]
  rw [getElem?_redactAt]
  cases heap[id]? <;> simp [untouched]

theorem exists_parts_redact {value part : Value (Key σ) σ} (among : part ∈ (redact value).parts) :
    ∃ other, part = redact other := by
  cases value with
  | scalar value => cases among
  | str text => cases among
  | list items =>
      rw [redact, Value.parts, redactItems_eq] at among
      obtain ⟨item, -, rfl⟩ := List.mem_map.mp among
      exact ⟨item, rfl⟩
  | dict entries =>
      rw [redact, Value.parts, redactEntries_eq, List.map_map] at among
      obtain ⟨entry, -, rfl⟩ := List.mem_map.mp among
      simp only [Function.comp_apply, redactUnder]
      split
      · exact ⟨.str redacted, rfl⟩
      · exact ⟨entry.2, rfl⟩

/-- A text that holds what is under a secret key in a redacted value is `***`. -/
theorem eq_redacted {heap : Heap (Key σ) σ} {k : Key σ} {text : String}
    {value : Value (Key σ) σ} (secret : k ∈ secretKeys)
    (holds : Holds heap (.str text) (redactUnder k value)) : text = redacted := by
  rw [redactUnder] at holds
  split at holds
  next isText => cases holds; rfl
  next noText =>
    generalize same : redact value = other at holds
    cases holds
    have isStr := isStr_redact value
    rw [same] at isStr
    exact absurd ⟨secret, isStr.symm⟩ noText

/-- What is redacted stays so. -/
theorem holds_redactAt {heap : Heap (Key σ) σ} {slot : Slot σ} {value : Value (Key σ) σ}
    (holds : Holds heap slot (redact value)) (done : List (Nat × Key σ)) :
    Holds (redactAt done heap) slot (redact value) := by
  generalize same : redact value = result at holds
  induction holds generalizing value with
  | scalar _ => exact .scalar _
  | str _ => exact .str _
  | @object id object result found like each ih =>
      have untouched : redactObject done id object = object := by
        cases object with
        | list items => rfl
        | dict entries =>
            refine redactObject_dict fun row among => ?_
            cases value <;> cases same <;> try exact like.elim
            case dict values =>
              obtain ⟨entry, isEntry, sameKey, pair⟩ := Object.exists_entry like among
              have holds := each _ pair
              rw [redactEntries_eq] at isEntry
              obtain ⟨⟨k, value⟩, -, rfl⟩ := List.mem_map.mp isEntry
              obtain ⟨k', slot⟩ := row
              cases sameKey
              by_cases text : k ∈ secretKeys ∧ slot.isStr
              · cases slot <;> try exact absurd text.2 Bool.false_ne_true
                simp [redactRow, eq_redacted text.1 holds]
              · simp [redactRow, text]
      refine .object (by rw [getElem?_redactAt, found, Option.map_some, untouched]) like ?_
      intro pair among
      obtain ⟨other, isPart⟩ := exists_parts_redact (same ▸ (List.of_mem_zip among).2)
      exact ih pair among isPart.symm

theorem Later.holds {bound : Nat} {heap heap' : Heap (Key σ) σ} (later : Later bound heap heap')
    {slot : Slot σ} {value : Value (Key σ) σ} (holds : Holds heap slot (redact value)) :
    Holds heap' slot (redact value) := by
  obtain ⟨done, -, rfl⟩ := later
  exact holds_redactAt holds done

/-! ## The walk -/

/-- A recursion to this limit redacts what the slot held at the start, whatever else has
been redacted by then. -/
def Redacts (bound limit : Nat) (start : Heap (Key σ) σ) (slot : Slot σ) : Prop :=
  ∀ heap, Later bound start heap → ∃ heap', redactInPlace limit heap slot = some heap' ∧
    Later bound heap heap' ∧ ∀ value, Holds start slot value → Holds heap' slot (redact value)

theorem redactInPlace_list {limit id : Nat} {heap : Heap (Key σ) σ} {items : List (Slot σ)}
    (found : heap[id]? = some (.list items)) :
    redactInPlace (limit + 1) heap (.object id) = items.foldlM (redactInPlace limit) heap := by
  rw [redactInPlace.eq_def]
  simp only [found]

/-- What the walk does about one entry of a dictionary. -/
def redactEntry (limit id : Nat) (heap : Heap (Key σ) σ) (entry : Key σ × Slot σ) :
    Option (Heap (Key σ) σ) :=
  if entry.1 ∈ secretKeys ∧ entry.2.isStr then some (setItem heap id entry.1 (.str redacted))
  else redactInPlace limit heap entry.2

theorem redactInPlace_dict {limit id : Nat} {heap : Heap (Key σ) σ}
    {entries : Dict (Key σ) (Slot σ)} (found : heap[id]? = some (.dict entries)) :
    redactInPlace (limit + 1) heap (.object id) =
      entries.rows.foldlM (redactEntry limit id) heap := by
  rw [redactInPlace.eq_def]
  simp only [found]
  rfl

theorem redacts_list {bound limit id : Nat} {start : Heap (Key σ) σ} {items : List (Slot σ)}
    (found : start[id]? = some (.list items))
    (each : ∀ item ∈ items, Redacts bound limit start item) :
    Redacts bound (limit + 1) start (.object id) := by
  have still : ∀ heap, Later bound start heap → heap[id]? = some (.list items) := by
    rintro heap ⟨done, -, rfl⟩
    rw [getElem?_redactAt, found]
    rfl
  intro heap after
  obtain ⟨final, runs, later, done⟩ := exists_foldlM (Later.refl bound)
    (fun _ _ _ => Later.trans)
    (fun item _ _ _ done later value holds => later.holds (done value holds))
    (fun item among heap' later => each item among heap' (after.trans later))
  refine ⟨final, (redactInPlace_list (still heap after)).trans runs, later, fun value holds => ?_⟩
  obtain ⟨object, found', like, parts⟩ := holds.parts_of_object
  cases Option.some.inj (found.symm.trans found')
  cases value <;> try exact like.elim
  case list values =>
    rw [redact, redactItems_eq]
    refine .object (still final (after.trans later)) (like.trans (List.length_map _).symm) ?_
    intro pair among
    rw [Object.slots, Value.parts, List.zip_map_right] at among
    obtain ⟨⟨item, value⟩, inside, rfl⟩ := List.mem_map.mp among
    have holds := parts (item, value) inside
    exact done item (List.of_mem_zip inside).1 value holds

/-- An entry is done once it is redacted, or what is under it is. -/
def RowDone (start : Heap (Key σ) σ) (id : Nat) (row : Key σ × Slot σ)
    (heap : Heap (Key σ) σ) : Prop :=
  if row.1 ∈ secretKeys ∧ row.2.isStr then
    ∃ done, (id, row.1) ∈ done ∧ heap = redactAt done start
  else ∀ value, Holds start row.2 value → Holds heap row.2 (redact value)

theorem rowDone_later {bound id : Nat} {start heap heap' : Heap (Key σ) σ}
    {row : Key σ × Slot σ} (done : RowDone start id row heap) (later : Later bound heap heap') :
    RowDone start id row heap' := by
  rw [RowDone] at *
  split
  next text =>
    rw [if_pos text] at done
    obtain ⟨done, among, rfl⟩ := done
    obtain ⟨more, -, rfl⟩ := later
    exact ⟨more ++ done, List.mem_append_right _ among, redactAt_redactAt more done start⟩
  next other =>
    rw [if_neg other] at done
    exact fun value holds => later.holds (done value holds)

/-- Where every entry is done, so is the dictionary. -/
theorem holds_of_rowDone {id : Nat} {start : Heap (Key σ) σ} {entries : Dict (Key σ) (Slot σ)}
    (found : start[id]? = some (.dict entries)) {done : List (Nat × Key σ)}
    (all : ∀ row ∈ entries.rows, RowDone start id row (redactAt done start))
    {value : Value (Key σ) σ} (holds : Holds start (.object id) value) :
    Holds (redactAt done start) (.object id) (redact value) := by
  obtain ⟨object, found', like, parts⟩ := holds.parts_of_object
  cases Option.some.inj (found.symm.trans found')
  cases value <;> try exact like.elim
  case dict values =>
    have keys : entries.rows.map Prod.fst = values.map Prod.fst := like
    have here : ∀ done, (redactAt done start)[id]? = some (.dict (redactDict done id entries)) := by
      intro done
      rw [getElem?_redactAt, found]
      rfl
    rw [redact, redactEntries_eq]
    refine .object (here done) ?_ ?_
    · simpa [Object.Like, redactDict, redactRow, Function.comp_def] using keys
    intro pair among
    rw [Object.slots, Value.parts, redactDict, List.map_map, List.map_map, List.zip_map] at among
    obtain ⟨⟨row, entry⟩, inside, rfl⟩ := List.mem_map.mp among
    have sameKey : row.1 = entry.1 := eq_of_mem_zip keys inside
    have isRow := (List.of_mem_zip inside).1
    have part : Holds start row.2 entry.2 := by
      refine parts (row.2, entry.2) ?_
      rw [Object.slots, Value.parts, List.zip_map]
      exact List.mem_map.mpr ⟨_, inside, rfl⟩
    have rowDone := all row isRow
    simp only [Prod.map_apply, Function.comp_apply, redactUnder, ← sameKey, ← part.isStr_eq]
    rw [RowDone] at rowDone
    split
    next text =>
      rw [if_pos text] at rowDone
      obtain ⟨more, member, same⟩ := rowDone
      have rows : redactDict done id entries = redactDict more id entries := by
        have both := (here done).symm.trans (same ▸ here more)
        simpa using both
      have sameRow := List.map_inj_left.mp (congrArg Table.rows rows) row isRow
      rw [sameRow, redactRow, if_pos ⟨member, text⟩]
      exact .str redacted
    next other =>
      rw [if_neg other] at rowDone
      rw [redactRow, if_neg fun both => other both.2]
      exact rowDone entry.2 part

theorem redacts_dict {bound limit id : Nat} (high : bound ≤ id) {start : Heap (Key σ) σ}
    {entries : Dict (Key σ) (Slot σ)} (found : start[id]? = some (.dict entries))
    (each : ∀ row ∈ entries.rows, Redacts bound limit start row.2) :
    Redacts bound (limit + 1) start (.object id) := by
  rintro heap ⟨past, above, rfl⟩
  have here : ∀ done, (redactAt done start)[id]? = some (.dict (redactDict done id entries)) := by
    intro done
    rw [getElem?_redactAt, found]
    rfl
  have does : ∀ row ∈ entries.rows, ∀ state, Later bound (redactAt past start) state →
      ∃ state', redactEntry limit id state (redactRow past id row) = some state' ∧
        Later bound state state' ∧ RowDone start id row state' := by
    intro row among state after
    have after : Later bound start state := Later.trans ⟨past, above, rfl⟩ after
    by_cases text : row.1 ∈ secretKeys ∧ row.2.isStr
    · obtain ⟨done, -, rfl⟩ := after
      have still : ∀ done, (redactRow done id row).2.isStr := by
        intro done
        rw [redactRow]
        split
        · rfl
        · exact text.2
      have set := setItem_eq (here done) (List.mem_map.mpr ⟨row, among, rfl⟩) text.1 (still done)
      rw [redactEntry, if_pos ⟨text.1, still past⟩]
      refine ⟨_, rfl, ⟨[(id, row.1)], by simpa using high, set⟩, ?_⟩
      rw [RowDone, if_pos text]
      exact ⟨[(id, row.1)] ++ done, by simp, set.trans (redactAt_redactAt _ _ _)⟩
    · have same : redactRow past id row = row := by
        rw [redactRow, if_neg fun both => text both.2]
      obtain ⟨state', runs, later, holds⟩ := each row among state after
      rw [same, redactEntry, if_neg text]
      refine ⟨state', runs, later, ?_⟩
      rw [RowDone, if_neg text]
      exact holds
  obtain ⟨final, runs, later, done⟩ := @exists_foldlM _ _
    (fun state row => redactEntry limit id state (redactRow past id row)) entries.rows
    (Later bound) (RowDone start id) (Later.refl bound) (fun _ _ _ => Later.trans)
    (fun row _ _ _ done later => rowDone_later done later) _ does
  refine ⟨final, ?_, later, fun value holds => ?_⟩
  · rw [redactInPlace_dict (here past), redactDict, List.foldlM_map]
    exact runs
  · obtain ⟨more, -, rfl⟩ := later
    rw [redactAt_redactAt] at done ⊢
    exact holds_of_rowDone found done holds

theorem redacts_of_le {bound : Nat} {start : Heap (Key σ) σ}
    (closed : ∀ object ∈ start.drop bound, ∀ slot ∈ object.slots, slot.Above bound)
    {slot : Slot σ} {value : Value (Key σ) σ} (holds : Holds start slot value)
    (above : slot.Above bound) {limit : Nat} (enough : value.depth ≤ limit) :
    Redacts bound limit start slot := by
  induction holds generalizing limit with
  | scalar value =>
      refine fun heap _ => ⟨heap, by rw [redactInPlace.eq_def], Later.refl bound heap, ?_⟩
      intro value holds
      cases holds
      exact .scalar _
  | str text =>
      refine fun heap _ => ⟨heap, by rw [redactInPlace.eq_def], Later.refl bound heap, ?_⟩
      intro value holds
      cases holds
      exact .str _
  | @object id object value found like each ih =>
      have high : bound ≤ id := above
      obtain ⟨limit, rfl⟩ := Nat.exists_eq_add_one_of_ne_zero
        (Nat.ne_of_gt (lt_of_lt_of_le (Object.depth_pos like) enough))
      have parts : ∀ slot ∈ object.slots, Redacts bound limit start slot := by
        intro slot among
        obtain ⟨i, low, rfl⟩ := List.mem_iff_getElem.mp among
        have belongs : object ∈ start.drop bound := by
          refine List.mem_iff_getElem?.mpr ⟨id - bound, ?_⟩
          rw [List.getElem?_drop, Nat.add_sub_cancel' high, found]
        have pair := mem_zip_getElem low (Object.length_slots like ▸ low)
        have smaller := Value.depth_part (List.of_mem_zip pair).2
        exact ih _ pair (closed object belongs _ among)
          (Nat.le_of_lt_succ (lt_of_lt_of_le smaller enough))
      cases object with
      | list items => exact redacts_list found parts
      | dict entries =>
          exact redacts_dict high found fun row among =>
            parts row.2 (List.mem_map.mpr ⟨row, among, rfl⟩)

/-- The result holds the redacted value; what was there is as it was. -/
theorem exists_redactForLogging {heap : Heap (Key σ) σ} {slot : Slot σ}
    {value : Value (Key σ) σ} (holds : Holds heap slot value) {limit : Nat}
    (enough : value.depth ≤ limit) :
    ∃ after result, redactForLogging limit heap slot = some (after, result) ∧ heap <+: after ∧
      Holds after result (redact value) := by
  obtain ⟨middle, copy, copies, kept, above, holdsCopy, closed⟩ := exists_deepcopy holds enough
  obtain ⟨after, walks, later, redacts⟩ :=
    redacts_of_le closed holdsCopy above enough middle (Later.refl _ middle)
  refine ⟨after, copy, by simp [redactForLogging, copies, walks], ?_, redacts value holdsCopy⟩
  refine List.prefix_iff_getElem?.mpr fun id low => ?_
  rw [later.below low]
  exact List.prefix_iff_getElem?.mp kept id low

/-! ## What the result tells -/

/-- The values are the same, but for what `differ` lets differ under secret keys. -/
inductive SameBut (differ : Value (Key σ) σ → Value (Key σ) σ → Prop) :
    Value (Key σ) σ → Value (Key σ) σ → Prop where
  | scalar (value : σ) : SameBut differ (.scalar value) (.scalar value)
  | str (text : String) : SameBut differ (.str text) (.str text)
  | list {items others : List (Value (Key σ) σ)} (length : items.length = others.length)
      (each : ∀ pair ∈ items.zip others, SameBut differ pair.1 pair.2) :
      SameBut differ (.list items) (.list others)
  | dict {entries others : List (Key σ × Value (Key σ) σ)}
      (keys : entries.map Prod.fst = others.map Prod.fst)
      (each : ∀ pair ∈ entries.zip others,
        ¬(pair.1.1 ∈ secretKeys ∧ differ pair.1.2 pair.2.2) →
          SameBut differ pair.1.2 pair.2.2) :
      SameBut differ (.dict entries) (.dict others)

/-- They differ in what is under secret keys only. -/
def SameButSecrets : Value (Key σ) σ → Value (Key σ) σ → Prop :=
  SameBut fun _ _ => True

/-- They differ in texts under secret keys only. -/
def SameButSecretTexts : Value (Key σ) σ → Value (Key σ) σ → Prop :=
  SameBut fun value other => value.isStr ∧ other.isStr

theorem redactUnder_eq_of_texts {k : Key σ} {value other : Value (Key σ) σ}
    (texts : k ∈ secretKeys ∧ value.isStr ∧ other.isStr) :
    redactUnder k value = redactUnder k other := by
  rw [redactUnder, redactUnder, if_pos ⟨texts.1, texts.2.1⟩, if_pos ⟨texts.1, texts.2.2⟩]

/-- Unless both are texts under a secret key, what is under a key tells as much as the value
does. -/
theorem redactUnder_eq_iff {k : Key σ} {value other : Value (Key σ) σ}
    (open_ : ¬(k ∈ secretKeys ∧ value.isStr ∧ other.isStr)) :
    redactUnder k value = redactUnder k other ↔ redact value = redact other := by
  by_cases secret : k ∈ secretKeys
  · have apart : ¬(value.isStr ∧ other.isStr) := fun texts => open_ ⟨secret, texts⟩
    have text : (Value.str redacted : Value (Key σ) σ).isStr = true := rfl
    simp only [redactUnder, secret, true_and]
    split <;> split
    next left right => exact absurd ⟨left, right⟩ apart
    next left right =>
      refine ⟨fun same => ?_, fun same => ?_⟩
      · rw [same, isStr_redact] at text
        exact absurd text right
      · rw [← isStr_redact, same, isStr_redact] at left
        exact absurd left right
    next left right =>
      refine ⟨fun same => ?_, fun same => ?_⟩
      · rw [← same, isStr_redact] at text
        exact absurd text left
      · rw [← isStr_redact, ← same, isStr_redact] at right
        exact absurd right left
    · rfl
  · simp [redactUnder, secret]

theorem sameButSecretTexts_of_redact {value other : Value (Key σ) σ}
    (same : redact value = redact other) : SameButSecretTexts value other := by
  induction value using Value.induction generalizing other with
  | step value ih =>
      cases value <;> cases other <;> simp only [redact, reduceCtorEq] at same
      case scalar.scalar => exact Value.scalar.inj same ▸ .scalar _
      case str.str => exact Value.str.inj same ▸ .str _
      case list.list items others =>
        rw [Value.list.injEq, redactItems_eq, redactItems_eq] at same
        refine .list (by simpa using congrArg List.length same) fun pair among => ?_
        exact ih _ (List.of_mem_zip among).1 (eq_of_mem_zip same among)
      case dict.dict entries others =>
        rw [Value.dict.injEq, redactEntries_eq, redactEntries_eq] at same
        refine .dict ?_ fun pair among open_ => ?_
        · simpa [Function.comp_def] using congrArg (List.map Prod.fst) same
        · have both := eq_of_mem_zip same among
          rw [Prod.mk.injEq] at both
          refine ih _ (List.mem_map.mpr ⟨_, (List.of_mem_zip among).1, rfl⟩) ?_
          rw [← both.1] at both
          exact (redactUnder_eq_iff open_).mp both.2

theorem redact_of_sameButSecretTexts {value other : Value (Key σ) σ}
    (same : SameButSecretTexts value other) : redact value = redact other := by
  induction same with
  | scalar value => rfl
  | str text => rfl
  | list length _ ih =>
      rw [redact, redact, redactItems_eq, redactItems_eq, map_eq_of_zip length ih]
  | @dict entries others keys _ ih =>
      rw [redact, redact, redactEntries_eq, redactEntries_eq]
      have length : entries.length = others.length := by simpa using congrArg List.length keys
      refine congrArg Value.dict (map_eq_of_zip length fun pair among => ?_)
      rw [Prod.mk.injEq, ← eq_of_mem_zip keys among]
      refine ⟨rfl, ?_⟩
      by_cases texts : pair.1.1 ∈ secretKeys ∧ pair.1.2.isStr ∧ pair.2.2.isStr
      · exact redactUnder_eq_of_texts texts
      · exact (redactUnder_eq_iff texts).mpr (ih pair among texts)

theorem redact_eq_iff {value other : Value (Key σ) σ} :
    redact value = redact other ↔ SameButSecretTexts value other :=
  ⟨sameButSecretTexts_of_redact, redact_of_sameButSecretTexts⟩

/-- A profile as it is in memory. -/
structure Profile (σ : Type) where
  heap : Heap (Key σ) σ
  slot : Slot σ
  value : Value (Key σ) σ
  holds : Holds heap slot value

/-- From some depth of the recursion on, both profiles are redacted to the same value, and
all that was in memory is as it was. -/
def RedactsAlike (profile other : Profile σ) : Prop :=
  ∃ depth, ∀ limit ≥ depth, ∃ after result after' result' value,
    redactForLogging limit profile.heap profile.slot = some (after, result) ∧
      redactForLogging limit other.heap other.slot = some (after', result') ∧
      Holds after result value ∧ Holds after' result' value ∧
      profile.heap <+: after ∧ other.heap <+: after'

theorem redactsAlike_iff_redact {profile other : Profile σ} :
    RedactsAlike profile other ↔ redact profile.value = redact other.value := by
  constructor
  · rintro ⟨depth, alike⟩
    have limits : ∃ limit, depth ≤ limit ∧ profile.value.depth ≤ limit ∧
        other.value.depth ≤ limit :=
      ⟨depth + profile.value.depth + other.value.depth, by omega, by omega, by omega⟩
    obtain ⟨limit, deep, enough, enough'⟩ := limits
    obtain ⟨after, result, after', result', value, runs, runs', holds, holds', -, -⟩ :=
      alike limit deep
    obtain ⟨_, _, again, -, redacts⟩ := exists_redactForLogging profile.holds enough
    obtain ⟨_, _, again', -, redacts'⟩ := exists_redactForLogging other.holds enough'
    cases runs.symm.trans again
    cases runs'.symm.trans again'
    exact (redacts.unique holds).trans (holds'.unique redacts')
  · intro same
    refine ⟨profile.value.depth + other.value.depth, fun limit deep => ?_⟩
    obtain ⟨after, result, runs, kept, redacts⟩ :=
      @exists_redactForLogging σ _ _ _ _ profile.holds limit (by omega)
    obtain ⟨after', result', runs', kept', redacts'⟩ :=
      @exists_redactForLogging σ _ _ _ _ other.holds limit (by omega)
    exact ⟨after, result, after', result', _, runs, runs', redacts, same ▸ redacts', kept, kept'⟩

/-- Secrets do not tell the results apart. -/
def HidesSecrets (profile other : Profile σ) : Prop :=
  SameButSecrets profile.value other.value → RedactsAlike profile other

/-- Secrets are hidden exactly if those that differ are texts on both sides. -/
theorem hidesSecrets_iff {profile other : Profile σ} :
    HidesSecrets profile other ↔
      (SameButSecrets profile.value other.value →
        SameButSecretTexts profile.value other.value) := by
  rw [HidesSecrets, redactsAlike_iff_redact, redact_eq_iff]

/-- A profile whose Oracle password is a number. -/
def numericPassword (number : Int) : Profile Int where
  heap := [.dict (Dict.ofPairs [(.str "password", .scalar number)]),
    .dict (Dict.ofPairs [(.str "oracle", .object 0)])]
  slot := .object 1
  value := .dict [(.str "oracle", .dict [(.str "password", .scalar number)])]
  holds := by
    refine .object rfl rfl (List.forall_mem_singleton.mpr (.object rfl rfl ?_))
    exact List.forall_mem_singleton.mpr (.scalar number)

/-- A number under a secret key is not hidden. -/
theorem not_hidesSecrets_numericPassword :
    ¬∀ profile other : Profile Int, HidesSecrets profile other := by
  intro hides
  have alike : SameButSecrets (numericPassword 1234).value (numericPassword 5678).value := by
    refine .dict rfl (List.forall_mem_singleton.mpr fun _ => .dict rfl ?_)
    exact List.forall_mem_singleton.mpr fun open_ => absurd ⟨by decide, trivial⟩ open_
  have same := redactsAlike_iff_redact.mp (hides _ _ alike)
  simp [numericPassword, redact, redactEntries, Value.isStr] at same

end PresenceLogger.Bridge.Redaction
