import PresenceLogger.Library.Dict

/-!
# Lists and dictionaries with an identity

The heap of an interpreter whose lists and dictionaries may be changed in place and may
be shared, and the nested values they hold.  `copy.deepcopy` leaves the heap it starts
from as it is, and what it returns holds the same value in objects of its own.
-/

namespace PresenceLogger.Library

universe u

namespace Objects

variable {κ σ : Type}

/-- What a name, an item or an entry holds: an immutable value, or the identity of a list
or a dictionary. -/
inductive Slot (σ : Type) where
  | scalar (value : σ)
  | str (text : String)
  | object (id : Nat)

inductive Object (κ σ : Type) where
  | list (items : List (Slot σ))
  | dict (entries : Dict κ (Slot σ))

/-- The objects by their identities; a new one comes last. -/
abbrev Heap (κ σ : Type) := List (Object κ σ)

/-- A nested value, without identities. -/
inductive Value (κ σ : Type) where
  | scalar (value : σ)
  | str (text : String)
  | list (items : List (Value κ σ))
  | dict (entries : List (κ × Value κ σ))

namespace Slot

/-- `isinstance(value, str)` -/
def isStr : Slot σ → Bool
  | .str _ => true
  | _ => false

/-- It is no object below the bound. -/
def Above (bound : Nat) : Slot σ → Prop
  | .object id => bound ≤ id
  | _ => True

end Slot

namespace Value

def isStr : Value κ σ → Bool
  | .str _ => true
  | _ => false

/-- The values directly inside. -/
def parts : Value κ σ → List (Value κ σ)
  | .scalar _ | .str _ => []
  | .list items => items
  | .dict entries => entries.map Prod.snd

mutual

/-- How deep lists and dictionaries are nested. -/
def depth : Value κ σ → Nat
  | .scalar _ => 0
  | .str _ => 0
  | .list items => depthItems items + 1
  | .dict entries => depthEntries entries + 1

def depthItems : List (Value κ σ) → Nat
  | [] => 0
  | item :: items => max (depth item) (depthItems items)

def depthEntries : List (κ × Value κ σ) → Nat
  | [] => 0
  | (_, value) :: entries => max (depth value) (depthEntries entries)

end

theorem depth_le_items {item : Value κ σ} {items : List (Value κ σ)} (among : item ∈ items) :
    depth item ≤ depthItems items := by
  induction items with
  | nil => cases among
  | cons first items ih =>
      rw [depthItems]
      rcases List.mem_cons.mp among with rfl | later
      · exact le_max_left _ _
      · exact (ih later).trans (le_max_right _ _)

theorem depth_le_entries {entry : κ × Value κ σ} {entries : List (κ × Value κ σ)}
    (among : entry ∈ entries) : depth entry.2 ≤ depthEntries entries := by
  induction entries with
  | nil => cases among
  | cons first entries ih =>
      rw [depthEntries]
      rcases List.mem_cons.mp among with rfl | later
      · exact le_max_left _ _
      · exact (ih later).trans (le_max_right _ _)

theorem depth_part {value part : Value κ σ} (among : part ∈ value.parts) :
    depth part < depth value := by
  cases value with
  | scalar value => cases among
  | str text => cases among
  | list items => exact Nat.lt_succ_of_le (depth_le_items among)
  | dict entries =>
      obtain ⟨entry, member, rfl⟩ := List.mem_map.mp among
      exact Nat.lt_succ_of_le (depth_le_entries member)

/-- What holds of a value if it holds of its parts holds of all. -/
theorem induction {P : Value κ σ → Prop}
    (step : ∀ value, (∀ part ∈ value.parts, P part) → P value) (value : Value κ σ) : P value :=
  step value fun part _ => induction step part
termination_by value.depth
decreasing_by exact depth_part ‹_›

end Value

namespace Object

/-- The slots of an object in order. -/
def slots : Object κ σ → List (Slot σ)
  | .list items => items
  | .dict entries => entries.rows.map Prod.snd

/-- The kinds agree, and so do the keys. -/
def Like : Object κ σ → Value κ σ → Prop
  | .list items, .list values => items.length = values.length
  | .dict entries, .dict values => entries.rows.map Prod.fst = values.map Prod.fst
  | _, _ => False

theorem length_slots {object : Object κ σ} {value : Value κ σ} (like : object.Like value) :
    object.slots.length = value.parts.length := by
  cases object <;> cases value <;> try exact like.elim
  · exact like
  · simpa [slots, Value.parts] using congrArg List.length like

/-- An object and its parts determine the value. -/
theorem eq_of_parts {object : Object κ σ} {value other : Value κ σ} (like : object.Like value)
    (again : object.Like other) (parts : value.parts = other.parts) : value = other := by
  cases object <;> cases value <;> cases other <;>
    first | exact like.elim | exact again.elim | skip
  · exact congrArg Value.list parts
  case dict.dict.dict entries values others =>
    have keys : others.map Prod.fst = values.map Prod.fst := again.symm.trans like
    exact congrArg Value.dict
      ((List.zip_of_prod rfl parts).trans (List.zip_of_prod keys rfl).symm)

theorem depth_pos {object : Object κ σ} {value : Value κ σ} (like : object.Like value) :
    0 < value.depth := by
  cases object <;> cases value <;> first | exact like.elim | exact Nat.succ_pos _

variable [DecidableEq κ]

/-- An object of the same kind, with the same keys, that holds other slots. -/
def withSlots (slots : List (Slot σ)) : Object κ σ → Object κ σ
  | .list _ => .list slots
  | .dict entries => .dict (Dict.ofPairs ((entries.rows.map Prod.fst).zip slots))

theorem rows_withSlots {entries : Dict κ (Slot σ)} {slots : List (Slot σ)}
    (length : slots.length = entries.rows.length) :
    (Dict.ofPairs ((entries.rows.map Prod.fst).zip slots)).rows =
      (entries.rows.map Prod.fst).zip slots := by
  apply Dict.rows_ofPairs
  rw [List.map_fst_zip (by simp [length])]
  exact entries.nodup

theorem slots_withSlots {object : Object κ σ} {slots : List (Slot σ)}
    (length : slots.length = object.slots.length) : (object.withSlots slots).slots = slots := by
  cases object with
  | list items => rfl
  | dict entries =>
      have same : slots.length = entries.rows.length := by
        simpa only [Object.slots, List.length_map] using length
      rw [withSlots, Object.slots, rows_withSlots same, List.map_snd_zip (by simp [same])]

theorem like_withSlots {object : Object κ σ} {value : Value κ σ} {slots : List (Slot σ)}
    (like : object.Like value) (length : slots.length = object.slots.length) :
    (object.withSlots slots).Like value := by
  cases object <;> cases value <;> try exact like.elim
  · exact length.trans like
  case dict.dict entries values =>
    have same : slots.length = entries.rows.length := by
      simpa only [Object.slots, List.length_map] using length
    rw [withSlots, Like, rows_withSlots same, List.map_fst_zip (by simp [same])]
    exact like

end Object

theorem mem_zip_getElem {α β : Type} {left : List α} {right : List β} {i : Nat}
    (bound : i < left.length) (bound' : i < right.length) :
    (left[i], right[i]) ∈ left.zip right :=
  List.mem_iff_getElem.mpr ⟨i, by simp [bound, bound'], List.getElem_zip⟩

theorem getElem?_of_longer {α : Type} {left right : List α} {i : Nat} {item : α}
    (extends_ : left <+: right) (found : left[i]? = some item) : right[i]? = some item := by
  obtain ⟨bound, rfl⟩ := List.getElem?_eq_some_iff.mp found
  exact List.prefix_iff_getElem?.mp extends_ i bound

theorem eq_of_mem_zip {α β γ : Type} {f : α → γ} {g : β → γ} {left : List α} {right : List β}
    (same : left.map f = right.map g) {pair : α × β} (among : pair ∈ left.zip right) :
    f pair.1 = g pair.2 := by
  induction left generalizing right with
  | nil => cases among
  | cons first left ih =>
      cases right with
      | nil => cases among
      | cons other right =>
          rw [List.map_cons, List.map_cons, List.cons.injEq] at same
          rcases List.mem_cons.mp among with rfl | later
          · exact same.1
          · exact ih same.2 later

theorem map_eq_of_zip {α β γ : Type} {f : α → γ} {g : β → γ} {left : List α} {right : List β}
    (length : left.length = right.length)
    (same : ∀ pair ∈ left.zip right, f pair.1 = g pair.2) : left.map f = right.map g := by
  refine List.ext_getElem (by simp [length]) fun i bound bound' => ?_
  rw [List.length_map] at bound bound'
  rw [List.getElem_map, List.getElem_map]
  exact same _ (mem_zip_getElem bound bound')

/-- Each entry of a dictionary has one of the value to go with it. -/
theorem Object.exists_entry {entries : Dict κ (Slot σ)} {values : List (κ × Value κ σ)}
    (like : (Object.dict entries).Like (.dict values)) {row : κ × Slot σ}
    (among : row ∈ entries.rows) :
    ∃ entry ∈ values, entry.1 = row.1 ∧
      (row.2, entry.2) ∈ (Object.dict entries).slots.zip (Value.dict values).parts := by
  obtain ⟨i, bound, rfl⟩ := List.mem_iff_getElem.mp among
  have keys : entries.rows.map Prod.fst = values.map Prod.fst := like
  have length : entries.rows.length = values.length := by
    simpa using congrArg List.length keys
  have bound' : i < values.length := length ▸ bound
  refine ⟨values[i], List.getElem_mem _, ?_, ?_⟩
  · have same := List.getElem_of_eq keys (by rwa [List.length_map])
    rw [List.getElem_map, List.getElem_map] at same
    exact same.symm
  · rw [Object.slots, Value.parts, List.zip_map]
    exact List.mem_map.mpr ⟨_, mem_zip_getElem bound bound', rfl⟩

/-- The slot holds the value, in the objects of the heap. -/
inductive Holds (heap : Heap κ σ) : Slot σ → Value κ σ → Prop where
  | scalar (value : σ) : Holds heap (.scalar value) (.scalar value)
  | str (text : String) : Holds heap (.str text) (.str text)
  | object {id : Nat} {object : Object κ σ} {value : Value κ σ}
      (found : heap[id]? = some object) (like : object.Like value)
      (each : ∀ pair ∈ object.slots.zip value.parts, Holds heap pair.1 pair.2) :
      Holds heap (.object id) value

namespace Holds

variable {heap heap' : Heap κ σ} {slot : Slot σ} {value other : Value κ σ}

theorem mono (holds : Holds heap slot value) (extends_ : heap <+: heap') :
    Holds heap' slot value := by
  induction holds with
  | scalar value => exact .scalar value
  | str text => exact .str text
  | object found like _ ih =>
      exact .object (getElem?_of_longer extends_ found) like ih

/-- A slot holds one value. -/
theorem unique (holds : Holds heap slot value) (again : Holds heap slot other) :
    value = other := by
  induction holds generalizing other with
  | scalar value => cases again; rfl
  | str text => cases again; rfl
  | @object id object value found like each ih =>
      cases again with
      | @object _ object' _ found' like' each' =>
          cases Option.some.inj (found.symm.trans found')
          have length := Object.length_slots like
          have length' := Object.length_slots like'
          refine Object.eq_of_parts like like' (List.ext_getElem (length.symm.trans length') ?_)
          intro i bound bound'
          exact ih _ (mem_zip_getElem (length.symm ▸ bound) bound)
            (each' _ (mem_zip_getElem (length'.symm ▸ bound') bound'))

theorem parts_of_object {id : Nat} (holds : Holds heap (.object id) value) :
    ∃ object, heap[id]? = some object ∧ object.Like value ∧
      ∀ pair ∈ object.slots.zip value.parts, Holds heap pair.1 pair.2 := by
  cases holds with
  | object found like each => exact ⟨_, found, like, each⟩

theorem isStr_eq (holds : Holds heap slot value) : slot.isStr = value.isStr := by
  cases holds with
  | scalar _ => rfl
  | str _ => rfl
  | @object _ object _ _ like _ =>
      cases object <;> cases value <;> first | exact like.elim | rfl

end Holds

/-- A loop each of whose steps gets its item done, which no later step undoes. -/
theorem exists_foldlM {α β : Type} {step : β → α → Option β} {items : List α}
    {Later : β → β → Prop} {Done : α → β → Prop} (refl : ∀ state, Later state state)
    (trans : ∀ first second third, Later first second → Later second third → Later first third)
    (stays : ∀ item ∈ items, ∀ state state', Done item state → Later state state' →
      Done item state')
    {start : β} (does : ∀ item ∈ items, ∀ state, Later start state →
      ∃ state', step state item = some state' ∧ Later state state' ∧ Done item state') :
    ∃ final, items.foldlM step start = some final ∧ Later start final ∧
      ∀ item ∈ items, Done item final := by
  induction items generalizing start with
  | nil => exact ⟨start, rfl, refl start, by simp⟩
  | cons item items ih =>
      obtain ⟨next, runs, later, done⟩ := does item (.head _) start (refl start)
      obtain ⟨final, runs', later', done'⟩ := ih (fun other among => stays other (.tail _ among))
        fun other among state after => does other (.tail _ among) state
          (trans _ _ _ later after)
      refine ⟨final, ?_, trans _ _ _ later later', List.forall_mem_cons.mpr
        ⟨stays item (.head _) _ _ done later', done'⟩⟩
      rw [List.foldlM_cons, runs]
      exact runs'

/-! ## `copy.deepcopy` -/

/-- The heap and the copies that were made, by what they are copies of. -/
structure Copying (κ σ : Type) where
  heap : Heap κ σ
  memo : List (Nat × Nat)

variable [DecidableEq κ]

/-- A copy of an object is made and remembered. -/
def Copying.add (copying : Copying κ σ) (id : Nat) (object : Object κ σ) : Copying κ σ :=
  ⟨copying.heap ++ [object], (id, copying.heap.length) :: copying.memo⟩

/-- The slots one after another. -/
def copyAll (copy : Copying κ σ → Slot σ → Option (Copying κ σ × Slot σ)) :
    Copying κ σ → List (Slot σ) → Option (Copying κ σ × List (Slot σ))
  | copying, [] => some (copying, [])
  | copying, slot :: slots =>
      match copy copying slot with
      | none => none
      | some (copying, first) =>
          (copyAll copy copying slots).map fun (copying, rest) => (copying, first :: rest)

/-- `copy.deepcopy(slot, memo)`, with a limit on the recursion. A copy is put on the heap
once its parts are there. -/
def deepcopyFrom : Nat → Copying κ σ → Slot σ → Option (Copying κ σ × Slot σ)
  | _, copying, .scalar value => some (copying, .scalar value)
  | _, copying, .str text => some (copying, .str text)
  | limit, copying, .object id =>
      match copying.memo.lookup id, limit, copying.heap[id]? with
      | some copy, _, _ => some (copying, .object copy)
      | none, limit + 1, some object =>
          (copyAll (deepcopyFrom limit) copying object.slots).map fun (copying, slots) =>
            (copying.add id (object.withSlots slots), .object copying.heap.length)
      | none, _, _ => none

/-- `copy.deepcopy(slot)` -/
def deepcopy (limit : Nat) (heap : Heap κ σ) (slot : Slot σ) : Option (Heap κ σ × Slot σ) :=
  (deepcopyFrom limit ⟨heap, []⟩ slot).map fun (copying, copy) => (copying.heap, copy)

/-- What may be said of a copy under way, from the heap that it started in: all of that heap
is still there, the objects made since refer to each other only, and each copy holds what
it is a copy of. -/
structure Copied (start : Heap κ σ) (copying : Copying κ σ) : Prop where
  kept : start <+: copying.heap
  closed : ∀ object ∈ copying.heap.drop start.length, ∀ slot ∈ object.slots,
    slot.Above start.length
  above : ∀ entry ∈ copying.memo, start.length ≤ entry.2
  holds : ∀ entry ∈ copying.memo, ∀ value, Holds start (.object entry.1) value →
    Holds copying.heap (.object entry.2) value

/-- The slot is copied, if the recursion may go that deep. -/
def Copies (start : Heap κ σ) (limit : Nat) (slot : Slot σ) (value : Value κ σ) : Prop :=
  ∀ copying, Copied start copying → ∃ copying' copy,
    deepcopyFrom limit copying slot = some (copying', copy) ∧ Copied start copying' ∧
      copying.heap <+: copying'.heap ∧ copy.Above start.length ∧
      Holds copying'.heap copy value

variable {start : Heap κ σ}

omit [DecidableEq κ] in
theorem copied_add {copying : Copying κ σ} (copied : Copied start copying) {id : Nat}
    {object : Object κ σ} (above : ∀ slot ∈ object.slots, slot.Above start.length)
    (holds : ∀ value, Holds start (.object id) value →
      Holds (copying.heap ++ [object]) (.object copying.heap.length) value) :
    Copied start (copying.add id object) := by
  have long := copied.kept.length_le
  have longer : copying.heap <+: copying.heap ++ [object] := List.prefix_append _ _
  refine ⟨copied.kept.trans longer, fun other among => ?_, fun entry among => ?_,
    fun entry among => ?_⟩
  · rw [Copying.add, List.drop_append_of_le_length long] at among
    rcases List.mem_append.mp among with old | new
    · exact copied.closed other old
    · rw [List.mem_singleton.mp new]
      exact above
  · rcases List.mem_cons.mp among with rfl | old
    · exact long
    · exact copied.above entry old
  · rcases List.mem_cons.mp among with rfl | old
    · exact holds
    · exact fun value original => (copied.holds entry old value original).mono longer

/-- One slot after another is copied. -/
theorem exists_copyAll {limit : Nat} {slots : List (Slot σ)} {values : List (Value κ σ)}
    (length : slots.length = values.length)
    (each : ∀ pair ∈ slots.zip values, Copies start limit pair.1 pair.2)
    {copying : Copying κ σ} (copied : Copied start copying) :
    ∃ copying' copies, copyAll (deepcopyFrom limit) copying slots = some (copying', copies) ∧
      Copied start copying' ∧ copying.heap <+: copying'.heap ∧
      (∀ copy ∈ copies, copy.Above start.length) ∧ copies.length = slots.length ∧
      ∀ pair ∈ copies.zip values, Holds copying'.heap pair.1 pair.2 := by
  induction slots generalizing values copying with
  | nil =>
      exact ⟨copying, [], rfl, copied, List.prefix_rfl, by simp, rfl, by simp⟩
  | cons slot slots ih =>
      cases values with
      | nil => cases length
      | cons value values =>
          obtain ⟨middle, copy, runs, copied', extends_, above, holds⟩ :=
            each (slot, value) (.head _) copying copied
          obtain ⟨last, copies, runs', copied'', extends', above', length', holds'⟩ :=
            ih (Nat.succ.inj length) (fun pair among => each pair (.tail _ among)) copied'
          refine ⟨last, copy :: copies, by simp [copyAll, runs, runs'], copied'',
            extends_.trans extends', ?_, by simp [length'], ?_⟩
          · exact List.forall_mem_cons.mpr ⟨above, above'⟩
          · exact List.forall_mem_cons.mpr ⟨holds.mono extends', holds'⟩

/-- A slot that holds a value is copied if the limit is no less than the value's depth. -/
theorem copies_of_le {slot : Slot σ} {value : Value κ σ} (holds : Holds start slot value)
    {limit : Nat} (enough : value.depth ≤ limit) : Copies start limit slot value := by
  intro copying copied
  induction holds generalizing limit copying with
  | scalar value =>
      exact ⟨copying, .scalar value, by rw [deepcopyFrom.eq_def], copied, List.prefix_rfl,
        trivial, .scalar value⟩
  | str text =>
      exact ⟨copying, .str text, by rw [deepcopyFrom.eq_def], copied, List.prefix_rfl,
        trivial, .str text⟩
  | @object id object value found like each ih =>
      have original : Holds start (.object id) value := .object found like each
      cases known : copying.memo.lookup id with
      | some copy =>
          have among : (id, copy) ∈ copying.memo := by
            obtain ⟨before, after, split, -⟩ := List.lookup_eq_some_iff.mp known
            simp [split]
          exact ⟨copying, .object copy, by rw [deepcopyFrom.eq_def]; simp only [known], copied,
            List.prefix_rfl, copied.above _ among, copied.holds _ among value original⟩
      | none =>
          obtain ⟨limit, rfl⟩ := Nat.exists_eq_add_one_of_ne_zero
            (Nat.ne_of_gt (lt_of_lt_of_le (Object.depth_pos like) enough))
          have there : copying.heap[id]? = some object :=
            getElem?_of_longer copied.kept found
          have parts : ∀ pair ∈ object.slots.zip value.parts, Copies start limit pair.1 pair.2 := by
            intro pair among copying copied
            have smaller := Value.depth_part (List.of_mem_zip among).2
            exact ih pair among (by omega) copying copied
          obtain ⟨middle, copies, runs, copied', extends_, above, length, holds⟩ :=
            exists_copyAll (Object.length_slots like) parts copied
          have slots := Object.slots_withSlots length
          have holdsCopy : Holds (middle.heap ++ [object.withSlots copies])
              (.object middle.heap.length) value := by
            refine .object List.getElem?_concat_length (Object.like_withSlots like length) ?_
            rw [slots]
            exact fun pair among => (holds pair among).mono (List.prefix_append _ _)
          refine ⟨middle.add id (object.withSlots copies), .object middle.heap.length, ?_,
            copied_add copied' (slots.symm ▸ above) ?_, extends_.trans (List.prefix_append _ _),
            copied'.kept.length_le, holdsCopy⟩
          · simp only [deepcopyFrom.eq_def (limit + 1), known, there, runs, Option.map_some]
          · intro other holds'
            exact (original.unique holds') ▸ holdsCopy

/-- The heap is kept, and the copy holds the same value in new objects that refer to each
other only. -/
theorem exists_deepcopy {slot : Slot σ} {value : Value κ σ} (holds : Holds start slot value)
    {limit : Nat} (enough : value.depth ≤ limit) :
    ∃ heap copy, deepcopy limit start slot = some (heap, copy) ∧ start <+: heap ∧
      copy.Above start.length ∧ Holds heap copy value ∧
      ∀ object ∈ heap.drop start.length, ∀ slot ∈ object.slots, slot.Above start.length := by
  have initial : Copied start ⟨start, []⟩ := ⟨List.prefix_rfl, by simp, by simp, by simp⟩
  obtain ⟨copying, copy, runs, copied, -, above, holds'⟩ := copies_of_le holds enough _ initial
  exact ⟨copying.heap, copy, by rw [deepcopy, runs]; rfl, copied.kept, above, holds',
    copied.closed⟩

end Objects

end PresenceLogger.Library
