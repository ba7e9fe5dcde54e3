import PresenceLogger.Library.Table

/-!
# Python dictionaries

A `dict` keeps the order in which its keys came; a value set for a key that is
there takes the place of the old one.
-/

namespace PresenceLogger.Library

universe u v

/-- Keys with their values, in insertion order. -/
abbrev Dict (κ : Type u) (ν : Type v) := Table (κ × ν) Prod.fst

namespace Dict

variable {κ : Type u} {ν : Type v} [DecidableEq κ]

/-- `dict.get(key)` -/
def find (dict : Dict κ ν) (k : κ) : Option ν := (dict.get k).map Prod.snd

/-- `dict[key] = value` -/
def set (dict : Dict κ ν) (k : κ) (value : ν) : Dict κ ν :=
  dict.upsert (k, value) (fun row => (row.1, value)) fun _ => rfl

/-- `{**dict, **other}` -/
def merge (dict other : Dict κ ν) : Dict κ ν :=
  other.rows.foldl (fun sofar row => set sofar row.1 row.2) dict

/-- `{k: v for k, v in pairs}` -/
def ofPairs (pairs : List (κ × ν)) : Dict κ ν :=
  pairs.foldl (fun sofar pair => set sofar pair.1 pair.2) Table.empty

/-- `{key(item): item for item in items}` -/
def index (key : ν → κ) (items : List ν) : Dict κ ν :=
  ofPairs (items.map fun item => (key item, item))

/-! ## What a lookup finds -/

@[simp] theorem find_empty (k : κ) : find (Table.empty : Dict κ ν) k = none := rfl

theorem find_eq_some_iff {dict : Dict κ ν} {k : κ} {value : ν} :
    find dict k = some value ↔ (k, value) ∈ dict.rows := by
  rw [find, Option.map_eq_some_iff]
  constructor
  · rintro ⟨⟨k', value'⟩, found, rfl⟩
    obtain ⟨member, rfl⟩ := Table.get_eq_some_iff.mp found
    exact member
  · intro member
    exact ⟨_, Table.get_of_mem member, rfl⟩

@[simp] theorem find_set (dict : Dict κ ν) (k query : κ) (value : ν) :
    find (set dict k value) query = if k = query then some value else find dict query := by
  rw [find, set, Table.get_upsert]
  split
  · cases dict.get query <;> simp
  · rfl

theorem find_delete (dict : Dict κ ν) (k query : κ) :
    find (dict.delete k) query = if query = k then none else find dict query := by
  rw [find, Table.get_delete]
  split <;> rfl

/-- The last of several equal keys counts. -/
theorem find_foldl_set (pairs : List (κ × ν)) (dict : Dict κ ν) (k : κ) :
    find (pairs.foldl (fun sofar pair => set sofar pair.1 pair.2) dict) k =
      (pairs.reverse.lookup k).or (find dict k) := by
  induction pairs generalizing dict with
  | nil => simp
  | cons pair pairs ih =>
      obtain ⟨first, value⟩ := pair
      have here : [(first, value)].lookup k = if first = k then some value else none := by
        by_cases same : first = k
        · simp [same]
        · have apart : (k == first) = false := beq_eq_false_iff_ne.mpr (Ne.symm same)
          simp [List.lookup_cons, apart, same]
      rw [List.foldl_cons, ih, find_set, List.reverse_cons, List.lookup_append, here]
      cases pairs.reverse.lookup k <;> by_cases same : first = k <;> simp [same]

theorem find_ofPairs (pairs : List (κ × ν)) (k : κ) :
    find (ofPairs pairs) k = pairs.reverse.lookup k := by
  rw [ofPairs, find_foldl_set, find_empty, Option.or_none]

/-- A key that is not there is put at the end. -/
theorem rows_set {dict : Dict κ ν} {k : κ} (fresh : k ∉ dict.rows.map Prod.fst) (value : ν) :
    (set dict k value).rows = dict.rows ++ [(k, value)] := by
  rw [set, Table.upsert, if_neg fresh, Table.insertOrIgnore, dif_neg fresh]

/-- A key that is there keeps its place. -/
theorem rows_set_of_mem {dict : Dict κ ν} {k : κ} (present : k ∈ dict.rows.map Prod.fst)
    (value : ν) :
    (set dict k value).rows = dict.rows.map fun row => if row.1 = k then (k, value) else row := by
  rw [set, Table.upsert, if_pos present, Table.update, Table.updateWhere]
  refine List.map_congr_left fun row _ => ?_
  by_cases here : row.1 = k <;> simp [here]

/-- The keys keep their order. -/
theorem map_fst_set (dict : Dict κ ν) (k : κ) (value : ν) :
    (set dict k value).rows.map Prod.fst =
      if k ∈ dict.rows.map Prod.fst then dict.rows.map Prod.fst
      else dict.rows.map Prod.fst ++ [k] := by
  split
  next present =>
    rw [set, Table.upsert, if_pos present, Table.update, Table.updateWhere, List.map_map]
    refine List.map_congr_left fun row _ => ?_
    simp only [Function.comp_apply]
    split <;> rfl
  next fresh => rw [rows_set fresh, List.map_append, List.map_singleton]

theorem rows_foldl_set {pairs : List (κ × ν)} {dict : Dict κ ν}
    (fresh : ((dict.rows ++ pairs).map Prod.fst).Nodup) :
    (pairs.foldl (fun sofar pair => set sofar pair.1 pair.2) dict).rows = dict.rows ++ pairs := by
  induction pairs generalizing dict with
  | nil => simp
  | cons pair pairs ih =>
      have new : pair.1 ∉ dict.rows.map Prod.fst := by
        rw [List.map_append, List.map_cons] at fresh
        exact fun again => (List.nodup_append.mp fresh).2.2 _ again _ (.head _) rfl
      have split : dict.rows ++ pair :: pairs = (set dict pair.1 pair.2).rows ++ pairs := by
        simp [rows_set new]
      rw [List.foldl_cons, split]
      rw [split] at fresh
      exact ih fresh

/-- Pairs with different keys are the items. -/
theorem rows_ofPairs {pairs : List (κ × ν)} (fresh : (pairs.map Prod.fst).Nodup) :
    (ofPairs pairs).rows = pairs :=
  rows_foldl_set fresh

omit [DecidableEq κ] in
theorem ext_rows {left right : Dict κ ν} (same : left.rows = right.rows) : left = right := by
  cases left
  cases right
  cases same
  rfl

theorem ofPairs_rows (dict : Dict κ ν) : ofPairs dict.rows = dict :=
  ext_rows (rows_ofPairs dict.nodup)

theorem mem_of_find_ofPairs {pairs : List (κ × ν)} {k : κ} {value : ν}
    (found : find (ofPairs pairs) k = some value) : (k, value) ∈ pairs := by
  rw [find_ofPairs, List.lookup_eq_some_iff] at found
  obtain ⟨before, after, split, -⟩ := found
  rw [← List.mem_reverse, split]
  simp

theorem exists_find_ofPairs {pairs : List (κ × ν)} {k : κ} {value : ν}
    (member : (k, value) ∈ pairs) : ∃ other, find (ofPairs pairs) k = some other := by
  rw [← Option.isSome_iff_exists, find_ofPairs, List.lookup_isSome_iff]
  exact ⟨(k, value), by simpa using member, by simp⟩

@[simp] theorem merge_empty (dict : Dict κ ν) : merge Table.empty dict = dict := ofPairs_rows dict

theorem find_merge (dict other : Dict κ ν) (k : κ) :
    find (merge dict other) k = (find other k).or (find dict k) := by
  rw [merge, find_foldl_set, ← find_ofPairs, ofPairs_rows]

/-- A key finds the last item that has it. -/
theorem find_index (key : ν → κ) (items : List ν) (k : κ) :
    find (index key items) k = (items.filter fun item => key item = k).getLast? := by
  have first (items : List ν) : (items.map fun item => (key item, item)).lookup k =
      items.find? fun item => key item = k := by
    induction items with
    | nil => rfl
    | cons item items ih =>
        by_cases here : key item = k
        · simp [here]
        · have apart : (k == key item) = false := beq_eq_false_iff_ne.mpr (Ne.symm here)
          simp [List.lookup_cons, here, apart, ih]
  rw [index, find_ofPairs, ← List.map_reverse, first, List.getLast?_eq_head?_reverse,
    ← List.filter_reverse, List.head?_filter]

/-- A key that is indexed finds an item with that key. -/
theorem of_find_index {key : ν → κ} {items : List ν} {k : κ} {item : ν}
    (found : find (index key items) k = some item) : item ∈ items ∧ key item = k := by
  obtain ⟨other, among, same⟩ := List.mem_map.mp (mem_of_find_ofPairs found)
  cases same
  exact ⟨among, rfl⟩

/-! ## Pairs that count -/

/-- The pairs whose key does not come again. -/
def lastOfEach : List (κ × ν) → List (κ × ν)
  | [] => []
  | pair :: pairs =>
      if pair.1 ∈ pairs.map Prod.fst then lastOfEach pairs else pair :: lastOfEach pairs

theorem lastOfEach_sublist (pairs : List (κ × ν)) : (lastOfEach pairs).Sublist pairs := by
  induction pairs with
  | nil => exact .slnil
  | cons pair pairs ih =>
      rw [lastOfEach]
      split
      · exact ih.cons pair
      · exact ih.cons_cons pair

theorem nodup_lastOfEach (pairs : List (κ × ν)) : ((lastOfEach pairs).map Prod.fst).Nodup := by
  induction pairs with
  | nil => exact List.nodup_nil
  | cons pair pairs ih =>
      rw [lastOfEach]
      split
      · exact ih
      next last =>
        rw [List.map_cons, List.nodup_cons]
        exact ⟨fun again => last (((lastOfEach_sublist pairs).map Prod.fst).mem again), ih⟩

theorem mem_lastOfEach {pairs : List (κ × ν)} {k : κ} {value : ν} :
    (k, value) ∈ lastOfEach pairs ↔ find (ofPairs pairs) k = some value := by
  rw [find_ofPairs]
  induction pairs with
  | nil => simp [lastOfEach]
  | cons pair pairs ih =>
      obtain ⟨first, other⟩ := pair
      rw [lastOfEach, List.reverse_cons, List.lookup_append]
      split
      next again =>
        rw [ih]
        cases found : pairs.reverse.lookup k with
        | some later => simp
        | none =>
            have apart : k ≠ first := by
              rintro rfl
              rw [List.lookup_eq_none_iff] at found
              obtain ⟨⟨k', later⟩, member, rfl⟩ := List.mem_map.mp again
              simpa using found _ (List.mem_reverse.mpr member)
            simp [List.lookup_cons, beq_eq_false_iff_ne.mpr apart]
      next last =>
        rw [List.mem_cons, ih, Prod.mk.injEq]
        by_cases here : k = first
        · subst here
          have absent : pairs.reverse.lookup k = none := by
            rw [List.lookup_eq_none_iff]
            rintro ⟨k', later⟩ member
            rw [bne_iff_ne]
            rintro rfl
            exact last (List.mem_map.mpr ⟨_, List.mem_reverse.mp member, rfl⟩)
          simp [absent, eq_comm]
        · simp [List.lookup_cons, beq_eq_false_iff_ne.mpr here, here]

theorem lastOfEach_map {μ : Type*} (f : ν → μ) (pairs : List (κ × ν)) :
    lastOfEach (pairs.map fun pair => (pair.1, f pair.2)) =
      (lastOfEach pairs).map fun pair => (pair.1, f pair.2) := by
  induction pairs with
  | nil => rfl
  | cons pair pairs ih =>
      have sameKeys : (pairs.map fun pair => (pair.1, f pair.2)).map Prod.fst =
          pairs.map Prod.fst := by
        simp
      rw [List.map_cons, lastOfEach, lastOfEach, sameKeys, ih]
      split <;> simp

/-- The items of a dict made of pairs are the pairs that count, in another order. -/
theorem ofPairs_perm (pairs : List (κ × ν)) : (ofPairs pairs).rows.Perm (lastOfEach pairs) := by
  refine (List.perm_ext_iff_of_nodup (.of_map _ (ofPairs pairs).nodup)
    (.of_map _ (nodup_lastOfEach pairs))).mpr ?_
  rintro ⟨k, value⟩
  rw [mem_lastOfEach, find_eq_some_iff]

/-! ## Groups -/

/-- `dict.setdefault(key, []).append(value)` -/
def append (dict : Dict κ (List ν)) (pair : κ × ν) : Dict κ (List ν) :=
  set dict pair.1 ((find dict pair.1).getD [] ++ [pair.2])

/-- The values of each key. -/
def group (pairs : List (κ × ν)) : Dict κ (List ν) := pairs.foldl append Table.empty

theorem find_foldl_append (pairs : List (κ × ν)) (dict : Dict κ (List ν)) (k : κ) :
    (find (pairs.foldl append dict) k).getD [] =
      (find dict k).getD [] ++ (pairs.filter (·.1 = k)).map Prod.snd := by
  induction pairs generalizing dict with
  | nil => simp
  | cons pair pairs ih =>
      rw [List.foldl_cons, ih, append, find_set, List.filter_cons]
      by_cases here : pair.1 = k <;> simp [here]

/-- A key has as many values as pairs. -/
theorem length_find_group (pairs : List (κ × ν)) (k : κ) :
    ((find (group pairs) k).getD []).length = (pairs.map Prod.fst).count k := by
  rw [group, find_foldl_append, find_empty, List.count, List.countP_map]
  simp [List.countP_eq_length_filter, Function.comp_def, beq_eq_decide]

end Dict

end PresenceLogger.Library
