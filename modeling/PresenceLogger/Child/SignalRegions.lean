import Mathlib.Data.List.Sort
import PresenceLogger.Library.Number

/-!
# Regions of signal towers

The centres of the detections of some seconds are put into clusters, one a tower, and every tower
gets a rectangle around its centre.  All rectangles have the same size, as large as the closest
pairs allow, and a detection belongs to the first one that its centre is in.
-/

namespace PresenceLogger.Child

open Library

namespace SignalRegions

/-- `(cx, cy, bh, bw)` -/
structure Center where
  x : Int
  y : Int
  boxHeight : Int
  boxWidth : Int
  deriving DecidableEq

/-- The picture as it is displayed. -/
structure Display where
  width : Int
  height : Int

/-! ## Clusters -/

/-- Centres within the mean width and five times the mean height of their boxes. -/
def Center.near (p q : Center) : Bool :=
  |p.y - q.y| ≤ nearestDouble (trueDiv (p.boxHeight + q.boxHeight) 2 * 5) &&
    |p.x - q.x| ≤ trueDiv (p.boxWidth + q.boxWidth) 2

/-- `group`, which begins with a centre. -/
structure Cluster where
  first : Center
  others : List Center

def Cluster.centers (cluster : Cluster) : List Center := cluster.first :: cluster.others

/-- The outer loop over what is left of `raw`. -/
def clustersFrom (raw used : List Center) : List Center → List Cluster
  | [] => []
  | p :: rest =>
      if p ∈ used then clustersFrom raw used rest
      else
        let others := raw.filter fun q => q ∉ p :: used ∧ p.near q
        ⟨p, others⟩ :: clustersFrom raw (p :: used ++ others) rest

/-- The clusters of `raw = list(set(_id_collect_centers))`, in the order that the set has. -/
def clusters (raw : List Center) : List Cluster := clustersFrom raw [] raw

/-! ## Towers -/

/-- `(cx, avg_h, y_min, y_max)` -/
structure Tower where
  cx : Int
  avgHeight : Int
  yMin : Int
  yMax : Int
  deriving DecidableEq

/-- `int(q)` of a float -/
def truncate (q : ℚ) : Int := if q < 0 then ⌈q⌉ else ⌊q⌋

/-- `int(sum(values) / len(values))` -/
def mean (values : List Int) : Int := truncate (trueDiv values.sum values.length)

def Cluster.tower (cluster : Cluster) : Tower where
  cx := mean (cluster.centers.map Center.x)
  avgHeight := mean (cluster.centers.map Center.boxHeight)
  yMin := (cluster.others.map Center.y).foldl min cluster.first.y
  yMax := (cluster.others.map Center.y).foldl max cluster.first.y

/-- `tower_data` -/
def towers (raw : List Center) : List Tower :=
  ((clusters raw).map Cluster.tower).insertionSort (·.cx ≤ ·.cx)

/-- An entry of `cys_td` -/
def Tower.cy (tower : Tower) : Int := (tower.yMin + tower.yMax) / 2

/-! ## Regions -/

/-- Every tower with every one after it. -/
def pairs : List Tower → List (Tower × Tower)
  | [] => []
  | tower :: rest => rest.map (Prod.mk tower) ++ pairs rest

def dx (pair : Tower × Tower) : Int := |pair.1.cx - pair.2.cx|

def dy (pair : Tower × Tower) : Int := |pair.1.cy - pair.2.cy|

/-- `W_cons` -/
def widths (towers : List Tower) : List Int :=
  ((pairs towers).filter fun pair => dy pair ≤ dx pair).map dx

/-- `H_cons` -/
def heights (towers : List Tower) : List Int :=
  ((pairs towers).filter fun pair => ¬dy pair ≤ dx pair).map dy

/-- `cell_xhw` -/
def cellHalfWidth (display : Display) (towers : List Tower) : Int :=
  (widths towers).min?.getD display.width / 2

/-- `cell_yhalf` -/
def cellHalfHeight (display : Display) (towers : List Tower) : Int :=
  (heights towers).min?.getD display.height / 2

structure Region where
  id : Nat
  cx : Int
  xHalfWidth : Int
  yTop : Int
  yBottom : Int

/-- The region of the tower at an index. -/
def region (display : Display) (towers : List Tower) (tower : Tower) (i : Nat) : Region where
  id := i + 1
  cx := tower.cx
  xHalfWidth := cellHalfWidth display towers
  yTop := max 0 (tower.cy - cellHalfHeight display towers)
  yBottom := min display.height (tower.cy + cellHalfHeight display towers)

/-- `signal_regions` at the end of the collection. -/
def signalRegions (display : Display) (raw : List Center) : List Region :=
  (towers raw).zipIdx.map fun entry => region display (towers raw) entry.1 entry.2

def Region.contains (region : Region) (cx cy : Int) : Bool :=
  |cx - region.cx| ≤ region.xHalfWidth ∧ region.yTop ≤ cy ∧ cy ≤ region.yBottom

/-- `find_signal_region_id`, of regions that have an `x_half_width`. -/
def findSignalRegionId (regions : List Region) (cx cy : Int) : Nat :=
  match regions.find? (·.contains cx cy) with
  | some region => region.id
  | none => 0

/-! ## What the regions are for -/

/-- The points of a region. -/
def Region.Covers (region : Region) (x y : ℚ) : Prop :=
  |x - region.cx| ≤ region.xHalfWidth ∧ region.yTop ≤ y ∧ y ≤ region.yBottom

def Region.OnBoundary (region : Region) (x y : ℚ) : Prop :=
  |x - region.cx| = region.xHalfWidth ∨ y = region.yTop ∨ y = region.yBottom

/-- Points of two regions are on the boundary of both. -/
def MeetAtBoundary (left right : Region) : Prop :=
  ∀ x y, left.Covers x y → right.Covers x y → left.OnBoundary x y ∧ right.OnBoundary x y

/-- A centre is in the picture. -/
def Inside (display : Display) (center : Center) : Prop :=
  0 ≤ center.x ∧ center.x ≤ display.width ∧ 0 ≤ center.y ∧ center.y ≤ display.height

/-! ### The size of a cell -/

/-- Twice the half of the least value is at most every value. -/
theorem two_mul_half_le {values : List Int} {value : Int} (among : value ∈ values) (other : Int) :
    2 * (values.min?.getD other / 2) ≤ value := by
  cases least : values.min? with
  | none => exact absurd (List.min?_eq_none_iff.mp least ▸ among) List.not_mem_nil
  | some smallest =>
      have below := (List.min?_eq_some_iff.mp least).2 value among
      rw [Option.getD_some]
      omega

theorem half_nonneg {values : List Int} (each : ∀ value ∈ values, 0 ≤ value) {other : Int}
    (nonneg : 0 ≤ other) : 0 ≤ values.min?.getD other / 2 := by
  cases least : values.min? with
  | none => exact Int.ediv_nonneg nonneg (by decide)
  | some smallest => exact Int.ediv_nonneg (each _ (List.min?_mem least)) (by decide)

/-- A pair is far enough apart along one of the axes. -/
def Apart (halfWidth halfHeight : Int) (s t : Tower) : Prop :=
  dy (s, t) ≤ dx (s, t) ∧ 2 * halfWidth ≤ dx (s, t) ∨
    dx (s, t) < dy (s, t) ∧ 2 * halfHeight ≤ dy (s, t)

theorem pairwise_of_pairs {towers : List Tower} {related : Tower → Tower → Prop}
    (each : ∀ pair ∈ pairs towers, related pair.1 pair.2) : towers.Pairwise related := by
  induction towers with
  | nil => exact .nil
  | cons tower rest ih =>
      refine .cons (fun other later => ?_) (ih fun pair among => ?_)
      · exact each (tower, other)
          (List.mem_append_left _ (List.mem_map_of_mem later))
      · exact each pair (List.mem_append_right _ among)

/-- The cells are small enough for every pair. -/
theorem pairwise_apart (display : Display) (towers : List Tower) :
    towers.Pairwise
      (Apart (cellHalfWidth display towers) (cellHalfHeight display towers)) := by
  refine pairwise_of_pairs fun pair among => ?_
  by_cases wide : dy pair ≤ dx pair
  · refine .inl ⟨wide, two_mul_half_le (List.mem_map_of_mem ?_) _⟩
    exact List.mem_filter.mpr ⟨among, decide_eq_true wide⟩
  · refine .inr ⟨not_le.mp wide, two_mul_half_le (List.mem_map_of_mem ?_) _⟩
    exact List.mem_filter.mpr ⟨among, decide_eq_true wide⟩

theorem cellHalfWidth_nonneg {display : Display} (nonneg : 0 ≤ display.width)
    (towers : List Tower) : 0 ≤ cellHalfWidth display towers := by
  refine half_nonneg (fun value among => ?_) nonneg
  obtain ⟨pair, -, rfl⟩ := List.mem_map.mp among
  exact abs_nonneg _

theorem cellHalfHeight_nonneg {display : Display} (nonneg : 0 ≤ display.height)
    (towers : List Tower) : 0 ≤ cellHalfHeight display towers := by
  refine half_nonneg (fun value among => ?_) nonneg
  obtain ⟨pair, -, rfl⟩ := List.mem_map.mp among
  exact abs_nonneg _

/-! ### Regions meet at their boundaries -/

/-- A value that is close to two that are far apart is as far from both as it may be. -/
theorem abs_eq_of_far {a b half v : ℚ} (far : 2 * half ≤ |a - b|) (nearA : |v - a| ≤ half)
    (nearB : |v - b| ≤ half) : |v - a| = half ∧ |v - b| = half := by
  have between := abs_sub_le a v b
  rw [abs_sub_comm a v] at between
  exact ⟨le_antisymm nearA (by linarith), le_antisymm nearB (by linarith)⟩

theorem onBoundary_of_abs_eq {display : Display} {towers : List Tower} {tower : Tower} {i : Nat}
    {x y : ℚ} (covers : (region display towers tower i).Covers x y)
    (edge : |y - tower.cy| = cellHalfHeight display towers) :
    (region display towers tower i).OnBoundary x y := by
  obtain ⟨-, below, above⟩ := covers
  simp only [region] at below above
  push_cast at below above
  right
  rcases abs_choice (y - tower.cy) with up | down
  · right
    have isEdge : y = tower.cy + cellHalfHeight display towers := by linarith
    simp only [region]
    push_cast
    exact le_antisymm above (isEdge ▸ min_le_right _ _)
  · left
    have isEdge : y = tower.cy - cellHalfHeight display towers := by linarith
    simp only [region]
    push_cast
    exact le_antisymm (isEdge ▸ le_max_right _ _) below

/-- A covered point is close to the middle, which the picture may cut only closer. -/
theorem abs_le_of_covers {display : Display} {towers : List Tower} {tower : Tower} {i : Nat}
    {x y : ℚ} (covers : (region display towers tower i).Covers x y) :
    |y - tower.cy| ≤ cellHalfHeight display towers := by
  obtain ⟨-, below, above⟩ := covers
  simp only [region] at below above
  push_cast at below above
  rw [abs_le]
  constructor
  · linarith [le_trans (le_max_right (0 : ℚ) _) below]
  · linarith [le_trans above (min_le_right (display.height : ℚ) _)]

theorem meetAtBoundary_of_apart {display : Display} {towers : List Tower} {s t : Tower}
    (apart : Apart (cellHalfWidth display towers) (cellHalfHeight display towers) s t)
    (i j : Nat) : MeetAtBoundary (region display towers s i) (region display towers t j) := by
  intro x y inLeft inRight
  rcases apart with ⟨-, far⟩ | ⟨-, far⟩
  · have farQ : 2 * (cellHalfWidth display towers : ℚ) ≤ |(s.cx : ℚ) - t.cx| := by
      exact_mod_cast far
    obtain ⟨left, right⟩ := abs_eq_of_far farQ inLeft.1 inRight.1
    exact ⟨.inl left, .inl right⟩
  · have farQ : 2 * (cellHalfHeight display towers : ℚ) ≤ |(s.cy : ℚ) - t.cy| := by
      exact_mod_cast far
    obtain ⟨left, right⟩ :=
      abs_eq_of_far farQ (abs_le_of_covers inLeft) (abs_le_of_covers inRight)
    exact ⟨onBoundary_of_abs_eq inLeft left, onBoundary_of_abs_eq inRight right⟩

/-- The regions of a collection meet at their boundaries only. -/
theorem pairwise_meetAtBoundary (display : Display) (raw : List Center) :
    (signalRegions display raw).Pairwise MeetAtBoundary := by
  rw [signalRegions, List.pairwise_map]
  have apart := pairwise_apart display (towers raw)
  rw [← List.zipIdx_map_fst 0 (towers raw), List.pairwise_map, List.zipIdx_map_fst] at apart
  exact apart.imp fun far => meetAtBoundary_of_apart far _ _

/-! ### Centres in the picture -/

theorem mem_raw_of_mem_clustersFrom {raw used rest : List Center} (part : rest ⊆ raw)
    {cluster : Cluster} (among : cluster ∈ clustersFrom raw used rest) : cluster.centers ⊆ raw := by
  induction rest generalizing used with
  | nil => exact absurd among List.not_mem_nil
  | cons p rest ih =>
      have later : rest ⊆ raw := fun _ isLater => part (.tail _ isLater)
      rw [clustersFrom] at among
      split at among
      · exact ih later among
      · rcases List.mem_cons.mp among with rfl | others
        · exact List.cons_subset.mpr ⟨part (.head _), List.filter_sublist.subset⟩
        · exact ih later others

theorem mem_of_foldl {op : Int → Int → Int} (picks : ∀ a b, op a b = a ∨ op a b = b)
    (values : List Int) (first : Int) : values.foldl op first ∈ first :: values := by
  induction values generalizing first with
  | nil => exact .head _
  | cons value values ih =>
      rcases List.mem_cons.mp (ih (op first value)) with same | later
      · rw [List.foldl_cons, same]
        rcases picks first value with isFirst | isValue
        · rw [isFirst]
          exact .head _
        · rw [isValue]
          exact .tail _ (.head _)
      · exact .tail _ (.tail _ later)

/-- The middle of a tower is in the picture. -/
theorem tower_inside {display : Display} {raw : List Center}
    (inside : ∀ center ∈ raw, Inside display center) {tower : Tower} (among : tower ∈ towers raw) :
    0 ≤ display.width ∧ 0 ≤ tower.cy ∧ tower.cy ≤ display.height := by
  rw [towers, List.mem_insertionSort, List.mem_map] at among
  obtain ⟨cluster, isCluster, rfl⟩ := among
  have part : ∀ center ∈ cluster.centers, Inside display center := fun center isCenter =>
    inside center (mem_raw_of_mem_clustersFrom (List.Subset.refl raw) isCluster isCenter)
  have height : ∀ y ∈ cluster.centers.map Center.y, 0 ≤ y ∧ y ≤ display.height := by
    intro y isHeight
    obtain ⟨center, isCenter, rfl⟩ := List.mem_map.mp isHeight
    exact (part center isCenter).2.2
  have width := part cluster.first (.head _)
  have low := height _ (mem_of_foldl min_choice (cluster.others.map Center.y) cluster.first.y)
  have high := height _ (mem_of_foldl max_choice (cluster.others.map Center.y) cluster.first.y)
  refine ⟨width.1.trans width.2.1, ?_⟩
  simp only [Tower.cy, Cluster.tower]
  omega

/-! ### A centre finds its region -/

theorem contains_own {display : Display} {raw : List Center}
    (inside : ∀ center ∈ raw, Inside display center) {tower : Tower} (among : tower ∈ towers raw)
    (i : Nat) : (region display (towers raw) tower i).contains tower.cx tower.cy = true := by
  obtain ⟨width, low, high⟩ := tower_inside inside among
  have halfWidth := cellHalfWidth_nonneg width (towers raw)
  have halfHeight := cellHalfHeight_nonneg (low.trans high) (towers raw)
  refine decide_eq_true ⟨?_, max_le low ?_, le_min high ?_⟩
  · rw [region, sub_self, abs_zero]
    exact halfWidth
  · exact Int.sub_le_self _ halfHeight
  · exact Int.le_add_of_nonneg_right halfHeight

/-- Towers that are apart are not in each other's region unless they have one centre. -/
theorem not_contains_of_apart {display : Display} {towers : List Tower} {s t : Tower}
    (apart : Apart (cellHalfWidth display towers) (cellHalfHeight display towers) s t)
    (distinct : (s.cx, s.cy) ≠ (t.cx, t.cy)) (i : Nat) :
    (region display towers s i).contains t.cx t.cy = false := by
  refine decide_eq_false ?_
  rintro ⟨near, below, above⟩
  have low := le_trans (le_max_right 0 _) below
  have high := le_trans above (min_le_right display.height _)
  have nearX : dx (s, t) ≤ cellHalfWidth display towers := (abs_sub_comm s.cx t.cx).trans_le near
  have nearY : dy (s, t) ≤ cellHalfHeight display towers := abs_le.mpr ⟨by linarith, by linarith⟩
  have noX : 0 ≤ dx (s, t) := abs_nonneg _
  have noY : 0 ≤ dy (s, t) := abs_nonneg _
  have together : dx (s, t) = 0 ∧ dy (s, t) = 0 := by
    rcases apart with ⟨wide, far⟩ | ⟨tall, far⟩ <;> omega
  refine distinct (Prod.ext ?_ ?_)
  · exact sub_eq_zero.mp (abs_eq_zero.mp together.1)
  · exact sub_eq_zero.mp (abs_eq_zero.mp together.2)

theorem findSignalRegionId_eq {regions : List Region} {cx cy : Int} {i : Nat}
    (present : i < regions.length) (here : regions[i].contains cx cy = true)
    (before : ∀ j (bound : j < regions.length), j < i → regions[j].contains cx cy = false) :
    findSignalRegionId regions cx cy = regions[i].id := by
  have found : regions.find? (·.contains cx cy) = some regions[i] := by
    refine List.find?_eq_some_iff_getElem.mpr ⟨here, i, present, rfl, fun j earlier => ?_⟩
    rw [before j (earlier.trans present) earlier]
    rfl
  rw [findSignalRegionId, found]

/-- The regions of a collection meet at their boundaries only, and the centre of a tower finds the
region of the tower. -/
theorem regions_separate (display : Display) (raw : List Center)
    (inside : ∀ center ∈ raw, Inside display center)
    (distinct : ((towers raw).map fun tower => (tower.cx, tower.cy)).Nodup) :
    (signalRegions display raw).Pairwise MeetAtBoundary ∧
      ∀ entry ∈ (towers raw).zipIdx,
        findSignalRegionId (signalRegions display raw) entry.1.cx entry.1.cy =
          (region display (towers raw) entry.1 entry.2).id := by
  refine ⟨pairwise_meetAtBoundary display raw, ?_⟩
  rintro ⟨tower, i⟩ among
  obtain ⟨present, isTower⟩ := List.getElem?_eq_some_iff.mp (List.mem_zipIdx_iff_getElem?.mp among)
  have length : (signalRegions display raw).length = (towers raw).length := by
    simp [signalRegions]
  have regionAt : ∀ j (bound : j < (towers raw).length)
      (bound' : j < (signalRegions display raw).length), (signalRegions display raw)[j] =
        region display (towers raw) (towers raw)[j] j := by
    intro j bound bound'
    simp [signalRegions]
  have apart := List.pairwise_iff_getElem.mp (pairwise_apart display (towers raw))
  have centres := List.pairwise_iff_getElem.mp (List.pairwise_map.mp distinct)
  have present' : i < (signalRegions display raw).length := length ▸ present
  rw [findSignalRegionId_eq present', regionAt i present present', isTower]
  · rw [regionAt i present present', ← isTower]
    exact contains_own inside (List.getElem_mem present) i
  · intro j bound' earlier
    have bound := earlier.trans present
    rw [regionAt j bound bound', ← isTower]
    exact not_contains_of_apart (apart j i bound present earlier)
      (centres j i bound present earlier) j

/-- Three towers of which two stand over each other. -/
def threeTowers : List Center := [⟨100, 300, 20, 16⟩, ⟨104, 40, 20, 16⟩, ⟨430, 60, 22, 16⟩]

theorem regions_separate_threeTowers :
    (signalRegions ⟨640, 480⟩ threeTowers).length = 3 ∧
      (signalRegions ⟨640, 480⟩ threeTowers).Pairwise MeetAtBoundary :=
  ⟨by decide +kernel, (regions_separate ⟨640, 480⟩ threeTowers
    (by simp [threeTowers, Inside]) (by decide +kernel)).1⟩

end SignalRegions

end PresenceLogger.Child
