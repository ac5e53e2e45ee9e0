import SeriesQuery.Proofs.Series.Cursor

set_option autoImplicit false

/-!
# Plain reading

A plain reading looks at the next point alone: the point is used up if it stands at the wanted second,
and waits otherwise. A point before the wanted second would make it wait for good, where a forward
reading passes over it. From a start before which there is no point the two give the same series: what
is left stands at the wanted second or after it, and nothing is left once the seconds wrap around.
-/

namespace SeriesQuery.Series

/-- The value that a plain reading tells for a second, and the points that it leaves. -/
def plainValue (target : Int64) : List Point → Int64 × List Point
  | [] => (0, [])
  | point :: rest => if point.time = target then (point.value, rest) else (0, point :: rest)

/-- The series of a plain reading from a second on. -/
def plainDense (points : List Point) (target : Int64) : Nat → List Point
  | 0 => []
  | count + 1 =>
    ⟨target, (plainValue target points).1⟩ ::
      plainDense (plainValue target points).2 (target + 1) count

/-! ## What a reading has before it -/

structure Ahead (target : Int64) (points : List Point) : Prop where
  increasing : Increasing points
  notBefore : ∀ point ∈ points, target ≤ point.time

theorem add_one_le_of_lt {earlier later : Int64} (before : earlier < later) :
    earlier + 1 ≤ later := by
  have high := later.toInt_le
  have top := Int64.toInt_maxValue
  have before := Int64.lt_iff_toInt_lt.mp before
  have next : (earlier + Int64.ofNat 1).toInt = earlier.toInt + (1 : Nat) :=
    toInt_target (by omega)
  apply Int64.le_iff_toInt_le.mpr
  exact next ▸ by omega

theorem Ahead.valueAt_eq {target : Int64} {points : List Point} (ahead : Ahead target points) :
    valueAt points target = plainValue target points := by
  cases points with
  | nil => rfl
  | cons point rest =>
      have notOlder : ¬ point.time < target :=
        Int64.not_lt.mpr (ahead.notBefore point List.mem_cons_self)
      exact valueAt_cons_of_not_lt notOlder

/-- What a reading leaves is ahead of the next second. After the last 64-bit second it leaves nothing, so
this also holds when the next second is the first one. -/
theorem Ahead.next {target : Int64} {points : List Point} (ahead : Ahead target points) :
    Ahead (target + 1) (plainValue target points).2 := by
  cases points with
  | nil => exact ⟨increasing_nil, by simp [plainValue]⟩
  | cons point rest =>
      obtain ⟨later, restIncreasing⟩ := increasing_cons.mp ahead.increasing
      have first := ahead.notBefore point List.mem_cons_self
      simp only [plainValue]
      split
      · next here =>
          refine ⟨restIncreasing, ?_⟩
          intro next member
          apply add_one_le_of_lt
          rw [← here]
          exact later next member
      · next elsewhere =>
          refine ⟨ahead.increasing, ?_⟩
          have waits : target < point.time := by grind
          intro next member
          apply add_one_le_of_lt
          rcases List.mem_cons.mp member with rfl | inside
          · exact waits
          · exact Int64.lt_trans waits (later next inside)

/-! ## Whole series -/

theorem targets_succ (start : Int64) (count : Nat) :
    targets start (count + 1) = start :: targets (start + 1) count := by
  unfold targets
  rw [List.range_succ_eq_map, List.map_cons, List.map_map]
  congr 1
  · exact Int64.add_zero start
  · apply List.map_congr_left
    intro offset _
    simp only [Function.comp_apply, Nat.succ_eq_add_one, Int64.ofNat_add]
    grind

theorem fillDense_succ (points : List Point) (start : Int64) (count : Nat) :
    fillDense points start (count + 1) =
      ⟨start, (valueAt points start).1⟩ ::
        fillDense (valueAt points start).2 (start + 1) count := by
  simp only [fillDense, targets_succ, valuesAt_cons, List.zipWith_cons_cons]

/-- Over an increasing series without a point before the start, a forward reading gives the series of a
plain one, also where the seconds wrap around. -/
theorem fillDense_eq_plainDense {points : List Point} {start : Int64}
    (increasing : Increasing points) (notBefore : ∀ point ∈ points, start ≤ point.time)
    (count : Nat) : fillDense points start count = plainDense points start count := by
  induction count generalizing points start with
  | zero => rfl
  | succ count ih =>
      have ahead : Ahead start points := ⟨increasing, notBefore⟩
      have next := ahead.next
      rw [fillDense_succ, ahead.valueAt_eq, ih next.increasing next.notBefore]
      rfl

theorem fillDense_eq_plainDense_lastSeconds :
    let points : List Point := [⟨Int64.maxValue - 1, 4⟩, ⟨Int64.maxValue, 7⟩]
    let start := Int64.maxValue - 2
    Increasing points ∧ (∀ point ∈ points, start ≤ point.time) ∧
      fillDense points start 5 = plainDense points start 5 ∧
      (plainDense points start 5).map Point.value = [0, 4, 7, 0, 0] := by
  intro points start
  have increasing : Increasing points := by decide
  have notBefore : ∀ point ∈ points, start ≤ point.time := by decide
  exact ⟨increasing, notBefore, fillDense_eq_plainDense increasing notBefore 5, by decide⟩

end SeriesQuery.Series
