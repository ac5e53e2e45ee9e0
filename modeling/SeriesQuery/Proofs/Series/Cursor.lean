import SeriesQuery.Proofs.Series.Total
import SeriesQuery.Series.Align

set_option autoImplicit false

/-!
# What a forward reading finds

An increasing series is read forward against wanted seconds. A wanted second that is later than all
seconds wanted before it gets the value counted in it; any other gets 0, as the reading has gone past
it. The dense series of a window therefore holds the counted values up to the last 64-bit second, and
zeros after the seconds have wrapped around.
-/

namespace SeriesQuery.Series

instance (points : List Point) : Decidable (Increasing points) :=
  inferInstanceAs (Decidable (points.Pairwise fun earlier later => earlier.time < later.time))

@[simp] theorem increasing_nil : Increasing [] := List.Pairwise.nil

theorem increasing_cons {point : Point} {rest : List Point} :
    Increasing (point :: rest) ↔
      (∀ later ∈ rest, point.time < later.time) ∧ Increasing rest :=
  List.pairwise_cons

theorem Increasing.filter {points : List Point} (increasing : Increasing points)
    (keep : Point → Bool) : Increasing (points.filter keep) :=
  List.Pairwise.filter keep increasing

/-- The value of a row of points at a second; 0 if it has no point there. -/
def valueOf (time : Int64) (points : List Point) : Int64 :=
  ((points.find? (·.time = time)).map Point.value).getD 0

/-- An increasing row has one point at a second at most. -/
theorem Increasing.totalAt_eq {points : List Point} (increasing : Increasing points)
    (time : Int64) : totalAt time points = valueOf time points := by
  induction points with
  | nil => rfl
  | cons point rest ih =>
      obtain ⟨later, restIncreasing⟩ := increasing_cons.mp increasing
      rw [totalAt_cons]
      by_cases here : point.time = time
      · have restTotal : totalAt time rest = 0 := by
          apply totalAt_eq_zero
          intro next member same
          have := later next member
          grind
        simp [valueOf, here, restTotal]
      · rw [if_neg here, ih restIncreasing, Int64.zero_add, valueOf, valueOf,
          List.find?_cons_of_neg (by simpa using here)]

/-! ## One reading -/

theorem valueAt_cons_of_lt {point : Point} {rest : List Point} {target : Int64}
    (older : point.time < target) : valueAt (point :: rest) target = valueAt rest target := by
  simp [valueAt, older]

theorem valueAt_cons_of_not_lt {point : Point} {rest : List Point} {target : Int64}
    (notOlder : ¬ point.time < target) :
    valueAt (point :: rest) target =
      if point.time = target then (point.value, rest) else (0, point :: rest) := by
  simp [valueAt, notOlder]

/-- A reading finds what was counted in the wanted second and leaves the points after it. -/
theorem valueAt_of_increasing {points : List Point} (increasing : Increasing points)
    (target : Int64) :
    valueAt points target =
      (totalAt target points, points.filter fun point => target < point.time) := by
  induction points with
  | nil => rfl
  | cons point rest ih =>
      obtain ⟨later, restIncreasing⟩ := increasing_cons.mp increasing
      by_cases older : point.time < target
      · have different : point.time ≠ target := by grind
        have notLater : ¬ target < point.time := by grind
        rw [valueAt_cons_of_lt older, ih restIncreasing, totalAt_cons, if_neg different,
          Int64.zero_add, List.filter_cons_of_neg (by simpa using notLater)]
      · -- Nothing after `point` stands at the target or before it.
        have restLater : ∀ next ∈ rest, target < next.time := by
          intro next member
          have := later next member
          grind
        have restTotal : totalAt target rest = 0 :=
          totalAt_eq_zero fun next member => by
            have := restLater next member
            grind
        have restKept : rest.filter (fun next => target < next.time) = rest :=
          List.filter_eq_self.mpr fun next member => by simpa using restLater next member
        rw [valueAt_cons_of_not_lt older, totalAt_cons, restTotal]
        by_cases here : point.time = target
        · simp [here, restKept]
        · have pointLater : target < point.time := by grind
          simp [here, pointLater, restKept]

/-! ## Readings in turn -/

/-- Of a series that is read forward, a wanted second gets the value counted in it if it is later
than the seconds wanted before it, and 0 otherwise. -/
theorem valuesAt_getElem? {points : List Point} (increasing : Increasing points)
    (wanted : List Int64) (place : Nat) :
    (valuesAt points wanted)[place]? = wanted[place]?.map fun target =>
      if (wanted.take place).all (· < target) then totalAt target points else 0 := by
  induction wanted generalizing points place with
  | nil => rfl
  | cons first rest ih =>
      rw [valuesAt_cons, valueAt_of_increasing increasing]
      cases place with
      | zero => simp
      | succ place =>
          rw [List.getElem?_cons_succ, List.getElem?_cons_succ, List.take_succ_cons,
            ih (increasing.filter _)]
          refine Option.map_congr fun target _ => ?_
          rw [totalAt_filter target (fun time => first < time)]
          by_cases afterFirst : first < target <;> simp [afterFirst]

/-! ## Dense series -/

@[simp] theorem length_targets (start : Int64) (count : Nat) :
    (targets start count).length = count := by
  simp [targets]

theorem targets_getElem? (start : Int64) {count offset : Nat} (inside : offset < count) :
    (targets start count)[offset]? = some (start + Int64.ofNat offset) := by
  simp [targets, inside]

theorem take_targets (start : Int64) {count offset : Nat} (inside : offset ≤ count) :
    (targets start count).take offset = targets start offset := by
  simp [targets, ← List.map_take, List.take_range, Nat.min_eq_left inside]

theorem length_valuesAt (points : List Point) (wanted : List Int64) :
    (valuesAt points wanted).length = wanted.length := by
  induction wanted generalizing points with
  | nil => rfl
  | cons target rest ih => simp [valuesAt_cons, ih]

theorem target_eq_ofInt (start : Int64) (offset : Nat) :
    start + Int64.ofNat offset = Int64.ofInt (start.toInt + offset) := by
  rw [Int64.ofInt_add, Int64.ofInt_toInt, Int64.ofInt_eq_ofNat]

theorem toInt_target {start : Int64} {offset : Nat}
    (fits : start.toInt + offset ≤ Int64.maxValue.toInt) :
    (start + Int64.ofNat offset).toInt = start.toInt + offset := by
  have low := start.le_toInt
  have high := Int64.toInt_maxValue
  rw [target_eq_ofInt, Int64.toInt_ofInt_of_le] <;> omega

/-- A wanted second is later than those before it unless it passes the last second. -/
theorem later_target_iff (start : Int64) (offset : Nat) :
    (targets start offset).all (· < start + Int64.ofNat offset) = true ↔
      start.toInt + offset ≤ Int64.maxValue.toInt := by
  simp only [List.all_eq_true, decide_eq_true_eq]
  constructor
  · intro later
    by_cases fits : start.toInt + offset ≤ Int64.maxValue.toInt
    · exact fits
    exfalso
    -- The last second stands among the earlier ones, and nothing is later than it.
    have top : start.toInt ≤ Int64.maxValue.toInt := start.toInt_le
    have reached : start + Int64.ofNat (Int64.maxValue.toInt - start.toInt).toNat =
        Int64.maxValue := by
      apply Int64.toInt_inj.mp
      rw [toInt_target] <;> omega
    have member : Int64.maxValue ∈ targets start offset := by
      rw [← reached]
      exact List.mem_map.mpr ⟨_, List.mem_range.mpr (by omega), rfl⟩
    exact Int64.not_maxValue_lt (later _ member)
  · intro fits earlier member
    obtain ⟨before, inside, rfl⟩ := List.mem_map.mp member
    have inside := List.mem_range.mp inside
    rw [Int64.lt_iff_toInt_lt, toInt_target fits, toInt_target] <;> omega

/-- The dense series over an increasing series: each second with the value counted in it, and with 0
once the seconds have wrapped around. -/
theorem fillDense_of_increasing {points : List Point} (increasing : Increasing points)
    (start : Int64) (count : Nat) :
    fillDense points start count = (List.range count).map fun offset =>
      ⟨start + Int64.ofNat offset,
        if start.toInt + offset ≤ Int64.maxValue.toInt
        then totalAt (start + Int64.ofNat offset) points else 0⟩ := by
  apply List.ext_getElem?
  intro offset
  by_cases inside : offset < count
  · have value : (valuesAt points (targets start count))[offset]? =
        some (if start.toInt + offset ≤ Int64.maxValue.toInt
          then totalAt (start + Int64.ofNat offset) points else 0) := by
      rw [valuesAt_getElem? increasing, targets_getElem? start inside,
        take_targets start (Nat.le_of_lt inside)]
      simp only [later_target_iff, Option.map_some]
    rw [fillDense, List.getElem?_zipWith, targets_getElem? start inside, value]
    simp [inside]
  · rw [List.getElem?_eq_none, List.getElem?_eq_none] <;>
      simp [fillDense, length_valuesAt] <;> omega

/-- A dense series counts the points of its seconds, up to the last 64-bit second, and no others. -/
theorem total_fillDense {points : List Point} (increasing : Increasing points) (start : Int64)
    (count : Nat) :
    total (fillDense points start count) =
      total (points.filter fun point =>
        start ≤ point.time ∧ point.time.toInt < start.toInt + count) := by
  rw [fillDense_of_increasing increasing]
  -- By induction on the count: each further second brings in the points at it.
  induction count with
  | zero =>
      have nothing : points.filter (fun point =>
          start ≤ point.time ∧ point.time.toInt < start.toInt + (0 : Nat)) = [] := by
        simp only [List.filter_eq_nil_iff, decide_eq_true_eq, Int64.le_iff_toInt_le]
        intro point _ inside
        omega
      rw [nothing]
      rfl
  | succ count ih =>
      rw [List.range_succ, List.map_append, total_append, ih, List.map_singleton, total_cons,
        total_nil, Int64.add_zero]
      by_cases fits : start.toInt + count ≤ Int64.maxValue.toInt
      · rw [if_pos fits, totalAt, ← total_filter_or]
        · refine congrArg total (List.filter_congr fun point _ => ?_)
          rw [← Bool.decide_or, decide_eq_decide, Int64.le_iff_toInt_le, ← Int64.toInt_inj,
            toInt_target fits]
          omega
        · intro point inside
          have before := (of_decide_eq_true inside).2
          rw [decide_eq_false_iff_not, ← Int64.toInt_inj, toInt_target fits]
          omega
      · rw [if_neg fits, Int64.add_zero]
        refine congrArg total (List.filter_congr fun point _ => ?_)
        have last : point.time.toInt ≤ Int64.maxValue.toInt := point.time.toInt_le
        rw [decide_eq_decide, Int64.le_iff_toInt_le]
        omega

end SeriesQuery.Series
