import SeriesQuery.Table.Cache

set_option autoImplicit false

/-!
# What one step of a call does

Each step of a call is one of nine moves. The slots of a cache are consistent with the constructions
in flight if a slot is marked as building for exactly one of them, is empty then, and holds a table of
its own resolution once it is filled. Every move keeps this, and no move takes a table out of a slot.
-/

namespace SeriesQuery.Table

/-- Whether a call has a construction in flight. -/
def Progress.isBuilding : Progress → Bool
  | .building _ => true
  | _ => false

def Progress.flight (progress : Progress) : Nat :=
  if progress.isBuilding then 1 else 0

@[simp] theorem Progress.flight_waiting : Progress.waiting.flight = 0 := rfl

@[simp] theorem Progress.flight_building (build : Nat) : (Progress.building build).flight = 1 := rfl

@[simp] theorem Progress.flight_finished (outcome : Except StorageError Handle) :
    (Progress.finished outcome).flight = 0 := rfl

namespace Tables

/-! ## Slots -/

private theorem lookup_slot_cons (key other : UInt32) (slot : Slot)
    (rest : List (UInt32 × Slot)) :
    ((key, slot) :: rest).lookup other = if other = key then some slot else rest.lookup other := by
  rw [List.lookup_cons]
  by_cases same : other = key
  · simp [same]
  · simp [same, beq_eq_false_iff_ne.mpr same]

theorem lookup_putSlot (resolution other : UInt32) (slot : Slot) (slots : List (UInt32 × Slot)) :
    (putSlot resolution slot slots).lookup other =
      if other = resolution then some slot else slots.lookup other := by
  induction slots with
  | nil => exact lookup_slot_cons resolution other slot []
  | cons entry rest ih =>
      obtain ⟨key, old⟩ := entry
      simp only [putSlot]
      split
      · next here =>
          rw [lookup_slot_cons, lookup_slot_cons, here]
          split <;> rfl
      · next elsewhere =>
          rw [lookup_slot_cons, lookup_slot_cons, ih]
          by_cases same : other = key
          · have different : other ≠ resolution := fun equal => elsewhere (same ▸ equal)
            rw [if_pos same, if_pos same, if_neg different]
          · rw [if_neg same, if_neg same]

theorem slot_putSlot (tables : Tables) (resolution other : UInt32) (slot : Slot) :
    ((putSlot resolution slot tables.slots).lookup other).getD .empty =
      if other = resolution then slot else tables.slot other := by
  rw [lookup_putSlot]
  split <;> rfl

@[simp] theorem slot_locate (tables : Tables) (resolution other : UInt32) :
    (tables.locate resolution).slot other = tables.slot other := by
  refine (slot_putSlot tables resolution other _).trans ?_
  split
  · next same => rw [same]
  · rfl

theorem table?_eq (tables : Tables) (resolution : UInt32) :
    tables.table? resolution = (tables.slot resolution).table := rfl

@[simp] theorem table?_locate (tables : Tables) (resolution other : UInt32) :
    (tables.locate resolution).table? other = tables.table? other :=
  congrArg Slot.table (tables.slot_locate resolution other)

theorem slot_begin (tables : Tables) (resolution other : UInt32) :
    (tables.begin resolution).slot other =
      if other = resolution then ⟨none, true⟩ else tables.slot other :=
  slot_putSlot tables resolution other _

theorem slot_complete_of_failing {tables : Tables} {resolution : UInt32} {build : Nat}
    (failing : resolution ∈ tables.failing) (other : UInt32) :
    (tables.complete resolution build).2.slot other =
      if other = resolution then .empty else tables.slot other := by
  rw [complete, if_pos (List.contains_iff_mem.mpr failing)]
  exact slot_putSlot tables resolution other _

theorem slot_complete_of_not_failing {tables : Tables} {resolution : UInt32} {build : Nat}
    (healthy : resolution ∉ tables.failing) (other : UInt32) :
    (tables.complete resolution build).2.slot other =
      if other = resolution then ⟨some ⟨resolution, build⟩, false⟩ else tables.slot other := by
  rw [complete, if_neg (mt List.contains_iff_mem.mp healthy)]
  exact slot_putSlot tables resolution other _

theorem complete_of_failing {tables : Tables} {resolution : UInt32} (build : Nat)
    (failing : resolution ∈ tables.failing) :
    (tables.complete resolution build).1 = .error (failure resolution) := by
  rw [complete, if_pos (List.contains_iff_mem.mpr failing)]

theorem complete_of_not_failing {tables : Tables} {resolution : UInt32} (build : Nat)
    (healthy : resolution ∉ tables.failing) :
    (tables.complete resolution build).1 = .ok ⟨resolution, build⟩ := by
  rw [complete, if_neg (mt List.contains_iff_mem.mp healthy)]

/-! ## Moves -/

/-- The moves of a call for a resolution, with how far it has come before and after. -/
inductive Move (tables : Tables) (resolution : UInt32) : Progress → Progress → Tables → Prop where
  | locate : Move tables resolution .arrived .located (tables.locate resolution)
  | hit {handle : Handle} : tables.table? resolution = some handle →
      Move tables resolution .located (.finished (.ok handle))
        { tables with hits := tables.hits + 1 }
  | miss : tables.table? resolution = none →
      Move tables resolution .located .waiting { tables with misses := tables.misses + 1 }
  | share {handle : Handle} : tables.table? resolution = some handle →
      Move tables resolution .waiting (.finished (.ok handle)) tables
  | wait : tables.table? resolution = none → (tables.slot resolution).building = true →
      Move tables resolution .waiting .waiting tables
  | start : tables.table? resolution = none → (tables.slot resolution).building = false →
      Move tables resolution .waiting (.building tables.builds) (tables.begin resolution)
  | succeed {build : Nat} : resolution ∉ tables.failing →
      Move tables resolution (.building build) (.finished (.ok ⟨resolution, build⟩))
        (tables.complete resolution build).2
  | fail {build : Nat} : resolution ∈ tables.failing →
      Move tables resolution (.building build) (.finished (.error (failure resolution)))
        (tables.complete resolution build).2
  | stay {outcome : Except StorageError Handle} :
      Move tables resolution (.finished outcome) (.finished outcome) tables

theorem advance_move (tables : Tables) (resolution : UInt32) (progress : Progress) :
    Move tables resolution progress (tables.advance resolution progress).1
      (tables.advance resolution progress).2 := by
  cases progress with
  | arrived => exact .locate
  | located =>
      simp only [advance]
      split
      · next handle found => exact .hit found
      · next empty => exact .miss empty
  | waiting =>
      simp only [advance]
      split
      · next handle _ found => exact .share (by rw [table?, found])
      · next found => exact .wait (by rw [table?, found]) (by rw [found])
      · next found => exact .start (by rw [table?, found]) (by rw [found])
  | building build =>
      by_cases failing : resolution ∈ tables.failing
      · simp only [advance, complete_of_failing build failing]
        exact .fail failing
      · simp only [advance, complete_of_not_failing build failing]
        exact .succeed failing
  | finished outcome => exact .stay

/-! ## Consistent caches -/

/-- A cache fits the numbers of constructions in flight for each resolution. -/
structure Consistent (tables : Tables) (inFlight : UInt32 → Nat) : Prop where
  /-- A slot is marked for the one construction in flight. -/
  marked : ∀ resolution, inFlight resolution = if (tables.slot resolution).building then 1 else 0
  /-- A marked slot is empty. -/
  empty : ∀ resolution, (tables.slot resolution).building = true → tables.table? resolution = none
  /-- A slot holds a table of its own resolution. -/
  own : ∀ resolution handle, tables.table? resolution = some handle →
    handle.resolution = resolution

theorem consistent_empty (slow : Bool) : (empty slow).Consistent fun _ => 0 where
  marked _ := rfl
  empty _ _ := rfl
  own _ _ found := by cases found

theorem Consistent.congr {tables others : Tables} {inFlight : UInt32 → Nat}
    (consistent : tables.Consistent inFlight)
    (same : ∀ resolution, others.slot resolution = tables.slot resolution) :
    others.Consistent inFlight where
  marked resolution := by rw [same]; exact consistent.marked resolution
  empty resolution := by rw [table?_eq, same]; exact consistent.empty resolution
  own resolution := by rw [table?_eq, same]; exact consistent.own resolution

theorem Consistent.empty_of_pos {tables : Tables} {inFlight : UInt32 → Nat}
    (consistent : tables.Consistent inFlight) {resolution : UInt32}
    (flying : 0 < inFlight resolution) : tables.table? resolution = none := by
  apply consistent.empty
  have marked := consistent.marked resolution
  split at marked
  · assumption
  · omega

theorem Consistent.le_one {tables : Tables} {inFlight : UInt32 → Nat}
    (consistent : tables.Consistent inFlight) (resolution : UInt32) : inFlight resolution ≤ 1 := by
  rw [consistent.marked]
  split <;> omega

theorem Consistent.update {tables moved : Tables} {inFlight counted : UInt32 → Nat}
    (consistent : tables.Consistent inFlight) {resolution : UInt32} {slot : Slot}
    (slots : ∀ other, moved.slot other = if other = resolution then slot else tables.slot other)
    (counts : ∀ other, counted other =
      if other = resolution then (if slot.building then 1 else 0) else inFlight other)
    (empty : slot.building = true → slot.table = none)
    (own : ∀ handle, slot.table = some handle → handle.resolution = resolution) :
    moved.Consistent counted where
  marked other := by
    rw [counts, slots]
    split
    · rfl
    · exact consistent.marked other
  empty other := by
    rw [table?_eq, slots]
    split
    · exact empty
    · exact consistent.empty other
  own other handle := by
    rw [table?_eq, slots]
    split
    · next here => exact fun found => (own handle found).trans here.symm
    · exact consistent.own other handle

/-- A move keeps a cache consistent, with the mover's construction counted before and after. -/
theorem Move.consistent {tables moved : Tables} {resolution : UInt32} {before after : Progress}
    (move : Move tables resolution before after moved) {inFlight counted : UInt32 → Nat}
    (consistent : tables.Consistent inFlight)
    (count : ∀ other, counted other + (if other = resolution then before.flight else 0) =
      inFlight other + (if other = resolution then after.flight else 0)) :
    moved.Consistent counted := by
  have unchanged (quiet : before.flight = after.flight) : counted = inFlight := by
    funext other
    have := count other
    rw [quiet] at this
    omega
  have elsewhere : ∀ other, other ≠ resolution → counted other = inFlight other := by
    intro other different
    simpa [different] using count other
  have here := count resolution
  simp only [↓reduceIte] at here
  have single := consistent.le_one resolution
  cases move with
  | locate => exact unchanged rfl ▸ consistent.congr fun other => slot_locate tables resolution other
  | hit | miss | share | wait | stay => exact unchanged rfl ▸ consistent.congr fun _ => rfl
  | start vacant free =>
      have none : inFlight resolution = 0 := by rw [consistent.marked, free]; rfl
      refine consistent.update (slot_begin tables resolution) ?_ (fun _ => rfl) (by simp)
      intro other
      split
      · next same => simpa [same, none] using here
      · next different => exact elsewhere other different
  | succeed healthy =>
      refine consistent.update (slot_complete_of_not_failing healthy) ?_ (by simp) ?_
      · intro other
        split
        · next same =>
            have landed : counted resolution = 0 := by
              simp only [Progress.flight_building, Progress.flight_finished] at here
              omega
            rw [same, landed]
            rfl
        · next different => exact elsewhere other different
      · intro handle found
        cases found
        rfl
  | fail failing =>
      refine consistent.update (slot_complete_of_failing failing) ?_ (fun _ => rfl) (by simp [Slot.empty])
      intro other
      split
      · next same =>
          have landed : counted resolution = 0 := by
            simp only [Progress.flight_building, Progress.flight_finished] at here
            omega
          rw [same, landed]
          rfl
      · next different => exact elsewhere other different

/-- No move takes a table out of its slot. -/
theorem Move.keeps_table {tables moved : Tables} {resolution other : UInt32}
    {before after : Progress} (move : Move tables resolution before after moved)
    (vacant : before.isBuilding = true → tables.table? resolution = none) {handle : Handle}
    (found : tables.table? other = some handle) : moved.table? other = some handle := by
  have different : tables.table? resolution = none → other ≠ resolution := by
    intro none same
    rw [same, none] at found
    cases found
  cases move with
  | locate => rwa [table?_locate]
  | hit | miss | share | wait | stay => exact found
  | start empty => rwa [table?_eq, slot_begin, if_neg (different empty)]
  | succeed healthy =>
      rwa [table?_eq, slot_complete_of_not_failing healthy, if_neg (different (vacant rfl))]
  | fail failing =>
      rwa [table?_eq, slot_complete_of_failing failing, if_neg (different (vacant rfl))]

/-- A call that ends well leaves its table in the slot. -/
theorem Move.table_of_ok {tables moved : Tables} {resolution : UInt32} {before : Progress}
    {handle : Handle}
    (move : Move tables resolution before (.finished (.ok handle)) moved)
    (unfinished : before ≠ .finished (.ok handle)) : moved.table? resolution = some handle := by
  cases move with
  | hit found | share found => exact found
  | succeed healthy => rw [table?_eq, slot_complete_of_not_failing healthy, if_pos rfl]
  | stay => exact absurd rfl unfinished

end Tables

end SeriesQuery.Table
