import SeriesQuery.Proofs.Table.Balance

set_option autoImplicit false

/-!
# Constructions that are given up

What a cache publishes of its constructions are its loaded tables and its failures, whatever calls do.
This stays so when the calls under way are given up: a construction that nobody waits for any longer
never ends, and its slot is free for another.
-/

namespace SeriesQuery.Table

namespace Tables

/-- Gives up all constructions in flight. -/
def release (tables : Tables) : Tables :=
  { tables with
    slots := tables.slots.map fun (resolution, slot) =>
      (resolution, { slot with building := false }) }

/-- A cache fits the constructions in flight and publishes of those that have ended as many as are
loaded and as many as have failed. -/
structure Booked (tables : Tables) (inFlight : UInt32 → Nat) : Prop where
  consistent : tables.Consistent inFlight
  ok : tables.loads.ok = tables.loadedCount
  failed : tables.loads.failed = tables.failures

theorem booked_empty (slow : Bool) : (empty slow).Booked fun _ => 0 :=
  ⟨consistent_empty slow, rfl, rfl⟩

theorem slot_release (tables : Tables) (resolution : UInt32) :
    tables.release.slot resolution = { tables.slot resolution with building := false } := by
  rw [slot, slot, release]
  induction tables.slots with
  | nil => rfl
  | cons entry rest ih =>
      obtain ⟨key, slot⟩ := entry
      rw [List.map_cons, List.lookup_cons, List.lookup_cons]
      cases resolution == key with
      | true => rfl
      | false => exact ih

theorem loadedCount_release (tables : Tables) : tables.release.loadedCount = tables.loadedCount := by
  rw [loadedCount, loadedCount, release, List.filter_map, List.length_map]
  rfl

variable {tables moved : Tables} {resolution : UInt32} {before after : Progress}
  {inFlight counted : UInt32 → Nat}

theorem Move.booked (move : Move tables resolution before after moved)
    (booked : tables.Booked inFlight)
    (vacant : before.isBuilding = true → tables.table? resolution = none)
    (count : ∀ other, counted other + (if other = resolution then before.flight else 0) =
      inFlight other + (if other = resolution then after.flight else 0)) :
    moved.Booked counted where
  consistent := move.consistent booked.consistent count
  ok := by
    have added := move.loaded_add vacant
    have loaded := booked.ok
    omega
  failed := by
    have added := move.failed_add
    have published := booked.failed
    omega

theorem Booked.release (booked : tables.Booked inFlight) : tables.release.Booked fun _ => 0 where
  consistent := by
    constructor
    · intro resolution
      rw [slot_release]
      rfl
    · intro resolution building
      rw [slot_release] at building
      cases building
    · intro resolution handle found
      rw [table?_eq, slot_release] at found
      exact booked.consistent.own resolution handle found
  ok := booked.ok.trans (loadedCount_release tables).symm
  failed := booked.failed

end Tables

namespace Traffic

variable {traffic : Traffic} {more : UInt32 → Nat}

/-- What is booked stays booked, whatever happens among calls, with more constructions than theirs in
flight. -/
theorem booked_step (booked : traffic.tables.Booked fun resolution =>
      more resolution + flights traffic.calls resolution) (event : Event) :
    (traffic.step event).tables.Booked fun resolution =>
      more resolution + flights (traffic.step event).calls resolution := by
  cases event with
  | fail resolution | heal resolution =>
      exact ⟨booked.consistent.congr fun _ => rfl, booked.ok, booked.failed⟩
  | arrive resolution =>
      have same : flights (traffic.calls ++ [⟨resolution, .arrived⟩]) = flights traffic.calls := by
        funext other
        simp [flights, Progress.isBuilding]
      simp only [step, same]
      exact booked
  | advance place =>
      cases found : traffic.calls[place]? with
      | none => rwa [step_advance_none found]
      | some call =>
          obtain ⟨progress, tables, move, stepped⟩ := step_advance found
          have vacant (building : call.progress.isBuilding = true) :
              traffic.tables.table? call.resolution = none := by
            refine booked.consistent.empty_of_pos (Nat.add_pos_right _ ?_)
            refine List.countP_pos_iff.mpr ⟨call, List.mem_of_getElem? found, ?_⟩
            simp [building]
          rw [stepped]
          refine move.booked booked vacant fun other => ?_
          have counted := flights_set found progress other
          dsimp only
          omega

theorem booked_run (booked : traffic.tables.Booked (flights traffic.calls)) (events : List Event) :
    (traffic.run events).tables.Booked (flights (traffic.run events).calls) := by
  induction events generalizing traffic with
  | nil => exact booked
  | cons event events ih =>
      refine ih ?_
      have alone : traffic.tables.Booked fun resolution =>
          0 + flights traffic.calls resolution := by simpa only [Nat.zero_add] using booked
      simpa only [Nat.zero_add] using booked_step alone event

end Traffic

theorem Tables.Booked.get {tables : Tables} (booked : tables.Booked fun _ => 0)
    (resolution : UInt32) : (tables.get resolution).2.Booked fun _ => 0 := by
  have sound : Traffic.Sound ⟨tables, []⟩ := ⟨booked.consistent, by simp⟩
  have alone := Traffic.run_alone sound (show flights [] resolution = 0 from rfl)
  have idle : (Traffic.mk tables []).tables.Booked (flights (Traffic.mk tables []).calls) := booked
  have ran := Traffic.booked_run idle (.arrive resolution :: List.replicate 4 (.advance 0))
  have landed : flights [⟨resolution, .finished (tables.get resolution).1⟩] = fun _ => 0 := by
    funext other
    simp [flights, Progress.isBuilding]
  rw [List.length_nil] at alone
  rw [alone] at ran
  exact landed ▸ ran

end SeriesQuery.Table
