import Mathlib.Data.List.Perm.Basic
import Mathlib.Tactic.MkIffOfInductiveProp
import SeriesQuery.Proofs.Table.Reachable

set_option autoImplicit false

/-!
# What calls tell of a cache

The statistics of a reachable cache are told by the calls that were made on it. There were as many
lookups as calls have looked and as many failures as calls have failed, what was started to be
constructed is in flight or has been counted as loaded, and a table is loaded once a call for it has
succeeded. Neither the order of the calls nor which construction served which call matters.
-/

namespace SeriesQuery.Table

namespace Progress

def hasLooked : Progress → Bool
  | .arrived | .located => false
  | .waiting | .building _ | .finished _ => true

def hasFailed : Progress → Bool
  | .finished (.error _) => true
  | .finished (.ok _) | .arrived | .located | .waiting | .building _ => false

def hasSucceeded : Progress → Bool
  | .finished (.ok _) => true
  | .finished (.error _) | .arrived | .located | .waiting | .building _ => false

/-- How far a call has come, whichever construction serves it. -/
def standing : Progress → Progress
  | .building _ => .building 0
  | .finished outcome => .finished (outcome.map fun handle => ⟨handle.resolution, 0⟩)
  | .arrived => .arrived
  | .located => .located
  | .waiting => .waiting

variable (progress : Progress)

@[simp] theorem hasLooked_standing : progress.standing.hasLooked = progress.hasLooked := by
  cases progress <;> rfl

@[simp] theorem isBuilding_standing : progress.standing.isBuilding = progress.isBuilding := by
  cases progress <;> rfl

@[simp] theorem hasFailed_standing : progress.standing.hasFailed = progress.hasFailed := by
  rcases progress with _ | _ | _ | _ | _ | _ <;> rfl

@[simp] theorem hasSucceeded_standing :
    progress.standing.hasSucceeded = progress.hasSucceeded := by
  rcases progress with _ | _ | _ | _ | _ | _ <;> rfl

end Progress

def Call.standing (call : Call) : Call :=
  { call with progress := call.progress.standing }

namespace Tables

/-! ## Loaded tables -/

def lookups (tables : Tables) : Nat :=
  tables.hits + tables.misses

/-- No resolution has two slots. -/
def Distinct (tables : Tables) : Prop :=
  (tables.slots.map (·.1)).Nodup

theorem keys_putSlot (resolution : UInt32) (slot : Slot) (slots : List (UInt32 × Slot)) :
    (putSlot resolution slot slots).map (·.1) =
      if resolution ∈ slots.map (·.1) then slots.map (·.1) else slots.map (·.1) ++ [resolution] := by
  induction slots with
  | nil => rfl
  | cons entry rest ih =>
      obtain ⟨key, old⟩ := entry
      by_cases here : key = resolution
      · simp [putSlot, here]
      · have elsewhere : resolution ≠ key := fun same => here same.symm
        simp only [putSlot, if_neg here, List.map_cons, ih, List.mem_cons, elsewhere, false_or]
        split <;> rfl

theorem nodup_putSlot {slots : List (UInt32 × Slot)} (distinct : (slots.map (·.1)).Nodup)
    (resolution : UInt32) (slot : Slot) : ((putSlot resolution slot slots).map (·.1)).Nodup := by
  rw [keys_putSlot]
  split
  · exact distinct
  · next missing =>
      refine List.nodup_append.mpr ⟨distinct, by simp, ?_⟩
      intro key member other single same
      exact missing (List.mem_singleton.mp single ▸ same ▸ member)

/-- When a slot is replaced, it makes way among the filled ones for the new one. -/
theorem countP_putSlot (counts : Slot → Bool) (unasked : counts .empty = false)
    (resolution : UInt32) (slot : Slot) (slots : List (UInt32 × Slot)) :
    (putSlot resolution slot slots).countP (fun entry => counts entry.2) +
        (if counts ((slots.lookup resolution).getD .empty) then 1 else 0) =
      slots.countP (fun entry => counts entry.2) + (if counts slot then 1 else 0) := by
  induction slots with
  | nil => simp [putSlot, unasked, List.countP_cons]
  | cons entry rest ih =>
      obtain ⟨key, old⟩ := entry
      by_cases here : key = resolution
      · simp only [putSlot, here, ↓reduceIte, List.countP_cons, List.lookup_cons_self,
          Option.getD_some]
        omega
      · have elsewhere : (resolution == key) = false :=
          beq_eq_false_iff_ne.mpr fun same => here same.symm
        simp only [putSlot, if_neg here, List.countP_cons, List.lookup_cons, elsewhere]
        omega

theorem loadedCount_putSlot {tables moved : Tables} {resolution : UInt32} {slot : Slot}
    (put : moved.slots = putSlot resolution slot tables.slots) :
    moved.loadedCount + (if tables.isLoaded resolution then 1 else 0) =
      tables.loadedCount + (if slot.table.isSome then 1 else 0) := by
  have replaced := countP_putSlot (·.table.isSome) rfl resolution slot tables.slots
  rw [loadedCount, loadedCount, ← List.countP_eq_length_filter, ← List.countP_eq_length_filter, put]
  exact replaced

def loadedKeys (tables : Tables) : List UInt32 :=
  (tables.slots.filter (·.2.table.isSome)).map (·.1)

theorem mem_loadedKeys {tables : Tables} (distinct : tables.Distinct) (resolution : UInt32) :
    resolution ∈ tables.loadedKeys ↔ tables.isLoaded resolution = true := by
  rw [loadedKeys, isLoaded, table?, slot]
  rw [Distinct] at distinct
  generalize tables.slots = slots at distinct
  induction slots with
  | nil => simp [Slot.empty]
  | cons entry rest ih =>
      obtain ⟨key, slot⟩ := entry
      obtain ⟨fresh, distinct⟩ := List.nodup_cons.mp distinct
      have below := ih distinct
      by_cases here : resolution = key
      · subst here
        have absent : resolution ∉ (rest.filter (·.2.table.isSome)).map (·.1) := by
          intro member
          obtain ⟨entry, kept, same⟩ := List.mem_map.mp member
          exact fresh (List.mem_map.mpr ⟨entry, List.mem_of_mem_filter kept, same⟩)
        rw [List.lookup_cons_self, Option.getD_some, List.filter_cons]
        split <;> simp_all
      · rw [List.lookup_cons, beq_eq_false_iff_ne.mpr here, ← below, List.filter_cons]
        split
        · simp [here]
        · rfl

/-- How many tables are loaded is told by which ones are. -/
theorem loadedCount_congr {tables others : Tables} (distinct : tables.Distinct)
    (alsoDistinct : others.Distinct)
    (same : ∀ resolution, tables.isLoaded resolution = others.isLoaded resolution) :
    tables.loadedCount = others.loadedCount := by
  have count (tables : Tables) : tables.loadedCount = tables.loadedKeys.length :=
    (List.length_map _).symm
  have nodup {tables : Tables} (distinct : tables.Distinct) : tables.loadedKeys.Nodup :=
    distinct.sublist (List.filter_sublist.map _)
  rw [count, count]
  refine ((List.perm_ext_iff_of_nodup (nodup distinct) (nodup alsoDistinct)).mpr ?_).length_eq
  intro resolution
  rw [mem_loadedKeys distinct, mem_loadedKeys alsoDistinct, same]

/-! ## One move -/

variable {tables moved : Tables} {resolution : UInt32} {before after : Progress}

theorem Move.distinct (move : Move tables resolution before after moved)
    (distinct : tables.Distinct) : moved.Distinct := by
  cases move with
  | hit | miss | share | wait | stay => exact distinct
  | locate | start => exact nodup_putSlot distinct _ _
  | succeed | fail =>
      rw [complete]
      split <;> exact nodup_putSlot distinct _ _

theorem Move.lookups_add (move : Move tables resolution before after moved) :
    moved.lookups + (if before.hasLooked then 1 else 0) =
      tables.lookups + (if after.hasLooked then 1 else 0) := by
  cases move with
  | locate | share | wait | start | stay => rfl
  | hit | miss =>
      simp only [lookups, Progress.hasLooked]
      grind
  | succeed | fail =>
      simp only [lookups, complete]
      split <;> rfl

theorem Move.failures_add (move : Move tables resolution before after moved) :
    moved.failures + (if before.hasFailed then 1 else 0) =
      tables.failures + (if after.hasFailed then 1 else 0) := by
  cases move with
  | locate | hit | miss | share | wait | start | stay => rfl
  | succeed healthy =>
      rw [complete, if_neg (mt List.contains_iff_mem.mp healthy)]
      rfl
  | fail failing =>
      rw [complete, if_pos (List.contains_iff_mem.mpr failing)]
      rfl

/-- What a construction adds, it adds when it is started or when it ends. -/
theorem Move.builds_add (move : Move tables resolution before after moved) :
    moved.builds + tables.loads.total + (if before.isBuilding then 1 else 0) =
      tables.builds + moved.loads.total + (if after.isBuilding then 1 else 0) := by
  cases move with
  | locate | hit | miss | share | wait | stay => rfl
  | start =>
      simp only [begin, Progress.isBuilding]
      grind
  | succeed | fail =>
      simp only [complete, Progress.isBuilding]
      split <;> simp only [Tally.total_count] <;> grind

/-- A failure is published as it is counted. -/
theorem Move.failed_add (move : Move tables resolution before after moved) :
    moved.loads.failed + tables.failures = tables.loads.failed + moved.failures := by
  cases move with
  | locate | hit | miss | share | wait | start | stay => rfl
  | succeed | fail =>
      rw [complete]
      split <;> simp only [Tally.count] <;> grind

/-- A load that went well fills an empty slot. -/
theorem loaded_add_of_putSlot {slot : Slot}
    (put : moved.slots = putSlot resolution slot tables.slots)
    (vacant : tables.table? resolution = none)
    (counted : moved.loads.ok = tables.loads.ok + if slot.table.isSome then 1 else 0) :
    moved.loads.ok + tables.loadedCount = tables.loads.ok + moved.loadedCount := by
  have replaced := loadedCount_putSlot put
  simp only [isLoaded, vacant, Option.isSome_none, Bool.false_eq_true, ↓reduceIte] at replaced
  omega

theorem Move.loaded_add (move : Move tables resolution before after moved)
    (vacant : before.isBuilding = true → tables.table? resolution = none) :
    moved.loads.ok + tables.loadedCount = tables.loads.ok + moved.loadedCount := by
  cases move with
  | hit | miss | share | wait | stay => rfl
  | locate =>
      have same : (tables.locate resolution).loadedCount + _ = tables.loadedCount + _ :=
        loadedCount_putSlot rfl
      exact congrArg _ (Nat.add_right_cancel same).symm
  | start empty => exact loaded_add_of_putSlot rfl empty rfl
  | succeed healthy =>
      rw [complete, if_neg (mt List.contains_iff_mem.mp healthy)]
      exact loaded_add_of_putSlot rfl (vacant rfl) rfl
  | fail failing =>
      rw [complete, if_pos (List.contains_iff_mem.mpr failing)]
      exact loaded_add_of_putSlot rfl (vacant rfl) rfl

/-- A move loads a table if its call succeeds by it. -/
theorem Move.isLoaded_iff (move : Move tables resolution before after moved)
    (vacant : before.isBuilding = true → tables.table? resolution = none) (other : UInt32) :
    moved.isLoaded other = true ↔ tables.isLoaded other = true ∨
      other = resolution ∧ after.hasSucceeded = true ∧ before.hasSucceeded = false := by
  -- Most moves load nothing, and a call that succeeds by one of them finds its table loaded.
  have unchanged (same : moved.isLoaded other = tables.isLoaded other)
      (found : after.hasSucceeded = true → before.hasSucceeded = false →
        tables.isLoaded resolution = true) :
      moved.isLoaded other = true ↔ tables.isLoaded other = true ∨
        other = resolution ∧ after.hasSucceeded = true ∧ before.hasSucceeded = false := by
    rw [same]
    refine (or_iff_left_of_imp ?_).symm
    rintro ⟨rfl, now, earlier⟩
    exact found now earlier
  cases move with
  | miss | wait => exact unchanged rfl nofun
  | stay => exact unchanged rfl (fun now earlier => by rw [now] at earlier; cases earlier)
  | locate => exact unchanged (by rw [isLoaded, table?_locate]; rfl) nofun
  | hit found | share found => exact unchanged rfl fun _ _ => by rw [isLoaded, found]; rfl
  | start empty =>
      refine unchanged ?_ nofun
      rw [isLoaded, isLoaded, table?_eq, slot_begin]
      split
      · next same => rw [same, empty]
      · rfl
  | succeed healthy =>
      rw [isLoaded, isLoaded, table?_eq, slot_complete_of_not_failing healthy]
      split
      · next same => simp [same, Progress.hasSucceeded]
      · next different => simp [different, table?_eq]
  | fail failing =>
      refine unchanged ?_ nofun
      rw [isLoaded, isLoaded, table?_eq, slot_complete_of_failing failing]
      split
      · next same =>
          rw [same, vacant rfl]
          rfl
      · rfl

theorem Move.hasSucceeded (move : Move tables resolution before after moved)
    (succeeded : before.hasSucceeded = true) : after.hasSucceeded = true := by
  cases move with
  | stay => exact succeeded
  | locate | hit | miss | share | wait | start | succeed | fail => cases succeeded

/-- The statistics of two caches are the same, but for how many of the lookups were hits, and the same
tables are loaded. -/
structure SameStatistics (tables others : Tables) : Prop where
  lookups : tables.lookups = others.lookups
  failures : tables.failures = others.failures
  builds : tables.builds = others.builds
  loads : tables.loads = others.loads
  loaded : ∀ resolution, tables.isLoaded resolution = others.isLoaded resolution
  loadedCount : tables.loadedCount = others.loadedCount

end Tables

/-! ## All calls -/

namespace Traffic

/-- What the calls that were made on a cache tell of it. -/
@[mk_iff] structure Balanced (tables : Tables) (calls : List Call) : Prop where
  distinct : tables.Distinct
  lookups : tables.lookups = calls.countP (·.progress.hasLooked)
  failures : tables.failures = calls.countP (·.progress.hasFailed)
  builds : tables.builds = tables.loads.total + calls.countP (·.progress.isBuilding)
  failed : tables.loads.failed = tables.failures
  ok : tables.loads.ok = tables.loadedCount
  loaded : ∀ resolution, tables.isLoaded resolution = true ↔
    ∃ call ∈ calls, call.resolution = resolution ∧ call.progress.hasSucceeded = true

variable {tables moved : Tables} {calls others : List Call}

theorem balanced_empty (slow : Bool) : Balanced (.empty slow) [] where
  distinct := List.nodup_nil
  lookups := rfl
  failures := rfl
  builds := rfl
  failed := rfl
  ok := rfl
  loaded resolution := by simp [Tables.isLoaded, Tables.table?, Tables.slot, Tables.empty, Slot.empty]

theorem Balanced.perm (balanced : Balanced tables calls) (same : calls.Perm others) :
    Balanced tables others where
  distinct := balanced.distinct
  lookups := balanced.lookups.trans (same.countP_eq _)
  failures := balanced.failures.trans (same.countP_eq _)
  builds := balanced.builds.trans (congrArg _ (same.countP_eq _))
  failed := balanced.failed
  ok := balanced.ok
  loaded resolution := by simp only [balanced.loaded, same.mem_iff]

theorem balanced_standing_iff :
    Balanced tables (calls.map Call.standing) ↔ Balanced tables calls := by
  simp [balanced_iff, List.countP_map, Function.comp_def, Call.standing]

theorem Balanced.arrive (balanced : Balanced tables calls) (resolution : UInt32) :
    Balanced tables (⟨resolution, .arrived⟩ :: calls) where
  distinct := balanced.distinct
  lookups := balanced.lookups
  failures := balanced.failures
  builds := balanced.builds
  failed := balanced.failed
  ok := balanced.ok
  loaded resolution := by
    simp [balanced.loaded, Progress.hasSucceeded]

theorem Balanced.move {resolution : UInt32} {before after : Progress}
    (balanced : Balanced tables (⟨resolution, before⟩ :: calls))
    (move : Tables.Move tables resolution before after moved)
    (vacant : before.isBuilding = true → tables.table? resolution = none) :
    Balanced moved (⟨resolution, after⟩ :: calls) := by
  have looked := balanced.lookups
  have failed := balanced.failures
  have built := balanced.builds
  simp only [List.countP_cons] at looked failed built
  constructor
  · exact move.distinct balanced.distinct
  · have added := move.lookups_add
    simp only [List.countP_cons]
    omega
  · have added := move.failures_add
    simp only [List.countP_cons]
    omega
  · have added := move.builds_add
    simp only [List.countP_cons]
    omega
  · have added := move.failed_add
    have published := balanced.failed
    omega
  · have added := move.loaded_add vacant
    have loaded := balanced.ok
    omega
  · intro other
    rw [move.isLoaded_iff vacant, balanced.loaded]
    have kept := move.hasSucceeded
    simp only [List.mem_cons, exists_eq_or_imp]
    grind

theorem Balanced.congr (balanced : Balanced tables calls)
    (same : (calls.map Call.standing).Perm (others.map Call.standing)) : Balanced tables others :=
  balanced_standing_iff.mp ((balanced_standing_iff.mpr balanced).perm same)

/-- Events leave calls that they have nothing to do with as they are. -/
theorem Balanced.step {traffic : Traffic} (balanced : Balanced traffic.tables (calls ++ traffic.calls))
    (vacant : ∀ call ∈ traffic.calls, call.progress.isBuilding = true →
      traffic.tables.table? call.resolution = none) (event : Event) :
    Balanced (traffic.step event).tables (calls ++ (traffic.step event).calls) := by
  cases event with
  | fail resolution | heal resolution => exact { balanced with }
  | arrive resolution =>
      refine (balanced.arrive resolution).perm ?_
      exact List.perm_middle.symm.trans ((List.perm_append_singleton _ _).symm.append_left calls)
  | advance place =>
      cases found : traffic.calls[place]? with
      | none => rwa [step_advance_none found]
      | some call =>
          obtain ⟨progress, tables, move, stepped⟩ := step_advance found
          obtain ⟨inside, rfl⟩ := List.getElem?_eq_some_iff.mp found
          rw [stepped]
          have first := (List.getElem_cons_eraseIdx_perm inside).symm.append_left calls
          have moved := (balanced.perm (first.trans List.perm_middle)).move move
            (vacant _ (List.getElem_mem inside))
          refine moved.perm (List.perm_middle.symm.trans ?_)
          exact (List.set_perm_cons_eraseIdx inside _).symm.append_left calls

theorem Reachable.balanced {traffic : Traffic} (reached : Reachable traffic) :
    Balanced traffic.tables traffic.calls := by
  induction reached with
  | idle slow => exact balanced_empty slow
  | step reached event ih =>
      have framed : Balanced _ ([] ++ _) := ih
      exact framed.step (fun _ member => reached.sound.vacant member) event

/-- Caches on which calls have come equally far have the same statistics. -/
theorem Balanced.sameStatistics {one other : Tables} (balanced : Balanced one calls)
    (alike : Balanced other others)
    (same : (calls.map Call.standing).Perm (others.map Call.standing)) :
    Tables.SameStatistics one other := by
  have also := alike.congr same.symm
  have loaded (resolution : UInt32) : one.isLoaded resolution = other.isLoaded resolution :=
    Bool.eq_iff_iff.mpr ((balanced.loaded resolution).trans (also.loaded resolution).symm)
  have count := Tables.loadedCount_congr balanced.distinct also.distinct loaded
  have failures : one.failures = other.failures := balanced.failures.trans also.failures.symm
  have loads : one.loads = other.loads := by
    have ok : one.loads.ok = other.loads.ok := by rw [balanced.ok, also.ok, count]
    have failed : one.loads.failed = other.loads.failed := by
      rw [balanced.failed, also.failed, failures]
    exact congrArg₂ Tally.mk ok failed
  exact ⟨balanced.lookups.trans also.lookups.symm, failures,
    by rw [balanced.builds, also.builds, loads], loads, loaded, count⟩

end Traffic

end SeriesQuery.Table
