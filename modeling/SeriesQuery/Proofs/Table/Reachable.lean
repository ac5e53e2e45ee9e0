import SeriesQuery.Proofs.Table.Consistency
import SeriesQuery.Table.Traffic

set_option autoImplicit false

/-!
# Reachable traffic on a cache

What holds in every state that calls, failures and repairs can lead to from an empty cache, in any
order of their steps: the cache is consistent with the constructions that the calls have in flight,
and every call that ended well holds the table that its slot holds.
-/

namespace SeriesQuery.Table

/-- The constructions that calls have in flight for a resolution. -/
def flights (calls : List Call) (resolution : UInt32) : Nat :=
  calls.countP fun call => call.resolution = resolution && call.progress.isBuilding

/-- When one entry of a list is replaced, it makes way in the count for the new one. -/
theorem countP_set_add {Entry : Type} {entries : List Entry} {place : Nat} {entry : Entry}
    (found : entries[place]? = some entry) (counts : Entry → Bool) (changed : Entry) :
    (entries.set place changed).countP counts + (if counts entry then 1 else 0) =
      entries.countP counts + (if counts changed then 1 else 0) := by
  obtain ⟨inside, rfl⟩ := List.getElem?_eq_some_iff.mp found
  have held := List.boole_getElem_le_countP (p := counts) inside
  rw [List.countP_set inside]
  omega

/-- When one call moves, its construction before the move makes way for that after it. -/
theorem flights_set {calls : List Call} {place : Nat} {call : Call}
    (found : calls[place]? = some call) (progress : Progress) (other : UInt32) :
    flights (calls.set place { call with progress }) other +
        (if other = call.resolution then call.progress.flight else 0) =
      flights calls other + (if other = call.resolution then progress.flight else 0) := by
  have counted := countP_set_add found
    (fun call : Call => call.resolution = other && call.progress.isBuilding) { call with progress }
  by_cases same : other = call.resolution
  · subst same
    simpa [flights, Progress.flight] using counted
  · have different : call.resolution ≠ other := fun equal => same equal.symm
    simpa [flights, same, different] using counted

namespace Traffic

/-- The states that any order of events leads to from an empty cache. -/
inductive Reachable : Traffic → Prop where
  | idle (slow : Bool) : Reachable ⟨.empty slow, []⟩
  | step {traffic : Traffic} (reached : Reachable traffic) (event : Event) :
      Reachable (traffic.step event)

theorem run_append (traffic : Traffic) (before after : List Event) :
    traffic.run (before ++ after) = (traffic.run before).run after :=
  List.foldl_append

theorem Reachable.run {traffic : Traffic} (reached : Reachable traffic) (events : List Event) :
    Reachable (traffic.run events) := by
  induction events generalizing traffic with
  | nil => exact reached
  | cons event events ih => exact ih (reached.step event)

/-- The step of a call that is there is a move of that call. -/
theorem step_advance {traffic : Traffic} {place : Nat} {call : Call}
    (found : traffic.calls[place]? = some call) :
    ∃ progress tables, Tables.Move traffic.tables call.resolution call.progress progress tables ∧
      traffic.step (.advance place) = ⟨tables, traffic.calls.set place { call with progress }⟩ :=
  ⟨_, _, Tables.advance_move traffic.tables call.resolution call.progress,
    by simp only [step, found]⟩

theorem step_advance_none {traffic : Traffic} {place : Nat}
    (missing : traffic.calls[place]? = none) : traffic.step (.advance place) = traffic := by
  simp only [step, missing]

/-- What holds in every reachable state. -/
structure Sound (traffic : Traffic) : Prop where
  /-- The cache fits the constructions in flight. -/
  consistent : traffic.tables.Consistent (flights traffic.calls)
  /-- A call that ended well holds the table of its slot. -/
  shared : ∀ call ∈ traffic.calls, ∀ handle, call.progress = .finished (.ok handle) →
    traffic.tables.table? call.resolution = some handle

theorem sound_idle (slow : Bool) : Sound ⟨.empty slow, []⟩ where
  consistent := Tables.consistent_empty slow
  shared _ member := by simp at member

theorem Sound.vacant {traffic : Traffic} (sound : traffic.Sound) {call : Call}
    (member : call ∈ traffic.calls) (building : call.progress.isBuilding = true) :
    traffic.tables.table? call.resolution = none := by
  refine sound.consistent.empty_of_pos (List.countP_pos_iff.mpr ⟨call, member, ?_⟩)
  simp [building]

theorem Sound.keeps_table {traffic : Traffic} (sound : traffic.Sound) (event : Event)
    {resolution : UInt32} {handle : Handle}
    (found : traffic.tables.table? resolution = some handle) :
    (traffic.step event).tables.table? resolution = some handle := by
  cases event with
  | arrive other | fail other | heal other => exact found
  | advance place =>
      cases here : traffic.calls[place]? with
      | none => rwa [step_advance_none here]
      | some call =>
          obtain ⟨progress, tables, move, stepped⟩ := step_advance here
          rw [stepped]
          exact move.keeps_table (sound.vacant (List.mem_of_getElem? here)) found

theorem step_sound {traffic : Traffic} (sound : traffic.Sound) (event : Event) :
    (traffic.step event).Sound := by
  have kept {resolution : UInt32} {handle : Handle}
      (found : traffic.tables.table? resolution = some handle) :
      (traffic.step event).tables.table? resolution = some handle :=
    sound.keeps_table event found
  cases event with
  | arrive resolution =>
      constructor
      · have same : flights (traffic.calls ++ [⟨resolution, .arrived⟩]) = flights traffic.calls := by
          funext other
          simp [flights, Progress.isBuilding]
        exact same ▸ sound.consistent
      · intro call member handle ended
        rcases List.mem_append.mp member with old | new
        · exact sound.shared call old handle ended
        · rw [List.mem_singleton.mp new] at ended
          cases ended
  | fail resolution | heal resolution =>
      exact ⟨sound.consistent.congr fun _ => rfl, sound.shared⟩
  | advance place =>
      cases here : traffic.calls[place]? with
      | none => rwa [step_advance_none here]
      | some mover =>
          obtain ⟨progress, tables, move, stepped⟩ := step_advance here
          rw [stepped] at kept ⊢
          refine ⟨move.consistent sound.consistent (flights_set here progress), ?_⟩
          intro call member handle ended
          rcases List.mem_or_eq_of_mem_set member with old | rfl
          · exact kept (sound.shared call old handle ended)
          · by_cases finished : mover.progress = .finished (.ok handle)
            · exact kept (sound.shared mover (List.mem_of_getElem? here) handle finished)
            · simp only at ended
              exact (ended ▸ move).table_of_ok finished

theorem Reachable.sound {traffic : Traffic} (reached : Reachable traffic) : traffic.Sound := by
  induction reached with
  | idle slow => exact sound_idle slow
  | step _ event ih => exact step_sound ih event

theorem Sound.run {traffic : Traffic} (sound : traffic.Sound) (events : List Event) :
    (traffic.run events).Sound := by
  induction events generalizing traffic with
  | nil => exact sound
  | cons event events ih => exact ih (step_sound sound event)

/-! ## Calls made alone -/

theorem step_last (tables : Tables) (calls : List Call) (resolution : UInt32)
    (progress : Progress) :
    (Traffic.mk tables (calls ++ [⟨resolution, progress⟩])).step (.advance calls.length) =
      ⟨(tables.advance resolution progress).2,
        calls ++ [⟨resolution, (tables.advance resolution progress).1⟩]⟩ := by
  simp [step]

/-- A call that is made while no construction for its resolution is in flight, and that nothing
comes between, takes four steps. -/
theorem run_alone {traffic : Traffic} (sound : traffic.Sound) {resolution : UInt32}
    (quiet : flights traffic.calls resolution = 0) :
    traffic.run (.arrive resolution :: List.replicate 4 (.advance traffic.calls.length)) =
      ⟨(traffic.tables.get resolution).2,
        traffic.calls ++ [⟨resolution, .finished (traffic.tables.get resolution).1⟩]⟩ := by
  obtain ⟨tables, calls⟩ := traffic
  have free : (tables.slot resolution).building = false := by
    have marked := sound.consistent.marked resolution
    cases building : (tables.slot resolution).building with
    | false => rfl
    | true => rw [building] at marked; simp [quiet] at marked
  simp only [run, List.replicate, List.foldl_cons, List.foldl_nil]
  rw [step, step_last, step_last, step_last, step_last]
  have again := tables.table?_locate resolution resolution
  cases found : tables.table? resolution with
  | some handle => simp only [Tables.advance, Tables.get, again, found]
  | none =>
      have vacant : ({ tables.locate resolution with
          misses := (tables.locate resolution).misses + 1 } : Tables).slot resolution =
          ⟨none, false⟩ := by
        rw [← free, ← found, Tables.table?_eq]
        exact tables.slot_locate resolution resolution
      simp only [Tables.advance, Tables.get, again, found, vacant]

end Traffic

end SeriesQuery.Table
