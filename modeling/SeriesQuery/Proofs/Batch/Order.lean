import SeriesQuery.Proofs.Batch.Item
import SeriesQuery.Proofs.Table.Reachable

set_option autoImplicit false

/-!
# Batches keep their order

In every state of a batch the items that are settled, those under way and those to come are its URIs
in order, every outcome is what its item gets, and the tables fit the constructions that the items
and others have in flight.
-/

namespace SeriesQuery.Table

/-- An event that does not change which constructions fail. -/
def Event.Calm : Event → Prop
  | .arrive _ | .advance _ => True
  | .fail _ | .heal _ => False

/-- There is at most one construction in flight for a resolution, and the next step of its call ends
it. -/
theorem Traffic.Sound.exists_quiet {traffic : Traffic} (sound : traffic.Sound) (resolution : UInt32) :
    ∃ events : List Event, (∀ event ∈ events, event.Calm) ∧
      flights (traffic.run events).calls resolution = 0 := by
  rcases Nat.eq_zero_or_pos (flights traffic.calls resolution) with none | some
  · exact ⟨[], by simp, none⟩
  · obtain ⟨⟨other, progress⟩, member, counted⟩ := List.countP_pos_iff.mp some
    obtain ⟨rfl, building⟩ : other = resolution ∧ progress.isBuilding = true := by
      simpa using counted
    obtain ⟨place, found⟩ := List.mem_iff_getElem?.mp member
    cases progress with
    | arrived | located | waiting | finished => cases building
    | building build =>
        have single := sound.consistent.le_one other
        have moved := flights_set found
          (.finished (traffic.tables.complete other build).1) other
        simp only [↓reduceIte, Progress.flight_building, Progress.flight_finished] at moved
        refine ⟨[.advance place], by simp [Event.Calm], ?_⟩
        simp only [Traffic.run, List.foldl_cons, List.foldl_nil, Traffic.step, found, Tables.advance]
        omega

end SeriesQuery.Table

namespace SeriesQuery.Batch.Run

open SeriesQuery.Query SeriesQuery.Table

/-- The constructions that the items under way and the calls of others have in flight. -/
def inFlight (run : Run) (others : List Call) (resolution : UInt32) : Nat :=
  (if resolution = run.engine.resolution then run.window.countP (·.stage.isBuilding) else 0) +
    flights others resolution

/-- What holds in every state of a batch. -/
structure Sound (around : Surroundings) (uris : List String)
    (verdict : Except StorageError UInt32) (others : List Call) (run : Run) : Prop where
  order : run.settled.reverse.map (·.1) ++ run.window.map (·.uri) ++ run.pending = uris
  settled : ∀ entry ∈ run.settled, entry.2 = answerTo around verdict entry.1
  window : ∀ item ∈ run.window, item.stage.Fits around verdict item.uri
  verdict : run.engine.tables.verdict run.engine.resolution = verdict
  consistent : run.engine.tables.Consistent (run.inFlight others)
  /-- Under the policy that lets an error end the batch, only the last settled item has one. -/
  aborted : around.policy = .abort → ∀ entry ∈ run.settled.tail, entry.2.isOk = true

variable {around : Surroundings} {uris : List String} {verdict : Except StorageError UInt32}
  {others : List Call} {run : Run}

theorem Sound.vacant (sound : run.Sound around uris verdict others) {item : Item}
    (member : item ∈ run.window) (building : item.stage.isBuilding = true) :
    run.engine.tables.table? run.engine.resolution = none := by
  refine sound.consistent.empty_of_pos ?_
  have counted : 0 < run.window.countP (·.stage.isBuilding) :=
    List.countP_pos_iff.mpr ⟨item, member, building⟩
  simp only [inFlight, ↓reduceIte]
  omega

theorem Sound.vacant_others (sound : run.Sound around uris verdict others) {call : Call}
    (member : call ∈ others) (building : call.progress.isBuilding = true) :
    run.engine.tables.table? call.resolution = none := by
  refine sound.consistent.empty_of_pos (Nat.add_pos_right _ ?_)
  refine List.countP_pos_iff.mpr ⟨call, member, ?_⟩
  simp [building]

theorem Sound.move (sound : run.Sound around uris verdict others) {place : Nat} {item : Item}
    (found : run.window[place]? = some item) {stage : Stage} {engine : Engine}
    (move : Stage.Move around item.uri run.engine item.stage stage engine) :
    Sound around uris verdict others
      { run with window := run.window.set place { item with stage }, engine } := by
  have member := List.mem_of_getElem? found
  have vacant := sound.vacant member
  obtain ⟨resolution, earlier, later, tablesMove, earlierFlight, laterFlight⟩ := move.tables_move
  rw [← earlierFlight] at vacant
  refine ⟨?_, sound.settled, ?_, ?_, ?_, sound.aborted⟩
  · obtain ⟨inside, rfl⟩ := List.getElem?_eq_some_iff.mp found
    have same : (run.window.set place { run.window[place] with stage }).map (·.uri) =
        run.window.map (·.uri) := by
      have unset := List.set_getElem_self
        (show place < (run.window.map (·.uri)).length by simpa using inside)
      rw [List.getElem_map] at unset
      rw [List.map_set]
      exact unset
    rw [same]
    exact sound.order
  · intro other inside
    rcases List.mem_or_eq_of_mem_set inside with old | rfl
    · exact sound.window other old
    · have fits := sound.window item member
      rw [← sound.verdict] at fits ⊢
      exact move.fits sound.consistent (sound.vacant member) fits
  · rw [← sound.verdict, resolution]
    exact tablesMove.verdict_eq vacant _
  · refine tablesMove.consistent sound.consistent fun other => ?_
    have counted := countP_set_add found (·.stage.isBuilding) { item with stage }
    simp only at counted
    simp only [inFlight, resolution, Progress.flight, earlierFlight, laterFlight]
    split
    · omega
    · omega

/-- As long as no error has ended a batch that one would end, all settled items have succeeded. -/
theorem Sound.succeeded (sound : run.Sound around uris verdict others)
    (policy : around.policy = .abort) (running : isAborted around.policy run.settled = false) :
    ∀ entry ∈ run.settled, entry.2.isOk = true := by
  have earlierOk := sound.aborted policy
  intro entry member
  rcases settled : run.settled with _ | ⟨⟨uri, last⟩, earlier⟩
  · rw [settled] at member
    cases member
  · rw [settled] at member earlierOk
    rcases List.mem_cons.mp member with rfl | old
    · cases last with
      | ok answer => rfl
      | error error => simp [isAborted, policy, settled] at running
    · exact earlierOk entry old

theorem Sound.settle_one {settled : List (String × Except Error Answer)} {item : Item}
    {rest : List Item} {pending : List String} {engine : Engine} {outcome : Except Error Answer}
    (sound : Sound around uris verdict others ⟨settled, item :: rest, pending, engine⟩)
    (running : isAborted around.policy settled = false) (ended : item.stage = .done outcome) :
    Sound around uris verdict others ⟨(item.uri, outcome) :: settled, rest, pending, engine⟩ := by
  have fits := sound.window item (by simp)
  rw [ended] at fits
  refine ⟨?_, ?_, fun other inside => sound.window other (by simp [inside]), sound.verdict, ?_, ?_⟩
  · simpa using sound.order
  · intro entry member
    rcases List.mem_cons.mp member with rfl | old
    · exact fits
    · exact sound.settled entry old
  · have same : inFlight ⟨(item.uri, outcome) :: settled, rest, pending, engine⟩ others =
        inFlight ⟨settled, item :: rest, pending, engine⟩ others := by
      funext other
      simp [inFlight, ended, Stage.isBuilding]
    rw [same]
    exact sound.consistent
  · intro policy
    exact sound.succeeded policy running

theorem Sound.settle {settled : List (String × Except Error Answer)} {window : List Item}
    {pending : List String} {engine : Engine}
    (sound : Sound around uris verdict others ⟨settled, window, pending, engine⟩) :
    Sound around uris verdict others ⟨(settle around.policy settled window).1,
      (Run.settle around.policy settled window).2, pending, engine⟩ := by
  fun_induction Run.settle around.policy settled window with
  | case1 => exact sound
  | case2 settled item rest outcome ended running ih => exact ih (sound.settle_one running ended)
  | case3 => exact sound

theorem Sound.refill (sound : run.Sound around uris verdict others) (width : Nat) :
    (run.refill width).Sound around uris verdict others := by
  have entered {count : Nat} {item : Item}
      (member : item ∈ (run.pending.take count).map fun uri => ⟨uri, .queued⟩) :
      item.stage = .queued := by
    obtain ⟨uri, _, rfl⟩ := List.mem_map.mp member
    rfl
  refine ⟨?_, sound.settled, ?_, sound.verdict, ?_, sound.aborted⟩
  · simp only [Run.refill, List.map_append, List.map_map, List.append_assoc]
    have unchanged (count : Nat) :
        (run.pending.take count).map ((·.uri) ∘ fun uri => Item.mk uri .queued) =
          run.pending.take count := List.map_id _
    rw [unchanged, List.take_append_drop, ← List.append_assoc]
    exact sound.order
  · intro item member
    rcases List.mem_append.mp member with old | new
    · exact sound.window item old
    · rw [entered new]
      trivial
  · have same : (run.refill width).inFlight others = run.inFlight others := by
      funext other
      have none : ((run.pending.take (width - run.window.length)).map
          fun uri => Item.mk uri .queued).countP (·.stage.isBuilding) = 0 := by
        refine List.countP_eq_zero.mpr fun item member => ?_
        rw [entered member]
        simp [Stage.isBuilding]
      simp only [inFlight, Run.refill, List.countP_append, none, Nat.add_zero]
    rw [same]
    exact sound.consistent

theorem Sound.step (sound : run.Sound around uris verdict others) (width place : Nat) :
    (run.step around width place).Sound around uris verdict others := by
  unfold Run.step
  split
  · next item _ found =>
      have moved := sound.move found (Stage.advance_move around item.uri run.engine item.stage)
      exact moved.settle.refill width
  · exact sound

theorem sound_start {engine : Engine} (consistent : engine.tables.Consistent (flights others))
    (around : Surroundings) (width : Nat) (uris : List String) :
    (start width engine uris).Sound around uris (engine.tables.verdict engine.resolution) others := by
  have same : inFlight ⟨[], [], uris, engine⟩ others = flights others := by
    funext other
    simp [inFlight]
  have empty : Sound around uris (engine.tables.verdict engine.resolution) others
      ⟨[], [], uris, engine⟩ :=
    ⟨rfl, by simp, by simp, rfl, same ▸ consistent, by simp⟩
  exact empty.refill width

/-- An event among the calls of others keeps a batch sound, if it does not change which
constructions fail. -/
theorem Sound.outside (sound : run.Sound around uris verdict others) {event : Event}
    (calm : event.Calm) :
    Sound around uris verdict
      ((Traffic.mk run.engine.tables others).step event).calls
      { run with engine := { run.engine with
          tables := ((Traffic.mk run.engine.tables others).step event).tables } } := by
  cases event with
  | fail other | heal other => exact calm.elim
  | arrive resolution =>
      refine ⟨sound.order, sound.settled, sound.window, sound.verdict, ?_, sound.aborted⟩
      have same : run.inFlight (others ++ [⟨resolution, .arrived⟩]) = run.inFlight others := by
        funext other
        simp [inFlight, flights, Progress.isBuilding]
      exact same ▸ sound.consistent
  | advance place =>
      cases here : (Traffic.mk run.engine.tables others).calls[place]? with
      | none =>
          rw [Traffic.step_advance_none here]
          exact sound
      | some call =>
          obtain ⟨progress, tables, move, stepped⟩ := Traffic.step_advance here
          have vacant := sound.vacant_others (List.mem_of_getElem? here)
          rw [stepped]
          refine ⟨sound.order, sound.settled, sound.window, ?_, ?_, sound.aborted⟩
          · rw [← sound.verdict]
            exact move.verdict_eq vacant _
          · refine move.consistent sound.consistent fun other => ?_
            have moved := flights_set here progress other
            simp only [inFlight]
            simp only at moved
            omega

end SeriesQuery.Batch.Run
