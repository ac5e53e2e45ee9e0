import SeriesQuery.Proofs.Batch.Traces
import SeriesQuery.Proofs.Engine.Published
import SeriesQuery.Proofs.Table.Released

set_option autoImplicit false

/-!
# The executions of a batch

An item whose URI can be read executes one query, and it does so with the step that gives it its
outcome; an item whose URI is refused executes none. So in every state of a batch the queries that were
counted are those of the items that are over.
-/

namespace SeriesQuery.Batch

open SeriesQuery.Query SeriesQuery.Table

namespace Stage

/-- The query that an item for a URI has executed by the time it is at a stage. -/
def execution? (around : Surroundings) (uri : String) : Stage → Option Execution
  | .queued | .fetching _ _ => none
  | .done outcome =>
    match around.reader.read around.now uri with
    | .error _ => none
    | .ok query => some (query.kind, outcome.isOk)

/-- An item asks for what its URI writes, and it fails if its URI writes nothing. -/
def Asks (around : Surroundings) (uri : String) : Stage → Prop
  | .queued => True
  | .fetching query _ =>
    around.reader.read around.now uri = .ok query ∧ query.kind = .timeSeries
  | .done outcome => ∀ refusal, around.reader.read around.now uri = .error refusal →
      outcome = .error (.ofRefusal uri refusal)

variable {around : Surroundings} {uri : String} {engine moved : Engine} {stage after : Stage}

theorem execution?_refused {refusal : Refusal}
    (refused : around.reader.read around.now uri = .error refusal) (stage : Stage) :
    stage.execution? around uri = none := by
  cases stage with
  | queued | fetching => rfl
  | done outcome => rw [execution?, refused]

theorem execution?_done {query : Descriptor} (read : around.reader.read around.now uri = .ok query)
    (outcome : Except Error Answer) :
    (done outcome).execution? around uri = some (query.kind, outcome.isOk) := by
  rw [execution?, read]

theorem Move.asks (move : Move around uri engine stage after moved)
    (asks : stage.Asks around uri) : after.Asks around uri := by
  cases move with
  | refuse refused =>
      intro refusal read
      rw [refused] at read
      cases read
      rfl
  | total read _ =>
      intro refusal refused
      rw [read] at refused
      cases refused
  | call read kind => exact ⟨read, kind⟩
  | fetch => exact asks
  | answer =>
      intro refusal refused
      rw [asks.1] at refused
      cases refused
  | stay => exact asks

/-- A step of an item counts the query that it executes with this step, and no other. -/
theorem advance_counters {past : List Execution} {batches : List (List String)}
    (asks : stage.Asks around uri)
    (counted : engine.counters = .tally (past ++ (stage.execution? around uri).toList) batches) :
    (stage.advance around uri engine).2.counters = .tally
      (past ++ ((stage.advance around uri engine).1.execution? around uri).toList) batches := by
  cases stage with
  | queued =>
      rw [execution?, Option.toList_none, List.append_nil] at counted
      simp only [advance]
      split
      · next refusal refused =>
          rw [execution?_refused refused, Option.toList_none, List.append_nil]
          exact counted
      · next query read =>
          split
          · next kind =>
              rw [Engine.answerTotal_eq, execution?_done read, Option.toList_some, kind,
                Counters.tally_concat, ← counted]
              rfl
          · rw [execution?, Option.toList_none, List.append_nil]
            exact counted
  | fetching query progress =>
      obtain ⟨read, kind⟩ := asks
      rw [execution?, Option.toList_none, List.append_nil] at counted
      rw [advance_fetching]
      generalize engine.tables.advance engine.resolution progress = advanced
      obtain ⟨after, tables⟩ := advanced
      cases after with
      | finished table =>
          dsimp only
          rw [Engine.answerSeries_eq, execution?_done read, Option.toList_some, kind,
            Counters.tally_concat, ← counted]
          rfl
      | arrived | located | waiting | building build =>
          rw [execution?, Option.toList_none, List.append_nil]
          exact counted
  | done outcome => exact counted

end Stage

/-! ## All items -/

namespace Run

/-- The queries that the items of a batch have executed. -/
def executions (around : Surroundings) (run : Run) : List Execution :=
  run.items.filterMap fun item => item.stage.execution? around item.uri

theorem countP_items (run : Run) :
    run.items.countP (·.stage.isBuilding) = run.window.countP (·.stage.isBuilding) := by
  simp [items, List.countP_append, List.countP_map, Function.comp_def, Stage.isBuilding]

end Run

namespace Shared

/-- What is counted in every state of a batch that starts after some queries were executed, with the
sizes of some batches counted, its own among them. -/
structure Counted (around : Surroundings) (uris : List String) (past : List Execution)
    (batches : List (List String)) (shared : Shared) : Prop where
  uris : (shared.run.items.map (·.uri)).Perm uris
  asks : ∀ item ∈ shared.run.items, item.stage.Asks around item.uri
  counters : shared.run.engine.counters =
    .tally (past ++ shared.run.executions around) batches
  booked : shared.run.engine.tables.Booked (shared.run.inFlight shared.others)

variable {around : Surroundings} {width : Nat} {uris : List String} {past : List Execution}
  {batches : List (List String)} {shared : Shared}

/-- The query of the item that moves comes last, where it can be told whether the move adds it. -/
theorem executions_last (past : List Execution) {item : Item} {items rest : List Item}
    (same : items.Perm (item :: rest)) :
    (past ++ items.filterMap fun item => item.stage.execution? around item.uri).Perm
      (past ++ (rest.filterMap fun item => item.stage.execution? around item.uri) ++
        (item.stage.execution? around item.uri).toList) := by
  have split : (item :: rest).filterMap (fun item => item.stage.execution? around item.uri) =
      (item.stage.execution? around item.uri).toList ++
        rest.filterMap fun item => item.stage.execution? around item.uri := by
    rw [List.filterMap_cons]
    cases item.stage.execution? around item.uri <;> rfl
  rw [List.append_assoc]
  exact ((split ▸ same.filterMap _).trans List.perm_append_comm).append_left past

theorem Counted.booked_item (counted : shared.Counted around uris past batches) {item : Item}
    {rest : List Item} {run : Run} (before : shared.run.items.Perm (item :: rest))
    (after : run.items.Perm
      ({ item with stage := (item.stage.advance around item.uri shared.run.engine).1 } :: rest))
    (moved : run.engine = (item.stage.advance around item.uri shared.run.engine).2) :
    run.engine.tables.Booked (run.inFlight shared.others) := by
  have move := Stage.advance_move around item.uri shared.run.engine item.stage
  rw [← moved] at move
  obtain ⟨resolution, earlier, later, tablesMove, earlierFlight, laterFlight⟩ := move.tables_move
  have flying := before.countP_eq (·.stage.isBuilding)
  have flown := after.countP_eq (·.stage.isBuilding)
  rw [Run.countP_items, List.countP_cons, ← earlierFlight] at flying
  rw [Run.countP_items, List.countP_cons, ← laterFlight] at flown
  refine tablesMove.booked counted.booked ?_ fun other => ?_
  · intro building
    refine counted.booked.consistent.empty_of_pos ?_
    simp only [Run.inFlight, ↓reduceIte, flying, building]
    omega
  · simp only [Run.inFlight, resolution, flying, flown, Progress.flight]
    split <;> omega

theorem Counted.item (counted : shared.Counted around uris past batches) (place : Nat) :
    (shared.take around width (.item place)).Counted around uris past batches := by
  rcases Run.step_cases around width shared.run place with
    same | ⟨item, rest, _, before, after, moved⟩
  · rwa [take, same]
  · have asks := counted.asks item (before.mem_iff.mpr List.mem_cons_self)
    constructor
    · exact (Run.step_uris around width shared.run place).trans counted.uris
    · exact Run.step_forall (fun move before => move.asks before) counted.asks width place
    · have counters := counted.counters
      rw [Run.executions, Counters.tally_perm (executions_last past before)] at counters
      rw [take, Run.executions, Counters.tally_perm (executions_last past after), moved]
      exact Stage.advance_counters asks counters
    · exact counted.booked_item before after moved

theorem Counted.outside (counted : shared.Counted around uris past batches) (event : Event) :
    (shared.take around width (.outside event)).Counted around uris past batches where
  uris := counted.uris
  asks := counted.asks
  counters := counted.counters
  booked := by
    let traffic : Traffic := ⟨shared.run.engine.tables, shared.others⟩
    have booked : traffic.tables.Booked fun resolution => _ + flights traffic.calls resolution :=
      counted.booked
    exact Traffic.booked_step booked event

/-- Whatever happens during a batch, what is counted are the queries that its items have executed. -/
theorem Counted.takeAll (counted : shared.Counted around uris past batches) (turns : List Turn) :
    (shared.takeAll around width turns).Counted around uris past batches := by
  induction turns generalizing shared with
  | nil => exact counted
  | cons turn rest ih =>
      refine ih ?_
      cases turn with
      | item place => exact counted.item place
      | outside event => exact counted.outside event

end Shared

theorem Handler.counted_shared {engine : Engine} {past : List Execution}
    {batches : List (List String)} (counters : engine.counters = .tally past batches)
    (booked : engine.tables.Booked fun _ => 0) (handler : Handler) (backend : Backend) (now : Int64)
    (uris : List String) :
    (handler.shared engine [] uris).Counted (handler.surroundings backend now) uris past
      (batches ++ [uris]) := by
  have items := Run.items_start handler.parallelism
    { engine with counters := engine.counters.countBatch uris.length } uris
  constructor
  · exact .of_eq (Run.start_uris _ _ uris)
  · exact Run.start_forall (fun _ => trivial) _ _ uris
  · have none : (handler.shared engine [] uris).run.executions (handler.surroundings backend now) =
        [] := by
      rw [Run.executions, shared, items, List.filterMap_map]
      exact List.filterMap_eq_nil_iff.mpr fun uri _ => rfl
    rw [none, List.append_nil, Counters.tally_concat_batch, ← counters]
    rfl
  · have idle : (handler.shared engine [] uris).run.inFlight [] = fun _ => 0 := by
      funext resolution
      have queued : (uris.map fun uri => Item.mk uri .queued).countP (·.stage.isBuilding) = 0 := by
        refine List.countP_eq_zero.mpr fun item member => ?_
        obtain ⟨uri, _, rfl⟩ := List.mem_map.mp member
        exact Bool.false_ne_true
      rw [Run.inFlight, ← Run.countP_items, shared, items, queued, ite_self]
      rfl
    exact idle ▸ booked

/-! ## Envelopes -/

@[simp] theorem Envelope.isError_ofOutcome (uri : String) (outcome : Except Error Answer) :
    (ofOutcome uri outcome).isError = !outcome.isOk := by
  cases outcome <;> rfl

/-- The outcomes of a batch that succeed are those of its queries, and so are those that fail, but for
the URIs that cannot be read. -/
theorem countP_executions {around : Surroundings} {entries : List (String × Except Error Answer)}
    (asks : ∀ entry ∈ entries, (Stage.done entry.2).Asks around entry.1) :
    let executions := entries.filterMap fun entry =>
      (Stage.done entry.2).execution? around entry.1
    entries.countP (·.2.isOk) = executions.countP (·.2 == true) ∧
      entries.countP (!·.2.isOk) = executions.countP (·.2 == false) +
        (entries.map (·.1)).countP fun uri => !(around.reader.read around.now uri).isOk := by
  induction entries with
  | nil => exact ⟨rfl, rfl⟩
  | cons entry rest ih =>
      obtain ⟨uri, outcome⟩ := entry
      have asked := asks (uri, outcome) List.mem_cons_self
      obtain ⟨answered, failed⟩ := ih fun entry member => asks entry (List.mem_cons_of_mem _ member)
      dsimp only at answered failed asked ⊢
      simp only [List.filterMap_cons, List.map_cons, List.countP_cons]
      rw [answered, failed]
      cases read : around.reader.read around.now uri with
      | error refusal =>
          have unreadable : (Except.error refusal : Except Refusal Descriptor).isOk = false := rfl
          rw [asked refusal read, Stage.execution?_refused read, unreadable]
          simp [Except.isOk, Except.toBool]
          omega
      | ok query =>
          have readable : (Except.ok query : Except Refusal Descriptor).isOk = true := rfl
          rw [Stage.execution?_done read, readable]
          simp only [List.countP_cons, beq_true, beq_false, Bool.not_true, Bool.false_eq_true,
            ↓reduceIte]
          exact ⟨trivial, by rw [Nat.add_zero, Nat.add_right_comm]⟩

theorem Shared.Counted.countP_settled {around : Surroundings} {uris : List String}
    {past : List Execution} {batches : List (List String)} {shared : Shared}
    (counted : shared.Counted around uris past batches) (ended : shared.run.IsOver .isolate) :
    shared.run.settled.reverse.countP (·.2.isOk) =
        (shared.run.executions around).countP (·.2 == true) ∧
      shared.run.settled.reverse.countP (!·.2.isOk) =
        (shared.run.executions around).countP (·.2 == false) +
          uris.countP fun uri => !(around.reader.read around.now uri).isOk := by
  obtain ⟨windowEmpty, noneLeft⟩ : shared.run.window = [] ∧ shared.run.pending = [] := by
    rcases ended with aborted | finished
    · cases aborted
    · exact finished
  have items : shared.run.items =
      shared.run.settled.reverse.map fun entry => ⟨entry.1, .done entry.2⟩ := by
    rw [Run.items, windowEmpty, noneLeft, List.map_nil, List.append_nil, List.append_nil]
  have executions : shared.run.executions around = shared.run.settled.reverse.filterMap
      fun entry => (Stage.done entry.2).execution? around entry.1 := by
    rw [Run.executions, items, List.filterMap_map, Function.comp_def]
  have order : (shared.run.settled.reverse.map (·.1)).Perm uris := by
    have order := counted.uris
    rwa [items, List.map_map] at order
  have asks (entry) (member : entry ∈ shared.run.settled.reverse) :
      (Stage.done entry.2).Asks around entry.1 :=
    counted.asks ⟨entry.1, .done entry.2⟩ (items ▸ List.mem_map.mpr ⟨entry, member, rfl⟩)
  rw [executions, ← order.countP_eq]
  exact countP_executions asks

end SeriesQuery.Batch
