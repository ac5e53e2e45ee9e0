import SeriesQuery.Batch.Handler
import SeriesQuery.Proofs.Engine.Answer

set_option autoImplicit false

/-!
# What one step of an item does

What an item of a batch gets is settled by what calls for the table of its engine get. Each step of
an item is one of six moves, and none of them leads away from that.
-/

namespace SeriesQuery.Batch

open SeriesQuery.Query SeriesQuery.Table

/-- What an item gets, told by what calls for the table get. -/
def answerTo (around : Surroundings) (verdict : Except StorageError UInt32) (uri : String) :
    Except Error Answer :=
  match around.reader.read around.now uri with
  | .error refusal => .error (.ofRefusal uri refusal)
  | .ok query => Engine.outcome around.backend query verdict

/-- A URI that is run alone gets what an item for it gets. -/
theorem Handler.query_fst {engine : Engine} {inFlight : UInt32 → Nat}
    (consistent : engine.tables.Consistent inFlight) (handler : Handler) (backend : Backend)
    (now : Int64) (uri : String) :
    (handler.query backend now engine uri).1 =
      answerTo (handler.surroundings backend now) (engine.tables.verdict engine.resolution) uri := by
  simp only [query, answerTo, surroundings]
  cases handler.reader.read now uri with
  | error refusal => rfl
  | ok query => exact Engine.execute_fst consistent backend query

namespace Stage

/-- The moves of an item, with its stage before and after and the engine after. -/
inductive Move (around : Surroundings) (uri : String) (engine : Engine) :
    Stage → Stage → Engine → Prop where
  | refuse {refusal : Refusal} : around.reader.read around.now uri = .error refusal →
      Move around uri engine .queued (.done (.error (.ofRefusal uri refusal))) engine
  | total {query : Descriptor} {counters : Counters} {scans : List Scan} :
      around.reader.read around.now uri = .ok query → query.kind = .aggregate →
      Move around uri engine .queued (.done (Engine.totalOutcome around.backend query))
        { engine with counters, scans }
  | call {query : Descriptor} :
      around.reader.read around.now uri = .ok query → query.kind = .timeSeries →
      Move around uri engine .queued (.fetching query .arrived) engine
  | fetch {query : Descriptor} {before after : Progress} {tables : Tables} :
      Tables.Move engine.tables engine.resolution before after tables →
      (∀ table, after ≠ .finished table) →
      Move around uri engine (.fetching query before) (.fetching query after) { engine with tables }
  | answer {query : Descriptor} {before : Progress} {table : Except StorageError Handle}
      {tables : Tables} {counters : Counters} {scans : List Scan} :
      Tables.Move engine.tables engine.resolution before (.finished table) tables →
      Move around uri engine (.fetching query before)
        (.done (Engine.seriesOutcome around.backend query (table.map Handle.resolution)))
        { engine with tables, counters, scans }
  | stay {outcome : Except Error Answer} :
      Move around uri engine (.done outcome) (.done outcome) engine

theorem advance_fetching (around : Surroundings) (uri : String) (engine : Engine)
    (query : Descriptor) (progress : Progress) :
    advance around uri engine (.fetching query progress) =
      match engine.tables.advance engine.resolution progress with
      | (.finished table, tables) =>
        (.done ({ engine with tables }.answerSeries around.backend query table).1,
          ({ engine with tables }.answerSeries around.backend query table).2)
      | (progress, tables) => (.fetching query progress, { engine with tables }) := by
  cases progress <;> rfl

theorem advance_move (around : Surroundings) (uri : String) (engine : Engine) (stage : Stage) :
    Move around uri engine stage (stage.advance around uri engine).1
      (stage.advance around uri engine).2 := by
  cases stage with
  | queued =>
      simp only [advance]
      split
      · next refusal refused => exact .refuse refused
      · next query read =>
          split
          · next kind =>
              rw [Engine.answerTotal_eq]
              exact .total read kind
          · next kind => exact .call read kind
  | fetching query progress =>
      have move := Tables.advance_move engine.tables engine.resolution progress
      rw [advance_fetching]
      generalize engine.tables.advance engine.resolution progress = advanced at move
      obtain ⟨after, tables⟩ := advanced
      cases after with
      | finished table =>
          simp only [Engine.answerSeries_eq]
          exact .answer move
      | arrived | located | waiting | building build => exact .fetch move (by rintro table ⟨⟩)
  | done outcome => exact .stay

theorem isBuilding_fetching (query : Descriptor) (progress : Progress) :
    (Stage.fetching query progress).isBuilding = progress.isBuilding := by
  cases progress <;> rfl

/-- To the tables every move of an item is a move of a call. -/
theorem Move.tables_move {around : Surroundings} {uri : String} {engine moved : Engine}
    {before after : Stage} (move : Move around uri engine before after moved) :
    moved.resolution = engine.resolution ∧ ∃ earlier later : Progress,
      Tables.Move engine.tables engine.resolution earlier later moved.tables ∧
        earlier.isBuilding = before.isBuilding ∧ later.isBuilding = after.isBuilding := by
  cases move with
  | refuse | total | call | stay =>
      exact ⟨rfl, .finished (.ok ⟨0, 0⟩), .finished (.ok ⟨0, 0⟩), .stay, rfl, rfl⟩
  | fetch move _ =>
      exact ⟨rfl, _, _, move, (isBuilding_fetching _ _).symm, (isBuilding_fetching _ _).symm⟩
  | answer move => exact ⟨rfl, _, _, move, (isBuilding_fetching _ _).symm, rfl⟩

/-! ## Where stages lead -/

/-- A stage leads to what an item for a URI gets. -/
def Fits (around : Surroundings) (verdict : Except StorageError UInt32) (uri : String) :
    Stage → Prop
  | .queued => True
  | .fetching query progress =>
    around.reader.read around.now uri = .ok query ∧ query.kind = .timeSeries ∧
      ∀ table, progress ≠ .finished table
  | .done outcome => outcome = answerTo around verdict uri

/-- A move keeps an item on its way. -/
theorem Move.fits {around : Surroundings} {uri : String} {engine moved : Engine}
    {before after : Stage} (move : Move around uri engine before after moved)
    {inFlight : UInt32 → Nat} (consistent : engine.tables.Consistent inFlight)
    (vacant : before.isBuilding = true → engine.tables.table? engine.resolution = none)
    (fits : before.Fits around (engine.tables.verdict engine.resolution) uri) :
    after.Fits around (engine.tables.verdict engine.resolution) uri := by
  cases move with
  | refuse refused => simp only [Fits, answerTo, refused]
  | total read kind => simp only [Fits, answerTo, read, Engine.outcome, kind]
  | call read kind => exact ⟨read, kind, by rintro table ⟨⟩⟩
  | fetch move unfinished =>
      obtain ⟨read, kind, _⟩ := fits
      exact ⟨read, kind, unfinished⟩
  | answer move =>
      obtain ⟨read, kind, unfinished⟩ := fits
      rw [isBuilding_fetching] at vacant
      have given := move.outcome consistent vacant unfinished
      simp only [Fits, answerTo, read, Engine.outcome, kind, given]
  | stay => exact fits

/-! ## How many steps are left -/

/-- The greatest number of steps that an item at a stage has left, not counting those in which it
waits. -/
def stepsLeft : Stage → Nat
  | .queued => Run.stepsOfItem
  | .fetching _ .arrived => 4
  | .fetching _ .located => 3
  | .fetching _ .waiting => 2
  | .fetching _ (.building _) => 1
  | .fetching _ (.finished _) => 1
  | .done _ => 0

@[simp] theorem stepsLeft_queued : Stage.queued.stepsLeft = Run.stepsOfItem := rfl

@[simp] theorem stepsLeft_done (outcome : Except Error Answer) :
    (Stage.done outcome).stepsLeft = 0 := rfl

theorem stepsLeft_fetching_pos (query : Descriptor) (progress : Progress) :
    0 < (Stage.fetching query progress).stepsLeft := by
  cases progress <;> exact Nat.succ_pos _

theorem Move.stepsLeft_le {around : Surroundings} {uri : String} {engine moved : Engine}
    {before after : Stage} (move : Move around uri engine before after moved) :
    after.stepsLeft ≤ before.stepsLeft := by
  cases move with
  | refuse | total | answer => exact Nat.zero_le _
  | call => simp [stepsLeft, Run.stepsOfItem]
  | stay => exact Nat.le_refl _
  | fetch move unfinished =>
      cases move with
      | locate | miss | wait | start => simp [stepsLeft]
      | hit | share | succeed | fail | stay => exact absurd rfl (unfinished _)

/-- An item that can move, or that has a construction in flight, has fewer steps left after its
move. -/
theorem Move.stepsLeft_lt {around : Surroundings} {uri : String} {engine moved : Engine}
    {before after : Stage} (move : Move around uri engine before after moved)
    (able : before.canMove engine.tables engine.resolution = true ∨ before.isBuilding = true) :
    after.stepsLeft < before.stepsLeft := by
  cases move with
  | refuse | total | call => simp [stepsLeft, Run.stepsOfItem]
  | answer => exact stepsLeft_fetching_pos _ _
  | stay => simp [canMove, isBuilding] at able
  | fetch move unfinished =>
      cases move with
      | locate | miss | start => simp [stepsLeft]
      | wait _ building => simp [canMove, isBuilding, building] at able
      | hit | share | succeed | fail | stay => exact absurd rfl (unfinished _)

end Stage

end SeriesQuery.Batch
