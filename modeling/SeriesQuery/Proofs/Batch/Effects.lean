import Mathlib.Data.List.Count
import SeriesQuery.Proofs.Batch.Item
import SeriesQuery.Proofs.Table.Balance

set_option autoImplicit false

/-!
# What items do to an engine

What an item of a batch does to its engine is settled by its URI and by what calls for the table get:
which scans it makes, how it is counted, and whether it makes a call. An item whose URI is refused does
nothing at all. Each step of an item does to the engine what the next stage has done more.
-/

namespace SeriesQuery

open SeriesQuery.Query SeriesQuery.Table

/-- What a request does to an engine when it is answered. -/
inductive Effect where
  | scan (scan : Scan)
  | query (kind : Kind) (succeeded : Bool)
  deriving DecidableEq

namespace Engine

/-- How often an engine has seen an effect. -/
def times (engine : Engine) : Effect → Nat
  | .scan scan => engine.scans.count scan
  | .query kind true => (engine.counters.queries kind).ok
  | .query kind false => (engine.counters.queries kind).failed

def recorded (scans : List Scan) (kind : Kind) (succeeded : Bool) : List Effect :=
  .query kind succeeded :: scans.map .scan

theorem times_record (engine : Engine) (scans : List Scan) (kind : Kind) (succeeded : Bool)
    (effect : Effect) : (engine.record scans kind succeeded).times effect =
      engine.times effect + (recorded scans kind succeeded).count effect := by
  cases effect with
  | scan scan =>
      have once : (recorded scans kind succeeded).count (.scan scan) = scans.count scan := by
        rw [recorded, List.count_cons_of_ne (by simp)]
        exact List.count_map_of_injective _ _ (fun _ _ => Effect.scan.inj) _
      rw [once, times, record, List.count_append, Nat.add_comm]
      rfl
  | query other outcome =>
      have apart : Effect.query other outcome ∉ scans.map Effect.scan := by simp
      rw [recorded, List.count_cons, List.count_eq_zero_of_not_mem apart, Nat.zero_add]
      cases kind <;> cases succeeded <;> cases other <;> cases outcome <;> rfl

def effects (backend : Backend) (query : Descriptor) (table : Except StorageError UInt32) :
    List Effect :=
  match query.kind with
  | .aggregate =>
    recorded [.totals (totalsFilter query)] .aggregate (totalOutcome backend query).isOk
  | .timeSeries =>
    recorded (tableScans backend query table) .timeSeries
      (seriesOutcome backend query table).isOk

end Engine

namespace Batch

section

variable (around : Surroundings) (verdict : Except StorageError UInt32) (resolution : UInt32)
  (uri : String)

/-- What the item for a URI does to the engine, told by what calls for the table get. -/
def effects : List Effect :=
  match around.reader.read around.now uri with
  | .error _ => []
  | .ok query => Engine.effects around.backend query verdict

/-- The call that the item for a URI makes, if it makes one, and how far it comes. -/
def calls : List Call :=
  match around.reader.read around.now uri with
  | .error _ => []
  | .ok query =>
    match query.kind with
    | .aggregate => []
    | .timeSeries => [⟨resolution, .finished (verdict.map (⟨·, 0⟩))⟩]

/-- What an item at a stage has done to the engine. -/
def Stage.effects : Stage → List Effect
  | .queued | .fetching _ _ => []
  | .done _ => Batch.effects around verdict uri

def Stage.calls : Stage → List Call
  | .queued => []
  | .fetching _ progress => [⟨resolution, progress⟩]
  | .done _ => Batch.calls around verdict resolution uri

end

variable {around : Surroundings} {verdict : Except StorageError UInt32} {uri : String}

theorem effects_of_refused {refusal : Refusal}
    (refused : around.reader.read around.now uri = .error refusal) :
    effects around verdict uri = [] := by
  rw [effects, refused]

theorem calls_of_refused {refusal : Refusal}
    (refused : around.reader.read around.now uri = .error refusal) (resolution : UInt32) :
    calls around verdict resolution uri = [] := by
  rw [calls, refused]

namespace Stage

variable {engine : Engine} {stage : Stage} {inFlight : UInt32 → Nat}

/-- A step of an item does to the engine what its next stage has done more. -/
theorem advance_times (consistent : engine.tables.Consistent inFlight)
    (told : engine.tables.verdict engine.resolution = verdict)
    (vacant : stage.isBuilding = true → engine.tables.table? engine.resolution = none)
    (fits : stage.Fits around verdict uri) (effect : Effect) :
    (stage.advance around uri engine).2.times effect +
        (stage.effects around verdict uri).count effect =
      engine.times effect +
        ((stage.advance around uri engine).1.effects around verdict uri).count effect := by
  cases stage with
  | queued =>
      simp only [advance]
      split
      · next refusal refused => simp only [effects, effects_of_refused refused]
      · next query read =>
          split
          · next kind =>
              rw [Engine.answerTotal_eq]
              simp only [effects, Batch.effects, read, Engine.effects, kind, Engine.times_record,
                List.count_nil, Nat.add_zero]
          · next kind => rfl
  | fetching query progress =>
      obtain ⟨read, kind, unfinished⟩ := fits
      have move := Tables.advance_move engine.tables engine.resolution progress
      rw [advance_fetching]
      generalize engine.tables.advance engine.resolution progress = advanced at move
      obtain ⟨after, tables⟩ := advanced
      cases after with
      | finished table =>
          rw [isBuilding_fetching] at vacant
          -- Only the last step of a call is seen by the engine, as it answers the request.
          have given := (move.outcome consistent vacant unfinished).trans told
          have same : { engine with tables }.times effect = engine.times effect := by
            rcases effect with _ | ⟨_, _ | _⟩ <;> rfl
          simp only [Engine.answerSeries_eq, given, Engine.times_record, effects, Batch.effects, read,
            Engine.effects, kind, List.count_nil, Nat.add_zero, same]
      | arrived | located | waiting | building build =>
          rcases effect with _ | ⟨_, _ | _⟩ <;> rfl
  | done outcome => rfl

/-- The calls of others stay as they are when an item moves. -/
theorem Move.balanced {moved : Engine} {after : Stage}
    (move : Move around uri engine stage after moved)
    (consistent : engine.tables.Consistent inFlight)
    (told : engine.tables.verdict engine.resolution = verdict)
    (vacant : stage.isBuilding = true → engine.tables.table? engine.resolution = none)
    (fits : stage.Fits around verdict uri) {others : List Call}
    (balanced : Traffic.Balanced engine.tables
      (stage.calls around verdict engine.resolution uri ++ others)) :
    Traffic.Balanced moved.tables
      (after.calls around verdict engine.resolution uri ++ others) := by
  cases move with
  | refuse refused => simpa only [calls, calls_of_refused refused] using balanced
  | total read kind => simpa only [calls, Batch.calls, read, kind] using balanced
  | call read kind => exact balanced.arrive engine.resolution
  | fetch move _ =>
      rw [isBuilding_fetching] at vacant
      exact balanced.move move vacant
  | @answer _ _ table _ _ _ move =>
      obtain ⟨read, kind, unfinished⟩ := fits
      rw [isBuilding_fetching] at vacant
      refine (balanced.move move vacant).congr ?_
      have given := (move.outcome consistent vacant unfinished).trans told
      simp only [calls, Batch.calls, read, kind, ← given]
      cases table <;> exact .refl _
  | stay => exact balanced

/-! ## Refused URIs -/

/-- An item whose call is under way runs the request that its URI writes. -/
def Follows (around : Surroundings) (uri : String) : Stage → Prop
  | .fetching query _ => around.reader.read around.now uri = .ok query
  | .queued | .done _ => True

theorem Move.follows {moved : Engine} {after : Stage} (move : Move around uri engine stage after moved)
    (follows : stage.Follows around uri) : after.Follows around uri := by
  cases move with
  | refuse | total | answer | stay => trivial
  | call read _ => exact read
  | fetch => exact follows

theorem advance_of_refused {refusal : Refusal}
    (refused : around.reader.read around.now uri = .error refusal)
    (follows : stage.Follows around uri) (engine : Engine) :
    (stage.advance around uri engine).2 = engine := by
  cases stage with
  | queued => simp only [advance, refused]
  | fetching query progress =>
      rw [Follows, refused] at follows
      cases follows
  | done outcome => rfl

end Stage

end Batch

end SeriesQuery
