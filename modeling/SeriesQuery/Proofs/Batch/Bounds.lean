import SeriesQuery.Proofs.Batch.Traces
import SeriesQuery.Proofs.Engine.Points

set_option autoImplicit false

/-!
# Bounds on batches

A batch tells at most one envelope for each of its URIs, and as its envelope is decoded up to a limit
only, these are no more than the limit. Each tells as many points as its URI asks for. No order of steps
leads past that, and neither do a clock or a store that change between the steps.
-/

namespace SeriesQuery.Batch

open SeriesQuery.Query SeriesQuery.Table

/-! ## Items -/

namespace Stage

/-- What an item for a URI asks for or answers is within a limit on points. -/
def Within (limit : Nat) (uri : String) : Stage → Prop
  | .queued => True
  | .fetching query _ => query.Within limit uri
  | .done outcome => ∀ answer, outcome = .ok answer → answer.Within limit uri

/-- The stages that an item for a URI can come to, whatever the clock, the store and the engine are when
it takes its steps. -/
inductive Reached (reader : Reader) (uri : String) : Stage → Prop where
  | queued : Reached reader uri .queued
  | advance {around : Surroundings} {stage : Stage} (engine : Engine) :
      around.reader = reader → Reached reader uri stage →
      Reached reader uri (stage.advance around uri engine).1

theorem Move.within {around : Surroundings} {uri : String} {engine moved : Engine}
    {before after : Stage} (move : Move around uri engine before after moved)
    (within : before.Within around.reader.maxCount uri) :
    after.Within around.reader.maxCount uri := by
  -- The limit is looked at when the URI is read; from then on the request stays the same.
  cases move with
  | refuse =>
      intro answer answered
      cases answered
  | total =>
      intro answer answered
      exact Engine.within_totalOutcome answered
  | call read kind => exact within_of_read read kind
  | fetch => exact within
  | answer =>
      intro answer answered
      exact Engine.within_seriesOutcome within answered
  | stay => exact within

theorem Reached.within {reader : Reader} {uri : String} {stage : Stage}
    (reached : stage.Reached reader uri) : stage.Within reader.maxCount uri := by
  induction reached with
  | queued => trivial
  | advance engine same _ ih =>
      subst same
      exact (advance_move _ uri engine _).within ih

end Stage

/-! ## Batches -/

/-- The items of a batch are those of its URIs, and each is within a limit on points. -/
structure Run.Within (limit : Nat) (uris : List String) (run : Run) : Prop where
  uris : (run.items.map (·.uri)).Perm uris
  items : ∀ item ∈ run.items, item.stage.Within limit item.uri

/-- A batch tells no more envelopes than it has URIs, and each tells as many points as its URI asks for,
up to a limit. -/
structure Told (limit : Nat) (uris : List String) (envelopes : List Envelope) : Prop where
  paths : (envelopes.map (·.path)).Subperm uris
  results : ∀ envelope ∈ envelopes, ∀ answer, envelope.result = some answer →
    answer.Within limit envelope.path

theorem Told.length_le {limit : Nat} {uris : List String} {envelopes : List Envelope}
    (told : Told limit uris envelopes) : envelopes.length ≤ uris.length := by
  simpa using told.paths.length_le

theorem Envelope.path_ofOutcome (uri : String) (outcome : Except Error Answer) :
    (ofOutcome uri outcome).path = uri := by
  cases outcome <;> rfl

namespace Run

variable {around : Surroundings} {width limit : Nat} {uris : List String} {run : Run}

theorem within_start (limit width : Nat) (engine : Engine) (uris : List String) :
    (start width engine uris).Within limit uris where
  uris := .of_eq (start_uris width engine uris)
  items := start_forall (fun _ => trivial) width engine uris

theorem Within.step (within : run.Within around.reader.maxCount uris) (width place : Nat) :
    (run.step around width place).Within around.reader.maxCount uris := by
  constructor
  · exact (step_uris around width run place).trans within.uris
  · exact step_forall (fun move before => move.within before) within.items width place

theorem Within.drive (within : run.Within around.reader.maxCount uris) (width steps : Nat) :
    (run.drive around width steps).Within around.reader.maxCount uris := by
  induction steps generalizing run with
  | zero => exact within
  | succ steps ih =>
      unfold Run.drive
      split
      · exact within
      · next place _ => exact ih (within.step width place)

theorem Within.told (within : run.Within limit uris) :
    Told limit uris
      (run.settled.reverse.map fun entry => Envelope.ofOutcome entry.1 entry.2) := by
  -- The settled items are the first of all items.
  have front : run.items = run.settled.reverse.map (fun entry => ⟨entry.1, .done entry.2⟩) ++
      (run.window ++ run.pending.map fun uri => ⟨uri, .queued⟩) := List.append_assoc _ _ _
  constructor
  · have order := within.uris
    rw [front, List.map_append, List.map_map] at order
    rw [List.map_map, Function.comp_def]
    simp only [Envelope.path_ofOutcome]
    exact (List.sublist_append_left _ _).subperm.trans order.subperm
  · intro envelope member answer told
    obtain ⟨⟨uri, outcome⟩, settled, rfl⟩ := List.mem_map.mp member
    have held : ⟨uri, .done outcome⟩ ∈ run.items :=
      front ▸ List.mem_append_left _ (List.mem_map.mpr ⟨_, settled, rfl⟩)
    cases outcome with
    | ok answer =>
        cases told
        exact within.items _ held _ rfl
    | error error => cases told

end Run

namespace Handler

theorem envelopes_eq_ok {policy : Policy} {outcomes : List (String × Except Error Answer)}
    {told : List Envelope} (given : envelopes policy outcomes = .ok told) :
    told = outcomes.map fun entry => Envelope.ofOutcome entry.1 entry.2 := by
  cases policy with
  | isolate =>
      cases given
      rfl
  | abort =>
      induction outcomes generalizing told with
      | nil =>
          cases given
          rfl
      | cons entry rest ih =>
          obtain ⟨uri, outcome⟩ := entry
          unfold envelopes at given ih
          rw [List.mapM_cons] at given
          obtain ⟨envelope, first, afterFirst⟩ := bind_eq_ok.mp given
          obtain ⟨others, later, made⟩ := bind_eq_ok.mp afterFirst
          cases made
          rw [List.map_cons, ← ih later]
          cases outcome with
          | ok answer =>
              cases first
              rfl
          | error error => cases first

variable {handler : Handler} {backend : Backend} {now : Int64} {engine : Engine}

theorem within_query {uri : String} {answer : Answer}
    (answered : (handler.query backend now engine uri).1 = .ok answer) :
    answer.Within handler.reader.maxCount uri := by
  unfold query at answered
  split at answered
  · cases answered
  · next request read => exact Engine.within_execute (within_of_read read) answered

theorem told_handle {uris : List String} {envelopes : List Envelope}
    (answered : (handler.handle backend now engine uris).1 = .ok envelopes) :
    Told handler.reader.maxCount uris envelopes := by
  have start : (Run.start handler.parallelism
      { engine with counters := engine.counters.countBatch uris.length } uris).Within
      (handler.surroundings backend now).reader.maxCount uris := by
    apply Run.within_start
  rw [envelopes_eq_ok answered]
  exact (start.drive handler.parallelism (Run.stepsOfItem * uris.length)).told

theorem length_of_decodeEnvelope {contentType : Option String} {body : List UInt8}
    {uris : List String} (decoded : handler.decodeEnvelope contentType body = .ok uris) :
    uris.length ≤ handler.maxItems := by
  unfold decodeEnvelope decode at decoded
  dsimp only at decoded
  split at decoded
  · split at decoded
    · cases decoded
    · split at decoded
      · cases decoded
      · next few =>
          cases decoded
          exact Nat.not_lt.mp few
  · cases decoded

theorem told_handleRequest {contentType : Option String} {body : List UInt8}
    {envelopes : List Envelope}
    (answered : (handler.handleRequest backend now engine contentType body).1 = .ok envelopes) :
    ∃ uris, handler.decodeEnvelope contentType body = .ok uris ∧
      Told handler.reader.maxCount uris envelopes := by
  unfold handleRequest at answered
  split at answered
  · cases answered
  · next uris decoded => exact ⟨uris, decoded, told_handle answered⟩

end Handler

/-! ## Any order of steps -/

/-- Turns of a batch, each with the store and the clock that it is taken with. -/
def Shared.takeEach (handler : Handler) (shared : Shared) (turns : List (Backend × Int64 × Turn)) :
    Shared :=
  turns.foldl (fun shared (backend, now, turn) =>
    shared.take (handler.surroundings backend now) handler.parallelism turn) shared

theorem Shared.within_takeEach {handler : Handler} {shared : Shared} {uris : List String}
    (within : shared.run.Within handler.reader.maxCount uris)
    (turns : List (Backend × Int64 × Turn)) :
    (shared.takeEach handler turns).run.Within handler.reader.maxCount uris := by
  induction turns generalizing shared with
  | nil => exact within
  | cons moment rest ih =>
      obtain ⟨backend, now, turn⟩ := moment
      refine ih ?_
      cases turn with
      | item place =>
          -- The reader, and so the limit, is the same at every turn.
          have reading : shared.run.Within (handler.surroundings backend now).reader.maxCount uris :=
            within
          exact reading.step handler.parallelism place
      | outside event => exact ⟨within.uris, within.items⟩

theorem Handler.told_takeEach {handler : Handler} {engine : Engine} {others : List Call}
    {uris : List String} {turns : List (Backend × Int64 × Turn)} {told : List Envelope}
    (answered : envelopes handler.policy
      ((handler.shared engine others uris).takeEach handler turns).run.settled.reverse = .ok told) :
    Told handler.reader.maxCount uris told := by
  have start : (handler.shared engine others uris).run.Within handler.reader.maxCount uris := by
    apply Run.within_start
  rw [envelopes_eq_ok answered]
  exact (Shared.within_takeEach start turns).told

end SeriesQuery.Batch
