import SeriesQuery.Proofs.Batch.Effects
import SeriesQuery.Proofs.Batch.Isolation

set_option autoImplicit false

/-!
# What batches leave behind

In every state of a batch the engine has seen what its items have done, and the statistics of its
tables are told by the calls of its items and by those of others. So what a batch leaves behind does
not depend on the order of the steps, and an item whose URI is refused leaves nothing.
-/

namespace SeriesQuery

open SeriesQuery.Query SeriesQuery.Table

/-- Two engines have made the same scans, in whichever order, and counted the same queries, and their
tables have the same statistics. The sizes of their batches may differ. -/
structure Engine.SameTrace (one other : Engine) : Prop where
  scans : one.scans.Perm other.scans
  queries : ∀ kind, one.counters.queries kind = other.counters.queries kind
  tables : Tables.SameStatistics one.tables other.tables

theorem Engine.SameTrace.of_times {one other : Engine}
    (times : ∀ effect, one.times effect = other.times effect)
    (tables : Tables.SameStatistics one.tables other.tables) : one.SameTrace other where
  scans := List.perm_iff_count.mpr fun scan => times (.scan scan)
  queries kind := congrArg₂ Tally.mk (times (.query kind true)) (times (.query kind false))
  tables := tables

def Query.Reader.readable (reader : Reader) (now : Int64) (uris : List String) : List String :=
  uris.filter fun uri => (reader.read now uri).isOk

/-- URIs that cannot be read can be left out where they give nothing. -/
theorem Query.Reader.flatMap_readable {reader : Reader} {now : Int64} {Part : Type}
    {part : String → List Part}
    (nothing : ∀ uri refusal, reader.read now uri = .error refusal → part uri = [])
    (uris : List String) : (reader.readable now uris).flatMap part = uris.flatMap part := by
  induction uris with
  | nil => rfl
  | cons uri rest ih =>
      cases read : reader.read now uri with
      | ok query =>
          have kept : reader.readable now (uri :: rest) = uri :: reader.readable now rest :=
            List.filter_cons_of_pos (by rw [read]; rfl)
          rw [kept, List.flatMap_cons, List.flatMap_cons, ih]
      | error refusal =>
          have left : reader.readable now (uri :: rest) = reader.readable now rest :=
            List.filter_cons_of_neg (by rw [read]; exact Bool.false_ne_true)
          rw [left, ih, List.flatMap_cons, nothing uri refusal read, List.nil_append]

namespace Batch

namespace Run

/-! ## Items -/

/-- The items of a batch in order: those that are settled, those under way and those to come. -/
def items (run : Run) : List Item :=
  run.settled.reverse.map (fun entry => ⟨entry.1, .done entry.2⟩) ++ run.window ++
    run.pending.map fun uri => ⟨uri, .queued⟩

theorem items_settle (policy : Policy) (settled : List (String × Except Error Answer))
    (window : List Item) (pending : List String) (engine : Engine) :
    items ⟨(settle policy settled window).1, (settle policy settled window).2, pending, engine⟩ =
      items ⟨settled, window, pending, engine⟩ := by
  fun_induction settle policy settled window with
  | case1 => rfl
  | case2 settled item rest outcome ended running ih =>
      rw [ih]
      simp [items, ← ended]
  | case3 => rfl

@[simp] theorem items_refill (width : Nat) (run : Run) : (run.refill width).items = run.items := by
  simp only [items, refill, List.append_assoc, ← List.map_append, List.take_append_drop]

theorem items_start (width : Nat) (engine : Engine) (uris : List String) :
    (start width engine uris).items = uris.map fun uri => ⟨uri, .queued⟩ := by
  rw [start, items_refill]
  rfl

theorem start_uris (width : Nat) (engine : Engine) (uris : List String) :
    (start width engine uris).items.map (·.uri) = uris := by
  rw [items_start, List.map_map]
  exact List.map_id _

theorem start_forall {Holds : String → Stage → Prop} (queued : ∀ uri, Holds uri .queued)
    (width : Nat) (engine : Engine) (uris : List String) :
    ∀ item ∈ (start width engine uris).items, Holds item.uri item.stage := by
  intro item member
  rw [items_start] at member
  obtain ⟨uri, _, rfl⟩ := List.mem_map.mp member
  exact queued uri

theorem flatMap_items_start (width : Nat) (engine : Engine) (uris : List String) {Part : Type}
    {part : String → Stage → List Part} (queued : ∀ uri, part uri .queued = []) :
    (start width engine uris).items.flatMap (fun item => part item.uri item.stage) = [] := by
  rw [items_start, List.flatMap_map]
  exact List.flatMap_eq_nil_iff.mpr fun uri _ => queued uri

/-- A step that changes anything is the step of one item, and changes no other item. -/
theorem step_cases (around : Surroundings) (width : Nat) (run : Run) (place : Nat) :
    run.step around width place = run ∨
      ∃ item rest, item ∈ run.window ∧ run.items.Perm (item :: rest) ∧
        (run.step around width place).items.Perm
          ({ item with stage := (item.stage.advance around item.uri run.engine).1 } :: rest) ∧
        (run.step around width place).engine =
          (item.stage.advance around item.uri run.engine).2 := by
  cases running : isAborted around.policy run.settled with
  | true => exact .inl (by simp only [step, running])
  | false =>
      cases found : run.window[place]? with
      | none => exact .inl (by simp only [step, running, found])
      | some item =>
          obtain ⟨inside, rfl⟩ := List.getElem?_eq_some_iff.mp found
          have first {before window rest after : List Item} {item : Item}
              (same : window.Perm (item :: rest)) :
              (before ++ window ++ after).Perm (item :: (before ++ rest ++ after)) :=
            ((same.append_left before).trans List.perm_middle).append_right after
          right
          simp only [step, running, found, items_refill, items_settle]
          exact ⟨_, _, List.getElem_mem inside, first (List.getElem_cons_eraseIdx_perm inside).symm,
            first (List.set_perm_cons_eraseIdx inside _), rfl⟩

/-- What the moves of items keep, a step keeps for all items. -/
theorem step_forall {around : Surroundings} {run : Run} {Holds : String → Stage → Prop}
    (kept : ∀ {uri : String} {engine moved : Engine} {before after : Stage},
      Stage.Move around uri engine before after moved → Holds uri before → Holds uri after)
    (holds : ∀ item ∈ run.items, Holds item.uri item.stage) (width place : Nat) :
    ∀ item ∈ (run.step around width place).items, Holds item.uri item.stage := by
  rcases step_cases around width run place with same | ⟨item, rest, _, before, after, _⟩
  · rwa [same]
  · have earlier (other : Item) (member : other ∈ item :: rest) : Holds other.uri other.stage :=
      holds other (before.mem_iff.mpr member)
    have move := Stage.advance_move around item.uri run.engine item.stage
    intro moved member
    rcases List.mem_cons.mp (after.mem_iff.mp member) with rfl | other
    · exact kept move (earlier item List.mem_cons_self)
    · exact earlier moved (List.mem_cons_of_mem _ other)

theorem step_uris (around : Surroundings) (width : Nat) (run : Run) (place : Nat) :
    ((run.step around width place).items.map (·.uri)).Perm (run.items.map (·.uri)) := by
  rcases step_cases around width run place with same | ⟨item, rest, _, before, after, _⟩
  · rw [same]
  · exact (after.map (·.uri)).trans (before.map (·.uri)).symm

/-! ## Refused URIs -/

/-- All items under way run the requests that their URIs write. -/
def Follows (around : Surroundings) (run : Run) : Prop :=
  ∀ item ∈ run.items, item.stage.Follows around item.uri

theorem Follows.step {around : Surroundings} {run : Run} (follows : run.Follows around)
    (width place : Nat) : (run.step around width place).Follows around :=
  step_forall (fun move before => move.follows before) follows width place

/-- A step of an item whose URI is refused leaves the engine as it is. -/
theorem Follows.step_of_refused {around : Surroundings} {run : Run} (follows : run.Follows around)
    (width : Nat) {place : Nat} {item : Item} (found : run.window[place]? = some item)
    {refusal : Refusal} (refused : around.reader.read around.now item.uri = .error refusal) :
    (run.step around width place).engine = run.engine := by
  have member : item ∈ run.items :=
    List.mem_append_left _ (List.mem_append_right _ (List.mem_of_getElem? found))
  have unchanged := Stage.advance_of_refused refused (follows item member) run.engine
  cases running : isAborted around.policy run.settled with
  | true => simp only [Run.step, running]
  | false =>
      simp only [Run.step, running, found]
      exact unchanged

/-! ## What items have done -/

def effects (around : Surroundings) (verdict : Except StorageError UInt32) (run : Run) :
    List Effect :=
  run.items.flatMap fun item => item.stage.effects around verdict item.uri

def calls (around : Surroundings) (verdict : Except StorageError UInt32) (run : Run) : List Call :=
  run.items.flatMap fun item =>
    item.stage.calls around verdict run.engine.resolution item.uri

end Run

namespace Shared

/-- What holds in every state of a batch and its surroundings: the engine has seen what it had seen at
the start and what the items have done, and what calls tell of its tables is told by the calls of the
items and of others. -/
structure Traced (around : Surroundings) (verdict : Except StorageError UInt32) (start : Engine)
    (shared : Shared) : Prop where
  resolution : shared.run.engine.resolution = start.resolution
  times : ∀ effect, shared.run.engine.times effect =
    start.times effect + (shared.run.effects around verdict).count effect
  balanced : Traffic.Balanced shared.run.engine.tables
    (shared.run.calls around verdict ++ shared.others)

variable {around : Surroundings} {width : Nat} {uris : List String}
  {verdict : Except StorageError UInt32} {start : Engine} {shared : Shared}

theorem Traced.item (traced : shared.Traced around verdict start)
    (sound : shared.Sound around width uris verdict) (place : Nat) :
    (shared.take around width (.item place)).Traced around verdict start := by
  rcases Run.step_cases around width shared.run place with
    same | ⟨item, rest, member, before, after, moved⟩
  · rwa [take, same]
  · have fits := sound.run.window item member
    have vacant := sound.run.vacant member
    have told := sound.run.verdict
    have resolution := Run.step_resolution around width shared.run place
    refine ⟨resolution.trans traced.resolution, ?_, ?_⟩
    · intro effect
      have times := traced.times effect
      have added := Stage.advance_times sound.run.consistent told vacant fits effect
      rw [Run.effects, (before.flatMap_right _).count_eq, List.flatMap_cons,
        List.count_append] at times
      simp only [take, Run.effects, moved]
      rw [(after.flatMap_right _).count_eq, List.flatMap_cons, List.count_append]
      dsimp only
      omega
    · -- The call of the item comes first, where a move of it can be told.
      have balanced := traced.balanced.perm ((before.flatMap_right _).append_right _)
      rw [List.flatMap_cons, List.append_assoc] at balanced
      have move := Stage.advance_move around item.uri shared.run.engine item.stage
      have kept := move.balanced sound.run.consistent told vacant fits balanced
      rw [← List.append_assoc] at kept
      have calls := after.flatMap_right fun item =>
        item.stage.calls around verdict shared.run.engine.resolution item.uri
      simp only [take, Run.calls, resolution]
      rw [moved]
      exact kept.perm (calls.symm.append_right _)

theorem Traced.outside (traced : shared.Traced around verdict start)
    (sound : shared.Sound around width uris verdict) (event : Event) :
    (shared.take around width (.outside event)).Traced around verdict start where
  resolution := traced.resolution
  times effect := by
    have times := traced.times effect
    rcases effect with _ | ⟨_, _ | _⟩ <;> exact times
  balanced := by
    let traffic : Traffic := ⟨shared.run.engine.tables, shared.others⟩
    have balanced : Traffic.Balanced traffic.tables (_ ++ traffic.calls) := traced.balanced
    exact balanced.step (fun _ member => sound.run.vacant_others member) event

theorem Traced.takeAll (traced : shared.Traced around verdict start)
    (sound : shared.Sound around width uris verdict) {turns : List Turn}
    (calm : ∀ turn ∈ turns, turn.Calm) :
    (shared.takeAll around width turns).Traced around verdict start := by
  induction turns generalizing shared with
  | nil => exact traced
  | cons turn rest ih =>
      have taken : (shared.take around width turn).Traced around verdict start := by
        cases turn with
        | item place => exact traced.item sound place
        | outside event => exact traced.outside sound event
      exact ih taken (sound.take (calm turn List.mem_cons_self)) fun turn member =>
        calm turn (List.mem_cons_of_mem _ member)

theorem follows_takeAll (follows : shared.run.Follows around) (turns : List Turn) :
    (shared.takeAll around width turns).run.Follows around := by
  induction turns generalizing shared with
  | nil => exact follows
  | cons turn rest ih =>
      refine ih ?_
      cases turn with
      | item place => exact follows.step width place
      | outside event => exact follows

end Shared

theorem Handler.traced_shared {engine : Engine} {others : List Call}
    (reached : Traffic.Reachable ⟨engine.tables, others⟩) (handler : Handler)
    (backend : Backend) (now : Int64) (uris : List String) :
    (handler.shared engine others uris).Traced (handler.surroundings backend now)
      (engine.tables.verdict engine.resolution) engine where
  resolution := rfl
  times effect := by
    have none : (handler.shared engine others uris).run.effects (handler.surroundings backend now)
        (engine.tables.verdict engine.resolution) = [] :=
      Run.flatMap_items_start _ _ uris fun _ => rfl
    rw [none]
    rcases effect with _ | ⟨_ | _, _ | _⟩ <;> rfl
  balanced := by
    have none : (handler.shared engine others uris).run.calls (handler.surroundings backend now)
        (engine.tables.verdict engine.resolution) = [] :=
      Run.flatMap_items_start _ _ uris fun _ => rfl
    rw [none]
    exact reached.balanced

/-! ## Batches that are over -/

/-- A batch that is over is told item by item by its URIs. -/
theorem Run.Sound.flatMap_items {around : Surroundings} {uris : List String}
    {verdict : Except StorageError UInt32} {others : List Call} {run : Run}
    (sound : run.Sound around uris verdict others) (ended : run.IsOver .isolate) {Part : Type}
    {part : String → Stage → List Part} {whole : String → List Part}
    (done : ∀ uri outcome, part uri (.done outcome) = whole uri) :
    run.items.flatMap (fun item => part item.uri item.stage) = uris.flatMap whole := by
  rcases ended with aborted | ⟨windowEmpty, noneLeft⟩
  · cases aborted
  · rw [← sound.settled_uris windowEmpty noneLeft, items, windowEmpty, noneLeft, List.map_nil,
      List.append_nil, List.append_nil, List.flatMap_map, List.flatMap_map]
    simp only [done]

/-- Two batches whose URIs that can be read are the same leave the same behind, once they are over
and the calls of others have come equally far. -/
theorem Shared.Traced.sameTrace {around : Surroundings} {verdict : Except StorageError UInt32}
    {start : Engine} {width : Nat} {uris : List String} {whole rest : Shared}
    (traced : whole.Traced around verdict start) (sound : whole.Sound around width uris verdict)
    (ended : whole.run.IsOver .isolate) (alsoTraced : rest.Traced around verdict start)
    (alsoSound : rest.Sound around width (around.reader.readable around.now uris) verdict)
    (alsoEnded : rest.run.IsOver .isolate)
    (alike : (whole.others.map Call.standing).Perm (rest.others.map Call.standing)) :
    whole.run.engine.SameTrace rest.run.engine := by
  have same {Part : Type} (part : String → Stage → List Part) (all : String → List Part)
      (done : ∀ uri outcome, part uri (.done outcome) = all uri)
      (nothing : ∀ uri refusal, around.reader.read around.now uri = .error refusal → all uri = []) :
      whole.run.items.flatMap (fun item => part item.uri item.stage) =
        rest.run.items.flatMap fun item => part item.uri item.stage := by
    rw [sound.run.flatMap_items ended done, alsoSound.run.flatMap_items alsoEnded done,
      Reader.flatMap_readable nothing]
  have effects : whole.run.effects around verdict = rest.run.effects around verdict :=
    same (fun uri stage => stage.effects around verdict uri) (Batch.effects around verdict)
      (fun _ _ => rfl) fun _ _ refused => effects_of_refused refused
  have calls : whole.run.calls around verdict = rest.run.calls around verdict := by
    rw [Run.calls, Run.calls, traced.resolution, alsoTraced.resolution]
    exact same (fun uri stage => stage.calls around verdict start.resolution uri)
      (Batch.calls around verdict start.resolution) (fun _ _ => rfl)
      fun _ _ refused => calls_of_refused refused _
  apply Engine.SameTrace.of_times
  · intro effect
    rw [traced.times, alsoTraced.times, effects]
  · apply traced.balanced.sameStatistics alsoTraced.balanced
    rw [List.map_append, List.map_append, calls]
    exact alike.append_left _

end Batch

end SeriesQuery
