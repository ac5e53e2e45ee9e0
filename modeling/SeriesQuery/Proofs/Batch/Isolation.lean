import SeriesQuery.Proofs.Batch.Envelopes

set_option autoImplicit false

/-!
# Batches answer as their items do alone

Whatever the parallelism, and in whichever order the items of a batch and the calls of others take
their steps, the answer of the batch is put together from what each URI gets when it is run alone
from the state in which the batch starts.
-/

namespace SeriesQuery.Batch

open SeriesQuery.Query SeriesQuery.Table

/-! ## Any order of steps -/

/-- A batch under way, and the calls that others have made on the same tables. -/
structure Shared where
  run : Run
  others : List Call

/-- What can happen next: a step of the item at a place of the window, or an event among the calls of
others. -/
inductive Turn where
  | item (place : Nat)
  | outside (event : Event)

/-- A turn that does not change which constructions fail. -/
def Turn.Calm : Turn → Prop
  | .item _ => True
  | .outside event => event.Calm

theorem Turn.calm_items (places : List Nat) : ∀ turn ∈ places.map Turn.item, turn.Calm :=
  List.forall_mem_map.mpr fun _ _ => trivial

theorem Turn.calm_outside {events : List Event} (calm : ∀ event ∈ events, event.Calm) :
    ∀ turn ∈ events.map Turn.outside, turn.Calm :=
  List.forall_mem_map.mpr calm

theorem Turn.calm_append {events : List Event} (calm : ∀ event ∈ events, event.Calm)
    (places : List Nat) :
    ∀ turn ∈ events.map Turn.outside ++ places.map Turn.item, turn.Calm :=
  List.forall_mem_append.mpr ⟨calm_outside calm, calm_items places⟩

namespace Shared

def take (around : Surroundings) (width : Nat) (shared : Shared) : Turn → Shared
  | .item place => { shared with run := shared.run.step around width place }
  | .outside event =>
    let traffic := (Traffic.mk shared.run.engine.tables shared.others).step event
    ⟨{ shared.run with engine := { shared.run.engine with tables := traffic.tables } },
      traffic.calls⟩

def takeAll (around : Surroundings) (width : Nat) (shared : Shared) (turns : List Turn) : Shared :=
  turns.foldl (take around width) shared

/-- What holds in every state of a batch and its surroundings. -/
structure Sound (around : Surroundings) (width : Nat) (uris : List String)
    (verdict : Except StorageError UInt32) (shared : Shared) : Prop where
  run : shared.run.Sound around uris verdict shared.others
  shaped : shared.run.Shaped around.policy width
  steps : shared.run.stepsLeft ≤ Run.stepsOfItem * uris.length

variable {around : Surroundings} {width : Nat} {uris : List String}
  {verdict : Except StorageError UInt32} {shared : Shared}

theorem Sound.take (sound : shared.Sound around width uris verdict) {turn : Turn}
    (calm : turn.Calm) : (shared.take around width turn).Sound around width uris verdict := by
  cases turn with
  | item place =>
      exact ⟨sound.run.step width place, sound.shaped.step place,
        Nat.le_trans (Run.stepsLeft_step_le around width shared.run place) sound.steps⟩
  | outside event =>
      exact ⟨sound.run.outside calm, ⟨sound.shaped.front, sound.shaped.full⟩, sound.steps⟩

theorem Sound.takeAll (sound : shared.Sound around width uris verdict) {turns : List Turn}
    (calm : ∀ turn ∈ turns, turn.Calm) :
    (shared.takeAll around width turns).Sound around width uris verdict := by
  induction turns generalizing shared with
  | nil => exact sound
  | cons turn rest ih =>
      exact ih (sound.take (calm turn List.mem_cons_self)) fun turn member =>
        calm turn (List.mem_cons_of_mem _ member)

theorem takeAll_items (around : Surroundings) (width : Nat) (shared : Shared)
    (places : List Nat) :
    (shared.takeAll around width (places.map .item)).run =
      places.foldl (Run.step around width) shared.run := by
  induction places generalizing shared with
  | nil => rfl
  | cons place rest ih => exact ih (shared.take around width (.item place))

theorem takeAll_items_others (around : Surroundings) (width : Nat) (shared : Shared)
    (places : List Nat) :
    (shared.takeAll around width (places.map .item)).others = shared.others := by
  induction places generalizing shared with
  | nil => rfl
  | cons place rest ih => exact ih (shared.take around width (.item place))

theorem takeAll_append (around : Surroundings) (width : Nat) (shared : Shared)
    (before after : List Turn) :
    shared.takeAll around width (before ++ after) =
      (shared.takeAll around width before).takeAll around width after :=
  List.foldl_append

theorem takeAll_outside (around : Surroundings) (width : Nat) (shared : Shared)
    (events : List Event) :
    shared.takeAll around width (events.map .outside) =
      ⟨{ shared.run with engine := { shared.run.engine with
          tables := ((Traffic.mk shared.run.engine.tables shared.others).run events).tables } },
        ((Traffic.mk shared.run.engine.tables shared.others).run events).calls⟩ := by
  induction events generalizing shared with
  | nil => rfl
  | cons event rest ih => exact ih (shared.take around width (.outside event))

end Shared

/-- A batch of a handler before its first step. -/
def Handler.shared (handler : Handler) (engine : Engine) (others : List Call)
    (uris : List String) : Shared :=
  ⟨.start handler.parallelism
    { engine with counters := engine.counters.countBatch uris.length } uris, others⟩

theorem Handler.sound_shared {engine : Engine} {others : List Call}
    (consistent : engine.tables.Consistent (flights others)) (handler : Handler)
    (backend : Backend) (now : Int64) (uris : List String) :
    (handler.shared engine others uris).Sound (handler.surroundings backend now)
      handler.parallelism uris (engine.tables.verdict engine.resolution) := by
  let counted : Engine := { engine with counters := engine.counters.countBatch uris.length }
  have same : counted.tables.Consistent (flights others) := consistent
  exact ⟨Run.sound_start same _ handler.parallelism uris, Run.shaped_start _ _ counted uris,
    Nat.le_of_eq (Run.stepsLeft_start _ counted uris)⟩

/-- What a handler can answer a batch with, in whichever order the items and the calls of others take
their steps until the batch is over. -/
def Handler.CanAnswer (handler : Handler) (backend : Backend) (now : Int64) (engine : Engine)
    (others : List Call) (uris : List String) (answer : Except Error (List Envelope)) : Prop :=
  ∃ turns : List Turn, (∀ turn ∈ turns, turn.Calm) ∧
    let run := ((handler.shared engine others uris).takeAll (handler.surroundings backend now)
      handler.parallelism turns).run
    run.IsOver handler.policy ∧ Handler.envelopes handler.policy run.settled.reverse = answer

section

variable {engine : Engine} {others : List Call} {handler : Handler} {backend : Backend} {now : Int64}
  {uris : List String}

theorem Handler.CanAnswer.answers {answer : Except Error (List Envelope)}
    (given : handler.CanAnswer backend now engine others uris answer)
    (reached : Traffic.Reachable ⟨engine.tables, others⟩) :
    Answers (fun uri => (handler.query backend now engine uri).1) uris handler.policy answer := by
  obtain ⟨turns, calm, ended, rfl⟩ := given
  have consistent := reached.sound.consistent
  have sound := (handler.sound_shared consistent backend now uris).takeAll calm
  rw [funext (handler.query_fst consistent backend now)]
  exact sound.run.answers ended

/-- Unless others have a construction in flight, a handler takes some order of steps that ends the
batch. -/
theorem Handler.exists_places (consistent : engine.tables.Consistent (flights others))
    (parallel : 1 ≤ handler.parallelism) (quiet : flights others engine.resolution = 0)
    (backend : Backend) (now : Int64) (uris : List String) :
    ∃ places : List Nat,
      let run := ((handler.shared engine others uris).takeAll (handler.surroundings backend now)
        handler.parallelism (places.map .item)).run
      run.IsOver handler.policy ∧ handler.handle backend now engine uris =
        (Handler.envelopes handler.policy run.settled.reverse, run.engine) := by
  have start := handler.sound_shared consistent backend now uris
  obtain ⟨ended, places, _, driven⟩ := start.run.drive_over start.shaped parallel quiet start.steps
  have same := (Shared.takeAll_items (handler.surroundings backend now) handler.parallelism
    (handler.shared engine others uris) places).trans driven.symm
  exact ⟨places, by rw [same]; exact ended, by rw [same]; rfl⟩

/-- Unless others have a construction in flight, the answer that a handler gives is one that it can
give. -/
theorem Handler.canAnswer_handle (reached : Traffic.Reachable ⟨engine.tables, others⟩)
    (parallel : 1 ≤ handler.parallelism) (quiet : flights others engine.resolution = 0)
    (backend : Backend) (now : Int64) (uris : List String) :
    handler.CanAnswer backend now engine others uris
      (handler.handle backend now engine uris).1 := by
  obtain ⟨places, ended, handled⟩ :=
    Handler.exists_places reached.sound.consistent parallel quiet backend now uris
  exact ⟨places.map .item, Turn.calm_items places, ended, by rw [handled]⟩

/-- From every state that the tables can reach batches can be brought to their end: the construction
that others may have in flight can end, and then some order of steps ends each batch. -/
theorem Handler.exists_over (reached : Traffic.Reachable ⟨engine.tables, others⟩)
    (parallel : 1 ≤ handler.parallelism) (backend : Backend) (now : Int64) :
    ∃ events : List Event, (∀ event ∈ events, event.Calm) ∧ ∀ uris : List String,
      ∃ places : List Nat, ((handler.shared engine others uris).takeAll
        (handler.surroundings backend now) handler.parallelism
        (events.map .outside ++ places.map .item)).run.IsOver handler.policy := by
  obtain ⟨events, calm, quiet⟩ := reached.sound.exists_quiet engine.resolution
  refine ⟨events, calm, fun uris => ?_⟩
  have start := handler.sound_shared reached.sound.consistent backend now uris
  have sound := start.takeAll (Turn.calm_outside calm)
  rw [Shared.takeAll_outside] at sound
  obtain ⟨ended, places, _, driven⟩ := sound.run.drive_over sound.shaped parallel quiet sound.steps
  refine ⟨places, ?_⟩
  rw [Shared.takeAll_append, Shared.takeAll_outside, Shared.takeAll_items, ← driven]
  exact ended

/-- From every state that the tables can reach a batch can be answered. -/
theorem Handler.exists_canAnswer (reached : Traffic.Reachable ⟨engine.tables, others⟩)
    (parallel : 1 ≤ handler.parallelism) (backend : Backend) (now : Int64) (uris : List String) :
    ∃ answer, handler.CanAnswer backend now engine others uris answer := by
  obtain ⟨events, calm, ends⟩ := Handler.exists_over reached parallel backend now
  obtain ⟨places, ended⟩ := ends uris
  exact ⟨_, _, Turn.calm_append calm places, ended, rfl⟩

end

/-- A batch answers as its URIs do alone from the state in which it starts. -/
structure Isolated (handler : Handler) (backend : Backend) (now : Int64) (engine : Engine)
    (others : List Call) (uris : List String) : Prop where
  /-- It does so in whichever order the steps were taken that ended it. -/
  anyOrder : ∀ turns : List Turn, (∀ turn ∈ turns, turn.Calm) →
    let run := ((handler.shared engine others uris).takeAll (handler.surroundings backend now)
      handler.parallelism turns).run
    run.IsOver handler.policy →
      Answers (fun uri => (handler.query backend now engine uri).1) uris handler.policy
        (Handler.envelopes handler.policy run.settled.reverse)
  /-- Whatever steps were taken, unless others have a construction in flight there are steps, at most
  so many, that end it. -/
  finishes : ∀ turns : List Turn, (∀ turn ∈ turns, turn.Calm) →
    let shared := (handler.shared engine others uris).takeAll (handler.surroundings backend now)
      handler.parallelism turns
    flights shared.others shared.run.engine.resolution = 0 →
      ∃ places : List Nat, places.length ≤ Run.stepsOfItem * uris.length ∧
        (shared.takeAll (handler.surroundings backend now) handler.parallelism
          (places.map .item)).run.IsOver handler.policy
  /-- The handler takes steps that end it. -/
  handled : flights others engine.resolution = 0 →
    Answers (fun uri => (handler.query backend now engine uri).1) uris handler.policy
      (handler.handle backend now engine uris).1

/-- From every state that the tables of an engine and calls on them can reach, a batch answers as its
URIs do alone. -/
theorem isolated_of_reachable {engine : Engine} {others : List Call}
    (reached : Traffic.Reachable ⟨engine.tables, others⟩) {handler : Handler}
    (parallel : 1 ≤ handler.parallelism) (backend : Backend) (now : Int64)
    (uris : List String) : Isolated handler backend now engine others uris := by
  have consistent := reached.sound.consistent
  have alone : (fun uri => (handler.query backend now engine uri).1) =
      answerTo (handler.surroundings backend now) (engine.tables.verdict engine.resolution) :=
    funext (handler.query_fst consistent backend now)
  have start := handler.sound_shared consistent backend now uris
  constructor
  · intro turns calm run ended
    rw [alone]
    exact (start.takeAll calm).run.answers ended
  · intro turns calm shared quiet
    have sound := start.takeAll calm
    obtain ⟨ended, places, short, same⟩ :=
      sound.run.drive_over sound.shaped parallel quiet sound.steps
    refine ⟨places, short, ?_⟩
    rw [Shared.takeAll_items, ← same]
    exact ended
  · intro quiet
    rw [alone]
    obtain ⟨ended, _⟩ := start.run.drive_over start.shaped parallel quiet start.steps
    exact (start.run.drive _ _).answers ended

theorem isolated_standard :
    Isolated .standard (.ofStore .empty) 0 ⟨1, .empty true, .zero, []⟩ []
      ["collect/reads/apps/shop?count=2", "collect/reads?aggregate=true", "nowhere"] :=
  isolated_of_reachable (.idle true) (by decide) _ _ _

end SeriesQuery.Batch
