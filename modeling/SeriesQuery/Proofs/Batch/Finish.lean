import SeriesQuery.Proofs.Batch.Order

set_option autoImplicit false

/-!
# Batches come to their end

Each step of an item that does not wait takes one from the steps that a batch has left at most. Unless
a construction of others is in flight, some item of a batch that is not over does not wait.
-/

namespace SeriesQuery.Batch.Run

open SeriesQuery.Query SeriesQuery.Table

/-- A batch is over once an error has ended it or all its items are settled. -/
def IsOver (policy : Policy) (run : Run) : Prop :=
  isAborted policy run.settled = true ∨ run.window = [] ∧ run.pending = []

/-! ## The window -/

/-- The first item of a window is not over, and the window is as full as it can be. -/
structure Shaped (policy : Policy) (width : Nat) (run : Run) : Prop where
  front : isAborted policy run.settled = false → ∀ item rest, run.window = item :: rest →
    ∀ outcome, item.stage ≠ .done outcome
  full : width ≤ run.window.length ∨ run.pending = []

theorem front_settle (policy : Policy) (settled : List (String × Except Error Answer))
    (window : List Item) (running : isAborted policy (settle policy settled window).1 = false)
    {item : Item} {rest : List Item} (left : (settle policy settled window).2 = item :: rest)
    (outcome : Except Error Answer) : item.stage ≠ .done outcome := by
  fun_induction settle policy settled window with
  | case1 => cases left
  | case2 _ _ _ _ _ _ ih => exact ih running left
  | case3 _ _ _ stays =>
      cases left
      exact fun ended => stays outcome running ended

theorem shaped_refill {policy : Policy} {run : Run}
    (front : isAborted policy run.settled = false → ∀ item rest, run.window = item :: rest →
      ∀ outcome, item.stage ≠ .done outcome) (width : Nat) :
    (run.refill width).Shaped policy width := by
  constructor
  · intro running item rest split outcome ended
    simp only [refill] at split
    cases window : run.window with
    | cons first others =>
        rw [window] at split
        cases split
        exact front running _ _ window outcome ended
    | nil =>
        rw [window, List.nil_append] at split
        obtain ⟨uri, _, rfl⟩ := List.mem_map.mp (split ▸ List.mem_cons_self)
        cases ended
  · by_cases enough : run.pending.length ≤ width - run.window.length
    · exact .inr (List.drop_eq_nil_of_le enough)
    · left
      simp only [refill, List.length_append, List.length_map, List.length_take]
      omega

theorem Shaped.step {around : Surroundings} {width : Nat} {run : Run}
    (shaped : run.Shaped around.policy width) (place : Nat) :
    (run.step around width place).Shaped around.policy width := by
  unfold Run.step
  split
  · exact shaped_refill (fun running _ _ left => front_settle _ _ _ running left) width
  · exact shaped

theorem shaped_start (policy : Policy) (width : Nat) (engine : Engine) (uris : List String) :
    (start width engine uris).Shaped policy width :=
  shaped_refill (fun _ _ _ nothing => by cases nothing) width

/-! ## Steps left -/

def windowSteps : List Item → Nat
  | [] => 0
  | item :: rest => item.stage.stepsLeft + windowSteps rest

/-- The greatest number of steps that a batch has left, not counting those in which an item waits. -/
def stepsLeft (run : Run) : Nat :=
  windowSteps run.window + stepsOfItem * run.pending.length

theorem windowSteps_append (left right : List Item) :
    windowSteps (left ++ right) = windowSteps left + windowSteps right := by
  induction left with
  | nil => rw [List.nil_append, windowSteps, Nat.zero_add]
  | cons item rest ih => rw [List.cons_append, windowSteps, windowSteps, ih, Nat.add_assoc]

theorem windowSteps_queued (uris : List String) :
    windowSteps (uris.map fun uri => ⟨uri, .queued⟩) = stepsOfItem * uris.length := by
  induction uris with
  | nil => rfl
  | cons uri rest ih =>
      rw [List.map_cons, windowSteps, ih, List.length_cons, Nat.mul_succ, Nat.add_comm,
        Stage.stepsLeft_queued]

theorem windowSteps_set {window : List Item} {place : Nat} {item : Item}
    (found : window[place]? = some item) (changed : Item) :
    windowSteps (window.set place changed) + item.stage.stepsLeft =
      windowSteps window + changed.stage.stepsLeft := by
  induction window generalizing place with
  | nil => cases found
  | cons first rest ih =>
      cases place with
      | zero =>
          cases found
          simp only [List.set_cons_zero, windowSteps]
          omega
      | succ place =>
          have there : rest[place]? = some item := found
          have replaced := ih there
          simp only [List.set_cons_succ, windowSteps]
          omega

theorem windowSteps_settle (policy : Policy) (settled : List (String × Except Error Answer))
    (window : List Item) : windowSteps (settle policy settled window).2 = windowSteps window := by
  fun_induction settle policy settled window with
  | case1 => rfl
  | case2 _ item rest outcome ended _ ih =>
      rw [ih, windowSteps, ended, Stage.stepsLeft_done, Nat.zero_add]
  | case3 => rfl

@[simp] theorem stepsLeft_refill (width : Nat) (run : Run) :
    (run.refill width).stepsLeft = run.stepsLeft := by
  have split := congrArg List.length
    (List.take_append_drop (width - run.window.length) run.pending)
  rw [List.length_append] at split
  simp only [stepsLeft, refill, windowSteps_append, windowSteps_queued]
  rw [← split, Nat.mul_add, Nat.add_assoc]

theorem stepsLeft_start (width : Nat) (engine : Engine) (uris : List String) :
    (start width engine uris).stepsLeft = stepsOfItem * uris.length := by
  rw [start, stepsLeft_refill]
  rw [stepsLeft, windowSteps, Nat.zero_add]

theorem stepsLeft_step {around : Surroundings} (width : Nat) {place : Nat} {run : Run} {item : Item}
    (running : isAborted around.policy run.settled = false)
    (found : run.window[place]? = some item) :
    (run.step around width place).stepsLeft + item.stage.stepsLeft =
      run.stepsLeft + (item.stage.advance around item.uri run.engine).1.stepsLeft := by
  have replaced := windowSteps_set found
    { item with stage := (item.stage.advance around item.uri run.engine).1 }
  simp only at replaced
  simp only [step, running, found, stepsLeft_refill]
  simp only [stepsLeft, windowSteps_settle]
  omega

theorem stepsLeft_step_le (around : Surroundings) (width : Nat) (run : Run) (place : Nat) :
    (run.step around width place).stepsLeft ≤ run.stepsLeft := by
  cases running : isAborted around.policy run.settled with
  | true => simp only [step, running, Nat.le_refl]
  | false =>
      cases found : run.window[place]? with
      | none => simp only [step, running, found, Nat.le_refl]
      | some item =>
          have counted := stepsLeft_step width running found
          have fewer :=
            (Stage.advance_move around item.uri run.engine item.stage).stepsLeft_le
          omega

/-! ## Items that do not wait -/

/-- An item that does not wait: it can move, or it has a construction in flight that can end. -/
def Able (run : Run) (item : Item) : Prop :=
  item.stage.canMove run.engine.tables run.engine.resolution = true ∨
    item.stage.isBuilding = true

theorem stepsLeft_step_lt {around : Surroundings} (width : Nat) {place : Nat} {run : Run}
    {item : Item} (running : isAborted around.policy run.settled = false)
    (found : run.window[place]? = some item) (able : run.Able item) :
    (run.step around width place).stepsLeft < run.stepsLeft := by
  have counted := stepsLeft_step width running found
  have fewer := (Stage.advance_move around item.uri run.engine item.stage).stepsLeft_lt able
  omega

theorem running_of_not_over {policy : Policy} {run : Run} (unfinished : ¬ run.IsOver policy) :
    isAborted policy run.settled = false := by
  cases running : isAborted policy run.settled with
  | false => rfl
  | true => exact absurd (.inl running) unfinished

/-- In a batch that is not over some item does not wait, unless others have a construction for the
same resolution in flight. -/
theorem Sound.exists_able {around : Surroundings} {uris : List String}
    {verdict : Except StorageError UInt32} {others : List Call} {run : Run} {width : Nat}
    (sound : run.Sound around uris verdict others) (shaped : run.Shaped around.policy width)
    (wide : 1 ≤ width) (unfinished : ¬ run.IsOver around.policy)
    (quiet : flights others run.engine.resolution = 0) : ∃ item ∈ run.window, run.Able item := by
  have running := running_of_not_over unfinished
  cases window : run.window with
  | nil =>
      rcases shaped.full with wideEnough | noneLeft
      · rw [window, List.length_nil] at wideEnough
        omega
      · exact absurd (.inr ⟨window, noneLeft⟩) unfinished
  | cons first rest =>
      have notDone := shaped.front running first rest window
      have mine : first ∈ first :: rest := List.mem_cons_self
      cases stage : first.stage with
      | queued => exact ⟨first, mine, .inl (by simp [stage, Stage.canMove])⟩
      | done outcome => exact absurd stage (notDone outcome)
      | fetching query progress =>
          cases progress with
          | arrived | located | finished =>
              exact ⟨first, mine, .inl (by simp [stage, Stage.canMove])⟩
          | building build => exact ⟨first, mine, .inr (by simp [stage, Stage.isBuilding])⟩
          | waiting =>
              cases building : (run.engine.tables.slot run.engine.resolution).building with
              | false => exact ⟨first, mine, .inl (by simp [stage, Stage.canMove, building])⟩
              | true =>
                  -- The construction that the first item waits for is one of the window's.
                  have marked := sound.consistent.marked run.engine.resolution
                  simp only [inFlight, ↓reduceIte, quiet, building, Nat.add_zero] at marked
                  have flying : 0 < run.window.countP (·.stage.isBuilding) := by omega
                  obtain ⟨item, member, builds⟩ := List.countP_pos_iff.mp flying
                  exact ⟨item, window ▸ member, .inr builds⟩

/-! ## The order that is taken -/

theorem next?_able {policy : Policy} {run : Run} {place : Nat}
    (next : run.next? policy = some place) :
    ∃ item, run.window[place]? = some item ∧ run.Able item := by
  simp only [next?] at next
  split at next
  · cases next
  · split at next
    · next found =>
        cases next
        obtain ⟨inside, able, _⟩ := List.findIdx?_eq_some_iff_getElem.mp found
        exact ⟨_, List.getElem?_eq_getElem inside, .inl able⟩
    · obtain ⟨inside, builds, _⟩ := List.findIdx?_eq_some_iff_getElem.mp next
      exact ⟨_, List.getElem?_eq_getElem inside, .inr builds⟩

theorem exists_next? {policy : Policy} {run : Run} {item : Item}
    (running : isAborted policy run.settled = false) (member : item ∈ run.window)
    (able : run.Able item) : ∃ place, run.next? policy = some place := by
  simp only [next?, running, Bool.false_eq_true, ↓reduceIte]
  split
  · next place _ => exact ⟨place, rfl⟩
  · next none =>
      have stuck := List.findIdx?_eq_none_iff.mp none item member
      rcases able with moves | builds
      · rw [moves] at stuck
        cases stuck
      · rw [← Option.isSome_iff_exists, List.findIdx?_isSome, List.any_eq_true]
        exact ⟨item, member, builds⟩

theorem next?_of_over {policy : Policy} {run : Run} (ended : run.IsOver policy) :
    run.next? policy = none := by
  rcases ended with aborted | ⟨empty, _⟩
  · simp [next?, aborted]
  · simp [next?, empty]

theorem step_resolution (around : Surroundings) (width : Nat) (run : Run) (place : Nat) :
    (run.step around width place).engine.resolution = run.engine.resolution := by
  unfold step
  split
  · next item _ _ =>
      exact (Stage.advance_move around item.uri run.engine item.stage).tables_move.1
  · rfl

theorem Sound.drive {around : Surroundings} {uris : List String}
    {verdict : Except StorageError UInt32} {others : List Call} {run : Run}
    (sound : run.Sound around uris verdict others) (width limit : Nat) :
    (drive around width limit run).Sound around uris verdict others := by
  induction limit generalizing run with
  | zero => exact sound
  | succ limit ih =>
      unfold Run.drive
      split
      · exact sound
      · next place _ => exact ih (sound.step width place)

/-- Unless a construction of others is in flight, some order of steps ends a batch, and the one that
is taken is such an order. -/
theorem Sound.drive_over {around : Surroundings} {uris : List String}
    {verdict : Except StorageError UInt32} {others : List Call} {run : Run} {width : Nat}
    (sound : run.Sound around uris verdict others) (shaped : run.Shaped around.policy width)
    (wide : 1 ≤ width) (quiet : flights others run.engine.resolution = 0) {limit : Nat}
    (enough : run.stepsLeft ≤ limit) :
    (Run.drive around width limit run).IsOver around.policy ∧
      ∃ places : List Nat, places.length ≤ limit ∧
        Run.drive around width limit run = places.foldl (Run.step around width) run := by
  induction limit generalizing run with
  | zero =>
      refine ⟨?_, [], Nat.le_refl 0, rfl⟩
      by_cases ended : run.IsOver around.policy
      · exact ended
      · obtain ⟨item, member, able⟩ := sound.exists_able shaped wide ended quiet
        obtain ⟨place, found⟩ := List.mem_iff_getElem?.mp member
        have fewer := stepsLeft_step_lt width (running_of_not_over ended) found able
        omega
  | succ limit ih =>
      by_cases ended : run.IsOver around.policy
      · have stays : Run.drive around width (limit + 1) run = run := by
          simp only [Run.drive, next?_of_over ended]
        exact ⟨by rwa [stays], [], Nat.zero_le _, stays⟩
      · obtain ⟨item, member, able⟩ := sound.exists_able shaped wide ended quiet
        have running := running_of_not_over ended
        obtain ⟨place, next⟩ := exists_next? running member able
        obtain ⟨mover, found, moverAble⟩ := next?_able next
        have fewer := stepsLeft_step_lt width running found moverAble
        obtain ⟨finished, places, short, same⟩ := ih (sound.step width place) (shaped.step place)
          (by rwa [step_resolution]) (by omega)
        have driven : Run.drive around width (limit + 1) run =
            Run.drive around width limit (run.step around width place) := by
          simp only [Run.drive, next]
        exact ⟨by rwa [driven], place :: places, by simpa using short, driven.trans same⟩

end SeriesQuery.Batch.Run
