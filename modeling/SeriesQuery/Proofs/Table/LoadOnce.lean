import SeriesQuery.Proofs.Table.Reachable

set_option autoImplicit false

/-!
# Tables are loaded once

Of the constructions for a resolution no two are in flight together, only one ever succeeds, and none
starts after it. Its handle is what every call for the resolution that ends well returns, and what
every call returns that is not over when it succeeds, whatever else happens.
-/

namespace SeriesQuery.Table.Traffic

/-- An event starts a construction for a resolution: a call has one in flight after it and had none
before. -/
def Starts (traffic : Traffic) (event : Event) (resolution : UInt32) : Prop :=
  ∃ (place : Nat) (call : Call),
    (traffic.step event).calls[place]? = some call ∧ call.resolution = resolution ∧
      call.progress.isBuilding = true ∧
      ∀ earlier, traffic.calls[place]? = some earlier → earlier.progress.isBuilding = false

/-- An event ends a construction for a resolution well: the call that had it in flight returns the
handle. -/
def Succeeds (traffic : Traffic) (event : Event) (resolution : UInt32) (handle : Handle) : Prop :=
  ∃ (place : Nat) (call : Call),
    traffic.calls[place]? = some call ∧ call.resolution = resolution ∧
      call.progress.isBuilding = true ∧
      (traffic.step event).calls[place]? = some { call with progress := .finished (.ok handle) }

/-- What loading once means for all the runs from a state. -/
structure LoadsOnce (start : Traffic) : Prop where
  /-- At most one construction for a resolution is in flight. -/
  exclusive : ∀ events resolution, flights (start.run events).calls resolution ≤ 1
  /-- After a construction succeeded, none for its resolution starts or succeeds. -/
  last : ∀ before event after next resolution handle,
    Succeeds (start.run before) event resolution handle →
    ¬ Starts (start.run (before ++ event :: after)) next resolution ∧
      ∀ other, ¬ Succeeds (start.run (before ++ event :: after)) next resolution other
  /-- A call that ended well returned the handle of a construction that had succeeded by then, and
  the handle is of the call's resolution. -/
  origin : ∀ events call handle, call ∈ (start.run events).calls →
    call.progress = .finished (.ok handle) →
    handle.resolution = call.resolution ∧
      ∃ before event after, events = before ++ event :: after ∧
        Succeeds (start.run before) event call.resolution handle
  /-- A call that is not over when a construction for its resolution succeeds, or comes later,
  returns the handle as soon as it has taken two more steps. -/
  later : ∀ before event after more resolution handle place call,
    Succeeds (start.run before) event resolution handle →
    (∀ present outcome, (start.run (before ++ [event])).calls[place]? = some present →
      present.progress ≠ .finished outcome) →
    (start.run (before ++ event :: after)).calls[place]? = some call →
    call.resolution = resolution → 2 ≤ more.count (.advance place) →
    (start.run (before ++ event :: after ++ more)).calls[place]? =
      some ⟨resolution, .finished (.ok handle)⟩

/-! ## A filled slot -/

theorem Sound.keeps_table_run {traffic : Traffic} (sound : traffic.Sound) (events : List Event)
    {resolution : UInt32} {handle : Handle}
    (found : traffic.tables.table? resolution = some handle) :
    (traffic.run events).tables.table? resolution = some handle := by
  induction events generalizing traffic with
  | nil => exact found
  | cons event events ih => exact ih (step_sound sound event) (sound.keeps_table event found)

theorem Sound.table_of_succeeds {traffic : Traffic} (sound : traffic.Sound) {event : Event}
    {resolution : UInt32} {handle : Handle} (success : Succeeds traffic event resolution handle) :
    (traffic.step event).tables.table? resolution = some handle := by
  obtain ⟨place, call, _, same, _, after⟩ := success
  rw [← same]
  exact (step_sound sound event).shared _ (List.mem_of_getElem? after) handle rfl

theorem Sound.not_building {traffic : Traffic} (sound : traffic.Sound) {resolution : UInt32}
    {handle : Handle} (found : traffic.tables.table? resolution = some handle) {call : Call}
    (member : call ∈ traffic.calls) (same : call.resolution = resolution) :
    call.progress.isBuilding = false := by
  cases building : call.progress.isBuilding with
  | false => rfl
  | true =>
      have vacant := sound.vacant member building
      rw [same, found] at vacant
      cases vacant

theorem Sound.not_starts {traffic : Traffic} (sound : traffic.Sound) {resolution : UInt32}
    {handle : Handle} (found : traffic.tables.table? resolution = some handle) (event : Event) :
    ¬ Starts traffic event resolution := by
  intro given
  obtain ⟨place, call, there, same, building, _⟩ := given
  have quiet := (step_sound sound event).not_building (sound.keeps_table event found)
    (List.mem_of_getElem? there) same
  rw [building] at quiet
  cases quiet

theorem Sound.not_succeeds {traffic : Traffic} (sound : traffic.Sound) {resolution : UInt32}
    {handle : Handle} (found : traffic.tables.table? resolution = some handle) (event : Event)
    (other : Handle) : ¬ Succeeds traffic event resolution other := by
  intro given
  obtain ⟨place, call, here, same, building, _⟩ := given
  have quiet := sound.not_building found (List.mem_of_getElem? here) same
  rw [building] at quiet
  cases quiet

/-- A table comes into its slot by a construction that succeeds. -/
theorem exists_succeeds {traffic : Traffic} {event : Event} {resolution : UInt32}
    {handle : Handle} (vacant : traffic.tables.table? resolution = none)
    (found : (traffic.step event).tables.table? resolution = some handle) :
    Succeeds traffic event resolution handle := by
  have unmoved : ∀ tables : Tables, (∀ other, tables.slot other = traffic.tables.slot other) →
      tables.table? resolution ≠ some handle := by
    intro tables same filled
    rw [Tables.table?_eq, same, ← Tables.table?_eq, vacant] at filled
    cases filled
  cases event with
  | arrive other | fail other | heal other => exact absurd found (unmoved _ fun _ => rfl)
  | advance place =>
      cases here : traffic.calls[place]? with
      | none =>
          rw [step_advance_none here] at found
          exact absurd found (unmoved _ fun _ => rfl)
      | some call =>
          obtain ⟨progress, tables, move, stepped⟩ := step_advance here
          have inside := (List.getElem?_eq_some_iff.mp here).1
          rw [stepped] at found
          refine ⟨place, call, here, ?_⟩
          obtain ⟨of, before⟩ := call
          cases move with
          | locate =>
              exact absurd found (unmoved _ fun other => Tables.slot_locate _ of other)
          | hit | miss | share | wait | stay => exact absurd found (unmoved _ fun _ => rfl)
          | start =>
              rw [Tables.table?_eq, Tables.slot_begin] at found
              split at found
              · cases found
              · exact absurd found (unmoved _ fun _ => rfl)
          | succeed healthy =>
              rw [Tables.table?_eq, Tables.slot_complete_of_not_failing healthy] at found
              split at found
              · next same =>
                  cases found
                  exact ⟨same.symm, rfl, by simp [stepped, inside]⟩
              · exact absurd found (unmoved _ fun _ => rfl)
          | fail failing =>
              rw [Tables.table?_eq, Tables.slot_complete_of_failing failing] at found
              split at found
              · cases found
              · exact absurd found (unmoved _ fun _ => rfl)

/-- A table that was not in its slot at first came into it by a construction that succeeded. -/
theorem Sound.table_origin {traffic : Traffic} (sound : traffic.Sound) {events : List Event}
    {resolution : UInt32} {handle : Handle}
    (found : (traffic.run events).tables.table? resolution = some handle) :
    traffic.tables.table? resolution = some handle ∨
      ∃ before event after, events = before ++ event :: after ∧
        Succeeds (traffic.run before) event resolution handle := by
  induction events generalizing traffic with
  | nil => exact .inl found
  | cons event events ih =>
      rcases ih (step_sound sound event) found with soon | ⟨before, success, after, rfl, succeeds⟩
      · cases first : traffic.tables.table? resolution with
        | none => exact .inr ⟨[], event, events, rfl, exists_succeeds first soon⟩
        | some other =>
            have kept := sound.keeps_table event first
            rw [soon] at kept
            exact .inl kept.symm
      · exact .inr ⟨event :: before, success, after, rfl, succeeds⟩

/-! ## Calls on a filled slot -/

/-- How far a call can have come that will return a handle without a construction of its own. -/
def Served (handle : Handle) : Progress → Prop
  | .building _ => False
  | .finished outcome => outcome = .ok handle
  | _ => True

def stepsLeft : Progress → Nat
  | .arrived => 2
  | .located => 1
  | .waiting => 1
  | .building _ => 0
  | .finished _ => 0

theorem Served.finished {handle : Handle} {progress : Progress} (served : Served handle progress)
    (ended : stepsLeft progress = 0) : progress = .finished (.ok handle) := by
  cases progress with
  | arrived | located | waiting => cases ended
  | building build => cases served
  | finished outcome => rw [show outcome = .ok handle from served]

theorem Served.advance {tables moved : Tables} {resolution : UInt32} {handle : Handle}
    {before after : Progress} (served : Served handle before)
    (move : Tables.Move tables resolution before after moved)
    (found : tables.table? resolution = some handle) :
    Served handle after ∧ stepsLeft after ≤ stepsLeft before - 1 := by
  have filled : tables.table? resolution ≠ none := by simp [found]
  cases move with
  | locate => exact ⟨trivial, Nat.le_refl _⟩
  | hit other | share other =>
      rw [found] at other
      cases other
      exact ⟨rfl, Nat.zero_le _⟩
  | miss vacant | wait vacant | start vacant => exact absurd vacant filled
  | succeed | fail => cases served
  | stay => exact ⟨served, Nat.le_refl _⟩

theorem Served.step {traffic : Traffic} {handle : Handle} {place : Nat} {resolution : UInt32}
    {before : Progress} (served : Served handle before)
    (found : traffic.tables.table? resolution = some handle)
    (here : traffic.calls[place]? = some ⟨resolution, before⟩) (event : Event) :
    ∃ after, (traffic.step event).calls[place]? = some ⟨resolution, after⟩ ∧
      Served handle after ∧
      stepsLeft after ≤ stepsLeft before - [event].count (.advance place) := by
  have inside := (List.getElem?_eq_some_iff.mp here).1
  cases event with
  | arrive other =>
      exact ⟨before, by simp [Traffic.step, List.getElem?_append_left inside, here], served,
        by simp⟩
  | fail other | heal other => exact ⟨before, here, served, by simp⟩
  | advance other =>
      by_cases same : other = place
      · subst same
        obtain ⟨after, tables, move, stepped⟩ := step_advance here
        obtain ⟨stillServed, fewer⟩ := served.advance move found
        exact ⟨after, by simp [stepped, inside], stillServed, by simpa using fewer⟩
      · refine ⟨before, ?_, served, by simp [same]⟩
        cases there : traffic.calls[other]? with
        | none => rw [step_advance_none there, here]
        | some mover =>
            obtain ⟨progress, tables, _, stepped⟩ := step_advance there
            rw [stepped, List.getElem?_set_ne same, here]

theorem Served.run {traffic : Traffic} (sound : traffic.Sound) {handle : Handle} {place : Nat}
    {resolution : UInt32} {before : Progress} (served : Served handle before)
    (found : traffic.tables.table? resolution = some handle)
    (here : traffic.calls[place]? = some ⟨resolution, before⟩) (events : List Event) :
    ∃ after, (traffic.run events).calls[place]? = some ⟨resolution, after⟩ ∧
      Served handle after ∧
      stepsLeft after ≤ stepsLeft before - events.count (.advance place) := by
  induction events generalizing traffic before with
  | nil => exact ⟨before, here, served, by simp⟩
  | cons event events ih =>
      obtain ⟨next, there, stillServed, fewer⟩ := served.step found here event
      obtain ⟨after, last, endServed, left⟩ :=
        ih (step_sound sound event) stillServed (sound.keeps_table event found) there
      refine ⟨after, last, endServed, ?_⟩
      have counted : (event :: events).count (.advance place) =
          [event].count (.advance place) + events.count (.advance place) := by
        rw [← List.singleton_append, List.count_append]
      omega

/-- A call was there before an event, or it arrives with the event. -/
theorem step_call {traffic : Traffic} {event : Event} {place : Nat} {call : Call}
    (here : (traffic.step event).calls[place]? = some call) :
    (∃ before, traffic.calls[place]? = some ⟨call.resolution, before⟩) ∨
      traffic.calls[place]? = none ∧ call.progress = .arrived := by
  cases event with
  | fail other | heal other => exact .inl ⟨call.progress, here⟩
  | arrive resolution =>
      by_cases inside : place < traffic.calls.length
      · exact .inl ⟨call.progress, by simpa [step, List.getElem?_append_left inside] using here⟩
      · refine .inr ⟨List.getElem?_eq_none (by omega), ?_⟩
        rw [step, List.getElem?_append_right (by omega)] at here
        have arrived := List.mem_of_getElem? here
        rw [List.mem_singleton.mp arrived]
  | advance other =>
      cases there : traffic.calls[other]? with
      | none =>
          rw [step_advance_none there] at here
          exact .inl ⟨call.progress, here⟩
      | some mover =>
          obtain ⟨after, tables, _, stepped⟩ := step_advance there
          rw [stepped] at here
          by_cases same : other = place
          · subst same
            have inside := (List.getElem?_eq_some_iff.mp there).1
            rw [List.getElem?_set_self inside] at here
            cases here
            exact .inl ⟨mover.progress, there⟩
          · rw [List.getElem?_set_ne same] at here
            exact .inl ⟨call.progress, here⟩

/-- Calls that come to a filled slot, or are on their way there, are served from it. -/
theorem Sound.served_of_unfinished {traffic : Traffic} (sound : traffic.Sound) {handle : Handle}
    {resolution : UInt32} (found : traffic.tables.table? resolution = some handle) {place : Nat}
    (unfinished : ∀ before, traffic.calls[place]? = some ⟨resolution, before⟩ →
      Served handle before) (events : List Event) {after : Progress}
    (here : (traffic.run events).calls[place]? = some ⟨resolution, after⟩) :
    Served handle after := by
  induction events generalizing traffic with
  | nil => exact unfinished after here
  | cons event events ih =>
      refine ih (step_sound sound event) (sound.keeps_table event found) ?_ here
      intro next there
      rcases step_call there with ⟨before, earlier⟩ | ⟨_, arrived⟩
      · obtain ⟨known, again, served, _⟩ := (unfinished before earlier).step found earlier event
        rw [there] at again
        cases again
        exact served
      · cases arrived
        trivial

/-- A call that is not over when its slot is filled has returned the handle two of its steps later. -/
theorem Sound.returns_of_unfinished {traffic : Traffic} (sound : traffic.Sound) {handle : Handle}
    {resolution : UInt32} (found : traffic.tables.table? resolution = some handle) {place : Nat}
    (unfinished : ∀ present outcome, traffic.calls[place]? = some present →
      present.progress ≠ .finished outcome) (events more : List Event) {progress : Progress}
    (here : (traffic.run events).calls[place]? = some ⟨resolution, progress⟩)
    (enough : 2 ≤ more.count (.advance place)) :
    ((traffic.run events).run more).calls[place]? =
      some ⟨resolution, .finished (.ok handle)⟩ := by
  have served : Served handle progress := by
    refine sound.served_of_unfinished found ?_ events here
    intro before there
    have quiet := sound.not_building found (List.mem_of_getElem? there) rfl
    cases before with
    | arrived | located | waiting => trivial
    | building build => cases quiet
    | finished outcome => exact absurd rfl (unfinished _ outcome there)
  obtain ⟨last, ended, lastServed, left⟩ :=
    served.run (sound.run events) (sound.keeps_table_run events found) here more
  have steps : stepsLeft progress ≤ 2 := by cases progress <;> simp [stepsLeft]
  rw [lastServed.finished (by omega)] at ended
  exact ended

/-- From an empty cache every table is loaded once, whatever calls, failures and repairs come and in
whichever order their steps are taken. -/
theorem loadsOnce_idle (slow : Bool) : LoadsOnce ⟨.empty slow, []⟩ := by
  have sound (events : List Event) : (run ⟨.empty slow, []⟩ events).Sound :=
    ((Reachable.idle slow).run events).sound
  constructor
  · intro events resolution
    exact (sound events).consistent.le_one resolution
  · intro before event after next resolution handle success
    have filled := (step_sound (sound before) event).keeps_table_run after
      ((sound before).table_of_succeeds success)
    have reached := sound (before ++ event :: after)
    rw [run_append] at reached ⊢
    exact ⟨reached.not_starts filled next, reached.not_succeeds filled next⟩
  · intro events call handle member ended
    have found := (sound events).shared call member handle ended
    refine ⟨(sound events).consistent.own _ handle found, ?_⟩
    rcases (Reachable.idle slow).sound.table_origin found with first | origin
    · cases first
    · exact origin
  · intro before event after more resolution handle place call success unfinished here same enough
    obtain ⟨_, progress⟩ := call
    cases same
    rw [run_append] at unfinished here
    rw [run_append, run_append]
    exact (step_sound (sound before) event).returns_of_unfinished
      ((sound before).table_of_succeeds success) unfinished after more here enough

end SeriesQuery.Table.Traffic
