import Mathlib.Data.Set.Card
import SeriesQuery.Proofs.Table.Balance
import SeriesQuery.Proofs.Table.LoadOnce

set_option autoImplicit false

/-!
# The accounts of a cache

Of all that calls do a cache counts three deeds: a call looks at its slot, starts a construction, or
ends the one that it started. Every call looks once, and it fails only by the end of a construction of
its own. Once all calls are over, the statistics add up to the calls, to how they ended and to the
tables that are loaded.
-/

namespace SeriesQuery.Table

/-- What a call does that its cache counts, with the place of the call in the order of arrival. -/
inductive Deed where
  /-- It looks at its slot, which holds a table by then or does not. -/
  | look (place : Nat) (loaded : Bool)
  | start (place build : Nat)
  | finish (place build : Nat) (succeeded : Bool)
  deriving DecidableEq, Repr

namespace Deed

def place : Deed → Nat
  | .look place _ | .start place _ | .finish place _ _ => place

def isHit : Deed → Bool
  | .look _ loaded => loaded
  | .start _ _ | .finish _ _ _ => false

def isMiss : Deed → Bool
  | .look _ loaded => !loaded
  | .start _ _ | .finish _ _ _ => false

def isFailure : Deed → Bool
  | .finish _ _ succeeded => !succeeded
  | .look _ _ | .start _ _ => false

/-- The construction that is started. -/
def started? : Deed → Option Nat
  | .start _ build => some build
  | .look _ _ | .finish _ _ _ => none

end Deed

/-- The deeds of the call at a place, in order, until it has come so far. -/
inductive Course (place : Nat) (resolution : UInt32) : Progress → List Deed → Prop where
  | arrived : Course place resolution .arrived []
  | located : Course place resolution .located []
  | hit {handle : Handle} : Course place resolution (.finished (.ok handle)) [.look place true]
  | miss : Course place resolution .waiting [.look place false]
  | share {handle : Handle} : Course place resolution (.finished (.ok handle)) [.look place false]
  | start {build : Nat} :
      Course place resolution (.building build) [.look place false, .start place build]
  | succeed {build : Nat} : Course place resolution (.finished (.ok ⟨resolution, build⟩))
      [.look place false, .start place build, .finish place build true]
  | fail {build : Nat} : Course place resolution (.finished (.error (Tables.failure resolution)))
      [.look place false, .start place build, .finish place build false]

namespace Tables

/-- What the next step of the call at a place does that counts. -/
def deed? (tables : Tables) (place : Nat) (call : Call) : Option Deed :=
  match call.progress with
  | .located => some (.look place (tables.isLoaded call.resolution))
  | .waiting =>
    match tables.slot call.resolution with
    | ⟨none, false⟩ => some (.start place tables.builds)
    | _ => none
  | .building build => some (.finish place build (!tables.failing.contains call.resolution))
  | .arrived | .finished _ => none

/-- What a cache counts is told by the deeds of its calls, and constructions are numbered in the order
in which they are started. -/
structure Counted (tables : Tables) (deeds : List Deed) : Prop where
  hits : tables.hits = deeds.countP Deed.isHit
  misses : tables.misses = deeds.countP Deed.isMiss
  builds : deeds.filterMap Deed.started? = List.range tables.builds
  failures : tables.failures = deeds.countP Deed.isFailure

/-! ## One move -/

section

variable {tables moved : Tables} {resolution : UInt32} {before after : Progress} {place : Nat}

theorem place_of_deed {call : Call} {deed : Deed} (done : tables.deed? place call = some deed) :
    deed.place = place := by
  rw [deed?] at done
  split at done
  · cases done
    rfl
  · split at done
    · cases done
      rfl
    · cases done
  · cases done
    rfl
  · cases done
  · cases done

theorem deed?_waiting (waits : (tables.slot resolution).table = none →
    (tables.slot resolution).building = true) :
    tables.deed? place ⟨resolution, .waiting⟩ = none := by
  simp only [deed?]
  split
  · next free =>
      rw [free] at waits
      cases waits rfl
  · rfl

theorem deed?_start (vacant : tables.table? resolution = none)
    (free : (tables.slot resolution).building = false) :
    tables.deed? place ⟨resolution, .waiting⟩ = some (.start place tables.builds) := by
  have slot : tables.slot resolution = ⟨none, false⟩ := by rw [← vacant, ← free, table?_eq]
  simp only [deed?, slot]

/-- The deed of a move by the kind of the move. -/
theorem Move.deed?_eq (move : Move tables resolution before after moved) (place : Nat) :
    tables.deed? place ⟨resolution, before⟩ =
      match before, after with
      | .located, .finished _ => some (.look place true)
      | .located, _ => some (.look place false)
      | .waiting, .building build => some (.start place build)
      | .building build, .finished (.ok _) => some (.finish place build true)
      | .building build, _ => some (.finish place build false)
      | _, _ => none := by
  cases move with
  | locate | stay => rfl
  | hit found => simp [deed?, isLoaded, found]
  | miss vacant => simp [deed?, isLoaded, vacant]
  | share found => exact deed?_waiting fun vacant => by rw [table?, vacant] at found; cases found
  | wait _ building => exact deed?_waiting fun _ => building
  | start vacant free => exact deed?_start vacant free
  | succeed healthy => simp [deed?, healthy]
  | fail failing => simp [deed?, failing]

/-- A move takes the deeds of its call one step further. -/
theorem Move.course (move : Move tables resolution before after moved) {past : List Deed}
    (course : Course place resolution before past) :
    Course place resolution after
      (past ++ (tables.deed? place ⟨resolution, before⟩).toList) := by
  rw [move.deed?_eq place]
  cases move with
  | locate =>
      cases course
      exact .located
  | hit =>
      cases course
      exact .hit
  | miss =>
      cases course
      exact .miss
  | share =>
      cases course
      exact .share
  | wait =>
      cases course
      exact .miss
  | start =>
      cases course
      exact .start
  | succeed =>
      cases course
      exact .succeed
  | fail =>
      cases course
      exact .fail
  | stay =>
      rw [Option.toList_none, List.append_nil]
      exact course

theorem Counted.append {past : List Deed} (counted : tables.Counted past) {deed : Deed}
    (hits : moved.hits = tables.hits + deed.isHit.toNat)
    (misses : moved.misses = tables.misses + deed.isMiss.toNat)
    (builds : List.range moved.builds = List.range tables.builds ++ deed.started?.toList)
    (failures : moved.failures = tables.failures + deed.isFailure.toNat) :
    moved.Counted (past ++ [deed]) where
  hits := by
    rw [hits, counted.hits, List.countP_append, List.countP_singleton]
    cases deed.isHit <;> rfl
  misses := by
    rw [misses, counted.misses, List.countP_append, List.countP_singleton]
    cases deed.isMiss <;> rfl
  builds := by
    rw [builds, List.filterMap_append, counted.builds]
    cases deed <;> rfl
  failures := by
    rw [failures, counted.failures, List.countP_append, List.countP_singleton]
    cases deed.isFailure <;> rfl

theorem Move.counted (move : Move tables resolution before after moved) {past : List Deed}
    (counted : tables.Counted past) (place : Nat) :
    moved.Counted (past ++ (tables.deed? place ⟨resolution, before⟩).toList) := by
  have unchanged (moved : Tables) : List.range moved.builds = List.range moved.builds ++ [] :=
    (List.append_nil _).symm
  rw [move.deed?_eq place]
  cases move with
  | locate | share | wait | stay =>
      rw [Option.toList_none, List.append_nil]
      exact ⟨counted.hits, counted.misses, counted.builds, counted.failures⟩
  | hit | miss => exact counted.append rfl rfl (unchanged tables) rfl
  | start => exact counted.append rfl rfl List.range_succ rfl
  | succeed healthy =>
      simp only [complete, if_neg (mt List.contains_iff_mem.mp healthy)]
      exact counted.append rfl rfl (unchanged tables) rfl
  | fail failing =>
      simp only [complete, if_pos (List.contains_iff_mem.mpr failing)]
      exact counted.append rfl rfl (unchanged tables) rfl

end

/-- As many tables are loaded as there are resolutions whose table is loaded. -/
theorem loadedCount_eq_ncard {tables : Tables} (distinct : tables.Distinct) :
    tables.loadedCount = {resolution | tables.isLoaded resolution = true}.ncard := by
  have nodup : tables.loadedKeys.Nodup := distinct.sublist (List.filter_sublist.map _)
  have same : {resolution | tables.isLoaded resolution = true} =
      (tables.loadedKeys.toFinset : Set UInt32) := by
    ext resolution
    simp [mem_loadedKeys distinct]
  rw [same, Set.ncard_coe_finset, List.toFinset_card_of_nodup nodup, loadedKeys, List.length_map,
    loadedCount]

theorem loadedCount_le {tables others : Tables} (distinct : tables.Distinct)
    (alsoDistinct : others.Distinct)
    (kept : ∀ resolution, tables.isLoaded resolution = true → others.isLoaded resolution = true) :
    tables.loadedCount ≤ others.loadedCount := by
  have nodup : tables.loadedKeys.Nodup := distinct.sublist (List.filter_sublist.map _)
  have inside : tables.loadedKeys ⊆ others.loadedKeys := fun resolution member =>
    (mem_loadedKeys alsoDistinct resolution).mpr
      (kept resolution ((mem_loadedKeys distinct resolution).mp member))
  have fewer := (List.subperm_of_subset nodup inside).length_le
  rwa [loadedKeys, loadedKeys, List.length_map, List.length_map] at fewer

end Tables

/-! ## A run -/

namespace Traffic

def deed? (traffic : Traffic) : Event → Option Deed
  | .advance place => traffic.calls[place]?.bind (traffic.tables.deed? place)
  | .arrive _ | .fail _ | .heal _ => none

/-- All that calls do that counts, in order. -/
def deeds (traffic : Traffic) : List Event → List Deed
  | [] => []
  | event :: rest => (traffic.deed? event).toList ++ (traffic.step event).deeds rest

/-- A state of traffic is told by the deeds that led to it. -/
structure Told (traffic : Traffic) (past : List Deed) : Prop where
  counted : traffic.tables.Counted past
  courses : ∀ (place : Nat) (call : Call), traffic.calls[place]? = some call →
    Course place call.resolution call.progress (past.filter (·.place = place))
  placed : ∀ deed ∈ past, deed.place < traffic.calls.length

variable {traffic : Traffic} {past : List Deed}

theorem told_idle (slow : Bool) : Told ⟨.empty slow, []⟩ [] where
  counted := ⟨rfl, rfl, rfl, rfl⟩
  courses _ _ found := by cases found
  placed _ member := by cases member

theorem Told.arrive (told : traffic.Told past) (resolution : UInt32) :
    (traffic.step (.arrive resolution)).Told past where
  counted := told.counted
  courses place call found := by
    rw [step] at found
    by_cases inside : place < traffic.calls.length
    · rw [List.getElem?_append_left inside] at found
      exact told.courses place call found
    · have none : past.filter (·.place = place) = [] := by
        refine List.filter_eq_nil_iff.mpr fun deed member same => ?_
        have before := told.placed deed member
        rw [of_decide_eq_true same] at before
        exact inside before
      rw [List.getElem?_append_right (Nat.not_lt.mp inside)] at found
      rw [none, List.mem_singleton.mp (List.mem_of_getElem? found)]
      exact .arrived
  placed deed member := by
    have before := told.placed deed member
    simp [step]
    omega

theorem Told.advance (told : traffic.Told past) (place : Nat) :
    (traffic.step (.advance place)).Told
      (past ++ (traffic.deed? (.advance place)).toList) := by
  cases here : traffic.calls[place]? with
  | none =>
      rw [step_advance_none here, deed?, here]
      simpa using told
  | some mover =>
      obtain ⟨progress, tables, move, stepped⟩ := step_advance here
      have inside := (List.getElem?_eq_some_iff.mp here).1
      have deed : traffic.deed? (.advance place) = traffic.tables.deed? place mover := by
        rw [deed?, here, Option.bind_some]
      rw [stepped, deed]
      refine ⟨move.counted told.counted place, ?_, ?_⟩
      · intro other call found
        rw [List.filter_append]
        by_cases same : place = other
        · subst same
          rw [List.getElem?_set_self inside] at found
          cases found
          have mine : (traffic.tables.deed? place mover).toList.filter (·.place = place) =
              (traffic.tables.deed? place mover).toList := by
            refine List.filter_eq_self.mpr fun deed done => ?_
            simpa using Tables.place_of_deed (Option.mem_toList.mp done)
          rw [mine]
          exact move.course (told.courses place mover here)
        · rw [List.getElem?_set_ne same] at found
          have others : (traffic.tables.deed? place mover).toList.filter (·.place = other) = [] := by
            refine List.filter_eq_nil_iff.mpr fun deed done => ?_
            rw [Tables.place_of_deed (Option.mem_toList.mp done)]
            simpa using same
          rw [others, List.append_nil]
          exact told.courses other call found
      · intro deed member
        rw [List.length_set]
        rcases List.mem_append.mp member with old | new
        · exact told.placed deed old
        · rwa [Tables.place_of_deed (Option.mem_toList.mp new)]

theorem Told.step (told : traffic.Told past) (event : Event) :
    (traffic.step event).Told (past ++ (traffic.deed? event).toList) := by
  cases event with
  | advance place => exact told.advance place
  | arrive resolution =>
      rw [deed?, Option.toList_none, List.append_nil]
      exact told.arrive resolution
  | fail resolution | heal resolution =>
      rw [deed?, Option.toList_none, List.append_nil]
      exact ⟨⟨told.counted.hits, told.counted.misses, told.counted.builds, told.counted.failures⟩,
        told.courses, told.placed⟩

theorem Told.run (told : traffic.Told past) (events : List Event) :
    (traffic.run events).Told (past ++ traffic.deeds events) := by
  induction events generalizing traffic past with
  | nil =>
      rw [deeds, List.append_nil]
      exact told
  | cons event events ih =>
      rw [deeds, ← List.append_assoc]
      exact ih (told.step event)

/-! ## Arrivals and loaded tables -/

/-- The resolutions that calls ask for, in the order of arrival. -/
def arrivals : List Event → List UInt32
  | [] => []
  | .arrive resolution :: rest => resolution :: arrivals rest
  | .advance _ :: rest | .fail _ :: rest | .heal _ :: rest => arrivals rest

theorem resolutions_run (traffic : Traffic) (events : List Event) :
    (traffic.run events).calls.map (·.resolution) =
      traffic.calls.map (·.resolution) ++ arrivals events := by
  induction events generalizing traffic with
  | nil => exact (List.append_nil _).symm
  | cons event events ih =>
      refine (ih (traffic.step event)).trans ?_
      cases event with
      | fail resolution | heal resolution => rfl
      | arrive resolution => simp [step, arrivals]
      | advance place =>
          rw [arrivals]
          congr 1
          cases here : traffic.calls[place]? with
          | none => rw [step_advance_none here]
          | some call =>
              obtain ⟨progress, tables, _, stepped⟩ := step_advance here
              obtain ⟨inside, rfl⟩ := List.getElem?_eq_some_iff.mp here
              have unset := List.set_getElem_self
                (show place < (traffic.calls.map (·.resolution)).length by simpa using inside)
              rw [List.getElem_map] at unset
              rw [stepped, List.map_set]
              exact unset

/-- Tables that are loaded stay loaded. -/
theorem Reachable.loadedCount_le {traffic : Traffic} (reached : Reachable traffic)
    (events : List Event) :
    traffic.tables.loadedCount ≤ (traffic.run events).tables.loadedCount := by
  refine Tables.loadedCount_le reached.balanced.distinct (reached.run events).balanced.distinct ?_
  intro resolution loaded
  obtain ⟨handle, found⟩ := Option.isSome_iff_exists.mp loaded
  rw [Tables.isLoaded, reached.sound.keeps_table_run events found]
  rfl

/-- All calls have ended. -/
def IsOver (traffic : Traffic) : Prop :=
  ∀ call ∈ traffic.calls, ∃ outcome, call.progress = .finished outcome

/-! ## The accounts -/

/-- What the statistics of a cache tell of the calls on it. -/
structure Accounted (start : Traffic) (events : List Event) : Prop where
  /-- The calls are those that arrived. -/
  calls : (start.run events).calls.map (·.resolution) = arrivals events
  /-- Every call takes a course of its own: it looks at its slot once, starts a construction only if the
  slot holds no table, and fails only as this construction fails. -/
  courses : ∀ (place : Nat) (call : Call), (start.run events).calls[place]? = some call →
    Course place call.resolution call.progress ((start.deeds events).filter (·.place = place))
  /-- No two constructions are one and the same. -/
  builds : (start.deeds events).filterMap Deed.started? = List.range (start.run events).tables.builds
  /-- A call is a hit if and only if its table was loaded when it looked. -/
  hits : (start.run events).tables.hits = (start.deeds events).countP Deed.isHit
  misses : (start.run events).tables.misses = (start.deeds events).countP Deed.isMiss
  failures : (start.run events).tables.failures = (start.deeds events).countP Deed.isFailure
  loaded : (start.run events).tables.loadedCount =
    {resolution | (start.run events).tables.isLoaded resolution = true}.ncard
  grows : ∀ more, (start.run events).tables.loadedCount ≤
    (start.run (events ++ more)).tables.loadedCount
  /-- Once all calls are over, each was a hit or a miss, -/
  lookups : (start.run events).IsOver →
    (start.run events).tables.hits + (start.run events).tables.misses = (arrivals events).length
  /-- each construction failed or loaded its table, -/
  constructions : (start.run events).IsOver → (start.run events).tables.builds =
    (start.run events).tables.failures + (start.run events).tables.loadedCount
  /-- and the failures are those of the calls that ended with one. -/
  failed : (start.run events).IsOver → (start.run events).tables.failures =
    (start.run events).calls.countP (·.progress.hasFailed)

/-- The accounts of a cache add up, whatever calls, failures and repairs come and in whichever order
their steps are taken. -/
theorem accounted_idle (slow : Bool) (events : List Event) :
    Accounted ⟨.empty slow, []⟩ events := by
  have reached := (Reachable.idle slow).run events
  have balanced := reached.balanced
  have told := (told_idle slow).run events
  have calls := resolutions_run ⟨.empty slow, []⟩ events
  rw [List.nil_append] at told
  rw [List.map_nil, List.nil_append] at calls
  refine ⟨calls, told.courses, told.counted.builds, told.counted.hits, told.counted.misses,
    told.counted.failures, Tables.loadedCount_eq_ncard balanced.distinct, ?_, ?_, ?_, ?_⟩
  · intro more
    rw [run_append]
    exact reached.loadedCount_le more
  · intro ended
    have looked : ∀ call ∈ (run ⟨.empty slow, []⟩ events).calls, call.progress.hasLooked = true := by
      intro call member
      obtain ⟨outcome, finished⟩ := ended call member
      rw [finished]
      rfl
    have lookups := balanced.lookups
    rw [List.countP_eq_length.mpr looked] at lookups
    rw [← calls, List.length_map]
    exact lookups
  · intro ended
    have landed : ∀ call ∈ (run ⟨.empty slow, []⟩ events).calls,
        ¬ call.progress.isBuilding = true := by
      intro call member
      obtain ⟨outcome, finished⟩ := ended call member
      rw [finished]
      exact Bool.false_ne_true
    have builds := balanced.builds
    rw [List.countP_eq_zero.mpr landed, Tally.total, balanced.failed, balanced.ok] at builds
    omega
  · intro _
    exact balanced.failures

/-- The second of three calls tries again after the first has failed, and the third finds its table. -/
example : deeds ⟨.empty true, []⟩ [.fail 1, .arrive 1, .arrive 1, .arrive 1,
      .advance 0, .advance 0, .advance 0, .advance 1, .advance 1, .advance 1, .advance 0, .heal 1,
      .advance 1, .advance 1, .advance 2, .advance 2] =
    [.look 0 false, .start 0 0, .look 1 false, .finish 0 0 false, .start 1 1, .finish 1 1 true,
      .look 2 true] := by
  decide

end Traffic

end SeriesQuery.Table
