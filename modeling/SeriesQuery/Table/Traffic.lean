import SeriesQuery.Table.Cache

set_option autoImplicit false

/-!
# Concurrent calls on the cache

Any number of calls on one cache, advanced step by step in an order that a list of events gives,
while constructions are made to fail and healed in between. `Tables.getTogether` is one such order:
that of calls which are made at the same time.
-/

namespace SeriesQuery.Table

structure Call where
  resolution : UInt32
  progress : Progress

/-- A cache and the calls that have been made on it, in the order of their arrival. -/
structure Traffic where
  tables : Tables
  calls : List Call

inductive Event where
  | arrive (resolution : UInt32)
  /-- A step of the call at a place in the order of arrival. -/
  | advance (place : Nat)
  /-- Constructions for a resolution fail from now on. -/
  | fail (resolution : UInt32)
  /-- Constructions for a resolution succeed from now on. -/
  | heal (resolution : UInt32)
  deriving DecidableEq, Repr

namespace Traffic

/-- One event. A step of a call that is not there changes nothing. -/
def step (traffic : Traffic) : Event → Traffic
  | .arrive resolution => { traffic with calls := traffic.calls ++ [⟨resolution, .arrived⟩] }
  | .advance place =>
    match traffic.calls[place]? with
    | none => traffic
    | some call =>
      let (progress, tables) := traffic.tables.advance call.resolution call.progress
      ⟨tables, traffic.calls.set place { call with progress }⟩
  | .fail resolution => { traffic with tables := traffic.tables.fail resolution }
  | .heal resolution => { traffic with tables := traffic.tables.heal resolution }

def run (traffic : Traffic) (events : List Event) : Traffic :=
  events.foldl step traffic

/-- The outcomes of the calls that are over, in the order of arrival. -/
def outcomes (traffic : Traffic) : List (Except StorageError Handle) :=
  traffic.calls.filterMap fun call =>
    match call.progress with
    | .finished outcome => some outcome
    | _ => none

end Traffic

/-- Each of the first `count` calls takes `steps` steps, one call after the other. -/
def inTurn (steps count : Nat) : List Event :=
  (List.range count).flatMap fun place => List.replicate steps (.advance place)

/-- The order of the steps of `count` calls for one resolution that are made at the same time. If
constructions take time, all calls check the slot before the first construction ends; otherwise
each call is over before the next one starts. -/
def together (slow : Bool) (count : Nat) : List Event :=
  if slow then inTurn 2 count ++ inTurn 2 count else inTurn 4 count

/-- The outcomes of calls for one resolution that are made at the same time. -/
def Tables.getTogether (tables : Tables) (resolution : UInt32) (count : Nat) :
    List (Except StorageError Handle) × Tables :=
  let calls := List.replicate count ⟨resolution, .arrived⟩
  let traffic := (Traffic.mk tables calls).run (together tables.slow count)
  (traffic.outcomes, traffic.tables)

end SeriesQuery.Table
