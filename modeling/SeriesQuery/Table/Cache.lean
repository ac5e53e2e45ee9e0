import SeriesQuery.Counters
import SeriesQuery.Error

set_option autoImplicit false

/-!
# The table cache

For each resolution the time-series table is constructed once and then handed to every caller. A
call goes through steps: it arrives, finds the slot of its resolution, checks whether the slot holds
a table (a hit) or not (a miss), and after a miss waits until the slot holds a table or no
construction is in flight; in the latter case it starts a construction of its own. A failed
construction leaves the slot empty, so that the next call that waits tries again. `Tables.advance`
is one step of one call; steps of several calls may come in any order.
-/

namespace SeriesQuery.Table

/-- A constructed table, told apart by the ordinal of its construction. -/
structure Handle where
  resolution : UInt32
  /-- How many constructions had been started before this one. -/
  build : Nat
  deriving DecidableEq, Repr

structure Slot where
  table : Option Handle
  building : Bool
  deriving DecidableEq, Repr

/-- The slot of a resolution that was not asked for before. -/
def Slot.empty : Slot := ⟨none, false⟩

/-- The cache together with what constructs its tables. -/
structure Tables where
  /-- The slots, in the order in which their resolutions were first asked for. -/
  slots : List (UInt32 × Slot)
  hits : Nat
  misses : Nat
  failures : Nat
  loads : Tally
  builds : Nat
  failing : List UInt32
  /-- Whether a construction takes time, during which other calls can move. -/
  slow : Bool
  deriving DecidableEq, Repr

inductive Progress where
  | arrived
  | located
  /-- The call has missed and waits for its turn. -/
  | waiting
  /-- The construction that the call started is in flight. -/
  | building (build : Nat)
  | finished (outcome : Except StorageError Handle)

namespace Tables

def empty (slow : Bool) : Tables where
  slots := []
  hits := 0
  misses := 0
  failures := 0
  loads := .zero
  builds := 0
  failing := []
  slow

/-- The slot of a resolution; an empty one if it was not asked for before. -/
def slot (tables : Tables) (resolution : UInt32) : Slot :=
  (tables.slots.lookup resolution).getD .empty

def table? (tables : Tables) (resolution : UInt32) : Option Handle :=
  (tables.slot resolution).table

def isLoaded (tables : Tables) (resolution : UInt32) : Bool :=
  (tables.table? resolution).isSome

def loadedCount (tables : Tables) : Nat :=
  (tables.slots.filter (·.2.table.isSome)).length

/-- Slots with the one of a resolution replaced, or added after the others. -/
def putSlot (resolution : UInt32) (slot : Slot) : List (UInt32 × Slot) → List (UInt32 × Slot)
  | [] => [(resolution, slot)]
  | (other, old) :: rest =>
    if other = resolution then (resolution, slot) :: rest
    else (other, old) :: putSlot resolution slot rest

/-- Makes sure that a resolution has a slot. -/
def locate (tables : Tables) (resolution : UInt32) : Tables :=
  { tables with slots := putSlot resolution (tables.slot resolution) tables.slots }

def begin (tables : Tables) (resolution : UInt32) : Tables :=
  { tables with
    slots := putSlot resolution ⟨none, true⟩ tables.slots
    builds := tables.builds + 1 }

/-- Why the construction for a resolution that fails at present fails. -/
def failure (resolution : UInt32) : StorageError :=
  .tableLoad resolution "injected failure"

/-- Ends a construction: it fails if its resolution is failing now, and is kept if not. -/
def complete (tables : Tables) (resolution : UInt32) (build : Nat) :
    Except StorageError Handle × Tables :=
  if tables.failing.contains resolution then
    (.error (failure resolution),
      { tables with
        slots := putSlot resolution .empty tables.slots
        failures := tables.failures + 1
        loads := tables.loads.count false })
  else
    (.ok ⟨resolution, build⟩,
      { tables with
        slots := putSlot resolution ⟨some ⟨resolution, build⟩, false⟩ tables.slots
        loads := tables.loads.count true })

/-- One step of a call for a resolution. A call that waits for a construction in flight stays where
it is. -/
def advance (tables : Tables) (resolution : UInt32) : Progress → Progress × Tables
  | .arrived => (.located, tables.locate resolution)
  | .located =>
    match tables.table? resolution with
    | some handle => (.finished (.ok handle), { tables with hits := tables.hits + 1 })
    | none => (.waiting, { tables with misses := tables.misses + 1 })
  | .waiting =>
    match tables.slot resolution with
    | ⟨some handle, _⟩ => (.finished (.ok handle), tables)
    | ⟨none, true⟩ => (.waiting, tables)
    | ⟨none, false⟩ => (.building tables.builds, tables.begin resolution)
  | .building build =>
    let (outcome, tables) := tables.complete resolution build
    (.finished outcome, tables)
  | .finished outcome => (.finished outcome, tables)

def fail (tables : Tables) (resolution : UInt32) : Tables :=
  { tables with failing := resolution :: tables.failing.filter (· ≠ resolution) }

def heal (tables : Tables) (resolution : UInt32) : Tables :=
  { tables with failing := tables.failing.filter (· ≠ resolution) }

/-- A whole call, while no other is under way. -/
def get (tables : Tables) (resolution : UInt32) : Except StorageError Handle × Tables :=
  let tables := tables.locate resolution
  match tables.table? resolution with
  | some handle => (.ok handle, { tables with hits := tables.hits + 1 })
  | none =>
    let tables := { tables with misses := tables.misses + 1 }
    (tables.begin resolution).complete resolution tables.builds

end Tables

end SeriesQuery.Table
