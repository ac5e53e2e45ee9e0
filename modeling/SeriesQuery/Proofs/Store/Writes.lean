import SeriesQuery.Proofs.Store.History
import SeriesQuery.Store.Scan

set_option autoImplicit false

/-!
# What the totals of a store hold after its history

Calls that add to totals and calls that record seconds fill a store in any order. The totals of the
rows that a filter asks for then add up to the two's-complement sum of what was added to them, and
nothing that was recorded in a second has a part in it.
-/

namespace SeriesQuery.Store

open SeriesQuery.Series

inductive Write where
  | record (call : Recording)
  | increment (key : RowKey) (delta : Int64)
  deriving DecidableEq, Repr

def write (store : Store) : Write → Store
  | .record call => store.record call.key call.time call.value
  | .increment key delta => store.increment key delta

/-- The store that calls fill, one after the other. -/
def ofWrites (writes : List Write) : Store :=
  writes.foldl write empty

/-- What a call adds to the totals that a filter asks for, if it adds to one of them. -/
def Write.delta? (filter : RowFilter) : Write → Option Int64
  | .record _ => none
  | .increment key delta => if filter.Matches key then some delta else none

/-- The two's-complement sum of what calls added to the totals that a filter asks for. -/
def addedTo (filter : RowFilter) (writes : List Write) : Int64 :=
  Int64.ofInt (exactSum (writes.filterMap (Write.delta? filter)))

/-- What the totals that a filter asks for hold together. -/
def heldBy (filter : RowFilter) (totals : List TotalRow) : Int64 :=
  Int64.ofInt (exactSum ((totals.filter fun row => filter.accepts row.key).map (·.value)))

theorem heldBy_cons (filter : RowFilter) (row : TotalRow) (rest : List TotalRow) :
    heldBy filter (row :: rest) =
      (if filter.accepts row.key then row.value else 0) + heldBy filter rest := by
  by_cases accepted : filter.accepts row.key <;> simp [heldBy, exactSum, accepted]

theorem heldBy_addTotal (filter : RowFilter) (key : RowKey) (value : Int64)
    (totals : List TotalRow) :
    heldBy filter (addTotal key value totals) =
      (if filter.accepts key then value else 0) + heldBy filter totals := by
  induction totals with
  | nil => rw [addTotal, heldBy_cons]
  | cons row rest ih =>
      rw [addTotal]
      split
      · next same =>
          rw [heldBy_cons, heldBy_cons, same]
          by_cases accepted : filter.accepts key
          · simp only [accepted, ↓reduceIte]
            grind
          · simp [accepted]
      · rw [heldBy_cons, heldBy_cons, ih]
        grind

theorem heldBy_write (filter : RowFilter) (store : Store) (call : Write) :
    heldBy filter (store.write call).totals =
      ((call.delta? filter).getD 0) + heldBy filter store.totals := by
  cases call with
  | record call => exact (Int64.zero_add _).symm
  | increment key delta =>
      have added := heldBy_addTotal filter key delta store.totals
      simp only [RowFilter.accepts_iff] at added
      rw [write, increment, added, Write.delta?]
      by_cases matched : filter.Matches key
      · rw [if_pos matched, if_pos matched, Option.getD_some]
      · rw [if_neg matched, if_neg matched, Option.getD_none]

theorem addedTo_cons (filter : RowFilter) (call : Write) (writes : List Write) :
    addedTo filter (call :: writes) = ((call.delta? filter).getD 0) + addedTo filter writes := by
  cases added : call.delta? filter <;> simp [addedTo, added, exactSum]

/-- The totals that a filter asks for hold together what the calls added to them. -/
theorem heldBy_ofWrites (filter : RowFilter) (writes : List Write) :
    heldBy filter (ofWrites writes).totals = addedTo filter writes := by
  -- By induction on the calls, from any store that they are made on.
  have start (store : Store) :
      heldBy filter (writes.foldl write store).totals =
        heldBy filter store.totals + addedTo filter writes := by
    induction writes generalizing store with
    | nil => simp [addedTo, exactSum]
    | cons call writes ih =>
        rw [List.foldl_cons, ih, heldBy_write, addedTo_cons]
        grind
  rw [ofWrites, start]
  exact Int64.zero_add _

theorem scanTotals_perm (store : Store) (filter : RowFilter) :
    (store.scanTotals filter).Perm (store.totals.filter fun row => filter.accepts row.key) :=
  List.mergeSort_perm _ _

/-- A scan of totals gives rows that hold together what the totals asked for hold. -/
theorem exactSum_scanTotals (store : Store) (filter : RowFilter) :
    Int64.ofInt (exactSum ((store.scanTotals filter).map (·.value))) =
      heldBy filter store.totals := by
  rw [heldBy, exactSum_perm ((store.scanTotals_perm filter).map _)]

end SeriesQuery.Store
