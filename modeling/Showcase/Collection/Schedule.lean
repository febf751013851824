import Showcase.Fault
import Showcase.Number.Binary64

namespace Showcase

/-! # Work in parallel

Items are worked on at the same time and finish in some order.  Results keep the order
of the items; progress is told in the order of finishing.  A failure stops the work on
items that have not been begun, and of several failures the one that came first in time
counts.
-/

/-- How far the work is. -/
structure Progress where
  current : Nat
  total : Nat
  label : String
deriving DecidableEq, Repr, Inhabited

/-- The share of the work that is done, in percent. -/
def Progress.percentage (progress : Progress) : Binary64 :=
  if progress.total = 0 then .zero
  else ((Binary64.ofNat progress.current).div (.ofNat progress.total)).mul (.ofNat 100)

/-- The indices of items in the order in which they finish. -/
abbrev Schedule := List Nat

/-- How work on any number of items goes. -/
abbrev Plan := Nat → Schedule

namespace Schedule

/-- The schedule of work on one item after the other. -/
def inOrder : Plan := List.range

/-- The items that finish, in their order. -/
def finished (schedule : Schedule) (items : List α) : List α := schedule.filterMap (items[·]?)

/-- Tells of finished items; `done` have finished before. -/
def ticksFrom (total done : Nat) : List String → List Progress
  | [] => []
  | label :: rest => ⟨done + 1, total, label⟩ :: ticksFrom total (done + 1) rest

/-- The progress that is told. -/
def ticks (schedule : Schedule) (label : α → String) (items : List α) : List Progress :=
  ticksFrom items.length 0 ((schedule.finished items).map label)

/-- Work that cannot fail: the results in the order of the items. -/
def run (schedule : Schedule) (label : α → String) (work : α → β) (items : List α) :
    List β × List Progress :=
  (items.map work, schedule.ticks label items)

/-- The first failure among results. -/
def firstFault : List (Except Fault β) → Option Fault
  | [] => none
  | .error fault :: _ => some fault
  | .ok _ :: rest => firstFault rest

/-- The results that are no failures. -/
def successes (results : List (Except Fault β)) : List β :=
  results.filterMap fun
    | .ok b => some b
    | .error _ => none

/-- Work that may fail. -/
def runOrFail (schedule : Schedule) (label : α → String) (work : α → Except Fault β)
    (items : List α) : Except Fault (List β) × List Progress :=
  (match firstFault ((schedule.finished items).map work) with
    | some fault => .error fault
    | none => .ok (successes (items.map work)),
   schedule.ticks label items)

end Schedule

end Showcase
