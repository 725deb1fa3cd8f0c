import PluginHost.Process.Basic

/-!
# Orders of objects

Objects are started after those that they need, and ended before them. The order comes from a walk
in depth: an object is put in front of all that have been put down since the walk came to it.
-/

namespace PluginHost

/-- How far a walk has come: the objects that it has seen, and those that it has put down. -/
structure Walk where
  seen : List ObjectId
  order : List ObjectId

namespace Process

/-- What an object leads to: what it needs and, at the end, also what it has been bound to. -/
def leadsTo (process : Process) (isEnd : Bool) (id : ObjectId) : List ObjectId :=
  match process.object? id with
  | none => []
  | some object => object.needs.getD [] ++ if isEnd then object.bonds else []

/-- Walk from some objects, at most so deep. -/
def walk (process : Process) (isEnd : Bool) : Nat → List ObjectId → Walk → Walk
  | 0, _, walked => walked
  | depth + 1, ids, walked =>
      ids.foldl
        (fun walked id =>
          if walked.seen.contains id then walked
          else
            let inner := process.walk isEnd depth (process.leadsTo isEnd id)
              { walked with seen := id :: walked.seen }
            { inner with order := id :: inner.order })
        walked

/-- The order of some objects, walking from the last to the first. -/
def ordered (process : Process) (isEnd : Bool) (ids : List ObjectId) : List ObjectId :=
  let walked := process.walk isEnd (process.objects.length + 1) ids.reverse ⟨[], []⟩
  walked.order.filter ids.contains

/-- The order of objects of which the first stays first. -/
def orderedFrom (process : Process) (first : ObjectId) (ids : List ObjectId) : List ObjectId :=
  first :: (process.ordered false ids).filter (· ≠ first)

/-- The order in which objects are ended. What they have been bound to counts less than what they
need. -/
def orderedForEnd (process : Process) (ids : List ObjectId) : List ObjectId :=
  let order := process.ordered true ids
  if process.objects.any fun object => !object.bonds.isEmpty then process.ordered false order
  else order

end Process

end PluginHost
