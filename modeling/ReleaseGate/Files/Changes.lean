import ReleaseGate.Files.FileSystem

/-!
# Changes of a file system

A program that works on a file system as a value leaves another value behind. `changes` lists what has to be done to the first
so that the second comes of it: what is no longer there is removed, the inner before the outer, and what is new is made in the
order in which it was made there.
-/

namespace ReleaseGate

/-- One change of a file system. -/
inductive Change where
  /-- Removes a file, a link or an empty directory. -/
  | remove (place : Place) (old : Node)
  /-- Makes or replaces what stands at a place. -/
  | put (place : Place) (new : Node)
  deriving DecidableEq, Repr

/-- Whether one node can become another without being removed first. -/
def Node.canBecome : Node → Node → Bool
  | .file _ _, .file _ _ => true
  | old, new => old == new

namespace FileSystem

/-- What has to be removed from a file system so that another can be made of it. -/
def removals (before after : FileSystem) : List Change :=
  let gone := before.nodes.reverse.filter fun (place, old) => !(after.node? place).any old.canBecome
  gone.map fun (place, old) => .remove place old

/-- What has to be made in a file system so that it becomes another. -/
def additions (before after : FileSystem) : List Change :=
  let made := after.nodes.filter fun (place, new) => before.node? place != some new
  made.map fun (place, new) => .put place new

/-- What has to be done to a file system so that it becomes another. -/
def changes (before after : FileSystem) : List Change := before.removals after ++ before.additions after

end FileSystem

end ReleaseGate
