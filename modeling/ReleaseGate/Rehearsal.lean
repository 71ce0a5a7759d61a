import ReleaseGate.Pipeline
import ReleaseGate.Publish.Memory

/-!
# Rehearsed runs

A rehearsal is a run whose channels are in memory and whose tokens are fixed, so that what it would upload, and for which
channels it asks for credentials, can be read off its state afterwards. Nothing else about it differs from a run.
-/

namespace ReleaseGate

/-- What rehearsed runs work on. -/
structure Rehearsal where
  files : FileSystem := {}
  registry : MemoryRegistry := {}
  /-- The channels for which credentials were asked for, in order. -/
  issued : List Channel := []

namespace Rehearsal

/-- The registry of a rehearsal. -/
def registryPart : Stepwise.Part Rehearsal MemoryRegistry := ⟨registry, fun s registry => { s with registry }⟩

/-- The credentials that were asked for. -/
def issuedPart : Stepwise.Part Rehearsal (List Channel) := ⟨issued, fun s issued => { s with issued }⟩

/-- What a computation on files makes of a rehearsal. -/
def onFiles {α : Type} (f : FileSystem → α × FileSystem) (s : Rehearsal) : α × Rehearsal :=
  let (a, files) := f s.files
  (a, { s with files })

/-- What uploads in a rehearsal, at a fixed time. -/
def publisher (endpoints : PerChannel (Option String)) (now : Timestamp) : Publisher Rehearsal :=
  { registry := fun u => Stepwise.within registryPart (MemoryRegistry.upload u), endpoints, clock := fun _ => now }

/-- What issues tokens in a rehearsal. -/
def issuer (tokens : PerChannel (Option String)) : Issuer Rehearsal :=
  fun c => Stepwise.within issuedPart (TokenIssuer.issuer ⟨tokens⟩ c)

/-- The attempts to upload that were made after an earlier state. -/
def attemptsSince (before after : Rehearsal) : List Attempt := after.registry.attempts.drop before.registry.attempts.length

/-- The credentials that were asked for after an earlier state. -/
def issuedSince (before after : Rehearsal) : List Channel := after.issued.drop before.issued.length

end Rehearsal

end ReleaseGate
