import ReleaseGate.Proofs.Artifact.Loading
import ReleaseGate.Proofs.Build.OutputDirectory
import ReleaseGate.Proofs.Files.Making

/-!
# The stages of a build

A build makes its output directory anew, runs its command and collects what the command left, and each of these may be where it ends.
`build_cases` and `collect_cases` say once how, and what is known of the files then.
-/

namespace ReleaseGate.Builder

open FileSystem ArtifactSet

variable {b : Builder} {v : Version} {cwd : Place} {fs fs' left made : FileSystem} {result : Except OsError Unit}
  {runner : CommandRunner} {environment : Environment} {outcome : Except Failure ArtifactSet} {s : ArtifactSet}

/-- An output directory that was made anew is there. -/
theorem exists_leadsTo_of_renew (renewed : b.renew v cwd fs = (.ok (), made)) :
    ∃ place, LeadsTo made cwd (b.outputDir v) place := by
  unfold renew at renewed
  split at renewed
  next => cases renewed
  next => exact (made_of_makeDirectoriesUpTo renewed).leads rfl (b.outputDir_inhabited v)

/-- The command that is run for a version, if there is one. -/
def invocation? (b : Builder) (v : Version) (environment : Environment) : Option Invocation :=
  match b.commandFor v with
  | [] => none
  | program :: arguments =>
    some { program, arguments, directory := b.directory, environment := b.environmentFor v environment }

/-- A command is run as it was filled in, and told the output directory. -/
theorem of_invocation? {i : Invocation} (run : b.invocation? v environment = some i) :
    i.program :: i.arguments = b.commandFor v ∧ i.environment.lookup outputVariable = some (b.outputDir v).text := by
  unfold invocation? at run
  split at run
  next => cases run
  next program arguments command =>
    obtain rfl := Option.some.inj run
    exact ⟨command.symm, rfl⟩

/-- How collecting ends: before anything was written, with the descriptor written, or with a set. -/
theorem collect_cases (collected : b.collect v cwd left = (outcome, fs')) :
    (fs' = left ∧ ∀ s, outcome ≠ .ok s) ∨
      ∃ produced d fs₁, load left cwd (b.outputDir v) v = .ok produced ∧ produced.isEmpty = false ∧
        b.descriptor v cwd left = .ok d ∧ writeDescriptor left cwd (b.outputDir v) d = .ok fs₁ ∧
        ((fs' = fs₁ ∧ ∀ s, outcome ≠ .ok s) ∨
          writeChecksums fs₁ cwd (b.outputDir v) produced.artifacts = .ok fs' ∧ outcome = load fs' cwd (b.outputDir v) v) := by
  unfold collect at collected
  dsimp only at collected
  split at collected
  next =>
    obtain ⟨rfl, rfl⟩ := Prod.mk.inj collected
    exact .inl ⟨rfl, nofun⟩
  next produced loaded =>
    split at collected
    next =>
      obtain ⟨rfl, rfl⟩ := Prod.mk.inj collected
      exact .inl ⟨rfl, nofun⟩
    next inhabited =>
      split at collected
      next =>
        obtain ⟨rfl, rfl⟩ := Prod.mk.inj collected
        exact .inl ⟨rfl, nofun⟩
      next d described =>
        split at collected
        next =>
          obtain ⟨rfl, rfl⟩ := Prod.mk.inj collected
          exact .inl ⟨rfl, nofun⟩
        next fs₁ wroteDescriptor =>
          refine .inr ⟨produced, d, fs₁, loaded, by simpa using inhabited, described, wroteDescriptor, ?_⟩
          split at collected
          next =>
            obtain ⟨rfl, rfl⟩ := Prod.mk.inj collected
            exact .inl ⟨rfl, nofun⟩
          next fs₂ wroteChecksums =>
            obtain ⟨rfl, rfl⟩ := Prod.mk.inj collected
            exact .inr ⟨wroteChecksums, rfl⟩

/-- How a build ends: before its command is run, or with what comes of what the command left. -/
theorem build_cases (renewed : b.renew v cwd fs = (result, made)) (built : b.build runner cwd environment v fs = (outcome, fs')) :
    (fs' = made ∧ ∀ s, outcome ≠ .ok s) ∨
      result = .ok () ∧ ∃ i, b.invocation? v environment = some i ∧
        ((fs' = (runner cwd i made).2 ∧ ∀ s, outcome ≠ .ok s) ∨ b.collect v cwd (runner cwd i made).2 = (outcome, fs')) := by
  unfold build at built
  rw [renewed] at built
  cases result with
  | error e =>
    obtain ⟨rfl, rfl⟩ := Prod.mk.inj built
    exact .inl ⟨rfl, nofun⟩
  | ok _ =>
    cases command : b.commandFor v with
    | nil =>
      simp only [command] at built
      obtain ⟨rfl, rfl⟩ := Prod.mk.inj built
      exact .inl ⟨rfl, nofun⟩
    | cons program arguments =>
      simp only [command] at built
      refine .inr ⟨rfl, { program, arguments, directory := b.directory, environment := b.environmentFor v environment },
        by simp only [invocation?, command], ?_⟩
      split at built
      next =>
        obtain ⟨rfl, rfl⟩ := Prod.mk.inj built
        exact .inl ⟨rfl, nofun⟩
      next => exact .inr built

/-- The set that is made of an output directory is what is found there afterwards. -/
theorem load_of_collect (collected : b.collect v cwd left = (.ok s, fs')) : load fs' cwd (b.outputDir v) v = .ok s := by
  rcases collect_cases collected with ⟨-, fails⟩ | ⟨-, -, -, -, -, -, -, ⟨-, fails⟩ | ⟨-, reloaded⟩⟩
  · exact absurd rfl (fails s)
  · exact absurd rfl (fails s)
  · exact reloaded.symm

/-- The set of a build is what is found in the output directory after it. -/
theorem load_of_build (built : b.build runner cwd environment v fs = (.ok s, fs')) : load fs' cwd (b.outputDir v) v = .ok s := by
  cases renewed : b.renew v cwd fs with
  | mk result made =>
  rcases build_cases renewed built with ⟨-, fails⟩ | ⟨-, _, -, ⟨-, fails⟩ | collected⟩
  · exact absurd rfl (fails s)
  · exact absurd rfl (fails s)
  · exact load_of_collect collected

end ReleaseGate.Builder
