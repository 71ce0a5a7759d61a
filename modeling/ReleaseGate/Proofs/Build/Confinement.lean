import ReleaseGate.Proofs.Artifact.Enumeration
import ReleaseGate.Proofs.Build.Conventional
import ReleaseGate.Proofs.Build.Stages

/-!
# Builds keep within their output directory

The output directory of a version is one entry of the output root, and a build of the version removes what is there, makes it anew,
runs the command and collects what the command left. A build may change what was in the output directory, what is there now, and
directories that were missing on the way to it (`MayChange`), and its set is made of what the command left alone (`IsBuilt`); this is
`build_confined`, for commands that keep within the directory as well.

One thing is overlooked. Whether the output directory is there is asked before the directories on the way to it are made, and a path
that goes upwards from a missing directory leads nowhere until then: what stood in the output directory stays, and gets into the set
(`Overlooks`, `build_upwards_keeps`). Output roots that do not go upwards are safe (`up_of_overlooks`).
-/

namespace ReleaseGate.Builder

open FileSystem ArtifactSet

variable {b : Builder} {v : Version} {cwd place : Place} {fs fs' removed made : FileSystem} {result : Except OsError Unit}

/-! ## Removing what was there -/

/-- What is removed: nothing, where the path of the output directory leads to none, or the entry of the version in the output
root. -/
theorem removeOutput_cases (h : b.removeOutput v cwd fs = .ok removed) :
    (removed = fs ∧ ∀ q, ¬LeadsTo fs cwd (b.outputDir v) q) ∨
      ∃ holder, Leads fs cwd (b.outputDir v) b.root.steps holder ∧ removed = fs.dropTree (holder ++ [v.text]) := by
  unfold removeOutput at h
  dsimp only at h
  split at h
  next =>
    obtain ⟨old, resolved, h⟩ := bind_eq_ok_iff.mp h
    obtain ⟨-, walked, -⟩ := resolve_eq_ok_iff.mp resolved
    rw [namesDirectory_outputDir, Bool.or_false, steps_outputDir] at walked
    obtain ⟨holder, between, way, last⟩ := exists_way_of_walk_concat walked
    obtain rfl := eq_of_walk_last v.isName.notUp last
    refine .inr ⟨holder, ⟨between, way⟩, ?_⟩
    split at h
    next => cases h
    next => cases h
    next => exact (Except.ok.inj h).symm
  next missing =>
    refine .inl ⟨(Except.ok.inj h).symm, fun q leads => missing ?_⟩
    unfold isThere
    rw [find_eq_directory_iff.mpr leads]
    rfl

/-- What stands at a place after the removal stood there, and nothing was changed but within the entry. -/
theorem node?_of_removeOutput (h : b.removeOutput v cwd fs = .ok removed) (p : Place) :
    removed.node? p = fs.node? p ∨ removed.node? p = none ∧
      ∃ holder, Leads fs cwd (b.outputDir v) b.root.steps holder ∧ isWithin p (holder ++ [v.text]) = true := by
  rcases removeOutput_cases h with ⟨rfl, -⟩ | ⟨holder, leads, rfl⟩
  · exact .inl rfl
  by_cases root : p = []
  · exact .inl (by rw [root]; rfl)
  rw [node?_dropTree _ _ root]
  split
  next within => exact .inr ⟨rfl, holder, leads, within⟩
  next => exact .inl rfl

theorem stood_of_removeOutput (h : b.removeOutput v cwd fs = .ok removed) {p : Place} {node : Node}
    (there : removed.node? p = some node) : fs.node? p = some node := by
  rcases node?_of_removeOutput h p with same | ⟨missing, -⟩
  · exact same.symm.trans there
  · cases missing.symm.trans there

/-- A tree is left. -/
theorem isTree_of_removeOutput (tree : IsTree fs) (h : b.removeOutput v cwd fs = .ok removed) : IsTree removed := by
  intro dir name node there
  have before := tree dir name node (stood_of_removeOutput h there)
  rcases removeOutput_cases h with ⟨rfl, -⟩ | ⟨holder, -, rfl⟩
  · exact before
  by_cases root : dir = []
  · rw [root]
    rfl
  rw [node?_dropTree _ _ (by simp)] at there
  rw [node?_dropTree _ _ root, if_neg]
  · exact before
  · intro within
    have below : isWithin (dir ++ [name]) (holder ++ [v.text]) = true := by
      rw [isWithin, List.isPrefixOf_iff_prefix] at within ⊢
      exact within.trans (List.prefix_append ..)
    rw [if_pos below] at there
    cases there

/-- The path of the output directory leads to none when the entry of the version was removed. -/
theorem not_leadsTo_of_removeOutput (h : b.removeOutput v cwd fs = .ok removed) (q : Place) :
    ¬LeadsTo removed cwd (b.outputDir v) q := by
  intro leads
  have stood : ∀ p node, (∀ bytes readable, node ≠ .file bytes readable) → removed.node? p = some node → fs.node? p = some node :=
    fun _ _ _ => stood_of_removeOutput h
  rcases removeOutput_cases h with ⟨rfl, missing⟩ | ⟨holder, ⟨_, toHolder⟩, rfl⟩
  · exact missing q leads
  -- the way goes to the directory that holds the entry, and the entry is dropped
  obtain ⟨left, way⟩ := leads.way
  rw [steps_outputDir] at way
  obtain ⟨mid, between, first, last⟩ := way.exists_mid
  obtain ⟨rfl, -⟩ := toHolder.unique (fun _ _ => Iff.rfl) (first.mono stood)
  have dropped : (fs.dropTree (mid ++ [v.text])).node? (mid ++ [v.text]) = none := by
    rw [node?_dropTree _ _ (by simp), if_pos (by simp [isWithin])]
  rcases last.last v.isName.notUp with ⟨-, directory⟩ | ⟨target, link⟩
  · cases dropped.symm.trans directory
  · cases dropped.symm.trans link

/-! ## Making it anew -/

/-- Whether a build overlooks what stands in its output directory: what the path led to was removed, if it led anywhere, and yet it
leads to a directory that stood there, once the directories on the way to it have been made. -/
def Overlooks (b : Builder) (v : Version) (cwd : Place) (fs : FileSystem) : Prop :=
  ∃ removed made place, b.removeOutput v cwd fs = .ok removed ∧ removed.attemptDirectories cwd (b.outputDir v) = (.ok (), made) ∧
    LeadsTo made cwd (b.outputDir v) place ∧ removed.node? place = some .directory

/-- Only an output root that goes upwards is overlooked. -/
theorem up_of_overlooks (tree : IsTree fs) (h : b.Overlooks v cwd fs) : ".." ∈ b.root.steps := by
  obtain ⟨removed, made, place, removal, making, leads, stood⟩ := h
  refine Classical.byContradiction fun noUp => ?_
  have noUpOutput : ".." ∉ (b.outputDir v).steps := by
    rw [steps_outputDir]
    simp [noUp, Ne.symm v.isName.notUp]
  have missing := missing_of_made (isTree_of_removeOutput tree removal) noUpOutput (not_leadsTo_of_removeOutput removal) making leads
  cases missing.symm.trans stood

/-- What a build may change: the entry of the version in the output root as it was before, what stands where the path leads once the
output directory was made, and directories that were missing on the way to it. -/
inductive MayChange (b : Builder) (v : Version) (cwd : Place) (fs made fs' : FileSystem) (p : Place) : Prop where
  | removed {holder : Place} (leads : Leads fs cwd (b.outputDir v) b.root.steps holder)
    (within : isWithin p (holder ++ [v.text]) = true)
  | output {place : Place} (leads : LeadsTo made cwd (b.outputDir v) place) (within : isWithin p place = true)
  | parent {names : List String} (missing : fs.node? p = none) (directory : fs'.node? p = some .directory)
      (before : names <+: b.root.steps) (leads : Leads made cwd (b.outputDir v) names p)

/-- What is changed before the command runs. -/
theorem mayChange_of_renew (renewed : b.renew v cwd fs = (result, made)) {p : Place} (changed : made.node? p ≠ fs.node? p) :
    MayChange b v cwd fs made made p := by
  unfold renew at renewed
  split at renewed
  next =>
    obtain ⟨-, rfl⟩ := Prod.mk.inj renewed
    exact absurd rfl changed
  next fs₁ removal =>
    have steps := made_of_makeDirectoriesUpTo renewed
    rcases node?_of_removeOutput removal p with same | ⟨-, holder, leads, within⟩
    · rcases steps.added p with same' | ⟨missing, directory, names, front, ended, leads⟩
      · exact absurd (same'.trans same) changed
      have missingBefore : fs.node? p = none := same.symm.trans missing
      rw [steps_outputDir] at front ended
      rcases List.prefix_concat_iff.mp front with whole | before
      · rcases ended with rfl | before
        · obtain ⟨place, leadsTo⟩ := steps.leads rfl (b.outputDir_inhabited v)
          obtain ⟨left, way⟩ := leads
          obtain ⟨left', way'⟩ := leadsTo.way
          rw [steps_outputDir, ← whole] at way'
          obtain ⟨rfl, -⟩ := way.unique (fun _ _ => Iff.rfl) way'
          exact .output leadsTo (by simp [isWithin])
        · rw [List.dropLast_concat] at before
          exact .parent missingBefore directory before leads
      · exact .parent missingBefore directory before leads
    · exact .removed leads within

/-- In an output directory that was not overlooked, nothing stands but directories. -/
theorem eq_directory_of_renew (tree : IsTree fs) (fresh : ¬b.Overlooks v cwd fs) (renewed : b.renew v cwd fs = (.ok (), made))
    (leads : LeadsTo made cwd (b.outputDir v) place) {p : Place} {node : Node} (within : isWithin p place = true)
    (there : made.node? p = some node) : node = .directory := by
  unfold renew at renewed
  split at renewed
  next => cases renewed
  next removed removal =>
    have steps := made_of_makeDirectoriesUpTo renewed
    rw [isWithin, List.isPrefixOf_iff_prefix] at within
    obtain ⟨more, rfl⟩ := within
    rcases steps.added (place ++ more) with same | ⟨-, directory, -⟩
    · by_cases top : more = []
      · rw [top, List.append_nil, leads.directory] at there
        exact (Option.some.inj there).symm
      · have above := (isTree_of_removeOutput tree removal).directory_above top (same.symm.trans there)
        exact absurd ⟨removed, made, place, removal, renewed, leads, above⟩ fresh
    · exact Option.some.inj (there.symm.trans directory)

/-! ## Running the command -/

/-- Whether what was left differs from what was found only at and below a place, and holds no new link. -/
structure KeptWithin (place : Place) (found left : FileSystem) : Prop where
  outside : ∀ p, isWithin p place = false → left.node? p = found.node? p
  noLink : ∀ p target, left.node? p = some (.link target) → found.node? p = some (.link target)
  listed : IsListed left

/-- Whether the command of a build keeps within the output directory. -/
def RunsWithin (b : Builder) (v : Version) (runner : CommandRunner) (cwd : Place) (environment : Environment)
    (made : FileSystem) : Prop :=
  ∀ i place, b.invocation? v environment = some i → LeadsTo made cwd (b.outputDir v) place →
    KeptWithin place made (runner cwd i made).2

/-- Where a command starts: in a directory with nothing but directories in it, to which the path of the output directory leads. -/
structure StartsAt (b : Builder) (v : Version) (cwd : Place) (made : FileSystem) (place : Place) : Prop where
  leads : LeadsTo made cwd (b.outputDir v) place
  empty : ∀ p node, isWithin p place = true → made.node? p = some node → node = .directory

variable {left : FileSystem}

/-- A command that keeps within the output directory leaves the links as they were. -/
theorem StartsAt.sameLinks (starts : StartsAt b v cwd made place) (kept : KeptWithin place made left) (p : Place) (target : Path) :
    left.node? p = some (.link target) ↔ made.node? p = some (.link target) := by
  refine ⟨kept.noLink p target, fun link => ?_⟩
  cases within : isWithin p place with
  | true => cases starts.empty p _ within link
  | false => exact (kept.outside p within).trans link

theorem StartsAt.noLink (starts : StartsAt b v cwd made place) (kept : KeptWithin place made left) (name : String)
    (target : Path) : left.node? (place ++ [name]) ≠ some (.link target) := by
  intro link
  cases starts.empty _ _ (by simp [isWithin]) (kept.noLink _ _ link)

/-- If the path of the output directory leads to a directory when the command has run, it is the same one. -/
theorem StartsAt.eq_of_leadsTo (starts : StartsAt b v cwd made place) (kept : KeptWithin place made left) {q : Place}
    (leads : LeadsTo left cwd (b.outputDir v) q) : q = place := by
  obtain ⟨_, way⟩ := starts.leads.way
  obtain ⟨_, way'⟩ := leads.way
  exact (way.unique (starts.sameLinks kept) way').1

/-! ## Collecting what it left -/

/-- What a set is that a build makes of what its command left: it has an artifact, it is of the version, it carries the descriptor
of the package for the version, and its artifacts are exactly those that were left. -/
structure IsBuilt (b : Builder) (v : Version) (cwd : Place) (left : FileSystem) (place : Place) (s : ArtifactSet) : Prop where
  inhabited : s.artifacts ≠ []
  ofVersion : s.version = v
  ofDirectory : s.dir = b.outputDir v
  descriptor : ∃ text, b.longDescription cwd left = .ok text ∧ s.descriptor = some (b.described v text)
  exact : ∀ a, a ∈ s.artifacts ↔
    ∃ name bytes readable, IsArtifactFile left place name bytes readable ∧ a = artifactAt (b.outputDir v) name bytes

/-- What is written under the name of a file that is no link: this file alone, in the directory. -/
structure Wrote (fs : FileSystem) (cwd : Place) (dir : Path) (place : Place) (name : String) (bytes : List UInt8)
    (fs' : FileSystem) : Prop where
  leads : LeadsTo fs' cwd dir place
  listed : IsListed fs'
  fits : Fits dir name
  there : ∃ readable, fs'.node? (place ++ [name]) = some (.file bytes readable)
  elsewhere : ∀ p, p ≠ place ++ [name] → fs'.node? p = fs.node? p

theorem wrote_of_writeBytes {dir : Path} {name : String} {bytes : List UInt8} (leads : LeadsTo fs cwd dir place)
    (listed : IsListed fs) (named : Path.IsName name) (noLink : ∀ target, fs.node? (place ++ [name]) ≠ some (.link target))
    (wrote : fs.writeBytes cwd (dir.entry name) bytes = .ok fs') : Wrote fs cwd dir place name bytes fs' := by
  obtain ⟨fits, leaf, readable, rfl⟩ := leads.exists_of_writeBytes named noLink wrote
  refine ⟨leads.put_file leaf bytes readable, listed.put leads.directory named _, fits, ⟨readable, ?_⟩, fun p other => ?_⟩
  · rw [node?_put _ (by simp), if_pos rfl]
  · rw [node?_put _ (by simp), if_neg other]

theorem exists_of_descriptor {d : Descriptor} (h : b.descriptor v cwd left = .ok d) :
    ∃ text, b.longDescription cwd left = .ok text ∧ d = b.described v text := by
  obtain ⟨text, hasText, rfl⟩ := map_eq_ok_iff.mp h
  exact ⟨text, hasText, rfl⟩

/-- Where a descriptor was written, it is what is loaded. -/
theorem descriptor_of_load {dir : Path} {d : Descriptor} {s : ArtifactSet} (leads : LeadsTo fs cwd dir place)
    (fits : Fits dir Verifier.descriptorFileName)
    (there : ∃ readable, fs.node? (place ++ [Verifier.descriptorFileName]) =
      some (.file (Text.Utf8.encode (descriptorText d)) readable))
    (loaded : loadDescriptor fs cwd dir = .ok s.descriptor) : s.descriptor = some d := by
  obtain ⟨readable, there⟩ := there
  have found := leads.find_file fits there
  unfold loadDescriptor isFile readBytes at loaded
  cases readable with
  | false => simp [found, Except.bind] at loaded
  | true => simpa [found, Except.bind, Except.map, decodeDescriptor_descriptorText, eq_comm] using loaded

/-- Collecting changes nothing but the bookkeeping files of the output directory, and the set that comes of it is made of what the
command left. -/
theorem collect_within (starts : StartsAt b v cwd made place) (kept : KeptWithin place made left)
    {outcome : Except Failure ArtifactSet} (collected : b.collect v cwd left = (outcome, fs')) :
    (∀ p, isWithin p place = false → fs'.node? p = left.node? p) ∧ ∀ s, outcome = .ok s → IsBuilt b v cwd left place s := by
  have outside : ∀ name, ∀ p, isWithin p place = false → p ≠ place ++ [name] := by
    rintro name p without rfl
    have within : isWithin (place ++ [name]) place = true := by simp [isWithin]
    cases within.symm.trans without
  rcases collect_cases collected with ⟨rfl, fails⟩ | ⟨produced, d, fs₁, loaded, inhabited, described, wroteDescriptor, ends⟩
  · exact ⟨fun _ _ => rfl, fun s same => absurd same (fails s)⟩
  obtain ⟨entries, -, listing, -⟩ := exists_of_load loaded
  obtain ⟨q, leads, -⟩ := exists_leadsTo_of_list listing
  obtain rfl := starts.eq_of_leadsTo kept leads
  have first : Wrote left cwd (b.outputDir v) q Verifier.descriptorFileName (Text.Utf8.encode (descriptorText d)) fs₁ :=
    wrote_of_writeBytes leads kept.listed isName_descriptor (starts.noLink kept _) wroteDescriptor
  rcases ends with ⟨rfl, fails⟩ | ⟨wroteChecksums, rfl⟩
  · exact ⟨fun p without => first.elsewhere p (outside _ p without), fun s same => absurd same (fails s)⟩
  have different : q ++ [Checksums.fileName] ≠ q ++ [Verifier.descriptorFileName] := fun same =>
    absurd (List.append_cancel_left same) (by decide)
  have second : Wrote fs₁ cwd (b.outputDir v) q Checksums.fileName (Text.Utf8.encode (Checksums.print produced.artifacts)) fs' := by
    refine wrote_of_writeBytes first.leads first.listed isName_checksums (fun target => ?_) wroteChecksums
    rw [first.elsewhere _ different]
    exact starts.noLink kept _ target
  have same : ∀ p, p ≠ q ++ [Verifier.descriptorFileName] → p ≠ q ++ [Checksums.fileName] → fs'.node? p = left.node? p :=
    fun p other other' => (second.elsewhere p other').trans (first.elsewhere p other)
  refine ⟨fun p without => same p (outside _ p without) (outside _ p without), fun s reloaded => ?_⟩
  have exact : ∀ a, a ∈ s.artifacts ↔ ∃ name bytes readable,
      IsArtifactFile left q name bytes readable ∧ a = artifactAt (b.outputDir v) name bytes := by
    intro a
    rw [mem_artifacts_iff_of_load second.listed second.leads reloaded]
    simp only [IsArtifactFile.congr same]
  have madeOf := isMadeOf_of_load second.listed reloaded
  obtain ⟨-, -, -, -, -, hasDescriptor, -⟩ := exists_of_load reloaded
  refine ⟨?_, madeOf.ofVersion, madeOf.ofDirectory, ?_, exact⟩
  · obtain ⟨a, ha⟩ := List.exists_mem_of_ne_nil _ (List.isEmpty_eq_false_iff.mp inhabited)
    exact List.ne_nil_of_mem ((exact a).mpr ((mem_artifacts_iff_of_load kept.listed leads loaded a).mp ha))
  · obtain ⟨text, hasText, rfl⟩ := exists_of_descriptor described
    obtain ⟨readable, there⟩ := first.there
    have still := (second.elsewhere _ different.symm).trans there
    exact ⟨text, hasText, descriptor_of_load second.leads first.fits ⟨readable, still⟩ hasDescriptor⟩

/-! ## The build -/

/-- Where the command of a build starts, unless the build overlooks something. -/
theorem exists_startsAt (tree : IsTree fs) (fresh : ¬b.Overlooks v cwd fs) (renewed : b.renew v cwd fs = (.ok (), made)) :
    ∃ place, StartsAt b v cwd made place := by
  obtain ⟨place, leads⟩ := exists_leadsTo_of_renew renewed
  exact ⟨place, leads, fun p node within there => eq_directory_of_renew tree fresh renewed leads within there⟩

/-- A change that was made before the command ran is one of the build, if what followed left its place alone. -/
theorem MayChange.later {p : Place} (change : MayChange b v cwd fs made made p) (same : fs'.node? p = made.node? p) :
    MayChange b v cwd fs made fs' p := by
  cases change with
  | removed leads within => exact .removed leads within
  | output leads within => exact .output leads within
  | parent missing directory before leads => exact .parent missing (same.trans directory) before leads

/-- A build keeps within the output directory of its version, and starts anew there. -/
theorem build_confined (b : Builder) (v : Version) (runner : CommandRunner) (cwd : Place) (environment : Environment)
    (fs : FileSystem) (tree : IsTree fs) (within : b.RunsWithin v runner cwd environment (b.renew v cwd fs).2) :
    (Path.IsName v.text ∧ (b.outputDir v).steps = b.root.steps ++ [v.text] ∧
        (b.outputDir v).isAbsolute = b.root.isAbsolute) ∧
      (∀ w : Version, (b.outputDir w).steps = (b.outputDir v).steps → w = v) ∧
      (b.Overlooks v cwd fs → ".." ∈ b.root.steps) ∧
      (¬b.Overlooks v cwd fs →
        (∀ p, (b.build runner cwd environment v fs).2.node? p ≠ fs.node? p →
          MayChange b v cwd fs (b.renew v cwd fs).2 (b.build runner cwd environment v fs).2 p) ∧
        ∀ s, (b.build runner cwd environment v fs).1 = .ok s →
          ∃ i place, b.invocation? v environment = some i ∧ StartsAt b v cwd (b.renew v cwd fs).2 place ∧
            IsBuilt b v cwd (runner cwd i (b.renew v cwd fs).2).2 place s) := by
  refine ⟨⟨v.isName, steps_outputDir b v, isAbsolute_outputDir b v⟩, fun w => eq_of_steps_outputDir b v, up_of_overlooks tree,
    fun fresh => ?_⟩
  cases renewed : b.renew v cwd fs with
  | mk result made =>
  cases built : b.build runner cwd environment v fs with
  | mk outcome fs' =>
  rw [renewed] at within
  dsimp only at within ⊢
  rcases build_cases renewed built with ⟨rfl, fails⟩ | ⟨rfl, i, run, ends⟩
  · exact ⟨fun p changed => mayChange_of_renew renewed changed, fun s same => absurd same (fails s)⟩
  obtain ⟨place, starts⟩ := exists_startsAt tree fresh renewed
  have kept := within i place run starts.leads
  obtain ⟨outside, sets⟩ : (∀ p, isWithin p place = false → fs'.node? p = made.node? p) ∧
      ∀ s, outcome = .ok s → IsBuilt b v cwd (runner cwd i made).2 place s := by
    rcases ends with ⟨rfl, fails⟩ | collected
    · exact ⟨kept.outside, fun s same => absurd same (fails s)⟩
    · obtain ⟨same, sets⟩ := collect_within starts kept collected
      exact ⟨fun p without => (same p without).trans (kept.outside p without), sets⟩
  refine ⟨fun p changed => ?_, fun s same => ⟨i, place, run, starts, sets s same⟩⟩
  cases inside : isWithin p place with
  | true => exact .output starts.leads inside
  | false =>
    have same := outside p inside
    exact (mayChange_of_renew renewed fun unchanged => changed (same.trans unchanged)).later same

end ReleaseGate.Builder

namespace ReleaseGate.Widget

open FileSystem Builder ArtifactSet

/-- The files before a build that finds what an older one left. -/
def stale : FileSystem :=
  ⟨[(["README.txt"], .file (Text.Utf8.encode readmeText) true), (["dist"], .directory), (["dist", "v1.2.0"], .directory),
    (["dist", "v1.2.0", "widget-1.1.0.tar.gz"], .file bytes true)]⟩

/-- A command that puts the file of the release into the output directory. -/
def pack : CommandRunner := fun _ _ files => (.ended (.code 0) [] [], files.put ["dist", "v1.2.0", fileName] (.file bytes true))

theorem renew_stale : builder.renew version [] stale = (.ok (), cleared) := by
  have leads : LeadsTo stale [] (builder.outputDir version) ["dist", "v1.2.0"] := leadsTo_output rfl rfl
  have resolved : stale.resolve [] (builder.outputDir version) false = .ok ["dist", "v1.2.0"] := by
    obtain ⟨p, resolved, rfl | ⟨target, link⟩⟩ := leads.exists_resolve
    · exact resolved
    · have noLink : ∀ stands ∈ stale.nodes, ∀ target, stands.2 ≠ .link target := by simp [stale]
      have below : p ≠ [] := by
        rintro rfl
        cases link
      exact absurd rfl (noLink _ (mem_nodes_of_node? below link) target)
  have removed : builder.removeOutput version [] stale = .ok tree := by
    unfold removeOutput isThere removeDirectory
    dsimp only
    rw [find_eq_directory_iff.mpr leads, resolved]
    rfl
  rw [renew, removed]
  exact attemptDirectories_tree

theorem keptWithin_packed : KeptWithin ["dist", "v1.2.0"] cleared packed where
  outside p without := by
    unfold packed
    rw [node?_put _ (by decide), if_neg]
    rintro rfl
    cases without
  noLink p target link := by
    unfold packed at link
    rw [node?_put _ (by decide)] at link
    split at link
    next => cases link
    next => exact link
  listed := by decide

theorem runsWithin_pack : builder.RunsWithin version pack [] [] (builder.renew version [] stale).2 := by
  rw [renew_stale]
  intro i place _ leads
  obtain rfl := leads.unique (leadsTo_output rfl rfl)
  exact keptWithin_packed

theorem build_pack : ∃ s, (builder.build pack [] [] version stale).1 = .ok s := by
  obtain ⟨after, collected, -⟩ := collect_of_leavesFiles leavesFiles_packed (longDescription_eq rfl)
  unfold build
  rw [renew_stale]
  exact ⟨_, congrArg Prod.fst collected⟩

/-- What an older build left is gone, and the set is made of the file that the command put there. -/
theorem build_confined_stale :
    IsTree stale ∧ builder.RunsWithin version pack [] [] (builder.renew version [] stale).2 ∧
      ∃ s, (builder.build pack [] [] version stale).1 = .ok s ∧ ∃ place, IsBuilt builder version [] packed place s := by
  have tree : IsTree stale := isTree_of_forall (by decide)
  obtain ⟨-, -, goesUp, confined⟩ := build_confined builder version pack [] [] stale tree runsWithin_pack
  obtain ⟨s, built⟩ := build_pack
  obtain ⟨i, place, -, -, madeOf⟩ := (confined fun overlooks => absurd (goesUp overlooks) (by decide)).2 s built
  rw [renew_stale] at madeOf
  exact ⟨tree, runsWithin_pack, s, built, place, madeOf⟩

/-- A build of the widget with an output root that goes upwards from a directory that is missing. -/
def upwards : Builder := { builder with outputRoot := ⟨"new/../dist"⟩ }

/-- A command that does nothing. -/
def idle : CommandRunner := fun _ _ files => (.ended (.code 0) [] [], files)

/-- The files with the directory that was missing. -/
def opened : FileSystem := packed.put ["new"] .directory

theorem leadsTo_opened {path : Path} {place : Place} (rest : List String) (steps : path.steps = "new" :: ".." :: rest)
    (ordinary : path.text ≠ "" ∧ '\x00' ∉ path.text.toList ∧ path.text.utf8ByteSize ≤ maxPathBytes ∧ path.isAbsolute = true)
    (way : Way opened maxLinks [] rest maxLinks place) (directory : opened.node? place = some .directory) :
    LeadsTo opened [] path place := by
  obtain ⟨inhabited, noZero, short, absolute⟩ := ordinary
  refine ⟨inhabited, noZero, short, ⟨maxLinks, ?_⟩, directory⟩
  rw [steps, absolute]
  exact .down (by decide) (by decide) rfl (.up way)

/-- Nothing is found behind the missing directory. -/
theorem resolve_packed {path : Path} (rest : List String) (steps : path.steps = "new" :: ".." :: rest)
    (ordinary : path.text ≠ "" ∧ '\x00' ∉ path.text.toList ∧ path.text.utf8ByteSize ≤ maxPathBytes ∧ path.isAbsolute = true)
    (follow : Bool) : packed.resolve [] path follow = .error .notFound := by
  obtain ⟨inhabited, noZero, short, absolute⟩ := ordinary
  have missing : packed.node? ["new"] = none := by decide
  have walked : ∀ follow, packed.walk follow maxLinks [] ("new" :: ".." :: rest) = .error .notFound := by
    intro follow
    rw [walk, if_neg (by decide), if_neg (by decide)]
    simp [missing]
  unfold resolve
  rw [if_neg (by simpa using inhabited), if_neg (by simpa using noZero), if_neg (Nat.not_lt.mpr short), steps, absolute]
  simp only [if_true, walked]

theorem outputDir_upwards : upwards.outputDir version = ⟨"/new/../dist/v1.2.0"⟩ := by decide

theorem leadsTo_upwards : LeadsTo opened [] (upwards.outputDir version) ["dist", "v1.2.0"] := by
  rw [outputDir_upwards]
  exact leadsTo_opened ["dist", "v1.2.0"] (by decide) (by decide)
    (.down (by decide) (by decide) rfl (.down (by decide) (by decide) rfl (.here ..))) rfl

theorem removeOutput_upwards : upwards.removeOutput version [] packed = .ok packed := by
  have nothing : packed.isThere [] (upwards.outputDir version) = false := by
    unfold isThere find
    rw [outputDir_upwards, resolve_packed ["dist", "v1.2.0"] (by decide) (by decide)]
    rfl
  unfold removeOutput
  simp [nothing]

/-- The directory that was missing is made, and what is behind it is there then. -/
theorem attemptDirectories_upwards : packed.attemptDirectories [] (upwards.outputDir version) = (.ok (), opened) := by
  have lost : ∀ {path : Path} (rest : List String), path.steps = "new" :: ".." :: rest → path.text ≠ "" ∧
      '\x00' ∉ path.text.toList ∧ path.text.utf8ByteSize ≤ maxPathBytes ∧ path.isAbsolute = true →
      packed.makeDirectory [] path = .error .notFound := by
    intro path rest steps ordinary
    unfold makeDirectory
    rw [resolve_packed rest steps ordinary]
    rfl
  have made : packed.makeDirectoriesUpTo [] ⟨"/new"⟩ 17 = (.ok (), opened) := by
    have root : LeadsTo packed [] ⟨"/"⟩ [] := ⟨by decide, by decide, by decide, ⟨maxLinks, .here ..⟩, rfl⟩
    have made : packed.makeDirectory [] (Path.entry ⟨"/"⟩ "new") = .ok opened :=
      root.makeDirectory ⟨by decide, by decide, by decide⟩ rfl
    have spelled : (⟨"/new"⟩ : Path) = Path.entry ⟨"/"⟩ "new" := by decide
    rw [makeDirectoriesUpTo, spelled, made]
    rfl
  have up : packed.makeDirectoriesUpTo [] ⟨"/new/.."⟩ 18 = (.ok (), opened) :=
    makeDirectoriesUpTo_of_parent (lost [] (by decide) (by decide)) (by simp [Path.parent?, Path.dropIdleEnd]) made
      (leadsTo_opened [] (by decide) (by decide) (.here ..) rfl)
  have dist : packed.makeDirectoriesUpTo [] ⟨"/new/../dist"⟩ 19 = (.ok (), opened) :=
    makeDirectoriesUpTo_of_parent (lost ["dist"] (by decide) (by decide)) (by simp [Path.parent?, Path.dropIdleEnd]) up
      (leadsTo_opened ["dist"] (by decide) (by decide) (.down (by decide) (by decide) rfl (.here ..)) rfl)
  have length : (upwards.outputDir version).text.length + 1 = 20 := by decide
  have leads := leadsTo_upwards
  rw [attemptDirectories, length]
  rw [outputDir_upwards] at leads ⊢
  exact makeDirectoriesUpTo_of_parent (lost ["dist", "v1.2.0"] (by decide) (by decide)) (by simp [Path.parent?, Path.dropIdleEnd])
    dist leads

/-- A file that stood in the output directory survives the build and is in its set, though the command did nothing. -/
theorem build_upwards_keeps :
    packed.node? ["dist", "v1.2.0", fileName] = some (.file bytes true) ∧ upwards.Overlooks version [] packed ∧
      ∃ s, (upwards.build idle [] [] version packed).1 = .ok s ∧
        artifactAt (upwards.outputDir version) fileName bytes ∈ s.artifacts := by
  refine ⟨rfl, ⟨packed, opened, _, removeOutput_upwards, attemptDirectories_upwards, leadsTo_upwards, rfl⟩, ?_⟩
  have leaves : LeavesFiles upwards version [] opened [(fileName, bytes)] :=
    leavesFiles rfl ⟨leadsTo_upwards.list, by simp⟩ (by decide)
  obtain ⟨after, collected, -⟩ := collect_of_leavesFiles leaves (longDescription_eq rfl)
  have built : (upwards.build idle [] [] version packed).1 =
      .ok (finished (upwards.outputDir version) [(fileName, bytes)] version (upwards.described version readmeText)) := by
    unfold build
    rw [renew, removeOutput_upwards]
    dsimp only
    rw [attemptDirectories_upwards]
    exact congrArg Prod.fst collected
  refine ⟨_, built, ?_⟩
  unfold finished ofFiles
  rw [artifactsIn_withBookkeeping]
  exact mem_sorted_iff.mpr (leaves.mem_artifactsIn_iff.mpr ⟨_, List.mem_singleton_self _, rfl⟩)

end ReleaseGate.Widget
