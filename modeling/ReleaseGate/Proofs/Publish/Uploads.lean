import ReleaseGate.Proofs.Stepwise.Independence
import ReleaseGate.Publish.Memory

/-!
# Uploads to a registry in memory

What an upload does to a registry in memory, and from it what the uploads of a whole publish do. A registry only grows: `Grows`
says that files and attempts are added and none goes away. An upload works on the `shelf` of its endpoint alone, which is what the
endpoint holds, answers and has seen. Where an endpoint refuses nothing and files may be there already, a publish puts all files
of its set there, as `run_uploadAll_of_accepting` says together with its outcome.
-/

namespace ReleaseGate

/-! ## The uploads of a publish -/

namespace Publisher

variable {σ τ ν : Type}

/-- What every upload may do, a publish may do. -/
theorem moves_uploadAll {Q : σ → σ → Prop} {upload : Artifact → Stepwise σ (Except PublishError UploadResponse)}
    {artifacts : List Artifact} (h : ∀ a ∈ artifacts, (upload a).Moves Q) (c : Channel) (idempotent created : Bool) :
    (uploadAll upload c idempotent created artifacts).Moves Q := by
  induction artifacts generalizing created with
  | nil => exact Stepwise.moves_pure _
  | cons a rest ih =>
    have later : ∀ created, (uploadAll upload c idempotent created rest).Moves Q :=
      ih fun b hb => h b (List.mem_cons_of_mem a hb)
    refine (h a List.mem_cons_self).bind fun answer => ?_
    cases answer with
    | error e => exact Stepwise.moves_pure _
    | ok response =>
      cases response with
      | created => exact later true
      | alreadyExists =>
        cases idempotent with
        | true => exact later created
        | false => exact Stepwise.moves_pure _

/-- Publishes whose uploads go in step go in step. -/
theorem alike_uploadAll {v : σ → ν} {w : τ → ν} {upload : Artifact → Stepwise σ (Except PublishError UploadResponse)}
    {upload' : Artifact → Stepwise τ (Except PublishError UploadResponse)} {artifacts : List Artifact}
    (h : ∀ a ∈ artifacts, Stepwise.Alike v w Eq (upload a) (upload' a)) (c : Channel) (idempotent created : Bool) :
    Stepwise.Alike v w Eq (uploadAll upload c idempotent created artifacts) (uploadAll upload' c idempotent created artifacts) := by
  induction artifacts generalizing created with
  | nil => exact .done rfl
  | cons a rest ih =>
    have later := ih fun b hb => h b (List.mem_cons_of_mem a hb)
    refine (h a List.mem_cons_self).bind fun answer answer' same => ?_
    subst same
    cases answer with
    | error e => exact .done rfl
    | ok response =>
      cases response with
      | created => exact later true
      | alreadyExists =>
        cases idempotent with
        | true => exact later created
        | false => exact .done rfl

/-- A publish does what its uploads may do, which go to the endpoint of its channel with its credential. -/
theorem moves_tryPublish {Q : σ → σ → Prop} (refl : ∀ s, Q s s) {p : Publisher σ} {c : Channel} {credential : Credential}
    (h : ∀ u : Upload, p.endpoints.get c = some u.endpoint → u.credential = credential → (p.registry u).Moves Q)
    (set : ArtifactSet) (idempotent : Bool) : (p.tryPublish c set credential idempotent).Moves Q := by
  refine (Stepwise.moves_observe refl p.clock).bind fun now => ?_
  cases admitted : p.admission now c set credential with
  | error e => exact Stepwise.moves_pure _
  | ok endpoint =>
    obtain ⟨-, -, known, -⟩ := (p.admission_eq_ok_iff now c set credential endpoint).mp admitted
    exact moves_uploadAll (fun a _ => h _ known rfl) c idempotent false

/-- With credentials of one channel that never expire, it depends on the endpoints alone what is admitted. -/
theorem admission_of_never {p : Publisher σ} {q : Publisher τ} {c : Channel} (same : p.endpoints.get c = q.endpoints.get c)
    {credential credential' : Credential} (scope : credential.channel = credential'.channel) (never : credential.expiresAt = none)
    (never' : credential'.expiresAt = none) (now now' : Timestamp) (set : ArtifactSet) :
    p.admission now c set credential = q.admission now' c set credential' := by
  unfold admission Credential.isExpiredAt
  rw [same, scope, never, never']
  rfl

/-- Publishes with credentials of one channel that never expire go in step when their uploads to the endpoint of the channel do,
whatever their clocks show. -/
theorem alike_tryPublish {v : σ → ν} {w : τ → ν} {p : Publisher σ} {q : Publisher τ} {c : Channel}
    (same : p.endpoints.get c = q.endpoints.get c) {credential credential' : Credential}
    (scope : credential.channel = credential'.channel) (never : credential.expiresAt = none)
    (never' : credential'.expiresAt = none) {set : ArtifactSet}
    (h : ∀ endpoint, q.endpoints.get c = some endpoint → ∀ artifact ∈ set.artifacts,
      Stepwise.Alike v w Eq (p.registry ⟨endpoint, set, artifact, credential⟩) (q.registry ⟨endpoint, set, artifact, credential'⟩))
    (idempotent : Bool) :
    Stepwise.Alike v w Eq (p.tryPublish c set credential idempotent) (q.tryPublish c set credential' idempotent) := by
  refine (Stepwise.alike_observe (R := fun _ _ => True) fun _ _ _ => trivial).bind fun now now' _ => ?_
  rw [admission_of_never same scope never never' now now' set]
  cases admitted : q.admission now' c set credential' with
  | error e => exact .done rfl
  | ok endpoint =>
    obtain ⟨-, -, known, -⟩ := (q.admission_eq_ok_iff now' c set credential' endpoint).mp admitted
    exact alike_uploadAll (h endpoint known) c idempotent false

/-- Uploads to a part of a state, one after another, are on that part all together. -/
theorem uploadAll_within (part : Stepwise.Part σ τ) (upload : Artifact → Stepwise τ (Except PublishError UploadResponse))
    (c : Channel) (idempotent created : Bool) (artifacts : List Artifact) :
    uploadAll (fun a => Stepwise.within part (upload a)) c idempotent created artifacts =
      Stepwise.within part (uploadAll upload c idempotent created artifacts) := by
  induction artifacts generalizing created with
  | nil => rfl
  | cons a rest ih =>
    rw [uploadAll, uploadAll, Stepwise.within_bind]
    refine congrArg (Stepwise.within part (upload a) >>= ·) (funext fun answer => ?_)
    cases answer with
    | error e => rfl
    | ok response =>
      cases response with
      | created => exact ih true
      | alreadyExists =>
        cases idempotent with
        | true => exact ih created
        | false => rfl

theorem run_uploadAll_created {upload : Artifact → Stepwise σ (Except PublishError UploadResponse)} {a : Artifact} {s s' : σ}
    (h : (upload a).run s = (.ok .created, s')) (c : Channel) (idempotent created : Bool) (rest : List Artifact) :
    (uploadAll upload c idempotent created (a :: rest)).run s = (uploadAll upload c idempotent true rest).run s' := by
  rw [uploadAll, Stepwise.run_bind, h]

theorem run_uploadAll_present {upload : Artifact → Stepwise σ (Except PublishError UploadResponse)} {a : Artifact} {s s' : σ}
    (h : (upload a).run s = (.ok .alreadyExists, s')) (c : Channel) (created : Bool) (rest : List Artifact) :
    (uploadAll upload c true created (a :: rest)).run s = (uploadAll upload c true created rest).run s' := by
  rw [uploadAll, Stepwise.run_bind, h]
  rfl

theorem run_uploadAll_failed {upload : Artifact → Stepwise σ (Except PublishError UploadResponse)} {a : Artifact} {s s' : σ}
    {e : PublishError} (h : (upload a).run s = (.error e, s')) (c : Channel) (idempotent created : Bool) (rest : List Artifact) :
    (uploadAll upload c idempotent created (a :: rest)).run s = (.error e, s') := by
  rw [uploadAll, Stepwise.run_bind, h]
  rfl

theorem run_uploadAll_unwanted {upload : Artifact → Stepwise σ (Except PublishError UploadResponse)} {a : Artifact} {s s' : σ}
    (h : (upload a).run s = (.ok .alreadyExists, s')) (c : Channel) (created : Bool) (rest : List Artifact) :
    (uploadAll upload c false created (a :: rest)).run s = (.ok (.failed s!"{a.fileName} is already present on {c}"), s') := by
  rw [uploadAll, Stepwise.run_bind, h]
  rfl

/-- A publish that is not admitted does nothing and fails for the reason for which it is not; one that is admitted uploads. -/
theorem run_tryPublish (p : Publisher σ) (c : Channel) (set : ArtifactSet) (credential : Credential) (idempotent : Bool) (s : σ) :
    (p.tryPublish c set credential idempotent).run s =
      match p.admission (p.clock s) c set credential with
      | .error e => (.error e, s)
      | .ok endpoint =>
        (uploadAll (fun artifact => p.registry ⟨endpoint, set, artifact, credential⟩) c idempotent false set.artifacts).run s := by
  unfold tryPublish
  rw [Stepwise.run_bind, Stepwise.run_observe]
  cases p.admission (p.clock s) c set credential <;> rfl

/-- A publish does what `tryPublish` does, and makes an outcome of how that ends. -/
theorem run_publish (p : Publisher σ) (c : Channel) (set : ArtifactSet) (credential : Credential) (idempotent : Bool) (s : σ) :
    (p.publish c set credential idempotent).run s =
      let (result, s') := (p.tryPublish c set credential idempotent).run s
      (outcomeOf c result, s') := by
  unfold publish
  rw [Stepwise.run_bind, Stepwise.run_pure]

end Publisher

namespace MemoryRegistry

/-! ## What a registry holds for an endpoint -/

/-- The names of the files at an endpoint, in the order in which they came. -/
def filesAt (r : MemoryRegistry) (endpoint : String) : List String := (r.files.filter (·.1 == endpoint)).map (·.2)

/-- The attempts to upload to an endpoint, the first of them first. -/
def attemptsAt (r : MemoryRegistry) (endpoint : String) : List Attempt := r.attempts.filter (·.endpoint == endpoint)

theorem mem_filesAt_iff {r : MemoryRegistry} {endpoint f : String} : f ∈ r.filesAt endpoint ↔ r.contains endpoint f = true := by
  simp [filesAt, contains]

/-- All that a registry holds for one endpoint. -/
structure Shelf where
  files : List String
  /-- The status with which the endpoint refuses everything, if it does. -/
  failing : Option Http.Status
  attempts : List Attempt

/-- What a registry holds for an endpoint. -/
def shelf (r : MemoryRegistry) (endpoint : String) : Shelf :=
  ⟨r.filesAt endpoint, r.failing.lookup endpoint, r.attemptsAt endpoint⟩

theorem shelf_record (r : MemoryRegistry) (a : Attempt) (e : String) :
    (r.record a).shelf e =
      if a.endpoint = e then { r.shelf e with attempts := (r.shelf e).attempts ++ [a] } else r.shelf e := by
  by_cases h : a.endpoint = e <;> simp [shelf, record, filesAt, attemptsAt, h]

theorem shelf_seed (r : MemoryRegistry) (endpoint f e : String) :
    (r.seed endpoint f).shelf e =
      if endpoint = e ∧ f ∉ (r.shelf e).files then { r.shelf e with files := (r.shelf e).files ++ [f] } else r.shelf e := by
  by_cases there : r.contains endpoint f = true
  · have known : ¬(endpoint = e ∧ f ∉ (r.shelf e).files) := by
      rintro ⟨rfl, missing⟩
      exact missing (mem_filesAt_iff.mpr there)
    rw [if_neg known, seed, if_pos there]
  · by_cases h : endpoint = e
    · subst h
      have missing : f ∉ (r.shelf endpoint).files := fun h => there (mem_filesAt_iff.mp h)
      rw [if_pos ⟨rfl, missing⟩, seed, if_neg there]
      simp [shelf, filesAt, attemptsAt]
    · rw [if_neg fun both => h both.1, seed, if_neg there]
      simp [shelf, filesAt, attemptsAt, h]

/-- An upload leaves the shelves of other endpoints as they are. -/
theorem keeps_shelf_upload {u : Upload} {e : String} (other : u.endpoint ≠ e) : (upload u).Keeps (·.shelf e) := by
  refine Stepwise.Moves.bind (Stepwise.moves_change fun r => ?_) fun _ => Stepwise.Moves.bind ?_ fun status => ?_
  · exact (shelf_record r (attemptOf u) e).trans (if_neg other)
  · exact Stepwise.keeps_observe _ _
  · cases status with
    | some status => exact Stepwise.moves_pure _
    | none =>
      refine Stepwise.moves_atomic fun r => ?_
      split
      · rfl
      · exact (shelf_seed r _ _ e).trans (if_neg fun both => other both.1)

/-- What an upload answers and does to the shelf of its endpoint depends on that shelf alone. -/
theorem alike_upload (u : Upload) :
    Stepwise.Alike (·.shelf u.endpoint) (·.shelf u.endpoint) Eq (upload u) (upload u) := by
  refine (Stepwise.alike_change fun r t same => ?_).bind fun _ _ _ => ?_
  · rw [shelf_record, shelf_record, same]
  · refine (Stepwise.alike_observe (R := Eq) fun r t same => congrArg Shelf.failing same).bind fun status status' same => ?_
    subst same
    cases status with
    | some status => exact .done rfl
    | none =>
      refine Stepwise.alike_atomic fun r t same => ?_
      have files : r.filesAt u.endpoint = t.filesAt u.endpoint := congrArg Shelf.files same
      have present : r.contains u.endpoint u.artifact.fileName = t.contains u.endpoint u.artifact.fileName := by
        rw [Bool.eq_iff_iff, ← mem_filesAt_iff, ← mem_filesAt_iff, files]
      rw [present]
      split
      · exact ⟨rfl, same⟩
      · refine ⟨rfl, ?_⟩
        rw [shelf_seed, shelf_seed, same]

/-! ## A registry only grows -/

/-- Files were added to a registry, none of them a second time, and attempts that satisfy `P`; nothing went away. -/
structure Grows (P : Attempt → Prop) (r r' : MemoryRegistry) : Prop where
  files : r.files <+: r'.files
  nodup : r.files.Nodup → r'.files.Nodup
  attempts : ∃ new, r'.attempts = r.attempts ++ new ∧ ∀ a ∈ new, P a

theorem Grows.refl {P : Attempt → Prop} (r : MemoryRegistry) : Grows P r r :=
  ⟨List.prefix_rfl, id, [], (List.append_nil _).symm, List.forall_mem_nil _⟩

theorem Grows.trans {P : Attempt → Prop} {r s t : MemoryRegistry} (h : Grows P r s) (h' : Grows P s t) : Grows P r t := by
  obtain ⟨new, first, each⟩ := h.attempts
  obtain ⟨more, later, each'⟩ := h'.attempts
  refine ⟨h.files.trans h'.files, fun nodup => h'.nodup (h.nodup nodup), new ++ more, ?_, ?_⟩
  · rw [later, first, List.append_assoc]
  · exact List.forall_mem_append.mpr ⟨each, each'⟩

theorem Grows.mono {P P' : Attempt → Prop} {r r' : MemoryRegistry} (h : Grows P r r') (le : ∀ a, P a → P' a) : Grows P' r r' := by
  obtain ⟨new, adds, each⟩ := h.attempts
  exact ⟨h.files, h.nodup, new, adds, fun a ha => le a (each a ha)⟩

theorem grows_record {P : Attempt → Prop} {a : Attempt} (h : P a) (r : MemoryRegistry) : Grows P r (r.record a) :=
  ⟨List.prefix_rfl, id, [a], rfl, List.forall_mem_singleton.mpr h⟩

theorem grows_seed {P : Attempt → Prop} (r : MemoryRegistry) (endpoint f : String) : Grows P r (r.seed endpoint f) := by
  unfold seed
  split
  · exact .refl r
  next missing =>
    refine ⟨List.prefix_append _ _, fun nodup => ?_, [], (List.append_nil _).symm, List.forall_mem_nil _⟩
    refine List.nodup_append.mpr ⟨nodup, List.pairwise_singleton _ _, fun x hx y hy => ?_⟩
    obtain rfl := List.mem_singleton.mp hy
    rintro rfl
    exact missing (List.contains_iff_mem.mpr hx)

/-- In all its steps an upload adds one file at most, and the attempt that it is. -/
theorem moves_grows_upload {P : Attempt → Prop} {u : Upload} (h : P (attemptOf u)) : (upload u).Moves (Grows P) := by
  refine (Stepwise.moves_change (grows_record h)).bind fun _ => (Stepwise.moves_observe .refl _).bind fun status => ?_
  cases status with
  | some status => exact Stepwise.moves_pure _
  | none =>
    refine Stepwise.moves_atomic fun r => ?_
    split
    · exact .refl r
    · exact grows_seed r _ _

@[simp] theorem failing_seed (r : MemoryRegistry) (endpoint f : String) : (r.seed endpoint f).failing = r.failing := by
  unfold seed
  split <;> rfl

/-- An upload does not change what fails. -/
theorem keeps_failing_upload (u : Upload) : (upload u).Keeps MemoryRegistry.failing := by
  refine Stepwise.Moves.bind (Stepwise.moves_change fun r => rfl) fun _ => Stepwise.Moves.bind ?_ fun status => ?_
  · exact Stepwise.keeps_observe _ _
  · cases status with
    | some status => exact Stepwise.moves_pure _
    | none =>
      refine Stepwise.moves_atomic fun r => ?_
      split
      · rfl
      · exact failing_seed r _ _

/-! ## Uploads to an endpoint that accepts -/

/-- The registry with files put to an endpoint one after another. -/
def seedAll (r : MemoryRegistry) (endpoint : String) (names : List String) : MemoryRegistry :=
  names.foldl (fun r f => r.seed endpoint f) r

theorem seedAll_cons (r : MemoryRegistry) (endpoint f : String) (rest : List String) :
    r.seedAll endpoint (f :: rest) = (r.seed endpoint f).seedAll endpoint rest := rfl

/-- Files that are all there already change nothing. -/
theorem seedAll_eq_self {r : MemoryRegistry} {endpoint : String} {names : List String}
    (h : ∀ f ∈ names, r.contains endpoint f = true) : r.seedAll endpoint names = r := by
  induction names with
  | nil => rfl
  | cons name rest ih =>
    have first : r.seed endpoint name = r := if_pos (h name List.mem_cons_self)
    rw [seedAll_cons, first]
    exact ih fun f hf => h f (List.mem_cons_of_mem name hf)

theorem files_seed_congr {r t : MemoryRegistry} (h : r.files = t.files) (endpoint f : String) :
    (r.seed endpoint f).files = (t.seed endpoint f).files := by
  unfold seed contains
  rw [h]
  split
  · exact h
  · rfl

theorem files_seedAll_congr {r t : MemoryRegistry} (h : r.files = t.files) (endpoint : String) (names : List String) :
    (r.seedAll endpoint names).files = (t.seedAll endpoint names).files := by
  induction names generalizing r t with
  | nil => exact h
  | cons name rest ih => exact ih (files_seed_congr h endpoint name)

/-- What an upload answers where nothing is refused, and the registry after it. -/
theorem run_upload_of_accepting {u : Upload} {r : MemoryRegistry} (accepting : r.failing.lookup u.endpoint = none) :
    (upload u).run r =
      if r.contains u.endpoint u.artifact.fileName then (.ok .alreadyExists, r.record (attemptOf u))
      else (.ok .created, (r.record (attemptOf u)).seed u.endpoint u.artifact.fileName) := by
  have asked : (r.record (attemptOf u)).failing.lookup u.endpoint = none := accepting
  unfold upload
  simp only [Stepwise.run_bind, Stepwise.run_change, Stepwise.run_observe, asked, Stepwise.run_atomic]
  rfl

/-- Where nothing is refused and files may be there already, a publish puts all its files there. It succeeds when one of them was
missing, or one before them was made, and else is skipped. -/
theorem run_uploadAll_of_accepting (endpoint : String) (set : ArtifactSet) (credential : Credential) (c : Channel)
    (artifacts : List Artifact) (created : Bool) {r : MemoryRegistry} (accepting : r.failing.lookup endpoint = none) :
    let run := (Publisher.uploadAll (fun artifact => upload ⟨endpoint, set, artifact, credential⟩) c true created artifacts).run r
    run.1 = .ok (if created || artifacts.any fun a => !r.contains endpoint a.fileName then .succeeded else .skippedExisting) ∧
      run.2.files = (r.seedAll endpoint (artifacts.map (·.fileName))).files := by
  -- until a file is made nothing has changed, and from then on `created` holds: what is missing can be asked of the first registry
  induction artifacts generalizing created r with
  | nil =>
    rw [List.any_nil, Bool.or_false]
    exact ⟨rfl, rfl⟩
  | cons a rest ih =>
    let u : Upload := { endpoint, set, artifact := a, credential }
    have answer : (upload u).run r = _ := run_upload_of_accepting accepting
    have recorded : (r.record (attemptOf u)).files = r.files := rfl
    rw [List.any_cons, List.map_cons, seedAll_cons]
    by_cases there : r.contains endpoint a.fileName = true
    · rw [if_pos there] at answer
      have later := ih created (r := r.record (attemptOf u)) accepting
      have same : r.seed endpoint a.fileName = r := if_pos there
      rw [Publisher.run_uploadAll_present answer, there, Bool.not_true, Bool.false_or, same]
      exact ⟨later.1, later.2.trans (files_seedAll_congr recorded endpoint _)⟩
    · rw [if_neg there] at answer
      have later := ih true (r := (r.record (attemptOf u)).seed endpoint a.fileName) (by rw [failing_seed]; exact accepting)
      have missing : r.contains endpoint a.fileName = false := Bool.eq_false_iff.mpr there
      rw [Publisher.run_uploadAll_created answer, missing, Bool.not_false, Bool.true_or, Bool.or_true]
      exact ⟨later.1, later.2.trans (files_seedAll_congr (files_seed_congr recorded endpoint _) endpoint _)⟩

end MemoryRegistry

end ReleaseGate
