import ReleaseGate.Proofs.Publish.Uploads
import ReleaseGate.Publish.Index

/-!
# A publish follows the answers it gets

A publish to a package index sends one request for each artifact, in the order of the set, for as long as the answers let it go
on: a file that was made does, and so does a file that was there already when re-runs are wanted. The first answer that does
neither ends the publish, and decides how. `publish_follows` says so for every sequence of answers.
-/

namespace ReleaseGate

namespace PackageIndex

/-! ## What an answer says -/

/-- An answer says that the file was made. -/
def Grants (r : Http.Response) : Prop := 200 ≤ r.status.toNat ∧ r.status.toNat < 300

/-- An answer says that the file was there already: a conflict, or a complaint with words to that effect in letters of any case. -/
def SaysPresent (r : Http.Response) : Prop :=
  r.status = 409 ∨
    r.status = 400 ∧ ∃ before said after, (Text.Utf8.decodeLossy r.body).toList = before ++ said ++ after ∧
      Text.lowerAscii said = "already exists".toList

/-- An answer after which nothing more is sent. -/
def Stops (idempotent : Bool) (r : Http.Response) : Prop := ¬Grants r ∧ (SaysPresent r → idempotent = false)

/-- How a publish ends with the answer for a file that stops it. -/
structure Stopped (c : Channel) (file : String) (r : Http.Response) (result : Except PublishError Outcome) : Prop where
  present : SaysPresent r → result = .ok (.failed s!"{file} is already present on {c}")
  credential : r.status = 401 ∨ r.status = 403 → result = .error (.credentialRejected c r.status)
  other : ¬SaysPresent r → r.status ≠ 401 → r.status ≠ 403 →
    result = .error
      (.uploadRejected c file r.status (String.ofList ((Text.trim (Text.Utf8.decodeLossy r.body).toList).take 500)))

theorem isSuccess_iff (r : Http.Response) : r.isSuccess = true ↔ Grants r := by
  simp [Http.Response.isSuccess, Http.Status.isSuccess, Grants]

theorem saysPresent_iff (r : Http.Response) : saysPresent r.status r.text = true ↔ SaysPresent r := by
  have words : Text.containsText "already exists".toList (Text.lowerAscii r.text.toList) = true ↔
      ∃ before said after, (Text.Utf8.decodeLossy r.body).toList = before ++ said ++ after ∧
        Text.lowerAscii said = "already exists".toList := by
    unfold Http.Response.text
    rw [Text.containsText_iff]
    constructor
    · rintro ⟨before, after, whole⟩
      obtain ⟨front, last, split, lowered, -⟩ := List.map_eq_append_iff.mp whole.symm
      obtain ⟨first, said, rfl, -, spelled⟩ := List.map_eq_append_iff.mp lowered
      exact ⟨first, said, last, split, spelled⟩
    · rintro ⟨before, said, after, whole, spelled⟩
      refine ⟨Text.lowerAscii before, Text.lowerAscii after, ?_⟩
      rw [← spelled, whole]
      simp [Text.lowerAscii]
  unfold saysPresent SaysPresent
  rw [Bool.or_eq_true, Bool.and_eq_true, beq_iff_eq, beq_iff_eq, words]

/-- An upload whose answer does not stop a publish made the file or found it there. -/
theorem verdict_of_goesOn {u : Upload} {r : Http.Response} {idempotent : Bool} (h : ¬Stops idempotent r) :
    Grants r ∧ verdict u r = .ok .created ∨ ¬Grants r ∧ idempotent = true ∧ verdict u r = .ok .alreadyExists := by
  unfold verdict
  by_cases grants : Grants r
  · rw [if_pos ((isSuccess_iff r).mpr grants)]
    exact .inl ⟨grants, rfl⟩
  · have held : SaysPresent r ∧ idempotent ≠ false := Classical.not_imp.mp fun held => h ⟨grants, held⟩
    rw [if_neg (mt (isSuccess_iff r).mp grants), if_pos ((saysPresent_iff r).mpr held.1)]
    exact .inr ⟨grants, eq_true_of_ne_false held.2, rfl⟩

/-- An upload whose answer stops a publish found the file there, or was refused for the reason that the publish ends with. -/
theorem verdict_of_stops {u : Upload} {r : Http.Response} {idempotent : Bool} (h : Stops idempotent r) :
    SaysPresent r ∧ idempotent = false ∧ verdict u r = .ok .alreadyExists ∨
      ∃ e, verdict u r = .error e ∧ Stopped u.credential.channel u.artifact.fileName r (.error e) := by
  obtain ⟨refuses, unwanted⟩ := h
  unfold verdict
  rw [if_neg (mt (isSuccess_iff r).mp refuses)]
  by_cases present : SaysPresent r
  · rw [if_pos ((saysPresent_iff r).mpr present)]
    exact .inl ⟨present, unwanted present, rfl⟩
  · rw [if_neg (mt (saysPresent_iff r).mp present)]
    by_cases denied : r.status = 401 ∨ r.status = 403
    · have known : (r.status == 401 || r.status == 403) = true := by simpa using denied
      rw [if_pos known]
      exact .inr ⟨_, rfl, fun held => absurd held present, fun _ => rfl,
        fun _ other other' => absurd denied (not_or.mpr ⟨other, other'⟩)⟩
    · have known : ¬(r.status == 401 || r.status == 403) = true := by simpa using denied
      rw [if_neg known]
      exact .inr ⟨_, rfl, fun held => absurd held present, fun held => absurd held denied, fun _ _ _ => rfl⟩

/-- A file that may not be there already and is ends the publish. -/
theorem SaysPresent.stopped {r : Http.Response} (h : SaysPresent r) (c : Channel) (file : String) :
    Stopped c file r (.ok (.failed s!"{file} is already present on {c}")) := by
  refine ⟨fun _ => rfl, fun denied => ?_, fun other => absurd h other⟩
  have known : r.status = 409 ∨ r.status = 400 := h.imp_right And.left
  rcases known with status | status <;> rw [status] at denied <;> exact absurd denied (by decide)

/-! ## Requests and answers -/

section

variable {σ : Type} {i : PackageIndex σ} {sent : σ → List Http.Request} {answers : Nat → Http.Response}

/-- A client delivers what it is asked to send and what is answered: `sent` are the requests that went out so far, each request is
the next of them and has the next answer, and no file is changed. -/
structure Delivers (i : PackageIndex σ) (sent : σ → List Http.Request) (answers : Nat → Http.Response) : Prop where
  answer (r : Http.Request) (s : σ) : ((i.client r).run s).1 = .ok (answers (sent s).length)
  sends (r : Http.Request) (s : σ) : sent ((i.client r).run s).2 = sent s ++ [r]
  files (r : Http.Request) (s : σ) : i.contentAt ((i.client r).run s).2 = i.contentAt s

/-- The request that brings an artifact of a set. -/
def requestFor (url : Http.Url) (set : ArtifactSet) (d : Descriptor) (credential : Credential) (contents : Path → List UInt8)
    (a : Artifact) : Http.Request :=
  { method := .post, url, authorization := some (.basic credential.username credential.secret)
    body := .form (formFields set d a (contents a.path)) }

/-- An upload of a file that can be read sends the request for it, and ends with what the answer says. -/
theorem run_upload {u : Upload} {d : Descriptor} {url : Http.Url} {contents : Path → List UInt8} {s : σ}
    (delivers : i.Delivers sent answers) (descriptor : u.set.descriptor = some d) (target : Http.target u.endpoint = .ok url)
    (readable : i.contentAt s u.artifact.path = .ok (contents u.artifact.path)) :
    (i.upload u).run s =
      (verdict u (answers (sent s).length), ((i.client (requestFor url u.set d u.credential contents u.artifact)).run s).2) := by
  have request : PackageIndex.request u (contents u.artifact.path) =
      .ok (requestFor url u.set d u.credential contents u.artifact) := by
    unfold PackageIndex.request
    simp only [descriptor, target, requestFor]
  unfold upload
  rw [Stepwise.run_bind, Stepwise.run_observe, readable]
  simp only [request]
  rw [Stepwise.run_bind, delivers.answer]
  rfl

/-! ## The uploads of a set -/

variable {c : Channel} {set : ArtifactSet} {credential : Credential} {endpoint : String} {url : Http.Url} {d : Descriptor}
  {contents : Path → List UInt8} {idempotent : Bool}

/-- The publish of some artifacts of a set over HTTP. -/
abbrev uploads (i : PackageIndex σ) (endpoint : String) (set : ArtifactSet) (credential : Credential) (c : Channel)
    (idempotent created : Bool) (artifacts : List Artifact) : Stepwise σ (Except PublishError Outcome) :=
  Publisher.uploadAll (fun artifact => i.upload { endpoint, set, artifact, credential }) c idempotent created artifacts

/-- While no answer stops it, a publish sends the requests for its artifacts one after another, and knows whether one was granted. -/
theorem run_uploads_append (c : Channel) (credential : Credential) (delivers : i.Delivers sent answers)
    (descriptor : set.descriptor = some d) (target : Http.target endpoint = .ok url) {before : List Artifact}
    (rest : List Artifact) (created : Bool) {s : σ}
    (readable : ∀ a ∈ before ++ rest, i.contentAt s a.path = .ok (contents a.path))
    (goesOn : ∀ k < before.length, ¬Stops idempotent (answers ((sent s).length + k))) :
    ∃ (s' : σ) (created' : Bool),
      (i.uploads endpoint set credential c idempotent created (before ++ rest)).run s =
        (i.uploads endpoint set credential c idempotent created' rest).run s' ∧
      sent s' = sent s ++ before.map (requestFor url set d credential contents) ∧ i.contentAt s' = i.contentAt s ∧
      (created' = true ↔ created = true ∨ ∃ k < before.length, Grants (answers ((sent s).length + k))) := by
  induction before generalizing created s with
  | nil => exact ⟨s, created, rfl, by simp, rfl, by simp⟩
  | cons a before ih =>
    let u : Upload := { endpoint, set, artifact := a, credential }
    let s₁ := ((i.client (requestFor url set d credential contents a)).run s).2
    have ran : (i.upload u).run s = (verdict u (answers (sent s).length), s₁) :=
      run_upload delivers descriptor target (readable a List.mem_cons_self)
    have sent₁ : sent s₁ = sent s ++ [requestFor url set d credential contents a] := delivers.sends _ s
    have files₁ : i.contentAt s₁ = i.contentAt s := delivers.files _ s
    have readable₁ : ∀ b ∈ before ++ rest, i.contentAt s₁ b.path = .ok (contents b.path) := fun b hb =>
      files₁ ▸ readable b (List.mem_cons_of_mem a hb)
    have count : ∀ k, (sent s₁).length + k = (sent s).length + (k + 1) := by
      intro k
      rw [sent₁, List.length_append, List.length_singleton]
      omega
    have goesOn₁ : ∀ k < before.length, ¬Stops idempotent (answers ((sent s₁).length + k)) := by
      intro k hk
      rw [count]
      exact goesOn (k + 1) (Nat.succ_lt_succ hk)
    have first : ¬Stops idempotent (answers (sent s).length) := goesOn 0 (Nat.succ_pos _)
    -- the answers for `a` and for the artifacts after it, together
    have some_iff : (∃ k < (a :: before).length, Grants (answers ((sent s).length + k))) ↔
        Grants (answers (sent s).length) ∨ ∃ k < before.length, Grants (answers ((sent s₁).length + k)) := by
      simp only [count, List.length_cons, Nat.exists_lt_succ_left, Nat.add_zero]
    rcases verdict_of_goesOn (u := u) first with ⟨grants, made⟩ | ⟨refuses, rfl, there⟩
    · obtain ⟨s', created', later, requests, files, known⟩ := ih true readable₁ goesOn₁
      refine ⟨s', created', ?_, ?_, files.trans files₁, ?_⟩
      · rw [made] at ran
        exact (Publisher.run_uploadAll_created ran c idempotent created (before ++ rest)).trans later
      · rw [requests, sent₁, List.append_assoc]
        rfl
      · rw [known, some_iff]
        simp [grants]
    · obtain ⟨s', created', later, requests, files, known⟩ := ih created readable₁ goesOn₁
      refine ⟨s', created', ?_, ?_, files.trans files₁, ?_⟩
      · rw [there] at ran
        exact (Publisher.run_uploadAll_present ran c created (before ++ rest)).trans later
      · rw [requests, sent₁, List.append_assoc]
        rfl
      · rw [known, some_iff]
        simp [refuses]

/-- An answer that stops a publish ends it. -/
theorem run_uploads_stopped (delivers : i.Delivers sent answers) (descriptor : set.descriptor = some d)
    (target : Http.target endpoint = .ok url) (scope : credential.channel = c) {a : Artifact} (rest : List Artifact)
    (created : Bool) {s : σ} (readable : i.contentAt s a.path = .ok (contents a.path))
    (stops : Stops idempotent (answers (sent s).length)) :
    let run := (i.uploads endpoint set credential c idempotent created (a :: rest)).run s
    sent run.2 = sent s ++ [requestFor url set d credential contents a] ∧
      Stopped c a.fileName (answers (sent s).length) run.1 := by
  intro run
  let u : Upload := { endpoint, set, artifact := a, credential }
  have ran : (i.upload u).run s = (verdict u (answers (sent s).length), _) := run_upload delivers descriptor target readable
  rcases verdict_of_stops (u := u) stops with ⟨present, rfl, there⟩ | ⟨e, refused, stopped⟩
  · rw [there] at ran
    have ended : run = _ := Publisher.run_uploadAll_unwanted ran c created rest
    rw [ended]
    exact ⟨delivers.sends _ s, present.stopped c a.fileName⟩
  · rw [refused] at ran
    have ended : run = _ := Publisher.run_uploadAll_failed ran c idempotent created rest
    rw [ended]
    exact ⟨delivers.sends _ s, scope ▸ stopped⟩

/-! ## The publish of a set -/

/-- A publish over HTTP that has all it takes: a credential of its channel that has not expired, an endpoint to which a request can
be made, and a set that has a descriptor and files, which can all be read. -/
structure IsEquipped (i : PackageIndex σ) (p : Publisher σ) (c : Channel) (set : ArtifactSet) (credential : Credential)
    (url : Http.Url) (d : Descriptor) (contents : Path → List UInt8) (s : σ) : Prop where
  registry : p.registry = i.upload
  endpoint : ∃ endpoint, p.endpoints.get c = some endpoint ∧ Http.target endpoint = .ok url
  scope : credential.channel = c
  valid : credential.isExpiredAt (p.clock s) = false
  files : set.artifacts ≠ []
  descriptor : set.descriptor = some d
  readable : ∀ a ∈ set.artifacts, i.contentAt s a.path = .ok (contents a.path)

/-- What comes of a publish over HTTP by the answers it gets, and which requests it adds to the earlier ones. -/
structure Follows (c : Channel) (idempotent : Bool) (artifacts : List Artifact) (request : Artifact → Http.Request)
    (answer : Nat → Http.Response) (earlier requests : List Http.Request) (result : Except PublishError Outcome) : Prop where
  /-- When no answer stops it, everything is sent, and the publish has succeeded if something was made and is skipped if not. -/
  goesOn : (∀ k < artifacts.length, ¬Stops idempotent (answer k)) →
    requests = earlier ++ artifacts.map request ∧ ∃ outcome, result = .ok outcome ∧
      (outcome = .succeeded ↔ ∃ k < artifacts.length, Grants (answer k)) ∧
      (outcome = .skippedExisting ↔ ¬∃ k < artifacts.length, Grants (answer k))
  /-- The first answer that stops it is the last: nothing is sent after the request that it answers. -/
  stops (before : List Artifact) (a : Artifact) (after : List Artifact) : artifacts = before ++ a :: after →
    (∀ k < before.length, ¬Stops idempotent (answer k)) → Stops idempotent (answer before.length) →
    requests = earlier ++ (before ++ [a]).map request ∧ Stopped c a.fileName (answer before.length) result

/-- A publish over HTTP that has all it takes follows the answers it gets, whatever they are. -/
theorem publish_follows {p : Publisher σ} {s : σ} (delivers : i.Delivers sent answers)
    (equipped : i.IsEquipped p c set credential url d contents s) (idempotent : Bool) :
    let run := (p.tryPublish c set credential idempotent).run s
    Follows c idempotent set.artifacts (requestFor url set d credential contents) (fun k => answers ((sent s).length + k))
      (sent s) (sent run.2) run.1 := by
  intro run
  obtain ⟨endpoint, known, target⟩ := equipped.endpoint
  have filled : set.isEmpty = false := List.isEmpty_eq_false_iff.mpr equipped.files
  have admitted : p.admission (p.clock s) c set credential = .ok endpoint :=
    (p.admission_eq_ok_iff _ c set credential endpoint).mpr ⟨equipped.scope, equipped.valid, known, filled⟩
  have uploaded : run = (i.uploads endpoint set credential c idempotent false set.artifacts).run s := by
    show (p.tryPublish c set credential idempotent).run s = _
    rw [Publisher.run_tryPublish, admitted, equipped.registry]
  constructor
  case goesOn =>
    intro goesOn
    have readable : ∀ a ∈ set.artifacts ++ [], i.contentAt s a.path = .ok (contents a.path) := by
      rw [List.append_nil]
      exact equipped.readable
    obtain ⟨s', created, whole, requests, -, made⟩ := run_uploads_append c credential delivers equipped.descriptor target []
      false readable goesOn
    rw [List.append_nil] at whole
    have ended : run = (.ok (if created then .succeeded else .skippedExisting), s') := uploaded.trans whole
    simp only [Bool.false_eq_true, false_or] at made
    rw [ended, ← made]
    refine ⟨requests, _, rfl, ?_, ?_⟩ <;> cases created <;> simp
  case stops =>
    intro before a after cut goesOn stops
    rw [cut] at uploaded
    have readable : ∀ b ∈ before ++ a :: after, i.contentAt s b.path = .ok (contents b.path) := cut ▸ equipped.readable
    obtain ⟨s', created, whole, requests, files, -⟩ := run_uploads_append c credential delivers equipped.descriptor target
      (a :: after) false readable goesOn
    have count : (sent s').length = (sent s).length + before.length := by
      rw [requests, List.length_append, List.length_map]
    have readableLast : i.contentAt s' a.path = .ok (contents a.path) := files ▸ readable a (by simp)
    rw [← count] at stops
    obtain ⟨sentLast, stopped⟩ := run_uploads_stopped delivers equipped.descriptor target equipped.scope after created readableLast
      stops
    rw [uploaded, whole]
    refine ⟨?_, ?_⟩
    · rw [sentLast, requests, List.map_append, List.append_assoc]
      rfl
    · rw [count] at stopped
      exact stopped

end

/-! ## A server that answers by a script -/

/-- An index whose server answers by a script, and whose files all have the same content. -/
def scripted (script : Nat → Http.Response) (content : List UInt8) : PackageIndex (List Http.Request) where
  client r := Stepwise.atomic fun sent => (.ok (script sent.length), sent ++ [r])
  contentAt _ _ := .ok content

theorem delivers_scripted (script : Nat → Http.Response) (content : List UInt8) : (scripted script content).Delivers id script where
  answer _ _ := rfl
  sends _ _ := rfl
  files _ _ := rfl

/-- A server that makes the first file and has all others already. -/
def madeFirst : Nat → Http.Response
  | 0 => ⟨200, []⟩
  | _ => ⟨400, Text.Utf8.encode "File Already Exists."⟩

/-- A file of three bytes. -/
def threeBytes (fileName : String) : Artifact := { fileName, path := ⟨"/" ++ fileName⟩, size := 3, sha256 := "" }

/-- A set of two files. -/
def twoFiles : ArtifactSet where
  version := ⟨"1.2.0", by decide +kernel⟩
  dir := ⟨"/"⟩
  artifacts := [threeBytes "widget-1.2.0.tar.gz", threeBytes "widget-1.2.0.zip"]
  descriptor := some { name := "widget", version := "1.2.0", summary := "", longDescription := "", contentType := "" }
  checksums := none

/-- Where a publish is not to find files, the second answer ends it: both requests were sent, and the second file has failed it. -/
theorem publish_follows_madeFirst :
    let publisher : Publisher (List Http.Request) :=
      { registry := (scripted madeFirst [1, 2, 3]).upload, endpoints := ⟨some "https://test.widget.example", none⟩
        clock := fun _ => .epoch }
    let run := (publisher.tryPublish .staging twoFiles { channel := .staging, secret := "first" } false).run []
    run.2.length = 2 ∧ run.1 = .ok (.failed "widget-1.2.0.zip is already present on staging") := by
  intro publisher run
  have equipped : (scripted madeFirst [1, 2, 3]).IsEquipped publisher .staging twoFiles { channel := .staging, secret := "first" }
      { secure := true, host := "test.widget.example", portNumber := none, path := [""], query := none, mark := none }
      { name := "widget", version := "1.2.0", summary := "", longDescription := "", contentType := "" } (fun _ => [1, 2, 3]) [] :=
    { registry := rfl
      endpoint := ⟨_, rfl, rfl⟩
      scope := rfl
      valid := rfl
      files := List.cons_ne_nil _ _
      descriptor := rfl
      readable := fun _ _ => rfl }
  have follows := publish_follows (delivers_scripted madeFirst [1, 2, 3]) equipped false
  have makes : ¬Stops false (madeFirst 0) := fun stops => stops.1 ⟨by decide, by decide⟩
  have goesOn : ∀ k < 1, ¬Stops false (madeFirst (0 + k)) := by
    intro k hk
    obtain rfl := Nat.lt_one_iff.mp hk
    exact makes
  have held : SaysPresent (madeFirst 1) :=
    .inr ⟨rfl, "File ".toList, "Already Exists".toList, ".".toList, by decide +kernel, by decide +kernel⟩
  have stops : Stops false (madeFirst 1) := ⟨fun grants => absurd grants.2 (by decide), fun _ => rfl⟩
  obtain ⟨sent, stopped⟩ := follows.stops [threeBytes "widget-1.2.0.tar.gz"] (threeBytes "widget-1.2.0.zip") [] rfl goesOn stops
  exact ⟨congrArg List.length sent, stopped.present held⟩

end PackageIndex

end ReleaseGate
