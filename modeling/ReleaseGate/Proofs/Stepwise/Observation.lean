import ReleaseGate.Proofs.Stepwise.Independence

/-!
# Observed computations

What a computation calls can be written down in a log that stands beside its state. `logged` does so, and changes nothing else:
`Shadows` says that a computation with a log does the same as one without, and it is kept by every way of putting computations
together, their interleavings among them. `Logs` says what a computation adds to its log; `logs_interleaving` says it of two
computations whose steps come in any order.
-/

namespace ReleaseGate.Stepwise

variable {σ ε α β : Type}

/-- The state beside a log. -/
def besideLog : Part (σ × List ε) σ := ⟨Prod.fst, fun x s => (s, x.2)⟩

/-- A computation that is written down before it begins. -/
def logged (e : ε) (m : Stepwise σ α) : Stepwise (σ × List ε) α :=
  step (fun x => (x.1, x.2 ++ [e])) fun _ => within besideLog m

/-- A computation that is written down may do what is done when it is, and whatever it may do without. -/
theorem moves_logged {Q : σ × List ε → σ × List ε → Prop} {Q' : σ → σ → Prop} {e : ε} {m : Stepwise σ α}
    (writes : ∀ x, Q x (x.1, x.2 ++ [e])) (lift : ∀ x s', Q' x.1 s' → Q x (s', x.2)) (h : m.Moves Q') : (logged e m).Moves Q :=
  fun x => ⟨writes x, h.within lift⟩

/-- Computations in step stay so when they are written down, as far as the same is to be seen of the logs. -/
theorem alike_logged {ν μ : Type} {v w : σ → ν} {R : α → β → Prop} {g : List ε → μ} {e e' : ε} {m : Stepwise σ α}
    {m' : Stepwise σ β} (h : Alike v w R m m') (writes : ∀ log log', g log = g log' → g (log ++ [e]) = g (log' ++ [e'])) :
    Alike (fun x : σ × List ε => (v x.1, g x.2)) (fun x => (w x.1, g x.2)) R (logged e m) (logged e' m') := by
  have replaced : ∀ (x : σ × List ε) (s : σ), besideLog.get (besideLog.set x s) = s := fun _ _ => rfl
  have untouched : ∀ {γ : Type} (n : Stepwise σ γ), (within besideLog n).Keeps fun x : σ × List ε => g x.2 := by
    intro γ n
    induction n with
    | done c => exact trivial
    | step effect next ih => exact fun x => ⟨rfl, ih x.1⟩
  refine .step (fun x y seen => ?_) fun _ _ _ => (h.within replaced).and_kept (untouched m) (untouched m')
  obtain ⟨left, right⟩ := Prod.mk.inj seen
  exact Prod.ext left (writes _ _ right)

/-- Some events were added to a log, all of which satisfy `P`, whatever became of the state beside it. -/
def Adds (P : ε → Prop) (x y : σ × List ε) : Prop := ∃ new, y.2 = x.2 ++ new ∧ ∀ e ∈ new, P e

theorem Adds.refl {P : ε → Prop} (x : σ × List ε) : Adds P x x := ⟨[], (List.append_nil _).symm, List.forall_mem_nil _⟩

theorem Adds.trans {P : ε → Prop} {x y z : σ × List ε} (h : Adds P x y) (h' : Adds P y z) : Adds P x z := by
  obtain ⟨new, first, each⟩ := h
  obtain ⟨more, later, each'⟩ := h'
  refine ⟨new ++ more, ?_, List.forall_mem_append.mpr ⟨each, each'⟩⟩
  rw [later, first, List.append_assoc]

theorem Adds.mono {P P' : ε → Prop} {x y : σ × List ε} (h : Adds P x y) (le : ∀ e, P e → P' e) : Adds P' x y := by
  obtain ⟨new, adds, each⟩ := h
  exact ⟨new, adds, fun e he => le e (each e he)⟩

/-- A computation that is written down adds that to the log and nothing else. -/
theorem adds_logged {P : ε → Prop} {e : ε} (h : P e) (m : Stepwise σ α) : (logged e m).Moves (Adds P) := by
  have free : m.Moves fun _ _ => True := by
    induction m with
    | done a => exact trivial
    | step effect next ih => exact fun s => ⟨trivial, ih s⟩
  refine moves_logged (fun x => ⟨[e], rfl, List.forall_mem_singleton.mpr h⟩) (fun x s' _ => ?_) free
  exact ⟨[], (List.append_nil _).symm, List.forall_mem_nil _⟩

/-! ## A log changes nothing else -/

/-- A computation with a log does to the state beside it what another one does, and has the same outcome. Its steps may be more:
those that only write to the log are silent. -/
inductive Shadows : Stepwise (σ × List ε) α → Stepwise σ α → Prop where
  | done (a : α) : Shadows (done a) (done a)
  | step {effect' : σ × List ε → σ × List ε} {next' : σ × List ε → Stepwise (σ × List ε) α} {effect : σ → σ}
      {next : σ → Stepwise σ α} (same : ∀ x, (effect' x).1 = effect x.1) (later : ∀ x, Shadows (next' x) (next x.1)) :
      Shadows (step effect' next') (step effect next)
  | silent {effect' : σ × List ε → σ × List ε} {next' : σ × List ε → Stepwise (σ × List ε) α} {m : Stepwise σ α}
      (same : ∀ x, (effect' x).1 = x.1) (later : ∀ x, Shadows (next' x) m) : Shadows (step effect' next') m

theorem shadows_within (m : Stepwise σ α) : Shadows (within (besideLog (ε := ε)) m) m := by
  induction m with
  | done a => exact .done a
  | step effect next ih => exact .step (fun _ => rfl) fun x => ih x.1

theorem shadows_logged (e : ε) (m : Stepwise σ α) : Shadows (logged e m) m :=
  .silent (fun _ => rfl) fun _ => shadows_within m

theorem shadows_observe (f : σ → α) : Shadows (observe fun x : σ × List ε => f x.1) (observe f) :=
  .step (fun _ => rfl) fun x => .done (f x.1)

theorem Shadows.bind {m' : Stepwise (σ × List ε) α} {m : Stepwise σ α} {f' : α → Stepwise (σ × List ε) β}
    {f : α → Stepwise σ β} (h : Shadows m' m) (hf : ∀ a, Shadows (f' a) (f a)) : Shadows (m' >>= f') (m >>= f) := by
  show Shadows (m'.bind f') (m.bind f)
  induction h with
  | done a => exact hf a
  | step same _ ih => exact .step same ih
  | silent same _ ih => exact .silent same ih

/-- All steps of a computation with a log do what those of the one without do. -/
theorem Shadows.run {m' : Stepwise (σ × List ε) α} {m : Stepwise σ α} (h : Shadows m' m) (x : σ × List ε) :
    (m'.run x).1 = (m.run x.1).1 ∧ (m'.run x).2.1 = (m.run x.1).2 := by
  induction h generalizing x with
  | done a => exact ⟨rfl, rfl⟩
  | step same _ ih =>
    rw [run_step, run_step, ← same x]
    exact ih x _
  | silent same _ ih =>
    rw [run_step, ← same x]
    exact ih x _

/-- An interleaving of two computations with a log is, beside the log, one of the two without. -/
theorem Shadows.of_interleaving {m' : Stepwise (σ × List ε) α} {n' : Stepwise (σ × List ε) β} {m : Stepwise σ α}
    {n : Stepwise σ β} {x y : σ × List ε} {a : α} {b : β} (hm : Shadows m' m) (hn : Shadows n' n)
    (h : Interleaving m' n' x a b y) : Interleaving m n x.1 a b y.1 := by
  induction h generalizing m n with
  | done =>
    cases hm
    cases hn
    exact .done
  | @left _ _ _ s _ _ _ _ ih =>
    cases hm with
    | step same later =>
      have rest := ih (later s) hn
      rw [same] at rest
      exact .left rest
    | silent same later =>
      have rest := ih (later s) hn
      rw [same] at rest
      exact rest
  | @right _ _ _ s _ _ _ _ ih =>
    cases hn with
    | step same later =>
      have rest := ih hm (later s)
      rw [same] at rest
      exact .right rest
    | silent same later =>
      have rest := ih hm (later s)
      rw [same] at rest
      exact rest

/-- The steps of two computations can come in the same order when the two change places. -/
theorem Interleaving.symm {m : Stepwise σ α} {n : Stepwise σ β} {s t : σ} {a : α} {b : β} (h : Interleaving m n s a b t) :
    Interleaving n m s b a t := by
  induction h with
  | done => exact .done
  | left _ ih => exact .right ih
  | right _ ih => exact .left ih

/-- A computation with a log takes its silent steps first, and then does what the one without does next: it ends, or it takes the
same step. -/
theorem Shadows.interleaving_left {m' : Stepwise (σ × List ε) α} {n' : Stepwise (σ × List ε) β} {m : Stepwise σ α} {s t : σ}
    {a : α} {b : β} (hm : Shadows m' m)
    (ended : ∀ c, m = .done c → ∀ log, ∃ log', Interleaving (.done c) n' (s, log) a b (t, log'))
    (moves : ∀ effect next, m = .step effect next → ∀ m'', Shadows m'' (next s) →
      ∀ log, ∃ log', Interleaving m'' n' (effect s, log) a b (t, log')) (log : List ε) :
    ∃ log', Interleaving m' n' (s, log) a b (t, log') := by
  induction hm generalizing log with
  | done c => exact ended c rfl log
  | @step effect' next' effect next same later _ =>
    obtain ⟨log', rest⟩ := moves effect next rfl _ (later (s, log)) (effect' (s, log)).2
    have after : effect' (s, log) = (effect s, (effect' (s, log)).2) := Prod.ext (same (s, log)) rfl
    rw [← after] at rest
    exact ⟨log', .left rest⟩
  | @silent effect' next' m same later ih =>
    obtain ⟨log', rest⟩ := ih (s, log) ended moves (effect' (s, log)).2
    have after : effect' (s, log) = (s, (effect' (s, log)).2) := Prod.ext (same (s, log)) rfl
    rw [← after] at rest
    exact ⟨log', .left rest⟩

/-- An interleaving of two computations is one of the two with a log, whatever the log holds at first. -/
theorem Shadows.interleaving {m' : Stepwise (σ × List ε) α} {n' : Stepwise (σ × List ε) β} {m : Stepwise σ α} {n : Stepwise σ β}
    {s t : σ} {a : α} {b : β} (hm : Shadows m' m) (hn : Shadows n' n) (h : Interleaving m n s a b t) (log : List ε) :
    ∃ log', Interleaving m' n' (s, log) a b (t, log') := by
  -- the side whose step comes next takes its silent steps before it; at the end both sides take those that are left
  induction h generalizing m' n' log with
  | @done a b s =>
    refine hm.interleaving_left (fun c hc log => ?_) nofun log
    obtain rfl := Stepwise.done.inj hc
    have other : ∃ log', Interleaving n' (.done a) (s, log) b a (s, log') := by
      refine hn.interleaving_left (fun d hd log => ?_) nofun log
      obtain rfl := Stepwise.done.inj hd
      exact ⟨log, .done⟩
    obtain ⟨log', rest⟩ := other
    exact ⟨log', rest.symm⟩
  | @left effect next n s t a b _ ih =>
    refine hm.interleaving_left nofun (fun effect' next' same m'' shadows log => ?_) log
    obtain ⟨rfl, rfl⟩ := Stepwise.step.inj same
    exact ih shadows hn log
  | @right m effect next s t a b _ ih =>
    have other : ∃ log', Interleaving n' m' (s, log) b a (t, log') := by
      refine hn.interleaving_left nofun (fun effect' next' same n'' shadows log => ?_) log
      obtain ⟨rfl, rfl⟩ := Stepwise.step.inj same
      obtain ⟨log', rest⟩ := ih hm shadows log
      exact ⟨log', rest.symm⟩
    obtain ⟨log', rest⟩ := other
    exact ⟨log', rest.symm⟩

/-! ## What a computation writes down -/

/-- Whatever the state is when its steps come, a computation only adds to its log, and what it adds satisfies `post` together with
its outcome. -/
def Logs : Stepwise (σ × List ε) α → (α → List ε → Prop) → Prop
  | .done a, post => post a []
  | .step effect next, post => ∀ x, ∃ new, (effect x).2 = x.2 ++ new ∧ Logs (next x) fun a more => post a (new ++ more)

theorem Logs.mono {m : Stepwise (σ × List ε) α} {post post' : α → List ε → Prop} (h : m.Logs post)
    (le : ∀ a new, post a new → post' a new) : m.Logs post' := by
  induction m generalizing post post' with
  | done a => exact le a [] h
  | step effect next ih =>
    intro x
    obtain ⟨new, adds, rest⟩ := h x
    exact ⟨new, adds, ih x rest fun a more => le a (new ++ more)⟩

theorem Logs.bind {m : Stepwise (σ × List ε) α} {f : α → Stepwise (σ × List ε) β} {post : α → List ε → Prop}
    {post' : β → List ε → Prop} (h : m.Logs post)
    (hf : ∀ a new, post a new → (f a).Logs fun b more => post' b (new ++ more)) : (m >>= f).Logs post' := by
  show (m.bind f).Logs post'
  induction m generalizing post post' with
  | done a => exact (hf a [] h).mono fun b more => id
  | step effect next ih =>
    intro x
    obtain ⟨new, adds, rest⟩ := h x
    refine ⟨new, adds, ih x rest fun a more ended => ?_⟩
    refine (hf a (new ++ more) ended).mono fun b last done => ?_
    rw [List.append_assoc] at done
    exact done

/-- Whatever comes of it, a computation writes nothing down. -/
def IsSilent (m : Stepwise (σ × List ε) α) : Prop := m.Logs fun _ new => new = []

/-- What comes after a computation that writes nothing down is all that is written down. -/
theorem IsSilent.bind {m : Stepwise (σ × List ε) α} {f : α → Stepwise (σ × List ε) β} {post : β → List ε → Prop}
    (h : m.IsSilent) (hf : ∀ a, (f a).Logs post) : (m >>= f).Logs post := by
  refine Logs.bind h fun a new nothing => ?_
  subst nothing
  exact hf a

/-- What comes before computations that write nothing down is all that is written down. -/
theorem Logs.bind_silent {m : Stepwise (σ × List ε) α} {f : α → Stepwise (σ × List ε) β} {post : List ε → Prop}
    (h : m.Logs fun _ new => post new) (hf : ∀ a, (f a).IsSilent) : (m >>= f).Logs fun _ new => post new := by
  refine h.bind fun a new written => (hf a).mono fun _ more nothing => ?_
  rw [nothing, List.append_nil]
  exact written

theorem isSilent_pure (a : α) : (pure a : Stepwise (σ × List ε) α).IsSilent := rfl

theorem isSilent_observe (f : σ × List ε → α) : (observe f).IsSilent := fun _ => ⟨[], (List.append_nil _).symm, rfl⟩

/-- A computation on the state beside the log writes nothing down. -/
theorem isSilent_within (m : Stepwise σ α) : (within (besideLog (ε := ε)) m).IsSilent := by
  induction m with
  | done a => rfl
  | step effect next ih => exact fun x => ⟨[], (List.append_nil _).symm, ih x.1⟩

theorem logs_logged (e : ε) (m : Stepwise σ α) : (logged e m).Logs fun _ new => new = [e] := by
  intro _
  refine ⟨[e], rfl, (isSilent_within m).mono fun a more nothing => ?_⟩
  rw [nothing]
  rfl

/-- All steps of a computation add to the log what the computation writes down. -/
theorem Logs.run {m : Stepwise (σ × List ε) α} {post : α → List ε → Prop} (h : m.Logs post) (x : σ × List ε) :
    ∃ new, (m.run x).2.2 = x.2 ++ new ∧ post (m.run x).1 new := by
  induction m generalizing post x with
  | done a => exact ⟨[], (List.append_nil _).symm, h⟩
  | step effect next ih =>
    obtain ⟨new, adds, rest⟩ := h x
    obtain ⟨more, later, ended⟩ := ih x rest (effect x)
    refine ⟨new ++ more, ?_, ended⟩
    rw [run_step, later, adds, List.append_assoc]

/-- Two computations add to the log what each of them writes down, in some order. -/
theorem logs_interleaving {m : Stepwise (σ × List ε) α} {n : Stepwise (σ × List ε) β} {x y : σ × List ε} {a : α} {b : β}
    (h : Interleaving m n x a b y) {post : α → List ε → Prop} {post' : β → List ε → Prop} (hm : m.Logs post)
    (hn : n.Logs post') :
    ∃ new u v, y.2 = x.2 ++ new ∧ new.Perm (u ++ v) ∧ post a u ∧ post' b v := by
  induction h generalizing post post' with
  | done => exact ⟨[], [], [], (List.append_nil _).symm, .refl _, hm, hn⟩
  | @left effect next n x y a b _ ih =>
    obtain ⟨first, adds, rest⟩ := hm x
    obtain ⟨new, u, v, later, order, hu, hv⟩ := ih rest hn
    refine ⟨first ++ new, first ++ u, v, ?_, ?_, hu, hv⟩
    · rw [later, adds, List.append_assoc]
    · rw [List.append_assoc]
      exact order.append_left first
  | @right m effect next x y a b _ ih =>
    obtain ⟨first, adds, rest⟩ := hn x
    obtain ⟨new, u, v, later, order, hu, hv⟩ := ih hm rest
    refine ⟨first ++ new, u, first ++ v, ?_, ?_, hu, hv⟩
    · rw [later, adds, List.append_assoc]
    · exact (order.append_left first).trans (List.perm_append_comm_assoc first u v)

end ReleaseGate.Stepwise
