import ReleaseGate.Stepwise

/-!
# Computations that do not disturb each other

Two computations share a state and each works on a part of it. `Moves` says what every step of a computation may do to the state;
that a computation leaves a view of the state as it is, is the case `Keeps` of it. `Alike` compares two computations through what
each sees of its state. `Alike.of_interleaving` puts the two together: a computation whose view the other one keeps has, whichever
way their steps fall between each other, the outcome that it has alone, and makes of its view what it makes of it alone.
-/

namespace ReleaseGate.Stepwise

variable {σ τ ν α β γ δ : Type}

/-! ## What every step may do -/

/-- Every step of a computation, whatever the state is when it comes, changes the state as `Q` allows. -/
def Moves (Q : σ → σ → Prop) : Stepwise σ α → Prop
  | .done _ => True
  | .step effect next => ∀ s, Q s (effect s) ∧ Moves Q (next s)

theorem moves_pure {Q : σ → σ → Prop} (a : α) : (pure a : Stepwise σ α).Moves Q := trivial

theorem moves_observe {Q : σ → σ → Prop} (refl : ∀ s, Q s s) (f : σ → α) : (observe f).Moves Q :=
  fun s => ⟨refl s, trivial⟩

theorem moves_change {Q : σ → σ → Prop} {f : σ → σ} (h : ∀ s, Q s (f s)) : (change f).Moves Q :=
  fun s => ⟨h s, trivial⟩

theorem moves_atomic {Q : σ → σ → Prop} {f : σ → α × σ} (h : ∀ s, Q s (f s).2) : (atomic f).Moves Q :=
  fun s => ⟨h s, trivial⟩

theorem Moves.bind {Q : σ → σ → Prop} {m : Stepwise σ α} {f : α → Stepwise σ β} (h : m.Moves Q) (hf : ∀ a, (f a).Moves Q) :
    (m >>= f).Moves Q := by
  show (m.bind f).Moves Q
  induction m with
  | done a => exact hf a
  | step effect next ih => exact fun s => ⟨(h s).1, ih s (h s).2⟩

theorem Moves.mono {Q Q' : σ → σ → Prop} {m : Stepwise σ α} (h : m.Moves Q) (le : ∀ s t, Q s t → Q' s t) : m.Moves Q' := by
  induction m with
  | done a => exact trivial
  | step effect next ih => exact fun s => ⟨le s _ (h s).1, ih s (h s).2⟩

/-- What a computation may do to a part of a state, it may do to the state of which it is a part. -/
theorem Moves.within {Q : τ → τ → Prop} {Q' : σ → σ → Prop} {part : Part σ τ}
    (lift : ∀ s t, Q (part.get s) t → Q' s (part.set s t)) {m : Stepwise τ α} (h : m.Moves Q) :
    (Stepwise.within part m).Moves Q' := by
  induction m with
  | done a => exact trivial
  | step effect next ih => exact fun s => ⟨lift s _ (h (part.get s)).1, ih _ (h (part.get s)).2⟩

/-- What every step may do, all steps together may do, when it can be done once more and need not be done at all. -/
theorem Moves.run {Q : σ → σ → Prop} (refl : ∀ s, Q s s) (trans : ∀ {r s t}, Q r s → Q s t → Q r t) {m : Stepwise σ α}
    (h : m.Moves Q) (s : σ) : Q s (m.run s).2 := by
  induction m generalizing s with
  | done a => exact refl s
  | step effect next ih => exact trans (h s).1 (ih s (h s).2 (effect s))

/-- Every step of a computation changes the state as `Q` allows, and its result satisfies `post`. -/
def Ensures (Q : σ → σ → Prop) (post : α → Prop) : Stepwise σ α → Prop
  | .done a => post a
  | .step effect next => ∀ s, Q s (effect s) ∧ Ensures Q post (next s)

theorem Moves.ensures {Q : σ → σ → Prop} {post : α → Prop} {m : Stepwise σ α} (h : m.Moves Q) (always : ∀ a, post a) :
    m.Ensures Q post := by
  induction m with
  | done a => exact always a
  | step effect next ih => exact fun s => ⟨(h s).1, ih s (h s).2⟩

theorem Ensures.bind {Q : σ → σ → Prop} {post : α → Prop} {m : Stepwise σ α} {f : α → Stepwise σ β} (h : m.Ensures Q post)
    (hf : ∀ a, post a → (f a).Moves Q) : (m >>= f).Moves Q := by
  show (m.bind f).Moves Q
  induction m with
  | done a => exact hf a h
  | step effect next ih => exact fun s => ⟨(h s).1, ih s (h s).2⟩

/-- What every step of two computations may do, all their steps in any order may do. -/
theorem Moves.interleaving {Q : σ → σ → Prop} (refl : ∀ s, Q s s) (trans : ∀ {r s t}, Q r s → Q s t → Q r t) {m : Stepwise σ α}
    {n : Stepwise σ β} {s t : σ} {a : α} {b : β} (hm : m.Moves Q) (hn : n.Moves Q) (h : Interleaving m n s a b t) : Q s t := by
  induction h with
  | done => exact refl _
  | @left _ _ _ s _ _ _ _ ih => exact trans (hm s).1 (ih (hm s).2 hn)
  | @right _ _ _ s _ _ _ _ ih => exact trans (hn s).1 (ih hm (hn s).2)

/-- No step of a computation changes what is seen of the state. -/
def Keeps (v : σ → ν) (m : Stepwise σ α) : Prop := m.Moves fun s s' => v s' = v s

theorem keeps_observe (v : σ → ν) (f : σ → α) : (observe f).Keeps v := fun _ => ⟨rfl, trivial⟩

theorem keeps_pure (v : σ → ν) (a : α) : (pure a : Stepwise σ α).Keeps v := trivial

/-- Nothing is to be seen of a change where always the same is seen. -/
theorem keeps_const (x : ν) (m : Stepwise σ α) : m.Keeps fun _ => x := by
  induction m with
  | done a => exact trivial
  | step effect next ih => exact fun s => ⟨rfl, ih s⟩

theorem Keeps.bind {v : σ → ν} {m : Stepwise σ α} {f : α → Stepwise σ β} (h : m.Keeps v) (hf : ∀ a, (f a).Keeps v) :
    (m >>= f).Keeps v := Moves.bind h hf

/-- What is kept of two views is kept of both together. -/
theorem Keeps.and {ν' : Type} {v : σ → ν} {w : σ → ν'} {m : Stepwise σ α} (h : m.Keeps v) (h' : m.Keeps w) :
    m.Keeps fun s => (v s, w s) := by
  induction m with
  | done a => exact trivial
  | step effect next ih => exact fun s => ⟨Prod.ext (h s).1 (h' s).1, ih s (h s).2 (h' s).2⟩

/-- Less is to be seen where a view makes something of what another one shows. -/
theorem Keeps.comp {ν' : Type} {v : σ → ν} {m : Stepwise σ α} (h : m.Keeps v) (f : ν → ν') : m.Keeps fun s => f (v s) :=
  Moves.mono h fun _ _ kept => congrArg f kept

/-- What a computation keeps, all its steps together keep. -/
theorem Keeps.run {v : σ → ν} {m : Stepwise σ α} (h : m.Keeps v) (s : σ) : v (m.run s).2 = v s :=
  Moves.run (Q := fun s s' => v s' = v s) (fun _ => rfl) (fun first later => later.trans first) h s

/-- What two computations keep, all their steps in any order keep. -/
theorem Keeps.interleaving {v : σ → ν} {m : Stepwise σ α} {n : Stepwise σ β} {s t : σ} {a : α} {b : β} (hm : m.Keeps v)
    (hn : n.Keeps v) (h : Interleaving m n s a b t) : v t = v s :=
  Moves.interleaving (Q := fun s s' => v s' = v s) (fun _ => rfl) (fun first later => later.trans first) hm hn h

/-! ## Computations on a part of a state -/

/-- What is put in place of a part is the part then, and nothing else is changed by that. -/
structure Part.IsLawful (part : Part σ τ) : Prop where
  get_set (s : σ) (t : τ) : part.get (part.set s t) = t
  set_get (s : σ) : part.set s (part.get s) = s
  set_set (s : σ) (t t' : τ) : part.set (part.set s t) t' = part.set s t'

theorem within_bind (part : Part σ τ) (m : Stepwise τ α) (f : α → Stepwise τ β) :
    within part (m >>= f) = within part m >>= fun a => within part (f a) := by
  show within part (m.bind f) = (within part m).bind fun a => within part (f a)
  induction m with
  | done a => rfl
  | step effect next ih => exact congrArg (step _) (funext fun s => ih (part.get s))

/-- A computation on a part of a state does there what it does alone, and leaves the rest as it is. -/
theorem run_within {part : Part σ τ} (lawful : part.IsLawful) (m : Stepwise τ α) (s : σ) :
    (within part m).run s = ((m.run (part.get s)).1, part.set s (m.run (part.get s)).2) := by
  induction m generalizing s with
  | done a => exact congrArg (Prod.mk a) (lawful.set_get s).symm
  | step effect next ih =>
    show (within part (next (part.get s))).run (part.set s (effect (part.get s))) = _
    rw [ih, lawful.get_set, lawful.set_set]
    rfl

/-! ## Computations in step -/

/-- Two computations, each on a state of its own, go in step. As long as they see the same of their states, both take a step that
makes the same of what they see and go on in step, and their results are related in the end. -/
inductive Alike (v : σ → ν) (w : τ → ν) (R : α → β → Prop) : Stepwise σ α → Stepwise τ β → Prop where
  | done {a : α} {b : β} (related : R a b) : Alike v w R (done a) (done b)
  | step {effect : σ → σ} {next : σ → Stepwise σ α} {effect' : τ → τ} {next' : τ → Stepwise τ β}
      (same : ∀ s t, v s = w t → v (effect s) = w (effect' t)) (later : ∀ s t, v s = w t → Alike v w R (next s) (next' t)) :
      Alike v w R (step effect next) (step effect' next')

/-- What two computations observe may differ as far as it is not part of what they see. -/
theorem alike_observe {v : σ → ν} {w : τ → ν} {R : α → β → Prop} {f : σ → α} {g : τ → β} (h : ∀ s t, v s = w t → R (f s) (g t)) :
    Alike v w R (observe f) (observe g) :=
  .step (fun _ _ same => same) fun s t same => .done (h s t same)

theorem alike_change {v : σ → ν} {w : τ → ν} {f : σ → σ} {g : τ → τ} (h : ∀ s t, v s = w t → v (f s) = w (g t)) :
    Alike v w Eq (change f) (change g) :=
  .step h fun _ _ _ => .done rfl

theorem alike_atomic {v : σ → ν} {w : τ → ν} {R : α → β → Prop} {f : σ → α × σ} {g : τ → β × τ}
    (h : ∀ s t, v s = w t → R (f s).1 (g t).1 ∧ v (f s).2 = w (g t).2) : Alike v w R (atomic f) (atomic g) :=
  .step (fun s t same => (h s t same).2) fun s t same => .done (h s t same).1

theorem Alike.bind {v : σ → ν} {w : τ → ν} {R : α → β → Prop} {R' : γ → δ → Prop} {m : Stepwise σ α} {m' : Stepwise τ β}
    {f : α → Stepwise σ γ} {f' : β → Stepwise τ δ} (h : Alike v w R m m') (hf : ∀ a b, R a b → Alike v w R' (f a) (f' b)) :
    Alike v w R' (m >>= f) (m' >>= f') := by
  show Alike v w R' (m.bind f) (m'.bind f')
  induction h with
  | done related => exact hf _ _ related
  | step same _ ih => exact .step same ih

/-- Computations that go in step on a part of a state do so on the state. -/
theorem Alike.within {v w : τ → ν} {R : α → β → Prop} {part : Part σ τ} (lawful : ∀ s t, part.get (part.set s t) = t)
    {m : Stepwise τ α} {m' : Stepwise τ β} (h : Alike v w R m m') :
    Alike (fun s => v (part.get s)) (fun s => w (part.get s)) R (Stepwise.within part m) (Stepwise.within part m') := by
  induction h with
  | done related => exact .done related
  | step same _ ih =>
    refine .step (fun s t seen => ?_) fun s t seen => ih _ _ seen
    rw [lawful, lawful]
    exact same _ _ seen

/-- Computations in step that keep a part of what could be seen stay in step when that part is seen as well. -/
theorem Alike.and_kept {ν' : Type} {v : σ → ν} {w : τ → ν} {v' : σ → ν'} {w' : τ → ν'} {R : α → β → Prop} {m : Stepwise σ α}
    {m' : Stepwise τ β} (h : Alike v w R m m') (keeps : m.Keeps v') (keeps' : m'.Keeps w') :
    Alike (fun s => (v s, v' s)) (fun t => (w t, w' t)) R m m' := by
  induction h with
  | done related => exact .done related
  | step same _ ih =>
    refine .step (fun s t seen => ?_) fun s t seen => ih s t (Prod.mk.inj seen).1 (keeps s).2 (keeps' t).2
    obtain ⟨left, right⟩ := Prod.mk.inj seen
    exact Prod.ext (same s t left) ((keeps s).1.trans (right.trans (keeps' t).1.symm))

/-- A computation whose steps come among those of another one, which keeps its view, ends where it has ended, with the view as it
was. -/
theorem Interleaving.of_done {w : τ → ν} {n : Stepwise τ δ} {s t : τ} {a b : β} {c : δ} (h : Interleaving (.done a) n s b c t)
    (keeps : n.Keeps w) : b = a ∧ w t = w s := by
  generalize ended : Stepwise.done a = m at h
  induction h with
  | done => exact ⟨(Stepwise.done.inj ended).symm, rfl⟩
  | left _ _ => cases ended
  | @right _ _ _ s _ _ _ _ ih =>
    obtain ⟨same, kept⟩ := ih (keeps s).2 ended
    exact ⟨same, kept.trans (keeps s).1⟩

/-- A computation whose steps come among those of another one, which keeps its view, takes its next step at last, with the view as
it was. -/
theorem Interleaving.of_step {w : τ → ν} {effect : τ → τ} {next : τ → Stepwise τ β} {n : Stepwise τ δ} {s t : τ} {b : β} {c : δ}
    (h : Interleaving (.step effect next) n s b c t) (keeps : n.Keeps w) :
    ∃ s' n', w s' = w s ∧ n'.Keeps w ∧ Interleaving (next s') n' (effect s') b c t := by
  generalize stepped : Stepwise.step effect next = m at h
  induction h with
  | done => cases stepped
  | @left _ _ q s _ _ _ h _ =>
    obtain ⟨rfl, rfl⟩ := Stepwise.step.inj stepped
    exact ⟨s, q, rfl, keeps, h⟩
  | @right _ _ _ s _ _ _ _ ih =>
    obtain ⟨s', n', kept, keeps', rest⟩ := ih (keeps s).2 stepped
    exact ⟨s', n', kept.trans (keeps s).1, keeps', rest⟩

/-- Computations in step stay so beside computations that keep what they see, whichever way the steps of these fall between their
own: their results are related, and they make the same of what they see. -/
theorem Alike.of_interleavings {v : σ → ν} {w : τ → ν} {R : α → β → Prop} {m : Stepwise σ α} {m' : Stepwise τ β}
    {n : Stepwise σ γ} {n' : Stepwise τ δ} {s t : σ} {s' t' : τ} {a : α} {b : β} {c : γ} {d : δ} (alike : Alike v w R m m')
    (keeps : n.Keeps v) (keeps' : n'.Keeps w) (h : Interleaving m n s a c t) (h' : Interleaving m' n' s' b d t')
    (same : v s = w s') : R a b ∧ v t = w t' := by
  -- when the first one takes a step, so does the second, after the steps of its own neighbour that come before
  induction h generalizing m' n' s' with
  | done =>
    cases alike with
    | done related =>
      obtain ⟨rfl, kept⟩ := h'.of_done keeps'
      exact ⟨related, same.trans kept.symm⟩
  | @left _ _ _ s _ _ _ _ ih =>
    cases alike with
    | step step later =>
      obtain ⟨s'', n'', kept, keeps'', rest⟩ := h'.of_step keeps'
      have same' := same.trans kept.symm
      exact ih (later s s'' same') keeps keeps'' rest (step s s'' same')
  | @right _ _ _ s _ _ _ _ ih => exact ih alike (keeps s).2 keeps' h' ((keeps s).1.trans same)

/-- Whichever way the steps of another computation fall between its own, a computation whose view the other one keeps ends with a
result, and with a view, like those of a computation in step with it that runs alone. -/
theorem Alike.of_interleaving {v : σ → ν} {w : τ → ν} {R : α → β → Prop} {m : Stepwise σ α} {m' : Stepwise τ β}
    {n : Stepwise σ γ} {s t : σ} {a : α} {c : γ} (alike : Alike v w R m m') (keeps : n.Keeps v) (h : Interleaving m n s a c t)
    {s' : τ} (same : v s = w s') : R a (m'.run s').1 ∧ v t = w (m'.run s').2 :=
  alike.of_interleavings keeps (keeps_pure w ()) h (interleaving_run m' (pure ()) s') same

/-- Computations in step come to related results, and make the same of what they see. -/
theorem Alike.run {v : σ → ν} {w : τ → ν} {R : α → β → Prop} {m : Stepwise σ α} {m' : Stepwise τ β} (alike : Alike v w R m m')
    {s : σ} {s' : τ} (same : v s = w s') : R (m.run s).1 (m'.run s').1 ∧ v (m.run s).2 = w (m'.run s').2 :=
  alike.of_interleaving (keeps_pure v ()) (interleaving_run m (pure ()) s) same

end ReleaseGate.Stepwise
