import SlottedFile.Fault

/-!
# How a computation ends

Every stateful operation of the library lives in `EStateM` and keeps its state
when it fails, so what is said of an operation has two halves: what holds of its
value and the state behind it, and what holds of its failure and the state
behind that. `Ends x s good bad` says both at once of the run of `x` from `s`.

The rules below take an operation apart step by step. They are equivalences, so
that rewriting with them leaves exactly what there is to prove.
-/

namespace SlottedFile

variable {ε ε' σ τ α β : Type}

/-- **How a computation ends from a state**: with a value and a state that are
`good`, or with a failure and a state that are `bad`. -/
def Ends (x : EStateM ε σ α) (s : σ) (good : α → σ → Prop) (bad : ε → σ → Prop) : Prop :=
  match x s with
  | .ok a s' => good a s'
  | .error e s' => bad e s'

section Rules

variable {s : σ} {good good' : α → σ → Prop} {bad bad' : ε → σ → Prop}

theorem Ends.of_ok {x : EStateM ε σ α} {a : α} {s' : σ} (h : Ends x s good bad)
    (hx : x s = .ok a s') : good a s' := by
  rw [Ends, hx] at h
  exact h

theorem Ends.of_error {x : EStateM ε σ α} {e : ε} {s' : σ} (h : Ends x s good bad)
    (hx : x s = .error e s') : bad e s' := by
  rw [Ends, hx] at h
  exact h

/-- **Ending well is a matter of the two outcomes.** -/
theorem ends_iff {x : EStateM ε σ α} :
    Ends x s good bad ↔
      (∀ a s', x s = .ok a s' → good a s') ∧ ∀ e s', x s = .error e s' → bad e s' := by
  refine ⟨fun h => ⟨fun _ _ hx => h.of_ok hx, fun _ _ hx => h.of_error hx⟩, fun h => ?_⟩
  unfold Ends
  split
  · exact h.1 _ _ ‹_›
  · exact h.2 _ _ ‹_›

theorem ends_of_ok {x : EStateM ε σ α} {a : α} {s' : σ} (hx : x s = .ok a s') :
    Ends x s good bad ↔ good a s' := by
  rw [Ends, hx]

theorem ends_of_error {x : EStateM ε σ α} {e : ε} {s' : σ} (hx : x s = .error e s') :
    Ends x s good bad ↔ bad e s' := by
  rw [Ends, hx]

/-- A computation that cannot fail has a value. -/
theorem Ends.exists_ok {x : EStateM ε σ α} (h : Ends x s good fun _ _ => False) :
    ∃ a s', x s = .ok a s' ∧ good a s' := by
  unfold Ends at h
  cases hx : x s with
  | ok a s' =>
    rw [hx] at h
    exact ⟨a, s', rfl, h⟩
  | error e s' =>
    rw [hx] at h
    exact h.elim

/-- A computation that has to fail has an error. -/
theorem Ends.exists_error {x : EStateM ε σ α} (h : Ends x s (fun _ _ => False) bad) :
    ∃ e s', x s = .error e s' ∧ bad e s' := by
  unfold Ends at h
  cases hx : x s with
  | ok a s' =>
    rw [hx] at h
    exact h.elim
  | error e s' =>
    rw [hx] at h
    exact ⟨e, s', rfl, h⟩

/-- A computation ends in the one way that is left to it, -/
theorem Ends.eq_ok {x : EStateM ε σ α} {a : α} {s' : σ}
    (h : Ends x s (fun b t => b = a ∧ t = s') fun _ _ => False) : x s = .ok a s' := by
  obtain ⟨_, _, hok, rfl, rfl⟩ := h.exists_ok
  exact hok

/-- also if that is an error. -/
theorem Ends.eq_error {x : EStateM ε σ α} {e : ε} {s' : σ}
    (h : Ends x s (fun _ _ => False) fun f t => f = e ∧ t = s') : x s = .error e s' := by
  obtain ⟨_, _, herror, rfl, rfl⟩ := h.exists_error
  exact herror

theorem Ends.imp {x : EStateM ε σ α} (h : Ends x s good bad)
    (hgood : ∀ a s', good a s' → good' a s') (hbad : ∀ e s', bad e s' → bad' e s') :
    Ends x s good' bad' := by
  rw [ends_iff] at h ⊢
  exact ⟨fun a s' hx => hgood a s' (h.1 a s' hx), fun e s' hx => hbad e s' (h.2 e s' hx)⟩

theorem Ends.and {x : EStateM ε σ α} (h : Ends x s good bad) (h' : Ends x s good' bad') :
    Ends x s (fun a s' => good a s' ∧ good' a s') (fun e s' => bad e s' ∧ bad' e s') := by
  rw [ends_iff] at h h' ⊢
  exact ⟨fun a s' hx => ⟨h.1 a s' hx, h'.1 a s' hx⟩, fun e s' hx => ⟨h.2 e s' hx, h'.2 e s' hx⟩⟩

theorem ends_pure {a : α} : Ends (pure a : EStateM ε σ α) s good bad ↔ good a s := Iff.rfl

theorem ends_throw {e : ε} : Ends (throw e : EStateM ε σ α) s good bad ↔ bad e s := Iff.rfl

theorem ends_bind {x : EStateM ε σ β} {f : β → EStateM ε σ α} :
    Ends (x >>= f) s good bad ↔ Ends x s (fun b s' => Ends (f b) s' good bad) bad := by
  simp only [Ends, bind, EStateM.bind]
  cases x s <;> rfl

/-- The rule for a step whose value is only looked at by what follows. -/
theorem Ends.bind {x : EStateM ε σ β} {f : β → EStateM ε σ α} {mid : β → σ → Prop}
    (hx : Ends x s mid bad) (hf : ∀ b s', mid b s' → Ends (f b) s' good bad) :
    Ends (x >>= f) s good bad :=
  ends_bind.mpr (hx.imp hf fun _ _ h => h)

theorem ends_ite {p : Prop} [Decidable p] {x y : EStateM ε σ α} :
    Ends (if p then x else y) s good bad ↔
      (p → Ends x s good bad) ∧ (¬p → Ends y s good bad) := by
  by_cases hp : p <;> simp [hp]

/-- What is held while something is done is let go in either case. -/
theorem ends_tryFinally {x : EStateM ε σ α} {fin : EStateM ε σ Unit} :
    Ends (tryFinally x fin) s good bad ↔
      Ends x s (fun a s' => Ends fin s' (fun _ s'' => good a s'') bad)
        (fun e s' => Ends fin s' (fun _ s'' => bad e s'') bad) := by
  simp only [Ends, tryFinally, tryFinally', Functor.map, EStateM.map]
  cases x s with
  | ok a s' => cases hf : fin s' <;> simp [hf]
  | error e s' => cases hf : fin s' <;> simp [hf]

end Rules

section State

variable {s : σ}

theorem ends_get {good : σ → σ → Prop} {bad : ε → σ → Prop} :
    Ends (get : EStateM ε σ σ) s good bad ↔ good s s := Iff.rfl

theorem ends_modify {f : σ → σ} {good : PUnit → σ → Prop} {bad : ε → σ → Prop} :
    Ends (modify f : EStateM ε σ PUnit) s good bad ↔ good ⟨⟩ (f s) := Iff.rfl

end State

section Faults

variable {s : σ} {good : α → σ → Prop} {bad : Fault ε → σ → Prop}

theorem ends_fail {e : ε} :
    Ends (fail e : EStateM (Fault ε) σ α) s good bad ↔ bad (.error e) s := Iff.rfl

theorem ends_liftOverrun {x : Except Overrun α} :
    Ends (liftOverrun x : EStateM (Fault ε) σ α) s good bad ↔
      (∀ a, x = .ok a → good a s) ∧ ∀ o, x = .error o → bad (.overrun o) s := by
  cases x with
  | ok a =>
    refine ⟨fun h => ⟨fun _ ha => ?_, nofun⟩, fun h => h.1 a rfl⟩
    cases ha
    exact h
  | error o =>
    refine ⟨fun h => ⟨nofun, fun _ ho => ?_⟩, fun h => h.2 o rfl⟩
    cases ho
    exact h

theorem ends_onPart {get : σ → τ} {put : τ → σ → σ} {widen : ε' → ε}
    {x : EStateM (Fault ε') τ α} :
    Ends (onPart get put widen x) s good bad ↔
      Ends x (get s) (fun a t => good a (put t s)) (fun e t => bad (e.map widen) (put t s)) := by
  simp only [Ends, onPart]
  cases x (get s) <;> rfl

theorem ends_widenError {widen : ε' → ε} {x : EStateM (Fault ε') σ α} :
    Ends (widenError widen x) s good bad ↔
      Ends x s good (fun e s' => bad (e.map widen) s') :=
  ends_onPart

theorem ends_attempt {good : Except ε α → σ → Prop} {x : EStateM (Fault ε) σ α} :
    Ends (attempt x) s good bad ↔
      Ends x s (fun a s' => good (.ok a) s') (fun e s' =>
        match e with
        | .error e => good (.error e) s'
        | .overrun o => bad (.overrun o) s') := by
  simp only [Ends, attempt]
  rcases x s with ⟨a, s'⟩ | ⟨e | o, s'⟩ <;> rfl

theorem ends_onFailure {x : EStateM (Fault ε) σ α} {cleanUp : EStateM (Fault ε) σ Unit} :
    Ends (onFailure cleanUp x) s good bad ↔
      Ends x s good (fun e s' => Ends cleanUp s' (fun _ s'' => bad e s'') bad) := by
  simp only [Ends, onFailure]
  cases x s with
  | ok a s' => rfl
  | error e s' => cases hc : cleanUp s' <;> simp [hc]

end Faults

/-! ## The state behind -/

/-- The state that a computation leaves behind. -/
def stateAfter (x : EStateM ε σ α) (s : σ) : σ :=
  match x s with
  | .ok _ s' => s'
  | .error _ s' => s'

/-- What a computation comes to, apart from the state. -/
def answer (x : EStateM ε σ α) (s : σ) : Except ε α :=
  match x s with
  | .ok a _ => .ok a
  | .error e _ => .error e

/-- A computation comes to its answer and leaves its state behind. -/
theorem eq_of_answer {x : EStateM ε σ α} {s : σ} {a : α} (h : answer x s = .ok a) :
    x s = .ok a (stateAfter x s) := by
  unfold answer at h
  unfold stateAfter
  cases hx : x s with
  | ok a' s' =>
    rw [hx] at h
    cases h
    rfl
  | error e s' =>
    rw [hx] at h
    cases h

theorem eq_error_of_answer {x : EStateM ε σ α} {s : σ} {e : ε} (h : answer x s = .error e) :
    x s = .error e (stateAfter x s) := by
  unfold answer at h
  unfold stateAfter
  cases hx : x s with
  | ok a s' =>
    rw [hx] at h
    cases h
  | error e' s' =>
    rw [hx] at h
    cases h
    rfl

/-- A computation goes on from where its first step has led. -/
theorem bind_of_ok {x : EStateM ε σ β} {f : β → EStateM ε σ α} {s s' : σ} {b : β}
    (hx : x s = .ok b s') : (x >>= f) s = f b s' := by
  simp only [bind, EStateM.bind, hx]

/-- It ends with its first step if that fails. -/
theorem bind_of_error {x : EStateM ε σ β} {f : β → EStateM ε σ α} {s s' : σ} {e : ε}
    (hx : x s = .error e s') : (x >>= f) s = .error e s' := by
  simp only [bind, EStateM.bind, hx]

/-- **What holds of the state in either case.** -/
theorem Ends.stateAfter {x : EStateM ε σ α} {s : σ} {P : σ → Prop}
    (h : Ends x s (fun _ s' => P s') fun _ s' => P s') : P (stateAfter x s) := by
  unfold Ends at h
  unfold SlottedFile.stateAfter
  cases hx : x s with
  | ok a s' =>
    rw [hx] at h
    exact h
  | error e s' =>
    rw [hx] at h
    exact h

end SlottedFile
