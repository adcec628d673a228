import SlottedFile.Proofs.Records.Durability
import SlottedFile.Proofs.Records.Tasks

/-!
# What an operation may fail for

Whatever is in the pages of a file, an operation that has a counterpart on the plain file
does what its counterpart does, or else it lacks a page (`InHand.ends_of_does`). It does
not if there is ample room for the pins that it takes (`Session.Ample`), and then what it
does is settled.
-/

namespace SlottedFile

/-- **Ample room for some pins**: that many frames are free or without a pin, every dirty
page belongs to an open file and can be written back, and the file can grow by a page. -/
structure Session.Ample (n : Nat) (s : Session) : Prop where
  room : s.store.pool.pinnedCount + n ≤ s.store.pool.capacity
  opened : ∀ k, s.store.pool.isDirty k = true → (s.store.files.table.byHandle? k.file).isSome
  bounded : s.store.files.disk.Bounded
  pages_lt : s.file.header.pages < noPage

/-- **A failure for want of a page**, where there may not be ample room. -/
def Session.Lacks (n : Nat) (s : Session) (e : Fault RecordError) : Prop :=
  (∃ e', e = .error e' ∧ WantOfPage e') ∧ ¬s.Ample n

namespace InHand

variable {other : Nat → ImageId} {image : ImageId} {raw : List Hold} {s s' : Session}
  {α : Type} {n : Nat}

theorem fit (h : InHand other image raw s) (hreach : s.file.header.Reach) : s.Fit :=
  h.good.fit h.sized.count hreach

theorem roomy (h : InHand other image raw s) (hample : s.Ample n) : s.store.Roomy n :=
  ⟨hample.room, fun k hdirty =>
    h.good.sound.coherent.writable hample.bounded hdirty (hample.opened k hdirty)⟩

/-- **The pool does not fail** if that would mean that a file is full whose pages can be
counted. -/
theorem not_poolFailure (h : InHand other image raw s) (hreach : s.file.header.Reach)
    (hcount : s.file.header.pages ≤ noPage) {e : Fault RecordError}
    (hbecame : Session.Became (standFor other image s.file.handle) raw s (s.own other image) s')
    (hfull : FromPool e → s'.Full) : ¬PoolFailure (s.own other image) e := by
  intro hpool
  have hpages : (s.own other image).count = s.file.header.pages := h.sized.count
  obtain ⟨e, rfl, hwant⟩ := hpool.wantOfPage_of_reach (hpages ▸ hreach)
  refine hbecame.good.not_full ?_ (hfull hwant.fromPool)
  rw [hbecame.plain_eq, hpages]
  exact hcount

/-- What fails because of the pool lacks a page: if there was ample room, the file could
have grown. -/
theorem lacks (h : InHand other image raw s) (hreach : s.file.header.Reach)
    {e : Fault RecordError} (hpool : PoolFailure (s.own other image) e)
    (hbecame : Session.Became (standFor other image s.file.handle) raw s (s.own other image) s')
    (hfull : s.Ample n → FromPool e → s'.Full) : s.Lacks n e := by
  have hcount : (s.own other image).count = s.file.header.pages := h.sized.count
  obtain ⟨e, rfl, hwant⟩ := hpool.wantOfPage_of_reach (hcount ▸ hreach)
  refine ⟨⟨e, rfl, hwant⟩, fun hample => ?_⟩
  exact h.not_poolFailure hreach (Nat.le_of_lt hample.pages_lt) hbecame (hfull hample) hpool

/-- **What has a counterpart on the plain file** does what that one does, or lacks a
page. -/
theorem ends_of_does (h : InHand other image raw s) (hreach : s.file.header.Reach)
    {x : RecordM α} {m : PlainM α}
    (hdoes : Does (standFor other image s.file.handle) raw [] (s.own other image) x m s)
    (hbalanced : Balanced (s.Ample n) n x) :
    Ends x s
      (fun a s' => ∃ p', m (s.own other image) = .ok a p' ∧
        Session.Became (standFor other image s.file.handle) raw s p' s')
      (fun e s' => Session.Became (standFor other image s.file.handle) raw s (s.own other image) s' ∧
        (s.Lacks n e ∨ ∃ p', m (s.own other image) = .error e p')) := by
  refine Ends.imp (Ends.and hdoes (hbalanced s (h.fit hreach) fun hample _ => h.roomy hample)) ?_ ?_
  · rintro a s' ⟨⟨p', hm, hbecame, -⟩, -⟩
    exact ⟨p', hm, hbecame⟩
  · rintro e s' ⟨⟨hbecame, -, hreason⟩, hfails⟩
    exact ⟨hbecame, hreason.imp_left fun hpool => h.lacks hreach hpool hbecame hfails.full⟩

/-- **With frames enough** for the pins that it takes, it does that, and nothing else. -/
theorem ends_of_does_roomy (h : InHand other image raw s) (hreach : s.file.header.Reach)
    (hcount : s.file.header.pages ≤ noPage) (hroomy : s.store.Roomy n) {x : RecordM α}
    {m : PlainM α}
    (hdoes : Does (standFor other image s.file.handle) raw [] (s.own other image) x m s)
    (hbalanced : Balanced True n x) :
    Ends x s (fun a _ => ∃ p', m (s.own other image) = .ok a p')
      (fun e _ => ∃ p', m (s.own other image) = .error e p') := by
  refine Ends.imp (Ends.and hdoes (hbalanced s (h.fit hreach) fun _ _ => hroomy)) ?_ ?_
  · rintro a s' ⟨⟨p', hm, -⟩, -⟩
    exact ⟨p', hm⟩
  · rintro e s' ⟨⟨hbecame, -, hreason⟩, hfails⟩
    exact hreason.resolve_left (h.not_poolFailure hreach hcount hbecame (hfails.full trivial))

end InHand

end SlottedFile
