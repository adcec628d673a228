import SlottedFile.Proofs.Pool.Onward

/-!
# Pins that are taken and given back

A pin that was taken (`Store.Took`) stays where it is as long as the store goes on. Then it
can be given back, and every other pin is as it was before (`Store.Took.released`).
-/

namespace SlottedFile.Store

variable {P : PageKey → Prop} {s s' s'' : Store} {k : PageKey}

/-- **A pin was taken.** -/
structure Took (P : PageKey → Prop) (pin : Pin) (s s' : Store) : Prop where
  onward : Onward P [pin.key] [pin] s s'
  frame?_eq : s'.pool.frame? pin.key = some pin.frame
  fresh : s.nextPin ≤ pin.id
  id_lt : pin.id < s'.nextPin

theorem Took.tidy {pin : Pin} (h : Took P pin s s') (hs : s.Tidy) : s'.Tidy where
  files := h.onward.files.sound hs.files
  distinct := h.onward.distinct
  id_lt := by
    have hids : ∀ q ∈ s'.held.map (·.pin), q.id < s'.nextPin := by
      rw [h.onward.pins_eq, List.singleton_append, List.forall_mem_cons, List.forall_mem_map]
      exact ⟨h.id_lt, fun g hg => Nat.lt_of_lt_of_le (hs.id_lt g hg) h.onward.nextPin_le⟩
    exact List.forall_mem_map.mp hids

/-- The pool counts the pin that was taken. -/
theorem Took.pinCount_ne_zero {pin : Pin} (h : Took P pin s s') :
    s'.pool.pinCount pin.key ≠ 0 := by
  rw [h.onward.pinCount_eq, List.count_singleton_self]
  exact Nat.succ_ne_zero _

/-- The pin stays where it is. -/
theorem Took.onward_trans {pin : Pin} (h : Took P pin s s') (h' : Onward P [] [] s' s'') :
    Took P pin s s'' where
  onward := h.onward.trans h'
  frame?_eq := (h'.frame?_eq _ h.pinCount_ne_zero).trans h.frame?_eq
  fresh := h.fresh
  id_lt := Nat.lt_of_lt_of_le h.id_lt h'.nextPin_le

/-- A pin that the pool has counted is held as a value. -/
theorem ends_hold_onward {ε : Type} {f : FrameId} {dirty : Bool}
    (honward : Onward P [k] [] s s') (hframe? : s'.pool.frame? k = some f) :
    Ends (hold k f dirty : StoreM ε Pin) s'
      (fun pin s'' => pin.key = k ∧ Took P pin s s'' ∧ s''.files = s'.files)
      (fun _ _ => False) := by
  unfold hold
  rw [ends_bind, ends_get, ends_bind, ends_modify, ends_pure]
  refine ⟨rfl, ⟨?_, hframe?, honward.nextPin_le, Nat.lt_succ_self _⟩, rfl⟩
  refine { honward with
    pins_eq := ?_
    nextPin_le := Nat.le_succ_of_le honward.nextPin_le }
  show (⟨s'.nextPin, k, f⟩ : Pin) :: s'.held.map (·.pin) = _
  rw [honward.pins_eq]
  rfl

namespace Tidy

/-- **A pin of a page is taken** as long as there is room and the page can be
reached. -/
theorem ends_pinPage (hs : s.Tidy) (file page : Nat) :
    Ends (pinPage file page) s
      (fun pin s' => pin.key = ⟨file, page⟩ ∧ Took P pin s s')
      (fun _ s' => Onward P [] [] s s' ∧ (¬s.Roomy 1 ∨ s.Unwritable ⟨file, page⟩)) := by
  unfold pinPage
  rw [ends_bind]
  refine (ends_fetch (P := P) hs ⟨file, page⟩).imp ?_ fun _ _ h => h
  rintro f s₁ ⟨honward, hframe?⟩
  exact (ends_hold_onward honward hframe?).imp (fun _ _ h => ⟨h.1, h.2.1⟩) fun _ _ h => h.elim

/-- **A pin of a new page is taken.** -/
theorem ends_pinNewPage (hs : s.Tidy) {file : Nat}
    (hinside : ∀ o, s.files.table.byHandle? file = some o → ∀ page,
      s.pool.pinCount ⟨file, page⟩ ≠ 0 → page < (s.files.disk.image o.image).pages)
    (hP : ∀ page, (page + 2) * blockSize ≤ Files.maxOffset → P ⟨file, page⟩) :
    Ends (pinNewPage file) s
      (fun pin s' => ∃ o, s.files.table.byHandle? file = some o ∧ pin.key.file = file ∧
        (s'.files.disk.image o.image).pages = pin.key.page + 1 ∧
        (pin.key.page + 2) * blockSize ≤ Files.maxOffset ∧ Took P pin s s')
      (fun _ s' => Onward P [] [] s s' ∧ (s.Roomy 1 → s'.Full file)) := by
  unfold pinNewPage
  rw [ends_bind]
  refine (ends_newPage hs hinside hP).imp ?_ fun _ _ h => h
  rintro ⟨k, f⟩ s₁ ⟨o, ho, hfile, hpages, hnear, honward, hframe?⟩
  refine (ends_hold_onward honward hframe?).imp ?_ fun _ _ h => h.elim
  rintro pin s₂ ⟨rfl, htook, hfiles⟩
  refine ⟨o, ho, hfile, ?_, hnear, htook⟩
  rw [hfiles]
  exact hpages

/-- A holder notes that it wrote. -/
theorem noteWrite (hs : s.Tidy) (pin : Pin) : Onward P [] [] s { s with
    held := s.held.map fun h => if h.pin.id = pin.id then { h with dirty := true } else h } := by
  refine { Onward.refl hs with pins_eq := ?_ }
  rw [List.nil_append, List.map_map]
  refine List.map_congr_left fun h _ => ?_
  show (if h.pin.id = pin.id then { h with dirty := true } else h : HeldPin).pin = h.pin
  split <;> rfl

/-- What is written to a frame, no pin notices. -/
theorem ends_edit {ε α : Type} (hs : s.Tidy) (pin : Pin) (e : Buffer.Edit blockSize α) :
    Ends (edit pin e : StoreM ε α) s (fun _ s' => Onward P [] [] s s')
      (fun f s' => Onward P [] [] s s' ∧ ∃ o, f = .overrun o) := by
  unfold edit Store.noteWrite
  rw [ends_bind, ends_modify]
  have hnoted := hs.noteWrite (P := P) pin
  exact ends_editFrame.mpr ⟨fun _ _ _ => { hnoted with }, fun o _ _ => ⟨{ hnoted with }, o, rfl⟩⟩

end Tidy

/-- **The store after a pin was given back.** -/
def released (s : Store) (pin : Pin) : Store :=
  { s with
    held := s.held.filter (·.pin.id != pin.id)
    pool := s.pool.update pin.key fun e =>
      { e with pins := e.pins - 1, dirty := e.dirty || s.wrote pin } }

/-- **A pin that the pool counts is taken back.** -/
theorem ends_unpin_of_pinned (hpins : s.pool.pinCount k ≠ 0) (dirty : Bool) :
    Ends (unpin k dirty) s
      (fun _ s' => s' = { s with pool := s.pool.update k fun e =>
        { e with pins := e.pins - 1, dirty := e.dirty || dirty } })
      (fun _ _ => False) := by
  obtain ⟨e, hfind, hpos⟩ := Pool.exists_of_pinCount_ne_zero hpins
  unfold unpin
  rw [ends_bind, ends_get, hfind]
  exact ends_ite.mpr ⟨fun hzero => absurd hzero hpos, fun _ => rfl⟩

/-- **A pin that the pool counts can be given back.** -/
theorem ends_release_of_pinCount {ε : Type} {pin : Pin} (hpins : s.pool.pinCount pin.key ≠ 0) :
    Ends (release pin : StoreM ε Unit) s (fun _ s' => s' = s.released pin) (fun _ _ => False) := by
  set s₁ : Store := { s with held := s.held.filter (·.pin.id != pin.id) } with hs₁
  have hpins₁ : s₁.pool.pinCount pin.key ≠ 0 := hpins
  exact ends_release_iff.mpr ((ends_unpin_of_pinned hpins₁ (s.wrote pin)).imp (fun _ _ h => h)
    fun _ _ h => h.elim)

theorem pinCount_released {pin : Pin} (hpins : s.pool.pinCount pin.key ≠ 0) (k : PageKey) :
    (s.released pin).pool.pinCount k = s.pool.pinCount k - if k = pin.key then 1 else 0 := by
  obtain ⟨e, hfind, -⟩ := Pool.exists_of_pinCount_ne_zero hpins
  refine (Pool.pinCount_update (j := k) (f := fun e : PoolEntry =>
    { e with pins := e.pins - 1, dirty := e.dirty || s.wrote pin }) (fun _ => rfl) hfind).trans ?_
  split
  · subst k
    rw [Pool.pinCount_of_find? hfind]
  · rfl

theorem frame?_released (s : Store) (pin : Pin) (k : PageKey) :
    (s.released pin).pool.frame? k = s.pool.frame? k :=
  Pool.frame?_update (f := fun e : PoolEntry =>
    { e with pins := e.pins - 1, dirty := e.dirty || s.wrote pin }) (fun _ => rfl) fun _ => rfl

theorem isDirty_released {pin : Pin} (hpins : s.pool.pinCount pin.key ≠ 0)
    (h : (s.released pin).pool.isDirty k = true) : s.pool.isDirty k = true ∨ k = pin.key := by
  obtain ⟨e, hfind, -⟩ := Pool.exists_of_pinCount_ne_zero hpins
  have hupdate := Pool.isDirty_update (j := k) (f := fun e : PoolEntry =>
    { e with pins := e.pins - 1, dirty := e.dirty || s.wrote pin }) (fun _ => rfl) hfind
  by_cases hk : k = pin.key
  · exact .inr hk
  · rw [if_neg hk] at hupdate
    exact .inl (hupdate.symm.trans h)

/-- **A pin is taken, something is done, and the pin is given back**: then every pin is
as it was before. -/
theorem Took.released {pin : Pin} (h : Took P pin s s') (hs : s.Tidy)
    (honward : Onward P [] [] s' s'') (hP : P pin.key) :
    s''.pool.pinCount pin.key ≠ 0 ∧ Onward P [] [] s (s''.released pin) := by
  have hall := h.onward.trans honward
  have hcount := hall.pinCount_eq
  have hself : s''.pool.pinCount pin.key = s.pool.pinCount pin.key + 1 := by
    rw [hcount]
    exact congrArg _ List.count_singleton_self
  have hpos : s''.pool.pinCount pin.key ≠ 0 := by
    rw [hself]
    exact Nat.succ_ne_zero _
  refine ⟨hpos, ?_⟩
  constructor
  case files => exact hall.files
  case distinct => exact hall.distinct.update (f := fun e : PoolEntry =>
    { e with pins := e.pins - 1, dirty := e.dirty || s''.wrote pin }) pin.key fun _ => rfl
  case capacity_eq => exact hall.capacity_eq
  case pinCount_eq =>
    intro k
    rw [pinCount_released hpos]
    split
    · subst k
      rw [hself]
      rfl
    · rename_i hk
      rw [hcount, List.nil_append, List.count_eq_zero_of_not_mem fun hmem =>
        hk (List.mem_singleton.mp hmem)]
      rfl
  case frame?_eq =>
    intro k hk
    rw [frame?_released]
    exact hall.frame?_eq k hk
  case dirty =>
    intro k hk
    rcases isDirty_released hpos hk with hk | rfl
    · exact hall.dirty k hk
    · exact .inr hP
  case attached =>
    intro _ hattached k f hframe
    rw [frame?_released] at hframe
    exact hall.attached hattached k f hframe
  case pins_eq =>
    -- the numbers of the pins that were held before are below the number of this one
    have hpins : s''.held.map (·.pin) = pin :: s.held.map (·.pin) := hall.pins_eq
    show (s''.held.filter ((·.id != pin.id) ∘ (·.pin))).map (·.pin) = _
    rw [← List.filter_map, hpins, List.filter_cons_of_neg (by simp), List.nil_append,
      List.filter_eq_self, List.forall_mem_map]
    intro g hg
    exact bne_iff_ne.mpr (Nat.ne_of_lt (Nat.lt_of_lt_of_le (hs.id_lt g hg) h.fresh))
  case nextPin_le => exact hall.nextPin_le
  case unpinFailed => exact hall.unpinFailed

end SlottedFile.Store
