import SlottedFile.Proofs.Pool.Onward

/-!
# What writing back writes

To write pages back is to write, page by page, the frame of each dirty one to its block, up
to the first page that cannot be written. A store in which the pages of a list were written
back (`Store.WroteBack`) has the frames of those pages in their blocks and every other block
as it was, as long as no file is open under two handles. Nothing is asked of the store: its
pages may lie behind the end of their files, and their files may be closed.
-/

namespace SlottedFile

/-- **No file is open under two handles.** -/
def Files.Unshared (fs : Files) : Prop :=
  ∀ h h' o o', fs.table.byHandle? h = some o → fs.table.byHandle? h' = some o' →
    o.image = o'.image → h = h'

namespace Store

variable {s s' s'' : Store} {k : PageKey} {keys keys' : List PageKey}

/-- **A store that may have anything done to its pages**: no file is shorter, and what can be
relied on at all can still be relied on. -/
structure Goes (s s' : Store) : Prop where
  files : s.files.Onward s'.files
  tidy : s'.Tidy

theorem Goes.refl (hs : s.Tidy) : s.Goes s := ⟨.refl _, hs⟩

theorem Goes.trans (h : s.Goes s') (h' : s'.Goes s'') : s.Goes s'' :=
  ⟨h.files.trans h'.files, h'.tidy⟩

theorem Goes.of_onward {P : PageKey → Prop} (h : Onward P keys [] s s') (hs : s.Tidy) :
    s.Goes s' :=
  ⟨h.files, h.tidy hs⟩

theorem Goes.byHandle?_eq (h : s.Goes s') (handle : Nat) :
    s'.files.table.byHandle? handle = s.files.table.byHandle? handle := by
  rw [h.files.table_eq]

theorem Goes.unwritable_iff (h : s.Goes s') : s'.Unwritable k ↔ s.Unwritable k := by
  rw [Unwritable, h.byHandle?_eq, Unwritable]

theorem Goes.unshared (h : s.Goes s') (hs : s.files.Unshared) : s'.files.Unshared := by
  intro j j' o o' ho ho'
  rw [h.byHandle?_eq] at ho ho'
  exact hs j j' o o' ho ho'

/-- The block of the file that is open under the handle of a page. -/
def blockOf (s : Store) (o : OpenFile) (k : PageKey) : Block :=
  (s.files.disk.image o.image).block (k.page + 1)

/-- **A store in which the pages of a list were written back**, those of them that were
dirty. -/
structure WroteBack (keys : List PageKey) (s s' : Store) : Prop where
  goes : s.Goes s'
  cleaned : s.pool.Cleaned s'.pool
  frames_eq : s'.frames = s.frames
  dirty_iff : ∀ k, s'.pool.isDirty k = true ↔ s.pool.isDirty k = true ∧ k ∉ keys
  /-- The frame of a dirty page of the list is in its block. -/
  written : s.files.Unshared → ∀ k ∈ keys, s.pool.isDirty k = true →
    ∃ o f, s.files.table.byHandle? k.file = some o ∧ s.pool.frame? k = some f ∧
      s'.blockOf o k = s.frame f
  /-- Every other block is as it was. -/
  kept : s.files.Unshared → ∀ k o, (k ∈ keys → s.pool.isDirty k = false) →
    s.files.table.byHandle? k.file = some o → s'.blockOf o k = s.blockOf o k

namespace WroteBack

/-- Clean pages need not be written. -/
theorem of_clean (hs : s.Tidy) (hclean : ∀ k ∈ keys, s.pool.isDirty k = false) :
    WroteBack keys s s where
  goes := .refl hs
  cleaned := .refl _
  frames_eq := rfl
  dirty_iff := fun k => (and_iff_left_of_imp fun hdirty hmem =>
    Bool.noConfusion ((hclean k hmem).symm.trans hdirty)).symm
  written := fun _ k hk hdirty => Bool.noConfusion ((hclean k hk).symm.trans hdirty)
  kept := fun _ _ _ _ _ => rfl

theorem trans (h : WroteBack keys s s') (h' : WroteBack keys' s' s'') :
    WroteBack (keys ++ keys') s s'' where
  goes := h.goes.trans h'.goes
  cleaned := h.cleaned.trans h'.cleaned
  frames_eq := h'.frames_eq.trans h.frames_eq
  dirty_iff := fun k => by
    rw [h'.dirty_iff, h.dirty_iff, List.mem_append, not_or, and_assoc]
  written := by
    intro hs k hk hdirty
    have hs' := h.goes.unshared hs
    by_cases hfirst : k ∈ keys
    · obtain ⟨o, f, ho, hf, hblock⟩ := h.written hs k hfirst hdirty
      refine ⟨o, f, ho, hf, (h'.kept hs' k o (fun _ => ?_) ?_).trans hblock⟩
      · exact eq_false_of_ne_true fun hdirty' => ((h.dirty_iff k).mp hdirty').2 hfirst
      · rw [h.goes.byHandle?_eq, ho]
    · have hdirty' := (h.dirty_iff k).mpr ⟨hdirty, hfirst⟩
      obtain ⟨o, f, ho, hf, hblock⟩ :=
        h'.written hs' k ((List.mem_append.mp hk).resolve_left hfirst) hdirty'
      rw [h.goes.byHandle?_eq] at ho
      rw [h.cleaned.frame?_eq] at hf
      refine ⟨o, f, ho, hf, hblock.trans ?_⟩
      rw [frame, h.frames_eq, frame]
  kept := by
    intro hs k o hclean ho
    refine (h'.kept (h.goes.unshared hs) k o (fun hmem => ?_) ?_).trans
      (h.kept hs k o (fun hmem => hclean (List.mem_append_left _ hmem)) ho)
    · exact h.cleaned.isDirty_false (hclean (List.mem_append_right _ hmem))
    · rw [h.goes.byHandle?_eq, ho]

end WroteBack

namespace Tidy

/-- **A dirty page is written to its block**, and nothing else is. -/
theorem wroteBack (hs : s.Tidy) {e : PoolEntry} (hfind : s.pool.find? k = some e)
    (hdirty : s.pool.isDirty k = true) {o : OpenFile}
    (ho : s.files.table.byHandle? k.file = some o) :
    WroteBack [k] s { s with
      files := s.files.putBlock o.image (k.page + 1) (s.frame e.frame)
      pool := s.pool.update k fun e => { e with dirty := false } } := by
  have hi := hs.files.lt_images ho
  have hclean := Pool.Cleaned.update hfind
  have hfiles : s.files.Onward (s.files.putBlock o.image (k.page + 1) (s.frame e.frame)) :=
    .putBlock hi _ _
  constructor
  case goes => exact ⟨hfiles, hfiles.sound hs.files, hs.distinct.update k fun _ => rfl, hs.id_lt⟩
  case cleaned => exact hclean.1
  case frames_eq => rfl
  case dirty_iff =>
    intro j
    rw [Pool.isDirty_update (f := fun e : PoolEntry => { e with dirty := false }) (fun _ => rfl)
      hfind, List.mem_singleton]
    by_cases hj : j = k
    · simp [hj]
    · simp [hj]
  case written =>
    intro _ j hj hdirty
    obtain rfl := List.mem_singleton.mp hj
    exact ⟨o, e.frame, ho, Pool.frame?_of_find? hfind,
      (Files.block_putBlock hi _ _ _ _).trans (if_pos ⟨rfl, rfl⟩)⟩
  case kept =>
    intro hunshared j o' hj ho'
    refine (Files.block_putBlock hi _ _ _ _).trans (if_neg ?_)
    rintro ⟨himage, hpage⟩
    -- a page of the same image with the same number is the page that is written
    obtain rfl : j = k := by
      have hfile := hunshared _ _ _ _ ho' ho himage
      cases j
      cases k
      exact congrArg₂ PageKey.mk hfile (Nat.succ.inj hpage)
    exact Bool.noConfusion ((hj (List.mem_singleton_self _)).symm.trans hdirty)

/-- **A page is written back** unless it cannot be. -/
theorem ends_flushPage_exactly (hs : s.Tidy) (k : PageKey) :
    Ends (flushPage k) s (fun _ s' => WroteBack [k] s s')
      (fun _ s' => s' = s ∧ s.pool.isDirty k = true ∧ s.Unwritable k) := by
  unfold flushPage
  rw [ends_bind, ends_get]
  cases hfind : s.pool.find? k with
  | none =>
    refine ends_pure.mpr (.of_clean hs fun j hj => ?_)
    rw [List.mem_singleton.mp hj, Pool.isDirty, hfind, Option.any_none]
  | some e =>
    have hdirty := Pool.isDirty_of_find? hfind
    rw [ends_ite]
    refine ⟨fun htrue => ?_, fun hfalse => ends_pure.mpr (.of_clean hs fun j hj => ?_)⟩
    · rw [ends_bind, ends_get, ends_bind, ends_onFiles]
      refine (Files.ends_writePage hs.files k.file k.page (s.frame e.frame)).imp ?_ ?_
      · rintro _ fs ⟨o, ho, rfl⟩
        exact hs.wroteBack hfind (hdirty.trans htrue) ho
      · rintro fe fs ⟨rfl, hfar⟩
        exact ⟨rfl, hdirty.trans htrue, unwritable_of_unreachable hfar⟩
    · rw [List.mem_singleton.mp hj, hdirty]
      exact eq_false_of_ne_true hfalse

/-- **Pages are written back up to the first that cannot be**, and those in front of it
are. -/
theorem ends_flushPages_exactly (hs : s.Tidy) (keys : List PageKey) :
    Ends (flushPages keys) s (fun _ s' => WroteBack keys s s')
      (fun _ s' => ∃ front k behind, keys = front ++ k :: behind ∧ s.pool.isDirty k = true ∧
        s.Unwritable k ∧ WroteBack front s s') := by
  unfold flushPages
  induction keys generalizing s with
  | nil => exact ends_pure.mpr (.of_clean hs nofun)
  | cons k keys ih =>
    show Ends (do flushPage k; keys.forM flushPage) s _ _
    rw [ends_bind]
    refine (ends_flushPage_exactly hs k).imp ?_ ?_
    · intro _ s₁ hfirst
      refine (ih hfirst.goes.tidy).imp (fun _ _ hrest => hfirst.trans hrest) ?_
      rintro e s₂ ⟨front, j, behind, rfl, hdirty, hfar, hfront⟩
      exact ⟨k :: front, j, behind, rfl, ((hfirst.dirty_iff j).mp hdirty).1,
        hfirst.goes.unwritable_iff.mp hfar, hfirst.trans hfront⟩
    · rintro e _ ⟨rfl, hdirty, hfar⟩
      exact ⟨[], k, keys, rfl, hdirty, hfar, .of_clean hs nofun⟩

/-- **The dirty pages are written back in the order of their last use**, up to the first that
cannot be. -/
theorem ends_flushAll_exactly (hs : s.Tidy) :
    Ends flushAll s (fun _ s' => WroteBack (s.pool.keysWhere (·.dirty)) s s')
      (fun _ s' => ∃ front k behind, s.pool.keysWhere (·.dirty) = front ++ k :: behind ∧
        s.Unwritable k ∧ WroteBack front s s') := by
  unfold flushAll
  rw [ends_bind, ends_get, ends_bind]
  refine (hs.ends_flushPages_exactly _).imp (fun _ _ h => h) ?_
  rintro e s' ⟨front, k, behind, hkeys, -, hfar, hwrote⟩
  exact ⟨front, k, behind, hkeys, hfar, hwrote⟩

end Tidy

end Store

end SlottedFile
