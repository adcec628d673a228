import Mathlib.Data.Set.Basic
import SlottedFile.Proofs.Pool.Taken

/-!
# Stained pages

A page becomes dirty when a pin of it is given back whose holder wrote to it. Until then
the pool knows nothing of what was written, and only a note that goes with the pin tells. So
that nothing is lost between the two, a page is called stained in either case
(`Store.Stained`), and what an operation leaves behind is said of stained pages
(`Store.Stains`): which pages it may have stained, and that it holds no pin of its own any
more. A file none of whose pages is stained is not written to, whatever is evicted
(`Store.Keeps`).

Then every step can be looked at by itself. To make room, to read a page into the pool and
to count a pin stains nothing, and nor does it to look at a page. To take a pin, to do
something, and to give the pin back stains what was stained in between
(`Store.Lent.ends_release`): the note that the pin had becomes the mark of the page, and no
other pin has its number. An operation that is made of such steps stains nothing and writes to
no file without need, and so is said to be spotless (`Store.Spotless`).

Nothing is asked of the store but that its files are sound and its pins numbered in their order
(`Store.Numbered`), neither that it agrees with its files nor that there is any room.
-/

namespace SlottedFile.Store

variable {ε α β : Type} {V W : Set PageKey} {s s' s'' : Store} {pin : Pin} {k : PageKey}

/-! ## What is stained -/

/-- **A page that is stained**: it is dirty, or whoever holds a pin of it wrote to it. -/
def Stained (s : Store) (k : PageKey) : Prop :=
  s.pool.isDirty k = true ∨ ∃ h ∈ s.held, h.dirty = true ∧ h.pin.key = k

/-- **A store that has nothing to write to a file**: no page of it is stained. -/
def Spares (i : ImageId) (s : Store) : Prop :=
  ∀ k o, s.Stained k → s.files.table.byHandle? k.file = some o → o.image ≠ i

/-- **A store that wrote to no file without need**: the files that it had nothing to write to are
as they were, and there still is nothing to write to them. -/
structure Keeps (s s' : Store) : Prop where
  image_eq : ∀ i, s.Spares i → s'.files.disk.image i = s.files.disk.image i
  spares : ∀ i, s.Spares i → s'.Spares i

namespace Keeps

theorem refl (s : Store) : s.Keeps s := ⟨fun _ _ => rfl, fun _ h => h⟩

theorem trans (h : s.Keeps s') (h' : s'.Keeps s'') : s.Keeps s'' where
  image_eq := fun i hi => (h'.image_eq i (h.spares i hi)).trans (h.image_eq i hi)
  spares := fun i hi => h'.spares i (h.spares i hi)

theorem of_stained (htable : s'.files.table = s.files.table)
    (himage : ∀ i, s.Spares i → s'.files.disk.image i = s.files.disk.image i)
    (hstained : ∀ k, s'.Stained k → s.Stained k) : s.Keeps s' :=
  ⟨himage, fun _ hi k o hk ho => hi k o (hstained k hk) (htable ▸ ho)⟩

end Keeps

/-- **What was stained**: at most the pages in `W`. No file was opened or closed, and no pin is
held that was not held before. -/
structure Stains (W : Set PageKey) (s s' : Store) : Prop where
  files : s.files.Onward s'.files
  pins : ∀ h' ∈ s'.held, ∃ h ∈ s.held, h.pin = h'.pin
  nextPin_le : s.nextPin ≤ s'.nextPin
  stained : ∀ k, s'.Stained k → s.Stained k ∨ k ∈ W

/-- **A store whose files are sound and whose pins are numbered** in the order in which they
were taken. -/
structure Numbered (s : Store) : Prop where
  files : s.files.Sound
  id_lt : ∀ h ∈ s.held, h.pin.id < s.nextPin

namespace Stains

theorem refl (s : Store) : Stains W s s :=
  ⟨.refl _, fun h hmem => ⟨h, hmem, rfl⟩, Nat.le_refl _, fun _ h => .inl h⟩

theorem trans (h : Stains W s s') (h' : Stains W s' s'') : Stains W s s'' where
  files := h.files.trans h'.files
  pins := fun g hg => by
    obtain ⟨g', hg', heq⟩ := h'.pins g hg
    obtain ⟨g'', hg'', heq'⟩ := h.pins g' hg'
    exact ⟨g'', hg'', heq'.trans heq⟩
  nextPin_le := Nat.le_trans h.nextPin_le h'.nextPin_le
  stained := fun k hk => (h'.stained k hk).elim (h.stained k) .inr

theorem mono (h : Stains V s s') (hsub : V ⊆ W) : Stains W s s' :=
  { h with stained := fun k hk => (h.stained k hk).imp_right fun hmem => hsub hmem }

theorem of_none (h : Stains ∅ s s') : Stains W s s' := h.mono (Set.empty_subset W)

theorem numbered (h : Stains W s s') (hs : s.Numbered) : s'.Numbered := by
  refine ⟨h.files.sound hs.files, fun g hg => ?_⟩
  obtain ⟨g', hg', heq⟩ := h.pins g hg
  rw [← heq]
  exact Nat.lt_of_lt_of_le (hs.id_lt g' hg') h.nextPin_le

/-- Only the files have changed. -/
theorem of_files {fs : Files} (hfiles : s.files.Onward fs) : Stains W s { s with files := fs } :=
  ⟨hfiles, fun h hmem => ⟨h, hmem, rfl⟩, Nat.le_refl _, fun _ h => .inl h⟩

end Stains

/-- **A store in which nothing was stained**, and that wrote to no file without need. -/
structure Intact (s s' : Store) : Prop extends Stains ∅ s s', Keeps s s'

namespace Intact

theorem refl (s : Store) : s.Intact s := ⟨.refl s, .refl s⟩

theorem trans (h : s.Intact s') (h' : s'.Intact s'') : s.Intact s'' :=
  ⟨h.toStains.trans h'.toStains, h.toKeeps.trans h'.toKeeps⟩

end Intact

/-! ## Behind the pins -/

/-- **Work that no pin notices**: the same pins are held, with the same notes, no page has
become dirty, and no file was written to without need. -/
structure Unnoticed (s s' : Store) : Prop where
  files : s.files.Onward s'.files
  held_eq : s'.held = s.held
  nextPin_eq : s'.nextPin = s.nextPin
  dirty : ∀ k, s'.pool.isDirty k = true → s.pool.isDirty k = true
  image_eq : ∀ i, s.Spares i → s'.files.disk.image i = s.files.disk.image i

namespace Unnoticed

theorem stained (h : s.Unnoticed s') (hk : s'.Stained k) : s.Stained k :=
  hk.imp (h.dirty k) fun hnoted => h.held_eq ▸ hnoted

theorem keeps (h : s.Unnoticed s') : s.Keeps s' :=
  .of_stained h.files.table_eq h.image_eq fun _ => h.stained

theorem intact (h : s.Unnoticed s') : s.Intact s' where
  files := h.files
  pins := fun g hg => ⟨g, h.held_eq ▸ hg, rfl⟩
  nextPin_le := Nat.le_of_eq h.nextPin_eq.symm
  stained := fun _ hk => .inl (h.stained hk)
  toKeeps := h.keeps

theorem refl (s : Store) : s.Unnoticed s := ⟨.refl _, rfl, rfl, fun _ h => h, fun _ _ => rfl⟩

theorem trans (h : s.Unnoticed s') (h' : s'.Unnoticed s'') : s.Unnoticed s'' where
  files := h.files.trans h'.files
  held_eq := h'.held_eq.trans h.held_eq
  nextPin_eq := h'.nextPin_eq.trans h.nextPin_eq
  dirty := fun k hk => h.dirty k (h'.dirty k hk)
  image_eq := (h.keeps.trans h'.keeps).image_eq

/-- Only the pool and the frames have changed. -/
theorem of_pool {p : Pool} {frames : Array Block}
    (hdirty : ∀ k, p.isDirty k = true → s.pool.isDirty k = true) :
    s.Unnoticed { s with pool := p, frames } :=
  ⟨.refl _, rfl, rfl, hdirty, fun _ _ => rfl⟩

/-- A page that is there is counted as pinned once more. -/
theorem count {e : PoolEntry} (hfind : s.pool.find? k = some e) :
    s.Unnoticed { s with pool := s.pool.use { e with pins := e.pins + 1 } } := by
  refine .of_pool fun j hj => ?_
  rw [Pool.isDirty_use] at hj
  split at hj
  · subst j
    rw [(Pool.mem_of_find? hfind).2, Pool.isDirty_of_find? hfind]
    exact hj
  · exact hj

end Unnoticed

/-- **An operation that no pin notices**, whether it succeeds or fails. -/
def Behind (x : StoreM ε α) : Prop :=
  ∀ s : Store, s.files.Sound →
    Ends x s (fun _ s' => s.Unnoticed s') fun _ s' => s.Unnoticed s'

theorem Behind.bind {x : StoreM ε β} {f : β → StoreM ε α} (hx : Behind x)
    (hf : ∀ b, Behind (f b)) : Behind (x >>= f) := fun s hs =>
  ends_bind.mpr (Ends.imp (hx s hs)
    (fun b s' h => Ends.imp (hf b s' (h.files.sound hs)) (fun _ _ h' => h.trans h')
      fun _ _ h' => h.trans h')
    fun _ _ h => h)

theorem behind_erase (k : PageKey) : Behind (modifyPool (·.erase k) : StoreM ε Unit) := by
  refine fun s _ => ends_modifyPool.mpr (.of_pool fun j hj => ?_)
  rw [Pool.isDirty_erase] at hj
  split at hj
  · cases hj
  · exact hj

/-- **A page is written back** only if it is dirty. -/
theorem behind_flushPage (k : PageKey) : Behind (flushPage k) := by
  intro s hs
  refine ends_bind.mpr (ends_get.mpr ?_)
  cases hfind : s.pool.find? k with
  | none => exact .refl s
  | some e =>
    refine ends_ite.mpr ⟨fun hdirty => ?_, fun _ => .refl s⟩
    rw [ends_bind, ends_get, ends_bind, ends_onFiles]
    refine (Files.ends_writePage hs k.file k.page (s.frame e.frame)).imp ?_ ?_
    · rintro _ _ ⟨o, ho, rfl⟩
      have hwritten : s.Unnoticed
          { s with files := s.files.putBlock o.image (k.page + 1) (s.frame e.frame) } := by
        refine ⟨.putBlock (hs.lt_images ho) _ _, rfl, rfl, fun _ h => h, fun i hi => ?_⟩
        have hne := hi k o (.inl ((Pool.isDirty_of_find? hfind).trans hdirty)) ho
        exact (Disk.image_setImage _ (hs.lt_images ho) i).trans (if_neg hne.symm)
      refine ends_modifyPool.mpr (hwritten.trans (.of_pool fun j hj => ?_))
      have hcleaned := Pool.isDirty_update (j := j) (f := fun e : PoolEntry =>
        { e with dirty := false }) (fun _ => rfl) hfind
      replace hj := hcleaned.symm.trans hj
      split at hj
      · cases hj
      · exact hj
    · rintro _ _ ⟨rfl, -⟩
      exact .refl s

theorem behind_makeRoom : Behind makeRoom := by
  refine fun s hs => ends_bind.mpr (ends_get.mpr (ends_ite.mpr ⟨fun _ => ?_, fun _ => .refl s⟩))
  refine ends_bind.mpr (ends_get.mpr ?_)
  cases s.pool.victim? with
  | none => exact .refl s
  | some k => exact (behind_flushPage k).bind (fun _ => behind_erase k) s hs

theorem behind_load (k : PageKey) : Behind (load k) := by
  refine behind_makeRoom.bind fun _ s hs => ?_
  rw [ends_bind, ends_onFiles]
  refine (Files.ends_readPage s.files k.file k.page).imp ?_ ?_
  · rintro b _ ⟨rfl, -⟩
    refine ends_bind.mpr (ends_newFrame.mpr (ends_modifyPool.mpr (.of_pool fun j hj => ?_)))
    rw [Pool.isDirty_use] at hj
    split at hj
    · cases hj
    · exact hj
  · rintro _ _ ⟨rfl, -⟩
    exact .refl s

/-- **A page is fetched behind the pins.** -/
theorem behind_fetch (k : PageKey) : Behind (fetch k) := by
  intro s hs
  refine ends_bind.mpr (ends_get.mpr ?_)
  cases s.pool.contains k with
  | true =>
    refine ends_bind.mpr (ends_get.mpr ?_)
    cases hfind : s.pool.find? k with
    | none => exact .refl s
    | some e => exact ends_bind.mpr (ends_modifyPool.mpr (.count hfind))
  | false =>
    refine ends_bind.mpr (Ends.imp (behind_load k s hs) (fun _ s₁ hloaded => ?_) fun _ _ h => h)
    refine ends_bind.mpr (ends_get.mpr ?_)
    cases hfind : s₁.pool.find? k with
    | none => exact hloaded
    | some e => exact ends_bind.mpr (ends_modifyPool.mpr (hloaded.trans (.count hfind)))

/-! ## Taking a pin and giving it back -/

/-- **A pin that was lent**: it is held, and has a number that no other pin has. -/
structure Lent (W : Set PageKey) (pin : Pin) (s s' : Store) : Prop where
  files : s.files.Onward s'.files
  id_eq : pin.id = s.nextPin
  nextPin_lt : s.nextPin < s'.nextPin
  pins : ∀ h' ∈ s'.held, h'.pin = pin ∨ ∃ h ∈ s.held, h.pin = h'.pin
  stained : ∀ k, s'.Stained k → s.Stained k ∨ k ∈ W

namespace Lent

theorem numbered (h : Lent W pin s s') (hs : s.Numbered) : s'.Numbered := by
  refine ⟨h.files.sound hs.files, fun g hg => ?_⟩
  rcases h.pins g hg with heq | ⟨g', hg', heq⟩
  · rw [heq, h.id_eq]
    exact h.nextPin_lt
  · rw [← heq]
    exact Nat.lt_trans (hs.id_lt g' hg') h.nextPin_lt

/-- Something was done while the pin was held. -/
theorem trans (h : Lent W pin s s') (hbody : Stains W s' s'') : Lent W pin s s'' where
  files := h.files.trans hbody.files
  id_eq := h.id_eq
  nextPin_lt := Nat.lt_of_lt_of_le h.nextPin_lt hbody.nextPin_le
  pins := fun g hg => by
    obtain ⟨g', hg', heq⟩ := hbody.pins g hg
    rw [← heq]
    exact h.pins g' hg'
  stained := fun k hk => (hbody.stained k hk).elim (h.stained k) .inr

theorem mono (h : Lent V pin s s') (hsub : V ⊆ W) : Lent W pin s s' :=
  { h with stained := fun k hk => (h.stained k hk).imp_right fun hmem => hsub hmem }

end Lent

/-- A pin that the pool has counted is lent. -/
theorem ends_hold_lent {dirty : Bool} {f : FrameId} (hfiles : s.files.Onward s'.files)
    (hheld : s'.held = s.held) (hnext : s'.nextPin = s.nextPin)
    (hstained : ∀ j, s'.Stained j → s.Stained j ∨ j ∈ W) (hdirty : dirty = true → k ∈ W) :
    Ends (hold k f dirty : StoreM ε Pin) s'
      (fun pin s'' => pin.key = k ∧ Lent W pin s s'' ∧ s''.nextPin = s.nextPin + 1 ∧
        s''.files = s'.files)
      fun _ _ => False := by
  unfold hold
  rw [ends_bind, ends_get, ends_bind, ends_modify, ends_pure]
  refine ⟨rfl, ⟨hfiles, hnext, ?_, ?_, ?_⟩, congrArg (· + 1) hnext, rfl⟩
  · show s.nextPin < s'.nextPin + 1
    rw [hnext]
    exact Nat.lt_succ_self _
  · intro h hmem
    rcases List.mem_cons.mp hmem with rfl | hmem
    · exact .inl rfl
    · exact .inr ⟨h, hheld ▸ hmem, rfl⟩
  · rintro j (hj | ⟨h, hmem, hnoted, hkey⟩)
    · exact hstained j (.inl hj)
    · rcases List.mem_cons.mp hmem with rfl | hmem
      · exact .inr (hkey ▸ hdirty hnoted)
      · exact hstained j (.inr ⟨h, hmem, hnoted, hkey⟩)

/-- **A pin of a page is lent**, and nothing is stained. -/
theorem ends_pinPage_lent (hs : s.files.Sound) (file page : Nat) :
    Ends (pinPage file page) s
      (fun pin s' => pin.key = ⟨file, page⟩ ∧ Lent ∅ pin s s' ∧ s'.nextPin = s.nextPin + 1 ∧
        s.Keeps s')
      fun _ s' => s.Unnoticed s' := by
  unfold pinPage
  rw [ends_bind]
  refine Ends.imp (behind_fetch ⟨file, page⟩ s hs) ?_ fun _ _ h => h
  intro f s₁ hfetched
  refine (ends_hold_lent (W := ∅) hfetched.files hfetched.held_eq hfetched.nextPin_eq
    (fun _ hj => .inl (hfetched.stained hj)) Bool.noConfusion).imp ?_ fun _ _ h => h.elim
  rintro pin s' ⟨hkey, hlent, hnext, hfiles⟩
  refine ⟨hkey, hlent, hnext, .of_stained hlent.files.table_eq (fun i hi => ?_) fun j hj =>
    (hlent.stained j hj).resolve_right (Set.notMem_empty j)⟩
  rw [hfiles]
  exact hfetched.image_eq i hi

/-- **A pin of a new page is lent**, which is stained from the start. If no page is added, nothing is
stained. -/
theorem ends_pinNewPage_lent (hs : s.files.Sound) (file : Nat) :
    Ends (pinNewPage file) s (fun pin s' => Lent {pin.key} pin s s')
      fun _ s' => s.Unnoticed s' := by
  unfold pinNewPage newPage
  rw [ends_bind, ends_bind]
  refine Ends.imp (behind_makeRoom s hs) ?_ fun _ _ h => h
  intro _ s₁ hroom
  rw [ends_bind, ends_onFiles]
  refine (Files.ends_allocatePage s₁.files file).imp ?_ ?_
  · rintro page _ ⟨o, ho, rfl, -, rfl⟩
    have hgrown := Files.Onward.grow ((hroom.files.sound hs).lt_images ho)
    set k : PageKey := ⟨file, (s₁.files.disk.image o.image).pages⟩
    rw [ends_bind, ends_newFrame, ends_bind, ends_modifyPool, ends_bind, ends_report, ends_pure]
    refine (ends_hold_lent (W := {k}) (s := s) ?_ ?_ ?_ ?_ fun _ => rfl).imp ?_ fun _ _ h => h.elim
    · exact hroom.files.trans hgrown
    · exact hroom.held_eq
    · exact hroom.nextPin_eq
    · rintro j (hdirty | hnoted)
      · rw [Pool.isDirty_use] at hdirty
        split at hdirty
        · exact .inr ‹_›
        · exact .inl (hroom.stained (.inl hdirty))
      · exact .inl (hroom.stained (.inr hnoted))
    · rintro pin s' ⟨hkey, hlent, -⟩
      rw [hkey]
      exact hlent
  · rintro _ _ ⟨rfl, -⟩
    exact hroom

/-- **The pool takes a pin back** or refuses it, and marks the page if the holder wrote to
it. -/
theorem ends_release_marks (pin : Pin) (s : Store) :
    Ends (release pin : StoreM ε Unit) s
      (fun _ s' => s'.files = s.files ∧ s'.held = s.held.filter (·.pin.id != pin.id) ∧
        s'.nextPin = s.nextPin ∧ ∀ k, s'.pool.isDirty k = true →
          s.pool.isDirty k = true ∨ k = pin.key ∧ s.wrote pin = true)
      fun _ _ => False := by
  rw [ends_release_iff]
  set s₁ : Store := { s with held := s.held.filter (·.pin.id != pin.id) } with hs₁
  have hunpin : Ends (unpin pin.key (s.wrote pin)) s₁
      (fun _ s' => s'.files = s.files ∧ s'.held = s₁.held ∧ s'.nextPin = s.nextPin ∧
        ∀ k, s'.pool.isDirty k = true →
          s.pool.isDirty k = true ∨ k = pin.key ∧ s.wrote pin = true)
      fun e s' => s' = s₁ ∧ ∃ fe, e = .error fe := by
    unfold unpin
    rw [ends_bind, ends_get]
    cases hfind : s₁.pool.find? pin.key with
    | none => exact ⟨rfl, _, rfl⟩
    | some e =>
      refine ends_ite.mpr ⟨fun _ => ⟨rfl, _, rfl⟩, fun _ => ?_⟩
      refine ends_modifyPool.mpr ⟨rfl, rfl, rfl, fun k hk => ?_⟩
      have hmarked := Pool.isDirty_update (j := k) (f := fun e : PoolEntry =>
        { e with pins := e.pins - 1, dirty := e.dirty || s.wrote pin }) (fun _ => rfl) hfind
      replace hk := hmarked.symm.trans hk
      split at hk
      · subst k
        exact (Bool.or_eq_true_iff.mp hk).imp (Pool.isDirty_of_find? hfind).trans
          fun hwrote => ⟨rfl, hwrote⟩
      · exact .inl hk
  refine hunpin.imp (fun _ _ h => h) ?_
  rintro _ _ ⟨rfl, fe, rfl⟩
  exact ⟨fun _ _ => ⟨rfl, rfl, rfl, fun _ h => .inl h⟩, nofun⟩

/-- **A pin that was lent is given back**: what was written through it is stained, and no pin is
held any more that was not held before. -/
theorem Lent.ends_release (h : Lent W pin s s') (hs : s.Numbered) :
    Ends (release pin : StoreM ε Unit) s' (fun _ s'' => Stains W s s'' ∧ s'.Keeps s'')
      fun _ _ => False := by
  -- the number tells the pin from those that were held before
  have hpins : ∀ g ∈ s'.held, g.pin = pin ∨ (∃ g' ∈ s.held, g'.pin = g.pin) ∧ g.pin.id ≠ pin.id := by
    intro g hg
    refine (h.pins g hg).imp_right fun ⟨g', hg', heq⟩ => ⟨⟨g', hg', heq⟩, ?_⟩
    rw [← heq, h.id_eq]
    exact Nat.ne_of_lt (hs.id_lt g' hg')
  refine (ends_release_marks pin s').imp ?_ fun _ _ h => h
  rintro _ s'' ⟨hfiles, hheld, hnext, hdirty⟩
  have hkept : ∀ g ∈ s''.held, g ∈ s'.held ∧ g.pin.id ≠ pin.id := by
    intro g hg
    rw [hheld, List.mem_filter] at hg
    exact ⟨hg.1, bne_iff_ne.mp hg.2⟩
  have hstained : ∀ k, s''.Stained k → s'.Stained k := by
    rintro k (hmark | ⟨g, hg, hnoted, hkey⟩)
    · rcases hdirty k hmark with hmark | ⟨rfl, hwrote⟩
      · exact .inl hmark
      · -- the note of the pin has become the mark of its page
        obtain ⟨g, hg, hg'⟩ := List.any_eq_true.mp hwrote
        obtain ⟨hid, hnoted⟩ := Bool.and_eq_true_iff.mp hg'
        refine .inr ⟨g, hg, hnoted, ?_⟩
        rcases hpins g hg with heq | ⟨-, hne⟩
        · rw [heq]
        · exact absurd (beq_iff_eq.mp hid) hne
    · exact .inr ⟨g, (hkept g hg).1, hnoted, hkey⟩
  refine ⟨⟨?_, fun g hg => ?_, ?_, fun k hk => h.stained k (hstained k hk)⟩,
    .of_stained (congrArg Files.table hfiles) (fun i _ => by rw [hfiles]) hstained⟩
  · rw [hfiles]
    exact h.files
  · obtain ⟨hg, hne⟩ := hkept g hg
    exact ((hpins g hg).resolve_left fun heq => hne (congrArg Pin.id heq)).1
  · rw [hnext]
    exact Nat.le_of_lt h.nextPin_lt

/-! ## Writing to a page -/

/-- **What is noted of a pin** stains its page, and nothing else. -/
theorem ends_noteWrite_stains (hkeys : ∀ h ∈ s.held, h.pin.id = pin.id → h.pin.key = pin.key) :
    Ends (noteWrite pin : StoreM ε Unit) s (fun _ s' => Stains {pin.key} s s')
      fun _ _ => False := by
  refine ends_modify.mpr ⟨.refl _, fun g hg => ?_, Nat.le_refl _, ?_⟩
  · obtain ⟨h, hmem, rfl⟩ := List.mem_map.mp hg
    refine ⟨h, hmem, ?_⟩
    split <;> rfl
  · rintro k (hdirty | ⟨g, hg, hnoted, hkey⟩)
    · exact .inl (.inl hdirty)
    · obtain ⟨h, hmem, rfl⟩ := List.mem_map.mp hg
      split at hkey
      · rename_i hid
        exact .inr (hkey.symm.trans (hkeys h hmem hid))
      · rename_i hid
        rw [if_neg hid] at hnoted
        exact .inl (.inr ⟨h, hmem, hnoted, hkey⟩)

/-- **And so does what is written through it.** -/
theorem ends_edit_stains (hkeys : ∀ h ∈ s.held, h.pin.id = pin.id → h.pin.key = pin.key)
    (e : Buffer.Edit blockSize α) :
    Ends (edit pin e : StoreM ε α) s (fun _ s' => Stains {pin.key} s s')
      fun _ s' => Stains {pin.key} s s' := by
  unfold edit
  refine ends_bind.mpr ((ends_noteWrite_stains hkeys).imp ?_ fun _ _ h => h.elim)
  intro _ s₁ hnoted
  exact ends_editFrame.mpr ⟨fun _ _ _ => { hnoted with }, fun _ _ _ => { hnoted with }⟩

/-! ## Operations that stain nothing -/

/-- **An operation that stains nothing**, whether it succeeds or fails. -/
def Spotless (x : StoreM ε α) : Prop :=
  ∀ s : Store, s.Numbered → Ends x s (fun _ s' => s.Intact s') fun _ s' => s.Intact s'

theorem spotless_pure (a : α) : Spotless (pure a : StoreM ε α) := fun s _ => Intact.refl s

theorem spotless_fail (e : ε) : Spotless (fail e : StoreM ε α) := fun s _ => Intact.refl s

theorem Spotless.bind {x : StoreM ε β} {f : β → StoreM ε α} (hx : Spotless x)
    (hf : ∀ b, Spotless (f b)) : Spotless (x >>= f) := fun s hs =>
  ends_bind.mpr (Ends.imp (hx s hs)
    (fun b s' h => Ends.imp (hf b s' (h.numbered hs)) (fun _ _ h' => h.trans h')
      fun _ _ h' => h.trans h')
    fun _ _ h => h)

theorem spotless_ite {c : Prop} [Decidable c] {x y : StoreM ε α} (hx : Spotless x)
    (hy : Spotless y) : Spotless (if c then x else y) := by
  split
  · exact hx
  · exact hy

theorem spotless_unless {c : Prop} [Decidable c] {e : ε} {x : StoreM ε α} (hx : Spotless x) :
    Spotless (if c then x else do (fail e : StoreM ε PUnit); x) :=
  spotless_ite hx ((spotless_fail e).bind fun _ => hx)

theorem spotless_attempt {x : StoreM ε α} (hx : Spotless x) : Spotless (attempt x) := by
  intro s hs
  refine ends_attempt.mpr (Ends.imp (hx s hs) (fun _ _ h => h) ?_)
  rintro (e | o) s' h <;> exact h

/-- To look at a page changes nothing. -/
theorem ends_view_stays (pin : Pin) (f : Block → Except Overrun α) (s : Store) :
    Ends (view pin f : StoreM ε α) s (fun a s' => f (s.frame pin.frame) = .ok a ∧ s' = s)
      fun e s' => (∃ o, f (s.frame pin.frame) = .error o ∧ e = .overrun o) ∧ s' = s := by
  unfold view viewFrame
  rw [ends_bind, ends_get, ends_liftOverrun]
  exact ⟨fun a ha => ⟨ha, rfl⟩, fun o ho => ⟨⟨o, ho, rfl⟩, rfl⟩⟩

theorem spotless_view (pin : Pin) (f : Block → Except Overrun α) :
    Spotless (view pin f : StoreM ε α) := by
  refine fun s _ => (ends_view_stays pin f s).imp ?_ ?_
  · rintro _ _ ⟨-, rfl⟩
    exact .refl _
  · rintro _ _ ⟨-, rfl⟩
    exact .refl _

theorem spotless_report (event : Event) : Spotless (report event : StoreM ε Unit) := by
  intro s _
  rw [ends_report]
  exact Unnoticed.intact ⟨.refl _, rfl, rfl, fun _ h => h, fun _ _ => rfl⟩

/-- **What is done while a page is held** stains nothing if it does not write to a page. -/
theorem spotless_withPin {take : StoreM ε Pin} {body : Pin → StoreM ε α}
    (htake : ∀ s : Store, s.files.Sound →
      Ends take s (fun pin s' => Lent ∅ pin s s' ∧ s.Keeps s') fun _ s' => s.Intact s')
    (hbody : ∀ pin, Spotless (body pin)) : Spotless (withPin take body) := by
  intro s hs
  unfold withPin
  rw [ends_bind]
  refine (htake s hs.files).imp ?_ fun _ _ h => h
  rintro pin s₁ ⟨hlent, hkeeps⟩
  have hback : ∀ s₂ : Store, s₁.Intact s₂ →
      Ends (release pin : StoreM ε Unit) s₂ (fun _ s₃ => s.Intact s₃) fun _ _ => False :=
    fun s₂ h => ((hlent.trans h.toStains).ends_release hs).imp
      (fun _ _ h' => ⟨h'.1, (hkeeps.trans h.toKeeps).trans h'.2⟩) fun _ _ h' => h'
  rw [ends_tryFinally]
  exact Ends.imp (hbody pin s₁ (hlent.numbered hs))
    (fun _ s₂ h => (hback s₂ h).imp (fun _ _ h' => h') fun _ _ h' => h'.elim)
    fun _ s₂ h => (hback s₂ h).imp (fun _ _ h' => h') fun _ _ h' => h'.elim

end SlottedFile.Store
