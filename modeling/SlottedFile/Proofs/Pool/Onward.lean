import Mathlib.Data.List.Perm.Subperm
import SlottedFile.Proofs.Pins

/-!
# What a store never does to a pin

A store goes on (`Store.Onward`) if every pin that it counts is still counted, every
page with a pin is still in its frame, and the same pins are held as values, apart
from those that are taken on the way. Nothing else is asked of it, neither that its
pages agree with its files nor that its files are record files, so that what is said
here is true of any bytes on the disk.

It is also said why an operation fails. A page can be pinned as long as there is room
for one more pin and every dirty page can be written back (`Store.Roomy`): then
the pool has a page to evict, and nothing keeps it from evicting it.
-/

namespace SlottedFile

/-! ## Files that only grow -/

namespace Image

/-- **A file of whole blocks**, the header block among them. -/
def Paged (img : Image) : Prop := ∃ n, img.size = (n + 1) * blockSize

theorem paged_setSize (img : Image) (n : Nat) : (img.setSize ((n + 1) * blockSize)).Paged :=
  ⟨n, size_setSize _ _⟩

theorem Paged.setBlock {img : Image} (h : img.Paged) (k : Nat) (b : Block) :
    (img.setBlock k b).Paged := by
  obtain ⟨n, hn⟩ := h
  rcases Nat.le_total n k with hle | hle
  · refine ⟨k, ?_⟩
    rw [size_setBlock, hn, Nat.max_eq_right (Nat.mul_le_mul_right _ (Nat.succ_le_succ hle))]
  · refine ⟨n, ?_⟩
    rw [size_setBlock, hn, Nat.max_eq_left (Nat.mul_le_mul_right _ (Nat.succ_le_succ hle))]

/-- A file of whole blocks is as long as its pages and its header block. -/
theorem Paged.size_eq {img : Image} (h : img.Paged) : img.size = (img.pages + 1) * blockSize := by
  obtain ⟨n, hn⟩ := h
  have hpages : img.pages = n := by
    unfold pages blockCount
    rw [hn, show blockSize = 8192 from rfl]
    omega
  rw [hpages, hn]

theorem pages_mono {img img' : Image} (h : img.size ≤ img'.size) : img.pages ≤ img'.pages :=
  Nat.sub_le_sub_right (Nat.div_le_div_right (Nat.sub_le_sub_right (Nat.add_le_add_right h _) 1)) 1

end Image

/-- **Files after something that opens and closes none**: no file is shorter, and a
file of whole blocks still is one. -/
structure Files.Onward (fs fs' : Files) : Prop where
  table_eq : fs'.table = fs.table
  entries_eq : fs'.disk.entries = fs.disk.entries
  size_le : ∀ i, (fs.disk.image i).size ≤ (fs'.disk.image i).size
  paged : ∀ i, (fs.disk.image i).Paged → (fs'.disk.image i).Paged

namespace Files.Onward

variable {fs fs' fs'' : Files}

theorem refl (fs : Files) : fs.Onward fs := ⟨rfl, rfl, fun _ => Nat.le_refl _, fun _ h => h⟩

theorem trans (h : fs.Onward fs') (h' : fs'.Onward fs'') : fs.Onward fs'' where
  table_eq := h'.table_eq.trans h.table_eq
  entries_eq := h'.entries_eq.trans h.entries_eq
  size_le := fun i => Nat.le_trans (h.size_le i) (h'.size_le i)
  paged := fun i hi => h'.paged i (h.paged i hi)

theorem sound (h : fs.Onward fs') (hs : fs.Sound) : fs'.Sound :=
  hs.of_stands h.table_eq (.of_entries h.entries_eq)

theorem pages_le (h : fs.Onward fs') (i : ImageId) :
    (fs.disk.image i).pages ≤ (fs'.disk.image i).pages :=
  Image.pages_mono (h.size_le i)

/-- One image is changed, to a longer one. -/
theorem putImage {i : ImageId} (hi : i < fs.disk.images.size) {img : Image}
    (hsize : (fs.disk.image i).size ≤ img.size)
    (hpaged : (fs.disk.image i).Paged → img.Paged) : fs.Onward (fs.putImage i img) where
  table_eq := rfl
  entries_eq := rfl
  size_le := fun j => by
    show _ ≤ ((fs.disk.setImage i img).image j).size
    rw [Disk.image_setImage img hi]
    split
    · subst j
      exact hsize
    · exact Nat.le_refl _
  paged := fun j hj => by
    show ((fs.disk.setImage i img).image j).Paged
    rw [Disk.image_setImage img hi]
    split
    · subst j
      exact hpaged hj
    · exact hj

theorem putBlock {i : ImageId} (hi : i < fs.disk.images.size) (k : Nat) (b : Block) :
    fs.Onward (fs.putBlock i k b) :=
  putImage hi (Nat.le_max_left _ _) fun h => h.setBlock k b

/-- A file is extended by a page. -/
theorem grow {i : ImageId} (hi : i < fs.disk.images.size) :
    fs.Onward (fs.putImage i
      ((fs.disk.image i).setSize (((fs.disk.image i).pages + 2) * blockSize))) := by
  refine putImage hi (Nat.le_trans (Image.size_le_of_pages _) ?_) fun _ => Image.paged_setSize _ _
  rw [Image.size_setSize]
  exact Nat.mul_le_mul_right _ (Nat.le_succ _)

end Files.Onward

/-! ## Counting pages with a pin -/

namespace Pool

variable {p p' : Pool} {k : PageKey}

theorem mem_pinned_iff (hp : p.Distinct) :
    k ∈ p.keysWhere (·.pins > 0) ↔ p.pinCount k ≠ 0 := by
  rw [mem_keysWhere hp]
  constructor
  · rintro ⟨e, hfind, hpos⟩
    rw [pinCount_of_find? hfind]
    exact Nat.pos_iff_ne_zero.mp (of_decide_eq_true hpos)
  · intro hne
    obtain ⟨e, hfind, hpins⟩ := exists_of_pinCount_ne_zero hne
    exact ⟨e, hfind, decide_eq_true (Nat.pos_of_ne_zero hpins)⟩

theorem length_pinned (p : Pool) : (p.keysWhere (·.pins > 0)).length = p.pinnedCount := by
  unfold keysWhere pinnedCount
  rw [List.length_map, List.countP_eq_length_filter]

theorem pinnedCount_eq_zero (hp : p.Distinct) (h : ∀ k, p.pinCount k = 0) : p.pinnedCount = 0 := by
  rw [← length_pinned, List.length_eq_zero_iff, List.eq_nil_iff_forall_not_mem]
  exact fun k hk => (mem_pinned_iff hp).mp hk (h k)

/-- **A pool has no more pages with a pin than it had**, but for those that are
listed. -/
theorem pinnedCount_le (hp : p.Distinct) (hp' : p'.Distinct) {keys : List PageKey}
    (h : ∀ k, p'.pinCount k ≠ 0 → p.pinCount k ≠ 0 ∨ k ∈ keys) :
    p'.pinnedCount ≤ p.pinnedCount + keys.length := by
  have hnodup : (p'.keysWhere (·.pins > 0)).Nodup :=
    List.Nodup.sublist (List.filter_sublist.map _) hp'
  have hsub : p'.keysWhere (·.pins > 0) ⊆ p.keysWhere (·.pins > 0) ++ keys := by
    intro k hk
    rw [mem_pinned_iff hp'] at hk
    rw [List.mem_append, mem_pinned_iff hp]
    exact h k hk
  have hle := (hnodup.subperm hsub).length_le
  rwa [List.length_append, length_pinned, length_pinned] at hle

/-- If no page can be evicted, every page has a pin. -/
theorem size_le_pinnedCount (h : p.victim? = none) : p.size ≤ p.pinnedCount := by
  unfold victim? at h
  rw [Option.map_eq_none_iff, List.find?_eq_none] at h
  refine Nat.le_of_eq (List.countP_eq_length.mpr fun e he => ?_).symm
  have hpins := h e (List.mem_reverse.mpr he)
  exact decide_eq_true (Nat.pos_of_ne_zero fun hzero => hpins (beq_iff_eq.mpr hzero))

end Pool

/-! ## Stores that go on -/

namespace Store

/-- **A store whose pins can be told apart**, in a pool that buffers no page
twice. -/
structure Tidy (s : Store) : Prop where
  files : s.files.Sound
  distinct : s.pool.Distinct
  id_lt : ∀ h ∈ s.held, h.pin.id < s.nextPin

/-- **A store that buffers pages of open files only**, and of some that are gone. -/
def Attached (gone : Set Nat) (s : Store) : Prop :=
  ∀ k f, s.pool.frame? k = some f → (s.files.table.byHandle? k.file).isSome ∨ k.file ∈ gone

/-- **A store that went on.** Each page of `keys` has another pin, the pins `pins` are
held as well, and only pages in `P` have become dirty. Every other pin is
where it was, and none could not be given back. -/
structure Onward (P : PageKey → Prop) (keys : List PageKey) (pins : List Pin)
    (s s' : Store) : Prop where
  files : s.files.Onward s'.files
  distinct : s'.pool.Distinct
  capacity_eq : s'.pool.capacity = s.pool.capacity
  pinCount_eq : ∀ k, s'.pool.pinCount k = s.pool.pinCount k + keys.count k
  frame?_eq : ∀ k, s.pool.pinCount k ≠ 0 → s'.pool.frame? k = s.pool.frame? k
  dirty : ∀ k, s'.pool.isDirty k = true → s.pool.isDirty k = true ∨ P k
  attached : ∀ {gone}, s.Attached gone → s'.Attached gone
  pins_eq : s'.held.map (·.pin) = pins ++ s.held.map (·.pin)
  nextPin_le : s.nextPin ≤ s'.nextPin
  unpinFailed : ∀ page e, Event.unpinFailed page e ∈ s'.events →
    Event.unpinFailed page e ∈ s.events

variable {P P' : PageKey → Prop} {keys keys' : List PageKey} {pins pins' : List Pin}
  {s s' s'' : Store} {k : PageKey}

namespace Onward

theorem refl (hs : s.Tidy) : Onward P [] [] s s where
  files := .refl _
  distinct := hs.distinct
  capacity_eq := rfl
  pinCount_eq := fun _ => rfl
  frame?_eq := fun _ _ => rfl
  dirty := fun _ h => .inl h
  attached := fun h => h
  pins_eq := rfl
  nextPin_le := Nat.le_refl _
  unpinFailed := fun _ _ h => h

theorem trans (h : Onward P keys pins s s') (h' : Onward P keys' pins' s' s'') :
    Onward P (keys' ++ keys) (pins' ++ pins) s s'' where
  files := h.files.trans h'.files
  distinct := h'.distinct
  capacity_eq := h'.capacity_eq.trans h.capacity_eq
  pinCount_eq := fun k => by
    rw [h'.pinCount_eq, h.pinCount_eq, List.count_append]
    omega
  frame?_eq := fun k hk => by
    refine (h'.frame?_eq k ?_).trans (h.frame?_eq k hk)
    rw [h.pinCount_eq]
    omega
  dirty := fun k hk => (h'.dirty k hk).elim (h.dirty k) .inr
  attached := fun hs => h'.attached (h.attached hs)
  pins_eq := by rw [h'.pins_eq, h.pins_eq, List.append_assoc]
  nextPin_le := Nat.le_trans h.nextPin_le h'.nextPin_le
  unpinFailed := fun page e he => h.unpinFailed page e (h'.unpinFailed page e he)

/-- Nothing was taken on the way. -/
theorem tidy (h : Onward P keys [] s s') (hs : s.Tidy) : s'.Tidy where
  files := h.files.sound hs.files
  distinct := h.distinct
  id_lt := by
    have hids : ∀ pin ∈ s'.held.map (·.pin), pin.id < s'.nextPin := by
      rw [h.pins_eq, List.nil_append, List.forall_mem_map]
      exact fun g hg => Nat.lt_of_lt_of_le (hs.id_lt g hg) h.nextPin_le
    exact List.forall_mem_map.mp hids

/-- Only the pool and the files have changed, and nothing that has a pin. -/
theorem of_pool (hfiles : s.files.Onward s'.files) (hdistinct : s'.pool.Distinct)
    (hcapacity : s'.pool.capacity = s.pool.capacity)
    (hpins : ∀ k, s'.pool.pinCount k = s.pool.pinCount k + keys.count k)
    (hframe? : ∀ k, s.pool.pinCount k ≠ 0 → s'.pool.frame? k = s.pool.frame? k)
    (hdirty : ∀ k, s'.pool.isDirty k = true → s.pool.isDirty k = true ∨ P k)
    (hattached : ∀ {gone}, s.Attached gone → s'.Attached gone)
    (hheld : s'.held = s.held) (hnext : s'.nextPin = s.nextPin) (hevents : s'.events = s.events) :
    Onward P keys [] s s' where
  files := hfiles
  distinct := hdistinct
  capacity_eq := hcapacity
  pinCount_eq := hpins
  frame?_eq := hframe?
  dirty := hdirty
  attached := hattached
  pins_eq := by rw [hheld, List.nil_append]
  nextPin_le := Nat.le_of_eq hnext.symm
  unpinFailed := fun page e he => by
    rw [← hevents]
    exact he

/-- The pool is as it was. -/
theorem of_files (hs : s.Tidy) {fs : Files} (hfiles : s.files.Onward fs) :
    Onward P [] [] s { s with files := fs } :=
  { Onward.refl hs with
    files := hfiles
    attached := fun h k f hframe => by
      show (fs.table.byHandle? k.file).isSome ∨ k.file ∈ _
      rw [hfiles.table_eq]
      exact h k f hframe }

/-- Something else was reported. -/
theorem report (hs : s.Tidy) (event : Event) (hevent : ∀ page e, event ≠ .unpinFailed page e) :
    Onward P [] [] s { s with events := event :: s.events } :=
  { Onward.refl hs with
    unpinFailed := fun page e he =>
      (List.mem_cons.mp he).resolve_left fun heq => hevent page e heq.symm }

end Onward

/-! ## Room for pins -/

/-- **Room for some more pins**: that many frames may be pinned, and every dirty page
can be written back. -/
structure Roomy (n : Nat) (s : Store) : Prop where
  room : s.pool.pinnedCount + n ≤ s.pool.capacity
  writable : ∀ k, s.pool.isDirty k = true → ¬s.Unwritable k

/-- **A file that cannot be extended**, because it would be too long. -/
def Full (file : Nat) (s : Store) : Prop :=
  ∀ o, s.files.table.byHandle? file = some o →
    Files.maxOffset < ((s.files.disk.image o.image).pages + 2) * blockSize

theorem Full.onward {file : Nat} (h : s.Full file) (honward : Onward P keys pins s s') :
    s'.Full file := by
  intro o ho
  rw [honward.files.table_eq] at ho
  refine Nat.lt_of_lt_of_le (h o ho) (Nat.mul_le_mul_right _ ?_)
  exact Nat.add_le_add_right (honward.files.pages_le _) _

theorem Roomy.mono {n m : Nat} (h : s.Roomy n) (hle : m ≤ n) : s.Roomy m :=
  ⟨Nat.le_trans (Nat.add_le_add_left hle _) h.room, h.writable⟩

/-- **What is pinned on the way takes its room**; what becomes dirty can be written
back. -/
theorem Roomy.onward {n : Nat} (h : s.Roomy (keys.length + n)) (hs : s.Tidy)
    (honward : Onward P keys pins s s') (hP : ∀ k, P k → ¬s.Unwritable k) :
    s'.Roomy n where
  room := by
    have hle := Pool.pinnedCount_le hs.distinct honward.distinct fun k hk => by
      rw [honward.pinCount_eq] at hk
      by_cases hmem : k ∈ keys
      · exact .inr hmem
      · rw [List.count_eq_zero_of_not_mem hmem] at hk
        exact .inl hk
    have hroom := h.room
    rw [honward.capacity_eq]
    omega
  writable := fun k hk => by
    rw [Unwritable, honward.files.table_eq]
    exact (honward.dirty k hk).elim (h.writable k) (hP k)

/-! ## Writing back -/

/-- A page that cannot be written in its file cannot be written back. -/
theorem unwritable_of_unreachable {e : Fault FileError}
    (h : s.files.Unreachable k.file (k.page + 1) e) : s.Unwritable k := by
  have hlimit : Files.maxOffset < wordLimit := by decide
  cases e with
  | error fe => exact h
  | overrun w => exact .inr (Nat.lt_of_lt_of_le hlimit h)

namespace Tidy

/-- **A page is written back**, which no pin notices, unless it cannot be. -/
theorem ends_flushPage (hs : s.Tidy) (k : PageKey) :
    Ends (flushPage k) s
      (fun _ s' => Onward P [] [] s s' ∧ s.pool.Cleaned s'.pool ∧ s'.pool.isDirty k = false)
      (fun _ s' => s' = s ∧ s.pool.isDirty k = true ∧ s.Unwritable k) := by
  unfold flushPage
  rw [ends_bind, ends_get]
  cases hfind : s.pool.find? k with
  | none =>
    refine ends_pure.mpr ⟨.refl hs, .refl _, ?_⟩
    rw [Pool.isDirty, hfind, Option.any_none]
  | some e =>
    have hdirty := Pool.isDirty_of_find? hfind
    rw [ends_ite]
    refine ⟨fun htrue => ?_, fun hfalse => ends_pure.mpr ⟨.refl hs, .refl _, ?_⟩⟩
    · rw [ends_bind, ends_get, ends_bind, ends_onFiles]
      refine (Files.ends_writePage hs.files k.file k.page (s.frame e.frame)).imp ?_ ?_
      · rintro _ fs ⟨o, ho, rfl⟩
        rw [ends_modifyPool]
        have hclean := Pool.Cleaned.update hfind
        refine ⟨.of_pool (.putBlock (hs.files.lt_images ho) _ _) ?_ rfl ?_ ?_ ?_ ?_ rfl rfl rfl,
          hclean⟩
        · exact hs.distinct.update k fun _ => rfl
        · exact fun j => hclean.1.pinCount_eq j
        · exact fun j _ => hclean.1.frame?_eq j
        · intro j hj
          refine .inl ?_
          by_contra hnot
          have hfalse := hclean.1.isDirty_false (eq_false_of_ne_true hnot)
          exact Bool.noConfusion (hfalse.symm.trans hj)
        · exact fun h j f hframe => h j f ((hclean.1.frame?_eq j).symm.trans hframe)
      · rintro fe fs ⟨rfl, hfar⟩
        exact ⟨rfl, hdirty.trans htrue, unwritable_of_unreachable hfar⟩
    · rw [hdirty]
      exact eq_false_of_ne_true hfalse

/-- **Pages are written back** up to the first that cannot be. -/
theorem ends_flushPages (hs : s.Tidy) (keys : List PageKey) :
    Ends (flushPages keys) s
      (fun _ s' => Onward P [] [] s s' ∧ s.pool.Cleaned s'.pool)
      (fun _ s' => Onward P [] [] s s' ∧ ∃ k ∈ keys, s.pool.isDirty k = true ∧ s.Unwritable k) := by
  unfold flushPages
  induction keys generalizing s with
  | nil => exact ends_pure.mpr ⟨.refl hs, .refl _⟩
  | cons k keys ih =>
    show Ends (do flushPage k; keys.forM flushPage) s _ _
    rw [ends_bind]
    refine (ends_flushPage (P := P) hs k).imp ?_ ?_
    · rintro _ s₁ ⟨honward, hclean, -⟩
      refine (ih (honward.tidy hs)).imp ?_ ?_
      · rintro _ s₂ ⟨honward', hclean'⟩
        exact ⟨honward.trans honward', hclean.trans hclean'⟩
      · rintro e s₂ ⟨honward', j, hj, hdirty, hfar⟩
        refine ⟨honward.trans honward', j, List.mem_cons_of_mem _ hj, ?_, ?_⟩
        · by_contra hnot
          have hfalse := hclean.isDirty_false (eq_false_of_ne_true hnot)
          exact Bool.noConfusion (hfalse.symm.trans hdirty)
        · rwa [Unwritable, honward.files.table_eq] at hfar
    · rintro e _ ⟨rfl, hdirty, hfar⟩
      exact ⟨.refl hs, k, List.mem_cons_self, hdirty, hfar⟩

/-- **The dirty pages of a file are written back**, which fails only if one cannot be or
the file is not open. -/
theorem ends_flushFile (hs : s.Tidy) (file : Nat) :
    Ends (flushFile file) s (fun _ s' => Onward P [] [] s s')
      (fun _ s' => Onward P [] [] s s' ∧ (s.files.table.byHandle? file = none ∨
        ∃ k, k.file = file ∧ s.pool.isDirty k = true ∧ s.Unwritable k)) := by
  unfold flushFile
  rw [ends_bind, ends_get, ends_bind]
  refine (ends_flushPages (P := P) hs _).imp ?_ ?_
  · rintro _ s' ⟨honward, -⟩
    rw [ends_onFiles, Files.ends_syncFile]
    refine ⟨fun _ => honward, fun hnone => ⟨honward, .inl ?_⟩⟩
    rw [← honward.files.table_eq]
    exact hnone
  · rintro e s' ⟨honward, k, hk, hdirty, hfar⟩
    obtain ⟨entry, hfind, hcond⟩ := (Pool.mem_keysWhere hs.distinct).mp hk
    simp only [Bool.and_eq_true, beq_iff_eq] at hcond
    refine ⟨honward, .inr ⟨k, ?_, hdirty, hfar⟩⟩
    rw [← (Pool.mem_of_find? hfind).2, hcond.1]

/-- **Every dirty page is written back** up to the first that cannot be. -/
theorem ends_flushAll (hs : s.Tidy) :
    Ends flushAll s (fun _ s' => Onward P [] [] s s') (fun _ s' => Onward P [] [] s s') := by
  unfold flushAll
  rw [ends_bind, ends_get, ends_bind]
  exact (ends_flushPages (P := P) hs _).imp (fun _ _ h => h.1) fun _ _ h => h.1

/-- A page is called dirty. -/
theorem ends_markDirty (hs : s.Tidy) (hk : P k) :
    Ends (markDirty k) s (fun _ s' => Onward P [] [] s s') (fun _ s' => Onward P [] [] s s') := by
  unfold markDirty
  rw [ends_bind, ends_get]
  cases hfind : s.pool.find? k with
  | none => exact .refl hs
  | some e =>
    have hkey : ∀ e : PoolEntry, { e with dirty := true }.key = e.key := fun _ => rfl
    rw [ends_modifyPool]
    refine .of_pool (.refl _) (hs.distinct.update k hkey) rfl (fun j => ?_) (fun j _ => ?_)
      (fun j hj => ?_) (fun h j f hframe => ?_) rfl rfl rfl
    · exact Pool.pinCount_update_of_pins hkey fun _ => rfl
    · exact Pool.frame?_update hkey fun _ => rfl
    · by_cases hjk : j = k
      · exact .inr (hjk ▸ hk)
      · rw [Pool.isDirty_update hkey hfind, if_neg hjk] at hj
        exact .inl hj
    · rw [Pool.frame?_update hkey fun _ => rfl] at hframe
      exact h j f hframe

/-! ## Making room -/

/-- **A page without a pin may be taken out.** -/
theorem erase (hs : s.Tidy) (hpins : s.pool.pinCount k = 0) :
    Onward P [] [] s { s with pool := s.pool.erase k } := by
  refine .of_pool (.refl _) (hs.distinct.erase k) rfl (fun j => ?_) (fun j hj => ?_) (fun j hj => ?_)
    (fun h j f hframe => ?_) rfl rfl rfl
  · rw [Pool.pinCount_erase]
    split
    · subst j
      exact hpins.symm
    · rfl
  · rw [Pool.frame?_erase, if_neg]
    rintro rfl
    exact hj hpins
  · rw [Pool.isDirty_erase] at hj
    split at hj
    · cases hj
    · exact .inl hj
  · rw [Pool.frame?_erase] at hframe
    split at hframe
    · cases hframe
    · exact h j f hframe

theorem ends_flushPage_erase (hs : s.Tidy) (hpins : s.pool.pinCount k = 0) :
    Ends (do flushPage k; modifyPool (·.erase k)) s
      (fun _ s' => Onward P [] [] s s' ∧ s'.pool.frame? k = none ∧
        ∀ j, s.pool.frame? j = none → s'.pool.frame? j = none)
      (fun _ s' => s' = s ∧ s.pool.isDirty k = true ∧ s.Unwritable k) := by
  rw [ends_bind]
  refine (ends_flushPage (P := P) hs k).imp ?_ fun _ _ h => h
  rintro _ s' ⟨honward, hclean, -⟩
  rw [ends_modifyPool]
  have hout : s'.pool.pinCount k = 0 := (hclean.pinCount_eq k).trans hpins
  refine ⟨honward.trans ((honward.tidy hs).erase hout), ?_, fun j hj => ?_⟩
  · exact Pool.frame?_erase.trans (if_pos rfl)
  · rw [Pool.frame?_erase, hclean.frame?_eq, hj, ite_self]

/-- Pages without a pin may be dropped one after the other. -/
theorem ends_forM_drop {ε : Type} (hs : s.Tidy) {keys : List PageKey}
    (hkeys : ∀ k ∈ keys, s.pool.pinCount k = 0) :
    Ends (keys.forM drop : StoreM ε Unit) s (fun _ s' => Onward P [] [] s s')
      (fun _ _ => False) := by
  induction keys generalizing s with
  | nil => exact ends_pure.mpr (.refl hs)
  | cons k keys ih =>
    show Ends (do drop k; keys.forM drop) s _ _
    have hdrop : Ends (drop k : StoreM ε Unit) s (fun _ s' => Onward P [] [] s s')
        (fun _ _ => False) := by
      unfold drop
      rw [ends_bind, ends_get]
      cases hfind : s.pool.find? k with
      | none => exact .refl hs
      | some e =>
        have hzero := hkeys k List.mem_cons_self
        have hpins : ¬e.pins > 0 := by
          rw [Pool.pinCount_of_find? hfind] at hzero
          omega
        rw [ends_bind, ends_modifyPool]
        exact ends_ite.mpr ⟨fun hpos => absurd hpos hpins, fun _ => hs.erase hzero⟩
    rw [ends_bind]
    refine hdrop.imp (fun _ s₁ honward => ?_) fun _ _ h => h
    refine (ih (honward.tidy hs) fun j hj => ?_).imp (fun _ _ honward' => honward.trans honward')
      fun _ _ h => h
    rw [honward.pinCount_eq, hkeys j (List.mem_cons_of_mem _ hj)]
    rfl

/-- **A file whose pages have no pins may be taken out of the pool.** -/
theorem ends_discardFile (hs : s.Tidy) {file : Nat}
    (hpins : ∀ k, k.file = file → s.pool.pinCount k = 0) :
    Ends (discardFile file) s (fun _ s' => Onward P [] [] s s')
      (fun _ s' => Onward P [] [] s s') := by
  unfold discardFile
  rw [ends_bind, ends_get, ends_bind]
  refine (ends_flushPages (P := P) hs _).imp ?_ fun _ _ h => h.1
  rintro _ s₁ ⟨honward, -⟩
  rw [ends_bind]
  refine (ends_forM_drop (P := P) (honward.tidy hs) fun k hk => ?_).imp ?_ fun _ _ h => h.elim
  · obtain ⟨e, hfind, hcond⟩ := (Pool.mem_keysWhere hs.distinct).mp hk
    have hfile : k.file = file := by
      rw [← (Pool.mem_of_find? hfind).2]
      exact beq_iff_eq.mp hcond
    rw [honward.pinCount_eq, hpins k hfile]
    rfl
  · intro _ s₂ honward'
    rw [ends_onFiles, Files.ends_syncFile]
    exact ⟨fun _ => honward.trans honward', fun _ => honward.trans honward'⟩

/-- **A page without a pin may be evicted**; one with a pin is kept. -/
theorem ends_evict (hs : s.Tidy) (k : PageKey) :
    Ends (evict k) s (fun _ s' => Onward P [] [] s s') (fun _ s' => Onward P [] [] s s') := by
  unfold evict
  rw [ends_bind, ends_get]
  cases hfind : s.pool.find? k with
  | none => exact .refl hs
  | some e =>
    refine ends_ite.mpr ⟨fun _ => .refl hs, fun hpins => ?_⟩
    have hzero : s.pool.pinCount k = 0 :=
      (Pool.pinCount_of_find? hfind).trans (Nat.eq_zero_of_not_pos hpins)
    have hout := ends_flushPage_erase (P := P) hs hzero
    rw [ends_bind] at hout ⊢
    refine hout.imp (fun _ _ h => h.1) ?_
    rintro _ _ ⟨rfl, -⟩
    exact .refl hs

/-- **Room is made without touching a pin**, and there is a page to evict as long as
one frame is not pinned and every dirty page can be written back. -/
theorem ends_makeRoom (hs : s.Tidy) :
    Ends makeRoom s
      (fun _ s' => Onward P [] [] s s' ∧ ∀ j, s.pool.frame? j = none → s'.pool.frame? j = none)
      (fun _ s' => s' = s ∧ ¬s.Roomy 1) := by
  unfold makeRoom
  rw [ends_bind, ends_get, ends_ite]
  refine ⟨fun hfull => ?_, fun _ => ends_pure.mpr ⟨.refl hs, fun _ h => h⟩⟩
  unfold evictOldest
  rw [ends_bind, ends_get]
  cases hvictim : s.pool.victim? with
  | none =>
    refine ⟨rfl, fun hroomy => ?_⟩
    have hpinned := Pool.size_le_pinnedCount hvictim
    have hroom := hroomy.room
    omega
  | some k =>
    obtain ⟨e, hfind, hpins⟩ := Pool.find?_of_victim? hs.distinct hvictim
    have hzero := (Pool.pinCount_of_find? hfind).trans hpins
    refine (ends_flushPage_erase (P := P) hs hzero).imp ?_ ?_
    · rintro _ s' ⟨honward, -, hout⟩
      exact ⟨honward, hout⟩
    · rintro _ _ ⟨rfl, hdirty, hfar⟩
      exact ⟨rfl, fun hroomy => hroomy.writable k hdirty hfar⟩

/-! ## Pinning a page -/

/-- A page enters the pool, or a page that is in it is used again. -/
theorem use (hs : s.Tidy) {e : PoolEntry} (keys : List PageKey)
    (hpins : e.pins = s.pool.pinCount e.key + keys.count e.key)
    (hother : ∀ k, k ≠ e.key → keys.count k = 0)
    (hframe : s.pool.pinCount e.key ≠ 0 → s.pool.frame? e.key = some e.frame)
    (hdirty : e.dirty = true → s.pool.isDirty e.key = true ∨ P e.key)
    (hopen : ∀ {gone}, s.Attached gone →
      (s.files.table.byHandle? e.key.file).isSome ∨ e.key.file ∈ gone) (frames : Array Block) :
    Onward P keys [] s { s with frames, pool := s.pool.use e } := by
  refine .of_pool (.refl _) (hs.distinct.use e) rfl (fun j => ?_) (fun j hj => ?_) (fun j hj => ?_)
    (fun h j f hframe => ?_) rfl rfl rfl
  · rw [Pool.pinCount_use]
    by_cases hjk : j = e.key
    · rw [if_pos hjk, hjk, hpins]
    · rw [if_neg hjk, hother j hjk, Nat.add_zero]
  · rw [Pool.frame?_use]
    by_cases hjk : j = e.key
    · subst hjk
      rw [if_pos rfl, hframe hj]
    · rw [if_neg hjk]
  · rw [Pool.isDirty_use] at hj
    by_cases hjk : j = e.key
    · subst hjk
      rw [if_pos rfl] at hj
      exact hdirty hj
    · rw [if_neg hjk] at hj
      exact .inl hj
  · rw [Pool.frame?_use] at hframe
    by_cases hjk : j = e.key
    · subst hjk
      exact hopen h
    · rw [if_neg hjk] at hframe
      exact h j f hframe

/-- **A page is read into the pool** as long as there is room and it can be
reached. -/
theorem ends_load (hs : s.Tidy) (hnone : s.pool.frame? k = none) :
    Ends (load k) s
      (fun _ s' => Onward P [] [] s s' ∧ ∃ e, s'.pool.find? k = some e)
      (fun _ s' => Onward P [] [] s s' ∧ (¬s.Roomy 1 ∨ s.Unwritable k)) := by
  unfold load
  rw [ends_bind]
  refine (ends_makeRoom (P := P) hs).imp ?_ ?_
  · rintro _ s₁ ⟨honward, hout⟩
    have hs₁ := honward.tidy hs
    rw [ends_bind, ends_onFiles]
    refine (Files.ends_readPage s₁.files k.file k.page).imp ?_ ?_
    · rintro b fs ⟨rfl, -, o, ho, -⟩
      rw [ends_bind, ends_newFrame, ends_modifyPool]
      have hzero : s₁.pool.pinCount k = 0 := Pool.pinCount_of_frame?_none (hout k hnone)
      refine ⟨honward.trans (hs₁.use [] hzero.symm (fun _ _ => rfl)
        (fun hne => absurd hzero hne) (fun htrue => absurd htrue Bool.false_ne_true)
        (fun _ => .inl (Option.isSome_of_eq_some ho)) _), _,
        Pool.find?_use.trans (if_pos rfl)⟩
    · rintro e fs ⟨rfl, hfar⟩
      refine ⟨honward, .inr ?_⟩
      have hfar' : s₁.Unwritable k := unwritable_of_unreachable hfar
      rwa [Unwritable, honward.files.table_eq] at hfar'
  · rintro e _ ⟨rfl, hcrowded⟩
    exact ⟨.refl hs, .inl hcrowded⟩

theorem ends_fetch_of_find? (hs : s.Tidy) {e : PoolEntry} (hfind : s.pool.find? k = some e) :
    Ends (fetch k) s
      (fun f s' => Onward P [k] [] s s' ∧ s'.pool.frame? k = some f) (fun _ _ => False) := by
  obtain ⟨-, rfl⟩ := Pool.mem_of_find? hfind
  have hframe := Pool.frame?_of_find? hfind
  have hcontains : s.pool.contains e.key = true := by rw [Pool.contains, hfind]; rfl
  unfold fetch
  rw [ends_bind, ends_get, hcontains]
  refine ends_bind.mpr (ends_get.mpr ?_)
  rw [hfind]
  refine ⟨hs.use (e := { e with pins := e.pins + 1 }) [e.key] ?_ (fun j hj => ?_)
    (fun _ => hframe)
    (fun hdirty => .inl ((Pool.isDirty_of_find? hfind).trans hdirty)) (fun h => h _ _ hframe)
    s.frames, ?_⟩
  · rw [Pool.pinCount_of_find? hfind, List.count_singleton_self]
  · exact List.count_eq_zero_of_not_mem fun hmem => hj (List.mem_singleton.mp hmem)
  · exact Pool.frame?_use.trans (if_pos rfl)

/-- **A page is pinned** as long as there is room and it can be reached. -/
theorem ends_fetch (hs : s.Tidy) (k : PageKey) :
    Ends (fetch k) s
      (fun f s' => Onward P [k] [] s s' ∧ s'.pool.frame? k = some f)
      (fun _ s' => Onward P [] [] s s' ∧ (¬s.Roomy 1 ∨ s.Unwritable k)) := by
  cases hfind : s.pool.find? k with
  | some e => exact (ends_fetch_of_find? hs hfind).imp (fun _ _ h => h) fun _ _ h => h.elim
  | none =>
    have hcontains : s.pool.contains k = false := by rw [Pool.contains, hfind]; rfl
    unfold fetch
    rw [ends_bind, ends_get, hcontains]
    refine ends_bind.mpr ((ends_load (P := P) hs (Pool.frame?_eq_none_iff.mpr hfind)).imp ?_
      fun _ _ h => h)
    rintro _ s₁ ⟨honward, e, hfind₁⟩
    -- what is left to do is what a fetch of the loaded page does
    have hcontains₁ : s₁.pool.contains k = true := by rw [Pool.contains, hfind₁]; rfl
    have hhit := ends_fetch_of_find? (P := P) (honward.tidy hs) hfind₁
    unfold fetch at hhit
    rw [ends_bind, ends_get, hcontains₁] at hhit
    refine hhit.imp ?_ fun _ _ h => h.elim
    rintro f s₂ ⟨honward₂, hframe?⟩
    exact ⟨honward.trans honward₂, hframe?⟩

/-- **A file is extended by a page, which is pinned**, as long as there is room and
the file is not too long. The page is behind every page of the file with a pin. -/
theorem ends_newPage (hs : s.Tidy) {file : Nat}
    (hinside : ∀ o, s.files.table.byHandle? file = some o → ∀ page,
      s.pool.pinCount ⟨file, page⟩ ≠ 0 → page < (s.files.disk.image o.image).pages)
    (hP : ∀ page, (page + 2) * blockSize ≤ Files.maxOffset → P ⟨file, page⟩) :
    Ends (newPage file) s
      (fun r s' => ∃ o, s.files.table.byHandle? file = some o ∧ r.1.file = file ∧
        (s'.files.disk.image o.image).pages = r.1.page + 1 ∧
        (r.1.page + 2) * blockSize ≤ Files.maxOffset ∧
        Onward P [r.1] [] s s' ∧ s'.pool.frame? r.1 = some r.2)
      (fun _ s' => Onward P [] [] s s' ∧ (s.Roomy 1 → s'.Full file)) := by
  unfold newPage
  rw [ends_bind]
  refine (ends_makeRoom (P := P) hs).imp ?_ ?_
  · rintro _ s₁ ⟨honward, -⟩
    have hs₁ := honward.tidy hs
    rw [ends_bind, ends_onFiles]
    refine (Files.ends_allocatePage s₁.files file).imp ?_ ?_
    · rintro p fs ⟨o, ho, rfl, hnear, rfl⟩
      set p := (s₁.files.disk.image o.image).pages with hp
      set img := (s₁.files.disk.image o.image).setSize ((p + 2) * blockSize) with himg
      have hi := hs₁.files.lt_images ho
      have ho' : s.files.table.byHandle? file = some o := by
        rw [← honward.files.table_eq]
        exact ho
      have hgrown : s₁.files.Onward (s₁.files.putImage o.image img) := .grow hi
      have honward₂ : Onward P [] [] s₁ { s₁ with files := s₁.files.putImage o.image img } :=
        .of_files hs₁ hgrown
      -- a page behind the end has no pin
      have hzero : s₁.pool.pinCount ⟨file, p⟩ = 0 := by
        rw [honward.pinCount_eq, List.count_nil, Nat.add_zero]
        by_contra hne
        exact Nat.not_lt.2 (honward.files.pages_le o.image) (hinside o ho' p hne)
      rw [ends_bind, ends_newFrame, ends_bind, ends_modifyPool, ends_bind, ends_report]
      have hused := (honward₂.tidy hs₁).use (P := P)
        (e := ⟨⟨file, p⟩, s₁.frames.size, true, 1⟩) [⟨file, p⟩]
        (by rw [List.count_singleton_self]; exact congrArg (· + 1) hzero.symm)
        (fun k hk => List.count_eq_zero_of_not_mem fun hmem => hk (List.mem_singleton.mp hmem))
        (fun hne => absurd hzero hne) (fun _ => .inr (hP p hnear))
        (fun _ => .inl (Option.isSome_of_eq_some ho)) (s₁.frames.push (Buffer.zero blockSize))
      refine ⟨o, ho', rfl, ?_, hnear, ?_, Pool.frame?_use.trans (if_pos rfl)⟩
      · show ((s₁.files.disk.setImage o.image img).image o.image).pages = p + 1
        rw [Disk.image_setImage img hi, if_pos rfl]
        exact Image.pages_setSize _ _
      · have hpinned := (honward.trans honward₂).trans hused
        exact { hpinned with
          unpinFailed := fun page e he =>
            hpinned.unpinFailed page e ((List.mem_cons.mp he).resolve_left nofun) }
    · rintro e fs ⟨rfl, -, hfar⟩
      exact ⟨honward, fun _ => hfar⟩
  · rintro e _ ⟨rfl, hcrowded⟩
    exact ⟨.refl hs, fun hroomy => absurd hroomy hcrowded⟩

end Tidy

end Store

end SlottedFile
