import SlottedFile.Proofs.Pool.NewPages

/-!
# The order of the last uses

A pool shows its pages in the order in which they were last used, and a use is a call that
gave out a pin: a page that was fetched, or a new one. Nothing else moves a page
(`Store.ends_run_order`); pages only leave. So the order can be read off the calls that returned
(`lastUses`), whatever was done to the pool besides.

A call that needs a frame makes room first, and all that can be said of it follows from how
room is made: there is a frame left, or the page goes that has no pin and whose last use is the
oldest, or every page has a pin and the call is refused. What the call does afterwards – it
reads the page, or has the file grow – may fail as well, but never for want of a frame.

The run that is considered (`PoolCourse`) is that of any calls, by callers who keep to no rule.
What happens between two calls is left open as long as nobody touches the pool behind its back.
-/

namespace SlottedFile

/-! ## The pages of a pool in their order -/

namespace Pool

variable {p : Pool} {e : PoolEntry} {j k v : PageKey}

/-- The buffered pages, the most recently used one first. -/
def keys (p : Pool) : List PageKey := p.entries.map (·.key)

theorem size_eq_length_keys : p.size = p.keys.length := (List.length_map _).symm

theorem mem_keys : k ∈ p.keys ↔ p.contains k = true := by
  unfold keys contains find?
  rw [List.mem_map, List.find?_isSome]
  simp only [beq_iff_eq]

theorem keys_erase : (p.erase k).keys = p.keys.filter (· != k) := by
  unfold erase keys
  rw [List.filter_map]
  rfl

theorem keys_use : (p.use e).keys = e.key :: p.keys.filter (· != e.key) :=
  congrArg (e.key :: ·) keys_erase

/-- A change of an entry moves no page. -/
theorem keys_update {f : PoolEntry → PoolEntry} (hf : ∀ e, (f e).key = e.key) :
    (p.update k f).keys = p.keys := by
  unfold update keys
  rw [List.map_map]
  refine List.map_congr_left fun e _ => ?_
  rw [Function.comp_apply]
  split
  · exact hf e
  · rfl

/-- A page that is not buffered cannot leave. -/
theorem keys_filter_of_find? (h : p.find? k = none) : p.keys.filter (· != k) = p.keys := by
  refine List.filter_eq_self.mpr fun j hj => bne_iff_ne.mpr ?_
  rintro rfl
  rw [mem_keys, contains, h] at hj
  cases hj

theorem keysWhere_key (cond : PageKey → Bool) :
    p.keysWhere (fun e => cond e.key) = p.keys.filter cond := by
  unfold keysWhere keys
  rw [List.filter_map]
  rfl

/-- To use a page a second time changes its entry. -/
theorem use_use {e' : PoolEntry} (h : e.key = e'.key) : (p.use e).use e' = p.use e' := by
  unfold use erase
  simp [h, List.filter_filter]

/-- **Every frame holds a page with a pin.** -/
def Crowded (p : Pool) : Prop := p.size = p.capacity ∧ ∀ k ∈ p.keys, p.pinCount k ≠ 0

/-- **The page whose last use is the oldest**, of those without a pin. -/
def Oldest (p : Pool) (v : PageKey) : Prop :=
  ∃ newer older, p.keys = newer ++ v :: older ∧ p.pinCount v = 0 ∧ ∀ k ∈ older, p.pinCount k ≠ 0

theorem Oldest.mem (h : p.Oldest v) : v ∈ p.keys := by
  obtain ⟨newer, older, hkeys, -, -⟩ := h
  rw [hkeys]
  exact List.mem_append_right _ List.mem_cons_self

theorem victim?_eq_none_iff (hp : p.Distinct) :
    p.victim? = none ↔ ∀ k ∈ p.keys, p.pinCount k ≠ 0 := by
  unfold victim? keys
  rw [Option.map_eq_none_iff, List.find?_eq_none, List.forall_mem_map]
  refine forall_congr' fun e => ?_
  rw [List.mem_reverse]
  refine imp_congr_right fun hmem => ?_
  rw [pinCount_of_find? (find?_of_mem hp hmem), beq_iff_eq]

/-- **The page to evict is the one whose last use is the oldest.** -/
theorem oldest_of_victim? (hp : p.Distinct) (h : p.victim? = some v) : p.Oldest v := by
  obtain ⟨e, hfind, rfl⟩ := Option.map_eq_some_iff.mp h
  obtain ⟨hpins, older, newer, hentries, holder⟩ := List.find?_eq_some_iff_append.mp hfind
  have hsplit : p.entries = newer.reverse ++ e :: older.reverse := by
    rw [← List.reverse_reverse p.entries, hentries]
    simp
  have hpin : ∀ x ∈ p.entries, p.pinCount x.key = x.pins := fun x hx =>
    pinCount_of_find? (find?_of_mem hp hx)
  refine ⟨newer.reverse.map (·.key), older.reverse.map (·.key), ?_, ?_, ?_⟩
  · rw [keys, hsplit, List.map_append, List.map_cons]
  · rw [hpin e (by rw [hsplit]; exact List.mem_append_right _ List.mem_cons_self)]
    exact beq_iff_eq.mp hpins
  · rw [List.forall_mem_map]
    intro x hx
    rw [hpin x (by rw [hsplit]; exact List.mem_append_right _ (List.mem_cons_of_mem _ hx))]
    simpa using holder x (List.mem_reverse.mp hx)

/-- **A pool of as many frames in which some pages are left.** -/
structure Left (p : Pool) (keys : List PageKey) (p' : Pool) : Prop where
  keys_eq : p'.keys = keys
  capacity_eq : p'.capacity = p.capacity

namespace Left

variable {p' p'' : Pool} {keys keys' : List PageKey}

theorem refl (p : Pool) : p.Left p.keys p := ⟨rfl, rfl⟩

theorem trans (h : p.Left keys p') (h' : p'.Left keys' p'') : p.Left keys' p'' :=
  ⟨h'.keys_eq, h'.capacity_eq.trans h.capacity_eq⟩

theorem update {f : PoolEntry → PoolEntry} (hf : ∀ e, (f e).key = e.key) :
    p.Left p.keys (p.update k f) :=
  ⟨keys_update hf, rfl⟩

theorem use (hk : e.key = k) : p.Left (k :: p.keys.filter (· != k)) (p.use e) :=
  ⟨hk ▸ keys_use, rfl⟩

theorem erase : p.Left (p.keys.filter (· != k)) (p.erase k) := ⟨keys_erase, rfl⟩

/-- **A page that leaves, leaves a frame.** -/
theorem size_lt (h : p.Left (p.keys.filter (· != k)) p') (hk : k ∈ p.keys)
    (hsize : p.size ≤ p.capacity) : p'.size < p'.capacity := by
  have hfewer : (p.keys.filter (· != k)).length < p.keys.length :=
    List.length_filter_lt_length_iff_exists.mpr ⟨k, hk, by simp⟩
  rw [size_eq_length_keys, h.keys_eq, h.capacity_eq]
  exact Nat.lt_of_lt_of_le hfewer (size_eq_length_keys ▸ hsize)

end Left

end Pool

/-! ## Why the files refuse something -/

/-- **A failure for want of a frame.** -/
def WantOfFrame (e : Fault FileError) : Prop := ∃ n, e = .error (.bufferPoolFull n)

namespace Files

variable {fs : Files} {h : Nat}

/-- The files know nothing of frames. -/
theorem ends_readPage_reason (p : Nat) :
    Ends (readPage h p blockSize) fs (fun _ _ => True) (fun e _ => ¬WantOfFrame e) := by
  unfold readPage readBlock blockOffset
  rw [ends_bind, ends_pageBlock]
  refine ⟨fun _ => ?_, fun _ => nofun⟩
  rw [dif_pos rfl, ends_bind, ends_opened]
  refine ⟨fun o _ => ?_, fun _ => nofun⟩
  rw [ends_bind, ends_checkWord]
  refine ⟨fun _ => ?_, fun _ => nofun⟩
  rw [ends_ite]
  exact ⟨fun _ => nofun, fun _ => trivial⟩

theorem ends_setSize_reason (o : OpenFile) (size : Nat) :
    Ends (setSize o size) fs (fun _ _ => True) (fun e _ => ¬WantOfFrame e) :=
  ends_setSize.mpr ⟨fun _ => trivial, fun _ => nofun⟩

theorem ends_writePage_reason (p : Nat) (b : Block) :
    Ends (writePage h p b) fs (fun _ _ => True) (fun e _ => ¬WantOfFrame e) := by
  unfold writePage writeBlock blockOffset
  rw [ends_bind, ends_pageBlock]
  refine ⟨fun _ => ?_, fun _ => nofun⟩
  rw [dif_pos rfl, ends_bind, ends_opened]
  refine ⟨fun o _ => ?_, fun _ => nofun⟩
  rw [ends_bind, ends_checkWord]
  refine ⟨fun _ => ?_, fun _ => nofun⟩
  rw [ends_bind, ends_checkWord]
  refine ⟨fun _ => ?_, fun _ => nofun⟩
  rw [ends_bind, ends_image, ends_ite]
  refine ⟨fun _ => ?_, fun _ => ?_⟩
  · rw [ends_bind, ends_setSize]
    refine ⟨fun _ => ?_, fun _ => nofun⟩
    exact ends_ite.mpr ⟨fun _ => ends_bind.mpr (ends_fail.mpr nofun), fun _ => trivial⟩
  · exact ends_ite.mpr ⟨fun _ => ends_bind.mpr (ends_fail.mpr nofun), fun _ => trivial⟩

theorem ends_allocatePage_reason :
    Ends (allocatePage h) fs (fun _ _ => True) (fun e _ => ¬WantOfFrame e) := by
  unfold allocatePage
  rw [ends_bind, ends_pageCount]
  refine ⟨fun o _ => ?_, fun _ => nofun⟩
  rw [ends_bind, ends_opened]
  refine ⟨fun o _ => ?_, fun _ => nofun⟩
  rw [ends_bind, ends_checkWord]
  refine ⟨fun _ => ?_, fun _ => nofun⟩
  rw [ends_bind]
  exact (ends_setSize_reason o _).imp (fun _ _ _ => trivial) fun _ _ h => h

/-- **A file that takes a page.** It is open, and with the page in it no longer than a file can
be, or than it is already. -/
def Takes (fs : Files) (h p : Nat) : Prop :=
  ∃ o, fs.table.byHandle? h = some o ∧ (p + 1) * blockSize ≤ maxOffset ∧
    ((p + 2) * blockSize ≤ maxOffset ∨ (p + 2) * blockSize ≤ (fs.disk.image o.image).size)

/-- A page is written if its file takes it, and only then. -/
theorem ends_writePage_takes (p : Nat) (b : Block) :
    Ends (writePage h p b) fs (fun _ _ => fs.Takes h p) (fun _ _ => ¬fs.Takes h p) := by
  have hlimit : maxOffset + blockSize < wordLimit := by decide
  have hend : (p + 2) * blockSize = (p + 1) * blockSize + blockSize := Nat.succ_mul _ _
  have hpage : p + 1 ≤ (p + 1) * blockSize := Nat.le_mul_of_pos_right _ (by decide)
  have hfar : maxOffset < (p + 1) * blockSize → ¬fs.Takes h p := fun hlt ⟨_, _, hle, _⟩ =>
    Nat.not_le.mpr hlt hle
  unfold writePage writeBlock blockOffset
  rw [ends_bind, ends_pageBlock]
  refine ⟨fun _ => ?_, fun hword => hfar (by omega)⟩
  rw [dif_pos rfl, ends_bind, ends_opened]
  refine ⟨fun o ho => ?_, fun hnone ⟨o, ho, _⟩ => nomatch hnone.symm.trans ho⟩
  rw [ends_bind, ends_checkWord]
  refine ⟨fun _ => ?_, fun hword => hfar (by omega)⟩
  rw [ends_bind, ends_checkWord]
  refine ⟨fun _ => ?_, fun hword => hfar (by omega)⟩
  rw [ends_bind, ends_image, ends_ite]
  refine ⟨fun hsize => ?_, fun hsize => ?_⟩
  · rw [ends_bind, ends_setSize]
    refine ⟨fun hle => ?_, ?_⟩
    · exact ends_ite.mpr ⟨fun hlt => absurd hlt (by omega),
        fun _ => ⟨o, ho, by omega, .inl (by omega)⟩⟩
    · rintro hlt ⟨o', ho', -, hle⟩
      obtain rfl : o' = o := Option.some.inj (ho'.symm.trans ho)
      omega
  · exact ends_ite.mpr ⟨hfar, fun hle => ⟨o, ho, Nat.not_lt.mp hle, .inr (by omega)⟩⟩

end Files

/-! ## What moves a page -/

namespace Store

variable {s s' : Store} {j k v : PageKey}

/-- **Writing back moves no page** and changes no entry but the one of the page that is
written. -/
theorem ends_flushPage_order (k : PageKey) :
    Ends (flushPage k) s
      (fun _ s' => s.pool.Left s.pool.keys s'.pool ∧
        ∀ j, j ≠ k → s'.pool.find? j = s.pool.find? j)
      (fun e s' => s'.pool = s.pool ∧ ¬WantOfFrame e) := by
  unfold flushPage
  rw [ends_bind, ends_get]
  cases s.pool.find? k with
  | none => exact ends_pure.mpr ⟨.refl _, fun _ _ => rfl⟩
  | some e =>
    rw [ends_ite]
    refine ⟨fun _ => ?_, fun _ => ends_pure.mpr ⟨.refl _, fun _ _ => rfl⟩⟩
    rw [ends_bind, ends_get, ends_bind, ends_onFiles]
    refine (Files.ends_writePage_reason k.page (s.frame e.frame)).imp ?_ ?_
    · intro _ fs _
      rw [ends_modifyPool]
      refine ⟨.update fun _ => rfl, fun j hj => ?_⟩
      exact (Pool.find?_update (f := fun e => { e with dirty := false }) fun _ => rfl).trans
        (if_neg hj)
    · exact fun _ _ hreason => ⟨rfl, hreason⟩

/-- **A page that cannot be written back.** It is dirty, and its file has been closed, or the
page ends further out than a file can, and further out than its own. -/
structure Stuck (s : Store) (k : PageKey) : Prop where
  dirty : s.pool.isDirty k = true
  unwritable : s.Unwritable k
  beyond : ∀ o, s.files.table.byHandle? k.file = some o →
    Files.maxOffset < (k.page + 1) * blockSize ∨
      (s.files.disk.image o.image).size < (k.page + 2) * blockSize

theorem stuck_iff :
    s.Stuck k ↔ s.pool.isDirty k = true ∧ ¬s.files.Takes k.file k.page := by
  constructor
  · rintro ⟨hdirty, hfar, hbeyond⟩
    refine ⟨hdirty, ?_⟩
    rintro ⟨o, ho, hbegin, hend⟩
    rcases hfar with hnone | hlt
    · exact nomatch hnone.symm.trans ho
    · have := hbeyond o ho
      omega
  · rintro ⟨hdirty, hnot⟩
    refine ⟨hdirty, ?_, fun o ho => ?_⟩
    · cases ho : s.files.table.byHandle? k.file with
      | none => exact .inl ho
      | some o =>
        refine .inr (Nat.lt_of_not_le fun hle => hnot ⟨o, ho, ?_, .inl hle⟩)
        exact Nat.le_trans (Nat.mul_le_mul_right _ (Nat.le_succ _)) hle
    · by_contra hneither
      obtain ⟨hbegin, hend⟩ := not_or.mp hneither
      exact hnot ⟨o, ho, Nat.not_lt.mp hbegin, .inr (Nat.not_lt.mp hend)⟩

/-- **Writing a page back fails if and only if it cannot be written back.** -/
theorem ends_flushPage_stuck (k : PageKey) :
    Ends (flushPage k) s (fun _ _ => ¬s.Stuck k) (fun _ _ => s.Stuck k) := by
  unfold flushPage
  rw [ends_bind, ends_get]
  cases hfind : s.pool.find? k with
  | none =>
    refine ends_pure.mpr fun hstuck => ?_
    have hdirty := hstuck.dirty
    rw [Pool.isDirty, hfind] at hdirty
    cases hdirty
  | some e =>
    have hdirty := Pool.isDirty_of_find? hfind
    rw [ends_ite]
    refine ⟨fun htrue => ?_, fun hfalse => ends_pure.mpr fun hstuck => ?_⟩
    · rw [ends_bind, ends_get, ends_bind, ends_onFiles]
      refine (Files.ends_writePage_takes k.page (s.frame e.frame)).imp ?_ ?_
      · exact fun _ _ htakes hstuck => (stuck_iff.mp hstuck).2 htakes
      · exact fun _ _ hnot => stuck_iff.mpr ⟨hdirty.trans htrue, hnot⟩
    · exact hfalse (hdirty.symm.trans hstuck.dirty)

theorem ends_flushPages_order (keys : List PageKey) :
    Ends (flushPages keys) s (fun _ s' => s.pool.Left s.pool.keys s'.pool)
      (fun _ s' => s.pool.Left s.pool.keys s'.pool) := by
  unfold flushPages
  induction keys generalizing s with
  | nil => exact ends_pure.mpr (.refl _)
  | cons k keys ih =>
    show Ends (do flushPage k; keys.forM flushPage) s _ _
    rw [ends_bind]
    refine (ends_flushPage_order k).imp ?_ ?_
    · rintro _ s₁ ⟨hleft, -⟩
      refine ih.imp (fun _ _ h => ?_) fun _ _ h => ?_ <;>
        exact hleft.trans (hleft.keys_eq ▸ h)
    · rintro _ s₁ ⟨hpool, -⟩
      rw [hpool]
      exact .refl _

theorem ends_flushFile_order (file : Nat) :
    Ends (flushFile file) s (fun _ s' => s.pool.Left s.pool.keys s'.pool)
      (fun _ s' => s.pool.Left s.pool.keys s'.pool) := by
  unfold flushFile
  rw [ends_bind, ends_get, ends_bind]
  refine (ends_flushPages_order _).imp (fun _ s' hleft => ?_) fun _ _ h => h
  rw [ends_onFiles, Files.ends_syncFile]
  exact ⟨fun _ => hleft, fun _ => hleft⟩

theorem ends_flushAll_order :
    Ends flushAll s (fun _ s' => s.pool.Left s.pool.keys s'.pool)
      (fun _ s' => s.pool.Left s.pool.keys s'.pool) := by
  unfold flushAll
  rw [ends_bind, ends_get, ends_bind]
  exact (ends_flushPages_order _).imp (fun _ _ h => h) fun _ _ h => h

theorem ends_unpin_order (k : PageKey) (dirty : Bool) :
    Ends (unpin k dirty) s (fun _ s' => s.pool.Left s.pool.keys s'.pool)
      (fun _ s' => s.pool.Left s.pool.keys s'.pool) := by
  unfold unpin
  rw [ends_bind, ends_get]
  cases s.pool.find? k with
  | none => exact .refl _
  | some e => exact ends_ite.mpr ⟨fun _ => .refl _, fun _ => .update fun _ => rfl⟩

theorem ends_markDirty_order (k : PageKey) :
    Ends (markDirty k) s (fun _ s' => s.pool.Left s.pool.keys s'.pool)
      (fun _ s' => s.pool.Left s.pool.keys s'.pool) := by
  unfold markDirty
  rw [ends_bind, ends_get]
  cases s.pool.find? k with
  | none => exact .refl _
  | some e => exact .update fun _ => rfl

/-- A page that is buffered comes to the front. -/
theorem ends_fetch_hit (hk : s.pool.contains k = true) :
    Ends (fetch k) s (fun _ s' => s.pool.Left (k :: s.pool.keys.filter (· != k)) s'.pool)
      (fun _ _ => False) := by
  obtain ⟨e, hfind⟩ := Option.isSome_iff_exists.mp hk
  obtain ⟨-, rfl⟩ := Pool.mem_of_find? hfind
  unfold fetch
  rw [ends_bind, ends_get, hk]
  refine ends_bind.mpr (ends_get.mpr ?_)
  rw [hfind]
  exact ends_bind.mpr (ends_modifyPool.mpr (.use rfl))

theorem ends_evict_order (k : PageKey) :
    Ends (evict k) s
      (fun out s' => s.pool.Left
        (if out then s.pool.keys.filter (· != k) else s.pool.keys) s'.pool)
      (fun _ s' => s.pool.Left s.pool.keys s'.pool) := by
  unfold evict
  rw [ends_bind, ends_get]
  cases hfind : s.pool.find? k with
  | none =>
    exact ⟨(Pool.keys_filter_of_find? hfind).symm, rfl⟩
  | some e =>
    refine ends_ite.mpr ⟨fun _ => .refl _, fun _ => ?_⟩
    rw [ends_bind]
    refine (ends_flushPage_order k).imp ?_ ?_
    · rintro _ s₁ ⟨hleft, -⟩
      rw [ends_bind, ends_modifyPool]
      refine hleft.trans ?_
      rw [← hleft.keys_eq]
      exact .erase
    · rintro _ s₁ ⟨hpool, -⟩
      rw [hpool]
      exact .refl _

theorem ends_drop_order {ε : Type} (k : PageKey) :
    Ends (drop k : StoreM ε Unit) s
      (fun _ s' => s.pool.Left (s.pool.keys.filter (· != k)) s'.pool) (fun _ _ => False) := by
  unfold drop
  rw [ends_bind, ends_get]
  cases hfind : s.pool.find? k with
  | none => exact ⟨(Pool.keys_filter_of_find? hfind).symm, rfl⟩
  | some e =>
    rw [ends_bind, ends_modifyPool, ends_ite]
    exact ⟨fun _ => .erase, fun _ => .erase⟩

theorem ends_forM_drop_order {ε : Type} (keys : List PageKey) :
    Ends (keys.forM drop : StoreM ε Unit) s
      (fun _ s' => s.pool.Left (s.pool.keys.filter (· ∉ keys)) s'.pool) (fun _ _ => False) := by
  induction keys generalizing s with
  | nil => exact ends_pure.mpr ⟨(List.filter_eq_self.mpr fun _ _ => by simp).symm, rfl⟩
  | cons k keys ih =>
    show Ends (do drop k; keys.forM drop) s _ _
    rw [ends_bind]
    refine (ends_drop_order k).imp (fun _ s₁ hfirst => ?_) fun _ _ h => h
    refine ih.imp (fun _ s₂ hrest => ?_) fun _ _ h => h
    convert hfirst.trans hrest using 1
    rw [hfirst.keys_eq, List.filter_filter]
    refine List.filter_congr fun j _ => Bool.eq_iff_iff.mpr ?_
    simp [not_or, and_comm]

/-- **The pages of a file leave, and the others keep their order.** -/
theorem ends_discardFile_order (file : Nat) :
    Ends (discardFile file) s
      (fun _ s' => s.pool.Left (s.pool.keys.filter (·.file != file)) s'.pool)
      (fun _ s' => s.pool.Left s.pool.keys s'.pool ∨
        s.pool.Left (s.pool.keys.filter (·.file != file)) s'.pool) := by
  unfold discardFile
  rw [ends_bind, ends_get, ends_bind, Pool.keysWhere_key (·.file == file)]
  refine (ends_flushPages_order _).imp (fun _ s₁ hleft => ?_) fun _ _ h => .inl h
  rw [ends_bind]
  refine (ends_forM_drop_order _).imp (fun _ s₂ hdropped => ?_) fun _ _ h => h.elim
  have hothers : s.pool.Left (s.pool.keys.filter (·.file != file)) s₂.pool := by
    convert hleft.trans hdropped using 1
    rw [hleft.keys_eq]
    refine List.filter_congr fun j hj => Bool.eq_iff_iff.mpr ?_
    simp [hj]
  rw [ends_onFiles, Files.ends_syncFile]
  exact ⟨fun _ => hothers, fun _ => .inr hothers⟩

/-! ## How room is made -/

theorem makeRoom_of_lt (h : s.pool.size < s.pool.capacity) : makeRoom s = .ok () s := by
  refine Ends.eq_ok ?_
  unfold makeRoom
  rw [ends_bind, ends_get, ends_ite]
  exact ⟨fun hfull => absurd h (Nat.not_lt.2 hfull), fun _ => ⟨rfl, rfl⟩⟩

theorem makeRoom_of_eq (h : s.pool.size = s.pool.capacity) : makeRoom s = evictOldest s := by
  show (if s.pool.size ≥ s.pool.capacity then evictOldest else pure ()) s = evictOldest s
  rw [if_pos (Nat.le_of_eq h.symm)]

/-- A pool in which every page has a pin refuses to make room. -/
theorem makeRoom_of_crowded (hs : s.Tidy) (h : s.pool.Crowded) :
    makeRoom s = .error (.error (.bufferPoolFull s.pool.capacity)) s := by
  refine (makeRoom_of_eq h.1).trans (Ends.eq_error ?_)
  unfold evictOldest
  rw [ends_bind, ends_get, (Pool.victim?_eq_none_iff hs.distinct).mpr h.2]
  exact ⟨rfl, rfl⟩

/-- **A full pool gives up its oldest page without a pin**, as soon as that is written back. -/
theorem makeRoom_of_full (hs : s.Tidy) (hfull : s.pool.size = s.pool.capacity)
    (hnot : ¬s.pool.Crowded) :
    ∃ v, s.pool.Oldest v ∧ makeRoom s = (do flushPage v; modifyPool (·.erase v)) s := by
  cases hvictim : s.pool.victim? with
  | none => exact absurd ⟨hfull, (Pool.victim?_eq_none_iff hs.distinct).mp hvictim⟩ hnot
  | some v =>
    refine ⟨v, Pool.oldest_of_victim? hs.distinct hvictim, ?_⟩
    have hget : (get : StoreM FileError Store) s = .ok s s := rfl
    have hevict := makeRoom_of_eq hfull
    unfold evictOldest at hevict
    rw [bind_of_ok hget, hvictim] at hevict
    exact hevict

/-- The page that goes leaves a frame. -/
theorem ends_evictOldest_room (hs : s.Tidy) (hfull : s.pool.size = s.pool.capacity) :
    Ends evictOldest s (fun _ s' => s'.pool.size < s'.pool.capacity) (fun _ _ => True) := by
  rw [Ends, ← makeRoom_of_eq hfull, ← Ends]
  by_cases hcrowded : s.pool.Crowded
  · exact (ends_of_error (makeRoom_of_crowded hs hcrowded)).mpr trivial
  obtain ⟨v, holdest, hroom⟩ := makeRoom_of_full hs hfull hcrowded
  rw [Ends, hroom, ← Ends, ends_bind]
  refine (ends_flushPage_order v).imp (fun _ s₁ h => ?_) fun _ _ _ => trivial
  obtain ⟨hleft, -⟩ := h
  rw [ends_modifyPool]
  refine Pool.Left.size_lt (p := s.pool) (k := v) ?_ holdest.mem (Nat.le_of_eq hfull)
  refine hleft.trans ?_
  rw [← hleft.keys_eq]
  exact .erase

/-- Evict as long as no frame is free, but not more often than so many times. -/
def makeRoomWithin : Nat → StoreM FileError Unit
  | 0 => pure ()
  | n + 1 => do
    let pool := (← get).pool
    if pool.size ≥ pool.capacity then
      evictOldest
      makeRoomWithin n

theorem makeRoomWithin_of_lt (h : s.pool.size < s.pool.capacity) (n : Nat) :
    makeRoomWithin n s = .ok () s := by
  cases n with
  | zero => rfl
  | succ n =>
    refine Ends.eq_ok ?_
    unfold makeRoomWithin
    rw [ends_bind, ends_get, ends_ite]
    exact ⟨fun hfull => absurd h (Nat.not_lt.2 hfull), fun _ => ⟨rfl, rfl⟩⟩

/-- **To evict until a frame is free is to evict once**, as long as no more pages are buffered
than there are frames: the page that goes leaves a frame. -/
theorem makeRoomWithin_eq (hs : s.Tidy) (hsize : s.pool.size ≤ s.pool.capacity) (n : Nat) :
    makeRoomWithin (n + 1) s = makeRoom s := by
  rcases Nat.lt_or_eq_of_le hsize with hlt | heq
  · rw [makeRoomWithin_of_lt hlt, makeRoom_of_lt hlt]
  have hloop : makeRoomWithin (n + 1) s = (do evictOldest; makeRoomWithin n) s := by
    show (if s.pool.size ≥ s.pool.capacity then (do evictOldest; makeRoomWithin n) else pure ()) s
      = _
    rw [if_pos (Nat.le_of_eq heq.symm)]
  rw [hloop, makeRoom_of_eq heq]
  cases hevict : evictOldest s with
  | error e t => exact Ends.eq_error (ends_bind.mpr ((ends_of_error hevict).mpr ⟨rfl, rfl⟩))
  | ok _ t =>
    have hroom := (ends_evictOldest_room hs heq).of_ok hevict
    rw [bind_of_ok hevict, makeRoomWithin_of_lt hroom]

/-- With room, a page is read into a frame. -/
theorem ends_load_of_room {t : Store} (hroom : makeRoom s = .ok () t) (k : PageKey) :
    Ends (load k) s (fun _ s' => ∃ f, s'.pool = t.pool.use ⟨k, f, false, 0⟩)
      (fun e s' => s'.pool = t.pool ∧ ¬WantOfFrame e) := by
  unfold load
  rw [ends_bind, ends_of_ok hroom, ends_bind, ends_onFiles]
  refine (Files.ends_readPage_reason k.page).imp ?_ fun _ _ hreason => ⟨rfl, hreason⟩
  intro b fs _
  rw [ends_bind, ends_newFrame, ends_modifyPool]
  exact ⟨_, rfl⟩

end Store

namespace PoolCall

variable {s t : Store} {k : PageKey} {call : PoolCall}

/-- Whether a call needs a frame for a page that is not buffered. -/
def Needs (p : Pool) : PoolCall → Prop
  | fetch k => p.contains k = false
  | newPage _ => True
  | _ => False

/-- Whether a page is one that a call asks for. -/
def Asks (k : PageKey) : PoolCall → Prop
  | fetch j => k = j
  | newPage file => k.file = file
  | _ => False

/-- **A call that finds room in a pool.** It brings a page to the front of what is in the pool,
and changes nothing else there; or it fails, for some other reason, and leaves the pool. -/
def Enters (call : PoolCall) (p : Pool) (s : Store) : Prop :=
  Ends call.run s
    (fun r s' => ∃ k f, r = .pinned k f ∧ call.Asks k ∧
      p.Left (k :: p.keys.filter (· != k)) s'.pool ∧ ∀ j, j ≠ k → s'.pool.find? j = p.find? j)
    (fun e s' => s'.pool = p ∧ ¬WantOfFrame e)

/-- **A call that needs a frame makes room first**, -/
theorem enters_of_makeRoom (hneeds : call.Needs s.pool) (hroom : Store.makeRoom s = .ok () t) :
    call.Enters t.pool s := by
  cases call with
  | fetch k =>
    refine ends_bind.mpr ?_
    unfold Store.fetch
    rw [ends_bind, ends_get, show s.pool.contains k = false from hneeds]
    refine ends_bind.mpr ((Store.ends_load_of_room hroom k).imp ?_ fun _ _ h => h)
    rintro _ s₁ ⟨f, hpool⟩
    refine ends_bind.mpr (ends_get.mpr ?_)
    rw [hpool, Pool.find?_use, if_pos rfl]
    refine ends_bind.mpr (Store.ends_modifyPool.mpr ⟨k, f, rfl, rfl, ?_⟩)
    have huse : s₁.pool.use ⟨k, f, false, 0 + 1⟩ = t.pool.use ⟨k, f, false, 0 + 1⟩ := by
      rw [hpool]
      exact Pool.use_use rfl
    show t.pool.Left _ (s₁.pool.use ⟨k, f, false, 0 + 1⟩) ∧ ∀ j, j ≠ k →
      (s₁.pool.use ⟨k, f, false, 0 + 1⟩).find? j = t.pool.find? j
    rw [huse]
    exact ⟨.use rfl, fun j hj => Pool.find?_use.trans (if_neg hj)⟩
  | newPage file =>
    refine ends_bind.mpr ?_
    unfold Store.newPage
    rw [ends_bind, ends_of_ok hroom, ends_bind, Store.ends_onFiles]
    refine Files.ends_allocatePage_reason.imp ?_ fun _ _ hreason => ⟨rfl, hreason⟩
    intro page fs _
    rw [ends_bind, Store.ends_newFrame, ends_bind, Store.ends_modifyPool, ends_bind,
      Store.ends_report]
    exact ⟨_, _, rfl, rfl, .use rfl, fun j hj => Pool.find?_use.trans (if_neg hj)⟩
  | _ => exact hneeds.elim

/-- and fails if there is none. -/
theorem run_of_makeRoom {e : Fault FileError} (hneeds : call.Needs s.pool)
    (hroom : Store.makeRoom s = .error e t) : call.run s = .error e t := by
  refine Ends.eq_error ?_
  cases call with
  | fetch k =>
    refine ends_bind.mpr ?_
    unfold Store.fetch Store.load
    rw [ends_bind, ends_get, show s.pool.contains k = false from hneeds]
    refine ends_bind.mpr (ends_bind.mpr ((ends_of_error hroom).mpr ⟨rfl, rfl⟩))
  | newPage file =>
    refine ends_bind.mpr ?_
    unfold Store.newPage
    rw [ends_bind, ends_of_error hroom]
    exact ⟨rfl, rfl⟩
  | _ => exact hneeds.elim

/-- **What becomes of a full pool's oldest page.** If it cannot be written back, the call fails
as that does and nothing has changed; otherwise it leaves, and the call finds room in the
rest. -/
structure Replaces (call : PoolCall) (v : PageKey) (s : Store) : Prop where
  refused : s.Stuck v → ∃ e, Store.flushPage v s = .error e s ∧ call.run s = .error e s
  replaced : ¬s.Stuck v → ∃ p : Pool,
    s.pool.Left (s.pool.keys.filter (· != v)) p ∧ (∀ j, j ≠ v → p.find? j = s.pool.find? j) ∧
      call.Enters p s

/-- **How a call that needs a frame comes by one.** -/
structure MakesRoom (call : PoolCall) (s : Store) : Prop where
  refused_iff : (∃ e s', call.run s = .error e s' ∧ WantOfFrame e) ↔ s.pool.Crowded
  refused : s.pool.Crowded → call.run s = .error (.error (.bufferPoolFull s.pool.capacity)) s
  free : s.pool.size < s.pool.capacity → call.Enters s.pool s
  full : s.pool.size = s.pool.capacity → ¬s.pool.Crowded →
    ∃ v, s.pool.Oldest v ∧ call.Replaces v s

/-- **Every call that needs a frame makes room in this way.** -/
theorem makesRoom (hs : s.Tidy) (hsize : s.pool.size ≤ s.pool.capacity)
    (hneeds : call.Needs s.pool) : call.MakesRoom s := by
  have hrefused : s.pool.Crowded → call.run s = _ := fun hcrowded =>
    run_of_makeRoom hneeds (Store.makeRoom_of_crowded hs hcrowded)
  have hfree : s.pool.size < s.pool.capacity → call.Enters s.pool s := fun hlt =>
    enters_of_makeRoom hneeds (Store.makeRoom_of_lt hlt)
  have hfull : s.pool.size = s.pool.capacity → ¬s.pool.Crowded →
      ∃ v, s.pool.Oldest v ∧ call.Replaces v s := by
    intro heq hnot
    obtain ⟨v, holdest, hroom⟩ := Store.makeRoom_of_full hs heq hnot
    have hwhether := Store.ends_flushPage_stuck (s := s) v
    cases hflush : Store.flushPage v s with
    | error e s' =>
      obtain ⟨rfl, -, -⟩ := (hs.ends_flushPage_exactly v).of_error hflush
      refine ⟨v, holdest, fun _ => ⟨e, hflush, run_of_makeRoom hneeds (hroom.trans ?_)⟩,
        fun hfree => absurd (hwhether.of_error hflush) hfree⟩
      exact Ends.eq_error (ends_bind.mpr ((ends_of_error hflush).mpr ⟨rfl, rfl⟩))
    | ok _ s' =>
      obtain ⟨hleft, hothers⟩ := (Store.ends_flushPage_order v).of_ok hflush
      refine ⟨v, holdest, fun hstuck => absurd hstuck (hwhether.of_ok hflush),
        fun _ => ⟨s'.pool.erase v, ?_, fun j hj => ?_, ?_⟩⟩
      · refine hleft.trans ?_
        rw [← hleft.keys_eq]
        exact .erase
      · rw [Pool.find?_erase, if_neg hj, hothers j hj]
      · exact enters_of_makeRoom hneeds (hroom.trans (bind_of_ok hflush))
  refine ⟨⟨?_, fun hcrowded => ⟨_, _, hrefused hcrowded, _, rfl⟩⟩, hrefused, hfree, hfull⟩
  -- any other failure is one of the files
  rintro ⟨e, s', hrun, hwant⟩
  by_contra hnot
  rcases Nat.lt_or_eq_of_le hsize with hlt | heq
  · exact ((hfree hlt).of_error hrun).2 hwant
  · obtain ⟨v, -, hreplaces⟩ := hfull heq hnot
    by_cases hstuck : s.Stuck v
    · obtain ⟨e', hflush, hrun'⟩ := hreplaces.refused hstuck
      cases hrun'.symm.trans hrun
      exact ((Store.ends_flushPage_order v).of_error hflush).2 hwant
    · obtain ⟨p, -, -, henters⟩ := hreplaces.replaced hstuck
      exact (henters.of_error hrun).2 hwant

/-- What is left of the buffered pages after a call that needs no frame, and in which order. -/
def order : PoolCall → PoolReply → List PageKey → List PageKey
  | _, .pinned k _, keys => k :: keys.filter (· != k)
  | evict k, .out true, keys => keys.filter (· != k)
  | discardFile file, _, keys => keys.filter (·.file != file)
  | _, _, keys => keys

/-- **A call that needs no frame** leaves the pages in the order that they had, but for a page
that is fetched; and if it fails, it can have taken out the pages of a file, and nothing else. -/
theorem ends_run_order (hneeds : ¬call.Needs s.pool) :
    Ends call.run s
      (fun r s' => s.pool.Left (call.order r s.pool.keys) s'.pool ∧
        ∀ k f, r = .pinned k f → k ∈ s.pool.keys)
      (fun _ s' => s.pool.Left s.pool.keys s'.pool ∨ ∃ file, call = .discardFile file ∧
        s.pool.Left (s.pool.keys.filter (·.file != file)) s'.pool) := by
  cases call with
  | fetch k =>
    have hin : s.pool.contains k = true := eq_true_of_ne_false hneeds
    refine ends_bind.mpr ((Store.ends_fetch_hit hin).imp (fun f s' hleft => ⟨hleft, ?_⟩)
      fun _ _ h => h.elim)
    rintro j g ⟨⟩
    exact Pool.mem_keys.mpr hin
  | newPage file => exact absurd trivial hneeds
  | unpin hold dirty =>
    exact ends_bind.mpr ((Store.ends_unpin_order _ dirty).imp (fun _ _ h => ⟨h, nofun⟩)
      fun _ _ => .inl)
  | markDirty k =>
    exact ends_bind.mpr ((Store.ends_markDirty_order k).imp (fun _ _ h => ⟨h, nofun⟩)
      fun _ _ => .inl)
  | flushPage k =>
    refine ends_bind.mpr ((Store.ends_flushPage_order k).imp (fun _ _ h => ⟨h.1, nofun⟩)
      fun _ s' h => ?_)
    rw [h.1]
    exact .inl (.refl _)
  | flushFile file =>
    exact ends_bind.mpr ((Store.ends_flushFile_order file).imp (fun _ _ h => ⟨h, nofun⟩)
      fun _ _ => .inl)
  | flushAll =>
    exact ends_bind.mpr (Store.ends_flushAll_order.imp (fun _ _ h => ⟨h, nofun⟩) fun _ _ => .inl)
  | evict k =>
    refine ends_bind.mpr ((Store.ends_evict_order k).imp (fun out s' h => ⟨?_, nofun⟩)
      fun _ _ => .inl)
    cases out <;> exact h
  | discardFile file =>
    exact ends_bind.mpr ((Store.ends_discardFile_order file).imp (fun _ _ h => ⟨h, nofun⟩)
      fun _ _ h => h.imp_right fun h => ⟨file, rfl, h⟩)

/-- A call that gives out no page brings none to the front. -/
theorem order_sublist {r : PoolReply} (hr : ∀ k f, r ≠ .pinned k f) (keys : List PageKey) :
    (call.order r keys).Sublist keys := by
  unfold order
  split
  · exact absurd rfl (hr _ _)
  · exact List.filter_sublist
  · exact List.filter_sublist
  · exact .refl _

end PoolCall

/-! ## Runs -/

/-- **The pages that were given out**, each where it was given out last, the latest first. -/
def lastUses : List (PoolCall × PoolReply) → List PageKey
  | [] => []
  | (_, .pinned k _) :: log => k :: (lastUses log).filter (· != k)
  | _ :: log => lastUses log

theorem nodup_lastUses (log : List (PoolCall × PoolReply)) : (lastUses log).Nodup := by
  fun_induction lastUses log with
  | case1 => exact List.nodup_nil
  | case2 _ k _ log ih => exact List.nodup_cons.mpr ⟨by simp, ih.filter _⟩
  | case3 _ log _ ih => exact ih

/-- **A run of any calls on a pool that was asked for some frames**: the calls that returned,
the latest first, and the store behind them. Meanwhile anything may be done to the disk, the
open files, the frames and the held pins. -/
inductive PoolCourse (capacity : Nat) : List (PoolCall × PoolReply) → Store → Prop
  | start (disk : Disk) (limit : Nat) : PoolCourse capacity [] (Store.ofDisk disk capacity limit)
  | returned {log : List (PoolCall × PoolReply)} {s s' : Store} {call : PoolCall} {r : PoolReply}
      (h : PoolCourse capacity log s) (hrun : call.run s = .ok r s') :
      PoolCourse capacity ((call, r) :: log) s'
  | failed {log : List (PoolCall × PoolReply)} {s s' : Store} {call : PoolCall}
      {e : Fault FileError} (h : PoolCourse capacity log s) (hrun : call.run s = .error e s') :
      PoolCourse capacity log s'
  | meanwhile {log : List (PoolCall × PoolReply)} {s s' : Store} (h : PoolCourse capacity log s)
      (hpool : s'.pool = s.pool) (htidy : s'.Tidy) : PoolCourse capacity log s'

/-- **What holds of a pool whatever was called**, by the pages that were given out. -/
structure Pool.Ordered (capacity : Nat) (uses : List PageKey) (p : Pool) : Prop where
  capacity_eq : p.capacity = max capacity 1
  size_le : p.size ≤ p.capacity
  sublist : p.keys.Sublist uses

namespace Pool.Ordered

variable {capacity : Nat} {uses keys : List PageKey} {p p' : Pool} {k : PageKey}

/-- Pages may leave a pool. -/
theorem thinned (h : p.Ordered capacity uses) (hkeys : keys.Sublist p.keys)
    (hleft : p.Left keys p') : p'.Ordered capacity uses where
  capacity_eq := hleft.capacity_eq.trans h.capacity_eq
  size_le := by
    rw [hleft.capacity_eq, size_eq_length_keys, hleft.keys_eq]
    exact Nat.le_trans hkeys.length_le (size_eq_length_keys ▸ h.size_le)
  sublist := by
    rw [hleft.keys_eq]
    exact hkeys.trans h.sublist

/-- **A page comes to the front** if it was there, or if there is room. -/
theorem used (h : p.Ordered capacity uses) (hroom : k ∈ p.keys ∨ p.size < p.capacity)
    (hleft : p.Left (k :: p.keys.filter (· != k)) p') :
    p'.Ordered capacity (k :: uses.filter (· != k)) where
  capacity_eq := hleft.capacity_eq.trans h.capacity_eq
  size_le := by
    have hle := h.size_le
    rw [size_eq_length_keys] at hroom hle
    rw [hleft.capacity_eq, size_eq_length_keys, hleft.keys_eq, List.length_cons]
    rcases hroom with hmem | hlt
    · have hfewer : (p.keys.filter (· != k)).length < p.keys.length :=
        List.length_filter_lt_length_iff_exists.mpr ⟨k, hmem, by simp⟩
      omega
    · have hfewer := List.length_filter_le (· != k) p.keys
      omega
  sublist := by
    rw [hleft.keys_eq]
    exact (h.sublist.filter _).cons_cons k

end Pool.Ordered

namespace PoolCall

variable {capacity : Nat} {log : List (PoolCall × PoolReply)} {s : Store} {p : Pool}
  {call : PoolCall}

theorem Enters.ordered (h : call.Enters p s) (hp : p.Ordered capacity (lastUses log))
    (hroom : p.size < p.capacity) :
    Ends call.run s (fun r s' => s'.pool.Ordered capacity (lastUses ((call, r) :: log)))
      (fun _ s' => s'.pool.Ordered capacity (lastUses log)) := by
  refine h.imp ?_ fun _ s' h => h.1 ▸ hp
  rintro _ s' ⟨k, f, rfl, -, hleft, -⟩
  exact hp.used (.inr hroom) hleft

/-- **No call disturbs the order.** -/
theorem ends_run_ordered (hs : s.Tidy) (hp : s.pool.Ordered capacity (lastUses log))
    (call : PoolCall) :
    Ends call.run s (fun r s' => s'.pool.Ordered capacity (lastUses ((call, r) :: log)))
      (fun _ s' => s'.pool.Ordered capacity (lastUses log)) := by
  by_cases hneeds : call.Needs s.pool
  · have hroom := makesRoom hs hp.size_le hneeds
    rcases Nat.lt_or_eq_of_le hp.size_le with hlt | heq
    · exact (hroom.free hlt).ordered hp hlt
    by_cases hcrowded : s.pool.Crowded
    · exact (ends_of_error (hroom.refused hcrowded)).mpr hp
    obtain ⟨v, holdest, hreplaces⟩ := hroom.full heq hcrowded
    by_cases hstuck : s.Stuck v
    · obtain ⟨e, -, hrun⟩ := hreplaces.refused hstuck
      exact (ends_of_error hrun).mpr hp
    · obtain ⟨p, hleft, -, henters⟩ := hreplaces.replaced hstuck
      exact henters.ordered (hp.thinned List.filter_sublist hleft)
        (hleft.size_lt holdest.mem hp.size_le)
  · refine (ends_run_order hneeds).imp ?_ ?_
    · rintro r s' ⟨hleft, hin⟩
      cases r with
      | pinned k f => exact hp.used (.inl (hin k f rfl)) hleft
      | out b => exact hp.thinned (order_sublist (r := .out b) (fun _ _ => nofun) _) hleft
      | done => exact hp.thinned (order_sublist (r := .done) (fun _ _ => nofun) _) hleft
    · rintro e s' (hleft | ⟨file, -, hleft⟩)
      · exact hp.thinned (.refl _) hleft
      · exact hp.thinned List.filter_sublist hleft

end PoolCall

namespace PoolCourse

variable {capacity : Nat} {log : List (PoolCall × PoolReply)} {s : Store}

theorem tidy (h : PoolCourse capacity log s) : s.Tidy := by
  induction h with
  | start disk limit => exact ⟨.start disk limit, List.nodup_nil, nofun⟩
  | @returned _ _ _ call _ _ hrun ih => exact ((call.ends_run_page ih ⟨0, 0⟩).of_ok hrun).1.tidy
  | @failed _ _ _ call _ _ hrun ih => exact ((call.ends_run_page ih ⟨0, 0⟩).of_error hrun).1.tidy
  | meanwhile _ _ htidy _ => exact htidy

theorem ordered (h : PoolCourse capacity log s) : s.pool.Ordered capacity (lastUses log) := by
  induction h with
  | start disk limit => exact ⟨rfl, Nat.zero_le _, .refl _⟩
  | @returned _ _ _ call _ h hrun ih => exact (call.ends_run_ordered h.tidy ih).of_ok hrun
  | @failed _ _ _ call _ h hrun ih => exact (call.ends_run_ordered h.tidy ih).of_error hrun
  | meanwhile _ hpool _ ih => exact hpool ▸ ih

/-- **The buffered pages stand in the order of their last uses.** -/
theorem keys_eq (h : PoolCourse capacity log s) :
    s.pool.keys = (lastUses log).filter s.pool.contains := by
  have hself : s.pool.keys.filter s.pool.contains = s.pool.keys :=
    List.filter_eq_self.mpr fun _ => Pool.mem_keys.mp
  have hsub := h.ordered.sublist.filter s.pool.contains
  rw [hself] at hsub
  refine hsub.eq_of_length_le (List.Subperm.length_le ?_)
  refine List.subperm_of_subset ((nodup_lastUses log).filter _) fun k hk => ?_
  exact Pool.mem_keys.mpr (List.mem_filter.mp hk).2

end PoolCourse

/-- **A pool gives up the page that has no pin and whose last use is the oldest**, and only if
it has no frame left. It never holds more pages than the frames that it was asked for, of which
there is one at least; its pages stand in the order in which they were last given out, whatever
else was called; and a call that needs a frame fails for want of one if and only if every frame
holds a page with a pin, and then it changes nothing at all. -/
theorem oldest_page_goes {capacity : Nat} {log : List (PoolCall × PoolReply)} {s : Store}
    (h : PoolCourse capacity log s) :
    s.pool.capacity = max capacity 1 ∧ s.pool.size ≤ s.pool.capacity ∧
      s.pool.keys = (lastUses log).filter s.pool.contains ∧
      (∀ call : PoolCall, ¬call.Needs s.pool →
        Ends call.run s
          (fun r s' => s'.pool.keys = call.order r s.pool.keys)
          (fun _ s' => s'.pool.keys = s.pool.keys ∨ ∃ file, call = .discardFile file ∧
            s'.pool.keys = s.pool.keys.filter (·.file != file))) ∧
      ∀ call : PoolCall, call.Needs s.pool → call.MakesRoom s := by
  refine ⟨h.ordered.capacity_eq, h.ordered.size_le, h.keys_eq, fun call hneeds => ?_,
    fun call hneeds => PoolCall.makesRoom h.tidy h.ordered.size_le hneeds⟩
  refine (PoolCall.ends_run_order hneeds).imp (fun _ _ h => h.1.keys_eq) fun _ _ h => ?_
  exact h.imp (·.keys_eq) fun ⟨file, hcall, hleft⟩ => ⟨file, hcall, hleft.keys_eq⟩

/-- A file of one page, open in a store with two frames, has got a second page, -/
def pageAdded : Store := stateAfter (PoolCall.newPage 0).run openedFile

/-- and its first page was fetched. -/
def bothBuffered : Store := stateAfter (PoolCall.fetch ⟨0, 0⟩).run pageAdded

/-- The pin of the first page was given back, -/
def firstReleased : Store := stateAfter (PoolCall.unpin ⟨⟨0, 0⟩, 1, false⟩ false).run bothBuffered

/-- and then that of the second. -/
def bothReleased : Store := stateAfter (PoolCall.unpin ⟨⟨0, 1⟩, 0, false⟩ false).run firstReleased

theorem bothBuffered_course : PoolCourse 2
    [(.fetch ⟨0, 0⟩, .pinned ⟨0, 0⟩ 1), (.newPage 0, .pinned ⟨0, 1⟩ 0)] bothBuffered := by
  have hopened : PoolCourse 2 [] openedFile := (PoolCourse.start oneFile 1).meanwhile rfl
    (openedFile_run fun _ _ => True).tidy
  have hnew : (PoolCall.newPage 0).run openedFile = .ok (.pinned ⟨0, 1⟩ 0) pageAdded := rfl
  have hfetch : (PoolCall.fetch ⟨0, 0⟩).run pageAdded = .ok (.pinned ⟨0, 0⟩ 1) bothBuffered := rfl
  exact (hopened.returned hnew).returned hfetch

/-- While both pages have a pin, the file cannot grow. Then the page goes that was made before
the other was fetched, though its pin was given back after that of the other. -/
theorem oldest_page_goes_bothReleased :
    (PoolCall.newPage 0).run bothBuffered = .error (.error (.bufferPoolFull 2)) bothBuffered ∧
      bothReleased.pool.keys = [⟨0, 0⟩, ⟨0, 1⟩] ∧
      ∃ s, (PoolCall.newPage 0).run bothReleased = .ok (.pinned ⟨0, 2⟩ 2) s ∧
        s.pool.keys = [⟨0, 2⟩, ⟨0, 0⟩] := by
  have hback : (PoolCall.unpin ⟨⟨0, 0⟩, 1, false⟩ false).run bothBuffered =
      .ok .done firstReleased := rfl
  have hback' : (PoolCall.unpin ⟨⟨0, 1⟩, 0, false⟩ false).run firstReleased =
      .ok .done bothReleased := rfl
  have hnew : (PoolCall.newPage 0).run bothReleased =
      .ok (.pinned ⟨0, 2⟩ 2) (stateAfter (PoolCall.newPage 0).run bothReleased) := rfl
  obtain ⟨-, -, -, -, hcrowdedRoom⟩ := oldest_page_goes bothBuffered_course
  obtain ⟨-, -, hkeys, -, hroom⟩ :=
    oldest_page_goes ((bothBuffered_course.returned hback).returned hback')
  have hcrowded : bothBuffered.pool.Crowded := ⟨rfl, by decide⟩
  have hnot : ¬bothReleased.pool.Crowded := fun h => h.2 ⟨0, 0⟩ List.mem_cons_self rfl
  obtain ⟨v, ⟨newer, older, hsplit, -, holder⟩, hreplaces⟩ :=
    (hroom (.newPage 0) trivial).full rfl hnot
  -- no page behind the oldest is without a pin, so it is the last
  obtain rfl : older = [] := by
    refine List.eq_nil_iff_forall_not_mem.mpr fun k hk => holder k hk ?_
    have hall : ∀ k ∈ bothReleased.pool.keys, bothReleased.pool.pinCount k = 0 := by decide
    exact hall k (hsplit ▸ List.mem_append_right _ (List.mem_cons_of_mem _ hk))
  have hboth : bothReleased.pool.keys = [⟨0, 0⟩] ++ [⟨0, 1⟩] := rfl
  obtain rfl := List.singleton_inj.mp (List.append_inj_right' (hsplit.symm.trans hboth) rfl)
  have hwritable : ¬bothReleased.Stuck ⟨0, 1⟩ := by
    intro hstuck
    have := hstuck.beyond _ rfl
    revert this
    decide
  obtain ⟨p, hleft, -, henters⟩ := hreplaces.replaced hwritable
  obtain ⟨k, f, hreply, -, hkeys', -⟩ := henters.of_ok hnew
  cases hreply
  refine ⟨(hcrowdedRoom (.newPage 0) trivial).refused hcrowded, hkeys, _, hnew, ?_⟩
  rw [hkeys'.keys_eq, hleft.keys_eq]
  rfl

end SlottedFile
