import SlottedFile.Proofs.Pool.Changes

/-!
# The operations of the pool

What each operation of the pool does to a coherent store. All of them leave it
coherent, whether they succeed or fail, and none of them but `newPage` changes
its picture: a page that is written back, evicted, read or pinned keeps its
content. An operation that fails has at most written pages back and evicted
clean ones on its way.
-/

namespace SlottedFile

theorem Fault.map_id {ε : Type} (e : Fault ε) : e.map id = e := by
  cases e <;> rfl

/-- **What writing back does to a pool**: pages become clean, and nothing
else. -/
structure Pool.Cleaned (p p' : Pool) : Prop where
  frame?_eq : ∀ k, p'.frame? k = p.frame? k
  pinCount_eq : ∀ k, p'.pinCount k = p.pinCount k
  isDirty_false : ∀ {k}, p.isDirty k = false → p'.isDirty k = false

namespace Pool.Cleaned

variable {p p' p'' : Pool}

theorem refl (p : Pool) : p.Cleaned p := ⟨fun _ => rfl, fun _ => rfl, fun h => h⟩

theorem trans (h : p.Cleaned p') (h' : p'.Cleaned p'') : p.Cleaned p'' where
  frame?_eq := fun k => (h'.frame?_eq k).trans (h.frame?_eq k)
  pinCount_eq := fun k => (h'.pinCount_eq k).trans (h.pinCount_eq k)
  isDirty_false := fun hd => h'.isDirty_false (h.isDirty_false hd)

/-- A page that is marked clean is clean, and the others are as they were. -/
theorem update {k : PageKey} {e : PoolEntry} (hfind : p.find? k = some e) :
    p.Cleaned (p.update k fun e => { e with dirty := false }) ∧
      (p.update k fun e => { e with dirty := false }).isDirty k = false := by
  set note : PoolEntry → PoolEntry := fun e => { e with dirty := false }
  have hdirty : ∀ j, (p.update k note).isDirty j = if j = k then false else p.isDirty j :=
    fun _ => Pool.isDirty_update (f := note) (fun _ => rfl) hfind
  refine ⟨⟨fun j => ?_, fun j => ?_, fun {j} hd => ?_⟩, (hdirty k).trans (if_pos rfl)⟩
  · exact Pool.frame?_update (f := note) (fun _ => rfl) (fun _ => rfl)
  · exact Pool.pinCount_update_of_pins (f := note) (fun _ => rfl) (fun _ => rfl)
  · rw [hdirty, hd, ite_self]

end Pool.Cleaned

namespace Store

variable {imageOf : Nat → ImageId} {holds : List Hold} {s : Store}

section Rules

variable {ε α : Type} {good : α → Store → Prop}

theorem ends_onFiles {x : FilesM α} {bad : Fault FileError → Store → Prop} :
    Ends (onFiles x) s good bad ↔
      Ends x s.files (fun a fs => good a { s with files := fs })
        (fun e fs => bad e { s with files := fs }) := by
  unfold onFiles
  rw [ends_onPart]
  simp only [Fault.map_id]

theorem ends_modifyPool {f : Pool → Pool} {good : Unit → Store → Prop}
    {bad : Fault ε → Store → Prop} :
    Ends (modifyPool f) s good bad ↔ good () { s with pool := f s.pool } := Iff.rfl

theorem ends_report {e : Event} {good : Unit → Store → Prop} {bad : Fault ε → Store → Prop} :
    Ends (report e) s good bad ↔ good () { s with events := e :: s.events } := Iff.rfl

theorem ends_newFrame {b : Block} {good : FrameId → Store → Prop} {bad : Fault ε → Store → Prop} :
    Ends (newFrame b) s good bad ↔
      good s.frames.size { s with frames := s.frames.push b } := Iff.rfl

end Rules

/-- An operation that does not show: the store is coherent behind it, and
nothing has changed but where things are. -/
structure Settled (imageOf : Nat → ImageId) (holds : List Hold) (s s' : Store) : Prop where
  coherent : Coherent imageOf holds s'
  quiet : Quiet imageOf s s'

theorem Settled.refl (hs : Coherent imageOf holds s) : Settled imageOf holds s s := ⟨hs, .refl s⟩

theorem Settled.trans {s' s'' : Store} {holds' : List Hold} (h : Settled imageOf holds s s')
    (h' : Settled imageOf holds' s' s'') : Settled imageOf holds' s s'' :=
  ⟨h'.coherent, h.quiet.trans h'.quiet⟩

/-- What a change of the files, the pool and the frames makes of a store. -/
theorem Settled.of_change {s' : Store} {holds' : List Hold}
    (h : Coherent imageOf holds' s' ∧ s'.picture imageOf = s.picture imageOf)
    (hheld : s'.held = s.held) (hnext : s'.nextPin = s.nextPin) : Settled imageOf holds' s s' :=
  ⟨h.1, h.2, hheld, hnext⟩

theorem Settled.report (hs : Coherent imageOf holds s) (e : Event) :
    Settled imageOf holds s { s with events := e :: s.events } :=
  .of_change ⟨hs.note rfl rfl hs.distinct (fun _ => rfl) hs.pins_eq hs.held hs.clean,
    picture_eq_of_note rfl rfl fun _ => rfl⟩ rfl rfl

/-! ## Writing back -/

/-- Why a page cannot be written back: its file has been closed, or it ends too
far out. -/
def Unwritable (s : Store) (k : PageKey) : Prop :=
  s.files.table.byHandle? k.file = none ∨ Files.maxOffset < (k.page + 2) * blockSize

theorem Quiet.table_eq {s' : Store} (h : Quiet imageOf s s') : s'.files.table = s.files.table :=
  congrArg Picture.table h.picture

theorem Quiet.pages_eq {s' : Store} (h : Quiet imageOf s s') (i : ImageId) :
    (s'.files.disk.image i).pages = (s.files.disk.image i).pages :=
  congrFun (congrArg Picture.pages h.picture) i

theorem Quiet.content_eq {s' : Store} (h : Quiet imageOf s s') :
    s'.content imageOf = s.content imageOf :=
  congrArg Picture.content h.picture

theorem Quiet.unwritable_iff {s' : Store} (h : Quiet imageOf s s') {k : PageKey} :
    s'.Unwritable k ↔ s.Unwritable k := by
  rw [Unwritable, h.table_eq, Unwritable]

/-- **A page that is written back is clean**, and its content is what it was. A
page that cannot be written back stays as it is. -/
theorem ends_flushPage (hs : Coherent imageOf holds s) (k : PageKey) :
    Ends (flushPage k) s
      (fun _ s' => Settled imageOf holds s s' ∧ s.pool.Cleaned s'.pool ∧ s'.pool.isDirty k = false)
      (fun e s' => s' = s ∧ (∃ fe, e = .error fe) ∧ s.Unwritable k) := by
  unfold flushPage
  rw [ends_bind, ends_get]
  cases hfind : s.pool.find? k with
  | none =>
    refine ends_pure.mpr ⟨.refl hs, .refl _, ?_⟩
    rw [Pool.isDirty, hfind, Option.any_none]
  | some e =>
    have hframe := Pool.frame?_of_find? hfind
    rw [ends_ite]
    refine ⟨fun _ => ?_, fun hclean => ends_pure.mpr ⟨.refl hs, .refl _, ?_⟩⟩
    · rw [ends_bind, ends_get, ends_bind, ends_onFiles]
      refine (Files.ends_writePage hs.files k.file k.page (s.frame e.frame)).imp ?_ ?_
      · rintro _ fs ⟨o, ho, rfl⟩
        rw [ends_modifyPool]
        exact ⟨.of_change (hs.writeBack hfind ho rfl rfl rfl) rfl rfl, Pool.Cleaned.update hfind⟩
      · rintro (fe | w) fs ⟨rfl, hfar⟩
        · exact ⟨rfl, ⟨fe, rfl⟩, hfar⟩
        · -- a page that has been read can be addressed
          have hnear := hs.near hframe
          have hlimit : wordLimit ≤ (k.page + 1 + 1) * blockSize := hfar
          have hmax : Files.maxOffset + blockSize < wordLimit := by decide
          rw [Nat.succ_mul] at hlimit
          omega
    · rw [Pool.isDirty_of_find? hfind]
      exact eq_false_of_ne_true hclean

/-- Pages that are written back one after the other are clean in the end. -/
theorem ends_flushPages (hs : Coherent imageOf holds s) (keys : List PageKey) :
    Ends (flushPages keys) s
      (fun _ s' => Settled imageOf holds s s' ∧ s.pool.Cleaned s'.pool ∧
        ∀ k ∈ keys, s'.pool.isDirty k = false)
      (fun e s' => Settled imageOf holds s s' ∧ s.pool.Cleaned s'.pool ∧ (∃ fe, e = .error fe) ∧
        ∃ k ∈ keys, s.Unwritable k) := by
  unfold flushPages
  induction keys generalizing s with
  | nil => exact ends_pure.mpr ⟨.refl hs, .refl _, fun _ h => absurd h List.not_mem_nil⟩
  | cons k keys ih =>
    show Ends (do flushPage k; keys.forM flushPage) s _ _
    rw [ends_bind]
    refine (ends_flushPage hs k).imp ?_ ?_
    · rintro _ s₁ ⟨hset, hclean, hk⟩
      refine (ih hset.coherent).imp ?_ ?_
      · rintro _ s₂ ⟨hset', hclean', hkeys⟩
        refine ⟨hset.trans hset', hclean.trans hclean', fun j hj => ?_⟩
        rcases List.mem_cons.mp hj with rfl | hj
        · exact hclean'.isDirty_false hk
        · exact hkeys j hj
      · rintro e s₂ ⟨hset', hclean', hfe, j, hj, hfar⟩
        exact ⟨hset.trans hset', hclean.trans hclean', hfe, j, List.mem_cons_of_mem _ hj,
          hset.quiet.unwritable_iff.mp hfar⟩
    · rintro e _ ⟨rfl, hfe, hfar⟩
      exact ⟨.refl hs, .refl _, hfe, k, List.mem_cons_self, hfar⟩

/-- Writing back the pages of a file fails only if one of its pages cannot be
written or it is not open. -/
theorem ends_flushFile (hs : Coherent imageOf holds s) (file : Nat) :
    Ends (flushFile file) s (fun _ s' => Settled imageOf holds s s' ∧ s.pool.Cleaned s'.pool)
      (fun e s' => Settled imageOf holds s s' ∧ (∃ fe, e = .error fe) ∧
        (s.files.table.byHandle? file = none ∨
          ∃ k f, s.pool.frame? k = some f ∧ k.file = file ∧ s.Unwritable k)) := by
  unfold flushFile
  rw [ends_bind, ends_get, ends_bind]
  refine (ends_flushPages hs _).imp ?_ ?_
  · rintro _ s' ⟨hset, hclean, -⟩
    rw [ends_onFiles, Files.ends_syncFile]
    refine ⟨fun _ => ⟨hset, hclean⟩, fun hnone => ⟨hset, ⟨_, rfl⟩, .inl ?_⟩⟩
    rw [← hset.quiet.table_eq]
    exact hnone
  · rintro e s' ⟨hset, -, herror, k, hk, hfar⟩
    obtain ⟨entry, hfind, hcond⟩ := (Pool.mem_keysWhere hs.distinct).mp hk
    have hkey := (Pool.mem_of_find? hfind).2
    refine ⟨hset, herror, .inr ⟨k, _, Pool.frame?_of_find? hfind, ?_, hfar⟩⟩
    simp only [Bool.and_eq_true, beq_iff_eq] at hcond
    rw [← hkey, hcond.1]

/-- **Every page is written back**, unless one cannot be. -/
theorem ends_flushAll (hs : Coherent imageOf holds s) :
    Ends flushAll s
      (fun _ s' => Settled imageOf holds s s' ∧ s.pool.Cleaned s'.pool ∧
        ∀ k, s'.pool.isDirty k = false)
      (fun _ s' => Settled imageOf holds s s' ∧ s.pool.Cleaned s'.pool ∧
        ∃ k, s.pool.isDirty k = true ∧ s.Unwritable k) := by
  unfold flushAll
  rw [ends_bind, ends_get, ends_bind]
  have hmem : ∀ k, k ∈ s.pool.keysWhere (·.dirty) ↔ s.pool.isDirty k = true := by
    intro k
    rw [Pool.mem_keysWhere hs.distinct, Pool.isDirty, Option.any_eq_true]
  refine (ends_flushPages hs _).imp ?_ ?_
  · rintro _ s' ⟨hset, hclean, hflushed⟩
    refine ⟨hset, hclean, fun k => ?_⟩
    cases hdirty : s.pool.isDirty k with
    | false => exact hclean.isDirty_false hdirty
    | true => exact hflushed k ((hmem k).mpr hdirty)
  · rintro e s' ⟨hset, hclean, -, k, hk, hfar⟩
    exact ⟨hset, hclean, k, (hmem k).mp hk, hfar⟩

/-! ## Making room -/

/-- A page that is neither dirty nor pinned may be taken out. -/
theorem Settled.erase {k : PageKey} (hs : Coherent imageOf holds s)
    (hdirty : s.pool.isDirty k = false) (hpins : s.pool.pinCount k = 0) :
    Settled imageOf holds s { s with pool := s.pool.erase k } :=
  .of_change (hs.leave hdirty hpins rfl rfl rfl) rfl rfl

/-- **A page without a pin is written back before it is taken out.** If that
fails, nothing has changed. -/
theorem ends_flushPage_erase (hs : Coherent imageOf holds s) {k : PageKey}
    (hpins : s.pool.pinCount k = 0) :
    Ends (do flushPage k; modifyPool (·.erase k)) s
      (fun _ s' => Settled imageOf holds s s' ∧
        ∀ j, s'.pool.frame? j = if j = k then none else s.pool.frame? j)
      (fun e s' => s' = s ∧ ∃ fe, e = .error fe) := by
  rw [ends_bind]
  refine (ends_flushPage hs k).imp ?_ fun _ _ h => ⟨h.1, h.2.1⟩
  rintro _ s' ⟨hset, hclean, hk⟩
  rw [ends_modifyPool]
  refine ⟨hset.trans (.erase hset.coherent hk ?_), fun j => ?_⟩
  · rw [hclean.pinCount_eq, hpins]
  · rw [Pool.frame?_erase, hclean.frame?_eq]

theorem ends_evictOldest (hs : Coherent imageOf holds s) :
    Ends evictOldest s
      (fun _ s' => Settled imageOf holds s s' ∧
        ∀ k, s.pool.frame? k = none → s'.pool.frame? k = none)
      (fun e s' => s' = s ∧ ∃ fe, e = .error fe) := by
  unfold evictOldest
  rw [ends_bind, ends_get]
  cases hvictim : s.pool.victim? with
  | none =>
    rw [ends_bind, ends_get, ends_fail]
    exact ⟨rfl, _, rfl⟩
  | some k =>
    obtain ⟨e, hfind, hpins⟩ := Pool.find?_of_victim? hs.distinct hvictim
    refine (ends_flushPage_erase hs ((Pool.pinCount_of_find? hfind).trans hpins)).imp ?_
      fun _ _ h => h
    rintro _ s' ⟨hset, hframe?⟩
    refine ⟨hset, fun j hj => ?_⟩
    rw [hframe?, hj, ite_self]

/-- **Making room does not show**, and brings no page into the pool. -/
theorem ends_makeRoom (hs : Coherent imageOf holds s) :
    Ends makeRoom s
      (fun _ s' => Settled imageOf holds s s' ∧
        ∀ k, s.pool.frame? k = none → s'.pool.frame? k = none)
      (fun e s' => s' = s ∧ ∃ fe, e = .error fe) := by
  unfold makeRoom
  rw [ends_bind, ends_get, ends_ite]
  exact ⟨fun _ => ends_evictOldest hs, fun _ => ends_pure.mpr ⟨.refl hs, fun _ h => h⟩⟩

/-! ## Pinning a page -/

/-- Why a page cannot be reached: only a page whose block ends beyond every word
makes an operation overrun. -/
def Beyond (pages : Nat) (e : Fault FileError) : Prop :=
  ∀ w, e = .overrun w → wordLimit ≤ (pages + 2) * blockSize

theorem beyond_of_error {pages : Nat} {e : Fault FileError} (h : ∃ fe, e = .error fe) :
    Beyond pages e := by
  obtain ⟨fe, rfl⟩ := h
  exact nofun

/-- **A page that is read has the content of its block.** -/
theorem ends_load (hs : Coherent imageOf holds s) {k : PageKey} (hnone : s.pool.frame? k = none)
    (hpage : ∀ o, s.files.table.byHandle? k.file = some o →
      k.page < (s.files.disk.image o.image).pages) :
    Ends (load k) s
      (fun _ s' => Settled imageOf holds s s' ∧ ∃ e, s'.pool.find? k = some e)
      (fun e s' => Settled imageOf holds s s' ∧ Beyond k.page e) := by
  unfold load
  rw [ends_bind]
  refine (ends_makeRoom hs).imp ?_ ?_
  · rintro _ s₁ ⟨hset, hout⟩
    have hs₁ := hset.coherent
    rw [ends_bind, ends_onFiles]
    refine (Files.ends_readPage s₁.files k.file k.page).imp ?_ ?_
    · rintro b fs ⟨rfl, hnear, o, ho, rfl⟩
      have himg := hs₁.stands_of_byHandle? ho
      obtain ⟨hmem, hhandle⟩ := FileTable.mem_of_byHandle? ho
      rw [ends_bind, ends_newFrame, ends_modifyPool]
      refine ⟨hset.trans (.of_change (hs₁.enter false [] (hout k hnone) ?_ ?_ hnear
        (fun _ h => absurd h List.not_mem_nil) rfl ?_ rfl) rfl rfl), _,
        Pool.find?_use.trans (if_pos rfl)⟩
      · rw [← hhandle]
        exact hs₁.files.handle_lt o hmem
      · rw [hset.quiet.table_eq] at ho
        rw [← himg, hset.quiet.pages_eq]
        exact hpage o ho
      · rw [himg]
        rfl
    · rintro (fe | w) fs ⟨rfl, hfar⟩
      · exact ⟨hset, nofun⟩
      · exact ⟨hset, fun _ _ => hfar⟩
  · rintro e _ ⟨rfl, hfe⟩
    exact ⟨.refl hs, beyond_of_error hfe⟩

/-- A page that is buffered is pinned where it is. -/
theorem ends_fetch_of_find? (hs : Coherent imageOf holds s) {k : PageKey} {e : PoolEntry}
    (hfind : s.pool.find? k = some e) :
    Ends (fetch k) s
      (fun f s' => Settled imageOf (⟨k, f, false⟩ :: holds) s s') (fun _ _ => False) := by
  have hcontains : s.pool.contains k = true := by rw [Pool.contains, hfind]; rfl
  unfold fetch
  rw [ends_bind, ends_get, hcontains]
  refine ends_bind.mpr (ends_get.mpr ?_)
  rw [hfind]
  exact .of_change (hs.pin hfind rfl rfl rfl) rfl rfl

/-- **A page that is fetched is pinned**, in a frame that shows its content. -/
theorem ends_fetch (hs : Coherent imageOf holds s) {k : PageKey}
    (hpage : ∀ o, s.files.table.byHandle? k.file = some o →
      k.page < (s.files.disk.image o.image).pages) :
    Ends (fetch k) s
      (fun f s' => Settled imageOf (⟨k, f, false⟩ :: holds) s s')
      (fun e s' => Settled imageOf holds s s' ∧ Beyond k.page e) := by
  cases hfind : s.pool.find? k with
  | some e => exact (ends_fetch_of_find? hs hfind).imp (fun _ _ h => h) fun _ _ h => h.elim
  | none =>
    have hcontains : s.pool.contains k = false := by rw [Pool.contains, hfind]; rfl
    unfold fetch
    rw [ends_bind, ends_get, hcontains]
    refine ends_bind.mpr ((ends_load hs (Pool.frame?_eq_none_iff.mpr hfind) hpage).imp ?_
      fun _ _ h => h)
    rintro _ s₁ ⟨hset, e, hfind₁⟩
    -- what is left to do is what a fetch of the loaded page does
    have hcontains₁ : s₁.pool.contains k = true := by rw [Pool.contains, hfind₁]; rfl
    have hhit := ends_fetch_of_find? hset.coherent hfind₁
    unfold fetch at hhit
    rw [ends_bind, ends_get, hcontains₁] at hhit
    exact hhit.imp (fun _ _ h => hset.trans h) fun _ _ h => h.elim

/-- **A new page is the one behind the last.** It is pinned, its content is what
it was behind the end of the file – zeros – and nothing else changes. -/
theorem ends_newPage (hs : Coherent imageOf holds s) (file : Nat) :
    Ends (newPage file) s
      (fun r s' => r.1 = ⟨file, (s.picture imageOf).pages (imageOf file)⟩ ∧
        s.content imageOf r.1 = Buffer.zero blockSize ∧
        (s.files.table.byHandle? file).isSome ∧
        Coherent imageOf (⟨r.1, r.2, false⟩ :: holds) s' ∧
        s'.picture imageOf = { s.picture imageOf with
          pages := Function.update (s.picture imageOf).pages (imageOf file)
            ((s.picture imageOf).pages (imageOf file) + 1) } ∧
        s'.held = s.held ∧ s'.nextPin = s.nextPin)
      (fun e s' => Settled imageOf holds s s' ∧
        Beyond ((s.picture imageOf).pages (imageOf file)) e) := by
  unfold newPage
  rw [ends_bind]
  refine (ends_makeRoom hs).imp ?_ ?_
  · rintro _ s₁ ⟨hset, -⟩
    have hs₁ := hset.coherent
    rw [ends_bind, ends_onFiles]
    refine (Files.ends_allocatePage s₁.files file).imp ?_ ?_
    · rintro p fs ⟨o, ho, rfl, hnear, rfl⟩
      have himg := hs₁.stands_of_byHandle? ho
      have hpages : (s₁.files.disk.image o.image).pages =
          (s.picture imageOf).pages (imageOf file) := by
        rw [himg]
        exact hset.quiet.pages_eq _
      have hend : (s.files.disk.image (imageOf file)).pages ≤ (s₁.files.disk.image o.image).pages :=
        Nat.le_of_eq hpages.symm
      have hnear' : ((s₁.files.disk.image o.image).pages + 1) * blockSize ≤ Files.maxOffset :=
        Nat.le_trans (Nat.mul_le_mul_right _ (Nat.le_succ _)) hnear
      rw [ends_bind, ends_newFrame, ends_bind, ends_modifyPool, ends_bind, ends_report]
      set p := (s₁.files.disk.image o.image).pages with hp
      set s₂ : Store := { s₁ with
        files := s₁.files.putImage o.image ((s₁.files.disk.image o.image).setSize
          ((p + 2) * blockSize))
        frames := s₁.frames.push (Buffer.zero blockSize)
        pool := s₁.pool.use ⟨⟨file, p⟩, s₁.frames.size, true, 1⟩ } with hs₂def
      obtain ⟨hs₂, hpic₂⟩ := hs₁.extend (k := ⟨file, p⟩) ho hp hnear'
        (show s₂.files = _ from rfl) rfl rfl
      have hset₂ := Settled.report hs₂ (.pageAllocated p file)
      refine ⟨?_, hs.content_of_pages_le hend, ?_, hset₂.coherent, ?_, hset.quiet.held,
        hset.quiet.nextPin⟩
      · rw [← hpages]
      · rw [← hset.quiet.table_eq, ho]
        rfl
      · refine hset₂.quiet.picture.trans (hpic₂.trans ?_)
        rw [hset.quiet.picture]
    · rintro e fs ⟨rfl, hfar, -⟩
      refine ⟨hset, fun w hw => ?_⟩
      obtain ⟨o, ho, hlimit⟩ := hfar w hw
      rw [hs₁.stands_of_byHandle? ho, hset.quiet.pages_eq] at hlimit
      exact hlimit
  · rintro e _ ⟨rfl, hfe⟩
    exact ⟨.refl hs, beyond_of_error hfe⟩

/-! ## Giving a pin back -/

/-- **A pin that is held can be given back.** -/
theorem ends_unpin (hs : Coherent imageOf holds s) {h : Hold} (hmem : h ∈ holds) {dirty : Bool}
    (hdirty : h.wrote = true → dirty = true) :
    Ends (unpin h.key dirty) s (fun _ s' => Settled imageOf (holds.erase h) s s')
      (fun _ _ => False) := by
  obtain ⟨e, hfind, -⟩ := Option.map_eq_some_iff.mp (hs.held h hmem)
  have hpins : e.pins ≠ 0 := by
    rw [← Pool.pinCount_of_find? hfind]
    exact fun hzero => hs.not_held_of_pinCount hzero h hmem rfl
  unfold unpin
  rw [ends_bind, ends_get, hfind]
  refine ends_ite.mpr ⟨fun hzero => absurd hzero hpins, fun _ => ?_⟩
  exact .of_change (hs.unpin hmem hdirty rfl rfl rfl) rfl rfl

/-- A pin that nobody holds cannot be given back. -/
theorem ends_unpin_of_pinCount {k : PageKey} (hpins : s.pool.pinCount k = 0) (dirty : Bool) :
    Ends (unpin k dirty) s (fun _ _ => False) (fun e s' => s' = s ∧ ∃ fe, e = .error fe) := by
  unfold unpin
  rw [ends_bind, ends_get]
  cases hfind : s.pool.find? k with
  | none => exact ⟨rfl, _, rfl⟩
  | some e =>
    rw [Pool.pinCount_of_find? hfind] at hpins
    exact ends_ite.mpr ⟨fun _ => ⟨rfl, _, rfl⟩, fun hne => absurd hpins hne⟩

theorem ends_markDirty (hs : Coherent imageOf holds s) (k : PageKey) :
    Ends (markDirty k) s (fun _ s' => Settled imageOf holds s s')
      (fun e s' => s' = s ∧ ∃ fe, e = .error fe) := by
  unfold markDirty
  rw [ends_bind, ends_get]
  cases hfind : s.pool.find? k with
  | none => exact ⟨rfl, _, rfl⟩
  | some e => exact .of_change (hs.markDirty hfind rfl rfl rfl) rfl rfl

/-! ## Taking pages out -/

/-- **A page that is evicted is written back first**; one that has a pin stays. -/
theorem ends_evict (hs : Coherent imageOf holds s) (k : PageKey) :
    Ends (evict k) s
      (fun out s' => Settled imageOf holds s s' ∧ (out = true → s'.pool.frame? k = none))
      (fun e s' => s' = s ∧ ∃ fe, e = .error fe) := by
  unfold evict
  rw [ends_bind, ends_get]
  cases hfind : s.pool.find? k with
  | none => exact ⟨.refl hs, fun _ => Pool.frame?_eq_none_iff.mpr hfind⟩
  | some e =>
    refine ends_ite.mpr ⟨fun _ => ⟨.refl hs, nofun⟩, fun hzero => ?_⟩
    have hpins : s.pool.pinCount k = 0 := by
      rw [Pool.pinCount_of_find? hfind]
      omega
    have hout := ends_flushPage_erase hs hpins
    rw [ends_bind] at hout
    rw [ends_bind]
    refine hout.imp ?_ fun _ _ h => h
    rintro _ s' h
    rw [ends_modifyPool] at h
    rw [ends_bind, ends_modifyPool]
    refine ⟨h.1, fun _ => ?_⟩
    rw [h.2, if_pos rfl]

/-- A page that equals its block may be dropped. -/
theorem ends_drop {ε : Type} (hs : Coherent imageOf holds s) {k : PageKey}
    (hdirty : s.pool.isDirty k = false) (hpins : s.pool.pinCount k = 0) :
    Ends (drop k : StoreM ε Unit) s
      (fun _ s' => Settled imageOf holds s s' ∧ s'.pool = s.pool.erase k) (fun _ _ => False) := by
  unfold drop
  rw [ends_bind, ends_get]
  cases hfind : s.pool.find? k with
  | none =>
    refine ⟨.refl hs, ?_⟩
    have hout : s.pool.entries.filter (·.key != k) = s.pool.entries :=
      List.filter_eq_self.mpr fun e he => by
        simpa using Pool.find?_eq_none_iff.mp hfind e he
    rw [Pool.erase, hout]
  | some e =>
    rw [Pool.pinCount_of_find? hfind] at hpins
    have hset : Settled imageOf holds s { s with pool := s.pool.erase k } :=
      .erase hs hdirty ((Pool.pinCount_of_find? hfind).trans hpins)
    rw [ends_bind, ends_modifyPool, ends_ite]
    exact ⟨fun hpos => absurd hpins (Nat.ne_of_gt hpos), fun _ => ⟨hset, rfl⟩⟩

/-- Pages that are neither dirty nor pinned may be dropped one after the other. -/
theorem ends_forM_drop {ε : Type} (hs : Coherent imageOf holds s) {keys : List PageKey}
    (hkeys : ∀ k ∈ keys, s.pool.isDirty k = false ∧ s.pool.pinCount k = 0) :
    Ends (keys.forM drop : StoreM ε Unit) s
      (fun _ s' => Settled imageOf holds s s' ∧
        ∀ j, s'.pool.frame? j = if j ∈ keys then none else s.pool.frame? j)
      (fun _ _ => False) := by
  induction keys generalizing s with
  | nil => exact ends_pure.mpr ⟨.refl hs, fun _ => (if_neg List.not_mem_nil).symm⟩
  | cons k keys ih =>
    show Ends (do drop k; keys.forM drop) s _ _
    obtain ⟨hdirty, hpins⟩ := hkeys k List.mem_cons_self
    rw [ends_bind]
    refine (ends_drop hs hdirty hpins).imp ?_ fun _ _ h => h
    rintro _ s₁ ⟨hset, hpool⟩
    have hkeys₁ : ∀ j ∈ keys, s₁.pool.isDirty j = false ∧ s₁.pool.pinCount j = 0 := by
      intro j hj
      obtain ⟨hd, hp⟩ := hkeys j (List.mem_cons_of_mem _ hj)
      rw [hpool, Pool.isDirty_erase, Pool.pinCount_erase, hd, hp, ite_self, ite_self]
      exact ⟨rfl, rfl⟩
    refine (ih hset.coherent hkeys₁).imp ?_ fun _ _ h => h
    rintro _ s₂ ⟨hset₂, hframe?⟩
    refine ⟨hset.trans hset₂, fun j => ?_⟩
    rw [hframe?, hpool, Pool.frame?_erase]
    by_cases hj : j = k <;> simp [hj]

/-- **A file whose pages have no pins may be taken out of the pool**, and then
none of its pages is buffered. -/
theorem ends_discardFile (hs : Coherent imageOf holds s) {file : Nat}
    (hpins : ∀ k, k.file = file → s.pool.pinCount k = 0) :
    Ends (discardFile file) s
      (fun _ s' => Settled imageOf holds s s' ∧ ∀ k, k.file = file → s'.pool.frame? k = none)
      (fun _ s' => Settled imageOf holds s s' ∧ (s.files.table.byHandle? file = none ∨
        ∃ k f, s.pool.frame? k = some f ∧ k.file = file ∧ s.Unwritable k)) := by
  unfold discardFile
  rw [ends_bind, ends_get]
  set keys := s.pool.keysWhere (·.key.file == file) with hkeysDef
  have hkeys : ∀ k ∈ keys, k.file = file ∧ ∃ f, s.pool.frame? k = some f := by
    intro k hk
    obtain ⟨e, hfind, hcond⟩ := (Pool.mem_keysWhere hs.distinct).mp hk
    rw [(Pool.mem_of_find? hfind).2] at hcond
    exact ⟨by simpa using hcond, _, Pool.frame?_of_find? hfind⟩
  rw [ends_bind]
  refine (ends_flushPages hs keys).imp ?_ ?_
  · rintro _ s₁ ⟨hset, hclean, hflushed⟩
    have hdrop : ∀ k ∈ keys, s₁.pool.isDirty k = false ∧ s₁.pool.pinCount k = 0 := fun k hk =>
      ⟨hflushed k hk, (hclean.pinCount_eq k).trans (hpins k (hkeys k hk).1)⟩
    rw [ends_bind]
    refine (ends_forM_drop hset.coherent hdrop).imp ?_ fun _ _ h => h.elim
    rintro _ s₂ ⟨hset₂, hframe?⟩
    rw [ends_onFiles, Files.ends_syncFile]
    refine ⟨fun _ => ⟨hset.trans hset₂, fun k hk => ?_⟩, fun hnone => ⟨hset.trans hset₂, .inl ?_⟩⟩
    · show s₂.pool.frame? k = none
      rw [hframe?, hclean.frame?_eq]
      split
      · rfl
      · rename_i hout
        rw [Pool.frame?_eq_none_iff, Pool.find?_eq_none_iff]
        rintro e he rfl
        refine hout ((Pool.mem_keysWhere hs.distinct).mpr ⟨e, Pool.find?_of_mem hs.distinct he, ?_⟩)
        exact beq_iff_eq.mpr hk
    · rw [← hset.quiet.table_eq, ← hset₂.quiet.table_eq]
      exact hnone
  · rintro e s₁ ⟨hset, -, -, k, hk, hfar⟩
    obtain ⟨hfile, f, hf⟩ := hkeys k hk
    exact ⟨hset, .inr ⟨k, f, hf, hfile, hfar⟩⟩

end Store

end SlottedFile
