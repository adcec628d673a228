import SlottedFile.Proofs.Pool.Run
import SlottedFile.Proofs.Pool.Taken
import SlottedFile.Proofs.Pool.Writeback

/-!
# The pool under any calls

A pool does what it is asked to, also by a caller who keeps to no rule: pages are fetched that
lie behind the end of their file, pins are given back that somebody else took, files are closed
while their pages are buffered. What can be said of a run of such calls (`PoolRun`) is said of
one page at a time: each call passes the page by, or takes a pin of it, or makes it, or gives a
pin of it back, or discards it (`PoolCall.ends_run_page`).
-/

namespace SlottedFile

/-! ## One call and one page -/

namespace Store

variable {s s' s'' : Store} {j k : PageKey}

/-- **A store after something that passed a page by**: the page has the pins that it had, and
has not entered the pool. -/
structure PassedBy (k : PageKey) (s s' : Store) : Prop where
  goes : s.Goes s'
  pinCount_eq : s'.pool.pinCount k = s.pool.pinCount k
  out : s.pool.frame? k = none → s'.pool.frame? k = none

namespace PassedBy

theorem refl (hs : s.Tidy) : PassedBy k s s := ⟨.refl hs, rfl, fun h => h⟩

theorem trans (h : PassedBy k s s') (h' : PassedBy k s' s'') : PassedBy k s s'' where
  goes := h.goes.trans h'.goes
  pinCount_eq := h'.pinCount_eq.trans h.pinCount_eq
  out := fun hnone => h'.out (h.out hnone)

theorem of_cleaned (hgoes : s.Goes s') (hclean : s.pool.Cleaned s'.pool) : PassedBy k s s' where
  goes := hgoes
  pinCount_eq := hclean.pinCount_eq k
  out := fun hnone => (hclean.frame?_eq k).trans hnone

theorem of_wroteBack {keys : List PageKey} (h : WroteBack keys s s') : PassedBy k s s' :=
  .of_cleaned h.goes h.cleaned

theorem of_onward {P : PageKey → Prop} (h : Onward P [] [] s s') (hs : s.Tidy)
    (hout : ∀ j, s.pool.frame? j = none → s'.pool.frame? j = none) : PassedBy k s s' where
  goes := .of_onward h hs
  pinCount_eq := h.pinCount_eq k
  out := hout k

/-- Another page is used. -/
theorem use {files : Files} {e : PoolEntry} {frames : Array Block} {events : List Event}
    (hs : s.Tidy) (hfiles : s.files.Onward files) (hk : k ≠ e.key) :
    PassedBy k s { s with files, frames, events, pool := s.pool.use e } where
  goes := ⟨hfiles, hfiles.sound hs.files, hs.distinct.use e, hs.id_lt⟩
  pinCount_eq := Pool.pinCount_use.trans (if_neg hk)
  out := fun hnone => Pool.frame?_use.trans ((if_neg hk).trans hnone)

end PassedBy

/-- A change of one entry of the pool that moves no page. -/
theorem Goes.update {f : PoolEntry → PoolEntry} (hs : s.Tidy) (hf : ∀ e, (f e).key = e.key) :
    s.Goes { s with pool := s.pool.update j f } :=
  ⟨.refl _, hs.files, hs.distinct.update j hf, hs.id_lt⟩

namespace Tidy

theorem ends_load_page (hs : s.Tidy) (j : PageKey) :
    Ends (load j) s
      (fun _ s' => (s.files.table.byHandle? j.file).isSome ∧
        s.Goes s' ∧ (∃ e, s'.pool.find? j = some e ∧ e.pins = 0) ∧
        ∀ k, k ≠ j → PassedBy k s s')
      (fun _ s' => ∀ k, PassedBy k s s') := by
  unfold load
  rw [ends_bind]
  refine (ends_makeRoom (P := fun _ => True) hs).imp ?_ ?_
  · rintro _ s₁ ⟨honward, hout⟩
    have hs₁ := honward.tidy hs
    rw [ends_bind, ends_onFiles]
    refine (Files.ends_readPage s₁.files j.file j.page).imp ?_ ?_
    · rintro b fs ⟨rfl, -, o, ho, -⟩
      rw [ends_bind, ends_newFrame, ends_modifyPool]
      have hroom : ∀ k, PassedBy k s s₁ := fun k => .of_onward honward hs hout
      refine ⟨?_, ?_, ⟨_, Pool.find?_use.trans (if_pos rfl), rfl⟩, fun k hk => ?_⟩
      · rw [← honward.files.table_eq, ho]
        rfl
      · exact (hroom j).goes.trans ⟨.refl _, hs₁.files, hs₁.distinct.use _, hs₁.id_lt⟩
      · exact (hroom k).trans (.use hs₁ (.refl _) hk)
    · rintro e fs ⟨rfl, -⟩
      exact fun k => .of_onward honward hs hout
  · rintro e _ ⟨rfl, -⟩
    exact fun k => .refl hs

/-- A page that is buffered gets a pin, and any other page is passed by. -/
theorem ends_fetch_buffered (hs : s.Tidy) {e : PoolEntry} (hfind : s.pool.find? j = some e) :
    Ends (fetch j) s
      (fun _ s' => s.Goes s' ∧ s'.pool.pinCount j = s.pool.pinCount j + 1 ∧
        ∀ k, k ≠ j → PassedBy k s s')
      (fun _ _ => False) := by
  obtain ⟨-, hkey⟩ := Pool.mem_of_find? hfind
  have hcontains : s.pool.contains j = true := by rw [Pool.contains, hfind]; rfl
  unfold fetch
  rw [ends_bind, ends_get, hcontains]
  refine ends_bind.mpr (ends_get.mpr ?_)
  rw [hfind]
  refine ⟨⟨.refl _, hs.files, hs.distinct.use _, hs.id_lt⟩, ?_, fun k hk => ?_⟩
  · rw [Pool.pinCount_of_find? hfind]
    exact Pool.pinCount_use.trans (if_pos hkey.symm)
  · exact .use hs (.refl _) (by rwa [hkey])

/-- **A page that is fetched gets a pin**, and any other page is passed by. -/
theorem ends_fetch_page (hs : s.Tidy) (j : PageKey) :
    Ends (fetch j) s
      (fun _ s' => s.Goes s' ∧ s'.pool.pinCount j = s.pool.pinCount j + 1 ∧
        (s.pool.frame? j = none → (s.files.table.byHandle? j.file).isSome) ∧
        ∀ k, k ≠ j → PassedBy k s s')
      (fun _ s' => ∀ k, PassedBy k s s') := by
  cases hfind : s.pool.find? j with
  | some e =>
    refine (hs.ends_fetch_buffered hfind).imp ?_ fun _ _ h => h.elim
    rintro f s' ⟨hgoes, hpins, hother⟩
    refine ⟨hgoes, hpins, fun hnone => ?_, hother⟩
    rw [Pool.frame?_of_find? hfind] at hnone
    cases hnone
  | none =>
    have hcontains : s.pool.contains j = false := by rw [Pool.contains, hfind]; rfl
    unfold fetch
    rw [ends_bind, ends_get, hcontains]
    refine ends_bind.mpr ((hs.ends_load_page j).imp ?_ fun _ _ h => h)
    rintro _ s₁ ⟨hopen, hgoes, ⟨e, hfind₁, hzero⟩, hother⟩
    -- what is left to do is what a fetch of the loaded page does
    have hcontains₁ : s₁.pool.contains j = true := by rw [Pool.contains, hfind₁]; rfl
    have hhit := hgoes.tidy.ends_fetch_buffered hfind₁
    unfold fetch at hhit
    rw [ends_bind, ends_get, hcontains₁] at hhit
    refine hhit.imp ?_ fun _ _ h => h.elim
    rintro f s' ⟨hgoes', hpins, hother'⟩
    refine ⟨hgoes.trans hgoes', ?_, fun _ => hopen, fun k hk => (hother k hk).trans (hother' k hk)⟩
    rw [hpins, Pool.pinCount_of_find? hfind₁, hzero,
      Pool.pinCount_of_frame?_none (Pool.frame?_eq_none_iff.mpr hfind)]

/-- **A new page has the number of the pages that its file had**, and one pin. Any other page
is passed by. -/
theorem ends_newPage_page (hs : s.Tidy) (file : Nat) :
    Ends (newPage file) s
      (fun r s' => s.Goes s' ∧ r.1.file = file ∧ s'.pool.pinCount r.1 = 1 ∧
        (∃ o, s.files.table.byHandle? file = some o ∧
          (s.files.disk.image o.image).pages ≤ r.1.page ∧
          (s'.files.disk.image o.image).pages = r.1.page + 1) ∧
        ∀ k, k ≠ r.1 → PassedBy k s s')
      (fun _ s' => ∀ k, PassedBy k s s') := by
  unfold newPage
  rw [ends_bind]
  refine (ends_makeRoom (P := fun _ => True) hs).imp ?_ ?_
  · rintro _ s₁ ⟨honward, hout⟩
    have hs₁ := honward.tidy hs
    have hroom : ∀ k, PassedBy k s s₁ := fun k => .of_onward honward hs hout
    rw [ends_bind, ends_onFiles]
    refine (Files.ends_allocatePage s₁.files file).imp ?_ ?_
    · rintro p fs ⟨o, ho, hp, -, rfl⟩
      have hi := hs₁.files.lt_images ho
      have hgrown : s₁.files.Onward (s₁.files.putImage o.image
          ((s₁.files.disk.image o.image).setSize ((p + 2) * blockSize))) := by
        refine .putImage hi ?_ fun _ => Image.paged_setSize _ _
        rw [Image.size_setSize, hp]
        exact Nat.le_trans (Image.size_le_of_pages _) (Nat.mul_le_mul_right _ (Nat.le_succ _))
      rw [ends_bind, ends_newFrame, ends_bind, ends_modifyPool, ends_bind, ends_report]
      refine ⟨?_, rfl, Pool.pinCount_use.trans (if_pos rfl), ⟨o, ?_, ?_, ?_⟩, fun k hk => ?_⟩
      · exact (Goes.of_onward honward hs).trans
          ⟨hgrown, hgrown.sound hs₁.files, hs₁.distinct.use _, hs₁.id_lt⟩
      · rw [← honward.files.table_eq]
        exact ho
      · rw [hp]
        exact honward.files.pages_le _
      · show ((s₁.files.disk.setImage o.image _).image o.image).pages = p + 1
        rw [Disk.image_setImage _ hi, if_pos rfl]
        exact Image.pages_setSize _ _
      · exact (hroom k).trans (.use hs₁ hgrown hk)
    · rintro e fs ⟨rfl, -⟩
      exact hroom
  · rintro e _ ⟨rfl, -⟩
    exact fun k => .refl hs

/-- **A pin is given back** if the page has one, and any other page is passed by. -/
theorem ends_unpin_page (hs : s.Tidy) (j : PageKey) (dirty : Bool) :
    Ends (unpin j dirty) s
      (fun _ s' => s.Goes s' ∧ s'.pool.pinCount j + 1 = s.pool.pinCount j ∧
        (∀ k, s'.pool.frame? k = s.pool.frame? k) ∧ ∀ k, k ≠ j → PassedBy k s s')
      (fun _ s' => s' = s) := by
  set note : PoolEntry → PoolEntry := fun e =>
    { e with pins := e.pins - 1, dirty := e.dirty || dirty } with hnote
  unfold unpin
  rw [ends_bind, ends_get]
  cases hfind : s.pool.find? j with
  | none => exact rfl
  | some e =>
    refine ends_ite.mpr ⟨fun _ => rfl, fun hpins => ?_⟩
    have hframe : ∀ k, (s.pool.update j note).frame? k = s.pool.frame? k := fun k =>
      Pool.frame?_update (fun _ => rfl) fun _ => rfl
    have hgoes : s.Goes { s with pool := s.pool.update j note } := .update hs fun _ => rfl
    refine ⟨hgoes, ?_, hframe, fun k hk => ⟨hgoes, ?_, fun hnone => (hframe k).trans hnone⟩⟩
    · rw [Pool.pinCount_of_find? hfind]
      refine (congrArg (· + 1) ((Pool.pinCount_update (f := note) (fun _ => rfl) hfind).trans
        (if_pos rfl))).trans ?_
      exact Nat.succ_pred_eq_of_pos (Nat.pos_of_ne_zero hpins)
    · exact (Pool.pinCount_update (f := note) (fun _ => rfl) hfind).trans (if_neg hk)

theorem ends_markDirty_page (hs : s.Tidy) (j : PageKey) :
    Ends (markDirty j) s (fun _ s' => PassedBy k s s') (fun _ s' => s' = s) := by
  unfold markDirty
  rw [ends_bind, ends_get]
  cases hfind : s.pool.find? j with
  | none => exact rfl
  | some e =>
    rw [ends_modifyPool]
    refine ⟨.update hs fun _ => rfl, ?_, fun hnone => ?_⟩
    · exact Pool.pinCount_update_of_pins (f := fun e : PoolEntry => { e with dirty := true })
        (fun _ => rfl) fun _ => rfl
    · exact (Pool.frame?_update (f := fun e : PoolEntry => { e with dirty := true })
        (fun _ => rfl) fun _ => rfl).trans hnone

theorem ends_flushPages_page (hs : s.Tidy) (keys : List PageKey) :
    Ends (flushPages keys) s (fun _ s' => WroteBack keys s s') (fun _ s' => PassedBy k s s') := by
  refine (hs.ends_flushPages_exactly keys).imp (fun _ _ h => h) ?_
  rintro e s' ⟨front, -, -, -, -, -, hwrote⟩
  exact .of_wroteBack hwrote

theorem ends_flushFile_page (hs : s.Tidy) (file : Nat) :
    Ends (flushFile file) s (fun _ s' => PassedBy k s s') (fun _ s' => PassedBy k s s') := by
  unfold flushFile
  rw [ends_bind, ends_get, ends_bind]
  refine (hs.ends_flushPages_page _).imp (fun _ s' hwrote => ?_) fun _ _ h => h
  rw [ends_onFiles, Files.ends_syncFile]
  exact ⟨fun _ => .of_wroteBack hwrote, fun _ => .of_wroteBack hwrote⟩

theorem ends_flushAll_page (hs : s.Tidy) :
    Ends flushAll s (fun _ s' => PassedBy k s s') (fun _ s' => PassedBy k s s') := by
  unfold flushAll
  rw [ends_bind, ends_get, ends_bind]
  exact (hs.ends_flushPages_page _).imp (fun _ _ h => .of_wroteBack h) fun _ _ h => h

/-- Only a page without a pin is evicted. -/
theorem ends_evict_page (hs : s.Tidy) (j : PageKey) :
    Ends (evict j) s (fun _ s' => PassedBy k s s') (fun _ s' => PassedBy k s s') := by
  unfold evict
  rw [ends_bind, ends_get]
  cases hfind : s.pool.find? j with
  | none => exact .refl hs
  | some e =>
    refine ends_ite.mpr ⟨fun _ => .refl hs, fun hpins => ?_⟩
    have hzero : s.pool.pinCount j = 0 :=
      (Pool.pinCount_of_find? hfind).trans (Nat.eq_zero_of_not_pos hpins)
    have hout := ends_flushPage_erase (P := fun _ => True) hs hzero
    rw [ends_bind] at hout ⊢
    refine hout.imp (fun _ _ h => .of_onward h.1 hs h.2.2) ?_
    rintro _ _ ⟨rfl, -⟩
    exact .refl hs

theorem ends_drop {ε : Type} (hs : s.Tidy) (j : PageKey) :
    Ends (drop j : StoreM ε Unit) s
      (fun _ s' => s.Goes s' ∧ ∀ k, s'.pool.find? k = if k = j then none else s.pool.find? k)
      (fun _ _ => False) := by
  unfold drop
  rw [ends_bind, ends_get]
  cases hfind : s.pool.find? j with
  | none =>
    refine ends_pure.mpr ⟨.refl hs, fun k => ?_⟩
    split
    · rename_i hk
      rw [hk, hfind]
    · rfl
  | some e =>
    rw [ends_bind, ends_modifyPool, ends_ite]
    have hgoes : ∀ events, s.Goes { s with pool := s.pool.erase j, events } := fun _ =>
      ⟨.refl _, hs.files, hs.distinct.erase j, hs.id_lt⟩
    exact ⟨fun _ => ⟨hgoes _, fun _ => Pool.find?_erase⟩,
      fun _ => ⟨hgoes _, fun _ => Pool.find?_erase⟩⟩

/-- **Pages are dropped one after the other**, and the others stay where they are. -/
theorem ends_forM_drop_page {ε : Type} (hs : s.Tidy) (keys : List PageKey) :
    Ends (keys.forM drop : StoreM ε Unit) s
      (fun _ s' => s.Goes s' ∧ ∀ k, s'.pool.find? k = if k ∈ keys then none else s.pool.find? k)
      (fun _ _ => False) := by
  induction keys generalizing s with
  | nil => exact ends_pure.mpr ⟨.refl hs, fun k => (if_neg List.not_mem_nil).symm⟩
  | cons j keys ih =>
    show Ends (do drop j; keys.forM drop) s _ _
    rw [ends_bind]
    refine (hs.ends_drop j).imp ?_ fun _ _ h => h
    rintro _ s₁ ⟨hgoes, hfirst⟩
    refine (ih hgoes.tidy).imp ?_ fun _ _ h => h
    rintro _ s₂ ⟨hgoes', hrest⟩
    refine ⟨hgoes.trans hgoes', fun k => ?_⟩
    rw [hrest, hfirst]
    by_cases hmem : k ∈ keys
    · rw [if_pos hmem, if_pos (List.mem_cons_of_mem _ hmem)]
    · rw [if_neg hmem]
      exact if_congr (by rw [List.mem_cons, or_iff_left hmem]) rfl rfl

/-- **The pages of a file leave the pool**, pins or no pins, unless one cannot be written back;
and any other page is passed by. -/
theorem ends_discardFile_page (hs : s.Tidy) (file : Nat) :
    Ends (discardFile file) s
      (fun _ s' => s.Goes s' ∧ (k.file = file → s'.pool.frame? k = none) ∧
        (k.file ≠ file → PassedBy k s s'))
      (fun _ s' => s.Goes s' ∧ (PassedBy k s s' ∨ s.files.table.byHandle? file = none)) := by
  unfold discardFile
  rw [ends_bind, ends_get, ends_bind]
  set keys := s.pool.keysWhere (·.key.file == file) with hkeys
  have hmem : ∀ j, j ∈ keys ↔ j.file = file ∧ s.pool.frame? j ≠ none := by
    intro j
    rw [hkeys, Pool.mem_keysWhere hs.distinct, ne_eq, Pool.frame?_eq_none_iff]
    constructor
    · rintro ⟨e, hfind, hcond⟩
      rw [(Pool.mem_of_find? hfind).2, beq_iff_eq] at hcond
      exact ⟨hcond, by rw [hfind]; exact nofun⟩
    · rintro ⟨hfile, hbuffered⟩
      obtain ⟨e, hfind⟩ := Option.ne_none_iff_exists'.mp hbuffered
      exact ⟨e, hfind, by rw [(Pool.mem_of_find? hfind).2, beq_iff_eq, hfile]⟩
  refine (hs.ends_flushPages_page keys).imp ?_ fun _ _ h => ⟨h.goes, .inl h⟩
  intro _ s₁ hwrote
  rw [ends_bind]
  refine (hwrote.goes.tidy.ends_forM_drop_page keys).imp ?_ fun _ _ h => h.elim
  rintro _ s₂ ⟨hgoes, hfind⟩
  have hgoes' := hwrote.goes.trans hgoes
  have hdropped : k.file = file → s₂.pool.frame? k = none := by
    intro hk
    rw [Pool.frame?_eq_none_iff, hfind, ite_eq_left_iff]
    intro hnot
    by_contra hbuffered
    refine hnot ((hmem k).mpr ⟨hk, ?_⟩)
    rw [← hwrote.cleaned.frame?_eq, ne_eq, Pool.frame?_eq_none_iff]
    exact hbuffered
  have hpassed : k.file ≠ file → PassedBy k s s₂ := by
    intro hk
    have hsame : s₂.pool.find? k = s₁.pool.find? k :=
      (hfind k).trans (if_neg fun h => hk ((hmem k).mp h).1)
    refine (PassedBy.of_wroteBack hwrote).trans ⟨hgoes, ?_, fun hnone => ?_⟩
    · rw [Pool.pinCount, hsame, Pool.pinCount]
    · rwa [Pool.frame?, hsame]
  rw [ends_onFiles, Files.ends_syncFile]
  refine ⟨fun _ => ⟨hgoes', hdropped, hpassed⟩, fun hclosed => ⟨hgoes', .inr ?_⟩⟩
  rw [← hgoes'.byHandle?_eq]
  exact hclosed

end Tidy

end Store

/-! ## What a call does to a page -/

namespace PoolCall

/-- Whether a call took a pin of a page. -/
def takes (k : PageKey) : PoolCall × PoolReply → Bool
  | (_, .pinned j _) => j == k
  | _ => false

@[simp] theorem takes_pinned_self (k : PageKey) (call : PoolCall) (f : FrameId) :
    takes k (call, .pinned k f) = true := beq_self_eq_true k

/-- Whether a call gave a pin of a page back. -/
def gives (k : PageKey) : PoolCall × PoolReply → Bool
  | (.unpin hold _, _) => hold.key == k
  | _ => false

theorem gives_unpin {k : PageKey} {hold : Hold} (h : hold.key = k) (dirty : Bool)
    (r : PoolReply) : gives k (.unpin hold dirty, r) = true := beq_iff_eq.mpr h

/-- Whether a call discarded the file of a page. -/
def discards (k : PageKey) : PoolCall × PoolReply → Bool
  | (.discardFile file, _) => file == k.file
  | _ => false

end PoolCall

open PoolCall in
/-- **What a call that returned did to a page.** -/
inductive PageStep (k : PageKey) (s s' : Store) : PoolCall → PoolReply → Prop
  | passed {call : PoolCall} {r : PoolReply} (htakes : takes k (call, r) = false)
      (hgives : gives k (call, r) = false) (hdiscards : discards k (call, r) = false)
      (h : s.PassedBy k s') : PageStep k s s' call r
  | fetched {f : FrameId} (hpins : s'.pool.pinCount k = s.pool.pinCount k + 1)
      (hopen : s.pool.frame? k = none → (s.files.table.byHandle? k.file).isSome) :
      PageStep k s s' (.fetch k) (.pinned k f)
  | made {o : OpenFile} {f : FrameId} (ho : s.files.table.byHandle? k.file = some o)
      (hbehind : (s.files.disk.image o.image).pages ≤ k.page)
      (hinside : (s'.files.disk.image o.image).pages = k.page + 1)
      (hpins : s'.pool.pinCount k = 1) : PageStep k s s' (.newPage k.file) (.pinned k f)
  | unpinned {hold : Hold} {dirty : Bool} (hkey : hold.key = k)
      (hpins : s'.pool.pinCount k + 1 = s.pool.pinCount k)
      (hframe : s'.pool.frame? k = s.pool.frame? k) : PageStep k s s' (.unpin hold dirty) .done
  | discarded (hout : s'.pool.frame? k = none) : PageStep k s s' (.discardFile k.file) .done

open Store in
/-- **What any call does to any page.** A call that fails passes every page by, except that a
file that is closed can be discarded and the call fail afterwards. -/
theorem PoolCall.ends_run_page {s : Store} (hs : s.Tidy) (k : PageKey) (call : PoolCall) :
    Ends call.run s (fun r s' => s.Goes s' ∧ PageStep k s s' call r)
      (fun _ s' => s.Goes s' ∧ (PassedBy k s s' ∨
        ∃ file, call = .discardFile file ∧ s.files.table.byHandle? file = none)) := by
  cases call with
  | fetch j =>
    refine ends_bind.mpr ((hs.ends_fetch_page j).imp ?_ fun _ _ h => ⟨(h k).goes, .inl (h k)⟩)
    rintro f s' ⟨hgoes, hpins, hopen, hother⟩
    refine ⟨hgoes, ?_⟩
    by_cases hk : k = j
    · subst hk
      exact .fetched hpins hopen
    · exact .passed (beq_eq_false_iff_ne.mpr (Ne.symm hk)) rfl rfl (hother k hk)
  | newPage file =>
    refine ends_bind.mpr ((hs.ends_newPage_page file).imp ?_
      fun _ _ h => ⟨(h k).goes, .inl (h k)⟩)
    rintro ⟨j, f⟩ s' ⟨hgoes, rfl, hpins, ⟨o, ho, hbehind, hinside⟩, hother⟩
    refine ⟨hgoes, ?_⟩
    by_cases hk : k = j
    · subst hk
      exact .made ho hbehind hinside hpins
    · exact .passed (beq_eq_false_iff_ne.mpr (Ne.symm hk)) rfl rfl (hother k hk)
  | unpin hold dirty =>
    refine ends_bind.mpr ((hs.ends_unpin_page hold.key dirty).imp ?_ ?_)
    · rintro _ s' ⟨hgoes, hpins, hframe, hother⟩
      refine ⟨hgoes, ?_⟩
      by_cases hk : k = hold.key
      · subst hk
        exact .unpinned rfl hpins (hframe _)
      · exact .passed rfl (beq_eq_false_iff_ne.mpr (Ne.symm hk)) rfl (hother k hk)
    · rintro _ _ rfl
      exact ⟨.refl hs, .inl (.refl hs)⟩
  | markDirty j =>
    refine ends_bind.mpr ((hs.ends_markDirty_page j).imp
      (fun _ _ h => ⟨h.goes, .passed rfl rfl rfl h⟩) ?_)
    rintro _ _ rfl
    exact ⟨.refl hs, .inl (.refl hs)⟩
  | flushPage j =>
    refine ends_bind.mpr ((hs.ends_flushPage_exactly j).imp
      (fun _ _ h => ⟨h.goes, .passed rfl rfl rfl (.of_wroteBack h)⟩) ?_)
    rintro _ _ ⟨rfl, -⟩
    exact ⟨.refl hs, .inl (.refl hs)⟩
  | flushFile file =>
    exact ends_bind.mpr ((hs.ends_flushFile_page file).imp
      (fun _ _ h => ⟨h.goes, .passed rfl rfl rfl h⟩) fun _ _ h => ⟨h.goes, .inl h⟩)
  | flushAll =>
    exact ends_bind.mpr (hs.ends_flushAll_page.imp
      (fun _ _ h => ⟨h.goes, .passed rfl rfl rfl h⟩) fun _ _ h => ⟨h.goes, .inl h⟩)
  | evict j =>
    exact ends_bind.mpr ((hs.ends_evict_page j).imp
      (fun _ _ h => ⟨h.goes, .passed rfl rfl rfl h⟩) fun _ _ h => ⟨h.goes, .inl h⟩)
  | discardFile file =>
    refine ends_bind.mpr ((hs.ends_discardFile_page (k := k) file).imp ?_ ?_)
    · rintro _ s' ⟨hgoes, hout, hother⟩
      refine ⟨hgoes, ?_⟩
      by_cases hk : k.file = file
      · subst hk
        exact .discarded (hout rfl)
      · exact .passed rfl rfl (beq_eq_false_iff_ne.mpr (Ne.symm hk)) (hother hk)
    · rintro _ s' ⟨hgoes, hpassed | hclosed⟩
      · exact ⟨hgoes, .inl hpassed⟩
      · exact ⟨hgoes, .inr ⟨file, rfl, hclosed⟩⟩

/-! ## Runs -/

/-- **A run of any calls that may be made**, from a store with nothing open: the calls that
returned, the latest first, and the store behind them. Files are opened and closed meanwhile,
and bytes are written to frames. -/
inductive PoolRun (may : Store → PoolCall → Prop) : List (PoolCall × PoolReply) → Store → Prop
  | start (disk : Disk) (capacity limit : Nat) : PoolRun may [] (Store.ofDisk disk capacity limit)
  | returned {log : List (PoolCall × PoolReply)} {s s' : Store} {call : PoolCall} {r : PoolReply}
      (h : PoolRun may log s) (hmay : may s call) (hrun : call.run s = .ok r s') :
      PoolRun may ((call, r) :: log) s'
  | failed {log : List (PoolCall × PoolReply)} {s s' : Store} {call : PoolCall}
      {e : Fault FileError} (h : PoolRun may log s) (hmay : may s call)
      (hrun : call.run s = .error e s') : PoolRun may log s'
  | wrote {log : List (PoolCall × PoolReply)} {s : Store} (h : PoolRun may log s) (f : FrameId)
      (b : Block) : PoolRun may log { s with frames := s.frames.setIfInBounds f b }
  | opened {log : List (PoolCall × PoolReply)} {s s' : Store} {path : Path} {handle : Nat}
      (h : PoolRun may log s) (hrun : Store.onFiles (Files.openFile path) s = .ok handle s') :
      PoolRun may log s'
  | closed {log : List (PoolCall × PoolReply)} {s s' : Store} {handle : Nat}
      (h : PoolRun may log s) (hrun : Store.onFiles (Files.closeFile handle) s = .ok () s') :
      PoolRun may log s'

/-- A store on which a file was opened is the same, or has another open file. -/
theorem Store.of_openFile {s s' : Store} {path : Path} {handle : Nat}
    (hrun : Store.onFiles (Files.openFile path) s = .ok handle s') :
    s' = s ∨ ∃ place i, s.files.table.handleAt? place = none ∧
      s.files.disk.node? place = some (.file i) ∧
      s' = s.withTable (s.files.table.add place i) := by
  obtain ⟨place, -, ⟨-, rfl⟩ | ⟨i, hclosed, hnode, -, -, rfl⟩⟩ :=
    (Store.ends_openFile s path).of_ok hrun
  · exact .inl rfl
  · exact .inr ⟨place, i, hclosed, hnode, rfl⟩

theorem Store.of_closeFile {s s' : Store} {handle : Nat}
    (hrun : Store.onFiles (Files.closeFile handle) s = .ok () s') :
    s' = s.withTable (s.files.table.erase handle) := by
  have hclosed : Ends (Store.onFiles (Files.closeFile handle)) s
      (fun _ s' => s' = s.withTable (s.files.table.erase handle)) (fun _ _ => True) :=
    Store.ends_closeFile.mpr ⟨fun _ => rfl, fun _ => trivial⟩
  exact hclosed.of_ok hrun

/-- **No run leaves a store untidy.** -/
theorem PoolRun.tidy {may : Store → PoolCall → Prop} {log : List (PoolCall × PoolReply)}
    {s : Store} (h : PoolRun may log s) : s.Tidy := by
  induction h with
  | start disk capacity limit => exact ⟨.start disk limit, List.nodup_nil, nofun⟩
  | @returned _ _ _ call _ _ _ hrun ih =>
    exact ((call.ends_run_page ih ⟨0, 0⟩).of_ok hrun).1.tidy
  | @failed _ _ _ call _ _ _ hrun ih =>
    exact ((call.ends_run_page ih ⟨0, 0⟩).of_error hrun).1.tidy
  | wrote _ f b ih => exact ⟨ih.files, ih.distinct, ih.id_lt⟩
  | opened _ hrun ih =>
    obtain rfl | ⟨place, i, hclosed, hnode, rfl⟩ := Store.of_openFile hrun
    · exact ih
    · exact ⟨ih.files.add hclosed hnode, ih.distinct, ih.id_lt⟩
  | closed _ hrun ih =>
    rw [Store.of_closeFile hrun]
    exact ⟨ih.files.erase _, ih.distinct, ih.id_lt⟩

end SlottedFile
