import Mathlib.Algebra.Order.Floor.Div
import Mathlib.Data.Finset.Lattice.Fold
import Mathlib.Order.Lattice.Nat
import SlottedFile.Proofs.Records.Refinement

/-!
# Space is reused before a file grows

A file is as long as the records that were in it at one time made it, and no longer: if nobody
asks for pages as such, there are as many pages as the largest number of records so far needs
(`space_is_reused`). It does not matter how the records came and went, whether they were put to
a place or anywhere, and which calls failed in between.

The free list enters in one place only. A page is added when the list is empty, and an empty
list means that every page is full (`Represents.free_eq_nil_iff`). From there on only numbers
matter: a step that adds no page keeps the records within the pages that there are, and one
that adds a page goes beyond them by one record (`KeyedStore.Reuses`).
-/

namespace SlottedFile

/-- Whether a call leaves it to the file which pages there are and what is written to them. -/
def RecordCall.LeavesPages : RecordCall → Prop
  | newPage | freePage | write _ _ | releasePage _ => False
  | _ => True

theorem RecordCall.LeavesPages.readOnly {call : RecordCall} (h : call.LeavesPages) :
    call.ReadOnly := by
  cases call <;> first | exact h.elim | trivial

/-- The use of a file for its records, whose pages links can name. -/
def RecordUse.ofRecords : RecordUse where
  calls := RecordCall.LeavesPages
  pages := fun n => n < noPage

/-! ## What a history tells of the number of records -/

/-- **What an event does to the number of records.** -/
def RecordEvent.recount (n : Nat) : RecordEvent → Nat
  | ⟨.insert _, .ok _⟩ | ⟨.insertAt _ _, .ok _⟩ => n + 1
  | ⟨.delete _, .ok _⟩ => n - 1
  | _ => n

/-- **The number of records** after a history. -/
def liveCount (history : List RecordEvent) : Nat := history.foldl RecordEvent.recount 0

/-- **The largest number of records** at any moment of a history. -/
def peakCount (history : List RecordEvent) : Nat :=
  (Finset.range (history.length + 1)).sup fun n => liveCount (history.take n)

theorem liveCount_append (history : List RecordEvent) (event : RecordEvent) :
    liveCount (history ++ [event]) = event.recount (liveCount history) :=
  List.foldl_append

theorem peakCount_append (history : List RecordEvent) (event : RecordEvent) :
    peakCount (history ++ [event]) =
      max (peakCount history) (liveCount (history ++ [event])) := by
  have hlength : (history ++ [event]).length = history.length + 1 := List.length_append
  have hbefore : ((Finset.range (history.length + 1)).sup fun n =>
      liveCount ((history ++ [event]).take n)) = peakCount history :=
    Finset.sup_congr rfl fun n hn => by
      rw [List.take_append_of_le_length (Nat.le_of_lt_succ (Finset.mem_range.mp hn))]
  have hlast : (history ++ [event]).take (history.length + 1) = history ++ [event] :=
    List.take_of_length_le (Nat.le_of_eq hlength)
  show (Finset.range ((history ++ [event]).length + 1)).sup _ = _
  rw [hlength, Finset.range_add_one, Finset.sup_insert, hlast, hbefore, sup_comm]

/-! ## The keyed store -/

namespace KeyedStore

variable {k k' : KeyedStore}

/-- **A store that came of another one without waste**: it has more pages only if its records
need them. -/
structure Reuses (k k' : KeyedStore) : Prop where
  perPage_eq : k'.perPage = k.perPage
  pages_eq : k'.pages = max k.pages (k'.live.length ⌈/⌉ k.perPage)

/-- No page was added. -/
theorem Reuses.of_pages_eq (hpositive : 0 < k.perPage) (hperPage : k'.perPage = k.perPage)
    (hpages : k'.pages = k.pages) : k.Reuses k' := by
  refine ⟨hperPage, hpages.trans (max_eq_left ?_).symm⟩
  rw [ceilDiv_le_iff_le_mul hpositive, Nat.mul_comm, ← hpages, ← hperPage]
  exact k'.length_live_le

/-- A page was added when all were full, for one record more. -/
theorem Reuses.of_full (hpositive : 0 < k.perPage) (hperPage : k'.perPage = k.perPage)
    (hpages : k'.pages = k.pages + 1) (hfull : k.live.length = k.pages * k.perPage)
    (hlive : k'.live.length = k.live.length + 1) : k.Reuses k' := by
  have hneeded : (k.perPage * k.pages + 1) ⌈/⌉ k.perPage = k.pages + 1 := by
    refine Nat.le_antisymm ?_ (Nat.lt_of_not_le fun hle => ?_)
    · rw [ceilDiv_le_iff_le_mul hpositive, Nat.mul_succ]
      exact Nat.add_le_add_left hpositive _
    · rw [ceilDiv_le_iff_le_mul hpositive] at hle
      exact Nat.lt_irrefl _ hle
  refine ⟨hperPage, ?_⟩
  rw [hlive, hfull, Nat.mul_comm, hneeded, hpages]
  exact (max_eq_right (Nat.le_succ _)).symm

/-- **An insertion adds a page** exactly when the list is empty. -/
theorem pages_of_insert (record : List UInt8) :
    Ends (insert record) k
      (fun _ k' => k.free = [] ∧ k'.pages = k.pages + 1 ∨ k.free ≠ [] ∧ k'.pages = k.pages)
      (fun _ _ => True) := by
  refine (ends_insert record).imp ?_ fun _ _ h => h
  rintro id k' (⟨hnil, -, rfl⟩ | ⟨hhead, -, rfl⟩)
  · exact .inl ⟨hnil, k.addPage.pages_occupy id record⟩
  · refine .inr ⟨fun hnil => ?_, k.pages_occupy id record⟩
    rw [hnil] at hhead
    cases hhead

end KeyedStore

section Steps

variable {p : PlainFile} {k k' : KeyedStore} {id : RecordId} {record : List UInt8}

theorem Represents.perPage_pos (h : Represents p k) : 0 < k.perPage :=
  Nat.lt_of_lt_of_eq h.whole.fits.positive h.perPage_eq.symm

/-- A record was put into a free place. -/
theorem Represents.reuses_occupy (h : Represents p k) (hpage : id.page < k.pages)
    (hslot : id.slot < k.perPage) (hfree : k.isLive id = false) :
    k.Reuses (k.occupy id record) ∧ (k.occupy id record).live.length = k.live.length + 1 := by
  refine ⟨.of_pages_eq h.perPage_pos ?_ ?_, KeyedStore.length_live_occupy hpage hslot hfree⟩
  · exact k.perPage_occupy id record
  · exact k.pages_occupy id record

/-- A record was put into a new page, since all others were full. -/
theorem Represents.reuses_addPage (h : Represents p k) (hnil : k.free = []) :
    k.Reuses (k.addPage.occupy ⟨k.pages, 0⟩ record) ∧
      (k.addPage.occupy ⟨k.pages, 0⟩ record).live.length = k.live.length + 1 := by
  have hfree : k.addPage.isLive ⟨k.pages, 0⟩ = false := by
    rw [← Bool.not_eq_true]
    intro hlive
    have hlt : k.pages < k.pages := h.page_lt hlive
    exact Nat.lt_irrefl _ hlt
  have hlive : (k.addPage.occupy ⟨k.pages, 0⟩ record).live.length = k.live.length + 1 := by
    rw [KeyedStore.length_live_occupy (Nat.lt_succ_self _) h.perPage_pos hfree,
      KeyedStore.length_live_addPage h.count_pages]
  have hfull := KeyedStore.length_live_of_full (h.free_eq_nil_iff.mp hnil)
  refine ⟨.of_full h.perPage_pos ?_ ?_ hfull hlive, hlive⟩
  · exact k.addPage.perPage_occupy _ record
  · exact k.addPage.pages_occupy _ record

/-- **The step lemma of calls**: none wastes a page, and each does to the number of records
what its answer tells. -/
theorem RecordCall.ends_reuses (h : Represents p k) {call : RecordCall}
    (hleaves : call.LeavesPages) :
    Ends call.spec k
      (fun r k' => k.Reuses k' ∧ k'.live.length = RecordEvent.recount k.live.length ⟨call, .ok r⟩)
      (fun _ _ => True) := by
  have hsame : k.Reuses k := .of_pages_eq h.perPage_pos rfl rfl
  cases call with
  | insert record =>
    refine ends_bind.mpr ((KeyedStore.ends_insert record).imp ?_ fun _ _ h => h)
    rintro id _ (⟨hnil, rfl, rfl⟩ | ⟨hhead, hlowest, rfl⟩)
    · exact h.reuses_addPage hnil
    · have hmem := List.mem_of_head? hhead
      obtain ⟨slot, hslot, hlt, hfree⟩ := h.lowestFree_eq_some hmem
      obtain rfl := Option.some.inj (hlowest.symm.trans hslot)
      exact h.reuses_occupy ((h.mem_free _).mp hmem).1 hlt hfree
  | insertAt id record =>
    refine ends_bind.mpr ((KeyedStore.ends_insertAt id record).imp ?_ fun _ _ h => h)
    rintro _ _ ⟨hpage, hslot, hfree, rfl⟩
    exact h.reuses_occupy hpage hslot hfree
  | delete id =>
    refine ends_bind.mpr ((KeyedStore.ends_delete id).imp ?_ fun _ _ h => h)
    rintro _ _ ⟨hlive, rfl⟩
    have hmem := KeyedStore.mem_live.mpr ⟨⟨h.page_lt hlive, h.slot_lt hlive⟩, hlive⟩
    refine ⟨.of_pages_eq h.perPage_pos (k.perPage_vacate id) (k.pages_vacate id), ?_⟩
    exact Nat.eq_sub_of_add_eq (KeyedStore.length_live_vacate hmem)
  | update id record =>
    refine ends_bind.mpr ((KeyedStore.ends_update id record).imp ?_ fun _ _ h => h)
    rintro _ _ ⟨hlive, rfl⟩
    refine ⟨.of_pages_eq h.perPage_pos rfl rfl, ?_⟩
    rw [KeyedStore.live_put_of_live hlive]
    rfl
  | get id =>
    refine ends_bind.mpr (ends_bind.mpr ((KeyedStore.ends_checkLive id).imp ?_ fun _ _ h => h))
    rintro _ _ ⟨-, rfl⟩
    exact ⟨hsame, rfl⟩
  | pinPage page =>
    refine ends_bind.mpr ((KeyedStore.ends_checkPage page).imp ?_ fun _ _ h => h)
    rintro _ _ ⟨-, rfl⟩
    exact ⟨hsame, rfl⟩
  | scan | first | next | unpin | flush => exact ⟨hsame, rfl⟩
  | newPage | freePage | write | releasePage => exact hleaves.elim

/-- **The step lemma of events.** -/
theorem KeyedStep.reuses {event : RecordEvent} (hstep : KeyedStep k event k')
    (h : Represents p k) (hleaves : event.call.LeavesPages) :
    k.Reuses k' ∧ k'.live.length = event.recount k.live.length := by
  cases hstep with
  | @returned call r _ hspec => exact (call.ends_reuses h hleaves).of_ok hspec
  | @cutShort call full r _ hspec hcut =>
    -- what is cut short are items, and a scan changes nothing
    obtain ⟨hbad⟩ := hcut
    have hfull := (call.ends_reuses h hleaves).of_ok hspec
    cases call <;> exact hfull
  | @refused call e hspec =>
    refine ⟨.of_pages_eq h.perPage_pos rfl rfl, ?_⟩
    cases call <;> rfl
  | @wanting call e hwant =>
    refine ⟨.of_pages_eq h.perPage_pos rfl rfl, ?_⟩
    cases call <;> rfl

end Steps

/-! ## Runs -/

/-- **A store has the records that a history tells**, and as many pages as they needed at the
time when there were most of them. -/
structure KeyedStore.Accounted (history : List RecordEvent) (k : KeyedStore) : Prop where
  length_live : k.live.length = liveCount history
  pages_eq : k.pages = peakCount history ⌈/⌉ k.perPage

/-- **What a step without waste preserves.** -/
theorem KeyedStore.Accounted.step {history : List RecordEvent} {event : RecordEvent}
    {k k' : KeyedStore} (h : k.Accounted history) (hpositive : 0 < k.perPage)
    (hreuses : k.Reuses k') (hlive : k'.live.length = event.recount k.live.length) :
    k'.Accounted (history ++ [event]) := by
  have hcount : k'.live.length = liveCount (history ++ [event]) := by
    rw [hlive, h.length_live, liveCount_append]
  refine ⟨hcount, ?_⟩
  calc k'.pages = max k.pages (k'.live.length ⌈/⌉ k.perPage) := hreuses.pages_eq
    _ = max (peakCount history ⌈/⌉ k.perPage)
          (liveCount (history ++ [event]) ⌈/⌉ k.perPage) := by rw [← h.pages_eq, hcount]
    _ = max (peakCount history) (liveCount (history ++ [event])) ⌈/⌉ k.perPage :=
        (gc_mul_ceilDiv hpositive).l_sup.symm
    _ = peakCount (history ++ [event]) ⌈/⌉ k'.perPage := by
        rw [peakCount_append, hreuses.perPage_eq]

/-- **Every page is full.** -/
def PlainFile.Packed (p : PlainFile) : Prop :=
  ∀ page < p.header.pages, ∀ slot < p.header.recordsPerPage, (p.data page).occupied slot = true

/-- The list is empty exactly when every page is full. -/
theorem Represents.packed_iff {p : PlainFile} {k : KeyedStore} (h : Represents p k) :
    p.Packed ↔ k.free = [] := by
  rw [h.free_eq_nil_iff, h.pages_eq]
  refine forall₂_congr fun page hpage => ?_
  rw [KeyedStore.isFull_iff_isLive, h.perPage_eq]
  refine forall₂_congr fun slot _ => ?_
  have hlive : k.isLive ⟨page, slot⟩ = _ := h.isLive_eq (Nat.lt_of_lt_of_eq hpage h.pages_eq.symm)
  rw [hlive]

section Run

variable {other : Nat → ImageId} {image : ImageId} {path : Path} {options : FileOptions}
  {history : List RecordEvent} {raw : List Hold} {s : Session} {c : Client}

/-- **The run lemma**: the pages of a file are accounted for. -/
theorem RecordRun.accounted (h : RecordRun other image path options .ofRecords history s c) :
    s.file.header.pages < noPage ∧
      ∃ k, k.Accounted history ∧ Represents (s.own other image) k := by
  obtain ⟨hpages, k, haccounted, hrep, -⟩ := h.represents_keeping
    (fun _ => RecordCall.LeavesPages.readOnly) (fun _ hlt => hlt)
    (fun history k => k.Accounted history)
    (fun header _ => ⟨rfl, (zero_ceilDiv _).symm⟩)
    fun haccounted hrep hleaves hstep =>
      have ⟨hreuses, hlive⟩ := hstep.reuses hrep hleaves
      haccounted.step hrep.perPage_pos hreuses hlive
  exact ⟨hpages, k, haccounted, hrep⟩

/-- **An insertion adds a page** exactly when every page is full. -/
theorem Represents.ends_insert_run {k : KeyedStore} (hwork : AtWork other image path raw s)
    (hrep : Represents (s.own other image) k) (hpages : s.file.header.pages < noPage)
    (record : List UInt8) :
    Ends (RecordCall.insert record).run s
      (fun _ s' =>
        (s.own other image).Packed ∧ s'.file.header.pages = s.file.header.pages + 1 ∨
        ¬(s.own other image).Packed ∧ s'.file.header.pages = s.file.header.pages)
      (fun _ s' => s'.file.header.pages = s.file.header.pages) := by
  have hread : (RecordCall.insert record).ReadOnly := trivial
  refine (RecordCall.ends_replayed hwork.good rfl hrep hpages hread trivial).imp ?_ ?_
  · rintro r s' ⟨p', hbecame, -, k', hkeyed, hfollows⟩
    have hspec : Ends (RecordCall.insert record).spec k
        (fun _ k' => k.free = [] ∧ k'.pages = k.pages + 1 ∨ k.free ≠ [] ∧ k'.pages = k.pages)
        (fun _ _ => True) := ends_bind.mpr (KeyedStore.pages_of_insert record)
    have hgrown : k.free = [] ∧ k'.pages = k.pages + 1 ∨ k.free ≠ [] ∧ k'.pages = k.pages := by
      cases hkeyed with
      | returned hok => exact hspec.of_ok hok
      | cutShort hok _ => exact hspec.of_ok hok
    have hbefore : k.pages = s.file.header.pages := hrep.pages_eq
    have hafter : k'.pages = s'.file.header.pages := by
      rw [hfollows.represents.pages_eq, ← hbecame.plain_eq]
      rfl
    rw [hrep.packed_iff, ← hbefore, ← hafter]
    exact hgrown
  · rintro e s' ⟨hbecame, -⟩
    rw [hbecame.file_eq rfl]

/-- **Space is reused before a file grows.** The records that the file shows are as many as the
calls say, and its pages are as many as the largest number of records so far needs. A record
that is inserted takes a new page exactly when every page is full. -/
theorem space_is_reused (h : RecordRun other image path options .ofRecords history s c) :
    (s.own other image).shown.live.length = liveCount history ∧
      s.file.header.pages = peakCount history ⌈/⌉ s.file.header.recordsPerPage ∧
      ∀ record, Ends (RecordCall.insert record).run s
        (fun _ s' =>
          (s.own other image).Packed ∧ s'.file.header.pages = s.file.header.pages + 1 ∨
          ¬(s.own other image).Packed ∧ s'.file.header.pages = s.file.header.pages)
        (fun _ s' => s'.file.header.pages = s.file.header.pages) := by
  obtain ⟨hpages, k, haccounted, hrep⟩ := h.accounted
  refine ⟨?_, ?_, fun record => hrep.ends_insert_run h.atWork hpages record⟩
  · rw [hrep.marks.live_shown]
    exact haccounted.length_live
  · have hperPage : k.perPage = s.file.header.recordsPerPage := hrep.perPage_eq
    rw [← hperPage, ← haccounted.pages_eq]
    exact hrep.pages_eq.symm

/-! ## A slot that is used again -/

/-- The file of one record after the record was deleted, -/
@[irreducible] def tinyDeleted : Session := stateAfter (Session.delete ⟨0, 0⟩) tinyKept

/-- and after another one was put there. -/
@[irreducible] def tinyReused : Session := stateAfter (Session.insert [8]) tinyDeleted

/-- What was called. -/
def tinyReusedHistory : List RecordEvent :=
  [⟨.insert [7], .ok (.inserted ⟨0, 0⟩)⟩, ⟨.delete ⟨0, 0⟩, .ok .done⟩,
    ⟨.insert [8], .ok (.inserted ⟨0, 0⟩)⟩]

theorem tinyReused_run :
    RecordRun (· + 1) 0 ⟨["f"]⟩ ⟨1, some 1⟩ .ofRecords tinyReusedHistory tinyReused idle := by
  obtain ⟨hgone, hpages⟩ : answer (Session.delete ⟨0, 0⟩) tinyKept = .ok () ∧
      tinyDeleted.file.header.pages < noPage := by decide +kernel
  obtain ⟨hput, hpages'⟩ : answer (Session.insert [8]) tinyDeleted = .ok ⟨0, 0⟩ ∧
      tinyReused.file.header.pages < noPage := by decide +kernel
  have hdelete : (RecordCall.delete ⟨0, 0⟩).run tinyKept = .ok .done tinyDeleted := by
    unfold tinyDeleted
    exact bind_of_ok (eq_of_answer hgone)
  have hinsert : (RecordCall.insert [8]).run tinyDeleted = .ok (.inserted ⟨0, 0⟩) tinyReused := by
    unfold tinyReused
    exact bind_of_ok (eq_of_answer hput)
  have hcalls : ∀ call : RecordCall, call.LeavesPages → RecordUse.ofRecords.calls call :=
    fun _ h => h
  have hkept := tinyKept_run .ofRecords trivial (show 1 < noPage by decide)
  have hdeleted := hkept.returned (hcalls (.delete ⟨0, 0⟩) trivial) trivial hdelete hpages
  exact hdeleted.returned (hcalls (.insert [8]) trivial) trivial hinsert hpages'

/-- Two records were inserted, but one at a time: there is one page. -/
theorem space_is_reused_tiny :
    (tinyReused.own (· + 1) 0).shown.live.length = 1 ∧ tinyReused.file.header.pages = 1 := by
  obtain ⟨hlive, hpages, -⟩ := space_is_reused tinyReused_run
  have hperPage : tinyReused.file.header.recordsPerPage = 1 := by decide +kernel
  have hpeak : peakCount tinyReusedHistory = 1 := rfl
  rw [hperPage, hpeak] at hpages
  exact ⟨hlive, hpages⟩

end Run

end SlottedFile
