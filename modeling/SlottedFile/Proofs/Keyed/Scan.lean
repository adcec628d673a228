import Mathlib.Algebra.GroupWithZero.Nat
import SlottedFile.Proofs.Keyed.Simulation
import SlottedFile.Proofs.Plain.Scanning

/-!
# The order of the records

The places of a store are listed page by page and slot by slot, and so are its
records. They can be counted along that list, whose length is the number of slots.
The first record from a place on is found by looking through the rest of its page
and then through the pages behind it, which is how a file is searched.
-/

namespace SlottedFile

namespace KeyedStore

variable {k : KeyedStore}

theorem mem_places {id : RecordId} : id ∈ k.places ↔ id.page < k.pages ∧ id.slot < k.perPage := by
  unfold places
  rw [List.mem_flatMap]
  constructor
  · rintro ⟨page, hpage, hmem⟩
    obtain ⟨slot, hslot, rfl⟩ := List.mem_map.mp hmem
    exact ⟨List.mem_range.mp hpage, List.mem_range.mp hslot⟩
  · rintro ⟨hpage, hslot⟩
    exact ⟨id.page, List.mem_range.mpr hpage, List.mem_map.mpr ⟨id.slot, List.mem_range.mpr hslot, rfl⟩⟩

theorem mem_live {id : RecordId} :
    id ∈ k.live ↔ (id.page < k.pages ∧ id.slot < k.perPage) ∧ k.isLive id = true := by
  rw [live, List.mem_filter, mem_places]

/-- The places are listed in order, each once. -/
theorem places_pairwise : k.places.Pairwise (· < ·) := by
  unfold places
  rw [List.pairwise_flatMap]
  refine ⟨fun page _ => ?_, ?_⟩
  · rw [List.pairwise_map]
    exact List.pairwise_lt_range.imp fun hlt => .inr ⟨rfl, hlt⟩
  · refine List.pairwise_lt_range.imp fun {page page'} hlt id hid id' hid' => ?_
    obtain ⟨slot, -, rfl⟩ := List.mem_map.mp hid
    obtain ⟨slot', -, rfl⟩ := List.mem_map.mp hid'
    exact .inl hlt

theorem places_nodup : k.places.Nodup := by
  refine k.places_pairwise.imp ?_
  rintro id _ hlt rfl
  have hself : id.page < id.page ∨ id.page = id.page ∧ id.slot < id.slot := hlt
  omega

/-- **The records are listed in order**, each once. -/
theorem live_pairwise : k.live.Pairwise (· < ·) := k.places_pairwise.filter _

theorem notBefore_iff {page slot : Nat} {id : RecordId} :
    notBefore page slot id = true ↔ page < id.page ∨ id.page = page ∧ slot ≤ id.slot := by
  unfold notBefore
  rw [Bool.or_eq_true, decide_eq_true_iff, Bool.and_eq_true, beq_iff_eq, decide_eq_true_iff]

/-- A place that is not before the next slot comes after it, and conversely. -/
theorem notBefore_succ_iff {id id' : RecordId} :
    notBefore id.page (id.slot + 1) id' = true ↔ id < id' := by
  rw [notBefore_iff]
  show _ ↔ id.page < id'.page ∨ id.page = id'.page ∧ id.slot < id'.slot
  omega

/-! ## How many records there are -/

/-- A store has no more records than slots. -/
theorem length_live_le (k : KeyedStore) : k.live.length ≤ k.pages * k.perPage := by
  refine Nat.le_trans (List.length_filter_le _ _) (Nat.le_of_eq ?_)
  unfold places
  rw [List.length_flatMap]
  simp only [List.length_map, List.length_range, List.map_const', List.sum_replicate_nat]

/-- The records are those of the pages taken together. -/
theorem length_live (k : KeyedStore) : k.live.length = ((List.range k.pages).map k.count).sum := by
  unfold live places
  rw [← List.countP_eq_length_filter, List.countP_flatMap]
  refine congrArg List.sum (List.map_congr_left fun page _ => ?_)
  show ((List.range k.perPage).map fun slot => (⟨page, slot⟩ : RecordId)).countP k.isLive = _
  rw [List.countP_map]
  rfl

section Counting

variable {id : RecordId} {record : List UInt8}

/-- A record that is put into a free place is one more, -/
theorem length_live_occupy (hpage : id.page < k.pages) (hslot : id.slot < k.perPage)
    (hfree : k.isLive id = false) : (k.occupy id record).live.length = k.live.length + 1 := by
  rw [occupy_eq]
  unfold live
  rw [← List.countP_eq_length_filter, ← List.countP_eq_length_filter]
  refine countP_of_update k.places_nodup (mem_places.mpr ⟨hpage, hslot⟩) (fun id' hne => ?_) ?_ hfree
  · exact (k.isLive_put id (some record) id').trans (if_neg hne)
  · exact (k.isLive_put id (some record) id).trans (if_pos rfl)

/-- one that is taken away is one less, -/
theorem length_live_vacate (hmem : id ∈ k.live) :
    (k.vacate id).live.length + 1 = k.live.length := by
  obtain ⟨hplace, hlive⟩ := List.mem_filter.mp hmem
  rw [vacate_eq]
  unfold live
  rw [← List.countP_eq_length_filter, ← List.countP_eq_length_filter]
  refine (countP_of_update k.places_nodup hplace (fun id' hne => ?_) hlive ?_).symm
  · exact ((k.isLive_put id none id').trans (if_neg hne)).symm
  · exact (k.isLive_put id none id).trans (if_pos rfl)

/-- and one that is replaced is none more and none less. -/
theorem live_put_of_live (hlive : k.isLive id = true) (record : List UInt8) :
    (k.put id (some record)).live = k.live :=
  List.filter_congr fun id' _ => isLive_put_of_live hlive record id'

/-- A page that is added has no records. -/
theorem length_live_addPage (hnone : k.count k.pages = 0) :
    k.addPage.live.length = k.live.length := by
  rw [length_live, length_live]
  show ((List.range (k.pages + 1)).map k.count).sum = _
  rw [List.range_succ, List.map_append, List.sum_append, List.map_singleton, List.sum_singleton,
    hnone, Nat.add_zero]

/-- A store whose pages are full has as many records as slots. -/
theorem length_live_of_full (hfull : ∀ page < k.pages, k.isFull page = true) :
    k.live.length = k.pages * k.perPage := by
  rw [length_live, List.map_congr_left (g := fun _ => k.perPage), List.map_const',
    List.length_range, List.sum_replicate_nat]
  intro page hpage
  exact Nat.le_antisymm (k.count_le page) (isFull_iff.mp (hfull page (List.mem_range.mp hpage)))

end Counting

/-! ## Looking for a record -/

theorem seek_eq_some {id : RecordId} {page slot : Nat} (hmem : id ∈ k.live)
    (hid : notBefore page slot id = true)
    (hfirst : ∀ id' ∈ k.live, notBefore page slot id' = true → ¬id' < id) :
    k.seek page slot = some id := by
  obtain ⟨before, after, hlist⟩ := List.append_of_mem hmem
  have hpairwise := k.live_pairwise
  rw [hlist, List.pairwise_append] at hpairwise
  refine List.find?_eq_some_iff_append.mpr ⟨hid, before, after, hlist, fun id' hid' => ?_⟩
  rw [Bool.not_eq_true', ← Bool.not_eq_true]
  intro hnot
  refine hfirst id' ?_ hnot (hpairwise.2.2 id' hid' id List.mem_cons_self)
  rw [hlist]
  exact List.mem_append_left _ hid'

/-- A page without a record from a slot on is passed over. -/
theorem seek_next {page slot : Nat} (hnone : ∀ i, slot ≤ i → k.isLive ⟨page, i⟩ = false) :
    k.seek page slot = k.seek (page + 1) 0 := by
  refine List.find?_congr fun id hid => ?_
  rw [Bool.eq_iff_iff, notBefore_iff, notBefore_iff]
  have hnot : ¬(id.page = page ∧ slot ≤ id.slot) := by
    rintro ⟨rfl, hslot⟩
    have hlive := (mem_live.mp hid).2
    rw [hnone id.slot hslot] at hlive
    cases hlive
  omega

/-- **A search from the start finds the first record.** -/
theorem seek_zero : k.seek 0 0 = k.live.head? := by
  unfold seek
  cases k.live with
  | nil => rfl
  | cons id rest =>
    refine List.find?_cons_of_pos (notBefore_iff.mpr ?_)
    omega

/-- **A search from behind a record finds the next one.** -/
theorem seek_succ {before after : List RecordId} {id : RecordId}
    (hlist : k.live = before ++ id :: after) : k.seek id.page (id.slot + 1) = after.head? := by
  have hpairwise := k.live_pairwise
  rw [hlist, List.pairwise_append, List.pairwise_cons] at hpairwise
  have hirrefl : ∀ {i j : RecordId}, i < j → ¬j < i := by
    intro i j hij hji
    have hij' : i.page < j.page ∨ i.page = j.page ∧ i.slot < j.slot := hij
    have hji' : j.page < i.page ∨ j.page = i.page ∧ j.slot < i.slot := hji
    omega
  have hbefore : before.find? (notBefore id.page (id.slot + 1)) = none := by
    refine List.find?_eq_none.mpr fun id' hid' hnot => ?_
    exact hirrefl (hpairwise.2.2 id' hid' id List.mem_cons_self) (notBefore_succ_iff.mp hnot)
  have hself : ¬notBefore id.page (id.slot + 1) id = true := fun hnot =>
    hirrefl (notBefore_succ_iff.mp hnot) (notBefore_succ_iff.mp hnot)
  unfold seek
  rw [hlist, List.find?_append, hbefore, Option.none_or, List.find?_cons_of_neg hself]
  cases after with
  | nil => rfl
  | cons next rest =>
    exact List.find?_cons_of_pos (notBefore_succ_iff.mpr (hpairwise.2.1.1 next List.mem_cons_self))

end KeyedStore

/-! ## Searching a file -/

/-- **The places of a store are those of a file**, and the occupied ones are the same.
Whatever else its pages say of themselves, that is all a search goes by. -/
structure Marks (p : PlainFile) (k : KeyedStore) : Prop where
  sized : p.Sized
  perPage_eq : k.perPage = p.header.recordsPerPage
  pages_eq : k.pages = p.header.pages
  isLive_eq : ∀ id : RecordId, id.page < k.pages →
    k.isLive id = (p.data id.page).occupied id.slot

theorem Shows.marks {p : PlainFile} {k : KeyedStore} (h : Shows p k) : Marks p k :=
  ⟨h.whole.toSized, h.perPage_eq, h.pages_eq, fun _ hpage => h.isLive_eq hpage⟩

/-- **The store of the records that a file shows**, whatever its pages count and wherever
its free list leads. -/
def PlainFile.shown (p : PlainFile) : KeyedStore where
  recordSize := p.header.recordSize
  perPage := p.header.recordsPerPage
  pages := p.header.pages
  records := p.record?
  free := []

theorem PlainFile.Sized.marks {p : PlainFile} (h : p.Sized) : Marks p p.shown :=
  ⟨h, rfl, rfl, fun _ hpage => isSome_record? hpage⟩

section Searching

variable {p : PlainFile} {k : KeyedStore}

/-- **A file is searched page by page** for the record that the store finds. -/
theorem Marks.ends_seekFrom (h : Marks p k) {left : Nat} (page slot : Nat)
    (hleft : left = k.pages - page) :
    Ends (PlainFile.seekFrom left page slot) p (fun found p' => p' = p ∧ found = k.seek page slot)
      (fun _ _ => False) := by
  -- the induction is on the pages that are left
  induction left generalizing page slot with
  | zero =>
    refine ends_pure.mpr ⟨rfl, (List.find?_eq_none.mpr fun id hid hnot => ?_).symm⟩
    have hpage := (KeyedStore.mem_live.mp hid).1.1
    rw [KeyedStore.notBefore_iff] at hnot
    omega
  | succ left ih =>
    have hpage : page < k.pages := by omega
    have hinside : ¬p.header.pages ≤ page := by
      rw [← h.pages_eq]
      exact Nat.not_le.2 hpage
    have hlook := PageLayout.nextOccupied_eq h.sized.fits (p.page page) slot
    have hlive : ∀ i, k.isLive ⟨page, i⟩ = (p.data page).occupied i := fun i =>
      h.isLive_eq ⟨page, i⟩ hpage
    unfold PlainFile.seekFrom
    rw [ends_bind, PlainFile.ends_checkPage]
    refine ⟨fun _ => ?_, fun hle => absurd hle hinside⟩
    rw [ends_bind, PlainFile.ends_look (f := fun l b => l.nextOccupied b slot) hlook]
    cases hfind : (List.range' slot (p.layout.recordsPerPage - slot)).find?
        (p.layout.data (p.page page)).occupied with
    | none =>
      refine (ih (page + 1) 0 (by omega)).imp ?_ fun _ _ h => h
      rintro found p' ⟨hp', hfound⟩
      refine ⟨hp', hfound.trans (KeyedStore.seek_next fun i hi => ?_).symm⟩
      rw [hlive, ← Bool.not_eq_true]
      intro hocc
      have hlt : i < p.layout.recordsPerPage := PlainFile.slot_lt_of_occupied hocc
      refine List.find?_eq_none.mp hfind i (List.mem_range'_1.mpr ?_) hocc
      omega
    | some hit =>
      obtain ⟨hocc, hmem, hbefore⟩ := List.find?_range'_eq_some.mp hfind
      refine ends_pure.mpr ⟨rfl, (KeyedStore.seek_eq_some ?_ ?_ ?_).symm⟩
      · refine KeyedStore.mem_live.mpr ⟨⟨hpage, ?_⟩, (hlive hit).trans hocc⟩
        rw [h.perPage_eq]
        exact PlainFile.slot_lt_of_occupied hocc
      · exact KeyedStore.notBefore_iff.mpr (.inr ⟨rfl, (List.mem_range'_1.mp hmem).1⟩)
      · -- a record before the hit would have been hit
        intro id hid hnot hlt
        have hlt' : id.page < page ∨ id.page = page ∧ id.slot < hit := hlt
        rw [KeyedStore.notBefore_iff] at hnot
        obtain ⟨rfl, hslot⟩ : id.page = page ∧ slot ≤ id.slot := by omega
        have hlives := (hlive id.slot).symm.trans (KeyedStore.mem_live.mp hid).2
        have hfree := hbefore id.slot hslot (by omega)
        rw [show (p.layout.data (p.page id.page)).occupied id.slot = true from hlives] at hfree
        cases hfree

theorem Marks.ends_seek (h : Marks p k) (page slot : Nat) :
    Ends (PlainFile.seek page slot) p (fun found p' => p' = p ∧ found = k.seek page slot)
      (fun _ _ => False) :=
  h.ends_seekFrom page slot (congrArg (· - page) h.pages_eq.symm)

theorem Marks.found_eq (h : Marks p k) (page slot : Nat) : p.found page slot = k.seek page slot := by
  have hseek := PlainFile.seek_eq h.sized page slot
  exact ((h.ends_seek page slot).of_ok hseek).2

/-- **The records that are found one behind the other** are those of the store, in
order. -/
theorem Marks.trail_eq (h : Marks p k) {before after : List RecordId} {bound : Nat}
    (hlist : k.live = before ++ after) (hbound : after.length ≤ bound) :
    p.trail bound after.head? = after := by
  induction after generalizing before bound with
  | nil => cases bound <;> rfl
  | cons id after ih =>
    obtain ⟨bound, rfl⟩ := Nat.exists_eq_add_of_le' (Nat.lt_of_lt_of_le (Nat.succ_pos _) hbound)
    have hrest : k.live = (before ++ [id]) ++ after := by
      rw [hlist, List.append_assoc]
      rfl
    show id :: p.trail bound (p.found id.page (id.slot + 1)) = id :: after
    rw [h.found_eq, KeyedStore.seek_succ hlist, ih hrest (Nat.le_of_succ_le_succ hbound)]

/-- **A scan of a file finds the records of the store.** -/
theorem Marks.trail_start (h : Marks p k) :
    p.trail (p.header.pages * p.header.recordsPerPage + 1) (p.found 0 0) = k.live := by
  have hlen := k.length_live_le
  rw [h.pages_eq, h.perPage_eq] at hlen
  rw [h.found_eq, KeyedStore.seek_zero]
  exact h.trail_eq (List.nil_append _).symm (Nat.le_succ_of_le hlen)

/-- **The places that a file shows** are those of the store. -/
theorem Marks.live_shown (h : Marks p k) : p.shown.live = k.live :=
  h.sized.marks.trail_start.symm.trans h.trail_start

end Searching

end SlottedFile
