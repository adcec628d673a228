import SlottedFile.Proofs.Keyed.Represents

/-!
# Plain files do what keyed stores do

An operation on a plain file agrees with one on the keyed store that the file
represents (`Agrees`) if it answers what the other answers, be it a value or an
error, and leaves a file that represents what the other leaves. Where a link may be
written, the number of pages has to be below the number that stands for no page in one.

What is not a matter of bytes has been settled before: an answer of the file is
that of the store because its pages show the records of the store, and the walk
along the free list finds a page where it stands in the store's list.
-/

namespace SlottedFile

variable {α : Type}

/-- **An operation on a plain file answers like one on a keyed store.** -/
def Agrees (p : PlainFile) (k : KeyedStore) (m : PlainM α) (a : KeyedM α) : Prop :=
  Ends m p
    (fun v p' => Ends a k (fun v' k' => v' = v ∧ Follows p k p' k') (fun _ _ => False))
    (fun e _ => Ends a k (fun _ _ => False) (fun e' k' => e = .error e' ∧ k' = k))

/-- **What the store answers, the file answers.** -/
theorem Agrees.exists_ok {p : PlainFile} {k k' : KeyedStore} {m : PlainM α} {a : KeyedM α} {v : α}
    (h : Agrees p k m a) (ha : a k = .ok v k') : ∃ p', m p = .ok v p' ∧ Follows p k p' k' := by
  cases hm : m p with
  | ok v' p' =>
    obtain ⟨rfl, hfollows⟩ := (ends_of_ok ha).mp (h.of_ok hm)
    exact ⟨p', rfl, hfollows⟩
  | error e p' => exact ((ends_of_ok ha).mp (h.of_error hm)).elim

section Reading

variable {p : PlainFile} {k : KeyedStore} {id : RecordId}

/-- Whether there is a record at a place of a page that is there. -/
theorem Shows.ends_isLive (h : Shows p k) (hpage : id.page < k.pages)
    {good : Bool → PlainFile → Prop} {bad : Fault RecordError → PlainFile → Prop} :
    Ends (PlainFile.isLive id) p good bad ↔ good (k.isLive id) p := by
  rw [h.isLive_eq hpage]
  by_cases hslot : p.hasSlot id.slot = true
  · have hlook : Ends (PlainFile.look id.page (·.isOccupied · id.slot)) p good bad ↔ _ :=
      PlainFile.ends_look (PageLayout.isOccupied_eq h.whole.fits (of_decide_eq_true hslot))
    unfold Ends at hlook ⊢
    rw [PlainFile.isLive_of_hasSlot hslot]
    exact hlook
  · have hfree : (p.data id.page).occupied id.slot = false := by
      rw [← Bool.not_eq_true]
      exact fun hocc => hslot (decide_eq_true (PlainFile.slot_lt_of_occupied hocc))
    rw [ends_of_ok (PlainFile.isLive_of_not_hasSlot hslot), hfree]

/-- Whether a page counts as many records as it has slots. -/
theorem Shows.isFull_eq (h : Shows p k) {page : Nat} (hpage : page < k.pages) :
    p.layout.isFull (p.page page) = .ok (k.isFull page) := by
  rw [PageLayout.isFull_eq]
  show Except.ok (decide ((p.data page).records ≥ p.header.recordsPerPage)) = _
  rw [h.counted page hpage, ← h.perPage_eq]
  rfl

/-- The lowest free slot of a page. -/
theorem Shows.firstFreeSlot_eq (h : Shows p k) {page : Nat} (hpage : page < k.pages) :
    p.layout.firstFreeSlot (p.page page) = .ok (k.lowestFree page) := by
  rw [PageLayout.firstFreeSlot_eq h.whole.fits, KeyedStore.lowestFree, h.perPage_eq]
  refine congrArg Except.ok (List.find?_congr fun slot _ => ?_)
  have hlive : k.isLive ⟨page, slot⟩ = _ := h.isLive_eq hpage
  rw [hlive]
  rfl

/-- **A page is found where it stands on the list.** -/
theorem Represents.ends_locate (h : Represents p k) (page : Nat) :
    Ends (PlainFile.locate page) p (fun position p' => p' = p ∧ position.Stands k.free page)
      (fun _ _ => False) :=
  PlainFile.ends_locate h.chain (fun _ hmem => h.lt_of_mem_free hmem) h.nodup page

/-! ## What both refuse -/

variable {m : PlainM α} {a : KeyedM α}

theorem Shows.agrees_checkSize (h : Shows p k) {record : List UInt8}
    (hm : record.length = p.layout.recordSize → Agrees p k m a) :
    Agrees p k (do PlainFile.checkSize record; m) (do KeyedStore.checkSize record; a) := by
  unfold Agrees
  rw [ends_bind, PlainFile.ends_checkSize]
  refine ⟨fun hsize => (hm hsize).imp (fun v p' hv => ?_) fun e _ he => ?_, fun hsize => ?_⟩
  · rw [ends_bind, ends_of_ok (KeyedStore.checkSize_of_eq (hsize.trans h.recordSize_eq.symm))]
    exact hv
  · rw [ends_bind, ends_of_ok (KeyedStore.checkSize_of_eq (hsize.trans h.recordSize_eq.symm))]
    exact he
  · rw [ends_bind, ends_of_error (KeyedStore.checkSize_of_ne fun hlen =>
      hsize (hlen.trans h.recordSize_eq)), h.recordSize_eq]
    exact ⟨rfl, rfl⟩

theorem Shows.agrees_checkPage (h : Shows p k) {page : Nat}
    (hm : page < k.pages → Agrees p k m a) :
    Agrees p k (do PlainFile.checkPage page; m) (do KeyedStore.checkPage page; a) := by
  unfold Agrees
  rw [ends_bind, PlainFile.ends_checkPage, ← h.pages_eq]
  refine ⟨fun hlt => (hm hlt).imp (fun v p' hv => ?_) fun e _ he => ?_, fun hle => ?_⟩
  · rw [ends_bind, ends_of_ok (KeyedStore.checkPage_of_lt hlt)]
    exact hv
  · rw [ends_bind, ends_of_ok (KeyedStore.checkPage_of_lt hlt)]
    exact he
  · rw [ends_bind, ends_of_error (KeyedStore.checkPage_of_le hle)]
    exact ⟨rfl, rfl⟩

/-- Both refuse a place at which there is no record. -/
theorem Shows.agrees_checkLive (h : Shows p k) (hm : k.isLive id = true → Agrees p k m a) :
    Agrees p k
      (do
        PlainFile.checkPage id.page
        unless ← PlainFile.isLive id do fail (.recordNotFound id)
        m)
      (do KeyedStore.checkLive id; a) := by
  unfold Agrees
  rw [ends_bind, PlainFile.ends_checkPage, ← h.pages_eq]
  refine ⟨fun hlt => ?_, fun hle => ?_⟩
  · rw [ends_bind, h.ends_isLive hlt]
    cases hlive : k.isLive id with
    | false =>
      refine ends_fail.mpr ?_
      rw [ends_bind, ends_of_error (KeyedStore.checkLive_of_free hlt hlive)]
      exact ⟨rfl, rfl⟩
    | true =>
      refine (hm hlive).imp (fun v p' hv => ?_) fun e _ he => ?_
      · rw [ends_bind, ends_of_ok (KeyedStore.checkLive_of_live hlt hlive)]
        exact hv
      · rw [ends_bind, ends_of_ok (KeyedStore.checkLive_of_live hlt hlive)]
        exact he
  · rw [ends_bind, ends_of_error (KeyedStore.checkLive_of_le hle)]
    exact ⟨rfl, rfl⟩

end Reading

/-! ## The operations -/

section Operations

variable {p : PlainFile} {k : KeyedStore}

/-- **Reading a record.** -/
theorem agrees_get (h : Represents p k) (id : RecordId) :
    Agrees p k (PlainFile.get id) (KeyedStore.get id) := by
  refine h.agrees_checkLive fun hlive => ?_
  have hslot := h.slot_lt hlive
  rw [h.perPage_eq] at hslot
  unfold Agrees
  rw [PlainFile.ends_look (f := fun l b => l.slot b id.slot)
    (PageLayout.slot_eq h.whole.fits hslot)]
  refine ⟨?_, .refl h⟩
  rw [h.slot_eq hlive]
  rfl

/-- **Replacing a record.** -/
theorem agrees_update (h : Represents p k) (id : RecordId) (record : List UInt8) :
    Agrees p k (PlainFile.update id record) (KeyedStore.update id record) := by
  refine h.agrees_checkSize fun hsize => h.agrees_checkLive fun hlive => ?_
  obtain ⟨_, b, hset, hdata⟩ := (PageLayout.ends_setSlot (b := p.page id.page) h.whole.fits
    (Nat.lt_of_lt_of_eq (h.slot_lt hlive) h.perPage_eq) hsize).exists_ok
  unfold Agrees
  rw [PlainFile.ends_edit (e := (·.setSlot id.slot record)) hset]
  exact ⟨rfl, h.put_of_live hlive hdata⟩

/-- Whether a page may be put on the list. -/
theorem Represents.ends_canLink (h : Represents p k) {page : Nat} (hnot : page ∉ k.free) :
    Ends (PlainFile.canLink page) p (fun relink p' => relink = true ∧ p' = p)
      (fun _ _ => False) := by
  unfold PlainFile.canLink
  rw [ends_bind]
  refine (h.ends_locate page).imp ?_ fun _ _ h => h
  rintro position _ ⟨rfl, hstands⟩
  refine ends_pure.mpr ⟨?_, rfl⟩
  cases position with
  | absent => rfl
  | head =>
    obtain ⟨rest, hlist⟩ := hstands
    exact absurd (hlist ▸ List.mem_cons_self) hnot
  | after prev =>
    obtain ⟨before, rest, hlist⟩ := hstands
    exact absurd (by rw [hlist]; simp) hnot

/-- **Deleting a record.** -/
theorem agrees_delete (h : Represents p k) (hpages : p.header.pages < noPage) (id : RecordId) :
    Agrees p k (PlainFile.delete id) (KeyedStore.delete id) := by
  refine h.agrees_checkLive fun hlive => ?_
  have hpage := h.page_lt hlive
  obtain ⟨_, b, hvacate, hdata⟩ := (PageLayout.ends_vacateSlot (b := p.page id.page) h.whole.fits
    (Nat.lt_of_lt_of_eq (h.slot_lt hlive) h.perPage_eq)).exists_ok
  unfold Agrees
  rw [ends_bind, PlainFile.ends_look (f := fun l => l.isFull) (h.isFull_eq hpage)]
  cases hfull : k.isFull id.page with
  | false =>
    show Ends (do
      PlainFile.edit id.page (·.vacateSlot id.slot)
      pure () : PlainM Unit) p _ _
    rw [ends_bind, PlainFile.ends_edit (e := (·.vacateSlot id.slot)) hvacate]
    exact ⟨rfl, h.vacate_of_room hlive hfull hdata⟩
  | true =>
    have hnot : id.page ∉ k.free := by
      rw [h.mem_free, hfull]
      exact fun hboth => Bool.noConfusion hboth.2
    dsimp only
    rw [if_pos rfl, ends_bind]
    refine (h.ends_canLink hnot).imp ?_ fun _ _ h => h.elim
    rintro _ p' ⟨rfl, hp'⟩
    rw [hp', ends_bind, PlainFile.ends_edit (e := (·.vacateSlot id.slot)) hvacate, if_pos rfl]
    obtain ⟨_, b', hset, hlink⟩ := (PageLayout.ends_setNext (b := b) h.whole.fits
      p.header.freeHead).exists_ok
    have hpageEq : (p.withPage id.page b).page id.page = b := Function.update_self _ _ _
    unfold PlainFile.link
    refine ends_bind.mpr (ends_get.mpr ?_)
    show Ends (do
      PlainFile.edit id.page fun _ => PageLayout.setNext p.header.freeHead
      PlainFile.setFreeHead (some id.page) : PlainM Unit) _ _ _
    rw [ends_bind, PlainFile.ends_edit (e := fun _ => PageLayout.setNext p.header.freeHead)
      (by rw [hpageEq]; exact hset)]
    rw [h.storedLink_head hpages] at hlink
    exact ⟨rfl, h.vacate_of_full hlive hfull hdata hlink⟩

/-! ## Inserting -/

/-- **Filling a free slot, and unlinking the page if that makes it full.** -/
theorem Represents.ends_fillAndUnlink (h : Represents p k) {id : RecordId}
    (hpage : id.page < k.pages) (hslot : id.slot < k.perPage) (hfree : k.isLive id = false)
    {record : List UInt8} (hsize : record.length = p.layout.recordSize) {position : FreePosition}
    (hposition : k.perPage ≤ k.count id.page + 1 → position.Stands k.free id.page) :
    Ends (PlainFile.fillAndUnlink id record position) p
      (fun _ p' => Follows p k p' (k.occupy id record)) (fun _ _ => False) := by
  obtain ⟨_, b, hfill, rfl, hdata⟩ := (PageLayout.ends_fillSlot (b := p.page id.page) h.whole.fits
    (Nat.lt_of_lt_of_eq hslot h.perPage_eq) hsize).exists_ok
  have hrecords : (p.data id.page).records = k.count id.page := h.counted _ hpage
  unfold PlainFile.fillAndUnlink
  rw [ends_bind, PlainFile.ends_edit (e := (·.fillSlot id.slot record)) hfill]
  by_cases hfull : k.perPage ≤ k.count id.page + 1
  · have hfull' : decide ((p.data id.page).records + 1 ≥ p.layout.recordsPerPage) = true := by
      rw [hrecords]
      exact decide_eq_true (Nat.le_trans (Nat.le_of_eq h.perPage_eq.symm) hfull)
    show Ends (if decide ((p.data id.page).records + 1 ≥ p.layout.recordsPerPage) = true then _
      else pure () : PlainM Unit) _ _ _
    rw [if_pos hfull']
    have hstands := hposition hfull
    cases position with
    | head =>
      obtain ⟨rest, hlist⟩ := hstands
      exact h.occupy_head hlist hslot hfree hdata hfull
    | after prev =>
      obtain ⟨before, rest, hlist⟩ := hstands
      obtain ⟨_, b', hset, hlink⟩ := (PageLayout.ends_setNext
        (b := (p.withPage id.page b).page prev) h.whole.fits (p.next id.page)).exists_ok
      show Ends (PlainFile.edit prev fun _ => PageLayout.setNext (p.next id.page)) _ _ _
      rw [PlainFile.ends_edit (e := fun _ => PageLayout.setNext (p.next id.page)) hset]
      rw [Represents.storedLink_next] at hlink
      exact h.occupy_after hlist hslot hfree hdata hlink hfull
    | absent => exact absurd (h.page_mem_free hpage hslot hfree) hstands
  · have hroom : decide ((p.data id.page).records + 1 ≥ p.layout.recordsPerPage) = false := by
      rw [hrecords]
      exact decide_eq_false fun hle => hfull (Nat.le_trans (Nat.le_of_eq h.perPage_eq) hle)
    show Ends (if decide ((p.data id.page).records + 1 ≥ p.layout.recordsPerPage) = true then _
      else pure () : PlainM Unit) _ _ _
    rw [hroom]
    exact h.occupy_of_room hpage hslot hfree hdata (Nat.not_le.1 hfull)

/-- What is left of an insertion at a place once nothing speaks against it. -/
theorem Represents.ends_fillAt (h : Represents p k) {id : RecordId} (hpage : id.page < k.pages)
    (hslot : id.slot < k.perPage) (hfree : k.isLive id = false) {record : List UInt8}
    (hsize : record.length = p.layout.recordSize) :
    Ends (do
        let header ← PlainFile.look id.page fun _ => PageHeader.decode
        if header.records + 1 ≥ (← EStateM.get).header.recordsPerPage then
          match ← PlainFile.locate id.page with
          | .after prev => do
            PlainFile.checkPage prev
            PlainFile.fillAndUnlink id record (.after prev)
          | position => PlainFile.fillAndUnlink id record position
        else PlainFile.fillAndUnlink id record .absent : PlainM Unit) p
      (fun _ p' => Follows p k p' (k.occupy id record)) (fun _ _ => False) := by
  have hrecords : (p.data id.page).records = k.count id.page := h.counted _ hpage
  rw [ends_bind, PlainFile.ends_look (PageLayout.decode_eq (p.page id.page) p.layout)]
  refine ends_bind.mpr (ends_get.mpr ?_)
  show Ends (if (p.data id.page).records + 1 ≥ p.header.recordsPerPage then _ else _) p _ _
  rw [hrecords, ← h.perPage_eq, ends_ite]
  refine ⟨fun _ => ?_, fun hroom => ?_⟩
  · rw [ends_bind]
    refine (h.ends_locate id.page).imp ?_ fun _ _ h => h
    rintro position p' ⟨hp', hstands⟩
    rw [hp']
    have hfill := h.ends_fillAndUnlink hpage hslot hfree hsize fun _ => hstands
    cases position with
    | head => exact hfill
    | absent => exact hfill
    | after prev =>
      obtain ⟨before, rest, hlist⟩ := hstands
      have hprev : prev < p.header.pages := h.lt_of_mem_free (by rw [hlist]; simp)
      show Ends (do
        PlainFile.checkPage prev
        PlainFile.fillAndUnlink id record (.after prev)) p _ _
      rw [ends_bind, PlainFile.ends_checkPage]
      exact ⟨fun _ => hfill, fun hle => absurd hprev (Nat.not_lt.2 hle)⟩
  · exact h.ends_fillAndUnlink hpage hslot hfree hsize fun hfull => absurd hfull hroom

/-- **Inserting a record at a place.** -/
theorem agrees_insertAt (h : Represents p k) (id : RecordId) (record : List UInt8) :
    Agrees p k (PlainFile.insertAt id record) (KeyedStore.insertAt id record) := by
  refine h.agrees_checkSize fun hsize => h.agrees_checkPage fun hpage => ?_
  unfold Agrees
  refine ends_bind.mpr (ends_get.mpr ?_)
  by_cases hslot : p.hasSlot id.slot = true
  · have hlt : id.slot < p.header.recordsPerPage := of_decide_eq_true hslot
    have hlt' : id.slot < k.perPage := by
      rw [h.perPage_eq]
      exact hlt
    have hinside : ¬id.slot ≥ k.perPage := Nat.not_le.2 hlt'
    dsimp only
    rw [if_pos hslot, ends_bind, PlainFile.ends_look (f := fun l b => l.isOccupied b id.slot)
      (PageLayout.isOccupied_eq h.whole.fits hlt)]
    show Ends (if (p.data id.page).occupied id.slot = true then _ else _) p _ _
    rw [← h.isLive_eq hpage]
    cases hlive : k.isLive id with
    | true =>
      rw [if_pos rfl]
      refine ends_fail.mpr ?_
      refine ends_bind.mpr (ends_get.mpr ?_)
      rw [if_neg hinside]
      refine ends_bind.mpr (ends_get.mpr ?_)
      rw [if_pos hlive]
      exact ⟨rfl, rfl⟩
    | false =>
      rw [if_neg Bool.false_ne_true]
      refine (h.ends_fillAt hpage hlt' hlive hsize).imp (fun _ p' hp' => ?_) fun _ _ h => h.elim
      refine ends_bind.mpr (ends_get.mpr ?_)
      rw [if_neg hinside]
      refine ends_bind.mpr (ends_get.mpr ?_)
      rw [hlive, if_neg Bool.false_ne_true]
      exact ⟨rfl, hp'⟩
  · have hbeyond : id.slot ≥ k.perPage := by
      rw [h.perPage_eq]
      exact Nat.not_lt.1 fun hlt => hslot (decide_eq_true hlt)
    dsimp only
    rw [if_neg hslot]
    refine ends_fail.mpr ?_
    refine ends_bind.mpr (ends_get.mpr ?_)
    rw [if_pos hbeyond]
    exact ⟨rfl, rfl⟩

/-- **Extending a file.** -/
theorem agrees_newPage (h : Represents p k) (hpages : p.header.pages < noPage) :
    Agrees p k PlainFile.newPage KeyedStore.newPage := by
  refine (PlainFile.ends_newPage h.whole.toSized).imp ?_ fun _ _ h => h.elim
  rintro _ _ ⟨rfl, b, rfl, hdata⟩
  rw [h.storedLink_head hpages] at hdata
  exact ⟨h.pages_eq.trans h.whole.count.symm, h.addPage hdata⟩

/-- The list starts where the free list does. -/
theorem Represents.free_eq (h : Represents p k) : p.header.freeHead = k.free.head? :=
  h.chain.head_eq

/-- **Finding a page with a free slot.** -/
theorem agrees_freePage (h : Represents p k) :
    Agrees p k PlainFile.freePage KeyedStore.freePage := by
  have hhead := h.free_eq
  refine (PlainFile.ends_freePage h.whole.toSized).imp ?_ ?_
  · rintro page p' (⟨hp', hsome, -⟩ | ⟨hnone, rfl, b, rfl, hdata⟩)
    · rw [hsome] at hhead
      obtain ⟨rest, hlist⟩ := List.head?_eq_some_iff.mp hhead.symm
      rw [hp']
      unfold KeyedStore.freePage
      refine ends_bind.mpr (ends_get.mpr ?_)
      rw [hlist]
      exact ⟨rfl, .refl h⟩
    · rw [hnone] at hhead
      have hempty := List.head?_eq_none_iff.mp hhead.symm
      unfold KeyedStore.freePage
      refine ends_bind.mpr (ends_get.mpr ?_)
      rw [hempty]
      exact ⟨h.pages_eq.trans h.whole.count.symm, h.addPage (by rw [hdata, hnone]; rfl)⟩
  · rintro e _ ⟨-, page, hsome, hle, -⟩
    exact absurd (h.lt_of_mem_free (h.head_mem hsome)) (Nat.not_lt.2 hle)

/-- What is left of an insertion once a page is found. -/
theorem Represents.ends_fillFirst (h : Represents p k) {page : Nat} {rest : List Nat}
    (hlist : k.free = page :: rest) {record : List UInt8}
    (hsize : record.length = p.layout.recordSize) :
    Ends (do
        match ← PlainFile.look page (·.firstFreeSlot) with
        | none => fail (.internal (.noFreeSlot page))
        | some slot => do
          PlainFile.fillAndUnlink { page, slot } record .head
          return { page, slot } : PlainM RecordId) p
      (fun id p' => ∃ slot, k.lowestFree page = some slot ∧ id = ⟨page, slot⟩ ∧
        Follows p k p' (k.occupy ⟨page, slot⟩ record)) (fun _ _ => False) := by
  have hmem : page ∈ k.free := by
    rw [hlist]
    exact List.mem_cons_self
  have hpage := ((h.mem_free page).mp hmem).1
  obtain ⟨slot, hlowest, hslot, hfree⟩ := h.lowestFree_eq_some hmem
  rw [ends_bind, PlainFile.ends_look (f := fun l => l.firstFreeSlot) (h.firstFreeSlot_eq hpage),
    hlowest]
  dsimp only
  rw [ends_bind]
  have hstands : FreePosition.head.Stands k.free page := ⟨rest, hlist⟩
  have hfill : Ends (PlainFile.fillAndUnlink ⟨page, slot⟩ record .head) p _ _ :=
    h.ends_fillAndUnlink hpage hslot hfree hsize fun _ => hstands
  refine hfill.imp ?_ fun _ _ h => h
  rintro _ p' hp'
  exact ⟨slot, rfl, rfl, hp'⟩

/-- The lowest free slot of a new page is its first. -/
theorem Shows.lowestFree_addPage (h : Shows p k) : k.addPage.lowestFree k.pages = some 0 := by
  have hnone : ∀ slot, k.addPage.isLive ⟨k.pages, slot⟩ = false := by
    intro slot
    rw [← Bool.not_eq_true]
    intro hlive
    have hlt : k.pages < k.pages := h.page_lt (show k.isLive ⟨k.pages, slot⟩ = true from hlive)
    exact Nat.lt_irrefl _ hlt
  obtain ⟨n, hn⟩ : ∃ n, k.perPage = n + 1 := Nat.exists_eq_succ_of_ne_zero (by
    rw [h.perPage_eq]
    exact Nat.ne_of_gt h.whole.fits.positive)
  show (List.range k.perPage).find? _ = _
  rw [hn, List.range_succ_eq_map, List.find?_cons_of_pos]
  rw [hnone]
  rfl

/-- **Inserting a record.** -/
theorem agrees_insert (h : Represents p k) (record : List UInt8) :
    Agrees p k (PlainFile.insert record) (KeyedStore.insert record) := by
  have hhead := h.free_eq
  refine h.agrees_checkSize fun hsize => ?_
  unfold Agrees
  rw [ends_bind]
  refine (PlainFile.ends_freePage h.whole.toSized).imp ?_ ?_
  · rintro page p' (⟨hp', hsome, -⟩ | ⟨hnone, rfl, b, rfl, hdata⟩)
    · rw [hsome] at hhead
      obtain ⟨rest, hlist⟩ := List.head?_eq_some_iff.mp hhead.symm
      rw [hp']
      refine (h.ends_fillFirst hlist hsize).imp ?_ fun _ _ h => h.elim
      rintro _ p'' ⟨slot, hlowest, rfl, hp''⟩
      refine ends_bind.mpr (ends_get.mpr ?_)
      rw [hlist]
      dsimp only
      rw [hlowest]
      exact ⟨rfl, hp''⟩
    · rw [hnone] at hhead
      have hempty := List.head?_eq_none_iff.mp hhead.symm
      have hadded : Follows p k (p.added b) k.addPage := h.addPage (by rw [hdata, hnone]; rfl)
      have hcount : k.pages = p.count := h.pages_eq.trans h.whole.count.symm
      rw [← hcount]
      have hlist : k.addPage.free = k.pages :: k.free := rfl
      refine (hadded.represents.ends_fillFirst hlist hsize).imp ?_ fun _ _ h => h.elim
      rintro _ p'' ⟨slot, hlowest, rfl, hp''⟩
      obtain rfl : 0 = slot := Option.some.inj (h.lowestFree_addPage.symm.trans hlowest)
      refine ends_bind.mpr (ends_get.mpr ?_)
      rw [hempty]
      exact ⟨rfl, hadded.trans hp''⟩
  · rintro e _ ⟨-, page, hsome, hle, -⟩
    exact absurd (h.lt_of_mem_free (h.head_mem hsome)) (Nat.not_lt.2 hle)

end Operations

end SlottedFile
