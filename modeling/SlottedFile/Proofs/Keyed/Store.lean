import Mathlib.Data.List.Count
import Mathlib.Logic.Function.Basic
import SlottedFile.Proofs.Ends
import SlottedFile.Error.Record

/-!
# A keyed store with a free list

What a record file is to its users, apart from where the bytes are: a map from
places to records, and a list of the pages that have a free slot. An insertion
goes to the page at the front of the list, a page that stops being full is put
there, and a page that becomes full is taken out from wherever it stands.

There are no bytes here, no links and no pool, so that every operation answers
at once, and an operation that fails leaves the store as it was.
-/

namespace SlottedFile

/-- **A keyed store.** -/
structure KeyedStore where
  /-- The length of every record. -/
  recordSize : Nat
  /-- The number of slots of a page. -/
  perPage : Nat
  pages : Nat
  /-- The record at a place, if there is one. -/
  records : RecordId → Option (List UInt8)
  /-- The pages with a free slot, in the order in which they are filled. -/
  free : List Nat

/-- An operation on a keyed store. -/
abbrev KeyedM := EStateM RecordError KeyedStore

namespace KeyedStore

variable (k : KeyedStore)

/-- The store with nothing in it. -/
def empty (recordSize perPage : Nat) : KeyedStore where
  recordSize := recordSize
  perPage := perPage
  pages := 0
  records := fun _ => none
  free := []

/-- Whether there is a record at a place. -/
def isLive (id : RecordId) : Bool := (k.records id).isSome

/-- The number of records in a page. -/
def count (page : Nat) : Nat :=
  (List.range k.perPage).countP fun slot => k.isLive { page, slot }

/-- Whether a page has no free slot. -/
def isFull (page : Nat) : Bool := k.count page ≥ k.perPage

/-- The lowest free slot of a page. -/
def lowestFree (page : Nat) : Option Nat :=
  (List.range k.perPage).find? fun slot => !k.isLive { page, slot }

/-- The places of records, page by page. -/
def places : List RecordId :=
  (List.range k.pages).flatMap fun page =>
    (List.range k.perPage).map fun slot => { page, slot }

/-- **The places at which there is a record**, in order. -/
def live : List RecordId := k.places.filter k.isLive

/-- Whether a place is a slot of a page or comes after it. -/
def notBefore (page slot : Nat) (id : RecordId) : Bool :=
  decide (page < id.page) || (id.page == page && decide (slot ≤ id.slot))

/-- The first place from a slot of a page on at which there is a record. -/
def seek (page slot : Nat) : Option RecordId := k.live.find? (notBefore page slot)

/-- The store with other contents at a place. -/
def put (id : RecordId) (record : Option (List UInt8)) : KeyedStore :=
  { k with records := Function.update k.records id record }

/-- **The store with a record put into a free place.** A page that becomes full
leaves the list. -/
def occupy (id : RecordId) (record : List UInt8) : KeyedStore :=
  let k' := k.put id (some record)
  if k'.isFull id.page then { k' with free := k.free.erase id.page } else k'

/-- **The store without the record at a place.** A page that was full is put at
the front of the list. -/
def vacate (id : RecordId) : KeyedStore :=
  let k' := k.put id none
  if k.isFull id.page then { k' with free := id.page :: k.free } else k'

/-- **The store with another page**, at the front of the list. -/
def addPage : KeyedStore := { k with pages := k.pages + 1, free := k.pages :: k.free }

/-! ## The operations -/

/-- Refuse a record of the wrong length. -/
def checkSize (record : List UInt8) : KeyedM Unit := do
  let size := (← get).recordSize
  if record.length ≠ size then throw (.invalidRecordSize size record.length)

/-- Refuse a page that is not there. -/
def checkPage (page : Nat) : KeyedM Unit := do
  if page ≥ (← get).pages then throw (.pageNotExist page)

/-- Refuse a place at which there is no record. -/
def checkLive (id : RecordId) : KeyedM Unit := do
  checkPage id.page
  unless (← get).isLive id do throw (.recordNotFound id)

/-- **Insert a record** into the lowest free slot of the page at the front of the
list, or into the first slot of a new page if there is none. -/
def insert (record : List UInt8) : KeyedM RecordId := do
  checkSize record
  let k ← get
  match k.free with
  | [] =>
    let id : RecordId := { page := k.pages, slot := 0 }
    set (k.addPage.occupy id record)
    return id
  | page :: _ =>
    match k.lowestFree page with
    | none => throw (.internal (.noFreeSlot page))
    | some slot =>
      let id : RecordId := { page, slot }
      set (k.occupy id record)
      return id

/-- **Insert a record at a place**, which has to be free. -/
def insertAt (id : RecordId) (record : List UInt8) : KeyedM Unit := do
  checkSize record
  checkPage id.page
  if id.slot ≥ (← get).perPage then throw (.internal (.slotOutOfRange id))
  if (← get).isLive id then throw (.internal (.slotOccupied id))
  modify (·.occupy id record)

/-- **Delete a record.** -/
def delete (id : RecordId) : KeyedM Unit := do
  checkLive id
  modify (·.vacate id)

/-- **Replace a record.** -/
def update (id : RecordId) (record : List UInt8) : KeyedM Unit := do
  checkSize record
  checkLive id
  modify (·.put id (some record))

/-- **The record at a place.** -/
def get (id : RecordId) : KeyedM (List UInt8) := do
  checkLive id
  return ((← EStateM.get).records id).getD []

/-- **Extend the store by a page.** -/
def newPage : KeyedM Nat := modifyGet fun k => (k.pages, k.addPage)

/-- **A page with a free slot**: the front of the list, or a new page. -/
def freePage : KeyedM Nat := do
  match (← EStateM.get).free with
  | [] => newPage
  | page :: _ => return page

/-! ## Counting the records of a page -/

section Counting

variable {k}

/-- One place more is one record more. -/
theorem countP_of_update {α : Type} [DecidableEq α] {l : List α} (hnodup : l.Nodup)
    {f g : α → Bool} {a : α} (ha : a ∈ l) (hother : ∀ b, b ≠ a → f b = g b) (hf : f a = true)
    (hg : g a = false) : l.countP f = l.countP g + 1 := by
  have hperm := List.perm_cons_erase ha
  have herase : (l.erase a).countP f = (l.erase a).countP g := by
    refine List.countP_congr fun b hb => ?_
    rw [hother b (hnodup.mem_erase_iff.mp hb).1]
  rw [hperm.countP_eq f, hperm.countP_eq g, List.countP_cons_of_pos hf,
    List.countP_cons_of_neg (by rw [hg]; exact Bool.false_ne_true), herase]

@[simp] theorem records_put (id : RecordId) (record : Option (List UInt8)) (id' : RecordId) :
    (k.put id record).records id' = if id' = id then record else k.records id' :=
  Function.update_apply _ _ _ _

theorem isLive_put (id : RecordId) (record : Option (List UInt8)) (id' : RecordId) :
    (k.put id record).isLive id' = if id' = id then record.isSome else k.isLive id' := by
  unfold isLive
  rw [records_put, apply_ite Option.isSome]

theorem count_congr {k' : KeyedStore} {page : Nat} (hperPage : k'.perPage = k.perPage)
    (h : ∀ slot, k'.records ⟨page, slot⟩ = k.records ⟨page, slot⟩) : k'.count page = k.count page := by
  unfold count isLive
  rw [hperPage]
  exact List.countP_congr fun slot _ => by rw [h]

theorem count_le (page : Nat) : k.count page ≤ k.perPage := by
  unfold count
  exact Nat.le_trans List.countP_le_length (Nat.le_of_eq List.length_range)

theorem count_put_of_ne {id : RecordId} {record : Option (List UInt8)} {page : Nat}
    (h : page ≠ id.page) : (k.put id record).count page = k.count page := by
  refine count_congr rfl fun slot => ?_
  rw [records_put, if_neg]
  intro heq
  exact h (congrArg RecordId.page heq)

/-- **A record that is put into a free place** is one more. -/
theorem count_put_of_free {id : RecordId} (hslot : id.slot < k.perPage) (hfree : k.isLive id = false)
    (record : List UInt8) : (k.put id (some record)).count id.page = k.count id.page + 1 := by
  refine countP_of_update List.nodup_range (List.mem_range.mpr hslot) (fun slot hne => ?_) ?_ hfree
  · rw [isLive_put, if_neg]
    intro heq
    exact hne (congrArg RecordId.slot heq)
  · rw [isLive_put, if_pos rfl]
    rfl

/-- **A record that is taken away** is one less. -/
theorem count_put_none {id : RecordId} (hslot : id.slot < k.perPage) (hlive : k.isLive id = true) :
    (k.put id none).count id.page + 1 = k.count id.page := by
  refine (countP_of_update List.nodup_range (List.mem_range.mpr hslot) (fun slot hne => ?_) hlive
    ?_).symm
  · rw [isLive_put, if_neg]
    intro heq
    exact hne (congrArg RecordId.slot heq)
  · rw [isLive_put, if_pos rfl]
    rfl

theorem isLive_put_of_live {id : RecordId} (hlive : k.isLive id = true) (record : List UInt8)
    (id' : RecordId) : (k.put id (some record)).isLive id' = k.isLive id' := by
  rw [isLive_put]
  split
  · rename_i heq
    rw [heq, hlive]
    rfl
  · rfl

/-- A record that is replaced is none more and none less. -/
theorem count_put_of_live {id : RecordId} (hlive : k.isLive id = true) (record : List UInt8)
    (page : Nat) : (k.put id (some record)).count page = k.count page := by
  refine List.countP_congr fun slot _ => ?_
  rw [isLive_put_of_live hlive]

theorem isFull_iff {page : Nat} : k.isFull page = true ↔ k.perPage ≤ k.count page :=
  decide_eq_true_iff

/-- A page is full if there is a record at each of its slots. -/
theorem isFull_iff_isLive {page : Nat} :
    k.isFull page = true ↔ ∀ slot < k.perPage, k.isLive ⟨page, slot⟩ = true := by
  have hall : k.count page = (List.range k.perPage).length ↔
      ∀ slot ∈ List.range k.perPage, k.isLive ⟨page, slot⟩ = true := List.countP_eq_length
  rw [List.length_range] at hall
  rw [isFull_iff, ← Nat.le_antisymm_iff.trans (and_iff_right (k.count_le page)), hall]
  exact forall_congr' fun slot => imp_congr_left List.mem_range

theorem isFull_put_of_ne {id : RecordId} {record : Option (List UInt8)} {page : Nat}
    (h : page ≠ id.page) : (k.put id record).isFull page = k.isFull page := by
  unfold isFull
  rw [count_put_of_ne h]
  rfl

end Counting

/-! ## What the checks answer -/

section Checks

variable {k}

theorem checkSize_of_eq {record : List UInt8} (h : record.length = k.recordSize) :
    checkSize record k = .ok () k := by
  show (if record.length ≠ k.recordSize then _ else pure () : KeyedM Unit) k = _
  rw [if_neg (not_not_intro h)]
  rfl

theorem checkSize_of_ne {record : List UInt8} (h : record.length ≠ k.recordSize) :
    checkSize record k = .error (.invalidRecordSize k.recordSize record.length) k := by
  show (if record.length ≠ k.recordSize then throw _ else pure () : KeyedM Unit) k = _
  rw [if_pos h]
  rfl

theorem checkPage_of_lt {page : Nat} (h : page < k.pages) : checkPage page k = .ok () k := by
  show (if page ≥ k.pages then _ else pure () : KeyedM Unit) k = _
  rw [if_neg (Nat.not_le.2 h)]
  rfl

theorem checkPage_of_le {page : Nat} (h : k.pages ≤ page) :
    checkPage page k = .error (.pageNotExist page) k := by
  show (if page ≥ k.pages then throw _ else pure () : KeyedM Unit) k = _
  rw [if_pos h]
  rfl

theorem checkLive_of_live {id : RecordId} (hpage : id.page < k.pages) (hlive : k.isLive id = true) :
    checkLive id k = .ok () k := by
  refine (bind_of_ok (checkPage_of_lt hpage)).trans ?_
  show (if k.isLive id = true then pure () else _ : KeyedM Unit) k = _
  rw [if_pos hlive]
  rfl

theorem checkLive_of_free {id : RecordId} (hpage : id.page < k.pages) (hfree : k.isLive id = false) :
    checkLive id k = .error (.recordNotFound id) k := by
  refine (bind_of_ok (checkPage_of_lt hpage)).trans ?_
  show (if k.isLive id = true then _ else throw _ : KeyedM Unit) k = _
  rw [if_neg (by rw [hfree]; exact Bool.false_ne_true)]
  rfl

theorem checkLive_of_le {id : RecordId} (hpage : k.pages ≤ id.page) :
    checkLive id k = .error (.pageNotExist id.page) k :=
  bind_of_error (checkPage_of_le hpage)

end Checks

/-! ## What the operations do -/

section Operations

variable {k k' : KeyedStore} {id : RecordId} {record : List UInt8}

/-- A record that is put somewhere leaves all but the records and the list as it is. -/
theorem occupy_eq (k : KeyedStore) (id : RecordId) (record : List UInt8) :
    k.occupy id record = { k with
      records := Function.update k.records id (some record)
      free := (k.occupy id record).free } := by
  unfold occupy
  dsimp only
  split <;> rfl

/-- So does one that is taken away. -/
theorem vacate_eq (k : KeyedStore) (id : RecordId) :
    k.vacate id = { k with
      records := Function.update k.records id none
      free := (k.vacate id).free } := by
  unfold vacate
  dsimp only
  split <;> rfl

theorem records_occupy (k : KeyedStore) (id : RecordId) (record : List UInt8) :
    (k.occupy id record).records = Function.update k.records id (some record) := by
  rw [occupy_eq]

theorem records_vacate (k : KeyedStore) (id : RecordId) :
    (k.vacate id).records = Function.update k.records id none := by
  rw [vacate_eq]

@[simp] theorem pages_occupy (k : KeyedStore) (id : RecordId) (record : List UInt8) :
    (k.occupy id record).pages = k.pages := by
  rw [occupy_eq]

@[simp] theorem perPage_occupy (k : KeyedStore) (id : RecordId) (record : List UInt8) :
    (k.occupy id record).perPage = k.perPage := by
  rw [occupy_eq]

@[simp] theorem pages_vacate (k : KeyedStore) (id : RecordId) :
    (k.vacate id).pages = k.pages := by
  rw [vacate_eq]

@[simp] theorem perPage_vacate (k : KeyedStore) (id : RecordId) :
    (k.vacate id).perPage = k.perPage := by
  rw [vacate_eq]

theorem ends_checkSize (record : List UInt8) :
    Ends (checkSize record) k (fun _ k' => k' = k) (fun _ _ => True) :=
  ends_ite.mpr ⟨fun _ => trivial, fun _ => rfl⟩

theorem ends_checkPage (page : Nat) :
    Ends (checkPage page) k (fun _ k' => page < k.pages ∧ k' = k) (fun _ _ => True) :=
  ends_ite.mpr ⟨fun _ => trivial, fun hpage => ⟨Nat.not_le.1 hpage, rfl⟩⟩

theorem ends_checkLive (id : RecordId) :
    Ends (checkLive id) k (fun _ k' => k.isLive id = true ∧ k' = k) (fun _ _ => True) := by
  refine (ends_checkPage id.page).bind ?_
  rintro _ _ ⟨-, rfl⟩
  exact ends_ite.mpr ⟨fun hlive => ⟨hlive, rfl⟩, fun _ => trivial⟩

/-- **A record is inserted** into the first page of the list, or into one that is added if the
list is empty. -/
theorem ends_insert (record : List UInt8) :
    Ends (insert record) k
      (fun id k' =>
        (k.free = [] ∧ id = ⟨k.pages, 0⟩ ∧ k' = k.addPage.occupy id record) ∨
        (k.free.head? = some id.page ∧ k.lowestFree id.page = some id.slot ∧
          k' = k.occupy id record))
      (fun _ _ => True) := by
  refine (ends_checkSize record).bind ?_
  rintro _ k rfl
  refine ends_bind.mpr (ends_get.mpr ?_)
  cases hfree : k.free with
  | nil => exact .inl ⟨rfl, rfl, rfl⟩
  | cons page rest =>
    dsimp only
    cases hlowest : k.lowestFree page with
    | none => trivial
    | some slot => exact .inr ⟨rfl, hlowest, rfl⟩

/-- **A record is inserted at a place** that is free. -/
theorem ends_insertAt (id : RecordId) (record : List UInt8) :
    Ends (insertAt id record) k
      (fun _ k' => id.page < k.pages ∧ id.slot < k.perPage ∧ k.isLive id = false ∧
        k' = k.occupy id record)
      (fun _ _ => True) := by
  refine (ends_checkSize record).bind ?_
  rintro _ _ rfl
  refine (ends_checkPage id.page).bind ?_
  rintro _ _ ⟨hpage, rfl⟩
  refine ends_bind.mpr (ends_ite.mpr ⟨fun _ => trivial, fun hslot => ?_⟩)
  refine ends_bind.mpr (ends_ite.mpr ⟨fun _ => trivial, fun hfree => ?_⟩)
  exact ⟨hpage, Nat.not_le.1 hslot, eq_false_of_ne_true hfree, rfl⟩

/-- **A record is deleted.** -/
theorem ends_delete (id : RecordId) :
    Ends (delete id) k (fun _ k' => k.isLive id = true ∧ k' = k.vacate id)
      (fun _ _ => True) := by
  refine (ends_checkLive id).bind ?_
  rintro _ _ ⟨hlive, rfl⟩
  exact ⟨hlive, rfl⟩

/-- **A record is replaced.** -/
theorem ends_update (id : RecordId) (record : List UInt8) :
    Ends (update id record) k (fun _ k' => k.isLive id = true ∧ k' = k.put id (some record))
      (fun _ _ => True) := by
  refine (ends_checkSize record).bind ?_
  rintro _ _ rfl
  refine (ends_checkLive id).bind ?_
  rintro _ _ ⟨hlive, rfl⟩
  exact ⟨hlive, rfl⟩

/-- The record is where it was put. -/
theorem records_of_insert (h : insert record k = .ok id k') :
    k'.records = Function.update k.records id (some record) := by
  rcases (ends_insert record).of_ok h with ⟨-, -, rfl⟩ | ⟨-, -, rfl⟩
  · exact records_occupy _ id record
  · exact records_occupy k id record

/-- **A record that there is can be read**, -/
theorem get_eq (hpage : id.page < k.pages) (hrecord : k.records id = some record) :
    get id k = .ok record k := by
  have hlive : k.isLive id = true := by
    unfold isLive
    rw [hrecord]
    rfl
  refine (bind_of_ok (checkLive_of_live hpage hlive)).trans ?_
  show EStateM.Result.ok ((k.records id).getD []) k = _
  rw [hrecord]
  rfl

/-- and deleted, -/
theorem delete_eq (hpage : id.page < k.pages) (hlive : k.isLive id = true) :
    delete id k = .ok () (k.vacate id) :=
  bind_of_ok (checkLive_of_live hpage hlive)

/-- and one of the right length can be put where there is none. -/
theorem insertAt_eq (hsize : record.length = k.recordSize) (hpage : id.page < k.pages)
    (hslot : id.slot < k.perPage) (hfree : k.isLive id = false) :
    insertAt id record k = .ok () (k.occupy id record) := by
  have hends : Ends (insertAt id record) k (fun _ k' => k' = k.occupy id record)
      (fun _ _ => False) := by
    unfold insertAt
    rw [ends_bind, ends_of_ok (checkSize_of_eq hsize), ends_bind, ends_of_ok (checkPage_of_lt hpage)]
    refine ends_bind.mpr (ends_ite.mpr ⟨fun hle => absurd hslot (Nat.not_lt.2 hle), fun _ => ?_⟩)
    refine ends_bind.mpr (ends_ite.mpr ⟨fun hlive => ?_, fun _ => rfl⟩)
    rw [hfree] at hlive
    cases hlive
  obtain ⟨_, _, hok, rfl⟩ := hends.exists_ok
  exact hok

end Operations

end KeyedStore

end SlottedFile
