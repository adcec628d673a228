import SlottedFile.Proofs.Keyed.Determined
import SlottedFile.Proofs.Records.Acknowledged
import SlottedFile.Proofs.Records.Changes
import SlottedFile.Proofs.Records.Refinement
import SlottedFile.Proofs.Records.Room
import SlottedFile.Proofs.Records.Solo

/-!
# Deletions that are undone

A record that was deleted can be put back where it was. The page that it was on may have been
put at the front of the free list when it was deleted, and may have been pushed back from there
by other pages since, so that it has to be found and taken out again wherever it stands.

Records that are put back in any order are there again. If they are put back in the order
opposite to the one in which they were deleted, nothing is left to be seen of it at all: the
keyed store is the one that there was (`KeyedStore.occupy_vacate`), down to the order of its
list of pages, and so the file has the same bytes as before. That is a matter of runs and not
of keyed stores alone, since a page that is full must have had no link to begin with.
-/

namespace SlottedFile

/-- The deletion of a record, -/
def RecordCall.deletionOf (r : RecordId × List UInt8) : RecordCall := .delete r.1

/-- and what puts it back. -/
def RecordCall.insertionOf (r : RecordId × List UInt8) : RecordCall := .insertAt r.1 r.2

/-- Whether a call puts one of some records to its place, or takes it away from there. -/
def RecordCall.Moves (own : RecordId → Prop) : RecordCall → Prop
  | insertAt id _ | delete id => own id
  | _ => False

/-! ## The keyed store -/

namespace KeyedStore

variable {k k' k₁ : KeyedStore} {id : RecordId} {record : List UInt8}
  {records : List (RecordId × List UInt8)} {calls : List RecordCall}

/-- **A record that is put back where it was** leaves the store as it was. If its page was full
it is full again, and leaves the front of the list to which it had come. -/
theorem occupy_vacate (hrecord : k.records id = some record) :
    (k.vacate id).occupy id record = k := by
  have hput : (k.vacate id).put id (some record) = { k with free := (k.vacate id).free } := by
    rw [vacate_eq]
    unfold put
    dsimp only
    rw [Function.update_idem, ← hrecord, Function.update_eq_self]
  have hfull : ((k.vacate id).put id (some record)).isFull id.page = k.isFull id.page := by
    rw [hput]
    rfl
  unfold occupy
  dsimp only
  rw [hfull, hput]
  unfold vacate
  cases k.isFull id.page with
  | true =>
    rw [if_pos rfl, if_pos rfl]
    dsimp only
    rw [List.erase_cons_head]
  | false =>
    rw [if_neg Bool.false_ne_true, if_neg Bool.false_ne_true]
    rfl

/-- **A record that a store has room for** at a place. -/
structure Admits (k : KeyedStore) (r : RecordId × List UInt8) : Prop where
  page_lt : r.1.page < k.pages
  slot_lt : r.1.slot < k.perPage
  length_eq : r.2.length = k.recordSize

/-- Room is not a matter of the records that there are. -/
theorem Admits.congr {r : RecordId × List UInt8} {contents : RecordId → Option (List UInt8)}
    {free : List Nat} (h : k.Admits r) : { k with records := contents, free := free }.Admits r :=
  ⟨h.page_lt, h.slot_lt, h.length_eq⟩

/-- **Calls that a store answers** one after the other. -/
inductive Takes : KeyedStore → List RecordCall → KeyedStore → Prop
  | nil (k : KeyedStore) : Takes k [] k
  | cons {k k₁ k' : KeyedStore} {call : RecordCall} {calls : List RecordCall} {r : RecordReply}
      (hspec : call.spec k = .ok r k₁) (hrest : Takes k₁ calls k') : Takes k (call :: calls) k'

theorem Takes.append {calls' : List RecordCall} (h : Takes k calls k₁) (h' : Takes k₁ calls' k') :
    Takes k (calls ++ calls') k' := by
  induction h with
  | nil => exact h'
  | cons hspec _ ih => exact .cons hspec (ih h')

theorem deletionOf_spec {r : RecordId × List UInt8} (hadmits : k.Admits r)
    (hrecord : k.records r.1 = some r.2) :
    (RecordCall.deletionOf r).spec k = .ok .done (k.vacate r.1) := by
  have hlive : k.isLive r.1 = true := by
    unfold isLive
    rw [hrecord]
    rfl
  exact bind_of_ok (delete_eq hadmits.page_lt hlive)

theorem insertionOf_spec {r : RecordId × List UInt8} (hadmits : k.Admits r)
    (hfree : k.records r.1 = none) :
    (RecordCall.insertionOf r).spec k = .ok .done (k.occupy r.1 r.2) := by
  have hnot : k.isLive r.1 = false := by
    unfold isLive
    rw [hfree]
    rfl
  exact bind_of_ok (insertAt_eq hadmits.length_eq hadmits.page_lt hadmits.slot_lt hnot)

/-- **Records can be deleted one after the other, and be put back in the opposite order.** In
between there are all the other records. -/
theorem exists_undone (hdistinct : (records.map Prod.fst).Nodup)
    (hadmits : ∀ r ∈ records, k.Admits r) (hrecords : ∀ r ∈ records, k.records r.1 = some r.2) :
    ∃ k₁, Takes k (records.map .deletionOf) k₁ ∧
      Takes k₁ (records.reverse.map .insertionOf) k ∧
      k₁ = { k with
        records := fun id => if id ∈ records.map Prod.fst then none else k.records id
        free := k₁.free } := by
  induction records generalizing k with
  | nil => exact ⟨k, .nil k, .nil k, rfl⟩
  | cons r rest ih =>
    rw [List.map_cons, List.nodup_cons] at hdistinct
    obtain ⟨hnew, hdistinct⟩ := hdistinct
    rw [List.forall_mem_cons] at hadmits hrecords
    have hdeletion := deletionOf_spec hadmits.1 hrecords.1
    -- the others are untouched by the deletion of the first
    have hrest : ∀ r' ∈ rest, (k.vacate r.1).records r'.1 = some r'.2 := by
      intro r' hr'
      have hne : r'.1 ≠ r.1 := fun heq => hnew (heq ▸ List.mem_map_of_mem hr')
      rw [records_vacate, Function.update_of_ne hne]
      exact hrecords.2 r' hr'
    obtain ⟨k₁, hdeleted, hback, heq⟩ := ih hdistinct
      (fun r' hr' => by rw [vacate_eq]; exact (hadmits.2 r' hr').congr) hrest
    refine ⟨k₁, .cons hdeletion hdeleted, ?_, ?_⟩
    · rw [List.reverse_cons, List.map_append]
      refine hback.append (.cons (r := .done) ?_ (.nil k))
      have hadmits' : (k.vacate r.1).Admits r := by
        rw [vacate_eq]
        exact hadmits.1.congr
      have hgone : (k.vacate r.1).records r.1 = none := by
        rw [records_vacate, Function.update_self]
      rw [insertionOf_spec hadmits' hgone, occupy_vacate hrecords.1]
    · rw [heq, vacate_eq]
      dsimp only
      congr 1
      funext id
      by_cases hid : id = r.1
      · have hmem : id ∈ (r :: rest).map Prod.fst := hid ▸ List.mem_cons_self
        rw [if_pos hmem, hid, Function.update_self, ite_self]
      · rw [Function.update_of_ne hid]
        exact if_congr ((or_iff_right hid).symm.trans List.mem_cons.symm) rfl rfl

/-- **Records can be put to places that are free**, one after the other. -/
theorem exists_inserted (target : RecordId → Option (List UInt8))
    (hdistinct : (records.map Prod.fst).Nodup) (hadmits : ∀ r ∈ records, k.Admits r)
    (hfree : ∀ r ∈ records, k.records r.1 = none) (htarget : ∀ r ∈ records, target r.1 = some r.2)
    (hother : ∀ id, id ∉ records.map Prod.fst → k.records id = target id) :
    ∃ k', Takes k (records.map .insertionOf) k' ∧ k'.records = target := by
  induction records generalizing k with
  | nil => exact ⟨k, .nil k, funext fun id => hother id List.not_mem_nil⟩
  | cons r rest ih =>
    rw [List.map_cons, List.nodup_cons] at hdistinct
    obtain ⟨hnew, hdistinct⟩ := hdistinct
    rw [List.forall_mem_cons] at hadmits hfree htarget
    obtain ⟨k', hinserted, heq⟩ := ih (k := k.occupy r.1 r.2) hdistinct
      (fun r' hr' => by rw [occupy_eq]; exact (hadmits.2 r' hr').congr)
      (fun r' hr' => by
        have hne : r'.1 ≠ r.1 := fun heq => hnew (heq ▸ List.mem_map_of_mem hr')
        rw [records_occupy, Function.update_of_ne hne]
        exact hfree.2 r' hr')
      htarget.2
      (fun id hid => by
        rw [records_occupy, Function.update_apply]
        split
        · rename_i hsame
          rw [hsame, htarget.1]
        · rename_i hne
          refine hother id fun hmem => ?_
          rcases List.mem_cons.mp hmem with hsame | hmem
          · exact hne hsame
          · exact hid hmem)
    exact ⟨k', .cons (insertionOf_spec hadmits.1 hfree.1) hinserted, heq⟩

end KeyedStore

/-! ## Sessions -/

/-- **Calls that succeed** one after the other, with something that is so after each. -/
inductive Session.Succeeds (holds : Session → Prop) : Session → List RecordCall → Session → Prop
  | nil (s : Session) : Succeeds holds s [] s
  | cons {s s₁ s' : Session} {call : RecordCall} {calls : List RecordCall} {r : RecordReply}
      (hrun : call.run s = .ok r s₁) (hholds : holds s₁) (hrest : Succeeds holds s₁ calls s') :
      Succeeds holds s (call :: calls) s'

section Undoing

variable {other : Nat → ImageId} {image : ImageId} {path : Path} {options : FileOptions}
  {history : List RecordEvent} {raw : List Hold} {own : RecordId → Prop} {p₀ : PlainFile}
  {k k' : KeyedStore} {s s' : Session} {c : Client}

namespace RecordCall.Moves

variable {call : RecordCall}

theorem pinFree (h : call.Moves own) : call.PinFree := by
  cases call <;> first | exact h.elim | trivial

theorem pages_eq (h : call.Moves own) {r : RecordReply} (hspec : call.spec k = .ok r k') :
    k'.pages = k.pages := by
  have hends : Ends call.spec k (fun _ k' => k'.pages = k.pages) (fun _ _ => True) := by
    cases call with
    | insertAt id record =>
      refine ends_bind.mpr ((KeyedStore.ends_insertAt id record).imp ?_ fun _ _ h => h)
      rintro _ _ ⟨-, -, -, rfl⟩
      exact k.pages_occupy id record
    | delete id =>
      refine ends_bind.mpr ((KeyedStore.ends_delete id).imp ?_ fun _ _ h => h)
      rintro _ _ ⟨-, rfl⟩
      exact k.pages_vacate id
    | _ => exact h.elim
  exact hends.of_ok hspec

/-- What a call leaves of a file came of it by a change of the records that it moves. -/
theorem altered {p p' : PlainFile} (h : call.Moves own) (hsized : p.Sized) {r : RecordReply}
    (hplain : call.plain p = .ok r p') : p.Altered own p' := by
  have hends : Ends call.plain p (call.Told p) fun e _ => e.IsError :=
    RecordCall.altered_plain hsized (by cases call <;> first | exact h.elim | trivial)
      (by cases call <;> first | exact h.elim | trivial)
  refine (hends.of_ok hplain).1.mono fun id hid => ?_
  cases call with
  | insertAt given record =>
    obtain rfl : id = given := hid
    exact h
  | delete given =>
    obtain rfl : id = given := hid
    exact h
  | _ => exact h.elim

end RecordCall.Moves

/-- **A session whose file came of another one** by changes of some records, and represents a
store. There is room for two pins. -/
structure Session.Amended (other : Nat → ImageId) (image : ImageId) (raw : List Hold)
    (own : RecordId → Prop) (p₀ : PlainFile) (k : KeyedStore) (s : Session) : Prop where
  ready : s.Ready (standFor other image s.file.handle) raw (s.own other image)
  represents : Represents (s.own other image) k
  linksOnly : (s.own other image).LinksOnly k.free
  altered : p₀.Altered own (s.own other image)

namespace Session.Amended

/-- A file is its own change. -/
theorem of_run (h : RecordRun other image path options .orderly history s c)
    (hample : s.Ample 2) (own : RecordId → Prop) :
    ∃ k, s.Amended other image c.holds own (s.own other image) k := by
  obtain ⟨hpages, -, k, -, -, hrep, hlinks⟩ := h.represents_linksOnly
  have hwork := h.atWork
  exact ⟨k, ⟨hwork.good, rfl, hrep.whole, hpages, hwork.toInHand.roomy hample⟩, hrep, hlinks,
    .refl hrep.whole.toSized⟩

/-- **The step lemma**: what the store answers, the session answers. -/
theorem exists_run (h : s.Amended other image raw own p₀ k) {call : RecordCall}
    (hmoves : call.Moves own) {r : RecordReply} (hspec : call.spec k = .ok r k') :
    ∃ s', call.run s = .ok r s' ∧ s'.Amended other image raw own p₀ k' := by
  have hpages : k.pages < noPage := by
    rw [h.represents.pages_eq]
    exact h.ready.pages_lt
  obtain ⟨p', hplain, hfollows⟩ :=
    (RecordCall.agrees h.represents h.ready.pages_lt hmoves.pinFree.readOnly).exists_ok hspec
  have hrep' := hfollows.represents
  have hexact := RecordCall.exact_run h.ready hmoves.pinFree
  cases hrun : call.run s with
  | error e s' =>
    -- the plain file would have failed as well
    obtain ⟨-, _, hfailed, -⟩ := hexact.of_error hrun
    rw [hplain] at hfailed
    cases hfailed
  | ok r' s' =>
    obtain ⟨p'', hplain', hbecame, hsteady⟩ := hexact.of_ok hrun
    rw [hplain] at hplain'
    cases hplain'
    have hown : s'.own other image = p' := by
      unfold Session.own
      rw [hbecame.handle_eq]
      exact hbecame.plain_eq
    have hlt : p'.header.pages < noPage := by
      rw [← hrep'.pages_eq, hmoves.pages_eq hspec]
      exact hpages
    refine ⟨s', rfl, ?_, hown ▸ hrep', hown ▸ hfollows.linksOnly h.linksOnly,
      h.altered.trans (hown ▸ hmoves.altered h.ready.whole.toSized hplain)⟩
    refine ⟨?_, rfl, hown ▸ hrep'.whole, hown ▸ hlt,
      hsteady.roomy h.ready.fit (fun _ => h.ready.roomy) hbecame.good.opened⟩
    rw [hbecame.handle_eq]
    exact hbecame.good

/-- **And so with a row of calls.** The file is in order after each of them. -/
theorem exists_succeeds {calls : List RecordCall} (h : s.Amended other image raw own p₀ k)
    (hmoves : ∀ call ∈ calls, call.Moves own) (htakes : k.Takes calls k') :
    ∃ s', s.Succeeds (fun s => (s.own other image).InOrder) calls s' ∧
      s'.Amended other image raw own p₀ k' := by
  induction htakes generalizing s with
  | nil k => exact ⟨s, .nil s, h⟩
  | cons hspec _ ih =>
    rw [List.forall_mem_cons] at hmoves
    obtain ⟨s₁, hrun, h₁⟩ := h.exists_run hmoves.1 hspec
    obtain ⟨s', hsucceeds, h'⟩ := ih h₁ hmoves.2
    exact ⟨s', .cons hrun (h₁.represents.inOrder h₁.ready.pages_lt) hsucceeds, h'⟩

end Session.Amended

/-- **Deletions can be undone.** Whatever live records are deleted, they can all be put back,
as long as there is room for two pins and every dirty page can be written. In the opposite
order this restores the header in memory and in the header block, the free list, and every
byte of every page. In any other order it restores the records. The file is in order after
each step. -/
theorem deletions_can_be_undone (h : RecordRun other image path options .orderly history s c)
    (hample : s.Ample 2) {records : List (RecordId × List UInt8)}
    (hdistinct : (records.map Prod.fst).Nodup)
    (hrecords : ∀ r ∈ records, (s.own other image).record? r.1 = some r.2) :
    ∃ s₁, s.Succeeds (fun s => (s.own other image).InOrder) (records.map .deletionOf) s₁ ∧
      (∃ s₂, s₁.Succeeds (fun s => (s.own other image).InOrder)
          (records.reverse.map .insertionOf) s₂ ∧
        (s.own other image).Same (s₂.own other image) ∧
        ∃ free, FreeChain (s.own other image).next s.file.header.freeHead free ∧
          FreeChain (s₂.own other image).next s₂.file.header.freeHead free) ∧
      ∀ order : List (RecordId × List UInt8), order.Perm records →
        ∃ s₂, s₁.Succeeds (fun s => (s.own other image).InOrder) (order.map .insertionOf) s₂ ∧
          (s₂.own other image).record? = (s.own other image).record? := by
  obtain ⟨k, hstart⟩ := Session.Amended.of_run h hample fun id => id ∈ records.map Prod.fst
  have hrep := hstart.represents
  have hheld : ∀ r ∈ records, k.records r.1 = some r.2 := by
    intro r hr
    rw [hrep.records_eq]
    exact hrecords r hr
  have hlive : ∀ r ∈ records, k.isLive r.1 = true := by
    intro r hr
    unfold KeyedStore.isLive
    rw [hheld r hr]
    rfl
  have hadmits : ∀ r ∈ records, k.Admits r := by
    intro r hr
    exact ⟨hrep.page_lt (hlive r hr), hrep.slot_lt (hlive r hr), hrep.length_eq (hheld r hr)⟩
  obtain ⟨k₁, hdeleted, hback, heq⟩ := KeyedStore.exists_undone hdistinct hadmits hheld
  have hdeletions : ∀ call ∈ records.map RecordCall.deletionOf,
      call.Moves fun id => id ∈ records.map Prod.fst :=
    List.forall_mem_map.mpr fun r hr => List.mem_map_of_mem hr
  have hinsertions : ∀ l : List (RecordId × List UInt8), (∀ r ∈ l, r ∈ records) →
      ∀ call ∈ l.map RecordCall.insertionOf, call.Moves fun id => id ∈ records.map Prod.fst :=
    fun l hl => List.forall_mem_map.mpr fun r hr => List.mem_map_of_mem (hl r hr)
  obtain ⟨s₁, hsucceeds₁, h₁⟩ := hstart.exists_succeeds hdeletions hdeleted
  refine ⟨s₁, hsucceeds₁, ?_, fun order hperm => ?_⟩
  · obtain ⟨s₂, hsucceeds₂, h₂⟩ :=
      h₁.exists_succeeds (hinsertions _ fun r hr => List.mem_reverse.mp hr) hback
    refine ⟨s₂, hsucceeds₂, ?_, k.free, hrep.chain, h₂.represents.chain⟩
    refine hrep.same h₂.represents hstart.linksOnly h₂.linksOnly h₂.altered fun id hid => ?_
    obtain ⟨r, hr, rfl⟩ := List.mem_map.mp hid
    exact hlive r hr
  · have hmem : ∀ r ∈ order, r ∈ records := fun r hr => hperm.mem_iff.mp hr
    obtain ⟨k₂, hinserted, hsame⟩ := KeyedStore.exists_inserted (k := k₁) k.records
      ((hperm.map Prod.fst).nodup_iff.mpr hdistinct)
      (fun r hr => by rw [heq]; exact (hadmits r (hmem r hr)).congr)
      (fun r hr => by rw [heq]; exact if_pos (List.mem_map_of_mem (hmem r hr)))
      (fun r hr => hheld r (hmem r hr))
      (fun id hid => by
        rw [heq]
        exact if_neg fun hmem => hid ((hperm.map Prod.fst).mem_iff.mpr hmem))
    obtain ⟨s₂, hsucceeds₂, h₂⟩ := h₁.exists_succeeds (hinsertions order hmem) hinserted
    refine ⟨s₂, hsucceeds₂, funext fun id => ?_⟩
    rw [← h₂.represents.records_eq, hsame, hrep.records_eq]

/-! ## Two records that are put back -/

/-- The file with two frames after a record was put into it, -/
def tinyTwo : Session := stateAfter (RecordCall.insert [7]).run (tinyFresh 2)

/-- and after a second one was, which has got a page of its own. -/
def tinyPair : Session := stateAfter (RecordCall.insert [8]).run tinyTwo

/-- What was called. -/
def pairHistory : List RecordEvent :=
  [⟨.insert [7], .ok (.inserted ⟨0, 0⟩)⟩, ⟨.insert [8], .ok (.inserted ⟨1, 0⟩)⟩]

/-- The records that were put into the file. -/
def pairRecords : List (RecordId × List UInt8) := [(⟨0, 0⟩, [7]), (⟨1, 0⟩, [8])]

set_option maxRecDepth 100000 in
theorem tinyPair_run : RecordRun (· + 1) 0 ⟨["f"]⟩ ⟨1, some 1⟩ .orderly pairHistory tinyPair idle := by
  have hfirst : (RecordCall.insert [7]).run (tinyFresh 2) = .ok (.inserted ⟨0, 0⟩) tinyTwo := rfl
  have hsecond : (RecordCall.insert [8]).run tinyTwo = .ok (.inserted ⟨1, 0⟩) tinyPair := rfl
  have hrun : RecordRun (· + 1) 0 ⟨["f"]⟩ ⟨1, some 1⟩ .orderly
      [⟨.insert [7], .ok (.inserted ⟨0, 0⟩)⟩] tinyTwo idle :=
    tinyFresh_two_run.returned trivial trivial hfirst (show 1 < noPage by decide)
  exact hrun.returned trivial trivial hsecond (show 2 < noPage by decide)

set_option maxRecDepth 100000 in
theorem tinyPair_ample : tinyPair.Ample 2 := by
  have hcount : (tinyPair.store.files.disk.image 0).blockCount = 3 := rfl
  refine ⟨Nat.le_refl 2, fun key hdirty => ?_, Disk.bounded_of_single rfl ?_,
    show 2 < noPage by decide⟩
  · obtain ⟨e, hfind, -⟩ := Option.any_eq_true _ _ |>.mp hdirty
    obtain ⟨hmem, rfl⟩ := Pool.mem_of_find? hfind
    have hentries : tinyPair.store.pool.entries =
        [⟨⟨1, 1⟩, 1, true, 0⟩, ⟨⟨1, 0⟩, 0, true, 0⟩] := rfl
    rw [hentries] at hmem
    rcases List.mem_cons.mp hmem with rfl | hmem
    · rfl
    · rw [List.mem_singleton.mp hmem]
      rfl
  · rw [hcount]
    decide

/-- Both records are deleted, and put back in either order. -/
theorem deletions_can_be_undone_pair :
    ∃ s₁ s₂ s₃, tinyPair.Succeeds (fun s => (s.own (· + 1) 0).InOrder)
        [.delete ⟨0, 0⟩, .delete ⟨1, 0⟩] s₁ ∧
      s₁.Succeeds (fun s => (s.own (· + 1) 0).InOrder)
        [.insertAt ⟨1, 0⟩ [8], .insertAt ⟨0, 0⟩ [7]] s₂ ∧
      (tinyPair.own (· + 1) 0).Same (s₂.own (· + 1) 0) ∧
      s₁.Succeeds (fun s => (s.own (· + 1) 0).InOrder)
        [.insertAt ⟨0, 0⟩ [7], .insertAt ⟨1, 0⟩ [8]] s₃ ∧
      (s₃.own (· + 1) 0).record? = (tinyPair.own (· + 1) 0).record? := by
  obtain ⟨-, header, k, -, hreplays, hrep⟩ := tinyPair_run.represents
  have hrecords : k.records = acknowledged pairHistory := hreplays.records_eq rfl
  have hdistinct : (pairRecords.map Prod.fst).Nodup := by decide
  have hheld : ∀ r ∈ pairRecords, (tinyPair.own (· + 1) 0).record? r.1 = some r.2 := by
    intro r hr
    rw [← hrep.records_eq, hrecords]
    rcases List.mem_cons.mp hr with rfl | hr
    · rfl
    · rw [List.mem_singleton.mp hr]
      rfl
  obtain ⟨s₁, hdeleted, ⟨s₂, hback, hsame, -⟩, hany⟩ :=
    deletions_can_be_undone tinyPair_run tinyPair_ample hdistinct hheld
  obtain ⟨s₃, hother, hrestored⟩ := hany pairRecords (.refl _)
  exact ⟨s₁, s₂, s₃, hdeleted, hback, hsame, hother, hrestored⟩

end Undoing

end SlottedFile
