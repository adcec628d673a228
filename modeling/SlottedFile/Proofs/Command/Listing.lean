import SlottedFile.Command.Run
import SlottedFile.Proofs.Command.Serving
import SlottedFile.Proofs.Keyed.Scan
import SlottedFile.Proofs.Records.Acknowledged
import SlottedFile.Proofs.Text

/-!
# The list of the records

The list of the records of a file is a table with a row for each place at which the keyed
store has a record, in order, with the place and the text of the record
(`KeyedStore.table`). A text can have a line whose width comes out below zero, and then there
is no table. The scan that a session makes for its command gives the rows of that table one
by one, or overruns at the first text that has no cell (`Session.Serves.ends_recordTable`).

A scan looks for the next record before it gives out the one that it is at. Neither step
holds more than one page, so that a single frame is enough for all of it.
-/

namespace SlottedFile

/-! ## The table of a keyed store -/

namespace KeyedStore

variable {k : KeyedStore}

/-- The text of the record at a place. -/
def text (k : KeyedStore) (id : RecordId) : String :=
  RecordText.ofRecord ((k.records id).getD [])

/-- The row of the list for the record at a place. -/
def row (k : KeyedStore) (id : RecordId) : Except Overrun Text.Row :=
  Text.Row.ofStrings [id.text, k.text id]

/-- **The list of the records**, with the place and the text of each. -/
def table (k : KeyedStore) : Except Overrun Text.Table := do
  let titles ← Text.Row.ofStrings ["rid", "record"]
  let rows ← k.live.mapM k.row
  return { titles, rows }

/-- **A text that can be shown**: each of its lines has a width. -/
def Shown (text : String) : Prop :=
  ∀ line ∈ Text.lines text, (Text.Width.ofString? line).isSome

theorem titles_eq_ok : ∃ titles, Text.Row.ofStrings ["rid", "record"] = .ok titles := by
  cases h : Text.Row.ofStrings ["rid", "record"] with
  | ok titles => exact ⟨titles, rfl⟩
  | error o =>
    obtain ⟨s, hmem, herror⟩ := Text.exists_of_mapM_error h
    have hunsigned : Text.Unsigned s := by
      simp only [List.mem_cons, List.not_mem_nil, or_false] at hmem
      rcases hmem with rfl | rfl <;> exact Text.unsigned_of_all rfl
    exact absurd herror (hunsigned.ofString_ne_error o)

/-- **There is no list only if a text cannot be shown.** -/
theorem exists_of_table_error {o : Overrun} (h : k.table = .error o) :
    ∃ id ∈ k.live, ¬Shown (k.text id) := by
  obtain ⟨titles, htitles⟩ := titles_eq_ok
  unfold table at h
  rw [htitles] at h
  obtain ⟨id, hmem, herror⟩ := Text.exists_of_mapM_error (Text.eq_error_of_bind h)
  obtain ⟨s, hs, herror⟩ := Text.exists_of_mapM_error herror
  obtain rfl : s = k.text id := by
    simp only [List.mem_cons, List.not_mem_nil, or_false] at hs
    rcases hs with rfl | rfl
    · exact absurd herror (id.unsigned_text.ofString_ne_error o)
    · rfl
  obtain ⟨line, hline, hnone⟩ := Text.exists_of_ofString_error herror
  refine ⟨id, hmem, fun hshown => ?_⟩
  have hsome := hshown line hline
  rw [hnone] at hsome
  cases hsome

end KeyedStore

/-! ## The scan of a session -/

namespace Session.Serves

variable {other : Nat → ImageId} {image : ImageId} {path : Path} {frames : Nat}
  {p : PlainFile} {k : KeyedStore} {s : Session}

/-- **The record at a place** is what the keyed store has there. -/
theorem ends_get (h : s.Serves other image path frames p) (hrep : Represents p k)
    (hpages : p.header.pages < noPage) {id : RecordId} (hlive : k.isLive id = true) :
    Ends (Session.onStore (·.get id)) s
      (fun record s' => record = (k.records id).getD [] ∧ s'.Serves other image path frames p)
      (fun _ _ => False) := by
  obtain ⟨record, hrecord⟩ := Option.isSome_iff_exists.mp hlive
  have hspec := KeyedStore.get_eq (hrep.page_lt hlive) hrecord
  refine (h.ends_agreeing hpages (does_getRecord h.work.good h.own_eq h.whole.toSized id)
    (balanced_get id) (PlainFile.reads_get id).grows (agrees_get hrep id)).imp ?_ ?_
  · rintro found s' ⟨p', hm, hserves, k', hget, -⟩
    obtain rfl := (PlainFile.reads_get id).eq hm
    rw [hspec] at hget
    cases hget
    rw [hrecord]
    exact ⟨rfl, hserves⟩
  · rintro e s' ⟨-, -, hfailed⟩
    obtain ⟨e', hget⟩ := hfailed (one_le_frames frames)
    rw [hspec] at hget
    cases hget

/-- **The scan moves on** to the record that comes next in the plain file. -/
theorem ends_next (h : s.Serves other image path frames p) (hpages : p.header.pages < noPage)
    {id : RecordId} :
    Ends (Session.onStore fun f => Scan.next f { position := some id }) s
      (fun r s' => r = (some (.ok id), { position := p.found id.page (id.slot + 1) }) ∧
        s'.Serves other image path frames p)
      (fun _ _ => False) := by
  have hentire := h.entire hpages
  have hroomy : True → s.Roomy 1 := fun _ _ => h.roomy (one_le_frames frames)
  refine ((SlottedFile.ends_next [] h.work.good h.own_eq h.whole.toSized).and
    (h.fit.ends_next hroomy (Session.owes_none _ _))).imp ?_ ?_
  · rintro ⟨item, scan⟩ s' ⟨⟨hkept, rfl, hscan⟩, hsteady, -, howes⟩
    refine ⟨?_, h.became hkept.became hsteady h.whole⟩
    rcases hscan with rfl | ⟨e, hpool, rfl⟩
    · rfl
    · -- a failure is owed only by a pool without room
      exact absurd hpool (hentire.not_poolFailure hkept.became (howes e rfl trivial))
  · rintro e s' ⟨⟨-, hpool, hkept⟩, hfails⟩
    exact hentire.not_poolFailure hkept.became (hfails.full trivial) hpool

theorem ends_start (h : s.Serves other image path frames p) (hpages : p.header.pages < noPage) :
    Ends (Session.onStore Scan.start) s
      (fun scan s' => scan = { position := p.found 0 0 } ∧ s'.Serves other image path frames p)
      (fun _ _ => False) := by
  have hgrows : PlainFile.Grows (PlainFile.seek 0 0) := fun q hsized =>
    (ends_of_ok (PlainFile.seek_eq hsized 0 0)).mpr (.refl hsized)
  unfold Scan.start
  rw [Session.onStore_bind, ends_bind]
  refine (h.ends_answers hpages (does_seek h.work.good h.own_eq h.whole.toSized 0 0)
    (balanced_seek 0 0) hgrows (PlainFile.seek_eq h.whole.toSized 0 0)).imp ?_ fun _ _ h => h
  rintro _ s' ⟨rfl, hserves⟩
  exact ⟨rfl, hserves⟩

/-- **The rows of a scan** are those of the records on its way. The induction is on the
number of records that are asked for. -/
theorem ends_scanRows (h : s.Serves other image path frames p) (hrep : Represents p k)
    (hpages : p.header.pages < noPage) (bound : Nat) {id? : Option RecordId}
    (hlive : ∀ id ∈ p.trail bound id?, k.isLive id = true) :
    Ends (Session.onStore fun f => Command.scanRows f bound { position := id? }) s
      (fun rows s' => (p.trail bound id?).mapM k.row = .ok rows ∧
        s'.Serves other image path frames p)
      (fun e s' => (∃ o, e = .overrun o ∧ (p.trail bound id?).mapM k.row = .error o) ∧
        s'.Serves other image path frames p) := by
  induction bound generalizing s id? with
  | zero => exact ⟨rfl, h⟩
  | succ bound ih =>
    cases id? with
    | none => exact ⟨rfl, h⟩
    | some id =>
      unfold PlainFile.trail at hlive ⊢
      obtain ⟨hid, hrest⟩ := List.forall_mem_cons.mp hlive
      unfold Command.scanRows
      rw [Session.onStore_bind, ends_bind]
      refine (h.ends_next hpages).imp ?_ fun _ _ h => h.elim
      rintro _ s₁ ⟨rfl, h₁⟩
      dsimp only
      rw [Session.onStore_bind, ends_bind]
      refine (h₁.ends_get hrep hpages hid).imp ?_ fun _ _ h => h.elim
      rintro _ s₂ ⟨rfl, h₂⟩
      rw [Session.onStore_bind, ends_bind, ends_onStore, ends_liftOverrun, List.mapM_cons]
      refine ⟨fun row hrow => ?_, fun o hrow => ⟨⟨o, rfl, ?_⟩, h₂⟩⟩
      · rw [show k.row id = .ok row from hrow, Session.onStore_bind, ends_bind]
        refine (ih h₂ hrest).imp ?_ ?_
        · rintro rows s₃ ⟨hrows, h₃⟩
          refine ⟨?_, h₃⟩
          rw [hrows]
          rfl
        · rintro e s₃ ⟨⟨o, rfl, hrows⟩, h₃⟩
          refine ⟨⟨o, rfl, ?_⟩, h₃⟩
          rw [hrows]
          rfl
      · rw [show k.row id = .error o from hrow]
        rfl

/-- **The list of the records** that a command makes is that of the keyed store. -/
theorem ends_recordTable (h : s.Serves other image path frames p) (hrep : Represents p k)
    (hpages : p.header.pages < noPage) :
    Ends (Session.onStore Command.recordTable) s
      (fun table s' => k.table = .ok table ∧ s'.Serves other image path frames p)
      (fun e s' => (∃ o, e = .overrun o ∧ k.table = .error o) ∧
        s'.Serves other image path frames p) := by
  obtain ⟨titles, htitles⟩ := KeyedStore.titles_eq_ok
  unfold Command.recordTable KeyedStore.table
  rw [htitles, Session.onStore_bind, ends_bind, ends_onStore]
  show Ends (Session.onStore fun f => do
    let rows ← Command.scanRows f (Scan.bound f) (← Scan.start f)
    return { titles, rows : Text.Table }) s _ _
  rw [Session.onStore_bind, ends_bind]
  refine (h.ends_start hpages).imp ?_ fun _ _ h => h.elim
  rintro _ s₁ ⟨rfl, h₁⟩
  have hbound : Scan.bound s₁.file = p.header.pages * p.header.recordsPerPage + 1 := by
    have hheader : s₁.file.header = p.header := congrArg PlainFile.header h₁.own_eq
    unfold Scan.bound
    rw [hheader]
  have htrail := hrep.marks.trail_start
  have hlive : ∀ id ∈ p.trail (Scan.bound s₁.file) (p.found 0 0), k.isLive id = true := by
    rw [hbound, htrail]
    exact fun id hid => (KeyedStore.mem_live.mp hid).2
  have hrows := h₁.ends_scanRows hrep hpages (Scan.bound s₁.file) hlive
  rw [hbound, htrail] at hrows
  rw [Session.onStore_bind, ends_bind]
  rw [ends_onStore] at hrows ⊢
  rw [hbound]
  refine hrows.imp ?_ ?_
  · rintro rows store ⟨hok, h₂⟩
    refine ⟨?_, h₂⟩
    rw [hok]
    rfl
  · rintro e store ⟨⟨o, rfl, herror⟩, h₂⟩
    refine ⟨⟨o, rfl, ?_⟩, h₂⟩
    rw [herror]
    rfl

end Session.Serves

end SlottedFile
