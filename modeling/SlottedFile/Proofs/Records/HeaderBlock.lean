import SlottedFile.Proofs.Records.Changes
import SlottedFile.Proofs.Records.Refinement

/-!
# What is written to the header block is read back

The header of a file is written in a fixed width, drops what has no room there, and
says with the greatest number that there is no page. It is read back by somebody who
trusts nothing. That the two agree is true of single headers (`FileHeader.decode_encode`,
`FileHeader.encode_eq_take`), but whether a file that was written can be opened again is
a question about runs: `create` makes a header once, and from then on the operations
change its page count and its free list.

They only put links into it that were in the file before, or the number of a page that
they have just added. So the header says nothing wrong at any point of a run
(`RecordRun.linked`), unless somebody writes into the pages behind the back of the file.
-/

namespace SlottedFile

/-- The use of a file by its operations. What is in its pages is left to them, and links
can name the pages. -/
def RecordUse.operations : RecordUse where
  calls := RecordCall.LeavesBytes
  pages := fun n => n < noPage

/-- **A file with the layout of a header without a flaw** has no flaw in its own header, as
long as its free list starts inside it. -/
theorem PlainFile.Linked.flaw_eq_none {p p' : PlainFile} (h : p'.Linked)
    (hflaw : p.header.flaw = none) (hlayout : p'.layout = p.layout) : p'.header.flaw = none := by
  obtain ⟨hpos, hmost, hbitmap, -⟩ := FileHeader.flaw_eq_none_iff.mp hflaw
  have hsize : p'.header.recordSize = p.header.recordSize := congrArg PageLayout.recordSize hlayout
  have hslots : p'.header.recordsPerPage = p.header.recordsPerPage :=
    congrArg PageLayout.recordsPerPage hlayout
  have hbits : p'.header.bitmapSize = p.header.bitmapSize := congrArg PageLayout.bitmapSize hlayout
  rw [FileHeader.flaw_eq_none_iff, hsize, hslots, hbits]
  exact ⟨hpos, hmost, hbitmap, h.head_lt⟩

section Run

variable {imageOf other : Nat → ImageId} {image : ImageId} {path : Path} {options : FileOptions}
  {history : List RecordEvent} {raw : List Hold} {s s' : Session} {c : Client}

/-- **The run lemma**: the header of a file says nothing wrong at any point of a run, and
no link leads out of the file. -/
theorem RecordRun.linked (h : RecordRun other image path options .operations history s c) :
    s.file.header.pages < noPage ∧ s.file.header.flaw = none ∧ (s.own other image).Linked := by
  induction h with
  | opened hpool hother hcreate hleads hopen =>
    obtain ⟨header, hheader, hcreated⟩ :=
      (ends_createRecordFile hpool.sound hother path options).of_ok hcreate hleads
    have hopened := (ends_openRecordFile hcreated.sound hother hleads).of_ok hopen
    have hrun : RecordRun other image path options .operations [] _ _ :=
      .opened hpool hother hcreate hleads hopen
    obtain ⟨hpages, hrep⟩ := hopened.represents hheader hcreated hrun.atWork
    refine ⟨hpages, hrep.flaw_eq_none, fun page hpage => hrep.lt_of_mem_free (hrep.head_mem hpage), ?_⟩
    intro page hpage
    exact absurd (Nat.lt_of_lt_of_eq hpage hrep.pages_eq.symm) (Nat.not_lt_zero page)
  | @returned history s s' c call r h hcall hallowed hrun hpages ih =>
    obtain ⟨-, hflaw, hlinked⟩ := ih
    have hwork := h.atWork
    obtain ⟨_, p', hplain, hbecame, -⟩ := (call.ends_run hwork.good rfl hwork.whole hallowed).of_ok hrun
    obtain ⟨haltered, -⟩ := (RecordCall.altered_plain hwork.whole.toSized hcall
      (hallowed.inside hwork.good hwork.whole.toSized)).of_ok hplain
    obtain ⟨-, rfl⟩ := hwork.became hbecame (haltered.grown.whole hwork.whole)
    have hlinked' := haltered.linked hlinked
    exact ⟨hpages, hlinked'.flaw_eq_none hflaw haltered.grown.layout_eq, hlinked'⟩
  | @failed history s s' c call e h hcall hallowed hrun ih =>
    obtain ⟨-, hfile, hown⟩ := (h.atWork.ends_run hallowed).of_error hrun
    rw [hfile, hown]
    exact ih
  | beside h hstep ih =>
    have hown := (h.atWork.beside hstep).2
    exact ⟨ih.1, ih.2.1, hown ▸ ih.2.2⟩
  | @reopened history s s₁ s₂ c file h hpins hclose hopen ih =>
    obtain ⟨hpages, hflaw, hlinked⟩ := ih
    have hdecode : FileHeader.decode (s.own other image).stored.toList = .ok s.file.header := by
      rw [h.atWork.whole.written]
      exact FileHeader.decode_block hflaw (Nat.le_of_lt hpages)
    have hown := (h.atWork.reopened hpins hclose hopen).2 hdecode
    have hheader : file.header = s.file.header := congrArg PlainFile.header hown
    rw [hheader]
    exact ⟨hpages, hflaw, hown ▸ hlinked⟩

/-- **The header is written down for somebody who will read it back.** -/
theorem AtWork.ends_persistHeader (h : AtWork other image path raw s)
    (hflaw : s.file.header.flaw = none) (hpages : s.file.header.pages ≤ noPage) :
    Ends Session.persistHeader s (fun _ s' =>
      FileHeader.decode ((s'.store.files.disk.image image).block 0).toList = .ok s.file.header)
      fun _ _ => False := by
  refine (SlottedFile.ends_persistHeader h.good).imp ?_ fun _ _ h => h
  rintro _ s' ⟨hbecame, -⟩
  have hstored := congrArg PlainFile.stored hbecame.plain_eq
  unfold Session.plain at hstored
  dsimp only at hstored
  rw [hbecame.handle_eq, standFor_self] at hstored
  rw [show (s'.store.files.disk.image image).block 0 = _ from hstored]
  exact FileHeader.decode_block hflaw hpages

end Run

/-- **The written form of a header is exact in both directions.** A byte string is decoded
if it is long enough, begins with the magic word and says nothing wrong, and is then
written as it was read. A header that says nothing wrong and has room in its width is
read back from whatever follows it. Of this kind are the headers of new files and the
headers of all files that are used by their operations, so that what is written to the
header block of a file can always be read back. -/
theorem file_header_exact :
    (∀ data : List UInt8, (∃ h, FileHeader.decode data = .ok h) ↔
      FileHeader.size ≤ data.length ∧ data.take 4 = toLE 4 FileHeader.magic ∧
        (FileHeader.ofWords data).Valid) ∧
    (∀ data h, FileHeader.decode data = .ok h → h.encode = data.take FileHeader.size) ∧
    (∀ (h : FileHeader) (rest : List UInt8), h.Valid → h.Storable →
      FileHeader.decode (h.encode ++ rest) = .ok h) ∧
    (∀ options h, FileHeader.create options = .ok h → h.Valid ∧ h.Storable) ∧
    ∀ (other : Nat → ImageId) (image : ImageId) (path : Path) (options : FileOptions)
      (history : List RecordEvent) (s : Session) (c : Client),
      RecordRun other image path options .operations history s c →
        s.file.header.Valid ∧ s.file.header.Storable ∧
        FileHeader.decode ((s.store.files.disk.image image).block 0).toList = .ok s.file.header ∧
        ∃ s', Session.persistHeader s = .ok () s' ∧
          FileHeader.decode ((s'.store.files.disk.image image).block 0).toList =
            .ok s.file.header := by
  refine ⟨fun data => ?_, fun data h => FileHeader.encode_eq_take, fun h rest hvalid hstorable => ?_,
    fun options h hcreate => ?_, fun other image path options history s c hrun => ?_⟩
  · simp only [FileHeader.decode_eq_ok_iff, FileHeader.valid_iff]
    refine ⟨fun ⟨_, hlen, hmagic, hflaw, _⟩ => ?_, fun ⟨hlen, hmagic, hflaw⟩ => ?_⟩
    · exact ⟨hlen, (FileHeader.word_eq_magic_iff hlen).mp hmagic, hflaw⟩
    · exact ⟨_, hlen, (FileHeader.word_eq_magic_iff hlen).mpr hmagic, hflaw, rfl⟩
  · have hlimit : widthLimit 4 = noPage + 1 := by decide
    have hpages : h.pages ≤ noPage := by
      have hlt := hstorable.pages_lt
      omega
    exact FileHeader.decode_encode (FileHeader.valid_iff.mp hvalid) hpages rest
  · obtain ⟨hflaw, hempty, -⟩ := FileHeader.flaw_of_create hcreate
    refine ⟨FileHeader.valid_iff.mpr hflaw, FileHeader.storable_of_flaw hflaw ?_⟩
    rw [hempty]
    exact Nat.zero_le _
  · obtain ⟨hpages, hflaw, -⟩ := hrun.linked
    have hwork := hrun.atWork
    have hstored : (s.own other image).stored = (s.store.files.disk.image image).block 0 := by
      unfold Session.own Session.plain
      dsimp only
      rw [standFor_self]
      rfl
    refine ⟨FileHeader.valid_iff.mpr hflaw, FileHeader.storable_of_flaw hflaw (Nat.le_of_lt hpages),
      ?_, ?_⟩
    · rw [← hstored, hwork.whole.written]
      exact FileHeader.decode_block hflaw (Nat.le_of_lt hpages)
    · obtain ⟨_, s', hok, hdecode⟩ :=
        (hwork.ends_persistHeader hflaw (Nat.le_of_lt hpages)).exists_ok
      exact ⟨s', hok, hdecode⟩

/-- A file with one filled page, from its header block. -/
theorem file_header_exact_tiny :
    tinyFilled.file.header.Valid ∧
      FileHeader.decode (tinyFilled.file.header.encode ++ [7]) = .ok tinyFilled.file.header := by
  obtain ⟨-, -, hback, -, hruns⟩ := file_header_exact
  have hrun := tinyFilled_run .operations (fun call h => by cases call <;> first | exact h | trivial)
    (show 1 < noPage by decide)
  obtain ⟨hvalid, hstorable, -⟩ := hruns _ _ _ _ _ _ _ hrun
  exact ⟨hvalid, hback _ _ hvalid hstorable⟩

end SlottedFile
