import SlottedFile.Proofs.Records.Run

/-!
# A record file is a keyed store with a free list

A run in which the pages of the file are left to it, and can be named by links,
leads from a file that represents the empty store to files that represent the stores
which the calls make of it (`RecordRun.represents`). Whatever the calls keep of such
stores is so at every point (`RecordRun.represents_keeping`). Two things follow for
every point of such a run: what the calls answered is what a keyed store answers, and
what is written down about a page in several places agrees (`PlainFile.InOrder`).
-/

namespace SlottedFile

/-- **A file in order.** -/
structure PlainFile.InOrder (p : PlainFile) : Prop where
  /-- A page counts the set bits of its bitmap. -/
  counted : ∀ page < p.header.pages, ∃ h, PageHeader.decode (p.page page) = .ok h ∧
    p.layout.occupiedCount (p.page page) = .ok h.records
  /-- The free list ends, and leads once to every page that is not full and to no
  other. -/
  listed : ∃ l, FreeChain p.next p.header.freeHead l ∧ l.Nodup ∧
    ∀ page, page ∈ l ↔ page < p.header.pages ∧ (p.data page).records < p.header.recordsPerPage
  /-- The free list starts inside the file. -/
  head_lt : ∀ page ∈ p.header.freeHead, page < p.header.pages
  /-- The header block reads back as the header. -/
  written : FileHeader.decode p.stored.toList = .ok p.header
  /-- The file has the pages that its header counts. -/
  count : p.count = p.header.pages

/-- **A file that represents a store is in order.** -/
theorem Represents.inOrder {p : PlainFile} {k : KeyedStore} (h : Represents p k)
    (hpages : p.header.pages < noPage) : p.InOrder where
  counted := by
    intro page hpage
    refine ⟨_, PageLayout.decode_eq _ p.layout, ?_⟩
    rw [← h.pages_eq] at hpage
    rw [PageLayout.occupiedCount_eq h.whole.fits]
    refine congrArg Except.ok (Eq.trans ?_ (h.counted page hpage).symm)
    unfold KeyedStore.count
    rw [h.perPage_eq]
    refine List.countP_congr fun slot _ => ?_
    have hlive : k.isLive ⟨page, slot⟩ = _ := h.isLive_eq hpage
    rw [hlive]
    rfl
  listed := by
    refine ⟨k.free, h.chain, h.nodup, fun page => ?_⟩
    rw [h.mem_free, ← h.pages_eq]
    refine and_congr_right fun hpage => ?_
    rw [h.counted page hpage, ← h.perPage_eq, ← Bool.not_eq_true, KeyedStore.isFull_iff, Nat.not_le]
  head_lt := fun _ hhead => h.lt_of_mem_free (h.head_mem hhead)
  written := by
    rw [h.whole.written]
    exact FileHeader.decode_block h.flaw_eq_none (Nat.le_of_lt hpages)
  count := h.whole.count

section Run

variable {other : Nat → ImageId} {image : ImageId} {path : Path} {options : FileOptions}
  {history : List RecordEvent} {raw : List Hold} {s s' : Session} {c : Client}

/-- **A file that was just created** represents the empty store. -/
theorem Session.Opened.represents {store₀ store : Store} {header : FileHeader}
    (hcreate : FileHeader.create options = .ok header)
    (hcreated : store₀.Created other image raw path header store)
    (h : Session.Opened other image raw path store s) (hwork : AtWork other image path raw s) :
    s.file.header.pages < noPage ∧
      Represents (s.own other image) (.empty header.recordSize header.recordsPerPage) := by
  obtain ⟨hflaw, hpages, hhead⟩ := FileHeader.flaw_of_create hcreate
  have hheader : s.file.header = header := by
    have hdecoded := h.decoded
    rw [hcreated.made.stored_eq, FileHeader.decode_block hflaw (by rw [hpages]; exact Nat.zero_le _)]
      at hdecoded
    exact (Except.ok.inj hdecoded).symm
  have hown : (s.own other image).header = header := hheader
  refine ⟨by rw [hheader, hpages]; decide, ?_⟩
  rw [← hown] at hflaw hpages hhead ⊢
  exact .empty hwork.whole hflaw hpages hhead

/-- **The run lemma**: a record file represents a store at every point of a run, and no full
page has a link. The store has whatever the steps of the history keep. -/
theorem RecordRun.represents_keeping {use : RecordUse}
    (hread : ∀ call, use.calls call → call.ReadOnly) (hnamed : ∀ n, use.pages n → n < noPage)
    (keeps : List RecordEvent → KeyedStore → Prop)
    (hstart : ∀ header, FileHeader.create options = .ok header →
      keeps [] (.empty header.recordSize header.recordsPerPage))
    (hstep : ∀ {p : PlainFile} {history k event k'}, keeps history k → Represents p k →
      use.calls event.call → KeyedStep k event k' → keeps (history ++ [event]) k')
    (h : RecordRun other image path options use history s c) :
    s.file.header.pages < noPage ∧ ∃ k, keeps history k ∧ Represents (s.own other image) k ∧
      (s.own other image).LinksOnly k.free := by
  induction h with
  | opened hpool hother hcreate hleads hopen =>
    obtain ⟨header, hheader, hcreated⟩ :=
      (ends_createRecordFile hpool.sound hother path options).of_ok hcreate hleads
    have hopened := (ends_openRecordFile hcreated.sound hother hleads).of_ok hopen
    have hrun : RecordRun other image path options use [] _ _ :=
      .opened hpool hother hcreate hleads hopen
    obtain ⟨hpages, hrep⟩ := hopened.represents hheader hcreated hrun.atWork
    refine ⟨hpages, _, hstart header hheader, hrep, fun page hpage => ?_⟩
    exact absurd (Nat.lt_of_lt_of_eq hpage hrep.pages_eq.symm) (Nat.not_lt_zero page)
  | @returned history s s' c call r h hcall hallowed hrun hpages ih =>
    obtain ⟨hpages₀, k, hkeeps, hrep, hlinks⟩ := ih
    have hwork := h.atWork
    obtain ⟨p', hbecame, hgrown, k', hkeyed, hfollows⟩ :=
      (RecordCall.ends_replayed hwork.good rfl hrep hpages₀ (hread call hcall) hallowed).of_ok hrun
    have hown := (hwork.became hbecame (hgrown.whole hrep.whole)).2
    refine ⟨hnamed _ hpages, k', hstep hkeeps hrep hcall hkeyed, ?_⟩
    rw [hown]
    exact ⟨hfollows.represents, hfollows.linksOnly hlinks⟩
  | @failed history s s' c call e h hcall hallowed hrun ih =>
    obtain ⟨hpages₀, k, hkeeps, hrep, hlinks⟩ := ih
    have hwork := h.atWork
    obtain ⟨hbecame, hkeyed⟩ := (RecordCall.ends_replayed hwork.good rfl hrep hpages₀
      (hread call hcall) hallowed).of_error hrun
    have hown := (hwork.became hbecame hwork.whole).2
    refine ⟨?_, k, hstep hkeeps hrep hcall hkeyed, ?_⟩
    · rw [hbecame.file_eq rfl]
      exact hpages₀
    · rw [hown]
      exact ⟨hrep, hlinks⟩
  | beside h hbeside ih =>
    obtain ⟨hpages, k, hkeeps, hrep⟩ := ih
    have hown := (h.atWork.beside hbeside).2
    exact ⟨hpages, k, hkeeps, hown ▸ hrep⟩
  | @reopened history s s₁ s₂ c file h hpins hclose hopen ih =>
    obtain ⟨hpages, k, hkeeps, hrep, hlinks⟩ := ih
    have hown := (h.atWork.reopened hpins hclose hopen).2 (hrep.inOrder hpages).written
    refine ⟨?_, k, hkeeps, hown ▸ ⟨hrep, hlinks⟩⟩
    have hsame : file.header = s.file.header := congrArg PlainFile.header hown
    rw [hsame]
    exact hpages

/-- **The history of a record file has been replayed on the store** that it represents. -/
theorem RecordRun.represents_linksOnly
    (h : RecordRun other image path options .orderly history s c) :
    s.file.header.pages < noPage ∧
      ∃ header k, FileHeader.create options = .ok header ∧
        Replays (.empty header.recordSize header.recordsPerPage) history k ∧
        Represents (s.own other image) k ∧ (s.own other image).LinksOnly k.free := by
  obtain ⟨hpages, k, ⟨header, hheader, hreplays⟩, hrep⟩ := h.represents_keeping
    (fun _ hread => hread) (fun _ hlt => hlt)
    (fun history k => ∃ header, FileHeader.create options = .ok header ∧
      Replays (.empty header.recordSize header.recordsPerPage) history k)
    (fun header hheader => ⟨header, hheader, .start⟩)
    fun ⟨header, hheader, hreplays⟩ _ _ hkeyed => ⟨header, hheader, .step hreplays hkeyed⟩
  exact ⟨hpages, header, k, hheader, hreplays, hrep⟩

theorem RecordRun.represents (h : RecordRun other image path options .orderly history s c) :
    s.file.header.pages < noPage ∧
      ∃ header k, FileHeader.create options = .ok header ∧
        Replays (.empty header.recordSize header.recordsPerPage) history k ∧
        Represents (s.own other image) k := by
  obtain ⟨hpages, header, k, hheader, hreplays, hrep, -⟩ := h.represents_linksOnly
  exact ⟨hpages, header, k, hheader, hreplays, hrep⟩

/-- **The history of a record file is one of a keyed store** that is empty at first.
What a call answered the store answers, and the error it gave is the store's – or a
page was wanting, and then the store is as if the call had not been made. -/
theorem record_file_refines_store (h : RecordRun other image path options .orderly history s c) :
    ∃ header k, FileHeader.create options = .ok header ∧
      Replays (.empty header.recordSize header.recordsPerPage) history k ∧
      Represents (s.own other image) k :=
  h.represents.2

/-- A page was added, and a record was put into it. -/
theorem record_file_refines_store_tiny :
    ∃ header k, FileHeader.create ⟨1, some 1⟩ = .ok header ∧
      Replays (.empty header.recordSize header.recordsPerPage) tinyHistory k ∧
      Represents (tinyFilled.own (· + 1) 0) k :=
  record_file_refines_store (tinyFilled_run .orderly (fun _ hread => hread) (show 1 < noPage by decide))

/-- **A record file is in order at every point of a run**: each page counts its set
bits, the free list leads once to every page that is not full, its head lies inside the
file, and the header block is the header. -/
theorem record_file_in_order (h : RecordRun other image path options .orderly history s c) :
    (s.own other image).InOrder := by
  obtain ⟨hpages, -, k, -, -, hrep⟩ := h.represents
  exact hrep.inOrder hpages

theorem record_file_in_order_tiny : (tinyFilled.own (· + 1) 0).InOrder :=
  record_file_in_order (tinyFilled_run .orderly (fun _ hread => hread) (show 1 < noPage by decide))

end Run

end SlottedFile
