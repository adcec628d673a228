import SlottedFile.Proofs.Records.Refinement

/-!
# What an inspection finds

An inspection reports what the pages of a file say of themselves, and where the free list
leads (`PlainFile.inspect_eq`). Nothing is presupposed of the bytes of the pages: the walk
along the free list goes as far as its links stay in the file and come to no page twice
(`FileReport.followFree_walks`), and the report describes whatever there is
(`PlainFile.describes_report`).

A check looks for something wrong in the report. There is nothing if and only if every
page counts its records right and the free list leads once to every page that is not full
and to no other (`PlainFile.violations_report_iff`). In particular a file in order passes
its check (`PlainFile.InOrder.check_eq`).
-/

namespace SlottedFile

/-! ## The walk of an inspection -/

namespace FileReport

variable {links : List (Option Nat)} {left : Nat} {seen : List Nat} {head : Option Nat}

/-- **No list without repetitions is longer than there are pages**, so that it makes no
difference how many more links one would have followed. -/
theorem followFree_of_lt {left' : Nat} (hseen : seen.Nodup) (hinside : ∀ page ∈ seen, page < links.length)
    (hleft : links.length < left + seen.length) (hleft' : links.length < left' + seen.length) :
    followFree links left seen head = followFree links left' seen head := by
  induction left generalizing left' seen head with
  | zero =>
    have hle := length_le_of_nodup hseen hinside
    omega
  | succ left ih =>
    cases left' with
    | zero =>
      have hle := length_le_of_nodup hseen hinside
      omega
    | succ left' =>
      cases head with
      | none => rw [followFree, followFree]
      | some page =>
        unfold followFree
        by_cases hout : page ≥ links.length
        · rw [if_pos hout, if_pos hout]
        rw [if_neg hout, if_neg hout]
        by_cases htwice : page ∈ seen
        · rw [if_pos htwice, if_pos htwice]
        rw [if_neg htwice, if_neg htwice]
        have hinside' : ∀ q ∈ page :: seen, q < links.length :=
          List.forall_mem_cons.mpr ⟨Nat.not_le.mp hout, hinside⟩
        refine ih (List.nodup_cons.mpr ⟨htwice, hseen⟩) hinside' ?_ ?_
        · rw [List.length_cons]
          omega
        · rw [List.length_cons]
          omega

/-- **The free list is followed as far as it leads to new pages of the file**, behind those
that were seen before, latest first. It is not found broken only where it ends. -/
theorem followFree_walks (hseen : seen.Nodup) (hinside : ∀ page ∈ seen, page < links.length)
    (hleft : links.length < left + seen.length) :
    ∃ l, (followFree links left seen head).1 = seen.reverse ++ l ∧
      FreeWalk (fun page => links[page]?.join) links.length head l ∧ (∀ page ∈ l, page ∉ seen) ∧
      (∀ l', FreeWalk (fun page => links[page]?.join) links.length head l' →
        (∀ page ∈ l', page ∉ seen) → l' <+: l) ∧
      ((followFree links left seen head).2 = none ↔
        FreeChain (fun page => links[page]?.join) head l) := by
  -- no page is visited twice, so the links that may be followed do not run out
  induction left generalizing seen head with
  | zero =>
    have hle := length_le_of_nodup hseen hinside
    omega
  | succ left ih =>
    cases head with
    | none =>
      unfold followFree
      refine ⟨[], (List.append_nil _).symm, .nil, nofun, fun l' hwalk _ => ?_, iff_of_true rfl rfl⟩
      cases l' with
      | nil => exact List.prefix_rfl
      | cons page rest => cases (FreeWalk.cons_iff.mp hwalk).1
    | some page =>
      -- a walk that cannot begin is empty, and the list is broken there
      have hstuck : (∀ rest, ¬(FreeWalk (fun page => links[page]?.join) links.length (some page)
          (page :: rest) ∧ page ∉ seen)) → ∀ l', FreeWalk (fun page => links[page]?.join)
          links.length (some page) l' → (∀ page ∈ l', page ∉ seen) → l' <+: [] := by
        intro hnot l' hwalk hfresh
        cases l' with
        | nil => exact List.prefix_rfl
        | cons page' rest =>
          obtain rfl := Option.some.inj (FreeWalk.cons_iff.mp hwalk).1
          exact absurd ⟨hwalk, hfresh page List.mem_cons_self⟩ (hnot rest)
      unfold followFree
      by_cases hout : page ≥ links.length
      · rw [if_pos hout]
        refine ⟨[], (List.append_nil _).symm, .nil, nofun, hstuck ?_, iff_of_false nofun nofun⟩
        exact fun rest h => absurd (FreeWalk.cons_iff.mp h.1).2.1 (Nat.not_lt.2 hout)
      rw [if_neg hout]
      by_cases htwice : page ∈ seen
      · rw [if_pos htwice]
        refine ⟨[], (List.append_nil _).symm, .nil, nofun, hstuck ?_, iff_of_false nofun nofun⟩
        exact fun rest h => absurd htwice h.2
      rw [if_neg htwice]
      have hnew : ∀ q ∈ page :: seen, q < links.length :=
        List.forall_mem_cons.mpr ⟨Nat.not_le.mp hout, hinside⟩
      obtain ⟨l, hl, hwalk, hfresh, hlongest, hend⟩ := @ih (page :: seen) links[page]?.join
        (List.nodup_cons.mpr ⟨htwice, hseen⟩) hnew (by rw [List.length_cons]; omega)
      refine ⟨page :: l, ?_, ?_, ?_, fun l' hwalk' hfresh' => ?_, ?_⟩
      · rw [hl, List.reverse_cons, List.append_assoc]
        rfl
      · exact FreeWalk.cons_iff.mpr ⟨rfl, Nat.not_le.mp hout,
          fun hmem => hfresh page hmem List.mem_cons_self, hwalk⟩
      · exact List.forall_mem_cons.mpr
          ⟨htwice, fun q hq hmem => hfresh q hq (List.mem_cons_of_mem _ hmem)⟩
      · cases l' with
        | nil => exact List.nil_prefix
        | cons page' rest =>
          obtain ⟨hhead, -, hnot, hrest⟩ := FreeWalk.cons_iff.mp hwalk'
          obtain rfl := Option.some.inj hhead
          refine List.cons_prefix_cons.mpr ⟨rfl, hlongest rest hrest fun q hq hmem => ?_⟩
          rcases List.mem_cons.mp hmem with rfl | hmem
          · exact hnot hq
          · exact hfresh' q (List.mem_cons_of_mem _ hq) hmem
      · exact hend.trans (and_iff_right rfl).symm

end FileReport

namespace PlainFile

variable {p : PlainFile}

/-! ## The report -/

/-- **What a page says of itself**, the free list apart. -/
def pageReport (p : PlainFile) (page : Nat) : PageReport where
  page := page
  records := (p.data page).records
  occupied := (List.range p.header.recordsPerPage).countP (p.data page).occupied
  next := p.next page
  listed := false
  full := (p.data page).records ≥ p.header.recordsPerPage

/-- **The report on a file.** -/
def report (p : PlainFile) : FileReport :=
  .ofPages p.header ((List.range p.header.pages).map p.pageReport)

/-- The links of the pages, as an inspection follows them. -/
def links (p : PlainFile) : List (Option Nat) :=
  ((List.range p.header.pages).map p.pageReport).map (·.next)

theorem length_links (p : PlainFile) : p.links.length = p.header.pages := by
  rw [links, List.length_map, List.length_map, List.length_range]

theorem join_links {page : Nat} (hpage : page < p.header.pages) :
    p.links[page]?.join = p.next page := by
  rw [links, List.map_map, List.getElem?_map, List.getElem?_range hpage]
  rfl

/-- **The free list of a report is what an inspection has followed.** -/
theorem freeList_report (p : PlainFile) : (p.report.freeList, p.report.freeListFlaw) =
    FileReport.followFree p.links (p.header.pages + 1) [] p.header.freeHead := by
  have hcount : ((List.range p.header.pages).map p.pageReport).length = p.header.pages := by
    rw [List.length_map, List.length_range]
  exact congrArg (FileReport.followFree p.links · [] p.header.freeHead) (congrArg (· + 1) hcount)

theorem ends_inspectPage (hsized : p.Sized) {page : Nat} (hpage : page < p.header.pages) :
    Ends (inspectPage page) p (fun r p' => r = p.pageReport page ∧ p' = p) (fun _ _ => False) := by
  unfold inspectPage
  rw [ends_bind, ends_checkPage]
  refine ⟨fun _ => ?_, fun hle => absurd hpage (Nat.not_lt.2 hle)⟩
  rw [ends_bind, ends_look (f := fun _ => PageHeader.decode) (PageLayout.decode_eq _ p.layout),
    ends_bind, ends_look (f := fun l => l.occupiedCount) (PageLayout.occupiedCount_eq hsized.fits _)]
  exact ⟨rfl, rfl⟩

theorem ends_inspectPages (hsized : p.Sized) {pages : List Nat}
    (hpages : ∀ page ∈ pages, page < p.header.pages) :
    Ends (pages.mapM inspectPage) p (fun r p' => r = pages.map p.pageReport ∧ p' = p)
      (fun _ _ => False) := by
  induction pages with
  | nil => exact ⟨rfl, rfl⟩
  | cons page pages ih =>
    rw [List.forall_mem_cons] at hpages
    rw [List.mapM_cons, ends_bind]
    refine (ends_inspectPage hsized hpages.1).imp ?_ fun _ _ h => h
    rintro _ _ ⟨rfl, rfl⟩
    rw [ends_bind]
    refine (ih hpages.2).imp ?_ fun _ _ h => h
    rintro _ _ ⟨rfl, rfl⟩
    exact ⟨rfl, rfl⟩

/-- **An inspection reports what the pages say**, and where the free list leads. -/
theorem inspect_eq (hsized : p.Sized) : inspect p = .ok p.report p := by
  refine Ends.eq_ok (ends_bind.mpr (ends_bind.mpr ?_))
  refine (ends_inspectPages hsized fun page hpage => List.mem_range.mp hpage).imp ?_ fun _ _ h => h
  rintro _ _ ⟨rfl, rfl⟩
  exact ⟨rfl, rfl⟩

/-- **What a report says of a file.** -/
structure Describes (r : FileReport) (p : PlainFile) : Prop where
  header_eq : r.header = p.header
  /-- Each page says of itself what it says, and is listed if it is on the free list. -/
  pages_eq : r.pages = (List.range p.header.pages).map fun page =>
    { p.pageReport page with listed := decide (page ∈ r.freeList) }
  /-- The free list is walked along, -/
  walk : FreeWalk p.next p.header.pages p.header.freeHead r.freeList
  /-- as far as it goes, -/
  longest : ∀ l, FreeWalk p.next p.header.pages p.header.freeHead l → l <+: r.freeList
  /-- and there is nothing wrong with it if it ends there. -/
  sound_iff : r.freeListFlaw = none ↔ FreeChain p.next p.header.freeHead r.freeList

/-- **The report describes the file**, whatever is in its pages. -/
theorem describes_report (p : PlainFile) : Describes p.report p := by
  have hpages : p.report.pages = (List.range p.header.pages).map fun page =>
      { p.pageReport page with listed := decide (page ∈ p.report.freeList) } := by
    show ((List.range p.header.pages).map p.pageReport).map _ = _
    rw [List.map_map]
    refine List.map_congr_left fun page _ => ?_
    show ({ p.pageReport page with listed := p.report.freeList.contains page } : PageReport) = _
    rw [List.contains_eq_mem]
  obtain ⟨l, hl, hwalk, -, hlongest, hend⟩ := @FileReport.followFree_walks p.links
    (p.header.pages + 1) [] p.header.freeHead List.nodup_nil nofun
    (Nat.lt_succ_of_le (Nat.le_of_eq p.length_links))
  rw [← p.freeList_report] at hl hend
  obtain rfl : p.report.freeList = l := hl
  rw [p.length_links] at hwalk hlongest
  have hcongr : ∀ page ∈ p.report.freeList, p.next page = p.links[page]?.join := fun page hpage =>
    (join_links (hwalk.inside page hpage)).symm
  refine ⟨rfl, hpages, ?_, fun l' hl' => ?_, ?_⟩
  · exact hwalk.congr fun page hpage => (join_links hpage).symm
  · exact hlongest l' (hl'.congr fun page hpage => join_links hpage) fun _ _ => List.not_mem_nil
  · exact hend.trans
      ⟨fun h => h.congr hcongr, fun h => h.congr fun page hpage => (hcongr page hpage).symm⟩

/-- **A report counts the records that a scan finds**, as long as a word can hold the number
of slots. -/
theorem Describes.recordCount_eq {r : FileReport} (h : Describes r p) (hsized : p.Sized)
    (hslots : p.header.pages * p.header.recordsPerPage < wordLimit) :
    r.recordCount = .ok p.shown.live.length := by
  have hcount : (r.pages.map (·.occupied)) = (List.range p.header.pages).map p.shown.count := by
    rw [h.pages_eq, List.map_map]
    refine List.map_congr_left fun page hpage => List.countP_congr fun slot _ => ?_
    rw [hsized.marks.isLive_eq ⟨page, slot⟩ (List.mem_range.mp hpage)]
  have hsum : (r.pages.map (·.occupied)).foldl (· + ·) 0 = p.shown.live.length := by
    rw [hcount, ← List.sum_eq_foldl, KeyedStore.length_live]
    rfl
  refine checkWord_eq_ok_iff.mpr ⟨?_, hsum⟩
  rw [hsum]
  exact Nat.lt_of_le_of_lt (KeyedStore.length_live_le _) hslots

/-- A word can hold the number of slots of a file whose pages can be addressed, since a slot
takes a byte at least. -/
theorem Sized.slots_lt (hsized : p.Sized)
    (hmost : p.header.recordsPerPage ≤ FileHeader.maxRecordsPerPage p.header.recordSize)
    (hreach : (p.header.pages + 1) * blockSize ≤ Files.maxOffset) :
    p.header.pages * p.header.recordsPerPage < wordLimit := by
  have hslots : 0 < p.header.recordsPerPage := hsized.fits.positive
  have hsize : 0 < p.header.recordSize := by
    refine Nat.pos_of_ne_zero fun hzero => ?_
    rw [hzero, FileHeader.maxRecordsPerPage, if_pos (.inl rfl)] at hmost
    exact Nat.not_lt_zero _ (Nat.lt_of_lt_of_le hslots hmost)
  have hroom : p.header.recordsPerPage * p.header.recordSize ≤ blockSize :=
    Nat.le_trans (Nat.le_add_left _ _) hsized.fits.room
  calc
    p.header.pages * p.header.recordsPerPage
        ≤ (p.header.pages + 1) * (p.header.recordsPerPage * p.header.recordSize) :=
      Nat.mul_le_mul (Nat.le_succ _) (Nat.le_mul_of_pos_right _ hsize)
    _ ≤ (p.header.pages + 1) * blockSize := Nat.mul_le_mul_left _ hroom
    _ ≤ Files.maxOffset := hreach
    _ < wordLimit := by decide

/-! ## What is wrong with a file -/

/-- **A consistent file**: every page counts its records, and the free list leads once to
every page that is not full and to no other. -/
structure Consistent (p : PlainFile) : Prop where
  counted : ∀ page < p.header.pages, (p.data page).records =
    (List.range p.header.recordsPerPage).countP (p.data page).occupied
  listed : ∃ l, FreeChain p.next p.header.freeHead l ∧ l.Nodup ∧
    ∀ page, page ∈ l ↔ page < p.header.pages ∧ (p.data page).records < p.header.recordsPerPage

end PlainFile

/-- **Nothing is wrong with a page** that counts its records and is listed if it is not
full. -/
theorem PageReport.violations_eq_nil_iff (r : PageReport) :
    r.violations = [] ↔ r.records = r.occupied ∧ r.listed = !r.full := by
  obtain ⟨page, records, occupied, next, listed, full⟩ := r
  unfold violations
  dsimp only
  by_cases heq : records = occupied
  · rw [if_neg (not_not_intro heq), and_iff_right heq]
    cases listed <;> cases full <;> simp
  · rw [if_pos heq]
    exact iff_of_false nofun fun h => heq h.1

namespace PlainFile

variable {p : PlainFile}

/-- **A report shows nothing wrong if and only if the file is consistent.** -/
theorem Describes.violations_eq_nil_iff {r : FileReport} (h : Describes r p) :
    r.violations = [] ↔ p.Consistent := by
  have hpage : (∀ page ∈ r.pages, page.violations = []) ↔ ∀ page < p.header.pages,
      (p.data page).records = (List.range p.header.recordsPerPage).countP (p.data page).occupied ∧
        (page ∈ r.freeList ↔ (p.data page).records < p.header.recordsPerPage) := by
    rw [h.pages_eq, List.forall_mem_map]
    refine forall_congr' fun page => ?_
    rw [List.mem_range]
    refine imp_congr_right fun _ => (PageReport.violations_eq_nil_iff _).trans ?_
    refine and_congr_right fun _ => ?_
    show decide (page ∈ r.freeList) = !decide ((p.data page).records ≥ p.header.recordsPerPage) ↔ _
    rw [← decide_not, decide_eq_decide, Nat.not_le]
  have hnil : r.violations = [] ↔
      (∀ page ∈ r.pages, page.violations = []) ∧ r.freeListFlaw = none := by
    unfold FileReport.violations
    rw [List.append_eq_nil_iff, List.flatMap_eq_nil_iff]
    refine and_congr_right fun _ => ?_
    cases r.freeListFlaw with
    | none => exact iff_of_true rfl rfl
    | some flaw => exact iff_of_false nofun nofun
  rw [hnil, hpage, h.sound_iff]
  constructor
  · rintro ⟨hpages, hchain⟩
    refine ⟨fun page hpage => (hpages page hpage).1, r.freeList, hchain, h.walk.nodup, fun page => ?_⟩
    refine ⟨fun hmem => ?_, fun hboth => (hpages page hboth.1).2.mpr hboth.2⟩
    have hinside := h.walk.inside page hmem
    exact ⟨hinside, (hpages page hinside).2.mp hmem⟩
  · rintro ⟨hcounted, l, hchain, hnodup, hmem⟩
    -- the list is walked along to its end
    have hle : l <+: r.freeList :=
      h.longest l (.of_chain hchain (fun page hpage => ((hmem page).mp hpage).1) hnodup)
    obtain rfl : l = r.freeList := hle.eq_of_length_le (hchain.prefix_of_start h.walk.start).length_le
    refine ⟨fun page hpage => ⟨hcounted page hpage, ?_⟩, hchain⟩
    rw [hmem, and_iff_right hpage]

/-- **A check fails with what is wrong**, if anything is. -/
theorem ends_check (hsized : p.Sized) :
    Ends check p (fun _ p' => p.Consistent ∧ p' = p)
      (fun e p' => ¬p.Consistent ∧ e = .error (.internal (.violations p.report.violations)) ∧ p' = p) := by
  have hiff := p.describes_report.violations_eq_nil_iff
  unfold check
  rw [ends_bind, ends_of_ok (inspect_eq hsized)]
  by_cases hnil : p.report.violations = []
  · rw [hnil]
    exact ⟨hiff.mp hnil, rfl⟩
  · rw [if_neg (by rwa [List.isEmpty_iff])]
    exact ⟨fun hconsistent => hnil (hiff.mpr hconsistent), rfl, rfl⟩

/-! ## Files in order -/

/-- A file in order is consistent, -/
theorem InOrder.consistent (h : p.InOrder) (hsized : p.Sized) : p.Consistent := by
  refine ⟨fun page hpage => ?_, h.listed⟩
  obtain ⟨header, hdecode, hoccupied⟩ := h.counted page hpage
  rw [PageLayout.decode_eq _ p.layout] at hdecode
  rw [PageLayout.occupiedCount_eq hsized.fits] at hoccupied
  obtain rfl := Except.ok.inj hdecode
  exact (Except.ok.inj hoccupied).symm

/-- **and passes its check.** -/
theorem InOrder.check_eq (h : p.InOrder) (hsized : p.Sized) : check p = .ok () p := by
  have hends : Ends check p (fun _ p' => p' = p) fun _ _ => False :=
    (ends_check hsized).imp (fun _ _ h => h.2) fun _ _ hbad => hbad.1 (h.consistent hsized)
  obtain ⟨_, _, hok, rfl⟩ := hends.exists_ok
  exact hok

end PlainFile

end SlottedFile
