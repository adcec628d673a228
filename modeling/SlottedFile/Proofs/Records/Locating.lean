import SlottedFile.Proofs.Records.Found
import SlottedFile.Proofs.Records.Inspection
import SlottedFile.Proofs.Records.Room
import SlottedFile.Proofs.Records.Spotless

/-!
# Two walks along the free list

The free list is walked along for two purposes. An inspection follows it as far as it leads to
new pages, and keeps account of the pages it has seen. A search for a page keeps no account: it
counts the links that it may still follow, as many as the file has pages, and remembers only the
page that it comes from.

They come to the same all the same, whatever is in the pages. As long as the page that is
searched is not among those seen, there is a link left to follow – the pages seen are all in the
file, and one page of the file is not among them. So the two walks go side by side
(`PlainFile.ends_locateFrom_beside`), and part only where the links lead in a circle: there the
inspection stops at once, and the search goes round until no link is left. It meets nobody
new on its way, and so does not find the page (`PlainFile.ends_locateFrom_circle`).

What a search costs is a pin for each link, and one pin at a time. If a page is to be put on the
free list and turns out to be there, nothing is changed at all (`Session.LeftAlone`): the same pages
are in the file, the same pins are held, and no page has become dirty.
-/

namespace SlottedFile

/-! ## Where a page stands -/

namespace FreePosition

variable {l before rest : List Nat} {page : Nat} {position position' : FreePosition}

/-- The position behind a page, or in front of all. -/
def behind : Option Nat → FreePosition
  | none => .head
  | some prev => .after prev

theorem stands_behind (before rest : List Nat) (page : Nat) :
    (behind before.getLast?).Stands (before ++ page :: rest) page := by
  cases hlast : before.getLast? with
  | none =>
    rw [List.getLast?_eq_none_iff.mp hlast]
    exact ⟨rest, rfl⟩
  | some prev =>
    obtain ⟨front, rfl⟩ := List.getLast?_eq_some_iff.mp hlast
    exact ⟨front, rest, by rw [List.append_assoc]; rfl⟩

theorem Stands.exists_behind (h : position.Stands l page) (hlisted : position ≠ .absent) :
    ∃ before rest, l = before ++ page :: rest ∧ position = behind before.getLast? := by
  cases position with
  | head =>
    obtain ⟨rest, rfl⟩ := h
    exact ⟨[], rest, rfl, rfl⟩
  | after prev =>
    obtain ⟨before, rest, rfl⟩ := h
    refine ⟨before ++ [prev], rest, by rw [List.append_assoc]; rfl, ?_⟩
    rw [List.getLast?_concat]
    rfl
  | absent => exact absurd rfl hlisted

/-- A page that stands somewhere is on the list. -/
theorem Stands.mem_iff (h : position.Stands l page) : page ∈ l ↔ position ≠ .absent := by
  refine ⟨?_, fun hlisted => ?_⟩
  · rintro hmem rfl
    exact h hmem
  · obtain ⟨before, rest, rfl, -⟩ := h.exists_behind hlisted
    exact List.mem_append_right _ List.mem_cons_self

/-- **A page stands in one place only** of a list without repetitions. -/
theorem Stands.unique (hnodup : l.Nodup) (h : position.Stands l page)
    (h' : position'.Stands l page) : position = position' := by
  by_cases hmem : page ∈ l
  · obtain ⟨before, rest, rfl, rfl⟩ := h.exists_behind (h.mem_iff.mp hmem)
    obtain ⟨before', rest', heq, rfl⟩ := h'.exists_behind (h'.mem_iff.mp hmem)
    have hnew : page ∉ before ∧ page ∉ rest := by
      rw [List.nodup_append, List.nodup_cons] at hnodup
      exact ⟨fun hin => hnodup.2.2 page hin page List.mem_cons_self rfl, hnodup.2.1.1⟩
    rw [((List.append_cons_inj_of_notMem hnew.1 hnew.2).mp heq).1]
  · rw [of_not_not fun hlisted => hmem (h.mem_iff.mpr hlisted),
      of_not_not fun hlisted => hmem (h'.mem_iff.mpr hlisted)]

/-- What stands somewhere stands where it is said to. -/
theorem Stands.eq_iff (hnodup : l.Nodup) (h : position.Stands l page) :
    position = position' ↔ position'.Stands l page :=
  ⟨fun heq => heq ▸ h, h.unique hnodup⟩

/-- **What a search should find**, by the pages that the free list leads to and what is wrong
with it. -/
def Found (page : Nat) (walk : List Nat × Option FreeListFlaw) (position : FreePosition) : Prop :=
  position.Stands walk.1 page ∧ (position = .absent → walk.2 = none)

/-- **What a search should fail for**, if it does not find a page: the flaw of the free list. -/
inductive Astray (pages : Nat) : FreeListFlaw → Fault RecordError → Prop
  | beyond (q : Nat) : Astray pages (.beyond q pages) (.error (.pageNotExist q))
  | circle (q : Nat) : Astray pages (.twice q) (.error (.internal (.endlessFreeList pages)))

end FreePosition

namespace PlainFile

variable {p : PlainFile} {links : List (Option Nat)} {seen : List Nat} {page left : Nat}

/-- **Round a circle** of pages of the file, none of which is the page that is searched, one
goes until no link is left. -/
theorem ends_locateFrom_circle (hinside : ∀ q ∈ seen, q < p.header.pages)
    (hcircle : ∀ q ∈ seen, ∃ q' ∈ seen, p.next q = some q') (hnot : page ∉ seen) {listed : Nat}
    (hlisted : listed ∈ seen) (prev : Option Nat) :
    Ends (locateFrom page left prev (some listed)) p (fun _ _ => False)
      (fun e p' => e = .error (.internal (.endlessFreeList p.header.pages)) ∧ p' = p) := by
  induction left generalizing listed prev with
  | zero =>
    unfold locateFrom
    rw [if_neg fun heq : listed = page => hnot (heq ▸ hlisted)]
    exact ⟨rfl, rfl⟩
  | succ left ih =>
    obtain ⟨q, hq, hnext⟩ := hcircle listed hlisted
    unfold locateFrom
    rw [if_neg fun heq : listed = page => hnot (heq ▸ hlisted), ends_bind,
      ends_nextFree (hinside listed hlisted), hnext]
    exact ih hq _

/-- **The two walks side by side.** The pages that were seen, the latest first, are pages of the
file, and the page that is searched is not among them. -/
theorem ends_locateFrom_beside (hlength : links.length = p.header.pages)
    (hnext : ∀ q < p.header.pages, links[q]?.join = p.next q) (hpage : page < p.header.pages)
    (hseen : seen.Nodup) (hinside : ∀ q ∈ seen, q < p.header.pages) (hnot : page ∉ seen)
    {current : Option Nat}
    (hled : ∀ q ∈ seen, (∃ q' ∈ seen, p.next q = some q') ∨ p.next q = current)
    (hleft : left + seen.length = p.header.pages) :
    Ends (locateFrom page left seen.head? current) p
      (fun position p' => position.Found page (FileReport.followFree links (left + 1) seen current) ∧
        p' = p)
      (fun e p' => p' = p ∧ page ∉ (FileReport.followFree links (left + 1) seen current).1 ∧
        ∃ flaw, (FileReport.followFree links (left + 1) seen current).2 = some flaw ∧
          FreePosition.Astray p.header.pages flaw e) := by
  induction left generalizing seen current with
  | zero =>
    have hfewer := length_le_of_nodup (List.nodup_cons.mpr ⟨hnot, hseen⟩)
      (List.forall_mem_cons.mpr ⟨hpage, hinside⟩)
    rw [List.length_cons] at hfewer
    omega
  | succ left ih =>
    cases current with
    | none =>
      refine ends_pure.mpr ⟨⟨?_, fun _ => rfl⟩, rfl⟩
      exact fun hmem => hnot (List.mem_reverse.mp hmem)
    | some listed =>
      have hlisted : (hin : listed < p.header.pages) → listed ∉ seen →
          FileReport.followFree links (left + 1 + 1) seen (some listed) =
            FileReport.followFree links (left + 1) (listed :: seen) (p.next listed) := by
        intro hin hnew
        rw [FileReport.followFree, if_neg (Nat.not_le.2 (hlength ▸ hin)), if_neg hnew, hnext listed hin]
      by_cases hfound : listed = page
      · -- the search ends here, and the inspection goes on
        subst hfound
        obtain ⟨l, hl, -⟩ := @FileReport.followFree_walks links (left + 1) (listed :: seen)
          (p.next listed) (List.nodup_cons.mpr ⟨hnot, hseen⟩)
          (hlength ▸ List.forall_mem_cons.mpr ⟨hpage, hinside⟩)
          (by rw [List.length_cons]; omega)
        have hstands := FreePosition.stands_behind seen.reverse l listed
        rw [List.getLast?_reverse] at hstands
        unfold locateFrom
        rw [if_pos rfl, hlisted hpage hnot]
        refine ends_pure.mpr ⟨?_, rfl⟩
        unfold FreePosition.Found
        rw [hl, List.reverse_cons, List.append_assoc]
        generalize seen.head? = prev at hstands ⊢
        cases prev with
        | none => exact ⟨hstands, FreePosition.noConfusion⟩
        | some prev => exact ⟨hstands, FreePosition.noConfusion⟩
      by_cases htwice : listed ∈ seen
      · have hin := hinside listed htwice
        have hcircle : ∀ q ∈ seen, ∃ q' ∈ seen, p.next q = some q' := fun q hq =>
          (hled q hq).elim id fun heq => ⟨listed, htwice, heq⟩
        refine (ends_locateFrom_circle hinside hcircle hnot htwice _).imp (fun _ _ h => h.elim) ?_
        rintro e _ ⟨rfl, rfl⟩
        rw [FileReport.followFree, if_neg (Nat.not_le.2 (hlength ▸ hin)), if_pos htwice]
        exact ⟨rfl, fun hmem => hnot (List.mem_reverse.mp hmem), _, rfl, .circle listed⟩
      unfold locateFrom
      rw [if_neg hfound, ends_bind]
      by_cases hin : listed < p.header.pages
      · rw [ends_nextFree hin, hlisted hin htwice]
        refine ih (List.nodup_cons.mpr ⟨htwice, hseen⟩)
          (List.forall_mem_cons.mpr ⟨hin, hinside⟩)
          (fun hmem => (List.mem_cons.mp hmem).elim (Ne.symm hfound) hnot) ?_ ?_
        · refine List.forall_mem_cons.mpr ⟨.inr rfl, fun q hq => .inl ?_⟩
          rcases hled q hq with ⟨q', hq', heq⟩ | heq
          · exact ⟨q', List.mem_cons_of_mem _ hq', heq⟩
          · exact ⟨listed, List.mem_cons_self, heq⟩
        · rw [List.length_cons]
          omega
      · have hout := Nat.not_lt.1 hin
        rw [FileReport.followFree, if_pos (hlength ▸ hout)]
        unfold nextFree
        rw [ends_bind, ends_checkPage]
        refine ⟨fun hlt => absurd hlt hin, fun _ => ?_⟩
        exact ⟨rfl, fun hmem => hnot (List.mem_reverse.mp hmem), _, rfl, hlength ▸ .beyond listed⟩

/-- **A search agrees with an inspection**, whatever is in the pages. -/
theorem ends_locate_report (p : PlainFile) {page : Nat} (hpage : page < p.header.pages) :
    Ends (locate page) p
      (fun position _ => position.Found page (p.report.freeList, p.report.freeListFlaw))
      (fun e _ => page ∉ p.report.freeList ∧
        ∃ flaw, p.report.freeListFlaw = some flaw ∧ FreePosition.Astray p.header.pages flaw e) := by
  have hbeside : Ends (locateFrom page p.header.pages none p.header.freeHead) p _ _ :=
    ends_locateFrom_beside p.length_links (fun q hq => join_links hq) hpage List.nodup_nil nofun
      List.not_mem_nil nofun (Nat.add_zero _)
  rw [← p.freeList_report] at hbeside
  exact hbeside.imp (fun _ _ h => h.1) fun _ _ h => h.2

end PlainFile

/-! ## The file that is searched -/

/-- **A session that was left alone**: its file, what the store holds, and the pins are what they
were, and no page has been stained. -/
structure Session.LeftAlone (imageOf : Nat → ImageId) (s s' : Session) : Prop where
  file_eq : s'.file = s.file
  picture_eq : s'.store.picture imageOf = s.store.picture imageOf
  held_eq : s'.store.held = s.store.held
  pinCount_eq : ∀ k, s'.store.pool.pinCount k = s.store.pool.pinCount k
  stained : ∀ k, s'.store.Stained k → s.store.Stained k

section Searching

variable {other : Nat → ImageId} {image : ImageId} {path : Path} {raw : List Hold} {s : Session}
  {c : Client} {page : Nat}

theorem Session.Good.numbered {imageOf : Nat → ImageId} (hs : s.Good imageOf raw) :
    s.store.Numbered :=
  ⟨hs.sound.coherent.files, hs.sound.id_lt⟩

theorem Session.LeftAlone.of_became {imageOf : Nat → ImageId} {s' : Session} (hs : s.Good imageOf raw)
    (hbecame : Session.Became imageOf raw s (s.plain imageOf) s')
    (hheld : SameHeld [] s.store.held s'.store.held) (hintact : s.store.Intact s'.store) :
    s.LeftAlone imageOf s' := by
  have hnoted : ∀ l : List HeldPin, l.map (·.noted []) = l := fun l =>
    (List.map_congr_left fun h _ => if_neg List.not_mem_nil).trans l.map_id
  have hheld : s'.store.held = s.store.held := (hnoted _).symm.trans (Eq.trans hheld (hnoted _))
  refine ⟨hbecame.file_eq rfl, hbecame.picture.trans (Session.withFile_plain s), hheld, fun k => ?_,
    fun k hk => (hintact.stained k hk).resolve_right (Set.notMem_empty k)⟩
  rw [hbecame.good.sound.coherent.pins_eq, hs.sound.coherent.pins_eq, hheld]

/-- **What only reads leaves the session alone.** -/
theorem InHand.ends_leftAlone {α : Type} (h : InHand other image raw s)
    {x : RecordFile → StoreM RecordError α} {m : PlainM α}
    (hdoes : Does (standFor other image s.file.handle) raw [] (s.own other image)
      (Session.onStore x) m s)
    (hreads : PlainFile.Reads m) (hspotless : Store.Spotless (x s.file)) :
    Ends (x s.file) s.store
      (fun _ t => s.LeftAlone (standFor other image s.file.handle) { s with store := t })
      fun _ t => s.LeftAlone (standFor other image s.file.handle) { s with store := t } := by
  refine Ends.imp (Ends.and (ends_onStore.mp hdoes) (hspotless s.store h.good.numbered)) ?_ ?_
  · rintro a t ⟨⟨p', hm, hbecame, hheld⟩, hintact⟩
    rw [hreads.eq hm] at hbecame
    exact .of_became h.good hbecame hheld hintact
  · rintro e t ⟨⟨hbecame, hheld, -⟩, hintact⟩
    exact .of_became h.good hbecame hheld hintact

/-- **To put a page on the free list leaves everything alone** if it is there already, or if
that cannot be found out. -/
theorem InHand.ends_releasePage_listed (h : InHand other image raw s) {pin : Pin}
    (hlisted : answer (s.file.locate pin.key.page) s.store ≠ .ok .absent) :
    Ends (Session.releasePage pin) s
      (fun _ s' => s.LeftAlone (standFor other image s.file.handle) s')
      fun _ s' => s.LeftAlone (standFor other image s.file.handle) s' := by
  have hrefused : Ends (s.file.canLink pin.key.page) s.store (fun relink _ => relink = false)
      fun _ _ => True := by
    refine ends_bind.mpr (ends_iff.mpr ⟨fun position t hlocate => ?_, fun _ _ _ => trivial⟩)
    have hanswer : answer (s.file.locate pin.key.page) s.store = .ok position := by
      unfold answer
      rw [hlocate]
    rw [hanswer] at hlisted
    have hnot : position ≠ .absent := by
      rintro rfl
      exact hlisted rfl
    rw [if_neg hnot]
    exact ends_bind.mpr (Store.ends_report.mpr rfl)
  have hkept := h.ends_leftAlone (does_canLink h.good rfl h.sized pin.key.page)
    (PlainFile.reads_canLink _) (spotless_canLink _)
  unfold Session.releasePage
  rw [ends_bind, ends_onStore]
  refine (hrefused.and hkept).imp ?_ fun _ _ h => h.2
  rintro _ t ⟨rfl, hkept⟩
  exact hkept

/-! ## The search and the inspection -/

/-- With a frame to spare, an inspection reports what the pages say. -/
theorem InHand.ends_inspect_roomy (h : InHand other image raw s) (hreach : s.file.header.Reach)
    (hcount : s.file.header.pages ≤ noPage) (hroomy : s.store.Roomy 1) :
    Ends s.file.inspect s.store (fun r _ => r = (s.own other image).report) fun _ _ => False := by
  have hplain := PlainFile.inspect_eq h.sized
  refine (ends_onStore.mp (h.ends_of_does_roomy hreach hcount hroomy
    (does_inspect h.good rfl h.sized) balanced_inspect)).imp ?_ ?_
  · rintro r _ ⟨_, hm⟩
    cases hm.symm.trans hplain
    rfl
  · rintro e _ ⟨_, hm⟩
    cases hm.symm.trans hplain

/-- With a frame to spare, a search finds what the report leads to. -/
theorem InHand.ends_locate_roomy (h : InHand other image raw s) (hreach : s.file.header.Reach)
    (hcount : s.file.header.pages ≤ noPage) (hroomy : s.store.Roomy 1)
    (hpage : page < s.file.header.pages) :
    Ends (s.file.locate page) s.store
      (fun position _ => position.Found page
        ((s.own other image).report.freeList, (s.own other image).report.freeListFlaw))
      (fun e _ => page ∉ (s.own other image).report.freeList ∧
        ∃ flaw, (s.own other image).report.freeListFlaw = some flaw ∧
          FreePosition.Astray s.file.header.pages flaw e) := by
  have hplain := (s.own other image).ends_locate_report hpage
  exact (ends_onStore.mp (h.ends_of_does_roomy hreach hcount hroomy
    (does_locate h.good rfl h.sized page) (balanced_locate page))).imp
      (fun _ _ ⟨_, hm⟩ => hplain.of_ok hm) fun _ _ ⟨_, hm⟩ => hplain.of_error hm

/-- **A search of the free list agrees with an inspection**, whatever is in the pages of the
file. It fetches no more pages than the file has, wherever the links lead; a page that could not be
fetched counts as well. Unless it finds that the page is not on the list, a page that
is to be put there is left alone. And with a frame to spare, both come to the same: the page is the
first of those that the list leads to, or is the next one to another, or is not
on the list, or it is not found because the list leads out of the file or in a circle. -/
theorem search_agrees_with_inspection (h : FoundRun other image path s c)
    (hpage : page < s.file.header.pages) :
    Ends (s.file.locate page) s.store
      (fun _ t => t.nextPin ≤ s.store.nextPin + s.file.header.pages)
      (fun e t => t.nextPin ≤ s.store.nextPin + s.file.header.pages ∧ ∀ q fe,
        e = .error (.internal (.fetch q fe)) → t.nextPin < s.store.nextPin + s.file.header.pages) ∧
    (∀ pin : Pin, pin.key.page = page → answer (s.file.locate page) s.store ≠ .ok .absent →
      s.LeftAlone (standFor other image s.file.handle) (stateAfter (Session.releasePage pin) s)) ∧
    (s.store.Roomy 1 → s.file.header.pages ≤ noPage →
      ∃ r t, s.file.inspect s.store = .ok r t ∧
        (answer (s.file.locate page) s.store = .ok .head ↔ ∃ rest, r.freeList = page :: rest) ∧
        (∀ prev, answer (s.file.locate page) s.store = .ok (.after prev) ↔
          ∃ before rest, r.freeList = before ++ prev :: page :: rest) ∧
        (answer (s.file.locate page) s.store = .ok .absent ↔
          page ∉ r.freeList ∧ r.freeListFlaw = none) ∧
        ((∃ e, answer (s.file.locate page) s.store = .error e) ↔
          page ∉ r.freeList ∧ r.freeListFlaw ≠ none) ∧
        ∀ e, answer (s.file.locate page) s.store = .error e → ∃ flaw, r.freeListFlaw = some flaw ∧
          FreePosition.Astray s.file.header.pages flaw e) := by
  obtain ⟨hhand, hreach⟩ := h.inHand
  refine ⟨s.file.ends_locateFrom_pins page _ none _ hhand.good.numbered, fun pin hpin hlisted => ?_, ?_⟩
  · subst hpin
    exact Ends.stateAfter (hhand.ends_releasePage_listed hlisted)
  intro hroomy hcount
  set p := s.own other image
  have hinspect : Ends s.file.inspect s.store (fun r _ => r = p.report) fun _ _ => False :=
    hhand.ends_inspect_roomy hreach hcount hroomy
  have hlocate := hhand.ends_locate_roomy hreach hcount hroomy hpage
  have hnodup : p.report.freeList.Nodup := p.describes_report.walk.nodup
  obtain ⟨_, t, hok, rfl⟩ := hinspect.exists_ok
  refine ⟨_, t, hok, ?_⟩
  unfold answer
  cases hrun : s.file.locate page s.store with
  | ok position store =>
    obtain ⟨hstands, hends⟩ := hlocate.of_ok hrun
    have hiff : ∀ position', (Except.ok position : Except (Fault RecordError) FreePosition) =
        .ok position' ↔ position'.Stands p.report.freeList page := by
      intro position'
      rw [Except.ok.injEq]
      exact hstands.eq_iff hnodup
    have hflaw : page ∉ p.report.freeList → p.report.freeListFlaw = none := fun hnot =>
      hends (of_not_not fun hlisted => hnot (hstands.mem_iff.mpr hlisted))
    refine ⟨hiff .head, fun prev => hiff (.after prev), (hiff .absent).trans ?_, ?_, nofun⟩
    · exact ⟨fun hnot => ⟨hnot, hflaw hnot⟩, fun h => h.1⟩
    · exact iff_of_false (fun ⟨_, he⟩ => nomatch he) fun h => h.2 (hflaw h.1)
  | error e store =>
    obtain ⟨hnot, flaw, hflaw, hastray⟩ := hlocate.of_error hrun
    have hnowhere : ∀ position : FreePosition, position ≠ .absent →
        ¬ position.Stands p.report.freeList page := fun _ hlisted hstands =>
      hnot (hstands.mem_iff.mpr hlisted)
    refine ⟨iff_of_false nofun (hnowhere .head nofun),
      fun prev => iff_of_false nofun (hnowhere (.after prev) nofun), iff_of_false nofun ?_, ?_, ?_⟩
    · rintro ⟨-, hnone⟩
      exact nomatch hflaw.symm.trans hnone
    · exact iff_of_true ⟨e, rfl⟩ ⟨hnot, fun hnone => nomatch hflaw.symm.trans hnone⟩
    · rintro _ ⟨⟩
      exact ⟨flaw, hflaw, hastray⟩

set_option maxRecDepth 100000 in
/-- The page that follows itself is the head of its free list, and the search stops there. -/
theorem search_agrees_with_inspection_stray :
    answer (strayOpened.file.locate 0) strayOpened.store = .ok .head ∧
      ∃ r t, strayOpened.file.inspect strayOpened.store = .ok r t ∧
        ∃ rest, r.freeList = 0 :: rest := by
  have hhead : answer (strayOpened.file.locate 0) strayOpened.store = .ok .head := rfl
  have hempty : strayOpened.store.pool = { capacity := 1 } := rfl
  have hroomy : strayOpened.store.Roomy 1 := by
    refine ⟨hempty ▸ Nat.le_refl 1, fun k hdirty => ?_⟩
    rw [hempty] at hdirty
    cases hdirty
  have hpage : 0 < strayOpened.file.header.pages := by decide
  obtain ⟨-, -, hagree⟩ := search_agrees_with_inspection strayOpened_run hpage
  obtain ⟨r, t, hok, hiff, -⟩ := hagree hroomy (by decide)
  exact ⟨hhead, r, t, hok, hiff.mp hhead⟩

end Searching

end SlottedFile
