import SlottedFile.Proofs.Records.Found
import SlottedFile.Proofs.Records.Inspection
import SlottedFile.Proofs.Records.Room

/-!
# An inspection tells whether a file is damaged

The pages of a record file that was found may say anything. They may count too many
records or too few, the bits behind the last slot may be set, and the links of the free
list may lead in a circle or to pages that are not there, or pass over pages with room.

An inspection shows all this as it is, and a check fails exactly if there is any of it
(`inspection_tells_damage`). No damage is reported where there is none and none is
overlooked, however the pages came to be what they are. Only a page that cannot be fetched
keeps either of them from its answer, and that does not happen as long as one more frame
is to be had.
-/

namespace SlottedFile

section Diagnosis

variable {other : Nat → ImageId} {image : ImageId} {path : Path} {raw : List Hold}
  {s s' : Session} {c : Client}

/-- **The records of a page fit in it** at every point of a run, since they did when the
header was read. -/
theorem FoundRun.most (h : FoundRun other image path s c) :
    s.file.header.recordsPerPage ≤ FileHeader.maxRecordsPerPage s.file.header.recordSize := by
  induction h with
  | opened hpool hother hleads hopen =>
    have hopened := (ends_openRecordFile hpool.sound hother hleads).of_ok hopen
    exact (FileHeader.flaw_eq_none_iff.mp (FileHeader.flaw_of_decode hopened.decoded)).2.1
  | @asked s c task h hallowed ih =>
    have hlayout : (stateAfter task.run s).file.layout = s.file.layout := by
      have hkeeps : ∀ {s'}, (∃ p', (s.own other image).Grown p' ∧
          Session.Became (standFor other image s.file.handle) c.holds s p' s') →
            s'.file.layout = s.file.layout := by
        rintro s' ⟨p', hgrown, hbecame⟩
        have hheader : s'.file.header = p'.header := congrArg PlainFile.header hbecame.plain_eq
        unfold RecordFile.layout
        rw [hheader]
        exact hgrown.layout_eq
      obtain ⟨hhand, -⟩ := h.inHand
      exact Ends.stateAfter ((RecordTask.comes hhand.good hhand.sized hallowed).imp
        (fun _ _ h => hkeeps h) fun _ _ h => hkeeps h.1)
    have hslots : (stateAfter task.run s).file.header.recordsPerPage = s.file.header.recordsPerPage :=
      congrArg PageLayout.recordsPerPage hlayout
    have hsize : (stateAfter task.run s).file.header.recordSize = s.file.header.recordSize :=
      congrArg PageLayout.recordSize hlayout
    rw [hslots, hsize]
    exact ih
  | beside _ _ ih => exact ih

/-- **A scan gives out the records that a file shows**, unless it lacks a page. -/
theorem InHand.ends_scan (h : InHand other image raw s) (hreach : s.file.header.Reach) :
    Ends (Session.onStore Scan.items) s
      (fun items _ => Scanned (fun e => s.Lacks 1 (.error e)) (s.own other image).shown.live items)
      (fun e _ => s.Lacks 1 e) := by
  have hown : s.plain (standFor other image s.file.handle) = s.own other image := rfl
  have hscan := (ends_items [] h.good hown h.sized).and
    ((h.fit hreach).ends_items fun (hample : s.Ample 1) _ => h.roomy hample)
  refine hscan.imp ?_ ?_
  · rintro items s' ⟨⟨hscanned, hkept⟩, -, howes⟩
    rw [h.sized.marks.trail_start] at hscanned
    refine hscanned.imp_right ?_
    rintro ⟨i, e, hpool, rfl⟩
    have hlast : s'.Owes (s.Ample 1) (Scan.failure? (.error e)) :=
      howes (.error e) (List.mem_append_right _ List.mem_cons_self)
    exact ⟨i, e, h.lacks hreach hpool hkept.became (hlast e rfl), rfl⟩
  · rintro e s' ⟨⟨hpool, hkept⟩, hfails⟩
    exact h.lacks hreach hpool hkept.became hfails.full

/-- **An inspection tells what is wrong with a file**, whatever is in its pages. It shows
how far the free list leads and what it leads to, and its number of records is the number
of items of a scan. A check fails if and only if a page miscounts its records or the free
list does not lead, once, to the pages that are not full. -/
theorem inspection_tells_damage (h : FoundRun other image path s c) :
    Ends s.file.inspect s.store
      (fun r _ => PlainFile.Describes r (s.own other image) ∧
        r.recordCount = .ok (s.own other image).shown.live.length)
      (fun e _ => s.Lacks 1 e) ∧
    Ends (Scan.items s.file) s.store
      (fun items _ => Scanned (fun e => s.Lacks 1 (.error e)) (s.own other image).shown.live items)
      (fun e _ => s.Lacks 1 e) ∧
    Ends s.file.check s.store
      (fun _ _ => (s.own other image).Consistent)
      (fun e _ => s.Lacks 1 e ∨ ¬(s.own other image).Consistent ∧
        ∃ r, PlainFile.Describes r (s.own other image) ∧
          e = .error (.internal (.violations r.violations))) := by
  obtain ⟨hhand, hreach⟩ := h.inHand
  have hsized := hhand.sized
  have hdescribes := (s.own other image).describes_report
  have hinspect := hhand.ends_of_does hreach (does_inspect hhand.good rfl hsized) balanced_inspect
  have hcheck := hhand.ends_of_does hreach (does_check hhand.good rfl hsized) balanced_check
  have hplainCheck := PlainFile.ends_check hsized
  refine ⟨(ends_onStore.mp hinspect).imp ?_ ?_, ends_onStore.mp (hhand.ends_scan hreach),
    (ends_onStore.mp hcheck).imp ?_ ?_⟩
  · rintro r _ ⟨p', hplain, -⟩
    rw [PlainFile.inspect_eq hsized] at hplain
    cases hplain
    exact ⟨hdescribes, hdescribes.recordCount_eq hsized (hsized.slots_lt h.most hreach)⟩
  · rintro e _ ⟨-, hlacks | ⟨p', hplain⟩⟩
    · exact hlacks
    · rw [PlainFile.inspect_eq hsized] at hplain
      cases hplain
  · rintro _ _ ⟨p', hplain, -⟩
    exact (hplainCheck.of_ok hplain).1
  · rintro e _ ⟨-, hlacks | ⟨p', hplain⟩⟩
    · exact .inl hlacks
    · obtain ⟨hdamaged, rfl, -⟩ := hplainCheck.of_error hplain
      exact .inr ⟨hdamaged, _, hdescribes, rfl⟩

/-- What is wrong with the page that counts four billion records, holds one, and follows
itself on the free list. -/
def strayViolations : List Violation :=
  [.count 0 4294967295 1, .fullButListed 0, .freeList (.twice 0)]

set_option maxRecDepth 100000 in
/-- The file of that page is found damaged, and rightly so. -/
theorem inspection_tells_damage_stray :
    (∃ store, strayOpened.file.check strayOpened.store =
      .error (.error (.internal (.violations strayViolations))) store) ∧
      ¬(strayOpened.own (· + 1) 0).Consistent := by
  have hfails : strayOpened.file.check strayOpened.store =
      .error (.error (.internal (.violations strayViolations)))
        (stateAfter strayOpened.file.check strayOpened.store) := rfl
  refine ⟨⟨_, hfails⟩, ?_⟩
  rcases (inspection_tells_damage strayOpened_run).2.2.of_error hfails with ⟨hwants, -⟩ | ⟨hdamaged, -⟩
  · obtain ⟨e, heq, hwant⟩ := hwants
    cases heq
    cases hwant
  · exact hdamaged

end Diagnosis

end SlottedFile
