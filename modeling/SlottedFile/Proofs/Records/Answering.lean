import SlottedFile.Proofs.Records.Found
import SlottedFile.Proofs.Records.Inspection

/-!
# Every file is answered for

Whatever bytes a file consists of, opening it gives a handle or an error, and so does
everything that is asked of it afterwards: nothing overruns, however many pages are
changed on the way (`every_image_is_answered_for`).

Two things could have run on for ever. A scan is read item by item, and comes to its end
because each record lies behind the one before. And an inspection follows the links of
the pages until it meets a page for the second time, which has to happen: more steps than
there are pages make no difference (`FileReport.followFree_of_lt`).
-/

namespace SlottedFile

section Answering

variable {other : Nat → ImageId} {image : ImageId} {path : Path} {s : Session} {c : Client}

/-- The pool does not overrun as long as one page more can be addressed. -/
theorem PoolFailure.isError {p : PlainFile} {e : Fault RecordError} (h : PoolFailure p e)
    (hcount : p.count = p.header.pages) (hreach : p.header.Reach) : e.IsError := by
  obtain ⟨e', rfl, -⟩ := h.wantOfPage_of_reach (hcount ▸ hreach)
  trivial

/-- **What is asked of a file that was found does not overrun.** -/
theorem FoundRun.ends_task (h : FoundRun other image path s c) {task : RecordTask}
    (hallowed : task.Allowed s) : Ends task.run s (fun _ _ => True) fun e _ => e.IsError := by
  obtain ⟨hhand, hreach⟩ := h.inHand
  refine Ends.imp (RecordTask.comes hhand.good hhand.sized hallowed) (fun _ _ _ => trivial) ?_
  rintro e _ ⟨-, hpool | herror⟩
  · exact hpool.isError hhand.sized.count hreach
  · exact herror

/-- **A scan of it comes to an end**, however many items are asked for. -/
theorem FoundRun.ends_itemsUpTo (h : FoundRun other image path s c) (n : Nat) :
    Ends (Session.onStore fun f => do Scan.itemsFrom f n (← Scan.start f)) s
      (fun items _ => items.length ≤ Scan.bound s.file) fun e _ => e.IsError := by
  obtain ⟨hhand, hreach⟩ := h.inHand
  have hsized := hhand.sized
  refine (SlottedFile.ends_itemsUpTo [] hhand.good rfl hsized n).imp ?_ ?_
  · rintro items _ ⟨hscanned, -⟩
    have hin : ∀ id ∈ (s.own other image).found 0 0,
        id.page < s.file.header.pages ∧ id.slot < s.file.header.recordsPerPage := by
      intro id hid
      obtain ⟨hpage, hslot, -⟩ := PlainFile.le_rank_of_found hsized (Nat.zero_le _) hid
      exact ⟨hpage, hslot⟩
    have hfew := PlainFile.length_trail_le hsized n hin 0 fun _ _ => Nat.zero_le _
    have hfew : ((s.own other image).trail n ((s.own other image).found 0 0)).length ≤
        s.file.header.pages * s.file.header.recordsPerPage := hfew
    show items.length ≤ s.file.header.pages * s.file.header.recordsPerPage + 1
    rcases hscanned with rfl | ⟨i, e, -, rfl⟩
    · rw [List.length_map]
      exact Nat.le_succ_of_le hfew
    · rw [List.length_append, List.length_map, List.length_singleton]
      exact Nat.succ_le_succ (Nat.le_trans (List.length_take_le' i _) hfew)
  · rintro e _ ⟨hpool, -⟩
    exact hpool.isError hsized.count hreach

end Answering

/-- **No file makes a record file overrun or run on**, whatever its bytes are. Whoever opens
it gets a handle or an error. From then on everything that is asked of it is answered or
refused with an error, in any order, with any data and any places, at any capacity of the
pool and whatever other clients do beside it. However many items are taken from a scan, it
has no more than the file has slots and one error, and a report of the free list does not
depend on how long one is ready to follow it. -/
theorem every_image_is_answered_for :
    (∀ (other : Nat → ImageId) (path : Path) (s₀ : Store) (c₀ : Client),
      PoolReachable other s₀ c₀ →
        Ends (RecordFile.openFile path) s₀ (fun _ _ => True) fun e _ => e.IsError) ∧
    (∀ (other : Nat → ImageId) (image : ImageId) (path : Path) (s : Session) (c : Client),
      FoundRun other image path s c →
        (∀ task : RecordTask, task.Allowed s →
          Ends task.run s (fun _ _ => True) fun e _ => e.IsError) ∧
        ∀ n, Ends (Session.onStore fun f => do Scan.itemsFrom f n (← Scan.start f)) s
          (fun items _ => items.length ≤ Scan.bound s.file) fun e _ => e.IsError) ∧
    ∀ (links : List (Option Nat)) (head : Option Nat) (left : Nat), links.length < left →
      FileReport.followFree links left [] head =
        FileReport.followFree links (links.length + 1) [] head := by
  refine ⟨fun other path s₀ c₀ hpool => ?_, fun other image path s c h => ⟨fun task hallowed => ?_,
    h.ends_itemsUpTo⟩, fun links head left hleft => ?_⟩
  · exact (ends_open_passed hpool.sound.coherent.files path).imp (fun _ _ _ => trivial)
      fun _ _ h => h.1
  · exact h.ends_task hallowed
  · exact FileReport.followFree_of_lt List.nodup_nil nofun hleft (Nat.lt_succ_self _)

set_option maxRecDepth 100000 in
/-- A file whose only page follows itself on the free list can be checked. -/
theorem every_image_is_answered_for_stray :
    Ends RecordTask.check.run strayOpened (fun _ _ => True) fun e _ => e.IsError := by
  obtain ⟨-, hfound, -⟩ := every_image_is_answered_for
  obtain ⟨htasks, -⟩ := hfound _ _ _ _ _ strayOpened_run
  have hallowed : RecordTask.check.Allowed strayOpened := trivial
  exact htasks .check hallowed

end SlottedFile
