import SlottedFile.Proofs.Paths
import SlottedFile.Proofs.Records.Sharing

/-!
# Sessions that serve one command

A command works on a store of its own. It opens its file, asks something of it, closes it if
all went well, and then the store comes to its end. Between these steps the session serves
the command (`Session.Serves`): it shows a plain file, nobody holds a pin, and whatever is
buffered can be written back. In contrast to a store at rest it may have a single frame.
Then an operation that holds two pages at a time can fail for want of a frame, but it leaves
the session serving the same file (`Session.Serves.ends_does`).

What the disk carries (`Disk.Carries`) when a command begins is what the session shows, and
what the session shows is what the disk carries afterwards, whether the file was closed
(`Session.Serves.ends_close`) or left open (`Session.Serves.shutdown`).
-/

namespace SlottedFile

/-- **A file that the disk carries**, all of it and where the path leads. -/
structure Disk.Carries (d : Disk) (path : Path) (image : ImageId) (p : PlainFile) : Prop where
  leads : d.Leads path image
  keeps : d.Keeps image p
  paged : (d.image image).Paged

/-- The bytes of a file that the disk carries are those of the plain file. -/
theorem Disk.Carries.bytesAt_iff {d : Disk} {path : Path} {image : ImageId} {p : PlainFile}
    (h : d.Carries path image p) {bytes : List UInt8} :
    d.BytesAt path bytes ↔ bytes = p.bytes := by
  constructor
  · rintro ⟨i, hleads, hbytes⟩
    obtain rfl := h.leads.eq hleads
    exact hbytes.symm.trans (h.keeps.toBytes_eq h.paged)
  · rintro rfl
    exact ⟨image, h.leads, h.keeps.toBytes_eq h.paged⟩

/-- **A session that serves a command**, with a pool of so many frames: it shows a plain
file, no pin is held, and what is dirty can be written back. -/
structure Session.Serves (other : Nat → ImageId) (image : ImageId) (path : Path) (frames : Nat)
    (p : PlainFile) (s : Session) : Prop where
  work : AtWork other image path [] s
  own_eq : s.own other image = p
  fit : s.Fit
  held_eq : s.store.held = []
  capacity_eq : s.store.pool.capacity = max frames 1
  writable : ∀ k, s.store.pool.isDirty k = true → ¬s.store.Unwritable k
  paged : (s.store.files.disk.image image).Paged

namespace Session.Serves

variable {other : Nat → ImageId} {image : ImageId} {path : Path} {frames n : Nat}
  {p p' : PlainFile} {s s' : Session} {α : Type}

/-- A pool has a frame at least. -/
theorem one_le_frames (frames : Nat) : 1 ≤ max frames 1 := Nat.le_max_right frames 1

theorem whole (h : s.Serves other image path frames p) : p.Whole := h.own_eq ▸ h.work.whole

theorem pinCount_eq (h : s.Serves other image path frames p) (k : PageKey) :
    s.store.pool.pinCount k = 0 := by
  rw [h.work.good.sound.coherent.pins_eq, h.held_eq]
  rfl

theorem roomy (h : s.Serves other image path frames p) (hn : n ≤ max frames 1) :
    s.store.Roomy n := by
  refine ⟨?_, h.writable⟩
  rw [Pool.pinnedCount_eq_zero h.fit.tidy.distinct h.pinCount_eq, Nat.zero_add, h.capacity_eq]
  exact hn

theorem entire (h : s.Serves other image path frames p) (hpages : p.header.pages < noPage) :
    s.Entire (standFor other image s.file.handle) [] p :=
  ⟨h.work.good, h.own_eq, h.whole, hpages⟩

/-- **The session goes on serving** whatever its file becomes. -/
theorem became (h : s.Serves other image path frames p)
    (hbecame : Session.Became (standFor other image s.file.handle) [] s p' s')
    (hsteady : s.Steady s') (hwhole : p'.Whole) : s'.Serves other image path frames p' where
  work := (h.work.became hbecame hwhole).1
  own_eq := (h.work.became hbecame hwhole).2
  fit := hsteady.fit
  held_eq := by
    have hpins := hsteady.onward.pins_eq
    rw [h.held_eq] at hpins
    exact List.map_eq_nil_iff.mp hpins
  capacity_eq := hsteady.onward.capacity_eq.trans h.capacity_eq
  writable :=
    (hsteady.roomy h.fit (fun _ => h.roomy (Nat.zero_le _)) hbecame.good.opened).writable
  paged := hsteady.onward.files.paged _ h.paged

/-- **An operation does to the file what it does to the plain file**, or it fails and the
file is what it was. If there are as many frames as it pins pages, it fails only if the
plain operation does. -/
theorem ends_does (h : s.Serves other image path frames p) (hpages : p.header.pages < noPage)
    {x : RecordM α} {m : PlainM α}
    (hdoes : Does (standFor other image s.file.handle) [] [] p x m s)
    (hbalanced : Balanced (n ≤ max frames 1) n x) (hgrows : PlainFile.Grows m) :
    Ends x s (fun a s' => ∃ p', m p = .ok a p' ∧ s'.Serves other image path frames p')
      (fun e s' => s'.Serves other image path frames p ∧
        (e.IsError ∨ ∃ p', m p = .error e p') ∧
        (n ≤ max frames 1 → ∃ p', m p = .error e p')) := by
  have hentire := h.entire hpages
  refine Ends.imp (Ends.and hdoes (hbalanced s h.fit fun hn _ => h.roomy hn)) ?_ ?_
  · rintro a s' ⟨⟨p', hm, hbecame, -⟩, hsteady⟩
    rw [hentire.plain_eq] at hm
    have hwhole := (hgrows.of_ok h.whole.toSized hm).whole h.whole
    exact ⟨p', hm, h.became hbecame hsteady hwhole⟩
  · rintro e s' ⟨⟨hbecame, -, hreason⟩, hfails⟩
    rw [hentire.plain_eq] at hreason
    refine ⟨h.became hbecame hfails.steady h.whole, hreason.imp_left fun hpool => ?_, fun hn => ?_⟩
    · obtain ⟨e, rfl, -⟩ := hpool.wantOfPage (h.whole.count ▸ hpages)
      trivial
    · exact hreason.resolve_left (hentire.not_poolFailure hbecame (hfails.full hn))

/-- **What the plain file answers and does not change**, the session answers, since one frame
is enough for it. -/
theorem ends_answers (h : s.Serves other image path frames p) (hpages : p.header.pages < noPage)
    {x : RecordM α} {m : PlainM α}
    (hdoes : Does (standFor other image s.file.handle) [] [] p x m s)
    (hbalanced : Balanced (1 ≤ max frames 1) 1 x) (hgrows : PlainFile.Grows m) {a : α}
    (hanswer : m p = .ok a p) :
    Ends x s (fun v s' => v = a ∧ s'.Serves other image path frames p) (fun _ _ => False) := by
  refine (h.ends_does hpages hdoes hbalanced hgrows).imp ?_ ?_
  · rintro v s' ⟨p', hm, hserves⟩
    rw [hanswer] at hm
    cases hm
    exact ⟨rfl, hserves⟩
  · rintro e s' ⟨-, -, hfailed⟩
    obtain ⟨p', hm⟩ := hfailed (one_le_frames frames)
    rw [hanswer] at hm
    cases hm

/-- **An operation answers as the keyed store does**, as long as links can name the pages of
the file. What keeps it from that is a want of frames, and then it fails. -/
theorem ends_agreeing (h : s.Serves other image path frames p) {k : KeyedStore}
    (hpages : p.header.pages < noPage) {x : RecordM α} {m : PlainM α} {a : KeyedM α}
    (hdoes : Does (standFor other image s.file.handle) [] [] p x m s)
    (hbalanced : Balanced (n ≤ max frames 1) n x) (hgrows : PlainFile.Grows m)
    (hagrees : Agrees p k m a) :
    Ends x s
      (fun v s' => ∃ p', m p = .ok v p' ∧ s'.Serves other image path frames p' ∧
        ∃ k', a k = .ok v k' ∧ Represents p' k')
      (fun e s' => s'.Serves other image path frames p ∧ e.IsError ∧
        (n ≤ max frames 1 → ∃ e', a k = .error e' k)) := by
  have hrefused : ∀ {e p'}, m p = .error e p' → e.IsError ∧ ∃ e', a k = .error e' k := by
    intro e p' hm
    obtain ⟨e', k', ha, rfl, rfl⟩ := (hagrees.of_error hm).exists_error
    exact ⟨trivial, e', ha⟩
  refine (h.ends_does hpages hdoes hbalanced hgrows).imp ?_ ?_
  · rintro v s' ⟨p', hm, hserves⟩
    obtain ⟨_, k', ha, rfl, hfollows⟩ := (hagrees.of_ok hm).exists_ok
    exact ⟨p', hm, hserves, k', ha, hfollows.represents⟩
  · rintro e s' ⟨hserves, hcause, hfailed⟩
    refine ⟨hserves, hcause.elim id fun ⟨p', hm⟩ => (hrefused hm).1, fun hn => ?_⟩
    obtain ⟨p', hm⟩ := hfailed hn
    exact (hrefused hm).2

/-! ## The end of the command -/

/-- What the disk carries of a file that was written back, when the store has come to its
end. -/
theorem carries_shutdown {store : Store} {imageOf : Nat → ImageId} {holds : List Hold}
    (hs : Coherent imageOf holds store) (hid : ∀ h ∈ store.held, h.pin.id < store.nextPin)
    (hstands : imageOf s.file.handle = image)
    (hpins : ∀ k, k.file = s.file.handle → store.pool.pinCount k = 0)
    (hdirty : ∀ j, store.pool.isDirty j = true → store.Unwritable j →
      ∀ k, k.file = s.file.handle → store.pool.isDirty k = false)
    (hleads : store.files.disk.Leads path image)
    (hplain : ({ s with store } : Session).plain imageOf = p)
    (hpaged : (store.files.disk.image image).Paged) : store.shutdown.Carries path image p := by
  obtain ⟨hentries, hkeeps⟩ := Session.keeps_shutdown (s := { s with store }) hs hpins hdirty
  rw [hplain, hstands] at hkeeps
  have htidy : store.Tidy := ⟨hs.files, hs.distinct, hid⟩
  refine ⟨hleads.congr hentries, hkeeps, ?_⟩
  exact Store.shutdown_of_ends (fun d => (d.image image).Paged)
    ((htidy.ends_flushAll (P := fun _ => True)).imp (fun _ _ h => h.files.paged _ hpaged)
      fun _ _ h => h.files.paged _ hpaged)

/-- **A file that is left open is written back** as the store comes to its end. -/
theorem shutdown (h : s.Serves other image path frames p) :
    s.store.shutdown.Carries path image p :=
  carries_shutdown (s := s) h.work.good.sound.coherent h.work.good.sound.id_lt standFor_self
    (fun k _ => h.pinCount_eq k) (fun j hj hfar => absurd hfar (h.writable j hj)) h.work.leads
    h.own_eq h.paged

/-- **The file can be closed**, and then the disk carries it to the end of the store. -/
theorem ends_close (h : s.Serves other image path frames p) :
    Ends s.file.close s.store (fun _ t => t.shutdown.Carries path image p) (fun _ _ => False) := by
  have hpins : ∀ k, k.file = s.file.handle → s.store.pool.pinCount k = 0 := fun k _ =>
    h.pinCount_eq k
  refine ((SlottedFile.ends_close h.work.good h.own_eq h.whole hpins).and
    (h.fit.ends_close hpins)).imp ?_ ?_
  · rintro _ t ⟨hclosed, s₁, honward, rfl⟩
    obtain ⟨hsound, hleads, -⟩ := h.work.closed hclosed
    refine carries_shutdown (s := s) hclosed.sound.coherent hclosed.sound.id_lt standFor_self
      (fun k hk => Pool.pinCount_of_frame?_none (hclosed.out k hk))
      (fun _ _ _ k hk => Pool.isDirty_of_frame?_none (hclosed.out k hk)) hleads ?_
      (honward.files.paged _ h.paged)
    exact (Session.plain_congr hclosed.picture).trans h.own_eq
  · -- it fails only if the file is too long, and then it could not be worked on
    rintro e t ⟨hfar, -⟩
    have hheader : s.file.header = p.header := congrArg PlainFile.header h.own_eq
    refine absurd h.fit.reach (Nat.not_le.2 ?_)
    rwa [hheader, ← h.whole.count]

end Session.Serves

end SlottedFile
