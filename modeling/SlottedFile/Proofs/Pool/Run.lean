import Mathlib.Logic.Relation
import SlottedFile.Proofs.Pool.Handles

/-!
# The pool over whole runs

A client of the pool holds pins and writes through them. It keeps to three
rules: it fetches only pages that are there, it reports a page dirty when it
gives back a pin through which it wrote, and it discards a file only when
nothing pins one of its pages. Files are opened and closed meanwhile, and one
that was closed is not opened again – no two handles stand for one image.

Under these rules no call of the pool changes the content of a page, whether it
succeeds or fails, and whoever fetches a page sees what was last written to it
(`pool_coherent`).

Several clients can work on one store. The rules of a run are therefore stated
for one client among the holders of `rest`, which may change only the files that
are `mine`, and the files of the others are spared (`PoolStep.preserves`).
-/

namespace SlottedFile

/-- **A client of the pool**: the pins it holds, and the bytes that were last
written to each page. -/
structure Client where
  holds : List Hold
  last : PageKey → Block

/-- **A call of the pool.** -/
inductive PoolCall where
  | fetch (key : PageKey)
  | newPage (file : Nat)
  | unpin (hold : Hold) (dirty : Bool)
  | markDirty (key : PageKey)
  | flushPage (key : PageKey)
  | flushFile (file : Nat)
  | flushAll
  | evict (key : PageKey)
  | discardFile (file : Nat)

/-- **What a call gives back.** -/
inductive PoolReply where
  | pinned (key : PageKey) (frame : FrameId)
  | out (answer : Bool)
  | done

namespace PoolCall

/-- Make a call. -/
def run : PoolCall → StoreM FileError PoolReply
  | fetch key => do return .pinned key (← Store.fetch key)
  | newPage file => do
    let (key, frame) ← Store.newPage file
    return .pinned key frame
  | unpin hold dirty => do
    Store.unpin hold.key dirty
    return .done
  | markDirty key => do
    Store.markDirty key
    return .done
  | flushPage key => do
    Store.flushPage key
    return .done
  | flushFile file => do
    Store.flushFile file
    return .done
  | flushAll => do
    Store.flushAll
    return .done
  | evict key => do return .out (← Store.evict key)
  | discardFile file => do
    Store.discardFile file
    return .done

/-- **Whether a client may make a call.** A pin is given back by its holder, who
reports what was written; to give back a pin that nobody holds is refused. -/
def Allowed (mine : Nat → Prop) (s : Store) (c : Client) : PoolCall → Prop
  | fetch key => ∀ o, s.files.table.byHandle? key.file = some o →
      key.page < (s.files.disk.image o.image).pages
  | newPage file => mine file
  | unpin hold dirty =>
      hold ∈ c.holds ∧ (hold.wrote = true → dirty = true) ∨ s.pool.pinCount hold.key = 0
  | discardFile file => ∀ key, key.file = file → s.pool.pinCount key = 0
  | _ => True

end PoolCall

namespace Client

/-- The client after a call has returned. -/
def after (c : Client) : PoolCall → PoolReply → Client
  | _, .pinned key frame => { c with holds := ⟨key, frame, false⟩ :: c.holds }
  | .unpin hold _, _ => { c with holds := c.holds.erase hold }
  | _, _ => c

/-- The client after it has written through a pin. -/
def wrote (c : Client) (h : Hold) (b : Block) : Client where
  holds := ⟨h.key, h.frame, true⟩ :: c.holds.erase h
  last := Function.update c.last h.key b

end Client

/-- **One step of a run.** -/
inductive PoolStep (imageOf : Nat → ImageId) (mine : Nat → Prop) :
    Store × Client → Store × Client → Prop
  | returned {s s' : Store} {c : Client} {call : PoolCall} {r : PoolReply}
      (hallowed : call.Allowed mine s c) (hrun : call.run s = .ok r s') :
      PoolStep imageOf mine (s, c) (s', c.after call r)
  | failed {s s' : Store} {c : Client} {call : PoolCall} {e : Fault FileError}
      (hallowed : call.Allowed mine s c) (hrun : call.run s = .error e s') :
      PoolStep imageOf mine (s, c) (s', c)
  | wrote {s : Store} {c : Client} {h : Hold} (b : Block) (hmem : h ∈ c.holds)
      (hmine : mine h.key.file) :
      PoolStep imageOf mine (s, c)
        ({ s with frames := s.frames.setIfInBounds h.frame b }, c.wrote h b)
  | opened {s s' : Store} {c : Client} {path : Path} {h : Nat}
      (hrun : Store.onFiles (Files.openFile path) s = .ok h s')
      (himage : ∀ o, s'.files.table.byHandle? h = some o → o.image = imageOf h) :
      PoolStep imageOf mine (s, c) (s', c)
  | closed {s s' : Store} {c : Client} {h : Nat} (hmine : mine h)
      (hrun : Store.onFiles (Files.closeFile h) s = .ok () s') :
      PoolStep imageOf mine (s, c) (s', c)

/-- **What a client leaves alone**: the files that are not its own, and the pins
that are held as values. -/
structure Spared (imageOf : Nat → ImageId) (mine : Nat → Prop) (s s' : Store) : Prop where
  entries : s'.files.disk.entries = s.files.disk.entries
  next_le : s.files.table.next ≤ s'.files.table.next
  opened : ∀ {h o}, ¬mine h → s.files.table.byHandle? h = some o →
    s'.files.table.byHandle? h = some o
  header : (s'.picture imageOf).header = (s.picture imageOf).header
  pages : ∀ {h}, ¬mine h →
    (s'.picture imageOf).pages (imageOf h) = (s.picture imageOf).pages (imageOf h)
  content : ∀ {k : PageKey}, ¬mine k.file → s'.content imageOf k = s.content imageOf k
  held : s'.held = s.held
  nextPin : s'.nextPin = s.nextPin

namespace Spared

variable {imageOf : Nat → ImageId} {mine : Nat → Prop} {s s' s'' : Store}

theorem refl (s : Store) : Spared imageOf mine s s where
  entries := rfl
  next_le := Nat.le_refl _
  opened := fun _ h => h
  header := rfl
  pages := fun _ => rfl
  content := fun _ => rfl
  held := rfl
  nextPin := rfl

theorem trans (h : Spared imageOf mine s s') (h' : Spared imageOf mine s' s'') :
    Spared imageOf mine s s'' where
  entries := h'.entries.trans h.entries
  next_le := Nat.le_trans h.next_le h'.next_le
  opened := fun hmine ho => h'.opened hmine (h.opened hmine ho)
  header := h'.header.trans h.header
  pages := fun hmine => (h'.pages hmine).trans (h.pages hmine)
  content := fun hmine => (h'.content hmine).trans (h.content hmine)
  held := h'.held.trans h.held
  nextPin := h'.nextPin.trans h.nextPin

theorem of_quiet (h : Store.Quiet imageOf s s') : Spared imageOf mine s s' where
  entries := congrArg Picture.entries h.picture
  next_le := Nat.le_of_eq (congrArg FileTable.next h.table_eq.symm)
  opened := fun _ ho => by rw [h.table_eq, ho]
  header := congrArg Picture.header h.picture
  pages := fun _ => h.pages_eq _
  content := fun _ => congrFun h.content_eq _
  held := h.held
  nextPin := h.nextPin

end Spared

section Steps

variable {imageOf : Nat → ImageId} {mine : Nat → Prop} {rest : List Hold} {s s' : Store}
  {c c' : Client}

/-- **What a call does to a store**: nothing shows, except that a file may have
grown by the page of zeros that was asked for. -/
structure CallDone (imageOf : Nat → ImageId) (mine : Nat → Prop) (rest : List Hold) (s : Store)
    (c : Client) (call : PoolCall) (r : PoolReply) (s' : Store) : Prop where
  coherent : Coherent imageOf ((c.after call r).holds ++ rest) s'
  spared : Spared imageOf mine s s'
  table_eq : s'.files.table = s.files.table
  content : s'.content imageOf = s.content imageOf
  zero : ∀ {file}, call = .newPage file → ∃ f,
    r = .pinned ⟨file, (s.picture imageOf).pages (imageOf file)⟩ f ∧
      s.content imageOf ⟨file, (s.picture imageOf).pages (imageOf file)⟩ = Buffer.zero blockSize

theorem CallDone.of_settled {call : PoolCall} {r : PoolReply}
    (h : Store.Settled imageOf ((c.after call r).holds ++ rest) s s')
    (hcall : ∀ file, call ≠ .newPage file) : CallDone imageOf mine rest s c call r s' where
  coherent := h.coherent
  spared := .of_quiet h.quiet
  table_eq := h.quiet.table_eq
  content := h.quiet.content_eq
  zero := fun heq => absurd heq (hcall _)

/-- **The step lemma of calls**: a call that is allowed keeps the store coherent
and the content of every page. -/
theorem PoolCall.ends_run (hs : Coherent imageOf (c.holds ++ rest) s) {call : PoolCall}
    (hallowed : call.Allowed mine s c) :
    Ends call.run s (fun r s' => CallDone imageOf mine rest s c call r s')
      (fun _ s' => Store.Settled imageOf (c.holds ++ rest) s s') := by
  cases call with
  | fetch k =>
    refine ends_bind.mpr ((Store.ends_fetch hs hallowed).imp ?_ fun _ _ h => h.1)
    rintro f s' hset
    exact .of_settled hset nofun
  | newPage file =>
    refine ends_bind.mpr ((Store.ends_newPage hs file).imp ?_ fun _ _ h => h.1)
    rintro ⟨k, f⟩ s' ⟨hk, hzero, -, hs', hpic, hheld, hnext⟩
    obtain rfl : k = ⟨file, (s.picture imageOf).pages (imageOf file)⟩ := hk
    have hcontent : s'.content imageOf = s.content imageOf := congrArg Picture.content hpic
    have htable : s'.files.table = s.files.table := congrArg Picture.table hpic
    refine ⟨hs', ?_, htable, hcontent, fun heq => ?_⟩
    · constructor
      case entries => exact congrArg Picture.entries hpic
      case next_le => exact Nat.le_of_eq (congrArg FileTable.next htable.symm)
      case opened =>
        intro h o _ ho
        rw [htable, ho]
      case header => rw [hpic]
      case pages =>
        intro h hmine
        refine (congrFun (congrArg Picture.pages hpic) _).trans (Function.update_of_ne ?_ _ _)
        intro heq
        rw [hs.injective heq] at hmine
        exact hmine hallowed
      case content =>
        intro k _
        rw [hcontent]
      case held => exact hheld
      case nextPin => exact hnext
    · cases heq
      exact ⟨f, rfl, hzero⟩
  | unpin h dirty =>
    rcases hallowed with ⟨hmem, hdirty⟩ | hpins
    · refine ends_bind.mpr ((Store.ends_unpin hs (List.mem_append_left _ hmem) hdirty).imp ?_
        fun _ _ h => h.elim)
      rintro _ s' hset
      rw [List.erase_append_left _ hmem] at hset
      exact .of_settled hset nofun
    · refine ends_bind.mpr ((Store.ends_unpin_of_pinCount hpins dirty).imp
        (fun _ _ h => h.elim) ?_)
      rintro e _ ⟨rfl, -⟩
      exact .refl hs
  | markDirty k =>
    refine ends_bind.mpr ((Store.ends_markDirty hs k).imp
      (fun _ _ hset => .of_settled hset nofun) ?_)
    rintro e _ ⟨rfl, -⟩
    exact .refl hs
  | flushPage k =>
    refine ends_bind.mpr ((Store.ends_flushPage hs k).imp
      (fun _ _ h => .of_settled h.1 nofun) ?_)
    rintro e _ ⟨rfl, -⟩
    exact .refl hs
  | flushFile file =>
    exact ends_bind.mpr ((Store.ends_flushFile hs file).imp
      (fun _ _ h => .of_settled h.1 nofun) fun _ _ h => h.1)
  | flushAll =>
    exact ends_bind.mpr ((Store.ends_flushAll hs).imp
      (fun _ _ h => .of_settled h.1 nofun) fun _ _ h => h.1)
  | evict k =>
    refine ends_bind.mpr ((Store.ends_evict hs k).imp
      (fun _ _ h => .of_settled h.1 nofun) ?_)
    rintro e _ ⟨rfl, -⟩
    exact .refl hs
  | discardFile file =>
    exact ends_bind.mpr ((Store.ends_discardFile hs hallowed).imp
      (fun _ _ h => .of_settled h.1 nofun) fun _ _ h => h.1)

/-- A change of the table of open files spares whatever stays open. -/
theorem Spared.withTable {t : FileTable} (hnext : s.files.table.next ≤ t.next)
    (hopened : ∀ {h o}, ¬mine h → s.files.table.byHandle? h = some o → t.byHandle? h = some o) :
    Spared imageOf mine s (s.withTable t) where
  entries := rfl
  next_le := hnext
  opened := hopened
  header := rfl
  pages := fun _ => rfl
  content := fun _ => rfl
  held := rfl
  nextPin := rfl

/-- Opening a file spares every file that is open. -/
theorem Spared.add (hs : s.files.Sound) (place : Place) (i : ImageId) :
    Spared imageOf mine s (s.withTable (s.files.table.add place i)) := by
  refine .withTable (Nat.le_succ _) fun {h o} _ ho => ?_
  rw [FileTable.byHandle?_add, if_neg (Nat.ne_of_lt (hs.lt_next ho)), ho]

theorem Spared.erase {h : Nat} (hmine : mine h) :
    Spared imageOf mine s (s.withTable (s.files.table.erase h)) := by
  refine .withTable (Nat.le_refl _) fun {j o} hj ho => ?_
  rw [FileTable.byHandle?_erase, if_neg, ho]
  rintro rfl
  exact hj hmine

/-- **The step lemma**: what one client does keeps the store coherent for all of
them, spares the files that are not its own, and keeps the client's account of
what was last written. -/
theorem PoolStep.preserves (hs : Coherent imageOf (c.holds ++ rest) s)
    (hstep : PoolStep imageOf mine (s, c) (s', c')) :
    Coherent imageOf (c'.holds ++ rest) s' ∧ Spared imageOf mine s s' ∧
      (s.content imageOf = c.last → s'.content imageOf = c'.last) := by
  cases hstep with
  | @returned _ _ _ call r hallowed hrun =>
    have hdone := (PoolCall.ends_run hs hallowed).of_ok hrun
    have hlast : (c.after call r).last = c.last := by
      unfold Client.after
      split <;> rfl
    exact ⟨hdone.coherent, hdone.spared, fun h => by rw [hdone.content, h, hlast]⟩
  | failed hallowed hrun =>
    have hset := (PoolCall.ends_run hs hallowed).of_error hrun
    exact ⟨hset.coherent, .of_quiet hset.quiet, fun h => by rw [hset.quiet.content_eq, h]⟩
  | @wrote _ _ h b hmem hmine =>
    have hperm : ((c.wrote h b).holds ++ rest).Perm
        (⟨h.key, h.frame, true⟩ :: (c.holds ++ rest).erase h) := by
      rw [List.erase_append_left _ hmem]
      exact .refl _
    set t : Store := { s with frames := s.frames.setIfInBounds h.frame b } with ht
    obtain ⟨hs', hpic⟩ := hs.write (List.mem_append_left _ hmem) hperm
      (show t.files = s.files from rfl) rfl rfl
    have hcontent : t.content imageOf = Function.update (s.content imageOf) h.key b :=
      congrArg Picture.content hpic
    refine ⟨hs', ?_, fun hlast => ?_⟩
    · constructor
      case entries => exact congrArg Picture.entries hpic
      case next_le => exact Nat.le_refl _
      case opened => exact fun _ ho => ho
      case header => rw [hpic]
      case pages =>
        intro j _
        rw [hpic]
      case content =>
        intro k hk
        refine (congrFun hcontent k).trans (Function.update_of_ne ?_ _ _)
        rintro rfl
        exact hk hmine
      case held => rfl
      case nextPin => rfl
    · rw [hcontent, hlast]
      rfl
  | opened hrun himage =>
    obtain ⟨place, -, ⟨-, rfl⟩ | ⟨i, hclosed, hnode, -, rfl, rfl⟩⟩ :=
      (Store.ends_openFile s _).of_ok hrun
    · exact ⟨hs, .refl _, fun h => h⟩
    · have hnew : (s.files.table.add place i).byHandle? s.files.table.next =
          some ⟨s.files.table.next, place, i⟩ := FileTable.byHandle?_add.trans (if_pos rfl)
      exact ⟨hs.openFile hclosed hnode (himage _ hnew), .add hs.files _ _, fun h => h⟩
  | @closed _ _ _ h hmine hrun =>
    have hclosed : Ends (Store.onFiles (Files.closeFile h)) s
        (fun _ s' => s' = s.withTable (s.files.table.erase h)) (fun _ _ => True) :=
      Store.ends_closeFile.mpr ⟨fun _ => rfl, fun _ => trivial⟩
    obtain rfl := hclosed.of_ok hrun
    exact ⟨hs.closeFile h, .erase hmine, fun h => h⟩

/-- No step opens more files than may be. -/
theorem PoolStep.within (hs : Coherent imageOf (c.holds ++ rest) s)
    (hstep : PoolStep imageOf mine (s, c) (s', c')) (h : s.files.table.Within) :
    s'.files.table.Within := by
  cases hstep with
  | returned hallowed hrun =>
    rw [((PoolCall.ends_run hs hallowed).of_ok hrun).table_eq]
    exact h
  | failed hallowed hrun =>
    rw [((PoolCall.ends_run hs hallowed).of_error hrun).quiet.table_eq]
    exact h
  | wrote b hmem hmine => exact h
  | opened hrun himage =>
    obtain ⟨place, -, ⟨-, rfl⟩ | ⟨i, -, -, hroom, -, rfl⟩⟩ :=
      (Store.ends_openFile s _).of_ok hrun
    · exact h
    · exact hroom
  | @closed _ _ _ handle hmine hrun =>
    have hclosed : Ends (Store.onFiles (Files.closeFile handle)) s
        (fun _ s' => s' = s.withTable (s.files.table.erase handle)) (fun _ _ => True) :=
      Store.ends_closeFile.mpr ⟨fun _ => rfl, fun _ => trivial⟩
    obtain rfl := hclosed.of_ok hrun
    exact h.erase handle

/-- **The run lemma.** -/
theorem PoolStep.preserves_run (hs : Coherent imageOf (c.holds ++ rest) s)
    (hrun : Relation.ReflTransGen (PoolStep imageOf mine) (s, c) (s', c')) :
    Coherent imageOf (c'.holds ++ rest) s' ∧ Spared imageOf mine s s' ∧
      (s.content imageOf = c.last → s'.content imageOf = c'.last) := by
  generalize hend : (s', c') = sc at hrun
  induction hrun generalizing s' c' with
  | refl =>
    cases hend
    exact ⟨hs, .refl _, fun h => h⟩
  | @tail sc₁ _ _ hstep ih =>
    obtain ⟨s₁, c₁⟩ := sc₁
    subst hend
    obtain ⟨hs₁, hspared, hlast⟩ := ih rfl
    obtain ⟨hs', hspared', hlast'⟩ := hstep.preserves hs₁
    exact ⟨hs', hspared.trans hspared', fun h => hlast' (hlast h)⟩

end Steps

/-! ## From the start -/

/-- **A run of one client from the start**, with no file open and nothing
buffered. What was last written to a page is at first what its block holds. -/
inductive PoolReachable (imageOf : Nat → ImageId) (s : Store) (c : Client) : Prop
  | run (hinjective : Function.Injective imageOf) (disk : Disk) (capacity limit : Nat)
      (hrun : Relation.ReflTransGen (PoolStep imageOf fun _ => True)
        (Store.ofDisk disk capacity limit,
          { holds := [], last := (Store.ofDisk disk capacity limit).diskBlock imageOf }) (s, c))

/-- A store with nothing open is coherent. -/
theorem Coherent.ofDisk {imageOf : Nat → ImageId} (hinj : Function.Injective imageOf) (disk : Disk)
    (capacity limit : Nat) : Coherent imageOf [] (Store.ofDisk disk capacity limit) where
  injective := hinj
  files := .start disk limit
  stands := nofun
  distinct := List.nodup_nil
  frame_lt := nofun
  frame_inj := nofun
  issued := nofun
  inside := nofun
  near := nofun
  pins_eq := fun _ => rfl
  held := nofun
  clean := nofun

section Reachable

variable {imageOf : Nat → ImageId} {s s' : Store} {c : Client}

theorem PoolReachable.coherent (h : PoolReachable imageOf s c) :
    Coherent imageOf c.holds s ∧ s.content imageOf = c.last := by
  obtain ⟨hinj, disk, capacity, limit, hrun⟩ := h
  have hstart : Coherent imageOf ([] ++ []) (Store.ofDisk disk capacity limit) :=
    .ofDisk hinj disk capacity limit
  obtain ⟨hs, -, hlast⟩ := PoolStep.preserves_run hstart hrun
  rw [List.append_nil] at hs
  exact ⟨hs, hlast rfl⟩

/-- **Nothing is lost when a page leaves the pool**: its block holds the bytes of
the frame it had. -/
def NothingLost (imageOf : Nat → ImageId) (s s' : Store) : Prop :=
  ∀ k f, s.pool.frame? k = some f → s'.pool.frame? k = none →
    s'.diskBlock imageOf k = s.frame f

theorem nothingLost_of_content (h : s'.content imageOf = s.content imageOf) :
    NothingLost imageOf s s' := by
  intro k f hk hk'
  rw [← Store.content_of_frame? imageOf hk, ← Store.content_of_frame?_none imageOf hk', h]

/-- **The pool is coherent over every run.** The content of every page is what
was last written to it. A page that is not dirty, and through no pin of which
anything was written that is not reported, equals its block. And no call that is
allowed changes the content of a page, whether it returns or fails: what leaves
the pool is in its block, a page that is pinned shows what was last written to
it, and a new page is the one behind the last and shows zeros. -/
theorem pool_coherent (h : PoolReachable imageOf s c) :
    s.content imageOf = c.last ∧
      (∀ k f, s.pool.frame? k = some f → s.pool.isDirty k = false →
        (∀ g ∈ c.holds, g.key = k → g.wrote = false) → s.frame f = s.diskBlock imageOf k) ∧
      ∀ call : PoolCall, call.Allowed (fun _ => True) s c →
        Ends call.run s
          (fun r s' => s'.content imageOf = s.content imageOf ∧ NothingLost imageOf s s' ∧
            (∀ k f, r = .pinned k f → s'.frame f = c.last k) ∧
            ∀ file, call = .newPage file → ∃ f,
              r = .pinned ⟨file, (s.picture imageOf).pages (imageOf file)⟩ f ∧
                s'.frame f = Buffer.zero blockSize)
          (fun _ s' => s'.content imageOf = s.content imageOf ∧ NothingLost imageOf s s') := by
  obtain ⟨hs, hlast⟩ := h.coherent
  refine ⟨hlast, fun k f hk hdirty hwrote => hs.clean hk hdirty hwrote, fun call hallowed => ?_⟩
  rw [← List.append_nil c.holds] at hs
  refine (PoolCall.ends_run hs hallowed).imp ?_ ?_
  · intro r s' hdone
    have hshown : ∀ k f, r = .pinned k f → s'.frame f = s.content imageOf k := by
      rintro k f rfl
      have hheld : (⟨k, f, false⟩ : Hold) ∈ (c.after call (.pinned k f)).holds ++ [] := by
        cases call <;> exact List.mem_cons_self
      rw [← hdone.content]
      exact hdone.coherent.frame_eq hheld
    refine ⟨hdone.content, nothingLost_of_content hdone.content, fun k f hr => ?_,
      fun file hcall => ?_⟩
    · rw [hshown k f hr, hlast]
    · obtain ⟨f, hr, hzero⟩ := hdone.zero hcall
      exact ⟨f, hr, (hshown _ f hr).trans hzero⟩
  · intro _ s' hset
    exact ⟨hset.quiet.content_eq, nothingLost_of_content hset.quiet.content_eq⟩

/-- A disk with one file, of one page of zeros. -/
def oneFile : Disk :=
  (Disk.empty.addFile (Disk.home ++ ["f"])).setImage 0 (Image.empty.setSize (2 * blockSize))

/-- A store with one frame, in which that file is open. -/
def oneOpened : Store :=
  (Store.ofDisk oneFile 1 1).withTable (({ limit := 1 } : FileTable).add (Disk.home ++ ["f"]) 0)

theorem oneOpened_reachable :
    PoolReachable id oneOpened ⟨[], (Store.ofDisk oneFile 1 1).diskBlock id⟩ := by
  have hrun : Store.onFiles (Files.openFile ⟨["f"]⟩) (Store.ofDisk oneFile 1 1) =
      .ok 0 oneOpened := rfl
  refine .run Function.injective_id oneFile 1 1 (.single (.opened hrun fun o ho => ?_))
  cases ho
  rfl

/-- A page of sevens. -/
def sevens : Block := Vector.replicate blockSize 7

/-- The page of that file after it was fetched, -/
def sevensFetched : Store := stateAfter (PoolCall.fetch ⟨0, 0⟩).run oneOpened

/-- after its frame was filled, -/
def sevensWritten : Store :=
  { sevensFetched with frames := sevensFetched.frames.setIfInBounds 0 sevens }

/-- and after it was given back as dirty. -/
def sevensDirty : Store := stateAfter (PoolCall.unpin ⟨⟨0, 0⟩, 0, true⟩ true).run sevensWritten

/-- It has gone to make room for a new page, -/
def sevensReplaced : Store := stateAfter (PoolCall.newPage 0).run sevensDirty

/-- which may go as well. -/
def sevensEvicted : Store := stateAfter (PoolCall.unpin ⟨⟨0, 1⟩, 1, false⟩ false).run sevensReplaced

theorem sevensEvicted_reachable : PoolReachable id sevensEvicted
    ⟨[], Function.update ((Store.ofDisk oneFile 1 1).diskBlock id) ⟨0, 0⟩ sevens⟩ := by
  obtain ⟨hinj, disk, capacity, limit, hopened⟩ := oneOpened_reachable
  have hfetch : (PoolCall.fetch ⟨0, 0⟩).run oneOpened = .ok (.pinned ⟨0, 0⟩ 0) sevensFetched := rfl
  have hback : (PoolCall.unpin ⟨⟨0, 0⟩, 0, true⟩ true).run sevensWritten = .ok .done sevensDirty :=
    rfl
  have hnew : (PoolCall.newPage 0).run sevensDirty = .ok (.pinned ⟨0, 1⟩ 1) sevensReplaced := rfl
  have hback' : (PoolCall.unpin ⟨⟨0, 1⟩, 1, false⟩ false).run sevensReplaced =
      .ok .done sevensEvicted := rfl
  have hinside : (PoolCall.fetch ⟨0, 0⟩).Allowed (fun _ => True) oneOpened
      ⟨[], (Store.ofDisk oneFile 1 1).diskBlock id⟩ := by
    intro o ho
    cases ho
    decide
  have hfilled := (hopened.tail (.returned hinside hfetch)).tail
    (.wrote sevens List.mem_cons_self trivial)
  have hdirty := hfilled.tail (.returned
    (show (PoolCall.unpin ⟨⟨0, 0⟩, 0, true⟩ true).Allowed _ _ _ from
      Or.inl ⟨List.mem_cons_self, fun _ => rfl⟩) hback)
  have hreplaced := hdirty.tail (.returned
    (show (PoolCall.newPage 0).Allowed _ _ _ from trivial) hnew)
  have hevicted := hreplaced.tail (.returned
    (show (PoolCall.unpin ⟨⟨0, 1⟩, 1, false⟩ false).Allowed _ _ _ from
      Or.inl ⟨List.mem_cons_self, nofun⟩) hback')
  exact .run hinj disk capacity limit hevicted

/-- **A page that was written and evicted is read again as it was written.** -/
theorem pool_coherent_sevensEvicted :
    sevensEvicted.pool.frame? ⟨0, 0⟩ = none ∧
      ∃ s, (PoolCall.fetch ⟨0, 0⟩).run sevensEvicted = .ok (.pinned ⟨0, 0⟩ 2) s ∧
        s.frame 2 = sevens := by
  have hfetch : (PoolCall.fetch ⟨0, 0⟩).run sevensEvicted =
      .ok (.pinned ⟨0, 0⟩ 2) (stateAfter (PoolCall.fetch ⟨0, 0⟩).run sevensEvicted) := rfl
  have hinside : (PoolCall.fetch ⟨0, 0⟩).Allowed (fun _ => True) sevensEvicted
      ⟨[], Function.update ((Store.ofDisk oneFile 1 1).diskBlock id) ⟨0, 0⟩ sevens⟩ := by
    intro o ho
    cases ho
    decide
  obtain ⟨-, -, hshown, -⟩ := ((pool_coherent sevensEvicted_reachable).2.2 _ hinside).of_ok hfetch
  refine ⟨rfl, _, hfetch, (hshown _ _ rfl).trans ?_⟩
  dsimp only
  rw [Function.update_self]

end Reachable

end SlottedFile
