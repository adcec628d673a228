import SlottedFile.Proofs.Records.Tasks

/-!
# What goes unnoticed

A computation is unaware of a change of the state (`Unaware`) if it comes to the same answer
after the change as before it, and the change is still there when it has ended. The rules
below take a computation apart step by step.

No task for a record file is aware of the number of the handle that will be given out next
(`RecordTask.unaware`): handles are only looked up, and the one exception is the opening of
a file. A file that was opened in between, and closed again, has left no other trace.
-/

namespace SlottedFile

variable {ε ε' σ τ α β ι : Type}

/-! ## Unaware computations -/

/-- The same end of a computation, with the state changed. -/
def mapState (g : σ → σ) : EStateM.Result ε σ α → EStateM.Result ε σ α
  | .ok a s => .ok a (g s)
  | .error e s => .error e (g s)

/-- **A computation that is not aware of a change of the state.** -/
def Unaware (g : σ → σ) (x : EStateM ε σ α) : Prop := ∀ s, x (g s) = mapState g (x s)

section Rules

variable {g : σ → σ}

theorem unaware_pure (a : α) : Unaware g (pure a : EStateM ε σ α) := fun _ => rfl

theorem unaware_throw (e : ε) : Unaware g (throw e : EStateM ε σ α) := fun _ => rfl

theorem unaware_fail {e : ε} : Unaware g (fail e : EStateM (Fault ε) σ α) := fun _ => rfl

theorem Unaware.bind {x : EStateM ε σ β} {f : β → EStateM ε σ α} (hx : Unaware g x)
    (hf : ∀ b, Unaware g (f b)) : Unaware g (x >>= f) := by
  intro s
  simp only [Bind.bind, EStateM.bind]
  rw [hx]
  cases x s with
  | ok b s' => exact hf b s'
  | error e s' => rfl

/-- What follows may depend on the state as far as the change does not show. -/
theorem unaware_get_bind {f : σ → EStateM ε σ α} (hsame : ∀ s, f (g s) = f s)
    (hf : ∀ s, Unaware g (f s)) : Unaware g (get >>= f) := by
  intro s
  show f (g s) (g s) = _
  rw [hsame]
  exact hf s s

theorem unaware_modify {f : σ → σ} (h : ∀ s, f (g s) = g (f s)) :
    Unaware g (modify f : EStateM ε σ PUnit) := by
  intro s
  show EStateM.Result.ok _ (f (g s)) = _
  rw [h]
  rfl

theorem unaware_ite {c : Prop} [Decidable c] {x y : EStateM ε σ α} (hx : Unaware g x)
    (hy : Unaware g y) : Unaware g (if c then x else y) := by
  split
  · exact hx
  · exact hy

/-- What is refused under a condition goes on otherwise. -/
theorem unaware_refuse {c : Prop} [Decidable c] {e : ε} {x : EStateM (Fault ε) σ α}
    (hx : Unaware g x) : Unaware g (if c then do (fail e : EStateM (Fault ε) σ PUnit); x else x) :=
  unaware_ite (unaware_fail.bind fun _ => hx) hx

theorem unaware_unless {c : Prop} [Decidable c] {e : ε} {x : EStateM (Fault ε) σ α}
    (hx : Unaware g x) : Unaware g (if c then x else do (fail e : EStateM (Fault ε) σ PUnit); x) :=
  unaware_ite hx (unaware_fail.bind fun _ => hx)

theorem unaware_liftOverrun (x : Except Overrun α) :
    Unaware g (liftOverrun x : EStateM (Fault ε) σ α) := by
  cases x with
  | ok a => exact unaware_pure a
  | error o => exact unaware_throw _

/-- A change of the whole that is one of the part does not show in the rest. -/
theorem unaware_onPart {g' : τ → τ} {get : σ → τ} {put : τ → σ → σ} {widen : ε' → ε}
    {x : EStateM (Fault ε') τ α} (hget : ∀ s, get (g s) = g' (get s))
    (hput : ∀ t s, put (g' t) (g s) = g (put t s)) (hx : Unaware g' x) :
    Unaware g (onPart get put widen x) := by
  intro s
  unfold onPart
  rw [hget, hx]
  cases x (get s) with
  | ok a t => exact congrArg (EStateM.Result.ok a) (hput t s)
  | error e t => exact congrArg (EStateM.Result.error _) (hput t s)

theorem unaware_widenError {widen : ε' → ε} {x : EStateM (Fault ε') σ α} (hx : Unaware g x) :
    Unaware g (widenError widen x) :=
  unaware_onPart (fun _ => rfl) (fun _ _ => rfl) hx

theorem unaware_attempt {x : EStateM (Fault ε) σ α} (hx : Unaware g x) :
    Unaware g (attempt x) := by
  intro s
  unfold attempt
  rw [hx]
  rcases x s with ⟨a, s'⟩ | ⟨e | o, s'⟩ <;> rfl

theorem unaware_onFailure {cleanUp : EStateM (Fault ε) σ Unit} {x : EStateM (Fault ε) σ α}
    (hclean : Unaware g cleanUp) (hx : Unaware g x) : Unaware g (onFailure cleanUp x) := by
  intro s
  unfold onFailure
  rw [hx]
  cases x s with
  | ok a s' => rfl
  | error e s' =>
    dsimp only [mapState]
    rw [hclean]
    cases cleanUp s' <;> rfl

theorem unaware_tryFinally {x : EStateM ε σ α} {fin : EStateM ε σ Unit} (hx : Unaware g x)
    (hfin : Unaware g fin) : Unaware g (tryFinally x fin) := by
  intro s
  simp only [tryFinally, tryFinally', Functor.map, EStateM.map]
  rw [hx]
  cases x s with
  | ok a s' =>
    dsimp only [mapState]
    rw [hfin]
    cases fin s' <;> rfl
  | error e s' =>
    dsimp only [mapState]
    rw [hfin]
    cases fin s' <;> rfl

theorem unaware_forM {f : ι → EStateM ε σ PUnit} (hf : ∀ i, Unaware g (f i)) (l : List ι) :
    Unaware g (l.forM f) := by
  induction l with
  | nil => exact unaware_pure _
  | cons i l ih => exact (hf i).bind fun _ => ih

theorem unaware_mapM {f : ι → EStateM ε σ α} (hf : ∀ i, Unaware g (f i)) (l : List ι) :
    Unaware g (l.mapM f) := by
  induction l with
  | nil => exact unaware_pure _
  | cons i l ih =>
    rw [List.mapM_cons]
    exact (hf i).bind fun _ => ih.bind fun _ => unaware_pure _

end Rules

/-! ## The next handle -/

/-- The files with another handle to give out next. -/
def Files.renext (n : Nat) (fs : Files) : Files := { fs with table := { fs.table with next := n } }

/-- The store with another handle to give out next. -/
def Store.renext (n : Nat) (s : Store) : Store := { s with files := s.files.renext n }

/-- The session with another handle to give out next. -/
def Session.renext (n : Nat) (s : Session) : Session := { s with store := s.store.renext n }

namespace Files

variable {n : Nat}

theorem unaware_opened (h : Nat) : Unaware (renext n) (opened h) := by
  refine unaware_get_bind (fun _ => rfl) fun fs => ?_
  cases fs.table.byHandle? h with
  | some o => exact unaware_pure o
  | none => exact unaware_fail

theorem unaware_image (o : OpenFile) : Unaware (renext n) (image o) := fun _ => rfl

theorem unaware_setImage (o : OpenFile) (img : Image) : Unaware (renext n) (setImage o img) :=
  fun _ => rfl

theorem unaware_setSize (o : OpenFile) (size : Nat) : Unaware (renext n) (setSize o size) :=
  unaware_refuse ((unaware_image o).bind fun _ => unaware_setImage o _)

theorem unaware_readBlock (h block m : Nat) : Unaware (renext n) (readBlock h block m) := by
  unfold readBlock
  split
  · refine (unaware_opened h).bind fun o => (unaware_liftOverrun _).bind fun off => ?_
    exact unaware_refuse ((unaware_image o).bind fun _ => unaware_pure _)
  · exact unaware_fail

theorem unaware_writeBlock {m : Nat} (h block : Nat) (data : Buffer m) :
    Unaware (renext n) (writeBlock h block data) := by
  unfold writeBlock
  split
  · refine (unaware_opened h).bind fun o => (unaware_liftOverrun _).bind fun off =>
      (unaware_liftOverrun _).bind fun required => (unaware_image o).bind fun img => ?_
    have hwrite : Unaware (renext n) (do
        if off > maxOffset then fail (.io .invalidArgument)
        setImage o ((← image o).setBlock block (data.cast ‹_›)) : FilesM Unit) :=
      unaware_refuse ((unaware_image o).bind fun _ => unaware_setImage o _)
    exact unaware_ite ((unaware_setSize o _).bind fun _ => hwrite) hwrite
  · exact unaware_fail

theorem unaware_readPage (h page m : Nat) : Unaware (renext n) (readPage h page m) :=
  (unaware_liftOverrun _).bind fun _ => unaware_readBlock h _ m

theorem unaware_writePage {m : Nat} (h page : Nat) (data : Buffer m) :
    Unaware (renext n) (writePage h page data) :=
  (unaware_liftOverrun _).bind fun _ => unaware_writeBlock h _ data

theorem unaware_syncFile (h : Nat) : Unaware (renext n) (syncFile h) :=
  (unaware_opened h).bind fun _ => unaware_pure _

theorem unaware_writeHeader (h : Nat) (bytes : List UInt8) :
    Unaware (renext n) (writeHeader h bytes) :=
  unaware_refuse ((unaware_writeBlock h 0 _).bind fun _ => unaware_syncFile h)

theorem unaware_pageCount (h : Nat) : Unaware (renext n) (pageCount h) :=
  (unaware_opened h).bind fun o => (unaware_image o).bind fun _ => unaware_pure _

theorem unaware_allocatePage (h : Nat) : Unaware (renext n) (allocatePage h) :=
  (unaware_pageCount h).bind fun _ => (unaware_opened h).bind fun o =>
    (unaware_liftOverrun _).bind fun _ => (unaware_setSize o _).bind fun _ => unaware_pure _

theorem unaware_closeFile (h : Nat) : Unaware (renext n) (closeFile h) :=
  (unaware_opened h).bind fun _ => unaware_modify fun _ => rfl

end Files

namespace Store

variable {n : Nat}

theorem unaware_onFiles {x : FilesM α} (hx : Unaware (Files.renext n) x) :
    Unaware (renext n) (onFiles x) :=
  unaware_onPart (fun _ => rfl) (fun _ _ => rfl) hx

theorem unaware_report (e : Event) : Unaware (renext n) (report e : StoreM ε Unit) :=
  unaware_modify fun _ => rfl

theorem unaware_modifyPool (f : Pool → Pool) : Unaware (renext n) (modifyPool f : StoreM ε Unit) :=
  unaware_modify fun _ => rfl

theorem unaware_newFrame (b : Block) : Unaware (renext n) (newFrame b : StoreM ε FrameId) :=
  fun _ => rfl

/-! ### The pool -/

theorem unaware_flushPage (k : PageKey) : Unaware (renext n) (flushPage k) := by
  refine unaware_get_bind (fun _ => rfl) fun s => ?_
  cases s.pool.find? k with
  | none => exact unaware_pure _
  | some e =>
    refine unaware_ite (unaware_get_bind (fun _ => rfl) fun s => ?_) (unaware_pure _)
    exact (unaware_onFiles (Files.unaware_writePage k.file k.page _)).bind fun _ =>
      unaware_modifyPool _

theorem unaware_makeRoom : Unaware (renext n) makeRoom := by
  refine unaware_get_bind (fun _ => rfl) fun s => unaware_ite ?_ (unaware_pure _)
  refine unaware_get_bind (fun _ => rfl) fun s => ?_
  cases s.pool.victim? with
  | none => exact unaware_get_bind (fun _ => rfl) fun _ => unaware_fail
  | some k => exact (unaware_flushPage k).bind fun _ => unaware_modifyPool _

theorem unaware_fetch (k : PageKey) : Unaware (renext n) (fetch k) := by
  have hload : Unaware (renext n) (load k) :=
    unaware_makeRoom.bind fun _ => (unaware_onFiles (Files.unaware_readPage _ _ _)).bind fun b =>
      (unaware_newFrame b).bind fun _ => unaware_modifyPool _
  unfold fetch
  refine unaware_get_bind (fun _ => rfl) fun s => unaware_ite ?_ (hload.bind fun _ => ?_)
  all_goals
    refine unaware_get_bind (fun _ => rfl) fun s => ?_
    cases s.pool.find? k with
    | none => exact unaware_fail
    | some e => exact (unaware_modifyPool _).bind fun _ => unaware_pure _

theorem unaware_newPage (h : Nat) : Unaware (renext n) (newPage h) :=
  unaware_makeRoom.bind fun _ => (unaware_onFiles (Files.unaware_allocatePage h)).bind fun _ =>
    (unaware_newFrame _).bind fun _ => (unaware_modifyPool _).bind fun _ =>
      (unaware_report _).bind fun _ => unaware_pure _

theorem unaware_unpin (k : PageKey) (dirty : Bool) : Unaware (renext n) (unpin k dirty) := by
  refine unaware_get_bind (fun _ => rfl) fun s => ?_
  cases s.pool.find? k with
  | none => exact unaware_fail
  | some e => exact unaware_refuse (unaware_modifyPool _)

theorem unaware_flushFile (h : Nat) : Unaware (renext n) (flushFile h) :=
  unaware_get_bind (fun _ => rfl) fun _ => (unaware_forM unaware_flushPage _).bind fun _ =>
    unaware_onFiles (Files.unaware_syncFile h)

theorem unaware_drop (k : PageKey) : Unaware (renext n) (drop k : StoreM ε Unit) := by
  refine unaware_get_bind (fun _ => rfl) fun s => ?_
  cases s.pool.find? k with
  | none => exact unaware_pure _
  | some e =>
    exact (unaware_modifyPool _).bind fun _ => unaware_ite (unaware_report _) (unaware_pure _)

theorem unaware_discardFile (h : Nat) : Unaware (renext n) (discardFile h) :=
  unaware_get_bind (fun _ => rfl) fun _ => (unaware_forM unaware_flushPage _).bind fun _ =>
    (unaware_forM unaware_drop _).bind fun _ => unaware_onFiles (Files.unaware_syncFile h)

/-! ### Pins -/

theorem unaware_hold (k : PageKey) (f : FrameId) (dirty : Bool) :
    Unaware (renext n) (hold k f dirty : StoreM ε Pin) := fun _ => rfl

theorem unaware_pinPage (h page : Nat) : Unaware (renext n) (pinPage h page) :=
  (unaware_fetch _).bind fun _ => unaware_hold _ _ _

theorem unaware_pinNewPage (h : Nat) : Unaware (renext n) (pinNewPage h) :=
  (unaware_newPage h).bind fun _ => unaware_hold _ _ _

theorem unaware_noteWrite (pin : Pin) : Unaware (renext n) (noteWrite pin : StoreM ε Unit) :=
  unaware_modify fun _ => rfl

theorem unaware_view (pin : Pin) (f : Block → Except Overrun α) :
    Unaware (renext n) (view pin f : StoreM ε α) :=
  unaware_get_bind (fun _ => rfl) fun _ => unaware_liftOverrun _

theorem unaware_edit (pin : Pin) (e : Buffer.Edit blockSize α) :
    Unaware (renext n) (edit pin e : StoreM ε α) := by
  refine (unaware_noteWrite pin).bind fun _ s => ?_
  unfold editFrame
  rw [show (s.renext n).frame pin.frame = s.frame pin.frame from rfl]
  cases e (s.frame pin.frame) <;> rfl

theorem unaware_release (pin : Pin) : Unaware (renext n) (release pin : StoreM ε Unit) := by
  refine unaware_get_bind (fun _ => rfl) fun s => ?_
  refine Unaware.bind (unaware_modify fun _ => rfl) fun _ s' => ?_
  rw [unaware_unpin]
  rcases unpin pin.key (s.wrote pin) s' with ⟨_, s''⟩ | ⟨e | o, s''⟩ <;> rfl

theorem unaware_withPin {take : StoreM ε Pin} {body : Pin → StoreM ε α}
    (htake : Unaware (renext n) take) (hbody : ∀ pin, Unaware (renext n) (body pin)) :
    Unaware (renext n) (withPin take body) :=
  htake.bind fun pin => unaware_tryFinally (hbody pin) (unaware_release pin)

end Store

/-! ## Record files -/

namespace RecordFile

variable {n : Nat} (f : RecordFile)

theorem unaware_passing {x : StoreM FileError α} (hx : Unaware (Store.renext n) x) :
    Unaware (Store.renext n) (passing x) := unaware_widenError hx

theorem unaware_pinPage (page : Nat) : Unaware (Store.renext n) (f.pinPage page) :=
  unaware_refuse (unaware_widenError (Store.unaware_pinPage f.handle page))

theorem unaware_withPage (page : Nat) {body : Pin → StoreM RecordError α}
    (hbody : ∀ pin, Unaware (Store.renext n) (body pin)) :
    Unaware (Store.renext n) (f.withPage page body) :=
  Store.unaware_withPin (f.unaware_pinPage page) hbody

theorem unaware_persistHeader : Unaware (Store.renext n) f.persistHeader :=
  unaware_passing (Store.unaware_onFiles (Files.unaware_writeHeader f.handle _))

theorem unaware_flush : Unaware (Store.renext n) f.flush :=
  f.unaware_persistHeader.bind fun _ => unaware_passing (Store.unaware_flushFile f.handle)

theorem unaware_checkSize (data : List UInt8) : Unaware (Store.renext n) (f.checkSize data) :=
  unaware_ite unaware_fail (unaware_pure _)

theorem unaware_get (id : RecordId) : Unaware (Store.renext n) (f.get id) := by
  refine f.unaware_withPage id.page fun pin => unaware_unless ?_
  exact (Store.unaware_view pin _).bind fun _ => unaware_unless (Store.unaware_view pin _)

theorem unaware_close : Unaware (Store.renext n) f.close := by
  refine (unaware_attempt f.unaware_persistHeader).bind fun persisted =>
    (unaware_passing (Store.unaware_discardFile f.handle)).bind fun _ =>
      (unaware_passing (Store.unaware_onFiles (Files.unaware_closeFile f.handle))).bind fun _ => ?_
  cases persisted with
  | ok _ => exact Store.unaware_report _
  | error e => exact unaware_fail

/-! ### The free list -/

theorem unaware_nextFree (page : Nat) : Unaware (Store.renext n) (f.nextFree page) :=
  f.unaware_withPage page fun pin => (Store.unaware_view pin _).bind fun _ => unaware_pure _

theorem unaware_locateFrom (page left : Nat) (prev current : Option Nat) :
    Unaware (Store.renext n) (f.locateFrom page left prev current) :=
  locateFrom_induction (motive := fun x => Unaware (Store.renext n) (x f)) (fun _ => unaware_pure _)
    unaware_fail (fun listed hrest => (f.unaware_nextFree listed).bind hrest) _ _ _

theorem unaware_locate (page : Nat) : Unaware (Store.renext n) (f.locate page) :=
  f.unaware_locateFrom page _ _ _

theorem unaware_canLink (page : Nat) : Unaware (Store.renext n) (f.canLink page) :=
  (f.unaware_locate page).bind fun _ => unaware_ite (unaware_pure _)
    ((Store.unaware_report _).bind fun _ => unaware_pure _)

/-! ### Scans and reports -/

theorem unaware_seekFrom (left page slot : Nat) :
    Unaware (Store.renext n) (Scan.seekFrom f left page slot) := by
  -- the induction is on the pages that are left
  induction left generalizing page slot with
  | zero => exact unaware_pure _
  | succ left ih =>
    refine (f.unaware_withPage page fun pin => Store.unaware_view pin _).bind ?_
    rintro (_ | hit)
    · exact ih _ _
    · exact unaware_pure _

theorem unaware_advance (scan : Scan) : Unaware (Store.renext n) (scan.advance f) := by
  unfold Scan.advance
  cases scan.position with
  | none => exact unaware_pure _
  | some id => exact (f.unaware_seekFrom _ _ _).bind fun _ => unaware_pure _

theorem unaware_next (scan : Scan) : Unaware (Store.renext n) (scan.next f) := by
  unfold Scan.next
  cases scan.pending with
  | some e => exact unaware_pure _
  | none =>
    cases scan.position with
    | none => exact unaware_pure _
    | some id =>
      refine (unaware_attempt (f.unaware_advance scan)).bind ?_
      rintro (e | scan') <;> exact unaware_pure _

theorem unaware_items : Unaware (Store.renext n) (Scan.items f) := by
  have hitems : ∀ bound scan, Unaware (Store.renext n) (Scan.itemsFrom f bound scan) := by
    intro bound
    -- the induction is on the items that are left
    induction bound with
    | zero => exact fun _ => unaware_pure _
    | succ bound ih =>
      intro scan
      refine (f.unaware_next scan).bind ?_
      rintro ⟨_ | item, scan'⟩
      · exact unaware_pure _
      · exact (ih scan').bind fun _ => unaware_pure _
  refine Unaware.bind ?_ fun scan => hitems _ scan
  exact (f.unaware_seekFrom _ _ _).bind fun _ => unaware_pure _

theorem unaware_inspect : Unaware (Store.renext n) f.inspect := by
  refine (unaware_mapM (fun page => ?_) _).bind fun _ => unaware_pure _
  exact f.unaware_withPage page fun pin => (Store.unaware_view pin _).bind fun _ =>
    (Store.unaware_view pin _).bind fun _ => unaware_pure _

theorem unaware_check : Unaware (Store.renext n) f.check :=
  f.unaware_inspect.bind fun _ => unaware_ite (unaware_pure _) unaware_fail

end RecordFile

/-! ## Sessions -/

namespace Session

variable {n : Nat}

theorem unaware_onStore {x : RecordFile → StoreM RecordError α}
    (hx : ∀ f, Unaware (Store.renext n) (x f)) : Unaware (renext n) (onStore x) := by
  intro s
  unfold onStore
  rw [show x (s.renext n).file (s.renext n).store = x s.file (s.store.renext n) from rfl, hx]
  cases x s.file s.store <;> rfl

theorem unaware_report (e : Event) : Unaware (renext n) (report e) :=
  unaware_onStore fun _ => Store.unaware_report e

theorem unaware_release (pin : Pin) : Unaware (renext n) (release pin) :=
  unaware_onStore fun _ => Store.unaware_release pin

theorem unaware_edit (pin : Pin) (e : PageLayout → Buffer.Edit blockSize α) :
    Unaware (renext n) (edit pin e) :=
  unaware_onStore fun _ => Store.unaware_edit pin _

theorem unaware_view (pin : Pin) (f : RecordFile → Block → Except Overrun α) :
    Unaware (renext n) (onStore fun r => Store.view pin (f r)) :=
  unaware_onStore fun _ => Store.unaware_view pin _

theorem unaware_pinPage (page : Nat) : Unaware (renext n) (pinPage page) :=
  unaware_onStore fun f => f.unaware_pinPage page

theorem unaware_withPin {take : RecordM Pin} {body : Pin → RecordM α}
    (htake : Unaware (renext n) take) (hbody : ∀ pin, Unaware (renext n) (body pin)) :
    Unaware (renext n) (withPin take body) :=
  htake.bind fun pin => unaware_tryFinally (hbody pin) (unaware_release pin)

theorem unaware_putHeader (f : FileHeader → FileHeader) :
    Unaware (renext n) (do modifyHeader f; persistHeader) :=
  Unaware.bind (unaware_modify fun _ => rfl) fun _ =>
    unaware_onStore fun f => f.unaware_persistHeader

theorem unaware_link (pin : Pin) : Unaware (renext n) (link pin) :=
  unaware_get_bind (fun _ => rfl) fun _ => (unaware_edit pin _).bind fun _ =>
    (unaware_putHeader _).bind fun _ => unaware_report _

theorem unaware_releasePage (pin : Pin) : Unaware (renext n) (releasePage pin) :=
  (unaware_onStore fun f => f.unaware_canLink pin.key.page).bind fun _ =>
    unaware_ite (unaware_link pin) (unaware_pure _)

theorem unaware_newPage : Unaware (renext n) newPage := by
  refine (unaware_onStore fun f => unaware_widenError (Store.unaware_pinNewPage f.handle)).bind
    fun pin => unaware_onFailure (unaware_release pin) ?_
  refine unaware_get_bind (fun _ => rfl) fun s => unaware_refuse ?_
  refine (unaware_edit pin _).bind fun _ => Unaware.bind (unaware_modify fun _ => rfl) fun _ => ?_
  exact (unaware_onStore fun f => f.unaware_persistHeader).bind fun _ =>
    (unaware_onStore fun _ => Store.unaware_noteWrite pin).bind fun _ =>
      (unaware_report _).bind fun _ => unaware_pure pin

theorem unaware_freePage : Unaware (renext n) freePage := by
  refine unaware_get_bind (fun _ => rfl) fun s => ?_
  cases s.file.header.freeHead with
  | none => exact unaware_newPage
  | some page => exact unaware_pinPage page

theorem unaware_checkSize (data : List UInt8) :
    Unaware (renext n) (onStore (·.checkSize data)) :=
  unaware_onStore fun f => f.unaware_checkSize data

theorem unaware_insert (data : List UInt8) : Unaware (renext n) (insert data) := by
  refine (unaware_checkSize data).bind fun _ => unaware_withPin unaware_freePage fun pin => ?_
  refine (unaware_view pin fun f => f.layout.firstFreeSlot).bind ?_
  rintro (_ | slot)
  · exact unaware_fail
  · refine (unaware_edit pin _).bind ?_
    rintro ⟨full, next⟩
    exact unaware_ite ((unaware_putHeader _).bind fun _ => (unaware_report _).bind fun _ =>
      unaware_pure _) (unaware_pure _)

theorem unaware_fillAndUnlink (pin : Pin) (id : RecordId) (data : List UInt8)
    (position : FreePosition) (before : Option Pin) :
    Unaware (renext n) (fillAndUnlink pin id data position before) := by
  refine (unaware_edit pin _).bind ?_
  rintro ⟨full, next⟩
  have hreports : ∀ e, Unaware (renext n) (do report e; report (.pageUnlisted id.page)) :=
    fun e => (unaware_report e).bind fun _ => unaware_report _
  refine unaware_ite ?_ (unaware_pure _)
  cases position with
  | head => exact (unaware_putHeader _).bind fun _ => unaware_report _
  | absent => exact hreports _
  | after page =>
    cases before with
    | none => exact hreports _
    | some prev => exact (unaware_edit prev _).bind fun _ => unaware_report _

theorem unaware_insertAt (id : RecordId) (data : List UInt8) :
    Unaware (renext n) (insertAt id data) := by
  refine (unaware_checkSize data).bind fun _ => unaware_withPin (unaware_pinPage id.page)
    fun pin => unaware_get_bind (fun _ => rfl) fun s => unaware_unless ?_
  refine (unaware_view pin fun f b => f.layout.isOccupied b id.slot).bind fun _ =>
    unaware_refuse ?_
  refine (unaware_view pin fun _ => PageHeader.decode).bind fun header => ?_
  refine unaware_ite ((unaware_onStore fun f => f.unaware_locate id.page).bind ?_)
    (unaware_fillAndUnlink pin id data _ _)
  rintro (_ | prev | _)
  · exact unaware_fillAndUnlink pin id data _ _
  · exact unaware_withPin (unaware_pinPage prev) fun _ => unaware_fillAndUnlink pin id data _ _
  · exact unaware_fillAndUnlink pin id data _ _

theorem unaware_isLive (pin : Pin) (id : RecordId) : Unaware (renext n) (isLive pin id) :=
  unaware_onStore fun _ => unaware_ite (Store.unaware_view pin _) (unaware_pure _)

theorem unaware_delete (id : RecordId) : Unaware (renext n) (delete id) := by
  refine unaware_withPin (unaware_pinPage id.page) fun pin => ?_
  refine (unaware_isLive pin id).bind fun _ => unaware_unless ?_
  refine (unaware_view pin fun f b => f.layout.isFull b).bind fun full => ?_
  have hrest : ∀ relink, Unaware (renext n) (do
      edit pin (·.vacateSlot id.slot)
      if relink = true then link pin else pure ()) := fun relink =>
    (unaware_edit pin _).bind fun _ => unaware_ite (unaware_link pin) (unaware_pure _)
  exact unaware_ite ((unaware_onStore fun f => f.unaware_canLink id.page).bind hrest)
    ((unaware_pure false).bind hrest)

theorem unaware_update (id : RecordId) (data : List UInt8) :
    Unaware (renext n) (update id data) := by
  refine (unaware_checkSize data).bind fun _ => unaware_withPin (unaware_pinPage id.page)
    fun pin => ?_
  exact (unaware_isLive pin id).bind fun _ => unaware_unless (unaware_edit pin _)

end Session

/-! ## Tasks -/

variable {n : Nat}

theorem PageChoice.unaware_take (which : PageChoice) : Unaware (Session.renext n) which.take := by
  cases which with
  | new => exact Session.unaware_newPage
  | free => exact Session.unaware_freePage
  | number page => exact Session.unaware_pinPage page

theorem RecordCall.unaware (call : RecordCall) : Unaware (Session.renext n) call.run := by
  have hdone : ∀ {x : RecordM Unit}, Unaware (Session.renext n) x →
      Unaware (Session.renext n) (do x; return .done : RecordM RecordReply) :=
    fun hx => hx.bind fun _ => unaware_pure _
  cases call with
  | insert record => exact (Session.unaware_insert record).bind fun _ => unaware_pure _
  | insertAt id record => exact hdone (Session.unaware_insertAt id record)
  | delete id => exact hdone (Session.unaware_delete id)
  | update id record => exact hdone (Session.unaware_update id record)
  | get id => exact (Session.unaware_onStore fun f => f.unaware_get id).bind fun _ => unaware_pure _
  | scan => exact (Session.unaware_onStore fun f => f.unaware_items).bind fun _ => unaware_pure _
  | first =>
    exact (Session.unaware_onStore fun f => (f.unaware_seekFrom _ _ _).bind fun _ =>
      unaware_pure _).bind fun _ => unaware_pure _
  | next id =>
    exact (Session.unaware_onStore fun f => f.unaware_advance _).bind fun _ => unaware_pure _
  | newPage => exact Session.unaware_newPage.bind fun _ => unaware_pure _
  | freePage => exact Session.unaware_freePage.bind fun _ => unaware_pure _
  | pinPage page => exact (Session.unaware_pinPage page).bind fun _ => unaware_pure _
  | unpin pin => exact hdone (Session.unaware_release pin)
  | write pin bytes => exact hdone (Session.unaware_edit pin _)
  | releasePage pin => exact hdone (Session.unaware_releasePage pin)
  | flush => exact hdone (Session.unaware_onStore fun f => f.unaware_flush)

/-- **No task is aware of the handle that comes next.** -/
theorem RecordTask.unaware (task : RecordTask) : Unaware (Session.renext n) task.run := by
  cases task with
  | call call => exact call.unaware.bind fun _ => unaware_pure _
  | touch which =>
    exact (Session.unaware_withPin which.unaware_take fun _ => unaware_pure _).bind
      fun _ => unaware_pure _
  | inspect =>
    exact (Session.unaware_onStore fun f => f.unaware_inspect).bind fun _ => unaware_pure _
  | check =>
    exact (Session.unaware_onStore fun f => f.unaware_check).bind fun _ => unaware_pure _

end SlottedFile
