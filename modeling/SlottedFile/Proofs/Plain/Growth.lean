import SlottedFile.Proofs.Plain.Steps

/-!
# How a plain file grows

A file of the size that its header tells stays so whatever is done to it: its
layout never changes, its pages are never fewer, and its header is written down
whenever it changes. An operation of which that is true is said to grow the file
(`PlainFile.Grows`), and what is made of such steps grows it too.
-/

namespace SlottedFile.PlainFile

variable {α β : Type} {p p' p'' : PlainFile}

/-- **A file that came of another one.** -/
structure Grown (p p' : PlainFile) : Prop where
  sized : p'.Sized
  layout_eq : p'.layout = p.layout
  pages_le : p.header.pages ≤ p'.header.pages
  written : p.Whole → p'.stored = Buffer.ofList blockSize p'.header.encode

namespace Grown

theorem refl (hsized : p.Sized) : Grown p p :=
  ⟨hsized, rfl, Nat.le_refl _, fun hwhole => hwhole.written⟩

/-- What comes of a file that is all there is all there. -/
theorem whole (h : Grown p p') (hwhole : p.Whole) : p'.Whole := ⟨h.sized, h.written hwhole⟩

theorem trans (h : Grown p p') (h' : Grown p' p'') : Grown p p'' where
  sized := h'.sized
  layout_eq := h'.layout_eq.trans h.layout_eq
  pages_le := Nat.le_trans h.pages_le h'.pages_le
  written := fun hwhole => h'.written (h.whole hwhole)

theorem withPage (hsized : p.Sized) (page : Nat) (b : Block) : Grown p (p.withPage page b) where
  sized := ⟨hsized.fits, hsized.count⟩
  layout_eq := rfl
  pages_le := Nat.le_refl _
  written := fun hwhole => hwhole.written

theorem withFreeHead (hsized : p.Sized) (head : Option Nat) :
    Grown p (p.withHeader { p.header with freeHead := head }) where
  sized := ⟨hsized.fits, hsized.count⟩
  layout_eq := rfl
  pages_le := Nat.le_refl _
  written := fun _ => rfl

theorem added (hsized : p.Sized) (b : Block) : Grown p (p.added b) where
  sized := ⟨hsized.fits, congrArg Nat.succ hsized.count⟩
  layout_eq := rfl
  pages_le := Nat.le_succ _
  written := fun _ => rfl

end Grown

/-- **An operation that grows a file** of the size that its header tells. -/
def Grows (m : PlainM α) : Prop :=
  ∀ p, p.Sized → Ends m p (fun _ p' => Grown p p') (fun _ _ => True)

theorem Grows.of_ok {m : PlainM α} (h : Grows m) (hsized : p.Sized) {a : α} (hm : m p = .ok a p') :
    Grown p p' :=
  (h p hsized).of_ok hm

theorem Reads.grows {m : PlainM α} (h : Reads m) : Grows m := by
  intro p hsized
  refine (h p).imp ?_ fun _ _ _ => trivial
  rintro _ _ rfl
  exact .refl hsized

theorem Grows.bind {m : PlainM β} {k : β → PlainM α} (hm : Grows m) (hk : ∀ b, Grows (k b)) :
    Grows (m >>= k) := by
  intro p hsized
  refine Ends.bind (hm p hsized) fun b p₁ hgrown => ?_
  exact (hk b p₁ hgrown.sized).imp (fun _ _ hgrown' => hgrown.trans hgrown') fun _ _ h => h

theorem grows_get_bind {k : PlainFile → PlainM α} (hk : ∀ p, Grows (k p)) :
    Grows (EStateM.get >>= k) :=
  fun p hsized => hk p p hsized

theorem grows_ite {c : Prop} [Decidable c] {m n : PlainM α} (hm : Grows m) (hn : Grows n) :
    Grows (if c then m else n) := by
  split
  · exact hm
  · exact hn

theorem grows_pure (a : α) : Grows (pure a) := (reads_pure a).grows

theorem grows_fail (e : RecordError) : Grows (fail e : PlainM α) := (reads_fail e).grows

theorem grows_edit (page : Nat) (e : PageLayout → Buffer.Edit blockSize α) :
    Grows (edit page e) := by
  intro p hsized
  unfold Ends edit
  cases e p.layout (p.page page) with
  | ok a b => exact .withPage hsized page b
  | error o b => trivial

theorem grows_setFreeHead (head : Option Nat) : Grows (setFreeHead head) :=
  fun _ hsized => .withFreeHead hsized head

theorem grows_flush : Grows flush := fun _ hsized => .withFreeHead hsized _

/-- What is refused under a condition goes on otherwise. -/
theorem grows_unless {c : Prop} [Decidable c] {e : RecordError} {m : PlainM α} (hm : Grows m) :
    Grows (if c then m else do (fail e : PlainM PUnit); m) :=
  grows_ite hm ((grows_fail e).bind fun _ => hm)

theorem grows_refuse {c : Prop} [Decidable c] {e : RecordError} {m : PlainM α} (hm : Grows m) :
    Grows (if c then do (fail e : PlainM PUnit); m else m) :=
  grows_ite ((grows_fail e).bind fun _ => hm) hm

/-! ## The operations -/

theorem grows_link (page : Nat) : Grows (link page) :=
  grows_get_bind fun _ => (grows_edit _ _).bind fun _ => grows_setFreeHead _

theorem grows_newPage : Grows newPage := by
  intro p hsized
  refine (ends_newPage hsized).imp ?_ fun _ _ h => h.elim
  rintro _ _ ⟨-, b, rfl, -⟩
  exact .added hsized b

theorem grows_freePage : Grows freePage := by
  refine grows_get_bind fun p => ?_
  split
  · exact grows_newPage
  · exact (reads_checkPage _).grows.bind fun _ => grows_pure _

theorem grows_releasePage (page : Nat) : Grows (releasePage page) :=
  (reads_canLink page).grows.bind fun _ => grows_ite (grows_link page) (grows_pure _)

theorem grows_fillAndUnlink (id : RecordId) (data : List UInt8) (position : FreePosition) :
    Grows (fillAndUnlink id data position) := by
  refine (grows_edit _ _).bind fun r => grows_ite ?_ (grows_pure _)
  cases position with
  | head => exact grows_setFreeHead _
  | after prev => exact grows_edit _ _
  | absent => exact grows_pure _

theorem grows_insert (data : List UInt8) : Grows (insert data) := by
  refine (reads_checkSize data).grows.bind fun _ => grows_freePage.bind fun page =>
    (reads_look _ _).grows.bind fun slot? => ?_
  cases slot? with
  | none => exact grows_fail _
  | some slot => exact (grows_fillAndUnlink _ _ _).bind fun _ => grows_pure _

theorem grows_insertAt (id : RecordId) (data : List UInt8) : Grows (insertAt id data) := by
  refine (reads_checkSize data).grows.bind fun _ => (reads_checkPage id.page).grows.bind fun _ =>
    grows_get_bind fun p => grows_unless ?_
  refine (reads_look _ _).grows.bind fun occupied => grows_refuse ?_
  refine (reads_look _ _).grows.bind fun header => grows_get_bind fun p =>
    grows_ite ((reads_locate _).grows.bind fun position => ?_) (grows_fillAndUnlink _ _ _)
  cases position with
  | after prev => exact (reads_checkPage prev).grows.bind fun _ => grows_fillAndUnlink _ _ _
  | head => exact grows_fillAndUnlink _ _ _
  | absent => exact grows_fillAndUnlink _ _ _

theorem grows_delete (id : RecordId) : Grows (delete id) := by
  refine (reads_checkPage id.page).grows.bind fun _ => (reads_isLive id).grows.bind fun live =>
    grows_unless ?_
  refine (reads_look _ _).grows.bind fun wasFull => ?_
  have hrest : ∀ relink : Bool, Grows (do
      edit id.page (·.vacateSlot id.slot)
      if relink then link id.page) := fun relink =>
    (grows_edit _ _).bind fun _ => grows_ite (grows_link _) (grows_pure _)
  exact grows_ite ((reads_canLink _).grows.bind hrest) ((grows_pure _).bind hrest)

theorem grows_update (id : RecordId) (data : List UInt8) : Grows (update id data) :=
  (reads_checkSize data).grows.bind fun _ => (reads_checkPage id.page).grows.bind fun _ =>
    (reads_isLive id).grows.bind fun _ => grows_unless (grows_edit _ _)

end SlottedFile.PlainFile
