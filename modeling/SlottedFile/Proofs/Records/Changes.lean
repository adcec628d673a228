import SlottedFile.Proofs.Plain.Altering
import SlottedFile.Proofs.Records.Calls

/-!
# What a call changes

A call is about one record at most, which it is given or which it answers
(`RecordCall.Own`). As long as no client writes into the pages itself, a call leaves
every other record of the file alone, fills only what was free, and lets no link lead
out of the file (`RecordCall.altered_plain`). It does not overrun, whatever is in the
pages.
-/

namespace SlottedFile

namespace RecordCall

/-- **The record that a call is about**, which it is given or which it answers. -/
def Own : RecordCall → RecordReply → RecordId → Prop
  | insert _, .inserted given, id => id = given
  | insertAt given _, _, id => id = given
  | delete given, _, id => id = given
  | update given _, _, id => id = given
  | _, _, _ => False

/-- **The place that a call fills.** -/
def fills? : RecordCall → RecordReply → Option RecordId
  | insert _, .inserted id => some id
  | insertAt id _, _ => some id
  | _, _ => none

/-- Whether a call leaves it to the file what is written into its pages. -/
def LeavesBytes : RecordCall → Prop
  | write _ _ => False
  | _ => True

/-- Whether the page that a call is to put on the free list is one of the file. -/
def Inside (p : PlainFile) : RecordCall → Prop
  | releasePage pin => pin.key.page < p.header.pages
  | _ => True

end RecordCall

section Plain

variable {α β : Type} {p : PlainFile}

/-- A reply tells no more than what an operation comes to. -/
theorem ends_map {ε σ : Type} {x : EStateM ε σ β} {f : β → α} {s : σ} {good : α → σ → Prop}
    {bad : ε → σ → Prop} :
    Ends (do return f (← x)) s good bad ↔ Ends x s (fun b s' => good (f b) s') bad :=
  ends_bind

/-- **What a reply may tell of a file**: the other records are as they were, and what
is filled was free. -/
def RecordCall.Told (call : RecordCall) (p : PlainFile) (r : RecordReply) (p' : PlainFile) : Prop :=
  p.Altered (call.Own r) p' ∧ ∀ id ∈ call.fills? r, id.slot < p.layout.recordsPerPage ∧
    (id.page < p.header.pages → (p.data id.page).occupied id.slot = false)

/-- What is told by the items of a scan is told by those that it is cut short to. -/
theorem RecordReply.CutShort.told {bad : RecordError → Prop} {full r : RecordReply}
    (h : full.CutShort bad r) {call : RecordCall} {p' : PlainFile} (htold : call.Told p full p') :
    call.Told p r p' := by
  cases h with
  | items hbad => cases call <;> exact htold

/-- A call that only looks. -/
theorem PlainFile.Looks.told {m : PlainM β} (hm : p.Looks m) (hsized : p.Sized) {call : RecordCall}
    {f : β → RecordReply} (hnone : ∀ b, call.fills? (f b) = none) :
    Ends (do return f (← m)) p (call.Told p) fun e _ => e.IsError := by
  rw [ends_map]
  refine Ends.imp hm ?_ fun _ _ h => h.2
  rintro b _ rfl
  refine ⟨.refl hsized, ?_⟩
  rw [hnone]
  exact nofun

/-- A call that fills no place. -/
theorem PlainFile.told_of_altered {m : PlainM β} {call : RecordCall} {f : β → RecordReply}
    (hm : Ends m p (fun b p' => p.Altered (call.Own (f b)) p') fun e _ => e.IsError)
    (hnone : ∀ b, call.fills? (f b) = none) :
    Ends (do return f (← m)) p (call.Told p) fun e _ => e.IsError := by
  rw [ends_map]
  refine hm.imp (fun b _ h => ⟨h, ?_⟩) fun _ _ h => h
  rw [hnone]
  exact nofun

/-- **Every call leaves the other records alone**, and what it fills was free. -/
theorem RecordCall.altered_plain (hsized : p.Sized) {call : RecordCall} (hleaves : call.LeavesBytes)
    (hinside : call.Inside p) : Ends call.plain p (call.Told p) fun e _ => e.IsError := by
  cases call with
  | insert record =>
    refine ends_map.mpr ((PlainFile.altered_insert hsized record).imp ?_ fun _ _ h => h)
    rintro id p' ⟨haltered, hslot, hfree⟩
    refine ⟨haltered, ?_⟩
    rintro _ ⟨⟩
    exact ⟨hslot, hfree⟩
  | insertAt id record =>
    refine (ends_map (f := fun _ => RecordReply.done)).mpr
      ((PlainFile.altered_insertAt hsized id record).imp ?_ fun _ _ h => h)
    rintro _ p' ⟨haltered, -, hslot, hfree⟩
    refine ⟨haltered, ?_⟩
    rintro _ ⟨⟩
    exact ⟨hslot, fun _ => hfree⟩
  | delete id =>
    exact PlainFile.told_of_altered (f := fun _ => .done) (PlainFile.altered_delete hsized id)
      fun _ => rfl
  | update id record =>
    exact PlainFile.told_of_altered (f := fun _ => .done) (PlainFile.altered_update hsized id record)
      fun _ => rfl
  | get id => exact (PlainFile.looks_get hsized id).told hsized fun _ => rfl
  | scan => exact ⟨.refl hsized, nofun⟩
  | first => exact (PlainFile.looks_seek hsized 0 0).told hsized fun _ => rfl
  | next id => exact (PlainFile.looks_seek hsized id.page (id.slot + 1)).told hsized fun _ => rfl
  | newPage =>
    exact PlainFile.told_of_altered
      ((PlainFile.altered_newPage hsized).imp (fun _ _ h => h.1 _) fun _ _ h => h) fun _ => rfl
  | freePage =>
    exact PlainFile.told_of_altered
      ((PlainFile.altered_freePage hsized).imp (fun _ _ h => h.1 _) fun _ _ h => h) fun _ => rfl
  | pinPage page =>
    exact (PlainFile.looks_checkPage page).told (f := fun _ => .page page) hsized fun _ => rfl
  | unpin pin => exact ⟨.refl hsized, nofun⟩
  | write pin bytes => exact hleaves.elim
  | releasePage pin =>
    exact PlainFile.told_of_altered (f := fun _ => .done)
      ((PlainFile.altered_releasePage hsized hinside).imp (fun _ _ h => h _) fun _ _ h => h)
      fun _ => rfl
  | flush => exact ⟨(PlainFile.Altered.refl hsized).withFreeHead fun hlinked => hlinked.head_lt, nofun⟩

/-- **A call that fails leaves every record alone.** -/
theorem RecordCall.altered_left (hsized : p.Sized) (call : RecordCall) :
    p.Altered (fun _ => False) (call.left p) := by
  by_cases hflush : call = .flush
  · subst hflush
    exact (PlainFile.Altered.refl hsized).withFreeHead fun hlinked => hlinked.head_lt
  · rw [left_of_ne p hflush]
    exact .refl hsized

/-- A call that writes into a page does not fail. -/
theorem RecordCall.isError_of_plain (hsized : p.Sized) {call : RecordCall} (hinside : call.Inside p)
    {e : Fault RecordError} {p' : PlainFile} (hplain : call.plain p = .error e p') : e.IsError := by
  by_cases hleaves : call.LeavesBytes
  · exact (altered_plain hsized hleaves hinside).of_error hplain
  · cases call with
    | write pin bytes => cases hplain
    | _ => exact absurd trivial hleaves

/-- What a place of a file holds: whether it is occupied, and its bytes. -/
def PlainFile.entry (p : PlainFile) (id : RecordId) : Except Overrun (Bool × List UInt8) := do
  let occupied ← p.layout.isOccupied (p.page id.page) id.slot
  return (occupied, ← p.layout.slot (p.page id.page) id.slot)

theorem PlainFile.entry_eq (hfits : p.layout.Fits) {id : RecordId}
    (hslot : id.slot < p.layout.recordsPerPage) :
    p.entry id = .ok ((p.data id.page).occupied id.slot, (p.data id.page).slot id.slot) := by
  unfold entry
  rw [PageLayout.isOccupied_eq hfits hslot, PageLayout.slot_eq hfits hslot]
  rfl

/-- **The other places hold what they held.** -/
theorem PlainFile.Altered.entry_eq {own : RecordId → Prop} {p' : PlainFile} (h : p.Altered own p')
    (hsized : p.Sized) {id : RecordId} (hpage : id.page < p.header.pages)
    (hslot : id.slot < p.header.recordsPerPage) (hown : ¬own id) :
    ∃ entry, p.entry id = .ok entry ∧ p'.entry id = .ok entry := by
  have hslot' : id.slot < p'.layout.recordsPerPage := by
    rw [h.grown.layout_eq]
    exact hslot
  refine ⟨_, PlainFile.entry_eq hsized.fits hslot, ?_⟩
  rw [PlainFile.entry_eq h.grown.sized.fits hslot', h.occupied_eq id hpage hown,
    h.slot_eq id hpage hown]

end Plain

section Sessions

variable {imageOf : Nat → ImageId} {raw : List Hold} {s : Session}

/-- A page that has a pin is one that the file has. -/
theorem Session.Good.page_lt (hs : s.Good imageOf raw) {pin : Pin} (hpin : s.store.Holds pin)
    (hfile : pin.key.file = s.file.handle) : pin.key.page < (s.plain imageOf).count := by
  obtain ⟨_, hmem⟩ := hpin.mem_holders raw
  have hinside := hs.sound.coherent.inside (hs.sound.coherent.held _ hmem)
  rw [hfile] at hinside
  exact hinside

theorem RecordCall.Allowed.inside (hs : s.Good imageOf raw) (hsized : (s.plain imageOf).Sized)
    {call : RecordCall} (hallowed : call.Allowed s) : call.Inside (s.plain imageOf) := by
  cases call with
  | releasePage pin => exact Nat.lt_of_lt_of_eq (hs.page_lt hallowed.1 hallowed.2) hsized.count
  | insert | insertAt | delete | update | get | scan | first | next | newPage | freePage | pinPage
  | unpin | write | flush => trivial

end Sessions

end SlottedFile
