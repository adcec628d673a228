import SlottedFile.Proofs.Pool.Operations
import SlottedFile.Store.Pin

/-!
# Pins as values

A store is sound (`Store.Sound`) if it is coherent, the pins that are held as
values counted among its pins, and if no two of these have the same number. A
pin that is held looks at the content of its page; a pin that is given back
leaves the other pins as they were. Giving back never fails.

What is done while a pin is held may note that its holder wrote. Two lists of
held pins that differ in nothing else are the same up to the pins that are named
(`SameHeld`).
-/

namespace SlottedFile

/-- A held pin as one of the pins that the pool counts. -/
def HeldPin.hold (h : HeldPin) : Hold := ⟨h.pin.key, h.pin.frame, h.dirty⟩

/-- A held pin with the note that its holder wrote, if its number is listed. -/
def HeldPin.noted (ids : List Nat) (h : HeldPin) : HeldPin :=
  if h.pin.id ∈ ids then { h with dirty := true } else h

/-- **The same pins are held**, up to the notes of those that are listed. -/
def SameHeld (ids : List Nat) (held held' : List HeldPin) : Prop :=
  held'.map (·.noted ids) = held.map (·.noted ids)

namespace SameHeld

variable {ids : List Nat} {held held' held'' : List HeldPin}

theorem refl (held : List HeldPin) : SameHeld ids held held := rfl

theorem of_eq (h : held' = held) : SameHeld ids held held' := h ▸ rfl

theorem trans (h : SameHeld ids held held') (h' : SameHeld ids held' held'') :
    SameHeld ids held held'' :=
  Eq.trans h' h

theorem noted_noted {ids' : List Nat} (hsub : ids ⊆ ids') (h : HeldPin) :
    (h.noted ids).noted ids' = h.noted ids' := by
  unfold HeldPin.noted
  by_cases hid : h.pin.id ∈ ids
  · rw [if_pos hid, if_pos (hsub hid), if_pos (hsub hid)]
  · rw [if_neg hid]

/-- To list more pins is to ask for less. -/
theorem mono {ids' : List Nat} (h : SameHeld ids held held') (hsub : ids ⊆ ids') :
    SameHeld ids' held held' := by
  have hmap : ∀ l : List HeldPin, (l.map (·.noted ids)).map (·.noted ids') = l.map (·.noted ids') :=
    fun l => by
      rw [List.map_map]
      exact List.map_congr_left fun h _ => noted_noted hsub h
  unfold SameHeld at h ⊢
  rw [← hmap held', h, hmap]

/-- A note about a listed pin. -/
theorem note (held : List HeldPin) (id : Nat) (hid : id ∈ ids) :
    SameHeld ids held (held.map fun h => if h.pin.id = id then { h with dirty := true } else h) := by
  unfold SameHeld
  rw [List.map_map]
  refine List.map_congr_left fun h _ => ?_
  show HeldPin.noted ids (if h.pin.id = id then { h with dirty := true } else h) = h.noted ids
  split
  · unfold HeldPin.noted
    rw [if_pos (by rwa [‹h.pin.id = id›]), if_pos (by rwa [‹h.pin.id = id›])]
  · rfl

/-- **A pin that is given back leaves the others as they were before it was
taken.** -/
theorem filter {h : HeldPin} (hheld : SameHeld (h.pin.id :: ids) (h :: held) held')
    (hfresh : ∀ g ∈ held, g.pin.id ≠ h.pin.id) :
    SameHeld ids held (held'.filter (·.pin.id != h.pin.id)) := by
  set ids' := h.pin.id :: ids with hids'
  have hid : ∀ (l : List Nat) (g : HeldPin), (g.noted l).pin = g.pin := by
    intro l g
    unfold HeldPin.noted
    split <;> rfl
  -- away from the pin, its number makes no difference
  have hnoted : ∀ g : HeldPin, g.pin.id ≠ h.pin.id → g.noted ids = g.noted ids' := by
    intro g hg
    unfold HeldPin.noted
    refine if_congr ?_ rfl rfl
    rw [hids', List.mem_cons, or_iff_right hg]
  have hkept : ∀ l : List HeldPin, (l.filter (·.pin.id != h.pin.id)).map (·.noted ids) =
      (l.map (·.noted ids')).filter (·.pin.id != h.pin.id) := by
    intro l
    rw [List.filter_map]
    have hcomp : ((fun g : HeldPin => g.pin.id != h.pin.id) ∘ fun g : HeldPin => g.noted ids') =
        fun g : HeldPin => g.pin.id != h.pin.id := funext fun g => by rw [Function.comp_apply, hid]
    rw [hcomp]
    refine List.map_congr_left fun g hg => hnoted g ?_
    simpa using (List.mem_filter.mp hg).2
  have hdrop : (h :: held).filter (·.pin.id != h.pin.id) = held := by
    rw [List.filter_cons_of_neg (by simp)]
    exact List.filter_eq_self.mpr fun g hg => by simpa using hfresh g hg
  unfold SameHeld at hheld ⊢
  rw [hkept, hheld, ← hkept, hdrop]

theorem map_pin (h : SameHeld ids held held') : held'.map (·.pin) = held.map (·.pin) := by
  have hpin : ∀ l : List HeldPin, (l.map (·.noted ids)).map (·.pin) = l.map (·.pin) := by
    intro l
    rw [List.map_map]
    refine List.map_congr_left fun g _ => ?_
    show (g.noted ids).pin = g.pin
    unfold HeldPin.noted
    split <;> rfl
  rw [← hpin held', h, hpin]

end SameHeld

namespace Store

/-- **A sound store.** The pins in `raw` are held otherwise than as values. -/
structure Sound (imageOf : Nat → ImageId) (raw : List Hold) (s : Store) : Prop where
  coherent : Coherent imageOf (raw ++ s.held.map HeldPin.hold) s
  ids_nodup : (s.held.map (·.pin.id)).Nodup
  id_lt : ∀ h ∈ s.held, h.pin.id < s.nextPin

/-- Whether a pin is held. -/
def Holds (s : Store) (pin : Pin) : Prop := ∃ dirty, (⟨pin, dirty⟩ : HeldPin) ∈ s.held

theorem holds_iff {s : Store} {pin : Pin} : s.Holds pin ↔ pin ∈ s.held.map (·.pin) := by
  rw [List.mem_map]
  refine ⟨fun ⟨d, hd⟩ => ⟨_, hd, rfl⟩, ?_⟩
  rintro ⟨⟨_, d⟩, hd, rfl⟩
  exact ⟨d, hd⟩

theorem Holds.of_sameHeld {s s' : Store} {ids : List Nat} {pin : Pin} (h : s.Holds pin)
    (hheld : SameHeld ids s.held s'.held) : s'.Holds pin := by
  rw [holds_iff] at h ⊢
  rwa [hheld.map_pin]

/-- A pin that was taken is held, and so are those that were held before. -/
theorem Holds.of_cons {s s' : Store} {ids : List Nat} {pin : Pin} {dirty : Bool}
    (hheld : SameHeld ids (⟨pin, dirty⟩ :: s.held) s'.held) :
    s'.Holds pin ∧ ∀ q, s.Holds q → s'.Holds q := by
  have hpins : s'.held.map (·.pin) = pin :: s.held.map (·.pin) := hheld.map_pin
  simp only [holds_iff, hpins]
  exact ⟨List.mem_cons_self, fun q hq => List.mem_cons_of_mem _ hq⟩

variable {imageOf : Nat → ImageId} {raw : List Hold} {s s' : Store} {pin : Pin} {ε α : Type}

/-- An operation behind which nothing has changed that can be seen. -/
structure Still (imageOf : Nat → ImageId) (raw : List Hold) (s s' : Store) : Prop where
  sound : s'.Sound imageOf raw
  picture : s'.picture imageOf = s.picture imageOf
  held : s'.held = s.held

theorem Still.of_settled (hs : s.Sound imageOf raw)
    (h : Settled imageOf (raw ++ s.held.map HeldPin.hold) s s') : Still imageOf raw s s' where
  sound := ⟨h.quiet.held ▸ h.coherent, h.quiet.held ▸ hs.ids_nodup,
    by rw [h.quiet.held, h.quiet.nextPin]; exact hs.id_lt⟩
  picture := h.quiet.picture
  held := h.quiet.held

/-! ## Where a pin stands among the pins that are held -/

/-- A pin that is held stands between pins with other numbers. -/
theorem Sound.split (hs : s.Sound imageOf raw) (hpin : s.Holds pin) :
    ∃ d l₁ l₂, s.held = l₁ ++ ⟨pin, d⟩ :: l₂ ∧ ∀ h ∈ l₁ ++ l₂, h.pin.id ≠ pin.id := by
  obtain ⟨d, hd⟩ := hpin
  obtain ⟨l₁, l₂, hsplit⟩ := List.append_of_mem hd
  refine ⟨d, l₁, l₂, hsplit, fun h hmem heq => ?_⟩
  have hnodup := hs.ids_nodup
  rw [hsplit, List.map_append, List.map_cons, List.nodup_middle, ← List.map_append,
    List.nodup_cons] at hnodup
  exact hnodup.1 (List.mem_map.mpr ⟨h, hmem, heq⟩)

/-- **The number of a pin tells it from the others** that are held. -/
theorem Sound.pin_eq (hs : s.Sound imageOf raw) (hpin : s.Holds pin) {h : HeldPin}
    (hmem : h ∈ s.held) (hid : h.pin.id = pin.id) : h.pin = pin := by
  obtain ⟨d, l₁, l₂, hsplit, hother⟩ := hs.split hpin
  rw [hsplit, List.mem_append, List.mem_cons] at hmem
  rcases hmem with hleft | rfl | hright
  · exact absurd hid (hother h (List.mem_append_left _ hleft))
  · rfl
  · exact absurd hid (hother h (List.mem_append_right _ hright))

theorem wrote_of_split {d : Bool} {l₁ l₂ : List HeldPin} (hsplit : s.held = l₁ ++ ⟨pin, d⟩ :: l₂)
    (hother : ∀ h ∈ l₁ ++ l₂, h.pin.id ≠ pin.id) : s.wrote pin = d := by
  have hfalse : ∀ l : List HeldPin, (∀ h ∈ l, h.pin.id ≠ pin.id) →
      (l.any fun h => h.pin.id == pin.id && h.dirty) = false := by
    intro l hl
    rw [List.any_eq_false]
    intro h hmem
    simp [hl h hmem]
  unfold wrote
  rw [hsplit, List.any_append, List.any_cons,
    hfalse l₁ fun h hmem => hother h (List.mem_append_left _ hmem),
    hfalse l₂ fun h hmem => hother h (List.mem_append_right _ hmem)]
  simp

theorem filter_of_split {d : Bool} {l₁ l₂ : List HeldPin} (hsplit : s.held = l₁ ++ ⟨pin, d⟩ :: l₂)
    (hother : ∀ h ∈ l₁ ++ l₂, h.pin.id ≠ pin.id) :
    s.held.filter (·.pin.id != pin.id) = l₁ ++ l₂ := by
  have hself : ∀ l : List HeldPin, (∀ h ∈ l, h.pin.id ≠ pin.id) →
      l.filter (·.pin.id != pin.id) = l := by
    intro l hl
    exact List.filter_eq_self.mpr fun h hmem => by simpa using hl h hmem
  rw [hsplit, List.filter_append, List.filter_cons_of_neg (by simp),
    hself l₁ fun h hmem => hother h (List.mem_append_left _ hmem),
    hself l₂ fun h hmem => hother h (List.mem_append_right _ hmem)]

/-- The held pins with a note about one of them. -/
theorem note_of_split {d : Bool} {l₁ l₂ : List HeldPin} (hsplit : s.held = l₁ ++ ⟨pin, d⟩ :: l₂)
    (hother : ∀ h ∈ l₁ ++ l₂, h.pin.id ≠ pin.id) :
    (s.held.map fun h => if h.pin.id = pin.id then { h with dirty := true } else h) =
      l₁ ++ ⟨pin, true⟩ :: l₂ := by
  have hself : ∀ l : List HeldPin, (∀ h ∈ l, h.pin.id ≠ pin.id) →
      (l.map fun h => if h.pin.id = pin.id then { h with dirty := true } else h) = l := by
    intro l hl
    refine (List.map_congr_left fun h hmem => if_neg (hl h hmem)).trans ?_
    exact List.map_id' l
  rw [hsplit, List.map_append, List.map_cons, if_pos rfl,
    hself l₁ fun h hmem => hother h (List.mem_append_left _ hmem),
    hself l₂ fun h hmem => hother h (List.mem_append_right _ hmem)]

/-- The holders with one pin brought to the front. -/
theorem holders_of_split {d : Bool} {l₁ l₂ : List HeldPin}
    (hsplit : s.held = l₁ ++ ⟨pin, d⟩ :: l₂) :
    (raw ++ s.held.map HeldPin.hold).Perm
      (⟨pin.key, pin.frame, d⟩ :: (raw ++ (l₁ ++ l₂).map HeldPin.hold)) := by
  rw [hsplit, List.map_append, List.map_cons, List.map_append, ← List.append_assoc,
    ← List.append_assoc]
  exact List.perm_middle

theorem Holds.mem_holders (hpin : s.Holds pin) (raw : List Hold) :
    ∃ d, (⟨pin.key, pin.frame, d⟩ : Hold) ∈ raw ++ s.held.map HeldPin.hold := by
  obtain ⟨d, hd⟩ := hpin
  exact ⟨d, List.mem_append_right _ (List.mem_map.mpr ⟨_, hd, rfl⟩)⟩

/-- **A pin that is held looks at the content of its page.** -/
theorem Sound.frame_eq (hs : s.Sound imageOf raw) (hpin : s.Holds pin) :
    s.frame pin.frame = s.content imageOf pin.key := by
  obtain ⟨d, hmem⟩ := hpin.mem_holders raw
  exact hs.coherent.frame_eq hmem

/-! ## Taking a pin -/

/-- **A pin that was taken** heads the pins that are held. -/
structure Taken (imageOf : Nat → ImageId) (raw : List Hold) (s : Store) (key : PageKey) (pin : Pin)
    (dirty : Bool) (s' : Store) : Prop where
  sound : s'.Sound imageOf raw
  held : s'.held = ⟨pin, dirty⟩ :: s.held
  key_eq : pin.key = key
  fresh : ∀ h ∈ s.held, h.pin.id ≠ pin.id

/-- A pin that the pool has counted is held as a value. -/
theorem ends_hold {s₀ : Store} (hs₀ : s₀.Sound imageOf raw) {key : PageKey} {f : FrameId}
    {dirty : Bool}
    (hs : Coherent imageOf (⟨key, f, dirty⟩ :: (raw ++ s₀.held.map HeldPin.hold)) s)
    (hheld : s.held = s₀.held) (hnext : s.nextPin = s₀.nextPin) :
    Ends (hold key f dirty : StoreM ε Pin) s
      (fun pin s' => Taken imageOf raw s₀ key pin dirty s' ∧ s'.picture imageOf = s.picture imageOf)
      (fun _ _ => False) := by
  have hfresh : ∀ h ∈ s.held, h.pin.id ≠ s.nextPin := by
    rw [hheld, hnext]
    exact fun h hmem => Nat.ne_of_lt (hs₀.id_lt h hmem)
  unfold hold
  rw [ends_bind, ends_get, ends_bind, ends_modify, ends_pure]
  set pin : Pin := ⟨s.nextPin, key, f⟩ with hpin
  refine ⟨⟨?_, by rw [← hheld], rfl, by rw [← hheld]; exact hfresh⟩,
    picture_eq_of_note rfl rfl fun _ => rfl⟩
  constructor
  case coherent =>
    have hperm : (⟨key, f, dirty⟩ :: (raw ++ s₀.held.map HeldPin.hold) : List Hold).Perm
        (raw ++ (⟨pin, dirty⟩ :: s.held).map HeldPin.hold) := by
      rw [hheld]
      exact List.perm_middle.symm
    refine (hs.perm hperm).note rfl rfl hs.distinct (fun _ => rfl) ?_ ?_ ?_
    · exact (hs.perm hperm).pins_eq
    · exact (hs.perm hperm).held
    · exact (hs.perm hperm).clean
  case ids_nodup =>
    refine List.nodup_cons.mpr ⟨fun hmem => ?_, by rw [hheld]; exact hs₀.ids_nodup⟩
    obtain ⟨h, hmem, heq⟩ := List.mem_map.mp hmem
    exact hfresh h hmem heq
  case id_lt =>
    intro h hmem
    rcases List.mem_cons.mp hmem with rfl | hmem
    · exact Nat.lt_succ_self _
    · rw [hheld] at hmem
      exact Nat.lt_succ_of_lt (hnext ▸ hs₀.id_lt h hmem)

/-- **A page that is there may be pinned**; nothing else shows. -/
theorem ends_pinPage (hs : s.Sound imageOf raw) {file page : Nat}
    (hpage : ∀ o, s.files.table.byHandle? file = some o →
      page < (s.files.disk.image o.image).pages) :
    Ends (pinPage file page) s
      (fun pin s' => Taken imageOf raw s ⟨file, page⟩ pin false s' ∧
        s'.picture imageOf = s.picture imageOf)
      (fun e s' => Still imageOf raw s s' ∧ Beyond page e) := by
  unfold pinPage
  rw [ends_bind]
  refine (ends_fetch hs.coherent hpage).imp ?_ ?_
  · intro f s₁ hset
    refine (ends_hold hs hset.coherent hset.quiet.held hset.quiet.nextPin).imp ?_
      fun _ _ h => h.elim
    intro pin s' ⟨htaken, hpic⟩
    exact ⟨htaken, hpic.trans hset.quiet.picture⟩
  · intro e s' ⟨hset, hfar⟩
    exact ⟨.of_settled hs hset, hfar⟩

/-- **A file may be extended by a page of zeros**, which is pinned. -/
theorem ends_pinNewPage (hs : s.Sound imageOf raw) (file : Nat) :
    Ends (pinNewPage file) s
      (fun pin s' => Taken imageOf raw s ⟨file, (s.picture imageOf).pages (imageOf file)⟩ pin true s' ∧
        s.content imageOf pin.key = Buffer.zero blockSize ∧
        s'.picture imageOf = { s.picture imageOf with
          pages := Function.update (s.picture imageOf).pages (imageOf file)
            ((s.picture imageOf).pages (imageOf file) + 1) })
      (fun e s' => Still imageOf raw s s' ∧
        Beyond ((s.picture imageOf).pages (imageOf file)) e) := by
  unfold pinNewPage
  rw [ends_bind]
  refine (ends_newPage hs.coherent file).imp ?_ ?_
  · rintro ⟨k, f⟩ s₁ ⟨hk, hzero, -, hs₁, hpic, hheld, hnext⟩
    obtain rfl : k = ⟨file, (s.picture imageOf).pages (imageOf file)⟩ := hk
    -- its holder counts as having written from the start
    have hs₁' : Coherent imageOf (⟨⟨file, (s.picture imageOf).pages (imageOf file)⟩, f, true⟩ ::
        (raw ++ s.held.map HeldPin.hold)) s₁ :=
      hs₁.declare List.mem_cons_self (by rw [List.erase_cons_head])
    refine (ends_hold hs hs₁' hheld hnext).imp ?_ fun _ _ h => h.elim
    intro pin s' ⟨htaken, hpic'⟩
    refine ⟨htaken, ?_, hpic'.trans hpic⟩
    rw [htaken.key_eq]
    exact hzero
  · intro e s' ⟨hset, hfar⟩
    exact ⟨.of_settled hs hset, hfar⟩

/-! ## Using a pin and giving it back -/

/-- **A pin shows the content of its page.** -/
theorem ends_view (hs : s.Sound imageOf raw) (hpin : s.Holds pin) {f : Block → Except Overrun α}
    {good : α → Store → Prop} {bad : Fault ε → Store → Prop} :
    Ends (view pin f) s good bad ↔
      (∀ a, f (s.content imageOf pin.key) = .ok a → good a s) ∧
        ∀ o, f (s.content imageOf pin.key) = .error o → bad (.overrun o) s := by
  unfold view viewFrame
  rw [ends_bind, ends_get, ends_liftOverrun, hs.frame_eq hpin]

/-- A holder may note that it wrote. -/
theorem Sound.noteWrite (hs : s.Sound imageOf raw) (hpin : s.Holds pin) :
    Sound imageOf raw { s with held := s.held.map fun h =>
      if h.pin.id = pin.id then { h with dirty := true } else h } := by
  obtain ⟨d, l₁, l₂, hsplit, hother⟩ := hs.split hpin
  have hnote := note_of_split hsplit hother
  have hids : (s.held.map fun h => if h.pin.id = pin.id then { h with dirty := true } else h).map
      (·.pin.id) = s.held.map (·.pin.id) := by
    rw [List.map_map]
    refine List.map_congr_left fun h _ => ?_
    show (if h.pin.id = pin.id then { h with dirty := true } else h : HeldPin).pin.id = h.pin.id
    split <;> rfl
  constructor
  case coherent =>
    have hs' := hs.coherent.perm (holders_of_split hsplit)
    have hdeclared : Coherent imageOf
        (⟨pin.key, pin.frame, true⟩ :: (raw ++ (l₁ ++ l₂).map HeldPin.hold)) s :=
      hs'.declare List.mem_cons_self (by rw [List.erase_cons_head])
    have hnoted := hdeclared.perm
      (holders_of_split (s := { s with held := l₁ ++ ⟨pin, true⟩ :: l₂ }) rfl).symm
    rw [hnote]
    exact hnoted.note rfl rfl hnoted.distinct (fun _ => rfl) hnoted.pins_eq hnoted.held hnoted.clean
  case ids_nodup =>
    show (List.map _ (List.map _ _)).Nodup
    rw [hids]
    exact hs.ids_nodup
  case id_lt =>
    intro h hmem
    have hmem' : h.pin.id ∈ s.held.map (·.pin.id) := by
      rw [← hids]
      exact List.mem_map_of_mem hmem
    obtain ⟨g, hg, heq⟩ := List.mem_map.mp hmem'
    rw [← heq]
    exact hs.id_lt g hg

theorem ends_noteWrite (hs : s.Sound imageOf raw) (hpin : s.Holds pin) :
    Ends (noteWrite pin : StoreM ε Unit) s
      (fun _ s' => s'.Sound imageOf raw ∧ SameHeld [pin.id] s.held s'.held ∧
        s'.picture imageOf = s.picture imageOf) (fun _ _ => False) := by
  unfold noteWrite
  rw [ends_modify]
  exact ⟨hs.noteWrite hpin, .note _ _ List.mem_cons_self, picture_eq_of_note rfl rfl fun _ => rfl⟩

/-- An edit writes its frame, whether or not it overruns. -/
theorem ends_editFrame {f : FrameId} {e : Buffer.Edit blockSize α} {good : α → Store → Prop}
    {bad : Fault ε → Store → Prop} :
    Ends (editFrame f e) s good bad ↔
      (∀ a b, e (s.frame f) = .ok a b → good a { s with frames := s.frames.setIfInBounds f b }) ∧
      ∀ o b, e (s.frame f) = .error o b →
        bad (.overrun o) { s with frames := s.frames.setIfInBounds f b } := by
  unfold Ends editFrame
  cases e (s.frame f) with
  | ok a b =>
    refine ⟨fun h => ⟨?_, nofun⟩, fun h => h.1 a b rfl⟩
    rintro _ _ ⟨⟩
    exact h
  | error o b =>
    refine ⟨fun h => ⟨nofun, ?_⟩, fun h => h.2 o b rfl⟩
    rintro _ _ ⟨⟩
    exact h

/-- **What is written through a pin is the content of its page from then on.** -/
theorem ends_edit (hs : s.Sound imageOf raw) (hpin : s.Holds pin) {e : Buffer.Edit blockSize α}
    {a : α} {b : Block} (he : e (s.content imageOf pin.key) = .ok a b) :
    Ends (edit pin e : StoreM ε α) s
      (fun a' s' => a' = a ∧ s'.Sound imageOf raw ∧ SameHeld [pin.id] s.held s'.held ∧
        s'.picture imageOf = { s.picture imageOf with
          content := Function.update (s.content imageOf) pin.key b })
      (fun _ _ => False) := by
  unfold edit noteWrite
  rw [ends_bind, ends_modify]
  set s₁ : Store := { s with held := s.held.map fun h =>
    if h.pin.id = pin.id then { h with dirty := true } else h } with hs₁def
  have hs₁ : s₁.Sound imageOf raw := hs.noteWrite hpin
  have hframe : s₁.frame pin.frame = s.content imageOf pin.key := hs.frame_eq hpin
  rw [← hframe] at he
  rw [ends_editFrame, he]
  refine ⟨?_, nofun⟩
  rintro _ _ ⟨⟩
  -- the pin is noted by now, so that the write is reported when it is given back
  have hmem : (⟨pin.key, pin.frame, true⟩ : Hold) ∈ raw ++ s₁.held.map HeldPin.hold := by
    obtain ⟨d, l₁, l₂, hsplit, hother⟩ := hs.split hpin
    have hheld : s₁.held = l₁ ++ ⟨pin, true⟩ :: l₂ := note_of_split hsplit hother
    rw [hheld]
    exact List.mem_append_right _ (List.mem_map.mpr ⟨⟨pin, true⟩, by simp, rfl⟩)
  set s₂ : Store := { s₁ with frames := s₁.frames.setIfInBounds pin.frame b } with hs₂def
  obtain ⟨hs₂, hpic⟩ := hs₁.coherent.write hmem (List.perm_cons_erase hmem)
    (show s₂.files = s₁.files from rfl) rfl rfl
  exact ⟨rfl, ⟨hs₂, hs₁.ids_nodup, hs₁.id_lt⟩, .note _ _ List.mem_cons_self, hpic⟩

/-- **To give a pin back**, it is taken from those that are held, and the pool is told. That the
pool refuses it is reported. -/
theorem ends_release_iff {good : Unit → Store → Prop} {bad : Fault ε → Store → Prop} :
    Ends (release pin : StoreM ε Unit) s good bad ↔
      Ends (unpin pin.key (s.wrote pin)) { s with held := s.held.filter (·.pin.id != pin.id) }
        good fun e s' =>
          (∀ fe, e = .error fe →
            good () { s' with events := .unpinFailed pin.key.page fe :: s'.events }) ∧
          ∀ o, e = .overrun o → bad (.overrun o) s' := by
  unfold release
  rw [ends_bind, ends_get]
  refine (ends_bind.trans ends_modify).trans ?_
  unfold Ends
  dsimp only
  rcases unpin pin.key (s.wrote pin) { s with held := s.held.filter (·.pin.id != pin.id) } with
    _ | ⟨fe | o, s'⟩
  · exact Iff.rfl
  · exact ⟨fun h => ⟨fun _ heq => Fault.error.inj heq ▸ h, nofun⟩, fun h => h.1 fe rfl⟩
  · exact ⟨fun h => ⟨nofun, fun _ heq => Fault.overrun.inj heq ▸ h⟩, fun h => h.2 o rfl⟩

/-- **A pin that is held can always be given back**, and nothing else shows. -/
theorem ends_release (hs : s.Sound imageOf raw) (hpin : s.Holds pin) :
    Ends (release pin : StoreM ε Unit) s
      (fun _ s' => s'.Sound imageOf raw ∧ s'.held = s.held.filter (·.pin.id != pin.id) ∧
        s'.picture imageOf = s.picture imageOf)
      (fun _ _ => False) := by
  obtain ⟨d, l₁, l₂, hsplit, hother⟩ := hs.split hpin
  rw [ends_release_iff, wrote_of_split hsplit hother, filter_of_split hsplit hother]
  have hfront := hs.coherent.perm (holders_of_split hsplit)
  have hs₁ : Coherent imageOf (⟨pin.key, pin.frame, d⟩ :: (raw ++ (l₁ ++ l₂).map HeldPin.hold))
      { s with held := l₁ ++ l₂ } :=
    hfront.note rfl rfl hfront.distinct (fun _ => rfl) hfront.pins_eq hfront.held hfront.clean
  have hunpin := ends_unpin hs₁ (h := ⟨pin.key, pin.frame, d⟩) List.mem_cons_self fun h => h
  rw [List.erase_cons_head] at hunpin
  have hsub : (l₁ ++ l₂).Sublist s.held := by
    rw [hsplit]
    exact List.Sublist.append_left (List.sublist_cons_self _ _) _
  refine hunpin.imp ?_ fun _ _ h => h.elim
  rintro _ s' hsettled
  have hheld : s'.held = l₁ ++ l₂ := hsettled.quiet.held
  have hnext : s'.nextPin = s.nextPin := hsettled.quiet.nextPin
  refine ⟨⟨hheld ▸ hsettled.coherent, ?_, ?_⟩, hheld, ?_⟩
  · rw [hheld]
    exact hs.ids_nodup.sublist (hsub.map _)
  · rw [hheld, hnext]
    exact fun h hmem => hs.id_lt h (hsub.subset hmem)
  · exact hsettled.quiet.picture.trans (picture_eq_of_note rfl rfl fun _ => rfl)

end Store

end SlottedFile
