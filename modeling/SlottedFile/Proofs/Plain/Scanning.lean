import SlottedFile.Proofs.Plain.Reading

/-!
# Scanning a record file, pool and all

A scan of a record file gives out the records that it finds one behind the other
(`PlainFile.trail`). If a page cannot be pinned on the way it gives out those up
to there and then the error. Either way the file is what it was.
-/

namespace SlottedFile

namespace PlainFile

variable {p : PlainFile}

/-- The first record from a slot of a page on. -/
def found (p : PlainFile) (page slot : Nat) : Option RecordId :=
  match seek page slot p with
  | .ok id? _ => id?
  | .error _ _ => none

/-- **The records that are found one behind the other**, at most `bound` of
them. -/
def trail (p : PlainFile) : (bound : Nat) → Option RecordId → List RecordId
  | 0, _ => []
  | _, none => []
  | bound + 1, some id => id :: p.trail bound (p.found id.page (id.slot + 1))

theorem ends_seekFrom_of_sized (hsized : p.Sized) {left page slot : Nat}
    (hleft : left = p.header.pages - page) :
    Ends (seekFrom left page slot) p (fun _ p' => p' = p) (fun _ _ => False) := by
  induction left generalizing page slot with
  | zero => exact rfl
  | succ left ih =>
    unfold seekFrom
    rw [ends_bind, ends_checkPage]
    refine ⟨fun _ => ?_, fun hle => ?_⟩
    · rw [ends_bind, ends_look (f := fun l b => l.nextOccupied b slot)
        (PageLayout.nextOccupied_eq hsized.fits (p.page page) slot)]
      cases (List.range' slot (p.layout.recordsPerPage - slot)).find?
          (p.layout.data (p.page page)).occupied with
      | none => exact ih (by omega)
      | some hit => exact rfl
    · omega

/-- A search does not fail. -/
theorem seek_eq (hsized : p.Sized) (page slot : Nat) :
    seek page slot p = .ok (p.found page slot) p := by
  have hends : Ends (seek page slot) p (fun _ p' => p' = p) (fun _ _ => False) :=
    ends_seekFrom_of_sized hsized rfl
  obtain ⟨id?, p', hok, hp'⟩ := hends.exists_ok
  unfold found
  rw [hok, hp']

/-! ## How many records there are to find -/

/-- **The number of a place**, in the order of places. -/
def rank (p : PlainFile) (id : RecordId) : Nat := id.page * p.header.recordsPerPage + id.slot

theorem rank_lt {id : RecordId} (hpage : id.page < p.header.pages)
    (hslot : id.slot < p.header.recordsPerPage) :
    p.rank id < p.header.pages * p.header.recordsPerPage := by
  have hle : (id.page + 1) * p.header.recordsPerPage ≤ p.header.pages * p.header.recordsPerPage :=
    Nat.mul_le_mul_right _ hpage
  rw [Nat.succ_mul] at hle
  unfold rank
  omega

/-- **What a search finds** lies in the file, and not before the place where it starts. -/
theorem ends_seekFrom_rank (hsized : p.Sized) {left page slot : Nat}
    (hslot : slot ≤ p.header.recordsPerPage) :
    Ends (seekFrom left page slot) p (fun id? _ => ∀ id ∈ id?, id.page < p.header.pages ∧
      id.slot < p.header.recordsPerPage ∧ page * p.header.recordsPerPage + slot ≤ p.rank id)
      (fun _ _ => True) := by
  -- the induction is on the pages that are left, and each starts behind the one before
  induction left generalizing page slot with
  | zero => exact nofun
  | succ left ih =>
    unfold seekFrom
    rw [ends_bind, ends_checkPage]
    refine ⟨fun hpage => ?_, fun _ => trivial⟩
    rw [ends_bind, ends_look (f := fun l b => l.nextOccupied b slot)
      (PageLayout.nextOccupied_eq hsized.fits (p.page page) slot)]
    cases hfind : (List.range' slot (p.layout.recordsPerPage - slot)).find?
        (p.layout.data (p.page page)).occupied with
    | none =>
      refine (ih (Nat.zero_le _)).imp ?_ fun _ _ h => h
      intro id? _ hfound id hid
      obtain ⟨hpage', hslot', hle⟩ := hfound id hid
      refine ⟨hpage', hslot', Nat.le_trans ?_ hle⟩
      rw [Nat.succ_mul]
      omega
    | some hit =>
      rintro _ ⟨⟩
      obtain ⟨i, hi, rfl⟩ := List.mem_range'.mp (List.mem_of_find?_eq_some hfind)
      have hi : i < p.header.recordsPerPage - slot := hi
      refine ⟨hpage, ?_, Nat.add_le_add_left ?_ _⟩
      · show slot + 1 * i < _
        omega
      · show slot ≤ slot + 1 * i
        omega

theorem le_rank_of_found (hsized : p.Sized) {page slot : Nat} (hslot : slot ≤ p.header.recordsPerPage)
    {id : RecordId} (hfound : p.found page slot = some id) :
    id.page < p.header.pages ∧ id.slot < p.header.recordsPerPage ∧
      page * p.header.recordsPerPage + slot ≤ p.rank id := by
  have hends : Ends (seekFrom (p.header.pages - page) page slot) p _ _ :=
    ends_seekFrom_rank hsized hslot
  have hok := seek_eq hsized page slot
  rw [hfound] at hok
  exact hends.of_ok hok id rfl

/-- **No more records are found than the file has slots**, however many are asked for:
each lies behind the one before. -/
theorem length_trail_le (hsized : p.Sized) (bound : Nat) {id? : Option RecordId}
    (hin : ∀ id ∈ id?, id.page < p.header.pages ∧ id.slot < p.header.recordsPerPage) (before : Nat)
    (hbefore : ∀ id ∈ id?, before ≤ p.rank id) :
    (p.trail bound id?).length ≤ p.header.pages * p.header.recordsPerPage - before := by
  induction bound generalizing id? before with
  | zero => exact Nat.zero_le _
  | succ bound ih =>
    cases id? with
    | none => exact Nat.zero_le _
    | some id =>
      obtain ⟨hpage, hslot⟩ := hin id rfl
      have hrank := rank_lt hpage hslot
      have hle := hbefore id rfl
      have hnext : ∀ id' ∈ p.found id.page (id.slot + 1), id'.page < p.header.pages ∧
          id'.slot < p.header.recordsPerPage ∧ p.rank id + 1 ≤ p.rank id' := fun _ hid' =>
        le_rank_of_found hsized hslot hid'
      have hrest := ih (fun id' hid' => ⟨(hnext id' hid').1, (hnext id' hid').2.1⟩)
        (p.rank id + 1) fun id' hid' => (hnext id' hid').2.2
      rw [trail, List.length_cons]
      omega

end PlainFile

section Scanning

variable {imageOf : Nat → ImageId} {raw : List Hold} {ids : List Nat} {p₀ : PlainFile}
  {s s' : Session}

/-- **What a scan gives out** of the records that there are: all of them, or some
and then the error that kept it from the rest. -/
def Scanned (bad : RecordError → Prop) (l : List RecordId) (items : List Scan.Item) : Prop :=
  items = l.map .ok ∨ ∃ i e, bad e ∧ items = (l.take i).map .ok ++ [.error e]

theorem Scanned.cons {bad : RecordError → Prop} {l : List RecordId} {items : List Scan.Item}
    (h : Scanned bad l items) (id : RecordId) : Scanned bad (id :: l) (.ok id :: items) := by
  rcases h with rfl | ⟨i, e, he, rfl⟩
  · exact .inl rfl
  · exact .inr ⟨i + 1, e, he, rfl⟩

/-- **What leaves the file as it was.** -/
structure Session.Kept (imageOf : Nat → ImageId) (raw : List Hold) (ids : List Nat) (p₀ : PlainFile)
    (s s' : Session) : Prop where
  became : Session.Became imageOf raw s p₀ s'
  held : SameHeld ids s.store.held s'.store.held

theorem Session.Kept.refl (hs : s.Good imageOf raw) (hp : s.plain imageOf = p₀) :
    Session.Kept imageOf raw ids p₀ s s := by
  rw [← hp]
  exact ⟨.refl hs, .refl _⟩

theorem Session.Kept.trans {s'' : Session} (h : Session.Kept imageOf raw ids p₀ s s')
    (h' : Session.Kept imageOf raw ids p₀ s' s'') : Session.Kept imageOf raw ids p₀ s s'' :=
  ⟨h.became.trans h'.became, h.held.trans h'.held⟩

theorem Session.onStore_attempt {α : Type} (x : RecordFile → StoreM RecordError α) :
    onStore (fun f => attempt (x f)) = attempt (onStore x) := by
  funext s
  unfold onStore attempt
  dsimp only
  rcases x s.file s.store with ⟨a, store⟩ | ⟨e | o, store⟩ <;> rfl

/-- **A search finds the first record** from a place on. -/
theorem ends_seek (ids : List Nat) (hs : s.Good imageOf raw) (hp : s.plain imageOf = p₀)
    (hsized : p₀.Sized) (page slot : Nat) :
    Ends (Session.onStore fun f => Scan.seek f page slot) s
      (fun next s' => next = p₀.found page slot ∧ Session.Kept imageOf raw ids p₀ s s')
      (fun e s' => PoolFailure p₀ e ∧ Session.Kept imageOf raw ids p₀ s s') := by
  refine Ends.imp (show Does imageOf raw ids p₀ _ _ s from does_seek hs hp hsized page slot) ?_ ?_
  · rintro next s' ⟨p', hm, hbecame, hheld⟩
    rw [hp, PlainFile.seek_eq hsized] at hm
    cases hm
    exact ⟨rfl, hbecame, hheld⟩
  · rintro e s' ⟨hbecame, hheld, hpool | ⟨p', hm⟩⟩
    · exact ⟨hpool, hbecame, hheld⟩
    · rw [hp, PlainFile.seek_eq hsized] at hm
      cases hm

/-- **Starting a scan.** -/
theorem ends_start (ids : List Nat) (hs : s.Good imageOf raw) (hp : s.plain imageOf = p₀)
    (hsized : p₀.Sized) :
    Ends (Session.onStore Scan.start) s
      (fun scan s' => scan = { position := p₀.found 0 0 } ∧ Session.Kept imageOf raw ids p₀ s s')
      (fun e s' => PoolFailure p₀ e ∧ Session.Kept imageOf raw ids p₀ s s') := by
  unfold Scan.start
  rw [Session.onStore_bind, ends_bind]
  refine (ends_seek ids hs hp hsized 0 0).imp ?_ fun _ _ h => h
  rintro _ s' ⟨rfl, hkept⟩
  exact ⟨rfl, hkept⟩

/-- **Moving a scan on.** -/
theorem ends_advance (ids : List Nat) (hs : s.Good imageOf raw) (hp : s.plain imageOf = p₀)
    (hsized : p₀.Sized) (scan : Scan) {id : RecordId} (hposition : scan.position = some id) :
    Ends (Session.onStore fun f => scan.advance f) s
      (fun scan' s' => scan' = { scan with position := p₀.found id.page (id.slot + 1) } ∧
        Session.Kept imageOf raw ids p₀ s s')
      (fun e s' => PoolFailure p₀ e ∧ Session.Kept imageOf raw ids p₀ s s') := by
  unfold Scan.advance
  rw [hposition]
  dsimp only
  rw [Session.onStore_bind, ends_bind]
  refine (ends_seek ids hs hp hsized id.page (id.slot + 1)).imp ?_ fun _ _ h => h
  rintro _ s' ⟨rfl, hkept⟩
  exact ⟨rfl, hkept⟩

/-- **The next item of a scan** is its record. Then the scan is at the record that
comes next, or has the error still to give out. -/
theorem ends_next (ids : List Nat) (hs : s.Good imageOf raw) (hp : s.plain imageOf = p₀)
    (hsized : p₀.Sized) {id : RecordId} :
    Ends (Session.onStore fun f => Scan.next f { position := some id }) s
      (fun r s' => Session.Kept imageOf raw ids p₀ s s' ∧ r.1 = some (.ok id) ∧
        (r.2 = { position := p₀.found id.page (id.slot + 1) } ∨
          ∃ e, PoolFailure p₀ (.error e) ∧ r.2 = { position := none, pending := some e }))
      (fun e s' => (∃ o, e = .overrun o) ∧ PoolFailure p₀ e ∧
        Session.Kept imageOf raw ids p₀ s s') := by
  unfold Scan.next
  dsimp only
  rw [Session.onStore_bind, Session.onStore_attempt, ends_bind, ends_attempt]
  have hadvance := ends_advance ids hs hp hsized { position := some id } rfl
  refine Ends.imp hadvance ?_ ?_
  · rintro _ s' ⟨rfl, hkept⟩
    exact ⟨hkept, rfl, .inl rfl⟩
  · rintro (e | o) s' ⟨hpool, hkept⟩
    · exact ⟨hkept, rfl, .inr ⟨e, hpool, rfl⟩⟩
    · exact ⟨⟨o, rfl⟩, hpool, hkept⟩

/-- A scan at its end gives out its error, if it has one. -/
theorem Scan.itemsFrom_end (f : RecordFile) (bound : Nat) :
    itemsFrom f bound { position := none } = pure [] := by
  cases bound <;> rfl

theorem Scan.itemsFrom_failed (f : RecordFile) (bound : Nat) (e : RecordError) :
    itemsFrom f bound { position := none, pending := some e } =
      pure (if bound = 0 then [] else [.error e]) := by
  cases bound with
  | zero => rfl
  | succ bound =>
    show (do return Except.error e :: (← itemsFrom f bound { position := none })) = _
    rw [Scan.itemsFrom_end]
    rfl

/-- **The items of a scan from a position on.** -/
theorem ends_itemsFrom (ids : List Nat) (hs : s.Good imageOf raw) (hp : s.plain imageOf = p₀)
    (hsized : p₀.Sized) (bound : Nat) (position : Option RecordId) :
    Ends (Session.onStore fun f => Scan.itemsFrom f bound { position }) s
      (fun items s' => Scanned (fun e => PoolFailure p₀ (.error e)) (p₀.trail bound position) items ∧
        Session.Kept imageOf raw ids p₀ s s')
      (fun e s' => PoolFailure p₀ e ∧ Session.Kept imageOf raw ids p₀ s s') := by
  induction bound generalizing s position with
  | zero => exact ⟨.inl rfl, .refl hs hp⟩
  | succ bound ih =>
    cases position with
    | none =>
      rw [funext fun f => Scan.itemsFrom_end f (bound + 1)]
      exact ⟨.inl rfl, .refl hs hp⟩
    | some id =>
      unfold Scan.itemsFrom
      rw [Session.onStore_bind, ends_bind]
      refine Ends.imp (ends_next ids hs hp hsized) ?_ fun _ _ h => h.2
      rintro ⟨_, scan⟩ s₁ ⟨hkept, rfl, rfl | ⟨e, hpool, rfl⟩⟩
      · dsimp only
        rw [Session.onStore_bind, ends_bind]
        refine Ends.imp (ih hkept.became.good hkept.became.plain_eq _) ?_ ?_
        · rintro items s₂ ⟨hscanned, hkept₂⟩
          exact ⟨hscanned.cons id, hkept.trans hkept₂⟩
        · rintro e s₂ ⟨hpool, hkept₂⟩
          exact ⟨hpool, hkept.trans hkept₂⟩
      · dsimp only
        rw [Session.onStore_bind, funext fun f => Scan.itemsFrom_failed f bound e]
        refine ⟨?_, hkept⟩
        cases bound with
        | zero => exact .inl rfl
        | succ bound => exact .inr ⟨1, e, hpool, rfl⟩

/-- **The items of a scan**, as many as are asked for. -/
theorem ends_itemsUpTo (ids : List Nat) (hs : s.Good imageOf raw) (hp : s.plain imageOf = p₀)
    (hsized : p₀.Sized) (bound : Nat) :
    Ends (Session.onStore fun f => do Scan.itemsFrom f bound (← Scan.start f)) s
      (fun items s' => Scanned (fun e => PoolFailure p₀ (.error e))
        (p₀.trail bound (p₀.found 0 0)) items ∧ Session.Kept imageOf raw ids p₀ s s')
      (fun e s' => PoolFailure p₀ e ∧ Session.Kept imageOf raw ids p₀ s s') := by
  rw [Session.onStore_bind, ends_bind]
  refine Ends.imp (ends_start ids hs hp hsized) ?_ fun _ _ h => h
  rintro _ s₁ ⟨rfl, hkept⟩
  refine Ends.imp (ends_itemsFrom ids hkept.became.good hkept.became.plain_eq hsized bound _) ?_ ?_
  · rintro items s₂ ⟨hscanned, hkept₂⟩
    exact ⟨hscanned, hkept.trans hkept₂⟩
  · rintro e s₂ ⟨hpool, hkept₂⟩
    exact ⟨hpool, hkept.trans hkept₂⟩

/-- **All items of a scan.** -/
theorem ends_items (ids : List Nat) (hs : s.Good imageOf raw) (hp : s.plain imageOf = p₀)
    (hsized : p₀.Sized) :
    Ends (Session.onStore Scan.items) s
      (fun items s' => Scanned (fun e => PoolFailure p₀ (.error e))
        (p₀.trail (p₀.header.pages * p₀.header.recordsPerPage + 1) (p₀.found 0 0)) items ∧
        Session.Kept imageOf raw ids p₀ s s')
      (fun e s' => PoolFailure p₀ e ∧ Session.Kept imageOf raw ids p₀ s s') := by
  have hheader : s.file.header = p₀.header := congrArg PlainFile.header hp
  rw [← hheader]
  exact ends_itemsUpTo ids hs hp hsized (Scan.bound s.file)

end Scanning

end SlottedFile
