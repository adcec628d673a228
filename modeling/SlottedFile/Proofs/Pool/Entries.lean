import Mathlib.Data.List.Nodup
import SlottedFile.Store.Basic

/-!
# The pool as a map

A pool is a list of entries in the order of their last use. To everything but
the choice of a page to evict it is a map from pages to entries, and this module
says what each operation does to that map (`Pool.find?`). No page is buffered
twice (`Pool.Distinct`), and no operation makes it so.
-/

namespace SlottedFile.Pool

variable {p : Pool} {e : PoolEntry} {k j : PageKey}

/-- No page is buffered twice. -/
def Distinct (p : Pool) : Prop := (p.entries.map (·.key)).Nodup

theorem mem_of_find? (h : p.find? k = some e) : e ∈ p.entries ∧ e.key = k :=
  ⟨List.mem_of_find?_eq_some h, by simpa using List.find?_some h⟩

/-- **In a pool without repetitions the map shows every entry.** -/
theorem find?_of_mem (hp : p.Distinct) (h : e ∈ p.entries) : p.find? e.key = some e := by
  obtain ⟨e', he'⟩ : ∃ e', p.find? e.key = some e' := by
    refine Option.isSome_iff_exists.mp ?_
    rw [find?, List.find?_isSome]
    exact ⟨e, h, beq_self_eq_true _⟩
  obtain ⟨hmem, hkey⟩ := mem_of_find? he'
  rw [he', List.inj_on_of_nodup_map hp hmem h hkey]

theorem find?_eq_none_iff : p.find? k = none ↔ ∀ e ∈ p.entries, e.key ≠ k := by
  unfold find?
  rw [List.find?_eq_none]
  simp

theorem find?_erase : (p.erase k).find? j = if j = k then none else p.find? j := by
  unfold erase find?
  rw [List.find?_filter]
  split
  · subst j
    exact List.find?_eq_none.mpr (fun e _ => by simp)
  · rename_i hj
    congr 1
    funext e
    by_cases hej : e.key = j
    · simp [hej, hj]
    · simp [hej]

theorem find?_use : (p.use e).find? j = if j = e.key then some e else p.find? j := by
  unfold use find?
  rw [List.find?_cons]
  by_cases hj : j = e.key
  · subst hj
    simp
  · rw [if_neg hj, beq_eq_false_iff_ne.mpr (Ne.symm hj)]
    exact (find?_erase (p := p) (k := e.key)).trans (if_neg hj)

theorem find?_update {f : PoolEntry → PoolEntry} (hf : ∀ e, (f e).key = e.key) :
    (p.update k f).find? j = if j = k then (p.find? j).map f else p.find? j := by
  have hkey : ∀ e : PoolEntry, (if e.key = k then f e else e).key = e.key := by
    intro e
    split
    · exact hf e
    · rfl
  unfold update find?
  rw [List.find?_map, show ((fun e : PoolEntry => e.key == j) ∘ fun e => if e.key = k then f e else e)
    = fun e => e.key == j from funext fun e => by rw [Function.comp_apply, hkey]]
  cases hfind : p.entries.find? (·.key == j) with
  | none => simp
  | some e =>
    have hej : e.key = j := by simpa using List.find?_some hfind
    simp only [Option.map_some, hej]
    split <;> rfl

theorem Distinct.erase (hp : p.Distinct) (k : PageKey) : (p.erase k).Distinct :=
  List.Nodup.sublist (List.filter_sublist.map _) hp

theorem Distinct.use (hp : p.Distinct) (e : PoolEntry) : (p.use e).Distinct := by
  refine List.nodup_cons.mpr ⟨fun hmem => ?_, hp.erase e.key⟩
  obtain ⟨x, hx, hxe⟩ := List.mem_map.mp hmem
  simp [Pool.erase, hxe] at hx

theorem Distinct.update (hp : p.Distinct) (k : PageKey) {f : PoolEntry → PoolEntry}
    (hf : ∀ e, (f e).key = e.key) : (p.update k f).Distinct := by
  unfold Distinct Pool.update
  rw [List.map_map, show ((·.key) ∘ fun e : PoolEntry => if e.key = k then f e else e) = (·.key)
    from funext fun e => by
      rw [Function.comp_apply]
      split
      · exact hf e
      · rfl]
  exact hp

/-- **The page to evict is buffered and has no pin.** -/
theorem find?_of_victim? (hp : p.Distinct) (h : p.victim? = some k) :
    ∃ e, p.find? k = some e ∧ e.pins = 0 := by
  obtain ⟨e, he, rfl⟩ := Option.map_eq_some_iff.mp h
  have hmem : e ∈ p.entries := List.mem_reverse.mp (List.mem_of_find?_eq_some he)
  exact ⟨e, find?_of_mem hp hmem, by simpa using List.find?_some he⟩

theorem mem_keysWhere {cond : PoolEntry → Bool} (hp : p.Distinct) :
    k ∈ p.keysWhere cond ↔ ∃ e, p.find? k = some e ∧ cond e = true := by
  unfold keysWhere
  rw [List.mem_map]
  constructor
  · rintro ⟨e, he, rfl⟩
    exact ⟨e, find?_of_mem hp (List.mem_filter.mp he).1, (List.mem_filter.mp he).2⟩
  · rintro ⟨e, he, hcond⟩
    obtain ⟨hmem, hkey⟩ := mem_of_find? he
    exact ⟨e, List.mem_filter.mpr ⟨hmem, hcond⟩, hkey⟩

/-! ## What the pool says about a page

Three questions about a page are all that is asked below: in which frame it is
buffered, how many pins it has, and whether it is dirty. -/

/-- The frame of a page, if it is buffered. -/
def frame? (p : Pool) (k : PageKey) : Option FrameId := (p.find? k).map (·.frame)

/-- Whether a page is buffered and dirty. -/
def isDirty (p : Pool) (k : PageKey) : Bool := (p.find? k).any (·.dirty)

theorem frame?_of_find? (h : p.find? k = some e) : p.frame? k = some e.frame := by
  rw [frame?, h, Option.map_some]

theorem pinCount_of_find? (h : p.find? k = some e) : p.pinCount k = e.pins := by
  rw [pinCount, h]

/-- A page with a pin is buffered. -/
theorem exists_of_pinCount_ne_zero (h : p.pinCount k ≠ 0) :
    ∃ e, p.find? k = some e ∧ e.pins ≠ 0 := by
  cases hfind : p.find? k with
  | none =>
    rw [pinCount, hfind] at h
    exact absurd rfl h
  | some e =>
    rw [pinCount_of_find? hfind] at h
    exact ⟨e, rfl, h⟩

theorem isDirty_of_find? (h : p.find? k = some e) : p.isDirty k = e.dirty := by
  rw [isDirty, h, Option.any_some]

theorem frame?_eq_none_iff : p.frame? k = none ↔ p.find? k = none := Option.map_eq_none_iff

/-- A page that is not buffered is clean and has no pin. -/
theorem isDirty_of_frame?_none (h : p.frame? k = none) : p.isDirty k = false := by
  rw [isDirty, frame?_eq_none_iff.mp h, Option.any_none]

theorem pinCount_of_pinnedCount (h : p.pinnedCount = 0) (k : PageKey) : p.pinCount k = 0 := by
  rw [pinnedCount, List.countP_eq_zero] at h
  cases hfind : p.find? k with
  | none => rw [pinCount, hfind]
  | some e =>
    rw [pinCount_of_find? hfind]
    exact Nat.le_zero.mp (Nat.not_lt.1 fun hpos =>
      h e (mem_of_find? hfind).1 (decide_eq_true hpos))

theorem pinCount_of_frame?_none (h : p.frame? k = none) : p.pinCount k = 0 := by
  rw [pinCount, frame?_eq_none_iff.mp h]

theorem frame?_erase : (p.erase k).frame? j = if j = k then none else p.frame? j := by
  rw [frame?, find?_erase]
  split <;> rfl

theorem pinCount_erase : (p.erase k).pinCount j = if j = k then 0 else p.pinCount j := by
  rw [pinCount, find?_erase]
  by_cases hj : j = k
  · rw [if_pos hj, if_pos hj]
  · rw [if_neg hj, if_neg hj]
    rfl

theorem isDirty_erase : (p.erase k).isDirty j = if j = k then false else p.isDirty j := by
  rw [isDirty, find?_erase]
  split <;> rfl

theorem frame?_use : (p.use e).frame? j = if j = e.key then some e.frame else p.frame? j := by
  rw [frame?, find?_use]
  split <;> rfl

theorem pinCount_use : (p.use e).pinCount j = if j = e.key then e.pins else p.pinCount j := by
  rw [pinCount, find?_use]
  by_cases hj : j = e.key
  · rw [if_pos hj, if_pos hj]
  · rw [if_neg hj, if_neg hj]
    rfl

theorem isDirty_use : (p.use e).isDirty j = if j = e.key then e.dirty else p.isDirty j := by
  rw [isDirty, find?_use]
  split <;> rfl

theorem frame?_update {f : PoolEntry → PoolEntry} (hf : ∀ e, (f e).key = e.key)
    (hframe : ∀ e, (f e).frame = e.frame) : (p.update k f).frame? j = p.frame? j := by
  rw [frame?, find?_update hf]
  split
  · rw [Option.map_map, show (·.frame) ∘ f = (·.frame) from funext hframe]
    rfl
  · rfl

theorem pinCount_update {f : PoolEntry → PoolEntry} (hf : ∀ e, (f e).key = e.key)
    (h : p.find? k = some e) :
    (p.update k f).pinCount j = if j = k then (f e).pins else p.pinCount j := by
  rw [pinCount, find?_update hf]
  by_cases hj : j = k
  · subst hj
    rw [if_pos rfl, if_pos rfl, h]
    rfl
  · rw [if_neg hj, if_neg hj]
    rfl

/-- An entry that keeps its pins keeps the count of its page. -/
theorem pinCount_update_of_pins {f : PoolEntry → PoolEntry} (hf : ∀ e, (f e).key = e.key)
    (hpins : ∀ e, (f e).pins = e.pins) : (p.update k f).pinCount j = p.pinCount j := by
  rw [pinCount, pinCount, find?_update hf]
  by_cases hj : j = k
  · rw [if_pos hj]
    cases p.find? j with
    | none => rfl
    | some e => exact hpins e
  · rw [if_neg hj]

theorem isDirty_update {f : PoolEntry → PoolEntry} (hf : ∀ e, (f e).key = e.key)
    (h : p.find? k = some e) :
    (p.update k f).isDirty j = if j = k then (f e).dirty else p.isDirty j := by
  rw [isDirty, find?_update hf]
  by_cases hj : j = k
  · subst hj
    rw [if_pos rfl, if_pos rfl, h]
    rfl
  · rw [if_neg hj, if_neg hj]
    rfl

end SlottedFile.Pool
