import Mathlib.Data.List.Perm.Subperm
import SlottedFile.Proofs.Plain.Steps

/-!
# Where the free list leads

The free list is spread over the pages: each says which page comes next. What it
leads through is a list of pages (`FreeChain`), and the walk that looks for a
page finds it where it stands in that list, or not at all. The walk does not give
up before it is through, since a list without repetitions is no longer than the
file has pages.

Links that were damaged may lead out of the file or in a circle. Then one can still
say how far they lead before that happens (`FreeWalk`).
-/

namespace SlottedFile

/-- **The pages that a chain of links leads through**, from its head to its
end. -/
def FreeChain (next : Nat → Option Nat) : Option Nat → List Nat → Prop
  | head, [] => head = none
  | head, page :: rest => head = some page ∧ FreeChain next (next page) rest

namespace FreeChain

variable {next next' : Nat → Option Nat} {head : Option Nat}

/-- A chain is a matter of the links of its own pages. -/
theorem congr {l : List Nat} (h : FreeChain next head l) (hagree : ∀ page ∈ l, next' page = next page) :
    FreeChain next' head l := by
  induction l generalizing head with
  | nil => exact h
  | cons page rest ih =>
    refine ⟨h.1, ?_⟩
    rw [hagree page List.mem_cons_self]
    exact ih h.2 fun q hq => hagree q (List.mem_cons_of_mem _ hq)

/-- **A page is put in front** of the pages of a chain, with the old head for its link. -/
theorem push {l : List Nat} {page : Nat} (h : FreeChain next head l) (hnotMem : page ∉ l)
    (hnext : ∀ q, next' q = if q = page then head else next q) :
    FreeChain next' (some page) (page :: l) := by
  refine ⟨rfl, ?_⟩
  rw [hnext, if_pos rfl]
  refine h.congr fun q hq => ?_
  rw [hnext, if_neg]
  rintro rfl
  exact hnotMem hq

theorem head_eq {l : List Nat} (h : FreeChain next head l) : head = l.head? := by
  cases l with
  | nil => exact h
  | cons page rest => exact h.1

/-- **Chains that lead through the same pages** have the same links. -/
theorem next_eq {l : List Nat} (h : FreeChain next head l) {head' : Option Nat}
    (h' : FreeChain next' head' l) : ∀ page ∈ l, next' page = next page := by
  induction l generalizing head head' with
  | nil => nofun
  | cons page rest ih =>
    exact List.forall_mem_cons.mpr ⟨h'.2.head_eq.trans h.2.head_eq.symm, ih h.2 h'.2⟩

/-- **A page is unlinked** by handing its link to the page before it. -/
theorem unlink {before rest : List Nat} {prev page : Nat}
    (h : FreeChain next head (before ++ prev :: page :: rest))
    (hagree : ∀ q ∈ before ++ rest, next' q = next q) (hprev : next' prev = next page) :
    FreeChain next' head (before ++ prev :: rest) := by
  induction before generalizing head with
  | nil =>
    refine ⟨h.1, ?_⟩
    rw [hprev]
    exact FreeChain.congr h.2.2 hagree
  | cons q before ih =>
    refine ⟨h.1, ?_⟩
    rw [hagree q List.mem_cons_self]
    exact ih h.2 fun q' hq' => hagree q' (List.mem_cons_of_mem _ hq')

end FreeChain

/-! ## Links that lead astray -/

/-- **The pages that a chain of links leads through at first**, however it goes on. -/
def FreeStart (next : Nat → Option Nat) : Option Nat → List Nat → Prop
  | _, [] => True
  | head, page :: rest => head = some page ∧ FreeStart next (next page) rest

theorem FreeChain.start {next : Nat → Option Nat} {head : Option Nat} {l : List Nat}
    (h : FreeChain next head l) : FreeStart next head l := by
  induction l generalizing head with
  | nil => trivial
  | cons page rest ih => exact ⟨h.1, ih h.2⟩

/-- A chain that ends has gone through all pages that it leads through at first. -/
theorem FreeChain.prefix_of_start {next : Nat → Option Nat} {head : Option Nat} {l l' : List Nat}
    (h : FreeChain next head l) (h' : FreeStart next head l') : l' <+: l := by
  induction l' generalizing head l with
  | nil => exact List.nil_prefix
  | cons page rest ih =>
    obtain ⟨rfl, hrest⟩ := h'
    cases l with
    | nil => cases h
    | cons page' rest' =>
      obtain ⟨heq, hrest'⟩ := h
      obtain rfl := Option.some.inj heq
      exact List.cons_prefix_cons.mpr ⟨rfl, ih hrest' hrest⟩

/-- **A walk along a chain of links**: the pages that it leads through at first, as long as
they lie in the file and none comes twice. -/
structure FreeWalk (next : Nat → Option Nat) (pages : Nat) (head : Option Nat) (l : List Nat) :
    Prop where
  start : FreeStart next head l
  inside : ∀ page ∈ l, page < pages
  nodup : l.Nodup

namespace FreeWalk

variable {next next' : Nat → Option Nat} {pages : Nat} {head : Option Nat} {l : List Nat}

theorem nil : FreeWalk next pages head [] := ⟨trivial, nofun, List.nodup_nil⟩

theorem cons_iff {page : Nat} : FreeWalk next pages head (page :: l) ↔
    head = some page ∧ page < pages ∧ page ∉ l ∧ FreeWalk next pages (next page) l := by
  constructor
  · rintro ⟨⟨hhead, hstart⟩, hinside, hnodup⟩
    rw [List.forall_mem_cons] at hinside
    rw [List.nodup_cons] at hnodup
    exact ⟨hhead, hinside.1, hnodup.1, hstart, hinside.2, hnodup.2⟩
  · rintro ⟨hhead, hpage, hnew, hrest⟩
    exact ⟨⟨hhead, hrest.start⟩, List.forall_mem_cons.mpr ⟨hpage, hrest.inside⟩,
      List.nodup_cons.mpr ⟨hnew, hrest.nodup⟩⟩

/-- A walk is a matter of the links of the pages that there are. -/
theorem congr (h : FreeWalk next pages head l) (hagree : ∀ page < pages, next' page = next page) :
    FreeWalk next' pages head l := by
  induction l generalizing head with
  | nil => exact nil
  | cons page rest ih =>
    obtain ⟨hhead, hpage, hnew, hrest⟩ := cons_iff.mp h
    refine cons_iff.mpr ⟨hhead, hpage, hnew, ?_⟩
    rw [hagree page hpage]
    exact ih hrest

/-- A chain without repetitions that stays in the file is a walk to its end. -/
theorem of_chain (h : FreeChain next head l) (hinside : ∀ page ∈ l, page < pages) (hnodup : l.Nodup) :
    FreeWalk next pages head l :=
  ⟨h.start, hinside, hnodup⟩

end FreeWalk

/-- **No list of pages without repetitions is longer than there are pages.** -/
theorem length_le_of_nodup {l : List Nat} {pages : Nat} (hnodup : l.Nodup)
    (hinside : ∀ page ∈ l, page < pages) : l.length ≤ pages := by
  have hsub : l ⊆ List.range pages := fun page hpage => List.mem_range.mpr (hinside page hpage)
  exact (hnodup.subperm hsub).length_le.trans_eq List.length_range

/-! ## Looking for a page -/

/-- **What it means to stand somewhere in a list of pages.** -/
def FreePosition.Stands (l : List Nat) (page : Nat) : FreePosition → Prop
  | head => ∃ rest, l = page :: rest
  | after prev => ∃ before rest, l = before ++ prev :: page :: rest
  | absent => page ∉ l

namespace PlainFile

variable {p : PlainFile}

/-- What a page says. -/
def data (p : PlainFile) (page : Nat) : PageData := p.layout.data (p.page page)

theorem data_withPage (p : PlainFile) (page : Nat) (b : Block) (q : Nat) :
    (p.withPage page b).data q = if q = page then p.layout.data b else p.data q := by
  show p.layout.data (Function.update p.page page b q) = _
  rw [Function.update_apply]
  split <;> rfl

/-- The link of a page. -/
def next (p : PlainFile) (page : Nat) : Option Nat := (p.data page).next

/-- The links after a page is edited. -/
theorem next_withPage (page : Nat) (b : Block) (q : Nat) :
    (p.withPage page b).next q = if q = page then (p.layout.data b).next else p.next q := by
  unfold next
  rw [data_withPage]
  split <;> rfl

/-- An edit that leaves the link alone leaves all links alone. -/
theorem next_withPage_of_eq (p : PlainFile) (page : Nat) (b : Block)
    (h : (p.layout.data b).next = p.next page) (q : Nat) :
    (p.withPage page b).next q = p.next q := by
  rw [next_withPage]
  split
  · rename_i heq
    rw [h, heq]
  · rfl

theorem ends_nextFree {page : Nat} (hpage : page < p.header.pages)
    {good : Option Nat → PlainFile → Prop} {bad : Fault RecordError → PlainFile → Prop} :
    Ends (nextFree page) p good bad ↔ good (p.next page) p := by
  unfold nextFree
  rw [ends_bind, ends_checkPage, and_iff_left fun hle => absurd hpage (Nat.not_lt.2 hle)]
  refine ⟨fun h => ?_, fun h _ => ?_⟩
  · have hlook := h hpage
    rw [ends_bind, ends_look (PageLayout.decode_eq (p.page page) p.layout)] at hlook
    exact hlook
  · rw [ends_bind, ends_look (PageLayout.decode_eq (p.page page) p.layout)]
    exact h

/-- **The walk along the free list**, from a page on. -/
theorem ends_locateFrom {page : Nat} {left : Nat} (seen : List Nat) {l : List Nat}
    {current : Option Nat} (hchain : FreeChain p.next current l) (hinside : ∀ q ∈ l, q < p.header.pages)
    (hleft : l.length ≤ left) (hseen : page ∉ seen) :
    Ends (locateFrom page left seen.getLast? current) p
      (fun position p' => p' = p ∧ position.Stands (seen ++ l) page) (fun _ _ => False) := by
  -- the induction is on what is still ahead
  induction l generalizing left seen current with
  | nil =>
    obtain rfl : current = none := hchain
    have hend : locateFrom page left seen.getLast? none = pure .absent := by cases left <;> rfl
    rw [hend]
    refine ends_pure.mpr ⟨rfl, ?_⟩
    rw [List.append_nil]
    exact hseen
  | cons listed rest ih =>
    obtain ⟨rfl, hrest⟩ := hchain
    obtain ⟨left, rfl⟩ : ∃ n, left = n + 1 := Nat.exists_eq_succ_of_ne_zero (by
      rw [List.length_cons] at hleft
      omega)
    unfold locateFrom
    rw [ends_ite]
    refine ⟨?_, fun hother => ?_⟩
    · rintro rfl
      refine ends_pure.mpr ⟨rfl, ?_⟩
      cases hlast : seen.getLast? with
      | none =>
        rw [List.getLast?_eq_none_iff.mp hlast]
        exact ⟨rest, rfl⟩
      | some prev =>
        obtain ⟨before, rfl⟩ := List.getLast?_eq_some_iff.mp hlast
        exact ⟨before, rest, by rw [List.append_assoc]; rfl⟩
    · rw [ends_bind, ends_nextFree (hinside listed List.mem_cons_self)]
      have hstep := ih (seen ++ [listed]) hrest
        (fun q hq => hinside q (List.mem_cons_of_mem _ hq)) (Nat.le_of_succ_le_succ hleft) ?_
      · rw [List.getLast?_concat, List.append_assoc] at hstep
        exact hstep
      · rw [List.mem_append, List.mem_singleton, not_or]
        exact ⟨hseen, Ne.symm hother⟩

/-- **A page is found where it stands on the free list.** -/
theorem ends_locate {l : List Nat} (hchain : FreeChain p.next p.header.freeHead l)
    (hinside : ∀ q ∈ l, q < p.header.pages) (hnodup : l.Nodup) (page : Nat) :
    Ends (locate page) p (fun position p' => p' = p ∧ position.Stands l page)
      (fun _ _ => False) :=
  ends_locateFrom [] hchain hinside (length_le_of_nodup hnodup hinside) List.not_mem_nil

end PlainFile

end SlottedFile
