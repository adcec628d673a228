import Mathlib.Data.List.TakeWhile
import SlottedFile.Proofs.Disk

/-!
# Paths along which nothing can be made

A file is created by the name that its path ends in, in the directory that the other
segments lead to, and the directories that are missing are made first. Whichever of these
steps fails, it fails for something that also keeps the path from leading to a file
(`Disk.leads_nowhere_of_createFile`): so a file that cannot be created is not there
afterwards, even though directories may have been made on the way.

What a path leads to is compared with what it names (`Disk.target_of_resolve`). The
difference is in how a path can end – with two dots, or with a slash – and then what it
leads to is a directory. That the place above a directory is a directory as well is not
part of what a disk is, but it is true of every place that a walk comes to.
-/

namespace SlottedFile

namespace Disk

variable {d d' : Disk} {place q : Place} {p up : Path}

/-! ## Walks that stay among directories -/

/-- **A place below directories only**: those on the way down to it. -/
def Rooted (d : Disk) (place : Place) : Prop :=
  ∀ above, above <+: place → above ≠ place → d.node? above = some .directory

theorem node?_of_part_of_home (h : place <+: home) : d.node? place = some .directory := by
  unfold node?
  rw [if_pos (List.isPrefixOf_iff_prefix.mpr h)]

theorem startOf_isPart (p : Path) : startOf p <+: home := by
  unfold startOf
  split
  · exact List.nil_prefix
  · exact List.prefix_rfl

theorem rooted_startOf (d : Disk) (p : Path) : d.Rooted (startOf p) :=
  fun _ habove _ => node?_of_part_of_home (habove.trans (startOf_isPart p))

/-- The place above a directory is one. -/
theorem Rooted.dropLast (h : d.Rooted place) (hnode : d.node? place = some .directory) :
    d.Rooted place.dropLast ∧ d.node? place.dropLast = some .directory := by
  have hprefix := place.dropLast_prefix
  have hbelow : ∀ above, above <+: place.dropLast → d.node? above = some .directory := by
    intro above habove
    by_cases heq : above = place
    · rw [heq]
      exact hnode
    · exact h above (habove.trans hprefix) heq
  exact ⟨fun above habove _ => hbelow above habove, hbelow _ List.prefix_rfl⟩

/-- **What a step of a walk comes to**: the directory itself, the one above it, or an entry
of it. -/
theorem cases_of_step {segment : String} (h : d.step place segment = .ok q) :
    d.node? place = some .directory ∧
      (Path.isIdle segment = true ∧ q = place ∨
        Path.isIdle segment = false ∧ segment = ".." ∧ q = place.dropLast ∨
        Path.isIdle segment = false ∧ segment ≠ ".." ∧ segment.utf8ByteSize ≤ maxSegment ∧
          q = place ++ [segment] ∧ ∃ n, d.node? q = some n) := by
  unfold step at h
  split at h
  · rename_i hnode
    refine ⟨hnode, ?_⟩
    split at h
    · exact .inl ⟨‹_›, (Except.ok.inj h).symm⟩
    · rename_i hidle
      rw [Bool.not_eq_true] at hidle
      split at h
      · rename_i hup
        exact .inr (.inl ⟨hidle, by simpa using hup, (Except.ok.inj h).symm⟩)
      · rename_i hup
        split at h
        · cases h
        · rename_i hshort
          split at h
          · rename_i n hentry
            cases h
            exact .inr (.inr ⟨hidle, by simpa using hup, Nat.not_lt.1 hshort, rfl, n, hentry⟩)
          · cases h
  · cases h
  · cases h

theorem Rooted.step {segment : String} (h : d.Rooted place) (hstep : d.step place segment = .ok q) :
    d.Rooted q := by
  obtain ⟨hnode, ⟨-, rfl⟩ | ⟨-, -, rfl⟩ | ⟨-, -, -, rfl, -⟩⟩ := cases_of_step hstep
  · exact h
  · exact (h.dropLast hnode).1
  · intro above habove hne
    rcases List.prefix_concat_iff.mp habove with heq | hprefix
    · exact absurd heq hne
    · by_cases heq : above = place
      · rw [heq]
        exact hnode
      · exact h above hprefix heq

theorem Rooted.walk {segments : List String} (h : d.Rooted place)
    (hwalk : d.walk place segments = .ok q) : d.Rooted q := by
  induction segments generalizing place with
  | nil => exact Except.ok.inj hwalk ▸ h
  | cons segment rest ih =>
    obtain ⟨next, hstep, hrest⟩ := walk_cons_eq_ok_iff.mp hwalk
    exact ih (h.step hstep) hrest

/-- The slashes at the end of a path ask for a directory. -/
theorem walk_of_empty {segments : List String} (hempty : ∀ segment ∈ segments, segment = "")
    (h : d.walk place segments = .ok q) :
    q = place ∧ (segments ≠ [] → d.node? place = some .directory) := by
  induction segments with
  | nil => exact ⟨(Except.ok.inj h).symm, fun hne => absurd rfl hne⟩
  | cons segment rest ih =>
    obtain ⟨rfl, hrest⟩ := List.forall_mem_cons.mp hempty
    obtain ⟨next, hstep, hwalk⟩ := walk_cons_eq_ok_iff.mp h
    obtain ⟨hnode, ⟨-, rfl⟩ | ⟨hidle, -⟩ | ⟨hidle, -⟩⟩ := cases_of_step hstep
    · exact ⟨(ih hrest hwalk).1, fun _ => hnode⟩
    · cases hidle
    · cases hidle

/-! ## What a path names, and where it leads -/

/-- **Where a path leads, as far as it ends there**: to a directory that it does not name as
an entry, or to the entry that it names. -/
inductive Reached (d : Disk) (q : Place) : Target → Prop
  | directory (hnode : d.node? q = some .directory) : Reached d q .directory
  | entry {slashed : Bool} {n : Node} (hshort : (q.getLastD "").utf8ByteSize ≤ maxSegment)
      (hnode : d.node? q = some n) (hslashed : slashed = true → n = .directory) :
      Reached d q (.entry q slashed)

/-- What stands in front of the slashes at the end of a path. -/
theorem segments_eq_of_dropWhile (segments : List String) :
    ∃ slashes, (∀ segment ∈ slashes, segment = "") ∧
      segments = (segments.reverse.dropWhile (· == "")).reverse ++ slashes := by
  refine ⟨(segments.reverse.takeWhile (· == "")).reverse, fun segment hmem => ?_, ?_⟩
  · simpa using List.mem_takeWhile_imp (List.mem_reverse.mp hmem)
  · rw [← List.reverse_append, List.takeWhile_append_dropWhile, List.reverse_reverse]

theorem ne_of_dropWhile {segments before : List String} {last : String}
    (h : segments.dropWhile (· == "") = last :: before) : last ≠ "" := by
  have hhead := List.head?_dropWhile_not (· == "") segments
  rw [h] at hhead
  simpa using hhead

/-- **A name that a walk ends at**, in the directory that it has come to. -/
theorem reached_of_step {last : String} {slashed : Bool} (hrooted : d.Rooted place)
    (hlast : last ≠ "") (hstep : d.step place last = .ok q)
    (hslashed : slashed = true → d.node? q = some .directory) :
    d.node? place = some .directory ∧
      d.Reached q (if last == "." || last == ".." then .directory
        else .entry (place ++ [last]) slashed) := by
  obtain ⟨hnode, hcases⟩ := cases_of_step hstep
  refine ⟨hnode, ?_⟩
  unfold Path.isIdle at hcases
  rw [beq_eq_false_iff_ne.mpr hlast, Bool.false_or] at hcases
  rcases hcases with ⟨hdot, rfl⟩ | ⟨-, rfl, rfl⟩ | ⟨hdot, hup, hshort, rfl, n, hentry⟩
  · rw [hdot]
    exact .directory hnode
  · exact .directory (hrooted.dropLast hnode).2
  · rw [hdot, beq_eq_false_iff_ne.mpr hup]
    refine .entry ?_ hentry fun hslash => ?_
    · rwa [List.getLastD_concat]
    · exact Option.some.inj (hentry.symm.trans (hslashed hslash))

/-- **A path that leads somewhere names what it leads to.** -/
theorem target_of_resolve (h : d.resolve p = .ok q) : ∃ t, d.target p = .ok t ∧ d.Reached q t := by
  obtain ⟨hflaw, hwalk⟩ := resolve_eq_ok_iff.mp h
  obtain ⟨slashes, hempty, hsegments⟩ := segments_eq_of_dropWhile p.segments
  unfold target
  rw [hflaw]
  dsimp only
  split
  · rename_i hdrop
    rw [hsegments, hdrop] at hwalk
    obtain ⟨rfl, -⟩ := walk_of_empty hempty hwalk
    exact ⟨.directory, rfl, .directory (node?_of_part_of_home (startOf_isPart p))⟩
  · rename_i last before hdrop
    rw [hdrop, List.reverse_cons, List.append_assoc, List.singleton_append] at hsegments
    have hlast := ne_of_dropWhile hdrop
    rw [hsegments, walk_append_eq_ok_iff] at hwalk
    obtain ⟨up, hup, hwalk⟩ := hwalk
    obtain ⟨next, hstep, hwalk⟩ := walk_cons_eq_ok_iff.mp hwalk
    obtain ⟨rfl, hdir⟩ := walk_of_empty hempty hwalk
    have hslashed : (p.segments.getLast? == some "") = true → d.node? q = some .directory := by
      refine fun hslash => hdir ?_
      rintro rfl
      rw [hsegments, List.getLast?_concat] at hslash
      exact hlast (by simpa using hslash)
    obtain ⟨hnode, hreached⟩ :=
      reached_of_step ((rooted_startOf d p).walk hup) hlast hstep hslashed
    rw [hup]
    dsimp only
    rw [hnode]
    dsimp only
    rw [← apply_ite]
    exact ⟨_, rfl, hreached⟩

/-! ## Directories that cannot be made -/

/-- A path on which a file stands can be given a file again. -/
theorem createFile_of_file {i : ImageId} (h : d.resolve p = .ok q)
    (hnode : d.node? q = some (.file i)) : ∃ d', createFile p d = .ok () d' := by
  obtain ⟨t, htarget, hreached⟩ := target_of_resolve h
  have hends : Ends (createFile p) d (fun _ _ => True) (fun _ _ => False) := by
    unfold createFile
    rw [ends_bind, ends_locate]
    refine ⟨fun t' htarget' => ?_, fun e he => ?_⟩
    · rw [htarget] at htarget'
      cases htarget'
      cases hreached with
      | directory hdir => cases hnode.symm.trans hdir
      | @entry slashed n hshort hentry hslashed =>
        obtain rfl := Option.some.inj (hentry.symm.trans hnode)
        refine ends_ite.mpr ⟨fun hslash => absurd (hslashed hslash) nofun, fun _ => ?_⟩
        rw [ends_bind]
        refine ends_ite.mpr ⟨fun hlong => absurd hlong (Nat.not_lt.2 hshort), fun _ => ?_⟩
        rw [ends_bind, ends_get, hnode]
        trivial
    · rw [htarget] at he
      cases he
  obtain ⟨_, d', hok, -⟩ := hends.exists_ok
  exact ⟨d', hok⟩

/-- **A directory that is there need not be made**, so one that cannot be made is not
there. -/
theorem ends_ensureDirectory_failed (p : Path) :
    Ends (ensureDirectory p) d (fun _ _ => True) (fun _ d' => d' = d ∧ d.isDirectory p = false) := by
  have hmade : Ends (makeDirectory p) d (fun _ _ => True)
      (fun e d' => d' = d ∧ (e = .alreadyExists ∨ d.isDirectory p = false)) := by
    unfold makeDirectory
    rw [ends_bind, ends_locate]
    refine ⟨fun t htarget => ?_, fun e he => ⟨rfl, .inr ?_⟩⟩
    · cases t with
      | directory => exact ⟨rfl, .inl rfl⟩
      | entry place slashed =>
        rw [ends_bind]
        refine ends_ite.mpr ⟨fun hlong => ⟨rfl, .inr ?_⟩, fun _ => ?_⟩
        · -- the last name is too long for a walk as well
          unfold isDirectory find?
          cases hresolve : d.resolve p with
          | error e => rfl
          | ok q =>
            obtain ⟨t, htarget', hreached⟩ := target_of_resolve hresolve
            rw [htarget] at htarget'
            cases htarget'
            cases hreached with
            | entry hshort => exact absurd hlong (Nat.not_lt.2 hshort)
        · rw [ends_bind, ends_get]
          cases d.node? place with
          | some n => exact ⟨rfl, .inl rfl⟩
          | none => trivial
    · unfold isDirectory find?
      cases hresolve : d.resolve p with
      | error e => rfl
      | ok q =>
        obtain ⟨t, htarget, -⟩ := target_of_resolve hresolve
        rw [htarget] at he
        cases he
  refine ends_tryCatch.mpr (hmade.imp (fun _ _ _ => trivial) ?_)
  rintro e _ ⟨rfl, hcause⟩
  rw [ends_bind, ends_get]
  refine ends_ite.mpr ⟨fun _ => trivial, fun hnot => ⟨rfl, ?_⟩⟩
  rcases hcause with rfl | hdir
  · exact Bool.eq_false_iff.mpr fun hdir => hnot ⟨rfl, hdir⟩
  · exact hdir

/-! ## The directory above -/

theorem dropIdleEnd_isPart (segments : List String) : Path.dropIdleEnd segments <+: segments := by
  cases segments with
  | nil => exact List.prefix_rfl
  | cons first rest =>
    exact (List.prefix_cons_inj first).mpr
      (List.reverse_suffix.mp (by rw [List.reverse_reverse]; exact List.dropWhile_suffix _))

/-- **The path of the directory above** is a part of the path that ends before it does,
unless it is the root. -/
theorem segments_of_parent (h : p.parent = some up) (hup : up.isEmpty = false) :
    up.segments = ["", ""] ∨ up.segments ≠ [] ∧ ∃ rest, rest ≠ [] ∧
      p.segments = up.segments ++ rest := by
  unfold Path.parent at h
  split at h
  · cases h
  · split at h
    · cases h
    · cases h
      cases hup
  · rename_i hnil hone
    generalize hsegments : Path.dropIdleEnd p.segments = segments at h hnil hone
    have hprefix : segments <+: p.segments := hsegments ▸ dropIdleEnd_isPart _
    have hne : segments.dropLast ≠ [] := by
      match segments, hnil, hone with
      | [], hnil, _ => exact absurd rfl hnil
      | [first], _, hone => exact absurd rfl (hone first)
      | first :: second :: rest, _, _ => exact nofun
    have hlast : ∃ rest, rest ≠ [] ∧ p.segments = segments.dropLast ++ rest := by
      obtain ⟨rest, hrest⟩ := hprefix
      have hsegments : segments ≠ [] := fun heq => hne (by rw [heq]; rfl)
      refine ⟨segments.getLast hsegments :: rest, List.cons_ne_nil _ _, ?_⟩
      rw [← hrest, ← List.singleton_append, ← List.append_assoc, List.dropLast_concat_getLast]
    split at h
    · cases h
      exact .inl rfl
    · cases h
      right
      obtain ⟨rest, hrest, heq⟩ := hlast
      obtain ⟨rest', hrest'⟩ := dropIdleEnd_isPart segments.dropLast
      have hmore : rest' ++ rest ≠ [] := fun happend => hrest (List.append_eq_nil_iff.mp happend).2
      refine ⟨fun hnone => ?_, rest' ++ rest, hmore, ?_⟩
      · match hdrop : segments.dropLast with
        | [] => exact hne hdrop
        | first :: others =>
          rw [hdrop] at hnone
          cases hnone
      · rw [heq, ← List.append_assoc, hrest']

theorem isDirectory_iff : d.isDirectory p = true ↔
    ∃ q, d.resolve p = .ok q ∧ d.node? q = some .directory := by
  unfold isDirectory find?
  cases d.resolve p with
  | ok q => simp
  | error e => simp

theorem pathFlaw_eq_none_iff : pathFlaw p = none ↔
    (p.segments.any fun segment => segment.toList.contains '\x00') = false ∧
      p.isEmpty = false ∧ p.byteSize < pathLimit := by
  unfold pathFlaw formFlaw
  cases p.segments.any fun segment => segment.toList.contains '\x00' with
  | true => simp
  | false => cases p.isEmpty <;> simp

/-- A part of a path is no longer than the path. -/
theorem pathFlaw_of_part {rest : List String} (hflaw : pathFlaw p = none)
    (hsegments : p.segments = up.segments ++ rest) (hup : up.isEmpty = false) :
    pathFlaw up = none := by
  have hgrow : ∀ (l : List Nat) (n : Nat), n ≤ l.foldl (· + ·) n := by
    intro l
    induction l with
    | nil => exact Nat.le_refl
    | cons m l ih => exact fun n => Nat.le_trans (Nat.le_add_right n m) (ih _)
  have hsize : up.byteSize ≤ p.byteSize := by
    unfold Path.byteSize
    rw [hsegments, List.map_append, List.foldl_append, List.length_append]
    exact Nat.add_le_add (hgrow _ _) (Nat.sub_le_sub_right (Nat.le_add_right _ _) 1)
  obtain ⟨hzero, -, hshort⟩ := pathFlaw_eq_none_iff.mp hflaw
  rw [hsegments, List.any_append, Bool.or_eq_false_iff] at hzero
  exact pathFlaw_eq_none_iff.mpr ⟨hzero.1, hup, Nat.lt_of_le_of_lt hsize hshort⟩

/-- **A path that leads somewhere leads through the directory above.** -/
theorem isDirectory_parent (h : d.resolve p = .ok q) (hparent : p.parent = some up)
    (hup : up.isEmpty = false) : d.isDirectory up = true := by
  obtain ⟨hflaw, hwalk⟩ := resolve_eq_ok_iff.mp h
  rw [isDirectory_iff]
  rcases segments_of_parent hparent hup with hroot | ⟨hne, rest, hrest, hsegments⟩
  · obtain rfl : up = ⟨["", ""]⟩ := by
      cases up
      exact congrArg Path.mk hroot
    exact ⟨[], rfl, rfl⟩
  · have hempty := (pathFlaw_eq_none_iff.mp hflaw).2.1
    have hstart : startOf up = startOf p := by
      unfold startOf Path.isAbsolute
      rw [hup, hempty, hsegments, List.head?_append]
      cases hsegs : up.segments with
      | nil => exact absurd hsegs hne
      | cons first others => rfl
    rw [hsegments, walk_append_eq_ok_iff, ← hstart] at hwalk
    obtain ⟨w, hwhole, hwalk⟩ := hwalk
    refine ⟨w, resolve_eq_ok_iff.mpr ⟨pathFlaw_of_part hflaw hsegments hup, hwhole⟩, ?_⟩
    cases rest with
    | nil => exact absurd rfl hrest
    | cons segment rest =>
      obtain ⟨next, hstep, -⟩ := walk_cons_eq_ok_iff.mp hwalk
      exact (cases_of_step hstep).1

/-- **Directories that cannot be made are not there**, unless nothing was made at all. -/
theorem ends_makeDirectories_failed (depth : Nat) (p : Path) :
    Ends (makeDirectories depth p) d (fun _ _ => True)
      (fun _ d' => p.isEmpty = false ∧ (d' = d ∨ d'.isDirectory p = false)) := by
  induction depth generalizing d p with
  | zero => trivial
  | succ depth ih =>
    unfold makeDirectories
    refine ends_ite.mpr ⟨fun _ => trivial, fun hempty => ?_⟩
    rw [Bool.not_eq_true] at hempty
    refine ends_tryCatch.mpr ((ends_ensureDirectory_failed p).imp (fun _ _ _ => trivial) ?_)
    rintro e _ ⟨rfl, -⟩
    split
    · rename_i up hparent
      refine ends_bind.mpr ((ih up).imp (fun _ d' _ => ?_) ?_)
      · refine (ends_ensureDirectory_failed p).imp (fun _ _ _ => trivial) ?_
        rintro _ _ ⟨rfl, hdir⟩
        exact ⟨hempty, .inr hdir⟩
      · rintro _ d' ⟨hup, hsame | hdir⟩
        · exact ⟨hempty, .inl hsame⟩
        · refine ⟨hempty, .inr (Bool.eq_false_iff.mpr fun hfound => ?_)⟩
          obtain ⟨q, hresolve, -⟩ := isDirectory_iff.mp hfound
          rw [isDirectory_parent hresolve hparent hup] at hdir
          cases hdir
    · exact ⟨hempty, .inl rfl⟩

end Disk

/-- **A file that cannot be created is not there**: if the path did not lead to a file, it
leads to none after the attempt, whatever directories were made. -/
theorem Files.ends_createFile_failed (fs : Files) (path : Path)
    (hnone : ∀ place i, fs.disk.resolve path = .ok place → fs.disk.node? place ≠ some (.file i)) :
    Ends (createFile path) fs (fun _ _ => True) (fun e fs' => e.IsError ∧ ∀ place i,
      fs'.disk.resolve path = .ok place → fs'.disk.node? place ≠ some (.file i)) := by
  have hmake : ∀ fs : Files, Ends (onDisk (Disk.createFile path)) fs (fun _ _ => True)
      (fun e fs' => e.IsError ∧ ∀ place i,
        fs'.disk.resolve path = .ok place → fs'.disk.node? place ≠ some (.file i)) := by
    intro fs
    rw [ends_onDisk, ends_iff]
    refine ⟨fun _ _ _ => trivial, fun e d' hfailed => ⟨trivial, fun place i hplace hnode => ?_⟩⟩
    obtain rfl : d' = fs.disk := (Disk.ends_createFile path).of_error hfailed
    obtain ⟨d'', hok⟩ := Disk.createFile_of_file hplace hnode
    rw [hok] at hfailed
    cases hfailed
  unfold createFile
  rw [ends_bind, ends_get]
  refine ends_ite.mpr ⟨fun _ => ⟨trivial, hnone⟩, fun _ => ?_⟩
  dsimp only
  cases hparent : path.parent with
  | none => exact hmake fs
  | some up =>
    dsimp only
    rw [ends_bind, ends_onDisk]
    refine (Disk.ends_makeDirectories_failed _ up).imp (fun _ _ _ => hmake _) ?_
    rintro _ d' ⟨hup, rfl | hdir⟩
    · exact ⟨trivial, hnone⟩
    · refine ⟨trivial, fun place i hplace => ?_⟩
      rw [Disk.isDirectory_parent hplace hparent hup] at hdir
      cases hdir

/-! ## Paths that are too long -/

/-- **A disk on which no file stands.** -/
def Disk.Unfiled (d : Disk) : Prop := ∀ place i, d.node? place ≠ some (.file i)

theorem Disk.Unfiled.addDirectory {d : Disk} {place : Place} (hnone : d.node? place = none)
    (h : d.Unfiled) : (d.addDirectory place).Unfiled := by
  intro q i
  rw [node?_cons rfl hnone]
  split
  · exact nofun
  · exact h q i

/-- **No file is created at a path that is too long**, though directories above it may be. -/
theorem Files.ends_createFile_tooLong (fs : Files) {path : Path} (h : fs.disk.Unfiled)
    (hlong : Disk.pathLimit ≤ path.byteSize) :
    Ends (createFile path) fs (fun _ _ => False) (fun e fs' => e.IsError ∧ fs'.disk.Unfiled) := by
  have hmake : ∀ fs : Files, fs.disk.Unfiled → Ends (onDisk (Disk.createFile path)) fs
      (fun _ _ => False) (fun e fs' => e.IsError ∧ fs'.disk.Unfiled) := by
    intro fs h
    rw [ends_onDisk]
    unfold Disk.createFile
    rw [ends_bind, Disk.ends_locate]
    refine ⟨fun t htarget => ?_, fun e _ => ⟨trivial, h⟩⟩
    unfold Disk.target at htarget
    cases hflaw : Disk.pathFlaw path with
    | none => exact absurd (Disk.pathFlaw_eq_none_iff.mp hflaw).2.2 (Nat.not_lt.2 hlong)
    | some e =>
      rw [hflaw] at htarget
      cases htarget
  unfold createFile
  rw [ends_bind, ends_get]
  refine ends_ite.mpr ⟨fun _ => ⟨trivial, h⟩, fun _ => ?_⟩
  dsimp only
  cases path.parent with
  | none => exact hmake fs h
  | some up =>
    dsimp only
    rw [ends_bind, ends_onDisk]
    exact (Disk.ends_makeDirectories Disk.Unfiled.addDirectory _ up h).imp
      (fun _ d' h => hmake { fs with disk := d' } h) fun _ _ h => ⟨trivial, h⟩

end SlottedFile
