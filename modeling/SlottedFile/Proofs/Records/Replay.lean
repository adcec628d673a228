import SlottedFile.Proofs.Keyed.Scan
import SlottedFile.Proofs.Records.Calls

/-!
# Calls replayed on a keyed store

What came of a row of calls is a history, and a history can be replayed on a keyed
store (`Replays`): every answer is the store's, every error is one that the store
gives – or else a page could not be pinned or added, and then the store is as if
the call had not been made. A scan that such an error cuts short has answered what
the store answers up to there.

A call on a file that represents a store can be replayed on the store
(`RecordCall.ends_replayed`).
-/

namespace SlottedFile

/-- **A failure for want of a page**: it could not be pinned, or not added. -/
inductive WantOfPage : RecordError → Prop
  | fetch (page : Nat) (e : FileError) : WantOfPage (.internal (.fetch page e))
  | allocate (e : FileError) : WantOfPage (.internal (.allocate e))

/-- **A file whose pages can be addressed** is never too long. -/
theorem PoolFailure.wantOfPage_of_reach {p : PlainFile} {e : Fault RecordError}
    (hreach : (p.count + 1) * blockSize ≤ Files.maxOffset) (h : PoolFailure p e) :
    ∃ e', e = .error e' ∧ WantOfPage e' := by
  have hblock : blockSize = 8192 := rfl
  have hoffset : Files.maxOffset = 9223372036854775807 := rfl
  have hword : wordLimit = 18446744073709551616 := rfl
  match e, h with
  | .error (.internal (.fetch page fe)), _ => exact ⟨_, rfl, .fetch page fe⟩
  | .error (.internal (.allocate fe)), _ => exact ⟨_, rfl, .allocate fe⟩
  | .error (.file _), h =>
    have hfar : Files.maxOffset < (p.count + 1) * blockSize := h
    exact absurd hreach (Nat.not_le.2 hfar)
  | .overrun _, h =>
    have hfar : wordLimit ≤ (p.count + 2) * blockSize := h
    rw [hblock] at hfar hreach
    omega

/-- Nor is one whose pages a link can name. -/
theorem PoolFailure.wantOfPage {p : PlainFile} {e : Fault RecordError} (hcount : p.count < noPage)
    (h : PoolFailure p e) : ∃ e', e = .error e' ∧ WantOfPage e' := by
  have hnoPage : noPage = 4294967295 := rfl
  have hblock : blockSize = 8192 := rfl
  have hoffset : Files.maxOffset = 9223372036854775807 := rfl
  refine h.wantOfPage_of_reach ?_
  rw [hblock]
  omega

/-! ## What a call does to a keyed store -/

/-- **What a call does to a keyed store.** The calls that are not read-only have no
counterpart. -/
def RecordCall.spec : RecordCall → KeyedM RecordReply
  | insert record => do return .inserted (← KeyedStore.insert record)
  | insertAt id record => do
    KeyedStore.insertAt id record
    return .done
  | delete id => do
    KeyedStore.delete id
    return .done
  | update id record => do
    KeyedStore.update id record
    return .done
  | get id => do return .record (← KeyedStore.get id)
  | scan => do return .items ((← EStateM.get).live.map .ok)
  | first => do return .position (← EStateM.get).live.head?
  | next id => do return .position ((← EStateM.get).seek id.page (id.slot + 1))
  | newPage => do return .page (← KeyedStore.newPage)
  | freePage => do return .page (← KeyedStore.freePage)
  | pinPage page => do
    KeyedStore.checkPage page
    return .page page
  | unpin _ | write _ _ | releasePage _ | flush => return .done

section Spec

variable {p p' : PlainFile} {k k' : KeyedStore} {α : Type}

theorem Agrees.map {m : PlainM α} {a : KeyedM α} (h : Agrees p k m a) (f : α → RecordReply) :
    Agrees p k (do return f (← m)) (do return f (← a)) := by
  refine ends_bind.mpr (Ends.imp h ?_ ?_)
  · intro v p' hv
    refine ends_bind.mpr (hv.imp ?_ fun _ _ h => h)
    rintro v' k' ⟨rfl, hfollows⟩
    exact ⟨rfl, hfollows⟩
  · intro e p' he
    exact ends_bind.mpr (he.imp (fun _ _ h => h.elim) fun _ _ h => h)

/-- What is answered without a change. -/
theorem Agrees.of_eq {m : PlainM α} {a : KeyedM α} {v : α} (h : Represents p k)
    (hm : m p = .ok v p) (ha : a k = .ok v k) : Agrees p k m a := by
  refine (ends_of_ok hm).mpr ?_
  exact (ends_of_ok ha).mpr ⟨rfl, .refl h⟩

/-- **A call does to a file what it does to the store** that the file
represents. -/
theorem RecordCall.agrees (h : Represents p k) (hpages : p.header.pages < noPage)
    {call : RecordCall} (hread : call.ReadOnly) : Agrees p k call.plain call.spec := by
  have hseek : ∀ page slot, PlainFile.seek page slot p = .ok (k.seek page slot) p := by
    intro page slot
    rw [PlainFile.seek_eq h.whole.toSized, h.marks.found_eq]
  cases call with
  | insert record => exact (agrees_insert h record).map .inserted
  | insertAt id record => exact (agrees_insertAt h id record).map fun _ => .done
  | delete id => exact (agrees_delete h hpages id).map fun _ => .done
  | update id record => exact (agrees_update h id record).map fun _ => .done
  | get id => exact (agrees_get h id).map .record
  | scan =>
    refine .of_eq h ?_ rfl
    show EStateM.Result.ok _ _ = _
    rw [h.marks.trail_start]
  | first =>
    refine Agrees.map (a := fun k => .ok k.live.head? k) (.of_eq h ?_ rfl) .position
    rw [hseek, KeyedStore.seek_zero]
  | next id =>
    exact Agrees.map (a := fun k => .ok (k.seek id.page (id.slot + 1)) k)
      (.of_eq h (hseek _ _) rfl) .position
  | newPage => exact (agrees_newPage h hpages).map .page
  | freePage => exact (agrees_freePage h).map .page
  | pinPage page =>
    refine h.agrees_checkPage fun _ => ?_
    exact .of_eq h rfl rfl
  | unpin pin => exact .of_eq h rfl rfl
  | flush =>
    refine .of_eq h ?_ rfl
    show EStateM.Result.ok _ (p.withHeader p.header) = _
    rw [PlainFile.withHeader_self h.whole]
  | write pin bytes => exact hread.elim
  | releasePage pin => exact hread.elim

end Spec

/-! ## Histories -/

/-- **A call that was made**, and what came of it. -/
structure RecordEvent where
  call : RecordCall
  outcome : Except (Fault RecordError) RecordReply

/-- **A call replayed on a store.** -/
inductive KeyedStep (k : KeyedStore) : RecordEvent → KeyedStore → Prop
  | returned {call : RecordCall} {r : RecordReply} {k' : KeyedStore}
      (hspec : call.spec k = .ok r k') : KeyedStep k ⟨call, .ok r⟩ k'
  | cutShort {call : RecordCall} {full r : RecordReply} {k' : KeyedStore}
      (hspec : call.spec k = .ok full k') (hcut : full.CutShort WantOfPage r) :
      KeyedStep k ⟨call, .ok r⟩ k'
  | refused {call : RecordCall} {e : RecordError} (hspec : call.spec k = .error e k) :
      KeyedStep k ⟨call, .error (.error e)⟩ k
  | wanting {call : RecordCall} {e : RecordError} (hwant : WantOfPage e) :
      KeyedStep k ⟨call, .error (.error e)⟩ k

/-- **A history replayed on a store**, its first event first. -/
inductive Replays (k₀ : KeyedStore) : List RecordEvent → KeyedStore → Prop
  | start : Replays k₀ [] k₀
  | step {history : List RecordEvent} {event : RecordEvent} {k k' : KeyedStore}
      (hreplays : Replays k₀ history k) (hstep : KeyedStep k event k') :
      Replays k₀ (history ++ [event]) k'

section Replay

variable {imageOf : Nat → ImageId} {raw : List Hold} {p₀ : PlainFile} {k : KeyedStore}
  {s s' : Session}

theorem RecordReply.CutShort.imp {bad bad' : RecordError → Prop} {full r : RecordReply}
    (h : full.CutShort bad r) (himp : ∀ e, bad e → bad' e) : full.CutShort bad' r := by
  obtain ⟨hbad⟩ := h
  exact .items (himp _ hbad)

/-- **Every call can be replayed** on the store that the file represents. -/
theorem RecordCall.ends_replayed (hs : s.Good imageOf raw) (hp : s.plain imageOf = p₀)
    (h : Represents p₀ k) (hpages : p₀.header.pages < noPage) {call : RecordCall}
    (hread : call.ReadOnly) (hallowed : call.Allowed s) :
    Ends call.run s
      (fun r s' => ∃ p', Session.Became imageOf raw s p' s' ∧ PlainFile.Grown p₀ p' ∧
        ∃ k', KeyedStep k ⟨call, .ok r⟩ k' ∧ Follows p₀ k p' k')
      (fun e s' => Session.Became imageOf raw s p₀ s' ∧ KeyedStep k ⟨call, .error e⟩ k) := by
  have hagrees := RecordCall.agrees h hpages hread
  have hcount : p₀.count < noPage := h.whole.count ▸ hpages
  refine Ends.imp (call.ends_run hs hp h.whole hallowed) ?_ ?_
  · rintro r s' ⟨full, p', hplain, hbecame, hanswer⟩
    refine ⟨p', hbecame, call.grows_plain.of_ok h.whole.toSized hplain, ?_⟩
    obtain ⟨v, k', hspec, rfl, hfollows⟩ := (hagrees.of_ok hplain).exists_ok
    refine ⟨k', ?_, hfollows⟩
    rcases hanswer with rfl | hcut
    · exact .returned hspec
    · refine .cutShort hspec (hcut.imp fun e hpool => ?_)
      obtain ⟨e', he, hwant⟩ := hpool.wantOfPage hcount
      cases he
      exact hwant
  · rintro e s' ⟨hbecame, hpool | ⟨p', hplain⟩⟩
    · obtain ⟨e', rfl, hwant⟩ := hpool.wantOfPage hcount
      exact ⟨hbecame, .wanting hwant⟩
    · have hrefused := hagrees.of_error hplain
      cases hspec : call.spec k with
      | ok v k' => exact ((ends_of_ok hspec).mp hrefused).elim
      | error e' k' =>
        obtain ⟨rfl, rfl⟩ := (ends_of_error hspec).mp hrefused
        exact ⟨hbecame, .refused hspec⟩

end Replay

end SlottedFile
