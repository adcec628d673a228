import SlottedFile.Proofs.Records.Replay

/-!
# Records that were acknowledged

Whoever makes calls on a record file knows from the answers which records there are: an
insertion that was acknowledged puts a record at a place, a deletion takes one away
(`acknowledged`). A keyed store on which the history can be replayed has these records and
no others (`Replays.records_eq`).
-/

namespace SlottedFile

/-- **What an event does to the records**, as far as whoever made the call is told. -/
def RecordEvent.apply (records : RecordId → Option (List UInt8)) :
    RecordEvent → RecordId → Option (List UInt8)
  | ⟨.insert record, .ok (.inserted id)⟩ => Function.update records id (some record)
  | ⟨.insertAt id record, .ok _⟩ => Function.update records id (some record)
  | ⟨.update id record, .ok _⟩ => Function.update records id (some record)
  | ⟨.delete id, .ok _⟩ => Function.update records id none
  | _ => records

/-- **The records that were acknowledged** and not taken away again. -/
def acknowledged (history : List RecordEvent) : RecordId → Option (List UInt8) :=
  history.foldl RecordEvent.apply fun _ => none

theorem acknowledged_append (history : List RecordEvent) (event : RecordEvent) :
    acknowledged (history ++ [event]) = event.apply (acknowledged history) :=
  List.foldl_append

/-! ## What a history says of the records -/

variable {k k' : KeyedStore}

/-- **A call does to the records of a store what its answer says.** -/
theorem RecordCall.ends_spec (call : RecordCall) :
    Ends call.spec k (fun r k' => k'.records = RecordEvent.apply k.records ⟨call, .ok r⟩)
      (fun _ _ => True) := by
  cases call with
  | insert record =>
    exact ends_bind.mpr (ends_iff.mpr
      ⟨fun _ _ hinsert => KeyedStore.records_of_insert hinsert, fun _ _ _ => trivial⟩)
  | insertAt id record =>
    refine ends_bind.mpr ((KeyedStore.ends_insertAt id record).imp ?_ fun _ _ h => h)
    rintro _ _ ⟨-, -, -, rfl⟩
    exact KeyedStore.records_occupy k id record
  | delete id =>
    refine ends_bind.mpr ((KeyedStore.ends_delete id).imp ?_ fun _ _ h => h)
    rintro _ _ ⟨-, rfl⟩
    exact KeyedStore.records_vacate k id
  | update id record =>
    refine ends_bind.mpr ((KeyedStore.ends_update id record).imp ?_ fun _ _ h => h)
    rintro _ _ ⟨-, rfl⟩
    rfl
  | get id =>
    refine ends_bind.mpr (ends_bind.mpr ((KeyedStore.ends_checkLive id).imp ?_ fun _ _ h => h))
    rintro _ _ ⟨-, rfl⟩
    rfl
  | freePage =>
    refine ends_bind.mpr (ends_bind.mpr (ends_get.mpr ?_))
    cases k.free <;> rfl
  | pinPage page =>
    refine ends_bind.mpr ((KeyedStore.ends_checkPage page).imp ?_ fun _ _ h => h)
    rintro _ _ ⟨-, rfl⟩
    rfl
  | scan | first | next | newPage | unpin | write | releasePage | flush => rfl

theorem KeyedStep.records_eq {event : RecordEvent} (h : KeyedStep k event k') :
    k'.records = event.apply k.records := by
  cases h with
  | @returned call r _ hspec => exact call.ends_spec.of_ok hspec
  | @cutShort call full r _ hspec hcut =>
    -- what is cut short are items, and items say nothing of a record
    obtain ⟨hbad⟩ := hcut
    have hfull := call.ends_spec.of_ok hspec
    cases call <;> exact hfull
  | @refused call e hspec => cases call <;> rfl
  | @wanting call e hwant => cases call <;> rfl

/-- **A history that was replayed on an empty store** leaves it with the records that were
acknowledged. -/
theorem Replays.records_eq {k₀ : KeyedStore} {history : List RecordEvent} (h : Replays k₀ history k)
    (hempty : k₀.records = fun _ => none) : k.records = acknowledged history := by
  induction h with
  | start => exact hempty
  | step _ hstep ih => rw [hstep.records_eq, ih, acknowledged_append]

end SlottedFile
