import ReverseDns.Record.Id
import ReverseDns.Proofs.Slashes

/-!
# IDs of record sets

What reading an ID can give, and which IDs are read back as they were written.

* `Address.Plain` -- no part of the address has a slash; every ID that can be read names such an
  address
* `Address.Printable` -- the addresses that survive being written into an ID and read from it
* `PtrRecordId.parse_format` -- reading an ID that was written
* `Address.same_iff` -- one record set up to letter case
-/

namespace ReverseDns

open Text (Slashless trimEnd)

/-! ## Addresses -/

namespace Address

/-- No part of the address has a slash. -/
structure Plain (address : Address) : Prop where
  resourceGroup : Slashless address.resourceGroup
  zoneName : Slashless address.zoneName
  recordName : Slashless address.recordName

/-- The address survives being written into an ID: no part has a slash, and no blank stands at the
end of the record name, which is the end of the ID. -/
structure Printable (address : Address) : Prop extends Plain address where
  trimmed : trimEnd address.recordName = address.recordName

theorem same_iff {first second : Address} :
    first.same second ↔
      Text.lowerCase first.resourceGroup = Text.lowerCase second.resourceGroup ∧
      Text.lowerCase first.zoneName = Text.lowerCase second.zoneName ∧
      Text.lowerCase first.recordName = Text.lowerCase second.recordName := by
  simp [same, and_assoc]

theorem same_refl (address : Address) : address.same address := by
  simp [same]

theorem same_trans {first second third : Address} (front : first.same second)
    (back : second.same third) : first.same third := by
  rw [same_iff] at front back ⊢
  exact ⟨front.1.trans back.1, front.2.1.trans back.2.1, front.2.2.trans back.2.2⟩

end Address

/-! ## What an ID can name -/

namespace ResourceId

theorem mem_of_mem_pairs {segments : List String} {pair : String × String}
    (member : pair ∈ pairs segments) : pair.2 ∈ segments := by
  induction segments using pairs.induct with
  | case1 key value rest inductionHypothesis =>
    rw [pairs] at member
    rcases List.mem_cons.mp member with rfl | member
    · simp
    · have inside := inductionHypothesis member
      simp [inside]
  | case2 segments short =>
    rw [pairs] at member
    · cases member
    · exact short

/-- The values of an ID are values of its pairs. -/
theorem values_of_ofPairs {path : String} {complete : List (String × String)} {id : ResourceId}
    (parsed : ofPairs path complete = .ok id) :
    (∃ pair ∈ complete, pair.2 = id.resourceGroup) ∧ ∀ pair ∈ id.path, pair ∈ complete := by
  unfold ofPairs at parsed
  split at parsed
  next => cases parsed
  next subscription found =>
    have kept : ∀ pair ∈ Keyed.ofPairs (complete.eraseP isSubscription), pair ∈ complete :=
      fun pair member => List.mem_of_mem_eraseP (Keyed.mem_of_mem_ofPairs member)
    dsimp only at parsed
    split at parsed
    next => cases parsed
    next group grouped =>
      cases parsed
      constructor
      · exact ⟨_, kept _ (Keyed.mem_of_get? grouped), rfl⟩
      · intro pair member
        exact kept pair (List.mem_filter.mp (List.mem_filter.mp member).1).1

/-- What stands between the slashes of an ID has no slash. -/
theorem slashless_of_parse {text : String} {id : ResourceId} (parsed : parse text = .ok id) :
    Slashless id.resourceGroup ∧ ∀ pair ∈ id.path, Slashless pair.2 := by
  unfold parse ofPath at parsed
  split at parsed
  next found split =>
    cases parsed
    dsimp only at split
    split at split
    next => cases split
    next =>
      split at split
      next => cases split
      next =>
        have plain : ∀ pair ∈ pairs (Text.split (Text.bare (Text.trim text))), Slashless pair.2 :=
          fun pair member => Text.slashless_of_mem_split (mem_of_mem_pairs member)
        obtain ⟨⟨group, member, equal⟩, inside⟩ := values_of_ofPairs split
        exact ⟨equal ▸ plain group member, fun pair member => plain pair (inside pair member)⟩
  next => cases parsed

end ResourceId

namespace PtrRecordId

/-- An ID that can be read names a plain address. -/
theorem plain_of_parse {text : String} {id : PtrRecordId} (parsed : parse text = .ok id) :
    id.address.Plain := by
  unfold parse at parsed
  split at parsed
  next => cases parsed
  next found resource =>
    obtain ⟨group, inside⟩ := ResourceId.slashless_of_parse resource
    split at parsed
    next => cases parsed
    next => cases parsed
    next zoneName recordName zone record =>
      cases parsed
      exact {
        resourceGroup := group
        zoneName := inside _ (Keyed.mem_of_get? zone)
        recordName := inside _ (Keyed.mem_of_get? record) }

theorem ne_empty_of_parse {text : String} {id : PtrRecordId} (parsed : parse text = .ok id) :
    text ≠ "" := by
  rintro rfl
  have refused : ∃ failure, parse "" = .error failure := ⟨_, rfl⟩
  obtain ⟨failure, refused⟩ := refused
  rw [refused] at parsed
  cases parsed

/-! ## Reading what was written -/

/-- The segments in front of the record name in an ID that is written. -/
def leading (id : PtrRecordId) : List String :=
  ["subscriptions", id.subscriptionId, "resourceGroups", id.resourceGroup,
    "providers", provider, "dnszones", id.zoneName, "PTR"]

theorem format_eq (id : PtrRecordId) :
    id.format = Text.join ("" :: (id.leading ++ [id.recordName])) := rfl

theorem slashless_of_mem_leading {id : PtrRecordId} (subscription : Slashless id.subscriptionId)
    (plain : id.address.Plain) : ∀ segment ∈ id.leading, Slashless segment := by
  have group : Slashless id.resourceGroup := plain.resourceGroup
  have zone : Slashless id.zoneName := plain.zoneName
  have constant : ∀ segment ∈ ["subscriptions", "resourceGroups", "providers", provider,
      "dnszones", "PTR"], Slashless segment := by decide
  intro segment member
  simp only [leading, List.mem_cons, List.not_mem_nil, or_false] at member
  rcases member with rfl | rfl | rfl | rfl | rfl | rfl | rfl | rfl | rfl
  · exact constant _ (by simp)
  · exact subscription
  · exact constant _ (by simp)
  · exact group
  · exact constant _ (by simp)
  · exact constant _ (by simp)
  · exact constant _ (by simp)
  · exact zone
  · exact constant _ (by simp)

theorem leading_ne_nil (id : PtrRecordId) : id.leading ≠ [] := List.cons_ne_nil _ _

theorem pairs_leading (id : PtrRecordId) (name : String) :
    ResourceId.pairs (id.leading ++ [name]) =
      [("subscriptions", id.subscriptionId), ("resourceGroups", id.resourceGroup),
        ("providers", provider), ("dnszones", id.zoneName), ("PTR", name)] := rfl

theorem ofPath_leading {id : PtrRecordId} {name : String}
    (subscription : id.subscriptionId ≠ "") (group : id.resourceGroup ≠ "")
    (zone : id.zoneName ≠ "") (named : name ≠ "")
    (plain : ∀ segment ∈ id.leading ++ [name], Slashless segment) :
    ResourceId.ofPath (Text.join (id.leading ++ [name])) = .ok {
      subscriptionId := id.subscriptionId
      resourceGroup := id.resourceGroup
      provider := some provider
      path := [("dnszones", id.zoneName), ("PTR", name)] } := by
  -- without slashes inside, the segments are those that were joined
  have segments : Text.split (Text.join (id.leading ++ [name])) = id.leading ++ [name] :=
    Text.split_join (by simp) plain
  have even : ((id.leading ++ [name]).length % 2 != 0) = false := by simp [leading]
  have complete : (ResourceId.pairs (id.leading ++ [name])).find? ResourceId.isIncomplete = none := by
    simp [pairs_leading, ResourceId.isIncomplete, subscription, group, zone, named, provider]
  rw [ResourceId.ofPath, segments, even, complete, pairs_leading]
  rfl

/-- An ID is read as it was written, but for blanks at the end of the record name. -/
theorem parse_format {id : PtrRecordId} (subscription : id.subscriptionId ≠ "")
    (subscriptionPlain : Slashless id.subscriptionId) (group : id.resourceGroup ≠ "")
    (zone : id.zoneName ≠ "") (plain : id.address.Plain) (named : trimEnd id.recordName ≠ "") :
    parse id.format = .ok { id with recordName := trimEnd id.recordName } := by
  have trimmedPlain : Slashless (trimEnd id.recordName) := Text.slashless_trimEnd plain.recordName
  have segments : ∀ segment ∈ id.leading ++ [trimEnd id.recordName], Slashless segment := by
    intro segment member
    rcases List.mem_append.mp member with member | member
    · exact slashless_of_mem_leading subscriptionPlain plain segment member
    · exact List.mem_singleton.mp member ▸ trimmedPlain
  -- blanks are trimmed off the whole text, whose end is the record name
  have path : Text.bare (Text.trim id.format) = Text.join (id.leading ++ [trimEnd id.recordName]) := by
    rw [format_eq, Text.trim_join id.leading_ne_nil,
      Text.bare_join id.leading_ne_nil named trimmedPlain]
  have resource : ResourceId.parse id.format = .ok {
      subscriptionId := id.subscriptionId
      resourceGroup := id.resourceGroup
      provider := some provider
      path := [("dnszones", id.zoneName), ("PTR", trimEnd id.recordName)] } := by
    unfold ResourceId.parse
    rw [path, ofPath_leading subscription group zone named segments]
  unfold parse
  rw [resource]
  rfl

/-- A record name of blanks alone leaves an odd number of segments. -/
theorem parse_format_of_blank {id : PtrRecordId} (subscriptionPlain : Slashless id.subscriptionId)
    (plain : id.address.Plain) (blank : trimEnd id.recordName = "") :
    ∃ failure, parse id.format = .error failure := by
  -- the slash in front of the name goes with it
  have path : Text.bare (Text.trim id.format) = Text.join id.leading := by
    rw [format_eq, Text.trim_join id.leading_ne_nil, blank,
      Text.bare_join_empty id.leading_ne_nil]
  have segments : Text.split (Text.join id.leading) = id.leading :=
    Text.split_join id.leading_ne_nil (slashless_of_mem_leading subscriptionPlain plain)
  have odd : (id.leading.length % 2 != 0) = true := by simp [leading]
  have fault : ResourceId.ofPath (Text.join id.leading) =
      .error (.oddSegments (Text.join id.leading)) := by
    simp only [ResourceId.ofPath, segments, odd, if_true]
  have refused : ResourceId.parse id.format =
      .error (.badId (.oddSegments (Text.join id.leading)) id.format) := by
    unfold ResourceId.parse
    rw [path, fault]
  unfold parse
  rw [refused]
  exact ⟨_, rfl⟩

end PtrRecordId

end ReverseDns
