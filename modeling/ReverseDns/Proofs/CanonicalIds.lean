import ReverseDns.Proofs.IdGrammar

/-!
# Canonical IDs

The IDs of PTR record sets that are read as they were written, and the texts that are written as
they were read. Both have the same parts: none is empty, none has a slash, and the record name, with
which an ID ends, does not end in a blank.

* `PtrRecordId.Canonical` -- parts that survive being written and read
* `PtrRecordId.parts_of_parse` -- what every ID that was read has of this
* `PtrRecordId.round_trips` -- both directions
-/

namespace ReverseDns

namespace Text

theorem trimEnd_eq_self_iff {s : String} :
    trimEnd s = s ↔ ∀ c ∈ s.toList.getLast?, isBlank c = false := by
  have chars : trimEnd s = s ↔ s.toList.rdropWhile isBlank = s.toList := by
    rw [← String.toList_inj, trimEnd, String.toList_ofList, dropBlankEnd_eq]
  rw [chars, List.rdropWhile_eq_self_iff]
  constructor
  · intro kept c last
    obtain ⟨nonempty, rfl⟩ := List.mem_getLast?_eq_getLast last
    simpa using kept nonempty
  · intro kept nonempty
    simp [kept _ (List.getLast?_eq_some_getLast nonempty)]

/-- A text that can stand between two slashes of an ID. -/
structure Fits (part : String) : Prop where
  nonempty : part ≠ ""
  slashless : Slashless part

end Text

open Text (Fits Slashless trimEnd isBlank)

namespace ResourceId

/-- The values that count in an ID fit between its slashes. -/
theorem fits_of_parse {text : String} {id : ResourceId} (parsed : parse text = .ok id) :
    Fits id.subscriptionId ∧ Fits id.resourceGroup ∧
      ∀ pair ∈ id.path, Fits pair.2 := by
  have plain (segment : String) (inside : segment ∈ Text.split (Text.bare (Text.trim text))) :
      Slashless segment := Text.slashless_of_mem_split inside
  have reading := reading_ofPath (Text.bare (Text.trim text))
  generalize Text.split (Text.bare (Text.trim text)) = segments at plain reading
  unfold parse at parsed
  generalize ofPath (Text.bare (Text.trim text)) = outcome at parsed reading
  cases reading with
  | reported => cases parsed
  | described pairs id whole complete describes =>
    cases parsed
    have fits (key value : String) (member : (key, value) ∈ pairs) : Fits value :=
      ⟨(complete _ member).2, plain value (whole ▸ mem_inTurn.mpr ⟨_, member, .inr rfl⟩)⟩
    refine ⟨fits _ _ describes.subscriptionId.mem, ?_, fun pair member => ?_⟩
    · rcases describes.resourceGroup with last | ⟨-, last⟩
      · exact fits _ _ last.mem
      · exact fits _ _ last.mem
    · exact fits _ _ ((describes.path pair.1 pair.2).mp member).2.mem

end ResourceId

namespace PtrRecordId

/-- The parts of an ID can be written between slashes and are found there again. -/
structure Canonical (id : PtrRecordId) : Prop where
  subscriptionId : Fits id.subscriptionId
  resourceGroup : Fits id.resourceGroup
  zoneName : Fits id.zoneName
  recordName : Fits id.recordName
  ending : ∀ c ∈ id.recordName.toList.getLast?, isBlank c = false

theorem parts_of_parse {text : String} {id : PtrRecordId} (parsed : parse text = .ok id) :
    Fits id.subscriptionId ∧ Fits id.resourceGroup ∧ Fits id.zoneName ∧
      Fits id.recordName := by
  unfold parse at parsed
  split at parsed
  next => cases parsed
  next resource found =>
    obtain ⟨subscription, group, path⟩ := ResourceId.fits_of_parse found
    split at parsed
    next => cases parsed
    next => cases parsed
    next zoneName recordName zone record =>
      cases parsed
      exact ⟨subscription, group, path _ (Keyed.mem_of_get? zone),
        path _ (Keyed.mem_of_get? record)⟩

/-- An ID is read as it was written exactly if it is canonical. -/
theorem parse_format_eq_iff {id : PtrRecordId} : parse id.format = .ok id ↔ id.Canonical := by
  constructor
  · intro parsed
    obtain ⟨subscription, group, zone, name⟩ := parts_of_parse parsed
    have plain : id.address.Plain := ⟨group.slashless, zone.slashless, name.slashless⟩
    refine ⟨subscription, group, zone, name, Text.trimEnd_eq_self_iff.mp ?_⟩
    by_cases blank : trimEnd id.recordName = ""
    · -- the record name would be lost with the slash in front of it
      obtain ⟨failure, refused⟩ := parse_format_of_blank subscription.slashless plain blank
      rw [refused] at parsed
      cases parsed
    · rw [parse_format subscription.nonempty subscription.slashless group.nonempty zone.nonempty
        plain blank] at parsed
      exact congrArg recordName (Except.ok.inj parsed)
  · rintro ⟨subscription, group, zone, name, ending⟩
    have kept : trimEnd id.recordName = id.recordName := Text.trimEnd_eq_self_iff.mpr ending
    have named : trimEnd id.recordName ≠ "" := by
      rw [kept]
      exact name.nonempty
    rw [parse_format subscription.nonempty subscription.slashless group.nonempty zone.nonempty
      ⟨group.slashless, zone.slashless, name.slashless⟩ named, kept]

theorem format_eq_append (id : PtrRecordId) :
    id.format = "/subscriptions/" ++ id.subscriptionId ++ "/resourceGroups/" ++ id.resourceGroup ++
      "/providers/Microsoft.Network/dnszones/" ++ id.zoneName ++ "/PTR/" ++ id.recordName := by
  apply String.toList_injective
  simp [format, Text.join, provider]

/-- An ID is read as it was written exactly if it is canonical, and a text that was read is written
again as it is exactly if it spells out a canonical ID. -/
theorem round_trips :
    (∀ id : PtrRecordId, parse id.format = .ok id ↔ id.Canonical) ∧
      ∀ text id, parse text = .ok id →
        (id.format = text ↔ ∃ other : PtrRecordId, other.Canonical ∧
          text = "/subscriptions/" ++ other.subscriptionId ++ "/resourceGroups/" ++
            other.resourceGroup ++ "/providers/Microsoft.Network/dnszones/" ++ other.zoneName ++
            "/PTR/" ++ other.recordName) := by
  refine ⟨fun _ => parse_format_eq_iff, fun text id parsed => ⟨?_, ?_⟩⟩
  · rintro rfl
    exact ⟨id, parse_format_eq_iff.mp parsed, format_eq_append id⟩
  · rintro ⟨other, canonical, rfl⟩
    rw [← format_eq_append] at parsed ⊢
    rw [parse_format_eq_iff.mpr canonical] at parsed
    cases parsed
    rfl

/-- An ID with blanks and a slash around it and a second subscription: it is read, and not written
again as it is. -/
def roundabout : String := " /subscriptions/s/resourcegroups/g/subscriptions/t/dnszones/z/PTR/a/ "

def ofRoundabout : PtrRecordId := ⟨"s", "g", "z", "a"⟩

theorem round_trips_roundabout :
    parse roundabout = .ok ofRoundabout ∧
      (ofRoundabout.format = roundabout ↔ ∃ other : PtrRecordId, other.Canonical ∧
        roundabout = "/subscriptions/" ++ other.subscriptionId ++ "/resourceGroups/" ++
          other.resourceGroup ++ "/providers/Microsoft.Network/dnszones/" ++ other.zoneName ++
          "/PTR/" ++ other.recordName) :=
  have parsed : parse roundabout = .ok ofRoundabout := rfl
  ⟨parsed, round_trips.2 roundabout ofRoundabout parsed⟩

end PtrRecordId

end ReverseDns
