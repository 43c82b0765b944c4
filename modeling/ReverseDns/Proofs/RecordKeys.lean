import ReverseDns.Proofs.RecordSets

/-!
# Keys of record sets

The memory keeps a record set under one text: the key of its zone, its type and its name, joined by
slashes. Names may have slashes themselves, so the joined text tells them apart only because a type
is written in capitals, of which lower case has none: the first capital is where the type begins.

* `Text.not_isUpper_of_mem_lowerCase` -- lower case has no capitals
* `RecordKey.Slot`, `RecordKey.slot` -- what a key consists of
* `Memory.recordKey_eq_iff` -- keys of offered types are equal exactly if all they consist of is
-/

namespace ReverseDns

/-! ## Capitals -/

namespace Text

theorem isUpper_iff {c : Char} : c.isUpper = true ↔ 0x41 ≤ c.toNat ∧ c.toNat ≤ 0x5A := by
  change decide (c.val ≥ 'A'.val ∧ c.val ≤ 'Z'.val) = true ↔ _
  rw [decide_eq_true_iff, ge_iff_le, UInt32.le_iff_toNat_le, UInt32.le_iff_toNat_le]
  rfl

theorem not_isUpper_of_toNat {c : Char} (apart : c.toNat < 0x41 ∨ 0x5A < c.toNat) :
    c.isUpper = false := by
  rw [Bool.eq_false_iff, ne_eq, isUpper_iff]
  omega

theorem not_isUpper_ofNat {n : Nat} (large : 0x5A < n) : (Char.ofNat n).isUpper = false := by
  have shown := toNat_ofNat n
  exact not_isUpper_of_toNat (by omega)

theorem not_isUpper_of_mem_lowerChar {c image : Char} (member : image ∈ lowerChar c) :
    image.isUpper = false := by
  unfold lowerChar at member
  split at member
  next ascii =>
    rw [List.mem_singleton] at member
    rw [member]
    split
    next upper =>
      simp only [Bool.and_eq_true, decide_eq_true_eq] at upper
      exact not_isUpper_ofNat (by omega)
    next other =>
      simp only [Bool.and_eq_true, decide_eq_true_eq] at other
      exact not_isUpper_of_toNat (by omega)
  next beyond =>
    split at member
    next =>
      -- the dotted capital I
      simp only [List.mem_cons, List.not_mem_nil, or_false] at member
      rcases member with rfl | rfl <;> decide
    next =>
      split at member
      next run found =>
        have large := capital_lt_image run (List.mem_of_find?_eq_some found)
        rw [List.mem_singleton] at member
        rw [member]
        exact not_isUpper_ofNat (by omega)
      next =>
        rw [List.mem_singleton] at member
        rw [member]
        exact not_isUpper_of_toNat (by omega)

theorem not_isUpper_of_mem_lowerFrom {before cs : List Char} {image : Char}
    (member : image ∈ lowerFrom before cs) : image.isUpper = false := by
  induction cs generalizing before with
  | nil => cases member
  | cons c rest inductionHypothesis =>
    rw [lowerFrom, List.mem_append] at member
    rcases member with member | member
    · split at member
      next sigma =>
        rw [List.mem_singleton] at member
        rw [member]
        split <;> decide
      next => exact not_isUpper_of_mem_lowerChar member
    · exact inductionHypothesis member

theorem not_isUpper_of_mem_lowerCase {s : String} {c : Char} (member : c ∈ (lowerCase s).toList) :
    c.isUpper = false := by
  rw [lowerCase, String.toList_ofList] at member
  exact not_isUpper_of_mem_lowerFrom member

/-- Where one stretch of capitals follows on a text without any, and a slash on it, all three can be
told from the whole. -/
theorem capitals_inj {front middle back otherFront otherMiddle otherBack : List Char}
    (frontLower : ∀ c ∈ front, c.isUpper = false)
    (otherFrontLower : ∀ c ∈ otherFront, c.isUpper = false)
    (nonempty : middle ≠ []) (otherNonempty : otherMiddle ≠ [])
    (upper : ∀ c ∈ middle, c.isUpper = true) (otherUpper : ∀ c ∈ otherMiddle, c.isUpper = true)
    (equal : front ++ (middle ++ '/' :: back) = otherFront ++ (otherMiddle ++ '/' :: otherBack)) :
    front = otherFront ∧ middle = otherMiddle ∧ back = otherBack := by
  -- the text up to the first capital, and what begins there
  have divided (front middle back : List Char) (lower : ∀ c ∈ front, c.isUpper = false)
      (nonempty : middle ≠ []) (upper : ∀ c ∈ middle, c.isUpper = true) :
      (front ++ (middle ++ '/' :: back)).takeWhile (!·.isUpper) = front ∧
      (front ++ (middle ++ '/' :: back)).dropWhile (!·.isUpper) = middle ++ '/' :: back := by
    obtain ⟨first, rest, rfl⟩ := List.exists_cons_of_ne_nil nonempty
    have capital : first.isUpper = true := upper first (List.mem_cons_self ..)
    rw [List.takeWhile_append_of_pos (by simpa using lower),
      List.dropWhile_append_of_pos (by simpa using lower)]
    simp [capital]
  -- and the same for the end of the capitals
  have parted (middle back : List Char) (upper : ∀ c ∈ middle, c.isUpper = true) :
      (middle ++ '/' :: back).takeWhile Char.isUpper = middle ∧
      (middle ++ '/' :: back).dropWhile Char.isUpper = '/' :: back := by
    have slash : Char.isUpper '/' = false := by decide
    rw [List.takeWhile_append_of_pos upper, List.dropWhile_append_of_pos upper]
    simp [slash]
  obtain ⟨taken, dropped⟩ := divided front middle back frontLower nonempty upper
  obtain ⟨otherTaken, otherDropped⟩ :=
    divided otherFront otherMiddle otherBack otherFrontLower otherNonempty otherUpper
  rw [equal, otherTaken] at taken
  rw [equal, otherDropped] at dropped
  obtain ⟨middleTaken, backDropped⟩ := parted middle back upper
  obtain ⟨otherMiddleTaken, otherBackDropped⟩ := parted otherMiddle otherBack otherUpper
  rw [← dropped, otherMiddleTaken] at middleTaken
  rw [← dropped, otherBackDropped] at backDropped
  exact ⟨taken.symm, middleTaken.symm, (List.cons.inj backDropped).2.symm⟩

end Text

/-! ## Slots -/

/-- What tells record sets apart: their zone, up to letter case, with the slash in it; their type;
and their name, up to letter case. -/
structure Slot where
  zone : String
  recordType : RecordType
  recordName : String
deriving Repr, DecidableEq

def RecordKey.slot (key : RecordKey) : Slot where
  zone := Text.lowerCase key.resourceGroup ++ "/" ++ Text.lowerCase key.zoneName
  recordType := key.recordType
  recordName := Text.lowerCase key.recordName

theorem RecordType.capitals_of_offered {recordType : RecordType}
    (member : recordType ∈ RecordType.offered) :
    recordType.name.toList ≠ [] ∧ ∀ c ∈ recordType.name.toList, c.isUpper = true := by
  -- the names are walked; all characters as such would be too many to try
  have checked : RecordType.offered.all (fun offered =>
      !offered.name.toList.isEmpty && offered.name.toList.all Char.isUpper) = true := by decide
  have own := List.all_eq_true.mp checked recordType member
  simpa using own

namespace Memory

theorem recordKey_eq (key : RecordKey) : recordKey key =
    key.slot.zone ++ "/" ++ key.slot.recordType.name ++ "/" ++ key.slot.recordName := rfl

/-- Keys of offered types are told apart by their zone, their type and their name. -/
theorem recordKey_eq_iff {first second : RecordKey}
    (firstOffered : first.recordType ∈ RecordType.offered)
    (secondOffered : second.recordType ∈ RecordType.offered) :
    recordKey first = recordKey second ↔ first.slot = second.slot := by
  constructor
  · intro equal
    have lower (key : RecordKey) : ∀ c ∈ key.slot.zone.toList ++ ['/'], c.isUpper = false := by
      intro c member
      simp only [RecordKey.slot, String.toList_append, List.mem_append] at member
      rcases member with ((member | member) | member) | member
      · exact Text.not_isUpper_of_mem_lowerCase member
      · obtain rfl := List.mem_singleton.mp member
        decide
      · exact Text.not_isUpper_of_mem_lowerCase member
      · obtain rfl := List.mem_singleton.mp member
        decide
    obtain ⟨firstNonempty, firstUpper⟩ := RecordType.capitals_of_offered firstOffered
    obtain ⟨secondNonempty, secondUpper⟩ := RecordType.capitals_of_offered secondOffered
    have chars := congrArg String.toList equal
    simp only [recordKey_eq, String.toList_append, List.append_assoc] at chars
    rw [← List.append_assoc, ← List.append_assoc second.slot.zone.toList] at chars
    obtain ⟨zone, type, name⟩ := Text.capitals_inj (lower first) (lower second) firstNonempty
      secondNonempty firstUpper secondUpper chars
    have zones : first.slot.zone = second.slot.zone :=
      String.toList_injective (List.append_cancel_right zone)
    have types : first.slot.recordType = second.slot.recordType :=
      congrArg RecordType.mk (String.toList_injective type)
    have names : first.slot.recordName = second.slot.recordName := String.toList_injective name
    calc first.slot = ⟨first.slot.zone, first.slot.recordType, first.slot.recordName⟩ := rfl
      _ = second.slot := by rw [zones, types, names]
  · intro same
    rw [recordKey_eq, recordKey_eq, same]

end Memory

end ReverseDns
