import ReverseDns.Json.Parser
import ReverseDns.Json.Printer
import Mathlib.Tactic.Common

/-!
# Strings are read as they were written

A wide text is read from its quoted form if its code points are joined as far as they can be. All
that the reader gives is such a text, and so is every text without lone halves. Such texts and lists
of 16-bit units are the same: each has one of the other.

* `WideText.points`, `WideText.Joined` -- the code points of a text, and the texts they make up
* `WideText.joined_ofPoints`, `WideText.joined_coe` -- the texts that are joined
* `WideText.units_ofUnits`, `WideText.Joined.ofUnits_units` -- joined texts and their units
* `string?_quote` -- a quoted text, read
-/

namespace ReverseDns

namespace WideText

/-! ## Code points -/

/-- The code points of characters, and of lone halves with the characters after them. -/
def flat (pieces : List Char × List (Nat × List Char)) : List Nat :=
  pieces.1.map Char.toNat ++ pieces.2.flatMap fun piece => piece.1 :: piece.2.map Char.toNat

/-- The pieces of a wide text, as lists. -/
def toPieces (text : WideText) : List Char × List (Nat × List Char) :=
  (text.start.toList, text.torn.map fun piece => (piece.1, piece.2.toList))

def points (text : WideText) : List Nat := flat text.toPieces

/-- The code points of the text are joined as far as they can be. -/
def Joined (text : WideText) : Prop := ofPoints text.points = text

theorem isHalf_toNat (c : Char) : isHalf c.toNat = false := by
  have valid := c.valid
  simp only [UInt32.isValidChar, Nat.isValidChar] at valid
  simp only [isHalf, Char.toNat, Bool.and_eq_false_iff, decide_eq_false_iff_not]
  omega

theorem isPair_of_whole {high low : Nat} (whole : isHalf high = false ∨ isHalf low = false) :
    isPair high low = false := by
  simp only [isPair, isHalf, Bool.and_eq_false_iff, decide_eq_false_iff_not] at whole ⊢
  omega

theorem flat_char (c : Char) (start : List Char) (torn : List (Nat × List Char)) :
    flat (c :: start, torn) = c.toNat :: flat (start, torn) := rfl

theorem flat_half (half : Nat) (start : List Char) (torn : List (Nat × List Char)) :
    flat ([], (half, start) :: torn) = half :: flat (start, torn) := rfl

/-- A character stands before the pieces of what follows. -/
theorem pieces_char (c : Char) (rest : List Nat) :
    pieces (c.toNat :: rest) = (c :: (pieces rest).1, (pieces rest).2) := by
  cases rest with
  | nil => simp [pieces, isHalf_toNat]
  | cons low rest => simp [pieces, isPair_of_whole (.inl (isHalf_toNat c)), isHalf_toNat]

/-- A half that completes no pair with what follows stands alone. -/
theorem pieces_half {half : Nat} {rest : List Nat} (isOne : isHalf half = true)
    (alone : ∀ low ∈ rest.head?, isPair half low = false) :
    pieces (half :: rest) = ([], (half, (pieces rest).1) :: (pieces rest).2) := by
  cases rest with
  | nil => simp [pieces, isOne]
  | cons low rest => simp [pieces, alone low rfl, isOne]

/-- The pieces of code points begin with the first of them, or with a character. -/
theorem head_flat_pieces (point : Nat) (rest : List Nat) :
    ∃ first others, flat (pieces (point :: rest)) = first :: others ∧
      (first = point ∨ isHalf first = false) := by
  have character (c : Char) (start : List Char) (torn : List (Nat × List Char)) :
      ∃ first others, flat (c :: start, torn) = first :: others ∧
        (first = point ∨ isHalf first = false) :=
    ⟨_, _, flat_char c start torn, .inr (isHalf_toNat c)⟩
  have half (start : List Char) (torn : List (Nat × List Char)) :
      ∃ first others, flat ([], (point, start) :: torn) = first :: others ∧
        (first = point ∨ isHalf first = false) :=
    ⟨_, _, flat_half point start torn, .inl rfl⟩
  cases rest with
  | nil =>
    rw [pieces]
    split
    · exact half _ _
    · exact character _ _ _
  | cons low rest =>
    rw [pieces]
    dsimp only
    split
    · exact character _ _ _
    · split
      · exact half _ _
      · exact character _ _ _

/-- What was joined once is joined. -/
theorem pieces_flat_pieces (points : List Nat) : pieces (flat (pieces points)) = pieces points := by
  fun_induction pieces points with
  | case1 => rfl
  | case2 point half => exact pieces_half half nofun
  | case3 point whole => exact pieces_char _ []
  | case4 high low rest pair start torn equal inductionHypothesis =>
    rw [equal] at inductionHypothesis
    rw [flat_char, pieces_char, inductionHypothesis]
  | case5 high low rest unpaired start torn equal half inductionHypothesis =>
    rw [equal] at inductionHypothesis
    rw [flat_half, pieces_half half, inductionHypothesis]
    -- what follows begins with `low`, or with a character
    obtain ⟨first, others, begins, kind⟩ := head_flat_pieces low rest
    rw [← equal, begins]
    rintro second ⟨rfl⟩
    rcases kind with rfl | whole
    · simpa using unpaired
    · exact isPair_of_whole (.inr whole)
  | case6 high low rest unpaired start torn equal whole inductionHypothesis =>
    rw [equal] at inductionHypothesis
    rw [flat_char, pieces_char, inductionHypothesis]

theorem isHalf_of_mem_pieces {points : List Nat} {piece : Nat × List Char}
    (member : piece ∈ (pieces points).2) : isHalf piece.1 = true := by
  fun_induction pieces points with
  | case1 => cases member
  | case2 point half =>
    rw [List.mem_singleton.mp member]
    exact half
  | case3 => cases member
  | case4 high low rest pair start torn equal inductionHypothesis =>
    rw [equal] at inductionHypothesis
    exact inductionHypothesis member
  | case5 high low rest unpaired start torn equal half inductionHypothesis =>
    rw [equal] at inductionHypothesis
    rcases List.mem_cons.mp member with rfl | member
    · exact half
    · exact inductionHypothesis member
  | case6 high low rest unpaired start torn equal whole inductionHypothesis =>
    rw [equal] at inductionHypothesis
    exact inductionHypothesis member

/-! ## Joined texts -/

theorem points_ofPoints (points : List Nat) : (ofPoints points).points = flat (pieces points) := by
  simp [ofPoints, WideText.points, toPieces, Function.comp_def]

theorem joined_ofPoints (points : List Nat) : (ofPoints points).Joined := by
  rw [Joined, points_ofPoints, ofPoints, pieces_flat_pieces, ofPoints]

theorem joined_coe (text : String) : Joined (text : WideText) := by
  have characters : ∀ cs : List Char, pieces (cs.map Char.toNat) = (cs, []) := by
    intro cs
    induction cs with
    | nil => rfl
    | cons c cs inductionHypothesis => rw [List.map_cons, pieces_char, inductionHypothesis]
  simp [Joined, ofPoints, points, toPieces, flat, characters]

theorem Joined.isHalf {text : WideText} (joined : text.Joined) {piece : Nat × String}
    (member : piece ∈ text.torn) : isHalf piece.1 = true := by
  rw [← joined, ofPoints] at member
  obtain ⟨found, inside, rfl⟩ := List.mem_map.mp member
  exact isHalf_of_mem_pieces inside

/-! ## Empty texts -/

theorem foldl_shown_eq_empty (torn : List (Nat × String)) (start : String) :
    torn.foldl (fun shown piece => shown ++ "\uFFFD" ++ piece.2) start = "" ↔
      start = "" ∧ torn = [] := by
  induction torn generalizing start with
  | nil => simp
  | cons piece torn inductionHypothesis =>
    rw [List.foldl_cons, inductionHypothesis]
    simp

/-- Only the empty text is shown as one: a lone half is shown too. -/
theorem shown_eq_empty {text : WideText} : text.shown = "" ↔ text = "" := by
  obtain ⟨start, torn⟩ := text
  rw [shown, foldl_shown_eq_empty, WideText.mk.injEq]

theorem unitsOf_ne_nil (c : Char) : Text.unitsOf c ≠ [] := by
  unfold Text.unitsOf
  split <;> simp

/-- Only the empty text has no units. -/
theorem units_eq_nil {text : WideText} : text.units = [] ↔ text = "" := by
  obtain ⟨start, torn⟩ := text
  have characters : Text.units start = [] ↔ start = "" := by
    rw [← String.toList_eq_nil_iff, Text.units]
    cases start.toList <;> simp [unitsOf_ne_nil]
  cases torn <;> simp [units, characters]

/-! ## Units -/

/-- The units of characters, and of lone halves with the characters after them. -/
def unitsOfPieces (pieces : List Char × List (Nat × List Char)) : List UInt16 :=
  pieces.1.flatMap Text.unitsOf ++
    pieces.2.flatMap fun piece => piece.1.toUInt16 :: piece.2.flatMap Text.unitsOf

theorem units_ofPoints (points : List Nat) :
    (ofPoints points).units = unitsOfPieces (pieces points) := by
  simp [ofPoints, WideText.units, unitsOfPieces, Text.units, List.flatMap_map]

theorem unitsOfPieces_char (c : Char) (start : List Char) (torn : List (Nat × List Char)) :
    unitsOfPieces (c :: start, torn) = Text.unitsOf c ++ unitsOfPieces (start, torn) := by
  simp [unitsOfPieces]

theorem unitsOfPieces_half (half : Nat) (start : List Char) (torn : List (Nat × List Char)) :
    unitsOfPieces ([], (half, start) :: torn) =
      half.toUInt16 :: unitsOfPieces (start, torn) := rfl

theorem toNat_ofNat {point : Nat} (small : point < 0x110000) (whole : isHalf point = false) :
    (Char.ofNat point).toNat = point := by
  have valid : point.isValidChar := by
    simp only [isHalf, Bool.and_eq_false_iff, decide_eq_false_iff_not] at whole
    simp only [Nat.isValidChar]
    omega
  rw [Char.ofNat, dif_pos valid]
  rfl

theorem unitsOf_ofNat {point : Nat} (small : point < 0x10000) (whole : isHalf point = false) :
    Text.unitsOf (Char.ofNat point) = [point.toUInt16] := by
  rw [Text.unitsOf, toNat_ofNat (by omega) whole, if_pos small]

theorem toNat_joined {high low : Nat} (pair : isPair high low = true) :
    (joined high low).toNat = 0x10000 + (high - 0xD800) * 0x400 + (low - 0xDC00) := by
  simp only [isPair, Bool.and_eq_true, decide_eq_true_eq] at pair
  refine toNat_ofNat (by omega) ?_
  simp only [isHalf, Bool.and_eq_false_iff, decide_eq_false_iff_not]
  omega

theorem unitsOf_joined {high low : Nat} (pair : isPair high low = true) :
    Text.unitsOf (joined high low) = [high.toUInt16, low.toUInt16] := by
  rw [Text.unitsOf, toNat_joined pair]
  simp only [isPair, Bool.and_eq_true, decide_eq_true_eq] at pair
  have front : 0xD800 + (0x10000 + (high - 0xD800) * 0x400 + (low - 0xDC00) - 0x10000) / 0x400 =
      high := by omega
  have back : 0xDC00 + (0x10000 + (high - 0xD800) * 0x400 + (low - 0xDC00) - 0x10000) % 0x400 =
      low := by omega
  rw [if_neg (by omega), front, back]

/-- Joining units leaves them as they are. -/
theorem unitsOfPieces_pieces {points : List Nat} (small : ∀ point ∈ points, point < 0x10000) :
    unitsOfPieces (pieces points) = points.map Nat.toUInt16 := by
  fun_induction pieces points with
  | case1 => rfl
  | case2 point half => rfl
  | case3 point whole =>
    rw [unitsOfPieces_char, unitsOf_ofNat (by simpa using small) (by simpa using whole)]
    rfl
  | case4 high low rest pair start torn equal inductionHypothesis =>
    have others := inductionHypothesis fun point member => small point (by simp [member])
    rw [equal] at others
    rw [unitsOfPieces_char, unitsOf_joined pair, others]
    rfl
  | case5 high low rest unpaired start torn equal half inductionHypothesis =>
    have others := inductionHypothesis fun point member =>
      small point (List.mem_cons_of_mem _ member)
    rw [equal] at others
    rw [unitsOfPieces_half, others]
    rfl
  | case6 high low rest unpaired start torn equal whole inductionHypothesis =>
    have others := inductionHypothesis fun point member =>
      small point (List.mem_cons_of_mem _ member)
    rw [equal] at others
    rw [unitsOfPieces_char,
      unitsOf_ofNat (small high (List.mem_cons_self ..)) (by simpa using whole), others]
    rfl

/-- The text of units has these units. -/
theorem units_ofUnits (units : List UInt16) : (ofUnits units).units = units := by
  have small : ∀ point ∈ units.map UInt16.toNat, point < 0x10000 := by
    intro point member
    obtain ⟨unit, -, rfl⟩ := List.mem_map.mp member
    exact unit.toNat_lt
  rw [ofUnits, units_ofPoints, unitsOfPieces_pieces small, List.map_map]
  exact (List.map_congr_left fun unit _ => UInt16.ofNat_toNat).trans (List.map_id units)

theorem toNat_half {half : Nat} (isOne : isHalf half = true) : half.toUInt16.toNat = half := by
  simp only [isHalf, Bool.and_eq_true, decide_eq_true_eq] at isOne
  exact UInt16.toNat_ofNat_of_lt' (show half < 0x10000 by omega)

/-- A character is one unit, or the pair of units that are joined to it. -/
theorem unitsOf_eq (c : Char) : (Text.unitsOf c).map UInt16.toNat = [c.toNat] ∨
    ∃ high low, isPair high low = true ∧ joined high low = c ∧
      (Text.unitsOf c).map UInt16.toNat = [high, low] := by
  have valid := c.valid
  have number : c.toNat = c.val.toNat := rfl
  simp only [UInt32.isValidChar, Nat.isValidChar] at valid
  have fits {n : Nat} (small : n < 0x10000) : n.toUInt16.toNat = n :=
    UInt16.toNat_ofNat_of_lt' small
  unfold Text.unitsOf
  split
  next small => exact .inl (congrArg ([·]) (fits small))
  next large =>
    have high := fits (n := 0xD800 + (c.toNat - 0x10000) / 0x400) (by omega)
    have low := fits (n := 0xDC00 + (c.toNat - 0x10000) % 0x400) (by omega)
    have pair : isPair (0xD800 + (c.toNat - 0x10000) / 0x400)
        (0xDC00 + (c.toNat - 0x10000) % 0x400) = true := by
      simp only [isPair, Bool.and_eq_true, decide_eq_true_eq]
      omega
    refine .inr ⟨_, _, pair, Char.toNat_inj.mp ((toNat_joined pair).trans ?_), ?_⟩
    · omega
    · rw [List.map_cons, List.map_singleton, high, low]

/-- A character is read from its units. -/
theorem pieces_unitsOf (c : Char) (rest : List Nat) :
    pieces ((Text.unitsOf c).map UInt16.toNat ++ rest) =
      (c :: (pieces rest).1, (pieces rest).2) := by
  rcases unitsOf_eq c with units | ⟨high, low, pair, same, units⟩ <;> rw [units]
  · exact pieces_char c rest
  · rw [List.cons_append, List.singleton_append, pieces, if_pos pair, same]

/-- A half that completes no pair with the first of some code points completes none with the first
of their units. -/
theorem alone_of_unpaired {half low : Nat} (alone : isPair half low = false) (rest : List Nat) :
    ∀ first ∈ ((unitsOfPieces (pieces (low :: rest))).map UInt16.toNat).head?,
      isPair half first = false := by
  intro first begins
  have halves : ∀ piece ∈ (pieces (low :: rest)).2, isHalf piece.1 = true :=
    fun _ => isHalf_of_mem_pieces
  obtain ⟨point, others, flattened, kind⟩ := head_flat_pieces low rest
  generalize pieces (low :: rest) = found at begins halves flattened
  obtain ⟨start, torn⟩ := found
  match start, torn with
  | [], [] => cases begins
  | [], (other, following) :: torn =>
    have isOne : isHalf other = true := halves _ (List.mem_cons_self ..)
    obtain rfl : other = first := by simpa [unitsOfPieces_half, toNat_half isOne] using begins
    obtain rfl : other = point := (List.cons.inj flattened).1
    rcases kind with rfl | whole
    · exact alone
    · exact isPair_of_whole (.inr whole)
  | c :: start, torn =>
    rw [unitsOfPieces_char, List.map_append] at begins
    rcases unitsOf_eq c with units | ⟨high, low, pair, -, units⟩ <;> rw [units] at begins <;>
      cases begins
    · exact isPair_of_whole (.inr (isHalf_toNat c))
    · simp only [isPair, Bool.and_eq_true, Bool.and_eq_false_iff, decide_eq_true_eq,
        decide_eq_false_iff_not] at pair ⊢
      omega

/-- What is joined from code points is joined from their units. -/
theorem pieces_units (points : List Nat) :
    pieces ((unitsOfPieces (pieces points)).map UInt16.toNat) = pieces points := by
  fun_induction pieces points with
  | case1 => rfl
  | case2 point half =>
    rw [unitsOfPieces_half, List.map_cons, toNat_half half]
    exact pieces_half half nofun
  | case3 point whole =>
    rw [unitsOfPieces_char, List.map_append, pieces_unitsOf]
    rfl
  | case4 high low rest pair start torn equal inductionHypothesis =>
    rw [equal] at inductionHypothesis
    rw [unitsOfPieces_char, List.map_append, pieces_unitsOf, inductionHypothesis]
  | case5 high low rest unpaired start torn equal half inductionHypothesis =>
    have alone := alone_of_unpaired (Bool.eq_false_iff.mpr unpaired) rest
    rw [equal] at inductionHypothesis alone
    rw [unitsOfPieces_half, List.map_cons, toNat_half half, pieces_half half alone,
      inductionHypothesis]
  | case6 high low rest unpaired start torn equal whole inductionHypothesis =>
    rw [equal] at inductionHypothesis
    rw [unitsOfPieces_char, List.map_append, pieces_unitsOf, inductionHypothesis]

/-- A joined text is the text of its units. -/
theorem Joined.ofUnits_units {text : WideText} (joined : text.Joined) :
    ofUnits text.units = text := by
  obtain ⟨points, rfl⟩ : ∃ points, text = ofPoints points := ⟨_, joined.symm⟩
  rw [units_ofPoints, ofUnits, ofPoints, pieces_units]
  rfl

end WideText

namespace Json.Reader

/-! ## Quoted texts -/

variable {rest : List Char}

theorem hexDigit?_hexChar : ∀ n : Fin 16, hexDigit? (hexChar n) = some n := by decide

/-- Put code points before those that were read. -/
def prepend (points : List Nat) (read : Option (List Nat × List Char)) :
    Option (List Nat × List Char) :=
  read.map fun found => (points ++ found.1, found.2)

theorem prepend_nil (read : Option (List Nat × List Char)) : prepend [] read = read := by
  cases read <;> rfl

theorem prepend_prepend (first second : List Nat) (read : Option (List Nat × List Char)) :
    prepend first (prepend second read) = prepend (first ++ second) read := by
  cases read <;> simp [prepend]

theorem stringPoints?_unit (rest : List Char) (a b c d : Nat) (ha : a < 16) (hb : b < 16)
    (hc : c < 16) (hd : d < 16) :
    stringPoints? ('\\' :: 'u' :: hexChar a :: hexChar b :: hexChar c :: hexChar d :: rest) =
      prepend [a * 4096 + b * 256 + c * 16 + d] (stringPoints? rest) := by
  have digit (n : Nat) (small : n < 16) : hexDigit? (hexChar n) = some n :=
    hexDigit?_hexChar ⟨n, small⟩
  rw [stringPoints?]
  simp only [hexUnit?, digit a ha, digit b hb, digit c hc, digit d hd]
  cases stringPoints? rest <;> rfl

theorem stringPoints?_letter {letter c : Char} (escaped : escaped? letter = some c)
    (notUnit : letter ≠ 'u') :
    stringPoints? ('\\' :: letter :: rest) = prepend [c.toNat] (stringPoints? rest) := by
  rw [stringPoints?]
  · rw [escaped]
    cases stringPoints? rest <;> rfl
  · rintro a b c d others ⟨rfl⟩
    exact absurd rfl notUnit

theorem stringPoints?_plain {c : Char} (notQuote : c ≠ '"') (notEscape : c ≠ '\\')
    (visible : ¬c.toNat < 0x20) :
    stringPoints? (c :: rest) = prepend [c.toNat] (stringPoints? rest) := by
  rw [stringPoints?]
  · rw [if_neg visible]
    cases stringPoints? rest <;> rfl
  all_goals simp_all

/-- A character is read from its quoted form. -/
theorem stringPoints?_quoteChar (c : Char) :
    stringPoints? (quoteChar c ++ rest) = prepend [c.toNat] (stringPoints? rest) := by
  by_cases quote : c = '"'
  · subst quote
    exact stringPoints?_letter rfl (by decide)
  by_cases backslash : c = '\\'
  · subst backslash
    exact stringPoints?_letter rfl (by decide)
  by_cases backspace : c = '\x08'
  · subst backspace
    exact stringPoints?_letter rfl (by decide)
  by_cases formFeed : c = '\x0c'
  · subst formFeed
    exact stringPoints?_letter rfl (by decide)
  by_cases lineFeed : c = '\n'
  · subst lineFeed
    exact stringPoints?_letter rfl (by decide)
  by_cases carriageReturn : c = '\r'
  · subst carriageReturn
    exact stringPoints?_letter rfl (by decide)
  by_cases tab : c = '\t'
  · subst tab
    exact stringPoints?_letter rfl (by decide)
  rw [quoteChar, if_neg quote, if_neg backslash, if_neg backspace, if_neg formFeed,
    if_neg lineFeed, if_neg carriageReturn, if_neg tab]
  by_cases control : c.toNat < 0x20
  · have unit := stringPoints?_unit rest 0 0 (c.toNat / 16) (c.toNat % 16) (by omega) (by omega) (by omega) (by omega)
    have value : 0 * 4096 + 0 * 256 + c.toNat / 16 * 16 + c.toNat % 16 = c.toNat := by omega
    rw [value] at unit
    rw [if_pos control]
    exact unit
  · rw [if_neg control]
    exact stringPoints?_plain quote backslash control

theorem stringPoints?_quoteChars (s : String) :
    stringPoints? (quoteChars s ++ rest) =
      prepend (s.toList.map Char.toNat) (stringPoints? rest) := by
  have characters : ∀ cs : List Char, stringPoints? (cs.flatMap quoteChar ++ rest) =
      prepend (cs.map Char.toNat) (stringPoints? rest) := by
    intro cs
    induction cs with
    | nil => exact (prepend_nil _).symm
    | cons c cs inductionHypothesis =>
      rw [List.flatMap_cons, List.append_assoc, stringPoints?_quoteChar, inductionHypothesis,
        prepend_prepend]
      rfl
  exact characters s.toList

theorem stringPoints?_quoteHalf {half : Nat} (isHalf : WideText.isHalf half = true) :
    stringPoints? (quoteHalf half ++ rest) = prepend [half] (stringPoints? rest) := by
  have bounds : 0xD800 ≤ half ∧ half < 0xE000 := by simpa [WideText.isHalf] using isHalf
  have unit := stringPoints?_unit rest (half / 4096 % 16) (half / 256 % 16) (half / 16 % 16)
    (half % 16) (by omega) (by omega) (by omega) (by omega)
  have value : half / 4096 % 16 * 4096 + half / 256 % 16 * 256 + half / 16 % 16 * 16 + half % 16 =
      half := by omega
  rw [value] at unit
  exact unit

theorem stringPoints?_torn {torn : List (Nat × String)}
    (halves : ∀ piece ∈ torn, WideText.isHalf piece.1 = true) :
    stringPoints? (torn.flatMap (fun piece => quoteHalf piece.1 ++ quoteChars piece.2) ++ rest) =
      prepend (torn.flatMap fun piece => piece.1 :: piece.2.toList.map Char.toNat)
        (stringPoints? rest) := by
  induction torn with
  | nil => exact (prepend_nil _).symm
  | cons piece torn inductionHypothesis =>
    have first := halves piece (List.mem_cons_self ..)
    have others := inductionHypothesis fun piece member =>
      halves piece (List.mem_cons_of_mem _ member)
    rw [List.flatMap_cons, List.append_assoc, List.append_assoc, stringPoints?_quoteHalf first,
      stringPoints?_quoteChars, others, prepend_prepend, prepend_prepend]
    rfl

/-- A joined text is read from its quoted form. -/
theorem string?_quote (rest : List Char) {text : WideText} (joined : text.Joined) :
    ∃ cs, (quote text).toList ++ rest = '"' :: cs ∧ string? cs = some (text, rest) := by
  refine ⟨quoteChars text.start ++
    (text.torn.flatMap (fun piece => quoteHalf piece.1 ++ quoteChars piece.2) ++ '"' :: rest),
    by simp [quote], ?_⟩
  have read : stringPoints? (quoteChars text.start ++
      (text.torn.flatMap (fun piece => quoteHalf piece.1 ++ quoteChars piece.2) ++
        '"' :: rest)) = some (text.points, rest) := by
    rw [stringPoints?_quoteChars, stringPoints?_torn fun piece member => joined.isHalf member,
      stringPoints?]
    simp [prepend, WideText.points, WideText.toPieces, WideText.flat, List.flatMap_map]
  rw [string?, read]
  simp only [Option.bind_eq_bind, Option.bind_some, Option.pure_def]
  rw [joined]

end Json.Reader

end ReverseDns
