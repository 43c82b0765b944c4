import ReverseDns.Proofs.NumberTexts
import ReverseDns.Proofs.WideTexts
import ReverseDns.Proofs.MemberOrder

/-!
# Values are read as they were written

The text of a value is read as that value, but for the numbers: one that is not finite is written
`null`, and a zero loses its sign. This holds of every value that a text can have: its strings are
joined and its objects list their members in order.

* `settle` -- what a value becomes when it is written and read
* `Regular` -- the values that texts have
* `parse_pretty` -- the text of a value, read
* `regular_of_parse` -- a value that was read is one of them
-/

namespace ReverseDns.Json

open Reader

/-! ## What becomes of a value -/

mutual

/-- What a value becomes when it is written and read. -/
def settle : Json → Json
  | .null => .null
  | .bool b => .bool b
  | .num x => if Decimal.isFinite x then .num (Decimal.unsignedZero x) else .null
  | .text value => .text value
  | .arr items => .arr (settleItems items)
  | .obj members => .obj (settleMembers members)

def settleItems : List Json → List Json
  | [] => []
  | item :: rest => settle item :: settleItems rest

def settleMembers : Members → Members
  | [] => []
  | (name, value) :: rest => (name, settle value) :: settleMembers rest

end

theorem keys_settleMembers (members : Members) :
    Keyed.keys (settleMembers members) = Keyed.keys members := by
  induction members with
  | nil => rfl
  | cons member members inductionHypothesis =>
    exact congrArg (member.1 :: ·) inductionHypothesis

/-- The values that a text can have. -/
inductive Regular : Json → Prop where
  | null : Regular .null
  | bool (b : Bool) : Regular (.bool b)
  | num (x : Float) : Regular (.num x)
  | text {value : WideText} (joined : value.Joined) : Regular (.text value)
  | arr {items : List Json} (regular : ∀ item ∈ items, Regular item) : Regular (.arr items)
  | obj {members : Members} (inOrder : InOrder (Keyed.keys members))
      (joined : ∀ member ∈ members, member.1.Joined)
      (regular : ∀ member ∈ members, Regular member.2) : Regular (.obj members)

theorem Regular.empty : Regular (.obj []) :=
  .obj ⟨.nil, .nil⟩ (by simp) (by simp)

/-! ## Blanks -/

theorem skip_cons {c : Char} (cs : List Char) (visible : isSpace c = false) :
    skip (c :: cs) = c :: cs := by
  simp [skip, visible]

theorem skip_skip (cs : List Char) : skip (skip cs) = skip cs := by
  induction cs with
  | nil => rfl
  | cons c cs inductionHypothesis =>
    cases space : isSpace c with
    | true =>
      have dropped : skip (c :: cs) = skip cs := by simp [skip, space]
      rw [dropped, inductionHypothesis]
    | false => rw [skip_cons cs space, skip_cons cs space]

theorem value?_skip (fuel : Nat) (cs : List Char) : value? fuel (skip cs) = value? fuel cs := by
  cases fuel with
  | zero => simp [value?]
  | succ fuel => simp only [value?, skip_skip]

theorem items?_skip (fuel : Nat) (cs : List Char) : items? fuel (skip cs) = items? fuel cs := by
  cases fuel with
  | zero => simp [items?]
  | succ fuel => simp only [items?, value?_skip]

theorem pairs?_skip (fuel : Nat) (cs : List Char) : pairs? fuel (skip cs) = pairs? fuel cs := by
  cases fuel with
  | zero => simp [pairs?]
  | succ fuel => simp only [pairs?, skip_skip]

theorem skip_newLine (level : Nat) (cs : List Char) :
    skip ((newLine level).toList ++ cs) = skip cs := by
  have blanks : ∀ n, skip (List.replicate n ' ' ++ cs) = skip cs := by
    intro n
    induction n with
    | zero => rfl
    | succ n inductionHypothesis => exact inductionHypothesis
  have text : (newLine level).toList ++ cs = '\n' :: (List.replicate (2 * level) ' ' ++ cs) := by
    simp [newLine]
  rw [text]
  exact blanks _

/-! ## Parts of a value -/

theorem quote_starts (value : WideText) : ∃ cs, (quote value).toList = '"' :: cs :=
  ⟨_, by rw [quote, String.toList_ofList]; rfl⟩

theorem numberText_starts (x : Float) :
    ∃ c cs, (numberText x).toList = c :: cs ∧ (c = 'n' ∨ c = '-' ∨ c.isDigit = true) := by
  rw [numberText]
  split
  next finite =>
    obtain ⟨c, cs, starts, kind⟩ := Decimal.spell_starts finite
    exact ⟨c, cs, starts, .inr kind⟩
  next => exact ⟨'n', ['u', 'l', 'l'], rfl, .inl rfl⟩

/-- Where a value starts: no blank, and no closing bracket. -/
theorem prettyAt_starts (level : Nat) (value : Json) :
    ∃ c cs, (prettyAt level value).toList = c :: cs ∧ isSpace c = false ∧ c ≠ ']' := by
  cases value with
  | null => exact ⟨'n', ['u', 'l', 'l'], by simp [prettyAt], rfl, by decide⟩
  | bool b =>
    cases b with
    | false => exact ⟨'f', ['a', 'l', 's', 'e'], by simp [prettyAt], rfl, by decide⟩
    | true => exact ⟨'t', ['r', 'u', 'e'], by simp [prettyAt], rfl, by decide⟩
  | num x =>
    obtain ⟨c, cs, starts, kind⟩ := numberText_starts x
    refine ⟨c, cs, by rw [prettyAt, starts], ?_⟩
    rcases kind with rfl | rfl | digit
    · exact ⟨rfl, by decide⟩
    · exact ⟨rfl, by decide⟩
    · constructor
      · by_contra space
        simp only [isSpace, Bool.not_eq_false, Bool.or_eq_true, beq_iff_eq] at space
        rcases space with ((rfl | rfl) | rfl) | rfl <;> cases digit
      · rintro rfl
        cases digit
  | text value =>
    obtain ⟨cs, starts⟩ := quote_starts value
    exact ⟨'"', cs, by rw [prettyAt, starts], rfl, by decide⟩
  | arr items =>
    cases items with
    | nil => exact ⟨'[', [']'], by simp [prettyAt], rfl, by decide⟩
    | cons item items => exact ⟨'[', _, by simp [prettyAt]; rfl, rfl, by decide⟩
  | obj members =>
    cases members with
    | nil => exact ⟨'\x7b', ['\x7d'], by simp [prettyAt], rfl, by decide⟩
    | cons member members => exact ⟨'\x7b', _, by simp [prettyAt]; rfl, rfl, by decide⟩

theorem value?_number {c : Char} {cs : List Char} (fuel : Nat)
    (kind : c = '-' ∨ c.isDigit = true) :
    value? (fuel + 1) (c :: cs) = (number? (c :: cs)).map fun read => (.num read.1, read.2) := by
  have visible : skip (c :: cs) = c :: cs := by
    refine skip_cons cs ?_
    by_contra space
    simp only [isSpace, Bool.not_eq_false, Bool.or_eq_true, beq_iff_eq] at space
    rcases space with ((rfl | rfl) | rfl) | rfl <;> simp at kind
  rw [value?, visible]
  split <;> simp_all

theorem value?_null (fuel : Nat) (rest : List Char) :
    value? (fuel + 1) ("null".toList ++ rest) = some (.null, rest) := by
  simp [value?, skip, isSpace, after?]

/-- The text of a value is read as that value, whatever follows it. -/
def Rereads (value : Json) : Prop :=
  ∀ fuel level rest, (prettyAt level value).toList.length ≤ fuel → EndsNumber rest →
    value? fuel ((prettyAt level value).toList ++ rest) = some (settle value, rest)

/-- Since no value has an empty text, there is always a call left. -/
theorem rereads_of_succ {value : Json}
    (read : ∀ fuel level rest, (prettyAt level value).toList.length ≤ fuel + 1 → EndsNumber rest →
      value? (fuel + 1) ((prettyAt level value).toList ++ rest) = some (settle value, rest)) :
    Rereads value := by
  intro fuel level rest enough ends
  obtain ⟨c, cs, starts, -⟩ := prettyAt_starts level value
  have some : 0 < fuel := by
    rw [starts, List.length_cons] at enough
    omega
  obtain ⟨fuel, rfl⟩ : ∃ n, fuel = n + 1 := ⟨fuel - 1, by omega⟩
  exact read fuel level rest enough ends

theorem rereads_num (x : Float) : Rereads (.num x) := by
  refine rereads_of_succ fun fuel level rest enough ends => ?_
  rw [prettyAt]
  cases finite : Decimal.isFinite x with
  | true =>
    obtain ⟨c, cs, starts, kind⟩ := Decimal.spell_starts finite
    have read := Decimal.number?_spell finite ends
    rw [settle, if_pos finite, numberText, if_pos finite]
    rw [starts, List.cons_append] at read ⊢
    rw [value?_number fuel kind, read]
    rfl
  | false =>
    rw [settle, finite, numberText, finite]
    exact value?_null fuel rest

theorem rereads_text {value : WideText} (joined : value.Joined) : Rereads (.text value) := by
  refine rereads_of_succ fun fuel level rest enough ends => ?_
  obtain ⟨cs, text, read⟩ := string?_quote rest joined
  rw [prettyAt, text, value?, skip_cons cs rfl]
  simp [read, settle]

/-! ## Lists of items and members -/

theorem endsNumber_mark {c : Char} (cs : List Char) (mark : c = ',' ∨ c = '\n') :
    EndsNumber (c :: cs) := by
  apply endsNumber_cons
  rcases mark with rfl | rfl <;> decide

theorem newLine_starts (level : Nat) (cs : List Char) :
    ∃ others, (newLine level).toList ++ cs = '\n' :: others :=
  ⟨List.replicate (2 * level) ' ' ++ cs, by simp [newLine]⟩

variable {rest closing : List Char}

/-- The items of a list are read up to the bracket that closes it. -/
theorem items?_prettyItems {items : List Json} (rereads : ∀ item ∈ items, Rereads item)
    (nonempty : items ≠ []) (level fuel : Nat)
    (enough : (prettyItems level items).toList.length < fuel)
    (closes : skip closing = ']' :: rest) (ends : EndsNumber closing) :
    items? fuel ((prettyItems level items).toList ++ closing) = some (settleItems items, rest) := by
  induction items generalizing fuel with
  | nil => exact absurd rfl nonempty
  | cons item more inductionHypothesis =>
    obtain ⟨fuel, rfl⟩ : ∃ n, fuel = n + 1 := ⟨fuel - 1, by omega⟩
    have first := rereads item (List.mem_cons_self ..) fuel level
    cases more with
    | nil =>
      rw [prettyItems] at enough ⊢
      rw [items?, first closing (by omega) ends]
      simp only [closes]
      rfl
    | cons next more =>
      have others := inductionHypothesis
        (fun item member => rereads item (List.mem_cons_of_mem _ member)) (by simp) fuel
      have text : (prettyItems level (item :: next :: more)).toList =
          (prettyAt level item).toList ++ ',' :: ((newLine level).toList ++
            (prettyItems level (next :: more)).toList) := by
        simp [prettyItems]
      rw [text] at enough ⊢
      simp only [List.length_append, List.length_cons] at enough
      rw [List.append_assoc, List.cons_append, items?,
        first _ (by omega) (endsNumber_mark _ (.inl rfl))]
      simp only [skip_cons _ (show isSpace ',' = false from rfl)]
      rw [List.append_assoc, ← items?_skip, skip_newLine, items?_skip, others (by omega)]
      rfl

/-- A member of an object is read up to its value, and what follows it says whether there are
more. -/
theorem pairs?_member {name : WideText} {value : Json} (joined : name.Joined)
    (rereads : Rereads value) {fuel level : Nat}
    (enough : (prettyAt level value).toList.length ≤ fuel) (ends : EndsNumber rest) :
    let read := pairs? (fuel + 1) ((quote name).toList ++
      ':' :: ' ' :: ((prettyAt level value).toList ++ rest))
    (∀ others, skip rest = '\x7d' :: others → read = some ([(name, settle value)], others)) ∧
    ∀ others, skip rest = ',' :: others →
      read = (pairs? fuel others).map fun found => ((name, settle value) :: found.1, found.2) := by
  intro read
  obtain ⟨cs, starts, quoted⟩ := string?_quote
    (':' :: ' ' :: ((prettyAt level value).toList ++ rest)) joined
  have blank : value? fuel (' ' :: ((prettyAt level value).toList ++ rest)) =
      some (settle value, rest) := by
    rw [← rereads fuel level rest enough ends, ← value?_skip fuel (' ' :: _),
      ← value?_skip fuel ((prettyAt level value).toList ++ rest)]
    rfl
  constructor
  all_goals
    intro others follows
    simp only [read, starts, pairs?, skip_cons cs (show isSpace '"' = false from rfl), quoted,
      skip_cons _ (show isSpace ':' = false from rfl), blank, follows]

/-- The members of an object are read up to the brace that closes it. -/
theorem pairs?_prettyMembers {members : Members} (joined : ∀ member ∈ members, member.1.Joined)
    (rereads : ∀ member ∈ members, Rereads member.2) (nonempty : members ≠ []) (level : Nat)
    (fuel : Nat) (enough : (prettyMembers level members).toList.length < fuel)
    (closes : skip closing = '\x7d' :: rest) (ends : EndsNumber closing) :
    pairs? fuel ((prettyMembers level members).toList ++ closing) =
      some (settleMembers members, rest) := by
  induction members generalizing fuel with
  | nil => exact absurd rfl nonempty
  | cons member more inductionHypothesis =>
    obtain ⟨name, value⟩ := member
    obtain ⟨fuel, rfl⟩ : ∃ n, fuel = n + 1 := ⟨fuel - 1, by omega⟩
    have named : name.Joined := joined (name, value) (List.mem_cons_self ..)
    have first : Rereads value := rereads (name, value) (List.mem_cons_self ..)
    cases more with
    | nil =>
      have text : (prettyMembers level [(name, value)]).toList =
          (quote name).toList ++ ':' :: ' ' :: (prettyAt level value).toList := by
        simp [prettyMembers]
      rw [text] at enough ⊢
      simp only [List.length_append, List.length_cons] at enough
      rw [List.append_assoc, List.cons_append, List.cons_append,
        (pairs?_member named first (by omega) ends).1 _ closes]
      rfl
    | cons next more =>
      have others := inductionHypothesis
        (fun member inside => joined member (List.mem_cons_of_mem _ inside))
        (fun member inside => rereads member (List.mem_cons_of_mem _ inside)) (by simp) fuel
      have text : (prettyMembers level ((name, value) :: next :: more)).toList =
          (quote name).toList ++ ':' :: ' ' :: ((prettyAt level value).toList ++
            ',' :: ((newLine level).toList ++ (prettyMembers level (next :: more)).toList)) := by
        simp [prettyMembers]
      rw [text] at enough ⊢
      simp only [List.length_append, List.length_cons] at enough
      rw [List.append_assoc, List.cons_append, List.cons_append, List.append_assoc,
        List.cons_append, (pairs?_member named first (by omega)
          (endsNumber_mark _ (.inl rfl))).2 _ (skip_cons _ rfl)]
      rw [List.append_assoc, ← pairs?_skip, skip_newLine, pairs?_skip, others (by omega)]
      rfl

/-! ## Whole values -/

theorem value?_items {cs : List Char} (fuel : Nat) (some : (skip cs).head? ≠ some ']') :
    value? (fuel + 1) ('[' :: cs) = (items? fuel cs).map fun read => (.arr read.1, read.2) := by
  rw [value?, skip_cons _ rfl, ← items?_skip]
  simp only
  split
  next equal =>
    rw [equal] at some
    exact absurd rfl some
  next => rfl

theorem value?_pairs {cs : List Char} (fuel : Nat) (some : (skip cs).head? ≠ some '\x7d') :
    value? (fuel + 1) ('\x7b' :: cs) =
      (pairs? fuel cs).map fun read => (.object read.1, read.2) := by
  rw [value?, skip_cons _ rfl, ← pairs?_skip]
  simp only
  split
  next equal =>
    rw [equal] at some
    exact absurd rfl some
  next => rfl

theorem prettyItems_starts (level : Nat) (item : Json) (more : List Json) :
    ∃ c cs, (prettyItems level (item :: more)).toList = c :: cs ∧ isSpace c = false ∧ c ≠ ']' := by
  obtain ⟨c, cs, starts, kind⟩ := prettyAt_starts level item
  cases more with
  | nil => exact ⟨c, cs, by rw [prettyItems, starts], kind⟩
  | cons next more => exact ⟨c, _, by simp [prettyItems, starts]; rfl, kind⟩

theorem prettyMembers_starts (level : Nat) (member : WideText × Json) (more : Members) :
    ∃ cs, (prettyMembers level (member :: more)).toList = '"' :: cs := by
  obtain ⟨name, value⟩ := member
  obtain ⟨cs, starts⟩ := quote_starts name
  cases more with
  | nil => exact ⟨_, by simp [prettyMembers, starts]; rfl⟩
  | cons next more => exact ⟨_, by simp [prettyMembers, starts]; rfl⟩

theorem rereads_arr {items : List Json} (rereads : ∀ item ∈ items, Rereads item) :
    Rereads (.arr items) := by
  refine rereads_of_succ fun fuel level rest enough ends => ?_
  cases items with
  | nil => simp [prettyAt, value?, skip, isSpace, settle, settleItems]
  | cons item items =>
    have text : (prettyAt level (.arr (item :: items))).toList ++ rest =
        '[' :: ((newLine (level + 1)).toList ++ ((prettyItems (level + 1) (item :: items)).toList ++
          ((newLine level).toList ++ ']' :: rest))) := by
      simp [prettyAt]
    have shorter : (prettyItems (level + 1) (item :: items)).toList.length < fuel := by
      simp [prettyAt, newLine] at enough ⊢
      omega
    obtain ⟨blanks, isNewLine⟩ := newLine_starts level (']' :: rest)
    have read := items?_prettyItems rereads (by simp) (level + 1) _ shorter (skip_newLine level _)
      (isNewLine ▸ endsNumber_mark blanks (.inr rfl))
    obtain ⟨c, cs, starts, visible, opens⟩ := prettyItems_starts (level + 1) item items
    rw [text, value?_items fuel]
    · rw [← items?_skip, skip_newLine, items?_skip, read]
      rfl
    · rw [skip_newLine, starts, List.cons_append, skip_cons _ visible, List.head?_cons]
      simpa using opens

theorem rereads_obj {members : Members} (inOrder : InOrder (Keyed.keys members))
    (joined : ∀ member ∈ members, member.1.Joined)
    (rereads : ∀ member ∈ members, Rereads member.2) : Rereads (.obj members) := by
  refine rereads_of_succ fun fuel level rest enough ends => ?_
  cases members with
  | nil => simp [prettyAt, value?, skip, isSpace, settle, settleMembers]
  | cons member members =>
    have text : (prettyAt level (.obj (member :: members))).toList ++ rest =
        '\x7b' :: ((newLine (level + 1)).toList ++
          ((prettyMembers (level + 1) (member :: members)).toList ++
            ((newLine level).toList ++ '\x7d' :: rest))) := by
      simp [prettyAt]
    have shorter : (prettyMembers (level + 1) (member :: members)).toList.length < fuel := by
      simp [prettyAt, newLine] at enough ⊢
      omega
    have settled : object (settleMembers (member :: members)) =
        settle (.obj (member :: members)) := by
      rw [settle, object_of_inOrder]
      rw [keys_settleMembers]
      exact inOrder
    obtain ⟨blanks, isNewLine⟩ := newLine_starts level ('\x7d' :: rest)
    have read := pairs?_prettyMembers joined rereads (by simp) (level + 1) _ shorter
      (skip_newLine level _) (isNewLine ▸ endsNumber_mark blanks (.inr rfl))
    obtain ⟨cs, starts⟩ := prettyMembers_starts (level + 1) member members
    rw [text, value?_pairs fuel]
    · rw [← pairs?_skip, skip_newLine, pairs?_skip, read, Option.map_some, settled]
    · rw [skip_newLine, starts, List.cons_append, skip_cons _ rfl, List.head?_cons]
      decide

/-- The text of a regular value is read as that value. -/
theorem Regular.rereads {value : Json} (regular : Regular value) : Rereads value := by
  induction regular with
  | null => exact rereads_of_succ fun fuel level rest enough ends => value?_null fuel rest
  | bool b =>
    refine rereads_of_succ fun fuel level rest enough ends => ?_
    cases b <;> simp [prettyAt, value?, skip, isSpace, after?, settle]
  | num x => exact rereads_num x
  | text joined => exact rereads_text joined
  | arr _ inductionHypothesis => exact rereads_arr inductionHypothesis
  | obj inOrder joined _ inductionHypothesis => exact rereads_obj inOrder joined inductionHypothesis

/-- The text of a regular value, with blanks behind it, is read as that value. -/
theorem parse_pretty {value : Json} (regular : Regular value) {tail : String}
    (blank : skip tail.toList = []) (ends : EndsNumber tail.toList) :
    parse (pretty value ++ tail) = some (settle value) := by
  have read := regular.rereads (2 * (pretty value ++ tail).length + 2) 0 tail.toList
    (by rw [String.length_toList, String.length_append, pretty]; omega) ends
  rw [← pretty] at read
  rw [parse, String.toList_append, read]
  simp [blank]

/-! ## Values that were read -/

theorem regular_object {pairs : Members} (joined : ∀ member ∈ pairs, member.1.Joined)
    (regular : ∀ member ∈ pairs, Regular member.2) : Regular (object pairs) :=
  .obj (inOrder_object pairs) (fun member inside => joined member (mem_of_mem_object inside))
    fun member inside => regular member (mem_of_mem_object inside)

theorem joined_of_string? {cs : List Char} {value : WideText} (read : string? cs = some (value, rest)) :
    value.Joined := by
  rw [string?] at read
  cases points : stringPoints? cs with
  | none =>
    rw [points] at read
    cases read
  | some found =>
    rw [points] at read
    cases read
    exact WideText.joined_ofPoints _

/-- What the three readers give with some fuel is regular. -/
structure ReadsRegular (fuel : Nat) : Prop where
  value : ∀ cs value rest, value? fuel cs = some (value, rest) → Regular value
  items : ∀ cs items rest, items? fuel cs = some (items, rest) → ∀ item ∈ items, Regular item
  pairs : ∀ cs pairs rest, pairs? fuel cs = some (pairs, rest) →
    ∀ member ∈ pairs, member.1.Joined ∧ Regular member.2

section ReadsRegular

variable {fuel : Nat} (reads : ReadsRegular fuel)

include reads

theorem ReadsRegular.value_succ (cs : List Char) (value : Json) (rest : List Char)
    (read : value? (fuel + 1) cs = some (value, rest)) : Regular value := by
  rw [value?] at read
  split at read
  next =>
    obtain ⟨⟨text, after⟩, found, equal⟩ := Option.map_eq_some_iff.mp read
    cases equal
    exact .text (joined_of_string? found)
  next =>
    split at read
    · cases read
      exact .arr nofun
    · obtain ⟨⟨items, after⟩, found, equal⟩ := Option.map_eq_some_iff.mp read
      cases equal
      exact .arr (reads.items _ _ _ found)
  next =>
    split at read
    · cases read
      exact .empty
    · obtain ⟨⟨pairs, after⟩, found, equal⟩ := Option.map_eq_some_iff.mp read
      cases equal
      have parts := reads.pairs _ _ _ found
      exact regular_object (fun member inside => (parts member inside).1)
        fun member inside => (parts member inside).2
  -- the words and the numbers
  all_goals obtain ⟨after, found, equal⟩ := Option.map_eq_some_iff.mp read; cases equal
  · exact .null
  · exact .bool true
  · exact .bool false
  · exact .num _

theorem ReadsRegular.items_succ (cs : List Char) (items : List Json) (rest : List Char)
    (read : items? (fuel + 1) cs = some (items, rest)) : ∀ item ∈ items, Regular item := by
  rw [items?] at read
  split at read
  next => cases read
  next item after found =>
    have first := reads.value _ _ _ found
    split at read
    next =>
      cases read
      exact List.forall_mem_singleton.mpr first
    next =>
      obtain ⟨⟨more, after⟩, others, equal⟩ := Option.map_eq_some_iff.mp read
      cases equal
      exact List.forall_mem_cons.mpr ⟨first, reads.items _ _ _ others⟩
    next => cases read

theorem ReadsRegular.pairs_succ (cs : List Char) (pairs : Members) (rest : List Char)
    (read : pairs? (fuel + 1) cs = some (pairs, rest)) :
    ∀ member ∈ pairs, member.1.Joined ∧ Regular member.2 := by
  rw [pairs?] at read
  -- a name, a colon, a value, and then the brace or a comma
  split at read
  next =>
    split at read
    next => cases read
    next name after found =>
      have joined := joined_of_string? found
      split at read
      next =>
        split at read
        next => cases read
        next value after found =>
          have first := reads.value _ _ _ found
          split at read
          next =>
            cases read
            exact List.forall_mem_singleton.mpr ⟨joined, first⟩
          next =>
            obtain ⟨⟨more, after⟩, others, equal⟩ := Option.map_eq_some_iff.mp read
            cases equal
            exact List.forall_mem_cons.mpr ⟨⟨joined, first⟩, reads.pairs _ _ _ others⟩
          next => cases read
      next => cases read
  next => cases read

end ReadsRegular

theorem readsRegular (fuel : Nat) : ReadsRegular fuel := by
  induction fuel with
  | zero => exact ⟨by simp [value?], by simp [items?], by simp [pairs?]⟩
  | succ fuel inductionHypothesis =>
    exact ⟨inductionHypothesis.value_succ, inductionHypothesis.items_succ,
      inductionHypothesis.pairs_succ⟩

/-- A value that was read is regular. -/
theorem regular_of_parse {text : String} {value : Json} (read : parse text = some value) :
    Regular value := by
  unfold parse at read
  split at read
  next found rest taken =>
    split at read
    · cases read
      exact (readsRegular _).value _ _ _ taken
    · cases read
  next => cases read

end ReverseDns.Json
