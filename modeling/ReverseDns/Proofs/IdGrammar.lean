import ReverseDns.Proofs.MemberOrder
import ReverseDns.Proofs.RecordIds
import Mathlib.Data.List.DropRight

/-!
# The grammar of resource IDs

A text is read as a resource ID exactly if keys and values stand in turn between its slashes, none
of them empty, with a subscription and a resource group among the keys. What is read has every
value that counts: the first of the subscriptions, and of every other key the last.

* `Text.Trims`, `Text.Bares`, `Text.Dissected` -- the path of a text and its segments, said of the
  text and not of how they are found
* `Keyed.First`, `Keyed.Last` -- the values of a key that count
* `ResourceId.Grammatical`, `ResourceId.Describes`, `ResourceId.Reports` -- which segments are an
  ID, what it says, and which fault is reported elsewhere
* `ResourceId.parse_grammar` -- reading agrees with the grammar on every text
-/

namespace ReverseDns

/-! ## The path of a text -/

namespace Text

/-- `core` is `text` without the blanks at its ends. -/
structure Trims (text core : String) : Prop where
  around : ∃ front back : List Char, text.toList = front ++ core.toList ++ back ∧
    (∀ c ∈ front, isBlank c = true) ∧ ∀ c ∈ back, isBlank c = true
  start : ∀ c ∈ core.toList.head?, isBlank c = false
  ending : ∀ c ∈ core.toList.getLast?, isBlank c = false

/-- `path` is `core` without a slash at its start, and then without one at its end. -/
def Bares (core path : String) : Prop :=
  ∃ middle : List Char,
    (core.toList = '/' :: middle ∨ core.toList.head? ≠ some '/' ∧ middle = core.toList) ∧
    (middle = path.toList ++ ['/'] ∨ middle.getLast? ≠ some '/' ∧ path.toList = middle)

/-- A text with its path and the segments between the slashes of the path. -/
structure Dissected (text path : String) (segments : List String) : Prop where
  bared : ∃ core, Trims text core ∧ Bares core path
  nonempty : segments ≠ []
  slashless : ∀ segment ∈ segments, Slashless segment
  joined : path = join segments

theorem dropBlankEnd_eq (cs : List Char) : dropBlankEnd cs = cs.rdropWhile isBlank := rfl

/-- Between blanks, what neither starts nor ends with one is what trimming leaves. -/
theorem dropBlanks_between {front core back : List Char} (leading : ∀ c ∈ front, isBlank c = true)
    (trailing : ∀ c ∈ back, isBlank c = true) (start : ∀ c ∈ core.head?, isBlank c = false)
    (ending : ∀ c ∈ core.getLast?, isBlank c = false) :
    dropBlanks (front ++ core ++ back) = core := by
  rw [dropBlanks, dropBlankEnd_eq, List.append_assoc, List.dropWhile_append_of_pos leading]
  by_cases empty : core = []
  · -- nothing but blanks
    have gone : back.dropWhile isBlank = [] := List.dropWhile_eq_nil_iff.mpr trailing
    simp [empty, gone]
  · obtain ⟨first, rest, rfl⟩ := List.exists_cons_of_ne_nil empty
    have kept : isBlank first = false := start first rfl
    rw [List.cons_append, List.dropWhile_cons_of_neg (by simp [kept]), ← List.cons_append,
      List.rdropWhile, List.reverse_append, List.dropWhile_append_of_pos (by simpa using trailing)]
    have fixed : (first :: rest).rdropWhile isBlank = first :: rest := by
      rw [List.rdropWhile_eq_self_iff]
      intro nonempty
      simp [ending _ (List.getLast?_eq_some_getLast nonempty)]
    exact fixed

theorem trims_iff {text core : String} : Trims text core ↔ core = trim text := by
  constructor
  · rintro ⟨⟨front, back, whole, leading, trailing⟩, start, ending⟩
    apply String.toList_injective
    rw [trim, String.toList_ofList, whole]
    exact (dropBlanks_between leading trailing start ending).symm
  · rintro rfl
    have inner : (trim text).toList = (text.toList.dropWhile isBlank).rdropWhile isBlank := by
      rw [trim, String.toList_ofList]
      rfl
    refine ⟨⟨text.toList.takeWhile isBlank, (text.toList.dropWhile isBlank).rtakeWhile isBlank,
      ?_, fun c => List.mem_takeWhile_imp, fun c => List.mem_rtakeWhile_imp⟩, ?_, ?_⟩
    · rw [inner, List.append_assoc, List.rdropWhile_append_rtakeWhile,
        List.takeWhile_append_dropWhile]
    · intro c first
      rw [inner] at first
      -- the first character that is left is the first that is not blank
      obtain ⟨rest, whole⟩ := List.rdropWhile_prefix isBlank (l := text.toList.dropWhile isBlank)
      have head : (text.toList.dropWhile isBlank).head? = some c := by
        rw [← whole, List.head?_append, first]
        rfl
      have kept := List.head?_dropWhile_not isBlank text.toList
      rw [head] at kept
      simpa using kept
    · intro c last
      rw [inner] at last
      have nonempty : (text.toList.dropWhile isBlank).rdropWhile isBlank ≠ [] := by
        intro empty
        simp [empty] at last
      have kept := List.rdropWhile_last_not isBlank _ nonempty
      rw [List.getLast?_eq_some_getLast nonempty, Option.mem_some_iff] at last
      simpa [last] using kept

theorem eq_dropLeadingSlash_iff {cs rest : List Char} :
    rest = dropLeadingSlash cs ↔ cs = '/' :: rest ∨ cs.head? ≠ some '/' ∧ rest = cs := by
  cases cs with
  | nil => simp [dropLeadingSlash]
  | cons c others =>
    by_cases slash : c = '/'
    · subst slash
      simp [dropLeadingSlash, eq_comm]
    · have kept : dropLeadingSlash (c :: others) = c :: others := by
        rw [dropLeadingSlash]
        simpa using slash
      simp [kept, slash]

theorem eq_dropTrailingSlash_iff {cs rest : List Char} :
    rest = dropTrailingSlash cs ↔ cs = rest ++ ['/'] ∨ cs.getLast? ≠ some '/' ∧ rest = cs := by
  have mirrored := @eq_dropLeadingSlash_iff cs.reverse rest.reverse
  rw [dropTrailingSlash, ← List.reverse_eq_iff, mirrored, List.head?_reverse,
    List.reverse_eq_cons_iff, List.reverse_reverse, List.reverse_inj]

theorem bares_iff {core path : String} : Bares core path ↔ path = bare core := by
  have whole : path = bare core ↔
      path.toList = dropTrailingSlash (dropLeadingSlash core.toList) := by
    rw [← String.toList_inj, bare, String.toList_ofList]
  rw [whole, eq_dropTrailingSlash_iff, Bares]
  constructor
  · rintro ⟨middle, front, back⟩
    rwa [← eq_dropLeadingSlash_iff.mpr front]
  · exact fun back => ⟨_, eq_dropLeadingSlash_iff.mp rfl, back⟩

theorem join_split (path : String) : join (split path) = path := by
  apply String.toList_injective
  rw [join, String.toList_intercalate, split, List.map_map, splitChars_eq_splitOn]
  simp [Function.comp_def]

theorem split_ne_nil (path : String) : split path ≠ [] := by
  intro empty
  rw [split, List.map_eq_nil_iff, splitChars_eq_splitOn] at empty
  exact List.splitOn_ne_nil '/' path.toList empty

theorem dissected_iff {text path : String} {segments : List String} :
    Dissected text path segments ↔ path = bare (trim text) ∧ segments = split path := by
  constructor
  · rintro ⟨⟨core, trims, bares⟩, nonempty, slashless, joined⟩
    constructor
    · rw [← trims_iff.mp trims]
      exact bares_iff.mp bares
    · rw [joined, split_join nonempty slashless]
  · rintro ⟨bared, divided⟩
    rw [divided]
    exact {
      bared := ⟨trim text, trims_iff.mpr rfl, bares_iff.mpr bared⟩
      nonempty := split_ne_nil path
      slashless := fun _ => slashless_of_mem_split
      joined := (join_split path).symm }

end Text

/-! ## Values that count -/

namespace Keyed

variable {κ α : Type}

/-- The first value of a key. -/
def First (entries : List (κ × α)) (key : κ) (value : α) : Prop :=
  ∃ before after, entries = before ++ (key, value) :: after ∧ key ∉ keys before

/-- The last value of a key. -/
def Last (entries : List (κ × α)) (key : κ) (value : α) : Prop :=
  ∃ before after, entries = before ++ (key, value) :: after ∧ key ∉ keys after

theorem First.mem {entries : List (κ × α)} {key : κ} {value : α}
    (first : First entries key value) : (key, value) ∈ entries := by
  obtain ⟨before, after, rfl, -⟩ := first
  simp

theorem Last.mem {entries : List (κ × α)} {key : κ} {value : α}
    (last : Last entries key value) : (key, value) ∈ entries := by
  obtain ⟨before, after, rfl, -⟩ := last
  simp

variable [DecidableEq κ]

theorem first_iff {entries : List (κ × α)} {key : κ} {value : α} :
    First entries key value ↔ get? entries key = some value := by
  constructor
  · rintro ⟨before, after, rfl, absent⟩
    simp [get?_append, get?_eq_none_iff.mpr absent]
  · intro found
    induction entries with
    | nil => cases found
    | cons entry rest inductionHypothesis =>
      obtain ⟨name, other⟩ := entry
      by_cases same : name = key
      · subst same
        simp only [get?_cons, if_true, Option.some.injEq] at found
        exact ⟨[], rest, by simp [found], by simp [keys]⟩
      · simp only [get?_cons, same, if_false] at found
        obtain ⟨before, after, rfl, absent⟩ := inductionHypothesis found
        refine ⟨(name, other) :: before, after, by simp, ?_⟩
        simpa [keys, Ne.symm same] using absent

theorem last_iff {entries : List (κ × α)} {key : κ} {value : α} :
    Last entries key value ↔ get? entries.reverse key = some value := by
  rw [← first_iff]
  constructor
  · rintro ⟨before, after, rfl, absent⟩
    exact ⟨after.reverse, before.reverse, by simp, by simpa [keys] using absent⟩
  · rintro ⟨before, after, reversed, absent⟩
    have whole : entries = after.reverse ++ (key, value) :: before.reverse := by
      rw [← List.reverse_inj, reversed]
      simp
    exact ⟨after.reverse, before.reverse, whole, by simpa [keys] using absent⟩

/-- In a table that is written pair by pair the last value of a key wins. -/
theorem get?_ofPairs (pairs : List (κ × α)) (key : κ) :
    get? (ofPairs pairs) key = get? pairs.reverse key := by
  -- the pair at the end is written last, and found first from there
  induction pairs using List.reverseRecOn with
  | nil => rfl
  | append_singleton pairs pair inductionHypothesis =>
    obtain ⟨name, value⟩ := pair
    have written : ofPairs (pairs ++ [(name, value)]) = insert (ofPairs pairs) name value := by
      simp [ofPairs]
    simp [written, get?_insert, inductionHypothesis, eq_comm]

theorem mem_keys_iff {entries : List (κ × α)} {key : κ} :
    key ∈ keys entries ↔ ∃ value, Last entries key value := by
  constructor
  · intro member
    cases found : get? entries.reverse key with
    | none => exact absurd member (by simpa [keys] using get?_eq_none_iff.mp found)
    | some value => exact ⟨value, last_iff.mpr found⟩
  · rintro ⟨value, last⟩
    exact List.mem_map_of_mem last.mem

theorem mem_iff_get? {entries : List (κ × α)} (distinct : (keys entries).Nodup) {key : κ}
    {value : α} : (key, value) ∈ entries ↔ get? entries key = some value := by
  constructor
  · intro member
    obtain ⟨before, after, rfl⟩ := List.append_of_mem member
    have absent : key ∉ keys before := by
      intro earlier
      simp only [keys, List.map_append, List.map_cons, List.nodup_append] at distinct
      exact distinct.2.2 key earlier key (by simp) rfl
    simp [get?_append, get?_eq_none_iff.mpr absent]
  · exact mem_of_get?

end Keyed

namespace ResourceId

open Keyed (First Last)

/-! ## Keys and values in turn -/

/-- The segments of pairs: each key with its value behind it. -/
def inTurn (pairs : List (String × String)) : List String :=
  pairs.flatMap fun pair => [pair.1, pair.2]

theorem inTurn_pairs {segments : List String} (even : segments.length % 2 = 0) :
    inTurn (pairs segments) = segments := by
  induction segments using pairs.induct with
  | case1 key value rest inductionHypothesis =>
    have shorter : rest.length % 2 = 0 := by
      simp only [List.length_cons] at even
      omega
    simpa [inTurn, pairs] using inductionHypothesis shorter
  | case2 segments short =>
    cases segments with
    | nil => rfl
    | cons key rest =>
      cases rest with
      | nil => simp at even
      | cons value rest => exact absurd rfl (short key value rest)

theorem length_inTurn (entries : List (String × String)) :
    (inTurn entries).length = 2 * entries.length := by
  induction entries with
  | nil => rfl
  | cons pair rest inductionHypothesis =>
    simp only [inTurn, List.flatMap_cons, List.length_append, List.length_cons,
      List.length_nil] at inductionHypothesis ⊢
    omega

theorem getElem?_inTurn (entries : List (String × String)) (n : Nat) :
    (inTurn entries)[2 * n]? = (Keyed.keys entries)[n]? := by
  induction entries generalizing n with
  | nil => simp [inTurn, Keyed.keys]
  | cons pair rest inductionHypothesis =>
    cases n with
    | zero => simp [inTurn, Keyed.keys]
    | succ n =>
      have next : 2 * (n + 1) = 2 * n + 1 + 1 := by omega
      simpa [inTurn, Keyed.keys, next] using inductionHypothesis n

theorem mem_inTurn {entries : List (String × String)} {segment : String} :
    segment ∈ inTurn entries ↔ ∃ pair ∈ entries, segment = pair.1 ∨ segment = pair.2 := by
  simp [inTurn]

/-! ## What is an ID, what it says, and what is reported -/

/-- A key stands at an even position. -/
def HasKey (segments : List String) (key : String) : Prop := ∃ n : Nat, segments[2 * n]? = some key

/-- The segments of a resource ID. -/
structure Grammatical (segments : List String) : Prop where
  even : segments.length % 2 = 0
  complete : "" ∉ segments
  subscription : HasKey segments "subscriptions"
  resourceGroup : HasKey segments "resourceGroups" ∨ HasKey segments "resourcegroups"

/-- No key and no value is empty. -/
def Complete (pairs : List (String × String)) : Prop := ∀ pair ∈ pairs, pair.1 ≠ "" ∧ pair.2 ≠ ""

/-- A key that has no place of its own in an ID: it is neither the provider's nor the resource
group's, and it is not the subscription's unless that occurs again. -/
structure Remaining (pairs : List (String × String)) (key : String) : Prop where
  provider : key ≠ "providers"
  resourceGroup : key ≠ "resourceGroups"
  otherGroup : key = "resourcegroups" → "resourceGroups" ∈ Keyed.keys pairs
  subscription : key = "subscriptions" → 2 ≤ (Keyed.keys pairs).count "subscriptions"

/-- What an ID says whose keys and values are these. -/
structure Describes (pairs : List (String × String)) (id : ResourceId) : Prop where
  subscriptionId : First pairs "subscriptions" id.subscriptionId
  resourceGroup : Last pairs "resourceGroups" id.resourceGroup ∨
    "resourceGroups" ∉ Keyed.keys pairs ∧ Last pairs "resourcegroups" id.resourceGroup
  provider : ∀ value, id.provider = some value ↔ Last pairs "providers" value
  path : ∀ key value, (key, value) ∈ id.path ↔ Remaining pairs key ∧ Last pairs key value
  distinct : (Keyed.keys id.path).Nodup

/-- The fault of segments that are no ID: the first that applies. -/
inductive Reports (path : String) (segments : List String) : IdFault → Prop where
  | oddSegments (odd : segments.length % 2 = 1) : Reports path segments (.oddSegments path)
  | emptyPair (before after : List (String × String)) (key value : String)
      (whole : segments = inTurn (before ++ (key, value) :: after)) (complete : Complete before)
      (empty : key = "" ∨ value = "") : Reports path segments (.emptyPair key value)
  | noSubscription (pairs : List (String × String)) (whole : segments = inTurn pairs)
      (complete : Complete pairs) (absent : "subscriptions" ∉ Keyed.keys pairs) :
      Reports path segments (.noSubscription path)
  | noResourceGroup (pairs : List (String × String)) (whole : segments = inTurn pairs)
      (complete : Complete pairs) (present : "subscriptions" ∈ Keyed.keys pairs)
      (absent : "resourceGroups" ∉ Keyed.keys pairs) (other : "resourcegroups" ∉ Keyed.keys pairs) :
      Reports path segments (.noResourceGroup path)

/-- What is read from the segments of a path. -/
inductive Reading (path : String) (segments : List String) : Except IdFault ResourceId → Prop where
  | described (pairs : List (String × String)) (id : ResourceId) (whole : segments = inTurn pairs)
      (complete : Complete pairs) (describes : Describes pairs id) :
      Reading path segments (.ok id)
  | reported (fault : IdFault) (reports : Reports path segments fault) :
      Reading path segments (.error fault)

theorem hasKey_inTurn {entries : List (String × String)} {key : String} :
    HasKey (inTurn entries) key ↔ key ∈ Keyed.keys entries := by
  simp only [HasKey, getElem?_inTurn]
  exact List.mem_iff_getElem?.symm

theorem complete_inTurn {entries : List (String × String)} :
    "" ∉ inTurn entries ↔ Complete entries := by
  simp only [mem_inTurn, not_exists, not_and, not_or, Complete]
  exact forall₂_congr fun pair _ => and_congr eq_comm.not eq_comm.not

theorem grammatical_inTurn {entries : List (String × String)} :
    Grammatical (inTurn entries) ↔ Complete entries ∧ "subscriptions" ∈ Keyed.keys entries ∧
      ("resourceGroups" ∈ Keyed.keys entries ∨ "resourcegroups" ∈ Keyed.keys entries) := by
  constructor
  · rintro ⟨-, complete, subscription, group⟩
    rw [hasKey_inTurn] at subscription
    rw [hasKey_inTurn, hasKey_inTurn] at group
    exact ⟨complete_inTurn.mp complete, subscription, group⟩
  · rintro ⟨complete, subscription, group⟩
    rw [← hasKey_inTurn, ← hasKey_inTurn] at group
    refine ⟨?_, complete_inTurn.mpr complete, hasKey_inTurn.mpr subscription, group⟩
    rw [length_inTurn]
    omega

theorem Describes.grammatical {entries : List (String × String)} {id : ResourceId}
    (describes : Describes entries id) (complete : Complete entries) :
    Grammatical (inTurn entries) := by
  refine grammatical_inTurn.mpr ⟨complete, List.mem_map_of_mem describes.subscriptionId.mem, ?_⟩
  rcases describes.resourceGroup with last | ⟨-, last⟩
  · exact .inl (List.mem_map_of_mem last.mem)
  · exact .inr (List.mem_map_of_mem last.mem)

theorem Reports.not_grammatical {path : String} {segments : List String} {fault : IdFault}
    (reports : Reports path segments fault) : ¬Grammatical segments := by
  intro grammatical
  cases reports with
  | oddSegments odd =>
    have even := grammatical.even
    omega
  | emptyPair before after key value whole complete empty =>
    have others := (grammatical_inTurn.mp (whole ▸ grammatical)).1 (key, value) (by simp)
    exact empty.elim others.1 others.2
  | noSubscription entries whole complete absent =>
    exact absent (grammatical_inTurn.mp (whole ▸ grammatical)).2.1
  | noResourceGroup entries whole complete present absent other =>
    exact (grammatical_inTurn.mp (whole ▸ grammatical)).2.2.elim absent other

/-! ## Reading -/

theorem isSubscription_iff {pair : String × String} :
    isSubscription pair = true ↔ pair.1 = "subscriptions" := by
  simp [isSubscription]

/-- The last values once the first subscription is taken out: only a subscription that does not
occur again has lost its value. -/
theorem get?_reverse_without {before after : List (String × String)} {subscription : String}
    (absent : "subscriptions" ∉ Keyed.keys before) (key value : String) :
    Keyed.get? (before ++ after).reverse key = some value ↔
      Last (before ++ ("subscriptions", subscription) :: after) key value ∧
        (key = "subscriptions" →
          2 ≤ (Keyed.keys (before ++ ("subscriptions", subscription) :: after)).count
            "subscriptions") := by
  have early : Keyed.get? before.reverse "subscriptions" = none :=
    Keyed.get?_eq_none_iff.mpr (by simpa [Keyed.keys] using absent)
  simp only [Keyed.last_iff, List.reverse_append, List.reverse_cons, List.append_assoc,
    Keyed.get?_append]
  by_cases again : key = "subscriptions"
  · -- its last value is that of a later occurrence, if there is one
    subst again
    have none : (Keyed.keys before).count "subscriptions" = 0 := List.count_eq_zero.mpr absent
    have once : 2 ≤ (Keyed.keys (before ++ ("subscriptions", subscription) :: after)).count
        "subscriptions" ↔ "subscriptions" ∈ Keyed.keys after.reverse := by
      simp only [Keyed.keys, List.map_append, List.map_cons, List.count_append] at none ⊢
      rw [none, List.count_cons_self, List.map_reverse, List.mem_reverse, ← List.count_pos_iff]
      omega
    rw [once, early]
    cases later : Keyed.get? after.reverse "subscriptions" with
    | none => simp [Keyed.get?_eq_none_iff.mp later]
    | some last =>
      have present : "subscriptions" ∈ Keyed.keys after.reverse :=
        List.mem_map_of_mem (Keyed.mem_of_get? later)
      simp [present]
  · simp [again, Ne.symm again]

theorem remaining_iff {pairs : List (String × String)} {key : String} :
    Remaining pairs key ↔ key ≠ "providers" ∧ key ≠ "resourceGroups" ∧
      (key = "resourcegroups" → "resourceGroups" ∈ Keyed.keys pairs) ∧
      (key = "subscriptions" → 2 ≤ (Keyed.keys pairs).count "subscriptions") :=
  ⟨fun ⟨provider, group, other, subscription⟩ => ⟨provider, group, other, subscription⟩,
    fun ⟨provider, group, other, subscription⟩ => ⟨provider, group, other, subscription⟩⟩

/-- A table that holds the last value of every key describes an ID together with the first
subscription, which has no place in the table unless it occurs again. -/
theorem describes_of_table {pairs entries : List (String × String)} {subscription group : String}
    (first : First pairs "subscriptions" subscription) (distinct : (Keyed.keys entries).Nodup)
    (value : ∀ key value, Keyed.get? entries key = some value ↔ Last pairs key value ∧
      (key = "subscriptions" → 2 ≤ (Keyed.keys pairs).count "subscriptions"))
    (grouped : Keyed.get? entries (groupKey entries) = some group) :
    Describes pairs {
      subscriptionId := subscription
      resourceGroup := group
      provider := Keyed.get? entries "providers"
      path := Keyed.erase (Keyed.erase entries (groupKey entries)) "providers" } := by
  have plain (key text : String) (other : key ≠ "subscriptions") :
      Keyed.get? entries key = some text ↔ Last pairs key text := by
    simp [value, other]
  have capital : (Keyed.get? entries "resourceGroups").isSome = true ↔
      "resourceGroups" ∈ Keyed.keys pairs := by
    rw [Option.isSome_iff_exists, Keyed.mem_keys_iff]
    exact exists_congr fun text => plain "resourceGroups" text (by decide)
  have erased : (Keyed.keys (Keyed.erase (Keyed.erase entries (groupKey entries))
      "providers")).Nodup := Keyed.nodup_keys_erase (Keyed.nodup_keys_erase distinct _) _
  have kept (key text : String) :
      (key, text) ∈ Keyed.erase (Keyed.erase entries (groupKey entries)) "providers" ↔
        key ≠ "providers" ∧ key ≠ groupKey entries ∧ Last pairs key text ∧
          (key = "subscriptions" → 2 ≤ (Keyed.keys pairs).count "subscriptions") := by
    rw [Keyed.mem_iff_get? erased, Keyed.get?_erase, Keyed.get?_erase, ← value]
    by_cases provider : key = "providers"
    · simp [provider]
    · by_cases own : key = groupKey entries
      · simp [own]
      · simp [provider, own]
  by_cases present : "resourceGroups" ∈ Keyed.keys pairs
  · have spelling : groupKey entries = "resourceGroups" := by
      rw [groupKey, if_pos (capital.mpr present)]
    refine ⟨first, .inl ((plain _ _ (by decide)).mp (spelling ▸ grouped)),
      fun text => plain "providers" text (by decide), fun key text => ?_, erased⟩
    rw [kept, spelling, remaining_iff]
    simp only [present, implies_true, true_and]
    constructor
    · rintro ⟨provider, own, last, again⟩
      exact ⟨⟨provider, own, again⟩, last⟩
    · rintro ⟨⟨provider, own, again⟩, last⟩
      exact ⟨provider, own, last, again⟩
  · have spelling : groupKey entries = "resourcegroups" := by
      rw [groupKey, if_neg (capital.not.mpr present)]
    refine ⟨first, .inr ⟨present, (plain _ _ (by decide)).mp (spelling ▸ grouped)⟩,
      fun text => plain "providers" text (by decide), fun key text => ?_, erased⟩
    rw [kept, spelling, remaining_iff]
    constructor
    · rintro ⟨provider, own, last, again⟩
      -- the other spelling does not occur, so a key with a value is not it
      have other : key ≠ "resourceGroups" := by
        rintro rfl
        exact present (Keyed.mem_keys_iff.mpr ⟨text, last⟩)
      exact ⟨⟨provider, other, fun same => absurd same own, again⟩, last⟩
    · rintro ⟨⟨provider, -, own, again⟩, last⟩
      exact ⟨provider, fun same => present (own same), last, again⟩

theorem ungrouped_of_get? {entries : List (String × String)}
    (missing : Keyed.get? entries (groupKey entries) = none) :
    Keyed.get? entries "resourceGroups" = none ∧ Keyed.get? entries "resourcegroups" = none := by
  unfold groupKey at missing
  split at missing
  next present => simp [missing] at present
  next absent => exact ⟨by simpa using absent, missing⟩

/-- What is made of complete pairs: what they describe, or that they lack a subscription or a
resource group. -/
theorem reading_ofPairs {path : String} {entries : List (String × String)}
    (complete : Complete entries) : Reading path (inTurn entries) (ofPairs path entries) := by
  unfold ofPairs
  split
  next missing =>
    refine .reported _ (.noSubscription entries rfl complete fun member => ?_)
    obtain ⟨pair, inside, named⟩ := List.mem_map.mp member
    exact List.find?_eq_none.mp missing pair inside (isSubscription_iff.mpr named)
  next subscription found =>
    obtain ⟨chosen, before, after, rfl, others⟩ := List.find?_eq_some_iff_append.mp found
    obtain ⟨name, subscription⟩ := subscription
    obtain rfl : name = "subscriptions" := isSubscription_iff.mp chosen
    have absent : "subscriptions" ∉ Keyed.keys before := by
      intro member
      obtain ⟨pair, inside, named⟩ := List.mem_map.mp member
      simpa [isSubscription_iff.mpr named] using others pair inside
    -- the first subscription is taken out, and the rest is written into a table
    have taken : (before ++ ("subscriptions", subscription) :: after).eraseP isSubscription =
        before ++ after := by
      rw [List.eraseP_append_right _ (by simpa using others), List.eraseP_cons_of_pos chosen]
    have value (key text : String) :
        Keyed.get? (Keyed.ofPairs (before ++ after)) key = some text ↔ _ :=
      Keyed.get?_ofPairs (before ++ after) key ▸
        @get?_reverse_without before after subscription absent key text
    have distinct := Keyed.nodup_keys_ofPairs (before ++ after)
    simp only [taken]
    split
    next ungrouped =>
      obtain ⟨noCapital, noOther⟩ := ungrouped_of_get? ungrouped
      have lacking (key : String) (other : key ≠ "subscriptions")
          (missing : Keyed.get? (Keyed.ofPairs (before ++ after)) key = none) :
          key ∉ Keyed.keys (before ++ ("subscriptions", subscription) :: after) := by
        intro member
        obtain ⟨text, last⟩ := Keyed.mem_keys_iff.mp member
        simpa [missing] using (value key text).mpr ⟨last, fun same => absurd same other⟩
      exact .reported _ (.noResourceGroup _ rfl complete (by simp [Keyed.keys])
        (lacking _ (by decide) noCapital) (lacking _ (by decide) noOther))
    next group grouped =>
      exact .described _ _ rfl complete
        (describes_of_table ⟨before, after, rfl, absent⟩ distinct value grouped)

theorem isIncomplete_iff {pair : String × String} :
    isIncomplete pair = true ↔ pair.1 = "" ∨ pair.2 = "" := by
  simp [isIncomplete]

/-- What is made of a path agrees with the grammar of its segments. -/
theorem reading_ofPath (path : String) : Reading path (Text.split path) (ofPath path) := by
  unfold ofPath
  by_cases even : (Text.split path).length % 2 = 0
  · have whole : inTurn (pairs (Text.split path)) = Text.split path := inTurn_pairs even
    simp only [even, bne_self_eq_false, Bool.false_eq_true, if_false]
    split
    next key value found =>
      obtain ⟨empty, before, after, divided, others⟩ := List.find?_eq_some_iff_append.mp found
      refine .reported _ (.emptyPair before after key value (divided ▸ whole.symm) ?_
        (isIncomplete_iff.mp empty))
      intro pair inside
      rw [← not_or, ← isIncomplete_iff]
      simpa using others pair inside
    next missing =>
      have complete : Complete (pairs (Text.split path)) := by
        intro pair inside
        rw [← not_or, ← isIncomplete_iff]
        exact List.find?_eq_none.mp missing pair inside
      simpa only [whole] using @reading_ofPairs path _ complete
  · have odd : (Text.split path).length % 2 = 1 := by omega
    simpa [odd] using Reading.reported _ (Reports.oddSegments odd)

/-- Every text has one path with its segments. It is read as a resource ID exactly if these are
grammatical; what is read is what they describe, and elsewhere the first fault is reported, with
the text itself. -/
theorem parse_grammar (text : String) :
    ∃ path segments, Text.Dissected text path segments ∧
      (∀ other others, Text.Dissected text other others → other = path ∧ others = segments) ∧
      ((∃ id, parse text = .ok id) ↔ Grammatical segments) ∧
      (∀ id, parse text = .ok id → ∃ pairs, segments = inTurn pairs ∧ Describes pairs id) ∧
      ∀ failure, parse text = .error failure → ∃ fault, Reports path segments fault ∧
        failure = .badId fault text ∧ failure.report.kind = "ParseError" ∧
        failure.report.input = some text ∧ failure.report.message = fault.message text := by
  refine ⟨Text.bare (Text.trim text), Text.split (Text.bare (Text.trim text)),
    Text.dissected_iff.mpr ⟨rfl, rfl⟩, fun other others dissected => ?_, ?_⟩
  · obtain ⟨rfl, divided⟩ := Text.dissected_iff.mp dissected
    exact ⟨rfl, divided⟩
  · -- the segments are named before the cases are opened, so that no case computes them
    have reading := reading_ofPath (Text.bare (Text.trim text))
    generalize Text.split (Text.bare (Text.trim text)) = segments at reading ⊢
    unfold parse
    generalize ofPath (Text.bare (Text.trim text)) = outcome at reading ⊢
    cases reading with
    | described pairs id whole complete describes =>
      refine ⟨⟨fun _ => whole ▸ describes.grammatical complete, fun _ => ⟨id, rfl⟩⟩, ?_, ?_⟩
      · rintro other ⟨⟩
        exact ⟨pairs, whole, describes⟩
      · rintro failure ⟨⟩
    | reported fault reports =>
      refine ⟨⟨?_, fun grammatical => absurd grammatical reports.not_grammatical⟩, ?_, ?_⟩
      · rintro ⟨id, ⟨⟩⟩
      · rintro id ⟨⟩
      · rintro failure ⟨⟩
        exact ⟨fault, reports, rfl, rfl, rfl, rfl⟩

end ResourceId

end ReverseDns
