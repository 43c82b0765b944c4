/-!
# Keyed lists

Tables from keys to values that remember the order in which their keys first arrived.

* `Keyed.get?` -- the value under a key
* `Keyed.insert` -- write a value; a key that is present keeps its place
* `Keyed.erase` -- drop a key
* `Keyed.ofPairs` -- write pairs from left to right, so the last value of a key wins
-/

namespace ReverseDns.Keyed

variable {κ α : Type}

/-- The keys of a table, in order of first arrival. -/
def keys (entries : List (κ × α)) : List κ := entries.map Prod.fst

variable [DecidableEq κ]

/-- The value under `key`. -/
def get? (entries : List (κ × α)) (key : κ) : Option α :=
  match entries with
  | [] => none
  | (name, value) :: rest => if name = key then some value else get? rest key

/-- Write `value` under `key`: in place when the key is present, at the end when it is new. -/
def insert (entries : List (κ × α)) (key : κ) (value : α) : List (κ × α) :=
  match entries with
  | [] => [(key, value)]
  | (name, old) :: rest =>
    if name = key then (name, value) :: rest else (name, old) :: insert rest key value

/-- Drop every entry under `key`. -/
def erase (entries : List (κ × α)) (key : κ) : List (κ × α) :=
  entries.filter fun entry => entry.1 != key

def ofPairs (pairs : List (κ × α)) : List (κ × α) :=
  pairs.foldl (fun entries pair => insert entries pair.1 pair.2) []

/-! ## What a write or a drop does to the view `get?` -/

@[simp] theorem get?_nil (key : κ) : get? ([] : List (κ × α)) key = none := rfl

@[simp] theorem get?_cons (name key : κ) (value : α) (rest : List (κ × α)) :
    get? ((name, value) :: rest) key = if name = key then some value else get? rest key := rfl

@[simp] theorem get?_insert_self (entries : List (κ × α)) (key : κ) (value : α) :
    get? (insert entries key value) key = some value := by
  induction entries with
  | nil => simp [insert]
  | cons entry rest inductionHypothesis =>
    obtain ⟨name, old⟩ := entry
    by_cases same : name = key
    · simp [insert, same]
    · simp [insert, same, inductionHypothesis]

theorem get?_insert_of_ne (entries : List (κ × α)) {key other : κ} (value : α)
    (distinct : other ≠ key) : get? (insert entries key value) other = get? entries other := by
  induction entries with
  | nil => simp [insert, Ne.symm distinct]
  | cons entry rest inductionHypothesis =>
    obtain ⟨name, old⟩ := entry
    by_cases same : name = key
    · subst same
      simp [insert, Ne.symm distinct]
    · simp [insert, same, inductionHypothesis]

@[simp] theorem get?_erase_self (entries : List (κ × α)) (key : κ) :
    get? (erase entries key) key = none := by
  induction entries with
  | nil => rfl
  | cons entry rest inductionHypothesis =>
    obtain ⟨name, old⟩ := entry
    by_cases same : name = key
    · simpa [erase, same] using inductionHypothesis
    · simpa [erase, same] using inductionHypothesis

theorem get?_erase_of_ne (entries : List (κ × α)) {key other : κ}
    (distinct : other ≠ key) : get? (erase entries key) other = get? entries other := by
  induction entries with
  | nil => rfl
  | cons entry rest inductionHypothesis =>
    obtain ⟨name, old⟩ := entry
    by_cases same : name = key
    · subst same
      simpa [erase, Ne.symm distinct] using inductionHypothesis
    · simp only [erase, bne_iff_ne, ne_eq, same, not_false_eq_true, List.filter_cons_of_pos,
        get?_cons]
      rw [← inductionHypothesis]
      rfl

theorem get?_insert (entries : List (κ × α)) (key other : κ) (value : α) :
    get? (insert entries key value) other =
      if other = key then some value else get? entries other := by
  by_cases same : other = key
  · simp [same]
  · simp [get?_insert_of_ne entries value same, same]

theorem get?_erase (entries : List (κ × α)) (key other : κ) :
    get? (erase entries key) other = if other = key then none else get? entries other := by
  by_cases same : other = key
  · simp [same]
  · simp [get?_erase_of_ne entries same, same]

theorem get?_append (first second : List (κ × α)) (key : κ) :
    get? (first ++ second) key = (get? first key).or (get? second key) := by
  induction first with
  | nil => rfl
  | cons entry rest inductionHypothesis =>
    obtain ⟨name, value⟩ := entry
    by_cases same : name = key
    · simp [same]
    · simp [same, inductionHypothesis]

/-! ## Where values come from -/

theorem mem_of_get? {entries : List (κ × α)} {key : κ} {value : α}
    (found : get? entries key = some value) : (key, value) ∈ entries := by
  induction entries with
  | nil => cases found
  | cons entry rest inductionHypothesis =>
    obtain ⟨name, old⟩ := entry
    rw [get?_cons] at found
    split at found
    next same =>
      cases found
      simp [same]
    next => exact List.mem_cons_of_mem _ (inductionHypothesis found)

theorem mem_of_mem_insert {entries : List (κ × α)} {key : κ} {value : α} {entry : κ × α}
    (member : entry ∈ insert entries key value) : entry = (key, value) ∨ entry ∈ entries := by
  induction entries with
  | nil =>
    rw [insert, List.mem_singleton] at member
    exact .inl member
  | cons first rest inductionHypothesis =>
    obtain ⟨name, old⟩ := first
    rw [insert] at member
    split at member
    next same =>
      rcases List.mem_cons.mp member with rfl | member
      · exact .inl (by rw [same])
      · exact .inr (List.mem_cons_of_mem _ member)
    next =>
      rcases List.mem_cons.mp member with rfl | member
      · exact .inr (List.mem_cons_self ..)
      · exact (inductionHypothesis member).imp_right (List.mem_cons_of_mem _)

theorem mem_of_mem_ofPairs {pairs : List (κ × α)} {entry : κ × α}
    (member : entry ∈ ofPairs pairs) : entry ∈ pairs := by
  -- the table built so far holds pairs of the list only
  have carried : ∀ (rest entries : List (κ × α)),
      entry ∈ rest.foldl (fun entries pair => insert entries pair.1 pair.2) entries →
        entry ∈ entries ∨ entry ∈ rest := by
    intro rest
    induction rest with
    | nil => exact fun entries member => .inl member
    | cons pair rest inductionHypothesis =>
      intro entries member
      rcases inductionHypothesis _ member with member | member
      · rcases mem_of_mem_insert member with rfl | member
        · exact .inr (List.mem_cons_self ..)
        · exact .inl member
      · exact .inr (List.mem_cons_of_mem _ member)
  simpa using carried pairs [] member

end ReverseDns.Keyed
