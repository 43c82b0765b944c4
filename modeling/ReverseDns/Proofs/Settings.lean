import ReverseDns.CommandLine.Invocation
import ReverseDns.Proofs.Acceptance

/-!
# Settings on a command line

A command line that runs a command gives settings that the configuration accepts: values of
switches with choices were checked while the words were sorted, and empty values count as none.

* `Scan.Checked`, `checked_scan` -- the values that were given are accepted by their switches
* `Globals.settings_accepted` -- the settings of a command line are a configuration
-/

namespace ReverseDns.CommandLine

/-! ## Values that were given -/

/-- Every value that was given is accepted by its switch. -/
def Scan.Checked (switches : List Switch) (scan : Scan) : Prop :=
  ∀ form value, (form, some value) ∈ scan.given →
    ∃ switch ∈ switches, switch.long = form ∧ switch.accepts value = true

theorem Scan.Checked.keep {switches : List Switch} {scan : Scan} (checked : scan.Checked switches)
    (astray : Bool) (words : List String) : (Scan.keep astray words scan).Checked switches := by
  unfold Scan.keep
  split
  · exact checked
  · exact checked

theorem Scan.Checked.giveNone {switches : List Switch} {scan : Scan}
    (checked : scan.Checked switches) (switch : Switch) :
    (Scan.give switch none scan).Checked switches := by
  intro form value member
  rcases List.mem_cons.mp member with equal | member
  · cases equal
  · exact checked form value member

theorem Scan.Checked.giveAll {switches : List Switch} {scan : Scan}
    (checked : scan.Checked switches) (flags : List Switch) :
    (Scan.giveAll flags scan).Checked switches := by
  induction flags with
  | nil => exact checked
  | cons flag rest inductionHypothesis => exact inductionHypothesis.giveNone flag

/-- All scans that come of sorting are checked. -/
def CheckedOutcome (switches : List Switch) (outcome : Except Misuse Scan) : Prop :=
  ∀ scan, outcome = .ok scan → scan.Checked switches

theorem CheckedOutcome.map {switches : List Switch} {outcome : Except Misuse Scan} {f : Scan → Scan}
    (checked : CheckedOutcome switches outcome)
    (kept : ∀ scan : Scan, scan.Checked switches → (f scan).Checked switches) :
    CheckedOutcome switches (outcome.map f) := by
  intro scan equal
  cases outcome with
  | error misuse => cases equal
  | ok found =>
    cases equal
    exact kept found (checked found rfl)

theorem checked_supply {switches : List Switch} {switch : Switch} (known : switch ∈ switches)
    (value : String) {rest : Except Misuse Scan} (checked : CheckedOutcome switches rest) :
    CheckedOutcome switches (supply switch value rest) := by
  unfold supply
  split
  next accepted =>
    refine checked.map fun scan kept form given member => ?_
    rcases List.mem_cons.mp member with equal | member
    · cases equal
      exact ⟨switch, known, rfl, accepted⟩
    · exact kept form given member
  next =>
    intro scan equal
    cases equal

/-! ## Switches that are read -/

theorem mem_of_find? {switches : List Switch} {form : List Char} {switch : Switch}
    (found : Word.find? switches form = some switch) : switch ∈ switches :=
  List.mem_of_find?_eq_some found

theorem mem_of_findTaking? {switches : List Switch} {form : List Char} {switch : Switch}
    (found : Word.findTaking? switches form = some switch) : switch ∈ switches :=
  mem_of_find? (Option.filter_eq_some_iff.mp found).1

theorem mem_of_readJoined {switches : List Switch} {tail : List Char} {switch : Switch}
    {value : String} (read : Word.readJoined switches tail = .joined switch value) :
    switch ∈ switches := by
  unfold Word.readJoined at read
  dsimp only at read
  split at read
  next known _ _ found _ =>
    split at read
    next => cases read
    next =>
      cases read
      exact mem_of_findTaking? found
  next => cases read

theorem readJoined_ne_switch (switches : List Switch) (tail : List Char) (switch : Switch) :
    Word.readJoined switches tail ≠ .switch switch := by
  unfold Word.readJoined
  dsimp only
  split
  · split <;> nofun
  · nofun

/-- A word that is read as a switch names a known one. -/
theorem mem_of_read {switches : List Switch} {chars : List Char} {switch : Switch}
    (read : Word.read switches chars = .switch switch) : switch ∈ switches := by
  unfold Word.read at read
  split at read
  next => cases read
  next found =>
    cases read
    exact mem_of_find? found
  next => exact absurd read (readJoined_ne_switch switches _ switch)
  next => split at read <;> cases read
  next => cases read

theorem mem_of_read_joined {switches : List Switch} {chars : List Char} {switch : Switch}
    {value : String} (read : Word.read switches chars = .joined switch value) :
    switch ∈ switches := by
  unfold Word.read at read
  split at read
  next => cases read
  next => cases read
  next => exact mem_of_readJoined read
  next =>
    split at read
    next found =>
      cases read
      exact mem_of_findTaking? found
    next => cases read
  next => cases read

theorem checkedOutcome_error (switches : List Switch) (misuse : Misuse) :
    CheckedOutcome switches (.error misuse) :=
  fun _ equal => nomatch equal

theorem checkedOutcome_empty (switches : List Switch) : CheckedOutcome switches (.ok {}) := by
  intro scan equal
  cases equal
  exact fun _ _ member => nomatch member

/-- Whatever words are sorted, the values that were given are accepted. -/
theorem checked_scanFrom (switches : List Switch) (astray : Bool) :
    ∀ words, CheckedOutcome switches (scanFrom switches astray words)
  | [] => checkedOutcome_empty switches
  | word :: rest => by
    rw [scanFrom]
    refine CheckedOutcome.map ?_ fun scan checked => checked.giveAll _
    split
    next =>
      intro scan equal
      cases equal
      exact Scan.Checked.keep (checkedOutcome_empty switches _ rfl) astray _
    next known read =>
      split
      · -- the next word is the value, whatever it is
        match rest with
        | [] => exact checkedOutcome_error switches _
        | value :: rest =>
          exact checked_supply (mem_of_read read) value (checked_scanFrom switches astray rest)
      · exact (checked_scanFrom switches astray rest).map fun scan checked => checked.giveNone known
    next known value read =>
      exact checked_supply (mem_of_read_joined read) value (checked_scanFrom switches astray rest)
    next =>
      exact (checked_scanFrom switches true rest).map fun scan checked => checked.keep true _
    next =>
      exact (checked_scanFrom switches astray rest).map fun scan checked => checked.keep astray _

theorem Scan.Checked.value? {switches : List Switch} {scan : Scan} (checked : scan.Checked switches)
    {switch : Switch} {value : String} (given : scan.value? switch = some value) :
    ∃ known ∈ switches, known.long = switch.long ∧ known.accepts value = true := by
  have member := List.mem_of_getLast? given
  obtain ⟨⟨form, found⟩, inside, equal⟩ := List.mem_filterMap.mp member
  dsimp only at equal
  split at equal
  next same =>
    cases equal
    obtain ⟨known, member, long, accepted⟩ := checked form value inside
    exact ⟨known, member, long.trans same, accepted⟩
  next => cases equal

/-! ## Settings -/

theorem run_of_settle {about : Option Verb} {known unknown : List String} {next : Invocation}
    {globals : Globals} {command : Command}
    (settled : Invocation.settle about known unknown next = .run globals command) :
    next = .run globals command := by
  unfold Invocation.settle at settled
  split at settled
  · cases settled
  · split at settled
    · cases settled
    · exact settled

theorem globals_of_ofVerb {given globals : Globals} {verb : Verb} {operands unknown : List String}
    {command : Command}
    (invoked : Invocation.ofVerb given verb operands unknown = .run globals command) :
    globals = given := by
  unfold Invocation.ofVerb at invoked
  split at invoked
  next => cases invoked
  next =>
    have ran := run_of_settle invoked
    split at ran
    next =>
      cases ran
      rfl
    next => cases ran

/-- The settings of a command are those of a scan of its words. -/
theorem scan_of_run {words : List String} {globals : Globals} {command : Command}
    (invoked : Invocation.ofWords words = .run globals command) :
    ∃ found, scan globalSwitches words = .ok found ∧ globals = Globals.ofScan found := by
  unfold Invocation.ofWords at invoked
  split at invoked
  next => cases invoked
  next found scanned =>
    refine ⟨found, scanned, ?_⟩
    split at invoked
    next => cases run_of_settle invoked
    next word operands _ =>
      split at invoked
      next => exact globals_of_ofVerb invoked
      next =>
        split at invoked
        next =>
          cases operands with
          | nil => cases invoked
          | cons word rest =>
            unfold Invocation.ofHelp at invoked
            dsimp only at invoked
            split at invoked
            · cases invoked
            · split at invoked <;> cases invoked
        next => split at invoked <;> cases invoked

theorem str_of_member {value : Option String} {found : Json}
    (given : (value.filter (· ≠ "")).map Json.str = some found) :
    ∃ text : String, value = some text ∧ (text : WideText) ≠ "" ∧ found = .str text := by
  obtain ⟨text, kept, rfl⟩ := Option.map_eq_some_iff.mp given
  obtain ⟨same, nonempty⟩ := Option.filter_eq_some_iff.mp kept
  have nonempty : text ≠ "" := by simpa using nonempty
  exact ⟨text, same, fun empty => nonempty (congrArg WideText.start empty), rfl⟩

/-- The settings of a command line are accepted if the way to obtain credentials is one of the
choices. -/
theorem settings_accepted {globals : Globals}
    (method : ∀ text, globals.method = some text →
      (CredentialMethod.all.map CredentialMethod.name).contains text = true) :
    Config.schema.issues (some globals.settings) = [] := by
  rw [Config.schema, Globals.settings, Schema.issues_record_eq_nil]
  intro field known
  simp only [List.mem_cons, List.not_mem_nil, or_false] at known
  rcases known with rfl | rfl | rfl | rfl <;> refine Schema.fieldAccepted_optional fun value found => ?_ <;>
    simp only [Globals.member, Keyed.get?_append, Schema.get?_optional, String.reduceEq, if_true,
      if_false, Option.or_none, Option.none_or] at found
  · obtain ⟨text, -, nonempty, rfl⟩ := str_of_member found
    exact Schema.textIssues_of_ne_empty nonempty _
  · obtain ⟨text, -, nonempty, rfl⟩ := str_of_member found
    exact Schema.textIssues_of_ne_empty nonempty _
  · obtain ⟨text, given, -, rfl⟩ := str_of_member found
    rw [Schema.issuesAt, Schema.choiceIssues, if_pos (method text given)]
  · split at found
    · cases found
      simp [Schema.issuesAt, Schema.missingIssues, Schema.fieldIssues, Field.optional,
        Schema.booleanIssues]
    · cases found

/-- The settings of a command that is run are a configuration. -/
theorem resolve_of_run {words : List String} {globals : Globals} {command : Command}
    (invoked : Invocation.ofWords words = .run globals command) (environment : Environment) :
    ∃ config, Config.resolve globals.settings environment = .ok config := by
  obtain ⟨found, scanned, rfl⟩ := scan_of_run invoked
  have checked := checked_scanFrom globalSwitches false words found scanned
  have accepted : Config.schema.issues (some (Globals.ofScan found).settings) = [] := by
    apply settings_accepted
    intro text given
    obtain ⟨known, member, long, accepted⟩ := checked.value? given
    -- the only switch with this form is the one with choices
    simp only [globalSwitches, List.mem_cons, List.not_mem_nil, or_false] at member
    rcases member with rfl | rfl | rfl | rfl | rfl
    · exact absurd long (by decide)
    · exact absurd long (by decide)
    · exact accepted
    · exact absurd long (by decide)
    · exact absurd long (by decide)
  exact ⟨_, by rw [Config.resolve, accepted]⟩

end ReverseDns.CommandLine
