import ReverseDns.Proofs.Descriptions

/-!
# Resolved configurations

What comes of settings: they are refused, or they and the environment make a configuration that
could be given as settings itself, keeps what was given, and resolves to itself.

* `Schema.leaves` -- the paths of the fields that hold no fields themselves
* `Config.IsSettings`, `Config.issues_eq_nil_iff` -- the settings that are accepted
* `Config.at?_toJson` -- what a configuration has at the path of each field
* `Config.Resolved` -- what a configuration has of the settings and of the environment
* `Config.resolves` -- all that can come of settings
-/

namespace ReverseDns

/-! ## Fields below fields -/

/-- The value at a path of names. -/
def Json.at? (value : Json) (path : List String) : Option Json := path.foldlM Json.get? value

@[simp] theorem Json.at?_nil (value : Json) : value.at? [] = some value := rfl

@[simp] theorem Json.at?_cons (value : Json) (name : String) (path : List String) :
    value.at? (name :: path) = (value.get? name).bind fun found => found.at? path := rfl

namespace Schema

mutual

/-- The paths of the fields that hold no fields themselves. -/
def leaves : Schema → List (List String)
  | .record fields => fieldLeaves fields
  | _ => [[]]

def fieldLeaves : List (String × Bool × Remarks × Schema) → List (List String)
  | [] => []
  | (name, _, _, schema) :: rest => (leaves schema).map (name :: ·) ++ fieldLeaves rest

end

/-- A truth value. -/
def IsFlag (value : Json) : Prop := ∃ flag, value = .bool flag

theorem booleanIssues_eq_nil {path : String} {value : Json} :
    booleanIssues path (some value) = [] ↔ IsFlag value := by
  cases value with
  | bool flag => exact iff_of_true rfl ⟨flag, rfl⟩
  | null | num _ | text _ | arr _ | obj _ =>
    exact iff_of_false (by simp [booleanIssues]) (by rintro ⟨flag, same⟩; cases same)

theorem choiceIssues_eq_nil {options : List String} {path : String} {value : Json} :
    choiceIssues options path (some value) = [] ↔ ∃ option ∈ options, value = .str option := by
  unfold choiceIssues
  split
  next text same =>
    cases same
    split
    next chosen => exact iff_of_true rfl ⟨text, by simpa using chosen, rfl⟩
    next other =>
      refine iff_of_false (by simp) ?_
      rintro ⟨option, member, same⟩
      cases same
      exact other (by simpa using member)
  next noText =>
    refine iff_of_false (by simp) ?_
    rintro ⟨option, -, rfl⟩
    exact noText option rfl

end Schema

theorem CredentialMethod.ofName?_name (method : CredentialMethod) :
    ofName? method.name = some method := by
  cases method <;> decide

namespace Config

open Schema (IsFilled IsFlag)

/-! ## Settings -/

/-- The name of a way to obtain credentials. -/
def IsMethod (value : Json) : Prop := ∃ method : CredentialMethod, value = .str method.name

/-- An object whose flags, as far as they are there, are truth values. -/
def IsReporting (value : Json) : Prop :=
  ∃ members, value = .obj members ∧
    (∀ flag, Keyed.get? members "enabled" = some flag → IsFlag flag) ∧
    ∀ flag, Keyed.get? members "verbose" = some flag → IsFlag flag

/-- What the members of accepted settings are, as far as they are there. -/
structure Given (members : Members) : Prop where
  subscriptionId : ∀ value, Keyed.get? members "subscriptionId" = some value → IsFilled value
  tenantId : ∀ value, Keyed.get? members "tenantId" = some value → IsFilled value
  credentialMethod : ∀ value, Keyed.get? members "credentialMethod" = some value → IsMethod value
  diagnostics : ∀ value, Keyed.get? members "diagnostics" = some value → IsReporting value

/-- Settings from which a configuration can be made. -/
def IsSettings (value : Json) : Prop := ∃ members, value = .obj members ∧ Given members

theorem methodIssues_eq_nil {path : String} {value : Json} :
    Schema.choiceIssues (CredentialMethod.all.map CredentialMethod.name) path (some value) = [] ↔
      IsMethod value := by
  rw [Schema.choiceIssues_eq_nil]
  constructor
  · rintro ⟨_, member, same⟩
    obtain ⟨method, -, rfl⟩ := List.mem_map.mp member
    exact ⟨method, same⟩
  · rintro ⟨method, same⟩
    have known : method ∈ CredentialMethod.all := by cases method <;> decide
    exact ⟨method.name, List.mem_map_of_mem known, same⟩

theorem reportingIssues_eq_nil {path : String} {value : Json} :
    Schema.issuesAt (.record [Field.optional "enabled" {} .boolean,
      Field.optional "verbose" {} .boolean]) path (some value) = [] ↔ IsReporting value := by
  cases value with
  | obj members =>
    rw [Schema.issuesAt_record_eq_nil]
    simp only [List.forall_mem_cons, List.not_mem_nil, false_imp_iff, implies_true, and_true,
      Schema.fieldAccepted_optional_iff, Schema.issuesAt, Schema.booleanIssues_eq_nil]
    constructor
    · exact fun flags => ⟨members, rfl, flags⟩
    · rintro ⟨_, same, flags⟩
      cases same
      exact flags
  | null | bool _ | num _ | text _ | arr _ =>
    exact iff_of_false (by simp [Schema.issuesAt]) (by rintro ⟨members, same, -⟩; cases same)

theorem issues_eq_nil_iff_given {members : Members} :
    schema.issues (some (.obj members)) = [] ↔ Given members := by
  rw [schema, Schema.issues_record_eq_nil]
  simp only [List.forall_mem_cons, List.not_mem_nil, false_imp_iff, implies_true, and_true,
    Schema.fieldAccepted_optional_iff, reportingIssues_eq_nil]
  simp only [Schema.issuesAt, Schema.textIssues_one_eq_nil, methodIssues_eq_nil]
  constructor
  · rintro ⟨subscriptionId, tenantId, credentialMethod, diagnostics⟩
    exact { subscriptionId, tenantId, credentialMethod, diagnostics }
  · intro given
    exact ⟨given.subscriptionId, given.tenantId, given.credentialMethod, given.diagnostics⟩

theorem issues_eq_nil_iff {value : Json} :
    schema.issues (some value) = [] ↔ IsSettings value := by
  constructor
  · intro accepted
    obtain ⟨members, same⟩ := Schema.obj_of_issues_record accepted
    cases same
    exact ⟨members, rfl, issues_eq_nil_iff_given.mp accepted⟩
  · rintro ⟨members, rfl, given⟩
    exact issues_eq_nil_iff_given.mpr given

/-! ## Configurations as settings -/

section ToJson

variable (config : Config)

@[simp] theorem get?_toJson_subscriptionId :
    config.toJson.get? "subscriptionId" = config.subscriptionId.map .text := by
  simp [toJson, Json.get?, Keyed.get?_append, Schema.get?_optional]

@[simp] theorem get?_toJson_tenantId :
    config.toJson.get? "tenantId" = config.tenantId.map .text := by
  simp [toJson, Json.get?, Keyed.get?_append, Schema.get?_optional]

@[simp] theorem get?_toJson_credentialMethod :
    config.toJson.get? "credentialMethod" = some (.str config.credentialMethod.name) := by
  simp [toJson, Json.get?, Keyed.get?_append, Schema.get?_optional]

@[simp] theorem get?_toJson_diagnostics :
    config.toJson.get? "diagnostics" = some (.obj [("enabled", .bool config.reporting.enabled),
      ("verbose", .bool config.reporting.verbose)]) := by
  simp [toJson, Json.get?, Keyed.get?_append, Schema.get?_optional]

theorem at?_toJson_enabled :
    config.toJson.at? ["diagnostics", "enabled"] = some (.bool config.reporting.enabled) := by
  rw [Json.at?_cons, get?_toJson_diagnostics]
  rfl

theorem at?_toJson_verbose :
    config.toJson.at? ["diagnostics", "verbose"] = some (.bool config.reporting.verbose) := by
  rw [Json.at?_cons, get?_toJson_diagnostics]
  rfl

/-- A configuration could be given as settings itself if its texts are not empty. -/
theorem isSettings_toJson (subscription : config.subscriptionId ≠ some { start := "" })
    (tenant : config.tenantId ≠ some { start := "" }) : IsSettings config.toJson := by
  refine ⟨_, rfl, ?_, ?_, ?_, ?_⟩ <;> intro value found
  · obtain ⟨text, given, rfl⟩ :=
      Option.map_eq_some_iff.mp ((get?_toJson_subscriptionId config).symm.trans found)
    exact ⟨text, rfl, fun empty => subscription (empty ▸ given)⟩
  · obtain ⟨text, given, rfl⟩ :=
      Option.map_eq_some_iff.mp ((get?_toJson_tenantId config).symm.trans found)
    exact ⟨text, rfl, fun empty => tenant (empty ▸ given)⟩
  · cases (get?_toJson_credentialMethod config).symm.trans found
    exact ⟨config.credentialMethod, rfl⟩
  · cases (get?_toJson_diagnostics config).symm.trans found
    refine ⟨_, rfl, ?_, ?_⟩ <;> intro flag found <;> cases found <;> exact ⟨_, rfl⟩

end ToJson

/-! ## Sources of a configuration -/

section Sources

variable {raw : Json} {environment : Environment} {field name : String}

theorem setting?_eq_some {text : String} :
    setting? environment name = some text ↔
      Keyed.get? environment name = some text ∧ text ≠ "" := by
  unfold setting?
  split
  next value found =>
    split
    next empty => simp [found, empty]
    next nonempty =>
      constructor
      · rintro ⟨⟩
        exact ⟨found, nonempty⟩
      · exact fun both => found.symm.trans both.1
  next missing => simp [missing]

theorem textSetting?_of_given {text : WideText} (given : raw.get? field = some (.text text)) :
    textSetting? raw field environment name = some text := by
  simp [textSetting?, given, Json.text?]

theorem textSetting?_of_missing (missing : raw.get? field = none) :
    textSetting? raw field environment name =
      (setting? environment name).map fun text => { start := text } := by
  simp [textSetting?, missing]

/-- No text that is used is empty. -/
theorem textSetting?_ne_empty (filled : ∀ value, raw.get? field = some value → IsFilled value) :
    textSetting? raw field environment name ≠ some { start := "" } := by
  intro empty
  cases given : raw.get? field with
  | some value =>
    obtain ⟨text, rfl, nonempty⟩ := filled value given
    exact nonempty (Option.some.inj ((textSetting?_of_given given).symm.trans empty))
  | none =>
    rw [textSetting?_of_missing given] at empty
    obtain ⟨text, found, same⟩ := Option.map_eq_some_iff.mp empty
    exact (setting?_eq_some.mp found).2 (congrArg WideText.start same)

theorem setting?_of_textSetting?_eq_none (none : textSetting? raw field environment name = none) :
    setting? environment name = Option.none := by
  rw [textSetting?, Option.or_eq_none_iff] at none
  exact Option.map_eq_none_iff.mp none.2

theorem flag_eq (otherwise : Bool) :
    flag raw name otherwise = ((raw.at? ["diagnostics", name]).bind Json.bool?).getD otherwise := by
  simp [flag, Option.bind_fun_some]

/-- A configuration resolves to itself if it has what the environment can give. -/
theorem fill_toJson {config : Config}
    (subscription : config.subscriptionId = none →
      setting? environment "AZURE_SUBSCRIPTION_ID" = none)
    (tenant : config.tenantId = none → setting? environment "AZURE_TENANT_ID" = none) :
    fill config.toJson environment = config := by
  obtain ⟨subscriptionId, tenantId, method, enabled, verbose⟩ := config
  simp only [fill, mk.injEq, flag_eq, at?_toJson_enabled, at?_toJson_verbose]
  refine ⟨?_, ?_, ?_, ?_⟩
  · cases subscriptionId with
    | some text => exact textSetting?_of_given (by simp)
    | none => rw [textSetting?_of_missing (by simp), subscription rfl, Option.map_none]
  · cases tenantId with
    | some text => exact textSetting?_of_given (by simp)
    | none => rw [textSetting?_of_missing (by simp), tenant rfl, Option.map_none]
  · simp [Json.str?, CredentialMethod.ofName?_name]
  · rfl

end Sources

/-! ## What comes of settings -/

/-- The fields that the environment can give, each with the name of the variable. -/
def fromVariables : List (String × String) :=
  [("subscriptionId", "AZURE_SUBSCRIPTION_ID"), ("tenantId", "AZURE_TENANT_ID")]

/-- The fields for which there is a default. -/
def defaulted : List (List String) :=
  [["credentialMethod"], ["diagnostics", "enabled"], ["diagnostics", "verbose"]]

/-- What a configuration has that is made of accepted settings. -/
structure Resolved (raw : Json) (environment : Environment) (config : Config) : Prop where
  /-- It could be given as settings itself. -/
  closed : IsSettings config.toJson
  /-- What the settings give stays as it is. -/
  kept : ∀ path ∈ schema.leaves, ∀ value, raw.at? path = some value →
    config.toJson.at? path = some value
  /-- A variable gives a field that the settings leave out if and only if it is not empty. -/
  fromVariable : ∀ field ∈ fromVariables, raw.get? field.1 = none → ∀ value,
    config.toJson.get? field.1 = some value ↔
      ∃ text, Keyed.get? environment field.2 = some text ∧ text ≠ "" ∧ value = .str text
  /-- A field with a default is always there. -/
  alwaysSet : ∀ path ∈ defaulted, ∃ value, config.toJson.at? path = some value ∧
    (raw.at? path = none → standard.toJson.at? path = some value)
  /-- It resolves to itself. -/
  stable : resolve config.toJson environment = .ok config

/-- All that can come of settings. -/
inductive Resolution (raw : Json) (environment : Environment) : Except Failure Config → Prop
  /-- They are refused, with every issue that there is. -/
  | refused (violates : ¬IsSettings raw) (complains : schema.issues (some raw) ≠ []) :
    Resolution raw environment (.error (.invalid .configuration (schema.issues (some raw))))
  /-- They make a configuration. -/
  | resolved (config : Config) (settings : IsSettings raw)
    (resolved : Resolved raw environment config) : Resolution raw environment (.ok config)

theorem leaves_schema :
    schema.leaves = [["subscriptionId"], ["tenantId"], ["credentialMethod"],
      ["diagnostics", "enabled"], ["diagnostics", "verbose"]] := rfl

section Filled

variable {raw : Json} (environment : Environment)

theorem closed_fill (settings : IsSettings raw) : IsSettings (fill raw environment).toJson := by
  obtain ⟨members, rfl, given⟩ := settings
  exact isSettings_toJson _ (textSetting?_ne_empty given.subscriptionId)
    (textSetting?_ne_empty given.tenantId)

theorem stable_fill (settings : IsSettings raw) :
    resolve (fill raw environment).toJson environment = .ok (fill raw environment) := by
  rw [resolve, issues_eq_nil_iff.mpr (closed_fill environment settings)]
  exact congrArg Except.ok
    (fill_toJson setting?_of_textSetting?_eq_none setting?_of_textSetting?_eq_none)

/-- A flag that is given is a truth value. -/
theorem flag_of_given {name : String} (known : name = "enabled" ∨ name = "verbose") {value : Json}
    (settings : IsSettings raw) (given : raw.at? ["diagnostics", name] = some value)
    (otherwise : Bool) : value = .bool (flag raw name otherwise) := by
  rw [flag_eq, given]
  obtain ⟨members, rfl, described⟩ := settings
  obtain ⟨diagnostics, found, inside⟩ := Option.bind_eq_some_iff.mp given
  obtain ⟨flags, rfl, enabled, verbose⟩ := described.diagnostics diagnostics found
  obtain ⟨flag, stands, ⟨⟩⟩ := Option.bind_eq_some_iff.mp inside
  rcases known with rfl | rfl
  · obtain ⟨flag, rfl⟩ := enabled _ stands
    rfl
  · obtain ⟨flag, rfl⟩ := verbose _ stands
    rfl

theorem kept_fill (settings : IsSettings raw) :
    ∀ path ∈ schema.leaves, ∀ value, raw.at? path = some value →
      (fill raw environment).toJson.at? path = some value := by
  have described := settings
  obtain ⟨members, rfl, given⟩ := described
  simp only [leaves_schema, List.forall_mem_cons, List.not_mem_nil, false_imp_iff, implies_true,
    and_true]
  refine ⟨?_, ?_, ?_, ?_, ?_⟩ <;> intro value stands
  · obtain ⟨_, found, ⟨⟩⟩ := Option.bind_eq_some_iff.mp stands
    obtain ⟨text, rfl, -⟩ := given.subscriptionId value found
    simp [fill, textSetting?_of_given found]
  · obtain ⟨_, found, ⟨⟩⟩ := Option.bind_eq_some_iff.mp stands
    obtain ⟨text, rfl, -⟩ := given.tenantId value found
    simp [fill, textSetting?_of_given found]
  · obtain ⟨_, found, ⟨⟩⟩ := Option.bind_eq_some_iff.mp stands
    obtain ⟨method, rfl⟩ := given.credentialMethod value found
    have read : Json.get? (.obj members) "credentialMethod" = some (.str method.name) := found
    simp [fill, read, Json.str?, WideText.shown, CredentialMethod.ofName?_name]
  · rw [at?_toJson_enabled, flag_of_given (.inl rfl) settings stands standard.reporting.enabled]
    rfl
  · rw [at?_toJson_verbose, flag_of_given (.inr rfl) settings stands standard.reporting.verbose]
    rfl

theorem fromVariable_fill :
    ∀ field ∈ fromVariables, raw.get? field.1 = none → ∀ value,
      (fill raw environment).toJson.get? field.1 = some value ↔
        ∃ text, Keyed.get? environment field.2 = some text ∧ text ≠ "" ∧ value = .str text := by
  have fromSetting : ∀ name value,
      ((setting? environment name).map fun text => ({ start := text } : WideText)).map Json.text =
          some value ↔
        ∃ text, Keyed.get? environment name = some text ∧ text ≠ "" ∧ value = .str text := by
    intro name value
    simp only [Option.map_map, Option.map_eq_some_iff, setting?_eq_some, and_assoc,
      Function.comp_apply, eq_comm (b := value)]
  simp only [fromVariables, List.forall_mem_cons, List.not_mem_nil, false_imp_iff, implies_true,
    and_true]
  refine ⟨?_, ?_⟩ <;> intro missing value
  · rw [get?_toJson_subscriptionId, fill, textSetting?_of_missing missing, fromSetting]
  · rw [get?_toJson_tenantId, fill, textSetting?_of_missing missing, fromSetting]

theorem alwaysSet_fill :
    ∀ path ∈ defaulted, ∃ value, (fill raw environment).toJson.at? path = some value ∧
      (raw.at? path = none → standard.toJson.at? path = some value) := by
  simp only [defaulted, List.forall_mem_cons, List.not_mem_nil, false_imp_iff, implies_true,
    and_true]
  refine ⟨⟨_, by rw [Json.at?_cons, get?_toJson_credentialMethod]; rfl, ?_⟩,
    ⟨_, at?_toJson_enabled _, ?_⟩, ⟨_, at?_toJson_verbose _, ?_⟩⟩ <;> intro missing
  · have unset : raw.get? "credentialMethod" = none := by simpa [Option.bind_fun_some] using missing
    simp [fill, unset]
  · simp only [at?_toJson_enabled, fill, flag_eq, missing]
    rfl
  · simp only [at?_toJson_verbose, fill, flag_eq, missing]
    rfl

end Filled

/-- Settings are refused, with at least one issue, if and only if the schema does not accept them.
Else they and the environment make a configuration: it could be given as settings itself, it keeps
what was given, a field that was left out is that of the environment or the default, and it resolves
to itself. -/
theorem resolves (raw : Json) (environment : Environment) :
    (schema.issues (some raw) = [] ↔ IsSettings raw) ∧
      Resolution raw environment (resolve raw environment) := by
  refine ⟨issues_eq_nil_iff, ?_⟩
  unfold resolve
  split
  next none =>
    have settings := issues_eq_nil_iff.mp none
    exact .resolved _ settings {
      closed := closed_fill environment settings
      kept := kept_fill environment settings
      fromVariable := fromVariable_fill environment
      alwaysSet := alwaysSet_fill environment
      stable := stable_fill environment settings }
  next complains =>
    exact .refused (fun settings => complains (issues_eq_nil_iff.mpr settings)) complains

/-- A variable that is empty gives nothing, and a flag that is left out is off. -/
example :
    fill (.obj [("subscriptionId", .str "s"), ("diagnostics", .obj [("verbose", .bool true)])])
        [("AZURE_SUBSCRIPTION_ID", "t"), ("AZURE_TENANT_ID", "")] =
      { subscriptionId := some "s", tenantId := none, credentialMethod := .default,
        reporting := { enabled := false, verbose := true } } := by
  decide +kernel

end Config

end ReverseDns
