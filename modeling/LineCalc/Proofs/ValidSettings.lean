import LineCalc.Settings.Reading

/-!
Which data are settings. What is valid is said field by field, without the reading of it; valid data
are read, and where the general section is a table all else is refused with a complaint about the
configuration. A general section that is no table escapes that.
-/
namespace LineCalc

namespace Data

def IsText (data : Data) : Prop := ∃ s, data = .text s

/-- Truth values, zero and one as numbers, and the words for yes and no in any case of letters. -/
inductive CountsAsBool : Data → Prop
  | bool (b : Bool) : CountsAsBool (.bool b)
  | int {n : Int} (zeroOrOne : n = 0 ∨ n = 1) : CountsAsBool (.int n)
  | float {x : Binary64} {n : Int} (whole : x.whole? = some n) (zeroOrOne : n = 0 ∨ n = 1) :
      CountsAsBool (.float x)
  | word {s : String} (yesOrNo : String.ofList (s.toList.map asciiLower) ∈ trueWords ++ falseWords) :
      CountsAsBool (.text s)

def NamesLevel (data : Data) : Prop :=
  ∃ s level, data = .text s ∧ Text.upperCase s = Level.name level

def IsTable (valid : Entries → Prop) (data : Data) : Prop :=
  ∃ entries, data = .table entries ∧ valid entries

end Data

namespace Entries

def FieldsAmong (names : List String) (entries : Entries) : Prop := ∀ entry ∈ entries, entry.1 ∈ names

def Field (name : String) (sort : Data → Prop) (entries : Entries) : Prop :=
  ∀ value, entries.lookup name = some value → sort value

end Entries

structure SessionSettings.Valid (entries : Entries) : Prop where
  fields : entries.FieldsAmong ["prompt", "show_tree", "color"]
  prompt : entries.Field "prompt" Data.IsText
  showTree : entries.Field "show_tree" Data.CountsAsBool
  color : entries.Field "color" Data.CountsAsBool

theorem SessionSettings.Valid.nil : Valid [] := by
  constructor <;> simp [Entries.FieldsAmong, Entries.Field]

namespace Settings

structure ValidGeneral (names : List String) (entries : Entries) : Prop where
  fields : entries.FieldsAmong names
  level : entries.Field "log_level" Data.NamesLevel

structure Valid (data : Entries) : Prop where
  sections : data.FieldsAmong ["minicalc", "repl"]
  general : data.Field "minicalc" (Data.IsTable (ValidGeneral ["log_level"]))
  session : data.Field "repl" (Data.IsTable SessionSettings.Valid)

end Settings

def Accepts {ε α : Type} (result : Except ε α) : Prop := ∃ a, result = .ok a

@[simp]
theorem accepts_ok {ε α : Type} (a : α) : Accepts (.ok a : Except ε α) := ⟨a, rfl⟩

@[simp]
theorem not_accepts_error {ε α : Type} (e : ε) : ¬ Accepts (.error e : Except ε α) := by
  rintro ⟨a, same⟩
  cases same

@[simp]
theorem accepts_mapError {ε ε' α : Type} (f : ε → ε') (result : Except ε α) :
    Accepts (result.mapError f) ↔ Accepts result := by
  cases result with
  | ok a => exact ⟨fun _ => accepts_ok a, fun _ => accepts_ok a⟩
  | error e =>
    have refused : ¬ Accepts ((.error e : Except ε α).mapError f) := not_accepts_error (f e)
    simp [refused]

/-! Values. -/

namespace Data

theorem readText_accepts (data : Data) : Accepts data.readText ↔ data.IsText := by
  cases data <;> simp [readText, IsText]

theorem boolOfInt_accepts (n : Int) : Accepts (boolOfInt n) ↔ n = 0 ∨ n = 1 := by
  unfold boolOfInt
  split
  · next zero => simp [zero]
  · next nonzero =>
    split
    · next one => simp [one]
    · next more => split <;> simp [nonzero, more]

theorem boolOfFloat_accepts (x : Binary64) :
    Accepts (boolOfFloat x) ↔ ∃ n, x.whole? = some n ∧ (n = 0 ∨ n = 1) := by
  unfold boolOfFloat
  cases x.whole? with
  | none => simp
  | some n =>
    by_cases least : n = -9223372036854775808
    · simp [least]
    · simp [least, boolOfInt_accepts]

theorem boolWord?_isSome_iff (s : String) :
    (boolWord? s).isSome = true ↔
      String.ofList (s.toList.map asciiLower) ∈ trueWords ++ falseWords := by
  simp only [boolWord?, List.mem_append]
  split
  · next yes => simp [yes]
  · next other =>
    split
    · next no => simp [no]
    · next neither => simp [other, neither]

theorem readBool_accepts (data : Data) : Accepts data.readBool ↔ data.CountsAsBool := by
  cases data with
  | bool b => exact ⟨fun _ => .bool b, fun _ => accepts_ok b⟩
  | int n =>
    rw [readBool, boolOfInt_accepts]
    exact ⟨.int, fun counts => by cases counts; assumption⟩
  | float x =>
    rw [readBool, boolOfFloat_accepts]
    constructor
    · rintro ⟨n, whole, zeroOrOne⟩
      exact .float whole zeroOrOne
    · rintro (_ | _ | ⟨whole, zeroOrOne⟩)
      exact ⟨_, whole, zeroOrOne⟩
  | text s =>
    have word := boolWord?_isSome_iff s
    rw [readBool]
    constructor
    · intro accepted
      cases found : boolWord? s with
      | none => simp [found] at accepted
      | some b => exact .word (word.mp (by rw [found]; rfl))
    · rintro (_ | _ | _ | yesOrNo)
      obtain ⟨b, found⟩ := Option.isSome_iff_exists.mp (word.mpr yesOrNo)
      rw [found]
      exact accepts_ok b
  | _ => exact ⟨fun accepted => by simp [readBool] at accepted, fun counts => nomatch counts⟩

end Data

theorem Level.ofText?_eq_some_iff (s : String) (level : Level) :
    Level.ofText? s = some level ↔ Text.upperCase s = level.name := by
  constructor
  · intro found
    have same : level.name = Text.upperCase s := by simpa using List.find?_some found
    exact same.symm
  · intro named
    rw [ofText?, named, ofName?_name]

theorem readLevel_accepts (data : Data) : Accepts (readLevel data) ↔ data.NamesLevel := by
  constructor
  · rintro ⟨level, read⟩
    cases data with
    | text s =>
      cases named : Level.ofText? s with
      | none =>
        have refused : readLevel (.text s) = .error (.refused levelRefusal) := by
          simp [readLevel, Data.readText, named, bind, Except.bind]
        rw [refused] at read
        cases read
      | some found => exact ⟨s, found, rfl, (Level.ofText?_eq_some_iff s found).mp named⟩
    | _ => cases read
  · rintro ⟨s, level, rfl, named⟩
    refine ⟨level, ?_⟩
    simp [readLevel, Data.readText, (Level.ofText?_eq_some_iff s level).mpr named, bind, Except.bind]

/-! Fields. -/

theorem fieldOr_accepts {α : Type} {read : Data → Except Complaint α} {sort : Data → Prop}
    (accepts : ∀ data, Accepts (read data) ↔ sort data) (name : String) (default : α)
    (found : Option Data) :
    Accepts (fieldOr name read default found) ↔ ∀ value, found = some value → sort value := by
  cases found with
  | none => simp [fieldOr]
  | some data => simp [fieldOr, checkField, accepts]

namespace Section

def named (entries : Entries) : Named := entries.map fun entry => (.text entry.1, entry.2)

theorem named_cons (entry : String × Data) (rest : Entries) :
    named (entry :: rest) = (.text entry.1, entry.2) :: named rest := rfl

theorem sameName_text (a b : String) : sameName (.text a) (.text b) = (a == b) := rfl

theorem find?_named (name : String) (entries : Entries) :
    find? name (named entries) = entries.lookup name := by
  induction entries with
  | nil => rfl
  | cons entry rest ih =>
    obtain ⟨other, value⟩ := entry
    by_cases same : other = name
    · subst same
      simp [find?, named, sameName_text]
    · have apart : (name == other) = false := by simpa using Ne.symm same
      rw [List.lookup_cons, apart, ← ih]
      simp [find?, named, sameName_text, same]

theorem put_named (name : String) (value : Data) (entries : Entries) :
    put (.text name) value (named entries) = named (entries.put name value) := by
  induction entries with
  | nil => rfl
  | cons entry rest ih =>
    obtain ⟨other, old⟩ := entry
    by_cases same : other = name
    · simp [named_cons, put, Entries.put, sameName_text, same]
    · simp [named_cons, put, Entries.put, sameName_text, same, ih]

end Section

namespace Entries

theorem lookup_put_self (name : String) (value : Data) (entries : Entries) :
    (entries.put name value).lookup name = some value := by
  induction entries with
  | nil => simp [put]
  | cons entry rest ih =>
    obtain ⟨other, old⟩ := entry
    by_cases same : other = name
    · simp [put, same]
    · have apart : (name == other) = false := by simpa using Ne.symm same
      rw [put, if_neg same, List.lookup_cons, apart]
      exact ih

theorem lookup_put_of_ne {name other : String} (ne : other ≠ name) (value : Data)
    (entries : Entries) : (entries.put name value).lookup other = entries.lookup other := by
  have apart : (other == name) = false := by simpa using ne
  induction entries with
  | nil => simp [put, List.lookup_cons, apart]
  | cons entry rest ih =>
    obtain ⟨first, old⟩ := entry
    by_cases same : first = name
    · rw [put, if_pos same, List.lookup_cons, List.lookup_cons, same, apart]
    · rw [put, if_neg same, List.lookup_cons, List.lookup_cons, ih]

theorem fieldsAmong_cons {names : List String} {entry : String × Data} {rest : Entries} :
    FieldsAmong names (entry :: rest) ↔ entry.1 ∈ names ∧ FieldsAmong names rest :=
  List.forall_mem_cons

theorem fieldsAmong_put {names : List String} {name : String} (known : name ∈ names) (value : Data)
    (entries : Entries) : (entries.put name value).FieldsAmong names ↔ entries.FieldsAmong names := by
  induction entries with
  | nil => simp [put, FieldsAmong, known]
  | cons entry rest ih =>
    obtain ⟨first, old⟩ := entry
    by_cases same : first = name
    · rw [put, if_pos same, fieldsAmong_cons, fieldsAmong_cons, same]
    · rw [put, if_neg same, fieldsAmong_cons, fieldsAmong_cons, ih]

end Entries

theorem extraFields_eq_nil_iff (known : List String) (entries : Entries) :
    extraFields known (Section.named entries) = [] ↔ entries.FieldsAmong known := by
  simp only [extraFields, Section.named, List.filterMap_eq_nil_iff, List.forall_mem_map,
    Entries.FieldsAmong]
  refine forall₂_congr fun entry _ => ?_
  by_cases among : entry.1 ∈ known <;> simp [among]

/-! Sections. -/

theorem SessionSettings.ofEntries_accepts (entries : Entries) :
    Accepts (ofEntries (Section.named entries)) ↔ Valid entries := by
  have prompt := fieldOr_accepts Data.readText_accepts "prompt" "> " (entries.lookup "prompt")
  have showTree :=
    fieldOr_accepts Data.readBool_accepts "show_tree" false (entries.lookup "show_tree")
  have color := fieldOr_accepts Data.readBool_accepts "color" true (entries.lookup "color")
  have among := extraFields_eq_nil_iff fields entries
  unfold ofEntries
  simp only [Section.find?_named]
  split
  · next a b c readPrompt readTree readColor none =>
    refine ⟨fun _ => ?_, fun _ => accepts_ok _⟩
    exact ⟨among.mp none, prompt.mp ⟨a, readPrompt⟩, showTree.mp ⟨b, readTree⟩,
      color.mp ⟨c, readColor⟩⟩
  · next refused =>
    refine ⟨fun accepted => absurd accepted (not_accepts_error _), fun valid => ?_⟩
    obtain ⟨a, readPrompt⟩ := prompt.mpr valid.prompt
    obtain ⟨b, readTree⟩ := showTree.mpr valid.showTree
    obtain ⟨c, readColor⟩ := color.mpr valid.color
    exact (refused a b c readPrompt readTree readColor (among.mpr valid.fields)).elim

theorem SessionSettings.ofData_accepts (data : Data) :
    Accepts (ofData data) ↔ data.IsTable Valid := by
  cases data with
  | table entries =>
    have valid := ofEntries_accepts entries
    constructor
    · intro accepted
      exact ⟨entries, rfl, valid.mp accepted⟩
    · rintro ⟨_, ⟨⟩, good⟩
      exact valid.mpr good
  | _ => simp [ofData, Data.IsTable]

def SessionSettings.nested : Option Data → Checked SessionSettings
  | none => .ok {}
  | some data => (ofData data).mapError (·.map (Problem.under "repl"))

theorem SessionSettings.nested_accepts (found : Option Data) :
    Accepts (nested found) ↔ ∀ value, found = some value → value.IsTable Valid := by
  cases found with
  | none => simp [nested]
  | some data => simp [nested, ofData_accepts]

namespace Settings

theorem ofEntries_accepts (entries : Entries) :
    Accepts (ofEntries (Section.named entries)) ↔
      ValidGeneral fields entries ∧ entries.Field "repl" (Data.IsTable SessionSettings.Valid) := by
  have level := fieldOr_accepts readLevel_accepts "log_level" .warning (entries.lookup "log_level")
  have session := SessionSettings.nested_accepts (entries.lookup "repl")
  have among := extraFields_eq_nil_iff fields entries
  unfold ofEntries
  simp only [Section.find?_named]
  split
  · next a b readLevel readSession none =>
    refine ⟨fun _ => ?_, fun _ => accepts_ok _⟩
    exact ⟨⟨among.mp none, level.mp ⟨a, readLevel⟩⟩, session.mp ⟨b, readSession⟩⟩
  · next refused =>
    refine ⟨fun accepted => absurd accepted (not_accepts_error _), fun ⟨general, valid⟩ => ?_⟩
    obtain ⟨a, readLevel⟩ := level.mpr general.level
    obtain ⟨b, readSession⟩ := session.mpr valid
    exact (refused a b readLevel readSession (among.mpr general.fields)).elim

def generalSection (data : Entries) : Data := (data.lookup "minicalc").getD (.table [])

def merged (data general : Entries) : Entries :=
  match data.lookup "repl" with
  | some session => general.put "repl" session
  | none => general

variable {data general : Entries} {path : String}

theorem overlaid_of_table (table : generalSection data = .table general) :
    overlaid data = .ok (Section.named (merged data general)) := by
  have read : Section.ofData (.table general) = .ok (Section.named general) := rfl
  rw [generalSection] at table
  rw [overlaid, table, read, merged]
  cases data.lookup "repl" with
  | none => rfl
  | some session => exact congrArg Except.ok (Section.put_named "repl" session general)

theorem unknownSections_eq_nil_iff (data : Entries) :
    unknownSections data = [] ↔ data.FieldsAmong sections := by
  have sorted : unknownSections data = [] ↔
      ((data.map Prod.fst).filter fun name => name ∉ sections) = [] := by
    rw [← List.length_eq_zero_iff, ← List.length_eq_zero_iff, unknownSections,
      List.length_mergeSort]
  simp [sorted, List.filter_eq_nil_iff, Entries.FieldsAmong]

theorem merged_valid_iff (data general : Entries) :
    (ValidGeneral fields (merged data general) ∧
        (merged data general).Field "repl" (Data.IsTable SessionSettings.Valid)) ↔
      ValidGeneral fields general ∧ ∀ value,
        (data.lookup "repl").or (general.lookup "repl") = some value →
          value.IsTable SessionSettings.Valid := by
  have known : "repl" ∈ fields := by decide
  unfold merged
  cases data.lookup "repl" with
  | none => rfl
  | some session =>
    have level : (general.put "repl" session).Field "log_level" Data.NamesLevel ↔
        general.Field "log_level" Data.NamesLevel := by
      unfold Entries.Field
      rw [Entries.lookup_put_of_ne (by decide)]
    have among := Entries.fieldsAmong_put known session general
    have found := Entries.lookup_put_self "repl" session general
    constructor
    · rintro ⟨valid, nested⟩
      refine ⟨⟨among.mp valid.fields, level.mp valid.level⟩, fun value here => ?_⟩
      exact nested value (found.trans here)
    · rintro ⟨valid, nested⟩
      refine ⟨⟨among.mpr valid.fields, level.mpr valid.level⟩, fun value here => ?_⟩
      exact nested value (found.symm.trans here)

theorem ofData_of_overlaid {entries : Section.Named} (overlay : overlaid data = .ok entries) :
    ofData path data =
      if unknownSections data ≠ [] then .error (.unknownSections path (unknownSections data))
      else (ofEntries entries).mapError (.invalid path) := by
  rw [ofData, overlay]
  rfl

theorem ofData_error {entries : Section.Named} (overlay : overlaid data = .ok entries)
    {error : SettingsError} (refused : ofData path data = .error error) :
    error.isConfigurationError = true := by
  rw [ofData_of_overlaid overlay] at refused
  split at refused
  · obtain rfl := Except.error.inj refused
    rfl
  · cases read : ofEntries entries with
    | ok settings =>
      rw [read] at refused
      cases refused
    | error problems =>
      rw [read] at refused
      obtain rfl := Except.error.inj refused
      rfl

/-- A general section that is a table may also hold the session's section. -/
theorem ofData_accepts_of_table (table : generalSection data = .table general) :
    Accepts (ofData path data) ↔ data.FieldsAmong sections ∧ ValidGeneral fields general ∧
      ∀ value, (data.lookup "repl").or (general.lookup "repl") = some value →
        value.IsTable SessionSettings.Valid := by
  have unknown := unknownSections_eq_nil_iff data
  have accepts := (ofEntries_accepts (merged data general)).trans (merged_valid_iff data general)
  rw [ofData_of_overlaid (overlaid_of_table table), ← unknown, ← accepts]
  by_cases others : unknownSections data = [] <;> simp [others]

theorem validGeneral_iff (absent : general.lookup "repl" = none) :
    ValidGeneral fields general ↔ ValidGeneral ["log_level"] general := by
  have unlike : ∀ entry ∈ general, entry.1 ≠ "repl" := by
    intro entry member same
    have differs := List.lookup_eq_none_iff.mp absent entry member
    simp [same] at differs
  constructor
  · intro valid
    refine ⟨fun entry member => ?_, valid.level⟩
    have among := valid.fields entry member
    simpa [fields, unlike entry member] using among
  · intro valid
    refine ⟨fun entry member => ?_, valid.level⟩
    exact List.mem_of_mem_take (i := 1) (valid.fields entry member)

theorem general_valid_iff (names : List String)
    (table : generalSection data = .table general) :
    data.Field "minicalc" (Data.IsTable (ValidGeneral names)) ↔ ValidGeneral names general := by
  unfold Entries.Field
  unfold generalSection at table
  cases found : data.lookup "minicalc" with
  | none =>
    rw [found] at table
    obtain rfl : [] = general := Data.table.inj table
    exact ⟨fun _ => ⟨by simp [Entries.FieldsAmong], by simp [Entries.Field]⟩, by simp⟩
  | some value =>
    rw [found] at table
    obtain rfl : value = .table general := table
    simp [Data.IsTable]

theorem valid_iff_of_table (table : generalSection data = .table general)
    (absent : general.lookup "repl" = none) :
    (data.FieldsAmong sections ∧ ValidGeneral fields general ∧
        ∀ value, (data.lookup "repl").or (general.lookup "repl") = some value →
          value.IsTable SessionSettings.Valid) ↔ Valid data := by
  rw [validGeneral_iff absent, ← general_valid_iff ["log_level"] table, absent, Option.or_none]
  exact ⟨fun ⟨known, valid, session⟩ => ⟨known, valid, session⟩,
    fun valid => ⟨valid.sections, valid.general, valid.session⟩⟩

theorem Valid.general_table (valid : Valid data) :
    ∃ general, generalSection data = .table general ∧
      general.lookup "repl" = none := by
  unfold generalSection
  cases found : data.lookup "minicalc" with
  | none => exact ⟨[], rfl, rfl⟩
  | some value =>
    obtain ⟨general, rfl, fields, _⟩ := valid.general value found
    refine ⟨general, rfl, List.lookup_eq_none_iff.mpr fun entry member => ?_⟩
    have only : entry.1 = "log_level" := by simpa using fields entry member
    simp [only]

/-! General sections that are no tables. -/

theorem pair_error {index : Nat} {item : Data} {error : SettingsError}
    (refused : Section.pair index item = .error error) : error.isConfigurationError = false := by
  unfold Section.pair at refused
  split at refused
  · obtain rfl := Except.error.inj refused
    rfl
  · next name value _ =>
    cases checked : Section.checkName name with
    | ok name => simp [checked, Except.map] at refused
    | error unhashable =>
      rw [checked] at refused
      obtain rfl := Except.error.inj refused
      unfold Section.checkName at checked
      split at checked
      · obtain rfl := Except.error.inj checked
        rfl
      · obtain rfl := Except.error.inj checked
        rfl
      · cases checked
  · obtain rfl := Except.error.inj refused
    rfl

theorem ofPairs_error {items : List Data} {index : Nat} {named : Section.Named}
    {error : SettingsError} (refused : Section.ofPairs index named items = .error error) :
    error.isConfigurationError = false := by
  induction items generalizing index named with
  | nil => cases refused
  | cons item rest ih =>
    rw [Section.ofPairs] at refused
    cases read : Section.pair index item with
    | error odd =>
      rw [read] at refused
      obtain rfl := Except.error.inj refused
      exact pair_error read
    | ok entry =>
      rw [read] at refused
      exact ih refused

theorem section_error {value : Data} {error : SettingsError}
    (refused : Section.ofData value = .error error) : error.isConfigurationError = false := by
  unfold Section.ofData at refused
  split at refused
  · cases refused
  · split at refused
    · exact ofPairs_error refused
    · obtain rfl := Except.error.inj refused
      rfl

theorem section_without_parts {value : Data} (closed : Section.parts? value = none) :
    Section.ofData value = .error (.noEntries value.typeName) := by
  cases value with
  | table entries => simp [Section.parts?] at closed
  | text s => simp [Section.parts?] at closed
  | list items => simp [Section.parts?] at closed
  | _ => rfl

theorem overlaid_error {error : SettingsError}
    (refused : Section.ofData (generalSection data) = .error error) :
    overlaid data = .error error := by
  rw [generalSection] at refused
  rw [overlaid, refused]
  rfl

theorem exists_overlaid {named : Section.Named}
    (read : Section.ofData (generalSection data) = .ok named) :
    ∃ entries, overlaid data = .ok entries := by
  rw [generalSection] at read
  rw [overlaid, read]
  cases data.lookup "repl" with
  | none => exact ⟨_, rfl⟩
  | some session => exact ⟨_, rfl⟩

theorem ofData_of_section_error {error : SettingsError}
    (refused : Section.ofData (generalSection data) = .error error) :
    ofData path data = .error error := by
  rw [ofData, overlaid_error refused]
  rfl

theorem isConfigurationError_iff {error : SettingsError}
    (refused : ofData path data = .error error) :
    error.isConfigurationError = false ↔ Section.ofData (generalSection data) = .error error := by
  constructor
  · intro other
    cases read : Section.ofData (generalSection data) with
    | error odd =>
      obtain rfl := Except.error.inj ((ofData_of_section_error read).symm.trans refused)
      rfl
    | ok named =>
      obtain ⟨entries, overlay⟩ := exists_overlaid read
      simp [ofData_error overlay refused] at other
  · exact section_error

/-- Valid data are settings. Where the general section is a table or left out, data are settings only
if they are valid, except that the general section may hold the session's section. Data are refused
with a complaint about the configuration, except where the general section cannot be read as entries,
as when it is a number, a truth value or a moment. -/
theorem settings_are_read_where_valid (path : String) (data : Entries) :
    (Valid data → ∃ settings, ofData path data = .ok settings) ∧
    (∀ general, generalSection data = .table general →
      (general.lookup "repl" = none →
        ((∃ settings, ofData path data = .ok settings) ↔ Valid data)) ∧
      ((∃ settings, ofData path data = .ok settings) ↔
        data.FieldsAmong ["minicalc", "repl"] ∧ ValidGeneral ["log_level", "repl"] general ∧
          ∀ value, (data.lookup "repl").or (general.lookup "repl") = some value →
            value.IsTable SessionSettings.Valid) ∧
      ∀ error, ofData path data = .error error → error.isConfigurationError = true) ∧
    (Section.parts? (generalSection data) = none →
      ofData path data = .error (.noEntries (generalSection data).typeName)) ∧
    ∀ error, ofData path data = .error error → (error.isConfigurationError = false ↔
      Section.ofData (generalSection data) = .error error) := by
  refine ⟨fun valid => ?_, fun general table => ⟨fun absent => ?_, ?_, fun error refused => ?_⟩,
    fun closed => ?_, fun error refused => isConfigurationError_iff refused⟩
  · obtain ⟨general, table, absent⟩ := valid.general_table
    exact (ofData_accepts_of_table table).mpr ((valid_iff_of_table table absent).mpr valid)
  · exact (ofData_accepts_of_table table).trans (valid_iff_of_table table absent)
  · exact ofData_accepts_of_table table
  · exact ofData_error (overlaid_of_table table) refused
  · exact ofData_of_section_error (section_without_parts closed)

/-- A number in the place of the general section is no complaint about the configuration, and settings
of the session in the general section are taken. -/
theorem general_section_escapes :
    ofData "minicalc.toml" [("minicalc", .int 5)] = .error (.noEntries "int") ∧
      (SettingsError.noEntries "int").isConfigurationError = false ∧
      ¬ Valid [("minicalc", .int 5)] ∧
      (∃ settings,
        ofData "minicalc.toml" [("minicalc", .table [("repl", .table [])])] = .ok settings) ∧
      ¬ Valid [("minicalc", .table [("repl", .table [])])] := by
  refine ⟨ofData_of_section_error rfl, rfl, fun valid => ?_, ?_, fun valid => ?_⟩
  · obtain ⟨general, table, _⟩ := valid.general_table
    cases table
  · have nested : ValidGeneral fields [("repl", .table [])] :=
      ⟨by simp [Entries.FieldsAmong, fields], by simp [Entries.Field, List.lookup_cons]⟩
    refine (ofData_accepts_of_table rfl).mpr ⟨by simp [Entries.FieldsAmong, sections], nested, ?_⟩
    rintro value ⟨⟩
    exact ⟨[], rfl, .nil⟩
  · obtain ⟨general, table, absent⟩ := valid.general_table
    obtain rfl := Data.table.inj table
    cases absent

end Settings
end LineCalc
