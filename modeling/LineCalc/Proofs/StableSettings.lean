import LineCalc.Proofs.ValidSettings

/-!
Where settings come from once data have been read. The level is the upper case of a text and is read
back from its own name, so settings that are written out as data are read as what they are. The
session's section alone decides on the session, and the level of the log is that of the first text
that names one.
-/
namespace LineCalc

namespace Level

def names : List String := ["CRITICAL", "ERROR", "WARNING", "INFO", "DEBUG"]

theorem name_mem (level : Level) : level.name ∈ names := by cases level <;> decide

theorem exists_name_of_mem {s : String} (member : s ∈ names) : ∃ level : Level, level.name = s := by
  have inside : s ∈ all.map name := member
  obtain ⟨level, _, named⟩ := List.mem_map.mp inside
  exact ⟨level, named⟩

theorem upperCase_name (level : Level) : Text.upperCase level.name = level.name := by
  cases level <;> decide +kernel

theorem ofText?_eq_none_iff (s : String) : ofText? s = none ↔ Text.upperCase s ∉ names := by
  rw [Option.eq_none_iff_forall_ne_some]
  constructor
  · intro unnamed member
    obtain ⟨level, named⟩ := exists_name_of_mem member
    exact unnamed level ((ofText?_eq_some_iff s level).mpr named.symm)
  · intro outside level found
    exact outside ((ofText?_eq_some_iff s level).mp found ▸ level.name_mem)

theorem find?_names (texts : List String) :
    (texts.find? fun s => Text.upperCase s ∈ names).map Text.upperCase =
      (texts.findSome? ofText?).map name := by
  induction texts with
  | nil => rfl
  | cons s rest ih =>
    cases found : ofText? s with
    | none =>
      have outside := (ofText?_eq_none_iff s).mp found
      simp [found, outside, ih]
    | some level =>
      have named := (ofText?_eq_some_iff s level).mp found
      simp [found, named, level.name_mem]

end Level

namespace Section
variable {name other : String}

theorem sameName_text_iff {data : Data} :
    sameName data (.text name) = true ↔ data = .text name := by
  cases data <;> simp [sameName, sameName.number?]

theorem find?_put_self (name : String) (value : Data) (named : Named) :
    find? name (put (.text name) value named) = some value := by
  induction named with
  | nil => simp [put, find?, sameName_text]
  | cons entry rest ih =>
    obtain ⟨first, old⟩ := entry
    by_cases same : sameName first (.text name) = true
    · simp [put, find?, same]
    · rw [put, if_neg same]
      simpa [find?, same] using ih

theorem find?_put_of_ne (ne : other ≠ name) (value : Data) (named : Named) :
    find? other (put (.text name) value named) = find? other named := by
  induction named with
  | nil => simp [put, find?, sameName_text, Ne.symm ne]
  | cons entry rest ih =>
    obtain ⟨first, old⟩ := entry
    by_cases same : sameName first (.text name) = true
    · obtain rfl := sameName_text_iff.mp same
      simp [put, find?, sameName_text, Ne.symm ne]
    · rw [put, if_neg same]
      unfold find? at ih ⊢
      simp only [List.find?_cons]
      split <;> simp [ih]

end Section

theorem mapError_ok {ε ε' α : Type} (f : ε → ε') (a : α) :
    (.ok a : Except ε α).mapError f = .ok a := rfl

theorem mapError_eq_ok_iff {ε ε' α : Type} {f : ε → ε'} {result : Except ε α} {a : α} :
    result.mapError f = .ok a ↔ result = .ok a := by
  cases result with
  | ok b => rw [mapError_ok, Except.ok.injEq, Except.ok.injEq]
  | error e => exact ⟨nofun, nofun⟩

theorem fieldOr_some_eq_ok_iff {α : Type} {name : String} {read : Data → Except Complaint α}
    {default : α} {data : Data} {a : α} :
    fieldOr name read default (some data) = .ok a ↔ read data = .ok a := mapError_eq_ok_iff

def SessionSettings.toData (session : SessionSettings) : Entries :=
  [("prompt", .text session.prompt), ("show_tree", .bool session.showTree),
    ("color", .bool session.color)]

theorem SessionSettings.ofData_toData (session : SessionSettings) :
    ofData (.table session.toData) = .ok session := by
  simp [ofData, ofEntries, toData, Section.find?, Section.sameName_text, fieldOr, checkField,
    extraFields, fields, Data.readText, Data.readBool, mapError_ok]

theorem SessionSettings.nested_some_eq_ok {data : Data} {session : SessionSettings}
    (read : nested (some data) = .ok session) : ofData data = .ok session :=
  mapError_eq_ok_iff.mp read

theorem readLevel_text {s : String} {level : Level} (named : Text.upperCase s = level.name) :
    readLevel (.text s) = .ok level := by
  simp [readLevel, Data.readText, (Level.ofText?_eq_some_iff s level).mpr named, bind, Except.bind]

theorem readLevel_eq_ok_iff {data : Data} {level : Level} :
    readLevel data = .ok level ↔ ∃ s, data = .text s ∧ Text.upperCase s = level.name := by
  constructor
  · intro read
    obtain ⟨s, other, rfl, named⟩ := (readLevel_accepts data).mp ⟨level, read⟩
    obtain rfl := Except.ok.inj ((readLevel_text named).symm.trans read)
    exact ⟨s, rfl, named⟩
  · rintro ⟨s, rfl, named⟩
    exact readLevel_text named

namespace Settings
variable {path : String} {data : Entries} {settings : Settings}

def toData (settings : Settings) : Entries :=
  [("minicalc", .table [("log_level", .text settings.level.name)]),
    ("repl", .table settings.session.toData)]

theorem ofEntries_eq_ok {entries : Section.Named} (read : ofEntries entries = .ok settings) :
    fieldOr "log_level" readLevel .warning (Section.find? "log_level" entries) =
        .ok settings.level ∧
      SessionSettings.nested (Section.find? "repl" entries) = .ok settings.session := by
  dsimp only [ofEntries] at read
  split at read
  · next level session readLevel readSession _ =>
    obtain rfl := Except.ok.inj read
    exact ⟨readLevel, readSession⟩
  · cases read

/-- The session's section stands before what the general section says of the session, and hides
nothing else of it. -/
theorem overlaid_eq_ok {entries : Section.Named} (overlay : overlaid data = .ok entries) :
    ∃ general, Section.ofData (generalSection data) = .ok general ∧
      Section.find? "log_level" entries = Section.find? "log_level" general ∧
      Section.find? "repl" entries = (data.lookup "repl").or (Section.find? "repl" general) := by
  cases read : Section.ofData (generalSection data) with
  | error refused =>
    rw [overlaid_error read] at overlay
    cases overlay
  | ok general =>
    refine ⟨general, rfl, ?_⟩
    rw [generalSection] at read
    rw [overlaid, read] at overlay
    cases found : data.lookup "repl" with
    | none =>
      rw [found] at overlay
      obtain rfl := Except.ok.inj overlay
      exact ⟨rfl, rfl⟩
    | some session =>
      rw [found] at overlay
      obtain rfl := Except.ok.inj overlay
      exact ⟨Section.find?_put_of_ne (by decide) session general,
        Section.find?_put_self "repl" session general⟩

theorem ofData_eq_ok (read : ofData path data = .ok settings) :
    ∃ general, Section.ofData (generalSection data) = .ok general ∧
      fieldOr "log_level" readLevel .warning (Section.find? "log_level" general) =
        .ok settings.level ∧
      SessionSettings.nested ((data.lookup "repl").or (Section.find? "repl" general)) =
        .ok settings.session := by
  cases overlay : overlaid data with
  | error refused =>
    rw [ofData, overlay] at read
    cases read
  | ok entries =>
    obtain ⟨general, whole, level, session⟩ := overlaid_eq_ok overlay
    rw [ofData_of_overlaid overlay] at read
    split at read
    · cases read
    · refine ⟨general, whole, ?_⟩
      rw [← level, ← session]
      exact ofEntries_eq_ok (mapError_eq_ok_iff.mp read)

theorem ofData_toData (path : String) (settings : Settings) :
    ofData path settings.toData = .ok settings := by
  have known : unknownSections settings.toData = [] :=
    (unknownSections_eq_nil_iff _).mpr (by simp [Entries.FieldsAmong, toData, sections])
  have level := readLevel_text settings.level.upperCase_name
  have entries : ofEntries (Section.named (merged settings.toData
      [("log_level", .text settings.level.name)])) = .ok settings := by
    simp [ofEntries, toData, merged, Entries.put, Section.named, List.lookup_cons, Section.find?,
      Section.sameName_text, fieldOr, level, checkField, SessionSettings.ofData_toData, extraFields,
      fields, mapError_ok]
  rw [ofData_of_overlaid (overlaid_of_table rfl), known, if_neg (by simp), entries]
  rfl

theorem findSome?_ofText? (settings : Settings) (override environment : Option String) :
    (override.toList ++ environment.toList ++ [settings.level.name]).findSome? Level.ofText? =
      some (settings.resolvedLevel override environment) := by
  have last : [settings.level.name].findSome? Level.ofText? = some settings.level := by
    simp [(Level.ofText?_eq_some_iff _ _).mpr settings.level.upperCase_name]
  have given (text? : Option String) :
      text?.toList.findSome? Level.ofText? = text?.bind Level.ofText? := by
    cases text? with
    | none => rfl
    | some s => simp
  rw [List.findSome?_append, List.findSome?_append, last, given, given, resolvedLevel]
  cases (override.bind Level.ofText?).or (environment.bind Level.ofText?) <;> rfl

theorem session_of_section (read : ofData path data = .ok settings) {given : Data}
    (found : data.lookup "repl" = some given) :
    SessionSettings.ofData given = .ok settings.session := by
  obtain ⟨general, _, _, session⟩ := ofData_eq_ok read
  rw [found] at session
  exact SessionSettings.nested_some_eq_ok session

/-- Settings that were read hold a level of the log that is the upper case of a text or the level by
default, and are read again from what they say. Where the session has a section of its own, that
decides on the session whatever else the data say. The level that is resolved is that of the first
of the override, the environment and the settings that names one, in upper case. -/
theorem settings_are_normal_and_stable (read : ofData path data = .ok settings) :
    (settings.level.name ∈ Level.names ∧
      ∃ general, Section.ofData (generalSection data) = .ok general ∧
        (Section.find? "log_level" general = none ∧ settings.level = .warning ∨
          ∃ s, Section.find? "log_level" general = some (.text s) ∧
            settings.level.name = Text.upperCase s)) ∧
    (∀ path', ofData path' settings.toData = .ok settings) ∧
    (∀ given, data.lookup "repl" = some given →
      SessionSettings.ofData given = .ok settings.session ∧
      ∀ path' data' settings', data'.lookup "repl" = some given →
        ofData path' data' = .ok settings' → settings'.session = settings.session) ∧
    ∀ override environment : Option String, ∃ s,
      (override.toList ++ environment.toList ++ [settings.level.name]).find?
          (fun s => Text.upperCase s ∈ Level.names) = some s ∧
        (settings.resolvedLevel override environment).name = Text.upperCase s := by
  obtain ⟨general, whole, level, _⟩ := ofData_eq_ok read
  refine ⟨⟨settings.level.name_mem, general, whole, ?_⟩, fun path' => ofData_toData path' settings,
    fun given found => ⟨session_of_section read found, ?_⟩, fun override environment => ?_⟩
  · cases found : Section.find? "log_level" general with
    | none =>
      rw [found] at level
      exact .inl ⟨rfl, (Except.ok.inj level).symm⟩
    | some value =>
      rw [found] at level
      obtain ⟨s, rfl, named⟩ := readLevel_eq_ok_iff.mp (fieldOr_some_eq_ok_iff.mp level)
      exact .inr ⟨s, rfl, named.symm⟩
  · intro path' data' settings' found' read'
    have same := session_of_section read' found'
    rw [session_of_section read found] at same
    exact (Except.ok.inj same).symm
  · have first := Level.find?_names
      (override.toList ++ environment.toList ++ [settings.level.name])
    rw [findSome?_ofText?] at first
    obtain ⟨s, found, same⟩ := Option.map_eq_some_iff.mp first
    exact ⟨s, found, same.symm⟩

theorem dotless_level_is_normal :
    ofData "minicalc.toml"
        [("repl", .table [("color", .text "oFF")]),
          ("minicalc", .table [("log_level", .text "ınfo"), ("repl", .int 3)])] =
      .ok ⟨.info, ⟨"> ", false, false⟩⟩ ∧
    ofData "other.toml" (toData ⟨.info, ⟨"> ", false, false⟩⟩) =
      .ok ⟨.info, ⟨"> ", false, false⟩⟩ ∧
    SessionSettings.ofData (.table [("color", .text "oFF")]) = .ok ⟨"> ", false, false⟩ := by
  have read : ofData "minicalc.toml"
      [("repl", .table [("color", .text "oFF")]),
        ("minicalc", .table [("log_level", .text "ınfo"), ("repl", .int 3)])] =
      .ok ⟨.info, ⟨"> ", false, false⟩⟩ := by
    rw [ofData_of_overlaid (overlaid_of_table rfl),
      if_neg (by simp [unknownSections_eq_nil_iff, Entries.FieldsAmong, sections])]
    rfl
  obtain ⟨_, again, session, _⟩ := settings_are_normal_and_stable read
  exact ⟨read, again "other.toml", (session _ rfl).1⟩

end Settings
end LineCalc
