import LineCalc.CommandLine.Run
import LineCalc.Proofs.TomlDocuments

/-!
Files that hold no document. A text that is no document is passed over, or refused where the file was
asked for; but bytes that are no text, and numbers with too many digits, end the run.
-/
namespace LineCalc.Settings
open CommandLine

def IsDocument (bytes : ByteArray) : Prop :=
  ∃ s entries, String.fromUTF8? bytes = some s ∧ Toml.parse s = .ok entries

def Loaded.records (loaded : Loaded) : List LogRecord :=
  loaded.ignored?.toList.map LogRecord.ignoredFile

/-- Where they were asked for, the contents are a complaint about the configuration. Else the settings
are the defaults, with one warning that names the file. No run ends before its time for them. -/
structure PassedOver (bytes : ByteArray) : Prop where
  asked : ∀ directory files path, files (plainPath path) = .content bytes →
    load directory files (some path) = .error (.unreadable (plainPath path)) ∧
      (SettingsError.unreadable (plainPath path)).isConfigurationError = true
  unasked : ∀ directory files, files (directory ++ "/minicalc.toml") = .content bytes →
    ∃ loaded record, load directory files none = .ok loaded ∧ loaded.settings = {} ∧
      loaded.records = [record] ∧ record.level = .warning ∧
      record.text = "Ignoring unreadable config file " ++ directory ++ "/minicalc.toml"
  run : ∀ world options command? error,
    world.files (filePath world.directory options.config?) = .content bytes →
      startRun world options command? ≠ .error (.settings error)

/-- The error is no complaint about the configuration, and every run that reads the contents ends with
it. -/
structure Escapes (error : SettingsError) (bytes : ByteArray) : Prop where
  fault : error.isConfigurationError = false
  load : ∀ directory files asked?, files (filePath directory asked?) = .content bytes →
    load directory files asked? = .error error
  run : ∀ world options command?,
    world.files (filePath world.directory options.config?) = .content bytes →
      startRun world options command? = .error (.settings error)

variable {bytes : ByteArray}

theorem decode_cases (noDocument : ¬ IsDocument bytes) :
    decode bytes = .malformed ∨
    (String.fromUTF8? bytes = none ∧ decode bytes = .failed .notText) ∨
    ∃ s digits, String.fromUTF8? bytes = some s ∧ Toml.HasLongNumber digits s.toList ∧
      decode bytes = .failed (.tooManyDigits digits) := by
  unfold decode
  cases read : String.fromUTF8? bytes with
  | none => exact .inr (.inl ⟨rfl, rfl⟩)
  | some s =>
    cases parsed : Toml.parse s with
    | ok entries => exact absurd ⟨s, entries, read, parsed⟩ noDocument
    | error error =>
      cases error with
      | malformed => exact .inl (by simp only [parsed])
      | tooManyDigits digits =>
        refine .inr (.inr ⟨s, digits, rfl, Toml.hasLongNumber_of_parse parsed, ?_⟩)
        simp only [parsed]

theorem replRun_error {colors : Bool} {settings : SessionSettings} {input : List String}
    {error : SettingsError} : replRun colors settings input ≠ .error (.settings error) := by
  unfold replRun
  cases Display.Prompt.plain settings.prompt with
  | error _ => intro failed; cases failed
  | ok _ =>
    cases Session.run .endOfInput settings.showTree input with
    | error _ => intro failed; cases failed
    | ok _ => intro failed; cases failed

theorem perform_error {colors : Bool} {settings : Settings} {input : List String}
    {command : Command} {error : SettingsError} :
    perform colors settings input command ≠ .error (.settings error) := by
  cases command with
  | repl showTree? prompt? => exact replRun_error
  | eval expression showTree =>
    rw [perform]
    cases evalRun colors expression showTree with
    | error _ => intro failed; cases failed
    | ok _ => intro failed; cases failed
  | tokens expression => intro failed; cases failed

theorem ready_error_iff {world : World} {options : GeneralOptions} {error : SettingsError} :
    ready world options = .error error ↔
      load world.directory world.files options.config? = .error error := by
  unfold ready
  cases load world.directory world.files options.config? with
  | error other => constructor <;> (intro same; cases same; rfl)
  | ok loaded => constructor <;> (intro failed; cases failed)

theorem startRun_error_iff {world : World} {options : GeneralOptions} {command? : Option Command}
    {error : SettingsError} :
    startRun world options command? = .error (.settings error) ↔
      load world.directory world.files options.config? = .error error ∧
        error.isConfigurationError = false := by
  rw [← ready_error_iff, startRun.eq_def]
  cases ready world options with
  | error other =>
    cases kind : other.isConfigurationError with
    | true =>
      simp only [kind, if_true]
      refine ⟨fun failed => (by cases failed), ?_⟩
      rintro ⟨⟨⟩, fault⟩
      exact absurd (kind.symm.trans fault) (by decide)
    | false =>
      simp only [kind, Bool.false_eq_true, if_false, Except.error.injEq, Crash.settings.injEq]
      exact ⟨fun same => ⟨same, same ▸ kind⟩, fun same => same.1⟩
  | ok ready =>
    refine ⟨fun failed => ?_, fun ⟨failed, _⟩ => by cases failed⟩
    cases command? with
    | none => cases failed
    | some command =>
      dsimp only at failed
      cases performed : perform ready.colors ready.settings world.input command with
      | error crash =>
        rw [performed] at failed
        obtain rfl : crash = .settings error := Except.error.inj failed
        exact absurd performed perform_error
      | ok ended => rw [performed] at failed; cases failed

theorem loadDefault_of_malformed {path : String} (malformed : decode bytes = .malformed) :
    loadDefault path (.content bytes) = .ok { ignored? := some path } := by
  simp only [loadDefault, malformed]

theorem loadFile_of_malformed {path : String} (malformed : decode bytes = .malformed) :
    loadFile path (.content bytes) = .error (.unreadable path) := by
  simp only [loadFile, malformed]

theorem passedOver_of_malformed (malformed : decode bytes = .malformed) : PassedOver bytes where
  asked directory files path found := by
    refine ⟨?_, rfl⟩
    simp [load, filePath, found, loadFile_of_malformed malformed]
  unasked directory files found := by
    refine ⟨{ ignored? := some (directory ++ "/minicalc.toml") }, _, ?_, rfl, rfl, rfl, ?_⟩
    · simp [load, filePath, defaultFile, String.append_assoc, found,
        loadDefault_of_malformed malformed]
    · simp [LogRecord.ignoredFile, String.append_assoc]
  run world options command? error found failed := by
    obtain ⟨refused, fault⟩ := startRun_error_iff.mp failed
    simp only [load, found, loadFile_of_malformed malformed, loadDefault_of_malformed malformed]
      at refused
    split at refused
    · cases refused
      cases fault
    · cases refused

theorem escapes_of_failed {error : SettingsError} (fault : error.isConfigurationError = false)
    (failed : decode bytes = .failed error) : Escapes error bytes := by
  have refused : ∀ directory files asked?, files (filePath directory asked?) = .content bytes →
      load directory files asked? = .error error := by
    intro directory files asked? found
    simp only [load, found]
    split
    · simp only [loadFile, failed]
    · simp only [loadDefault, failed]
  exact ⟨fault, refused, fun world options command? found =>
    startRun_error_iff.mpr ⟨refused _ _ _ found, fault⟩⟩

theorem fromUTF8_toUTF8 (s : String) : String.fromUTF8? s.toUTF8 = some s := dif_pos s.isValidUTF8

theorem PassedOver.not_escapes {error : SettingsError} (passed : PassedOver bytes) :
    ¬ Escapes error bytes := by
  intro escapes
  obtain ⟨loaded, record, load, -⟩ := passed.unasked "" (fun _ => .content bytes) rfl
  cases load.symm.trans (escapes.load "" (fun _ => .content bytes) none rfl)

/-- A name whose value is one nine after another, too many to be read, is no complaint about the
configuration. -/
theorem long_number_escapes {n : Nat} (long : Numeral.maxDigits < n) :
    Escapes (.tooManyDigits n) ("n = " ++ String.ofList (List.replicate n '9')).toUTF8 := by
  refine escapes_of_failed rfl ?_
  simp only [decode, fromUTF8_toUTF8, Toml.parse_nines long]

/-- Contents that are no document are passed over where they are a text in which no number has too many
digits. Bytes that are no text escape, and nothing escapes but such bytes and texts with such a number,
of which `long_number_escapes` has one for every number of digits. This is so as long as the reader of
documents gives an answer: brackets in one another some five hundred deep, for which it has no room,
are left out of account. -/
theorem no_document_is_passed_over_or_escapes (noDocument : ¬ IsDocument bytes) :
    (∀ s, String.fromUTF8? bytes = some s → (∀ digits, ¬ Toml.HasLongNumber digits s.toList) →
      PassedOver bytes) ∧
    (String.fromUTF8? bytes = none → Escapes .notText bytes) ∧
    (PassedOver bytes ∨ Escapes .notText bytes ∧ String.fromUTF8? bytes = none ∨
      ∃ s digits, Escapes (.tooManyDigits digits) bytes ∧ String.fromUTF8? bytes = some s ∧
        Toml.HasLongNumber digits s.toList) := by
  rcases decode_cases noDocument with malformed | ⟨noText, failed⟩ | ⟨s, digits, text, long, failed⟩
  · have passed := passedOver_of_malformed malformed
    refine ⟨fun _ _ _ => passed, fun noText => ?_, .inl passed⟩
    simp [decode, noText] at malformed
  · have escapes := escapes_of_failed rfl failed
    refine ⟨fun s text => ?_, fun _ => escapes, .inr (.inl ⟨escapes, noText⟩)⟩
    cases noText.symm.trans text
  · have escapes := escapes_of_failed rfl failed
    refine ⟨fun s' text' short => ?_, fun noText => ?_, .inr (.inr ⟨s, digits, escapes, text, long⟩)⟩
    · obtain rfl := Option.some.inj (text.symm.trans text')
      exact absurd long (short digits)
    · cases noText.symm.trans text

theorem open_bracket_is_passed_over :
    ¬ IsDocument "not = [valid".toUTF8 ∧ PassedOver "not = [valid".toUTF8 := by
  have noDocument : ¬ IsDocument "not = [valid".toUTF8 := by
    rintro ⟨s, entries, text, parsed⟩
    obtain rfl := Option.some.inj ((fromUTF8_toUTF8 _).symm.trans text)
    have malformed : Toml.parse "not = [valid" = .error .malformed := by cbv
    cases malformed.symm.trans parsed
  refine ⟨noDocument,
    (no_document_is_passed_over_or_escapes noDocument).1 _ (fromUTF8_toUTF8 _) ?_⟩
  exact fun digits => Toml.not_hasLongNumber_of_length_le (by decide)

/-- A byte that stands in no text is no document, and escapes. -/
theorem odd_byte_escapes :
    ¬ IsDocument ⟨#[0xff]⟩ ∧ ¬ PassedOver ⟨#[0xff]⟩ ∧ Escapes .notText ⟨#[0xff]⟩ := by
  have noText : String.fromUTF8? ⟨#[0xff]⟩ = none := by decide +kernel
  have escapes : Escapes .notText ⟨#[0xff]⟩ :=
    escapes_of_failed rfl (by simp only [decode, noText])
  refine ⟨?_, fun passed => passed.not_escapes escapes, escapes⟩
  rintro ⟨s, entries, text, -⟩
  cases noText.symm.trans text

end LineCalc.Settings
