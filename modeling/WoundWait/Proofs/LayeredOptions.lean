import Mathlib
import WoundWait.CommandLine.Run

/-!
Options in layers: the defaults, a document, the environment and the command line. What a layer says
about a key is told from the layer alone; a field has the value of the highest layer that says
anything about it. The check stands below the command line and above it, so no options leave that it
refuses.
-/

namespace WoundWait

namespace Settings

/-- What a name with a value says about a key: nothing, the value, or that the key is a nested
setting. -/
def told? (key name : String) (value : SettingValue) : Option SettingValue :=
  let path := splitPath (SettingValue.lower name)
  if path.1 = key then some (if path.2 then .composite else value) else none

def entryValue? (key : String) (entry : String × Toml.Item) : Option SettingValue :=
  told? key entry.1 (ofItem entry.2)

def documentValue? (table : Toml.Table) (key : String) : Option SettingValue :=
  table.entries.reverse.findSome? (entryValue? key)

def variableValue? (program key : String) (entry : String × String) : Option SettingValue :=
  (variableName? program entry.1).bind fun name => told? key name (.ofVariable entry.2)

def environmentValue? (program : String) (environment : List (String × String)) (key : String) :
    Option SettingValue :=
  environment.reverse.findSome? (variableValue? program key)

theorem find?_assign (settings : Settings) (name key : String) (value : SettingValue) :
    (settings.assign name value).find? key = (told? key name value).or (settings.find? key) := by
  simp only [find?, assign, told?, List.reverse_append, List.reverse_singleton, List.singleton_append,
    List.find?_cons]
  by_cases same : (splitPath (SettingValue.lower name)).1 = key
  · simp [same]
  · simp [same, beq_eq_false_iff_ne.mpr same]

/-- The induction is on the sources; what one of them says goes over what was there before. -/
theorem find?_foldl {α : Type} (add : Settings → α → Settings) (said : α → Option SettingValue)
    (key : String)
    (added : ∀ settings source, (add settings source).find? key = (said source).or (settings.find? key))
    (sources : List α) (settings : Settings) :
    (sources.foldl add settings).find? key =
      (sources.reverse.findSome? said).or (settings.find? key) := by
  induction sources generalizing settings with
  | nil => rfl
  | cons source rest ih =>
      rw [List.foldl_cons, ih, added, List.reverse_cons, List.findSome?_append, Option.or_assoc]
      simp

theorem find?_addDocument (settings : Settings) (table : Toml.Table) (key : String) :
    (settings.addDocument table).find? key =
      (documentValue? table key).or (settings.find? key) := by
  refine find?_foldl (fun (settings : Settings) (entry : String × Toml.Item) =>
    settings.assign entry.1 (ofItem entry.2)) (entryValue? key) key ?_ table.entries settings
  intro settings entry
  exact find?_assign settings entry.1 key (ofItem entry.2)

theorem find?_addEnvironment (settings : Settings) (program key : String)
    (environment : List (String × String)) :
    (settings.addEnvironment program environment).find? key =
      (environmentValue? program environment key).or (settings.find? key) := by
  refine find?_foldl _ (variableValue? program key) key (fun settings entry => ?_) environment settings
  cases named : variableName? program entry.1 with
  | none => simp [variableValue?, named]
  | some name => simp [variableValue?, named, find?_assign]

end Settings

def OptionsFile.Holds : OptionsFile → Toml.Table → Prop
  | unnamed, table => table = .empty .header
  | unreadable, _ => False
  | content text, table => Toml.parse? text = some table

inductive OptionsField where
  | lockTimeout
  | lockAcquireTimeout
  | prepareTimeout
  | maxLockGroupSize
  deriving DecidableEq, Repr

namespace OptionsField

def key : OptionsField → String
  | lockTimeout => "lock_timeout_ms"
  | lockAcquireTimeout => "lock_acquire_timeout_ms"
  | prepareTimeout => "prepare_timeout_ms"
  | maxLockGroupSize => "max_lock_group_size"

def of (options : Options) : OptionsField → Nat
  | lockTimeout => options.lockTimeout
  | lockAcquireTimeout => options.lockAcquireTimeout
  | prepareTimeout => options.prepareTimeout
  | maxLockGroupSize => options.maxLockGroupSize

def flag? (arguments : Arguments) : OptionsField → Option Nat
  | lockTimeout => arguments.lockTimeout
  | lockAcquireTimeout => arguments.lockAcquireTimeout
  | prepareTimeout => none
  | maxLockGroupSize => arguments.maxLockGroupSize

/-- The number of a field below the command line: of the environment, else of the document, else the
default. A value that is no number hides the layers below it and gives none. -/
def layered? (program : String) (environment : List (String × String)) (table : Toml.Table)
    (field : OptionsField) : Option Nat :=
  match (Settings.environmentValue? program environment field.key).or
    (Settings.documentValue? table field.key) with
  | some value => value.number?
  | none => some (of .standard field)

/-- A name in capital or small letters speaks for its field. -/
theorem told?_own (field : OptionsField) (name : String) (value : SettingValue)
    (named : SettingValue.lower name = field.key) : Settings.told? field.key name value = some value := by
  have plain : Settings.splitPath field.key = (field.key, false) := by
    cases field <;> rfl
  simp [Settings.told?, named, plain]

/-- So does a variable, below the name of the program. -/
theorem variableValue?_own (field : OptionsField) (name text : String)
    (named : SettingValue.lower name = "grainstate_" ++ field.key) :
    Settings.variableValue? Options.programName field.key (name, text) = some (.ofVariable text) := by
  have rest : Settings.variableName? Options.programName name = some field.key := by
    rw [Settings.variableName?, named]
    cases field <;> rfl
  have low : SettingValue.lower field.key = field.key := by
    cases field <;> rfl
  have told := told?_own field field.key (.ofVariable text) low
  simp only [Settings.variableValue?, rest, Option.bind_some, told]

end OptionsField

namespace Options

theorem eq_of_fields (first second : Options)
    (same : ∀ field, OptionsField.of first field = OptionsField.of second field) : first = second := by
  have lockTimeout := same .lockTimeout
  have lockAcquireTimeout := same .lockAcquireTimeout
  have prepareTimeout := same .prepareTimeout
  have maxLockGroupSize := same .maxLockGroupSize
  cases first
  cases second
  simp_all [OptionsField.of]

theorem settingNumber?_layers (program : String) (environment : List (String × String))
    (table : Toml.Table) (field : OptionsField) :
    settingNumber? ((Settings.addDocument [] table).addEnvironment program environment) field.key
      (OptionsField.of standard field) = field.layered? program environment table := by
  have nothing : Settings.find? [] field.key = none := rfl
  rw [settingNumber?, Settings.find?_addEnvironment, Settings.find?_addDocument, nothing, Option.or_none,
    OptionsField.layered?]
  cases (Settings.environmentValue? program environment field.key).or
    (Settings.documentValue? table field.key) with
  | none => rfl
  | some value => rfl

theorem ofSettings?_iff (settings : Settings) (options : Options) :
    ofSettings? settings = some options ↔
      ∀ field : OptionsField, settingNumber? settings field.key (OptionsField.of standard field) =
        some (OptionsField.of options field) := by
  constructor
  · intro read field
    simp only [ofSettings?] at read
    split at read
    · cases read
      cases field <;> assumption
    · cases read
  · intro fields
    have lockTimeout := fields .lockTimeout
    have lockAcquireTimeout := fields .lockAcquireTimeout
    have prepareTimeout := fields .prepareTimeout
    have maxLockGroupSize := fields .maxLockGroupSize
    simp only [OptionsField.key, OptionsField.of] at *
    simp [ofSettings?, lockTimeout, lockAcquireTimeout, prepareTimeout, maxLockGroupSize]

theorem ofSettings?_layers (program : String) (environment : List (String × String))
    (table : Toml.Table) (options : Options) :
    ofSettings? ((Settings.addDocument [] table).addEnvironment program environment) = some options ↔
      ∀ field, OptionsField.layered? program environment table field =
        some (OptionsField.of options field) := by
  simp only [ofSettings?_iff, settingNumber?_layers]

theorem documentSettings?_iff (file : OptionsFile) (settings : Settings) :
    documentSettings? file = some settings ↔
      ∃ table, file.Holds table ∧ Settings.addDocument [] table = settings := by
  cases file with
  | unnamed =>
      constructor
      · rintro ⟨⟩
        exact ⟨_, rfl, rfl⟩
      · rintro ⟨_, rfl, rfl⟩
        rfl
  | unreadable =>
      constructor
      · rintro ⟨⟩
      · rintro ⟨_, ⟨⟩, _⟩
  | content text => exact Option.map_eq_some_iff

theorem validated_iff (options result : Options) :
    options.validated = .ok result ↔ options = result ∧ result.validate = .ok () := by
  rw [validated]
  cases checked : options.validate with
  | error fault =>
      constructor
      · rintro ⟨⟩
      · rintro ⟨rfl, valid⟩
        cases checked.symm.trans valid
  | ok =>
      constructor
      · rintro ⟨⟩
        exact ⟨rfl, checked⟩
      · rintro ⟨rfl, _⟩
        rfl

/-- What the layers below the command line give: the values of their highest ones, if these are
numbers and valid together. -/
theorem load_iff (file : OptionsFile) (program : String) (environment : List (String × String))
    (options : Options) :
    load file program environment = .ok options ↔
      ∃ table, file.Holds table ∧
        (∀ field, OptionsField.layered? program environment table field =
          some (OptionsField.of options field)) ∧
        options.validate = .ok () := by
  constructor
  · intro loaded
    rw [load] at loaded
    cases read : documentSettings? file with
    | none =>
        rw [read] at loaded
        cases loaded
    | some settings =>
        obtain ⟨table, holds, rfl⟩ := (documentSettings?_iff file settings).mp read
        simp only [read] at loaded
        split at loaded
        · cases loaded
        · rename_i layered typed
          obtain ⟨rfl, valid⟩ := (validated_iff layered options).mp loaded
          exact ⟨table, holds, (ofSettings?_layers program environment table layered).mp typed, valid⟩
  · rintro ⟨table, holds, typed, valid⟩
    have read := (documentSettings?_iff file _).mpr ⟨table, holds, rfl⟩
    have taken := (ofSettings?_layers program environment table options).mpr typed
    rw [load]
    simp only [read, taken]
    exact (validated_iff options options).mpr ⟨rfl, valid⟩

theorem ofToml_valid (text : String) (options : Options) (read : ofToml text = .ok options) :
    options.validate = .ok () := by
  rw [ofToml] at read
  split at read
  · cases read
  · exact ((validated_iff _ options).mp read).2

/-- Milliseconds of 64 bits stay what they are on their way through a duration. -/
theorem storedMilliseconds_ofMilliseconds (milliseconds : Nat) (fits : milliseconds ≤ Word.limit) :
    storedMilliseconds (.ofMilliseconds milliseconds) = milliseconds := by
  have whole : (Duration.ofMilliseconds milliseconds).milliseconds = milliseconds := by
    simp only [Duration.ofMilliseconds, Duration.milliseconds]
    omega
  rw [storedMilliseconds, whole, Word.truncate]
  exact Nat.mod_eq_of_lt (Nat.lt_succ_of_le fits)

end Options

namespace Arguments

def Fits (arguments : Arguments) : Prop :=
  ∀ field number, OptionsField.flag? arguments field = some number → number ≤ Word.limit

theorem word?_fits (text : String) (number : Nat) (read : word? text = some number) :
    number ≤ Word.limit := by
  obtain ⟨_, _, within⟩ := Option.bind_eq_some_iff.mp read
  simp only [Word.within?] at within
  split at within
  · cases within
    assumption
  · cases within

/-- An argument of another kind leaves the overrides, and an override is read as a number of 64
bits. -/
theorem setValue?_fits (arguments next : Arguments) (fits : arguments.Fits) (option : ValueOption)
    (text : String) (set : arguments.setValue? option text = some next) : next.Fits := by
  intro field number given
  have before := fits field
  cases option with
  | config =>
      simp only [setValue?] at set
      split at set <;> cases set
      cases field <;> exact before number given
  | lockTimeout | lockAcquireTimeout | maxLockGroupSize =>
      obtain ⟨read, known, rfl⟩ := Option.map_eq_some_iff.mp set
      have small := word?_fits text read known
      cases field <;> simp_all [OptionsField.flag?]
  | _ =>
      obtain ⟨_, _, rfl⟩ := Option.map_eq_some_iff.mp set
      cases field <;> exact before number given

theorem addValue?_fits (draft next : Draft) (fits : draft.arguments.Fits) (option : ValueOption)
    (text : String) (added : draft.addValue? option text = some next) : next.arguments.Fits := by
  simp only [Draft.addValue?] at added
  split at added
  · cases added
  · obtain ⟨arguments, set, rfl⟩ := Option.map_eq_some_iff.mp added
    exact setValue?_fits draft.arguments arguments fits option text set

theorem addFlag_fits (draft next : Draft) (fits : draft.arguments.Fits) (option : Flag)
    (added : draft.addFlag option = .ok next) : next.arguments.Fits := by
  simp only [Draft.addFlag] at added
  split at added
  · cases added
  · cases option <;> cases added <;> exact fits

theorem addFlag_ne_run (draft : Draft) (option : Flag) (arguments : Arguments) :
    draft.addFlag option ≠ .error (.run arguments) := by
  intro ended
  simp only [Draft.addFlag] at ended
  split at ended
  · cases ended
  · cases option <;> cases ended

theorem read_fits (draft : Draft) (fits : draft.arguments.Fits) (texts : List String)
    (arguments : Arguments) (read : draft.read texts = .run arguments) : arguments.Fits := by
  -- One case per way in which an argument is taken in; the others end the reading with nothing to run.
  fun_induction Draft.read draft texts with
  | case1 draft =>
      cases read
      exact fits
  | case3 draft =>
      cases read
      exact fits
  | case6 draft _ _ option _ extended added ih =>
      exact ih (addFlag_fits draft extended fits option added) read
  | case7 draft _ _ option _ request refused =>
      subst read
      exact absurd refused (addFlag_ne_run draft option arguments)
  | case8 draft _ _ option value _ extended added ih =>
      exact ih (addValue?_fits draft extended fits option value added) read
  | case11 draft _ option _ value _ _ extended added ih =>
      exact ih (addValue?_fits draft extended fits option value added) read
  | _ => cases read

/-- Whatever the command line asks for, its overrides are numbers of 64 bits. -/
theorem parse_fits (texts : List String) (arguments : Arguments)
    (read : parse texts = .run arguments) : arguments.Fits := by
  refine read_fits _ ?_ texts arguments read
  intro field number given
  cases field <;> cases given

/-- A field with an override has its number, and the others stay. -/
theorem of_override (arguments : Arguments) (fits : arguments.Fits) (layered : Options)
    (field : OptionsField) :
    OptionsField.of (arguments.override layered) field =
      (OptionsField.flag? arguments field).getD (OptionsField.of layered field) := by
  have lock (timeout : Nat) (given : arguments.lockTimeout = some timeout) :=
    Options.storedMilliseconds_ofMilliseconds timeout (fits .lockTimeout timeout given)
  have acquire (timeout : Nat) (given : arguments.lockAcquireTimeout = some timeout) :=
    Options.storedMilliseconds_ofMilliseconds timeout (fits .lockAcquireTimeout timeout given)
  have written : arguments.override layered =
      { lockTimeout := arguments.lockTimeout.getD layered.lockTimeout
        lockAcquireTimeout := arguments.lockAcquireTimeout.getD layered.lockAcquireTimeout
        prepareTimeout := layered.prepareTimeout
        maxLockGroupSize := arguments.maxLockGroupSize.getD layered.maxLockGroupSize } := by
    simp only [override, Options.withLockTimeout, Options.withLockAcquireTimeout,
      Options.withMaxLockGroupSize]
    split <;> split <;> split <;> simp_all
  rw [written]
  cases field <;> rfl

/-- The overrides are put over the layers below them, and the outcome is checked once more. -/
theorem options_iff (arguments : Arguments) (file : OptionsFile)
    (environment : List (String × String)) (result : Options) :
    arguments.options file environment = .ok result ↔
      ∃ layered, Options.load file Options.programName environment = .ok layered ∧
        arguments.override layered = result ∧ result.validate = .ok () := by
  rw [options]
  cases loaded : Options.load file Options.programName environment with
  | error fault =>
      constructor
      · rintro ⟨⟩
      · rintro ⟨_, ⟨⟩, _⟩
  | ok layered =>
      cases checked : (arguments.override layered).validate with
      | error fault =>
          constructor
          · simp [checked]
          · rintro ⟨_, ⟨⟩, rfl, valid⟩
            cases checked.symm.trans valid
      | ok =>
          constructor
          · simp only [checked]
            rintro ⟨⟩
            exact ⟨layered, rfl, rfl, checked⟩
          · rintro ⟨_, ⟨⟩, rfl, _⟩
            simp only [checked]

/-- How options come about: a document that can be read, layers that are numbers and valid on their
own, and overrides that keep them valid. -/
structure TakesHighestLayer (arguments : Arguments) (file : OptionsFile)
    (environment : List (String × String))
    (table : Toml.Table) (layered result : Options) : Prop where
  read : file.Holds table
  typed : ∀ field, OptionsField.layered? Options.programName environment table field =
    some (OptionsField.of layered field)
  sound : layered.validate = .ok ()
  overridden : ∀ field, OptionsField.of result field =
    (OptionsField.flag? arguments field).getD (OptionsField.of layered field)
  valid : result.validate = .ok ()

/-- The options in force are those that the layers compose, and whatever reads options checks them.
-/
theorem options_highest_layer (arguments : Arguments) (fits : arguments.Fits) :
    (∀ file environment result, arguments.options file environment = .ok result ↔
      ∃ table layered, arguments.TakesHighestLayer file environment table layered result) ∧
    (∀ file program environment result, Options.load file program environment = .ok result →
      result.validate = .ok ()) ∧
    ∀ text result, Options.ofToml text = .ok result → result.validate = .ok () := by
  refine ⟨fun file environment result => ?_, fun file program environment result loaded => ?_,
    Options.ofToml_valid⟩
  · rw [options_iff]
    constructor
    · rintro ⟨layered, loaded, rfl, valid⟩
      obtain ⟨table, read, typed, sound⟩ := (Options.load_iff _ _ _ layered).mp loaded
      exact ⟨table, layered, read, typed, sound, of_override arguments fits layered, valid⟩
    · rintro ⟨table, layered, composed⟩
      refine ⟨layered, ?_, Options.eq_of_fields _ _ fun field => ?_, composed.valid⟩
      · exact (Options.load_iff _ _ _ layered).mpr ⟨table, composed.read, composed.typed, composed.sound⟩
      · rw [of_override arguments fits, composed.overridden]
  · obtain ⟨_, _, _, valid⟩ := (Options.load_iff file program environment result).mp loaded
    exact valid

theorem options_highest_layer_limits :
    Fits { standard with lockAcquireTimeout := some Word.limit, maxLockGroupSize := some 20 } ∧
      ∃ table layered, TakesHighestLayer
        { standard with lockAcquireTimeout := some Word.limit, maxLockGroupSize := some 20 }
        (.content "lock_timeout_ms = 7\nprepare_timeout_ms = 5\n") [("GRAINSTATE_LOCK_TIMEOUT_MS", "9")]
        table layered ⟨9, Word.limit, 5, 20⟩ := by
  have fits : Fits
      { standard with lockAcquireTimeout := some Word.limit, maxLockGroupSize := some 20 } := by
    intro field number given
    cases field <;> cases given <;> decide
  exact ⟨fits, ((options_highest_layer _ fits).1 _ _ _).mp rfl⟩

end Arguments

end WoundWait
