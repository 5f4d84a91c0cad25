import WoundWait.Settings.Value
import WoundWait.Toml.Document

/-!
Layers of settings: a TOML document below the environment. Names are compared in lower case. A name
can be a path into a nested setting, and then makes the setting at its root a nested one.
-/

namespace WoundWait

abbrev Settings := List (String × SettingValue)

namespace Settings

def find? (settings : Settings) (name : String) : Option SettingValue :=
  (settings.reverse.find? fun entry => entry.1 == name).map fun entry => entry.2

/-! Paths -/

def isPathCharacter (character : Char) : Bool :=
  character.isAlphanum || character == ' ' || character == '_' || character == '-'

def closeIndex? (characters : List Char) : Option (List Char) :=
  let digits :=
    match characters with
    | '-' :: rest => rest
    | rest => rest
  let number := characters.take (characters.length - digits.length) ++ digits.takeWhile Char.isDigit
  match DecimalText.signed? (String.ofList number), digits.dropWhile Char.isDigit with
  | some _, ']' :: rest => some rest
  | _, _ => none

def areSteps : Nat → List Char → Bool
  | _, [] => true
  | 0, _ => false
  | steps + 1, '.' :: rest =>
      let name := rest.takeWhile isPathCharacter
      !name.isEmpty && areSteps steps (rest.dropWhile isPathCharacter)
  | steps + 1, '[' :: rest =>
      match closeIndex? rest with
      | some after => areSteps steps after
      | none => false
  | _, _ => false

def splitPath (name : String) : String × Bool :=
  let characters := name.toList
  let root := characters.takeWhile isPathCharacter
  let steps := characters.dropWhile isPathCharacter
  if root.isEmpty || steps.isEmpty || !areSteps steps.length steps then (name, false)
  else (String.ofList root, true)

def assign (settings : Settings) (name : String) (value : SettingValue) : Settings :=
  let path := splitPath (SettingValue.lower name)
  settings ++ [(path.1, if path.2 then .composite else value)]

/-! Layers -/

def ofItem : Toml.Item → SettingValue
  | .scalar (.text value) => .text value
  | .scalar (.integer value) => .integer value
  | .scalar (.float value) => .float value
  | .scalar (.boolean value) => .boolean value
  | .scalar (.dateTime written) => .text written
  | _ => .composite

def addDocument (settings : Settings) (table : Toml.Table) : Settings :=
  table.entries.foldl (fun settings entry => settings.assign entry.1 (ofItem entry.2)) settings

def dropStart? (start : List Char) (characters : List Char) : Option (List Char) :=
  if characters.take start.length = start then some (characters.drop start.length) else none

def pointed : List Char → List Char
  | '_' :: '_' :: rest => '.' :: pointed rest
  | character :: rest => character :: pointed rest
  | [] => []

/-- The name of the setting that an environment variable is for. Its own name begins with the name
of the program and a low line. -/
def variableName? (program variableName : String) : Option String :=
  (dropStart? (SettingValue.lower program ++ "_").toList
    (SettingValue.lower variableName).toList).map fun rest => String.ofList (pointed rest)

def addEnvironment (settings : Settings) (program : String)
    (environment : List (String × String)) : Settings :=
  environment.foldl
    (fun settings entry =>
      match variableName? program entry.1 with
      | some name => settings.assign name (.ofVariable entry.2)
      | none => settings)
    settings

end Settings

end WoundWait
