import WoundWait.CommandLine.Run

/-!
The program: arguments, environment and document in; output, error and code out.
-/

namespace WoundWait

def readOptionsFile (name : Option String) : IO OptionsFile :=
  match name with
  | none => return .unnamed
  | some path => do
      try
        return .content (← IO.FS.readFile path)
      catch _ =>
        return .unreadable

def splitVariable (text : String) : Option (String × String) :=
  match text.splitOn "=" with
  | name :: value :: rest => some (name, "=".intercalate (value :: rest))
  | _ => none

def readEnvironment : IO (List (String × String)) := do
  try
    let bytes ← IO.FS.readBinFile "/proc/self/environ"
    let text := (String.fromUTF8? bytes).getD ""
    return (text.splitOn "\x00").filterMap splitVariable
  catch _ =>
    return []

end WoundWait

def main (arguments : List String) : IO UInt32 := do
  let request := WoundWait.Arguments.parse arguments
  let file ← WoundWait.readOptionsFile request.file?
  let outcome := request.execute file (← WoundWait.readEnvironment)
  IO.print outcome.output
  if !outcome.error.isEmpty then
    IO.eprintln outcome.error
  return outcome.code.toUInt32
