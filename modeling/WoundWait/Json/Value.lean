import WoundWait.Json.Number
import WoundWait.Hexadecimal

/-!
Documents in JavaScript Object Notation. Reading keeps all of a document that a later reader may
want to know: number literals as written, fields in order and with repetitions, and whether the
escapes of a string make characters.
-/

namespace WoundWait

namespace Json

inductive StringUnit where
  | plain (character : Char)
  | unit (value : Nat)
  deriving DecidableEq, Repr

inductive Token where
  | openArray
  | closeArray
  | openObject
  | closeObject
  | comma
  | colon
  | null
  | boolean (value : Bool)
  | number (literal : NumberLiteral)
  -- None if some escaped unit is half of a pair without the other half.
  | string (text : Option String)
  deriving DecidableEq, Repr

inductive Value where
  | null
  | boolean (value : Bool)
  | number (literal : NumberLiteral)
  | string (text : Option String)
  | array (items : List Value)
  | object (fields : List (Option String × Value))

/-! Strings -/

def quoted? : List Char → Option (List Char × List Char)
  | [] => none
  | '"' :: rest => some ([], rest)
  | '\\' :: escaped :: rest =>
      (quoted? rest).map fun split => ('\\' :: escaped :: split.1, split.2)
  | character :: rest => (quoted? rest).map fun split => (character :: split.1, split.2)

def simpleEscape? : Char → Option Char
  | '"' => some '"'
  | '\\' => some '\\'
  | '/' => some '/'
  | 'b' => some '\x08'
  | 'f' => some '\x0c'
  | 'n' => some '\n'
  | 'r' => some '\r'
  | 't' => some '\t'
  | _ => none

def units? : List Char → Option (List StringUnit)
  | [] => some []
  | '\\' :: 'u' :: first :: second :: third :: fourth :: rest =>
      match Hexadecimal.ofDigits? [first, second, third, fourth] with
      | some value => (units? rest).map (.unit value :: ·)
      | none => none
  | '\\' :: escaped :: rest =>
      match simpleEscape? escaped with
      | some character => (units? rest).map (.plain character :: ·)
      | none => none
  | character :: rest =>
      if character < ' ' || character == '\\' then none
      else (units? rest).map (.plain character :: ·)

def isHighHalf (value : Nat) : Bool :=
  0xD800 ≤ value && value < 0xDC00

def isLowHalf (value : Nat) : Bool :=
  0xDC00 ≤ value && value < 0xE000

def characters? : List StringUnit → Option (List Char)
  | [] => some []
  | .plain character :: rest => (characters? rest).map (character :: ·)
  | .unit high :: .unit low :: rest =>
      if isHighHalf high then
        if isLowHalf low then
          (characters? rest).map
            (Char.ofNat (0x10000 + (high - 0xD800) * 0x400 + (low - 0xDC00)) :: ·)
        else none
      else if isLowHalf high then none
      else (characters? (.unit low :: rest)).map (Char.ofNat high :: ·)
  | .unit value :: rest =>
      if isHighHalf value || isLowHalf value then none
      else (characters? rest).map (Char.ofNat value :: ·)

/-! Tokens -/

def isBlank (character : Char) : Bool :=
  character == ' ' || character == '\n' || character == '\t' || character == '\r'

def token? : List Char → Option (Token × List Char)
  | '[' :: rest => some (.openArray, rest)
  | ']' :: rest => some (.closeArray, rest)
  | '\x7b' :: rest => some (.openObject, rest)
  | '\x7d' :: rest => some (.closeObject, rest)
  | ',' :: rest => some (.comma, rest)
  | ':' :: rest => some (.colon, rest)
  | 'n' :: 'u' :: 'l' :: 'l' :: rest => some (.null, rest)
  | 't' :: 'r' :: 'u' :: 'e' :: rest => some (.boolean true, rest)
  | 'f' :: 'a' :: 'l' :: 's' :: 'e' :: rest => some (.boolean false, rest)
  | '"' :: rest =>
      match quoted? rest with
      | none => none
      | some (content, after) =>
          (units? content).map fun units =>
            (.string ((characters? units).map String.ofList), after)
  | characters =>
      (NumberLiteral.ofCharacters? (characters.takeWhile NumberLiteral.isNumberCharacter)).map
        fun literal => (.number literal, characters.dropWhile NumberLiteral.isNumberCharacter)

def tokensWithin : Nat → List Char → Option (List Token)
  | 0, characters => if (characters.dropWhile isBlank).isEmpty then some [] else none
  | count + 1, characters =>
      match characters.dropWhile isBlank with
      | [] => some []
      | first :: rest =>
          match token? (first :: rest) with
          | none => none
          | some (token, after) => (tokensWithin count after).map (token :: ·)

def tokens? (text : String) : Option (List Token) :=
  tokensWithin text.toList.length text.toList

/-! Values -/

mutual

def value? : Nat → List Token → Option (Value × List Token)
  | 0, _ => none
  | depth + 1, tokens =>
      match tokens with
      | .null :: rest => some (.null, rest)
      | .boolean value :: rest => some (.boolean value, rest)
      | .number literal :: rest => some (.number literal, rest)
      | .string text :: rest => some (.string text, rest)
      | .openArray :: .closeArray :: rest => some (.array [], rest)
      | .openArray :: rest =>
          (items? depth rest).map fun split => (.array split.1, split.2)
      | .openObject :: .closeObject :: rest => some (.object [], rest)
      | .openObject :: rest =>
          (fields? depth rest).map fun split => (.object split.1, split.2)
      | _ => none

def items? : Nat → List Token → Option (List Value × List Token)
  | 0, _ => none
  | depth + 1, tokens =>
      match value? depth tokens with
      | some (item, .closeArray :: rest) => some ([item], rest)
      | some (item, .comma :: rest) =>
          (items? depth rest).map fun split => (item :: split.1, split.2)
      | _ => none

def fields? : Nat → List Token → Option (List (Option String × Value) × List Token)
  | 0, _ => none
  | depth + 1, tokens =>
      match tokens with
      | .string key :: .colon :: rest =>
          match value? depth rest with
          | some (value, .closeObject :: after) => some ([(key, value)], after)
          | some (value, .comma :: after) =>
              (fields? depth after).map fun split => ((key, value) :: split.1, split.2)
          | _ => none
      | _ => none

end

/-- Reads a whole text. A value, an item and a field each take at least a token, so twice the number
of tokens is deep enough. -/
def parse? (text : String) : Option Value :=
  match tokens? text with
  | none => none
  | some tokens =>
      match value? (2 * tokens.length + 1) tokens with
      | some (value, []) => some value
      | _ => none

end Json

end WoundWait
