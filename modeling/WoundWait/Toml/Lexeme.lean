import WoundWait.Decimal.Binary64
import WoundWait.Hexadecimal
import WoundWait.Word

/-!
The smallest pieces of a TOML document: blanks, comments and line ends, strings, numbers, dates and
times. Each reader takes its piece from the front of a text and gives what follows it.
-/

namespace WoundWait

namespace Toml

abbrev Reader (α : Type) := List Char → Option (α × List Char)

inductive Scalar where
  | text (value : String)
  | integer (value : Int)
  | float (value : Float)
  | boolean (value : Bool)
  | dateTime (written : String)

/-! Blanks, comments and line ends -/

def isBlank (character : Char) : Bool :=
  character == ' ' || character == '\t'

def skipBlanks (characters : List Char) : List Char :=
  characters.dropWhile isBlank

def isVisible (character : Char) : Bool :=
  character == '\t' || (' ' ≤ character && character ≤ '~') || '\x80' ≤ character

def lineEnd? : List Char → Option (List Char)
  | '\n' :: rest => some rest
  | '\r' :: '\n' :: rest => some rest
  | _ => none

def skipComment : List Char → List Char
  | '#' :: rest => rest.dropWhile isVisible
  | characters => characters

def closeLine? (characters : List Char) : Option (List Char) :=
  match skipComment (skipBlanks characters) with
  | [] => some []
  | rest => lineEnd? rest

def skipLinesWithin : Nat → List Char → List Char
  | 0, characters => characters
  | steps + 1, characters =>
      let trimmed := skipBlanks characters
      match lineEnd? (skipComment trimmed) with
      | some rest => skipLinesWithin steps rest
      | none => trimmed

def skipLines (characters : List Char) : List Char :=
  skipLinesWithin characters.length characters

/-! Strings -/

def isBasic (character : Char) : Bool :=
  isVisible character && character != '"' && character != '\\'

def isLiteral (character : Char) : Bool :=
  isVisible character && character != '\''

def character? (value : Nat) : Option Char :=
  if value < 0xD800 ∨ (0xDFFF < value ∧ value < 0x110000) then some (Char.ofNat value) else none

def shortEscape? : Char → Option Char
  | 'b' => some '\x08'
  | 't' => some '\t'
  | 'n' => some '\n'
  | 'f' => some '\x0c'
  | 'r' => some '\r'
  | '"' => some '"'
  | '\\' => some '\\'
  | _ => none

def escape? : Reader Char
  | 'u' :: rest =>
      if rest.length < 4 then none
      else ((Hexadecimal.ofDigits? (rest.take 4)).bind character?).map fun value =>
        (value, rest.drop 4)
  | 'U' :: rest =>
      if rest.length < 8 then none
      else ((Hexadecimal.ofDigits? (rest.take 8)).bind character?).map fun value =>
        (value, rest.drop 8)
  | short :: rest => (shortEscape? short).map fun value => (value, rest)
  | [] => none

def basicWithin : Nat → List Char → Reader (List Char)
  | 0, _, _ => none
  | _ + 1, content, '"' :: rest => some (content.reverse, rest)
  | steps + 1, content, '\\' :: rest =>
      match escape? rest with
      | some (character, after) => basicWithin steps (character :: content) after
      | none => none
  | steps + 1, content, character :: rest =>
      if isBasic character then basicWithin steps (character :: content) rest else none
  | _ + 1, _, [] => none

def literalContent? : List Char → Reader (List Char)
  | content, '\'' :: rest => some (content.reverse, rest)
  | content, character :: rest =>
      if isLiteral character then literalContent? (character :: content) rest else none
  | _, [] => none

/-- How a run of quotes goes on in a string over several lines: up to two of them belong to its
content, and three end it. -/
def closing? (quote : Char) (content characters : List Char) : Option (List Char × List Char) :=
  let run := (characters.takeWhile (· == quote)).length
  if run < 3 then none
  else
    let inside := min (run - 3) 2
    some ((List.replicate inside quote ++ content).reverse, characters.drop (inside + 3))

def skipSpace : List Char → List Char
  | '\r' :: '\n' :: rest => skipSpace rest
  | character :: rest =>
      if isBlank character || character == '\n' then skipSpace rest else character :: rest
  | [] => []

def foldedLine? (characters : List Char) : Option (List Char) :=
  (lineEnd? (skipBlanks characters)).map skipSpace

def longBasicWithin : Nat → List Char → Reader (List Char)
  | 0, _, _ => none
  | _ + 1, _, [] => none
  | steps + 1, content, first :: rest =>
      match closing? '"' content (first :: rest) with
      | some closed => some closed
      | none =>
          if first == '"' || isBasic first then longBasicWithin steps (first :: content) rest
          else if first == '\\' then
            match foldedLine? rest with
            | some after => longBasicWithin steps content after
            | none =>
                match escape? rest with
                | some (character, after) => longBasicWithin steps (character :: content) after
                | none => none
          else
            match lineEnd? (first :: rest) with
            | some after => longBasicWithin steps ('\n' :: content) after
            | none => none

def longLiteralWithin : Nat → List Char → Reader (List Char)
  | 0, _, _ => none
  | _ + 1, _, [] => none
  | steps + 1, content, first :: rest =>
      match closing? '\'' content (first :: rest) with
      | some closed => some closed
      | none =>
          if first == '\'' || isLiteral first then longLiteralWithin steps (first :: content) rest
          else
            match lineEnd? (first :: rest) with
            | some after => longLiteralWithin steps ('\n' :: content) after
            | none => none

def afterOpening (characters : List Char) : List Char :=
  (lineEnd? characters).getD characters

def withString (read : Option (List Char × List Char)) : Option (String × List Char) :=
  read.map fun split => (String.ofList split.1, split.2)

def shortString? : Reader String
  | '"' :: rest => withString (basicWithin (rest.length + 1) [] rest)
  | '\'' :: rest => withString (literalContent? [] rest)
  | _ => none

def string? : Reader String
  | '"' :: '"' :: '"' :: rest =>
      withString (longBasicWithin (rest.length + 1) [] (afterOpening rest))
  | '\'' :: '\'' :: '\'' :: rest =>
      withString (longLiteralWithin (rest.length + 1) [] (afterOpening rest))
  | characters => shortString? characters

/-! Numbers -/

def moreDigits? (isDigit : Char → Bool) : Reader (List Char)
  | '_' :: digit :: rest =>
      if isDigit digit then
        (moreDigits? isDigit rest).map fun split => (digit :: split.1, split.2)
      else none
  | ['_'] => none
  | digit :: rest =>
      if isDigit digit then
        (moreDigits? isDigit rest).map fun split => (digit :: split.1, split.2)
      else some ([], digit :: rest)
  | [] => some ([], [])

def digits? (isDigit : Char → Bool) : Reader (List Char)
  | digit :: rest =>
      if isDigit digit then
        (moreDigits? isDigit rest).map fun split => (digit :: split.1, split.2)
      else none
  | [] => none

def sign : List Char → Bool × List Char
  | '+' :: rest => (false, rest)
  | '-' :: rest => (true, rest)
  | characters => (false, characters)

def wholeDigits? : Reader (List Char)
  | '0' :: rest => some (['0'], rest)
  | characters => digits? Char.isDigit characters

def digitsToNat (base : Nat) (digits : List Char) : Nat :=
  digits.foldl (fun value digit => value * base + (Hexadecimal.value? digit).getD 0) 0

def based? (base : Nat) : Reader Int := fun characters =>
  let isDigit (digit : Char) : Bool :=
    match Hexadecimal.value? digit with
    | some value => value < base
    | none => false
  match digits? isDigit characters with
  | some (digits, rest) =>
      (Word.signed? (digitsToNat base digits)).map fun value => (value, rest)
  | none => none

def integer? : Reader Int
  | '0' :: 'x' :: rest => based? 16 rest
  | '0' :: 'o' :: rest => based? 8 rest
  | '0' :: 'b' :: rest => based? 2 rest
  | characters =>
      let signed := sign characters
      match wholeDigits? signed.2 with
      | some (digits, rest) =>
          let magnitude : Int := digitsToNat 10 digits
          (Word.signed? (if signed.1 then -magnitude else magnitude)).map fun value =>
            (value, rest)
      | none => none

inductive Attempted (α : Type) where
  | missing
  | wrong
  | read (value : α) (rest : List Char)

def exponent (characters : List Char) : Attempted Int :=
  match characters with
  | mark :: rest =>
      if mark == 'e' || mark == 'E' then
        let signed := sign rest
        match digits? Char.isDigit signed.2 with
        | some (digits, after) =>
            let magnitude : Int := digitsToNat 10 digits
            .read (if signed.1 then -magnitude else magnitude) after
        | none => .wrong
      else .missing
  | [] => .missing

/-- A decimal number as a double. A positive number that is too large is wrong, a negative one is
not. -/
def toFloat (negative : Bool) (whole fraction : List Char) (power : Int) (rest : List Char) :
    Attempted Float :=
  let value := Binary64.ofDecimal negative (digitsToNat 10 (whole ++ fraction))
    (power - fraction.length)
  if value.isInf && !negative then .wrong else .read value rest

def decimalFloat (characters : List Char) : Attempted Float :=
  let signed := sign characters
  match wholeDigits? signed.2 with
  | none => .missing
  | some (whole, '.' :: rest) =>
      match digits? Char.isDigit rest with
      | none => .wrong
      | some (fraction, after) =>
          match exponent after with
          | .read power last => toFloat signed.1 whole fraction power last
          | .wrong => .wrong
          | .missing => toFloat signed.1 whole fraction 0 after
  | some (whole, rest) =>
      match exponent rest with
      | .read power last => toFloat signed.1 whole [] power last
      | .wrong => .wrong
      | .missing => .missing

def specialFloat? (characters : List Char) : Option (Float × List Char) :=
  let signed := sign characters
  match signed.2 with
  | 'i' :: 'n' :: 'f' :: rest => some (if signed.1 then -1.0 / 0.0 else 1.0 / 0.0, rest)
  | 'n' :: 'a' :: 'n' :: rest => some (0.0 / 0.0, rest)
  | _ => none

/-! Dates and times -/

def field? (width least most : Nat) : Reader Nat := fun characters =>
  let digits := characters.take width
  let value := digitsToNat 10 digits
  if digits.length = width ∧ digits.all Char.isDigit ∧ least ≤ value ∧ value ≤ most then
    some (value, characters.drop width)
  else none

def isLeapYear (year : Nat) : Bool :=
  year % 4 == 0 && (year % 100 != 0 || year % 400 == 0)

def daysInMonth (year month : Nat) : Nat :=
  if month = 2 then if isLeapYear year then 29 else 28
  else if month = 4 ∨ month = 6 ∨ month = 9 ∨ month = 11 then 30
  else 31

def date (characters : List Char) : Attempted Unit :=
  match field? 4 0 9999 characters with
  | some (year, '-' :: rest) =>
      match field? 2 1 12 rest with
      | some (month, '-' :: after) =>
          match field? 2 1 (daysInMonth year month) after with
          | some (_, last) => .read () last
          | none => .wrong
      | _ => .wrong
  | _ => .missing

def skipSecondFraction : List Char → List Char
  | '.' :: digit :: rest => if digit.isDigit then rest.dropWhile Char.isDigit else '.' :: digit :: rest
  | characters => characters

def time (characters : List Char) : Attempted Unit :=
  match field? 2 0 23 characters with
  | some (_, ':' :: rest) =>
      match field? 2 0 59 rest with
      | some (_, ':' :: after) =>
          match field? 2 0 60 after with
          | some (_, last) => .read () (skipSecondFraction last)
          | none => .wrong
      | _ => .wrong
  | _ => .missing

def offset (characters : List Char) : Attempted Unit :=
  match characters with
  | mark :: rest =>
      if mark == 'Z' || mark == 'z' then .read () rest
      else if mark == '+' || mark == '-' then
        match field? 2 0 23 rest with
        | some (_, ':' :: after) =>
            match field? 2 0 59 after with
            | some (_, last) => .read () last
            | none => .wrong
        | _ => .wrong
      else .missing
  | [] => .missing

def timeOfDate (characters : List Char) : Attempted Unit :=
  match characters with
  | mark :: rest =>
      if mark == 'T' || mark == 't' || mark == ' ' then
        match time rest with
        | .read () after =>
            match offset after with
            | .missing => .read () after
            | found => found
        | other => other
      else .missing
  | [] => .missing

def skipDateTime (characters : List Char) : Attempted Unit :=
  match date characters with
  | .wrong => .wrong
  | .missing => time characters
  | .read () rest =>
      match timeOfDate rest with
      | .missing => .read () rest
      | found => found

/-! Scalars -/

def numeric? : Reader Scalar := fun characters =>
  match skipDateTime characters with
  | .wrong => none
  | .read () rest =>
      let written := characters.take (characters.length - rest.length)
      some (.dateTime (String.ofList written), rest)
  | .missing =>
      match decimalFloat characters with
      | .wrong => none
      | .read value rest => some (.float value, rest)
      | .missing =>
          match specialFloat? characters with
          | some (value, rest) => some (.float value, rest)
          | none => (integer? characters).map fun split => (.integer split.1, split.2)

def scalar? : Reader Scalar
  | 't' :: 'r' :: 'u' :: 'e' :: rest => some (.boolean true, rest)
  | 'f' :: 'a' :: 'l' :: 's' :: 'e' :: rest => some (.boolean false, rest)
  | first :: rest =>
      if first == '"' || first == '\'' then
        (string? (first :: rest)).map fun split => (.text split.1, split.2)
      else numeric? (first :: rest)
  | [] => none

end Toml

end WoundWait
