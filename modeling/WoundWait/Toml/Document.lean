import WoundWait.Toml.Lexeme

/-!
TOML documents as trees of tables, and the rules by which lines of a document extend the tree: a
table is defined by one header at most, dotted keys extend only tables that dotted keys made, and
values are never extended.
-/

namespace WoundWait

namespace Toml

inductive TableOrigin where
  | header
  | parent
  | dotted
  deriving DecidableEq, Repr

mutual

inductive Item where
  | scalar (value : Scalar)
  | array (items : List Item)
  | inlineTable (table : Table)
  | table (table : Table)
  | tables (tables : List Table)

inductive Table where
  | mk (origin : TableOrigin) (entries : List (String × Item))

end

namespace Table

def origin : Table → TableOrigin
  | mk origin _ => origin

def entries : Table → List (String × Item)
  | mk _ entries => entries

def empty (origin : TableOrigin) : Table :=
  mk origin []

instance : Inhabited Table := ⟨empty .header⟩

def find? (table : Table) (key : String) : Option Item :=
  (table.entries.find? fun entry => entry.1 == key).map fun entry => entry.2

def put (table : Table) (key : String) (item : Item) : Table :=
  if (table.find? key).isSome then
    mk table.origin (table.entries.map fun entry => if entry.1 = key then (key, item) else entry)
  else mk table.origin (table.entries ++ [(key, item)])

/-- Changes the table at the end of a path. Missing tables on the way are made; of tables that share
a header the last one is meant. Dotted keys do not lead into tables with a header. -/
def changeAt (dotted : Bool) (change : Table → Option Table) : List String → Table → Option Table
  | [], table => change table
  | key :: rest, table =>
      match table.find? key with
      | none =>
          (changeAt dotted change rest (empty (if dotted then .dotted else .parent))).map
            fun child => table.put key (.table child)
      | some (.table child) =>
          if dotted && child.origin == .header then none
          else (changeAt dotted change rest child).map fun child => table.put key (.table child)
      | some (.tables tables) =>
          match tables.getLast? with
          | some child =>
              (changeAt dotted change rest child).map fun child =>
                table.put key (.tables (tables.dropLast ++ [child]))
          | none => none
      | some _ => none

def addNew (key : String) (item : Item) (table : Table) : Option Table :=
  if (table.find? key).isSome then none else some (table.put key item)

/-- Adds a value under a dotted key. With more than one part, the table that gets the value has to
be one that dotted keys made. -/
def addDotted (keys : List String) (item : Item) (table : Table) : Option Table :=
  match keys.getLast? with
  | none => none
  | some key =>
      let way := keys.dropLast
      changeAt true
        (fun target =>
          if (target.origin == .dotted) == way.isEmpty then none else addNew key item target)
        way table

def openTable (keys : List String) (table : Table) : Option Table :=
  match keys.getLast? with
  | none => none
  | some key =>
      changeAt false
        (fun parent =>
          match parent.find? key with
          | none => some (parent.put key (.table (empty .header)))
          | some (.table (mk .parent entries)) =>
              some (parent.put key (.table (mk .header entries)))
          | some _ => none)
        keys.dropLast table

def openNext (keys : List String) (table : Table) : Option Table :=
  match keys.getLast? with
  | none => none
  | some key =>
      changeAt false
        (fun parent =>
          match parent.find? key with
          | none => some (parent.put key (.tables [empty .header]))
          | some (.tables tables) =>
              some (parent.put key (.tables (tables ++ [empty .header])))
          | some _ => none)
        keys.dropLast table

end Table

/-! Keys -/

def depthLimit : Nat := 80

def isBareKeyCharacter (character : Char) : Bool :=
  character.isAlphanum || character == '_' || character == '-'

def simpleKey? : Reader String := fun characters =>
  match characters with
  | first :: _ =>
      if first == '"' || first == '\'' then shortString? characters
      else
        let bare := characters.takeWhile isBareKeyCharacter
        if bare.isEmpty then none
        else some (String.ofList bare, characters.dropWhile isBareKeyCharacter)
  | [] => none

def keyWithin : Nat → Reader (List String)
  | 0, _ => none
  | parts + 1, characters =>
      match simpleKey? (skipBlanks characters) with
      | none => none
      | some (part, after) =>
          match skipBlanks after with
          | '.' :: rest => (keyWithin parts rest).map fun split => (part :: split.1, split.2)
          | rest => some ([part], rest)

def key? : Reader (List String) := fun characters =>
  match keyWithin (characters.length + 1) characters with
  | some (parts, rest) => if parts.length < depthLimit then some (parts, rest) else none
  | none => none

/-! Values -/

def arrayWithin (item? : Reader Item) : Nat → Reader (List Item)
  | 0, _ => none
  | items + 1, characters =>
      match skipLines characters with
      | ']' :: rest => some ([], rest)
      | start =>
          match item? start with
          | none => none
          | some (item, after) =>
              match skipLines after with
              | ',' :: rest =>
                  (arrayWithin item? items rest).map fun split => (item :: split.1, split.2)
              | ']' :: rest => some ([item], rest)
              | _ => none

def keyValue? (item? : Reader Item) : Reader (List String × Item) := fun characters =>
  match key? characters with
  | some (keys, '=' :: rest) =>
      (item? (skipBlanks rest)).map fun split => ((keys, split.1), skipBlanks split.2)
  | _ => none

def inlineWithin (item? : Reader Item) : Nat → Table → Reader Table
  | 0, _, _ => none
  | entries + 1, table, characters =>
      match keyValue? item? characters with
      | none => none
      | some ((keys, item), after) =>
          match table.addDotted keys item with
          | none => none
          | some extended =>
              match after with
              | ',' :: rest => inlineWithin item? entries extended rest
              | '\x7d' :: rest => some (extended, rest)
              | _ => none

def inlineTable? (item? : Reader Item) : Reader Table := fun characters =>
  match skipBlanks characters with
  | '\x7d' :: rest => some (.empty .header, rest)
  | start => inlineWithin item? (start.length + 1) (.empty .header) start

def item? : Nat → Reader Item
  | 0, characters => (scalar? characters).map fun split => (.scalar split.1, split.2)
  | depth + 1, characters =>
      match characters with
      | '[' :: rest =>
          (arrayWithin (item? depth) (rest.length + 1) rest).map fun split =>
            (.array split.1, split.2)
      | '\x7b' :: rest =>
          (inlineTable? (item? depth) rest).map fun split => (.inlineTable split.1, split.2)
      | _ => (scalar? characters).map fun split => (.scalar split.1, split.2)

def value? : Reader Item := item? (depthLimit - 1)

/-! Documents -/

structure Draft where
  root : Table
  header : List String

def Draft.addLine (draft : Draft) (keys : List String) (item : Item) : Option Draft :=
  (Table.changeAt false (Table.addDotted keys item) draft.header draft.root).map fun root =>
    { draft with root }

def Draft.openHeader (draft : Draft) (shared : Bool) (keys : List String) : Option Draft :=
  (if shared then draft.root.openNext keys else draft.root.openTable keys).map fun root =>
    { root, header := keys }

def headerLine? (draft : Draft) (characters : List Char) : Option (Draft × List Char) :=
  match characters with
  | '[' :: '[' :: rest =>
      match key? rest with
      | some (keys, ']' :: ']' :: after) =>
          (closeLine? after).bind fun last =>
            (draft.openHeader true keys).map fun opened => (opened, last)
      | _ => none
  | '[' :: rest =>
      match key? rest with
      | some (keys, ']' :: after) =>
          (closeLine? after).bind fun last =>
            (draft.openHeader false keys).map fun opened => (opened, last)
      | _ => none
  | _ => none

def valueLine? (draft : Draft) (characters : List Char) : Option (Draft × List Char) :=
  match keyValue? value? characters with
  | some ((keys, item), after) =>
      (closeLine? after).bind fun last =>
        (draft.addLine keys item).map fun extended => (extended, last)
  | none => none

def linesWithin : Nat → Draft → List Char → Option Draft
  | 0, draft, characters => if characters.isEmpty then some draft else none
  | lines + 1, draft, characters =>
      match skipBlanks characters with
      | [] => some draft
      | first :: rest =>
          if first == '#' || first == '\n' || first == '\r' then
            match closeLine? (first :: rest) with
            | some after => linesWithin lines draft after
            | none => none
          else
            match (if first == '[' then headerLine? else valueLine?) draft (first :: rest) with
            | some (extended, after) => linesWithin lines extended after
            | none => none

def withoutMark : List Char → List Char
  | '\ufeff' :: rest => rest
  | characters => characters

def parse? (text : String) : Option Table :=
  let characters := withoutMark text.toList
  (linesWithin (characters.length + 1) { root := .empty .header, header := [] } characters).map
    Draft.root

end Toml

end WoundWait
