import AssetBroker.Toml.Draft
import AssetBroker.Toml.Moment
import AssetBroker.Toml.Number
import AssetBroker.Toml.Text

/-! TOML text. Values may be nested less than eighty levels deep, and keys have fewer
than eighty parts. Line breaks and comments may stand in arrays but not in inline
tables. -/
namespace AssetBroker.Toml

open Text (readWord?)

/-- Removes a comment, if there is one, and the end of the line or of the text. -/
def readLineEnd? (s : List Char) : Option (List Char) :=
  let s := match skipBlank s with
    | '#' :: rest => rest.dropWhile isPlain
    | s => s
  if s = [] then some [] else readNewline? s

/-- Removes blanks, line breaks and comments. -/
def skipTrivia (inComment : Bool) : List Char → List Char
  | [] => []
  | '\n' :: rest => skipTrivia false rest
  | '\r' :: '\n' :: rest => skipTrivia false rest
  | c :: rest =>
    if inComment then if isPlain c then skipTrivia true rest else c :: rest
    else if isBlank c then skipTrivia false rest
    else if c = '#' then skipTrivia true rest
    else c :: rest

def isBare (c : Char) : Bool := c.isAlphanum || c == '_' || c == '-'

/-- One part of a key: bare, or a string of one line. -/
def readKeyPart? (s : List Char) : Option (String × List Char) :=
  match s with
  | '"' :: rest => (readBasic? rest).map fun (content, rest) => (String.ofList content, rest)
  | '\'' :: rest => (readLiteral? rest).map fun (content, rest) => (String.ofList content, rest)
  | s =>
    match s.takeWhile isBare with
    | [] => none
    | content => some (String.ofList content, s.dropWhile isBare)

/-- At most so many parts with dots between them, blanks around each part. -/
def readKeyParts? : Nat → List Char → Option (List String × List Char)
  | 0, _ => none
  | fuel + 1, s => do
    let (part, s) ← readKeyPart? (skipBlank s)
    match skipBlank s with
    | '.' :: rest =>
      let (parts, rest) ← readKeyParts? fuel rest
      return (part :: parts, rest)
    | s => return ([part], s)

def readKey? (s : List Char) : Option (List String × List Char) := readKeyParts? 79 s

/-- A key, an equals sign and a value. -/
def readDefinition? (readValue? : List Char → Option (Node × List Char)) (s : List Char) :
    Option (List String × Node × List Char) := do
  let (path, s) ← readKey? s
  let '=' :: s := s | none
  let (value, s) ← readValue? (skipBlank s)
  return (path, value, s)

/-- The items of an array behind its opening bracket or a comma. -/
def readItems? (readValue? : List Char → Option (Node × List Char)) :
    Nat → List Char → Option (List Node × List Char)
  | 0, _ => none
  | fuel + 1, s =>
    match skipTrivia false s with
    | ']' :: rest => some ([], rest)
    | s => do
      let (item, s) ← readValue? s
      match skipTrivia false s with
      | ',' :: rest =>
        let (items, rest) ← readItems? readValue? fuel rest
        return (item :: items, rest)
      | ']' :: rest => return ([item], rest)
      | _ => none

/-- The definitions of an inline table behind its opening brace, at least one. -/
def readInline? (readValue? : List Char → Option (Node × List Char)) :
    Nat → Draft.Entries → List Char → Option (Draft.Entries × List Char)
  | 0, _, _ => none
  | fuel + 1, entries, s => do
    let (path, value, s) ← readDefinition? readValue? s
    let entries ← Draft.define path.dropLast (← path.getLast?) value entries
    match skipBlank s with
    | ',' :: rest => readInline? readValue? fuel entries rest
    | '\x7d' :: rest => return (entries, rest)
    | _ => none

/-- A number, or a date or time, whichever the characters make. -/
def readNumeral? (s : List Char) : Option (Node × List Char) :=
  readMoment? s <|> readFloat? s <|> readSpecial? s <|> readInteger? s

/-- A value with at most `depth` arrays and inline tables around another. -/
def readValue? (depth : Nat) (s : List Char) : Option (Node × List Char) :=
  match s with
  | '"' :: _ | '\'' :: _ => (readText? s).map fun (content, rest) => (.text content, rest)
  | 't' :: rest => (readWord? ['r', 'u', 'e'] rest).map fun rest => (.boolean true, rest)
  | 'f' :: rest =>
    (readWord? ['a', 'l', 's', 'e'] rest).map fun rest => (.boolean false, rest)
  | '[' :: rest =>
    match depth with
    | 0 => none
    | depth + 1 => (readItems? (readValue? depth) (rest.length + 1) rest).map
        fun (items, rest) => (.array items, rest)
  | '\x7b' :: rest =>
    match depth, skipBlank rest with
    | 0, _ => none
    | _, '\x7d' :: rest => some (.table [], rest)
    | depth + 1, s => (readInline? (readValue? depth) (s.length + 1) [] s).map
        fun (entries, rest) => (.table (Draft.finishEntries entries), rest)
  | s => readNumeral? s

/-- The path of a header between its brackets. -/
def readHeader? (closing s : List Char) : Option (List String × List Char) := do
  let (path, s) ← readKey? s
  return (path, ← readLineEnd? (← readWord? closing s))

/-- The lines of a document; each takes at least one character. -/
def readLines? : Nat → Progress → List Char → Option Progress
  | 0, _, _ => none
  | fuel + 1, progress, s =>
    match skipBlank s with
    | [] => some progress
    | '\n' :: rest => readLines? fuel progress rest
    | '\r' :: '\n' :: rest => readLines? fuel progress rest
    | '#' :: rest => do readLines? fuel progress (← readLineEnd? ('#' :: rest))
    | '[' :: '[' :: rest => do
      let (path, rest) ← readHeader? [']', ']'] rest
      readLines? fuel (← progress.openElement path) rest
    | '[' :: rest => do
      let (path, rest) ← readHeader? [']'] rest
      readLines? fuel (← progress.openTable path) rest
    | s => do
      let (path, value, rest) ← readDefinition? (readValue? 79) s
      readLines? fuel (← progress.define path value) (← readLineEnd? rest)

/-- The document of a text. A byte order mark at its start is skipped. -/
def read? (text : String) : Option Table := do
  let s := match text.toList with
    | '\uFEFF' :: rest => rest
    | s => s
  let progress ← readLines? (s.length + 1) .start s
  return Draft.finishEntries (← progress.close)

end AssetBroker.Toml
