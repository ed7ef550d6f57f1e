import AssetBroker.Text.Digits

/-! String literals of TOML. Basic strings know escapes, literal strings none; both
have a form of several lines, in which a line break of either kind is one newline and
up to two quotes may stand before the closing three. Every reader here starts behind
the opening quotes. -/
namespace AssetBroker.Toml

open Text (hexValue? valueIn)

/-- Tab and every character that is not an ASCII control. -/
def isPlain (c : Char) : Bool := c == '\t' || (0x20 ≤ c.toNat && c.toNat != 0x7f)

def isBlank (c : Char) : Bool := c == ' ' || c == '\t'

def skipBlank (s : List Char) : List Char := s.dropWhile isBlank

/-- Removes a line break from the front. -/
def readNewline? : List Char → Option (List Char)
  | '\n' :: rest => some rest
  | '\r' :: '\n' :: rest => some rest
  | _ => none

def escaped? : Char → Option Char
  | '"' => some '"'
  | '\\' => some '\\'
  | 'b' => some '\x08'
  | 'f' => some '\x0c'
  | 'n' => some '\n'
  | 'r' => some '\r'
  | 't' => some '\t'
  | _ => none

/-- The character whose code point is written in hexadecimal digits. -/
def ofHex? (digits : List Char) : Option Char :=
  let code := valueIn 16 0 digits
  if digits.all (fun c => (hexValue? c).isSome) && code.isValidChar then some (Char.ofNat code)
  else none

/-- One line up to its closing quote. -/
def readBasic? : List Char → Option (List Char × List Char)
  | '"' :: rest => some ([], rest)
  | '\\' :: 'u' :: a :: b :: c :: d :: rest => do
    let char ← ofHex? [a, b, c, d]
    let (content, rest) ← readBasic? rest
    return (char :: content, rest)
  | '\\' :: 'U' :: a :: b :: c :: d :: e :: f :: g :: h :: rest => do
    let char ← ofHex? [a, b, c, d, e, f, g, h]
    let (content, rest) ← readBasic? rest
    return (char :: content, rest)
  | '\\' :: c :: rest => do
    let char ← escaped? c
    let (content, rest) ← readBasic? rest
    return (char :: content, rest)
  | c :: rest => do
    if !isPlain c || c == '\\' then none
    let (content, rest) ← readBasic? rest
    return (c :: content, rest)
  | [] => none

/-- Whether only blanks stand between here and a line break. -/
def atLineEnd (s : List Char) : Bool := (readNewline? (skipBlank s)).isSome

/-- Lines up to three closing quotes. While `trimming`, blanks and line breaks are
left out: a backslash at the end of a line removes all of them up to the next text. -/
def readBasicLines? (trimming : Bool) : List Char → Option (List Char × List Char)
  | '"' :: '"' :: '"' :: '"' :: '"' :: rest => some (['"', '"'], rest)
  | '"' :: '"' :: '"' :: '"' :: rest => some (['"'], rest)
  | '"' :: '"' :: '"' :: rest => some ([], rest)
  | '\r' :: '\n' :: rest => do
    let (content, rest) ← readBasicLines? trimming rest
    return (if trimming then content else '\n' :: content, rest)
  | '\n' :: rest => do
    let (content, rest) ← readBasicLines? trimming rest
    return (if trimming then content else '\n' :: content, rest)
  | '\\' :: 'u' :: a :: b :: c :: d :: rest => do
    let char ← ofHex? [a, b, c, d]
    let (content, rest) ← readBasicLines? false rest
    return (char :: content, rest)
  | '\\' :: 'U' :: a :: b :: c :: d :: e :: f :: g :: h :: rest => do
    let char ← ofHex? [a, b, c, d, e, f, g, h]
    let (content, rest) ← readBasicLines? false rest
    return (char :: content, rest)
  | '\\' :: c :: rest =>
    if atLineEnd (c :: rest) then
      if c == '\n' || isBlank c || c == '\r' then readBasicLines? true rest else none
    else do
      let char ← escaped? c
      let (content, rest) ← readBasicLines? false rest
      return (char :: content, rest)
  | c :: rest =>
    if trimming && isBlank c then readBasicLines? true rest
    else if !isPlain c || c == '\\' then none
    else do
      let (content, rest) ← readBasicLines? false rest
      return (c :: content, rest)
  | [] => none

/-- One line up to its closing single quote, taken as it stands. -/
def readLiteral? : List Char → Option (List Char × List Char)
  | '\'' :: rest => some ([], rest)
  | c :: rest => do
    if !isPlain c then none
    let (content, rest) ← readLiteral? rest
    return (c :: content, rest)
  | [] => none

/-- Lines up to three closing single quotes, taken as they stand. -/
def readLiteralLines? : List Char → Option (List Char × List Char)
  | '\'' :: '\'' :: '\'' :: '\'' :: '\'' :: rest => some (['\'', '\''], rest)
  | '\'' :: '\'' :: '\'' :: '\'' :: rest => some (['\''], rest)
  | '\'' :: '\'' :: '\'' :: rest => some ([], rest)
  | '\r' :: '\n' :: rest => do
    let (content, rest) ← readLiteralLines? rest
    return ('\n' :: content, rest)
  | '\n' :: rest => do
    let (content, rest) ← readLiteralLines? rest
    return ('\n' :: content, rest)
  | c :: rest => do
    if !isPlain c then none
    let (content, rest) ← readLiteralLines? rest
    return (c :: content, rest)
  | [] => none

/-- A line break right behind the opening quotes of a string of several lines does not
belong to it. -/
def skipFirstNewline (s : List Char) : List Char := (readNewline? s).getD s

/-- A string literal with its opening quotes. -/
def readText? (s : List Char) : Option (String × List Char) :=
  let literal := match s with
    | '"' :: '"' :: '"' :: rest => readBasicLines? false (skipFirstNewline rest)
    | '\'' :: '\'' :: '\'' :: rest => readLiteralLines? (skipFirstNewline rest)
    | '"' :: rest => readBasic? rest
    | '\'' :: rest => readLiteral? rest
    | _ => none
  literal.map fun (content, rest) => (String.ofList content, rest)

end AssetBroker.Toml
