import PacketLink.Bytes

/-!
# Blanks, strings and keys

Scanners take the characters that are left and give what they found with the characters after it.

* `skipBlank`, `comment?`, `newline?`, `gap?`: what separates things.
* `string?`: the four sorts of strings. A string on several lines drops a line end right after its
  opening quotes, and may hold up to two quotes right before its closing ones.
* `key?`: a dotted key, of as many parts as are allowed.
-/

namespace PacketLink.Toml

/-! ## Blanks -/

/-- A blank or a tab. -/
def isBlank (c : Char) : Bool := c = ' ' || c = '\t'

/-- What may stand in comments: everything but control characters, of which tabs are allowed. -/
def isText (c : Char) : Bool := c = '\t' || (' ' ≤ c && c.toNat ≠ 0x7F)

/-- Skips blanks and tabs. -/
def skipBlank (cs : List Char) : List Char := cs.dropWhile isBlank

/-- Skips a comment, if there is one, up to the end of the line. -/
def comment (cs : List Char) : List Char :=
  match cs with
  | '#' :: rest => rest.dropWhile isText
  | cs => cs

/-- Skips the end of a line. -/
def newline? : List Char → Option (List Char)
  | '\n' :: rest => some rest
  | '\r' :: '\n' :: rest => some rest
  | _ => none

/-- Skips blanks, comments and line ends, at most `fuel` lines of them. -/
def gapLoop : Nat → List Char → List Char
  | 0, cs => cs
  | fuel + 1, cs =>
    let cs := skipBlank cs
    match newline? (comment cs) with
    | some rest => gapLoop fuel rest
    | none => cs

/-- Skips blanks, comments and line ends. A comment has to end with its line. -/
def gap (cs : List Char) : List Char := gapLoop (cs.length + 1) cs

/-! ## Strings -/

/-- The character of a code point written in hexadecimal digits. -/
def codePoint? (digits : List Char) : Option Char := do
  let values ← digits.mapM Bytes.hexDigit?
  let n := values.foldl (fun n d => 16 * n + d) 0
  if n.isValidChar then some (Char.ofNat n) else none

/-- The character that a short escape stands for. -/
def shortEscape? : Char → Option Char
  | 'b' => some '\x08'
  | 't' => some '\t'
  | 'n' => some '\n'
  | 'f' => some '\x0C'
  | 'r' => some '\r'
  | 'e' => some '\x1B'
  | '"' => some '"'
  | '\\' => some '\\'
  | _ => none

/-- Puts a character in front of what a scanner found. -/
def consFound (c : Option Char) (found : Option (List Char × List Char)) :
    Option (List Char × List Char) := do
  let c ← c
  let (cs, rest) ← found
  pure (c :: cs, rest)

/-- The rest of a string on one line after its opening quote. -/
def basic : List Char → Option (List Char × List Char)
  | '"' :: rest => some ([], rest)
  | '\\' :: 'x' :: a :: b :: rest => consFound (codePoint? [a, b]) (basic rest)
  | '\\' :: 'u' :: a :: b :: c :: d :: rest => consFound (codePoint? [a, b, c, d]) (basic rest)
  | '\\' :: 'U' :: a :: b :: c :: d :: e :: f :: g :: h :: rest =>
    consFound (codePoint? [a, b, c, d, e, f, g, h]) (basic rest)
  | '\\' :: c :: rest => consFound (shortEscape? c) (basic rest)
  | c :: rest => if isText c then consFound (some c) (basic rest) else none
  | [] => none

/-- The rest of a string without escapes on one line after its opening quote. -/
def literal : List Char → Option (List Char × List Char)
  | '\'' :: rest => some ([], rest)
  | c :: rest => if isText c then consFound (some c) (literal rest) else none
  | [] => none

/-- Skips blanks and line ends. -/
def skipLines : List Char → List Char
  | '\r' :: '\n' :: rest => skipLines rest
  | c :: rest => if isBlank c || c = '\n' then skipLines rest else c :: rest
  | [] => []

/-- What follows a backslash that ends a line, with all blanks and line ends after it skipped. -/
def continuation? (cs : List Char) : Option (List Char) :=
  (newline? (skipBlank cs)).map skipLines

/-- The rest of a string on several lines after its opening quotes. With every step it gets
shorter, so its length is `fuel` enough. -/
def multiBasic : Nat → List Char → Option (List Char × List Char)
  | 0, _ => none
  | fuel + 1, cs =>
    match cs with
    | '"' :: '"' :: '"' :: '"' :: '"' :: rest => some (['"', '"'], rest)
    | '"' :: '"' :: '"' :: '"' :: rest => some (['"'], rest)
    | '"' :: '"' :: '"' :: rest => some ([], rest)
    | '\r' :: '\n' :: rest => consFound (some '\r') (consFound (some '\n') (multiBasic fuel rest))
    | '\\' :: 'x' :: a :: b :: rest => consFound (codePoint? [a, b]) (multiBasic fuel rest)
    | '\\' :: 'u' :: a :: b :: c :: d :: rest =>
      consFound (codePoint? [a, b, c, d]) (multiBasic fuel rest)
    | '\\' :: 'U' :: a :: b :: c :: d :: e :: f :: g :: h :: rest =>
      consFound (codePoint? [a, b, c, d, e, f, g, h]) (multiBasic fuel rest)
    | '\\' :: rest =>
      match continuation? rest, rest with
      | some after, _ => multiBasic fuel after
      | none, c :: rest => consFound (shortEscape? c) (multiBasic fuel rest)
      | none, [] => none
    | c :: rest =>
      if isText c || c = '\n' then consFound (some c) (multiBasic fuel rest) else none
    | [] => none

/-- The rest of a string without escapes on several lines after its opening quotes. -/
def multiLiteral : List Char → Option (List Char × List Char)
  | '\'' :: '\'' :: '\'' :: '\'' :: '\'' :: rest => some (['\'', '\''], rest)
  | '\'' :: '\'' :: '\'' :: '\'' :: rest => some (['\''], rest)
  | '\'' :: '\'' :: '\'' :: rest => some ([], rest)
  | '\r' :: '\n' :: rest => consFound (some '\r') (consFound (some '\n') (multiLiteral rest))
  | c :: rest =>
    if isText c || c = '\n' then consFound (some c) (multiLiteral rest) else none
  | [] => none

/-- Skips the end of a line, if there is one. -/
def skipNewline (cs : List Char) : List Char := (newline? cs).getD cs

/-- Turns found characters into found text. -/
def foundText (found : Option (List Char × List Char)) : Option (String × List Char) :=
  found.map fun (cs, rest) => (String.ofList cs, rest)

/-- A string on one line. -/
def lineString? : List Char → Option (String × List Char)
  | '"' :: rest => foundText (basic rest)
  | '\'' :: rest => foundText (literal rest)
  | _ => none

/-- A string. -/
def string? : List Char → Option (String × List Char)
  | '"' :: '"' :: '"' :: rest =>
    let body := skipNewline rest
    foundText (multiBasic (body.length + 1) body)
  | '\'' :: '\'' :: '\'' :: rest => foundText (multiLiteral (skipNewline rest))
  | cs => lineString? cs

/-! ## Keys -/

/-- What an unquoted key is made of. -/
def isBare (c : Char) : Bool := c.isAlphanum || c = '_' || c = '-'

/-- One part of a key. -/
def simpleKey? (cs : List Char) : Option (String × List Char) :=
  match cs with
  | '"' :: _ | '\'' :: _ => lineString? cs
  | cs =>
    let name := cs.takeWhile isBare
    if name.isEmpty then none else some (String.ofList name, cs.dropWhile isBare)

/-- How many parts a dotted key may have. -/
def keyLimit : Nat := 80

/-- A key of up to `limit` parts with points between them, and the blanks after it. -/
def keyUpTo : Nat → List Char → Option (List String × List Char)
  | 0, _ => none
  | limit + 1, cs => do
    let (first, rest) ← simpleKey? cs
    match skipBlank rest with
    | '.' :: rest => do
      let (others, rest) ← keyUpTo limit (skipBlank rest)
      pure (first :: others, rest)
    | rest => pure ([first], rest)

/-- A dotted key, and the blanks after it. -/
def key? (cs : List Char) : Option (List String × List Char) := keyUpTo keyLimit cs

end PacketLink.Toml
