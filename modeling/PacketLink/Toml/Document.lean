import PacketLink.Toml.Scalar
import PacketLink.Toml.Scan

/-!
# TOML documents

* `value?`: a value; arrays and tables may lie in one another up to a limit. Between brackets or
  braces it may be spread over lines.
* `document?`: a document: lines with a header, with a key and a value, or with nothing.
* `parse?`: the table that a text stands for, if it has the form of TOML 1.1.
-/

namespace PacketLink.Toml

/-- How deep arrays and tables may lie in one another. -/
def nestingLimit : Nat := 80

/-- A scanner for a value. -/
abbrev Scanner := List Char → Option (Value × List Char)

/-! ## Values -/

/-- What ends a number, word or date. -/
def endsScalar (c : Char) : Bool :=
  isBlank c || c = '\r' || c = '\n' || c = '#' || c = ',' || c = '=' || c = '[' || c = ']' ||
    c = '\x7b' || c = '\x7d'

/-- Splits off the characters before the first one that ends a number, word or date. -/
def untilEnd (cs : List Char) : List Char × List Char := cs.span fun c => !endsScalar c

/-- The run of characters of a number, word or date. A date may have one blank before its time. -/
def scalarRun (cs : List Char) : List Char × List Char :=
  let (run, rest) := untilEnd cs
  match date? run, rest with
  | some [], ' ' :: c :: more =>
    if c.isDigit then
      let (time, rest) := untilEnd (c :: more)
      (run ++ ' ' :: time, rest)
    else (run, rest)
  | _, _ => (run, rest)

/-- A string, number, word or date. -/
def plain? (cs : List Char) : Option (Value × List Char) :=
  match cs with
  | '"' :: _ | '\'' :: _ => (string? cs).map fun (s, rest) => (.string s, rest)
  | cs =>
    let (run, rest) := scalarRun cs
    (scalar? run).map fun v => (v, rest)

/-- The items of an array after its opening bracket, up to `fuel` of them. -/
def items? (item : Scanner) : Nat → List Char → Option (List Value × List Char)
  | 0, _ => none
  | fuel + 1, cs =>
    match gap cs with
    | ']' :: rest => some ([], rest)
    | cs => do
      let (v, rest) ← item cs
      match gap rest with
      | ',' :: rest => do
        let (others, rest) ← items? item fuel rest
        pure (v :: others, rest)
      | ']' :: rest => pure ([v], rest)
      | _ => none

/-- A key and its value, with what `skip` passes over around the equals sign. -/
def pair? (skip : List Char → List Char) (item : Scanner) (cs : List Char) :
    Option (List String × Value × List Char) := do
  let (path, rest) ← key? cs
  match skip rest with
  | '=' :: rest => do
    let (v, rest) ← item (skip rest)
    pure (path, v, rest)
  | _ => none

/-- The entries of a table between braces after its opening brace, up to `fuel` of them, added to
those of `t`. Lines may end and comments may stand everywhere but inside a dotted key. -/
def entries? (item : Scanner) : Nat → Table → List Char → Option (Table × List Char)
  | 0, _, _ => none
  | fuel + 1, t, cs =>
    match gap cs with
    | '\x7d' :: rest => some (t, rest)
    | cs => do
      let (path, v, rest) ← pair? gap item cs
      let t ← t.insert? v path
      match gap rest with
      | ',' :: rest => entries? item fuel t rest
      | '\x7d' :: rest => some (t, rest)
      | _ => none

/-- A value in which arrays and tables lie in one another up to a depth. -/
def valueUpTo : Nat → Scanner
  | 0, cs => plain? cs
  | depth + 1, cs =>
    match cs with
    | '[' :: rest => do
      let (items, rest) ← items? (valueUpTo depth) (rest.length + 1) rest
      pure (.array items, rest)
    | '\x7b' :: rest => do
      let (t, rest) ← entries? (valueUpTo depth) (rest.length + 1) [] rest
      pure (.table .inline t, rest)
    | cs => plain? cs

/-- A value. -/
def value? : Scanner := valueUpTo nestingLimit

/-! ## Documents -/

/-- A document that has been read up to some line. -/
structure Draft where
  root : Table := []
  /-- The header of the table to which keys are added. -/
  current : List String := []

/-- The key of a header after its opening brackets. -/
def headerKey? (cs : List Char) : Option (List String × List Char) := key? (skipBlank cs)

/-- A header, or a key and its value. -/
def expression? (d : Draft) (cs : List Char) : Option (Draft × List Char) :=
  match cs with
  | '[' :: '[' :: rest => do
    let (path, rest) ← headerKey? rest
    match rest with
    | ']' :: ']' :: rest => do
      let root ← d.root.append? path
      pure (⟨root, path⟩, rest)
    | _ => none
  | '[' :: rest => do
    let (path, rest) ← headerKey? rest
    match rest with
    | ']' :: rest => do
      let root ← d.root.open? path
      pure (⟨root, path⟩, rest)
    | _ => none
  | cs => do
    let (path, v, rest) ← pair? skipBlank value? cs
    let root ← d.root.update? d.current fun t => t.insert? v path
    pure ({ d with root }, rest)

/-- What is on a line, if there is anything. -/
def line? (d : Draft) (cs : List Char) : Option (Draft × List Char) :=
  match cs with
  | [] | '#' :: _ | '\n' :: _ | '\r' :: _ => some (d, cs)
  | cs => expression? d cs

/-- The lines of a document, up to `fuel` of them. -/
def lines? : Nat → Draft → List Char → Option Draft
  | 0, _, _ => none
  | fuel + 1, d, cs => do
    let (d, rest) ← line? d (skipBlank cs)
    match comment (skipBlank rest) with
    | [] => some d
    | rest => do lines? fuel d (← newline? rest)

/-- The table that the characters of a document stand for. -/
def document? (cs : List Char) : Option Table :=
  (lines? (cs.length + 1) {} cs).map (·.root)

/-- The mark that may stand before a document. -/
def byteOrderMark : Char := '\ufeff'

/-- The table that a text stands for. -/
def parse? (text : String) : Option Table :=
  match text.toList with
  | c :: rest => if c = byteOrderMark then document? rest else document? (c :: rest)
  | [] => some []

end PacketLink.Toml
