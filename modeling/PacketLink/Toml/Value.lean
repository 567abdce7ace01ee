/-!
# Values of a TOML document

* `Value`: what a key can stand for. Tables remember where they came from, since that decides
  whether something may be added to them.
* `Table.insert?`: adds a value at a dotted key, if the tables on the way are open to it.
* `Table.open?`, `Table.append?`: what a header does: it opens a table, or appends one to an array
  of tables.
* `Table.update?`: changes the table that a header opened.
-/

namespace PacketLink.Toml

/-- Where a table came from. -/
inductive Origin where
  /-- It is written between braces and complete. -/
  | inline
  /-- It is named by a header of its own. -/
  | header
  /-- It is only passed through by the headers of other tables. -/
  | implied
  /-- It is passed through by a dotted key. -/
  | dotted
deriving DecidableEq, Repr

/-- A number that is written with a point, with an exponent, or as a word. -/
inductive FloatLiteral where
  /-- A number times a power of ten. -/
  | finite (negative : Bool) (digits : Nat) (exponent : Int)
  | infinity (negative : Bool)
  | notANumber
deriving DecidableEq, Repr

/-- A value. -/
inductive Value where
  | string (s : String)
  | integer (n : Int)
  | float (x : FloatLiteral)
  /-- A number of the right form that stands for nothing, such as one without digits. -/
  | unreadable
  | boolean (b : Bool)
  /-- A date, a time or both; which one is not kept. -/
  | dateTime
  | array (items : List Value)
  | table (origin : Origin) (entries : List (String × Value))
  /-- An array of tables that headers append to, the last table first. -/
  | tables (latest : List (String × Value)) (earlier : List (List (String × Value)))

/-- The entries of a table in the order in which they were added. -/
abbrev Table := List (String × Value)

namespace Table

/-- The value of a key. -/
def get? (t : Table) (key : String) : Option Value := t.lookup key

/-- The table with another value for a key that it has. -/
def replace (t : Table) (key : String) (v : Value) : Table :=
  t.map fun (k, old) => if k = key then (k, v) else (k, old)

/-- Adds a value at a key that must be new. -/
def add? (t : Table) (v : Value) (key : String) : Option Table :=
  match t.get? key with
  | none => some (t ++ [(key, v)])
  | some _ => none

/-- Adds a value at a dotted key, whose last part must be new. The tables on the way are new or
come from dotted keys. All but the last of them may also be implied by headers, or be the latest of
an array of tables. -/
def insert? (t : Table) (v : Value) : List String → Option Table
  | [] => none
  | [key] => t.add? v key
  | key :: rest =>
    match t.get? key with
    | none => do
      let inner ← insert? [] v rest
      pure (t ++ [(key, .table .dotted inner)])
    | some (.table .dotted inner) => do
      let inner ← insert? inner v rest
      pure (t.replace key (.table .dotted inner))
    | some (.table .implied inner) =>
      if rest.length = 1 then none
      else do
        let inner ← insert? inner v rest
        pure (t.replace key (.table .implied inner))
    | some (.tables latest earlier) =>
      if rest.length = 1 then none
      else do
        let latest ← insert? latest v rest
        pure (t.replace key (.tables latest earlier))
    | some _ => none

/-- Follows the parts of a header but the last, and changes the table found there. Tables that are
missing on the way are implied, and of an array of tables the latest counts. -/
def descend? (change : Table → String → Option Table) (t : Table) : List String → Option Table
  | [] => none
  | [key] => change t key
  | key :: rest =>
    match t.get? key with
    | none => do
      let inner ← descend? change [] rest
      pure (t ++ [(key, .table .implied inner)])
    | some (.table .inline _) => none
    | some (.table origin inner) => do
      let inner ← descend? change inner rest
      pure (t.replace key (.table origin inner))
    | some (.tables latest earlier) => do
      let latest ← descend? change latest rest
      pure (t.replace key (.tables latest earlier))
    | some _ => none

/-- Opens the table of a header, which must be new or only implied so far. -/
def openLast (t : Table) (key : String) : Option Table :=
  match t.get? key with
  | none => some (t ++ [(key, .table .header [])])
  | some (.table .implied inner) => some (t.replace key (.table .header inner))
  | some _ => none

/-- Appends a table to the array of a header, which must be new or such an array. -/
def appendLast (t : Table) (key : String) : Option Table :=
  match t.get? key with
  | none => some (t ++ [(key, .tables [] [])])
  | some (.tables latest earlier) => some (t.replace key (.tables [] (latest :: earlier)))
  | some _ => none

/-- Changes the table that a header opened last. -/
def updateLast (change : Table → Option Table) (t : Table) (key : String) : Option Table :=
  match t.get? key with
  | some (.table origin inner) => do
    let inner ← change inner
    pure (t.replace key (.table origin inner))
  | some (.tables latest earlier) => do
    let latest ← change latest
    pure (t.replace key (.tables latest earlier))
  | _ => none

/-- What the header of a table does. -/
def open? (t : Table) (path : List String) : Option Table := t.descend? openLast path

/-- What the header of an array of tables does. -/
def append? (t : Table) (path : List String) : Option Table := t.descend? appendLast path

/-- Changes the table at a header, or the whole document before the first header. -/
def update? (t : Table) (path : List String) (change : Table → Option Table) : Option Table :=
  match path with
  | [] => change t
  | path => t.descend? (updateLast change) path

end Table

end PacketLink.Toml
