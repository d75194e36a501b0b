/-
  Values of a settings document, and the lines it is made of.

  A document is a sequence of statements: headers that name a
  table, and keys with their values.  A table remembers how it
  was written, since that decides what may be added to it.

  Key definitions include:
    * `Value`, `Entries`
    * `Statement`
    * `Value.items?`: the members of a list, however written
-/

namespace Redraw

namespace Toml

/- A key, without its quotes. -/
abbrev Key := List Char

/-
  How a table came to be: between braces, under a header of
  its own, on the way to the header of another, or on the way
  to a dotted key.
-/
inductive Origin
  | inline
  | header
  | path
  | dotted
  deriving DecidableEq, Repr

/-
  A value.  Floats and dates are kept as they are written.
  Lists of tables under headers are kept apart from lists in
  brackets, which are closed.
-/
inductive Value
  | text (chars : List Char)
  | integer (n : Int)
  | float (written : List Char)
  | boolean (b : Bool)
  | moment (written : List Char)
  | array (items : List Value)
  | table
      (origin : Origin)
      (entries : List (Key × Value))
  | tables (items : List (List (Key × Value)))

/- The entries of a table, each key once. -/
abbrev Entries := List (Key × Value)

namespace Value

/- The members of a list, in brackets or under headers. -/
def items? : Value → Option (List Value)
  | array vs => some vs
  | tables ts => some (ts.map (table .header))
  | _ => none

/- Whether a list or table has no members. -/
def isEmptyCollection : Value → Bool
  | array vs => vs.isEmpty
  | table _ es => es.isEmpty
  | tables ts => ts.isEmpty
  | _ => false

end Value

/-
  What one line of a document says: a value for a key, a
  header that opens a table, or a header that opens the next
  table of a list.  The last key of a dotted path stands
  apart.
-/
inductive Statement
  | assign
      (path : List Key)
      (key : Key)
      (value : Value)
  | openTable
      (path : List Key)
      (key : Key)
  | openNext
      (path : List Key)
      (key : Key)

end Toml

end Redraw
