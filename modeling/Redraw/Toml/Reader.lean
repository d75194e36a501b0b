import Redraw.Toml.Moment
import Redraw.Toml.Number
import Redraw.Toml.Quoted
import Redraw.Toml.Table

/-
  Reading a settings document.

  A document is a list of lines: blank ones, headers in
  brackets, and keys with values.  Lists go over several
  lines and may end in a comma, tables between braces may do
  neither.  Paths and nested values have a length limit.

  Key definitions include:
    * `readPath`, `readValue`, `readStatements`
    * `read`: the table that a document describes
-/

namespace Redraw

namespace Toml

------------------------------------------------------------
-- Keys
------------------------------------------------------------

/- Characters of a key without quotes. -/
def isBareKeyChar (c : Char) : Bool :=
  c.isAlphanum || c = '_' || c = '-'

/- One key, and what follows. -/
def readKey : List Char → Option (Key × List Char)
  | '"' :: cs => readEscaped (cs.length + 1) cs
  | '\x27' :: cs => readLiteral cs
  | cs =>
      let k := cs.takeWhile isBareKeyChar
      if k.isEmpty then none else some (k, cs.drop k.length)

/- The greatest number of keys in a path. -/
def pathLimit : Nat := 79

/-
  A dotted path with its last key apart, and what follows.
  The first argument is the number of keys allowed.
-/
def readPath :
    Nat → List Char → Option ((List Key × Key) × List Char)
  | 0, _ => none
  | n + 1, cs =>
      (readKey (skipBlanks cs)).bind fun (k, cs) =>
        match skipBlanks cs with
        | '.' :: cs =>
            (readPath n cs).map fun ((ks, last), cs) =>
              ((k :: ks, last), cs)
        | cs => some (([], k), cs)

------------------------------------------------------------
-- Scalars
------------------------------------------------------------

/- Characters of values without quotes. -/
def isTokenChar (c : Char) : Bool :=
  c.isAlphanum || c = '_' || c = '-' || c = '+'
    || c = '.' || c = ':'

/- The value that a word without quotes spells. -/
def ofToken? (token : List Char) : Option Value :=
  if token = ['t', 'r', 'u', 'e'] then some (.boolean true)
  else if token = ['f', 'a', 'l', 's', 'e'] then
    some (.boolean false)
  else if isMoment token then some (.moment token)
  else if isFloat token then some (.float token)
  else (integer? token).map .integer

/-
  A value without quotes, and what follows.  A date and a time
  may have a blank between them.
-/
def readScalar (cs : List Char) : Option (Value × List Char) :=
  let token := cs.takeWhile isTokenChar
  let rest := cs.drop token.length
  let second := (rest.drop 1).takeWhile isTokenChar
  if isDate token && rest.head? = some ' '
      && second.head?.any Char.isDigit then
    if isZonedTime second then
      some (.moment (token ++ ' ' :: second),
        rest.drop (second.length + 1))
    else none
  else (ofToken? token).map fun v => (v, rest)

------------------------------------------------------------
-- Values
------------------------------------------------------------

/-
  The members of a list up to its closing bracket, and what
  follows.  The first argument bounds their number.
-/
def readItems
    (readItem : List Char → Option (Value × List Char)) :
    Nat → List Char → Option (List Value × List Char)
  | 0, _ => none
  | n + 1, cs =>
      match skipLines false cs with
      | ']' :: cs => some ([], cs)
      | cs =>
          (readItem cs).bind fun (v, cs) =>
            match skipLines false cs with
            | ',' :: cs =>
                (readItems readItem n cs).map fun (vs, cs) =>
                  (v :: vs, cs)
            | ']' :: cs => some ([v], cs)
            | _ => none

/-
  The entries of a table up to its closing brace, added to
  those before, and what follows.  The first argument bounds
  their number.
-/
def readPairs
    (readItem : List Char → Option (Value × List Char)) :
    Nat → Entries → List Char → Option (Entries × List Char)
  | 0, _, _ => none
  | n + 1, es, cs =>
      (readPath pathLimit cs).bind fun ((path, k), cs) =>
        match cs with
        | '=' :: cs =>
            (readItem (skipBlanks cs)).bind fun (v, cs) =>
              (es.assign path k v).bind fun es =>
                match skipBlanks cs with
                | ',' :: cs => readPairs readItem n es cs
                | '\x7d' :: cs => some (es, cs)
                | _ => none
        | _ => none

/- A table after its opening brace, and what follows. -/
def readBraced
    (readItem : List Char → Option (Value × List Char))
    (cs : List Char) : Option (Value × List Char) :=
  match skipBlanks cs with
  | '\x7d' :: cs => some (.table .inline [], cs)
  | cs =>
      (readPairs readItem (cs.length + 1) [] cs).map
        fun (es, cs) => (.table .inline es, cs)

/- The greatest depth of nested lists and tables. -/
def depthLimit : Nat := 79

/-
  A value, and what follows.  The first argument is the depth
  to which lists and tables may still be nested.
-/
def readValue :
    Nat → List Char → Option (Value × List Char)
  | 0, cs => readFlat cs
  | n + 1, '[' :: cs =>
      (readItems (readValue n) (cs.length + 1) cs).map
        fun (vs, cs) => (.array vs, cs)
  | n + 1, '\x7b' :: cs => readBraced (readValue n) cs
  | _ + 1, cs => readFlat cs
where
  /- A value that holds no others. -/
  readFlat (cs : List Char) : Option (Value × List Char) :=
    match cs with
    | '"' :: _ | '\x27' :: _ =>
        (readText cs).map fun (text, cs) => (.text text, cs)
    | _ => readScalar cs

------------------------------------------------------------
-- Statements
------------------------------------------------------------

/- The path of a header up to its closing brackets. -/
def readHeader
    (close : List Char)
    (cs : List Char) :
    Option ((List Key × Key) × List Char) :=
  (readPath pathLimit cs).bind fun (path, cs) =>
    if close.isPrefixOf cs then
      some (path, cs.drop close.length)
    else none

/- The statement at the start of a line, and what follows. -/
def readStatement :
    List Char → Option (Statement × List Char)
  | '[' :: '[' :: cs =>
      (readHeader [']', ']'] cs).map fun ((path, k), cs) =>
        (.openNext path k, cs)
  | '[' :: cs =>
      (readHeader [']'] cs).map fun ((path, k), cs) =>
        (.openTable path k, cs)
  | cs =>
      (readPath pathLimit cs).bind fun ((path, k), cs) =>
        match cs with
        | '=' :: cs =>
            (readValue depthLimit (skipBlanks cs)).map
              fun (v, cs) => (.assign path k v, cs)
        | _ => none

/-
  The statements of a document.  The first argument bounds the
  number of lines.
-/
def readStatements :
    Nat → List Char → Option (List Statement)
  | 0, _ => none
  | n + 1, cs =>
      match skipBlanks cs with
      | [] => some []
      | c :: cs =>
          match afterLine? (c :: cs) with
          | some rest => readStatements n rest
          | none =>
              (readStatement (c :: cs)).bind fun (s, cs) =>
                (afterLine? cs).bind fun cs =>
                  (readStatements n cs).map (s :: ·)

------------------------------------------------------------
-- Documents
------------------------------------------------------------

/- Drops a byte order mark. -/
def skipMark : List Char → List Char
  | '\ufeff' :: cs => cs
  | cs => cs

/- The table that a document describes. -/
def read (document : List Char) : Option Entries :=
  (readStatements (document.length + 1) (skipMark document)).bind
    ofStatements?

end Toml

end Redraw
