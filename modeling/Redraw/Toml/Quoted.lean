import Redraw.Text.Hex
import Redraw.Toml.Trivia

/-
  Texts in quotes.

  Between double quotes a backslash starts an escape, between
  single quotes it stands for itself.  Three quotes open a
  text of several lines; a line end right after them is left
  out, and a text of several lines may end in quotes of its
  own.
-/

namespace Redraw

namespace Toml

------------------------------------------------------------
-- Escapes
------------------------------------------------------------

/- The character that an escape of one letter stands for. -/
def letterEscape? (c : Char) : Option Char :=
  if c = 'b' then some '\x08'
  else if c = 't' then some '\t'
  else if c = 'n' then some '\n'
  else if c = 'f' then some '\x0C'
  else if c = 'r' then some '\r'
  else if c = '"' then some '"'
  else if c = '\\' then some '\\'
  else none

/- The character that hexadecimal digits name. -/
def charOfHex? (ds : List Char) : Option Char :=
  (ds.mapM hexValue?).bind fun ns =>
    let n := ns.foldl (fun n d => n * 16 + d) 0
    if n.isValidChar then some (Char.ofNat n) else none

/-
  The character of an escape after its backslash, and what
  follows.
-/
def escape? :
    List Char → Option (Char × List Char)
  | 'u' :: a :: b :: c :: d :: cs =>
      (charOfHex? [a, b, c, d]).map fun x => (x, cs)
  | 'U' :: a :: b :: c :: d :: e :: f :: g :: h :: cs =>
      (charOfHex? [a, b, c, d, e, f, g, h]).map fun x => (x, cs)
  | c :: cs => (letterEscape? c).map fun x => (x, cs)
  | [] => none

------------------------------------------------------------
-- One Line
------------------------------------------------------------

/-
  The text up to a closing double quote, and what follows.
  The first argument bounds the number of characters.
-/
def readEscaped :
    Nat → List Char → Option (List Char × List Char)
  | 0, _ => none
  | _ + 1, [] => none
  | _ + 1, '"' :: cs => some ([], cs)
  | n + 1, '\\' :: cs =>
      (escape? cs).bind fun (c, cs) =>
        (readEscaped n cs).map fun (text, cs) => (c :: text, cs)
  | n + 1, c :: cs =>
      if isTextual c then
        (readEscaped n cs).map fun (text, cs) => (c :: text, cs)
      else none

/- The text up to a closing single quote, and what follows. -/
def readLiteral (cs : List Char) : Option (List Char × List Char) :=
  let text := cs.takeWhile fun c => isTextual c && c ≠ '\x27'
  match cs.drop text.length with
  | '\x27' :: cs => some (text, cs)
  | _ => none

------------------------------------------------------------
-- Several Lines
------------------------------------------------------------

/- Drops the line end right after three opening quotes. -/
def skipFirstNewline (cs : List Char) : List Char :=
  (afterNewline? cs).getD cs

/-
  What follows three closing quotes, and how many more quotes
  before them belong to the text.
-/
def closing?
    (quote : Char) :
    List Char → Option (Nat × List Char)
  | a :: b :: c :: cs =>
      if a = quote ∧ b = quote ∧ c = quote then
        match cs with
        | d :: e :: rest =>
            if d = quote ∧ e = quote then some (2, rest)
            else if d = quote then some (1, e :: rest)
            else some (0, cs)
        | [d] => if d = quote then some (1, []) else some (0, cs)
        | [] => some (0, [])
      else none
  | _ => none

/-
  The text up to three closing quotes, and what follows.  A
  backslash at the end of a line joins it to the next text.
  The first argument bounds the number of characters.
-/
def readLines
    (quote : Char) :
    Nat → List Char → Option (List Char × List Char)
  | 0, _ => none
  | n + 1, cs =>
      match closing? quote cs, cs with
      | some (more, rest), _ =>
          some (List.replicate more quote, rest)
      | none, [] => none
      | none, c :: rest =>
          match afterNewline? cs with
          | some rest =>
              (readLines quote n rest).map fun (text, cs) =>
                ('\n' :: text, cs)
          | none =>
              if c = '\\' ∧ quote = '"' then
                match afterNewline? (skipBlanks rest) with
                | some rest =>
                    readLines quote n (skipWhite rest)
                | none =>
                    (escape? rest).bind fun (x, rest) =>
                      (readLines quote n rest).map fun (text, cs) =>
                        (x :: text, cs)
              else if isTextual c then
                (readLines quote n rest).map fun (text, cs) =>
                  (c :: text, cs)
              else none
where
  /- Drops blanks and line ends. -/
  skipWhite : List Char → List Char
    | '\n' :: cs => skipWhite cs
    | '\r' :: '\n' :: cs => skipWhite cs
    | c :: cs => if isBlank c then skipWhite cs else c :: cs
    | [] => []

/- A text in quotes of either kind, and what follows. -/
def readText : List Char → Option (List Char × List Char)
  | '"' :: '"' :: '"' :: cs =>
      readLines '"' (cs.length + 1) (skipFirstNewline cs)
  | '\x27' :: '\x27' :: '\x27' :: cs =>
      readLines '\x27' (cs.length + 1) (skipFirstNewline cs)
  | '"' :: cs => readEscaped (cs.length + 1) cs
  | '\x27' :: cs => readLiteral cs
  | _ => none

end Toml

end Redraw
