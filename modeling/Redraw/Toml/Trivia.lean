/-
  What stands between the tokens of a settings document:
  blanks, line ends and comments.
-/

namespace Redraw

namespace Toml

/- Blanks within a line. -/
def isBlank (c : Char) : Bool :=
  c = ' ' || c = '\t'

/- Drops blanks. -/
def skipBlanks (cs : List Char) : List Char :=
  cs.dropWhile isBlank

/- Characters of texts and comments: no controls but the tab. -/
def isTextual (c : Char) : Bool :=
  c = '\t' || (' ' ≤ c && c ≠ '\x7F')

/- What follows a line end. -/
def afterNewline? : List Char → Option (List Char)
  | '\n' :: cs => some cs
  | '\r' :: '\n' :: cs => some cs
  | _ => none

/- Drops a comment, up to the line end. -/
def skipComment : List Char → List Char
  | '#' :: cs => cs.dropWhile isTextual
  | cs => cs

/- What follows the rest of a line with nothing on it. -/
def afterLine? (cs : List Char) : Option (List Char) :=
  match skipComment (skipBlanks cs) with
  | [] => some []
  | cs => afterNewline? cs

/- Drops blanks, line ends and comments. -/
def skipLines (inComment : Bool) : List Char → List Char
  | [] => []
  | '\n' :: cs => skipLines false cs
  | '\r' :: '\n' :: cs => skipLines false cs
  | c :: cs =>
      if inComment then
        if isTextual c then skipLines true cs else c :: cs
      else if isBlank c then skipLines false cs
      else if c = '#' then skipLines true cs
      else c :: cs

end Toml

end Redraw
