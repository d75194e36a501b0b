import Redraw.Toml.Value

/-
  Building tables from statements.

  A key is given once.  A table under a header can be opened
  once, and only if nothing but paths has named it before; a
  dotted key reaches into tables that dotted keys have made.
  Tables between braces are closed.

  Key definitions include:
    * `Entries.within`: change the table that a path leads to
    * `Entries.assign`: give a key its value
    * `Draft.add`, `ofStatements?`
-/

namespace Redraw

namespace Toml

------------------------------------------------------------
-- Entries
------------------------------------------------------------

namespace Entries

/- Sets a key, in place if it is there already. -/
def put
    (k : Key)
    (v : Value) :
    Entries → Entries
  | [] => [(k, v)]
  | (k', v') :: es =>
      if k' = k then (k, v) :: es else (k', v') :: put k v es

/-
  Changes the table that a path leads to, making tables on
  the way.  A list of tables leads to its last member.  A
  dotted path does not lead into a table with a header.
-/
def within
    (dotted : Bool) :
    List Key →
    (Origin → Entries → Option Entries) →
    Origin → Entries → Option Entries
  | [], change, origin, es => change origin es
  | k :: ks, change, _, es =>
      match es.lookup k with
      | none =>
          let origin := if dotted then .dotted else .path
          (within dotted ks change origin []).map fun inner =>
            put k (.table origin inner) es
      | some (.table origin inner) =>
          if origin = .inline || (dotted && origin = .header) then
            none
          else
            (within dotted ks change origin inner).map fun inner =>
              put k (.table origin inner) es
      | some (.tables ts) =>
          match ts.getLast? with
          | none => none
          | some inner =>
              (within dotted ks change .header inner).map fun inner =>
                put k (.tables (ts.dropLast ++ [inner])) es
      | some _ => none

/-
  Gives a key its value.  The table that a dotted path leads
  to must have been made by dotted keys.
-/
def assign
    (path : List Key)
    (k : Key)
    (v : Value)
    (es : Entries) : Option Entries :=
  within true path
    (fun origin inner =>
      if (path.isEmpty || origin = .dotted)
          && (inner.lookup k).isNone then
        some (put k v inner)
      else none)
    .header es

/- Opens the table of a header. -/
def openTable
    (path : List Key)
    (k : Key)
    (es : Entries) : Option Entries :=
  within false path
    (fun _ inner =>
      match inner.lookup k with
      | none => some (put k (.table .header []) inner)
      | some (.table .path named) =>
          some (put k (.table .header named) inner)
      | some _ => none)
    .header es

/- Opens the next table of a list. -/
def openNext
    (path : List Key)
    (k : Key)
    (es : Entries) : Option Entries :=
  within false path
    (fun _ inner =>
      match inner.lookup k with
      | none => some (put k (.tables [[]]) inner)
      | some (.tables ts) =>
          some (put k (.tables (ts ++ [[]])) inner)
      | some _ => none)
    .header es

end Entries

------------------------------------------------------------
-- Documents
------------------------------------------------------------

/- A document so far, and the table that is open in it. -/
structure Draft where
  place : List Key := []
  entries : Entries := []

namespace Draft

/- Adds what one statement says. -/
def add
    (d : Draft) :
    Statement → Option Draft
  | .assign path k v =>
      (Entries.within false d.place
        (fun _ => Entries.assign path k v) .header
        d.entries).map fun es => { d with entries := es }
  | .openTable path k =>
      (d.entries.openTable path k).map fun es =>
        ⟨path ++ [k], es⟩
  | .openNext path k =>
      (d.entries.openNext path k).map fun es =>
        ⟨path ++ [k], es⟩

/- Adds statements in order. -/
def addAll
    (d : Draft) :
    List Statement → Option Draft
  | [] => some d
  | s :: ss => (d.add s).bind fun d => d.addAll ss

end Draft

/- The table that a document describes, if it is consistent. -/
def ofStatements? (ss : List Statement) : Option Entries :=
  (Draft.addAll {} ss).map Draft.entries

end Toml

end Redraw
