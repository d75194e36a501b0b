/-
  What can go wrong, by cause.

  Key definitions include:
    * `Size`
    * `SinkError`: why a sink failed
    * `Error`
    * `Error.message`
    * `Error.isBenign`, `Error.isRejection`
-/

namespace Redraw

/- The extent of a screen. -/
structure Size where
  rows : Nat
  cols : Nat
  deriving DecidableEq, Repr

namespace Size

/- Rows, a cross and columns. -/
def describe (s : Size) : String :=
  toString s.rows ++ "x" ++ toString s.cols

/- The number of cells. -/
def area (s : Size) : Nat :=
  s.rows * s.cols

end Size

/- Why a sink refused bytes. -/
inductive SinkError
  | wentAway
  | interrupted
  | tookNothing
  | other (text : String)
  deriving DecidableEq, Repr

namespace SinkError

/- The cause in words. -/
def message : SinkError → String
  | .wentAway => "terminal went away"
  | .interrupted => "signal"
  | .tookNothing => "failed to write whole buffer"
  | .other text => text

end SinkError

/- Why an operation was refused or failed. -/
inductive Error
  | invalidColorIndex (index : Nat)
  | dimensionMismatch (expected actual : Size)
  | invalidWideCharPairing (row col : Nat)
  | staleSnapshot (seq latest : Nat)
  | outputWriteFailure (cause : SinkError)
  | shutDown
  | failed
  | shutdownTimeout
  | config (text : String)
  | io (cause : SinkError)
  deriving DecidableEq, Repr

namespace Error

/- The error in words. -/
def message : Error → String
  | .invalidColorIndex i =>
      "invalid color index: " ++ toString i
        ++ " (palette has 256 entries)"
  | .dimensionMismatch expected actual =>
      "dimension mismatch: expected " ++ expected.describe
        ++ ", got " ++ actual.describe
  | .invalidWideCharPairing row col =>
      "invalid wide character pairing at row " ++ toString row
        ++ ", col " ++ toString col
  | .staleSnapshot seq latest =>
      "stale snapshot: seq " ++ toString seq
        ++ " is not newer than " ++ toString latest
  | .outputWriteFailure cause =>
      "output write failure: " ++ cause.message
  | .shutDown => "render thread is shut down"
  | .failed => "render thread failed; reset required"
  | .shutdownTimeout =>
      "render thread did not stop within the shutdown timeout"
  | .config text => "config error: " ++ text
  | .io cause => "I/O error: " ++ cause.message

/- Part of normal operation, to be ignored by callers. -/
def isBenign : Error → Bool
  | .staleSnapshot _ _ => true
  | _ => false

/- The snapshot is at fault, not the sink or the worker. -/
def isRejection : Error → Bool
  | .invalidColorIndex _ => true
  | .dimensionMismatch _ _ => true
  | .invalidWideCharPairing _ _ => true
  | _ => false

end Error

end Redraw
