import Redraw.Program

/-
  The command line: `[settings file]`.

  Runs the program on the standard output for as long as its
  settings say.
-/

namespace Redraw

namespace CommandLine

/- Time between two turns, in milliseconds. -/
def turnTime : Nat := 20

/- Write bytes at once. -/
def writeOut (bytes : List UInt8) : IO Unit := do
  unless bytes.isEmpty do
    let out ← IO.getStdout
    out.write (ByteArray.mk bytes.toArray)
    out.flush

/- The characters of a file, if it can be read. -/
def readSettings (file : String) : IO (Option (List Char)) :=
  try
    return some (← IO.FS.readFile file).toList
  catch _ => return none

/- Take turns until the time is over or a write has failed. -/
partial def takeTurns
    (settings : Settings)
    (start finish drawn : Nat)
    (p : Program) : IO Program := do
  let now ← IO.monoMsNow
  if finish ≤ now || p.failure.isSome then return p
  let due := settings.frameInterval ≤ now - drawn
  let (bytes, p) := p.turn none ((now - start + 50) / 100) due
  writeOut bytes
  IO.sleep (UInt32.ofNat turnTime)
  takeTurns settings start finish (if bytes.isEmpty then drawn else now) p

/- Run with settings. -/
def runProgram
    (program : ProgramSettings)
    (settings : Settings) : IO UInt32 := do
  let (setup, p) := Program.start settings none
  writeOut setup
  let start ← IO.monoMsNow
  let p ← takeTurns settings start (start + 1000 * program.seconds) 0 p
  writeOut p.stop.1
  match p.failure with
  | none => return 0
  | some e =>
      IO.eprintln ("writing to the terminal: " ++ e.message)
      return 1

end CommandLine

end Redraw

open Redraw CommandLine

/- The program's entry. -/
def main (args : List String) : IO UInt32 := do
  let file := args.head?
  let name := file.getD ""
  let document ←
    match file with
    | none => pure none
    | some path => do pure (some (← readSettings path))
  let names := ["COLORTERM", "TERM", "TERM_PROGRAM"]
  let values ← names.mapM fun n => do return (n, ← IO.getEnv n)
  let detected := Capabilities.detect fun n => (values.lookup n).join
  let settings := do
    let program ← ProgramSettings.load document
    return (program, ← program.drawing detected)
  match settings with
  | .ok (program, drawing) => runProgram program drawing
  | .error e =>
      IO.eprintln ("Error: " ++ e.message name)
      return 1
