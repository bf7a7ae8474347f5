import DataFormula.Command.Run

/-!
# The program

Reads the standard input if the command line needs it, and prints what
`DataFormula.Command.run` says.
-/

/-- Runs the command line. -/
def main (arguments : List String) : IO UInt32 := do
  let stdin ←
    if DataFormula.Command.readsInput arguments then
      let input ← IO.getStdin
      input.readBinToEnd
    else pure ByteArray.empty
  let exit := DataFormula.Command.run arguments stdin
  let stdout ← IO.getStdout
  stdout.putStr exit.stdout
  stdout.flush
  let stderr ← IO.getStderr
  stderr.putStr exit.stderr
  return exit.code.toUInt32
