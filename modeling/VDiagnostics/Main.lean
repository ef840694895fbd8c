import VDiagnostics.CommandLine.Program

/-! The program itself. The machine that it works on is described by one object on standard input, and
the screen shows how it looks after the first run. -/

namespace VDiagnostics

/-- The text of the screen after its first run. -/
def screenText (world : World) (opening : CommandLine.Opening) : Text :=
  match (world.session opening.settings opening.workspace).result with
  | .error fault => fault.message ++ ['\n']
  | .ok session =>
    let opened := Screen.enter session opening.document
    match opened.result with
    | .error fault => fault.message ++ ['\n']
    | .ok () =>
      let board := opened.state.board
      board.bar.text ++ '\n' :: View.Report.render board.rows

end VDiagnostics

open VDiagnostics in
def main (words : List String) : IO UInt32 := do
  let description ← (← IO.getStdin).readToEnd
  -- Nothing in a description is nested more deeply than the description is long.
  let room := description.length
  let world := World.ofValue room ((Json.read room description.toList).toOption.getD .null)
  let ending := CommandLine.run world (words.map String.toList) .closed
  IO.print (String.ofList ending.stdout)
  IO.eprint (String.ofList ending.stderr)
  match ending.opening with
  | some opening => IO.print (String.ofList (screenText world opening))
  | none => pure ()
  match ending.code with
  | .ok code => pure (UInt32.ofNat code)
  | .error fault =>
    IO.eprintln (String.ofList fault.message)
    pure 1
