import ClassDiagram.CommandLine.Run
import ClassDiagram.Exchange.Header

/-!
# The program

The arguments say what to draw. The files to draw from come as one bundle on the standard input: a
JSON record of headers by id and of files by path. What the run writes goes to the real file system.
-/
namespace ClassDiagram.Program

partial def readAll (stream : IO.FS.Stream) (seen : String) : IO String := do
  let line ← stream.getLine
  if line.isEmpty then return seen else readAll stream (seen ++ line)

/-- The bundle that arguments need: none unless something is drawn. -/
def bundleFor (arguments : List Text) : IO Exchange.Value :=
  match CommandLine.parse arguments with
  | .ok (.draw ..) => do
    return (Exchange.Value.parse (← readAll (← IO.getStdin) "").toList).getD .null
  | _ => return .null

def surroundings (bundle : Exchange.Value) : Surroundings where
  parse _ t := Exchange.parse "the bundle has no declarations of this file".toList bundle t
  keepsBase := false
  order := List.eraseDups
  order_perm _ := .refl _
  showOther _ _ _ := .error "the template needs more of the template language".toList
  refusal _ _ := none

end ClassDiagram.Program

open ClassDiagram in
def main (args : List String) : IO UInt32 := do
  let arguments := args.map String.toList
  let bundle ← Program.bundleFor arguments
  let files := Exchange.fileSystemOf bundle
  let report :=
    CommandLine.run CommandLine.programName (Program.surroundings bundle) files arguments
  IO.print (String.ofList report.stdout)
  IO.eprint (String.ofList report.stderr)
  for (path, t) in report.files.changedFiles files do
    IO.FS.writeFile (String.ofList path) (String.ofList t)
  match report.outcome with
  | .ok status => return status.toUInt32
  | .error f =>
    IO.eprintln (String.ofList f.message)
    return 1
