import ClassDiagram.CommandLine.Options

/-!
# Running the command line

What the program prints and writes for its arguments.
-/
namespace ClassDiagram.CommandLine
open Text

def programName : Text := "hpp2plantuml".toList

def programVersion : Text := "0.8.6".toList

def usage (program : Text) : Text :=
  "usage: ".toList ++ program ++ " [-h] -i HEADER-FILE [-o FILE] [-d] [-t JINJA-FILE]\n".toList
    ++ List.replicate (program.length + 8) ' ' ++ "[--version]\n".toList

def optionHelp : Text := ofLines [
  "",
  "hpp2plantuml tool.",
  "",
  "options:",
  "  -h, --help            show this help message and exit",
  "  -i HEADER-FILE, --input-file HEADER-FILE",
  "                        input file (must be quoted when using wildcards)",
  "  -o FILE, --output-file FILE",
  "                        output file",
  "  -d, --enable-dependency",
  "                        Extract dependency relationships from method arguments",
  "  -t JINJA-FILE, --template-file JINJA-FILE",
  "                        path to jinja2 template file",
  "  --version             show program's version number and exit"]

/-- Carries out an order on a file system. An option without a path fails when its path is needed:
that of the template first, then the inputs, and the output when the text is there. -/
def carryOut (s : Surroundings) (fs : FileSystem) (order : Order) : Report :=
  let failed (f : Fault) : Report := { outcome := .error f, files := fs }
  match order.template.getD (some []), order.inputs.mapM id with
  | none, _ => failed .noPath
  | _, none => failed .noPath
  | some _, some inputs =>
    let settings : Settings := ⟨order.withDependencies, order.template.join⟩
    match order.output with
    | none => s.draw fs settings inputs none
    | some (some path) => s.draw fs settings inputs (some path)
    | some none =>
      match s.drawing fs settings inputs with
      | .error f => failed f
      | .ok _ => failed .noPath

def run (program : Text) (s : Surroundings) (fs : FileSystem) (arguments : List Text) : Report :=
  match parse arguments with
  | .error e =>
    { outcome := .ok 2
      stderr := usage program ++ program ++ ": error: ".toList ++ e.message ++ ['\n']
      files := fs }
  | .ok .help => { outcome := .ok 0, stdout := usage program ++ optionHelp, files := fs }
  | .ok .version =>
    { outcome := .ok 0, stdout := program ++ ' ' :: programVersion ++ ['\n'], files := fs }
  | .ok (.draw order) => carryOut s fs order

end ClassDiagram.CommandLine
