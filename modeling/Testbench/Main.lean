import Testbench.Harness
/-!
# Programs

A program is a list of classes; what it runs of them is up to its arguments and the environment.
-/
namespace Testbench

/-- The paths of the directories above a path, the topmost first. -/
def Path.above (p : Path) : List Path :=
  let bytes := p.data.toList
  ((List.range bytes.length).filter fun i => bytes[i]? == some 47 && i != 0).map fun i =>
    ⟨(bytes.take i).toArray⟩

/-- Whether something on the host is a directory. -/
def isDirectory (p : Path) : IO Bool :=
  try (← IO.FS.realPath p.shown).isDir
  catch _ => return false

/-- The part of the host's files that a results file can depend on. -/
def filesAround (p : Path) : IO Files := do
  let above ← p.above.filterM isDirectory
  let files := above.foldl Files.makeDirectory .empty
  return if ← isDirectory p then files.makeDirectory p else files

/-- Stores on the host what was written to a path, if anything was. -/
def store (p : Path) (files : Files) : IO Unit :=
  match files.read p with
  | .ok content => IO.FS.writeBinFile p.shown content
  | .error _ => return

/-- Runs classes as the arguments and the environment ask; the answer is the exit status. -/
def program (classes : List TestClass) (args : List String) : IO UInt32 := do
  let program := (← IO.appPath).toString
  let environment := (← IO.getEnv "RUST_LOG").map String.toUTF8
  let arguments := (program :: args).map String.toUTF8
  let path := (Options.ofArguments arguments).toOption.bind Options.resultsFile
  let files ← match path with
    | some p => filesAround p
    | none => pure Files.empty
  let exit := Harness.runProgram classes arguments environment ⟨files, true⟩
  IO.print exit.console
  IO.eprint exit.errors
  if let some p := path then store p exit.host.files
  return exit.status.toUInt32

end Testbench
