import NativeBindings.Command.Run

/-!
# The command-line program

Reads the files of the working directory and the project files above it into a tree, runs the
command over it with the program's arguments, writes the output file it produced, prints its
standard output, and its messages on standard error, and exits with its exit code. Headers
outside the working directory are not read.
-/

namespace NativeBindings.Program

/-- The tree path of a file name. -/
def treePath (name : String) : Files.Path := Files.Path.resolve Files.Path.root name

/-- Reads one file into the list, if it can be read as text. -/
def readInto (acc : Array (Files.Path × String)) (name : String) : IO (Array (Files.Path × String)) := do
  try
    let text ← IO.FS.readFile name
    return acc.push (treePath name, text)
  catch _ =>
    return acc

/-- The files under the working directory, and the project files of the directories above it. -/
def gatherFiles : IO Files.Tree := do
  let cwd ← IO.currentDir
  let mut acc : Array (Files.Path × String) := #[]
  for p in ← cwd.walkDir do
    if !(← p.isDir) then
      acc ← readInto acc p.toString
  let here := treePath cwd.toString
  for n in List.range here.parts.length do
    let file := (⟨here.parts.take n⟩ : Files.Path).child Config.projectFileName
    acc ← readInto acc file.render
  return { files := acc.toList, cwd := here }

end NativeBindings.Program

/-- Runs the command line. -/
def main (args : List String) : IO UInt32 := do
  let tree ← NativeBindings.Program.gatherFiles
  let out := NativeBindings.Command.run tree args
  match out.written with
  | some (path, text) => IO.FS.writeFile path.render text
  | none => pure ()
  IO.print out.stdout
  for m in out.messages do IO.eprintln m
  match out.exception with
  | some e => IO.eprintln ("Error: " ++ e)
  | none => pure ()
  return out.exitCode.toUInt32
