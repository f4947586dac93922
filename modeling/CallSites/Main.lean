/-
  CallSites.Main

  The program: it looks at the one path that its arguments name, and prints what the run yields.
-/
import CallSites.CommandLine.Run
import CallSites.Yaml.Reader

open CallSites CallSites.CommandLine

/-- What stands at a path of the file system. A directory can be opened but not read. -/
private def entryAt (path : String) : IO Entry := do
  let opened ← (IO.FS.Handle.mk path .read).toBaseIO
  match opened with
  | .error (.noFileOrDirectory ..) | .error (.inappropriateType ..) => return .missing
  | .error (.permissionDenied ..) => return .unreadable
  | .error error => return .file (.error error.toString)
  | .ok handle =>
    match ← handle.readBinToEnd.toBaseIO with
    | .ok bytes => return .file (.ok bytes.toList)
    | .error (.inappropriateType ..) => return .directory
    | .error error => return .file (.error error.toString)

def main (arguments : List String) : IO UInt32 := do
  let entry ← match configPath? arguments with
    | some path => entryAt path
    | none => pure .missing
  let output := run ⟨fun _ => entry, Yaml.reader, Exception.report⟩ arguments
  IO.print output.stdout
  IO.eprint output.stderr
  return output.exitCode.toUInt32
