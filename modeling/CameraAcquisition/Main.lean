import CameraAcquisition.CommandLine.Program
import CameraAcquisition.CommandLine.LogFilter

/-!
# The `dhyana` program

Reads the command line, creates the log file, warns about the log filter setting, reads the
settings file, runs the program, and prints what it printed. Everything but the files and the printing is in
`CommandLine.parse` and `CommandLine.execute`.
-/

section

open CameraAcquisition.CommandLine

/-- The file problem of a failed file operation. -/
def fileProblem (e : IO.Error) : FileProblem :=
  match e with
  | .noFileOrDirectory .. => .notFound
  | .inappropriateType _ 20 _ => .notDirectory
  | .inappropriateType .. => .isDirectory
  | e => .other (toString e)

/-- Runs the program on the command line. -/
def main (args : List String) : IO UInt32 := do
  match parse args with
  | .error (.show text) =>
    IO.print text
    return 0
  | .error (.reject text) =>
    IO.eprint text
    return 2
  | .ok inv =>
    if let some path := inv.logFile then
      let failed ← try
          IO.FS.writeFile path ""
          pure none
        catch e => pure (some (fileProblem e))
      if let some p := failed then
        IO.eprint (errorReport [p.message])
        return 1
    IO.eprint (filterWarnings (← IO.getEnv "RUST_LOG"))
    let contents ← match inv.config with
      | some path =>
        try
          let text ← IO.FS.readFile path
          pure (some (Except.ok text))
        catch e => pure (some (Except.error (fileProblem e)))
      | none => pure none
    let reply := execute inv contents
    IO.print reply.stdout
    IO.eprint reply.stderr
    return reply.status.toUInt32

end
