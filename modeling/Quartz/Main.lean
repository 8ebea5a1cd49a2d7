import Quartz.Application

/-!
# `Quartz.Main`: the command line

Looks up what the application needs to know about its surroundings, runs it,
and writes what it has to say. Everything that is decided is decided by
`Application.run`.
-/

set_option autoImplicit false

namespace Quartz

namespace CommandLine

/-- Bytes as a block to write. -/
def block (b : Bytes) : ByteArray := ⟨b.toArray⟩

/-- The name of a path, if it is valid text. -/
def hostName? (p : Bytes) : Option String := String.fromUTF8? (block p)

/-- Every file and directory below a directory of the disk, with paths
relative to it. -/
partial def gather (root : String) (dir : Bytes) : IO (List (Bytes × Bytes) × List Bytes) := do
  let here := (← IO.currentDir) / root
  let place := (hostName? dir).elim here (here / ·)
  let mut files := []
  let mut directories := []
  for entry in ← place.readDir do
    let path := Volume.inside dir (utf8 entry.fileName)
    if ← entry.path.isDir then
      let inner ← gather root path
      files := files ++ inner.1
      directories := path :: directories ++ inner.2
    else
      let contents ← IO.FS.readBinFile entry.path
      files := (path, contents.data.toList) :: files
  return (files, directories)

/-- What a path leads to on the disk. -/
def follow (p : Bytes) : IO (Except Volume.Problem Volume.Node) := do
  match hostName? p with
  | none => return .error .missing
  | some name =>
    let place := (← IO.currentDir) / name
    if !(← place.pathExists) then return .error .missing
    else if ← place.isDir then
      let (files, directories) ← gather name Path.here
      return .ok (.directory (.ofEntries .disk files directories))
    else return .ok (.file (← IO.FS.readBinFile place).data.toList)

/-- Follows paths ahead. Other paths lead to nothing. -/
def followAll (paths : List Bytes) : IO (Bytes → Except Volume.Problem Volume.Node) := do
  let known ← (paths.filter (· ≠ [])).mapM fun p => return (p, ← follow p)
  return fun p => (known.lookup p).getD (.error .missing)

/-- Everything that is still to be read from a stream. -/
partial def readAll (stream : IO.FS.Stream) (before : ByteArray) : IO ByteArray := do
  let more ← stream.read 4096
  if more.isEmpty then return before else readAll stream (before ++ more)

/-- The value of a variable of the environment; an unset one is empty. -/
def environmentText (name : String) : IO Bytes := return utf8 ((← IO.getEnv name).getD "")

/-- The path of the settings file that a command line names. -/
def settingsPath (words : List Bytes) : Bytes :=
  match Options.readFlags {} (Options.arrange words) with
  | .ok (flags, _) => flags.config
  | .error _ => []

/-- Runs the application on the surroundings of the process. -/
def run (words : List Bytes) : IO Application.Outcome := do
  let environment : Options.Environment :=
    ⟨← environmentText "CRYSTAL_LOG_LEVEL", ← environmentText "CRYSTAL_ENCODING"⟩
  let homeName ← environmentText "HOME"
  let home := if homeName = [] then none else some homeName
  let settings := settingsPath words
  let lookup ← followAll [settings]
  let nothing : Application.Surroundings := { environment, lookup, home }
  match Options.read nothing.libraries (Application.contents nothing) environment words with
  | .error _ => return Application.run nothing words
  | .ok o =>
    if o.help then return Application.run nothing words
    let prompted := o.interactive || o.directory = []
    let history := if prompted then home.map (Path.join · History.fileName) else none
    let lookup ← followAll ([settings, o.directory] ++ history.toList)
    let input ← if prompted then readAll (← IO.getStdin) .empty else pure .empty
    return Application.run { environment, lookup, input := input.data.toList, home } words

/-- Writes what the application has to say, and gives the exit code. -/
def finish (o : Application.Outcome) : IO UInt32 := do
  let out ← IO.getStdout
  let err ← IO.getStderr
  out.write (block o.output)
  out.flush
  err.write (block o.journal)
  if let some (path, contents) := o.history then
    if let some name := hostName? path then
      IO.FS.writeBinFile ((← IO.currentDir) / name) (block contents)
  match o.trouble with
  | none => return 0
  | some t =>
    err.write (block (utf8 "Error: " ++ t.message ++ [Bytes.newline]))
    return 1

end CommandLine

end Quartz

/-- The entry point: runs the application on the words of the command line. -/
def main (words : List String) : IO UInt32 := do
  Quartz.CommandLine.finish (← Quartz.CommandLine.run (words.map Quartz.utf8))
