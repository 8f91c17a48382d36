import ConfigTree.Cipher.Fernet
import ConfigTree.Program.Delivery
import Std.Time.DateTime.Timestamp

/-!
# The program

Reads what a run needs from the disk, and writes what it comes to.  The run itself asks
for nothing: it is done over with all files that have been asked for, until it asks for
no more.
-/

namespace ConfigTree.Main

/-- A failure of the system. -/
def faultOf : IO.Error → IoFault
  | .noFileOrDirectory _ code _ => if code == 20 then .notFolder else .missing
  | .permissionDenied _ _ _ => .denied
  | .inappropriateType _ code words =>
    if code == 20 then .notFolder else if code == 21 then .isFolder else .other words
  | e => .other (toString e)

/-- The text of a file. -/
def textOf (file : String) : IO (Except IoFault String) := do
  try
    match String.fromUTF8? (← IO.FS.readBinFile file) with
    | some text => return .ok text
    | none => return .error .notText
  catch e => return .error (faultOf e)

/-- What stands under a name. -/
def look (name : String) : IO DiskEntry := do
  try
    let file := (← IO.FS.realPath name).toString
    match ← textOf file with
    | .error .isFolder => return .folder file
    | text => return .file file text
  catch e => return .nothing (faultOf e)

/-- What has been looked up. -/
abbrev Known := Entries DiskEntry

/-- The disk as far as it is known. -/
def Known.disk (known : Known) : Disk := fun name => (known.get? name).getD (.nothing .missing)

/-- The same with some names looked up. -/
def Known.add (known : Known) (names : List String) : IO Known :=
  names.foldlM (fun known name => do
    if known.has name then return known else return known.insert name (← look name)) known

/-- The names that a report asks for. -/
def wanted (o : Options) (r : Report) : List String :=
  o.files ++ r.requests.flatMap fun q => Disk.candidates o.includes q.reference q.folder?

/-- The report of a run that finds all that it asks for. -/
partial def report (o : Options) (sealer : Sealer) (known : Known) : IO Report := do
  let r := o.report known.disk sealer .standard
  let more ← known.add (wanted o r)
  if more.length == known.length then return r else report o sealer more

/-- The cipher with a seed of its own, at the time of the run. -/
def sealer : IO Sealer := do
  let seed ← IO.getRandomBytes 32
  let now ← Std.Time.Timestamp.now
  return Cipher.fernet seed.toList now.toSecondsSinceUnixEpoch.val.toNat

/-- Lines go to the standard error stream, and the output to a file or the standard output. -/
def outlet : Outlet IO where
  tell line := IO.eprintln line
  write file? text := do
    try
      match file? with
      | none =>
        IO.print text
        (← IO.getStdout).flush
      | some file => IO.FS.writeFile file text
      return .ok ()
    catch e => return .error (faultOf e)

/-- Tells why a run fails. -/
def complain (words : String) : IO UInt32 := do
  IO.eprintln ("Error: " ++ words)
  return 1

/-- The code that a run ends with if its machine has stopped. -/
def haltCode : UInt32 := 101

/-- Does what options ask for. -/
def run (o : Options) : IO UInt32 := do
  let r ← report o (← sealer) []
  match ← r.deliver outlet o.output with
  | .ok () => return 0
  | .error (.program .halted) =>
    IO.eprintln ProgramFault.halted.message
    return haltCode
  | .error e => complain e.message

/-- Does what a command line asks for. -/
def start (arguments : List String) : IO UInt32 := do
  match Arguments.parse arguments with
  | .error .help =>
    IO.println ArgumentFault.help.message
    return 0
  | .error e =>
    IO.eprintln e.message
    return 2
  | .ok a =>
    let known ← Known.add [] [a.config.getD Settings.defaultFile]
    match Options.load a known.disk with
    | .error e => complain e.message
    | .ok o => run o

end ConfigTree.Main

/-- Resolves documents as the command line asks. -/
def main (arguments : List String) : IO UInt32 := ConfigTree.Main.start arguments
