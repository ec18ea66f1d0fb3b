import SchemeCheck.Command.Program
set_option autoImplicit false

namespace SchemeCheck.Terminal

def contentOf (bytes : ByteArray) : FileContent :=
  match String.fromUTF8? bytes with
  | some s => .text s.toList
  | none => .notText

partial def addEntry (folder : Text) (d : Disk) (entry : IO.FS.DirEntry) : IO Disk := do
  let location := Disk.child folder entry.fileName.toList
  if ← entry.path.isDir then
    (← entry.path.readDir).foldlM (addEntry location) (d.addFolder location)
  else
    pure (d.addFile location (contentOf (← IO.FS.readBinFile entry.path)))

/-- The disk with what a path leads to, and with all a folder holds where `whole` asks for that. -/
def addPath (whole : Bool) (d : Disk) (path : Text) : IO Disk := do
  try
    let real ← IO.FS.realPath (String.ofList path)
    let location := real.toString.toList
    if ← real.isDir then
      let d := d.addFolder location
      if whole then (← real.readDir).foldlM (addEntry location) d else pure d
    else
      pure (d.addFile location (contentOf (← IO.FS.readBinFile real)))
  catch _ => pure d

def pathsOf (line : CommandLine) : List Text :=
  let files : List Text :=
    match line.task with
    | .generate file _ => [file]
    | .scope file _ _ => [file]
    | _ => []
  let folderOf (path : Text) : Text := Path.join path "..".toList
  files ++ line.path.toList ++ line.output.toList ++ (line.output.map folderOf).toList

def lookAround (env : Environment) (words : List Text) : IO Environment := do
  let disk ← addPath true (env.disk.addFolder env.folder) env.configHome
  let env := { env with disk }
  match CommandLine.read words with
  | .error _ => pure env
  | .ok line =>
    let configured := (env.config.toOption.bind (·.packages)).toList
    let disk ← (line.packages.toList ++ configured).foldlM (addPath true) env.disk
    let disk ← (pathsOf line).foldlM (addPath false) disk
    pure { env with disk }

def configHome : IO Text := do
  let home := (← IO.getEnv "HOME").getD ""
  let base := ((← IO.getEnv "XDG_CONFIG_HOME").filter (·.startsWith "/")).getD (home ++ "/.config")
  pure (base ++ "/color-scheme-unit/").toList

def apply (elapsed : Nat) : Change → IO Unit
  | .folder path => IO.FS.createDirAll (String.ofList path)
  | .file path content => IO.FS.writeFile (String.ofList path) (String.ofList (content elapsed))

end SchemeCheck.Terminal

open SchemeCheck SchemeCheck.Terminal in
def main (args : List String) : IO UInt32 := do
  let words := args.map String.toList
  let folder := (← IO.currentDir).toString.toList
  let env ← lookAround ⟨Disk.empty, folder, ← configHome, "linux".toList⟩ words
  let start ← IO.monoNanosNow
  let outcome ← IO.lazyPure fun _ => env.run words
  let elapsed := ((← IO.monoNanosNow) - start) / 1000
  outcome.changes.forM (apply elapsed)
  IO.print (String.ofList (outcome.stdout elapsed))
  IO.eprint (String.ofList outcome.stderr)
  pure (UInt32.ofNat outcome.code)
