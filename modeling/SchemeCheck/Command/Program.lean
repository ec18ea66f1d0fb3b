import SchemeCheck.Caret.Position
import SchemeCheck.Command.Line
import SchemeCheck.Command.Outcome
import SchemeCheck.Disk.Host
import SchemeCheck.Suite.Run
set_option autoImplicit false

/-!
The program as a function: from a command line and a disk to what it prints, how it exits, and how it
changes the disk. Only the time a run takes is left open.
-/

namespace SchemeCheck

structure Environment where
  disk : Disk
  folder : Text
  /-- The path of the folder of configuration files, with a slash at its end. -/
  configHome : Text
  platform : Text

namespace Environment

def configPath (env : Environment) : Text := Path.join env.configHome "config.toml".toList

def config (env : Environment) : Except Stop Config :=
  if env.disk.reaches env.folder env.configPath then
    match env.disk.read env.folder env.configPath with
    | .ok content => (Config.ofText content).mapError Stop.ofConfig
    | .error _ => .error (.ofConfig .unreadable)
  else .ok Config.default

structure Settings where
  packages : Text
  build : Nat
  debug : Bool
  coverage : Bool

def settings (env : Environment) (line : CommandLine) : Except Stop Settings := do
  let config ← env.config
  match line.packages <|> config.packages with
  | none =>
    .error
      ⟨"No packages directory configured. Use --packages or set packages_path in ".toList ++
        env.configPath, none⟩
  | some packages =>
    if env.disk.hasFolder env.folder packages then
      pure
        { packages
          build := line.build.getD config.build
          debug := line.debug || config.debug
          coverage := line.coverage || config.coverage }
    else .error ⟨"Packages directory not found: ".toList ++ packages, none⟩

def diskHost (env : Environment) (s : Settings) : DiskHost :=
  DiskHost.ofStore ⟨env.disk, env.folder, s.packages⟩ s.build env.platform

def readFixture (env : Environment) (store : Store) (file : Text) : Except Stop (Text × Text) :=
  match env.disk.read env.folder file with
  | .ok content => .ok ((store.resourceOf? file).getD file, content)
  | .error fault => .error ⟨"Failed to read ".toList ++ file, some fault.reason⟩

def onFixture {α : Type} (env : Environment) (line : CommandLine) (file : Text)
    (body : Host → (fixture content : Text) → Traced (Except FixtureError α))
    (print : α → Text) : Except Stop Outcome := do
  let host := env.diskHost (← env.settings line)
  let (fixture, content) ← env.readFixture host.store file
  let a ← (body host.toHost fixture content).value.mapError Stop.ofFixture
  pure (.printed (print a))

/-- Runs a suite and prints its report, or writes it to a file, which is empty during the run. -/
def runSuite (env : Environment) (line : CommandLine) (s : Settings) (host : DiskHost)
    (suite : Suite) : Except Stop Outcome := do
  let run (host : DiskHost) : SuiteRun :=
    (suite.run host.toHost ⟨s.debug, s.coverage, line.output.isSome⟩).value
  let code (r : SuiteRun) : Nat := if r.summary.isSuccess then 0 else 1
  match line.output with
  | none =>
    let done := run host
    pure ⟨code done, done.report, [], []⟩
  | some path =>
    match env.disk.write env.folder path [] with
    | .error fault => .error ⟨"Failed to create ".toList ++ path, some fault.reason⟩
    | .ok disk =>
      let done := run { host with store := { host.store with disk } }
      pure ⟨code done, fun _ => [], [], [.file path done.report]⟩

def test (env : Environment) (line : CommandLine) : Except Stop Outcome := do
  let s ← env.settings line
  let host := env.diskHost s
  let target := line.path.getD (Disk.pathOf env.folder)
  match (Suite.discover host.toHost target).value with
  | some suite => env.runSuite line s host suite
  | none =>
    pure
      { code := 1
        stdout := fun _ => []
        stderr :=
          Text.line ("No color scheme tests found in ".toList ++ target) ++
            Text.line
              ("Make sure the path is inside the packages directory: ".toList ++ s.packages)
        changes := [] }

def defaultConfig : Text :=
  ("# Directory holding the Packages/ resource tree.\n" ++
    "# packages_path = \"/path/to/Sublime Text/Packages\"\n\n" ++
    "# Build number assertions with a \x60build>=N\x60 filter are checked against.\n" ++
    "build = 4200\n\n" ++ "# Print the test list and per-test color scheme and syntax.\n" ++
    "debug = false\n\n" ++ "# Print a coverage report after a successful run.\n" ++
    "coverage = false\n").toList

def writeConfig (env : Environment) (force : Bool) : Outcome :=
  let done : Text := "\nInitialization complete!\n".toList
  let isNew := !env.disk.reaches env.folder env.configHome
  let opening : Text :=
    if isNew then
      Text.line ("Creating configuration directory: ".toList ++ env.configHome)
    else []
  let created := if isNew then env.disk.createFolders env.folder env.configHome else .ok env.disk
  let folder : List Change := if isNew then [.folder env.configHome] else []
  match created with
  | .error fault =>
    { code := 1
      stdout := fun _ => opening
      stderr := Stop.render ⟨"Failed to create config directory".toList, some fault.reason⟩
      changes := [] }
  | .ok disk =>
    if disk.reaches env.folder env.configPath && !force then
      .printed
        (opening ++
          "Skipping config.toml (already exists, use --force to overwrite)\n".toList ++ done)
    else
      let writing := opening ++ "Writing config.toml...\n".toList
      match disk.write env.folder env.configPath defaultConfig with
      | .ok _ =>
        ⟨0, fun _ => writing ++ done, [], folder ++ [.file env.configPath fun _ => defaultConfig]⟩
      | .error fault =>
        { code := 1
          stdout := fun _ => writing
          stderr := Stop.render ⟨"Failed to write config.toml".toList, some fault.reason⟩
          changes := folder }

def perform (env : Environment) (line : CommandLine) : Except Stop Outcome :=
  match line.task with
  | .test => env.test line
  | .init force => pure (env.writeConfig force)
  | .generate file row =>
    env.onFixture line file
      (fun host fixture content => host.generateAssertions fixture content (row - 1)) Text.line
  | .scope file row column =>
    env.onFixture line file
      (fun host fixture content => host.inspectScope fixture content (row - 1) (column - 1))
      ScopeInfo.render

def programName : Text := "color-scheme-unit".toList

def usage : Text :=
  Text.line ("Usage: ".toList ++ programName ++ " [OPTIONS] [PATH] [COMMAND]".toList)

def run (env : Environment) (words : List Text) : Outcome :=
  match CommandLine.read words with
  | .error .help => .printed usage
  | .error .version => .printed (Text.line (programName ++ ' ' :: version))
  | .error .invalid => ⟨2, fun _ => [], usage, []⟩
  | .ok line =>
    match env.perform line with
    | .ok outcome => outcome
    | .error s => .stopped s

end Environment
end SchemeCheck
