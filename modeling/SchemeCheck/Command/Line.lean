import SchemeCheck.Number.Decimal
import SchemeCheck.Text.Basic
set_option autoImplicit false

namespace SchemeCheck

structure OptionSpec where
  long : Text
  short : Option Char
  accepts : Option (Text → Bool)

structure ArgumentSpec where
  options : List OptionSpec
  maxArguments : Nat
  commands : List Text

inductive Interruption where
  | help
  | version
  | invalid
  deriving DecidableEq

structure Given where
  options : List (Text × Text)
  arguments : List Text
  command : Option (Text × List Text)

namespace Given

def none : Given := ⟨[], [], .none⟩

/-- The value of an option; a flag has an empty one. -/
def option? (g : Given) (long : String) : Option Text := g.options.lookup long.toList

def hasFlag (g : Given) (long : String) : Bool := (g.option? long).isSome

end Given

namespace ArgumentSpec

def addOption (g : Given) (o : OptionSpec) (value : Text) : Except Interruption Given :=
  if o.long = "help".toList then .error .help
  else if o.long = "version".toList then .error .version
  else if (g.options.lookup o.long).isSome ∨ o.accepts.any (fun accepts => !accepts value) then
    .error .invalid
  else .ok { g with options := g.options ++ [(o.long, value)] }

def addArgument (spec : ArgumentSpec) (g : Given) (t : Text) : Except Interruption Given :=
  if g.arguments.length < spec.maxArguments ∧ t ≠ [] then
    .ok { g with arguments := g.arguments ++ [t] }
  else .error .invalid

def isValue (t : Text) : Bool := t.head? != some '-' || t = ['-']

def addDetached (g : Given) (o : OptionSpec) (words : List Text) :
    Except Interruption (Given × List Text) :=
  match o.accepts, words with
  | .none, _ => (addOption g o []).map (·, words)
  | some _, value :: rest =>
    if isValue value then (addOption g o value).map (·, rest) else .error .invalid
  | some _, [] => .error .invalid

def addLong (spec : ArgumentSpec) (g : Given) (t : Text) (words : List Text) :
    Except Interruption (Given × List Text) :=
  match spec.options.find? fun o => o.long = t.takeWhile (· != '=') with
  | .none => .error .invalid
  | some o =>
    match t.dropWhile (· != '=') with
    | [] => addDetached g o words
    | _ :: value =>
      if o.accepts.isSome then (addOption g o value).map (·, words) else .error .invalid

def addShort (spec : ArgumentSpec) (words : List Text) :
    Given → Text → Except Interruption (Given × List Text)
  | g, [] => .ok (g, words)
  | g, c :: t =>
    match spec.options.find? fun o => o.short = some c with
    | .none => .error .invalid
    | some o =>
      if o.accepts.isNone then (addOption g o []).bind fun g => addShort spec words g t
      else
        match t with
        | [] => addDetached g o words
        | '=' :: value => (addOption g o value).map (·, words)
        | value => (addOption g o value).map (·, words)

/-- Reads the words after some that have been read; `fuel` is their number. -/
def readFrom (spec : ArgumentSpec) : (fuel : Nat) → Given → List Text → Except Interruption Given
  | _, g, [] => .ok g
  | 0, g, _ => .ok g
  | fuel + 1, g, word :: words =>
    if word = ['-', '-'] then words.foldlM spec.addArgument g
    else if spec.commands.contains word then .ok { g with command := some (word, words) }
    else
      match word with
      | '-' :: '-' :: t => (spec.addLong g t words).bind fun (g, rest) => readFrom spec fuel g rest
      | '-' :: c :: t =>
        (spec.addShort words g (c :: t)).bind fun (g, rest) => readFrom spec fuel g rest
      | _ => (spec.addArgument g word).bind fun g => readFrom spec fuel g words

def read (spec : ArgumentSpec) (words : List Text) : Except Interruption Given :=
  spec.readFrom words.length Given.none words

end ArgumentSpec

/-- What a command line asks for; lines and columns count from one. -/
inductive Task where
  | test
  | init (force : Bool)
  | generate (file : Text) (line : Nat)
  | scope (file : Text) (line column : Nat)
  deriving DecidableEq

structure CommandLine where
  task : Task
  packages : Option Text
  build : Option Nat
  debug : Bool
  coverage : Bool
  output : Option Text
  path : Option Text
  deriving DecidableEq

namespace CommandLine

def readBuild? (t : Text) : Option Nat :=
  match t with
  | '-' :: t => (Decimal.read? t).filter (· == 0)
  | t => Decimal.readUpTo? Decimal.maxUnsigned32 t

def readPosition? (t : Text) : Option Nat :=
  (Decimal.readUpTo? Decimal.maxUnsigned64 t).filter (0 < ·)

def flag (long : String) (short : Option Char) : OptionSpec := ⟨long.toList, short, none⟩

def pathOption (long : String) (short : Option Char) : OptionSpec :=
  ⟨long.toList, short, some (!·.isEmpty)⟩

def positionOption (long : String) : OptionSpec :=
  ⟨long.toList, none, some fun t => (readPosition? t).isSome⟩

def sharedOptions : List OptionSpec :=
  [pathOption "packages" none, ⟨"build".toList, none, some fun t => (readBuild? t).isSome⟩,
    flag "help" (some 'h')]

def topSpec : ArgumentSpec where
  options :=
    sharedOptions ++
      [flag "version" (some 'V'), flag "debug" none, flag "coverage" none,
        pathOption "output" (some 'o')]
  maxArguments := 1
  commands := ["init", "generate", "scope", "help"].map String.toList

def initSpec : ArgumentSpec := ⟨sharedOptions ++ [flag "force" none], 0, []⟩

def generateSpec : ArgumentSpec := ⟨sharedOptions ++ [positionOption "line"], 1, []⟩

def scopeSpec : ArgumentSpec :=
  ⟨sharedOptions ++ [positionOption "line", positionOption "column"], 1, []⟩

def readTask (name : Text) (words : List Text) : Except Interruption (Task × Given) :=
  if name = "init".toList then do
    let given ← initSpec.read words
    pure (.init (given.hasFlag "force"), given)
  else if name = "generate".toList then do
    let given ← generateSpec.read words
    match given.arguments, (given.option? "line").bind readPosition? with
    | [file], some line => pure (.generate file line, given)
    | _, _ => .error .invalid
  else if name = "scope".toList then do
    let given ← scopeSpec.read words
    match given.arguments, (given.option? "line").bind readPosition?,
        (given.option? "column").bind readPosition? with
    | [file], some line, some column => pure (.scope file line column, given)
    | _, _, _ => .error .invalid
  else .error .help

/-- Reads a command line. What is given after a command wins over what is given before it. -/
def read (words : List Text) : Except Interruption CommandLine := do
  let given ← topSpec.read words
  let (task, inner) ←
    match given.command with
    | none => pure (Task.test, given)
    | some (name, words) => readTask name words
  let option? (long : String) : Option Text := inner.option? long <|> given.option? long
  pure
    { task
      packages := option? "packages"
      build := (option? "build").bind readBuild?
      debug := given.hasFlag "debug"
      coverage := given.hasFlag "coverage"
      output := given.option? "output"
      path := given.arguments.head? }

end CommandLine
end SchemeCheck
