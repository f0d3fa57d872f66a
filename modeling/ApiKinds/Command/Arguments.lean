/-
  The arguments of a command line.

  * `OptionSpec`: an option with its names and what it takes.
  * `Given.read`: options with their values, long or short, joined or apart; short
    flags may share a dash. Nothing else is admitted.
  * `Stop`: why no command is run.
-/
import ApiKinds.Text.Basic

namespace ApiKinds.Command

open Text

/-! ## Options -/

/-- What an option takes. -/
inductive OptionKind where
  /-- Nothing; it may be given once. -/
  | flag
  /-- A text; it may be given once. -/
  | text
  /-- A text that is not empty; it may be given once. -/
  | path
  /-- Texts with commas between them; it may be given any number of times. -/
  | list
  /-- It shows a help text. -/
  | help
  /-- It shows the version. -/
  | version
deriving DecidableEq

/-- An option with its long name and the letter that stands for it. -/
structure OptionSpec where
  long : String
  short : Option Char := none
  kind : OptionKind

/-- Why no command is run. -/
inductive Stop where
  | help
  | version
  | misuse
deriving DecidableEq, Repr

/-- Whether an argument is an option rather than a value. -/
def isOption (argument : String) : Bool :=
  hasPrefix "-" argument && argument != "-"

/-! ## Given options -/

/-- The options that are given, with their values, the last one first. -/
abbrev Given := List (String × String)

namespace Given

/-- The value of an option. -/
def value? (given : Given) (name : String) : Option String :=
  given.lookup name

def has (given : Given) (name : String) : Bool :=
  (given.value? name).isSome

/-- All values of a list. -/
def values (given : Given) (name : String) : List String :=
  (given.reverse.filter (·.1 == name)).flatMap fun entry => splitOn ',' entry.2

/-- Adds an option with its value. -/
def add (given : Given) (spec : OptionSpec) (value : String) : Except Stop Given :=
  if spec.kind != .list && given.has spec.long then .error .misuse
  else if spec.kind = .path ∧ value == "" then .error .misuse
  else .ok ((spec.long, value) :: given)

/-- Adds an option that takes no value. -/
def addFlag (given : Given) (spec : OptionSpec) : Except Stop Given :=
  match spec.kind with
  | .help => .error .help
  | .version => .error .version
  | _ => given.add spec ""

/-- Whether an option is followed by a value. -/
def takesValue (spec : OptionSpec) : Bool :=
  spec.kind = .text || spec.kind = .path || spec.kind = .list

/-- Adds an option whose value is the next argument. -/
def addNext (given : Given) (spec : OptionSpec) :
    List String → Except Stop (Given × List String)
  | [] => .error .misuse
  | value :: rest => do
    if isOption value then .error .misuse else return (← given.add spec value, rest)

/-- Adds the option with a long name, and the value behind an equals sign. -/
def addLong (specs : List OptionSpec) (given : Given) (name : String) (value : Option String)
    (rest : List String) : Except Stop (Given × List String) := do
  match specs.find? (·.long == name), value with
  | none, _ => .error .misuse
  | some spec, none =>
    if takesValue spec then given.addNext spec rest else return (← given.addFlag spec, rest)
  | some spec, some value =>
    if takesValue spec then return (← given.add spec value, rest) else .error .misuse

/-- Adds the options behind one dash, of which only the last can take a value: the
    characters behind it, without an equals sign, or the next argument. -/
def addShort (specs : List OptionSpec) (rest : List String) :
    Given → List Char → Except Stop (Given × List String)
  | given, [] => .ok (given, rest)
  | given, letter :: letters => do
    match specs.find? (·.short = some letter) with
    | none => .error .misuse
    | some spec =>
      if takesValue spec then
        match letters with
        | [] => given.addNext spec rest
        | '=' :: value => return (← given.add spec (.ofList value), rest)
        | value => return (← given.add spec (.ofList value), rest)
      else addShort specs rest (← given.addFlag spec) letters

/-- Adds the options that an argument begins. -/
def addOption (specs : List OptionSpec) (given : Given) (argument : String)
    (rest : List String) : Except Stop (Given × List String) :=
  match dropPrefix? "--" argument with
  | some body =>
    match splitOnce '=' body with
    | some (name, value) => addLong specs given name (some value) rest
    | none => addLong specs given body none rest
  | none => addShort specs rest given (argument.toList.drop 1)

/-- Reads options up to the first argument that is none; gives that with what is behind
    it. There is more fuel than arguments. -/
def readOptions (specs : List OptionSpec) :
    Nat → Given → List String → Except Stop (Given × List String)
  | 0, given, rest => .ok (given, rest)
  | _, given, [] => .ok (given, [])
  | fuel + 1, given, argument :: rest => do
    if argument == "--" || !isOption argument then return (given, argument :: rest)
    else
      let (given, rest) ← addOption specs given argument rest
      readOptions specs fuel given rest

/-- Reads options, behind which nothing but `--` may stand. -/
def read (specs : List OptionSpec) (arguments : List String) : Except Stop Given := do
  match ← readOptions specs (arguments.length + 1) [] arguments with
  | (given, []) | (given, ["--"]) => return given
  | _ => .error .misuse

end Given

end ApiKinds.Command
