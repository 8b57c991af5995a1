import StylesheetBuild.Path.Basic

/-!
# Command line arguments

The words after the program name select a command and its arguments. The options `-v`, `--verbose`
and `--log-format` may stand before or after the name of the command and change nothing here. After
`--` every word is an operand.
-/

namespace StylesheetBuild.Cli

structure CompileArguments where
  files : List Path
  banner : Option String
  /-- Whether to compile files of any extension. -/
  anyExtension : Bool
deriving DecidableEq

inductive Invocation where
  | compile (arguments : CompileArguments)
  | initSettings
  /-- Shows the global settings, or the options that apply to a file. -/
  | displaySettings (file : Option Path)
deriving DecidableEq

/-- Why words select nothing to run. -/
inductive UsageError where
  | help
  | version
  | noArguments
  | missingSubcommand
  | missingOperand
  | unknownSubcommand
  | unknownArgument
  | invalidValue
  | repeatedArgument
  | surplusValue
deriving DecidableEq

namespace UsageError

/-- Asking for help or for the version is no failure. -/
def isRequest : UsageError → Bool
  | help | version => true
  | _ => false

def message : UsageError → String
  | help => "usage: stylepress [options] <compile|config> ..."
  | version => "stylepress"
  | noArguments | missingSubcommand => "a subcommand is required"
  | missingOperand => "no files were given"
  | unknownSubcommand => "unrecognized subcommand"
  | unknownArgument => "unexpected argument"
  | invalidValue => "missing or invalid value"
  | repeatedArgument => "an argument cannot be used twice"
  | surplusValue => "unexpected value"

end UsageError

inductive Argument where
  | verbose
  | logFormat
  | help
  | version
  | banner
  | anyExtension
  | file
  | sources
deriving DecidableEq

namespace Argument

def takesValue : Argument → Bool
  | logFormat | banner | file | sources => true
  | verbose | help | version | anyExtension => false

def mayRepeat : Argument → Bool
  | verbose | sources => true
  | _ => false

def accepts : Argument → String → Bool
  | logFormat, value => value == "text" || value == "json"
  | file, value | sources, value => !value.isEmpty
  | _, _ => true

end Argument

/-- The program and its subcommands, each of which has arguments of its own. -/
inductive Level where
  | program
  | compile
  | config
  | configInit
  | configDisplay
  | help
deriving DecidableEq

namespace Level

def subcommand? : Level → String → Option Level
  | program, "compile" => some compile
  | program, "config" => some config
  | program, "help" => some help
  | config, "init" => some configInit
  | config, "show" => some configDisplay
  | config, "help" => some help
  | _, _ => none

def hasSubcommands : Level → Bool
  | program | config => true
  | _ => false

def long? : Level → String → Option Argument
  | _, "verbose" => some .verbose
  | _, "log-format" => some .logFormat
  | _, "help" => some .help
  | program, "version" => some .version
  | compile, "banner" => some .banner
  | compile, "any-extension" => some .anyExtension
  | configDisplay, "file" => some .file
  | _, _ => none

def short? : Level → Char → Option Argument
  | _, 'v' => some .verbose
  | _, 'h' => some .help
  | program, 'V' => some .version
  | _, _ => none

def takesOperands : Level → Bool
  | compile => true
  | _ => false

/-- Why a level without operands refuses one. -/
def refuseOperand (l : Level) (isEscaped : Bool) (word : String) : UsageError :=
  if !l.hasSubcommands || isEscaped && (l.subcommand? word).isSome then .unknownArgument
  else .unknownSubcommand

/-- What asking for help on a subcommand comes to. -/
def helpOn : Level → List String → UsageError
  | _, [] => .help
  | l, word :: words =>
    match l.subcommand? word with
    | none => .unknownSubcommand
    | some sub => sub.helpOn words

end Level

/-- The arguments of one level as far as they have been read. The values of an option are held back
until the next argument, so that a missing value shows only then. -/
structure Reading where
  given : List (Argument × List String) := []
  pending : Option (Argument × List String) := none
  onlyOperands : Bool := false

namespace Reading

def has (r : Reading) (a : Argument) : Bool :=
  r.given.any (·.1 == a)

def valuesOf (r : Reading) (a : Argument) : List String :=
  (r.given.filter (·.1 == a)).flatMap Prod.snd

def record (r : Reading) (a : Argument) (values : List String) : Except UsageError Reading :=
  if !a.mayRepeat && r.has a then .error .repeatedArgument
  else if values.all a.accepts then .ok { r with given := r.given ++ [(a, values)] }
  else .error .invalidValue

/-- Takes in the values held back. -/
def settle (r : Reading) : Except UsageError Reading :=
  match r.pending with
  | none => .ok r
  | some (_, []) => .error .invalidValue
  | some (a, values) => ({ r with pending := none } : Reading).record a values

def awaitsValue (r : Reading) : Bool :=
  match r.pending with
  | some (_, []) => true
  | _ => false

def hold (r : Reading) (a : Argument) (values : List String) : Except UsageError Reading := do
  return { ← r.settle with pending := some (a, values) }

def flag (r : Reading) (a : Argument) : Except UsageError Reading := do
  let r ← r.settle
  match a with
  | .help => throw .help
  | .version => throw .version
  | a => r.record a []

def splitValue (cs : List Char) : String × Option String :=
  let name := cs.takeWhile (· != '=')
  match cs.drop name.length with
  | [] => (String.ofList name, none)
  | _ :: value => (String.ofList name, some (String.ofList value))

def long (r : Reading) (l : Level) (cs : List Char) : Except UsageError Reading :=
  let (name, value) := splitValue cs
  match l.long? name, value with
  | none, _ => .error .unknownArgument
  | some a, none => if a.takesValue then r.hold a [] else r.flag a
  | some a, some value =>
    if a.takesValue then do (← r.settle).record a [value] else .error .surplusValue

def short (l : Level) (r : Reading) (c : Char) : Except UsageError Reading :=
  match l.short? c with
  | none => .error .unknownArgument
  | some a => r.flag a

def operand (r : Reading) (l : Level) (word : String) : Except UsageError Reading :=
  if l.takesOperands then
    match r.pending with
    | some (.sources, words) => .ok { r with pending := some (.sources, words ++ [word]) }
    | _ => r.hold .sources [word]
  else .error (l.refuseOperand r.onlyOperands word)

def word (r : Reading) (l : Level) (word : String) : Except UsageError Reading :=
  if r.onlyOperands then r.operand l word
  else match word.toList with
    | ['-', '-'] => .ok { r with onlyOperands := true }
    | '-' :: '-' :: cs => r.long l cs
    | '-' :: c :: cs => (c :: cs).foldlM (short l) r
    | _ =>
      match r.pending with
      | some (a, []) => .ok { r with pending := some (a, [word]) }
      | _ => r.operand l word

/-- A word that must be a value or an operand names no subcommand. -/
def subcommand? (r : Reading) (l : Level) (word : String) : Option Level :=
  if r.onlyOperands || r.awaitsValue then none else l.subcommand? word

def compileArguments (r : Reading) : CompileArguments where
  files := (r.valuesOf .sources).map Path.mk
  banner := (r.valuesOf .banner).head?
  anyExtension := r.has .anyExtension

/-- What a level selects whose words have all been read. -/
def finish (r : Reading) (l : Level) : Except UsageError Invocation :=
  match l with
  | .compile =>
    if (r.valuesOf .sources).isEmpty then .error .missingOperand
    else .ok (.compile r.compileArguments)
  | .configInit => .ok .initSettings
  | .configDisplay => .ok (.displaySettings ((r.valuesOf .file).head?.map Path.mk))
  | _ => .error (if r.given.isEmpty then .noArguments else .missingSubcommand)

end Reading

namespace Invocation

/-- The words of a subcommand are read before the last value of the level above is checked. -/
def read (l : Level) (r : Reading) : List String → Except UsageError Invocation
  | [] => do (← r.settle).finish l
  | word :: words =>
    match r.subcommand? l word with
    | some .help => .error (l.helpOn words)
    | some sub => do
      let invocation ← read sub {} words
      let _ ← r.settle
      pure invocation
    | none => do
      let r ← r.word l word
      read l r words

def ofWords (words : List String) : Except UsageError Invocation :=
  read .program {} words

end Invocation

end StylesheetBuild.Cli
