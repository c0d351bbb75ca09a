/-
The arguments of the command line. A command stands among options; the
path of the manifest may be given before or after it, every other option
only after its command. An option has a long spelling, `--out DIR` or
`--out=DIR`, and perhaps a short one, `-o DIR`, `-oDIR` or `-o=DIR`. What
begins with a hyphen is never the value of the option before it. An option
given twice in one place, an unknown one, and one that is missing are
wrong usage.
-/
namespace DataBinding.CommandLine

inductive Command
  /-- Report the diagnostics. -/
  | check
  /-- Print what the analysis found, about one type or all. -/
  | inspect (typeName : Option String)
  /-- Write the generated files into a directory. -/
  | generate (out : String)
  deriving DecidableEq

inductive Request
  | version
  | run (manifest : String) (command : Command)
  deriving DecidableEq

/-- The options that have a value. -/
inductive Setting
  | manifest
  | out
  | typeName
  deriving DecidableEq

namespace Setting

def long : Setting → String
  | .manifest => "manifest"
  | .out => "out"
  | .typeName => "type"

def short? : Setting → Option Char
  | .manifest => some 'm'
  | .out => some 'o'
  | .typeName => none

/-- A path is never empty; a type name may be. -/
def accepts (setting : Setting) (value : String) : Bool :=
  setting = .typeName || value != ""

end Setting

/-- The options given in one place, with their values. -/
abbrev Settings := List (Setting × String)

-- ============================================================ one option

/-- One argument, as it is spelled. -/
inductive Spelling
  | word (text : String)
  | long (name : String) (value : Option String)
  | short (letter : Char) (rest : List Char)
  /-- Two hyphens: no options follow. -/
  | stop

def spellingOf (arg : String) : Spelling :=
  match arg.toList with
  | ['-', '-'] => .stop
  | '-' :: '-' :: cs =>
    let name := cs.takeWhile (· != '=')
    match cs.drop name.length with
    | _ :: value => .long (String.ofList name) (some (String.ofList value))
    | [] => .long (String.ofList name) none
  | '-' :: letter :: rest => .short letter rest
  | _ => .word arg

/-- The value of an option: attached to it, or the next argument. -/
def valueOf (attached : Option String) (rest : List String) : Option (String × List String) :=
  match attached with
  | some value => some (value, rest)
  | none =>
    match rest with
    | next :: more =>
      match spellingOf next with
      | .word value => some (value, more)
      | _ => none
    | [] => none

/-- What is attached to a short option; an equals sign is no part of it. -/
def attachedTo : List Char → Option String
  | [] => none
  | '=' :: value => some (String.ofList value)
  | value => some (String.ofList value)

/-- The option that is spelled, of those allowed here, and its attached
value. -/
def settingOf (allowed : List Setting) : Spelling → Option (Setting × Option String)
  | .long name value => (allowed.find? (·.long == name)).map (·, value)
  | .short letter rest => (allowed.find? (·.short? == some letter)).map (·, attachedTo rest)
  | _ => none

/-- An option with its value, and the arguments after it. -/
def settingAt (allowed : List Setting) (spelling : Spelling) (rest : List String) :
    Option ((Setting × String) × List String) :=
  match settingOf allowed spelling with
  | none => none
  | some (setting, attached) =>
    match valueOf attached rest with
    | some (value, more) =>
      if setting.accepts value then some ((setting, value), more) else none
    | none => none

/-- Whether the version is asked for. -/
def asksVersion : Spelling → Bool
  | .long "version" none => true
  | .short 'V' _ => true
  | _ => false

-- ============================================================ a sequence

/-- The options of a command; nothing else may follow it. The number
bounds the arguments. -/
def settingsAfter (allowed : List Setting) : Nat → Settings → List String → Option Settings
  | _, found, [] => some found
  | 0, _, _ => none
  | bound + 1, found, arg :: rest =>
    match spellingOf arg with
    | .stop => if rest.isEmpty then some found else none
    | spelling =>
      match settingAt allowed spelling rest with
      | some ((setting, value), more) =>
        if (found.lookup setting).isSome then none
        else settingsAfter allowed bound ((setting, value) :: found) more
      | none => none

/-- The command of a name, with its own options. -/
def commandOf (name : String) (settings : Settings) : Option Command :=
  match name with
  | "check" => some .check
  | "inspect" => some (.inspect (settings.lookup .typeName))
  | "generate" => (settings.lookup .out).map .generate
  | _ => none

/-- The options that a command has. -/
def settingsOf (name : String) : List Setting :=
  match name with
  | "inspect" => [.manifest, .typeName]
  | "generate" => [.manifest, .out]
  | _ => [.manifest]

/-- The manifest where none is named. -/
def manifestFile : String := "bindery.toml"

/-- The path of the manifest: the one named last, be it among the
arguments or in the environment. -/
def manifestPath (inner outer : Settings) (environment : Option String) : String :=
  (inner.lookup .manifest <|> outer.lookup .manifest <|> environment).getD manifestFile

/-- Options, then a command and its options. -/
def requestAfter (environment : Option String) :
    Nat → Settings → List String → Option Request
  | 0, _, _ => none
  | _, _, [] => none
  | bound + 1, outer, arg :: rest =>
    match spellingOf arg with
    | .word name => do
      let inner ← settingsAfter (settingsOf name) rest.length [] rest
      let command ← commandOf name inner
      if environment = some "" then none
      else return .run (manifestPath inner outer environment) command
    | spelling =>
      if asksVersion spelling then some .version
      else
        match settingAt [.manifest] spelling rest with
        | some ((setting, value), more) =>
          if (outer.lookup setting).isSome then none
          else requestAfter environment bound ((setting, value) :: outer) more
        | none => none

/-- What the arguments ask for, given the manifest that the environment
names; nothing when the usage is wrong. -/
def request? (environment : Option String) (args : List String) : Option Request :=
  requestAfter environment (args.length + 1) [] args

end DataBinding.CommandLine
