import StreamMesh.Files.Tree

/-!
# Invocations

The arguments of the program are options of the program, a command, and options of the command.
An option is a letter after a dash or a word after two; its value follows it, or stands behind an
equals sign after a word. Letters may share a dash. Two dashes alone end the options.

## Main definitions

* `Flag` — an option that can be given
* `splitOptions` — the options among some arguments, and the other arguments
* `Invocation` — what is asked for
* `Invocation.ofArguments` — what some arguments ask for, or how they are misused
-/

namespace StreamMesh

/-- How arguments are misused. -/
inductive Misuse where
  | noArguments
  | unknownCommand
  | unknownOption
  /-- A value is missing, or there is one where none belongs. -/
  | badValue
  /-- The command is missing, or it is given more than its options. -/
  | badArguments
  /-- A path holds a null character. -/
  | nullCharacter
  deriving DecidableEq, Repr

/-- What is told about misused arguments. -/
def Misuse.message : Misuse → String
  | noArguments => "Name a command: compile or validate."
  | unknownCommand => "There is no such command."
  | unknownOption => "There is no such option."
  | badValue => "An option lacks its value, or takes none."
  | badArguments => "The command is missing, or has arguments that it does not take."
  | nullCharacter => "A path holds a null character."

/-- The options of the program and its commands. -/
inductive OptionName where
  | help
  | version
  | noColour
  | file
  | config
  | output
  | target
  deriving DecidableEq, Repr

/-- An option that can be given. -/
structure Flag where
  name : OptionName
  letter : Option Char
  word : String
  takesValue : Bool
  deriving DecidableEq, Repr

/-- An option with its value, which is empty where the option takes none. -/
structure Given where
  name : OptionName
  value : String
  deriving DecidableEq, Repr

/-- The value of an option that is the next argument. -/
def nextValue (name : OptionName) : List String → Except Misuse (Given × List String)
  | [] => .error .badValue
  | v :: rest => .ok (⟨name, v⟩, rest)

/-- The options of the letters after a dash, and the arguments left after them. -/
def takeLetters (flags : List Flag) :
    List Char → List String → Except Misuse (List Given × List String)
  | [], rest => .ok ([], rest)
  | c :: more, rest => match flags.find? fun f => f.letter == some c with
    | none => .error .unknownOption
    | some f =>
      if f.takesValue then
        if more = [] then (nextValue f.name rest).map fun (g, rest) => ([g], rest)
        else .ok ([⟨f.name, String.ofList more⟩], rest)
      else (takeLetters flags more rest).map fun (gs, rest) => (⟨f.name, ""⟩ :: gs, rest)

/-- The option of a word after two dashes, and the arguments left after it. -/
def takeWord (flags : List Flag) (arg : List Char) (rest : List String) :
    Except Misuse (List Given × List String) :=
  let word := String.ofList (arg.takeWhile (· != '='))
  match flags.find? fun f => f.word == word with
  | none => .error .unknownOption
  | some f =>
    let value :=
      if arg.contains '=' then some (String.ofList ((arg.dropWhile (· != '=')).drop 1)) else none
    match f.takesValue, value with
    | true, some v => .ok ([⟨f.name, v⟩], rest)
    | true, none => (nextValue f.name rest).map fun (g, rest) => ([g], rest)
    | false, some _ => .error .badValue
    | false, none => .ok ([⟨f.name, ""⟩], rest)

/-- The options among some arguments and the other arguments, as long as there is fuel. With
`mixed`, options may follow other arguments. -/
def splitFrom (flags : List Flag) (mixed : Bool) :
    Nat → List String → Except Misuse (List Given × List String)
  | 0, args => .ok ([], args)
  | _, [] => .ok ([], [])
  | fuel + 1, arg :: rest =>
    match arg.toList with
    | ['-', '-'] => .ok ([], rest)
    | '-' :: c :: more => do
      let (gs, rest) ←
        if c = '-' then takeWord flags ('-' :: c :: more) rest
        else takeLetters flags (c :: more) rest
      let (others, left) ← splitFrom flags mixed fuel rest
      return (gs ++ others, left)
    | _ =>
      if mixed then (splitFrom flags mixed fuel rest).map fun (gs, left) => (gs, arg :: left)
      else .ok ([], arg :: rest)

/-- The options among some arguments, and the other arguments. -/
def splitOptions (flags : List Flag) (mixed : Bool) (args : List String) :
    Except Misuse (List Given × List String) :=
  splitFrom flags mixed args.length args

/-- What a compilation is asked to read and write, as spelled. -/
structure CompileRequest where
  file : String
  config : String
  /-- Whether the configuration is asked for, and not only looked for. -/
  configGiven : Bool
  output : String
  target : String
  deriving DecidableEq, Repr

/-- What is asked for. -/
inductive Invocation where
  | help
  | version
  | compile (request : CompileRequest)
  | validate (file : String)
  deriving DecidableEq, Repr

/-- The names of the commands, in rising order. -/
def commandNames : List String := ["compile", "validate"]

/-- The command of a name. -/
def findCommand? (name : String) : Option String := commandNames.find? (· == name)

namespace Invocation

/-- The option that asks for help. -/
def helpFlag : Flag := ⟨.help, none, "--help", false⟩

/-- The options of the program. -/
def programFlags : List Flag :=
  [⟨.version, none, "--version", false⟩, ⟨.noColour, none, "--no-color", false⟩, helpFlag]

/-- The option for the pipeline. -/
def fileFlag : Flag := ⟨.file, some 'f', "--file", true⟩

/-- The options of the command that compiles. -/
def compileFlags : List Flag :=
  [fileFlag, ⟨.config, some 'c', "--config", true⟩, ⟨.output, some 'o', "--output", true⟩,
    ⟨.target, some 't', "--target", true⟩, helpFlag]

/-- The options of the command that validates. -/
def validateFlags : List Flag := [fileFlag, helpFlag]

/-- The last value that an option is given. -/
def value? (given : List Given) (name : OptionName) : Option String :=
  (given.reverse.find? fun g => g.name == name).map Given.value

/-- The last value that an option is given, or else another. -/
def valueOr (given : List Given) (name : OptionName) (standard : String) : String :=
  (value? given name).getD standard

/-- What options of the program ask for at once, whatever follows. -/
def atOnce? (given : List Given) : Option Invocation :=
  given.findSome? fun g => match g.name with
    | .help => some help
    | .version => some version
    | _ => none

/-- The request for a compilation of some options. -/
def compileOf (given : List Given) : Invocation :=
  compile ⟨valueOr given .file "./pipeline.yaml", valueOr given .config "./deployment.yaml",
    (value? given .config).isSome, valueOr given .output "./build", valueOr given .target "dapr"⟩

/-- Whether an option with a path holds a null character. -/
def hasNullPath (given : List Given) : Bool :=
  given.any fun g => g.name != .target && Tree.holdsNull g.value

/-- What the arguments after a command ask for. -/
def ofCommand (flags : List Flag) (request : List Given → Invocation) (args : List String) :
    Except Misuse Invocation := do
  let (given, others) ← splitOptions flags true args
  match atOnce? given with
  | some i => return i
  | none =>
    -- Values are looked at before it is asked whether arguments are left over.
    if hasNullPath given then throw .nullCharacter
    if others.isEmpty then return request given else throw .badArguments

/-- What arguments ask for whose first names no command. If it looks like an option, they are read
as options of the program. -/
def ofUnknown (name : String) (args : List String) : Except Misuse Invocation :=
  if name.toList.head? = some '-' then do
    let (given, _) ← splitOptions programFlags false args
    match atOnce? given with
    | some i => return i
    | none => throw .unknownCommand
  else .error .unknownCommand

/-- What some arguments ask for, or how they are misused. -/
def ofArguments (args : List String) : Except Misuse Invocation :=
  if args = [] then .error .noArguments
  else do
    let (given, others) ← splitOptions programFlags false args
    match atOnce? given with
    | some i => return i
    | none => match others with
      | [] => throw .badArguments
      | name :: rest =>
        if name = "compile" then ofCommand compileFlags compileOf rest
        else if name = "validate" then
          ofCommand validateFlags (fun given => validate (valueOr given .file "./pipeline.yaml"))
            rest
        else ofUnknown name (name :: rest)

end Invocation

end StreamMesh
