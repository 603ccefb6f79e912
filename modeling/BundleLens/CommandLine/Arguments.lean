/-
Module: BundleLens.CommandLine.Arguments
Layer: Command line
Purpose: Reading the arguments of the program. Options may stand in front of the command or behind it;
  an option that stands behind it wins. Options other than `--path` and `--verbose` may be given once on
  each side.
Imports: BundleLens.Project.Load
Main exports: Command, Invocation, Request, Request.parse
-/
import BundleLens.Project.Load

namespace BundleLens

/-- The form in which reports are printed. -/
inductive OutputFormat where
  | text
  | json
deriving DecidableEq, Repr, Inhabited

/-- The commands. -/
inductive CommandName where
  | exports
  | classes
  | wrapper
deriving DecidableEq, Repr, Inhabited

/-- The command with a name. -/
def CommandName.ofString? : String → Option CommandName
  | "exports" => some .exports
  | "classes" => some .classes
  | "wrapper" => some .wrapper
  | _ => none

/-- What is asked for: the report on the exports of a file, with or without typings, on its classes, all
    or with one name, or on its wrapper. -/
inductive Command where
  | exports (typings : Bool)
  | classes (name : Option String)
  | wrapper
deriving DecidableEq, Repr, Inhabited

/-- A command with the file it is about. -/
structure Invocation where
  command : Command
  input : String
  options : LoadOptions
  format : OutputFormat
deriving DecidableEq, Repr, Inhabited

/-- What the arguments ask for. -/
inductive Request where
  | run (invocation : Invocation)
  | help
  | version
  /-- The arguments are not understood. -/
  | misuse
deriving DecidableEq, Repr, Inhabited

/-! ### Options -/

/-- The options of one side of the command. -/
structure Given where
  settingsFile : Option String
  root : Option String
  typings : Option String
  paths : List Mapping
  format : Option OutputFormat
  quiet : Bool
  /-- Only `classes` has a name. -/
  name : Option String
  /-- Only `exports` has typings. -/
  withTypings : Bool
  inputs : List String
deriving DecidableEq, Repr, Inhabited

/-- At the start nothing is given. -/
def Given.empty : Given := ⟨none, none, none, [], none, false, none, false, []⟩

/-- Options that take a value. -/
inductive ValueOption where
  | config
  | root
  | typings
  | path
  | format
  | name
deriving DecidableEq, Repr, Inhabited

/-- Options without a value. -/
inductive Switch where
  | verbose
  | quiet
  | typings
  | help
  | version
deriving DecidableEq, Repr, Inhabited

/-- The option with a value that a long name stands for, in front of the command (none) or behind it. -/
def ValueOption.ofString? (command : Option CommandName) : String → Option ValueOption
  | "config" => some .config
  | "root" => some .root
  | "typings" => some .typings
  | "path" => some .path
  | "format" => some .format
  | "name" => if command == some .classes then some .name else none
  | _ => none

/-- The option without a value that a long name stands for. -/
def Switch.ofString? (command : Option CommandName) : String → Option Switch
  | "verbose" => some .verbose
  | "quiet" => some .quiet
  | "help" => some .help
  | "version" => some .version
  | "dts" => if command == some .exports then some .typings else none
  | _ => none

/-- The option that a single letter stands for. -/
def Switch.ofLetter? : Char → Option Switch
  | 'v' => some .verbose
  | 'q' => some .quiet
  | 'h' => some .help
  | 'V' => some .version
  | _ => none

/-- A value that is given once and is not empty. -/
def once? (old : Option String) (value : String) : Option (Option String) :=
  if old.isSome || value.isEmpty then none else some (some value)

/-- The form with a name. -/
def OutputFormat.ofString? : String → Option OutputFormat
  | "text" => some .text
  | "json" => some .json
  | _ => none

/-- Notes the value of an option. None if the value is refused or the option is given twice. -/
def Given.set? (g : Given) (option : ValueOption) (value : String) : Option Given :=
  match option with
  | .config => (once? g.settingsFile value).map ({ g with settingsFile := · })
  | .root => (once? g.root value).map ({ g with root := · })
  | .typings => (once? g.typings value).map ({ g with typings := · })
  | .path =>
    match Mapping.parse value with
    | .ok mapping => some { g with paths := g.paths ++ [mapping] }
    | .error _ => none
  | .format =>
    match g.format, OutputFormat.ofString? value with
    | none, some format => some { g with format := some format }
    | _, _ => none
  | .name => if g.name.isSome then none else some { g with name := some value }

/-- What follows from an option without a value. -/
inductive SwitchEffect where
  | continue (given : Given)
  | stop (request : Request)

/-- Notes an option without a value. Asking for help or the version ends reading. -/
def Given.switch (g : Given) : Switch → SwitchEffect
  | .verbose => .continue g
  | .quiet => if g.quiet then .stop .misuse else .continue { g with quiet := true }
  | .typings => if g.withTypings then .stop .misuse else .continue { g with withTypings := true }
  | .help => .stop .help
  | .version => .stop .version

/-- Notes the options of a group of letters. -/
def Given.letters (g : Given) : List Char → SwitchEffect
  | [] => .continue g
  | c :: rest =>
    match Switch.ofLetter? c with
    | none => .stop .misuse
    | some switch =>
      match g.switch switch with
      | .continue g => g.letters rest
      | .stop request => .stop request

/-! ### Arguments -/

/-- How an argument looks. -/
inductive Argument where
  /-- `--` -/
  | separator
  /-- `--name` or `--name=value` -/
  | long (name : String) (value : Option String)
  /-- `-abc` -/
  | letters (letters : List Char)
  | plain (text : String)
deriving DecidableEq, Repr, Inhabited

/-- How an argument looks. A single dash is plain. -/
def Argument.ofString (text : String) : Argument :=
  match text.toList with
  | ['-', '-'] => .separator
  | '-' :: '-' :: rest =>
    match splitEquals rest with
    | some (name, value) => .long (String.ofList name) (some (String.ofList value))
    | none => .long (String.ofList rest) none
  | '-' :: c :: rest => .letters (c :: rest)
  | _ => .plain text

/-- Whether an argument can be the value of the option in front of it. -/
def isValue (text : String) : Bool :=
  match Argument.ofString text with
  | .plain _ => true
  | _ => false

/-- What reading one side of the command gives. -/
inductive SideResult where
  /-- All arguments are read. -/
  | done (given : Given)
  /-- A command was met; the arguments behind it are left. -/
  | command (given : Given) (name : CommandName) (rest : List String)
  | stop (request : Request)

/-- Whether the names behind `help` are those of a command. -/
def helpRequest (names : List String) : Request :=
  match names with
  | [] => .help
  | [name] => if (CommandName.ofString? name).isSome || name == "help" then .help else .misuse
  | _ => .misuse

/-- Notes an argument that is no option: the input behind a command, or else the command. -/
def plainArgument (command : Option CommandName) (g : Given) (text : String) (rest : List String) :
    SideResult :=
  match command with
  | some _ => .done { g with inputs := g.inputs ++ [text] }
  | none =>
    match CommandName.ofString? text with
    | some name => .command g name rest
    | none => if text == "help" then .stop (helpRequest rest) else .stop .misuse

/-- Reads the arguments of one side of the command. -/
def readSide (command : Option CommandName) (g : Given) : List String → SideResult
  | [] => .done g
  | text :: rest =>
    match Argument.ofString text with
    | .separator =>
      if command.isNone && !rest.isEmpty then .stop .misuse
      else .done { g with inputs := g.inputs ++ rest }
    | .plain text =>
      match plainArgument command g text rest with
      | .done g => readSide command g rest
      | other => other
    | .letters letters =>
      match g.letters letters with
      | .continue g => readSide command g rest
      | .stop request => .stop request
    | .long name value =>
      match Switch.ofString? command name, value with
      | some switch, none =>
        match g.switch switch with
        | .continue g => readSide command g rest
        | .stop request => .stop request
      | some _, some _ => .stop .misuse
      | none, value =>
        match ValueOption.ofString? command name, value, rest with
        | some option, some value, rest =>
          match g.set? option value with
          | some g => readSide command g rest
          | none => .stop .misuse
        | some option, none, value :: rest =>
          if isValue value then
            match g.set? option value with
            | some g => readSide command g rest
            | none => .stop .misuse
          else .stop .misuse
        | _, _, _ => .stop .misuse

/-! ### Requests -/

/-- The options of both sides of the command. -/
def Given.merge (front behind : Given) : LoadOptions :=
  { settingsFile := behind.settingsFile <|> front.settingsFile
    root := behind.root <|> front.root
    typings := behind.typings <|> front.typings
    paths := if behind.paths.isEmpty then front.paths else behind.paths }

/-- The command with a name and what was given behind it. -/
def CommandName.toCommand (name : CommandName) (g : Given) : Command :=
  match name with
  | .exports => .exports g.withTypings
  | .classes => .classes g.name
  | .wrapper => .wrapper

/-- What a command with all its arguments asks for. It needs exactly one input. -/
def commandRequest (front behind : Given) (name : CommandName) : Request :=
  match behind.inputs with
  | [input] =>
    if input.isEmpty then .misuse
    else
      .run
        { command := name.toCommand behind
          input := input
          options := front.merge behind
          format := (behind.format <|> front.format).getD .text }
  | _ => .misuse

/-- What the arguments of the program ask for. Without a command they ask for help. -/
def Request.parse (args : List String) : Request :=
  match readSide none .empty args with
  | .stop request => request
  | .done _ => .help
  | .command front name rest =>
    match readSide (some name) .empty rest with
    | .stop request => request
    | .done behind => commandRequest front behind name
    | .command _ _ _ => .misuse

end BundleLens
