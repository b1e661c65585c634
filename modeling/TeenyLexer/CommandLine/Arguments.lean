import TeenyLexer.FileTree.Basic
import TeenyLexer.Text.Similarity

/-! # Command line arguments

The command takes one file and a few flags, before or after it and as often as one likes.
Single-letter flags may be joined behind one dash, and two dashes end the flags. Mistakes in
flags are found first, in their order; then help and version are answered; then the file is
looked at, and last whether anything is left over.
-/

namespace TeenyLexer.CommandLine

inductive Flag
  | verbose
  | trace
  | version
  | help
  deriving DecidableEq

namespace Flag

def all : List Flag :=
  [verbose, trace, version, help]

def longName : Flag → String
  | verbose => "--verbose"
  | trace => "--trace"
  | version => "--version"
  | help => "--help"

def ofLongName? (name : String) : Option Flag :=
  all.find? fun flag => flag.longName == name

def ofLetter? (c : Char) : Option Flag :=
  if c = 'v' then some verbose else none

/-- A flag that is answered without looking at the file. -/
def isEager : Flag → Bool
  | version | help => true
  | verbose | trace => false

end Flag

inductive UsageError
  | unknownOption (option : String) (similar : List String)
  | valueNotTaken (option : String)
  | missingFile
  | fileNotFound (path : String)
  | fileIsDirectory (path : String)
  | extraArguments (arguments : List String)
  deriving DecidableEq

namespace UsageError

/-- What to try in place of an unknown option. -/
def suggestion : List String → String
  | [] => ""
  | [option] => " Did you mean " ++ option ++ "?"
  | options => " (Possible options: " ++ String.intercalate ", " options ++ ")"

def message : UsageError → String
  | unknownOption option similar => "No such option: " ++ option ++ suggestion similar
  | valueNotTaken option => "Option " ++ Text.quote option ++ " does not take a value."
  | missingFile => "Missing argument 'INPUT_FILE'."
  | fileNotFound path =>
    "Invalid value for 'INPUT_FILE': File " ++ Text.quote path ++ " does not exist."
  | fileIsDirectory path =>
    "Invalid value for 'INPUT_FILE': File " ++ Text.quote path ++ " is a directory."
  | extraArguments arguments =>
    let noun := if arguments.length = 1 then "argument" else "arguments"
    "Got unexpected extra " ++ noun ++ " (" ++ String.intercalate " " arguments ++ ")"

def showsUsage : UsageError → Bool
  | valueNotTaken _ => false
  | _ => true

end UsageError

/-- The flags and the other arguments, each in their order. -/
structure Arguments where
  flags : List Flag
  operands : List String
  deriving DecidableEq

namespace Arguments

def ofLetters : List Char → Except UsageError (List Flag)
  | [] => .ok []
  | c :: rest =>
    match Flag.ofLetter? c with
    | none => .error (.unknownOption (String.ofList ['-', c]) [])
    | some flag => (flag :: ·) <$> ofLetters rest

/-- The flags of one argument that starts with a dash and goes on after it. -/
def ofOption (argument : List Char) : Except UsageError (List Flag) :=
  let name := String.ofList (argument.takeWhile (· ≠ '='))
  match Flag.ofLongName? name with
  | some flag => if '=' ∈ argument then .error (.valueNotTaken name) else .ok [flag]
  | none =>
    if ['-', '-'].isPrefixOf argument then
      .error (.unknownOption name (Text.closeMatches name (Flag.all.map Flag.longName)))
    else ofLetters argument.tail

/-- Tells flags from other arguments. A dash alone is no flag. -/
def ofList : List String → Except UsageError Arguments
  | [] => .ok ⟨[], []⟩
  | argument :: rest =>
    if argument = "--" then .ok ⟨[], rest⟩
    else if argument.toList.head? = some '-' ∧ argument ≠ "-" then do
      let flags ← ofOption argument.toList
      let more ← ofList rest
      return { more with flags := flags ++ more.flags }
    else do
      let more ← ofList rest
      return { more with operands := argument :: more.operands }

end Arguments

inductive Request
  | help
  | version
  | dump (path : String) (verbose trace : Bool)
  deriving DecidableEq

namespace Request

def ofOperands (find : String → Entry) (flags : List Flag) :
    List String → Except UsageError Request
  | [] => .error .missingFile
  | path :: extra =>
    match find path with
    | .file _ =>
      if extra = [] then .ok (.dump path (.verbose ∈ flags) (.trace ∈ flags))
      else .error (.extraArguments extra)
    | .directory => .error (.fileIsDirectory path)
    | .missing | .notDirectory | .nameTooLong => .error (.fileNotFound path)

/-- Of help and version the one that stands first is answered. -/
def ofArguments (find : String → Entry) (arguments : Arguments) : Except UsageError Request :=
  match arguments.flags.find? Flag.isEager with
  | some .help => .ok .help
  | some .version => .ok .version
  | _ => ofOperands find arguments.flags arguments.operands

def ofList (find : String → Entry) (arguments : List String) : Except UsageError Request :=
  Arguments.ofList arguments >>= ofArguments find

end Request

end TeenyLexer.CommandLine
