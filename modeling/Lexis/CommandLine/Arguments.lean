import Lexis.CommandLine.Surroundings

/-!
# Arguments — the parser of the program

The arguments are read from left to right, and the first problem is the answer, with exit code 2.

* `--strict` may stand once, before or after the path.
* `--help`, or a group of short options that begins with `-h`, asks for help at once; what follows is
  not looked at.
* After `--` every argument is a path; a single dash is a path everywhere.
* There is at most one path, and it is not empty.
-/

namespace Lexis

namespace CommandLine

inductive UsageError where
  | unknownOption (argument : Text)
  | strictTwice
  | secondPath (path : Text)
  | emptyPath
  deriving DecidableEq, Repr

/-- What a command line without a problem asks for. -/
inductive Invocation where
  | help
  | run (options : Options)
  deriving DecidableEq, Repr

/-! ## Single arguments -/

/-- What an argument is before the end of options. -/
inductive Argument where
  | endOfOptions
  | help
  | strict
  | path
  | unknown
  deriving DecidableEq, Repr

/-- Classifies an argument.  Long options are exact; of short ones only `h` is known. -/
def Argument.ofText (argument : Text) : Argument :=
  if argument = "--".toList then endOfOptions
  else if argument = "--help".toList then help
  else if argument = "--strict".toList then strict
  else
    -- a group of short options is read from its first letter on
    match argument with
    | '-' :: 'h' :: _ => help
    | '-' :: _ :: _ => unknown
    | _ => path

/-! ## Whole command lines -/

namespace Options

def default : Options :=
  ⟨none, false⟩

/-- The options with a path; it must be the first one, and not be empty. -/
def withPath (options : Options) (path : Text) : Except UsageError Options :=
  match options.path?, path with
  | some _, _ => .error (.secondPath path)
  | none, [] => .error .emptyPath
  | none, _ => .ok { options with path? := some path }

/-- The options with strictness; it must not have been asked for yet. -/
def withStrict (options : Options) : Except UsageError Options :=
  if options.strict then .error .strictTwice else .ok { options with strict := true }

/-- Adds arguments all of which are paths. -/
def withPaths (options : Options) : List Text → Except UsageError Options
  | [] => .ok options
  | path :: rest =>
    match options.withPath path with
    | .error problem => .error problem
    | .ok options => options.withPaths rest

end Options

/-- Reads arguments, given the options that were read before them. -/
def readFrom (options : Options) : List Text → Except UsageError Invocation
  | [] => .ok (.run options)
  | argument :: rest =>
    match Argument.ofText argument with
    | .endOfOptions => (options.withPaths rest).map .run
    -- help is given whatever follows
    | .help => .ok .help
    | .strict =>
      match options.withStrict with
      | .error problem => .error problem
      | .ok options => readFrom options rest
    | .path =>
      match options.withPath argument with
      | .error problem => .error problem
      | .ok options => readFrom options rest
    | .unknown => .error (.unknownOption argument)

def Invocation.ofArguments (arguments : List Text) : Except UsageError Invocation :=
  readFrom .default arguments

/-! ## Answers in place of a run -/

def usage : Text :=
  "Usage: monkey [OPTIONS] [PATH]".toList

def helpText : Text :=
  Text.line "Tokenize Monkey source files or explore them in a console".toList
    ++ Text.line []
    ++ Text.line usage
    ++ Text.line []
    ++ Text.line "Arguments:".toList
    ++ Text.line "  [PATH]  Source file to tokenize; starts the console when omitted".toList
    ++ Text.line []
    ++ Text.line "Options:".toList
    ++ Text.line "      --strict  Fail on the first illegal token instead of printing it".toList
    ++ Text.line "  -h, --help    Print help".toList

/-- What is said about a problem with the arguments. -/
def UsageError.message : UsageError → Text
  | unknownOption argument => "unexpected argument ".toList ++ Text.quoted argument
  | strictTwice => "the option --strict cannot be used more than once".toList
  | secondPath path => "unexpected second path ".toList ++ Text.quoted path
  | emptyPath => "the path must not be empty".toList

/-- The answer to a problem with the arguments. -/
def Answer.misuse (problem : UsageError) : Answer :=
  ⟨2, [], Text.line ("error: ".toList ++ problem.message) ++ Text.line [] ++ Text.line usage⟩

/-- The options that arguments stand for, or the answer that they get. -/
def parseArguments : Parser := fun arguments =>
  match Invocation.ofArguments arguments with
  | .error problem => .error (.misuse problem)
  | .ok .help => .error (.success (Text.utf8 helpText))
  | .ok (.run options) => .ok options

end CommandLine

end Lexis
