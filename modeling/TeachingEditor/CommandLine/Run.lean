import TeachingEditor.CommandLine.Arguments
import TeachingEditor.CommandLine.Failure
import TeachingEditor.CommandLine.Listing

/-!
# Running commands

**Input.**  The arguments of a call, the bytes of the standard input, and a reader
of files.

**Algorithm.**  A command loads the configuration, which may be missing; then the
catalogs, except that the command for the configuration itself needs none; then
the source text, from a file or the standard input.  The first that fails is
reported.  What has been printed before a failure would stay printed; a command
prints when nothing can fail any more.

**Results.**  `run` is what is done for a command, and `outcome` the whole outcome of a
call.
-/

namespace TeachingEditor
namespace CommandLine

/--
Something that is done for a command.  It prints, and it comes to its end or fails;
either way the text printed so far is left behind.
-/
abbrev Action (α : Type) := ExceptT Failure (StateM Text) α

/-- What an action comes to behind what is printed already, and all that is printed then. -/
def perform {α : Type} (x : Action α) (printed : Text) : Except Failure α × Text :=
  (x.run.run printed).run

/-- Print a text. -/
def print (t : Text) : Action Unit :=
  modify (· ++ t)

/-- Whether a path stands for the standard input: a dash and nothing else. -/
def isStandardInput (path : Text) : Bool :=
  match pathParts path with
  | [] => false
  | part :: parts => part = ['-'] && parts.all fun p => p = [] || p = ['.']

/-- The configuration of a call; without a file it has the default settings. -/
def loadConfig (read : FileReader) (path : Text) : Except Failure Config :=
  if read.finds path then
    match Config.load read path with
    | .ok c => .ok c
    | .error e => .error (.config path e)
  else
    .ok {}

/-- The catalogs of a configuration. -/
def loadCatalogs (read : FileReader) (c : Config) : Except Failure Catalogs :=
  match Catalogs.load read c.catalog with
  | .ok catalogs => .ok catalogs
  | .error e => .error (.catalogs e)

/-- The source text of a command. -/
def loadSource (read : FileReader) (input : List UInt8) (path : Text) : Except Failure Text :=
  if isStandardInput path then
    match Utf8.decode input with
    | .ok t => .ok t
    | .error fault => .error (.input fault)
  else
    match read.readText path with
    | .ok t => .ok t
    | .error e => .error (.source path e)

/-- The theme of a command: the one that is asked for, or else the configured one. -/
def chooseTheme (c : Config) : Option Theme → Except Failure Theme
  | some theme => .ok theme
  | none =>
      match Theme.ofName? c.highlight.theme with
      | some theme => .ok theme
      | none => .error (.theme c.highlight.theme)

/-- Print the word at a cursor and what is suggested for it. -/
def complete (catalogs : Catalogs) (source : Text) (cursor : Nat) : Action Unit := do
  let w ← (wordAt source cursor).mapError Failure.cursor
  let items ← (suggest catalogs.completions source cursor).mapError Failure.cursor
  print (Listing.suggestions w items)

/-- What is printed for a question without a predefined answer. -/
def noAnswer : Text :=
  "No predefined answer. This question needs the fallback assistant.\n".toList

/-- Print the answer to a question; there is no service to pass it on to. -/
def ask (catalogs : Catalogs) (settings : AssistantSettings) (question : Text) : Action Unit :=
  match (Assistant.ofSettings catalogs.knowledge settings).respond question with
  | .ok reply => print (Listing.reply reply)
  | .error .notConfigured => print noAnswer
  | .error e => throw (.assistant e)

/-- Carry out a command. -/
def runCommand (read : FileReader) (input : List UInt8) (configPath : Text) (c : Config) :
    Command → Action Unit
  | .tokenize file json => do
      let catalogs ← loadCatalogs read c
      let source ← loadSource read input file
      let tokens := tokenize catalogs.vocabulary source
      print (if json then Listing.json tokens else Listing.tokens tokens)
  | .highlight file theme? => do
      let theme ← chooseTheme c theme?
      let catalogs ← loadCatalogs read c
      let source ← loadSource read input file
      print (Markup.highlight catalogs.vocabulary theme source ++ ['\n'])
  | .complete file cursor? => do
      let catalogs ← loadCatalogs read c
      let source ← loadSource read input file
      complete catalogs source (cursor?.getD (Text.size source))
  | .ask question => do
      let catalogs ← loadCatalogs read c
      ask catalogs c.assistant question
  | .config isShown =>
      print (if isShown then c.print ++ ['\n']
        else "Configuration at '".toList ++ configPath ++ "' is valid.\n".toList)

/-- Load the configuration and carry out the command of an invocation. -/
def run (read : FileReader) (input : List UInt8) (i : Invocation) : Action Unit := do
  let c ← loadConfig read i.configPath
  runCommand read input i.configPath c i.command

/-- What comes of a call. -/
structure Outcome where
  exitCode : Nat
  printed : Text
  /-- The report of a failure. -/
  report : Option Text
  deriving DecidableEq, Repr

/-- What is printed for the version. -/
def versionText : Text := "aoi 0.1.0\n".toList

/-- What is printed for help. -/
def helpText : Text :=
  "Usage: aoi [OPTIONS] <COMMAND>

Commands:
  tokenize   List the tokens of a source file
  highlight  Render a source file as highlighted HTML
  complete   Suggest completions for the word at a cursor position
  ask        Answer a help question from the knowledge base
  config     Validate and display configuration
  help       Print this message

Options:
  -c, --config <CONFIG>  Path to configuration file [default: aoi.toml]
  -v, --verbose...       Increase log verbosity (-v, -vv)
  -h, --help             Print help
  -V, --version          Print version
".toList

/-- The outcome of a call; a wrong call prints nothing. -/
def outcome (read : FileReader) (input : List UInt8) (args : List Text) : Outcome :=
  match Request.ofArguments? args with
  | none => ⟨2, [], none⟩
  | some .help => ⟨0, helpText, none⟩
  | some .version => ⟨0, versionText, none⟩
  | some (.run i) =>
      match perform (run read input i) [] with
      | (.ok (), printed) => ⟨0, printed, none⟩
      | (.error f, printed) => ⟨1, printed, some f.report⟩

end CommandLine
end TeachingEditor
