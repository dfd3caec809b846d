import TeachingEditor.Highlight

/-!
# Command line arguments

**Input.**  The arguments of a call, without the name of the program.

**Format.**  Options for the whole program come first, then the name of a command,
then the options and operands of the command in any order.  An option of one letter
may be joined with others and with its value.  Behind two dashes everything is an
operand.  A value or operand begins with a dash only when it is nothing else.

**Algorithm.**  The arguments are read from left to right.  The first one that is
wrong makes the whole call wrong, unless help or the version has been asked for
before it.

**Results.**  `Request.ofArguments?` gives what is asked for, and nothing when the
call is wrong.
-/

namespace TeachingEditor

/-- A command with its options and operands. -/
inductive Command where
  | tokenize (file : Text) (json : Bool)
  | highlight (file : Text) (theme : Option Theme)
  | complete (file : Text) (cursor : Option Nat)
  | ask (question : Text)
  | config (isShown : Bool)
  deriving DecidableEq, Repr

/-- The files whose text a command works on. -/
def Command.sources : Command → List Text
  | tokenize file _ | highlight file _ | complete file _ => [file]
  | ask _ | config _ => []

/-- A command together with the configuration file to be used. -/
structure Invocation where
  configPath : Text
  command : Command
  deriving DecidableEq, Repr

/-- What a call asks for. -/
inductive Request where
  | run (invocation : Invocation)
  | help
  | version
  deriving DecidableEq, Repr

namespace Arguments

/-- The configuration file of a call that names none. -/
def defaultConfigPath : Text := "aoi.toml".toList

/-- Whether an argument may be the value of the option before it. -/
def isValue (arg : Text) : Bool :=
  arg.head? ≠ some '-' || arg = ['-']

/-- What follows a name and an equals sign. -/
def valueAfter? (name : Text) (arg : Text) : Option Text :=
  Markup.strip? (name ++ ['=']) arg

/-- What the operands and the option of a command look like. -/
structure Shape where
  /-- The greatest number of operands, if there is one. -/
  maxOperands : Option Nat
  isOperand : Text → Bool
  /-- The name of the option; every command has at most one. -/
  option : Option Text
  /-- Which values the option takes; nothing when it takes none. -/
  isOptionValue : Option (Text → Bool)

/-- What has been read of a command. -/
structure Draft where
  operands : List Text
  /-- The value of the option, which is empty for an option without one. -/
  option : Option Text

namespace Draft

/-- Add an operand. -/
def addOperand? (shape : Shape) (d : Draft) (arg : Text) : Option Draft :=
  if shape.isOperand arg ∧ shape.maxOperands.all (d.operands.length < ·) then
    some { d with operands := d.operands ++ [arg] }
  else
    none

/-- Add operands one after another. -/
def addOperands? (shape : Shape) (d : Draft) : List Text → Option Draft
  | [] => some d
  | arg :: rest => (d.addOperand? shape arg).bind fun d => d.addOperands? shape rest

/-- Set the option, which must not have been set before. -/
def setOption? (d : Draft) (value : Text) : Option Draft :=
  if d.option.isSome then none else some { d with option := some value }

end Draft

/-- What the arguments of a command come to. -/
inductive Reading where
  | wrong
  | help
  | read (d : Draft)

/-- Read the arguments of a command. -/
def readCommand (shape : Shape) (d : Draft) : List Text → Reading
  | [] => .read d
  | arg :: rest =>
      if arg = "--".toList then
        match d.addOperands? shape rest with
        | some d => .read d
        | none => .wrong
      else if arg = "--help".toList ∨ ['-', 'h'].isPrefixOf arg then
        .help
      else if isValue arg then
        match d.addOperand? shape arg with
        | some d => readCommand shape d rest
        | none => .wrong
      else
        match shape.option, shape.isOptionValue with
        | some name, none =>
            if arg = '-' :: '-' :: name then
              match d.setOption? [] with
              | some d => readCommand shape d rest
              | none => .wrong
            else
              .wrong
        | some name, some isOptionValue =>
            match valueAfter? ('-' :: '-' :: name) arg with
            | some value =>
                match if isOptionValue value then d.setOption? value else none with
                | some d => readCommand shape d rest
                | none => .wrong
            | none =>
                match rest with
                | [] => .wrong
                | value :: rest =>
                    if arg = '-' :: '-' :: name ∧ isValue value ∧ isOptionValue value then
                      match d.setOption? value with
                      | some d => readCommand shape d rest
                      | none => .wrong
                    else
                      .wrong
        | none, _ => .wrong

/-- The offset that a text writes; a plus sign may stand in front. -/
def readOffset? (t : Text) : Option Nat :=
  let digits : Text := match t with
    | '+' :: rest => rest
    | t => t
  let value : Nat := digits.foldl (fun n c => 10 * n + (c.toNat - '0'.toNat)) 0
  if ¬ digits.isEmpty ∧ digits.all Char.isDigit ∧ value < UInt64.size then some value else none

/-- Whether an operand can be the path of a file. -/
def isPath (t : Text) : Bool :=
  ! t.isEmpty

/-- The names of the commands that do something. -/
inductive CommandName where
  | tokenize
  | highlight
  | complete
  | ask
  | config
  deriving DecidableEq, Repr

namespace CommandName

def all : List CommandName := [tokenize, highlight, complete, ask, config]

/-- The written name of a command. -/
def name : CommandName → Text
  | tokenize => "tokenize".toList
  | highlight => "highlight".toList
  | complete => "complete".toList
  | ask => "ask".toList
  | config => "config".toList

/-- The command with a name. -/
def ofName? (t : Text) : Option CommandName :=
  all.find? fun command => command.name = t

/-- What the arguments of a command look like. -/
def shape : CommandName → Shape
  | tokenize => ⟨some 1, isPath, some "json".toList, none⟩
  | highlight => ⟨some 1, isPath, some "theme".toList, some fun t => (Theme.ofName? t).isSome⟩
  | complete => ⟨some 1, isPath, some "cursor".toList, some fun t => (readOffset? t).isSome⟩
  | ask => ⟨none, fun _ => true, none, none⟩
  | config => ⟨some 0, isPath, some "show".toList, none⟩

/-- Words with spaces between them. -/
def joinWords : List Text → Text
  | [] => []
  | [word] => word
  | word :: rest => word ++ ' ' :: joinWords rest

/-- The command that has been read, if nothing is missing. -/
def finish? (command : CommandName) (d : Draft) : Option Command :=
  match command, d.operands with
  | tokenize, [file] => some (.tokenize file d.option.isSome)
  | highlight, [file] => some (.highlight file (d.option.bind Theme.ofName?))
  | complete, [file] => some (.complete file (d.option.bind readOffset?))
  | ask, word :: words => some (.ask (joinWords (word :: words)))
  | config, [] => some (.config d.option.isSome)
  | _, _ => none

end CommandName

/-- What joined options of one letter come to. -/
inductive Letters where
  | unknown
  | plain
  | help
  | version
  /-- The configuration file, whose path may be joined with the letter. -/
  | config (path : Option Text)

/-- Read joined options of one letter. -/
def readLetters : Text → Letters
  | [] => .plain
  | c :: rest =>
      if c = 'v' then readLetters rest
      else if c = 'h' then .help
      else if c = 'V' then .version
      else if c = 'c' then
        .config (match rest with
          | [] => none
          | '=' :: path => some path
          | path => some path)
      else .unknown

/-- The request for a command by its name, with the arguments behind it. -/
def readNamed? (configPath : Option Text) (word : Text) (rest : List Text) : Option Request :=
  match CommandName.ofName? word with
  | some command =>
      match readCommand command.shape ⟨[], none⟩ rest with
      | .wrong => none
      | .help => some .help
      | .read d =>
          (command.finish? d).map fun command =>
            .run ⟨configPath.getD defaultConfigPath, command⟩
  | none =>
      if word = "help".toList then
        match rest with
        | [] => some .help
        | [topic] =>
            if (CommandName.ofName? topic).isSome ∨ topic = "help".toList then some .help else none
        | _ => none
      else
        none

/-- Read the arguments of a call; the path of the configuration file may have been read already. -/
def readFrom? (configPath : Option Text) : List Text → Option Request
  | [] => none
  | arg :: rest =>
      if isValue arg then
        readNamed? configPath arg rest
      else if arg = "--verbose".toList then
        readFrom? configPath rest
      else if arg = "--help".toList then
        some .help
      else if arg = "--version".toList then
        some .version
      else
        match valueAfter? "--config".toList arg with
        | some path =>
            if configPath.isNone ∧ isPath path then readFrom? (some path) rest else none
        | none =>
            match if arg = "--config".toList then .config none else readLetters arg.tail with
            | .unknown => none
            | .plain => readFrom? configPath rest
            | .help => some .help
            | .version => some .version
            | .config (some path) =>
                if configPath.isNone ∧ isPath path then readFrom? (some path) rest else none
            | .config none =>
                match rest with
                | [] => none
                | path :: rest =>
                    if configPath.isNone ∧ isValue path ∧ isPath path then
                      readFrom? (some path) rest
                    else
                      none

end Arguments

/-- What the arguments of a call ask for. -/
def Request.ofArguments? (args : List Text) : Option Request :=
  Arguments.readFrom? none args

end TeachingEditor
