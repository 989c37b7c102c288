import AuditTrail.Schema.Table
/-!
The command line of the program that sets up the table. Options may be shortened as long as only
one of them is meant, and options of one letter may be run together.
-/

namespace AuditTrail.Setup

open Text

/-- An option. -/
inductive Flag where
  | help
  | drop
  | describe
deriving DecidableEq, Repr

/-- The spellings of the options. -/
def spellings : List (List Char × Flag) :=
  [("-h".toList, .help), ("--help".toList, .help), ("--drop".toList, .drop),
    ("--describe".toList, .describe)]

/-- The option that a text spells. -/
def spelled? (text : List Char) : Option Flag := spellings.lookup text

/-- All spellings of an option. -/
def Flag.title (flag : Flag) : List Char :=
  join ['/'] ((spellings.filter fun entry => entry.2 == flag).map (·.1))

/-- What is wrong with a command line. -/
inductive Complaint where
  /-- An argument stands for more than one option. -/
  | ambiguous (argument : List Char) (matching : List (List Char))
  /-- A value is given to an option that has none. -/
  | valueGiven (flag : Flag) (value : List Char)
  /-- Some arguments mean nothing. -/
  | unknown (arguments : List (List Char))
deriving DecidableEq, Repr

/-- The wording of a complaint. -/
def Complaint.text : Complaint → List Char
  | ambiguous argument matching =>
    "ambiguous option: ".toList ++ argument ++ " could match ".toList ++
      join ", ".toList matching
  | valueGiven flag value =>
    "argument ".toList ++ flag.title ++ ": ignored explicit argument ".toList ++ quoted value
  | unknown arguments => "unrecognized arguments: ".toList ++ join [' '] arguments

/-- An argument. -/
inductive Word where
  /-- One that means nothing. -/
  | other (text : List Char)
  /-- An option, whether a single letter spells it, and the value that the argument gives it. -/
  | option (flag : Flag) (isLetter : Bool) (value : Option (List Char))
deriving DecidableEq, Repr

/-- The name in an argument, and the value behind an equals sign. -/
def splitValue (argument : List Char) : List Char × Option (List Char) :=
  let name := argument.takeWhile (· != '=')
  match argument.drop name.length with
  | [] => (name, none)
  | _ :: value => (name, some value)

/-- Whether an argument is spelled by letters behind one dash. -/
def isLettered (argument : List Char) : Bool := !"--".toList.isPrefixOf argument

/-- The options that an argument may stand for, with their spellings. -/
def candidates (argument : List Char) : List (List Char × Word) :=
  match argument with
  | '-' :: '-' :: _ =>
    let (name, value) := splitValue argument
    (spellings.filter fun entry => name.isPrefixOf entry.1).map fun entry =>
      (entry.1, .option entry.2 false value)
  | '-' :: c :: rest =>
    (spellings.filter fun entry => entry.1 == ['-', c]).map fun entry =>
      (entry.1, .option entry.2 true (some rest))
  | _ => []

/-- What an argument is. -/
def Word.read (argument : List Char) : Except Complaint Word :=
  let (name, value) := splitValue argument
  match spelled? name with
  | some flag => .ok (.option flag (isLettered name) value)
  | none =>
    match candidates argument with
    | [] => .ok (.other argument)
    | [(_, word)] => .ok word
    | several => .error (.ambiguous argument (several.map (·.1)))

/-- What the arguments are; after two dashes there are no options. -/
def readWords : List (List Char) → Except Complaint (List Word)
  | [] => .ok []
  | argument :: rest =>
    if argument == ['-', '-'] then .ok ((argument :: rest).map .other)
    else do
      let word ← Word.read argument
      let words ← readWords rest
      pure (word :: words)

/-- The options that an option and the letters behind it stand for. -/
def cluster (flag : Flag) : List Char → Except Complaint (List Flag)
  | [] => .ok [flag]
  | c :: rest =>
    match spelled? ['-', c] with
    | some next => (flag :: ·) <$> cluster next rest
    | none => .error (.valueGiven flag (c :: rest))

/-- The options that an option with a value stands for: no option has a value, but the value of a
letter may be more letters. -/
def flagsOf (flag : Flag) (isLetter : Bool) : Option (List Char) → Except Complaint (List Flag)
  | none => .ok [flag]
  | some value =>
    if isLetter && !value.isEmpty then cluster flag value else .error (.valueGiven flag value)

/-- What the program is asked for. -/
inductive Order where
  /-- To explain itself. -/
  | help
  /-- To make the table, after removing it if that is asked for; or only to describe it. -/
  | run (drop describe : Bool)
deriving DecidableEq, Repr

/-- What some words ask for, after some flags and arguments that mean nothing. Asking for help ends
the reading. -/
def orderOf : List Word → List Flag → List (List Char) → Except Complaint Order
  | [], flags, unknown =>
    if unknown.isEmpty then .ok (.run (flags.contains .drop) (flags.contains .describe))
    else .error (.unknown unknown)
  | .other text :: rest, flags, unknown => orderOf rest flags (unknown ++ [text])
  | .option flag isLetter value :: rest, flags, unknown => do
    let more ← flagsOf flag isLetter value
    if more.contains .help then pure .help
    else orderOf rest (flags ++ more) unknown

/-- What a command line asks for. -/
def Order.read (arguments : List (List Char)) : Except Complaint Order := do
  orderOf (← readWords arguments) [] []

/-- The name of the program. -/
def programName : List Char := "db_init.py".toList

/-- How the program is used, in one line. -/
def usage : List Char :=
  "usage: ".toList ++ programName ++ " [-h] [--drop] [--describe]\n".toList

/-- How the program is used. -/
def helpText : List Char :=
  usage ++ ("\nCreate the audit_logs table and its search indexes\n\noptions:\n" ++
    "  -h, --help  show this help message and exit\n" ++
    "  --drop      Drop audit_logs first (destroys data)\n" ++
    "  --describe  Only print the current table layout\n").toList

/-- What the program says about a complaint. -/
def Complaint.report (complaint : Complaint) : List Char :=
  usage ++ programName ++ ": error: ".toList ++ complaint.text ++ ['\n']

end AuditTrail.Setup
