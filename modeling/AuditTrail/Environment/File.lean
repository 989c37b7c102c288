import AuditTrail.Environment.Basic
import AuditTrail.Text.Blank
import AuditTrail.Text.Case
import AuditTrail.Text.Utf8
/-!
Files of environment settings: one `NAME=value` a line, with an optional `export`, quotes that may
span lines, comments, and references `${NAME}` or `${NAME:-default}` to other settings.
-/

namespace AuditTrail.Environment

open Text

/-- A line end. -/
def isLineEnd (c : Char) : Bool := c == '\n' || c == '\r'

/-- A blank that ends no line. -/
def isInlineBlank (c : Char) : Bool := isBlank c && !isLineEnd c

/-- The text after blanks that end no line. -/
def skipInline (text : List Char) : List Char := text.dropWhile isInlineBlank

/-- Line ends of any kind as line feeds. -/
def normalizeLines : List Char → List Char
  | '\r' :: '\n' :: rest => '\n' :: normalizeLines rest
  | '\r' :: rest => '\n' :: normalizeLines rest
  | c :: rest => c :: normalizeLines rest
  | [] => []

/-- The text after the word `export` and blanks behind it. -/
def skipExport (text : List Char) : List Char :=
  if "export".toList.isPrefixOf text then
    let rest := text.drop 6
    let after := skipInline rest
    if after.length < rest.length then after else text
  else text

/-- The text between quotes and what follows, when the opening quote has been read. A backslash
takes the next character with it, so that a quote behind it closes nothing. -/
def quoted? (quote : Char) : List Char → Option (List Char × List Char)
  | [] => none
  | '\\' :: c :: rest =>
    (quoted? quote rest).map fun (inner, after) => ('\\' :: c :: inner, after)
  | c :: rest =>
    if c == quote then some ([], rest)
    else (quoted? quote rest).map fun (inner, after) => (c :: inner, after)

/-- The character that an escape in double quotes writes. -/
def escape? : Char → Option Char
  | '\\' => some '\\'
  | '\'' => some '\''
  | '"' => some '"'
  | 'a' => some (Char.ofNat 7)
  | 'b' => some (Char.ofNat 8)
  | 'f' => some (Char.ofNat 12)
  | 'n' => some '\n'
  | 'r' => some '\r'
  | 't' => some '\t'
  | 'v' => some (Char.ofNat 11)
  | _ => none

/-- The character that an escape in single quotes writes. -/
def plainEscape? (c : Char) : Option Char := if c == '\\' || c == '\'' then some c else none

/-- A text with its escapes resolved. -/
def unescape (escape? : Char → Option Char) : List Char → List Char
  | '\\' :: c :: rest =>
    match escape? c with
    | some d => d :: unescape escape? rest
    | none => '\\' :: unescape escape? (c :: rest)
  | c :: rest => c :: unescape escape? rest
  | [] => []

/-- A text up to a comment: blanks with a hash sign behind them. -/
def dropComment : List Char → List Char
  | [] => []
  | c :: rest =>
    if isBlank c && (rest.dropWhile isBlank).head? == some '#' then []
    else c :: dropComment rest

/-- A value, when the equals sign has been read, and what follows it. A comment may stand where a
value would. -/
def value? (text : List Char) : Option (List Char × List Char) :=
  match skipInline text with
  | '\'' :: rest => do
    let (inner, rest) ← quoted? '\'' rest
    pure (unescape plainEscape? inner, rest)
  | '"' :: rest => do
    let (inner, rest) ← quoted? '"' rest
    pure (unescape escape? inner, rest)
  | _ =>
    let line := text.takeWhile fun c => !isLineEnd c
    some (trim (dropComment line), text.drop line.length)

/-- A name and what follows it; a comment has none. -/
def name? (text : List Char) : Option (Option (List Char) × List Char) :=
  match text with
  | '#' :: _ => some (none, text)
  | '\'' :: rest =>
    let inner := rest.takeWhile (· != '\'')
    match rest.dropWhile (· != '\'') with
    | _ :: after => if inner.isEmpty then none else some (some inner, after)
    | [] => none
  | _ =>
    let plain := text.takeWhile fun c => c != '=' && c != '#' && !isBlank c
    if plain.isEmpty then none else some (some plain, text.drop plain.length)

/-- The text after a comment. -/
def skipComment (text : List Char) : List Char :=
  match skipInline text with
  | '#' :: rest => rest.dropWhile fun c => !isLineEnd c
  | _ => text

/-- The text after a line end, if nothing but blanks stands before it. -/
def lineEnd? (text : List Char) : Option (List Char) :=
  match skipInline text with
  | [] => some []
  | '\n' :: rest => some rest
  | _ => none

/-- The text after the rest of a line. -/
def skipLine (text : List Char) : List Char := (text.dropWhile fun c => !isLineEnd c).tail

/-- A setting as it is written: a name with its value, if there is one. -/
abbrev Binding := List Char × Option (List Char)

/-- One line, or as much as its quotes span. A line that is no setting is passed over from where
its reading failed. -/
def binding (text : List Char) : Option Binding × List Char :=
  let start := skipExport text
  match name? start with
  | none => (none, skipLine start)
  | some (name, rest) =>
    let rest := skipInline rest
    let read : Except (List Char) (Option (List Char) × List Char) :=
      match rest with
      | '=' :: after =>
        match value? after with
        | some (value, rest) => .ok (some value, rest)
        | none => .error after
      | _ => .ok (none, rest)
    match read with
    | .error rest => (none, skipLine rest)
    | .ok (value, rest) =>
      let rest := skipComment rest
      match lineEnd? rest with
      | some rest => (name.map fun name => (name, value), rest)
      | none => (none, skipLine rest)

/-- The settings of a text; each step uses up at least one character. -/
def bindingsFrom : Nat → List Char → List Binding
  | 0, _ => []
  | fuel + 1, text =>
    match text.dropWhile isBlank with
    | [] => []
    | start =>
      let (found, rest) := binding start
      found.toList ++ bindingsFrom fuel rest

/-- A text without the byte order mark that it may begin with. -/
def dropByteOrderMark : List Char → List Char
  | '\uFEFF' :: rest => rest
  | text => text

/-- The settings of a text in their order. -/
def bindings (text : List Char) : List Binding :=
  let text := normalizeLines (dropByteOrderMark text)
  bindingsFrom (text.length + 1) text

/-- A reference to a setting behind `${`: its name, its default, and what follows. -/
def reference? (text : List Char) : Option (List Char × List Char × List Char) :=
  let name := text.takeWhile fun c => c != '\x7d' && c != ':'
  match text.drop name.length with
  | '\x7d' :: rest => some (name, [], rest)
  | ':' :: '-' :: rest =>
    let default := rest.takeWhile (· != '\x7d')
    match rest.drop default.length with
    | _ :: rest => some (name, default, rest)
    | [] => none
  | _ => none

/-- A text with its references resolved. -/
def expand (lookup : String → Option String) : Nat → List Char → List Char
  | 0, text => text
  | _ + 1, [] => []
  | fuel + 1, '$' :: '\x7b' :: rest =>
    match reference? rest with
    | some (name, default, rest) =>
      ((lookup (String.ofList name)).map String.toList).getD default ++ expand lookup fuel rest
    | none => '$' :: expand lookup fuel ('\x7b' :: rest)
  | fuel + 1, c :: rest => c :: expand lookup fuel rest

/-- Puts a setting into a list; a name that is there keeps its place. -/
def put (name : String) (value : Option String) :
    List (String × Option String) → List (String × Option String)
  | [] => [(name, value)]
  | (other, old) :: rest =>
    if other == name then (name, value) :: rest else (other, old) :: put name value rest

/-- The settings with their references resolved: to the environment, else to settings before. -/
def resolve (environment : Environment) (settings : List Binding) :
    List (String × Option String) :=
  settings.foldl (fun done (name, value) =>
    let lookup (name : String) : Option String :=
      match environment.get? name with
      | some value => some value
      | none => (done.lookup name).map (·.getD "")
    put (String.ofList name)
      (value.map fun value => String.ofList (expand lookup (value.length + 1) value)) done) []

/-- Whether an environment can hold a setting: its name has no equals sign, and neither text has
the null character. -/
def holds (name value : String) : Bool :=
  !name.toList.contains '=' && !(name.toList ++ value.toList).contains '\x00'

/-- Adds settings that have a value to an environment; what is set stays. Adding ends at the first
setting that an environment cannot hold, and its name is given, too. -/
def add : List (String × Option String) → Environment → Environment × Option String
  | [], environment => (environment, none)
  | (name, value) :: rest, environment =>
    match environment.get? name, value with
    | none, some value =>
      if holds name value then add rest (environment ++ [(name, value)])
      else (environment, some name)
    | _, _ => add rest environment

/-- Adds the settings of a file to an environment. -/
def load (text : List Char) (environment : Environment) : Environment × Option String :=
  add (resolve environment (bindings text)) environment

/-- The setting that turns the reading of files off. -/
def disablingName : String := "PYTHON_DOTENV_DISABLED"

/-- The values of it that do so, in any letter case. -/
def disablingWords : List String := ["1", "true", "t", "yes", "y"]

/-- Whether files are to be read. -/
def readsFiles (environment : Environment) : Bool :=
  match environment.get? disablingName with
  | some value => !disablingWords.contains (String.ofList (foldCase value.toList))
  | none => true

end AuditTrail.Environment
