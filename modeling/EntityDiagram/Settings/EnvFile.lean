import EntityDiagram.Text.Blank

/-!
# Environment files

An environment file sets names to values, one to a line, in the way a shell would: an `export` may
stand in front, a value may be quoted, and what follows a number sign is a comment. Values without
quotes end at the comment, for which white space must come before the number sign. In double quotes
a backslash has its usual meanings, in single quotes it only escapes itself and the quote. A line
that is none of this is passed over.

Values may refer to names, `${NAME}` or `${NAME:-default}`, and the quotes make no difference to
that. A name set earlier in the file counts before one from outside.
-/

namespace EntityDiagram

/-- Names set to values, each name once. -/
abbrev Environment := List (Text × Text)

/-- The environment with a name set, in its place if it was set before. -/
def Environment.set (name value : Text) : Environment → Environment
  | [] => [(name, value)]
  | (n, v) :: rest =>
    if n == name then (n, value) :: rest else (n, v) :: Environment.set name value rest

namespace EnvFile

/-! ## Lines -/

def isInlineBlank (c : Char) : Bool := Text.isBlank c && c != '\n' && c != '\r'

def isLineEnd (c : Char) : Bool := c == '\n' || c == '\r'

def nextLine (t : Text) : Text := (t.dropWhile (!isLineEnd ·)).drop 1

/-- The text without an `export` in front. -/
def skipExport (t : Text) : Text :=
  if ("export" : Text).isPrefixOf t then
    let rest := t.drop 6
    match rest with
    | c :: _ => if isInlineBlank c then rest.dropWhile isInlineBlank else t
    | [] => t
  else t

/-- The name that stands here, and what follows it. A line that is only a comment has no name, and
    that is no fault. -/
def readName (t : Text) : Option (Option Text × Text) :=
  match t with
  | '#' :: _ => some (none, t)
  | '\'' :: rest =>
    let name := rest.takeWhile (· != '\'')
    match rest.dropWhile (· != '\'') with
    | _ :: rest => if name.isEmpty then none else some (some name, rest)
    | [] => none
  | _ =>
    let inName := fun c => c != '=' && c != '#' && !Text.isBlank c
    let name := t.takeWhile inName
    if name.isEmpty then none else some (some name, t.dropWhile inName)

/-! ## Values -/

def consRead (c : Char) (read : Option (Text × Text)) : Option (Text × Text) :=
  read.map fun (t, rest) => (c :: t, rest)

/-- What stands before the closing quotation mark, and what follows it. A mark behind a backslash
    does not close, unless no other does. -/
def untilMark (mark : Char) : Text → Option (Text × Text)
  | [] => none
  | '\\' :: c :: rest =>
    if c == mark then
      match untilMark mark rest with
      | some (t, rest) => some ('\\' :: c :: t, rest)
      | none => some (['\\'], rest)
    else consRead '\\' (untilMark mark (c :: rest))
  | c :: rest => if c == mark then some ([], rest) else consRead c (untilMark mark rest)

/-- The text with a backslash and the character behind it replaced by what they stand for, where
    they stand for something. -/
def unescape (meaning : Char → Option Char) : Text → Text
  | '\\' :: c :: rest => match meaning c with
    | some e => e :: unescape meaning rest
    | none => '\\' :: unescape meaning (c :: rest)
  | c :: rest => c :: unescape meaning rest
  | [] => []

def inSingleQuotes (c : Char) : Option Char :=
  if c == '\\' || c == '\'' then some c else none

def inDoubleQuotes : Char → Option Char
  | '\\' => some '\\'
  | '\'' => some '\''
  | '"' => some '"'
  | 'a' => some (Char.ofNat 7)
  | 'b' => some (Char.ofNat 8)
  | 'f' => some (Char.ofNat 12)
  | 'n' => some '\n'
  | 'r' => some '\r'
  | 't' => some '\t'
  | 'v' => some (Char.ofNat 11)
  | _ => none

def beforeComment : Text → Text
  | [] => []
  | c :: rest =>
    if Text.isBlank c && (rest.dropWhile Text.isBlank).head? == some '#' then []
    else c :: beforeComment rest

/-- The value that stands here, and what follows it. -/
def readValue (t : Text) : Option (Text × Text) :=
  match t with
  | '\'' :: rest => (untilMark '\'' rest).map fun (v, rest) => (unescape inSingleQuotes v, rest)
  | '"' :: rest => (untilMark '"' rest).map fun (v, rest) => (unescape inDoubleQuotes v, rest)
  | _ =>
    let line := t.takeWhile (!isLineEnd ·)
    some (Text.dropEnd Text.isBlank (beforeComment line), t.dropWhile (!isLineEnd ·))

/-! ## Bindings -/

/-- A name as a line sets it. A line may name something without setting it. -/
abbrev Binding := Text × Option Text

/-- What follows the end of a line, if nothing but a comment comes before it. -/
def afterLine? (t : Text) : Option Text :=
  let t := t.dropWhile isInlineBlank
  let t := if t.head? == some '#' then t.dropWhile (!isLineEnd ·) else t
  match t with
  | [] => some []
  | c :: rest => if isLineEnd c then some rest else none

/-- The binding that stands here, if any, and what follows it. -/
def readBinding (t : Text) : Option Binding × Text :=
  let t := skipExport t
  match readName t with
  | none => (none, nextLine t)
  | some (name, rest) =>
    let rest := rest.dropWhile isInlineBlank
    let finish (value : Option Text) (rest : Text) : Option Binding × Text :=
      match afterLine? rest with
      | some rest => (name.map (·, value), rest)
      | none => (none, nextLine rest)
    match rest with
    | '=' :: rest =>
      let rest := rest.dropWhile isInlineBlank
      match readValue rest with
      | some (value, rest) => finish (some value) rest
      | none => (none, nextLine rest)
    | _ => finish none rest

def bindingsFrom : Nat → Text → List Binding
  | 0, _ => []
  | n + 1, t =>
    let t := t.dropWhile Text.isBlank
    if t.isEmpty then []
    else
      let (binding, rest) := readBinding t
      binding.toList ++ bindingsFrom n rest

/-- The bindings of a text, in order. Each takes at least one character. -/
def bindings (t : Text) : List Binding := bindingsFrom t.length t

/-! ## References -/

/-- The reference that stands behind a dollar sign: its name, its default, and what follows it. -/
def readReference (t : Text) : Option (Text × Text × Text) :=
  match t with
  | '{' :: rest =>
    let inName := fun c => c != '}' && c != ':'
    let name := rest.takeWhile inName
    match rest.dropWhile inName with
    | '}' :: rest => some (name, [], rest)
    | ':' :: '-' :: rest =>
      match rest.dropWhile (· != '}') with
      | _ :: behind => some (name, rest.takeWhile (· != '}'), behind)
      | [] => none
    | _ => none
  | _ => none

/-- The text with its references replaced. The number bounds how many characters are read. -/
def expandFrom (value : Text → Text → Text) : Nat → Text → Text
  | 0, _ => []
  | _, [] => []
  | n + 1, c :: rest =>
    match if c == '$' then readReference rest else none with
    | some (name, default, rest) => value name default ++ expandFrom value n rest
    | none => c :: expandFrom value n rest

/-- The text with every reference replaced by the value that is given for its name and default. -/
def expand (value : Text → Text → Text) (t : Text) : Text := expandFrom value t.length t

/-- The value of a name: as set in the file so far, else as set outside, else the default. A name
    that the file mentions without setting it has no value. -/
def valueOf (outside : Environment) (sofar : List Binding) (name default : Text) : Text :=
  match sofar.lookup name with
  | some value => value.getD []
  | none => (outside.lookup name).getD default

/-- The bindings with one more, in its place if its name was bound before. -/
def bind (name : Text) (value : Option Text) : List Binding → List Binding
  | [] => [(name, value)]
  | (n, v) :: rest =>
    if n == name then (n, value) :: rest else (n, v) :: bind name value rest

/-- The bindings with all references replaced, each name once. -/
def resolve (outside : Environment) (raw : List Binding) : List Binding :=
  raw.foldl (fun sofar (name, value) =>
    bind name (value.map (expand (valueOf outside sofar))) sofar) []

/-- What an environment file says, given the environment outside. -/
def read (outside : Environment) (t : Text) : List Binding := resolve outside (bindings t)

end EnvFile
end EntityDiagram
