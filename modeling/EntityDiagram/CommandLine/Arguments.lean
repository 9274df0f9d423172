import EntityDiagram.Text.Quoted
import EntityDiagram.Text.Word

/-!
# Command lines

A command line is a list of arguments, and a command knows a few switches. A switch has one or more
names, and some take a value. This module turns the one into a list of *uses* of the other, in order,
or into the message that says why it cannot.

The rules are those of long practice. A long name may be shortened as far as no other name begins
the same way, and its value may follow after an equals sign. Short names may be run together, and
the value of the last may follow directly. Two dashes on their own end the switches. A text that
looks like a number, or has a space in it, is a value although it begins with a dash.

All arguments are first read one by one, which tells switches from values; only then are values
given to the switches before them. A name that is ambiguous is therefore found out before anything
else, while what a switch lacks is found out when its turn comes.
-/

namespace EntityDiagram
namespace CommandLine

/-! ## Switches -/

/-- What a command knows: the names of its switches in the order in which they are listed, which
    switches take a value, and how a message calls a switch. -/
structure Vocabulary (σ : Type) where
  names : List (Text × σ)
  takesValue : σ → Bool

namespace Vocabulary

variable {σ : Type} [BEq σ]

/-- All names of a switch, as a message shows them. -/
def shown (v : Vocabulary σ) (s : σ) : Text :=
  Text.join ['/'] ((v.names.filter (·.2 == s)).map (·.1))

/-- The switch with exactly the given name. -/
def named? (v : Vocabulary σ) (name : Text) : Option σ := v.names.lookup name

end Vocabulary

/-! ## Reading arguments one by one -/

inductive Attached where
  | nothing
  | directly (t : Text)
  | equals (t : Text)
  deriving DecidableEq

inductive Reading (σ : Type) where
  | value
  /-- Two dashes, which end the switches. -/
  | dashes
  /-- A switch, the name that it goes by here, and what is attached. -/
  | use (switch : σ) (name : Text) (attached : Attached)
  /-- An argument that begins like a switch and is none. -/
  | unknown

/-- The text before the first equals sign, and the text behind it if there is one. -/
def cutAtEquals (t : Text) : Text × Option Text :=
  match t.dropWhile (· != '=') with
  | [] => (t, none)
  | _ :: rest => (t.takeWhile (· != '='), some rest)

/-- Whether a text is a negative number: a dash and digits, perhaps with a point before the last of
    them. A line feed may follow. -/
def isNegativeNumber (t : Text) : Bool :=
  let t := if t.getLast? == some '\n' then t.dropLast else t
  match t with
  | '-' :: rest => match rest.dropWhile Text.isDecimalDigit with
    | [] => !rest.isEmpty
    | '.' :: places => !places.isEmpty && places.all Text.isDecimalDigit
    | _ => false
  | _ => false

/-- The ways to read an argument as a switch by a shortened long name, or by a short name with
    something directly behind it. -/
def candidates {σ : Type} (v : Vocabulary σ) (argument : Text) : List (σ × Text × Attached) :=
  if ("--" : Text).isPrefixOf argument then
    let (shortened, value) := cutAtEquals argument
    let attached := match value with
      | some t => Attached.equals t
      | none => Attached.nothing
    (v.names.filter fun n => shortened.isPrefixOf n.1).map fun n => (n.2, n.1, attached)
  else
    (v.names.filter fun n => n.1 == argument.take 2).map fun n =>
      (n.2, n.1, Attached.directly (argument.drop 2))

/-- What an argument is on its own, or the message that it is ambiguous. -/
def readArgument {σ : Type} (v : Vocabulary σ) (argument : Text) : Except Text (Reading σ) :=
  if argument.head? != some '-' then .ok .value
  else match v.named? argument with
    | some s => .ok (.use s argument .nothing)
    | none =>
      if argument.length == 1 then .ok .value
      else
        let (name, value) := cutAtEquals argument
        match v.named? name, value with
        | some s, some t => .ok (.use s name (.equals t))
        | _, _ => match candidates v argument with
          | [(s, name, attached)] => .ok (.use s name attached)
          | [] =>
            if isNegativeNumber argument || argument.contains ' ' then .ok .value
            else .ok .unknown
          | several => .error ("ambiguous option: " ++ argument ++ (" could match " : Text)
              ++ Text.join ", " (several.map (·.2.1)))

/-- The readings of all arguments, each with its argument. All that follows two dashes is a
    value. -/
def readArguments {σ : Type} (v : Vocabulary σ) :
    List Text → Except Text (List (Text × Reading σ))
  | [] => .ok []
  | argument :: rest =>
    if argument = ("--" : Text) then
      .ok ((argument, .dashes) :: rest.map fun a => (a, .value))
    else match readArgument v argument with
      | .error message => .error message
      | .ok reading => (readArguments v rest).map ((argument, reading) :: ·)

/-! ## Uses -/

/-- A switch as a command line uses it: the name that it goes by, shortened names completed, and
    its value if it takes one. -/
structure Use (σ : Type) where
  switch : σ
  name : Text
  value : Option Text := none
  deriving DecidableEq

/-- What the uses in one argument come to. -/
inductive Chain (σ : Type) where
  /-- Complete uses, and the rest of the argument that is no switch, if there is any. -/
  | complete (uses : List (Use σ)) (stray : Option Text)
  /-- Complete uses, and a last one whose value is the next argument. -/
  | needsValue (uses : List (Use σ)) (last : Use σ)
  | wrong (message : Text)

variable {σ : Type} [BEq σ]

def about (v : Vocabulary σ) (s : σ) (problem : Text) : Text :=
  "argument " ++ v.shown s ++ (": " : Text) ++ problem

def Chain.after (use : Use σ) : Chain σ → Chain σ
  | complete uses stray => complete (use :: uses) stray
  | needsValue uses last => needsValue (use :: uses) last
  | wrong message => wrong message

def Chain.alone (v : Vocabulary σ) (s : σ) (name : Text) : Chain σ :=
  if v.takesValue s then .needsValue [] ⟨s, name, none⟩ else .complete [⟨s, name, none⟩] none

/-- A switch with a value attached, which it must take. -/
def Chain.withValue (v : Vocabulary σ) (s : σ) (name value : Text) : Chain σ :=
  if v.takesValue s then .complete [⟨s, name, some value⟩] none
  else .wrong (about v s ("ignored explicit argument " ++ Text.quoted value))

/-- The uses in a run of short names of which the first is given, with what follows it. -/
def shortChain (v : Vocabulary σ) (s : σ) (name : Text) : Text → Chain σ
  | [] => .alone v s name
  | c :: rest =>
    if v.takesValue s || c == '-' then .withValue v s name (c :: rest)
    else match v.named? ['-', c] with
      | none => .complete [⟨s, name, none⟩] (some ('-' :: c :: rest))
      | some next =>
        let tail : Chain σ := match rest with
          | '=' :: value => .withValue v next ['-', c] value
          | _ => shortChain v next ['-', c] rest
        tail.after ⟨s, name, none⟩

/-- The uses in one argument. -/
def chainOf (v : Vocabulary σ) (s : σ) (name : Text) : Attached → Chain σ
  | .nothing => .alone v s name
  | .equals value => .withValue v s name value
  | .directly rest => shortChain v s name rest

/-! ## Whole command lines -/

/-- What a command line comes to: uses in order, and at the end the arguments that are no part of
    any, or what is wrong. Uses before the place where it is wrong still count. -/
inductive Parsed (σ : Type) where
  | use (u : Use σ) (rest : Parsed σ)
  | done (stray : List Text)
  | wrong (message : Text)

def Parsed.preceded (uses : List (Use σ)) (rest : Parsed σ) : Parsed σ :=
  uses.foldr Parsed.use rest

/-- What arguments come to, given the stray ones before them, last one first. -/
def parseReadings (v : Vocabulary σ) (stray : List Text) :
    List (Text × Reading σ) → Parsed σ
  | [] => .done stray.reverse
  | (argument, .value) :: rest => parseReadings v (argument :: stray) rest
  | (argument, .dashes) :: rest => parseReadings v (argument :: stray) rest
  | (argument, .unknown) :: rest => parseReadings v (argument :: stray) rest
  | (_, .use s name attached) :: rest =>
    match chainOf v s name attached with
    | .wrong message => .wrong message
    | .complete uses none => .preceded uses (parseReadings v stray rest)
    | .complete uses (some t) => .preceded uses (parseReadings v (t :: stray) rest)
    | .needsValue uses last => match rest with
      | (value, .value) :: rest =>
        .preceded (uses ++ [{ last with value := some value }]) (parseReadings v stray rest)
      | _ => .wrong (about v last.switch "expected one argument")

def parse (v : Vocabulary σ) (arguments : List Text) : Parsed σ :=
  match readArguments v arguments with
  | .error message => .wrong message
  | .ok readings => parseReadings v [] readings

def unrecognized (stray : List Text) : Text :=
  "unrecognized arguments: " ++ Text.join [' '] stray

end CommandLine
end EntityDiagram
