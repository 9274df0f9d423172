import EntityDiagram.Text.Basic

/-!
# Checking what came from outside

Values that a person wrote by hand, in a document or in a settings file, are checked field by field,
and *every* field that is wrong is reported, not just the first. So a check gives either the checked
value or a list of issues, and checks are combined side by side: the issues of both are kept, in
order. An issue knows its place relative to the value checked, and a check of a part is moved under
the place of that part with `Checked.within`.
-/

namespace EntityDiagram

/-! ## Issues -/

/-- One step from a value to one of its parts. -/
inductive Place where
  | field (name : Text)
  | index (i : Nat)
  deriving DecidableEq

inductive Cause where
  /-- A field that must be given is not. -/
  | missing
  | notText
  /-- A text that must not be empty is. -/
  | emptyText
  | notList
  /-- A value that must have fields has none. -/
  | notRecord (expected : Text)
  | notFlag
  | unreadableFlag
  | unreadableInteger
  | oversizedInteger
  /-- An integer is below the least one allowed. -/
  | below (least : Int)
  deriving DecidableEq

namespace Cause

def code : Cause → Text
  | missing => "missing"
  | notText => "string_type"
  | emptyText => "string_too_short"
  | notList => "list_type"
  | notRecord _ => "model_type"
  | notFlag => "bool_type"
  | unreadableFlag => "bool_parsing"
  | unreadableInteger => "int_parsing"
  | oversizedInteger => "int_parsing_size"
  | below _ => "greater_than_equal"

def message : Cause → Text
  | missing => "Field required"
  | notText => "Input should be a valid string"
  | emptyText => "String should have at least 1 character"
  | notList => "Input should be a valid list"
  | notRecord expected => "Input should be a valid dictionary or instance of " ++ expected
  | notFlag => "Input should be a valid boolean"
  | unreadableFlag => "Input should be a valid boolean, unable to interpret input"
  | unreadableInteger =>
    "Input should be a valid integer, unable to parse string as an integer"
  | oversizedInteger =>
    "Unable to parse input string as an integer, exceeded maximum size"
  | below least => "Input should be greater than or equal to " ++ Text.ofInt least

end Cause

structure Issue where
  place : List Place
  cause : Cause
  deriving DecidableEq

structure Invalid where
  kind : Text
  issues : List Issue
  deriving DecidableEq

def Invalid.message (i : Invalid) : Text :=
  Text.ofNat i.issues.length
    ++ (if i.issues.length == 1 then (" validation error for " : Text)
        else (" validation errors for " : Text)) ++ i.kind

/-! ## Checks -/

inductive Checked (α : Type) where
  | valid (value : α)
  | invalid (issues : List Issue)

namespace Checked

variable {α β : Type}

def map (f : α → β) : Checked α → Checked β
  | valid a => valid (f a)
  | invalid issues => invalid issues

/-- Two outcomes side by side: both values, or the issues of both. -/
def apply (f : Checked (α → β)) (a : Checked α) : Checked β :=
  match f, a with
  | valid f, valid a => valid (f a)
  | valid _, invalid issues => invalid issues
  | invalid issues, valid _ => invalid issues
  | invalid first, invalid second => invalid (first ++ second)

instance : Applicative Checked where
  pure := valid
  map := map
  seq f a := apply f (a ())

def fail (cause : Cause) : Checked α := invalid [⟨[], cause⟩]

/-- The outcome for a part, seen from the whole. -/
def within (part : Place) : Checked α → Checked α
  | valid a => valid a
  | invalid issues => invalid (issues.map fun i => { i with place := part :: i.place })

/-- The outcomes for the items of a list, the first of which has the given index. -/
def itemsFrom (check : β → Checked α) : Nat → List β → Checked (List α)
  | _, [] => valid []
  | i, b :: rest =>
    List.cons <$> (check b).within (.index i) <*> itemsFrom check (i + 1) rest

/-- The outcome as a result, the issues under the name of what was checked. -/
def toResult (kind : Text) : Checked α → Except Invalid α
  | valid a => .ok a
  | invalid issues => .error ⟨kind, issues⟩

end Checked

/-! ## Flags -/

def yesWords : List Text := ["1", "on", "t", "true", "y", "yes"]

def noWords : List Text := ["0", "off", "f", "false", "n", "no"]

/-- An ASCII letter in its small form; other characters as they are. -/
def asciiLower (c : Char) : Char :=
  if 'A' ≤ c && c ≤ 'Z' then Char.ofNat (c.toNat + 32) else c

/-- The flag that a word stands for, letter case aside. -/
def readFlag (word : Text) : Checked Bool :=
  let small := word.map asciiLower
  if yesWords.contains small then .valid true
  else if noWords.contains small then .valid false
  else .fail .unreadableFlag

end EntityDiagram
