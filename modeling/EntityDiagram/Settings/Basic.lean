import EntityDiagram.Settings.EnvFile
import EntityDiagram.Text.LowerCase
import EntityDiagram.Text.Word
import EntityDiagram.Validation

/-!
# Settings

A run starts from settings that the environment may change. Each setting has a name in the
environment, which letter case does not matter to. A value given there counts before one from the
environment file, and that before the default. Values come as text and are checked together, so
everything that is wrong with them is reported at once.
-/

namespace EntityDiagram

structure Settings where
  modelsDir : Text := "./app/Models"
  outputDir : Text := "./erd-output"
  title : Text := "Laravel ERD Diagram"
  includeRelations : Bool := true
  filePattern : Text := "**/*.php"
  maxParallelReads : Int := 8
  scriptUrl : Text := "https://cdn.jsdelivr.net/npm/mermaid/dist/mermaid.min.js"
  deriving DecidableEq

namespace Settings

/-! ## Integers -/

def longestInteger : Nat := 4300

/-- A text that begins with a zero, without the zeros and underscores before its first other digit.
    One character is kept in front of a point and at the end. Given is the last one dropped. -/
def dropZeros (last : Char) : Text → Text
  | [] => [last]
  | c :: rest =>
    if c == '0' || c == '_' then dropZeros c rest
    else if c == '.' then last :: c :: rest
    else c :: rest

/-- The digits of a text in which single underscores may stand between digits. -/
def groupedDigits? (t : Text) : Option Text :=
  let groups := Text.split '_' t
  if groups.all fun group => !group.isEmpty && group.all Text.isAsciiDigit then some groups.flatten
  else none

/-- The number that a text without a sign stands for. Zeros behind a point change nothing. -/
def readDigits? (t : Text) : Option Nat :=
  let t := match t with
    | '0' :: rest => dropZeros '0' rest
    | _ => t
  let whole := Text.beforeFirst '.' t
  let digits := match t.drop whole.length with
    | [] => groupedDigits? whole
    | _ :: zeros =>
      if !zeros.isEmpty && zeros.all (· == '0') then groupedDigits? whole else none
  digits.map fun digits => digits.foldl (fun n c => n * 10 + (c.toNat - 48)) 0

/-- The integer that a text stands for, white space around it aside. -/
def readInteger (t : Text) : Checked Int :=
  if t.length > longestInteger then .fail .oversizedInteger
  else
    let stripped := Text.dropEnd Text.isUnicodeBlank (t.dropWhile Text.isUnicodeBlank)
    let read := match stripped with
      | '-' :: rest => (readDigits? rest).map fun n => -Int.ofNat n
      | '+' :: rest => (readDigits? rest).map Int.ofNat
      | rest => (readDigits? rest).map Int.ofNat
    match read with
    | some i => .valid i
    | none => .fail .unreadableInteger

/-- An integer that is not below a least one. -/
def atLeast (least : Int) (t : Text) : Checked Int :=
  match readInteger t with
  | .valid i => if least ≤ i then .valid i else .fail (.below least)
  | .invalid issues => .invalid issues

/-! ## Reading settings -/

/-- What every name in the environment begins with, in lower case. -/
def namePrefix : Text := "laravel2erd_"

/-- The value given for a setting: the last one whose name is right but for letter case. -/
def given? (bindings : List EnvFile.Binding) (name : Text) : Option Text :=
  match (bindings.filter fun b => Text.lower b.1 == namePrefix ++ name).getLast? with
  | some (_, value) => value
  | none => none

/-- The value of a setting, checked; the default when none is given. -/
def field {α : Type} (environment : Environment) (file : List EnvFile.Binding) (name : Text)
    (default : α) (check : Text → Checked α) : Checked α :=
  match given? (environment.map fun (n, v) => (n, some v)) name <|> given? file name with
  | some value => (check value).within (.field name)
  | none => .valid default

def check (environment : Environment) (file : List EnvFile.Binding) : Checked Settings :=
  let standard : Settings := {}
  Settings.mk
    <$> field environment file "models_dir" standard.modelsDir .valid
    <*> field environment file "output_dir" standard.outputDir .valid
    <*> field environment file "title" standard.title .valid
    <*> field environment file "include_relations" standard.includeRelations readFlag
    <*> field environment file "file_pattern" standard.filePattern .valid
    <*> field environment file "max_parallel_reads" standard.maxParallelReads (atLeast 1)
    <*> field environment file "mermaid_cdn_url" standard.scriptUrl .valid

/-- The settings that an environment and the text of an environment file give. -/
def read (environment : Environment) (file : Option Text) : Except Invalid Settings :=
  let bindings := match file with
    | some text => EnvFile.read environment text
    | none => []
  (check environment bindings).toResult "Settings"

end Settings
end EntityDiagram
