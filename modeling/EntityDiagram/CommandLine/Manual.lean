import EntityDiagram.Program
import EntityDiagram.Text.Basic

/-!
# What a command says about itself

A command line that asks for help is answered with the manual, and one that is wrong with the first
part of it, the usage, and the reason. The lines fit a terminal of eighty columns.
-/

namespace EntityDiagram
namespace CommandLine

/-- Lines, each with a line feed at its end. -/
def ofLines (lines : List Text) : Text := lines.flatMap (· ++ ['\n'])

structure Manual where
  command : Text
  usage : List Text
  purpose : Text
  switches : List Text

namespace Manual

def help (m : Manual) : Text :=
  ofLines (m.usage ++ [[], m.purpose, [], ("options:" : Text)] ++ m.switches)

def refusal (m : Manual) (reason : Text) : Text :=
  ofLines (m.usage ++ [m.command ++ (": error: " : Text) ++ reason])

def generate : Manual where
  command := Program.name
  usage := [
    "usage: laravel2erd [-h] [--version] [-o OUTPUT] [-m MODELS]",
    "                   [-r | --relations | --no-relations] [-t TITLE] [--clean]",
    "                   [-v]"]
  purpose := "Generate ERD diagrams for Laravel applications"
  switches := [
    "  -h, --help            show this help message and exit",
    "  --version             show program's version number and exit",
    "  -o OUTPUT, --output OUTPUT",
    "                        Output directory for ERD (default: public/laravel2erd)",
    "  -m MODELS, --models MODELS",
    "                        Models directory (default: app/Models)",
    "  -r, --relations, --no-relations",
    "                        Include relationships",
    "  -t TITLE, --title TITLE",
    "                        Diagram title",
    "  --clean               Empty the output directory before writing",
    "  -v, --verbose         Enable debug logging"]

def setup : Manual where
  command := Program.setupName
  usage := ["usage: laravel2erd-setup [-h]"]
  purpose := "Create the public output directory for laravel2erd"
  switches := ["  -h, --help  show this help message and exit"]

end Manual
end CommandLine
end EntityDiagram
