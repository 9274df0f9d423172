import EntityDiagram.Text.Basic

/-!
# The program's name and version

What the program calls itself on its command line.
-/

namespace EntityDiagram
namespace Program

def name : Text := "laravel2erd"

def setupName : Text := "laravel2erd-setup"

/-- The version, as the command shows it. -/
def version : Text := "0.3.0"

end Program
end EntityDiagram
