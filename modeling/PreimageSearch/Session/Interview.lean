import PreimageSearch.Backend
import PreimageSearch.Catalog
import PreimageSearch.Console

/-!
# The interview

What the console asks before a run: an option of the main menu and, for a search, the operation, the
target sequence, the width of the search space, the width of the output and the output to match. The
bounds of the questions are those of the searches, so no accepted answer is refused later.
-/

namespace PreimageSearch

/-- Why a session ends before the operator leaves it. -/
inductive SessionError where
  | console (error : ConsoleError)
  | catalog (error : CatalogError)
  | backend (error : BackendError)
  deriving DecidableEq, Repr

/-- The wording of a failure. -/
def SessionError.message : SessionError → String
  | console error => "Console error: " ++ error.message
  | catalog error => error.message
  | backend error => "Backend failed: " ++ error.message

/-- What is done with a search. -/
inductive Mode where
  | analyze
  | simulate
  deriving DecidableEq, Repr

def Mode.name : Mode → String
  | analyze => "Analyze"
  | simulate => "Simulate"

/-- The options of the main menu. -/
inductive MenuOption where
  | analyze
  | simulate
  | help
  | quit
  deriving DecidableEq, Repr

namespace MenuOption

/-- Every option, in menu order. -/
def all : List MenuOption :=
  [analyze, simulate, help, quit]

def label : MenuOption → String
  | analyze => "analyze"
  | simulate => "simulate"
  | help => "help"
  | quit => "quit"

/-- The option of a label, white space around it ignored. -/
def ofInput? (input : String) : Option MenuOption :=
  all.find? fun option => option.label.toList == Blank.trim input.toList

end MenuOption

namespace Interview

open Dialogue

/-- A conversation as part of a session. -/
instance : MonadLift (Dialogue ConsoleError) (Dialogue SessionError) where
  monadLift dialogue := dialogue.adapt SessionError.console

def mainMenu : Dialogue ConsoleError MenuOption :=
  choose "Main menu:" MenuOption.label MenuOption.all

/-- Gives up on a sequence that was refused. -/
def accepted (targets : Except ParameterError TargetSequence) :
    Dialogue ConsoleError TargetSequence :=
  match targets with
  | .ok targets => return targets
  | .error error => throw (.refused error)

/-- The target sequence of a method, after the number it takes. -/
def targetsOf : SearchMethod → Dialogue ConsoleError TargetSequence
  | .single => return .single
  | .multiple => do
    let count ← askCount 64 "Number of search targets?" Limits.minTargets Limits.maxTargets
    accepted (TargetSequence.multiple count)
  | .arithmetic => do
    let count ← askCount 64 "Max number of search targets?" Limits.minTargets
      Limits.maxArithmeticTargets
    accepted (TargetSequence.arithmetic count)
  | .geometric => do
    let count ← askCount 32 "Number of search attempts?" Limits.minGeometricAttempts
      Limits.maxGeometricAttempts
    accepted (TargetSequence.geometric count)

/-- The target sequence of a method chosen from a menu. -/
def targets : Dialogue ConsoleError TargetSequence := do
  let method ← choose "Choose a search method:" SearchMethod.label SearchMethod.all
  targetsOf method

/-- The output width of an operation; a dynamic one is asked for. -/
def outputWidth : OutputWidth → Dialogue ConsoleError Nat
  | .fixed width => return width
  | .dynamic => askCount 32 "Output length?" Limits.minOutputWidth Limits.maxOutputWidth

def operationPrompt : Mode → String
  | .analyze => "Choose an operation to analyze:"
  | .simulate => "Choose an operation to simulate:"

/-- The names that a mode offers. -/
def operationNames (catalog : Catalog) : Mode → List String
  | .analyze => catalog.analysisNames
  | .simulate => catalog.simulationNames

/-- The result of a step of the catalog. -/
def fromCatalog {α : Type} : Except CatalogError α → Dialogue SessionError α
  | .ok a => return a
  | .error error => throw (.catalog error)

/-- The search that the operator describes. -/
def search (catalog : Catalog) (mode : Mode) : Dialogue SessionError Search := do
  let name ← choose (operationPrompt mode) id (operationNames catalog mode)
  let targets ← targets
  let inputWidth ← askCount 32 "Enter size of search space in bits (<63):"
    Limits.minInputWidth Limits.maxInputWidth
  let operation ← fromCatalog (catalog.find name)
  let outputWidth ← outputWidth operation.outputWidth
  let output ← askHex "Enter known output for which to find a matching input (hex):"
    (maxOfWidth outputWidth)
  fromCatalog (catalog.search name targets inputWidth outputWidth output)

/-- What the operator asks for in one turn of the main menu. -/
inductive Request where
  | run (mode : Mode) (search : Search)
  | help
  | quit

/-- One turn of the main menu, with all the questions that it leads to. -/
def request (catalog : Catalog) : Dialogue SessionError Request := do
  match ← mainMenu with
  | .analyze => return .run .analyze (← search catalog .analyze)
  | .simulate => return .run .simulate (← search catalog .simulate)
  | .help => return .help
  | .quit => return .quit

end Interview

end PreimageSearch
