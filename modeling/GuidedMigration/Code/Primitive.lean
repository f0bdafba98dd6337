/-
This file defines the seven kinds of fragment that are inserted into source files, each with the
places where it may go, the best one first.
-/
import GuidedMigration.Code.Insertion

namespace GuidedMigration.Code

/-- A kind of fragment. A constant names the definition it stands before, a component the definition
it goes into, and an entity route the layout it goes into. -/
inductive Primitive where
  | importStatement
  | constant (before : Text)
  | appConstant
  | component (within : Text)
  | route
  | entityRoute (layout : Text)
  | registration
  deriving DecidableEq

namespace Primitive

/-- A constant before the entity page. -/
def entityConstant : Primitive := .constant "EntityPage".toList

/-- A component on the overview. -/
def overviewComponent : Primitive := .component "overviewContent".toList

/-- A route of the page of services. -/
def serviceRoute : Primitive := .entityRoute "serviceEntityPage".toList

/-- The name of a kind of fragment. -/
def name : Primitive → Text
  | .importStatement => "import".toList
  | .constant _ => "constant".toList
  | .appConstant => "app-constant".toList
  | .component _ => "component".toList
  | .route => "route".toList
  | .entityRoute _ => "entity-route".toList
  | .registration => "registration".toList

/-- The kinds of fragment by name, with the definitions they usually go to. -/
def all : List Primitive :=
  [.importStatement, entityConstant, .appConstant, overviewComponent, .route, serviceRoute,
    .registration]

/-- The kind of fragment with a name. -/
def ofName? (name : Text) : Option Primitive := all.find? (·.name = name)

/-- The places where a kind of fragment may go. -/
def chain : Primitive → List Locator
  | .importStatement => [.importBlockEnd, .topOfFile]
  | .constant before => [.beforeDefinition before, .importBlockEnd, .endOfFile]
  | .appConstant => [.beforeDefinition "app".toList, .importBlockEnd, .endOfFile]
  | .component definition => [
      .insideElement "Grid".toList (some "container".toList) (some definition),
      .insideElement "Grid".toList (some "container".toList) none,
      .beforeLastClosingBrace, .endOfFile]
  | .route => [.insideElement "FlatRoutes".toList none none, .afterLastLine "<Route".toList,
      .beforeLastClosingBrace, .endOfFile]
  | .entityRoute layout => [.insideElement "EntityLayout".toList none (some layout),
      .insideElement "EntityLayout".toList none none, .beforeLastClosingBrace, .endOfFile]
  | .registration => [.beforeLine "backend.start()".toList, .endOfFile]

/-- Whether a kind of fragment is set off by blank lines. -/
def pads : Primitive → Bool
  | .constant _ | .appConstant | .registration => true
  | .importStatement | .component _ | .route | .entityRoute _ => false

/-- A content with a fragment of a kind inserted. -/
def insert? (primitive : Primitive) (content fragment : Text) : Option Insertion :=
  Code.insert? content fragment primitive.chain primitive.pads

/-- A content with fragments of a kind inserted one after the other, and what each insertion came
to. -/
def insertEach? (primitive : Primitive) : Text → List Text → Option (Text × List Insertion)
  | content, [] => some (content, [])
  | content, fragment :: fragments => do
    let insertion ← primitive.insert? content fragment
    let (content, insertions) ← primitive.insertEach? insertion.content fragments
    return (content, insertion :: insertions)

end Primitive

end GuidedMigration.Code
