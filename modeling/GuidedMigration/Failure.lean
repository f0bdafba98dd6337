/-
This file says why a migration fails: what is missing, what cannot be read, what an instruction asks
for in vain, and what a phase needs first. Some failures are recoverable: the instruction that meets
one leaves a warning, and the migration goes on.
-/
import GuidedMigration.Config.Block
import GuidedMigration.Json.Datum
import GuidedMigration.Tree.Basic
import GuidedMigration.Yaml.Cursor

namespace GuidedMigration

/-- What must be there and is not. -/
inductive Missing where
  | document
  | required
  | scaffold
  deriving DecidableEq

/-- What is written wrongly in a file or a block. -/
inductive Malformed where
  | undecodable (path : Path) (fault : Utf8.Fault)
  | block (line : Nat) (fault : Config.BlockFault)
  | yaml (path : Path)
  | notMapping (path : Path) (found : Text)
  | json (path : Path) (detail : Text)
  | fragment (detail : Text)
  | fragmentKind

/-- What an instruction asks for in vain. -/
inductive Refusal where
  | outside (destination : Text)
  | manifestMissing (path : Path)
  | targetMissing (path : Path)
  | catalogMissing (path : Path)
  | noAnchor (label : Text) (fragment : Text)
  | notPresent (name : Text) (primitive : Text)
  | noPath (instruction : Text)
  | noImportNamed (instruction : Text)
  | nothingToDelete (instruction : Text)
  | noStatement (instruction : Text)
  | noModule (instruction : Text)

/-- What a phase needs before it can run. -/
inductive Prerequisite where
  | scaffoldIncomplete (failed : List Text)
  | scaffoldFailed
  | authIncomplete (failed : List Text)
  | noOrchestrator
  | integrationType (name : Text)
  | noRepository
  | stated (message : Text)

/-- A value that the program is given and cannot use. -/
inductive BadValue where
  | longInteger (refusal : LongInteger)
  | unwritableInteger
  | configuration
  | valuesMissing (path : Text)
  | valuesMalformed (path : Text)
  | valuesKind (path : Text) (found : Text)
  | phase (number : Int)
  | catalogMode (name : Text)
  | targetRole (name : Text)
  | runName
  | integer (base : Nat) (written : Text)

/-- A value of a kind for which there is no rule. -/
inductive Mismatch where
  | dialect
  | manifest
  | section
  | settings
  | overrides
  | primitive
  deriving DecidableEq

/-- Why a migration or a part of it fails. -/
inductive Failure where
  | absent (what : Missing) (path : Path)
  | sourceAbsent (path : Path)
  | malformed (what : Malformed)
  | refused (why : Refusal)
  | prerequisite (what : Prerequisite)
  | checks (count : Nat)
  | file (fault : FileFault)
  | undecodable (fault : Utf8.Fault)
  | unencodable (fault : Json.Word.Unencodable)
  | value (what : BadValue)
  | yaml (fault : Yaml.Fault)
  | mismatch (what : Mismatch)
  /-- Fields of the settings, each with the kind of what is wrong. -/
  | settings (fields : List (Text × Text))

/-! ### Wording -/

/-- The wording in place of the report on a malformed YAML text. -/
def yamlErrorMessage : Text := "<yaml error>".toList

/-- What is missing, in words. -/
def Missing.message (path : Path) : Missing → Text
  | .document => "Document not found: ".toList ++ path.toText
  | .required => "Required path not found: ".toList ++ path.toText
  | .scaffold => "Destination scaffold not found: ".toList ++ path.toText

/-- A number of line of a block and what is wrong with it. -/
def blockMessage (line : Nat) (fault : Config.BlockFault) : Text :=
  "line ".toList ++ Text.ofNat line ++ [':', ' '] ++ fault.message

/-- What is written wrongly, in words. -/
def Malformed.message : Malformed → Text
  | .undecodable path fault =>
    "Cannot decode ".toList ++ path.toText ++ [':', ' '] ++ fault.message
  | .block line fault => blockMessage line fault
  | .yaml path => "Invalid YAML in ".toList ++ path.toText ++ [':', ' '] ++ yamlErrorMessage
  | .notMapping path found =>
    "Invalid YAML in ".toList ++ path.toText ++ ": expected a mapping, got ".toList ++ found
  | .json path detail => "Invalid JSON in ".toList ++ path.toText ++ [':', ' '] ++ detail
  | .fragment detail => "Invalid manifest fragment: ".toList ++ detail
  | .fragmentKind => "Manifest fragment is not an object".toList

/-- What is asked for in vain, in words. -/
def Refusal.message : Refusal → Text
  | .outside destination =>
    "Refusing to copy outside destination tree: ".toList ++ destination
  | .manifestMissing path => "Manifest missing: ".toList ++ path.toText
  | .targetMissing path => "Target file missing: ".toList ++ path.toText
  | .catalogMissing path => "Catalog descriptor missing: ".toList ++ path.toText
  | .noAnchor label fragment => "No anchor found in ".toList ++ label ++
      " for fragment: ".toList ++ (Text.trim fragment).take 60
  | .notPresent name primitive => "Fragment not present in ".toList ++ name ++
      " after ".toList ++ primitive ++ " insertion".toList
  | .noPath instruction => "No path found in copy instruction: ".toList ++ instruction
  | .noImportNamed instruction => "No import named in: ".toList ++ instruction
  | .nothingToDelete instruction => "Nothing to delete in: ".toList ++ instruction
  | .noStatement instruction => "No import statement found in: ".toList ++ instruction
  | .noModule instruction => "No module named in: ".toList ++ instruction

/-- What a phase needs first, in words. -/
def Prerequisite.message : Prerequisite → Text
  | .scaffoldIncomplete failed =>
    "Scaffold phase incomplete: ".toList ++ Text.joinWith [',', ' '] failed
  | .scaffoldFailed => "Scaffold phase failed; cannot continue with auth".toList
  | .authIncomplete failed => "Auth phase incomplete: ".toList ++ Text.joinWith [',', ' '] failed
  | .noOrchestrator => "Templates/plugins phase requires an orchestrator".toList
  | .integrationType name => "Unknown integration type ".toList ++ Text.quoted name ++
      "; expected one of templates, plugins, both".toList
  | .noRepository => "Remote catalog onboarding needs at least one repository URL".toList
  | .stated message => message

/-- A text that writes no integer to a base, in words. -/
def integerMessage (base : Nat) (written : Text) : Text :=
  "invalid literal for int() with base ".toList ++ Text.ofNat base ++ [':', ' '] ++
    Text.quoted written

/-- A value that cannot be used, in words. -/
def BadValue.message : BadValue → Text
  | .longInteger refusal => refusal.message
  | .unwritableInteger => LongInteger.unwritable
  | .configuration => "Invalid config.yaml: ".toList ++ yamlErrorMessage
  | .valuesMissing path => "Values file not found: ".toList ++ path
  | .valuesMalformed path => "Invalid values file ".toList ++ path ++ [':', ' '] ++ yamlErrorMessage
  | .valuesKind path found => "Invalid values file ".toList ++ path ++
      ": expected a mapping, got ".toList ++ found
  | .phase number => Text.ofInt number ++ " is not a valid Phase".toList
  | .catalogMode name => Text.quoted name ++ " is not a valid CatalogMode".toList
  | .targetRole name => Text.quoted name ++ " is not a valid TargetRole".toList
  | .runName => "badly formed hexadecimal UUID string".toList
  | .integer base written => integerMessage base written

/-- A fault of a YAML text, in words. -/
def Yaml.Fault.message : Yaml.Fault → Text
  | .malformed => yamlErrorMessage
  | .noCharacter => "chr() arg not in range(0x110000)".toList
  | .integer base written => integerMessage base written
  | .longInteger refusal => refusal.message
  | .number written => "could not convert string to float: ".toList ++ Text.quoted written
  | .noDigits => "string index out of range".toList
  | .date fault => fault.message
  | .truth => []
  | .moment => []
  | .tooLarge => []
  | .endless => "maximum recursion depth exceeded in comparison".toList

/-- The wording of a failure. -/
def Failure.message : Failure → Text
  | .absent what path => what.message path
  | .sourceAbsent path => "Copy source not found: ".toList ++ path.toText
  | .malformed what => what.message
  | .refused why => why.message
  | .prerequisite what => what.message
  | .checks count => Text.ofNat count ++ " validation check(s) failed".toList
  | .file fault => fault.message
  | .undecodable fault => fault.message
  | .unencodable fault => fault.message
  | .value what => what.message
  | .yaml fault => fault.message
  | .mismatch _ => []
  | .settings fields => Text.ofNat fields.length ++ " validation error(s) for Settings".toList ++
      fields.flatMap fun (field, fault) => "\n  ".toList ++ field ++ [':', ' '] ++ fault

/-! ### Recovery -/

/-- Whether a fault of files is one of the system; a path with a null character is not. -/
def FileFault.isSystem : FileFault → Bool
  | .nullCharacter => false
  | _ => true

/-- Whether an instruction that fails this way leaves a warning and lets the next one run. -/
def Failure.isRecoverable : Failure → Bool
  | .sourceAbsent _ => true
  | .malformed _ => true
  | .refused _ => true
  | .file fault => fault.isSystem
  | _ => false

/-- Whether a failure is one of the migration itself. -/
def Failure.isOwn : Failure → Bool
  | .absent _ _ => true
  | .sourceAbsent _ => true
  | .malformed _ => true
  | .refused _ => true
  | .prerequisite _ => true
  | .checks _ => true
  | _ => false

/-- Whether a failure ends a phase without ending the migration. -/
def Failure.endsPhase (failure : Failure) : Bool :=
  failure.isOwn || match failure with
    | .file fault => fault.isSystem
    | _ => false

/-- Whether a fault of a YAML text is a value that cannot be used, and not one of a kind for which
there is no rule. -/
def Yaml.Fault.isValue : Yaml.Fault → Bool
  | .malformed | .truth | .moment | .noDigits | .tooLarge | .endless => false
  | .noCharacter | .integer _ _ | .longInteger _ | .number _ | .date _ => true

/-- Whether a failure is a value that cannot be used. -/
def Failure.isValue : Failure → Bool
  | .value _ => true
  | .settings _ => true
  | .undecodable _ => true
  | .unencodable _ => true
  | .yaml fault => fault.isValue
  | .file fault => !fault.isSystem
  | _ => false

/-- The path that a failure is about, if it is one of a missing path. -/
def Failure.path? : Failure → Option Path
  | .absent _ path => some path
  | .sourceAbsent path => some path
  | _ => none

end GuidedMigration
