import BundleManifest.Document.Reading

namespace BundleManifest

/-- The classes of rejection that callers tell apart. -/
inductive RejectionKind where
  | general
  | malformedManifest
  | malformedClause
  | malformedVersion
  | reservedNamespace
  | duplicateDeclaration
  | unsupportedLegacy
  | missingHeader
  | reservedAttribute
  | noMatchingClause
  deriving DecidableEq, Repr

def RejectionKind.code : RejectionKind → Text
  | .general => "manifest.error".toList
  | .malformedManifest => "manifest.malformed".toList
  | .malformedClause => "manifest.clause_syntax".toList
  | .malformedVersion => "manifest.malformed_version".toList
  | .reservedNamespace => "manifest.reserved_namespace".toList
  | .duplicateDeclaration => "manifest.duplicate_declaration".toList
  | .unsupportedLegacy => "manifest.unsupported_legacy_syntax".toList
  | .missingHeader => "manifest.missing_required_header".toList
  | .reservedAttribute => "manifest.reserved_attribute".toList
  | .noMatchingClause => "manifest.no_matching_native_clause".toList

/-- The two sorts of parameter a clause can carry. -/
inductive ParameterKind where
  | attr
  | directive
  deriving DecidableEq, Repr

def ParameterKind.word : ParameterKind → Text
  | .attr => "attribute".toList
  | .directive => "directive".toList

/-- The two directions of wiring that a package clause can declare. -/
inductive Wiring where
  | exporting
  | importing
  deriving DecidableEq, Repr

def Wiring.noun : Wiring → Text
  | .exporting => "export".toList
  | .importing => "import".toList

def Wiring.participle : Wiring → Text
  | .exporting => "Exporting".toList
  | .importing => "Importing".toList

/-- Why a selection filter cannot be read. -/
inductive FilterFault where
  | expected (c : Char)
  | noOperands (operator : Char)
  | trailing
  | missingKey
  | missingOperator
  | wildcard (operator : Text)
  | unterminated
  | openParenthesis
  | danglingEscape
  deriving DecidableEq, Repr

def FilterFault.message : FilterFault → Text
  | .expected c => "expected ".toList++Text.quoted [c]
  | .noOperands op => "empty ".toList++op::" expression".toList
  | .trailing => "trailing characters".toList
  | .missingKey => "missing attribute name".toList
  | .missingOperator => "missing operator".toList
  | .wildcard op => "wildcard not allowed with ".toList++op
  | .unterminated => "unterminated value".toList
  | .openParenthesis => "unescaped '('".toList
  | .danglingEscape => "dangling escape".toList

/-- The cause of a rejection. -/
inductive Rejection where
  | invalidVersion (value : Text)
  | invalidQualifier (value : Text)
  | invalidRange (value : Text)
  | reversedRange (value : Text)
  | unbalancedQuote (value : Text)
  | misplacedPath (piece clause : Text)
  | namelessParameter (clause : Text)
  | missingPath (clause : Text)
  | conflictingVersions (clause : Text)
  | repeatedParameter (kind : ParameterKind) (name clause : Text)
  | markerNotLast (value : Text)
  | repeatedSelectionFilter (clause : Text)
  | emptyFilter (filter : Option Text)
  | invalidFilter (filter : Text) (fault : FilterFault) (position : Nat)
  | reservedPackage (wiring : Wiring) (package : Text)
  | duplicateImport (package : Text)
  | legacyDirectives (wiring : Wiring) (package : Text)
  | legacyAttributes (wiring : Wiring) (package : Text) (attributes : List Text)
  | legacyRange (package range : Text)
  | legacyDynamicDirectives (package : Text)
  | legacyDynamicAttributes (package : Text)
  | missingSymbolicName (header : Text)
  | reservedAttribute (package name : Text)
  | noMatchingClause (clauses : Nat)
  | unknownManifestVersion (header value : Text)
  | malformedBundleVersion (header value : Text) (cause : Rejection)
  deriving DecidableEq, Repr

namespace Rejection

def kind : Rejection → RejectionKind
  | invalidVersion _ | invalidQualifier _ | invalidRange _ | reversedRange _ => .malformedVersion
  | unbalancedQuote _ | misplacedPath .. | namelessParameter _ | missingPath _
  | conflictingVersions _ | repeatedParameter .. | markerNotLast _ | repeatedSelectionFilter _
  | emptyFilter _ | invalidFilter .. => .malformedClause
  | reservedPackage .. => .reservedNamespace
  | duplicateImport _ => .duplicateDeclaration
  | legacyDirectives .. | legacyAttributes .. | legacyRange .. | legacyDynamicDirectives _
  | legacyDynamicAttributes _ => .unsupportedLegacy
  | missingSymbolicName _ => .missingHeader
  | reservedAttribute .. => .reservedAttribute
  | noMatchingClause _ => .noMatchingClause
  | unknownManifestVersion .. | malformedBundleVersion .. => .malformedManifest

/-- The wording shown to people. -/
def message : Rejection → Text
  | invalidVersion v => "Invalid version: ".toList++Text.quoted v
  | invalidQualifier v => "Invalid version qualifier: ".toList++Text.quoted v
  | invalidRange v => "Invalid version range: ".toList++Text.quoted v
  | reversedRange v => "Version range low bound exceeds high bound: ".toList++Text.quoted v
  | unbalancedQuote v => "Unbalanced quote in header value: ".toList++Text.quoted v
  | misplacedPath p c =>
    "Path ".toList++Text.quoted p++" must precede all parameters in clause: ".toList++Text.quoted c
  | namelessParameter c => "Parameter without a name in clause: ".toList++Text.quoted c
  | missingPath c => "Clause declares no path: ".toList++Text.quoted c
  | conflictingVersions c =>
    "Both version and specification-version are specified but differ: ".toList++Text.quoted c
  | repeatedParameter k n c =>
    "Duplicate ".toList++k.word++" ".toList++Text.quoted n++" in clause: ".toList++Text.quoted c
  | markerNotLast _ => "Optional native code clause '*' must be the last clause".toList
  | repeatedSelectionFilter c =>
    "Only one selection-filter is allowed per clause: ".toList++Text.quoted c
  | emptyFilter _ => "Empty selection filter".toList
  | invalidFilter t f p =>
    "Invalid selection filter ".toList++Text.quoted t++": ".toList++f.message++
      " at position ".toList++Decimal.natText p
  | reservedPackage w p => w.participle++" java.* packages not allowed: ".toList++p
  | duplicateImport p => "Duplicate import - ".toList++p
  | legacyDirectives w p => "R3 ".toList++w.noun++"s cannot contain directives: ".toList++p
  | legacyAttributes w p _ =>
    "R3 ".toList++w.noun++" syntax does not support attributes: ".toList++p
  | legacyRange p _ => "R3 imports cannot declare a version range: ".toList++p
  | legacyDynamicDirectives p => "R3 dynamic imports cannot contain directives: ".toList++p
  | legacyDynamicAttributes p => "R3 dynamic imports cannot contain attributes: ".toList++p
  | missingSymbolicName _ => "R4 bundle manifests must include bundle symbolic name.".toList
  | reservedAttribute p _ =>
    "Exports must not specify bundle symbolic name or bundle version: ".toList++p
  | noMatchingClause _ => "Unable to select a native library clause.".toList
  | unknownManifestVersion h v => "Unknown '".toList++h++"' value: ".toList++v
  | malformedBundleVersion h v _ => "Invalid '".toList++h++"' value: ".toList++v

/-- The texts and numbers that the rejection is about, by name. -/
def data : Rejection → Dictionary Document
  | invalidVersion v | invalidQualifier v | invalidRange v | reversedRange v | unbalancedQuote v
  | markerNotLast v => [("value".toList,.ofText v)]
  | misplacedPath _ c | namelessParameter c | missingPath c | conflictingVersions c
  | repeatedSelectionFilter c => [("clause".toList,.ofText c)]
  | repeatedParameter k n c => [("clause".toList,.ofText c),(k.word,.ofText n)]
  | emptyFilter t => [("filter".toList,.ofText? t)]
  | invalidFilter t _ p => [("filter".toList,.ofText t),("position".toList,.ofInt p)]
  | reservedPackage _ p | duplicateImport p | legacyDirectives _ p | legacyDynamicDirectives p
  | legacyDynamicAttributes p => [("package".toList,.ofText p)]
  | legacyAttributes _ p ns => [("package".toList,.ofText p),("attributes".toList,.ofTexts ns)]
  | legacyRange p r => [("package".toList,.ofText p),("version".toList,.ofText r)]
  | missingSymbolicName h => [("header".toList,.ofText h)]
  | reservedAttribute p a => [("package".toList,.ofText p),("attribute".toList,.ofText a)]
  | noMatchingClause n => [("clauses".toList,.ofInt n)]
  | unknownManifestVersion h v | malformedBundleVersion h v _ =>
    [("header".toList,.ofText h),("value".toList,.ofText v)]

/-- The rejection that this one was drawn from. -/
def cause? : Rejection → Option Rejection
  | malformedBundleVersion _ _ c => some c
  | _ => none

end Rejection

/-- What ends a computation without a value. -/
inductive Fault where
  /-- The manifest is refused. -/
  | rejected (cause : Rejection)
  /-- A numeral has more digits than are read or written. -/
  | numeralTooLong
  /-- A part of a document has the form of a value that there is not. -/
  | noSuchValue
  /-- A number does not fit the word that it is to be put in. -/
  | outOfRange
  /-- What nests goes deeper than there is room for on the stack. -/
  | nestedTooDeep
  /-- A number to be sent is infinite or undefined. -/
  | notFinite
  /-- Bytes that should hold text do not. -/
  | invalidUtf8
  /-- A text that has to be ASCII is not. -/
  | notAscii
  /-- A request is sent to something that is no target. -/
  | invalidTarget
  /-- A reader fails in a way of its own. -/
  | other (kind : Text)
  deriving DecidableEq, Repr

/-- The fault that a failure to read amounts to; a malformed text is none by itself. -/
def Document.Failure.fault? : Document.Failure → Option Fault
  | .malformed _ => none
  | .numeralTooLong => some .numeralTooLong
  | .noSuchValue => some .noSuchValue
  | .outOfRange => some .outOfRange
  | .nestedTooDeep => some .nestedTooDeep
  | .other kind _ => some (.other kind)

/-- A value, or the fault that stood in its way. -/
abbrev Outcome (α : Type) := Except Fault α

/-- Refuses for the given cause. -/
def Outcome.reject {α : Type} (cause : Rejection) : Outcome α := .error (.rejected cause)

/-- The outcome, unless it takes more calls than there is room for. -/
def Outcome.within {α : Type} (room calls : Nat) (outcome : Outcome α) : Outcome α :=
  if room < calls then .error .nestedTooDeep else outcome

/-- What a caller is told about a rejection. -/
structure Report where
  kind : RejectionKind
  message : Text
  data : Dictionary Document := []

def Rejection.report (r : Rejection) : Report := ⟨r.kind,r.message,r.data⟩

/-- The report as a mapping; data is left out when there is none. -/
def Report.document (r : Report) : Document :=
  .object ([("code".toList,.ofText r.kind.code),("message".toList,.ofText r.message)]++
    if r.data.isEmpty then [] else [("data".toList,.object r.data)])

end BundleManifest
