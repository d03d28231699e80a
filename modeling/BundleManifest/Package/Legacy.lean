import BundleManifest.Package.Declaration

namespace BundleManifest.Legacy

/-- Refuses directives, and attributes other than a single version. -/
def checkShape (wiring : Wiring) (name : Text) (attributes : List (Attribute AttributeValue))
    (directives : List Header.Parameter) : Outcome Unit := do
  unless directives.isEmpty do Outcome.reject (.legacyDirectives wiring name)
  let names := attributes.map Attribute.name
  unless names=[] || names=[Package.versionName] do
    Outcome.reject (.legacyAttributes wiring name names)

def checkExport (e : ExportDeclaration) : Outcome Unit :=
  checkShape .exporting e.name e.attributes e.directives

def checkImport (i : ImportDeclaration) : Outcome Unit := do
  checkShape .importing i.name i.attributes i.directives
  if i.range.high?.isSome then Outcome.reject (.legacyRange i.name i.range.toText)

/-- Checks all exports and then all imports. -/
def checkDeclarations (exports : List ExportDeclaration) (imports : List ImportDeclaration) :
    Outcome Unit := do
  exports.forM checkExport
  imports.forM checkImport

def checkDynamicImport (d : ImportDeclaration) : Outcome Unit := do
  unless d.directives.isEmpty do Outcome.reject (.legacyDynamicDirectives d.name)
  unless d.attributes.isEmpty do Outcome.reject (.legacyDynamicAttributes d.name)

def checkDynamicImports (dynamics : List ImportDeclaration) : Outcome Unit :=
  dynamics.forM checkDynamicImport

/-- Adds the import that an export implies, unless one of its name is there. -/
def implyImport (known : Dictionary ImportDeclaration) (e : ExportDeclaration) :
    Dictionary ImportDeclaration :=
  if (known.get? e.name).isSome then known else known.insert e.name (.ofExport e)

/-- The imports by name, of those with one name the last, and behind them one for each export whose
package none of them names. -/
def implyImports (exports : List ExportDeclaration) (imports : List ImportDeclaration) :
    List ImportDeclaration :=
  let known := Dictionary.ofList (imports.map fun i => (i.name,i))
  (exports.foldl implyImport known).map Prod.snd

/-- Makes each export use exactly the imported packages. -/
def attachUses (exports : List ExportDeclaration) (imports : List ImportDeclaration) :
    List ExportDeclaration :=
  let uses : Header.Parameter :=
    ⟨Package.usesName,Text.join [','] (imports.map ImportDeclaration.name)⟩
  exports.map fun e => {e with directives := [uses]}

/-- Exports and imports as a manifest of version 1 means them. -/
def normalize (exports : List ExportDeclaration) (imports dynamics : List ImportDeclaration) :
    Outcome (List ExportDeclaration × List ImportDeclaration) := do
  checkDeclarations exports imports
  let imports := implyImports exports imports
  let exports := attachUses exports imports
  checkDynamicImports dynamics
  return (exports,imports)

end BundleManifest.Legacy
