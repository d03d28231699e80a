import BundleManifest.Package.Declaration

namespace BundleManifest.Modern

def symbolicNameAttribute : Text := "bundle-symbolic-name".toList

def bundleVersionAttribute : Text := "bundle-version".toList

def symbolicNameHeader : Text := "Bundle-SymbolicName".toList

/-- The two attributes that only the pass itself may set. -/
def isReserved (name : Text) : Bool :=
  name=symbolicNameAttribute || name=bundleVersionAttribute

/-- The export with the origin attributes at its end, unless it sets one of them itself. -/
def markOrigin (symbolicName : Text) (version : Version) (e : ExportDeclaration) :
    Outcome ExportDeclaration :=
  match e.attributes.find? fun a => isReserved a.name with
  | some a => Outcome.reject (.reservedAttribute e.name a.name)
  | none => .ok {e with attributes := e.attributes++
      [⟨symbolicNameAttribute,.text symbolicName,false⟩,
        ⟨bundleVersionAttribute,.version version,false⟩]}

/-- Exports as a manifest of version 2 means them; the bundle has to have a name, and its version
is 0.0.0 when it declares none. -/
def normalize (exports : List ExportDeclaration) (symbolicName : Option Text)
    (bundleVersion : Option Version) : Outcome (List ExportDeclaration) := do
  let name := symbolicName.getD []
  if name.isEmpty then Outcome.reject (.missingSymbolicName symbolicNameHeader)
  exports.mapM (markOrigin name (bundleVersion.getD {}))

end BundleManifest.Modern
