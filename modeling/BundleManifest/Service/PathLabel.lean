import BundleManifest.Text.Digit

namespace BundleManifest.Service.PathLabel

def idMask : Text := "/:id".toList

/-- The path with every run of digits right behind a slash replaced, slash included; `masked` tells
whether the digits at the front belong to a run already replaced. -/
def maskNumbers (masked : Bool) : Text → Text
  | [] => []
  | c::r =>
    if masked && Text.isDecimalDigit c then maskNumbers true r
    else if c = '/' && r.head?.any Text.isDecimalDigit then idMask++maskNumbers true r
    else c::maskNumbers false r

def profilesPath : Text := "/api/v1/platform-profiles".toList

/-- What stands behind the path of the profiles and a slash, when it is a single name. -/
def profileName? (path : Text) : Option Text :=
  match (profilesPath++['/']).isPrefixOf? path with
  | some name => if name.isEmpty || name.contains '/' then none else some name
  | none => none

/-- The label of a path: numbers are masked, and then the name of a profile. -/
def ofPath (path : Text) : Text :=
  let path := if path.isEmpty then ['/'] else path
  let path := maskNumbers false path
  if (profileName? path).isSome then profilesPath++"/:name".toList else path

end BundleManifest.Service.PathLabel
