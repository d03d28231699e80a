import BundleManifest.Document.Json
import BundleManifest.Platform.Profile

namespace BundleManifest.Platform

/-- What reads documents at one place of the program. -/
structure Formats where
  /-- How many lists and objects of a JSON text may nest. -/
  nesting : Nat
  /-- Reads a YAML text. -/
  yaml : Text → Document.Reading Document

/-- What reads the stored files that the platform depends on. -/
structure Readers where
  overrides : Formats
  templates : Formats
  /-- The profile with the given fields, unless one of them is missing or does not fit. -/
  profile : Dictionary Document → Option Profile

end BundleManifest.Platform
