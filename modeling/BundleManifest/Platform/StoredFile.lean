import BundleManifest.Text.Basic

namespace BundleManifest.Platform

inductive StoredFile where
  | absent
  | directory
  | bytes (content : ByteArray)

namespace StoredFile

/-- Line ends of all three sorts become line feeds. -/
def unifyLineEnds : Text → Text
  | [] => []
  | '\r' :: '\n' :: r => '\n' :: unifyLineEnds r
  | c::r => (if c = '\r' then '\n' else c)::unifyLineEnds r

/-- The text that bytes encode in UTF-8. -/
def decode? (content : ByteArray) : Option Text :=
  (String.fromUTF8? content).map fun s => unifyLineEnds s.toList

end StoredFile

end BundleManifest.Platform
