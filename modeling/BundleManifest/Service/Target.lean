import BundleManifest.Rejection
import BundleManifest.Text.Encoding

namespace BundleManifest.Service.Target

/-- The most characters of a target. -/
def lengthLimit : Nat := 65536

/-- Control characters of ASCII, which no target holds. -/
def isControl (c : Char) : Bool := c.toNat < 32 || c.toNat=127

/-- Whether a query or a fragment begins. -/
def endsPath (c : Char) : Bool := c = '?' || c = '#'

/-- The authority in front of a path, behind two slashes, and what follows it. -/
def splitAuthority : Text → Text × Text
  | '/' :: '/' :: r =>
    (r.takeWhile fun c => c ≠ '/' && !endsPath c,r.dropWhile fun c => c ≠ '/' && !endsPath c)
  | t => ([],t)

/-- Adds a segment to a path. A dot stays in place, and two go back to the segment before; there is
no going back in front of the root. -/
def addSegment (path : List Text) (segment : Text) : List Text :=
  if segment=['.'] then path
  else if segment=['.','.'] then (if path=[[]] then path else path.dropLast)
  else path++[segment]

/-- The path without segments of dots. -/
def resolveDots (path : Text) : Text :=
  Text.join ['/'] ((path.splitOn '/').foldl addSegment [])

/-- The bytes of a text, each escape of a percent sign and two digits being one byte. -/
def unescape : Text → List UInt8
  | '%'::a::b::r =>
    match Text.hexNumber? [a,b] with
    | some n => UInt8.ofNat n::unescape r
    | none => String.utf8EncodeChar '%'++unescape (a::b::r)
  | c::r => String.utf8EncodeChar c++unescape r
  | [] => []

/-- The text with its escapes decoded. -/
def decode (t : Text) : Text := Text.ofUtf8 (unescape t)

/-- The path of a target, from the root on. Escapes are decoded twice: where the target is read, and
where its path is handed on. -/
def path? (target : Text) : Option Text :=
  if target.any isControl || lengthLimit < target.length then none
  else
    let (authority,rest) := splitAuthority target
    let path := rest.takeWhile fun c => !endsPath c
    if authority=[] && (path.take 2=['/','/'] || path.head?=some ':') then none
    else
      let resolved := resolveDots ('/'::path.dropWhile (· = '/'))
      some (decode (decode (if resolved=[] then ['/'] else resolved)))

end BundleManifest.Service.Target
