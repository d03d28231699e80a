import BundleManifest.Running.Yaml.Reader

namespace BundleManifest.Yaml

open Document (Reading)

/-- Characters that may stand in a YAML text. -/
def isAllowed (c : Char) : Bool :=
  let n := c.toNat
  n==9 || n==10 || n==13 || (0x20 ≤ n && n ≤ 0x7e) || n==0x85 || (0xa0 ≤ n && n ≤ 0xfffd) ||
    0x10000 ≤ n

/-- Reads a whole text as one document; a text without content is null, and a byte order mark in
front is passed over. -/
def read (depth : Nat) (s : Text) : Reading Document := do
  if !s.all isAllowed then .error (.malformed 0)
  let node ← readDocument depth (if s.head?=some '\ufeff' then s.drop 1 else s)
  node.document

end BundleManifest.Yaml
