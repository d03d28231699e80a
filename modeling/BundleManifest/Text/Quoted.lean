import BundleManifest.Text.Printable

namespace BundleManifest.Text

/-- The quote that needs fewer escapes: double only when the text holds a single quote and no
double one. -/
def quoteFor (t : Text) : Char :=
  if t.contains '\x27' && !t.contains '"' then '"' else '\x27'

/-- `n` in lower-case hexadecimal, filled up with zeros to `width` digits. -/
def hex (width n : Nat) : Text := (Nat.toDigits 16 n).leftpad width '0'

/-- One character between quotes `q`: the shortest hexadecimal form that fits when it is not
printable. -/
def escapeChar (q c : Char) : Text :=
  if c = q || c = '\\' then ['\\',c]
  else if c = '\n' then ['\\','n']
  else if c = '\r' then ['\\','r']
  else if c = '\t' then ['\\','t']
  else if isPrintable c then [c]
  else if c.toNat < 0x100 then '\\' :: 'x' :: hex 2 c.toNat
  else if c.toNat < 0x10000 then '\\' :: 'u' :: hex 4 c.toNat
  else '\\' :: 'U' :: hex 8 c.toNat

/-- The text between quotes. -/
def quoted (t : Text) : Text :=
  let q := quoteFor t
  q::t.flatMap (escapeChar q)++[q]

/-- Bytes between quotes, behind a mark. Those that are not ASCII are given by number. -/
def quotedBytes (bytes : List UInt8) : Text :=
  let cs := bytes.map fun b => Char.ofNat b.toNat
  let q := quoteFor cs
  let escape (c : Char) : Text :=
    if c.toNat < 0x80 then escapeChar q c else '\\' :: 'x' :: hex 2 c.toNat
  'b' :: q::cs.flatMap escape++[q]

end BundleManifest.Text
