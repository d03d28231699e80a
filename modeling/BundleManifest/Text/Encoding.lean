import BundleManifest.Text.Basic

namespace BundleManifest.Text

/-- Stands for what encodes no character. -/
def replacement : Char := '\ufffd'

/-- The last code point. -/
def lastCodePoint : Nat := 0x10ffff

/-- The character at a code point. -/
def charAt (n : Nat) : Char :=
  if h : n.isValidChar then Char.ofNatAux n h else replacement

/-- A character of which some UTF-8 bytes are still to come, the next one between two bounds. -/
structure Begun where
  left : Nat
  low : Nat
  high : Nat
  value : Nat

/-- What a byte begins, when it leads a character of several bytes. The bounds leave out overlong
forms, surrogates and what lies beyond the last code point. -/
def begun? (b : Nat) : Option Begun :=
  if 0xc2 ≤ b && b ≤ 0xdf then some ⟨1,0x80,0xbf,b-0xc0⟩
  else if b==0xe0 then some ⟨2,0xa0,0xbf,0⟩
  else if b==0xed then some ⟨2,0x80,0x9f,0xd⟩
  else if 0xe1 ≤ b && b ≤ 0xef then some ⟨2,0x80,0xbf,b-0xe0⟩
  else if b==0xf0 then some ⟨3,0x90,0xbf,0⟩
  else if 0xf1 ≤ b && b ≤ 0xf3 then some ⟨3,0x80,0xbf,b-0xf0⟩
  else if b==0xf4 then some ⟨3,0x80,0x8f,4⟩
  else none

/-- The characters that a byte ends, and what it leaves begun, when nothing was. -/
def beginUtf8 (b : Nat) : Text × Option Begun :=
  if b < 0x80 then ([charAt b],none)
  else match begun? b with
    | some p => ([],some p)
    | none => ([replacement],none)

/-- One byte more; a byte out of bounds ends what was begun and begins anew. -/
def stepUtf8 (state : Option Begun) (b : Nat) : Text × Option Begun :=
  match state with
  | none => beginUtf8 b
  | some p =>
    if p.low ≤ b && b ≤ p.high then
      let value := 64*p.value+(b-0x80)
      if p.left=1 then ([charAt value],none) else ([],some ⟨p.left-1,0x80,0xbf,value⟩)
    else
      let (cs,state) := beginUtf8 b
      (replacement::cs,state)

/-- The text of UTF-8 bytes behind what was begun. -/
def continueUtf8 (state : Option Begun) : List UInt8 → Text
  | [] => if state.isSome then [replacement] else []
  | b::r =>
    let (cs,state) := stepUtf8 state b.toNat
    cs++continueUtf8 state r

/-- The text of UTF-8 bytes; every longest ill-formed beginning of a character is replaced. -/
def ofUtf8 (bytes : List UInt8) : Text := continueUtf8 none bytes

/-- The text of UTF-8 bytes, when all of them are well-formed. -/
def ofUtf8? (bytes : List UInt8) : Option Text :=
  (String.fromUTF8? ⟨bytes.toArray⟩).map String.toList

/-- The UTF-8 bytes of a text. -/
def toUtf8 (t : Text) : List UInt8 := t.flatMap String.utf8EncodeChar

def isHighSurrogate (n : Nat) : Bool := 0xd800 ≤ n && n < 0xdc00

def isLowSurrogate (n : Nat) : Bool := 0xdc00 ≤ n && n < 0xe000

/-- The text of units; a high surrogate and the low one behind it make one character, and a surrogate
that stands alone is replaced. -/
def ofUnits : List Nat → Text
  | n::m::us =>
    if isHighSurrogate n && isLowSurrogate m then
      charAt (0x10000+(n-0xd800)*0x400+(m-0xdc00))::ofUnits us
    else charAt n::ofUnits (m::us)
  | [n] => [charAt n]
  | [] => []

/-- The numbers that groups of bytes hold; `none` when the last group is incomplete. -/
def groups? (size : Nat) (bigEndian : Bool) : List UInt8 → List UInt8 → Option (List Nat)
  | [],[] => some []
  | _,[] => none
  | group,b::r =>
    let group := group++[b]
    if group.length < size then groups? size bigEndian group r
    else
      let digits := if bigEndian then group else group.reverse
      (groups? size bigEndian [] r).map (digits.foldl (fun n b => 256*n+b.toNat) 0::·)

/-- The text of bytes in units of 16 bits. -/
def ofUtf16? (bigEndian : Bool) (bytes : List UInt8) : Option Text :=
  (groups? 2 bigEndian [] bytes).map ofUnits

/-- The text of bytes in units of 32 bits, none of which may lie beyond the last code point. -/
def ofUtf32? (bigEndian : Bool) (bytes : List UInt8) : Option Text :=
  match groups? 4 bigEndian [] bytes with
  | some ns => if ns.all (· ≤ lastCodePoint) then some (ns.map charAt) else none
  | none => none

end BundleManifest.Text
