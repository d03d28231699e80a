import BundleManifest.Document.Reading
import BundleManifest.Text.Encoding

namespace BundleManifest.Yaml

open Document (Reading)

def isLineBreak (c : Char) : Bool :=
  c = '\n' || c = '\r' || c = '\x85' || c = '\u2028' || c = '\u2029'

/-- What a line end is taken for. -/
def lineEnd (c : Char) : Char := if c = '\u2028' || c = '\u2029' then c else '\n'

/-- Whether nothing, a blank or a line end follows, as it must behind an indicator. -/
def endsIndicator : Text → Bool
  | [] => true
  | c::_ => c = ' ' || c = '\t' || isLineBreak c

/-- Whether a line begins with a mark of the start or the end of a document. -/
def startsMark (mark : Char) (line : Text) : Bool :=
  [mark,mark,mark].isPrefixOf line && endsIndicator (line.drop 3)

def isDocumentMark (line : Text) : Bool := startsMark '-' line || startsMark '.' line

/-- What stands between two runs of a scalar. -/
inductive Gap where
  | blanks (text : Text)
  /-- Line ends; the first is missing when a backslash stood before it. -/
  | lines (first : Option Char) (more : Text)

namespace Gap

def none : Gap := .blanks []

/-- The gap with a blank added; beside line ends blanks do not count. -/
def addBlank (c : Char) : Gap → Gap
  | .blanks t => .blanks (t++[c])
  | g => g

/-- The gap with a line end added. -/
def addLine (c : Char) : Gap → Gap
  | .blanks _ => .lines (some (lineEnd c)) []
  | .lines first more => .lines first (more++[lineEnd c])

/-- What the gap stands for. -/
def text : Gap → Text
  | .blanks t => t
  | .lines Option.none more => more
  | .lines (some c) more => if c ≠ '\n' then c::more else if more=[] then [' '] else more

end Gap

/-- What a text that is not in the plain part of YAML comes to. -/
def refuse {α : Type} : Reading α := .error (.malformed 0)

/-- Puts a gap and a character in front of what was read. -/
private def joining (gap : Gap) (c : Char) (rest : Reading (Text × Text)) :
    Reading (Text × Text) :=
  rest.map fun (t,r) => (gap.text++c::t,r)

/-- A scalar up to its closing single quote; two of them stand for one. -/
def readSingle (gap : Gap) : Text → Reading (Text × Text)
  | [] => refuse
  | '\x27' :: '\x27' :: r => joining gap '\x27' (readSingle .none r)
  | '\x27'::r => .ok (gap.text,r)
  | c::r =>
    if isLineBreak c then
      if isDocumentMark r then refuse else readSingle (gap.addLine c) r
    else if c = ' ' || c = '\t' then readSingle (gap.addBlank c) r
    else joining gap c (readSingle .none r)

def shortEscape? : Char → Option Char
  | '0' => some '\x00'
  | 'a' => some '\x07'
  | 'b' => some '\x08'
  | 't' | '\t' => some '\t'
  | 'n' => some '\n'
  | 'v' => some '\x0b'
  | 'f' => some '\x0c'
  | 'r' => some '\r'
  | 'e' => some '\x1b'
  | ' ' => some ' '
  | '"' => some '"'
  | '\\' => some '\\'
  | '/' => some '/'
  | 'N' => some '\x85'
  | '_' => some '\xa0'
  | 'L' => some '\u2028'
  | 'P' => some '\u2029'
  | _ => none

/-- The character with the number that hexadecimal digits give. A number of more than 31 bits does
not fit its word. -/
def numbered (ds : Text) : Reading Char :=
  match Text.hexNumber? ds with
  | none => refuse
  | some n =>
    if 0x80000000 ≤ n then .error .outOfRange
    else if Text.lastCodePoint < n then .error .noSuchValue
    else .ok (Text.charAt n)

/-- A scalar up to its closing double quote, with backslash escapes. A line end behind a backslash
stands for nothing. -/
def readDouble (gap : Gap) : Text → Reading (Text × Text)
  | [] => refuse
  | '"'::r => .ok (gap.text,r)
  | '\\' :: 'x' :: a::b::r => do joining gap (← numbered [a,b]) (readDouble .none r)
  | '\\' :: 'u' :: a::b::c::d::r => do joining gap (← numbered [a,b,c,d]) (readDouble .none r)
  | '\\' :: 'U' :: a::b::c::d::e::f::g::h::r => do
    joining gap (← numbered [a,b,c,d,e,f,g,h]) (readDouble .none r)
  | ['\\'] => refuse
  | '\\'::e::r =>
    if isLineBreak e then
      if isDocumentMark r then refuse
      else (readDouble (.lines Option.none []) r).map fun (t,rest) => (gap.text++t,rest)
    else match shortEscape? e with
      | some c => joining gap c (readDouble .none r)
      | none => refuse
  | c::r =>
    if isLineBreak c then
      if isDocumentMark r then refuse else readDouble (gap.addLine c) r
    else if c = ' ' || c = '\t' then readDouble (gap.addBlank c) r
    else joining gap c (readDouble .none r)

def isFlowMark (c : Char) : Bool := c = ',' || c = '[' || c = ']' || c = '{' || c = '}'

/-- Characters other than the flow marks with which no plain scalar begins. -/
def reservedStarts : List Char := ['#','&','*','!','|','>','\x27','"','%','@','\x60']

/-- Whether a plain scalar can begin here. -/
def startsPlain (flow : Bool) : Text → Bool
  | [] => false
  | c::r =>
    if c = '-' then !endsIndicator r
    else if c = '?' || c = ':' then !flow && !endsIndicator r
    else !(isFlowMark c || reservedStarts.contains c || c = ' ' || c = '\t' || isLineBreak c)

/-- Whether a plain scalar ends in front of `c`, which `r` follows: at a tab, a value mark, and
inside a flow collection at one of its marks. -/
def endsPlain (flow : Bool) (c : Char) (r : Text) : Bool :=
  c = '\t' || (c = ':' && (endsIndicator r || (flow && r.head?.any isFlowMark))) ||
    (flow && (isFlowMark c || c = '?'))

/-- The rest of a plain scalar and what follows its last word. In front stand `gap` and then the
text, which is at `column` of its line; `back` is what followed the last word. Outside of flow
collections a line indented less than `least` does not continue the scalar. -/
def readPlain (flow : Bool) (least : Nat) (gap : Gap) (back : Text) (column : Nat) :
    Text → Text × Text
  | [] => ([],back)
  | c::r =>
    if isLineBreak c then
      if isDocumentMark r then ([],back)
      else readPlain flow least (gap.addLine c) back 0 r
    else if c = ' ' then readPlain flow least (gap.addBlank c) back (column+1) r
    else
      let isOpen := match gap with
        | .blanks t => t=[] || c ≠ '#'
        | .lines .. => c ≠ '#' && (flow || least ≤ column)
      if !isOpen || endsPlain flow c r then ([],back)
      else
        let (t,rest) := readPlain flow least .none r (column+1) r
        (gap.text++c::t,rest)

end BundleManifest.Yaml
