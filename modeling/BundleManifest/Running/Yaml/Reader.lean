import BundleManifest.Running.Yaml.Folding
import BundleManifest.Running.Yaml.Node

namespace BundleManifest.Yaml

open Document (Reading)

/-- A place in a text where content stands, or its end. -/
structure Place where
  /-- Whether a key or an entry can begin here: at the start of a line, and behind the mark of an
  entry. -/
  fresh : Bool
  column : Nat
  rest : Text

/-- The place of the next content behind spaces, comments and line ends. -/
def nextPlace (comment fresh : Bool) (column : Nat) : Text → Place
  | [] => ⟨fresh,column,[]⟩
  | c::r =>
    if isLineBreak c then nextPlace false true 0 r
    else if comment || c = '#' then nextPlace true fresh (column+1) r
    else if c = ' ' then nextPlace false fresh (column+1) r
    else ⟨fresh,column,c::r⟩

/-- The next content behind something on the same line. -/
def behind (rest : Text) : Place := nextPlace false false 0 rest

namespace Place

/-- Whether the document ends here. -/
def isEnd (p : Place) : Bool := p.rest=[] || (p.fresh && p.column=0 && isDocumentMark p.rest)

/-- Whether the mark of a sequence entry stands here. -/
def isDash (p : Place) : Bool :=
  p.fresh && match p.rest with
    | '-'::r => endsIndicator r
    | _ => false

/-- Whether content goes on where only a new line may follow. -/
def isStray (p : Place) : Bool := !p.fresh && p.rest ≠ []

end Place

/-- The next content inside of a flow collection; a mark of a document ends it like the end of the
text. -/
def inFlow (rest : Text) : Text :=
  let p := behind rest
  if p.isEnd then [] else p.rest

/-- The most characters from the beginning of a key to its value mark. -/
def keyLimit : Nat := 1024

/-- Whether what lies between two places is short enough for a key and on one line. -/
def isKeySpan (start stop : Text) : Bool :=
  let n := start.length-stop.length
  n ≤ keyLimit && !(start.take n).any isLineBreak

/-- A scalar, and what follows it. -/
def readScalar (flow : Bool) (least : Nat) (s : Text) : Reading (Node × Text) :=
  match s with
  | '\x27'::r => (readSingle .none r).map fun (t,rest) => (.quoted t,rest)
  | '"'::r => (readDouble .none r).map fun (t,rest) => (.quoted t,rest)
  | _ =>
    if startsPlain flow s then
      let (t,rest) := readPlain flow least .none s 0 s
      .ok (.plain t,rest)
    else refuse

/-- Refuses what goes on with `s`; a scalar that cannot be read there is told first. -/
def refuseBefore {α : Type} (flow : Bool) (s : Text) : Reading α := do
  let _ ← readScalar flow 0 s
  refuse

mutual

/-- A node that begins with `s`, written in one piece: a flow collection or a scalar, which inside
of one or outside of all obeys `flow` and `least`. A text of length `n` nests and repeats fewer than
`2 * n` times, which bounds the steps; every collection takes two off `depth`. -/
def readFlow : Nat → Bool → Nat → Nat → Text → Reading (Node × Text)
  | 0,_,_,_,_ => refuse
  | n+1,flow,least,depth,s =>
    match s,depth with
    | '['::r,depth+2 => do
      let (items,rest) ← readFlowItems n depth (inFlow r)
      return (.list items,rest)
    | '{'::r,depth+2 => do
      let (entries,rest) ← readFlowEntries n depth (inFlow r)
      return (.mapping entries,rest)
    | '['::_,_ | '{'::_,_ => .error .nestedTooDeep
    | s,_ => readScalar flow least s

/-- Nodes up to the closing bracket; one with a value behind it is a mapping of one entry. -/
def readFlowItems : Nat → Nat → Text → Reading (List Node × Text)
  | 0,_,_ => refuse
  | n+1,depth,s =>
    match s with
    | ']'::rest => .ok ([],rest)
    | _ => do
      let (node,rest) ← readFlow n true 0 depth s
      let after := inFlow rest
      let (item,after) ← match after with
        | ':'::r =>
          if isKeySpan s after then do
            let (value,rest) ← readFlowValue n depth (inFlow r)
            Except.ok (Node.mapping [(node,value)],rest)
          else refuse
        | _ => .ok (node,after)
      match after with
      | ','::r =>
        let (items,rest) ← readFlowItems n depth (inFlow r)
        return (item::items,rest)
      | ']'::rest => return ([item],rest)
      | r => refuseBefore true r

/-- Entries up to the closing brace; a key alone has the value null. -/
def readFlowEntries : Nat → Nat → Text → Reading (List (Node × Node) × Text)
  | 0,_,_ => refuse
  | n+1,depth,s =>
    match s with
    | '}'::rest => .ok ([],rest)
    | _ => do
      let (key,rest) ← readFlow n true 0 depth s
      let after := inFlow rest
      let (value,after) ← match after with
        | ':'::r =>
          if isKeySpan s after then readFlowValue n depth (inFlow r) else refuse
        | _ => .ok (Node.nothing,after)
      match after with
      | ','::r =>
        let (entries,rest) ← readFlowEntries n depth (inFlow r)
        return ((key,value)::entries,rest)
      | '}'::rest => return ([(key,value)],rest)
      | r => refuseBefore true r

/-- The value behind a value mark in a flow collection, and the content behind it. -/
def readFlowValue : Nat → Nat → Text → Reading (Node × Text)
  | 0,_,_ => refuse
  | n+1,depth,s =>
    match s with
    | ','::_ | ']'::_ | '}'::_ => .ok (Node.nothing,s)
    | _ => do
      let (value,rest) ← readFlow n true 0 depth s
      return (value,inFlow rest)

end

/-- What follows the value mark of the key that begins with `start` and ends in front of `rest`;
`none` when that is no key. -/
def afterKey? (start rest : Text) : Option Text :=
  let p := behind rest
  match p.rest with
  | ':'::r => if !p.fresh && endsIndicator r && isKeySpan start p.rest then some r else none
  | _ => none

mutual

/-- The node that begins at a place, when that is indented far enough. Every step takes something
off the text or goes into it, which bounds the steps. -/
def readBlock : Nat → Nat → Nat → Place → Reading (Node × Place)
  | 0,_,_,_ => refuse
  | n+1,depth,least,p =>
    if p.isEnd || (p.fresh && p.column < least) then .ok (Node.nothing,p)
    else if p.isDash then
      match depth with
      | depth+2 => (readSequence n depth p.column p).map fun (items,p) => (.list items,p)
      | _ => .error .nestedTooDeep
    else do
      let (node,rest) ← readFlow (2*p.rest.length+2) false least depth p.rest
      match (if p.fresh then afterKey? p.rest rest else none),depth with
      | some r,depth+2 =>
        let (value,q) ← readValue n depth p.column r
        let (entries,q) ← readMapping n depth p.column q
        return (.mapping ((node,value)::entries),q)
      | some _,_ => .error .nestedTooDeep
      | none,_ =>
        let q := behind rest
        if q.isStray then refuseBefore false q.rest else return (node,q)

/-- The entries of a sequence in the column `indent`. -/
def readSequence : Nat → Nat → Nat → Place → Reading (List Node × Place)
  | 0,_,_,_ => refuse
  | n+1,depth,indent,p =>
    if p.isEnd || p.column < indent then .ok ([],p)
    else if indent < p.column then refuse
    else if !p.isDash then .ok ([],p)
    else do
      let (item,q) ← readBlock n depth (indent+1)
        (nextPlace false true (p.column+1) (p.rest.drop 1))
      let (items,q) ← readSequence n depth indent q
      return (item::items,q)

/-- The entries of a mapping in the column `indent`. -/
def readMapping : Nat → Nat → Nat → Place → Reading (List (Node × Node) × Place)
  | 0,_,_,_ => refuse
  | n+1,depth,indent,p =>
    if p.isEnd || p.column < indent then .ok ([],p)
    else if indent < p.column then refuse
    else do
      let (key,rest) ← readFlow (2*p.rest.length+2) false (indent+1) depth p.rest
      match afterKey? p.rest rest with
      | none => if (behind rest).fresh then refuse else refuseBefore false (behind rest).rest
      | some r =>
        let (value,q) ← readValue n depth indent r
        let (entries,q) ← readMapping n depth indent q
        return ((key,value)::entries,q)

/-- The value of an entry in the column `indent`, behind its value mark. A sequence may stand in
that column too. -/
def readValue : Nat → Nat → Nat → Text → Reading (Node × Place)
  | 0,_,_,_ => refuse
  | n+1,depth,indent,s =>
    let p := behind s
    if p.isDash && p.column=indent then
      match depth with
      | depth+2 => (readSequence n depth indent p).map fun (items,p) => (.list items,p)
      | _ => .error .nestedTooDeep
    else readBlock n depth (indent+1) p

end

/-- Passes over marks of the end of a document. -/
def skipEndMarks : Nat → Place → Place
  | 0,p => p
  | n+1,p =>
    if p.fresh && p.column=0 && startsMark '.' p.rest then
      skipEndMarks n (behind (p.rest.drop 3))
    else p

/-- The node of the only document in a text, with nodes nested at most `depth` times; a text without
content has none. -/
def readDocument (depth : Nat) (s : Text) : Reading Node := do
  let p := nextPlace false true 0 s
  if p.rest=[] then return Node.nothing
  let begun := p.column=0 && startsMark '-' p.rest
  let p := if begun then behind (p.rest.drop 3) else p
  if !begun && p.isEnd then refuse
  let (node,p) ← readBlock (2*s.length+2) depth 0 p
  if (skipEndMarks s.length p).rest=[] then return node else refuse

end BundleManifest.Yaml
