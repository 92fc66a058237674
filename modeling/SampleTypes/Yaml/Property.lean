import SampleTypes.Text.Utf8
import SampleTypes.Yaml.Cursor
import SampleTypes.Yaml.Scalar

/-!
Tags, anchors, aliases and directives.
-/

namespace SampleTypes.Yaml

def isNameChar (c : Char) : Bool := c.isAlphanum || c = '-' || c = '_'

def isUriChar (c : Char) : Bool :=
  c.isAlphanum || "-;/?:@&=+$,_.!~*'()[]%".toList.contains c

/-- Bytes given by percent signs and hexadecimal digits, as many as follow each other. -/
def uriBytes : Nat → Cursor → Except Fault (List UInt8 × Cursor)
  | 0, c => .ok ([], c)
  | fuel + 1, c =>
    if c.peek = some '%' then do
      let n ← hexNumber "expected URI escape sequence of 2 hexadecimal numbers" 2 0 c.forward
      let (more, c) ← uriBytes fuel (c.skip 3)
      return (n.toUInt8 :: more, c)
    else .ok ([], c)

def uriFrom : Nat → List Char → Cursor → Except Fault (List Char × Cursor)
  | 0, text, c => .ok (text, c)
  | fuel + 1, text, c =>
    match c.peek with
    | none => .ok (text, c)
    | some x =>
      if x = '%' then do
        let (bytes, c) ← uriBytes c.rest.length c
        match Text.decodeUtf8 bytes with
        | .ok cs => uriFrom fuel (text ++ cs) c
        | .error _ => throw (c.malformed "expected UTF-8 in a URI escape sequence")
      else if isUriChar x then uriFrom fuel (text ++ [x]) c.forward
      else .ok (text, c)

def uri (c : Cursor) : Except Fault (String × Cursor) := do
  let (text, next) ← uriFrom c.rest.length [] c
  if next.index = c.index then throw (next.malformed "expected URI")
  else return (String.ofList text, next)

def tagHandle (c : Cursor) : Except Fault (String × Cursor) :=
  if c.peek != some '!' then .error (c.malformed "expected '!'")
  else if c.peekAt 1 = some ' ' then .ok ("!", c.forward)
  else
    let (name, next) := c.forward.span isNameChar
    if next.peek = some '!' then .ok (String.ofList ('!' :: (name ++ ['!'])), next.forward)
    else .error (next.malformed "expected '!'")

def shorthandTag (c : Cursor) : Except Fault (TagText × Cursor) := do
  let named := (c.forward.rest.takeWhile fun x => !(x = ' ' || isBreak x)).contains '!'
  let (handle, c) ← if named then tagHandle c else pure ("!", c.forward)
  let (text, c) ← uri c
  return (⟨some handle, text⟩, c)

def verbatimTag (c : Cursor) : Except Fault (TagText × Cursor) := do
  let (text, c) ← uri (c.skip 2)
  if c.peek = some '>' then return (⟨none, text⟩, c.forward)
  else throw (c.malformed "expected '>'")

def tagText (c : Cursor) : Except Fault (TagText × Cursor) := do
  let (tag, c) ←
    if c.peekAt 1 = some '<' then verbatimTag c
    else if endsWord (c.peekAt 1) then pure (⟨none, "!"⟩, c.forward)
    else shorthandTag c
  if endsItem c.peek then return (tag, c) else throw (c.malformed "expected ' ' after a tag")

def anchorName (c : Cursor) : Except Fault (String × Cursor) :=
  let (name, next) := c.forward.span isNameChar
  if name.isEmpty then .error (next.malformed "expected alphabetic or numeric character")
  else if endsWord next.peek || next.peek.any fun x => "?:,]\x7d%@\x60".toList.contains x then
    .ok (String.ofList name, next)
  else .error (next.malformed "expected alphabetic or numeric character")

def versionNumber (c : Cursor) : Except Fault (Nat × Cursor) :=
  let (digits, next) := c.span Char.isDigit
  if digits.isEmpty then .error (next.malformed "expected a digit")
  else if Decimal.digitLimit < digits.length then
    .error (next.ending?.getD (.tooManyDigits digits.length))
  else .ok (digits.foldl (fun n d => n * 10 + (d.toNat - 0x30)) 0, next)

def versionDirective (c : Cursor) : Except Fault (Directive × Cursor) := do
  let (major, c) ← versionNumber c.skipBlanks
  if c.peek != some '.' then throw (c.malformed "expected a digit or '.'")
  let (minor, c) ← versionNumber c.forward
  if endsItem c.peek then return (.version major minor, c)
  else throw (c.malformed "expected a digit or ' '")

def handleDirective (c : Cursor) : Except Fault (Directive × Cursor) := do
  let (name, c) ← tagHandle c.skipBlanks
  if c.peek != some ' ' then throw (c.malformed "expected ' '")
  let (stem, c) ← uri c.skipBlanks
  if endsItem c.peek then return (.handle name stem, c) else throw (c.malformed "expected ' '")

def directive (c : Cursor) : Except Fault (Directive × Cursor) := do
  let (name, c) := c.forward.span isNameChar
  if name.isEmpty then throw (c.malformed "expected alphabetic or numeric character")
  if !endsItem c.peek then throw (c.malformed "expected alphabetic or numeric character")
  let name := String.ofList name
  let (d, c) ←
    if name = "YAML" then versionDirective c
    else if name = "TAG" then handleDirective c
    else pure (.other name, (c.span fun x => !isBreak x).2)
  return (d, ← c.finishLine "a directive")

end SampleTypes.Yaml
