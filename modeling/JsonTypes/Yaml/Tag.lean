import JsonTypes.Text.Utf8
import JsonTypes.Yaml.Cursor

/-!
# Tags

A tag is written in full between angle brackets, or as a handle and a suffix; what the handle
stands for is found later. A tag is a sequence of bytes, as percent escapes can write any. It ends
before the first zero byte.
-/

namespace JsonTypes.Yaml

structure Tag where
  /-- Exclamation marks with a name between them, or nothing if the suffix is the whole tag. -/
  handle : List Char
  suffix : List UInt8
deriving DecidableEq, Repr

namespace Tag

/-- The tag of one exclamation mark. -/
def bare : List UInt8 := [0x21]

/-- The handles that need no directive, with what they stand for. -/
def standardHandles : List (List Char × List UInt8) :=
  [(['!'], bare), (['!', '!'], "tag:yaml.org,2002:".toUTF8.data.toList)]

/-- The tag of a standard type. -/
def standard (name : String) : List UInt8 := ("tag:yaml.org,2002:" ++ name).toUTF8.data.toList

def isUriChar (brackets : Bool) (c : Char) : Bool :=
  isWordChar c || ";/?:@&=+$.%!~*'()".toList.contains c || (brackets && ",[]".toList.contains c)

def octet : Scan UInt8 := do
  match ← Scan.rest with
  | '%' :: a :: b :: _ =>
    match Text.hexByte? a b with
    | some byte => Scan.skip 3; pure byte
    | none => failure
  | _ => failure

def continuation : Nat → Scan (List UInt8)
  | 0 => pure []
  | n + 1 => do
    let b ← octet
    guard (b &&& 0xC0 = 0x80)
    return b :: (← continuation n)

/-- The bytes of one escaped character. -/
def escaped : Scan (List UInt8) := do
  let b ← octet
  match Text.sequenceLength? b with
  | some n => return b :: (← continuation (n - 1))
  | none => failure

def uriLoop (brackets : Bool) : Nat → Scan (List UInt8)
  | 0 => pure []
  | fuel + 1 => do
    match ← Scan.peek with
    | some c =>
      if !isUriChar brackets c then pure []
      else if c = '%' then return (← escaped) ++ (← uriLoop brackets fuel)
      else
        Scan.skip 1
        return Text.utf8Bytes c ++ (← uriLoop brackets fuel)
    | none => pure []

/-- The characters that a tag is made of. -/
def uri (brackets : Bool) : Scan (List UInt8) := do
  uriLoop brackets (← Scan.rest).length

/-- The characters of a tag, at least one. -/
def nonEmptyUri (brackets : Bool) : Scan (List UInt8) := do
  let bytes ← uri brackets
  guard (!bytes.isEmpty)
  return bytes.takeWhile (· ≠ 0)

def handleText : Scan (List Char) := do
  Scan.expect '!'
  let name ← Scan.takeWhile isWordChar
  if (← Scan.peek) = some '!' then
    Scan.skip 1
    pure ('!' :: name ++ ['!'])
  else pure ('!' :: name)

/-- Whether a handle is more than the one exclamation mark that every tag starts with. -/
def isNamed (handle : List Char) : Bool := 1 < handle.length && handle.getLast? = some '!'

def scanWhole : Scan Tag := do
  match ← Scan.rest with
  | '!' :: '<' :: _ =>
    Scan.skip 2
    let bytes ← nonEmptyUri true
    Scan.expect '>'
    pure ⟨[], bytes⟩
  | _ =>
    let handle ← handleText
    if isNamed handle then return ⟨handle, ← nonEmptyUri false⟩
    else
      let bytes := (handle.tail.flatMap Text.utf8Bytes ++ (← uri false)).takeWhile (· ≠ 0)
      if bytes.isEmpty then pure ⟨[], bare⟩ else pure ⟨['!'], bytes⟩

/-- A tag and the gap behind it. Inside brackets a comma may follow at once. -/
def scan (inFlow : Bool) : Scan Tag := do
  let tag ← scanWhole
  guard (inFlow && (← Scan.peek) = some ',' || isGap (← Scan.rest))
  pure tag

/-- What a handle with its suffix stands for, given the handles that are declared. -/
def resolve? (handles : List (List Char × List UInt8)) (tag : Tag) : Option (List UInt8) :=
  if tag.handle.isEmpty then some tag.suffix
  else (handles.find? (·.1 = tag.handle)).map fun h => h.2 ++ tag.suffix

end Tag

end JsonTypes.Yaml
