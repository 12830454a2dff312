import JsonTypes.Yaml.Tag

/-!
# Tokens of YAML

The tokens that a text is laid out in. Blocks have no brackets in the text; their tokens say where
the indentation opens and closes them. A key comes with a token of its own, whether the text marks
it or not.
-/

namespace JsonTypes.Yaml

inductive Directive where
  | version (major minor : Nat)
  | tag (handle : List Char) (stem : List UInt8)
deriving DecidableEq, Repr

inductive Token where
  | directive (d : Directive)
  | documentStart
  | documentEnd
  | blockSequence
  | blockMapping
  | blockEnd
  | flowSequence
  | flowSequenceEnd
  | flowMapping
  | flowMappingEnd
  | blockEntry
  | flowEntry
  | key
  | value
  | aliasOf (anchor : String)
  | anchor (name : String)
  | tag (t : Tag)
  /-- A scalar; only a plain one can be anything but text. -/
  | scalar (text : String) (plain : Bool)
deriving DecidableEq, Repr

/-! ## Directives -/

def Directive.versionNumber : Scan Nat := do
  let digits ← Scan.takeWhile Char.isDigit
  guard (digits.length ≤ 9 ∧ digits ≠ [])
  match Text.asciiNumber? digits with
  | some n => pure n
  | none => failure

def Directive.body (name : String) : Scan Directive := do
  if name = "YAML" then
    let major ← versionNumber
    Scan.expect '.'
    return .version major (← versionNumber)
  else if name = "TAG" then
    let handle ← Tag.handleText
    guard (handle = ['!'] || Tag.isNamed handle)
    guard (← Scan.atBlank)
    let _ ← Scan.takeWhile isBlank
    let stem ← Tag.nonEmptyUri true
    guard (isGap (← Scan.rest))
    return .tag handle stem
  else failure

/-- A directive, up to the end of its line. -/
def Directive.scan : Scan Directive := do
  Scan.expect '%'
  let name ← Scan.takeWhile isWordChar
  guard (isGap (← Scan.rest))
  let _ ← Scan.takeWhile isBlank
  let d ← body (String.ofList name)
  Scan.restOfLine
  if ← Scan.atBreak then
    let _ ← Scan.lineBreak
  return d

end JsonTypes.Yaml
