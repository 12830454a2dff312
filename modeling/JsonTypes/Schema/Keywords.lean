import JsonTypes.Graph.Node
import JsonTypes.Schema.Error
import JsonTypes.Schema.Location

/-!
# Keywords of schemas

What the keywords of a schema object say, each by itself: a reference, types, literal values,
options, and the rules for objects that a schema and the parts of its `allOf` make together.
-/

namespace JsonTypes.Materialize

/-- What a `$ref` says, if the schema has one. -/
def reference? (schema : Json) : Option String := (schema.member? "$ref").bind Json.string?

/-- A schema object with its location. -/
abbrev Source := Location × List (String × Json)

def pushUnique (nodes : List Node) (n : Node) : List Node :=
  if n ∈ nodes then nodes else nodes ++ [n]

/-- The types that a schema writes. -/
def declaredTypes (schema : List (String × Json)) (at_ : Location) :
    Except SchemaError (Option (List String)) :=
  match Entries.get? schema "type" with
  | none => .ok none
  | some (.string type) => .ok (some [type])
  | some (.array types) =>
    match types.mapM Json.string? with
    | some names => .ok (some names)
    | none => .error (.unsupported at_.render "'type' entries must be strings")
  | some v =>
    .error (.unsupported at_.render ("'type' must be a string or array, found " ++ v.kindName))

def firstDeclaredTypes (at_ : Location) : List Source → Except SchemaError (Option (List String))
  | [] => .ok none
  | (_, part) :: rest =>
    match declaredTypes part at_ with
    | .error e => .error e
    | .ok (some types) => .ok (some types)
    | .ok none => firstDeclaredTypes at_ rest

def hasKeyword (sources : List Source) (keyword : String) : Bool :=
  sources.any fun s => Entries.hasKey s.2 keyword

/-- The types that keywords are about, given which of them are there. -/
def impliedTypes (has : String → Bool) : List String :=
  (if ["properties", "additionalProperties", "required"].any has then ["object"] else []) ++
  (if has "items" then ["array"] else [])

/-- The types of a schema that writes none: those of the first part that does, or else those that
the keywords are about. -/
def inferredTypes (sources : List Source) (at_ : Location) : Except SchemaError (List String) :=
  match firstDeclaredTypes at_ sources.tail with
  | .error e => .error e
  | .ok (some types) => .ok types
  | .ok none => .ok (impliedTypes (hasKeyword sources))

/-- The values that `enum` or `const` allow. -/
def literalValues? (schema : List (String × Json)) : Option (List Json) :=
  match Entries.get? schema "enum" with
  | some (.array values) => some values
  | _ => (Entries.get? schema "const").map fun v => [v]

/-- The node for a value that is not a string. -/
def literalNode? : Json → Option Node
  | .string _ => none
  | .null => some .null
  | .bool _ => some .bool
  | .number (.integer _) => some .integer
  | .number (.double _) => some .double
  | .array _ | .object _ => some .any

/-- One enum for all strings, and one node for every other kind. -/
def literalNodes (values : List Json) : List Node :=
  let cases := values.filterMap Json.string?
  let enums := if cases.isEmpty then [] else [Node.enum (.ofList cases)]
  (values.filterMap literalNode?).foldl pushUnique enums

def optionKeywords : List String := ["oneOf", "anyOf"]

def arrayAt (schema : List (String × Json)) (keyword : String) : Option (List Json) :=
  (Entries.get? schema keyword).bind Json.array?

/-- The locations of the elements of an array. -/
def elementLocations (at_ : Location) (items : List Json) : List Location :=
  (List.range items.length).map fun i => at_.push (toString i)

/-- The locations of the options of a schema. -/
def optionLocations (schema : List (String × Json)) (at_ : Location) : List Location :=
  optionKeywords.flatMap fun keyword =>
    match arrayAt schema keyword with
    | some options => elementLocations (at_.push keyword) options
    | none => []

/-! ## Objects -/

/-- What the sources of an object say together. -/
structure ObjectRules where
  properties : Entries String Location
  required : List String
  additional : Option Location
  closed : Bool

namespace ObjectRules

def empty : ObjectRules := ⟨[], [], none, false⟩

def addProperties (rules : ObjectRules) (l : Location) : Option Json → ObjectRules
  | some (.object members) =>
    { rules with
      properties := members.foldl (fun ps e => ps.put e.1 ((l.push "properties").push e.1))
        rules.properties }
  | _ => rules

def addRequired (rules : ObjectRules) : Option Json → ObjectRules
  | some (.array names) =>
    { rules with required := rules.required ++ names.filterMap Json.string? }
  | _ => rules

def addAdditional (rules : ObjectRules) (l : Location) : Option Json → ObjectRules
  | some (.object _) =>
    match rules.additional with
    | none => { rules with additional := some (l.push "additionalProperties") }
    | some _ => rules
  | some (.bool false) => { rules with closed := true }
  | _ => rules

def addSource (rules : ObjectRules) (source : Source) : ObjectRules :=
  let (l, schema) := source
  ((rules.addProperties l (Entries.get? schema "properties")).addRequired
    (Entries.get? schema "required")).addAdditional l (Entries.get? schema "additionalProperties")

def ofSources (sources : List Source) : ObjectRules := sources.foldl addSource empty

/-- An object without properties that takes any member is a map. -/
def isMap (rules : ObjectRules) : Bool := rules.properties.isEmpty && !rules.closed

end ObjectRules

/-- The types that make up the node beside its options. -/
def typesOf (schema : List (String × Json)) (sources : List Source) (at_ : Location) :
    Except SchemaError (List String) :=
  match declaredTypes schema at_ with
  | .error e => .error e
  | .ok (some types) => .ok types
  | .ok none =>
    if optionKeywords.any fun k => (arrayAt schema k).isSome then .ok []
    else inferredTypes sources at_

def stringFormat? (schema : List (String × Json)) : Option StringFormat :=
  ((Entries.get? schema "format").bind Json.string?).bind StringFormat.ofKeyword?

end JsonTypes.Materialize
