import JsonTypes.Proofs.Schema.Resolving

/-!
# Values that a schema admits

Whether a schema admits a value is said for locations, since a reference only means something in
its document. `Admits` is the least relation that the keywords describe: `Allows` has one rule for
each of them, given which values are admitted at other locations. What counts as having a format
is left open.

The rules take each schema by itself. They know nothing of how parts share their properties, of
maps, or of the types that a schema without `type` takes from its parts.
-/

namespace JsonTypes

namespace Json

/-- The names of the types that a value has. -/
def typeNames : Json → List String
  | null => ["null"]
  | bool _ => ["boolean"]
  | number (.integer _) => ["integer", "number"]
  | number (.double _) => ["number"]
  | string _ => ["string"]
  | array _ => ["array"]
  | object _ => ["object"]

end Json

namespace Materialize

/-- The keys of `properties`, if it is an object. -/
def propertyNames (schema : List (String × Json)) : List String :=
  match Entries.get? schema "properties" with
  | some (.object properties) => Entries.keys properties
  | _ => []

/-- The rules of an object schema, given what other locations admit. -/
structure Allows (hasFormat : StringFormat → String → Prop) (Admitted : Location → Json → Prop)
    (l : Location) (schema : List (String × Json)) (v : Json) : Prop where
  /-- A value that `enum` or `const` lists. -/
  literal : ∀ values, literalValues? schema = some values → ∃ w ∈ values, w.Same v
  /-- An option of `oneOf`, and one of `anyOf`. -/
  options : ∀ keyword ∈ optionKeywords, ∀ options, arrayAt schema keyword = some options →
    ∃ o ∈ elementLocations (l.push keyword) options, Admitted o v
  /-- Every part of `allOf`. -/
  parts : ∀ parts, arrayAt schema "allOf" = some parts →
    ∀ p ∈ elementLocations (l.push "allOf") parts, Admitted p v
  declared : ∀ types, declaredTypes schema l = .ok (some types) → ∃ type ∈ types, type ∈ v.typeNames
  implied : Entries.get? schema "type" = none → impliedTypes (Entries.hasKey schema) ≠ [] →
    ∃ type ∈ impliedTypes (Entries.hasKey schema), type ∈ v.typeNames
  properties : ∀ members, v = .object members → ∀ k x, (k, x) ∈ members →
    k ∈ propertyNames schema → Admitted ((l.push "properties").push k) x
  required : ∀ members, v = .object members → ∀ names,
    Entries.get? schema "required" = some (.array names) → ∀ k, .string k ∈ names →
      k ∈ Entries.keys members
  /-- What `properties` does not name. -/
  additional : ∀ members, v = .object members → ∀ rest,
    Entries.get? schema "additionalProperties" = some rest →
      (∃ ms, rest = .object ms) ∨ rest = .bool false → ∀ k x, (k, x) ∈ members →
        k ∉ propertyNames schema → Admitted (l.push "additionalProperties") x
  items : ∀ xs, v = .array xs → ∀ item, Entries.get? schema "items" = some item →
    (∃ ms, item = .object ms) ∨ (∃ b, item = .bool b) → ∀ x ∈ xs, Admitted (l.push "items") x
  /-- One of the entries, where `items` has several. -/
  entries : ∀ xs, v = .array xs → ∀ entries, Entries.get? schema "items" = some (.array entries) →
    entries ≠ [] → ∀ x ∈ xs, ∃ e ∈ elementLocations (l.push "items") entries, Admitted e x
  format : ∀ s, v = .string s → ∀ f, stringFormat? schema = some f → hasFormat f s

/-- The values that the schema at a location admits. -/
inductive Admits (hasFormat : StringFormat → String → Prop) (docs : Documents) :
    Location → Json → Prop
  | any {l v} : docs.schemaAt? l = some (.bool true) → Admits hasFormat docs l v
  | alias_ {l v schema reference target} : docs.schemaAt? l = some schema →
      reference? schema = some reference →
      docs.locate? (l.document.resolve reference) = some target →
      Admits hasFormat docs target v → Admits hasFormat docs l v
  | object {l v schema} (Admitted : Location → Json → Prop) :
      docs.schemaAt? l = some (.object schema) → reference? (.object schema) = none →
      Allows hasFormat Admitted l schema v →
      (∀ l' v', Admitted l' v' → Admits hasFormat docs l' v') → Admits hasFormat docs l v

theorem Allows.mono {hasFormat : StringFormat → String → Prop}
    {Admitted Admitted' : Location → Json → Prop} (hp : ∀ l v, Admitted l v → Admitted' l v)
    {l : Location} {schema : List (String × Json)} {v : Json}
    (h : Allows hasFormat Admitted l schema v) : Allows hasFormat Admitted' l schema v where
  literal := h.literal
  options keyword hk options ho := by
    obtain ⟨o, hmem, hv⟩ := h.options keyword hk options ho
    exact ⟨o, hmem, hp o v hv⟩
  parts parts hparts p hmem := hp p v (h.parts parts hparts p hmem)
  declared := h.declared
  implied := h.implied
  properties members hv k x hx hk := hp _ x (h.properties members hv k x hx hk)
  required := h.required
  additional members hv rest hr hs k x hx hk :=
    hp _ x (h.additional members hv rest hr hs k x hx hk)
  items xs hv item hi hs x hx := hp _ x (h.items xs hv item hi hs x hx)
  entries xs hv entries he hne x hx := by
    obtain ⟨e, hmem, hx⟩ := h.entries xs hv entries he hne x hx
    exact ⟨e, hmem, hp e x hx⟩
  format := h.format

end Materialize

end JsonTypes
