import JsonTypes.Graph.Attributes
import JsonTypes.Samples.Config
import JsonTypes.Session.Source

/-!
# JSON forms read back

Nodes, attributes, sources and settings are written as JSON and read from it by decoders. Reading
undoes writing: `Decoder.Reads` says so of one decoder and one form, and is carried through lists,
optional values, maps and the members of records, so each type needs only its own members. What a
form leaves out (nothing, an empty list, an empty map) is what the decoder takes for a member that
is absent.

A form is compared with another as a value, whatever the order of its members: `Json.Tells` says
that no two values share a form in that sense.
-/

namespace JsonTypes

/-! ## Decoders -/

namespace Decoder

variable {α β σ : Type} {d : Decoder α} {toJson : α → Json}

/-- What is written in a form is read back. -/
def Reads (d : Decoder α) (toJson : α → Json) : Prop := ∀ a, d.ofJson (toJson a) = .ok a

theorem reads_bool : bool.Reads .bool := fun _ => rfl

theorem reads_string (wanted : String) : (string wanted).Reads .string := fun _ => rfl

theorem reads_json : json.Reads id := fun _ => rfl

theorem reads_index : index.Reads fun n => .int n := fun _ => rfl

theorem reads_byte : byte.Reads fun b => .int b.toNat := by
  intro b
  have hle : b.toNat ≤ 255 := Nat.le_of_lt_succ b.toNat_lt
  have hread : (natural (some 255) "u8").ofJson (.int b.toNat) = .ok b.toNat := by
    change (if (some 255).all (b.toNat ≤ ·) then _ else _) = _
    rw [if_pos (by simpa using hle)]
  change ((natural (some 255) "u8").ofJson (.int b.toNat)).map UInt8.ofNat = _
  rw [hread]
  exact congrArg Except.ok (UInt8.ofNat_toNat)

theorem mapM_ofJson (h : d.Reads toJson) (as : List α) : (as.map toJson).mapM d.ofJson = .ok as := by
  induction as with
  | nil => rfl
  | cons a rest ih =>
    rw [List.map_cons, List.mapM_cons, h a, ih]
    rfl

theorem Reads.list (h : d.Reads toJson) : (list d).Reads fun as => .array (as.map toJson) :=
  mapM_ofJson h

/-- An optional value that is there is read as a value, if its form is not that of nothing. -/
theorem Reads.nullable (h : d.Reads toJson) (hne : ∀ a, toJson a ≠ .null) (a : α) :
    (nullable d).ofJson (toJson a) = .ok (some a) := by
  have hread := h a
  unfold Decoder.nullable
  dsimp only
  split
  · exact absurd ‹_› (hne a)
  · rw [hread]
    rfl

theorem map_ofJson {v : Json} {a : α} (h : d.ofJson v = .ok a) (f : α → β) :
    (d.map f).ofJson v = .ok (f a) := by
  change (d.ofJson v).map f = _
  rw [h]
  rfl

namespace RecordShape

variable {r : RecordShape σ α} {k : String} {v : Json} {f : Field σ} {change : σ → σ} {s s' : σ}

theorem ofMembers_cons {rest : List (String × Json)} (hf : r.fields.find? (·.name = k) = some f)
    (hv : f.decoder.ofJson v = .ok change) (hrest : r.ofMembers rest (change s) = .ok s') :
    r.ofMembers ((k, v) :: rest) s = .ok s' := by
  simp only [ofMembers, hf, hv, hrest]

variable {d : Decoder β} {form : β → Json} {isSet : σ → Bool} {absent : Bool}

/-- A member that is there only with a value sets that value, or nothing. -/
theorem ofMembers_optional {set : Option β → σ → σ} {rest : List (String × Json)}
    (hf : r.fields.find? (·.name = k) = some ⟨k, isSet, (nullable d).map set, absent⟩)
    (hd : d.Reads form) (hne : ∀ b, form b ≠ .null) (b : Option β)
    (hrest : r.ofMembers rest (b.elim s fun b => set (some b) s) = .ok s') :
    r.ofMembers (optionalMember k form b ++ rest) s = .ok s' := by
  cases b with
  | none => exact hrest
  | some b => exact ofMembers_cons hf (map_ofJson (hd.nullable hne b) set) hrest

/-- A member that is left out under a condition sets its value only without it. -/
theorem ofMembers_unless {set : β → σ → σ} {rest : List (String × Json)}
    (hf : r.fields.find? (·.name = k) = some ⟨k, isSet, d.map set, absent⟩)
    (hd : d.Reads form) (b : β) (omitted : Bool)
    (hrest : r.ofMembers rest (if omitted then s else set b s) = .ok s') :
    r.ofMembers ((if omitted then [] else [(k, form b)]) ++ rest) s = .ok s' := by
  cases omitted with
  | true => exact hrest
  | false => exact ofMembers_cons hf (map_ofJson (hd b) set) hrest

theorem decoder_object {members : List (String × Json)} {a : α}
    (h : r.ofMembers members r.start = .ok s) (ha : r.finish s = .ok a) :
    r.decoder.ofJson (.object members) = .ok a := by
  change (r.ofMembers members r.start).bind r.finish = _
  rw [h]
  exact ha

end RecordShape

end Decoder

open Decoder Decoder.RecordShape

/-! ## Settings -/

namespace InferenceConfig

theorem reads_toJson : decoder.Reads toJson := fun _ => rfl

end InferenceConfig

/-! ## Sources -/

namespace Sample

theorem reads_toJson : decoder.Reads toJson := by
  intro sample
  cases sample with
  | text s => rfl
  | bytes bs => exact map_ofJson (reads_byte.list bs) bytes
  | file path => rfl

end Sample

namespace SampleSource

theorem reads_toJson : decoder.Reads toJson := by
  intro s
  obtain ⟨name, samples, description⟩ := s
  have hmembers : toJson ⟨name, samples, description⟩ = .object (("name", .string name) ::
      ("samples", .array (samples.map Sample.toJson)) ::
        (optionalMember "description" .string description ++ [])) := by
    rw [List.append_nil]
    rfl
  rw [hmembers]
  refine decoder_object (ofMembers_cons rfl rfl
    (ofMembers_cons rfl (map_ofJson (Sample.reads_toJson.list samples) _)
      (ofMembers_optional rfl (reads_string "a string") (fun _ h => by cases h) description
        rfl))) ?_
  cases description <;> rfl

end SampleSource

namespace SchemaSource

theorem reads_toJson : decoder.Reads toJson := by
  intro s
  obtain ⟨name, uris, schema, isConverted⟩ := s
  have hmembers : toJson ⟨name, uris, schema, isConverted⟩ = .object (("name", .string name) ::
      (optionalMember "uris" (fun uris => .array (uris.map .string)) uris ++
        (optionalMember "schema" .string schema ++
          (optionalMember "isConverted" .bool isConverted ++ [])))) := by
    simp only [toJson, List.append_assoc, List.append_nil, List.cons_append, List.nil_append]
  rw [hmembers]
  refine decoder_object (ofMembers_cons rfl rfl
    (ofMembers_optional rfl (reads_string "a string").list (fun _ => nofun) uris
      (ofMembers_optional rfl (reads_string "a string") (fun _ h => by cases h) schema
        (ofMembers_optional rfl reads_bool (fun _ h => by cases h) isConverted rfl)))) ?_
  cases uris <;> cases schema <;> cases isConverted <;> rfl

end SchemaSource

/-! ## Maps -/

namespace Node

theorem membersOf_map {α : Type} {d : Decoder α} {form : α → Json} (h : d.Reads form)
    (es : List (String × α)) : membersOf d (es.map fun e => (e.1, form e.2)) = .ok es := by
  induction es with
  | nil => rfl
  | cons e rest ih =>
    rw [List.map_cons, membersOf, h e.2, ih]
    rfl

theorem reads_map {α : Type} {d : Decoder α} {form : α → Json} (h : d.Reads form) :
    (mapDecoder d).Reads fun m => .object (m.toList.map fun e => (e.1, form e.2)) := by
  intro m
  change (membersOf d _).map SortedMap.ofList = _
  rw [membersOf_map h]
  exact congrArg Except.ok m.ofList_toList

end Node

/-! ## Attributes -/

namespace Attributes

theorem reads_toJson : decoder.Reads toJson := by
  intro a
  obtain ⟨descriptions, accessorNames, extra⟩ := a
  have hmembers : toJson ⟨descriptions, accessorNames, extra⟩ = .object
      ((if descriptions.isEmpty then [] else [("descriptions", .array (descriptions.map .string))]) ++
      ((if accessorNames.isEmpty then []
        else [("accessorNames",
          .object (accessorNames.toList.map fun e => (e.1, .string e.2)))]) ++
      ((if extra.isEmpty then [] else [("extra", .object (extra.toList.map fun e => (e.1, id e.2)))])
        ++ []))) := by
    simp only [toJson, List.append_assoc, List.append_nil, id, List.map_id']
  rw [hmembers]
  refine decoder_object (ofMembers_unless rfl (reads_string "a string").list descriptions _
    (ofMembers_unless rfl (Node.reads_map (reads_string "a string")) accessorNames _
      (ofMembers_unless rfl (Node.reads_map reads_json) extra _ rfl))) ?_
  -- A member that was left out is empty, and so is what stands for it when reading.
  have hdescriptions : descriptions.isEmpty → descriptions = [] := List.isEmpty_iff.1
  have hnames : accessorNames.isEmpty → accessorNames = .empty := SortedMap.isEmpty_iff.1
  have hextra : extra.isEmpty → extra = .empty := SortedMap.isEmpty_iff.1
  by_cases h₁ : descriptions.isEmpty <;> by_cases h₂ : accessorNames.isEmpty <;>
    by_cases h₃ : extra.isEmpty <;> simp_all [shape]

end Attributes

/-! ## Nodes -/

namespace Node

theorem single_ofJson {α : Type} {d : Decoder α} {v : Json} {a : α} (h : d.ofJson v = .ok a)
    (wanted name : String) (absent : Option α) :
    (single wanted name d absent).decoder.ofJson (.object [(name, v)]) = .ok a := by
  have hf : (single wanted name d absent).fields.find? (·.name = name) =
      some ⟨name, Option.isSome, d.map fun a _ => some a, false⟩ :=
    List.find?_cons_of_pos (decide_eq_true rfl)
  exact decoder_object (ofMembers_cons hf (map_ofJson h _) rfl) rfl

theorem reads_format : formatDecoder.Reads fun f => .string f.keyword := by
  intro f
  cases f <;> rfl

theorem reads_property : propertyShape.decoder.Reads propertyJson := fun _ => rfl

theorem ofJson_toJson_eq (n : Node) :
    ofJson n.toJson = ofTagged (.string n.kind) (.object n.fieldsJson) := by
  cases n <;> rfl

theorem ofJson_toJson (n : Node) : ofJson n.toJson = .ok n := by
  rw [ofJson_toJson_eq]
  cases n with
  | any | never | null | bool | integer | double => rfl
  | string format =>
    have hformat : (nullable formatDecoder).ofJson (formatJson format) = .ok format := by
      rcases format with _ | f
      · rfl
      · exact reads_format.nullable (fun _ => nofun) f
    exact map_ofJson (single_ofJson hformat _ _ _) string
  | enum cases =>
    refine (map_ofJson (single_ofJson ((reads_string "a string").list cases.toList) _ _ _) _).trans ?_
    rw [cases.ofList_toList]
  | array items => exact map_ofJson (single_ofJson (reads_index items) _ _ _) array
  | object properties =>
    exact map_ofJson (single_ofJson (reads_map reads_property properties) _ _ _) object
  | map values => exact map_ofJson (single_ofJson (reads_index values) _ _ _) map
  | union members =>
    refine (map_ofJson (single_ofJson (reads_index.list members.toList) _ _ _) _).trans ?_
    rw [members.ofList_toList]

end Node

/-! ## Forms that tell values apart -/

namespace Json

theorem Same.array_elements {xs ys : List Json} (h : Same (.array xs) (.array ys)) :
    xs.length = ys.length ∧
      ∀ (i : Nat) (x y : Json), xs[i]? = some x → ys[i]? = some y → Same x y := by
  cases h with
  | refl => exact ⟨rfl, fun i x y hx hy => Option.some.inj (hx.symm.trans hy) ▸ .refl x⟩
  | array hlen h => exact ⟨hlen, h⟩

theorem Same.object_member {ms ns : List (String × Json)} (h : Same (.object ms) (.object ns))
    (k : String) : Option.Rel Same (Entries.get? ms k) (Entries.get? ns k) := by
  cases h with
  | refl =>
    rcases Entries.get? ms k with _ | x
    · exact .none
    · exact .some (.refl x)
  | object hkeys h =>
    rcases hx : Entries.get? ms k with _ | x <;> rcases hy : Entries.get? ns k with _ | y
    · exact .none
    · exact absurd ((hkeys k).2 (Entries.mem_keys_iff.2 ⟨y, hy⟩)) (Entries.get?_eq_none_iff.1 hx)
    · exact absurd ((hkeys k).1 (Entries.mem_keys_iff.2 ⟨x, hx⟩)) (Entries.get?_eq_none_iff.1 hy)
    · exact .some (h k x y hx hy)

/-- Values with the same form are the same. -/
def Tells {α : Type} (form : α → Json) : Prop := ∀ a b, (form a).Same (form b) → a = b

theorem tells_string : Tells .string := by
  intro a b h
  cases h
  rfl

theorem tells_bool : Tells .bool := by
  intro a b h
  cases h
  rfl

theorem tells_nat : Tells fun n : Nat => .int n := by
  intro a b h
  have hint : (a : Int) = b := by
    cases h
    rfl
  exact Int.ofNat_inj.1 hint

variable {α : Type} {form : α → Json}

theorem Tells.list (h : Tells form) : Tells fun as : List α => .array (as.map form) := by
  intro as bs hsame
  obtain ⟨hlen, hget⟩ := hsame.array_elements
  refine List.ext_getElem (by simpa using hlen) fun i ha hb => h _ _ (hget i _ _ ?_ ?_)
  · rw [List.getElem?_map, List.getElem?_eq_getElem ha, Option.map_some]
  · rw [List.getElem?_map, List.getElem?_eq_getElem hb, Option.map_some]

theorem Tells.some {a b : α} (h : Tells form)
    (hsame : Option.Rel Same (some (form a)) (some (form b))) : a = b := by
  cases hsame with
  | some hsame => exact h a b hsame

theorem Tells.option (h : Tells form) {a b : Option α}
    (hsame : Option.Rel Same (a.map form) (b.map form)) : a = b := by
  rcases a with _ | a <;> rcases b with _ | b
  · rfl
  · cases hsame
  · cases hsame
  · exact congrArg Option.some (h.some hsame)

theorem get?_map (es : List (String × α)) (k : String) :
    Entries.get? (es.map fun e => (e.1, form e.2)) k = (Entries.get? es k).map form := by
  induction es with
  | nil => rfl
  | cons e rest ih =>
    rw [List.map_cons, Entries.get?, Entries.get?, ih]
    exact (apply_ite (Option.map form) (e.1 = k) (some e.2) (Entries.get? rest k)).symm

theorem Tells.map (h : Tells form) :
    Tells fun m : SortedMap String α => .object (m.toList.map fun e => (e.1, form e.2)) := by
  intro m n hsame
  refine SortedMap.ext_get? fun k => ?_
  have hmember := hsame.object_member k
  rw [get?_map, get?_map, m.get?_toList, n.get?_toList] at hmember
  exact h.option hmember

end Json

namespace Node

open Json

theorem keyword_injective : StringFormat.keyword.Injective := fun f g h =>
  Option.some.inj (by rw [← f.ofKeyword?_keyword, h, g.ofKeyword?_keyword])

theorem tells_format : Tells formatJson := by
  intro f g h
  rcases f with _ | f <;> rcases g with _ | g
  · rfl
  · cases h
  · cases h
  · exact congrArg some (keyword_injective (tells_string _ _ h))

theorem tells_property : Tells propertyJson := by
  intro p q h
  have htype : p.type = q.type := tells_nat.some (h.object_member "ty")
  have hoptional : p.optional = q.optional := tells_bool.some (h.object_member "optional")
  obtain ⟨type, optional⟩ := p
  cases htype
  cases hoptional
  rfl

/-- The kind is in the form, and what belongs to the kind is under a key of its own. -/
theorem tells_toJson : Tells toJson := by
  intro n m h
  have hkind : n.kind = m.kind := tells_string.some (h.object_member "kind")
  cases n <;> cases m <;> first | rfl | (simp [kind] at hkind; done) | skip
  case string.string => exact congrArg string (tells_format.some (h.object_member "format"))
  case enum.enum =>
    have hcases := tells_string.list.some (h.object_member "cases")
    exact congrArg enum (SortedSet.ext_mem fun _ => hcases ▸ Iff.rfl)
  case array.array => exact congrArg array (tells_nat.some (h.object_member "items"))
  case object.object => exact congrArg object (tells_property.map.some (h.object_member "properties"))
  case map.map => exact congrArg map (tells_nat.some (h.object_member "values"))
  case union.union =>
    have hmembers := tells_nat.list.some (h.object_member "members")
    exact congrArg union (SortedSet.ext_mem fun _ => hmembers ▸ Iff.rfl)

end Node

/-- Every form reads back as what it was written from, and nodes with one form, up to the order of
members, are one node. -/
theorem json_forms_read_back :
    (∀ n : Node, Node.ofJson n.toJson = .ok n) ∧
    (∀ a : Attributes, Attributes.decoder.ofJson a.toJson = .ok a) ∧
    (∀ s : SampleSource, SampleSource.decoder.ofJson s.toJson = .ok s) ∧
    (∀ s : SchemaSource, SchemaSource.decoder.ofJson s.toJson = .ok s) ∧
    (∀ c : InferenceConfig, InferenceConfig.decoder.ofJson c.toJson = .ok c) ∧
    ∀ n m : Node, n.toJson.Same m.toJson ↔ n = m :=
  ⟨Node.ofJson_toJson, Attributes.reads_toJson, SampleSource.reads_toJson,
    SchemaSource.reads_toJson, InferenceConfig.reads_toJson,
    fun n m => ⟨Node.tells_toJson n m, fun h => h ▸ .refl n.toJson⟩⟩

end JsonTypes
