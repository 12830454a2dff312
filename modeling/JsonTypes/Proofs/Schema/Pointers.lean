import Mathlib.Data.List.Induction
import JsonTypes.Proofs.Schema.Names
import JsonTypes.Proofs.Schema.Region

/-!
# What a pointer says

A token is read back from its escaped form, in which there is no slash, so the tokens of a pointer
are read back from the pointer (`Pointer.parse_render`), whatever tildes and slashes they are made
of. The address of a document with the pointer of a location as its fragment resolves to that
location, if there is something at it, and each top level of an object is resolved alone by the
pointer that ends with its name (`pointers_read_back`).
-/

namespace JsonTypes

/-! ## Tokens and pointers -/

namespace Pointer

open Text

variable {a x : Char}

theorem replacePair_cons_of_ne (h : x ≠ a) (b c : Char) (cs : List Char) :
    replacePair a b c (x :: cs) = x :: replacePair a b c cs := by
  cases cs with
  | nil => rfl
  | cons y cs => rw [replacePair, if_neg fun hx => h hx.1]

theorem replacePair_pair (a b c : Char) (cs : List Char) :
    replacePair a b c (a :: b :: cs) = c :: replacePair a b c cs := by
  rw [replacePair, if_pos ⟨rfl, rfl⟩]

theorem escapeToken_tilde (cs : List Char) :
    escapeToken ('~' :: cs) = '~' :: '0' :: escapeToken cs := rfl

theorem escapeToken_slash (cs : List Char) :
    escapeToken ('/' :: cs) = '~' :: '1' :: escapeToken cs := rfl

theorem escapeToken_other (htilde : x ≠ '~') (hslash : x ≠ '/') (cs : List Char) :
    escapeToken (x :: cs) = x :: escapeToken cs := by
  rw [escapeToken, List.flatMap_cons, if_neg htilde, if_neg hslash]
  rfl

/-- What is left of an escaped token when its slashes are back. -/
def escapeTildes (cs : List Char) : List Char :=
  cs.flatMap fun c => if c = '~' then ['~', '0'] else [c]

theorem escapeTildes_tilde (cs : List Char) :
    escapeTildes ('~' :: cs) = '~' :: '0' :: escapeTildes cs := rfl

theorem escapeTildes_other (htilde : x ≠ '~') (cs : List Char) :
    escapeTildes (x :: cs) = x :: escapeTildes cs := by
  rw [escapeTildes, List.flatMap_cons, if_neg htilde]
  rfl

/-- The slashes come back first. What stands for a tilde is not taken for a slash, whatever comes
behind it. -/
theorem replacePair_escapeToken (cs : List Char) :
    replacePair '~' '1' '/' (escapeToken cs) = escapeTildes cs := by
  induction cs with
  | nil => rfl
  | cons c cs ih =>
    by_cases htilde : c = '~'
    · subst htilde
      rw [escapeToken_tilde, escapeTildes_tilde, replacePair, if_neg (by decide),
        replacePair_cons_of_ne (by decide), ih]
    by_cases hslash : c = '/'
    · subst hslash
      rw [escapeToken_slash, escapeTildes_other htilde, replacePair_pair, ih]
    · rw [escapeToken_other htilde hslash, escapeTildes_other htilde,
        replacePair_cons_of_ne htilde, ih]

theorem replacePair_escapeTildes (cs : List Char) :
    replacePair '~' '0' '~' (escapeTildes cs) = cs := by
  induction cs with
  | nil => rfl
  | cons c cs ih =>
    by_cases htilde : c = '~'
    · subst htilde
      rw [escapeTildes_tilde, replacePair_pair, ih]
    · rw [escapeTildes_other htilde, replacePair_cons_of_ne htilde, ih]

theorem unescapeToken_escapeToken (cs : List Char) : unescapeToken (escapeToken cs) = cs := by
  rw [unescapeToken, replacePair_escapeToken, replacePair_escapeTildes]

theorem slash_not_mem_escapeToken (cs : List Char) : '/' ∉ escapeToken cs := by
  intro h
  obtain ⟨c, -, hc⟩ := List.mem_flatMap.1 h
  split_ifs at hc with htilde hslash
  · exact absurd hc (by decide)
  · exact absurd hc (by decide)
  · exact hslash (List.mem_singleton.1 hc).symm

/-- What stands behind the last slash is one more token. -/
theorem parse_append_token (cs : List Char) (token : String) :
    parse (cs ++ '/' :: escapeToken token.toList) = parse cs ++ [token] := by
  have htoken : (escapeToken token.toList).splitOn '/' = [escapeToken token.toList] :=
    List.splitOn_eq_singleton (slash_not_mem_escapeToken _)
  have hsplit : (cs ++ '/' :: escapeToken token.toList).splitOn '/' =
      cs.splitOn '/' ++ (escapeToken token.toList).splitOn '/' :=
    List.splitOn_append_cons_self _ _
  have hne : cs.splitOn '/' ≠ [] := List.splitOn_ne_nil _ _
  rw [parse, parse, splitOn_eq, splitOn_eq, hsplit, htoken, List.tail_append_of_ne_nil hne,
    List.map_append, List.map_singleton, unescapeToken_escapeToken, String.ofList_toList]

theorem parse_render (tokens : List String) : parse (render tokens) = tokens := by
  induction tokens using List.reverseRecOn with
  | nil => rfl
  | append_singleton tokens token ih =>
    rw [render, List.flatMap_append, List.flatMap_singleton]
    exact (parse_append_token _ token).trans (congrArg (· ++ [token]) ih)

end Pointer

/-! ## Locations and their addresses -/

namespace Location

theorem ofPointer_pointer (l : Location) : ofPointer l.document l.pointer = l := by
  rw [ofPointer, pointer, String.toList_ofList, Pointer.parse_render]

/-- The address of a location: that of its document, with its pointer as the fragment. -/
def uri (l : Location) : SchemaUri := SchemaUri.withFragment ⟨l.document, none⟩ (some l.pointer)

end Location

namespace Resolver

open Address

variable {r r' : Resolver} {uri : SchemaUri} {l : Location} {schema : Json}

theorem schemaAt_eq_ok_iff : schemaAt l r = (.ok schema, r') ↔
    ∃ d, document l.document r = (.ok d, r') ∧ lookup d l = .ok schema := by
  constructor
  · intro h
    obtain ⟨d, r₁, hd, h⟩ := Action.of_bind_ok h
    rw [ofExcept_apply, Prod.mk.injEq] at h
    obtain ⟨hschema, rfl⟩ := h
    exact ⟨d, hd, hschema⟩
  · rintro ⟨d, hd, hschema⟩
    refine (Action.bind_ok hd).trans ?_
    rw [ofExcept_apply, hschema]

/-- An address resolves to what it means in its document, if there is something there. -/
theorem resolve_eq_ok_iff : resolve uri r = (.ok l, r') ↔
    ∃ d schema, document uri.document r = (.ok d, r') ∧ locate uri d = .ok l ∧
      lookup d l = .ok schema := by
  constructor
  · intro h
    obtain ⟨d, r₁, hd, h⟩ := Action.of_bind_ok h
    obtain ⟨l', r₂, hl, h⟩ := Action.of_bind_ok h
    obtain ⟨schema, r₃, hschema, h⟩ := Action.of_bind_ok h
    rw [ofExcept_apply, Prod.mk.injEq] at hl hschema
    obtain ⟨hl, rfl⟩ := hl
    obtain ⟨hschema, rfl⟩ := hschema
    cases h
    exact ⟨d, schema, hd, hl, hschema⟩
  · rintro ⟨d, schema, hd, hl, hschema⟩
    have hl' : (liftM (locate uri d) : Resolve Location) r' = (.ok l, r') := by
      rw [ofExcept_apply, hl]
    have hschema' : (liftM (lookup d l) : Resolve Json) r' = (.ok schema, r') := by
      rw [ofExcept_apply, hschema]
    exact (Action.bind_ok hd).trans ((Action.bind_ok hl').trans (Action.bind_ok hschema'))

/-- A fragment that starts with a slash is a pointer. -/
theorem locate_pointer (uri : SchemaUri) {cs : List Char} (h : cs.head? = some '/') (d : Json) :
    locate (uri.withFragment (some (String.ofList cs))) d =
      .ok ⟨uri.document, Pointer.parse cs⟩ := by
  obtain ⟨rest, rfl⟩ := List.head?_eq_some_iff.1 h
  simp [locate, SchemaUri.withFragment, nonEmpty, Location.ofPointer]

theorem locate_uri (l : Location) (d : Json) : locate l.uri d = .ok l := by
  obtain ⟨document, path⟩ := l
  rcases path with _ | ⟨token, rest⟩
  · rfl
  · exact (locate_pointer ⟨document, none⟩ rfl d).trans
      (congrArg (fun path => Except.ok (Location.mk document path)) (Pointer.parse_render _))

/-- The address of a location resolves to it just if there is something at it. -/
theorem resolve_uri_iff : resolve l.uri r = (.ok l, r') ↔
    ∃ schema, schemaAt l r = (.ok schema, r') := by
  have hdocument : l.uri.document = l.document := rfl
  simp only [resolve_eq_ok_iff, schemaAt_eq_ok_iff, hdocument, locate_uri, true_and]
  exact exists_comm

/-- The address of one of the top levels that a fragment with a slash at its end stands for. -/
def memberUri (uri : SchemaUri) (fragment name : String) : SchemaUri :=
  uri.withFragment (some (String.ofList
    (fragment.toList.dropLast ++ '/' :: Pointer.escapeToken name.toList)))

theorem lookup_eq_ok_iff {d : Json} : lookup d l = .ok schema ↔ d.follow l.path = .ok schema := by
  unfold lookup
  rcases d.follow l.path with _ | v
  · exact ⟨nofun, nofun⟩
  · exact ⟨fun h => congrArg _ (Except.ok.inj h), fun h => congrArg _ (Except.ok.inj h)⟩

theorem lookup_push {d v : Json} {name : String} (hl : lookup d l = .ok schema)
    (hv : schema.child? name = some v) : lookup d (l.push name) = .ok v := by
  refine lookup_eq_ok_iff.2 ((Json.follow_append (lookup_eq_ok_iff.1 hl) [name]).trans ?_)
  rw [Json.follow, hv]
  rfl

/-- Several top levels are the members of an object that is not a root, behind a final slash. -/
theorem of_refsAt_multiple {default : String} {refs : List (String × Location)}
    (h : refsAt uri default l schema = .ok (.multiple refs)) :
    (withoutFinalSlash uri).2 = true ∧ l.isRoot = false ∧ ∃ members, schema = .object members ∧
      refs = members.map fun e => (e.1, l.push e.1) := by
  unfold refsAt at h
  split_ifs at h with hmembers
  rotate_left
  · cases h
  rw [Bool.and_eq_true, Bool.not_eq_true'] at hmembers
  refine ⟨hmembers.1, hmembers.2, ?_⟩
  unfold refsOfMembers at h
  split at h
  · split_ifs at h
    cases h
    exact ⟨_, rfl, rfl⟩
  · cases h

theorem withoutFinalSlash_fst {fragment : String} (hfragment : uri.fragment = some fragment)
    (hslash : (withoutFinalSlash uri).2 = true) : (withoutFinalSlash uri).1 =
      uri.withFragment (some (String.ofList fragment.toList.dropLast)) := by
  unfold withoutFinalSlash at hslash ⊢
  simp only [hfragment] at hslash ⊢
  split_ifs at hslash ⊢
  rfl

/-- What a pointer means without the slash at its end, unless that was all of it. -/
theorem locate_withoutFinalSlash {fragment : String} {d : Json}
    (hpointer : fragment.toList.head? = some '/')
    (hl : locate (uri.withFragment (some (String.ofList fragment.toList.dropLast))) d = .ok l)
    (hroot : l.isRoot = false) :
    fragment.toList.dropLast.head? = some '/' ∧
      l = ⟨uri.document, Pointer.parse fragment.toList.dropLast⟩ := by
  obtain ⟨rest, hrest⟩ := List.head?_eq_some_iff.1 hpointer
  rcases rest with _ | ⟨c, rest⟩
  · rw [hrest] at hl
    cases hl
    cases hroot
  · have hhead : fragment.toList.dropLast.head? = some '/' := by
      rw [hrest]
      rfl
    rw [locate_pointer uri hhead] at hl
    exact ⟨hhead, (Except.ok.inj hl).symm⟩

/-- Each of several top levels is where its own address leads. -/
theorem resolve_memberUri {fragment default : String} {refs : List (String × Location)}
    (hfragment : uri.fragment = some fragment) (hpointer : fragment.toList.head? = some '/')
    (h : refsForUri uri default r = (.ok (.multiple refs), r')) {e : String × Location}
    (he : e ∈ refs) : resolve (memberUri uri fragment e.1) r = (.ok e.2, r') := by
  rw [refsForUri_eq] at h
  obtain ⟨l, r₁, hl, h⟩ := Action.of_bind_ok h
  obtain ⟨schema, r₂, hschema, h⟩ := Action.of_bind_ok h
  rw [ofExcept_apply, Prod.mk.injEq] at h
  obtain ⟨hrefs, rfl⟩ := h
  obtain ⟨hslash, hroot, members, rfl, rfl⟩ := of_refsAt_multiple hrefs
  obtain ⟨member, hmember, rfl⟩ := List.mem_map.1 he
  obtain ⟨v, hv⟩ := Entries.mem_keys_iff.1 (List.mem_map_of_mem hmember)
  rw [withoutFinalSlash_fst hfragment hslash] at hl
  obtain ⟨d, -, hd, hlocate, -⟩ := resolve_eq_ok_iff.1 hl
  obtain ⟨hhead, rfl⟩ := locate_withoutFinalSlash hpointer hlocate hroot
  -- The document is known by now, so looking at the object asks for nothing.
  change document uri.document r = (.ok d, r₁) at hd
  obtain ⟨d', hd', hlookup⟩ := schemaAt_eq_ok_iff.1 hschema
  rw [document_of_known (known_of_document hd)] at hd'
  cases hd'
  refine resolve_eq_ok_iff.2 ⟨d, v, hd, ?_, lookup_push hlookup hv⟩
  have hname : (fragment.toList.dropLast ++
      '/' :: Pointer.escapeToken member.1.toList).head? = some '/' := by
    rw [List.head?_append, hhead]
    rfl
  rw [memberUri, locate_pointer uri hname, Pointer.parse_append_token]
  rfl

end Resolver

open Resolver

/-- A location is read back from its pointer, so two locations of one document with one pointer are
the same. Its address resolves to it just if there is something at it, and each top level that a
pointer with a slash at its end stands for is what the pointer with the escaped name resolves to. -/
theorem pointers_read_back :
    (∀ l : Location, Location.ofPointer l.document l.pointer = l) ∧
    (∀ l l' : Location, l.document = l'.document ∧ l.pointer = l'.pointer ↔ l = l') ∧
    (∀ (l : Location) (r r' : Resolver),
      resolve l.uri r = (.ok l, r') ↔ ∃ schema, schemaAt l r = (.ok schema, r')) ∧
    ∀ uri fragment default r r' refs, uri.fragment = some fragment →
      fragment.toList.head? = some '/' →
      refsForUri uri default r = (.ok (.multiple refs), r') →
      ∀ e ∈ refs, resolve (memberUri uri fragment e.1) r = (.ok e.2, r') := by
  refine ⟨Location.ofPointer_pointer, fun l l' => ⟨?_, ?_⟩, fun l r r' => resolve_uri_iff,
    fun uri fragment default r r' refs hfragment hpointer h e he =>
      resolve_memberUri hfragment hpointer h he⟩
  · rintro ⟨hdocument, hpointer⟩
    rw [← l.ofPointer_pointer, ← l'.ofPointer_pointer, hdocument, hpointer]
  · rintro rfl
    exact ⟨rfl, rfl⟩

/-- A store with one document, in which names have tildes and slashes in them or are empty. -/
def slashed : SchemaStore := fun _ id =>
  if id.text = "x.json" then
    .ok (some (.object [("", .object [("~01", .bool true), ("/0", .object [])])]))
  else .ok none

/-- The members of an object under an empty name are where their pointers lead. -/
theorem pointers_read_back_slashed :
    let start : Resolver := .new ⟨[], some slashed⟩ []
    (∃ refs r', refsForUri ⟨⟨"x.json"⟩, some "//"⟩ "" start = (.ok (.multiple refs), r') ∧
      refs.map (·.1) = ["~01", "/0"] ∧
      ∀ e ∈ refs, resolve (memberUri ⟨⟨"x.json"⟩, some "//"⟩ "//" e.1) start = (.ok e.2, r')) ∧
    ∃ r', resolve (Location.uri ⟨⟨"x.json"⟩, ["", "/0"]⟩) start =
      (.ok ⟨⟨"x.json"⟩, ["", "/0"]⟩, r') := by
  intro start
  obtain ⟨-, -, hresolve, hmembers⟩ := pointers_read_back
  have hrefs : (refsForUri ⟨⟨"x.json"⟩, some "//"⟩ "" start).1 =
      .ok (.multiple [("~01", ⟨⟨"x.json"⟩, ["", "~01"]⟩), ("/0", ⟨⟨"x.json"⟩, ["", "/0"]⟩)]) := by
    decide +kernel
  have hthere : (schemaAt ⟨⟨"x.json"⟩, ["", "/0"]⟩ start).1 = .ok (.object []) := by
    decide +kernel
  refine ⟨⟨_, _, Prod.ext hrefs rfl, rfl, ?_⟩, _, (hresolve _ start _).2 ⟨_, Prod.ext hthere rfl⟩⟩
  exact hmembers ⟨⟨"x.json"⟩, some "//"⟩ "//" "" start _ _ rfl (by decide) (Prod.ext hrefs rfl)

end JsonTypes
