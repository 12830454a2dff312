import JsonTypes.Proofs.Schema.Positions

/-!
# Anchors

The places in a document are told by the way to them: the numbers of the members and elements that
are passed (`Json.place?`). In the order of the document one way comes before another if it ends
where the other goes on, or has the smaller number where they part, which is `List.Lex`.

The search for an anchor finds something just if a schema anywhere in the document declares the
anchor, and then it finds the first such schema: the tokens that it gives lead there, all others
that declare the anchor come later, and none of them encloses it (`findAnchor?_first`).
-/

namespace JsonTypes

namespace Json

/-! ## Places -/

/-- The tokens that are passed on a way, and what is at its end. -/
def place? : Json → List Nat → Option (List String × Json)
  | v, [] => some ([], v)
  | v, i :: way => (v.branches[i]?).bind fun e => (e.2.place? way).map fun p => (e.1 :: p.1, p.2)

variable {v w d schema : Json} {anchor token : String} {path : List String} {i : Nat}
  {way other front : List Nat}

theorem place?_cons_eq_some :
    v.place? (i :: way) = some (path, w) ↔
      ∃ token child rest, v.branches[i]? = some (token, child) ∧
        child.place? way = some (rest, w) ∧ path = token :: rest := by
  simp only [place?, Option.bind_eq_some_iff, Option.map_eq_some_iff, Prod.exists, Prod.mk.injEq]
  constructor
  · rintro ⟨token, child, hchild, rest, _, hrest, rfl, rfl⟩
    exact ⟨token, child, rest, hchild, hrest, rfl⟩
  · rintro ⟨token, child, rest, hchild, hrest, rfl⟩
    exact ⟨token, child, hchild, rest, w, hrest, rfl, rfl⟩

/-- The tokens that are passed on a way lead to its end. -/
theorem follow_of_place? (hv : v.Distinct) (h : v.place? way = some (path, w)) :
    v.follow path = .ok w := by
  induction way generalizing v path with
  | nil =>
    cases h
    rfl
  | cons i way ih =>
    obtain ⟨token, child, rest, hbranch, hrest, rfl⟩ := place?_cons_eq_some.1 h
    have hchild := child?_of_branches hv (List.mem_of_getElem? hbranch)
    rw [follow, hchild]
    exact ih (hv.child hchild) hrest

/-- No way comes before one that it goes on from. -/
theorem not_prefix_of_lex (h : List.Lex (· < ·) way other) : ¬other <+: way := by
  induction h with
  | nil => exact fun hprefix => absurd (List.prefix_nil.1 hprefix) (List.cons_ne_nil _ _)
  | rel hlt => exact fun hprefix => absurd (List.cons_prefix_cons.1 hprefix).1 (Nat.ne_of_gt hlt)
  | cons _ ih => exact fun hprefix => ih (List.cons_prefix_cons.1 hprefix).2

/-! ## Declarations -/

/-- A schema declares an anchor by `$anchor`, or by an `$id` that is the anchor as a fragment. -/
def Declares (anchor : String) (v : Json) : Prop :=
  v.member? "$anchor" = some (string anchor) ∨ v.member? "$id" = some (string ("#" ++ anchor))

theorem string?_eq_some {s : String} : v.string? = some s ↔ v = string s := by
  cases v <;> simp [string?]

theorem member_string?_eq_some {key s : String} :
    (v.member? key).bind string? = some s ↔ v.member? key = some (string s) := by
  simp only [Option.bind_eq_some_iff, string?_eq_some, exists_eq_right]

theorem fragmentOfId?_eq_some {s : String} :
    fragmentOfId? v = some s ↔ v.member? "$id" = some (string ("#" ++ s)) := by
  rw [← member_string?_eq_some, fragmentOfId?]
  rcases (v.member? "$id").bind string? with _ | id
  · exact ⟨nofun, nofun⟩
  · simp only [Option.some.injEq, ← String.toList_inj, String.toList_append]
    split
    · rename_i cs hid
      simp [hid, ← String.toList_inj]
    · rename_i hid
      refine ⟨nofun, fun heq => absurd heq (hid s.toList)⟩

theorem declaresAnchor_iff : declaresAnchor anchor v = true ↔ v.Declares anchor := by
  rw [declaresAnchor, Bool.or_eq_true, decide_eq_true_eq, decide_eq_true_eq,
    member_string?_eq_some, fragmentOfId?_eq_some, Declares]

/-- A schema that declares the anchor is at the end of the way. -/
def DeclaredAt (anchor : String) (v : Json) (way : List Nat) : Prop :=
  ∃ path schema, v.place? way = some (path, schema) ∧ schema.Declares anchor

theorem declaredAt_nil : v.DeclaredAt anchor [] ↔ v.Declares anchor := by
  simp [DeclaredAt, place?]

theorem declaredAt_cons : v.DeclaredAt anchor (i :: way) ↔
    ∃ token child, v.branches[i]? = some (token, child) ∧ child.DeclaredAt anchor way := by
  simp only [DeclaredAt, place?_cons_eq_some]
  constructor
  · rintro ⟨_, schema, ⟨token, child, rest, hchild, hrest, rfl⟩, hdeclares⟩
    exact ⟨token, child, hchild, rest, schema, hrest, hdeclares⟩
  · rintro ⟨token, child, hchild, rest, schema, hrest, hdeclares⟩
    exact ⟨_, schema, ⟨token, child, rest, hchild, hrest, rfl⟩, hdeclares⟩

/-! ## The search -/

theorem not_declaredAt_of_none (h : v.findAnchor? anchor = none) (way : List Nat) :
    ¬v.DeclaredAt anchor way := by
  induction way generalizing v with
  | nil =>
    rw [findAnchor?_eq] at h
    split_ifs at h with hdeclares
    rwa [declaredAt_nil, ← declaresAnchor_iff]
  | cons i way ih =>
    rw [findAnchor?_eq] at h
    split_ifs at h with hdeclares
    rw [declaredAt_cons]
    rintro ⟨token, child, hbranch, hchild⟩
    have hnone := List.findSome?_eq_none_iff.1 h _ (List.mem_of_getElem? hbranch)
    exact ih (Option.map_eq_none_iff.1 hnone) hchild

/-- If nothing before a branch declares the anchor, and not the value itself, what comes first in
the branch comes first. -/
theorem first_of_branch {key : String} {child : Json} {before after : List (String × Json)}
    (hself : ¬v.Declares anchor) (hbranches : v.branches = before ++ (key, child) :: after)
    (hbefore : ∀ e ∈ before, e.2.findAnchor? anchor = none)
    (hfirst : ∀ other, child.DeclaredAt anchor other → other = way ∨ List.Lex (· < ·) way other)
    (hother : v.DeclaredAt anchor other) :
    other = before.length :: way ∨ List.Lex (· < ·) (before.length :: way) other := by
  cases other with
  | nil => exact absurd (declaredAt_nil.1 hother) hself
  | cons i other =>
    obtain ⟨token, child', hbranch, hinner⟩ := declaredAt_cons.1 hother
    rw [hbranches] at hbranch
    rcases Nat.lt_trichotomy i before.length with hlt | rfl | hgt
    · rw [List.getElem?_append_left hlt] at hbranch
      have hnone := hbefore _ (List.mem_of_getElem? hbranch)
      exact absurd hinner (not_declaredAt_of_none hnone other)
    · rw [List.getElem?_append_right le_rfl, Nat.sub_self] at hbranch
      cases hbranch
      exact (hfirst other hinner).imp (congrArg _) .cons
    · exact .inr (.rel hgt)

/-- What is found is at the end of the way that comes first. -/
theorem exists_way_of_findAnchor? (h : v.findAnchor? anchor = some path) :
    ∃ way schema, v.place? way = some (path, schema) ∧ schema.Declares anchor ∧
      ∀ other, v.DeclaredAt anchor other → other = way ∨ List.Lex (· < ·) way other := by
  induction path generalizing v with
  | nil =>
    rw [findAnchor?_eq] at h
    split_ifs at h with hdeclares
    · refine ⟨[], v, rfl, declaresAnchor_iff.1 hdeclares, fun other _ => ?_⟩
      cases other with
      | nil => exact .inl rfl
      | cons i other => exact .inr .nil
    · obtain ⟨e, -, hfound⟩ := List.exists_of_findSome?_eq_some h
      obtain ⟨_, -, heq⟩ := Option.map_eq_some_iff.1 hfound
      cases heq
  | cons token rest ih =>
    rw [findAnchor?_eq] at h
    split_ifs at h with hdeclares
    · cases h
    obtain ⟨before, ⟨key, child⟩, after, hbranches, hfound, hbefore⟩ :=
      List.findSome?_eq_some_iff.1 h
    obtain ⟨_, hchild, heq⟩ := Option.map_eq_some_iff.1 hfound
    cases heq
    obtain ⟨way, schema, hplace, hschema, hfirst⟩ := ih hchild
    have hnumber : v.branches[before.length]? = some (key, child) := by simp [hbranches]
    have hpassed : ∀ e ∈ before, e.2.findAnchor? anchor = none := fun e he =>
      Option.map_eq_none_iff.1 (hbefore e he)
    refine ⟨before.length :: way, schema, place?_cons_eq_some.2
      ⟨key, child, rest, hnumber, hplace, rfl⟩, hschema, fun other hother => ?_⟩
    rw [declaresAnchor_iff] at hdeclares
    exact first_of_branch hdeclares hbranches hpassed hfirst hother

/-- The search succeeds just if something in the document declares the anchor. It leads to the
first that does, and nothing that encloses that one does. -/
theorem findAnchor?_first (hd : d.KeysDistinct) (anchor : String) (document : DocumentId) :
    ((∃ path, d.findAnchor? anchor = some path) ↔ ∃ way, d.DeclaredAt anchor way) ∧
    ∀ path, d.findAnchor? anchor = some path → ∃ way schema,
      d.place? way = some (path, schema) ∧ schema.Declares anchor ∧
      lookup d ⟨document, path⟩ = .ok schema ∧
      (∀ other, d.DeclaredAt anchor other → other = way ∨ List.Lex (· < ·) way other) ∧
      ∀ front, front <+: way → front ≠ way → ¬d.DeclaredAt anchor front := by
  refine ⟨⟨?_, ?_⟩, fun path hpath => ?_⟩
  · rintro ⟨path, hpath⟩
    obtain ⟨way, schema, hplace, hschema, -⟩ := exists_way_of_findAnchor? hpath
    exact ⟨way, path, schema, hplace, hschema⟩
  · rintro ⟨way, hway⟩
    rcases hpath : d.findAnchor? anchor with _ | path
    · exact absurd hway (not_declaredAt_of_none hpath way)
    · exact ⟨path, rfl⟩
  · obtain ⟨way, schema, hplace, hschema, hfirst⟩ := exists_way_of_findAnchor? hpath
    have hlookup : lookup d ⟨document, path⟩ = .ok schema := by
      rw [lookup, follow_of_place? hd.distinct hplace]
      rfl
    refine ⟨way, schema, hplace, hschema, hlookup, hfirst, fun front hprefix hne hfront => ?_⟩
    exact not_prefix_of_lex ((hfirst front hfront).resolve_left hne) hprefix

/-- The second element of an array comes before a later member, and encloses another declaration. -/
theorem findAnchor?_first_nested :
    let d : Json := .object
      [("parts", .array [.object [("$anchor", .string "tags")],
        .object [("$id", .string "#tag"), ("items", .object [("$anchor", .string "tag")])]]),
      ("more", .object [("$anchor", .string "tag")])]
    let document : DocumentId := ⟨"a.json"⟩
    d.KeysDistinct ∧ d.findAnchor? "tag" = some ["parts", "1"] ∧ ∃ way schema,
      d.place? way = some (["parts", "1"], schema) ∧ schema.Declares "tag" ∧
      lookup d ⟨document, ["parts", "1"]⟩ = .ok schema ∧
      (∀ other, d.DeclaredAt "tag" other → other = way ∨ List.Lex (· < ·) way other) ∧
      ∀ front, front <+: way → front ≠ way → ¬d.DeclaredAt "tag" front := by
  intro d document
  have hkeys : d.KeysDistinct := by
    simp [d, KeysDistinct, KeysDistinctAll, KeysDistinctMembers]
  have hfound : d.findAnchor? "tag" = some ["parts", "1"] := by decide +kernel
  exact ⟨hkeys, hfound, (findAnchor?_first hkeys "tag" document).2 _ hfound⟩

end Json

end JsonTypes
