import JsonTypes.Proofs.Schema.Region

/-!
# Positions in documents

A location tells the way to a place by tokens, a position by the members and elements that are
passed (`Documents.position?`). The number of an element can be written in many ways, so one
position may have many locations. But only one of them is written plainly (`Plain.eq`), and what a
run asks for beneath a plain location is plain again (`Plain.push`). Anchors lead to plain locations
(`plain_of_findAnchor?`), so all locations of a run are plain if its top levels are and the pointers
in its references are written plainly (`Reachable.plain`).
-/

namespace JsonTypes

/-! ## Plain numbers -/

theorem asciiNumber?_foldl : ∀ {cs : List Char} (n : Nat), (∀ c ∈ cs, c.isDigit) →
    cs.foldlM (fun n c => (Text.asciiDigit? c).map fun d => n * 10 + d) n =
      some (Nat.ofDigitChars 10 cs n)
  | [], n, _ => rfl
  | c :: cs, n, h => by
    obtain ⟨hc, hcs⟩ := List.forall_mem_cons.1 h
    have hdigit : Text.asciiDigit? c = some (c.toNat - '0'.toNat) := by
      unfold Text.asciiDigit?
      rw [if_pos]
      simpa [Char.isDigit, Char.le_def] using hc
    rw [List.foldlM_cons, hdigit]
    refine (asciiNumber?_foldl _ hcs).trans ?_
    rw [Nat.ofDigitChars_cons, Nat.mul_comm]

theorem arrayPosition?_toString (i : Nat) : arrayPosition? (toString i) = some i := by
  have hdigits : (toString i).toList = Nat.toDigits 10 i := by simp
  have hall : ∀ c ∈ Nat.toDigits 10 i, c.isDigit := fun c hc =>
    Nat.isDigit_of_mem_toDigits (by decide) (by decide) hc
  have hnumber : Text.asciiNumber? (Nat.toDigits 10 i) = some i := by
    rw [Text.asciiNumber?, asciiNumber?_foldl 0 hall,
      Nat.ofDigitChars_toDigits (by decide) (by decide)]
  unfold arrayPosition?
  rw [hdigits]
  split
  · rename_i hnil
    exact absurd hnil Nat.toDigits_ne_nil
  · rename_i hplus
    exact absurd (hall '+' (hplus ▸ List.mem_cons_self)) (by decide)
  · exact hnumber

/-! ## Positions in a document -/

namespace Json

/-- A step inwards, told by what is there. -/
inductive Step where
  | member (key : String)
  | element (i : Nat)
deriving DecidableEq, Repr

/-- The token that writes a step plainly. -/
def Step.token : Step → String
  | member key => key
  | element i => toString i

/-- The step that a token means, and where it leads. -/
def step? : Json → String → Option (Step × Json)
  | object members, token => (Entries.get? members token).map (.member token, ·)
  | array items, token =>
    (arrayPosition? token).bind fun i => (items[i]?).map (.element i, ·)
  | _, _ => none

/-- The steps that a path takes. -/
def position? : Json → List String → Option (List Step)
  | _, [] => some []
  | v, token :: rest => (v.step? token).bind fun e => (e.2.position? rest).map (e.1 :: ·)

/-- A path is written plainly if it has the tokens that write its steps so. -/
def Plain (v : Json) (path : List String) : Prop :=
  (v.position? path).map (·.map Step.token) = some path

instance (v : Json) (path : List String) : Decidable (v.Plain path) := by
  unfold Plain
  infer_instance

theorem child?_eq (v : Json) (token : String) : v.child? token = (v.step? token).map (·.2) := by
  cases v with
  | object members =>
    rcases h : Entries.get? members token with _ | w <;> simp [child?, step?, h]
  | array items =>
    rcases h : arrayPosition? token with _ | i
    · simp [child?, step?, h]
    · rcases hi : items[i]? with _ | w <;> simp [child?, step?, h, hi]
  | _ => rfl

/-- What leads one step inwards writes the step plainly. -/
theorem step?_of_mem_tokens {v : Json} {token : String} (h : token ∈ v.tokens) :
    ∃ e, v.step? token = some e ∧ e.1.token = token := by
  cases v with
  | object members =>
    obtain ⟨w, hw⟩ := Entries.mem_keys_iff.1 h
    exact ⟨(.member token, w), congrArg (Option.map _) hw, rfl⟩
  | array items =>
    obtain ⟨i, hi, rfl⟩ := List.mem_map.1 h
    have hlt : i < items.length := List.mem_range.1 hi
    refine ⟨(.element i, items[i]), ?_, rfl⟩
    simp only [step?, arrayPosition?_toString, Option.bind_some, List.getElem?_eq_getElem hlt,
      Option.map_some]
  | _ => cases h

theorem Plain.cons {v : Json} {e : Step × Json} {token : String} {path : List String}
    (hstep : v.step? token = some e) (htoken : e.1.token = token) (h : e.2.Plain path) :
    v.Plain (token :: path) := by
  obtain ⟨steps, hsteps, hpath⟩ := Option.map_eq_some_iff.1 h
  rw [Plain, position?, hstep, Option.bind_some, hsteps, Option.map_some, Option.map_some,
    List.map_cons, htoken, hpath]

theorem Plain.of_cons {v : Json} {token : String} {path : List String}
    (h : v.Plain (token :: path)) :
    ∃ e, v.step? token = some e ∧ e.1.token = token ∧ e.2.Plain path := by
  obtain ⟨steps, hsteps, hpath⟩ := Option.map_eq_some_iff.1 h
  obtain ⟨e, he, hsteps⟩ := Option.bind_eq_some_iff.1 hsteps
  obtain ⟨rest, hrest, rfl⟩ := Option.map_eq_some_iff.1 hsteps
  rw [List.map_cons, List.cons.injEq] at hpath
  exact ⟨e, he, hpath.1, by rw [Plain, hrest, Option.map_some, hpath.2]⟩

theorem Plain.push {v w : Json} {path : List String} (hplain : v.Plain path)
    (h : v.follow path = .ok w) {token : String} (ht : token ∈ w.tokens) :
    v.Plain (path ++ [token]) := by
  induction path generalizing v with
  | nil =>
    cases h
    obtain ⟨e, he, htoken⟩ := step?_of_mem_tokens ht
    exact .cons he htoken rfl
  | cons first rest ih =>
    obtain ⟨e, he, htoken, hrest⟩ := hplain.of_cons
    rw [follow, child?_eq, he] at h
    exact .cons he htoken (ih hrest h)

/-! ### Anchors -/

/-- No object in the value has a key twice. -/
def Distinct (v : Json) : Prop :=
  ∀ path members, v.follow path = .ok (.object members) → (Entries.keys members).Nodup

theorem Distinct.child {v w : Json} {token : String} (h : v.Distinct)
    (hw : v.child? token = some w) : w.Distinct :=
  fun path members hm => h (token :: path) members (by rw [follow, hw]; exact hm)

theorem KeysDistinct.distinct {v : Json} (h : v.KeysDistinct) : v.Distinct := by
  intro path members hm
  induction path generalizing v with
  | nil =>
    cases hm
    exact h.1
  | cons token rest ih =>
    rw [follow] at hm
    rcases hw : v.child? token with _ | w <;> simp only [hw] at hm
    · cases hm
    · refine ih ?_ hm
      cases v with
      | object members => exact keysDistinctMembers_iff.1 h.2 _ (Entries.mem_of_get? hw)
      | array items =>
        obtain ⟨i, -, hi⟩ := Option.bind_eq_some_iff.1 hw
        exact keysDistinctAll_iff.1 h _ (List.mem_of_getElem? hi)
      | _ => cases hw

/-- What is one step further in, with the token that leads there. -/
def branches : Json → List (String × Json)
  | object members => members
  | array items => items.zipIdx.map fun e => (toString e.2, e.1)
  | _ => []

/-- The token of a branch writes plainly the step that leads there. -/
theorem step?_of_branches {v w : Json} {token : String} (hv : v.Distinct)
    (h : (token, w) ∈ v.branches) :
    ∃ step, v.step? token = some (step, w) ∧ step.token = token := by
  cases v with
  | object members =>
    have hget := Entries.get?_of_mem (hv [] members rfl) h
    exact ⟨.member token, congrArg (Option.map _) hget, rfl⟩
  | array items =>
    obtain ⟨⟨item, i⟩, hitem, heq⟩ := List.mem_map.1 h
    cases heq
    refine ⟨.element i, ?_, rfl⟩
    simp only [step?, arrayPosition?_toString, Option.bind_some,
      List.mem_zipIdx_iff_getElem?.1 hitem, Option.map_some]
  | _ => cases h

theorem child?_of_branches {v w : Json} {token : String} (hv : v.Distinct)
    (h : (token, w) ∈ v.branches) : v.child? token = some w := by
  obtain ⟨step, hstep, -⟩ := step?_of_branches hv h
  rw [child?_eq, hstep, Option.map_some]

section Search

variable {anchor : String}

theorem findInMembers?_eq (members : List (String × Json)) :
    findInMembers? anchor members =
      members.findSome? fun e => (findAnchor? anchor e.2).map (e.1 :: ·) := by
  induction members with
  | nil => rfl
  | cons e members ih =>
    obtain ⟨key, v⟩ := e
    rw [findInMembers?, List.findSome?_cons, ← ih]
    rcases findAnchor? anchor v with _ | path <;> rfl

theorem findInItems?_eq (items : List Json) (n : Nat) :
    findInItems? anchor items n =
      (items.zipIdx n).findSome? fun e => (findAnchor? anchor e.1).map (toString e.2 :: ·) := by
  induction items generalizing n with
  | nil => rfl
  | cons v items ih =>
    rw [findInItems?, List.zipIdx_cons, List.findSome?_cons, ← ih]
    rcases findAnchor? anchor v with _ | path <;> rfl

/-- The search looks at the value itself, then into one branch after the other. -/
theorem findAnchor?_eq (anchor : String) (v : Json) :
    v.findAnchor? anchor = if declaresAnchor anchor v then some []
      else v.branches.findSome? fun e => (e.2.findAnchor? anchor).map (e.1 :: ·) := by
  cases v with
  | object members => rw [findAnchor?, branches, findInMembers?_eq]
  | array items =>
    rw [findAnchor?, branches, findInItems?_eq, List.findSome?_map]
    rfl
  | _ => rfl

end Search

/-- The way to an anchor is written plainly. -/
theorem plain_of_findAnchor? {v : Json} {anchor : String} {path : List String} (hv : v.Distinct)
    (h : v.findAnchor? anchor = some path) : v.Plain path := by
  induction path generalizing v with
  | nil => rfl
  | cons token rest ih =>
    rw [findAnchor?_eq] at h
    split_ifs at h
    · cases h
    obtain ⟨⟨key, child⟩, hbranch, hfound⟩ := List.exists_of_findSome?_eq_some h
    obtain ⟨_, hchild, heq⟩ := Option.map_eq_some_iff.1 hfound
    cases heq
    obtain ⟨step, hstep, htoken⟩ := step?_of_branches hv hbranch
    exact .cons hstep htoken (ih (hv.child (child?_of_branches hv hbranch)) hchild)

end Json

/-! ## Positions among documents -/

namespace Documents

variable {docs : Documents} {starts : List Location} {l l' : Location}

/-- The document and the steps in it that lead to a location. -/
def position? (docs : Documents) (l : Location) : Option (DocumentId × List Json.Step) :=
  (docs l.document).bind fun d => (d.position? l.path).map (l.document, ·)

def Plain (docs : Documents) (l : Location) : Prop := ∃ d, docs l.document = some d ∧ d.Plain l.path

instance (docs : Documents) (l : Location) : Decidable (docs.Plain l) :=
  inferInstanceAs (Decidable (∃ d ∈ docs l.document, d.Plain l.path))

/-- A position has one location that is written plainly. -/
theorem Plain.eq (h : docs.Plain l) (h' : docs.Plain l')
    (hsame : docs.position? l = docs.position? l') : l = l' := by
  obtain ⟨d, hd, hplain⟩ := h
  obtain ⟨d', hd', hplain'⟩ := h'
  obtain ⟨steps, hsteps, hpath⟩ := Option.map_eq_some_iff.1 hplain
  obtain ⟨steps', hsteps', hpath'⟩ := Option.map_eq_some_iff.1 hplain'
  simp only [position?, hd, hd', Option.bind_some, hsteps, hsteps', Option.map_some,
    Option.some.injEq, Prod.mk.injEq] at hsame
  obtain ⟨document, path⟩ := l
  obtain ⟨document', path'⟩ := l'
  obtain ⟨rfl, rfl⟩ := hsame
  exact congrArg _ (hpath.symm.trans hpath')

theorem Plain.push (h : docs.Plain l) {v : Json} (hv : docs.schemaAt? l = some v) {token : String}
    (ht : token ∈ v.tokens) : docs.Plain (l.push token) := by
  obtain ⟨d, hd, hplain⟩ := h
  obtain ⟨d', hd', hfollow⟩ := schemaAt?_eq_some.1 hv
  cases hd.symm.trans hd'
  exact ⟨d, hd, hplain.push hfollow ht⟩

theorem plain_root {d : Json} {document : DocumentId} (hd : docs document = some d) :
    docs.Plain (.root document) :=
  ⟨d, hd, rfl⟩

/-- Only a pointer can fail to write plainly what an address means. -/
theorem plain_of_locate? (hdistinct : ∀ id d, docs id = some d → d.Distinct) {uri : SchemaUri}
    (h : docs.locate? uri = some l)
    (hpointer : ∀ fragment, uri.fragment = some fragment → fragment.toList.head? = some '/' →
      docs.Plain l) : docs.Plain l := by
  obtain ⟨d, hd, h⟩ := Option.bind_eq_some_iff.1 h
  unfold Resolver.locate at h
  rcases hfragment : uri.fragment with _ | fragment <;> simp only [hfragment] at h
  · cases h
    exact plain_root hd
  · split_ifs at h with hslash
    · exact hpointer fragment hfragment hslash
    · rcases hanchor : d.findAnchor? fragment with _ | path <;> simp only [hanchor] at h <;> cases h
      exact ⟨d, hd, Json.plain_of_findAnchor? (hdistinct _ d hd) hanchor⟩

/-- Starts are written plainly, and so are the pointers in the references that a run can come to. -/
structure WrittenPlainly (docs : Documents) (starts : List Location) : Prop where
  distinct : ∀ id d, docs id = some d → d.Distinct
  start : ∀ l ∈ starts, docs.Plain l
  pointer : ∀ l v reference target fragment, docs.Reachable starts l → docs.schemaAt? l = some v →
    Materialize.reference? v = some reference →
    docs.locate? (l.document.resolve reference) = some target →
    (l.document.resolve reference).fragment = some fragment →
    fragment.toList.head? = some '/' → docs.Plain target

/-- It is enough to look at locations beyond which no step and no reference leads. -/
theorem writtenPlainly_of_closed (region : List Location)
    (hdistinct : ∀ id d, docs id = some d → d.Distinct)
    (hstart : ∀ l ∈ starts, docs.Plain l ∧ l ∈ region)
    (hinside : ∀ l ∈ region, ∀ v ∈ docs.schemaAt? l, ∀ token ∈ v.tokens, l.push token ∈ region)
    (htarget : ∀ l ∈ region, ∀ v ∈ docs.schemaAt? l, ∀ reference ∈ Materialize.reference? v,
      ∀ target ∈ docs.locate? (l.document.resolve reference),
        docs.Plain target ∧ target ∈ region) : docs.WrittenPlainly starts := by
  have hregion : ∀ l, docs.Reachable starts l → l ∈ region := by
    intro l hl
    induction hl with
    | start hl => exact (hstart _ hl).2
    | inside _ hv ht ih => exact hinside _ ih _ hv _ ht
    | target _ hv hr ht ih => exact (htarget _ ih _ hv _ hr _ ht).2
  exact ⟨hdistinct, fun l hl => (hstart l hl).1, fun l v reference target _ hl hv hr ht _ _ =>
    (htarget l (hregion l hl) v hv reference hr target ht).1⟩

theorem Reachable.plain (hwritten : docs.WrittenPlainly starts) (h : docs.Reachable starts l) :
    docs.Plain l := by
  induction h with
  | start hl => exact hwritten.start _ hl
  | inside _ hv ht ih => exact ih.push hv ht
  | target hl hv hr htarget _ =>
    exact plain_of_locate? hwritten.distinct htarget fun fragment hfragment hslash =>
      hwritten.pointer _ _ _ _ fragment hl hv hr htarget hfragment hslash

end Documents

end JsonTypes
