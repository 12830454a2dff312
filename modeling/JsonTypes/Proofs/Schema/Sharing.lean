import JsonTypes.Proofs.Schema.Positions
import JsonTypes.Proofs.Schema.Recording
import JsonTypes.Proofs.Schema.References
import JsonTypes.Proofs.Schema.Soundness

/-!
# One slot for each location

A run reserves slots only for the locations that it converts, one for each (`Reserves`). So two
references get the same type just if they lead to the same location (`runInto_shares`). A position
in a document has several locations if a pointer writes the number of an element with zeros or a
sign in front, and then it is converted several times (`runInto_shares_not`); if all pointers are
written plainly, a position has one slot at most.
-/

namespace JsonTypes.Materialize

open Recorded

/-! ## Slots -/

/-- Every location that is new has a slot of its own, reserved in between. -/
def Reserves (s s' : State Recorded) : Prop :=
  ∃ slots, s'.converted = s.converted ++ slots ∧
    s'.sink.reserved = s.sink.reserved ++ slots.map (·.2) ∧
    ((Entries.keys s.converted).Nodup → (Entries.keys s'.converted).Nodup)

theorem Reserves.of_eq {s s' : State Recorded} (hc : s'.converted = s.converted)
    (hr : s'.sink.reserved = s.sink.reserved) : Reserves s s' :=
  ⟨[], by rw [hc, List.append_nil], by rw [hr, List.map_nil, List.append_nil], by rw [hc]; exact id⟩

theorem Reserves.refl (s : State Recorded) : Reserves s s := .of_eq rfl rfl

theorem Reserves.trans {s₁ s₂ s₃ : State Recorded} (h : Reserves s₁ s₂) (h' : Reserves s₂ s₃) :
    Reserves s₁ s₃ := by
  obtain ⟨slots, hc, hr, hn⟩ := h
  obtain ⟨slots', hc', hr', hn'⟩ := h'
  refine ⟨slots ++ slots', ?_, ?_, hn' ∘ hn⟩
  · rw [hc', hc, List.append_assoc]
  · rw [hr', hr, List.map_append, List.append_assoc]

theorem reserves_opened {l : Location} {s : State Recorded} (hl : s.converted.get? l = none) :
    Reserves s (opened l s) :=
  ⟨[(l, s.sink.graph.size)], Entries.put_of_get?_eq_none hl _, reserved_reserve s.sink,
    fun hn => Entries.nodup_keys_put hn _ _⟩

theorem reserved_produceAll (slot : TypeRef) (schema : List (String × Json)) (l : Location) :
    ∀ (producers : List AttributeProducer) (r : Recorded),
      (produceAll producers slot schema l r).2.reserved = r.reserved
  | [], _ => rfl
  | producer :: rest, r => by
    rcases hp : producer schema l with _ | a <;> simp only [produceAll, hp]
    · exact reserved_produceAll slot schema l rest r
    · exact (reserved_produceAll slot schema l rest _).trans (reserved_addAttributes r slot a)

theorem reserved_closeSlot (producers : List AttributeProducer) (slot : TypeRef) (schema : Json)
    (l : Location) (n : Node) (r : Recorded) :
    (closeSlot producers slot schema l n r).2.reserved = r.reserved := by
  have hfill := reserved_fill r n slot
  cases schema with
  | object members => exact (reserved_produceAll slot members l producers _).trans hfill
  | _ => exact hfill

theorem reserves_kept (producers : List AttributeProducer) :
    KeptByConversions producers Reserves where
  refl := .refl
  trans := .trans
  follow _ _ _ := .of_eq rfl rfl
  lookup _ _ := .of_eq rfl rfl
  intern n s := .of_eq rfl (reserved_intern s.sink n)
  opened _ _ := reserves_opened
  closed slot schema l n s := .of_eq rfl (reserved_closeSlot producers slot schema l n s.sink)
  addTopLevel name t s := .of_eq rfl (reserved_addTopLevel s.sink name t)

/-! ## Runs -/

section Runs

variable {producers : List AttributeProducer} {steps : Nat} {docs : Documents}
  {starts : List Location} {s s' : State Graph}

theorem type_unique {l : Location} {t t' : TypeRef} (h : s.answers.type l t)
    (h' : s.answers.type l t') : t = t' := by
  obtain ⟨m, hm, ht⟩ := h
  obtain ⟨m', hm', ht'⟩ := h'
  cases hm.unique hm'
  exact Option.some.inj (ht.symm.trans ht')

theorem Sound.type_eq_iff {isOpen : Location → Prop} (hs : Sound isOpen s) {l l' m m' : Location}
    {t t' : TypeRef} (ht : s.answers.type l t) (ht' : s.answers.type l' t')
    (hm : s.resolver.known.Leads l m) (hm' : s.resolver.known.Leads l' m') : t = t' ↔ m = m' := by
  obtain ⟨k, hk, hc⟩ := ht
  obtain ⟨k', hk', hc'⟩ := ht'
  cases hk.unique hm
  cases hk'.unique hm'
  constructor
  · rintro rfl
    exact hs.unique _ _ _ hc hc'
  · rintro rfl
    exact Option.some.inj (hc.symm.trans hc')

theorem convertTopLevels_noted : ∀ (topLevels : List (String × Location)) {s s' : State Graph},
    Sound (fun _ => False) s → (topLevels.map (·.1)).Nodup →
      (∀ e ∈ topLevels, docs.Reachable starts e.2) →
      convertTopLevels producers steps topLevels s = (.ok (), s') →
      s'.resolver.known.Extends docs →
        Noted docs starts (allReferences producers steps topLevels s) s s' ∧
          ∀ e ∈ topLevels, ∃ t, (e.2, t) ∈ allReferences producers steps topLevels s
  | [], s, s', _, _, _, h, _ => by
    cases h
    exact ⟨.none rfl, nofun⟩
  | (name, l) :: rest, s, s', hs, hn, hstarts, h, hdocs => by
    obtain ⟨hl, hrest⟩ := List.forall_mem_cons.1 hstarts
    have hconv := convert_sound producers steps _ l s hs
    have hnoted := convert_noted producers steps _ l s hs hl
    have hself : ∀ t, (convert producers steps l s).1 = .ok t →
        (l, t) ∈ references producers steps l s := fun _ => mem_references
    rw [convertTopLevels_cons] at h
    rw [allReferences]
    rcases hc : convert producers steps l s with ⟨e | t, s₁⟩ <;>
      simp only [hc] at h hconv hnoted hself ⊢
    · cases h
    · obtain ⟨hs₁, -⟩ := hconv.2 t rfl
      have hadded := hs₁.addTopLevel name t
      have hgrows := (grows_addTopLevel name t s₁).trans
        (convertTopLevels_sound rest hadded (List.nodup_cons.1 hn).2 h).1
      obtain ⟨hnoted', hmem⟩ :=
        convertTopLevels_noted rest hadded (List.nodup_cons.1 hn).2 hrest h hdocs
      refine ⟨(hnoted (Documents.Extends.trans hgrows.resolver hdocs)).append hgrows
        ⟨hnoted'.reachable, hnoted'.typed, hnoted'.slots⟩, fun e he => ?_⟩
      rcases List.mem_cons.1 he with rfl | he
      · exact ⟨t, List.mem_append_left _ (hself t rfl)⟩
      · exact (hmem e he).imp fun _ => List.mem_append_right _

end Runs

/-- After a run that succeeds, two references that got a type got the same one just if they lead to
the same location. The run reserved one slot for each location that references lead to. If all is
written plainly, positions can be said for locations. -/
theorem runInto_shares {producers : List AttributeProducer} {steps : Nat}
    {topLevels : List (String × Location)} {r r' : Resolver} {g g' : Recorded}
    (hg : g.Built fun _ _ => True) (hnames : (topLevels.map (·.1)).Nodup)
    (h : runInto steps producers topLevels r g = (.ok (), r', g')) :
    let refs := allReferences producers steps topLevels ⟨r, g.graph, []⟩
    let docs := r'.known
    (∀ e ∈ topLevels, ∃ t, g'.graph.topLevel? e.1 = some t ∧ (e.2, t) ∈ refs) ∧
      (∀ p ∈ refs, ∀ q ∈ refs, ∀ l m, docs.Leads p.1 l → docs.Leads q.1 m →
        (p.2 = q.2 ↔ l = m) ∧ (docs.WrittenPlainly (topLevels.map (·.2)) →
          (p.2 = q.2 ↔ docs.position? l = docs.position? m))) ∧
      ∃ slots : Entries Location TypeRef, g'.reserved = g.reserved ++ slots.map (·.2) ∧
        (slots.map (·.2)).Nodup ∧ slots.keys.Nodup ∧
        (∀ p ∈ refs, ∃ l, docs.Leads p.1 l ∧ (l, p.2) ∈ slots) ∧
        (docs.WrittenPlainly (topLevels.map (·.2)) → (slots.keys.map docs.position?).Nodup) := by
  intro refs docs
  have hstart : Sound (fun _ => False) ⟨r, g.graph, []⟩ :=
    ⟨hg.tidy.exact, nofun, nofun, nofun, nofun⟩
  have hplain := convertTopLevels_records producers steps topLevels ⟨r, g, []⟩
  have hreserves := (reserves_kept producers).convertTopLevels steps topLevels ⟨r, g, []⟩
  unfold runInto at h
  rcases hc : convertTopLevels producers steps topLevels ⟨r, g, []⟩ with ⟨outcome, s'⟩
  rw [hc] at h hplain hreserves
  cases h
  obtain ⟨-, hs', -, hnamed⟩ := convertTopLevels_sound topLevels hstart hnames hplain
  obtain ⟨hnoted, hmem⟩ := convertTopLevels_noted topLevels hstart hnames
    (fun e he => .start (List.mem_map_of_mem he)) hplain (Documents.Extends.refl docs)
  -- The run starts without slots, so those that it has in the end are its own.
  obtain ⟨slots, hslots, hreserved, hnodup⟩ := hreserves
  have hkeys : (Entries.keys slots).Nodup := by
    have h := hnodup .nil
    rwa [hslots] at h
  have hget : ∀ l t, s'.converted.get? l = some t ↔ (l, t) ∈ slots := fun l t => by
    rw [hslots]
    exact ⟨Entries.mem_of_get?, Entries.get?_of_mem hkeys⟩
  have hreach : ∀ l ∈ Entries.keys slots, docs.Reachable (topLevels.map (·.2)) l := fun l hl =>
    (hnoted.slots l (by rw [show s'.plain.converted = slots from hslots]; exact hl)).resolve_left
      List.not_mem_nil
  have hsame : docs.WrittenPlainly (topLevels.map (·.2)) → ∀ l m,
      docs.Reachable (topLevels.map (·.2)) l → docs.Reachable (topLevels.map (·.2)) m →
      docs.position? l = docs.position? m → l = m := fun hwritten l m hl hm =>
    (hl.plain hwritten).eq (hm.plain hwritten)
  refine ⟨fun e he => ?_, fun p hp q hq l m hl hm => ?_, slots, hreserved, ?_, hkeys,
    fun p hp => ?_, fun hwritten => ?_⟩
  · obtain ⟨t, ht, htype⟩ := hnamed e.1 e.2 he
    obtain ⟨t', ht'⟩ := hmem e he
    exact ⟨t, ht, type_unique (hnoted.typed _ ht') htype ▸ ht'⟩
  · have hiff := hs'.type_eq_iff (hnoted.typed p hp) (hnoted.typed q hq) hl hm
    refine ⟨hiff, fun hwritten => hiff.trans ⟨congrArg _, hsame hwritten l m ?_ ?_⟩⟩
    · exact reachable_of_leads (hnoted.reachable p hp) hl
    · exact reachable_of_leads (hnoted.reachable q hq) hm
  · refine (List.Nodup.of_map _ hkeys).map_on fun e he e' he' hslot => ?_
    have hl := hs'.unique _ _ _ ((hget e.1 e.2).2 he) ((hget e'.1 e.2).2 (hslot ▸ he'))
    exact Prod.ext hl hslot
  · obtain ⟨l, hl, ht⟩ := hnoted.typed p hp
    exact ⟨l, hl, (hget l p.2).1 ht⟩
  · exact hkeys.map_on fun l hl m hm => hsame hwritten l m (hreach l hl) (hreach m hm)

/-! ## A schema that is meant twice -/

/-- Strings, or what a reference says. -/
def strings (reference : String) : Json :=
  .object [("anyOf", .array
    [.object [("type", .string "string")], .object [("$ref", .string reference)]])]

def stringsRoot : Location := .root ⟨"strings"⟩

def stringsOption (token : String) : Location := (stringsRoot.push "anyOf").push token

/-- A resolver whose store has the schema at one address. -/
def stringsResolver (reference : String) : Resolver :=
  .new ⟨[], some fun _ id => .ok (if id = ⟨"strings"⟩ then some (strings reference) else none)⟩ []

def stringsRun (reference : String) : Except SchemaError Unit × Resolver × Recorded :=
  runInto 8 [] [("Strings", stringsRoot)] (stringsResolver reference) ⟨.empty, []⟩

def stringsReferences (reference : String) : List (Location × TypeRef) :=
  allReferences [] 8 [("Strings", stringsRoot)] ⟨stringsResolver reference, Graph.empty, []⟩

theorem strings_distinct (reference : String) : (strings reference).Distinct := by
  refine Json.KeysDistinct.distinct ?_
  simp [strings, Json.KeysDistinct, Json.KeysDistinctAll, Json.KeysDistinctMembers]

/-- The second option leads to the first one, however the pointer writes its number. -/
theorem strings_leads (token : String) {docs : Documents} {reference : String}
    (hdocument : docs ⟨"strings"⟩ = some (strings reference))
    (htarget : docs.locate? (stringsRoot.document.resolve reference) = some (stringsOption token))
    (hnumber : arrayPosition? token = some 0) :
    docs.Leads (stringsOption token) (stringsOption token) ∧
      docs.Leads (stringsOption "1") (stringsOption token) ∧
      docs.position? (stringsOption token) =
        some (⟨"strings"⟩, [.member "anyOf", .element 0]) := by
  have hone : arrayPosition? "1" = some 1 := arrayPosition?_toString 1
  have hroot : docs.schemaAt? stringsRoot = some (strings reference) :=
    Documents.schemaAt?_eq_some.2 ⟨_, hdocument, rfl⟩
  have hoptions := (Documents.schemaAt?_push hroot "anyOf").trans rfl
  have hfirst : docs.schemaAt? (stringsOption token) =
      some (.object [("type", .string "string")]) :=
    (Documents.schemaAt?_push hoptions token).trans (by simp [Json.child?, hnumber])
  have hsecond : docs.schemaAt? (stringsOption "1") =
      some (.object [("$ref", .string reference)]) :=
    (Documents.schemaAt?_push hoptions "1").trans (by simp [Json.child?, hone])
  have hleads : docs.Leads (stringsOption token) (stringsOption token) := .here hfirst rfl
  refine ⟨hleads, .there hsecond rfl htarget hleads, ?_⟩
  unfold Documents.position?
  rw [show (stringsOption token).document = ⟨"strings"⟩ from rfl, hdocument]
  simp [stringsOption, stringsRoot, strings, Location.push, Location.root, Json.position?,
    Json.step?, Entries.get?, hnumber]

theorem strings_documents :
    (stringsRun "#/anyOf/0").2.1.known ⟨"strings"⟩ = some (strings "#/anyOf/0") ∧
      (stringsRun "#/anyOf/00").2.1.known ⟨"strings"⟩ = some (strings "#/anyOf/00") := by
  decide +kernel

/-- The pointer to the first option is written plainly, and both options are one type. -/
theorem runInto_shares_strings :
    (stringsRun "#/anyOf/0").1 = .ok () ∧
      (stringsRun "#/anyOf/0").2.1.known.WrittenPlainly [stringsRoot] ∧
      (∃ t, (stringsOption "0", t) ∈ stringsReferences "#/anyOf/0") ∧
      (∃ t, (stringsOption "1", t) ∈ stringsReferences "#/anyOf/0") ∧
      ∀ t t', (stringsOption "0", t) ∈ stringsReferences "#/anyOf/0" →
        (stringsOption "1", t') ∈ stringsReferences "#/anyOf/0" → t = t' := by
  have hok : (stringsRun "#/anyOf/0").1 = .ok () := by decide +kernel
  have hdocuments : (stringsRun "#/anyOf/0").2.1.documents =
      [(⟨"strings"⟩, strings "#/anyOf/0")] := by
    decide +kernel
  have hwritten : (stringsRun "#/anyOf/0").2.1.known.WrittenPlainly [stringsRoot] := by
    refine Documents.writtenPlainly_of_closed [stringsRoot, stringsRoot.push "anyOf",
      stringsOption "0", (stringsOption "0").push "type", stringsOption "1",
      (stringsOption "1").push "$ref"] (fun id d hd => ?_) ?_ ?_ ?_
    · rw [Resolver.known, hdocuments] at hd
      cases List.mem_singleton.1 (Entries.mem_of_get? hd)
      exact strings_distinct _
    · decide +kernel
    · decide +kernel
    · decide +kernel
  have hfirst : (stringsOption "0", 1) ∈ stringsReferences "#/anyOf/0" := by decide +kernel
  have hsecond : (stringsOption "1", 1) ∈ stringsReferences "#/anyOf/0" := by decide +kernel
  obtain ⟨hleads, hleads', -⟩ :=
    strings_leads "0" strings_documents.1 (by decide +kernel) (arrayPosition?_toString 0)
  have hrun : stringsRun "#/anyOf/0" =
      (.ok (), (stringsRun "#/anyOf/0").2.1, (stringsRun "#/anyOf/0").2.2) :=
    Prod.ext hok (Prod.eta (stringsRun "#/anyOf/0").2).symm
  have hnames : ([("Strings", stringsRoot)].map (·.1)).Nodup := List.nodup_singleton _
  obtain ⟨-, hshares, -⟩ := runInto_shares .empty hnames hrun
  refine ⟨hok, hwritten, ⟨1, hfirst⟩, ⟨1, hsecond⟩, fun t t' ht ht' => ?_⟩
  exact ((hshares _ ht _ ht' _ _ hleads hleads').2 hwritten).2 rfl

/-- A pointer with a zero in front leads to the first option too, but the options are two types. -/
theorem runInto_shares_not :
    (stringsRun "#/anyOf/00").1 = .ok () ∧
      (stringsOption "0", 1) ∈ stringsReferences "#/anyOf/00" ∧
      (stringsOption "1", 2) ∈ stringsReferences "#/anyOf/00" ∧
      (stringsRun "#/anyOf/00").2.1.known.Leads (stringsOption "0") (stringsOption "0") ∧
      (stringsRun "#/anyOf/00").2.1.known.Leads (stringsOption "1") (stringsOption "00") ∧
      (stringsRun "#/anyOf/00").2.1.known.position? (stringsOption "0") =
        (stringsRun "#/anyOf/00").2.1.known.position? (stringsOption "00") ∧
      (stringsRun "#/anyOf/00").2.2.reserved = [0, 1, 2] := by
  have hfirst : (stringsRun "#/anyOf/00").2.1.known.schemaAt? (stringsOption "0") =
      some (.object [("type", .string "string")]) := by
    decide +kernel
  obtain ⟨-, hleads, -⟩ :=
    strings_leads "00" strings_documents.2 (by decide +kernel) (by decide +kernel)
  exact ⟨by decide +kernel, by decide +kernel, by decide +kernel, .here hfirst rfl, hleads,
    by decide +kernel, by decide +kernel⟩

end JsonTypes.Materialize
