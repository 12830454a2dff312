import Mathlib.Tactic.Common
import JsonTypes.Session.Basic

/-!
# What a refused source leaves

A processor that refuses a source is as it was before (`Processor.add_of_error`), though samples are
recorded before the description that may be refused: a description is only refused where the source
has no samples, and then nothing was recorded. That a source is of the wrong kind is said only by a
processor of another kind (`Processor.add_ne_kindMismatch`).

So all processors that a session had are as they were after a refused source, and there is at most
one more (`Session.addWith_of_error`): the one that was made for the source, if its kind had none.
-/

namespace JsonTypes

/-! ## Reading all of a list -/

section Reading

variable {ε α β : Type} {f : α → Except ε β}

theorem mapM_of_forall_ok {xs : List α} (h : ∀ x ∈ xs, ∃ y, f x = .ok y) :
    xs.mapM f = .ok (xs.filterMap fun x => (f x).toOption) := by
  induction xs with
  | nil => rfl
  | cons x rest ih =>
    obtain ⟨⟨y, hy⟩, hrest⟩ := List.forall_mem_cons.1 h
    rw [List.mapM_cons, hy, ih hrest, List.filterMap_cons, hy]
    rfl

theorem forall_ok_of_mapM {xs : List α} {ys : List β} (h : xs.mapM f = .ok ys) :
    ∀ x ∈ xs, ∃ y, f x = .ok y := by
  induction xs generalizing ys with
  | nil => exact nofun
  | cons x rest ih =>
    rw [List.mapM_cons] at h
    rcases hx : f x with e | y <;> rw [hx] at h
    · cases h
    · rcases hrest : rest.mapM f with e | zs <;> rw [hrest] at h
      · cases h
      · exact List.forall_mem_cons.2 ⟨⟨y, hx⟩, ih hrest⟩

theorem exists_error_of_mapM {xs : List α} {e : ε} (h : xs.mapM f = .error e) :
    ∃ x ∈ xs, f x = .error e := by
  induction xs with
  | nil => cases h
  | cons x rest ih =>
    rw [List.mapM_cons] at h
    rcases hx : f x with e' | y <;> rw [hx] at h
    · cases h
      exact ⟨x, List.mem_cons_self, hx⟩
    · rcases hrest : rest.mapM f with e' | ys <;> rw [hrest] at h
      · cases h
        obtain ⟨x', hx', he⟩ := ih hrest
        exact ⟨x', List.mem_cons_of_mem _ hx', he⟩
      · cases h

end Reading

/-! ## Processors -/

namespace SampleSets

variable {files : FileReader} {source : SampleSource} {s : SampleSets} {e : SessionError}

/-- There is a set for every name under which samples were appended. -/
theorem set?_append (name : String) {samples : List Json} (h : samples ≠ []) :
    ∃ set, (s.append name samples).set? name = some set := by
  unfold append set?
  rw [if_neg (by simpa using h)]
  exact ⟨_, (Entries.get?_put _ _ _ _).trans (if_pos rfl)⟩

theorem set?_of_describe_error {name description : String}
    (h : (s.describe name description).1 = .error e) : s.set? name = none := by
  unfold describe at h
  rcases hs : s.set? name with _ | set
  · rfl
  · rw [hs] at h
    cases h

theorem describe_of_none {name : String} (h : s.set? name = none) (description : String) :
    (s.describe name description).2 = s := by
  unfold describe
  rw [h]

theorem add_of_error (h : (s.add files source).1 = .error e) : (s.add files source).2 = s := by
  unfold add at h ⊢
  split_ifs at h ⊢
  · rfl
  · rcases hread : source.samples.mapM (read files source) with e' | samples <;>
      simp only [hread] at h ⊢
    rcases hd : source.description with _ | description <;> simp only [hd] at h ⊢
    · cases h
    · have hnone := set?_of_describe_error h
      have hempty : samples = [] := by
        by_contra hne
        obtain ⟨set, hset⟩ := set?_append (s := s) source.name hne
        rw [hset] at hnone
        cases hnone
      rw [describe_of_none hnone, hempty]
      rfl

theorem read_ne_kindMismatch (sample : Sample) (expected found : SourceKind) :
    read files source sample ≠ .error (.kindMismatch expected found) := by
  have hparsed : ∀ parsed : Except String Json,
      parsed.mapError (SessionError.sampleParse source.name source.description) ≠
        .error (.kindMismatch expected found) := by
    rintro (e | v)
    · exact nofun
    · exact nofun
  rcases sample with text | bytes | path
  · exact hparsed _
  · exact hparsed _
  · simp only [read]
    rcases files path with _ | bytes
    · exact nofun
    · exact hparsed _

theorem describe_ne_kindMismatch (name description : String) (expected found : SourceKind) :
    (s.describe name description).1 ≠ .error (.kindMismatch expected found) := by
  unfold describe
  rcases s.set? name with _ | set
  · exact nofun
  · exact nofun

theorem add_ne_kindMismatch (expected found : SourceKind) :
    (s.add files source).1 ≠ .error (.kindMismatch expected found) := by
  unfold add
  split_ifs
  · exact nofun
  · rcases hread : source.samples.mapM (read files source) with e' | samples
    · intro h
      obtain ⟨sample, -, hsample⟩ := exists_error_of_mapM hread
      cases h
      exact read_ne_kindMismatch sample expected found hsample
    · rcases source.description with _ | description
      · exact nofun
      · exact describe_ne_kindMismatch source.name description expected found

end SampleSets

theorem SchemaSources.add_of_error {source : SchemaSource} {s : SchemaSources} {e : SessionError}
    (h : (s.add source).1 = .error e) : (s.add source).2 = s := by
  unfold add at h ⊢
  split_ifs at h ⊢ <;> rfl

theorem Processor.add_of_error {files : FileReader} {source : Source} {p : Processor}
    {e : SessionError} (h : (p.add files source).1 = .error e) : (p.add files source).2 = p := by
  cases source <;> cases p
  case samples.samples source s => exact congrArg Processor.samples (SampleSets.add_of_error h)
  case schema.schema source s => exact congrArg Processor.schema (SchemaSources.add_of_error h)
  all_goals rfl

theorem SchemaSources.add_ne_kindMismatch {source : SchemaSource} {s : SchemaSources}
    (expected found : SourceKind) : (s.add source).1 ≠ .error (.kindMismatch expected found) := by
  unfold add
  split_ifs
  all_goals exact nofun

/-- A source of its own kind is never of the wrong kind to a processor. -/
theorem Processor.add_ne_kindMismatch {files : FileReader} {source : Source} {p : Processor}
    (h : p.kind = source.kind) (expected found : SourceKind) :
    (p.add files source).1 ≠ .error (.kindMismatch expected found) := by
  cases source <;> cases p
  case samples.samples source s => exact SampleSets.add_ne_kindMismatch expected found
  case schema.schema source s => exact SchemaSources.add_ne_kindMismatch expected found
  all_goals cases h

/-! ## Sessions -/

namespace Session

variable {source : Source} {s : Session} {e : SessionError}

theorem feed_of_error {files : FileReader} : ∀ {ps : List Processor},
    (feed files source ps).1 = .error e → (feed files source ps).2 = ps
  | [], h => by cases h
  | p :: rest, h => by
    unfold feed at h ⊢
    split_ifs at h ⊢
    · exact congrArg (· :: rest) (Processor.add_of_error h)
    · exact congrArg (p :: ·) (feed_of_error h)

theorem route_of_error (h : (s.route source).1 = .error e) : (s.route source).2 = s :=
  congrArg (fun ps => { s with processors := ps }) (feed_of_error h)

/-- Where a kind has a processor, or the one that is made is of another kind, a refused source
changes nothing; else the processor that is made stays, as it was made. -/
theorem addWith_of_error {make : Unit → Processor} (h : (s.addWith make source).1 = .error e) :
    (s.addWith make source).2 =
      if s.processor? source.kind = none ∧ (make ()).kind = source.kind then s.push (make ())
      else s := by
  unfold addWith at h ⊢
  rcases hp : s.processor? source.kind with _ | p <;> simp only [hp] at h ⊢
  · by_cases hkind : (make ()).kind = source.kind
    · simp only [hkind, Option.isSome_none, Bool.false_eq_true, if_false, if_true, and_self] at h ⊢
      exact route_of_error h
    · simp [hkind]
  · simp only [Option.isSome_some, if_true] at h ⊢
    simpa using route_of_error h

theorem kind_ofKind (options : SessionOptions) (kind : SourceKind) :
    (Processor.ofKind options kind).kind = kind := by
  cases kind <;> rfl

theorem add_of_error (h : (s.add source).1 = .error e) :
    (s.add source).2 =
      if s.processor? source.kind = none then s.push (.ofKind s.options source.kind) else s := by
  have hleft := addWith_of_error h
  simp only [kind_ofKind, and_true] at hleft
  exact hleft

/-! ## What a session says of its processors -/

/-- A processor that was just made has no text. -/
theorem singleTextOfAll_push (options : SessionOptions) (kind : SourceKind) (s : Session) :
    Processor.singleTextOfAll (s.push (.ofKind options kind)).processors =
      Processor.singleTextOfAll s.processors := by
  have hnone : (Processor.ofKind options kind).singleText = none := by cases kind <;> rfl
  simp [Processor.singleTextOfAll, push, List.filterMap_append, hnone]

theorem any_needsInference_push (options : SessionOptions) (kind : SourceKind) (s : Session) :
    (s.push (.ofKind options kind)).processors.any (·.needsInference) =
      (s.processors.any (·.needsInference) || kind = .samples) := by
  cases kind <;> simp [push, Processor.ofKind, Processor.needsInference, SchemaSources.new]

theorem any_needsSchemaProcessing_push (options : SessionOptions) (kind : SourceKind)
    (s : Session) :
    (s.push (.ofKind options kind)).processors.any (·.needsSchemaProcessing) =
      (s.processors.any (·.needsSchemaProcessing) || kind = .schema) := by
  cases kind <;> simp [push, Processor.ofKind, Processor.needsSchemaProcessing]

/-- A refused source leaves every processor as it was and in its place. The only trace of it is the
processor that was made for its kind, if the kind had none: without any source, at the end. The text
of all schemas stays the same, and the session needs no more than that processor needs. -/
theorem refused_source_leaves (source : Source) (s : Session) (e : SessionError) :
    (∀ make, (s.addWith make source).1 = .error e →
      (s.addWith make source).2 =
        if s.processor? source.kind = none ∧ (make ()).kind = source.kind then s.push (make ())
        else s) ∧
    ((s.add source).1 = .error e →
      (s.add source).2 =
        (if s.processor? source.kind = none then s.push (.ofKind s.options source.kind) else s) ∧
      Processor.singleTextOfAll (s.add source).2.processors =
        Processor.singleTextOfAll s.processors ∧
      (s.add source).2.processors.any (·.needsInference) =
        (s.processors.any (·.needsInference) ||
          (s.processor? source.kind).isNone && source.kind = .samples) ∧
      (s.add source).2.processors.any (·.needsSchemaProcessing) =
        (s.processors.any (·.needsSchemaProcessing) ||
          (s.processor? source.kind).isNone && source.kind = .schema)) := by
  refine ⟨fun make h => addWith_of_error h, fun h => ⟨add_of_error h, ?_⟩⟩
  rw [add_of_error h]
  rcases s.processor? source.kind with _ | p
  · simp only [if_true, singleTextOfAll_push, any_needsInference_push,
      any_needsSchemaProcessing_push, Option.isNone_none, Bool.true_and, and_self]
  · simp

/-- A session with samples for one name. -/
def counting : Session := ⟨[.samples ⟨[("Count", ⟨[.int 1], none⟩)]⟩], ⟨none, [], fun _ => none⟩⟩

/-- A description of something that has no samples. -/
def bare : Source := .samples ⟨"Sum", [], some "The sum of all counts"⟩

/-- Where samples have a processor, a refused description leaves the session as it was. -/
theorem refused_source_leaves_counting :
    (counting.add bare).1 = .error (.descriptionAlone "Sum") ∧
      (counting.add bare).2 = counting := by
  have hrefused : (counting.add bare).1 = .error (.descriptionAlone "Sum") := rfl
  exact ⟨hrefused, ((refused_source_leaves bare counting _).2 hrefused).1⟩

/-- The first source of a session is refused, and the session is another one: it has a processor
now, and needs inference. -/
theorem refused_first_source_stays :
    let s := Session.new ⟨none, [], fun _ => none⟩
    (s.add bare).1 = .error (.descriptionAlone "Sum") ∧ (s.add bare).2 ≠ s ∧
      s.processors.any (·.needsInference) = false ∧
      (s.add bare).2.processors.any (·.needsInference) = true := by
  refine ⟨rfl, fun h => ?_, rfl, rfl⟩
  cases congrArg processors h

end Session

end JsonTypes
