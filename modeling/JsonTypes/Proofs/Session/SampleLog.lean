import JsonTypes.Proofs.Session.Refusal
import JsonTypes.Proofs.Session.SampleTypes

/-!
# Sets of samples as a log

The sets of samples are written in place, but what is there is told by the sources that were taken,
in their order (`Logged`): which names have samples, which samples, and which description came last.
A source is taken just if it has a name, all its samples can be read, and its description, if there
is one, is for a name with samples (`Logged.add_ok_iff`); else it changes nothing. So no set is
without samples, and inference never finds that there are none (`sets_addEach`).
-/

namespace JsonTypes

namespace SampleSets

variable {files : FileReader} {log : List SampleSource} {source : SampleSource} {s : SampleSets}
  {name : String}

/-- Adds sources in turn, whether they are taken or refused. -/
def addEach (files : FileReader) (sources : List SampleSource) (s : SampleSets) : SampleSets :=
  sources.foldl (fun s source => (s.add files source).2) s

/-- The sources that are taken when sources are added in turn. -/
def taken (files : FileReader) : List SampleSource → SampleSets → List SampleSource
  | [], _ => []
  | source :: rest, s =>
    match s.add files source with
    | (.ok (), s) => source :: taken files rest s
    | (.error _, s) => taken files rest s

/-! ## What a log says -/

/-- The names for which a log has samples, in the order of the first ones. -/
def namesOf (log : List SampleSource) : List String :=
  ((log.filter fun source => !source.samples.isEmpty).map (·.name)).eraseDups

/-- The samples of a source that can be read. -/
def samplesOf (files : FileReader) (source : SampleSource) : List Json :=
  source.samples.filterMap fun sample => (read files source sample).toOption

/-- All samples that a log has for a name, with the last description. -/
def setOf (files : FileReader) (log : List SampleSource) (name : String) : SampleSet where
  samples := (log.filter (·.name = name)).flatMap (samplesOf files)
  description := ((log.filter (·.name = name)).filterMap (·.description)).getLast?

theorem mem_namesOf :
    name ∈ namesOf log ↔ ∃ source ∈ log, source.samples ≠ [] ∧ source.name = name := by
  simp [namesOf, List.mem_eraseDups, and_assoc]

theorem namesOf_concat (log : List SampleSource) (source : SampleSource) :
    namesOf (log ++ [source]) =
      if source.samples = [] ∨ source.name ∈ namesOf log then namesOf log
      else namesOf log ++ [source.name] := by
  rcases hsamples : source.samples with _ | ⟨sample, rest⟩
  · simp [namesOf, List.filter_append, hsamples]
  · have hconcat : namesOf (log ++ [source]) = namesOf log ++
        ([source.name].removeAll
          ((log.filter fun source => !source.samples.isEmpty).map (·.name))).eraseDups := by
      rw [namesOf, List.filter_append, List.filter_cons_of_pos (by simp [hsamples]),
        List.map_append, List.eraseDups_append]
      rfl
    rw [hconcat]
    by_cases hmem : source.name ∈ namesOf log
    · rw [if_pos (.inr hmem)]
      simp [List.removeAll, List.mem_eraseDups.1 hmem]
    · rw [if_neg (by simp [hmem])]
      simp [List.removeAll, mt List.mem_eraseDups.2 hmem, List.eraseDups_cons]

theorem mem_namesOf_concat : source.name ∈ namesOf (log ++ [source]) ↔
    source.samples ≠ [] ∨ source.name ∈ namesOf log := by
  rw [namesOf_concat]
  split_ifs with h
  · exact ⟨.inr, fun hnew => hnew.elim (fun hne => h.resolve_left hne) id⟩
  · simp [not_or.1 h]

theorem nodup_namesOf (log : List SampleSource) : (namesOf log).Nodup := by
  induction log using List.reverseRecOn with
  | nil => exact .nil
  | append_singleton log source ih =>
    rw [namesOf_concat]
    split_ifs with h
    · exact ih
    · rw [← List.concat_eq_append]
      exact List.Nodup.concat (not_or.1 h).2 ih

theorem setOf_concat (files : FileReader) (log : List SampleSource) (source : SampleSource)
    (name : String) :
    setOf files (log ++ [source]) name =
      if name = source.name then
        ⟨(setOf files log name).samples ++ samplesOf files source,
          source.description.or (setOf files log name).description⟩
      else setOf files log name := by
  unfold setOf
  by_cases h : name = source.name
  · rcases hd : source.description with _ | description <;>
      simp [List.filter_append, h, List.filterMap_append, hd, List.getLast?_append]
  · simp [List.filter_append, h, Ne.symm h]

/-! ## Adding a source -/

/-- A source that is taken after a log. -/
structure Fits (files : FileReader) (log : List SampleSource) (source : SampleSource) : Prop where
  named : source.name ≠ ""
  read : ∀ sample ∈ source.samples, ∃ v, read files source sample = .ok v
  described : source.description ≠ none → source.samples ≠ [] ∨ source.name ∈ namesOf log

/-- The sets are those of a log, all of whose samples can be read and whose descriptions are for
names with samples. -/
structure Logged (files : FileReader) (log : List SampleSource) (s : SampleSets) : Prop where
  sets : s.sets = .tabulate (namesOf log) (setOf files log)
  read : ∀ source ∈ log, ∀ sample ∈ source.samples, ∃ v, read files source sample = .ok v
  described : ∀ source ∈ log, source.description ≠ none → source.name ∈ namesOf log

theorem logged_empty (files : FileReader) : Logged files [] .empty := ⟨rfl, nofun, nofun⟩

/-- A name without samples has no description either. -/
theorem Logged.setOf_of_not_mem (h : Logged files log s) (hname : name ∉ namesOf log) :
    setOf files log name = ⟨[], none⟩ := by
  have hsamples : ∀ source ∈ log, source.name = name → samplesOf files source = [] :=
    fun source hsource hn => by
      have hempty : source.samples = [] := by
        by_contra hne
        exact hname (mem_namesOf.2 ⟨source, hsource, hne, hn⟩)
      rw [samplesOf, hempty, List.filterMap_nil]
  have hdescription : ∀ source ∈ log, source.name = name → source.description = none :=
    fun source hsource hn => by
      by_contra hne
      exact hname (hn ▸ h.described source hsource hne)
  have hnone : (log.filter (·.name = name)).filterMap (·.description) = [] := by
    simpa [List.filterMap_eq_nil_iff] using hdescription
  have hempty : (log.filter (·.name = name)).flatMap (samplesOf files) = [] := by
    simpa [List.flatMap_eq_nil_iff] using hsamples
  rw [setOf, hnone, hempty]
  rfl

theorem Logged.set?_getD (h : Logged files log s) (name : String) :
    (s.set? name).getD ⟨[], none⟩ = setOf files log name := by
  rw [set?, h.sets, Entries.get?_tabulate]
  split_ifs with hname
  · rfl
  · exact (h.setOf_of_not_mem hname).symm

/-- The sets after the samples of a source, before its description. -/
theorem Logged.sets_append (h : Logged files log s)
    (hread : ∀ sample ∈ source.samples, ∃ v, SampleSets.read files source sample = .ok v) :
    (s.append source.name (samplesOf files source)).sets =
      .tabulate (namesOf (log ++ [source])) fun name =>
        if name = source.name then
          { setOf files log source.name with
            samples := (setOf files log source.name).samples ++ samplesOf files source }
        else setOf files log name := by
  rcases hsamples : source.samples with _ | ⟨sample, rest⟩
  -- Without samples nothing is written, and the name need not be there.
  · have hnone : samplesOf files source = [] := by rw [samplesOf, hsamples, List.filterMap_nil]
    have hnames : namesOf (log ++ [source]) = namesOf log := by
      rw [namesOf_concat, if_pos (.inl hsamples)]
    rw [hnone, hnames, append, if_pos List.isEmpty_nil, h.sets]
    refine Entries.tabulate_congr fun name _ => ?_
    split_ifs with hname
    · rw [hname, List.append_nil]
    · rfl
  · have hsome : samplesOf files source ≠ [] := by
      obtain ⟨v, hv⟩ := hread sample (hsamples ▸ List.mem_cons_self)
      simp [samplesOf, hsamples, hv, Except.toOption]
    have hnames : namesOf (log ++ [source]) =
        if source.name ∈ namesOf log then namesOf log else namesOf log ++ [source.name] := by
      rw [namesOf_concat]
      simp [hsamples]
    rw [append, if_neg (by simpa using hsome), h.set?_getD, hnames, h.sets]
    exact Entries.put_tabulate (nodup_namesOf log) _ _ _

theorem describe_of_sets {names : List String} {f : String → SampleSet} (hn : names.Nodup)
    (hs : s.sets = .tabulate names f) (name description : String) :
    s.describe name description =
      if name ∈ names then
        (.ok (), ⟨.tabulate names fun other =>
          if other = name then { f name with description := some description } else f other⟩)
      else (.error (.descriptionAlone name), s) := by
  have hset : s.set? name = if name ∈ names then some (f name) else none := by
    rw [set?, hs, Entries.get?_tabulate]
  by_cases hname : name ∈ names
  · rw [if_pos hname] at hset
    simp only [describe, hset, if_pos hname, hs, Entries.put_tabulate hn]
  · rw [if_neg hname] at hset
    simp only [describe, hset, if_neg hname]

/-- Adding a source, read as adding it to the log. -/
theorem Logged.add_eq (h : Logged files log s) (hname : source.name ≠ "")
    (hread : ∀ sample ∈ source.samples, ∃ v, SampleSets.read files source sample = .ok v) :
    s.add files source =
      if source.description ≠ none → source.name ∈ namesOf (log ++ [source]) then
        (.ok (), ⟨.tabulate (namesOf (log ++ [source])) (setOf files (log ++ [source]))⟩)
      else (.error (.descriptionAlone source.name),
        s.append source.name (samplesOf files source)) := by
  have hsets := h.sets_append hread
  have hconcat := setOf_concat files log source
  simp only [add, mapM_of_forall_ok hread, if_neg (show ¬source.name.isEmpty by simpa using hname)]
  rcases hd : source.description with _ | description <;> simp only [hd, Option.none_or] at hconcat
  · rw [if_pos fun hne => absurd rfl hne]
    refine congrArg (fun sets => (Except.ok (), SampleSets.mk sets)) (hsets.trans ?_)
    refine Entries.tabulate_congr fun name _ => ?_
    rw [hconcat]
    split_ifs with heq
    · rw [heq]
    · rfl
  · refine (describe_of_sets (nodup_namesOf _) hsets source.name description).trans ?_
    by_cases hmem : source.name ∈ namesOf (log ++ [source])
    · rw [if_pos hmem, if_pos fun _ => hmem]
      refine congrArg (fun sets => (Except.ok (), SampleSets.mk sets)) ?_
      refine Entries.tabulate_congr fun name _ => ?_
      rw [hconcat, if_pos rfl]
      split_ifs with heq
      · rw [heq]
        rfl
      · rfl
    · rw [if_neg hmem, if_neg fun hall => hmem (hall nofun)]

theorem add_ok_named (hok : (s.add files source).1 = .ok ()) :
    source.name ≠ "" ∧
      ∀ sample ∈ source.samples, ∃ v, SampleSets.read files source sample = .ok v := by
  unfold add at hok
  split_ifs at hok with hname
  rcases hread : source.samples.mapM (SampleSets.read files source) with e | samples <;>
    rw [hread] at hok
  · cases hok
  · exact ⟨by simpa using hname, forall_ok_of_mapM hread⟩

theorem Logged.add_ok_iff (h : Logged files log s) :
    (s.add files source).1 = .ok () ↔ Fits files log source := by
  constructor
  · intro hok
    obtain ⟨hname, hread⟩ := add_ok_named hok
    rw [h.add_eq hname hread] at hok
    split_ifs at hok with hd
    exact ⟨hname, hread, fun hne => mem_namesOf_concat.1 (hd hne)⟩
  · intro hfits
    rw [h.add_eq hfits.named hfits.read, if_pos fun hd => mem_namesOf_concat.2 (hfits.described hd)]

theorem Logged.add (h : Logged files log s) (hfits : Fits files log source) :
    Logged files (log ++ [source]) (s.add files source).2 where
  sets := by
    rw [h.add_eq hfits.named hfits.read, if_pos fun hd => mem_namesOf_concat.2 (hfits.described hd)]
  read other hother := by
    rcases List.mem_append.1 hother with hother | hother
    · exact h.read other hother
    · exact List.mem_singleton.1 hother ▸ hfits.read
  described other hother hd := by
    rcases List.mem_append.1 hother with hother | hother
    · obtain ⟨first, hfirst, hsamples⟩ := mem_namesOf.1 (h.described other hother hd)
      exact mem_namesOf.2 ⟨first, List.mem_append_left _ hfirst, hsamples⟩
    · obtain rfl := List.mem_singleton.1 hother
      exact mem_namesOf_concat.2 (hfits.described hd)

/-- After any sources, the sets are those of the sources that were taken. -/
theorem Logged.addEach : ∀ (sources : List SampleSource) {log : List SampleSource}
    {s : SampleSets}, Logged files log s →
    Logged files (log ++ taken files sources s) (SampleSets.addEach files sources s)
  | [], log, s, h => by
    rw [taken, List.append_nil]
    exact h
  | source :: rest, log, s, h => by
    have hstep : SampleSets.addEach files (source :: rest) s =
        SampleSets.addEach files rest (s.add files source).2 := rfl
    have herror : ∀ e, (s.add files source).1 = .error e → (s.add files source).2 = s :=
      fun e => add_of_error
    have hok : (s.add files source).1 = .ok () →
        Logged files (log ++ [source]) (s.add files source).2 := fun hok =>
      h.add (h.add_ok_iff.1 hok)
    rw [hstep, taken]
    rcases hadd : s.add files source with ⟨e | ⟨⟨⟩⟩, s'⟩ <;> rw [hadd] at herror hok
    · cases herror e rfl
      exact addEach rest h
    · simpa using addEach rest (hok rfl)

/-! ## Sets without samples -/

theorem Logged.samples_ne_nil (h : Logged files log s) {entry : String × SampleSet}
    (hentry : entry ∈ s.sets) : entry.2.samples ≠ [] := by
  rw [h.sets] at hentry
  obtain ⟨hname, hset⟩ := Entries.mem_tabulate.1 hentry
  obtain ⟨source, hsource, hsamples, hn⟩ := mem_namesOf.1 hname
  obtain ⟨sample, hsample⟩ := List.exists_mem_of_ne_nil _ hsamples
  obtain ⟨v, hv⟩ := h.read source hsource sample hsample
  have hmem : v ∈ (setOf files log entry.1).samples := by
    refine List.mem_flatMap.2 ⟨source, List.mem_filter.2 ⟨hsource, by simpa using hn⟩, ?_⟩
    exact List.mem_filterMap.2 ⟨sample, hsample, by rw [hv]; rfl⟩
  rw [← hset]
  exact List.ne_nil_of_mem hmem

section Sink

variable {σ : Type} [Sink σ]

theorem infer_ne_noSamples (c : InferenceConfig) (fresh : Bool) {samples : List Json}
    (h : samples ≠ []) (sink : σ) :
    ((infer c fresh samples : TryBuild σ InferenceError TypeRef) sink).1 ≠ .error .noSamples := by
  rcases infer_split c fresh samples sink with ⟨hnil, -⟩ | ⟨-, -, hi⟩ | ⟨-, -, s, -, hi⟩
  · exact absurd hnil h
  · rw [hi]
    exact nofun
  · rw [hi]
    exact nofun

theorem addTypesOf_ne_noSamples (c : InferenceConfig) (name : String) :
    ∀ {sets : Entries String SampleSet}, (∀ entry ∈ sets, entry.2.samples ≠ []) → ∀ sink : σ,
      (addTypesOf c sets sink).1 ≠ .error (.inference name .noSamples)
  | [], _, _ => nofun
  | (other, set) :: rest, h, sink => by
    obtain ⟨hset, hrest⟩ := List.forall_mem_cons.1 h
    have hinfer := infer_ne_noSamples c (isFresh c set) hset sink
    rw [addTypesOf_cons, addType_eq]
    rcases hi : (infer c (isFresh c set) set.samples : TryBuild σ InferenceError TypeRef) sink with
      ⟨e | t, sink⟩
    · intro heq
      rw [hi] at hinfer
      cases heq
      exact hinfer rfl
    · exact addTypesOf_ne_noSamples c name hrest _

end Sink

/-- Whatever sources are added, taken or refused, the sets are those of the log of the sources that
were taken: one for each name that has a sample there, with all its samples and the last
description. All samples of the log can be read. The next source is taken just if it has a name, its
samples can be read, and what it describes has samples; else it changes nothing. No set is without
samples, so no inference, into whatever sink, fails for want of them. -/
theorem sets_addEach (files : FileReader) (sources : List SampleSource) :
    let s := addEach files sources .empty
    let log := taken files sources .empty
    s.sets = .tabulate (namesOf log) (setOf files log) ∧
      (∀ source ∈ log, ∀ sample ∈ source.samples, ∃ v, read files source sample = .ok v) ∧
      (∀ source, ((s.add files source).1 = .ok () ↔ Fits files log source) ∧
        ((s.add files source).1 ≠ .ok () → (s.add files source).2 = s)) ∧
      (∀ entry ∈ s.sets, entry.2.samples ≠ []) ∧
      ∀ (σ : Type) [Sink σ] (c : InferenceConfig) (sink : σ) (name : String),
        (s.addTypes c sink).1 ≠ .error (.inference name .noSamples) := by
  intro s log
  have hlogged : Logged files log s := by
    simpa using (logged_empty files).addEach sources
  refine ⟨hlogged.sets, hlogged.read, fun source => ⟨hlogged.add_ok_iff, fun hne => ?_⟩,
    fun entry => hlogged.samples_ne_nil, fun σ _ c sink name => ?_⟩
  · rcases hadd : (s.add files source).1 with e | ⟨⟨⟩⟩
    · exact add_of_error hadd
    · exact absurd hadd hne
  · exact addTypesOf_ne_noSamples c name (fun entry => hlogged.samples_ne_nil) sink

/-- Samples for two names in turn. Refused are a description before any samples, a source whose
second sample cannot be read, and one without a name. -/
def mixed : List SampleSource :=
  [⟨"A", [], some "early"⟩, ⟨"B", [.text "1", .text "true"], none⟩,
    ⟨"A", [.text "\"x\"", .text "oops"], none⟩, ⟨"A", [.text "\"y\""], some "first"⟩,
    ⟨"", [.text "1"], none⟩, ⟨"C", [], none⟩, ⟨"B", [.text "2"], none⟩, ⟨"A", [], some "last"⟩]

theorem sets_addEach_mixed :
    let files : FileReader := fun _ => none
    (addEach files mixed .empty).sets =
        [("B", ⟨[.int 1, .bool true, .int 2], none⟩), ("A", ⟨[.string "y"], some "last"⟩)] ∧
      ((addEach files mixed .empty).add files ⟨"C", [], some "nothing"⟩).1 ≠ .ok () ∧
      ((addEach files mixed .empty).add files ⟨"C", [], some "nothing"⟩).2 =
        addEach files mixed .empty := by
  intro files
  obtain ⟨hsets, -, hadd, -⟩ := sets_addEach files mixed
  obtain ⟨hiff, hkept⟩ := hadd ⟨"C", [], some "nothing"⟩
  have hlog : taken files mixed .empty =
      [⟨"B", [.text "1", .text "true"], none⟩, ⟨"A", [.text "\"y\""], some "first"⟩,
        ⟨"C", [], none⟩, ⟨"B", [.text "2"], none⟩, ⟨"A", [], some "last"⟩] := by
    decide +kernel
  have hrefused : ¬Fits files (taken files mixed .empty) ⟨"C", [], some "nothing"⟩ := fun h => by
    rw [hlog] at h
    exact absurd (h.described nofun) (by decide)
  refine ⟨hsets.trans ?_, mt hiff.1 hrefused, hkept (mt hiff.1 hrefused)⟩
  rw [hlog]
  decide +kernel

end SampleSets

end JsonTypes
