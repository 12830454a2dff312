import Mathlib.Data.List.Induction
import Mathlib.Data.List.Nodup
import JsonTypes.Proofs.Session.Refusal

/-!
# A session as a product of processors

Whatever calls a session gets, in whatever order and with whatever outcome, it has one processor for
each kind that came, and each is what its first processor becomes when it is fed the sources of its
kind alone (`Session.processors_after`). The one source that no processor sees is one whose kind had
no processor when the processor made for it was of another kind.

So there is never more than one schema processor, and processors never disagree on a text.
-/

namespace JsonTypes

/-! ## Kinds -/

namespace Processor

/-- Feeds sources to a processor in turn, whether it takes or refuses them. -/
def feedAll (files : FileReader) (sources : List Source) (p : Processor) : Processor :=
  sources.foldl (fun p source => (p.add files source).2) p

/-- The processors that are the first of their kinds. -/
def firstOfEachKind : List Processor → List Processor
  | [] => []
  | p :: rest => p :: (firstOfEachKind rest).filter (·.kind ≠ p.kind)

/-- Puts a processor behind the others, unless there is one of its kind. -/
def joined : Option Processor → List Processor → List Processor
  | none, ps => ps
  | some p, ps => if p.kind ∈ ps.map kind then ps else ps ++ [p]

/-- There is at most one processor of each kind. -/
def Distinct (ps : List Processor) : Prop := (ps.map kind).Nodup

variable {files : FileReader} {source : Source} {ps : List Processor} {p : Processor}

@[simp] theorem kind_add (files : FileReader) (source : Source) (p : Processor) :
    (p.add files source).2.kind = p.kind := by
  cases source <;> cases p <;> rfl

@[simp] theorem kind_finish (p : Processor) : p.finish.2.kind = p.kind := by
  cases p <;> rfl

@[simp] theorem kind_addTypes {σ : Type} [Sink σ] (steps : Nat) (c : InferenceConfig) (sink : σ)
    (p : Processor) : (p.addTypes steps c sink).2.1.kind = p.kind := by
  cases p <;> rfl

@[simp] theorem kind_feedAll (files : FileReader) (sources : List Source) (p : Processor) :
    (p.feedAll files sources).kind = p.kind := by
  induction sources generalizing p with
  | nil => rfl
  | cons source rest ih => exact (ih _).trans (kind_add files source p)

theorem feedAll_append (files : FileReader) (sources more : List Source) (p : Processor) :
    p.feedAll files (sources ++ more) = (p.feedAll files sources).feedAll files more :=
  List.foldl_append

theorem add_of_kind_ne (h : p.kind ≠ source.kind) : (p.add files source).2 = p := by
  cases source <;> cases p <;> first | rfl | exact absurd rfl h

theorem kinds_map_feedAll (files : FileReader) (sources : List Source) (ps : List Processor) :
    (ps.map (feedAll files sources)).map kind = ps.map kind := by
  rw [List.map_map]
  exact List.map_congr_left fun p _ => kind_feedAll files sources p

/-- Sources of other kinds leave no trace. -/
theorem feedAll_eq_filter (files : FileReader) (sources : List Source) (p : Processor) :
    p.feedAll files sources = p.feedAll files (sources.filter (·.kind = p.kind)) := by
  induction sources generalizing p with
  | nil => rfl
  | cons source rest ih =>
    have hrest := ih (p.add files source).2
    rw [kind_add] at hrest
    by_cases h : source.kind = p.kind
    · rw [List.filter_cons_of_pos (by simpa using h)]
      exact hrest
    · rw [List.filter_cons_of_neg (by simpa using h)]
      rw [add_of_kind_ne (Ne.symm h)] at hrest
      exact (congrArg (feedAll files rest) (add_of_kind_ne (Ne.symm h))).trans hrest

theorem feedAll_of_kinds_ne {sources : List Source} (h : ∀ source ∈ sources, source.kind ≠ p.kind) :
    p.feedAll files sources = p := by
  rw [feedAll_eq_filter, List.filter_eq_nil_iff.2 (by simpa using h)]
  rfl

/-! ## The first of each kind -/

theorem mem_kinds_firstOfEachKind {kind : SourceKind} :
    kind ∈ (firstOfEachKind ps).map Processor.kind ↔ kind ∈ ps.map Processor.kind := by
  induction ps with
  | nil => rfl
  | cons p rest ih =>
    by_cases h : kind = p.kind
    · simp [firstOfEachKind, h]
    · simp only [List.mem_map] at ih
      simp only [firstOfEachKind, List.map_cons, List.mem_cons, h, false_or, List.mem_map,
        List.mem_filter, ← ih]
      refine exists_congr fun q => ⟨fun hq => ⟨hq.1.1, hq.2⟩, fun hq => ⟨⟨hq.1, ?_⟩, hq.2⟩⟩
      simpa [hq.2] using h

theorem firstOfEachKind_concat (ps : List Processor) (p : Processor) :
    firstOfEachKind (ps ++ [p]) = joined (some p) (firstOfEachKind ps) := by
  rw [joined]
  simp only [mem_kinds_firstOfEachKind]
  induction ps with
  | nil => rfl
  | cons q rest ih =>
    rw [List.cons_append, firstOfEachKind, ih, firstOfEachKind, List.map_cons]
    by_cases h : p.kind ∈ rest.map kind
    · rw [if_pos h, if_pos (List.mem_cons_of_mem _ h)]
    · rw [if_neg h, List.filter_append]
      by_cases hq : p.kind = q.kind
      · rw [if_pos (hq ▸ List.mem_cons_self), List.filter_cons_of_neg (by simp [hq]),
          List.filter_nil, List.append_nil]
      · rw [if_neg fun hmem => (List.mem_cons.1 hmem).elim hq h,
          List.filter_cons_of_pos (by simp [hq]), List.filter_nil, List.cons_append]

theorem firstOfEachKind_append_toList (ps : List Processor) (p : Option Processor) :
    firstOfEachKind (ps ++ p.toList) = joined p (firstOfEachKind ps) := by
  rcases p with _ | p
  · exact congrArg firstOfEachKind (List.append_nil ps)
  · exact firstOfEachKind_concat ps p

theorem mem_kinds_joined {kind : SourceKind} {p : Option Processor} :
    kind ∈ (joined p ps).map Processor.kind ↔
      kind ∈ ps.map Processor.kind ∨ ∃ q ∈ p, q.kind = kind := by
  rcases p with _ | p
  · simp [joined]
  · rw [joined]
    split_ifs with h
    · refine ⟨.inl, fun hk => hk.elim id ?_⟩
      rintro ⟨q, hq, rfl⟩
      cases hq
      exact h
    · simp [eq_comm]

theorem distinct_joined (h : Distinct ps) (p : Option Processor) : Distinct (joined p ps) := by
  rcases p with _ | p
  · exact h
  · rw [joined]
    split_ifs with hp
    · exact h
    · rw [Distinct, List.map_append, List.map_singleton, ← List.concat_eq_append]
      exact List.Nodup.concat hp h

/-- A processor that comes now has missed nothing, if the sources so far were for the others. -/
theorem joined_map_feedAll (files : FileReader) {sources : List Source}
    (h : ∀ source ∈ sources, source.kind ∈ ps.map kind) (p : Option Processor) :
    joined p (ps.map (feedAll files sources)) = (joined p ps).map (feedAll files sources) := by
  rcases p with _ | p
  · rfl
  · rw [joined, joined, kinds_map_feedAll]
    split_ifs with hp
    · rfl
    · have hmissed : p.feedAll files sources = p :=
        feedAll_of_kinds_ne fun source hsource e => hp (e ▸ h source hsource)
      rw [List.map_append, List.map_singleton, hmissed]

theorem distinct_firstOfEachKind (ps : List Processor) : Distinct (firstOfEachKind ps) := by
  induction ps with
  | nil => exact List.nodup_nil
  | cons p rest ih =>
    refine List.nodup_cons.2 ⟨fun h => ?_, ih.sublist (List.filter_sublist.map _)⟩
    obtain ⟨q, hq, hkind⟩ := List.mem_map.1 h
    simpa [hkind] using (List.mem_filter.1 hq).2

/-! ## One text -/

theorem kind_of_singleText {text : String} (h : p.singleText = some text) : p.kind = .schema := by
  cases p
  · cases h
  · rfl

/-- With one processor of each kind there is at most one text. -/
theorem Distinct.singleText_length_le (h : Distinct ps) : (ps.filterMap singleText).length ≤ 1 := by
  induction ps with
  | nil => exact Nat.zero_le 1
  | cons p rest ih =>
    obtain ⟨hkind, hrest⟩ := List.nodup_cons.1 h
    rcases hp : p.singleText with _ | text
    · rw [List.filterMap_cons_none hp]
      exact ih hrest
    · have hnone : rest.filterMap singleText = [] := by
        refine List.filterMap_eq_nil_iff.2 fun q hq => ?_
        by_contra hne
        obtain ⟨text', hq'⟩ := Option.ne_none_iff_exists'.1 hne
        exact hkind (List.mem_map.2
          ⟨q, hq, (kind_of_singleText hq').trans (kind_of_singleText hp).symm⟩)
      rw [List.filterMap_cons_some hp, hnone]
      exact Nat.le_refl 1

theorem Distinct.singleTextOfAll_ne (h : Distinct ps) :
    singleTextOfAll ps ≠ .error .multipleSchemas := by
  have hlength := h.singleText_length_le
  unfold singleTextOfAll
  rcases hts : ps.filterMap singleText with _ | ⟨text, _ | ⟨text', rest⟩⟩
  · exact nofun
  · exact nofun
  · rw [hts] at hlength
    simp at hlength

/-! ## Finishing and adding types -/

theorem kinds_finishAll : ∀ ps : List Processor, (finishAll ps).2.map kind = ps.map kind
  | [] => rfl
  | p :: rest => by
    have hp := kind_finish p
    have hrest := kinds_finishAll rest
    rw [finishAll]
    rcases hf : p.finish with ⟨_ | _, p'⟩ <;> rw [hf] at hp
    · exact congrArg (· :: rest.map kind) hp
    · simp only [List.map_cons] at hp ⊢
      rw [hp, hrest]

theorem kinds_addAllTypes {σ : Type} [Sink σ] (steps : Nat) (c : InferenceConfig) :
    ∀ (ps : List Processor) (sink : σ), (addAllTypes steps c ps sink).2.1.map kind = ps.map kind
  | [], _ => rfl
  | p :: rest, sink => by
    have hp := kind_addTypes steps c sink p
    rw [addAllTypes]
    rcases ha : p.addTypes steps c sink with ⟨_ | _, p', sink⟩ <;> rw [ha] at hp
    · exact congrArg (· :: rest.map kind) hp
    · simp only [List.map_cons] at hp ⊢
      rw [hp, kinds_addAllTypes steps c rest sink]

end Processor

/-- What a resolved session can become when it adds types, to any sinks and with any outcome. -/
inductive ResolvedSession.Becomes (s : ResolvedSession) : ResolvedSession → Prop
  | same : s.Becomes s
  | addTypes {s' : ResolvedSession} {σ : Type} [Sink σ] (steps : Nat) (c : InferenceConfig)
      (sink : σ) : s.Becomes s' → s.Becomes (s'.addTypes steps c sink).2.1

theorem ResolvedSession.Becomes.kinds {s s' : ResolvedSession} (h : s.Becomes s') :
    s'.processors.map Processor.kind = s.processors.map Processor.kind := by
  induction h with
  | same => rfl
  | addTypes steps c sink _ ih => exact (Processor.kinds_addAllTypes steps c _ sink).trans ih

namespace Session

open Processor

/-! ## Calls -/

/-- A call that gives a processor or a source to a session. -/
inductive Call where
  | register (p : Processor)
  | add (source : Source)
  | addWith (make : Unit → Processor) (source : Source)

namespace Call

def run : Call → Session → Except SessionError Unit × Session
  | register p, s =>
    match s.register p with
    | .ok s => (.ok (), s)
    | .error e => (.error e, s)
  | add source, s => s.add source
  | addWith make source, s => s.addWith make source

/-- The processor that a call brings to a session that has none of its kind. -/
def initial? (options : SessionOptions) : Call → Option Processor
  | register p => some p
  | add source => some (.ofKind options source.kind)
  | addWith make source => if (make ()).kind = source.kind then some (make ()) else none

/-- The source that a call brings to a processor, by its reply: all but one that is refused because
the processor made for it is of another kind. -/
def fed? : Call × Except SessionError Unit → Option Source
  | (register _, _) => none
  | (add source, _) => some source
  | (addWith make source, reply) =>
    if reply = .error (.kindMismatch source.kind (make ()).kind) then none else some source

end Call

/-- The session after calls in turn, whatever their outcomes. -/
def after (calls : List Call) (s : Session) : Session :=
  calls.foldl (fun s call => (call.run s).2) s

/-- The calls with their replies. -/
def transcript : List Call → Session → List (Call × Except SessionError Unit)
  | [], _ => []
  | call :: rest, s => (call, (call.run s).1) :: transcript rest (call.run s).2

/-- The sources of a kind that calls bring to a processor, in order. -/
def fedOf (kind : SourceKind) (calls : List Call) (s : Session) : List Source :=
  ((transcript calls s).filterMap Call.fed?).filter (·.kind = kind)

variable {files : FileReader} {source : Source} {s : Session} {ps : List Processor}

theorem after_concat (calls : List Call) (call : Call) (s : Session) :
    after (calls ++ [call]) s = (call.run (after calls s)).2 := by
  rw [after, List.foldl_append]
  rfl

theorem transcript_concat (calls : List Call) (call : Call) (s : Session) :
    transcript (calls ++ [call]) s =
      transcript calls s ++ [(call, (call.run (after calls s)).1)] := by
  induction calls generalizing s with
  | nil => rfl
  | cons first rest ih => exact congrArg (_ :: ·) (ih _)

/-! ## What one call does -/

theorem map_add_of_not_mem (h : source.kind ∉ ps.map Processor.kind) :
    ps.map (fun p => (p.add files source).2) = ps := by
  refine (List.map_congr_left fun p hp => ?_).trans ps.map_id'
  exact add_of_kind_ne fun hkind => h (List.mem_map.2 ⟨p, hp, hkind⟩)

/-- Where each kind has one processor, feeding the first of a kind is feeding all: the others refuse
the source and stay as they are. -/
theorem feed_of_distinct (h : Distinct ps) :
    (feed files source ps).2 = ps.map fun p => (p.add files source).2 := by
  induction ps with
  | nil => rfl
  | cons p rest ih =>
    obtain ⟨hkind, hrest⟩ := List.nodup_cons.1 h
    rw [feed, List.map_cons]
    split_ifs with hp
    · rw [map_add_of_not_mem (hp ▸ hkind)]
    · rw [add_of_kind_ne hp, ← ih hrest]

theorem feed_ne_kindMismatch (expected found : SourceKind) :
    (feed files source ps).1 ≠ .error (.kindMismatch expected found) := by
  induction ps with
  | nil => exact nofun
  | cons p rest ih =>
    rw [feed]
    split_ifs with hp
    · exact Processor.add_ne_kindMismatch hp expected found
    · exact ih

theorem processor?_isSome_iff {kind : SourceKind} :
    (s.processor? kind).isSome ↔ kind ∈ s.processors.map Processor.kind := by
  simp [processor?, List.find?_isSome]

theorem register_processors (p : Processor) (s : Session) :
    ((Call.register p).run s).2.processors = joined (some p) s.processors := by
  rw [Call.run, register, joined]
  by_cases h : p.kind ∈ s.processors.map Processor.kind
  · rw [if_pos (processor?_isSome_iff.2 h), if_pos h]
  · rw [if_neg (mt processor?_isSome_iff.1 h), if_neg h]
    rfl

/-- A source reaches a processor if its kind has one, or if the one that is made for it fits. -/
theorem addWith_of_fed (hs : Distinct s.processors) (make : Unit → Processor)
    (h : source.kind ∈ s.processors.map Processor.kind ∨ (make ()).kind = source.kind) :
    (s.addWith make source).2.processors =
        (joined (Call.initial? s.options (.addWith make source)) s.processors).map
          (fun p => (p.add s.options.files source).2) ∧
      ∀ expected found, (s.addWith make source).1 ≠ .error (.kindMismatch expected found) := by
  rw [addWith, Call.initial?]
  by_cases hmem : source.kind ∈ s.processors.map Processor.kind
  · have hjoined : joined (if (make ()).kind = source.kind then some (make ()) else none)
        s.processors = s.processors := by
      split_ifs with hmake
      · rw [joined, if_pos (hmake ▸ hmem)]
      · rfl
    rw [if_pos (processor?_isSome_iff.2 hmem), hjoined]
    exact ⟨feed_of_distinct hs, feed_ne_kindMismatch⟩
  -- The processor that is made is the only one of its kind, so the source finds it at the end.
  · have hmake := h.resolve_left hmem
    have hjoined : joined (some (make ())) s.processors = s.processors ++ [make ()] := by
      rw [joined, if_neg (hmake ▸ hmem)]
    have hpush : Distinct (s.processors ++ [make ()]) := hjoined ▸ distinct_joined hs _
    rw [if_neg (mt processor?_isSome_iff.1 hmem), if_pos hmake, if_pos hmake, hjoined]
    exact ⟨feed_of_distinct hpush, feed_ne_kindMismatch⟩

theorem addWith_of_not_fed {make : Unit → Processor}
    (h : source.kind ∉ s.processors.map Processor.kind) (hmake : (make ()).kind ≠ source.kind) :
    s.addWith make source = (.error (.kindMismatch source.kind (make ()).kind), s) := by
  rw [addWith, if_neg (mt processor?_isSome_iff.1 h)]
  exact if_neg hmake

theorem addWith_options (make : Unit → Processor) (source : Source) (s : Session) :
    (s.addWith make source).2.options = s.options := by
  unfold addWith
  split_ifs
  · rfl
  · by_cases hmake : (make ()).kind = source.kind
    · rw [if_pos hmake]
      rfl
    · rw [if_neg hmake]

theorem run_options (call : Call) (s : Session) : (call.run s).2.options = s.options := by
  rcases call with p | source | ⟨make, source⟩
  · rw [Call.run, register]
    split_ifs <;> rfl
  · exact addWith_options _ source s
  · exact addWith_options make source s

/-- A call brings a processor, unless there is one of its kind, and then a source, which only the
processor of its kind takes. -/
structure Step (s : Session) (call : Call) : Prop where
  options : (call.run s).2.options = s.options
  processors : (call.run s).2.processors =
    (joined (call.initial? s.options) s.processors).map
      (feedAll s.options.files (Call.fed? (call, (call.run s).1)).toList)
  kinds : ∀ source ∈ Call.fed? (call, (call.run s).1),
    source.kind ∈ (joined (call.initial? s.options) s.processors).map Processor.kind

theorem step_register (p : Processor) (s : Session) : Step s (.register p) where
  options := run_options _ s
  processors := (register_processors p s).trans (List.map_id' _).symm
  kinds := nofun

theorem step_add (hs : Distinct s.processors) (source : Source) : Step s (.add source) where
  options := run_options _ s
  processors := by
    have hkind := kind_ofKind s.options source.kind
    have hfed := (addWith_of_fed hs (fun _ => .ofKind s.options source.kind) (.inr hkind)).1
    rw [Call.initial?, if_pos hkind] at hfed
    exact hfed
  kinds other hother := by
    cases hother
    exact mem_kinds_joined.2 (.inr ⟨_, rfl, kind_ofKind s.options source.kind⟩)

theorem step_addWith (hs : Distinct s.processors) (make : Unit → Processor) (source : Source) :
    Step s (.addWith make source) := by
  by_cases h : source.kind ∈ s.processors.map Processor.kind ∨ (make ()).kind = source.kind
  · obtain ⟨hfed, hreply⟩ := addWith_of_fed hs make h
    have hsome : Call.fed? (.addWith make source, (s.addWith make source).1) = some source :=
      if_neg (hreply _ _)
    refine ⟨run_options _ s, ?_, fun other hother => ?_⟩
    · rw [Call.run, hsome]
      exact hfed
    · rw [Call.run, hsome] at hother
      cases hother
      exact mem_kinds_joined.2 (h.imp_right fun hmake => ⟨make (), if_pos hmake, hmake⟩)
  · obtain ⟨hmem, hmake⟩ := not_or.1 h
    have hrun := addWith_of_not_fed hmem hmake
    have hnone : Call.fed? (.addWith make source, (s.addWith make source).1) = none := by
      rw [hrun]
      exact if_pos rfl
    refine ⟨run_options _ s, ?_, ?_⟩
    · rw [Call.run, hnone, hrun, Call.initial?, if_neg hmake]
      exact (List.map_id' _).symm
    · rw [Call.run, hnone]
      exact nofun

theorem step (hs : Distinct s.processors) : ∀ call, Step s call
  | .register p => step_register p s
  | .add source => step_add hs source
  | .addWith make source => step_addWith hs make source

/-! ## What all calls do -/

/-- The processors are the first of each kind, fed with sources, and no source is of a kind that did
not come. -/
structure Product (options : SessionOptions) (initials : List Processor) (sources : List Source)
    (s : Session) : Prop where
  settings : s.options = options
  processors : s.processors =
    (firstOfEachKind initials).map (feedAll options.files sources)
  kinds : ∀ source ∈ sources, source.kind ∈ (firstOfEachKind initials).map Processor.kind

variable {options : SessionOptions} {initials : List Processor} {sources : List Source}

theorem Product.distinct (h : Product options initials sources s) : Distinct s.processors := by
  rw [Distinct, h.processors, kinds_map_feedAll]
  exact distinct_firstOfEachKind initials

theorem Product.run (h : Product options initials sources s) (call : Call) :
    Product options (initials ++ (call.initial? options).toList)
      (sources ++ (Call.fed? (call, (call.run s).1)).toList) (call.run s).2 := by
  have hstep := step h.distinct call
  have hjoined := joined_map_feedAll options.files h.kinds (call.initial? options)
  have hprocessors := hstep.processors
  have hkinds := hstep.kinds
  rw [h.settings, h.processors, hjoined] at hprocessors hkinds
  rw [kinds_map_feedAll] at hkinds
  refine ⟨hstep.options.trans h.settings, ?_, fun source hsource => ?_⟩
  · rw [firstOfEachKind_append_toList, hprocessors, List.map_map]
    exact List.map_congr_left fun p _ => (feedAll_append options.files sources _ p).symm
  · rw [firstOfEachKind_append_toList]
    rcases List.mem_append.1 hsource with hsource | hsource
    · exact mem_kinds_joined.2 (.inl (h.kinds source hsource))
    · exact hkinds source (Option.mem_toList.1 hsource)

theorem finish_eq_ok_iff {resolved : ResolvedSession} :
    s.finish.1 = .ok resolved ↔ finishAll s.processors = (.ok (), resolved.processors) := by
  rw [finish]
  rcases finishAll s.processors with ⟨e | _, ps⟩
  · exact iff_of_false nofun nofun
  · constructor
    · intro h
      cases h
      rfl
    · intro h
      cases h
      rfl

/-- After any calls, by induction on the last one. -/
theorem product_after (options : SessionOptions) (calls : List Call) :
    Product options (calls.filterMap (Call.initial? options))
      ((transcript calls (.new options)).filterMap Call.fed?) (after calls (.new options)) := by
  induction calls using List.reverseRecOn with
  | nil => exact ⟨rfl, rfl, nofun⟩
  | append_singleton calls call ih =>
    have hrun := ih.run call
    rw [← after_concat] at hrun
    rw [transcript_concat, List.filterMap_append, List.filterMap_append]
    rcases hi : call.initial? options with _ | p <;>
      rcases hf : Call.fed? (call, (call.run (after calls (.new options))).1) with _ | source <;>
      simpa [hi, hf] using hrun

/-- The session by its parts: of all sources, a processor only shows those of its kind. -/
theorem after_eq (options : SessionOptions) (calls : List Call) :
    after calls (.new options) =
      ⟨(firstOfEachKind (calls.filterMap (Call.initial? options))).map fun p =>
        p.feedAll options.files (fedOf p.kind calls (.new options)), options⟩ := by
  have h := product_after options calls
  have hprocessors : (after calls (.new options)).processors =
      (firstOfEachKind (calls.filterMap (Call.initial? options))).map fun p =>
        p.feedAll options.files (fedOf p.kind calls (.new options)) :=
    h.processors.trans (List.map_congr_left fun p _ => feedAll_eq_filter options.files _ p)
  calc after calls (.new options)
      = ⟨(after calls (.new options)).processors, (after calls (.new options)).options⟩ := rfl
    _ = _ := by rw [hprocessors, h.settings]

/-- What any calls leave, successful or not, is the product of processors that know nothing of each
other: one for each kind, in the order in which the kinds came, each fed alone with the sources of
its kind. Calls that bring the same first processors and the same sources of each kind leave equal
sessions. Processors never have two texts, neither in a session, nor in one that is resolved, nor
after types were added. -/
theorem processors_after (options : SessionOptions) (calls : List Call) :
    let s := after calls (.new options)
    let firsts := firstOfEachKind (calls.filterMap (Call.initial? options))
    (s.processors.map Processor.kind).Nodup ∧
      (s.processors = firsts.map fun p =>
        p.feedAll options.files (fedOf p.kind calls (.new options))) ∧
      (∀ calls', firstOfEachKind (calls'.filterMap (Call.initial? options)) = firsts →
        (∀ kind, fedOf kind calls' (.new options) = fedOf kind calls (.new options)) →
        after calls' (.new options) = s) ∧
      Processor.singleTextOfAll s.processors ≠ .error .multipleSchemas ∧
      ∀ resolved, s.finish.1 = .ok resolved → ∀ later, resolved.Becomes later →
        Processor.singleTextOfAll later.processors ≠ .error .multipleSchemas := by
  have hdistinct := (product_after options calls).distinct
  refine ⟨hdistinct, congrArg processors (after_eq options calls), fun calls' hfirsts hfed => ?_,
    hdistinct.singleTextOfAll_ne, fun resolved hresolved later hlater => ?_⟩
  · rw [after_eq, after_eq, hfirsts]
    simp only [hfed]
  · have hkinds := kinds_finishAll (after calls (.new options)).processors
    rw [finish_eq_ok_iff.1 hresolved] at hkinds
    have hlast : Distinct later.processors := by
      rw [Distinct, hlater.kinds, hkinds]
      exact hdistinct
    exact hlast.singleTextOfAll_ne

/-- Samples come before a schema, whose first call brings a processor of the wrong kind. Refused are
also a second processor for samples and samples without a name. -/
def mingled : List Call :=
  [.addWith (fun _ => .samples .empty) (.schema ⟨"Root", none, some "{}", none⟩),
    .add (.samples ⟨"Count", [.text "1"], none⟩),
    .add (.schema ⟨"Item", none, some "true", none⟩),
    .register (.samples .empty),
    .add (.samples ⟨"", [.text "2"], none⟩)]

/-- The same sources, but the samples come after the schema. -/
def sorted : List Call :=
  [.register (.samples .empty),
    .add (.schema ⟨"Item", none, some "true", none⟩),
    .add (.samples ⟨"Count", [.text "1"], none⟩),
    .add (.samples ⟨"", [.text "2"], none⟩)]

theorem processors_after_mingled :
    let options : SessionOptions := ⟨none, [], fun _ => none⟩
    (transcript mingled (.new options)).map (·.2) =
        [.error (.kindMismatch .schema .samples), .ok (), .ok (), .error (.duplicate .samples),
          .error (.emptyName .samples)] ∧
      after sorted (.new options) = after mingled (.new options) ∧
      (after mingled (.new options)).processors.map Processor.kind = [.samples, .schema] := by
  intro options
  have hfed : ∀ kind, fedOf kind sorted (.new options) = fedOf kind mingled (.new options) := by
    rintro (_ | _) <;> rfl
  obtain ⟨-, hprocessors, hsame, -⟩ := processors_after options mingled
  refine ⟨by decide +kernel, hsame sorted rfl hfed, ?_⟩
  rw [hprocessors, List.map_map]
  exact List.map_congr_left fun p _ => kind_feedAll options.files _ p

end Session

end JsonTypes
