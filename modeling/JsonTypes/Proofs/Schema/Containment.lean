import Mathlib.Tactic.Common
import JsonTypes.Schema.FileStore

/-!
# A file store stays beneath its base

There are two ways to a path. That of a file URL must start with the components of the base, and any
other address is joined to the base, without the slashes in front. In both no component is a parent,
and none behind the first is a root, so what comes behind the base only leads further in
(`FileStore.beneath_of_resolvePath`). All that is ever read is the file at this path
(`FileStore.fetch_contained`).
-/

namespace JsonTypes

namespace FilePath

variable {base p : FilePath} {c : Component}

theorem steps_append_slash (before behind : List UInt8) :
    steps ⟨before ++ slash :: behind⟩ = steps ⟨before⟩ ++ steps ⟨behind⟩ := by
  simp only [steps, parts, Text.splitOn_eq, List.splitOn_append_cons_self, List.filterMap_append]

theorem components_of_isAbsolute (h : p.isAbsolute) : p.components = .root :: p.steps := by
  rw [components, start, if_pos h]
  rfl

/-- The root is only where a path starts. -/
theorem ne_root_of_mem_steps (h : c ∈ p.steps) : c ≠ .root := by
  obtain ⟨part, -, hpart⟩ := List.mem_filterMap.1 h
  unfold component? at hpart
  split_ifs at hpart <;> cases hpart <;> exact nofun

theorem ne_parent_of_mem_steps (hp : p.hasParent = false) (h : c ∈ p.steps) : c ≠ .parent := by
  rintro rfl
  have hmem : .parent ∈ p.components := List.mem_append_right _ h
  rw [hasParent, List.contains_iff_mem.2 hmem] at hp
  cases hp

theorem not_isAbsolute_relative (p : FilePath) : p.relative.isAbsolute = false := by
  unfold relative isAbsolute
  rcases hrest : p.bytes.dropWhile (· = slash) with _ | ⟨b, rest⟩
  · rfl
  · have hb := List.head?_dropWhile_not (· = slash) p.bytes
    rw [hrest] at hb
    simpa using hb

theorem isAbsolute_join (h : base.isAbsolute) : (base.join p).isAbsolute := by
  unfold join
  split_ifs with hp
  · exact hp
  all_goals
    simp only [isAbsolute, decide_eq_true_eq] at h ⊢
    rw [List.head?_append, h]
    rfl

theorem steps_join (hp : p.isAbsolute = false) : (base.join p).steps = base.steps ++ p.steps := by
  have hnil : steps ⟨[]⟩ = [] := rfl
  rw [join, if_neg (by simp [hp])]
  split_ifs with hend
  · obtain ⟨bytes⟩ := base
    rcases hend with rfl | hlast
    · rw [hnil]
      rfl
    · obtain ⟨before, rfl⟩ := List.getLast?_eq_some_iff.1 hlast
      rw [steps_append_slash before [], hnil, List.append_nil, ← steps_append_slash]
      simp
  · exact steps_append_slash base.bytes p.bytes

theorem exists_of_startsWith (hbase : base.isAbsolute) (h : p.startsWith base) :
    ∃ inner, p.components = base.components ++ inner ∧ ∀ c ∈ inner, c ∈ p.steps := by
  obtain ⟨inner, hinner⟩ := List.isPrefixOf_iff_prefix.1 h
  refine ⟨inner, hinner.symm, fun c hc => ?_⟩
  rw [components_of_isAbsolute hbase, List.cons_append] at hinner
  -- The path has a root too, and what comes behind that is the rest of both.
  have htail : p.components.tail = base.steps ++ inner := by rw [← hinner]; rfl
  have hsub : p.components.tail ⊆ p.steps := by
    unfold components start
    split_ifs
    · exact List.Subset.refl _
    · exact List.Subset.refl _
    · exact (List.tail_sublist _).subset
  exact hsub (htail ▸ List.mem_append_right _ hc)

end FilePath

namespace FileStore

open FilePath

variable {base path : FilePath} {id : DocumentId}

/-- The path is the base with components behind it that only lead further in. -/
def Beneath (base path : FilePath) : Prop :=
  ∃ inner, path.components = base.components ++ inner ∧ ∀ c ∈ inner, c ≠ .root ∧ c ≠ .parent

theorem beneath_of_startsWith (hbase : base.isAbsolute) (hparent : path.hasParent = false)
    (h : path.startsWith base) : Beneath base path := by
  obtain ⟨inner, hinner, hsteps⟩ := exists_of_startsWith hbase h
  exact ⟨inner, hinner, fun c hc =>
    ⟨ne_root_of_mem_steps (hsteps c hc), ne_parent_of_mem_steps hparent (hsteps c hc)⟩⟩

theorem beneath_join (hbase : base.isAbsolute) {p : FilePath} (hp : p.isAbsolute = false)
    (hparent : p.hasParent = false) : Beneath base (base.join p) := by
  refine ⟨p.steps, ?_, fun c hc => ⟨ne_root_of_mem_steps hc, ne_parent_of_mem_steps hparent hc⟩⟩
  rw [components_of_isAbsolute (isAbsolute_join hbase), components_of_isAbsolute hbase, steps_join hp]
  rfl

theorem beneath_of_resolvePath (hbase : base.isAbsolute)
    (h : resolvePath base id = .ok (some path)) : Beneath base path := by
  unfold resolvePath at h
  split_ifs at h
  · cases h
  rcases hurl : Url.parse? id.text with _ | url <;> simp only [hurl] at h
  · split_ifs at h with hparent
    cases h
    exact beneath_join hbase (not_isAbsolute_relative _) (by simpa using hparent)
  · split_ifs at h
    · cases h
    rcases hfile : url.filePath? with _ | p <;> simp only [hfile] at h
    · cases h
    · split_ifs at h with hout
      cases h
      simp only [not_or, Bool.not_eq_true, Bool.not_eq_false] at hout
      exact beneath_of_startsWith hbase hout.1 hout.2

/-- Whatever the address, all that a store with an absolute base reads is the file at its path, which
is the base with components behind it of which none is a parent or a root. An address without a path
it answers with nothing, or with an error, and reads no file. -/
theorem fetch_contained (hbase : base.isAbsolute) (id : DocumentId) :
    (∃ path, resolvePath base id = .ok (some path) ∧ Beneath base path ∧
      ∀ (m : Type → Type) [Monad m] (read : FilePath → m (Except FileTree.ReadError String)),
        fetchWith read base id = do return answer id (← read path)) ∨
    ∃ refusal : Except SchemaError (Option Json),
      (resolvePath base id = .ok none ∧ refusal = .ok none ∨
        ∃ e, resolvePath base id = .error e ∧ refusal = .error e) ∧
      ∀ (m : Type → Type) [Monad m] (read : FilePath → m (Except FileTree.ReadError String)),
        fetchWith read base id = pure refusal := by
  rcases h : resolvePath base id with e | _ | path
  · refine .inr ⟨.error e, .inr ⟨e, rfl, rfl⟩, fun m _ read => ?_⟩
    rw [fetchWith, h]
  · refine .inr ⟨.ok none, .inl ⟨rfl, rfl⟩, fun m _ read => ?_⟩
    rw [fetchWith, h]
  · refine .inl ⟨path, rfl, beneath_of_resolvePath hbase h, fun m _ read => ?_⟩
    rw [fetchWith, h]

def schemas : FilePath := .ofText "/srv/schemas"

/-- An encoded slash separates names, slashes at the start do not lead to the root, a parent may be
encoded, and a name may begin like that of the base. -/
theorem fetch_contained_encoded : schemas.isAbsolute ∧
    (∀ address ∈ ["file:///srv/schemas%2Fa.json", "//a.json", "./a.json"],
      ∃ path, resolvePath schemas ⟨address⟩ = .ok (some path) ∧ Beneath schemas path) ∧
    ∀ address ∈ ["file:///srv/schemas/..%2Fa.json", "file:///srv/schemas2/a.json", "a/../b"],
      ∃ e, resolvePath schemas ⟨address⟩ = .error e ∧
        ∀ read : FilePath → Id (Except FileTree.ReadError String),
          fetchWith read schemas ⟨address⟩ = pure (.error e) := by
  have habsolute : schemas.isAbsolute := by decide +kernel
  refine ⟨habsolute, fun address ha => ?_, fun address ha => ?_⟩
  · have hpath : ∃ path, resolvePath schemas ⟨address⟩ = .ok (some path) := by
      simp only [List.mem_cons, List.not_mem_nil, or_false] at ha
      rcases ha with rfl | rfl | rfl
      · exact ⟨.ofText "/srv/schemas/a.json", by decide +kernel⟩
      · exact ⟨.ofText "/srv/schemas/a.json", by decide +kernel⟩
      · exact ⟨.ofText "/srv/schemas/./a.json", by decide +kernel⟩
    obtain ⟨path, hpath⟩ := hpath
    rcases fetch_contained habsolute ⟨address⟩ with ⟨path', hpath', hbeneath, -⟩ |
      ⟨_, ⟨hnone, -⟩ | ⟨e, he, -⟩, -⟩
    · exact ⟨path', hpath', hbeneath⟩
    · cases hpath.symm.trans hnone
    · cases hpath.symm.trans he
  · have hpath : (resolvePath schemas ⟨address⟩).toOption = none := by
      simp only [List.mem_cons, List.not_mem_nil, or_false] at ha
      rcases ha with rfl | rfl | rfl <;> decide +kernel
    rcases fetch_contained habsolute ⟨address⟩ with ⟨path, hsome, -⟩ |
      ⟨_, ⟨hnone, -⟩ | ⟨e, he, rfl⟩, hread⟩
    · rw [hsome] at hpath
      cases hpath
    · rw [hnone] at hpath
      cases hpath
    · exact ⟨e, he, hread Id⟩

end FileStore

end JsonTypes
