import JsonTypes.Schema.Plan
import Mathlib.Data.List.Forall2
import Mathlib.Tactic.Common

/-!
# What plans make of their answers

A plan yields a result from answers if some run of answers leads there (`Plan.Yields`). Sequencing
plans sequences what they yield (`Plan.yields_bind`), so what each plan for a node yields can be
read off its steps.
-/

namespace List

variable {α β : Type} {R : α → β → Prop} {as : List α} {bs : List β}

theorem Forall₂.exists_of_mem_left (h : Forall₂ R as bs) {a : α} (ha : a ∈ as) :
    ∃ b ∈ bs, R a b := by
  induction h with
  | nil => cases ha
  | cons hab _ ih =>
    rcases mem_cons.1 ha with rfl | ha
    · exact ⟨_, mem_cons_self, hab⟩
    · obtain ⟨b, hb, hr⟩ := ih ha
      exact ⟨b, mem_cons_of_mem _ hb, hr⟩

theorem Forall₂.exists_of_mem_right (h : Forall₂ R as bs) {b : β} (hb : b ∈ bs) :
    ∃ a ∈ as, R a b :=
  Forall₂.exists_of_mem_left h.flip hb

end List

namespace JsonTypes.Materialize

/-- Answers to the questions of plans. -/
structure Answers where
  type : Location → TypeRef → Prop
  schema : Location → Location × Json → Prop
  shared : Node → TypeRef → Prop

/-- Every answer is still one. -/
structure Answers.Extends (A B : Answers) : Prop where
  type : ∀ l t, A.type l t → B.type l t
  schema : ∀ l s, A.schema l s → B.schema l s
  shared : ∀ n t, A.shared n t → B.shared n t

namespace Plan

/-- Some answers lead to the result. -/
inductive Yields (A : Answers) {α : Type} : Plan α → α → Prop
  | done (a) : Yields A (.done a) a
  | typeAt {l next t a} : A.type l t → Yields A (next t) a → Yields A (.typeAt l next) a
  | schemaBehind {l next s a} : A.schema l s → Yields A (next s) a →
      Yields A (.schemaBehind l next) a
  | share {n next t a} : A.shared n t → Yields A (next t) a → Yields A (.share n next) a

variable {A : Answers} {α β : Type}

theorem Yields.mono {B : Answers} (h : A.Extends B) {p : Plan α} {a : α} (hp : Yields A p a) :
    Yields B p a := by
  induction hp with
  | done a => exact .done a
  | typeAt ht _ ih => exact .typeAt (h.type _ _ ht) ih
  | schemaBehind hs _ ih => exact .schemaBehind (h.schema _ _ hs) ih
  | share hn _ ih => exact .share (h.shared _ _ hn) ih

theorem yields_done {a b : α} : Yields A (.done a) b ↔ a = b := by
  constructor
  · rintro ⟨⟩
    rfl
  · rintro rfl
    exact .done a

theorem yields_pure {a b : α} : Yields A (pure a) b ↔ a = b := yields_done

theorem yields_bind {p : Plan α} {f : α → Plan β} {b : β} :
    Yields A (p >>= f) b ↔ ∃ a, Yields A p a ∧ Yields A (f a) b := by
  constructor
  · intro h
    induction p with
    | done a => exact ⟨a, .done a, h⟩
    | fail e => cases h
    | typeAt l next ih =>
      rcases h with _ | ⟨ht, h⟩
      obtain ⟨a, ha, hb⟩ := ih _ h
      exact ⟨a, .typeAt ht ha, hb⟩
    | schemaBehind l next ih =>
      rcases h with _ | _ | ⟨hs, h⟩
      obtain ⟨a, ha, hb⟩ := ih _ h
      exact ⟨a, .schemaBehind hs ha, hb⟩
    | share n next ih =>
      rcases h with _ | _ | _ | ⟨hn, h⟩
      obtain ⟨a, ha, hb⟩ := ih _ h
      exact ⟨a, .share hn ha, hb⟩
  · rintro ⟨a, hp, hf⟩
    induction hp with
    | done a => exact hf
    | typeAt ht _ ih => exact .typeAt ht (ih hf)
    | schemaBehind hs _ ih => exact .schemaBehind hs (ih hf)
    | share hn _ ih => exact .share hn (ih hf)

theorem yields_askType {l : Location} {t : TypeRef} : Yields A (askType l) t ↔ A.type l t := by
  constructor
  · rintro ⟨⟩
    rename_i ht h
    cases h
    exact ht
  · exact fun h => .typeAt h (.done t)

theorem yields_askSchema {l : Location} {s : Location × Json} :
    Yields A (askSchema l) s ↔ A.schema l s := by
  constructor
  · rintro ⟨⟩
    rename_i hs h
    cases h
    exact hs
  · exact fun h => .schemaBehind h (.done s)

theorem yields_askShared {n : Node} {t : TypeRef} : Yields A (askShared n) t ↔ A.shared n t := by
  constructor
  · rintro ⟨⟩
    rename_i hn h
    cases h
    exact hn
  · exact fun h => .share h (.done t)

theorem yields_ofExcept {x : Except SchemaError α} {a : α} :
    Yields A (ofExcept x) a ↔ x = .ok a := by
  rcases x with e | b
  · exact ⟨nofun, nofun⟩
  · rw [ofExcept, yields_done, Except.ok.injEq]

theorem yields_askEach {ask : α → Plan β} {R : α → β → Prop}
    (h : ∀ a b, Yields A (ask a) b ↔ R a b) :
    ∀ {as : List α} {bs : List β}, Yields A (askEach ask as) bs ↔ List.Forall₂ R as bs
  | [], bs => by
    rw [askEach, yields_pure, List.forall₂_nil_left_iff, eq_comm]
  | a :: rest, bs => by
    simp only [askEach, yields_bind, h, yields_askEach h, yields_pure, List.forall₂_cons_left_iff]
    constructor
    · rintro ⟨b, hb, bs', hbs, rfl⟩
      exact ⟨b, bs', hb, hbs, rfl⟩
    · rintro ⟨b, bs', hb, hbs, rfl⟩
      exact ⟨b, hb, bs', hbs, rfl⟩

theorem yields_askTypes {ls : List Location} {ts : List TypeRef} :
    Yields A (askEach askType ls) ts ↔ List.Forall₂ A.type ls ts :=
  yields_askEach fun _ _ => yields_askType

theorem yields_askAllShared {ns : List Node} {ts : List TypeRef} :
    Yields A (askEach askShared ns) ts ↔ List.Forall₂ A.shared ns ts :=
  yields_askEach fun _ _ => yields_askShared

end Plan

end JsonTypes.Materialize
