import JsonTypes.Proofs.Graph.Recorded
import JsonTypes.Temporal

/-!
# Values of a type

Which values a type of a graph has (`Conforms`). Types may lead back to themselves, so this is the
least relation that the nodes describe. A reading says what is left open: whether an object may
have members that its type does not list, and which strings have a format.

A graph that only grows keeps the values of its types (`Conforms.mono`), so whether a node accepts
a value can be said before the node has a type (`Accepts`).
-/

namespace JsonTypes

/-- How types are read. -/
structure Reading where
  /-- An object has no members but those that its type lists. -/
  closed : Prop
  hasFormat : StringFormat → String → Prop

/-- Objects have only the listed members, and strings have the format that is detected in them. -/
def Reading.strict : Reading := ⟨True, fun f s => Temporal.detectFormat s = some f⟩

/-- Objects may have other members than the listed ones. -/
def Reading.lax (hasFormat : StringFormat → String → Prop) : Reading := ⟨False, hasFormat⟩

/-- The values of a type. -/
inductive Conforms (R : Reading) (g : Graph) : Json → TypeRef → Prop
  | any {v t} : g.node? t = some .any → Conforms R g v t
  | null {t} : g.node? t = some .null → Conforms R g .null t
  | bool {b t} : g.node? t = some .bool → Conforms R g (.bool b) t
  | integer {i t} : g.node? t = some .integer → Conforms R g (.number (.integer i)) t
  | double {n t} : g.node? t = some .double → Conforms R g (.number n) t
  | string {s t} : g.node? t = some (.string none) → Conforms R g (.string s) t
  | format {s t f} : g.node? t = some (.string (some f)) → R.hasFormat f s →
      Conforms R g (.string s) t
  | enum {s t cases} : g.node? t = some (.enum cases) → s ∈ cases.toList →
      Conforms R g (.string s) t
  | array {xs t items} : g.node? t = some (.array items) → (∀ x ∈ xs, Conforms R g x items) →
      Conforms R g (.array xs) t
  | object {members t properties} : g.node? t = some (.object properties) →
      (R.closed → ∀ k ∈ Entries.keys members, ∃ p, properties.get? k = some p) →
      (∀ k x p, (k, x) ∈ members → properties.get? k = some p → Conforms R g x p.type) →
      (∀ k p, properties.get? k = some p → p.optional = false → k ∈ Entries.keys members) →
      Conforms R g (.object members) t
  | map {members t values} : g.node? t = some (.map values) →
      (∀ k x, (k, x) ∈ members → Conforms R g x values) → Conforms R g (.object members) t
  | union {v t members m} : g.node? t = some (.union members) → m ∈ members.toList →
      Conforms R g v m → Conforms R g v t

theorem Conforms.mono {R : Reading} {g g' : Graph} (hg : g.Extends g') {v : Json} {t : TypeRef}
    (h : Conforms R g v t) : Conforms R g' v t := by
  induction h with
  | any ht => exact .any (hg _ _ ht)
  | null ht => exact .null (hg _ _ ht)
  | bool ht => exact .bool (hg _ _ ht)
  | integer ht => exact .integer (hg _ _ ht)
  | double ht => exact .double (hg _ _ ht)
  | string ht => exact .string (hg _ _ ht)
  | format ht hf => exact .format (hg _ _ ht) hf
  | enum ht hs => exact .enum (hg _ _ ht) hs
  | array ht _ ih => exact .array (hg _ _ ht) ih
  | object ht hclosed _ hrequired ih => exact .object (hg _ _ ht) hclosed ih hrequired
  | map ht _ ih => exact .map (hg _ _ ht) ih
  | union ht hm _ ih => exact .union (hg _ _ ht) hm ih

/-- Every type with this node has the value, now and whenever the graph has grown. -/
def Accepts (R : Reading) (g : Graph) (v : Json) (n : Node) : Prop :=
  ∀ g' t, g.Extends g' → g'.node? t = some n → Conforms R g' v t

namespace Accepts

variable {R : Reading} {g : Graph}

theorem mono {g' : Graph} (hg : g.Extends g') {v : Json} {n : Node} (h : Accepts R g v n) :
    Accepts R g' v n :=
  fun g'' t hg' ht => h g'' t (hg.trans hg') ht

theorem conforms {v : Json} {n : Node} (h : Accepts R g v n) {t : TypeRef}
    (ht : g.node? t = some n) : Conforms R g v t :=
  h g t (.refl g) ht

theorem any (v : Json) : Accepts R g v .any := fun _ _ _ ht => .any ht

theorem array {xs : List Json} {items : TypeRef} (h : ∀ x ∈ xs, Conforms R g x items) :
    Accepts R g (.array xs) (.array items) :=
  fun _ _ hg ht => .array ht fun x hx => (h x hx).mono hg

theorem object {members : List (String × Json)} {properties : SortedMap String Property}
    (hclosed : R.closed → ∀ k ∈ Entries.keys members, ∃ p, properties.get? k = some p)
    (h : ∀ k x p, (k, x) ∈ members → properties.get? k = some p → Conforms R g x p.type)
    (hrequired : ∀ k p, properties.get? k = some p → p.optional = false →
      k ∈ Entries.keys members) :
    Accepts R g (.object members) (.object properties) :=
  fun _ _ hg ht => .object ht hclosed (fun k x p hx hp => (h k x p hx hp).mono hg) hrequired

theorem map {members : List (String × Json)} {values : TypeRef}
    (h : ∀ k x, (k, x) ∈ members → Conforms R g x values) :
    Accepts R g (.object members) (.map values) :=
  fun _ _ hg ht => .map ht fun k x hx => (h k x hx).mono hg

theorem union {v : Json} {members : List TypeRef} {m : TypeRef} (hm : m ∈ members)
    (h : Conforms R g v m) : Accepts R g v (.union (.ofList members)) :=
  fun _ _ hg ht => .union ht (SortedSet.mem_ofList.2 hm) (h.mono hg)

end Accepts

end JsonTypes
