import JsonTypes.Decimal.Double
import JsonTypes.Entries

/-!
# JSON values

A number is an integer where its text is one and fits 64 bits, signed or unsigned, and a double
otherwise. The members of an object keep the order in which their keys first came, and an object
that was read has one member for each key (`Json.KeysDistinct`). Two objects that only differ in
this order are the same value (`Json.Same`).
-/

namespace JsonTypes

inductive Number where
  | integer (value : Int)
  | double (value : Double)
deriving DecidableEq, Repr

inductive Json where
  | null
  | bool (value : Bool)
  | number (value : Number)
  | string (value : String)
  | array (items : List Json)
  | object (members : List (String × Json))
deriving Repr

namespace Json

/-- What a value is called when it stands where something else was wanted. -/
def kindName : Json → String
  | null => "null"
  | bool _ => "boolean"
  | number _ => "number"
  | string _ => "string"
  | array _ => "array"
  | object _ => "object"

def int (n : Int) : Json := number (.integer n)

/-- The member of an object under a key. -/
def member? : Json → String → Option Json
  | object members, key => Entries.get? members key
  | _, _ => none

def string? : Json → Option String
  | string s => some s
  | _ => none

def array? : Json → Option (List Json)
  | array items => some items
  | _ => none

def object? : Json → Option (List (String × Json))
  | object members => some members
  | _ => none

mutual

/-- No object inside the value has two members of one key. -/
def KeysDistinct : Json → Prop
  | array items => KeysDistinctAll items
  | object members => (members.map (·.1)).Nodup ∧ KeysDistinctMembers members
  | _ => True

def KeysDistinctAll : List Json → Prop
  | [] => True
  | v :: rest => KeysDistinct v ∧ KeysDistinctAll rest

def KeysDistinctMembers : List (String × Json) → Prop
  | [] => True
  | (_, v) :: rest => KeysDistinct v ∧ KeysDistinctMembers rest

end

theorem keysDistinctAll_iff {items : List Json} :
    KeysDistinctAll items ↔ ∀ v ∈ items, v.KeysDistinct := by
  induction items with
  | nil => simp [KeysDistinctAll]
  | cons v rest ih => simp [KeysDistinctAll, ih]

theorem keysDistinctMembers_iff {members : List (String × Json)} :
    KeysDistinctMembers members ↔ ∀ e ∈ members, e.2.KeysDistinct := by
  induction members with
  | nil => simp [KeysDistinctMembers]
  | cons e rest ih => simp [KeysDistinctMembers, ih]

/-- Equality up to the order in which objects have their members. -/
inductive Same : Json → Json → Prop
  | refl (v) : Same v v
  | array {xs ys : List Json} : xs.length = ys.length →
      (∀ (i : Nat) (x y : Json), xs[i]? = some x → ys[i]? = some y → Same x y) →
      Same (.array xs) (.array ys)
  | object {ms ns : List (String × Json)} : (∀ k, k ∈ Entries.keys ms ↔ k ∈ Entries.keys ns) →
      (∀ k x y, Entries.get? ms k = some x → Entries.get? ns k = some y → Same x y) →
      Same (.object ms) (.object ns)

mutual

def decEq : (a b : Json) → Decidable (a = b)
  | null, null => isTrue rfl
  | bool x, bool y =>
    if h : x = y then isTrue (h ▸ rfl) else isFalse fun e => h (Json.bool.inj e)
  | number x, number y =>
    if h : x = y then isTrue (h ▸ rfl) else isFalse fun e => h (Json.number.inj e)
  | string x, string y =>
    if h : x = y then isTrue (h ▸ rfl) else isFalse fun e => h (Json.string.inj e)
  | array xs, array ys =>
    match decEqAll xs ys with
    | isTrue h => isTrue (h ▸ rfl)
    | isFalse h => isFalse fun e => h (Json.array.inj e)
  | object xs, object ys =>
    match decEqMembers xs ys with
    | isTrue h => isTrue (h ▸ rfl)
    | isFalse h => isFalse fun e => h (Json.object.inj e)
  | null, bool _ | null, number _ | null, string _ | null, array _ | null, object _
  | bool _, null | bool _, number _ | bool _, string _ | bool _, array _ | bool _, object _
  | number _, null | number _, bool _ | number _, string _ | number _, array _
  | number _, object _ | string _, null | string _, bool _ | string _, number _
  | string _, array _ | string _, object _ | array _, null | array _, bool _
  | array _, number _ | array _, string _ | array _, object _ | object _, null
  | object _, bool _ | object _, number _ | object _, string _ | object _, array _ =>
    isFalse nofun

def decEqAll : (a b : List Json) → Decidable (a = b)
  | [], [] => isTrue rfl
  | [], _ :: _ | _ :: _, [] => isFalse nofun
  | x :: xs, y :: ys =>
    match decEq x y with
    | isFalse h => isFalse fun e => h (List.cons.inj e).1
    | isTrue h =>
      match decEqAll xs ys with
      | isTrue h' => isTrue (h ▸ h' ▸ rfl)
      | isFalse h' => isFalse fun e => h' (List.cons.inj e).2

def decEqMembers : (a b : List (String × Json)) → Decidable (a = b)
  | [], [] => isTrue rfl
  | [], _ :: _ | _ :: _, [] => isFalse nofun
  | (k, x) :: xs, (l, y) :: ys =>
    if hk : k = l then
      match decEq x y with
      | isFalse h => isFalse fun e => h (Prod.mk.inj (List.cons.inj e).1).2
      | isTrue h =>
        match decEqMembers xs ys with
        | isTrue h' => isTrue (hk ▸ h ▸ h' ▸ rfl)
        | isFalse h' => isFalse fun e => h' (List.cons.inj e).2
    else isFalse fun e => hk (Prod.mk.inj (List.cons.inj e).1).1

end

instance : DecidableEq Json := decEq

end Json

end JsonTypes
