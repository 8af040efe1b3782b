import CrmAutomation.Value.Key

/-!
The data that flows carry: payloads, rows, parameters and results are trees of these values.

An object keeps its keys in the order of their first insertion, and no key twice.
-/

namespace CrmAutomation

open Numeric

/-- A datum. Whole numbers are unlimited and distinct from doubles. -/
inductive Value where
  | null
  | bool (b : Bool)
  | int (n : Int)
  | float (x : Binary64)
  | text (s : String)
  | list (items : List Value)
  | object (fields : List (Key × Value))
  deriving Repr, Inhabited

/-- The fields of an object in order. -/
abbrev Fields := List (Key × Value)

namespace Value

mutual

/-- Whether two values are the same tree. -/
def decEq : (a b : Value) → Decidable (a = b)
  | .null, .null => isTrue rfl
  | .bool a, .bool b => if h : a = b then isTrue (h ▸ rfl) else isFalse (by simp [h])
  | .int a, .int b => if h : a = b then isTrue (h ▸ rfl) else isFalse (by simp [h])
  | .float a, .float b => if h : a = b then isTrue (h ▸ rfl) else isFalse (by simp [h])
  | .text a, .text b => if h : a = b then isTrue (h ▸ rfl) else isFalse (by simp [h])
  | .list a, .list b =>
    match decEqList a b with
    | isTrue h => isTrue (h ▸ rfl)
    | isFalse h => isFalse (by simp [h])
  | .object a, .object b =>
    match decEqFields a b with
    | isTrue h => isTrue (h ▸ rfl)
    | isFalse h => isFalse (by simp [h])
  | .null, .bool _ | .null, .int _ | .null, .float _ | .null, .text _ | .null, .list _
  | .null, .object _
  | .bool _, .null | .bool _, .int _ | .bool _, .float _ | .bool _, .text _ | .bool _, .list _
  | .bool _, .object _
  | .int _, .null | .int _, .bool _ | .int _, .float _ | .int _, .text _ | .int _, .list _
  | .int _, .object _
  | .float _, .null | .float _, .bool _ | .float _, .int _ | .float _, .text _ | .float _, .list _
  | .float _, .object _
  | .text _, .null | .text _, .bool _ | .text _, .int _ | .text _, .float _ | .text _, .list _
  | .text _, .object _
  | .list _, .null | .list _, .bool _ | .list _, .int _ | .list _, .float _ | .list _, .text _
  | .list _, .object _
  | .object _, .null | .object _, .bool _ | .object _, .int _ | .object _, .float _
  | .object _, .text _ | .object _, .list _ => isFalse (by intro h; cases h)

def decEqList : (a b : List Value) → Decidable (a = b)
  | [], [] => isTrue rfl
  | x :: xs, y :: ys =>
    match decEq x y, decEqList xs ys with
    | isTrue h, isTrue h' => isTrue (by rw [h, h'])
    | isFalse h, _ => isFalse (by simp [h])
    | _, isFalse h => isFalse (by simp [h])
  | [], _ :: _ | _ :: _, [] => isFalse (by intro h; cases h)

def decEqFields : (a b : Fields) → Decidable (a = b)
  | [], [] => isTrue rfl
  | (k, x) :: xs, (l, y) :: ys =>
    if hk : k = l then
      match decEq x y, decEqFields xs ys with
      | isTrue h, isTrue h' => isTrue (by rw [hk, h, h'])
      | isFalse h, _ => isFalse (by simp [h])
      | _, isFalse h => isFalse (by simp [h])
    else isFalse (by simp [hk])
  | [], _ :: _ | _ :: _, [] => isFalse (by intro h; cases h)

end

instance : DecidableEq Value := decEq

/-- What counts as present: all but null, false, zero and the empty text, list and object. -/
def isTruthy : Value → Bool
  | .null => false
  | .bool b => b
  | .int n => n != 0
  | .float x => !x.isZero
  | .text s => !s.isEmpty
  | .list xs => !xs.isEmpty
  | .object fs => !fs.isEmpty

/-- The value if it counts as present, else another. -/
def orElse (v w : Value) : Value := if v.isTruthy then v else w

/-- A text, or null for none. -/
def ofText? : Option String → Value
  | some s => .text s
  | none => .null

def ofTexts (ss : List String) : Value := .list (ss.map .text)

end Value

namespace Fields

/-- The value under a key. -/
def find? (fs : Fields) (k : Key) : Option Value := (List.find? (·.1 == k) fs).map (·.2)

/-- The value under a key, null where there is none. -/
def get (fs : Fields) (k : Key) : Value := (fs.find? k).getD .null

def has (fs : Fields) (k : Key) : Bool := fs.any (·.1 == k)

/-- Sets a key, in its place if it has one and at the end if not. -/
def insert : Fields → Key → Value → Fields
  | [], k, v => [(k, v)]
  | (l, w) :: fs, k, v => if l == k then (k, v) :: fs else (l, w) :: insert fs k v

/-- Sets a key only where it is missing. -/
def insertNew (fs : Fields) (k : Key) (v : Value) : Fields :=
  if fs.has k then fs else fs.insert k v

/-- The second fields over the first: a key keeps its first place and takes its last value. -/
def merge (fs gs : Fields) : Fields := gs.foldl (fun acc p => acc.insert p.1 p.2) fs

/-- The fields of a list of pairs, the last value of each key. -/
def ofPairs (ps : List (Key × Value)) : Fields := merge [] ps

/-- The fields but one. -/
def without (fs : Fields) (k : Key) : Fields := fs.filter (·.1 != k)

@[simp] theorem find?_nil (k : Key) : find? [] k = none := rfl

theorem find?_cons (l k : Key) (w : Value) (fs : Fields) :
    find? ((l, w) :: fs) k = if l == k then some w else find? fs k := by
  simp only [find?, List.find?_cons]
  split <;> simp_all

theorem find?_insert (fs : Fields) (k l : Key) (v : Value) :
    (fs.insert k v).find? l = if k = l then some v else fs.find? l := by
  induction fs with
  | nil => by_cases h : k = l <;> simp [insert, find?_cons, h]
  | cons p fs ih =>
    obtain ⟨m, w⟩ := p
    by_cases h : m = k
    · subst h
      by_cases hl : m = l <;> simp [insert, find?_cons, hl]
    · by_cases hl : m = l
      · subst hl
        simp [insert, find?_cons, h, Ne.symm h]
      · simp [insert, find?_cons, h, hl, ih]

end Fields

end CrmAutomation
