import CrmAutomation.Text.Digit

/-!
Texts of any script in letters and digits of ASCII.

The ASCII characters come first, then a hyphen, then where to insert the others: in the order of
their code points, each as a distance from the one before. A distance is a number of base 36 whose
digits have a threshold each; the last digit is the first one below its threshold.
-/

namespace CrmAutomation.Url.Punycode

open Text

/-! ### Digits -/

/-- A digit of base 36: a letter, or from 26 on a decimal digit. -/
def digitChar (d : Nat) : Char := Char.ofNat (if d < 26 then 0x61 + d else 0x16 + d)

def digitValue? (c : Char) : Option Nat :=
  if 'a' ≤ c && c ≤ 'z' then some (c.toNat - 0x61)
  else if 'A' ≤ c && c ≤ 'Z' then some (c.toNat - 0x41)
  else if isAsciiDigit c then some (c.toNat - 0x16)
  else none

/-- The threshold of a digit at a place, places being counted in steps of 36. -/
def threshold (place bias : Nat) : Nat := max 1 (min 26 (place - bias))

/-- Scales a distance down until it is at most 455, counting in steps of 36. -/
def scaled (distance steps : Nat) : Nat × Nat :=
  if 455 < distance then scaled (distance / 35) (steps + 36) else (distance, steps)
termination_by distance
decreasing_by exact Nat.div_lt_self (by omega) (by omega)

/-- The bias after a distance, when the text has `size` characters. -/
def adapted (distance size : Nat) (first : Bool) : Nat :=
  let damped := if first then distance / 700 else distance / 2
  let (rest, steps) := scaled (damped + damped / size) 0
  steps + 36 * rest / (rest + 38)

/-! ### Encoding -/

/-- The digits of a distance. -/
def distanceDigits (bias place distance : Nat) : List Char :=
  let t := threshold place bias
  if distance < t then [digitChar distance]
  else
    digitChar (t + (distance - t) % (36 - t)) ::
      distanceDigits bias (place + 36) ((distance - t) / (36 - t))
termination_by distance
decreasing_by
  have hpos : 1 ≤ threshold place bias := Nat.le_max_left ..
  have hdiv := Nat.div_le_self (distance - threshold place bias) (36 - threshold place bias)
  omega

structure Encoder where
  written : List Char
  distance : Nat
  bias : Nat
  /-- The characters that are placed so far. -/
  placed : Nat

/-- Passes a character of the text while the characters of a code point are placed. -/
def Encoder.pass (basic codePoint : Nat) (e : Encoder) (c : Char) : Encoder :=
  if c.toNat < codePoint then { e with distance := e.distance + 1 }
  else if c.toNat == codePoint then
    ⟨e.written ++ distanceDigits e.bias 36 e.distance, 0,
      adapted e.distance (e.placed + 1) (e.placed == basic), e.placed + 1⟩
  else e

/-- Places the characters of some code points, in ascending order, all of them from `next` on. -/
def Encoder.place (text : List Char) (basic next : Nat) (e : Encoder) : List Nat → Encoder
  | [] => e
  | p :: ps =>
    let ahead := { e with distance := e.distance + (p - next) * (e.placed + 1) }
    let after := text.foldl (pass basic p) ahead
    place text basic (p + 1) { after with distance := after.distance + 1 } ps

/-- The encoded text. -/
def encode (text : List Char) : List Char :=
  let basic := text.filter fun c => c.toNat < 0x80
  let others := ((text.filter fun c => 0x80 ≤ c.toNat).map Char.toNat).mergeSort.eraseDups
  let start := if basic.isEmpty then [] else basic ++ ['-']
  (Encoder.place text basic.length 0x80 ⟨start, 0, 72, basic.length⟩ others).written

/-! ### Decoding -/

/-- A distance, added to `position`, and the digits that follow it. -/
def distance? (bias : Nat) : List Char → Nat → Nat → Nat → Option (Nat × List Char)
  | [], _, _, _ => none
  | c :: cs, place, weight, position =>
    match digitValue? c with
    | none => none
    | some d =>
      let t := threshold place bias
      if d < t then some (position + d * weight, cs)
      else distance? bias cs (place + 36) (weight * (36 - t)) (position + d * weight)

/-- A distance has at least one digit. -/
theorem length_lt_of_distance? {bias n : Nat} {cs rest : List Char} {place weight position : Nat}
    (h : distance? bias cs place weight position = some (n, rest)) : rest.length < cs.length := by
  induction cs generalizing place weight position with
  | nil => simp [distance?] at h
  | cons c cs ih =>
    rw [distance?] at h
    cases hd : digitValue? c with
    | none => simp [hd] at h
    | some d =>
      simp only [hd] at h
      by_cases hlast : d < threshold place bias
      · simp only [hlast, if_true, Option.some.injEq, Prod.mk.injEq] at h
        simp [← h.2]
      · simp only [hlast, if_false] at h
        exact Nat.lt_succ_of_lt (ih h)

/-- Inserts the characters that the digits give; `position` is one beyond the last one inserted, and
zero if there is none. -/
def insertAll? (bias codePoint position : Nat) (text digits : List Char) : Option (List Char) :=
  match digits with
  | [] => some text
  | c :: cs =>
    match _h : distance? bias (c :: cs) 36 1 position with
    | none => none
    | some (n, rest) =>
      let size := text.length + 1
      let p := codePoint + n / size
      if p.isValidChar then
        insertAll? (adapted (n - position) size (position == 0)) p (n % size + 1)
          (text.insertIdx (n % size) (Char.ofNat p)) rest
      else none
termination_by digits.length
decreasing_by
  simpa using length_lt_of_distance? _h

/-- The text that an encoded one stands for. -/
def decode? (encoded : List Char) : Option (List Char) :=
  let digits := (encoded.reverse.takeWhile (· != '-')).reverse
  insertAll? 72 0x80 0 (encoded.take (encoded.length - digits.length - 1)) digits

end CrmAutomation.Url.Punycode
