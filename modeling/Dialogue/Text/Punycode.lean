import Dialogue.Text.Hex

/-!
# Punycode

A row of characters written in ASCII: the ASCII characters as they are, and behind a hyphen the
places of all others as numbers of variable length in base 36. The digit at which a number ends
depends on the numbers before it.
-/
namespace Dialogue.Text.Punycode

def base : Nat := 36
def lowest : Nat := 1
def highest : Nat := 26
def skew : Nat := 38
def damping : Nat := 700
def firstBias : Nat := 72
def firstCode : Nat := 0x80

/-- The last digit of a number is below the threshold of its place. -/
def threshold (place bias : Nat) : Nat :=
  max lowest (min highest (base * (place + 1) - bias))

/-- Scales a step down until it is small, and counts how often. -/
def scaled (delta count : Nat) : Nat × Nat :=
  if h : (base - lowest) * highest / 2 < delta then
    have : delta / (base - lowest) < delta :=
      Nat.div_lt_self (Nat.lt_of_le_of_lt (Nat.zero_le _) h) (by decide)
    scaled (delta / (base - lowest)) (count + base)
  else (delta, count)
termination_by delta

/-- The bias after a step, when `points` characters are in place. -/
def adapt (delta : Nat) (first : Bool) (points : Nat) : Nat :=
  let delta := if first then delta / damping else delta / 2
  let (delta, count) := scaled (delta + delta / points) 0
  count + base * delta / (delta + skew)

/-! ## Writing -/

def digit (n : Nat) : Char :=
  if n < 26 then Char.ofNat ('a'.toNat + n) else Char.ofNat ('0'.toNat + (n - 26))

/-- A number with the threshold of each place. -/
def number (bias place n : Nat) : List Char :=
  let t := threshold place bias
  if h : n < t then [digit n]
  else
    have : (n - t) / (base - t) < n := by
      have ht : 1 ≤ t := Nat.le_max_left _ _
      have := Nat.div_le_self (n - t) (base - t)
      omega
    digit (t + (n - t) % (base - t)) :: number bias (place + 1) ((n - t) / (base - t))
termination_by n

/-- How far the writing has come. -/
structure Writer where
  delta : Nat
  bias : Nat
  points : Nat
  first : Bool
  out : List Char

/-- One pass over the characters for the code point `code`. -/
def Writer.pass (code : Nat) (w : Writer) (cs : List Char) : Writer :=
  cs.foldl (fun w c =>
    if c.toNat < code then { w with delta := w.delta + 1 }
    else if c.toNat = code then
      { delta := 0, bias := adapt w.delta w.first (w.points + 1), points := w.points + 1,
        first := false, out := w.out ++ number w.bias 0 w.delta }
    else w) w

/-- Writes the characters of every code point from the list, which is sorted. -/
def writeCodes (cs : List Char) : List Nat → Nat → Writer → List Char
  | [], _, w => w.out
  | code :: codes, reached, w =>
    let w := { w with delta := w.delta + (code - reached) * (w.points + 1) }
    let w := w.pass code cs
    writeCodes cs codes (code + 1) { w with delta := w.delta + 1 }

/-- The different code points beyond ASCII, in order. -/
def codes (cs : List Char) : List Nat :=
  ((cs.map Char.toNat).filter (firstCode ≤ ·)).eraseDups.mergeSort

def encode (cs : List Char) : List Char :=
  let ascii := cs.filter (·.toNat < firstCode)
  let lead := if ascii.isEmpty then [] else ascii ++ ['-']
  lead ++ writeCodes cs (codes cs) firstCode ⟨0, firstBias, ascii.length, true, []⟩

/-! ## Reading -/

def digitValue? (c : Char) : Option Nat :=
  if 'a' ≤ c ∧ c ≤ 'z' then some (c.toNat - 'a'.toNat)
  else if 'A' ≤ c ∧ c ≤ 'Z' then some (c.toNat - 'A'.toNat)
  else if '0' ≤ c ∧ c ≤ '9' then some (c.toNat - '0'.toNat + 26)
  else none

/-- A number at the start of the text, with its weight so far. -/
def number? (bias : Nat) : Nat → Nat → Nat → List Char → Option (Nat × List Char)
  | _, _, _, [] => none
  | place, weight, sum, c :: rest => do
    let d ← digitValue? c
    let t := threshold place bias
    if d < t then some (sum + d * weight, rest)
    else number? bias (place + 1) (weight * (base - t)) (sum + d * weight) rest

theorem length_number?_lt {bias place weight sum n : Nat} {cs rest : List Char}
    (h : number? bias place weight sum cs = some (n, rest)) : rest.length < cs.length := by
  induction cs generalizing place weight sum with
  | nil => simp [number?] at h
  | cons c cs ih =>
    simp only [number?, Option.bind_eq_bind] at h
    cases hd : digitValue? c with
    | none => simp [hd] at h
    | some d =>
      simp only [hd, Option.bind_some] at h
      split at h
      · simp only [Option.some.injEq, Prod.mk.injEq] at h
        simp [h.2]
      · exact Nat.lt_succ_of_lt (ih h)

/-- Puts the characters of the numbers into place. `code` is the code point of the last one and
`index` the place behind it. -/
def insertAll (code index bias : Nat) (first : Bool) (done : List Char) (cs : List Char) :
    Option (List Char) :=
  match cs with
  | [] => some done
  | c :: rest =>
    match h : number? bias 0 1 0 (c :: rest) with
    | none => none
    | some (delta, left) =>
      have : left.length ≤ rest.length := Nat.le_of_lt_succ (length_number?_lt h)
      let points := done.length + 1
      let total := index + delta
      let code := code + total / points
      let index := total % points
      if code ≤ 0x10ffff then
        insertAll code (index + 1) (adapt delta first points) false
          (done.take index ++ Char.ofNat code :: done.drop index) left
      else none
termination_by cs.length

/-- Half a surrogate pair is read as the null character. -/
def decode? (cs : List Char) : Option (List Char) :=
  let tail := (cs.reverse.takeWhile (· ≠ '-')).reverse
  let ascii := (cs.take (cs.length - tail.length)).dropLast
  insertAll firstCode 0 firstBias true ascii tail

end Dialogue.Text.Punycode
