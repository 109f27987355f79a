import Scaffold.Text.Hex
import Scaffold.Value
/-!
Reading JSON: strict, except that the names of infinities and of not-a-number are numbers too.  A
dialect says how deep and how long things may be.  Objects keep all of their members, also those of
equal keys.
-/

namespace Scaffold.Json

open Number

/-- The white space of JSON. -/
def isSpace (c : Char) : Bool :=
  c == ' ' || c == '\t' || c == '\n' || c == '\r'

/-- The text without the white space it starts with. -/
def skip (cs : List Char) : List Char :=
  cs.dropWhile isSpace

theorem length_skip_le (cs : List Char) : (skip cs).length ≤ cs.length :=
  (List.dropWhile_sublist _).length_le

/-- Why a text is no value: it is malformed, a number has too many digits, or collections are nested
too deep; `inObject` tells that the one that is too deep is an object. -/
inductive Fault where
  | malformed
  | tooManyDigits (digits : Nat)
  | tooDeep (inObject : Bool)
deriving DecidableEq

def Fault.message : Fault → String
  | .malformed => "malformed"
  | .tooManyDigits digits => (WholeFault.tooManyDigits digits).message
  | .tooDeep inObject => "maximum recursion depth exceeded while decoding a JSON "
      ++ (if inObject then "object" else "array") ++ " from a unicode string"

/-- What a reader lets pass: collections up to some depth, texts with halves of pairs, and numbers
by their sign, the number of their whole digits, and whether they are whole. -/
structure Dialect where
  depth : Nat
  halves : Bool
  fits : (negative : Bool) → (digits : Nat) → (whole : Bool) → Bool

/-- The dialect of descriptions. -/
def descriptions : Dialect := ⟨985, true, fun _ digits whole => !whole || digits ≤ maxDigits⟩

/-- The dialect of settings, which is stricter in all. -/
def settings : Dialect :=
  ⟨201, false, fun negative digits _ => digits + (if negative then 1 else 0) ≤ maxDigits⟩

/-- What a reader makes of a text: a result and what is left. -/
abbrev Reading (α : Type) (cs : List Char) :=
  Except Fault (α × { r : List Char // r.length < cs.length })

/-- The first half of a pair that makes one character. -/
def isHighHalf (unit : Nat) : Bool := 0xD800 ≤ unit && unit < 0xDC00

/-- The second half of a pair that makes one character. -/
def isLowHalf (unit : Nat) : Bool := 0xDC00 ≤ unit && unit < 0xE000

/-- The code point that two halves of a pair make. -/
def joinHalves (high low : Nat) : Nat :=
  0x10000 + (high - 0xD800) * 0x400 + (low - 0xDC00)

/-- The second half of a pair, written as an escape. -/
def lowHalf? : List Char → Option (Nat × List Char)
  | '\\' :: 'u' :: a :: b :: c :: d :: rest =>
    match Text.hexNumber? [a, b, c, d] with
    | some low => if isLowHalf low then some (low, rest) else none
    | none => none
  | _ => none

theorem length_lt_of_lowHalf? {cs r : List Char} {n : Nat} (h : lowHalf? cs = some (n, r)) :
    r.length < cs.length := by
  unfold lowHalf? at h
  split at h
  · split at h
    · split at h
      · simp only [Option.some.injEq, Prod.mk.injEq] at h
        obtain ⟨_, rfl⟩ := h
        simp only [List.length_cons]
        omega
      · simp at h
    · simp at h
  · simp at h

/-- The code point that the text behind a backslash stands for. -/
def escaped (d : Dialect) (cs : List Char) : Reading Nat cs :=
  match cs with
  | 'u' :: a :: b :: c :: e :: rest =>
    match Text.hexNumber? [a, b, c, e] with
    | none => .error .malformed
    | some unit =>
      let alone : Reading Nat ('u' :: a :: b :: c :: e :: rest) :=
        .ok (unit, ⟨rest, by simp only [List.length_cons]; omega⟩)
      if isHighHalf unit then
        match h : lowHalf? rest with
        | some (low, r) =>
          .ok (joinHalves unit low,
            ⟨r, by have := length_lt_of_lowHalf? h; simp only [List.length_cons]; omega⟩)
        | none => if d.halves then alone else .error .malformed
      else if isLowHalf unit && !d.halves then .error .malformed
      else alone
  | c :: rest =>
    match (['"', '\\', '/', 'b', 'f', 'n', 'r', 't'].zip
        ['"', '\\', '/', '\x08', '\x0c', '\n', '\r', '\t']).lookup c with
    | some e => .ok (e.toNat, ⟨rest, by simp⟩)
    | none => .error .malformed
  | [] => .error .malformed

/-- The code points of a string whose opening quote has been read. -/
def stringBody (d : Dialect) (cs : List Char) : Reading (List Nat) cs :=
  match cs with
  | [] => .error .malformed
  | c :: rest =>
    if c = '"' then .ok ([], ⟨rest, by simp⟩)
    else if c = '\\' then
      match escaped d rest with
      | .error e => .error e
      | .ok (n, ⟨r, h⟩) =>
        match stringBody d r with
        | .ok (s, ⟨r', h'⟩) =>
          .ok (n :: s, ⟨r', Nat.lt_succ_of_lt (Nat.lt_trans h' h)⟩)
        | .error e => .error e
    else if c.toNat < 32 then .error .malformed
    else
      match stringBody d rest with
      | .ok (s, ⟨r, h⟩) => .ok (c.toNat :: s, ⟨r, Nat.lt_succ_of_lt h⟩)
      | .error e => .error e
termination_by cs.length

/-- The fraction that comes next: its digits, and what is left. -/
def fractionPart (cs : List Char) : List Char × List Char :=
  match cs with
  | '.' :: rest =>
    match rest.takeWhile Char.isDigit with
    | [] => ([], cs)
    | ds => (ds, rest.dropWhile Char.isDigit)
  | _ => ([], cs)

/-- The exponent that comes next, if there is one, and what is left. -/
def exponentPart (cs : List Char) : Option Int × List Char :=
  match cs with
  | e :: rest =>
    if e = 'e' ∨ e = 'E' then
      let signed := match rest with
        | '-' :: r => (true, r)
        | '+' :: r => (false, r)
        | r => (false, r)
      match signed.2.takeWhile Char.isDigit with
      | [] => (none, cs)
      | ds =>
        let n : Int := ofDigits ds
        (some (if signed.1 then -n else n), signed.2.dropWhile Char.isDigit)
    else (none, cs)
  | [] => (none, [])

/-- The number that whole digits, a fraction and an exponent make: whole without the latter two. -/
def numberOf (d : Dialect) (negative : Bool) (digits : List Char) (rest : List Char) :
    Except Fault (Value × List Char) :=
  let places := fractionPart rest
  let exponent := exponentPart places.2
  let whole := places.1.isEmpty && exponent.1.isNone
  if !d.fits negative digits.length whole then .error (.tooManyDigits digits.length)
  else if whole then
    let n : Int := ofDigits digits
    .ok (.int (if negative then -n else n), exponent.2)
  else
    .ok (.real (.ofDecimal negative (digits ++ places.1) (exponent.1.getD 0 - places.1.length)),
      exponent.2)

def number (d : Dialect) (cs : List Char) : Except Fault (Value × List Char) :=
  let signed := match cs with
    | '-' :: r => (true, r)
    | r => (false, r)
  match signed.2 with
  | '0' :: rest => numberOf d signed.1 ['0'] rest
  | c :: _ =>
    if c.isDigit then
      numberOf d signed.1 (signed.2.takeWhile Char.isDigit) (signed.2.dropWhile Char.isDigit)
    else .error .malformed
  | [] => .error .malformed

/-- The words of JSON and what they stand for. -/
def words : List (String × Value) :=
  [("null", .null), ("true", .bool true), ("false", .bool false), ("NaN", .real (.nan 0)),
    ("Infinity", .real (.infinite false)), ("-Infinity", .real (.infinite true))]

/-- What follows the characters `word` at the start of a text. -/
def after? : List Char → List Char → Option (List Char)
  | [], cs => some cs
  | w :: word, c :: cs => if w = c then after? word cs else none
  | _ :: _, [] => none

/-- The word or number that comes next. -/
def atom (d : Dialect) (cs : List Char) : Except Fault (Value × List Char) :=
  match words.findSome? fun w => (after? w.1.toList cs).map (w.2, ·) with
  | some r => .ok r
  | none => number d cs

mutual
/-- Reads a value that stands in `depth` collections. -/
def value (d : Dialect) (depth : Nat) (cs : List Char) : Reading Value cs :=
  match h : skip cs with
  | [] => .error .malformed
  | '{' :: rest =>
    if d.depth ≤ depth then .error (.tooDeep true)
    else
      match h' : skip rest with
      | '}' :: r => .ok (.dict [], ⟨r, by
          have h₁ := length_skip_le cs; have h₂ := length_skip_le rest
          rw [h] at h₁; rw [h'] at h₂; simp only [List.length_cons] at h₁ h₂; omega⟩)
      | _ =>
        match members d (depth + 1) rest with
        | .ok (es, ⟨r, hr⟩) => .ok (.dict es, ⟨r, by
            have h₁ := length_skip_le cs; rw [h] at h₁
            simp only [List.length_cons] at h₁; omega⟩)
        | .error e => .error e
  | '[' :: rest =>
    if d.depth ≤ depth then .error (.tooDeep false)
    else
      match h' : skip rest with
      | ']' :: r => .ok (.list [], ⟨r, by
          have h₁ := length_skip_le cs; have h₂ := length_skip_le rest
          rw [h] at h₁; rw [h'] at h₂; simp only [List.length_cons] at h₁ h₂; omega⟩)
      | _ =>
        match elements d (depth + 1) rest with
        | .ok (vs, ⟨r, hr⟩) => .ok (.list vs, ⟨r, by
            have h₁ := length_skip_le cs; rw [h] at h₁
            simp only [List.length_cons] at h₁; omega⟩)
        | .error e => .error e
  | '"' :: rest =>
    match stringBody d rest with
    | .ok (s, ⟨r, hr⟩) => .ok (.scalar (.ofPoints s), ⟨r, by
        have h₁ := length_skip_le cs; rw [h] at h₁
        simp only [List.length_cons] at h₁; omega⟩)
    | .error e => .error e
  | c :: rest =>
    match atom d (c :: rest) with
    | .ok (v, r) => if hr : r.length < cs.length then .ok (v, ⟨r, hr⟩) else .error .malformed
    | .error e => .error e
termination_by (cs.length, 0)
decreasing_by
  all_goals
    have h₁ := length_skip_le cs
    rw [h] at h₁
    simp only [List.length_cons] at h₁
    exact Prod.Lex.left _ _ (by omega)

/-- Reads the elements of an array, the first one and all that commas announce, to its end. -/
def elements (d : Dialect) (depth : Nat) (cs : List Char) : Reading (List Value) cs :=
  match value d depth cs with
  | .error e => .error e
  | .ok (v, ⟨r, hr⟩) =>
    match h : skip r with
    | ']' :: rest => .ok ([v], ⟨rest, by
        have h₁ := length_skip_le r; rw [h] at h₁
        simp only [List.length_cons] at h₁; omega⟩)
    | ',' :: rest =>
      match elements d depth rest with
      | .ok (vs, ⟨r', hr'⟩) => .ok (v :: vs, ⟨r', by
          have h₁ := length_skip_le r; rw [h] at h₁
          simp only [List.length_cons] at h₁; omega⟩)
      | .error e => .error e
    | _ => .error .malformed
termination_by (cs.length, 1)
decreasing_by
  · exact Prod.Lex.right _ (by omega)
  · have h₁ := length_skip_le r
    rw [h] at h₁
    simp only [List.length_cons] at h₁
    exact Prod.Lex.left _ _ (by omega)

/-- Reads the members of an object, the first one and all that commas announce, to its end. -/
def members (d : Dialect) (depth : Nat) (cs : List Char) : Reading (List (Scalar × Value)) cs :=
  match h : skip cs with
  | '"' :: rest =>
    match stringBody d rest with
    | .error e => .error e
    | .ok (key, ⟨r, hr⟩) =>
      match h' : skip r with
      | ':' :: r' =>
        match value d depth r' with
        | .error e => .error e
        | .ok (v, ⟨s, hs⟩) =>
          match h'' : skip s with
          | '}' :: t => .ok ([(.ofPoints key, v)], ⟨t, by
              have h₁ := length_skip_le cs; have h₂ := length_skip_le r
              have h₃ := length_skip_le s
              rw [h] at h₁; rw [h'] at h₂; rw [h''] at h₃
              simp only [List.length_cons] at h₁ h₂ h₃; omega⟩)
          | ',' :: t =>
            match members d depth t with
            | .ok (es, ⟨u, hu⟩) => .ok ((.ofPoints key, v) :: es, ⟨u, by
                have h₁ := length_skip_le cs; have h₂ := length_skip_le r
                have h₃ := length_skip_le s
                rw [h] at h₁; rw [h'] at h₂; rw [h''] at h₃
                simp only [List.length_cons] at h₁ h₂ h₃; omega⟩)
            | .error e => .error e
          | _ => .error .malformed
      | _ => .error .malformed
  | _ => .error .malformed
termination_by (cs.length, 1)
decreasing_by
  · have h₁ := length_skip_le cs
    have h₂ := length_skip_le r
    rw [h] at h₁
    rw [h'] at h₂
    simp only [List.length_cons] at h₁ h₂
    exact Prod.Lex.left _ _ (by omega)
  · have h₁ := length_skip_le cs
    have h₂ := length_skip_le r
    have h₃ := length_skip_le s
    rw [h] at h₁
    rw [h'] at h₂
    rw [h''] at h₃
    simp only [List.length_cons] at h₁ h₂ h₃
    exact Prod.Lex.left _ _ (by omega)
end

/-- Reads a document: one value with nothing but white space around it. -/
def read (d : Dialect) (source : String) : Except Fault Value :=
  match value d 0 source.toList with
  | .ok (v, ⟨r, _⟩) => if (skip r).isEmpty then .ok v else .error .malformed
  | .error e => .error e

end Scaffold.Json
