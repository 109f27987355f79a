import Scaffold.Text.Quoted
/-!
The pieces of a pattern: characters that stand for themselves, and fields in braces.  A brace is
written twice to stand for itself.  The pieces come in order, and the first fault ends them.
-/

namespace Scaffold.Pattern

inductive FormFault where
  | strayClose
  | strayOpen
  | braceInName
  | unclosedName
  | noConversion
  | noColon
  | unclosedSpec
  | tooManyDigits
  | emptyMember
  | afterBracket
  | unknownConversion (c : Char)
  | tooDeep
  | bothSeparators
  | noPrecision
  | badSpec (spec : String)
  | separator (mark kind : Char)
  | unknownKind (kind : Char)
  | spaceSign
  | sign
  | negativeZero
  | alternate
  | equalsSign
deriving DecidableEq

/-- A character as messages name it: as itself if its code lies above that of the blank and below
`bound`, and by its code otherwise. -/
def namedChar (bound : Nat) (c : Char) : String :=
  if 32 < c.toNat ∧ c.toNat < bound then c.toString
  else String.ofList ('\\' :: 'x' :: Nat.toDigits 16 c.toNat)

def FormFault.message : FormFault → String
  | .strayClose => "Single '\x7d' encountered in format string"
  | .strayOpen => "Single '\x7b' encountered in format string"
  | .braceInName => "unexpected '\x7b' in field name"
  | .unclosedName => "expected '\x7d' before end of string"
  | .noConversion => "end of string while looking for conversion specifier"
  | .noColon => "expected ':' after conversion specifier"
  | .unclosedSpec => "unmatched '\x7b' in format spec"
  | .tooManyDigits => "Too many decimal digits in format string"
  | .emptyMember => "Empty attribute in format string"
  | .afterBracket => "Only '.' or '[' may follow ']' in format field specifier"
  | .unknownConversion c => "Unknown conversion specifier " ++ namedChar 127 c
  | .tooDeep => "Max string recursion exceeded"
  | .bothSeparators => "Cannot specify both ',' and '_'."
  | .noPrecision => "Format specifier missing precision"
  | .badSpec spec => "Invalid format specifier '" ++ spec ++ "' for object of type 'str'"
  | .separator mark kind =>
    "Cannot specify '" ++ mark.toString ++ "' with '" ++ namedChar 128 kind ++ "'."
  | .unknownKind kind =>
    "Unknown format code '" ++ namedChar 128 kind ++ "' for object of type 'str'"
  | .spaceSign => "Space not allowed in string format specifier"
  | .sign => "Sign not allowed in string format specifier"
  | .negativeZero => "Negative zero coercion (z) not allowed in string format specifier"
  | .alternate => "Alternate form (#) not allowed in string format specifier"
  | .equalsSign => "'=' alignment not allowed in string format specifier"

/-- A field: what it stands for, how that is converted, and how it is laid out. -/
structure Field where
  name : List Char
  conversion : Option Char
  spec : List Char
deriving DecidableEq

def Field.consName (c : Char) (f : Field) : Field :=
  { f with name := c :: f.name }

def Field.consSpec (c : Char) (f : Field) : Field :=
  { f with spec := c :: f.spec }

/-- What is read of a field and what follows it. -/
abbrev FieldReading := Except FormFault (Field × List Char)

def FieldReading.mapField (f : Field → Field) (r : FieldReading) : FieldReading :=
  r.map fun p => (f p.1, p.2)

/-- Reads the layout of a field to the brace that closes it; `opened` counts the braces that were
opened within. -/
def readSpec (conversion : Option Char) (opened : Nat) : List Char → FieldReading
  | [] => .error .unclosedSpec
  | c :: rest =>
    if c = '\x7d' then
      match opened with
      | 0 => .ok (⟨[], conversion, []⟩, rest)
      | n + 1 => (readSpec conversion n rest).mapField (.consSpec c)
    else
      (readSpec conversion (if c = '\x7b' then opened + 1 else opened) rest).mapField (.consSpec c)

/-- The conversion of a character: the null character stands for none. -/
def conversionOf (c : Char) : Option Char :=
  if c = '\x00' then none else some c

def readConversion : List Char → FieldReading
  | [] => .error .noConversion
  | [_] => .error .unclosedSpec
  | c :: d :: rest =>
    if d = '\x7d' then .ok (⟨[], conversionOf c, []⟩, rest)
    else if d = ':' then readSpec (conversionOf c) 0 rest
    else .error .noColon

/-- Reads a field behind its opening brace; `inside` tells that a square bracket is open. -/
def readField (inside : Bool) : List Char → FieldReading
  | [] => .error .unclosedName
  | c :: rest =>
    if inside then (readField (c != ']') rest).mapField (.consName c)
    else if c = '\x7b' then .error .braceInName
    else if c = '\x7d' then .ok (⟨[], none, []⟩, rest)
    else if c = ':' then readSpec none 0 rest
    else if c = '!' then readConversion rest
    else (readField (c == '[') rest).mapField (.consName c)

theorem eq_ok_of_mapField {f : Field → Field} {r : FieldReading} {x : Field} {rest : List Char}
    (h : r.mapField f = .ok (x, rest)) : ∃ y, r = .ok (y, rest) := by
  cases r with
  | error e => simp [FieldReading.mapField, Except.map] at h
  | ok p =>
    simp only [FieldReading.mapField, Except.map, Except.ok.injEq, Prod.mk.injEq] at h
    exact ⟨p.1, by rw [← h.2]⟩

theorem length_lt_of_readSpec {conversion : Option Char} {opened : Nat} {cs rest : List Char}
    {f : Field} (h : readSpec conversion opened cs = .ok (f, rest)) :
    rest.length < cs.length := by
  induction cs generalizing opened f with
  | nil => simp [readSpec] at h
  | cons c r ih =>
    unfold readSpec at h
    split at h
    · split at h
      · simp only [Except.ok.injEq, Prod.mk.injEq] at h
        simp [← h.2]
      · obtain ⟨y, hy⟩ := eq_ok_of_mapField h
        exact Nat.lt_succ_of_lt (ih hy)
    · obtain ⟨y, hy⟩ := eq_ok_of_mapField h
      exact Nat.lt_succ_of_lt (ih hy)

theorem length_lt_of_readConversion {cs rest : List Char} {f : Field}
    (h : readConversion cs = .ok (f, rest)) : rest.length < cs.length := by
  unfold readConversion at h
  split at h
  · simp at h
  · simp at h
  · split at h
    · simp only [Except.ok.injEq, Prod.mk.injEq] at h
      simp only [← h.2, List.length_cons]
      omega
    · split at h
      · have := length_lt_of_readSpec h
        simp only [List.length_cons]
        omega
      · simp at h

/-- What follows a field is shorter than what it was read from. -/
theorem length_lt_of_readField {inside : Bool} {cs rest : List Char} {f : Field}
    (h : readField inside cs = .ok (f, rest)) : rest.length < cs.length := by
  induction cs generalizing inside f with
  | nil => simp [readField] at h
  | cons c r ih =>
    rw [readField] at h
    split at h
    · obtain ⟨y, hy⟩ := eq_ok_of_mapField h
      exact Nat.lt_succ_of_lt (ih hy)
    · split at h
      · simp at h
      · split at h
        · simp only [Except.ok.injEq, Prod.mk.injEq] at h
          simp [← h.2]
        · split at h
          · exact Nat.lt_succ_of_lt (length_lt_of_readSpec h)
          · split at h
            · exact Nat.lt_succ_of_lt (length_lt_of_readConversion h)
            · obtain ⟨y, hy⟩ := eq_ok_of_mapField h
              exact Nat.lt_succ_of_lt (ih hy)

inductive Piece where
  | literal (c : Char)
  | field (f : Field)
  | fault (fault : FormFault)
deriving DecidableEq

def pieces (cs : List Char) : List Piece :=
  match cs with
  | [] => []
  | c :: rest =>
    if c = '\x7b' then
      match rest with
      | [] => [.fault .strayOpen]
      | d :: more =>
        if d = '\x7b' then .literal c :: pieces more
        else
          match _h : readField false (d :: more) with
          | .ok (f, later) => .field f :: pieces later
          | .error e => [.fault e]
    else if c = '\x7d' then
      match rest with
      | [] => [.fault .strayClose]
      | d :: more => if d = '\x7d' then .literal c :: pieces more else [.fault .strayClose]
    else .literal c :: pieces rest
termination_by cs.length
decreasing_by
  · simp only [List.length_cons]
    omega
  · have := length_lt_of_readField _h
    simp only [List.length_cons] at this ⊢
    omega
  · simp only [List.length_cons]
    omega
  · simp

end Scaffold.Pattern
