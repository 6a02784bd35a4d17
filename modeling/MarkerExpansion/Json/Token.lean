import MarkerExpansion.Json.Basic
import MarkerExpansion.Text.Hex

/-!
The tokens of JSON text.

Reading is strict: the only blanks are space, tab, line feed and carriage return, numbers have no
leading zeros, and a string holds no control character. The one thing not refused here is an
unpaired surrogate escape, which makes the string token spell no text. The lemma at the end says
that a token takes its own characters from the text, so the list of tokens is finite.
-/

namespace MarkerExpansion.Json

inductive Token where
  | openArray
  | closeArray
  | openObject
  | closeObject
  | comma
  | colon
  | null
  | bool (value : Bool)
  | number (digits : String)
  | string (text : Option String)
  deriving DecidableEq

namespace Token

/-- The blanks that may stand between tokens. -/
def isBlank (c : Char) : Bool :=
  c = ' ' || c = '\t' || c = '\n' || c = '\r'

/-- The code unit spelled by the four hexadecimal digits of an escape. -/
def hexUnit? (a b c d : Char) : Option Nat :=
  if [a, b, c, d].all Text.isHexDigit then some (Text.hexValue [a, b, c, d]) else none

/-- The code point that a backslash and `c` stand for. -/
def escape? : Char → Option Nat
  | '"' => some '"'.toNat
  | '\\' => some '\\'.toNat
  | '/' => some '/'.toNat
  | 'b' => some 0x08
  | 'f' => some 0x0C
  | 'n' => some '\n'.toNat
  | 'r' => some '\r'.toNat
  | 't' => some '\t'.toNat
  | _ => none

/-- Reads the inside of a string up to its closing quote: the code points it holds, surrogates
still apart, and what follows the quote. -/
def readPoints : List Char → List Nat → Option (List Nat × List Char)
  | [], _ => none
  | '"' :: rest, points => some (points.reverse, rest)
  | '\\' :: 'u' :: a :: b :: c :: d :: rest, points =>
    match hexUnit? a b c d with
    | some unit => readPoints rest (unit :: points)
    | none => none
  | '\\' :: c :: rest, points =>
    match escape? c with
    | some point => readPoints rest (point :: points)
    | none => none
  | c :: rest, points =>
    if c = '\\' || c.toNat < 0x20 then none else readPoints rest (c.toNat :: points)

/-- The first half of a surrogate pair. -/
def isHighSurrogate (point : Nat) : Bool := 0xD800 ≤ point && point < 0xDC00

/-- The second half of a surrogate pair. -/
def isLowSurrogate (point : Nat) : Bool := 0xDC00 ≤ point && point < 0xE000

/-- The characters that a sequence of code points spells: a high surrogate and the low one right
after it are one character, and any other surrogate is none. -/
def joinPoints : List Nat → Option (List Char)
  | [] => some []
  | [point] =>
    if isHighSurrogate point || isLowSurrogate point then none else some [Char.ofNat point]
  | point :: next :: rest =>
    if isHighSurrogate point then
      if isLowSurrogate next then
        let scalar := 0x10000 + (point - 0xD800) * 0x400 + (next - 0xDC00)
        (joinPoints rest).map (Char.ofNat scalar :: ·)
      else none
    else if isLowSurrogate point then none
    else (joinPoints (next :: rest)).map (Char.ofNat point :: ·)

def isDigit (c : Char) : Bool := '0' ≤ c && c ≤ '9'

/-- Reads a run of at least one digit. -/
def readDigits (cs : List Char) : Option (List Char × List Char) :=
  match cs.takeWhile isDigit with
  | [] => none
  | digits => some (digits, cs.dropWhile isDigit)

/-- Reads the part of a number before its point: a lone zero, or digits that do not start with
one. -/
def readInteger : List Char → Option (List Char × List Char)
  | '0' :: rest => some (['0'], rest)
  | cs => readDigits cs

/-- Reads the point and the digits after it, if there is a point. -/
def readFraction : List Char → Option (List Char × List Char)
  | '.' :: rest => (readDigits rest).map fun (digits, rest) => ('.' :: digits, rest)
  | cs => some ([], cs)

/-- Reads the exponent, if there is one. -/
def readExponent : List Char → Option (List Char × List Char)
  | [] => some ([], [])
  | e :: rest =>
    if e = 'e' || e = 'E' then
      match rest with
      | sign :: digits =>
        if sign = '+' || sign = '-' then
          (readDigits digits).map fun (digits, rest) => (e :: sign :: digits, rest)
        else (readDigits rest).map fun (digits, rest) => (e :: digits, rest)
      | [] => none
    else some ([], e :: rest)

/-- Reads a number without its sign. -/
def readUnsigned (cs : List Char) : Option (List Char × List Char) := do
  let (integer, rest) ← readInteger cs
  let (fraction, rest) ← readFraction rest
  let (exponent, rest) ← readExponent rest
  return (integer ++ (fraction ++ exponent), rest)

/-- Reads the token that starts with `c` and goes on in `cs`: the token and what follows it. -/
def next? (c : Char) (cs : List Char) : Option (Token × List Char) :=
  match c, cs with
  | '[', rest => some (.openArray, rest)
  | ']', rest => some (.closeArray, rest)
  | '\x7b', rest => some (.openObject, rest)
  | '\x7d', rest => some (.closeObject, rest)
  | ',', rest => some (.comma, rest)
  | ':', rest => some (.colon, rest)
  | 'n', 'u' :: 'l' :: 'l' :: rest => some (.null, rest)
  | 't', 'r' :: 'u' :: 'e' :: rest => some (.bool true, rest)
  | 'f', 'a' :: 'l' :: 's' :: 'e' :: rest => some (.bool false, rest)
  | '"', rest =>
    (readPoints rest []).map fun (points, rest) =>
      (.string ((joinPoints points).map String.ofList), rest)
  | '-', rest =>
    (readUnsigned rest).map fun (digits, rest) => (.number (String.ofList ('-' :: digits)), rest)
  | c, rest =>
    (readUnsigned (c :: rest)).map fun (digits, rest) => (.number (String.ofList digits), rest)

theorem readPoints_length {cs rest : List Char} {before points : List Nat}
    (hread : readPoints cs before = some (points, rest)) : rest.length < cs.length := by
  fun_induction readPoints cs before <;> simp_all <;> omega

theorem readDigits_length {cs digits rest : List Char}
    (hread : readDigits cs = some (digits, rest)) : rest.length < cs.length := by
  have hsplit := congrArg List.length (List.takeWhile_append_dropWhile (p := isDigit) (l := cs))
  unfold readDigits at hread
  split at hread
  · cases hread
  · next hdigits =>
    cases hread
    have hpos : 0 < (cs.takeWhile isDigit).length := List.length_pos_iff.2 hdigits
    simp only [List.length_append] at hsplit
    omega

theorem readInteger_length {cs digits rest : List Char}
    (hread : readInteger cs = some (digits, rest)) : rest.length < cs.length := by
  unfold readInteger at hread
  split at hread
  · cases hread
    simp
  · exact readDigits_length hread

theorem readFraction_length {cs digits rest : List Char}
    (hread : readFraction cs = some (digits, rest)) : rest.length ≤ cs.length := by
  unfold readFraction at hread
  split at hread
  · obtain ⟨⟨_, _⟩, htail, heq⟩ := Option.map_eq_some_iff.1 hread
    cases heq
    have := readDigits_length htail
    simp only [List.length_cons]
    omega
  · cases hread
    exact Nat.le_refl _

theorem readExponent_length {cs digits rest : List Char}
    (hread : readExponent cs = some (digits, rest)) : rest.length ≤ cs.length := by
  unfold readExponent at hread
  split at hread
  · cases hread
    exact Nat.le_refl _
  · split at hread
    · split at hread
      · split at hread
        all_goals
          obtain ⟨⟨_, _⟩, htail, heq⟩ := Option.map_eq_some_iff.1 hread
          cases heq
          have := readDigits_length htail
          simp only [List.length_cons] at *
          omega
      · cases hread
    · cases hread
      exact Nat.le_refl _

theorem readUnsigned_length {cs digits rest : List Char}
    (hread : readUnsigned cs = some (digits, rest)) : rest.length < cs.length := by
  unfold readUnsigned at hread
  simp only [Option.bind_eq_bind, Option.bind_eq_some_iff, Option.pure_def] at hread
  obtain ⟨⟨_, _⟩, hinteger, ⟨_, _⟩, hfraction, ⟨_, _⟩, hexponent, heq⟩ := hread
  cases heq
  have hfirst := readInteger_length hinteger
  have hsecond := readFraction_length hfraction
  have hthird := readExponent_length hexponent
  exact Nat.lt_of_le_of_lt (Nat.le_trans hthird hsecond) hfirst

/-- A token takes at least its first character, so what follows it is no longer than what follows
that character. -/
theorem next?_length {c : Char} {cs rest : List Char} {token : Token}
    (hnext : next? c cs = some (token, rest)) : rest.length ≤ cs.length := by
  unfold next? at hnext
  split at hnext
  case h_10 =>
    obtain ⟨⟨_, _⟩, hread, heq⟩ := Option.map_eq_some_iff.1 hnext
    cases heq
    exact Nat.le_of_lt (readPoints_length hread)
  case h_11 =>
    obtain ⟨⟨_, _⟩, hread, heq⟩ := Option.map_eq_some_iff.1 hnext
    cases heq
    exact Nat.le_of_lt (readUnsigned_length hread)
  case h_12 =>
    obtain ⟨⟨_, _⟩, hread, heq⟩ := Option.map_eq_some_iff.1 hnext
    cases heq
    exact Nat.le_of_lt_succ (readUnsigned_length hread)
  all_goals
    cases hnext
    grind

/-- The tokens of a text, after those already read (latest first). -/
def scan (cs : List Char) (tokens : List Token) : Option (List Token) :=
  match cs with
  | [] => some tokens.reverse
  | c :: rest =>
    if isBlank c then scan rest tokens
    else
      match _hnext : next? c rest with
      | none => none
      | some (token, rest) => scan rest (token :: tokens)
termination_by cs.length
decreasing_by
  · simp
  · have := next?_length _hnext
    simp only [List.length_cons]
    omega

end Token

end MarkerExpansion.Json
