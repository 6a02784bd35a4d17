import MarkerExpansion.Json.Token

/-!
The grammar of JSON text.

A value determines its tokens. What is free is how a token is written: a character of a string may
stand for itself, as an escape of its own or by its code units, a number may have a fraction and an
exponent, and blanks may stand between the tokens. All of this is said here without the functions
that read the text.
-/

namespace MarkerExpansion.Json

namespace Token

/-- A run of at least one digit. -/
def IsDigits (cs : List Char) : Prop := cs ≠ [] ∧ ∀ c ∈ cs, isDigit c = true

/-- The part of a number before its point, which has no leading zeros. -/
inductive IsInteger : List Char → Prop
  | zero : IsInteger ['0']
  | digits {cs : List Char} (hdigits : IsDigits cs) (hfirst : cs.head? ≠ some '0') : IsInteger cs

inductive IsFraction : List Char → Prop
  | none : IsFraction []
  | digits {cs : List Char} (hdigits : IsDigits cs) : IsFraction ('.' :: cs)

inductive IsExponent : List Char → Prop
  | none : IsExponent []
  | plain {e : Char} {cs : List Char} (he : e = 'e' ∨ e = 'E') (hdigits : IsDigits cs) :
    IsExponent (e :: cs)
  | signed {e sign : Char} {cs : List Char} (he : e = 'e' ∨ e = 'E')
      (hsign : sign = '+' ∨ sign = '-') (hdigits : IsDigits cs) : IsExponent (e :: sign :: cs)

/-- A number without its sign. -/
inductive IsUnsigned : List Char → Prop
  | mk {integer fraction exponent : List Char} (hinteger : IsInteger integer)
      (hfraction : IsFraction fraction) (hexponent : IsExponent exponent) :
    IsUnsigned (integer ++ (fraction ++ exponent))

inductive IsNumber : List Char → Prop
  | unsigned {cs : List Char} (hunsigned : IsUnsigned cs) : IsNumber cs
  | negative {cs : List Char} (hunsigned : IsUnsigned cs) : IsNumber ('-' :: cs)

/-- The hexadecimal digit of a number, in either case. -/
def IsHexDigit (value : Nat) (c : Char) : Prop :=
  value < 16 ∧ (c = Nat.digitChar value ∨ c = (Nat.digitChar value).toUpper)

/-- What may stand inside a string for one code point, or for one half of a surrogate pair. -/
inductive SpellsPoint : Nat → List Char → Prop
  | char {c : Char} (hquote : c ≠ '"') (hbackslash : c ≠ '\\') (hcontrol : 0x20 ≤ c.toNat) :
    SpellsPoint c.toNat [c]
  | quote : SpellsPoint '"'.toNat ['\\', '"']
  | backslash : SpellsPoint '\\'.toNat ['\\', '\\']
  | slash : SpellsPoint '/'.toNat ['\\', '/']
  | backspace : SpellsPoint 0x08 ['\\', 'b']
  | tab : SpellsPoint 0x09 ['\\', 't']
  | lineFeed : SpellsPoint 0x0A ['\\', 'n']
  | formFeed : SpellsPoint 0x0C ['\\', 'f']
  | carriageReturn : SpellsPoint 0x0D ['\\', 'r']
  | unit {first second third fourth : Nat} {a b c d : Char} (hfirst : IsHexDigit first a)
      (hsecond : IsHexDigit second b) (hthird : IsHexDigit third c)
      (hfourth : IsHexDigit fourth d) :
    SpellsPoint (((first * 16 + second) * 16 + third) * 16 + fourth) ['\\', 'u', a, b, c, d]

/-- The inside of a string, as a sequence of code points and halves of surrogate pairs. -/
inductive SpellsPoints : List Nat → List Char → Prop
  | nil : SpellsPoints [] []
  | cons {point : Nat} {points : List Nat} {cs rest : List Char} (hpoint : SpellsPoint point cs)
      (hpoints : SpellsPoints points rest) : SpellsPoints (point :: points) (cs ++ rest)

/-- The first half of the surrogate pair of a character. -/
def highSurrogate (c : Char) : Nat := 0xD800 + (c.toNat - 0x10000) / 0x400

/-- The second half of the surrogate pair of a character. -/
def lowSurrogate (c : Char) : Nat := 0xDC00 + (c.toNat - 0x10000) % 0x400

/-- Whether a sequence of code points and surrogates is a sequence of characters: each character by
its code point, or by its surrogate pair if it has one. -/
inductive Encodes : List Nat → List Char → Prop
  | nil : Encodes [] []
  | char {c : Char} {points : List Nat} {cs : List Char} (hrest : Encodes points cs) :
    Encodes (c.toNat :: points) (c :: cs)
  | pair {c : Char} {points : List Nat} {cs : List Char} (hpair : 0x10000 ≤ c.toNat)
      (hrest : Encodes points cs) :
    Encodes (highSurrogate c :: lowSurrogate c :: points) (c :: cs)

/-- The ways to write a token. A string that is no sequence of characters, because a surrogate in it
lacks its partner, is written like any other. -/
inductive SpelledBy : Token → List Char → Prop
  | openArray : SpelledBy .openArray ['[']
  | closeArray : SpelledBy .closeArray [']']
  | openObject : SpelledBy .openObject ['\x7b']
  | closeObject : SpelledBy .closeObject ['\x7d']
  | comma : SpelledBy .comma [',']
  | colon : SpelledBy .colon [':']
  | null : SpelledBy .null ['n', 'u', 'l', 'l']
  | true : SpelledBy (.bool true) ['t', 'r', 'u', 'e']
  | false : SpelledBy (.bool false) ['f', 'a', 'l', 's', 'e']
  | number {digits : List Char} (hnumber : IsNumber digits) :
    SpelledBy (.number (String.ofList digits)) digits
  | string {points : List Nat} {inside cs : List Char} (hinside : SpellsPoints points inside)
      (hencodes : Encodes points cs) :
    SpelledBy (.string (some (String.ofList cs))) ('"' :: (inside ++ ['"']))
  | lone {points : List Nat} {inside : List Char} (hinside : SpellsPoints points inside)
      (hlone : ∀ cs, ¬Encodes points cs) : SpelledBy (.string none) ('"' :: (inside ++ ['"']))

/-- A sequence of tokens, with blanks in front of them, between them and after them. -/
inductive SpellsEach : List Token → List Char → Prop
  | nil : SpellsEach [] []
  | blank {c : Char} {tokens : List Token} {cs : List Char} (hblank : isBlank c = true)
      (hrest : SpellsEach tokens cs) : SpellsEach tokens (c :: cs)
  | token {token : Token} {tokens : List Token} {cs rest : List Char} (htoken : token.SpelledBy cs)
      (hrest : SpellsEach tokens rest) : SpellsEach (token :: tokens) (cs ++ rest)

end Token

open Token

mutual

/-- The tokens of a value. -/
@[simp]
def tokens : Json → List Token
  | .null => [.null]
  | .bool value => [.bool value]
  | .number digits => [.number digits]
  | .string text => [.string text]
  | .array [] => [.openArray, .closeArray]
  | .array (item :: items) => .openArray :: (item.tokens ++ (itemTokens items ++ [.closeArray]))
  | .object [] => [.openObject, .closeObject]
  | .object ((key, value) :: members) =>
    .openObject :: .string key :: .colon ::
      (value.tokens ++ (memberTokens members ++ [.closeObject]))

/-- The tokens of the items of an array after its first. -/
@[simp]
def itemTokens : List Json → List Token
  | [] => []
  | item :: items => .comma :: (item.tokens ++ itemTokens items)

/-- The tokens of the members of an object after its first. -/
@[simp]
def memberTokens : List (Option String × Json) → List Token
  | [] => []
  | (key, value) :: members =>
    .comma :: .string key :: .colon :: (value.tokens ++ memberTokens members)

end

/-- Whether a text is JSON text for the value. In the tokens of a value a number is always followed
by a comma or a closing bracket, so that no two tokens can run together. -/
def SpelledBy (value : Json) (text : String) : Prop := SpellsEach value.tokens text.toList

end MarkerExpansion.Json
