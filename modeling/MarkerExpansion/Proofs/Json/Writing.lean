import MarkerExpansion.Json.Writer
import MarkerExpansion.Proofs.Json.Reading

/-!
Writing and reading again.

A value is written as its tokens, one after the other and each in one of the ways to write it. So
the text of a value is JSON text for the value, and it is read back as the value, if only the
numbers in the value are written as JSON writes numbers.
-/

namespace MarkerExpansion.Json

namespace Token

/-- How the writer writes a token. -/
def written : Token → List Char
  | .openArray => ['[']
  | .closeArray => [']']
  | .openObject => ['\x7b']
  | .closeObject => ['\x7d']
  | .comma => [',']
  | .colon => [':']
  | .null => ['n', 'u', 'l', 'l']
  | .bool true => ['t', 'r', 'u', 'e']
  | .bool false => ['f', 'a', 'l', 's', 'e']
  | .number digits => digits.toList
  | .string text => spellString text []

theorem spellChar_append (c : Char) (rest : List Char) :
    spellChar c rest = spellChar c [] ++ rest := by
  unfold spellChar
  split_ifs <;> rfl

theorem foldr_spellChar_append (cs rest : List Char) :
    cs.foldr spellChar rest = cs.flatMap (spellChar · []) ++ rest := by
  induction cs with
  | nil => rfl
  | cons c cs ih =>
    rw [List.foldr_cons, spellChar_append, ih, List.flatMap_cons, List.append_assoc]

theorem spellString_append (text : Option String) (rest : List Char) :
    spellString text rest = spellString text [] ++ rest := by
  cases text with
  | none => rfl
  | some s =>
    simp only [spellString]
    rw [foldr_spellChar_append, foldr_spellChar_append s.toList ['"'], List.cons_append,
      List.append_assoc]
    rfl

theorem isHexDigit_hexDigit {value : Nat} (hvalue : value < 16) :
    IsHexDigit value (hexDigit value) := ⟨hvalue, .inl rfl⟩

theorem spellsPoint_spellChar (c : Char) : SpellsPoint c.toNat (spellChar c []) := by
  unfold spellChar
  split_ifs with hquote hbackslash hcontrol
  · rw [hquote]
    exact .quote
  · rw [hbackslash]
    exact .backslash
  · have hunit : ((0 * 16 + 0) * 16 + c.toNat / 16) * 16 + c.toNat % 16 = c.toNat := by omega
    have hzero : IsHexDigit 0 '0' := isHexDigit_hexDigit (by decide)
    have hspells := SpellsPoint.unit hzero hzero
      (isHexDigit_hexDigit (show c.toNat / 16 < 16 by omega))
      (isHexDigit_hexDigit (show c.toNat % 16 < 16 by omega))
    rwa [hunit] at hspells
  · exact .char hquote hbackslash (Nat.le_of_not_lt hcontrol)

theorem spellsPoints_flatMap (cs : List Char) :
    SpellsPoints (cs.map Char.toNat) (cs.flatMap (spellChar · [])) := by
  induction cs with
  | nil => exact .nil
  | cons c cs ih => exact .cons (spellsPoint_spellChar c) ih

theorem encodes_map_toNat (cs : List Char) : Encodes (cs.map Char.toNat) cs := by
  induction cs with
  | nil => exact .nil
  | cons c cs ih => exact .char ih

/-- The string that spells no text is written as a surrogate without its partner. -/
theorem spelledBy_lone : (Token.string none).SpelledBy (spellString none []) := by
  have hpoint : SpellsPoint (((0xD * 16 + 0x8) * 16 + 0x0) * 16 + 0x0)
      ['\\', 'u', 'd', '8', '0', '0'] :=
    .unit ⟨by decide, .inl rfl⟩ ⟨by decide, .inl rfl⟩ ⟨by decide, .inl rfl⟩ ⟨by decide, .inl rfl⟩
  refine .lone (.cons hpoint .nil) fun cs hencodes => ?_
  have hjoin := hencodes.joinPoints
  cases hjoin

theorem spelledBy_spellString (text : Option String) :
    (Token.string text).SpelledBy (spellString text []) := by
  cases text with
  | none => exact spelledBy_lone
  | some s =>
    have hspelled : SpelledBy _ _ :=
      .string (spellsPoints_flatMap s.toList) (encodes_map_toNat s.toList)
    rw [spellString, foldr_spellChar_append]
    rwa [String.ofList_toList] at hspelled

/-- What the writer writes for a token is one of the ways to write it. -/
theorem spelledBy_written {token : Token}
    (hnumber : ∀ digits, token = .number digits → IsNumber digits.toList) :
    token.SpelledBy token.written := by
  cases token with
  | number digits =>
    have hspelled : SpelledBy _ _ := .number (hnumber digits rfl)
    rwa [String.ofList_toList] at hspelled
  | string text => exact spelledBy_spellString text
  | bool value => cases value <;> constructor
  | _ => constructor

theorem spellsEach_written {tokens : List Token}
    (hnumbers : ∀ digits, .number digits ∈ tokens → IsNumber digits.toList) :
    SpellsEach tokens (tokens.flatMap written) := by
  induction tokens with
  | nil => exact .nil
  | cons token tokens ih =>
    refine .token (spelledBy_written ?_) (ih fun digits hdigits => ?_)
    · rintro digits rfl
      exact hnumbers digits List.mem_cons_self
    · exact hnumbers digits (List.mem_cons_of_mem _ hdigits)

theorem SpellsEach.isNumber {tokens : List Token} {cs : List Char} (hspells : SpellsEach tokens cs)
    {digits : String} (hdigits : .number digits ∈ tokens) : IsNumber digits.toList := by
  induction hspells with
  | nil => cases hdigits
  | blank _ _ ih => exact ih hdigits
  | token htoken _ ih =>
    obtain rfl | hdigits := List.mem_cons.1 hdigits
    · cases htoken with
      | number hnumber => rwa [String.toList_ofList]
    · exact ih hdigits

end Token

open Token

mutual

/-- A value is written as its tokens, one after the other. -/
theorem spell_eq : ∀ (value : Json) (rest : List Char),
    value.spell rest = value.tokens.flatMap written ++ rest
  | .null, rest => by
    rw [spell, tokens]
    rfl
  | .bool value, rest => by
    cases value <;> (rw [spell, tokens]; rfl)
  | .number digits, rest => by
    rw [spell, tokens, List.flatMap_singleton]
    rfl
  | .string text, rest => by
    rw [spell, tokens, List.flatMap_singleton, spellString_append]
    rfl
  | .array items, rest => by
    cases items with
    | nil =>
      rw [spell, tokens]
      rfl
    | cons item items =>
      rw [spell, tokens, spell_eq item, spellItems_eq items]
      simp only [List.flatMap_cons, List.flatMap_append, List.append_assoc]
      rfl
  | .object members, rest => by
    cases members with
    | nil =>
      rw [spell, tokens]
      rfl
    | cons member members =>
      rw [spell, tokens, spellString_append, spell_eq member.2, spellMembers_eq members]
      simp only [List.flatMap_cons, List.flatMap_append, List.append_assoc]
      rfl

theorem spellItems_eq : ∀ (items : List Json) (rest : List Char),
    spellItems items rest = (itemTokens items).flatMap written ++ rest
  | [], rest => by
    rw [spellItems, itemTokens]
    rfl
  | item :: items, rest => by
    rw [spellItems, itemTokens, spell_eq item, spellItems_eq items]
    simp only [List.flatMap_cons, List.flatMap_append, List.append_assoc]
    rfl

theorem spellMembers_eq : ∀ (members : List (Option String × Json)) (rest : List Char),
    spellMembers members rest = (memberTokens members).flatMap written ++ rest
  | [], rest => by
    rw [spellMembers, memberTokens]
    rfl
  | member :: members, rest => by
    rw [spellMembers, memberTokens, spellString_append, spell_eq member.2,
      spellMembers_eq members]
    simp only [List.flatMap_cons, List.flatMap_append, List.append_assoc]
    rfl

end

/-- The text of a value is JSON text for the value. -/
theorem spelledBy_render {value : Json}
    (hnumbers : ∀ digits, .number digits ∈ value.tokens → IsNumber digits.toList) :
    value.SpelledBy value.render := by
  rw [SpelledBy, render, String.toList_ofList, spell_eq, List.append_nil]
  exact spellsEach_written hnumbers

/-- A value is read back from its text exactly if the numbers in it are written as JSON writes
numbers. -/
theorem parse?_render_iff {value : Json} :
    parse? value.render = some value ↔
      ∀ digits, .number digits ∈ value.tokens → IsNumber digits.toList := by
  rw [parse?_eq_some_iff]
  exact ⟨fun hspelled _ hdigits => hspelled.isNumber hdigits, spelledBy_render⟩

end MarkerExpansion.Json
