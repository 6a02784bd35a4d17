import MarkerExpansion.Proofs.Json.Numbers
import MarkerExpansion.Proofs.Json.Strings
import Mathlib.Data.List.Chain

/-!
Reading tokens.

Scanning reads the tokens that a text is written with, provided that no number among them is
followed by a token that it could run into. Whatever scanning reads is written in the text.
-/

namespace MarkerExpansion.Json.Token

theorem next?_of_isDigit {c : Char} (hdigit : isDigit c = true) (cs : List Char) :
    next? c cs = (readUnsigned (c :: cs)).map fun (digits, rest) =>
      (.number (String.ofList digits), rest) := by
  unfold next?
  split
  case h_12 => rfl
  all_goals exact absurd hdigit (by decide)

theorem not_isBlank_of_isDigit {c : Char} (hdigit : isDigit c = true) : isBlank c = false := by
  cases hblank : isBlank c with
  | false => rfl
  | true =>
    simp only [isBlank, Bool.or_eq_true, decide_eq_true_eq] at hblank
    obtain ((rfl | rfl) | rfl) | rfl := hblank <;> exact absurd hdigit (by decide)

/-- The token that a text starts with is read off it. -/
theorem next?_append {token : Token} {spelled rest : List Char} (hspelled : token.SpelledBy spelled)
    (hrest : ∀ digits, token = .number digits → NoNumber rest) :
    ∃ c cs, spelled = c :: cs ∧ isBlank c = false ∧
      next? c (cs ++ rest) = some (token, rest) := by
  cases hspelled with
  | number hnumber =>
    have hend := hrest _ rfl
    cases hnumber with
    | unsigned hunsigned =>
      obtain ⟨c, cs, rfl, hdigit⟩ := hunsigned.exists_cons
      refine ⟨c, cs, rfl, not_isBlank_of_isDigit hdigit, ?_⟩
      rw [next?_of_isDigit hdigit, ← List.cons_append, readUnsigned_append hunsigned hend,
        Option.map_some]
    | negative hunsigned =>
      refine ⟨'-', _, rfl, rfl, ?_⟩
      rw [next?, readUnsigned_append hunsigned hend, Option.map_some]
  | @string points inside cs hinside hencodes =>
    refine ⟨'"', _, rfl, rfl, ?_⟩
    simp only [next?, List.append_assoc, List.singleton_append, readPoints_append hinside,
      List.reverse_nil, List.nil_append, hencodes.joinPoints, Option.map_some]
  | @lone points inside hinside hlone =>
    refine ⟨'"', _, rfl, rfl, ?_⟩
    have hjoin : joinPoints points = none := by
      refine Option.eq_none_iff_forall_ne_some.2 fun cs hjoin => ?_
      exact hlone cs (encodes_of_joinPoints hinside.lt hjoin)
    simp only [next?, List.append_assoc, List.singleton_append, readPoints_append hinside,
      List.reverse_nil, List.nil_append, hjoin, Option.map_some, Option.map_none]
  | _ => exact ⟨_, _, rfl, rfl, rfl⟩

/-- What is read is a token that the text starts with. -/
theorem of_next? {c : Char} {cs rest : List Char} {token : Token}
    (hnext : next? c cs = some (token, rest)) :
    ∃ spelled, c :: cs = spelled ++ rest ∧ token.SpelledBy spelled := by
  unfold next? at hnext
  split at hnext
  case h_10 =>
    obtain ⟨⟨points, _⟩, hread, heq⟩ := Option.map_eq_some_iff.1 hnext
    cases heq
    obtain ⟨_, inside, rfl, rfl, hinside⟩ := of_readPoints hread
    refine ⟨'"' :: (inside ++ ['"']), by simp, ?_⟩
    cases hjoin : joinPoints points with
    | none =>
      refine .lone hinside fun cs hencodes => ?_
      rw [hencodes.joinPoints] at hjoin
      cases hjoin
    | some cs => exact .string hinside (encodes_of_joinPoints hinside.lt hjoin)
  case h_11 =>
    obtain ⟨⟨digits, _⟩, hread, heq⟩ := Option.map_eq_some_iff.1 hnext
    cases heq
    obtain ⟨hunsigned, hcs⟩ := of_readUnsigned hread
    exact ⟨'-' :: digits, congrArg _ hcs, .number (.negative hunsigned)⟩
  case h_12 =>
    obtain ⟨⟨digits, _⟩, hread, heq⟩ := Option.map_eq_some_iff.1 hnext
    cases heq
    obtain ⟨hunsigned, hcs⟩ := of_readUnsigned hread
    exact ⟨digits, hcs, .number (.unsigned hunsigned)⟩
  all_goals
    cases hnext
    exact ⟨_, rfl, by constructor⟩

/-- A comma or a closing bracket: the tokens that may stand after a value. -/
inductive EndsValue : Token → Prop
  | comma : EndsValue .comma
  | closeArray : EndsValue .closeArray
  | closeObject : EndsValue .closeObject

/-- Whether `second` may follow `first`: a number runs into anything that does not end it. -/
def MayFollow (first second : Token) : Prop :=
  ∀ digits, first = .number digits → second.EndsValue

/-- Tokens that may stand after a value. -/
structure AfterValue (tokens : List Token) : Prop where
  ends : ∀ token ∈ tokens.head?, token.EndsValue
  chain : tokens.IsChain MayFollow

theorem AfterValue.nil : AfterValue [] := ⟨nofun, .nil⟩

theorem isChain_cons_of_ne_number {token : Token} {tokens : List Token}
    (htoken : ∀ digits, token ≠ .number digits) (htokens : tokens.IsChain MayFollow) :
    (token :: tokens).IsChain MayFollow :=
  List.isChain_cons.2 ⟨fun _ _ digits heq => absurd heq (htoken digits), htokens⟩

theorem EndsValue.afterValue {token : Token} {tokens : List Token} (hends : token.EndsValue)
    (htokens : tokens.IsChain MayFollow) : AfterValue (token :: tokens) := by
  refine ⟨?_, isChain_cons_of_ne_number ?_ htokens⟩
  · rintro _ ⟨⟩
    exact hends
  · rintro digits rfl
    cases hends

theorem AfterValue.isChain_number {tokens : List Token} (htokens : AfterValue tokens)
    (digits : String) : (.number digits :: tokens).IsChain MayFollow :=
  List.isChain_cons.2 ⟨fun next hnext _ _ => htokens.ends next hnext, htokens.chain⟩

theorem goesOn_of_isBlank {c : Char} (hblank : isBlank c = true) : goesOn c = false := by
  simp only [isBlank, Bool.or_eq_true, decide_eq_true_eq] at hblank
  obtain ((rfl | rfl) | rfl) | rfl := hblank <;> rfl

/-- What is written after a value does not go on with a number. -/
theorem SpellsEach.noNumber_append {tokens : List Token} {cs rest : List Char}
    (hspells : SpellsEach tokens cs) (htokens : ∀ token ∈ tokens.head?, token.EndsValue)
    (hrest : tokens = [] → NoNumber rest) : NoNumber (cs ++ rest) := by
  cases hspells with
  | nil => exact hrest rfl
  | blank hblank _ =>
    rintro _ ⟨⟩
    exact goesOn_of_isBlank hblank
  | token htoken _ =>
    cases htokens _ rfl
    all_goals
      cases htoken
      rintro _ ⟨⟩
      rfl

theorem scan_cons {c : Char} {cs rest : List Char} {token : Token} (hblank : isBlank c = false)
    (hnext : next? c cs = some (token, rest)) (before : List Token) :
    scan (c :: cs) before = scan rest (token :: before) := by
  rw [scan, if_neg (by simp [hblank])]
  split
  · next hnone =>
    rw [hnext] at hnone
    cases hnone
  · next hsome =>
    rw [hnext] at hsome
    cases hsome
    rfl

/-- The tokens that a text starts with are scanned. -/
theorem SpellsEach.scan_append {tokens : List Token} {cs : List Char}
    (hspells : SpellsEach tokens cs) (hfollow : tokens.IsChain MayFollow) (rest : List Char)
    (hrest : ∀ digits, tokens.getLast? = some (.number digits) → NoNumber rest)
    (before : List Token) :
    scan (cs ++ rest) before = scan rest (tokens.reverse ++ before) := by
  induction hspells generalizing before with
  | nil => rfl
  | blank hblank _ ih => rw [List.cons_append, scan, if_pos hblank, ih hfollow hrest]
  -- The token is read whole, since only a number could run into what follows.
  | @token token tokens spelled cs htoken hspells ih =>
    rw [List.isChain_cons] at hfollow
    have hlast : ∀ digits, tokens.getLast? = some (.number digits) → NoNumber rest := by
      intro digits hdigits
      refine hrest digits ?_
      rw [List.getLast?_cons, hdigits]
      rfl
    have hstop : ∀ digits, token = .number digits → NoNumber (cs ++ rest) := by
      rintro digits rfl
      refine hspells.noNumber_append (fun next hnext => hfollow.1 next hnext digits rfl) ?_
      rintro rfl
      exact hrest digits rfl
    obtain ⟨c, spelled, rfl, hblank, hnext⟩ := next?_append htoken hstop
    rw [List.append_assoc, List.cons_append, scan_cons hblank hnext, ih hfollow.2 hlast,
      List.reverse_cons, List.append_assoc]
    rfl

/-- What is scanned are tokens that the text is written with. -/
theorem of_scan {cs : List Char} {before tokens : List Token}
    (hscan : scan cs before = some tokens) :
    ∃ after, tokens = before.reverse ++ after ∧ SpellsEach after cs := by
  fun_induction scan cs before with
  | case1 before =>
    cases hscan
    exact ⟨[], (List.append_nil _).symm, .nil⟩
  | case2 before c cs hblank ih =>
    obtain ⟨after, rfl, hspells⟩ := ih hscan
    exact ⟨after, rfl, .blank hblank hspells⟩
  | case3 => cases hscan
  | case4 before c cs _ token rest hnext ih =>
    obtain ⟨after, rfl, hspells⟩ := ih hscan
    obtain ⟨spelled, hcs, htoken⟩ := of_next? hnext
    refine ⟨token :: after, ?_, hcs ▸ .token htoken hspells⟩
    rw [List.reverse_cons, List.append_assoc]
    rfl

end MarkerExpansion.Json.Token
