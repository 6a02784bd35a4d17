import MarkerExpansion.Proofs.Json.Grammar

/-!
Reading numbers.

For each part of a number there are two lemmas: its reader takes the part off the front of a text,
provided that what follows does not go on with it, and whatever the reader takes is such a part.
-/

namespace MarkerExpansion.Json.Token

/-- Whether the text does not start with a digit. -/
def NoDigit (cs : List Char) : Prop := ∀ c, cs.head? = some c → isDigit c = false

/-- Whether a number can go on with the character. -/
def goesOn (c : Char) : Bool := isDigit c || c = '.' || c = 'e' || c = 'E'

/-- Whether the text does not start with a character that a number can go on with. -/
def NoNumber (cs : List Char) : Prop := ∀ c, cs.head? = some c → goesOn c = false

theorem NoNumber.noDigit {cs : List Char} (hcs : NoNumber cs) : NoDigit cs := by
  intro c hc
  have hstops := hcs c hc
  rw [goesOn, Bool.or_assoc, Bool.or_assoc, Bool.or_eq_false_iff] at hstops
  exact hstops.1

theorem NoNumber.head?_ne {cs : List Char} {c : Char} (hcs : NoNumber cs) (hc : goesOn c = true) :
    cs.head? ≠ some c := by
  intro hhead
  rw [hcs c hhead] at hc
  cases hc

theorem readDigits_append {digits rest : List Char} (hdigits : IsDigits digits)
    (hrest : NoDigit rest) : readDigits (digits ++ rest) = some (digits, rest) := by
  obtain ⟨hne, hall⟩ := hdigits
  have htake : rest.takeWhile isDigit = [] := by
    cases rest with
    | nil => rfl
    | cons c rest => rw [List.takeWhile_cons_of_neg (by simp [hrest c rfl])]
  have hdrop : rest.dropWhile isDigit = rest := by
    have hsplit := List.takeWhile_append_dropWhile (p := isDigit) (l := rest)
    rwa [htake] at hsplit
  unfold readDigits
  rw [List.takeWhile_append_of_pos hall, List.dropWhile_append_of_pos hall, htake, hdrop,
    List.append_nil]
  cases digits with
  | nil => exact absurd rfl hne
  | cons c digits => rfl

theorem of_readDigits {cs digits rest : List Char} (hread : readDigits cs = some (digits, rest)) :
    IsDigits digits ∧ cs = digits ++ rest := by
  unfold readDigits at hread
  split at hread
  · cases hread
  · next hne =>
    cases hread
    have hall := List.all_takeWhile (p := isDigit) (l := cs)
    exact ⟨⟨hne, List.all_eq_true.1 hall⟩, List.takeWhile_append_dropWhile.symm⟩

theorem readInteger_of_head? {cs : List Char} (hfirst : cs.head? ≠ some '0') :
    readInteger cs = readDigits cs := by
  unfold readInteger
  split
  · exact absurd rfl hfirst
  · rfl

theorem readInteger_append {integer rest : List Char} (hinteger : IsInteger integer)
    (hrest : NoDigit rest) : readInteger (integer ++ rest) = some (integer, rest) := by
  cases hinteger with
  | zero => rfl
  | digits hdigits hfirst =>
    obtain ⟨c, digits, rfl⟩ := List.exists_cons_of_ne_nil hdigits.1
    have hcons : (c :: digits ++ rest).head? ≠ some '0' := hfirst
    rw [readInteger_of_head? hcons, readDigits_append hdigits hrest]

theorem of_readInteger {cs integer rest : List Char}
    (hread : readInteger cs = some (integer, rest)) :
    IsInteger integer ∧ cs = integer ++ rest := by
  by_cases hzero : cs.head? = some '0'
  · obtain ⟨cs, rfl⟩ := List.head?_eq_some_iff.1 hzero
    cases hread
    exact ⟨.zero, rfl⟩
  · rw [readInteger_of_head? hzero] at hread
    obtain ⟨hdigits, rfl⟩ := of_readDigits hread
    obtain ⟨c, digits, rfl⟩ := List.exists_cons_of_ne_nil hdigits.1
    exact ⟨.digits hdigits hzero, rfl⟩

theorem readFraction_append {fraction rest : List Char} (hfraction : IsFraction fraction)
    (hdigit : NoDigit rest) (hpoint : rest.head? ≠ some '.') :
    readFraction (fraction ++ rest) = some (fraction, rest) := by
  cases hfraction with
  | none =>
    unfold readFraction
    split
    · next heq =>
      rw [List.nil_append] at heq
      exact absurd (congrArg List.head? heq) hpoint
    · rfl
  | digits hdigits =>
    rw [List.cons_append, readFraction, readDigits_append hdigits hdigit, Option.map_some]

theorem of_readFraction {cs fraction rest : List Char}
    (hread : readFraction cs = some (fraction, rest)) :
    IsFraction fraction ∧ cs = fraction ++ rest := by
  unfold readFraction at hread
  split at hread
  · obtain ⟨_, htail, heq⟩ := Option.map_eq_some_iff.1 hread
    cases heq
    obtain ⟨hdigits, hcs⟩ := of_readDigits htail
    exact ⟨.digits hdigits, congrArg _ hcs⟩
  · cases hread
    exact ⟨.none, rfl⟩

theorem readExponent_append {exponent rest : List Char} (hexponent : IsExponent exponent)
    (hrest : NoNumber rest) : readExponent (exponent ++ rest) = some (exponent, rest) := by
  cases hexponent with
  | none =>
    cases rest with
    | nil => rfl
    | cons c rest =>
      have hlower : c ≠ 'e' := fun heq => hrest.head?_ne rfl (congrArg some heq)
      have hupper : c ≠ 'E' := fun heq => hrest.head?_ne rfl (congrArg some heq)
      simp [readExponent, hlower, hupper]
  | @plain e digits he hdigits =>
    cases digits with
    | nil => exact absurd rfl hdigits.1
    | cons c digits =>
      have hdigit := hdigits.2 c List.mem_cons_self
      have hsign : ¬(c = '+' ∨ c = '-') := by
        rintro (rfl | rfl) <;> exact absurd hdigit (by decide)
      have hread := readDigits_append hdigits hrest.noDigit
      rw [List.cons_append] at hread
      simp [readExponent, he, hsign, hread]
  | signed he hsign hdigits =>
    simp [readExponent, he, hsign, readDigits_append hdigits hrest.noDigit]

theorem of_readExponent {cs exponent rest : List Char}
    (hread : readExponent cs = some (exponent, rest)) :
    IsExponent exponent ∧ cs = exponent ++ rest := by
  unfold readExponent at hread
  split at hread
  · cases hread
    exact ⟨.none, rfl⟩
  · split at hread
    · next he =>
      simp only [Bool.or_eq_true, decide_eq_true_eq] at he
      split at hread
      · split at hread
        · next hsign =>
          simp only [Bool.or_eq_true, decide_eq_true_eq] at hsign
          obtain ⟨_, htail, heq⟩ := Option.map_eq_some_iff.1 hread
          cases heq
          obtain ⟨hdigits, hcs⟩ := of_readDigits htail
          exact ⟨.signed he hsign hdigits, congrArg (_ :: _ :: ·) hcs⟩
        · obtain ⟨_, htail, heq⟩ := Option.map_eq_some_iff.1 hread
          cases heq
          obtain ⟨hdigits, hcs⟩ := of_readDigits htail
          exact ⟨.plain he hdigits, congrArg _ hcs⟩
      · cases hread
    · cases hread
      exact ⟨.none, rfl⟩

/-- What follows the integer part of a number does not go on with it. -/
theorem noDigit_fraction_append {fraction rest : List Char} (hfraction : IsFraction fraction)
    (hrest : NoDigit rest) : NoDigit (fraction ++ rest) := by
  cases hfraction with
  | none => exact hrest
  | digits =>
    rintro c ⟨⟩
    rfl

theorem noDigit_exponent_append {exponent rest : List Char} (hexponent : IsExponent exponent)
    (hrest : NoNumber rest) :
    NoDigit (exponent ++ rest) ∧ (exponent ++ rest).head? ≠ some '.' := by
  cases hexponent with
  | none => exact ⟨hrest.noDigit, hrest.head?_ne rfl⟩
  | plain he | signed he =>
    constructor
    · rintro c ⟨⟩
      obtain rfl | rfl := he <;> rfl
    · rintro ⟨⟩
      exact absurd he (by decide)

theorem readUnsigned_append {digits rest : List Char} (hdigits : IsUnsigned digits)
    (hrest : NoNumber rest) : readUnsigned (digits ++ rest) = some (digits, rest) := by
  obtain ⟨hinteger, hfraction, hexponent⟩ := hdigits
  obtain ⟨hdigit, hpoint⟩ := noDigit_exponent_append hexponent hrest
  have hfirst := readInteger_append hinteger (noDigit_fraction_append hfraction hdigit)
  have hsecond := readFraction_append hfraction hdigit hpoint
  have hthird := readExponent_append hexponent hrest
  simp only [readUnsigned, List.append_assoc, hfirst, hsecond, hthird, Option.bind_eq_bind,
    Option.bind_some, Option.pure_def]

theorem of_readUnsigned {cs digits rest : List Char}
    (hread : readUnsigned cs = some (digits, rest)) :
    IsUnsigned digits ∧ cs = digits ++ rest := by
  unfold readUnsigned at hread
  simp only [Option.bind_eq_bind, Option.bind_eq_some_iff, Option.pure_def] at hread
  obtain ⟨⟨_, _⟩, hfirst, ⟨_, _⟩, hsecond, ⟨_, _⟩, hthird, heq⟩ := hread
  cases heq
  obtain ⟨hinteger, rfl⟩ := of_readInteger hfirst
  obtain ⟨hfraction, rfl⟩ := of_readFraction hsecond
  obtain ⟨hexponent, rfl⟩ := of_readExponent hthird
  refine ⟨.mk hinteger hfraction hexponent, ?_⟩
  simp only [List.append_assoc]

/-- A number starts with a digit, apart from its sign. -/
theorem IsUnsigned.exists_cons {digits : List Char} (hdigits : IsUnsigned digits) :
    ∃ c cs, digits = c :: cs ∧ isDigit c = true := by
  obtain ⟨hinteger, _, _⟩ := hdigits
  cases hinteger with
  | zero => exact ⟨'0', _, rfl, rfl⟩
  | digits hdigits =>
    obtain ⟨c, cs, rfl⟩ := List.exists_cons_of_ne_nil hdigits.1
    exact ⟨c, _, rfl, hdigits.2 c List.mem_cons_self⟩

end MarkerExpansion.Json.Token
