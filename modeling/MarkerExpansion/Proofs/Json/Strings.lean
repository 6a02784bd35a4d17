import MarkerExpansion.Proofs.Json.Grammar

/-!
Reading strings.

The inside of a string is read as code points, and surrogate pairs are joined afterwards. The reader
takes the inside of every string off the front of a text, up to the closing quote, and nothing else.
What it takes are the characters that were written, in whichever of the ways each was written.
-/

namespace MarkerExpansion.Json.Token

theorem toNat_lt_of_hexDigit? {c : Char} {value : Nat}
    (hdigit : Text.hexDigit? c = some value) : c.toNat < 128 := by
  have hbound (last : Char) (hlast : last.toNat < 128) (hle : c ≤ last) : c.toNat < 128 :=
    Nat.lt_of_le_of_lt hle hlast
  unfold Text.hexDigit? at hdigit
  simp only [Bool.and_eq_true, decide_eq_true_eq] at hdigit
  split at hdigit
  · next hc => exact hbound '9' (by decide) hc.2
  · split at hdigit
    · next hc => exact hbound 'f' (by decide) hc.2
    · split at hdigit
      · next hc => exact hbound 'F' (by decide) hc.2
      · cases hdigit

theorem hexDigit?_eq_some_iff {value : Nat} {c : Char} :
    Text.hexDigit? c = some value ↔ IsHexDigit value c := by
  constructor
  · intro hdigit
    -- A hexadecimal digit is one of finitely many characters, which are tried by their codes.
    have hspelled : ∀ code < 128, ∀ value ∈ Text.hexDigit? (Char.ofNat code), value < 16 ∧
        (Char.ofNat code = Nat.digitChar value ∨
          Char.ofNat code = (Nat.digitChar value).toUpper) := by decide +kernel
    have hc := hspelled c.toNat (toNat_lt_of_hexDigit? hdigit) value
    rw [Char.ofNat_toNat] at hc
    exact hc hdigit
  · rintro ⟨hvalue, hc⟩
    have hread : ∀ value < 16, Text.hexDigit? (Nat.digitChar value) = some value ∧
        Text.hexDigit? (Nat.digitChar value).toUpper = some value := by decide
    obtain rfl | rfl := hc
    · exact (hread value hvalue).1
    · exact (hread value hvalue).2

theorem hexUnit?_eq_some_iff {a b c d : Char} {unit : Nat} :
    hexUnit? a b c d = some unit ↔ ∃ first second third fourth, IsHexDigit first a ∧
      IsHexDigit second b ∧ IsHexDigit third c ∧ IsHexDigit fourth d ∧
        ((first * 16 + second) * 16 + third) * 16 + fourth = unit := by
  have hall : [a, b, c, d].all Text.isHexDigit = true ↔ (∃ first, Text.hexDigit? a = some first) ∧
      (∃ second, Text.hexDigit? b = some second) ∧ (∃ third, Text.hexDigit? c = some third) ∧
        ∃ fourth, Text.hexDigit? d = some fourth := by
    simp [Text.isHexDigit, Option.isSome_iff_exists]
  rw [hexUnit?, Option.ite_none_right_eq_some, hall]
  simp only [← hexDigit?_eq_some_iff]
  constructor
  · rintro ⟨⟨⟨first, hfirst⟩, ⟨second, hsecond⟩, ⟨third, hthird⟩, fourth, hfourth⟩, hunit⟩
    simp [Text.hexValue, hfirst, hsecond, hthird, hfourth] at hunit
    exact ⟨first, second, third, fourth, hfirst, hsecond, hthird, hfourth, hunit⟩
  · rintro ⟨first, second, third, fourth, hfirst, hsecond, hthird, hfourth, rfl⟩
    refine ⟨⟨⟨first, hfirst⟩, ⟨second, hsecond⟩, ⟨third, hthird⟩, fourth, hfourth⟩, ?_⟩
    simp [Text.hexValue, hfirst, hsecond, hthird, hfourth]

theorem toNat_ofNat {n : Nat} (hvalid : n.isValidChar) : (Char.ofNat n).toNat = n := by
  rw [Char.ofNat, dif_pos hvalid]
  rfl

theorem isHighSurrogate_iff {point : Nat} :
    isHighSurrogate point = true ↔ 0xD800 ≤ point ∧ point < 0xDC00 := by
  rw [isHighSurrogate, Bool.and_eq_true, decide_eq_true_iff, decide_eq_true_iff]

theorem isLowSurrogate_iff {point : Nat} :
    isLowSurrogate point = true ↔ 0xDC00 ≤ point ∧ point < 0xE000 := by
  rw [isLowSurrogate, Bool.and_eq_true, decide_eq_true_iff, decide_eq_true_iff]

theorem isValidChar_iff {point : Nat} (hbound : point < 0x110000) :
    point.isValidChar ↔ ¬isHighSurrogate point = true ∧ ¬isLowSurrogate point = true := by
  rw [isHighSurrogate_iff, isLowSurrogate_iff, Nat.isValidChar]
  omega

theorem toNat_lt (c : Char) : c.toNat < 0x110000 := by
  have hvalid : c.toNat.isValidChar := c.valid
  rw [Nat.isValidChar] at hvalid
  omega

theorem joinPoints_char (c : Char) (points : List Nat) :
    joinPoints (c.toNat :: points) = (joinPoints points).map (c :: ·) := by
  obtain ⟨hhigh, hlow⟩ := (isValidChar_iff (toNat_lt c)).1 c.valid
  cases points with
  | nil => simp [joinPoints, hhigh, hlow]
  | cons next points => simp [joinPoints, hhigh, hlow]

theorem joinPoints_pair {c : Char} (hpair : 0x10000 ≤ c.toNat) (points : List Nat) :
    joinPoints (highSurrogate c :: lowSurrogate c :: points) =
      (joinPoints points).map (c :: ·) := by
  have hbound := toNat_lt c
  have hhigh : isHighSurrogate (highSurrogate c) = true := by
    rw [isHighSurrogate_iff, highSurrogate]
    omega
  have hlow : isLowSurrogate (lowSurrogate c) = true := by
    rw [isLowSurrogate_iff, lowSurrogate]
    omega
  have hscalar : 0x10000 + (highSurrogate c - 0xD800) * 0x400 + (lowSurrogate c - 0xDC00) =
      c.toNat := by
    rw [highSurrogate, lowSurrogate]
    omega
  simp only [joinPoints, hhigh, hlow, if_true, hscalar, Char.ofNat_toNat]

theorem Encodes.joinPoints {points : List Nat} {cs : List Char} (hencodes : Encodes points cs) :
    joinPoints points = some cs := by
  induction hencodes with
  | nil => rfl
  | char _ ih => rw [joinPoints_char, ih, Option.map_some]
  | pair hpair _ ih => rw [joinPoints_pair hpair, ih, Option.map_some]

theorem encodes_char {point : Nat} {points : List Nat} {cs : List Char} (hbound : point < 0x110000)
    (hhigh : ¬isHighSurrogate point = true) (hlow : ¬isLowSurrogate point = true)
    (hrest : Encodes points cs) : Encodes (point :: points) (Char.ofNat point :: cs) := by
  have hchar : Encodes ((Char.ofNat point).toNat :: points) (Char.ofNat point :: cs) := .char hrest
  rwa [toNat_ofNat ((isValidChar_iff hbound).2 ⟨hhigh, hlow⟩)] at hchar

theorem encodes_pair {high low : Nat} {points : List Nat} {cs : List Char}
    (hhigh : isHighSurrogate high = true) (hlow : isLowSurrogate low = true)
    (hrest : Encodes points cs) :
    Encodes (high :: low :: points)
      (Char.ofNat (0x10000 + (high - 0xD800) * 0x400 + (low - 0xDC00)) :: cs) := by
  rw [isHighSurrogate_iff] at hhigh
  rw [isLowSurrogate_iff] at hlow
  generalize hscalar : 0x10000 + (high - 0xD800) * 0x400 + (low - 0xDC00) = scalar
  have hvalid : scalar.isValidChar := by
    rw [Nat.isValidChar]
    omega
  have hchar := toNat_ofNat hvalid
  have hfirst : highSurrogate (Char.ofNat scalar) = high := by
    rw [highSurrogate, hchar]
    omega
  have hsecond : lowSurrogate (Char.ofNat scalar) = low := by
    rw [lowSurrogate, hchar]
    omega
  have hpair : Encodes (highSurrogate (Char.ofNat scalar) ::
      lowSurrogate (Char.ofNat scalar) :: points) (Char.ofNat scalar :: cs) :=
    .pair (by omega) hrest
  rwa [hfirst, hsecond] at hpair

theorem encodes_of_joinPoints {points : List Nat} {cs : List Char}
    (hbound : ∀ point ∈ points, point < 0x110000) (hjoin : joinPoints points = some cs) :
    Encodes points cs := by
  fun_induction Token.joinPoints points generalizing cs with
  | case1 =>
    cases hjoin
    exact .nil
  | case3 point hnone =>
    cases hjoin
    rw [Bool.or_eq_true, not_or] at hnone
    exact encodes_char (hbound point List.mem_cons_self) hnone.1 hnone.2 .nil
  | case4 high low rest hhigh hlow scalar =>
    rename_i ih
    obtain ⟨cs, hrest, rfl⟩ := Option.map_eq_some_iff.1 hjoin
    have hrest := ih (fun point hpoint => hbound point (by simp [hpoint])) hrest
    exact encodes_pair hhigh hlow hrest
  | case7 point next rest hhigh hlow ih =>
    obtain ⟨cs, hrest, rfl⟩ := Option.map_eq_some_iff.1 hjoin
    have hrest := ih (fun point hpoint => hbound point (List.mem_cons_of_mem _ hpoint)) hrest
    exact encodes_char (hbound point List.mem_cons_self) hhigh hlow hrest
  | case2 | case5 | case6 => cases hjoin

theorem readPoints_char {c : Char} (hquote : c ≠ '"') (hbackslash : c ≠ '\\')
    (hcontrol : 0x20 ≤ c.toNat) (rest : List Char) (before : List Nat) :
    readPoints (c :: rest) before = readPoints rest (c.toNat :: before) := by
  have hplain : ¬(decide (c = '\\') || decide (c.toNat < 0x20)) = true := by
    simp [hbackslash, hcontrol]
  rw [readPoints, if_neg hplain]
  · exact hquote
  · exact fun _ _ _ _ _ hc => absurd hc hbackslash
  · exact fun _ _ hc => absurd hc hbackslash

theorem spellsPoint_of_escape? {c : Char} {point : Nat} (hescape : escape? c = some point) :
    SpellsPoint point ['\\', c] := by
  unfold escape? at hescape
  split at hescape
  all_goals cases hescape
  · exact .quote
  · exact .backslash
  · exact .slash
  · exact .backspace
  · exact .formFeed
  · exact .lineFeed
  · exact .carriageReturn
  · exact .tab

theorem readPoints_append {points : List Nat} {inside : List Char}
    (hinside : SpellsPoints points inside) (before : List Nat) (rest : List Char) :
    readPoints (inside ++ '"' :: rest) before = some (before.reverse ++ points, rest) := by
  induction hinside generalizing before with
  | nil => rw [List.nil_append, readPoints, List.append_nil]
  | @cons point points cs inside hpoint _ ih =>
    have hnext : readPoints (cs ++ (inside ++ '"' :: rest)) before =
        readPoints (inside ++ '"' :: rest) (point :: before) := by
      cases hpoint with
      | char hquote hbackslash hcontrol => exact readPoints_char hquote hbackslash hcontrol _ _
      | unit hfirst hsecond hthird hfourth =>
        have hunit := hexUnit?_eq_some_iff.2
          ⟨_, _, _, _, hfirst, hsecond, hthird, hfourth, rfl⟩
        simp only [List.cons_append, List.nil_append, readPoints, hunit]
      | _ => rfl
    rw [List.append_assoc, hnext, ih, List.reverse_cons, List.append_assoc]
    rfl

/-- A point read first goes in front of those that follow. -/
theorem exists_after_cons {cs rest spelled : List Char} {before points : List Nat} {point : Nat}
    (hpoint : SpellsPoint point spelled)
    (hafter : ∃ after inside, points = (point :: before).reverse ++ after ∧
      cs = inside ++ '"' :: rest ∧ SpellsPoints after inside) :
    ∃ after inside, points = before.reverse ++ after ∧
      spelled ++ cs = inside ++ '"' :: rest ∧ SpellsPoints after inside := by
  obtain ⟨after, inside, rfl, rfl, hinside⟩ := hafter
  refine ⟨point :: after, spelled ++ inside, ?_, (List.append_assoc ..).symm, .cons hpoint hinside⟩
  rw [List.reverse_cons, List.append_assoc]
  rfl

theorem of_readPoints {cs rest : List Char} {before points : List Nat}
    (hread : readPoints cs before = some (points, rest)) :
    ∃ after inside, points = before.reverse ++ after ∧ cs = inside ++ '"' :: rest ∧
      SpellsPoints after inside := by
  fun_induction readPoints cs before with
  | case2 =>
    cases hread
    exact ⟨[], [], (List.append_nil _).symm, rfl, .nil⟩
  | case3 before a b c d cs unit hunit ih =>
    obtain ⟨_, _, _, _, hfirst, hsecond, hthird, hfourth, rfl⟩ := hexUnit?_eq_some_iff.1 hunit
    exact exists_after_cons (.unit hfirst hsecond hthird hfourth) (ih hread)
  | case5 c cs before _ point hescape ih =>
    exact exists_after_cons (spellsPoint_of_escape? hescape) (ih hread)
  | case8 c cs before hquote _ _ hplain ih =>
    rw [Bool.or_eq_true, not_or, decide_eq_true_iff, decide_eq_true_iff] at hplain
    exact exists_after_cons (.char hquote hplain.1 (Nat.le_of_not_lt hplain.2)) (ih hread)
  | case1 | case4 | case6 | case7 => cases hread

theorem SpellsPoint.lt {point : Nat} {cs : List Char} (hpoint : SpellsPoint point cs) :
    point < 0x110000 := by
  cases hpoint with
  | char => exact toNat_lt _
  | unit hfirst hsecond hthird hfourth =>
    have hfirst := hfirst.1
    have hsecond := hsecond.1
    have hthird := hthird.1
    have hfourth := hfourth.1
    omega
  | _ => decide

theorem SpellsPoints.lt {points : List Nat} {cs : List Char} (hpoints : SpellsPoints points cs) :
    ∀ point ∈ points, point < 0x110000 := by
  induction hpoints with
  | nil => exact fun _ hpoint => nomatch hpoint
  | cons hpoint _ ih => exact List.forall_mem_cons.2 ⟨hpoint.lt, ih⟩

end MarkerExpansion.Json.Token
