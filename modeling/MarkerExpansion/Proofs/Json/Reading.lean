import MarkerExpansion.Json.Reader
import MarkerExpansion.Proofs.Json.Scanning

/-!
Reading JSON text.

A text is read as a value exactly if it is JSON text for the value. The tokens of a value can be
scanned, since a number among them is always followed by a comma or a closing bracket, and building
reads the value back that has these tokens.
-/

namespace MarkerExpansion.Json

open Token

mutual

theorem isChain_tokens_append : ∀ (value : Json) {rest : List Token}, AfterValue rest →
    (value.tokens ++ rest).IsChain MayFollow
  | .null, _, hrest => by
    rw [tokens]
    exact isChain_cons_of_ne_number nofun hrest.chain
  | .bool value, _, hrest => by
    rw [tokens]
    exact isChain_cons_of_ne_number nofun hrest.chain
  | .number digits, _, hrest => by
    rw [tokens]
    exact hrest.isChain_number digits
  | .string text, _, hrest => by
    rw [tokens]
    exact isChain_cons_of_ne_number nofun hrest.chain
  | .array items, rest, hrest => by
    have hclose : AfterValue (.closeArray :: rest) := EndsValue.closeArray.afterValue hrest.chain
    cases items with
    | nil =>
      rw [tokens]
      exact isChain_cons_of_ne_number nofun hclose.chain
    | cons item items =>
      rw [tokens, List.cons_append, List.append_assoc, List.append_assoc]
      exact isChain_cons_of_ne_number nofun
        (isChain_tokens_append item (afterValue_itemTokens_append items hclose))
  | .object members, rest, hrest => by
    have hclose : AfterValue (.closeObject :: rest) := EndsValue.closeObject.afterValue hrest.chain
    cases members with
    | nil =>
      rw [tokens]
      exact isChain_cons_of_ne_number nofun hclose.chain
    | cons member members =>
      rw [tokens, List.cons_append, List.cons_append, List.cons_append, List.append_assoc,
        List.append_assoc]
      exact isChain_cons_of_ne_number nofun (isChain_cons_of_ne_number nofun
        (isChain_cons_of_ne_number nofun
          (isChain_tokens_append member.2 (afterValue_memberTokens_append members hclose))))

theorem afterValue_itemTokens_append : ∀ (items : List Json) {rest : List Token},
    AfterValue rest → AfterValue (itemTokens items ++ rest)
  | [], _, hrest => by
    rw [itemTokens]
    exact hrest
  | item :: items, _, hrest => by
    rw [itemTokens, List.cons_append, List.append_assoc]
    exact EndsValue.comma.afterValue
      (isChain_tokens_append item (afterValue_itemTokens_append items hrest))

theorem afterValue_memberTokens_append : ∀ (members : List (Option String × Json))
    {rest : List Token}, AfterValue rest → AfterValue (memberTokens members ++ rest)
  | [], _, hrest => by
    rw [memberTokens]
    exact hrest
  | member :: members, _, hrest => by
    rw [memberTokens, List.cons_append, List.cons_append, List.cons_append, List.append_assoc]
    exact EndsValue.comma.afterValue (isChain_cons_of_ne_number nofun
      (isChain_cons_of_ne_number nofun
        (isChain_tokens_append member.2 (afterValue_memberTokens_append members hrest))))

end

/-- In the tokens of a value a number is followed by a comma or a closing bracket, if by
anything. -/
theorem isChain_tokens (value : Json) : value.tokens.IsChain MayFollow := by
  simpa only [List.append_nil] using isChain_tokens_append value .nil

theorem exists_tokens_eq_cons (value : Json) :
    ∃ first rest, value.tokens = first :: rest ∧ first ≠ .closeArray := by
  cases value with
  | null => exact ⟨.null, [], by rw [tokens], nofun⟩
  | bool value => exact ⟨.bool value, [], by rw [tokens], nofun⟩
  | number digits => exact ⟨.number digits, [], by rw [tokens], nofun⟩
  | string text => exact ⟨.string text, [], by rw [tokens], nofun⟩
  | array items => cases items <;> exact ⟨.openArray, _, by rw [tokens], nofun⟩
  | object members => cases members <;> exact ⟨.openObject, _, by rw [tokens], nofun⟩

/-- An array with items is opened in front of its first item. -/
theorem build_openArray (item : Json) (rest : List Token) (stack : List Frame) :
    build (.openArray :: (item.tokens ++ rest)) stack none =
      build (item.tokens ++ rest) (.array [] :: stack) none := by
  obtain ⟨first, others, hitem, hfirst⟩ := exists_tokens_eq_cons item
  rw [hitem, List.cons_append, build]
  rintro _ ⟨⟩
  exact hfirst rfl

mutual

/-- Building takes the tokens of a value off the front and gives the value. -/
theorem build_tokens : ∀ (value : Json) (rest : List Token) (stack : List Frame),
    build (value.tokens ++ rest) stack none = build rest stack (some value)
  | .null, rest, stack => by
    rw [tokens]
    rfl
  | .bool value, rest, stack => by
    rw [tokens]
    rfl
  | .number digits, rest, stack => by
    rw [tokens]
    rfl
  | .string text, rest, stack => by
    rw [tokens]
    rfl
  | .array items, rest, stack => by
    cases items with
    | nil =>
      rw [tokens]
      rfl
    | cons item items =>
      rw [tokens, List.cons_append, List.append_assoc, List.append_assoc, build_openArray,
        build_tokens item, List.singleton_append, build_itemTokens items]
      rfl
  | .object members, rest, stack => by
    cases members with
    | nil =>
      rw [tokens]
      rfl
    | cons member members =>
      rw [tokens, List.cons_append, List.cons_append, List.cons_append, List.append_assoc,
        List.append_assoc, build, build_tokens member.2, List.singleton_append,
        build_memberTokens members]
      rfl

theorem build_itemTokens : ∀ (items : List Json) (item : Json) (before : List Json)
    (rest : List Token) (stack : List Frame),
    build (itemTokens items ++ .closeArray :: rest) (.array before :: stack) (some item) =
      build rest stack (some (.array (before.reverse ++ item :: items)))
  | [], item, before, rest, stack => by
    rw [itemTokens, List.nil_append, build, List.reverse_cons]
  | next :: items, item, before, rest, stack => by
    rw [itemTokens, List.cons_append, List.append_assoc, build, build_tokens next,
      build_itemTokens items, List.reverse_cons, List.append_assoc]
    rfl

theorem build_memberTokens : ∀ (members : List (Option String × Json)) (key : Option String)
    (value : Json) (before : List (Option String × Json)) (rest : List Token)
    (stack : List Frame),
    build (memberTokens members ++ .closeObject :: rest) (.object before key :: stack)
        (some value) =
      build rest stack (some (.object (before.reverse ++ (key, value) :: members)))
  | [], key, value, before, rest, stack => by
    rw [memberTokens, List.nil_append, build, List.reverse_cons]
  | next :: members, key, value, before, rest, stack => by
    rw [memberTokens, List.cons_append, List.cons_append, List.cons_append, List.append_assoc,
      build, build_tokens next.2, build_memberTokens members, List.reverse_cons,
      List.append_assoc]
    rfl

end

/-- The tokens that have been read of an array or object that is not closed yet. -/
def Frame.tokens : Frame → List Token
  | .array [] => [.openArray]
  | .array (item :: items) => (Frame.array items).tokens ++ (item.tokens ++ [.comma])
  | .object [] key => [.openObject, .string key, .colon]
  | .object ((key, value) :: members) next =>
    (Frame.object members key).tokens ++ (value.tokens ++ [.comma, .string next, .colon])

theorem Frame.tokens_array_append (items : List Json) (item : Json) (after : List Json) :
    (Frame.array items).tokens ++ (item.tokens ++ (itemTokens after ++ [.closeArray])) =
      (Json.array (items.reverse ++ item :: after)).tokens := by
  induction items generalizing item after with
  | nil =>
    rw [Frame.tokens, List.reverse_nil, List.nil_append, Json.tokens]
    rfl
  | cons last items ih =>
    rw [List.reverse_cons, List.append_assoc, List.singleton_append, ← ih, Frame.tokens,
      itemTokens]
    simp only [List.append_assoc, List.cons_append, List.nil_append]

theorem Frame.tokens_object_append (members : List (Option String × Json)) (key : Option String)
    (value : Json) (after : List (Option String × Json)) :
    (Frame.object members key).tokens ++
        (value.tokens ++ (memberTokens after ++ [.closeObject])) =
      (Json.object (members.reverse ++ (key, value) :: after)).tokens := by
  induction members generalizing key value after with
  | nil =>
    rw [Frame.tokens, List.reverse_nil, List.nil_append, Json.tokens]
    rfl
  | cons last members ih =>
    rw [List.reverse_cons, List.append_assoc, List.singleton_append, ← ih, Frame.tokens,
      memberTokens]
    simp only [List.append_assoc, List.cons_append, List.nil_append]

/-- The tokens of a text that has been read up to a place: what is open around the place, then what
has ended there, then the tokens still to come. -/
def readUpTo : List Frame → List Token → List Token
  | [], rest => rest
  | frame :: stack, rest => readUpTo stack (frame.tokens ++ rest)

/-- A value that is built has the tokens it is built from. -/
theorem tokens_of_build {rest : List Token} {stack : List Frame} {current : Option Json}
    {value : Json} (hbuild : build rest stack current = some value) :
    readUpTo stack (current.elim [] tokens ++ rest) = value.tokens := by
  -- A step of the building moves tokens from what is to come to what is open or has just ended.
  fun_induction build rest stack current with
  | case1 built =>
    cases hbuild
    exact List.append_nil _
  | case2 rest stack ih | case3 _ rest stack ih | case4 _ rest stack ih | case5 _ rest stack ih
  | case6 rest stack ih | case8 rest stack ih =>
    rw [← ih hbuild, Option.elim_some, tokens]
    rfl
  | case7 rest stack _ ih | case9 _ rest stack ih =>
    rw [← ih hbuild, readUpTo, Frame.tokens]
    rfl
  | case10 rest items stack item ih =>
    rw [← ih hbuild, readUpTo, readUpTo, Frame.tokens, Option.elim_some, Option.elim_none]
    simp only [List.append_assoc, List.singleton_append, List.nil_append]
  | case12 next rest members key stack value ih =>
    rw [← ih hbuild, readUpTo, readUpTo, Frame.tokens, Option.elim_some, Option.elim_none]
    simp only [List.append_assoc, List.cons_append, List.nil_append]
  | case11 rest items stack item ih =>
    have hclosed := Frame.tokens_array_append items item []
    rw [itemTokens, List.nil_append] at hclosed
    rw [← ih hbuild, readUpTo, Option.elim_some, Option.elim_some, List.reverse_cons, ← hclosed]
    simp only [List.append_assoc, List.singleton_append]
  | case13 rest members key stack value ih =>
    have hclosed := Frame.tokens_object_append members key value []
    rw [memberTokens, List.nil_append] at hclosed
    rw [← ih hbuild, readUpTo, Option.elim_some, Option.elim_some, List.reverse_cons, ← hclosed]
    simp only [List.append_assoc, List.singleton_append]
  | case14 => cases hbuild

/-- A text is read as a value exactly if it is JSON text for the value. -/
theorem parse?_eq_some_iff {text : String} {value : Json} :
    parse? text = some value ↔ value.SpelledBy text := by
  constructor
  · intro hparse
    obtain ⟨read, hscan, hbuild⟩ := Option.bind_eq_some_iff.1 hparse
    obtain ⟨_, rfl, hspells⟩ := of_scan hscan
    rw [SpelledBy, ← tokens_of_build hbuild]
    exact hspells
  · intro hspelled
    have hscan := hspelled.scan_append (isChain_tokens value) [] (fun _ _ => nofun) []
    have hbuild := build_tokens value [] []
    rw [List.append_nil] at hscan hbuild
    rw [List.append_nil, scan, List.reverse_reverse] at hscan
    rw [parse?, hscan]
    exact hbuild

/-- Nothing may follow a value that nothing open surrounds. -/
theorem eq_nil_of_build {rest : List Token} {value built : Json}
    (hbuild : build rest [] (some value) = some built) : rest = [] := by
  unfold build at hbuild
  split at hbuild
  · rfl
  all_goals contradiction

theorem Token.isBlank_of_spellsEach_nil {cs : List Char} (hspells : SpellsEach [] cs) :
    ∀ c ∈ cs, isBlank c = true := by
  generalize htokens : [] = tokens at hspells
  induction hspells with
  | nil => exact nofun
  | blank hblank _ ih => exact List.forall_mem_cons.2 ⟨hblank, ih htokens⟩
  | token => cases htokens

theorem eq_number_of_getLast? {value : Json} {digits : String}
    (hlast : value.tokens.getLast? = some (.number digits)) : value = .number digits := by
  cases value with
  | number written =>
    rw [tokens] at hlast
    cases hlast
    rfl
  | array items => cases items <;> simp [tokens, List.getLast?_cons] at hlast
  | object members => cases members <;> simp [tokens, List.getLast?_cons] at hlast
  | _ => simp [tokens] at hlast

/-- A text that goes on after its value is no JSON text, unless only blanks follow. A number is
different: more digits may follow it. -/
theorem parse?_append_eq_none {value : Json} {text more : String} (hspelled : value.SpelledBy text)
    (hvalue : ∀ digits, value ≠ .number digits)
    (hmore : ∃ c ∈ more.toList, isBlank c = false) : parse? (text ++ more) = none := by
  refine Option.eq_none_iff_forall_ne_some.2 fun other hparse => ?_
  obtain ⟨read, hscan, hbuild⟩ := Option.bind_eq_some_iff.1 hparse
  rw [String.toList_append, hspelled.scan_append (isChain_tokens value) _
    (fun digits hlast => absurd (eq_number_of_getLast? hlast) (hvalue digits))] at hscan
  obtain ⟨after, rfl, hspells⟩ := of_scan hscan
  rw [List.append_nil, List.reverse_reverse, build_tokens] at hbuild
  obtain rfl := eq_nil_of_build hbuild
  obtain ⟨c, hc, hblank⟩ := hmore
  rw [isBlank_of_spellsEach_nil hspells c hc] at hblank
  cases hblank

end MarkerExpansion.Json
