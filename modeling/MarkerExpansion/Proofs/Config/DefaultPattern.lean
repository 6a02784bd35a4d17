import MarkerExpansion.Config
import MarkerExpansion.Proofs.Pattern.Matching

/-!
The names that the default pattern matches.

The pattern ends with the end of the text, so what it takes from a place on is all that is left of
the text there. It is described part by part, from the end of the text backwards, by the rests that
it takes.
-/

namespace MarkerExpansion

theorem CharSet.contains_singleton {c other : Char} :
    (singleton c).contains other = true ↔ other = c := by
  simp only [singleton, contains, Text.Ranges.contains, List.any_cons, List.any_nil, Bool.or_false,
    Bool.and_eq_true, decide_eq_true_eq]
  rw [← Nat.le_antisymm_iff, Char.toNat_inj, eq_comm]

namespace Pattern

variable {pattern : Pattern} {rests : List Char → Prop}

/-- The pattern takes something from a place on exactly if `rests` holds of the rest of the text. -/
def TakesRests (pattern : Pattern) (rests : List Char → Prop) : Prop :=
  ∀ (text : Array Char) (start : Nat), start ≤ text.size →
    ((∃ stop, pattern.Takes text start stop) ↔ rests (text.toList.drop start))

namespace TakesRests

theorem textEnd : TakesRests (.assert .textEnd) (· = []) := by
  intro text start hstart
  change (∃ stop, Takes text (.assert .textEnd) start stop) ↔ text.toList.drop start = []
  rw [List.drop_eq_nil_iff, Array.length_toList]
  constructor
  · rintro ⟨_, _, _, hholds⟩
    exact Nat.le_of_eq (of_decide_eq_true hholds).symm
  · intro hend
    exact ⟨start, rfl, hstart, decide_eq_true (Nat.le_antisymm hstart hend)⟩

/-- One character in front of a pattern. -/
theorem char (set : CharSet) (hrests : TakesRests pattern rests) :
    TakesRests (.seq (.char set) pattern)
      fun cs => ∃ c rest, cs = c :: rest ∧ set.contains c = true ∧ rests rest := by
  intro text start _
  constructor
  · rintro ⟨stop, _, ⟨rfl, c, hc, hset⟩, htakes⟩
    obtain ⟨hlt, rfl⟩ := Array.getElem?_eq_some_iff.1 hc
    exact ⟨_, _, List.drop_eq_getElem_cons hlt, hset, (hrests text _ hlt).1 ⟨stop, htakes⟩⟩
  · rintro ⟨c, rest, hdrop, hset, hrest⟩
    have hlt : start < text.size := by
      by_contra hge
      rw [List.drop_eq_nil_iff.2 (Nat.le_of_not_lt hge)] at hdrop
      cases hdrop
    rw [List.drop_eq_getElem_cons hlt] at hdrop
    cases hdrop
    obtain ⟨stop, htakes⟩ := (hrests text _ hlt).2 hrest
    exact ⟨stop, _, ⟨rfl, _, Array.getElem?_eq_getElem hlt, hset⟩, htakes⟩

/-- A body that may stand in front of a pattern or not. -/
theorem optional {body : Pattern} {withBody : List Char → Prop} (hrests : TakesRests pattern rests)
    (hbody : TakesRests (.seq body pattern) withBody) :
    TakesRests (.seq (.times body 0 (some 1)) pattern) fun cs => rests cs ∨ withBody cs := by
  intro text start hstart
  refine Iff.trans ?_ (or_congr (hrests text start hstart) (hbody text start hstart))
  rw [← exists_or]
  refine exists_congr fun stop => ?_
  constructor
  · rintro ⟨middle, ⟨more, hmore, hsteps⟩, htakes⟩
    obtain rfl | rfl := Nat.le_one_iff_eq_zero_or_eq_one.1 (hmore 1 rfl)
    · cases Steps.zero_iff.1 hsteps
      exact .inl htakes
    · obtain ⟨_, hfirst, hrest⟩ := Steps.succ_iff.1 hsteps
      cases Steps.zero_iff.1 hrest
      exact .inr ⟨middle, hfirst, htakes⟩
  · rintro (htakes | ⟨middle, hbody, htakes⟩)
    · exact ⟨start, ⟨0, fun _ _ => Nat.zero_le _, .stay start⟩, htakes⟩
    · refine ⟨middle, ⟨1, ?_, .move hbody (.stay middle)⟩, htakes⟩
      rintro _ ⟨⟩
      exact Nat.le_refl 1

theorem assoc {first second : Pattern}
    (hrests : TakesRests (.seq first (.seq second pattern)) rests) :
    TakesRests (.seq (.seq first second) pattern) rests := by
  intro text start hstart
  rw [← hrests text start hstart]
  refine exists_congr fun stop => ?_
  constructor
  · rintro ⟨last, ⟨middle, hfirst, hsecond⟩, htakes⟩
    exact ⟨middle, hfirst, last, hsecond, htakes⟩
  · rintro ⟨middle, hfirst, last, hsecond, htakes⟩
    exact ⟨last, ⟨middle, hfirst, hsecond⟩, htakes⟩

theorem congr {others : List Char → Prop} (hrests : TakesRests pattern rests)
    (hiff : ∀ cs, rests cs ↔ others cs) : TakesRests pattern others :=
  fun text start hstart => (hrests text start hstart).trans (hiff _)

/-- A text matches if one of its rests is taken. -/
theorem matchesText_iff (hrests : TakesRests pattern rests) {text : String} :
    pattern.matchesText text = true ↔ ∃ before rest, text.toList = before ++ rest ∧ rests rest := by
  rw [Pattern.matchesText_iff]
  constructor
  · rintro ⟨start, stop, hstart, htakes⟩
    exact ⟨text.toList.take start, text.toList.drop start, (List.take_append_drop ..).symm,
      (hrests _ start hstart).1 ⟨stop, htakes⟩⟩
  · rintro ⟨before, rest, htext, hrest⟩
    have hstart : before.length ≤ text.toList.length := by
      rw [htext, List.length_append]
      exact Nat.le_add_right _ _
    have hdrop : text.toList.toArray.toList.drop before.length = rest := by
      rw [htext, List.drop_left]
    obtain ⟨stop, htakes⟩ := (hrests _ before.length hstart).2 (hdrop.symm ▸ hrest)
    exact ⟨before.length, stop, hstart, htakes⟩

end TakesRests

/-- The pattern that takes the characters of `word` and then what `rest` takes. -/
def spelled (word : List Char) (rest : Pattern) : Pattern :=
  word.foldr (fun c rest => .seq (.char (.singleton c)) rest) rest

theorem TakesRests.spelled (word : List Char) (hrests : TakesRests pattern rests) :
    TakesRests (spelled word pattern) fun cs => ∃ rest, cs = word ++ rest ∧ rests rest := by
  induction word with
  | nil => exact hrests.congr fun cs => by simp
  | cons c word ih =>
    refine (ih.char (.singleton c)).congr fun cs => ?_
    simp only [CharSet.contains_singleton]
    constructor
    · rintro ⟨_, _, rfl, rfl, rest, rfl, hrest⟩
      exact ⟨rest, rfl, hrest⟩
    · rintro ⟨rest, rfl, hrest⟩
      exact ⟨c, word ++ rest, rfl, rfl, rest, rfl, hrest⟩

/-- The extension of a script: `.js`, with a `c` before its last two letters or not. -/
def scriptExtension : Pattern :=
  .seq (.char (.singleton '.')) (.seq (.times (.char (.singleton 'c')) 0 (some 1))
    (.seq (.char (.singleton 'j')) (.char (.singleton 's'))))

/-- A dot or a slash, `macro`, and a script extension or none, at the end of a text. -/
def macroModule : Pattern :=
  .seq (.char (.union (.union .empty (.singleton '.')) (.singleton '/')))
    (spelled "macro".toList (.seq (.times scriptExtension 0 (some 1)) (.assert .textEnd)))

theorem takesRests_scriptExtension (hrests : TakesRests pattern rests) :
    TakesRests (.seq scriptExtension pattern)
      fun cs => ∃ extension ∈ [".js", ".cjs"], ∃ rest, cs = extension.toList ++ rest ∧ rests rest
    := by
  have hjs := (hrests.spelled ['j', 's']).assoc
  have hcjs := hjs.spelled ['c']
  have hletters := (hjs.optional hcjs).assoc
  refine ((hletters.spelled ['.']).assoc).congr fun cs => ?_
  constructor
  · rintro ⟨_, rfl, ⟨rest, rfl, hrest⟩ | ⟨_, rfl, rest, rfl, hrest⟩⟩
    · exact ⟨".js", by simp, rest, rfl, hrest⟩
    · exact ⟨".cjs", by simp, rest, rfl, hrest⟩
  · rintro ⟨extension, hextension, rest, rfl, hrest⟩
    obtain rfl | rfl : extension = ".js" ∨ extension = ".cjs" := by simpa using hextension
    · exact ⟨_, rfl, .inl ⟨rest, rfl, hrest⟩⟩
    · exact ⟨_, rfl, .inr ⟨_, rfl, rest, rfl, hrest⟩⟩

theorem takesRests_macroModule :
    TakesRests macroModule fun cs => ∃ separator ∈ [".", "/"], ∃ extension ∈ ["", ".js", ".cjs"],
      cs = separator.toList ++ "macro".toList ++ extension.toList := by
  have hend := TakesRests.textEnd.optional (takesRests_scriptExtension .textEnd)
  refine ((hend.spelled "macro".toList).char _).congr fun cs => ?_
  have hseparator (c : Char) :
      (CharSet.union (.union .empty (.singleton '.')) (.singleton '/')).contains c = true ↔
        c = '.' ∨ c = '/' := by
    rw [← CharSet.contains_singleton, ← CharSet.contains_singleton, ← Bool.or_eq_true]
    rfl
  constructor
  · rintro ⟨c, _, rfl, hc, rest, rfl, hrest⟩
    have hextension : ∃ extension ∈ ["", ".js", ".cjs"], rest = extension.toList := by
      obtain rfl | ⟨extension, hextension, _, rfl, rfl⟩ := hrest
      · exact ⟨"", by simp, rfl⟩
      · exact ⟨extension, List.mem_cons_of_mem _ hextension, List.append_nil _⟩
    obtain ⟨extension, hextension, rfl⟩ := hextension
    obtain rfl | rfl := (hseparator c).1 hc
    · exact ⟨".", by simp, extension, hextension, rfl⟩
    · exact ⟨"/", by simp, extension, hextension, rfl⟩
  · rintro ⟨separator, hmem, extension, hextension, rfl⟩
    have hrest : extension.toList = [] ∨ ∃ other ∈ [".js", ".cjs"], ∃ rest,
        extension.toList = other.toList ++ rest ∧ rest = [] := by
      obtain rfl | hother := List.mem_cons.1 hextension
      · exact .inl rfl
      · exact .inr ⟨extension, hother, [], (List.append_nil _).symm, rfl⟩
    obtain rfl | rfl : separator = "." ∨ separator = "/" := by simpa using hmem
    · exact ⟨'.', _, rfl, (hseparator '.').2 (.inl rfl), _, rfl, hrest⟩
    · exact ⟨'/', _, rfl, (hseparator '/').2 (.inr rfl), _, rfl, hrest⟩

end Pattern

/-- By default the names that end in `macro` after a dot or a slash are matched, with `.js` or
`.cjs` after it or nothing, and no other names. -/
theorem default_pattern_matches_macro_modules :
    ∃ pattern, Config.default.pattern = .ok pattern ∧ ∀ source : String,
      (pattern.matchesText source = true ↔
        ∃ before, ∃ separator ∈ [".", "/"], ∃ extension ∈ ["", ".js", ".cjs"],
          source = before ++ separator ++ "macro" ++ extension) := by
  refine ⟨Pattern.macroModule, by with_unfolding_all rfl, fun source => ?_⟩
  rw [Pattern.takesRests_macroModule.matchesText_iff]
  constructor
  · rintro ⟨before, _, hsource, separator, hseparator, extension, hextension, rfl⟩
    refine ⟨String.ofList before, separator, hseparator, extension, hextension, ?_⟩
    rw [← String.toList_inj, hsource]
    simp only [String.toList_append, String.toList_ofList, List.append_assoc]
  · rintro ⟨before, separator, hseparator, extension, hextension, rfl⟩
    refine ⟨before.toList, _, ?_, separator, hseparator, extension, hextension, rfl⟩
    simp only [String.toList_append, List.append_assoc]

end MarkerExpansion
