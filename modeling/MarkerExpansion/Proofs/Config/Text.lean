import MarkerExpansion.Config
import MarkerExpansion.Proofs.Json.Writing

/-!
The configuration that a text gives.

A text gives its pattern or the default, and nothing between the two: whatever is wrong in the text
discards the pattern, also if it stands after the pattern.
-/

namespace MarkerExpansion

namespace Config

theorem ofMembers?_cons (found : Option String) (key : String) (value : Json)
    (members : List (Option String × Json)) :
    ofMembers? found ((some key, value) :: members) =
      if key = "sourcePattern" then
        value.text?.bind fun pattern =>
          if found.isNone then ofMembers? (some pattern) members else none
      else ofMembers? found members := rfl

/-- Members with other keys are passed over. -/
theorem ofMembers?_others_append {others : List (String × Json)}
    (hothers : ∀ member ∈ others, member.1 ≠ "sourcePattern") (found : Option String)
    (members : List (Option String × Json)) :
    ofMembers? found ((others.map fun (key, value) => (some key, value)) ++ members) =
      ofMembers? found members := by
  induction others with
  | nil => rfl
  | cons member others ih =>
    obtain ⟨hkey, hothers⟩ := List.forall_mem_cons.1 hothers
    rw [List.map_cons, List.cons_append, ofMembers?_cons, if_neg hkey, ih hothers]

/-- How often the pattern is given. -/
def patternCount (members : List (Option String × Json)) : Nat :=
  (members.map Prod.fst).count (some "sourcePattern")

/-- Members are read if every key is a text, every pattern is one too, and there is no second
pattern. -/
theorem isSome_ofMembers?_iff {found : Option String} {members : List (Option String × Json)} :
    (ofMembers? found members).isSome ↔
      (∀ member ∈ members, member.1.isSome) ∧
      (∀ value, (some "sourcePattern", value) ∈ members → value.text?.isSome) ∧
      found.toList.length + patternCount members ≤ 1 := by
  induction members generalizing found with
  | nil => cases found <;> simp [ofMembers?, patternCount]
  | cons member members ih =>
    obtain ⟨_ | key, value⟩ := member
    · simp [ofMembers?]
    · rw [ofMembers?_cons]
      by_cases hkey : key = "sourcePattern"
      · subst hkey
        have hcount : patternCount ((some "sourcePattern", value) :: members) =
            patternCount members + 1 := List.count_cons_self
        rw [if_pos rfl, hcount]
        cases htext : value.text? with
        | none => simp [htext]
        | some pattern =>
          cases found with
          | none =>
            have htotal : (some pattern).toList.length + patternCount members =
                (none : Option String).toList.length + (patternCount members + 1) := by
              simp [Nat.add_comm]
            rw [Option.bind_some, Option.isNone_none, if_pos rfl, ih, htotal]
            simp [htext]
          | some _ => simp
      · have hcount : patternCount ((some key, value) :: members) = patternCount members :=
          List.count_cons_of_ne (by simpa using hkey)
        rw [if_neg hkey, hcount, ih]
        simp [Ne.symm hkey]

theorem ofText_eq {text : String} {value : Json} (hspelled : value.SpelledBy text) :
    ofText text = (ofJson? value).getD default := by
  rw [ofText, Json.parse?_eq_some_iff.2 hspelled, Option.bind_some]

/-- Whether a text gives a value for the pattern, as a member of an object between other members or
as the only item of a list. -/
def IsTextFor (value : Json) (before after : List (String × Json)) (text : String) : Prop :=
  (Json.ofMembers (before ++ ("sourcePattern", value) :: after)).SpelledBy text ∨
    (Json.array [value]).SpelledBy text

variable {before after : List (String × Json)} {text : String}

theorem ofJson?_ofMembers (hothers : ∀ member ∈ before ++ after, member.1 ≠ "sourcePattern")
    (value : Json) :
    ofJson? (Json.ofMembers (before ++ ("sourcePattern", value) :: after)) =
      value.text?.map fun sourcePattern => { sourcePattern } := by
  obtain ⟨hbefore, hafter⟩ := List.forall_mem_append.1 hothers
  rw [Json.ofMembers, ofJson?, List.map_append, List.map_cons, ofMembers?_others_append hbefore,
    ofMembers?_cons, if_pos rfl]
  cases htext : value.text? with
  | none => rfl
  | some pattern =>
    have hpassed := ofMembers?_others_append hafter (some pattern) []
    rw [List.append_nil] at hpassed
    rw [Option.bind_some, Option.isNone_none, if_pos rfl, hpassed]
    rfl

theorem IsTextFor.ofText_eq {value : Json} (htext : IsTextFor value before after text)
    (hothers : ∀ member ∈ before ++ after, member.1 ≠ "sourcePattern") :
    ofText text = (value.text?.map fun sourcePattern => { sourcePattern }).getD default := by
  obtain hspelled | hspelled := htext
  · rw [Config.ofText_eq hspelled, ofJson?_ofMembers hothers]
  · rw [Config.ofText_eq hspelled]
    rfl

/-- Every configuration is what some text gives. -/
theorem ofText_render (config : Config) :
    ofText (Json.ofMembers [("sourcePattern", .ofString config.sourcePattern)]).render =
      config := by
  have htext : IsTextFor (.ofString config.sourcePattern) [] []
      (Json.ofMembers [("sourcePattern", .ofString config.sourcePattern)]).render :=
    .inl (Json.spelledBy_render (by simp [Json.ofMembers, Json.ofString]))
  rw [htext.ofText_eq nofun]
  rfl

theorem IsTextFor.ofText_append {value : Json} (htext : IsTextFor value before after text)
    {more : String} (hmore : ∃ c ∈ more.toList, Json.Token.isBlank c = false) :
    ofText (text ++ more) = default := by
  have hparse : Json.parse? (text ++ more) = none := by
    obtain hspelled | hspelled := htext
    · exact Json.parse?_append_eq_none hspelled nofun hmore
    · exact Json.parse?_append_eq_none hspelled nofun hmore
  rw [ofText, hparse]
  rfl

/-- A second pattern discards the first, wherever it stands. -/
theorem ofJson?_second {pattern value : Json} {first last : List (String × Json)}
    (hsecond : first ++ last = before ++ ("sourcePattern", pattern) :: after) :
    ofJson? (Json.ofMembers (first ++ ("sourcePattern", value) :: last)) = none := by
  -- The keys are only counted, so both patterns can be taken to the front.
  have hperm : (first ++ ("sourcePattern", value) :: last).Perm
      (("sourcePattern", value) :: ("sourcePattern", pattern) :: (before ++ after)) :=
    List.perm_middle.trans (hsecond ▸ List.perm_middle.cons _)
  rw [← Option.not_isSome_iff_eq_none, Json.ofMembers, ofJson?, isSome_ofMembers?_iff]
  rintro ⟨-, -, hcount⟩
  rw [patternCount, ((hperm.map _).map _).count_eq, List.map_cons, List.map_cons, List.map_cons,
    List.map_cons, List.count_cons_self, List.count_cons_self] at hcount
  omega

end Config

/-- A text with a pattern in it gives this pattern, however the text is written and whatever else
it holds. If the text goes on after its end, if the value is no text or if there is a second
pattern, it gives the default. -/
theorem config_text_read_whole_or_default (pattern : String) (before after : List (String × Json))
    (hothers : ∀ member ∈ before ++ after, member.1 ≠ "sourcePattern") :
    (∀ text, Config.IsTextFor (.ofString pattern) before after text →
      Config.ofText text = { sourcePattern := pattern } ∧
      ∀ more : String, (∃ c ∈ more.toList, Json.Token.isBlank c = false) →
        Config.ofText (text ++ more) = .default) ∧
    (∀ value text, value.text? = none → Config.IsTextFor value before after text →
      Config.ofText text = .default) ∧
    ∀ first last value text,
      first ++ last = before ++ ("sourcePattern", .ofString pattern) :: after →
      (Json.ofMembers (first ++ ("sourcePattern", value) :: last)).SpelledBy text →
      Config.ofText text = .default := by
  refine ⟨fun text htext => ⟨htext.ofText_eq hothers, fun more hmore => htext.ofText_append hmore⟩,
    fun value text hvalue htext => ?_, fun first last value text hsecond hspelled => ?_⟩
  · rw [htext.ofText_eq hothers, hvalue]
    rfl
  · rw [Config.ofText_eq hspelled, Config.ofJson?_second hsecond]
    rfl

theorem config_text_read_whole_or_default_sample :
    Config.ofText ("\x7b\"note\":\x7b\"sourcePattern\":[1.5e3]\x7d, " ++
        "\"source\\u0050attern\": \"^@app\\/\\ud83d\\ude00\\n$\"\t\x7d") =
      { sourcePattern := "^@app/😀\n$" } ∧
    Config.ofText ("[ \"^@app/😀\\u000A$\" ]" ++ " \x7d") = .default ∧
    Config.ofText "[[\"^@app/😀\\n$\"]]" = .default ∧
    Config.ofText ("\x7b\"note\":\x7b\"sourcePattern\":[1.5e3]\x7d, " ++
        "\"sourcePattern\": \"^@app/😀\\n$\", \"sourcePattern\": null\x7d") = .default := by
  let pattern := "^@app/😀\n$"
  let before : List (String × Json) :=
    [("note", .ofMembers [("sourcePattern", .array [.number "1.5e3"])])]
  obtain ⟨hwhole, hnoText, hsecond⟩ :=
    config_text_read_whole_or_default pattern before [] (by decide)
  have hobject : Json.SpelledBy (.ofMembers (before ++ [("sourcePattern", .ofString pattern)]))
      ("\x7b\"note\":\x7b\"sourcePattern\":[1.5e3]\x7d, " ++
        "\"source\\u0050attern\": \"^@app\\/\\ud83d\\ude00\\n$\"\t\x7d") :=
    Json.parse?_eq_some_iff.1 (by with_unfolding_all rfl)
  have hlist : Json.SpelledBy (.array [.ofString pattern]) "[ \"^@app/😀\\u000A$\" ]" :=
    Json.parse?_eq_some_iff.1 (by with_unfolding_all rfl)
  have hnested : Json.SpelledBy (.array [.array [.ofString pattern]]) "[[\"^@app/😀\\n$\"]]" :=
    Json.parse?_eq_some_iff.1 (by with_unfolding_all rfl)
  have htwice : Json.SpelledBy (.ofMembers (before ++
        [("sourcePattern", .ofString pattern), ("sourcePattern", .null)]))
      ("\x7b\"note\":\x7b\"sourcePattern\":[1.5e3]\x7d, " ++
        "\"sourcePattern\": \"^@app/😀\\n$\", \"sourcePattern\": null\x7d") :=
    Json.parse?_eq_some_iff.1 (by with_unfolding_all rfl)
  refine ⟨(hwhole _ (.inl hobject)).1, (hwhole _ (.inr hlist)).2 _ ⟨'\x7d', by decide, rfl⟩,
    hnoText _ _ rfl (.inr hnested), ?_⟩
  exact hsecond (before ++ [("sourcePattern", .ofString pattern)]) [] .null _ rfl htwice

end MarkerExpansion
