import MarkerExpansion.Pattern.Matcher
import Mathlib.Logic.Function.Iterate

/-!
What a pattern takes from a text, and that the matcher finds it.

A pattern is described by the parts of a text that it takes, each given by the place where it starts
and the place where it stops. The matcher knows nothing of parts: it follows sets of places. That it
gives exactly the places where a part can stop needs an argument for repetition only. There the
matcher gives up as soon as a round changes nothing, and after as many rounds as the text has
characters, because a round that takes nothing can be left out.
-/

namespace MarkerExpansion.Pattern

/-- A way from one place to another in a given number of steps. -/
inductive Steps (step : Nat → Nat → Prop) : Nat → Nat → Nat → Prop
  | stay (place : Nat) : Steps step 0 place place
  | move {count start middle stop : Nat} (hfirst : step start middle)
      (hrest : Steps step count middle stop) : Steps step (count + 1) start stop

/-- Whether the pattern takes the part of the text between two places. A repetition takes its body
`least` times, and then as many times more as `most` allows. -/
def Takes (text : Array Char) : Pattern → Nat → Nat → Prop
  | .empty, start, stop => start = stop
  | .char set, start, stop =>
    start + 1 = stop ∧ ∃ c, text[start]? = some c ∧ set.contains c = true
  | .assert assertion, start, stop =>
    start = stop ∧ start ≤ text.size ∧ assertion.holds text start = true
  | .seq first second, start, stop =>
    ∃ middle, first.Takes text start middle ∧ second.Takes text middle stop
  | .alt left right, start, stop => left.Takes text start stop ∨ right.Takes text start stop
  | .times body least most, start, stop =>
    ∃ more, (∀ bound, most = some bound → more ≤ bound - least) ∧
      Steps (body.Takes text) (least + more) start stop

/-- A step that stays or goes forward, at most to the end of a text with `size` characters. -/
def Forward (size : Nat) (step : Nat → Nat → Prop) : Prop :=
  ∀ start stop, step start stop → start = stop ∨ start < stop ∧ stop ≤ size

namespace Steps

variable {step : Nat → Nat → Prop}

theorem zero_iff {start stop : Nat} : Steps step 0 start stop ↔ start = stop := by
  constructor
  · rintro ⟨⟩
    rfl
  · rintro rfl
    exact .stay start

theorem succ_iff {count start stop : Nat} :
    Steps step (count + 1) start stop ↔
      ∃ middle, step start middle ∧ Steps step count middle stop := by
  constructor
  · rintro (_ | ⟨hfirst, hrest⟩)
    exact ⟨_, hfirst, hrest⟩
  · rintro ⟨middle, hfirst, hrest⟩
    exact .move hfirst hrest

theorem add_iff {first second start stop : Nat} :
    Steps step (first + second) start stop ↔
      ∃ middle, Steps step first start middle ∧ Steps step second middle stop := by
  induction first generalizing start with
  | zero => simp [zero_iff]
  | succ first ih =>
    rw [Nat.add_right_comm, succ_iff]
    simp only [ih, succ_iff]
    constructor
    · rintro ⟨next, hnext, middle, hfirst, hsecond⟩
      exact ⟨middle, ⟨next, hnext, hfirst⟩, hsecond⟩
    · rintro ⟨middle, ⟨next, hnext, hfirst⟩, hsecond⟩
      exact ⟨next, hnext, middle, hfirst, hsecond⟩

/-- Steps that may also stay where they are make up at most as many steps that do not. -/
theorem or_stay_iff {bound start stop : Nat} :
    Steps (fun start stop => start = stop ∨ step start stop) bound start stop ↔
      ∃ count ≤ bound, Steps step count start stop := by
  constructor
  · intro hsteps
    induction hsteps with
    | stay place => exact ⟨0, Nat.le_refl 0, .stay place⟩
    | move hfirst _ ih =>
      obtain ⟨count, hcount, hrest⟩ := ih
      cases hfirst with
      | inl heq => exact ⟨count, Nat.le_succ_of_le hcount, heq ▸ hrest⟩
      | inr hstep => exact ⟨count + 1, Nat.succ_le_succ hcount, .move hstep hrest⟩
  · rintro ⟨count, hcount, hsteps⟩
    induction hsteps generalizing bound with
    | stay place =>
      clear hcount
      induction bound with
      | zero => exact .stay place
      | succ bound ih => exact .move (.inl rfl) ih
    | move hfirst _ ih =>
      cases bound with
      | zero => cases hcount
      | succ bound => exact .move (.inr hfirst) (ih (Nat.le_of_succ_le_succ hcount))

theorem forward {size count : Nat} (hforward : Forward size step) :
    Forward size (Steps step count) := by
  intro start stop hsteps
  induction hsteps with
  | stay place => exact .inl rfl
  | move hfirst _ ih =>
    have hstep := hforward _ _ hfirst
    omega

/-- Steps that stay can be left out, and each of the others takes a character. -/
theorem exists_le_size {size count start stop : Nat} (hforward : Forward size step)
    (hsteps : Steps step count start stop) : ∃ fewer ≤ size, Steps step fewer start stop := by
  have hfewer : ∃ fewer ≤ stop - start, Steps step fewer start stop := by
    induction hsteps with
    | stay place => exact ⟨0, Nat.zero_le _, .stay place⟩
    | move hfirst hrest ih =>
      obtain ⟨fewer, hfewer, hsteps⟩ := ih
      have hrest := forward hforward _ _ hrest
      obtain rfl | ⟨hlt, _⟩ := hforward _ _ hfirst
      · exact ⟨fewer, hfewer, hsteps⟩
      · exact ⟨fewer + 1, by omega, .move hfirst hsteps⟩
  obtain rfl | ⟨_, hstop⟩ := forward hforward _ _ hsteps
  · exact ⟨0, Nat.zero_le _, .stay start⟩
  · obtain ⟨fewer, hle, hsteps⟩ := hfewer
    exact ⟨fewer, by omega, hsteps⟩

/-- Without a bound, as many steps as the text has characters are enough. -/
theorem exists_le_elim_iff {size least start stop : Nat} {most : Option Nat}
    (hforward : Forward size step) :
    (∃ count ≤ most.elim size (· - least), Steps step count start stop) ↔
      ∃ more, (∀ bound, most = some bound → more ≤ bound - least) ∧
        Steps step more start stop := by
  cases most with
  | none =>
    constructor
    · rintro ⟨count, _, hsteps⟩
      exact ⟨count, nofun, hsteps⟩
    · rintro ⟨more, _, hsteps⟩
      exact hsteps.exists_le_size hforward
  | some bound => simp

end Steps

theorem takes_forward (pattern : Pattern) (text : Array Char) :
    Forward text.size (pattern.Takes text) := by
  induction pattern with
  | empty => exact fun start stop htakes => .inl htakes
  | char set =>
    rintro start stop ⟨rfl, c, hc, _⟩
    obtain ⟨hstart, _⟩ := Array.getElem?_eq_some_iff.1 hc
    exact .inr ⟨Nat.lt_succ_self start, hstart⟩
  | assert assertion => exact fun start stop htakes => .inl htakes.1
  | seq first second ihFirst ihSecond =>
    rintro start stop ⟨middle, hfirst, hsecond⟩
    have hfirst := ihFirst _ _ hfirst
    have hsecond := ihSecond _ _ hsecond
    omega
  | alt left right ihLeft ihRight =>
    rintro start stop (hleft | hright)
    · exact ihLeft _ _ hleft
    · exact ihRight _ _ hright
  | times body least most ih =>
    rintro start stop ⟨more, _, hsteps⟩
    exact hsteps.forward ih

/-- A function on sets of places that goes from each place to those where `step` leads. -/
def Follows (step : Nat → Nat → Prop) (move : Places → Places) : Prop :=
  ∀ places stop, (move places).contains stop = true ↔
    ∃ start, places.contains start = true ∧ step start stop

theorem Follows.iterate {step : Nat → Nat → Prop} {move : Places → Places}
    (hmove : Follows step move) (count : Nat) : Follows (Steps step count) move^[count] := by
  induction count with
  | zero =>
    intro places stop
    simp [Steps.zero_iff]
  | succ count ih =>
    intro places stop
    rw [Function.iterate_succ_apply, ih]
    simp only [hmove places, Steps.succ_iff]
    constructor
    · rintro ⟨middle, ⟨start, hstart, hfirst⟩, hrest⟩
      exact ⟨start, hstart, middle, hfirst, hrest⟩
    · rintro ⟨start, hstart, middle, hfirst, hrest⟩
      exact ⟨middle, ⟨start, hstart, hfirst⟩, hrest⟩

theorem Follows.orStay {step : Nat → Nat → Prop} {move : Places → Places}
    (hmove : Follows step move) :
    Follows (fun start stop => start = stop ∨ step start stop)
      fun places => places.union (move places) := by
  intro places stop
  rw [Places.contains_union, Bool.or_eq_true, hmove places]
  constructor
  · rintro (hstop | ⟨start, hstart, hstep⟩)
    · exact ⟨stop, hstop, .inl rfl⟩
    · exact ⟨start, hstart, .inr hstep⟩
  · rintro ⟨start, hstart, rfl | hstep⟩
    · exact .inl hstart
    · exact .inr ⟨start, hstart, hstep⟩

/-- To stop at a set that no longer changes makes no difference. -/
theorem stepTimes_eq_iterate (move : Places → Places) (count : Nat) (places : Places) :
    stepTimes move count places = move^[count] places := by
  induction count generalizing places with
  | zero => rfl
  | succ count ih =>
    rw [stepTimes, Function.iterate_succ_apply]
    split
    · next hfixed => rw [hfixed, Function.iterate_fixed hfixed]
    · exact ih (move places)

theorem stepUpTo_eq_stepTimes (move : Places → Places) (count : Nat) (places : Places) :
    stepUpTo move count places = stepTimes (fun places => places.union (move places)) count places
    := by
  induction count generalizing places with
  | zero => rfl
  | succ count ih => simp only [stepUpTo, stepTimes, ih]

theorem Follows.stepUpTo {step : Nat → Nat → Prop} {move : Places → Places}
    (hmove : Follows step move) (bound : Nat) :
    Follows (fun start stop => ∃ count ≤ bound, Steps step count start stop)
      (Pattern.stepUpTo move bound) := by
  intro places stop
  rw [stepUpTo_eq_stepTimes, stepTimes_eq_iterate, hmove.orStay.iterate bound places]
  simp only [Steps.or_stay_iff]

/-- The matcher goes from each place to those where a part that the pattern takes can stop. -/
theorem follows_ends (pattern : Pattern) (text : Array Char) :
    Follows (pattern.Takes text) (pattern.ends text) := by
  induction pattern with
  | empty =>
    intro places stop
    simp [ends, Takes]
  | char set =>
    intro places stop
    simp only [ends, Takes, Places.contains_next, Places.contains_below, Bool.and_eq_true,
      decide_eq_true_eq, Option.any_eq_true]
    constructor
    · rintro ⟨hpos, _, hplace, hc⟩
      exact ⟨stop - 1, hplace, Nat.sub_add_cancel hpos, hc⟩
    · rintro ⟨start, hplace, rfl, c, hc, hset⟩
      obtain ⟨hstart, _⟩ := Array.getElem?_eq_some_iff.1 hc
      exact ⟨Nat.succ_pos start, hstart, hplace, c, hc, hset⟩
  | assert assertion =>
    intro places stop
    simp only [ends, Takes, Places.contains_below, Bool.and_eq_true, decide_eq_true_eq,
      Nat.lt_succ_iff]
    constructor
    · rintro ⟨hstop, hplace, hholds⟩
      exact ⟨stop, hplace, rfl, hstop, hholds⟩
    · rintro ⟨start, hplace, rfl, hstart, hholds⟩
      exact ⟨hstart, hplace, hholds⟩
  | seq first second ihFirst ihSecond =>
    intro places stop
    rw [ends, ihSecond]
    simp only [ihFirst places, Takes]
    constructor
    · rintro ⟨middle, ⟨start, hstart, hfirst⟩, hsecond⟩
      exact ⟨start, hstart, middle, hfirst, hsecond⟩
    · rintro ⟨start, hstart, middle, hfirst, hsecond⟩
      exact ⟨middle, ⟨start, hstart, hfirst⟩, hsecond⟩
  | alt left right ihLeft ihRight =>
    intro places stop
    rw [ends, Places.contains_union, Bool.or_eq_true, ihLeft places, ihRight places]
    simp only [Takes, and_or_left, exists_or]
  | times body least most ih =>
    intro places stop
    rw [ends, ih.stepUpTo, stepTimes_eq_iterate]
    simp only [ih.iterate least places, Takes, Steps.add_iff,
      Steps.exists_le_elim_iff (takes_forward body text)]
    constructor
    · rintro ⟨middle, ⟨start, hstart, hfirst⟩, more, hmore, hrest⟩
      exact ⟨start, hstart, more, hmore, middle, hfirst, hrest⟩
    · rintro ⟨start, hstart, more, hmore, middle, hfirst, hrest⟩
      exact ⟨middle, ⟨start, hstart, hfirst⟩, more, hmore, hrest⟩

namespace Places

theorem contains_ext {left right : Places}
    (hcontains : ∀ place, left.contains place = right.contains place) : left = right := by
  obtain ⟨left⟩ := left
  obtain ⟨right⟩ := right
  exact congrArg mk (Nat.eq_of_testBit_eq hcontains)

theorem ne_empty_iff {places : Places} :
    places ≠ empty ↔ ∃ place, places.contains place = true := by
  constructor
  · intro hne
    by_contra hnone
    refine hne (contains_ext fun place => ?_)
    rw [contains_empty]
    exact Bool.eq_false_iff.2 fun hplace => hnone ⟨place, hplace⟩
  · rintro ⟨place, hplace⟩ rfl
    rw [contains_empty] at hplace
    cases hplace

end Places

/-- The search is not tied to the start or the end of the text: a text matches if the pattern takes
any part of it. -/
theorem matchesText_iff {pattern : Pattern} {text : String} :
    pattern.matchesText text = true ↔
      ∃ start stop, start ≤ text.toList.length ∧ pattern.Takes text.toList.toArray start stop := by
  rw [matchesText, decide_eq_true_iff, Places.ne_empty_iff]
  simp only [follows_ends pattern _ _, Places.contains_below, Bool.and_true, decide_eq_true_eq,
    Nat.lt_succ_iff, List.size_toArray]
  exact exists_comm

end MarkerExpansion.Pattern
