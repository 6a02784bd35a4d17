import MarkerExpansion.Expansion

/-!
Runs of an expansion.

A run carries out marker calls one after the other, each on the program that the one before has
left. Its outcome is compared with what the calls would do to the untouched program, one by one.
-/

namespace MarkerExpansion

namespace Program

theorem decorateReference_eq_ok {program : Program} {reference : Reference}
    {result : Program × Decorated} :
    program.decorateReference reference = .ok result ↔ ∃ slot,
      program.enclosingStatement reference = .ok slot ∧ program.decorate slot = .ok result := by
  rw [decorateReference]
  cases program.enclosingStatement reference with
  | error error => simp [bind, Except.bind]
  | ok slot => simp [bind, Except.bind]

/-- What marker calls do, each on the same program, and the first error among them. -/
def judge (program : Program) : List Reference → List Decorated × Option Error
  | [] => ([], none)
  | reference :: references =>
    match program.decorateReference reference with
    | .error error => ([], some error)
    | .ok (_, decorated) =>
      let (rest, failure) := program.judge references
      (decorated :: rest, failure)

theorem judge_append (program : Program) (left right : List Reference) :
    program.judge (left ++ right) =
      match program.judge left with
      | (decorated, some error) => (decorated, some error)
      | (decorated, none) =>
        let (rest, failure) := program.judge right
        (decorated ++ rest, failure) := by
  induction left with
  | nil => simp [judge]
  | cons reference left ih =>
    rw [List.cons_append, judge, judge, ih]
    cases program.decorateReference reference with
    | error error => rfl
    | ok result =>
      obtain ⟨decorated, failure⟩ := program.judge left
      cases failure <;> rfl

theorem judge_success {program : Program} {references : List Reference} :
    (program.judge references).2 = none ↔
      ∀ reference ∈ references, ∃ result, program.decorateReference reference = .ok result := by
  induction references with
  | nil => simp [judge]
  | cons reference references ih =>
    rw [judge, List.forall_mem_cons, ← ih]
    cases hreference : program.decorateReference reference with
    | error error => simp
    | ok result => simp

theorem length_judge {program : Program} {references : List Reference}
    (hsuccess : (program.judge references).2 = none) :
    (program.judge references).1.length = references.length := by
  induction references with
  | nil => rfl
  | cons reference references ih =>
    rw [judge] at hsuccess ⊢
    cases hreference : program.decorateReference reference with
    | error error => simp [hreference] at hsuccess
    | ok result =>
      rw [hreference] at hsuccess
      exact congrArg Nat.succ (ih hsuccess)

theorem judge_decorated {program : Program} {references : List Reference} {index : Nat}
    {decorated : Decorated} (hdecorated : (program.judge references).1[index]? = some decorated) :
    ∃ reference edited, references[index]? = some reference ∧
      program.decorateReference reference = .ok (edited, decorated) := by
  induction references generalizing index with
  | nil => simp [judge] at hdecorated
  | cons reference references ih =>
    rw [judge] at hdecorated
    cases hreference : program.decorateReference reference with
    | error error => simp [hreference] at hdecorated
    | ok result =>
      rw [hreference] at hdecorated
      cases index with
      | zero =>
        cases hdecorated
        exact ⟨reference, result.1, rfl, hreference⟩
      | succ index => exact ih hdecorated

theorem judge_failure {program : Program} {earlier : List Reference}
    (hearlier : ∀ reference ∈ earlier, ∃ result,
      program.decorateReference reference = .ok result)
    {reference : Reference} {error : Error}
    (hreference : program.decorateReference reference = .error error) (later : List Reference) :
    (program.judge (earlier ++ reference :: later)).2 = some error ∧
      (program.judge (earlier ++ reference :: later)).1.length = earlier.length := by
  induction earlier with
  | nil => simp [judge, hreference]
  | cons first earlier ih =>
    obtain ⟨result, hfirst⟩ := hearlier first (List.mem_cons_self ..)
    obtain ⟨hfailure, hlength⟩ := ih fun other hother =>
      hearlier other (List.mem_cons_of_mem _ hother)
    rw [List.cons_append, judge, hfirst]
    exact ⟨hfailure, congrArg Nat.succ hlength⟩

/-- A run that succeeds goes on from the program that it has left. -/
theorem decorateAll_append (program : Program) (left right : List Reference) :
    program.decorateAll (left ++ right) =
      match (program.decorateAll left).failure with
      | some _ => program.decorateAll left
      | none =>
        let rest := (program.decorateAll left).program.decorateAll right
        { rest with decorated := (program.decorateAll left).decorated ++ rest.decorated } := by
  induction left generalizing program with
  | nil => simp [decorateAll]
  | cons reference left ih =>
    rw [List.cons_append, decorateAll, decorateAll]
    cases program.decorateReference reference with
    | error error => rfl
    | ok result =>
      simp only [ih]
      cases hfailure : (result.1.decorateAll left).failure <;> simp [hfailure]

end Program

/-- What is known of a run of `references` that begins with `current`, where `program` is the
program before any run. -/
structure Runs (program current : Program) (references : List Reference)
    (result : Option Program) : Prop where
  /-- The run does what the calls would do to the untouched program. -/
  judged : ((current.decorateAll references).decorated, (current.decorateAll references).failure) =
    program.judge references
  /-- A run that succeeds leaves the result. -/
  reaches : (current.decorateAll references).failure = none →
    result = some (current.decorateAll references).program
  /-- If there is a result, only a call outside of any statement can fail. -/
  completes : result.isSome →
    (∀ reference ∈ references, ∃ slot, program.enclosingStatement reference = .ok slot) →
      (current.decorateAll references).failure = none

namespace Runs

variable {program current : Program}

theorem nil (program current : Program) : Runs program current [] (some current) :=
  ⟨rfl, fun _ => rfl, fun _ _ => rfl⟩

/-- A run whose first part makes `part` goes on from the program with it, if there is any. -/
theorem append {α : Type} {left right : List Reference} {part : Option α} {fill : α → Program}
    {result : Option Program} (hleft : Runs program current left (part.map fill))
    (hnone : part = none → result = none)
    (hright : ∀ new, part = some new → Runs program (fill new) right result) :
    Runs program current (left ++ right) result := by
  have hjudged := hleft.judged
  cases hfailure : (current.decorateAll left).failure with
  | some error =>
    have hall : current.decorateAll (left ++ right) = current.decorateAll left := by
      rw [Program.decorateAll_append, hfailure]
    constructor
    · rw [hall, Program.judge_append, ← hjudged, hfailure]
    · rw [hall, hfailure]
      intro h
      cases h
    · intro hresult hlocated
      have hpart : (part.map fill).isSome := by
        cases part with
        | none => rwa [hnone rfl] at hresult
        | some new => rfl
      have hsuccess := hleft.completes hpart fun reference hreference =>
        hlocated reference (List.mem_append_left _ hreference)
      rw [hfailure] at hsuccess
      cases hsuccess
  | none =>
    obtain ⟨new, hnew, hfill⟩ := Option.map_eq_some_iff.1 (hleft.reaches hfailure)
    have hrest := hright new hnew
    have hall := current.decorateAll_append left right
    simp only [hfailure, ← hfill] at hall
    constructor
    · rw [hall, Program.judge_append, ← hjudged, hfailure, ← hrest.judged]
    · rw [hall]
      exact hrest.reaches
    · rw [hall]
      intro hresult hlocated
      exact hrest.completes hresult fun reference hreference =>
        hlocated reference (List.mem_append_right _ hreference)

/-- One call that does to the current program what it would do to the untouched one. -/
theorem step {reference : Reference} {made would : Except Error (Program × Decorated)}
    (hmade : current.decorateReference reference = made)
    (hwould : program.decorateReference reference = would)
    (hsame : made.map Prod.snd = would.map Prod.snd) :
    Runs program current [reference] (made.toOption.map Prod.fst) := by
  subst hmade hwould
  cases hmade : current.decorateReference reference with
  | error error =>
    cases hwould : program.decorateReference reference with
    | ok result => simp [hmade, hwould, Except.map] at hsame
    | error other =>
      simp only [hmade, hwould, Except.map, Except.error.injEq] at hsame
      subst hsame
      refine ⟨?_, ?_, ?_⟩
      · simp [Program.decorateAll, Program.judge, hmade, hwould]
      · simp [Program.decorateAll, hmade]
      · simp [Except.toOption]
  | ok result =>
    cases hwould : program.decorateReference reference with
    | error error => simp [hmade, hwould, Except.map] at hsame
    | ok other =>
      simp only [hmade, hwould, Except.map, Except.ok.injEq] at hsame
      refine ⟨?_, ?_, ?_⟩
      · simp [Program.decorateAll, Program.judge, hmade, hwould, hsame]
      · simp [Program.decorateAll, hmade, Except.toOption]
      · simp [Program.decorateAll, hmade]

/-- One call that is not to be found in a statement, on the current program and on the untouched
one. -/
theorem misplaced {reference : Reference} {error : Error}
    (hcurrent : current.enclosingStatement reference = .error error)
    (hprogram : program.enclosingStatement reference = .error error) (result : Option Program) :
    Runs program current [reference] result := by
  have hmade : current.decorateReference reference = .error error := by
    simp [Program.decorateReference, hcurrent, bind, Except.bind]
  have hwould : program.decorateReference reference = .error error := by
    simp [Program.decorateReference, hprogram, bind, Except.bind]
  refine ⟨?_, ?_, ?_⟩
  · simp [Program.decorateAll, Program.judge, hmade, hwould]
  · simp [Program.decorateAll, hmade]
  · intro _ hlocated
    obtain ⟨slot, hslot⟩ := hlocated reference (List.mem_singleton.2 rfl)
    rw [hprogram] at hslot
    cases hslot

end Runs

end MarkerExpansion
