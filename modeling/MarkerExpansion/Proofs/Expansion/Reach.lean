import MarkerExpansion.Proofs.Expansion.Run

/-!
The moments of an expansion.

Between two marker calls an expansion is at a moment: the calls before are carried out, the others
are pending. What holds of a whole expansion is shown by going from one moment to the next.
-/

namespace MarkerExpansion

/-- An expansion of `program` that carries out `calls` comes to `current` when the calls in
`pending` are left to do and those before them have reported `done`. -/
inductive Program.Reaches (program : Program) (calls : List Reference) :
    Program → List Reference → List Decorated → Prop
  | start : Reaches program calls program calls []
  | step {current next : Program} {reference : Reference} {pending : List Reference}
      {done : List Decorated} {decorated : Decorated}
      (hcurrent : Reaches program calls current (reference :: pending) done)
      (hstep : current.decorateReference reference = .ok (next, decorated)) :
      Reaches program calls next pending (done ++ [decorated])

namespace Program

variable {program current : Program} {calls pending : List Reference} {done : List Decorated}

/-- The calls that are pending are the last ones. -/
theorem Reaches.suffix (hreaches : program.Reaches calls current pending done) :
    pending <:+ calls := by
  induction hreaches with
  | start => exact List.suffix_refl calls
  | step _ _ ih => exact List.IsSuffix.trans (List.suffix_cons _ _) ih

/-- A run of the pending calls goes from any moment on to the last one: either no call is left, or
the next one fails and the program stays as it is at that moment. -/
theorem Reaches.exists_last (hreaches : program.Reaches calls current pending done) :
    ∃ left, program.Reaches calls (current.decorateAll pending).program left
        (done ++ (current.decorateAll pending).decorated) ∧
      ((current.decorateAll pending).failure = none → left = []) ∧
      ∀ error, (current.decorateAll pending).failure = some error → ∃ reference rest,
        left = reference :: rest ∧
        (current.decorateAll pending).program.decorateReference reference = .error error := by
  induction pending generalizing current done with
  | nil => exact ⟨[], by simpa [decorateAll] using hreaches, fun _ => rfl, by simp [decorateAll]⟩
  | cons reference pending ih =>
    rw [decorateAll]
    cases hstep : current.decorateReference reference with
    | error error =>
      refine ⟨reference :: pending, by simpa using hreaches, by simp, ?_⟩
      intro other hother
      cases hother
      exact ⟨reference, pending, rfl, hstep⟩
    | ok result =>
      obtain ⟨next, decorated⟩ := result
      obtain ⟨left, hleft, hsuccess, hfailure⟩ := ih (hreaches.step hstep)
      exact ⟨left, by simpa using hleft, hsuccess, hfailure⟩

theorem Reaches.invariant {motive : Program → Prop}
    (hreaches : program.Reaches calls current pending done) (hstart : motive program)
    (hstep : ∀ {before after : Program} {slot : Slot} {decorated : Decorated},
      before.decorate slot = .ok (after, decorated) → motive before → motive after) :
    motive current := by
  induction hreaches with
  | start => exact hstart
  | step _ hreference ih =>
    obtain ⟨slot, _, hdecorate⟩ := decorateReference_eq_ok.1 hreference
    exact hstep hdecorate ih

/-- What every decoration keeps holds of the program that an expansion leaves, wherever it ends. -/
theorem expand_invariant {motive : Program → Prop} (hstart : motive program)
    (hstep : ∀ {before after : Program} {slot : Slot} {decorated : Decorated},
      before.decorate slot = .ok (after, decorated) → motive before → motive after)
    (references : References) : motive (program.expand references).program := by
  unfold expand
  cases references.markerCalls with
  | error error => exact hstart
  | ok calls =>
    obtain ⟨left, hlast, _⟩ := (Reaches.start : program.Reaches calls _ _ _).exists_last
    exact hlast.invariant hstart hstep

/-- An expansion that fails leaves the program of the moment at which it does: either there is no
list of marker calls, or the first call that is pending cannot be carried out. -/
theorem failure_expand {references : References} {error : Error}
    (hfailure : (program.expand references).failure = some error) :
    (references.markerCalls = .error error ∧ program.expand references =
      { program, decorated := [], failure := some error }) ∨
    ∃ calls reference rest, references.markerCalls = .ok calls ∧
      program.Reaches calls (program.expand references).program (reference :: rest)
        (program.expand references).decorated ∧
      (program.expand references).program.decorateReference reference = .error error := by
  unfold expand at hfailure ⊢
  cases hcalls : references.markerCalls with
  | error other =>
    rw [hcalls] at hfailure
    cases hfailure
    exact .inl ⟨rfl, rfl⟩
  | ok calls =>
    rw [hcalls] at hfailure
    obtain ⟨left, hlast, _, hfailed⟩ := (Reaches.start : program.Reaches calls _ _ _).exists_last
    obtain ⟨reference, rest, rfl, hreference⟩ := hfailed error hfailure
    exact .inr ⟨calls, reference, rest, rfl, hlast, hreference⟩

end Program

end MarkerExpansion
