import MarkerExpansion.Proofs.Decoration.Earlier
import MarkerExpansion.Proofs.Expansion.Simulation

/-!
The outcome of an expansion is decided before its first step.

The calls that are carried out first may delete statements, change the function that an earlier call
decorates and edit code in its arguments. None of that shows in what the earlier call reports, or in
the error that it ends with.
-/

namespace MarkerExpansion

/-- Whether an expansion succeeds, what its steps report and the error that it ends with are what
the marker calls, last one first, do to the untouched program. -/
theorem expand_decided_by_program {program : Program} {symbol : Symbol}
    (hname : symbol.name = markerName)
    (hcalls : ∀ use ∈ program.uses symbol, use.kind = .call → ∀ slot,
      program.enclosingStatement use = .ok slot → program.calleeSlot? use = some slot) :
    let expansion := program.expand (program.references [⟨markerName, symbol⟩])
    let calls := (program.uses symbol).reverse.filter fun use => use.kind = .call
    (expansion.failure = none ↔ ∀ call ∈ calls, ∃ slot result,
      program.enclosingStatement call = .ok slot ∧ program.decorate slot = .ok result) ∧
    (expansion.failure = none → expansion.decorated.length = calls.length) ∧
    (∀ (index : Nat) decorated, expansion.decorated[index]? = some decorated → ∃ call slot edited,
      calls[index]? = some call ∧ program.enclosingStatement call = .ok slot ∧
        program.decorate slot = .ok (edited, decorated)) ∧
    ∀ earlier call later error, calls = earlier ++ call :: later →
      (∀ other ∈ earlier, ∃ result, program.decorateReference other = .ok result) →
      program.decorateReference call = .error error →
        expansion.failure = some error ∧ expansion.decorated.length = earlier.length := by
  intro expansion calls
  have hreferences : (callsFrom symbol 0 program.occurrences).reverse = calls := by
    simp [calls, callsFrom, Program.uses_eq_usesFrom]
  have hexpansion : expansion = program.decorateAll calls := by
    rw [← hreferences]
    exact program.expand_references symbol
  have hjudged : (expansion.decorated, expansion.failure) = program.judge calls := by
    have hruns := Program.runs_calls hname hcalls
    rw [hreferences] at hruns
    rw [hexpansion]
    exact hruns.judged
  have hdecorated : expansion.decorated = (program.judge calls).1 := congrArg Prod.fst hjudged
  have hfailure : expansion.failure = (program.judge calls).2 := congrArg Prod.snd hjudged
  rw [hdecorated, hfailure]
  refine ⟨?_, Program.length_judge, ?_, ?_⟩
  · rw [Program.judge_success]
    refine forall_congr' fun call => forall_congr' fun _ => ?_
    simp only [Program.decorateReference_eq_ok]
    exact exists_comm
  · intro index decorated hindex
    obtain ⟨call, edited, hcall, hresult⟩ := Program.judge_decorated hindex
    obtain ⟨slot, hslot, hresult⟩ := Program.decorateReference_eq_ok.1 hresult
    exact ⟨call, slot, edited, hcall, hslot, hresult⟩
  · intro earlier call later error hsplit hearlier herror
    rw [hsplit]
    exact Program.judge_failure hearlier herror later

theorem expand_decided_by_program_sample :
    let program := Sample.unfinished
    let expansion := program.expand (program.references [⟨markerName, Sample.marker⟩])
    (∀ use ∈ program.uses Sample.marker, use.kind = .call → ∀ slot,
      program.enclosingStatement use = .ok slot → program.calleeSlot? use = some slot) ∧
    expansion.failure = some ⟨⟨215, 255⟩, .noDeclaration⟩ ∧ expansion.decorated.length = 3 := by
  intro program expansion
  have hslots : ∀ use ∈ Sample.unfinished.uses Sample.marker, use.kind = .call →
      (Sample.unfinished.enclosingStatement use).toOption =
        Sample.unfinished.calleeSlot? use := by
    decide
  have hcalls : ∀ use ∈ program.uses Sample.marker, use.kind = .call → ∀ slot,
      program.enclosingStatement use = .ok slot → program.calleeSlot? use = some slot := by
    intro use huse hkind slot hslot
    rw [← hslots use huse hkind, hslot]
    rfl
  obtain ⟨_, _, _, hfailure⟩ := expand_decided_by_program rfl hcalls
  refine ⟨hcalls, hfailure [⟨Sample.marker, 4, ⟨121, 129⟩, .call⟩,
    ⟨Sample.marker, 3, ⟨41, 49⟩, .call⟩, ⟨Sample.marker, 1, ⟨1, 9⟩, .call⟩]
    ⟨Sample.marker, 0, ⟨216, 224⟩, .call⟩ [] _ rfl ?_ rfl⟩
  simp only [List.forall_mem_cons, List.not_mem_nil, false_implies, implies_true, and_true]
  exact ⟨⟨_, rfl⟩, ⟨_, rfl⟩, ⟨_, rfl⟩⟩

end MarkerExpansion
