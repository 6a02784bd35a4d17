import MarkerExpansion.Proofs.Reference.Address

/-!
The lists of references.

Bindings of one name share a list: the uses of the first come first, each numbered for itself. The
marker calls are those of the bindings that carry the marker's name, because a renamed marker is not
called under it.
-/

namespace MarkerExpansion

/-- Whether a binding binds the marker under its own name. -/
def Binding.isMarker (binding : Binding) : Bool :=
  binding.imported = markerName && binding.symbol.name = markerName

/-- The uses of a symbol are numbered one after the other. -/
theorem map_ordinal_usesFrom (symbol : Symbol) (start : Nat) (occurrences : List Occurrence) :
    (usesFrom symbol start occurrences).map Reference.ordinal =
      List.range' start (occurrences.countP (Occurrence.names symbol)) := by
  rw [usesFrom, List.map_map, List.countP_eq_length_filter]
  exact List.zipIdx_map_snd start _

theorem ImportSpecifier.exists_binding_of_namesMarker {specifier : ImportSpecifier}
    (hnames : specifier.namesMarker) :
    ∃ binding, specifier.binding? = some binding ∧ binding.imported = markerName := by
  unfold namesMarker at hnames
  split at hnames
  · exact ⟨_, rfl, by simpa using hnames⟩
  · cases hnames

theorem References.exists_uses_of_markerCalls {references : References}
    (hcalls : references.markerCalls = .ok []) :
    ∃ uses, references.get? markerName = some uses ∧ ∀ use ∈ uses, use.kind ≠ .call := by
  unfold markerCalls at hcalls
  split at hcalls
  · cases hcalls
  · next uses huses => exact ⟨uses, huses, by simpa using hcalls⟩

namespace Program

theorem bringsMarker_of_mem_markerImports {program : Program} {pattern : Pattern}
    {decl : ImportDecl} (hdecl : decl ∈ program.markerImports pattern) :
    decl.bringsMarker pattern := by
  unfold markerImports at hdecl
  split at hdecl
  · obtain ⟨item, _, hitem⟩ := List.mem_filterMap.1 hdecl
    unfold Node.markerImport? at hitem
    split at hitem
    · split at hitem
      · next hbrings =>
        cases hitem
        exact hbrings
      · cases hitem
    · cases hitem
  · cases hdecl

/-- The imports that are taken out of a program bind the marker. -/
theorem imported_of_takeImports {program taken : Program} {pattern : Pattern}
    {bindings : List Binding} (htake : program.takeImports pattern = (some bindings, taken)) :
    bindings.any fun binding => binding.imported = markerName := by
  unfold takeImports at htake
  split at htake
  · cases htake
  · next hsome =>
    cases htake
    obtain ⟨decl, hdecl⟩ := List.exists_mem_of_ne_nil _ hsome
    have hbrings := bringsMarker_of_mem_markerImports hdecl
    obtain ⟨specifier, hspecifier, hnames⟩ :=
      List.any_eq_true.1 (Bool.and_eq_true_iff.1 hbrings).2
    obtain ⟨binding, hbinding, himported⟩ :=
      ImportSpecifier.exists_binding_of_namesMarker hnames
    refine List.any_eq_true.2 ⟨binding, ?_, decide_eq_true himported⟩
    exact List.mem_flatMap.2 ⟨decl, hdecl, List.mem_filterMap.2 ⟨specifier, hspecifier, hbinding⟩⟩

theorem pairwise_uses (program : Program) (symbol : Symbol) :
    (program.uses symbol).Pairwise fun use other => use.ordinal < other.ordinal := by
  rw [← List.pairwise_map, uses_eq_usesFrom, map_ordinal_usesFrom]
  exact List.pairwise_lt_range'

/-- The uses listed under a name are those of the symbols that were imported by it, in the order of
the bindings. -/
theorem get?_references (program : Program) (bindings : List Binding) (name : String) :
    (program.references bindings).get? name =
      if bindings.any fun binding => binding.imported = name then
        some ((bindings.filter fun binding => binding.imported = name).flatMap fun binding =>
          program.uses binding.symbol)
      else none := by
  induction bindings using List.reverseRecOn with
  | nil => rfl
  | append_singleton bindings binding ih =>
    have hreferences : program.references (bindings ++ [binding]) =
        (program.references bindings).extend binding.imported (program.uses binding.symbol) := by
      rw [references, List.foldl_append]
      rfl
    rw [hreferences, References.get?_extend]
    by_cases hname : name = binding.imported
    · subst hname
      rw [ih]
      cases hany : bindings.any fun other => other.imported = binding.imported with
      | true => simp
      | false =>
        have hnone : bindings.filter (fun other => other.imported = binding.imported) = [] := by
          simpa using hany
        simp [hnone]
    · have hother : binding.imported ≠ name := Ne.symm hname
      simp [hname, hother, ih]

/-- A symbol with another name than the marker's has no marker calls. -/
theorem filter_call_uses {symbol : Symbol} (hname : symbol.name ≠ markerName) (program : Program) :
    (program.uses symbol).filter (fun use => use.kind = .call) = [] := by
  rw [List.filter_eq_nil_iff]
  intro use huse
  obtain ⟨visit, occurrence, _, _, rfl, rfl⟩ := exists_visit_of_mem_uses huse
  simp [Visit.reference, Occurrence.kind, hname]

/-- The marker calls among the references of some bindings, last one first. -/
theorem markerCalls_references (program : Program) {bindings : List Binding}
    (himported : bindings.any fun binding => binding.imported = markerName) :
    (program.references bindings).markerCalls =
      .ok (((bindings.filter Binding.isMarker).flatMap fun binding =>
        (program.uses binding.symbol).filter fun use => use.kind = .call).reverse) := by
  have hcalls : ((bindings.filter fun binding => binding.imported = markerName).flatMap fun
        binding => program.uses binding.symbol).filter (fun use => use.kind = .call) =
      (bindings.filter Binding.isMarker).flatMap fun binding =>
        (program.uses binding.symbol).filter fun use => use.kind = .call := by
    clear himported
    induction bindings with
    | nil => rfl
    | cons binding bindings ih =>
      by_cases himported : binding.imported = markerName
      · by_cases hname : binding.symbol.name = markerName
        · simp [Binding.isMarker, himported, hname, ih]
        · simp [Binding.isMarker, himported, hname, ih, filter_call_uses hname]
      · simp [Binding.isMarker, himported, ih]
  rw [References.markerCalls, get?_references, if_pos himported, ← hcalls]
  simp only [List.filter_reverse]

end Program

end MarkerExpansion
