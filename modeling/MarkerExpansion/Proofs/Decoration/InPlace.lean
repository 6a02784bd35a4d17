import MarkerExpansion.Proofs.Decoration.Inversion
import MarkerExpansion.Proofs.Decoration.Place

/-!
Decorating in place.

Here a program is edited where it stands. A walk counts the statement lists that it enters until it
comes to the one of the marker call. There the arguments are moved out of the call, the initializer
is overwritten and the statement is removed, one after the other. This comes to the same as a
decoration, and although nothing is ever undone, a program that cannot be decorated is left as it
was.
-/

namespace MarkerExpansion

/-- Steps that edit a statement list. What a step has changed stays changed if a later one fails. -/
abbrev ListEdit := ExceptT Error (StateM (List Node))

/-- What is left of a call, in parentheses or not, when all arguments but the first are moved
out. -/
def Node.withoutArguments : Node → Node
  | .paren span inner => .paren span inner.withoutArguments
  | .call span context callee arguments typeArguments =>
    .call span context callee (arguments.take 1) typeArguments
  | node => node

/-- The declaration of a target, with `init` as its initializer. -/
def Target.declarationWith (target : Target) (init : Node) : Node :=
  Declaration.toNode { target.declaration with
    declarators := [.declarator target.span target.definite target.pattern (some init)] }

namespace ListEdit

/-- The outcome of some steps on a list, and the list that they leave. -/
def apply {α : Type} (edit : ListEdit α) (items : List Node) : Except Error α × List Node :=
  edit.run.run items

section

variable {α β : Type} (items : List Node)

@[simp] theorem apply_pure (value : α) :
    apply (pure value : ListEdit α) items = (.ok value, items) := rfl

@[simp] theorem apply_throw (error : Error) :
    apply (throw error : ListEdit α) items = (.error error, items) := rfl

@[simp] theorem apply_get : apply (get : ListEdit (List Node)) items = (.ok items, items) := rfl

@[simp] theorem apply_modify (f : List Node → List Node) :
    apply (modify f : ListEdit Unit) items = (.ok (), f items) := rfl

@[simp] theorem apply_liftM (result : Except Error α) :
    apply (liftM result : ListEdit α) items = (result, items) := rfl

@[simp] theorem apply_bind (edit : ListEdit α) (next : α → ListEdit β) :
    apply (edit >>= next) items = match edit.apply items with
      | (.ok value, left) => (next value).apply left
      | (.error error, left) => (.error error, left) := by
  unfold apply ExceptT.run StateT.run
  simp only [bind, ExceptT.bind, ExceptT.mk, StateT.bind, ExceptT.bindCont]
  cases edit items with
  | mk result left => cases result <;> rfl

@[simp] theorem apply_map (edit : ListEdit α) (f : α → β) :
    apply (f <$> edit) items = ((edit.apply items).1.map f, (edit.apply items).2) := by
  unfold apply ExceptT.run StateT.run
  simp only [Functor.map, ExceptT.map, ExceptT.mk, bind, StateT.bind]
  cases edit items with
  | mk result left => cases result <;> rfl

end

/-- Carries out the marker call at `index`, step by step. -/
def decorate (index : Nat) : ListEdit Decorated := do
  let items ← get
  match items[index]? with
  | some (.exprStmt span expression) =>
    let target ← Target.find span (items.drop (index + 1))
    let call ← MarkerCall.ofStatement span expression
    -- Nothing can fail from here on.
    modify fun items => items.set index (.exprStmt span expression.withoutArguments)
    modify fun items => items.set (index + 1 + target.before.length)
      (target.declarationWith (call.expansion target.init))
    modify fun items => items.eraseIdx index
    return { decorator := call.decorator.symbol.name
             target := target.name?
             placeholders := call.arguments.countP MarkerCall.isPlaceholder }
  | _ => throw ⟨.dummy, .notFound⟩

/-- The three changes together replace the rest of the list by what the marker call makes of it. -/
theorem eraseIdx_set_set {span : Span} {right : List Node} {target : Target}
    (hfind : Target.find span right = .ok target) (left : List Node) (old new init : Node) :
    (((left ++ old :: right).set left.length new).set (left.length + 1 + target.before.length)
      (target.declarationWith init)).eraseIdx left.length = left ++ target.withInit init := by
  obtain rfl := Target.withInit_init hfind
  simp [Target.withInit, Target.declarationWith, Nat.add_assoc, Nat.add_comm 1,
    List.eraseIdx_append_of_length_le]

theorem apply_decorate (items : List Node) (index : Nat) :
    (decorate index).apply items = match decorateAt items index with
      | .ok (new, decorated) => (.ok decorated, new)
      | .error error => (.error error, items) := by
  by_cases hindex : index < items.length
  · obtain ⟨left, node, right, rfl, rfl⟩ : ∃ left node right,
        items = left ++ node :: right ∧ left.length = index :=
      ⟨items.take index, items[index], items.drop (index + 1), by simp, by simp; omega⟩
    rw [decorateAt_length_append]
    cases node with
    | exprStmt span expression =>
      rw [decorateAt_zero]
      cases hfind : Target.find span right with
      | error error =>
        simp only [bind, Except.bind, Except.map]
        simp [decorate, hfind]
      | ok target =>
        cases hcall : MarkerCall.ofStatement span expression with
        | error error =>
          simp only [bind, Except.bind, Except.map]
          simp [decorate, hfind, hcall]
        | ok call =>
          have hchanges := eraseIdx_set_set hfind left (.exprStmt span expression)
            (.exprStmt span expression.withoutArguments) (call.expansion target.init)
          simp only [bind, Except.bind, Except.map, pure, Except.pure]
          rw [← hchanges]
          simp [decorate, hfind, hcall, Except.map]
    | _ => simp [decorate, decorateAt, Except.map]
  · have hnone : items[index]? = none := by simpa using hindex
    have hdrop : items.drop index = [] := by simpa using hindex
    simp [decorate, decorateAt, hnone, hdrop]

end ListEdit

/-- What a walk that edits a program keeps in mind. -/
structure Editor where
  /-- How many statement lists were entered so far. -/
  entered : Nat
  /-- What came of the edit, once its list was found. -/
  outcome : Option (Except Error Decorated)

/-- Comes to a statement list. It is edited if it has the number that is looked for, and its items
are walked through otherwise. No list is entered after the one that was edited. -/
def Editor.enter (slot : Slot) (items : List Node) (walk : StateM Editor (List Node)) :
    StateM Editor (List Node) := do
  let editor ← get
  if editor.outcome.isSome then return items
  else
    set { editor with entered := editor.entered + 1 }
    if editor.entered = slot.container then
      let (outcome, edited) := (ListEdit.decorate slot.index).apply items
      modify fun editor => { editor with outcome := some outcome }
      return edited
    else walk

namespace Node

mutual

/-- Walks through a node and edits the statement list of `slot` on the way. -/
def edit (slot : Slot) : Node → StateM Editor Node
  | .ident identifier => pure (.ident identifier)
  | .binder identifier none => pure (.binder identifier none)
  | .binder identifier (some typing) =>
    (fun typing => .binder identifier (some typing)) <$> typing.edit slot
  | .word span name => pure (.word span name)
  | .call span context callee arguments none =>
    (fun callee arguments => .call span context callee arguments none)
      <$> callee.edit slot <*> editEach slot arguments
  | .call span context callee arguments (some typeArguments) =>
    (fun callee arguments typeArguments =>
      .call span context callee arguments (some typeArguments))
      <$> callee.edit slot <*> editEach slot arguments <*> typeArguments.edit slot
  | .argument spread value => .argument spread <$> value.edit slot
  | .member span object property => .member span <$> object.edit slot <*> property.edit slot
  | .paren span inner => .paren span <$> inner.edit slot
  | .exprStmt span expression => .exprStmt span <$> expression.edit slot
  | .varDecl span header declarators => .varDecl span header <$> editEach slot declarators
  | .declarator span definite pattern none =>
    (fun pattern => .declarator span definite pattern none) <$> pattern.edit slot
  | .declarator span definite pattern (some init) =>
    (fun pattern init => .declarator span definite pattern (some init))
      <$> pattern.edit slot <*> init.edit slot
  | .exportDecl span declaration => .exportDecl span <$> declaration.edit slot
  | .importDecl decl => pure (.importDecl decl)
  | .block span kind items =>
    .block span kind <$> Editor.enter slot items (editEach slot items)
  | .switchCase span none items =>
    .switchCase span none <$> Editor.enter slot items (editEach slot items)
  | .switchCase span (some test) items =>
    (fun test => .switchCase span (some test))
      <$> test.edit slot <*> Editor.enter slot items (editEach slot items)
  | .other form children => .other form <$> editEach slot children

/-- Walks through several nodes in a row. -/
def editEach (slot : Slot) : List Node → StateM Editor (List Node)
  | [] => pure []
  | node :: nodes => List.cons <$> node.edit slot <*> editEach slot nodes

end

end Node

/-- Edits the statement list of `slot` where it stands. -/
def Program.edit (program : Program) (slot : Slot) : Except Error Decorated × Program :=
  let (body, editor) :=
    (Editor.enter slot program.body (Node.editEach slot program.body)).run ⟨0, none⟩
  (editor.outcome.getD (.error ⟨.dummy, .notFound⟩), { program with body })

/-- What a walk does with a part of a program: `lists` are the statement lists of the part, and
`setList first new` is the part with `new` as the list that is looked for, where `first` is the
number of its first list. -/
structure Editor.Walks {α : Type} (slot : Slot) (walk : StateM Editor α) (part : α)
    (lists : List (List Node)) (setList : Nat → List Node → α) : Prop where
  /-- After the edit nothing changes any more. -/
  done : ∀ entered outcome, walk.run ⟨entered, some outcome⟩ = (part, ⟨entered, some outcome⟩)
  /-- A part without the list is passed over. -/
  passes : ∀ first, slot.container < first ∨ first + lists.length ≤ slot.container →
    walk.run ⟨first, none⟩ = (part, ⟨first + lists.length, none⟩)
  /-- In the part that has it the list is edited. -/
  edits : ∀ first offset items, slot.container = first + offset → lists[offset]? = some items →
    walk.run ⟨first, none⟩ =
      (setList first ((ListEdit.decorate slot.index).apply items).2,
        ⟨slot.container + 1, some ((ListEdit.decorate slot.index).apply items).1⟩)
  outside : ∀ first new, slot.container < first ∨ first + lists.length ≤ slot.container →
    setList first new = part
  unchanged : ∀ first offset items, slot.container = first + offset →
    lists[offset]? = some items → setList first items = part

namespace Editor.Walks

variable {α β : Type} {slot : Slot}

theorem leaf (part : α) : Walks slot (pure part) part [] fun _ _ => part where
  done _ _ := rfl
  passes _ _ := rfl
  edits _ _ _ _ hlists := by simp at hlists
  outside _ _ _ := rfl
  unchanged _ _ _ _ _ := rfl

theorem run_map (f : α → β) (walk : StateM Editor α) (editor : Editor) :
    (f <$> walk).run editor = (f (walk.run editor).1, (walk.run editor).2) := rfl

theorem run_seq (walk : StateM Editor (α → β)) (next : StateM Editor α) (editor : Editor) :
    (walk <*> next).run editor =
      ((walk.run editor).1 (next.run (walk.run editor).2).1,
        (next.run (walk.run editor).2).2) := rfl

theorem map {walk : StateM Editor α} {part : α} {lists : List (List Node)}
    {setList : Nat → List Node → α} (hwalk : Walks slot walk part lists setList) (f : α → β) :
    Walks slot (f <$> walk) (f part) lists fun first new => f (setList first new) where
  done entered outcome := by rw [run_map, hwalk.done]
  passes first houtside := by rw [run_map, hwalk.passes first houtside]
  edits first offset items hcontainer hitems := by
    rw [run_map, hwalk.edits first offset items hcontainer hitems]
  outside first new houtside := by rw [hwalk.outside first new houtside]
  unchanged first offset items hcontainer hitems := by
    rw [hwalk.unchanged first offset items hcontainer hitems]

/-- The second of two parts has the numbers that the first one leaves. The list can be in only one
of them. -/
theorem seq {walk : StateM Editor (α → β)} {part : α → β} {lists others : List (List Node)}
    {setList : Nat → List Node → α → β} {next : StateM Editor α} {other : α}
    {setOther : Nat → List Node → α} (hwalk : Walks slot walk part lists setList)
    (hnext : Walks slot next other others setOther) :
    Walks slot (walk <*> next) (part other) (lists ++ others) fun first new =>
      setList first new (setOther (first + lists.length) new) where
  done entered outcome := by rw [run_seq, hwalk.done, hnext.done]
  passes first houtside := by
    rw [List.length_append] at houtside ⊢
    rw [run_seq, hwalk.passes first (by omega), hnext.passes _ (by omega), Nat.add_assoc]
  edits first offset items hcontainer hitems := by
    by_cases hoffset : offset < lists.length
    -- The second part is walked through when all is done, and stays as it is.
    · rw [List.getElem?_append_left hoffset] at hitems
      rw [run_seq, hwalk.edits first offset items hcontainer hitems, hnext.done,
        hnext.outside _ _ (by omega)]
    · rw [List.getElem?_append_right (by omega)] at hitems
      rw [run_seq, hwalk.passes first (by omega),
        hnext.edits _ (offset - lists.length) items (by omega) hitems,
        hwalk.outside _ _ (by omega)]
  outside first new houtside := by
    rw [List.length_append] at houtside
    rw [hwalk.outside _ _ (by omega), hnext.outside _ _ (by omega)]
  unchanged first offset items hcontainer hitems := by
    by_cases hoffset : offset < lists.length
    · rw [List.getElem?_append_left hoffset] at hitems
      rw [hwalk.unchanged first offset items hcontainer hitems, hnext.outside _ _ (by omega)]
    · rw [List.getElem?_append_right (by omega)] at hitems
      rw [hnext.unchanged _ (offset - lists.length) items (by omega) hitems,
        hwalk.outside _ _ (by omega)]

theorem run_enter_of_eq {first : Nat} (hfirst : first = slot.container) (items : List Node)
    (walk : StateM Editor (List Node)) :
    (Editor.enter slot items walk).run ⟨first, none⟩ =
      (((ListEdit.decorate slot.index).apply items).2,
        ⟨slot.container + 1, some ((ListEdit.decorate slot.index).apply items).1⟩) := by
  subst hfirst
  unfold Editor.enter
  simp only [StateT.run_bind, StateT.run_get, pure_bind, Option.isSome_none, Bool.false_eq_true,
    if_false, if_true, StateT.run_set, bind_pure_comp, StateT.run_map, StateT.run_modify, map_pure]
  rfl

theorem run_enter_of_ne {first : Nat} (hfirst : first ≠ slot.container) (items : List Node)
    (walk : StateM Editor (List Node)) :
    (Editor.enter slot items walk).run ⟨first, none⟩ = walk.run ⟨first + 1, none⟩ := by
  unfold Editor.enter
  simp [hfirst]

theorem enter {items : List Node} {walk : StateM Editor (List Node)} {lists : List (List Node)}
    {setList : Nat → List Node → List Node} (hwalk : Walks slot walk items lists setList) :
    Walks slot (Editor.enter slot items walk) items (items :: lists) fun first new =>
      if first = slot.container then new else setList (first + 1) new where
  done entered outcome := rfl
  passes first houtside := by
    rw [List.length_cons] at houtside ⊢
    rw [run_enter_of_ne (by omega), hwalk.passes _ (by omega), Nat.add_assoc, Nat.add_comm 1]
  edits first offset items hcontainer hitems := by
    cases offset with
    | zero =>
      obtain rfl := Option.some.inj hitems
      rw [run_enter_of_eq (by omega), if_pos (by omega)]
    | succ offset =>
      rw [run_enter_of_ne (by omega), hwalk.edits (first + 1) offset items (by omega) hitems,
        if_neg (by omega)]
  outside first new houtside := by
    rw [List.length_cons] at houtside
    rw [if_neg (by omega), hwalk.outside _ _ (by omega)]
  unchanged first offset items hcontainer hitems := by
    cases offset with
    | zero =>
      obtain rfl := Option.some.inj hitems
      exact if_pos hcontainer.symm
    | succ offset =>
      rw [if_neg (by omega), hwalk.unchanged (first + 1) offset items (by omega) hitems]

end Editor.Walks

namespace Node

open Editor (Walks)

mutual

/-- The walk through a node edits the list with the number that is looked for, if the node has it,
and nothing else. -/
theorem walks_edit (slot : Slot) : ∀ node : Node,
    Walks slot (node.edit slot) node node.lists fun first new =>
      node.setList slot.container new first
  | .ident _ => by simpa [edit, lists, setList] using Walks.leaf _
  | .binder _ none => by simpa [edit, lists, setList] using Walks.leaf _
  | .binder identifier (some typing) => by
    simpa [edit, lists, setList] using (walks_edit slot typing).map _
  | .word _ _ => by simpa [edit, lists, setList] using Walks.leaf _
  | .call span context callee arguments none => by
    simpa [edit, lists, setList, listCount] using
      ((walks_edit slot callee).map _).seq (walks_editEach slot arguments)
  | .call span context callee arguments (some typeArguments) => by
    simpa [edit, lists, setList, listCount, listCountOf, Nat.add_assoc] using
      (((walks_edit slot callee).map _).seq (walks_editEach slot arguments)).seq
        (walks_edit slot typeArguments)
  | .argument spread value => by
    simpa [edit, lists, setList] using (walks_edit slot value).map _
  | .member span object property => by
    simpa [edit, lists, setList, listCount] using
      ((walks_edit slot object).map _).seq (walks_edit slot property)
  | .paren span inner => by
    simpa [edit, lists, setList] using (walks_edit slot inner).map _
  | .exprStmt span expression => by
    simpa [edit, lists, setList] using (walks_edit slot expression).map _
  | .varDecl span header declarators => by
    simpa [edit, lists, setList] using (walks_editEach slot declarators).map _
  | .declarator span definite pattern none => by
    simpa [edit, lists, setList] using (walks_edit slot pattern).map _
  | .declarator span definite pattern (some init) => by
    simpa [edit, lists, setList, listCount] using
      ((walks_edit slot pattern).map _).seq (walks_edit slot init)
  | .exportDecl span declaration => by
    simpa [edit, lists, setList] using (walks_edit slot declaration).map _
  | .importDecl _ => by simpa [edit, lists, setList] using Walks.leaf _
  | .block span kind items => by
    simpa [edit, lists, setList] using (walks_editEach slot items).enter.map _
  | .switchCase span none items => by
    simpa [edit, lists, setList] using (walks_editEach slot items).enter.map _
  | .switchCase span (some test) items => by
    simp only [edit, lists, setList]
    exact ((walks_edit slot test).map _).seq (walks_editEach slot items).enter
  | .other form children => by
    simpa [edit, lists, setList] using (walks_editEach slot children).map _

theorem walks_editEach (slot : Slot) : ∀ nodes : List Node,
    Walks slot (editEach slot nodes) nodes (listsOf nodes) fun first new =>
      setListOf slot.container new first nodes
  | [] => by simpa [editEach, listsOf, setListOf] using Walks.leaf _
  | node :: nodes => by
    simpa [editEach, listsOf, setListOf, listCount] using
      ((walks_edit slot node).map _).seq (walks_editEach slot nodes)

end

end Node

/-- Editing a program where it stands comes to the same as decorating it, and if it fails, it leaves
the program as it was. -/
theorem Program.edit_eq (program : Program) (slot : Slot) :
    program.edit slot = match program.decorate slot with
      | .ok (edited, decorated) => (.ok decorated, edited)
      | .error error => (.error error, program) := by
  have hwalks := (Node.walks_editEach slot program.body).enter
  unfold edit decorate
  cases hitems : program.lists[slot.container]? with
  | none =>
    have hlength : program.lists.length ≤ slot.container := by simpa using hitems
    rw [hwalks.passes 0 (by rw [Nat.zero_add]; exact .inr hlength)]
    rfl
  | some items =>
    rw [hwalks.edits 0 slot.container items (Nat.zero_add _).symm hitems,
      ListEdit.apply_decorate]
    cases hlist : decorateAt items slot.index with
    | error error =>
      have hunchanged := hwalks.unchanged 0 slot.container items (Nat.zero_add _).symm hitems
      simp only [hlist, bind, Except.bind, Option.getD_some]
      rw [hunchanged]
    | ok result =>
      simp [hlist, bind, Except.bind, pure, Except.pure, setList, eq_comm (a := 0)]

end MarkerExpansion
