import MarkerExpansion.Proofs.Expansion.Direct
import MarkerExpansion.Proofs.Tree.Context

/-!
Places whose rest is expanded.

An expansion that works from the last marker call to the first comes to a place when everything
after it is expanded and nothing before it has changed.
-/

namespace MarkerExpansion

/-- Carries out the marker calls among the items of a row, if it can hold any. -/
def Row.carry (symbol : Symbol) (row : Row) (items : List Node) : Option (List Node) :=
  if row.container.isSome then Node.carryOut symbol items else some items

/-- Carries out the marker call that an item of a row is, if it is one. -/
def Row.carryFirst (symbol : Symbol) (row : Row) (item : Node) (items : List Node) :
    Option (List Node) :=
  if row.container.isSome && item.isMarkerCall symbol then
    (decorateAt (item :: items) 0).toOption.map Prod.fst
  else some (item :: items)

theorem Row.carry_cons (symbol : Symbol) (row : Row) (item : Node) (items : List Node) :
    row.carry symbol (item :: items) =
      (row.carry symbol items).bind (row.carryFirst symbol item) := by
  cases hrow : row.container.isSome with
  | false => simp [carry, carryFirst, hrow]
  | true =>
    rw [carry, if_pos hrow, carry, if_pos hrow, Node.carryOut_cons]
    cases Node.carryOut symbol items with
    | none => rfl
    | some items => simp [carryFirst, hrow]

theorem Row.carry_expandEach_cons (symbol : Symbol) (row : Row) (node : Node)
    (right : List Node) :
    (Node.expandEach symbol (node :: right)).bind (row.carry symbol) =
      ((Node.expandEach symbol right).bind (row.carry symbol)).bind fun new =>
        (node.expandInside symbol).bind fun expanded => row.carryFirst symbol expanded new := by
  rw [Node.expandEach]
  cases node.expandInside symbol with
  | none => cases (Node.expandEach symbol right).bind (row.carry symbol) <;> rfl
  | some expanded =>
    cases Node.expandEach symbol right with
    | none => rfl
    | some inside => exact row.carry_cons symbol expanded inside

theorem Row.bind_carry {row : Row} (hrow : row.container = none) (symbol : Symbol)
    (items : Option (List Node)) : items.bind (row.carry symbol) = items := by
  cases items with
  | none => rfl
  | some items => simp [carry, hrow]

/-- The frame with all that comes after its hole expanded. -/
def Frame.expandRest (symbol : Symbol) : Frame → Option Frame
  | .callCallee span context arguments none => do
    return .callCallee span context (← Node.expandEach symbol arguments) none
  | .callCallee span context arguments (some typeArguments) => do
    return .callCallee span context (← Node.expandEach symbol arguments)
      (some (← typeArguments.expandInside symbol))
  | .memberObject span property => do
    return .memberObject span (← property.expandInside symbol)
  | .declaratorPattern span definite (some init) => do
    return .declaratorPattern span definite (some (← init.expandInside symbol))
  | .switchTest span items => do
    return .switchTest span (← Node.expandEach symbol items)
  | frame => some frame

mutual

/-- The place with all that comes after it expanded. -/
def Context.expandRest (symbol : Symbol) : Context → Option Context
  | .frame outer frame => do
    return .frame (← outer.expandRest symbol) (← frame.expandRest symbol)
  | .item row left right => do
    return .item (← row.expandRest symbol) left
      (← row.carry symbol (← Node.expandEach symbol right))

def Row.expandRest (symbol : Symbol) : Row → Option Row
  | .body kind span interpreter => some (.body kind span interpreter)
  | .block outer span kind => do return .block (← outer.expandRest symbol) span kind
  | .branch outer span test => do return .branch (← outer.expandRest symbol) span test
  | .arguments outer span context callee none => do
    return .arguments (← outer.expandRest symbol) span context callee none
  | .arguments outer span context callee (some typeArguments) => do
    return .arguments (← outer.expandRest symbol) span context callee
      (some (← typeArguments.expandInside symbol))
  | .declarators outer span header => do
    return .declarators (← outer.expandRest symbol) span header
  | .children outer form => do return .children (← outer.expandRest symbol) form

end

/-- Two places at which a walk arrives with the same knowledge. -/
structure Context.BeginsLike (context other : Context) : Prop where
  first : context.first = other.first
  around : context.around = other.around
  before : context.before = other.before

structure Row.BeginsLike (row other : Row) : Prop where
  first : row.first = other.first
  anchor : row.anchor = other.anchor
  container : row.container = other.container
  before : row.before = other.before

theorem Frame.expandRest_keeps {symbol : Symbol} {frame rest : Frame}
    (hrest : frame.expandRest symbol = some rest) :
    rest.listsBefore = frame.listsBefore ∧
      (∀ around, rest.around around = frame.around around) ∧
      ∀ first around, rest.before first around = frame.before first around := by
  unfold expandRest at hrest
  split at hrest
  · obtain ⟨_, _, hrest⟩ := Option.bind_eq_some_iff.1 hrest
    cases hrest
    simp
  · obtain ⟨_, _, hrest⟩ := Option.bind_eq_some_iff.1 hrest
    obtain ⟨_, _, hrest⟩ := Option.bind_eq_some_iff.1 hrest
    cases hrest
    simp
  · obtain ⟨_, _, hrest⟩ := Option.bind_eq_some_iff.1 hrest
    cases hrest
    simp
  · obtain ⟨_, _, hrest⟩ := Option.bind_eq_some_iff.1 hrest
    cases hrest
    simp
  · obtain ⟨_, _, hrest⟩ := Option.bind_eq_some_iff.1 hrest
    cases hrest
    simp
  · cases hrest
    simp

mutual

theorem Context.expandRest_beginsLike {symbol : Symbol} : ∀ {context rest : Context},
    context.expandRest symbol = some rest → rest.BeginsLike context
  | .frame outer frame, _, h => by
    rw [Context.expandRest] at h
    obtain ⟨newOuter, houter, h⟩ := Option.bind_eq_some_iff.1 h
    obtain ⟨newFrame, hframe, h⟩ := Option.bind_eq_some_iff.1 h
    cases h
    have hlike := Context.expandRest_beginsLike houter
    obtain ⟨hlists, haround, hbefore⟩ := Frame.expandRest_keeps hframe
    constructor
    · rw [Context.first, Context.first, hlike.first, hlists]
    · rw [Context.around, Context.around, hlike.around, haround]
    · rw [Context.before, Context.before, hlike.first, hlike.around, hlike.before, hbefore]
  | .item row left right, _, h => by
    rw [Context.expandRest] at h
    obtain ⟨newRow, hrow, h⟩ := Option.bind_eq_some_iff.1 h
    obtain ⟨inside, _, h⟩ := Option.bind_eq_some_iff.1 h
    obtain ⟨carried, _, h⟩ := Option.bind_eq_some_iff.1 h
    cases h
    have hlike := Row.expandRest_beginsLike hrow
    exact ⟨by simp [hlike.first], by simp [hlike.container, hlike.anchor],
      by simp [hlike.first, hlike.container, hlike.anchor, hlike.before]⟩

theorem Row.expandRest_beginsLike {symbol : Symbol} : ∀ {row rest : Row},
    row.expandRest symbol = some rest → rest.BeginsLike row
  | .body .., _, h => by
    cases h
    exact ⟨rfl, rfl, rfl, rfl⟩
  | .block outer span kind, _, h => by
    rw [Row.expandRest] at h
    obtain ⟨_, houter, h⟩ := Option.bind_eq_some_iff.1 h
    cases h
    have hlike := Context.expandRest_beginsLike houter
    exact ⟨by simp [hlike.first], by simp [hlike.around], by simp [Row.container, hlike.first],
      by simp [hlike.before]⟩
  | .branch outer span none, _, h => by
    rw [Row.expandRest] at h
    obtain ⟨_, houter, h⟩ := Option.bind_eq_some_iff.1 h
    cases h
    have hlike := Context.expandRest_beginsLike houter
    exact ⟨by simp [hlike.first], by simp [hlike.around], rfl, by simp [hlike.before]⟩
  | .branch outer span (some test), _, h => by
    rw [Row.expandRest] at h
    obtain ⟨_, houter, h⟩ := Option.bind_eq_some_iff.1 h
    cases h
    have hlike := Context.expandRest_beginsLike houter
    exact ⟨by simp [hlike.first], by simp [hlike.around], rfl,
      by simp [hlike.first, hlike.around, hlike.before]⟩
  | .arguments outer span context callee none, _, h => by
    rw [Row.expandRest] at h
    obtain ⟨_, houter, h⟩ := Option.bind_eq_some_iff.1 h
    cases h
    have hlike := Context.expandRest_beginsLike houter
    exact ⟨by simp [hlike.first], by simp [hlike.around], rfl,
      by simp [hlike.first, hlike.around, hlike.before]⟩
  | .arguments outer span context callee (some typeArguments), _, h => by
    rw [Row.expandRest] at h
    obtain ⟨_, houter, h⟩ := Option.bind_eq_some_iff.1 h
    obtain ⟨_, _, h⟩ := Option.bind_eq_some_iff.1 h
    cases h
    have hlike := Context.expandRest_beginsLike houter
    exact ⟨by simp [hlike.first], by simp [hlike.around], rfl,
      by simp [hlike.first, hlike.around, hlike.before]⟩
  | .declarators outer span header, _, h => by
    rw [Row.expandRest] at h
    obtain ⟨_, houter, h⟩ := Option.bind_eq_some_iff.1 h
    cases h
    have hlike := Context.expandRest_beginsLike houter
    exact ⟨by simp [hlike.first], by simp [hlike.around], rfl, by simp [hlike.before]⟩
  | .children outer form, _, h => by
    rw [Row.expandRest] at h
    obtain ⟨_, houter, h⟩ := Option.bind_eq_some_iff.1 h
    cases h
    have hlike := Context.expandRest_beginsLike houter
    exact ⟨by simp [hlike.first], by simp [hlike.around], rfl, by simp [hlike.before]⟩

end

end MarkerExpansion
