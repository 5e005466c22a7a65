import KernelGen.Proofs.Template.Alone

/-! The rendering of a template that refers to no other one, function by function. In its library
and in a library of its own all expressions have the same values and all nodes the same texts; so
the template is rendered to the same text, or fails in the same way. -/
namespace KernelGen.Template

namespace Evaluate

/-- Evaluations that agree. Nodes are asked for only if they insert nothing else. -/
structure Below.Agrees (library : Library) (t : Template) (below other : Below) : Prop where
  value : ∀ e, Same t.name (below.value e) (other.value e)
  number : ∀ e, Same t.name (below.number e) (other.number e)
  holds : ∀ e, Same t.name (below.holds e) (other.holds e)
  body : ∀ nodes, (∀ name ∈ inserted nodes, library.Stays t name) →
    Same t.name (below.body nodes) (other.body nodes)

section

variable {library : Library} {t : Template} {context : List (String × Json)} {name : String}
  {below other : Below} {α : Type}

/-- A value that is used in one of two ways is the same in both runs. -/
theorem same_valueAt (path : String) :
    Same name (valueAt ⟨library, t, context⟩ path) (valueAt ⟨.alone t, t, context⟩ path) := by
  have hResolve (bound : Nat) (s : State) (path : String) :
      resolve ⟨library, t, context⟩ bound s path = resolve ⟨.alone t, t, context⟩ bound s path := by
    induction bound generalizing path with
    | zero => rfl
    | succ bound ih => simp only [resolve, ih]
  refine agree_current.bind fun s _ => ?_
  rw [hResolve]
  split
  · exact .pure trivial
  · exact .lift _

variable (agrees : Below.Agrees library t below other)

include agrees

theorem same_arguments (part : Fault → Fault) (args : List (String × Expr)) :
    Same t.name (arguments below part args) (arguments other part args) :=
  .mapM (fun arg => ((agrees.value arg.2).during part).bind fun _ _ => .pure trivial) args

theorem same_call (function : String) (args : List (String × Expr)) :
    Same t.name (call below function args) (call other function args) := by
  rw [call, call]
  cases Function.find? function with
  | none => exact .throw _
  | some f => exact (same_arguments agrees _ args).bind fun _ _ => (Agree.lift _).during _

theorem same_applyFilter (value : Json) (filter : String) (args : List (String × Expr)) :
    Same t.name (applyFilter below value filter args) (applyFilter other value filter args) := by
  rw [applyFilter, applyFilter]
  cases Filter.find? filter with
  | none => exact .throw _
  | some f => exact (same_arguments agrees _ args).bind fun _ _ => (Agree.lift _).during _

theorem same_test (subject : String) (negated : Bool) (test : String) (args : List Expr) :
    Same t.name (Evaluate.test ⟨library, t, context⟩ below subject negated test args)
      (Evaluate.test ⟨.alone t, t, context⟩ other subject negated test args) := by
  rw [Evaluate.test, Evaluate.test]
  cases Test.find? test with
  | none => exact .throw _
  | some f =>
      refine Agree.bind (.mapM (fun e => (agrees.value e).during _) args) fun args _ => ?_
      refine (same_valueAt subject).attempt.bind fun value _ => ?_
      exact ((Agree.lift _).during _).bind fun _ _ => .pure trivial

theorem same_member (item container : Expr) (negated : Bool) :
    Same t.name (member below item container negated) (member other item container negated) := by
  refine (agrees.value item).bind fun item _ => (agrees.value container).bind fun container _ => ?_
  -- What is found is a value or a fault, and neither depends on the state.
  have hFound (found : Render Bool) (h : Same t.name found found) :
      Same t.name (do return (← found) != negated) (do return (← found) != negated) :=
    h.bind fun _ _ => .pure trivial
  dsimp only
  split <;> first | exact hFound _ (.pure trivial) | exact hFound _ (.throw _)

theorem same_math (op : MathOp) (left right : Expr) :
    Same t.name (math below op left right) (math other op left right) := by
  refine (agrees.number left).bind fun x _ => (agrees.number right).bind fun y _ => ?_
  split
  · cases op with
    | mod => dsimp only; split <;> first | exact .throw _ | exact .lift _
    | div => exact .pure trivial
    | _ => exact .lift _
  · exact .pure trivial

theorem same_numberOfTerm (e : Term) :
    Same t.name (numberOfTerm ⟨library, t, context⟩ below e)
      (numberOfTerm ⟨.alone t, t, context⟩ other e) := by
  cases e with
  | var path =>
      refine (same_valueAt path).bind fun v _ => ?_
      split <;> first | exact .pure trivial | exact .throw _
  | int n => exact .pure trivial
  | float x => exact .pure trivial
  | math op left right => exact same_math agrees op left right
  | call function args =>
      refine (same_call agrees function args).bind fun v _ => ?_
      split <;> first | exact .pure trivial | exact .throw _
  | _ => exact .throw _

theorem same_logic (op : LogicOp) (left right : Expr) :
    Same t.name (logic below op left right) (logic other op left right) := by
  have hOrdered (compare : Float → Float → Bool) : Same t.name
      (logic.ordered below left right compare) (logic.ordered other left right compare) := by
    refine (agrees.number left).bind fun x _ => (agrees.number right).bind fun y _ => ?_
    split <;> first | exact .pure trivial | exact .throw _
  have hCompared (compare : Json → Json → Bool) : Same t.name
      (do return compare (← below.value left) (← below.value right))
      (do return compare (← other.value left) (← other.value right)) :=
    (agrees.value left).bind fun _ _ => (agrees.value right).bind fun _ _ => .pure trivial
  cases op with
  | or =>
      refine (agrees.holds left).bind fun b _ => ?_
      cases b with
      | true => exact .pure trivial
      | false => exact agrees.holds right
  | and =>
      refine (agrees.holds left).bind fun b _ => ?_
      cases b with
      | true => exact agrees.holds right
      | false => exact .pure trivial
  | eq => exact hCompared (Evaluate.compare .eq)
  | ne => exact hCompared (Evaluate.compare .ne)
  | lt => exact hOrdered fun x y => x < y
  | le => exact hOrdered fun x y => x ≤ y
  | gt => exact hOrdered fun x y => x > y
  | ge => exact hOrdered fun x y => x ≥ y

theorem same_concatPart (e : Term) :
    Same t.name (concatPart ⟨library, t, context⟩ below e)
      (concatPart ⟨.alone t, t, context⟩ other e) := by
  cases e with
  | str s => exact .pure trivial
  | int n => exact .pure trivial
  | float x => exact .pure trivial
  | var path =>
      refine (same_valueAt path).bind fun v _ => ?_
      split <;> first | exact .pure trivial | exact .throw _
  | call function args =>
      refine (same_call agrees function args).bind fun v _ => ?_
      split <;> first | exact .pure trivial | exact .throw _
  | _ => exact .throw _

theorem same_branch (otherwise : List Node) (arms : List (Expr × List Node))
    (hArms : ∀ name ∈ armsInserted arms, library.Stays t name)
    (hOtherwise : ∀ name ∈ inserted otherwise, library.Stays t name) :
    Same t.name (branch below otherwise arms) (branch other otherwise arms) := by
  induction arms with
  | nil => exact agrees.body otherwise hOtherwise
  | cons arm arms ih =>
      obtain ⟨condition, nodes⟩ := arm
      rw [armsInserted, List.forall_mem_append] at hArms
      refine (agrees.holds condition).bind fun b _ => ?_
      cases b with
      | true => exact agrees.body nodes hArms.1
      | false => exact ih hArms.2

theorem same_rounds {body : List Node} (hBody : ∀ name ∈ inserted body, library.Stays t name)
    (left : Nat) : Same t.name (rounds below body left) (rounds other body left) := by
  induction left with
  | zero => exact .pure trivial
  | succ left ih =>
      refine (agrees.body body hBody).bind fun text _ => agree_current.bind fun s _ => ?_
      split
      · exact .pure trivial
      · exact (same_update fun _ within => within.advance).bind fun _ _ =>
          ih.bind fun _ _ => .pure trivial

omit agrees in
theorem same_sequence {node behind : Node → Render String} (nodes : List Node)
    (h : ∀ n, (∀ name ∈ n.inserted, library.Stays t name) → Same t.name (node n) (behind n))
    (hNodes : ∀ name ∈ inserted nodes, library.Stays t name) :
    Same t.name (sequence node nodes) (sequence behind nodes) := by
  induction nodes with
  | nil => exact .pure trivial
  | cons n nodes ih =>
      rw [inserted, List.forall_mem_append] at hNodes
      refine (h n hNodes.1).bind fun text _ => agree_current.bind fun s _ => ?_
      split
      · exact (ih hNodes.2).bind fun _ _ => .pure trivial
      · exact .pure trivial

end

section

variable {library : Library} {t : Template} {context : List (String × Json)} {below other : Below}
  (isolates : library.Isolates t)

include isolates

theorem stays_of_within {s : State} (within : s.Within t.name) : library.Stays t s.active :=
  within.active.elim .inl fun hEmpty => hEmpty ▸ isolates.unnamed

/-- A macro that is found is one of the template. -/
theorem agree_findMacro (space name : String) :
    Agree t.name (fun found => found.1 = t.name ∧ found.2 ∈ t.macros)
      (findMacro ⟨library, t, context⟩ space name)
      (findMacro ⟨.alone t, t, context⟩ space name) := by
  refine agree_current.bind fun s within => ?_
  have hCalling : callingTemplate ⟨library, t, context⟩ s =
      callingTemplate ⟨.alone t, t, context⟩ s := by
    simp only [callingTemplate, isolates.ancestors, isolates.alone.ancestors]
  have hStays : library.Stays t (callingTemplate ⟨library, t, context⟩ s) := by
    rw [callingTemplate]
    split
    · rename_i e entered hEntered
      exact .inl (within.entered e (hEntered ▸ List.mem_cons_self ..))
    · simp only [isolates.ancestors, List.getLast?_nil]
      exact stays_of_within isolates within
  obtain ⟨spaces, hOwn, hLeft, hRight⟩ : ∃ spaces : Library.Spaces,
      (∀ space ∈ spaces, space.2 = (t.name, t.macros)) ∧
        ((library.find? (callingTemplate ⟨library, t, context⟩ s)).map library.spaces).getD [] =
          spaces ∧
        (((Library.alone t).find? (callingTemplate ⟨library, t, context⟩ s)).map
          (Library.alone t).spaces).getD [] = spaces := by
    rw [← isolates.find?_eq hStays]
    cases hFind : library.find? (callingTemplate ⟨library, t, context⟩ s) with
    | none => exact ⟨[], by simp, rfl, rfl⟩
    | some u =>
        obtain rfl := isolates.eq_of_find? hStays hFind
        exact ⟨_, fun _ => Library.mem_ownSpaces, isolates.spaces_eq, isolates.alone.spaces_eq⟩
  rw [← hCalling]
  dsimp only
  rw [hLeft, hRight]
  split
  · exact .throw _
  · rename_i template macros hLookup
    split
    · exact .throw _
    · rename_i m hMacro
      obtain ⟨front, back, hSpaces, -⟩ := List.lookup_eq_some_iff.mp hLookup
      obtain ⟨rfl, rfl⟩ : template = t.name ∧ macros = t.macros :=
        Prod.mk.inj (hOwn _ (hSpaces ▸ List.mem_append_right _ (List.mem_cons_self ..)))
      exact .pure ⟨rfl, List.mem_of_find?_eq_some hMacro⟩

theorem agree_activeTemplate :
    Agree t.name (· = t) (activeTemplate ⟨library, t, context⟩)
      (activeTemplate ⟨.alone t, t, context⟩) := by
  refine agree_current.bind fun s within => ?_
  have hStays := stays_of_within isolates within
  dsimp only
  rw [← isolates.find?_eq hStays]
  refine .pure ?_
  cases hFind : library.find? s.active with
  | none => rfl
  | some u => exact isolates.eq_of_find? hStays hFind

variable (agrees : Below.Agrees library t below other)

include agrees

theorem same_callMacro (space name : String) (args : List (String × Expr)) :
    Same t.name (callMacro ⟨library, t, context⟩ below space name args)
      (callMacro ⟨.alone t, t, context⟩ other space name args) := by
  refine (agree_findMacro isolates space name).bind ?_
  rintro ⟨template, m⟩ ⟨rfl, hMacro⟩
  have hBody : ∀ name ∈ inserted m.body, library.Stays t name := fun name hName =>
    isolates.stays name (List.mem_append_left _ (List.mem_append_right _
      (List.mem_flatMap.mpr ⟨m, hMacro, hName⟩)))
  refine Agree.bind (.mapM (fun param => ?_) m.params) fun vars _ => ?_
  · dsimp only
    split
    · exact (agrees.value _).bind fun _ _ => .pure trivial
    · exact (agrees.value _).bind fun _ _ => .pure trivial
    · exact .throw _
  · have hPush := @same_update t.name (State.push ⟨.ofMacro space name, t.name, vars, none⟩)
      fun _ within => within.push (.inl rfl)
    exact hPush.bind fun _ _ => (agrees.body m.body hBody).bind fun _ _ =>
      (same_update fun _ within => within.pop).bind fun _ _ => .pure trivial

theorem same_head (e : Expr) :
    Same t.name (head ⟨library, t, context⟩ below e) (head ⟨.alone t, t, context⟩ other e) := by
  rw [head, head]
  cases e.term with
  | str s => exact .pure trivial
  | int n => exact .pure trivial
  | float x => exact .pure trivial
  | bool b => exact .pure trivial
  | array items =>
      exact Agree.bind (.mapM agrees.value items) fun _ _ => .pure trivial
  | concat parts =>
      exact Agree.bind (.mapM (same_concatPart agrees) parts) fun _ _ => .pure trivial
  | member item container negated =>
      exact (same_member agrees item container negated).bind fun _ _ => .pure trivial
  | test subject negated name args =>
      exact (same_test agrees subject negated name args).bind fun _ _ => .pure trivial
  | logic op left right => exact (same_logic agrees op left right).bind fun _ _ => .pure trivial
  | math op left right =>
      refine ((same_math agrees op left right).during _).bind fun n _ => ?_
      split <;> exact .pure trivial
  | call name args => exact (same_call agrees name args).bind fun _ _ => .pure trivial
  | macroCall space name args =>
      exact (same_callMacro isolates agrees space name args).bind fun _ _ => .pure trivial
  | var path =>
      refine (same_valueAt path).attempt.bind fun v _ => ?_
      split
      · split <;> exact .pure trivial
      · exact .pure trivial
      · split
        · split
          · exact (agrees.value _).bind fun _ _ => .pure trivial
          · exact .throw _
        · split
          · exact .pure trivial
          · exact .throw _

theorem same_value (e : Expr) :
    Same t.name (value ⟨library, t, context⟩ below e) (value ⟨.alone t, t, context⟩ other e) := by
  refine (same_head isolates agrees e).bind fun v _ => ?_
  split
  · exact .pure trivial
  · have hFilters (filters : List (String × List (String × Expr))) (v : Json) : Same t.name
        (filters.foldlM (fun v f => applyFilter below v f.1 f.2) v)
        (filters.foldlM (fun v f => applyFilter other v f.1 f.2) v) :=
      .foldlM (fun v f => same_applyFilter agrees v f.1 f.2) v filters
    exact (hFilters _ _).bind fun _ _ => .pure trivial

theorem same_number (e : Expr) :
    Same t.name (number ⟨library, t, context⟩ below e) (number ⟨.alone t, t, context⟩ other e) := by
  rw [number, number]
  split
  · exact same_numberOfTerm agrees e.term
  · refine (same_value isolates agrees e).bind fun v _ => ?_
    split <;> first | exact .pure trivial | exact .throw _

theorem same_holds (e : Expr) :
    Same t.name (holds ⟨library, t, context⟩ below e) (holds ⟨.alone t, t, context⟩ other e) := by
  have hTerm (term : Term) : Same t.name (holds.holdsTerm ⟨library, t, context⟩ below e term)
      (holds.holdsTerm ⟨.alone t, t, context⟩ other e term) := by
    cases term with
    | logic op left right => exact same_logic agrees op left right
    | member item container negated => exact same_member agrees item container negated
    | test subject negated name args => exact same_test agrees subject negated name args
    | bool b => exact .pure trivial
    | str s => exact .pure trivial
    | call name args =>
        refine (same_call agrees name args).bind fun v _ => ?_
        split <;> first | exact .pure trivial | exact .throw _
    | concat parts =>
        exact (same_value isolates agrees _).bind fun _ _ => .pure trivial
    | macroCall space name args =>
        exact (same_callMacro isolates agrees space name args).bind fun _ _ => .pure trivial
    | _ =>
        refine (same_numberOfTerm agrees _).bind fun n _ => ?_
        cases n <;> exact .pure trivial
  rw [holds, holds]
  split
  · refine (same_value isolates agrees e).attempt.bind fun v _ => ?_
    split <;> exact .pure trivial
  · exact (hTerm _).bind fun _ _ => .pure trivial

omit isolates in
theorem same_loop (key : Option String) (item : String) (container : Expr)
    {body whenEmpty : List Node} (hBody : ∀ name ∈ inserted body, library.Stays t name)
    (hEmpty : ∀ name ∈ inserted whenEmpty, library.Stays t name) :
    Same t.name (loop below key item container body whenEmpty)
      (loop other key item container body whenEmpty) := by
  have hName : Same t.name (containerName container) (containerName container) := by
    rw [containerName]
    split <;> first | exact .pure trivial | exact .throw _
  refine hName.bind fun name _ => (agrees.value container).bind fun v _ =>
    (Agree.lift (entries name key v)).bind fun found _ => ?_
  split
  · exact agrees.body whenEmpty hEmpty
  · refine agree_current.bind fun s within => ?_
    have hPush := @same_update t.name
      (State.push ⟨.loop, s.active, [], some ⟨key, item, found, 0, .none⟩⟩)
      fun _ hNext => hNext.push within.active
    exact hPush.bind fun _ _ => (same_rounds agrees hBody _).bind fun _ _ =>
      (same_update fun _ hNext => hNext.pop).bind fun _ _ => .pure trivial

theorem same_block (block : String) {body : List Node}
    (hBody : ∀ name ∈ inserted body, library.Stays t name) :
    Same t.name (Evaluate.block ⟨library, t, context⟩ below block body)
      (Evaluate.block ⟨.alone t, t, context⟩ other block body) := by
  refine (agree_activeTemplate isolates).bind ?_
  rintro u rfl
  dsimp only
  rw [← isolates.blockFrom?_eq]
  split
  · rename_i level source nodes hFound
    obtain ⟨rfl, hNodes⟩ := isolates.of_blockFrom? hFound
    have hEnter := @same_update source.name (State.enter ⟨block, source.name, level⟩)
      fun _ within => within.enter rfl
    exact hEnter.bind fun _ _ => agrees.body nodes hNodes
  · exact agrees.body body hBody

theorem same_inherited :
    Same t.name (inherited ⟨library, t, context⟩ below)
      (inherited ⟨.alone t, t, context⟩ other) := by
  refine agree_current.bind fun s _ => (agree_activeTemplate isolates).bind ?_
  rintro u rfl
  dsimp only
  split
  · exact .throw _
  · rename_i e entered hEntered
    rw [← isolates.blockFrom?_eq]
    split
    · exact .throw _
    · rename_i level source nodes hFound
      obtain ⟨rfl, hNodes⟩ := isolates.of_blockFrom? hFound
      rw [isolates.ancestors, isolates.alone.ancestors]
      have hEnter := @same_update source.name (State.enter ⟨e.block, source.name, level⟩)
        fun _ within => within.enter rfl
      have hLeave := @same_update source.name State.leave fun _ within => within.leave
      refine hEnter.bind fun _ _ => (agrees.body nodes hNodes).bind fun text _ =>
        hLeave.bind fun _ _ => ?_
      split
      · exact hLeave.bind fun _ _ => .pure trivial
      · exact .pure trivial

theorem same_insert {names : List String} (optional : Bool)
    (hNames : ∀ name ∈ names, library.Stays t name) :
    Same t.name (insert ⟨library, t, context⟩ below names optional)
      (insert ⟨.alone t, t, context⟩ other names optional) := by
  have hFind : names.findSome? library.find? = names.findSome? (Library.alone t).find? := by
    induction names with
    | nil => rfl
    | cons name names ih =>
        obtain ⟨hName, hRest⟩ := List.forall_mem_cons.mp hNames
        rw [List.findSome?_cons, List.findSome?_cons, isolates.find?_eq hName, ih hRest]
  rw [insert, insert]
  dsimp only
  rw [← hFind]
  split
  · split
    · exact .pure trivial
    · exact .throw _
  · rename_i u hFound
    obtain ⟨name, hName, hu⟩ := List.exists_of_findSome?_eq_some hFound
    obtain rfl := isolates.eq_of_find? (hNames name hName) hu
    have hPush := @same_update u.name (State.push (.ofKind .insertion u.name))
      fun _ within => within.push (.inl rfl)
    have hBody : ∀ name ∈ inserted u.body, library.Stays u name := fun name hName =>
      isolates.stays name (List.mem_append_right _ hName)
    rw [isolates.parent]
    exact hPush.bind fun _ _ => (agrees.body u.body hBody).bind fun _ _ =>
      (same_update fun _ within => within.pop).bind fun _ _ => .pure trivial

theorem same_node (n : Node) (hNode : ∀ name ∈ n.inserted, library.Stays t name) :
    Same t.name (node ⟨library, t, context⟩ below n) (node ⟨.alone t, t, context⟩ other n) := by
  cases n with
  | text s => exact .pure trivial
  | output e => exact (agrees.value e).bind fun _ _ => .pure trivial
  | assign everywhere name e =>
      refine (agrees.value e).bind fun v _ => ?_
      refine Agree.bind (same_update fun s within => ?_) fun _ _ => .pure trivial
      split
      · exact within.assignEverywhere name v
      · exact within.assign name v
  | branch arms otherwise =>
      rw [Node.inserted, List.forall_mem_append] at hNode
      exact same_branch agrees otherwise arms hNode.1 hNode.2
  | loop key item container body whenEmpty =>
      rw [Node.inserted, List.forall_mem_append] at hNode
      exact same_loop agrees key item container hNode.1 hNode.2
  | filtered filter args body =>
      refine (agrees.body body hNode).bind fun text _ => ?_
      split
      · exact .pure trivial
      · exact (same_applyFilter agrees _ _ _).bind fun _ _ => .pure trivial
  | block block body => exact same_block isolates agrees block hNode
  | inherited => exact same_inherited isolates agrees
  | insert names optional => exact same_insert isolates agrees optional hNode
  | stop => exact (same_update fun _ within => within.setSignal .stop).bind fun _ _ => .pure trivial
  | skip => exact (same_update fun _ within => within.setSignal .skip).bind fun _ _ => .pure trivial

omit agrees in
/-- Evaluation agrees on every level. -/
theorem agrees_upTo (context : List (String × Json)) (depth : Nat) :
    Below.Agrees library t (upTo ⟨library, t, context⟩ depth) (upTo ⟨.alone t, t, context⟩ depth) := by
  induction depth with
  | zero => exact ⟨fun _ => .throw _, fun _ => .throw _, fun _ => .throw _, fun _ _ => .throw _⟩
  | succ depth ih =>
      exact ⟨same_value isolates ih, same_number isolates ih, same_holds isolates ih,
        fun nodes => same_sequence nodes (same_node isolates ih)⟩

end

end Evaluate

namespace Library

variable {library : Library} {t : Template}

/-- A template that refers to no other one is rendered as it is where there are no others. -/
theorem Isolates.render_eq (isolates : library.Isolates t) (context : List (String × Json)) :
    library.render t.name context = (Library.alone t).render t.name context := by
  have hBody : ∀ name ∈ inserted t.body, library.Stays t name := fun name hName =>
    isolates.stays name (List.mem_append_right _ hName)
  have hPlace (s : State) : Evaluate.place ⟨library, t, context⟩ s =
      Evaluate.place ⟨Library.alone t, t, context⟩ s := by
    delta Evaluate.place
    dsimp only
    rw [isolates.ancestors, isolates.alone.ancestors]
  rw [render_of_find? isolates.found isolates.parent,
    render_of_find? (find?_alone t) isolates.parent]
  generalize maxDepth = depth
  have hSame := ((Evaluate.agrees_upTo isolates context depth).body t.body hBody
    (State.start t.name) (State.within_start t.name)).1
  rw [hSame]
  simp_rw [hPlace]

end Library

end KernelGen.Template
