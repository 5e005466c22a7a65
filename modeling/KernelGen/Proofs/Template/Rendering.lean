import KernelGen.Proofs.Template.Plain

/-! Rendering a plain template. It changes nothing that a rendering remembers, and what comes out
are the fragments of the template with the values that the context has. A missing value is the
only thing that can go wrong. -/
namespace KernelGen.Template

/-- The path leads to a variable without anything else being looked up first. -/
def IsDirect (path : String) : Prop := path ≠ Evaluate.everything ∧ path.contains '[' = false

theorem isDirect_of_chars {path : String} (hName : path ≠ Evaluate.everything)
    (hChars : '[' ∉ path.toList) : IsDirect path :=
  ⟨hName, by simpa using hChars⟩

/-- The variable can be looked up and has a value. -/
def IsKnown (values : String → Option Json) (path : String) : Prop :=
  IsDirect path ∧ (values path).isSome

/-- The values that variables have outside of loops and macros. -/
def Env.values (env : Env) : String → Option Json := Value.lookup? env.context

/-- Outside of loops and macros only the context has variables. -/
theorem State.lookup?_start (name : String) (context : List (String × Json)) (path : String) :
    (State.start name).lookup? context path = Value.lookup? context path := by
  have hFrame : Value.lookup? [] path = none := by
    rw [Value.lookup?]
    split <;> rfl
  simp only [State.lookup?, State.start, State.lookupFrames, Frame.lookup?, Frame.ofKind, hFrame]
  rfl

namespace Evaluate

variable {α β : Type} {name : String} {env : Env}

/-- From the start the run comes to this result, and the state is as it was. -/
def Gives (name : String) (run : Render α) (a : α) : Prop :=
  run.run.run (State.start name) = (.ok a, State.start name)

/-- From the start the run comes to a fault. -/
def Fails (name : String) (run : Render α) : Prop :=
  ∃ fault s, run.run.run (State.start name) = (.error fault, s)

namespace Gives

variable {run : Render α} {a : α} {b : β}

theorem pure (a : α) : Gives name (pure a) a := rfl

theorem bind {next : α → Render β} (first : Gives name run a) (second : Gives name (next a) b) :
    Gives name (run >>= next) b := by
  rw [Gives] at first second ⊢
  simp only [ExceptT.run_bind, StateT.run_bind, first]
  exact second

theorem attempt (h : Gives name run a) : Gives name (attempt run) (.ok a) := by
  rw [Gives] at h ⊢
  simp only [Evaluate.attempt, ExceptT.run_mk, StateT.run_bind, h]
  rfl

end Gives

theorem gives_current : Gives name current (State.start name) := rfl

theorem gives_lift (a : α) : Gives name (lift (.ok a)) a := rfl

namespace Fails

variable {run : Render α} {a : α}

theorem bind (first : Fails name run) (next : α → Render β) : Fails name (run >>= next) := by
  obtain ⟨fault, s, h⟩ := first
  refine ⟨fault, s, ?_⟩
  simp only [ExceptT.run_bind, StateT.run_bind, h]
  rfl

theorem after {next : α → Render β} (first : Gives name run a) (second : Fails name (next a)) :
    Fails name (run >>= next) := by
  obtain ⟨fault, s, h⟩ := second
  rw [Gives] at first
  refine ⟨fault, s, ?_⟩
  simp only [ExceptT.run_bind, StateT.run_bind, first]
  exact h

end Fails

section

variable {path : String} {v : Json}

theorem gives_valueAt (hPath : IsDirect path) (hValue : env.values path = some v) :
    Gives name (valueAt env path) v := by
  refine gives_current.bind ?_
  rw [if_neg hPath.1, resolve, if_neg (by simp [hPath.2]), State.lookup?_start, ← Env.values, hValue]
  exact gives_lift v

theorem fails_valueAt (hPath : IsDirect path) (hValue : env.values path = none) :
    Fails name (valueAt env path) := by
  refine Fails.after gives_current ?_
  rw [if_neg hPath.1, resolve, if_neg (by simp [hPath.2]), State.lookup?_start, ← Env.values, hValue]
  exact ⟨_, _, rfl⟩

/-- Without filters and negation an expression has the value of its variable. -/
theorem gives_value (below : Below) (hPath : IsDirect path)
    (hValue : env.values path = some v) :
    Gives name (value env below (.of (.var path))) v := by
  have hHead : Gives name (head env below (.of (.var path))) (.inl v) := by
    refine (gives_valueAt hPath hValue).attempt.bind ?_
    cases v <;> exact .pure _
  exact hHead.bind (Gives.bind (.pure v) (.pure v))

theorem fails_value (below : Below) (hPath : IsDirect path)
    (hValue : env.values path = none) :
    Fails name (value env below (.of (.var path))) := by
  refine Fails.bind ?_ _
  obtain ⟨fault, s, h⟩ : Fails name (valueAt env path) := fails_valueAt hPath hValue
  have hAttempt : (attempt (valueAt env path)).run.run (State.start name) =
      (.ok (.error fault), s) := by
    simp only [attempt, ExceptT.run_mk, StateT.run_bind, h]
    rfl
  refine ⟨fault, s, ?_⟩
  simp only [head, Expr.of, Expr.term, ExceptT.run_bind, StateT.run_bind, hAttempt]
  rfl

end

theorem gives_str (below : Below) (t : String) :
    Gives name (value env below (.of (.str t))) (.str t) :=
  Gives.bind (.pure _) (Gives.bind (.pure _) (.pure _))

theorem Gives.holds {op : LogicOp} {left right : Expr} {below : Below} {b : Bool}
    (h : Gives name (logic below op left right) b) :
    Gives name (Evaluate.holds env below ⟨.logic op left right, false, []⟩) b := by
  have hBool : (b != false) = b := by cases b <;> rfl
  exact hBool ▸ Gives.bind h (.pure (b != false))

theorem gives_comparison {op : LogicOp} {path s : String} {v : Json} {depth : Nat}
    (hOp : op = .eq ∨ op = .ne) (hPath : IsDirect path) (hValue : env.values path = some v) :
    Gives name (logic (upTo env (depth + 1)) op (.of (.var path)) (.of (.str s)))
      (compare op v (.str s)) := by
  have hLeft : Gives name (value env (upTo env depth) (.of (.var path))) v :=
    gives_value (upTo env depth) hPath hValue
  have hRight : Gives name (value env (upTo env depth) (.of (.str s))) (.str s) :=
    gives_str (upTo env depth) s
  rcases hOp with rfl | rfl
  · exact hLeft.bind (hRight.bind (.pure _))
  · exact hLeft.bind (hRight.bind (.pure _))

/-- A condition holds or not as its variables decide. -/
theorem gives_holds {e : Expr} {depth : Nat} (condition : e.IsCondition (IsKnown env.values))
    (hHeight : e.height ≤ depth) :
    Gives name ((upTo env depth).holds e) (e.decides env.values) := by
  induction depth generalizing e with
  | zero => unfold Expr.height at hHeight; split at hHeight <;> omega
  | succ depth ih =>
      unfold Expr.IsCondition at condition
      split at condition
      · obtain ⟨v, hValue⟩ := Option.isSome_iff_exists.mp condition.2
        obtain ⟨depth, rfl⟩ := Nat.exists_eq_add_one_of_ne_zero
          (Nat.ne_of_gt (Nat.le_of_succ_le_succ hHeight))
        rw [Expr.decides, hValue]
        exact (gives_comparison (.inl rfl) condition.1 hValue).holds
      · obtain ⟨v, hValue⟩ := Option.isSome_iff_exists.mp condition.2
        obtain ⟨depth, rfl⟩ := Nat.exists_eq_add_one_of_ne_zero
          (Nat.ne_of_gt (Nat.le_of_succ_le_succ hHeight))
        rw [Expr.decides, hValue]
        exact (gives_comparison (.inr rfl) condition.1 hValue).holds
      · rename_i a b
        obtain ⟨hLeft, hRight⟩ := Nat.max_le.mp (Nat.le_of_succ_le_succ hHeight)
        refine Gives.holds ((ih condition.1 hLeft).bind ?_)
        rw [Expr.decides]
        cases a.decides env.values with
        | true => exact .pure true
        | false => exact ih condition.2 hRight
      · exact condition.elim

/-- The first arm that holds is rendered, or else the other nodes. -/
theorem gives_branch {shows : String → Prop} {depth : Nat} {otherwise : List Node}
    {arms : List (Expr × List Node)} (plain : ArePlainArms (IsKnown env.values) shows arms)
    (hHeight : armsHeight arms ≤ depth)
    (body : ∀ nodes, ArePlain (IsKnown env.values) shows nodes → height nodes ≤ depth →
      Gives name ((upTo env depth).body nodes) (written env.values nodes))
    (hOtherwise : Gives name ((upTo env depth).body otherwise) (written env.values otherwise)) :
    Gives name (branch (upTo env depth) otherwise arms)
      (Fragment.fillAll env.values
        (armFragments env.values (fragments env.values otherwise) arms)) := by
  induction arms with
  | nil => exact hOtherwise
  | cons arm arms ih =>
      obtain ⟨condition, nodes⟩ := arm
      obtain ⟨hCondition, hNodes, hArms⟩ := plain
      simp only [armsHeight, Nat.max_le] at hHeight
      refine (gives_holds hCondition hHeight.1.1).bind ?_
      rw [armFragments]
      cases condition.decides env.values with
      | true => exact body nodes hNodes hHeight.1.2
      | false => exact ih hArms hHeight.2

theorem gives_node {depth : Nat} {n : Node}
    (plain : n.IsPlain (IsKnown env.values) (IsKnown env.values)) (hHeight : n.height ≤ depth)
    (body : ∀ nodes, ArePlain (IsKnown env.values) (IsKnown env.values) nodes →
      height nodes ≤ depth → Gives name ((upTo env depth).body nodes) (written env.values nodes)) :
    Gives name (node env (upTo env depth) n)
      (Fragment.fillAll env.values (n.fragments env.values)) := by
  unfold Node.IsPlain at plain
  split at plain
  · rw [Node.fragments, Fragment.fillAll_cons, Fragment.fillAll_nil, String.append_empty]
    exact .pure _
  · obtain ⟨v, hValue⟩ := Option.isSome_iff_exists.mp plain.2
    obtain ⟨depth, rfl⟩ := Nat.exists_eq_add_one_of_ne_zero (Nat.ne_of_gt hHeight)
    rw [Node.fragments, Fragment.fillAll_cons, Fragment.fillAll_nil, String.append_empty,
      Fragment.fill, hValue]
    exact (gives_value (upTo env depth) plain.1 hValue).bind (.pure _)
  · obtain ⟨hArms, hOtherwise⟩ := Nat.max_le.mp hHeight
    rw [Node.fragments]
    exact gives_branch plain.1 hArms body (body _ plain.2 hOtherwise)
  · exact plain.elim

/-- Rendering plain nodes whose variables are known gives their text. -/
theorem gives_body {depth : Nat} {nodes : List Node}
    (plain : ArePlain (IsKnown env.values) (IsKnown env.values) nodes)
    (hHeight : height nodes ≤ depth) :
    Gives name ((upTo env depth).body nodes) (written env.values nodes) := by
  induction depth generalizing nodes with
  | zero => cases nodes <;> simp [height] at hHeight
  | succ depth ih =>
      change Gives name (sequence (node env (upTo env depth)) nodes) _
      induction nodes with
      | nil => exact .pure ""
      | cons n nodes hRest =>
          obtain ⟨hNode, hNodes⟩ := plain
          obtain ⟨hInner, hOuter⟩ := Nat.max_le.mp hHeight
          have hText : Gives name (node env (upTo env depth) n) _ :=
            gives_node hNode (Nat.le_of_succ_le_succ hInner) fun _ => ih
          rw [written, fragments, Fragment.fillAll_append]
          exact hText.bind (gives_current.bind ((hRest hNodes hOuter).bind (.pure _)))

/-- Rendering stops at the first variable that has no value. -/
theorem fails_body {depth : Nat} {front back : List Node} {path : String}
    (plain : ArePlain (IsKnown env.values) (IsKnown env.values) front)
    (hHeight : height front ≤ depth) (hPath : IsDirect path) (hValue : env.values path = none) :
    Fails name ((upTo env depth).body (front ++ .output (.of (.var path)) :: back)) := by
  obtain ⟨depth, rfl⟩ : ∃ d, depth = d + 1 :=
    Nat.exists_eq_add_one_of_ne_zero (by rintro rfl; cases front <;> simp [height] at hHeight)
  change Fails name (sequence (node env (upTo env depth)) _)
  induction front with
  | nil =>
      have hNode : Fails name (node env (upTo env depth) (.output (.of (.var path)))) := by
        refine Fails.bind ?_ _
        cases depth with
        | zero => exact ⟨_, _, rfl⟩
        | succ depth => exact fails_value (upTo env depth) hPath hValue
      exact hNode.bind _
  | cons n front hRest =>
      obtain ⟨hNode, hFront⟩ := plain
      obtain ⟨hInner, hOuter⟩ := Nat.max_le.mp hHeight
      have hText : Gives name (node env (upTo env depth) n) _ :=
        gives_node hNode (Nat.le_of_succ_le_succ hInner) fun _ => gives_body
      exact Fails.after hText (Fails.after gives_current (Fails.bind (hRest hFront hOuter) _))

end Evaluate

namespace Library

variable {library : Library}

theorem ancestors_of_parent_none {t : Template} (h : t.parent = none) :
    library.ancestors t = [] := by
  rw [Library.ancestors]
  cases library.templates.length with
  | zero => rfl
  | succ bound =>
      rw [Library.ancestors.go, h]
      rfl

variable {name : String} {context : List (String × Json)}

/-- A template that extends no other one is rendered from its own body. -/
theorem render_of_find? {t : Template} (hFind : library.find? name = some t)
    (hParent : t.parent = none) :
    library.render name context =
      match ((Evaluate.upTo ⟨library, t, context⟩ maxDepth).body t.body).run.run
          (State.start t.name) with
      | (Except.ok text, _) => .ok text
      | (Except.error fault, s) =>
        .error (Evaluate.place ⟨library, t, context⟩ s :: fault.texts) := by
  rw [render, hFind]
  simp only [ancestors_of_parent_none hParent]
  rfl

/-- A plain template is rendered as it stands, whatever other templates there are. -/
theorem render_of_plain {nodes : List Node} (hFind : library.find? name = some (.ofBody name nodes))
    (plain : ArePlain (IsKnown (Value.lookup? context)) (IsKnown (Value.lookup? context)) nodes)
    (hHeight : height nodes ≤ maxDepth) :
    library.render name context = .ok (written (Value.lookup? context) nodes) := by
  let env : Env := ⟨library, .ofBody name nodes, context⟩
  have hBody : Evaluate.Gives name ((Evaluate.upTo env maxDepth).body nodes) _ :=
    Evaluate.gives_body plain hHeight
  rw [render_of_find? hFind rfl]
  exact hBody ▸ rfl

/-- A plain template is not rendered if it comes to a variable that has no value. -/
theorem render_of_missing {front back : List Node} {path : String}
    (hFind : library.find? name =
      some (.ofBody name (front ++ .output (.of (.var path)) :: back)))
    (plain : ArePlain (IsKnown (Value.lookup? context)) (IsKnown (Value.lookup? context)) front)
    (hHeight : height front ≤ maxDepth) (hPath : IsDirect path)
    (hValue : Value.lookup? context path = none) :
    ∃ causes, library.render name context = .error causes := by
  let nodes := front ++ .output (.of (.var path)) :: back
  let env : Env := ⟨library, .ofBody name nodes, context⟩
  obtain ⟨fault, s, hBody⟩ : Evaluate.Fails name ((Evaluate.upTo env maxDepth).body nodes) :=
    Evaluate.fails_body plain hHeight hPath hValue
  rw [render_of_find? hFind rfl]
  exact hBody ▸ ⟨_, rfl⟩

end Library

end KernelGen.Template
