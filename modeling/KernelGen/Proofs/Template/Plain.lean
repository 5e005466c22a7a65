import KernelGen.Template.Render

/-! Plain templates: text, variables, and branches that compare variables with texts. What one
of them writes can be said without rendering it, as a list of fragments that depends only on the
variables that its conditions ask for. -/
namespace KernelGen.Template

/-- A part of what a template writes: text that stands in the template, or the value of a
variable. -/
inductive Fragment where
  | text (s : String)
  | value (path : String)
  deriving DecidableEq, Repr

namespace Fragment

/-- A variable without a value leaves nothing; rendering would fail there. -/
def fill (values : String → Option Json) : Fragment → String
  | .text s => s
  | .value path => ((values path).map Value.text).getD ""

/-- The text of fragments that follow each other. -/
def fillAll (values : String → Option Json) (fragments : List Fragment) : String :=
  String.join (fragments.map (fill values))

variable {values : String → Option Json}

@[simp] theorem fillAll_nil : fillAll values [] = "" := rfl

@[simp] theorem fillAll_cons (f : Fragment) (fragments : List Fragment) :
    fillAll values (f :: fragments) = f.fill values ++ fillAll values fragments := by
  simp [fillAll]

@[simp] theorem fillAll_append (front back : List Fragment) :
    fillAll values (front ++ back) = fillAll values front ++ fillAll values back := by
  simp [fillAll]

end Fragment

namespace Expr

/-- Whether a comparison of a variable with a text holds, or one of several. -/
def decides (values : String → Option Json) : Expr → Bool
  | .mk (.logic .eq (.mk (.var path) _ _) (.mk (.str s) _ _)) _ _ =>
    (values path).any (Evaluate.compare .eq · (.str s))
  | .mk (.logic .ne (.mk (.var path) _ _) (.mk (.str s) _ _)) _ _ =>
    (values path).any (Evaluate.compare .ne · (.str s))
  | .mk (.logic .or a b) _ _ => a.decides values || b.decides values
  | _ => false

/-- A comparison of a variable with a text, or one of several. -/
def IsCondition (asks : String → Prop) : Expr → Prop
  | .mk (.logic .eq (.mk (.var path) false []) (.mk (.str _) false [])) false [] => asks path
  | .mk (.logic .ne (.mk (.var path) false []) (.mk (.str _) false [])) false [] => asks path
  | .mk (.logic .or a b) false [] => a.IsCondition asks ∧ b.IsCondition asks
  | _ => False

/-- How deep the evaluation of a condition goes. -/
def height : Expr → Nat
  | .mk (.logic .or a b) _ _ => max a.height b.height + 1
  | _ => 2

end Expr

mutual

/-- What a node writes. -/
def Node.fragments (values : String → Option Json) : Node → List Fragment
  | .text s => [.text s]
  | .output (.mk (.var path) _ _) => [.value path]
  | .branch arms otherwise => armFragments values (fragments values otherwise) arms
  | _ => []

/-- What nodes write one after the other. -/
def fragments (values : String → Option Json) : List Node → List Fragment
  | [] => []
  | n :: rest => n.fragments values ++ fragments values rest

/-- What the first arm that holds writes. -/
def armFragments (values : String → Option Json) (otherwise : List Fragment) :
    List (Expr × List Node) → List Fragment
  | [] => otherwise
  | (condition, nodes) :: rest =>
    if condition.decides values then fragments values nodes
    else armFragments values otherwise rest

end

mutual

/-- A node of a plain template; `asks` are the variables of conditions and `shows` those that
are written. -/
def Node.IsPlain (asks shows : String → Prop) : Node → Prop
  | .text _ => True
  | .output (.mk (.var path) false []) => shows path
  | .branch arms otherwise => ArePlainArms asks shows arms ∧ ArePlain asks shows otherwise
  | _ => False

def ArePlain (asks shows : String → Prop) : List Node → Prop
  | [] => True
  | n :: rest => n.IsPlain asks shows ∧ ArePlain asks shows rest

def ArePlainArms (asks shows : String → Prop) : List (Expr × List Node) → Prop
  | [] => True
  | (condition, nodes) :: rest =>
    condition.IsCondition asks ∧ ArePlain asks shows nodes ∧ ArePlainArms asks shows rest

end

mutual

/-- How deep a node nests. -/
def Node.height : Node → Nat
  | .text _ => 0
  | .branch arms otherwise => max (armsHeight arms) (height otherwise)
  | _ => 1

def height : List Node → Nat
  | [] => 1
  | n :: rest => max (n.height + 1) (height rest)

def armsHeight : List (Expr × List Node) → Nat
  | [] => 0
  | (condition, nodes) :: rest => max (max condition.height (height nodes)) (armsHeight rest)

end

/-- The text of a plain template. -/
def written (values : String → Option Json) (nodes : List Node) : String :=
  Fragment.fillAll values (fragments values nodes)

mutual

/-- The texts that stand in a node. -/
def Node.literals : Node → List String
  | .text s => [s]
  | .branch arms otherwise => armLiterals arms ++ literals otherwise
  | _ => []

def literals : List Node → List String
  | [] => []
  | n :: rest => n.literals ++ literals rest

def armLiterals : List (Expr × List Node) → List String
  | [] => []
  | (_, nodes) :: rest => literals nodes ++ armLiterals rest

end

mutual

/-- The variables that a node may write. -/
def Node.shown : Node → List String
  | .output (.mk (.var path) _ _) => [path]
  | .branch arms otherwise => armShown arms ++ shown otherwise
  | _ => []

def shown : List Node → List String
  | [] => []
  | n :: rest => n.shown ++ shown rest

def armShown : List (Expr × List Node) → List String
  | [] => []
  | (_, nodes) :: rest => shown nodes ++ armShown rest

end

variable {asks shows asks' shows' : String → Prop} {values other : String → Option Json}

theorem fragments_append (front back : List Node) :
    fragments values (front ++ back) = fragments values front ++ fragments values back := by
  induction front with
  | nil => rfl
  | cons n front ih => simp only [List.cons_append, fragments, ih, List.append_assoc]

theorem written_append (front back : List Node) :
    written values (front ++ back) = written values front ++ written values back := by
  rw [written, fragments_append, Fragment.fillAll_append]
  rfl

@[simp] theorem arePlain_append (front back : List Node) :
    ArePlain asks shows (front ++ back) ↔ ArePlain asks shows front ∧ ArePlain asks shows back := by
  induction front with
  | nil => simp [ArePlain]
  | cons n front ih => simp only [List.cons_append, ArePlain, ih, and_assoc]

theorem Expr.IsCondition.mono (hAsks : ∀ path, asks path → asks' path) {e : Expr}
    (condition : e.IsCondition asks) : e.IsCondition asks' := by
  fun_induction Expr.IsCondition asks e with
  | case1 path _ => exact hAsks path condition
  | case2 path _ => exact hAsks path condition
  | case3 a b left right => exact ⟨left condition.1, right condition.2⟩
  | case4 => exact condition.elim

theorem Expr.IsCondition.decides_congr {e : Expr} (condition : e.IsCondition asks)
    (agree : ∀ path, asks path → values path = other path) :
    e.decides values = e.decides other := by
  fun_induction Expr.IsCondition asks e with
  | case1 path _ => rw [decides, decides, agree path condition]
  | case2 path _ => rw [decides, decides, agree path condition]
  | case3 a b left right => rw [decides, decides, left condition.1, right condition.2]
  | case4 => exact condition.elim

mutual

theorem Node.IsPlain.mono (hAsks : ∀ path, asks path → asks' path)
    (hShows : ∀ path, shows path → shows' path) :
    (n : Node) → n.IsPlain asks shows → n.IsPlain asks' shows'
  | .text _, _ => trivial
  | .output (.mk (.var path) false []), plain => hShows path plain
  | .branch arms otherwise, plain =>
    ⟨ArePlainArms.mono hAsks hShows arms plain.1, ArePlain.mono hAsks hShows otherwise plain.2⟩

theorem ArePlain.mono (hAsks : ∀ path, asks path → asks' path)
    (hShows : ∀ path, shows path → shows' path) :
    (nodes : List Node) → ArePlain asks shows nodes → ArePlain asks' shows' nodes
  | [], _ => trivial
  | n :: rest, plain =>
    ⟨Node.IsPlain.mono hAsks hShows n plain.1, ArePlain.mono hAsks hShows rest plain.2⟩

theorem ArePlainArms.mono (hAsks : ∀ path, asks path → asks' path)
    (hShows : ∀ path, shows path → shows' path) : (arms : List (Expr × List Node)) →
    ArePlainArms asks shows arms → ArePlainArms asks' shows' arms
  | [], _ => trivial
  | (_, nodes) :: rest, plain =>
    ⟨plain.1.mono hAsks, ArePlain.mono hAsks hShows nodes plain.2.1,
      ArePlainArms.mono hAsks hShows rest plain.2.2⟩

end

mutual

/-- The fragments depend on the variables of conditions only. -/
theorem Node.IsPlain.fragments_congr (agree : ∀ path, asks path → values path = other path) :
    (n : Node) → n.IsPlain asks shows → n.fragments values = n.fragments other
  | .text _, _ => rfl
  | .output (.mk (.var _) false []), _ => rfl
  | .branch arms otherwise, plain => by
    rw [Node.fragments, Node.fragments, ArePlain.fragments_congr agree otherwise plain.2]
    exact ArePlainArms.fragments_congr agree _ arms plain.1

theorem ArePlain.fragments_congr (agree : ∀ path, asks path → values path = other path) :
    (nodes : List Node) → ArePlain asks shows nodes → fragments values nodes = fragments other nodes
  | [], _ => rfl
  | n :: rest, plain => by
    rw [fragments, fragments, Node.IsPlain.fragments_congr agree n plain.1,
      ArePlain.fragments_congr agree rest plain.2]

theorem ArePlainArms.fragments_congr (agree : ∀ path, asks path → values path = other path)
    (otherwise : List Fragment) :
    (arms : List (Expr × List Node)) → ArePlainArms asks shows arms →
      armFragments values otherwise arms = armFragments other otherwise arms
  | [], _ => rfl
  | (_, nodes) :: rest, plain => by
    rw [armFragments, armFragments, plain.1.decides_congr agree,
      ArePlain.fragments_congr agree nodes plain.2.1,
      ArePlainArms.fragments_congr agree otherwise rest plain.2.2]

end

mutual

/-- The variables of the fragments are among those that are written. -/
theorem Node.IsPlain.shows_of_mem {path : String} :
    (n : Node) → n.IsPlain asks shows → .value path ∈ n.fragments values → shows path
  | .text _, _, hMem => by simp [Node.fragments] at hMem
  | .output (.mk (.var written) false []), plain, hMem => by
    obtain rfl : path = written := by simpa [Node.fragments] using hMem
    exact plain
  | .branch arms otherwise, plain, hMem =>
    (ArePlainArms.shows_of_mem arms plain.1 hMem).elim id
      (ArePlain.shows_of_mem otherwise plain.2)

theorem ArePlain.shows_of_mem {path : String} :
    (nodes : List Node) → ArePlain asks shows nodes → .value path ∈ fragments values nodes →
      shows path
  | n :: rest, plain, hMem =>
    (List.mem_append.mp hMem).elim (Node.IsPlain.shows_of_mem n plain.1)
      (ArePlain.shows_of_mem rest plain.2)

theorem ArePlainArms.shows_of_mem {path : String} {otherwise : List Fragment} :
    (arms : List (Expr × List Node)) → ArePlainArms asks shows arms →
      .value path ∈ armFragments values otherwise arms →
      shows path ∨ .value path ∈ otherwise
  | [], _, hMem => .inr hMem
  | (condition, nodes) :: rest, plain, hMem => by
    rw [armFragments] at hMem
    split at hMem
    · exact .inl (ArePlain.shows_of_mem nodes plain.2.1 hMem)
    · exact ArePlainArms.shows_of_mem rest plain.2.2 hMem

end

mutual

/-- The texts of the fragments stand in the nodes. -/
theorem Node.mem_literals {s : String} :
    (n : Node) → .text s ∈ n.fragments values → s ∈ n.literals
  | .text t, hMem => by
    obtain rfl : s = t := by simpa [Node.fragments] using hMem
    exact List.mem_cons_self ..
  | .output (.mk term _ _), hMem => by cases term <;> simp [Node.fragments] at hMem
  | .branch arms otherwise, hMem => by
    rw [Node.literals, List.mem_append]
    exact (mem_armLiterals arms hMem).imp_right (mem_literals otherwise)
  | .assign .., hMem | .loop .., hMem | .filtered .., hMem | .block .., hMem | .inherited, hMem
  | .insert .., hMem | .stop, hMem | .skip, hMem => by simp [Node.fragments] at hMem

theorem mem_literals {s : String} :
    (nodes : List Node) → .text s ∈ fragments values nodes → s ∈ literals nodes
  | [], hMem => by simp [fragments] at hMem
  | n :: rest, hMem =>
    List.mem_append.mpr ((List.mem_append.mp hMem).imp (Node.mem_literals n) (mem_literals rest))

theorem mem_armLiterals {s : String} {otherwise : List Fragment} :
    (arms : List (Expr × List Node)) → .text s ∈ armFragments values otherwise arms →
      s ∈ armLiterals arms ∨ .text s ∈ otherwise
  | [], hMem => .inr hMem
  | (condition, nodes) :: rest, hMem => by
    rw [armLiterals, List.mem_append, or_assoc]
    rw [armFragments] at hMem
    split at hMem
    · exact .inl (mem_literals nodes hMem)
    · exact .inr (mem_armLiterals rest hMem)

end

mutual

/-- The variables of the fragments are among those that the nodes may write. -/
theorem Node.mem_shown {path : String} :
    (n : Node) → .value path ∈ n.fragments values → path ∈ n.shown
  | .text _, hMem => by simp [Node.fragments] at hMem
  | .output (.mk term _ _), hMem => by
    cases term with
    | var written => simpa [Node.fragments, Node.shown] using hMem
    | _ => simp [Node.fragments] at hMem
  | .branch arms otherwise, hMem => by
    rw [Node.shown, List.mem_append]
    exact (mem_armShown arms hMem).imp_right (mem_shown otherwise)
  | .assign .., hMem | .loop .., hMem | .filtered .., hMem | .block .., hMem | .inherited, hMem
  | .insert .., hMem | .stop, hMem | .skip, hMem => by simp [Node.fragments] at hMem

theorem mem_shown {path : String} :
    (nodes : List Node) → .value path ∈ fragments values nodes → path ∈ shown nodes
  | [], hMem => by simp [fragments] at hMem
  | n :: rest, hMem =>
    List.mem_append.mpr ((List.mem_append.mp hMem).imp (Node.mem_shown n) (mem_shown rest))

theorem mem_armShown {path : String} {otherwise : List Fragment} :
    (arms : List (Expr × List Node)) → .value path ∈ armFragments values otherwise arms →
      path ∈ armShown arms ∨ .value path ∈ otherwise
  | [], hMem => .inr hMem
  | (condition, nodes) :: rest, hMem => by
    rw [armShown, List.mem_append, or_assoc]
    rw [armFragments] at hMem
    split at hMem
    · exact .inl (mem_shown nodes hMem)
    · exact .inr (mem_armShown rest hMem)

end

/-- What holds of all texts and values that are written holds of the whole, if it is kept when
texts are put together. -/
theorem ArePlain.written_induction {P : String → Prop} (empty : P "")
    (append : ∀ s t, P s → P t → P (s ++ t)) {nodes : List Node}
    (plain : ArePlain asks shows nodes) (hLiterals : ∀ s ∈ literals nodes, P s)
    (hShows : ∀ path, shows path → P ((Fragment.value path).fill values)) :
    P (written values nodes) := by
  have hFill : ∀ f ∈ fragments values nodes, P (f.fill values) := by
    intro f hf
    cases f with
    | text s => exact hLiterals s (mem_literals nodes hf)
    | value path => exact hShows path (plain.shows_of_mem nodes hf)
  rw [written]
  generalize fragments values nodes = fs at hFill
  induction fs with
  | nil => exact empty
  | cons f fs ih =>
      obtain ⟨hFirst, hRest⟩ := List.forall_mem_cons.mp hFill
      rw [Fragment.fillAll_cons]
      exact append _ _ hFirst (ih hRest)

/-- The same fragments are filled with the same values. -/
theorem written_of_fragments {nodes : List Node}
    (hFragments : fragments values nodes = fragments other nodes)
    (hValues : ∀ path, .value path ∈ fragments other nodes → values path = other path) :
    written values nodes = written other nodes := by
  have hFill : ∀ f ∈ fragments other nodes, f.fill values = f.fill other := by
    intro f hf
    cases f with
    | text s => rfl
    | value path => rw [Fragment.fill, Fragment.fill, hValues path hf]
  rw [written, written, hFragments, Fragment.fillAll, Fragment.fillAll, List.map_congr_left hFill]

/-- The text of plain nodes depends only on the variables that they ask for and write. -/
theorem ArePlain.written_congr {nodes : List Node} (plain : ArePlain asks shows nodes)
    (hAsks : ∀ path, asks path → values path = other path)
    (hShows : ∀ path, shows path → values path = other path) :
    written values nodes = written other nodes :=
  written_of_fragments (ArePlain.fragments_congr hAsks nodes plain) fun path hMem =>
    hShows path (plain.shows_of_mem nodes hMem)

/-- A variable that is not among those that plain nodes may write does not count. -/
theorem ArePlain.written_eq {nodes : List Node} (plain : ArePlain asks shows nodes)
    (hAsks : ∀ path, asks path → values path = other path)
    (hShown : ∀ path ∈ shown nodes, shows path → values path = other path) :
    written values nodes = written other nodes :=
  written_of_fragments (ArePlain.fragments_congr hAsks nodes plain) fun path hMem =>
    hShown path (mem_shown nodes hMem) (plain.shows_of_mem nodes hMem)

end KernelGen.Template
