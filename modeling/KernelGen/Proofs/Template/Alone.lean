import Mathlib.Data.List.Basic
import KernelGen.Proofs.Template.Rendering

/-! A template that refers to no other one. What it is rendered to does not depend on the library
that it is in: every step of a rendering does the same as it does in a library of this template
alone, as long as no other template has been entered, and no step enters one. -/
namespace KernelGen.Template

mutual

/-- The names of the templates that a node inserts. -/
def Node.inserted : Node → List String
  | .branch arms otherwise => armsInserted arms ++ inserted otherwise
  | .loop _ _ _ body whenEmpty => inserted body ++ inserted whenEmpty
  | .filtered _ _ body => inserted body
  | .block _ body => inserted body
  | .insert names _ => names
  | _ => []

def inserted : List Node → List String
  | [] => []
  | n :: rest => n.inserted ++ inserted rest

def armsInserted : List (Expr × List Node) → List String
  | [] => []
  | (_, nodes) :: rest => inserted nodes ++ armsInserted rest

end

/-- The names of the templates that a template extends, takes macros from or inserts. -/
def references (t : Template) : List String :=
  t.parent.toList ++ t.imports.map Prod.fst ++ t.macros.flatMap (inserted ·.body) ++
    inserted t.body

mutual

/-- What the blocks of a node insert is inserted by the node. -/
theorem inserted_of_blocksOf {entry : String × List Node} :
    (n : Node) → entry ∈ blocksOf n → ∀ name ∈ inserted entry.2, name ∈ n.inserted
  | .block _ body, hMem, name, hName => by
    rw [blocksOf, List.mem_cons] at hMem
    rw [Node.inserted]
    rcases hMem with rfl | hMem
    · exact hName
    · exact inserted_of_blocksOfAll body hMem name hName
  | .text _, hMem, _, _ | .output _, hMem, _, _ | .assign .., hMem, _, _ | .branch .., hMem, _, _
  | .loop .., hMem, _, _ | .filtered .., hMem, _, _ | .inherited, hMem, _, _
  | .insert .., hMem, _, _ | .stop, hMem, _, _ | .skip, hMem, _, _ => by
    simp [blocksOf] at hMem

theorem inserted_of_blocksOfAll {entry : String × List Node} :
    (nodes : List Node) → entry ∈ blocksOfAll nodes → ∀ name ∈ inserted entry.2,
      name ∈ inserted nodes
  | [], hMem, _, _ => by simp [blocksOfAll] at hMem
  | n :: rest, hMem, name, hName => by
    rw [blocksOfAll, List.mem_append] at hMem
    rw [inserted, List.mem_append]
    exact hMem.imp (inserted_of_blocksOf n · name hName) (inserted_of_blocksOfAll rest · name hName)

end

namespace Library

/-- A library of one template. -/
def alone (t : Template) : Library := ⟨[t]⟩

/-- The name is that of the template, or of nothing in the library. -/
def Stays (library : Library) (t : Template) (name : String) : Prop :=
  name = t.name ∨ library.find? name = none

/-- The template is in the library and refers to no other one that is there. -/
structure Isolates (library : Library) (t : Template) : Prop where
  found : library.find? t.name = some t
  parent : t.parent = none
  /-- Where nothing is rendered the name of the template is empty. -/
  unnamed : library.Stays t ""
  stays : ∀ name ∈ t.references, library.Stays t name

variable {library : Library} {t : Template} {name : String}

/-- The macros of a template under the names that it may call them by. -/
def ownSpaces (t : Template) : Spaces :=
  t.imports.foldl (fun known (file, space) =>
    if file = t.name then known.filter (·.1 != space) ++ [(space, t.name, t.macros)] else known)
    (if t.macros.isEmpty then [] else [("self", t.name, t.macros)])

theorem mem_ownSpaces {space : String × String × List Macro} (h : space ∈ ownSpaces t) :
    space.2 = (t.name, t.macros) := by
  have hStep : ∀ space ∈ ownSpaces t, space.2 = (t.name, t.macros) := by
    rw [ownSpaces]
    apply List.foldlRecOn (motive := fun known : Spaces =>
      ∀ space ∈ known, space.2 = (t.name, t.macros))
    · split <;> simp
    · rintro known hKnown ⟨file, key⟩ -
      dsimp only
      split
      · simp only [List.mem_append, List.mem_filter, List.mem_singleton]
        rintro space (⟨hMem, -⟩ | rfl)
        · exact hKnown space hMem
        · rfl
      · exact hKnown
  exact hStep space h

theorem find?_alone (t : Template) : (alone t).find? t.name = some t := by
  simp [alone, find?]

namespace Isolates

variable (isolates : library.Isolates t)

include isolates

theorem find?_eq (h : library.Stays t name) : library.find? name = (alone t).find? name := by
  by_cases hName : name = t.name
  · rw [hName, isolates.found, find?_alone]
  · have hOther : t.name ≠ name := Ne.symm hName
    rw [h.resolve_left hName]
    simp [alone, find?, hOther]

theorem eq_of_find? {u : Template} (h : library.Stays t name) (hFind : library.find? name = some u) :
    u = t := by
  rcases h with rfl | hNone
  · exact Option.some.inj (hFind.symm.trans isolates.found)
  · cases hNone.symm.trans hFind

/-- The template is isolated in its own library too. -/
theorem alone : (alone t).Isolates t := by
  have hStays {name : String} (h : library.Stays t name) : (Library.alone t).Stays t name :=
    h.imp_right fun hNone => (isolates.find?_eq h).symm.trans hNone
  exact ⟨find?_alone t, isolates.parent, hStays isolates.unnamed,
    fun name hName => hStays (isolates.stays name hName)⟩

theorem ancestors : library.ancestors t = [] := ancestors_of_parent_none isolates.parent

theorem blockFrom?_eq (block : String) (level : Nat) :
    library.blockFrom? t block level = (Library.alone t).blockFrom? t block level := by
  rw [blockFrom?, blockFrom?, isolates.ancestors, isolates.alone.ancestors]

/-- A block of the template has what it inserts. -/
theorem of_blockFrom? {block : String} {level i : Nat} {u : Template} {nodes : List Node}
    (h : library.blockFrom? t block level = some (i, u, nodes)) :
    u = t ∧ ∀ name ∈ inserted nodes, library.Stays t name := by
  rw [blockFrom?, isolates.ancestors] at h
  obtain ⟨⟨v, j⟩, hMem, hFound⟩ := List.exists_of_findSome?_eq_some h
  obtain ⟨body, hLookup, hEq⟩ := Option.map_eq_some_iff.mp hFound
  obtain ⟨rfl, rfl, rfl⟩ : j = i ∧ v = u ∧ body = nodes := by simpa using hEq
  have hv : v = t := by simpa using List.fst_mem_of_mem_zipIdx (List.mem_of_mem_drop hMem)
  subst hv
  refine ⟨rfl, fun name hName => isolates.stays name ?_⟩
  have hBlock : (block, body) ∈ v.blocks := by
    obtain ⟨front, back, hBlocks, -⟩ := List.lookup_eq_some_iff.mp hLookup
    rw [hBlocks]
    exact List.mem_append_right _ (List.mem_cons_self ..)
  exact List.mem_append_right _ (inserted_of_blocksOfAll _ hBlock name hName)

/-- An import that the library has is the template itself. -/
theorem spaces_eq : library.spaces t = ownSpaces t := by
  rw [spaces, spaces.go, isolates.ancestors, List.foldl_nil, ownSpaces]
  refine List.foldl_ext _ _ _ fun known i hImport => ?_
  obtain ⟨file, space⟩ := i
  have hStays : library.Stays t file := by
    refine isolates.stays file (List.mem_append_left _ (List.mem_append_left _ ?_))
    exact List.mem_append_right _ (List.mem_map.mpr ⟨_, hImport, rfl⟩)
  by_cases hFile : file = t.name
  · simp only [hFile, isolates.found, if_true]
  · simp only [hStays.resolve_left hFile, if_neg hFile]

end Isolates

end Library

namespace State

/-- Only one template has been entered. A frame may also be of none. -/
structure Within (name : String) (s : State) : Prop where
  frames : ∀ f ∈ s.frames, f.template = name ∨ f.template = ""
  entered : ∀ e ∈ s.entered, e.template = name

variable {name : String} {s : State}

theorem within_start (name : String) : (start name).Within name :=
  ⟨by simp [start, Frame.ofKind], by simp [start]⟩

namespace Within

variable (within : s.Within name)

include within

theorem active : s.active = name ∨ s.active = "" := by
  have hFrames := within.frames
  rw [State.active]
  cases h : s.frames with
  | nil => exact .inr rfl
  | cons f frames => exact hFrames f (h ▸ List.mem_cons_self ..)

theorem push {f : Frame} (h : f.template = name ∨ f.template = "") : (State.push f s).Within name :=
  ⟨List.forall_mem_cons.mpr ⟨h, within.frames⟩, within.entered⟩

theorem pop : (State.pop s).Within name :=
  ⟨fun f hf => within.frames f (List.mem_of_mem_tail hf), within.entered⟩

theorem enter {e : Entered} (h : e.template = name) : (State.enter e s).Within name :=
  ⟨within.frames, List.forall_mem_cons.mpr ⟨h, within.entered⟩⟩

theorem leave : (State.leave s).Within name :=
  ⟨within.frames, fun e he => within.entered e (List.mem_of_mem_tail he)⟩

theorem assign (key : String) (value : Json) : (State.assign key value s).Within name := by
  have hFrames := within.frames
  rw [State.assign]
  split
  · exact within
  · rename_i f rest hs
    rw [hs, List.forall_mem_cons] at hFrames
    exact ⟨List.forall_mem_cons.mpr hFrames, within.entered⟩

theorem assignEverywhere (key : String) (value : Json) :
    (State.assignEverywhere key value s).Within name := by
  refine ⟨?_, within.entered⟩
  have hFrames := within.frames
  rw [State.assignEverywhere]
  change ∀ f ∈ assignEverywhere.go key value s.frames, _
  generalize s.frames = frames at hFrames
  induction frames with
  | nil => exact hFrames
  | cons f frames ih =>
      obtain ⟨hf, hRest⟩ := List.forall_mem_cons.mp hFrames
      rw [assignEverywhere.go]
      split
      · exact List.forall_mem_cons.mpr ⟨hf, ih hRest⟩
      · exact List.forall_mem_cons.mpr ⟨hf, hRest⟩

theorem setSignal (signal : Signal) : (State.setSignal signal s).Within name := by
  have hFrames := within.frames
  rw [State.setSignal]
  split
  · rename_i hs
    rw [hs, List.forall_mem_cons] at hFrames
    exact ⟨List.forall_mem_cons.mpr hFrames, within.entered⟩
  · exact within

theorem advance : (State.advance s).Within name := by
  have hFrames := within.frames
  rw [State.advance]
  split
  · rename_i hs
    rw [hs, List.forall_mem_cons] at hFrames
    exact ⟨List.forall_mem_cons.mpr hFrames, within.entered⟩
  · exact within

end Within

end State

namespace Evaluate

variable {α β : Type} {name : String}

/-- Where only one template has been entered, both runs do the same and enter no other one, and
what they come to has a property. -/
def Agree (name : String) (Q : α → Prop) (run other : Render α) : Prop :=
  ∀ s : State, s.Within name → run.run.run s = other.run.run s ∧
    (run.run.run s).2.Within name ∧ ∀ a, (run.run.run s).1 = .ok a → Q a

/-- Runs that agree, whatever they come to. -/
abbrev Same (name : String) (run other : Render α) : Prop := Agree name (fun _ => True) run other

namespace Agree

variable {Q : α → Prop} {R : β → Prop} {run other : Render α} {a : α}

theorem pure (h : Q a) : Agree name Q (pure a) (pure a) := fun _ within =>
  ⟨rfl, within, fun _ hEq => Except.ok.inj hEq ▸ h⟩

theorem throw (fault : Fault) : Agree name Q (throw fault) (throw fault) := fun _ within =>
  ⟨rfl, within, fun _ hEq => nomatch hEq⟩

theorem lift (r : Except Fault α) : Same name (lift r) (lift r) := fun _ within =>
  ⟨rfl, within, fun _ _ => trivial⟩

theorem bind {next behind : α → Render β} (first : Agree name Q run other)
    (later : ∀ a, Q a → Agree name R (next a) (behind a)) :
    Agree name R (run >>= next) (other >>= behind) := by
  intro s within
  obtain ⟨hSame, hWithin, hOk⟩ := first s within
  simp only [ExceptT.run_bind, StateT.run_bind, ← hSame]
  rcases hRun : run.run.run s with ⟨fault | a, mid⟩
  · rw [hRun] at hWithin
    exact ⟨rfl, hWithin, fun _ hEq => nomatch hEq⟩
  · rw [hRun] at hWithin hOk
    exact later a (hOk a rfl) mid hWithin

theorem during (h : Agree name Q run other) (part : Fault → Fault) :
    Agree name Q (during part run) (during part other) := by
  intro s within
  obtain ⟨hSame, hWithin, hOk⟩ := h s within
  simp only [Evaluate.during, ExceptT.run_mk, StateT.run_bind, ← hSame]
  rcases hRun : run.run.run s with ⟨fault | a, mid⟩
  · rw [hRun] at hWithin
    exact ⟨trivial, hWithin, fun _ hEq => nomatch hEq⟩
  · rw [hRun] at hWithin hOk
    exact ⟨trivial, hWithin, fun _ hEq => hOk _ hEq⟩

theorem attempt (h : Agree name Q run other) : Same name (attempt run) (attempt other) := by
  intro s within
  obtain ⟨hSame, hWithin, -⟩ := h s within
  simp only [Evaluate.attempt, ExceptT.run_mk, StateT.run_bind, ← hSame]
  exact ⟨trivial, hWithin, fun _ _ => trivial⟩

theorem mapM {γ : Type} {f g : γ → Render β} (h : ∀ c, Same name (f c) (g c)) (cs : List γ) :
    Same name (cs.mapM f) (cs.mapM g) := by
  induction cs with
  | nil => exact .pure trivial
  | cons c cs ih =>
      rw [List.mapM_cons, List.mapM_cons]
      exact (h c).bind fun _ _ => ih.bind fun _ _ => .pure trivial

theorem foldlM {γ : Type} {f g : β → γ → Render β} (h : ∀ b c, Same name (f b c) (g b c))
    (b : β) (cs : List γ) : Same name (cs.foldlM f b) (cs.foldlM g b) := by
  induction cs generalizing b with
  | nil => exact .pure trivial
  | cons c cs ih =>
      rw [List.foldlM_cons, List.foldlM_cons]
      exact (h b c).bind fun _ _ => ih _

end Agree

theorem agree_current : Agree name (State.Within name) current current := fun _ within =>
  ⟨rfl, within, fun _ hEq => Except.ok.inj hEq ▸ within⟩

theorem same_update {f : State → State} (h : ∀ s : State, s.Within name → (f s).Within name) :
    Same name (update f) (update f) := fun s within => ⟨rfl, h s within, fun _ _ => trivial⟩

end Evaluate

end KernelGen.Template
