import KernelGen.Proofs.Files.Growth

/-! Trees as a whole: when two are the same, when one has all that another has, and when one can
stand for files on a disk, where everything is in a directory. -/
namespace KernelGen.FileSystem

/-- Both trees have the same files and directories, byte for byte. -/
structure Same (fs gs : FileSystem) : Prop where
  workplace : fs.workplace = gs.workplace
  get? : ∀ l, fs.get? l = gs.get? l

theorem Same.trans {fs gs hs : FileSystem} (left : fs.Same gs) (right : gs.Same hs) :
    fs.Same hs :=
  ⟨left.workplace.trans right.workplace, fun l => (left.get? l).trans (right.get? l)⟩

/-- Where the first tree has a directory or a file, so has the second one. What is in the files is
left open. -/
structure Under (fs gs : FileSystem) : Prop extends KeepsDirectories fs gs where
  file : ∀ l content, fs.get? l = some (.file content) →
    ∃ other, gs.get? l = some (.file other)

theorem Under.trans {fs gs hs : FileSystem} (left : fs.Under gs) (right : gs.Under hs) :
    fs.Under hs := by
  refine ⟨left.toKeepsDirectories.trans right.toKeepsDirectories, fun l content hl => ?_⟩
  obtain ⟨other, hOther⟩ := left.file l content hl
  exact right.file l other hOther

theorem mem_of_get? {fs : FileSystem} {name : String} {parent : Location} {e : Entry}
    (h : fs.get? (name :: parent) = some e) : (name :: parent, e) ∈ fs.entries := by
  obtain ⟨front, back, hEntries, -⟩ := List.lookup_eq_some_iff.mp h
  rw [hEntries]
  exact List.mem_append_right _ (List.mem_cons_self ..)

theorem plain_of_entries {fs : FileSystem} (h : ∀ entry ∈ fs.entries, entry.2 ≠ .sink) :
    fs.Plain := by
  intro l hl
  cases l with
  | nil => cases hl
  | cons name parent => exact h _ (mem_of_get? hl) rfl

/-- There are no links. All that is there is in a directory, and the workplace is one. -/
structure IsRooted (fs : FileSystem) : Prop where
  parent : ∀ name l e, fs.get? (name :: l) = some e → fs.get? l = some .directory
  workplace : fs.get? fs.workplace = some .directory

namespace IsRooted

variable {fs next : FileSystem} {l parent : Location} {name : String} {p : Path}

/-- Whether entries are a tree can be seen from each of them. -/
theorem of_entries (hParent : ∀ entry ∈ fs.entries, fs.get? entry.1.tail = some .directory)
    (hWorkplace : fs.get? fs.workplace = some .directory) : fs.IsRooted :=
  ⟨fun _ _ _ h => hParent _ (mem_of_get? h), hWorkplace⟩

/-- Above a directory there is another one. -/
theorem tail (rooted : fs.IsRooted) (h : fs.get? l = some .directory) :
    fs.get? l.tail = some .directory := by
  cases l with
  | nil => rfl
  | cons name l => exact rooted.parent name l _ h

theorem of_suffix (rooted : fs.IsRooted) (hl : fs.get? l = some .directory) (h : parent <:+ l) :
    fs.get? parent = some .directory := by
  obtain ⟨names, rfl⟩ := h
  induction names with
  | nil => exact hl
  | cons name names ih => exact ih (rooted.tail hl)

theorem origin (rooted : fs.IsRooted) (p : Path) : fs.get? (fs.origin p) = some .directory := by
  rw [FileSystem.origin]
  split
  · rfl
  · exact rooted.workplace

/-- Something new in a directory leaves a tree, unless it takes the place of a directory. -/
theorem put (rooted : fs.IsRooted) {e : Entry} (hParent : fs.get? parent = some .directory)
    (hKeeps : KeepsDirectories fs (fs.put (name :: parent) e)) :
    (fs.put (name :: parent) e).IsRooted := by
  refine ⟨fun other m found hFound => ?_, ?_⟩
  · apply hKeeps.directory
    rw [get?_put] at hFound
    split at hFound
    · rename_i hm
      rw [(List.cons.inj hm).2]
      exact hParent
    · exact rooted.parent other m found hFound
  · rw [workplace_put]
    exact hKeeps.directory _ rooted.workplace

theorem makeDirectory (rooted : fs.IsRooted) (h : fs.makeDirectory p = .ok next) :
    next.IsRooted := by
  obtain ⟨parent, name, slash, names, -, hNone, rfl⟩ := put_of_makeDirectory h
  exact rooted.put names.directory (grows_put_directory hNone).keepsDirectories

theorem makePath (rooted : fs.IsRooted) (ps : List Path) : (fs.makePath ps).2.IsRooted :=
  makePath_induction (motive := fun before after => before.IsRooted → after.IsRooted)
    (fun _ => id) (fun left right rooted => right (left rooted)) ps
    (fun _ _ _ _ h rooted => rooted.makeDirectory h) fs rooted

end IsRooted

/-- There are no links, and nothing but directories and files. All that is there is in a directory,
and the workplace is one. -/
structure IsTree (fs : FileSystem) : Prop where
  plain : fs.Plain
  parent : ∀ name l e, fs.get? (name :: l) = some e → fs.get? l = some .directory
  workplace : fs.get? fs.workplace = some .directory

namespace IsTree

variable {fs next : FileSystem} {p : Path}

theorem rooted (tree : fs.IsTree) : fs.IsRooted := ⟨tree.parent, tree.workplace⟩

theorem of_rooted (hPlain : fs.Plain) (rooted : fs.IsRooted) : fs.IsTree :=
  ⟨hPlain, rooted.parent, rooted.workplace⟩

theorem of_entries (hPlain : ∀ entry ∈ fs.entries, entry.2 ≠ .sink)
    (hParent : ∀ entry ∈ fs.entries, fs.get? entry.1.tail = some .directory)
    (hWorkplace : fs.get? fs.workplace = some .directory) : fs.IsTree :=
  of_rooted (plain_of_entries hPlain) (.of_entries hParent hWorkplace)

theorem makePath (tree : fs.IsTree) (ps : List Path) : (fs.makePath ps).2.IsTree :=
  of_rooted ((grows_makePath fs ps).plain tree.plain) (tree.rooted.makePath ps)

theorem writeText {text : String} (tree : fs.IsTree) (h : fs.writeText p text = .ok next) :
    next.IsTree := by
  have grows := (writeText_eq_ok (tree.plain _) (fun _ => False) h).2
  obtain ⟨parent, name, names, -, hDirectory, rfl⟩ := put_of_writeText (tree.plain _) h
  exact of_rooted (grows.plain tree.plain)
    (tree.rooted.put names.directory grows.keepsDirectories)

end IsTree

end KernelGen.FileSystem
