import KernelGen.Output.Layout
import KernelGen.Output.Declarations
import KernelGen.Proofs.Files.Walk
import KernelGen.Proofs.Kernel.Names
import KernelGen.Proofs.Kernel.Plan

/-! The files of a generated library. Their names alone tell them apart, so that two of them are
never the same file, whatever the root is and however it is written. -/
namespace KernelGen

/-- The directories that something is generated into. -/
def Directory.filled : List Directory := [.convolution, .support, .headers]

theorem Directory.ofKind_mem_filled (k : Kind) : ofKind k ∈ filled := by cases k <;> decide

/-- A file of the library: one of its directories and a name in it. -/
structure Output where
  directory : Directory
  fileName : String
  deriving DecidableEq, Repr

/-- The name of the header that a group of declarations goes into. -/
def Group.headerName : Group → String
  | .general => publicHeader
  | .support => supportHeader

namespace Output

def path (root : Path) (o : Output) : Path := (o.directory.under root).join o.fileName

/-- The source of a kernel, whether it is generated or not. -/
def ofVariant (v : Variant) : Output := ⟨Directory.ofKind v.kind, (Descriptor.of v).fileName⟩

def ofGroup (g : Group) : Output := ⟨.headers, g.headerName⟩

end Output

/-- The files of the library in the order in which they are written. -/
def outputs : List Output :=
  planned.map Output.ofVariant ++ [Output.ofGroup .general, Output.ofGroup .support]

theorem isName_headerName (g : Group) : IsName g.headerName := by
  cases g <;> exact isName_of_plain (by decide) (by decide) (by decide)

/-- Headers do not have the extension of sources. -/
theorem fileName_ne_headerName (v : Variant) (g : Group) :
    (Descriptor.of v).fileName ≠ g.headerName := by
  intro h
  have hLast := congrArg (fun name : String => name.toList.getLast?) h
  have hHeader : g.headerName.toList.getLast? = some 'h' := by cases g <;> decide
  simp [Descriptor.fileName_of, String.toList_append, hHeader] at hLast

namespace Output

theorem isName_fileName {o : Output} (h : o ∈ outputs) : IsName o.fileName := by
  rw [outputs, List.mem_append, List.mem_map] at h
  rcases h with ⟨v, -, rfl⟩ | h
  · exact Descriptor.isName_fileName v
  · simp only [List.mem_cons, List.not_mem_nil, or_false] at h
    rcases h with rfl | rfl
    · exact isName_headerName .general
    · exact isName_headerName .support

theorem directory_mem_filled {o : Output} (h : o ∈ outputs) : o.directory ∈ Directory.filled := by
  rw [outputs, List.mem_append, List.mem_map] at h
  rcases h with ⟨v, -, rfl⟩ | h
  · exact Directory.ofKind_mem_filled v.kind
  · simp only [List.mem_cons, List.not_mem_nil, or_false] at h
    rcases h with rfl | rfl <;> decide

theorem ofVariant_injective {v w : Variant} (h : ofVariant v = ofVariant w) : v = w :=
  Descriptor.fileName_injective (congrArg fileName h)

theorem ofVariant_ne_ofGroup (v : Variant) (g : Group) : ofVariant v ≠ ofGroup g := fun h =>
  fileName_ne_headerName v g (congrArg fileName h)

theorem ofGroup_injective {g g' : Group} (h : ofGroup g = ofGroup g') : g = g' := by
  revert h
  cases g <;> cases g' <;> decide

theorem ofGroup_mem_outputs (g : Group) : ofGroup g ∈ outputs := by
  rw [outputs]
  cases g <;> simp

theorem ofVariant_mem_outputs {v : Variant} : ofVariant v ∈ outputs ↔ v.isAccepted := by
  rw [outputs, List.mem_append, List.mem_map, ← mem_planned]
  constructor
  · rintro (⟨w, hw, hEq⟩ | h)
    · exact ofVariant_injective hEq ▸ hw
    · simp [ofVariant_ne_ofGroup] at h
  · intro h
    exact Or.inl ⟨v, h, rfl⟩

end Output

/-- No two files of the library have one name, also in different directories. -/
theorem nodup_fileNames : (outputs.map Output.fileName).Nodup := by
  rw [outputs, List.map_append, List.map_map, List.nodup_append]
  refine ⟨nodup_planned.map fun v w h => Descriptor.fileName_injective h, by decide, ?_⟩
  intro name hName other hOther
  obtain ⟨v, -, rfl⟩ := List.mem_map.mp hName
  simp only [List.map_cons, List.map_nil, List.mem_cons, List.not_mem_nil, or_false] at hOther
  rcases hOther with rfl | rfl
  · exact fileName_ne_headerName v .general
  · exact fileName_ne_headerName v .support

theorem nodup_outputs : outputs.Nodup := nodup_fileNames.of_map _

namespace Directory

/-- The names on the way from the root of the library, the innermost first. -/
def way (d : Directory) : List String := (Path.segments ⟨d.relativePath⟩).reverse

theorem way_injective {d e : Directory} (h : d.way = e.way) : d = e := by
  revert h
  cases d <;> cases e <;> decide

theorem components_under (root : Path) (d : Directory) :
    (d.under root).components = root.components ++ d.way.reverse := by
  have hWay : (Path.segments ⟨d.relativePath⟩).filter (!Path.isIdle ·) = d.way.reverse := by
    cases d <;> decide
  have hHead : d.relativePath.toList.head? ≠ some '/' := by cases d <;> decide
  have hDot : (Path.segments ⟨d.relativePath⟩).head? ≠ some "." := by cases d <;> decide
  rw [under, Path.components_join root hHead hDot, hWay]

theorem placeFrom_under (workplace : Location) (root : Path) (d : Directory) :
    (d.under root).placeFrom workplace = d.way ++ root.placeFrom workplace := by
  have hHead : d.relativePath.toList.head? ≠ some '/' := by cases d <;> decide
  rw [under, Path.placeFrom_join workplace root hHead]
  cases d <;> rfl

end Directory

namespace Output

variable {o other : Output}

theorem eq_of_way (hWay : o.directory.way = other.directory.way)
    (hName : o.fileName = other.fileName) : o = other := by
  obtain ⟨d, name⟩ := o
  obtain ⟨e, name'⟩ := other
  rw [Output.mk.injEq]
  exact ⟨Directory.way_injective hWay, hName⟩

/-- Under a root, files with different directories or names have different paths, also when the
paths are only compared component by component. -/
theorem eq_of_same {root : Path} (normal : Path.IsNormal o.fileName)
    (normal' : Path.IsNormal other.fileName) (h : (o.path root).same (other.path root)) :
    o = other := by
  simp only [Path.same, path, normal.components_join, normal'.components_join,
    Directory.components_under, decide_eq_true_eq] at h
  obtain ⟨hDirectory, hName⟩ := List.append_inj' h rfl
  have hWay := List.reverse_injective (List.append_cancel_left hDirectory)
  exact eq_of_way hWay (List.singleton_inj.mp hName)

/-- They are at different locations, too. -/
theorem eq_of_place {fs : FileSystem} {root : Path} (normal : Path.IsNormal o.fileName)
    (normal' : Path.IsNormal other.fileName)
    (h : fs.place (o.path root) = fs.place (other.path root)) : o = other := by
  simp only [FileSystem.place, path, normal.placeFrom_join, normal'.placeFrom_join,
    Directory.placeFrom_under, List.cons.injEq] at h
  exact eq_of_way (List.append_cancel_right h.2) h.1

theorem isNormal_fileName (h : o ∈ outputs) : Path.IsNormal o.fileName :=
  (isName_fileName h).isNormal

theorem place_path (fs : FileSystem) (root : Path) (h : o ∈ outputs) :
    fs.place (o.path root) = o.fileName :: fs.place (o.directory.under root) :=
  (isNormal_fileName h).placeFrom_join _ _

end Output

end KernelGen
