import KernelGen.Proofs.Files.Upward
import KernelGen.Proofs.Generation.Outputs

/-! The two headers of a library as paths of a tree. What stands at the location of a header is
found under its path, and no directory that is made for the library gets there, as long as the root
does not go up from a directory that is missing. -/
namespace KernelGen

open FileSystem

/-- New directories are on the way to the root, or they are below it and lead to a directory of the
library. -/
theorem Directory.passes_under {d : Directory} {root : Path} {workplace l : Location}
    (h : (d.under root).Passes workplace l) :
    root.Passes workplace l ∨
      ∃ names, names <+: d.way.reverse ∧ l = names.reverse ++ root.placeFrom workplace := by
  have hHead : d.relativePath.toList.head? ≠ some '/' := by cases d <;> decide
  have hDown : ∀ s ∈ d.way.reverse, Path.isIdle s = false ∧ isUp s = false := by
    cases d <;> decide
  obtain ⟨front, hFront, rfl⟩ := h
  rw [components_under] at hFront
  rw [under, Path.startFrom_join workplace root hHead]
  rcases List.prefix_or_prefix_of_prefix hFront (List.prefix_append ..) with
    hRoot | ⟨names, rfl⟩
  · exact Or.inl ⟨front, hRoot, rfl⟩
  · have hNames := (List.prefix_append_right_inj root.components).mp hFront
    refine Or.inr ⟨names, hNames, ?_⟩
    rw [List.foldl_append, Path.foldl_follow_of_down fun s hs => hDown s (hNames.subset hs)]
    rfl

namespace Output

variable {fs : FileSystem} {root : Path} {g : Group}

theorem place_ofGroup (fs : FileSystem) (root : Path) (g : Group) :
    fs.place ((ofGroup g).path root) = g.headerName :: "Include" :: fs.place root := by
  have hWay : Directory.headers.way = ["Include"] := by decide
  rw [place_path fs root (ofGroup_mem_outputs g), FileSystem.place, ofGroup,
    Directory.placeFrom_under, hWay]
  rfl

theorem names_ofGroup (rooted : fs.IsRooted) (straight : fs.Straight root)
    (hAdmits : admits ((ofGroup g).path root) = .ok ())
    (short : HasShortNames ((ofGroup g).path root))
    (hDirectory : fs.get? ("Include" :: fs.place root) = some .directory) :
    fs.Names ((ofGroup g).path root) ("Include" :: fs.place root) g.headerName false := by
  have isName : IsName "Include" :=
    ⟨by decide, by decide, by decide, by decide, by decide⟩
  by_cases hUp : root.GoesUp
  · have hRoot := straight hUp
    have hWalk := walk_name (walk_of_isDirectory hRoot) (isDirectory_iff.mp hRoot).2 isName
      (by rw [hDirectory]; rfl)
    exact names_of_walk hAdmits hWalk hDirectory (isName_headerName g)
  · have hPlace : fs.place (Directory.headers.under root) = "Include" :: fs.place root :=
      Directory.placeFrom_under ..
    rw [← hPlace] at hDirectory ⊢
    exact names_of_not_goesUp rooted hAdmits short (not_goesUp_join isName hUp)
      (isName_headerName g) hDirectory

/-- What stands at the location of a header is found under its path. -/
theorem stat_ofGroup (rooted : fs.IsRooted) (straight : fs.Straight root)
    (hAdmits : admits ((ofGroup g).path root) = .ok ())
    (short : HasShortNames ((ofGroup g).path root)) {e : Entry}
    (h : fs.get? (fs.place ((ofGroup g).path root)) = some e) :
    fs.stat ((ofGroup g).path root) = .ok e := by
  rw [place_ofGroup] at h
  have names := names_ofGroup rooted straight hAdmits short (rooted.parent _ _ _ h)
  exact names.stat (isName_headerName g).size h (Or.inl rfl)

/-- The location of a header is not on the way to a directory of the library, unless there is a
directory at it from the start. -/
theorem get?_of_passes_ofGroup (straight : fs.Straight root) {d : Directory}
    (h : (d.under root).Passes fs.workplace (fs.place ((ofGroup g).path root))) :
    fs.get? (fs.place ((ofGroup g).path root)) = some .directory := by
  rcases Directory.passes_under h with hRoot | ⟨names, hNames, hPlace⟩
  · by_cases hUp : root.GoesUp
    · exact get?_of_passes (straight hUp) hRoot
    · have hLength := (hRoot.suffix hUp).length_le
      rw [place_ofGroup, FileSystem.place, List.length_cons, List.length_cons] at hLength
      omega
  · rw [place_ofGroup] at hPlace
    have hReverse : [g.headerName, "Include"] = names.reverse := by
      refine List.append_cancel_right (?_ : _ ++ fs.place root = _ ++ fs.place root)
      exact hPlace
    have hEq : names = ["Include", g.headerName] := by
      rw [← List.reverse_reverse names, ← hReverse]
      rfl
    have hNot : ¬["Include", g.headerName] <+: d.way.reverse := by
      cases d <;> cases g <;> decide
    exact absurd (hEq ▸ hNames) hNot

end Output

end KernelGen
