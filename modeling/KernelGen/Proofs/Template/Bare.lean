import KernelGen.Proofs.Text.Reader
import KernelGen.Template.Nesting

/-! Texts without an opening brace. All that is not text starts with one, so such a text is read
as a template that holds nothing but itself. -/
namespace KernelGen.Template

open Reader

variable {s : List Char}

namespace Piece

theorem literal_eq_none_of_not_mem {text : String} {c : Char} (hText : text.toList.head? = some c)
    (h : c ∉ s) : literal text s = none := by
  cases s with
  | nil =>
      obtain ⟨more, hMore⟩ := List.head?_eq_some_iff.mp hText
      rw [literal, hMore]
      rfl
  | cons d rest => exact literal_eq_none hText (fun hEq => h (hEq ▸ List.mem_cons_self ..)) rest

theorem mark_eq_none {plain dashed : String} {c : Char} (hPlain : plain.toList.head? = some c)
    (hDashed : dashed.toList.head? = some c) (h : c ∉ s) : mark plain dashed s = none := by
  refine orElse_eq_none ?_ ?_
  · rw [seqRight_eq_bind]
    exact bind_eq_none (literal_eq_none_of_not_mem hDashed h)
  · rw [seqRight_eq_bind]
    exact bind_eq_none (literal_eq_none_of_not_mem hPlain h)

theorem openTag_eq_none (h : '\x7b' ∉ s) : openTag s = none := mark_eq_none rfl rfl h

theorem commentPiece_eq_none (h : '\x7b' ∉ s) : commentPiece s = none :=
  bind_eq_none (mark_eq_none rfl rfl h)

/-- What starts with a tag after any spaces is not there. -/
theorem after_spaces_eq_none {α : Type} {next : Bool → Reader α} (h : '\x7b' ∉ s) :
    (do spaces; next (← openTag)) s = none := by
  have hRest : '\x7b' ∉ s.dropWhile isSpace := fun hMem =>
    h ((List.dropWhile_suffix isSpace).subset hMem)
  rw [bind_apply]
  exact bind_eq_none (openTag_eq_none hRest)

theorem takes_head (h : '\x7b' ∉ s) : head.Takes s (· = ⟨none, [], false⟩) s := by
  have hExtension : extension s = none := after_spaces_eq_none h
  have hImport : importTag s = none := after_spaces_eq_none h
  refine (takes_many_nil (commentPiece_eq_none h)).bind fun _ _ => ?_
  refine (takes_maybe_none hExtension).bind ?_
  rintro _ rfl
  refine (takes_many_nil hImport).bind ?_
  rintro _ rfl
  exact ⟨_, rfl, rfl⟩

theorem textRun_eq (h : '\x7b' ∉ s) (passed : List Char) :
    textRun passed s = (passed.reverse ++ s, []) := by
  induction s generalizing passed with
  | nil => rw [textRun, List.append_nil]
  | cons c s ih =>
      rw [List.mem_cons, not_or] at h
      have hStarts : startsPiece (c :: s) = false := by
        unfold startsPiece
        split
        · rename_i hEq
          exact absurd (List.cons.inj hEq).1.symm h.1
        · rfl
      rw [textRun, hStarts, ih h.2, List.reverse_cons, List.append_assoc]
      rfl

theorem takes_piece (h : '\x7b' ∉ s) (hSome : s ≠ []) :
    piece.Takes s (· = .text (String.ofList s)) [] := by
  have hText : textPiece.Takes s (· = .text (String.ofList s)) [] := by
    refine ⟨_, ?_, rfl⟩
    rw [textPiece, textRun_eq h]
    cases s with
    | nil => exact absurd rfl hSome
    | cons c s => rfl
  exact hText.first _

end Piece

/-- A text without an opening brace is a template of that text. -/
theorem read?_of_bare {source : String} (hSome : source ≠ "") (h : '\x7b' ∉ source.toList)
    (name : String) : read? name source = some (.ofBody name [.text source]) := by
  have hList : source.toList ≠ [] := mt String.toList_eq_nil_iff.mp hSome
  obtain ⟨_, hHead, rfl⟩ := Piece.takes_head h
  obtain ⟨_, hPieces, _, rfl, rfl⟩ := takes_many_one (Piece.takes_piece h hList) hList rfl
  rw [String.ofList_toList] at hPieces
  have hNesting : [Piece.text source].foldlM Nesting.piece (Nesting.start false) =
      some ⟨[⟨.root, [.text source], true⟩], [], false⟩ := by
    simp [Nesting.piece, Nesting.text, Nesting.start, hSome]
  refine Option.bind_eq_some_iff.mpr ⟨_, hHead, Option.bind_eq_some_iff.mpr ⟨_, hPieces, ?_⟩⟩
  exact Option.bind_eq_some_iff.mpr ⟨(), rfl, Option.bind_eq_some_iff.mpr ⟨_, hNesting, rfl⟩⟩

end KernelGen.Template
