import KernelGen.Proofs.Generation.Linked
import KernelGen.Proofs.Generation.Overrides
import KernelGen.Proofs.Standard.Verbatim

/-! Texts that a run renders and puts into others. Where the standard templates take them up, they
are found again in the files as they were rendered: declarations in their headers, the comment at
the top of a source. -/
namespace KernelGen

open Template

/-- A declaration that is collected stands in the text for its header. -/
theorem Declarations.exists_gathered {declarations : List String} {declaration : String}
    (h : declaration ∈ declarations) :
    ∃ before behind, gathered declarations = before ++ declaration ++ behind := by
  obtain ⟨front, back, rfl⟩ := List.append_of_mem h
  refine ⟨gathered front, "\n" ++ String.join (back.map (· ++ "\n")), ?_⟩
  simp only [gathered, List.map_append, List.map_cons, String.join_append, String.join_cons,
    String.append_assoc]

/-- What a run that succeeds has put into the files whose templates nothing replaces. -/
structure Config.Embeds (config : Config) (fs : FileSystem) (library : Library) : Prop where
  declaration : ∀ v, v.isAccepted →
    Templates.replacement? fs config.templates (Group.ofKind v.kind).form = none →
    ∃ declaration before behind, library.declaration (.of v) = .ok declaration ∧
      (generate config fs).files.readText
        ((Output.ofGroup (Group.ofKind v.kind)).path config.root) =
          .ok (before ++ declaration ++ behind)
  header : ∀ v, v.isAccepted → v.kind.takesHeader →
    Templates.replacement? fs config.templates (.body v.kind) = none →
    ∃ header own, library.header (.of v) = .ok header ∧ library.body (.of v) "" = .ok own ∧
      (generate config fs).files.readText ((Output.ofVariant v).path config.root) =
        .ok (header ++ own)

theorem Config.Rendered.embeds {config : Config} {fs : FileSystem} {library : Library}
    {log : List Log.Record} (rendered : config.Rendered library (generate config fs).files)
    (hLoad : Templates.load fs config.templates = (.ok library, log)) :
    config.Embeds fs library := by
  constructor
  · intro v hAccepted hNone
    obtain ⟨declared, text, declares, hText, hRead⟩ := rendered.header (Group.ofKind v.kind)
    obtain ⟨before, behind, hAggregate⟩ :=
      Library.aggregate_verbatim _ (Templates.keeps_of_load hLoad hNone)
    have hMem : declared v ∈ (Group.ofKind v.kind).members.map declared := by
      refine List.mem_map_of_mem (List.mem_filter.mpr ⟨mem_planned.mpr hAccepted, ?_⟩)
      simp
    obtain ⟨front, back, hGathered⟩ := Declarations.exists_gathered hMem
    rw [hAggregate, hGathered] at hText
    obtain rfl := Except.ok.inj hText
    refine ⟨declared v, before ++ front, back ++ behind, declares v hAccepted, ?_⟩
    rw [hRead]
    simp only [String.append_assoc]
  · intro v hAccepted hTakes hNone
    obtain ⟨header, text, hHeader, hText, hRead⟩ := rendered.source v hAccepted
    obtain ⟨own, hOwn, hBody⟩ := Library.body_verbatim (.of v)
      (Templates.keeps_of_load hLoad hNone) (Descriptor.isSome_links v)
    have hKind : (Descriptor.of v).kind.takesHeader := hTakes
    rw [hBody, if_pos hKind] at hText
    obtain rfl := Except.ok.inj hText
    exact ⟨header, own, hHeader, hOwn, hRead⟩

/-- The standard templates put texts in as they are, whatever characters these have. The source of
a convolution or a reordering is the header followed by what it is without one; the others do not
have the header at all. Around the declarations a header has two fixed texts. So a run that succeeds
leaves each declaration in a header and each comment at the top of such a source. -/
theorem embedded_verbatim :
    (∀ d : Descriptor, (d.kind = .convolve → d.links?.isSome) →
      ∃ own, Library.standard.body d "" = .ok own ∧
        (d.kind = .convolve ∨ d.kind = .convertReorder →
          ∀ header, Library.standard.body d header = .ok (header ++ own)) ∧
        (d.kind = .depthwise ∨ d.kind = .matMul →
          ∀ header, Library.standard.body d header = .ok own)) ∧
      (∃ before behind, ∀ api,
        Library.standard.publicApi api = .ok (before ++ api ++ behind)) ∧
      (∃ before behind, ∀ api,
        Library.standard.supportApi api = .ok (before ++ api ++ behind)) ∧
      ∀ (config : Config) (fs : FileSystem) (report : Report), fs.Retains config.root →
        config.dryRun = false → (generate config fs).result = .ok report →
        ∃ library, (Templates.load fs config.templates).1 = .ok library ∧
          config.Embeds fs library := by
  refine ⟨fun d hLinks => ?_, Library.aggregate_verbatim .general (Library.keeps_standard _),
    Library.aggregate_verbatim .support (Library.keeps_standard _), ?_⟩
  · obtain ⟨own, hOwn, hBody⟩ := Library.body_verbatim d (Library.keeps_standard _) hLinks
    refine ⟨own, hOwn, fun hKind header => ?_, fun hKind header => ?_⟩
    · have hTakes : d.kind.takesHeader := by
        rcases hKind with hKind | hKind <;> rw [hKind] <;> rfl
      rw [hBody, if_pos hTakes]
    · have hOther : ¬d.kind.takesHeader := by
        rcases hKind with hKind | hKind <;> rw [hKind] <;> decide
      rw [hBody, if_neg hOther, String.empty_append]
  · intro config fs report retains hReal hOk
    obtain ⟨library, log, tally, hLoad, -⟩ := delivered_of_ok retains hReal hOk
    have rendered := Config.rendered_of_ok retains hReal hOk hLoad
    exact ⟨library, congrArg Prod.fst hLoad, rendered.embeds hLoad⟩

/-- A header that looks like a part of a template, and a run with the standard templates. -/
theorem embedded_verbatim_blank :
    (∃ own, Library.standard.body (.of (.convertReorder .u4))
        "\x7b\x7b config.kind \x7d\x7d <&>\n" =
      .ok ("\x7b\x7b config.kind \x7d\x7d <&>\n" ++ own)) ∧
      ∃ report library, (generate ⟨⟨""⟩, none, false⟩ FileSystem.blank).result = .ok report ∧
        (Templates.load FileSystem.blank none).1 = .ok library ∧
        Config.Embeds ⟨⟨""⟩, none, false⟩ FileSystem.blank library := by
  obtain ⟨hBody, -, -, hRun⟩ := embedded_verbatim
  have retains : FileSystem.blank.Retains (Config.mk ⟨""⟩ none false).root :=
    FileSystem.ready_blank.retains
  obtain ⟨report, hOk⟩ := generate_blank false
  obtain ⟨own, -, hTakes, -⟩ := hBody (.of (.convertReorder .u4)) (by decide)
  obtain ⟨library, hLoad, embeds⟩ := hRun _ _ report retains rfl hOk
  exact ⟨⟨own, hTakes (.inr rfl) _⟩, report, library, hOk, hLoad, embeds⟩

end KernelGen
