import KernelGen.Proofs.Generation.Delivered
import KernelGen.Proofs.Generation.Loading
import KernelGen.Proofs.Generation.Standard
import KernelGen.Proofs.Standard.Calls

/-! The helpers of the convolutions that a run generates. The run generates them too, under the
names by which they are called, and declares each of them once. -/
namespace KernelGen

open Template

namespace Helper

/-- Where the source of a helper is. -/
def directory : Helper → Directory
  | .matMul => .convolution
  | .reordering => .support

/-- Which header declares a helper. -/
def group : Helper → Group
  | .matMul => .general
  | .reordering => .support

variable {s : ConvShape}

theorem directory_eq (h : Helper) : Directory.ofKind (h.variant s).kind = h.directory := by
  cases h <;> rfl

theorem group_eq (h : Helper) : Group.ofKind (h.variant s).kind = h.group := by
  cases h <;> rfl

/-- A convolution that is generated has helpers that are generated. -/
theorem isAccepted (h : Helper) (hAccepted : (Variant.convolve s).isAccepted) :
    (h.variant s).isAccepted := by
  cases h with
  | matMul => exact hAccepted
  | reordering => rfl

/-- The file that defines what a convolution calls is the source of its helper. -/
theorem output_eq (h : Helper) :
    Output.ofVariant (h.variant s) = ⟨h.directory, (Links.of s).name h ++ ".c"⟩ := by
  rw [Output.ofVariant, directory_eq, Descriptor.fileName_of, Links.name_of]

end Helper

/-- A header declares each variant of its group that is generated once, and no others. -/
theorem Group.count_members (g : Group) {v : Variant} (hAccepted : v.isAccepted) :
    g.members.count v = if Group.ofKind v.kind = g then 1 else 0 := by
  have hOnce : planned.count v = 1 :=
    List.count_eq_one_of_mem nodup_planned (mem_planned.mpr hAccepted)
  rw [Group.members]
  split
  · rename_i hGroup
    rw [List.count_filter (by simpa using hGroup), hOnce]
  · rename_i hGroup
    refine List.count_eq_zero_of_not_mem fun hMem => hGroup ?_
    simpa using (List.mem_filter.mp hMem).2

/-- A successful run leaves the source of each variant that is generated, rendered in this run. -/
theorem Config.source_of_perform {config : Config} {fs : FileSystem} {library : Library}
    {log : List Log.Record} {p : Progress} {tally : Tally} {v : Variant}
    (retains : fs.Retains config.root) (hReal : config.dryRun = false) (hPerform : config.perform library fs log = (.ok (), p))
    (hEnding : (library.script config.root).ending = .ok tally) (hAccepted : v.isAccepted) :
    ∃ header text, library.header (.of v) = .ok header ∧
      library.body (.of v) header = .ok text ∧
      p.files.readText ((Output.ofVariant v).path config.root) = .ok text :=
  (Delivered.of_perform retains hReal hPerform hEnding).source hAccepted

/-- The source of a convolution from the standard template names all that it calls, whatever the
other templates are. -/
theorem Template.Library.name_infix_body {library : Library} {s : ConvShape} {header text : String}
    (keeps : library.Keeps .convolveBody)
    (hBody : library.body (.of (.convolve s)) header = .ok text) (h : Helper) :
    ((Links.of s).name h).toList <:+: text.toList := by
  let d := Descriptor.of (.convolve s)
  obtain ⟨own, asked, calls, -⟩ := exists_calls d (Links.of s) header rfl
  have hText := body_segments keeps (rfl : d.kind = .convolve) (Links.of s) header (Links.of s).name
  rw [Links.renamed_name] at hText
  obtain rfl := Except.ok.inj (hText.symm.trans hBody)
  exact Segment.name_infix_fillAll (calls.order ▸ mem_callOrder h)

/-- What a run that generates a convolution does for its helpers. -/
structure LinksResolve (config : Config) (fs : FileSystem) (library : Library) (api : Api)
    (declared : Variant → String) (s : ConvShape) : Prop where
  accepted : ∀ h : Helper, (h.variant s).isAccepted
  /-- The name of a helper is that of a file which holds the source of its kernel. -/
  sources : ∀ h : Helper, ∃ header text, library.header (.of (h.variant s)) = .ok header ∧
    library.body (.of (h.variant s)) header = .ok text ∧
    (generate config fs).files.readText
      ((h.directory.under config.root).join ((Links.of s).name h ++ ".c")) = .ok text
  declares : library.Declares declared
  /-- What is collected for a header are the declarations of the members of its group. -/
  collected : ∀ g : Group, api.part g = (g.members.map declared).foldl .push .empty
  /-- So a helper is declared once, in one of the headers. -/
  once : ∀ (h : Helper) (g : Group), g.members.count (h.variant s) = if h.group = g then 1 else 0
  /-- With the standard template for convolutions the source has the names of the helpers. -/
  named : Templates.replacement? fs config.templates .convolveBody = none → ∃ text,
    (generate config fs).files.readText
      ((Directory.convolution.under config.root).join
        ((Variant.convolve s).functionName ++ ".c")) = .ok text ∧
    ∀ h : Helper, ((Links.of s).name h).toList <:+: text.toList

/-- In a successful run what a convolution calls is generated and declared too, whatever templates
the run has and whatever was there before. -/
theorem links_resolve {config : Config} {fs : FileSystem} {report : Report} {s : ConvShape}
    (retains : fs.Retains config.root) (hReal : config.dryRun = false)
    (hOk : (generate config fs).result = .ok report) (hAccepted : (Variant.convolve s).isAccepted) :
    ∃ library tally declared, (Templates.load fs config.templates).1 = .ok library ∧
      (library.script config.root).ending = .ok tally ∧
      LinksResolve config fs library tally.api declared s := by
  obtain ⟨library, log, p, tally, hLoad, hPerform, hEnding, -, hFiles⟩ := generate_eq_ok hOk
  have hSource {v : Variant} (hv : v.isAccepted) :=
    Config.source_of_perform retains hReal hPerform hEnding hv
  obtain ⟨declared, declares, hApi⟩ :=
    Library.declares_of_collect (library.ending_script hEnding).2
  refine ⟨library, tally, declared, congrArg Prod.fst hLoad, hEnding,
    fun h => h.isAccepted hAccepted, fun h => ?_, declares, fun g => ?_, fun h g => ?_,
    fun hNone => ?_⟩
  · obtain ⟨header, text, hHeader, hBody, hText⟩ := hSource (h.isAccepted hAccepted)
    rw [h.output_eq] at hText
    exact ⟨header, text, hHeader, hBody, hFiles ▸ hText⟩
  · rw [hApi, Api.part_pushAll, Api.sharesOf_planned]
    cases g <;> rfl
  · rw [g.count_members (h.isAccepted hAccepted), h.group_eq]
  · obtain ⟨header, text, -, hBody, hText⟩ := hSource hAccepted
    exact ⟨text, hFiles ▸ hText,
      Library.name_infix_body (Templates.keeps_of_load hLoad hNone) hBody⟩

/-- A convolution whose source a run with the standard templates writes. -/
theorem links_resolve_standard :
    FileSystem.blank.Retains ⟨""⟩ ∧
      (Variant.convolve ⟨.u8, .u4, .u2, ⟨.pactChannel, .weights⟩⟩).isAccepted ∧
      Templates.replacement? FileSystem.blank none .convolveBody = none ∧
      ∃ report library tally declared,
        (generate ⟨⟨""⟩, none, false⟩ FileSystem.blank).result = .ok report ∧
        (Templates.load FileSystem.blank none).1 = .ok library ∧
        (library.script ⟨""⟩).ending = .ok tally ∧
        LinksResolve ⟨⟨""⟩, none, false⟩ FileSystem.blank library tally.api declared
          ⟨.u8, .u4, .u2, ⟨.pactChannel, .weights⟩⟩ := by
  have retains : FileSystem.blank.Retains (Config.mk ⟨""⟩ none false).root :=
    FileSystem.ready_blank.retains
  obtain ⟨report, hOk⟩ := generate_blank false
  obtain ⟨library, tally, declared, resolved⟩ := links_resolve retains rfl hOk
    (rfl : (Variant.convolve ⟨.u8, .u4, .u2, ⟨.pactChannel, .weights⟩⟩).isAccepted)
  exact ⟨retains, rfl, rfl, report, library, tally, declared, hOk, resolved⟩

end KernelGen
