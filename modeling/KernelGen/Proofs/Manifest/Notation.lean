import KernelGen.Proofs.Manifest.Acceptance
import KernelGen.Proofs.Toml.Documents

/-! The notations of a manifest. A section can have a header of its own, it can be named before
every key, or it stands between braces; the two paths can also be listed between brackets. All of
that is read as the same section, whatever the order is and however keys and strings are quoted. -/
namespace KernelGen.Manifest

open Toml Reader

/-- What is assigned in a section, in some order. -/
structure Settings where
  all : List Assignment
  names : (all.map (·.name)).Nodup
  known : ∀ a ∈ all, a.name = "root" ∨ a.name = "templates"

namespace Settings

def toSection (s : Settings) : Section :=
  ⟨Assignment.at? s.all "root", Assignment.at? s.all "templates"⟩

/-- All that a section can hold can be assigned. -/
theorem exists_toSection (s : Section) : ∃ settings : Settings, settings.toSection = s := by
  obtain ⟨root, templates⟩ := s
  choose text hText using Quoted.exists_spells
  let assign (name value : String) : Assignment :=
    ⟨name, value, text name, text value, .quoted (hText name), hText value⟩
  let all := (root.map (assign "root")).toList ++ (templates.map (assign "templates")).toList
  refine ⟨⟨all, ?_, ?_⟩, ?_⟩
  · cases root <;> cases templates <;> simp [all, assign]
  · cases root <;> cases templates <;> simp [all, assign]
  · cases root <;> cases templates <;> simp [all, assign, toSection, Assignment.at?]

end Settings

/-- How a manifest with a section can be written. -/
inductive Writes : Section → List Char → Prop where
  | header {generator : List Char} (h : Names "generator" generator) (settings : Settings) :
      Writes settings.toSection
        ('[' :: (generator ++ ']' :: '\n' :: settings.all.flatMap fun a => a.line ++ ['\n']))
  | dotted {generator : List Char} (h : Names "generator" generator) (settings : Settings) :
      Writes settings.toSection
        (settings.all.flatMap fun a => generator ++ '.' :: (a.line ++ ['\n']))
  | braces {generator : List Char} (h : Names "generator" generator) (settings : Settings) :
      Writes settings.toSection (assigned generator (braces settings.all) ++ ['\n'])
  | brackets {generator first second : List Char} {root templates : String}
      (h : Names "generator" generator) (hRoot : Quoted.Spells root first)
      (hTemplates : Quoted.Spells templates second) :
      Writes ⟨some root, some templates⟩ (assigned generator (brackets first second) ++ ['\n'])

/-- Every section can be written. -/
theorem exists_writes (s : Section) : ∃ text, Writes s text := by
  obtain ⟨settings, rfl⟩ := Settings.exists_toSection s
  obtain ⟨generator, hGenerator⟩ := Quoted.exists_spells "generator"
  exact ⟨_, .header (.quoted hGenerator) settings⟩

/-- A section tells what is assigned in it. -/
theorem Settings.describes (settings : Settings) {form : TableForm} {span : Option Span}
    {entries : List (Key × Item)} (h : List.Forall₂ Assignment.Gives settings.all entries) :
    Describes (Item.table ⟨form, span, entries⟩).value settings.toSection := by
  have hLookup := Assignment.lookup_of_gives h
  refine ⟨?_, hLookup "root", hLookup "templates"⟩
  rw [Table.forall_lookup, ← List.forall_mem_map (f := fun e : Key × Item => e.1.name)
    (P := fun name => name = "root" ∨ name = "templates"), Assignment.names_of_gives h]
  simpa using settings.known

theorem tells_of_describes {key : Key} {item : Item} {s : Section} {form : TableForm}
    {span : Option Span} (hKey : key.name = "generator") (h : Describes item.value s) :
    Tells (Table.value ⟨form, span, [(key, item)]⟩) s := by
  rw [Table.value_eq, Tells, Table.forall_lookup]
  refine ⟨by simpa [Table.entries] using hKey, ?_⟩
  rw [Table.entries, Table.lookup_of_eq hKey]
  exact h

/-- However a section is written, it is read. -/
theorem parse_of_writes {s : Section} {text : List Char} (h : Writes s text) :
    parse (String.ofList text) = .ok s := by
  cases h with
  | header h settings =>
      obtain ⟨k, span, entries, hName, hGives, hRead⟩ := read?_header h settings.names
      exact (parse_eq_ok hRead).mpr (tells_of_describes hName (settings.describes hGives))
  | dotted h settings =>
      rcases read?_dotted h settings.names with ⟨hNil, hRead⟩ | ⟨k, entries, hName, hGives, hRead⟩
      · refine (parse_eq_ok hRead).mpr ⟨by simp [Table.lookup], ?_⟩
        simp [Settings.toSection, hNil, Assignment.at?, Section.empty, Table.lookup]
      · exact (parse_eq_ok hRead).mpr (tells_of_describes hName (settings.describes hGives))
  | braces h settings =>
      have hValue := takes_braces settings.names 78 ['\n']
      obtain ⟨k, item, hName, ⟨span, entries, rfl, hGives⟩, hRead⟩ :=
        read?_assigned h (fresh_braces settings.all _) hValue
      exact (parse_eq_ok hRead).mpr (tells_of_describes hName (settings.describes hGives))
  | @brackets _ _ _ root templates h hRoot hTemplates =>
      have hValue := takes_brackets hRoot hTemplates 78 ['\n']
      obtain ⟨k, item, hName, hItem, hRead⟩ :=
        read?_assigned h (fresh_cons (by decide) _) hValue
      refine (parse_eq_ok hRead).mpr (tells_of_describes hName ?_)
      rw [hItem]
      exact ⟨root, templates, [], rfl, rfl⟩

/-- What becomes of a text as a manifest. -/
structure Accepted (source : String) : Prop where
  malformed : read? source = none → ∃ reason, parse source = .error (.manifest reason)
  /-- Names are given once, so that there is one value for each of them. -/
  distinct : ∀ t, read? source = some t → t.Distinct
  tells : ∀ t, read? source = some t → ∀ s, parse source = .ok s ↔ Tells t.value s
  fails : ∀ t, read? source = some t → (∀ s, ¬Tells t.value s) →
    ∃ reason, parse source = .error (.manifest reason)
  /-- Two documents that mean the same come to the same. -/
  alike : ∀ other t t', read? source = some t → read? other = some t' → t.value = t'.value →
    ∀ s, parse source = .ok s ↔ parse other = .ok s
  written : ∀ s, Writes s source.toList → parse source = .ok s

theorem manifest_accepted (source : String) : Accepted source := by
  refine ⟨fun hNone => ?_, fun t h => distinct_of_read h, fun t h s => parse_eq_ok h,
    fun t h hTells => ?_, fun other t t' h h' hValue s => ?_, fun s h => ?_⟩
  · exact ⟨_, by rw [parse, hNone]⟩
  · cases hParse : parse source with
    | ok s => exact absurd ((parse_eq_ok h).mp hParse) (hTells s)
    | error e =>
        obtain ⟨reason, rfl⟩ := parse_eq_error hParse
        exact ⟨reason, rfl⟩
  · rw [parse_eq_ok h, parse_eq_ok h', hValue]
  · rw [← parse_of_writes h, String.ofList_toList]

end KernelGen.Manifest
