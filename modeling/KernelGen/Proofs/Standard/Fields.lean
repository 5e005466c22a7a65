import KernelGen.Proofs.Template.Rendering
import KernelGen.Generation.Templates

/-! What a standard template sees of a kernel: the path of a field leads to what the view shows
for that field and to nothing else. -/
namespace KernelGen

open Template

namespace Json

variable {key k : String} {value : Json}

theorem field?_cons (fields : List (String × Json)) :
    field? key ((k, value) :: fields) = if key = k then some value else field? key fields := by
  rw [field?, List.lookup_cons]
  split <;> simp_all

/-- Adding a field changes what is found under its key and under no other one. -/
theorem field?_insertField (fields : List (String × Json)) :
    field? key (insertField k value fields) = if key = k then some value else field? key fields := by
  induction fields with
  | nil => rw [insertField, field?_cons]
  | cons entry fields ih =>
      rw [insertField]
      split
      · grind [field?_cons]
      · split
        · rw [field?_cons]
        · grind [field?_cons]

end Json

namespace Field

/-- How templates refer to a field. -/
def path (f : Field) : String := "config." ++ f.key

theorem isDirect_path (f : Field) : IsDirect f.path := by
  refine isDirect_of_chars ?_ ?_ <;> cases f <;> decide

theorem path_injective {f g : Field} (h : f.path = g.path) : f = g := by
  refine key_injective (String.toList_injective ?_)
  have hChars := congrArg String.toList h
  rwa [path, path, String.toList_append, String.toList_append, List.append_cancel_left_eq] at hChars

theorem splitPath_path (f : Field) : Value.splitPath f.path = ("config", some f.key) := by
  have hCut : Text.cut? ['.'] f.path.toList = some ("config".toList, f.key.toList) := by
    rw [path, String.toList_append]
    rfl
  rw [Value.splitPath, hCut]
  simp

end Field

namespace View

variable {v : View}

/-- A field is found among the fields of the view under its key. -/
theorem field?_ofFields (f : Field) (fields : List Field) (sorted : List (String × Json)) :
    Json.field? f.key
        ((fields.filterMap fun g => (v.get? g).map fun value => (g.key, value)).foldl
          (fun sorted (k, value) => Json.insertField k value sorted) sorted) =
      if f ∈ fields then (v.get? f).or (Json.field? f.key sorted)
      else Json.field? f.key sorted := by
  induction fields generalizing sorted with
  | nil => rfl
  | cons g fields ih =>
      cases hValue : v.get? g with
      | none => grind
      | some value =>
          simp only [List.filterMap_cons, hValue, Option.map_some, List.foldl_cons, ih,
            Json.field?_insertField]
          grind [Field.key_injective]

/-- The values that the variables of a template have. -/
def values (v : View) : String → Option Json := Value.lookup? v.context

@[simp] theorem values_path (f : Field) : v.values f.path = v.get? f := by
  have hKeys : Value.keys f.key = [f.key] := by cases f <;> decide
  have hChild : Text.replace (Text.replace f.key "~1" "/") "~0" "~" = f.key := by
    cases f <;> decide
  have hKey : f.key.isEmpty = false := by cases f <;> decide
  have hFields : Json.field? f.key (v.fields.foldl _ []) = _ := field?_ofFields f Field.all []
  rw [if_pos f.mem_all, fields] at hFields
  simp only [values, Value.lookup?, f.splitPath_path, context, Json.field?_cons, if_pos,
    Option.bind_some, Value.at?, hKey, hKeys, Bool.false_eq_true, if_false, List.foldlM_cons,
    Json.ofFields, Value.child?, hChild, View.fields, hFields]
  cases v.get? f <;> rfl

theorem fill_path (v : View) (f : Field) :
    (Fragment.value f.path).fill v.values = ((v.get? f).map Value.text).getD "" := by
  rw [Fragment.fill, values_path]

/-- The fields that every view has something for. -/
theorem get?_isSome (f : Field) (h : v.descriptor.links?.isSome ∨
    f ∉ [.reorderFunction, .matMulFunction, .inputMultiple, .outputMultiple]) :
    (v.get? f).isSome := by
  cases f <;> simp_all [get?]

/-- What conditions ask for depends on the variant only. -/
theorem get?_congr {w : View} (h : v.descriptor.variant = w.descriptor.variant) (f : Field)
    (hf : f ∈ [.kind, .input, .output, .weights, .quantization, .folding]) :
    v.get? f = w.get? f := by
  cases f <;>
    simp_all [get?, get?.scheme, Descriptor.kind, Descriptor.dataTypes]

/-- A quantized kernel shows its scheme. -/
theorem get?_scheme {s : Scheme} (h : v.descriptor.variant.scheme? = some s) :
    v.get? .quantization = some (.str s.quantization.tag) ∧
      v.get? .folding = some (.str s.folding.tag) := by
  refine ⟨?_, ?_⟩ <;> rw [get?, get?.scheme, h] <;> rfl

variable {f : Field} {tag text : String}

/-- A condition on a field compares the text that the view shows. -/
theorem decides_is (h : v.get? f = some (.str text)) :
    (Standard.is f tag).decides v.values = (text == tag) := by
  have hValue : v.values ("config." ++ f.key) = some (.str text) := (v.values_path f).trans h
  simp only [Standard.is, Standard.field, Expr.of, Expr.decides, hValue, Option.any_some]
  exact beq_true (text == tag)

end View

end KernelGen
