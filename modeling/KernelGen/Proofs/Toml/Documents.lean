import KernelGen.Proofs.Toml.Collections

/-! Documents with one table or one value at the top. The table can have a header, or it is named
before every key, and the value can be anything that is assigned on one line. -/
namespace KernelGen.Toml

open Reader

variable {outer : String} {key : List Char}

/-- A document is put together from its lines. -/
theorem read?_of_takes {s : List Char} {R : List Line → Prop} (hFresh : Fresh s)
    (hMark : s.head? ≠ some '\ufeff') (h : (many Line.line).Takes s R []) :
    ∃ lines, R lines ∧ read? (String.ofList s) =
      (lines.foldlM Progress.add Progress.start).bind Progress.close := by
  obtain ⟨lines, hLines, hR⟩ := h
  obtain ⟨_, hBlanks, -⟩ := takes_no_blanks hFresh
  refine ⟨lines, hR, ?_⟩
  rw [read?, String.toList_ofList, if_neg hMark]
  change (blanks s).bind _ = _
  rw [hBlanks, Option.bind_some]
  change (many Line.line s).bind _ = _
  rw [hLines, Option.bind_some]
  rfl

/-- Pairs go to the open table one by one. -/
theorem foldlM_pairs (p : Progress) (pairs : List (List Key × Key × Item)) :
    (pairs.map fun q => Line.pair q.1 q.2.1 q.2.2).foldlM Progress.add p =
      (p.current.insertAll .key pairs).map fun t => { p with current := t } := by
  induction pairs generalizing p with
  | nil => rfl
  | cons q pairs ih =>
      rw [List.map_cons, List.foldlM_cons, Table.insertAll_cons]
      change ((p.current.insert .key q.1 q.2.1 q.2.2).bind fun t =>
        some { p with current := t }).bind _ = _
      cases p.current.insert .key q.1 q.2.1 q.2.2 with
      | none => rfl
      | some t =>
          rw [Option.bind_some, Option.bind_some, Option.bind_some]
          exact ih _

/-- A value under one key is all of the document. -/
theorem read?_assigned {v : List Char} {R : Item → Prop} (h : Names outer key)
    (hFresh : Fresh (v ++ ['\n'])) (hValue : value.Takes (v ++ ['\n']) R ['\n']) :
    ∃ k item, k.name = outer ∧ R item ∧
      read? (String.ofList (assigned key v ++ ['\n'])) = some ⟨.header, none, [(k, item)]⟩ := by
  have hLine := h.takes_assigned hFresh hValue (by simp [Fresh])
  have hStart : Starts (assigned key v ++ ['\n']) := by
    rw [assigned, List.append_assoc]
    exact h.starts _
  obtain ⟨c, more, hText, -⟩ := id hStart
  obtain ⟨lines, ⟨_, rfl, path, k, item, rfl, hNames, hItem⟩, hRead⟩ :=
    read?_of_takes hStart.fresh (fun hMark => hStart.ne (by decide) _ hMark rfl)
      (takes_many_one hLine (by simp [hText]) rfl)
  obtain ⟨rfl, hName⟩ := pathNames_eq_singleton hNames
  exact ⟨k, item, hName, hItem, hRead⟩

/-- A line as it is written begins with neither a blank nor a mark. -/
def Begins (s : List Char) : Prop :=
  ∃ c more, s = c :: more ∧ c ≠ ' ' ∧ c ≠ '\t' ∧ c ≠ '\ufeff'

theorem Starts.begins {s : List Char} (h : Starts s) : Begins s := by
  have hNe {d : Char} := h.ne (d := d)
  obtain ⟨c, more, rfl, -⟩ := h
  exact ⟨c, more, rfl, hNe (by decide) c rfl, hNe (by decide) c rfl, hNe (by decide) c rfl⟩

/-- Lines are read one by one, each of them as what it is. -/
theorem read?_of_lines {pieces : List (List Char × (Line → Prop))}
    (hTakes : ∀ g ∈ pieces, ∀ rest, Fresh rest → Line.line.Takes (g.1 ++ rest) g.2 rest)
    (hBegins : ∀ g ∈ pieces, Begins g.1) :
    ∃ lines, List.Forall₂ (fun g l => g.2 l) pieces lines ∧
      read? (String.ofList (pieces.flatMap Prod.fst)) =
        (lines.foldlM Progress.add Progress.start).bind Progress.close := by
  have hFresh : ∀ g ∈ pieces, ∀ rest, Fresh (g.1 ++ rest) := by
    intro g hg rest
    obtain ⟨c, more, hText, hSpace, hTab, -⟩ := hBegins g hg
    exact hText ▸ fresh_cons ⟨hSpace, hTab⟩ (more ++ rest)
  have hSome : ∀ g ∈ pieces, g.1 ≠ [] := by
    intro g hg
    obtain ⟨c, more, hText, -⟩ := hBegins g hg
    simp [hText]
  have hNil : Fresh [] := by simp [Fresh]
  have hEnd : Line.line [] = none := rfl
  have hMany := Takes.many hTakes hFresh hSome hNil hEnd
  rw [List.append_nil] at hMany
  refine read?_of_takes ?_ ?_ hMany
  · cases pieces with
    | nil => simp [Fresh]
    | cons g pieces => exact hFresh g (List.mem_cons_self ..) _
  · cases pieces with
    | nil => simp
    | cons g pieces =>
        obtain ⟨c, more, hText, -, -, hMark⟩ := hBegins g (List.mem_cons_self ..)
        simpa [hText] using hMark

/-- Lines with assignments are pairs. -/
theorem pairs_of_lines {N : Assignment → List String} {as : List Assignment}
    {lines : List Line} (h : List.Forall₂ (fun a l =>
      IsAssignment (N a) (fun item => item.value = .string a.string) l) as lines) :
    ∃ pairs : List (List Key × Key × Item),
      lines = pairs.map (fun q => Line.pair q.1 q.2.1 q.2.2) ∧
        List.Forall₂ (fun a q => pathNames (q.1, q.2.1) = N a ∧
          q.2.2.value = .string a.string) as pairs := by
  induction h with
  | nil => exact ⟨[], rfl, .nil⟩
  | cons hLine _ ih =>
      obtain ⟨path, k, item, rfl, hNames, hItem⟩ := hLine
      obtain ⟨pairs, rfl, hPairs⟩ := ih
      exact ⟨(path, k, item) :: pairs, rfl, .cons ⟨hNames, hItem⟩ hPairs⟩

theorem Assignment.takes_line (a : Assignment) {rest : List Char} (hRest : Fresh rest) :
    Line.line.Takes (a.line ++ ['\n'] ++ rest)
      (IsAssignment [a.name] fun item => item.value = .string a.string) rest := by
  have hQuote : Quoted.Unquoted ('\n' :: rest) := Quoted.unquoted_cons (by decide) rest
  have hValue := takes_valueWithin a.spells hQuote maxNesting
  have hLine := a.names.takes_assigned (a.spells.fresh _) hValue hRest
  rwa [List.append_assoc]

theorem Assignment.begins (a : Assignment) : Begins (a.line ++ ['\n']) := by
  rw [line, assigned, List.append_assoc]
  exact (a.names.starts _).begins

/-- Assignments below a header make a table with that name. -/
theorem read?_header (h : Names outer key) {as : List Assignment}
    (names : (as.map (·.name)).Nodup) :
    ∃ k span entries, k.name = outer ∧ List.Forall₂ Assignment.Gives as entries ∧
      read? (String.ofList ('[' :: (key ++ ']' :: '\n' :: as.flatMap fun a => a.line ++ ['\n']))) =
        some ⟨.header, none, [(k, .table ⟨.header, some span, entries⟩)]⟩ := by
  let pieces : List (List Char × (Line → Prop)) :=
    ('[' :: (key ++ [']', '\n']), fun l => ∃ path k span,
      l = .header path k span ∧ pathNames (path, k) = [outer]) ::
    as.map fun a => (a.line ++ ['\n'],
      IsAssignment [a.name] fun item => item.value = .string a.string)
  have hText : pieces.flatMap Prod.fst =
      '[' :: (key ++ ']' :: '\n' :: as.flatMap fun a => a.line ++ ['\n']) := by
    simp [pieces, List.flatMap_map]
  have hTakes : ∀ g ∈ pieces, ∀ rest, Fresh rest → Line.line.Takes (g.1 ++ rest) g.2 rest := by
    refine List.forall_mem_cons.mpr ⟨fun rest hRest => ?_, List.forall_mem_map.mpr fun a _ rest =>
      a.takes_line⟩
    have hStops : Stops (']' :: '\n' :: rest) := ⟨_, _, rfl, Or.inr (Or.inl rfl)⟩
    have hKeys := h.takes_keyPath onlyBlanks_nil onlyBlanks_nil hStops (by simp)
    rw [List.nil_append, List.nil_append] at hKeys
    simpa using takes_header hKeys (h.starts _) hRest
  have hBegins : ∀ g ∈ pieces, Begins g.1 :=
    List.forall_mem_cons.mpr ⟨⟨'[', _, rfl, by decide⟩, List.forall_mem_map.mpr fun a _ => a.begins⟩
  obtain ⟨_, hLines, hRead⟩ := read?_of_lines hTakes hBegins
  rw [hText] at hRead
  obtain ⟨_, _, ⟨path, k, span, rfl, hNames⟩, hRest, rfl⟩ := List.forall₂_cons_left_iff.mp hLines
  obtain ⟨rfl, hName⟩ := pathNames_eq_singleton hNames
  rw [List.forall₂_map_left_iff] at hRest
  obtain ⟨pairs, rfl, hPairs⟩ := pairs_of_lines (N := fun a => [a.name]) hRest
  obtain ⟨hPaths, hGives⟩ := Assignment.of_isPair (hPairs.imp fun _ _ hPair =>
    ⟨(pathNames_eq_singleton hPair.1).1, (pathNames_eq_singleton hPair.1).2, hPair.2⟩)
  have hAll : (Table.empty .header (some span)).insertAll .key pairs =
      some ⟨.header, some span, pairs.map (·.2)⟩ :=
    Table.insertAll_eq ⟨nofun, nofun⟩ hPaths
      (by simpa [Assignment.names_of_gives hGives] using names)
  refine ⟨k, span, pairs.map (·.2), hName, hGives, ?_⟩
  rw [hRead, List.foldlM_cons]
  change ((pairs.map fun q => Line.pair q.1 q.2.1 q.2.2).foldlM Progress.add
    ⟨.empty .header none, .empty .header (some span), some ([], k, false)⟩).bind _ = _
  rw [foldlM_pairs, hAll]
  rfl

theorem pathNames_eq_pair {keys : List Key × Key} {name : String}
    (h : pathNames keys = [outer, name]) :
    (∃ k, keys.1 = [k] ∧ k.name = outer) ∧ keys.2.name = name := by
  obtain ⟨path, k⟩ := keys
  obtain _ | ⟨first, _ | ⟨second, path⟩⟩ := path <;> simp_all [pathNames]

/-- A table that keys with a point have made is where further ones go. -/
theorem Table.insert_dotted {first k name : Key} {entries : List (Key × Item)}
    (hk : k.name = first.name) (hName : name.name ∉ entries.map (·.1.name)) (item : Item) :
    Table.insert .key [k] name item ⟨.header, none, [(first, .table ⟨.dotted, none, entries⟩)]⟩ =
      some ⟨.header, none, [(first, .table ⟨.dotted, none, entries ++ [(name, item)]⟩)]⟩ := by
  have hGet : Table.get? ⟨.header, none, [(first, .table ⟨.dotted, none, entries⟩)]⟩ k.name =
      some (.table ⟨.dotted, none, entries⟩) := by simp [get?_eq, Table.entries, hk]
  have hNone : Table.get? ⟨.dotted, none, entries⟩ name.name = none := get?_eq_none.mpr hName
  have hAdd : insert.add [k] name item ⟨.dotted, none, entries⟩ =
      some ((), ⟨.dotted, none, entries ++ [(name, item)]⟩) := by
    rw [insert.add, hNone]
    rfl
  have hSet : Table.set ⟨.header, none, [(first, .table ⟨.dotted, none, entries⟩)]⟩ k.name
      (.table ⟨.dotted, none, entries ++ [(name, item)]⟩) =
        ⟨.header, none, [(first, .table ⟨.dotted, none, entries ++ [(name, item)]⟩)]⟩ := by
    simp [set, Table.form, Table.span, Table.entries, hk]
  have hEnters : PathUse.key.enters (Table.form ⟨.dotted, none, entries⟩) = true := rfl
  rw [insert, descend, hGet]
  dsimp only
  rw [if_pos hEnters, descend, hAdd]
  exact congrArg some hSet

theorem Table.insertAll_dotted {first : Key} {entries : List (Key × Item)}
    {pairs : List (List Key × Key × Item)}
    (hPaths : ∀ p ∈ pairs, ∃ k, p.1 = [k] ∧ k.name = first.name)
    (names : ((entries ++ pairs.map (·.2)).map (·.1.name)).Nodup) :
    Table.insertAll .key pairs ⟨.header, none, [(first, .table ⟨.dotted, none, entries⟩)]⟩ =
      some ⟨.header, none, [(first, .table ⟨.dotted, none, entries ++ pairs.map (·.2)⟩)]⟩ := by
  induction pairs generalizing entries with
  | nil => simp [insertAll]
  | cons p pairs ih =>
      obtain ⟨⟨k, hPath, hk⟩, hPaths⟩ := List.forall_mem_cons.mp hPaths
      have hName := not_mem_names names
      have hAppend : entries ++ (p :: pairs).map (·.2) =
          (entries ++ [(p.2.1, p.2.2)]) ++ pairs.map (·.2) := by simp
      rw [hAppend] at names ⊢
      rw [insertAll_cons, hPath, insert_dotted hk hName, Option.bind_some]
      exact ih hPaths names

/-- Assignments with a name before every key make a table with that name. -/
theorem read?_dotted (h : Names outer key) {as : List Assignment}
    (names : (as.map (·.name)).Nodup) :
    (as = [] ∧ read? (String.ofList (as.flatMap fun a => key ++ '.' :: (a.line ++ ['\n']))) =
      some (.empty .header none)) ∨
    ∃ k entries, k.name = outer ∧ List.Forall₂ Assignment.Gives as entries ∧
      read? (String.ofList (as.flatMap fun a => key ++ '.' :: (a.line ++ ['\n']))) =
        some ⟨.header, none, [(k, .table ⟨.dotted, none, entries⟩)]⟩ := by
  let pieces : List (List Char × (Line → Prop)) := as.map fun a =>
    (key ++ '.' :: (a.line ++ ['\n']),
      IsAssignment [outer, a.name] fun item => item.value = .string a.string)
  have hText : pieces.flatMap Prod.fst = as.flatMap fun a => key ++ '.' :: (a.line ++ ['\n']) := by
    simp [pieces, List.flatMap_map]
  have hTakes : ∀ g ∈ pieces, ∀ rest, Fresh rest → Line.line.Takes (g.1 ++ rest) g.2 rest := by
    refine List.forall_mem_map.mpr fun a _ rest hRest => ?_
    have hQuote : Quoted.Unquoted ('\n' :: rest) := Quoted.unquoted_cons (by decide) rest
    have hValue := takes_valueWithin a.spells hQuote maxNesting
    simpa [Assignment.line] using
      h.takes_assigned_dot a.names (a.spells.fresh _) hValue hRest
  have hBegins : ∀ g ∈ pieces, Begins g.1 :=
    List.forall_mem_map.mpr fun a _ => (h.starts _).begins
  obtain ⟨_, hLines, hRead⟩ := read?_of_lines hTakes hBegins
  rw [hText] at hRead
  rw [List.forall₂_map_left_iff] at hLines
  obtain ⟨pairs, rfl, hPairs⟩ := pairs_of_lines (N := fun a => [outer, a.name]) hLines
  have hPaths : ∀ p ∈ pairs, ∃ k, p.1 = [k] ∧ k.name = outer :=
    forall_mem_of_forall₂ (fun _ _ hPair => (pathNames_eq_pair hPair.1).1) hPairs
  have hGives : List.Forall₂ Assignment.Gives as (pairs.map (·.2)) := by
    rw [List.forall₂_map_right_iff]
    exact hPairs.imp fun _ _ hPair => ⟨(pathNames_eq_pair hPair.1).2, hPair.2⟩
  rw [hRead, foldlM_pairs]
  cases pairs with
  | nil =>
      obtain rfl := List.forall₂_nil_right_iff.mp hPairs
      exact Or.inl ⟨rfl, rfl⟩
  | cons p pairs =>
      obtain ⟨⟨k, hPath, hk⟩, hPaths⟩ := List.forall_mem_cons.mp hPaths
      have hNames : ((([p.2] : List (Key × Item)) ++ pairs.map (·.2)).map (·.1.name)).Nodup := by
        simpa [← Assignment.names_of_gives hGives] using names
      have hSame : ∀ q ∈ pairs, ∃ k', q.1 = [k'] ∧ k'.name = k.name :=
        fun q hq => hk ▸ hPaths q hq
      have hAll := Table.insertAll_dotted hSame hNames
      refine Or.inr ⟨k, (p :: pairs).map (·.2), hk, hGives, ?_⟩
      rw [Table.insertAll_cons, hPath]
      change ((Table.insertAll .key pairs ⟨.header, none,
        [(k, .table ⟨.dotted, none, [p.2]⟩)]⟩).map _).bind _ = _
      rw [hAll]
      rfl

end KernelGen.Toml
