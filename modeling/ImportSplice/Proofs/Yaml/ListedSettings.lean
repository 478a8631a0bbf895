import ImportSplice.Proofs.Yaml.Gathering
import ImportSplice.Settings.Fields

/-!
The document of a configuration that has been written.  Its groups are read as a mapping of
two names: a text that stands for the marker and a list of texts that stand for the
imports.  `read_encode` follows the whole way from the bytes to the entries.
-/

namespace ImportSplice.Yaml

/-- Whether a node is what a text comes back as. -/
def StandsFor (text : Bytes) (node : Node) : Prop :=
  ∃ scalar : Scalar, node = .scalar scalar ∧ scalar.text? = some (reading text)

variable {text : Bytes} {texts : List Bytes} {line : Nat} {column : Int} {value : Token}
  {lead : List Char} {tokens : List Token} {steps depth : Nat} {inFlow : Bool}

namespace Layout

variable (steps depth inFlow) in
theorem value_standsFor (isValue : IsValue text line column value) (isAscii : IsAscii text) :
    ∃ node, StandsFor text node ∧ ∀ rest,
      Layout.value steps (depth + 1) inFlow (.single value :: rest) = .ok (node, rest) := by
  cases isValue with
  | word known =>
      refine ⟨_, ⟨.bare text, rfl, known⟩, fun rest => ?_⟩
      simp [Layout.value, Group.isEntry, simple, tokenScalar, encoded_characters isAscii,
        Except.map]
  | quoted known =>
      refine ⟨_, ⟨.verbatim text, rfl, congrArg some known.symm⟩, fun rest => ?_⟩
      simp [Layout.value, Group.isEntry, simple, tokenScalar, encoded_characters isAscii,
        Except.map]

variable (steps depth inFlow) in
theorem items_standFor (found : List Node) {loop : Nat} (items : Items texts tokens)
    (isAscii : ∀ text ∈ texts, IsAscii text) (enough : texts.length ≤ loop) :
    ∃ nodes, List.Forall₂ StandsFor texts nodes ∧
      Layout.items (Layout.value steps (depth + 1)) inFlow 3 found loop (tokens.map .single) =
        .ok (.list (found.reverse ++ nodes), []) := by
  induction items generalizing found loop with
  | nil => exact ⟨[], .nil, by cases loop <;> simp [Layout.items]⟩
  | @cons text texts spelling line value tokens _ isValue _ inductionHypothesis =>
      rw [List.forall_mem_cons] at isAscii
      rw [List.length_cons] at enough
      obtain ⟨node, stands, read⟩ := value_standsFor steps depth inFlow isValue isAscii.1
      cases loop with
      | zero => omega
      | succ loop =>
          obtain ⟨nodes, more, rest⟩ :=
            inductionHypothesis (node :: found) isAscii.2 (Nat.le_of_succ_le_succ enough)
          refine ⟨node :: nodes, .cons stands more, ?_⟩
          have apart : value.column = 5 := by cases isValue <;> rfl
          have held : itemValue (Layout.value steps (depth + 1)) inFlow
              (.single { mark := .item, spelling, line, column := 3 })
              ((value :: tokens).map .single) = .ok (node, tokens.map .single) := by
            simp [itemValue, Group.column, Group.first, apart, read]
          rw [List.map_cons, Layout.items, held]
          simpa [Group.isSingle, Group.column, Group.first] using rest

variable (lead steps depth) in
theorem nameValue_listing (listing : Listing texts tokens)
    (isAscii : ∀ text ∈ texts, IsAscii text) (enough : tokens.length ≤ steps) :
    ∃ nodes, List.Forall₂ StandsFor texts nodes ∧
      nameValue (Layout.value steps (depth + 2)) false (importsGroup lead)
        (tokens.map .single) = .ok (.list nodes, []) := by
  cases listing with
  | brackets =>
      refine ⟨[], .nil, ?_⟩
      have positive : 0 < steps := Nat.lt_of_lt_of_le (by simp) enough
      obtain ⟨steps, rfl⟩ := Nat.exists_eq_add_one.mpr positive
      rfl
  | items nonempty items =>
      obtain ⟨nodes, stand, read⟩ := items_standFor steps depth false [] items isAscii
        (Nat.le_trans items.length_texts enough)
      refine ⟨nodes, stand, ?_⟩
      cases items with
      | nil => contradiction
      | cons later isValue more =>
          simpa [nameValue, Layout.value, simple, Group.isEntry, Group.column, Group.first,
            Group.isSingle, importsGroup, importsToken, nameToken] using read

theorem isBroken_name {name : List Char} (leads : Lexer.Lead lead)
    (word : ∀ c ∈ name, c.isLower = true) :
    isBroken false (nameToken name lead line) = false := by
  have inner : (trimEnd (fun c => c == ' ' || isBreak c)
      ((lead ++ name).dropWhile fun c => c == ' ' || isBreak c)).contains '\n' = false := by
    rw [List.dropWhile_append_of_pos]
    · rw [← Bool.not_eq_true, List.contains_iff_mem, trimEnd, List.mem_reverse]
      intro member
      have inside := List.dropWhile_suffix _ |>.mem
        (List.mem_reverse.mp (List.dropWhile_suffix _ |>.mem member))
      exact absurd (word _ inside) (by decide)
    · intro c member
      rcases leads c member with rfl | rfl <;> rfl
  simpa [isBroken, nameToken] using inner

theorem freshName_name {name : Bytes} {seen : List Bytes} {colon : Token}
    (leads : Lexer.Lead lead) (isAscii : IsAscii name)
    (letters : ∀ c ∈ name.map asciiChar, c.isLower = true) (unseen : name ∉ seen) :
    freshName false seen (.name (.single (nameToken (name.map asciiChar) lead line)) colon) =
      .ok (.scalar (.bare name)) := by
  have read : tokenScalar (nameToken (name.map asciiChar) lead line) =
      .ok (.scalar (.bare name)) := by
    simp [tokenScalar, nameToken, encoded_characters isAscii]
  simp [freshName, nameNode, scalar, Group.first, read, nameText, Scalar.written, unseen,
    isBroken_name leads letters]

theorem freshName_marker :
    freshName false [] markerGroup = .ok (.scalar (.bare Fields.markerName)) :=
  freshName_name (by simp [Lexer.Lead]) (by decide : IsAscii Fields.markerName)
    (List.all_eq_true.mp (by decide)) (by decide)

variable (lead) in
theorem entry_marker {reader : ValueReader} {node : Node} (rest : List Group)
    (held : reader false [.single value] = .ok (node, [])) :
    entry reader false [] (.pair markerGroup (.single value)) (importsGroup lead :: rest) =
      .ok ((.scalar (.bare Fields.markerName), node), importsGroup lead :: rest) := by
  have follows : followsPair false (Group.pair markerGroup (.single value)).column
      (importsGroup lead :: rest) = true := rfl
  simp only [entry, freshName_marker, held, follows, if_true]

/-- An entry whose name has not been joined with a value. -/
theorem entry_name {reader : ValueReader} {seen : List Bytes} {inner : Group} {colon : Token}
    {rest : List Group} {node : Node}
    (fresh : freshName false seen (.name inner colon) = .ok node)
    (noItem : ∀ next ∈ rest.head?, next.line = inner.line → next.isSingle .item = false) :
    entry reader false seen (.name inner colon) rest =
      (nameValue reader false (.name inner colon) rest).map fun (held, after) =>
        ((node, held), after) := by
  cases rest with
  | nil => simp [entry, fresh]
  | cons next more =>
      have differs :
          (next.line == (Group.name inner colon).line && next.isSingle .item) = false := by
        rw [Bool.and_eq_false_imp, beq_iff_eq]
        exact noItem next rfl
      simp [entry, fresh, differs]

theorem entry_imports {reader : ValueReader} {node : Node} (leads : Lexer.Lead lead)
    (listing : Listing texts tokens)
    (held : nameValue reader false (importsGroup lead) (tokens.map .single) = .ok (node, [])) :
    entry reader false [Fields.markerName] (importsGroup lead) (tokens.map .single) =
      .ok ((.scalar (.bare Fields.importsName), node), []) := by
  have name : freshName false [Fields.markerName] (importsGroup lead) =
      .ok (.scalar (.bare Fields.importsName)) :=
    freshName_name leads (by decide : IsAscii Fields.importsName)
      (List.all_eq_true.mp (by decide)) (by decide)
  have noItem : ∀ next ∈ (tokens.map Group.single).head?, next.line = 2 →
      next.isSingle .item = false := by
    obtain ⟨first, more, rfl, -, -, start⟩ := listing.starts
    rintro next same below
    cases same
    simp [Group.isSingle, start below]
  rw [importsGroup, entry_name name noItem]
  exact congrArg (Except.map _) held

theorem entries_cons {reader : ValueReader} {seen : List Bytes} {found : List (Node × Node)}
    {group : Group} {rest after : List Group} {pair : Node × Node} {loop : Nat}
    (placed : group.column = column) (isEntry : group.isEntry = true)
    (read : entry reader false seen group rest = .ok (pair, after)) :
    entries reader false column seen found (loop + 1) (group :: rest) =
      entries reader false column (nameText pair.1 :: seen) (pair :: found) loop after := by
  have noEnd : group.isSingle .mapEnd = false := by
    cases group <;> first | rfl | contradiction
  simp [entries, placed, isEntry, read, noEnd]

variable (depth) in
theorem value_listed (isValue : IsValue text 1 9 value) (leads : Lexer.Lead lead)
    (listing : Listing texts tokens) (isAscii : ∀ word ∈ text :: texts, IsAscii word)
    (enough : tokens.length + 2 ≤ steps) :
    ∃ node nodes, StandsFor text node ∧ List.Forall₂ StandsFor texts nodes ∧
      Layout.value steps (depth + 3) false (listedGroups value lead tokens) =
        .ok (.map [(.scalar (.bare Fields.markerName), node),
          (.scalar (.bare Fields.importsName), .list nodes)], []) := by
  rw [List.forall_mem_cons] at isAscii
  obtain ⟨node, stands, held⟩ := value_standsFor steps (depth + 1) false isValue isAscii.1
  obtain ⟨nodes, stand, list⟩ := nameValue_listing lead steps depth listing isAscii.2 (by omega)
  refine ⟨node, nodes, stands, stand, ?_⟩
  have first := entry_marker lead (tokens.map .single) (held [])
  have second := entry_imports leads listing list
  obtain ⟨loop, rfl⟩ : ∃ loop, steps = loop + 1 + 1 := ⟨steps - 2, by omega⟩
  calc Layout.value (loop + 1 + 1) (depth + 3) false (listedGroups value lead tokens)
      = entries (Layout.value (loop + 1 + 1) (depth + 2)) false 1 [] [] (loop + 1 + 1)
          (listedGroups value lead tokens) := rfl
    _ = entries (Layout.value (loop + 1 + 1) (depth + 2)) false 1 [Fields.markerName]
          [(.scalar (.bare Fields.markerName), node)] (loop + 1)
          (importsGroup lead :: tokens.map .single) := entries_cons rfl rfl first
    _ = entries (Layout.value (loop + 1 + 1) (depth + 2)) false 1
          [Fields.importsName, Fields.markerName]
          [(.scalar (.bare Fields.importsName), .list nodes),
            (.scalar (.bare Fields.markerName), node)] loop [] := entries_cons rfl rfl second
    _ = _ := by cases loop <;> rfl

end Layout

theorem collectItems_texts {anchors : Anchors} {nodes : List Node}
    (stand : List.Forall₂ StandsFor texts nodes) :
    Node.collectItems anchors nodes = .ok anchors := by
  induction stand with
  | nil => rfl
  | cons stands _ inductionHypothesis =>
      obtain ⟨scalar, rfl, -⟩ := stands
      exact inductionHypothesis

theorem itemTexts_texts {anchors : Anchors} {nodes : List Node}
    (stand : List.Forall₂ StandsFor texts nodes) :
    Fields.itemTexts anchors nodes = .ok (texts.map reading) := by
  induction stand with
  | nil => rfl
  | cons stands _ inductionHypothesis =>
      obtain ⟨scalar, rfl, known⟩ := stands
      rw [Fields.itemTexts] at inductionHypothesis ⊢
      rw [List.mapM_cons, inductionHypothesis]
      simp [Fields.text?, Anchors.target, known, Except.map, bind, Except.bind, pure, Except.pure]

def settingsNode (marker : Node) (imports : List Node) : Node :=
  .map
    [(.scalar (.bare Fields.markerName), marker),
      (.scalar (.bare Fields.importsName), .list imports)]

theorem ofGroups_listed {config : Config} (isValue : IsValue config.marker 1 9 value)
    (leads : Lexer.Lead lead) (listing : Listing config.imports tokens)
    (isAscii : ∀ text ∈ config.marker :: config.imports, IsAscii text) :
    ∃ marker imports, StandsFor config.marker marker ∧
      List.Forall₂ StandsFor config.imports imports ∧
      Node.ofGroups (listedGroups value lead tokens) = .ok (settingsNode marker imports) := by
  have enough : tokens.length + 2 ≤ (listedGroups value lead tokens).length := by
    simp [listedGroups]
  obtain ⟨marker, imports, stands, stand, read⟩ :=
    Layout.value_listed 9997 isValue leads listing isAscii enough
  refine ⟨marker, imports, stands, stand, ?_⟩
  rw [Node.ofGroups, show Layout.maxDepth = 9997 + 3 from rfl, read]
  rfl

theorem documents_listed (listing : Listing texts tokens) :
    Group.documents (listedGroups value lead tokens) = .ok [listedGroups value lead tokens] := by
  have ordinary : ∀ group ∈ listedGroups value lead tokens, group.mark.isOrdinary = true := by
    simp only [listedGroups, List.forall_mem_cons]
    exact ⟨rfl, rfl, List.forall_mem_map.mpr fun token member => (listing.marks token member).1⟩
  rw [Group.documents, Group.documentsOnto_ordinary ordinary]
  simp [Group.finish, listedGroups]

theorem fields_settings {marker : Node} {imports : List Node} {depth : Nat} :
    Document.fields [] (depth + 1) (settingsNode marker imports) =
      .ok (some [(Fields.importsName, .list imports), (Fields.markerName, marker)]) := by
  have first : Document.name? [] (.scalar (.bare Fields.markerName)) = some Fields.markerName := by
    decide +kernel
  have second :
      Document.name? [] (.scalar (.bare Fields.importsName)) = some Fields.importsName := by
    decide +kernel
  have apart : ([(Fields.markerName, marker)].lookup Fields.importsName).isSome = false := rfl
  simp [Document.fields, settingsNode, Anchors.entries?, Anchors.target, Document.gather, first,
    second, Document.extend, apart]

/-- What a configuration that has been written is read as. -/
theorem read_encode {config : Config}
    (right : ∀ text ∈ config.marker :: config.imports, Printable text ∧ ¬ AsksQuestion text) :
    ∃ marker imports, StandsFor config.marker marker ∧
      List.Forall₂ StandsFor config.imports imports ∧
      Document.read (encode config) =
        .ok { entries := [(Fields.importsName, .list imports), (Fields.markerName, marker)] } := by
  obtain ⟨tokens, scanned, listed⟩ := scan_encode right
  obtain ⟨value, lead, more, isValue, leads, listing, gathered⟩ := ofTokens_listed listed
  obtain ⟨marker, imports, stands, stand, shaped⟩ := ofGroups_listed isValue leads listing
    fun text member => (right text member).1.isAscii
  refine ⟨marker, imports, stands, stand, ?_⟩
  have collected : (settingsNode marker imports).collect [] = .ok [] := by
    obtain ⟨scalar, rfl, -⟩ := stands
    simp [settingsNode, Node.collect, Node.collectEntries, Node.collectEntry,
      collectItems_texts stand]
  have counted : Document.counts [] (listedGroups value lead more)
      (settingsNode marker imports) = true := rfl
  have found : Document.values [] [] [listedGroups value lead more] =
      .ok ([settingsNode marker imports], []) := by
    simp [Document.values, shaped, collected, counted]
  simp only [Document.read, scanned, gathered, Except.bind, documents_listed listing, found,
    show Layout.maxDepth = 9999 + 1 from rfl, fields_settings]
  rfl

end ImportSplice.Yaml
