import TopicBindings.Proofs.Generation.TopicTable
import TopicBindings.Proofs.Source.Files
import TopicBindings.Proofs.Source.Layout
import TopicBindings.Proofs.Text.Quoted

/-!
The tables of topics, read back from the rendered module line by line. A key keeps every character apart from quotes
and backslashes as it is, and the tables stand in a class, where any character that ends a line moves what follows
to the next one; so the names come back exactly if no line ends in them.
-/

namespace TopicBindings.Generation.TopicLookup

open Binding (QualifiedName)
open Declaration (RawContent Shape)
open Schema (MessageRef)
open Source (identifier)
open Text (BreaksOpen Token Unbroken isLineEnd linesBy physicalLines scan? shift tokens? unlines)
open Text.Quoted (Escaping IsPlain IsVisible decodeBody?_plain isLineEnd_of_visible)

def escapeKey (c : Char) : List Char :=
  if c = '\\' then ['\\', '\\'] else if c = '"' then ['\\', '"'] else [c]

theorem quoteKey_eq (s : List Char) : quoteKey s = '"' :: s.flatMap escapeKey ++ ['"'] :=
  rfl

theorem escaping_escapeKey : Escaping escapeKey where
  form c := by
    rw [escapeKey]
    split
    · exact .inr ⟨'\\', [], rfl, List.forall_mem_singleton.2 (by decide), by simp⟩
    · split
      · exact .inr ⟨'"', [], rfl, List.forall_mem_singleton.2 (by decide), by simp⟩
      next hslash hquote => exact .inl ⟨rfl, hquote, hslash⟩
  reads c rest := by
    rw [escapeKey]
    split
    next h =>
      rw [h]
      rfl
    · split
      next h =>
        rw [h]
        rfl
      next hslash hquote => exact decodeBody?_plain ⟨hquote, hslash⟩ rest

theorem unbroken_key_iff {s : List Char} : Unbroken isLineEnd (s.flatMap escapeKey) ↔ Unbroken isLineEnd s := by
  induction s with
  | nil => simp
  | cons c rest ih =>
      have hc : Unbroken isLineEnd (escapeKey c) ↔ isLineEnd c = false := by
        rw [escapeKey]
        split
        next h => simp [h, show isLineEnd '\\' = false from rfl]
        · split
          next h => simp [h, show isLineEnd '\\' = false from rfl, show isLineEnd '"' = false from rfl]
          · simp
      rw [List.flatMap_cons, Text.unbroken_append, Text.unbroken_cons, hc, ih]

/-- The key of a line of a table, and what stands behind it: a colon and a value up to the comma at the end. -/
def keys? : List (List Char) → Option (List (List Char) × List (List Char))
  | [] => none
  | line :: rest =>
      match tokens? line with
      | some [.sign '\x7d'] => some ([], rest)
      | some (.text key :: .sign ':' :: .sign ' ' :: value) =>
          if value.getLast? = some (.sign ',') then (keys? rest).map fun (keys, behind) => (key :: keys, behind)
          else none
      | _ => none

def header (name : String) : String :=
  name ++ ": typing.ClassVar[dict[str, type]] = \x7b"

/-- The keys of the table of a name, and the lines behind it. -/
def table? (name : String) (lines : List (List Char)) : Option (List (List Char) × List (List Char)) :=
  keys? (lines.dropWhile fun line => line.dropWhile (· == ' ') != (header name).toList).tail

def topics? (text : List Char) : Option (List (List Char) × List (List Char)) := do
  let (published, behind) ← table? "PUBLISH" (physicalLines text)
  let (subscribed, _) ← table? "SUBSCRIBE" behind
  return (published, subscribed)

section Rows

def Row.lines (row : Row) : List (List Char) :=
  (linesBy isLineEnd (row.line.toList ++ ['\n'])).map (shift 4)

def Row.Plain (row : Row) : Prop :=
  '"' ∉ row.spelling.toList ∧ Unbroken isLineEnd row.spelling.toList

variable {row : Row} {rows : List Row}

theorem Row.line_eq (row : Row) : row.line.toList = List.replicate 4 ' ' ++
    '"' :: (row.topic.name.toList.flatMap escapeKey ++ '"' :: (':' :: ' ' :: (row.spelling.toList ++ [',']))) := by
  simp [Row.line, quoteKey_eq]

theorem Row.lines_of_unbroken (h : row.Plain) (hname : Unbroken isLineEnd row.topic.name.toList) :
    row.lines = [shift 4 row.line.toList] := by
  have hline : Unbroken isLineEnd row.line.toList := by
    rw [row.line_eq]
    simp [unbroken_key_iff, hname, h.2, show isLineEnd ' ' = false from rfl,
      show isLineEnd '"' = false from rfl, show isLineEnd ':' = false from rfl, show isLineEnd ',' = false from rfl]
  rw [Row.lines, Text.linesBy_of_unbroken rfl rfl hline, List.map_singleton]

theorem Row.tokens?_line (h : row.Plain) : tokens? (shift 4 row.line.toList) =
    some (.text row.topic.name.toList :: .sign ':' :: .sign ' ' :: (row.spelling.toList.map .sign ++ [.sign ','])) := by
  have hvalue : '"' ∉ ':' :: ' ' :: (row.spelling.toList ++ [',']) := by
    simpa using h.1
  have hsigns := Text.scan?_signs hvalue []
  rw [List.append_nil] at hsigns
  rw [Text.tokens?_shift, row.line_eq, Text.tokens?_spaces, tokens?, List.dropWhile_cons_of_neg (by decide),
    Text.scan?_literal escaping_escapeKey, hsigns]
  simp [scan?]

theorem Row.tokens?_of_broken (h : ¬Unbroken isLineEnd row.topic.name.toList) :
    ∃ line more, row.lines = line :: more ∧ tokens? line = none := by
  rw [← unbroken_key_iff] at h
  have hopen : BreaksOpen isLineEnd row.line.toList := by
    rw [row.line_eq]
    exact (escaping_escapeKey.breaksOpen (fun _ => isLineEnd_of_visible) h _).behind_signs (by decide)
      (Text.unbroken_spaces rfl 4)
  obtain ⟨u, more, hlines, hnone⟩ := hopen.exists_line rfl rfl
  refine ⟨shift 4 u, more.map (shift 4), by rw [Row.lines, hlines, List.map_cons], ?_⟩
  rw [Text.tokens?_shift, Text.tokens?_eq_none hnone]

theorem keys?_closing (rest : List (List Char)) : keys? (shift 4 ['\x7d'] :: rest) = some ([], rest) :=
  rfl

theorem keys?_rows (hplain : ∀ row ∈ rows, row.Plain) (h : ∀ row ∈ rows, Unbroken isLineEnd row.topic.name.toList)
    (rest : List (List Char)) : keys? (rows.flatMap Row.lines ++ shift 4 ['\x7d'] :: rest) =
      some (rows.map fun row => row.topic.name.toList, rest) := by
  induction rows with
  | nil => exact keys?_closing rest
  | cons row rows ih =>
      have hrest := ih (fun other ho => hplain other (.tail _ ho)) fun other ho => h other (.tail _ ho)
      have hrow := hplain row (.head _)
      rw [List.flatMap_cons, Row.lines_of_unbroken hrow (h row (.head _)), List.append_assoc, List.singleton_append, keys?,
        Row.tokens?_line hrow, hrest]
      simp

/-- A row whose topic name has a line end in it stops the reading of its table. -/
theorem keys?_broken (hplain : ∀ row ∈ rows, row.Plain) (h : ¬∀ row ∈ rows, Unbroken isLineEnd row.topic.name.toList)
    (rest : List (List Char)) : keys? (rows.flatMap Row.lines ++ rest) = none := by
  induction rows with
  | nil => exact absurd (by simp) h
  | cons row rows ih =>
      rw [List.flatMap_cons, List.append_assoc]
      by_cases hname : Unbroken isLineEnd row.topic.name.toList
      · have hrow := hplain row (.head _)
        have hrest := ih (fun other ho => hplain other (.tail _ ho)) fun hall => h (List.forall_mem_cons.2 ⟨hname, hall⟩)
        rw [Row.lines_of_unbroken hrow hname, List.singleton_append, keys?, Row.tokens?_line hrow, hrest]
        simp
      · obtain ⟨line, more, hlines, hnone⟩ := Row.tokens?_of_broken hname
        rw [hlines, List.cons_append, keys?, hnone]

def tableLines (name : String) (rows : List Row) : List (List Char) :=
  (table name (rows.map Row.line)).flatMap fun l => (linesBy isLineEnd (l.toList ++ ['\n'])).map (shift 4)

structure Findable (name : String) : Prop where
  unbroken : Unbroken isLineEnd (header name).toList
  nonempty : (header name).toList ≠ []
  flush : (header name).toList.dropWhile (· == ' ') = (header name).toList

theorem Findable.tableLines_eq {name : String} (h : Findable name) (rows : List Row) :
    tableLines name rows = shift 4 (header name).toList :: (rows.flatMap Row.lines ++ [shift 4 ['\x7d']]) := by
  have hheader : (linesBy isLineEnd ((header name).toList ++ ['\n'])).map (shift 4) = [shift 4 (header name).toList] := by
    rw [Text.linesBy_of_unbroken rfl rfl h.unbroken, List.map_singleton]
  have hbrace : (linesBy isLineEnd ("\x7d".toList ++ ['\n'])).map (shift 4) = [shift 4 ['\x7d']] := rfl
  rw [tableLines, table, List.flatMap_append, List.flatMap_cons, List.flatMap_cons, List.flatMap_nil, hbrace,
    List.flatMap_map]
  exact congrArg (· ++ _ ++ _) hheader

theorem dropWhile_spaces_shift (line : List Char) :
    (shift 4 line).dropWhile (· == ' ') = line.dropWhile (· == ' ') := by
  rw [shift]
  split
  · rfl
  · exact Text.dropWhile_spaces 4 line

/-- Lines in front of a table that do not hold its first line are passed over. -/
theorem Findable.table?_eq {name : String} (h : Findable name) (before : List (List Char))
    (hbefore : ∀ line ∈ before, line.dropWhile (· == ' ') ≠ (header name).toList) (rows : List Row)
    (rest : List (List Char)) : table? name (before ++ (tableLines name rows ++ rest)) =
      keys? (rows.flatMap Row.lines ++ shift 4 ['\x7d'] :: rest) := by
  have hfound : (before ++ (tableLines name rows ++ rest)).dropWhile
      (fun line => line.dropWhile (· == ' ') != (header name).toList) = tableLines name rows ++ rest := by
    rw [List.dropWhile_append_of_pos fun line hline => by simpa using hbefore line hline, h.tableLines_eq,
      List.cons_append, List.dropWhile_cons_of_neg]
    simp [dropWhile_spaces_shift, h.flush]
  rw [table?, hfound, h.tableLines_eq]
  simp

theorem findable_publish : Findable "PUBLISH" :=
  ⟨by decide, by decide, by decide⟩

theorem findable_subscribe : Findable "SUBSCRIBE" :=
  ⟨by decide, by decide, by decide⟩

theorem topics?_eq_iff {text : List Char} {before after : List (List Char)} {published subscribed : List Row}
    (hlines : physicalLines text =
      before ++ (tableLines "PUBLISH" published ++ (tableLines "SUBSCRIBE" subscribed ++ after)))
    (hbefore : ∀ line ∈ before, line.dropWhile (· == ' ') ≠ (header "PUBLISH").toList)
    (hpublished : ∀ row ∈ published, row.Plain) (hsubscribed : ∀ row ∈ subscribed, row.Plain) :
    topics? text = some (published.map (fun row => row.topic.name.toList), subscribed.map fun row => row.topic.name.toList) ↔
      ∀ row ∈ published ++ subscribed, Unbroken isLineEnd row.topic.name.toList := by
  have hsecond : ∀ rest, table? "SUBSCRIBE" (tableLines "SUBSCRIBE" subscribed ++ rest) =
      keys? (subscribed.flatMap Row.lines ++ shift 4 ['\x7d'] :: rest) := fun rest =>
    findable_subscribe.table?_eq [] (by simp) subscribed rest
  rw [topics?, hlines, findable_publish.table?_eq _ hbefore]
  by_cases hfirst : ∀ row ∈ published, Unbroken isLineEnd row.topic.name.toList
  · rw [keys?_rows hpublished hfirst, Option.bind_eq_bind, Option.bind_some]
    dsimp only
    rw [hsecond]
    by_cases hlast : ∀ row ∈ subscribed, Unbroken isLineEnd row.topic.name.toList
    · rw [keys?_rows hsubscribed hlast]
      exact iff_of_true rfl (List.forall_mem_append.2 ⟨hfirst, hlast⟩)
    · rw [keys?_broken hsubscribed hlast]
      exact iff_of_false (by simp) fun hall => hlast (List.forall_mem_append.1 hall).2
  · rw [keys?_broken hpublished hfirst]
    exact iff_of_false (by simp) fun hall => hfirst (List.forall_mem_append.1 hall).1

end Rows

def topicNames (side : Topic → Option MessageRef) (topics : List Topic) : List (List Char) :=
  (topics.filter fun t => (side t).isSome).map fun t => t.name.toList

section Listed

variable {side : Topic → Option MessageRef} {topics : List Topic} {rows : List Row}

theorem map_name_of_listed (h : rows.map Row.topic = topics.filter fun t => (side t).isSome) :
    (rows.map fun row => row.topic.name.toList) = topicNames side topics := by
  rw [topicNames, ← h, List.map_map]
  rfl

theorem unbroken_listed_iff (h : rows.map Row.topic = topics.filter fun t => (side t).isSome) :
    (∀ row ∈ rows, Unbroken isLineEnd row.topic.name.toList) ↔
      ∀ t ∈ topics, (side t).isSome → Unbroken isLineEnd t.name.toList := by
  rw [← List.forall_mem_map (f := Row.topic) (P := fun t => Unbroken isLineEnd t.name.toList), h]
  simp

end Listed

section Module

variable {c : Context} {topics : List Topic} {content : RawContent} {published subscribed : List Row}

theorem Row.plain_of_generated {row : Row} (h : row.name.isGenerated = true) : row.Plain := by
  refine ⟨Source.not_mem_reference (by decide) (by decide) (by decide) h row.spelled, fun c hc => ?_⟩
  by_contra hend
  rw [Bool.not_eq_false] at hend
  obtain ⟨hstart, hpart⟩ := Source.not_identifier_of_lineEnd hend
  refine Source.not_mem_reference hstart hpart ?_ h row.spelled hc
  rintro rfl
  cases hend

namespace Tabulates

theorem generated (h : Tabulates c topics content published subscribed) {row : Row}
    (hrow : row ∈ published ++ subscribed) : row.name.isGenerated = true := by
  rcases List.mem_append.1 hrow with hrow | hrow
  · exact (h.publishes row hrow).generated
  · exact (h.subscribes row hrow).generated

theorem exists_lines (h : Tabulates c topics content published subscribed) : ∃ more,
    content.lines.flatMap (fun l => linesBy isLineEnd (l.toList ++ ['\n'])) = (header "PUBLISH").toList :: more := by
  rw [h.lines, table, List.cons_append, List.cons_append, List.flatMap_cons]
  exact ⟨_, congrArg (· ++ _) (Text.linesBy_of_unbroken rfl rfl findable_publish.unbroken)⟩

theorem blockLines_eq (h : Tabulates c topics content published subscribed) :
    Source.blockLines (Text.join "\n" content.lines) =
      tableLines "PUBLISH" published ++ tableLines "SUBSCRIBE" subscribed := by
  have hwhole : (Text.join "\n" content.lines).toList ++ ['\n'] = unlines (content.lines.map String.toList) := by
    rw [h.lines, Text.join, String.toList_ofList]
    exact Text.intercalate_feed _ _
  obtain ⟨more, hmore⟩ := h.exists_lines
  rw [Source.blockLines, hwhole, Text.lines_eq_linesBy, Text.linesBy_unlines rfl, List.flatMap_map, hmore,
    Text.shifted_of_ne_nil findable_publish.nonempty, ← hmore, h.lines, List.flatMap_append, List.map_append,
    List.map_flatMap, List.map_flatMap]
  rfl

theorem checkingImports_declaration (home : String) : Source.checkingImports home (declaration c content) = [] := by
  simp [Source.checkingImports, declaration, Source.annotatedNames, Source.annotatedNamesAll, Source.modulesOf,
    Source.sortedModules]

theorem brace_not_mem_import (h : Tabulates c topics content published subscribed) {home m : String}
    (hm : m ∈ Source.runtimeImports home (declaration c content)) : '\x7b' ∉ m.toList := by
  rw [Source.runtimeImports, checkingImports_declaration, Source.mem_sortedModules] at hm
  have hlisted : m ∈ Source.modulesOf content.references := by
    simpa [declaration, Source.runtimeModules, Source.runtimeModulesAll, Shape.plain, Source.modulesOf] using hm
  obtain ⟨n, hn, hmodule⟩ := Source.mem_modulesOf.1 hlisted
  rcases (h.references n).1 hn with rfl | ⟨row, hrow, rfl⟩
  · obtain rfl : "typing" = m := by
      simpa [Source.moduleOf, QualifiedName.external, QualifiedName.isBuiltin] using hmodule
    decide
  · rw [Source.moduleOf_of_generated (h.generated hrow)] at hmodule
    obtain ⟨home, hhome, hm⟩ := Outcome.map_ok.1 hmodule
    obtain rfl := Option.some.inj hm
    exact Source.not_mem_moduleName (by decide) (by decide) (by decide) hhome

theorem brace_not_mem_doc : '\x7b' ∉ unlines (Source.docLines doc) := by
  decide +kernel

theorem exists_head (h : Tabulates c topics content published subscribed) {home : String} {piece : Source.Piece}
    (hpiece : Source.pieceOf home (declaration c content) = .ok piece) : ∃ head, Text.Complete head ∧ '\x7b' ∉ head ∧
      piece.text.toList ++ ['\n'] =
        head ++ unlines (tableLines "PUBLISH" published ++ tableLines "SUBSCRIBE" subscribed) := by
  rw [declaration] at hpiece
  obtain ⟨pieces, text, hpieces, htext, rfl⟩ := Source.pieceOf_type_ok.1 hpiece
  have hblocks : Source.blocksOf pieces = [Text.join "\n" content.lines] := by
    rw [Source.piecesOf_raw hpieces]
    exact Source.blocksOf_of_single rfl [] []
  obtain ⟨front, hfront⟩ : ∃ front, Source.blockLines (Text.join "\n" content.lines) = front ++ [shift 4 ['\x7d']] := by
    rw [h.blockLines_eq, findable_subscribe.tableLines_eq, ← List.cons_append, ← List.append_assoc]
    exact ⟨_, rfl⟩
  obtain ⟨decorators, className, bases, hdecorators, hname, hbases, htext⟩ :=
    Source.toList_classText_single htext hblocks hfront (by decide) (by decide)
  obtain rfl := Outcome.pure_ok.1 hdecorators
  obtain rfl := Outcome.pure_ok.1 hbases
  rw [h.blockLines_eq] at htext
  refine ⟨Source.classHead [] className [] doc, Text.complete_unlines _, ?_, htext⟩
  have hclass := Source.not_mem_of_identifier (c := '\x7b') (by decide) (by decide) hname
  simpa [Source.classHead, Source.decoratorLines, hclass] using brace_not_mem_doc

theorem exists_physicalLines (h : Tabulates c topics content published subscribed) {home text : String}
    (htext : Source.moduleText home (declaration c content) = .ok text) : ∃ before, (∀ line ∈ before, '\x7b' ∉ line) ∧
      physicalLines text.toList = before ++ (tableLines "PUBLISH" published ++ tableLines "SUBSCRIBE" subscribed) := by
  obtain ⟨piece, hpiece, htext⟩ := Source.moduleText_ok htext
  obtain ⟨head, hhead, hbrace, hpiece⟩ := h.exists_head hpiece
  let start := (Source.opening (Source.runtimeImports home (declaration c content))
    (Source.checkingImports home (declaration c content)) ++ "\n\n").toList
  have hstart : Text.Complete start := Source.complete_opening _ _
  -- The lines of the tables were cut where any line ends; moved to the right they are lines of the file as they stand.
  have hunbroken : ∀ l ∈ tableLines "PUBLISH" published ++ tableLines "SUBSCRIBE" subscribed,
      Unbroken Text.isPhysicalEnd l := by
    intro l hl
    rw [tableLines, tableLines, ← List.flatMap_append] at hl
    obtain ⟨line, -, hl⟩ := List.mem_flatMap.1 hl
    obtain ⟨cut, hcut, rfl⟩ := List.mem_map.1 hl
    exact ((Text.unbroken_of_mem_linesBy hcut).shift rfl 4).physical
  refine ⟨physicalLines (start ++ head), fun line hline hmem => ?_, ?_⟩
  · rcases List.mem_append.1 (Text.mem_of_mem_linesBy hline hmem) with hmem | hmem
    · simp [start] at hmem
      refine Source.brace_not_mem_opening (fun m hm => h.brace_not_mem_import hm) ?_ hmem
      rw [checkingImports_declaration]
      simp
    · exact hbrace hmem
  · rw [htext, hpiece, ← List.append_assoc, physicalLines, Text.linesBy_append rfl (hstart.append hhead),
      Text.linesBy_unlines_of_unbroken rfl rfl hunbroken]
    rfl

theorem topics?_iff (h : Tabulates c topics content published subscribed) {home text : String}
    (htext : Source.moduleText home (declaration c content) = .ok text) :
    topics? text.toList = some (topicNames Topic.publish topics, topicNames Topic.subscribe topics) ↔
      ∀ t ∈ topics, t.carriesMessage = true → Unbroken isLineEnd t.name.toList := by
  obtain ⟨before, hbefore, hlines⟩ := h.exists_physicalLines htext
  rw [← List.append_nil (tableLines "SUBSCRIBE" subscribed)] at hlines
  have hplain : ∀ row ∈ published ++ subscribed, row.Plain := fun row hrow => Row.plain_of_generated (h.generated hrow)
  obtain ⟨hpublished, hsubscribed⟩ := List.forall_mem_append.1 hplain
  have hpassed : ∀ line ∈ before, line.dropWhile (· == ' ') ≠ (header "PUBLISH").toList := by
    intro line hline heq
    refine hbefore line hline ((List.dropWhile_suffix (· == ' ')).subset ?_)
    rw [heq]
    decide
  have hread := topics?_eq_iff hlines hpassed hpublished hsubscribed
  rw [map_name_of_listed h.publishedTopics, map_name_of_listed h.subscribedTopics] at hread
  rw [hread, List.forall_mem_append, unbroken_listed_iff h.publishedTopics,
    unbroken_listed_iff h.subscribedTopics, ← forall₂_and]
  refine forall₂_congr fun t _ => ?_
  rw [Topic.carriesMessage, Bool.or_eq_true, or_imp]

end Tabulates

end Module

section Run

variable {s : Schema} {o : Options} {r : Result} {files : Entries Source.RelativePath String}

theorem identifier_typeName : identifier (Naming.lowerUnderscore typeName) = .ok "topic_messages" := by
  decide +kernel

/-- The module of the tables has a file of its own below their package. -/
theorem lookup_of_isModule {c : Context} {content : RawContent} {units : List (String × Declaration)}
    (hrendered : Source.Rendered units files) {file : Source.RelativePath × String} (hfile : file ∈ files)
    (hmodule : Source.IsModule (packageName c) (declaration c content) file) : ∃ directory home,
      Source.packageDirectory (packageName c) = .ok directory ∧
      files.lookup (directory ++ ["topic_messages.py"]) = some file.2 ∧
      Source.moduleText home (declaration c content) = .ok file.2 := by
  obtain ⟨name, segments, directory, hname, hsegments, hdirectory, hpath, htext⟩ := hmodule
  obtain rfl := Option.some.inj hname
  have hpackage : (tableName c).package ≠ "" := c.resolver.packageName_ne_empty (by decide)
  have htop : Naming.lowerUnderscore (tableName c).topLevel ≠ "" := Source.ne_empty_of_identifier identifier_typeName
  have hstem : identifier (Naming.lowerUnderscore (tableName c).topLevel) = .ok "topic_messages" := identifier_typeName
  rw [Source.moduleSegments_eq hpackage htop hdirectory, hstem] at hsegments
  obtain rfl := Except.ok.inj hsegments
  refine ⟨directory, _, hdirectory, Entries.lookup_of_mem hrendered.distinct ?_, htext⟩
  have hlast : (directory ++ ["topic_messages"]).getLast?.getD "" ++ ".py" = "topic_messages.py" := by
    rw [List.getLast?_concat]
    decide
  rw [hlast] at hpath
  exact hpath ▸ hfile

theorem exists_module (hrun : (run s o [extension]).outcome = .ok r) (hfiles : r.files = .ok files) :
    ∃ registry content published subscribed directory home text, Registry.ofSchema s = .ok registry ∧
      Tabulates (contextOf s o registry r.definitions) s.topics content published subscribed ∧
      Source.packageDirectory (packageName (contextOf s o registry r.definitions)) = .ok directory ∧
      files.lookup (directory ++ ["topic_messages.py"]) = some text ∧
      Source.moduleText home (declaration (contextOf s o registry r.definitions) content) = .ok text := by
  obtain ⟨registry, hbuilt⟩ := built_of_run hrun
  obtain ⟨content, published, subscribed, hunit, htabulates⟩ := tabulated_of_built hbuilt
  obtain ⟨hrendered, hmodules⟩ := Source.render_ok (Outcome.mapError_ok.1 hfiles)
  obtain ⟨file, hfile, hmodule⟩ := hmodules _ hunit rfl
  obtain ⟨directory, home, hdirectory, hlookup, htext⟩ := lookup_of_isModule hrendered hfile hmodule
  exact ⟨registry, content, published, subscribed, directory, home, file.2, hbuilt.registered, htabulates,
    hdirectory, hlookup, htext⟩

theorem topics_read_iff (hrun : (run s o [extension]).outcome = .ok r) (hfiles : r.files = .ok files) :
    ∃ registry directory text, Registry.ofSchema s = .ok registry ∧
      Source.packageDirectory (packageName (contextOf s o registry r.definitions)) = .ok directory ∧
      files.lookup (directory ++ ["topic_messages.py"]) = some text ∧
      (topics? text.toList = some (topicNames Topic.publish s.topics, topicNames Topic.subscribe s.topics) ↔
        ∀ t ∈ s.topics, t.carriesMessage = true → Unbroken isLineEnd t.name.toList) := by
  obtain ⟨registry, content, published, subscribed, directory, home, text, hregistry, htabulates, hdirectory, hlookup,
    htext⟩ := exists_module hrun hfiles
  exact ⟨registry, directory, text, hregistry, hdirectory, hlookup, htabulates.topics?_iff htext⟩

theorem topics_read_sample : ∃ r files registry directory text, (run .sample sampleOptions [extension]).outcome = .ok r ∧
    r.files = .ok files ∧ Registry.ofSchema .sample = .ok registry ∧
      Source.packageDirectory (packageName (contextOf .sample sampleOptions registry r.definitions)) = .ok directory ∧
      files.lookup (directory ++ ["topic_messages.py"]) = some text ∧
      topics? text.toList = some (["s.1.t.r.a".toList], []) := by
  obtain ⟨r, files, hr, hfiles⟩ := exists_sample_files
  obtain ⟨registry, directory, text, hregistry, hdirectory, hlookup, hread⟩ := topics_read_iff hr hfiles
  exact ⟨r, files, registry, directory, text, hr, hfiles, hregistry, hdirectory, hlookup, hread.2 (by decide)⟩

/-- The sample under a name in which a line ends. -/
def splitText : String :=
  "\x7basyncapi: 1.0.0,host: h,info: \x7bversion: v\x7d,topics: \x7b\"s.1.t.r.a\\nb\": \x7bpublish: \x7b$ref: M\x7d\x7d\x7d," ++
  "components: \x7bmessages: \x7bM: \x7bpayload: \x7btype: string\x7d\x7d\x7d\x7d\x7d"

def split : Schema where
  baseTopic := none
  host := "h"
  schemes := []
  about := ⟨none, "v", none⟩
  topics := [⟨"s.1.t.r.a\nb", some (.named "M"), none⟩]
  messages := [⟨"M", .primitive "payload" .string ⟨none, none⟩, none, none, false⟩]
  types := []

set_option maxRecDepth 100000 in
theorem split_of_text : Schema.ofText splitText = .ok split :=
  Schema.ofText_eq_of_decide (by decide +kernel)

/-- The name of a topic with a line feed in it does not come back. -/
theorem topics_lost_split : Schema.ofText splitText = .ok split ∧ ∃ r files registry directory text,
    (run split sampleOptions [extension]).outcome = .ok r ∧ r.files = .ok files ∧ Registry.ofSchema split = .ok registry ∧
      Source.packageDirectory (packageName (contextOf split sampleOptions registry r.definitions)) = .ok directory ∧
      files.lookup (directory ++ ["topic_messages.py"]) = some text ∧
      topics? text.toList ≠ some (["s.1.t.r.a\nb".toList], []) := by
  obtain ⟨r, files, hr, hfiles⟩ : ∃ r files, (run split sampleOptions [extension]).outcome = .ok r ∧ r.files = .ok files :=
    exists_files_of_isSome (by decide +kernel)
  obtain ⟨registry, content, published, subscribed, directory, home, text, hregistry, htabulates, hdirectory, hlookup,
    htext⟩ := exists_module hr hfiles
  refine ⟨split_of_text, r, files, registry, directory, text, hr, hfiles, hregistry, hdirectory, hlookup, fun hread => ?_⟩
  have hunbroken := (htabulates.topics?_iff htext).1 hread _ (.head _) rfl
  exact absurd hunbroken (by decide)

end Run

end TopicBindings.Generation.TopicLookup
