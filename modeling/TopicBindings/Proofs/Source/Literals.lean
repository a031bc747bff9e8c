import TopicBindings.Proofs.Source.Constants
import TopicBindings.Proofs.Source.Files
import TopicBindings.Proofs.Source.Layout

/-!
Enumerations in rendered modules. The statements of an enumeration stand in the module of its package one after the
other, at any depth; the constants and the table of names are read back from single lines, unless the enumeration
stands in a type and a separator is among its values or names.
-/

namespace TopicBindings.Source

open Binding (QualifiedName)
open Declaration (Doc EnumLiteral Inside Tree)
open Text (Solid Unbroken isLineEnd linesBy physicalLines shift unlines)

def documentation (doc : Doc) (isEmpty : Bool) : List (List Char) :=
  match docstring? doc with
  | some d => blockLines d ++ if isEmpty then [] else [[]]
  | none => if isEmpty then ["    pass".toList] else []

def wireOpening : String :=
  "\n" ++
  "    @property\n" ++
  "    def wire_name(self) -> str:\n" ++
  "        \"\"\"Name of the literal in JSON documents.\"\"\""

def wireClosing (className : String) : String :=
  "\n" ++
  "    @classmethod\n" ++
  "    def from_wire(cls, value: str) -> " ++ className ++ ":\n" ++
  "        \"\"\"Return the literal with the given JSON name.\"\"\"\n" ++
  "        for member in cls:\n" ++
  "            if member.wire_name == value:\n" ++
  "                return member\n" ++
  "        raise ValueError(f\"\x7bvalue!r\x7d is not a valid \x7bcls.__name__\x7d wire name\""

/-- Reading and writing a literal under its name, around the line with the table. -/
def wireStatements (className : String) (entries : List (String × String)) : List (List Char) :=
  if entries.isEmpty then []
  else [wireOpening.toList, returnLine entries, (wireClosing className).toList ++ [')']]

def statements (className : String) (doc : Doc) (constants : List String) (literals : List EnumLiteral) :
    List (List Char) :=
  ("class " ++ className ++ "(enum.Enum):").toList :: documentation doc literals.isEmpty ++
    List.zipWith (fun constant l => assignment constant l.value) constants literals ++
    wireStatements className (wireNames literals)

theorem wireMethods_eq (className : String) (entries : List (String × String)) :
    wireMethods className entries = wireOpening ++ "\n" ++ ("        return " ++ tableLine entries ++ "[self.name]") ++
      "\n" ++ wireClosing className ++ ")\n" := by
  have hfirst : "        \"\"\"Name of the literal in JSON documents.\"\"\"\n" =
      "        \"\"\"Name of the literal in JSON documents.\"\"\"" ++ "\n" := by decide
  have htable : "[self.name]\n" = "[self.name]" ++ "\n" := by decide
  have hlast : "        raise ValueError(f\"\x7bvalue!r\x7d is not a valid \x7bcls.__name__\x7d wire name\")\n" =
      "        raise ValueError(f\"\x7bvalue!r\x7d is not a valid \x7bcls.__name__\x7d wire name\"" ++ ")\n" := by
    decide
  unfold wireMethods wireOpening wireClosing
  simp only [hfirst, htable, hlast, String.append_assoc, -String.reduceAppend]

theorem toList_wires (className : String) (entries : List (String × String)) :
    (if entries.isEmpty then "" else wireMethods className entries).toList =
      unlines (wireStatements className entries) := by
  rw [wireStatements]
  split
  · rfl
  · simp [wireMethods_eq, returnLine]

theorem assignments_of_mapM {literals : List EnumLiteral} {lines : List String}
    (h : (literals.mapM fun l => do
      return "    " ++ (← identifier l.constant) ++ " = " ++ Text.quoted l.value ++ "\n") = .ok lines) :
    ∃ constants, List.Forall₂ (fun constant l => identifier l.constant = .ok constant) constants literals ∧
      lines.flatMap String.toList = unlines (List.zipWith (fun constant l => assignment constant l.value) constants literals) := by
  have hlines := Outcome.mapM_ok.1 h
  clear h
  induction hlines with
  | nil => exact ⟨[], .nil, rfl⟩
  | @cons l line literals lines hline _ ih =>
      obtain ⟨constant, hconstant, hline⟩ := Outcome.bind_ok.1 hline
      obtain rfl := Outcome.pure_ok.1 hline
      obtain ⟨constants, hconstants, hrest⟩ := ih
      refine ⟨constant :: constants, .cons hconstant hconstants, ?_⟩
      rw [List.flatMap_cons, hrest]
      simp [assignment_eq, Text.quoted, Text.Quoted.encode]

theorem exists_docstring_last {doc : Doc} {d : String} (h : docstring? doc = some d) : ∃ s, d.toList = s ++ ['"'] := by
  rw [docstring?, Docstring.render?] at h
  split at h
  · cases h
  · obtain rfl := Option.some.inj h
    exact ⟨_, by rw [String.toList_ofList, Docstring.literal]; exact (List.append_assoc _ ['"', '"'] ['"']).symm⟩

def EndsPlainly (ls : List (List Char)) : Prop :=
  ∃ front s c, ls = front ++ [s ++ [c]] ∧ isLineEnd c = false

theorem EndsPlainly.append {ls : List (List Char)} (h : EndsPlainly ls) (ls' : List (List Char)) :
    EndsPlainly (ls' ++ ls) := by
  obtain ⟨front, s, c, rfl, hc⟩ := h
  exact ⟨ls' ++ front, s, c, (List.append_assoc ..).symm, hc⟩

theorem endsPlainly_block {d : String} {s : List Char} (h : d.toList = s ++ ['"']) : EndsPlainly (blockLines d) := by
  obtain ⟨front, l, hlines⟩ := Text.exists_last_line (show isLineEnd '\n' = true from rfl) rfl s (c := '"') rfl
  obtain ⟨front', l', hshifted⟩ := Text.exists_shifted_last 4 front l '"'
  exact ⟨front', l', '"', by rw [blockLines, h, Text.lines_eq_linesBy, hlines, hshifted], rfl⟩

theorem endsPlainly_documentation (doc : Doc) : EndsPlainly (documentation doc true) := by
  rw [documentation]
  cases hdoc : docstring? doc with
  | none => exact ⟨[], "    pas".toList, 's', rfl, rfl⟩
  | some d =>
      obtain ⟨s, hs⟩ := exists_docstring_last hdoc
      simpa using endsPlainly_block hs

theorem endsPlainly_assignments {constants : List String} {literals : List EnumLiteral}
    (h : constants.length = literals.length) (hne : literals ≠ []) :
    EndsPlainly (List.zipWith (fun constant l => assignment constant l.value) constants literals) := by
  obtain ⟨others, l, rfl⟩ := List.eq_nil_or_concat literals |>.resolve_left hne
  obtain ⟨spelled, constant, rfl⟩ := List.eq_nil_or_concat constants |>.resolve_left fun hnil => by simp [hnil] at h
  have hlength : spelled.length = others.length := by simpa using h
  have hlast : EndsPlainly [assignment constant l.value] :=
    ⟨[], "    ".toList ++ constant.toList ++ " = ".toList ++ '"' :: l.value.toList.flatMap Text.Quoted.escape, '"',
      by simp [assignment_eq], rfl⟩
  rw [List.concat_eq_append, List.concat_eq_append, List.zipWith_append hlength]
  exact hlast.append _

theorem endsPlainly_statements (className : String) (doc : Doc) {constants : List String} {literals : List EnumLiteral}
    (h : constants.length = literals.length) : EndsPlainly (statements className doc constants literals) := by
  rw [statements]
  cases hwires : wireNames literals with
  | cons entry more =>
      have hlast : EndsPlainly (wireStatements className (entry :: more)) :=
        ⟨[wireOpening.toList, returnLine (entry :: more)], (wireClosing className).toList, ')', rfl, rfl⟩
      exact hlast.append _
  | nil =>
      rw [wireStatements, List.isEmpty_nil, if_pos rfl, List.append_nil]
      by_cases hliterals : literals = []
      · subst hliterals
        obtain rfl := List.eq_nil_of_length_eq_zero h
        rw [List.zipWith_nil_left, List.append_nil, List.isEmpty_nil]
        exact (endsPlainly_documentation doc).append [_]
      · exact (endsPlainly_assignments h hliterals).append _

theorem enumText_ok {name : QualifiedName} {doc : Doc} {literals : List EnumLiteral} {text : String}
    (h : enumText name doc literals = .ok text) : ∃ className constants,
      identifier name.name = .ok className ∧
      List.Forall₂ (fun constant l => identifier l.constant = .ok constant) constants literals ∧
      text.toList ++ ['\n'] = unlines (statements className doc constants literals) := by
  obtain ⟨className, hname, h⟩ := Outcome.bind_ok.1 h
  obtain ⟨lines, hlines, h⟩ := Outcome.bind_ok.1 h
  obtain rfl := Outcome.pure_ok.1 h
  obtain ⟨constants, hconstants, hassigned⟩ := assignments_of_mapM hlines
  refine ⟨className, constants, hname, hconstants, ?_⟩
  obtain ⟨front, s, c, hlast, hc⟩ := endsPlainly_statements className doc hconstants.length_eq
  have hstatements : unlines (statements className doc constants literals) =
      (unlines front ++ s ++ [c]) ++ '\n' :: [] := by
    rw [hlast]
    simp
  -- Only the line end that every line has is taken off: the last line ends in something to be seen.
  have hfeed : (unlines front ++ s ++ [c]).getLast? ≠ some '\n' := by
    rw [List.getLast?_append_of_ne_nil _ (List.cons_ne_nil c [])]
    rintro heq
    obtain rfl : c = '\n' := by simpa using heq
    cases hc
  obtain ⟨after, hkept, hafter⟩ := Text.exists_dropTrailing_feed hfeed []
  rw [hafter rfl, ← hstatements] at hkept
  rw [withoutTrailingLines, String.toList_ofList, ← hkept]
  refine congrArg (fun written => Text.dropTrailing '\n' written ++ ['\n']) ?_
  rw [String.toList_append, toList_wires, String.toList_append, Text.toList_join_empty, hassigned,
    String.toList_append, statements, documentation]
  cases docstring? doc with
  | none => cases literals.isEmpty <;> simp
  | some d => cases literals.isEmpty <;> simp [toList_block]

theorem solid_statements {className : String} {name : String} (hname : identifier name = .ok className) (doc : Doc)
    {constants : List String} {literals : List EnumLiteral} (h : constants.length = literals.length) :
    Solid (linesBy isLineEnd (unlines (statements className doc constants literals))) := by
  constructor
  · have hhead : Unbroken isLineEnd ("class " ++ className ++ "(enum.Enum):").toList := by
      rw [String.toList_append, String.toList_append]
      exact Text.unbroken_append.2 ⟨Text.unbroken_append.2 ⟨by decide, unbroken_of_identifier hname⟩, by decide⟩
    rw [statements, List.cons_append, List.cons_append, Text.linesBy_unlines rfl, List.flatMap_cons,
      Text.linesBy_of_unbroken rfl rfl hhead]
    exact ⟨_, _, rfl, by simp⟩
  · obtain ⟨front, s, c, hlast, hc⟩ := endsPlainly_statements className doc h
    have hwhole : unlines (statements className doc constants literals) = (unlines front ++ s) ++ [c] ++ ['\n'] := by
      rw [hlast]
      simp
    obtain ⟨before, l, hlines⟩ := Text.exists_last_line (show isLineEnd '\n' = true from rfl) rfl (unlines front ++ s) hc
    exact ⟨before, l ++ [c], hwhole ▸ hlines, by simp⟩

/-- The statements of an enumeration stand in the module, each on the lines that its depth gives it. -/
theorem physicalLines_of_inside {home text : String} {name : QualifiedName} {doc : Doc} {literals : List EnumLiteral}
    {depth : Nat} {d : Declaration} (h : moduleText home d = .ok text)
    (hinside : Inside (.enumeration name doc literals) depth d) : ∃ className constants before after,
      identifier name.name = .ok className ∧
      List.Forall₂ (fun constant l => identifier l.constant = .ok constant) constants literals ∧
      physicalLines text.toList =
        before ++ (statements className doc constants literals).flatMap (placed depth) ++ after := by
  obtain ⟨piece, hpiece, htext⟩ := moduleText_ok h
  have hopening := complete_opening (runtimeImports home d) (checkingImports home d)
  obtain ⟨inner, hinner⟩ := exists_piece_of_inside hinside hpiece
  obtain ⟨own, hown, rfl⟩ := pieceOf_enumeration_ok.1 hinner
  obtain ⟨className, constants, hname, hconstants, hlines⟩ := enumText_ok hown
  have hbody : ∃ before after, physicalLines (piece.text.toList ++ ['\n']) =
      before ++ (statements className doc constants literals).flatMap (placed depth) ++ after := by
    -- At depth zero the enumeration is the whole module. Deeper in, its lines stand in the text of a type around it.
    cases depth with
    | zero =>
        cases hinside
        obtain rfl := Except.ok.inj (hinner.symm.trans hpiece)
        refine ⟨[], [], ?_⟩
        rw [hlines, physicalLines, Text.linesBy_unlines rfl, List.nil_append, List.append_nil]
        exact List.flatMap_congr fun l _ => (placed_zero l).symm
    | succ depth =>
        have hsolid := solid_statements hname doc hconstants.length_eq
        rw [← hlines, ← Text.lines_eq_linesBy] at hsolid
        have hholds := (lines_of_inside hinner hsolid hinside hpiece).2.2 (Nat.succ_pos depth)
        rw [hlines, Text.lines_eq_linesBy] at hholds
        obtain ⟨before, after, hphysical⟩ := hholds.exists_linesBy (show Text.isPhysicalEnd '\n' = true from rfl) rfl fun l hl => by
          obtain ⟨line, hline, rfl⟩ := List.mem_map.1 hl
          exact (Text.unbroken_of_mem_linesBy hline).physical.shift rfl _
        refine ⟨before, after, ?_⟩
        rw [physicalLines, hphysical, Text.linesBy_unlines rfl, List.map_flatMap]
        rfl
  obtain ⟨before, after, hbody⟩ := hbody
  refine ⟨className, constants, physicalLines (opening (runtimeImports home d) (checkingImports home d) ++ "\n\n").toList ++
    before, after, hname, hconstants, ?_⟩
  rw [htext, physicalLines, Text.linesBy_append rfl hopening, ← physicalLines, ← physicalLines, hbody]
  simp

/-- The constants and the table of names of an enumeration so deep are read back, each from a line of its own. -/
structure ReadBack (depth : Nat) (constants : List String) (literals : List EnumLiteral) : Prop where
  values : List.Forall₂ (fun constant l => ∃ line, placed depth (assignment constant l.value) = [line] ∧
    assignment? line = some (constant.toList, l.value.toList)) constants literals
  names : wireNames literals ≠ [] → ∃ line, placed depth (returnLine (wireNames literals)) = [line] ∧
    table? line = some ((wireNames literals).map characters)

theorem mem_wireNames {literals : List EnumLiteral} {e : String × String} : e ∈ wireNames literals ↔
    ∃ l ∈ literals, l.metadata.lookup wireNameKey = some e.2 ∧ l.constant = e.1 := by
  rw [wireNames, List.mem_filterMap]
  constructor
  · rintro ⟨l, hl, he⟩
    obtain ⟨wire, hwire, rfl⟩ := Option.map_eq_some_iff.1 he
    exact ⟨l, hl, hwire, rfl⟩
  · rintro ⟨l, hl, hwire, hconstant⟩
    exact ⟨l, hl, by rw [hwire, hconstant]; rfl⟩

theorem survives_constant {constants : List String} {literals : List EnumLiteral}
    (h : List.Forall₂ (fun constant l => identifier l.constant = .ok constant) constants literals) {depth : Nat}
    {e : String × String} (he : e ∈ wireNames literals) : Survives depth e.1 := by
  obtain ⟨l, hl, -, hconstant⟩ := mem_wireNames.1 he
  obtain ⟨constant, -, hspelled⟩ := Outcome.exists_of_forall₂ h hl
  rw [← hconstant]
  exact survives_of_unbroken fun c hc => unbroken_of_identifier hspelled c (mem_of_identifier hspelled hc)

theorem values_iff {depth : Nat} {constants : List String} {literals : List EnumLiteral}
    (h : List.Forall₂ (fun constant l => identifier l.constant = .ok constant) constants literals) :
    List.Forall₂ (fun constant l => ∃ line, placed depth (assignment constant l.value) = [line] ∧
      assignment? line = some (constant.toList, l.value.toList)) constants literals ↔
      ∀ l ∈ literals, Survives depth l.value := by
  induction h with
  | nil => simp
  | cons hconstant _ ih => rw [List.forall₂_cons, List.forall_mem_cons, assignment_survives_iff hconstant, ih]

theorem names_iff {depth : Nat} {constants : List String} {literals : List EnumLiteral}
    (h : List.Forall₂ (fun constant l => identifier l.constant = .ok constant) constants literals) :
    (wireNames literals ≠ [] → ∃ line, placed depth (returnLine (wireNames literals)) = [line] ∧
      table? line = some ((wireNames literals).map characters)) ↔
      ∀ l ∈ literals, ∀ wire, l.metadata.lookup wireNameKey = some wire → Survives depth wire := by
  have hentries : (∀ e ∈ wireNames literals, Survives depth e.2) ↔
      ∀ l ∈ literals, ∀ wire, l.metadata.lookup wireNameKey = some wire → Survives depth wire :=
    ⟨fun hall l hl wire hwire => hall (l.constant, wire) (mem_wireNames.2 ⟨l, hl, hwire, rfl⟩), fun hall e he => by
      obtain ⟨l, hl, hwire, -⟩ := mem_wireNames.1 he
      exact hall l hl e.2 hwire⟩
  have hkeys : ∀ e ∈ wireNames literals, Survives depth e.1 := fun _ => survives_constant h
  rw [← hentries]
  cases hwires : wireNames literals with
  | nil => simp
  | cons e more =>
      rw [hwires] at hkeys
      rw [← table_survives_iff hkeys]
      exact ⟨fun hread => hread (List.cons_ne_nil e more), fun hread _ => hread⟩

theorem readBack_iff {depth : Nat} {constants : List String} {literals : List EnumLiteral}
    (h : List.Forall₂ (fun constant l => identifier l.constant = .ok constant) constants literals) :
    ReadBack depth constants literals ↔ depth = 0 ∨ ∀ l ∈ literals, (∀ c ∈ l.value.toList, ¬IsSeparator c) ∧
      ∀ wire, l.metadata.lookup wireNameKey = some wire → ∀ c ∈ wire.toList, ¬IsSeparator c := by
  have hparts : ReadBack depth constants literals ↔ ∀ l ∈ literals, Survives depth l.value ∧
      ∀ wire, l.metadata.lookup wireNameKey = some wire → Survives depth wire := by
    constructor
    · exact fun hread l hl => ⟨(values_iff h).1 hread.values l hl, (names_iff h).1 hread.names l hl⟩
    · exact fun hall => ⟨(values_iff h).2 fun l hl => (hall l hl).1, (names_iff h).2 fun l hl => (hall l hl).2⟩
  rw [hparts]
  simp only [survives_iff]
  by_cases hdepth : depth = 0
  · simp [hdepth]
  · simp [hdepth]

/-- The constants of an enumeration and the names of its literals in documents survive rendering at the top of a
package, and in types as long as no separator is in them. -/
theorem literals_survive_iff {t : Tree} {files : Entries RelativePath String} (hrender : render t = .ok files)
    {unit : String × Declaration} (hunit : unit ∈ t.units) {name : QualifiedName} {doc : Doc}
    {literals : List EnumLiteral} {depth : Nat} (hinside : Inside (.enumeration name doc literals) depth unit.2) :
    ∃ file ∈ files, IsModule unit.1 unit.2 file ∧ ∃ className constants before after,
      identifier name.name = .ok className ∧
      List.Forall₂ (fun constant l => identifier l.constant = .ok constant) constants literals ∧
      physicalLines file.2.toList =
        before ++ (statements className doc constants literals).flatMap (placed depth) ++ after ∧
      (ReadBack depth constants literals ↔ depth = 0 ∨ ∀ l ∈ literals, (∀ c ∈ l.value.toList, ¬IsSeparator c) ∧
        ∀ wire, l.metadata.lookup wireNameKey = some wire → ∀ c ∈ wire.toList, ¬IsSeparator c) := by
  obtain ⟨file, hfile, hmodule⟩ := (render_ok hrender).2 unit hunit (hinside.isSome rfl)
  obtain ⟨home, htext⟩ := hmodule.exists_moduleText
  obtain ⟨className, constants, before, after, hname, hconstants, hlines⟩ := physicalLines_of_inside htext hinside
  exact ⟨file, hfile, hmodule, className, constants, before, after, hname, hconstants, hlines, readBack_iff hconstants⟩

def sampleLiterals (literal : String) : List EnumLiteral :=
  [⟨literal, "RED", literal, [(wireNameKey, literal)]⟩]

def nestedSample (literal : String) : Tree :=
  ⟨[("palette", ⟨[.type ⟨"palette", "Paint", [], none⟩ ⟨none, none⟩ .plain
    [.enumeration ⟨"palette", "Colour", ["Paint"], none⟩ ⟨none, none⟩ (sampleLiterals literal)]], []⟩)]⟩

theorem identifier_red : identifier "RED" = .ok "RED" := by
  decide +kernel

theorem identifier_colour : identifier "Colour" = .ok "Colour" := by
  decide +kernel

theorem constants_sample {literal : String} {constants : List String}
    (h : List.Forall₂ (fun constant l => identifier l.constant = .ok constant) constants (sampleLiterals literal)) :
    constants = ["RED"] := by
  obtain ⟨constant, none, hconstant, hnone, rfl⟩ := List.forall₂_cons_right_iff.1 h
  obtain rfl := List.forall₂_nil_right_iff.1 hnone
  obtain rfl := Except.ok.inj (hconstant.symm.trans identifier_red)
  rfl

theorem literals_survive_sample : ∃ files, render (nestedSample "\"red\"\n") = .ok files ∧
    ∃ file ∈ files, ∃ before after, physicalLines file.2.toList =
        before ++ (statements "Colour" ⟨none, none⟩ ["RED"] (sampleLiterals "\"red\"\n")).flatMap (placed 1) ++ after ∧
      ReadBack 1 ["RED"] (sampleLiterals "\"red\"\n") := by
  obtain ⟨files, hrender⟩ := Outcome.exists_ok_of_isSome (x := render (nestedSample "\"red\"\n")) (by decide +kernel)
  obtain ⟨file, hfile, -, className, constants, before, after, hname, hconstants, hlines, hread⟩ :=
    literals_survive_iff hrender (show ("palette", _) ∈ (nestedSample _).units from .head _) (.member (.head _) .here)
  obtain rfl := constants_sample hconstants
  obtain rfl := Except.ok.inj (identifier_colour.symm.trans hname)
  have hclear : ("\"red\"\n".toList.all fun c => decide (¬IsSeparator c)) = true := rfl
  have hkept : ∀ c ∈ "\"red\"\n".toList, ¬IsSeparator c := fun c hc => of_decide_eq_true (List.all_eq_true.1 hclear c hc)
  refine ⟨files, hrender, file, hfile, before, after, hlines, hread.2 (.inr fun l hl => ?_)⟩
  obtain rfl := List.mem_singleton.1 hl
  exact ⟨hkept, fun wire hwire => Option.some.inj hwire ▸ hkept⟩

/-- A separator in the value of a nested enumeration breaks the line of its constant. -/
theorem separator_breaks_constant : ∃ files, render (nestedSample "red\u2028") = .ok files ∧
    ∃ file ∈ files, ∃ before after, physicalLines file.2.toList =
        before ++ (statements "Colour" ⟨none, none⟩ ["RED"] (sampleLiterals "red\u2028")).flatMap (placed 1) ++ after ∧
      ¬∃ line, placed 1 (assignment "RED" "red\u2028") = [line] ∧
        assignment? line = some ("RED".toList, "red\u2028".toList) := by
  obtain ⟨files, hrender⟩ := Outcome.exists_ok_of_isSome (x := render (nestedSample "red\u2028")) (by decide +kernel)
  obtain ⟨file, hfile, hmodule⟩ := (render_ok hrender).2 ("palette", _) (.head _) rfl
  obtain ⟨home, htext⟩ := hmodule.exists_moduleText
  obtain ⟨className, constants, before, after, hname, hconstants, hlines⟩ :=
    physicalLines_of_inside htext (.member (.head _) .here)
  obtain rfl := constants_sample hconstants
  obtain rfl := Except.ok.inj (identifier_colour.symm.trans hname)
  refine ⟨files, hrender, file, hfile, before, after, hlines, ?_⟩
  rw [assignment_survives_iff identifier_red, survives_iff]
  rintro (hdepth | hclear)
  · cases hdepth
  · exact hclear '\u2028' (by decide) (by decide)

end TopicBindings.Source
