import TopicBindings.Proofs.Entries
import TopicBindings.Source.Module

/-!
What a generated enumeration is when its module has run. The language puts identifiers into a normal form when it reads
them, while the table of names in documents has each constant as it is spelled. So the two methods of the class are
inverse to each other exactly if the constants are in normal form.
-/

namespace TopicBindings.Source

open Declaration (EnumLiteral)

/-- Why a member has no name, or a name no member. -/
inductive WireFault where
  | noEntry (member : String)
  | invalidName (wire : String)
  deriving DecidableEq

/-- The class of an enumeration when its module has run: its members, and the table of their names in documents. -/
structure EnumClass where
  members : List String
  table : List (String × String)
  deriving DecidableEq

namespace EnumClass

/-- The members among named values. Another name for a value is no member of its own. -/
def memberNames (seen : List String) : List (String × String) → List String
  | [] => []
  | (name, value) :: rest =>
      if value ∈ seen then memberNames seen rest else name :: memberNames (value :: seen) rest

/-- The class of some constants and literals, where `canon s` is the normal form of the identifier `s`. The language
accepts no name twice, and there are no methods without names in documents. -/
def read? (canon : String → String) (constants : List String) (literals : List EnumLiteral) : Option EnumClass :=
  if (constants.map canon).Nodup ∧ wireNames literals ≠ [] then
    some ⟨memberNames [] ((constants.map canon).zip (literals.map EnumLiteral.value)), wireNames literals⟩
  else none

def wireName (c : EnumClass) (member : String) : Except WireFault String :=
  match c.table.lookup member with
  | some wire => .ok wire
  | none => .error (.noEntry member)

def search (c : EnumClass) (wire : String) : List String → Except WireFault String
  | [] => .error (.invalidName wire)
  | member :: rest => do
      if (← c.wireName member) = wire then return member
      c.search wire rest

def fromWire (c : EnumClass) (wire : String) : Except WireFault String :=
  c.search wire c.members

/-- The two methods are inverse to each other on the members and some literals, and nothing else is the name of a
member. -/
structure Inverts (c : EnumClass) (literals : List String) : Prop where
  member : ∀ m ∈ c.members, ∃ wire, c.wireName m = .ok wire ∧ c.fromWire wire = .ok m
  literal : ∀ l ∈ literals, ∃ m ∈ c.members, c.fromWire l = .ok m ∧ c.wireName m = .ok l
  other : ∀ wire, wire ∉ literals → c.fromWire wire = .error (.invalidName wire)

section Class

variable {c : EnumClass}

theorem memberNames_of_nodup {named : List (String × String)} {seen : List String} (h : (named.map Prod.snd).Nodup)
    (hseen : ∀ entry ∈ named, entry.2 ∉ seen) : memberNames seen named = named.map Prod.fst := by
  induction named generalizing seen with
  | nil => rfl
  | cons entry rest ih =>
      obtain ⟨name, value⟩ := entry
      rw [List.map_cons, List.nodup_cons] at h
      rw [memberNames, if_neg (hseen _ (.head _)), List.map_cons, ih h.2]
      intro other hother hmem
      rcases List.mem_cons.1 hmem with heq | hmem
      · exact h.1 (List.mem_map.2 ⟨other, hother, heq⟩)
      · exact hseen other (.tail _ hother) hmem

theorem search_eq {entries : List (String × String)} (h : ∀ e ∈ entries, c.wireName e.1 = .ok e.2) (wire : String) :
    c.search wire (entries.map Prod.fst) = match entries.find? (fun e => e.2 = wire) with
      | some e => .ok e.1
      | none => .error (.invalidName wire) := by
  induction entries with
  | nil => rfl
  | cons e rest ih =>
      rw [List.map_cons, search, h e (.head _)]
      by_cases hwire : e.2 = wire
      · simp [hwire, bind, Except.bind, pure, Except.pure]
      · have hrest := ih fun other hother => h other (.tail _ hother)
        simpa [hwire, bind, Except.bind, pure, Except.pure] using hrest

theorem inverts_of_members {entries : List (String × String)} (hkeys : (entries.map Prod.fst).Nodup)
    (hnames : (entries.map Prod.snd).Nodup) : Inverts ⟨entries.map Prod.fst, entries⟩ (entries.map Prod.snd) := by
  let c : EnumClass := ⟨entries.map Prod.fst, entries⟩
  have hwire : ∀ e ∈ entries, c.wireName e.1 = .ok e.2 := fun e he => by
    rw [wireName, Entries.lookup_of_mem hkeys he]
  have hfound : ∀ e ∈ entries, c.fromWire e.2 = .ok e.1 := fun e he => by
    rw [fromWire, search_eq hwire]
    cases hfind : entries.find? (fun f => f.2 = e.2) with
    | some f =>
        have hsame : f.2 = e.2 := by simpa using List.find?_some hfind
        rw [List.inj_on_of_nodup_map hnames (List.mem_of_find?_eq_some hfind) he hsame]
    | none => simpa using List.find?_eq_none.1 hfind e he
  -- Both directions go through the entry: no constant and no name stands in two of them.
  refine ⟨fun m hm => ?_, fun l hl => ?_, fun wire hother => ?_⟩
  · obtain ⟨e, he, rfl⟩ := List.mem_map.1 hm
    exact ⟨e.2, hwire e he, hfound e he⟩
  · obtain ⟨e, he, rfl⟩ := List.mem_map.1 hl
    exact ⟨e.1, List.mem_map_of_mem he, hfound e he, hwire e he⟩
  · have hnone : entries.find? (fun e => e.2 = wire) = none := by
      refine List.find?_eq_none.2 fun e he heq => hother ?_
      rw [← of_decide_eq_true heq]
      exact List.mem_map_of_mem he
    exact (search_eq hwire wire).trans (by rw [hnone])

theorem read?_eq_some_iff {canon : String → String} {constants : List String} {literals : List EnumLiteral}
    (hlength : constants.length = literals.length) (hvalues : (literals.map EnumLiteral.value).Nodup) :
    read? canon constants literals = some c ↔ (constants.map canon).Nodup ∧ wireNames literals ≠ [] ∧
      c = ⟨constants.map canon, wireNames literals⟩ := by
  have hnamed : ((constants.map canon).zip (literals.map EnumLiteral.value)).map Prod.fst = constants.map canon :=
    List.map_fst_zip (by simp [hlength])
  have hvalued : ((constants.map canon).zip (literals.map EnumLiteral.value)).map Prod.snd =
      literals.map EnumLiteral.value := List.map_snd_zip (by simp [hlength])
  have hmembers := memberNames_of_nodup (hvalued.symm ▸ hvalues) (fun _ _ => List.not_mem_nil)
  rw [read?, hmembers, hnamed]
  split
  next h => simp [h, eq_comm]
  next h => exact iff_of_false (by simp) fun hc => h ⟨hc.1, hc.2.1⟩

theorem inverts_iff {canon : String → String} (hcanon : ∀ s, canon (canon s) = canon s)
    {entries : List (String × String)} {constants literals : List String} (hkeys : entries.map Prod.fst = constants)
    (hnames : entries.map Prod.snd = literals) (hconstants : constants.Nodup) (hliterals : literals.Nodup)
    (hread : (constants.map canon).Nodup) :
    Inverts ⟨constants.map canon, entries⟩ literals ↔ ∀ name ∈ constants, canon name = name := by
  subst hkeys hnames
  constructor
  · intro h name hname
    obtain ⟨wire, hwire, -⟩ := h.member _ (List.mem_map_of_mem hname)
    -- The normal form has an entry, so it is a constant; its own normal form is that of this one.
    have hlookup : entries.lookup (canon name) = some wire := by
      rw [wireName] at hwire
      split at hwire
      next found hfound => rw [hfound, Except.ok.inj hwire]
      · cases hwire
    have hconstant : canon name ∈ entries.map Prod.fst := List.mem_map_of_mem (Entries.mem_of_lookup hlookup)
    exact List.inj_on_of_nodup_map hread hconstant hname (hcanon name)
  · intro h
    have hsame : (entries.map Prod.fst).map canon = entries.map Prod.fst :=
      (List.map_congr_left h).trans (List.map_id _)
    rw [hsame]
    exact inverts_of_members hconstants hliterals

theorem exists_inverts_iff {canon : String → String} (hcanon : ∀ s, canon (canon s) = canon s)
    {constants literals : List String} {entries : List EnumLiteral} (hlength : constants.length = entries.length)
    (hvalues : (entries.map EnumLiteral.value).Nodup) (hkeys : (wireNames entries).map Prod.fst = constants)
    (hnames : (wireNames entries).map Prod.snd = literals) (hconstants : constants.Nodup) (hliterals : literals.Nodup) :
    (∃ c, read? canon constants entries = some c ∧ c.Inverts literals) ↔
      literals ≠ [] ∧ ∀ name ∈ constants, canon name = name := by
  have hsome : wireNames entries ≠ [] ↔ literals ≠ [] := by
    rw [← hnames, ne_eq, ne_eq, List.map_eq_nil_iff]
  constructor
  · rintro ⟨c, hread, hinverts⟩
    obtain ⟨hdistinct, htable, rfl⟩ := (read?_eq_some_iff hlength hvalues).1 hread
    exact ⟨hsome.1 htable, (inverts_iff hcanon hkeys hnames hconstants hliterals hdistinct).1 hinverts⟩
  · rintro ⟨hlisted, hfixed⟩
    have hdistinct : (constants.map canon).Nodup := by
      rwa [(List.map_congr_left hfixed).trans (List.map_id _)]
    exact ⟨_, (read?_eq_some_iff hlength hvalues).2 ⟨hdistinct, hsome.2 hlisted, rfl⟩,
      (inverts_iff hcanon hkeys hnames hconstants hliterals hdistinct).2 hfixed⟩

end Class

end EnumClass

end TopicBindings.Source
