import TopicBindings.File.Store
import TopicBindings.Proofs.Outcome

/-!
What the operations on a store leave behind. A store never loses a directory; making directories adds some on
the way to a path, and writing files changes the places of their paths besides.
-/

namespace TopicBindings.File

def Path.take (p : Path) (n : Nat) : Path :=
  ⟨p.root, p.parts.take n⟩

namespace Store

def stepInto (here : Location) (part : String) : Location :=
  if part = ".." then here.dropLast else here ++ [part]

def start (s : Store) (p : Path) : Location :=
  if p.isAbsolute then [] else s.working

/-- Where a path leads, whatever lies on the way. -/
def place (s : Store) (p : Path) : Location :=
  p.parts.foldl stepInto (s.start p)

def OnTheWay (s : Store) (p : Path) (place : Location) : Prop :=
  ∃ n < p.parts.length, place = s.place (p.take n)

variable {s s' : Store} {p : Path}

theorem place_congr (h : s'.working = s.working) (p : Path) : s'.place p = s.place p := by
  rw [place, place, start, start, h]

/-- Below a path, parts that do not lead upwards only get longer. -/
theorem place_append {parts : List String} (h : ".." ∉ parts) :
    s.place (p.append parts) = s.place p ++ parts := by
  have hsteps : ∀ here : Location, parts.foldl stepInto here = here ++ parts := by
    induction parts with
    | nil =>
        intro here
        rw [List.append_nil]
        rfl
    | cons part rest ih =>
        intro here
        have hpart : part ≠ ".." := fun he => h (he ▸ .head _)
        rw [List.foldl_cons, ih fun hm => h (.tail _ hm), stepInto, if_neg hpart, List.append_assoc]
        rfl
  have hstart : s.start (p.append parts) = s.start p := rfl
  rw [place, place, hstart, Path.append, List.foldl_append, hsteps]

theorem walk_ok {here found : Location} {parts : List String} (h : s.walk here parts = .ok found) :
    found = parts.foldl stepInto here ∧
      ∀ n < parts.length, s.item? ((parts.take n).foldl stepInto here) = some .directory := by
  induction parts generalizing here with
  | nil =>
      obtain rfl := Except.ok.inj h
      exact ⟨rfl, fun n hn => by cases hn⟩
  | cons part rest ih =>
      rw [walk] at h
      cases hitem : s.item? here with
      | none =>
          rw [hitem] at h
          cases h
      | some item =>
          rw [hitem] at h
          cases item with
          | file bytes => cases h
          | directory =>
              dsimp only at h
              split at h
              · cases h
              · obtain ⟨hfound, hway⟩ := ih h
                refine ⟨hfound, fun n hn => ?_⟩
                cases n with
                | zero => exact hitem
                | succ n => exact hway n (Nat.lt_of_succ_lt_succ hn)

theorem walk_mono (hdirectories : ∀ place, s.item? place = some .directory → s'.item? place = some .directory)
    {here found : Location} {parts : List String} (h : s.walk here parts = .ok found) :
    s'.walk here parts = .ok found := by
  induction parts generalizing here with
  | nil => exact h
  | cons part rest ih =>
      rw [walk] at h ⊢
      cases hitem : s.item? here with
      | none =>
          rw [hitem] at h
          cases h
      | some item =>
          rw [hitem] at h
          cases item with
          | file bytes => cases h
          | directory =>
              -- A walk needs directories on its way and nothing else, and these stay.
              rw [hdirectories here hitem]
              dsimp only at h ⊢
              split at h
              · cases h
              next hshort =>
                rw [if_neg hshort]
                exact ih h

theorem locate_ok {found : Location} (h : s.locate p = .ok found) :
    found = s.place p ∧ ∀ place, s.OnTheWay p place → s.item? place = some .directory := by
  rw [locate] at h
  split at h
  · cases h
  · split at h
    · cases h
    · obtain ⟨hfound, hway⟩ := walk_ok h
      refine ⟨hfound, ?_⟩
      rintro place ⟨n, hn, rfl⟩
      exact hway n hn

theorem locate_mono (hworking : s'.working = s.working)
    (hdirectories : ∀ place, s.item? place = some .directory → s'.item? place = some .directory)
    {found : Location} (h : s.locate p = .ok found) : s'.locate p = .ok found := by
  rw [locate, hworking]
  rw [locate] at h
  split at h
  · cases h
  next hnull =>
    split at h
    · cases h
    next hlong =>
      rw [if_neg hnull, if_neg hlong]
      exact walk_mono hdirectories h

theorem find?_eq_some {item : Item} :
    s.find? p = some item ↔ s.locate p = .ok (s.place p) ∧ s.item? (s.place p) = some item := by
  rw [find?]
  cases hfound : s.locate p with
  | error refusal => simp
  | ok found =>
      obtain ⟨rfl, -⟩ := locate_ok hfound
      simp

theorem item?_put_self {place : Location} (h : place ≠ []) (item : Item) :
    (s.put place item).item? place = some item := by
  rw [item?, if_neg (by simpa using h)]
  exact Entries.lookup_set_self place item s.items

theorem item?_put_other {place other : Location} (h : other ≠ place) (item : Item) :
    (s.put place item).item? other = s.item? other := by
  rw [item?, item?]
  split
  · rfl
  · exact Entries.lookup_set_other h item s.items

theorem ne_nil_of_item {place : Location} (h : s.item? place ≠ some .directory) : place ≠ [] := by
  rintro rfl
  exact h rfl

/-- A later store has more directories, at places with a property, and is the same otherwise. -/
structure Grown (P : Location → Prop) (s s' : Store) : Prop where
  working : s'.working = s.working
  items : ∀ place, s'.item? place = s.item? place ∨
    (s.item? place = none ∧ s'.item? place = some .directory ∧ P place)

namespace Grown

variable {P Q : Location → Prop} {s'' : Store}

theorem refl (P : Location → Prop) (s : Store) : Grown P s s :=
  ⟨rfl, fun _ => .inl rfl⟩

theorem trans (h : Grown P s s') (h' : Grown P s' s'') : Grown P s s'' := by
  refine ⟨h'.working.trans h.working, fun place => ?_⟩
  rcases h'.items place with hsame | ⟨hnone, hdirectory, hP⟩
  · rcases h.items place with hsame' | ⟨hnone, hdirectory, hP⟩
    · exact .inl (hsame.trans hsame')
    · exact .inr ⟨hnone, hsame.trans hdirectory, hP⟩
  · rcases h.items place with hsame | ⟨-, hdirectory', -⟩
    · exact .inr ⟨hsame ▸ hnone, hdirectory, hP⟩
    · rw [hnone] at hdirectory'
      cases hdirectory'

theorem mono (h : Grown P s s') (hPQ : ∀ place, P place → Q place) : Grown Q s s' := by
  refine ⟨h.working, fun place => ?_⟩
  rcases h.items place with hsame | ⟨hnone, hdirectory, hP⟩
  · exact .inl hsame
  · exact .inr ⟨hnone, hdirectory, hPQ place hP⟩

theorem keeps (h : Grown P s s') {place : Location} {item : Item} (hitem : s.item? place = some item) :
    s'.item? place = some item := by
  rcases h.items place with hsame | ⟨hnone, -, -⟩
  · rw [hsame, hitem]
  · rw [hitem] at hnone
    cases hnone

end Grown

theorem grown_of_makeDirectory (h : makeDirectory p s = .ok s') : Grown (· = s.place p) s s' := by
  obtain ⟨found, hfound, h⟩ := Outcome.bind_ok.1 h
  obtain ⟨rfl, -⟩ := locate_ok hfound
  cases hitem : s.item? (s.place p) with
  | some item =>
      rw [hitem] at h
      cases h
  | none =>
      rw [hitem] at h
      obtain rfl := Except.ok.inj h
      have hfree : s.item? (s.place p) ≠ some .directory := by simp [hitem]
      refine ⟨rfl, fun place => ?_⟩
      by_cases hplace : place = s.place p
      · subst hplace
        exact .inr ⟨hitem, item?_put_self (ne_nil_of_item hfree) _, rfl⟩
      · exact .inl (item?_put_other hplace _)

theorem run_bind {α β : Type} (x : StateM Store α) (f : α → StateM Store β) (s : Store) :
    (x >>= f).run s = (f (x.run s).1).run (x.run s).2 :=
  rfl

theorem run_get (s : Store) : (get : StateM Store Store).run s = (s, s) :=
  rfl

theorem run_attempt_ok {change : Store → Except Refusal Store} (h : change s = .ok s') :
    (attempt change).run s = (.ok (), s') := by
  rw [attempt, run_bind, run_get, h]
  rfl

theorem run_attempt_error {change : Store → Except Refusal Store} {refusal : Refusal}
    (h : change s = .error refusal) : (attempt change).run s = (.error refusal, s) := by
  rw [attempt, run_bind, run_get, h]
  rfl

variable {outcome : Except Obstacle Unit}

theorem grown_of_ensureDirectory (h : (disk.ensureDirectory p).run s = (outcome, s')) :
    Grown (· = s.place p) s s' := by
  rw [Disk.ensureDirectory, run_bind] at h
  cases hmade : makeDirectory p s with
  | ok after =>
      have hrun : (disk.makeDirectory p).run s = (.ok (), after) := run_attempt_ok hmade
      rw [hrun] at h
      obtain ⟨-, rfl⟩ := Prod.mk.inj h
      exact grown_of_makeDirectory hmade
  | error refusal =>
      have hrun : (disk.makeDirectory p).run s = (.error refusal, s) := run_attempt_error hmade
      rw [hrun] at h
      have hstill : s' = s := by
        dsimp only at h
        split at h
        · exact (Prod.mk.inj h).2.symm
        · rw [run_bind] at h
          have hlook : ((disk.isDirectory p).run s).2 = s := rfl
          rw [hlook] at h
          split at h
          · exact (Prod.mk.inj h).2.symm
          · exact (Prod.mk.inj h).2.symm
      rw [hstill]
      exact .refl _ _

theorem take_parent (p : Path) (n : Nat) :
    p.parent.take n = p.take (min n (p.parts.length - 1)) := by
  simp only [Path.take, Path.parent, List.dropLast_eq_take, List.take_take]

theorem take_length (p : Path) : p.take p.parts.length = p := by
  rw [Path.take, List.take_length]

def OnPath (s : Store) (p : Path) (place : Location) : Prop :=
  ∃ n ≤ p.parts.length, place = s.place (p.take n)

theorem onPath_self (h : s'.working = s.working) (p : Path) : s.OnPath p (s'.place p) :=
  ⟨_, Nat.le_refl _, by rw [take_length, place_congr h]⟩

theorem onPath_of_parent (h : s'.working = s.working) {place : Location}
    (hplace : s'.OnPath p.parent place) : s.OnPath p place := by
  obtain ⟨n, -, rfl⟩ := hplace
  refine ⟨min n (p.parts.length - 1), by omega, ?_⟩
  rw [take_parent, place_congr h]

theorem onTheWay_of_onPath {place : Location} (h : s.OnPath p place) (hne : place ≠ s.place p) :
    s.OnTheWay p place := by
  obtain ⟨n, hn, rfl⟩ := h
  refine ⟨n, Nat.lt_of_le_of_ne hn ?_, rfl⟩
  rintro rfl
  exact hne (by rw [take_length])

theorem grown_of_makeDirectories (levels : Nat) {p : Path} {s s' : Store} {outcome : Except Obstacle Unit}
    (h : (disk.makeDirectories levels p).run s = (outcome, s')) : Grown (s.OnPath p) s s' := by
  -- The bound on the way up is used once for every directory that has to be made around this one.
  induction levels generalizing p outcome s s' with
  | zero =>
      refine (grown_of_ensureDirectory h).mono ?_
      rintro place rfl
      exact onPath_self rfl p
  | succ levels ih =>
      rw [Disk.makeDirectories, run_bind] at h
      rcases hfirst : (disk.ensureDirectory p).run s with ⟨first, s₁⟩
      have hgrown : Grown (s.OnPath p) s s₁ := by
        refine (grown_of_ensureDirectory hfirst).mono ?_
        rintro place rfl
        exact onPath_self rfl p
      rw [hfirst] at h
      cases first with
      | ok _ =>
          obtain ⟨-, rfl⟩ := Prod.mk.inj h
          exact hgrown
      | error obstacle =>
          obtain ⟨refusal, path⟩ := obstacle
          cases refusal with
          | noEntry =>
              dsimp only at h
              rw [run_bind] at h
              rcases hsecond : (disk.makeDirectories levels p.parent).run s₁ with ⟨second, s₂⟩
              have hgrown' : Grown (s.OnPath p) s s₂ :=
                hgrown.trans ((ih hsecond).mono fun place => onPath_of_parent hgrown.working)
              rw [hsecond] at h
              cases second with
              | error obstacle =>
                  obtain ⟨-, rfl⟩ := Prod.mk.inj h
                  exact hgrown'
              | ok _ =>
                  refine hgrown'.trans ((grown_of_ensureDirectory h).mono ?_)
                  rintro place rfl
                  exact onPath_self hgrown'.working p
          | _ =>
              obtain ⟨-, rfl⟩ := Prod.mk.inj h
              exact hgrown

theorem writeBytes_ok {bytes : List UInt8} (h : writeBytes p bytes s = .ok s') :
    s.locate p = .ok (s.place p) ∧ s.item? (s.place p) ≠ some .directory ∧
      s' = s.put (s.place p) (.file bytes) := by
  obtain ⟨found, hfound, h⟩ := Outcome.bind_ok.1 h
  obtain ⟨rfl, -⟩ := locate_ok hfound
  refine ⟨hfound, ?_⟩
  cases hitem : s.item? (s.place p) with
  | none =>
      rw [hitem] at h
      obtain rfl := Except.ok.inj h
      exact ⟨by simp, rfl⟩
  | some item =>
      rw [hitem] at h
      cases item with
      | directory => cases h
      | file old =>
          obtain rfl := Except.ok.inj h
          exact ⟨by simp, rfl⟩

/-- Files were written, in directories that were made where they were missing. -/
structure Wrote (contents : List (Path × List UInt8)) (s s' : Store) : Prop where
  working : s'.working = s.working
  held : ∀ file ∈ contents, s'.find? file.1 = some (.file file.2)
  directories : ∀ place, s.item? place = some .directory → s'.item? place = some .directory
  others : ∀ place, (∀ file ∈ contents, place ≠ s.place file.1) → s'.item? place = s.item? place ∨
    (s.item? place = none ∧ s'.item? place = some .directory ∧ ∃ file ∈ contents, s.OnTheWay file.1 place)

namespace Wrote

variable {contents more : List (Path × List UInt8)} {s'' : Store}

theorem nil (s : Store) : Wrote [] s s :=
  ⟨rfl, by simp, fun _ h => h, fun _ _ => .inl rfl⟩

theorem of_grown {bytes : List UInt8} (hgrown : Grown (s.OnPath p) s s')
    (h : writeBytes p bytes s' = .ok s'') : Wrote [(p, bytes)] s s'' := by
  obtain ⟨hfound, hfile, rfl⟩ := writeBytes_ok h
  have hplace := place_congr hgrown.working p
  have hkept : ∀ place, s'.item? place = some .directory →
      (s'.put (s'.place p) (.file bytes)).item? place = some .directory := by
    intro place hdirectory
    have hne : place ≠ s'.place p := by
      rintro rfl
      exact hfile hdirectory
    rw [item?_put_other hne, hdirectory]
  have hworking : (s'.put (s'.place p) (.file bytes)).working = s'.working := rfl
  -- Directories were made before the file was put in its place, which none of them is.
  refine ⟨hgrown.working, fun file hf => ?_, fun place hdirectory => ?_, fun place hne => ?_⟩
  · obtain rfl := List.mem_singleton.1 hf
    have hlocated := locate_mono hworking hkept hfound
    exact find?_eq_some.2 ⟨hlocated, item?_put_self (ne_nil_of_item hfile) _⟩
  · exact hkept place (hgrown.keeps hdirectory)
  · have hne := hne _ (.head _)
    have hother : (s'.put (s'.place p) (.file bytes)).item? place = s'.item? place :=
      item?_put_other (hplace ▸ hne) _
    rw [hother]
    rcases hgrown.items place with hsame | ⟨hnone, hdirectory, hway⟩
    · exact .inl hsame
    · exact .inr ⟨hnone, hdirectory, _, .head _, onTheWay_of_onPath hway hne⟩

/-- Writing files and then others writes all of them if no two paths lead to one place. -/
theorem append (h : Wrote contents s s') (h' : Wrote more s' s'')
    (hapart : ∀ file ∈ contents, ∀ other ∈ more, s.place file.1 ≠ s.place other.1) :
    Wrote (contents ++ more) s s'' := by
  refine ⟨h'.working.trans h.working, fun file hf => ?_, fun place hdirectory => ?_, fun place hne => ?_⟩
  · rcases List.mem_append.1 hf with hf | hf
    · obtain ⟨hlocated, hitem⟩ := find?_eq_some.1 (h.held file hf)
      have hlater : s''.locate file.1 = .ok (s'.place file.1) :=
        locate_mono h'.working h'.directories hlocated
      have hothers : ∀ other ∈ more, s'.place file.1 ≠ s'.place other.1 := by
        intro other ho
        rw [place_congr h.working, place_congr h.working]
        exact hapart file hf other ho
      rcases h'.others _ hothers with hsame | ⟨hnone, -, -⟩
      · rw [← place_congr h'.working file.1] at hlater hsame
        exact find?_eq_some.2 ⟨hlater, by rw [hsame, place_congr h'.working, hitem]⟩
      · rw [hitem] at hnone
        cases hnone
    · exact h'.held file hf
  · exact h'.directories place (h.directories place hdirectory)
  · have hbefore := h.others place fun file hf => hne file (List.mem_append_left _ hf)
    have hafter := h'.others place fun file hf => by
      rw [place_congr h.working]
      exact hne file (List.mem_append_right _ hf)
    -- What the later files have changed was not there after the earlier ones, so it was not made by these.
    rcases hafter with hsame | ⟨hnone, hdirectory, file, hf, hway⟩
    · rcases hbefore with hsame' | ⟨hnone, hdirectory, file, hf, hway⟩
      · exact .inl (hsame.trans hsame')
      · exact .inr ⟨hnone, hsame.trans hdirectory, file, List.mem_append_left _ hf, hway⟩
    · rcases hbefore with hsame | ⟨-, hdirectory', -⟩
      · obtain ⟨n, hn, hplace⟩ := hway
        refine .inr ⟨hsame ▸ hnone, hdirectory, file, List.mem_append_right _ hf, n, hn, ?_⟩
        rw [hplace, place_congr h.working]
      · rw [hnone] at hdirectory'
        cases hdirectory'

/-- Writing files changes nothing just when the paths lead to files of these contents already. -/
theorem unchanged_iff (h : Wrote contents s s') :
    (∀ place, s'.item? place = s.item? place) ↔
      ∀ file ∈ contents, s.find? file.1 = some (.file file.2) := by
  constructor
  · intro hsame file hf
    obtain ⟨hlocated, hitem⟩ := find?_eq_some.1 (h.held file hf)
    have hearlier : s.locate file.1 = .ok (s'.place file.1) :=
      locate_mono h.working.symm (fun place hdirectory => by rw [← hsame, hdirectory]) hlocated
    rw [place_congr h.working] at hearlier hitem
    exact find?_eq_some.2 ⟨hearlier, by rw [← hsame, hitem]⟩
  · intro hheld place
    by_cases hplace : ∃ file ∈ contents, place = s.place file.1
    · obtain ⟨file, hf, rfl⟩ := hplace
      obtain ⟨-, hitem⟩ := find?_eq_some.1 (hheld file hf)
      obtain ⟨-, hitem'⟩ := find?_eq_some.1 (h.held file hf)
      rw [place_congr h.working] at hitem'
      rw [hitem, hitem']
    · have hne : ∀ file ∈ contents, place ≠ s.place file.1 := fun file hf he => hplace ⟨file, hf, he⟩
      -- A directory that was made on the way to a file was missing, but the file was there.
      rcases h.others place hne with hsame | ⟨hnone, -, file, hf, hway⟩
      · exact hsame
      · obtain ⟨hlocated, -⟩ := find?_eq_some.1 (hheld file hf)
        obtain ⟨-, hdirectories⟩ := locate_ok hlocated
        rw [hdirectories place hway] at hnone
        cases hnone

end Wrote

def Reads {α : Type} (x : StateM Store α) : Prop :=
  ∀ s : Store, (x.run s).2 = s

theorem reads_pure {α : Type} (a : α) : Reads (pure a) :=
  fun _ => rfl

theorem Reads.bind {α β : Type} {x : StateM Store α} {f : α → StateM Store β} (hx : Reads x)
    (hf : ∀ a, Reads (f a)) : Reads (x >>= f) := by
  intro s
  rw [run_bind, hf, hx]

theorem reads_readText (p : Path) : Reads (disk.readText p) :=
  fun _ => rfl

theorem reads_holds (p : Path) : Reads (disk.holds p) :=
  fun _ => rfl

end Store

end TopicBindings.File
