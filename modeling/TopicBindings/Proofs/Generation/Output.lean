import TopicBindings.Generation.Output
import TopicBindings.Proofs.File.Store
import TopicBindings.Proofs.Source.Files

/-!
What storing files leaves behind. A tree that cannot be spelled leaves a store as it was. A text that cannot
be encoded ends the storing, and the files before it stay, with an empty file in its own place.
-/

namespace TopicBindings.Generation.Output

open Declaration (Tree)
open File (Location Store Path Obstacle)
open File.Store (Wrote)
open Source (RelativePath)

/-- Whether the file system did not take what was written. -/
def Refused {α : Type} (outcome : Except Failure α) : Prop :=
  ∃ target obstacle, outcome = .error (.unwritable target obstacle)

def Destination.Encodable (d : Destination) (file : RelativePath × String) : Prop :=
  ∃ bytes, d.characterSet.encode file.2 = .ok bytes

/-- What storing files writes, in order: the bytes of their texts up to the first one that cannot be encoded,
and no bytes for that one. -/
def Destination.contents (d : Destination) : Entries RelativePath String → List (Path × List UInt8)
  | [] => []
  | (path, text) :: rest => match d.characterSet.encode text with
    | .ok bytes => (d.target.append path, bytes) :: d.contents rest
    | .error _ => [(d.target.append path, [])]

variable {d : Destination} {s s' : Store} {files : Entries RelativePath String}

theorem contents_cons_ok {file : RelativePath × String} {bytes : List UInt8}
    (h : d.characterSet.encode file.2 = .ok bytes) (rest : Entries RelativePath String) :
    d.contents (file :: rest) = (d.target.append file.1, bytes) :: d.contents rest := by
  rw [Destination.contents, h]

theorem contents_cons_error {file : RelativePath × String} {fault : File.CharacterSet.Unencodable}
    (h : d.characterSet.encode file.2 = .error fault) (rest : Entries RelativePath String) :
    d.contents (file :: rest) = [(d.target.append file.1, [])] := by
  rw [Destination.contents, h]

theorem file_of_mem_contents {content : Path × List UInt8} (h : content ∈ d.contents files) :
    ∃ file ∈ files, content.1 = d.target.append file.1 := by
  induction files with
  | nil => cases h
  | cons file rest ih =>
      cases hencoded : d.characterSet.encode file.2 with
      | ok bytes =>
          rw [contents_cons_ok hencoded] at h
          rcases List.mem_cons.1 h with rfl | h
          · exact ⟨file, .head _, rfl⟩
          · obtain ⟨other, hother, hpath⟩ := ih h
            exact ⟨other, .tail _ hother, hpath⟩
      | error fault =>
          rw [contents_cons_error hencoded] at h
          obtain rfl := List.mem_singleton.1 h
          exact ⟨file, .head _, rfl⟩

theorem mem_contents (h : ∀ file ∈ files, d.Encodable file) {file : RelativePath × String}
    (hfile : file ∈ files) :
    ∃ bytes, d.characterSet.encode file.2 = .ok bytes ∧ (d.target.append file.1, bytes) ∈ d.contents files := by
  induction files with
  | nil => cases hfile
  | cons first rest ih =>
      obtain ⟨bytes, hbytes⟩ := h first (.head _)
      rw [contents_cons_ok hbytes]
      rcases List.mem_cons.1 hfile with rfl | hfile
      · exact ⟨bytes, hbytes, .head _⟩
      · obtain ⟨more, hmore, hm⟩ := ih (fun other ho => h other (.tail _ ho)) hfile
        exact ⟨more, hmore, .tail _ hm⟩

theorem wrote_of_writeBytes {p : Path} {bytes : List UInt8}
    (h : (writeBytes Store.disk p bytes).run s = (.ok (), s')) : Wrote [(p, bytes)] s s' := by
  rw [writeBytes, Store.run_bind] at h
  rcases hmade : (Store.disk.makeDirectories p.parent.parts.length p.parent).run s with ⟨made, s₁⟩
  have hgrown := Store.grown_of_makeDirectories _ hmade
  rw [hmade] at h
  cases made with
  | error obstacle => cases (Prod.mk.inj h).1
  | ok _ =>
      dsimp only at h
      rw [Store.run_bind] at h
      cases hwritten : Store.writeBytes p bytes s₁ with
      | error refusal =>
          have hrun : (Store.disk.writeBytes p bytes).run s₁ = (.error refusal, s₁) :=
            Store.run_attempt_error hwritten
          rw [hrun] at h
          cases (Prod.mk.inj h).1
      | ok s₂ =>
          have hrun : (Store.disk.writeBytes p bytes).run s₁ = (.ok (), s₂) :=
            Store.run_attempt_ok hwritten
          rw [hrun] at h
          obtain ⟨-, rfl⟩ := Prod.mk.inj h
          exact .of_grown (hgrown.mono fun place => Store.onPath_of_parent rfl) hwritten

variable {outcome : Except Failure Unit}

theorem wrote_of_writeFile {file : RelativePath × String}
    (h : (writeFile Store.disk d file).run s = (outcome, s')) (hopen : ¬ Refused outcome) :
    Wrote (d.contents [file]) s s' ∧ (outcome = .ok () ↔ d.Encodable file) := by
  rw [writeFile, Store.run_bind] at h
  rcases hbytes : (writeBytes Store.disk (d.target.append file.1)
    ((d.characterSet.encode file.2).toOption.getD [])).run s with ⟨result, s₁⟩
  rw [hbytes] at h
  cases result with
  | error obstacle =>
      obtain ⟨rfl, -⟩ := Prod.mk.inj h
      exact absurd ⟨_, _, rfl⟩ hopen
  | ok _ =>
      have hwrote := wrote_of_writeBytes hbytes
      cases hencoded : d.characterSet.encode file.2 with
      | ok bytes =>
          rw [hencoded] at h hwrote
          obtain ⟨rfl, rfl⟩ := Prod.mk.inj h
          rw [contents_cons_ok hencoded]
          exact ⟨hwrote, fun _ => ⟨bytes, hencoded⟩, fun _ => rfl⟩
      | error fault =>
          rw [hencoded] at h hwrote
          have hfailed : outcome ≠ .ok () ∧ s' = s₁ := by
            cases fault with
            | gap gap =>
                obtain ⟨rfl, rfl⟩ := Prod.mk.inj h
                exact ⟨by simp, rfl⟩
            | misuse misuse =>
                obtain ⟨rfl, rfl⟩ := Prod.mk.inj h
                exact ⟨by simp, rfl⟩
          obtain ⟨hfailed, rfl⟩ := hfailed
          rw [contents_cons_error hencoded]
          refine ⟨hwrote, fun hok => absurd hok hfailed, ?_⟩
          rintro ⟨bytes, hbytes⟩
          rw [hencoded] at hbytes
          cases hbytes

theorem places_apart {path other : RelativePath} (hpath : ".." ∉ path) (hother : ".." ∉ other)
    (hne : path ≠ other) : s.place (d.target.append path) ≠ s.place (d.target.append other) := by
  rw [Store.place_append hpath, Store.place_append hother]
  intro h
  exact hne (List.append_cancel_left h)

theorem wrote_of_writeFiles (hdistinct : files.keys.Nodup) (hdown : ∀ file ∈ files, ".." ∉ file.1)
    (h : (writeFiles Store.disk d files).run s = (outcome, s')) (hopen : ¬ Refused outcome) :
    Wrote (d.contents files) s s' ∧ (outcome = .ok () ↔ ∀ file ∈ files, d.Encodable file) := by
  induction files generalizing s with
  | nil =>
      obtain ⟨rfl, rfl⟩ := Prod.mk.inj h
      exact ⟨.nil s, by simp⟩
  | cons file rest ih =>
      rw [writeFiles, Store.run_bind] at h
      rcases hfirst : (writeFile Store.disk d file).run s with ⟨first, s₁⟩
      rw [hfirst] at h
      obtain ⟨hnew, hdistinct⟩ := List.nodup_cons.1 hdistinct
      cases first with
      | error failure =>
          obtain ⟨rfl, rfl⟩ := Prod.mk.inj h
          obtain ⟨hwrote, hcomplete⟩ := wrote_of_writeFile hfirst hopen
          have hunencodable : ¬ d.Encodable file := fun he => by cases hcomplete.2 he
          refine ⟨?_, fun hok => (by cases hok), fun hall => absurd (hall file (.head _)) hunencodable⟩
          cases hencoded : d.characterSet.encode file.2 with
          | ok bytes => exact absurd ⟨bytes, hencoded⟩ hunencodable
          | error fault =>
              rw [contents_cons_error hencoded] at hwrote ⊢
              exact hwrote
      | ok _ =>
          have htaken : ¬ Refused (.ok () : Except Failure Unit) := by
            rintro ⟨target, obstacle, he⟩
            cases he
          obtain ⟨hwrote, hcomplete⟩ := wrote_of_writeFile hfirst htaken
          obtain ⟨bytes, hbytes⟩ := hcomplete.1 rfl
          obtain ⟨hmore, hrest⟩ := ih hdistinct (fun other ho => hdown other (.tail _ ho)) h
          rw [contents_cons_ok hbytes] at hwrote ⊢
          refine ⟨hwrote.append hmore fun content hc other ho => ?_, hrest.trans ?_⟩
          · obtain rfl := List.mem_singleton.1 hc
            obtain ⟨later, hlater, hpath⟩ := file_of_mem_contents ho
            rw [hpath]
            refine places_apart (hdown file (.head _)) (hdown later (.tail _ hlater)) ?_
            intro he
            exact hnew (he ▸ List.mem_map_of_mem hlater)
          · rw [List.forall_mem_cons]
            exact ⟨fun hall => ⟨⟨bytes, hbytes⟩, hall⟩, And.right⟩

/-- What a request to store a tree comes to. It succeeds just when the tree can be spelled and every file can
be encoded; then the files hold their texts, and nothing else has changed but for the directories around them.
If it fails, the store is as before just when the tree cannot be spelled or what was written up to the first
file that cannot be encoded was there already. -/
structure Settled (d : Destination) (t : Tree) (before : Store)
    (outcome : Except Failure (Entries RelativePath String)) (after : Store) : Prop where
  unspelled : ∀ fault, Source.render t = .error fault → outcome = .error (.spelling fault) ∧ after = before
  complete : ∀ files, outcome = .ok files ↔
    Source.render t = .ok files ∧ ∀ file ∈ files, d.Encodable file
  held : ∀ files, outcome = .ok files → ∀ file ∈ files, ∃ bytes,
    d.characterSet.encode file.2 = .ok bytes ∧ after.find? (d.target.append file.1) = some (.file bytes)
  others : ∀ files, outcome = .ok files → ∀ place : Location,
    (∀ file ∈ files, place ≠ before.place (d.target.append file.1)) →
    after.item? place = before.item? place ∨ (before.item? place = none ∧
      after.item? place = some .directory ∧ ∃ file ∈ files, before.OnTheWay (d.target.append file.1) place)
  kept : ∀ failure, outcome = .error failure →
    ((∀ place, after.item? place = before.item? place) ↔ ∀ files, Source.render t = .ok files →
      ∀ content ∈ d.contents files, before.find? content.1 = some (.file content.2))

theorem others_of_wrote (h : Wrote (d.contents files) s s') {place : Location}
    (hplace : ∀ file ∈ files, place ≠ s.place (d.target.append file.1)) :
    s'.item? place = s.item? place ∨ (s.item? place = none ∧ s'.item? place = some .directory ∧
      ∃ file ∈ files, s.OnTheWay (d.target.append file.1) place) := by
  have hapart : ∀ content ∈ d.contents files, place ≠ s.place content.1 := by
    intro content hc
    obtain ⟨file, hfile, hpath⟩ := file_of_mem_contents hc
    rw [hpath]
    exact hplace file hfile
  rcases h.others place hapart with hsame | ⟨hnone, hdirectory, content, hc, hway⟩
  · exact .inl hsame
  · obtain ⟨file, hfile, hpath⟩ := file_of_mem_contents hc
    exact .inr ⟨hnone, hdirectory, file, hfile, hpath ▸ hway⟩

variable {t : Tree}

theorem Settled.of_unspelled {fault : Source.Fault} (h : Source.render t = .error fault) (s : Store) :
    Settled d t s (.error (.spelling fault)) s where
  unspelled other ho := by
    rw [h] at ho
    obtain rfl := Except.error.inj ho
    exact ⟨rfl, rfl⟩
  complete files := by simp [h]
  held := by simp
  others := by simp
  kept _ _ := by simp [h]

theorem Settled.of_wrote {stored : Except Failure Unit} (hrender : Source.render t = .ok files)
    (hwrote : Wrote (d.contents files) s s')
    (hcomplete : stored = .ok () ↔ ∀ file ∈ files, d.Encodable file) :
    Settled d t s (stored.map fun _ => files) s' := by
  have hsuccess : ∀ others, stored.map (fun _ => files) = .ok others ↔
      files = others ∧ ∀ file ∈ files, d.Encodable file := by
    intro others
    rw [Outcome.map_ok, ← hcomplete]
    constructor
    · rintro ⟨_, hok, rfl⟩
      exact ⟨rfl, hok⟩
    · rintro ⟨rfl, hok⟩
      exact ⟨_, hok, rfl⟩
  refine ⟨fun fault hf => ?_, fun others => ?_, fun others ho => ?_, fun others ho => ?_,
    fun _ _ => ?_⟩
  · rw [hrender] at hf
    cases hf
  · rw [hsuccess, hrender]
    constructor
    · rintro ⟨rfl, hall⟩
      exact ⟨rfl, hall⟩
    · rintro ⟨he, hall⟩
      obtain rfl := Except.ok.inj he
      exact ⟨rfl, hall⟩
  · obtain ⟨rfl, hall⟩ := (hsuccess others).1 ho
    intro file hfile
    obtain ⟨bytes, hbytes, hcontent⟩ := mem_contents hall hfile
    exact ⟨bytes, hbytes, hwrote.held _ hcontent⟩
  · obtain ⟨rfl, -⟩ := (hsuccess others).1 ho
    exact fun _ hplace => others_of_wrote hwrote hplace
  -- Whether anything has changed is decided by what was written, be it all of the files or not.
  · rw [hwrote.unchanged_iff, hrender]
    constructor
    · intro hheld others ho
      obtain rfl := Except.ok.inj ho
      exact hheld
    · intro hheld
      exact hheld files rfl

theorem settled_of_write {before after : Store}
    {outcome : Except Failure (Entries RelativePath String)}
    (h : (write Store.disk d t).run before = (outcome, after)) (hopen : ¬ Refused outcome) :
    Settled d t before outcome after := by
  rw [write] at h
  cases hrender : Source.render t with
  | error fault =>
      rw [hrender] at h
      obtain ⟨rfl, rfl⟩ := Prod.mk.inj h
      exact .of_unspelled hrender before
  | ok files =>
      rw [hrender] at h
      dsimp only at h
      rw [Store.run_bind] at h
      rcases hfiles : (writeFiles Store.disk d files).run before with ⟨stored, s₁⟩
      rw [hfiles] at h
      obtain ⟨rfl, rfl⟩ := Prod.mk.inj h
      have htaken : ¬ Refused stored := by
        rintro ⟨target, obstacle, rfl⟩
        exact hopen ⟨target, obstacle, rfl⟩
      -- Rendered paths are distinct and do not lead upwards, so no file is written in the place of another one.
      have hrendered := (Source.render_ok hrender).1
      obtain ⟨hwrote, hcomplete⟩ :=
        wrote_of_writeFiles hrendered.distinct hrendered.downward hfiles htaken
      exact .of_wrote hrender hwrote hcomplete

end TopicBindings.Generation.Output
