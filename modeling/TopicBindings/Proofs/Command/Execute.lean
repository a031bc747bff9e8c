import TopicBindings.Command.Execute
import TopicBindings.Proofs.Generation.Output

/-!
What generations leave behind on a store. Nothing is written before a run has finished; then the tree of the
run is stored, and the program fails just when that does.
-/

namespace TopicBindings.Command

open File (Path Store)
open File.Store (Reads)
open Generation (Options Output.Refused Output.Settled)

theorem code_ending (log : List String) (trouble : Trouble) : Ending.code (trouble.ending log) = 1 := by
  cases trouble <;> rfl

theorem reads_readLines (p : Path) : Reads (readLines Store.disk p) :=
  (Store.reads_readText p).bind fun _ => Store.reads_pure _

theorem reads_loadSchema (p : Path) : Reads (loadSchema Store.disk p) := by
  refine (reads_readLines p).bind fun text => ?_
  split <;> exact Store.reads_pure _

theorem reads_loadOptionsFile (p : Path) : Reads (loadOptionsFile Store.disk p) := by
  refine (reads_readLines p).bind fun text => ?_
  split <;> exact Store.reads_pure _

theorem reads_loadOptions (document : Path) (config : Option String) :
    Reads (loadOptions Store.disk document config) := by
  cases config with
  | some name => exact reads_loadOptionsFile _
  | none =>
      refine (Store.reads_holds _).bind fun found => ?_
      cases found with
      | true => exact reads_loadOptionsFile _
      | false => exact Store.reads_pure _

/-- How a generation ends: before anything is stored, with a failure, or by storing the tree of a finished
run, and then it fails just when the tree is not stored. -/
inductive Ended (before : Store) (ending : Ending) (after : Store) : Prop where
  | early : after = before → Ending.code ending = 1 → Ended before ending after
  | stored {s o extensions r d outcome} : (Generation.run s o extensions).outcome = .ok r →
      o.destination? = some d → (Generation.Output.write Store.disk d r.tree).run before = (outcome, after) →
      Ending.code ending = (if outcome.isOk then 0 else 1) → Ended before ending after

variable {before after : Store} {ending : Ending} {verbose : Bool}

theorem ended_of_store {s : Schema} {o : Options} {extensions : List Generation.Extension}
    {r : Generation.Result} {log : List String} (hrun : (Generation.run s o extensions).outcome = .ok r)
    (h : (store Store.disk verbose o log r).run before = (ending, after)) : Ended before ending after := by
  rw [store] at h
  cases hdestination : o.destination? with
  | none =>
      rw [hdestination] at h
      obtain ⟨rfl, rfl⟩ := Prod.mk.inj h
      exact .early rfl rfl
  | some d =>
      rw [hdestination] at h
      dsimp only at h
      rw [Store.run_bind] at h
      -- Whatever storing comes to, the program fails just when it does.
      rcases hwritten : (Generation.Output.write Store.disk d r.tree).run before with ⟨outcome, s₁⟩
      rw [hwritten] at h
      cases outcome with
      | error failure =>
          obtain ⟨rfl, rfl⟩ := Prod.mk.inj h
          exact .stored hrun hdestination hwritten (code_ending _ _)
      | ok files =>
          obtain ⟨rfl, rfl⟩ := Prod.mk.inj h
          exact .stored hrun hdestination hwritten rfl

theorem ended_of_generate {g : GenerateArguments}
    (h : (generate Store.disk verbose g).run before = (ending, after)) : Ended before ending after := by
  rw [generate, Store.run_bind] at h
  rcases hschema : (loadSchema Store.disk (Path.ofText g.document)).run before with ⟨read, s₁⟩
  -- Reading leaves the store as it is, so that it is still the first one when files are written.
  have hstill := reads_loadSchema (Path.ofText g.document) before
  rw [hschema] at h hstill
  obtain rfl : s₁ = before := hstill
  cases read with
  | error trouble =>
      obtain ⟨rfl, rfl⟩ := Prod.mk.inj h
      exact .early rfl (code_ending _ _)
  | ok schema =>
      dsimp only at h
      rw [Store.run_bind] at h
      rcases hoptions : (loadOptions Store.disk (Path.ofText g.document) g.config).run s₁ with ⟨loaded, s₂⟩
      have hstill := reads_loadOptions (Path.ofText g.document) g.config s₁
      rw [hoptions] at h hstill
      obtain rfl : s₂ = s₁ := hstill
      cases loaded with
      | error trouble =>
          obtain ⟨rfl, rfl⟩ := Prod.mk.inj h
          exact .early rfl (code_ending _ _)
      | ok fromFile =>
          dsimp only at h
          split at h
          · obtain ⟨rfl, rfl⟩ := Prod.mk.inj h
            exact .early rfl (code_ending _ _)
          next r hrun => exact ended_of_store hrun h

theorem output_settled {before after : Store} :
    (∀ {d t outcome}, (Generation.Output.write Store.disk d t).run before = (outcome, after) →
      ¬ Output.Refused outcome → Output.Settled d t before outcome after) ∧
    ∀ {verbose g ending}, (generate Store.disk verbose g).run before = (ending, after) →
      Ended before ending after :=
  ⟨Generation.Output.settled_of_write, ended_of_generate⟩

/-- A description with a letter outside ASCII, which the module of its type says first. -/
def accented : Schema where
  baseTopic := none
  host := "h"
  schemes := []
  about := ⟨none, "v", none⟩
  topics := []
  messages := []
  types := [⟨.object ⟨Schema.typesSpace, [], "A"⟩ [] ⟨none, some "café"⟩, rfl⟩]

def asciiOptions : Options :=
  { Options.default with targetPath := some (Path.ofText "out"), characterSet := "ascii" }

def asciiDestination : Generation.Output.Destination :=
  ⟨Path.ofText "out", .ascii, "ascii"⟩

def emptyStore : Store :=
  ⟨[], []⟩

theorem accented_stored : ∃ r, (Generation.run accented asciiOptions []).outcome = .ok r ∧
    ((Generation.Output.write Store.disk asciiDestination r.tree).run emptyStore).1 =
      .error (.unencodable "ascii"
        "'ascii' codec can't encode character '\\xe9' in position 160: ordinal not in range(128)") ∧
    ((Generation.Output.write Store.disk asciiDestination r.tree).run emptyStore).2.find?
      (Path.ofText "out/types/a.py") = some (.file []) := by
  obtain ⟨r, hrun, hend⟩ := Outcome.exists_ok_of_any
    (x := (Generation.run accented asciiOptions []).outcome) (p := fun r =>
      let finished := (Generation.Output.write Store.disk asciiDestination r.tree).run emptyStore
      decide (finished.1 = .error (.unencodable "ascii"
        "'ascii' codec can't encode character '\\xe9' in position 160: ordinal not in range(128)")) &&
      decide (finished.2.find? (Path.ofText "out/types/a.py") = some (.file []))) (by decide +kernel)
  rw [Bool.and_eq_true, decide_eq_true_eq, decide_eq_true_eq] at hend
  exact ⟨r, hrun, hend⟩

theorem output_settled_accented : ∃ r outcome after,
    (Generation.run accented asciiOptions []).outcome = .ok r ∧
    (Generation.Output.write Store.disk asciiDestination r.tree).run emptyStore = (outcome, after) ∧
    ¬ Output.Refused outcome ∧ Output.Settled asciiDestination r.tree emptyStore outcome after ∧
    ∃ g ending later, (generate Store.disk false g).run emptyStore = (ending, later) ∧
      Ended emptyStore ending later := by
  obtain ⟨r, hrun, hfailed, -⟩ := accented_stored
  rcases hwritten : (Generation.Output.write Store.disk asciiDestination r.tree).run emptyStore with
    ⟨outcome, after⟩
  rw [hwritten] at hfailed
  have hopen : ¬ Output.Refused outcome := by
    rintro ⟨target, obstacle, rfl⟩
    cases hfailed
  rcases hgenerated : (generate Store.disk false ⟨"doc.yaml", some "out", none, some "ascii", none, false,
    false, false⟩).run emptyStore with ⟨ending, later⟩
  exact ⟨r, outcome, after, hrun, hwritten, hopen, output_settled.1 hwritten hopen, _, ending, later,
    hgenerated, output_settled.2 hgenerated⟩

theorem partial_output_left : ∃ r gap after, (Generation.run accented asciiOptions []).outcome = .ok r ∧
    (Generation.Output.write Store.disk asciiDestination r.tree).run emptyStore =
      (.error (.unencodable "ascii" gap), after) ∧
    ¬ ∀ place, after.item? place = emptyStore.item? place := by
  obtain ⟨r, hrun, hfailed, hfound⟩ := accented_stored
  rcases hwritten : (Generation.Output.write Store.disk asciiDestination r.tree).run emptyStore with
    ⟨outcome, after⟩
  rw [hwritten] at hfailed hfound
  obtain rfl : outcome = .error _ := hfailed
  refine ⟨r, _, after, hrun, hwritten, fun hsame => ?_⟩
  obtain ⟨-, hitem⟩ := Store.find?_eq_some.1 hfound
  rw [hsame, Store.item?] at hitem
  split at hitem
  · cases hitem
  · cases hitem

end TopicBindings.Command
