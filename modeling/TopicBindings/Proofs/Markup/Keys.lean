import TopicBindings.Markup.Value
import TopicBindings.Proofs.Outcome

/-!
The keys of the mappings in a document. No two keys of one mapping are the same (`keysApart_of_ofText?`), although
merging may bring a key into a mapping more than once, and although being the same is not equality of scalars: a
boolean and a number may be the same key.
-/

namespace TopicBindings

def Entries.KeysApart {κ ν : Type} [BEq κ] (entries : Entries κ ν) : Prop :=
  entries.keys.Pairwise fun a b => (a == b) = false

namespace Entries

variable {κ ν : Type} [BEq κ]

-- `keys_set` is of no use for scalars, for which `==` is not equality.
theorem keys_set_eq_any (key : κ) (value : ν) (entries : Entries κ ν) :
    keys (set key value entries) = if entries.keys.any (· == key) then entries.keys else entries.keys ++ [key] := by
  induction entries with
  | nil => rfl
  | cons entry rest ih =>
      obtain ⟨k, v⟩ := entry
      cases hk : k == key with
      | true => simp [set, keys, hk]
      | false =>
          have hcons : ∀ others : Entries κ ν, keys ((k, v) :: others) = k :: keys others := fun _ => rfl
          simp only [set, hk, Bool.false_eq_true, if_false, hcons, ih, List.any_cons, Bool.false_or]
          split <;> rfl

theorem keysApart_nil : KeysApart ([] : Entries κ ν) :=
  .nil

theorem KeysApart.set {entries : Entries κ ν} (h : entries.KeysApart) (key : κ) (value : ν) :
    (entries.set key value).KeysApart := by
  rw [KeysApart, keys_set_eq_any]
  split
  · exact h
  next hnone =>
    refine List.pairwise_append.2 ⟨h, List.pairwise_singleton _ _, fun k hk other hother => ?_⟩
    obtain rfl := List.mem_singleton.1 hother
    exact eq_false_of_ne_true fun hsame => hnone (List.any_eq_true.2 ⟨k, hk, hsame⟩)

end Entries

namespace Markup

def Value.KeysApart : Value → Prop
  | .mapping entries => Entries.KeysApart entries
  | _ => True

def Reader.KeysApart (r : Reader) : Prop :=
  ∀ value, some value ∈ r.values → value.KeysApart

namespace Reading

variable {α β γ : Type}

/-- What is read has a property, and as long as the keys of all mappings are apart, they stay so. -/
def Keeps (x : Reading α) (Q : α → Prop) : Prop :=
  ∀ r a r', r.KeysApart → x.run r = .ok (a, r') → r'.KeysApart ∧ Q a

theorem keeps_pure {a : α} {Q : α → Prop} (ha : Q a) : Keeps (pure a) Q := by
  intro r b r' hr hrun
  obtain ⟨rfl, rfl⟩ := Prod.mk.inj (Outcome.pure_ok.1 hrun)
  exact ⟨hr, ha⟩

theorem Keeps.bind {x : Reading α} {f : α → Reading β} {P : α → Prop} {Q : β → Prop} (hx : Keeps x P)
    (hf : ∀ a, P a → Keeps (f a) Q) : Keeps (x >>= f) Q := by
  intro r b r' hr hrun
  rw [StateT.run_bind] at hrun
  obtain ⟨⟨a, r₁⟩, hfirst, hrest⟩ := Outcome.bind_ok.1 hrun
  obtain ⟨hr₁, ha⟩ := hx r a r₁ hr hfirst
  exact hf a ha r₁ b r' hr₁ hrest

theorem keeps_throw (fault : Fault) (Q : α → Prop) : Keeps (throw fault) Q := by
  intro r a r' _ hrun
  cases hrun

theorem keeps_get : Keeps get fun _ => True := by
  intro r a r' hr hrun
  obtain ⟨rfl, rfl⟩ := Prod.mk.inj (Outcome.pure_ok.1 hrun)
  exact ⟨hr, trivial⟩

theorem keeps_modify {f : Reader → Reader} (hf : ∀ r, (f r).values = r.values) : Keeps (modify f) fun _ => True := by
  intro r a r' hr hrun
  obtain ⟨-, rfl⟩ := Prod.mk.inj (Outcome.pure_ok.1 hrun)
  refine ⟨?_, trivial⟩
  rw [Reader.KeysApart, hf]
  exact hr

theorem keeps_lift (x : Except Fault α) : Keeps (liftM x) fun _ => True := by
  intro r a r' hr hrun
  obtain ⟨b, -, hrun⟩ := Outcome.bind_ok.1 (show (x >>= fun b => pure (b, r)) = .ok (a, r') from hrun)
  obtain ⟨-, rfl⟩ := Prod.mk.inj (Outcome.pure_ok.1 hrun)
  exact ⟨hr, trivial⟩

theorem keeps_forM {f : α → Reading PUnit} (h : ∀ a, Keeps (f a) fun _ => True) (xs : List α) :
    Keeps (xs.forM f) fun _ => True := by
  induction xs with
  | nil => exact keeps_pure trivial
  | cons x rest ih => exact (h x).bind fun _ _ => ih

theorem keeps_mapM {f : α → Reading β} (h : ∀ a, Keeps (f a) fun _ => True) (xs : List α) :
    Keeps (xs.mapM f) fun _ => True := by
  induction xs with
  | nil => exact keeps_pure trivial
  | cons x rest ih =>
      rw [List.mapM_cons]
      exact (h x).bind fun _ _ => ih.bind fun _ _ => keeps_pure trivial

/-- What every round of a loop that has no early end keeps holds at its end. -/
theorem keeps_forIn {f : α → β → Reading (ForInStep β)} {P : β → Prop}
    (h : ∀ a b, P b → Keeps (f a b) fun step => ∃ b', step = .yield b' ∧ P b') (xs : List α) {b : β} (hb : P b) :
    Keeps (forIn xs b f) P := by
  induction xs generalizing b with
  | nil => exact keeps_pure hb
  | cons x rest ih =>
      rw [List.forIn_cons]
      refine (h x b hb).bind fun step hstep => ?_
      obtain ⟨b', rfl, hb'⟩ := hstep
      exact ih hb'

theorem keeps_setValue (id : NodeId) {value : Value} (h : value.KeysApart) :
    Keeps (setValue id value) fun _ => True := by
  intro r a r' hr hrun
  obtain ⟨-, rfl⟩ := Prod.mk.inj (Outcome.pure_ok.1 hrun)
  refine ⟨fun other hother => ?_, trivial⟩
  obtain hother | hother := Array.mem_or_eq_of_mem_setIfInBounds hother
  · exact hr other hother
  · obtain rfl := Option.some.inj hother
    exact h

theorem keeps_value? (id : NodeId) : Keeps (value? id) fun _ => True :=
  keeps_get.bind fun _ _ => keeps_pure trivial

theorem keysApart_of_unfilled? {tag : Tag} {value : Value} (h : unfilled? tag = some value) : value.KeysApart := by
  cases tag with
  | sequence | orderedMapping | pairs | set =>
      obtain rfl := Option.some.inj h
      trivial
  | mapping =>
      obtain rfl := Option.some.inj h
      exact Entries.keysApart_nil
  | _ => cases h

theorem keeps_scalar (nodes : Nodes) (id : NodeId) :
    Keeps (Value.scalar <$> (Scalar.ofNode nodes id : Except Fault Scalar)) Value.KeysApart :=
  (keeps_lift _).bind fun _ _ => keeps_pure trivial

theorem keeps_read (id : NodeId) : Keeps (read id) fun _ => True := by
  refine (keeps_value? id).bind fun found _ => ?_
  cases found with
  | some found => exact keeps_pure trivial
  | none =>
      refine keeps_get.bind fun r _ => ?_
      dsimp only
      split
      next value hvalue =>
        refine (keeps_modify fun _ => by rfl).bind fun _ _ => ?_
        refine (keeps_setValue id (keysApart_of_unfilled? hvalue)).bind fun _ _ => ?_
        exact keeps_pure trivial
      next =>
        refine (keeps_scalar r.nodes id).bind fun value hvalue => ?_
        refine (keeps_setValue id hvalue).bind fun _ _ => ?_
        exact keeps_pure trivial

theorem keeps_key (id : NodeId) : Keeps (key id) fun _ => True := by
  refine (keeps_read id).bind fun value _ => ?_
  cases value with
  | scalar value => exact keeps_pure trivial
  | _ => exact keeps_throw _ _

theorem keeps_entries (id : NodeId) : Keeps (entries id) Entries.KeysApart := by
  refine keeps_get.bind fun r _ => ?_
  refine (keeps_lift _).bind fun (found, merged) _ => ?_
  refine (keeps_modify fun _ => by rfl).bind fun _ _ => ?_
  refine (keeps_forIn (P := Entries.KeysApart) (fun (k, v) result hresult => ?_) found Entries.keysApart_nil).bind
    fun result hresult => keeps_pure hresult
  refine (keeps_key k).bind fun key _ => ?_
  refine (keeps_read v).bind fun _ _ => ?_
  exact keeps_pure ⟨_, rfl, hresult.set key v⟩

theorem keeps_pair (id : NodeId) : Keeps (pair id) fun _ => True := by
  refine keeps_get.bind fun r _ => ?_
  split
  next k v _ =>
    refine (keeps_read k).bind fun _ _ => ?_
    refine (keeps_read v).bind fun _ _ => ?_
    exact keeps_pure trivial
  next => exact keeps_throw _ _

theorem keeps_filled (id : NodeId) : Keeps (filled id) Value.KeysApart := by
  refine keeps_get.bind fun r _ => ?_
  dsimp only
  split
  next items _ _ =>
    refine (keeps_forM (fun item => (keeps_read item).bind fun _ _ => keeps_pure trivial) items).bind fun _ _ => ?_
    exact keeps_pure trivial
  next items _ _ => exact (keeps_mapM keeps_pair items).bind fun _ _ => keeps_pure trivial
  next items _ _ => exact (keeps_mapM keeps_pair items).bind fun _ _ => keeps_pure trivial
  next => exact (keeps_entries id).bind fun _ hentries => keeps_pure hentries
  next => exact (keeps_entries id).bind fun _ _ => keeps_pure trivial
  next => exact keeps_throw _ _

theorem keeps_fillAll (fuel : Nat) : Keeps (fillAll fuel) fun _ => True := by
  induction fuel with
  | zero => exact keeps_pure trivial
  | succ fuel ih =>
      refine keeps_get.bind fun r _ => ?_
      dsimp only
      split
      · exact keeps_pure trivial
      · refine (keeps_modify fun _ => by rfl).bind fun _ _ => ?_
        refine (keeps_forM (fun id => (keeps_filled id).bind fun _ hvalue => keeps_setValue id hvalue) _).bind
          fun _ _ => ih

theorem keeps_readAll (id : NodeId) : Keeps (readAll id) fun _ => True :=
  (keeps_read id).bind fun _ _ => keeps_get.bind fun r _ => keeps_fillAll (r.nodes.size + 1)

end Reading

namespace Data

theorem keysApart_of_ofText? {s : String} {d : Data} (h : ofText? s = .ok (some d)) (id : NodeId) :
    (d.value id).KeysApart := by
  rw [ofText?] at h
  obtain ⟨graph?, -, h⟩ := Outcome.bind_ok.1 h
  cases graph? with
  | none => cases h
  | some graph =>
      obtain ⟨⟨_, r⟩, hread, h⟩ := Outcome.bind_ok.1 h
      obtain rfl := Option.some.inj (Outcome.pure_ok.1 h)
      have hstart : Reader.KeysApart ⟨graph.nodes, Array.replicate graph.nodes.size none, []⟩ := by
        intro value hvalue
        simp at hvalue
      obtain ⟨hr, -⟩ := Reading.keeps_readAll graph.root _ _ r hstart hread
      rw [value, Array.getElem?_map]
      rcases hfound : r.values[id]? with _ | _ | found
      · trivial
      · trivial
      · exact hr found (Array.mem_of_getElem? hfound)

end Data

end Markup

end TopicBindings
