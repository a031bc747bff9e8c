import Mathlib.Data.List.Perm.Subperm
import TopicBindings.Proofs.Registry

/-!
Chains of arrays and references, from a type through the items of arrays and the components that references stand for.
A chain that comes to no component twice ends after as many references as there are components at most, and one that
ends comes to none twice.
-/

namespace TopicBindings

open Schema (SchemaType TypeKey)

namespace Registry

/-- A way from a type to the items of arrays and to the components that references stand for: for each array on the way
whether its items are unique, the keys of the components, and the type where it has come to. -/
inductive Chain (g : Registry) : SchemaType → List Bool → List TypeKey → SchemaType → Prop where
  | here (type : SchemaType) : Chain g type [] [] type
  | item {name : String} {item : SchemaType} {unique : Bool} {doc : Schema.Documentation} {wraps : List Bool}
      {keys : List TypeKey} {last : SchemaType} (h : Chain g item wraps keys last) :
      Chain g (.array name item unique doc) (unique :: wraps) keys last
  | component {key : TypeKey} {found : Schema.DeclaredType} {wraps : List Bool} {keys : List TypeKey}
      {last : SchemaType} (hfound : g.lookupType key = .ok found) (h : Chain g found.val wraps keys last) :
      Chain g (.reference key) wraps (key :: keys) last

def Ends (g : Registry) : SchemaType → Prop
  | .array .. => False
  | .reference key => ¬ g.Registered key
  | _ => True

/-- No chain from the type comes to a component a second time. -/
def Straight (g : Registry) (type : SchemaType) : Prop :=
  ∀ wraps keys last, g.Chain type wraps keys last → keys.Nodup

def Meets (g : Registry) (type : SchemaType) (key : TypeKey) : Prop :=
  ∃ wraps keys, g.Chain type wraps keys (.reference key)

variable {g : Registry} {type last last' : SchemaType} {wraps wraps' : List Bool} {keys keys' : List TypeKey}
  {key : TypeKey}

/-- Where the chain to an end has come to already, it is still on its way to that end. -/
theorem Chain.rest (h : g.Chain type wraps' keys' last') (hends : g.Chain type wraps keys last) (hlast : g.Ends last) :
    ∃ wraps'' keys'', g.Chain last' wraps'' keys'' last ∧ wraps = wraps' ++ wraps'' ∧ keys = keys' ++ keys'' := by
  induction h generalizing wraps keys with
  | here type => exact ⟨wraps, keys, hends, rfl, rfl⟩
  | item _ ih =>
      cases hends with
      | here => exact hlast.elim
      | item hends =>
          obtain ⟨wraps'', keys'', hrest, rfl, rfl⟩ := ih hends
          exact ⟨wraps'', keys'', hrest, rfl, rfl⟩
  | @component key found _ _ _ hfound _ ih =>
      cases hends with
      | here => exact absurd ⟨found, hfound⟩ hlast
      | component hfound' hends =>
          obtain rfl := Except.ok.inj (hfound.symm.trans hfound')
          obtain ⟨wraps'', keys'', hrest, rfl, rfl⟩ := ih hends
          exact ⟨wraps'', keys'', hrest, rfl, rfl⟩

theorem Chain.eq_of_ends (h : g.Chain last wraps keys last') (hlast : g.Ends last) :
    wraps = [] ∧ keys = [] ∧ last' = last := by
  cases h with
  | here => exact ⟨rfl, rfl, rfl⟩
  | item => exact hlast.elim
  | component hfound => exact absurd ⟨_, hfound⟩ hlast

theorem Chain.unique (h : g.Chain type wraps keys last) (hlast : g.Ends last) (h' : g.Chain type wraps' keys' last')
    (hlast' : g.Ends last') : wraps' = wraps ∧ keys' = keys ∧ last' = last := by
  obtain ⟨wraps'', keys'', hrest, rfl, rfl⟩ := h'.rest h hlast
  obtain ⟨rfl, rfl, rfl⟩ := hrest.eq_of_ends hlast'
  simp

theorem Chain.eq_of_missing (h : g.Chain type wraps keys last) (hlast : g.Ends last) (hmet : g.Meets type key)
    (hkey : ¬ g.Registered key) : last = .reference key := by
  obtain ⟨wraps', keys', hmet⟩ := hmet
  exact (h.unique hlast hmet hkey).2.2.symm

theorem Chain.of_mem (h : g.Chain type wraps keys last) (hkey : key ∈ keys) :
    ∃ wraps' keys', g.Chain (.reference key) wraps' keys' last ∧ keys' <:+ keys := by
  induction h with
  | here type => cases hkey
  | item _ ih => exact ih hkey
  | @component other found wraps keys last hfound h ih =>
      rcases List.mem_cons.1 hkey with rfl | hkey
      · exact ⟨wraps, key :: keys, .component hfound h, List.suffix_rfl⟩
      · obtain ⟨wraps', keys', h', hsuffix⟩ := ih hkey
        exact ⟨wraps', keys', h', hsuffix.trans (List.suffix_cons _ _)⟩

/-- A chain with an end comes to no component twice: from there it would go on in the same way again. -/
theorem Chain.nodup (h : g.Chain type wraps keys last) (hlast : g.Ends last) : keys.Nodup := by
  induction h with
  | here type => exact .nil
  | item _ ih => exact ih hlast
  | @component key found wraps keys last hfound h ih =>
      refine List.nodup_cons.2 ⟨fun hkey => ?_, ih hlast⟩
      obtain ⟨wraps', keys', h', hsuffix⟩ := h.of_mem hkey
      obtain ⟨-, rfl, -⟩ := Chain.unique (.component hfound h) hlast h' hlast
      exact absurd hsuffix.length_le (Nat.not_succ_le_self _)

theorem Chain.straight (h : g.Chain type wraps keys last) (hlast : g.Ends last) : g.Straight type := by
  intro wraps' keys' last' h'
  obtain ⟨wraps'', keys'', -, -, rfl⟩ := h'.rest h hlast
  exact (h.nodup hlast).sublist (List.sublist_append_left keys' keys'')

theorem Chain.registered (h : g.Chain type wraps keys last) : ∀ key ∈ keys, g.Registered key := by
  induction h with
  | here type => exact fun key hkey => nomatch hkey
  | item _ ih => exact ih
  | component hfound _ ih => exact List.forall_mem_cons.2 ⟨⟨_, hfound⟩, ih⟩

theorem Chain.length_le (h : g.Chain type wraps keys last) (hnodup : keys.Nodup) : keys.length ≤ g.types.length := by
  have hsubset : keys ⊆ g.types.keys := fun key hkey =>
    Entries.isSome_lookup_iff.1 (registered_iff.1 (h.registered key hkey))
  have hle := (List.subperm_of_subset hnodup hsubset).length_le
  rwa [Entries.keys, List.length_map] at hle

/-- From every type there is a chain to an end, or one that follows more than `n` references. -/
theorem exists_end_or_longer : ∀ (n : Nat) (type : SchemaType),
    (∃ wraps keys last, g.Chain type wraps keys last ∧ g.Ends last) ∨
      ∃ wraps keys last, g.Chain type wraps keys last ∧ n < keys.length
  | _, .primitive name kind doc => .inl ⟨[], [], _, .here _, trivial⟩
  | _, .object place properties doc => .inl ⟨[], [], _, .here _, trivial⟩
  | _, .enumeration place literals doc => .inl ⟨[], [], _, .here _, trivial⟩
  | n, .array name item unique doc => by
      rcases exists_end_or_longer n item with ⟨wraps, keys, last, h, hlast⟩ | ⟨wraps, keys, last, h, hlonger⟩
      · exact .inl ⟨unique :: wraps, keys, last, .item h, hlast⟩
      · exact .inr ⟨unique :: wraps, keys, last, .item h, hlonger⟩
  | n, .reference key => by
      by_cases hkey : g.Registered key
      · obtain ⟨found, hfound⟩ := hkey
        match n with
        | 0 => exact .inr ⟨[], [key], _, .component hfound (.here _), Nat.one_pos⟩
        | n + 1 =>
            rcases exists_end_or_longer n found.val with ⟨wraps, keys, last, h, hlast⟩ | ⟨wraps, keys, last, h, hlonger⟩
            · exact .inl ⟨wraps, key :: keys, last, .component hfound h, hlast⟩
            · exact .inr ⟨wraps, key :: keys, last, .component hfound h, Nat.succ_lt_succ hlonger⟩
      · exact .inl ⟨[], [], _, .here _, hkey⟩
  termination_by n type => (n, sizeOf type)

theorem Straight.exists_end (h : g.Straight type) : ∃ wraps keys last, g.Chain type wraps keys last ∧ g.Ends last := by
  rcases exists_end_or_longer (g := g) g.types.length type with hend | ⟨wraps, keys, last, hchain, hlonger⟩
  · exact hend
  · exact absurd (hchain.length_le (h wraps keys last hchain)) (Nat.not_le_of_lt hlonger)

/-- One of the references in a type gives way to the component that it stands for. -/
inductive Replaced (g : Registry) : SchemaType → SchemaType → Prop where
  | here {key : TypeKey} {found : Schema.DeclaredType} (hfound : g.lookupType key = .ok found) :
      Replaced g (.reference key) found.val
  | item {name : String} {item item' : SchemaType} {unique : Bool} {doc : Schema.Documentation}
      (h : Replaced g item item') : Replaced g (.array name item unique doc) (.array name item' unique doc)
  | property {place : Schema.Place} {before behind : List (Schema.Property SchemaType)} {name : String}
      {type type' : SchemaType} {required : Bool} {description : Option String} {doc : Schema.Documentation}
      (h : Replaced g type type') :
      Replaced g (.object place (before ++ ⟨name, type, required, description⟩ :: behind) doc)
        (.object place (before ++ ⟨name, type', required, description⟩ :: behind) doc)

end Registry

end TopicBindings
