import Mathlib.Logic.Relation
import TopicBindings.Binding.Resolver
import TopicBindings.Proofs.Binding.Rendered
import TopicBindings.Proofs.Registry.Chains

/-!
The expression of a type is what the chain from the type comes to: the collections of the arrays on the way, around the
name at the end (`property_type_resolved`). Only a chain that comes back to a component has none.
-/

namespace TopicBindings.Binding

open Schema (SchemaType TypeKey)

namespace Resolver

variable {r : Resolver} {type type' last : SchemaType} {wraps : List Bool} {keys : List TypeKey} {n : Nat}

/-- An expression inside collections, the outermost first. -/
def nest (r : Resolver) (wraps : List Bool) (e : TypeExpression) : TypeExpression :=
  wraps.foldr (fun unique inner =>
    .apply (if unique then r.table.uniqueCollection else r.table.sequenceCollection) [inner]) e

theorem references_nest (r : Resolver) (wraps : List Bool) (e : TypeExpression) :
    (r.nest wraps e).references = wraps.map r.collection ++ e.references := by
  induction wraps with
  | nil => rfl
  | cons unique wraps ih =>
      have hinner : (r.nest (unique :: wraps) e).references =
          r.collection unique :: ((r.nest wraps e).references ++ []) := rfl
      rw [hinner, ih, List.append_nil]
      rfl

def Innermost (r : Resolver) : SchemaType → QualifiedName → Prop
  | .primitive _ kind _, name => name = r.table.boxed kind
  | type, name => r.outputName type = .ok name

def atEnd (r : Resolver) : SchemaType → Except Fault TypeExpression
  | .primitive _ kind _ => .ok (.plain (r.table.boxed kind))
  | .reference key => .error (.unknown (.type key))
  | type => (r.declaredName type).map .plain

/-- What a chain with enough references left comes to is what comes of its last type, in the collections on the way. -/
theorem expressionWith_chain (h : r.registry.Chain type wraps keys last) (n : Nat) :
    r.expressionWith (r.keyExpression (n + keys.length)) type =
      (r.expressionWith (r.keyExpression n) last).map (r.nest wraps) := by
  induction h with
  | here type => cases r.expressionWith (r.keyExpression n) type <;> rfl
  | @item name item unique doc wraps keys last h ih =>
      rw [expressionWith, ih]
      cases r.expressionWith (r.keyExpression n) last <;> rfl
  | @component key found wraps keys last hfound h ih =>
      rw [← ih, expressionWith, List.length_cons, ← Nat.add_assoc, keyExpression, hfound]
      rfl

theorem expressionWith_end (hlast : r.registry.Ends last) (n : Nat) :
    r.expressionWith (r.keyExpression n) last = r.atEnd last := by
  cases last with
  | array => exact hlast.elim
  | reference key =>
      have hunknown : r.registry.lookupType key = .error (.type key) := by
        rw [Registry.Ends, Registry.registered_iff, Option.not_isSome_iff_eq_none] at hlast
        rw [Registry.lookupType, hlast]
      rw [expressionWith, keyExpression, hunknown]
      rfl
  | primitive => rfl
  | object => rfl
  | enumeration => rfl

theorem propertyType_of_chain (h : r.registry.Chain type wraps keys last) (hlast : r.registry.Ends last) :
    r.propertyType type = (r.atEnd last).map (r.nest wraps) := by
  have henough := h.length_le (h.nodup hlast)
  rw [propertyType, ← Nat.sub_add_cancel henough, expressionWith_chain h, expressionWith_end hlast]

theorem endless_of_longer (h : r.registry.Chain type wraps keys last) (hn : n < keys.length) :
    ∃ name, r.expressionWith (r.keyExpression n) type = .error (.endless name) := by
  induction h generalizing n with
  | here type => exact absurd hn (Nat.not_lt_zero n)
  | item _ ih =>
      obtain ⟨name, hname⟩ := ih hn
      exact ⟨name, by rw [expressionWith, hname]; rfl⟩
  | @component key found _ _ _ hfound _ ih =>
      rw [expressionWith, keyExpression, hfound]
      cases n with
      | zero => exact ⟨key.name, rfl⟩
      | succ n => exact ih (Nat.lt_of_succ_lt_succ hn)

theorem atEnd_ne_endless (r : Resolver) (last : SchemaType) (name : String) :
    r.atEnd last ≠ .error (.endless name) := by
  cases last <;> simp [atEnd, declaredName, Except.map]

theorem propertyType_endless_iff : (∃ name, r.propertyType type = .error (.endless name)) ↔
    ¬ r.registry.Straight type := by
  constructor
  · rintro ⟨name, h⟩ hstraight
    obtain ⟨wraps, keys, last, hchain, hlast⟩ := hstraight.exists_end
    rw [propertyType_of_chain hchain hlast] at h
    cases hend : r.atEnd last with
    | ok e => rw [hend] at h; cases h
    | error fault =>
        rw [hend] at h
        obtain rfl := Except.error.inj h
        exact r.atEnd_ne_endless last name hend
  · intro hbent
    rcases Registry.exists_end_or_longer (g := r.registry) r.registry.types.length type with
      ⟨wraps, keys, last, h, hlast⟩ | ⟨wraps, keys, last, h, hlonger⟩
    · exact absurd (h.straight hlast) hbent
    · exact endless_of_longer h hlonger

/-- Replacing a reference shortens a chain at most, and leaves what it comes to. -/
theorem chain_of_replaced (hreplaced : r.registry.Replaced type type') {keys : List TypeKey}
    (h : r.registry.Chain type wraps keys last) (hlast : r.registry.Ends last) :
    ∃ keys' last', r.registry.Chain type' wraps keys' last' ∧ r.registry.Ends last' ∧ r.atEnd last' = r.atEnd last := by
  induction hreplaced generalizing wraps keys last with
  | here hfound =>
      cases h with
      | here => exact absurd ⟨_, hfound⟩ hlast
      | component hfound' h =>
          obtain rfl := Except.ok.inj (hfound.symm.trans hfound')
          exact ⟨_, _, h, hlast, rfl⟩
  | item _ ih =>
      cases h with
      | here => exact hlast.elim
      | item h =>
          obtain ⟨keys', last', h', hlast', hsame⟩ := ih h hlast
          exact ⟨keys', last', .item h', hlast', hsame⟩
  | property =>
      cases h
      exact ⟨_, _, .here _, trivial, rfl⟩

theorem propertyType_replaced (hstraight : r.registry.Straight type)
    (h : Relation.ReflTransGen r.registry.Replaced type type') : r.propertyType type' = r.propertyType type := by
  obtain ⟨wraps, keys, last, hchain, hlast⟩ := hstraight.exists_end
  have hends : ∃ keys' last', r.registry.Chain type' wraps keys' last' ∧ r.registry.Ends last' ∧
      r.atEnd last' = r.atEnd last := by
    induction h with
    | refl => exact ⟨keys, last, hchain, hlast, rfl⟩
    | tail _ hstep ih =>
        obtain ⟨keys', last', hchain', hlast', hsame⟩ := ih
        obtain ⟨keys'', last'', hchain'', hlast'', hsame'⟩ := chain_of_replaced hstep hchain' hlast'
        exact ⟨keys'', last'', hchain'', hlast'', hsame'.trans hsame⟩
  obtain ⟨keys', last', hchain', hlast', hsame⟩ := hends
  rw [propertyType_of_chain hchain' hlast', propertyType_of_chain hchain hlast, hsame]

/-- How the expression of a type comes about. -/
structure Resolved (r : Resolver) (type : SchemaType) : Prop where
  finite : ∃ wraps keys last, r.registry.Chain type wraps keys last ∧ r.registry.Ends last ∧
    keys.length ≤ r.registry.types.length
  terminates : ∀ name, r.propertyType type ≠ .error (.endless name)
  succeeds : (∃ e, r.propertyType type = .ok e) ↔ ∀ key, r.registry.Meets type key → r.registry.Registered key
  fails : ∀ fault, r.propertyType type = .error fault ↔ ∃ key, r.registry.Meets type key ∧
    ¬ r.registry.Registered key ∧ ∃ unknown, fault = .unknown unknown ∧ unknown = .type key ∧
      unknown.reference = key.space ++ "." ++ key.name
  nested : ∀ e, r.propertyType type = .ok e → ∃ wraps keys last name, r.registry.Chain type wraps keys last ∧
    r.registry.Ends last ∧ r.Innermost last name ∧ e = r.nest wraps (.plain name) ∧
      e.references = wraps.map r.collection ++ [name]
  replaced : ∀ type', Relation.ReflTransGen r.registry.Replaced type type' → r.propertyType type' = r.propertyType type
  spelled : ∀ e : TypeExpression, e.Spelled

theorem atEnd_cases (hlast : r.registry.Ends last) :
    (∃ name, r.Innermost last name ∧ r.atEnd last = .ok (.plain name)) ∨
      ∃ key, last = .reference key ∧ ¬ r.registry.Registered key ∧ r.atEnd last = .error (.unknown (.type key)) := by
  cases last with
  | primitive name kind doc => exact .inl ⟨r.table.boxed kind, rfl, rfl⟩
  | object place properties doc => exact .inl ⟨r.placeName place, rfl, rfl⟩
  | enumeration place literals doc => exact .inl ⟨r.placeName place, rfl, rfl⟩
  | array => exact hlast.elim
  | reference key => exact .inr ⟨key, rfl, hlast, rfl⟩

theorem Resolved.of_named (hchain : r.registry.Chain type wraps keys last) (hlast : r.registry.Ends last)
    {name : QualifiedName} (hname : r.Innermost last name) (hend : r.atEnd last = .ok (.plain name)) :
    r.Resolved type := by
  have hstraight := hchain.straight hlast
  have hresult : r.propertyType type = .ok (r.nest wraps (.plain name)) := by
    rw [propertyType_of_chain hchain hlast, hend]
    rfl
  -- A reference that is met and not registered would be the end of the chain, which has a name.
  have hall : ∀ key, r.registry.Meets type key → r.registry.Registered key := by
    intro key hmet
    by_contra hkey
    obtain rfl := hchain.eq_of_missing hlast hmet hkey
    cases hend
  refine ⟨⟨wraps, keys, last, hchain, hlast, hchain.length_le (hchain.nodup hlast)⟩,
    fun name h => propertyType_endless_iff.1 ⟨name, h⟩ hstraight, ⟨fun _ => hall, fun _ => ⟨_, hresult⟩⟩, ?_, ?_,
    fun _ => propertyType_replaced hstraight, TypeExpression.spelled⟩
  · intro fault
    constructor
    · intro h
      rw [hresult] at h
      cases h
    · rintro ⟨key, hmet, hkey, -⟩
      exact absurd (hall key hmet) hkey
  · intro e h
    obtain rfl := Except.ok.inj (hresult.symm.trans h)
    exact ⟨wraps, keys, last, name, hchain, hlast, hname, rfl, r.references_nest wraps (.plain name)⟩

theorem Resolved.of_missing {key : TypeKey} (hchain : r.registry.Chain type wraps keys (.reference key))
    (hkey : ¬ r.registry.Registered key) : r.Resolved type := by
  have hlast : r.registry.Ends (.reference key) := hkey
  have hstraight := hchain.straight hlast
  have hmet : r.registry.Meets type key := ⟨wraps, keys, hchain⟩
  have hresult : r.propertyType type = .error (.unknown (.type key)) := propertyType_of_chain hchain hlast
  have hfails : ∀ e, r.propertyType type ≠ .ok e := by
    intro e h
    rw [hresult] at h
    cases h
  refine ⟨⟨wraps, keys, _, hchain, hlast, hchain.length_le (hchain.nodup hlast)⟩,
    fun name h => propertyType_endless_iff.1 ⟨name, h⟩ hstraight,
    ⟨fun ⟨e, h⟩ => absurd h (hfails e), fun hall => absurd (hall key hmet) hkey⟩, ?_,
    fun e h => absurd h (hfails e), fun _ => propertyType_replaced hstraight, TypeExpression.spelled⟩
  intro fault
  constructor
  · intro h
    obtain rfl := Except.error.inj (hresult.symm.trans h)
    exact ⟨key, hmet, hkey, _, rfl, rfl, rfl⟩
  · rintro ⟨other, hother, hunknown, _, rfl, rfl, -⟩
    obtain rfl := SchemaType.reference.inj (hchain.eq_of_missing hlast hother hunknown)
    exact hresult

theorem property_type_resolved (r : Resolver) (type : SchemaType) (hstraight : r.registry.Straight type) :
    r.Resolved type := by
  obtain ⟨wraps, keys, last, hchain, hlast⟩ := hstraight.exists_end
  rcases atEnd_cases hlast with ⟨name, hname, hend⟩ | ⟨key, rfl, hkey, -⟩
  · exact .of_named hchain hlast hname hend
  · exact .of_missing hchain hkey

section Sample

def sampleKey (name : String) : TypeKey :=
  ⟨"types", name⟩

/-- An object may refer to itself: no chain goes through its properties. -/
def sampleNode : SchemaType :=
  .object ⟨"types", [], "Node"⟩ [⟨"next", .reference (sampleKey "Node"), false, none⟩] ⟨none, none⟩

def sampleRows : SchemaType :=
  .array "Rows" (.array "row" (.reference (sampleKey "Cells")) true ⟨none, none⟩) false ⟨none, none⟩

def sampleResolver : Resolver where
  registry := {
    types := [
      (sampleKey "Rows", ⟨sampleRows, rfl⟩),
      (sampleKey "Cells", ⟨.array "Cells" (.reference (sampleKey "Node")) false ⟨none, none⟩, rfl⟩),
      (sampleKey "Node", ⟨sampleNode, rfl⟩)]
    messages := [] }
  basePackage := "home"
  table := .standard

theorem property_type_resolved_sample :
    sampleResolver.registry.Straight (.reference (sampleKey "Rows")) ∧
    sampleResolver.Resolved (.reference (sampleKey "Rows")) ∧
    (sampleResolver.propertyType (.reference (sampleKey "Rows"))).map TypeExpression.toText =
      .ok "list[set[list[home.types.Node]]]" ∧
    sampleResolver.propertyType sampleRows = sampleResolver.propertyType (.reference (sampleKey "Rows")) ∧
    sampleResolver.registry.Straight (.reference (sampleKey "Gone")) ∧
    sampleResolver.propertyType (.reference (sampleKey "Gone")) = .error (.unknown (.type (sampleKey "Gone"))) := by
  have hchain : sampleResolver.registry.Chain (.reference (sampleKey "Rows")) [false, true, false]
      [sampleKey "Rows", sampleKey "Cells", sampleKey "Node"] sampleNode :=
    .component rfl (.item (.item (.component rfl (.item (.component rfl (.here sampleNode))))))
  have hrows := property_type_resolved sampleResolver _ (hchain.straight trivial)
  have hfound : sampleResolver.registry.lookupType (sampleKey "Rows") = .ok ⟨sampleRows, rfl⟩ := rfl
  have hunknown : ¬ sampleResolver.registry.Registered (sampleKey "Gone") := by decide
  have hgone : sampleResolver.registry.Straight (.reference (sampleKey "Gone")) :=
    (Registry.Chain.here _).straight hunknown
  refine ⟨hchain.straight trivial, hrows, ?_, hrows.replaced _ (.single (.here hfound)), hgone, ?_⟩
  · decide +kernel
  · exact ((property_type_resolved sampleResolver _ hgone).fails _).2
      ⟨_, ⟨[], [], .here _⟩, hunknown, _, rfl, rfl, rfl⟩

end Sample

end Resolver

end TopicBindings.Binding
