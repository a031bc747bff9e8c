import Mathlib.Data.List.Forall2
import TopicBindings.Proofs.Entries
import TopicBindings.Proofs.Outcome
import TopicBindings.Schema.Plain

/-!
Reading plain forms and writing them. Where something may stand in several varieties, what is read is of the variety
that the field `kind` names (`TaggedBy`), at any depth; whatever is tagged by some plain form is read again from its own
one (`ofPlain?_toPlain`), in which no field is left out (`Whole`).
-/

namespace TopicBindings

namespace Plain

variable {p : Plain} {name : String}

theorem textField?_of_field? {s : String} (h : p.field? name = some (.text s)) : p.textField? name = some s := by
  rw [textField?, h]
  rfl

theorem boolField?_of_field? {b : Bool} (h : p.field? name = some (.bool b)) (default : Bool) :
    p.boolField? name default = some b := by
  rw [boolField?, h]
  rfl

theorem listField?_of_field? {items : List Plain} (h : p.field? name = some (.list items)) :
    p.listField? name = some items := by
  rw [listField?, h]
  rfl

theorem optionalText?_of_field? {s : Option String} (h : p.field? name = some (ofOption s)) :
    p.optionalText? name = some s := by
  rw [optionalText?, h]
  cases s <;> rfl

theorem mapM_map {α : Type} {read : Plain → Option α} {write : α → Plain} {xs : List α}
    (h : ∀ x ∈ xs, read (write x) = some x) : (xs.map write).mapM read = some xs := by
  induction xs with
  | nil => rfl
  | cons x rest ih =>
      rw [List.map_cons, List.mapM_cons, h x (.head _), ih fun y hy => h y (.tail _ hy)]
      rfl

theorem mapM_eq_some_iff {α : Type} {read : Plain → Option α} {items : List Plain} {xs : List α} :
    items.mapM read = some xs ↔ List.Forall₂ (fun q x => read q = some x) items xs := by
  induction items generalizing xs with
  | nil => simp [eq_comm]
  | cons q rest ih =>
      rw [List.mapM_cons, List.forall₂_cons_left_iff]
      constructor
      · intro h
        obtain ⟨x, hx, h⟩ := Option.bind_eq_some_iff.1 h
        obtain ⟨ys, hys, h⟩ := Option.bind_eq_some_iff.1 h
        obtain rfl := Option.some.inj h
        exact ⟨x, ys, hx, ih.1 hys, rfl⟩
      · rintro ⟨x, ys, hx, hys, rfl⟩
        rw [hx, ih.2 hys]
        rfl

theorem textsField?_of_field? {texts : List String} (h : p.field? name = some (ofTexts texts)) :
    p.textsField? name = some texts := by
  rw [textsField?, listField?_of_field? h]
  exact mapM_map fun _ _ => rfl

/-- The kinds of the records that a description is made of, and the fields of each. -/
def recordFields : List (Option String × List String) :=
  [(some "primitive", ["kind", "name", "primitive", "title", "description"]),
    (some "object", ["kind", "namespace", "parents", "name", "properties", "title", "description"]),
    (some "enum", ["kind", "namespace", "parents", "name", "literals", "title", "description"]),
    (some "array", ["kind", "name", "item_type", "unique", "title", "description"]),
    (some "reference", ["kind", "namespace", "name"]),
    (some "message", ["kind", "name", "payload", "summary", "description", "deprecated"]),
    (some "message_reference", ["kind", "name"]),
    (none, ["name", "type", "required", "description"]),
    (none, ["name", "publish", "subscribe"]),
    (none, ["title", "version", "description"]),
    (none, ["base_topic", "host", "schemes", "information", "topics", "messages", "types"])]

mutual

/-- No record leaves out a field of its kind. -/
def Whole : Plain → Prop
  | .record fields =>
      ((Plain.record fields).textField? "kind", fields.map Prod.fst) ∈ recordFields ∧ WholeFields fields
  | .list items => WholeItems items
  | .null | .bool _ | .int _ | .text _ => True

def WholeItems : List Plain → Prop
  | [] => True
  | item :: rest => Whole item ∧ WholeItems rest

def WholeFields : List (String × Plain) → Prop
  | [] => True
  | (_, value) :: rest => Whole value ∧ WholeFields rest

end

theorem wholeItems_iff {items : List Plain} : WholeItems items ↔ ∀ item ∈ items, item.Whole := by
  induction items with
  | nil => simp [WholeItems]
  | cons item rest ih => simp [WholeItems, ih]

theorem wholeFields_iff {fields : List (String × Plain)} : WholeFields fields ↔ ∀ field ∈ fields, field.2.Whole := by
  induction fields with
  | nil => simp [WholeFields]
  | cons field rest ih => simp [WholeFields, ih]

@[simp]
theorem whole_record_iff {fields : List (String × Plain)} : (Plain.record fields).Whole ↔
    ((fields.lookup "kind").bind asText?, fields.map Prod.fst) ∈ recordFields ∧ ∀ field ∈ fields, field.2.Whole := by
  rw [Whole, wholeFields_iff]
  rfl

@[simp]
theorem whole_list_iff {items : List Plain} : (Plain.list items).Whole ↔ ∀ item ∈ items, item.Whole := by
  rw [Whole, wholeItems_iff]

theorem whole_map {α : Type} {write : α → Plain} (h : ∀ x, (write x).Whole) (xs : List α) :
    (Plain.list (xs.map write)).Whole := by
  rw [whole_list_iff]
  intro item hitem
  obtain ⟨x, -, rfl⟩ := List.mem_map.1 hitem
  exact h x

@[simp]
theorem whole_text (s : String) : (Plain.text s).Whole := by
  simp [Whole]

@[simp]
theorem whole_bool (b : Bool) : (Plain.bool b).Whole := by
  simp [Whole]

@[simp]
theorem whole_ofOption (s : Option String) : (ofOption s).Whole := by
  cases s <;> simp [ofOption, Whole]

@[simp]
theorem whole_ofTexts (texts : List String) : (ofTexts texts).Whole :=
  whole_map whole_text texts

end Plain

namespace Schema

open Plain (ofOption ofTexts)

/-- The items of a list without repetition, in the order in which they first occur. -/
structure FirstOccurrences (kept all : List String) : Prop where
  mem_iff : ∀ x, x ∈ kept ↔ x ∈ all
  nodup : kept.Nodup
  ordered : kept.Pairwise fun x y => all.idxOf x < all.idxOf y

theorem pairwise_eraseDups (all : List String) :
    all.eraseDups.Pairwise fun x y => all.idxOf x < all.idxOf y := by
  induction all using List.reverseRecOn with
  | nil => exact List.Pairwise.nil
  | append_singleton rest last ih =>
      have hlater : rest.eraseDups.Pairwise fun x y => (rest ++ [last]).idxOf x < (rest ++ [last]).idxOf y := by
        refine ih.imp_of_mem fun {x y} hx hy hlt => ?_
        rwa [List.idxOf_append_of_mem (List.mem_eraseDups.1 hx), List.idxOf_append_of_mem (List.mem_eraseDups.1 hy)]
      rw [Entries.eraseDups_concat]
      split
      · exact hlater
      next hnew =>
        refine List.pairwise_append.2 ⟨hlater, List.pairwise_singleton _ _, fun x hx y hy => ?_⟩
        obtain rfl := List.mem_singleton.1 hy
        have hx := List.mem_eraseDups.1 hx
        rw [List.idxOf_append_of_mem hx, List.idxOf_append_of_notMem hnew]
        exact Nat.lt_of_lt_of_le (List.idxOf_lt_length_iff.2 hx) (Nat.le_add_right _ _)

theorem firstOccurrences_eraseDups (all : List String) : FirstOccurrences all.eraseDups all where
  mem_iff _ := List.mem_eraseDups
  nodup := (pairwise_eraseDups all).imp (by
    rintro x _ hlt rfl
    exact Nat.lt_irrefl _ hlt)
  ordered := pairwise_eraseDups all

namespace SchemaType

def propertyOf? (p : Plain) : Option (Property SchemaType) := do
  let name ← p.textField? "name"
  let type ← p.field? "type"
  return {
    name
    type := ← ofPlain? type
    required := ← p.boolField? "required" false
    description := ← p.optionalText? "description" }

def fieldsOf? (p : Plain) : String → Option SchemaType
  | "primitive" => do
      return .primitive (← p.textField? "name") (← (← p.textField? "primitive") |> Primitive.ofName?)
        (← documentationOf? p)
  | "object" => do
      return .object (← placeOf? p) (← (← p.listField? "properties").mapM propertyOf?) (← documentationOf? p)
  | "enum" => do
      return enumerationOf (← placeOf? p) (← p.textsField? "literals") (← documentationOf? p)
  | "array" => do
      return .array (← p.textField? "name") (← ofPlain? (← p.field? "item_type")) (← p.boolField? "unique" false)
        (← documentationOf? p)
  | "reference" => do
      return .reference ⟨← p.textField? "namespace", ← p.textField? "name"⟩
  | _ => none

theorem ofPlain?_eq (p : Plain) : ofPlain? p = (p.textField? "kind").bind (fieldsOf? p) := by
  rw [ofPlain?]
  refine congrArg _ (funext fun word => ?_)
  split
  · rfl
  · rw [fieldsOf?]
    refine congrArg _ (funext fun place => ?_)
    cases p.listField? "properties" with
    | none => rfl
    | some items =>
        have hmap : items.mapM propertyOf? = items.attach.mapM fun q => propertyOf? q.val := by simp
        simp only [bind, Option.bind_some, hmap]
        refine congrArg (Option.bind · _) (congrArg (items.attach.mapM ·) (funext fun q => ?_))
        unfold propertyOf?
        refine congrArg _ (funext fun name => ?_)
        cases q.val.field? "type" <;> rfl
  · rfl
  · rw [fieldsOf?]
    cases p.field? "item_type" <;> rfl
  · rfl
  · rw [fieldsOf?] <;> assumption

theorem kind_of_fieldsOf? {p : Plain} {word : String} {t : SchemaType} (h : fieldsOf? p word = some t) :
    word = t.kind := by
  unfold fieldsOf? at h
  split at h
  all_goals simp only [bind, pure, Option.bind_eq_some_iff, Option.some.injEq, reduceCtorEq] at h
  · obtain ⟨_, _, _, _, _, _, _, _, rfl⟩ := h
    rfl
  · obtain ⟨_, _, _, _, _, _, _, _, rfl⟩ := h
    rfl
  · obtain ⟨_, _, _, _, _, _, rfl⟩ := h
    rfl
  · obtain ⟨_, _, _, _, _, _, _, _, _, _, rfl⟩ := h
    rfl
  · obtain ⟨_, _, _, _, rfl⟩ := h
    rfl

theorem ofPlain?_eq_some_iff {p : Plain} {t : SchemaType} :
    ofPlain? p = some t ↔ p.textField? "kind" = some t.kind ∧ fieldsOf? p t.kind = some t := by
  rw [ofPlain?_eq, Option.bind_eq_some_iff]
  constructor
  · rintro ⟨word, hword, h⟩
    obtain rfl := kind_of_fieldsOf? h
    exact ⟨hword, h⟩
  · exact fun ⟨hkind, h⟩ => ⟨t.kind, hkind, h⟩

mutual

/-- The field `kind` of a plain form names the variety of a type, also where other types stand in it, and enumerations
have the literals of the plain form. -/
def TaggedBy : SchemaType → Plain → Prop
  | .primitive .., p => p.textField? "kind" = some "primitive"
  | .object _ properties _, p => p.textField? "kind" = some "object" ∧
      ∃ items, p.listField? "properties" = some items ∧ TaggedAllBy properties items
  | .enumeration _ literals _, p => p.textField? "kind" = some "enum" ∧
      ∃ texts, p.textsField? "literals" = some texts ∧ FirstOccurrences literals texts
  | .array _ item _ _, p => p.textField? "kind" = some "array" ∧
      ∃ q, p.field? "item_type" = some q ∧ TaggedBy item q
  | .reference _, p => p.textField? "kind" = some "reference"

def TaggedAllBy : List (Property SchemaType) → List Plain → Prop
  | [], [] => True
  | ⟨_, type, _, _⟩ :: rest, item :: items =>
      (∃ q, item.field? "type" = some q ∧ TaggedBy type q) ∧ TaggedAllBy rest items
  | _, _ => False

end

mutual

theorem taggedBy_of_ofPlain? : ∀ (t : SchemaType) {p : Plain}, ofPlain? p = some t → t.TaggedBy p
  | .primitive .., _, h => (ofPlain?_eq_some_iff.1 h).1
  | .object place properties doc, p, h => by
      obtain ⟨hkind, h⟩ := ofPlain?_eq_some_iff.1 h
      obtain ⟨_, -, h⟩ := Option.bind_eq_some_iff.1 h
      obtain ⟨items, hitems, h⟩ := Option.bind_eq_some_iff.1 h
      obtain ⟨_, hproperties, h⟩ := Option.bind_eq_some_iff.1 h
      obtain ⟨_, -, h⟩ := Option.bind_eq_some_iff.1 h
      cases h
      exact ⟨hkind, items, hitems, taggedAllBy_of_forall₂ properties (Plain.mapM_eq_some_iff.1 hproperties)⟩
  | .enumeration place literals doc, p, h => by
      obtain ⟨hkind, h⟩ := ofPlain?_eq_some_iff.1 h
      obtain ⟨_, -, h⟩ := Option.bind_eq_some_iff.1 h
      obtain ⟨texts, htexts, h⟩ := Option.bind_eq_some_iff.1 h
      obtain ⟨_, -, h⟩ := Option.bind_eq_some_iff.1 h
      cases h
      exact ⟨hkind, texts, htexts, firstOccurrences_eraseDups texts⟩
  | .array name item unique doc, p, h => by
      obtain ⟨hkind, h⟩ := ofPlain?_eq_some_iff.1 h
      obtain ⟨_, -, h⟩ := Option.bind_eq_some_iff.1 h
      obtain ⟨q, hq, h⟩ := Option.bind_eq_some_iff.1 h
      obtain ⟨_, hitem, h⟩ := Option.bind_eq_some_iff.1 h
      obtain ⟨_, -, h⟩ := Option.bind_eq_some_iff.1 h
      obtain ⟨_, -, h⟩ := Option.bind_eq_some_iff.1 h
      cases h
      exact ⟨hkind, q, hq, taggedBy_of_ofPlain? item hitem⟩
  | .reference _, _, h => (ofPlain?_eq_some_iff.1 h).1

theorem taggedAllBy_of_forall₂ : ∀ (properties : List (Property SchemaType)) {items : List Plain},
    List.Forall₂ (fun item property => propertyOf? item = some property) items properties →
      TaggedAllBy properties items
  | [], _, .nil => trivial
  | ⟨_, type, _, _⟩ :: rest, _, .cons h hrest => by
      refine ⟨?_, taggedAllBy_of_forall₂ rest hrest⟩
      obtain ⟨_, -, h⟩ := Option.bind_eq_some_iff.1 h
      obtain ⟨q, hq, h⟩ := Option.bind_eq_some_iff.1 h
      obtain ⟨_, htype, h⟩ := Option.bind_eq_some_iff.1 h
      obtain ⟨_, -, h⟩ := Option.bind_eq_some_iff.1 h
      obtain ⟨_, -, h⟩ := Option.bind_eq_some_iff.1 h
      cases h
      exact ⟨q, hq, taggedBy_of_ofPlain? type htype⟩

end

theorem documentationOf?_of_fields {p : Plain} {doc : Documentation}
    (htitle : p.field? "title" = some (ofOption doc.title))
    (hdescription : p.field? "description" = some (ofOption doc.description)) : documentationOf? p = some doc := by
  rw [documentationOf?, Plain.optionalText?_of_field? htitle, Plain.optionalText?_of_field? hdescription]
  rfl

theorem placeOf?_of_fields {p : Plain} {place : Place} (hspace : p.field? "namespace" = some (.text place.space))
    (hparents : p.field? "parents" = some (ofTexts place.parents)) (hname : p.field? "name" = some (.text place.name)) :
    placeOf? p = some place := by
  rw [placeOf?, Plain.textField?_of_field? hspace, Plain.textsField?_of_field? hparents,
    Plain.textField?_of_field? hname]
  rfl

theorem propertyOf?_of_fields {p q : Plain} {property : Property SchemaType}
    (hname : p.field? "name" = some (.text property.name)) (htype : p.field? "type" = some q)
    (hq : ofPlain? q = some property.type) (hrequired : p.field? "required" = some (.bool property.required))
    (hdescription : p.field? "description" = some (ofOption property.description)) :
    propertyOf? p = some property := by
  simp [propertyOf?, Plain.textField?_of_field? hname, htype, hq, Plain.boolField?_of_field? hrequired,
    Plain.optionalText?_of_field? hdescription]

mutual

theorem ofPlain?_toPlain : ∀ (t : SchemaType) {p : Plain}, t.TaggedBy p → ofPlain? t.toPlain = some t
  | .primitive name kind doc, _, _ => by
      refine ofPlain?_eq_some_iff.2 ⟨rfl, ?_⟩
      have hname : (toPlain (.primitive name kind doc)).textField? "name" = some name := rfl
      have hkind : (toPlain (.primitive name kind doc)).textField? "primitive" = some kind.name := rfl
      have hdoc := documentationOf?_of_fields (p := toPlain (.primitive name kind doc)) rfl rfl
      simp [fieldsOf?, SchemaType.kind, hname, hkind, Primitive.ofName?_name, hdoc]
  | .object place properties doc, _, ⟨_, _, _, htagged⟩ => by
      refine ofPlain?_eq_some_iff.2 ⟨rfl, ?_⟩
      have hplace := placeOf?_of_fields (p := toPlain (.object place properties doc)) rfl rfl rfl
      have hitems : (toPlain (.object place properties doc)).listField? "properties" =
        some (propertiesToPlain properties) := rfl
      have hproperties := Plain.mapM_eq_some_iff.2 (forall₂_propertiesToPlain properties htagged)
      have hdoc := documentationOf?_of_fields (p := toPlain (.object place properties doc)) rfl rfl
      simp [fieldsOf?, SchemaType.kind, hplace, hitems, hproperties, hdoc]
  | .enumeration place literals doc, _, ⟨_, _, _, hliterals⟩ => by
      refine ofPlain?_eq_some_iff.2 ⟨rfl, ?_⟩
      have hplace := placeOf?_of_fields (p := toPlain (.enumeration place literals doc)) rfl rfl rfl
      have htexts : (toPlain (.enumeration place literals doc)).textsField? "literals" = some literals :=
        Plain.textsField?_of_field? rfl
      have hdoc := documentationOf?_of_fields (p := toPlain (.enumeration place literals doc)) rfl rfl
      simp [fieldsOf?, SchemaType.kind, hplace, htexts, hdoc, enumerationOf,
        Entries.eraseDups_of_nodup hliterals.nodup]
  | .array name item unique doc, _, ⟨_, _, _, htagged⟩ => by
      refine ofPlain?_eq_some_iff.2 ⟨rfl, ?_⟩
      have hname : (toPlain (.array name item unique doc)).textField? "name" = some name := rfl
      have hfield : (toPlain (.array name item unique doc)).field? "item_type" = some item.toPlain := rfl
      have hunique : (toPlain (.array name item unique doc)).boolField? "unique" false = some unique := rfl
      have hdoc := documentationOf?_of_fields (p := toPlain (.array name item unique doc)) rfl rfl
      simp [fieldsOf?, SchemaType.kind, hname, hfield, ofPlain?_toPlain item htagged, hunique, hdoc]
  | .reference key, _, _ => ofPlain?_eq_some_iff.2 ⟨rfl, rfl⟩

theorem forall₂_propertiesToPlain : ∀ (properties : List (Property SchemaType)) {items : List Plain},
    TaggedAllBy properties items →
      List.Forall₂ (fun item property => propertyOf? item = some property) (propertiesToPlain properties) properties
  | [], _, _ => .nil
  | ⟨_, type, _, _⟩ :: rest, _ :: _, ⟨⟨_, _, htagged⟩, hrest⟩ =>
      .cons (propertyOf?_of_fields rfl rfl (ofPlain?_toPlain type htagged) rfl rfl)
        (forall₂_propertiesToPlain rest hrest)

end

mutual

theorem whole_toPlain : ∀ t : SchemaType, t.toPlain.Whole
  | .primitive .. => by simp [toPlain, Plain.recordFields, Plain.asText?]
  | .object _ properties _ => by
      have hproperties := whole_propertiesToPlain properties
      simpa [toPlain, Plain.recordFields, Plain.asText?] using hproperties
  | .enumeration .. => by simp [toPlain, Plain.recordFields, Plain.asText?]
  | .array _ item _ _ => by
      have hitem := whole_toPlain item
      simpa [toPlain, Plain.recordFields, Plain.asText?] using hitem
  | .reference _ => by simp [toPlain, Plain.recordFields, Plain.asText?]

theorem whole_propertiesToPlain : ∀ properties : List (Property SchemaType),
    ∀ item ∈ propertiesToPlain properties, item.Whole
  | [], _, hitem => nomatch hitem
  | ⟨_, type, _, _⟩ :: rest, item, hitem => by
      have htype := whole_toPlain type
      rw [propertiesToPlain] at hitem
      rcases List.mem_cons.1 hitem with rfl | hitem
      · simpa [Plain.recordFields, List.lookup_cons] using htype
      · exact whole_propertiesToPlain rest item hitem

end

end SchemaType

namespace DeclaredType

/-- A type that is spelled out, so that its kind is that of no reference. -/
def TaggedBy (t : DeclaredType) (p : Plain) : Prop :=
  t.val.TaggedBy p ∧ p.textField? "kind" ≠ some "reference"

theorem ofPlain?_eq_some_iff {p : Plain} {t : DeclaredType} :
    ofPlain? p = some t ↔ SchemaType.ofPlain? p = some t.val := by
  rw [ofPlain?]
  cases SchemaType.ofPlain? p with
  | none => simp
  | some type =>
      by_cases h : type.isDeclared = true
      · simp [h, Subtype.ext_iff]
      · simp only [h, Bool.false_eq_true, dite_false, reduceCtorEq, Option.some.injEq, false_iff]
        rintro rfl
        exact h t.property

theorem taggedBy_of_ofPlain? {p : Plain} {t : DeclaredType} (h : ofPlain? p = some t) : t.TaggedBy p := by
  have hread := ofPlain?_eq_some_iff.1 h
  refine ⟨SchemaType.taggedBy_of_ofPlain? t.val hread, fun hkind => ?_⟩
  rw [(SchemaType.ofPlain?_eq_some_iff.1 hread).1] at hkind
  obtain ⟨type, hdeclared⟩ := t
  cases type with
  | reference => cases hdeclared
  | primitive | object | enumeration | array => simp [SchemaType.kind] at hkind

theorem ofPlain?_toPlain {t : DeclaredType} {p : Plain} (h : t.TaggedBy p) : ofPlain? t.val.toPlain = some t :=
  ofPlain?_eq_some_iff.2 (SchemaType.ofPlain?_toPlain t.val h.1)

end DeclaredType

namespace Message

def fieldsOf? (p : Plain) : Option Message := do
  let name ← p.textField? "name"
  let payload ← p.field? "payload"
  return {
    name
    payload := ← SchemaType.ofPlain? payload
    summary := ← p.optionalText? "summary"
    description := ← p.optionalText? "description"
    deprecated := ← p.boolField? "deprecated" false }

theorem ofPlain?_eq_some_iff {p : Plain} {m : Message} : ofPlain? p = some m ↔
    (p.field? "kind" = none ∨ p.field? "kind" = some (.text "message")) ∧ fieldsOf? p = some m := by
  rw [ofPlain?]
  split
  next hkind => simp [hkind, fieldsOf?]
  next hkind => simp [hkind, fieldsOf?]
  next value hnot hkind =>
    constructor
    · nofun
    · rintro ⟨hnone | hmessage, -⟩
      · cases hkind.symm.trans hnone
      · exact absurd (Option.some.inj (hkind.symm.trans hmessage)) hnot

def TaggedBy (m : Message) (p : Plain) : Prop :=
  (p.field? "kind" = none ∨ p.field? "kind" = some (.text "message")) ∧
    ∃ q, p.field? "payload" = some q ∧ m.payload.TaggedBy q

theorem taggedBy_of_ofPlain? {p : Plain} {m : Message} (h : ofPlain? p = some m) : m.TaggedBy p := by
  obtain ⟨hkind, h⟩ := ofPlain?_eq_some_iff.1 h
  obtain ⟨_, -, h⟩ := Option.bind_eq_some_iff.1 h
  obtain ⟨q, hq, h⟩ := Option.bind_eq_some_iff.1 h
  obtain ⟨payload, hpayload, h⟩ := Option.bind_eq_some_iff.1 h
  obtain ⟨_, -, h⟩ := Option.bind_eq_some_iff.1 h
  obtain ⟨_, -, h⟩ := Option.bind_eq_some_iff.1 h
  obtain ⟨_, -, h⟩ := Option.bind_eq_some_iff.1 h
  cases h
  exact ⟨hkind, q, hq, payload.taggedBy_of_ofPlain? hpayload⟩

theorem ofPlain?_toPlain {m : Message} {p : Plain} (h : m.TaggedBy p) : ofPlain? m.toPlain = some m := by
  obtain ⟨-, _, -, hpayload⟩ := h
  refine ofPlain?_eq_some_iff.2 ⟨.inr rfl, ?_⟩
  have hname : m.toPlain.textField? "name" = some m.name := rfl
  have hfield : m.toPlain.field? "payload" = some m.payload.toPlain := rfl
  have hsummary : m.toPlain.optionalText? "summary" = some m.summary := Plain.optionalText?_of_field? rfl
  have hdescription : m.toPlain.optionalText? "description" = some m.description := Plain.optionalText?_of_field? rfl
  have hdeprecated : m.toPlain.boolField? "deprecated" false = some m.deprecated := rfl
  simp [fieldsOf?, hname, hfield, m.payload.ofPlain?_toPlain hpayload, hsummary, hdescription, hdeprecated]

theorem whole_toPlain (m : Message) : m.toPlain.Whole := by
  simp [toPlain, Plain.recordFields, Plain.asText?, m.payload.whole_toPlain]

end Message

namespace MessageRef

def TaggedBy : MessageRef → Plain → Prop
  | .inline m, p => p.textField? "kind" = some "message" ∧ m.TaggedBy p
  | .named _, p => p.textField? "kind" = some "message_reference"

theorem taggedBy_of_ofPlain? {p : Plain} {ref : MessageRef} (h : ofPlain? p = some ref) : ref.TaggedBy p := by
  obtain ⟨word, hword, h⟩ := Option.bind_eq_some_iff.1 h
  split at h
  · obtain ⟨m, hm, h⟩ := Option.bind_eq_some_iff.1 h
    cases h
    exact ⟨hword, Message.taggedBy_of_ofPlain? hm⟩
  · obtain ⟨name, -, h⟩ := Option.bind_eq_some_iff.1 h
    cases h
    exact hword
  · cases h

theorem ofPlain?_toPlain : ∀ {ref : MessageRef} {p : Plain}, ref.TaggedBy p → ofPlain? ref.toPlain = some ref
  | .inline m, _, h => by
      have hkind : m.toPlain.textField? "kind" = some "message" := rfl
      simp [ofPlain?, toPlain, hkind, Message.ofPlain?_toPlain h.2]
  | .named _, _, _ => rfl

theorem whole_toPlain : ∀ ref : MessageRef, ref.toPlain.Whole
  | .inline m => m.whole_toPlain
  | .named _ => by simp [toPlain, Plain.recordFields, Plain.asText?]

end MessageRef

def SideTaggedBy (name : String) : Option MessageRef → Plain → Prop
  | none, p => p.field? name = none ∨ p.field? name = some .null
  | some ref, p => ∃ q, p.field? name = some q ∧ ref.TaggedBy q

theorem sideTaggedBy_of_optionalMessage? {p : Plain} {name : String} {side : Option MessageRef}
    (h : optionalMessage? p name = some side) : SideTaggedBy name side p := by
  rw [optionalMessage?] at h
  split at h
  next hnone =>
    cases h
    exact .inl hnone
  next hnull =>
    cases h
    exact .inr hnull
  next q _ hq =>
    obtain ⟨ref, href, h⟩ := Option.map_eq_some_iff.1 h
    cases h
    exact ⟨q, hq, MessageRef.taggedBy_of_ofPlain? href⟩

theorem optionalMessage?_of_field? {p q : Plain} {name : String} {side : Option MessageRef}
    (hfield : p.field? name = some (optionalMessageToPlain side)) (h : SideTaggedBy name side q) :
    optionalMessage? p name = some side := by
  rw [optionalMessage?, hfield]
  cases side with
  | none => rfl
  | some ref =>
      obtain ⟨_, -, htagged⟩ := h
      have href := congrArg (Option.map some) (MessageRef.ofPlain?_toPlain htagged)
      cases ref <;> exact href

theorem whole_optionalMessageToPlain : ∀ side : Option MessageRef, (optionalMessageToPlain side).Whole
  | none => by simp [optionalMessageToPlain, Plain.Whole]
  | some ref => ref.whole_toPlain

end Schema

namespace Topic

open Schema (SideTaggedBy sideTaggedBy_of_optionalMessage? optionalMessage?_of_field? whole_optionalMessageToPlain)

def TaggedBy (t : Topic) (p : Plain) : Prop :=
  SideTaggedBy "publish" t.publish p ∧ SideTaggedBy "subscribe" t.subscribe p

theorem taggedBy_of_ofPlain? {p : Plain} {t : Topic} (h : ofPlain? p = some t) : t.TaggedBy p := by
  obtain ⟨_, -, h⟩ := Option.bind_eq_some_iff.1 h
  obtain ⟨_, hpublish, h⟩ := Option.bind_eq_some_iff.1 h
  obtain ⟨_, hsubscribe, h⟩ := Option.bind_eq_some_iff.1 h
  cases h
  exact ⟨sideTaggedBy_of_optionalMessage? hpublish, sideTaggedBy_of_optionalMessage? hsubscribe⟩

theorem ofPlain?_toPlain {t : Topic} {p : Plain} (h : t.TaggedBy p) : ofPlain? t.toPlain = some t := by
  have hname : t.toPlain.textField? "name" = some t.name := rfl
  have hpublish := optionalMessage?_of_field? (p := t.toPlain) rfl h.1
  have hsubscribe := optionalMessage?_of_field? (p := t.toPlain) rfl h.2
  simp [ofPlain?, hname, hpublish, hsubscribe]

theorem whole_toPlain (t : Topic) : t.toPlain.Whole := by
  simp [toPlain, Plain.recordFields, List.lookup_cons, whole_optionalMessageToPlain]

end Topic

namespace Schema

namespace About

theorem ofPlain?_toPlain (a : About) : ofPlain? a.toPlain = some a := by
  have htitle : a.toPlain.optionalText? "title" = some a.title := Plain.optionalText?_of_field? rfl
  have hversion : a.toPlain.textField? "version" = some a.version := rfl
  have hdescription : a.toPlain.optionalText? "description" = some a.description := Plain.optionalText?_of_field? rfl
  simp [ofPlain?, htitle, hversion, hdescription]

theorem whole_toPlain (a : About) : a.toPlain.Whole := by
  simp [toPlain, Plain.recordFields, List.lookup_cons]

end About

/-- All parts of a description are tagged by the items at the same places in plain data. -/
structure TaggedBy (s : Schema) (p : Plain) : Prop where
  topics : ∃ items, p.listField? "topics" = some items ∧ List.Forall₂ (fun q t => t.TaggedBy q) items s.topics
  messages : ∃ items, p.listField? "messages" = some items ∧ List.Forall₂ (fun q m => m.TaggedBy q) items s.messages
  types : ∃ items, p.listField? "types" = some items ∧ List.Forall₂ (fun q t => t.TaggedBy q) items s.types

theorem taggedBy_of_ofPlain? {p : Plain} {s : Schema} (h : ofPlain? p = some s) : s.TaggedBy p := by
  obtain ⟨_, -, h⟩ := Option.bind_eq_some_iff.1 h
  obtain ⟨_, -, h⟩ := Option.bind_eq_some_iff.1 h
  obtain ⟨_, -, h⟩ := Option.bind_eq_some_iff.1 h
  obtain ⟨_, -, h⟩ := Option.bind_eq_some_iff.1 h
  obtain ⟨_, -, h⟩ := Option.bind_eq_some_iff.1 h
  obtain ⟨topicItems, htopicItems, h⟩ := Option.bind_eq_some_iff.1 h
  obtain ⟨_, htopics, h⟩ := Option.bind_eq_some_iff.1 h
  obtain ⟨messageItems, hmessageItems, h⟩ := Option.bind_eq_some_iff.1 h
  obtain ⟨_, hmessages, h⟩ := Option.bind_eq_some_iff.1 h
  obtain ⟨typeItems, htypeItems, h⟩ := Option.bind_eq_some_iff.1 h
  obtain ⟨_, htypes, h⟩ := Option.bind_eq_some_iff.1 h
  cases h
  exact {
    topics := ⟨topicItems, htopicItems, (Plain.mapM_eq_some_iff.1 htopics).imp fun _ _ => Topic.taggedBy_of_ofPlain?⟩
    messages := ⟨messageItems, hmessageItems,
      (Plain.mapM_eq_some_iff.1 hmessages).imp fun _ _ => Message.taggedBy_of_ofPlain?⟩
    types := ⟨typeItems, htypeItems,
      (Plain.mapM_eq_some_iff.1 htypes).imp fun _ _ => DeclaredType.taggedBy_of_ofPlain?⟩ }

theorem ofPlain?_toPlain {s : Schema} {p : Plain} (h : s.TaggedBy p) : ofPlain? s.toPlain = some s := by
  have hbase : s.toPlain.optionalText? "base_topic" = some s.baseTopic := Plain.optionalText?_of_field? rfl
  have hhost : s.toPlain.textField? "host" = some s.host := rfl
  have hschemes : s.toPlain.textsField? "schemes" = some s.schemes := Plain.textsField?_of_field? rfl
  have habout : s.toPlain.field? "information" = some s.about.toPlain := rfl
  have htopicItems : s.toPlain.listField? "topics" = some (s.topics.map Topic.toPlain) := rfl
  have htopics : (s.topics.map Topic.toPlain).mapM Topic.ofPlain? = some s.topics := Plain.mapM_map fun t ht => by
    obtain ⟨items, -, hitems⟩ := h.topics
    obtain ⟨_, -, htagged⟩ := Outcome.exists_of_forall₂ hitems ht
    exact Topic.ofPlain?_toPlain htagged
  have hmessageItems : s.toPlain.listField? "messages" = some (s.messages.map Message.toPlain) := rfl
  have hmessages : (s.messages.map Message.toPlain).mapM Message.ofPlain? = some s.messages :=
    Plain.mapM_map fun m hm => by
      obtain ⟨items, -, hitems⟩ := h.messages
      obtain ⟨_, -, htagged⟩ := Outcome.exists_of_forall₂ hitems hm
      exact Message.ofPlain?_toPlain htagged
  have htypeItems : s.toPlain.listField? "types" = some (s.types.map fun t => t.val.toPlain) := rfl
  have htypes : (s.types.map fun t => t.val.toPlain).mapM DeclaredType.ofPlain? = some s.types :=
    Plain.mapM_map fun t ht => by
      obtain ⟨items, -, hitems⟩ := h.types
      obtain ⟨_, -, htagged⟩ := Outcome.exists_of_forall₂ hitems ht
      exact DeclaredType.ofPlain?_toPlain htagged
  simp only [ofPlain?, hbase, hhost, hschemes, habout, s.about.ofPlain?_toPlain, htopicItems, htopics, hmessageItems,
    hmessages, htypeItems, htypes, bind, pure, Option.bind_some]

theorem whole_toPlain (s : Schema) : s.toPlain.Whole := by
  simp [toPlain, Plain.recordFields, List.lookup_cons, About.whole_toPlain, Plain.whole_map Topic.whole_toPlain,
    Plain.whole_map Message.whole_toPlain, Plain.whole_map SchemaType.whole_toPlain, -Plain.whole_list_iff]

/-- Values that are read from plain data are read again from what they are written as, and no field is left out in that;
the varieties in them are those that the data names. -/
structure RoundTrips {α : Type} (ofPlain? : Plain → Option α) (toPlain : α → Plain) (TaggedBy : α → Plain → Prop) :
    Prop where
  read_again : ∀ {p v}, ofPlain? p = some v → ofPlain? (toPlain v) = some v
  written_again : ∀ {p v w}, ofPlain? p = some v → ofPlain? (toPlain v) = some w → toPlain w = toPlain v
  whole : ∀ {p v}, ofPlain? p = some v → (toPlain v).Whole
  tagged : ∀ {p v}, ofPlain? p = some v → TaggedBy v p

theorem roundTrips_of_tagged {α : Type} {ofPlain? : Plain → Option α} {toPlain : α → Plain}
    {TaggedBy : α → Plain → Prop} (htagged : ∀ {p v}, ofPlain? p = some v → TaggedBy v p)
    (hread : ∀ {p v}, TaggedBy v p → ofPlain? (toPlain v) = some v) (hwhole : ∀ v, (toPlain v).Whole) :
    RoundTrips ofPlain? toPlain TaggedBy where
  read_again h := hread (htagged h)
  written_again h hw := by rw [Option.some.inj (hw.symm.trans (hread (htagged h)))]
  whole {_ v} _ := hwhole v
  tagged := htagged

/-- What is read from plain data is read again from its own plain form, which leaves out no field; it is of the variety
that the kinds in the data name, and enumerations list their literals once, in the order of the data. -/
theorem plain_forms_round_trip :
    RoundTrips SchemaType.ofPlain? SchemaType.toPlain SchemaType.TaggedBy ∧
    RoundTrips DeclaredType.ofPlain? (fun t => t.val.toPlain) DeclaredType.TaggedBy ∧
    RoundTrips Message.ofPlain? Message.toPlain Message.TaggedBy ∧
    RoundTrips MessageRef.ofPlain? MessageRef.toPlain MessageRef.TaggedBy ∧
    RoundTrips Topic.ofPlain? Topic.toPlain Topic.TaggedBy ∧
    RoundTrips Schema.ofPlain? Schema.toPlain Schema.TaggedBy := by
  refine ⟨?types, ?declared, ?messages, ?sides, ?topics, ?descriptions⟩
  case types =>
    exact roundTrips_of_tagged (SchemaType.taggedBy_of_ofPlain? _) (SchemaType.ofPlain?_toPlain _)
      SchemaType.whole_toPlain
  case declared =>
    exact roundTrips_of_tagged DeclaredType.taggedBy_of_ofPlain? DeclaredType.ofPlain?_toPlain
      fun t => t.val.whole_toPlain
  case messages =>
    exact roundTrips_of_tagged Message.taggedBy_of_ofPlain? Message.ofPlain?_toPlain Message.whole_toPlain
  case sides =>
    exact roundTrips_of_tagged MessageRef.taggedBy_of_ofPlain? MessageRef.ofPlain?_toPlain MessageRef.whole_toPlain
  case topics => exact roundTrips_of_tagged Topic.taggedBy_of_ofPlain? Topic.ofPlain?_toPlain Topic.whole_toPlain
  case descriptions => exact roundTrips_of_tagged taggedBy_of_ofPlain? ofPlain?_toPlain whole_toPlain

/-- A description with little more than it needs; one literal is there twice. -/
def samplePlain : Plain :=
  .record [("host", .text "h"), ("information", .record [("version", .text "1")]),
    ("topics", .list [.record [("name", .text "t"),
      ("publish", .record [("kind", .text "message"), ("name", .text "m"),
        ("payload", .record [("kind", .text "enum"), ("namespace", .text "messages"), ("name", .text "e"),
          ("literals", .list [.text "b", .text "a", .text "b"])])]),
      ("subscribe", .record [("kind", .text "message_reference"), ("name", .text "n")])]]),
    ("messages", .list [.record [("name", .text "n"),
      ("payload", .record [("kind", .text "reference"), ("namespace", .text "types"), ("name", .text "o")])]]),
    ("types", .list [.record [("kind", .text "object"), ("namespace", .text "types"), ("name", .text "o"),
      ("properties", .list [.record [("name", .text "p"),
        ("type", .record [("kind", .text "array"), ("name", .text "i"),
          ("item_type", .record [("kind", .text "primitive"), ("name", .text "x"),
            ("primitive", .text "integer")])])]])]])]

def sampleRead : Schema where
  baseTopic := none
  host := "h"
  schemes := []
  about := ⟨none, "1", none⟩
  topics := [⟨"t", some (.inline ⟨"m", .enumeration ⟨"messages", [], "e"⟩ ["b", "a"] ⟨none, none⟩, none, none, false⟩),
    some (.named "n")⟩]
  messages := [⟨"n", .reference ⟨"types", "o"⟩, none, none, false⟩]
  types := [⟨.object ⟨"types", [], "o"⟩ [⟨"p", .array "i" (.primitive "x" .integer ⟨none, none⟩) false ⟨none, none⟩,
    false, none⟩] ⟨none, none⟩, rfl⟩]

theorem plain_forms_round_trip_sample : ofPlain? samplePlain = some sampleRead ∧
    ofPlain? sampleRead.toPlain = some sampleRead ∧ sampleRead.toPlain.Whole ∧ sampleRead.TaggedBy samplePlain := by
  have hread : ofPlain? samplePlain = some sampleRead := by decide +kernel
  obtain ⟨-, -, -, -, -, hdescriptions⟩ := plain_forms_round_trip
  exact ⟨hread, hdescriptions.read_again hread, hdescriptions.whole hread, hdescriptions.tagged hread⟩

end Schema

end TopicBindings
