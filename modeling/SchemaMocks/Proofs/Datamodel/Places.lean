import SchemaMocks.Datamodel.Validation

set_option autoImplicit false
set_option relaxedAutoImplicit false

/-!
Places in documents, and what is wrong there. The items of a document have places in document order:
enums before models, and the name of a model before its fields. Each rule about names is stated for
a place on its own, without regard to the other rules. At the first place where something is wrong
only one thing is: a name that breaks two rules has been seen before, where it broke one of them.
-/

namespace SchemaMocks

/-- Where an item with a name stands. -/
inductive Place where
  | enum (i : Nat)
  | model (i : Nat)
  | field (model i : Nat)

namespace Place

/-- Document order. -/
inductive Before : Place → Place → Prop
  | enums {i j : Nat} (h : i < j) : Before (enum i) (enum j)
  | enumModel {i j : Nat} : Before (enum i) (model j)
  | enumField {i n j : Nat} : Before (enum i) (field n j)
  | models {i j : Nat} (h : i < j) : Before (model i) (model j)
  | modelField {i n j : Nat} (h : i ≤ n) : Before (model i) (field n j)
  | fieldModel {n i j : Nat} (h : n < j) : Before (field n i) (model j)
  | fieldsApart {n i m j : Nat} (h : n < m) : Before (field n i) (field m j)
  | fields {n i j : Nat} (h : i < j) : Before (field n i) (field n j)

inductive Precedes : Place → Place → Prop
  | enums {i j : Nat} (h : i < j) : Precedes (enum i) (enum j)
  | models {i j : Nat} (h : i < j) : Precedes (model i) (model j)
  | fields {n i j : Nat} (h : i < j) : Precedes (field n i) (field n j)

variable {p q : Place}

private theorem Precedes.before (h : p.Precedes q) : p.Before q := by
  cases h with
  | enums h => exact .enums h
  | models h => exact .models h
  | fields h => exact .fields h

private theorem before_total (p q : Place) : p.Before q ∨ p = q ∨ q.Before p := by
  cases p with
  | enum i =>
    cases q with
    | enum j =>
      rcases Nat.lt_trichotomy i j with h | rfl | h
      · exact .inl (.enums h)
      · exact .inr (.inl rfl)
      · exact .inr (.inr (.enums h))
    | model j => exact .inl .enumModel
    | field n j => exact .inl .enumField
  | model i =>
    cases q with
    | enum j => exact .inr (.inr .enumModel)
    | model j =>
      rcases Nat.lt_trichotomy i j with h | rfl | h
      · exact .inl (.models h)
      · exact .inr (.inl rfl)
      · exact .inr (.inr (.models h))
    | field n j =>
      rcases Nat.lt_or_ge n i with h | h
      · exact .inr (.inr (.fieldModel h))
      · exact .inl (.modelField h)
  | field n i =>
    cases q with
    | enum j => exact .inr (.inr .enumField)
    | model j =>
      rcases Nat.lt_or_ge n j with h | h
      · exact .inl (.fieldModel h)
      · exact .inr (.inr (.modelField h))
    | field m j =>
      rcases Nat.lt_trichotomy n m with h | rfl | h
      · exact .inl (.fieldsApart h)
      · rcases Nat.lt_trichotomy i j with h | rfl | h
        · exact .inl (.fields h)
        · exact .inr (.inl rfl)
        · exact .inr (.inr (.fields h))
      · exact .inr (.inr (.fieldsApart h))

end Place

structure NamedItem where
  name : String
  blank : DocumentFault
  repeated : DocumentFault

def EnumType.item (e : EnumType) : NamedItem :=
  ⟨e.name, .blankEnum, .repeatedEnum e.name⟩

def Model.item (model : Model) : NamedItem :=
  ⟨model.name, .blankModel, .repeatedModel model.name⟩

def Model.fieldItem (model : Model) (field : Field) : NamedItem :=
  ⟨field.name, .blankField model.name, .repeatedField model.name field.name⟩

namespace Document

def itemAt? (doc : Document) : Place → Option NamedItem
  | .enum i => doc.enums[i]?.map EnumType.item
  | .model i => doc.models[i]?.map Model.item
  | .field n i => doc.models[n]?.bind fun model => model.fields[i]?.map model.fieldItem

/-- What is wrong with the item at a place: its name is blank, or stands before it in its list, or
it is the name of a model and of an enum. -/
inductive Violates (doc : Document) : Place → DocumentFault → Prop
  | blank {place : Place} {item : NamedItem} (hitem : doc.itemAt? place = some item)
      (hblank : Text.trimmed item.name = "") : Violates doc place item.blank
  | repeated {place earlier : Place} {item other : NamedItem}
      (hitem : doc.itemAt? place = some item) (hearlier : earlier.Precedes place)
      (hother : doc.itemAt? earlier = some other) (hname : other.name = item.name) :
      Violates doc place item.repeated
  | shared {i j : Nat} {item other : NamedItem} (hitem : doc.itemAt? (.model i) = some item)
      (hother : doc.itemAt? (.enum j) = some other) (hname : other.name = item.name) :
      Violates doc (.model i) (.sharedName item.name)

def CleanBefore (doc : Document) (place : Place) : Prop :=
  ∀ earlier : Place, earlier.Before place → ∀ fault, ¬doc.Violates earlier fault

/-- What is wrong at the first place where something is. -/
def FirstViolation (doc : Document) (fault : DocumentFault) : Prop :=
  ∃ place, doc.Violates place fault ∧ doc.CleanBefore place

section Places

variable {doc : Document} {place earlier : Place} {item other : NamedItem}
  {fault fault' : DocumentFault}

private theorem not_blank_of_repeated (hearlier : earlier.Precedes place)
    (hother : doc.itemAt? earlier = some other) (hname : other.name = item.name)
    (hfirst : doc.CleanBefore place) :
    Text.trimmed item.name ≠ "" := fun hblank =>
  hfirst earlier hearlier.before _ (.blank hother (hname ▸ hblank))

private theorem not_blank_of_shared {i j : Nat} (hother : doc.itemAt? (.enum j) = some other)
    (hname : other.name = item.name) (hfirst : doc.CleanBefore (.model i)) :
    Text.trimmed item.name ≠ "" := fun hblank =>
  hfirst (.enum j) .enumModel _ (.blank hother (hname ▸ hblank))

private theorem not_shared_of_repeated {i j : Nat} {e : NamedItem}
    (hearlier : earlier.Precedes (.model i)) (hother : doc.itemAt? earlier = some other)
    (hname : other.name = item.name) (henum : doc.itemAt? (.enum j) = some e)
    (hfirst : doc.CleanBefore (.model i)) :
    e.name ≠ item.name := fun hshared => by
  cases hearlier with
  | models h => exact hfirst _ (.models h) _ (.shared hother henum (hshared.trans hname.symm))

private theorem Violates.unique (h : doc.Violates place fault) (h' : doc.Violates place fault')
    (hfirst : doc.CleanBefore place) : fault = fault' := by
  cases h with
  | blank hitem hblank =>
    cases h' with
    | blank hitem' => rw [Option.some.inj (hitem.symm.trans hitem')]
    | repeated hitem' hearlier hother hname =>
      obtain rfl := Option.some.inj (hitem.symm.trans hitem')
      exact absurd hblank (not_blank_of_repeated hearlier hother hname hfirst)
    | shared hitem' hother hname =>
      obtain rfl := Option.some.inj (hitem.symm.trans hitem')
      exact absurd hblank (not_blank_of_shared hother hname hfirst)
  | repeated hitem hearlier hother hname =>
    cases h' with
    | blank hitem' hblank =>
      obtain rfl := Option.some.inj (hitem.symm.trans hitem')
      exact absurd hblank (not_blank_of_repeated hearlier hother hname hfirst)
    | repeated hitem' => rw [Option.some.inj (hitem.symm.trans hitem')]
    | shared hitem' henum hshared =>
      obtain rfl := Option.some.inj (hitem.symm.trans hitem')
      exact absurd hshared (not_shared_of_repeated hearlier hother hname henum hfirst)
  | shared hitem henum hshared =>
    cases h' with
    | blank hitem' hblank =>
      obtain rfl := Option.some.inj (hitem.symm.trans hitem')
      exact absurd hblank (not_blank_of_shared henum hshared hfirst)
    | repeated hitem' hearlier hother hname =>
      obtain rfl := Option.some.inj (hitem.symm.trans hitem')
      exact absurd hshared (not_shared_of_repeated hearlier hother hname henum hfirst)
    | shared hitem' => rw [Option.some.inj (hitem.symm.trans hitem')]

theorem FirstViolation.unique (h : doc.FirstViolation fault) (h' : doc.FirstViolation fault') :
    fault = fault' := by
  obtain ⟨place, hviolates, hfirst⟩ := h
  obtain ⟨place', hviolates', hfirst'⟩ := h'
  rcases place.before_total place' with hbefore | rfl | hbefore
  · exact absurd hviolates (hfirst' place hbefore fault)
  · exact hviolates.unique hviolates' hfirst
  · exact absurd hviolates' (hfirst place' hbefore fault')

end Places

end Document

end SchemaMocks
