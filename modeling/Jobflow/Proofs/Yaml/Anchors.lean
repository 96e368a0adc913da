import Jobflow.Proofs.Labels
import Jobflow.Proofs.Logged
import Jobflow.Proofs.Yaml.Document

/-!
# Anchors

The document of a value determines what can be said of it. A reference never stands for a collection
that is still being written, since no collection is inside itself, so two values with one document agree
on every value that is complete before it is referred to.

A value has a document if all its parts have a form and none is nested too deeply.
-/

namespace Jobflow.Yaml

/-! ## Nodes -/

/-- What a value is whose node is a given one, and the anchors written after it. -/
def Shows (repeated written : List Nat) (value : Value) (after : List Nat) : Node → Prop
  | .word word => word? value = some word ∧ after = written
  | .text s => value = .text s ∧ after = written
  | .time anchor text => ∃ label timestamp, value = .time label timestamp ∧
    anchorOf repeated label = anchor ∧ timestamp.text = text ∧ after = begun written anchor
  | .reference anchor =>
    anchorOf repeated value.label? = some anchor ∧ anchor ∈ written ∧ after = written
  | .list anchor nodes => ∃ room items, value.sequence? = some items ∧
    anchorOf repeated value.label? = anchor ∧
      nodesOf room repeated (begun written anchor) items = .ok (nodes, after)
  | .map anchor nodes => ∃ room label entries, value = .map label entries ∧
    anchorOf repeated label = anchor ∧
      entryNodesOf room repeated (begun written anchor) entries = .ok (nodes, after)

section

variable {room : Nat} {repeated written after : List Nat} {value : Value} {node : Node}

end

/-! ## Values that have nodes -/

section

variable {room : Nat} {repeated : List Nat}

end

/-! ## Scalars are words -/

section

variable {room : Nat} {repeated written after : List Nat}

end

/-! ## Collections met again -/

/-- What a document is written with: the values that labels stand for, and the labels of those met
again. -/
structure Draft where
  /-- The value of each label. -/
  store : Nat → Option Value
  /-- The labels met again. -/
  repeated : List Nat

namespace Draft

/-- The anchor of a value, if it has one. -/
def anchor (draft : Draft) (value : Value) : Option Nat := anchorOf draft.repeated value.label?

/-- Whether an anchor stands for a value. -/
structure Holds (draft : Draft) (anchor : Nat) (holder : Value) : Prop where
  /-- The value is one that is met. -/
  sound : holder.Sound draft.store
  /-- Its anchor is this one. -/
  anchored : draft.anchor holder = some anchor

/-- An anchor is that of a single label. -/
theorem label_of_anchorOf (repeated : List Nat) (label : Option Nat) (anchor : Nat)
    (anchored : anchorOf repeated label = some anchor) :
    ∃ number, label = some number ∧ repeated[anchor - 1]? = some number := by
  cases label with
  | none => cases anchored
  | some number =>
    refine ⟨number, rfl, ?_⟩
    rw [anchorOf, Option.bind_some, Option.map_eq_some_iff] at anchored
    obtain ⟨place, found, rfl⟩ := anchored
    obtain ⟨inside, here, -⟩ := List.findIdx?_eq_some_iff_getElem.mp found
    rw [Nat.add_sub_cancel, List.getElem?_eq_getElem inside, eq_of_beq here]

/-- An anchor stands for a single value. -/
theorem Holds.unique {draft : Draft} {anchor : Nat} {holder other : Value}
    (holds : draft.Holds anchor holder) (otherHolds : draft.Holds anchor other) :
    holder = other := by
  obtain ⟨number, labelled, place⟩ := label_of_anchorOf draft.repeated _ anchor holds.anchored
  obtain ⟨_, otherLabelled, otherPlace⟩ :=
    label_of_anchorOf draft.repeated _ anchor otherHolds.anchored
  obtain rfl := Option.some.inj (place.symm.trans otherPlace)
  exact Option.some.inj ((holds.sound.eq_store number labelled).symm.trans
    (otherHolds.sound.eq_store number otherLabelled))

/-- What an anchor stands for says the same in both documents. -/
def Settled (left right : Draft) (anchor : Nat) : Prop :=
  ∀ value other, left.Holds anchor value → right.Holds anchor other →
    value.content = other.content

/-- Of the anchors written, each is settled or stands for something larger than what is written
next. -/
def Trail (left right : Draft) (size : Nat) (written : List Nat) : Prop :=
  ∀ anchor ∈ written, Settled left right anchor ∨
    ∀ holder, left.Holds anchor holder → size < sizeOf holder

/-- Parts of two documents agree: they say the same, and the anchors written in them are settled. -/
structure Agree {α : Type} (left right : Draft) (written : List Nat) (said otherSaid : α)
    (after otherAfter : List Nat) : Prop where
  /-- They say the same. -/
  said : said = otherSaid
  /-- The same anchors are written. -/
  anchors : after = otherAfter
  /-- Those not written before are settled. -/
  settled : ∀ anchor ∈ after, anchor ∈ written ∨ Settled left right anchor

variable {left right : Draft} {written : List Nat}

/-- Settled anchors leave a trail as it is. -/
theorem Trail.grown {size : Nat} {after : List Nat} (trail : Trail left right size written)
    (settled : ∀ anchor ∈ after, anchor ∈ written ∨ Settled left right anchor) :
    Trail left right size after := by
  intro anchor member
  rcases settled anchor member with before | done
  · exact trail anchor before
  · exact Or.inl done

/-- The trail inside a collection, whose own anchor stands for something larger than its parts. -/
theorem Trail.inside {value : Value} {part : Nat} (trail : Trail left right (sizeOf value) written)
    (sound : value.Sound left.store) (smaller : part < sizeOf value) :
    Trail left right part (begun written (left.anchor value)) := by
  intro anchor member
  rcases List.mem_append.mp member with own | before
  · refine Or.inr fun holder holds => ?_
    rw [holds.unique ⟨sound, by simpa using own⟩]
    exact smaller
  · rcases trail anchor before with done | larger
    · exact Or.inl done
    · exact Or.inr fun holder holds => smaller.trans (larger holder holds)

/-- Once a collection is written, its anchor is settled. -/
theorem Agree.closed {value other : Value} {after otherAfter : List Nat}
    (sound : value.Sound left.store) (otherSound : other.Sound right.store)
    (agree : Agree left right (begun written (left.anchor value)) value.content other.content
      after otherAfter)
    (same : left.anchor value = right.anchor other) :
    Agree left right written value.content other.content after otherAfter := by
  refine ⟨agree.said, agree.anchors, fun anchor member => ?_⟩
  rcases agree.settled anchor member with inner | done
  · rcases List.mem_append.mp inner with own | before
    · refine Or.inr fun holder otherHolder holds otherHolds => ?_
      have anchored : left.anchor value = some anchor := by simpa using own
      rw [holds.unique ⟨sound, anchored⟩, otherHolds.unique ⟨otherSound, same ▸ anchored⟩,
        agree.said]
    · exact Or.inl before
  · exact Or.inr done

/-- A value that any other one with its node agrees with. -/
def Determined (left right : Draft) (value : Value) : Prop :=
  ∀ ⦃other : Value⦄ ⦃written : List Nat⦄ ⦃room otherRoom : Nat⦄ ⦃node : Node⦄
    ⦃after otherAfter : List Nat⦄, other.Sound right.store →
      Trail left right (sizeOf value) written →
      nodeOf room left.repeated written value = .ok (node, after) →
      nodeOf otherRoom right.repeated written other = .ok (node, otherAfter) →
        Agree left right written value.content other.content after otherAfter

end Draft

/-! ## Documents -/

end Jobflow.Yaml
