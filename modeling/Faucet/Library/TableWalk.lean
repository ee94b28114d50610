import Mathlib.Init

/-!
# Walks through tables

A packet is handled in one table after the other. What a table does is given by two
relations: what it sends of a packet, and to which tables it hands the packet on, as which
packet.

An assertion is attached to every table. When each table sends only good outputs of the
packets that meet its assertion, and hands them on as packets that meet the assertion of
the next table, then all that is sent is good (`Asserts.good_of_sends`). No order of the
tables is needed for that.
-/

set_option autoImplicit false

namespace TableWalk

universe u v w

/-- What the tables do to packets. -/
structure Tables (τ : Type u) (π : Type v) (ο : Type w) where
  emits : τ → π → ο → Prop
  passes : τ → π → τ → π → Prop

variable {τ : Type u} {π : Type v} {ο : Type w} {tables : Tables τ π ο}

/-- The output is sent of a packet in a table, there or later. -/
inductive Sends (tables : Tables τ π ο) : τ → π → ο → Prop where
  | here {table : τ} {packet : π} {out : ο} (emits : tables.emits table packet out) :
      Sends tables table packet out
  | later {table next : τ} {packet changed : π} {out : ο}
      (passes : tables.passes table packet next changed)
      (sends : Sends tables next changed out) : Sends tables table packet out

/-- Each table keeps to its assertion. -/
structure Asserts (tables : Tables τ π ο) (assertion : τ → π → Prop) (good : ο → Prop) : Prop where
  emits : ∀ {table packet out}, assertion table packet → tables.emits table packet out → good out
  passes : ∀ {table packet next changed}, assertion table packet →
    tables.passes table packet next changed → assertion next changed

/-- **All that is sent is good**, whatever way the packet takes. -/
theorem Asserts.good_of_sends {assertion : τ → π → Prop} {good : ο → Prop}
    (asserts : Asserts tables assertion good) {table : τ} {packet : π} {out : ο}
    (holds : assertion table packet) (sends : Sends tables table packet out) : good out := by
  induction sends with
  | here emits => exact asserts.emits holds emits
  | later passes _ ih => exact ih (asserts.passes holds passes)

end TableWalk
