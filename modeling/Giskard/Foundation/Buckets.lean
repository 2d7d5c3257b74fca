import Mathlib

/-!
# Buckets

A map from keys to buckets, in which a key without an entry has the blank bucket. The basic
operation changes one bucket; when it adds to the bucket's weight, it adds as much to the weight of
the map, and changes that commute on buckets commute on the map. A map of maps is weighed by taking
the weight of the inner maps for that of a bucket.
-/

set_option autoImplicit false

namespace Foundation

namespace Buckets

variable {κ V M : Type} [DecidableEq κ] [AddCommMonoid M] {map : Finmap fun _ : κ => V}
  {blank : V} {key other : κ} {change change' : V → V}

/-- The bucket of a key. -/
def bucket (map : Finmap fun _ : κ => V) (blank : V) (key : κ) : V := (map.lookup key).getD blank

/-- Change the bucket of a key. -/
def modify (map : Finmap fun _ : κ => V) (blank : V) (key : κ) (change : V → V) :
    Finmap fun _ : κ => V :=
  map.insert key (change (bucket map blank key))

/-- The sum of the weights of the buckets. -/
def weigh (weight : V → M) (blank : V) (map : Finmap fun _ : κ => V) : M :=
  ∑ key ∈ map.keys, weight (bucket map blank key)

omit [AddCommMonoid M] in
theorem bucket_empty : bucket (∅ : Finmap fun _ : κ => V) blank key = blank := by
  unfold bucket
  rw [Finmap.lookup_empty, Option.getD_none]

theorem bucket_modify :
    bucket (modify map blank key change) blank other =
      if other = key then change (bucket map blank key) else bucket map blank other := by
  unfold modify bucket
  split
  · next same =>
    subst same
    rw [Finmap.lookup_insert, Option.getD_some]
  · next apart => rw [Finmap.lookup_insert_of_ne _ apart]

theorem keys_modify : (modify map blank key change).keys = insert key map.keys := by
  ext other
  unfold modify
  rw [Finmap.mem_keys, Finmap.mem_insert, Finset.mem_insert, Finmap.mem_keys]

theorem weigh_empty {weight : V → M} : weigh weight blank (∅ : Finmap fun _ : κ => V) = 0 := by
  unfold weigh
  rw [Finmap.keys_empty, Finset.sum_empty]

theorem weigh_eq_sum_insert {weight : V → M} (nothing : weight blank = 0) (key : κ) :
    weigh weight blank map = ∑ other ∈ insert key map.keys, weight (bucket map blank other) := by
  unfold weigh
  by_cases member : key ∈ map.keys
  · rw [Finset.insert_eq_self.2 member]
  · have absent : bucket map blank key = blank := by
      rw [Finmap.mem_keys, ← Finmap.lookup_eq_none] at member
      unfold bucket
      rw [member, Option.getD_none]
    rw [Finset.sum_insert member, absent, nothing, zero_add]

theorem weigh_modify {weight : V → M} {more : M} (nothing : weight blank = 0)
    (adds : weight (change (bucket map blank key)) = weight (bucket map blank key) + more) :
    weigh weight blank (modify map blank key change) = weigh weight blank map + more := by
  have each : ∀ other, weight (bucket (modify map blank key change) blank other) =
      weight (bucket map blank other) + if other = key then more else 0 := by
    intro other
    rw [bucket_modify]
    split
    · next same => rw [same, adds]
    · rw [add_zero]
  conv_rhs => rw [weigh_eq_sum_insert nothing key]
  unfold weigh
  rw [keys_modify, Finset.sum_congr rfl fun other _ => each other, Finset.sum_add_distrib,
    Finset.sum_ite_eq' (insert key map.keys) key fun _ => more,
    if_pos (Finset.mem_insert_self key map.keys)]

theorem weight_le_weigh {weight : V → ℕ} (nothing : weight blank = 0) (key : κ) :
    weight (bucket map blank key) ≤ weigh weight blank map := by
  rw [weigh_eq_sum_insert nothing key]
  exact Finset.single_le_sum (f := fun other => weight (bucket map blank other))
    (fun _ _ => Nat.zero_le _) (Finset.mem_insert_self key map.keys)

theorem modify_comm (commute : ∀ value, change (change' value) = change' (change value)) :
    modify (modify map blank key change) blank other change' =
      modify (modify map blank other change') blank key change := by
  by_cases same : other = key
  · subst same
    unfold modify bucket
    rw [Finmap.insert_insert, Finmap.insert_insert, Finmap.lookup_insert, Finmap.lookup_insert,
      Option.getD_some, Option.getD_some, commute]
  · have one := @bucket_modify κ V _ map blank key other change
    have two := @bucket_modify κ V _ map blank other key change'
    rw [if_neg same] at one
    rw [if_neg (Ne.symm same)] at two
    conv_lhs => rw [modify, one, modify]
    conv_rhs => rw [modify, two, modify]
    exact Finmap.insert_insert_of_ne map (Ne.symm same)

end Buckets

end Foundation
