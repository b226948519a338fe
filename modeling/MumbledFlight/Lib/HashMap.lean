/-
Finite maps with one value per key, as association lists whose keys are distinct (`AList`), and the two operations
on all entries at once that `AList` lacks: `retain` keeps the entries a test accepts, `mapVals` rewrites every value
(`mapTo` into another type).

Results:
- `lookup_retain`, `lookup_mapTo`, `lookup_mapVals`: both operations act on each key alone.
- `lookup_ofList`: pairs inserted one after the other, the last one of a key stays.
- `sum_entries`: a sum over the entries of a map is a sum over any finite set of keys that covers it, a key without
  an entry counting as a default that contributes nothing.
-/
import Mathlib.Algebra.BigOperators.Group.Finset.Basic
import Mathlib.Data.List.AList

abbrev HashMap (κ ν : Type*) := AList (fun _ : κ => ν)

namespace HashMap

variable {κ ν : Type*}

/-- the entries that p accepts -/
def retain (p : κ → ν → Bool) (m : HashMap κ ν) : HashMap κ ν :=
  ⟨m.entries.filter fun e => p e.1 e.2,
    m.nodupKeys.sublist List.filter_sublist⟩

/-- every value rewritten by f -/
def mapVals (f : ν → ν) (m : HashMap κ ν) : HashMap κ ν :=
  ⟨m.entries.map fun e => ⟨e.1, f e.2⟩, by
    have h : (m.entries.map fun e : Sigma fun _ : κ => ν => (⟨e.1, f e.2⟩ : Sigma fun _ : κ => ν)).keys
        = m.entries.keys := by simp [List.keys, Function.comp_def]
    rw [List.NodupKeys, h]
    exact m.nodupKeys⟩

/-- every value rewritten, into another type -/
def mapTo {μ : Type*} (f : ν → μ) (m : HashMap κ ν) : HashMap κ μ :=
  ⟨m.entries.map fun e => ⟨e.1, f e.2⟩, by
    have h : (m.entries.map fun e : Sigma fun _ : κ => ν => (⟨e.1, f e.2⟩ : Sigma fun _ : κ => μ)).keys
        = m.entries.keys := by simp [List.keys, Function.comp_def]
    rw [List.NodupKeys, h]
    exact m.nodupKeys⟩

section Lookup

variable [DecidableEq κ]

theorem mem_entries {m : HashMap κ ν} {k : κ} {v : ν} : (⟨k, v⟩ : Sigma fun _ : κ => ν) ∈ m.entries ↔
    m.lookup k = some v := AList.mem_lookup_iff.symm

@[simp] theorem lookup_retain (p : κ → ν → Bool) (m : HashMap κ ν) (k : κ) :
    (retain p m).lookup k = (m.lookup k).filter (p k) := by
  ext v
  rw [← mem_entries, Option.filter_eq_some_iff, ← mem_entries]
  simp [retain]

@[simp] theorem lookup_mapTo {μ : Type*} (f : ν → μ) (m : HashMap κ ν) (k : κ) :
    (mapTo f m).lookup k = (m.lookup k).map f := by
  ext v
  rw [← mem_entries, Option.map_eq_some_iff]
  simp only [mapTo, List.mem_map, Sigma.mk.injEq, heq_eq_eq]
  refine ⟨?_, ?_⟩
  · rintro ⟨⟨k', w⟩, hw, rfl, rfl⟩
    exact ⟨w, mem_entries.1 hw, rfl⟩
  · rintro ⟨w, hw, rfl⟩
    exact ⟨⟨k, w⟩, mem_entries.2 hw, rfl, rfl⟩

@[simp] theorem lookup_mapVals (f : ν → ν) (m : HashMap κ ν) (k : κ) :
    (mapVals f m).lookup k = (m.lookup k).map f := lookup_mapTo f m k

theorem lookup_insert_of (m : HashMap κ ν) (k k' : κ) (v : ν) :
    (m.insert k v).lookup k' = if k' = k then some v else m.lookup k' := by
  split_ifs with h
  · subst h; exact AList.lookup_insert m
  · exact AList.lookup_insert_ne h

/-- the pairs inserted one after the other -/
def ofList (pairs : List (κ × ν)) : HashMap κ ν := pairs.foldl (fun m e => m.insert e.1 e.2) ∅

/-- of several pairs with one key the last one stays -/
theorem lookup_ofList (pairs : List (κ × ν)) (k : κ) :
    (ofList pairs).lookup k = (pairs.reverse.find? fun e => e.1 = k).map Prod.snd := by
  unfold ofList
  induction pairs using List.reverseRecOn with
  | nil => rfl
  | append_singleton pairs e ih =>
    rw [List.foldl_append, List.foldl_cons, List.foldl_nil, lookup_insert_of, ih, List.reverse_append]
    by_cases h : e.1 = k
    · simp [h]
    · simp [h, Ne.symm h]

/-- f of a key's value, and 0 for a key without one, summed over keys that include every key of the map -/
theorem sum_entries {M : Type*} [AddCommMonoid M] (f : ν → M) (m : HashMap κ ν) {S : Finset κ}
    (hS : ∀ k ∈ m.keys, k ∈ S) :
    (m.entries.map fun e => f e.2).sum = ∑ k ∈ S, ((m.lookup k).map f).getD 0 := by
  have hvals : (m.entries.map fun e => f e.2) = m.keys.map fun k => ((m.lookup k).map f).getD 0 := by
    rw [AList.keys, List.keys, List.map_map]
    refine List.map_congr_left fun e he => ?_
    have hl : m.lookup e.1 = some e.2 := mem_entries.1 he
    simp [hl]
  have hsub : m.keys.toFinset ⊆ S := by
    intro k hk
    exact hS k (List.mem_toFinset.1 hk)
  rw [hvals, ← List.sum_toFinset _ m.keys_nodup]
  refine Finset.sum_subset hsub fun k _ hk => ?_
  have hl : m.lookup k = none := by
    rw [AList.lookup_eq_none]
    exact fun h => hk (List.mem_toFinset.2 h)
  simp [hl]

end Lookup

end HashMap
