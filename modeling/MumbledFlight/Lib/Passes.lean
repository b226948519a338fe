/-
Passes of writes: a list of items is visited, each visit writes the item's part of a shared state, and a later write
may disturb the part of an earlier item.

Results, for any writes that settle their own item under an invariant:
- `Writes.kept`: an item stays settled through writes that keep it.
- `Writes.settled`: after a pass in which every write keeps the items before it, all items of the pass are settled.
-/
import Mathlib.Data.List.Basic

namespace Passes

variable {σ ι : Type*}

/-- the writes of the items, one after the other -/
def pass (write : σ → ι → σ) (s : σ) (is : List ι) : σ := is.foldl write s

/-- what is known of a write: it keeps the invariant, settles its own item, and keeps the items `Keeps` names -/
structure Writes (write : σ → ι → σ) (Inv : σ → Prop) (Settled : σ → ι → Prop) (Keeps : ι → ι → Prop) : Prop where
  inv : ∀ s i, Inv s → Inv (write s i)
  settles : ∀ s i, Inv s → Settled (write s i) i
  keeps : ∀ s i j, Inv s → Keeps i j → Settled s j → Settled (write s i) j

namespace Writes

variable {write : σ → ι → σ} {Inv : σ → Prop} {Settled : σ → ι → Prop} {Keeps : ι → ι → Prop}

theorem kept (h : Writes write Inv Settled Keeps) {j : ι} {is : List ι} (hkeeps : ∀ i ∈ is, Keeps i j) {s : σ}
    (hs : Inv s) (hj : Settled s j) : Settled (pass write s is) j := by
  induction is generalizing s with
  | nil => exact hj
  | cons i is ih =>
    have hkept : Settled (write s i) j := h.keeps s i j hs (hkeeps i List.mem_cons_self) hj
    exact ih (fun i' hi' => hkeeps i' (List.mem_cons_of_mem i hi')) (h.inv s i hs) hkept

/-- A pass in which no write disturbs an item visited before it settles all its items. -/
theorem settled (h : Writes write Inv Settled Keeps) {is : List ι} (hkeeps : is.Pairwise fun i j => Keeps j i) {s : σ}
    (hs : Inv s) : ∀ i ∈ is, Settled (pass write s is) i := by
  induction is generalizing s with
  | nil => exact fun _ hi => absurd hi List.not_mem_nil
  | cons i is ih =>
    obtain ⟨hhead, htail⟩ := List.pairwise_cons.1 hkeeps
    have hinv := h.inv s i hs
    intro j hj
    rcases List.mem_cons.1 hj with rfl | hj
    · exact h.kept hhead hinv (h.settles s j hs)
    · exact ih htail hinv j hj

end Writes

end Passes
