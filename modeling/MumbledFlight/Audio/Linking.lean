/-
Wiring the native PipeWire capture stream (`pw_capture_loop`): the registry announces its globals one after another, the
listener keeps those that concern the capture, and after each of them tries to link every input port of our stream that
has no link yet to an output port of the target node.

`creates` says for which links `create_object` succeeds. The properties of a global are the strings PipeWire sends.

Results:
- `linkInv_run`: once both nodes and an output of the target are known, every input port seen so far is linked, once,
  from the outputs that were known when it first could be.
- `wiring_iff`: with every creation succeeding, each input port ends linked once whatever the order, but to the right
  channel exactly when enough of the target's outputs were known as it first could be linked (`InTime`). The comment on
  the listener says the ordering of globals does not matter; `input_linked_to_wrong_channel` is an order in which it does.
-/
import Mathlib.Data.List.GetD
import Mathlib.Data.List.Induction
import Mathlib.Data.List.Sort
import MumbledFlight.Lib.HashMap
import MumbledFlight.Lib.Runs

namespace MumbledFlight

/-! ## Globals -/

/-- `ObjectType`; the listener ignores all but nodes and ports -/
inductive ObjectType where
  | node
  | port
  | other
deriving DecidableEq

structure Global where
  id : UInt32
  type : ObjectType
  props : Option (HashMap String String)

/-- `str::parse::<u32>` -/
def parseU32 (s : String) : Option UInt32 :=
  let digits := match s.toList with
    | '+' :: rest => rest
    | cs => cs
  if digits.isEmpty || !digits.all Char.isDigit then none
  else
    let n := digits.foldl (fun n c => 10 * n + (c.toNat - '0'.toNat)) 0
    if n < 2 ^ 32 then some (.ofNat n) else none

def streamNodeName : String := "mumbled-flight-loopback"

/-- an entry of `Graph::ports`; `index` is the channel -/
structure Port where
  node : UInt32
  id : UInt32
  index : UInt32
  isOutput : Bool
deriving DecidableEq

/-- a global the listener keeps -/
inductive GraphEvent where
  | target (id : UInt32)
  | ours (id : UInt32)
  | port (p : Port)
deriving DecidableEq

def Global.decode (want : String) (global : Global) : Option GraphEvent :=
  match global.props with
  | none => none
  | some props =>
    match global.type with
    | .node =>
      match props.lookup "node.name" with
      | some n => if n = want then some (.target global.id)
        else if n = streamNodeName then some (.ours global.id) else none
      | none => none
    | .port =>
      match (props.lookup "node.id").bind parseU32 with
      | none => none
      | some node => some (.port
          { node
            id := global.id
            index := ((props.lookup "port.id").bind parseU32).getD 0
            isOutput := props.lookup "port.direction" = some "out" })
    | .other => none

/-! ## The graph -/

/-- the properties of a link -/
structure Link where
  outputNode : UInt32
  outputPort : UInt32
  inputNode : UInt32
  inputPort : UInt32
deriving DecidableEq

/-- `Graph`, with the links created so far -/
structure Graph where
  targetNode : Option UInt32
  ourNode : Option UInt32
  ports : List Port
  linkedInputs : List UInt32
  links : List Link

/-- the order of `(u32, u32)` -/
def portLe (a b : UInt32 × UInt32) : Prop := a.1.toNat < b.1.toNat ∨ a.1.toNat = b.1.toNat ∧ a.2.toNat ≤ b.2.toNat

instance : DecidableRel portLe := fun _ _ => inferInstanceAs (Decidable (_ ∨ _))

def outputsOf (node : UInt32) (ports : List Port) : List Port := ports.filter fun p => p.node = node ∧ p.isOutput = true

def inputsOf (node : UInt32) (ports : List Port) : List Port := ports.filter fun p => p.node = node ∧ p.isOutput = false

/-- a node's output ports by channel -/
def sortedOuts (node : UInt32) (ports : List Port) : List (UInt32 × UInt32) :=
  ((outputsOf node ports).map fun p => (p.index, p.id)).insertionSort portLe

/-- the output port an input of channel `inIdx` is linked to -/
def pickOut (outs : List (UInt32 × UInt32)) (inIdx : UInt32) : UInt32 × UInt32 :=
  outs.getD (min inIdx.toNat (outs.length - 1)) (0, 0)

namespace Graph

def empty : Graph := ⟨none, none, [], [], []⟩

def record (g : Graph) : GraphEvent → Graph
  | .target id => { g with targetNode := g.targetNode.or (some id) }
  | .ours id => { g with ourNode := g.ourNode.or (some id) }
  | .port p => { g with ports := g.ports ++ [p] }

def pending (g : Graph) (node : UInt32) : List Port := (inputsOf node g.ports).filter fun p => p.id ∉ g.linkedInputs

def linkInput (creates : Link → Bool) (tnode onode : UInt32) (outs : List (UInt32 × UInt32)) (g : Graph)
    (input : Port) : Graph :=
  let link : Link := ⟨tnode, (pickOut outs input.index).2, onode, input.id⟩
  if creates link then { g with links := g.links ++ [link], linkedInputs := g.linkedInputs ++ [input.id] } else g

def attemptLink (creates : Link → Bool) (g : Graph) : Graph :=
  match g.targetNode, g.ourNode with
  | some tnode, some onode =>
    let outs := sortedOuts tnode g.ports
    if outs.isEmpty then g else (g.pending onode).foldl (linkInput creates tnode onode outs) g
  | _, _ => g

/-- the listener, for a global it keeps -/
def step (creates : Link → Bool) (g : Graph) (e : GraphEvent) : Graph := (g.record e).attemptLink creates

/-- the registry listener -/
def onGlobal (creates : Link → Bool) (want : String) (g : Graph) (global : Global) : Graph :=
  match global.decode want with
  | some e => g.step creates e
  | none => g

/-- a global the listener does not keep changes nothing -/
theorem run_onGlobal (creates : Link → Bool) (want : String) (g : Graph) (globals : List Global) :
    Runs.run (onGlobal creates want) g globals = Runs.run (step creates) g (globals.filterMap (Global.decode want)) := by
  induction globals generalizing g with
  | nil => rfl
  | cons global globals ih =>
    rw [Runs.run_cons, ih, onGlobal, List.filterMap_cons]
    cases global.decode want <;> rfl

end Graph

/-! ## Positions in an increasing list -/

/-- between two positions an increasing list of naturals climbs at least as far as the positions do -/
theorem getElem_add_le {L : List ℕ} (hL : L.Pairwise (· < ·)) (j : ℕ) {d : ℕ} (hd : j + d < L.length) :
    L[j] + d ≤ L[j + d] := by
  induction d with
  | zero => exact le_rfl
  | succ d ih =>
    have h1 : L[j] + d ≤ L[j + d] := ih (by omega)
    have h2 : L[j + d] < L[j + (d + 1)] := List.pairwise_iff_getElem.1 hL (j + d) (j + (d + 1)) (by omega) hd (by omega)
    omega

theorem getElem_le_getElem {L : List ℕ} (hL : L.Pairwise (· < ·)) {a b : ℕ} (hab : a ≤ b) (hb : b < L.length) :
    L[a] ≤ L[b] := by
  obtain ⟨d, rfl⟩ := Nat.exists_eq_add_of_le hab
  exact le_trans (Nat.le_add_right _ d) (getElem_add_le hL a hb)

/-- an increasing list of naturals grows at least as fast as its positions -/
theorem le_getElem_of_increasing {L : List ℕ} (hL : L.Pairwise (· < ·)) {i : ℕ} (hi : i < L.length) : i ≤ L[i] := by
  have hclimb := getElem_add_le hL 0 (show 0 + i < L.length by omega)
  simp only [Nat.zero_add] at hclimb
  omega

/-- values 0..m of an increasing list stand at their own positions -/
theorem getElem_eq_of_initial {L : List ℕ} (hL : L.Pairwise (· < ·)) {m : ℕ} (h : ∀ j ≤ m, j ∈ L) :
    ∀ j ≤ m, ∃ hj : j < L.length, L[j] = j := by
  intro j
  induction j using Nat.strong_induction_on with
  | _ j ih =>
    intro hjm
    obtain ⟨q, hq, hqj⟩ := List.getElem_of_mem (h j hjm)
    have hle : q ≤ j := by
      have := le_getElem_of_increasing hL hq
      omega
    rcases Nat.lt_or_eq_of_le hle with hlt | rfl
    · obtain ⟨_, hqq⟩ := ih q hlt (by omega)
      omega
    · exact ⟨hq, hqj⟩

/-- where the value of channel `min i (n - 1)` stands among the channels known so far -/
theorem picked_iff {L : List ℕ} (hL : L.Pairwise (· < ·)) {n : ℕ} (hn : ∀ j ∈ L, j < n) (hne : L ≠ []) (i : ℕ) :
    L.getD (min i (L.length - 1)) 0 = min i (n - 1) ↔
      (∀ j ≤ min i (n - 1), j ∈ L) ∨ L.length ≤ i ∧ min i (n - 1) ∈ L ∧ ∀ j ∈ L, j ≤ min i (n - 1) := by
  have hpos : 0 < L.length := List.length_pos_of_ne_nil hne
  have hlen : L.length ≤ n := by
    have h1 := le_getElem_of_increasing hL (show L.length - 1 < L.length by omega)
    have h2 := hn _ (List.getElem_mem (show L.length - 1 < L.length by omega))
    omega
  rw [List.getD_eq_getElem _ _ (show min i (L.length - 1) < L.length by omega)]
  by_cases hi : i < L.length
  · -- the port's own channel number is a position, and it must hold that very channel
    have hm : min i (n - 1) = i := by omega
    have hpos' : min i (L.length - 1) = i := by omega
    simp only [hm, hpos']
    refine ⟨?_, ?_⟩
    · intro h
      refine Or.inl fun j hj => ?_
      have hjle := le_getElem_of_increasing hL (show j < L.length by omega)
      have hji : L[j] + (i - j) ≤ L[i] := by
        have hclimb := getElem_add_le hL j (show j + (i - j) < L.length by omega)
        simpa only [Nat.add_sub_cancel' hj] using hclimb
      have hjeq : L[j] = j := by omega
      exact hjeq ▸ List.getElem_mem _
    · rintro (h | ⟨h, -⟩)
      · exact (getElem_eq_of_initial hL h i le_rfl).2
      · omega
  · -- fewer channels are known than the port's number: it gets the last of them
    have hpos' : min i (L.length - 1) = L.length - 1 := by omega
    simp only [hpos']
    refine ⟨?_, ?_⟩
    · intro h
      refine Or.inr ⟨by omega, ?_, ?_⟩
      · rw [← h]; exact List.getElem_mem _
      · intro j hj
        obtain ⟨q, hq, rfl⟩ := List.getElem_of_mem hj
        rw [← h]
        exact getElem_le_getElem hL (by omega) (by omega)
    · rintro (h | ⟨-, hmem, hmax⟩)
      · obtain ⟨hlt, -⟩ := getElem_eq_of_initial hL h (min i (n - 1)) le_rfl
        have hlast : L.length - 1 = min i (n - 1) := by omega
        obtain ⟨_, hval⟩ := getElem_eq_of_initial hL h (L.length - 1) (by omega)
        exact hval.trans hlast
      · obtain ⟨q, hq, hqm⟩ := List.getElem_of_mem hmem
        have h1 : L[q] ≤ L[L.length - 1] := getElem_le_getElem hL (by omega) (by omega)
        have h2 := hmax _ (List.getElem_mem (show L.length - 1 < L.length by omega))
        omega

/-! ## Delivery orders -/

section Orders

def targets (es : List GraphEvent) : List UInt32 := es.filterMap fun
  | .target id => some id
  | _ => none

def ours (es : List GraphEvent) : List UInt32 := es.filterMap fun
  | .ours id => some id
  | _ => none

def portsIn (es : List GraphEvent) : List Port := es.filterMap fun
  | .port p => some p
  | _ => none

/-- both nodes and an output port of the target are known -/
def Live (t o : UInt32) (es : List GraphEvent) : Prop :=
  t ∈ targets es ∧ o ∈ ours es ∧ outputsOf t (portsIn es) ≠ []

/-- an input port is known and there is something to link it to -/
def Linkable (t o : UInt32) (p : Port) (es : List GraphEvent) : Prop := Live t o es ∧ p ∈ inputsOf o (portsIn es)

/-- `part` is what has been delivered when p can first be linked -/
structure FirstLinkable (t o : UInt32) (p : Port) (es part : List GraphEvent) : Prop where
  initial : part <+: es
  linkable : Linkable t o p part
  least : ∀ part', part' <+: part → Linkable t o p part' → part' = part

variable {t o : UInt32} {p : Port} {es es' : List GraphEvent}

theorem portsIn_sublist (h : es <+: es') : (portsIn es).Sublist (portsIn es') := h.sublist.filterMap _

theorem inputsOf_mono (h : es <+: es') (hp : p ∈ inputsOf o (portsIn es)) : p ∈ inputsOf o (portsIn es') :=
  ((portsIn_sublist h).filter _).subset hp

theorem outputsOf_sublist (h : es <+: es') : (outputsOf t (portsIn es)).Sublist (outputsOf t (portsIn es')) :=
  (portsIn_sublist h).filter _

theorem Live.mono (hl : Live t o es) (h : es <+: es') : Live t o es' := by
  obtain ⟨ht, ho, hout⟩ := hl
  refine ⟨(h.sublist.filterMap _).subset ht, (h.sublist.filterMap _).subset ho, fun hnil => hout ?_⟩
  have := outputsOf_sublist (t := t) h
  rw [hnil] at this
  exact List.sublist_nil.1 this

theorem FirstLinkable.mono {part : List GraphEvent} (hf : FirstLinkable t o p es part) (h : es <+: es') :
    FirstLinkable t o p es' part := { hf with initial := hf.initial.trans h }

/-- there is one moment at which p can first be linked -/
theorem FirstLinkable.unique {part part' : List GraphEvent} (h : FirstLinkable t o p es part)
    (h' : FirstLinkable t o p es part') : part = part' := by
  rcases List.prefix_or_prefix_of_prefix h.initial h'.initial with hp | hp
  · exact h'.least _ hp h.linkable
  · exact (h.least _ hp h'.linkable).symm

end Orders

/-! ## One event -/

namespace Graph

theorem foldl_linkInput {creates : Link → Bool} (hcreates : ∀ link, creates link = true) (t o : UInt32)
    (outs : List (UInt32 × UInt32)) (inputs : List Port) (g : Graph) :
    inputs.foldl (linkInput creates t o outs) g =
      { g with
        linkedInputs := g.linkedInputs ++ inputs.map Port.id
        links := g.links ++ inputs.map fun p => ⟨t, (pickOut outs p.index).2, o, p.id⟩ } := by
  induction inputs generalizing g with
  | nil => simp
  | cons p inputs ih =>
    rw [List.foldl_cons, ih]
    simp [linkInput, hcreates]

/-- the target node or ours is unknown, or the target has no output yet: nothing is linked -/
theorem attemptLink_of_not {creates : Link → Bool} {g : Graph}
    (h : ¬∃ t o, g.targetNode = some t ∧ g.ourNode = some o ∧ outputsOf t g.ports ≠ []) :
    g.attemptLink creates = g := by
  unfold attemptLink
  split
  · next t o ht ho =>
    have hnil : outputsOf t g.ports = [] := by
      by_contra hne
      exact h ⟨t, o, ht, ho, hne⟩
    simp [sortedOuts, hnil]
  · rfl

theorem attemptLink_of {creates : Link → Bool} (hcreates : ∀ link, creates link = true) {g : Graph} {t o : UInt32}
    (ht : g.targetNode = some t) (ho : g.ourNode = some o) (hout : outputsOf t g.ports ≠ []) :
    g.attemptLink creates =
      { g with
        linkedInputs := g.linkedInputs ++ (g.pending o).map Port.id
        links := g.links ++ (g.pending o).map fun p =>
          ⟨t, (pickOut (sortedOuts t g.ports) p.index).2, o, p.id⟩ } := by
  have hne : (sortedOuts t g.ports).isEmpty = false := by
    rw [List.isEmpty_eq_false_iff, ← List.length_pos_iff]
    simpa [sortedOuts] using List.length_pos_iff.2 hout
  unfold attemptLink
  simp only [ht, ho, hne, Bool.false_eq_true, if_false]
  rw [foldl_linkInput hcreates, ht, ho]

/-- what one kept global adds to what is known -/
theorem record_fields {g : Graph} {es : List GraphEvent} (ht : g.targetNode = (targets es).head?)
    (ho : g.ourNode = (ours es).head?) (hp : g.ports = portsIn es) (e : GraphEvent) :
    (g.record e).targetNode = (targets (es ++ [e])).head? ∧ (g.record e).ourNode = (ours (es ++ [e])).head? ∧
    (g.record e).ports = portsIn (es ++ [e]) ∧ (g.record e).linkedInputs = g.linkedInputs ∧
    (g.record e).links = g.links := by
  unfold targets ours portsIn at *
  rw [List.filterMap_append, List.filterMap_append, List.filterMap_append, List.head?_append, List.head?_append,
    ← ht, ← ho, ← hp]
  cases e <;> simp [record]

theorem attemptLink_known {creates : Link → Bool} (hcreates : ∀ link, creates link = true) (g : Graph) :
    (g.attemptLink creates).targetNode = g.targetNode ∧ (g.attemptLink creates).ourNode = g.ourNode ∧
    (g.attemptLink creates).ports = g.ports := by
  by_cases h : ∃ t o, g.targetNode = some t ∧ g.ourNode = some o ∧ outputsOf t g.ports ≠ []
  · obtain ⟨t, o, ht, ho, hout⟩ := h
    rw [attemptLink_of hcreates ht ho hout]
    exact ⟨rfl, rfl, rfl⟩
  · rw [attemptLink_of_not h]
    exact ⟨rfl, rfl, rfl⟩

end Graph

/-! ## A whole delivery -/

/-- nodes of each name occur at most once, and port ids are distinct -/
structure Sole (t o : UInt32) (es : List GraphEvent) : Prop where
  target : ∀ x ∈ targets es, x = t
  ours : ∀ x ∈ ours es, x = o
  ids : ((portsIn es).map Port.id).Nodup

theorem Sole.of_initial {t o : UInt32} {es es' : List GraphEvent} (h : Sole t o es') (hp : es <+: es') :
    Sole t o es where
  target x hx := h.target x ((hp.sublist.filterMap _).subset hx)
  ours x hx := h.ours x ((hp.sublist.filterMap _).subset hx)
  ids := h.ids.sublist ((portsIn_sublist hp).map _)

theorem head?_of_sole {x : UInt32} {L : List UInt32} (h : ∀ y ∈ L, y = x) (hx : x ∈ L) : L.head? = some x := by
  cases L with
  | nil => cases hx
  | cons y L => rw [h y List.mem_cons_self]; rfl

/-- ports of one id are one port -/
theorem port_eq_of_id {es : List GraphEvent} (h : ((portsIn es).map Port.id).Nodup) {p q : Port}
    (hp : p ∈ portsIn es) (hq : q ∈ portsIn es) (hid : p.id = q.id) : p = q :=
  List.inj_on_of_nodup_map h hp hq hid

/-- what is known, and what is linked, once the events of `es` have been delivered -/
structure LinkInv (t o : UInt32) (es : List GraphEvent) (g : Graph) : Prop where
  targetNode : g.targetNode = (targets es).head?
  ourNode : g.ourNode = (ours es).head?
  ports : g.ports = portsIn es
  linkedInputs : g.linkedInputs = g.links.map Link.inputPort
  once : g.linkedInputs.Nodup
  linked : Live t o es → ∀ p ∈ inputsOf o (portsIn es), p.id ∈ g.linkedInputs
  origin : ∀ link ∈ g.links, ∃ p part, FirstLinkable t o p es part ∧
    link = ⟨t, (pickOut (sortedOuts t (portsIn part)) p.index).2, o, p.id⟩

theorem LinkInv.origin_mono {t o : UInt32} {es : List GraphEvent} {g : Graph} (h : LinkInv t o es g)
    (e : GraphEvent) : ∀ link ∈ g.links, ∃ p part, FirstLinkable t o p (es ++ [e]) part ∧
      link = ⟨t, (pickOut (sortedOuts t (portsIn part)) p.index).2, o, p.id⟩ := by
  intro link hlink
  obtain ⟨p, part, hf, heq⟩ := h.origin link hlink
  exact ⟨p, part, hf.mono (List.prefix_append _ _), heq⟩

/-- an event after which both nodes and an output are known: all pending inputs are linked -/
theorem linkInv_step_live {creates : Link → Bool} (hcreates : ∀ link, creates link = true) {t o : UInt32}
    {es : List GraphEvent} {e : GraphEvent} (hsole : Sole t o (es ++ [e])) {g : Graph} (h : LinkInv t o es g)
    (hlive : Live t o (es ++ [e])) : LinkInv t o (es ++ [e]) (g.step creates e) := by
  obtain ⟨ht, ho, hp, hli, hl⟩ := Graph.record_fields h.targetNode h.ourNode h.ports e
  obtain ⟨ht', ho', hp'⟩ := Graph.attemptLink_known hcreates (g.record e)
  have hout : outputsOf t (g.record e).ports ≠ [] := by rw [hp]; exact hlive.2.2
  have hstep := Graph.attemptLink_of hcreates (ht.trans (head?_of_sole hsole.target hlive.1))
    (ho.trans (head?_of_sole hsole.ours hlive.2.1)) hout
  have hpend : ∀ p, p ∈ (g.record e).pending o ↔
      p ∈ inputsOf o (portsIn (es ++ [e])) ∧ p.id ∉ g.linkedInputs := by
    intro p
    simp [Graph.pending, hp, hli]
  unfold Graph.step
  refine
    { targetNode := ht'.trans ht, ourNode := ho'.trans ho, ports := hp'.trans hp, linkedInputs := ?linkedInputs
      once := ?once, linked := ?linked, origin := ?origin }
  case linkedInputs =>
    rw [hstep]
    simp [hli, hl, h.linkedInputs, Function.comp_def]
  case once =>
    rw [hstep]
    refine List.nodup_append.2 ⟨hli ▸ h.once, ?_, ?_⟩
    · have hsub : ((g.record e).pending o).Sublist (portsIn (es ++ [e])) := by
        rw [← hp]
        exact List.filter_sublist.trans List.filter_sublist
      exact hsole.ids.sublist (hsub.map _)
    · intro a ha b hb hab
      obtain ⟨p, hpp, rfl⟩ := List.mem_map.1 hb
      exact ((hpend p).1 hpp).2 (hab ▸ hli ▸ ha)
  case linked =>
    intro _ p hpin
    rw [hstep]
    by_cases hold : p.id ∈ g.linkedInputs
    · exact List.mem_append_left _ (hli ▸ hold)
    · exact List.mem_append_right _ (List.mem_map_of_mem ((hpend p).2 ⟨hpin, hold⟩))
  case origin =>
    intro link hlink
    rw [hstep] at hlink
    rcases List.mem_append.1 hlink with hlink | hlink
    · exact h.origin_mono e link (hl ▸ hlink)
    · obtain ⟨p, hpp, rfl⟩ := List.mem_map.1 hlink
      obtain ⟨hpin, hnew⟩ := (hpend p).1 hpp
      refine ⟨p, es ++ [e], ⟨List.prefix_rfl, ⟨hlive, hpin⟩, ?_⟩, by rw [hp]⟩
      intro part' hpart hlinkable
      rcases List.prefix_concat_iff.1 hpart with heq | hbefore
      · exact heq
      · -- it could be linked before this event, so it has been
        have hlive' := hlinkable.1.mono hbefore
        exact absurd (h.linked hlive' p (inputsOf_mono hbefore hlinkable.2)) hnew

/-- an event after which one of them is still missing: nothing is linked -/
theorem linkInv_step_waiting {creates : Link → Bool} {t o : UInt32} {es : List GraphEvent} {e : GraphEvent}
    (hsole : Sole t o (es ++ [e])) {g : Graph} (h : LinkInv t o es g) (hlive : ¬Live t o (es ++ [e])) :
    LinkInv t o (es ++ [e]) (g.step creates e) := by
  obtain ⟨ht, ho, hp, hli, hl⟩ := Graph.record_fields h.targetNode h.ourNode h.ports e
  have hnot : ¬∃ t o, (g.record e).targetNode = some t ∧ (g.record e).ourNode = some o ∧
      outputsOf t (g.record e).ports ≠ [] := by
    rintro ⟨t', o', ht1, ho1, hout⟩
    have hmt : t' ∈ targets (es ++ [e]) := List.mem_of_mem_head? (ht ▸ ht1)
    have hmo : o' ∈ ours (es ++ [e]) := List.mem_of_mem_head? (ho ▸ ho1)
    obtain rfl := hsole.target _ hmt
    obtain rfl := hsole.ours _ hmo
    exact hlive ⟨hmt, hmo, hp ▸ hout⟩
  unfold Graph.step
  rw [Graph.attemptLink_of_not hnot]
  refine
    { targetNode := ht, ourNode := ho, ports := hp, linkedInputs := ?linkedInputs, once := hli ▸ h.once
      linked := fun hl' => absurd hl' hlive, origin := ?origin }
  case linkedInputs => rw [hli, hl]; exact h.linkedInputs
  case origin => rw [hl]; exact h.origin_mono e

theorem linkInv_step {creates : Link → Bool} (hcreates : ∀ link, creates link = true) {t o : UInt32}
    {es : List GraphEvent} {e : GraphEvent} (hsole : Sole t o (es ++ [e])) {g : Graph} (h : LinkInv t o es g) :
    LinkInv t o (es ++ [e]) (g.step creates e) := by
  by_cases hlive : Live t o (es ++ [e])
  · exact linkInv_step_live hcreates hsole h hlive
  · exact linkInv_step_waiting hsole h hlive

theorem linkInv_run {creates : Link → Bool} (hcreates : ∀ link, creates link = true) {t o : UInt32}
    {es : List GraphEvent} (hsole : Sole t o es) : LinkInv t o es (Runs.run (Graph.step creates) .empty es) := by
  induction es using List.reverseRecOn with
  | nil =>
    refine ⟨rfl, rfl, rfl, rfl, List.nodup_nil, ?_, ?_⟩
    · intro h; cases h.1
    · intro _ h; cases h
  | append_singleton es e ih =>
    rw [Runs.run_snoc]
    exact linkInv_step hcreates hsole (ih (hsole.of_initial (List.prefix_append _ _)))

/-! ## The channel an input gets -/

/-- the target's channels known after `es` -/
def channels (t : UInt32) (es : List GraphEvent) : List ℕ :=
  (outputsOf t (portsIn es)).map fun p => p.index.toNat

/-- one target node, one node of ours, channels 0 to n - 1 on the target -/
structure Registry (t o : UInt32) (n : ℕ) (es : List GraphEvent) : Prop where
  target : targets es = [t]
  ours : ours es = [o]
  ids : ((portsIn es).map Port.id).Nodup
  outputs : (channels t es).Perm (List.range n)
  pos : 0 < n

/-- When p can first be linked, the channels of the target that are known place p's own channel, or the last one for a
port beyond it, where it will be looked for: channels 0 up to it are known; or fewer channels are known than p's number
and it is the highest of them. -/
def InTime (t o : UInt32) (n : ℕ) (es : List GraphEvent) (p : Port) : Prop :=
  ∀ part, FirstLinkable t o p es part →
    let m := min p.index.toNat (n - 1)
    (∀ j ≤ m, j ∈ channels t part) ∨
      (channels t part).length ≤ p.index.toNat ∧ m ∈ channels t part ∧ ∀ j ∈ channels t part, j ≤ m

/-- p is linked once, to the target's channel of its own number or to the last one -/
def WiredTo (t o : UInt32) (n : ℕ) (es : List GraphEvent) (links : List Link) (p : Port) : Prop :=
  ∃ q ∈ outputsOf t (portsIn es), q.index.toNat = min p.index.toNat (n - 1) ∧
    (links.filter fun link => link.inputPort = p.id) = [⟨t, q.id, o, p.id⟩]

theorem Registry.sole {t o : UInt32} {n : ℕ} {es : List GraphEvent} (h : Registry t o n es) : Sole t o es where
  target x hx := by rw [h.target] at hx; exact List.mem_singleton.1 hx
  ours x hx := by rw [h.ours] at hx; exact List.mem_singleton.1 hx
  ids := h.ids

theorem Registry.live {t o : UInt32} {n : ℕ} {es : List GraphEvent} (h : Registry t o n es) : Live t o es := by
  refine ⟨by rw [h.target]; exact List.mem_singleton_self t, by rw [h.ours]; exact List.mem_singleton_self o, ?_⟩
  intro hnil
  have hlen := h.outputs.length_eq
  have hpos := h.pos
  simp only [channels, hnil, List.map_nil, List.length_nil, List.length_range] at hlen
  omega

instance : Std.Total portLe := ⟨fun a b => by unfold portLe; omega⟩

instance : IsTrans (UInt32 × UInt32) portLe := ⟨fun a b c h1 h2 => by unfold portLe at *; omega⟩

theorem sortedOuts_channels (t : UInt32) (es : List GraphEvent) :
    ((sortedOuts t (portsIn es)).map fun a => a.1.toNat).Perm (channels t es) := by
  have := (List.perm_insertionSort portLe ((outputsOf t (portsIn es)).map fun p => (p.index, p.id))).map
    fun a : UInt32 × UInt32 => a.1.toNat
  simpa [sortedOuts, channels, Function.comp_def] using this

theorem sortedOuts_increasing {t : UInt32} {es : List GraphEvent} (h : (channels t es).Nodup) :
    ((sortedOuts t (portsIn es)).map fun a => a.1.toNat).Pairwise (· < ·) := by
  have hne : (sortedOuts t (portsIn es)).Pairwise fun a b => a.1.toNat ≠ b.1.toNat :=
    List.pairwise_map.1 ((sortedOuts_channels t es).nodup_iff.2 h)
  apply List.pairwise_map.2
  refine ((List.pairwise_insertionSort portLe _).and hne).imp fun {a b} hab => ?_
  obtain ⟨hle, hab⟩ := hab
  unfold portLe at hle
  omega

theorem mem_sortedOuts {t : UInt32} {ports : List Port} {a : UInt32 × UInt32} :
    a ∈ sortedOuts t ports ↔ ∃ q ∈ outputsOf t ports, (q.index, q.id) = a := by
  rw [sortedOuts, (List.perm_insertionSort portLe _).mem_iff, List.mem_map]

theorem pickOut_mem {outs : List (UInt32 × UInt32)} (h : outs ≠ []) (i : UInt32) : pickOut outs i ∈ outs := by
  have hlen : 0 < outs.length := List.length_pos_iff.2 h
  unfold pickOut
  rw [List.getD_eq_getElem _ _ (show min i.toNat (outs.length - 1) < outs.length by omega)]
  exact List.getElem_mem _

theorem pickOut_index (outs : List (UInt32 × UInt32)) (i : UInt32) :
    (pickOut outs i).1.toNat = (outs.map fun a => a.1.toNat).getD (min i.toNat (outs.length - 1)) 0 := by
  rw [pickOut, List.getD_eq_getElem?_getD, List.getD_eq_getElem?_getD, List.getElem?_map]
  cases outs[min i.toNat (outs.length - 1)]? <;> rfl

/-- the channel picked from the outputs known after `part` -/
theorem picked_channel_iff {t : UInt32} {n : ℕ} {part : List GraphEvent} (hnodup : (channels t part).Nodup)
    (hbound : ∀ j ∈ channels t part, j < n) (hne : outputsOf t (portsIn part) ≠ []) (i : UInt32) :
    (pickOut (sortedOuts t (portsIn part)) i).1.toNat = min i.toNat (n - 1) ↔
      (∀ j ≤ min i.toNat (n - 1), j ∈ channels t part) ∨
        (channels t part).length ≤ i.toNat ∧ min i.toNat (n - 1) ∈ channels t part ∧
          ∀ j ∈ channels t part, j ≤ min i.toNat (n - 1) := by
  have hperm := sortedOuts_channels t part
  have hne' : (sortedOuts t (portsIn part)).map (fun a => a.1.toNat) ≠ [] := by
    intro hnil
    rw [hnil] at hperm
    exact hne (List.map_eq_nil_iff.1 hperm.nil_eq.symm)
  have hlen : (sortedOuts t (portsIn part)).length = (channels t part).length := by
    simpa using hperm.length_eq
  have hpick := picked_iff (sortedOuts_increasing hnodup) (fun j hj => hbound j (hperm.mem_iff.1 hj)) hne' i.toNat
  rw [List.length_map, hlen] at hpick
  rw [pickOut_index, hlen, hpick]
  simp only [hperm.mem_iff]

/-! ## Every order of delivery -/

/-- of values that f tells apart, the ones that f maps to its value at x are x alone -/
theorem filter_eq_singleton {β γ : Type*} [DecidableEq γ] {f : β → γ} {l : List β} (h : (l.map f).Nodup) {x : β}
    (hx : x ∈ l) : (l.filter fun y => f y = f x) = [x] := by
  induction l with
  | nil => cases hx
  | cons y l ih =>
    rw [List.map_cons, List.nodup_cons] at h
    rcases List.mem_cons.1 hx with rfl | hx
    · have hrest : (l.filter fun y => f y = f x) = [] := by
        refine List.filter_eq_nil_iff.2 fun y hy heq => h.1 ?_
        rw [← of_decide_eq_true heq]
        exact List.mem_map_of_mem hy
      rw [List.filter_cons_of_pos (by simp), hrest]
    · have hne : f y ≠ f x := fun heq => h.1 (heq ▸ List.mem_map_of_mem hx)
      rw [List.filter_cons_of_neg (by simpa using hne), ih h.2 hx]

section Delivery

variable {creates : Link → Bool} {t o : UInt32} {n : ℕ} {es : List GraphEvent} {g : Graph}

/-- the one link of an input port, and what was known when it was made -/
theorem link_of_input (hreg : Registry t o n es) (h : LinkInv t o es g) {p : Port} (hp : p ∈ inputsOf o (portsIn es)) :
    ∃ part, FirstLinkable t o p es part ∧ (g.links.filter fun link => link.inputPort = p.id) =
      [⟨t, (pickOut (sortedOuts t (portsIn part)) p.index).2, o, p.id⟩] := by
  have hmem : p.id ∈ g.links.map Link.inputPort := by
    rw [← h.linkedInputs]
    exact h.linked hreg.live p hp
  obtain ⟨link, hlink, hid⟩ := List.mem_map.1 hmem
  obtain ⟨p', part, hf, hlink'⟩ := h.origin link hlink
  have hp' : p' ∈ portsIn es := List.mem_of_mem_filter (inputsOf_mono hf.initial hf.linkable.2)
  have hpp : p' = p := by
    apply port_eq_of_id hreg.ids hp' (List.mem_of_mem_filter hp)
    rw [← hid, hlink']
  subst hpp
  refine ⟨part, hf, ?_⟩
  rw [← hlink', ← hid]
  exact filter_eq_singleton (h.linkedInputs ▸ h.once) hlink

theorem wiredTo_iff (hreg : Registry t o n es) (h : LinkInv t o es g) {p : Port}
    (hp : p ∈ inputsOf o (portsIn es)) : WiredTo t o n es g.links p ↔ InTime t o n es p := by
  obtain ⟨part, hf, hlinks⟩ := link_of_input hreg h hp
  have hsub : (channels t part).Sublist (channels t es) := (outputsOf_sublist hf.initial).map _
  have hnodup : (channels t part).Nodup := (hreg.outputs.nodup_iff.2 List.nodup_range).sublist hsub
  have hbound : ∀ j ∈ channels t part, j < n := by
    intro j hj
    exact List.mem_range.1 (hreg.outputs.mem_iff.1 (hsub.subset hj))
  have hne : outputsOf t (portsIn part) ≠ [] := hf.linkable.1.2.2
  have hpick := picked_channel_iff hnodup hbound hne p.index
  -- the port that was picked
  have hsorted : sortedOuts t (portsIn part) ≠ [] := by
    intro hnil
    have hlen := (sortedOuts_channels t part).length_eq
    rw [hnil] at hlen
    exact hne (List.map_eq_nil_iff.1 (List.length_eq_zero_iff.1 hlen.symm))
  obtain ⟨q, hq, hqp⟩ := mem_sortedOuts.1 (pickOut_mem hsorted p.index)
  have hqes : q ∈ outputsOf t (portsIn es) := (outputsOf_sublist hf.initial).subset hq
  rw [← hqp] at hpick hlinks
  refine ⟨?_, ?_⟩
  · rintro ⟨q', hq', hidx, hlinks'⟩ part' hf'
    rw [← hf.unique hf']
    have hid : q'.id = q.id := by
      rw [hlinks] at hlinks'
      have := List.singleton_inj.1 hlinks'
      exact (Link.mk.inj this).2.1.symm
    have hqq : q' = q :=
      port_eq_of_id hreg.ids (List.mem_of_mem_filter hq') (List.mem_of_mem_filter hqes) hid
    exact hpick.1 (hqq ▸ hidx)
  · intro hin
    exact ⟨q, hqes, hpick.2 (hin part hf), hlinks⟩

/-- when every input is wired as it should be, the links are those between matching ports -/
theorem mem_links_iff (hreg : Registry t o n es) (h : LinkInv t o es g)
    (hwired : ∀ p ∈ inputsOf o (portsIn es), WiredTo t o n es g.links p) (link : Link) :
    link ∈ g.links ↔ ∃ p ∈ inputsOf o (portsIn es), ∃ q ∈ outputsOf t (portsIn es),
      q.index.toNat = min p.index.toNat (n - 1) ∧ link = ⟨t, q.id, o, p.id⟩ := by
  refine ⟨?_, ?_⟩
  · intro hlink
    obtain ⟨p, part, hf, heq⟩ := h.origin link hlink
    have hp : p ∈ inputsOf o (portsIn es) := inputsOf_mono hf.initial hf.linkable.2
    obtain ⟨q, hq, hidx, hfilter⟩ := hwired p hp
    have hmem : link ∈ g.links.filter fun link => link.inputPort = p.id := by
      refine List.mem_filter.2 ⟨hlink, ?_⟩
      simp [heq]
    rw [hfilter] at hmem
    exact ⟨p, hp, q, hq, hidx, List.mem_singleton.1 hmem⟩
  · rintro ⟨p, hp, q, hq, hidx, rfl⟩
    obtain ⟨q', hq', hidx', hfilter⟩ := hwired p hp
    have hinj : ((outputsOf t (portsIn es)).map fun p => p.index.toNat).Nodup :=
      hreg.outputs.nodup_iff.2 List.nodup_range
    have hqq : q' = q := List.inj_on_of_nodup_map hinj hq' hq (hidx'.trans hidx.symm)
    subst hqq
    refine List.mem_of_mem_filter (p := fun link => link.inputPort = p.id) ?_
    rw [hfilter]
    exact List.mem_singleton_self _

theorem Registry.of_perm {es' : List GraphEvent} (h : Registry t o n es) (hperm : es'.Perm es) : Registry t o n es' where
  target := List.perm_singleton.1 (h.target ▸ hperm.filterMap _)
  ours := List.perm_singleton.1 (h.ours ▸ hperm.filterMap _)
  ids := ((hperm.filterMap _).map _).nodup_iff.2 h.ids
  outputs := (((hperm.filterMap _).filter _).map _).trans h.outputs
  pos := h.pos

/-- two orders that both wire every input as they should make the same links -/
theorem links_perm {es' : List GraphEvent} {g' : Graph} (hreg : Registry t o n es) (hperm : es'.Perm es)
    (h : LinkInv t o es g) (h' : LinkInv t o es' g')
    (hwired : ∀ p ∈ inputsOf o (portsIn es), WiredTo t o n es g.links p)
    (hwired' : ∀ p ∈ inputsOf o (portsIn es'), WiredTo t o n es' g'.links p) : g'.links.Perm g.links := by
  have hports : ∀ p, p ∈ portsIn es' ↔ p ∈ portsIn es := fun p => (hperm.filterMap _).mem_iff
  have hnodup : ∀ {es : List GraphEvent} {g : Graph}, LinkInv t o es g → g.links.Nodup := by
    intro es g h
    exact List.Nodup.of_map _ (h.linkedInputs ▸ h.once)
  refine (List.perm_ext_iff_of_nodup (hnodup h') (hnodup h)).2 fun link => ?_
  rw [mem_links_iff hreg h hwired, mem_links_iff (hreg.of_perm hperm) h' hwired']
  simp only [inputsOf, outputsOf, List.mem_filter, hports]

/-- Wiring. Whatever the order, every input port is linked exactly once; it is linked to the channel of its number, or
to the target's last one, exactly when it comes in time; and two orders in which all inputs do make the same links. -/
theorem wiring_iff (creates : Link → Bool) (hcreates : ∀ link, creates link = true) (want : String)
    (globals : List Global) (t o : UInt32) (n : ℕ) (hreg : Registry t o n (globals.filterMap (Global.decode want))) :
    let es := globals.filterMap (Global.decode want)
    let links := (Runs.run (Graph.onGlobal creates want) .empty globals).links
    (∀ p ∈ inputsOf o (portsIn es), (links.filter fun link => link.inputPort = p.id).length = 1) ∧
    ((∀ p ∈ inputsOf o (portsIn es), WiredTo t o n es links p) ↔ ∀ p ∈ inputsOf o (portsIn es), InTime t o n es p) ∧
    ∀ globals', globals'.Perm globals →
      let es' := globals'.filterMap (Global.decode want)
      (∀ p ∈ inputsOf o (portsIn es), InTime t o n es p) → (∀ p ∈ inputsOf o (portsIn es'), InTime t o n es' p) →
        (Runs.run (Graph.onGlobal creates want) .empty globals').links.Perm links := by
  have hinv : ∀ {globals : List Global}, Registry t o n (globals.filterMap (Global.decode want)) →
      LinkInv t o (globals.filterMap (Global.decode want))
        (Runs.run (Graph.onGlobal creates want) .empty globals) := by
    intro globals hreg
    rw [Graph.run_onGlobal]
    exact linkInv_run hcreates hreg.sole
  intro es links
  refine ⟨?_, ?_, ?_⟩
  · intro p hp
    obtain ⟨part, -, hlinks⟩ := link_of_input hreg (hinv hreg) hp
    simp only [links, hlinks, List.length_singleton]
  · exact forall₂_congr fun p hp => wiredTo_iff hreg (hinv hreg) hp
  · intro globals' hperm es' hin hin'
    have hpermEs : es'.Perm es := hperm.filterMap _
    have hreg' : Registry t o n es' := hreg.of_perm hpermEs
    exact links_perm hreg hpermEs (hinv hreg) (hinv hreg') (fun p hp => (wiredTo_iff hreg (hinv hreg) hp).2 (hin p hp))
      fun p hp => (wiredTo_iff hreg' (hinv hreg') hp).2 (hin' p hp)

end Delivery

/-! ### A stereo source -/

def nodeGlobal (id : UInt32) (name : String) : Global :=
  ⟨id, .node, some ((∅ : HashMap String String).insert "node.name" name)⟩

def portGlobal (id : UInt32) (node index direction : String) : Global :=
  ⟨id, .port, some ((((∅ : HashMap String String).insert "node.id" node).insert "port.id" index).insert
    "port.direction" direction)⟩

/-- the source's ports, then ours -/
def sourceFirst : List Global :=
  [nodeGlobal 10 "MumblingRadio", nodeGlobal 20 streamNodeName, portGlobal 11 "10" "0" "out",
    portGlobal 12 "10" "1" "out", portGlobal 21 "20" "0" "in", portGlobal 22 "20" "1" "in"]

/-- our second input is announced between the source's two outputs -/
def inputBetween : List Global :=
  [nodeGlobal 10 "MumblingRadio", nodeGlobal 20 streamNodeName, portGlobal 11 "10" "0" "out",
    portGlobal 22 "20" "1" "in", portGlobal 12 "10" "1" "out", portGlobal 21 "20" "0" "in"]

instance (t o : UInt32) (n : ℕ) (es : List GraphEvent) (links : List Link) (p : Port) :
    Decidable (WiredTo t o n es links p) :=
  inferInstanceAs (Decidable (∃ q ∈ outputsOf t (portsIn es), _ ∧ _))

theorem registry_sourceFirst : Registry 10 20 2 (sourceFirst.filterMap (Global.decode "MumblingRadio")) where
  target := by decide
  ours := by decide
  ids := by decide
  outputs := by decide
  pos := by decide

/-- with the source's ports known first, both inputs come in time -/
theorem wiring_iff_sourceFirst :
    Registry 10 20 2 (sourceFirst.filterMap (Global.decode "MumblingRadio")) ∧
    ∀ p ∈ inputsOf 20 (portsIn (sourceFirst.filterMap (Global.decode "MumblingRadio"))),
      InTime 10 20 2 (sourceFirst.filterMap (Global.decode "MumblingRadio")) p := by
  refine ⟨registry_sourceFirst, ?_⟩
  exact (wiring_iff (fun _ => true) (fun _ => rfl) "MumblingRadio" sourceFirst 10 20 2 registry_sourceFirst).2.1.1
    (by decide)

/-- the same globals in another order: our second input stays linked to the source's first channel -/
theorem input_linked_to_wrong_channel :
    inputBetween.Perm sourceFirst ∧
    Registry 10 20 2 (inputBetween.filterMap (Global.decode "MumblingRadio")) ∧
    ¬∀ p ∈ inputsOf 20 (portsIn (inputBetween.filterMap (Global.decode "MumblingRadio"))),
      WiredTo 10 20 2 (inputBetween.filterMap (Global.decode "MumblingRadio"))
        (Runs.run (Graph.onGlobal (fun _ => true) "MumblingRadio") .empty inputBetween).links p := by
  have hperm : inputBetween.Perm sourceFirst := by
    unfold inputBetween sourceFirst
    refine List.Perm.cons _ (List.Perm.cons _ (List.Perm.cons _ ?_))
    exact (List.perm_append_singleton _ [_, _]).symm
  exact ⟨hperm, registry_sourceFirst.of_perm (hperm.filterMap _), by decide⟩

end MumbledFlight
